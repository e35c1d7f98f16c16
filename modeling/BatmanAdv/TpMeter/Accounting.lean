import BatmanAdv.TpMeter.Lifetime

set_option relaxedAutoImplicit false
set_option autoImplicit false

/-!
# The accounts of the sessions (`tp_meter.c`)

The references that are counted for a session are those of the list, of its timer, and of the
operations that the threads still have to execute.  This holds in every state of every run, and so
nobody has a session that is released, and `tp_num` counts the linked ones.

## Main definitions

* `Batadv.TpPriv.Inv` — what holds between two steps.
* `Batadv.TpAccounting` — who may hold a session that is released, and what `tp_num` counts.

## Main results

* `Batadv.TpPriv.Inv.exec` — every operation keeps the references counted.
* `Batadv.TpPriv.Inv.tpStopAll_eq` — all linked sessions are stopped.
* `Batadv.tp_session_accounting` — runs.
-/

namespace Batadv

/-! ### The node -/

/-- An operation is about an allocated session that has the role it is for. -/
def TpOp.Valid (s : TpPriv) (op : TpOp) : Prop :=
  ∀ p, op.vars = some p →
    ∃ v, s.vars[p]? = some v ∧ ∀ role, op.role = some role → v.role = role

/-- What the operations of all threads have for a session is what it counts. -/
def TpObject.Counted (s : TpPriv) (ops : List TpOp) (p : ℕ) (v : TpObject) : Prop :=
  v.Inv (p ∈ s.tpList) (Programs.tally TpOp.vars TpOp.refs p ops)
    (Programs.tally TpOp.vars TpOp.callbacks p ops)
    (Programs.tally TpOp.vars TpOp.inactivity p ops)
    (Programs.tally TpOp.vars TpOp.deletes p ops)

/-- What holds between two steps, where `ops` are the operations of all threads. -/
structure TpPriv.Inv (s : TpPriv) (ops : List TpOp) : Prop where
  valid : ∀ op ∈ ops, op.Valid s
  nodup : s.tpList.Nodup
  linked : ∀ p ∈ s.tpList, p < s.vars.length
  num : s.tpNum = s.tpList.length + ops.count .decNum
  max : s.tpNum ≤ TP_MAX_NUM
  senders : ∀ p ∈ s.tpList, ∀ q ∈ s.tpList, ∀ v w, s.vars[p]? = some v → s.vars[q]? = some w →
    v.role = .sender → w.role = .sender → v.otherEnd = w.otherEnd → p = q
  objects : ∀ p v, s.vars[p]? = some v → TpObject.Counted s ops p v

/-- Operations that are all about one session have nothing for another one. -/
lemma TpAbout.tally_of_ne {p q : ℕ} {v : TpObject} {ops : List TpOp} (h : TpAbout p v ops)
    (hne : p ≠ q) (w : TpOp → ℕ) : Programs.tally TpOp.vars w q ops = 0 :=
  Programs.tally_of_forall_ne fun op hop heq => hne (Option.some.inj ((h op hop).1.symm.trans heq))

/-- What operations that are all about one session have for it. -/
lemma TpAbout.tally_eq {p : ℕ} {v : TpObject} {ops : List TpOp} (h : TpAbout p v ops)
    (w : TpOp → ℕ) : Programs.tally TpOp.vars w p ops = (ops.map w).sum :=
  Programs.tally_of_forall_eq fun op hop => (h op hop).1

/-- They do not change `tp_num`. -/
lemma TpAbout.count_decNum {p : ℕ} {v : TpObject} {ops : List TpOp} (h : TpAbout p v ops) :
    ops.count .decNum = 0 :=
  List.count_eq_zero.2 fun hmem => nomatch (h _ hmem).1

/-- What is done to stop a session is about this session. -/
lemma tpStop_about (p : ℕ) {v : TpObject} {role : TpRole} (hrole : v.role = role) :
    TpAbout p v (tpStop p role) := by
  unfold TpAbout
  cases role with
  | sender => simp [tpStop, TpOp.vars, TpOp.role, hrole]
  | receiver => simp [tpStop, TpOp.vars, TpOp.role, hrole]

/-- The callback of the timer is about its session. -/
lemma tpCallback_about (p : ℕ) (v : TpObject) : TpAbout p v [.on p (tpCallback v.role)] := by
  unfold TpAbout
  cases hrole : v.role with
  | sender => simp [tpCallback, TpOp.vars, TpOp.role]
  | receiver => simp [tpCallback, TpOp.vars, TpOp.role]

/-- The timer fires. -/
lemma tpFire_keeps {linked : Prop} [Decidable linked] (p : ℕ) {v : TpObject}
    (hpending : v.pending = true) (hrunning : v.running = false) :
    TpKeeps linked linked [] [.on p (tpCallback v.role)] v
      { v with pending := false, running := true } := by
  intro refs callbacks inactivity deletes _ hinv
  have hold : v.Inv linked refs callbacks inactivity deletes := by simpa using hinv
  cases hrole : v.role with
  | sender =>
    simpa [tpCallback, TpOp.refs, TpOp.callbacks, TpOp.inactivity, TpOp.deletes, hrole, add_comm]
      using hold.fire_sender hrole hpending hrunning
  | receiver =>
    simpa [tpCallback, TpOp.refs, TpOp.callbacks, TpOp.inactivity, TpOp.deletes, hrole, add_comm]
      using hold.fire_receiver hrole hpending hrunning

/-- An operation of the callback for an inactive receiver is one of a callback. -/
lemma TpOp.inactivity_le_callbacks (op : TpOp) : op.inactivity ≤ op.callbacks := by
  cases op with
  | on p op =>
    cases op with
    | receiverShutdown => exact le_rfl
    | _ => exact Nat.zero_le _
  | _ => exact le_rfl

namespace TpPriv.Inv

variable {s : TpPriv} {old new l : List TpOp} {op : TpOp} {p : ℕ} {v v' : TpObject}

/-- The order of the operations does not matter. -/
lemma perm {l l' : List TpOp} (hl : l.Perm l') (h : s.Inv l) : s.Inv l' where
  valid op hop := h.valid op (hl.mem_iff.2 hop)
  nodup := h.nodup
  linked := h.linked
  num := by rw [← hl.count_eq]; exact h.num
  max := h.max
  senders := h.senders
  objects p v hp := by
    have hinv := h.objects p v hp
    unfold TpObject.Counted at hinv ⊢
    simp only [← Programs.tally_perm hl]
    exact hinv

/-- An operation that holds nothing has been executed. -/
lemma drop (h : s.Inv (op :: l)) (hrefs : op.refs = 0) (hcallbacks : op.callbacks = 0)
    (hinactivity : op.inactivity = 0) (hdeletes : op.deletes = 0) (hop : op ≠ .decNum) :
    s.Inv l where
  valid op hop := h.valid op (List.mem_cons_of_mem _ hop)
  nodup := h.nodup
  linked := h.linked
  num := by
    have hnum := h.num
    rwa [List.count_cons_of_ne hop] at hnum
  max := h.max
  senders := h.senders
  objects p v hp := by
    have hinv := h.objects p v hp
    unfold TpObject.Counted at hinv ⊢
    simpa [hrefs, hcallbacks, hinactivity, hdeletes] using hinv

/-- A thread begins with an operation that is about no session. -/
lemma begin (h : s.Inv l) (hvars : op.vars = none) (hop : op ≠ .decNum) : s.Inv (op :: l) where
  valid op' hop' := by
    rcases List.mem_cons.1 hop' with rfl | hop'
    · exact fun p hp => nomatch hvars.symm.trans hp
    · exact h.valid op' hop'
  nodup := h.nodup
  linked := h.linked
  num := by
    rw [List.count_cons_of_ne hop]
    exact h.num
  max := h.max
  senders := h.senders
  objects p v hp := by
    have hinv := h.objects p v hp
    unfold TpObject.Counted at hinv ⊢
    simpa [hvars] using hinv

/-- **The references of one session have changed**, and it may have been unlinked. -/
theorem setVars_list (h : s.Inv (old ++ l)) (hp : s.vars[p]? = some v) (hold : TpAbout p v old)
    (hnew : TpAbout p v new) (hrole : v'.role = v.role) (hend : v'.otherEnd = v.otherEnd)
    {tpList : List ℕ} (hsub : tpList.Sublist s.tpList)
    (hmem : ∀ q, q ≠ p → (q ∈ s.tpList ↔ q ∈ tpList)) {n : ℕ}
    (hlen : s.tpList.length = tpList.length + n)
    (hkeeps : TpKeeps (p ∈ s.tpList) (p ∈ tpList) old new v v') :
    ({ s.setVars p v' with tpList := tpList } : TpPriv).Inv
      (List.replicate n .decNum ++ (new ++ l)) := by
  -- the sessions after the change
  have hget (q : ℕ) : (s.vars.set p v')[q]? = if p = q then some v' else s.vars[q]? := by
    obtain ⟨hlt, -⟩ := List.getElem?_eq_some_iff.1 hp
    rw [List.getElem?_set]
    split_ifs <;> rfl
  have hback {q : ℕ} {w' : TpObject} (hw' : (s.vars.set p v')[q]? = some w') :
      ∃ w, s.vars[q]? = some w ∧ w'.role = w.role ∧ w'.otherEnd = w.otherEnd := by
    rw [hget] at hw'
    split_ifs at hw' with hpq
    · cases hw'
      exact ⟨v, hpq ▸ hp, hrole, hend⟩
    · exact ⟨w', hw', rfl, rfl⟩
  have hself (role : TpRole) (hv : v.role = role) : v'.role = role := hrole.trans hv
  have hdec (f : TpOp → ℕ) (q : ℕ) :
      Programs.tally TpOp.vars f q (List.replicate n .decNum) = 0 := by
    refine Programs.tally_of_forall_ne fun op hop => ?_
    rw [List.eq_of_mem_replicate hop]
    exact nofun
  refine ⟨?_, h.nodup.sublist hsub, ?_, ?_, h.max, ?_, ?_⟩
  · intro op hop q hq
    rcases List.mem_append.1 hop with hop | hop
    · rw [List.eq_of_mem_replicate hop] at hq
      cases hq
    rcases List.mem_append.1 hop with hop | hop
    · obtain ⟨hvars, hrole'⟩ := hnew op hop
      cases hvars.symm.trans hq
      exact ⟨v', (hget p).trans (if_pos rfl), fun role hr => hself role (hrole' role hr)⟩
    · obtain ⟨w, hw, hrole'⟩ := h.valid op (List.mem_append_right _ hop) q hq
      by_cases hpq : p = q
      · subst hpq
        cases hp.symm.trans hw
        exact ⟨v', (hget p).trans (if_pos rfl), fun role hr => hself role (hrole' role hr)⟩
      · exact ⟨w, (hget q).trans (by rw [if_neg hpq, hw]), hrole'⟩
  · intro q hq
    rw [TpPriv.setVars, List.length_set]
    exact h.linked q (hsub.subset hq)
  · have hnum := h.num
    rw [List.count_append, hold.count_decNum] at hnum
    rw [List.count_append, List.count_append, hnew.count_decNum, List.count_replicate_self]
    change s.tpNum = (tpList.length : ℤ) + _
    omega
  · intro q hq r hr w x hw hx hsender hsender' heq
    obtain ⟨w', hw', hwrole, hwend⟩ := hback hw
    obtain ⟨x', hx', hxrole, hxend⟩ := hback hx
    exact h.senders q (hsub.subset hq) r (hsub.subset hr) w' x' hw' hx' (hwrole ▸ hsender)
      (hxrole ▸ hsender') (hwend ▸ hxend ▸ heq)
  · intro q w hw
    change (s.vars.set p v')[q]? = some w at hw
    rw [hget] at hw
    unfold TpObject.Counted
    by_cases hpq : p = q
    · subst hpq
      rw [if_pos rfl] at hw
      cases hw
      have hinv := h.objects p v hp
      unfold TpObject.Counted at hinv
      simp only [Programs.tally_append, hdec, hold.tally_eq, hnew.tally_eq, Nat.zero_add]
        at hinv ⊢
      exact hkeeps _ _ _ _ (Programs.tally_mono TpOp.inactivity_le_callbacks l) hinv
    · rw [if_neg hpq] at hw
      have hinv := (h.objects q w hw).of_iff (hmem q (Ne.symm hpq))
      simp only [Programs.tally_append, hdec, hold.tally_of_ne hpq, hnew.tally_of_ne hpq,
        Nat.zero_add] at hinv ⊢
      exact hinv

/-- The references of one session have changed, which stays where it is. -/
lemma setVars (h : s.Inv (old ++ l)) (hp : s.vars[p]? = some v) (hold : TpAbout p v old)
    (hnew : TpAbout p v new) (hrole : v'.role = v.role) (hend : v'.otherEnd = v.otherEnd)
    (hkeeps : TpKeeps (p ∈ s.tpList) (p ∈ s.tpList) old new v v') :
    (s.setVars p v').Inv (new ++ l) :=
  h.setVars_list hp hold hnew hrole hend (List.Sublist.refl _) (fun _ _ => Iff.rfl) (n := 0) rfl
    hkeeps

/-- The session that a reference is taken to. -/
lemma get_eq_setVars (hp : s.vars[p]? = some v) : s.get p = s.setVars p (tpVarsGet v) := by
  rw [TpPriv.get, TpPriv.setVars, List.modify_eq_set_getElem?, hp]
  rfl

/-- A reference to a linked session is taken, and what follows is going to drop it. -/
lemma get (h : s.Inv l) (hlinked : p ∈ s.tpList) (hp : s.vars[p]? = some v) (hnew : TpAbout p v new)
    (hrefs : (new.map TpOp.refs).sum = 1) (hcallbacks : (new.map TpOp.callbacks).sum = 0)
    (hinactivity : (new.map TpOp.inactivity).sum = 0) : (s.get p).Inv (new ++ l) := by
  rw [get_eq_setVars hp]
  have hnone : TpAbout p v [] := fun op hop => absurd hop List.not_mem_nil
  refine @setVars s [] new l p v (tpVarsGet v) h hp hnone hnew rfl rfl ?_
  intro refs callbacks inactivity deletes _ hinv
  have hinv : v.Inv (p ∈ s.tpList) refs callbacks inactivity deletes := by simpa using hinv
  have hget := hinv.get (Or.inl hlinked)
  rw [hrefs, hcallbacks, hinactivity, Nat.zero_add, Nat.zero_add, Nat.add_comm]
  exact ⟨hget.refcount, hget.released, hget.unlinked, hget.running, hget.fired, hget.shutdown,
    fun hsender htimer => Nat.add_pos_right _ (hget.timer hsender htimer)⟩

/-- A session that is found is linked. -/
lemma get_put (h : s.Inv l) (hlinked : p ∈ s.tpList) : (s.get p).Inv ([.on p .put] ++ l) := by
  have hlt := h.linked p hlinked
  refine h.get hlinked (List.getElem?_eq_getElem hlt) (fun op hop => ?_) rfl rfl rfl
  rw [List.mem_singleton.1 hop]
  exact ⟨rfl, nofun⟩

/-- **A new session**, whose references are those of the list, of the timer and of the caller. -/
theorem insert (h : s.Inv l) (hnum : s.tpNum ≠ TP_MAX_NUM) (hnew : TpAbout s.vars.length v new)
    (hv : v.Inv True (new.map TpOp.refs).sum (new.map TpOp.callbacks).sum
      (new.map TpOp.inactivity).sum (new.map TpOp.deletes).sum)
    (hsender : v.role = .sender → ∀ p ∈ s.tpList, ∀ w, s.vars[p]? = some w →
      w.otherEnd ≠ v.otherEnd) : (s.insert v).Inv (new ++ l) := by
  have hold {q : ℕ} (hq : q < s.vars.length) : (s.vars ++ [v])[q]? = s.vars[q]? :=
    List.getElem?_append_left hq
  have hfresh {q : ℕ} (hq : q ∈ s.tpList) : q ≠ s.vars.length := (h.linked q hq).ne
  have hback {q : ℕ} {w : TpObject} (hw : (s.vars ++ [v])[q]? = some w) :
      s.vars[q]? = some w ∧ q ≠ s.vars.length ∨ w = v ∧ q = s.vars.length := by
    rw [List.getElem?_append] at hw
    split_ifs at hw with hq
    · exact Or.inl ⟨hw, hq.ne⟩
    · rw [List.getElem?_singleton] at hw
      split_ifs at hw with hzero
      exact Or.inr ⟨(Option.some.inj hw).symm, by omega⟩
  refine ⟨?_, ?_, ?_, ?_, ?_, ?_, ?_⟩
  · intro op hop q hq
    rcases List.mem_append.1 hop with hop | hop
    · obtain ⟨hvars, hrole⟩ := hnew op hop
      cases hvars.symm.trans hq
      exact ⟨v, List.getElem?_concat_length, hrole⟩
    · obtain ⟨w, hw, hrole⟩ := h.valid op hop q hq
      obtain ⟨hlt, -⟩ := List.getElem?_eq_some_iff.1 hw
      exact ⟨w, (hold hlt).trans hw, hrole⟩
  · exact List.nodup_cons.2 ⟨fun hmem => hfresh hmem rfl, h.nodup⟩
  · intro q hq
    rw [TpPriv.insert, List.length_append, List.length_singleton]
    rcases List.mem_cons.1 hq with rfl | hq
    · exact Nat.lt_succ_self _
    · exact Nat.lt_succ_of_lt (h.linked q hq)
  · have hcount := h.num
    rw [List.count_append, hnew.count_decNum]
    change s.tpNum + 1 = ((s.tpList.length + 1 : ℕ) : ℤ) + _
    push_cast
    omega
  · have hmax := h.max
    change s.tpNum + 1 ≤ _
    omega
  · intro q hq r hr w x hw hx hwrole hxrole heq
    have hmem {q : ℕ} (hq : q ∈ (s.insert v).tpList) (hne : q ≠ s.vars.length) : q ∈ s.tpList :=
      (List.mem_cons.1 hq).resolve_left hne
    rcases hback hw with ⟨hwold, hne⟩ | ⟨hwnew, hqnew⟩
    · rcases hback hx with ⟨hxold, hne'⟩ | ⟨hxnew, -⟩
      · exact h.senders q (hmem hq hne) r (hmem hr hne') w x hwold hxold hwrole hxrole heq
      · exact absurd (hxnew ▸ heq) (hsender (hxnew ▸ hxrole) q (hmem hq hne) w hwold)
    · rcases hback hx with ⟨hxold, hne'⟩ | ⟨-, hrnew⟩
      · exact absurd (hwnew ▸ heq.symm) (hsender (hwnew ▸ hwrole) r (hmem hr hne') x hxold)
      · exact hqnew.trans hrnew.symm
  · intro q w hw
    unfold TpObject.Counted
    rcases hback hw with ⟨hw, hne⟩ | ⟨rfl, rfl⟩
    · have hlinked : q ∈ s.tpList ↔ q ∈ (s.insert v).tpList :=
        (List.mem_cons.trans (or_iff_right hne)).symm
      have hinv := (h.objects q w hw).of_iff hlinked
      simp only [Programs.tally_append, hnew.tally_of_ne hne.symm, Nat.zero_add]
      exact hinv
    · -- no other operation is about a session that is allocated only now
      have hnone (f : TpOp → ℕ) : Programs.tally TpOp.vars f s.vars.length l = 0 := by
        refine Programs.tally_of_forall_ne fun op hop heq => ?_
        obtain ⟨w', hw', -⟩ := h.valid op hop _ heq
        rw [List.getElem?_eq_none le_rfl] at hw'
        cases hw'
      simp only [Programs.tally_append, hnew.tally_eq, hnone, Nat.add_zero]
      exact hv.of_iff (iff_of_true trivial List.mem_cons_self)

/-- The session is taken from the list, and the reference of the list is dropped later. -/
theorem detach (h : s.Inv (.detach p :: l)) (hp : s.vars[p]? = some v) (hlinked : p ∈ s.tpList) :
    ({ s.setVars p { v with unlinked := v.unlinked + 1 } with
      tpList := s.tpList.erase p } : TpPriv).Inv ([.decNum, .on p .put] ++ l) := by
  have hgone : p ∉ s.tpList.erase p := h.nodup.not_mem_erase
  have hlen : s.tpList.length = (s.tpList.erase p).length + 1 :=
    (List.length_erase_add_one hlinked).symm
  refine @setVars_list s [.detach p] [.on p .put] l p v { v with unlinked := v.unlinked + 1 } h hp
    (fun op hop => ?_) (fun op hop => ?_) rfl rfl _ List.erase_sublist
    (fun q hne => (List.mem_erase_of_ne hne).symm) 1 hlen ?_
  · rw [List.mem_singleton.1 hop]
    exact ⟨rfl, nofun⟩
  · rw [List.mem_singleton.1 hop]
    exact ⟨rfl, nofun⟩
  · intro refs callbacks inactivity deletes _ hinv
    have hrefs := hinv.refcount
    have hunlinked := hinv.unlinked
    have hbefore : tpListRef (p ∈ s.tpList) = 1 := if_pos hlinked
    have hafter : tpListRef (p ∈ s.tpList.erase p) = 0 := if_neg hgone
    refine ⟨?_, hinv.released, ?_, hinv.running, hinv.fired, hinv.shutdown, hinv.timer⟩
    · change v.refcount = (_ + v.timerRef + (1 + refs) : ℕ)
      change v.refcount = (_ + v.timerRef + (0 + refs) : ℕ) at hrefs
      omega
    · change v.unlinked + 1 + _ = 1
      omega

/-- `tp_num` is decremented. -/
lemma decNum (h : s.Inv (.decNum :: l)) : ({ s with tpNum := s.tpNum - 1 } : TpPriv).Inv l where
  valid op hop := h.valid op (List.mem_cons_of_mem _ hop)
  nodup := h.nodup
  linked := h.linked
  num := by
    have hnum := h.num
    rw [List.count_cons_self] at hnum
    push_cast at hnum
    change s.tpNum - 1 = (s.tpList.length : ℤ) + _
    omega
  max := by
    have hmax := h.max
    change s.tpNum - 1 ≤ _
    omega
  senders := h.senders
  objects p v hp := by
    have hinv := h.objects p v hp
    unfold TpObject.Counted at hinv ⊢
    simpa [TpOp.vars] using hinv

/-- A section of the lock that looks a session up, or adds one. -/
lemma findOrAdd {input : TpOpInput} {found : ℕ → Bool} (h : s.Inv l)
    (hnew : TpAbout s.vars.length v new)
    (hv : v.Inv True (new.map TpOp.refs).sum (new.map TpOp.callbacks).sum
      (new.map TpOp.inactivity).sum (new.map TpOp.deletes).sum)
    (hsender : s.tpList.find? found = none → v.role = .sender → ∀ p ∈ s.tpList, ∀ w,
      s.vars[p]? = some w → w.otherEnd ≠ v.otherEnd) :
    (tpFindOrAdd input s (s.tpList.find? found) v new).1.Inv
      ((tpFindOrAdd input s (s.tpList.find? found) v new).2 ++ l) := by
  unfold tpFindOrAdd
  cases input.meshActive with
  | false => exact h
  | true =>
    cases hfound : s.tpList.find? found with
    | some p => exact h.get_put (List.mem_of_find?_eq_some hfound)
    | none =>
      simp only [Bool.not_true, Bool.false_eq_true, if_false]
      split_ifs with hfull
      · exact h
      · rw [Bool.or_eq_true, not_or] at hfull
        exact h.insert (by simpa using hfull.1) hnew hv (hsender hfound)

/-- References to some of the linked sessions are taken. -/
lemma getAll {ps : List ℕ} (h : s.Inv l) (hps : ∀ p ∈ ps, p ∈ s.tpList) :
    (ps.foldl TpPriv.get s).Inv (ps.flatMap (tpStopAt s) ++ l) := by
  induction ps generalizing s l with
  | nil => exact h
  | cons p ps ih =>
    have hlinked := hps p List.mem_cons_self
    obtain ⟨v, hp⟩ : ∃ v, s.vars[p]? = some v := ⟨_, List.getElem?_eq_getElem (h.linked p hlinked)⟩
    have hstop : tpStopAt (s.get p) = tpStopAt s := by
      funext q
      unfold tpStopAt TpPriv.get
      rw [List.getElem?_modify]
      cases s.vars[q]? with
      | none => rfl
      | some w =>
        change tpStop q (if p = q then tpVarsGet w else w).role = tpStop q w.role
        split_ifs <;> rfl
    have hfirst : (s.get p).Inv (tpStopAt s p ++ l) := by
      have hat : tpStopAt s p = tpStop p v.role := by
        rw [tpStopAt, hp]
        rfl
      rw [hat]
      refine h.get hlinked hp (tpStop_about p rfl) ?_ ?_ ?_
      all_goals cases v.role <;> rfl
    have hrest := ih hfirst fun q hq => hps q (List.mem_cons_of_mem _ hq)
    rw [hstop] at hrest
    refine hrest.perm ?_
    rw [List.flatMap_cons, ← List.append_assoc]
    exact List.Perm.append_right _ List.perm_append_comm

/-- A new session: the references of the list, the timer and the caller are counted. -/
lemma tpVarsNew_inv {role : TpRole} {otherEnd : EthAddr} {session : U16} {pending : Bool}
    {refs deletes : ℕ} (hrefs : (tpVarsNew role otherEnd session pending).timerRef + refs = 2)
    (hpending : role = .sender → pending = false) :
    (tpVarsNew role otherEnd session pending).Inv True refs 0 0 deletes where
  refcount := by
    change (3 : ℤ) = (1 + (tpVarsNew role otherEnd session pending).timerRef + refs : ℕ)
    omega
  released := rfl
  unlinked := rfl
  running := rfl
  fired hpos := absurd hpos (Nat.lt_irrefl 0)
  shutdown hshutdown := Bool.noConfusion hshutdown
  timer hrole hactive := by
    rcases hactive with hactive | hrunning
    · exact Bool.noConfusion ((hpending hrole).symm.trans hactive)
    · exact Bool.noConfusion hrunning

/-- **Every operation keeps the references counted.** -/
theorem exec {input : TpOpInput} {o : Programs.Outcome TpPriv TpOp} (h : s.Inv (op :: l))
    (ho : tpExec input s op = some o) : o.shared.Inv (o.now ++ (o.spawned.flatten ++ l)) := by
  cases op with
  | start dst session =>
    cases ho
    have hl := h.drop rfl rfl rfl rfl (by simp)
    refine hl.findOrAdd ?_ (tpVarsNew_inv rfl fun _ => rfl) ?_
    · simp [TpAbout, TpOp.vars, TpOp.role, tpVarsNew]
    · intro hnone _ p hp w hw heq
      -- the session would have been found
      have hpos := (h.objects p w hw).refcount_pos (Or.inl hp)
      have hdead := List.find?_eq_none.1 hnone p hp
      rw [TpPriv.alive, hw] at hdead
      simp [heq, tpVarsNew, hpos.ne'] at hdead
  | initRecv orig session =>
    cases ho
    have hl := h.drop rfl rfl rfl rfl (by simp)
    refine hl.findOrAdd ?_ (tpVarsNew_inv rfl (by simp)) ?_
    · simp [TpAbout, TpOp.vars, TpOp.role]
    · intro _ hsender
      cases hsender
  | fire p =>
    have hl := h.drop rfl rfl rfl rfl (by simp)
    rw [tpExec] at ho
    cases hp : s.vars[p]? with
    | none =>
      rw [hp] at ho
      cases ho
      exact hl
    | some v =>
      rw [hp] at ho
      dsimp only at ho
      split_ifs at ho with hfires
      · cases ho
        rw [Bool.and_eq_true, Bool.not_eq_true'] at hfires
        exact @setVars s [] _ l p v _ hl hp (fun op hop => absurd hop List.not_mem_nil)
          (tpCallback_about p v) rfl rfl (tpFire_keeps p hfires.1 hfires.2)
      · cases ho
        exact hl
  | stopAll =>
    cases ho
    have hl := h.drop rfl rfl rfl rfl (by simp)
    refine hl.getAll fun p hp => ?_
    exact (List.mem_filter.1 (List.mem_of_mem_take hp)).1
  | detach p =>
    have hl := h.drop rfl rfl rfl rfl (by simp)
    rw [tpExec] at ho
    cases hp : s.vars[p]? with
    | none =>
      rw [hp] at ho
      cases ho
      exact hl
    | some v =>
      rw [hp] at ho
      dsimp only at ho
      split_ifs at ho with hlinked
      · cases ho
        exact h.detach hp hlinked
      · cases ho
        exact hl
  | decNum =>
    cases ho
    exact h.decNum
  | on p op =>
    obtain ⟨v, hp, hrole⟩ := h.valid _ List.mem_cons_self p rfl
    rw [tpExec, hp] at ho
    obtain ⟨⟨v', now, spawned⟩, hexec, rfl⟩ := Option.map_eq_some_iff.1 ho
    obtain ⟨habout, hrole', hend⟩ := tpVarsExec_about hrole hexec
    have hself : TpAbout p v [.on p op] := by
      intro op' hop
      rw [List.mem_singleton.1 hop]
      exact ⟨rfl, hrole⟩
    rw [← List.append_assoc]
    exact @setVars s [.on p op] _ l p v v' h hp hself habout hrole' hend
      (tpVarsExec_keeps hrole hexec)

/-- **All linked sessions are stopped** by `batadv_tp_stop_all`: there are not more than it has room
for, and a reference can be taken to each of them. -/
theorem tpStopAll_eq (h : s.Inv l) : tpStopAll s = s.tpList := by
  have halive : ∀ p ∈ s.tpList, s.alive p (fun _ => true) = true := by
    intro p hp
    have hget := List.getElem?_eq_getElem (h.linked p hp)
    have hpos := (h.objects p _ hget).refcount_pos (Or.inl hp)
    rw [TpPriv.alive, hget]
    simp [hpos.ne']
  have hnum := h.num
  have hmax := h.max
  rw [tpStopAll, List.filter_eq_self.2 halive]
  exact List.take_of_length_le (by omega)

end TpPriv.Inv

/-! ### Runs -/

/-- A program that never touches a session after its thread has dropped the last reference. -/
def TpCovered (prog : List TpOp) : Prop := Programs.Covered TpOp.vars TpOp.refs TpOp.needs prog

/-- What replaces an operation is covered. -/
lemma tpExec_covered {input : TpOpInput} {s : TpPriv} {op : TpOp}
    {o : Programs.Outcome TpPriv TpOp} (h : tpExec input s op = some o) :
    TpCovered o.now ∧ ∀ prog ∈ o.spawned, TpCovered prog := by
  have hnone (now : List TpOp) (hnow : TpCovered now) :
      TpCovered now ∧ ∀ prog ∈ ([] : List (List TpOp)), TpCovered prog :=
    ⟨hnow, fun prog hprog => absurd hprog List.not_mem_nil⟩
  have hfind (found : Option ℕ) (v : TpObject) (now : List TpOp) (hnow : TpCovered now) :
      TpCovered (tpFindOrAdd input s found v now).2 := by
    unfold tpFindOrAdd
    cases found with
    | some p =>
      dsimp only
      split_ifs
      · trivial
      · simp [TpCovered, Programs.Covered, TpOp.vars, TpOp.needs, TpOp.refs]
    | none =>
      dsimp only
      split_ifs
      · trivial
      · trivial
      · exact hnow
  cases op with
  | start dst session =>
    cases h
    refine hnone _ (hfind _ _ _ ?_)
    simp [TpCovered, Programs.Covered, TpOp.vars, TpOp.needs, TpOp.refs]
  | initRecv orig session =>
    cases h
    refine hnone _ (hfind _ _ _ ?_)
    simp [TpCovered, Programs.Covered, TpOp.vars, TpOp.needs, TpOp.refs]
  | fire p =>
    rw [tpExec] at h
    cases hp : s.vars[p]? with
    | none =>
      rw [hp] at h
      cases h
      exact hnone _ trivial
    | some v =>
      rw [hp] at h
      dsimp only at h
      split_ifs at h
      · cases h
        refine hnone _ ?_
        cases v.role with
        | sender =>
          simp [TpCovered, Programs.Covered, tpCallback, TpOp.needs]
        | receiver =>
          simp [TpCovered, Programs.Covered, tpCallback, TpOp.vars, TpOp.needs, TpOp.refs]
      · cases h
        exact hnone _ trivial
  | stopAll =>
    cases h
    refine hnone _ ?_
    induction tpStopAll s with
    | nil => trivial
    | cons p ps ih =>
      refine Programs.Covered.append ?_ ih
      unfold tpStopAt
      cases s.vars[p]? with
      | none => trivial
      | some v =>
        cases hrole : v.role with
        | sender =>
          simp [tpStop, hrole, Programs.Covered, TpOp.vars, TpOp.needs, TpOp.refs]
        | receiver =>
          simp [tpStop, hrole, Programs.Covered, TpOp.vars, TpOp.needs, TpOp.refs]
  | detach p =>
    rw [tpExec] at h
    cases hp : s.vars[p]? with
    | none =>
      rw [hp] at h
      cases h
      exact hnone _ trivial
    | some v =>
      rw [hp] at h
      dsimp only at h
      split_ifs at h
      · cases h
        refine hnone _ ?_
        simp [TpCovered, Programs.Covered, TpOp.vars, TpOp.needs, TpOp.refs]
      · cases h
        exact hnone _ trivial
  | decNum =>
    cases h
    exact hnone _ trivial
  | on p op =>
    rw [tpExec] at h
    cases hp : s.vars[p]? with
    | none =>
      rw [hp] at h
      cases h
      exact hnone _ trivial
    | some v =>
      rw [hp] at h
      obtain ⟨⟨v', now, spawned⟩, hexec, rfl⟩ := Option.map_eq_some_iff.1 h
      cases op
      all_goals
        rw [tpVarsExec] at hexec
        try split_ifs at hexec
      all_goals
        cases hexec
        simp [TpCovered, Programs.Covered, TpOp.vars, TpOp.needs, TpOp.refs, tpSendOut,
          tpSenderCleanup]

/-- A thread is about to use a session: it has an operation for it that is not the mere end of a
callback. -/
def TpUses (p : ℕ) (prog : List TpOp) : Prop :=
  ∃ op ∈ prog, op.vars = some p ∧ op ≠ .on p .callbackReturn

/-- No operation is in progress: the only threads are those of senders that are in their loop. -/
def TpIdle (s : TpState) : Prop := ∀ prog ∈ s.threads, ∃ p, prog = [.on p .send]

/-- **The accounts of the sessions.**  Every session is unlinked at most once, and released at most
once, namely when its reference count becomes zero; and this is so exactly when it is not linked,
its timer is not pending, and no thread is about to use it.  There are at most `TP_MAX_NUM`
sessions, `tp_num` counts those that are linked and those for which a thread is about to decrement
it, and no two linked sessions of senders have the same other end. -/
structure TpAccounting (s : TpState) : Prop where
  unlinked : ∀ p v, s.shared.vars[p]? = some v →
    v.unlinked ≤ 1 ∧ (v.unlinked = 0 ↔ p ∈ s.shared.tpList)
  released : ∀ p v, s.shared.vars[p]? = some v →
    0 ≤ v.refcount ∧ v.released ≤ 1 ∧ (v.released = 1 ↔ v.refcount = 0) ∧
      (v.refcount = 0 ↔ p ∉ s.shared.tpList ∧ v.pending = false ∧
        ∀ prog ∈ s.threads, ¬ TpUses p prog)
  max : s.shared.tpNum ≤ TP_MAX_NUM
  num : s.shared.tpNum = s.shared.tpList.length + s.threads.flatten.count .decNum
  idle : TpIdle s → s.shared.tpNum = s.shared.tpList.length
  senders : ∀ p ∈ s.shared.tpList, ∀ q ∈ s.shared.tpList, ∀ v w,
    s.shared.vars[p]? = some v → s.shared.vars[q]? = some w →
      v.role = .sender → w.role = .sender → v.otherEnd = w.otherEnd → p = q

/-- An operation that leads to the deletion of a timer needs the session. -/
lemma TpOp.needs_of_deletes {op : TpOp} (h : 0 < op.deletes) : op.needs = true := by
  cases op with
  | on p op =>
    cases op with
    | sendInit | send | timerDeleteSync => rfl
    | _ => exact absurd h (Nat.lt_irrefl 0)
  | _ => exact absurd h (Nat.lt_irrefl 0)

/-- Only the callback of a sender's timer uses a session without a reference of its own. -/
lemma TpOp.eq_senderTimeout {op : TpOp} {p : ℕ} (hvars : op.vars = some p)
    (hneeds : op.needs = false) (hne : op ≠ .on p .callbackReturn) : op = .on p .senderTimeout := by
  cases op with
  | on q op =>
    cases hvars
    cases op with
    | senderTimeout => rfl
    | callbackReturn => exact absurd rfl hne
    | _ => cases hneeds
  | detach q => cases hneeds
  | _ => cases hvars

/-- A thread that needs a session has a reference to it. -/
lemma tally_refs_pos {threads : List (List TpOp)} (hcovered : ∀ prog ∈ threads, TpCovered prog)
    {op : TpOp} (hop : op ∈ threads.flatten) (hneeds : op.needs = true) {p : ℕ}
    (hvars : op.vars = some p) : 0 < Programs.tally TpOp.vars TpOp.refs p threads.flatten := by
  obtain ⟨prog, hprog, hmem⟩ := List.mem_flatten.1 hop
  obtain ⟨op', hop', hvars', hrefs⟩ :=
    Programs.tally_pos_iff.1 ((hcovered prog hprog).tally_pos hmem hneeds hvars)
  exact Programs.tally_pos_iff.2 ⟨op', List.mem_flatten.2 ⟨prog, hprog, hop'⟩, hvars', hrefs⟩

/-- The accounts follow from the invariant. -/
theorem TpPriv.Inv.accounting {s : TpState} (h : s.shared.Inv s.threads.flatten)
    (hcovered : ∀ prog ∈ s.threads, TpCovered prog) : TpAccounting s := by
  refine ⟨fun p v hp => ?_, fun p v hp => ?_, h.max, h.num, fun hidle => ?_, h.senders⟩
  · have hunlinked := (h.objects p v hp).unlinked
    unfold tpListRef at hunlinked
    split_ifs at hunlinked with hlinked
    · exact ⟨by omega, iff_of_true (by omega) hlinked⟩
    · exact ⟨by omega, iff_of_false (by omega) hlinked⟩
  · have hinv := h.objects p v hp
    have hcount := hinv.refcount
    have hreleased := hinv.released
    refine ⟨by omega, ?_, ?_, fun hzero => ?_, fun ⟨hlinked, hpending, hunused⟩ => ?_⟩
    · split_ifs at hreleased <;> omega
    · split_ifs at hreleased <;> omega
    · have hrefs : Programs.tally TpOp.vars TpOp.refs p s.threads.flatten = 0 := by omega
      have hunneeded {op : TpOp} (hop : op ∈ s.threads.flatten) (hvars : op.vars = some p) :
          op.needs = false := by
        by_contra hneeds
        exact (tally_refs_pos hcovered hop (by simpa using hneeds) hvars).ne' hrefs
      -- nobody would delete the timer of a sender
      have hdeletes : Programs.tally TpOp.vars TpOp.deletes p s.threads.flatten = 0 := by
        by_contra hne
        obtain ⟨op, hop, hvars, hpos⟩ := Programs.tally_pos_iff.1 (Nat.pos_of_ne_zero hne)
        exact Bool.false_ne_true ((hunneeded hop hvars).symm.trans (TpOp.needs_of_deletes hpos))
      refine ⟨fun hlinked => ?_, ?_, fun prog hprog => ?_⟩
      · exact (hinv.refcount_pos (Or.inl hlinked)).ne' hzero
      · by_contra hpending
        cases hrole : v.role with
        | sender =>
          have hpos := hinv.timer hrole (Or.inl (by simpa using hpending))
          omega
        | receiver =>
          have htimer := timerRef_of_receiver hrole (by simpa using hpending)
          omega
      · rintro ⟨op, hmem, hvars, hne⟩
        have hop : op ∈ s.threads.flatten := List.mem_flatten.2 ⟨prog, hprog, hmem⟩
        obtain rfl := TpOp.eq_senderTimeout hvars (hunneeded hop hvars) hne
        obtain ⟨w, hw, hrole⟩ := h.valid _ hop p rfl
        cases hp.symm.trans hw
        -- the callback of a sender's timer runs, which the thread is going to wait for
        have hcallbacks : 0 < Programs.tally TpOp.vars TpOp.callbacks p s.threads.flatten :=
          Programs.tally_pos_iff.2 ⟨_, hop, rfl, Nat.one_pos⟩
        have hrunning : v.running = true := by
          by_contra hnot
          exact hcallbacks.ne' (hinv.callbacks_eq_zero (by simpa using hnot))
        exact (hinv.timer (hrole .sender rfl) (Or.inr hrunning)).ne' hdeletes
    · -- an operation that is going to drop a reference uses the session
      have hrefs : Programs.tally TpOp.vars TpOp.refs p s.threads.flatten = 0 := by
        by_contra hne
        obtain ⟨op, hop, hvars, hpos⟩ := Programs.tally_pos_iff.1 (Nat.pos_of_ne_zero hne)
        obtain ⟨prog, hprog, hmem⟩ := List.mem_flatten.1 hop
        refine hunused prog hprog ⟨op, hmem, hvars, ?_⟩
        rintro rfl
        exact absurd hpos (Nat.lt_irrefl 0)
      have hlist : tpListRef (p ∈ s.shared.tpList) = 0 := if_neg hlinked
      rw [hrefs, hlist, timerRef_of_not_pending hpending] at hcount
      exact hcount
  · have hnone : s.threads.flatten.count .decNum = 0 := by
      refine List.count_eq_zero.2 fun hmem => ?_
      obtain ⟨prog, hprog, hmem⟩ := List.mem_flatten.1 hmem
      obtain ⟨p, rfl⟩ := hidle prog hprog
      cases List.mem_singleton.1 hmem
    rw [h.num, hnone]
    exact Int.add_zero _

/-- Where a thread begins, it has no reference. -/
lemma tpEntry_spec (e : TpEntry) : ∃ op, tpEntry e = [op] ∧ op.vars = none ∧ op ≠ .decNum := by
  cases e with
  | start dst session => exact ⟨_, rfl, rfl, nofun⟩
  | initRecv orig session => exact ⟨_, rfl, rfl, nofun⟩
  | fire p => exact ⟨_, rfl, rfl, nofun⟩
  | stopAll => exact ⟨_, rfl, rfl, nofun⟩

/-- **The accounts of the sessions** after all interleavings of sessions that are started and
stopped, of first segments, and of timers that fire. -/
theorem tp_session_accounting (es : List (Threads.Event TpEntry TpOpInput)) :
    TpAccounting (Run.final tpNext ⟨tpPrivInit, []⟩ es) := by
  have h0 : tpPrivInit.Inv [] :=
    ⟨nofun, List.nodup_nil, nofun, rfl, by decide, nofun, fun p v hp => by cases hp⟩
  have hentry (shared : TpPriv) (l : List TpOp) (e : TpEntry) (h : shared.Inv l) :
      shared.Inv (tpEntry e ++ l) := by
    obtain ⟨op, heq, hvars, hop⟩ := tpEntry_spec e
    rw [heq]
    exact h.begin hvars hop
  have hentryCovered (e : TpEntry) : TpCovered (tpEntry e) := by
    obtain ⟨op, heq, hvars, -⟩ := tpEntry_spec e
    rw [heq]
    exact ⟨fun _ p hp => absurd (hvars.symm.trans hp) nofun, trivial⟩
  obtain ⟨hinv, hcovered⟩ := Programs.forall_mem_states TpPriv.Inv TpCovered
    (fun shared l l' hl h => h.perm hl) (fun op l h => h.2)
    (fun l l' h h' => Programs.Covered.append h h') hentry hentryCovered
    (fun input shared op l o h ho => h.exec ho) (fun input shared op o ho => tpExec_covered ho)
    h0 es _ (Run.final_mem_states _ es)
  exact hinv.accounting hcovered

/-- No thread can be created for a sender: the session is unlinked and released once. -/
example :
    let s := Run.final tpNext ⟨tpPrivInit, []⟩ (.start (.start 1 7) ::
      List.replicate 13 (.run 0 ⟨true, true, false, true, true, true⟩))
    s.shared = ⟨[⟨.sender, 1, 7, 0, false, false, false, 1, 1, 1⟩], [], 0⟩ ∧ s.threads = [] := by
  decide

end Batadv
