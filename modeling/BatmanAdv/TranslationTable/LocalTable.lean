import BatmanAdv.TranslationTable.Local
import Mathlib.Tactic.Ring

set_option relaxedAutoImplicit false
set_option autoImplicit false

/-!
# What the functions of the local table do to its entries

Each function of the local translation table either rewrites the flags of some entries, adds one,
or removes some.  The results here say which, without looking at the changes that are stored on
the way.

## Main definitions

* `Batadv.TtLocal.Wf` — one entry for each client, and only in VLANs that there are.

## Main results

* `Batadv.ttLocalAdd_localHash_of_found`, `Batadv.ttLocalAdd_localHash_of_new`,
  `Batadv.ttLocalRemove_localHash_of_committed`, `Batadv.ttLocalRemove_localHash_of_new`,
  `Batadv.ttLocalPurge_localHash`, `Batadv.ttLocalCommitChanges_localHash`,
  `Batadv.ttResizeTurn_localHash` — the entries after a call.
* `Batadv.TtLocal.Wf.step` — every function keeps the table well formed.
-/

namespace Batadv

/-! ### What the functions do to the hash table -/

variable {msecsToJiffies : ℕ → Jiffies} {tt : TtLocal}

/-! ### Flags -/

/-- The dynamic flags leave the other flags alone. -/
lemma hasFlag_dynamicFlags (a : TtLocalAddArgs) {flag : U16} (hwifi : TT_CLIENT_WIFI &&& flag = 0)
    (hisola : TT_CLIENT_ISOLA &&& flag = 0) (flags : U16) :
    hasFlag (a.dynamicFlags flags) flag = hasFlag flags flag := by
  unfold TtLocalAddArgs.dynamicFlags
  dsimp only
  split_ifs
  · rw [hasFlag_or hisola, hasFlag_or hwifi]
  · rw [hasFlag_or hisola, hasFlag_and_not hwifi]
  · rw [hasFlag_and_not hisola, hasFlag_or hwifi]
  · rw [hasFlag_and_not hisola, hasFlag_and_not hwifi]

/-- The flags of a client that is in the table already when it is seen again. -/
def TtLocalAddArgs.flagsAgain (a : TtLocalAddArgs) (flags : U16) : U16 :=
  a.dynamicFlags (if hasFlag flags TT_CLIENT_PENDING then flags &&& ~~~TT_CLIENT_PENDING
    else flags &&& ~~~TT_CLIENT_ROAM)

/-- Seeing a client again does not make it `NEW`, nor takes that flag away. -/
lemma hasFlag_new_flagsAgain (a : TtLocalAddArgs) (flags : U16) :
    hasFlag (a.flagsAgain flags) TT_CLIENT_NEW = hasFlag flags TT_CLIENT_NEW := by
  unfold TtLocalAddArgs.flagsAgain
  rw [hasFlag_dynamicFlags a (by decide) (by decide)]
  split_ifs
  · exact hasFlag_and_not (by decide) flags
  · exact hasFlag_and_not (by decide) flags

/-- The flags of a client that is going to be removed. -/
def ttFlagsRemoved (roaming : Bool) (flags : U16) : U16 :=
  (if roaming then flags ||| TT_CLIENT_ROAM else flags) ||| TT_CLIENT_PENDING

/-- Removing a client leaves the flags alone that do not speak about it. -/
lemma hasFlag_ttFlagsRemoved (roaming : Bool) {flag : U16} (hroam : TT_CLIENT_ROAM &&& flag = 0)
    (hpending : TT_CLIENT_PENDING &&& flag = 0) (flags : U16) :
    hasFlag (ttFlagsRemoved roaming flags) flag = hasFlag flags flag := by
  unfold ttFlagsRemoved
  rw [hasFlag_or hpending]
  split_ifs
  · exact hasFlag_or hroam flags
  · rfl

/-- The flags of a new entry, but for those that depend on its interface and its address. -/
lemma hasFlag_ttLocalNewEntry (a : TtLocalAddArgs) {flag : U16}
    (hwifi : TT_CLIENT_WIFI &&& flag = 0) (hnopurge : TT_CLIENT_NOPURGE &&& flag = 0) :
    hasFlag (ttLocalNewEntry a).flags flag = hasFlag TT_CLIENT_NEW flag := by
  unfold ttLocalNewEntry
  dsimp only
  rw [hasFlag_or, hasFlag_or]
  · split_ifs
    · exact hwifi
    · exact BitVec.zero_and
  · split_ifs
    · exact hnopurge
    · exact BitVec.zero_and

/-! ### Entries -/

lemma TtLocalEntry.isFor_iff {addr : EthAddr} {vid : U16} {e : TtLocalEntry} :
    e.isFor addr vid = true ↔ e.key = (addr, vid) := by
  simp [TtLocalEntry.isFor, TtLocalEntry.key]

/-- A client that is found is in the table. -/
lemma ttLocalHashFind_eq_some {addr : EthAddr} {vid : U16} {e : TtLocalEntry}
    (h : ttLocalHashFind tt addr vid = some e) : e ∈ tt.localHash ∧ e.key = (addr, vid) :=
  ⟨List.mem_of_find?_eq_some h, TtLocalEntry.isFor_iff.1 (List.find?_some h)⟩

/-- A client that is not found is not in the table. -/
lemma ttLocalHashFind_eq_none {addr : EthAddr} {vid : U16}
    (h : ttLocalHashFind tt addr vid = none) : ∀ e ∈ tt.localHash, e.key ≠ (addr, vid) :=
  fun e he hkey => List.find?_eq_none.1 h e he (TtLocalEntry.isFor_iff.2 hkey)

@[simp] lemma ttLocalEvent_localHash (alloc : TtChange → Bool) (tt : TtLocal) (e : TtLocalEntry)
    (eventFlags : U8) : (ttLocalEvent alloc tt e eventFlags).localHash = tt.localHash := by
  unfold ttLocalEvent
  dsimp only
  split_ifs
  · rfl
  · split
    · rfl
    · split_ifs <;> rfl

@[simp] lemma ttLocalEvent_vlanList (alloc : TtChange → Bool) (tt : TtLocal) (e : TtLocalEntry)
    (eventFlags : U8) : (ttLocalEvent alloc tt e eventFlags).vlanList = tt.vlanList := by
  unfold ttLocalEvent
  dsimp only
  split_ifs
  · rfl
  · split
    · rfl
    · split_ifs <;> rfl

@[simp] lemma ttLocalPut_vlanList (tt : TtLocal) (e : TtLocalEntry) :
    (ttLocalPut tt e).vlanList = tt.vlanList := rfl

lemma ttLocalPut_localHash (tt : TtLocal) (e : TtLocalEntry) :
    (ttLocalPut tt e).localHash =
      tt.localHash.map fun d => if d.isFor e.addr e.vid then e else d := rfl

@[simp] lemma ttLocalSetPending_vlanList (alloc : TtChange → Bool) (tt : TtLocal)
    (e : TtLocalEntry) (flags : U16) :
    (ttLocalSetPending alloc tt e flags).vlanList = tt.vlanList := by
  simp [ttLocalSetPending]

/-- Writing an entry twice. -/
lemma ttLocalPut_put (l : List TtLocalEntry) {addr : EthAddr} {vid : U16} {e₁ : TtLocalEntry}
    (e₂ : TtLocalEntry) (h : e₁.isFor addr vid = true) :
    (l.map fun d => if d.isFor addr vid then e₁ else d).map
        (fun d => if d.isFor addr vid then e₂ else d) =
      l.map fun d => if d.isFor addr vid then e₂ else d := by
  rw [List.map_map]
  refine List.map_congr_left fun d _ => ?_
  by_cases hd : d.isFor addr vid = true
  · simp [hd, h]
  · simp [hd]

/-- An entry is for its own client. -/
@[simp] lemma TtLocalEntry.isFor_self (e : TtLocalEntry) : e.isFor e.addr e.vid = true := by
  simp [TtLocalEntry.isFor]

@[simp] lemma ttLocalAddFlags_vlanList (a : TtLocalAddArgs) (tt : TtLocal) (e : TtLocalEntry) :
    (ttLocalAddFlags a tt e).vlanList = tt.vlanList := by
  unfold ttLocalAddFlags
  dsimp only
  split_ifs <;> simp

lemma ttLocalAddFlags_localHash (a : TtLocalAddArgs) (tt : TtLocal) (e : TtLocalEntry) :
    (ttLocalAddFlags a tt e).localHash = tt.localHash.map fun d =>
      if d.isFor e.addr e.vid then { e with flags := a.dynamicFlags e.flags } else d := by
  unfold ttLocalAddFlags
  dsimp only
  split_ifs
  · rw [ttLocalEvent_localHash, ttLocalPut_localHash]
  · rw [ttLocalPut_localHash]

/-- What adding a client does that is in the table: only its entry is written to. -/
lemma ttLocalAdd_localHash_of_found {a : TtLocalAddArgs} {e : TtLocalEntry}
    (h : ttLocalHashFind tt a.addr a.vid = some e) :
    (ttLocalAdd tt a).1.localHash = tt.localHash.map fun d =>
      if d.isFor a.addr a.vid then ⟨a.addr, a.vid, a.flagsAgain e.flags, a.jiffies⟩ else d := by
  obtain ⟨haddr, hvid⟩ : e.addr = a.addr ∧ e.vid = a.vid :=
    Prod.mk.injEq .. ▸ (ttLocalHashFind_eq_some h).2
  unfold ttLocalAdd
  simp only [h]
  split_ifs with hpending
  all_goals
    simp only [ttLocalAddFlags_localHash, ttLocalEvent_localHash, ttLocalPut_localHash]
    rw [ttLocalPut_put _ _ (by simp [TtLocalEntry.isFor])]
    simp only [TtLocalAddArgs.flagsAgain, hpending, if_true, haddr, hvid, Bool.false_eq_true,
      if_false]

/-- What adding a new client does, if it is not refused. -/
lemma ttLocalAdd_localHash_of_new {a : TtLocalAddArgs}
    (h : ttLocalHashFind tt a.addr a.vid = none) (hadd : (ttLocalAdd tt a).2 = true) :
    (ttLocalAdd tt a).1.localHash = tt.localHash.take a.pos ++
      { ttLocalNewEntry a with flags := a.dynamicFlags (ttLocalNewEntry a).flags } ::
        tt.localHash.drop a.pos := by
  set new := ttLocalNewEntry a with hnew
  have hother : ∀ d ∈ tt.localHash, d.isFor new.addr new.vid = false := fun d hd => by
    rw [Bool.eq_false_iff, ne_eq, TtLocalEntry.isFor_iff]
    exact ttLocalHashFind_eq_none h d hd
  have hkeep (l : List TtLocalEntry) (e' : TtLocalEntry) (hl : ∀ d ∈ l, d ∈ tt.localHash) :
      l.map (fun d => if d.isFor new.addr new.vid then e' else d) = l := by
    conv_rhs => rw [← List.map_id l]
    exact List.map_congr_left fun d hd => by simp [hother d (hl d hd)]
  unfold ttLocalAdd at hadd ⊢
  simp only [h, ← hnew] at hadd ⊢
  split_ifs at hadd ⊢
  rw [ttLocalAddFlags_localHash, ttLocalEvent_localHash, List.map_append, List.map_cons,
    hkeep _ _ (fun d => List.mem_of_mem_take), hkeep _ _ (fun d => List.mem_of_mem_drop),
    if_pos new.isFor_self]

/-- A new client that is refused changes nothing. -/
lemma ttLocalAdd_of_refused {a : TtLocalAddArgs} (hadd : (ttLocalAdd tt a).2 = false) :
    (ttLocalAdd tt a).1 = tt := by
  unfold ttLocalAdd at hadd ⊢
  cases h : ttLocalHashFind tt a.addr a.vid with
  | some e =>
    simp only [h] at hadd
    split_ifs at hadd
  | none =>
    simp only [h] at hadd ⊢
    split_ifs at hadd ⊢ <;> rfl

/-- A new client is added to one of the VLANs there are. -/
lemma ttLocalAdd_vlan_of_new {a : TtLocalAddArgs}
    (h : ttLocalHashFind tt a.addr a.vid = none) (hadd : (ttLocalAdd tt a).2 = true) :
    ∃ vlan ∈ tt.vlanList, vlan.vid = a.vid := by
  unfold ttLocalAdd at hadd
  simp only [h] at hadd
  split_ifs at hadd with _ _ hvlan
  rw [Option.isNone_iff_eq_none, List.find?_eq_none] at hvlan
  by_contra hnone
  exact hvlan fun vlan hmem hvid => hnone ⟨vlan, hmem, by simpa using hvid⟩

@[simp] lemma ttLocalAdd_vlanList (tt : TtLocal) (a : TtLocalAddArgs) :
    (ttLocalAdd tt a).1.vlanList = tt.vlanList := by
  unfold ttLocalAdd
  split
  · dsimp only
    split_ifs <;> simp
  · split_ifs <;> simp

@[simp] lemma ttLocalRemove_vlanList (alloc : TtChange → Bool) (tt : TtLocal) (addr : EthAddr)
    (vid : U16) (roaming : Bool) :
    (ttLocalRemove alloc tt addr vid roaming).vlanList = tt.vlanList := by
  unfold ttLocalRemove
  split
  · rfl
  · dsimp only
    split_ifs <;> simp [ttLocalSetPending]

/-- What removing a client does that has been committed: its entry is marked. -/
lemma ttLocalRemove_localHash_of_committed (alloc : TtChange → Bool) {addr : EthAddr} {vid : U16}
    {e : TtLocalEntry} (h : ttLocalHashFind tt addr vid = some e)
    (hnew : hasFlag e.flags TT_CLIENT_NEW = false) (roaming : Bool) :
    (ttLocalRemove alloc tt addr vid roaming).localHash = tt.localHash.map fun d =>
      if d.isFor addr vid then { e with flags := ttFlagsRemoved roaming e.flags } else d := by
  obtain ⟨haddr, hvid⟩ : e.addr = addr ∧ e.vid = vid :=
    Prod.mk.injEq .. ▸ (ttLocalHashFind_eq_some h).2
  have hroam : hasFlag (e.flags ||| TT_CLIENT_ROAM) TT_CLIENT_NEW =
      hasFlag e.flags TT_CLIENT_NEW := hasFlag_or (by decide) e.flags
  unfold ttLocalRemove
  cases roaming with
  | true =>
    simp only [h, if_true, hroam, hnew, Bool.not_false, ttLocalSetPending, ttLocalPut_localHash,
      ttLocalEvent_localHash]
    rw [ttLocalPut_put _ _ (by simp [TtLocalEntry.isFor])]
    simp only [haddr, hvid, ttFlagsRemoved, if_true]
  | false =>
    simp only [h, Bool.false_eq_true, if_false, hnew, Bool.not_false, if_true, ttLocalSetPending,
      ttLocalPut_localHash, ttLocalEvent_localHash]
    rw [ttLocalPut_put _ _ (by simp [TtLocalEntry.isFor])]
    simp only [haddr, hvid, ttFlagsRemoved, Bool.false_eq_true, if_false]

/-- What removing a client does that has not been committed: it is gone. -/
lemma ttLocalRemove_localHash_of_new (alloc : TtChange → Bool) {addr : EthAddr} {vid : U16}
    {e : TtLocalEntry} (h : ttLocalHashFind tt addr vid = some e)
    (hnd : (tt.localHash.map TtLocalEntry.key).Nodup)
    (hnew : hasFlag e.flags TT_CLIENT_NEW = true) (roaming : Bool) :
    (ttLocalRemove alloc tt addr vid roaming).localHash =
      tt.localHash.filter fun d => !d.isFor addr vid := by
  obtain ⟨hmem, hkey⟩ := ttLocalHashFind_eq_some h
  have hroam : hasFlag (e.flags ||| TT_CLIENT_ROAM) TT_CLIENT_NEW =
      hasFlag e.flags TT_CLIENT_NEW := hasFlag_or (by decide) e.flags
  -- writing the entry first does not matter, since it is removed
  have herase (e' : TtLocalEntry) (hkey' : e'.key = (addr, vid)) :
      (ttLocalPut tt e').localHash.eraseP (TtLocalEntry.isFor addr vid) =
        tt.localHash.filter fun d => !d.isFor addr vid := by
    obtain ⟨haddr, hvid⟩ : e'.addr = addr ∧ e'.vid = vid := Prod.mk.injEq .. ▸ hkey'
    rw [ttLocalPut_localHash, haddr, hvid]
    generalize tt.localHash = l at hnd
    induction l with
    | nil => rfl
    | cons d l ih =>
      rw [List.map_cons, List.nodup_cons] at hnd
      by_cases hd : d.isFor addr vid = true
      · have hrest : ∀ x ∈ l, x.isFor addr vid = false := fun x hx => by
          rw [Bool.eq_false_iff, ne_eq, TtLocalEntry.isFor_iff]
          intro hxkey
          rw [TtLocalEntry.isFor_iff] at hd
          exact hnd.1 ((hd.trans hxkey.symm) ▸ List.mem_map_of_mem hx)
        rw [List.map_cons, if_pos hd,
          List.eraseP_cons_of_pos (TtLocalEntry.isFor_iff.2 hkey'), List.filter_cons, hd]
        rw [if_neg (by simp), List.filter_eq_self.2 fun x hx => by simp [hrest x hx]]
        conv_rhs => rw [← List.map_id l]
        exact List.map_congr_left fun x hx => by simp [hrest x hx]
      · rw [List.map_cons, if_neg hd, List.eraseP_cons_of_neg hd, List.filter_cons, ih hnd.2]
        simp [hd]
  unfold ttLocalRemove
  cases roaming with
  | true =>
    simp only [h, if_true, hroam, hnew, Bool.not_true, Bool.false_eq_true, if_false,
      ttLocalEvent_localHash]
    exact herase _ hkey
  | false =>
    simp only [h, hnew, Bool.not_true, Bool.false_eq_true, if_false, ttLocalEvent_localHash]
    exact herase _ hkey

/-- **What a purge does**: it marks the inactive clients.

**Proof sketch.** Induction on the entries that are still to be looked at.  Those before them do
not have their keys, and so are not written to. -/
theorem ttLocalPurge_localHash (alloc : TtChange → Bool) (jiffies : Jiffies) (timeout : ℕ)
    (hnd : (tt.localHash.map TtLocalEntry.key).Nodup) :
    (ttLocalPurge msecsToJiffies alloc jiffies timeout tt).localHash =
      tt.localHash.map fun e =>
        if e.purgeDue msecsToJiffies jiffies timeout then
          { e with flags := e.flags ||| TT_CLIENT_PENDING }
        else e := by
  unfold ttLocalPurge
  set mark : TtLocalEntry → TtLocalEntry := fun e =>
    if e.purgeDue msecsToJiffies jiffies timeout then
      { e with flags := e.flags ||| TT_CLIENT_PENDING }
    else e with hmark
  have hkey (e : TtLocalEntry) : (mark e).key = e.key := by
    simp only [hmark]
    split_ifs <;> rfl
  suffices hgen : ∀ (before after : List TtLocalEntry) (tt : TtLocal),
      ((before ++ after).map TtLocalEntry.key).Nodup → tt.localHash = before ++ after →
      (after.foldl (fun tt e => if e.purgeDue msecsToJiffies jiffies timeout then
        ttLocalSetPending alloc tt e TT_CLIENT_DEL else tt) tt).localHash =
          before ++ after.map mark from
    hgen [] tt.localHash tt hnd rfl
  intro before after
  induction after generalizing before with
  | nil => exact fun tt _ h => h
  | cons e after ih =>
    intro tt hnd htt
    have hstep : (if e.purgeDue msecsToJiffies jiffies timeout then
        ttLocalSetPending alloc tt e TT_CLIENT_DEL else tt).localHash =
          (before ++ [mark e]) ++ after := by
      simp only [hmark]
      split_ifs with hdue
      · -- only the entry itself has its key
        have hother : ∀ d ∈ before ++ after, d.isFor e.addr e.vid = false := by
          intro d hd
          rw [Bool.eq_false_iff, ne_eq, TtLocalEntry.isFor_iff]
          intro hde
          have hsame : d.key = e.key := hde
          rw [List.map_append, List.map_cons] at hnd
          have hnotin := (List.nodup_middle.1 hnd).notMem
          rw [← List.map_append] at hnotin
          exact hnotin (hsame ▸ List.mem_map_of_mem hd)
        rw [List.forall_mem_append] at hother
        have hkeep (l : List TtLocalEntry) (hl : ∀ d ∈ l, d.isFor e.addr e.vid = false)
            (e' : TtLocalEntry) :
            l.map (fun d => if d.isFor e.addr e.vid then e' else d) = l := by
          conv_rhs => rw [← List.map_id l]
          exact List.map_congr_left fun d hd => by simp [hl d hd]
        rw [ttLocalSetPending, ttLocalPut_localHash, ttLocalEvent_localHash, htt, List.map_append,
          List.map_cons, hkeep before hother.1, hkeep after hother.2]
        simp [TtLocalEntry.isFor]
      · rw [htt]
        simp
    rw [List.foldl_cons, List.map_cons, ih (before ++ [mark e]) _ ?_ hstep]
    · simp
    · simpa [hkey] using hnd

lemma ttLocalPurge_vlanList (alloc : TtChange → Bool) (jiffies : Jiffies) (timeout : ℕ)
    (tt : TtLocal) :
    (ttLocalPurge msecsToJiffies alloc jiffies timeout tt).vlanList = tt.vlanList := by
  unfold ttLocalPurge
  generalize tt.localHash = l
  induction l generalizing tt with
  | nil => rfl
  | cons e l ih =>
    rw [List.foldl_cons, ih]
    split_ifs
    · exact ttLocalSetPending_vlanList alloc tt e _
    · rfl

/-- Counting entries of the table in the VLANs' sizes. -/
lemma foldl_ttLocalSizeMod (p : TtLocalEntry → Bool) (v : ℤ) (l : List TtLocalEntry)
    (tt : TtLocal) :
    l.foldl (fun tt e => if p e then ttLocalSizeMod tt e.vid v else tt) tt =
      { tt with
        vlanList := tt.vlanList.map fun vlan =>
          { vlan with
            numEntries := vlan.numEntries +
              v * (l.countP fun e => p e && e.vid == vlan.vid) } } := by
  induction l generalizing tt with
  | nil => simp
  | cons e l ih =>
    rw [List.foldl_cons, ih]
    by_cases hp : p e = true
    · simp only [hp, if_true, ttLocalSizeMod, List.map_map]
      congr 1
      refine List.map_congr_left fun vlan _ => ?_
      simp only [Function.comp_apply, List.countP_cons, hp, Bool.true_and, beq_iff_eq]
      by_cases hvid : vlan.vid = e.vid
      · simp only [hvid, if_true]
        push_cast
        ring_nf
      · simp [hvid, Ne.symm hvid]
    · simp [hp]

/-- What clearing the flag `NEW` does. -/
lemma ttLocalClearNew_eq (tt : TtLocal) :
    ttLocalClearNew tt =
      { tt with
        localHash := tt.localHash.map fun e => { e with flags := e.flags &&& ~~~TT_CLIENT_NEW }
        vlanList := tt.vlanList.map fun vlan =>
          { vlan with
            numEntries := vlan.numEntries +
              tt.localHash.countP fun e =>
                hasFlag e.flags TT_CLIENT_NEW && e.vid == vlan.vid } } := by
  unfold ttLocalClearNew
  rw [foldl_ttLocalSizeMod]
  simp

/-- What purging the pending clients does. -/
lemma ttLocalPurgePendingClients_eq (tt : TtLocal) :
    ttLocalPurgePendingClients tt =
      { tt with
        localHash := tt.localHash.filter fun e => !hasFlag e.flags TT_CLIENT_PENDING
        vlanList := tt.vlanList.map fun vlan =>
          { vlan with
            numEntries := vlan.numEntries -
              tt.localHash.countP fun e =>
                hasFlag e.flags TT_CLIENT_PENDING && e.vid == vlan.vid } } := by
  unfold ttLocalPurgePendingClients
  rw [foldl_ttLocalSizeMod]
  simp [sub_eq_add_neg]

@[simp] lemma ttRegisterContainer_localHash (a : TtCommitArgs) (tt : TtLocal)
    (changes : List TtChange) : (ttRegisterContainer a tt changes).localHash = tt.localHash := by
  unfold ttRegisterContainer
  split_ifs <;> rfl

@[simp] lemma ttRegisterContainer_vlanList (a : TtCommitArgs) (tt : TtLocal)
    (changes : List TtChange) : (ttRegisterContainer a tt changes).vlanList = tt.vlanList := by
  unfold ttRegisterContainer
  split_ifs <;> rfl

@[simp] lemma ttTvlvContainerUpdate_localHash (a : TtCommitArgs) (tt : TtLocal) :
    (ttTvlvContainerUpdate a tt).localHash = tt.localHash := by
  unfold ttTvlvContainerUpdate
  dsimp only
  split_ifs <;> simp

@[simp] lemma ttTvlvContainerUpdate_vlanList (a : TtCommitArgs) (tt : TtLocal) :
    (ttTvlvContainerUpdate a tt).vlanList = tt.vlanList := by
  unfold ttTvlvContainerUpdate
  dsimp only
  split_ifs <;> simp

/-- What a commit of changes does to the clients: the new ones are committed, the pending ones are
removed. -/
lemma ttLocalCommitChanges_localHash (a : TtCommitArgs) (h : tt.localChanges ≠ 0) :
    (ttLocalCommitChanges a tt).localHash =
      (tt.localHash.map fun e => { e with flags := e.flags &&& ~~~TT_CLIENT_NEW }).filter
        fun e => !hasFlag e.flags TT_CLIENT_PENDING := by
  rw [ttLocalCommitChanges, if_neg h, ttLocalClearNew_eq, ttLocalPurgePendingClients_eq]
  simp [ttLocalUpdateCrc]

/-- A commit without changes leaves the clients as they are. -/
lemma ttLocalCommitChanges_of_no_changes (a : TtCommitArgs) (h : tt.localChanges = 0) :
    (ttLocalCommitChanges a tt).localHash = tt.localHash ∧
      (ttLocalCommitChanges a tt).vlanList = tt.vlanList := by
  rw [ttLocalCommitChanges, if_pos h]
  split_ifs <;> simp

/-- A turn of the resizing loop removes the clients that are pending or inactive. -/
lemma ttResizeTurn_localHash (a : TtResizeArgs) (timeout : ℕ)
    (hnd : (tt.localHash.map TtLocalEntry.key).Nodup) :
    (ttResizeTurn msecsToJiffies a timeout tt).localHash =
      tt.localHash.filter fun e =>
        !(hasFlag e.flags TT_CLIENT_PENDING || e.purgeDue msecsToJiffies a.jiffies timeout) := by
  rw [ttResizeTurn, ttLocalPurgePendingClients_eq, ttLocalPurge_localHash _ _ _ hnd]
  dsimp only
  generalize tt.localHash = l
  induction l with
  | nil => rfl
  | cons e l ih =>
    rw [List.map_cons, List.filter_cons, List.filter_cons, ih]
    by_cases hdue : e.purgeDue msecsToJiffies a.jiffies timeout = true
    · have hpending : hasFlag (e.flags ||| TT_CLIENT_PENDING) TT_CLIENT_PENDING = true :=
        hasFlag_or_self (by decide) e.flags
      simp [hdue, hpending]
    · simp [hdue]

/-! ### Well formed tables -/

/-- The table has one entry for each client, and only clients of VLANs that there are. -/
structure TtLocal.Wf (tt : TtLocal) : Prop where
  nodup : (tt.localHash.map TtLocalEntry.key).Nodup
  vlan : ∀ k ∈ tt.localHash.map TtLocalEntry.key, k.2 ∈ tt.vlanList.map MeshifVlan.vid

/-- Entries of the same client are the same. -/
lemma TtLocal.Wf.eq_of_key (hwf : tt.Wf) {d e : TtLocalEntry} (hd : d ∈ tt.localHash)
    (he : e ∈ tt.localHash) (hkey : d.key = e.key) : d = e :=
  List.inj_on_of_nodup_map hwf.nodup hd he hkey

/-- A table with fewer clients is well formed. -/
lemma TtLocal.Wf.of_sublist (hwf : tt.Wf) {tt' : TtLocal}
    (hkeys : List.Sublist (tt'.localHash.map TtLocalEntry.key) (tt.localHash.map TtLocalEntry.key))
    (hvlan : tt'.vlanList.map MeshifVlan.vid = tt.vlanList.map MeshifVlan.vid) : tt'.Wf :=
  ⟨hwf.nodup.sublist hkeys, fun k hk => hvlan ▸ hwf.vlan k (hkeys.subset hk)⟩

/-- A table with one more client is well formed, if the client is new and its VLAN is there. -/
lemma TtLocal.Wf.insert (hwf : tt.Wf) {e : TtLocalEntry}
    (hnew : ∀ d ∈ tt.localHash, d.key ≠ e.key) (hvlan : ∃ vlan ∈ tt.vlanList, vlan.vid = e.vid)
    (pos : ℕ) :
    TtLocal.Wf { tt with localHash := tt.localHash.take pos ++ e :: tt.localHash.drop pos } := by
  have hperm : ((tt.localHash.take pos ++ e :: tt.localHash.drop pos).map TtLocalEntry.key).Perm
      (e.key :: tt.localHash.map TtLocalEntry.key) := by
    rw [List.map_append, List.map_cons]
    refine List.perm_middle.trans ?_
    rw [← List.map_append, List.take_append_drop]
  have hnotin : e.key ∉ tt.localHash.map TtLocalEntry.key := fun hmem => by
    obtain ⟨d, hd, hkey⟩ := List.mem_map.1 hmem
    exact hnew d hd hkey
  refine ⟨hperm.nodup_iff.2 (List.nodup_cons.2 ⟨hnotin, hwf.nodup⟩), fun k hk => ?_⟩
  rcases List.mem_cons.1 (hperm.subset hk) with rfl | hk
  · exact List.mem_map.2 hvlan
  · exact hwf.vlan k hk

/-- Writing to the entry of a client does not change the clients. -/
lemma map_key_put (l : List TtLocalEntry) {addr : EthAddr} {vid : U16} {e : TtLocalEntry}
    (he : e.key = (addr, vid)) :
    (l.map fun d => if d.isFor addr vid then e else d).map TtLocalEntry.key =
      l.map TtLocalEntry.key := by
  rw [List.map_map]
  refine List.map_congr_left fun d _ => ?_
  simp only [Function.comp_apply]
  split_ifs with hd
  · rw [he, TtLocalEntry.isFor_iff.1 hd]
  · rfl

/-- The VLANs stay the same. -/
lemma ttLocalCommitChanges_vids (a : TtCommitArgs) (tt : TtLocal) :
    (ttLocalCommitChanges a tt).vlanList.map MeshifVlan.vid =
      tt.vlanList.map MeshifVlan.vid := by
  by_cases h : tt.localChanges = 0
  · rw [(ttLocalCommitChanges_of_no_changes a h).2]
  · rw [ttLocalCommitChanges, if_neg h, ttLocalClearNew_eq, ttLocalPurgePendingClients_eq]
    simp only [ttTvlvContainerUpdate_vlanList, ttLocalUpdateCrc, List.map_map]
    rfl

lemma TtLocal.Wf.commit (hwf : tt.Wf) (a : TtCommitArgs) : (ttLocalCommitChanges a tt).Wf := by
  refine hwf.of_sublist ?_ (ttLocalCommitChanges_vids a tt)
  by_cases h : tt.localChanges = 0
  · rw [(ttLocalCommitChanges_of_no_changes a h).1]
  · rw [ttLocalCommitChanges_localHash a h]
    refine (List.filter_sublist.map _).trans ?_
    rw [List.map_map]
    exact List.Sublist.refl _

lemma TtLocal.Wf.resizeTurn (hwf : tt.Wf) (a : TtResizeArgs) (timeout : ℕ) :
    (ttResizeTurn msecsToJiffies a timeout tt).Wf := by
  refine hwf.of_sublist ?_ ?_
  · rw [ttResizeTurn_localHash a timeout hwf.nodup]
    exact List.filter_sublist.map _
  · rw [ttResizeTurn, ttLocalPurgePendingClients_eq]
    simp only [ttLocalPurge_vlanList, List.map_map]
    rfl

lemma TtLocal.Wf.resizeLoop (hwf : tt.Wf) (a : TtResizeArgs) (fuel timeout : ℕ)
    (reduced : Bool) : (ttResizeLoop msecsToJiffies a fuel timeout tt reduced).1.Wf := by
  induction fuel generalizing timeout tt reduced with
  | zero => exact hwf
  | succ fuel ih =>
    unfold ttResizeLoop
    split_ifs
    · exact hwf
    · exact hwf
    · exact ih (hwf.resizeTurn a timeout) _ _

/-- **Every function keeps the table well formed.** -/
theorem TtLocal.Wf.step (hwf : tt.Wf) (op : TtLocalOp) :
    (ttLocalStep msecsToJiffies tt op).Wf := by
  cases op with
  | add a =>
    change (ttLocalAdd tt a).1.Wf
    cases hfind : ttLocalHashFind tt a.addr a.vid with
    | some e =>
      refine hwf.of_sublist ?_ (by rw [ttLocalAdd_vlanList])
      rw [ttLocalAdd_localHash_of_found hfind, map_key_put _ (by rfl)]
    | none =>
      cases hadd : (ttLocalAdd tt a).2 with
      | false => rw [ttLocalAdd_of_refused hadd]; exact hwf
      | true =>
        set e := ttLocalNewEntry a
        have hnew : ∀ d ∈ tt.localHash, d.key ≠ e.key := ttLocalHashFind_eq_none hfind
        have hinsert := hwf.insert hnew (ttLocalAdd_vlan_of_new hfind hadd) a.pos
        refine hinsert.of_sublist ?_ (by rw [ttLocalAdd_vlanList])
        rw [ttLocalAdd_localHash_of_new hfind hadd, List.map_append, List.map_append, List.map_cons,
          List.map_cons]
        exact List.Sublist.refl _
  | remove alloc addr vid roaming =>
    refine hwf.of_sublist ?_ (by rw [ttLocalStep, ttLocalRemove_vlanList])
    change List.Sublist ((ttLocalRemove alloc tt addr vid roaming).localHash.map _) _
    cases hfind : ttLocalHashFind tt addr vid with
    | none =>
      have hsame : ttLocalRemove alloc tt addr vid roaming = tt := by
        rw [ttLocalRemove, hfind]
      rw [hsame]
    | some e =>
      have hkey := (ttLocalHashFind_eq_some hfind).2
      cases hnew : hasFlag e.flags TT_CLIENT_NEW with
      | false =>
        have hkey' : ({ e with flags := ttFlagsRemoved roaming e.flags } : TtLocalEntry).key =
            (addr, vid) := hkey
        rw [ttLocalRemove_localHash_of_committed alloc hfind hnew, map_key_put _ hkey']
      | true =>
        rw [ttLocalRemove_localHash_of_new alloc hfind hwf.nodup hnew]
        exact List.filter_sublist.map _
  | purge alloc jiffies timeout =>
    refine hwf.of_sublist ?_ (by rw [ttLocalStep, ttLocalPurge_vlanList])
    change List.Sublist ((ttLocalPurge msecsToJiffies alloc jiffies timeout tt).localHash.map _) _
    rw [ttLocalPurge_localHash alloc jiffies timeout hwf.nodup, List.map_map]
    have hkeys : tt.localHash.map (TtLocalEntry.key ∘ fun e =>
        if e.purgeDue msecsToJiffies jiffies timeout then
          { e with flags := e.flags ||| TT_CLIENT_PENDING }
        else e) = tt.localHash.map TtLocalEntry.key := by
      refine List.map_congr_left fun e _ => ?_
      simp only [Function.comp_apply]
      split_ifs <;> rfl
    rw [hkeys]
  | commit a => exact hwf.commit a
  | resize a =>
    change (ttLocalResizeToMtu msecsToJiffies a tt).Wf
    have hloop : (ttResizeLoop msecsToJiffies a (TT_LOCAL_TIMEOUT / 2) (TT_LOCAL_TIMEOUT / 2) tt
        false).1.Wf := hwf.resizeLoop a _ _ _
    unfold ttLocalResizeToMtu
    dsimp only
    split_ifs
    · exact hloop.commit a.commit
    · exact hloop

/-- The table without clients is well formed. -/
lemma TtLocal.wf_new (vids : List U16) : (TtLocal.new vids).Wf :=
  ⟨List.nodup_nil, by simp [TtLocal.new]⟩

end Batadv
