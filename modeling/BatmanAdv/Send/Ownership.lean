import BatmanAdv.Send.ForwPacket

set_option relaxedAutoImplicit false
set_option autoImplicit false

/-!
# Who frees a forwarding packet

However the steps of the senders, the workers and the purges are interleaved, a packet has one owner
at a time: its sender until it is queued, the list, and then the one party that claimed it and frees
it.

## Main definitions

* `Batadv.ForwOwned` — the owners that a packet can have.
* `Batadv.ForwState.Inv` — the invariant.
* `Batadv.ForwState.Safe` — every packet is freed once, by the party that claimed it, and is not
  used after that; the counters and the packets that hold them add up to a constant.

## Main results

* `Batadv.ForwState.Inv.step` — a step keeps the invariant.
* `Batadv.forw_packets_safe` — every state of every run is safe.
-/

namespace Batadv

/-- What a packet without a claim looks like. -/
structure ForwPacket.Unclaimed (p : ForwPacket) : Prop where
  cleanupList : p.cleanupList = .unhashed
  claims : p.history.claims = []
  frees : p.history.frees = []

/-- A worker that is not about to free its packet, which is not pending unless it has finished. -/
structure ForwPacket.Sending (p : ForwPacket) : Prop where
  sender : p.sender = false
  worker : p.worker ≠ some .free
  pending : p.pending = true → p.worker = none ∨ p.worker = some .return

/-- A packet whose work item is neither pending nor running. -/
structure ForwPacket.Idle (p : ForwPacket) : Prop where
  pending : p.pending = false
  worker : p.worker = none

/-- **The owners of a packet**: its sender, the list, the worker that claimed it, the purge that
claimed it, or nobody, once it was freed. -/
inductive ForwOwned (purges : Table ℕ ForwPurge) (i : ℕ) (p : ForwPacket) : Prop
  | sender (hunclaimed : p.Unclaimed) (hsender : p.sender = true) (hlinked : p.linked = false)
      (hidle : p.Idle)
  | linked (hunclaimed : p.Unclaimed) (hlinked : p.linked = true) (hsending : p.Sending)
  | stolen (hclaims : p.history.claims = [.worker]) (hfrees : p.history.frees = [])
      (hcleanup : p.cleanupList = .fake) (hsender : p.sender = false) (hlinked : p.linked = false)
      (hpending : p.pending = false) (hworker : p.worker = some .free)
  | purged (q : ℕ) (u : ForwPurge) (hclaims : p.history.claims = [.purge q])
      (hfrees : p.history.frees = []) (hcleanup : p.cleanupList = .list q)
      (hlinked : p.linked = false) (hsending : p.Sending) (hpurge : purges.get q = some u)
      (hphase : u.phase ≠ .done) (hcancelled : u.phase = .free (some i) → p.Idle)
  | freed (party : ForwParty) (hclaims : p.history.claims = [party])
      (hfrees : p.history.frees = [party]) (hcleanup : p.cleanupList = .fake ∨
        p.cleanupList = .poison) (hsender : p.sender = false) (hlinked : p.linked = false)
      (hidle : p.Idle)

/-- The packet of an owner, to which nothing bad has happened. -/
structure ForwOk (purges : Table ℕ ForwPurge) (i : ℕ) (p : ForwPacket) : Prop where
  owned : ForwOwned purges i p
  used : p.history.usedAfterFree = false
  queued : p.history.queuedAfterClaim = false

/-- How many packets that are not freed hold a counter. -/
def holding (counter : ForwStore) (packets : Table ℕ ForwPacket) : ℕ :=
  packets.countP fun e => e.2.history.frees.isEmpty && e.2.queueLeft == some counter

/-- **The invariant**, for the values that the counters had initially. -/
structure ForwState.Inv (initial : ForwStore → ℕ) (s : ForwState) : Prop where
  keys : (s.packets.map Prod.fst).Nodup
  ok : ∀ i p, s.packets.get i = some p → ForwOk s.purges i p
  cancelled : ∀ q u i, s.purges.get q = some u → u.phase = .free (some i) →
    ∃ p, s.packets.get i = some p ∧ p.cleanupList = .list q
  budget : ∀ counter, s.queueLeft counter + holding counter s.packets = initial counter

/-! ### A packet -/

/-- Using a packet that was not freed. -/
lemma ForwPacket.use_eq {p : ForwPacket} (h : p.history.frees = []) : p.use = p := by
  unfold ForwPacket.use
  rw [h]
  simp

variable {purges : Table ℕ ForwPurge} {i : ℕ} {p : ForwPacket}

/-- A packet when a purge gets on that has not claimed it, or has something left to do with it. -/
lemma ForwOk.setPurge (h : ForwOk purges i p) {q : ℕ} {u' : ForwPurge}
    (hphase : p.cleanupList = .list q → u'.phase ≠ .done ∧
      (u'.phase = .free (some i) → p.Idle)) :
    ForwOk (purges.set q u') i p := by
  refine ⟨?_, h.used, h.queued⟩
  cases h.owned with
  | sender hunclaimed hsender hlinked hidle => exact .sender hunclaimed hsender hlinked hidle
  | linked hunclaimed hlinked hsending => exact .linked hunclaimed hlinked hsending
  | stolen hclaims hfrees hcleanup hsender hlinked hpending hworker =>
    exact .stolen hclaims hfrees hcleanup hsender hlinked hpending hworker
  | purged q' u hclaims hfrees hcleanup hlinked hsending hpurge hphase' hcancelled =>
    by_cases hq : q' = q
    · subst hq
      obtain ⟨hdone, hidle⟩ := hphase hcleanup
      exact .purged q' u' hclaims hfrees hcleanup hlinked hsending (Table.get_set_self _ _ _) hdone
        hidle
    · exact .purged q' u hclaims hfrees hcleanup hlinked hsending
        ((Table.get_set_of_ne _ _ hq).trans hpurge) hphase' hcancelled
  | freed party hclaims hfrees hcleanup hsender hlinked hidle =>
    exact .freed party hclaims hfrees hcleanup hsender hlinked hidle

/-- A packet that a purge has claimed. -/
lemma ForwOk.of_list (h : ForwOk purges i p) {q : ℕ} (hlist : p.cleanupList = .list q) :
    p.history.claims = [.purge q] ∧ p.history.frees = [] ∧ p.linked = false ∧ p.Sending ∧
      ∃ u, purges.get q = some u ∧ u.phase ≠ .done ∧ (u.phase = .free (some i) → p.Idle) := by
  cases h.owned with
  | sender hunclaimed => simp [hunclaimed.cleanupList] at hlist
  | linked hunclaimed => simp [hunclaimed.cleanupList] at hlist
  | stolen _ _ hcleanup => simp [hcleanup] at hlist
  | purged q' u hclaims hfrees hcleanup hlinked hsending hpurge hphase hcancelled =>
    obtain rfl : q = q' := CleanupNode.list.inj (hlist.symm.trans hcleanup)
    exact ⟨hclaims, hfrees, hlinked, hsending, u, hpurge, hphase, hcancelled⟩
  | freed _ _ _ hcleanup => simp [hlist] at hcleanup

/-- Queueing a packet that nobody has claimed. -/
lemma forwPacketQueue_of_unclaimed (h : p.Unclaimed) :
    forwPacketQueue p = { p with linked := true, pending := true } := by
  obtain ⟨hcleanup, hclaims, hfrees⟩ := h
  unfold forwPacketQueue
  rw [ForwPacket.use_eq hfrees]
  simp only [ForwPacket.wasStolen, hcleanup, hclaims, bne_self_eq_false, Bool.false_eq_true,
    if_false, List.isEmpty_nil, Bool.not_true, Bool.or_false]
  rw [← hclaims]

/-- Queueing a packet that was claimed. -/
lemma forwPacketQueue_of_stolen (hfrees : p.history.frees = []) (h : p.wasStolen) :
    forwPacketQueue p = p := by
  unfold forwPacketQueue
  rw [ForwPacket.use_eq hfrees]
  exact if_pos h

/-- A packet that is queued for the first time. -/
lemma ForwOk.queue (h : ForwOk purges i p) :
    ForwOk purges i (if p.sender then { forwPacketQueue p with sender := false } else p) := by
  obtain ⟨howned, hused, hqueued⟩ := h
  split_ifs with hsender
  · cases howned with
    | sender hunclaimed _ hlinked hidle =>
      rw [forwPacketQueue_of_unclaimed hunclaimed]
      exact ⟨.linked ⟨hunclaimed.cleanupList, hunclaimed.claims, hunclaimed.frees⟩ rfl
        ⟨rfl, by simp [hidle.worker], fun _ => .inl hidle.worker⟩, hused, hqueued⟩
    | linked _ _ hsending => simp [hsending.sender] at hsender
    | stolen _ _ _ hsender' => simp [hsender'] at hsender
    | purged _ _ _ _ _ _ hsending => simp [hsending.sender] at hsender
    | freed _ _ _ _ hsender' => simp [hsender'] at hsender
  · exact ⟨howned, hused, hqueued⟩

/-- A packet whose worker starts. -/
lemma ForwOk.workerStart (h : ForwOk purges i p) :
    ForwOk purges i (if p.pending && p.worker.isNone then
      { p.use with pending := false, worker := some .start } else p) := by
  obtain ⟨howned, hused, hqueued⟩ := h
  split_ifs with hstart
  · obtain ⟨hpending, hworker⟩ : p.pending = true ∧ p.worker = none := by simpa using hstart
    cases howned with
    | sender _ _ _ hidle => simp [hidle.pending] at hpending
    | linked hunclaimed hlinked hsending =>
      rw [ForwPacket.use_eq hunclaimed.frees]
      exact ⟨.linked ⟨hunclaimed.cleanupList, hunclaimed.claims, hunclaimed.frees⟩ hlinked
        ⟨hsending.sender, by simp, by simp⟩, hused, hqueued⟩
    | stolen _ _ _ _ _ hpending' => simp [hpending'] at hpending
    | purged q u hclaims hfrees hcleanup hlinked hsending hpurge hphase hcancelled =>
      rw [ForwPacket.use_eq hfrees]
      refine ⟨.purged q u hclaims hfrees hcleanup hlinked ⟨hsending.sender, by simp, by simp⟩ hpurge
        hphase fun h => ?_, hused, hqueued⟩
      simp [(hcancelled h).pending] at hpending
    | freed _ _ _ _ _ _ hidle => simp [hidle.pending] at hpending
  · exact ⟨howned, hused, hqueued⟩

/-- A packet whose worker runs, and is not about to free it, is in the list or with a purge that
waits for the worker. -/
lemma ForwOk.of_worker (h : ForwOk purges i p) {w : ForwWorker} (hw : p.worker = some w)
    (hfree : w ≠ .free) :
    p.Sending ∧ p.history.frees = [] ∧ ((p.Unclaimed ∧ p.linked = true) ∨
      p.wasStolen = true ∧ p.linked = false ∧ ∃ q u, p.history.claims = [.purge q] ∧
        p.cleanupList = .list q ∧ purges.get q = some u ∧ u.phase ≠ .done ∧
        u.phase ≠ .free (some i)) := by
  cases h.owned with
  | sender _ _ _ hidle => simp [hidle.worker] at hw
  | linked hunclaimed hlinked hsending =>
    exact ⟨hsending, hunclaimed.frees, .inl ⟨hunclaimed, hlinked⟩⟩
  | stolen _ _ _ _ _ _ hworker => exact absurd (Option.some.inj (hw.symm.trans hworker)) hfree
  | purged q u hclaims hfrees hcleanup hlinked hsending hpurge hphase hcancelled =>
    have hstolen : p.wasStolen = true := by simp [ForwPacket.wasStolen, hcleanup]
    refine ⟨hsending, hfrees, .inr ⟨hstolen, hlinked, q, u, hclaims, hcleanup, hpurge, hphase,
      fun h => ?_⟩⟩
    simp [(hcancelled h).worker] at hw
  | freed _ _ _ _ _ _ hidle => simp [hidle.worker] at hw

/-- What a worker does that is not about to free its packet, and does not claim it: the packet has
the same owner. -/
lemma ForwOk.setWorker (h : ForwOk purges i p) {w : ForwWorker} (hw : p.worker = some w)
    (hfree : w ≠ .free) (numBcasts : U8) {pending : Bool} {w' : Option ForwWorker}
    (hfree' : w' ≠ some .free) (hpending : pending = true → w' = none ∨ w' = some .return) :
    ForwOk purges i { p with numBcasts := numBcasts, pending := pending, worker := w' } := by
  obtain ⟨hsending, hfrees, ⟨hunclaimed, hlinked⟩ |
    ⟨-, hlinked, q, u, hclaims, hcleanup, hpurge, hphase, hcancelled⟩⟩ := h.of_worker hw hfree
  · exact ⟨.linked ⟨hunclaimed.cleanupList, hunclaimed.claims, hunclaimed.frees⟩ hlinked
      ⟨hsending.sender, hfree', hpending⟩, h.used, h.queued⟩
  · exact ⟨.purged q u hclaims hfrees hcleanup hlinked ⟨hsending.sender, hfree', hpending⟩ hpurge
      hphase fun h => absurd h hcancelled, h.used, h.queued⟩

/-- The work item of a packet is not pending while its worker has something left to do. -/
lemma ForwOk.pending_eq_false (h : ForwOk purges i p) {w : ForwWorker} (hw : p.worker = some w)
    (hfree : w ≠ .free) (hreturn : w ≠ .return) : p.pending = false := by
  obtain ⟨hsending, -⟩ := h.of_worker hw hfree
  rw [← Bool.not_eq_true]
  intro hpending
  rcases hsending.pending hpending with hnone | hret
  · simp [hw] at hnone
  · exact hreturn (Option.some.inj (hw.symm.trans hret))

/-- A packet that its worker sends. -/
lemma ForwOk.workerSend (h : ForwOk purges i p) (outcome : SendOutcome) :
    ForwOk purges i (if p.worker = some .start then sendOutstanding outcome p else p) := by
  split_ifs with hw
  · have hpending := h.pending_eq_false hw (by decide) (by decide)
    obtain ⟨-, hfrees, -⟩ := h.of_worker hw (by decide)
    have hset : ∀ numBcasts w', w' ≠ ForwWorker.free →
        ForwOk purges i { p with numBcasts := numBcasts, worker := some w' } := by
      intro numBcasts w' hw'
      exact h.setWorker hw (by decide) numBcasts (by simpa using hw') (by simp [hpending])
    unfold sendOutstanding
    rw [ForwPacket.use_eq hfrees]
    dsimp only
    split
    · exact hset _ _ (by split_ifs <;> decide)
    · exact hset _ _ (by decide)
  · exact h

/-- A packet whose worker executes its section under the lock. -/
lemma ForwOk.workerLocked (h : ForwOk purges i p) : ForwOk purges i (workerLocked p) := by
  unfold Batadv.workerLocked
  split
  · -- it is queued again, unless a purge has claimed it
    rename_i hw
    obtain ⟨-, hfrees, ⟨hunclaimed, hlinked⟩ | ⟨hstolen, -⟩⟩ := h.of_worker hw (by decide)
    · rw [forwPacketQueue_of_unclaimed hunclaimed, ← hlinked]
      exact h.setWorker hw (by decide) p.numBcasts (by decide) fun _ => .inr rfl
    · rw [forwPacketQueue_of_stolen hfrees hstolen]
      exact h.setWorker hw (by decide) p.numBcasts (by decide) fun _ => .inr rfl
  · -- it is claimed, unless a purge has claimed it
    rename_i hw
    have hpending := h.pending_eq_false hw (by decide) (by decide)
    obtain ⟨hsending, hfrees, ⟨hunclaimed, hlinked⟩ | ⟨hstolen, -⟩⟩ := h.of_worker hw (by decide)
    · have hsteal : forwPacketSteal p =
          (true, { p.claim .worker with linked := false, cleanupList := .fake }) := by
        unfold forwPacketSteal
        rw [ForwPacket.use_eq hfrees]
        simp [ForwPacket.wasStolen, hunclaimed.cleanupList]
      rw [hsteal]
      exact ⟨.stolen (by simp [ForwPacket.claim, hunclaimed.claims]) hfrees rfl hsending.sender rfl
        hpending rfl, h.used, h.queued⟩
    · have hsteal : forwPacketSteal p = (false, p) := by
        unfold forwPacketSteal
        rw [ForwPacket.use_eq hfrees]
        exact if_pos hstolen
      rw [hsteal]
      exact h.setWorker hw (by decide) p.numBcasts (by decide) fun _ => .inr rfl
  · exact h

/-- A packet whose worker returns. -/
lemma ForwOk.workerReturn (h : ForwOk purges i p) :
    ForwOk purges i (if p.worker = some .return then { p with worker := none } else p) := by
  split_ifs with hw
  · exact h.setWorker hw (by decide) p.numBcasts (by decide) fun _ => .inl rfl
  · exact h

/-- A packet in a list when a purge claims what is in it. -/
lemma ForwOk.listSteal (h : ForwOk purges i p) {q : ℕ} {u : ForwPurge}
    (hpurge : purges.get q = some u) (hphase : u.phase ≠ .done)
    (hcancelled : u.phase ≠ .free (some i)) (store : ForwStore) :
    ForwOk purges i (forwPacketListSteal store q u.hardIface p) := by
  unfold forwPacketListSteal
  split_ifs with hskip
  · exact h
  · have hlinked : p.linked = true := by
      rw [Bool.or_eq_true, not_or] at hskip
      simpa using hskip.2
    obtain ⟨howned, hused, hqueued⟩ := h
    cases howned with
    | sender _ _ hlinked' => simp [hlinked'] at hlinked
    | linked hunclaimed _ hsending =>
      rw [ForwPacket.use_eq hunclaimed.frees]
      dsimp only
      split_ifs
      · exact ⟨.linked hunclaimed hlinked hsending, hused, hqueued⟩
      · exact ⟨.purged q u (by simp [ForwPacket.claim, hunclaimed.claims]) hunclaimed.frees rfl rfl
          ⟨hsending.sender, hsending.worker, hsending.pending⟩ hpurge hphase
          fun h => absurd h hcancelled, hused, hqueued⟩
    | stolen _ _ _ _ hlinked' => simp [hlinked'] at hlinked
    | purged _ _ _ _ _ hlinked' => simp [hlinked'] at hlinked
    | freed _ _ _ _ _ hlinked' => simp [hlinked'] at hlinked

/-! ### The packets together -/

/-- A packet that is not freed, and holds a counter. -/
def ForwPacket.holds (p : ForwPacket) (counter : ForwStore) : Bool :=
  p.history.frees.isEmpty && p.queueLeft == some counter

lemma holding_set {packets : Table ℕ ForwPacket} (hkeys : (packets.map Prod.fst).Nodup)
    (hget : packets.get i = some p) (p' : ForwPacket) (counter : ForwStore) :
    holding counter (packets.set i p') + (p.holds counter).toNat =
      holding counter packets + (p'.holds counter).toNat := by
  have hset := Table.perm_of_get (Table.nodup_set hkeys i p') (Table.get_set_self packets i p')
  rw [Table.filter_set] at hset
  unfold holding
  rw [hset.countP_eq, (Table.perm_of_get hkeys hget).countP_eq, List.countP_cons, List.countP_cons]
  simp only [ForwPacket.holds, Bool.toNat, cond_eq_ite]
  omega

variable {initial : ForwStore → ℕ} {s : ForwState}

/-- **A packet changes** that keeps its counter and, if it is there, its place in the list of a
purge. -/
lemma ForwState.Inv.set (h : s.Inv initial) (hget : s.packets.get i = some p) {p' : ForwPacket}
    (hok : ForwOk s.purges i p') (hlist : ∀ q, p.cleanupList = .list q → p'.cleanupList = .list q)
    (hholds : ∀ counter, p'.holds counter = p.holds counter) :
    ForwState.Inv initial { s with packets := s.packets.set i p' } := by
  obtain ⟨hkeys, hall, hcancelled, hbudget⟩ := h
  refine ⟨Table.nodup_set hkeys _ _, fun j p₁ hj => ?_, fun q u j hq hphase => ?_,
    fun counter => ?_⟩
  · by_cases hji : j = i
    · subst hji
      rw [Table.get_set_self] at hj
      exact Option.some.inj hj ▸ hok
    · rw [Table.get_set_of_ne _ _ hji] at hj
      exact hall j p₁ hj
  · obtain ⟨p₁, hj, hp₁⟩ := hcancelled q u j hq hphase
    by_cases hji : j = i
    · subst hji
      rw [Option.some.inj (hj.symm.trans hget)] at hp₁
      exact ⟨p', Table.get_set_self _ _ _, hlist q hp₁⟩
    · exact ⟨p₁, (Table.get_set_of_ne _ _ hji).trans hj, hp₁⟩
  · have hcount := holding_set hkeys hget p' counter
    rw [hholds] at hcount
    have hb := hbudget counter
    show s.queueLeft counter + holding counter (s.packets.set i p') = _
    omega

/-- **A step of a packet's own**: it keeps its counter, and its place in the list of a purge. -/
lemma ForwState.Inv.modify (h : s.Inv initial) (f : ForwPacket → ForwPacket)
    (hok : ∀ p, ForwOk s.purges i p → ForwOk s.purges i (f p))
    (hlist : ∀ p, s.packets.get i = some p → ∀ q, p.cleanupList = .list q →
      (f p).cleanupList = .list q)
    (hholds : ∀ p counter, (f p).holds counter = p.holds counter) :
    (s.modify i f).Inv initial := by
  unfold ForwState.modify
  split
  · rename_i p hget
    exact h.set hget (hok p (h.ok i p hget)) (hlist p hget) (hholds p)
  · exact h

lemma ForwPacket.holds_congr {p' : ForwPacket} (hfrees : p'.history.frees = p.history.frees)
    (hqueueLeft : p'.queueLeft = p.queueLeft) (counter : ForwStore) :
    p'.holds counter = p.holds counter := by
  unfold ForwPacket.holds
  rw [hfrees, hqueueLeft]

lemma same_forwPacketQueue (p : ForwPacket) : (forwPacketQueue p).cleanupList = p.cleanupList ∧
    (forwPacketQueue p).history.frees = p.history.frees ∧
    (forwPacketQueue p).queueLeft = p.queueLeft := by
  unfold forwPacketQueue
  dsimp only
  split_ifs <;> exact ⟨rfl, rfl, rfl⟩

lemma same_forwPacketSteal (p : ForwPacket) :
    (∀ q, p.cleanupList = .list q → (forwPacketSteal p).2.cleanupList = .list q) ∧
    (forwPacketSteal p).2.history.frees = p.history.frees ∧
    (forwPacketSteal p).2.queueLeft = p.queueLeft := by
  unfold forwPacketSteal
  dsimp only
  split_ifs with hstolen
  · exact ⟨fun q hq => hq, rfl, rfl⟩
  · refine ⟨fun q hq => absurd ?_ hstolen, rfl, rfl⟩
    simp [ForwPacket.wasStolen, ForwPacket.use, hq]

lemma same_workerLocked (p : ForwPacket) :
    (∀ q, p.cleanupList = .list q → (workerLocked p).cleanupList = .list q) ∧
    (workerLocked p).history.frees = p.history.frees ∧
    (workerLocked p).queueLeft = p.queueLeft := by
  unfold workerLocked
  split
  · obtain ⟨hlist, hfrees, hqueueLeft⟩ := same_forwPacketQueue p
    exact ⟨fun q hq => hlist.trans hq, hfrees, hqueueLeft⟩
  · exact same_forwPacketSteal p
  · exact ⟨fun q hq => hq, rfl, rfl⟩

lemma same_sendOutstanding (outcome : SendOutcome) (p : ForwPacket) :
    (sendOutstanding outcome p).cleanupList = p.cleanupList ∧
    (sendOutstanding outcome p).history.frees = p.history.frees ∧
    (sendOutstanding outcome p).queueLeft = p.queueLeft := by
  unfold sendOutstanding
  dsimp only
  split <;> exact ⟨rfl, rfl, rfl⟩

lemma same_forwPacketListSteal (store : ForwStore) (q : ℕ) (hardIface : Option ℕ) (p : ForwPacket) :
    (forwPacketListSteal store q hardIface p).history.frees = p.history.frees ∧
    (forwPacketListSteal store q hardIface p).queueLeft = p.queueLeft := by
  unfold forwPacketListSteal
  dsimp only
  split_ifs <;> exact ⟨rfl, rfl⟩

/-! ### The counters -/

@[simp] lemma packets_setQueueLeft (s : ForwState) (counter : Option ForwStore) (f : ℕ → ℕ) :
    (s.setQueueLeft counter f).packets = s.packets := by
  unfold ForwState.setQueueLeft
  split <;> rfl

@[simp] lemma purges_setQueueLeft (s : ForwState) (counter : Option ForwStore) (f : ℕ → ℕ) :
    (s.setQueueLeft counter f).purges = s.purges := by
  unfold ForwState.setQueueLeft
  split <;> rfl

lemma queueLeft_setQueueLeft (s : ForwState) (counter : Option ForwStore) (f : ℕ → ℕ)
    (c : ForwStore) : (s.setQueueLeft counter f).queueLeft c =
      if counter = some c then f (s.queueLeft c) else s.queueLeft c := by
  unfold ForwState.setQueueLeft
  rcases counter with _ | _ | _ <;> cases c <;> rfl

/-- **A packet is allocated.** -/
lemma ForwState.Inv.alloc (h : s.Inv initial) (hget : s.packets.get i = none) (store : ForwStore)
    (ifIncoming ifOutgoing : Option ℕ) (queueLeft : Option ForwStore) (numBcasts : U8)
    (alloc : Bool) :
    (forwPacketAlloc s i store ifIncoming ifOutgoing queueLeft numBcasts alloc).Inv initial := by
  obtain ⟨hkeys, hall, hcancelled, hbudget⟩ := h
  unfold forwPacketAlloc
  split_ifs with hfull halloc
  · exact ⟨hkeys, hall, hcancelled, hbudget⟩
  · -- there is no memory
    refine ⟨by simpa using hkeys, by simpa using hall, by simpa using hcancelled, fun c => ?_⟩
    rw [packets_setQueueLeft, packets_setQueueLeft, queueLeft_setQueueLeft, queueLeft_setQueueLeft,
      ← hbudget c]
    split_ifs with hc
    · have hpos : s.queueLeft c ≠ 0 := by simpa [hc] using hfull
      omega
    · rfl
  · -- the new packet is its sender's
    dsimp only
    have hset : ∀ p₁ : ForwPacket, s.packets.set i p₁ = (i, p₁) :: s.packets := fun p₁ =>
      if_neg (by simp [hget])
    refine ⟨?_, fun j p₁ hj => ?_, fun q u j hq hphase => ?_, fun c => ?_⟩
    · simpa using Table.nodup_set hkeys i _
    · simp only [packets_setQueueLeft, purges_setQueueLeft] at hj ⊢
      by_cases hji : j = i
      · subst hji
        rw [Table.get_set_self] at hj
        obtain rfl := Option.some.inj hj
        exact ⟨.sender ⟨rfl, rfl, rfl⟩ rfl rfl ⟨rfl, rfl⟩, rfl, rfl⟩
      · rw [Table.get_set_of_ne _ _ hji] at hj
        exact hall j p₁ hj
    · simp only [packets_setQueueLeft, purges_setQueueLeft] at hq ⊢
      obtain ⟨p₁, hj, hp₁⟩ := hcancelled q u j hq hphase
      have hji : j ≠ i := by
        rintro rfl
        simp [hget] at hj
      exact ⟨p₁, (Table.get_set_of_ne _ _ hji).trans hj, hp₁⟩
    · rw [packets_setQueueLeft, hset]
      show (s.setQueueLeft queueLeft _).queueLeft c + _ = _
      rw [queueLeft_setQueueLeft, holding, List.countP_cons, ← hbudget c, holding]
      by_cases hc : queueLeft = some c
      · have hpos : s.queueLeft c ≠ 0 := by simpa [hc] using hfull
        simp only [hc, if_true, List.isEmpty_nil, beq_self_eq_true, Bool.and_self]
        omega
      · simp [hc]

/-- **A packet is freed** by the party that claimed it. -/
lemma ForwState.Inv.free (h : s.Inv initial) (hget : s.packets.get i = some p) {p' : ForwPacket}
    {party : ForwParty} (hsame : p'.history = p.history ∧ p'.queueLeft = p.queueLeft)
    (hclaims : p.history.claims = [party]) (hfrees : p.history.frees = [])
    (hcleanup : p'.cleanupList = .fake ∨ p'.cleanupList = .poison) (hsender : p'.sender = false)
    (hlinked : p'.linked = false) (hidle : p'.Idle)
    (hcancel : ∀ q u, s.purges.get q = some u → u.phase ≠ .free (some i)) :
    (forwPacketFree s i p' party).Inv initial := by
  obtain ⟨hhistory, hqueueLeft⟩ := hsame
  have hok := h.ok i p hget
  have hcount := fun p₁ c => holding_set h.keys hget p₁ c
  obtain ⟨hkeys, hall, hcancelled, hbudget⟩ := h
  unfold forwPacketFree
  rw [ForwPacket.use_eq (hhistory ▸ hfrees)]
  dsimp only
  refine ⟨?_, fun j p₁ hj => ?_, fun q u j hq hphase => ?_, fun c => ?_⟩
  · simpa using Table.nodup_set hkeys i _
  · simp only [packets_setQueueLeft, purges_setQueueLeft] at hj ⊢
    by_cases hji : j = i
    · subst hji
      rw [Table.get_set_self] at hj
      obtain rfl := Option.some.inj hj
      refine ⟨.freed party ?_ ?_ hcleanup hsender hlinked ⟨hidle.pending, hidle.worker⟩, ?_, ?_⟩
      · exact (congrArg ForwHistory.claims hhistory).trans hclaims
      · simp [ForwPacket.freed, hhistory, hfrees]
      · exact (congrArg ForwHistory.usedAfterFree hhistory).trans hok.used
      · exact (congrArg ForwHistory.queuedAfterClaim hhistory).trans hok.queued
    · rw [Table.get_set_of_ne _ _ hji] at hj
      exact hall j p₁ hj
  · simp only [packets_setQueueLeft, purges_setQueueLeft] at hq ⊢
    obtain ⟨p₁, hj, hp₁⟩ := hcancelled q u j hq hphase
    have hji : j ≠ i := by
      rintro rfl
      exact hcancel q u hq hphase
    exact ⟨p₁, (Table.get_set_of_ne _ _ hji).trans hj, hp₁⟩
  · have hc := hcount (p'.freed party) c
    have hb := hbudget c
    have hholds : p.holds c = (p'.queueLeft == some c) := by
      rw [ForwPacket.holds, hfrees, hqueueLeft]
      rfl
    have hfreed : (p'.freed party).holds c = false := rfl
    rw [hholds, hfreed] at hc
    rw [packets_setQueueLeft, queueLeft_setQueueLeft]
    show (if p'.queueLeft = some c then s.queueLeft c + 1 else s.queueLeft c) +
      holding c (s.packets.set i (p'.freed party)) = _
    split_ifs with hq
    · rw [hq, beq_self_eq_true] at hc
      simp only [Bool.toNat_true, Bool.toNat_false] at hc
      omega
    · rw [beq_eq_false_iff_ne.2 hq] at hc
      simp only [Bool.toNat_false] at hc
      omega

/-! ### Purges -/

/-- **A purge gets on.** -/
lemma ForwState.Inv.setPurge (h : s.Inv initial) {q : ℕ} {u' : ForwPurge}
    (hphase : ∀ i p, s.packets.get i = some p → p.cleanupList = .list q → u'.phase ≠ .done ∧
      (u'.phase = .free (some i) → p.Idle))
    (hcancelled : ∀ i, u'.phase = .free (some i) →
      ∃ p, s.packets.get i = some p ∧ p.cleanupList = .list q) :
    ForwState.Inv initial { s with purges := s.purges.set q u' } := by
  refine ⟨h.keys, fun i p hget => (h.ok i p hget).setPurge (hphase i p hget), ?_, h.budget⟩
  intro q₁ u₁ i hq₁ hphase₁
  by_cases hq : q₁ = q
  · subst hq
    rw [Table.get_set_self] at hq₁
    obtain rfl := Option.some.inj hq₁
    exact hcancelled i hphase₁
  · rw [Table.get_set_of_ne _ _ hq] at hq₁
    exact h.cancelled q₁ u₁ i hq₁ hphase₁

/-- A purge that does not wait for a packet gets on to claim more, or to free the next packet. -/
lemma ForwState.Inv.setPhase (h : s.Inv initial) {q : ℕ} (u : ForwPurge) {phase : PurgePhase}
    (hdone : phase ≠ .done) (hfree : ∀ i, phase ≠ .free (some i)) :
    (s.setPhase q u phase).Inv initial :=
  h.setPurge (fun i _ _ _ => ⟨hdone, fun hphase => absurd hphase (hfree i)⟩)
    fun i hphase => absurd hphase (hfree i)

/-- **A purge claims the packets of a list.** -/
lemma ForwState.Inv.listSteal (h : s.Inv initial) {q : ℕ} {u : ForwPurge}
    (hpurge : s.purges.get q = some u) (hdone : u.phase ≠ .done)
    (hfree : ∀ i, u.phase ≠ .free (some i)) (store : ForwStore) :
    (s.listSteal store q u.hardIface).Inv initial := by
  have hget : ∀ i, (s.listSteal store q u.hardIface).packets.get i =
      (s.packets.get i).map (forwPacketListSteal store q u.hardIface) :=
    fun i => Table.get_map _ _ _
  refine ⟨?_, fun i p' hi => ?_, fun q₁ u₁ i hq₁ hphase₁ => ?_, fun c => ?_⟩
  · show ((s.packets.map _).map Prod.fst).Nodup
    rw [List.map_map]
    exact h.keys
  · rw [hget, Option.map_eq_some_iff] at hi
    obtain ⟨p, hi, rfl⟩ := hi
    exact (h.ok i p hi).listSteal hpurge hdone (hfree i) store
  · obtain ⟨p, hi, hlist⟩ := h.cancelled q₁ u₁ i hq₁ hphase₁
    refine ⟨p, ?_, hlist⟩
    obtain ⟨-, -, hlinked, -⟩ := (h.ok i p hi).of_list hlist
    rw [hget, hi, Option.map_some, forwPacketListSteal, if_pos (by simp [hlinked])]
  · rw [← h.budget c]
    show s.queueLeft c + holding c (s.packets.map _) = _
    unfold holding
    rw [List.countP_map]
    congr 1
    refine List.countP_congr fun e _ => ?_
    obtain ⟨hfrees, hqueueLeft⟩ := same_forwPacketListSteal store q u.hardIface e.2
    simp only [Function.comp_apply, hfrees, hqueueLeft]

lemma modify_eq {f : ForwPacket → ForwPacket} (hget : s.packets.get i = some p) :
    s.modify i f = { s with packets := s.packets.set i (f p) } := by
  unfold ForwState.modify
  rw [hget]

/-- **A purge has cancelled the work of a packet.** -/
lemma ForwState.Inv.purgeCancel (h : s.Inv initial) {q : ℕ} (u : ForwPurge)
    (hget : s.packets.get i = some p) (hlist : p.cleanupList = .list q)
    (hworker : p.worker = none) :
    ((s.modify i fun p => { p.use with pending := false }).setPhase q u
      (.free (some i))).Inv initial := by
  have hok := h.ok i p hget
  obtain ⟨hclaims, hfrees, hlinked, hsending, u', hpurge, hphase, -⟩ := hok.of_list hlist
  rw [modify_eq hget, ForwPacket.use_eq hfrees]
  have hok' : ForwOk s.purges i { p with pending := false } :=
    ⟨.purged q u' hclaims hfrees hlist hlinked ⟨hsending.sender, hsending.worker, by simp⟩ hpurge
      hphase fun _ => ⟨rfl, hworker⟩, hok.used, hok.queued⟩
  refine (h.set hget hok' (fun _ h => h) fun _ => rfl).setPurge (fun j p₁ hj _ => ?_) fun j hj => ?_
  · refine ⟨PurgePhase.noConfusion, fun hji => ?_⟩
    obtain rfl : i = j := Option.some.inj (PurgePhase.free.inj hji)
    rw [Table.get_set_self] at hj
    obtain rfl := Option.some.inj hj
    exact ⟨rfl, hworker⟩
  · obtain rfl : i = j := Option.some.inj (PurgePhase.free.inj hj)
    exact ⟨_, Table.get_set_self _ _ _, hlist⟩

/-- **A purge frees a packet** whose work it has cancelled. -/
lemma ForwState.Inv.purgeFree (h : s.Inv initial) {q : ℕ} {u : ForwPurge}
    (hpurge : s.purges.get q = some u) (hphase : u.phase = .free (some i))
    (hget : s.packets.get i = some p) :
    ((forwPacketListFree s q i p).setPhase q u (.free none)).Inv initial := by
  -- the purge can be taken to get on before it frees the packet
  have hcomm : (forwPacketListFree s q i p).setPhase q u (.free none) =
      forwPacketListFree (s.setPhase q u (.free none)) q i p := by
    unfold forwPacketListFree forwPacketFree ForwState.setQueueLeft ForwState.setPhase
    dsimp only
    split <;> rfl
  obtain ⟨p₁, hget₁, hlist⟩ := h.cancelled q u i hpurge hphase
  obtain rfl : p = p₁ := Option.some.inj (hget.symm.trans hget₁)
  have hok := h.ok i p hget
  obtain ⟨hclaims, hfrees, hlinked, hsending, u', hpurge', -, hidle⟩ := hok.of_list hlist
  obtain rfl : u = u' := Option.some.inj (hpurge.symm.trans hpurge')
  have hidle := hidle hphase
  rw [hcomm]
  refine (h.setPhase u PurgePhase.noConfusion (by simp)).free (p := p) hget ⟨rfl, rfl⟩ hclaims
    hfrees (.inr rfl) hsending.sender hlinked ⟨hidle.pending, hidle.worker⟩ ?_
  intro q₁ u₁ hq₁ hphase₁
  by_cases hq : q₁ = q
  · subst hq
    rw [ForwState.setPhase, Table.get_set_self] at hq₁
    rw [← Option.some.inj hq₁] at hphase₁
    simp at hphase₁
  · -- only one purge has the packet in its list
    rw [ForwState.setPhase, Table.get_set_of_ne _ _ hq] at hq₁
    obtain ⟨p₂, hget₂, hlist₂⟩ := h.cancelled q₁ u₁ i hq₁ hphase₁
    rw [Option.some.inj (hget₂.symm.trans hget), hlist] at hlist₂
    exact hq (CleanupNode.list.inj hlist₂).symm

/-- **A worker frees the packet** that it has claimed. -/
lemma ForwState.Inv.workerFree (h : s.Inv initial) (hget : s.packets.get i = some p)
    (hworker : p.worker = some .free) :
    (forwPacketFree s i { p with worker := none } .worker).Inv initial := by
  have hok := h.ok i p hget
  cases hok.owned with
  | sender _ _ _ hidle => simp [hidle.worker] at hworker
  | linked _ _ hsending => exact absurd hworker hsending.worker
  | stolen hclaims hfrees hcleanup hsender hlinked hpending _ =>
    refine h.free hget ⟨rfl, rfl⟩ hclaims hfrees (.inl hcleanup) hsender hlinked ⟨hpending, rfl⟩ ?_
    intro q u hq hphase
    obtain ⟨p₁, hget₁, hlist⟩ := h.cancelled q u i hq hphase
    rw [Option.some.inj (hget₁.symm.trans hget), hcleanup] at hlist
    simp at hlist
  | purged _ _ _ _ _ _ hsending => exact absurd hworker hsending.worker
  | freed _ _ _ _ _ _ hidle => simp [hidle.worker] at hworker

/-! ### Steps -/

/-- **A step** keeps the invariant. -/
theorem ForwState.Inv.step (h : s.Inv initial) (e : ForwEvent) : (forwStep s e).Inv initial := by
  cases e with
  | alloc i store ifIncoming ifOutgoing queueLeft numBcasts alloc =>
    rw [forwStep]
    split_ifs with hget
    · exact h
    · exact h.alloc (Option.not_isSome_iff_eq_none.1 hget) _ _ _ _ _ _
  | queue i =>
    refine h.modify _ (fun p hp => hp.queue) (fun p _ q hq => ?_) fun p counter => ?_
    · split_ifs
      · exact (same_forwPacketQueue p).1.trans hq
      · exact hq
    · split_ifs
      · exact ForwPacket.holds_congr (same_forwPacketQueue p).2.1 (same_forwPacketQueue p).2.2 _
      · rfl
  | workerStart i =>
    refine h.modify _ (fun p hp => hp.workerStart) (fun p _ q hq => ?_) fun p counter => ?_
    · split_ifs <;> exact hq
    · split_ifs <;> rfl
  | workerSend i outcome =>
    refine h.modify _ (fun p hp => hp.workerSend outcome) (fun p _ q hq => ?_) fun p counter => ?_
    · split_ifs
      · exact (same_sendOutstanding outcome p).1.trans hq
      · exact hq
    · split_ifs
      · exact ForwPacket.holds_congr (same_sendOutstanding outcome p).2.1
          (same_sendOutstanding outcome p).2.2 _
      · rfl
  | workerLocked i =>
    exact h.modify _ (fun p hp => hp.workerLocked) (fun p _ => (same_workerLocked p).1)
      fun p => ForwPacket.holds_congr (same_workerLocked p).2.1 (same_workerLocked p).2.2
  | workerFree i =>
    rw [forwStep]
    split
    · rename_i p hget
      split_ifs with hworker
      · exact h.workerFree hget hworker
      · exact h
    · exact h
  | workerReturn i =>
    refine h.modify _ (fun p hp => hp.workerReturn) (fun p _ q hq => ?_) fun p counter => ?_
    · split_ifs <;> exact hq
    · split_ifs <;> rfl
  | purge q hardIface =>
    rw [forwStep]
    split_ifs with hq
    · exact h
    · exact h.setPurge (fun i p _ _ => ⟨PurgePhase.noConfusion, fun h => by simp at h⟩)
        fun i h => by simp at h
  | purgeSteal q =>
    rw [forwStep]
    split
    · rename_i u hpurge
      split
      · rename_i hphase
        exact (h.listSteal hpurge (by simp [hphase]) (by simp [hphase]) .bcast).setPhase u
          PurgePhase.noConfusion (by simp)
      · rename_i hphase
        exact (h.listSteal hpurge (by simp [hphase]) (by simp [hphase]) .bat).setPhase u
          PurgePhase.noConfusion (by simp)
      · exact h
    · exact h
  | purgeCancel q i =>
    rw [forwStep]
    split
    · rename_i u p hpurge hget
      split_ifs with hcond
      · exact h.purgeCancel u hget hcond.2.1 hcond.2.2
      · exact h
    · exact h
  | purgeFree q i =>
    rw [forwStep]
    split
    · rename_i u p hpurge hget
      split_ifs with hphase
      · exact h.purgeFree hpurge hphase hget
      · exact h
    · exact h
  | purgeDone q =>
    rw [forwStep]
    split
    · rename_i u hpurge
      split_ifs with hcond
      · refine h.setPurge (fun i p hget hlist => ?_) fun i h => by simp at h
        exact absurd hlist (hcond.2 (i, p) (Table.mem_of_get hget))
      · exact h
    · exact h

/-! ### Safety -/

/-- A party is on its way to free a packet: the worker is about to, or the purge has it in its list
and is not done. -/
def ForwState.WillFree (s : ForwState) (p : ForwPacket) : ForwParty → Prop
  | .worker => p.worker = some .free
  | .purge q => p.cleanupList = .list q ∧ ∃ u, s.purges.get q = some u ∧ u.phase ≠ .done

/-- **A safe state**: no packet was freed twice, used after it was freed, or queued after it was
claimed; a packet that is its sender's or in the list is neither claimed nor freed, and every other
one was claimed by one party, which has freed it or will; the counters and the packets that hold
them add up to the initial values. -/
structure ForwState.Safe (initial : ForwStore → ℕ) (s : ForwState) : Prop where
  freedOnce : ∀ i p, s.packets.get i = some p → p.history.frees.length ≤ 1
  notUsed : ∀ i p, s.packets.get i = some p → p.history.usedAfterFree = false
  notQueued : ∀ i p, s.packets.get i = some p → p.history.queuedAfterClaim = false
  unclaimed : ∀ i p, s.packets.get i = some p → p.sender = true ∨ p.linked = true →
    p.history.claims = [] ∧ p.history.frees = []
  claimed : ∀ i p, s.packets.get i = some p → p.sender = false → p.linked = false →
    ∃ party, p.history.claims = [party] ∧
      (p.history.frees = [party] ∨ p.history.frees = [] ∧ s.WillFree p party)
  budget : ∀ counter, s.queueLeft counter + holding counter s.packets = initial counter

/-- The owners of the packets make the state safe. -/
theorem ForwState.Inv.safe (h : s.Inv initial) : s.Safe initial := by
  refine ⟨fun i p hget => ?_, fun i p hget => (h.ok i p hget).used,
    fun i p hget => (h.ok i p hget).queued, fun i p hget hin => ?_,
    fun i p hget hsender hlinked => ?_, h.budget⟩
  · cases (h.ok i p hget).owned with
    | sender hunclaimed => simp [hunclaimed.frees]
    | linked hunclaimed => simp [hunclaimed.frees]
    | stolen _ hfrees => simp [hfrees]
    | purged _ _ _ hfrees => simp [hfrees]
    | freed _ _ hfrees => simp [hfrees]
  · cases (h.ok i p hget).owned with
    | sender hunclaimed => exact ⟨hunclaimed.claims, hunclaimed.frees⟩
    | linked hunclaimed => exact ⟨hunclaimed.claims, hunclaimed.frees⟩
    | stolen _ _ _ hsender hlinked => simp [hsender, hlinked] at hin
    | purged _ _ _ _ _ hlinked hsending => simp [hsending.sender, hlinked] at hin
    | freed _ _ _ _ hsender hlinked => simp [hsender, hlinked] at hin
  · cases (h.ok i p hget).owned with
    | sender _ hsender' => simp [hsender'] at hsender
    | linked _ hlinked' => simp [hlinked'] at hlinked
    | stolen hclaims hfrees _ _ _ _ hworker => exact ⟨.worker, hclaims, .inr ⟨hfrees, hworker⟩⟩
    | purged q u hclaims hfrees hcleanup _ _ hpurge hphase =>
      exact ⟨.purge q, hclaims, .inr ⟨hfrees, hcleanup, u, hpurge, hphase⟩⟩
    | freed party hclaims hfrees => exact ⟨party, hclaims, .inl hfrees⟩

/-- **Forwarding packets are freed once, by the party that claimed them**, in every state of every
run of any number of senders, workers and purges. -/
theorem forw_packets_safe (initial : ForwStore → ℕ) (events : List ForwEvent) :
    ∀ s ∈ Run.states forwStep (.init (initial .bcast) (initial .bat)) events, s.Safe initial := by
  have hinit : (ForwState.init (initial .bcast) (initial .bat)).Inv initial := by
    refine ⟨List.nodup_nil, fun i p h => ?_, fun q u i h => ?_, fun counter => ?_⟩
    · cases h
    · cases h
    · cases counter <;> rfl
  intro s hs
  exact (Run.AllSteps.forall_mem_states (P := fun _ _ => True) (ForwState.Inv initial)
    (fun s e h _ => h.step e) hinit (.of_forall (fun _ _ => trivial) events) s hs).safe

/-- A purge claims a packet that its worker has just sent. -/
def forwPurgeOps : List ForwEvent :=
  [.alloc 0 .bcast (some 1) (some 1) (some .bcast) 3 true, .queue 0, .workerStart 0,
    .workerSend 0 .sent, .purge 0 none, .purgeSteal 0, .purgeSteal 0, .purgeCancel 0 0,
    .workerLocked 0, .workerReturn 0, .purgeCancel 0 0, .purgeFree 0 0]

/-- The worker does not queue it again, and the purge frees it when the worker has returned. -/
example :
    let s := Run.final forwStep (.init 2 2) forwPurgeOps
    s.bcastQueueLeft = 2 ∧ (s.packets.get 0).map (fun p => p.history) =
      some ⟨[.purge 0], [.purge 0], false, false⟩ := by
  decide +kernel

theorem forw_packets_safe_purge : (Run.final forwStep (.init 2 2) forwPurgeOps).Safe fun _ => 2 :=
  forw_packets_safe (fun _ => 2) forwPurgeOps _ (Run.final_mem_states _ _)

end Batadv
