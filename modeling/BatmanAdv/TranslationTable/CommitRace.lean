import BatmanAdv.TranslationTable.Changes

set_option relaxedAutoImplicit false
set_option autoImplicit false

/-!
# A commit and the events that happen meanwhile (`translation-table.c`)

A commit is not one step.  `batadv_tt_tvlv_container_update` reads the number of recorded changes,
prepares a container with room for as many, and only then takes the lock under which it copies the
changes and empties the list.  Events are recorded under the same lock, so any number of them may
come between the reading and the copying.  Commits themselves exclude each other.

What becomes of the nodes of the list is kept next to the table: a node is cancelled by an event, or
the list is emptied by a commit that registers a changeset.  There is memory for everything.

## Main definitions

* `Batadv.TtCommitPhase` — where a commit is.
* `Batadv.ttRaceNext` — an event, or a step of a commit.
* `Batadv.TtRemoval.Announced` — a node that was removed is accounted for.

## Main results

* `Batadv.ttRace_commit` — without events in between, the steps are the commit.
* `Batadv.ttRaceNext_nothingLost_iff` — when a step loses nothing.
* `Batadv.tt_events_announced` — when a run loses nothing.
-/

namespace Batadv

variable {tt : TtLocal}

/-- Where a commit is: none is under way, it is about to read the number of changes, or it has read
it and prepared the container. -/
inductive TtCommitPhase
  | idle
  | update
  | prepared (ttDiffEntriesNum : ℕ) (tvlv : TtTvlv)
deriving DecidableEq, Repr

/-- How nodes leave the list of changes: one is cancelled by the change of an event, or all are
removed when a changeset is registered. -/
inductive TtRemoval
  | cancelled (node event : TtChange)
  | emptied (nodes changeset : List TtChange)
deriving DecidableEq, Repr

/-- The table, the commit that is under way, and what was removed from the list of changes. -/
structure TtRace where
  tt : TtLocal
  phase : TtCommitPhase
  removals : List TtRemoval
deriving DecidableEq, Repr

/-- A call of `batadv_tt_local_event`, or a step of a commit: it is begun, the number of changes is
read, or the list is emptied under the lock. -/
inductive TtRaceEvent
  | event (e : TtLocalEntry) (eventFlags : U8)
  | commit
  | readChanges (mtu : ℕ)
  | emptyChanges
deriving DecidableEq, Repr

/-- The node that `batadv_tt_local_event` deletes, if any. -/
def ttCancelled (tt : TtLocal) (e : TtLocalEntry) (eventFlags : U8) : List TtRemoval :=
  match tt.changesList.find? fun c => c.addr == e.addr with
  | none => []
  | some c =>
    if (ttEventChange e eventFlags).isDel != c.isDel then
      [.cancelled c (ttEventChange e eventFlags)]
    else []

/-- `batadv_tt_local_commit_changes_nolock` up to the call of `batadv_tt_tvlv_container_update`. -/
def ttRaceCommit (s : TtRace) : TtRace :=
  if s.tt.localChanges = 0 then
    if s.tt.ogmAppendCnt = 0 then { s with phase := .update }
    else { s with tt := { s.tt with ogmAppendCnt := s.tt.ogmAppendCnt - 1 } }
  else
    let tt := ttLocalUpdateCrc (ttLocalPurgePendingClients (ttLocalClearNew s.tt))
    { s with
      tt := { tt with vn := tt.vn + 1, ogmAppendCnt := TT_OGM_APPEND_MAX }
      phase := .update }

/-- `batadv_tt_tvlv_container_update` up to the lock: the number of changes is read, and the
container prepared.  When there are no changes, it is registered without taking the lock. -/
def ttRaceRead (mtu : ℕ) (s : TtRace) : TtRace :=
  -- too many changes for one packet are not sent at all
  let dropChanges := mtu < ttLen s.tt.localChanges
  let ttDiffEntriesNum := if dropChanges then 0 else s.tt.localChanges
  let tvlv : TtTvlv := ⟨TT_OGM_DIFF, s.tt.vn, ttLocalVlanData s.tt, []⟩
  if ttLocalTvlvLen s.tt (ttLen ttDiffEntriesNum) = 0 then { s with phase := .idle }
  else if ¬ dropChanges ∧ ttDiffEntriesNum = 0 then
    { s with tt := { s.tt with container := some tvlv }, phase := .idle }
  else { s with phase := .prepared ttDiffEntriesNum tvlv }

/-- The rest of `batadv_tt_tvlv_container_update`: all changes are removed from the list, and the
first ones, as many as there is room for, are copied. -/
def ttRaceEmpty (ttDiffEntriesNum : ℕ) (tvlv : TtTvlv) (s : TtRace) : TtRace :=
  let changes := s.tt.changesList.take ttDiffEntriesNum
  { tt := { s.tt with
      changesList := []
      localChanges := 0
      lastChangeset := changes
      container := some { tvlv with changes := changes } }
    phase := .idle
    removals := s.removals ++ [.emptied s.tt.changesList changes] }

/-- The state after a step; a step of a commit is taken only where the commit is. -/
def ttRaceNext (s : TtRace) : TtRaceEvent → TtRace
  | .event e eventFlags =>
    { s with
      tt := ttLocalEvent (fun _ => true) s.tt e eventFlags
      removals := s.removals ++ ttCancelled s.tt e eventFlags }
  | .commit => if s.phase = .idle then ttRaceCommit s else s
  | .readChanges mtu => if s.phase = .update then ttRaceRead mtu s else s
  | .emptyChanges =>
    match s.phase with
    | .prepared ttDiffEntriesNum tvlv => ttRaceEmpty ttDiffEntriesNum tvlv s
    | _ => s

/-- Reading the number of changes and then emptying the list is updating the container. -/
lemma ttRace_update (mtu : ℕ) (tt : TtLocal) (removals : List TtRemoval) :
    (ttRaceNext (ttRaceRead mtu ⟨tt, .update, removals⟩) .emptyChanges).tt =
        ttTvlvContainerUpdate ⟨mtu, true, true, true⟩ tt ∧
      (ttRaceNext (ttRaceRead mtu ⟨tt, .update, removals⟩) .emptyChanges).phase = .idle := by
  unfold ttRaceRead ttTvlvContainerUpdate
  dsimp only
  generalize hnum : (if mtu < ttLen tt.localChanges then 0 else tt.localChanges) = num
  by_cases hlen : ttLocalTvlvLen tt (ttLen num) = 0
  · rw [if_pos hlen, if_pos (Or.inr hlen)]
    exact ⟨rfl, rfl⟩
  · have hprepared : ¬ ((!true) = true ∨ ttLocalTvlvLen tt (ttLen num) = 0) := by
      rintro (hfalse | h)
      · exact absurd hfalse (by decide)
      · exact hlen h
    rw [if_neg hlen, if_neg hprepared]
    by_cases hnone : ¬ mtu < ttLen tt.localChanges ∧ num = 0
    · rw [if_pos hnone, if_pos hnone]
      exact ⟨rfl, rfl⟩
    · rw [if_neg hnone, if_neg hnone]
      exact ⟨rfl, rfl⟩

/-- **Without events in between, the steps of a commit are the commit.** -/
theorem ttRace_commit (mtu : ℕ) (tt : TtLocal) (removals : List TtRemoval) :
    (Run.final ttRaceNext ⟨tt, .idle, removals⟩ [.commit, .readChanges mtu, .emptyChanges]).tt =
        ttLocalCommitChanges ⟨mtu, true, true, true⟩ tt ∧
      (Run.final ttRaceNext ⟨tt, .idle, removals⟩
        [.commit, .readChanges mtu, .emptyChanges]).phase = .idle := by
  simp only [Run.final_cons, Run.final_nil]
  rw [ttRaceNext, if_pos rfl, ttRaceCommit, ttLocalCommitChanges]
  dsimp only
  split_ifs with hzero hcnt
  · exact ttRace_update mtu tt removals
  · exact ⟨rfl, rfl⟩
  · exact ttRace_update mtu _ removals

/-! ### What is promised -/

/-- A node that was removed was cancelled by an event of the same client, or copied into the
registered changeset. -/
def TtRemoval.Announced : TtRemoval → Prop
  | .cancelled node event => event.addr = node.addr ∧ event.vid = node.vid
  | .emptied nodes changeset => changeset = nodes

/-- Every node that was removed is accounted for, and the counter is the length of the list. -/
structure TtNothingLost (s : TtRace) : Prop where
  removed : ∀ r ∈ s.removals, r.Announced
  count : s.tt.localChanges = s.tt.changesList.length

/-- A change that the event would cancel is of the same VLAN, and the list that is emptied is not
longer than what there is room for. -/
def TtRaceOk (s : TtRace) : TtRaceEvent → Prop
  | .event e eventFlags => ∀ c ∈ s.tt.changesList, c.addr = e.addr →
      (ttEventChange e eventFlags).isDel ≠ c.isDel → e.vid = c.vid
  | .emptyChanges =>
    match s.phase with
    | .prepared ttDiffEntriesNum _ => s.tt.changesList.length ≤ ttDiffEntriesNum
    | _ => True
  | _ => True

instance (s : TtRace) : ∀ e, Decidable (TtRaceOk s e)
  | .event e eventFlags => inferInstanceAs (Decidable (∀ c ∈ s.tt.changesList, c.addr = e.addr →
      (ttEventChange e eventFlags).isDel ≠ c.isDel → e.vid = c.vid))
  | .emptyChanges => by
    unfold TtRaceOk
    dsimp only
    split <;> infer_instance
  | .commit | .readChanges _ => .isTrue trivial

/-! ### Runs -/

/-- The counter and the list of changes are all that an order of the list depends on. -/
lemma TtChangesWf.of_eq {tt' : TtLocal} (h : TtChangesWf tt)
    (hlist : tt'.changesList = tt.changesList) (hcount : tt'.localChanges = tt.localChanges) :
    TtChangesWf tt' :=
  ⟨by rw [hlist, hcount, h.count], by rw [hlist]; exact h.nodup⟩

/-- **When an event loses nothing**: what it cancels is of the same client. -/
lemma ttCancelled_announced_iff (h : TtChangesWf tt) (e : TtLocalEntry) (eventFlags : U8) :
    (∀ r ∈ ttCancelled tt e eventFlags, r.Announced) ↔
      ∀ c ∈ tt.changesList, c.addr = e.addr →
        (ttEventChange e eventFlags).isDel ≠ c.isDel → e.vid = c.vid := by
  unfold ttCancelled
  cases hfind : tt.changesList.find? fun c => c.addr == e.addr with
  | none =>
    have hnone : ∀ c ∈ tt.changesList, c.addr ≠ e.addr := fun c hc heq =>
      List.find?_eq_none.1 hfind c hc (by simpa using heq)
    exact iff_of_true (by simp) fun c hc haddr => absurd haddr (hnone c hc)
  | some d =>
    have hd := List.mem_of_find?_eq_some hfind
    have haddr : d.addr = e.addr := by simpa using List.find?_some hfind
    have hsame : ∀ c ∈ tt.changesList, c.addr = e.addr → c = d := fun c hc heq =>
      List.inj_on_of_nodup_map h.nodup hc hd (heq.trans haddr.symm)
    dsimp only
    constructor
    · intro hall c hc heq hdel
      obtain rfl := hsame c hc heq
      rw [if_pos (bne_iff_ne.2 hdel), List.forall_mem_singleton] at hall
      exact hall.2
    · intro hall
      split_ifs with hdel
      · rw [List.forall_mem_singleton]
        exact ⟨haddr.symm, hall d hd haddr (bne_iff_ne.1 hdel)⟩
      · simp

/-- A step keeps the list of changes in order. -/
lemma ttRaceNext_changesWf {s : TtRace} (h : TtChangesWf s.tt) (e : TtRaceEvent) :
    TtChangesWf (ttRaceNext s e).tt := by
  cases e with
  | event e eventFlags => exact h.event (fun _ => true) e eventFlags
  | commit =>
    rw [ttRaceNext]
    split_ifs
    · rw [ttRaceCommit, ttLocalClearNew_eq, ttLocalPurgePendingClients_eq]
      split_ifs
      · exact h
      · exact h.of_eq rfl rfl
      · exact h.of_eq rfl rfl
    · exact h
  | readChanges mtu =>
    rw [ttRaceNext]
    split_ifs
    · rw [ttRaceRead]
      dsimp only
      split_ifs <;> exact h.of_eq rfl rfl
    · exact h
  | emptyChanges =>
    rw [ttRaceNext]
    split
    · exact ⟨rfl, List.nodup_nil⟩
    · exact h

/-- Beginning a commit, and reading the number of changes, removes nothing. -/
lemma ttRaceNext_removals (s : TtRace) (mtu : ℕ) :
    (ttRaceNext s .commit).removals = s.removals ∧
      (ttRaceNext s (.readChanges mtu)).removals = s.removals := by
  constructor
  · rw [ttRaceNext, ttRaceCommit]
    split_ifs <;> rfl
  · rw [ttRaceNext, ttRaceRead]
    dsimp only
    split_ifs <;> rfl

/-- **When a step loses nothing.** -/
theorem ttRaceNext_nothingLost_iff {s : TtRace} (h : TtChangesWf s.tt) (hs : TtNothingLost s)
    (e : TtRaceEvent) : TtNothingLost (ttRaceNext s e) ↔ TtRaceOk s e := by
  have hcount := (ttRaceNext_changesWf h e).count
  have hremoved : TtNothingLost (ttRaceNext s e) ↔
      ∀ r ∈ (ttRaceNext s e).removals, r.Announced :=
    ⟨fun h => h.removed, fun h => ⟨h, hcount⟩⟩
  rw [hremoved]
  cases e with
  | event e eventFlags =>
    have happend : (∀ r ∈ s.removals ++ ttCancelled s.tt e eventFlags, r.Announced) ↔
        ∀ r ∈ ttCancelled s.tt e eventFlags, r.Announced := by
      rw [List.forall_mem_append]
      exact and_iff_right hs.removed
    exact happend.trans (ttCancelled_announced_iff h e eventFlags)
  | commit =>
    rw [(ttRaceNext_removals s 0).1]
    exact iff_of_true hs.removed trivial
  | readChanges mtu =>
    rw [(ttRaceNext_removals s mtu).2]
    exact iff_of_true hs.removed trivial
  | emptyChanges =>
    rw [ttRaceNext, TtRaceOk]
    split
    · next num tvlv hphase =>
      rw [ttRaceEmpty, List.forall_mem_append, List.forall_mem_singleton, and_iff_right hs.removed,
        TtRemoval.Announced, List.take_eq_self_iff]
    · exact iff_of_true hs.removed trivial

/-- **When no event is lost between recording and announcing.**  In a run of events and commits that
begins between two commits with a list in order: every node that leaves the list was cancelled by an
event of the same client or copied into the registered changeset, and the counter is the length of
the list, in all states, if and only if no event cancels a change of another VLAN, and whenever the
list is emptied it is not longer than what the commit has room for.

**Proof sketch.** The list stays in order, and the history only grows; so what a step must meet is
what its own removals call for. -/
theorem tt_events_announced (tt : TtLocal) (h : TtChangesWf tt) (es : List TtRaceEvent) :
    (∀ s ∈ Run.states ttRaceNext ⟨tt, .idle, []⟩ es, TtNothingLost s) ↔
      Run.AllSteps ttRaceNext TtRaceOk ⟨tt, .idle, []⟩ es := by
  have hstart : TtNothingLost ⟨tt, .idle, []⟩ := ⟨by simp, h.count⟩
  refine Run.forall_mem_states_iff (fun s => TtChangesWf s.tt ∧ TtNothingLost s) TtNothingLost
    (fun _ _ => True) ?_ ?_ ⟨h, hstart⟩ hstart (.of_forall (fun _ _ => trivial) es)
  · rintro s e ⟨hwf, hs⟩ -
    exact ttRaceNext_nothingLost_iff hwf hs e
  · rintro s e ⟨hwf, hs⟩ - hok
    exact ⟨ttRaceNext_changesWf hwf e, (ttRaceNext_nothingLost_iff hwf hs e).2 hok⟩

/-- A client that appears. -/
def appearedClient (addr : EthAddr) : TtLocalEntry := ⟨addr, VLAN_HAS_TAG, TT_CLIENT_NEW, 0⟩

/-- **An event is lost.**  A second client appears after a commit has read that there is one change,
and before it empties the list: the second change is removed, and not registered. -/
theorem tt_event_lost :
    let s := Run.final ttRaceNext ⟨.new [VLAN_HAS_TAG], .idle, []⟩
      [.event (appearedClient 1) 0, .commit, .readChanges 1500, .event (appearedClient 2) 0,
        .emptyChanges]
    s.phase = .idle ∧ s.tt.changesList = [] ∧
      s.tt.container.map TtTvlv.changes = some [ttEventChange (appearedClient 1) 0] ∧
        s.removals = [.emptied [ttEventChange (appearedClient 1) 0,
          ttEventChange (appearedClient 2) 0] [ttEventChange (appearedClient 1) 0]] ∧
          ¬ TtNothingLost s := by
  dsimp only
  refine ⟨by decide, by decide, by decide, by decide, fun h => ?_⟩
  have hlost := h.removed (.emptied [ttEventChange (appearedClient 1) 0,
    ttEventChange (appearedClient 2) 0] [ttEventChange (appearedClient 1) 0]) (by decide)
  exact absurd hlost (by unfold TtRemoval.Announced; decide)

/-- Both clients appear before the number is read: the theorem applies. -/
theorem tt_events_announced_two :
    TtNothingLost (Run.final ttRaceNext ⟨.new [VLAN_HAS_TAG], .idle, []⟩
      [.event (appearedClient 1) 0, .event (appearedClient 2) 0, .commit, .readChanges 1500,
        .emptyChanges]) :=
  (tt_events_announced (.new [VLAN_HAS_TAG]) ⟨rfl, List.nodup_nil⟩ _).2 (by decide) _
    (Run.final_mem_states _ _)

end Batadv
