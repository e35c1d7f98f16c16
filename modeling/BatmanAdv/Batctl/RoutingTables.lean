import BatmanAdv.Batctl.BisectIv
import BatmanAdv.Lib.Run
import Mathlib.Logic.Function.Basic

set_option relaxedAutoImplicit false
set_option autoImplicit false

/-!
# Replaying routing tables (`batctl/bisect_iv.c`)

The routes of a node are replayed from its log.  Every change appends a table with the routes that
there are then, and the one that was just deleted.  The size of a table is foreseen, and whether it
needs a new entry is inferred from that; a table of one entry always gets a new one.  That is wrong
for the deletion of the only route there is: its next hop is lost.

## Main definitions

* `Batctl.Replay`, `Batctl.replayStep` — a log, and the routes that it tells of.
* `Batctl.ReplayConsistent` — the changes that a log can tell of.
* `Batctl.RtReplays` — what the table that a change appends has to hold.

## Main results

* `Batctl.rtFill_appends`, `Batctl.rtFill_changes` — the entries of a new table.
* `Batctl.routing_tables_replay_iff` — exactly when every table holds what it has to.
-/

namespace Batctl

open Batadv

/-! ### Filling a table -/

/-- The entries of a table: the first ones of its array. -/
def RtTable.Holds (table : RtTable) (l : List RtEntry) : Prop :=
  table.numEntries = l.length ∧ ∃ k, table.entries = l.map some ++ List.replicate k none

/-- The entries of the last table that are copied, as they are copied. -/
def rtCopied (orig : EthAddr) (nextHop : Option EthAddr) (rtFlag : U8) (l : List RtEntry) :
    List RtEntry :=
  (l.filter fun e => e.flags ≠ RT_FLAG_DELETE).map fun e => e.copied orig nextHop rtFlag

section Filling

variable {orig : EthAddr} {nextHop : Option EthAddr} {rtFlag : U8} {l : List RtEntry}
  {table : RtTable}

lemma RtTable.Holds.take (h : table.Holds l) :
    table.entries.take table.numEntries = l.map some := by
  obtain ⟨hnum, k, hentries⟩ := h
  rw [hentries, hnum, ← List.length_map some, List.take_left']
  rfl

lemma RtTable.Holds.has_iff (h : table.Holds l) :
    table.has orig = true ↔ ∃ e ∈ l, e.orig = orig := by
  rw [RtTable.has, h.take]
  simp

/-- **What the loop over the last table copies**, behind the entries `done`.

**Proof sketch.** Induction on the entries that are left. -/
lemma foldlM_rtCopyEntry (l done : List RtEntry) (num : ℕ) {k : ℕ}
    (hk : (rtCopied orig nextHop rtFlag l).length ≤ k) :
    (l.map some).foldlM (rtCopyEntry orig nextHop rtFlag)
        ⟨num, done.length, done.map some ++ List.replicate k none⟩ =
      some ⟨num - (l.length - (rtCopied orig nextHop rtFlag l).length),
        (done ++ rtCopied orig nextHop rtFlag l).length,
        (done ++ rtCopied orig nextHop rtFlag l).map some ++
          List.replicate (k - (rtCopied orig nextHop rtFlag l).length) none⟩ := by
  induction l generalizing done num k with
  | nil => simp [rtCopied]
  | cons e l ih =>
    rw [List.map_cons, List.foldlM_cons]
    by_cases he : e.flags = RT_FLAG_DELETE
    · have hcopied : rtCopied orig nextHop rtFlag (e :: l) = rtCopied orig nextHop rtFlag l := by
        simp [rtCopied, he]
      rw [hcopied] at hk ⊢
      have hle : (rtCopied orig nextHop rtFlag l).length ≤ l.length := by
        rw [rtCopied, List.length_map]
        exact List.length_filter_le _ _
      have hstep : rtCopyEntry orig nextHop rtFlag
          ⟨num, done.length, done.map some ++ List.replicate k none⟩ (some e) =
            some ⟨num - 1, done.length, done.map some ++ List.replicate k none⟩ := by
        simp only [rtCopyEntry, Option.bind_some, if_pos he]
      rw [hstep, Option.bind_eq_bind, Option.bind_some, ih done (num - 1) hk]
      have hnum : num - 1 - (l.length - (rtCopied orig nextHop rtFlag l).length) =
          num - ((e :: l).length - (rtCopied orig nextHop rtFlag l).length) := by
        rw [List.length_cons]
        omega
      rw [hnum]
    · have hcopied : rtCopied orig nextHop rtFlag (e :: l) =
          e.copied orig nextHop rtFlag :: rtCopied orig nextHop rtFlag l := by
        simp [rtCopied, he]
      rw [hcopied, List.length_cons] at hk ⊢
      obtain ⟨k, rfl⟩ : ∃ k', k = k' + 1 := ⟨k - 1, by omega⟩
      have hstep : rtCopyEntry orig nextHop rtFlag
          ⟨num, done.length, done.map some ++ List.replicate (k + 1) none⟩ (some e) =
            some ⟨num, (done ++ [e.copied orig nextHop rtFlag]).length,
              (done ++ [e.copied orig nextHop rtFlag]).map some ++ List.replicate k none⟩ := by
        simp only [rtCopyEntry, Option.bind_some, if_neg he]
        rw [if_pos (by simp), List.set_append_right _ _ (by simp)]
        simp [List.replicate_succ]
      rw [hstep, Option.bind_eq_bind, Option.bind_some, ih _ num (Nat.le_of_succ_le_succ hk),
        List.append_assoc, List.singleton_append]
      simp only [List.length_cons, Nat.add_sub_add_right]

/-- The new table before an entry is added. -/
lemma foldlM_rtCopyEntry_of_holds (orig : EthAddr) (nextHop : Option EthAddr) (rtFlag : U8)
    {num : ℕ} (h : table.Holds l)
    (hnum : (rtCopied orig nextHop rtFlag l).length ≤ num) :
    (table.entries.take table.numEntries).foldlM (rtCopyEntry orig nextHop rtFlag)
        ⟨num, 0, List.replicate num none⟩ =
      some ⟨num - (l.length - (rtCopied orig nextHop rtFlag l).length),
        (rtCopied orig nextHop rtFlag l).length,
        (rtCopied orig nextHop rtFlag l).map some ++
          List.replicate (num - (rtCopied orig nextHop rtFlag l).length) none⟩ := by
  rw [h.take]
  exact foldlM_rtCopyEntry l [] num hnum

lemma length_rtCopied_le (orig : EthAddr) (nextHop : Option EthAddr) (rtFlag : U8)
    (l : List RtEntry) : (rtCopied orig nextHop rtFlag l).length ≤ l.length := by
  rw [rtCopied, List.length_map]
  exact List.length_filter_le _ _

/-- The first table. -/
lemma rtFill_first :
    rtFill none orig nextHop rtFlag = some ⟨1, [some ⟨orig, nextHop, rtFlag⟩]⟩ := rfl

/-- **A new route** is the last entry of the table. -/
lemma rtFill_appends (orig : EthAddr) (nextHop : Option EthAddr) (h : table.Holds l)
    (hflag : rtFlag = RT_FLAG_ADD) :
    ∃ table', rtFill (some table) orig nextHop rtFlag = some table' ∧
      table'.Holds (rtCopied orig nextHop rtFlag l ++ [⟨orig, nextHop, rtFlag⟩]) := by
  have hle := length_rtCopied_le orig nextHop rtFlag l
  have hfold := foldlM_rtCopyEntry_of_holds orig nextHop rtFlag h (Nat.le_succ_of_le hle)
  have hnum : rtNumEntries (some table) orig rtFlag = l.length + 1 := by
    simp only [rtNumEntries, hflag, ne_eq, not_true_eq_false, false_and, if_false, h.1]
  have hlen : l.length + 1 - (l.length - (rtCopied orig nextHop rtFlag l).length) =
      (rtCopied orig nextHop rtFlag l).length + 1 := by omega
  rw [hlen] at hfold
  refine ⟨⟨(rtCopied orig nextHop rtFlag l).length + 1, _⟩, ?_, by simp,
    l.length - (rtCopied orig nextHop rtFlag l).length, rfl⟩
  simp only [rtFill, hnum, Option.elim_some, hfold, Option.bind_some]
  rw [if_pos (Or.inr (Nat.succ_ne_self _)), if_pos ⟨Nat.succ_pos _, by simp; omega⟩,
    Nat.add_sub_cancel, List.set_append_right _ _ (by simp), List.length_map, Nat.sub_self,
    Nat.succ_sub hle, List.replicate_succ, List.set_cons_zero, List.map_append, List.append_assoc]
  rfl

section Changes

variable (h : table.Holds l) (hflag : rtFlag ≠ RT_FLAG_ADD) (hhas : ∃ e ∈ l, e.orig = orig)

include h hflag hhas

/-- A route that changes, before its entry is added once more. -/
lemma foldlM_rtCopyEntry_of_changes (nextHop : Option EthAddr) :
    rtNumEntries (some table) orig rtFlag = l.length ∧
      (table.entries.take table.numEntries).foldlM (rtCopyEntry orig nextHop rtFlag)
          ⟨l.length, 0, List.replicate l.length none⟩ =
        some ⟨(rtCopied orig nextHop rtFlag l).length, (rtCopied orig nextHop rtFlag l).length,
          (rtCopied orig nextHop rtFlag l).map some ++
            List.replicate (l.length - (rtCopied orig nextHop rtFlag l).length) none⟩ := by
  have hle := length_rtCopied_le orig nextHop rtFlag l
  have hfold := foldlM_rtCopyEntry_of_holds orig nextHop rtFlag h hle
  rw [Nat.sub_sub_self hle] at hfold
  refine ⟨?_, hfold⟩
  simp only [rtNumEntries]
  rw [if_pos ⟨hflag, h.has_iff.2 hhas⟩, h.1]

/-- **A route that changes** has its entry where it was. -/
lemma rtFill_changes (hone : (rtCopied orig nextHop rtFlag l).length ≠ 1) :
    ∃ table', rtFill (some table) orig nextHop rtFlag = some table' ∧
      table'.Holds (rtCopied orig nextHop rtFlag l) := by
  obtain ⟨hnum, hfold⟩ := foldlM_rtCopyEntry_of_changes h hflag hhas nextHop
  refine ⟨⟨(rtCopied orig nextHop rtFlag l).length, _⟩, ?_, rfl,
    l.length - (rtCopied orig nextHop rtFlag l).length, rfl⟩
  simp only [rtFill, hnum, Option.elim_some, hfold, Option.bind_some]
  rw [if_neg (not_or.2 ⟨hone, not_not.2 rfl⟩)]

/-- **The only route that changes** has a new entry instead of the one that was copied. -/
lemma rtFill_changes_only (hone : (rtCopied orig nextHop rtFlag l).length = 1) :
    ∃ table', rtFill (some table) orig nextHop rtFlag = some table' ∧
      table'.Holds [⟨orig, nextHop, rtFlag⟩] := by
  obtain ⟨hnum, hfold⟩ := foldlM_rtCopyEntry_of_changes h hflag hhas nextHop
  obtain ⟨e, he⟩ := List.length_eq_one_iff.1 hone
  rw [he] at hfold
  refine ⟨⟨1, _⟩, ?_, rfl, l.length - 1, rfl⟩
  simp only [rtFill, hnum, Option.elim_some, hfold, Option.bind_some, List.length_singleton]
  rw [if_pos (Or.inl trivial), if_pos ⟨Nat.one_pos, by simp⟩]
  rfl

end Changes

end Filling

/-! ### A log -/

/-- How a route changes. -/
inductive RtKind where
  | add (nextHop : EthAddr)
  | update (nextHop oldNextHop : EthAddr)
  | delete
deriving DecidableEq

namespace RtKind

/-- The flag of a change. -/
def flag : RtKind → U8
  | add _ => RT_FLAG_ADD
  | update _ _ => RT_FLAG_UPDATE
  | delete => RT_FLAG_DELETE

/-- The next hop afterwards. -/
def nextHop : RtKind → Option EthAddr
  | add nextHop => some nextHop
  | update nextHop _ => some nextHop
  | delete => none

/-- The next hop before, where the log tells it. -/
def oldNextHop : RtKind → Option EthAddr
  | add _ => none
  | update _ oldNextHop => some oldNextHop
  | delete => none

lemma flag_eq_delete_iff {kind : RtKind} : kind.flag = RT_FLAG_DELETE ↔ kind = delete := by
  cases kind <;> simp [flag, RT_FLAG_ADD, RT_FLAG_UPDATE, RT_FLAG_DELETE]

lemma nextHop_eq_none_iff {kind : RtKind} : kind.nextHop = none ↔ kind = delete := by
  cases kind <;> simp [nextHop]

end RtKind

/-- An entry of a log: a packet, or a changed route. -/
inductive RtLog where
  | ogm (orig neigh prevSender : EthAddr) (seqno tq ttl : ℤ)
  | route (orig : EthAddr) (kind : RtKind)
deriving DecidableEq

/-- A log while it is read: the current node, the originators whose packets were received, and the
next hops. -/
structure Replay where
  node : Option BatNode
  heard : EthAddr → Prop
  routes : EthAddr → Option EthAddr

/-- No log. -/
def Replay.new : Replay := ⟨none, fun _ => False, fun _ => none⟩

/-- The numbers of a packet are in range. -/
def OgmValid (seqno tq ttl : ℤ) : Prop :=
  (0 ≤ seqno ∧ seqno ≤ UINT32_MAX) ∧ (0 ≤ tq ∧ tq ≤ UINT8_MAX) ∧ 0 ≤ ttl ∧ ttl ≤ UINT8_MAX

/-- **One entry of the log.** -/
def replayStep (s : Replay) : RtLog → Replay
  | .ogm orig neigh prevSender seqno tq ttl =>
    { s with
      node := (seqnoEventNew s.node (some (s.node.getD .new)) (some orig) (some prevSender)
        (some neigh) seqno tq ttl).2
      heard := fun o => s.heard o ∨ (o = orig ∧ OgmValid seqno tq ttl) }
  | .route orig kind =>
    { s with
      node := ((routingTableNew s.node (some orig) kind.nextHop kind.oldNextHop kind.flag).map
        Prod.snd).getD s.node
      routes := Function.update s.routes orig kind.nextHop }

/-- **What a log can tell of**: a route is added to an originator that has none, and changed or
deleted if there is one.  A packet of the originator was received before. -/
def ReplayConsistent (s : Replay) : RtLog → Prop
  | .ogm _ _ _ _ _ _ => True
  | .route orig (.add _) => s.heard orig ∧ s.routes orig = none
  | .route orig _ => s.heard orig ∧ s.routes orig ≠ none

/-- **What the table that a change appends has to hold**: one entry for each originator there is a
route to, and for the one that was deleted.  The entry of the change has its flag and its next hop,
which is the one before if the route was deleted, and the others have no flag and the next hops
they had. -/
structure RtReplays (routes : EthAddr → Option EthAddr) (orig : EthAddr) (kind : RtKind)
    (l : List RtEntry) : Prop where
  nodup : (l.map RtEntry.orig).Nodup
  mem_iff : ∀ o, o ∈ l.map RtEntry.orig ↔
    Function.update routes orig kind.nextHop o ≠ none ∨ (kind = .delete ∧ o = orig)
  flags : ∀ e ∈ l, e.flags = if e.orig = orig then kind.flag else 0
  nextHop : ∀ e ∈ l,
    e.nextHop = if e.orig = orig then kind.nextHop.or (routes orig) else routes e.orig
  nextHop_ne_none : ∀ e ∈ l, e.nextHop ≠ none

/-- **An entry of the log is replayed faithfully**: a change appends a table that holds what it has
to. -/
def ReplayFaithful (s : Replay) : RtLog → Prop
  | .ogm _ _ _ _ _ _ => True
  | .route orig kind => ∃ node node' table l, s.node = some node ∧
    routingTableNew s.node (some orig) kind.nextHop kind.oldNextHop kind.flag =
      some (none, some node') ∧
    node'.rtTables = node.rtTables ++ [table] ∧ table.Holds l ∧ RtReplays s.routes orig kind l

/-! ### What a table shows -/

/-- **The table shows the routes**: each has an entry, and the other entries are deleted ones. -/
structure RtShows (routes : EthAddr → Option EthAddr) (l : List RtEntry) : Prop where
  nodup : (l.map RtEntry.orig).Nodup
  route : ∀ e ∈ l, e.flags ≠ RT_FLAG_DELETE → e.nextHop = routes e.orig ∧ routes e.orig ≠ none
  deleted : ∀ e ∈ l, e.flags = RT_FLAG_DELETE → routes e.orig = none
  covers : ∀ o, routes o ≠ none → o ∈ l.map RtEntry.orig

section Shows

variable {routes : EthAddr → Option EthAddr} {orig : EthAddr} {kind : RtKind} {l : List RtEntry}

lemma RtEntry.orig_copied (e : RtEntry) (orig : EthAddr) (nextHop : Option EthAddr) (rtFlag : U8) :
    (e.copied orig nextHop rtFlag).orig = e.orig := by
  unfold RtEntry.copied
  split_ifs <;> rfl

/-- A table that holds what it has to shows the routes. -/
lemma RtReplays.shows (h : RtReplays routes orig kind l) :
    RtShows (Function.update routes orig kind.nextHop) l := by
  refine ⟨h.nodup, fun e he hflag => ?_, fun e he hflag => ?_,
    fun o ho => (h.mem_iff o).2 (.inl ho)⟩
  · have hflags := h.flags e he
    have hhop := h.nextHop e he
    have hne := h.nextHop_ne_none e he
    by_cases horig : e.orig = orig
    · rw [if_pos horig] at hflags hhop
      have hsome : kind.nextHop ≠ none := fun hnone =>
        hflag (hflags.trans (RtKind.flag_eq_delete_iff.2 (RtKind.nextHop_eq_none_iff.1 hnone)))
      rw [horig, Function.update_self]
      obtain ⟨nextHop, hkind⟩ := Option.ne_none_iff_exists'.1 hsome
      rw [hkind] at hhop ⊢
      exact ⟨hhop, Option.some_ne_none _⟩
    · rw [if_neg horig] at hhop
      rw [Function.update_of_ne horig]
      exact ⟨hhop, hhop ▸ hne⟩
  · have hflags := h.flags e he
    rw [hflag] at hflags
    by_cases horig : e.orig = orig
    · rw [if_pos horig] at hflags
      rw [horig, Function.update_self]
      exact RtKind.nextHop_eq_none_iff.2 (RtKind.flag_eq_delete_iff.1 hflags.symm)
    · rw [if_neg horig] at hflags
      exact absurd hflags (by decide)

variable (h : RtShows routes l)

include h

/-- The originators of the entries that are copied. -/
lemma RtShows.mem_copied_iff (orig : EthAddr) (kind : RtKind) (o : EthAddr) :
    o ∈ (rtCopied orig kind.nextHop kind.flag l).map RtEntry.orig ↔ routes o ≠ none := by
  rw [rtCopied, List.map_map]
  simp only [List.mem_map, List.mem_filter, Function.comp_apply, RtEntry.orig_copied,
    decide_eq_true_eq]
  constructor
  · rintro ⟨e, ⟨he, hflag⟩, rfl⟩
    exact (h.route e he hflag).2
  · intro ho
    obtain ⟨e, he, rfl⟩ := List.mem_map.1 (h.covers o ho)
    exact ⟨e, ⟨he, fun hflag => ho (h.deleted e he hflag)⟩, rfl⟩

lemma RtShows.nodup_copied (orig : EthAddr) (kind : RtKind) :
    ((rtCopied orig kind.nextHop kind.flag l).map RtEntry.orig).Nodup := by
  have horig : RtEntry.orig ∘ (fun e => e.copied orig kind.nextHop kind.flag) = RtEntry.orig := by
    funext e
    exact RtEntry.orig_copied e _ _ _
  rw [rtCopied, List.map_map, horig]
  exact h.nodup.sublist ((List.filter_sublist).map _)

/-- An entry that is copied. -/
lemma RtShows.copied (kind : RtKind) {e : RtEntry}
    (he : e ∈ rtCopied orig kind.nextHop kind.flag l) :
    routes e.orig ≠ none ∧ (e.flags = if e.orig = orig then kind.flag else 0) ∧
      e.nextHop = if e.orig = orig then kind.nextHop.or (routes orig) else routes e.orig := by
  obtain ⟨e, hmem, rfl⟩ := List.mem_map.1 he
  rw [List.mem_filter, decide_eq_true_eq] at hmem
  obtain ⟨hhop, hne⟩ := h.route e hmem.1 hmem.2
  rw [RtEntry.orig_copied]
  refine ⟨hne, ?_⟩
  unfold RtEntry.copied
  by_cases horig : e.orig = orig
  · simp only [if_pos horig, true_and]
    cases kind with
    | add nextHop => rfl
    | update nextHop oldNextHop => rfl
    | delete => exact hhop.trans (congrArg routes horig)
  · simp only [if_neg horig]
    exact ⟨trivial, hhop⟩

/-- The entries of a route that was added. -/
lemma RtShows.replays_add {nextHop : EthAddr} (hnew : routes orig = none) :
    RtReplays routes orig (.add nextHop)
      (rtCopied orig (some nextHop) RT_FLAG_ADD l ++ [⟨orig, some nextHop, RT_FLAG_ADD⟩]) := by
  have hmem : ∀ o, o ∈ (rtCopied orig (some nextHop) RT_FLAG_ADD l).map RtEntry.orig ↔
      routes o ≠ none := h.mem_copied_iff orig (.add nextHop)
  have hnodup : ((rtCopied orig (some nextHop) RT_FLAG_ADD l).map RtEntry.orig).Nodup :=
    h.nodup_copied orig (.add nextHop)
  have hentry : ∀ e ∈ rtCopied orig (some nextHop) RT_FLAG_ADD l ++
      [⟨orig, some nextHop, RT_FLAG_ADD⟩], (e.flags = if e.orig = orig then RT_FLAG_ADD else 0) ∧
        (e.nextHop = if e.orig = orig then some nextHop else routes e.orig) ∧ e.nextHop ≠ none := by
    intro e he
    rcases List.mem_append.1 he with he | he
    · obtain ⟨hne, hflags, hhop⟩ := h.copied (.add nextHop) he
      have horig : e.orig ≠ orig := fun heq => hne (heq ▸ hnew)
      rw [if_neg horig] at hflags hhop ⊢
      rw [if_neg horig]
      exact ⟨hflags, hhop, hhop ▸ hne⟩
    · rw [List.mem_singleton.1 he]
      simp
  refine ⟨?_, fun o => ?_, fun e he => (hentry e he).1, fun e he => (hentry e he).2.1,
    fun e he => (hentry e he).2.2⟩
  · rw [List.map_append, List.nodup_append]
    refine ⟨hnodup, List.nodup_singleton _, fun a ha b hb => ?_⟩
    rintro rfl
    exact (hmem a).1 ha (List.mem_singleton.1 hb ▸ hnew)
  · rw [List.map_append, List.mem_append, hmem]
    by_cases ho : o = orig
    · simp [ho, RtKind.nextHop]
    · simp [ho]

/-- The entries of a route that was there. -/
lemma RtShows.replays_of_route (hkind : ∀ nextHop, kind ≠ .add nextHop)
    (hold : routes orig ≠ none) :
    RtReplays routes orig kind (rtCopied orig kind.nextHop kind.flag l) := by
  refine ⟨h.nodup_copied orig kind, fun o => ?_, fun e he => (h.copied kind he).2.1,
    fun e he => (h.copied kind he).2.2, fun e he => ?_⟩
  · rw [h.mem_copied_iff orig kind]
    by_cases ho : o = orig
    · rw [ho, Function.update_self]
      cases kind with
      | add nextHop => exact absurd rfl (hkind nextHop)
      | update nextHop oldNextHop => simp [hold, RtKind.nextHop]
      | delete => simp [hold]
    · simp [ho]
  · obtain ⟨hne, -, hhop⟩ := h.copied kind he
    rw [hhop]
    split_ifs with horig
    · cases hnext : kind.nextHop with
      | none => exact hold
      | some nextHop => exact Option.some_ne_none _
    · exact hne

/-- Only one entry is copied if there is no other route. -/
lemma RtShows.length_copied_iff (kind : RtKind) (hold : routes orig ≠ none) :
    (rtCopied orig kind.nextHop kind.flag l).length ≠ 1 ↔ ∃ o ≠ orig, routes o ≠ none := by
  have hmem := h.mem_copied_iff orig kind
  have hnodup := h.nodup_copied orig kind
  rw [← List.length_map RtEntry.orig] at *
  generalize (rtCopied orig kind.nextHop kind.flag l).map RtEntry.orig = origs at hmem hnodup ⊢
  constructor
  · intro hone
    by_contra hother
    have hall : ∀ o ∈ origs, o = orig := fun o ho => by
      by_contra hne
      exact hother ⟨o, hne, (hmem o).1 ho⟩
    rcases origs with _ | ⟨a, _ | ⟨b, origs⟩⟩
    · exact absurd ((hmem orig).2 hold) (List.not_mem_nil)
    · exact hone rfl
    · rw [List.nodup_cons] at hnodup
      refine hnodup.1 ?_
      rw [hall a (by simp), ← hall b (by simp)]
      exact List.mem_cons_self
  · rintro ⟨o, hne, ho⟩ hone
    obtain ⟨a, rfl⟩ := List.length_eq_one_iff.1 hone
    exact hne ((List.mem_singleton.1 ((hmem o).2 ho)).trans
      (List.mem_singleton.1 ((hmem orig).2 hold)).symm)

/-- The only entry that is copied, if its route is not deleted. -/
lemma RtShows.copied_eq_singleton (hold : routes orig ≠ none) (hkind : kind ≠ .delete)
    (hone : (rtCopied orig kind.nextHop kind.flag l).length = 1) :
    rtCopied orig kind.nextHop kind.flag l = [⟨orig, kind.nextHop, kind.flag⟩] := by
  obtain ⟨e, he⟩ := List.length_eq_one_iff.1 hone
  have hmem : e ∈ rtCopied orig kind.nextHop kind.flag l := by
    rw [he]
    exact List.mem_singleton_self e
  have horig : e.orig = orig := by
    have horig := (h.mem_copied_iff orig kind orig).2 hold
    rw [he] at horig
    exact (List.mem_singleton.1 horig).symm
  obtain ⟨-, hflags, hhop⟩ := h.copied kind hmem
  obtain ⟨nextHop, hnext⟩ := Option.ne_none_iff_exists'.1 (mt RtKind.nextHop_eq_none_iff.1 hkind)
  rw [if_pos horig] at hflags hhop
  rw [hnext, Option.some_or] at hhop
  rw [he, ← hflags, ← horig, hnext, ← hhop]

end Shows

/-! ### Reading a log -/

/-- What is known while a log is read. -/
structure ReplayInv (s : Replay) : Prop where
  events : ∀ o origEvent, (s.node.getD .new).origEvents.get o = some origEvent →
    ∀ event ∈ origEvent.eventList, event.orig = o
  heard : ∀ o, s.heard o → ∃ node origEvent, s.node = some node ∧
    node.origEvents.get o = some origEvent ∧ origEvent.eventList ≠ []
  first : (s.node.getD .new).rtTables = [] → ∀ o, s.routes o = none
  last : ∀ table, (s.node.getD .new).rtTables.getLast? = some table →
    ∃ l, table.Holds l ∧ RtShows s.routes l

lemma replayInv_new : ReplayInv .new where
  events o origEvent h := by simp [Replay.new, BatNode.new] at h
  heard o h := h.elim
  first _ _ := rfl
  last table h := by simp [Replay.new, BatNode.new] at h

/-- An event that gets its place in the history. -/
lemma orig_modify {events : List SeqnoEvent} {orig : EthAddr}
    (h : ∀ event ∈ events, event.orig = orig) (i : ℕ) (hist : Option ℕ) :
    ∀ event ∈ events.modify i fun event => { event with rtHist := hist }, event.orig = orig := by
  intro event hevent
  obtain ⟨j, hj, rfl⟩ := List.mem_iff_getElem.1 hevent
  rw [List.length_modify] at hj
  rw [List.getElem_modify]
  split_ifs
  · exact h events[j] (List.getElem_mem hj)
  · exact h events[j] (List.getElem_mem hj)

/-- The events of an originator after a change. -/
lemma OrigEvent.orig_addHist {origEvent : OrigEvent} {orig : EthAddr} {nextHop : Option EthAddr}
    {rtFlag : U8} {prev : Option RtTable} (h : ∀ event ∈ origEvent.eventList, event.orig = orig) :
    ∀ event ∈ (origEvent.addHist orig nextHop rtFlag prev).eventList, event.orig = orig := by
  have hall : ∀ event ∈ (if rtFlag = RT_FLAG_DELETE ∧ prev.isSome
      then origEvent.eventList ++ [⟨orig, none, none, -1, -1, -1, none⟩]
      else origEvent.eventList), event.orig = orig := by
    split_ifs
    · intro event hevent
      rcases List.mem_append.1 hevent with hevent | hevent
      · exact h event hevent
      · rw [List.mem_singleton.1 hevent]
    · exact h
  exact orig_modify hall _ _

lemma OrigEvent.addHist_ne_nil {origEvent : OrigEvent} {orig : EthAddr} {nextHop : Option EthAddr}
    {rtFlag : U8} {prev : Option RtTable} (h : origEvent.eventList ≠ []) :
    (origEvent.addHist orig nextHop rtFlag prev).eventList ≠ [] := by
  rw [← List.length_pos_iff, OrigEvent.addHist, List.length_modify, List.length_pos_iff]
  split_ifs
  · exact List.append_ne_nil_of_right_ne_nil _ (List.cons_ne_nil _ _)
  · exact h

/-- **A change of an originator of which a packet was received** does not fail before the table is
filled. -/
lemma routingTableNew_of_heard {node : BatNode} {orig : EthAddr} {kind : RtKind}
    {origEvent : OrigEvent} (hget : node.origEvents.get orig = some origEvent)
    (hne : origEvent.eventList ≠ []) (horig : ∀ event ∈ origEvent.eventList, event.orig = orig)
    (hhas : kind = .delete → ∀ table, node.rtTables.getLast? = some table → table.has orig = true) :
    routingTableNew (some node) (some orig) kind.nextHop kind.oldNextHop kind.flag =
      (rtFill node.rtTables.getLast? orig kind.nextHop kind.flag).map fun table =>
        (none, some { node.setOrigEvent orig
          (origEvent.addHist orig kind.nextHop kind.flag node.rtTables.getLast?) with
            rtTables := node.rtTables ++ [table] }) := by
  obtain ⟨event, hlast⟩ : ∃ event, origEvent.eventList.getLast? = some event := by
    rw [← Option.ne_none_iff_exists']
    simpa using hne
  have hevent : event.orig = orig := horig event (List.mem_of_getLast? hlast)
  have hnext : ¬ (kind.flag ≠ RT_FLAG_DELETE ∧ kind.nextHop = none) := by
    rw [ne_eq, RtKind.flag_eq_delete_iff, RtKind.nextHop_eq_none_iff]
    exact fun h => h.1 h.2
  have hold : ¬ (kind.flag = RT_FLAG_UPDATE ∧ kind.oldNextHop = none) := by
    cases kind <;>
      simp [RtKind.flag, RtKind.oldNextHop, RT_FLAG_ADD, RT_FLAG_UPDATE, RT_FLAG_DELETE]
  have hflag : kind.flag = RT_FLAG_ADD ∨ kind.flag = RT_FLAG_UPDATE ∨
      kind.flag = RT_FLAG_DELETE := by
    cases kind <;> simp [RtKind.flag]
  have hrecord : ¬ (kind.flag = RT_FLAG_DELETE ∧
      node.rtTables.getLast?.any (fun prev => !prev.has orig)) := by
    rintro ⟨hdel, hany⟩
    cases htable : node.rtTables.getLast? with
    | none => simp [htable] at hany
    | some table => simp [htable, hhas (RtKind.flag_eq_delete_iff.1 hdel) table htable] at hany
  have hrec : node.origEventGet orig = (node, origEvent) := by
    simp only [BatNode.origEventGet, hget]
  simp only [routingTableNew, if_neg hnext, if_neg hold, hrec, hlast, hevent, ne_eq,
    not_true_eq_false, if_false, hflag, if_neg hrecord]

/-- A table has only one list of entries. -/
lemma RtTable.Holds.unique {table : RtTable} {l l' : List RtEntry} (h : table.Holds l)
    (h' : table.Holds l') : l = l' :=
  (List.map_injective_iff.2 (Option.some_injective _)) (h.take.symm.trans h'.take)

/-- **What the table of a change holds**: it shows the routes that there are then, and what it has
to except for the only route that is deleted. -/
lemma rtFill_replays {prev : Option RtTable} {routes : EthAddr → Option EthAddr} {orig : EthAddr}
    (kind : RtKind) (hfirst : prev = none → ∀ o, routes o = none)
    (hlast : ∀ table, prev = some table → ∃ l, table.Holds l ∧ RtShows routes l)
    (hadd : ∀ nextHop, kind = .add nextHop → routes orig = none)
    (hold : (∀ nextHop, kind ≠ .add nextHop) → routes orig ≠ none) :
    ∃ table l, rtFill prev orig kind.nextHop kind.flag = some table ∧ table.Holds l ∧
      RtShows (Function.update routes orig kind.nextHop) l ∧
      (RtReplays routes orig kind l ↔ (kind = .delete → ∃ o ≠ orig, routes o ≠ none)) := by
  by_cases hkind : ∃ nextHop, kind = .add nextHop
  · obtain ⟨nextHop, rfl⟩ := hkind
    have htable : ∃ table l, rtFill prev orig (some nextHop) RT_FLAG_ADD = some table ∧
        table.Holds l ∧ RtReplays routes orig (.add nextHop) l := by
      cases prev with
      | none =>
        have hnone : RtShows routes [] :=
          ⟨List.nodup_nil, fun e he => absurd he (List.not_mem_nil),
            fun e he => absurd he (List.not_mem_nil), fun o ho => absurd (hfirst rfl o) ho⟩
        exact ⟨_, _, rtFill_first, ⟨rfl, 0, rfl⟩, hnone.replays_add (hadd nextHop rfl)⟩
      | some table =>
        obtain ⟨l, hholds, hshows⟩ := hlast table rfl
        obtain ⟨table', hfill, hholds'⟩ := rtFill_appends orig (some nextHop) hholds rfl
        exact ⟨table', _, hfill, hholds', hshows.replays_add (hadd nextHop rfl)⟩
    obtain ⟨table, l, hfill, hholds, hreplays⟩ := htable
    exact ⟨table, l, hfill, hholds, hreplays.shows, iff_of_true hreplays (by simp)⟩
  · have hne : ∀ nextHop, kind ≠ .add nextHop := fun nextHop heq => hkind ⟨nextHop, heq⟩
    have hroute := hold hne
    cases prev with
    | none => exact absurd (hfirst rfl orig) hroute
    | some table =>
      obtain ⟨l, hholds, hshows⟩ := hlast table rfl
      have hflag : kind.flag ≠ RT_FLAG_ADD := by
        cases kind with
        | add nextHop => exact absurd rfl (hne nextHop)
        | update nextHop oldNextHop => exact (by decide : RT_FLAG_UPDATE ≠ RT_FLAG_ADD)
        | delete => exact (by decide : RT_FLAG_DELETE ≠ RT_FLAG_ADD)
      have hhas : ∃ e ∈ l, e.orig = orig := List.mem_map.1 (hshows.covers orig hroute)
      have hreplays := hshows.replays_of_route hne hroute
      have hlen := hshows.length_copied_iff kind hroute
      by_cases hone : (rtCopied orig kind.nextHop kind.flag l).length = 1
      · obtain ⟨table', hfill, hholds'⟩ := rtFill_changes_only hholds hflag hhas hone
        refine ⟨table', _, hfill, hholds', ?_⟩
        have hother : ¬ ∃ o ≠ orig, routes o ≠ none := fun h => hlen.2 h hone
        by_cases hdelete : kind = .delete
        · subst hdelete
          refine ⟨⟨by simp, fun e he hflag => ?_, fun e he _ => ?_, fun o ho => ?_⟩,
            iff_of_false (fun h => ?_) fun h => hother (h rfl)⟩
          · exact absurd (congrArg RtEntry.flags (List.mem_singleton.1 he)) hflag
          · rw [List.mem_singleton.1 he, Function.update_self]
            rfl
          · refine absurd ⟨o, ?_, ?_⟩ hother
            · rintro rfl
              exact ho (Function.update_self _ _ _)
            · rwa [Function.update_of_ne] at ho
              rintro rfl
              exact ho (Function.update_self _ _ _)
          · exact h.nextHop_ne_none _ List.mem_cons_self rfl
        · -- the entry is written once more with the same values
          have hcopied := hshows.copied_eq_singleton hroute hdelete hone
          rw [← hcopied]
          exact ⟨hreplays.shows, iff_of_true hreplays fun h => absurd h hdelete⟩
      · obtain ⟨table', hfill, hholds'⟩ := rtFill_changes hholds hflag hhas hone
        exact ⟨table', _, hfill, hholds', hreplays.shows,
          iff_of_true hreplays fun _ => hlen.1 hone⟩

/-- **A route that is deleted is not the only one.** -/
def RtNotOnly (s : Replay) : RtLog → Prop
  | .ogm _ _ _ _ _ _ => True
  | .route orig kind => kind = .delete → ∃ o ≠ orig, s.routes o ≠ none

/-- A packet whose numbers are in range. -/
lemma seqnoEventNew_of_valid (curr : Option BatNode) (node : BatNode)
    (orig prevSender neigh : EthAddr) {seqno tq ttl : ℤ} (hvalid : OgmValid seqno tq ttl)
    {node' : BatNode} {origEvent : OrigEvent} (hrec : node.origEventGet orig = (node', origEvent)) :
    (seqnoEventNew curr (some node) (some orig) (some prevSender) (some neigh) seqno tq ttl).2 =
      some (node'.setOrigEvent orig { origEvent with
        eventList := origEvent.eventList ++
          [⟨orig, some neigh, some prevSender, seqno, tq, ttl, none⟩] }) := by
  obtain ⟨⟨hseqno, hseqno'⟩, ⟨htq, htq'⟩, httl, httl'⟩ := hvalid
  simp only [seqnoEventNew]
  rw [if_neg (by omega), if_neg (by omega), if_neg (by omega), hrec]

/-- A packet with a number that is out of range. -/
lemma seqnoEventNew_of_not_valid (curr : Option BatNode) (node : BatNode)
    (orig prevSender neigh : EthAddr) {seqno tq ttl : ℤ} (hvalid : ¬ OgmValid seqno tq ttl) :
    (seqnoEventNew curr (some node) (some orig) (some prevSender) (some neigh) seqno tq ttl).2 =
      curr := by
  simp only [seqnoEventNew]
  split_ifs with hseqno htq httl
  · rfl
  · rfl
  · rfl
  · exact absurd ⟨by omega, by omega, by omega⟩ hvalid

lemma node_replayStep_route {s : Replay} {orig : EthAddr} {kind : RtKind} {error : Option String}
    {node : Option BatNode} (hcall : routingTableNew s.node (some orig) kind.nextHop kind.oldNextHop
      kind.flag = some (error, node)) : (replayStep s (.route orig kind)).node = node := by
  simp only [replayStep, hcall, Option.map_some, Option.getD_some]

/-- What is known after the record of one originator has changed. -/
lemma ReplayInv.change {s s' : Replay} {orig : EthAddr} {node' : BatNode} {origEvent : OrigEvent}
    (h : ReplayInv s) (hnode' : s'.node = some node')
    (hheard : ∀ o, s'.heard o → s.heard o ∨ o = orig)
    (hget : node'.origEvents.get orig = some origEvent) (hne : origEvent.eventList ≠ [])
    (horig : ∀ event ∈ origEvent.eventList, event.orig = orig)
    (hother : ∀ o ≠ orig, node'.origEvents.get o = (s.node.getD .new).origEvents.get o)
    (hfirst : node'.rtTables = [] → ∀ o, s'.routes o = none)
    (hlast : ∀ table, node'.rtTables.getLast? = some table →
      ∃ l, table.Holds l ∧ RtShows s'.routes l) : ReplayInv s' := by
  have hgetD : s'.node.getD .new = node' := by rw [hnode']; rfl
  refine ⟨fun o origEvent' hget' => ?_, fun o ho => ?_, by rwa [hgetD], by rwa [hgetD]⟩
  · rw [hgetD] at hget'
    by_cases ho : o = orig
    · subst ho
      rw [← Option.some.inj (hget.symm.trans hget')]
      exact horig
    · exact h.events o origEvent' ((hother o ho).symm.trans hget')
  · by_cases heq : o = orig
    · subst heq
      exact ⟨node', origEvent, hnode', hget, hne⟩
    · obtain ⟨node, origEvent', hnode, hget', hne'⟩ := h.heard o ((hheard o ho).resolve_right heq)
      refine ⟨node', origEvent', hnode', ?_, hne'⟩
      rw [hother o heq, hnode]
      exact hget'

/-- A packet keeps what is known. -/
lemma replayInv_ogm {s : Replay} (h : ReplayInv s) (orig neigh prevSender : EthAddr)
    (seqno tq ttl : ℤ) : ReplayInv (replayStep s (.ogm orig neigh prevSender seqno tq ttl)) := by
  by_cases hvalid : OgmValid seqno tq ttl
  · obtain ⟨node', hrec, htables, hget, hother⟩ := (s.node.getD .new).origEventGet_eq orig
    have horig : ∀ event ∈ (((s.node.getD .new).origEvents.get orig).getD ⟨[], []⟩).eventList,
        event.orig = orig := by
      cases hold : (s.node.getD .new).origEvents.get orig with
      | none => exact fun event hevent => absurd hevent (List.not_mem_nil)
      | some origEvent => exact h.events orig origEvent hold
    have hcall := seqnoEventNew_of_valid s.node (s.node.getD .new) orig prevSender neigh hvalid hrec
    have hnode' : (replayStep s (.ogm orig neigh prevSender seqno tq ttl)).node = some _ := hcall
    refine h.change hnode' (fun o ho => ho.imp_right And.left)
      (BatNode.get_setOrigEvent_self _ ?_) ?_ (fun event hevent => ?_) (fun o ho => ?_) ?_ ?_
    · rw [hget]
      rfl
    · exact List.append_ne_nil_of_right_ne_nil _ (List.cons_ne_nil _ _)
    · rcases List.mem_append.1 hevent with hevent | hevent
      · exact horig event hevent
      · rw [List.mem_singleton.1 hevent]
    · exact (BatNode.get_setOrigEvent_of_ne _ ho).trans (hother o ho)
    · intro hnil
      exact h.first (htables ▸ hnil)
    · intro table htable
      exact h.last table (htables ▸ htable)
  · have hcall := seqnoEventNew_of_not_valid s.node (s.node.getD .new) orig prevSender neigh hvalid
    have hsame : replayStep s (.ogm orig neigh prevSender seqno tq ttl) = s := by
      simp only [replayStep, hcall, hvalid, and_false, or_false]
    rw [hsame]
    exact h

/-- **A change keeps what is known**, and its table holds what it has to exactly if the route that
is deleted is not the only one. -/
lemma replay_route {s : Replay} {orig : EthAddr} {kind : RtKind} (h : ReplayInv s)
    (hcons : ReplayConsistent s (.route orig kind)) :
    ReplayInv (replayStep s (.route orig kind)) ∧
      (ReplayFaithful s (.route orig kind) ↔ RtNotOnly s (.route orig kind)) := by
  have hheard : s.heard orig := by
    cases kind <;> exact hcons.1
  obtain ⟨node, origEvent, hnode, hget, hne⟩ := h.heard orig hheard
  have hgetD : s.node.getD .new = node := by rw [hnode]; rfl
  have horig : ∀ event ∈ origEvent.eventList, event.orig = orig :=
    h.events orig origEvent (by rw [hgetD]; exact hget)
  have hfirst : node.rtTables.getLast? = none → ∀ o, s.routes o = none := fun hnone =>
    h.first (by rw [hgetD]; exact List.getLast?_eq_none_iff.1 hnone)
  have hlast := h.last
  rw [hgetD] at hlast
  have hold : (∀ nextHop, kind ≠ .add nextHop) → s.routes orig ≠ none := by
    intro hkind
    cases kind with
    | add nextHop => exact absurd rfl (hkind nextHop)
    | update nextHop oldNextHop => exact hcons.2
    | delete => exact hcons.2
  obtain ⟨table, l, hfill, hholds, hshows, hiff⟩ := rtFill_replays kind hfirst hlast
    (fun nextHop hkind => by subst hkind; exact hcons.2) hold
  have hhas : kind = .delete → ∀ table, node.rtTables.getLast? = some table →
      table.has orig = true := by
    rintro rfl table htable
    obtain ⟨l, hholds, hshows⟩ := hlast table htable
    exact hholds.has_iff.2 (List.mem_map.1 (hshows.covers orig (hold (by simp))))
  have hcall := routingTableNew_of_heard hget hne horig hhas
  rw [hfill, Option.map_some] at hcall
  refine ⟨?_, ?_⟩
  · have hnode' : (replayStep s (.route orig kind)).node = some { node.setOrigEvent orig
        (origEvent.addHist orig kind.nextHop kind.flag node.rtTables.getLast?) with
          rtTables := node.rtTables ++ [table] } :=
      node_replayStep_route (by rw [hnode]; exact hcall)
    refine h.change hnode' (fun o ho => .inl ho) (BatNode.get_setOrigEvent_self _ ?_)
      (OrigEvent.addHist_ne_nil hne) (OrigEvent.orig_addHist horig) (fun o ho => ?_) ?_ ?_
    · rw [hget]
      rfl
    · rw [hgetD]
      exact BatNode.get_setOrigEvent_of_ne _ ho
    · exact fun hnil => absurd hnil (List.append_ne_nil_of_right_ne_nil _ (List.cons_ne_nil _ _))
    · intro table' htable'
      rw [← Option.some.inj ((List.getLast?_concat).symm.trans htable')]
      exact ⟨l, hholds, hshows⟩
  · rw [RtNotOnly, ← hiff]
    constructor
    · rintro ⟨node₀, node', table', l', hnode₀, hcall', htables, hholds', hreplays⟩
      obtain rfl : node = node₀ := Option.some.inj (hnode.symm.trans hnode₀)
      rw [hnode, hcall, Option.some.injEq, Prod.mk.injEq, Option.some.injEq] at hcall'
      rw [← hcall'.2] at htables
      have htable : table = table' := (List.cons.inj (List.append_cancel_left htables)).1
      rw [hholds.unique (htable ▸ hholds')]
      exact hreplays
    · intro hreplays
      exact ⟨node, _, table, l, hnode, by rw [hnode]; exact hcall, rfl, hholds, hreplays⟩

/-- One entry of a log keeps what is known, and it is replayed faithfully exactly if it does not
delete the only route. -/
lemma replay_step {s : Replay} (e : RtLog) (h : ReplayInv s) (hcons : ReplayConsistent s e) :
    ReplayInv (replayStep s e) ∧ (ReplayFaithful s e ↔ RtNotOnly s e) := by
  cases e with
  | ogm orig neigh prevSender seqno tq ttl => exact ⟨replayInv_ogm h _ _ _ _ _ _, Iff.rfl⟩
  | route orig kind => exact replay_route h hcons

/-- **A log is replayed faithfully**, with a table after every change that holds what it has to,
exactly if it never deletes the only route there is.

**Proof sketch.** By induction on the log the last table shows the routes.  The table of a change is
what was copied from it, with a new entry if the route is new or if there is only one entry; then
the next hop of the change is in it, and a deletion has none. -/
theorem routing_tables_replay_iff (es : List RtLog)
    (hcons : Run.AllSteps replayStep ReplayConsistent .new es) :
    Run.AllSteps replayStep ReplayFaithful .new es ↔
      Run.AllSteps replayStep RtNotOnly .new es := by
  constructor
  · intro h
    exact (hcons.and h).imp ReplayInv (fun s e hinv ⟨hc, hf⟩ =>
      ⟨(replay_step e hinv hc).2.1 hf, (replay_step e hinv hc).1⟩) replayInv_new
  · intro h
    exact (hcons.and h).imp ReplayInv (fun s e hinv ⟨hc, hn⟩ =>
      ⟨(replay_step e hinv hc).2.2 hn, (replay_step e hinv hc).1⟩) replayInv_new

/-- A log in which one of two routes is deleted. -/
def twoRoutesLog : List RtLog :=
  [.ogm 0x02000000000a 0x02000000000c 0x02000000000a 1 255 50,
    .route 0x02000000000a (.add 0x02000000000c),
    .ogm 0x02000000000b 0x02000000000c 0x02000000000b 1 255 50,
    .route 0x02000000000b (.add 0x02000000000c), .route 0x02000000000a .delete]

/-- It is replayed faithfully. -/
theorem routing_tables_replay_two : Run.AllSteps replayStep ReplayFaithful .new twoRoutesLog := by
  have hvalid : OgmValid 1 255 50 := by
    unfold OgmValid UINT32_MAX UINT8_MAX
    omega
  have hcons : Run.AllSteps replayStep ReplayConsistent .new twoRoutesLog :=
    ⟨trivial, ⟨.inr ⟨rfl, hvalid⟩, rfl⟩, trivial, ⟨.inr ⟨rfl, hvalid⟩, by decide⟩,
      ⟨.inl (.inr ⟨rfl, hvalid⟩), by decide⟩, trivial⟩
  have honly : Run.AllSteps replayStep RtNotOnly .new twoRoutesLog :=
    ⟨trivial, fun h => absurd h (by decide), trivial, fun h => absurd h (by decide),
      fun _ => ⟨0x02000000000b, by decide, by decide⟩, trivial⟩
  exact (routing_tables_replay_iff twoRoutesLog hcons).2 honly

/-- A log in which the only route is deleted. -/
def onlyRouteLog : List RtLog :=
  [.ogm 0x02000000000a 0x02000000000c 0x02000000000a 1 255 50,
    .route 0x02000000000a (.add 0x02000000000c), .route 0x02000000000a .delete]

/-- **The only route is deleted**: the entry in the last table has no next hop. -/
theorem routing_tables_delete_only :
    Run.AllSteps replayStep ReplayConsistent .new onlyRouteLog ∧
      ((Run.final replayStep .new onlyRouteLog).node.map fun node => node.rtTables.getLast?) =
        some (some ⟨1, [some ⟨0x02000000000a, none, RT_FLAG_DELETE⟩]⟩) ∧
      ¬ Run.AllSteps replayStep ReplayFaithful .new onlyRouteLog := by
  have hvalid : OgmValid 1 255 50 := by
    unfold OgmValid UINT32_MAX UINT8_MAX
    omega
  have hlast : ((Run.final replayStep .new onlyRouteLog).node.map
      fun node => node.rtTables.getLast?) =
        some (some ⟨1, [some ⟨0x02000000000a, none, RT_FLAG_DELETE⟩]⟩) := by decide +kernel
  refine ⟨⟨trivial, ⟨.inr ⟨rfl, hvalid⟩, rfl⟩, ⟨.inr ⟨rfl, hvalid⟩, by decide⟩, trivial⟩, hlast, ?_⟩
  rintro ⟨-, -, ⟨node, node', table, l, -, hcall, htables, hholds, hreplays⟩, -⟩
  have hfinal : (Run.final replayStep .new onlyRouteLog).node = some node' :=
    node_replayStep_route hcall
  rw [hfinal, Option.map_some, Option.some.injEq, htables, List.getLast?_concat,
    Option.some.injEq] at hlast
  subst hlast
  have hentry : (⟨1, [some ⟨0x02000000000a, none, RT_FLAG_DELETE⟩]⟩ : RtTable).Holds
      [⟨0x02000000000a, none, RT_FLAG_DELETE⟩] := ⟨rfl, 0, rfl⟩
  rw [hholds.unique hentry] at hreplays
  exact hreplays.nextHop_ne_none _ List.mem_cons_self rfl

end Batctl
