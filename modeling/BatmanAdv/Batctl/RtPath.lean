import BatmanAdv.Batctl.BisectIv
import Mathlib.Algebra.Order.Ring.Nat
import Mathlib.Logic.Function.Basic

set_option relaxedAutoImplicit false
set_option autoImplicit false

/-!
# Paths along routes (`batctl/bisect_iv.c`)

For a sequence number, each node has a route to a destination in its history.
`print_rt_path_at_seqno` follows them and leaves a marker in every node it goes on from; a node that
has the marker was there before.  A marker is a text in an array that is too short for it: it is
cut, or the bytes behind it are those of the stack.  Whether a marker that is found is from this
walk depends on the walks before.

## Main definitions

* `Batctl.BatLogs`, `Batctl.getRtHistBySeqno` — what was read of all nodes, and the route in use.
* `Batctl.snprintfMagic`, `Batctl.loopMagicText` — markers.
* `Batctl.rtPathWalk` — the walk of `print_rt_path_at_seqno`.
* `Batctl.rtRoute` — the same walk, if it remembers where it was.
* `Batctl.RtPath.Ok` — a walk ends, and tells of a loop if there is one.

## Main results

* `Batctl.rtPathWalk_finished` — every walk ends.
* `Batctl.rtPathWalk_ok_iff` — exactly when a walk is right.
-/

namespace Batctl

open Batadv

/-! ### Logs -/

/-- The nodes, in the order of `node_hash`. -/
abbrev BatLogs := Table EthAddr BatNode

/-- `orig_event_get_by_ptr`; a record that is made has no data. -/
def logOrigEvent (logs : BatLogs) (node orig : EthAddr) : OrigEvent :=
  ((logs.get node).bind fun node => node.origEvents.get orig).getD ⟨[], []⟩

/-- A change of a route has a next hop, unless the route is deleted. -/
def RtHist.Parsed (rtHist : RtHist) : Prop :=
  rtHist.nextHop = none ↔ rtHist.flags = RT_FLAG_DELETE

/-- What was read of an originator: an event has a sequence number, which is `-1` for a timeout, and
a change of a route has an event. -/
structure OrigEvent.Parsed (origEvent : OrigEvent) : Prop where
  seqno : ∀ event ∈ origEvent.eventList, -1 ≤ event.seqno
  seqnoEvent : ∀ rtHist ∈ origEvent.rtHistList, rtHist.seqnoEvent < origEvent.eventList.length
  rtHist : ∀ rtHist ∈ origEvent.rtHistList, rtHist.Parsed

/-- What was read of a node. -/
def BatNode.Parsed (node : BatNode) : Prop :=
  ∀ record ∈ node.origEvents, record.2.Parsed

/-- Logs that were parsed. -/
structure ParsedLogs where
  logs : BatLogs
  parsed : ∀ node ∈ logs, node.2.Parsed

/-- `get_rt_hist_by_seqno`. -/
def getRtHistBySeqno (origEvent : OrigEvent) (seqno : ℤ) : Option RtHist :=
  ((origEvent.eventList.takeWhile fun event => event.seqno ≤ seqno).foldl
    (fun rtHist event => if event.rtHist.isSome then event.rtHist else rtHist) none).bind
      fun i => origEvent.rtHistList[i]?

/-! ### Reading the logs -/

lemma OrigEvent.parsed_nil : OrigEvent.Parsed ⟨[], []⟩ :=
  ⟨fun _ h => absurd h List.not_mem_nil, fun _ h => absurd h List.not_mem_nil,
    fun _ h => absurd h List.not_mem_nil⟩

/-- Another event. -/
lemma OrigEvent.Parsed.append {origEvent : OrigEvent} (h : origEvent.Parsed) {event : SeqnoEvent}
    (hevent : -1 ≤ event.seqno) :
    OrigEvent.Parsed { origEvent with eventList := origEvent.eventList ++ [event] } where
  seqno := by
    intro e he
    rcases List.mem_append.1 he with he | he
    · exact h.seqno e he
    · exact List.mem_singleton.1 he ▸ hevent
  seqnoEvent := by
    intro rtHist hrtHist
    rw [List.length_append]
    exact Nat.lt_add_right _ (h.seqnoEvent rtHist hrtHist)
  rtHist := h.rtHist

/-- A change of the route, that points at the last event. -/
lemma OrigEvent.Parsed.change {origEvent : OrigEvent} (h : origEvent.Parsed)
    (hevents : origEvent.eventList ≠ []) (rtHist : Option ℕ) {change : RtHist}
    (hchange : change.seqnoEvent = origEvent.eventList.length - 1) (hparsed : change.Parsed) :
    OrigEvent.Parsed ⟨origEvent.eventList.modify (origEvent.eventList.length - 1)
      fun event => { event with rtHist := rtHist }, origEvent.rtHistList ++ [change]⟩ where
  seqno := by
    intro event hevent
    obtain ⟨i, hi⟩ := List.mem_iff_getElem?.1 hevent
    rw [List.getElem?_modify] at hi
    obtain ⟨old, hold, hold'⟩ := Option.map_eq_some_iff.1 hi
    have hseqno := h.seqno old (List.mem_of_getElem? hold)
    split_ifs at hold'
    · exact hold' ▸ hseqno
    · exact hold' ▸ hseqno
  seqnoEvent := by
    intro entry hentry
    dsimp only
    rw [List.length_modify]
    rcases List.mem_append.1 hentry with hentry | hentry
    · exact h.seqnoEvent entry hentry
    · rw [List.mem_singleton.1 hentry, hchange]
      exact Nat.sub_lt (List.length_pos_of_ne_nil hevents) Nat.one_pos
  rtHist := by
    intro entry hentry
    rcases List.mem_append.1 hentry with hentry | hentry
    · exact h.rtHist entry hentry
    · exact List.mem_singleton.1 hentry ▸ hparsed

lemma OrigEvent.Parsed.addHist {origEvent : OrigEvent} (h : origEvent.Parsed)
    (hevents : origEvent.eventList ≠ []) (orig : EthAddr) {nextHop : Option EthAddr} {rtFlag : U8}
    (hnextHop : nextHop = none ↔ rtFlag = RT_FLAG_DELETE) (prev : Option RtTable) :
    (origEvent.addHist orig nextHop rtFlag prev).Parsed := by
  unfold OrigEvent.addHist
  by_cases hdelete : rtFlag = RT_FLAG_DELETE ∧ prev.isSome
  · rw [if_pos hdelete]
    have hevent : -1 ≤ (⟨orig, none, none, -1, -1, -1, none⟩ : SeqnoEvent).seqno := le_refl (-1)
    exact (h.append hevent).change
      (List.append_ne_nil_of_right_ne_nil _ (List.cons_ne_nil _ _)) _ rfl hnextHop
  · rw [if_neg hdelete]
    exact h.change hevents _ rfl hnextHop

lemma BatNode.parsed_new : BatNode.new.Parsed := fun _ h => absurd h List.not_mem_nil

/-- The record that is looked for is as it was read, and so is the node. -/
lemma BatNode.Parsed.origEventGet {node : BatNode} (h : node.Parsed) (orig : EthAddr) :
    (node.origEventGet orig).1.Parsed ∧ (node.origEventGet orig).2.Parsed := by
  unfold BatNode.origEventGet
  cases hget : node.origEvents.get orig with
  | some origEvent => exact ⟨h, h _ (Table.mem_of_get hget)⟩
  | none =>
    refine ⟨fun record hrecord => ?_, OrigEvent.parsed_nil⟩
    rcases List.mem_append.1 hrecord with hrecord | hrecord
    · exact h record hrecord
    · exact List.mem_singleton.1 hrecord ▸ OrigEvent.parsed_nil

lemma ParsedLogs.logOrigEvent (parsed : ParsedLogs) (node orig : EthAddr) :
    (Batctl.logOrigEvent parsed.logs node orig).Parsed := by
  unfold Batctl.logOrigEvent
  cases hnode : parsed.logs.get node with
  | none => exact OrigEvent.parsed_nil
  | some batNode =>
    rw [Option.bind_some]
    cases hget : batNode.origEvents.get orig with
    | none => exact OrigEvent.parsed_nil
    | some origEvent => exact parsed.parsed _ (Table.mem_of_get hnode) _ (Table.mem_of_get hget)

lemma BatNode.Parsed.setOrigEvent {node : BatNode} (h : node.Parsed) (orig : EthAddr)
    {origEvent : OrigEvent} (horigEvent : origEvent.Parsed) :
    (node.setOrigEvent orig origEvent).Parsed := by
  intro record hrecord
  rcases Table.mem_replace hrecord with hrecord | rfl
  · exact h record hrecord
  · exact horigEvent

/-- A packet is read. -/
theorem BatNode.Parsed.seqnoEventNew {curr node : Option BatNode} (hcurr : ∀ n ∈ curr, n.Parsed)
    (hnode : ∀ n ∈ node, n.Parsed) (orig prevSender neigh : Option EthAddr) (seqno tq ttl : ℤ) :
    ∀ n ∈ (Batctl.seqnoEventNew curr node orig prevSender neigh seqno tq ttl).2, n.Parsed := by
  unfold Batctl.seqnoEventNew
  split
  · exact hcurr
  · exact hcurr
  · exact hcurr
  · rename_i node orig neigh
    split_ifs with hseqno
    · exact hcurr
    · exact hcurr
    · exact hcurr
    · cases prevSender with
      | none => exact hnode
      | some prevSender =>
        rintro n ⟨⟩
        have hget := (hnode node rfl).origEventGet orig
        refine hget.1.setOrigEvent orig (hget.2.append ?_)
        change -1 ≤ seqno
        omega

/-- A changed route is read; no next hop is passed with a deletion. -/
theorem BatNode.Parsed.routingTableNew {curr curr' : Option BatNode} {error : Option String}
    (hcurr : ∀ n ∈ curr, n.Parsed) {orig nextHop oldNextHop : Option EthAddr} {rtFlag : U8}
    (hdelete : rtFlag = RT_FLAG_DELETE → nextHop = none)
    (h : Batctl.routingTableNew curr orig nextHop oldNextHop rtFlag = some (error, curr')) :
    ∀ n ∈ curr', n.Parsed := by
  -- a line that is skipped
  have hskip : ∀ {e : Option String} {n : Option BatNode}, (∀ n' ∈ n, n'.Parsed) →
      some (e, n) = some (error, curr') → ∀ n ∈ curr', n.Parsed := by
    rintro e n hn heq
    obtain ⟨-, rfl⟩ := Prod.ext_iff.1 (Option.some.inj heq)
    exact hn
  unfold Batctl.routingTableNew at h
  split at h
  · exact hskip (fun n hn => absurd hn (by simp)) h
  · exact hskip hcurr h
  · rename_i node orig
    have hget := (hcurr node rfl).origEventGet orig
    by_cases hnextHop : rtFlag ≠ RT_FLAG_DELETE ∧ nextHop = none
    · rw [if_pos hnextHop] at h
      exact hskip hcurr h
    rw [if_neg hnextHop] at h
    by_cases hold : rtFlag = RT_FLAG_UPDATE ∧ oldNextHop = none
    · rw [if_pos hold] at h
      exact hskip hcurr h
    rw [if_neg hold] at h
    obtain ⟨⟨node', origEvent⟩, hrecord⟩ : ∃ r, node.origEventGet orig = r := ⟨_, rfl⟩
    rw [hrecord] at h hget
    dsimp only at h
    have hkept : ∀ n ∈ some node', n.Parsed := by
      rintro n ⟨⟩
      exact hget.1
    cases hlast : origEvent.eventList.getLast? with
    | none =>
      rw [hlast] at h
      exact hskip hkept h
    | some last =>
      rw [hlast] at h
      dsimp only at h
      by_cases horig : last.orig ≠ orig
      · rw [if_pos horig] at h
        exact hskip hkept h
      rw [if_neg horig] at h
      by_cases hflag : ¬ (rtFlag = RT_FLAG_ADD ∨ rtFlag = RT_FLAG_UPDATE ∨ rtFlag = RT_FLAG_DELETE)
      · rw [if_pos hflag] at h
        exact hskip hkept h
      rw [if_neg hflag] at h
      by_cases hhas : rtFlag = RT_FLAG_DELETE ∧ node'.rtTables.getLast?.any fun prev =>
          !prev.has orig
      · rw [if_pos hhas] at h
        exact hskip hkept h
      rw [if_neg hhas] at h
      obtain ⟨table, -, htable⟩ := Option.map_eq_some_iff.1 h
      obtain ⟨-, rfl⟩ := Prod.ext_iff.1 htable
      rintro n ⟨⟩
      have hevents : origEvent.eventList ≠ [] := by
        intro hnil
        rw [hnil] at hlast
        exact absurd hlast (by simp)
      have hnone : nextHop = none ↔ rtFlag = RT_FLAG_DELETE :=
        ⟨fun hnone => not_not.1 fun hflag => hnextHop ⟨hflag, hnone⟩, hdelete⟩
      exact hget.1.setOrigEvent orig (hget.2.addHist hevents orig hnone _)

/-! ### Markers -/

/-- `LOOP_MAGIC_LEN`. -/
def LOOP_MAGIC_LEN : ℕ := 42

/-- The bytes of a marker. -/
abbrev LoopMagic := List Char

/-- What is printed for `%lli`. -/
def lliText (n : ℤ) : List Char :=
  if n < 0 then '-' :: Nat.toDigits 10 n.natAbs else Nat.toDigits 10 n.natAbs

/-- The text of a marker. -/
def loopMagicText (src dst : EthAddr) (seqno rand : ℤ) : List Char :=
  macName src ++ macName dst ++ lliText seqno ++ lliText rand

/-- `snprintf` into an array on the stack: what does not fit is cut off, and the bytes behind the
terminator are left as they were. -/
def snprintfMagic (stack : ℕ → Char) (text : List Char) : LoopMagic :=
  let written := text.take (LOOP_MAGIC_LEN - 1) ++ [Char.ofNat 0]
  written ++ ((List.range LOOP_MAGIC_LEN).drop written.length).map stack

/-- The marker of a node or an entry that has none. -/
def noMagic : LoopMagic := List.replicate LOOP_MAGIC_LEN (Char.ofNat 0)

/-- The text of a marker, up to its terminator. -/
def magicText (magic : LoopMagic) : List Char := magic.takeWhile (· ≠ Char.ofNat 0)

/-- The text of a marker does not depend on the stack. -/
lemma magicText_snprintfMagic (stack stack' : ℕ → Char) (text : List Char) :
    magicText (snprintfMagic stack text) = magicText (snprintfMagic stack' text) := by
  have hwritten : ∀ st : ℕ → Char, magicText (snprintfMagic st text) =
      (text.take (LOOP_MAGIC_LEN - 1)).takeWhile (· ≠ Char.ofNat 0) := by
    intro st
    unfold magicText snprintfMagic
    dsimp only
    rw [List.append_assoc, List.takeWhile_append]
    split_ifs with hall
    · rw [List.singleton_append, List.takeWhile_cons_of_neg (by simp), List.append_nil]
      exact ((List.takeWhile_prefix _).eq_of_length hall).symm
    · rfl
  rw [hwritten, hwritten]

/-! ### Walks -/

/-- How a walk ends: at the destination, at a node without data or without a route, with the message
that there is a loop, or at a route without a next hop.  A walk is `unfinished` if it is given too
few steps. -/
inductive PathEnd
  | reached
  | noData
  | noRoute
  | loop
  | null
  | unfinished
deriving DecidableEq, Repr

/-- The nodes that are printed, and how the walk ends. -/
structure RtPath where
  walked : List EthAddr
  ending : PathEnd
deriving DecidableEq, Repr

section Walk

variable (logs : BatLogs) (dst : EthAddr) (seqno : ℤ)

/-- The node has data of the destination, so that its marker is looked at. -/
def HasRoutes (node : EthAddr) : Prop :=
  node ≠ dst ∧ (logOrigEvent logs node dst).eventList ≠ [] ∧
    (logOrigEvent logs node dst).rtHistList ≠ []

instance (node : EthAddr) : Decidable (HasRoutes logs dst node) :=
  inferInstanceAs (Decidable (_ ∧ _ ∧ _))

/-- **The walk of `print_rt_path_at_seqno`**, behind the nodes that were walked already. -/
def rtPathWalk (magic : LoopMagic) : ℕ → (EthAddr → LoopMagic) → List EthAddr → Option EthAddr →
    (EthAddr → LoopMagic) × RtPath
  | 0, marks, walked, _ => (marks, ⟨walked, .unfinished⟩)
  | _ + 1, marks, walked, none => (marks, ⟨walked, .null⟩)
  | fuel + 1, marks, walked, some node =>
    let walked := walked ++ [node]
    if node = dst then (marks, ⟨walked, .reached⟩)
    else if (logOrigEvent logs node dst).eventList = [] ∨
        (logOrigEvent logs node dst).rtHistList = [] then (marks, ⟨walked, .noData⟩)
    else if magic = marks node then (marks, ⟨walked, .loop⟩)
    else
      let marks := Function.update marks node magic
      match getRtHistBySeqno (logOrigEvent logs node dst) seqno with
      | none => (marks, ⟨walked, .noRoute⟩)
      | some rtHist => rtPathWalk magic fuel marks walked rtHist.nextHop

/-- **The walk along the routes**, that stops at the first node it comes back to. -/
def rtRoute : ℕ → List EthAddr → Option EthAddr → RtPath
  | 0, walked, _ => ⟨walked, .unfinished⟩
  | _ + 1, walked, none => ⟨walked, .null⟩
  | fuel + 1, walked, some node =>
    if ¬ HasRoutes logs dst node then
      ⟨walked ++ [node], if node = dst then .reached else .noData⟩
    else if walked.contains node then ⟨walked ++ [node], .loop⟩
    else
      match getRtHistBySeqno (logOrigEvent logs node dst) seqno with
      | none => ⟨walked ++ [node], .noRoute⟩
      | some rtHist => rtRoute fuel (walked ++ [node]) rtHist.nextHop

end Walk

/-- **A walk is right**: it ends, not at a missing next hop, and tells of a loop exactly if it came
back to a node. -/
def RtPath.Ok (path : RtPath) : Prop :=
  path.ending ≠ .null ∧ path.ending ≠ .unfinished ∧ (path.ending = .loop ↔ ¬ path.walked.Nodup)

instance (path : RtPath) : Decidable path.Ok := inferInstanceAs (Decidable (_ ∧ _ ∧ _))

/-! ### Steps of a walk -/

section Steps

variable {logs : BatLogs} {dst : EthAddr} {seqno : ℤ} {magic : LoopMagic} {fuel : ℕ}
  {marks : EthAddr → LoopMagic} {walked : List EthAddr} {node : EthAddr}

/-- One item less is counted. -/
lemma countP_lt_of_imp {α : Type*} {p q : α → Bool} {l : List α}
    (himp : ∀ a, q a = true → p a = true) {a : α} (ha : a ∈ l) (hp : p a = true)
    (hq : q a = false) : l.countP q < l.countP p := by
  induction l with
  | nil => exact absurd ha List.not_mem_nil
  | cons b l ih =>
    have hle : l.countP q ≤ l.countP p := List.countP_mono_left fun c _ => himp c
    rw [List.countP_cons, List.countP_cons]
    rcases List.mem_cons.1 ha with rfl | ha
    · rw [hp, hq]
      simpa using Nat.lt_succ_of_le hle
    · have hlt := ih ha
      cases hqb : q b with
      | true =>
        rw [himp b hqb]
        simpa using hlt
      | false =>
        simp only [Bool.false_eq_true, if_false, Nat.add_zero]
        exact hlt.trans_le (Nat.le_add_right _ _)

/-- A node with routes is one of the nodes. -/
lemma HasRoutes.mem_keys (h : HasRoutes logs dst node) : node ∈ logs.map Prod.fst := by
  by_contra hnot
  refine h.2.1 ?_
  have hget : logs.get node = none := Table.get_eq_none_iff.2 hnot
  rw [logOrigEvent, hget]
  rfl

lemma rtPathWalk_of_not_hasRoutes (h : ¬ HasRoutes logs dst node) :
    rtPathWalk logs dst seqno magic (fuel + 1) marks walked (some node) =
      (marks, ⟨walked ++ [node], if node = dst then .reached else .noData⟩) := by
  rw [rtPathWalk]
  by_cases hdst : node = dst
  · rw [if_pos hdst, if_pos hdst]
  · rw [if_neg hdst, if_neg hdst, if_pos]
    by_contra hno
    rw [not_or] at hno
    exact h ⟨hdst, hno⟩

lemma rtPathWalk_of_hasRoutes (h : HasRoutes logs dst node) :
    rtPathWalk logs dst seqno magic (fuel + 1) marks walked (some node) =
      if magic = marks node then (marks, ⟨walked ++ [node], .loop⟩)
      else
        match getRtHistBySeqno (logOrigEvent logs node dst) seqno with
        | none => (Function.update marks node magic, ⟨walked ++ [node], .noRoute⟩)
        | some rtHist => rtPathWalk logs dst seqno magic fuel (Function.update marks node magic)
          (walked ++ [node]) rtHist.nextHop := by
  rw [rtPathWalk, if_neg h.1, if_neg (not_or.2 h.2)]

/-- **Every walk ends**, whatever the markers are: it marks another node in each step.

**Proof sketch.** Induction on the number of steps, which is more than that of the nodes that have
another marker. -/
lemma rtPathWalk_finished (next : Option EthAddr)
    (hfuel : (logs.map Prod.fst).countP (fun n => marks n ≠ magic) < fuel) :
    (rtPathWalk logs dst seqno magic fuel marks walked next).2.ending ≠ .unfinished := by
  induction fuel generalizing marks walked next with
  | zero => exact absurd hfuel (Nat.not_lt_zero _)
  | succ fuel ih =>
    cases next with
    | none => exact PathEnd.noConfusion
    | some node =>
      by_cases hroutes : HasRoutes logs dst node
      · rw [rtPathWalk_of_hasRoutes hroutes]
        by_cases hmagic : magic = marks node
        · rw [if_pos hmagic]
          exact PathEnd.noConfusion
        · rw [if_neg hmagic]
          cases getRtHistBySeqno (logOrigEvent logs node dst) seqno with
          | none => exact PathEnd.noConfusion
          | some rtHist =>
            refine ih _ (Nat.lt_of_lt_of_le ?_ (Nat.le_of_lt_succ hfuel))
            refine countP_lt_of_imp (fun n hn => ?_) hroutes.mem_keys
              (decide_eq_true (Ne.symm hmagic)) ?_
            · rw [decide_eq_true_eq] at hn ⊢
              by_cases hnode : n = node
              · rw [hnode]
                exact Ne.symm hmagic
              · rwa [Function.update_of_ne hnode] at hn
            · rw [Function.update_self]
              exact decide_eq_false (not_not.2 rfl)
      · rw [rtPathWalk_of_not_hasRoutes hroutes]
        dsimp only
        split_ifs <;> exact PathEnd.noConfusion

/-- What was walked is walked. -/
lemma prefix_rtRoute (next : Option EthAddr) :
    walked <+: (rtRoute logs dst seqno fuel walked next).walked := by
  induction fuel generalizing walked next with
  | zero => exact List.prefix_rfl
  | succ fuel ih =>
    cases next with
    | none => exact List.prefix_rfl
    | some node =>
      rw [rtRoute]
      by_cases hroutes : HasRoutes logs dst node
      · rw [if_neg (not_not.2 hroutes)]
        by_cases hnode : walked.contains node
        · rw [if_pos hnode]
          exact List.prefix_append _ _
        · rw [if_neg hnode]
          cases getRtHistBySeqno (logOrigEvent logs node dst) seqno with
          | none => exact List.prefix_append _ _
          | some rtHist => exact (List.prefix_append _ _).trans (ih _)
      · rw [if_pos hroutes]
        exact List.prefix_append _ _

/-- **Exactly when a walk is right**, behind nodes that were walked.

**Proof sketch.** Induction on the number of steps, with the markers that were there before the
walk.  A node that was walked has the marker, and each of the other ones has its old one. -/
lemma rtPathWalk_ok_iff_of_walked {before : EthAddr → LoopMagic} (next : Option EthAddr)
    (hfuel : (logs.map Prod.fst).countP (fun n => n ∉ walked) < fuel)
    (hmarks : ∀ n, marks n = if n ∈ walked then magic else before n) (hnodup : walked.Nodup)
    (hwalked : ∀ n ∈ walked, HasRoutes logs dst n) :
    (rtPathWalk logs dst seqno magic fuel marks walked next).2.Ok ↔
      (rtRoute logs dst seqno fuel walked next).ending ≠ .null ∧
        ∀ n ∈ (rtRoute logs dst seqno fuel walked next).walked, n ∉ walked →
          HasRoutes logs dst n → before n ≠ magic := by
  induction fuel generalizing marks walked next with
  | zero => exact absurd hfuel (Nat.not_lt_zero _)
  | succ fuel ih =>
    cases next with
    | none => exact iff_of_false (fun h => h.1 rfl) fun h => h.1 rfl
    | some node =>
      have hnodup_of : node ∉ walked → (walked ++ [node]).Nodup := fun hnot =>
        List.nodup_append.2 ⟨hnodup, List.nodup_singleton _, fun a ha b hb => by
          rw [List.mem_singleton.1 hb]
          exact fun hab => hnot (hab ▸ ha)⟩
      have heq_of : ∀ n ∈ walked ++ [node], n ∉ walked → n = node := fun n hn hnot =>
        List.mem_singleton.1 ((List.mem_append.1 hn).resolve_left hnot)
      by_cases hroutes : HasRoutes logs dst node
      · rw [rtPathWalk_of_hasRoutes hroutes, rtRoute, if_neg (not_not.2 hroutes)]
        by_cases hnode : node ∈ walked
        · -- the walk came back
          have hdup : ¬ (walked ++ [node]).Nodup := fun h =>
            (List.nodup_append.1 h).2.2 node hnode node (List.mem_singleton_self _) rfl
          rw [if_pos (by rw [hmarks, if_pos hnode]), if_pos (List.contains_iff_mem.2 hnode)]
          exact iff_of_true ⟨PathEnd.noConfusion, PathEnd.noConfusion, iff_of_true rfl hdup⟩
            ⟨PathEnd.noConfusion, fun n hn hnot => absurd (heq_of n hn hnot ▸ hnode) hnot⟩
        · rw [hmarks node, if_neg hnode, if_neg (mt List.contains_iff_mem.1 hnode)]
          by_cases hmagic : magic = before node
          · -- a marker of an earlier walk
            rw [if_pos hmagic]
            refine iff_of_false (fun h => h.2.2.1 rfl (hnodup_of hnode)) fun h => ?_
            refine h.2 node ?_ hnode hroutes hmagic.symm
            cases getRtHistBySeqno (logOrigEvent logs node dst) seqno with
            | none => exact List.mem_append_right _ (List.mem_singleton_self _)
            | some rtHist =>
              exact (prefix_rtRoute _).subset (List.mem_append_right _ (List.mem_singleton_self _))
          · rw [if_neg hmagic]
            cases getRtHistBySeqno (logOrigEvent logs node dst) seqno with
            | none =>
              refine iff_of_true ⟨PathEnd.noConfusion, PathEnd.noConfusion,
                iff_of_false PathEnd.noConfusion (not_not.2 (hnodup_of hnode))⟩
                ⟨PathEnd.noConfusion, fun n hn hnot _ => ?_⟩
              exact heq_of n hn hnot ▸ Ne.symm hmagic
            | some rtHist =>
              have hless : (logs.map Prod.fst).countP (fun n => n ∉ walked ++ [node]) < fuel := by
                refine Nat.lt_of_lt_of_le ?_ (Nat.le_of_lt_succ hfuel)
                refine countP_lt_of_imp (fun n hn => ?_) hroutes.mem_keys
                  (decide_eq_true hnode) ?_
                · rw [decide_eq_true_eq] at hn ⊢
                  exact fun h => hn (List.mem_append_left _ h)
                · exact decide_eq_false
                    (not_not.2 (List.mem_append_right _ (List.mem_singleton_self _)))
              have hmarks' : ∀ n, Function.update marks node magic n =
                  if n ∈ walked ++ [node] then magic else before n := by
                intro n
                by_cases hn : n = node
                · subst hn
                  rw [Function.update_self, if_pos (by simp)]
                · rw [Function.update_of_ne hn, hmarks]
                  simp [hn]
              refine (ih rtHist.nextHop hless hmarks' (hnodup_of hnode) ?_).trans ?_
              · intro n hn
                rcases List.mem_append.1 hn with hn | hn
                · exact hwalked n hn
                · exact List.mem_singleton.1 hn ▸ hroutes
              · refine and_congr_right fun _ => ⟨fun h n hn hnot hr => ?_, fun h n hn hnot hr => ?_⟩
                · by_cases hnn : n = node
                  · exact hnn ▸ Ne.symm hmagic
                  · refine h n hn (fun hmem => ?_) hr
                    exact hnn (heq_of n hmem hnot)
                · exact h n hn (fun hmem => hnot (List.mem_append_left _ hmem)) hr
      · -- the destination, or a node without data
        have hnode : node ∉ walked := fun hmem => hroutes (hwalked node hmem)
        rw [rtPathWalk_of_not_hasRoutes hroutes, rtRoute, if_pos hroutes]
        have hends : ∀ e, e = PathEnd.reached ∨ e = PathEnd.noData →
            e ≠ .null ∧ e ≠ .unfinished ∧ e ≠ .loop := by
          rintro e (rfl | rfl) <;> decide
        obtain ⟨hnull, hunfinished, hloop⟩ := hends
          (if node = dst then PathEnd.reached else PathEnd.noData) (by split_ifs <;> simp)
        exact iff_of_true ⟨hnull, hunfinished, iff_of_false hloop (not_not.2 (hnodup_of hnode))⟩
          ⟨hnull, fun n hn hnot hr => absurd (heq_of n hn hnot ▸ hr) hroutes⟩

/-- **Exactly when a walk is right**: there is a next hop wherever it goes on, and no node that it
comes to has its marker from before. -/
theorem rtPathWalk_ok_iff (before : EthAddr → LoopMagic) (next : Option EthAddr) :
    (rtPathWalk logs dst seqno magic (logs.length + 1) before [] next).2.Ok ↔
      (rtRoute logs dst seqno (logs.length + 1) [] next).ending ≠ .null ∧
        ∀ n ∈ (rtRoute logs dst seqno (logs.length + 1) [] next).walked,
          HasRoutes logs dst n → before n ≠ magic := by
  have hfuel : (logs.map Prod.fst).countP (fun n => n ∉ ([] : List EthAddr)) < logs.length + 1 :=
    Nat.lt_succ_of_le ((List.countP_le_length).trans_eq (List.length_map _))
  rw [rtPathWalk_ok_iff_of_walked next hfuel (fun n => (if_neg List.not_mem_nil).symm)
    List.nodup_nil fun n hn => absurd hn List.not_mem_nil]
  exact and_congr_right fun _ => forall₂_congr fun n _ =>
    ⟨fun h => h List.not_mem_nil, fun h _ => h⟩

end Steps

end Batctl
