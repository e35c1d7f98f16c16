import BatmanAdv.Batctl.RtPath

set_option relaxedAutoImplicit false
set_option autoImplicit false

/-!
# Looking for routing loops (`batctl/bisect_iv.c`)

For every change of a route, `loop_detection` looks at the path as it was before and at the changes
on it since.  `find_rt_table_change` goes along the routes to the destination; for a change within
the range of sequence numbers it is called again with the numbers up to that change, and otherwise
it goes on at the next node.  It leaves markers in the nodes and in the entries of their histories,
and it ends because ranges get smaller and nodes are marked.  The bytes behind a short marker are
those of the stack of one call, and need not be those of another one.

Every call of the two functions is recorded, with the markers of the nodes as they were before it.

## Main definitions

* `Batctl.LoopState`, `Batctl.PathCall`, `Batctl.ChangeCall` — the markers and the calls.
* `Batctl.printRtPathAtSeqno`, `Batctl.findRtTableChange`, `Batctl.loopDetection` — the functions of
  these names; the last ones have a limit to the depth of calls.
* `Batctl.LoopCall.Right` — a call is not at a missing next hop, and a path that is printed is
  right.
* `Batctl.LoopCall.Sound`, `Batctl.ChangeCall.Kept` — the conditions on a call, and on the entry of
  a history that it is made for.

## Main results

* `Batctl.findRtTableChange_ends` — a call ends, within a depth that depends on the range.
* `Batctl.loopDetection_eq_of_ended` — the limit to the depth is immaterial if it is high enough.
* `Batctl.loop_detection_right` — when the analysis ends and is right.
* `Batctl.loop_detection_fails` — a log with a route that was deleted.
-/

namespace Batctl

open Batadv

/-! ### The functions -/

/-- A call of `print_rt_path_at_seqno`: the markers of the nodes before it, its own marker and its
arguments. -/
structure PathCall where
  before : EthAddr → LoopMagic
  magic : LoopMagic
  src : EthAddr
  dst : EthAddr
  nextHop : Option EthAddr
  seqno : ℤ
  rand : ℤ

/-- A call of `find_rt_table_change`, which is at the next hop of an entry of a history. -/
structure ChangeCall where
  before : EthAddr → LoopMagic
  magic : LoopMagic
  src : EthAddr
  dst : EthAddr
  rtHist : RtHist
  seqnoMin : ℤ
  seqnoMax : ℤ
  rand : ℤ

/-- `curr_node` -/
def ChangeCall.currNode (c : ChangeCall) : Option EthAddr := c.rtHist.nextHop

/-- A call of one of them. -/
inductive LoopCall
  | path (c : PathCall)
  | change (c : ChangeCall)

/-- The markers of the nodes and of the entries of their histories, and the calls up to now. -/
structure LoopState where
  loopMagic : EthAddr → LoopMagic
  loopMagic2 : EthAddr → LoopMagic
  histMagic : EthAddr → EthAddr → ℕ → LoopMagic
  calls : List LoopCall

/-- No call was made. -/
def LoopState.start : LoopState := ⟨fun _ => noMagic, fun _ => noMagic, fun _ _ _ => noMagic, []⟩

/-- The sequence number of an entry of the history. -/
def rtHistSeqno (origEvent : OrigEvent) (rtHist : RtHist) : ℤ :=
  (origEvent.eventList[rtHist.seqnoEvent]?).elim (-1) SeqnoEvent.seqno

/-- The originator of an entry of the history. -/
def rtHistOrig (orig : EthAddr) (origEvent : OrigEvent) (rtHist : RtHist) : EthAddr :=
  (origEvent.eventList[rtHist.seqnoEvent]?).elim orig SeqnoEvent.orig

/-- An entry is within a range of sequence numbers; `-1` stands for a timeout or for no bound. -/
def RtInRange (seqnoMin seqnoMax seqno : ℤ) : Prop :=
  seqno ≠ -1 ∧ ¬ (seqnoMin ≠ -1 ∧ seqno < seqnoMin) ∧ ¬ (seqnoMax ≠ -1 ∧ seqno ≥ seqnoMax)

instance (seqnoMin seqnoMax seqno : ℤ) : Decidable (RtInRange seqnoMin seqnoMax seqno) :=
  inferInstanceAs (Decidable (_ ∧ _ ∧ _))

/-- How the loop over a history ends: it is over, or the function returned. -/
inductive HistLoopEnd
  | ended (seqnoMinTmp : ℤ) (loopCheck : Bool)
  | returned (res : Option ℤ)

section Functions

variable (logs : BatLogs) (stack : ℕ → ℕ → Char)

/-- The marker of a call; each call has its own place on the stack. -/
def LoopState.magic (s : LoopState) (src dst : EthAddr) (seqno rand : ℤ) : LoopMagic :=
  snprintfMagic (stack s.calls.length) (loopMagicText src dst seqno rand)

/-- **`print_rt_path_at_seqno`**. -/
def printRtPathAtSeqno (s : LoopState) (src dst : EthAddr) (nextHop : Option EthAddr)
    (seqno rand : ℤ) : LoopState :=
  let magic := s.magic stack src dst seqno rand
  { s with
    loopMagic := (rtPathWalk logs dst seqno magic (logs.length + 1) s.loopMagic [] nextHop).1
    calls := s.calls ++ [.path ⟨s.loopMagic, magic, src, dst, nextHop, seqno, rand⟩] }

/-- The path of the source at a sequence number, if it has a route then. -/
def printRtHist (s : LoopState) (src dst : EthAddr) (seqno rand : ℤ) : LoopState :=
  match getRtHistBySeqno (logOrigEvent logs src dst) seqno with
  | none => s
  | some rtHist => printRtPathAtSeqno logs stack s src dst rtHist.nextHop seqno rand

/-- The loop of `find_rt_table_change` over the history of a node. -/
def rtHistLoop (find : LoopState → RtHist → ℤ → ℤ → Option ℤ × LoopState)
    (src dst node : EthAddr) (magic : LoopMagic) (seqnoMax rand : ℤ) :
    List (RtHist × ℕ) → LoopState → ℤ → Bool → HistLoopEnd × LoopState
  | [], s, seqnoMinTmp, loopCheck => (.ended seqnoMinTmp loopCheck, s)
  | (rtHist, i) :: rtHists, s, seqnoMinTmp, loopCheck =>
    let seqno := rtHistSeqno (logOrigEvent logs node dst) rtHist
    if ¬ RtInRange seqnoMinTmp seqnoMax seqno then
      rtHistLoop find src dst node magic seqnoMax rand rtHists s seqnoMinTmp loopCheck
    else if magic = s.histMagic node dst i then
      -- we are running in a loop
      (.returned (some (-2)), printRtHist logs stack s src dst seqno rand)
    else
      let marked := { s with histMagic := fun n o j =>
        if n = node ∧ o = dst ∧ j = i then magic else s.histMagic n o j }
      match find marked rtHist seqnoMinTmp seqno with
      | (none, s) => (.returned none, s)
      | (some res, s) =>
        -- the path was printed if the call did not run into a loop
        let s := if res = 0 then s else printRtHist logs stack s src dst seqno rand
        rtHistLoop find src dst node magic seqnoMax rand rtHists s (seqno + 1) true

/-- The state of a call of `find_rt_table_change`. -/
def LoopState.change (s : LoopState) (src dst : EthAddr) (rtHist : RtHist)
    (seqnoMin seqnoMax rand : ℤ) : LoopState :=
  { s with
    calls := s.calls ++ [.change ⟨s.loopMagic2, s.magic stack src dst seqnoMin rand, src, dst,
      rtHist, seqnoMin, seqnoMax, rand⟩] }

/-- `find_rt_table_change` behind the loop over the history of a node. -/
def findBehindLoop (find : LoopState → RtHist → ℤ → Option ℤ × LoopState)
    (src dst node : EthAddr) (magic : LoopMagic) (seqnoMin seqnoMax rand : ℤ) :
    HistLoopEnd × LoopState → Option ℤ × LoopState
  | (.returned res, s) => (res, s)
  | (.ended seqnoMinTmp loopCheck, s) =>
    if loopCheck = false ∧ magic = s.loopMagic2 node then
      -- no need to print the path twice
      (some (if seqnoMin = seqnoMax then -1 else -2),
        printRtHist logs stack s src dst seqnoMin rand)
    else
      let marked := if loopCheck then s
        else { s with loopMagic2 := (Function.update s.loopMagic2 node magic) }
      match getRtHistBySeqno (logOrigEvent logs node dst)
        (if seqnoMin = seqnoMax then seqnoMax else seqnoMax - 1) with
      | none => (some (-1), marked)
      | some rtHist => find marked rtHist seqnoMinTmp

/-- **`find_rt_table_change`**; every call of it is at the next hop of an entry of a history. -/
def findRtTableChange (src dst : EthAddr) (rand : ℤ) :
    ℕ → LoopState → RtHist → ℤ → ℤ → Option ℤ × LoopState
  | 0, s, _, _, _ => (none, s)
  | fuel + 1, s, rtHist, seqnoMin, seqnoMax =>
    let called := s.change stack src dst rtHist seqnoMin seqnoMax rand
    match rtHist.nextHop with
    | none => (some (-1), called)
    | some node =>
      -- recursion ends here
      if node = dst then (some 0, printRtHist logs stack called src dst seqnoMax rand)
      else
        let magic := s.magic stack src dst seqnoMin rand
        findBehindLoop logs stack
          (fun s rtHist seqnoMin => findRtTableChange src dst rand fuel s rtHist seqnoMin seqnoMax)
          src dst node magic seqnoMin seqnoMax rand
          (rtHistLoop logs stack (findRtTableChange src dst rand fuel) src dst node magic seqnoMax
            rand (logOrigEvent logs node dst).rtHistList.zipIdx called seqnoMin false)

/-- The variables of `loop_detection`; it has not `ended` if a call did not return. -/
structure LoopScan where
  lastSeqno : ℤ
  seqnoCount : ℤ
  state : LoopState
  ended : Bool

/-- What `loop_detection` does with an entry of a history. -/
def loopDetectionHist (fuel : ℕ) (src orig : EthAddr) (origEvent : OrigEvent)
    (seqnoMin seqnoMax : ℤ) (scan : LoopScan) (rtHist : RtHist) : LoopScan :=
  let seqno := rtHistSeqno origEvent rtHist
  let dst := rtHistOrig orig origEvent rtHist
  if scan.ended = false then scan
  else if seqno = -1 then scan
  else if seqnoMin ≠ -1 ∧ seqno < seqnoMin then scan
  else if seqnoMax ≠ -1 ∧ seqno > seqnoMax then scan
  else
    -- the routing table may be changed more than once with the same sequence number
    let count := if scan.lastSeqno = seqno then scan.seqnoCount + 1 else 0
    let validate (s : LoopState) : LoopScan :=
      ⟨seqno, count, printRtPathAtSeqno logs stack s src dst rtHist.nextHop seqno count, true⟩
    if rtHist.flags = RT_FLAG_DELETE then ⟨seqno, count, scan.state, true⟩
    else
      match rtHist.prevRtHist.bind fun i => origEvent.rtHistList[i]? with
      | none => validate scan.state
      | some prev =>
        let prevSeqno := rtHistSeqno origEvent prev
        if seqno = prevSeqno ∨ seqno < prevSeqno ∨ seqno = prevSeqno + 1 then validate scan.state
        else
          match findRtTableChange logs stack src dst count fuel scan.state prev (prevSeqno + 1)
            seqno with
          | (none, s) => ⟨seqno, count, s, false⟩
          | (some res, s) => if res ≠ -2 then ⟨seqno, count, s, true⟩ else validate s

/-- The entries that `loop_detection` looks at, of one node or all, and of one originator or all. -/
def loopItems (loopOrig filterOrig : Option EthAddr) :
    List (EthAddr × EthAddr × OrigEvent × RtHist) :=
  logs.flatMap fun node =>
    if loopOrig.any (· ≠ node.1) then []
    else node.2.origEvents.flatMap fun origEvent =>
      if node.1 = origEvent.1 ∨ filterOrig.any (· ≠ origEvent.1) ∨
          origEvent.2.eventList = [] then []
      else origEvent.2.rtHistList.map fun rtHist => (node.1, origEvent.1, origEvent.2, rtHist)

/-- One turn of the loops of `loop_detection`. -/
def loopDetectionItem (fuel : ℕ) (seqnoMin seqnoMax : ℤ) (scan : LoopScan)
    (item : EthAddr × EthAddr × OrigEvent × RtHist) : LoopScan :=
  loopDetectionHist logs stack fuel item.1 item.2.1 item.2.2.1 seqnoMin seqnoMax scan item.2.2.2

/-- **`loop_detection`**, with a limit to the depth of calls. -/
def loopDetection (fuel : ℕ) (loopOrig : Option EthAddr) (seqnoMin seqnoMax : ℤ)
    (filterOrig : Option EthAddr) : LoopScan :=
  (loopItems logs loopOrig filterOrig).foldl
    (loopDetectionItem logs stack fuel seqnoMin seqnoMax) ⟨-1, 0, .start, true⟩

end Functions

/-! ### Calls -/

section Calls

variable (logs : BatLogs)

/-- The path that a call prints. -/
def PathCall.path (c : PathCall) : RtPath :=
  (rtPathWalk logs c.dst c.seqno c.magic (logs.length + 1) c.before [] c.nextHop).2

/-- **A call is right**: it is not at a missing next hop, and a path that is printed is right. -/
def LoopCall.Right : LoopCall → Prop
  | .path c => (c.path logs).Ok
  | .change c => c.currNode ≠ none

/-- **A call starts well**: there is a next hop wherever a path goes on, and no node on its way has
its marker before; and no call that looks for changes is made for a route that was deleted. -/
def LoopCall.Sound : LoopCall → Prop
  | .path c =>
    let route := rtRoute logs c.dst c.seqno (logs.length + 1) [] c.nextHop
    route.ending ≠ .null ∧ ∀ n ∈ route.walked, HasRoutes logs c.dst n → c.before n ≠ c.magic
  | .change c => c.rtHist.flags ≠ RT_FLAG_DELETE

/-- **A marker is kept**: if a call finds no change within its range at a node, and the node has a
marker with the text of the call, then the bytes behind the text are the same. -/
def ChangeCall.Kept (c : ChangeCall) : Prop :=
  ∀ node, c.currNode = some node → node ≠ c.dst →
    (∀ rtHist ∈ (logOrigEvent logs node c.dst).rtHistList, ¬ RtInRange c.seqnoMin c.seqnoMax
      (rtHistSeqno (logOrigEvent logs node c.dst) rtHist)) →
    magicText (c.before node) = magicText c.magic → c.before node = c.magic

/-- A marker of `find_rt_table_change` is kept. -/
def LoopCall.Kept : LoopCall → Prop
  | .path _ => True
  | .change c => c.Kept logs

instance (c : LoopCall) : Decidable (c.Right logs) :=
  match c with
  | .path c => inferInstanceAs (Decidable (c.path logs).Ok)
  | .change c => inferInstanceAs (Decidable (c.currNode ≠ none))

instance (c : LoopCall) : Decidable (c.Sound logs) :=
  match c with
  | .path c =>
    let route := rtRoute logs c.dst c.seqno (logs.length + 1) [] c.nextHop
    decidable_of_iff (route.ending ≠ .null ∧
        route.walked.all fun n => decide (HasRoutes logs c.dst n → c.before n ≠ c.magic))
      (and_congr_right' (List.all_eq_true.trans (forall₂_congr fun _ _ => decide_eq_true_iff)))
  | .change c => inferInstanceAs (Decidable (c.rtHist.flags ≠ RT_FLAG_DELETE))

instance (c : ChangeCall) : Decidable (c.Kept logs) :=
  decidable_of_iff
    (c.currNode.all fun node => decide (node ≠ c.dst →
      ((logOrigEvent logs node c.dst).rtHistList.all fun rtHist =>
        decide (¬ RtInRange c.seqnoMin c.seqnoMax
          (rtHistSeqno (logOrigEvent logs node c.dst) rtHist))) →
      magicText (c.before node) = magicText c.magic → c.before node = c.magic))
    (by simp only [ChangeCall.Kept, Option.all_eq_true, List.all_eq_true, decide_eq_true_eq])

instance (c : LoopCall) : Decidable (c.Kept logs) :=
  match c with
  | .path _ => .isTrue trivial
  | .change c => inferInstanceAs (Decidable (c.Kept logs))

/-- A call that looks for changes is made for an entry with a property. -/
def LoopCall.IsFor (p : RtHist → Prop) : LoopCall → Prop
  | .path _ => True
  | .change c => p c.rtHist

/-- **A call is right exactly if** it starts well, if the entry that it is made for was read. -/
lemma LoopCall.right_iff {c : LoopCall} (h : c.IsFor RtHist.Parsed) :
    c.Right logs ↔ c.Sound logs := by
  cases c with
  | path c => exact rtPathWalk_ok_iff c.before c.nextHop
  | change c => exact not_congr h

end Calls

/-! ### More calls -/

section More

variable {p : RtHist → Prop} {s s' s'' : LoopState}

/-- More calls were made, for entries with a property. -/
def LoopState.Extends (p : RtHist → Prop) (s s' : LoopState) : Prop :=
  ∃ cs, s'.calls = s.calls ++ cs ∧ ∀ c ∈ cs, c.IsFor p

lemma LoopState.Extends.of_calls_eq (h : s'.calls = s.calls) : s.Extends p s' :=
  ⟨[], h.trans (List.append_nil _).symm, fun _ hc => absurd hc List.not_mem_nil⟩

lemma LoopState.Extends.of_append {c : LoopCall} (h : s'.calls = s.calls ++ [c]) (hc : c.IsFor p) :
    s.Extends p s' :=
  ⟨[c], h, fun _ hc' => List.mem_singleton.1 hc' ▸ hc⟩

lemma LoopState.Extends.trans (h : s.Extends p s') (h' : s'.Extends p s'') : s.Extends p s'' := by
  obtain ⟨cs, hcs, hall⟩ := h
  obtain ⟨cs', hcs', hall'⟩ := h'
  refine ⟨cs ++ cs', by rw [hcs', hcs, List.append_assoc], fun c hc => ?_⟩
  rcases List.mem_append.1 hc with hc | hc
  · exact hall c hc
  · exact hall' c hc

lemma LoopState.Extends.subset (h : s.Extends p s') : s.calls ⊆ s'.calls := by
  obtain ⟨cs, hcs, -⟩ := h
  rw [hcs]
  exact List.subset_append_left _ _

/-- All calls are for entries with a property, if those before are. -/
lemma LoopState.Extends.forall_calls (h : s.Extends p s') (hs : ∀ c ∈ s.calls, c.IsFor p) :
    ∀ c ∈ s'.calls, c.IsFor p := by
  obtain ⟨cs, hcs, hall⟩ := h
  rw [hcs]
  intro c hc
  rcases List.mem_append.1 hc with hc | hc
  · exact hs c hc
  · exact hall c hc

end More

/-! ### The recursion ends -/

section Termination

variable {logs : BatLogs} {stack : ℕ → ℕ → Char} {src dst node : EthAddr} {rand seqnoMax : ℤ}
  {magic : LoopMagic} {find : LoopState → RtHist → ℤ → ℤ → Option ℤ × LoopState}
  {p : RtHist → Prop}

lemma extends_printRtHist (s : LoopState) (src dst : EthAddr) (seqno rand : ℤ) :
    s.Extends p (printRtHist logs stack s src dst seqno rand) := by
  unfold printRtHist
  cases getRtHistBySeqno (logOrigEvent logs src dst) seqno with
  | none => exact .of_calls_eq rfl
  | some rtHist => exact .of_append rfl trivial

/-- One turn of the loop over a history, for an entry that is looked at. -/
lemma rtHistLoop_cons_of_inRange {s : LoopState} {seqnoMin : ℤ} {check : Bool} {rtHist : RtHist}
    {i : ℕ} {rtHists : List (RtHist × ℕ)}
    (hrange : RtInRange seqnoMin seqnoMax (rtHistSeqno (logOrigEvent logs node dst) rtHist)) :
    rtHistLoop logs stack find src dst node magic seqnoMax rand ((rtHist, i) :: rtHists) s seqnoMin
        check =
      if magic = s.histMagic node dst i then
        (.returned (some (-2)), printRtHist logs stack s src dst
          (rtHistSeqno (logOrigEvent logs node dst) rtHist) rand)
      else
        match find { s with histMagic := fun n o j =>
            if n = node ∧ o = dst ∧ j = i then magic else s.histMagic n o j }
          rtHist seqnoMin (rtHistSeqno (logOrigEvent logs node dst) rtHist) with
        | (none, s) => (.returned none, s)
        | (some res, s) => rtHistLoop logs stack find src dst node magic seqnoMax rand rtHists
          (if res = 0 then s else printRtHist logs stack s src dst
            (rtHistSeqno (logOrigEvent logs node dst) rtHist) rand)
          (rtHistSeqno (logOrigEvent logs node dst) rtHist + 1) true := by
  rw [rtHistLoop]
  dsimp only
  rw [if_neg (not_not.2 hrange)]

lemma rtHistLoop_cons_of_not_inRange {s : LoopState} {seqnoMin : ℤ} {check : Bool}
    {rtHist : RtHist} {i : ℕ} {rtHists : List (RtHist × ℕ)}
    (hrange : ¬ RtInRange seqnoMin seqnoMax (rtHistSeqno (logOrigEvent logs node dst) rtHist)) :
    rtHistLoop logs stack find src dst node magic seqnoMax rand ((rtHist, i) :: rtHists) s seqnoMin
        check =
      rtHistLoop logs stack find src dst node magic seqnoMax rand rtHists s seqnoMin check := by
  rw [rtHistLoop]
  dsimp only
  rw [if_pos hrange]

/-- The loop over a history makes calls for its entries. -/
lemma extends_rtHistLoop
    (hfind : ∀ (s : LoopState) rtHist a b, p rtHist → s.Extends p (find s rtHist a b).2)
    {rtHists : List (RtHist × ℕ)} (hp : ∀ entry ∈ rtHists, p entry.1) (s : LoopState)
    (seqnoMin : ℤ) (check : Bool) :
    s.Extends p (rtHistLoop logs stack find src dst node magic seqnoMax rand rtHists s seqnoMin
      check).2 := by
  induction rtHists generalizing s seqnoMin check with
  | nil => exact .of_calls_eq rfl
  | cons entry rtHists ih =>
    obtain ⟨rtHist, i⟩ := entry
    rw [List.forall_mem_cons] at hp
    by_cases hrange : RtInRange seqnoMin seqnoMax
        (rtHistSeqno (logOrigEvent logs node dst) rtHist)
    · rw [rtHistLoop_cons_of_inRange hrange]
      by_cases hmagic : magic = s.histMagic node dst i
      · rw [if_pos hmagic]
        exact extends_printRtHist _ _ _ _ _
      · rw [if_neg hmagic]
        obtain ⟨marked, hmarked⟩ : ∃ marked : LoopState, marked = { s with
          histMagic := fun n o j => if n = node ∧ o = dst ∧ j = i then magic
            else s.histMagic n o j } := ⟨_, rfl⟩
        have hbefore : s.Extends p marked := .of_calls_eq (by rw [hmarked])
        have hcall := hbefore.trans (hfind marked rtHist seqnoMin
          (rtHistSeqno (logOrigEvent logs node dst) rtHist) hp.1)
        rw [← hmarked]
        obtain ⟨⟨res, s'⟩, hres⟩ : ∃ r, find marked rtHist seqnoMin
          (rtHistSeqno (logOrigEvent logs node dst) rtHist) = r := ⟨_, rfl⟩
        rw [hres] at hcall ⊢
        cases res with
        | none => exact hcall
        | some res =>
          refine hcall.trans (LoopState.Extends.trans ?_ (ih hp.2 _ _ true))
          split_ifs
          · exact .of_calls_eq rfl
          · exact extends_printRtHist _ _ _ _ _
    · rw [rtHistLoop_cons_of_not_inRange hrange]
      exact ih hp.2 s seqnoMin check

/-- **The loop over a history ends**, if the calls for smaller ranges do: it looked at nothing and
changed nothing, or the range got smaller.

**Proof sketch.** Induction on the entries.  A call is for a range that ends before the upper bound,
and the range that is left starts behind it. -/
lemma rtHistLoop_ends {size : ℤ}
    (hfind : ∀ s rtHist a b, 0 ≤ a → a ≤ b → b - a < size →
      (∀ c ∈ (find s rtHist a b).2.calls, c.Kept logs) → (find s rtHist a b).1.isSome)
    (rtHists : List (RtHist × ℕ)) (s : LoopState) {seqnoMin : ℤ} (check : Bool)
    (hmin : 0 ≤ seqnoMin) (hle : seqnoMin ≤ seqnoMax) (hsize : seqnoMax - seqnoMin ≤ size)
    {r : HistLoopEnd × LoopState}
    (hr : rtHistLoop logs stack find src dst node magic seqnoMax rand rtHists s seqnoMin check = r)
    (hkept : ∀ c ∈ r.2.calls, c.Kept logs) :
    (∃ res, r.1 = .returned (some res)) ∨
      (r = (.ended seqnoMin check, s) ∧ ∀ entry ∈ rtHists, ¬ RtInRange seqnoMin seqnoMax
        (rtHistSeqno (logOrigEvent logs node dst) entry.1)) ∨
      ∃ seqnoMin', r.1 = .ended seqnoMin' true ∧ seqnoMin < seqnoMin' ∧ seqnoMin' ≤ seqnoMax := by
  induction rtHists generalizing s seqnoMin check with
  | nil => exact .inr (.inl ⟨hr.symm, fun entry h => absurd h List.not_mem_nil⟩)
  | cons entry rtHists ih =>
    obtain ⟨rtHist, i⟩ := entry
    by_cases hrange : RtInRange seqnoMin seqnoMax
        (rtHistSeqno (logOrigEvent logs node dst) rtHist)
    · rw [rtHistLoop_cons_of_inRange hrange] at hr
      by_cases hmagic : magic = s.histMagic node dst i
      · rw [if_pos hmagic] at hr
        exact .inl ⟨-2, by rw [← hr]⟩
      · rw [if_neg hmagic] at hr
        have hlow : seqnoMin ≤ rtHistSeqno (logOrigEvent logs node dst) rtHist := by
          by_contra hlt
          exact hrange.2.1 ⟨by omega, not_le.1 hlt⟩
        have hhigh : rtHistSeqno (logOrigEvent logs node dst) rtHist < seqnoMax := by
          by_contra hge
          exact hrange.2.2 ⟨by omega, not_lt.1 hge⟩
        obtain ⟨marked, hmarked⟩ : ∃ marked : LoopState, marked = { s with
          histMagic := fun n o j => if n = node ∧ o = dst ∧ j = i then magic
            else s.histMagic n o j } := ⟨_, rfl⟩
        rw [← hmarked] at hr
        have hcall := hfind marked rtHist seqnoMin
          (rtHistSeqno (logOrigEvent logs node dst) rtHist) hmin hlow (by omega)
        obtain ⟨⟨res, s'⟩, hres⟩ : ∃ r, find marked rtHist seqnoMin
          (rtHistSeqno (logOrigEvent logs node dst) rtHist) = r := ⟨_, rfl⟩
        rw [hres] at hr hcall
        cases res with
        | none =>
          have hr' : (HistLoopEnd.returned none, s') = r := hr
          rw [← hr'] at hkept
          exact absurd (hcall hkept) (by simp)
        | some res =>
          have hr' : rtHistLoop logs stack find src dst node magic seqnoMax rand rtHists
            (if res = 0 then s' else printRtHist logs stack s' src dst
              (rtHistSeqno (logOrigEvent logs node dst) rtHist) rand)
            (rtHistSeqno (logOrigEvent logs node dst) rtHist + 1) true = r := hr
          rcases ih _ true (by omega) (by omega) (by omega) hr' with h | ⟨h, -⟩ | ⟨m, h, hlt, hmle⟩
          · exact .inl h
          · exact .inr (.inr ⟨_, by rw [h], by omega, by omega⟩)
          · exact .inr (.inr ⟨m, h, by omega, hmle⟩)
    · rw [rtHistLoop_cons_of_not_inRange hrange] at hr
      rcases ih s check hmin hle hsize hr with h | ⟨h, hnone⟩ | h
      · exact .inl h
      · exact .inr (.inl ⟨h, List.forall_mem_cons.2 ⟨hrange, hnone⟩⟩)
      · exact .inr (.inr h)

/-- A call behind the loop is for an entry of the history, too. -/
lemma extends_findBehindLoop {find : LoopState → RtHist → ℤ → Option ℤ × LoopState}
    (hfind : ∀ (s : LoopState) rtHist a, p rtHist → s.Extends p (find s rtHist a).2)
    (hp : ∀ rtHist ∈ (logOrigEvent logs node dst).rtHistList, p rtHist) (seqnoMin : ℤ)
    (r : HistLoopEnd × LoopState) :
    r.2.Extends p
      (findBehindLoop logs stack find src dst node magic seqnoMin seqnoMax rand r).2 := by
  obtain ⟨finish, s⟩ := r
  cases finish with
  | returned res => exact .of_calls_eq rfl
  | ended seqnoMinTmp loopCheck =>
    rw [findBehindLoop]
    by_cases hmagic : loopCheck = false ∧ magic = s.loopMagic2 node
    · rw [if_pos hmagic]
      exact extends_printRtHist _ _ _ _ _
    · rw [if_neg hmagic]
      dsimp only
      obtain ⟨marked, hmarked⟩ : ∃ marked : LoopState, (if loopCheck then s
          else { s with loopMagic2 := (Function.update s.loopMagic2 node magic) }) = marked :=
        ⟨_, rfl⟩
      have hcalls : s.Extends p marked := by
        refine .of_calls_eq ?_
        rw [← hmarked]
        split_ifs <;> rfl
      rw [hmarked]
      cases hhist : getRtHistBySeqno (logOrigEvent logs node dst)
          (if seqnoMin = seqnoMax then seqnoMax else seqnoMax - 1) with
      | none => exact hcalls
      | some rtHist =>
        obtain ⟨i, -, hi⟩ := Option.bind_eq_some_iff.1 hhist
        exact hcalls.trans (hfind _ _ _ (hp rtHist (List.mem_of_getElem? hi)))

/-- A call, and the calls it makes. -/
lemma extends_findRtTableChange
    (hp : ∀ node, ∀ rtHist ∈ (logOrigEvent logs node dst).rtHistList, p rtHist) (fuel : ℕ)
    (s : LoopState) {rtHist : RtHist} (hrtHist : p rtHist) (seqnoMin seqnoMax : ℤ) :
    s.Extends p (findRtTableChange logs stack src dst rand fuel s rtHist seqnoMin seqnoMax).2 := by
  induction fuel generalizing s rtHist seqnoMin seqnoMax with
  | zero => exact .of_calls_eq rfl
  | succ fuel ih =>
    have hcalled : s.Extends p (s.change stack src dst rtHist seqnoMin seqnoMax rand) :=
      .of_append rfl hrtHist
    rw [findRtTableChange]
    cases rtHist.nextHop with
    | none => exact hcalled
    | some node =>
      dsimp only
      refine hcalled.trans ?_
      by_cases hdst : node = dst
      · rw [if_pos hdst]
        exact extends_printRtHist _ _ _ _ _
      · rw [if_neg hdst]
        refine (extends_rtHistLoop (fun s rtHist a b h => ih s h a b) (fun entry hentry => ?_) _
          seqnoMin false).trans (extends_findBehindLoop (fun s rtHist a h => ih s h a seqnoMax)
            (hp node) seqnoMin _)
        obtain ⟨hist, i⟩ := entry
        exact hp node hist (List.mem_of_getElem? (List.mem_zipIdx_iff_getElem?.1 hentry))

/-- The loop over a history does the same with other calls, if none of its own reaches the limit
and the other ones do the same then. -/
lemma rtHistLoop_eq_of_isSome {find' : LoopState → RtHist → ℤ → ℤ → Option ℤ × LoopState}
    (hfind : ∀ s rtHist a b, (find s rtHist a b).1.isSome → find' s rtHist a b = find s rtHist a b)
    (rtHists : List (RtHist × ℕ)) (s : LoopState) (seqnoMin : ℤ) (check : Bool)
    (hended : (rtHistLoop logs stack find src dst node magic seqnoMax rand rtHists s seqnoMin
      check).1 ≠ .returned none) :
    rtHistLoop logs stack find' src dst node magic seqnoMax rand rtHists s seqnoMin check =
      rtHistLoop logs stack find src dst node magic seqnoMax rand rtHists s seqnoMin check := by
  induction rtHists generalizing s seqnoMin check with
  | nil => rfl
  | cons entry rtHists ih =>
    obtain ⟨rtHist, i⟩ := entry
    by_cases hrange : RtInRange seqnoMin seqnoMax
        (rtHistSeqno (logOrigEvent logs node dst) rtHist)
    · rw [rtHistLoop_cons_of_inRange hrange] at hended ⊢
      rw [rtHistLoop_cons_of_inRange hrange]
      by_cases hmagic : magic = s.histMagic node dst i
      · rw [if_pos hmagic, if_pos hmagic]
      · rw [if_neg hmagic] at hended ⊢
        rw [if_neg hmagic]
        obtain ⟨marked, hmarked⟩ : ∃ marked : LoopState, marked = { s with
          histMagic := fun n o j => if n = node ∧ o = dst ∧ j = i then magic
            else s.histMagic n o j } := ⟨_, rfl⟩
        have hcall := hfind marked rtHist seqnoMin
          (rtHistSeqno (logOrigEvent logs node dst) rtHist)
        rw [← hmarked] at hended ⊢
        obtain ⟨⟨res, s'⟩, hres⟩ : ∃ r, find marked rtHist seqnoMin
          (rtHistSeqno (logOrigEvent logs node dst) rtHist) = r := ⟨_, rfl⟩
        rw [hres] at hcall hended ⊢
        cases res with
        | none => exact absurd rfl hended
        | some res =>
          rw [hcall rfl]
          exact ih _ _ true hended
    · rw [rtHistLoop_cons_of_not_inRange hrange] at hended ⊢
      rw [rtHistLoop_cons_of_not_inRange hrange]
      exact ih s seqnoMin check hended

/-- So does what is behind the loop. -/
lemma findBehindLoop_eq_of_isSome {find find' : LoopState → RtHist → ℤ → Option ℤ × LoopState}
    (hfind : ∀ s rtHist a, (find s rtHist a).1.isSome → find' s rtHist a = find s rtHist a)
    (seqnoMin : ℤ) {r : HistLoopEnd × LoopState}
    (hsome :
      (findBehindLoop logs stack find src dst node magic seqnoMin seqnoMax rand r).1.isSome) :
    findBehindLoop logs stack find' src dst node magic seqnoMin seqnoMax rand r =
      findBehindLoop logs stack find src dst node magic seqnoMin seqnoMax rand r := by
  obtain ⟨finish, s⟩ := r
  cases finish with
  | returned res => rfl
  | ended seqnoMinTmp loopCheck =>
    rw [findBehindLoop] at hsome ⊢
    rw [findBehindLoop]
    by_cases hmagic : loopCheck = false ∧ magic = s.loopMagic2 node
    · rw [if_pos hmagic, if_pos hmagic]
    · rw [if_neg hmagic] at hsome ⊢
      rw [if_neg hmagic]
      dsimp only at hsome ⊢
      cases hhist : getRtHistBySeqno (logOrigEvent logs node dst)
          (if seqnoMin = seqnoMax then seqnoMax else seqnoMax - 1) with
      | none => rfl
      | some rtHist =>
        rw [hhist] at hsome
        exact hfind _ _ _ hsome

/-- **The limit is immaterial** for a call that does not reach it.

**Proof sketch.** Induction on the limit; none of the calls that it makes reaches it either. -/
lemma findRtTableChange_succ (fuel : ℕ) (s : LoopState) (rtHist : RtHist) (seqnoMin seqnoMax : ℤ)
    (hsome : (findRtTableChange logs stack src dst rand fuel s rtHist seqnoMin seqnoMax).1.isSome) :
    findRtTableChange logs stack src dst rand (fuel + 1) s rtHist seqnoMin seqnoMax =
      findRtTableChange logs stack src dst rand fuel s rtHist seqnoMin seqnoMax := by
  induction fuel generalizing s rtHist seqnoMin seqnoMax with
  | zero => exact absurd hsome (by simp [findRtTableChange])
  | succ fuel ih =>
    rw [findRtTableChange] at hsome ⊢
    rw [findRtTableChange]
    cases hnext : rtHist.nextHop with
    | none => rfl
    | some node =>
      rw [hnext] at hsome
      dsimp only at hsome ⊢
      by_cases hdst : node = dst
      · rw [if_pos hdst, if_pos hdst]
      · rw [if_neg hdst] at hsome ⊢
        rw [if_neg hdst]
        rw [rtHistLoop_eq_of_isSome ih]
        · exact findBehindLoop_eq_of_isSome (fun s rtHist a => ih s rtHist a seqnoMax) seqnoMin
            hsome
        · intro hreturned
          obtain ⟨r, hr⟩ : ∃ r, rtHistLoop logs stack
            (findRtTableChange logs stack src dst rand fuel) src dst node
            (s.magic stack src dst seqnoMin rand) seqnoMax rand (logOrigEvent logs node
              dst).rtHistList.zipIdx (s.change stack src dst rtHist seqnoMin seqnoMax rand)
            seqnoMin false = r := ⟨_, rfl⟩
          rw [hr] at hreturned hsome
          obtain ⟨finish, s'⟩ := r
          obtain rfl : finish = .returned none := hreturned
          exact absurd hsome (by simp [findBehindLoop])

/-- A node with a route has data. -/
lemma hasRoutes_of_getRtHistBySeqno {seqno : ℤ} {rtHist : RtHist} (hdst : node ≠ dst)
    (h : getRtHistBySeqno (logOrigEvent logs node dst) seqno = some rtHist) :
    HasRoutes logs dst node := by
  obtain ⟨i, hi, hrtHist⟩ := Option.bind_eq_some_iff.1 h
  refine ⟨hdst, fun hnil => ?_, fun hnil => ?_⟩
  · rw [hnil] at hi
    exact absurd hi (by simp)
  · rw [hnil] at hrtHist
    exact absurd hrtHist (by simp)

/-- The nodes that have no marker with the text of a call yet. -/
def unmarked (logs : BatLogs) (s : LoopState) (text : List Char) : ℕ :=
  (logs.map Prod.fst).countP fun n => magicText (s.loopMagic2 n) ≠ text

lemma unmarked_le (s : LoopState) (text : List Char) : unmarked logs s text ≤ logs.length :=
  List.countP_le_length.trans_eq (List.length_map _)

/-- One more node is marked. -/
lemma unmarked_mark {s s' : LoopState}
    (hs' : s'.loopMagic2 = Function.update s.loopMagic2 node magic)
    (htext : magicText (s.loopMagic2 node) ≠ magicText magic)
    (hkeys : node ∈ logs.map Prod.fst) :
    unmarked logs s' (magicText magic) < unmarked logs s (magicText magic) := by
  unfold unmarked
  rw [hs']
  refine countP_lt_of_imp (fun n hn => ?_) hkeys (decide_eq_true htext) ?_
  · rw [decide_eq_true_eq] at hn ⊢
    by_cases hnode : n = node
    · rw [hnode]
      exact htext
    · rwa [Function.update_of_ne hnode] at hn
  · rw [Function.update_self]
    exact decide_eq_false (not_not.2 rfl)

/-- **A call of `find_rt_table_change` ends**, within a depth that depends on its range and on the
nodes that are not marked yet.

**Proof sketch.** Induction on the depth.  The calls of the loop over the history are for a smaller
range, and so is the one behind the loop, if the loop looked at an entry.  Otherwise it is for the
same range, and the node was marked with the text of the call, which it has now. -/
theorem findRtTableChange_ends (fuel : ℕ) (s : LoopState) (rtHist : RtHist)
    {seqnoMin seqnoMax : ℤ} (hmin : 0 ≤ seqnoMin) (hle : seqnoMin ≤ seqnoMax)
    (hfuel : (seqnoMax - seqnoMin).toNat * (logs.length + 1) +
      unmarked logs s (magicText (s.magic stack src dst seqnoMin rand)) < fuel)
    (hkept : ∀ c ∈ (findRtTableChange logs stack src dst rand fuel s rtHist seqnoMin
      seqnoMax).2.calls, c.Kept logs) :
    (findRtTableChange logs stack src dst rand fuel s rtHist seqnoMin seqnoMax).1.isSome := by
  induction fuel generalizing s rtHist seqnoMin seqnoMax with
  | zero => exact absurd hfuel (Nat.not_lt_zero _)
  | succ fuel ih =>
    rw [findRtTableChange] at hkept ⊢
    cases hnext : rtHist.nextHop with
    | none => rfl
    | some node =>
      rw [hnext] at hkept
      dsimp only at hkept ⊢
      by_cases hdst : node = dst
      · rw [if_pos hdst]
        rfl
      · rw [if_neg hdst] at hkept ⊢
        obtain ⟨called, hcalled⟩ : ∃ called,
          s.change stack src dst rtHist seqnoMin seqnoMax rand = called := ⟨_, rfl⟩
        obtain ⟨magic, hmagic⟩ : ∃ magic, s.magic stack src dst seqnoMin rand = magic := ⟨_, rfl⟩
        obtain ⟨r, hr⟩ : ∃ r, rtHistLoop logs stack (findRtTableChange logs stack src dst rand fuel)
          src dst node magic seqnoMax rand (logOrigEvent logs node dst).rtHistList.zipIdx called
            seqnoMin false = r := ⟨_, rfl⟩
        rw [hcalled, hmagic, hr] at hkept ⊢
        rw [hmagic] at hfuel
        -- a smaller range
        have hsmaller : ∀ s' rtHist', ∀ a b, 0 ≤ a → a ≤ b → b - a < seqnoMax - seqnoMin →
            (∀ c ∈ (findRtTableChange logs stack src dst rand fuel s' rtHist' a b).2.calls,
              c.Kept logs) →
            (findRtTableChange logs stack src dst rand fuel s' rtHist' a b).1.isSome := by
          intro s' rtHist' a b ha hab hsize hk
          refine ih s' rtHist' ha hab ?_ hk
          have hdepth : ((b - a).toNat + 1) * (logs.length + 1) ≤
              (seqnoMax - seqnoMin).toNat * (logs.length + 1) :=
            Nat.mul_le_mul_right _ (by omega)
          have hle' : unmarked logs s' (magicText (s'.magic stack src dst a rand)) ≤ logs.length :=
            unmarked_le s' _
          rw [Nat.add_mul, Nat.one_mul] at hdepth
          omega
        have hmore : ∀ (s' : LoopState) rtHist' a b, s'.Extends (fun _ => True)
            (findRtTableChange logs stack src dst rand fuel s' rtHist' a b).2 :=
          fun s' _ a b => extends_findRtTableChange (fun _ _ _ => trivial) fuel s' trivial a b
        have hbehind : ∀ c ∈ r.2.calls, c.Kept logs := fun c hc => hkept c
          ((extends_findBehindLoop (fun s' rtHist' a _ => hmore s' rtHist' a seqnoMax)
            (fun _ _ => trivial) seqnoMin r).subset hc)
        have hthis : ChangeCall.Kept logs ⟨s.loopMagic2, magic, src, dst, rtHist, seqnoMin,
            seqnoMax, rand⟩ := by
          have hloop : called.Extends (fun _ => True) r.2 := by
            rw [← hr]
            exact extends_rtHistLoop (fun s' rtHist' a b _ => hmore s' rtHist' a b)
              (fun _ _ => trivial) _ _ _
          refine hbehind (.change _) (hloop.subset ?_)
          rw [← hcalled, ← hmagic]
          exact List.mem_append_right _ (List.mem_singleton_self _)
        rcases rtHistLoop_ends hsmaller _ called false hmin hle le_rfl hr hbehind with
          ⟨res, hres⟩ | ⟨hres, hnone⟩ | ⟨seqnoMin', hres, hlt, hle'⟩
        · obtain ⟨finish, s'⟩ := r
          obtain rfl : finish = .returned (some res) := hres
          rfl
        · -- nothing was looked at, and the node is marked
          rw [hres, findBehindLoop] at hkept ⊢
          by_cases hmark : false = false ∧ magic = called.loopMagic2 node
          · rw [if_pos hmark]
            rfl
          · rw [if_neg hmark] at hkept ⊢
            dsimp only at hkept ⊢
            rw [if_neg Bool.false_ne_true] at hkept ⊢
            cases hhist : getRtHistBySeqno (logOrigEvent logs node dst)
                (if seqnoMin = seqnoMax then seqnoMax else seqnoMax - 1) with
            | none => rfl
            | some rtHist' =>
              rw [hhist] at hkept
              have hold : called.loopMagic2 = s.loopMagic2 := by rw [← hcalled]; rfl
              have htext : magicText (s.loopMagic2 node) ≠ magicText magic := by
                intro h
                refine hmark ⟨rfl, ?_⟩
                rw [hold]
                refine (hthis node hnext hdst (fun hist hhist => ?_) h).symm
                obtain ⟨i, hi⟩ := List.mem_iff_getElem?.1 hhist
                exact hnone (hist, i) (List.mem_zipIdx_iff_getElem?.2 hi)
              refine ih _ _ hmin hle (Nat.lt_of_lt_of_le ?_ (Nat.le_of_lt_succ hfuel)) hkept
              refine Nat.add_lt_add_left ?_ _
              have hsame : ∀ s' : LoopState,
                  magicText (s'.magic stack src dst seqnoMin rand) = magicText magic := fun s' => by
                rw [← hmagic]
                exact magicText_snprintfMagic _ _ _
              rw [hsame]
              exact unmarked_mark (by rw [hold]) htext
                (hasRoutes_of_getRtHistBySeqno hdst hhist).mem_keys
        · obtain ⟨finish, s'⟩ := r
          obtain rfl : finish = .ended seqnoMin' true := hres
          rw [findBehindLoop, if_neg (fun h => absurd h.1 (by decide))] at hkept ⊢
          dsimp only at hkept ⊢
          cases hhist : getRtHistBySeqno (logOrigEvent logs node dst)
              (if seqnoMin = seqnoMax then seqnoMax else seqnoMax - 1) with
          | none => rfl
          | some rtHist' =>
            rw [hhist] at hkept
            exact hsmaller _ _ _ _ (by omega) hle' (by omega) hkept

/-- **What `loop_detection` does with an entry**: nothing, or it prints a path, or it looks for
changes since the entry before, which is by more than one older. -/
lemma loopDetectionHist_cases {fuel : ℕ} {src orig : EthAddr} {origEvent : OrigEvent}
    {seqnoMin seqnoMax : ℤ} {scan : LoopScan} {rtHist : RtHist} {r : LoopScan}
    (hr : loopDetectionHist logs stack fuel src orig origEvent seqnoMin seqnoMax scan rtHist = r) :
    (r.ended = scan.ended ∧ r.state = scan.state) ∨
      (r.ended = true ∧ ∃ dst nextHop seqno rand,
        r.state = printRtPathAtSeqno logs stack scan.state src dst nextHop seqno rand) ∨
      ∃ prev ∈ origEvent.rtHistList, ∃ dst rand, ∃ res : Option ℤ × LoopState,
        findRtTableChange logs stack src dst rand fuel scan.state prev
          (rtHistSeqno origEvent prev + 1) (rtHistSeqno origEvent rtHist) = res ∧
        rtHistSeqno origEvent prev + 1 < rtHistSeqno origEvent rtHist ∧
        r.ended = res.1.isSome ∧ (r.state = res.2 ∨ ∃ nextHop seqno,
          r.state = printRtPathAtSeqno logs stack res.2 src dst nextHop seqno rand) := by
  unfold loopDetectionHist at hr
  dsimp only at hr
  by_cases hended : scan.ended = false
  · rw [if_pos hended] at hr
    exact .inl ⟨by rw [hr], by rw [hr]⟩
  rw [if_neg hended] at hr
  by_cases htimeout : rtHistSeqno origEvent rtHist = -1
  · rw [if_pos htimeout] at hr
    exact .inl ⟨by rw [hr], by rw [hr]⟩
  rw [if_neg htimeout] at hr
  by_cases hmin : seqnoMin ≠ -1 ∧ rtHistSeqno origEvent rtHist < seqnoMin
  · rw [if_pos hmin] at hr
    exact .inl ⟨by rw [hr], by rw [hr]⟩
  rw [if_neg hmin] at hr
  by_cases hmax : seqnoMax ≠ -1 ∧ rtHistSeqno origEvent rtHist > seqnoMax
  · rw [if_pos hmax] at hr
    exact .inl ⟨by rw [hr], by rw [hr]⟩
  rw [if_neg hmax] at hr
  by_cases hflags : rtHist.flags = RT_FLAG_DELETE
  · rw [if_pos hflags] at hr
    rw [Bool.not_eq_false] at hended
    exact .inl ⟨by rw [← hr, hended], by rw [← hr]⟩
  rw [if_neg hflags] at hr
  cases hprev : rtHist.prevRtHist.bind fun i => origEvent.rtHistList[i]? with
  | none =>
    rw [hprev] at hr
    exact .inr (.inl ⟨by rw [← hr], _, _, _, _, by rw [← hr]⟩)
  | some prev =>
    rw [hprev] at hr
    dsimp only at hr
    by_cases hclose : rtHistSeqno origEvent rtHist = rtHistSeqno origEvent prev ∨
        rtHistSeqno origEvent rtHist < rtHistSeqno origEvent prev ∨
        rtHistSeqno origEvent rtHist = rtHistSeqno origEvent prev + 1
    · rw [if_pos hclose] at hr
      exact .inr (.inl ⟨by rw [← hr], _, _, _, _, by rw [← hr]⟩)
    rw [if_neg hclose] at hr
    obtain ⟨i, -, hi⟩ := Option.bind_eq_some_iff.1 hprev
    obtain ⟨dst, hdst⟩ : ∃ dst, rtHistOrig orig origEvent rtHist = dst := ⟨_, rfl⟩
    obtain ⟨rand, hrand⟩ : ∃ rand, (if scan.lastSeqno = rtHistSeqno origEvent rtHist then
      scan.seqnoCount + 1 else 0) = rand := ⟨_, rfl⟩
    rw [hdst, hrand] at hr
    obtain ⟨⟨res, s⟩, hres⟩ : ∃ res, findRtTableChange logs stack src dst rand fuel scan.state
      prev (rtHistSeqno origEvent prev + 1) (rtHistSeqno origEvent rtHist) = res := ⟨_, rfl⟩
    rw [hres] at hr
    refine .inr (.inr ⟨prev, List.mem_of_getElem? hi, dst, rand, _, hres, by omega, ?_⟩)
    cases res with
    | none => exact ⟨by rw [← hr]; rfl, .inl (by rw [← hr])⟩
    | some res =>
      dsimp only at hr
      by_cases hres : res ≠ -2
      · rw [if_pos hres] at hr
        exact ⟨by rw [← hr]; rfl, .inl (by rw [← hr])⟩
      · rw [if_neg hres] at hr
        exact ⟨by rw [← hr]; rfl, .inr ⟨_, _, by rw [← hr]⟩⟩

/-- The calls for an entry. -/
lemma extends_loopDetectionHist
    (hp : ∀ node dst, ∀ rtHist ∈ (logOrigEvent logs node dst).rtHistList, p rtHist) (fuel : ℕ)
    (src orig : EthAddr) {origEvent : OrigEvent} (horig : ∀ rtHist ∈ origEvent.rtHistList, p rtHist)
    (seqnoMin seqnoMax : ℤ) (scan : LoopScan) (rtHist : RtHist) :
    scan.state.Extends p (loopDetectionHist logs stack fuel src orig origEvent seqnoMin seqnoMax
      scan rtHist).state := by
  rcases loopDetectionHist_cases (rfl : loopDetectionHist logs stack fuel src orig origEvent
    seqnoMin seqnoMax scan rtHist = _) with
    ⟨-, h⟩ | ⟨-, _, _, _, _, h⟩ | ⟨prev, hprev, dst, rand, res, hres, -, -, h⟩
  · rw [h]
    exact .of_calls_eq rfl
  · rw [h]
    exact .of_append rfl trivial
  · have hcalls : scan.state.Extends p res.2 := by
      rw [← hres]
      exact extends_findRtTableChange (fun node => hp node dst) _ _ (horig prev hprev) _ _
    rcases h with h | ⟨_, _, h⟩
    · rw [h]
      exact hcalls
    · rw [h]
      exact hcalls.trans (.of_append rfl trivial)

/-- The limit is immaterial for an entry that is dealt with. -/
lemma loopDetectionHist_succ {fuel : ℕ} {src orig : EthAddr} {origEvent : OrigEvent}
    {seqnoMin seqnoMax : ℤ} {scan : LoopScan} {rtHist : RtHist}
    (hended : (loopDetectionHist logs stack fuel src orig origEvent seqnoMin seqnoMax scan
      rtHist).ended = true) :
    loopDetectionHist logs stack (fuel + 1) src orig origEvent seqnoMin seqnoMax scan rtHist =
      loopDetectionHist logs stack fuel src orig origEvent seqnoMin seqnoMax scan rtHist := by
  unfold loopDetectionHist at hended ⊢
  dsimp only at hended ⊢
  by_cases hbefore : scan.ended = false
  · rw [if_pos hbefore, if_pos hbefore]
  rw [if_neg hbefore] at hended ⊢
  rw [if_neg hbefore]
  by_cases htimeout : rtHistSeqno origEvent rtHist = -1
  · rw [if_pos htimeout, if_pos htimeout]
  rw [if_neg htimeout] at hended ⊢
  rw [if_neg htimeout]
  by_cases hmin : seqnoMin ≠ -1 ∧ rtHistSeqno origEvent rtHist < seqnoMin
  · rw [if_pos hmin, if_pos hmin]
  rw [if_neg hmin] at hended ⊢
  rw [if_neg hmin]
  by_cases hmax : seqnoMax ≠ -1 ∧ rtHistSeqno origEvent rtHist > seqnoMax
  · rw [if_pos hmax, if_pos hmax]
  rw [if_neg hmax] at hended ⊢
  rw [if_neg hmax]
  by_cases hflags : rtHist.flags = RT_FLAG_DELETE
  · rw [if_pos hflags, if_pos hflags]
  rw [if_neg hflags] at hended ⊢
  rw [if_neg hflags]
  cases hprev : rtHist.prevRtHist.bind fun i => origEvent.rtHistList[i]? with
  | none => rfl
  | some prev =>
    rw [hprev] at hended
    dsimp only at hended ⊢
    by_cases hclose : rtHistSeqno origEvent rtHist = rtHistSeqno origEvent prev ∨
        rtHistSeqno origEvent rtHist < rtHistSeqno origEvent prev ∨
        rtHistSeqno origEvent rtHist = rtHistSeqno origEvent prev + 1
    · rw [if_pos hclose, if_pos hclose]
    rw [if_neg hclose] at hended ⊢
    rw [if_neg hclose]
    obtain ⟨r, hr⟩ : ∃ r, findRtTableChange logs stack src (rtHistOrig orig origEvent rtHist)
      (if scan.lastSeqno = rtHistSeqno origEvent rtHist then scan.seqnoCount + 1 else 0) fuel
      scan.state prev (rtHistSeqno origEvent prev + 1) (rtHistSeqno origEvent rtHist) = r :=
        ⟨_, rfl⟩
    have hsome : r.1.isSome := by
      rw [hr] at hended
      obtain ⟨res, s⟩ := r
      cases res with
      | none => exact absurd hended Bool.false_ne_true
      | some res => rfl
    rw [findRtTableChange_succ _ _ _ _ _ (by rw [hr]; exact hsome)]

/-- An entry is dealt with, within a depth that depends on its sequence number. -/
lemma loopDetectionHist_ended {fuel : ℕ} {src orig : EthAddr} {origEvent : OrigEvent}
    (hparsed : origEvent.Parsed) {seqnoMin seqnoMax : ℤ} {scan : LoopScan} {rtHist : RtHist}
    (hended : scan.ended = true)
    (hfuel : (rtHistSeqno origEvent rtHist).toNat * (logs.length + 1) + logs.length < fuel)
    (hkept : ∀ c ∈ (loopDetectionHist logs stack fuel src orig origEvent seqnoMin seqnoMax scan
      rtHist).state.calls, c.Kept logs) :
    (loopDetectionHist logs stack fuel src orig origEvent seqnoMin seqnoMax scan rtHist).ended =
      true := by
  rcases loopDetectionHist_cases (rfl : loopDetectionHist logs stack fuel src orig origEvent
    seqnoMin seqnoMax scan rtHist = _) with
    ⟨h, -⟩ | ⟨h, -⟩ | ⟨prev, hprev, dst, rand, res, hres, hlt, h, hstate⟩
  · rw [h, hended]
  · exact h
  · rw [h, ← hres]
    have hmin : -1 ≤ rtHistSeqno origEvent prev := by
      unfold rtHistSeqno
      cases hevent : origEvent.eventList[prev.seqnoEvent]? with
      | none => exact le_rfl
      | some event => exact hparsed.seqno event (List.mem_of_getElem? hevent)
    refine findRtTableChange_ends fuel _ _ (by omega) hlt.le ?_ fun c hc => hkept c ?_
    · have hdepth : (rtHistSeqno origEvent rtHist - (rtHistSeqno origEvent prev + 1)).toNat *
          (logs.length + 1) ≤ (rtHistSeqno origEvent rtHist).toNat * (logs.length + 1) :=
        Nat.mul_le_mul_right _ (by omega)
      have hmarks : unmarked logs scan.state (magicText (scan.state.magic stack src dst
        (rtHistSeqno origEvent prev + 1) rand)) ≤ logs.length := unmarked_le _ _
      omega
    · rw [hres] at hc
      rcases hstate with hstate | ⟨_, _, hstate⟩
      · rw [hstate]
        exact hc
      · rw [hstate]
        exact List.mem_append_left _ hc

end Termination

/-! ### The analysis -/

section Analysis

variable {logs : BatLogs} {stack : ℕ → ℕ → Char}

/-- What is looked at was read. -/
lemma parsed_of_mem_loopItems (parsed : ParsedLogs) {loopOrig filterOrig : Option EthAddr}
    {item : EthAddr × EthAddr × OrigEvent × RtHist}
    (h : item ∈ loopItems parsed.logs loopOrig filterOrig) : item.2.2.1.Parsed := by
  obtain ⟨node, hnode, hitem⟩ := List.mem_flatMap.1 h
  split_ifs at hitem
  · exact absurd hitem List.not_mem_nil
  · obtain ⟨record, hrecord, hitem⟩ := List.mem_flatMap.1 hitem
    split_ifs at hitem
    · exact absurd hitem List.not_mem_nil
    · obtain ⟨rtHist, -, rfl⟩ := List.mem_map.1 hitem
      exact parsed.parsed node hnode record hrecord

/-- The depth that is enough for each of the entries. -/
def loopDepth (logs : BatLogs) (items : List (EthAddr × EthAddr × OrigEvent × RtHist)) : ℕ :=
  (items.map fun item =>
    (rtHistSeqno item.2.2.1 item.2.2.2).toNat * (logs.length + 1) + logs.length + 1).sum

/-- The calls for the entries. -/
lemma extends_foldl_loopDetectionItem {p : RtHist → Prop}
    (hp : ∀ node dst, ∀ rtHist ∈ (logOrigEvent logs node dst).rtHistList, p rtHist) {fuel : ℕ}
    {seqnoMin seqnoMax : ℤ} {items : List (EthAddr × EthAddr × OrigEvent × RtHist)}
    (hitems : ∀ item ∈ items, ∀ rtHist ∈ item.2.2.1.rtHistList, p rtHist) (scan : LoopScan) :
    scan.state.Extends p
      (items.foldl (loopDetectionItem logs stack fuel seqnoMin seqnoMax) scan).state := by
  induction items generalizing scan with
  | nil => exact .of_calls_eq rfl
  | cons item items ih =>
    rw [List.forall_mem_cons] at hitems
    exact (extends_loopDetectionHist hp _ _ _ hitems.1 _ _ _ _).trans (ih hitems.2 _)

/-- All entries are dealt with.

**Proof sketch.** Induction on the entries; the calls for one of them are among all of the calls. -/
lemma foldl_loopDetectionItem_ended {fuel : ℕ} {seqnoMin seqnoMax : ℤ}
    {items : List (EthAddr × EthAddr × OrigEvent × RtHist)} {scan : LoopScan}
    (hended : scan.ended = true) (hparsed : ∀ item ∈ items, item.2.2.1.Parsed)
    (hfuel : loopDepth logs items ≤ fuel)
    (hkept : ∀ c ∈ (items.foldl (loopDetectionItem logs stack fuel seqnoMin seqnoMax)
      scan).state.calls, c.Kept logs) :
    (items.foldl (loopDetectionItem logs stack fuel seqnoMin seqnoMax) scan).ended = true := by
  induction items generalizing scan with
  | nil => exact hended
  | cons item items ih =>
    rw [loopDepth, List.map_cons, List.sum_cons] at hfuel
    rw [List.forall_mem_cons] at hparsed
    refine ih ?_ hparsed.2 (by rw [loopDepth]; omega) hkept
    refine loopDetectionHist_ended hparsed.1 hended (by omega) fun c hc => hkept c ?_
    refine LoopState.Extends.subset (p := fun _ => True) ?_ hc
    exact extends_foldl_loopDetectionItem (fun _ _ _ _ => trivial) (fun _ _ _ _ => trivial) _

/-- Nothing is looked at any more behind a call that did not return. -/
lemma foldl_loopDetectionItem_of_not_ended {fuel : ℕ} {seqnoMin seqnoMax : ℤ}
    (items : List (EthAddr × EthAddr × OrigEvent × RtHist)) {scan : LoopScan}
    (hended : scan.ended = false) :
    items.foldl (loopDetectionItem logs stack fuel seqnoMin seqnoMax) scan = scan := by
  induction items with
  | nil => rfl
  | cons item items ih =>
    have hscan : loopDetectionItem logs stack fuel seqnoMin seqnoMax scan item = scan := by
      unfold loopDetectionItem loopDetectionHist
      dsimp only
      rw [if_pos hended]
    rw [List.foldl_cons, hscan, ih]

/-- The limit is immaterial for entries that are dealt with. -/
lemma foldl_loopDetectionItem_succ {fuel : ℕ} {seqnoMin seqnoMax : ℤ}
    (items : List (EthAddr × EthAddr × OrigEvent × RtHist)) (scan : LoopScan)
    (hended :
      (items.foldl (loopDetectionItem logs stack fuel seqnoMin seqnoMax) scan).ended = true) :
    items.foldl (loopDetectionItem logs stack (fuel + 1) seqnoMin seqnoMax) scan =
      items.foldl (loopDetectionItem logs stack fuel seqnoMin seqnoMax) scan := by
  induction items generalizing scan with
  | nil => rfl
  | cons item items ih =>
    rw [List.foldl_cons] at hended ⊢
    rw [List.foldl_cons]
    cases hone : (loopDetectionItem logs stack fuel seqnoMin seqnoMax scan item).ended with
    | true =>
      have hsame : loopDetectionItem logs stack (fuel + 1) seqnoMin seqnoMax scan item =
          loopDetectionItem logs stack fuel seqnoMin seqnoMax scan item :=
        loopDetectionHist_succ hone
      rw [hsame]
      exact ih _ hended
    | false =>
      rw [foldl_loopDetectionItem_of_not_ended items hone, hone] at hended
      exact absurd hended Bool.false_ne_true

/-- **The limit is immaterial** once it is high enough for the analysis. -/
theorem loopDetection_eq_of_ended {fuel fuel' : ℕ} {loopOrig filterOrig : Option EthAddr}
    {seqnoMin seqnoMax : ℤ}
    (hended : (loopDetection logs stack fuel loopOrig seqnoMin seqnoMax filterOrig).ended = true)
    (hle : fuel ≤ fuel') :
    loopDetection logs stack fuel' loopOrig seqnoMin seqnoMax filterOrig =
      loopDetection logs stack fuel loopOrig seqnoMin seqnoMax filterOrig := by
  induction fuel', hle using Nat.le_induction with
  | base => rfl
  | succ fuel' _ ih =>
    rw [← ih] at hended ⊢
    exact foldl_loopDetectionItem_succ _ _ hended

/-- The entries that `loop_detection` makes its calls for were read. -/
lemma isFor_parsed_loopDetection (parsed : ParsedLogs) (loopOrig : Option EthAddr)
    (seqnoMin seqnoMax : ℤ) (filterOrig : Option EthAddr) (fuel : ℕ) :
    ∀ c ∈ (loopDetection parsed.logs stack fuel loopOrig seqnoMin seqnoMax filterOrig).state.calls,
      c.IsFor RtHist.Parsed :=
  (extends_foldl_loopDetectionItem (fun node dst => (parsed.logOrigEvent node dst).rtHist)
    (fun _ hitem => (parsed_of_mem_loopItems parsed hitem).rtHist) _).forall_calls
      fun _ hc => absurd hc List.not_mem_nil

/-- **`loop_detection` ends**, if all markers are kept. -/
theorem loopDetection_ends (parsed : ParsedLogs) (loopOrig : Option EthAddr) (seqnoMin seqnoMax : ℤ)
    (filterOrig : Option EthAddr)
    (hkept : ∀ fuel, ∀ c ∈ (loopDetection parsed.logs stack fuel loopOrig seqnoMin seqnoMax
      filterOrig).state.calls, c.Kept parsed.logs) :
    ∃ depth, ∀ fuel ≥ depth, (loopDetection parsed.logs stack fuel loopOrig seqnoMin seqnoMax
      filterOrig).ended = true :=
  ⟨loopDepth parsed.logs (loopItems parsed.logs loopOrig filterOrig), fun fuel hfuel =>
    foldl_loopDetectionItem_ended rfl (fun _ => parsed_of_mem_loopItems parsed) hfuel (hkept fuel)⟩

/-- **`loop_detection` is right**: it ends, no call continues at a missing next hop, and a path that
is printed tells of a loop exactly if it came back to a node.

If all calls start well and keep their markers, it is right; and if it is right, all calls start
well. -/
theorem loop_detection_right (parsed : ParsedLogs) (stack : ℕ → ℕ → Char)
    (loopOrig : Option EthAddr) (seqnoMin seqnoMax : ℤ) (filterOrig : Option EthAddr) :
    let scan (fuel : ℕ) :=
      loopDetection parsed.logs stack fuel loopOrig seqnoMin seqnoMax filterOrig
    let right := (∃ depth, ∀ fuel ≥ depth, (scan fuel).ended = true) ∧
      ∀ fuel, ∀ c ∈ (scan fuel).state.calls, c.Right parsed.logs
    ((∀ fuel, ∀ c ∈ (scan fuel).state.calls, c.Sound parsed.logs ∧ c.Kept parsed.logs) → right) ∧
      (right → ∀ fuel, ∀ c ∈ (scan fuel).state.calls, c.Sound parsed.logs) := by
  intro scan right
  refine ⟨fun h => ⟨?_, fun fuel c hc => ?_⟩, fun h fuel c hc => ?_⟩
  · exact loopDetection_ends parsed loopOrig seqnoMin seqnoMax filterOrig
      fun fuel c hc => (h fuel c hc).2
  · exact (LoopCall.right_iff parsed.logs (isFor_parsed_loopDetection parsed loopOrig seqnoMin
      seqnoMax filterOrig fuel c hc)).2 (h fuel c hc).1
  · exact (LoopCall.right_iff parsed.logs (isFor_parsed_loopDetection parsed loopOrig seqnoMin
      seqnoMax filterOrig fuel c hc)).1 (h.2 fuel c hc)

end Analysis

/-! ### Routes that were changed and deleted -/

/-- The log of a node that received a packet, and added the route. -/
def addedRoute (orig neigh : EthAddr) (seqno : ℤ) : Option BatNode :=
  (routingTableNew
    (seqnoEventNew none (some .new) (some orig) (some neigh) (some neigh) seqno 255 50).2
    (some orig) (some neigh) none RT_FLAG_ADD).bind Prod.snd

/-- The log of a node that deleted the route again. -/
def deletedRoute (orig neigh : EthAddr) (seqno : ℤ) : Option BatNode :=
  (routingTableNew (addedRoute orig neigh seqno) (some orig) none none RT_FLAG_DELETE).bind Prod.snd

/-- A line about a route is read. -/
lemma parsed_of_bind_snd {curr : Option BatNode} (hcurr : ∀ n ∈ curr, n.Parsed)
    {orig nextHop oldNextHop : Option EthAddr} {rtFlag : U8}
    (hdelete : rtFlag = RT_FLAG_DELETE → nextHop = none) :
    ∀ n ∈ (routingTableNew curr orig nextHop oldNextHop rtFlag).bind Prod.snd, n.Parsed := by
  intro n hn
  obtain ⟨⟨error, curr'⟩, hread, hcurr'⟩ := Option.bind_eq_some_iff.1 hn
  exact BatNode.Parsed.routingTableNew hcurr hdelete hread n hcurr'

lemma parsed_addedRoute (orig neigh : EthAddr) (seqno : ℤ) :
    ∀ n ∈ addedRoute orig neigh seqno, n.Parsed := by
  refine parsed_of_bind_snd (BatNode.Parsed.seqnoEventNew (fun n hn => absurd hn (by simp)) ?_ _ _ _
    _ _ _) fun h => absurd h (by decide)
  rintro n ⟨⟩
  exact BatNode.parsed_new

/-- The log of a node that received another packet, and changed the route. -/
def changedRoute (orig neigh neigh' : EthAddr) (seqno seqno' : ℤ) : Option BatNode :=
  (routingTableNew
    (seqnoEventNew (addedRoute orig neigh seqno) (addedRoute orig neigh seqno) (some orig)
      (some neigh') (some neigh') seqno' 255 50).2
    (some orig) (some neigh') (some neigh) RT_FLAG_UPDATE).bind Prod.snd

lemma parsed_changedRoute (orig neigh neigh' : EthAddr) (seqno seqno' : ℤ) :
    ∀ n ∈ changedRoute orig neigh neigh' seqno seqno', n.Parsed :=
  parsed_of_bind_snd (BatNode.Parsed.seqnoEventNew (parsed_addedRoute _ _ _)
    (parsed_addedRoute _ _ _) _ _ _ _ _ _) fun h => absurd h (by decide)

/-- The logs of two nodes. -/
def twoLogs (node node' : Option BatNode) (h : ∀ n ∈ node, n.Parsed) (h' : ∀ n ∈ node', n.Parsed) :
    ParsedLogs where
  logs := [(0x02000000000a, node.getD .new), (0x02000000000b, node'.getD .new)]
  parsed := by
    have hgetD : ∀ node : Option BatNode, (∀ n ∈ node, n.Parsed) → (node.getD .new).Parsed := by
      intro node hnode
      cases node with
      | none => exact BatNode.parsed_new
      | some n => exact hnode n rfl
    intro node hnode
    rcases List.mem_cons.1 hnode with rfl | hnode
    · exact hgetD _ h
    · rw [List.mem_singleton.1 hnode]
      exact hgetD _ h'

/-- One of them has had a route by the other one until it changed to the originator itself. -/
def changedRouteLogs : ParsedLogs :=
  twoLogs (changedRoute 0x02000000000d 0x02000000000b 0x02000000000d 1 5)
    (addedRoute 0x02000000000d 0x02000000000d 1) (parsed_changedRoute _ _ _ _ _)
    (parsed_addedRoute _ _ _)

/-- All calls of the scan start well, and keep their markers. -/
lemma sound_kept_changedRouteLogs (fuel : ℕ) :
    ∀ c ∈ (loopDetection changedRouteLogs.logs (fun _ _ => Char.ofNat 0) fuel none (-1) (-1)
      none).state.calls, c.Sound changedRouteLogs.logs ∧ c.Kept changedRouteLogs.logs := by
  -- it is over within two calls
  have hended : (loopDetection changedRouteLogs.logs (fun _ _ => Char.ofNat 0) 2 none (-1) (-1)
      none).ended = true := by decide +kernel
  rcases Nat.lt_or_ge fuel 2 with hfuel | hfuel
  · have hcases : fuel = 0 ∨ fuel = 1 := by omega
    rcases hcases with rfl | rfl
    · decide +kernel
    · decide +kernel
  · rw [loopDetection_eq_of_ended hended hfuel]
    decide +kernel

/-- **The change is looked at, and the old route is followed** by two calls, at the other node and
at the originator: all calls start well, and the theorem applies. -/
theorem loop_detection_right_changed :
    (loopDetection changedRouteLogs.logs (fun _ _ => Char.ofNat 0) 2 none (-1) (-1)
      none).state.calls.length = 5 ∧
    (∃ depth, ∀ fuel ≥ depth, (loopDetection changedRouteLogs.logs (fun _ _ => Char.ofNat 0) fuel
      none (-1) (-1) none).ended = true) ∧
    ∀ fuel, ∀ c ∈ (loopDetection changedRouteLogs.logs (fun _ _ => Char.ofNat 0) fuel none (-1) (-1)
      none).state.calls, c.Right changedRouteLogs.logs :=
  ⟨by decide +kernel, (loop_detection_right changedRouteLogs (fun _ _ => Char.ofNat 0) none (-1)
    (-1) none).1 sound_kept_changedRouteLogs⟩

/-- One of them has a route by the other one, which deleted its own. -/
def deletedRouteLogs : ParsedLogs :=
  twoLogs (addedRoute 0x02000000000d 0x02000000000b 5)
    (deletedRoute 0x02000000000d 0x02000000000d 3) (parsed_addedRoute _ _ _)
    (parsed_of_bind_snd (parsed_addedRoute _ _ _) fun _ => rfl)

/-- **A path is followed to the route that was deleted**: its event has the number `-1`, so that it
is the last one for every sequence number, and there is no next hop. -/
theorem loop_detection_fails :
    ¬ ((∃ depth, ∀ fuel ≥ depth, (loopDetection deletedRouteLogs.logs (fun _ _ => Char.ofNat 0) fuel
        none (-1) (-1) none).ended = true) ∧
      ∀ fuel, ∀ c ∈ (loopDetection deletedRouteLogs.logs (fun _ _ => Char.ofNat 0) fuel none (-1)
        (-1) none).state.calls, c.Right deletedRouteLogs.logs) := by
  intro h
  have hfails : ¬ ∀ c ∈ (loopDetection deletedRouteLogs.logs (fun _ _ => Char.ofNat 0) 0 none (-1)
      (-1) none).state.calls, c.Right deletedRouteLogs.logs := by decide +kernel
  exact hfails (h.2 0)

end Batctl
