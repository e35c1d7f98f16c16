import BatmanAdv.Batctl.BisectIv
import BatmanAdv.Lib.Forest

set_option relaxedAutoImplicit false
set_option autoImplicit false

/-!
# The trace of a sequence number (`batctl/bisect_iv.c`)

The packets that all nodes received with one sequence number are put into trees: one that was
received by a node is below the one that the neighbor it came from had received.  A new packet is
hung below one of the others, and roots that came from it are then hung below it.  The functions
follow pointers; a walk that is longer than there are nodes does not end.

## Main definitions

* `Batctl.TraceNode`, `Batctl.SeqnoTrace` — a packet in a trace, and a trace in memory.
* `Batctl.seqnoTraceFindNeigh`, `Batctl.seqnoTracePrintNeigh`, `Batctl.seqnoTraceNeighFree` — the
  functions that walk over a trace.
* `Batctl.seqnoTraceCheckLeaves`, `Batctl.seqnoTraceAdd` — adding a packet.

## Main results

* `Batctl.seqnoTraceFindNeigh_of_rep`, `Batctl.seqnoTracePrintNeigh_of_rep`,
  `Batctl.seqnoTraceNeighFree_of_rep` — the walks over a forest.
* `Batctl.seqnoTraceCheckLeaves_eq` — what becomes of the roots.
-/

namespace Batctl

open Batadv

/-- A packet in a trace, `struct seqno_trace_neigh`. -/
structure TraceNode where
  batNode : EthAddr
  event : SeqnoEvent
  seqnoTraceNeigh : List ℕ
deriving DecidableEq

/-- A trace, `struct seqno_trace`: its roots, and the nodes in memory, of which `size` were
allocated. -/
structure SeqnoTrace where
  seqno : ℤ
  print : Bool
  root : List ℕ
  mem : ℕ → Option TraceNode
  size : ℕ

/-- The nodes below each node. -/
def traceLinks (mem : ℕ → Option TraceNode) (i : ℕ) : Option (List ℕ) :=
  (mem i).map TraceNode.seqnoTraceNeigh

/-- A packet may be hung below a node: the node is the neighbor it came from, and had received it
from the previous sender. -/
def TraceNode.sent (n : TraceNode) (neigh prevSender : Option EthAddr) : Bool :=
  neigh = some n.batNode ∧ prevSender = n.event.neigh

/-! ### Walks -/

/-- `seqno_trace_find_neigh`, in a list of nodes. -/
def seqnoTraceFindNeigh (mem : ℕ → Option TraceNode) (neigh prevSender : Option EthAddr) :
    ℕ → List ℕ → Option (Option ℕ)
  | _, [] => some none
  | 0, _ :: _ => none
  | fuel + 1, i :: is => (mem i).bind fun n =>
    if n.sent neigh prevSender then some (some i)
    else
      (seqnoTraceFindNeigh mem neigh prevSender fuel n.seqnoTraceNeigh).bind fun
        | some r => some (some r)
        | none => seqnoTraceFindNeigh mem neigh prevSender fuel is

/-- `seqno_trace_print_neigh` for a list of nodes: the nodes that are printed, with the names of
their neighbors and previous senders. -/
def seqnoTracePrintNeigh (mem : ℕ → Option TraceNode) : ℕ → List ℕ → Option (List ℕ)
  | _, [] => some []
  | 0, _ :: _ => none
  | fuel + 1, i :: is => (mem i).bind fun n =>
    n.event.neigh.bind fun _ => n.event.prevSender.bind fun _ =>
      (seqnoTracePrintNeigh mem fuel n.seqnoTraceNeigh).bind fun below =>
        (seqnoTracePrintNeigh mem fuel is).map fun rest => i :: (below ++ rest)

/-- `seqno_trace_neigh_free` for a list of nodes. -/
def seqnoTraceNeighFree : ℕ → (ℕ → Option TraceNode) → List ℕ → Option (ℕ → Option TraceNode)
  | _, mem, [] => some mem
  | 0, _, _ :: _ => none
  | fuel + 1, mem, i :: is => (mem i).bind fun n =>
    (seqnoTraceNeighFree fuel mem n.seqnoTraceNeigh).bind fun mem => (mem i).bind fun _ =>
      seqnoTraceNeighFree fuel (Function.update mem i none) is

/-! ### Adding a packet -/

/-- `_seqno_trace_neigh_add`: a new child of a node, or a new root. -/
def seqnoTraceNeighLink (trace : SeqnoTrace) (mom : Option ℕ) (child : ℕ) : Option SeqnoTrace :=
  match mom with
  | none => some { trace with root := trace.root ++ [child] }
  | some mom => (trace.mem mom).map fun n =>
    { trace with
      mem := (Function.update trace.mem mom (some
        { n with seqnoTraceNeigh := n.seqnoTraceNeigh ++ [child] })) }

/-- `seqno_trace_neigh_add`: the new node is the last one that was allocated. -/
def seqnoTraceNeighAdd (trace : SeqnoTrace) (mom : Option ℕ) (batNode : EthAddr)
    (event : SeqnoEvent) : Option SeqnoTrace :=
  seqnoTraceNeighLink
    { trace with
      mem := (Function.update trace.mem trace.size (some ⟨batNode, event, []⟩)),
      size := trace.size + 1 } mom trace.size

/-- `seqno_trace_fix_leaf`: a root is moved below a node. -/
def seqnoTraceFixLeaf (trace : SeqnoTrace) (mom child : ℕ) : Option SeqnoTrace :=
  seqnoTraceNeighLink { trace with root := trace.root.filter (· ≠ child) } (some mom) child

/-- One node may be hung below another one. -/
def traceSent (mem : ℕ → Option TraceNode) (mom child : ℕ) : Bool :=
  (mem mom).any fun n => (mem child).any fun c => n.sent c.event.neigh c.event.prevSender

/-- `seqno_trace_check_leaves`. -/
def seqnoTraceCheckLeaves (new : ℕ) : ℕ → SeqnoTrace → Option SeqnoTrace
  | 0, _ => none
  | fuel + 1, trace =>
    match trace.root.find? (traceSent trace.mem new) with
    | none => some trace
    | some child => (seqnoTraceFixLeaf trace new child).bind (seqnoTraceCheckLeaves new fuel)

/-- `seqno_trace_new`. -/
def seqnoTraceNew (event : SeqnoEvent) : SeqnoTrace := ⟨event.seqno, false, [], fun _ => none, 0⟩

/-- `seqno_trace_add`, once the trace of the sequence number is found. -/
def seqnoTraceAddEvent (trace : SeqnoTrace) (batNode : EthAddr) (event : SeqnoEvent)
    (print : Bool) : Option SeqnoTrace :=
  let trace := if print then { trace with print := true } else trace
  (seqnoTraceFindNeigh trace.mem event.neigh event.prevSender (trace.size + 1) trace.root).bind
    fun mom => (seqnoTraceNeighAdd trace mom batNode event).bind
      (seqnoTraceCheckLeaves trace.size (trace.size + 2))

/-- **`seqno_trace_add`**: the traces are sorted by their sequence numbers. -/
def seqnoTraceAdd (traceList : List SeqnoTrace) (batNode : EthAddr) (event : SeqnoEvent)
    (print : Bool) : Option (List SeqnoTrace) :=
  let before := traceList.takeWhile fun trace => trace.seqno < event.seqno
  let after := traceList.dropWhile fun trace => trace.seqno < event.seqno
  match after with
  | trace :: rest =>
    if trace.seqno = event.seqno then
      (seqnoTraceAddEvent trace batNode event print).map fun trace => before ++ trace :: rest
    else
      (seqnoTraceAddEvent (seqnoTraceNew event) batNode event print).map fun new =>
        before ++ new :: trace :: rest
  | [] => (seqnoTraceAddEvent (seqnoTraceNew event) batNode event print).map fun new =>
    before ++ [new]

/-! ### Walks over a forest -/

variable {mem : ℕ → Option TraceNode} {f : Forest}

/-- **A search in a forest** finds the first node of the walk that matches. -/
lemma seqnoTraceFindNeigh_of_rep (neigh prevSender : Option EthAddr)
    (h : f.Rep (traceLinks mem)) : ∀ {fuel : ℕ}, f.nodes.length ≤ fuel →
      seqnoTraceFindNeigh mem neigh prevSender fuel f.roots =
        some (f.nodes.find? fun i => (mem i).any fun n => n.sent neigh prevSender) := by
  induction f with
  | nil =>
    intro fuel _
    cases fuel <;> rfl
  | cons i below rest ihb ihr =>
    intro fuel hfuel
    rw [Forest.nodes_cons, List.length_cons, List.length_append] at hfuel
    obtain ⟨fuel, rfl⟩ : ∃ k, fuel = k + 1 := ⟨fuel - 1, by omega⟩
    obtain ⟨n, hn, hkids⟩ := Option.map_eq_some_iff.1 h.1
    simp only [Forest.roots_cons, seqnoTraceFindNeigh, hn, Option.bind_some, hkids,
      Forest.nodes_cons]
    by_cases hsent : n.sent neigh prevSender = true
    · rw [if_pos hsent, List.find?_cons_of_pos (by rw [hn]; exact hsent)]
    · rw [if_neg hsent, List.find?_cons_of_neg (by rw [hn]; exact hsent), List.find?_append,
        ihb h.2.1 (by omega), Option.bind_some, ihr h.2.2 (by omega)]
      cases below.nodes.find? fun i => (mem i).any fun n => n.sent neigh prevSender <;> rfl

/-- **A forest is printed** node after node. -/
lemma seqnoTracePrintNeigh_of_rep (h : f.Rep (traceLinks mem))
    (hnames : ∀ i n, mem i = some n → n.event.neigh.isSome ∧ n.event.prevSender.isSome) :
    ∀ {fuel : ℕ}, f.nodes.length ≤ fuel →
      seqnoTracePrintNeigh mem fuel f.roots = some f.nodes := by
  induction f with
  | nil =>
    intro fuel _
    cases fuel <;> rfl
  | cons i below rest ihb ihr =>
    intro fuel hfuel
    rw [Forest.nodes_cons, List.length_cons, List.length_append] at hfuel
    obtain ⟨fuel, rfl⟩ : ∃ k, fuel = k + 1 := ⟨fuel - 1, by omega⟩
    obtain ⟨n, hn, hkids⟩ := Option.map_eq_some_iff.1 h.1
    obtain ⟨neigh, hneigh⟩ := Option.isSome_iff_exists.1 (hnames i n hn).1
    obtain ⟨prevSender, hprev⟩ := Option.isSome_iff_exists.1 (hnames i n hn).2
    simp only [Forest.roots_cons, seqnoTracePrintNeigh, hn, Option.bind_some, hneigh, hprev, hkids,
      ihb h.2.1 (show below.nodes.length ≤ fuel by omega),
      ihr h.2.2 (show rest.nodes.length ≤ fuel by omega), Option.map_some, Forest.nodes_cons]

/-- **A forest is freed**: its nodes, and no others.

**Proof sketch.** Induction on the forest.  What is below a node is freed before it, so that the
node itself and the rest of the forest are still there. -/
lemma seqnoTraceNeighFree_of_rep (h : f.Rep (traceLinks mem)) (hnodup : f.nodes.Nodup) :
    ∀ {fuel : ℕ}, f.nodes.length ≤ fuel →
      seqnoTraceNeighFree fuel mem f.roots =
        some fun i => if i ∈ f.nodes then none else mem i := by
  induction f generalizing mem with
  | nil =>
    intro fuel _
    cases fuel <;> simp [seqnoTraceNeighFree]
  | cons i below rest ihb ihr =>
    intro fuel hfuel
    rw [Forest.nodes_cons, List.length_cons, List.length_append] at hfuel
    obtain ⟨fuel, rfl⟩ : ∃ k, fuel = k + 1 := ⟨fuel - 1, by omega⟩
    obtain ⟨n, hn, hkids⟩ := Option.map_eq_some_iff.1 h.1
    rw [Forest.nodes_cons, List.nodup_cons, List.nodup_append, List.mem_append, not_or] at hnodup
    obtain ⟨⟨hib, hir⟩, hbelow, hrest, hdisj⟩ := hnodup
    have hfreed : seqnoTraceNeighFree fuel mem below.roots =
        some fun i => if i ∈ below.nodes then none else mem i := ihb h.2.1 hbelow (by omega)
    have hrep : rest.Rep (traceLinks
        (Function.update (fun j => if j ∈ below.nodes then none else mem j) i none)) := by
      refine h.2.2.congr fun j hj => ?_
      have hji : j ≠ i := ne_of_mem_of_not_mem hj hir
      have hjb : j ∉ below.nodes := fun hjb => hdisj j hjb j hj rfl
      simp only [traceLinks, Function.update_of_ne hji, if_neg hjb]
    simp only [Forest.roots_cons, seqnoTraceNeighFree, hn, Option.bind_some, hkids, hfreed,
      if_neg hib, ihr hrep hrest (show rest.nodes.length ≤ fuel by omega), Forest.nodes_cons]
    congr 1
    funext j
    by_cases hji : j = i
    · subst hji
      simp
    · simp only [Function.update_of_ne hji, List.mem_cons, hji, false_or, List.mem_append]
      split_ifs <;> simp_all

/-! ### What becomes of the roots -/

/-- A node is changed below. -/
lemma traceSent_update {new : ℕ} {n : TraceNode} (hn : mem new = some n) (kids : List ℕ)
    (mom child : ℕ) :
    traceSent (Function.update mem new (some { n with seqnoTraceNeigh := kids })) mom child =
      traceSent mem mom child := by
  unfold traceSent
  by_cases hmom : mom = new
  · subst hmom
    by_cases hchild : child = mom
    · subst hchild
      simp [hn, TraceNode.sent]
    · simp [hn, Function.update_of_ne hchild, TraceNode.sent]
  · by_cases hchild : child = new
    · subst hchild
      simp [hn, Function.update_of_ne hmom, TraceNode.sent]
    · simp [Function.update_of_ne hmom, Function.update_of_ne hchild]

/-- **What `seqno_trace_check_leaves` makes of the roots**: those that may be hung below the new
node are its last children, and the other ones remain.

**Proof sketch.** Induction on the number of turns; each moves the first root that matches. -/
lemma seqnoTraceCheckLeaves_eq {new : ℕ} {trace : SeqnoTrace} {n : TraceNode}
    (hn : trace.mem new = some n) (hnodup : trace.root.Nodup) {fuel : ℕ}
    (hfuel : trace.root.length < fuel) :
    seqnoTraceCheckLeaves new fuel trace = some
      { trace with
        root := (trace.root.filter fun c => !traceSent trace.mem new c),
        mem := (Function.update trace.mem new (some ⟨n.batNode, n.event,
          n.seqnoTraceNeigh ++ trace.root.filter (traceSent trace.mem new)⟩)) } := by
  induction fuel generalizing trace n with
  | zero => exact absurd hfuel (Nat.not_lt_zero _)
  | succ fuel ih =>
    cases hfind : trace.root.find? (traceSent trace.mem new) with
    | none =>
      have hnone : ∀ c ∈ trace.root, ¬ traceSent trace.mem new c = true :=
        List.find?_eq_none.1 hfind
      have hall : trace.root.filter (fun c => !traceSent trace.mem new c) = trace.root :=
        List.filter_eq_self.2 fun c hc => by
          rw [Bool.eq_false_iff.2 (hnone c hc)]
          rfl
      have hno : trace.root.filter (traceSent trace.mem new) = [] :=
        List.filter_eq_nil_iff.2 hnone
      rw [seqnoTraceCheckLeaves, hfind, hall, hno, List.append_nil]
      have hmem : Function.update trace.mem new (some ⟨n.batNode, n.event, n.seqnoTraceNeigh⟩) =
          trace.mem := by
        rw [← hn]
        exact Function.update_eq_self new trace.mem
      rw [hmem]
    | some child =>
      obtain ⟨hchild, pre, post, hroot, hpre⟩ := List.find?_eq_some_iff_append.1 hfind
      rw [hroot] at hnodup hfuel
      have hnodup' : (pre ++ post).Nodup ∧ child ∉ pre ++ post := by
        rw [List.nodup_middle, List.nodup_cons] at hnodup
        exact ⟨hnodup.2, hnodup.1⟩
      have hrest : trace.root.filter (· ≠ child) = pre ++ post := by
        rw [hroot, List.filter_append, List.filter_cons_of_neg (by simp), ← List.filter_append]
        refine List.filter_eq_self.2 fun c hc => ?_
        exact decide_eq_true (ne_of_mem_of_not_mem hc hnodup'.2)
      rw [seqnoTraceCheckLeaves, hfind]
      simp only [seqnoTraceFixLeaf, seqnoTraceNeighLink, hn, Option.map_some, Option.bind_some,
        hrest]
      rw [ih (Function.update_self _ _ _) hnodup'.1 (by
        rw [List.length_append, List.length_cons] at hfuel
        simp only [List.length_append]
        omega)]
      have hfalse : pre.filter (traceSent trace.mem new) = [] :=
        List.filter_eq_nil_iff.2 fun c hc => by simpa using hpre c hc
      have hsent : ∀ kids, traceSent (Function.update trace.mem new (some
          ⟨n.batNode, n.event, kids⟩)) new = traceSent trace.mem new := fun kids =>
        funext fun c => traceSent_update hn kids new c
      simp only [hsent, Function.update_idem, hroot, List.filter_append, hfalse,
        List.filter_cons, hchild, List.nil_append, List.append_assoc, List.singleton_append,
        if_true, Bool.not_true, Bool.false_eq_true, if_false]

end Batctl
