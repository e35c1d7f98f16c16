import BatmanAdv.Batctl.SeqnoTrace
import BatmanAdv.Lib.Run
import Mathlib.Data.List.Find

set_option relaxedAutoImplicit false
set_option autoImplicit false

/-!
# Whether a trace has all its packets (`batctl/bisect_iv.c`)

Packets of one sequence number are added in the order of the logs.  A new packet is hung below the
first one that it may have come from, and then takes over all roots that may have come from it.
One of these can be the root above the new packet, or the new packet itself.  The trees that are
taken over then hang below one of their own nodes, and cannot be reached any more.

## Main definitions

* `Batctl.TraceEvent`, `Batctl.TraceRun` — a packet that is added, and the packets added so far with
  the traces.
* `Batctl.TraceForest`, `Batctl.TraceWalks` — the trace is a forest of all packets, and the walks
  over it end.
* `Batctl.NoCycle` — the new packet does not take over the tree it is in.

## Main results

* `Batctl.TraceShape.neighAdd`, `Batctl.TraceShape.checkLeaves` — the two steps of adding a packet.
* `Batctl.traceForest_add_iff` — what one packet does.
* `Batctl.trace_has_all_packets_iff` — when a trace is a forest of all packets.
* `Batctl.trace_of_echo` — two packets that are not printed.
-/

namespace Batctl

open Batadv

/-- A packet that is added to the trace of its sequence number; it has a neighbor and a previous
sender. -/
structure TraceEvent (q : ℤ) where
  batNode : EthAddr
  event : SeqnoEvent
  print : Bool
  seqno_eq : event.seqno = q
  neigh_isSome : event.neigh.isSome
  prevSender_isSome : event.prevSender.isSome

variable {q : ℤ}

/-- One packet may have come from another one: its neighbor received the other one, and from the
previous sender. -/
def TraceEvent.sent (p c : TraceEvent q) : Bool :=
  c.event.neigh = some p.batNode ∧ c.event.prevSender = p.event.neigh

/-- One of the packets may have come from another one. -/
def sentAt (events : List (TraceEvent q)) (i j : ℕ) : Bool :=
  events[i]?.any fun p => events[j]?.any p.sent

/-- **A trace of packets**, and the forest it is: the nodes are the packets in the order in which
they were added, and each is below one that it may have come from. -/
structure TraceShape (events : List (TraceEvent q)) (t : SeqnoTrace) (f : Forest) : Prop where
  seqno : t.seqno = q
  size : t.size = events.length
  nodes : ∀ i, (t.mem i).map (fun n => (n.batNode, n.event)) =
    events[i]?.map fun e => (e.batNode, e.event)
  rep : f.Rep (traceLinks t.mem)
  roots : f.roots = t.root
  perm : f.nodes.Perm (List.range events.length)
  parents : ∀ i j, Forest.Links (traceLinks t.mem) i j → sentAt events i j = true

/-- **A trace is a forest of all packets**, and a root that may have come from another packet is
above that one. -/
structure TraceForest (events : List (TraceEvent q)) (t : SeqnoTrace) : Prop where
  shape : ∃ f, TraceShape events t f
  adopted : ∀ c ∈ t.root, ∀ p, sentAt events p c = true →
    Forest.Reaches (traceLinks t.mem) c p

/-- **The walks over a trace** end, and come to each packet once. -/
def TraceWalks (events : List (TraceEvent q)) (t : SeqnoTrace) : Prop :=
  ∃ walk : List ℕ, walk.Perm (List.range events.length) ∧ ∀ fuel, events.length ≤ fuel →
    seqnoTracePrintNeigh t.mem fuel t.root = some walk ∧
    (∀ neigh prevSender, seqnoTraceFindNeigh t.mem neigh prevSender fuel t.root =
      some (walk.find? fun i => (t.mem i).any fun n => n.sent neigh prevSender)) ∧
    seqnoTraceNeighFree fuel t.mem t.root = some fun _ => none

/-- **A new packet does not take over the tree it is in**: not the first root below which there is a
packet that it may have come from, and not itself, if there is no such packet. -/
structure NoCycle (events : List (TraceEvent q)) (t : SeqnoTrace) (e : TraceEvent q) : Prop where
  below : ∀ pre r post, t.root = pre ++ r :: post →
    (∀ c ∈ pre, ∀ p, Forest.Reaches (traceLinks t.mem) c p →
      ¬ sentAt (events ++ [e]) p events.length = true) →
    (∃ p, Forest.Reaches (traceLinks t.mem) r p ∧
      sentAt (events ++ [e]) p events.length = true) →
    sentAt (events ++ [e]) events.length r = false
  alone : (∀ p < events.length, ¬ sentAt (events ++ [e]) p events.length = true) →
    sentAt (events ++ [e]) events.length events.length = false

/-- The packets that were added so far, and the traces. -/
structure TraceRun (q : ℤ) where
  events : List (TraceEvent q)
  traces : Option (List SeqnoTrace)

namespace TraceRun

/-- No packet was added. -/
def start : TraceRun q := ⟨[], some []⟩

/-- The next packet. -/
def add (run : TraceRun q) (e : TraceEvent q) : TraceRun q :=
  ⟨run.events ++ [e], run.traces.bind fun traces =>
    seqnoTraceAdd traces e.batNode e.event e.print⟩

/-- The trace that a packet is added to. -/
def trace (run : TraceRun q) (e : TraceEvent q) : SeqnoTrace :=
  ((run.traces.getD []).head?).getD (seqnoTraceNew e.event)

/-- **All packets are in a forest**, the trace of their sequence number, and the walks over it
end. -/
def Ok (run : TraceRun q) : Prop :=
  (run.events = [] ∧ run.traces = some []) ∨
    ∃ t, run.traces = some [t] ∧ TraceForest run.events t ∧ TraceWalks run.events t

end TraceRun

/-! ### The packets of a trace -/

variable {events : List (TraceEvent q)} {e : TraceEvent q} {t : SeqnoTrace} {f : Forest}

/-- The nodes of a trace are compared as their packets are. -/
lemma traceSent_eq_sentAt {mem : ℕ → Option TraceNode}
    (hnodes : ∀ i, (mem i).map (fun n => (n.batNode, n.event)) =
      events[i]?.map fun e => (e.batNode, e.event)) (i j : ℕ) :
    traceSent mem i j = sentAt events i j := by
  have hi := hnodes i
  have hj := hnodes j
  unfold traceSent sentAt
  cases hmi : mem i <;> cases hei : events[i]? <;> rw [hmi, hei] at hi <;>
    simp only [Option.map_none, Option.map_some, reduceCtorEq, Option.some_inj,
      Prod.mk.injEq] at hi
  · rfl
  · cases hmj : mem j <;> cases hej : events[j]? <;> rw [hmj, hej] at hj <;>
      simp only [Option.map_none, Option.map_some, reduceCtorEq, Option.some_inj,
        Prod.mk.injEq] at hj
    · rfl
    · simp [TraceNode.sent, TraceEvent.sent, hi, hj]

/-- Packets that were there before are compared as before. -/
lemma sentAt_append {i j : ℕ} (hi : i < events.length) (hj : j < events.length) :
    sentAt (events ++ [e]) i j = sentAt events i j := by
  unfold sentAt
  rw [List.getElem?_append_left hi, List.getElem?_append_left hj]

/-- There are no other packets. -/
lemma lt_length_of_sentAt {i j : ℕ} (h : sentAt events i j = true) :
    i < events.length ∧ j < events.length := by
  unfold sentAt at h
  constructor
  · by_contra hi
    rw [List.getElem?_eq_none (Nat.le_of_not_lt hi), Option.any_none] at h
    exact absurd h Bool.false_ne_true
  · by_contra hj
    rw [List.getElem?_eq_none (Nat.le_of_not_lt hj)] at h
    cases hi : events[i]? <;> rw [hi] at h <;> exact absurd h Bool.false_ne_true

/-- The links of a node that is changed. -/
lemma traceLinks_update (mem : ℕ → Option TraceNode) (i : ℕ) (n : TraceNode) :
    traceLinks (Function.update mem i (some n)) =
      Function.update (traceLinks mem) i (some n.seqnoTraceNeigh) := by
  funext j
  unfold traceLinks
  by_cases hj : j = i
  · subst hj
    simp
  · simp [Function.update_of_ne hj]

namespace TraceShape

/-- No packet is in the forest twice. -/
lemma nodup (h : TraceShape events t f) : f.nodes.Nodup :=
  h.perm.nodup_iff.2 List.nodup_range

lemma mem_nodes (h : TraceShape events t f) {i : ℕ} : i ∈ f.nodes ↔ i < events.length := by
  rw [h.perm.mem_iff, List.mem_range]

lemma length_nodes (h : TraceShape events t f) : f.nodes.length = events.length := by
  rw [h.perm.length_eq, List.length_range]

/-- The nodes of a trace are its packets. -/
lemma mem_eq_some (h : TraceShape events t f) {i : ℕ} {n : TraceNode} (hn : t.mem i = some n) :
    ∃ p, events[i]? = some p ∧ p.batNode = n.batNode ∧ p.event = n.event := by
  have hi := h.nodes i
  rw [hn, Option.map_some, eq_comm, Option.map_eq_some_iff] at hi
  obtain ⟨p, hp, hpn⟩ := hi
  exact ⟨p, hp, congrArg Prod.fst hpn, congrArg Prod.snd hpn⟩

/-- There is no node in memory but the packets. -/
lemma mem_eq_none (h : TraceShape events t f) {i : ℕ} (hi : events.length ≤ i) :
    t.mem i = none := by
  have hnode := h.nodes i
  rw [List.getElem?_eq_none hi, Option.map_none, Option.map_eq_none_iff] at hnode
  exact hnode

/-- A node that is linked to another one is a packet. -/
lemma lt_of_links (h : TraceShape events t f) {i j : ℕ}
    (hlink : Forest.Links (traceLinks t.mem) i j) : i < events.length := by
  by_contra hi
  obtain ⟨kids, hkids, -⟩ := hlink
  rw [traceLinks, h.mem_eq_none (Nat.le_of_not_lt hi)] at hkids
  exact absurd hkids (by simp)

/-- A packet is in memory. -/
lemma exists_mem (h : TraceShape events t f) {i : ℕ} (hi : i < events.length) :
    ∃ n, t.mem i = some n := by
  have hnode := h.nodes i
  rw [List.getElem?_eq_getElem hi, Option.map_some, Option.map_eq_some_iff] at hnode
  obtain ⟨n, hn, -⟩ := hnode
  exact ⟨n, hn⟩

/-- **The walks over a forest end.** -/
lemma walks (h : TraceShape events t f) : TraceWalks events t := by
  refine ⟨f.nodes, h.perm, fun fuel hfuel => ?_⟩
  have hlen : f.nodes.length ≤ fuel := h.length_nodes.trans_le hfuel
  have hnames : ∀ i n, t.mem i = some n → n.event.neigh.isSome ∧ n.event.prevSender.isSome := by
    intro i n hn
    obtain ⟨p, -, -, hevent⟩ := h.mem_eq_some hn
    exact hevent ▸ ⟨p.neigh_isSome, p.prevSender_isSome⟩
  rw [← h.roots]
  refine ⟨seqnoTracePrintNeigh_of_rep h.rep hnames hlen, fun neigh prevSender =>
    seqnoTraceFindNeigh_of_rep neigh prevSender h.rep hlen, ?_⟩
  rw [seqnoTraceNeighFree_of_rep h.rep h.nodup hlen, Option.some_inj]
  funext i
  by_cases hi : i ∈ f.nodes
  · rw [if_pos hi]
  · rw [if_neg hi]
    exact h.mem_eq_none (Nat.le_of_not_lt fun hlt => hi (h.mem_nodes.2 hlt))

/-! ### Adding a packet -/

/-- **A new node in memory**, that is nowhere in the trace yet. -/
lemma update_mem (h : TraceShape events t f) (e : TraceEvent q) :
    ∀ mem, mem = Function.update t.mem events.length (some ⟨e.batNode, e.event, []⟩) →
      (∀ i, (mem i).map (fun n => (n.batNode, n.event)) =
        (events ++ [e])[i]?.map fun e => (e.batNode, e.event)) ∧
      f.Rep (traceLinks mem) ∧
      (Forest.cons events.length .nil .nil).Rep (traceLinks mem) ∧
      ∀ i j, Forest.Links (traceLinks mem) i j ↔ Forest.Links (traceLinks t.mem) i j := by
  rintro mem rfl
  have hlinks := traceLinks_update t.mem events.length ⟨e.batNode, e.event, []⟩
  refine ⟨fun i => ?_, ?_, ⟨?_, trivial, trivial⟩, fun i j => ?_⟩
  · rcases Nat.lt_trichotomy i events.length with hi | rfl | hi
    · rw [Function.update_of_ne hi.ne, List.getElem?_append_left hi, h.nodes i]
    · simp
    · rw [Function.update_of_ne hi.ne', h.mem_eq_none hi.le, List.getElem?_eq_none]
      · rfl
      · rw [List.length_append]
        exact hi
  · rw [hlinks]
    refine h.rep.congr fun i hi => Function.update_of_ne ?_ _ _
    exact (h.mem_nodes.1 hi).ne
  · rw [hlinks, Function.update_self]
    rfl
  · by_cases hi : i = events.length
    · subst hi
      constructor
      · rintro ⟨kids, hkids, hj⟩
        rw [hlinks, Function.update_self, Option.some_inj] at hkids
        exact absurd (hkids ▸ hj) List.not_mem_nil
      · exact fun hlink => absurd (h.lt_of_links hlink) (Nat.lt_irrefl _)
    · unfold Forest.Links
      rw [hlinks, Function.update_of_ne hi]

/-- **A new packet is a new root**, or is hung below a packet that it may have come from.

**Proof sketch.** The new node is in memory first.  Then it is the last tree, or a node is linked to
it. -/
lemma neighAdd (h : TraceShape events t f) (mom : Option ℕ)
    (hmom : ∀ p ∈ mom, sentAt (events ++ [e]) p events.length = true ∧ p < events.length) :
    ∃ t' f', seqnoTraceNeighAdd t mom e.batNode e.event = some t' ∧
      TraceShape (events ++ [e]) t' f' ∧
      (∀ i j, Forest.Links (traceLinks t.mem) i j → Forest.Links (traceLinks t'.mem) i j) ∧
      (mom = none → f' = f.append (.cons events.length .nil .nil)) ∧
      ∀ p ∈ mom, f' = f.graft p (.cons events.length .nil .nil) := by
  obtain ⟨hnodes, hrep, hleaf, hlinks⟩ := h.update_mem e _ rfl
  have hparents : ∀ i j, Forest.Links (traceLinks t.mem) i j →
      sentAt (events ++ [e]) i j = true := by
    intro i j hlink
    have hsent := h.parents i j hlink
    obtain ⟨hi, hj⟩ := lt_length_of_sentAt hsent
    exact (sentAt_append hi hj).trans hsent
  have hrange : (f.nodes ++ [events.length]).Perm (List.range (events ++ [e]).length) := by
    rw [List.length_append, List.length_singleton, List.range_succ]
    exact h.perm.append_right _
  have hsize : t.size + 1 = (events ++ [e]).length := by
    rw [h.size, List.length_append, List.length_singleton]
  cases mom with
  | none =>
    refine ⟨_, f.append (.cons events.length .nil .nil), rfl, ⟨h.seqno, hsize, ?_, ?_, ?_, ?_, ?_⟩,
      ?_, fun _ => rfl, fun p hp => absurd hp (by simp)⟩
    · rw [h.size]
      exact hnodes
    · rw [h.size]
      exact Forest.rep_append.2 ⟨hrep, hleaf⟩
    · rw [Forest.roots_append, h.roots, h.size]
      rfl
    · rw [Forest.nodes_append]
      exact hrange
    · rw [h.size]
      exact fun i j hlink => hparents i j ((hlinks i j).1 hlink)
    · rw [h.size]
      exact fun i j hlink => (hlinks i j).2 hlink
  | some p =>
    obtain ⟨hsent, hp⟩ := hmom p rfl
    obtain ⟨n, hn⟩ := h.exists_mem hp
    have hkids : traceLinks (Function.update t.mem events.length
        (some ⟨e.batNode, e.event, []⟩)) p = some n.seqnoTraceNeigh := by
      rw [traceLinks, Function.update_of_ne hp.ne, hn, Option.map_some]
    have hnew : ∀ i j, Forest.Links (Function.update (traceLinks (Function.update t.mem
        events.length (some ⟨e.batNode, e.event, []⟩))) p
          (some (n.seqnoTraceNeigh ++ [events.length]))) i j ↔
        Forest.Links (traceLinks t.mem) i j ∨ i = p ∧ j = events.length := by
      intro i j
      rw [← hlinks i j]
      unfold Forest.Links
      by_cases hi : i = p
      · subst hi
        simp only [Function.update_self, hkids, Option.some_inj, exists_eq_left', List.mem_append,
          List.mem_singleton, true_and]
      · simp only [Function.update_of_ne hi, hi, false_and, or_false]
    refine ⟨{ t with
        size := t.size + 1,
        mem := (Function.update (Function.update t.mem events.length
          (some ⟨e.batNode, e.event, []⟩)) p
            (some ⟨n.batNode, n.event, n.seqnoTraceNeigh ++ [events.length]⟩)) },
      f.graft p (.cons events.length .nil .nil), ?_, ⟨h.seqno, hsize, ?_, ?_, ?_, ?_, ?_⟩, ?_,
      fun hnone => absurd hnone (by simp), ?_⟩
    · simp only [seqnoTraceNeighAdd, seqnoTraceNeighLink, h.size, Function.update_of_ne hp.ne, hn,
        Option.map_some]
    · intro i
      rw [← hnodes i]
      by_cases hi : i = p
      · subst hi
        simp [Function.update_of_ne hp.ne, hn]
      · simp [Function.update_of_ne hi]
    · rw [traceLinks_update]
      refine hrep.graft h.nodup hleaf ?_ hkids
      rw [Forest.nodes_cons, Forest.nodes_nil, List.append_nil, List.mem_singleton]
      exact hp.ne
    · rw [Forest.roots_graft]
      exact h.roots
    · exact (Forest.nodes_graft_perm h.nodup (h.mem_nodes.2 hp)).trans hrange
    · intro i j hlink
      rw [traceLinks_update, hnew] at hlink
      rcases hlink with hlink | ⟨rfl, rfl⟩
      · exact hparents i j hlink
      · exact hsent
    · intro i j hlink
      rw [traceLinks_update, hnew]
      exact .inl hlink
    · intro p' hp'
      rw [Option.mem_def, Option.some_inj] at hp'
      rw [hp']

/-- **The new packet takes over roots**: if it is in none of their trees, then the trace is a forest
again, and otherwise it is not one any more. -/
lemma checkLeaves (h : TraceShape events t f) {x : ℕ} {n : TraceNode} (hn : t.mem x = some n)
    {t' : SeqnoTrace} (ht' : t' = { t with
      root := (t.root.filter fun c => !traceSent t.mem x c),
      mem := (Function.update t.mem x (some ⟨n.batNode, n.event,
        n.seqnoTraceNeigh ++ t.root.filter (traceSent t.mem x)⟩)) }) :
    (∃ f', TraceShape events t' f') ↔
      x ∈ (f.filterRoots fun c => !sentAt events x c).nodes := by
  have hsent : traceSent t.mem x = sentAt events x :=
    funext fun c => traceSent_eq_sentAt h.nodes x c
  have hsent' : (fun c => !traceSent t.mem x c) = fun c => !sentAt events x c :=
    funext fun c => by rw [hsent]
  have hx : x ∈ f.nodes := by
    obtain ⟨p, hp, -⟩ := h.mem_eq_some hn
    exact h.mem_nodes.2 (List.getElem?_eq_some_iff.1 hp).1
  have hlinks : traceLinks t'.mem = Function.update (traceLinks t.mem) x
      (some (n.seqnoTraceNeigh ++ (f.filterRoots (sentAt events x)).roots)) := by
    rw [ht', traceLinks_update, Forest.roots_filterRoots, h.roots, hsent]
  have hroot : t'.root = (f.filterRoots fun c => !sentAt events x c).roots := by
    rw [ht', Forest.roots_filterRoots, h.roots, hsent']
  have hkids : traceLinks t.mem x = some n.seqnoTraceNeigh := by
    rw [traceLinks, hn, Option.map_some]
  constructor
  · rintro ⟨f', h'⟩
    -- what is taken over is below what is taken over alone
    by_contra hnot
    have htaken : x ∈ (f.filterRoots (sentAt events x)).nodes := by
      have hmem := (Forest.nodes_filterRoots_perm (sentAt events x) f).mem_iff.2 hx
      exact (List.mem_append.1 hmem).resolve_left hnot
    have hall := h'.rep.not_mem_of_closed
      (s := fun i => i ∈ (f.filterRoots (sentAt events x)).nodes) ?_ ?_
    · exact hall x (h'.mem_nodes.2 (h.mem_nodes.1 hx)) htaken
    · intro c hc htaken
      rw [h'.roots, hroot] at hc
      exact Forest.not_mem_filterRoots h.nodup htaken (Forest.roots_sublist _ |>.subset hc)
    · intro i j hlink hj
      by_cases hi : i = x
      · exact hi ▸ htaken
      · have hold : Forest.Links (traceLinks t.mem) i j := by
          obtain ⟨kids, hk, hjk⟩ := hlink
          rw [hlinks, Function.update_of_ne hi] at hk
          exact ⟨kids, hk, hjk⟩
        by_contra hnot
        have hmem := (Forest.nodes_filterRoots_perm (sentAt events x) f).mem_iff.2
          (h.mem_nodes.2 (h.lt_of_links hold))
        have hother := (List.mem_append.1 hmem).resolve_right hnot
        exact Forest.not_mem_filterRoots h.nodup hj
          ((h.rep.filterRoots _).mem_of_links hother hold)
  · intro hmem
    have hnodup : (f.filterRoots fun c => !sentAt events x c).nodes.Nodup :=
      (Forest.nodes_filterRoots_sublist _ f).nodup h.nodup
    have hnot : x ∉ (f.filterRoots (sentAt events x)).nodes := fun htaken =>
      Forest.not_mem_filterRoots h.nodup htaken hmem
    refine ⟨(f.filterRoots fun c => !sentAt events x c).graft x
      (f.filterRoots (sentAt events x)), ?_, ?_, ?_, ?_, ?_, ?_, ?_⟩
    · rw [ht']
      exact h.seqno
    · rw [ht']
      exact h.size
    · intro i
      rw [← h.nodes i, ht']
      by_cases hi : i = x
      · subst hi
        simp [hn]
      · simp [Function.update_of_ne hi]
    · rw [hlinks]
      exact (h.rep.filterRoots _).graft hnodup (h.rep.filterRoots _) hnot hkids
    · rw [Forest.roots_graft, hroot]
    · exact (Forest.nodes_graft_perm hnodup hmem).trans
        ((Forest.nodes_filterRoots_perm _ f).trans h.perm)
    · rintro i j ⟨kids, hk, hj⟩
      rw [hlinks] at hk
      by_cases hi : i = x
      · subst hi
        rw [Function.update_self, Option.some_inj] at hk
        subst hk
        rcases List.mem_append.1 hj with hj | hj
        · exact h.parents i j ⟨_, hkids, hj⟩
        · rw [Forest.roots_filterRoots] at hj
          exact (List.mem_filter.1 hj).2
      · rw [Function.update_of_ne hi] at hk
        exact h.parents i j ⟨kids, hk, hj⟩

/-- **What a new packet is hung below**: the first packet in the walk that it may have come from. -/
lemma find_neigh (h : TraceShape events t f) (e : TraceEvent q) {fuel : ℕ}
    (hfuel : events.length ≤ fuel) :
    seqnoTraceFindNeigh t.mem e.event.neigh e.event.prevSender fuel t.root =
      some (f.nodes.find? fun i => sentAt (events ++ [e]) i events.length) := by
  rw [← h.roots, seqnoTraceFindNeigh_of_rep _ _ h.rep (h.length_nodes.trans_le hfuel),
    Option.some_inj]
  refine List.find?_congr fun i hi => ?_
  have hlt : i < events.length := h.mem_nodes.1 hi
  obtain ⟨n, hn⟩ := h.exists_mem hlt
  obtain ⟨p, hp, hnode, hevent⟩ := h.mem_eq_some hn
  unfold sentAt
  rw [hn, List.getElem?_append_left hlt, hp, List.getElem?_concat_length]
  simp [TraceNode.sent, TraceEvent.sent, hnode, hevent]

/-- **Whether the new packet is in a tree that it takes over.**

**Proof sketch.** If it is hung below a packet, then it is in the tree of that one, which is the
first packet of its kind.  Otherwise it is a tree of its own. -/
lemma mem_filterRoots_iff_noCycle (h : TraceShape events t f) {f' : Forest} {mom : Option ℕ}
    (hmom : f.nodes.find? (fun i => sentAt (events ++ [e]) i events.length) = mom)
    (hnone : mom = none → f' = f.append (.cons events.length .nil .nil))
    (hsome : ∀ p ∈ mom, f' = f.graft p (.cons events.length .nil .nil)) :
    events.length ∈
        (f'.filterRoots fun c => !sentAt (events ++ [e]) events.length c).nodes ↔
      NoCycle events t e := by
  have hnew : events.length ∉ f.nodes := fun hmem => Nat.lt_irrefl _ (h.mem_nodes.1 hmem)
  cases mom with
  | none =>
    have hno : ∀ p < events.length, ¬ sentAt (events ++ [e]) p events.length = true :=
      fun p hp => List.find?_eq_none.1 hmom p (h.mem_nodes.2 hp)
    have hnodup : (f.append (.cons events.length .nil .nil)).nodes.Nodup := by
      rw [Forest.nodes_append]
      exact h.nodup.append (List.nodup_singleton _) (List.disjoint_singleton.2 hnew)
    rw [hnone rfl, Forest.mem_filterRoots_split hnodup (List.mem_singleton_self _),
      Bool.not_eq_true']
    refine ⟨fun halone => ⟨?_, fun _ => halone⟩, fun hcycle => hcycle.alone hno⟩
    rintro pre r post hroots - ⟨p, hreach, hsent⟩
    have hr : r ∈ f.nodes := f.roots_sublist.subset (by rw [h.roots, hroots]; simp)
    exact absurd hsent (hno p (h.mem_nodes.1 (h.rep.mem_of_reaches hr hreach)))
  | some p =>
    have hnodup : (f.filterRoots fun c => !sentAt (events ++ [e]) events.length c).nodes.Nodup :=
      (Forest.nodes_filterRoots_sublist _ f).nodup h.nodup
    have hnot : events.length ∉
        (f.filterRoots fun c => !sentAt (events ++ [e]) events.length c).nodes := fun hmem =>
      hnew ((Forest.nodes_filterRoots_sublist _ f).subset hmem)
    rw [hsome p rfl, Forest.filterRoots_graft,
      Forest.mem_nodes_graft hnodup hnot (List.mem_singleton_self _),
      h.rep.mem_filterRoots_find_iff h.nodup hmom, h.roots]
    simp only [Bool.not_eq_true']
    refine ⟨fun hbelow => ⟨hbelow, fun hno => ?_⟩, fun hcycle => hcycle.below⟩
    exact absurd (List.find?_some hmom)
      (hno p (h.mem_nodes.1 (List.mem_of_find?_eq_some hmom)))

end TraceShape

/-- **What one packet does**: the trace is a forest of all packets again exactly if the new one does
not take over the tree it is in.

**Proof sketch.** A root that is left has not come from the new packet.  If it was one before, then
it is above the packets that it may have come from, as before; and the new packet is a root only if
it has come from no other one. -/
lemma traceForest_hang_iff (h : TraceForest events t) (e : TraceEvent q) :
    ∃ t', ((seqnoTraceFindNeigh t.mem e.event.neigh e.event.prevSender (t.size + 1) t.root).bind
        fun mom => (seqnoTraceNeighAdd t mom e.batNode e.event).bind
          (seqnoTraceCheckLeaves t.size (t.size + 2))) = some t' ∧
      (TraceForest (events ++ [e]) t' ↔ NoCycle events t e) := by
  obtain ⟨f, hf⟩ := h.shape
  obtain ⟨mom, hmom⟩ : ∃ mom, f.nodes.find?
      (fun i => sentAt (events ++ [e]) i events.length) = mom := ⟨_, rfl⟩
  obtain ⟨t₁, f₁, hadd, h₁, hmono, hnone, hsome⟩ := hf.neighAdd (e := e) mom (by
    intro p hfound
    rw [Option.mem_def] at hfound
    rw [hfound] at hmom
    exact ⟨List.find?_some (p := fun i => sentAt (events ++ [e]) i events.length) hmom,
      hf.mem_nodes.1 (List.mem_of_find?_eq_some hmom)⟩)
  have hroots : ∀ c ∈ t₁.root, c ∈ t.root ∨
      c = events.length ∧ ∀ p < events.length, ¬ sentAt (events ++ [e]) p events.length = true := by
    intro c hc
    rw [← h₁.roots] at hc
    rw [← hf.roots]
    cases mom with
    | none =>
      rw [hnone rfl, Forest.roots_append, List.mem_append] at hc
      refine hc.imp_right fun hc => ⟨List.mem_singleton.1 hc, fun p hp => ?_⟩
      exact List.find?_eq_none.1 hmom p (hf.mem_nodes.2 hp)
    | some p =>
      rw [hsome p rfl, Forest.roots_graft] at hc
      exact .inl hc
  obtain ⟨n, hn⟩ := h₁.exists_mem (i := events.length) (by simp)
  have hlen : t₁.root.length < events.length + 2 := by
    have hle := f₁.roots_sublist.length_le
    rw [h₁.length_nodes, h₁.roots, List.length_append, List.length_singleton] at hle
    omega
  have hcheck := seqnoTraceCheckLeaves_eq hn (h₁.roots ▸ f₁.roots_sublist.nodup h₁.nodup) hlen
  have hsent : traceSent t₁.mem events.length = sentAt (events ++ [e]) events.length :=
    funext fun c => traceSent_eq_sentAt h₁.nodes events.length c
  refine ⟨_, Eq.trans ?_ hcheck, ?_⟩
  · rw [hf.size, hf.find_neigh e (Nat.le_succ _), hmom, Option.bind_some, hadd, Option.bind_some]
  · have hshape := h₁.checkLeaves hn rfl
    rw [hf.mem_filterRoots_iff_noCycle hmom hnone hsome] at hshape
    refine ⟨fun h' => hshape.1 h'.shape, fun hcycle => ⟨hshape.2 hcycle, fun c hc p hp => ?_⟩⟩
    obtain ⟨hc₁, hcx⟩ := List.mem_filter.1 hc
    rw [hsent, Bool.not_eq_true'] at hcx
    have hpx : p ≠ events.length := by
      rintro rfl
      exact absurd hp (by rw [hcx]; exact Bool.false_ne_true)
    have hlt : p < events.length := by
      have := (lt_length_of_sentAt hp).1
      rw [List.length_append, List.length_singleton] at this
      omega
    rcases hroots c hc₁ with hold | ⟨rfl, hno⟩
    · have hclt : c < events.length := hf.mem_nodes.1
        (f.roots_sublist.subset (by rw [hf.roots]; exact hold))
      rw [sentAt_append hlt hclt] at hp
      refine Relation.ReflTransGen.mono (fun i j hlink => ?_) _ _ (h.adopted c hold p hp)
      obtain ⟨kids, hkids, hj⟩ := hmono i j hlink
      rw [traceLinks_update]
      by_cases hi : i = events.length
      · subst hi
        refine ⟨_, Function.update_self _ _ _, List.mem_append_left _ ?_⟩
        rw [traceLinks, hn, Option.map_some, Option.some_inj] at hkids
        exact hkids ▸ hj
      · exact ⟨kids, by rw [Function.update_of_ne hi]; exact hkids, hj⟩
    · exact absurd hp (hno p hlt)

/-- A trace that is to be printed. -/
lemma TraceForest.setPrint (h : TraceForest events t) (print : Bool) :
    TraceForest events { t with print := print } := by
  obtain ⟨f, hf⟩ := h.shape
  exact ⟨⟨f, hf.seqno, hf.size, hf.nodes, hf.rep, hf.roots, hf.perm, hf.parents⟩, h.adopted⟩

/-- **A packet is added** to a trace, which may then have to be printed. -/
lemma traceForest_add_iff (h : TraceForest events t) (e : TraceEvent q) :
    ∃ t', seqnoTraceAddEvent t e.batNode e.event e.print = some t' ∧
      (TraceForest (events ++ [e]) t' ↔ NoCycle events t e) := by
  unfold seqnoTraceAddEvent
  by_cases hprint : e.print = true
  · rw [if_pos hprint]
    obtain ⟨t', ht', hiff⟩ := traceForest_hang_iff (h.setPrint true) e
    exact ⟨t', ht', hiff.trans ⟨fun hc => ⟨hc.below, hc.alone⟩, fun hc => ⟨hc.below, hc.alone⟩⟩⟩
  · rw [if_neg hprint]
    exact traceForest_hang_iff h e

/-- A new trace. -/
lemma traceForest_new (e : TraceEvent q) : TraceForest ([] : List (TraceEvent q))
    (seqnoTraceNew e.event) := by
  refine ⟨⟨.nil, e.seqno_eq, rfl, fun i => by simp [seqnoTraceNew], trivial, rfl, .refl _, ?_⟩, ?_⟩
  · rintro i j ⟨kids, hkids, -⟩
    exact absurd hkids (by simp [traceLinks, seqnoTraceNew])
  · exact fun c hc => absurd hc List.not_mem_nil

/-- There is one trace for all packets. -/
lemma TraceRun.Ok.add_iff {run : TraceRun q} (h : run.Ok) (e : TraceEvent q) :
    (run.add e).Ok ↔ NoCycle run.events (run.trace e) e := by
  have hok : ∀ {t'}, (run.add e).traces = some [t'] →
      ((run.add e).Ok ↔ TraceForest (run.events ++ [e]) t') := by
    intro t' ht'
    constructor
    · rintro (⟨hnil, -⟩ | ⟨t, ht, hforest, -⟩)
      · exact absurd hnil (by simp [TraceRun.add])
      · rw [ht', Option.some_inj, List.cons.injEq] at ht
        exact ht.1 ▸ hforest
    · intro hforest
      obtain ⟨f, hf⟩ := hforest.shape
      exact .inr ⟨t', ht', hforest, hf.walks⟩
  rcases h with ⟨hevents, htraces⟩ | ⟨t, htraces, hforest, -⟩
  · obtain ⟨t', ht', hiff⟩ := traceForest_add_iff (traceForest_new e) e
    have htrace : run.trace e = seqnoTraceNew e.event := by
      unfold TraceRun.trace
      rw [htraces]
      rfl
    rw [htrace, hevents, ← hiff]
    have hnew : (run.add e).traces = some [t'] := by
      simp only [TraceRun.add, htraces, Option.bind_some, seqnoTraceAdd, List.dropWhile_nil, ht',
        Option.map_some, List.takeWhile_nil, List.nil_append]
    rw [hok hnew, hevents]
  · obtain ⟨t', ht', hiff⟩ := traceForest_add_iff hforest e
    obtain ⟨f, hf⟩ := hforest.shape
    have htrace : run.trace e = t := by
      unfold TraceRun.trace
      rw [htraces]
      rfl
    rw [htrace, ← hiff]
    have hseqno : t.seqno = e.event.seqno := hf.seqno.trans e.seqno_eq.symm
    refine hok ?_
    simp only [TraceRun.add, htraces, Option.bind_some, seqnoTraceAdd, List.dropWhile_cons, hseqno,
      lt_irrefl, decide_false, Bool.false_eq_true, if_false, List.takeWhile_cons, if_true, ht',
      Option.map_some, List.nil_append]

/-- **When a trace is a forest of all packets**: however the packets of one sequence number are
added, after each of them the trace is a forest of all packets so far, and the walks over it end,
exactly as long as no packet takes over the tree it is in.

**Proof sketch.** Induction on the packets: a packet keeps it exactly if it does not. -/
theorem trace_has_all_packets_iff (events : List (TraceEvent q)) :
    (∀ run ∈ Run.states TraceRun.add TraceRun.start events, run.Ok) ↔
      Run.AllSteps TraceRun.add (fun run e => NoCycle run.events (run.trace e) e)
        TraceRun.start events := by
  have h0 : (TraceRun.start : TraceRun q).Ok := .inl ⟨rfl, rfl⟩
  exact Run.forall_mem_states_iff TraceRun.Ok TraceRun.Ok (fun _ _ => True)
    (fun run e h _ => h.add_iff e) (fun run e h _ hcycle => (h.add_iff e).2 hcycle) h0 h0
    (.of_forall (fun _ _ => trivial) events)

/-- A packet that a node received back from a neighbor, which had it from the node. -/
def echoEvent (node neigh : EthAddr) : TraceEvent 5 :=
  ⟨node, ⟨0x02000000000c, some neigh, some node, 5, 200, 49, none⟩, true, rfl, rfl, rfl⟩

/-- **Two nodes that hear each other repeat a packet**: each of the two packets may have come from
the other one, and after the second is added the trace has no root. -/
theorem trace_of_echo :
    ¬ ∀ run ∈ Run.states TraceRun.add TraceRun.start
      [echoEvent 0x02000000000a 0x02000000000b, echoEvent 0x02000000000b 0x02000000000a],
        run.Ok := by
  intro hall
  have hroots : ((Run.final TraceRun.add TraceRun.start
      [echoEvent 0x02000000000a 0x02000000000b, echoEvent 0x02000000000b 0x02000000000a]).traces.map
        fun traces => traces.map SeqnoTrace.root) = some [[]] := by decide +kernel
  rcases hall _ (Run.final_mem_states _ _) with ⟨hnil, -⟩ | ⟨t, ht, hforest, -⟩
  · exact absurd hnil (by simp [TraceRun.add, TraceRun.start])
  · rw [ht] at hroots
    obtain ⟨f, hf⟩ := hforest.shape
    have hempty : f.roots = [] := by
      rw [hf.roots]
      simpa using hroots
    have hperm := hf.perm.length_eq
    cases f with
    | nil => exact absurd hperm (by decide)
    | cons i below rest => exact absurd hempty (by simp)

end Batctl
