import Mathlib.Data.List.Perm.Basic
import Mathlib.Data.List.Nodup
import Mathlib.Logic.Function.Basic
import Mathlib.Logic.Relation

set_option relaxedAutoImplicit false
set_option autoImplicit false

/-!
# Forests in memory

A forest is a list of trees, given as a first tree (a node and the forest below it) and the rest.
It is in memory if every node has the list of the roots below it.  A memory and a list of roots may
hold no forest at all, when a node can be reached from itself.

## Main definitions

* `Forest`, `Forest.roots`, `Forest.nodes` — forests, their roots, and their nodes in the order of a
  walk.
* `Forest.Rep` — a forest is in memory.
* `Forest.append`, `Forest.graft`, `Forest.filterRoots` — put together, hang below a node, and take
  some of the trees.
* `Forest.Reaches` — one node is below another one, or is that node.

## Main results

* `Forest.Rep.graft`, `Forest.nodes_graft_perm` — a forest that is hung below a node.
* `Forest.Rep.reaches_iff` — what is below a root.
* `Forest.Rep.not_mem_of_closed` — nodes that a forest cannot have.
-/

/-- A forest: the first tree and the other ones. -/
inductive Forest where
  | nil
  | cons (i : ℕ) (below rest : Forest)

namespace Forest

/-- The roots. -/
def roots : Forest → List ℕ
  | nil => []
  | cons i _ rest => i :: rest.roots

/-- The nodes, each before those below it. -/
def nodes : Forest → List ℕ
  | nil => []
  | cons i below rest => i :: (below.nodes ++ rest.nodes)

/-- **A forest is in memory**: every node is linked to the roots below it. -/
def Rep (links : ℕ → Option (List ℕ)) : Forest → Prop
  | nil => True
  | cons i below rest => links i = some below.roots ∧ below.Rep links ∧ rest.Rep links

/-- The trees of two forests. -/
def append : Forest → Forest → Forest
  | nil, g => g
  | cons i below rest, g => cons i below (rest.append g)

/-- Hang a forest below a node, behind what is there. -/
def graft : Forest → ℕ → Forest → Forest
  | nil, _, _ => nil
  | cons i below rest, x, g =>
    cons i (if i = x then (below.graft x g).append g else below.graft x g) (rest.graft x g)

/-- The trees whose roots are selected. -/
def filterRoots (p : ℕ → Bool) : Forest → Forest
  | nil => nil
  | cons i below rest => if p i then cons i below (rest.filterRoots p) else rest.filterRoots p

/-- A node that is linked to another one. -/
def Links (links : ℕ → Option (List ℕ)) (i j : ℕ) : Prop :=
  ∃ kids, links i = some kids ∧ j ∈ kids

/-- One node is below another one, or is that node. -/
def Reaches (links : ℕ → Option (List ℕ)) : ℕ → ℕ → Prop := Relation.ReflTransGen (Links links)

variable {links links' : ℕ → Option (List ℕ)} {i j x : ℕ} {f g below rest : Forest}

@[simp] lemma roots_nil : roots nil = [] := rfl

@[simp] lemma roots_cons : (cons i below rest).roots = i :: rest.roots := rfl

@[simp] lemma nodes_nil : nodes nil = [] := rfl

@[simp] lemma nodes_cons : (cons i below rest).nodes = i :: (below.nodes ++ rest.nodes) := rfl

@[simp] lemma roots_append : (f.append g).roots = f.roots ++ g.roots := by
  induction f with
  | nil => rfl
  | cons i below rest _ ih => rw [append, roots_cons, ih]; rfl

@[simp] lemma nodes_append : (f.append g).nodes = f.nodes ++ g.nodes := by
  induction f with
  | nil => rfl
  | cons i below rest _ ih => rw [append, nodes_cons, ih, nodes_cons]; simp

lemma rep_append : (f.append g).Rep links ↔ f.Rep links ∧ g.Rep links := by
  induction f with
  | nil => simp [append, Rep]
  | cons i below rest _ ih => rw [append, Rep, Rep, ih, and_assoc, and_assoc]

/-- The roots are nodes. -/
lemma roots_sublist (f : Forest) : f.roots.Sublist f.nodes := by
  induction f with
  | nil => exact List.Sublist.slnil
  | cons i below rest _ ih =>
    exact (ih.trans (List.sublist_append_right _ _)).cons_cons i

/-- A forest depends on the links of its own nodes alone. -/
lemma Rep.congr (h : f.Rep links) (hlinks : ∀ i ∈ f.nodes, links' i = links i) : f.Rep links' := by
  induction f with
  | nil => trivial
  | cons i below rest ihb ihr =>
    rw [nodes_cons, List.forall_mem_cons, List.forall_mem_append] at hlinks
    exact ⟨hlinks.1.trans h.1, ihb h.2.1 hlinks.2.1, ihr h.2.2 hlinks.2.2⟩

/-- The tree of a node. -/
lemma exists_split_of_mem_nodes (h : i ∈ f.nodes) :
    ∃ (g : Forest) (r : ℕ) (below g' : Forest),
      f = g.append (cons r below g') ∧ i ∈ r :: below.nodes ∧ i ∉ g.nodes := by
  induction f with
  | nil => exact absurd h (List.not_mem_nil)
  | cons j below rest _ ih =>
    by_cases hj : i ∈ j :: below.nodes
    · exact ⟨nil, j, below, rest, rfl, hj, List.not_mem_nil⟩
    · have hrest : i ∈ rest.nodes := by
        rw [nodes_cons, ← List.cons_append, List.mem_append] at h
        exact h.resolve_left hj
      obtain ⟨g, r, below', g', rfl, hmem, hnot⟩ := ih hrest
      refine ⟨cons j below g, r, below', g', rfl, hmem, ?_⟩
      rw [nodes_cons, ← List.cons_append, List.mem_append]
      exact not_or.2 ⟨hj, hnot⟩

/-! ### Selected trees -/

lemma roots_filterRoots (p : ℕ → Bool) : (f.filterRoots p).roots = f.roots.filter p := by
  induction f with
  | nil => rfl
  | cons i below rest _ ih =>
    rw [filterRoots, roots_cons]
    by_cases hp : p i = true
    · rw [if_pos hp, roots_cons, ih, List.filter_cons_of_pos hp]
    · rw [if_neg hp, ih, List.filter_cons_of_neg hp]

lemma nodes_filterRoots_sublist (p : ℕ → Bool) (f : Forest) :
    (f.filterRoots p).nodes.Sublist f.nodes := by
  induction f with
  | nil => exact List.Sublist.slnil
  | cons i below rest _ ih =>
    rw [filterRoots, nodes_cons]
    split_ifs
    · rw [nodes_cons]
      exact (ih.append_left _).cons_cons i
    · exact (ih.trans (List.sublist_append_right _ _)).cons i

/-- The nodes of the trees that are selected, and those of the others. -/
lemma nodes_filterRoots_perm (p : ℕ → Bool) (f : Forest) :
    ((f.filterRoots fun i => !p i).nodes ++ (f.filterRoots p).nodes).Perm f.nodes := by
  induction f with
  | nil => exact .refl _
  | cons i below rest _ ih =>
    rw [filterRoots, filterRoots, nodes_cons]
    cases hp : p i with
    | false =>
      simp only [Bool.not_false, if_true, Bool.false_eq_true, if_false, nodes_cons]
      rw [List.cons_append, List.append_assoc]
      exact (ih.append_left _).cons i
    | true =>
      simp only [Bool.not_true, Bool.false_eq_true, if_false, if_true, nodes_cons]
      refine List.perm_middle.trans (List.Perm.cons i ?_)
      exact (List.perm_append_comm_assoc _ _ _).trans (ih.append_left _)

lemma Rep.filterRoots (h : f.Rep links) (p : ℕ → Bool) : (f.filterRoots p).Rep links := by
  induction f with
  | nil => trivial
  | cons i below rest _ ih =>
    rw [Forest.filterRoots]
    split_ifs
    · exact ⟨h.1, h.2.1, ih h.2.2⟩
    · exact ih h.2.2

lemma filterRoots_append (p : ℕ → Bool) :
    (f.append g).filterRoots p = (f.filterRoots p).append (g.filterRoots p) := by
  induction f with
  | nil => rfl
  | cons i below rest _ ih =>
    rw [append, filterRoots, filterRoots, ih]
    split_ifs <;> rfl

/-- A node is in a selected tree or in another one. -/
lemma not_mem_filterRoots (hnodup : f.nodes.Nodup) {p : ℕ → Bool}
    (hi : i ∈ (f.filterRoots p).nodes) : i ∉ (f.filterRoots fun i => !p i).nodes := by
  intro hi'
  have hboth := (nodes_filterRoots_perm p f).nodup_iff.2 hnodup
  exact (List.nodup_append.1 hboth).2.2 i hi' i hi rfl

/-- Whether a node is in a selected tree depends on the root of its tree. -/
lemma mem_filterRoots_split {r : ℕ} {p : ℕ → Bool}
    (hnodup : (f.append (cons r below g)).nodes.Nodup) (hi : i ∈ r :: below.nodes) :
    i ∈ ((f.append (cons r below g)).filterRoots p).nodes ↔ p r = true := by
  rw [nodes_append, nodes_cons, List.nodup_append, ← List.cons_append, List.nodup_append] at hnodup
  obtain ⟨-, ⟨-, -, hg⟩, hf⟩ := hnodup
  have hif : i ∉ (f.filterRoots p).nodes := fun h =>
    hf i ((nodes_filterRoots_sublist p f).subset h) i (List.mem_append_left _ hi) rfl
  have hig : i ∉ (g.filterRoots p).nodes := fun h =>
    hg i hi i ((nodes_filterRoots_sublist p g).subset h) rfl
  rw [filterRoots_append, nodes_append, List.mem_append, filterRoots]
  by_cases hp : p r = true
  · rw [if_pos hp, nodes_cons, ← List.cons_append, List.mem_append]
    exact iff_of_true (.inr (.inl hi)) hp
  · rw [if_neg hp]
    exact iff_of_false (not_or.2 ⟨hif, hig⟩) hp

/-! ### A forest below a node -/

@[simp] lemma roots_graft : (f.graft x g).roots = f.roots := by
  induction f with
  | nil => rfl
  | cons i below rest _ ih => rw [graft, roots_cons, ih, roots_cons]

lemma graft_of_not_mem (h : x ∉ f.nodes) : f.graft x g = f := by
  induction f with
  | nil => rfl
  | cons i below rest ihb ihr =>
    rw [nodes_cons, List.mem_cons, List.mem_append, not_or, not_or] at h
    rw [graft, if_neg (Ne.symm h.1), ihb h.2.1, ihr h.2.2]

/-- The nodes of a forest that is hung below one of its nodes. -/
lemma nodes_graft_perm (hnodup : f.nodes.Nodup) (hx : x ∈ f.nodes) :
    (f.graft x g).nodes.Perm (f.nodes ++ g.nodes) := by
  induction f with
  | nil => exact absurd hx (List.not_mem_nil)
  | cons i below rest ihb ihr =>
    rw [nodes_cons, List.nodup_cons, List.nodup_append] at hnodup
    obtain ⟨hi, hbelow, hrest, hdisj⟩ := hnodup
    rw [List.mem_append, not_or] at hi
    rw [graft, nodes_cons, nodes_cons, List.cons_append]
    refine List.Perm.cons i ?_
    rw [nodes_cons, List.mem_cons, List.mem_append] at hx
    by_cases hxi : i = x
    · subst hxi
      rw [if_pos rfl, graft_of_not_mem hi.1, graft_of_not_mem hi.2, nodes_append, List.append_assoc,
        List.append_assoc]
      exact List.perm_append_comm.append_left _
    · rw [if_neg hxi]
      rcases hx.resolve_left (Ne.symm hxi) with hx | hx
      · have hxr : x ∉ rest.nodes := fun hxr => hdisj x hx x hxr rfl
        rw [graft_of_not_mem hxr]
        refine ((ihb hbelow hx).append_right _).trans ?_
        rw [List.append_assoc, List.append_assoc]
        exact List.perm_append_comm.append_left _
      · have hxb : x ∉ below.nodes := fun hxb => hdisj x hxb x hx rfl
        rw [graft_of_not_mem hxb, List.append_assoc]
        exact (ihr hrest hx).append_left _

lemma filterRoots_graft (p : ℕ → Bool) :
    (f.graft x g).filterRoots p = (f.filterRoots p).graft x g := by
  induction f with
  | nil => rfl
  | cons i below rest _ ih =>
    rw [graft, filterRoots, filterRoots, ih]
    by_cases hp : p i = true
    · rw [if_pos hp, if_pos hp, graft]
    · rw [if_neg hp, if_neg hp]

/-- What is hung below a node is there exactly if the node is. -/
lemma mem_nodes_graft (hnodup : f.nodes.Nodup) (hi : i ∉ f.nodes) (hg : i ∈ g.nodes) :
    i ∈ (f.graft x g).nodes ↔ x ∈ f.nodes := by
  by_cases hx : x ∈ f.nodes
  · rw [(nodes_graft_perm hnodup hx).mem_iff, List.mem_append]
    exact iff_of_true (.inr hg) hx
  · rw [graft_of_not_mem hx]
    exact iff_of_false hi hx

/-- **A forest that is hung below a node**, in memory.

**Proof sketch.** Induction on the forest; only the links of the node change, and it is in one of
the two parts. -/
lemma Rep.graft {kids : List ℕ} (h : f.Rep links) (hnodup : f.nodes.Nodup) (hg : g.Rep links)
    (hxg : x ∉ g.nodes) (hkids : links x = some kids) :
    (f.graft x g).Rep (Function.update links x (some (kids ++ g.roots))) := by
  have hother : ∀ {f' : Forest}, f'.Rep links → x ∉ f'.nodes →
      f'.Rep (Function.update links x (some (kids ++ g.roots))) := fun hf' hx =>
    hf'.congr fun i hi => Function.update_of_ne (ne_of_mem_of_not_mem hi hx) _ _
  induction f with
  | nil => trivial
  | cons i below rest ihb ihr =>
    rw [nodes_cons, List.nodup_cons, List.nodup_append, List.mem_append, not_or] at hnodup
    obtain ⟨hi, hbelow, hrest, -⟩ := hnodup
    rw [Forest.graft]
    by_cases hxi : i = x
    · subst hxi
      have hroots : kids = below.roots := Option.some.inj (hkids.symm.trans h.1)
      rw [if_pos rfl, graft_of_not_mem hi.1, graft_of_not_mem hi.2]
      refine ⟨?_, rep_append.2 ⟨hother h.2.1 hi.1, hother hg hxg⟩, hother h.2.2 hi.2⟩
      rw [Function.update_self, roots_append, hroots]
    · rw [if_neg hxi]
      refine ⟨?_, ihb h.2.1 hbelow, ihr h.2.2 hrest⟩
      rw [Function.update_of_ne hxi, roots_graft]
      exact h.1

/-! ### What is below a node -/

/-- A node of a forest that is linked to another one is linked to a node of it. -/
lemma Rep.mem_of_links (h : f.Rep links) (hi : i ∈ f.nodes) (hlink : Links links i j) :
    j ∈ f.nodes := by
  induction f with
  | nil => exact absurd hi (List.not_mem_nil)
  | cons k below rest ihb ihr =>
    rw [nodes_cons, List.mem_cons, List.mem_append] at hi ⊢
    rcases hi with rfl | hi | hi
    · obtain ⟨kids, hkids, hj⟩ := hlink
      have hroots : kids = below.roots := Option.some.inj (hkids.symm.trans h.1)
      exact .inr (.inl (below.roots_sublist.subset (hroots ▸ hj)))
    · exact .inr (.inl (ihb h.2.1 hi))
    · exact .inr (.inr (ihr h.2.2 hi))

/-- Every node of a forest can be reached from a root. -/
lemma Rep.exists_reaches (h : f.Rep links) (hj : j ∈ f.nodes) :
    ∃ i ∈ f.roots, Reaches links i j := by
  induction f with
  | nil => exact absurd hj (List.not_mem_nil)
  | cons k below rest ihb ihr =>
    rw [nodes_cons, List.mem_cons, List.mem_append] at hj
    rcases hj with rfl | hj | hj
    · exact ⟨j, List.mem_cons_self, .refl⟩
    · obtain ⟨i, hi, hreach⟩ := ihb h.2.1 hj
      exact ⟨k, List.mem_cons_self, .head ⟨_, h.1, hi⟩ hreach⟩
    · obtain ⟨i, hi, hreach⟩ := ihr h.2.2 hj
      exact ⟨i, List.mem_cons_of_mem _ hi, hreach⟩

/-- **What can be reached from a root** is its tree. -/
lemma Rep.reaches_iff (h : (cons i below nil).Rep links) :
    Reaches links i j ↔ j ∈ i :: below.nodes := by
  constructor
  · intro hreach
    induction hreach with
    | refl => exact List.mem_cons_self
    | tail _ hlink ih =>
      have hmem := h.mem_of_links (by simpa using ih) hlink
      simpa using hmem
  · intro hj
    obtain ⟨k, hk, hreach⟩ := h.exists_reaches (j := j) (by simpa using hj)
    rw [roots_cons, roots_nil, List.mem_singleton] at hk
    exact hk ▸ hreach

/-- What can be reached from a node of a forest is a node of it. -/
lemma Rep.mem_of_reaches (h : f.Rep links) (hi : i ∈ f.nodes) (hreach : Reaches links i j) :
    j ∈ f.nodes := by
  induction hreach with
  | refl => exact hi
  | tail _ hlink ih => exact h.mem_of_links ih hlink

/-- **The tree of the first node of a kind** is the first one from whose root such a node can be
reached. -/
lemma Rep.mem_filterRoots_find_iff {s p : ℕ → Bool} (h : f.Rep links) (hnodup : f.nodes.Nodup)
    (hfind : f.nodes.find? s = some i) :
    i ∈ (f.filterRoots p).nodes ↔
      ∀ pre r post, f.roots = pre ++ r :: post →
        (∀ c ∈ pre, ∀ j, Reaches links c j → ¬ s j = true) →
        (∃ j, Reaches links r j ∧ s j = true) → p r = true := by
  classical
  obtain ⟨g, r₀, below, g', rfl, hmem, hnot⟩ :=
    exists_split_of_mem_nodes (List.mem_of_find?_eq_some hfind)
  obtain ⟨hg, hr₀, hbelow, -⟩ := rep_append.1 h
  have htree : ∀ j, Reaches links r₀ j ↔ j ∈ r₀ :: below.nodes := fun j =>
    Rep.reaches_iff ⟨hr₀, hbelow, trivial⟩
  have hbefore : ∀ j ∈ g.nodes, ¬ s j = true := by
    rw [nodes_append, List.find?_append] at hfind
    cases hgfind : g.nodes.find? s with
    | none => exact List.find?_eq_none.1 hgfind
    | some k =>
      rw [hgfind, Option.some_or, Option.some_inj] at hfind
      exact absurd (List.mem_of_find?_eq_some hgfind) (hfind ▸ hnot)
  -- whether a node of the kind can be reached decides which root is the first one
  have hno : ∀ c, (∀ j, Reaches links c j → ¬ s j = true) →
      (!decide (∃ j, Reaches links c j ∧ s j = true)) = true := by
    intro c hc
    rw [decide_eq_false fun ⟨j, hreach, hs⟩ => hc j hreach hs]
    rfl
  have hfirst : (g.append (cons r₀ below g')).roots.find?
      (fun c => decide (∃ j, Reaches links c j ∧ s j = true)) = some r₀ := by
    rw [roots_append, roots_cons, List.find?_eq_some_iff_append]
    refine ⟨decide_eq_true ⟨i, (htree i).2 hmem, List.find?_some hfind⟩, _, _, rfl, ?_⟩
    exact fun c hc => hno c fun j hreach =>
      hbefore j (hg.mem_of_reaches (g.roots_sublist.subset hc) hreach)
  rw [mem_filterRoots_split hnodup hmem]
  constructor
  · intro hp pre r post hroots hpre hr
    have hother : (g.append (cons r₀ below g')).roots.find?
        (fun c => decide (∃ j, Reaches links c j ∧ s j = true)) = some r := by
      rw [hroots, List.find?_eq_some_iff_append]
      exact ⟨decide_eq_true hr, pre, post, rfl, fun c hc => hno c (hpre c hc)⟩
    rw [hfirst, Option.some_inj] at hother
    exact hother ▸ hp
  · intro hall
    refine hall g.roots r₀ g'.roots (by rw [roots_append, roots_cons]) ?_
      ⟨i, (htree i).2 hmem, List.find?_some hfind⟩
    intro c hc j hreach
    exact hbefore j (hg.mem_of_reaches (g.roots_sublist.subset hc) hreach)

/-- **Nodes that a forest cannot have**: those that are linked to by such nodes alone, if none of
them is a root. -/
lemma Rep.not_mem_of_closed {s : ℕ → Prop} (h : f.Rep links) (hroots : ∀ i ∈ f.roots, ¬ s i)
    (hclosed : ∀ i j, Links links i j → s j → s i) : ∀ i ∈ f.nodes, ¬ s i := by
  induction f with
  | nil => exact fun i hi => absurd hi (List.not_mem_nil)
  | cons k below rest ihb ihr =>
    rw [roots_cons, List.forall_mem_cons] at hroots
    rw [nodes_cons, List.forall_mem_cons, List.forall_mem_append]
    exact ⟨hroots.1, ihb h.2.1 fun i hi hs => hroots.1 (hclosed k i ⟨_, h.1, hi⟩ hs),
      ihr h.2.2 hroots.2⟩

end Forest
