import Mathlib.Data.Finset.Card
import Mathlib.Data.Finset.Range
import Mathlib.Data.Nat.Find
import Mathlib.Data.Set.Insert
import Mathlib.Logic.Function.Basic
import Mathlib.Logic.Relation
import Mathlib.Order.Lattice

set_option relaxedAutoImplicit false
set_option autoImplicit false

/-!
# Routes that are advertised with numbers and costs

A destination advertises itself again and again, each time with a greater number.  A vertex that
hears an advertisement from another one may route by it, at a cost that is not less than the
advertised one, and advertise its own cost in turn.  It ignores numbers that are smaller than the
greatest one it has taken notice of.  It changes its route to another vertex only for a greater
number or a smaller cost, and advertises each number once.

Every vertex hears what was advertised in its own order, or not at all, but not twice at the same
port.  Nevertheless the routes of all vertices never form a loop, and lead to the destination: along
a route the number grows, or it is the same and the cost shrinks, or both are the same and the
route is older.

## Main definitions

* `Advertised.Advert`, `Advertised.Route`, `Advertised.State` — what was advertised, and the routes.
* `Advertised.Step`, `Advertised.Reachable` — what can happen.
* `Advertised.Uses` — a vertex routes by another one.
* `Advertised.Route.Better` — the order in which routes change, and in which they follow each other.

## Main results

* `Advertised.Inv.better` — the route of the next vertex is better.
* `Advertised.not_transGen_uses` — **there is no loop**.
* `Advertised.exists_dest` — **every route leads to a destination**.
-/

namespace Advertised

/-! ### States -/

/-- An advertisement: who sent it, its number, and the cost from there. -/
structure Advert (V C : Type*) where
  source : V
  seqno : ℕ
  cost : C

/-- A route: the next vertex and the port it is heard at, the number and the cost, and how many
advertisements there were when they were stored. -/
structure Route (V P C : Type*) where
  next : V
  port : P
  seqno : ℕ
  cost : C
  since : ℕ

/-- The greatest numbers that the vertices have taken notice of, the routes, all advertisements in
the order in which they were sent, and which of them were heard, by whom and where. -/
structure State (V P C : Type*) where
  newest : V → ℕ
  route : V → Option (Route V P C)
  adverts : List (Advert V C)
  heard : Set (V × P × ℕ)

/-- Nothing was advertised yet. -/
def State.start {V P C : Type*} : State V P C := ⟨fun _ => 0, fun _ => none, [], ∅⟩

section Steps

variable {V P C : Type*} [DecidableEq V] [LinearOrder C] (dest : V → Prop)

/-- A vertex may replace its route by one at the given port, with a number and a cost. -/
def Replaces (old : Option (Route V P C)) (r : Route V P C) : Prop :=
  ∀ o ∈ old, o.seqno < r.seqno ∨ r.cost < o.cost ∨ o.next = r.next ∧ o.port = r.port

/-- The state after a vertex has heard an advertisement. -/
def State.hear (s : State V P C) (v : V) (p : P) (i seqno : ℕ) : State V P C :=
  { s with newest := Function.update s.newest v seqno, heard := insert (v, p, i) s.heard }

/-- The state after a vertex has stored a route. -/
def State.take (s : State V P C) (v : V) (r : Route V P C) : State V P C :=
  { s with route := Function.update s.route v (some r) }

/-- The state after a vertex has advertised. -/
def State.advertise (s : State V P C) (v : V) (seqno : ℕ) (cost : C) : State V P C :=
  { s with adverts := s.adverts ++ [⟨v, seqno, cost⟩] }

/-- A vertex can take notice of the advertisement with an index. -/
structure State.Hears (s : State V P C) (v : V) (p : P) (i : ℕ) (a : Advert V C) : Prop where
  dest : ¬ dest v
  advert : s.adverts[i]? = some a
  fresh : (v, p, i) ∉ s.heard
  newest : s.newest v ≤ a.seqno

/-- **What can happen.**  The destination advertises itself.  A vertex takes notice of an
advertisement, it stores a route, and it advertises its own cost. -/
inductive Step : State V P C → State V P C → Prop
  | start (s : State V P C) (v : V) (seqno : ℕ) (cost : C) (hdest : dest v)
      (hseqno : ∀ a ∈ s.adverts, a.source = v → a.seqno < seqno) :
      Step s (s.advertise v seqno cost)
  | hear (s : State V P C) (v : V) (p : P) (i : ℕ) (a : Advert V C) (hears : s.Hears dest v p i a) :
      Step s (s.hear v p i a.seqno)
  | take (s : State V P C) (v : V) (p : P) (i : ℕ) (a : Advert V C) (cost : C)
      (hears : s.Hears dest v p i a) (hcost : a.cost ≤ cost)
      (hreplaces : Replaces (s.route v) ⟨a.source, p, a.seqno, cost, s.adverts.length⟩) :
      Step s ((s.hear v p i a.seqno).take v ⟨a.source, p, a.seqno, cost, s.adverts.length⟩)
  | pass (s : State V P C) (v : V) (p : P) (i : ℕ) (a : Advert V C) (cost sent : C)
      (hears : s.Hears dest v p i a) (hcost : a.cost ≤ cost)
      (hreplaces : Replaces (s.route v) ⟨a.source, p, a.seqno, cost, s.adverts.length⟩)
      (hsent : cost ≤ sent) (honce : ∀ b ∈ s.adverts, b.source = v → b.seqno ≠ a.seqno) :
      Step s (((s.hear v p i a.seqno).take v
        ⟨a.source, p, a.seqno, cost, s.adverts.length⟩).advertise v a.seqno sent)

/-- The states that are reached from the start. -/
def Reachable (s : State V P C) : Prop := Relation.ReflTransGen (Step dest) .start s

end Steps

/-- A vertex routes by another one. -/
def Uses {V P C : Type*} (s : State V P C) (v w : V) : Prop := ∃ r ∈ s.route v, r.next = w

/-! ### Better routes -/

section Order

variable {V P C : Type*} [LinearOrder C]

/-- A route is better: its number is greater, or it costs less, or it is older. -/
def Route.Better (r r' : Route V P C) : Prop :=
  r'.seqno < r.seqno ∨
    r.seqno = r'.seqno ∧ (r.cost < r'.cost ∨ r.cost = r'.cost ∧ r.since < r'.since)

lemma Route.Better.trans {r r' r'' : Route V P C} (h : r.Better r') (h' : r'.Better r'') :
    r.Better r'' := by
  rcases h with h | ⟨heq, h⟩
  · rcases h' with h' | ⟨heq', -⟩
    · exact .inl (h'.trans h)
    · exact .inl (heq' ▸ h)
  · rcases h' with h' | ⟨heq', h'⟩
    · exact .inl (heq ▸ h')
    · refine .inr ⟨heq.trans heq', ?_⟩
      rcases h with h | ⟨hcost, h⟩
      · rcases h' with h' | ⟨hcost', -⟩
        · exact .inl (h.trans h')
        · exact .inl (hcost' ▸ h)
      · rcases h' with h' | ⟨hcost', h'⟩
        · exact .inl (hcost ▸ h')
        · exact .inr ⟨hcost.trans hcost', h.trans h'⟩

lemma Route.not_better_self (r : Route V P C) : ¬ r.Better r := by
  rintro (h | ⟨-, h | ⟨-, h⟩⟩)
  · exact lt_irrefl _ h
  · exact lt_irrefl _ h
  · exact lt_irrefl _ h

/-- A route covers an advertisement of its vertex: its number is greater, or it costs less, or not
more and it was stored before. -/
def Route.Covers (r : Route V P C) (i : ℕ) (a : Advert V C) : Prop :=
  a.seqno < r.seqno ∨ r.seqno = a.seqno ∧ (r.cost < a.cost ∨ r.cost ≤ a.cost ∧ r.since ≤ i)

/-- A route that was stored for an advertisement of the next vertex is worse than one of the next
vertex that covers the advertisement. -/
lemma Route.Covers.better {r r' : Route V P C} {i : ℕ} {a : Advert V C} (h : r'.Covers i a)
    (hseqno : a.seqno = r.seqno) (hcost : a.cost ≤ r.cost) (hsince : i < r.since) :
    r'.Better r := by
  rcases h with h | ⟨heq, h⟩
  · exact .inl (hseqno ▸ h)
  · refine .inr ⟨heq.trans hseqno, ?_⟩
    rcases h with h | ⟨hle, hs⟩
    · exact .inl (h.trans_le hcost)
    · rcases (hle.trans hcost).lt_or_eq with h | h
      · exact .inl h
      · exact .inr ⟨h, hs.trans_lt hsince⟩

end Order

/-! ### What the steps keep -/

section Invariant

variable {V P C : Type*} [LinearOrder C] {dest : V → Prop}

/-- **The invariant.**  The advertisements of a vertex have increasing numbers, not greater than
what it has taken notice of.  A route was stored for an advertisement that was heard.  The route of
a vertex covers all its advertisements. -/
structure Inv (dest : V → Prop) (s : State V P C) : Prop where
  increasing : s.adverts.Pairwise fun a b => a.source = b.source → a.seqno < b.seqno
  newest : ∀ a ∈ s.adverts, ¬ dest a.source → a.seqno ≤ s.newest a.source
  route : ∀ v, ∀ r ∈ s.route v, ¬ dest v ∧ r.seqno ≤ s.newest v ∧ ∃ i a, s.adverts[i]? = some a ∧
    i < r.since ∧ (v, r.port, i) ∈ s.heard ∧ a.source = r.next ∧ a.seqno = r.seqno ∧ a.cost ≤ r.cost
  covers : ∀ i a, s.adverts[i]? = some a → ¬ dest a.source →
    ∃ r ∈ s.route a.source, r.Covers i a

lemma inv_start : Inv dest (State.start : State V P C) where
  increasing := List.Pairwise.nil
  newest := fun _ h => absurd h List.not_mem_nil
  route := fun _ r h => absurd h (Option.not_mem_none r)
  covers := fun _ _ h => absurd h (by simp [State.start])

/-- Two advertisements of a vertex with one number are the same. -/
lemma Inv.index_eq {s : State V P C} (h : Inv dest s) {i j : ℕ} {a b : Advert V C}
    (hi : s.adverts[i]? = some a) (hj : s.adverts[j]? = some b) (hsource : a.source = b.source)
    (hseqno : a.seqno = b.seqno) : i = j := by
  obtain ⟨hlti, rfl⟩ := List.getElem?_eq_some_iff.1 hi
  obtain ⟨hltj, rfl⟩ := List.getElem?_eq_some_iff.1 hj
  have hpair := List.pairwise_iff_getElem.1 h.increasing
  rcases lt_trichotomy i j with hij | hij | hij
  · exact absurd hseqno (hpair i j hlti hltj hij hsource).ne
  · exact hij
  · exact absurd hseqno.symm (hpair j i hltj hlti hij hsource.symm).ne

/-- A stored route is better than the one before. -/
lemma Inv.better_of_replaces {s : State V P C} (h : Inv dest s) {v : V} {p : P} {i : ℕ}
    {a : Advert V C} (hears : s.Hears dest v p i a) {cost : C}
    (hreplaces : Replaces (s.route v) ⟨a.source, p, a.seqno, cost, s.adverts.length⟩)
    {o : Route V P C} (ho : o ∈ s.route v) :
    o.seqno < a.seqno ∨ o.seqno = a.seqno ∧ cost < o.cost := by
  obtain ⟨-, hnewest, j, b, hj, -, hheard, hsource, hseqno, -⟩ := h.route v o ho
  rcases (hnewest.trans hears.newest).lt_or_eq with hlt | heq
  · exact .inl hlt
  · rcases hreplaces o ho with hlt | hcost | ⟨hnext, hport⟩
    · exact .inl hlt
    · exact .inr ⟨heq, hcost⟩
    · -- the same advertisement would have been heard twice
      have hij := h.index_eq hj hears.advert (hsource.trans hnext) (hseqno.trans heq)
      have hport' : o.port = p := hport
      rw [hij, hport'] at hheard
      exact absurd hheard hears.fresh

/-- Advertising a number that is greater than those before, with a route that covers it. -/
lemma Inv.advertise {s : State V P C} (h : Inv dest s) {v : V} {seqno : ℕ} {cost : C}
    (hseqno : ∀ a ∈ s.adverts, a.source = v → a.seqno < seqno)
    (hroute : ¬ dest v → seqno ≤ s.newest v ∧
      ∃ r ∈ s.route v, r.Covers s.adverts.length ⟨v, seqno, cost⟩) :
    Inv dest (s.advertise v seqno cost) where
  increasing := by
    refine List.pairwise_append.2 ⟨h.increasing, List.pairwise_singleton _ _, fun a ha b hb => ?_⟩
    rw [List.mem_singleton.1 hb]
    exact hseqno a ha
  newest := by
    intro a ha hdest
    rcases List.mem_append.1 ha with ha | ha
    · exact h.newest a ha hdest
    · obtain rfl := List.mem_singleton.1 ha
      exact (hroute hdest).1
  route := by
    intro w r hr
    obtain ⟨hdest, hnewest, i, a, hi, hrest⟩ := h.route w r hr
    exact ⟨hdest, hnewest, i, a, List.getElem?_append_left
      (List.getElem?_eq_some_iff.1 hi).1 ▸ hi, hrest⟩
  covers := by
    intro i a hi hdest
    rcases lt_or_ge i s.adverts.length with hlt | hge
    · exact h.covers i a ((List.getElem?_append_left hlt).symm.trans hi) hdest
    · have hi' : [(⟨v, seqno, cost⟩ : Advert V C)][i - s.adverts.length]? = some a :=
        (List.getElem?_append_right hge).symm.trans hi
      obtain ⟨hone, rfl⟩ := List.getElem?_eq_some_iff.1 hi'
      have hi0 : i = s.adverts.length := by
        rw [List.length_singleton] at hone
        omega
      simp only [hi0, Nat.sub_self, List.getElem_cons_zero] at hdest ⊢
      exact (hroute hdest).2

end Invariant

section Steps

variable {V P C : Type*} [DecidableEq V] [LinearOrder C] {dest : V → Prop}

/-- Taking notice of an advertisement. -/
lemma Inv.hear {s : State V P C} (h : Inv dest s) {v : V} {p : P} {i : ℕ} {a : Advert V C}
    (hears : s.Hears dest v p i a) : Inv dest (s.hear v p i a.seqno) := by
  have hle : ∀ w, s.newest w ≤ (s.hear v p i a.seqno).newest w := by
    intro w
    by_cases hw : w = v
    · subst hw
      exact hears.newest.trans (Function.update_self w a.seqno s.newest).ge
    · exact (Function.update_of_ne hw a.seqno s.newest).ge
  refine ⟨h.increasing, fun b hb hdest => (h.newest b hb hdest).trans (hle _), fun w r hr => ?_,
    h.covers⟩
  obtain ⟨hdest, hseqno, j, b, hj, hsince, hheard, hrest⟩ := h.route w r hr
  exact ⟨hdest, hseqno.trans (hle _), j, b, hj, hsince, Set.mem_insert_of_mem _ hheard, hrest⟩

/-- Storing a route. -/
lemma Inv.take {s : State V P C} (h : Inv dest s) {v : V} {p : P} {i : ℕ} {a : Advert V C}
    (hears : s.Hears dest v p i a) {cost : C} (hcost : a.cost ≤ cost)
    (hreplaces : Replaces (s.route v) ⟨a.source, p, a.seqno, cost, s.adverts.length⟩) :
    Inv dest ((s.hear v p i a.seqno).take v ⟨a.source, p, a.seqno, cost, s.adverts.length⟩) := by
  have hheard := h.hear hears
  obtain ⟨r, hr⟩ : ∃ r : Route V P C, r = ⟨a.source, p, a.seqno, cost, s.adverts.length⟩ :=
    ⟨_, rfl⟩
  have hself : ((s.hear v p i a.seqno).take v r).route v = some r := Function.update_self ..
  have hother : ∀ w ≠ v, ((s.hear v p i a.seqno).take v r).route w = s.route w := fun w hw =>
    Function.update_of_ne hw ..
  rw [← hr]
  refine ⟨h.increasing, hheard.newest, fun w o ho => ?_, fun j b hj hdest => ?_⟩
  · by_cases hw : w = v
    · subst hw
      obtain rfl := Option.some.inj (hself.symm.trans ho)
      refine ⟨hears.dest, ?_, i, a, hears.advert, ?_, ?_, by rw [hr], by rw [hr], ?_⟩
      · rw [hr]
        exact (Function.update_self w a.seqno s.newest).ge
      · rw [hr]
        exact (List.getElem?_eq_some_iff.1 hears.advert).1
      · rw [hr]
        exact Set.mem_insert _ _
      · rw [hr]
        exact hcost
    · rw [hother w hw] at ho
      exact hheard.route w o ho
  · by_cases hw : b.source = v
    · rw [hw, hself]
      refine ⟨r, rfl, ?_⟩
      obtain ⟨o, ho, hcovers⟩ := h.covers j b hj hdest
      have hbetter := h.better_of_replaces hears hreplaces (hw ▸ ho)
      rw [hr]
      rcases hbetter with hlt | ⟨heq, hlt⟩
      · rcases hcovers with hlt' | ⟨heq', -⟩
        · exact .inl (hlt'.trans hlt)
        · exact .inl (heq' ▸ hlt)
      · rcases hcovers with hlt' | ⟨heq', hcovers⟩
        · exact .inl (heq ▸ hlt')
        · refine .inr ⟨heq.symm.trans heq', .inl ?_⟩
          rcases hcovers with hlt' | ⟨hle, -⟩
          · exact hlt.trans hlt'
          · exact hlt.trans_le hle
    · rw [hother _ hw]
      exact h.covers j b hj hdest

/-- **Every step keeps the invariant.** -/
lemma Inv.step {s s' : State V P C} (h : Inv dest s) (hstep : Step dest s s') : Inv dest s' := by
  cases hstep with
  | start v seqno cost hdest hseqno => exact h.advertise hseqno fun hnot => absurd hdest hnot
  | hear v p i a hears => exact h.hear hears
  | take v p i a cost hears hcost hreplaces => exact h.take hears hcost hreplaces
  | pass v p i a cost sent hears hcost hreplaces hsent honce =>
    refine (h.take hears hcost hreplaces).advertise (fun b hb hsource => ?_) fun _ => ⟨?_, ?_⟩
    · have hle := (h.newest b hb (hsource ▸ hears.dest)).trans (hsource ▸ hears.newest)
      exact lt_of_le_of_ne hle (honce b hb hsource)
    · exact (Function.update_self v a.seqno s.newest).ge
    · exact ⟨_, Function.update_self .., .inr ⟨rfl, .inr ⟨hsent, le_refl _⟩⟩⟩

lemma Reachable.inv {s : State V P C} (h : Reachable dest s) : Inv dest s := by
  induction h with
  | refl => exact inv_start
  | tail _ hstep ih => exact ih.step hstep

end Steps

/-! ### Loops, and where the routes lead -/

section Loops

variable {V P C : Type*} [LinearOrder C] {dest : V → Prop}

/-- **The route of the next vertex is better.** -/
lemma Inv.better {s : State V P C} (h : Inv dest s) {v : V} {r r' : Route V P C}
    (hr : r ∈ s.route v) (hr' : r' ∈ s.route r.next) : r'.Better r := by
  obtain ⟨-, -, i, a, hi, hsince, -, hsource, hseqno, hcost⟩ := h.route v r hr
  have hdest : ¬ dest a.source := hsource ▸ (h.route r.next r' hr').1
  obtain ⟨o, ho, hcovers⟩ := h.covers i a hi hdest
  rw [hsource] at ho
  obtain rfl := Option.some.inj (ho.symm.trans hr')
  exact hcovers.better hseqno hcost hsince

/-- The next vertex is a destination or has a route. -/
lemma Inv.next {s : State V P C} (h : Inv dest s) {v : V} {r : Route V P C} (hr : r ∈ s.route v) :
    dest r.next ∨ ∃ r', r' ∈ s.route r.next := by
  obtain ⟨-, -, i, a, hi, -, -, hsource, -⟩ := h.route v r hr
  by_cases hdest : dest r.next
  · exact .inl hdest
  · obtain ⟨r', hr', -⟩ := h.covers i a hi (hsource ▸ hdest)
    exact .inr ⟨r', hsource ▸ hr'⟩

/-- Along routes, the route gets better. -/
lemma Inv.better_of_transGen {s : State V P C} (h : Inv dest s) {v w : V}
    (hvw : Relation.TransGen (Uses s) v w) {r r' : Route V P C} (hr : r ∈ s.route v)
    (hr' : r' ∈ s.route w) : r'.Better r := by
  induction hvw generalizing r' with
  | single huses =>
    obtain ⟨o, ho, rfl⟩ := huses
    obtain rfl := Option.some.inj (ho.symm.trans hr)
    exact h.better hr hr'
  | tail _ huses ih =>
    obtain ⟨o, ho, rfl⟩ := huses
    exact (h.better ho hr').trans (ih ho)

/-- **There is no loop.** -/
theorem not_transGen_uses {s : State V P C} (h : Inv dest s) (v : V) :
    ¬ Relation.TransGen (Uses s) v v := by
  intro hloop
  obtain ⟨w, ⟨r, hr, -⟩, -⟩ := Relation.TransGen.head'_iff.1 hloop
  exact r.not_better_self (h.better_of_transGen hloop hr hr)

/-- **Every route leads to a destination.**

**Proof sketch.** Strong induction on the number of advertisements whose vertices have a better
route.  That of the next vertex is one of them, and it is not better than itself. -/
theorem exists_dest {s : State V P C} (h : Inv dest s) {v : V} {r : Route V P C}
    (hr : r ∈ s.route v) : ∃ w, dest w ∧ Relation.TransGen (Uses s) v w := by
  classical
  obtain ⟨n, hn⟩ : ∃ n, ((Finset.range s.adverts.length).filter fun i =>
    ∃ a, s.adverts[i]? = some a ∧ ∃ r' ∈ s.route a.source, r'.Better r).card = n := ⟨_, rfl⟩
  induction n using Nat.strong_induction_on generalizing v r with
  | _ n ih =>
    have huses : Uses s v r.next := ⟨r, hr, rfl⟩
    rcases h.next hr with hdest | ⟨r', hr'⟩
    · exact ⟨r.next, hdest, .single huses⟩
    · obtain ⟨-, -, i, a, hi, -, -, hsource, -⟩ := h.route v r hr
      have hbetter := h.better hr hr'
      refine (ih _ ?_ hr' rfl).imp fun w hw => ⟨hw.1, .head huses hw.2⟩
      rw [← hn]
      refine Finset.card_lt_card ⟨fun j hj => ?_, fun hsub => ?_⟩
      · rw [Finset.mem_filter] at hj ⊢
        obtain ⟨hlt, b, hb, o, ho, hob⟩ := hj
        exact ⟨hlt, b, hb, o, ho, hob.trans hbetter⟩
      · have hmem : i ∈ (Finset.range s.adverts.length).filter fun i =>
            ∃ a, s.adverts[i]? = some a ∧ ∃ r' ∈ s.route a.source, r'.Better r :=
          Finset.mem_filter.2 ⟨Finset.mem_range.2 (List.getElem?_eq_some_iff.1 hi).1, a, hi, r',
            hsource ▸ hr', hbetter⟩
        obtain ⟨-, b, hb, o, ho, hob⟩ := Finset.mem_filter.1 (hsub hmem)
        obtain rfl := Option.some.inj (hb.symm.trans hi)
        rw [hsource] at ho
        obtain rfl := Option.some.inj (ho.symm.trans hr')
        exact o.not_better_self hob

end Loops

end Advertised
