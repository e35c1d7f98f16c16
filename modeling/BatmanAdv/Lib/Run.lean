import Mathlib.Data.List.Basic

set_option relaxedAutoImplicit false
set_option autoImplicit false

/-!
# Runs of a machine that is driven by events

A machine is a function that maps a state and an event to the next state, and possibly to an
answer.  A run is what a list of events makes of a start state.  Properties of runs are proved
from properties of single steps: an invariant that every step under a guard keeps holds after
every run whose steps all meet the guard, and steps that commute with a map of the states make runs
that do.

## Main definitions

* `Run.final`, `Run.trace` — the state after a run, and what its steps return.
* `Run.states` — the states it visits.
* `Run.AllSteps` — every step of a run satisfies a predicate on the state before it and the event.

## Main results

* `Run.AllSteps.invariant`, `Run.AllSteps.forall_mem_states` — an invariant kept by guarded steps
  holds after a guarded run, and in all its states.
* `Run.AllSteps.imp`, `Run.allSteps_iff` — comparing two step predicates along an invariant.
* `Run.AllSteps.repeat`, `Run.final_flatMap_range` — a list of events that is repeated, and turns
  that differ.
* `Run.forall_mem_states_iff`, `Run.forall_mem_states_and_allSteps_iff` — a property of every state,
  and of every step, from a condition on every step.
* `Run.trace_map_iff` — two runs in lockstep.
-/

namespace Run

variable {σ ε ω : Type*}

/-- The state reached from `s` by the events `es`. -/
def final (next : σ → ε → σ) (s : σ) (es : List ε) : σ := es.foldl next s

/-- What the steps from `s` along the events `es` return: the next state, and an answer. -/
def trace (step : σ → ε → σ × ω) : σ → List ε → List (σ × ω)
  | _, [] => []
  | s, e :: es => step s e :: trace step (step s e).1 es

/-- The states on the way from `s` along the events `es`, the start state first. -/
def states (next : σ → ε → σ) : σ → List ε → List σ
  | s, [] => [s]
  | s, e :: es => s :: states next (next s e) es

/-- Every step of the run from `s` along `es` satisfies `P`, which speaks about the state before
the step and the event. -/
def AllSteps (next : σ → ε → σ) (P : σ → ε → Prop) : σ → List ε → Prop
  | _, [] => True
  | s, e :: es => P s e ∧ AllSteps next P (next s e) es

instance AllSteps.decidable (next : σ → ε → σ) (P : σ → ε → Prop)
    [∀ s e, Decidable (P s e)] : ∀ s es, Decidable (AllSteps next P s es)
  | _, [] => .isTrue trivial
  | s, e :: es =>
    have := AllSteps.decidable next P (next s e) es
    inferInstanceAs (Decidable (P s e ∧ AllSteps next P (next s e) es))

variable {next : σ → ε → σ} {P Q : σ → ε → Prop} {s : σ}

@[simp] lemma final_nil : final next s [] = s := rfl

@[simp] lemma final_cons (e : ε) (es : List ε) :
    final next s (e :: es) = final next (next s e) es := rfl

@[simp] lemma final_append (es fs : List ε) :
    final next s (es ++ fs) = final next (final next s es) fs := List.foldl_append

/-- The last state is one of those visited. -/
lemma final_mem_states (s : σ) (es : List ε) : final next s es ∈ states next s es := by
  induction es generalizing s with
  | nil => simp [states]
  | cons e es ih => exact List.mem_cons_of_mem _ (ih (next s e))

@[simp] lemma allSteps_nil : AllSteps next P s [] ↔ True := Iff.rfl

@[simp] lemma allSteps_cons (e : ε) (es : List ε) :
    AllSteps next P s (e :: es) ↔ P s e ∧ AllSteps next P (next s e) es := Iff.rfl

/-- A predicate holds along a concatenation when it holds along both parts. -/
lemma allSteps_append (es fs : List ε) :
    AllSteps next P s (es ++ fs) ↔
      AllSteps next P s es ∧ AllSteps next P (final next s es) fs := by
  induction es generalizing s with
  | nil => simp
  | cons e es ih => simp [ih, and_assoc]

/-- A predicate that always holds holds along every run. -/
lemma AllSteps.of_forall (h : ∀ s e, P s e) (es : List ε) : AllSteps next P s es := by
  induction es generalizing s with
  | nil => trivial
  | cons e es ih => exact ⟨h s e, ih⟩

/-- Two predicates that hold along a run hold along it together. -/
lemma AllSteps.and {es : List ε} (hP : AllSteps next P s es) (hQ : AllSteps next Q s es) :
    AllSteps next (fun s e => P s e ∧ Q s e) s es := by
  induction es generalizing s with
  | nil => trivial
  | cons e es ih => exact ⟨⟨hP.1, hQ.1⟩, ih hP.2 hQ.2⟩

/-- **An invariant kept by guarded steps holds after a guarded run.**

**Proof sketch.** Induction on the events, with the start state general. -/
theorem AllSteps.invariant (Inv : σ → Prop)
    (hstep : ∀ s e, Inv s → P s e → Inv (next s e)) (h0 : Inv s) :
    ∀ {es : List ε}, AllSteps next P s es → Inv (final next s es) := by
  intro es
  induction es generalizing s with
  | nil => intro _; exact h0
  | cons e es ih => rintro ⟨he, hes⟩; exact ih (hstep s e h0 he) hes

/-- **An invariant kept by guarded steps holds in every state of a guarded run.** -/
theorem AllSteps.forall_mem_states (Inv : σ → Prop)
    (hstep : ∀ s e, Inv s → P s e → Inv (next s e)) (h0 : Inv s) :
    ∀ {es : List ε}, AllSteps next P s es → ∀ t ∈ states next s es, Inv t := by
  intro es
  induction es generalizing s with
  | nil =>
    intro _ t ht
    rw [List.mem_singleton.1 ht]
    exact h0
  | cons e es ih =>
    rintro ⟨he, hes⟩ t ht
    rcases List.mem_cons.1 ht with rfl | ht
    · exact h0
    · exact ih (hstep s e h0 he) hes t ht

/-- A step predicate follows from another one along an invariant that the latter keeps. -/
theorem AllSteps.imp (Inv : σ → Prop)
    (hstep : ∀ s e, Inv s → P s e → Q s e ∧ Inv (next s e)) (h0 : Inv s) :
    ∀ {es : List ε}, AllSteps next P s es → AllSteps next Q s es := by
  intro es
  induction es generalizing s with
  | nil => intro _; trivial
  | cons e es ih =>
    rintro ⟨he, hes⟩
    exact ⟨(hstep s e h0 he).1, ih (hstep s e h0 he).2 hes⟩

/-- Two step predicates that agree along an invariant hold along the same runs. -/
theorem allSteps_iff (Inv : σ → Prop) (hkeep : ∀ s e, Inv s → Inv (next s e))
    (hiff : ∀ s e, Inv s → (P s e ↔ Q s e)) (h0 : Inv s) (es : List ε) :
    AllSteps next P s es ↔ AllSteps next Q s es :=
  ⟨AllSteps.imp Inv (fun s e hi hp => ⟨(hiff s e hi).1 hp, hkeep s e hi⟩) h0,
    AllSteps.imp Inv (fun s e hi hq => ⟨(hiff s e hi).2 hq, hkeep s e hi⟩) h0⟩

/-- A predicate on the events holds along every run of events that satisfy it. -/
lemma AllSteps.of_forall_mem {R : ε → Prop} {es : List ε} (h : ∀ e ∈ es, R e) :
    AllSteps next (fun _ e => R e) s es := by
  induction es generalizing s with
  | nil => trivial
  | cons e es ih =>
    rw [List.forall_mem_cons] at h
    exact ⟨h.1, ih h.2⟩

/-- **Repeating a list of events**: a predicate that holds along one turn, and a property of the
state and the number of turns that a turn keeps, hold along all turns and after them.

**Proof sketch.** Induction on the number of turns that are left, with the start state and the
number of those made general. -/
theorem AllSteps.repeat {es : List ε} {n : ℕ} (I : ℕ → σ → Prop)
    (hturn : ∀ i < n, ∀ s, I i s → AllSteps next P s es ∧ I (i + 1) (final next s es))
    (h0 : I 0 s) :
    AllSteps next P s (List.replicate n es).flatten ∧
      I n (final next s (List.replicate n es).flatten) := by
  suffices hgen : ∀ (left made : ℕ) (s : σ), made + left = n → I made s →
      AllSteps next P s (List.replicate left es).flatten ∧
        I n (final next s (List.replicate left es).flatten) from hgen n 0 s (Nat.zero_add n) h0
  intro left
  induction left with
  | zero =>
    rintro made s rfl hI
    exact ⟨trivial, hI⟩
  | succ left ih =>
    intro made s hn hI
    obtain ⟨hes, hnext⟩ := hturn made (by omega) s hI
    obtain ⟨hrest, hlast⟩ := ih (made + 1) _ (by omega) hnext
    rw [List.replicate_succ, List.flatten_cons, allSteps_append, final_append]
    exact ⟨⟨hes, hrest⟩, hlast⟩

/-- **Turns that differ**: a property of the state and the number of turns that each turn keeps
holds after all of them. -/
theorem final_flatMap_range {f : ℕ → List ε} {n : ℕ} (I : ℕ → σ → Prop)
    (hturn : ∀ i < n, ∀ s, I i s → I (i + 1) (final next s (f i))) (h0 : I 0 s) :
    I n (final next s ((List.range n).flatMap f)) := by
  induction n with
  | zero => exact h0
  | succ n ih =>
    rw [List.range_succ, List.flatMap_append, final_append, List.flatMap_singleton]
    exact hturn n (Nat.lt_succ_self n) _ (ih fun i hi => hturn i (Nat.lt_succ_of_lt hi))

/-- **A property holds in every state of a run and another one of every step exactly when every
step meets a condition**, where along an invariant the condition is what makes the step have its
property and the next state have its own.

**Proof sketch.** Induction on the events, with the start state general: the condition on the
first step is equivalent to its property and that of the second state, and keeps the invariant. -/
theorem forall_mem_states_and_allSteps_iff (Inv I : σ → Prop) (Guard : σ → ε → Prop)
    (hiff : ∀ s e, Inv s → I s → Guard s e → ((I (next s e) ∧ Q s e) ↔ P s e))
    (hkeep : ∀ s e, Inv s → Guard s e → P s e → Inv (next s e)) (h0 : Inv s) (hI : I s) :
    ∀ {es : List ε}, AllSteps next Guard s es →
      (((∀ t ∈ states next s es, I t) ∧ AllSteps next Q s es) ↔ AllSteps next P s es) := by
  intro es
  induction es generalizing s with
  | nil => intro _; simpa [states] using hI
  | cons e es ih =>
    rintro ⟨hg, hgs⟩
    have hhead : (I (next s e) ∧ Q s e) ↔ P s e := hiff s e h0 hI hg
    simp only [states, List.forall_mem_cons, allSteps_cons, hI, true_and]
    constructor
    · rintro ⟨h, hq, hqs⟩
      have hsecond : I (next s e) := h _ (by cases es <;> simp [states])
      have hp : P s e := hhead.1 ⟨hsecond, hq⟩
      exact ⟨hp, (ih (hkeep s e h0 hg hp) hsecond hgs).1 ⟨h, hqs⟩⟩
    · rintro ⟨hp, hps⟩
      obtain ⟨hsecond, hq⟩ := hhead.2 hp
      obtain ⟨hrest, hqs⟩ := (ih (hkeep s e h0 hg hp) hsecond hgs).2 hps
      exact ⟨hrest, hq, hqs⟩

/-- **A property holds in every state of a run exactly when every step meets a condition**, where
along an invariant the condition is what makes the next state have the property. -/
theorem forall_mem_states_iff (Inv I : σ → Prop) (Guard : σ → ε → Prop)
    (hiff : ∀ s e, Inv s → Guard s e → (I (next s e) ↔ P s e))
    (hkeep : ∀ s e, Inv s → Guard s e → P s e → Inv (next s e)) (h0 : Inv s) (hI : I s)
    {es : List ε} (hguard : AllSteps next Guard s es) :
    (∀ t ∈ states next s es, I t) ↔ AllSteps next P s es := by
  have htrue : AllSteps next (fun _ _ => True) s es := .of_forall (fun _ _ => trivial) es
  have hboth := forall_mem_states_and_allSteps_iff (Q := fun _ _ => True) Inv I Guard
    (fun s e hinv _ hg => (and_iff_left trivial).trans (hiff s e hinv hg)) hkeep h0 hI hguard
  exact (and_iff_left htrue).symm.trans hboth

/-- **Two runs in lockstep.**  Where a step commutes with a map of the states, events and answers
exactly if it meets a condition, the runs from a state and from its image correspond exactly if
every step meets the condition.

**Proof sketch.** Induction on the events, with the start state general: once the first results
correspond, the second states do. -/
theorem trace_map_iff {step : σ → ε → σ × ω} (f : σ → σ) (g : ε → ε) (h : ω → ω)
    (hiff : ∀ s e, step (f s) (g e) = Prod.map f h (step s e) ↔ P s e) (s : σ) (es : List ε) :
    trace step (f s) (es.map g) = (trace step s es).map (Prod.map f h) ↔
      AllSteps (fun s e => (step s e).1) P s es := by
  induction es generalizing s with
  | nil => simp [trace]
  | cons e es ih =>
    simp only [trace, List.map_cons, List.cons.injEq, allSteps_cons, hiff]
    refine and_congr_right fun hp => ?_
    have hsecond : (step (f s) (g e)).1 = f (step s e).1 := by rw [(hiff s e).2 hp]; rfl
    rw [hsecond, ih]

end Run
