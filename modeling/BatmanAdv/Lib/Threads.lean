import BatmanAdv.Lib.Run
import Mathlib.Data.List.Perm.Basic
import Mathlib.Data.List.Perm.Lattice

set_option relaxedAutoImplicit false
set_option autoImplicit false

/-!
# Threads that share memory

Any number of threads run on a memory that they share, and their steps are interleaved in any order.
A step of a thread changes the memory, and says what the thread does next: it goes on, it is
finished, or it starts others.  The thread that takes a step is one of those that there are, and the
order in which these stand in the list does not matter; so an invariant is looked at for a thread
and the rest of them.

## Main definitions

* `Threads.State`, `Threads.Event`, `Threads.next` — the memory and the threads, and what happens to
  them.
* `Threads.AllRuns` — a predicate holds for every step that a thread takes in a run.
* `Threads.alone` — threads run undisturbed.

## Main results

* `Threads.forall_mem_states` — an invariant that the steps keep holds in all states of a run.
-/

namespace Threads

variable {σ π α ι : Type*}

/-- The memory and the threads that run. -/
structure State (σ π : Type*) where
  shared : σ
  threads : List π

/-- A thread is started, or the thread at a place of the list takes a step, with what it reads from
elsewhere. -/
inductive Event (α ι : Type*)
  | start (a : α)
  | run (i : ℕ) (input : ι)

/-- The state after an event, where `entry` is where a thread begins, and `step` gives the memory
after a step and what the thread has become. -/
def next (entry : α → π) (step : ι → σ → π → σ × List π) (s : State σ π) : Event α ι → State σ π
  | .start a => { s with threads := entry a :: s.threads }
  | .run i input =>
    match s.threads[i]? with
    | none => s
    | some p =>
      let (shared, ps) := step input s.shared p
      ⟨shared, ps ++ s.threads.eraseIdx i⟩

/-- A predicate on the memory, a thread, the other threads and what the thread reads holds for every
step that a thread takes in a run. -/
def AllRuns (entry : α → π) (step : ι → σ → π → σ × List π)
    (P : ι → σ → π → List π → Prop) (s : State σ π) (es : List (Event α ι)) : Prop :=
  Run.AllSteps (next entry step) (fun s e =>
    match e with
    | .start _ => True
    | .run i input => ∀ p, s.threads[i]? = some p → P input s.shared p (s.threads.eraseIdx i)) s es

instance AllRuns.decidable (entry : α → π) (step : ι → σ → π → σ × List π)
    (P : ι → σ → π → List π → Prop) [∀ input shared p l, Decidable (P input shared p l)]
    (s : State σ π) (es : List (Event α ι)) : Decidable (AllRuns entry step P s es) :=
  have (s : State σ π) (e : Event α ι) : Decidable (match e with
      | .start _ => True
      | .run i input => ∀ p, s.threads[i]? = some p → P input s.shared p (s.threads.eraseIdx i)) :=
    match e with
    | .start _ => .isTrue trivial
    | .run i input =>
      match h : s.threads[i]? with
      | none => .isTrue fun p hp => by cases h.symm.trans hp
      | some p => decidable_of_iff (P input s.shared p (s.threads.eraseIdx i))
        ⟨fun hp q hq => Option.some.inj (h.symm.trans hq) ▸ hp, fun hall => hall p h⟩
  Run.AllSteps.decidable _ _ s es

/-- The first of the threads takes steps, while there are any. -/
def alone (step : ι → σ → π → σ × List π) (input : ι) : ℕ → State σ π → State σ π
  | 0, s => s
  | n + 1, s =>
    match s.threads with
    | [] => s
    | p :: ps => alone step input n ⟨(step input s.shared p).1, (step input s.shared p).2 ++ ps⟩

variable {entry : α → π} {step : ι → σ → π → σ × List π} {P : ι → σ → π → List π → Prop}
  {s : State σ π}

/-- The thread at a place of the list, and the others. -/
lemma perm_cons_eraseIdx {l : List π} {i : ℕ} {p : π} (h : l[i]? = some p) :
    l.Perm (p :: l.eraseIdx i) := by
  obtain ⟨hi, rfl⟩ := List.getElem?_eq_some_iff.1 h
  exact (List.getElem_cons_eraseIdx_perm hi).symm

/-- **An invariant holds in all states of a run** if it does not depend on the order of the threads,
a new thread does not break it, and the step of a thread keeps it.

**Proof sketch.** The thread that takes the step is the first one of another list with the same
threads. -/
theorem forall_mem_states (Inv : σ → List π → Prop)
    (hperm : ∀ shared l l', l.Perm l' → Inv shared l → Inv shared l')
    (hstart : ∀ shared l a, Inv shared l → Inv shared (entry a :: l))
    (hrun : ∀ input shared p l, Inv shared (p :: l) → P input shared p l →
      Inv (step input shared p).1 ((step input shared p).2 ++ l))
    (h0 : Inv s.shared s.threads) {es : List (Event α ι)} (hruns : AllRuns entry step P s es) :
    ∀ t ∈ Run.states (next entry step) s es, Inv t.shared t.threads := by
  refine hruns.forall_mem_states (fun t => Inv t.shared t.threads) (fun t e hinv hstep => ?_) h0
  cases e with
  | start a => exact hstart _ _ a hinv
  | run i input =>
    rw [next]
    cases hi : t.threads[i]? with
    | none => exact hinv
    | some p => exact hrun input _ p _ (hperm _ _ _ (perm_cons_eraseIdx hi) hinv) (hstep p hi)

/-- A predicate that always holds holds for all steps of a run. -/
lemma AllRuns.of_forall (h : ∀ input shared p l, P input shared p l) (es : List (Event α ι)) :
    AllRuns entry step P s es := by
  refine Run.AllSteps.of_forall (fun t e => ?_) es
  cases e with
  | start a => trivial
  | run i input => exact fun p _ => h ..

end Threads
