import Mathlib.Logic.Basic

set_option relaxedAutoImplicit false
set_option autoImplicit false

/-!
# Programs that leave a trace

A program works on a memory and leaves a trace of events, for instance of the bytes that it reads.
It may run out of fuel.  It is safe if it ends and every event of its trace is allowed; what is
allowed for programs one after the other is allowed for each of them.

## Main definitions

* `TracedProg` — programs with a memory and a trace.
* `TracedProg.Safe` — safe from a given memory on.
* `TracedProg.AlwaysSafe` — safe whatever the memory holds.

## Main results

* `TracedProg.safe_bind_iff`, `TracedProg.AlwaysSafe.bind` — programs one after the other.
* `TracedProg.safe_trace_bind_iff` — one step, and the rest.
-/

/-- How a program ended: its value, the memory it leaves, and its trace. -/
structure TracedOutcome (μ ε α : Type) where
  value : α
  memory : μ
  events : List ε

/-- A program on a memory `μ` with events `ε`; `none` if it ran out of fuel. -/
def TracedProg (μ ε α : Type) : Type := μ → Option (TracedOutcome μ ε α)

namespace TracedProg

variable {μ ε α β : Type}

instance : Monad (TracedProg μ ε) where
  pure a := fun m => some ⟨a, m, []⟩
  bind x f := fun m =>
    (x m).bind fun r =>
      (f r.value r.memory).map fun s => ⟨s.value, s.memory, r.events ++ s.events⟩

/-- One step: its events, its value, and what it does to the memory. -/
def trace (events : List ε) (value : μ → α) (update : μ → μ) : TracedProg μ ε α :=
  fun m => some ⟨value m, update m, events⟩

/-- Out of fuel. -/
def stuck : TracedProg μ ε α := fun _ => none

/-- **Safe from a memory on**: the program ends, and its events are allowed. -/
def Safe (ok : ε → Prop) (x : TracedProg μ ε α) (m : μ) : Prop :=
  ∃ r, x m = some r ∧ ∀ e ∈ r.events, ok e

/-- **Always safe.** -/
def AlwaysSafe (ok : ε → Prop) (x : TracedProg μ ε α) : Prop := ∀ m, x.Safe ok m

variable {ok : ε → Prop} {x : TracedProg μ ε α} {f : α → TracedProg μ ε β} {m : μ}

lemma bind_apply (x : TracedProg μ ε α) (f : α → TracedProg μ ε β) (m : μ) :
    (x >>= f) m = (x m).bind fun r =>
      (f r.value r.memory).map fun s => ⟨s.value, s.memory, r.events ++ s.events⟩ := rfl

/-- The trace of programs one after the other does not depend on how they are grouped. -/
instance : LawfulMonad (TracedProg μ ε) :=
  LawfulMonad.mk' _
    (by
      intro α x
      funext m
      change (x m).bind _ = x m
      cases x m with
      | none => rfl
      | some r =>
        exact congrArg (fun l => some (TracedOutcome.mk r.value r.memory l)) (List.append_nil _))
    (by
      intro α β a f
      funext m
      change ((f a m).map fun s => _) = f a m
      cases f a m <;> rfl)
    (by
      intro α β γ x f g
      funext m
      rw [bind_apply, bind_apply, bind_apply]
      cases x m with
      | none => rfl
      | some r =>
        rw [Option.bind_some, Option.bind_some, bind_apply]
        cases f r.value r.memory with
        | none => rfl
        | some s =>
          rw [Option.map_some, Option.bind_some, Option.bind_some]
          cases g s.value s.memory with
          | none => rfl
          | some t =>
            exact congrArg (fun l => some (TracedOutcome.mk t.value t.memory l))
              (List.append_assoc _ _ _))

/-- **Programs one after the other.** -/
theorem safe_bind_iff :
    (x >>= f).Safe ok m ↔
      ∃ r, x m = some r ∧ (∀ e ∈ r.events, ok e) ∧ (f r.value).Safe ok r.memory := by
  unfold Safe
  rw [bind_apply]
  constructor
  · rintro ⟨t, hrun, hok⟩
    obtain ⟨r, hr, hrest⟩ := Option.bind_eq_some_iff.mp hrun
    obtain ⟨s, hs, rfl⟩ := Option.map_eq_some_iff.mp hrest
    have hsplit := List.forall_mem_append.mp hok
    exact ⟨r, hr, hsplit.1, s, hs, hsplit.2⟩
  · rintro ⟨r, hr, hokr, s, hs, hoks⟩
    rw [hr, Option.bind_some, hs, Option.map_some]
    exact ⟨_, rfl, List.forall_mem_append.mpr ⟨hokr, hoks⟩⟩

lemma safe_pure (a : α) : (pure a : TracedProg μ ε α).Safe ok m :=
  ⟨_, rfl, fun _ he => absurd he List.not_mem_nil⟩

lemma safe_trace_iff {events : List ε} {value : μ → α} {update : μ → μ} :
    (trace events value update).Safe ok m ↔ ∀ e ∈ events, ok e := by
  constructor
  · rintro ⟨r, hr, hok⟩
    obtain rfl := Option.some.inj hr
    exact hok
  · exact fun hok => ⟨_, rfl, hok⟩

/-- **One step, and the rest.** -/
theorem safe_trace_bind_iff {events : List ε} {value : μ → α} {update : μ → μ} :
    (trace events value update >>= f).Safe ok m ↔
      (∀ e ∈ events, ok e) ∧ (f (value m)).Safe ok (update m) := by
  rw [safe_bind_iff]
  constructor
  · rintro ⟨r, hr, hok, hrest⟩
    obtain rfl := Option.some.inj hr
    exact ⟨hok, hrest⟩
  · exact fun h => ⟨_, rfl, h.1, h.2⟩

namespace AlwaysSafe

lemma pure (a : α) : (Pure.pure a : TracedProg μ ε α).AlwaysSafe ok := fun _ => safe_pure a

lemma trace {events : List ε} {value : μ → α} {update : μ → μ} (h : ∀ e ∈ events, ok e) :
    (TracedProg.trace events value update).AlwaysSafe ok := fun _ => safe_trace_iff.mpr h

/-- **Programs one after the other** are safe if each of them is. -/
theorem bind (hx : x.AlwaysSafe ok) (hf : ∀ a, (f a).AlwaysSafe ok) :
    (x >>= f).AlwaysSafe ok := by
  intro m
  obtain ⟨r, hr, hok⟩ := hx m
  exact safe_bind_iff.mpr ⟨r, hr, hok, hf r.value r.memory⟩

/-- Both branches are safe. -/
lemma ite {c : Prop} [Decidable c] {y z : TracedProg μ ε α} (hy : c → y.AlwaysSafe ok)
    (hz : ¬ c → z.AlwaysSafe ok) : (if c then y else z).AlwaysSafe ok := by
  by_cases hc : c
  · rw [if_pos hc]
    exact hy hc
  · rw [if_neg hc]
    exact hz hc

end AlwaysSafe

end TracedProg
