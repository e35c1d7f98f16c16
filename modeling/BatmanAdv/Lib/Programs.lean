import BatmanAdv.Lib.Threads
import Mathlib.Algebra.BigOperators.Group.List.Basic
import Mathlib.Algebra.Order.BigOperators.Group.List
import Mathlib.Algebra.Order.Ring.Nat
import Mathlib.Data.List.Perm.Basic

set_option relaxedAutoImplicit false
set_option autoImplicit false

/-!
# Threads that are programs

A thread is the list of the operations that it still has to execute.  An operation changes the
shared memory; it is replaced by others, it may start threads, and it may have to wait.

What the threads hold together is a sum over all operations of all threads: every operation has a
key, which is the object it is about, and a weight.  In a covered program an operation that needs
its object is never behind the last operation that has a weight for it.

## Main definitions

* `Programs.step` — a step of a thread that is a list of operations.
* `Programs.tally` — the weight that operations have for a key.
* `Programs.Covered` — an operation that needs its object has a weight for it, or one behind it has.

## Main results

* `Programs.tally_pos_iff` — what it means that operations have a weight for a key.
* `Programs.Covered.tally_pos` — a covered program with an operation that needs an object has a
  weight for it.
* `Programs.forall_mem_states` — an invariant of the operations of all threads.
-/

namespace Programs

variable {σ α κ ι β : Type*}

/-! ### Steps -/

/-- What an operation leaves: the memory, the operations that replace it, and the threads that it
starts. -/
structure Outcome (σ α : Type*) where
  shared : σ
  now : List α
  spawned : List (List α)

/-- A step of a thread: the first operation is executed, where `exec` is `none` if it has to
wait. -/
def step (exec : ι → σ → α → Option (Outcome σ α)) (input : ι) (s : σ) :
    List α → σ × List (List α)
  | [] => (s, [])
  | a :: as =>
    match exec input s a with
    | none => (s, [a :: as])
    | some o => (o.shared, (o.now ++ as) :: o.spawned)

/-! ### What operations hold -/

section Tally

variable (key : α → Option κ) (w : α → ℕ) [DecidableEq κ]

/-- The weight that operations have for a key. -/
def tally (k : κ) (l : List α) : ℕ := (l.map fun a => if key a = some k then w a else 0).sum

/-- Every operation that needs its object has a weight for it, or one behind it has. -/
def Covered (needs : α → Bool) : List α → Prop
  | [] => True
  | a :: as =>
    (needs a = true → ∀ k, key a = some k → 0 < tally key w k (a :: as)) ∧ Covered needs as

variable {key w} {k : κ}

@[simp] lemma tally_nil : tally key w k [] = 0 := rfl

@[simp] lemma tally_cons (a : α) (l : List α) :
    tally key w k (a :: l) = (if key a = some k then w a else 0) + tally key w k l :=
  List.sum_cons

@[simp] lemma tally_append (l l' : List α) :
    tally key w k (l ++ l') = tally key w k l + tally key w k l' := by
  simp [tally]

/-- The order of the operations does not matter. -/
lemma tally_perm {l l' : List α} (h : l.Perm l') : tally key w k l = tally key w k l' :=
  (h.map _).sum_eq

/-- Operations about other objects have no weight. -/
lemma tally_of_forall_ne {l : List α} (h : ∀ a ∈ l, key a ≠ some k) : tally key w k l = 0 := by
  induction l with
  | nil => rfl
  | cons a l ih =>
    rw [tally_cons, if_neg (h a List.mem_cons_self), ih fun b hb => h b (List.mem_cons_of_mem _ hb)]

/-- The weight of operations that are all about one object. -/
lemma tally_of_forall_eq {l : List α} (h : ∀ a ∈ l, key a = some k) :
    tally key w k l = (l.map w).sum := by
  induction l with
  | nil => rfl
  | cons a l ih =>
    rw [tally_cons, if_pos (h a List.mem_cons_self), ih fun b hb => h b (List.mem_cons_of_mem _ hb),
      List.map_cons, List.sum_cons]

/-- **Operations have a weight for a key** if one of them has. -/
lemma tally_pos_iff {l : List α} :
    0 < tally key w k l ↔ ∃ a ∈ l, key a = some k ∧ 0 < w a := by
  induction l with
  | nil => simp
  | cons a l ih =>
    rw [tally_cons, Nat.add_pos_iff_pos_or_pos, ih, List.exists_mem_cons_iff]
    refine or_congr_left ?_
    by_cases hkey : key a = some k
    · simp [hkey]
    · simp [hkey]

/-- A weight that is smaller for every operation is smaller for all of them. -/
lemma tally_mono {w' : α → ℕ} (h : ∀ a, w a ≤ w' a) (l : List α) :
    tally key w k l ≤ tally key w' k l := by
  induction l with
  | nil => exact le_rfl
  | cons a l ih =>
    rw [tally_cons, tally_cons]
    refine Nat.add_le_add ?_ ih
    split_ifs
    · exact h a
    · exact le_rfl

variable {needs : α → Bool}

/-- A covered program that is followed by another one. -/
lemma Covered.append {l l' : List α} (h : Covered key w needs l) (h' : Covered key w needs l') :
    Covered key w needs (l ++ l') := by
  induction l with
  | nil => exact h'
  | cons a l ih =>
    refine ⟨fun hneeds k hkey => ?_, ih h.2⟩
    have hpos := h.1 hneeds k hkey
    rw [tally_cons] at hpos
    rw [List.append_eq, ← List.cons_append, tally_append, tally_cons]
    omega

/-- **A covered program has a weight** for the objects that its operations need.

**Proof sketch.** Induction on the program: the weight is at the operation or behind it. -/
theorem Covered.tally_pos {l : List α} (h : Covered key w needs l) {a : α} (ha : a ∈ l)
    (hneeds : needs a = true) (hkey : key a = some k) : 0 < tally key w k l := by
  induction l with
  | nil => exact absurd ha List.not_mem_nil
  | cons b l ih =>
    rcases List.mem_cons.1 ha with rfl | ha
    · exact h.1 hneeds k hkey
    · rw [tally_cons]
      exact Nat.add_pos_right _ (ih h.2 ha)

end Tally

/-! ### Runs -/

variable {entry : β → List α} {exec : ι → σ → α → Option (Outcome σ α)} {s : σ}

/-- **An invariant of the operations of all threads** holds in all states of a run that begins
without threads, and so does a property of every program, if they do not depend on the order of the
operations of different threads, and starting a thread and executing an operation keep them. -/
theorem forall_mem_states (Inv : σ → List α → Prop) (Ok : List α → Prop)
    (hperm : ∀ shared l l', l.Perm l' → Inv shared l → Inv shared l')
    (htail : ∀ a l, Ok (a :: l) → Ok l)
    (happend : ∀ l l', Ok l → Ok l' → Ok (l ++ l'))
    (hentry : ∀ shared l b, Inv shared l → Inv shared (entry b ++ l))
    (hentryOk : ∀ b, Ok (entry b))
    (hexec : ∀ input shared a l o, Inv shared (a :: l) → exec input shared a = some o →
      Inv o.shared (o.now ++ (o.spawned.flatten ++ l)))
    (hexecOk : ∀ input shared a o, exec input shared a = some o →
      Ok o.now ∧ ∀ p ∈ o.spawned, Ok p)
    (h0 : Inv s []) (es : List (Threads.Event β ι)) :
    ∀ t ∈ Run.states (Threads.next entry (step exec)) ⟨s, []⟩ es,
      Inv t.shared t.threads.flatten ∧ ∀ p ∈ t.threads, Ok p := by
  refine Threads.forall_mem_states
    (fun shared (threads : List (List α)) => Inv shared threads.flatten ∧ ∀ p ∈ threads, Ok p)
    (fun shared l l' hl h => ⟨hperm _ _ _ hl.flatten h.1, fun p hp => h.2 p (hl.mem_iff.2 hp)⟩)
    (fun shared l b h => ⟨hentry shared l.flatten b h.1,
      List.forall_mem_cons.2 ⟨hentryOk b, h.2⟩⟩)
    (P := fun _ _ _ _ => True) (fun input shared p l h _ => ?_)
    ⟨h0, fun p hp => absurd hp List.not_mem_nil⟩
    (Threads.AllRuns.of_forall (fun _ _ _ _ => trivial) es)
  obtain ⟨hinv, hok⟩ := h
  obtain ⟨hp, hl⟩ := List.forall_mem_cons.1 hok
  cases p with
  | nil => exact ⟨hinv, hl⟩
  | cons a as =>
    rw [step]
    cases hdo : exec input shared a with
    | none => exact ⟨hinv, hok⟩
    | some o =>
      obtain ⟨hnow, hspawned⟩ := hexecOk input shared a o hdo
      refine ⟨?_, fun p hp' => ?_⟩
      · refine hperm _ _ _ ?_ (hexec input shared a (as ++ l.flatten) o hinv hdo)
        -- the operations that were left of the thread come before the new threads
        change (o.now ++ (o.spawned.flatten ++ (as ++ l.flatten))).Perm
          (((o.now ++ as) :: o.spawned) ++ l).flatten
        rw [List.flatten_append, List.flatten_cons, List.append_assoc, List.append_assoc]
        refine List.Perm.append_left _ ?_
        rw [← List.append_assoc, ← List.append_assoc]
        exact List.Perm.append_right _ List.perm_append_comm
      · rcases List.mem_append.1 hp' with hp' | hp'
        · rcases List.mem_cons.1 hp' with rfl | hp'
          · exact happend _ _ hnow (htail a as hp)
          · exact hspawned p hp'
        · exact hl p hp'

end Programs
