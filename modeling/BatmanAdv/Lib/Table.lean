import Mathlib.Algebra.BigOperators.Group.List.Basic
import Mathlib.Algebra.Ring.Int.Defs
import Mathlib.Data.List.Basic

set_option relaxedAutoImplicit false
set_option autoImplicit false

/-!
# Tables kept as linked lists

Linked lists that are searched by key: a lookup returns the first entry with the key, a new entry
is linked in at the head, and an entry that exists is changed where it stands.

## Main definitions

* `Table`, `Table.get`, `Table.set` — the list, lookup and update.

## Main results

* `Table.get_set_self`, `Table.get_set_of_ne` — an update is seen at its key and nowhere else.
* `Table.get_filter` — what is left when entries are taken out.
* `Table.total_set` — the sum of what the entries are worth, when one changes.
* `Table.perm_of_get` — a table is the entry of a key and the entries of the other keys.
-/

/-- A linked list of entries that are found by their key. -/
abbrev Table (κ α : Type*) := List (κ × α)

namespace Table

variable {κ α : Type*} [DecidableEq κ]

/-- The first entry with the given key. -/
def get (t : Table κ α) (k : κ) : Option α := t.lookup k

/-- Change the first entry with the given key. -/
def replace (k : κ) (v : α) : Table κ α → Table κ α
  | [] => []
  | e :: t => if e.1 = k then (k, v) :: t else e :: replace k v t

/-- Change the entry with the given key where it stands; link in a new one at the head. -/
def set (t : Table κ α) (k : κ) (v : α) : Table κ α :=
  if (t.get k).isSome then t.replace k v else (k, v) :: t

@[simp] lemma get_nil (k : κ) : get ([] : Table κ α) k = none := rfl

lemma get_cons (e : κ × α) (t : Table κ α) (k : κ) :
    get (e :: t) k = if k = e.1 then some e.2 else get t k := by
  obtain ⟨k', v⟩ := e
  by_cases h : k = k'
  · simp [get, h]
  · have hb : (k == k') = false := by simpa using h
    simp [get, List.lookup_cons, hb, h]

/-- A replaced entry is found, where there was one. -/
lemma get_replace_self {t : Table κ α} {k : κ} (v : α) (h : (t.get k).isSome) :
    (t.replace k v).get k = some v := by
  induction t with
  | nil => simp at h
  | cons e t ih =>
    rw [replace]
    split_ifs with he
    · simp [get_cons]
    · rw [get_cons, if_neg (Ne.symm he)] at h ⊢
      exact ih h

/-- Replacing an entry leaves the other keys alone. -/
lemma get_replace_of_ne {t : Table κ α} {k k' : κ} (v : α) (h : k' ≠ k) :
    (t.replace k v).get k' = t.get k' := by
  induction t with
  | nil => rfl
  | cons e t ih =>
    rw [replace]
    split_ifs with he
    · simp [get_cons, h, he]
    · rw [get_cons, get_cons, ih]

/-- An update is seen at its key. -/
@[simp] theorem get_set_self (t : Table κ α) (k : κ) (v : α) : (t.set k v).get k = some v := by
  rw [set]
  split_ifs with h
  · exact get_replace_self v h
  · simp [get_cons]

/-- An update is not seen at any other key. -/
@[simp] theorem get_set_of_ne (t : Table κ α) {k k' : κ} (v : α) (h : k' ≠ k) :
    (t.set k v).get k' = t.get k' := by
  rw [set]
  split_ifs with hk
  · exact get_replace_of_ne v h
  · simp [get_cons, h]

/-- A table that was updated has an entry. -/
@[simp] lemma set_ne_nil (t : Table κ α) (k : κ) (v : α) : t.set k v ≠ [] := by
  intro h
  have := get_set_self t k v
  rw [h] at this
  cases this

/-! ### Tables without duplicates -/

/-- A key has an entry if it is found. -/
lemma get_eq_none_iff {t : Table κ α} {k : κ} : t.get k = none ↔ k ∉ t.map Prod.fst := by
  induction t with
  | nil => simp
  | cons e t ih =>
    rw [get_cons, List.map_cons, List.mem_cons, not_or]
    split_ifs with hk
    · simp [hk]
    · rw [ih]
      exact ⟨fun h => ⟨hk, h⟩, fun h => h.2⟩

lemma keys_replace (t : Table κ α) (k : κ) (v : α) :
    (t.replace k v).map Prod.fst = t.map Prod.fst := by
  induction t with
  | nil => rfl
  | cons e t ih =>
    rw [replace]
    split_ifs with he
    · rw [List.map_cons, List.map_cons, he]
    · rw [List.map_cons, List.map_cons, ih]

/-- The entries behind a replacement: those before it, and the new one. -/
lemma mem_replace {t : Table κ α} {k : κ} {v : α} {e : κ × α} (h : e ∈ t.replace k v) :
    e ∈ t ∨ e = (k, v) := by
  induction t with
  | nil => exact absurd h List.not_mem_nil
  | cons e' t ih =>
    rw [replace] at h
    split_ifs at h with he
    · rcases List.mem_cons.1 h with h | h
      · exact .inr h
      · exact .inl (List.mem_cons_of_mem _ h)
    · rcases List.mem_cons.1 h with h | h
      · exact .inl (h ▸ List.mem_cons_self)
      · exact (ih h).imp_left (List.mem_cons_of_mem _)

/-- An update creates no duplicates. -/
lemma nodup_set {t : Table κ α} (h : (t.map Prod.fst).Nodup) (k : κ) (v : α) :
    ((t.set k v).map Prod.fst).Nodup := by
  rw [set]
  split_ifs with hk
  · rw [keys_replace]
    exact h
  · rw [List.map_cons, List.nodup_cons]
    rw [Option.not_isSome_iff_eq_none, get_eq_none_iff] at hk
    exact ⟨hk, h⟩

/-- Entries that are taken out. -/
theorem get_filter {t : Table κ α} (h : (t.map Prod.fst).Nodup) (p : κ × α → Bool) (k : κ) :
    Table.get (t.filter p) k = (t.get k).filter fun v => p (k, v) := by
  induction t with
  | nil => rfl
  | cons e t ih =>
    rw [List.map_cons, List.nodup_cons] at h
    rw [get_cons]
    by_cases hp : p e = true
    · rw [List.filter_cons_of_pos hp, get_cons]
      split_ifs with hk
      · rw [hk, Option.filter_some_pos (p := fun v => p (e.1, v)) hp]
      · exact ih h.2
    · rw [List.filter_cons_of_neg hp, ih h.2]
      split_ifs with hk
      · rw [hk, get_eq_none_iff.2 h.1,
          Option.filter_some_neg (p := fun v => p (e.1, v)) (by simpa using hp)]
        rfl
      · rfl

/-- A table is the entry of a key and the entries of the other keys. -/
theorem perm_of_get {t : Table κ α} (h : (t.map Prod.fst).Nodup) {k : κ} {v : α}
    (hk : t.get k = some v) : t.Perm ((k, v) :: t.filter fun e => e.1 ≠ k) := by
  induction t with
  | nil => cases hk
  | cons e t ih =>
    obtain ⟨k', v'⟩ := e
    rw [List.map_cons, List.nodup_cons] at h
    rw [get_cons] at hk
    split_ifs at hk with he
    · obtain rfl : k = k' := he
      obtain rfl : v' = v := Option.some.inj hk
      have hall : (t.filter fun e => e.1 ≠ k) = t := by
        refine List.filter_eq_self.2 fun e he => decide_eq_true fun heq => h.1 ?_
        show k ∈ t.map Prod.fst
        rw [← heq]
        exact List.mem_map_of_mem he
      rw [List.filter_cons_of_neg (by simp), hall]
    · rw [List.filter_cons_of_pos (by simpa using Ne.symm he)]
      exact ((ih h.2 hk).cons _).trans (.swap _ _ _)

/-- An update does not change the entries of the other keys. -/
lemma filter_set (t : Table κ α) (k : κ) (v : α) :
    ((t.set k v).filter fun e => e.1 ≠ k) = t.filter fun e => e.1 ≠ k := by
  have hreplace : ∀ t : Table κ α,
      ((t.replace k v).filter fun e => e.1 ≠ k) = t.filter fun e => e.1 ≠ k := by
    intro t
    induction t with
    | nil => rfl
    | cons e t ih =>
      rw [replace]
      split_ifs with he
      · simp [he]
      · simp only [List.filter_cons, ih]
  rw [set]
  split_ifs
  · exact hreplace t
  · simp

/-- What is found is an entry. -/
lemma mem_of_get {t : Table κ α} {k : κ} {v : α} (h : t.get k = some v) : (k, v) ∈ t := by
  induction t with
  | nil => cases h
  | cons e t ih =>
    rw [get_cons] at h
    split_ifs at h with hk
    · rw [← Option.some.inj h, hk]
      exact List.mem_cons_self
    · exact List.mem_cons_of_mem _ (ih h)

/-- The values of a table are changed where they stand. -/
lemma get_map {β : Type*} (t : Table κ α) (f : α → β) (k : κ) :
    Table.get (t.map fun e => (e.1, f e.2)) k = (t.get k).map f := by
  induction t with
  | nil => rfl
  | cons e t ih =>
    rw [List.map_cons, get_cons, get_cons, ih]
    split_ifs <;> rfl

/-- The values of a table are changed where they stand, each in a way that depends on its key. -/
lemma get_map_key {β : Type*} (t : Table κ α) (f : κ → α → β) (k : κ) :
    Table.get (t.map fun e => (e.1, f e.1 e.2)) k = (t.get k).map (f k) := by
  induction t with
  | nil => rfl
  | cons e t ih =>
    rw [List.map_cons, get_cons, get_cons, ih]
    split_ifs with hk
    · rw [hk, Option.map_some]
    · rfl

/-- An entry that is set to what it is. -/
lemma set_eq_self {t : Table κ α} {k : κ} {v : α} (h : t.get k = some v) : t.set k v = t := by
  rw [set, if_pos (by rw [h]; rfl)]
  induction t with
  | nil => rfl
  | cons e t ih =>
    rw [get_cons] at h
    rw [replace]
    split_ifs with he
    · rw [if_pos he.symm] at h
      rw [← he, ← Option.some.inj h]
    · rw [if_neg (Ne.symm he)] at h
      rw [ih h]

/-! ### Sums -/

/-- The sum of what the entries of a table are worth. -/
def total (f : α → ℤ) (t : Table κ α) : ℤ := (t.map fun e => f e.2).sum

/-- The sum when an entry changes. -/
lemma total_set {t : Table κ α} (h : (t.map Prod.fst).Nodup) {k : κ} {v : α}
    (hk : t.get k = some v) (f : α → ℤ) (v' : α) :
    total f (t.set k v') + f v = total f t + f v' := by
  have hset := perm_of_get (nodup_set h k v') (get_set_self t k v')
  rw [filter_set] at hset
  unfold total
  rw [(hset.map _).sum_eq, ((perm_of_get h hk).map _).sum_eq, List.map_cons, List.map_cons,
    List.sum_cons, List.sum_cons]
  show f v' + _ + f v = f v + _ + f v'
  omega

/-- The sum when there is a new entry. -/
lemma total_set_of_none {t : Table κ α} {k : κ} (hk : t.get k = none) (f : α → ℤ) (v : α) :
    total f (t.set k v) = f v + total f t := by
  rw [set, if_neg (by simp [hk]), total, List.map_cons, List.sum_cons]
  rfl

omit [DecidableEq κ] in
/-- A sum that counts entries. -/
lemma total_eq_countP (p : α → Bool) (t : Table κ α) :
    total (fun v => if p v then 1 else 0) t = t.countP fun e => p e.2 := by
  induction t with
  | nil => rfl
  | cons e t ih =>
    rw [total, List.map_cons, List.sum_cons, List.countP_cons]
    rw [total] at ih
    rw [ih]
    split_ifs <;> omega

omit [DecidableEq κ] in
/-- The sum of entries that are worth nothing. -/
lemma total_eq_zero {f : α → ℤ} {t : Table κ α} (h : ∀ e ∈ t, f e.2 = 0) : total f t = 0 := by
  refine List.sum_eq_zero fun n hn => ?_
  obtain ⟨e, he, rfl⟩ := List.mem_map.1 hn
  exact h e he

end Table
