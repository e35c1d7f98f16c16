import Mathlib.Data.List.Basic
import Mathlib.Data.List.Induction
import Mathlib.Tactic.Ring

set_option relaxedAutoImplicit false
set_option autoImplicit false

/-!
# Numbers in network order

Bytes of a packet are read as a number whose most significant byte comes first, in a word that is
wide enough.

## Main definitions

* `BigEndian.word` — the word that is read.
* `BigEndian.value` — the number.

## Main results

* `BigEndian.toNat_word` — the word holds the number.
* `BigEndian.word_inj` — the word determines the bytes.
-/

namespace BigEndian

/-- Reading bytes as a word, as a loop that shifts them in. -/
def word (w : ℕ) (bytes : List (BitVec 8)) : BitVec w :=
  bytes.foldl (fun acc b => acc <<< 8 ||| b.setWidth w) 0

/-- The number that bytes stand for. -/
def value (bytes : List (BitVec 8)) : ℕ := bytes.foldl (fun acc b => acc * 256 + b.toNat) 0

variable {w : ℕ}

/-- Appending a byte to a number for which there is room. -/
lemma toNat_shiftLeft_or (acc : BitVec w) (b : BitVec 8) (hroom : acc.toNat * 256 + 256 ≤ 2 ^ w) :
    (acc <<< 8 ||| b.setWidth w).toNat = acc.toNat * 256 + b.toNat := by
  have hb := b.isLt
  rw [BitVec.toNat_or, BitVec.toNat_shiftLeft, BitVec.toNat_setWidth, Nat.shiftLeft_eq,
    Nat.mod_eq_of_lt (by omega), Nat.mod_eq_of_lt (by omega)]
  have h1 := Nat.shiftLeft_add_eq_or_of_lt (i := 8) hb acc.toNat
  rw [Nat.shiftLeft_eq] at h1
  exact h1.symm

/-- Bytes that are shifted into a number. -/
lemma toNat_foldl :
    ∀ (bytes : List (BitVec 8)) (acc : BitVec w), (acc.toNat + 1) * 256 ^ bytes.length ≤ 2 ^ w →
      (bytes.foldl (fun (acc : BitVec w) b => acc <<< 8 ||| b.setWidth w) acc).toNat =
        bytes.foldl (fun (acc : ℕ) b => acc * 256 + b.toNat) acc.toNat
  | [], _, _ => rfl
  | b :: bytes, acc, hroom => by
    rw [List.length_cons, pow_succ] at hroom
    have hb := b.isLt
    have hpos : 1 ≤ 256 ^ bytes.length := Nat.one_le_pow _ _ (by omega)
    have hroom1 : (acc.toNat + 1) * 256 ≤ 2 ^ w := by
      calc (acc.toNat + 1) * 256 ≤ (acc.toNat + 1) * 256 * 256 ^ bytes.length :=
            Nat.le_mul_of_pos_right _ hpos
        _ = (acc.toNat + 1) * (256 ^ bytes.length * 256) := by ring
        _ ≤ 2 ^ w := hroom
    have hacc := toNat_shiftLeft_or acc b (by omega)
    rw [List.foldl_cons, List.foldl_cons, toNat_foldl bytes _ ?_, hacc]
    rw [hacc]
    calc (acc.toNat * 256 + b.toNat + 1) * 256 ^ bytes.length
        ≤ ((acc.toNat + 1) * 256) * 256 ^ bytes.length := Nat.mul_le_mul_right _ (by omega)
      _ = (acc.toNat + 1) * (256 ^ bytes.length * 256) := by ring
      _ ≤ 2 ^ w := hroom

/-- **The word holds the number** if it is wide enough. -/
theorem toNat_word (bytes : List (BitVec 8)) (hroom : 256 ^ bytes.length ≤ 2 ^ w) :
    (word w bytes).toNat = value bytes := by
  have h1 := toNat_foldl bytes (0 : BitVec w) (by simpa using hroom)
  unfold word value
  simpa using h1

lemma value_append_singleton (bytes : List (BitVec 8)) (b : BitVec 8) :
    value (bytes ++ [b]) = value bytes * 256 + b.toNat := by
  unfold value
  rw [List.foldl_append, List.foldl_cons, List.foldl_nil]

/-- Numbers of the same length are equal if all of their bytes are. -/
lemma value_inj {bs cs : List (BitVec 8)} (hlen : bs.length = cs.length)
    (h : value bs = value cs) : bs = cs := by
  induction bs using List.reverseRecOn generalizing cs with
  | nil => exact (List.length_eq_zero_iff.1 hlen.symm).symm
  | append_singleton bs b ih =>
    rcases List.eq_nil_or_concat' cs with rfl | ⟨cs, c, rfl⟩
    · simp at hlen
    · rw [value_append_singleton, value_append_singleton] at h
      have hb := b.isLt
      have hc := c.isLt
      simp only [List.length_append, List.length_singleton] at hlen
      have hbc : b = c := BitVec.eq_of_toNat_eq (by omega)
      have hbs : bs = cs := ih (by omega) (by omega)
      rw [hbs, hbc]

/-- **The word determines the bytes**, whose number is known. -/
theorem word_inj {bs cs : List (BitVec 8)} (hlen : bs.length = cs.length)
    (hroom : 256 ^ cs.length ≤ 2 ^ w) : word w bs = word w cs ↔ bs = cs := by
  refine ⟨fun h => value_inj hlen ?_, fun h => by rw [h]⟩
  rw [← toNat_word (w := w) bs (by rw [hlen]; exact hroom), ← toNat_word (w := w) cs hroom, h]

end BigEndian
