import Mathlib.Data.BitVec
import Mathlib.Data.List.Perm.Basic
import Mathlib.Tactic.SplitIfs

set_option relaxedAutoImplicit false
set_option autoImplicit false

/-!
# Checksums of sets

A cyclic redundancy check of a byte string depends on the order of the bytes.  To sum up a table
whose order is not fixed, the checks of its entries are combined with exclusive or, which depends
on the entries only.

## Main definitions

* `Checksum.crc` — the bitwise reflected cyclic redundancy check for a polynomial.
* `Checksum.xorSum` — the exclusive or over the entries of a list.

## Main results

* `Checksum.xorSum_perm` — the order of the entries is immaterial.
* `Checksum.xorSum_insert` — one entry more.
-/

namespace Checksum

variable {w : ℕ} {α β : Type*}

/-- Shift one bit out of the register; if it is set, the polynomial is added. -/
def shiftBit (poly crc : BitVec w) : BitVec w :=
  if crc.getLsbD 0 then (crc >>> 1) ^^^ poly else crc >>> 1

/-- Add one byte to the register. -/
def addByte (poly crc : BitVec w) (byte : BitVec 8) : BitVec w :=
  Nat.iterate (shiftBit poly) 8 (crc ^^^ byte.setWidth w)

/-- The check of a byte string, continued from the register `crc`.  Neither the start value nor the
result is inverted. -/
def crc (poly crc : BitVec w) (bytes : List (BitVec 8)) : BitVec w :=
  bytes.foldl (addByte poly) crc

/-- The polynomial of CRC-32C gives its usual check value for the digits from 1 to 9. -/
example : ~~~crc 0x82F63B78#32 (~~~0) [0x31, 0x32, 0x33, 0x34, 0x35, 0x36, 0x37, 0x38, 0x39] =
    0xE3069283#32 := by decide +kernel

/-- The exclusive or over the entries of a list. -/
def xorSum (f : α → BitVec w) : List α → BitVec w
  | [] => 0
  | a :: l => f a ^^^ xorSum f l

@[simp] lemma xorSum_nil (f : α → BitVec w) : xorSum f [] = 0 := rfl

@[simp] lemma xorSum_cons (f : α → BitVec w) (a : α) (l : List α) :
    xorSum f (a :: l) = f a ^^^ xorSum f l := rfl

/-- **The order of the entries is immaterial.** -/
theorem xorSum_perm (f : α → BitVec w) {l₁ l₂ : List α} (h : l₁.Perm l₂) :
    xorSum f l₁ = xorSum f l₂ := by
  induction h with
  | nil => rfl
  | cons a _ ih => rw [xorSum_cons, xorSum_cons, ih]
  | swap a b l =>
    rw [xorSum_cons, xorSum_cons, xorSum_cons, xorSum_cons, ← BitVec.xor_assoc,
      ← BitVec.xor_assoc, BitVec.xor_comm (f b)]
  | trans _ _ ih₁ ih₂ => exact ih₁.trans ih₂

/-- Mapping the entries first. -/
lemma xorSum_map (f : β → BitVec w) (g : α → β) (l : List α) :
    xorSum f (l.map g) = xorSum (fun a => f (g a)) l := by
  induction l with
  | nil => rfl
  | cons a l ih => rw [List.map_cons, xorSum_cons, xorSum_cons, ih]

lemma xorSum_congr {f g : α → BitVec w} {l : List α} (h : ∀ a ∈ l, f a = g a) :
    xorSum f l = xorSum g l := by
  induction l with
  | nil => rfl
  | cons a l ih =>
    rw [List.forall_mem_cons] at h
    rw [xorSum_cons, xorSum_cons, h.1, ih h.2]

/-- **One entry more**, at any place, adds its check to the sum. -/
theorem xorSum_insert (f : α → BitVec w) (pre post : List α) (a : α) :
    xorSum f (pre ++ a :: post) = xorSum f (pre ++ post) ^^^ f a := by
  rw [xorSum_perm f List.perm_middle, xorSum_cons, BitVec.xor_comm]

/-- Entries that are left out count as zero. -/
lemma xorSum_filter (f : α → BitVec w) (p : α → Bool) (l : List α) :
    xorSum f (l.filter p) = xorSum (fun a => if p a then f a else 0) l := by
  induction l with
  | nil => rfl
  | cons a l ih =>
    rw [List.filter_cons, xorSum_cons]
    split_ifs
    · rw [xorSum_cons, ih]
    · rw [ih]
      exact BitVec.zero_xor.symm

/-- The same where the checks are computed on the way. -/
lemma xorSum_filterMap (f : α → Option (BitVec w)) (l : List α) :
    xorSum id (l.filterMap f) = xorSum (fun a => (f a).getD 0) l := by
  induction l with
  | nil => rfl
  | cons a l ih =>
    rw [List.filterMap_cons, xorSum_cons]
    cases f a with
    | none => rw [ih, Option.getD_none]; exact BitVec.zero_xor.symm
    | some b => rw [xorSum_cons, ih, Option.getD_some, id]

end Checksum
