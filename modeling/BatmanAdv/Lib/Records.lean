import Mathlib.Data.List.GetD
import Mathlib.Data.BitVec

set_option relaxedAutoImplicit false
set_option autoImplicit false

/-!
# Records behind one another in a frame

A record is a header of a fixed length and a body whose length stands in the header, in two bytes,
the more significant one first.  A frame holds records behind one another and nothing that tells how
many there are.  Who goes through a frame takes a record only when all of it lies in the frame, so
the walk stays inside whatever bytes are there; and in a frame that was put together from records it
finds these.

## Main definitions

* `Records.Format` — the length of the header, and where the length of the body stands.
* `Records.Format.fits`, `Records.Format.walk` — the test for one more record, and the walk.
* `Records.Format.Whole` — a record with the body that its header announces.
* `Records.Format.recordsIn` — the records that a walk finds in a frame.

## Main results

* `Records.Format.walk_inside` — the walk ends, and stays inside.
* `Records.Format.recordsIn_flatten` — it finds the records that a frame was put together from.
-/

namespace Records

/-- Where things stand in the header of a record. -/
structure Format where
  hlen : ℕ
  lenPos : ℕ
  lenPos_lt : lenPos + 1 < hlen

/-- The bytes of memory from an address on. -/
def bytes (mem : ℕ → BitVec 8) (off len : ℕ) : List (BitVec 8) :=
  (List.range len).map fun i => mem (off + i)

/-- A frame in memory. -/
def memOf (frame : List (BitVec 8)) (addr : ℕ) : BitVec 8 := frame.getD addr 0

/-- Part of a frame, as bytes in memory. -/
lemma bytes_memOf (frame : List (BitVec 8)) {off len : ℕ} (h : off + len ≤ frame.length) :
    bytes (memOf frame) off len = (frame.drop off).take len := by
  refine List.ext_getElem (by simp [bytes]; omega) fun i hi hi' => ?_
  have hlt : i < len := by simpa [bytes] using hi
  simp only [bytes, memOf, List.getElem_map, List.getElem_range, List.getElem_take,
    List.getElem_drop]
  exact List.getD_eq_getElem _ _ (by omega)

namespace Format

variable (F : Format)

/-- The length of the body that the header of a record announces. -/
def bodyLen (data : List (BitVec 8)) : BitVec 16 :=
  data.getD F.lenPos 0 ++ data.getD (F.lenPos + 1) 0

/-- The same for a record in memory. -/
def bodyLenAt (mem : ℕ → BitVec 8) (off : ℕ) : BitVec 16 :=
  mem (off + F.lenPos) ++ mem (off + (F.lenPos + 1))

/-- There is a record at an offset, and all of it fits.  The length of the body is looked at only
when the header fits. -/
def fits (mem : ℕ → BitVec 8) (off total : ℕ) : Bool :=
  if total < off + F.hlen then false
  else decide (off + F.hlen + (F.bodyLenAt mem off).toNat ≤ total)

/-- The records that are found from an offset on, as addresses and lengths; `none` when the given
number of turns is not enough. -/
def walk (mem : ℕ → BitVec 8) (total : ℕ) : ℕ → ℕ → Option (List (ℕ × ℕ))
  | 0, _ => none
  | turns + 1, off =>
    if F.fits mem off total then
      let len := F.hlen + (F.bodyLenAt mem off).toNat
      (walk mem total turns (off + len)).map ((off, len) :: ·)
    else some []

/-- The addresses that the walk itself reads. -/
def walkReads (mem : ℕ → BitVec 8) (total : ℕ) : ℕ → ℕ → List ℕ
  | 0, _ => []
  | turns + 1, off =>
    if total < off + F.hlen then []
    else
      (off + F.lenPos) :: (off + (F.lenPos + 1)) ::
        if F.fits mem off total then
          walkReads mem total turns (off + (F.hlen + (F.bodyLenAt mem off).toNat))
        else []

/-- The records that a walk finds in a frame. -/
def recordsIn (frame : List (BitVec 8)) : List (List (BitVec 8)) :=
  ((F.walk (memOf frame) frame.length (frame.length + 1) 0).getD []).map
    fun r => bytes (memOf frame) r.1 r.2

/-- A record with the body that its header announces. -/
def Whole (r : List (BitVec 8)) : Prop := r.length = F.hlen + (F.bodyLen r).toNat

instance (r : List (BitVec 8)) : Decidable (F.Whole r) :=
  inferInstanceAs (Decidable (r.length = F.hlen + (F.bodyLen r).toNat))

variable {F}

/-- A record is taken only when all of it fits. -/
lemma fits_iff {mem : ℕ → BitVec 8} {off total : ℕ} :
    F.fits mem off total = true ↔ off + (F.hlen + (F.bodyLenAt mem off).toNat) ≤ total := by
  unfold fits
  split_ifs with h
  · simp only [false_iff]
    omega
  · rw [decide_eq_true_iff]
    omega

/-- **The walk ends and stays inside the frame**, whatever bytes are there: every record that is
found lies in it, and so does everything the walk reads.

**Proof sketch.** Induction on the number of turns.  A turn is taken only when the record fits, and
moves the offset on by at least the size of a header. -/
theorem walk_inside (mem : ℕ → BitVec 8) {total turns off : ℕ} (hoff : off ≤ total)
    (hturns : total < off + turns) :
    (∃ rs, F.walk mem total turns off = some rs ∧
        ∀ r ∈ rs, F.hlen ≤ r.2 ∧ r.1 + r.2 ≤ total) ∧
      ∀ addr ∈ F.walkReads mem total turns off, addr < total := by
  induction turns generalizing off with
  | zero => omega
  | succ turns ih =>
    have hpos := F.lenPos_lt
    unfold walk walkReads
    by_cases hfits : F.fits mem off total = true
    · have hlen := fits_iff.1 hfits
      obtain ⟨⟨rs, hwalk, hinside⟩, hreads⟩ := ih hlen (by omega)
      have hhdr : ¬ total < off + F.hlen := by omega
      simp only [hfits, if_true, hhdr, if_false]
      refine ⟨⟨_, by rw [hwalk]; rfl, ?_⟩, ?_⟩
      · intro r hr
        rcases List.mem_cons.1 hr with rfl | hr
        · exact ⟨by omega, hlen⟩
        · exact hinside r hr
      · intro addr haddr
        rcases List.mem_cons.1 haddr with rfl | haddr
        · omega
        rcases List.mem_cons.1 haddr with rfl | haddr
        · omega
        · exact hreads addr haddr
    · simp only [hfits, Bool.false_eq_true, if_false]
      refine ⟨⟨[], rfl, by simp⟩, ?_⟩
      split_ifs with hhdr
      · simp
      · intro addr haddr
        simp only [List.mem_cons, List.not_mem_nil, or_false] at haddr
        omega

/-- The length of the body of a record in a frame. -/
lemma bodyLenAt_memOf (pre r post : List (BitVec 8)) (h : F.hlen ≤ r.length) :
    F.bodyLenAt (memOf (pre ++ r ++ post)) pre.length = F.bodyLen r := by
  have hpos := F.lenPos_lt
  have hget : ∀ i < r.length, memOf (pre ++ r ++ post) (pre.length + i) = r.getD i 0 := by
    intro i hi
    rw [memOf, List.append_assoc, List.getD_append_right _ _ _ _ (by omega),
      Nat.add_sub_cancel_left, List.getD_append _ _ _ _ hi]
  rw [bodyLenAt, bodyLen, hget _ (by omega), hget _ (by omega)]

/-- In front of a whole record there is one that fits. -/
lemma fits_of_whole {r : List (BitVec 8)} (h : F.Whole r) (pre post : List (BitVec 8)) :
    F.fits (memOf (pre ++ r ++ post)) pre.length (pre ++ r ++ post).length = true ∧
      F.hlen + (F.bodyLenAt (memOf (pre ++ r ++ post)) pre.length).toNat = r.length := by
  unfold Whole at h
  have hlen := bodyLenAt_memOf (F := F) pre r post (by omega)
  rw [fits_iff, hlen, List.length_append, List.length_append]
  omega

/-- At the end of a frame there is no record. -/
lemma not_fits_end (frame : List (BitVec 8)) :
    F.fits (memOf frame) frame.length frame.length = false := by
  have hpos := F.lenPos_lt
  rw [← Bool.not_eq_true, fits_iff]
  omega

/-- **The walk finds the records that lie behind one another**, from where the first begins.

**Proof sketch.** Induction on the records, with what lies in front of them general. -/
lemma walk_flatten {rs : List (List (BitVec 8))} (hwhole : ∀ r ∈ rs, F.Whole r)
    (pre : List (BitVec 8)) (turns : ℕ) (hturns : rs.length < turns) :
    ∃ found, F.walk (memOf (pre ++ rs.flatten)) (pre ++ rs.flatten).length turns pre.length =
        some found ∧
      found.map (fun r => bytes (memOf (pre ++ rs.flatten)) r.1 r.2) = rs := by
  induction rs generalizing pre turns with
  | nil =>
    obtain ⟨turns, rfl⟩ := Nat.exists_eq_succ_of_ne_zero (Nat.ne_of_gt hturns)
    have hend := not_fits_end (F := F) pre
    rw [List.flatten_nil, List.append_nil]
    exact ⟨[], by rw [walk, hend]; rfl, rfl⟩
  | cons r rs ih =>
    obtain ⟨hr, hrest⟩ := List.forall_mem_cons.1 hwhole
    rw [List.length_cons] at hturns
    obtain ⟨turns, rfl⟩ := Nat.exists_eq_succ_of_ne_zero (Nat.ne_of_gt (Nat.zero_lt_of_lt hturns))
    obtain ⟨found, hwalk, hfound⟩ := ih hrest (pre ++ r) turns (by omega)
    have hassoc : pre ++ (r :: rs).flatten = pre ++ r ++ rs.flatten := by
      rw [List.flatten_cons, List.append_assoc]
    obtain ⟨hfits, hlen⟩ := fits_of_whole hr pre rs.flatten
    rw [hassoc]
    have hpos : (pre ++ r).length = pre.length + r.length := List.length_append
    rw [hpos] at hwalk
    have hturn : F.walk (memOf (pre ++ r ++ rs.flatten)) (pre ++ r ++ rs.flatten).length
        (turns + 1) pre.length = some ((pre.length, r.length) :: found) := by
      rw [walk, if_pos hfits, hlen]
      simp only [hwalk, Option.map_some]
    refine ⟨_, hturn, ?_⟩
    rw [List.map_cons, hfound, bytes_memOf _ (by simp)]
    simp

/-- Records are not empty. -/
lemma length_le_length_flatten {rs : List (List (BitVec 8))} (hwhole : ∀ r ∈ rs, F.Whole r) :
    rs.length ≤ rs.flatten.length := by
  have hpos := F.lenPos_lt
  induction rs with
  | nil => simp
  | cons r rs ih =>
    obtain ⟨hr, hrest⟩ := List.forall_mem_cons.1 hwhole
    have hle := ih hrest
    unfold Whole at hr
    rw [List.flatten_cons, List.length_append, List.length_cons]
    omega

/-- **The walk finds the records that a frame was put together from.** -/
theorem recordsIn_flatten {rs : List (List (BitVec 8))} (hwhole : ∀ r ∈ rs, F.Whole r) :
    F.recordsIn rs.flatten = rs := by
  obtain ⟨found, hwalk, hfound⟩ := walk_flatten hwhole [] (rs.flatten.length + 1)
    (Nat.lt_succ_of_le (length_le_length_flatten hwhole))
  rw [List.nil_append, List.length_nil] at hwalk
  rw [recordsIn, hwalk, Option.getD_some]
  exact hfound

end Format

end Records
