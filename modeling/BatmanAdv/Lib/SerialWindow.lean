import BatmanAdv.Lib.SerialNumber

set_option relaxedAutoImplicit false
set_option autoImplicit false

/-!
# Forwarding once over a window of serial numbers

A relay of numbered messages keeps two numbers: the newest it has accepted, and the last it has
sent on.  It accepts a number only by moving the newest one forward, possibly by nothing, and it
sends the newest one on unless that is what it has sent last.  As long as the newest number does
not come round the circle, no number is then sent twice.

## Main definitions

* `SerialWindow.Memory` — the two numbers.
* `SerialWindow.Step`, `SerialWindow.Path` — what one step of the relay, and a sequence of them,
  does to the memory, and what it sends.

## Main results

* `SerialWindow.Path.sent_positions` — the numbers sent on a path lie at increasing positions.
* `SerialWindow.Path.sent_nodup` — so they differ while the newest number stays within one turn.
-/

namespace SerialWindow

variable {w : ℕ}

/-- The newest number accepted, and the last one sent. -/
structure Memory (w : ℕ) where
  newest : BitVec w
  sent : BitVec w
deriving DecidableEq, Repr

/-- How far a step moves the newest number forward. -/
def advance (m m' : Memory w) : ℕ := (m'.newest - m.newest).toNat

/-- What a step may do: it sends nothing, and the last sent number is kept or replaced by the
newest, or it sends the newest number, which is not what it has sent last. -/
def Step (m m' : Memory w) : Option (BitVec w) → Prop
  | none => m'.sent = m.sent ∨ m'.sent = m'.newest
  | some n => n = m'.newest ∧ m.sent ≠ n ∧ m'.sent = n

/-- The steps through the given memories, each with what it sends, are possible. -/
def Path : Memory w → List (Memory w × Option (BitVec w)) → Prop
  | _, [] => True
  | m, (m', out) :: steps => Step m m' out ∧ Path m' steps

/-- How far the steps move the newest number forward altogether. -/
def travelled : Memory w → List (Memory w × Option (BitVec w)) → ℕ
  | _, [] => 0
  | m, (m', _) :: steps => advance m m' + travelled m' steps

/-- What the steps send. -/
def sentOn (steps : List (Memory w × Option (BitVec w))) : List (BitVec w) :=
  steps.filterMap Prod.snd

/-- The newest number after a step, by its distance from the one before. -/
lemma newest_eq_add_advance (m m' : Memory w) :
    m'.newest = m.newest + BitVec.ofNat w (advance m m') := by
  have h : m'.newest = m.newest + (m'.newest - m.newest) := by ring
  rw [advance, BitVec.ofNat_toNat, BitVec.setWidth_eq]
  exact h

/-- **The numbers sent on a path lie at increasing positions** from the newest number at its start,
and the first one beyond it if that number has been sent already.

**Proof sketch.** Induction on the steps, with the start general.  The positions of the later steps
are those of the induction hypothesis, moved by the advance of the first step; if the first step
sends, its own number has been sent for them.  If the first step does not advance and the newest
number has been sent, then it sends nothing, and the number still counts as sent after it. -/
theorem Path.sent_positions {m : Memory w} {steps : List (Memory w × Option (BitVec w))}
    (h : Path m steps) :
    ∃ ps : List ℕ, sentOn steps = ps.map (fun p => m.newest + BitVec.ofNat w p) ∧
      ps.Pairwise (· < ·) ∧ (∀ p ∈ ps, p ≤ travelled m steps) ∧
      (m.sent = m.newest → ∀ p ∈ ps, 0 < p) := by
  induction steps generalizing m with
  | nil => exact ⟨[], rfl, List.Pairwise.nil, by simp, by simp⟩
  | cons s steps ih =>
    obtain ⟨m', out⟩ := s
    obtain ⟨hstep, hrest⟩ := h
    obtain ⟨ps, hsent, hinc, hle, hpos⟩ := ih hrest
    have hnewest := newest_eq_add_advance m m'
    have hshift : sentOn steps =
        (ps.map (advance m m' + ·)).map (fun p => m.newest + BitVec.ofNat w p) := by
      rw [hsent, List.map_map]
      refine List.map_congr_left fun p _ => ?_
      simp only [Function.comp_apply, BitVec.ofNat_add]
      rw [hnewest]
      ring
    have hinc' : (ps.map (advance m m' + ·)).Pairwise (· < ·) :=
      List.Pairwise.map _ (fun _ _ hlt => by omega) hinc
    have hle' : ∀ p ∈ ps.map (advance m m' + ·), p ≤ travelled m ((m', out) :: steps) := by
      intro p hp
      obtain ⟨q, hq, rfl⟩ := List.mem_map.1 hp
      have := hle q hq
      simp only [travelled]
      omega
    cases out with
    | none =>
      refine ⟨ps.map (advance m m' + ·), hshift, hinc', hle', fun hs p hp => ?_⟩
      obtain ⟨q, hq, rfl⟩ := List.mem_map.1 hp
      by_cases h0 : advance m m' = 0
      · have heq : m'.newest = m.newest := by rw [hnewest, h0]; simp
        have hs' : m'.sent = m'.newest := by
          rcases hstep with hkeep | hnew
          · rw [hkeep, hs, heq]
          · exact hnew
        have := hpos hs' q hq
        omega
      · omega
    | some n =>
      obtain ⟨rfl, hne, hs'⟩ := hstep
      refine ⟨advance m m' :: ps.map (advance m m' + ·), ?_, ?_, ?_, ?_⟩
      · rw [List.map_cons, ← hshift, ← hnewest]
        rfl
      · refine List.pairwise_cons.2 ⟨fun p hp => ?_, hinc'⟩
        obtain ⟨q, hq, rfl⟩ := List.mem_map.1 hp
        have := hpos hs' q hq
        omega
      · intro p hp
        rcases List.mem_cons.1 hp with rfl | hp
        · simp only [travelled]
          omega
        · exact hle' p hp
      · intro hs p hp
        have h0 : advance m m' ≠ 0 := by
          intro h0
          rw [hs, hnewest, h0] at hne
          simp at hne
        rcases List.mem_cons.1 hp with rfl | hp
        · omega
        · obtain ⟨q, -, rfl⟩ := List.mem_map.1 hp
          omega

/-- Positions within one turn stand for different numbers. -/
lemma nodup_map_of_lt {n : BitVec w} {ps : List ℕ} (hinc : ps.Pairwise (· < ·))
    (hlt : ∀ p ∈ ps, p < 2 ^ w) : (ps.map (fun p => n + BitVec.ofNat w p)).Nodup := by
  refine List.Nodup.map_on (fun p hp q hq heq => ?_) (hinc.imp fun h => Nat.ne_of_lt h)
  have hp' := SerialNumber.offset_add_ofNat n (hlt p hp)
  have hq' := SerialNumber.offset_add_ofNat n (hlt q hq)
  rw [← hp', heq, hq']

/-- **No number is sent twice** on a path after whose first step the newest number stays within one
turn; the first step itself may put it anywhere.

**Proof sketch.** The first step's own number has position 0 seen from its end, and those of the
later steps come after it. -/
theorem Path.sent_nodup {m m' : Memory w} {out : Option (BitVec w)}
    {steps : List (Memory w × Option (BitVec w))} (h : Path m ((m', out) :: steps))
    (hturn : travelled m' steps < 2 ^ w) : (sentOn ((m', out) :: steps)).Nodup := by
  obtain ⟨hstep, hrest⟩ := h
  obtain ⟨ps, hsent, hinc, hle, hpos⟩ := hrest.sent_positions
  have hlt : ∀ p ∈ ps, p < 2 ^ w := fun p hp => lt_of_le_of_lt (hle p hp) hturn
  cases out with
  | none =>
    have hnodup := nodup_map_of_lt (n := m'.newest) hinc hlt
    rw [← hsent] at hnodup
    exact hnodup
  | some n =>
    obtain ⟨rfl, -, hs'⟩ := hstep
    have hnodup : ((0 :: ps).map (fun p => m'.newest + BitVec.ofNat w p)).Nodup := by
      refine nodup_map_of_lt (List.pairwise_cons.2 ⟨hpos hs', hinc⟩) fun p hp => ?_
      rcases List.mem_cons.1 hp with rfl | hp
      · exact Nat.two_pow_pos w
      · exact hlt p hp
    rw [List.map_cons, ← hsent] at hnodup
    have hzero : m'.newest + BitVec.ofNat w 0 = m'.newest := by simp
    rw [hzero] at hnodup
    exact hnodup

end SerialWindow
