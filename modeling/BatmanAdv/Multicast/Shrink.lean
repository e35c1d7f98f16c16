import BatmanAdv.Multicast.Forward
import BatmanAdv.Tvlv.Container

set_option relaxedAutoImplicit false
set_option autoImplicit false

/-!
# Shrinking the tracker TVLV (`multicast_forw.c`)

When destinations are removed from a multicast packet, its headers are moved over them, and the
padding of the tracker TVLV is adjusted: it is removed when an even number of destinations becomes
an odd one.  Whether there is a padding is concluded from the number of destinations alone.  A
packet is accepted without one too, and then two bytes of what follows the tracker TVLV are lost,
and the tracker TVLV is too short for its destinations.

## Main definitions

* `Batadv.McastSkb.Accepted` — a packet that passes the checks of its receiver.
* `Batadv.McastSkb.after` — what follows the tracker TVLV.
* `Batadv.McastSkb.ShrunkTo` — a packet after its zeroed destinations were removed, as it should be.
* `Batadv.McastSkb.ShrinkFits` — the padding that is to be removed is there.

## Main results

* `Batadv.mcast_shrink_iff` — when a packet stays well formed.
* `Batadv.mcast_shrink_unpadded` — a packet that does not.
-/

namespace Batadv

/-! ### Packets -/

/-- **A packet that is accepted**: its tracker TVLV is well formed, the network header is the value
of that TVLV, which is within the packet, and the length of all TVLVs covers it. -/
structure McastSkb.Accepted (skb : McastSkb) : Prop extends skb.WellFormed where
  value : skb.networkHeaderLen = skb.trackerLen.toNat
  within : skb.trackerLen.toNat ≤ 2 + 6 * skb.dests.length + skb.rest.length
  tvlvs : skb.between.length + 2 + skb.trackerLen.toNat ≤ skb.tvlvLen.toNat

/-- What follows the tracker TVLV: other TVLVs, and the payload. -/
def McastSkb.after (skb : McastSkb) : List U8 :=
  skb.rest.drop (skb.trackerLen.toNat - (2 + 6 * skb.dests.length))

/-- **The packet `skb'` is `skb` without its zeroed destinations**: it is what
`batadv_mcast_forw_shrink_tracker` makes of `skb`, it is accepted again, it lists the destinations
that are not zero, its lengths are less by the bytes that were removed, and all else is as it
was. -/
structure McastSkb.ShrunkTo (skb skb' : McastSkb) : Prop where
  bytes : mcastForwShrinkTracker skb = skb'.bytes
  accepted : skb'.Accepted
  pre : skb'.pre = skb.pre
  between : skb'.between = skb.between
  dests : skb'.dests = mcastDestsLeft skb.dests
  trackerLen : skb'.trackerLen.toNat + skb.bytes.length =
    skb.trackerLen.toNat + skb'.bytes.length
  tvlvLen : skb'.tvlvLen.toNat + skb.bytes.length = skb.tvlvLen.toNat + skb'.bytes.length
  after : skb'.after = skb.after

/-- The number of zeroed destinations. -/
def McastSkb.zeroed (skb : McastSkb) : ℕ := skb.dests.countP isZeroEtherAddr

/-- The padding that is to be removed is there: an odd number of destinations is removed of an even
one only if the tracker TVLV has two more bytes than they take. -/
def McastSkb.ShrinkFits (skb : McastSkb) : Prop :=
  skb.zeroed % 2 = 0 ∨ skb.dests.length % 2 = 1 ∨
    2 + 6 * skb.dests.length + 2 ≤ skb.trackerLen.toNat

instance (skb : McastSkb) : Decidable skb.ShrinkFits :=
  inferInstanceAs (Decidable (_ ∨ _ ∨ _))

/-! ### Lengths -/

/-- The destinations that are left and those that are zeroed. -/
lemma McastSkb.length_left_add (skb : McastSkb) :
    (mcastDestsLeft skb.dests).length + skb.zeroed = skb.dests.length := by
  have hsplit := List.length_eq_countP_add_countP isZeroEtherAddr (l := skb.dests)
  have hleft : (mcastDestsLeft skb.dests).length =
      skb.dests.countP fun dest => !isZeroEtherAddr dest := List.countP_eq_length_filter.symm
  rw [hleft, zeroed, Nat.add_comm]
  simpa using hsplit.symm

/-- The number of bytes by which the headers are moved. -/
def mcastShrinkOffset (numDestsOld numDestsReduce : ℕ) : ℕ :=
  (6 * numDestsReduce + mcastForwShrinkAlignOffset numDestsOld numDestsReduce).toNat

/-- These are the removed destinations, and the padding that is removed or left. -/
lemma mcastShrinkOffset_eq (n k : ℕ) :
    mcastShrinkOffset n k =
      if k % 2 = 0 then 6 * k else if n % 2 = 0 then 6 * k + 2 else 6 * k - 2 := by
  unfold mcastShrinkOffset mcastForwShrinkAlignOffset
  split_ifs <;> omega

/-- A packet with other destinations, the same description whether some were removed or not. -/
lemma McastSkb.listing_eq (skb : McastSkb) (dests : List EthAddr) :
    skb.listing dests =
      let reduced := skb.numDests.toNat - dests.length
      let offset := mcastShrinkOffset skb.numDests.toNat reduced
      { skb with
        numDests := skb.numDests - BitVec.ofNat 16 reduced
        trackerLen := skb.trackerLen - BitVec.ofNat 16 offset
        tvlvLen := skb.tvlvLen - BitVec.ofNat 16 offset
        dests := dests
        rest := (List.replicate (6 * reduced) 0 ++ skb.rest).drop offset } := by
  unfold listing
  dsimp only
  split_ifs with hreduced
  · rw [hreduced]
    have hoffset : mcastShrinkOffset skb.numDests.toNat 0 = 0 := rfl
    rw [hoffset]
    simp
  · rfl

/-- A length that becomes less. -/
lemma toNat_sub_ofNat {x : U16} {m : ℕ} (h : m ≤ x.toNat) :
    (x - BitVec.ofNat 16 m).toNat = x.toNat - m := by
  have hlt := x.isLt
  rw [BitVec.toNat_sub, BitVec.toNat_ofNat]
  omega

/-- The number of bytes of a packet. -/
lemma McastSkb.length_bytes (skb : McastSkb) :
    skb.bytes.length = skb.networkOffset + 2 + 6 * skb.dests.length + skb.rest.length := by
  rw [bytes, List.length_append, List.length_append, length_headers, length_flatMap_bytes]

/-- The two bytes of a number determine it. -/
lemma beBytes_injective {n m : U16} (h : beBytes n = beBytes m) : n = m := by
  obtain ⟨hhi, htail⟩ := List.cons.inj h
  obtain ⟨hlo, -⟩ := List.cons.inj htail
  rw [← length_bytes_append n, ← length_bytes_append m, hhi, hlo]

/-- The length of the tracker TVLV is determined by the bytes and what is in front of it. -/
lemma McastSkb.trackerLen_eq {a b : McastSkb} (h : a.bytes = b.bytes) (hpre : a.pre = b.pre)
    (hbetween : a.between = b.between) : a.trackerLen = b.trackerLen := by
  simp only [bytes, headers, hpre, hbetween, List.append_assoc] at h
  obtain ⟨-, htvlvs⟩ := List.append_inj (List.append_cancel_left h) rfl
  exact beBytes_injective (List.append_inj (List.append_cancel_left htvlvs) rfl).1

/-! ### Shrinking -/

/-- The packet after its zeroed destinations were removed, with the network header that its receiver
sets. -/
def McastSkb.shrunk (skb : McastSkb) : McastSkb :=
  let listing := skb.listing (mcastDestsLeft skb.dests)
  { listing with networkHeaderLen := listing.trackerLen.toNat }

/-- The number of bytes that are removed. -/
def McastSkb.removed (skb : McastSkb) : ℕ := mcastShrinkOffset skb.dests.length skb.zeroed

/-- What the packet is after its zeroed destinations were removed. -/
lemma McastSkb.Accepted.shrunk_eq {skb : McastSkb} (h : skb.Accepted) :
    skb.shrunk = { skb with
      numDests := skb.numDests - BitVec.ofNat 16 skb.zeroed
      trackerLen := skb.trackerLen - BitVec.ofNat 16 skb.removed
      tvlvLen := skb.tvlvLen - BitVec.ofNat 16 skb.removed
      dests := mcastDestsLeft skb.dests
      rest := (List.replicate (6 * skb.zeroed) 0 ++ skb.rest).drop skb.removed
      networkHeaderLen := (skb.trackerLen - BitVec.ofNat 16 skb.removed).toNat } := by
  have hreduced : skb.numDests.toNat - (mcastDestsLeft skb.dests).length = skb.zeroed := by
    have := skb.length_left_add
    rw [h.numDests]
    omega
  unfold shrunk
  rw [listing_eq, hreduced, h.numDests]
  rfl

/-- No more is removed than the tracker TVLV has. -/
lemma McastSkb.Accepted.removed_le {skb : McastSkb} (h : skb.Accepted) :
    skb.removed ≤ skb.trackerLen.toNat := by
  have hheader := h.networkHeader
  have hleft := skb.length_left_add
  rw [h.value] at hheader
  rw [removed, mcastShrinkOffset_eq]
  split_ifs <;> omega

/-- **The bytes after shrinking** are those of the packet `McastSkb.shrunk`. -/
lemma McastSkb.Accepted.bytes_shrunk {skb : McastSkb} (h : skb.Accepted) :
    mcastForwShrinkTracker skb = skb.shrunk.bytes :=
  mcastForwShrinkTracker_eq h.toWellFormed

/-- What is removed are zeroed destinations and padding, and the destinations that are left keep
their room, where the padding that is to be removed is there. -/
lemma McastSkb.Accepted.removed_fits {skb : McastSkb} (h : skb.Accepted) (hfits : skb.ShrinkFits) :
    skb.removed ≤ 6 * skb.zeroed + skb.rest.length ∧
      2 + 6 * (mcastDestsLeft skb.dests).length + skb.removed ≤ skb.trackerLen.toNat := by
  have hheader := h.networkHeader
  have hwithin := h.within
  have hleft := skb.length_left_add
  rw [h.value] at hheader
  unfold ShrinkFits at hfits
  rw [removed, mcastShrinkOffset_eq]
  split_ifs <;> omega

/-- What follows the tracker TVLV stays. -/
lemma McastSkb.Accepted.after_shrunk {skb : McastSkb} (h : skb.Accepted)
    (hfits : skb.ShrinkFits) : skb.shrunk.after = skb.after := by
  obtain ⟨-, hroom⟩ := h.removed_fits hfits
  have hleft := skb.length_left_add
  have hheader := h.networkHeader
  rw [h.value] at hheader
  rw [h.shrunk_eq]
  unfold after
  dsimp only
  rw [toNat_sub_ofNat h.removed_le, List.drop_drop]
  have hindex : skb.removed +
      (skb.trackerLen.toNat - skb.removed - (2 + 6 * (mcastDestsLeft skb.dests).length)) =
      (List.replicate (6 * skb.zeroed) (0 : U8)).length +
        (skb.trackerLen.toNat - (2 + 6 * skb.dests.length)) := by
    rw [List.length_replicate]
    omega
  rw [hindex, List.drop_length_add_append]

/-- **A packet stays well formed** where the padding that is to be removed is there. -/
lemma McastSkb.Accepted.shrunkTo {skb : McastSkb} (h : skb.Accepted) (hfits : skb.ShrinkFits) :
    skb.ShrunkTo skb.shrunk := by
  obtain ⟨hrest, hroom⟩ := h.removed_fits hfits
  have hle := h.removed_le
  have hleft := skb.length_left_add
  have hnum := h.numDests
  have hwithin := h.within
  have htvlvs := h.tvlvs
  have htotal := h.fits
  have htracker := toNat_sub_ofNat hle
  have htvlvLen : (skb.tvlvLen - BitVec.ofNat 16 skb.removed).toNat =
      skb.tvlvLen.toNat - skb.removed := toNat_sub_ofNat (by omega)
  have hnumDests : (skb.numDests - BitVec.ofNat 16 skb.zeroed).toNat =
      (mcastDestsLeft skb.dests).length := by
    rw [toNat_sub_ofNat (by omega)]
    omega
  have hlength {len : ℕ} (hlen : skb.removed ≤ len) :
      len - skb.removed + skb.bytes.length = len + skb.shrunk.bytes.length := by
    rw [length_bytes, length_bytes, h.shrunk_eq]
    simp only [networkOffset, List.length_drop, List.length_append, List.length_replicate]
    omega
  have hafter := h.after_shrunk hfits
  have hbytes := h.bytes_shrunk
  simp only [h.shrunk_eq] at hafter hbytes hlength ⊢
  refine ⟨hbytes, ⟨⟨h.length_pre, hnumDests, ?_, ?_⟩, rfl, ?_, ?_⟩, rfl, rfl, rfl, ?_, ?_, hafter⟩
  all_goals dsimp only
  · omega
  · omega
  · rw [htracker, List.length_drop, List.length_append, List.length_replicate]
    omega
  · rw [htracker, htvlvLen]
    omega
  · rw [htracker]
    exact hlength hle
  · rw [htvlvLen]
    exact hlength (by omega)

/-- **Shrinking the tracker TVLV.**  A packet that is accepted is accepted again without its zeroed
destinations, with all else as it was, exactly if an even number of them is removed, or it lists an
odd number of destinations, or it has the padding that is to be removed. -/
theorem mcast_shrink_iff {skb : McastSkb} (h : skb.Accepted) :
    (∃ skb', skb.ShrunkTo skb') ↔ skb.ShrinkFits := by
  constructor
  · rintro ⟨skb', hshrunk⟩
    by_contra hfits
    have htracker : skb.shrunk.trackerLen = skb'.trackerLen :=
      McastSkb.trackerLen_eq (h.bytes_shrunk.symm.trans hshrunk.bytes)
        (by rw [hshrunk.pre, h.shrunk_eq]) (by rw [hshrunk.between, h.shrunk_eq])
    have hlen : skb'.trackerLen.toNat = skb.trackerLen.toNat - skb.removed := by
      rw [← htracker, h.shrunk_eq]
      exact toNat_sub_ofNat h.removed_le
    have hheader := hshrunk.accepted.networkHeader
    rw [hshrunk.accepted.value, hlen, hshrunk.dests] at hheader
    have hleft := skb.length_left_add
    unfold McastSkb.ShrinkFits at hfits
    rw [McastSkb.removed, mcastShrinkOffset_eq] at hheader
    split_ifs at hheader <;> omega
  · intro hfits
    exact ⟨skb.shrunk, h.shrunkTo hfits⟩

/-! ### Two destinations -/

/-- A packet for two destinations, of which the first one is zeroed, with the given padding in front
of its payload. -/
def mcastTwoDests (padding : List U8) : McastSkb where
  pre := [5, 15, 50, 0]
  tvlvLen := BitVec.ofNat 16 (18 + padding.length)
  between := [6, 1]
  trackerLen := BitVec.ofNat 16 (14 + padding.length)
  numDests := 2
  dests := [0, 0x020000000003]
  rest := padding ++ [1, 2, 3, 4]
  networkHeaderLen := 14 + padding.length

/-- With the padding the packet is accepted, and it stays well formed. -/
theorem mcast_shrink_padded : ∃ skb', (mcastTwoDests [0, 0]).ShrunkTo skb' :=
  (mcast_shrink_iff ⟨⟨by decide, by decide, by decide, by decide⟩, by decide, by decide,
    by decide⟩).2 (by decide)

/-- **Without the padding** the packet is accepted too; two bytes of its payload are lost, and the
tracker TVLV has 6 bytes for a destination and its number of destinations. -/
theorem mcast_shrink_unpadded :
    (mcastTwoDests []).Accepted ∧
      mcastForwShrinkTracker (mcastTwoDests []) =
        [5, 15, 50, 0] ++ [0, 10] ++ [6, 1] ++ [0, 6] ++ [0, 1] ++ [2, 0, 0, 0, 0, 3] ++ [3, 4] ∧
      ¬ ∃ skb', (mcastTwoDests []).ShrunkTo skb' := by
  have haccepted : (mcastTwoDests []).Accepted :=
    ⟨⟨by decide, by decide, by decide, by decide⟩, by decide, by decide, by decide⟩
  refine ⟨haccepted, by decide, ?_⟩
  rintro ⟨skb', hshrunk⟩
  have htracker : (mcastTwoDests []).shrunk.trackerLen = skb'.trackerLen :=
    McastSkb.trackerLen_eq (haccepted.bytes_shrunk.symm.trans hshrunk.bytes)
      (hshrunk.pre.symm ▸ rfl) (hshrunk.between.symm ▸ rfl)
  have hheader := hshrunk.accepted.networkHeader
  rw [hshrunk.accepted.value, ← htracker, hshrunk.dests] at hheader
  revert hheader
  decide

end Batadv
