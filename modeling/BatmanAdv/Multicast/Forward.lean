import BatmanAdv.Originator

set_option relaxedAutoImplicit false
set_option autoImplicit false

/-!
# Forwarding multicast packets (`multicast_forw.c`)

A multicast packet lists the originators that it is for in a tracker TVLV.  A node that forwards it
sends a copy to each next hop, with the destinations that are behind it.  It goes through the
list, and at every destination that is left it makes a copy of the packet; in the copy it zeroes
the destinations with another next hop, and in the packet those with this one.  Then the
destinations of the copy are packed, and its headers are moved over the zeroed ones.

A packet is given by the bytes in front of the tracker TVLV, the number of destinations and the
destinations, and the bytes behind them, which begin with a padding where there is one.  The copy
that is sent is the list of its bytes.

## Main definitions

* `Batadv.McastSkb` — a multicast packet.
* `Batadv.mcastForwScrubDests`, `Batadv.mcastForwShrinkFill`, `Batadv.mcastForwShrinkPackDests`,
  `Batadv.mcastForwShrinkAlignOffset`, `Batadv.mcastForwShrinkUpdateHeaders`,
  `Batadv.mcastForwScrape`, `Batadv.mcastForwShrinkMoveHeaders`, `Batadv.mcastForwShrinkTracker`,
  `Batadv.mcastForwPacket` — the functions of these names.
* `Batadv.McastSkb.listing` — a packet with other destinations.

## Main results

* `Batadv.mcastForwShrinkPackDests_eq` — packing keeps the destinations and their order.
* `Batadv.mcastForwShrinkTracker_eq` — a packet after its zeroed destinations were removed.
-/

namespace Batadv

/-- `NET_RX_SUCCESS`. -/
def NET_RX_SUCCESS : ℤ := 0

/-- `NET_RX_DROP`. -/
def NET_RX_DROP : ℤ := 1

/-! ### Packets -/

/-- A number of two bytes in network order. -/
def beBytes (n : U16) : List U8 := [n.extractLsb' 8 8, n.extractLsb' 0 8]

/-- A multicast packet from `skb->data` on: `pre` is `struct batadv_mcast_packet` up to its field
`tvlv_len`, `between` are the TVLVs in front of the tracker TVLV and the type and the version of
that one, `trackerLen` is its length in `struct batadv_tvlv_hdr`, and `rest` is what follows the
destinations.  The network header of the `skb` is at `numDests`; `networkHeaderLen` is its
length. -/
structure McastSkb where
  pre : List U8
  tvlvLen : U16
  between : List U8
  trackerLen : U16
  numDests : U16
  dests : List EthAddr
  rest : List U8
  networkHeaderLen : ℕ
deriving DecidableEq, Repr

/-- The bytes up to the destinations. -/
def McastSkb.headers (skb : McastSkb) : List U8 :=
  skb.pre ++ beBytes skb.tvlvLen ++ skb.between ++ beBytes skb.trackerLen ++ beBytes skb.numDests

/-- The bytes of the packet. -/
def McastSkb.bytes (skb : McastSkb) : List U8 :=
  skb.headers ++ skb.dests.flatMap EthAddr.bytes ++ skb.rest

/-- `skb_network_offset`: where the tracker TVLV begins. -/
def McastSkb.networkOffset (skb : McastSkb) : ℕ := skb.pre.length + 2 + skb.between.length + 2

/-- **A tracker TVLV is well formed** if there are as many destinations as it says, within the
network header, and the length of all TVLVs of the packet fits into its field. -/
structure McastSkb.WellFormed (skb : McastSkb) : Prop where
  length_pre : skb.pre.length = 4
  numDests : skb.numDests.toNat = skb.dests.length
  networkHeader : 2 + 6 * skb.dests.length ≤ skb.networkHeaderLen
  fits : skb.between.length + 2 + 2 + 6 * skb.dests.length < 2 ^ 16

/-- Other destinations, but as many of them. -/
lemma McastSkb.WellFormed.of_length {skb : McastSkb} (h : skb.WellFormed) {dests : List EthAddr}
    (hlen : dests.length = skb.dests.length) : { skb with dests := dests }.WellFormed :=
  ⟨h.length_pre, h.numDests.trans hlen.symm, hlen ▸ h.networkHeader, hlen ▸ h.fits⟩

/-! ### Sorting the destinations -/

/-- What forwarding a packet reads: the addresses of the node's interfaces, which are unicast
addresses; the router to an originator; whether there is memory for the copy that is made when so
many destinations are left, and what sending it returns. -/
structure McastForwEnv where
  isMyMac : EthAddr → Bool
  isMyMac_valid : ∀ addr, isMyMac addr = true → isValidEtherAddr addr = true
  origToRouter : EthAddr → Option NeighKey
  skbCopy : ℕ → Bool
  sendUnicastSkb : ℕ → ℤ

/-- One turn of the loop of `batadv_mcast_forw_scrub_dests`: the destination in the packet, and
the one in the copy. -/
def mcastForwScrubDest (env : McastForwEnv) (compNeigh : NeighKey) (dest nextDest : EthAddr) :
    EthAddr × EthAddr :=
  if isZeroEtherAddr nextDest then (dest, nextDest)
  else if isMulticastEtherAddr nextDest then (0, 0)
  else
    match env.origToRouter nextDest with
    | none => (dest, 0)
    | some nextNeigh =>
      if nextNeigh.addr ≠ compNeigh.addr then (dest, 0)
      -- an entry for the copy is removed from the packet
      else (0, nextDest)

/-- `batadv_mcast_forw_scrub_dests`: the destinations from `dest` and from `next_dest` on.  The
first one is skipped; the turns of the loop do not depend on each other. -/
def mcastForwScrubDests (env : McastForwEnv) (compNeigh : NeighKey) :
    List EthAddr → List EthAddr → List EthAddr × List EthAddr
  | _ :: dests, nextDest :: nextDests =>
    let scrubbed := List.zipWith (mcastForwScrubDest env compNeigh) dests nextDests
    (0 :: scrubbed.map Prod.fst, nextDest :: scrubbed.map Prod.snd)
  | dests, nextDests => (dests, nextDests)

/-! ### Removing the zeroed destinations -/

/-- The loop of `batadv_mcast_forw_shrink_fill`: the first destination that is not zero, and the
list with a zero in its place. -/
def mcastForwTakeFiller : List EthAddr → Option (EthAddr × List EthAddr)
  | [] => none
  | filler :: fillers =>
    if isZeroEtherAddr filler then
      (mcastForwTakeFiller fillers).map fun taken => (taken.1, filler :: taken.2)
    else some (filler, 0 :: fillers)

/-- `batadv_mcast_forw_shrink_fill`: the destinations from the slot on, if it was filled. -/
def mcastForwShrinkFill : List EthAddr → Option (List EthAddr)
  | [] => none
  | _ :: fillers => (mcastForwTakeFiller fillers).map fun taken => taken.1 :: taken.2

/-- The loop of `batadv_mcast_forw_shrink_pack_dests`: the destinations from the slot on, and the
number of the zeros at the end. -/
def mcastForwShrinkPackDests : ℕ → List EthAddr → List EthAddr × ℕ
  | numDestsSlot + 1, slot :: dests =>
    if !isZeroEtherAddr slot then
      let packed := mcastForwShrinkPackDests numDestsSlot dests
      (slot :: packed.1, packed.2)
    else
      match mcastForwShrinkFill (slot :: dests) with
      | some (slot :: dests) =>
        let packed := mcastForwShrinkPackDests numDestsSlot dests
        (slot :: packed.1, packed.2)
      -- no filler could be found: the rest is zero
      | _ => (slot :: dests, numDestsSlot + 1)
  | numDestsSlot, dests => (dests, numDestsSlot)

/-- `batadv_mcast_forw_shrink_align_offset`. -/
def mcastForwShrinkAlignOffset (numDestsOld numDestsReduce : ℕ) : ℤ :=
  if numDestsReduce % 2 = 0 then 0
  -- from an even number of destinations to an odd one the padding is removed
  else if numDestsOld % 2 = 0 then 2
  else -2

/-- `batadv_mcast_forw_shrink_update_headers`: the packet with its headers updated, and where the
new packet begins. -/
def mcastForwShrinkUpdateHeaders (skb : McastSkb) (numDestsReduce : ℕ) : McastSkb × ℕ :=
  let alignOffset := mcastForwShrinkAlignOffset skb.numDests.toNat numDestsReduce
  let offset := (6 * numDestsReduce + alignOffset).toNat
  ({ skb with
      numDests := skb.numDests - BitVec.ofNat 16 numDestsReduce
      trackerLen := skb.trackerLen - BitVec.ofNat 16 offset
      tvlvLen := skb.tvlvLen - BitVec.ofNat 16 offset },
    offset)

/-- `batadv_mcast_forw_scrape`: the bytes in front of `offset` are moved over the `len` bytes
behind it. -/
def mcastForwScrape (data : List U8) (offset len : U16) : List U8 :=
  data.take offset.toNat ++ data.drop (offset.toNat + len.toNat)

/-- `batadv_mcast_forw_shrink_move_headers`.  The numbers are passed on as `u16`. -/
def mcastForwShrinkMoveHeaders (skb : McastSkb) (offset : ℕ) : List U8 :=
  let len := skb.networkOffset + 2 + skb.numDests.toNat * 6
  mcastForwScrape skb.bytes (BitVec.ofNat 16 len) (BitVec.ofNat 16 offset)

/-- `batadv_mcast_forw_shrink_tracker`: the bytes of the packet without its zeroed
destinations. -/
def mcastForwShrinkTracker (skb : McastSkb) : List U8 :=
  let packed := mcastForwShrinkPackDests skb.numDests.toNat skb.dests
  let skb := { skb with dests := packed.1 }
  if packed.2 = 0 then skb.bytes
  else
    let updated := mcastForwShrinkUpdateHeaders skb packed.2
    mcastForwShrinkMoveHeaders updated.1 updated.2

/-! ### Forwarding a packet -/

/-- What forwarding a packet has done so far: the copies that were sent, each with the neighbour it
was sent to, whether the packet is for this node as well, the destinations of the packet, and an
error that it ended with. -/
structure McastForwOut where
  sent : List (List U8 × NeighKey)
  localRecv : Bool
  dests : List EthAddr
  error : Option ℤ
deriving DecidableEq, Repr

/-- The loop of `batadv_mcast_forw_packet`: `before` are the destinations in front of `dest`. -/
def mcastForwLoop (env : McastForwEnv) (skb : McastSkb) :
    ℕ → List EthAddr → List EthAddr → McastForwOut → McastForwOut
  | numDests + 1, before, dest :: dests, out =>
    if isZeroEtherAddr dest then
      mcastForwLoop env skb numDests (before ++ [dest]) dests out
    -- only unicast originator addresses are supported
    else if isMulticastEtherAddr dest then
      mcastForwLoop env skb numDests (before ++ [0]) dests out
    else if env.isMyMac dest then
      mcastForwLoop env skb numDests (before ++ [0]) dests { out with localRecv := true }
    else
      match env.origToRouter dest with
      | none => mcastForwLoop env skb numDests (before ++ [0]) dests out
      | some neigh =>
        if !env.skbCopy (numDests + 1) then
          { out with dests := before ++ dest :: dests, error := some (-ENOMEM) }
        else
          let scrubbed := mcastForwScrubDests env neigh (dest :: dests) (dest :: dests)
          let nexthopSkb := mcastForwShrinkTracker { skb with dests := before ++ scrubbed.2 }
          let out := { out with sent := out.sent ++ [(nexthopSkb, neigh)] }
          if env.sendUnicastSkb (numDests + 1) < 0 then
            { out with
              dests := before ++ scrubbed.1
              error := some (env.sendUnicastSkb (numDests + 1)) }
          else mcastForwLoop env skb numDests (before ++ [0]) scrubbed.1.tail out
  | _, before, dests, out => { out with dests := before ++ dests }

/-- `batadv_mcast_forw_packet`: what it has done, and what it returns. -/
def mcastForwPacket (env : McastForwEnv) (skb : McastSkb) : McastForwOut × ℤ :=
  -- the number of destinations, and all of them, have to be within the network header
  if skb.networkHeaderLen < 0 ∨ skb.networkHeaderLen < 2 + 6 * skb.numDests.toNat then
    (⟨[], false, skb.dests, some (-EINVAL)⟩, -EINVAL)
  else
    let out := mcastForwLoop env skb skb.numDests.toNat [] skb.dests ⟨[], false, skb.dests, none⟩
    match out.error with
    | some err => (out, err)
    | none => (out, if out.localRecv then NET_RX_SUCCESS else NET_RX_DROP)

/-! ### Packing -/

/-- The destinations that are not zero. -/
def mcastDestsLeft (dests : List EthAddr) : List EthAddr :=
  dests.filter fun dest => !isZeroEtherAddr dest

lemma mcastForwTakeFiller_eq_none {dests : List EthAddr} (h : mcastForwTakeFiller dests = none) :
    dests = List.replicate dests.length 0 := by
  induction dests with
  | nil => rfl
  | cons dest dests ih =>
    unfold mcastForwTakeFiller at h
    split_ifs at h with hzero
    rw [Option.map_eq_none_iff] at h
    rw [isZeroEtherAddr, beq_iff_eq] at hzero
    rw [List.length_cons, List.replicate_succ, ← ih h, hzero]

/-- The destination that is taken is the first one that is left. -/
lemma mcastForwTakeFiller_eq_some {dests dests' : List EthAddr} {filler : EthAddr}
    (h : mcastForwTakeFiller dests = some (filler, dests')) :
    isZeroEtherAddr filler = false ∧ dests'.length = dests.length ∧
      mcastDestsLeft dests = filler :: mcastDestsLeft dests' := by
  induction dests generalizing dests' with
  | nil => cases h
  | cons dest dests ih =>
    unfold mcastForwTakeFiller at h
    split_ifs at h with hzero
    · rw [Option.map_eq_some_iff] at h
      obtain ⟨⟨f, fs⟩, htake, heq⟩ := h
      obtain ⟨rfl, rfl⟩ := Prod.mk.inj heq
      obtain ⟨hf, hlen, hleft⟩ := ih htake
      refine ⟨hf, by rw [List.length_cons, List.length_cons, hlen], ?_⟩
      unfold mcastDestsLeft at hleft ⊢
      rw [List.filter_cons_of_neg (by simp [hzero]), List.filter_cons_of_neg (by simp [hzero]),
        hleft]
    · obtain ⟨rfl, rfl⟩ := Prod.mk.inj (Option.some.inj h)
      refine ⟨by simpa using hzero, rfl, ?_⟩
      unfold mcastDestsLeft
      rw [List.filter_cons_of_pos (by simpa using hzero), List.filter_cons_of_neg (by decide)]

/-- **Packing** keeps the destinations that are not zero, in their order, and counts the others.

**Proof sketch.** Induction on the number of slots: a zeroed slot is filled with the first
destination that is left behind it, and if there is none, everything from the slot on is zero. -/
theorem mcastForwShrinkPackDests_eq {n : ℕ} {dests : List EthAddr} (h : dests.length = n) :
    mcastForwShrinkPackDests n dests =
      (mcastDestsLeft dests ++ List.replicate (n - (mcastDestsLeft dests).length) 0,
        n - (mcastDestsLeft dests).length) := by
  induction n generalizing dests with
  | zero =>
    rw [List.length_eq_zero_iff] at h
    subst h
    rfl
  | succ n ih =>
    obtain ⟨slot, dests, rfl⟩ := List.exists_cons_of_length_eq_add_one h
    have hlen : dests.length = n := Nat.succ.inj h
    unfold mcastForwShrinkPackDests
    cases hzero : isZeroEtherAddr slot with
    | false =>
      have hleft : mcastDestsLeft (slot :: dests) = slot :: mcastDestsLeft dests :=
        List.filter_cons_of_pos (by simp [hzero])
      simp only [Bool.not_false, if_true, ih hlen, hleft, List.length_cons, List.cons_append,
        Nat.add_sub_add_right]
    | true =>
      have hleft : mcastDestsLeft (slot :: dests) = mcastDestsLeft dests :=
        List.filter_cons_of_neg (by simp [hzero])
      simp only [Bool.not_true, Bool.false_eq_true, if_false, mcastForwShrinkFill]
      cases htake : mcastForwTakeFiller dests with
      | none =>
        have hall : mcastDestsLeft dests = [] := by
          rw [mcastForwTakeFiller_eq_none htake]
          exact List.filter_eq_nil_iff.2 fun d hd => by simp [List.eq_of_mem_replicate hd,
            isZeroEtherAddr]
        rw [isZeroEtherAddr, beq_iff_eq] at hzero
        rw [hleft, hall, hzero]
        simp only [Option.map_none, List.length_nil, Nat.sub_zero, List.nil_append,
          List.replicate_succ]
        rw [mcastForwTakeFiller_eq_none htake, hlen]
      | some taken =>
        obtain ⟨filler, dests'⟩ := taken
        obtain ⟨hfiller, hlen', htaken⟩ := mcastForwTakeFiller_eq_some htake
        simp only [Option.map_some, ih (hlen'.trans hlen), hleft, htaken, List.length_cons,
          List.cons_append, Nat.add_sub_add_right]

/-! ### Moving the headers -/

/-- A packet with other, fewer destinations: its lengths are less by the removed destinations and by
the padding that is removed or added. -/
def McastSkb.listing (skb : McastSkb) (dests : List EthAddr) : McastSkb :=
  let reduced := skb.numDests.toNat - dests.length
  if reduced = 0 then { skb with dests := dests }
  else
    let updated := mcastForwShrinkUpdateHeaders skb reduced
    { updated.1 with
      dests := dests
      rest := (List.replicate (6 * reduced) 0 ++ skb.rest).drop updated.2 }

/-- Which destinations the packet has does not matter. -/
@[simp] lemma McastSkb.listing_dests (skb : McastSkb) (before dests : List EthAddr) :
    { skb with dests := before }.listing dests = skb.listing dests := rfl

@[simp] lemma McastSkb.dests_listing (skb : McastSkb) (dests : List EthAddr) :
    (skb.listing dests).dests = dests := by
  unfold listing
  dsimp only
  split_ifs <;> rfl

@[simp] lemma McastSkb.pre_listing (skb : McastSkb) (dests : List EthAddr) :
    (skb.listing dests).pre = skb.pre := by
  unfold listing
  dsimp only
  split_ifs <;> rfl

@[simp] lemma McastSkb.between_listing (skb : McastSkb) (dests : List EthAddr) :
    (skb.listing dests).between = skb.between := by
  unfold listing
  dsimp only
  split_ifs <;> rfl

/-- The number of destinations in the headers. -/
lemma McastSkb.numDests_listing {skb : McastSkb} {dests : List EthAddr}
    (h : dests.length ≤ skb.numDests.toNat) :
    (skb.listing dests).numDests.toNat = dests.length := by
  have hlt := skb.numDests.isLt
  unfold listing mcastForwShrinkUpdateHeaders
  dsimp only
  split_ifs with hreduced
  · dsimp only
    omega
  · rw [BitVec.toNat_sub, BitVec.toNat_ofNat]
    omega

lemma length_flatMap_bytes (dests : List EthAddr) :
    (dests.flatMap EthAddr.bytes).length = 6 * dests.length := by
  induction dests with
  | nil => rfl
  | cons dest dests ih =>
    rw [List.flatMap_cons, List.length_append, ih, List.length_cons, EthAddr.bytes]
    simp only [List.length_cons, List.length_nil]
    omega

lemma McastSkb.length_headers (skb : McastSkb) :
    skb.headers.length = skb.networkOffset + 2 := by
  simp only [headers, networkOffset, beBytes, List.length_append, List.length_cons,
    List.length_nil]

/-- The bytes of zeroed destinations. -/
lemma flatMap_bytes_replicate (n : ℕ) :
    (List.replicate n (0 : EthAddr)).flatMap EthAddr.bytes = List.replicate (6 * n) 0 := by
  induction n with
  | zero => rfl
  | succ n ih =>
    rw [List.replicate_succ, List.flatMap_cons, ih, Nat.mul_succ, Nat.add_comm,
      List.replicate_add]
    rfl

/-- **A packet after its zeroed destinations were removed** lists those that are left. -/
theorem mcastForwShrinkTracker_eq {skb : McastSkb} (h : skb.WellFormed) :
    mcastForwShrinkTracker skb = (skb.listing (mcastDestsLeft skb.dests)).bytes := by
  have hle : (mcastDestsLeft skb.dests).length ≤ skb.dests.length := List.length_filter_le _ _
  have hnum := h.numDests
  have hpack := mcastForwShrinkPackDests_eq hnum.symm
  unfold mcastForwShrinkTracker McastSkb.listing
  dsimp only
  rw [hpack]
  dsimp only
  set left := mcastDestsLeft skb.dests with hleft
  set reduced := skb.numDests.toNat - left.length with hreduced
  split_ifs with hzero
  · simp [hzero]
  · -- the headers, the destinations that are left, and what the headers are moved over
    set updated := mcastForwShrinkUpdateHeaders { skb with
      dests := left ++ List.replicate reduced 0 } reduced with hupdated
    have hbytes : updated.1.bytes = (updated.1.headers ++ left.flatMap EthAddr.bytes) ++
        (List.replicate (6 * reduced) 0 ++ skb.rest) := by
      have hdests : updated.1.dests = left ++ List.replicate reduced 0 := rfl
      have hrest : updated.1.rest = skb.rest := rfl
      rw [McastSkb.bytes, hdests, hrest, List.flatMap_append, flatMap_bytes_replicate]
      simp only [List.append_assoc]
    have hnumDests : updated.1.numDests.toNat = left.length := by
      have hlt := skb.numDests.isLt
      change (skb.numDests - BitVec.ofNat 16 reduced).toNat = left.length
      rw [BitVec.toNat_sub, BitVec.toNat_ofNat]
      omega
    have hoffset : updated.1.networkOffset = skb.networkOffset := rfl
    have hlen : (updated.1.headers ++ left.flatMap EthAddr.bytes).length =
        updated.1.networkOffset + 2 + updated.1.numDests.toNat * 6 := by
      rw [List.length_append, McastSkb.length_headers, length_flatMap_bytes, hnumDests]
      omega
    -- neither of the numbers is cut to a `u16`
    have hfits := h.fits
    have hpre := h.length_pre
    have hnet : skb.networkOffset = skb.between.length + 8 := by
      rw [McastSkb.networkOffset, hpre]
      omega
    have hlenFits : updated.1.networkOffset + 2 + updated.1.numDests.toNat * 6 < 2 ^ 16 := by
      rw [hoffset, hnet, hnumDests]
      omega
    have hcut : updated.2 < 2 ^ 16 := by
      change (6 * (reduced : ℤ) + mcastForwShrinkAlignOffset skb.numDests.toNat reduced).toNat < _
      unfold mcastForwShrinkAlignOffset
      split_ifs <;> omega
    rw [mcastForwShrinkMoveHeaders, mcastForwScrape, BitVec.toNat_ofNat, BitVec.toNat_ofNat,
      Nat.mod_eq_of_lt hlenFits, Nat.mod_eq_of_lt hcut, hbytes, ← hlen, List.take_left,
      List.drop_length_add_append]
    rfl

end Batadv
