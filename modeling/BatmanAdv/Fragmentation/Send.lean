import BatmanAdv.Fragmentation.Buffer

set_option relaxedAutoImplicit false
set_option autoImplicit false

/-!
# Sending a packet in fragments (`fragmentation.c`, sending side)

A packet is cut into equal fragments from its tail, which get the numbers 0, 1, ...; the rest, the
head of the packet, becomes the last fragment.

## Main definitions

* `Batadv.FragSendEnv` — what the sender knows and which of its calls succeed.
* `Batadv.fragHeader`, `Batadv.fragSendLoop`, `Batadv.fragSendPacket` — the function
  `batadv_frag_send_packet`, its header and its loop.

## Main results

* `Batadv.fragSendLoop_spec` — the fragments the loop cuts off.
* `Batadv.fragSendPacket_spec` — a packet that needs at most 16 fragments is sent as a
  `Batadv.FragCut`: small enough fragments numbered from 0, with the packet's bytes.
-/

namespace Batadv

/-- `EAGAIN`. -/
def EAGAIN : ℤ := 11

/-- The sender: the next hop's MTU, the addresses, and which calls succeed. -/
structure FragSendEnv where
  /-- `net_dev->mtu` of the interface towards the next hop. -/
  mtu : ℕ
  /-- The address of the selected primary interface. -/
  primaryIf : Option EthAddr
  /-- `orig_node->orig`. -/
  dest : EthAddr
  /-- The packet has no fragment list, or `__skb_linearize` succeeds. -/
  linearize : Bool
  /-- `batadv_frag_create` succeeds for the fragment with the number. -/
  create : BitVec 4 → Bool
  /-- `batadv_send_unicast_skb` returns `NET_XMIT_SUCCESS` for the fragment with the number. -/
  xmit : BitVec 4 → Bool
  /-- `skb_cow_head`. -/
  cowHead : Bool

/-- What the sender did: its return value, the fragments handed to the sending layer, and the
counter `frag_seqno` it leaves. -/
structure FragSent where
  ret : ℤ
  emitted : List FragSkb
  fragSeqno : U32

/-- The priority in the header: the values 256 to 263 indicate an 802.1d priority. -/
def fragPriority (priority : U32) : BitVec 3 :=
  if 256 ≤ priority ∧ priority ≤ 263 then (priority - 256).setWidth 3 else 0

/-- The header that is copied to all fragments. -/
def fragHeader (env : FragSendEnv) (orig : EthAddr) (data : List U8) (priority seqno : U32) :
    FragHeader where
  ttl := TTL
  no := 0
  priority := fragPriority priority
  dest := env.dest
  orig := orig
  seqno := seqno.setWidth 16
  totalSize := BitVec.ofNat 16 data.length

/-- The loop of `batadv_frag_send_packet`, which sends fragments from the tail of the data.  With
the fragments sent it returns the header and the data that are left, or the error it ended with.
`left` is `BATADV_FRAG_MAX_FRAGMENTS - 1 - no`, so that the loop's test for the highest number is
`left = 0`. -/
def fragSendLoop (env : FragSendEnv) (maxFragmentSize : ℕ) :
    (left : ℕ) → FragHeader → List U8 → List FragSkb × Except ℤ FragSkb
  | left, h, data =>
    if data.length ≤ maxFragmentSize then ([], .ok ⟨h, data⟩)
    else
      match left with
      | 0 => ([], .error (-EINVAL))
      | left + 1 =>
        if !env.create h.no then ([], .error (-ENOMEM))
        else
          let skbFragment : FragSkb := ⟨h, data.drop (data.length - maxFragmentSize)⟩
          if !env.xmit h.no then ([skbFragment], .error NET_XMIT_DROP)
          else
            let r := fragSendLoop env maxFragmentSize left { h with no := h.no + 1 }
              (data.take (data.length - maxFragmentSize))
            (skbFragment :: r.1, r.2)

/-- `batadv_frag_send_packet`: create up to 16 fragments from the passed data. -/
def fragSendPacket (env : FragSendEnv) (data : List U8) (priority : U32) (fragSeqno : U32) :
    FragSent :=
  let mtu := min env.mtu FRAG_MAX_FRAG_SIZE
  -- an unsigned difference: an MTU below the header size wraps
  let maxFragmentSize := (mtu + 2 ^ 32 - FRAG_HDR_SIZE) % 2 ^ 32
  if data.length = 0 ∨ maxFragmentSize = 0 then ⟨-EINVAL, [], fragSeqno⟩
  else
    let numFragments := (data.length - 1) / maxFragmentSize + 1
    let maxFragmentSize := (data.length - 1) / numFragments + 1
    if FRAG_MAX_FRAGMENTS < numFragments then ⟨-EAGAIN, [], fragSeqno⟩
    else
      match env.primaryIf with
      | none => ⟨-EINVAL, [], fragSeqno⟩
      | some orig =>
        if !env.linearize then ⟨-ENOMEM, [], fragSeqno⟩
        else
          let fragSeqno := fragSeqno + 1
          let h := fragHeader env orig data priority fragSeqno
          match fragSendLoop env maxFragmentSize (FRAG_MAX_FRAGMENTS - 1) h data with
          | (sent, .error err) => ⟨err, sent, fragSeqno⟩
          | (sent, .ok last) =>
            if !env.cowHead then ⟨-ENOMEM, sent, fragSeqno⟩
            else ⟨if env.xmit last.header.no then 0 else NET_XMIT_DROP, sent ++ [last], fragSeqno⟩

/-! ### The fragments that are sent -/

/-- All calls of the sender succeed. -/
structure FragSendEnv.Ready (env : FragSendEnv) : Prop where
  primaryIf : env.primaryIf.isSome
  linearize : env.linearize = true
  create : ∀ no, env.create no = true
  xmit : ∀ no, env.xmit no = true
  cowHead : env.cowHead = true

/-- The fragments are a packet cut into pieces: numbered from `first`, with headers that differ in
nothing else, each with at least one and at most `maxSize` bytes, and from the last to the first
they have the bytes of the packet. -/
structure FragCut (h : FragHeader) (first maxSize : ℕ) (data : List U8) (sent : List FragSkb) :
    Prop where
  numbers : sent.map (fun skb => skb.header.no.toNat) = List.range' first sent.length
  headers : ∀ skb ∈ sent, skb.header = { h with no := skb.header.no }
  sizes : ∀ skb ∈ sent, 0 < skb.payload.length ∧ skb.payload.length ≤ maxSize
  bytes : sent.reverse.flatMap FragSkb.payload = data

/-- A packet in one piece. -/
lemma FragCut.single {h : FragHeader} {maxSize : ℕ} {data : List U8} (hpos : 0 < data.length)
    (hle : data.length ≤ maxSize) : FragCut h h.no.toNat maxSize data [⟨h, data⟩] where
  numbers := rfl
  headers := by simp
  sizes := by
    intro skb hskb
    rw [List.mem_singleton.1 hskb]
    exact ⟨hpos, hle⟩
  bytes := by simp

/-- A larger bound on the size of the pieces. -/
lemma FragCut.mono {h : FragHeader} {first maxSize maxSize' : ℕ} {data : List U8}
    {sent : List FragSkb} (hcut : FragCut h first maxSize data sent) (hle : maxSize ≤ maxSize') :
    FragCut h first maxSize' data sent :=
  { hcut with
    sizes := fun skb hskb => ⟨(hcut.sizes skb hskb).1, (hcut.sizes skb hskb).2.trans hle⟩ }

/-- One more piece, cut off the tail. -/
lemma FragCut.cons {h : FragHeader} {maxSize n : ℕ} {data : List U8} {sent : List FragSkb}
    (hcut : FragCut { h with no := h.no + 1 } (h.no.toNat + 1) maxSize (data.take n) sent)
    (hlt : n < data.length) (hle : data.length ≤ n + maxSize) :
    FragCut h h.no.toNat maxSize data (⟨h, data.drop n⟩ :: sent) where
  numbers := by rw [List.map_cons, hcut.numbers, List.length_cons, List.range'_succ]
  headers := by
    intro skb hskb
    rcases List.mem_cons.1 hskb with rfl | hskb
    · rfl
    · exact hcut.headers skb hskb
  sizes := by
    intro skb hskb
    rcases List.mem_cons.1 hskb with rfl | hskb
    · simp only [List.length_drop]
      omega
    · exact hcut.sizes skb hskb
  bytes := by
    rw [List.reverse_cons, List.flatMap_append, hcut.bytes]
    simp

/-- **What the loop cuts off.**  If no call fails, and the data fit into the fragments that are
left, the loop sends a packet cut into pieces, up to the last one, which is left.

**Proof sketch.** Induction on the numbers that are left; one round cuts a full fragment off the
tail and leaves data for one fragment fewer. -/
lemma fragSendLoop_spec {env : FragSendEnv} (hready : env.Ready) {maxSize : ℕ} (hmax : 0 < maxSize)
    (left : ℕ) (h : FragHeader) (data : List U8) (hno : h.no.toNat + left = 15)
    (hpos : 0 < data.length) (hfit : data.length ≤ (left + 1) * maxSize) :
    ∃ sent last, fragSendLoop env maxSize left h data = (sent, .ok last) ∧
      (sent ++ [last]).length ≤ left + 1 ∧
      FragCut h h.no.toNat maxSize data (sent ++ [last]) := by
  induction left generalizing h data with
  | zero =>
    have hle : data.length ≤ maxSize := by omega
    refine ⟨[], ⟨h, data⟩, ?_, le_rfl, FragCut.single hpos hle⟩
    rw [fragSendLoop, if_pos hle]
  | succ left ih =>
    by_cases hle : data.length ≤ maxSize
    · refine ⟨[], ⟨h, data⟩, ?_, by simp, FragCut.single hpos hle⟩
      rw [fragSendLoop, if_pos hle]
    · -- a full fragment is cut off, and its number is below the highest one
      have hnext : (h.no + 1).toNat = h.no.toNat + 1 := by
        rw [BitVec.toNat_add]
        simp only [BitVec.ofNat_eq_ofNat, BitVec.toNat_ofNat, Nat.reducePow, Nat.reduceMod]
        omega
      have hrest : (data.take (data.length - maxSize)).length = data.length - maxSize := by
        rw [List.length_take]
        omega
      rw [Nat.succ_mul] at hfit
      obtain ⟨sent, last, hloop, hlen, hcut⟩ :=
        ih { h with no := h.no + 1 } (data.take (data.length - maxSize))
          (by rw [hnext]; omega) (by omega) (by omega)
      refine ⟨⟨h, data.drop (data.length - maxSize)⟩ :: sent, last, ?_, ?_, ?_⟩
      · rw [fragSendLoop, if_neg hle]
        simp only [hready.create, hready.xmit, hloop, Bool.not_true, Bool.false_eq_true, if_false]
      · simp only [List.cons_append, List.length_cons]
        omega
      · rw [hnext] at hcut
        exact hcut.cons (by omega) (by omega)

/-- The pieces of a ceiling division cover what is divided. -/
lemma le_mul_ceil {len num : ℕ} (hnum : 0 < num) : len ≤ num * ((len - 1) / num + 1) := by
  have hdiv := Nat.lt_mul_div_succ (len - 1) hnum
  omega

/-- Dividing into as many pieces as a bound on their size asks for keeps to the bound. -/
lemma ceil_le {len maxSize : ℕ} (hmax : 0 < maxSize) :
    (len - 1) / ((len - 1) / maxSize + 1) + 1 ≤ maxSize := by
  have hdiv := Nat.lt_mul_div_succ (len - 1) hmax
  have hlt : (len - 1) / ((len - 1) / maxSize + 1) < maxSize :=
    Nat.div_lt_of_lt_mul (by rw [Nat.mul_comm]; exact hdiv)
  omega

/-- **A packet that needs at most 16 fragments is sent in at most 16 fragments**, all of them small
enough for the MTU, with the next sequence number and the packet's size in their headers. -/
theorem fragSendPacket_spec {env : FragSendEnv} (hready : env.Ready)
    (hmtu : FRAG_HDR_SIZE < env.mtu) {data : List U8} (hpos : 0 < data.length)
    (hfit : data.length ≤
      FRAG_MAX_FRAGMENTS * (min env.mtu FRAG_MAX_FRAG_SIZE - FRAG_HDR_SIZE))
    (priority fragSeqno : U32) :
    ∃ orig, env.primaryIf = some orig ∧
      (fragSendPacket env data priority fragSeqno).emitted.length ≤ FRAG_MAX_FRAGMENTS ∧
      FragCut (fragHeader env orig data priority (fragSeqno + 1)) 0
        (min env.mtu FRAG_MAX_FRAG_SIZE - FRAG_HDR_SIZE) data
        (fragSendPacket env data priority fragSeqno).emitted := by
  obtain ⟨orig, horig⟩ := Option.isSome_iff_exists.1 hready.primaryIf
  refine ⟨orig, horig, ?_⟩
  set maxSize := min env.mtu FRAG_MAX_FRAG_SIZE - FRAG_HDR_SIZE with hmaxSize
  have hmax : 0 < maxSize ∧
      (min env.mtu FRAG_MAX_FRAG_SIZE + 2 ^ 32 - FRAG_HDR_SIZE) % 2 ^ 32 = maxSize := by
    simp only [hmaxSize, FRAG_MAX_FRAG_SIZE, FRAG_HDR_SIZE] at *
    omega
  have hnum : (data.length - 1) / maxSize + 1 ≤ FRAG_MAX_FRAGMENTS := by
    have hdiv : (data.length - 1) / maxSize < FRAG_MAX_FRAGMENTS :=
      Nat.div_lt_of_lt_mul (by rw [Nat.mul_comm]; omega)
    omega
  have hcover : data.length ≤
      FRAG_MAX_FRAGMENTS * ((data.length - 1) / ((data.length - 1) / maxSize + 1) + 1) :=
    (le_mul_ceil (Nat.succ_pos _)).trans (Nat.mul_le_mul_right _ hnum)
  obtain ⟨sent, last, hloop, hlen, hcut⟩ := fragSendLoop_spec hready (Nat.succ_pos _)
    (FRAG_MAX_FRAGMENTS - 1) (fragHeader env orig data priority (fragSeqno + 1)) data rfl hpos
    hcover
  have hemitted : (fragSendPacket env data priority fragSeqno).emitted = sent ++ [last] := by
    unfold fragSendPacket
    dsimp only
    rw [hmax.2, if_neg (by omega), if_neg (by omega), horig]
    simp only [hready.linearize, hready.cowHead, hloop, Bool.not_true, Bool.false_eq_true, if_false]
  rw [hemitted]
  exact ⟨hlen, hcut.mono (ceil_le hmax.1)⟩

end Batadv
