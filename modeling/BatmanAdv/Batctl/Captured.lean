import BatmanAdv.Batctl.Tcpdump

set_option relaxedAutoImplicit false
set_option autoImplicit false

/-!
# Only captured bytes are read (`batctl/tcpdump.c`)

A dissector that is entered with as many bytes as remain behind its pointer ends, and reads and
writes nothing behind the captured bytes.  An Ethernet frame must moreover have room for its header.
The only dissector that hands over a shorter frame is that of 802.11 frames: its minimum size does
not cover a header with four addresses and QoS.

## Main definitions

* `Batctl.DumpEvent.Inside` — an event that stays inside the captured bytes.
* `Batctl.ReadsCaptured` — a received frame is dissected inside the captured bytes.
* `Batctl.CutQosFrame` — the frames that are not.

## Main results

* `Batctl.captured_parseEthHdr` — the recursive dissection of an Ethernet frame.
* `Batctl.safe_parseWifiHdr_iff` — 802.11 frames.
* `Batctl.tcpdump_reads_captured_iff` — exactly which frames are dissected inside the captured
  bytes.
-/

namespace Batctl

open Batadv

/-! ### Inside the captured bytes -/

/-- **An event stays inside the captured bytes**, of which there are `n`: what is accessed is one of
them, and no dissector is entered with a negative length, or one that is shorter than the header it
reads before it checks it. -/
def DumpEvent.Inside (n : ℕ) : DumpEvent → Prop
  | .access ptr len => ptr + len ≤ n
  | .enter buffLen header => 0 ≤ buffLen.toInt ∧ header ≤ buffLen.toNat

/-- A dissector ends and stays inside the captured bytes, whatever the buffer holds. -/
abbrev Captured (n : ℕ) {α : Type} (x : Dissect α) : Prop := x.AlwaysSafe (DumpEvent.Inside n)

/-- A pointer and the length that remains behind it. -/
structure Remains (n ptr : ℕ) (buffLen : U64) : Prop where
  inside : ptr + buffLen.toNat ≤ n
  small : buffLen.toNat < 2 ^ 63

section Rules

variable {n ptr size k : ℕ} {buffLen : U64}

lemma toNat_sizeT (hk : k < 2 ^ 64) : (sizeT k).toNat = k := by
  rw [sizeT, BitVec.toNat_ofNat, Nat.mod_eq_of_lt hk]

lemma toNat_sub_sizeT (hk : k ≤ buffLen.toNat) :
    (buffLen - sizeT k).toNat = buffLen.toNat - k := by
  have hlt := buffLen.isLt
  have hsize : (sizeT k).toNat = k := toNat_sizeT (by omega)
  rw [BitVec.toNat_sub_of_le, hsize]
  rw [BitVec.le_def, hsize]
  exact hk

lemma toInt_eq_of_small (hsmall : buffLen.toNat < 2 ^ 63) :
    buffLen.toInt = (buffLen.toNat : ℤ) :=
  BitVec.toInt_eq_toNat_of_lt (by omega)

/-- Comparing as `ssize_t`. -/
lemma sle_sizeT_iff (hsmall : buffLen.toNat < 2 ^ 63) (hk : k < 2 ^ 63) :
    buffLen.sle (sizeT k) = true ↔ buffLen.toNat ≤ k := by
  have hsize : (sizeT k).toNat = k := toNat_sizeT (by omega)
  rw [BitVec.sle_iff_toInt_le, toInt_eq_of_small hsmall,
    toInt_eq_of_small (by rw [hsize]; exact hk), hsize, Nat.cast_le]

/-- Comparing as `ssize_t`. -/
lemma sizeT_sle_iff (hsmall : buffLen.toNat < 2 ^ 63) (hk : k < 2 ^ 63) :
    (sizeT k).sle buffLen = true ↔ k ≤ buffLen.toNat := by
  have hsize : (sizeT k).toNat = k := toNat_sizeT (by omega)
  rw [BitVec.sle_iff_toInt_le, toInt_eq_of_small hsmall,
    toInt_eq_of_small (by rw [hsize]; exact hk), hsize, Nat.cast_le]

/-- Comparing as `ssize_t`. -/
lemma slt_sizeT_iff (hsmall : buffLen.toNat < 2 ^ 63) (hk : k < 2 ^ 63) :
    buffLen.slt (sizeT k) = true ↔ buffLen.toNat < k := by
  have hsize : (sizeT k).toNat = k := toNat_sizeT (by omega)
  rw [BitVec.slt_iff_toInt_lt, toInt_eq_of_small hsmall,
    toInt_eq_of_small (by rw [hsize]; exact hk), hsize, Nat.cast_lt]

lemma Remains.header (h : Remains n ptr buffLen) (hk : k ≤ buffLen.toNat) : ptr + k ≤ n := by
  have := h.inside
  omega

/-- Going on behind a header. -/
lemma Remains.advance (h : Remains n ptr buffLen) (hk : k ≤ buffLen.toNat) :
    Remains n (ptr + k) (buffLen - sizeT k) := by
  have hsub := toNat_sub_sizeT hk
  have hinside := h.inside
  have hsmall := h.small
  exact ⟨by omega, by omega⟩

/-- A part of what remains. -/
lemma Remains.take (h : Remains n ptr buffLen) (hk : k ≤ buffLen.toNat) :
    Remains n ptr (sizeT k) := by
  have hinside := h.inside
  have hsmall := h.small
  have hsize : (sizeT k).toNat = k := toNat_sizeT (by omega)
  exact ⟨by omega, by omega⟩

lemma captured_enter {header : ℕ} (hsmall : buffLen.toNat < 2 ^ 63)
    (hheader : header ≤ buffLen.toNat) : Captured n (enter buffLen header) := by
  refine .trace fun e he => ?_
  obtain rfl := List.mem_singleton.mp he
  refine ⟨?_, hheader⟩
  rw [toInt_eq_of_small hsmall]
  exact Int.natCast_nonneg _

/-- An access to a field of a header. -/
lemma inside_field {f : Field} {len : ℕ} (hf : f.off + len ≤ size) (hsize : ptr + size ≤ n) :
    ∀ e ∈ [DumpEvent.access (ptr + f.off) len], e.Inside n := by
  intro e he
  obtain rfl := List.mem_singleton.mp he
  change ptr + f.off + len ≤ n
  omega

lemma captured_load8 {f : Field} (hf : f.off + 1 ≤ size) (hsize : ptr + size ≤ n) :
    Captured n (load8 ptr f) := .trace (inside_field hf hsize)

lemma captured_load16 {f : Field} (hf : f.off + 2 ≤ size) (hsize : ptr + size ≤ n) :
    Captured n (load16 ptr f) := .trace (inside_field hf hsize)

lemma captured_load {f : Field} (hf : f.off + f.len ≤ size) (hsize : ptr + size ≤ n) :
    Captured n (load ptr f) := .trace (inside_field hf hsize)

lemma captured_ntohsInPlace {f : Field} (hf : f.off + 2 ≤ size) (hsize : ptr + size ≤ n) :
    Captured n (ntohsInPlace ptr f) := .trace (inside_field hf hsize)

lemma captured_printf {fields : List Field} (hf : ∀ f ∈ fields, f.off + f.len ≤ size)
    (hsize : ptr + size ≤ n) : Captured n (printf ptr fields) := by
  refine .trace fun e he => ?_
  obtain ⟨f, hmem, rfl⟩ := List.mem_map.mp he
  have := hf f hmem
  change ptr + f.off + f.len ≤ n
  omega

lemma inside_memmove {dest src len : ℕ} (hsrc : src + len ≤ n) (hdest : dest + len ≤ n) :
    ∀ e ∈ [DumpEvent.access src len, DumpEvent.access dest len], e.Inside n := by
  intro e he
  rcases List.mem_cons.mp he with rfl | he
  · exact hsrc
  · obtain rfl := List.mem_singleton.mp he
    exact hdest

lemma captured_memmove {dest src len : ℕ} (hsrc : src + len ≤ n) (hdest : dest + len ≤ n) :
    Captured n (memmove dest src len) := .trace (inside_memmove hsrc hdest)

/-- **A length that is checked.** -/
lemma captured_lenCheck {rest : Dissect Unit} (hk : k < 2 ^ 64)
    (h : k ≤ buffLen.toNat → Captured n rest) : Captured n (lenCheck buffLen (sizeT k) rest) := by
  refine .ite (fun _ => .pure ()) fun hlen => h ?_
  rw [BitVec.lt_def, toNat_sizeT hk] at hlen
  exact not_lt.mp hlen

lemma captured_printEach {fields : List Field} (hf : ∀ f ∈ fields, f.off + f.len ≤ size)
    (num : ℕ) (hsize : ptr + size * num ≤ n) : Captured n (printEach ptr size fields num) := by
  induction num generalizing ptr with
  | zero => exact .pure ()
  | succ num ih =>
    rw [Nat.mul_succ] at hsize
    refine .bind (captured_printf hf (by omega)) fun _ => ih (by omega)

end Rules

/-! ### TVLVs -/

section Tvlv

variable {n ptr : ℕ} {buffLen : U64}

lemma captured_parseFixed {size : ℕ} {fields : List Field}
    (hf : ∀ f ∈ fields, f.off + f.len ≤ size) (hsize : size < 2 ^ 64)
    (h : Remains n ptr buffLen) : Captured n (parseFixed size fields ptr buffLen) := by
  refine .bind (captured_enter h.small (Nat.zero_le _)) fun _ => ?_
  refine .ite (fun _ => .pure ()) fun hlen => captured_printf hf ?_
  have hlen' : buffLen.toNat = size := by rw [not_not.mp hlen, toNat_sizeT hsize]
  exact h.header hlen'.ge

lemma captured_batctlTvlvParseTtV1 (h : Remains n ptr buffLen) :
    Captured n (batctlTvlvParseTtV1 ptr buffLen) := by
  refine .bind (captured_enter h.small (Nat.zero_le _)) fun _ => ?_
  refine captured_lenCheck (by decide) fun hlen => ?_
  have hhdr := h.header hlen
  refine .bind (captured_printf (by decide) hhdr) fun _ => ?_
  refine .bind (captured_load16 (by decide) hhdr) fun numVlan => ?_
  have hnum := numVlan.isLt
  have hvlanLen : TvlvTtData.size + TvlvTtVlanData.size * numVlan.toNat =
      4 + 8 * numVlan.toNat := rfl
  refine captured_lenCheck (by omega) fun hvlan => ?_
  refine .bind (captured_printf (by decide) hhdr) fun _ => ?_
  refine captured_printEach (by decide) _ ?_
  rw [Nat.add_assoc]
  exact h.header hvlan

lemma captured_batctlTvlvParseMcastTrackerV1 (h : Remains n ptr buffLen) :
    Captured n (batctlTvlvParseMcastTrackerV1 ptr buffLen) := by
  have hsmall := h.small
  refine .bind (captured_enter hsmall (Nat.zero_le _)) fun _ => ?_
  refine .ite (fun _ => .pure ()) fun hlen => ?_
  rw [slt_sizeT_iff hsmall (by decide), not_lt] at hlen
  refine .bind (captured_load16 (by decide) (h.header hlen)) fun numDests => ?_
  have hnum := numDests.isLt
  have htvlvLen : TvlvMcastTracker.size + numDests.toNat * 6 = 2 + numDests.toNat * 6 := rfl
  refine .ite (fun _ => .pure ()) fun hdests => ?_
  rw [slt_sizeT_iff hsmall (by omega), not_lt] at hdests
  refine captured_printEach (by decide) _ ?_
  rw [Nat.add_assoc, Nat.mul_comm 6]
  exact h.header hdests

/-- **Every parser** stays inside its container. -/
lemma captured_tvlvParse (type version : U8) (h : Remains n ptr buffLen) :
    Captured n (tvlvParse type version ptr buffLen) := by
  unfold tvlvParse tvlvParserGet
  split_ifs
  · exact captured_parseFixed (by decide) (by decide) h
  · exact .pure ()
  · exact captured_parseFixed (by decide) (by decide) h
  · exact .pure ()
  · exact captured_parseFixed (by decide) (by decide) h
  · exact .pure ()
  · exact captured_batctlTvlvParseTtV1 h
  · exact .pure ()
  · exact captured_parseFixed (by decide) (by decide) h
  · exact .pure ()
  · exact captured_parseFixed (by decide) (by decide) h
  · exact captured_parseFixed (by decide) (by decide) h
  · exact .pure ()
  · exact captured_batctlTvlvParseMcastTrackerV1 h
  · exact .pure ()
  · exact .pure ()

/-- **The loop over the containers** ends and stays inside them. -/
lemma captured_dumpTvlvLoop {fuel : ℕ} (hfuel : buffLen.toNat < fuel)
    (h : Remains n ptr buffLen) : Captured n (dumpTvlvLoop fuel ptr buffLen) := by
  induction fuel generalizing ptr buffLen with
  | zero => exact absurd hfuel (Nat.not_lt_zero _)
  | succ fuel ih =>
    refine .ite (fun hmore => ?_) fun _ => .pure ()
    rw [sizeT_sle_iff h.small (by decide)] at hmore
    have hhdr := h.header hmore
    have hbehind := h.advance hmore
    have hsub := toNat_sub_sizeT hmore
    have hsize : TvlvHdr.size = 4 := rfl
    refine .bind (captured_load16 (by decide) hhdr) fun len => ?_
    have hlen := len.isLt
    refine captured_lenCheck (by omega) fun hcontainer => ?_
    refine .bind (captured_load8 (by decide) hhdr) fun type => ?_
    refine .bind (captured_load8 (by decide) hhdr) fun version => ?_
    refine .bind (captured_tvlvParse type version (hbehind.take hcontainer)) fun _ => ?_
    have hnext := hbehind.advance hcontainer
    have hnextLen := toNat_sub_sizeT hcontainer
    exact ih (by omega) hnext

lemma captured_dumpTvlv {fuel : ℕ} (hfuel : buffLen.toNat < fuel) (h : Remains n ptr buffLen) :
    Captured n (dumpTvlv fuel ptr buffLen) :=
  .bind (captured_enter h.small (Nat.zero_le _)) fun _ => captured_dumpTvlvLoop hfuel h

end Tvlv

/-! ### ARP and IP -/

section Payload

variable {n ptr ethHdr : ℕ} {buffLen : U64}

lemma captured_dumpBla2Claim (hptr : ptr + EtherArp.size ≤ n)
    (heth : ethHdr + EtherHeader.size ≤ n) : Captured n (dumpBla2Claim ethHdr ptr) := by
  have hdst : ptr + EtherArp.arpTha.off + BlaClaimDst.size ≤ n := by
    have hsizes : EtherArp.arpTha.off + BlaClaimDst.size ≤ EtherArp.size := by decide
    omega
  refine .bind (captured_load16 (by decide) hptr) fun arHrd => ?_
  refine .ite (fun _ => .pure _) fun _ => ?_
  refine .bind (captured_load16 (by decide) hptr) fun arPro => ?_
  refine .ite (fun _ => .pure _) fun _ => ?_
  refine .bind (captured_load8 (by decide) hptr) fun arHln => ?_
  refine .ite (fun _ => .pure _) fun _ => ?_
  refine .bind (captured_load8 (by decide) hptr) fun arPln => ?_
  refine .ite (fun _ => .pure _) fun _ => ?_
  refine .bind (captured_load (by decide) hdst) fun magic => ?_
  refine .ite (fun _ => .pure _) fun _ => ?_
  refine .bind (captured_load8 (by decide) hdst) fun type => ?_
  refine .ite (fun _ => ?_) fun _ => .ite (fun _ => ?_) fun _ => .ite (fun _ => ?_) fun _ => ?_
  · refine .bind (captured_printf (by decide) hptr) fun _ => ?_
    refine .bind (captured_printf (by decide) heth) fun _ => ?_
    exact .bind (captured_printf (by decide) hdst) fun _ => .pure _
  · refine .bind (captured_printf (by decide) heth) fun _ => ?_
    refine .bind (captured_printf (by decide) hdst) fun _ => ?_
    exact .bind (captured_printf (by decide) hptr) fun _ => .pure _
  · exact .bind (captured_printf (by decide) heth) fun _ => .pure _
  · exact .bind (captured_printf (by decide) hdst) fun _ => .pure _

lemma captured_dumpArp (h : Remains n ptr buffLen) (heth : ethHdr + EtherHeader.size ≤ n) :
    Captured n (dumpArp ptr buffLen ethHdr) := by
  refine .bind (captured_enter h.small (Nat.zero_le _)) fun _ => ?_
  refine captured_lenCheck (by decide) fun hlen => ?_
  have hhdr := h.header hlen
  refine .bind (captured_load16 (by decide) hhdr) fun arpOp => ?_
  refine .ite (fun _ => captured_printf (by decide) hhdr) fun _ => .ite (fun _ => ?_) fun _ =>
    captured_printf (by decide) hhdr
  refine .bind (captured_dumpBla2Claim hhdr heth) fun isClaim => ?_
  exact .ite (fun _ => .pure ()) fun _ => captured_printf (by decide) hhdr

variable {hdrLen : ℕ}

lemma captured_dumpTcp (h : Remains n ptr buffLen) (hhdr : hdrLen ≤ buffLen.toNat) :
    Captured n (dumpTcp ptr buffLen hdrLen) := by
  refine .bind (captured_enter h.small (Nat.zero_le _)) fun _ => ?_
  refine captured_lenCheck (by decide) fun hlen => ?_
  exact captured_printf (by decide) ((h.advance hhdr).header hlen)

lemma captured_dumpUdp (h : Remains n ptr buffLen) (hhdr : hdrLen ≤ buffLen.toNat) :
    Captured n (dumpUdp ptr buffLen hdrLen) := by
  refine .bind (captured_enter h.small (Nat.zero_le _)) fun _ => ?_
  refine captured_lenCheck (by decide) fun hlen => ?_
  have hudp := h.advance hhdr
  refine .bind (captured_printf (by decide) (hudp.header hlen)) fun _ => ?_
  refine .bind (captured_load16 (by decide) (hudp.header hlen)) fun dest => ?_
  refine .ite (fun _ => ?_) fun _ => .ite (fun _ => .pure ()) fun _ =>
    captured_printf (by decide) (hudp.header hlen)
  refine captured_lenCheck (by decide) fun hdhcp => ?_
  exact captured_printf (by decide) ((hudp.advance hlen).header hdhcp)

lemma captured_dumpIcmpv6 (h : Remains n ptr buffLen) (hip : Ip6Hdr.size ≤ buffLen.toNat) :
    Captured n (dumpIcmpv6 ptr buffLen) := by
  have hicmp := h.advance hip
  refine captured_lenCheck (by decide) fun hlen => ?_
  have hhdr := hicmp.header hlen
  refine .bind (captured_load8 (by decide) hhdr) fun type => ?_
  refine .ite (fun _ => .pure ()) fun _ => .ite (fun _ => captured_printf (by decide) hhdr)
    fun _ => .ite (fun _ => ?_) fun _ => .ite (fun _ => .pure ()) fun _ => .ite (fun _ => ?_)
    fun _ => captured_printf (by decide) hhdr
  · refine .bind (captured_printf (by decide) hhdr) fun _ => ?_
    exact captured_printf (by decide) (h.header hip)
  · refine captured_lenCheck (by decide) fun hnd => ?_
    exact captured_printf (by decide) (hicmp.header hnd)

lemma captured_dumpIpv6 (h : Remains n ptr buffLen) : Captured n (dumpIpv6 ptr buffLen) := by
  refine .bind (captured_enter h.small (Nat.zero_le _)) fun _ => ?_
  refine captured_lenCheck (by decide) fun hlen => ?_
  have hhdr := h.header hlen
  refine .bind (captured_printf (by decide) hhdr) fun _ => ?_
  refine .bind (captured_load8 (by decide) hhdr) fun nxt => ?_
  exact .ite (fun _ => captured_dumpIcmpv6 h hlen) fun _ =>
    .ite (fun _ => captured_dumpTcp h hlen) fun _ =>
    .ite (fun _ => captured_dumpUdp h hlen) fun _ => captured_printf (by decide) hhdr

lemma ihlLen_lt (versionIhl : U8) : ihlLen versionIhl < 2 ^ 64 := by
  have hlt := (versionIhl &&& 0x0f).isLt
  unfold ihlLen
  omega

lemma captured_dumpPortUnreach (h : Remains n ptr buffLen) (hicmp : IcmpHdr.size ≤ buffLen.toNat) :
    Captured n (dumpPortUnreach ptr buffLen) := by
  have hinner := h.advance hicmp
  refine captured_lenCheck (by decide) fun hlen => ?_
  refine .bind (captured_load8 (by decide) (hinner.header hlen)) fun versionIhl => ?_
  refine captured_lenCheck (ihlLen_lt versionIhl) fun hihl => ?_
  refine captured_lenCheck (by decide) fun _ => ?_
  refine captured_lenCheck (by decide) fun hudp => ?_
  exact captured_printf (by decide) ((hinner.advance hihl).header hudp)

lemma captured_dumpIcmp (h : Remains n ptr buffLen) : Captured n (dumpIcmp ptr buffLen) := by
  refine captured_lenCheck (by decide) fun hlen => ?_
  have hhdr := h.header hlen
  refine .bind (captured_load8 (by decide) hhdr) fun type => ?_
  refine .ite (fun _ => captured_printf (by decide) hhdr) fun _ => .ite (fun _ => ?_) fun _ =>
    .ite (fun _ => .pure ()) fun _ => captured_printf (by decide) hhdr
  refine .bind (captured_load8 (by decide) hhdr) fun code => ?_
  exact .ite (fun _ => captured_dumpPortUnreach h hlen) fun _ => captured_printf (by decide) hhdr

lemma captured_dumpIp (h : Remains n ptr buffLen) : Captured n (dumpIp ptr buffLen) := by
  refine .bind (captured_enter h.small (Nat.zero_le _)) fun _ => ?_
  refine captured_lenCheck (by decide) fun hlen => ?_
  have hhdr := h.header hlen
  refine .bind (captured_load8 (by decide) hhdr) fun versionIhl => ?_
  refine captured_lenCheck (ihlLen_lt versionIhl) fun hihl => ?_
  refine captured_lenCheck (by decide) fun _ => ?_
  refine .bind (captured_printf (by decide) hhdr) fun _ => ?_
  refine .bind (captured_load8 (by decide) hhdr) fun protocol => ?_
  exact .ite (fun _ => captured_dumpIcmp (h.advance hihl)) fun _ =>
    .ite (fun _ => captured_dumpTcp h hihl) fun _ =>
    .ite (fun _ => captured_dumpUdp h hihl) fun _ => captured_printf (by decide) hhdr

end Payload

/-! ### Ethernet frames -/

section Ethernet

variable {n ptr fuel : ℕ} {buffLen : U64} {parse : EthParser}

/-- A dissector of Ethernet frames that are shorter than a bound stays inside the captured bytes, if
the frames have room for their header. -/
def ParsesBelow (n bound : ℕ) (parse : EthParser) : Prop :=
  ∀ (ptr : ℕ) (buffLen : U64) (timePrinted : Bool), Remains n ptr buffLen →
    EtherHeader.size ≤ buffLen.toNat → buffLen.toNat < bound →
      Captured n (parse ptr buffLen timePrinted)

lemma captured_dumpVlan (hparse : ParsesBelow n buffLen.toNat parse)
    (h : Remains n ptr buffLen) : Captured n (dumpVlan parse ptr buffLen) := by
  refine .bind (captured_enter h.small (Nat.zero_le _)) fun _ => ?_
  refine captured_lenCheck (by decide) fun hlen => ?_
  have hsizes : EtherHeader.size + VlanHdr.size = 18 := rfl
  have heth : EtherHeader.size = 14 := rfl
  have hinside := h.inside
  have hvlan : ptr + EtherHeader.size + VlanHdr.size ≤ n := by omega
  have hfour : 4 ≤ buffLen.toNat := by omega
  have hsub := toNat_sub_sizeT hfour
  refine .bind (captured_ntohsInPlace (by decide) hvlan) fun _ => ?_
  refine .bind (captured_printf (by decide) hvlan) fun _ => ?_
  refine .bind (captured_memmove (by omega) (by omega)) fun _ => ?_
  exact hparse _ _ _ (h.advance hfour) (by omega) (by omega)

variable {size : ℕ} {fields : List Field}

lemma captured_dumpHeader (hf : ∀ f ∈ fields, f.off + f.len ≤ size) (hsize : size < 2 ^ 64)
    (h : Remains n ptr buffLen) (heth : EtherHeader.size ≤ buffLen.toNat) :
    Captured n (dumpHeader size fields ptr buffLen) := by
  refine .bind (captured_enter h.small (Nat.zero_le _)) fun _ => ?_
  refine captured_lenCheck hsize fun hlen => ?_
  refine .bind (captured_printf (by decide) (h.header heth)) fun _ => ?_
  exact captured_printf hf ((h.advance heth).header hlen)

lemma captured_dumpUnpacked (hparse : ParsesBelow n buffLen.toNat parse)
    (hf : ∀ f ∈ fields, f.off + f.len ≤ size) (hsize : size < 2 ^ 64)
    (h : Remains n ptr buffLen) (heth : EtherHeader.size ≤ buffLen.toNat) :
    Captured n (dumpUnpacked size fields parse ptr buffLen) := by
  have hbehind := h.advance heth
  have hsub := toNat_sub_sizeT heth
  have hethSize : EtherHeader.size = 14 := rfl
  refine .bind (captured_enter h.small (Nat.zero_le _)) fun _ => ?_
  refine captured_lenCheck hsize fun hlen => ?_
  have hinner := toNat_sub_sizeT hlen
  refine captured_lenCheck (by decide) fun hunpacked => ?_
  refine .bind (captured_printf (by decide) (h.header heth)) fun _ => ?_
  refine .bind (captured_printf hf (hbehind.header hlen)) fun _ => ?_
  exact hparse _ _ _ (hbehind.advance hlen) hunpacked (by omega)

lemma captured_dumpOgm {tvlvLenField : Field} (hfuel : buffLen.toNat ≤ fuel)
    (hfield : tvlvLenField.off + 2 ≤ size) (hf : ∀ f ∈ fields, f.off + f.len ≤ size)
    (hsize : size < 2 ^ 64) (h : Remains n ptr buffLen) (heth : EtherHeader.size ≤ buffLen.toNat) :
    Captured n (dumpOgm size tvlvLenField fields fuel ptr buffLen) := by
  have hbehind := h.advance heth
  have hsub := toNat_sub_sizeT heth
  have hethSize : EtherHeader.size = 14 := rfl
  refine .bind (captured_enter h.small (Nat.zero_le _)) fun _ => ?_
  refine captured_lenCheck hsize fun hlen => ?_
  have hhdr := hbehind.header hlen
  have htvlvs := hbehind.advance hlen
  have hrest := toNat_sub_sizeT hlen
  refine .bind (captured_load16 hfield hhdr) fun tvlvLen => ?_
  have htvlvLen := tvlvLen.isLt
  refine .bind (captured_printf (by decide) (h.header heth)) fun _ => ?_
  refine .bind (captured_printf hf hhdr) fun _ => ?_
  refine captured_lenCheck (by omega) fun hcontainers => ?_
  have htoNat : (sizeT tvlvLen.toNat).toNat = tvlvLen.toNat := toNat_sizeT (by omega)
  exact captured_dumpTvlv (by omega) (htvlvs.take hcontainers)

lemma captured_dumpBatmanIcmp (h : Remains n ptr buffLen)
    (heth : EtherHeader.size ≤ buffLen.toNat) : Captured n (dumpBatmanIcmp ptr buffLen) := by
  have hbehind := h.advance heth
  refine .bind (captured_enter h.small (Nat.zero_le _)) fun _ => ?_
  refine captured_lenCheck (by decide) fun hlen => ?_
  have hhdr := hbehind.header hlen
  refine .bind (captured_printf (by decide) hhdr) fun _ => ?_
  refine .bind (captured_load8 (by decide) hhdr) fun msgType => ?_
  refine .ite (fun _ => captured_printf (by decide) hhdr) fun _ => .ite (fun _ => ?_) fun _ =>
    captured_printf (by decide) hhdr
  exact captured_lenCheck (by decide) fun htp =>
    captured_printf (by decide) (hbehind.header htp)

lemma captured_dumpBatmanMcast (hparse : ParsesBelow n buffLen.toNat parse)
    (hfuel : buffLen.toNat ≤ fuel) (h : Remains n ptr buffLen)
    (heth : EtherHeader.size ≤ buffLen.toNat) :
    Captured n (dumpBatmanMcast fuel parse ptr buffLen) := by
  have hbehind := h.advance heth
  have hsub := toNat_sub_sizeT heth
  have hethSize : EtherHeader.size = 14 := rfl
  refine .bind (captured_enter h.small (Nat.zero_le _)) fun _ => ?_
  refine captured_lenCheck (by decide) fun hlen => ?_
  have hhdr := hbehind.header hlen
  have htvlvs := hbehind.advance hlen
  have hrest := toNat_sub_sizeT hlen
  refine .bind (captured_load16 (by decide) hhdr) fun tvlvLen => ?_
  have htvlvLen := tvlvLen.isLt
  refine captured_lenCheck (by omega) fun hcontainers => ?_
  have hpayload := htvlvs.advance hcontainers
  have hpayloadLen := toNat_sub_sizeT hcontainers
  have htoNat : (sizeT tvlvLen.toNat).toNat = tvlvLen.toNat := toNat_sizeT (by omega)
  have hdump : Captured n (dumpTvlv fuel (ptr + EtherHeader.size + McastPacket.size)
      (sizeT tvlvLen.toNat)) := captured_dumpTvlv (by omega) (htvlvs.take hcontainers)
  refine .bind (captured_printf (by decide) (h.header heth)) fun _ => ?_
  refine .bind (captured_printf (by decide) hhdr) fun _ => ?_
  refine .ite (fun hmore => ?_) fun _ => hdump
  rw [sizeT_sle_iff hpayload.small (by decide)] at hmore
  refine .bind (captured_printf (by decide) (hpayload.header hmore)) fun _ => ?_
  exact .bind (hparse _ _ _ hpayload hmore (by omega)) fun _ => hdump

lemma captured_dumpBatmanUcastTvlv (hfuel : buffLen.toNat ≤ fuel) (h : Remains n ptr buffLen)
    (heth : EtherHeader.size ≤ buffLen.toNat) :
    Captured n (dumpBatmanUcastTvlv fuel ptr buffLen) := by
  have hbehind := h.advance heth
  have hsub := toNat_sub_sizeT heth
  have hethSize : EtherHeader.size = 14 := rfl
  refine .bind (captured_enter h.small (Nat.zero_le _)) fun _ => ?_
  refine captured_lenCheck (by decide) fun hlen => ?_
  have hhdr := hbehind.header hlen
  have htvlvs := hbehind.advance hlen
  have hrest := toNat_sub_sizeT hlen
  refine .bind (captured_load16 (by decide) hhdr) fun tvlvLen => ?_
  have htvlvLen := tvlvLen.isLt
  refine captured_lenCheck (by omega) fun hcontainers => ?_
  have htoNat : (sizeT tvlvLen.toNat).toNat = tvlvLen.toNat := toNat_sizeT (by omega)
  refine .bind (captured_printf (by decide) hhdr) fun _ => ?_
  exact captured_dumpTvlv (by omega) (htvlvs.take hcontainers)

/-- **The packets of batman-adv**, where nested frames are shorter. -/
lemma captured_parseBatmanHdr (opts : DumpOpts) (hparse : ParsesBelow n buffLen.toNat parse)
    (hfuel : buffLen.toNat ≤ fuel) (h : Remains n ptr buffLen) :
    Captured n (parseBatmanHdr opts fuel parse ptr buffLen) := by
  have hethSize : EtherHeader.size = 14 := rfl
  refine captured_lenCheck (by decide) fun hlen => ?_
  have heth : EtherHeader.size ≤ buffLen.toNat := by omega
  have hpacket : ptr + EtherHeader.size + 2 ≤ n := h.header hlen
  refine .bind (captured_load8 (by decide) hpacket) fun version => ?_
  refine .ite (fun _ => .pure ()) fun _ => ?_
  refine .bind (captured_load8 (by decide) hpacket) fun packetType => ?_
  have hshown {type : U16} {dump : Dissect Unit} (hdump : Captured n dump) :
      Captured n (if opts.shows type then dump else pure ()) :=
    .ite (fun _ => hdump) fun _ => .pure ()
  dsimp only
  refine .ite (fun _ => hshown (captured_dumpOgm hfuel (by decide) (by decide) (by decide) h heth))
    fun _ => ?_
  refine .ite (fun _ => hshown (captured_dumpOgm hfuel (by decide) (by decide) (by decide) h heth))
    fun _ => ?_
  refine .ite (fun _ => hshown (captured_dumpHeader (by decide) (by decide) h heth)) fun _ => ?_
  refine .ite (fun _ => hshown (captured_dumpBatmanIcmp h heth)) fun _ => ?_
  refine .ite (fun _ => hshown (captured_dumpUnpacked hparse (by decide) (by decide) h heth))
    fun _ => ?_
  refine .ite (fun _ => hshown (captured_dumpHeader (by decide) (by decide) h heth)) fun _ => ?_
  refine .ite (fun _ => hshown (captured_dumpUnpacked hparse (by decide) (by decide) h heth))
    fun _ => ?_
  refine .ite (fun _ => hshown (captured_dumpBatmanMcast hparse hfuel h heth)) fun _ => ?_
  refine .ite (fun _ => hshown (captured_dumpHeader (by decide) (by decide) h heth)) fun _ => ?_
  refine .ite (fun _ => hshown (captured_dumpUnpacked hparse (by decide) (by decide) h heth))
    fun _ => ?_
  refine .ite (fun _ => ?_) fun _ => .pure ()
  exact .ite (fun _ => captured_dumpBatmanUcastTvlv hfuel h heth) fun _ => .pure ()

/-- **The recursive dissection of an Ethernet frame** ends and stays inside the captured bytes, if
the frame has room for its header.

**Proof sketch.** Induction on the fuel: every frame that is nested is shorter, and it was checked
that it has room for a header. -/
theorem captured_parseEthHdr (opts : DumpOpts) (fuel : ℕ) :
    ParsesBelow n fuel (parseEthHdr opts fuel) := by
  induction fuel with
  | zero =>
    intro ptr buffLen timePrinted _ _ hfuel
    exact absurd hfuel (Nat.not_lt_zero _)
  | succ fuel ih =>
    intro ptr buffLen timePrinted h heth hfuel
    have hless : buffLen.toNat ≤ fuel := Nat.lt_succ_iff.mp hfuel
    have hnested : ParsesBelow n buffLen.toNat (parseEthHdr opts fuel) :=
      fun ptr' buffLen' timePrinted' h' heth' hlt =>
        ih ptr' buffLen' timePrinted' h' heth' (hlt.trans_le hless)
    have hhdr := h.header heth
    have hpayload := h.advance heth
    have hnonbat {dump : Dissect Unit} (hdump : Captured n dump) :
        Captured n (if opts.shows 256 ∨ timePrinted then dump else pure ()) :=
      .ite (fun _ => hdump) fun _ => .pure ()
    refine .bind (captured_enter h.small heth) fun _ => ?_
    refine .bind (captured_load16 (by decide) hhdr) fun etherType => ?_
    dsimp only
    refine .ite (fun _ => hnonbat (captured_dumpArp hpayload hhdr)) fun _ => ?_
    refine .ite (fun _ => hnonbat (captured_dumpIp hpayload)) fun _ => ?_
    refine .ite (fun _ => hnonbat (captured_dumpIpv6 hpayload)) fun _ => ?_
    refine .ite (fun _ => hnonbat (captured_dumpVlan hnested h)) fun _ => ?_
    exact .ite (fun _ => captured_parseBatmanHdr opts hnested hless h) fun _ => .pure ()

end Ethernet

/-! ### 802.11 frames -/

/-- A frame control field of a QoS data frame with four addresses that is not encrypted. -/
structure CutFrameControl (fc : U16) : Prop where
  data : fc &&& IEEE80211_FCTL_FTYPE = IEEE80211_FTYPE_DATA
  plain : fc &&& IEEE80211_FCTL_PROTECTED = 0
  toDs : fc &&& IEEE80211_FCTL_TODS ≠ 0
  fromDs : fc &&& IEEE80211_FCTL_FROMDS ≠ 0
  qos : fc &&& IEEE80211_STYPE_QOS_DATA ≠ 0

section Wifi

variable {n ptr fuel : ℕ} {buffLen : U64} {opts : DumpOpts} {m : ℕ → U8}

/-- The minimum size covers all headers but the longest one. -/
lemma wifiHdrLen_cases (fc : U16) :
    wifiHdrLen fc ≤ 24 ∨ wifiHdrLen fc = 26 ∧ fc &&& IEEE80211_FCTL_TODS ≠ 0 ∧
      fc &&& IEEE80211_FCTL_FROMDS ≠ 0 ∧ fc &&& IEEE80211_STYPE_QOS_DATA ≠ 0 := by
  unfold wifiHdrLen
  split_ifs with hds hqos
  · exact Or.inr ⟨rfl, hds.2, hds.1, hqos⟩
  · exact Or.inl (by decide)
  · exact Or.inl (by decide)
  · exact Or.inl (by decide)

lemma wifiHdrLen_of_cut {fc : U16} (h : CutFrameControl fc) : wifiHdrLen fc = 26 := by
  unfold wifiHdrLen
  rw [if_pos ⟨h.fromDs, h.toDs⟩, if_pos h.qos]
  rfl

lemma wifiShost_off_le (fc : U16) : (wifiShost fc).off ≤ 24 := by
  unfold wifiShost
  split_ifs <;> decide

lemma wifiDhost_off_le (fc : U16) : (wifiDhost fc).off ≤ 24 := by
  unfold wifiDhost
  split_ifs <;> decide

/-- A frame without room for its header is not dissected inside the captured bytes. -/
lemma not_safe_parseEthHdr {timePrinted : Bool} (hshort : buffLen.toNat < EtherHeader.size) :
    ¬ (parseEthHdr opts fuel ptr buffLen timePrinted).Safe (DumpEvent.Inside n) m := by
  intro hsafe
  cases fuel with
  | zero =>
    obtain ⟨r, hr, -⟩ := hsafe
    exact absurd hr.symm (Option.some_ne_none r)
  | succ fuel =>
    have henter := (TracedProg.safe_trace_bind_iff.mp hsafe).1 _ (List.mem_singleton_self _)
    exact absurd henter.2 (not_le.mpr hshort)

/-- What follows the frame control field. -/
lemma safe_parseWifiFrame_iff (fc : U16) (h : Remains n ptr buffLen) (hfuel : buffLen.toNat < fuel)
    (hmin : 39 ≤ buffLen.toNat) :
    (parseWifiFrame opts fuel ptr buffLen fc).Safe (DumpEvent.Inside n) m ↔
      ¬ (buffLen.toNat = 39 ∧ CutFrameControl fc) := by
  unfold parseWifiFrame
  by_cases hdata : fc &&& IEEE80211_FCTL_FTYPE ≠ IEEE80211_FTYPE_DATA
  · rw [if_pos hdata]
    exact iff_of_true (TracedProg.safe_pure _) fun hcut => hdata hcut.2.data
  by_cases hprotected : fc &&& IEEE80211_FCTL_PROTECTED ≠ 0
  · rw [if_neg hdata, if_pos hprotected]
    exact iff_of_true (TracedProg.safe_pure _) fun hcut => hprotected hcut.2.plain
  have hcases := wifiHdrLen_cases fc
  have hroom : ¬ buffLen.sle (sizeT (wifiHdrLen fc)) = true := by
    rw [sle_sizeT_iff h.small (by omega)]
    omega
  have hhdr : wifiHdrLen fc ≤ buffLen.toNat := by omega
  have hsub := toNat_sub_sizeT hhdr
  have hinside := h.inside
  have hshost := wifiShost_off_le fc
  have hdhost := wifiDhost_off_le fc
  have hoffs : EtherHeader.etherShost.off = 6 ∧ EtherHeader.etherDhost.off = 0 := ⟨rfl, rfl⟩
  have hethSize : EtherHeader.size = 14 := rfl
  rw [if_neg hdata, if_neg hprotected, if_neg hroom]
  refine TracedProg.safe_trace_bind_iff.trans
    ((and_iff_right (inside_memmove (by omega) (by omega))).trans ?_)
  refine TracedProg.safe_trace_bind_iff.trans
    ((and_iff_right (inside_memmove (by omega) (by omega))).trans ?_)
  by_cases hshort : (buffLen - sizeT (wifiHdrLen fc)).toNat < EtherHeader.size
  · -- only the longest header leaves less than an Ethernet header
    obtain ⟨-, htoDs, hfromDs, hqos⟩ := hcases.resolve_left (by omega)
    have hcut : CutFrameControl fc :=
      ⟨not_not.mp hdata, not_not.mp hprotected, htoDs, hfromDs, hqos⟩
    have hlen := wifiHdrLen_of_cut hcut
    exact iff_of_false (not_safe_parseEthHdr hshort) (not_not.mpr ⟨by omega, hcut⟩)
  · refine iff_of_true (captured_parseEthHdr opts fuel _ _ _ (h.advance hhdr) (not_lt.mp hshort)
      (by omega) _) fun hcut => hshort ?_
    have hlen := wifiHdrLen_of_cut hcut.2
    omega

/-- **802.11 frames** are dissected inside the captured bytes, unless they have four addresses and
QoS, and one byte less than their header needs. -/
theorem safe_parseWifiHdr_iff (h : Remains n ptr buffLen) (hfuel : buffLen.toNat < fuel) :
    (parseWifiHdr opts fuel ptr buffLen).Safe (DumpEvent.Inside n) m ↔
      ¬ (buffLen.toNat = 39 ∧ CutFrameControl (m ptr ++ m (ptr + 1))) := by
  have hinside := h.inside
  have henter : ∀ e ∈ [DumpEvent.enter buffLen 0], e.Inside n :=
    TracedProg.safe_trace_iff.mp (captured_enter h.small (Nat.zero_le _) m)
  unfold parseWifiHdr
  refine TracedProg.safe_trace_bind_iff.trans ((and_iff_right henter).trans ?_)
  by_cases hmin : buffLen.toNat ≤ 38
  · rw [if_pos ((sle_sizeT_iff h.small (by decide)).mpr hmin)]
    exact iff_of_true (TracedProg.safe_pure _) fun hcut => by omega
  · have hload : ∀ e ∈ [DumpEvent.access (ptr + Ieee80211Hdr.frameControl.off) 2],
        e.Inside n := by
      have hsize : ptr + Ieee80211Hdr.size ≤ n := by
        have hhdrSize : Ieee80211Hdr.size = 30 := rfl
        omega
      exact inside_field (by decide) hsize
    rw [if_neg (mt (sle_sizeT_iff h.small (by decide)).mp hmin)]
    refine TracedProg.safe_trace_bind_iff.trans ((and_iff_right hload).trans ?_)
    exact safe_parseWifiFrame_iff _ h hfuel (by omega)

end Wifi

/-! ### Received frames -/

/-- **A received frame is dissected inside the captured bytes**: the dissection ends, and everything
it reads is one of them. -/
def ReadsCaptured (opts : DumpOpts) (hwType : ℤ) (stale : ℕ → U8) (frame : List U8) : Prop :=
  (tcpdumpRecv opts hwType ((captured frame).length + 1) (sizeT (captured frame).length)).Safe
    (DumpEvent.Inside (captured frame).length) (packetBuff stale frame)

/-- The length of the header that a monitor interface puts in front of a frame. -/
def monitorLen (hwType : ℤ) (bytes : List U8) : Option ℕ :=
  if hwType = ARPHRD_IEEE80211_PRISM then some PRISM_HEADER_LEN
  else if hwType = ARPHRD_IEEE80211_RADIOTAP then
    some (bytes.getD 3 0 ++ bytes.getD 2 0).toNat
  else none

/-- **The frames that are not**: 39 bytes of a QoS data frame with four addresses, behind the header
of a monitor interface. -/
def CutQosFrame (hwType : ℤ) (bytes : List U8) : Prop :=
  ∃ len, monitorLen hwType bytes = some len ∧ bytes.length = len + 39 ∧
    CutFrameControl (bytes.getD len 0 ++ bytes.getD (len + 1) 0)

section Recv

variable {opts : DumpOpts} {hwType : ℤ} {stale : ℕ → U8} {frame : List U8}

lemma length_captured_le (frame : List U8) : (captured frame).length ≤ 2000 :=
  List.length_take_le _ _

/-- The bytes that were read. -/
lemma packetBuff_of_lt {i : ℕ} (hi : i < (captured frame).length) :
    packetBuff stale frame i = (captured frame).getD i 0 := by
  rw [packetBuff, List.getD_eq_getElem?_getD, List.getD_eq_getElem?_getD,
    List.getElem?_eq_getElem hi, Option.getD_some, Option.getD_some]

lemma toNat_length_captured (frame : List U8) :
    (sizeT (captured frame).length).toNat = (captured frame).length := by
  have hle := length_captured_le frame
  exact toNat_sizeT (by omega)

lemma remains_captured (frame : List U8) :
    Remains (captured frame).length 0 (sizeT (captured frame).length) := by
  have hle := length_captured_le frame
  have hsize := toNat_length_captured frame
  exact ⟨by omega, by omega⟩

/-- Behind the header of a monitor interface. -/
lemma safe_behind_monitorHeader_iff {len : ℕ} (hlen : len < (captured frame).length) :
    (parseWifiHdr opts ((captured frame).length + 1) len
        (sizeT (captured frame).length - sizeT len)).Safe
        (DumpEvent.Inside (captured frame).length) (packetBuff stale frame) ↔
      ¬ ((captured frame).length = len + 39 ∧
        CutFrameControl ((captured frame).getD len 0 ++ (captured frame).getD (len + 1) 0)) := by
  have hsize := toNat_length_captured frame
  have hhdr : len ≤ (sizeT (captured frame).length).toNat := by omega
  have hsub := toNat_sub_sizeT hhdr
  have hremains := (remains_captured frame).advance hhdr
  rw [Nat.zero_add] at hremains
  rw [safe_parseWifiHdr_iff hremains (by omega), not_iff_not]
  have hcount : (sizeT (captured frame).length - sizeT len).toNat = 39 ↔
      (captured frame).length = len + 39 := by omega
  rw [hcount]
  refine and_congr_right fun hshort => ?_
  rw [packetBuff_of_lt (by omega), packetBuff_of_lt (by omega)]

/-- Behind a header of known length. -/
lemma cutQosFrame_iff {bytes : List U8} {len : ℕ} (hlen : monitorLen hwType bytes = some len) :
    CutQosFrame hwType bytes ↔
      bytes.length = len + 39 ∧
        CutFrameControl (bytes.getD len 0 ++ bytes.getD (len + 1) 0) := by
  constructor
  · rintro ⟨len', hlen', hcut⟩
    obtain rfl : len = len' := Option.some.inj (hlen.symm.trans hlen')
    exact hcut
  · exact fun hcut => ⟨len, hlen, hcut⟩

/-- Monitor interfaces with PRISM headers. -/
lemma safe_prism_iff :
    (monitorHeaderLength 0 (sizeT (captured frame).length) ARPHRD_IEEE80211_PRISM >>= fun len =>
        len.elim (pure ()) fun len =>
          parseWifiHdr opts ((captured frame).length + 1) len
            (sizeT (captured frame).length - sizeT len)).Safe
        (DumpEvent.Inside (captured frame).length) (packetBuff stale frame) ↔
      ¬ CutQosFrame ARPHRD_IEEE80211_PRISM (captured frame) := by
  have hsmall := (remains_captured frame).small
  have hsize := toNat_length_captured frame
  rw [cutQosFrame_iff (if_pos rfl), monitorHeaderLength, if_pos rfl]
  by_cases hhdr : (captured frame).length ≤ PRISM_HEADER_LEN
  · rw [if_pos ((sle_sizeT_iff hsmall (by decide)).mpr (by omega)), pure_bind]
    exact iff_of_true (TracedProg.safe_pure _) fun hcut => by omega
  · rw [if_neg (mt (sle_sizeT_iff hsmall (by decide)).mp (by omega)), pure_bind]
    exact safe_behind_monitorHeader_iff (not_le.mp hhdr)

/-- The radiotap header gives its own length. -/
lemma safe_itLen_iff (itLen : U16) :
    ((if (sizeT (captured frame).length).sle (sizeT itLen.toNat) then pure none
        else pure (some itLen.toNat) : Dissect (Option ℕ)) >>=
        fun len => len.elim (pure ()) fun len =>
          parseWifiHdr opts ((captured frame).length + 1) len
            (sizeT (captured frame).length - sizeT len)).Safe
        (DumpEvent.Inside (captured frame).length) (packetBuff stale frame) ↔
      ¬ ((captured frame).length = itLen.toNat + 39 ∧
        CutFrameControl ((captured frame).getD itLen.toNat 0 ++
          (captured frame).getD (itLen.toNat + 1) 0)) := by
  have hsmall := (remains_captured frame).small
  have hsize := toNat_length_captured frame
  have hitLen := itLen.isLt
  by_cases hit : (captured frame).length ≤ itLen.toNat
  · rw [if_pos ((sle_sizeT_iff hsmall (by omega)).mpr (by omega)), pure_bind]
    exact iff_of_true (TracedProg.safe_pure _) fun hcut => by omega
  · rw [if_neg (mt (sle_sizeT_iff hsmall (by omega)).mp (by omega)), pure_bind]
    exact safe_behind_monitorHeader_iff (not_le.mp hit)

/-- Monitor interfaces with radiotap headers. -/
lemma safe_radiotap_iff :
    (monitorHeaderLength 0 (sizeT (captured frame).length) ARPHRD_IEEE80211_RADIOTAP >>=
        fun len => len.elim (pure ()) fun len =>
          parseWifiHdr opts ((captured frame).length + 1) len
            (sizeT (captured frame).length - sizeT len)).Safe
        (DumpEvent.Inside (captured frame).length) (packetBuff stale frame) ↔
      ¬ CutQosFrame ARPHRD_IEEE80211_RADIOTAP (captured frame) := by
  have hsmall := (remains_captured frame).small
  have hsize := toNat_length_captured frame
  have hne : ARPHRD_IEEE80211_RADIOTAP ≠ ARPHRD_IEEE80211_PRISM := by decide
  have hhdrSize : RadiotapHeader.size = 8 := rfl
  rw [cutQosFrame_iff ((if_neg hne).trans (if_pos rfl)), monitorHeaderLength, if_neg hne,
    if_pos rfl]
  by_cases hhdr : (captured frame).length ≤ RadiotapHeader.size
  · rw [if_pos ((sle_sizeT_iff hsmall (by decide)).mpr (by omega)), pure_bind]
    exact iff_of_true (TracedProg.safe_pure _) fun hcut => by omega
  · have hload : ∀ e ∈ [DumpEvent.access (0 + RadiotapHeader.itLen.off) 2],
        e.Inside (captured frame).length := by
      have hradiotap : 0 + RadiotapHeader.size ≤ (captured frame).length := by omega
      exact inside_field (by decide) hradiotap
    have hthree : packetBuff stale frame 3 = (captured frame).getD 3 0 :=
      packetBuff_of_lt (by omega)
    have htwo : packetBuff stale frame 2 = (captured frame).getD 2 0 :=
      packetBuff_of_lt (by omega)
    have hitLen : (packetBuff stale frame 3 ++ packetBuff stale frame 2 : U16) =
        (captured frame).getD 3 0 ++ (captured frame).getD 2 0 := by
      rw [hthree, htwo]
    rw [if_neg (mt (sle_sizeT_iff hsmall (by decide)).mp (by omega)), bind_assoc, ← hitLen]
    refine TracedProg.safe_trace_bind_iff.trans ((and_iff_right hload).trans ?_)
    exact safe_itLen_iff _

/-- **Exactly which frames are dissected inside the captured bytes**: all but QoS data frames with
four addresses of which 39 bytes were captured behind the header of a monitor interface.

**Proof sketch.** An Ethernet frame has room for its header, which is checked, and so has every
frame in it.  On a monitor interface the minimum size of 39 bytes covers every 802.11 header but the
longest one, which needs 40. -/
theorem tcpdump_reads_captured_iff (opts : DumpOpts) (hwType : ℤ) (stale : ℕ → U8)
    (frame : List U8) :
    ReadsCaptured opts hwType stale frame ↔ ¬ CutQosFrame hwType (captured frame) := by
  have hsize := toNat_length_captured frame
  have hethSize : (sizeT EtherHeader.size).toNat = 14 := rfl
  unfold ReadsCaptured tcpdumpRecv
  by_cases hshort : sizeT (captured frame).length < sizeT EtherHeader.size
  · rw [if_pos hshort]
    rw [BitVec.lt_def, hsize, hethSize] at hshort
    refine iff_of_true (TracedProg.safe_pure _) ?_
    rintro ⟨len, -, hlen, -⟩
    omega
  rw [if_neg hshort]
  rw [BitVec.lt_def, hsize, hethSize, not_lt] at hshort
  by_cases hether : hwType = ARPHRD_ETHER
  · subst hether
    rw [if_pos rfl]
    refine iff_of_true (captured_parseEthHdr opts _ _ _ _ (remains_captured frame) ?_ ?_ _) ?_
    · rw [hsize]
      exact hshort
    · omega
    · rintro ⟨len, hlen, -⟩
      exact absurd hlen.symm (Option.some_ne_none len)
  rw [if_neg hether]
  by_cases hprism : hwType = ARPHRD_IEEE80211_PRISM
  · subst hprism
    rw [if_pos (Or.inl rfl)]
    exact safe_prism_iff
  by_cases hradiotap : hwType = ARPHRD_IEEE80211_RADIOTAP
  · subst hradiotap
    rw [if_pos (Or.inr rfl)]
    exact safe_radiotap_iff
  · rw [if_neg (not_or.mpr ⟨hprism, hradiotap⟩)]
    refine iff_of_true (TracedProg.safe_pure _) ?_
    rintro ⟨len, hlen, -⟩
    rw [monitorLen, if_neg hprism, if_neg hradiotap] at hlen
    exact absurd hlen.symm (Option.some_ne_none len)

end Recv

/-- A radiotap header of 10 bytes and 39 bytes of a QoS data frame with four addresses. -/
def cutQosFrame : List U8 := [0, 0, 10, 0, 0, 0, 0, 0, 0, 0] ++ [0x88, 0x03] ++ List.replicate 37 0

/-- The type of the Ethernet frame is read behind the captured bytes. -/
theorem cutQosFrame_not_captured :
    ¬ ReadsCaptured ⟨2047, 0⟩ ARPHRD_IEEE80211_RADIOTAP (fun _ => 0) cutQosFrame := by
  rintro ⟨r, hr, hok⟩
  have hread : (tcpdumpRecv ⟨2047, 0⟩ ARPHRD_IEEE80211_RADIOTAP
      ((captured cutQosFrame).length + 1) (sizeT (captured cutQosFrame).length)
      (packetBuff (fun _ => 0) cutQosFrame)).any
        (fun r => decide (DumpEvent.access 48 2 ∈ r.events)) = true := by
    decide +kernel
  rw [hr, Option.any_some, decide_eq_true_iff] at hread
  have hinside : 48 + 2 ≤ (captured cutQosFrame).length := hok _ hread
  exact absurd hinside (by decide)

end Batctl
