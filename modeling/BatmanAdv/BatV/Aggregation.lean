import Mathlib.Data.List.GetD
import BatmanAdv.Lib.Records
import BatmanAdv.Lib.Run
import BatmanAdv.Tvlv.Container

set_option relaxedAutoImplicit false
set_option autoImplicit false

/-!
# Aggregation of OGM2 packets (`bat_v_ogm.c`)

An OGM2 that is to be sent over an interface is put into the interface's queue.  What is in the
queue is sent as one frame, the OGMs behind one another, by a periodic worker, or when an OGM does
not fit any more.  A receiver goes through the frame and finds out where an OGM ends from the
length of its TVLV buffer, a field of its header.

The lengths of the frames are far below `2 ^ 31`; the offsets that the receiver keeps in `int`s are
natural numbers here, the sender's `u32` counter is one.

## Main definitions

* `Batadv.vOgmLen`, `Batadv.vOgmQueueLeft`, `Batadv.vOgmAggrSend`, `Batadv.vOgmQueueOnIf` — the
  functions of these names.
* `Batadv.vOgmAggrPacket`, `Batadv.vOgmPacketRecvLoop` — the loop of `batadv_v_ogm_packet_recv`.
* `Batadv.AggrEvent`, `Batadv.aggrStep` — OGMs are queued, and the worker runs.

## Main results

* `Batadv.vOgmPacketRecvLoop_inside` — the loop ends and stays inside the frame, whatever is there.
* `Batadv.ogmsIn_flatten` — it finds the OGMs that a frame was put together from.
* `Batadv.ogm_aggregation_round_trip` — over any run, the receiver finds the OGMs that were queued.
-/

namespace Batadv

/-! ### The sender -/

/-- `BATADV_OGM2_HLEN`. -/
def OGM2_HLEN : ℕ := 20

/-- The field `tvlv_len` of a `struct batadv_ogm2_packet` at the start of some data. -/
def ogm2TvlvLen (data : List U8) : U16 := data.getD 14 0 ++ data.getD 15 0

/-- `batadv_v_ogm_len` -/
def vOgmLen (skb : List U8) : U32 := BitVec.ofNat 32 OGM2_HLEN + (ogm2TvlvLen skb).setWidth 32

/-- The part of `struct batadv_hard_iface` that the aggregation depends on: the MTU, whether
`if_status` is `BATADV_IF_ACTIVE`, and the mesh's `aggregated_ogms`. -/
structure AggrIface where
  mtu : U32
  active : Bool
  aggregatedOgms : Bool
deriving DecidableEq, Repr

/-- The queue in `struct batadv_hard_iface_bat_v`: the data of the packets in it, and their
length. -/
structure AggrQueue where
  aggrList : List (List U8)
  aggrLen : U32
deriving DecidableEq, Repr

/-- The queue of an interface that is new (`batadv_v_hardif_init`). -/
def AggrQueue.init : AggrQueue := ⟨[], 0⟩

/-- `batadv_v_ogm_send_to_if`: the frame that is sent. -/
def vOgmSendToIf (hardIface : AggrIface) (skb : List U8) : Option (List U8) :=
  if hardIface.active then some skb else none

/-- The number of bytes an aggregate may have. -/
def AggrIface.maxBytes (hardIface : AggrIface) : U32 :=
  if hardIface.mtu < MAX_AGGREGATION_BYTES then hardIface.mtu else MAX_AGGREGATION_BYTES

/-- `batadv_v_ogm_queue_left` -/
def vOgmQueueLeft (skb : List U8) (hardIface : AggrIface) (q : AggrQueue) : Bool :=
  decide (q.aggrLen + vOgmLen skb ≤ hardIface.maxBytes)

/-- `batadv_v_ogm_aggr_list_free` -/
def vOgmAggrListFree (_q : AggrQueue) : AggrQueue := ⟨[], 0⟩

/-- The loop of `batadv_v_ogm_aggr_send` that empties the queue: the counter after it, and the data
that was put together. -/
def vOgmAggrPut : List (List U8) → U32 → List U8 → U32 × List U8
  | [], aggrLen, skbAggr => (aggrLen, skbAggr)
  | skb :: aggrList, aggrLen, skbAggr =>
    vOgmAggrPut aggrList (aggrLen - vOgmLen skb) (skbAggr ++ skb.take (vOgmLen skb).toNat)

/-- `batadv_v_ogm_aggr_send`: the queue after it, and the frame that is sent. -/
def vOgmAggrSend (hardIface : AggrIface) (allocated : Bool) (q : AggrQueue) :
    AggrQueue × Option (List U8) :=
  if q.aggrLen = 0 then (q, none)
  else if !allocated then (vOgmAggrListFree q, none)
  else
    let (aggrLen, skbAggr) := vOgmAggrPut q.aggrList q.aggrLen []
    (⟨[], aggrLen⟩, vOgmSendToIf hardIface skbAggr)

/-- `batadv_v_ogm_queue_on_if` -/
def vOgmQueueOnIf (skb : List U8) (hardIface : AggrIface) (allocated : Bool) (q : AggrQueue) :
    AggrQueue × Option (List U8) :=
  if !hardIface.aggregatedOgms then (q, vOgmSendToIf hardIface skb)
  else
    let (q, frame) :=
      if !vOgmQueueLeft skb hardIface q then vOgmAggrSend hardIface allocated q else (q, none)
    (⟨q.aggrList ++ [skb], q.aggrLen + vOgmLen skb⟩, frame)

/-! ### The receiver -/

/-- The field `tvlv_len` of the OGM at an address. -/
def tvlvLenAt (mem : ℕ → U8) (off : ℕ) : U16 := mem (off + 14) ++ mem (off + 15)

/-- `batadv_v_ogm_aggr_packet`; the field is read only when the header fits. -/
def vOgmAggrPacket (mem : ℕ → U8) (buffPos packetLen : ℕ) : Bool :=
  if packetLen < buffPos + OGM2_HLEN then false
  else decide (buffPos + OGM2_HLEN + (tvlvLenAt mem buffPos).toNat ≤ packetLen)

/-- The loop of `batadv_v_ogm_packet_recv`: the OGMs that are processed, as addresses and lengths,
or `none` when the given number of turns is not enough. -/
def vOgmPacketRecvLoop (mem : ℕ → U8) (headlen : ℕ) : ℕ → ℕ → Option (List (ℕ × ℕ))
  | 0, _ => none
  | turns + 1, ogmOffset =>
    if vOgmAggrPacket mem ogmOffset headlen then
      let len := OGM2_HLEN + (tvlvLenAt mem ogmOffset).toNat
      (vOgmPacketRecvLoop mem headlen turns (ogmOffset + len)).map ((ogmOffset, len) :: ·)
    else some []

/-- The addresses that the loop itself reads, which are those of the fields `tvlv_len` it looks
at. -/
def vOgmPacketRecvReads (mem : ℕ → U8) (headlen : ℕ) : ℕ → ℕ → List ℕ
  | 0, _ => []
  | turns + 1, ogmOffset =>
    if headlen < ogmOffset + OGM2_HLEN then []
    else
      (ogmOffset + 14) :: (ogmOffset + 15) ::
        if vOgmAggrPacket mem ogmOffset headlen then
          vOgmPacketRecvReads mem headlen turns
            (ogmOffset + (OGM2_HLEN + (tvlvLenAt mem ogmOffset).toNat))
        else []

/-- The bytes of a frame in memory. -/
def frameMem (frame : List U8) (addr : ℕ) : U8 := frame.getD addr 0

/-- The OGMs that the receiver of a frame processes. -/
def ogmsIn (frame : List U8) : List (List U8) :=
  ((vOgmPacketRecvLoop (frameMem frame) frame.length (frame.length + 1) 0).getD []).map
    fun ogm => memBytes (frameMem frame) ogm.1 ogm.2

/-! ### The receiver finds what the sender has put together -/

/-- The OGMs of this protocol as records: the header, and where the length of the TVLV buffer
stands in it. -/
def ogm2Format : Records.Format := ⟨OGM2_HLEN, 14, by decide⟩

/-- An OGM with the data it consists of: a header, and as many bytes as it says. -/
def OgmWhole (ogm : List U8) : Prop := ogm.length = OGM2_HLEN + (ogm2TvlvLen ogm).toNat

/-- The loop of the receiver is a walk through records. -/
lemma vOgmPacketRecvLoop_eq_walk (mem : ℕ → U8) (headlen turns off : ℕ) :
    vOgmPacketRecvLoop mem headlen turns off = ogm2Format.walk mem headlen turns off := by
  induction turns generalizing off with
  | zero => rfl
  | succ turns ih =>
    simp only [vOgmPacketRecvLoop, Records.Format.walk, ih]
    rfl

/-- It reads what the walk reads. -/
lemma vOgmPacketRecvReads_eq_walkReads (mem : ℕ → U8) (headlen turns off : ℕ) :
    vOgmPacketRecvReads mem headlen turns off = ogm2Format.walkReads mem headlen turns off := by
  induction turns generalizing off with
  | zero => rfl
  | succ turns ih =>
    simp only [vOgmPacketRecvReads, Records.Format.walkReads, ih]
    rfl

/-- Two ways to write the bytes of memory. -/
lemma memBytes_eq_bytes (mem : ℕ → U8) (off len : ℕ) :
    memBytes mem off len = Records.bytes mem off len := by
  induction len generalizing off with
  | zero => rfl
  | succ len ih =>
    rw [memBytes, ih, Records.bytes, Records.bytes, List.range_succ_eq_map, List.map_cons,
      List.map_map, Nat.add_zero]
    congr 1
    exact List.map_congr_left fun i _ => congrArg mem (by simp; omega)

/-- The OGMs that the receiver processes are the records of the frame. -/
lemma ogmsIn_eq_recordsIn (frame : List U8) : ogmsIn frame = ogm2Format.recordsIn frame := by
  rw [ogmsIn, Records.Format.recordsIn, vOgmPacketRecvLoop_eq_walk]
  exact List.map_congr_left fun ogm _ => memBytes_eq_bytes _ _ _

/-- **The loop ends and stays inside the frame**, whatever bytes are there: every OGM that is
processed lies in it, and so does everything the loop reads. -/
theorem vOgmPacketRecvLoop_inside (mem : ℕ → U8) {headlen turns off : ℕ} (hoff : off ≤ headlen)
    (hturns : headlen < off + turns) :
    (∃ ogms, vOgmPacketRecvLoop mem headlen turns off = some ogms ∧
        ∀ ogm ∈ ogms, OGM2_HLEN ≤ ogm.2 ∧ ogm.1 + ogm.2 ≤ headlen) ∧
      ∀ addr ∈ vOgmPacketRecvReads mem headlen turns off, addr < headlen := by
  rw [vOgmPacketRecvLoop_eq_walk, vOgmPacketRecvReads_eq_walkReads]
  exact Records.Format.walk_inside mem hoff hturns

/-- **The receiver finds the OGMs that a frame was put together from.** -/
theorem ogmsIn_flatten {ogms : List (List U8)} (hwhole : ∀ ogm ∈ ogms, OgmWhole ogm) :
    ogmsIn ogms.flatten = ogms := by
  rw [ogmsIn_eq_recordsIn]
  exact Records.Format.recordsIn_flatten hwhole

/-! ### Runs -/

/-- What happens to the queue of an interface: an OGM is queued, or the worker runs
(`batadv_v_ogm_aggr_work`). -/
inductive AggrEvent
  | queue (skb : List U8)
  | flush
deriving DecidableEq, Repr

/-- The effect of an event while memory is available: the queue after it, and the frame that is
sent. -/
def aggrStep (hardIface : AggrIface) (q : AggrQueue) : AggrEvent → AggrQueue × Option (List U8)
  | .queue skb => vOgmQueueOnIf skb hardIface true q
  | .flush => vOgmAggrSend hardIface true q

/-- The queue after an event. -/
def aggrNext (hardIface : AggrIface) (q : AggrQueue) (e : AggrEvent) : AggrQueue :=
  (aggrStep hardIface q e).1

/-- The frames that are sent in a run. -/
def aggrFrames (hardIface : AggrIface) : AggrQueue → List AggrEvent → List (List U8)
  | _, [] => []
  | q, e :: es =>
    (aggrStep hardIface q e).2.toList ++ aggrFrames hardIface (aggrNext hardIface q e) es

/-- The OGM in the data of a packet, which may be longer. -/
def ogmData (skb : List U8) : List U8 := skb.take (vOgmLen skb).toNat

/-- The OGMs that are queued in a run. -/
def queuedOgms (es : List AggrEvent) : List (List U8) :=
  es.filterMap fun
    | .queue skb => some (ogmData skb)
    | .flush => none

/-- The packet has the data that its header announces. -/
def OgmSkbOk (skb : List U8) : Prop := OGM2_HLEN + (ogm2TvlvLen skb).toNat ≤ skb.length

/-- The length of the OGMs in a queue. -/
def aggrSum (aggrList : List (List U8)) : ℕ := (aggrList.map fun skb => (vOgmLen skb).toNat).sum

/-- What holds of a queue between two events: its packets have their data, the counter is the
length of the OGMs, and more than one OGM is in it only if all fit into an aggregate. -/
structure AggrQueue.Inv (hardIface : AggrIface) (q : AggrQueue) : Prop where
  skbs : ∀ skb ∈ q.aggrList, OgmSkbOk skb
  aggrLen : q.aggrLen.toNat = aggrSum q.aggrList
  fits : 2 ≤ q.aggrList.length → aggrSum q.aggrList ≤ hardIface.maxBytes.toNat

/-- The length of an OGM as a number. -/
lemma vOgmLen_toNat (skb : List U8) :
    (vOgmLen skb).toNat = OGM2_HLEN + (ogm2TvlvLen skb).toNat := by
  have h := (ogm2TvlvLen skb).isLt
  have hhlen : OGM2_HLEN = 20 := rfl
  rw [vOgmLen, BitVec.toNat_add, BitVec.toNat_ofNat, BitVec.toNat_setWidth, hhlen]
  omega

/-- The OGM in a packet is whole. -/
lemma ogmWhole_ogmData {skb : List U8} (h : OgmSkbOk skb) : OgmWhole (ogmData skb) := by
  have hlen := vOgmLen_toNat skb
  have hhlen : OGM2_HLEN = 20 := rfl
  unfold OgmSkbOk at h
  have hget : ∀ i < (vOgmLen skb).toNat, (ogmData skb).getD i 0 = skb.getD i 0 := by
    intro i hi
    rw [ogmData, List.getD_eq_getElem?_getD, List.getD_eq_getElem?_getD, List.getElem?_take,
      if_pos hi]
  have htvlv : ogm2TvlvLen (ogmData skb) = ogm2TvlvLen skb := by
    rw [ogm2TvlvLen, ogm2TvlvLen, hget 14 (by omega), hget 15 (by omega)]
  rw [OgmWhole, htvlv, ogmData, List.length_take]
  omega

/-- The length of the OGMs in a queue is that of the frame they make. -/
lemma length_flatten_ogmData {aggrList : List (List U8)} (h : ∀ skb ∈ aggrList, OgmSkbOk skb) :
    (aggrList.map ogmData).flatten.length = aggrSum aggrList := by
  rw [List.length_flatten, List.map_map]
  unfold aggrSum
  congr 1
  refine List.map_congr_left fun skb hskb => ?_
  have hok := h skb hskb
  have hlen := vOgmLen_toNat skb
  unfold OgmSkbOk at hok
  rw [Function.comp_apply, ogmData, List.length_take]
  omega

/-- Emptying the queue puts its OGMs behind one another, and counts down to 0.

**Proof sketch.** Induction on the queue, with the counter and the data general. -/
lemma vOgmAggrPut_eq {aggrList : List (List U8)} {aggrLen : U32} (skbAggr : List U8)
    (h : aggrLen.toNat = aggrSum aggrList) :
    vOgmAggrPut aggrList aggrLen skbAggr = (0, skbAggr ++ (aggrList.map ogmData).flatten) := by
  induction aggrList generalizing aggrLen skbAggr with
  | nil =>
    have hzero : aggrLen = 0 := BitVec.eq_of_toNat_eq h
    rw [vOgmAggrPut, hzero, List.map_nil, List.flatten_nil, List.append_nil]
  | cons skb aggrList ih =>
    have hsum : aggrLen.toNat = (vOgmLen skb).toNat + aggrSum aggrList := h
    have hrest : (aggrLen - vOgmLen skb).toNat = aggrSum aggrList := by
      rw [BitVec.toNat_sub_of_le (by rw [BitVec.le_def]; omega)]
      omega
    rw [vOgmAggrPut, ih _ hrest, List.map_cons, List.flatten_cons, List.append_assoc]
    rfl

/-- The counter is 0 only if the queue is empty. -/
lemma AggrQueue.Inv.aggrList_eq_nil {hardIface : AggrIface} {q : AggrQueue}
    (h : q.Inv hardIface) (hzero : q.aggrLen = 0) : q.aggrList = [] := by
  have hsum := h.aggrLen
  rw [hzero] at hsum
  cases hq : q.aggrList with
  | nil => rfl
  | cons skb aggrList =>
    have hlen := vOgmLen_toNat skb
    have hhlen : OGM2_HLEN = 20 := rfl
    rw [hq] at hsum
    simp only [aggrSum, List.map_cons, List.sum_cons, BitVec.ofNat_eq_ofNat,
      BitVec.toNat_ofNat] at hsum
    omega

/-- **What sending the queue does**: the queue is empty after it, and its OGMs are in the frame, if
there were any. -/
lemma vOgmAggrSend_spec {hardIface : AggrIface} {q : AggrQueue} (hactive : hardIface.active = true)
    (h : q.Inv hardIface) :
    (vOgmAggrSend hardIface true q).1 = .init ∧
      (((vOgmAggrSend hardIface true q).2 = none ∧ q.aggrList = []) ∨
        (vOgmAggrSend hardIface true q).2 = some (q.aggrList.map ogmData).flatten) := by
  unfold vOgmAggrSend
  by_cases hzero : q.aggrLen = 0
  · have hnil := h.aggrList_eq_nil hzero
    rw [if_pos hzero]
    refine ⟨?_, Or.inl ⟨rfl, hnil⟩⟩
    cases q
    exact congrArg₂ AggrQueue.mk hnil hzero
  · rw [if_neg hzero, vOgmAggrPut_eq [] h.aggrLen]
    exact ⟨rfl, Or.inr (by simp [vOgmSendToIf, hactive])⟩

/-- The most an aggregate may have is the MTU or `BATADV_MAX_AGGREGATION_BYTES`. -/
lemma AggrIface.maxBytes_toNat (hardIface : AggrIface) :
    hardIface.maxBytes.toNat = min hardIface.mtu.toNat MAX_AGGREGATION_BYTES.toNat := by
  unfold AggrIface.maxBytes
  split_ifs with h
  · exact (min_eq_left (le_of_lt h)).symm
  · exact (min_eq_right (not_lt.1 h)).symm

lemma aggrSum_append_singleton (aggrList : List (List U8)) (skb : List U8) :
    aggrSum (aggrList ++ [skb]) = aggrSum aggrList + (vOgmLen skb).toNat := by
  simp [aggrSum]

/-- The counter is far from wrapping around. -/
lemma AggrQueue.Inv.aggrSum_lt {hardIface : AggrIface} {q : AggrQueue} (h : q.Inv hardIface) :
    aggrSum q.aggrList < 2 ^ 17 := by
  by_cases htwo : 2 ≤ q.aggrList.length
  · have hle := h.fits htwo
    have hmax : hardIface.maxBytes.toNat ≤ 512 := by
      rw [hardIface.maxBytes_toNat]
      exact min_le_right _ _
    omega
  · cases hq : q.aggrList with
    | nil => simp [aggrSum]
    | cons skb aggrList =>
      rw [hq, List.length_cons] at htwo
      have hnil : aggrList = [] := List.eq_nil_of_length_eq_zero (by omega)
      have hlen := vOgmLen_toNat skb
      have hu16 := (ogm2TvlvLen skb).isLt
      have hhlen : OGM2_HLEN = 20 := rfl
      simp only [hnil, aggrSum, List.map_cons, List.map_nil, List.sum_cons, List.sum_nil]
      omega

/-- An OGM put into a queue in which it fits, or into an empty one, keeps the invariant. -/
lemma AggrQueue.Inv.push {hardIface : AggrIface} {q : AggrQueue} (h : q.Inv hardIface)
    {skb : List U8} (hskb : OgmSkbOk skb)
    (hleft : vOgmQueueLeft skb hardIface q = true ∨ q.aggrList = []) :
    (⟨q.aggrList ++ [skb], q.aggrLen + vOgmLen skb⟩ : AggrQueue).Inv hardIface := by
  have hlt := h.aggrSum_lt
  have hlen := vOgmLen_toNat skb
  have hu16 := (ogm2TvlvLen skb).isLt
  have hhlen : OGM2_HLEN = 20 := rfl
  have hsum : (q.aggrLen + vOgmLen skb).toNat = aggrSum (q.aggrList ++ [skb]) := by
    rw [BitVec.toNat_add, h.aggrLen, aggrSum_append_singleton]
    omega
  refine ⟨fun s hs => ?_, hsum, fun htwo => ?_⟩
  · rcases List.mem_append.1 hs with hs | hs
    · exact h.skbs s hs
    · rwa [List.mem_singleton.1 hs]
  · rcases hleft with hleft | hnil
    · rw [vOgmQueueLeft, decide_eq_true_iff, BitVec.le_def] at hleft
      rwa [← hsum]
    · simp [hnil] at htwo

/-- The empty queue. -/
lemma aggrQueue_inv_init (hardIface : AggrIface) : AggrQueue.init.Inv hardIface :=
  ⟨by simp [AggrQueue.init], rfl, by simp [AggrQueue.init]⟩

/-- The frame that a queue is sent as: the receiver finds its OGMs in it, and it is not longer than
an aggregate may be if there are more than one. -/
lemma AggrQueue.Inv.frame {hardIface : AggrIface} {q : AggrQueue} (h : q.Inv hardIface) :
    ogmsIn (q.aggrList.map ogmData).flatten = q.aggrList.map ogmData ∧
      (2 ≤ (ogmsIn (q.aggrList.map ogmData).flatten).length →
        (q.aggrList.map ogmData).flatten.length ≤
          min hardIface.mtu.toNat MAX_AGGREGATION_BYTES.toNat) := by
  have hogms : ogmsIn (q.aggrList.map ogmData).flatten = q.aggrList.map ogmData := by
    refine ogmsIn_flatten fun ogm hogm => ?_
    obtain ⟨skb, hskb, rfl⟩ := List.mem_map.1 hogm
    exact ogmWhole_ogmData (h.skbs skb hskb)
  refine ⟨hogms, fun htwo => ?_⟩
  rw [hogms, List.length_map] at htwo
  rw [length_flatten_ogmData h.skbs, ← hardIface.maxBytes_toNat]
  exact h.fits htwo

/-- **What an event does**: the invariant is kept, the OGMs in the frame that is sent are those that
were in the queue, and what is not sent is still there. -/
lemma aggrStep_spec {hardIface : AggrIface} {q : AggrQueue} {e : AggrEvent}
    (hactive : hardIface.active = true) (hagg : hardIface.aggregatedOgms = true)
    (h : q.Inv hardIface) (he : ∀ skb, e = .queue skb → OgmSkbOk skb) :
    (aggrNext hardIface q e).Inv hardIface ∧
      (aggrStep hardIface q e).2.toList.flatMap ogmsIn ++
          (aggrNext hardIface q e).aggrList.map ogmData =
        q.aggrList.map ogmData ++ queuedOgms [e] ∧
      ∀ frame ∈ (aggrStep hardIface q e).2, 2 ≤ (ogmsIn frame).length →
        frame.length ≤ min hardIface.mtu.toNat MAX_AGGREGATION_BYTES.toNat := by
  obtain ⟨hempty, hsent⟩ := vOgmAggrSend_spec hactive h
  obtain ⟨hogms, hlen⟩ := h.frame
  generalize hsend : vOgmAggrSend hardIface true q = r at hempty hsent
  obtain ⟨q', frame⟩ := r
  dsimp only at hempty hsent
  subst hempty
  -- what is sent when the queue is
  have hflat : frame.toList.flatMap ogmsIn = q.aggrList.map ogmData := by
    rcases hsent with ⟨rfl, hnil⟩ | rfl
    · rw [hnil]
      rfl
    · simpa using hogms
  have hframe : ∀ f ∈ frame, 2 ≤ (ogmsIn f).length →
      f.length ≤ min hardIface.mtu.toNat MAX_AGGREGATION_BYTES.toNat := by
    rcases hsent with ⟨rfl, -⟩ | rfl
    · simp
    · simpa using hlen
  cases e with
  | flush =>
    rw [aggrNext, aggrStep, hsend]
    refine ⟨aggrQueue_inv_init _, ?_, hframe⟩
    rw [hflat]
    rfl
  | queue skb =>
    have hskb := he skb rfl
    have hqueued : queuedOgms [.queue skb] = [ogmData skb] := rfl
    rw [aggrNext, aggrStep, vOgmQueueOnIf, hagg, hqueued]
    cases hleft : vOgmQueueLeft skb hardIface q
    · simp only [Bool.not_true, Bool.not_false, Bool.false_eq_true, if_false, if_true, hsend]
      refine ⟨(aggrQueue_inv_init hardIface).push hskb (Or.inr rfl), ?_, hframe⟩
      rw [hflat]
      rfl
    · simp only [Bool.not_true, Bool.false_eq_true, if_false]
      exact ⟨h.push hskb (Or.inl hleft), by simp, by simp⟩

/-- What a run sends, and what it leaves in the queue. -/
lemma aggrFrames_spec {hardIface : AggrIface} (hactive : hardIface.active = true)
    (hagg : hardIface.aggregatedOgms = true) {q : AggrQueue} {es : List AggrEvent}
    (h : q.Inv hardIface) (hes : ∀ skb, .queue skb ∈ es → OgmSkbOk skb) :
    (∀ q' ∈ Run.states (aggrNext hardIface) q es, q'.Inv hardIface) ∧
      (aggrFrames hardIface q es).flatMap ogmsIn ++
          (Run.final (aggrNext hardIface) q es).aggrList.map ogmData =
        q.aggrList.map ogmData ++ queuedOgms es ∧
      ∀ frame ∈ aggrFrames hardIface q es, 2 ≤ (ogmsIn frame).length →
        frame.length ≤ min hardIface.mtu.toNat MAX_AGGREGATION_BYTES.toNat := by
  induction es generalizing q with
  | nil =>
    exact ⟨by simpa [Run.states] using h, by simp [aggrFrames, queuedOgms], by simp [aggrFrames]⟩
  | cons e es ih =>
    obtain ⟨hinv, hogms, hlen⟩ := aggrStep_spec hactive hagg h
      (fun skb he => hes skb (he ▸ List.mem_cons_self))
    obtain ⟨hstates, hrest, hlens⟩ :=
      ih hinv (fun skb hskb => hes skb (List.mem_cons_of_mem _ hskb))
    refine ⟨?_, ?_, ?_⟩
    · rw [Run.states, List.forall_mem_cons]
      exact ⟨h, hstates⟩
    · have hsplit : queuedOgms (e :: es) = queuedOgms [e] ++ queuedOgms es := by
        rw [queuedOgms, queuedOgms, queuedOgms, ← List.filterMap_append, List.singleton_append]
      rw [aggrFrames, List.flatMap_append, List.append_assoc, Run.final_cons, hrest,
        ← List.append_assoc, hogms, hsplit, List.append_assoc]
    · intro frame hframe
      rcases List.mem_append.1 hframe with hframe | hframe
      · exact hlen frame (by simpa using hframe)
      · exact hlens frame hframe

/-- **Aggregation loses nothing.**  For all OGMs that are queued on an active interface with
aggregation enabled, and however often the worker runs in between: the counter is the length of the
OGMs in the queue after every step; a frame of two or more OGMs is not longer than an aggregate may
be; what a receiver finds in the frames, and then what is left in the queue, are the OGMs that were
queued, each once and in order, and nothing is left once the worker has run.  In any other memory
too, the loop of the receiver ends, and stays inside the frame.

**Proof sketch.** One event keeps the invariant of the queue; a frame that is sent consists of the
OGMs in the queue, and the receiver finds them. -/
theorem ogm_aggregation_round_trip (hardIface : AggrIface) (hactive : hardIface.active = true)
    (hagg : hardIface.aggregatedOgms = true) (es : List AggrEvent)
    (hes : ∀ skb, .queue skb ∈ es → OGM2_HLEN + (ogm2TvlvLen skb).toNat ≤ skb.length) :
    (∀ q ∈ Run.states (aggrNext hardIface) .init es,
        q.aggrLen.toNat = (q.aggrList.map fun skb => (vOgmLen skb).toNat).sum) ∧
      (∀ frame ∈ aggrFrames hardIface .init es, 2 ≤ (ogmsIn frame).length →
        frame.length ≤ min hardIface.mtu.toNat MAX_AGGREGATION_BYTES.toNat) ∧
      (aggrFrames hardIface .init es).flatMap ogmsIn ++
          (Run.final (aggrNext hardIface) .init es).aggrList.map ogmData = queuedOgms es ∧
      (aggrFrames hardIface .init (es ++ [.flush])).flatMap ogmsIn = queuedOgms es ∧
      ∀ (mem : ℕ → U8) (headlen : ℕ),
        (∃ ogms, vOgmPacketRecvLoop mem headlen (headlen + 1) 0 = some ogms ∧
          ∀ ogm ∈ ogms, OGM2_HLEN ≤ ogm.2 ∧ ogm.1 + ogm.2 ≤ headlen) ∧
        ∀ addr ∈ vOgmPacketRecvReads mem headlen (headlen + 1) 0, addr < headlen := by
  obtain ⟨hstates, hogms, hlens⟩ := aggrFrames_spec hactive hagg (aggrQueue_inv_init hardIface) hes
  have hes' : ∀ skb, .queue skb ∈ es ++ [.flush] → OgmSkbOk skb := by
    intro skb hskb
    exact hes skb (by simpa using hskb)
  obtain ⟨-, hogms', -⟩ :=
    aggrFrames_spec hactive hagg (aggrQueue_inv_init hardIface) hes'
  have hlast : (Run.final (aggrNext hardIface) .init (es ++ [.flush])).aggrList = [] := by
    rw [Run.final_append, Run.final_cons, Run.final_nil, aggrNext, aggrStep,
      (vOgmAggrSend_spec hactive (hstates _ (Run.final_mem_states _ _))).1]
    rfl
  have hqueued : queuedOgms (es ++ [.flush]) = queuedOgms es := by simp [queuedOgms]
  rw [hlast, hqueued] at hogms'
  exact ⟨fun q hq => (hstates q hq).aggrLen, hlens, hogms, by simpa [AggrQueue.init] using hogms',
    fun mem headlen => vOgmPacketRecvLoop_inside mem (Nat.zero_le _) (by omega)⟩

/-- Two OGMs without TVLVs are sent as one frame: the theorem applies. -/
theorem ogm_aggregation_round_trip_two :
    let es := [AggrEvent.queue (List.replicate 20 7 |>.set 14 0 |>.set 15 0),
      .queue (List.replicate 24 8 |>.set 14 0 |>.set 15 0)]
    ∀ q ∈ Run.states (aggrNext ⟨1500, true, true⟩) .init es,
      q.aggrLen.toNat = (q.aggrList.map fun skb => (vOgmLen skb).toNat).sum :=
  (ogm_aggregation_round_trip ⟨1500, true, true⟩ rfl rfl _ (by simp; decide)).1

end Batadv
