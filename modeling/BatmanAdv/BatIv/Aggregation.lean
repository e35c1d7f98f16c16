import BatmanAdv.Lib.Records
import BatmanAdv.Lib.Run
import BatmanAdv.Main

set_option relaxedAutoImplicit false
set_option autoImplicit false

/-!
# Aggregation of B.A.T.M.A.N. IV OGMs (`bat_iv_ogm.c`)

An OGM that is to be sent later is a forwarding packet of its own, or is put behind the OGMs of a
packet that is already queued.  The worker of a packet sends it as one frame, not before its time,
and takes it out of the queue.  Whether an OGM is of a direct link is kept in a bitmap while it is
queued, and the flag is set anew when the frame is sent.

The steps that are interleaved are the reading of the clock, the sections under
`forw_bat_list_lock`, the emission of a packet, and the stealing of it.  The interfaces are
numbered; all are active and belong to the same mesh, aggregation is enabled, and nothing is
purged.

## Main definitions

* `Batadv.ivOgmCanAggregate`, `Batadv.ivOgmAggregateNew`, `Batadv.ivOgmAggregate` — the functions of
  these names.
* `Batadv.ivOgmSendToIf` — `batadv_iv_ogm_send_to_if`.
* `Batadv.ivAggrNext` — a step of any of the parties.
* `Batadv.IvForwPacket.Holds` — which OGMs a queued packet holds.

## Main results

* `Batadv.ivOgmSendToIf_of_holds` — what a packet is sent as.
* `Batadv.IvForwPacket.Holds.aggregate` — an OGM is put into a packet.
* `Batadv.iv_aggregation_run` — nothing is lost when no OGM is put into a packet already sent.
-/

namespace Batadv

/-! ### OGMs -/

/-- `BATADV_OGM_HLEN`. -/
def OGM_HLEN : ℕ := 24

/-- `BATADV_DIRECTLINK`. -/
def DIRECTLINK : U8 := 4

/-- `BATADV_MAX_AGGREGATION_PACKETS`. -/
def MAX_AGGREGATION_PACKETS : ℕ := 32

/-- `BATADV_MAX_AGGREGATION_MS`. -/
def MAX_AGGREGATION_MS : ℕ := 100

/-- The field `ttl` of a `struct batadv_ogm_packet` at an offset of some data. -/
def ivOgmTtl (data : List U8) (buffPos : ℕ) : U8 := data.getD (buffPos + 2) 0

/-- The field `flags`. -/
def ivOgmFlags (data : List U8) (buffPos : ℕ) : U8 := data.getD (buffPos + 3) 0

/-- The field `tvlv_len`. -/
def ivOgmTvlvLen (data : List U8) (buffPos : ℕ) : U16 :=
  data.getD (buffPos + 22) 0 ++ data.getD (buffPos + 23) 0

/-- Whether the flag `BATADV_DIRECTLINK` of an OGM is set. -/
def ivDirectLink (data : List U8) : Bool := ivOgmFlags data 0 &&& DIRECTLINK != 0

/-- The OGMs of this protocol as records: the header, and where the length of the TVLV buffer
stands in it. -/
def ivOgmFormat : Records.Format := ⟨OGM_HLEN, 22, by decide⟩

/-- What is passed to `batadv_iv_ogm_queue_add`: an OGM with its TVLV buffer, the interfaces, and
whether it is a self-generated one. -/
structure IvOgm where
  packetBuff : List U8
  ifIncoming : ℕ
  ifOutgoing : ℕ
  ownPacket : Bool
  whole : ivOgmFormat.Whole packetBuff
deriving DecidableEq

/-- `packet_len` -/
def IvOgm.packetLen (ogm : IvOgm) : ℕ := ogm.packetBuff.length

/-- `direct_link` -/
def IvOgm.directLink (ogm : IvOgm) : Bool := ivDirectLink ogm.packetBuff

/-! ### Queueing -/

/-- The part of `struct batadv_forw_packet` that the queue uses: the data of its `skb` and the room
behind them, and whether its worker has sent it. -/
structure IvForwPacket where
  sendTime : Jiffies
  own : Bool
  skb : List U8
  tailroom : ℕ
  packetLen : U16
  directLinkFlags : BitVec 32
  numPackets : U8
  ifIncoming : ℕ
  ifOutgoing : ℕ
  emitted : Bool
deriving DecidableEq, Repr

/-- What does not change: the MTUs of the interfaces, and the clock rate. -/
structure IvAggrMesh where
  mtu : ℕ → U32
  msecsToJiffies : ℕ → Jiffies

/-- The number of bytes an aggregate may have on an interface. -/
def IvAggrMesh.maxBytes (mesh : IvAggrMesh) (iface : ℕ) : ℕ :=
  min (mesh.mtu iface).toNat MAX_AGGREGATION_BYTES.toNat

/-- `batadv_iv_ogm_can_aggregate` -/
def ivOgmCanAggregate (mesh : IvAggrMesh) (primaryIf : Option ℕ) (newOgm : IvOgm)
    (sendTime : Jiffies) (fp : IvForwPacket) : Bool :=
  let aggregatedBytes := fp.packetLen.toNat + newOgm.packetLen
  let aggregationEndTime := sendTime + mesh.msecsToJiffies MAX_AGGREGATION_MS
  if !timeBefore sendTime fp.sendTime || !timeAfterEq aggregationEndTime fp.sendTime then false
  else if mesh.maxBytes newOgm.ifOutgoing < aggregatedBytes then false
  else if fp.tailroom < newOgm.packetLen then false
  else if MAX_AGGREGATION_PACKETS ≤ fp.numPackets.toNat then false
  -- packet is not leaving on the same interface
  else if fp.ifOutgoing ≠ newOgm.ifOutgoing then false
  else
    match primaryIf with
    | none => false
    | some primaryIf =>
      -- packets without direct link flag and high TTL are flooded through the net
      if !newOgm.directLink && !ivDirectLink fp.skb && ivOgmTtl fp.skb 0 != 1 &&
          (!fp.own || fp.ifIncoming == primaryIf) then true
      -- if the incoming packet is sent via this one interface only - we still can aggregate
      else newOgm.directLink && ivOgmTtl newOgm.packetBuff 0 == 1 &&
        fp.ifIncoming == newOgm.ifIncoming &&
          (ivDirectLink fp.skb || fp.own && fp.ifIncoming != primaryIf)

/-- `batadv_iv_ogm_aggregate_new` when memory is available; `slack` is what the allocation of the
`skb` gives beyond the size asked for. -/
def ivOgmAggregateNew (ogm : IvOgm) (sendTime : Jiffies) (slack : ℕ) : IvForwPacket where
  sendTime := sendTime
  own := ogm.ownPacket
  skb := ogm.packetBuff
  tailroom := max MAX_AGGREGATION_BYTES.toNat ogm.packetLen - ogm.packetLen + slack
  packetLen := BitVec.ofNat 16 ogm.packetLen
  directLinkFlags := if ogm.directLink then BitVec.twoPow 32 0 else 0
  numPackets := 1
  ifIncoming := ogm.ifIncoming
  ifOutgoing := ogm.ifOutgoing
  emitted := false

/-- `batadv_iv_ogm_aggregate` -/
def ivOgmAggregate (fp : IvForwPacket) (ogm : IvOgm) : IvForwPacket :=
  let directLinkFlags :=
    if ogm.directLink then fp.directLinkFlags ||| BitVec.twoPow 32 fp.numPackets.toNat
    else fp.directLinkFlags
  { fp with
    skb := fp.skb ++ ogm.packetBuff
    tailroom := fp.tailroom - ogm.packetLen
    packetLen := fp.packetLen + BitVec.ofNat 16 ogm.packetLen
    directLinkFlags := directLinkFlags
    numPackets := fp.numPackets + 1 }

/-- The search in `batadv_iv_ogm_queue_add`: where the packet is that the OGM is put into. -/
def ivOgmFindAggr (mesh : IvAggrMesh) (primaryIf : Option ℕ) (ogm : IvOgm) (sendTime : Jiffies)
    (forwBatList : List IvForwPacket) : Option ℕ :=
  -- own packets are not to be aggregated
  if ogm.ownPacket then none
  else forwBatList.findIdx? (ivOgmCanAggregate mesh primaryIf ogm sendTime)

/-! ### Sending -/

/-- `batadv_iv_ogm_aggr_packet` -/
def ivOgmAggrPacket (data : List U8) (buffPos packetLen : ℕ) : Bool :=
  if packetLen < buffPos + OGM_HLEN then false
  else decide (buffPos + OGM_HLEN + (ivOgmTvlvLen data buffPos).toNat ≤ packetLen)

/-- The flags of an OGM with `BATADV_DIRECTLINK` set or cleared. -/
def adjustFlags (directLink : Bool) (flags : U8) : U8 :=
  if directLink then flags ||| DIRECTLINK else flags &&& ~~~DIRECTLINK

/-- The loop of `batadv_iv_ogm_send_to_if`: the data after it, or `none` when the given number of
turns is not enough. -/
def ivAdjustLoop (directLinkFlags : BitVec 32) (sameIf : Bool) (packetLen : ℕ) :
    ℕ → U8 → ℕ → List U8 → Option (List U8)
  | 0, _, _, _ => none
  | turns + 1, packetNum, buffPos, data =>
    if ivOgmAggrPacket data buffPos packetLen then
      let data := data.set (buffPos + 3)
        (adjustFlags (directLinkFlags.getLsbD packetNum.toNat && sameIf) (ivOgmFlags data buffPos))
      ivAdjustLoop directLinkFlags sameIf packetLen turns (packetNum + 1)
        (buffPos + OGM_HLEN + (ivOgmTvlvLen data buffPos).toNat) data
    else some data

/-- `batadv_iv_ogm_send_to_if` for the packet's outgoing interface: the data that are sent. -/
def ivOgmSendToIf (fp : IvForwPacket) : List U8 :=
  (ivAdjustLoop fp.directLinkFlags (fp.ifIncoming == fp.ifOutgoing) fp.packetLen.toNat
    (fp.packetLen.toNat + 1) 0 0 fp.skb).getD fp.skb

/-! ### Steps -/

/-- A call of `batadv_iv_ogm_queue_add`, with the time that was worked out for it, before its search
and after one that has found nothing. -/
structure IvRequest where
  ogm : IvOgm
  sendTime : Jiffies
  searched : Bool
deriving DecidableEq

/-- The clock, the calls that are under way, the queue, the frames that were sent, each with its
interface, and the OGMs for which a packet was found or allocated. -/
structure IvAggrState where
  jiffies : Jiffies
  requests : List IvRequest
  forwBatList : List IvForwPacket
  frames : List (ℕ × List U8)
  accepted : List IvOgm
deriving DecidableEq

/-- Before any OGM is queued. -/
def IvAggrState.init (jiffies : Jiffies) : IvAggrState := ⟨jiffies, [], [], [], []⟩

/-- A step: time passes; the clock is read for an OGM that is to be sent after a delay; the `i`-th
call searches the queue, or its packet is allocated and queued; the worker of the `k`-th packet
sends it, or takes it out of the queue.  `cloned` says whether the data could be cloned for
sending. -/
inductive IvAggrEvent
  | tick (n : Jiffies)
  | request (ogm : IvOgm) (delay : Jiffies)
  | search (i : ℕ) (primaryIf : Option ℕ)
  | insert (i : ℕ) (allocated : Bool) (slack : ℕ)
  | emit (k : ℕ) (cloned : Bool)
  | steal (k : ℕ)
deriving DecidableEq

/-- The state after a step; what cannot happen changes nothing. -/
def ivAggrNext (mesh : IvAggrMesh) (s : IvAggrState) : IvAggrEvent → IvAggrState
  | .tick n => { s with jiffies := s.jiffies + n }
  | .request ogm delay => { s with requests := s.requests ++ [⟨ogm, s.jiffies + delay, false⟩] }
  | .search i primaryIf =>
    match s.requests[i]? with
    | some ⟨ogm, sendTime, false⟩ =>
      match ivOgmFindAggr mesh primaryIf ogm sendTime s.forwBatList with
      | some k =>
        { s with
          requests := s.requests.eraseIdx i
          forwBatList := s.forwBatList.modify k (ivOgmAggregate · ogm)
          accepted := s.accepted ++ [ogm] }
      | none =>
        -- hold it back for a while, so that it might be aggregated later on
        let sendTime :=
          if ogm.ownPacket then sendTime else sendTime + mesh.msecsToJiffies MAX_AGGREGATION_MS
        { s with requests := s.requests.set i ⟨ogm, sendTime, true⟩ }
    | _ => s
  | .insert i allocated slack =>
    match s.requests[i]? with
    | some ⟨ogm, sendTime, true⟩ =>
      let requests := s.requests.eraseIdx i
      if !allocated then { s with requests := requests }
      else
        { s with
          requests := requests
          forwBatList := ivOgmAggregateNew ogm sendTime slack :: s.forwBatList
          accepted := s.accepted ++ [ogm] }
    | _ => s
  | .emit k cloned =>
    match s.forwBatList[k]? with
    | some fp =>
      if fp.emitted || !timeAfterEq s.jiffies fp.sendTime then s
      else
        let skb := ivOgmSendToIf fp
        { s with
          forwBatList := s.forwBatList.set k { fp with skb := skb, emitted := true }
          frames := s.frames ++ if cloned then [(fp.ifOutgoing, skb)] else [] }
    | none => s
  | .steal k =>
    match s.forwBatList[k]? with
    | some fp => if fp.emitted then { s with forwBatList := s.forwBatList.eraseIdx k } else s
    | none => s

/-! ### What is promised -/

/-- An OGM as it is to be sent: `BATADV_DIRECTLINK` is set if and only if the OGM was queued with it
and came in on the interface it goes out on. -/
def IvOgm.sent (ogm : IvOgm) : List U8 :=
  ogm.packetBuff.set 3 (adjustFlags (ogm.directLink && ogm.ifIncoming == ogm.ifOutgoing)
    (ivOgmFlags ogm.packetBuff 0))

/-- The OGMs in a frame, with its interface. -/
def ivOgmsIn (frame : ℕ × List U8) : List (ℕ × List U8) :=
  (ivOgmFormat.recordsIn frame.2).map (frame.1, ·)

/-- The OGMs that the worker of a packet is still going to send. -/
def IvForwPacket.waiting (fp : IvForwPacket) : List (ℕ × List U8) :=
  if fp.emitted then [] else ivOgmsIn (fp.ifOutgoing, ivOgmSendToIf fp)

/-- Every OGM is in exactly one frame of its outgoing interface, or in one packet that is going to
be sent as such a frame; and aggregates are not too large. -/
structure IvNothingLost (mesh : IvAggrMesh) (s : IvAggrState) : Prop where
  ogms : (s.frames.flatMap ivOgmsIn ++ s.forwBatList.flatMap IvForwPacket.waiting).Perm
    (s.accepted.map fun ogm => (ogm.ifOutgoing, ogm.sent))
  frames : ∀ frame ∈ s.frames, 2 ≤ (ivOgmFormat.recordsIn frame.2).length →
    frame.2.length ≤ mesh.maxBytes frame.1 ∧
      (ivOgmFormat.recordsIn frame.2).length ≤ MAX_AGGREGATION_PACKETS

/-- A search finds a packet that was already sent. -/
def ivSearchLate (mesh : IvAggrMesh) (s : IvAggrState) (i : ℕ) (primaryIf : Option ℕ) : Bool :=
  match s.requests[i]? with
  | some ⟨ogm, sendTime, false⟩ =>
    ((ivOgmFindAggr mesh primaryIf ogm sendTime s.forwBatList).bind (s.forwBatList[·]?)).any
      IvForwPacket.emitted
  | _ => false

/-- The OGM is not longer than a packet's `packet_len` can say, a search does not find a packet that
was already sent, and what is to be sent can be cloned. -/
def IvAggrOk (mesh : IvAggrMesh) (s : IvAggrState) : IvAggrEvent → Prop
  | .request ogm _ => ogm.packetLen < 2 ^ 16
  | .search i primaryIf => ivSearchLate mesh s i primaryIf = false
  | .emit _ cloned => cloned = true
  | _ => True

instance (mesh : IvAggrMesh) (s : IvAggrState) : ∀ e, Decidable (IvAggrOk mesh s e)
  | .request ogm _ => inferInstanceAs (Decidable (ogm.packetLen < 2 ^ 16))
  | .search i primaryIf => inferInstanceAs (Decidable (ivSearchLate mesh s i primaryIf = false))
  | .emit _ cloned => inferInstanceAs (Decidable (cloned = true))
  | .tick _ | .insert _ _ _ | .steal _ => .isTrue trivial

/-! ### What a packet is sent as -/

/-- A packet holds some OGMs: they are its data, one behind the other, and what it says about them
is right. -/
structure IvForwPacket.Holds (mesh : IvAggrMesh) (fp : IvForwPacket) (ogms : List IvOgm) :
    Prop where
  skb : fp.skb = (ogms.map IvOgm.packetBuff).flatten
  packetLen : fp.packetLen.toNat = fp.skb.length
  numPackets : fp.numPackets.toNat = ogms.length
  count : ogms.length ≤ MAX_AGGREGATION_PACKETS
  bits : ∀ i < 32, fp.directLinkFlags.getLsbD i = (ogms[i]?.map IvOgm.directLink).getD false
  ifOutgoing : ∀ ogm ∈ ogms, ogm.ifOutgoing = fp.ifOutgoing
  ifIncoming : ∀ ogm ∈ ogms, ogm.directLink = true → ogm.ifIncoming = fp.ifIncoming
  bytes : 2 ≤ ogms.length → fp.skb.length ≤ mesh.maxBytes fp.ifOutgoing

/-- Setting the flags leaves an OGM whole. -/
lemma whole_set {ogm : List U8} (h : ivOgmFormat.Whole ogm) (flags : U8) :
    ivOgmFormat.Whole (ogm.set 3 flags) := by
  have hget : ∀ i, i ≠ 3 → (ogm.set 3 flags).getD i 0 = ogm.getD i 0 := by
    intro i hi
    rw [List.getD_eq_getElem?_getD, List.getElem?_set_ne (Ne.symm hi), ← List.getD_eq_getElem?_getD]
  have hlen : ivOgmFormat.bodyLen (ogm.set 3 flags) = ivOgmFormat.bodyLen ogm := by
    rw [Records.Format.bodyLen, Records.Format.bodyLen, hget _ (by decide), hget _ (by decide)]
  rw [Records.Format.Whole, List.length_set, hlen]
  exact h

/-- The length of the TVLV buffer of an OGM among others. -/
lemma ivOgmTvlvLen_append {ogm : List U8} (h : ivOgmFormat.Whole ogm) (pre post : List U8) :
    OGM_HLEN + (ivOgmTvlvLen (pre ++ ogm ++ post) pre.length).toNat = ogm.length :=
  (Records.Format.fits_of_whole h pre post).2

/-- **The loop sets the flags of the OGMs that lie behind one another**, from where the first
begins.

**Proof sketch.** Induction on the OGMs, with what lies in front of them, and their number,
general. -/
lemma ivAdjustLoop_flatten (directLinkFlags : BitVec 32) (sameIf : Bool) {ogms : List (List U8)}
    (hwhole : ∀ ogm ∈ ogms, ivOgmFormat.Whole ogm) (pre : List U8) (turns : ℕ) (num : U8)
    (hturns : ogms.length < turns) (hnum : num.toNat + ogms.length < 256) :
    ivAdjustLoop directLinkFlags sameIf (pre ++ ogms.flatten).length turns num pre.length
        (pre ++ ogms.flatten) =
      some (pre ++ (ogms.mapIdx fun i ogm => ogm.set 3
        (adjustFlags (directLinkFlags.getLsbD (num.toNat + i) && sameIf)
          (ivOgmFlags ogm 0))).flatten) := by
  induction ogms generalizing pre turns num with
  | nil =>
    obtain ⟨turns, rfl⟩ := Nat.exists_eq_succ_of_ne_zero (Nat.ne_of_gt hturns)
    have hend : ivOgmAggrPacket pre pre.length pre.length = false :=
      Records.Format.not_fits_end (F := ivOgmFormat) pre
    simp [ivAdjustLoop, hend]
  | cons ogm ogms ih =>
    obtain ⟨hogm, hrest⟩ := List.forall_mem_cons.1 hwhole
    rw [List.length_cons] at hturns hnum
    obtain ⟨turns, rfl⟩ := Nat.exists_eq_succ_of_ne_zero (Nat.ne_of_gt (Nat.zero_lt_of_lt hturns))
    have hnext : (num + 1).toNat = num.toNat + 1 := by
      rw [BitVec.toNat_add]
      change (num.toNat + 1) % 256 = num.toNat + 1
      omega
    have hlen : 24 ≤ ogm.length := by
      rw [Records.Format.Whole] at hogm
      exact hogm ▸ Nat.le_add_right _ _
    have hflags : ivOgmFlags (pre ++ ogm ++ ogms.flatten) pre.length = ivOgmFlags ogm 0 := by
      rw [ivOgmFlags, ivOgmFlags, List.append_assoc, List.getD_append_right _ _ _ _ (by omega),
        Nat.add_sub_cancel_left, List.getD_append _ _ _ _ (by omega), Nat.zero_add]
    obtain ⟨hfits, -⟩ := Records.Format.fits_of_whole hogm pre ogms.flatten
    generalize hflag : adjustFlags (directLinkFlags.getLsbD num.toNat && sameIf)
      (ivOgmFlags ogm 0) = flag
    have hset : (pre ++ ogm ++ ogms.flatten).set (pre.length + 3) flag =
        pre ++ ogm.set 3 flag ++ ogms.flatten := by
      rw [List.append_assoc, List.set_append_right _ _ (by omega), Nat.add_sub_cancel_left,
        List.set_append_left _ _ (by omega), List.append_assoc]
    have hpos : pre.length + OGM_HLEN +
        (ivOgmTvlvLen (pre ++ ogm.set 3 flag ++ ogms.flatten) pre.length).toNat =
          (pre ++ ogm.set 3 flag).length := by
      rw [Nat.add_assoc, ivOgmTvlvLen_append (whole_set hogm flag), List.length_append]
    have hsize : (pre ++ ogm ++ ogms.flatten).length =
        (pre ++ ogm.set 3 flag ++ ogms.flatten).length := by simp
    have hassoc : pre ++ (ogm :: ogms).flatten = pre ++ ogm ++ ogms.flatten := by
      rw [List.flatten_cons, List.append_assoc]
    rw [hassoc, ivAdjustLoop]
    rw [if_pos (show ivOgmAggrPacket _ _ _ = true from hfits), hflags, hflag, hset]
    dsimp only
    rw [hpos, hsize, ih hrest _ _ _ (by omega) (by omega), hnext, List.mapIdx_cons]
    simp only [Nat.add_zero, hflag, List.flatten_cons, List.append_assoc, Nat.add_assoc,
      Nat.add_comm 1]

/-- An OGM that a packet holds is sent as it is to be. -/
lemma IvForwPacket.Holds.sent {mesh : IvAggrMesh} {fp : IvForwPacket} {ogms : List IvOgm}
    (h : fp.Holds mesh ogms) {i : ℕ} {ogm : IvOgm} (hi : ogms[i]? = some ogm) :
    ogm.packetBuff.set 3 (adjustFlags
      (fp.directLinkFlags.getLsbD i && fp.ifIncoming == fp.ifOutgoing)
      (ivOgmFlags ogm.packetBuff 0)) = ogm.sent := by
  have hmem := List.mem_of_getElem? hi
  have hlt : i < 32 := Nat.lt_of_lt_of_le (List.getElem?_eq_some_iff.1 hi).1 h.count
  have hbit : fp.directLinkFlags.getLsbD i = ogm.directLink := by
    rw [h.bits i hlt, hi]
    rfl
  rw [hbit, IvOgm.sent, h.ifOutgoing ogm hmem]
  cases hdirect : ogm.directLink
  · rfl
  · rw [h.ifIncoming ogm hmem hdirect]

/-- **What a packet is sent as**: the OGMs that it holds, with their flags. -/
theorem ivOgmSendToIf_of_holds {mesh : IvAggrMesh} {fp : IvForwPacket} {ogms : List IvOgm}
    (h : fp.Holds mesh ogms) : ivOgmSendToIf fp = (ogms.map IvOgm.sent).flatten := by
  have hwhole : ∀ ogm ∈ ogms.map IvOgm.packetBuff, ivOgmFormat.Whole ogm := by
    intro ogm hogm
    obtain ⟨o, -, rfl⟩ := List.mem_map.1 hogm
    exact o.whole
  have hcount := h.count
  have hmax : MAX_AGGREGATION_PACKETS = 32 := rfl
  have hle : ogms.length ≤ fp.packetLen.toNat := by
    rw [h.packetLen, h.skb, ← List.length_map (f := IvOgm.packetBuff)]
    exact Records.Format.length_le_length_flatten hwhole
  have hzero : (0 : U8).toNat = 0 := rfl
  have hloop := ivAdjustLoop_flatten fp.directLinkFlags (fp.ifIncoming == fp.ifOutgoing) hwhole []
    (fp.packetLen.toNat + 1) 0
    (by rw [List.length_map]; omega) (by rw [List.length_map, hzero]; omega)
  rw [List.nil_append, List.nil_append, List.length_nil, ← h.skb, ← h.packetLen] at hloop
  rw [ivOgmSendToIf, hloop, Option.getD_some]
  congr 1
  refine List.ext_getElem? fun i => ?_
  rw [List.getElem?_mapIdx, List.getElem?_map, List.getElem?_map]
  cases hi : ogms[i]? with
  | none => rfl
  | some ogm => simpa [hzero] using h.sent hi

/-- The OGMs in the frame. -/
lemma IvForwPacket.Holds.recordsIn {mesh : IvAggrMesh} {fp : IvForwPacket} {ogms : List IvOgm}
    (h : fp.Holds mesh ogms) : ivOgmFormat.recordsIn (ivOgmSendToIf fp) = ogms.map IvOgm.sent := by
  rw [ivOgmSendToIf_of_holds h]
  refine Records.Format.recordsIn_flatten fun ogm hogm => ?_
  obtain ⟨o, -, rfl⟩ := List.mem_map.1 hogm
  exact whole_set o.whole _

/-- The frame is as long as the data of the packet. -/
lemma IvForwPacket.Holds.length_sent {mesh : IvAggrMesh} {fp : IvForwPacket} {ogms : List IvOgm}
    (h : fp.Holds mesh ogms) : (ivOgmSendToIf fp).length = fp.skb.length := by
  rw [ivOgmSendToIf_of_holds h, h.skb, List.length_flatten, List.length_flatten, List.map_map,
    List.map_map]
  congr 1
  exact List.map_congr_left fun ogm _ => by simp [IvOgm.sent]

/-- What is waiting in a packet that was not sent. -/
lemma IvForwPacket.Holds.waiting {mesh : IvAggrMesh} {fp : IvForwPacket} {ogms : List IvOgm}
    (h : fp.Holds mesh ogms) (hemitted : fp.emitted = false) :
    fp.waiting = ogms.map fun ogm => (ogm.ifOutgoing, ogm.sent) := by
  rw [IvForwPacket.waiting, hemitted, if_neg Bool.false_ne_true, ivOgmsIn, h.recordsIn,
    List.map_map]
  exact List.map_congr_left fun ogm hogm => by rw [Function.comp_apply, h.ifOutgoing ogm hogm]

/-! ### What queueing does -/

/-- A packet allocated for an OGM holds it. -/
lemma holds_aggregateNew (mesh : IvAggrMesh) {ogm : IvOgm} (hlen : ogm.packetLen < 2 ^ 16)
    (sendTime : Jiffies) (slack : ℕ) :
    (ivOgmAggregateNew ogm sendTime slack).Holds mesh [ogm] where
  skb := by simp [ivOgmAggregateNew]
  packetLen := by
    rw [ivOgmAggregateNew, BitVec.toNat_ofNat, Nat.mod_eq_of_lt hlen]
    rfl
  numPackets := rfl
  count := by simp [MAX_AGGREGATION_PACKETS]
  bits := by
    intro i hi
    cases hdirect : ogm.directLink <;> cases i <;> simp [ivOgmAggregateNew, hdirect]
  ifOutgoing := by simp [ivOgmAggregateNew]
  ifIncoming := by simp [ivOgmAggregateNew]
  bytes := by simp

/-- What it takes that an OGM is put into a packet. -/
lemma ivOgmCanAggregate_of_true {mesh : IvAggrMesh} {primaryIf : Option ℕ} {ogm : IvOgm}
    {sendTime : Jiffies} {fp : IvForwPacket}
    (h : ivOgmCanAggregate mesh primaryIf ogm sendTime fp = true) :
    fp.packetLen.toNat + ogm.packetLen ≤ mesh.maxBytes ogm.ifOutgoing ∧
      fp.numPackets.toNat < MAX_AGGREGATION_PACKETS ∧ ogm.ifOutgoing = fp.ifOutgoing ∧
        (ogm.directLink = true → ogm.ifIncoming = fp.ifIncoming) := by
  unfold ivOgmCanAggregate at h
  dsimp only at h
  split_ifs at h with htime hbytes hroom hnum hif
  refine ⟨not_lt.1 hbytes, not_le.1 hnum, (not_not.1 hif).symm, fun hdirect => ?_⟩
  cases primaryIf with
  | none => cases h
  | some primaryIf =>
    dsimp only at h
    rw [hdirect] at h
    simp only [Bool.not_true, Bool.false_and, Bool.false_eq_true, if_false, Bool.and_eq_true,
      beq_iff_eq] at h
    exact h.1.2.symm

/-- **An OGM that can be aggregated is put into the packet.** -/
theorem IvForwPacket.Holds.aggregate {mesh : IvAggrMesh} {fp : IvForwPacket} {ogms : List IvOgm}
    (h : fp.Holds mesh ogms) {primaryIf : Option ℕ} {ogm : IvOgm} {sendTime : Jiffies}
    (hcan : ivOgmCanAggregate mesh primaryIf ogm sendTime fp = true) :
    (ivOgmAggregate fp ogm).Holds mesh (ogms ++ [ogm]) := by
  obtain ⟨hbytes, hnum, hout, hin⟩ := ivOgmCanAggregate_of_true hcan
  have hmax : MAX_AGGREGATION_PACKETS = 32 := rfl
  have hmaxBytes : mesh.maxBytes ogm.ifOutgoing ≤ 512 := min_le_right _ _
  have hcount := h.numPackets
  have hpacketLen := h.packetLen
  have hskb : (ivOgmAggregate fp ogm).skb.length = fp.packetLen.toNat + ogm.packetLen := by
    rw [ivOgmAggregate, List.length_append, h.packetLen]
    rfl
  constructor
  case skb => rw [ivOgmAggregate, h.skb, List.map_append, List.flatten_append]; simp
  case packetLen =>
    rw [hskb, ivOgmAggregate, BitVec.toNat_add, BitVec.toNat_ofNat]
    omega
  case numPackets =>
    rw [ivOgmAggregate, BitVec.toNat_add, List.length_append, List.length_singleton, ← hcount]
    change (fp.numPackets.toNat + 1) % 256 = fp.numPackets.toNat + 1
    omega
  case count => rw [List.length_append, List.length_singleton]; omega
  case bits =>
    intro i hi
    have hold := h.bits i hi
    rcases Nat.lt_trichotomy i ogms.length with hlt | rfl | hgt
    · rw [List.getElem?_append_left hlt, ← hold, ivOgmAggregate]
      cases ogm.directLink <;> simp [hcount, Nat.ne_of_gt hlt]
    · have hnone : fp.directLinkFlags.getLsbD ogms.length = false := by
        rw [hold, List.getElem?_eq_none (Nat.le_refl _)]
        rfl
      rw [List.getElem?_concat_length, ivOgmAggregate]
      cases hdirect : ogm.directLink
      · simpa [hdirect, hi] using hnone
      · simp [hcount, hdirect, hi]
    · rw [List.getElem?_eq_none (by simp; omega), ivOgmAggregate]
      rw [List.getElem?_eq_none (by omega)] at hold
      cases ogm.directLink <;> simp [hcount, hold, Nat.ne_of_lt hgt]
  case ifOutgoing =>
    intro o ho
    rcases List.mem_append.1 ho with ho | ho
    · exact h.ifOutgoing o ho
    · rwa [List.mem_singleton.1 ho]
  case ifIncoming =>
    intro o ho hdirect
    rcases List.mem_append.1 ho with ho | ho
    · exact h.ifIncoming o ho hdirect
    · rw [List.mem_singleton.1 ho] at hdirect ⊢
      exact hin hdirect
  case bytes =>
    intro _
    rw [hskb]
    exact hout ▸ hbytes

/-! ### Runs -/

/-- What holds between two steps: nothing is lost, the calls under way are about OGMs that
`packet_len` can count, and what was not sent holds some OGMs. -/
structure IvAggrInv (mesh : IvAggrMesh) (s : IvAggrState) : Prop extends
    IvNothingLost mesh s where
  requests : ∀ r ∈ s.requests, r.ogm.packetLen < 2 ^ 16
  packets : ∀ fp ∈ s.forwBatList, fp.emitted = false → ∃ ogms, fp.Holds mesh ogms

/-- A search finds a packet of the queue into which the OGM can be put. -/
lemma ivOgmFindAggr_eq_some {mesh : IvAggrMesh} {primaryIf : Option ℕ} {ogm : IvOgm}
    {sendTime : Jiffies} {forwBatList : List IvForwPacket} {k : ℕ}
    (h : ivOgmFindAggr mesh primaryIf ogm sendTime forwBatList = some k) :
    ∃ fp, forwBatList[k]? = some fp ∧
      ivOgmCanAggregate mesh primaryIf ogm sendTime fp = true := by
  unfold ivOgmFindAggr at h
  split_ifs at h
  obtain ⟨hk, hcan, -⟩ := List.findIdx?_eq_some_iff_getElem.1 h
  exact ⟨forwBatList[k], List.getElem?_eq_getElem hk, hcan⟩

/-- What is waiting when a packet of the queue is replaced. -/
lemma waiting_set {forwBatList : List IvForwPacket} {k : ℕ} {fp : IvForwPacket}
    (hk : forwBatList[k]? = some fp) (fp' : IvForwPacket) :
    (forwBatList.flatMap IvForwPacket.waiting).Perm
        (fp.waiting ++ (forwBatList.eraseIdx k).flatMap IvForwPacket.waiting) ∧
      ((forwBatList.set k fp').flatMap IvForwPacket.waiting).Perm
        (fp'.waiting ++ (forwBatList.eraseIdx k).flatMap IvForwPacket.waiting) := by
  obtain ⟨hlt, rfl⟩ := List.getElem?_eq_some_iff.1 hk
  exact ⟨((List.getElem_cons_eraseIdx_perm hlt).symm.flatMap_right _),
    ((List.set_perm_cons_eraseIdx hlt fp').flatMap_right _)⟩

/-- The packets of a queue in which one was replaced. -/
lemma packets_set {mesh : IvAggrMesh} {forwBatList : List IvForwPacket} {k : ℕ}
    {fp' : IvForwPacket}
    (h : ∀ fp ∈ forwBatList, fp.emitted = false → ∃ ogms, fp.Holds mesh ogms)
    (hfp' : fp'.emitted = false → ∃ ogms, fp'.Holds mesh ogms) :
    ∀ fp ∈ forwBatList.set k fp', fp.emitted = false → ∃ ogms, fp.Holds mesh ogms := by
  intro fp hfp
  rcases List.mem_or_eq_of_mem_set hfp with hfp | rfl
  · exact h fp hfp
  · exact hfp'

/-- **An OGM is put into a packet** that was not sent yet. -/
lemma IvAggrInv.aggregate {mesh : IvAggrMesh} {s : IvAggrState} (h : IvAggrInv mesh s)
    {primaryIf : Option ℕ} {ogm : IvOgm} {sendTime : Jiffies} {k : ℕ} {fp : IvForwPacket}
    (hk : s.forwBatList[k]? = some fp) (hemitted : fp.emitted = false)
    (hcan : ivOgmCanAggregate mesh primaryIf ogm sendTime fp = true)
    {requests : List IvRequest} (hrequests : requests ⊆ s.requests) :
    IvAggrInv mesh { s with
      requests := requests
      forwBatList := s.forwBatList.modify k (ivOgmAggregate · ogm)
      accepted := s.accepted ++ [ogm] } := by
  obtain ⟨ogms, hholds⟩ := h.packets fp (List.mem_of_getElem? hk) hemitted
  have hholds' := hholds.aggregate hcan
  have hset : s.forwBatList.modify k (ivOgmAggregate · ogm) =
      s.forwBatList.set k (ivOgmAggregate fp ogm) := by
    rw [List.modify_eq_set_getElem?, hk]
    rfl
  obtain ⟨hbefore, hafter⟩ := waiting_set hk (ivOgmAggregate fp ogm)
  refine ⟨⟨?_, h.frames⟩, fun r hr => h.requests r (hrequests hr), ?_⟩
  · rw [hholds.waiting hemitted] at hbefore
    rw [hholds'.waiting hemitted, List.map_append, List.append_assoc] at hafter
    dsimp only
    rw [hset, List.map_append]
    refine ((hafter.append_left _).trans ?_).trans (h.ogms.append_right _)
    refine List.Perm.trans ?_ ((hbefore.append_left _).append_right _).symm
    rw [List.append_assoc, List.append_assoc]
    exact (List.perm_append_comm.append_left _).append_left _
  · dsimp only
    rw [hset]
    exact packets_set h.packets fun _ => ⟨_, hholds'⟩

/-- **A packet is allocated for an OGM.** -/
lemma IvAggrInv.insert {mesh : IvAggrMesh} {s : IvAggrState} (h : IvAggrInv mesh s)
    {ogm : IvOgm} (hlen : ogm.packetLen < 2 ^ 16) (sendTime : Jiffies) (slack : ℕ)
    {requests : List IvRequest} (hrequests : requests ⊆ s.requests) :
    IvAggrInv mesh { s with
      requests := requests
      forwBatList := ivOgmAggregateNew ogm sendTime slack :: s.forwBatList
      accepted := s.accepted ++ [ogm] } := by
  have hholds := holds_aggregateNew mesh hlen sendTime slack
  refine ⟨⟨?_, h.frames⟩, fun r hr => h.requests r (hrequests hr), ?_⟩
  · dsimp only
    rw [List.flatMap_cons, hholds.waiting rfl, List.map_append]
    refine List.Perm.trans ?_ (h.ogms.append_right _)
    rw [List.append_assoc]
    exact List.perm_append_comm.append_left _
  · intro fp hfp hemitted
    rcases List.mem_cons.1 hfp with rfl | hfp
    · exact ⟨_, hholds⟩
    · exact h.packets fp hfp hemitted

/-- **A packet is sent.** -/
lemma IvAggrInv.emit {mesh : IvAggrMesh} {s : IvAggrState} (h : IvAggrInv mesh s) {k : ℕ}
    {fp : IvForwPacket} (hk : s.forwBatList[k]? = some fp) (hemitted : fp.emitted = false) :
    IvAggrInv mesh { s with
      forwBatList := s.forwBatList.set k { fp with skb := ivOgmSendToIf fp, emitted := true }
      frames := s.frames ++ [(fp.ifOutgoing, ivOgmSendToIf fp)] } := by
  obtain ⟨ogms, hholds⟩ := h.packets fp (List.mem_of_getElem? hk) hemitted
  obtain ⟨hbefore, hafter⟩ :=
    waiting_set hk { fp with skb := ivOgmSendToIf fp, emitted := true }
  refine ⟨⟨?_, ?_⟩, h.requests, ?_⟩
  · have hwaiting : fp.waiting = ivOgmsIn (fp.ifOutgoing, ivOgmSendToIf fp) := by
      rw [IvForwPacket.waiting, hemitted, if_neg Bool.false_ne_true]
    have hnone : IvForwPacket.waiting { fp with skb := ivOgmSendToIf fp, emitted := true } = [] :=
      rfl
    rw [hwaiting] at hbefore
    rw [hnone, List.nil_append] at hafter
    dsimp only
    rw [List.flatMap_append, List.flatMap_cons, List.flatMap_nil, List.append_nil,
      List.append_assoc]
    exact ((hafter.append_left _).append_left _).trans ((hbefore.symm.append_left _).trans h.ogms)
  · intro frame hframe htwo
    rcases List.mem_append.1 hframe with hframe | hframe
    · exact h.frames frame hframe htwo
    · rw [List.mem_singleton.1 hframe] at htwo ⊢
      rw [hholds.recordsIn, List.length_map] at htwo ⊢
      rw [hholds.length_sent]
      exact ⟨hholds.bytes htwo, hholds.count⟩
  · exact packets_set h.packets fun hfalse => absurd hfalse (by simp)

/-- **A packet that was sent is taken out of the queue.** -/
lemma IvAggrInv.steal {mesh : IvAggrMesh} {s : IvAggrState} (h : IvAggrInv mesh s) {k : ℕ}
    {fp : IvForwPacket} (hk : s.forwBatList[k]? = some fp) (hemitted : fp.emitted = true) :
    IvAggrInv mesh { s with forwBatList := s.forwBatList.eraseIdx k } := by
  obtain ⟨hbefore, -⟩ := waiting_set hk fp
  rw [IvForwPacket.waiting, if_pos hemitted, List.nil_append] at hbefore
  exact ⟨⟨(hbefore.symm.append_left _).trans h.ogms, h.frames⟩, h.requests,
    fun fp hfp => h.packets fp (List.mem_of_mem_eraseIdx hfp)⟩

/-- Only the calls under way change. -/
lemma IvAggrInv.setRequests {mesh : IvAggrMesh} {s : IvAggrState} (h : IvAggrInv mesh s)
    {requests : List IvRequest} (hrequests : ∀ r ∈ requests, r.ogm.packetLen < 2 ^ 16) :
    IvAggrInv mesh { s with requests := requests } :=
  ⟨⟨h.ogms, h.frames⟩, hrequests, h.packets⟩

/-- **A step keeps the invariant.** -/
lemma ivAggrNext_inv {mesh : IvAggrMesh} {s : IvAggrState} {e : IvAggrEvent}
    (h : IvAggrInv mesh s) (he : IvAggrOk mesh s e) : IvAggrInv mesh (ivAggrNext mesh s e) := by
  cases e with
  | tick n => exact ⟨⟨h.ogms, h.frames⟩, h.requests, h.packets⟩
  | request ogm delay =>
    refine h.setRequests fun r hr => ?_
    rcases List.mem_append.1 hr with hr | hr
    · exact h.requests r hr
    · rw [List.mem_singleton.1 hr]
      exact he
  | search i primaryIf =>
    have hlate : ivSearchLate mesh s i primaryIf = false := he
    rw [ivAggrNext]
    rw [ivSearchLate] at hlate
    match hi : s.requests[i]? with
    | none => exact h
    | some ⟨ogm, sendTime, true⟩ => exact h
    | some ⟨ogm, sendTime, false⟩ =>
      rw [hi] at hlate
      dsimp only at hlate ⊢
      cases hfind : ivOgmFindAggr mesh primaryIf ogm sendTime s.forwBatList with
      | some k =>
        obtain ⟨fp, hk, hcan⟩ := ivOgmFindAggr_eq_some hfind
        rw [hfind, Option.bind_some, hk] at hlate
        exact h.aggregate hk hlate hcan List.eraseIdx_subset
      | none =>
        have hlen := h.requests _ (List.mem_of_getElem? hi)
        refine h.setRequests fun r hr => ?_
        rcases List.mem_or_eq_of_mem_set hr with hr | rfl
        · exact h.requests r hr
        · exact hlen
  | insert i allocated slack =>
    rw [ivAggrNext]
    match hi : s.requests[i]? with
    | none => exact h
    | some ⟨ogm, sendTime, false⟩ => exact h
    | some ⟨ogm, sendTime, true⟩ =>
      cases allocated
      · exact h.setRequests fun r hr => h.requests r (List.eraseIdx_subset hr)
      · exact h.insert (h.requests _ (List.mem_of_getElem? hi)) sendTime slack
          List.eraseIdx_subset
  | emit k cloned =>
    obtain rfl : cloned = true := he
    rw [ivAggrNext]
    cases hk : s.forwBatList[k]? with
    | none => exact h
    | some fp =>
      dsimp only
      by_cases hidle : (fp.emitted || !timeAfterEq s.jiffies fp.sendTime) = true
      · rwa [if_pos hidle]
      · have hemitted : fp.emitted = false := by simp_all
        rw [if_neg hidle, if_pos rfl]
        exact h.emit hk hemitted
  | steal k =>
    rw [ivAggrNext]
    cases hk : s.forwBatList[k]? with
    | none => exact h
    | some fp =>
      dsimp only
      split_ifs with hemitted
      · exact h.steal hk hemitted
      · exact h

/-- Before any OGM is queued. -/
lemma ivAggrInv_init (mesh : IvAggrMesh) (jiffies : Jiffies) :
    IvAggrInv mesh (.init jiffies) where
  ogms := by simp [IvAggrState.init]
  frames := by simp [IvAggrState.init]
  requests := by simp [IvAggrState.init]
  packets := by simp [IvAggrState.init]

/-- **Aggregation loses and relabels nothing** in a run in which no OGM is put into a packet that
was already sent, every OGM is shorter than `2 ^ 16` bytes, and what is to be sent can be cloned:
every OGM for which a packet was found or allocated is, with its flag as it is to be, in exactly one
frame of its outgoing interface or of a packet that is still to be sent; once all packets were sent,
it is in a frame.  No aggregate is too large.

**Proof sketch.** Every packet that was not sent holds the OGMs put into it, and a step moves the
OGMs of one packet at most. -/
theorem iv_aggregation_run (mesh : IvAggrMesh) (jiffies : Jiffies) (es : List IvAggrEvent)
    (h : Run.AllSteps (ivAggrNext mesh) (IvAggrOk mesh) (.init jiffies) es) :
    ∀ s ∈ Run.states (ivAggrNext mesh) (.init jiffies) es, IvNothingLost mesh s ∧
      ((∀ fp ∈ s.forwBatList, fp.emitted = true) →
        (s.frames.flatMap ivOgmsIn).Perm
          (s.accepted.map fun ogm => (ogm.ifOutgoing, ogm.sent))) := by
  intro s hs
  have hinv := h.forall_mem_states (IvAggrInv mesh) (fun _ _ => ivAggrNext_inv)
    (ivAggrInv_init mesh jiffies) s hs
  refine ⟨hinv.toIvNothingLost, fun hall => ?_⟩
  have hnone : s.forwBatList.flatMap IvForwPacket.waiting = [] := by
    rw [List.flatMap_eq_nil_iff]
    exact fun fp hfp => if_pos (hall fp hfp)
  have hogms := hinv.ogms
  rwa [hnone, List.append_nil] at hogms

/-- An OGM without TVLVs that is forwarded from the first interface to the second. -/
def floodedOgm (seqno : U8) : IvOgm where
  packetBuff := [0, COMPAT_VERSION, TTL, 0, 0, 0, 0, seqno] ++ List.replicate 16 0
  ifIncoming := 0
  ifOutgoing := 1
  ownPacket := false
  whole := by
    rw [Records.Format.Whole, Records.Format.bodyLen]
    simp [ivOgmFormat, OGM_HLEN]

/-- A mesh of Ethernet interfaces, with a clock of 1000 jiffies in a second. -/
def ethernetMesh : IvAggrMesh := ⟨fun _ => 1500, fun ms => BitVec.ofNat 64 ms⟩

/-- The clock is read for an OGM while another one is queued; its search finds the packet of that
one when its worker has sent it, and has not taken it out of the queue yet. -/
def lateSearch : List IvAggrEvent :=
  [.request (floodedOgm 1) 0, .search 0 (some 0), .insert 0 true 0, .tick 50,
    .request (floodedOgm 2) 5, .tick 50, .emit 0 true, .search 0 (some 0), .steal 0]

/-- **An OGM is lost.**  It was put into a packet, but the only frame holds the other one, and
nothing is left in the queue. -/
theorem iv_aggregation_loses_ogm :
    let s := Run.final (ivAggrNext ethernetMesh) (.init 0) lateSearch
    s.accepted = [floodedOgm 1, floodedOgm 2] ∧ s.requests = [] ∧ s.forwBatList = [] ∧
      s.frames = [(1, (floodedOgm 1).packetBuff)] ∧ ¬ IvNothingLost ethernetMesh s := by
  have hfinal : Run.final (ivAggrNext ethernetMesh) (.init 0) lateSearch =
      ⟨100, [], [], [(1, (floodedOgm 1).packetBuff)], [floodedOgm 1, floodedOgm 2]⟩ := rfl
  rw [hfinal]
  refine ⟨rfl, rfl, rfl, rfl, fun h => ?_⟩
  have hlength := h.ogms.length_eq
  revert hlength
  decide

/-- The second OGM is put into the packet of the first in time: the theorem applies. -/
theorem iv_aggregation_run_two :
    IvNothingLost ethernetMesh (Run.final (ivAggrNext ethernetMesh) (.init 0)
      [.request (floodedOgm 1) 0, .search 0 (some 0), .insert 0 true 0, .tick 50,
        .request (floodedOgm 2) 5, .search 0 (some 0), .tick 50, .emit 0 true, .steal 0]) :=
  (iv_aggregation_run ethernetMesh 0 _ (by decide) _ (Run.final_mem_states _ _)).1

end Batadv
