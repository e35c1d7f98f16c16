import BatmanAdv.BatV.Aggregation
import BatmanAdv.BatV.Metric

set_option relaxedAutoImplicit false
set_option autoImplicit false

/-!
# A node's own OGMs (`bat_v_ogm.c`, `tvlv.c`)

A node keeps a buffer with the header of its OGM2 and its TVLV data.  Before an OGM is sent,
`batadv_tvlv_container_ogm_append` replaces the buffer by one of the size that the containers need
now, and returns this size, which becomes the field `tvlv_len` of the OGM.  Without memory the old
buffer is kept; the size that is returned is the new one all the same.  Aggregation copies as many
bytes of an OGM as its field says.

Writing outside of a buffer has no result.

## Main definitions

* `Batadv.TvlvAppendOk` — the buffer and the returned size agree.
* `Batadv.TvlvAppendFits` — there is memory, or the size is that of the buffer.
* `Batadv.vOgmSendMeshif` — `batadv_v_ogm_send_meshif`.
* `Batadv.OwnOgmEvent`, `Batadv.ownOgmStep` — containers are registered, and OGMs are sent.

## Main results

* `Batadv.tvlvContainerOgmAppend_iff` — when the buffer and the size agree.
* `Batadv.own_ogm_length` — over a run, the OGMs that are queued have the length they announce.
-/

namespace Batadv

/-- `BATADV_OGM2`. -/
def OGM2 : U8 := 4

/-- `BATADV_TVLV_NODE_WEIGHT`. -/
def TVLV_NODE_WEIGHT : U8 := 0x10

/-! ### The buffer -/

/-- **The buffer and the size agree** after the containers were appended: the buffer has the OGM's
header, unchanged, and behind it as many bytes as the size says, which are the containers if there
was memory, and what was there before otherwise. -/
def TvlvAppendOk (containerList : List TvlvContainer) (fresh : Option (ℕ → U8))
    (packetBuff : List U8) (packetMinLen : ℕ) : Prop :=
  ∃ (buff : List U8) (tvlvLen : U16),
    tvlvContainerOgmAppend containerList fresh packetBuff packetMinLen = some (buff, tvlvLen) ∧
      tvlvLen.toNat + packetMinLen = buff.length ∧
      buff.take packetMinLen = packetBuff.take packetMinLen ∧
      buff.drop packetMinLen =
        if fresh.isSome then tvlvSerialize containerList else packetBuff.drop packetMinLen

/-- There is memory, and the containers take less than 64 KiB; or there is none, and what is
computed for them is the size of the data in the buffer. -/
def TvlvAppendFits (containerList : List TvlvContainer) (fresh : Option (ℕ → U8))
    (packetBuff : List U8) (packetMinLen : ℕ) : Prop :=
  if fresh.isSome then (tvlvSerialize containerList).length < 2 ^ 16
  else (tvlvSerialize containerList).length % 2 ^ 16 + packetMinLen = packetBuff.length

instance (containerList : List TvlvContainer) (fresh : Option (ℕ → U8)) (packetBuff : List U8)
    (packetMinLen : ℕ) :
    Decidable (TvlvAppendFits containerList fresh packetBuff packetMinLen) :=
  inferInstanceAs (Decidable (if fresh.isSome then _ else _))

/-- The size that is returned, as a number. -/
lemma toNat_tvlvContainerListSize (containerList : List TvlvContainer) :
    (tvlvContainerListSize containerList).toNat =
      (tvlvSerialize containerList).length % 2 ^ 16 := by
  rw [tvlvContainerListSize_eq, BitVec.toNat_ofNat]

/-- **When the buffer and the size agree**, for all containers, every buffer with a header, and
every outcome of the allocation. -/
theorem tvlvContainerOgmAppend_iff (containerList : List TvlvContainer) (fresh : Option (ℕ → U8))
    {packetBuff : List U8} {packetMinLen : ℕ} (hmin : packetMinLen ≤ packetBuff.length) :
    TvlvAppendOk containerList fresh packetBuff packetMinLen ↔
      TvlvAppendFits containerList fresh packetBuff packetMinLen := by
  have hsize := toNat_tvlvContainerListSize containerList
  cases fresh with
  | none =>
    have hkept := tvlvContainerOgmAppend_of_no_memory containerList packetBuff packetMinLen
    constructor
    · rintro ⟨buff, tvlvLen, happend, hlen, -⟩
      cases hkept.symm.trans happend
      rw [hsize] at hlen
      exact hlen
    · intro hfits
      exact ⟨packetBuff, _, hkept, hsize ▸ hfits, rfl, rfl⟩
  | some fresh =>
    constructor
    · rintro ⟨buff, tvlvLen, -, hlen, -, hdata⟩
      have htotal := congrArg List.length hdata
      have hlt := tvlvLen.isLt
      rw [List.length_drop, Option.isSome_some, if_pos rfl] at htotal
      change (tvlvSerialize containerList).length < 2 ^ 16
      omega
    · intro hfits
      have hlt : (tvlvSerialize containerList).length < 2 ^ 16 := hfits
      have hstart : (packetBuff.take packetMinLen).length = packetMinLen := by
        rw [List.length_take]
        omega
      refine ⟨_, _, tvlvContainerOgmAppend_eq fresh hmin (by omega), ?_, ?_, ?_⟩
      · rw [BitVec.toNat_ofNat, Nat.mod_eq_of_lt hlt, List.length_append, hstart, Nat.add_comm]
      · rw [List.take_append_of_le_length (by omega), List.take_take, min_self]
      · rw [List.drop_append_of_le_length (by omega), List.drop_eq_nil_of_le (by omega)]
        rfl

/-! ### Sending -/

/-- What is read of an interface when an OGM is sent: whether a reference to it can be taken,
whether the OGM is to be suppressed, and whether there is memory for a copy of it and for an
aggregate. -/
structure OwnOgmPort where
  kref : Bool
  noBroadcast : HardifBcast
  clone : Bool
  aggrAlloc : Bool

/-- What is read when an OGM is sent: the state of the mesh, what committing the changes of the
translation table does to the containers, and which allocations succeed. -/
structure OwnOgmInput where
  meshDeactivating : Bool
  ttCommit : List TvlvContainerCall
  weightAlloc : Bool
  fresh : Option (ℕ → U8)
  skbAlloc : Bool
  port : ℕ → OwnOgmPort

/-- What a node keeps for its own OGMs: its weight, the containers, the buffer, the sequence number,
and the interfaces with their queues. -/
structure OwnOgmPriv where
  config : MeshConfig
  containerList : List TvlvContainer
  ogmBuff : List U8
  ogmSeqno : U32
  hardIfaces : List (AggrIface × AggrQueue)

/-- `batadv_v_ogm_init`, with the random number the sequence numbers begin with. -/
def vOgmInit (config : MeshConfig) (randomSeqno : U32) (hardIfaces : List AggrIface) :
    OwnOgmPriv where
  config := config
  containerList := []
  ogmBuff := [OGM2, COMPAT_VERSION, TTL, 0] ++ List.replicate 16 0
  ogmSeqno := randomSeqno
  hardIfaces := hardIfaces.map fun iface => (iface, .init)

/-- The containers with the one for the node's weight. -/
def registerNodeWeight (config : MeshConfig) (allocated : Bool)
    (containerList : List TvlvContainer) : List TvlvContainer :=
  tvlvContainerRegister containerList TVLV_NODE_WEIGHT 1
    (some ⟨[config.nodePriority, config.dutyCycle, config.powerClass], by simp⟩) allocated

/-- The containers that an OGM is sent with. -/
def OwnOgmPriv.containersFor (s : OwnOgmPriv) (input : OwnOgmInput) : List TvlvContainer :=
  registerNodeWeight s.config input.weightAlloc
    (Run.final tvlvContainerStep s.containerList input.ttCommit)

/-- The OGM that is sent: the buffer with the sequence number and the size of the TVLV data. -/
def ownOgmSkb (ogmBuff : List U8) (ogmSeqno : U32) (tvlvLen : U16) : Option (List U8) := do
  let skb ← blockWrite ogmBuff 4 [ogmSeqno.extractLsb' 24 8, ogmSeqno.extractLsb' 16 8,
    ogmSeqno.extractLsb' 8 8, ogmSeqno.extractLsb' 0 8]
  blockWrite skb 14 [tvlvLen.extractLsb' 8 8, tvlvLen.extractLsb' 0 8]

/-- The loop of `batadv_v_ogm_send_meshif`: the interfaces after it, and the OGMs it queues. -/
def ownOgmBroadcast (skb : List U8) (port : ℕ → OwnOgmPort) :
    ℕ → List (AggrIface × AggrQueue) → List (AggrIface × AggrQueue) × List (List U8)
  | _, [] => ([], [])
  | i, (iface, q) :: ifaces =>
    if !(port i).kref || (port i).noBroadcast != .ok then
      let rest := ownOgmBroadcast skb port (i + 1) ifaces
      ((iface, q) :: rest.1, rest.2)
    -- the loop ends when there is no memory for a copy
    else if !(port i).clone then ((iface, q) :: ifaces, [])
    else
      let rest := ownOgmBroadcast skb port (i + 1) ifaces
      ((iface, (vOgmQueueOnIf skb iface (port i).aggrAlloc q).1) :: rest.1, skb :: rest.2)

/-- `batadv_v_ogm_send_meshif`: the state after it, and the OGMs that are queued. -/
def vOgmSendMeshif (input : OwnOgmInput) (s : OwnOgmPriv) : Option (OwnOgmPriv × List (List U8)) :=
  if input.meshDeactivating then some (s, [])
  else do
    let s := { s with containerList := s.containersFor input }
    let (ogmBuff, tvlvLen) ←
      tvlvContainerOgmAppend s.containerList input.fresh s.ogmBuff OGM2_HLEN
    let s := { s with ogmBuff := ogmBuff }
    if !input.skbAlloc then return (s, [])
    let skb ← ownOgmSkb s.ogmBuff s.ogmSeqno tvlvLen
    let (hardIfaces, queued) := ownOgmBroadcast skb input.port 0 s.hardIfaces
    return ({ s with ogmSeqno := s.ogmSeqno + 1, hardIfaces := hardIfaces }, queued)

/-! ### Runs -/

/-- What happens to the state: netlink sets the weight, other parts of the node register and
unregister containers, the primary interface changes, or an OGM is sent. -/
inductive OwnOgmEvent
  | setMesh (attrs : MeshAttrs)
  | container (call : TvlvContainerCall)
  | primaryIfaceSet (devAddr : EthAddr)
  | sendMeshif (input : OwnOgmInput)

/-- `batadv_v_ogm_primary_iface_set`: the address in the header. -/
def vOgmPrimaryIfaceSet (devAddr : EthAddr) (ogmBuff : List U8) : Option (List U8) :=
  blockWrite ogmBuff 8 devAddr.bytes

/-- The effect of an event, if nothing is written outside of a buffer: the state after it, and the
OGMs that are queued. -/
def ownOgmStep (s : OwnOgmPriv) : OwnOgmEvent → Option (OwnOgmPriv × List (List U8))
  | .setMesh attrs => some ({ s with config := netlinkSetMesh attrs s.config }, [])
  | .container call => some ({ s with containerList := tvlvContainerStep s.containerList call }, [])
  | .primaryIfaceSet devAddr =>
    (vOgmPrimaryIfaceSet devAddr s.ogmBuff).map fun ogmBuff => ({ s with ogmBuff := ogmBuff }, [])
  | .sendMeshif input => vOgmSendMeshif input s

/-- The state after an event. -/
def ownOgmNext (s : OwnOgmPriv) (e : OwnOgmEvent) : OwnOgmPriv :=
  ((ownOgmStep s e).map Prod.fst).getD s

/-- The OGMs that are queued in an event. -/
def ownOgmQueued (s : OwnOgmPriv) (e : OwnOgmEvent) : List (List U8) :=
  ((ownOgmStep s e).map Prod.snd).getD []

/-- When an OGM is sent, there is memory for the buffer, or the size of the data is still that of
the buffer. -/
def OwnOgmFits (s : OwnOgmPriv) : OwnOgmEvent → Prop
  | .sendMeshif input => input.meshDeactivating = false →
    TvlvAppendFits (s.containersFor input) input.fresh s.ogmBuff OGM2_HLEN
  | _ => True

/-- What holds between two events: the buffer has a header, and the OGMs in the queues have the
length they announce. -/
structure OwnOgmPriv.Inv (s : OwnOgmPriv) : Prop where
  header : OGM2_HLEN ≤ s.ogmBuff.length
  queued : ∀ port ∈ s.hardIfaces, ∀ skb ∈ port.2.aggrList, OgmWhole skb

/-- Writing into a buffer does not change its length. -/
lemma length_blockWrite {block bytes block' : List U8} {off : ℕ}
    (h : blockWrite block off bytes = some block') : block'.length = block.length := by
  unfold blockWrite at h
  split_ifs at h with hfits
  cases h
  simp only [List.length_append, List.length_take, List.length_drop]
  omega

/-- The OGM that is sent has the length of the buffer, and the given size in its header. -/
lemma ownOgmSkb_spec {ogmBuff skb : List U8} {ogmSeqno : U32} {tvlvLen : U16}
    (h : ownOgmSkb ogmBuff ogmSeqno tvlvLen = some skb) :
    skb.length = ogmBuff.length ∧ ogm2TvlvLen skb = tvlvLen := by
  unfold ownOgmSkb at h
  simp only [Option.bind_eq_bind, Option.bind_eq_some_iff] at h
  obtain ⟨mid, hmid, hskb⟩ := h
  refine ⟨(length_blockWrite hskb).trans (length_blockWrite hmid), ?_⟩
  unfold blockWrite at hskb
  split_ifs at hskb with hfits
  cases hskb
  have hlen : (mid.take 14).length = 14 := by
    rw [List.length_take]
    simp only [List.length_cons, List.length_nil] at hfits
    omega
  have hget (i : ℕ) (l : List U8) : (mid.take 14 ++ l).getD (14 + i) 0 = l.getD i 0 := by
    rw [List.getD_eq_getElem?_getD, List.getElem?_append_right (by omega), hlen,
      Nat.add_sub_cancel_left, List.getD_eq_getElem?_getD]
  rw [ogm2TvlvLen, hget 0, hget 1]
  exact length_bytes_append tvlvLen

/-- What is in a queue after an OGM was put into it. -/
lemma mem_vOgmQueueOnIf {skb waiting : List U8} {iface : AggrIface} {allocated : Bool}
    {q : AggrQueue} (h : waiting ∈ (vOgmQueueOnIf skb iface allocated q).1.aggrList) :
    waiting = skb ∨ waiting ∈ q.aggrList := by
  have hsend : ∀ w ∈ (vOgmAggrSend iface allocated q).1.aggrList, w ∈ q.aggrList := by
    intro w hw
    unfold vOgmAggrSend vOgmAggrListFree at hw
    split_ifs at hw
    · exact hw
    · exact absurd hw List.not_mem_nil
    · exact absurd hw List.not_mem_nil
  unfold vOgmQueueOnIf at h
  split_ifs at h
  · exact Or.inr h
  · rcases List.mem_append.1 h with h | h
    · exact Or.inr (hsend _ h)
    · exact Or.inl (List.mem_singleton.1 h)
  · rcases List.mem_append.1 h with h | h
    · exact Or.inr h
    · exact Or.inl (List.mem_singleton.1 h)

/-- The OGMs that are queued are the one that is sent, and it may wait in the queues now. -/
lemma ownOgmBroadcast_spec {skb : List U8} {port : ℕ → OwnOgmPort} {i : ℕ}
    {ifaces : List (AggrIface × AggrQueue)} :
    (∀ queued ∈ (ownOgmBroadcast skb port i ifaces).2, queued = skb) ∧
      ∀ p ∈ (ownOgmBroadcast skb port i ifaces).1, ∀ waiting ∈ p.2.aggrList,
        waiting = skb ∨ ∃ p' ∈ ifaces, waiting ∈ p'.2.aggrList := by
  induction ifaces generalizing i with
  | nil => exact ⟨nofun, nofun⟩
  | cons entry ifaces ih =>
    obtain ⟨iface, q⟩ := entry
    obtain ⟨hqueued, hwaiting⟩ := ih (i := i + 1)
    -- what waits in the queues behind the first one
    have hrest : ∀ p ∈ (ownOgmBroadcast skb port (i + 1) ifaces).1, ∀ waiting ∈ p.2.aggrList,
        waiting = skb ∨ ∃ p' ∈ (iface, q) :: ifaces, waiting ∈ p'.2.aggrList := by
      intro p hp waiting hw
      rcases hwaiting p hp waiting hw with heq | ⟨p', hp', hw'⟩
      · exact Or.inl heq
      · exact Or.inr ⟨p', List.mem_cons_of_mem _ hp', hw'⟩
    have hfirst : ∀ waiting ∈ q.aggrList,
        waiting = skb ∨ ∃ p' ∈ (iface, q) :: ifaces, waiting ∈ p'.2.aggrList :=
      fun waiting hw => Or.inr ⟨(iface, q), List.mem_cons_self, hw⟩
    unfold ownOgmBroadcast
    split_ifs
    · exact ⟨hqueued, List.forall_mem_cons.2 ⟨hfirst, hrest⟩⟩
    · exact ⟨nofun, fun p hp waiting hw => Or.inr ⟨p, hp, hw⟩⟩
    · refine ⟨List.forall_mem_cons.2 ⟨rfl, hqueued⟩, List.forall_mem_cons.2 ⟨?_, hrest⟩⟩
      intro waiting hw
      rcases mem_vOgmQueueOnIf hw with heq | hw
      · exact Or.inl heq
      · exact hfirst waiting hw

/-- **An OGM is sent with the length it announces**, where the buffer and the size agree. -/
lemma vOgmSendMeshif_spec {input : OwnOgmInput} {s s' : OwnOgmPriv} {queued : List (List U8)}
    (h : s.Inv) (hfits : OwnOgmFits s (.sendMeshif input))
    (hsend : vOgmSendMeshif input s = some (s', queued)) :
    s'.Inv ∧ ∀ skb ∈ queued, OgmWhole skb := by
  unfold vOgmSendMeshif at hsend
  by_cases hdeact : input.meshDeactivating = true
  · rw [if_pos hdeact] at hsend
    cases hsend
    exact ⟨h, nofun⟩
  rw [if_neg hdeact] at hsend
  have hok := (tvlvContainerOgmAppend_iff (s.containersFor input) input.fresh h.header).2
    (hfits (by simpa using hdeact))
  obtain ⟨buff, tvlvLen, happend, hlen, -, -⟩ := hok
  have hheader : OGM2_HLEN ≤ buff.length := by omega
  simp only [happend, Option.bind_eq_bind, Option.bind_some, Option.pure_def] at hsend
  split_ifs at hsend with hskb
  · cases hsend
    exact ⟨⟨hheader, h.queued⟩, nofun⟩
  · rw [Option.bind_eq_some_iff] at hsend
    obtain ⟨skb, hown, hsent⟩ := hsend
    cases hsent
    obtain ⟨hlength, hfield⟩ := ownOgmSkb_spec hown
    have hwhole : OgmWhole skb := by
      rw [OgmWhole, hfield, hlength]
      omega
    obtain ⟨hqueued, hwaiting⟩ := @ownOgmBroadcast_spec skb input.port 0 s.hardIfaces
    refine ⟨⟨hheader, fun p hp waiting hw => ?_⟩, fun ogm hogm => hqueued ogm hogm ▸ hwhole⟩
    rcases hwaiting p hp waiting hw with heq | ⟨p', hp', hw'⟩
    · exact heq ▸ hwhole
    · exact h.queued p' hp' waiting hw'

/-- **Every event keeps the invariant**, and what it queues has the length it announces. -/
lemma OwnOgmPriv.Inv.step {s : OwnOgmPriv} (h : s.Inv) (e : OwnOgmEvent) (hfits : OwnOgmFits s e) :
    (ownOgmNext s e).Inv ∧ ∀ skb ∈ ownOgmQueued s e, OgmWhole skb := by
  unfold ownOgmNext ownOgmQueued
  cases hstep : ownOgmStep s e with
  | none => exact ⟨h, nofun⟩
  | some after =>
    obtain ⟨s', queued⟩ := after
    change s'.Inv ∧ ∀ skb ∈ queued, OgmWhole skb
    cases e with
    | setMesh attrs =>
      cases hstep
      exact ⟨⟨h.header, h.queued⟩, nofun⟩
    | container call =>
      cases hstep
      exact ⟨⟨h.header, h.queued⟩, nofun⟩
    | primaryIfaceSet devAddr =>
      rw [ownOgmStep, Option.map_eq_some_iff] at hstep
      obtain ⟨ogmBuff, hwrite, heq⟩ := hstep
      cases heq
      exact ⟨⟨(length_blockWrite hwrite).symm ▸ h.header, h.queued⟩, nofun⟩
    | sendMeshif input => exact vOgmSendMeshif_spec h hfits hstep

/-- A node that has sent nothing yet. -/
lemma vOgmInit_inv (config : MeshConfig) (randomSeqno : U32) (hardIfaces : List AggrIface) :
    (vOgmInit config randomSeqno hardIfaces).Inv := by
  refine ⟨le_rfl, fun port hport skb hskb => ?_⟩
  obtain ⟨iface, -, rfl⟩ := List.mem_map.1 hport
  exact absurd hskb List.not_mem_nil

/-- **The length of a node's own OGMs.**  For all containers, every buffer with a header and every
outcome of the allocation, the buffer and the size that is returned agree exactly if there is memory
and the containers take less than 64 KiB, or there is none and their size is that of the data in the
buffer.  In every run in which this is so whenever an OGM is sent, the OGMs that are queued, and
those that wait in the queues of the interfaces, have the length they announce. -/
theorem own_ogm_length (containerList : List TvlvContainer) (fresh : Option (ℕ → U8))
    {packetBuff : List U8} {packetMinLen : ℕ} (hmin : packetMinLen ≤ packetBuff.length)
    (config : MeshConfig) (randomSeqno : U32) (hardIfaces : List AggrIface)
    (es : List OwnOgmEvent) :
    (TvlvAppendOk containerList fresh packetBuff packetMinLen ↔
      TvlvAppendFits containerList fresh packetBuff packetMinLen) ∧
    (Run.AllSteps ownOgmNext OwnOgmFits (vOgmInit config randomSeqno hardIfaces) es →
      Run.AllSteps ownOgmNext (fun s e => ∀ skb ∈ ownOgmQueued s e,
          skb.length = OGM2_HLEN + (ogm2TvlvLen skb).toNat)
        (vOgmInit config randomSeqno hardIfaces) es ∧
      ∀ s ∈ Run.states ownOgmNext (vOgmInit config randomSeqno hardIfaces) es,
        ∀ port ∈ s.hardIfaces, ∀ skb ∈ port.2.aggrList,
          skb.length = OGM2_HLEN + (ogm2TvlvLen skb).toNat) := by
  refine ⟨tvlvContainerOgmAppend_iff containerList fresh hmin, fun hfits => ⟨?_, fun s hs => ?_⟩⟩
  · exact Run.AllSteps.imp OwnOgmPriv.Inv
      (fun s e hinv hfits => ⟨(hinv.step e hfits).2, (hinv.step e hfits).1⟩)
      (vOgmInit_inv config randomSeqno hardIfaces) hfits
  · exact (Run.AllSteps.forall_mem_states OwnOgmPriv.Inv
      (fun s e hinv hfits => (hinv.step e hfits).1)
      (vOgmInit_inv config randomSeqno hardIfaces) hfits s hs).queued

/-! ### Two intervals -/

/-- An OGM is sent over all interfaces, with or without memory for its buffer. -/
def sendOwnOgm (fresh : Option (ℕ → U8)) : OwnOgmEvent :=
  .sendMeshif ⟨false, [], true, fresh, true, fun _ => ⟨true, .ok, true, true⟩⟩

/-- A node with an interface that sends every OGM on its own. -/
def ownOgmNode : OwnOgmPriv := vOgmInit meshConfigInit 1 [⟨1500, true, false⟩]

/-- Two OGMs, the second one without memory but with the same containers: the theorem applies. -/
theorem own_ogm_length_two :
    (ownOgmQueued (Run.final ownOgmNext ownOgmNode [sendOwnOgm (some fun _ => 0)])
        (sendOwnOgm none)).map List.length =
      (ownOgmQueued (Run.final ownOgmNext ownOgmNode [sendOwnOgm (some fun _ => 0)])
        (sendOwnOgm none)).map (fun skb => OGM2_HLEN + (ogm2TvlvLen skb).toNat) := by
  have hsteps := ((own_ogm_length [] none (show OGM2_HLEN ≤ (List.replicate 20 0).length by decide)
    meshConfigInit 1 [⟨1500, true, false⟩]
    [sendOwnOgm (some fun _ => 0), sendOwnOgm none]).2
    ⟨fun _ => by decide, fun _ => by decide, trivial⟩).1
  exact List.map_congr_left hsteps.2.1

/-- **An OGM that is shorter than it announces**: after an OGM with the container of the node's
weight was sent, a container of 4 bytes is registered, and there is no memory for a buffer with
both. -/
theorem own_ogm_too_short :
    (¬ TvlvAppendOk [⟨1, 1, [0, 0, 0, 0]⟩, ⟨TVLV_NODE_WEIGHT, 1, [128, 100, 1]⟩] none
        (List.replicate 27 0) OGM2_HLEN) ∧
      ownOgmQueued
          (Run.final ownOgmNext ownOgmNode [sendOwnOgm (some fun _ => 0),
            .container (.register 1 1 (some ⟨[0, 0, 0, 0], by simp⟩) true)])
          (sendOwnOgm none) =
        [[4, 15, 50, 0, 0, 0, 0, 2, 0, 0, 0, 0, 0, 0, 0, 15, 0, 0, 0, 0,
          0x10, 1, 0, 3, 128, 100, 1]] := by
  constructor
  · rintro ⟨buff, tvlvLen, happend, hlen, -⟩
    cases happend
    revert hlen
    decide
  · decide

end Batadv
