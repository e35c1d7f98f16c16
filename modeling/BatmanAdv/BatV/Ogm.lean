import BatmanAdv.BatV.Metric

set_option relaxedAutoImplicit false
set_option autoImplicit false

/-!
# Processing of received OGM2 packets (`bat_v_ogm.c`)

`batadv_v_ogm_process` handles one received OGM2: it runs the TVLV handlers, updates the metric
and the route for the default interface, and then, for each active interface that needs the
broadcast, updates metric and route for that interface and forwards the OGM there.

## Main definitions

* `Batadv.Ogm2Packet`, `Batadv.OgmRecv` — the packet, and what comes with its reception.
* `Batadv.vOgmMetricUpdate`, `Batadv.vOgmRouteUpdate`, `Batadv.vOgmForward`,
  `Batadv.vOgmProcessPerOutif`, `Batadv.vOgmProcess` — the functions of these names.
* `Batadv.vTvlvNodeWeightHandler` — the TVLV handler of the node weight.

## Main results

* `Batadv.vOgmMetricUpdate_spec` — what a metric update does: it fails, or it stores the cost.
* `Batadv.vOgmForward_spec` — what a forwarded OGM is.
* `Batadv.vOgmProcess_forwarded` — every OGM a node sends on carries the cost that the node
  computed from the received one.
-/

namespace Batadv

/-- `struct batadv_ogm2_packet` with the TVLV buffer that follows it. -/
structure Ogm2Packet where
  ttl : U8
  seqno : U32
  orig : EthAddr
  throughput : U32
  tvlv : List U8
deriving DecidableEq, Repr

/-- The reception of an OGM2: the packet, the sender in the Ethernet header, the interface it came
in on, the time, and which allocations succeed while it is processed. -/
structure OgmRecv where
  ogm : Ogm2Packet
  source : EthAddr
  ifIncoming : HardIface
  jiffies : Jiffies
  alloc : Alloc

/-- The key of the neighbour the OGM came from. -/
def OgmRecv.neigh (ev : OgmRecv) : NeighKey := ⟨ev.source, ev.ifIncoming.ifindex⟩

/-- `BATADV_OGM_MAX_AGE`. -/
def OGM_MAX_AGE : ℤ := 64

/-- `BATADV_OGM_MAX_ORIGDIFF`. -/
def OGM_MAX_ORIGDIFF : ℤ := 5

variable {δ : Type*} (msecsToJiffies : ℕ → Jiffies)

/-- `batadv_v_ogm_orig_get`: the originator with the given address, created if there is none. -/
def vOgmOrigGet [Inhabited δ] (ev : OgmRecv) (bat : BatPriv δ) (addr : EthAddr) :
    Option (BatPriv δ × OrigNode δ) :=
  match origHashFind bat addr with
  | some orig => some (bat, orig)
  | none =>
    if ev.alloc.origNode addr then
      let orig := origNodeNew ev.jiffies addr
      some (bat.setOrig addr orig, orig)
    else none

/-- The airtime of the link the OGM came in on, as `batadv_v_ogm_metric_update` looks it up. -/
def linkAirtime (ev : OgmRecv) : U32 :=
  match hardifNeighGet ev.ifIncoming ev.source with
  | some hardifNeigh => hardifNeigh.airtimeCost
  | none => AIRTIME_MAX_VALUE

/-- The cost that `batadv_v_ogm_metric_update` stores for an outgoing interface. -/
def pathCost (config : MeshConfig) (ev : OgmRecv) (ifOutgoing : Option HardIface) : U32 :=
  vForwardPenalty config ev.ifIncoming ifOutgoing (addLink ev.ogm.throughput (linkAirtime ev))

/-- The difference of the sequence numbers in `batadv_v_ogm_metric_update`, an `s32`. -/
def ogmSeqDiff (ev : OgmRecv) (origIfinfo : OrigIfinfo) : ℤ :=
  (ev.ogm.seqno - origIfinfo.lastRealSeqno).toInt

/-- The sanity checks of `batadv_v_ogm_metric_update`: `none` when the OGM is outdated or comes
from a node that seems to have restarted too often, otherwise the time of the last reset and
whether the protection was started.  The protection applies once there is a neighbour. -/
def ogmSeqnoCheck (ev : OgmRecv) (orig : OrigNode δ) (origIfinfo : OrigIfinfo) :
    Option (Jiffies × Bool) :=
  let seqDiff := ogmSeqDiff ev origIfinfo
  let protection :=
    if orig.neighList.isEmpty then some (origIfinfo.batmanSeqnoReset, false)
    else windowProtected msecsToJiffies ev.jiffies seqDiff OGM_MAX_AGE origIfinfo.batmanSeqnoReset
  match protection with
  | none => none
  | some (batmanSeqnoReset, protectionStarted) =>
    if seqDiff < 0 ∧ protectionStarted = false then none
    else some (batmanSeqnoReset, protectionStarted)

/-- The part of `batadv_v_ogm_metric_update` that stores the cost with the neighbour, and whether
it could be stored. -/
def ogmStoreMetric (config : MeshConfig) (ev : OgmRecv) (orig : OrigNode δ)
    (ifOutgoing : Option HardIface) : OrigNode δ × Bool :=
  match orig.neighList.get ev.neigh with
  | none => (orig, false)
  | some neigh =>
    let neigh := { neigh with lastSeen := ev.jiffies }
    match neighIfinfoNew ev.alloc neigh (ifKey ifOutgoing) with
    | none => ({ orig with neighList := orig.neighList.set ev.neigh neigh }, false)
    | some (neigh, _) =>
      let neighIfinfo : NeighIfinfo :=
        { airtimeCost := pathCost config ev ifOutgoing
          lastSeqno := ev.ogm.seqno
          lastTtl := ev.ogm.ttl }
      let neigh := { neigh with ifinfoList := neigh.ifinfoList.set (ifKey ifOutgoing) neighIfinfo }
      ({ orig with neighList := orig.neighList.set ev.neigh neigh }, true)

/-- `batadv_v_ogm_metric_update`: 1 if the OGM is new, 0 if it is not new but valid, and a
negative value on error.  An error leaves in place what was stored before it. -/
def vOgmMetricUpdate (config : MeshConfig) (ev : OgmRecv) (orig : OrigNode δ)
    (ifOutgoing : Option HardIface) : OrigNode δ × ℤ :=
  match origIfinfoNew msecsToJiffies ev.jiffies ev.alloc orig (ifKey ifOutgoing) with
  | none => (orig, -EINVAL)
  | some (orig, origIfinfo) =>
    match ogmSeqnoCheck msecsToJiffies ev orig origIfinfo with
    | none => (orig, -EINVAL)
    | some (batmanSeqnoReset, protectionStarted) =>
      let seqDiff := ogmSeqDiff ev origIfinfo
      let origIfinfo :=
        { origIfinfo with
          batmanSeqnoReset := batmanSeqnoReset
          lastRealSeqno := ev.ogm.seqno
          lastTtl := ev.ogm.ttl }
      let orig :=
        { orig with
          lastSeen := ev.jiffies
          ifinfoList := orig.ifinfoList.set (ifKey ifOutgoing) origIfinfo }
      match ogmStoreMetric config ev orig ifOutgoing with
      | (orig, false) => (orig, -EINVAL)
      | (orig, true) => (orig, if 0 < seqDiff ∨ protectionStarted = true then 1 else 0)

/-- The test in `batadv_v_ogm_route_update` that keeps the present router: the new neighbour has
not a lower cost, and its OGM is not much newer. -/
def keepRouter (routerIfinfo neighIfinfo : NeighIfinfo) : Bool :=
  decide ((neighIfinfo.lastSeqno - routerIfinfo.lastSeqno).toInt < OGM_MAX_ORIGDIFF) &&
    decide (routerIfinfo.airtimeCost ≤ neighIfinfo.airtimeCost)

/-- `batadv_v_ogm_route_update`: whether the packet should be forwarded.  The originator is read
from the hash again after the sender's record was looked up, since the two may be the same. -/
def vOgmRouteUpdate [Inhabited δ] (ev : OgmRecv) (bat : BatPriv δ)
    (ifOutgoing : Option HardIface) : BatPriv δ × Bool :=
  match vOgmOrigGet ev bat ev.source with
  | none => (bat, false)
  | some (bat, origNeighNode) =>
    match origHashFind bat ev.ogm.orig with
    | none => (bat, false)
    | some orig =>
      let origNeighRouter := origRouterGet origNeighNode (ifKey ifOutgoing)
      match origRouterGet orig (ifKey ifOutgoing) with
      | none => (bat.setOrig ev.ogm.orig (updateRoute orig (ifKey ifOutgoing) ev.neigh), true)
      | some router =>
        let routerOrig := ((orig.neighList.get router).map NeighNode.origNode).getD orig.orig
        -- drop packet if sender is not a direct neighbor and if we don't route towards it
        if routerOrig ≠ orig.orig ∧ origNeighRouter = none then (bat, false)
        else if router = ev.neigh then (bat, true)
        else
          match orig.neighIfinfoGet router (ifKey ifOutgoing),
            orig.neighIfinfoGet ev.neigh (ifKey ifOutgoing) with
          | some routerIfinfo, some neighIfinfo =>
            if keepRouter routerIfinfo neighIfinfo then (bat, true)
            else (bat.setOrig ev.ogm.orig (updateRoute orig (ifKey ifOutgoing) ev.neigh), true)
          | _, _ => (bat, true)

/-- `batadv_v_ogm_forward`: the OGM that is queued on the outgoing interface, if any. -/
def vOgmForward (config : MeshConfig) (ev : OgmRecv) (orig : OrigNode δ)
    (ifOutgoing : Option HardIface) : OrigNode δ × Option Ogm2Packet :=
  match ifOutgoing with
  | none => (orig, none)
  | some out =>
    match origIfinfoNew msecsToJiffies ev.jiffies ev.alloc orig (some out.ifindex) with
    | none => (orig, none)
    | some (orig, origIfinfo) =>
      if origRouterGet orig (some out.ifindex) ≠ some ev.neigh then (orig, none)
      else if origIfinfo.lastSeqnoForwarded = ev.ogm.seqno then (orig, none)
      else
        let origIfinfo := { origIfinfo with lastSeqnoForwarded := ev.ogm.seqno }
        let orig := { orig with ifinfoList := orig.ifinfoList.set (some out.ifindex) origIfinfo }
        if ev.ogm.ttl ≤ 1 then (orig, none)
        else
          match orig.neighIfinfoGet ev.neigh (some out.ifindex) with
          | none => (orig, none)
          | some neighIfinfo =>
            if ev.alloc.skb out.ifindex then
              (orig, some
                { ev.ogm with
                  throughput := selfWeight config neighIfinfo.airtimeCost
                  ttl := ev.ogm.ttl - 1 })
            else (orig, none)

/-- `batadv_v_ogm_process_per_outif`: the state after it, the result of the metric update, and the
OGM that was forwarded. -/
def vOgmProcessPerOutif [Inhabited δ] (ev : OgmRecv) (bat : BatPriv δ)
    (ifOutgoing : Option HardIface) : BatPriv δ × ℤ × Option Ogm2Packet :=
  match origHashFind bat ev.ogm.orig with
  | none => (bat, -EINVAL, none)
  | some orig =>
    let (orig, seqnoAge) := vOgmMetricUpdate msecsToJiffies bat.config ev orig ifOutgoing
    let bat := bat.setOrig ev.ogm.orig orig
    if seqnoAge < 0 then (bat, seqnoAge, none)
    else
      let (bat, forward) := vOgmRouteUpdate ev bat ifOutgoing
      if forward then
        match origHashFind bat ev.ogm.orig with
        | none => (bat, seqnoAge, none)
        | some orig =>
          let (orig, packet) := vOgmForward msecsToJiffies bat.config ev orig ifOutgoing
          (bat.setOrig ev.ogm.orig orig, seqnoAge, packet)
      else (bat, seqnoAge, none)

/-- The interfaces `batadv_v_ogm_process` goes through after the default one. -/
def ogmOutIfaces (bat : BatPriv δ) (ev : OgmRecv) (hardifNeigh : HardifNeighNode) :
    List HardIface :=
  bat.hardIfaces.filter (fun h =>
    h.active && hardifNoBroadcast h ev.ogm.orig (some hardifNeigh.orig) == .ok)

/-- The loop over the outgoing interfaces, with the OGMs that are forwarded. -/
def vOgmProcessIfaces [Inhabited δ] (ev : OgmRecv) :
    BatPriv δ → List HardIface → BatPriv δ × List (ℕ × Ogm2Packet)
  | bat, [] => (bat, [])
  | bat, out :: outs =>
    let (bat, _, packet) := vOgmProcessPerOutif msecsToJiffies ev bat (some out)
    let (bat, rest) := vOgmProcessIfaces ev bat outs
    (bat, (packet.map (out.ifindex, ·)).toList ++ rest)

/-- What the processing of an OGM did besides changing the state: the TVLV handlers it ran, the
result of the metric update for the default interface when it came to that, and the OGMs it
forwarded, each with its interface. -/
structure OgmOutcome where
  called : List TvlvCall
  seqnoAge : Option ℤ
  forwarded : List (ℕ × Ogm2Packet)
deriving DecidableEq, Repr

/-- The outcome of an OGM that is dropped at once. -/
def OgmOutcome.dropped : OgmOutcome := ⟨[], none, []⟩

/-- The lookups of `batadv_v_ogm_process` before the TVLV handlers are run: `none` when the OGM is
dropped, otherwise the originator's record, in the hash and with the neighbour in its list. -/
def vOgmAccept [Inhabited δ] (ev : OgmRecv) (bat : BatPriv δ) :
    Option (BatPriv δ × OrigNode δ × HardifNeighNode) :=
  if isMyMac bat ev.ogm.orig then none
  else if ev.ogm.throughput = AIRTIME_MAX_VALUE then none
  else
    match hardifNeighGet ev.ifIncoming ev.source with
    | none => none
    | some hardifNeigh =>
      match vOgmOrigGet ev bat ev.ogm.orig with
      | none => none
      | some (bat, orig) =>
        match neighNodeGetOrCreate ev.jiffies ev.alloc orig ev.neigh with
        | none => none
        | some orig => some (bat, orig, hardifNeigh)

/-- The state in which `batadv_v_ogm_process` gives up: the originator may have been created. -/
def vOgmRejectState [Inhabited δ] (ev : OgmRecv) (bat : BatPriv δ) : BatPriv δ :=
  if isMyMac bat ev.ogm.orig then bat
  else if ev.ogm.throughput = AIRTIME_MAX_VALUE then bat
  else
    match hardifNeighGet ev.ifIncoming ev.source with
    | none => bat
    | some _ =>
      match vOgmOrigGet ev bat ev.ogm.orig with
      | none => bat
      | some (bat, _) => bat

/-- The state after the TVLV handlers were run for the OGM. -/
def ogmTvlvState (ev : OgmRecv) (bat : BatPriv δ) (orig : OrigNode δ) : BatPriv δ :=
  let tvlv := tvlvContainersProcess orig.tvlv bat.handlerList ev.ogm.tvlv
  { bat.setOrig ev.ogm.orig { orig with tvlv := tvlv.ctx } with handlerList := tvlv.handlerList }

/-- `batadv_v_ogm_process`. -/
def vOgmProcess [Inhabited δ] (bat : BatPriv δ) (ev : OgmRecv) : BatPriv δ × OgmOutcome :=
  match vOgmAccept ev bat with
  | none => (vOgmRejectState ev bat, .dropped)
  | some (bat, orig, hardifNeigh) =>
    let called := (tvlvContainersProcess orig.tvlv bat.handlerList ev.ogm.tvlv).called
    let bat := ogmTvlvState ev bat orig
    let (bat, seqnoAge, _) := vOgmProcessPerOutif msecsToJiffies ev bat none
    let (bat, forwarded) :=
      vOgmProcessIfaces msecsToJiffies ev bat (ogmOutIfaces bat ev hardifNeigh)
    (bat, ⟨called, some seqnoAge, forwarded⟩)

/-- `batadv_v_tvlv_node_weight_handler`: a value that is too short is ignored. -/
def vTvlvNodeWeightHandler (orig : OrigTvlv δ) (_flags : U8) (tvlvValue : List U8) : OrigTvlv δ :=
  match tvlvValue with
  | priority :: dutyCycle :: powerClass :: _ =>
    { orig with nodePriority := priority, dutyCycle := dutyCycle, powerClass := powerClass }
  | _ => orig

/-- The handler that `batadv_v_ogm_init` registers, for `BATADV_TVLV_NODE_WEIGHT` version 1. -/
def nodeWeightTvlvHandler : TvlvHandler (OrigTvlv δ) :=
  ⟨0x10, 1, TVLV_HANDLER_OGM_CIFNOTFND, some vTvlvNodeWeightHandler⟩

/-! ### The metric update -/

variable {msecsToJiffies} {ev : OgmRecv} {ifOutgoing : Option HardIface}

/-- A neighbour's record is found where it was put. -/
lemma neighIfinfoGet_set (orig : OrigNode δ) (neigh : NeighKey) (n : NeighNode) (key : IfKey)
    (info : NeighIfinfo) :
    OrigNode.neighIfinfoGet
      { orig with
        neighList := orig.neighList.set neigh
          { n with ifinfoList := n.ifinfoList.set key info } } neigh key = some info := by
  simp [OrigNode.neighIfinfoGet]

/-- Storing the metric changes the list of neighbours only, and once stored it is found. -/
lemma ogmStoreMetric_eq {config : MeshConfig} {orig orig' : OrigNode δ} {ok : Bool}
    (h : ogmStoreMetric config ev orig ifOutgoing = (orig', ok)) :
    orig'.tvlv = orig.tvlv ∧ orig'.ifinfoList = orig.ifinfoList ∧
      (ok = true → orig'.neighIfinfoGet ev.neigh (ifKey ifOutgoing) =
        some ⟨pathCost config ev ifOutgoing, ev.ogm.seqno, ev.ogm.ttl⟩) := by
  unfold ogmStoreMetric at h
  split at h
  · obtain ⟨rfl, rfl⟩ := by simpa using h
    exact ⟨rfl, rfl, fun hf => nomatch hf⟩
  · dsimp only at h
    split at h
    · obtain ⟨rfl, rfl⟩ := by simpa using h
      exact ⟨rfl, rfl, fun hf => nomatch hf⟩
    · obtain ⟨rfl, rfl⟩ := by simpa using h
      exact ⟨rfl, rfl, fun _ => neighIfinfoGet_set _ _ _ _ _⟩

/-- **What a metric update does.**  It keeps what the TVLV handlers know, and unless it fails the
neighbour's record holds the cost and the sequence number of the OGM. -/
theorem vOgmMetricUpdate_spec (msecsToJiffies : ℕ → Jiffies) (ev : OgmRecv)
    (ifOutgoing : Option HardIface) (config : MeshConfig) (orig : OrigNode δ) :
    (vOgmMetricUpdate msecsToJiffies config ev orig ifOutgoing).1.tvlv = orig.tvlv ∧
      (0 ≤ (vOgmMetricUpdate msecsToJiffies config ev orig ifOutgoing).2 →
        (vOgmMetricUpdate msecsToJiffies config ev orig ifOutgoing).1.neighIfinfoGet ev.neigh
            (ifKey ifOutgoing) =
          some ⟨pathCost config ev ifOutgoing, ev.ogm.seqno, ev.ogm.ttl⟩) := by
  have hneg : ¬ (0 : ℤ) ≤ -EINVAL := by decide
  unfold vOgmMetricUpdate
  split
  · exact ⟨rfl, fun h => absurd h hneg⟩
  · next orig' origIfinfo hnew =>
    have htvlv := (origIfinfoNew_eq_some hnew).2.2.2
    split
    · exact ⟨htvlv, fun h => absurd h hneg⟩
    · dsimp only
      split
      · next hstore =>
        exact ⟨(ogmStoreMetric_eq hstore).1.trans htvlv, fun h => absurd h hneg⟩
      · next hstore =>
        obtain ⟨hframe, -, hfound⟩ := ogmStoreMetric_eq hstore
        exact ⟨hframe.trans htvlv, fun _ => hfound rfl⟩

/-! ### The route update -/

/-- Looking up an originator changes no TVLV data, and no record that was there before. -/
lemma vOgmOrigGet_eq_some [Inhabited δ] {bat bat' : BatPriv δ} {addr : EthAddr}
    {orig : OrigNode δ} (h : vOgmOrigGet ev bat addr = some (bat', orig)) :
    SameTvlv bat bat' ∧ origHashFind bat' addr = some orig ∧
      ∀ a o, origHashFind bat a = some o → origHashFind bat' a = some o := by
  unfold vOgmOrigGet at h
  split at h
  · next hfind =>
    obtain ⟨rfl, rfl⟩ := by simpa using h
    exact ⟨SameTvlv.refl _, hfind, fun _ _ ho => ho⟩
  · next hfind =>
    split_ifs at h
    obtain ⟨rfl, rfl⟩ := by simpa using h
    refine ⟨SameTvlv.setOrig (by simp [tvlvOf, hfind, origNodeNew]), by simp, fun a o ho => ?_⟩
    have hne : a ≠ addr := by
      rintro rfl
      rw [hfind] at ho
      cases ho
    rwa [origHashFind_setOrig_of_ne _ _ hne]

/-- Setting a route changes no metric and no TVLV data. -/
lemma updateRoute_frame (orig : OrigNode δ) (key : IfKey) (neigh : NeighKey) :
    (updateRoute orig key neigh).tvlv = orig.tvlv ∧
      (updateRoute orig key neigh).neighList = orig.neighList := by
  unfold updateRoute
  split <;> exact ⟨rfl, rfl⟩

/-- A route update keeps the metrics of the originator and all TVLV data. -/
lemma vOgmRouteUpdate_frame [Inhabited δ] {bat bat' : BatPriv δ} {orig : OrigNode δ}
    {forward : Bool} (horig : origHashFind bat ev.ogm.orig = some orig)
    (h : vOgmRouteUpdate ev bat ifOutgoing = (bat', forward)) :
    SameTvlv bat bat' ∧
      ∃ orig', origHashFind bat' ev.ogm.orig = some orig' ∧ orig'.neighList = orig.neighList := by
  unfold vOgmRouteUpdate at h
  split at h
  · obtain ⟨rfl, rfl⟩ := by simpa using h
    exact ⟨SameTvlv.refl _, orig, horig, rfl⟩
  · next bat₁ origNeigh hget =>
    obtain ⟨hsame, -, hkeep⟩ := vOgmOrigGet_eq_some hget
    have horig₁ := hkeep _ _ horig
    -- the state in which the route was set
    have hset : SameTvlv bat (bat₁.setOrig ev.ogm.orig
        (updateRoute orig (ifKey ifOutgoing) ev.neigh)) :=
      hsame.trans (SameTvlv.setOrig
        ((updateRoute_frame _ _ _).1.trans (tvlvOf_eq_of_find horig₁).symm))
    have hfound : ∃ orig', origHashFind (bat₁.setOrig ev.ogm.orig
        (updateRoute orig (ifKey ifOutgoing) ev.neigh)) ev.ogm.orig = some orig' ∧
          orig'.neighList = orig.neighList :=
      ⟨_, origHashFind_setOrig_self _ _ _, (updateRoute_frame _ _ _).2⟩
    simp only [horig₁] at h
    split at h
    · obtain ⟨rfl, rfl⟩ := by simpa using h
      exact ⟨hset, hfound⟩
    · split_ifs at h
      · obtain ⟨rfl, rfl⟩ := by simpa using h
        exact ⟨hsame, orig, horig₁, rfl⟩
      · obtain ⟨rfl, rfl⟩ := by simpa using h
        exact ⟨hsame, orig, horig₁, rfl⟩
      · split at h
        · split_ifs at h
          · obtain ⟨rfl, rfl⟩ := by simpa using h
            exact ⟨hsame, orig, horig₁, rfl⟩
          · obtain ⟨rfl, rfl⟩ := by simpa using h
            exact ⟨hset, hfound⟩
        · obtain ⟨rfl, rfl⟩ := by simpa using h
          exact ⟨hsame, orig, horig₁, rfl⟩

/-! ### Forwarding -/

/-- The OGM that is sent on over an interface. -/
def forwardedOgm (config : MeshConfig) (ev : OgmRecv) (out : HardIface) : Ogm2Packet :=
  { ev.ogm with
    throughput := selfWeight config (pathCost config ev (some out))
    ttl := ev.ogm.ttl - 1 }

/-- **What a forwarded OGM is**: the received one, with the stored cost weighted and the time to
live, which was at least 2, decremented. -/
theorem vOgmForward_spec {config : MeshConfig} {orig orig' : OrigNode δ}
    {packet : Option Ogm2Packet}
    (h : vOgmForward msecsToJiffies config ev orig ifOutgoing = (orig', packet)) :
    orig'.tvlv = orig.tvlv ∧ ∀ p ∈ packet, ∃ out info, ifOutgoing = some out ∧
      orig.neighIfinfoGet ev.neigh (some out.ifindex) = some info ∧ 1 < ev.ogm.ttl ∧
      p = { ev.ogm with
            throughput := selfWeight config info.airtimeCost
            ttl := ev.ogm.ttl - 1 } := by
  -- every early exit leaves the TVLV data and sends nothing
  have exit : ∀ {o : OrigNode δ}, o.tvlv = orig.tvlv →
      (o, (none : Option Ogm2Packet)) = (orig', packet) →
      orig'.tvlv = orig.tvlv ∧ packet = none := by
    rintro o ho ⟨⟩
    exact ⟨ho, rfl⟩
  have done : orig'.tvlv = orig.tvlv ∧ packet = none → orig'.tvlv = orig.tvlv ∧
      ∀ p ∈ packet, ∃ out info, ifOutgoing = some out ∧
        orig.neighIfinfoGet ev.neigh (some out.ifindex) = some info ∧ 1 < ev.ogm.ttl ∧
        p = { ev.ogm with
              throughput := selfWeight config info.airtimeCost
              ttl := ev.ogm.ttl - 1 } := by
    rintro ⟨htvlv, rfl⟩
    exact ⟨htvlv, fun p hp => nomatch hp⟩
  unfold vOgmForward at h
  split at h
  · exact done (exit rfl h)
  · next out =>
    split at h
    · exact done (exit rfl h)
    · next orig₁ origIfinfo hnew =>
      obtain ⟨-, -, hneigh, htvlv⟩ := origIfinfoNew_eq_some hnew
      split at h
      · exact done (exit htvlv h)
      · split at h
        · exact done (exit htvlv h)
        · dsimp only at h
          split at h
          · exact done (exit (by exact htvlv) h)
          · next httl =>
            split at h
            · exact done (exit (by exact htvlv) h)
            · next info hinfo =>
              have hinfo' : orig.neighIfinfoGet ev.neigh (some out.ifindex) = some info := by
                rw [← hinfo, OrigNode.neighIfinfoGet, OrigNode.neighIfinfoGet, hneigh]
              split at h
              · cases h
                refine ⟨htvlv, fun p hp => ⟨out, info, rfl, hinfo', BitVec.not_le.1 httl, ?_⟩⟩
                exact (Option.mem_some_iff.1 hp).symm
              · exact done (exit (by exact htvlv) h)

/-! ### The processing of one OGM -/

/-- What `vOgmProcessPerOutif` does to an originator that is known: TVLV data stay, and an OGM
that is forwarded is the received one with the cost computed from it, after a metric update that
did not fail. -/
lemma vOgmProcessPerOutif_spec [Inhabited δ] {bat bat' : BatPriv δ} {orig : OrigNode δ}
    {seqnoAge : ℤ} {packet : Option Ogm2Packet} (horig : origHashFind bat ev.ogm.orig = some orig)
    (h : vOgmProcessPerOutif msecsToJiffies ev bat ifOutgoing = (bat', seqnoAge, packet)) :
    SameTvlv bat bat' ∧
      seqnoAge = (vOgmMetricUpdate msecsToJiffies bat.config ev orig ifOutgoing).2 ∧
      ∀ p ∈ packet, ∃ out, ifOutgoing = some out ∧ 1 < ev.ogm.ttl ∧ 0 ≤ seqnoAge ∧
        p = forwardedOgm bat.config ev out := by
  obtain ⟨htvlv, hstored⟩ := vOgmMetricUpdate_spec msecsToJiffies ev ifOutgoing bat.config orig
  unfold vOgmProcessPerOutif at h
  simp only [horig] at h
  generalize vOgmMetricUpdate msecsToJiffies bat.config ev orig ifOutgoing = upd at *
  obtain ⟨orig₁, age⟩ := upd
  have hsame₁ : SameTvlv bat (bat.setOrig ev.ogm.orig orig₁) :=
    SameTvlv.setOrig (htvlv.trans (tvlvOf_eq_of_find horig).symm)
  dsimp only at h hstored ⊢
  split at h
  · cases h
    exact ⟨hsame₁, rfl, fun p hp => nomatch hp⟩
  · next hage =>
    have hinfo := hstored (not_lt.1 hage)
    generalize hroute : vOgmRouteUpdate ev (bat.setOrig ev.ogm.orig orig₁) ifOutgoing = upd at h
    obtain ⟨bat₂, forward⟩ := upd
    obtain ⟨hsame₂, orig₂, horig₂, hneigh⟩ :=
      vOgmRouteUpdate_frame (origHashFind_setOrig_self _ _ _) hroute
    dsimp only at h
    split at h
    · simp only [horig₂] at h
      generalize hfwd : vOgmForward msecsToJiffies bat₂.config ev orig₂ ifOutgoing = upd at h
      obtain ⟨orig₃, packet₃⟩ := upd
      obtain ⟨htvlv₃, hpacket⟩ := vOgmForward_spec hfwd
      cases h
      refine ⟨(hsame₁.trans hsame₂).trans
        (SameTvlv.setOrig (htvlv₃.trans (tvlvOf_eq_of_find horig₂).symm)), rfl, ?_⟩
      intro p hp
      obtain ⟨out, info, rfl, hget, httl, rfl⟩ := hpacket p hp
      refine ⟨out, rfl, httl, not_lt.1 hage, ?_⟩
      -- the record that forwarding reads is the one the metric update has stored
      rw [OrigNode.neighIfinfoGet, hneigh] at hget
      have hinfo' := hget.symm.trans hinfo
      cases hinfo'
      rw [(hsame₁.trans hsame₂).config]
      rfl
    · cases h
      exact ⟨hsame₁.trans hsame₂, rfl, fun p hp => nomatch hp⟩

/-- The loop over the outgoing interfaces keeps all TVLV data; each OGM it forwards is the received
one with the cost computed from it, after a metric update for the interface. -/
lemma vOgmProcessIfaces_spec [Inhabited δ] {outs : List HardIface} {bat bat' : BatPriv δ}
    {forwarded : List (ℕ × Ogm2Packet)} (hknown : (origHashFind bat ev.ogm.orig).isSome)
    (h : vOgmProcessIfaces msecsToJiffies ev bat outs = (bat', forwarded)) :
    SameTvlv bat bat' ∧ ∀ q ∈ forwarded, ∃ out ∈ outs, 1 < ev.ogm.ttl ∧
      (∃ orig : OrigNode δ,
        0 ≤ (vOgmMetricUpdate msecsToJiffies bat.config ev orig (some out)).2) ∧
      q = (out.ifindex, forwardedOgm bat.config ev out) := by
  induction outs generalizing bat bat' forwarded with
  | nil =>
    cases h
    exact ⟨SameTvlv.refl _, fun q hq => nomatch hq⟩
  | cons out outs ih =>
    obtain ⟨orig, horig⟩ := Option.isSome_iff_exists.1 hknown
    rw [vOgmProcessIfaces] at h
    generalize hone : vOgmProcessPerOutif msecsToJiffies ev bat (some out) = one at h
    obtain ⟨bat₁, age, packet⟩ := one
    obtain ⟨hsame₁, hage, hpacket⟩ := vOgmProcessPerOutif_spec horig hone
    dsimp only at h
    generalize hrest : vOgmProcessIfaces msecsToJiffies ev bat₁ outs = rest at h
    obtain ⟨bat₂, forwarded₂⟩ := rest
    obtain ⟨hsame₂, hforwarded⟩ := ih (hsame₁.known _ hknown) hrest
    cases h
    refine ⟨hsame₁.trans hsame₂, fun q hq => ?_⟩
    rcases List.mem_append.1 hq with hq | hq
    · obtain ⟨p, hp, rfl⟩ : ∃ p, packet = some p ∧ q = (out.ifindex, p) := by
        cases packet with
        | none => simp at hq
        | some p => exact ⟨p, rfl, by simpa using hq⟩
      obtain ⟨out', hout, httl, hret, rfl⟩ := hpacket p hp
      obtain rfl := Option.some.inj hout
      exact ⟨out, List.mem_cons_self, httl, ⟨orig, hage ▸ hret⟩, rfl⟩
    · obtain ⟨out', hmem, httl, hret, rfl⟩ := hforwarded q hq
      rw [hsame₁.config] at hret ⊢
      exact ⟨out', List.mem_cons_of_mem _ hmem, httl, hret, rfl⟩

/-- An OGM that is not dropped has a usable cost, and its originator a record with the data known
before. -/
lemma vOgmAccept_eq_some [Inhabited δ] {bat bat' : BatPriv δ} {orig : OrigNode δ}
    {hardifNeigh : HardifNeighNode} (h : vOgmAccept ev bat = some (bat', orig, hardifNeigh)) :
    SameTvlv bat bat' ∧ tvlvOf bat ev.ogm.orig = orig.tvlv ∧
      ev.ogm.throughput ≠ AIRTIME_MAX_VALUE := by
  unfold vOgmAccept at h
  split_ifs at h with hmine hmax
  split at h
  · cases h
  · split at h
    · cases h
    · next bat₁ orig₁ hget =>
      obtain ⟨hsame, hfind, -⟩ := vOgmOrigGet_eq_some hget
      split at h
      · cases h
      · next hneigh =>
        cases h
        have htvlv := (neighNodeGetOrCreate_eq_some hneigh).2.2.2
        refine ⟨hsame, ?_, hmax⟩
        rw [← hsame.tvlv, tvlvOf_eq_of_find hfind, htvlv]

/-- **The processing of an OGM that is not dropped.**  The TVLV handlers are run first; what comes
after them keeps the TVLV data. -/
theorem vOgmProcess_of_accept [Inhabited δ] (msecsToJiffies : ℕ → Jiffies)
    {bat bat₁ : BatPriv δ} {orig : OrigNode δ}
    {hardifNeigh : HardifNeighNode} (h : vOgmAccept ev bat = some (bat₁, orig, hardifNeigh)) :
    SameTvlv (ogmTvlvState ev bat₁ orig) (vOgmProcess msecsToJiffies bat ev).1 ∧
      (vOgmProcess msecsToJiffies bat ev).2.called =
        (tvlvContainersProcess orig.tvlv bat₁.handlerList ev.ogm.tvlv).called ∧
      (vOgmProcess msecsToJiffies bat ev).2.seqnoAge =
        some (vOgmMetricUpdate msecsToJiffies bat.config ev
          { orig with
            tvlv := (tvlvContainersProcess orig.tvlv bat₁.handlerList ev.ogm.tvlv).ctx } none).2 ∧
      ∀ q ∈ (vOgmProcess msecsToJiffies bat ev).2.forwarded, ∃ out ∈ bat.hardIfaces,
        1 < ev.ogm.ttl ∧
        (∃ orig : OrigNode δ,
          0 ≤ (vOgmMetricUpdate msecsToJiffies bat.config ev orig (some out)).2) ∧
        q = (out.ifindex, forwardedOgm bat.config ev out) := by
  have hsame := (vOgmAccept_eq_some h).1
  have hfind : origHashFind (ogmTvlvState ev bat₁ orig) ev.ogm.orig =
      some { orig with
        tvlv := (tvlvContainersProcess orig.tvlv bat₁.handlerList ev.ogm.tvlv).ctx } :=
    origHashFind_setOrig_self _ _ _
  have hconfig : (ogmTvlvState ev bat₁ orig).config = bat.config := hsame.config
  have hifaces : (ogmTvlvState ev bat₁ orig).hardIfaces = bat.hardIfaces := hsame.hardIfaces
  unfold vOgmProcess
  simp only [h]
  generalize hdef : vOgmProcessPerOutif msecsToJiffies ev (ogmTvlvState ev bat₁ orig) none = r
  obtain ⟨bat₂, seqnoAge, packet⟩ := r
  obtain ⟨hsame₂, hage, -⟩ := vOgmProcessPerOutif_spec hfind hdef
  have hknown : (origHashFind bat₂ ev.ogm.orig).isSome := hsame₂.known _ (by simp [hfind])
  dsimp only
  generalize hloop : vOgmProcessIfaces msecsToJiffies ev bat₂
    (ogmOutIfaces bat₂ ev hardifNeigh) = r
  obtain ⟨bat₃, forwarded⟩ := r
  obtain ⟨hsame₃, hforwarded⟩ := vOgmProcessIfaces_spec hknown hloop
  refine ⟨hsame₂.trans hsame₃, trivial, by rw [hage, hconfig], fun q hq => ?_⟩
  obtain ⟨out, hmem, httl, hret, rfl⟩ := hforwarded q hq
  have hout : out ∈ bat₂.hardIfaces := List.mem_of_mem_filter hmem
  rw [hsame₂.hardIfaces, hifaces] at hout
  rw [hsame₂.config, hconfig] at hret ⊢
  exact ⟨out, hout, httl, hret, rfl⟩

/-- **What a node sends on.**  Every OGM it forwards was received with a usable cost and a time to
live of at least 2, its metric update for the interface did not fail, and it carries the cost that
the node computed from the received one. -/
theorem vOgmProcess_forwarded [Inhabited δ] {bat : BatPriv δ} {q : ℕ × Ogm2Packet}
    (h : q ∈ (vOgmProcess msecsToJiffies bat ev).2.forwarded) :
    ev.ogm.throughput ≠ AIRTIME_MAX_VALUE ∧ ∃ out ∈ bat.hardIfaces, 1 < ev.ogm.ttl ∧
      (∃ orig : OrigNode δ,
        0 ≤ (vOgmMetricUpdate msecsToJiffies bat.config ev orig (some out)).2) ∧
      q = (out.ifindex, forwardedOgm bat.config ev out) := by
  cases hacc : vOgmAccept ev bat with
  | none =>
    simp only [vOgmProcess, hacc, OgmOutcome.dropped] at h
    cases h
  | some r =>
    obtain ⟨bat₁, orig, hardifNeigh⟩ := r
    exact ⟨(vOgmAccept_eq_some hacc).2.2, (vOgmProcess_of_accept msecsToJiffies hacc).2.2.2 q h⟩

end Batadv
