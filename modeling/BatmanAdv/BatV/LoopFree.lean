import BatmanAdv.BatV.PathCost
import BatmanAdv.BatV.Routes
import BatmanAdv.Lib.Advertised

set_option relaxedAutoImplicit false
set_option autoImplicit false

/-!
# The routes of BATMAN V form no loop

A mesh of any number of nodes, of which one is the originator that is looked at.  It sends its OGMs
over its interfaces; a node that receives an OGM processes it, and what it sends on may be received
in turn.  OGMs may be received in any order, by any nodes or by none, while anything may happen that
leaves the records of the originator alone.

A packet for the originator that a node has received on an interface is sent to the router for that
interface, and one of its own to the router for the default interface.  So the vertices of the graph
of the routes are the nodes with one of their interfaces, or with the default one.

The nodes' records simulate the routes of `Advertised`: the number is how many OGMs the originator
had sent, and the cost is the airtime.

## Main definitions

* `Batadv.OgmMesh` — the originator, and the addresses of the interfaces.
* `Batadv.OgmNet`, `Batadv.OgmNetEvent`, `Batadv.ogmNetNext` — the nodes with the OGMs that were
  sent, and what can happen.
* `Batadv.OgmNetGuard` — what is assumed of an event.
* `Batadv.NextHop` — the graph of the routes.

## Main results

* `Batadv.OgmNetSim.step` — every event is a sequence of steps of the abstract routes.
* `Batadv.v_ogm_loop_free` — **in every run there is no loop, and every route leads to the
  originator**.
-/

namespace Batadv

open SerialNumber (offset Near)

variable {ν δ : Type*} {msecsToJiffies : ℕ → Jiffies}

/-! ### The mesh -/

/-- The originator, its address, the sequence number before its first OGM, and the interfaces of all
nodes with their addresses, which differ. -/
structure OgmMesh (ν : Type*) where
  origin : ν
  orig : EthAddr
  base : U32
  hasIface : ν → ℕ → Prop
  addrOf : ν → ℕ → EthAddr
  addrOf_injective : ∀ {n m : ν} {x y : ℕ}, hasIface n x → hasIface m y →
    addrOf n x = addrOf m y → n = m ∧ x = y

/-- An OGM that a node has sent over one of its interfaces. -/
structure OgmSending (ν : Type*) where
  node : ν
  ifindex : ℕ
  ogm : Ogm2Packet
deriving DecidableEq

/-- The nodes, all OGMs of the originator that were sent, which of them were received by which node
on which interface, and how many the originator has sent. -/
structure OgmNet (ν δ : Type*) where
  node : ν → BatPriv δ
  sent : List (OgmSending ν)
  received : List (ν × ℕ × ℕ)
  count : ℕ

/-- What can happen: the originator sends an OGM over some of its interfaces, a node receives one of
the OGMs that were sent, or something else changes the state of a node. -/
inductive OgmNetEvent (ν δ : Type*)
  | originate (ifaces : List ℕ) (tvlv : List U8)
  | receive (n : ν) (i : ℕ) (ev : OgmRecv)
  | other (n : ν) (bat : BatPriv δ)

/-- The next OGM of the originator, as `batadv_v_ogm_send_meshif` fills it in. -/
def OgmMesh.nextOgm (M : OgmMesh ν) (count : ℕ) (tvlv : List U8) : Ogm2Packet where
  ttl := TTL
  seqno := M.base + BitVec.ofNat 32 (count + 1)
  orig := M.orig
  throughput := 0
  tvlv := tvlv

/-- The state after an event. -/
def ogmNetNext [DecidableEq ν] [Inhabited δ] (msecsToJiffies : ℕ → Jiffies) (M : OgmMesh ν)
    (s : OgmNet ν δ) : OgmNetEvent ν δ → OgmNet ν δ
  | .originate ifaces tvlv =>
    { s with
      sent := s.sent ++ ifaces.map fun x => ⟨M.origin, x, M.nextOgm s.count tvlv⟩
      count := s.count + 1 }
  | .receive n i ev =>
    let (bat, outcome) := vOgmProcess msecsToJiffies (s.node n) ev
    { s with
      node := Function.update s.node n bat
      sent := s.sent ++ outcome.forwarded.map fun q => ⟨n, q.1, q.2⟩
      received := (n, ev.ifIncoming.ifindex, i) :: s.received }
  | .other n bat => { s with node := Function.update s.node n bat }

/-- What is assumed of the reception of an OGM: it was sent, and is not received twice on an
interface; it is younger than 64 OGMs of the originator, which knows its own address; the node has
the interfaces it should have, with different indices, and a weight factor of at least 1000, and all
penalties can be computed in 32 bits. -/
structure OgmReceiveGuard (M : OgmMesh ν) (s : OgmNet ν δ) (n : ν) (i : ℕ)
    (ev : OgmRecv) : Prop where
  sent : ∃ x, s.sent[i]? = some x ∧ ev.ogm = x.ogm ∧ ev.source = M.addrOf x.node x.ifindex
  once : (n, ev.ifIncoming.ifindex, i) ∉ s.received
  timely : s.count < offset M.base ev.ogm.seqno + 64
  own : n = M.origin → isMyMac (s.node n) M.orig = true
  ifaces : ((s.node n).hardIfaces.map HardIface.ifindex).Nodup
  hasIface : ∀ out ∈ (s.node n).hardIfaces, M.hasIface n out.ifindex
  weight : 1000 ≤ (nodeWeightFactor (s.node n).config).toNat
  penalty : ∀ out ∈ (s.node n).hardIfaces,
    PenaltyFits (s.node n).config ev.ifIncoming (some out) (ogmPathAirtime ev)

/-- **What is assumed of an event.**  The originator sends over its interfaces, once over each, and
fewer than half of all sequence numbers.  Other events leave the records of the originator alone, as
the reception of an OGM of another originator does. -/
def OgmNetGuard (M : OgmMesh ν) (s : OgmNet ν δ) : OgmNetEvent ν δ → Prop
  | .originate ifaces _ =>
    ifaces.Nodup ∧ (∀ x ∈ ifaces, M.hasIface M.origin x) ∧ s.count + 1 < 2 ^ 31
  | .receive n i ev => OgmReceiveGuard M s n i ev
  | .other n bat => ∀ key, SameRoutes (s.node n) bat M.orig key

/-- Nothing was sent, and no node has a route to the originator. -/
structure OgmNet.Fresh (M : OgmMesh ν) (s : OgmNet ν δ) : Prop where
  sent : s.sent = []
  count : s.count = 0
  router : ∀ n key, routerOf (s.node n) M.orig key = none

/-- **The graph of the routes**: the router of the first node, for its interface, is the second node
at its interface. -/
def NextHop (M : OgmMesh ν) (s : OgmNet ν δ) (v w : ν × IfKey) : Prop :=
  ∃ key x, routerOf (s.node v.1) M.orig v.2 = some key ∧ w.2 = some x ∧ M.hasIface w.1 x ∧
    key.addr = M.addrOf w.1 x

/-! ### The simulation -/

/-- The advertisement that an OGM is. -/
def OgmMesh.advert (M : OgmMesh ν) (x : OgmSending ν) : Advertised.Advert (ν × IfKey) ℕ :=
  ⟨(x.node, some x.ifindex), offset M.base x.ogm.seqno, x.ogm.throughput.toNat⟩

/-- The vertices of the originator. -/
def OgmMesh.dest (M : OgmMesh ν) (v : ν × IfKey) : Prop := v.1 = M.origin

/-- The router and its cost are what an abstract route says. -/
inductive RouteSim (M : OgmMesh ν) (bat : BatPriv δ) (key : IfKey) :
    Option (Advertised.Route (ν × IfKey) ℕ ℕ) → Prop
  | none (hrouter : routerOf bat M.orig key = none) : RouteSim M bat key none
  | some (r : Advertised.Route (ν × IfKey) ℕ ℕ) (x : ℕ) (info : NeighIfinfo)
      (hnext : r.next.2 = some x) (hiface : M.hasIface r.next.1 x)
      (hrouter : routerOf bat M.orig key = some ⟨M.addrOf r.next.1 x, r.port⟩)
      (hinfo : neighIfinfoOf bat M.orig ⟨M.addrOf r.next.1 x, r.port⟩ key = some info)
      (hseqno : offset M.base info.lastSeqno = r.seqno) (hcost : info.airtimeCost.toNat = r.cost) :
      RouteSim M bat key (some r)

/-- A node's records for one interface are what the abstract state says about a vertex: the newest
sequence number, whether it was sent on, and the route. -/
structure KeySim (M : OgmMesh ν) (bat : BatPriv δ) (t : Advertised.State (ν × IfKey) ℕ ℕ)
    (v : ν × IfKey) : Prop where
  newest : t.newest v = 0 ∨ offset M.base (memoryOf bat M.orig v.2).newest = t.newest v
  sent : ¬ M.dest v → ∀ b ∈ t.adverts, b.source = v → b.seqno = t.newest v →
    offset M.base (memoryOf bat M.orig v.2).sent = t.newest v
  route : RouteSim M bat v.2 (t.route v)

/-- **The simulation.**  The abstract state is reachable, and says what was sent and received, and
what the nodes know. -/
structure OgmNetSim [DecidableEq ν] (M : OgmMesh ν) (s : OgmNet ν δ)
    (t : Advertised.State (ν × IfKey) ℕ ℕ) : Prop where
  reachable : Advertised.Reachable M.dest t
  adverts : t.adverts = s.sent.map M.advert
  heard : ∀ n key p i, ((n, key), p, i) ∈ t.heard → (n, p, i) ∈ s.received
  newest : ∀ v, t.newest v ≤ s.count
  sent : ∀ x ∈ s.sent, M.hasIface x.node x.ifindex ∧ x.ogm.orig = M.orig ∧
    1 ≤ offset M.base x.ogm.seqno ∧ offset M.base x.ogm.seqno ≤ s.count
  count : s.count < 2 ^ 31
  vertex : ∀ v, KeySim M (s.node v.1) t v

/-- A route in records that are the same. -/
lemma RouteSim.congr {M : OgmMesh ν} {bat bat' : BatPriv δ} {key : IfKey}
    {r : Option (Advertised.Route (ν × IfKey) ℕ ℕ)} (h : RouteSim M bat key r)
    (hrouter : routerOf bat' M.orig key = routerOf bat M.orig key)
    (hinfo : ∀ neigh ∈ routerOf bat M.orig key,
      neighIfinfoOf bat' M.orig neigh key = neighIfinfoOf bat M.orig neigh key) :
    RouteSim M bat' key r := by
  cases h with
  | none hr => exact .none (hrouter.trans hr)
  | some r x info hnext hiface hr hi hseqno hcost =>
    exact .some r x info hnext hiface (hrouter.trans hr) ((hinfo _ hr).trans hi) hseqno hcost

/-- A vertex for which nothing changes. -/
lemma KeySim.congr {M : OgmMesh ν} {bat bat' : BatPriv δ}
    {t t' : Advertised.State (ν × IfKey) ℕ ℕ} {v : ν × IfKey} (h : KeySim M bat t v)
    (hmemory : memoryOf bat' M.orig v.2 = memoryOf bat M.orig v.2)
    (hrouter : routerOf bat' M.orig v.2 = routerOf bat M.orig v.2)
    (hinfo : ∀ neigh, neighIfinfoOf bat' M.orig neigh v.2 = neighIfinfoOf bat M.orig neigh v.2)
    (hnewest : t'.newest v = t.newest v) (hroute : t'.route v = t.route v)
    (hadverts : ¬ M.dest v → ∀ b ∈ t'.adverts, b.source = v → b ∈ t.adverts) :
    KeySim M bat' t' v := by
  refine ⟨?_, fun hdest b hb hsource hseqno => ?_, ?_⟩
  · rw [hmemory, hnewest]
    exact h.newest
  · rw [hmemory, hnewest]
    rw [hnewest] at hseqno
    exact h.sent hdest b (hadverts hdest b hb hsource) hsource hseqno
  · rw [hroute]
    exact h.route.congr hrouter fun neigh _ => hinfo neigh

/-! ### One outgoing interface -/

/-- **What is known while a node processes an OGM of the originator**: it is one that was sent, it
is younger than 64 of those that the originator has sent, and none is newer than the last. -/
structure OgmReception (M : OgmMesh ν) (n : ν) (i : ℕ) (ev : OgmRecv) (x : OgmSending ν)
    (total : ℕ) (t : Advertised.State (ν × IfKey) ℕ ℕ) : Prop where
  ogm : ev.ogm = x.ogm
  source : ev.source = M.addrOf x.node x.ifindex
  iface : M.hasIface x.node x.ifindex
  orig : ev.ogm.orig = M.orig
  node : n ≠ M.origin
  advert : t.adverts[i]? = some (M.advert x)
  seqno : offset M.base ev.ogm.seqno ≤ total
  bound : total < 2 ^ 31
  timely : total < offset M.base ev.ogm.seqno + 64
  newest : ∀ v, t.newest v ≤ total

section Reception

variable {M : OgmMesh ν} {n : ν} {i : ℕ} {ev : OgmRecv} {x : OgmSending ν} {total : ℕ}
variable {t : Advertised.State (ν × IfKey) ℕ ℕ} {bat bat' : BatPriv δ}
variable {ifOutgoing : Option HardIface} {packet : Option Ogm2Packet}

lemma near_of_le {b y : U32} {n : ℕ} (h : offset b y ≤ n) (hn : n < 2 ^ 31) : Near b y :=
  show offset b y < 2 ^ 31 from h.trans_lt hn

/-- What the node has taken notice of is not newer than an OGM that is not too old. -/
lemma OgmReception.newest_le (h : OgmReception M n i ev x total t) {v : ν × IfKey}
    (hsim : KeySim M bat t v)
    (hrange : (ev.ogm.seqno - (memoryOf bat M.orig v.2).newest).toInt ≤ -OGM_MAX_AGE ∨
      0 ≤ (ev.ogm.seqno - (memoryOf bat M.orig v.2).newest).toInt) :
    t.newest v ≤ offset M.base ev.ogm.seqno := by
  rcases hsim.newest with hzero | hnewest
  · omega
  · have hle := h.newest v
    have htimely := h.timely
    have hdiff := SerialNumber.toInt_sub_eq_offset_sub (by decide) (near_of_le h.seqno h.bound)
      (near_of_le (hnewest.trans_le hle) h.bound)
    rw [hdiff, hnewest] at hrange
    have hage : OGM_MAX_AGE = 64 := rfl
    omega

/-- The router may be replaced: the number is greater, or the cost is smaller, or it is the same. -/
lemma OgmReception.replaces (h : OgmReception M n i ev x total t) {v : ν × IfKey}
    (hinv : Advertised.Inv M.dest t) (hroute : RouteSim M bat v.2 (t.route v)) {cost : U32}
    {ttl : U8} (hreplaced : ∀ router ∈ routerOf bat M.orig v.2, router = ev.neigh ∨ ∃ old,
      neighIfinfoOf bat M.orig router v.2 = some old ∧
        keepRouter old ⟨cost, ev.ogm.seqno, ttl⟩ = false) {since : ℕ} :
    Advertised.Replaces (t.route v) ⟨(x.node, some x.ifindex), ev.ifIncoming.ifindex,
      offset M.base ev.ogm.seqno, cost.toNat, since⟩ := by
  intro o ho
  cases hr : t.route v with
  | none =>
    rw [hr] at ho
    exact absurd ho (Option.not_mem_none o)
  | some r =>
    rw [hr] at ho hroute
    obtain rfl := Option.some.inj ho
    have hle := (hinv.route v r hr).2.1.trans (h.newest v)
    cases hroute with
    | some _ y info hnext hiface hrouter hinfo hseqno hcost =>
      rcases hreplaced _ hrouter with heq | ⟨old, hold, hkeep⟩
      · obtain ⟨haddr, hport⟩ := NeighKey.mk.inj heq
        obtain ⟨hnode, hindex⟩ := M.addrOf_injective hiface h.iface (haddr.trans h.source)
        exact .inr (.inr ⟨Prod.ext hnode (hnext.trans (congrArg some hindex)), hport⟩)
      · obtain rfl := Option.some.inj (hinfo.symm.trans hold)
        have hdiff := SerialNumber.toInt_sub_eq_offset_sub (by decide)
          (near_of_le h.seqno h.bound) (near_of_le (hseqno.trans_le hle) h.bound)
        unfold keepRouter at hkeep
        dsimp only at hkeep
        rw [hdiff, hseqno, Bool.and_eq_false_iff, decide_eq_false_iff_not,
          decide_eq_false_iff_not] at hkeep
        rcases hkeep with hnew | hcheap
        · have hdiff : OGM_MAX_ORIGDIFF = 5 := rfl
          refine .inl ?_
          dsimp only
          omega
        · refine .inr (.inl ?_)
          rw [← hcost]
          exact BitVec.lt_def.1 (BitVec.not_le.1 hcheap)

/-- Whether the newest sequence number was sent on, after the processing. -/
lemma OgmReception.sent_after (h : OgmReception M n i ev x total t) {key : IfKey}
    (hinv : Advertised.Inv M.dest t) (hsim : KeySim M bat t (n, key))
    (hle : t.newest (n, key) ≤ offset M.base ev.ogm.seqno)
    (hnewest : (memoryOf bat' M.orig key).newest = ev.ogm.seqno)
    (hstep : SerialWindow.Step (memoryOf bat M.orig key) (memoryOf bat' M.orig key)
      (packet.map Ogm2Packet.seqno))
    (hmem : packet.isSome ∨ ∃ b ∈ t.adverts, b.source = (n, key) ∧
      b.seqno = offset M.base ev.ogm.seqno) :
    offset M.base (memoryOf bat' M.orig key).sent = offset M.base ev.ogm.seqno := by
  cases packet with
  | some p =>
    obtain ⟨hp, -, hsent⟩ := hstep
    rw [hsent, hp, hnewest]
  | none =>
    obtain ⟨b, hb, hsource, hseqno⟩ := hmem.resolve_left (by simp)
    have hb' : b.seqno ≤ t.newest (n, key) := hsource ▸ hinv.newest b hb (hsource ▸ h.node)
    have heq : t.newest (n, key) = offset M.base ev.ogm.seqno := by omega
    rcases hstep with hkept | hnew
    · rw [hkept, ← heq]
      exact hsim.sent h.node b hb hsource (hseqno.trans heq.symm)
    · rw [hnew, hnewest]

end Reception

section Steps

variable [DecidableEq ν]

/-- **What the processing of an OGM does to the abstract state**, for the given outgoing interfaces:
steps of the node's vertices for them, with the given advertisements. -/
structure OgmExtends (M : OgmMesh ν) (n : ν) (p i seqno : ℕ) (keys : List IfKey)
    (adverts : List (Advertised.Advert (ν × IfKey) ℕ))
    (t t' : Advertised.State (ν × IfKey) ℕ ℕ) : Prop where
  steps : Relation.ReflTransGen (Advertised.Step M.dest) t t'
  adverts : t'.adverts = t.adverts ++ adverts
  heard : ∀ e ∈ t'.heard, e ∈ t.heard ∨ ∃ key ∈ keys, e = ((n, key), p, i)
  newest : ∀ v, t'.newest v = t.newest v ∨ t'.newest v = seqno
  others : ∀ v, v.1 ≠ n → t'.newest v = t.newest v ∧ t'.route v = t.route v

lemma OgmExtends.refl (M : OgmMesh ν) (n : ν) (p i seqno : ℕ) (keys : List IfKey)
    (t : Advertised.State (ν × IfKey) ℕ ℕ) : OgmExtends M n p i seqno keys [] t t :=
  ⟨.refl, (List.append_nil _).symm, fun _ he => .inl he, fun _ => .inl rfl, fun _ _ => ⟨rfl, rfl⟩⟩

lemma OgmExtends.trans {M : OgmMesh ν} {n : ν} {p i seqno : ℕ} {keys keys' : List IfKey}
    {adverts adverts' : List (Advertised.Advert (ν × IfKey) ℕ)}
    {t t₁ t₂ : Advertised.State (ν × IfKey) ℕ ℕ}
    (h : OgmExtends M n p i seqno keys adverts t t₁)
    (h' : OgmExtends M n p i seqno keys' adverts' t₁ t₂) :
    OgmExtends M n p i seqno (keys ++ keys') (adverts ++ adverts') t t₂ where
  steps := h.steps.trans h'.steps
  adverts := by rw [h'.adverts, h.adverts, List.append_assoc]
  heard := by
    intro e he
    rcases h'.heard e he with he | ⟨key, hkey, rfl⟩
    · rcases h.heard e he with he | ⟨key, hkey, rfl⟩
      · exact .inl he
      · exact .inr ⟨key, List.mem_append_left _ hkey, rfl⟩
    · exact .inr ⟨key, List.mem_append_right _ hkey, rfl⟩
  newest := by
    intro v
    rcases h'.newest v with heq | heq
    · rw [heq]
      exact h.newest v
    · exact .inr heq
  others := fun v hv => ⟨(h'.others v hv).1.trans (h.others v hv).1,
    (h'.others v hv).2.trans (h.others v hv).2⟩

variable {M : OgmMesh ν} {n : ν} {i : ℕ} {ev : OgmRecv} {x : OgmSending ν} {total : ℕ}
variable {t t' : Advertised.State (ν × IfKey) ℕ ℕ} {bat bat' : BatPriv δ}
variable {ifOutgoing : Option HardIface} {packet : Option Ogm2Packet}

/-- The advertisement of an OGM that is sent on for an outgoing interface. -/
def OgmMesh.advertFor (M : OgmMesh ν) (n : ν) (key : IfKey) (p : Ogm2Packet) :
    Advertised.Advert (ν × IfKey) ℕ :=
  ⟨(n, key), offset M.base p.seqno, p.throughput.toNat⟩

/-- A step in which a vertex of the node takes notice of the OGM. -/
lemma OgmReception.noticed (h : OgmReception M n i ev x total t) {key : IfKey}
    (hinv : Advertised.Inv M.dest t) (hsim : ∀ key, KeySim M bat t (n, key))
    (hsame : ∀ key' ≠ key, SameRoutes bat bat' M.orig key')
    (hle : t.newest (n, key) ≤ offset M.base ev.ogm.seqno)
    (hnewest : (memoryOf bat' M.orig key).newest = ev.ogm.seqno)
    (hmemory : SerialWindow.Step (memoryOf bat M.orig key) (memoryOf bat' M.orig key)
      (packet.map Ogm2Packet.seqno))
    (hstep : Advertised.Step M.dest t t')
    (hadverts : t'.adverts = t.adverts ++ packet.toList.map (M.advertFor n key))
    (hheard : t'.heard = insert ((n, key), ev.ifIncoming.ifindex, i) t.heard)
    (hnew : t'.newest = Function.update t.newest (n, key) (offset M.base ev.ogm.seqno))
    (hother : ∀ v ≠ (n, key), t'.route v = t.route v)
    (hroute : RouteSim M bat' key (t'.route (n, key))) :
    OgmExtends M n ev.ifIncoming.ifindex i (offset M.base ev.ogm.seqno) [key]
        (packet.toList.map (M.advertFor n key)) t t' ∧
      ∀ key, KeySim M bat' t' (n, key) := by
  have hself : t'.newest (n, key) = offset M.base ev.ogm.seqno := by
    rw [hnew, Function.update_self]
  have hkept : ∀ v ≠ (n, key), t'.newest v = t.newest v := fun v hv => by
    rw [hnew, Function.update_of_ne hv]
  refine ⟨⟨.single hstep, hadverts, fun e he => ?_, fun v => ?_, fun v hv => ?_⟩, fun key' => ?_⟩
  · rw [hheard] at he
    rcases he with rfl | he
    · exact .inr ⟨key, List.mem_singleton.2 rfl, rfl⟩
    · exact .inl he
  · by_cases hv : v = (n, key)
    · rw [hv, hself]
      exact .inr rfl
    · exact .inl (hkept v hv)
  · have hne : v ≠ (n, key) := fun heq => hv (congrArg Prod.fst heq)
    exact ⟨hkept v hne, hother v hne⟩
  · by_cases hkey : key' = key
    · subst hkey
      refine ⟨.inr (by rw [hself, hnewest]), fun _ b hb hsource hseqno => ?_, hroute⟩
      rw [hself] at hseqno ⊢
      refine h.sent_after hinv (hsim key') hle hnewest hmemory ?_
      rw [hadverts] at hb
      rcases List.mem_append.1 hb with hb | hb
      · exact .inr ⟨b, hb, hsource, hseqno⟩
      · obtain ⟨p, hp, -⟩ := List.mem_map.1 hb
        exact .inl (Option.isSome_iff_exists.2 ⟨p, Option.mem_toList.1 hp⟩)
    · have hne : (n, key') ≠ (n, key) := fun heq => hkey (congrArg Prod.snd heq)
      have hsame' := hsame key' hkey
      refine (hsim key').congr ?_ hsame'.router hsame'.info (hkept _ hne) (hother _ hne)
        fun _ b hb hsource => ?_
      · rw [memoryOf, memoryOf, hsame'.window]
      · rw [hadverts] at hb
        rcases List.mem_append.1 hb with hb | hb
        · exact hb
        · obtain ⟨p, -, rfl⟩ := List.mem_map.1 hb
          exact absurd (congrArg Prod.snd hsource).symm hkey

/-- A step in which a vertex of the node stores the route that the OGM came from, and sends the OGM
on or not. -/
lemma OgmReception.took (h : OgmReception M n i ev x total t) {key : IfKey}
    (hinv : Advertised.Inv M.dest t) (hsim : ∀ key, KeySim M bat t (n, key))
    (hfresh : ((n, key), ev.ifIncoming.ifindex, i) ∉ t.heard)
    (hsame : ∀ key' ≠ key, SameRoutes bat bat' M.orig key')
    (hle : t.newest (n, key) ≤ offset M.base ev.ogm.seqno)
    (hnewest : (memoryOf bat' M.orig key).newest = ev.ogm.seqno)
    (hmemory : SerialWindow.Step (memoryOf bat M.orig key) (memoryOf bat' M.orig key)
      (packet.map Ogm2Packet.seqno)) {cost : U32} {ttl : U8} (hcost : ev.ogm.throughput ≤ cost)
    (hrouter : routerOf bat' M.orig key = some ev.neigh)
    (hstored : neighIfinfoOf bat' M.orig ev.neigh key = some ⟨cost, ev.ogm.seqno, ttl⟩)
    (hreplaced : ∀ router ∈ routerOf bat M.orig key, router = ev.neigh ∨ ∃ old,
      neighIfinfoOf bat M.orig router key = some old ∧
        keepRouter old ⟨cost, ev.ogm.seqno, ttl⟩ = false)
    (hsent : ∀ p ∈ packet, cost ≤ p.throughput) :
    ∃ t', OgmExtends M n ev.ifIncoming.ifindex i (offset M.base ev.ogm.seqno) [key]
        (packet.toList.map (M.advertFor n key)) t t' ∧
      ∀ key, KeySim M bat' t' (n, key) := by
  obtain ⟨seqno, hseqno⟩ : ∃ seqno, seqno = offset M.base ev.ogm.seqno := ⟨_, rfl⟩
  have hadvert : M.advert x = ⟨(x.node, some x.ifindex), seqno, ev.ogm.throughput.toNat⟩ := by
    rw [hseqno, h.ogm]
    rfl
  have hears : t.Hears M.dest (n, key) ev.ifIncoming.ifindex i
      ⟨(x.node, some x.ifindex), seqno, ev.ogm.throughput.toNat⟩ :=
    ⟨h.node, hadvert ▸ h.advert, hfresh, hseqno ▸ hle⟩
  have hreplaces : Advertised.Replaces (t.route (n, key)) ⟨(x.node, some x.ifindex),
      ev.ifIncoming.ifindex, seqno, cost.toNat, t.adverts.length⟩ :=
    hseqno ▸ h.replaces hinv (hsim key).route hreplaced
  have hneigh : ev.neigh = ⟨M.addrOf x.node x.ifindex, ev.ifIncoming.ifindex⟩ := by
    rw [OgmRecv.neigh, h.source]
  rw [hneigh] at hrouter hstored
  -- the route that is stored
  obtain ⟨r, hr⟩ : ∃ r : Advertised.Route (ν × IfKey) ℕ ℕ, r = ⟨(x.node, some x.ifindex),
      ev.ifIncoming.ifindex, seqno, cost.toNat, t.adverts.length⟩ := ⟨_, rfl⟩
  have hroute : RouteSim M bat' key (some r) := by
    subst hr
    exact .some _ x.ifindex _ rfl h.iface hrouter hstored hseqno.symm rfl
  obtain ⟨t₂, ht₂⟩ : ∃ t₂, t₂ = (t.hear (n, key) ev.ifIncoming.ifindex i seqno).take (n, key) r :=
    ⟨_, rfl⟩
  have hself : t₂.route (n, key) = some r := by
    rw [ht₂]
    exact Function.update_self ..
  have hother : ∀ v ≠ (n, key), t₂.route v = t.route v := fun v hv => by
    rw [ht₂]
    exact Function.update_of_ne hv ..
  cases packet with
  | none =>
    refine ⟨t₂, h.noticed hinv hsim hsame hle hnewest hmemory ?_ ?_ ?_ ?_ hother
      (hself.symm ▸ hroute)⟩
    · rw [ht₂, hr]
      exact .take t (n, key) ev.ifIncoming.ifindex i _ cost.toNat hears (BitVec.le_def.1 hcost)
        hreplaces
    · rw [ht₂]
      exact (List.append_nil _).symm
    · rw [ht₂]
      rfl
    · rw [ht₂, ← hseqno]
      rfl
  | some p =>
    have hsends := hmemory
    obtain ⟨hp, hne, -⟩ := hsends
    have hp' : offset M.base p.seqno = seqno := by rw [hp, hnewest, hseqno]
    refine ⟨t₂.advertise (n, key) seqno p.throughput.toNat,
      h.noticed hinv hsim hsame hle hnewest hmemory ?_ ?_ ?_ ?_ hother (hself.symm ▸ hroute)⟩
    · rw [ht₂, hr]
      refine .pass t (n, key) ev.ifIncoming.ifindex i _ cost.toNat p.throughput.toNat hears
        (BitVec.le_def.1 hcost) hreplaces (BitVec.le_def.1 (hsent p rfl)) fun b hb hsource heq => ?_
      -- it would have been sent on before
      have hb' : b.seqno ≤ t.newest (n, key) := hsource ▸ hinv.newest b hb (hsource ▸ h.node)
      dsimp only at heq
      have hnew : t.newest (n, key) = seqno := by omega
      have hsame' := (hsim key).sent h.node b hb hsource (heq.trans hnew.symm)
      refine hne (SerialNumber.offset_injective M.base ?_)
      rw [hp', ← hnew]
      exact hsame'
    · rw [ht₂, Option.toList_some, List.map_singleton, OgmMesh.advertFor, hp']
      rfl
    · rw [ht₂]
      rfl
    · rw [ht₂, ← hseqno]
      rfl

variable [Inhabited δ]

/-- **The processing for one outgoing interface is a step**, or nothing happens.

**Proof sketch.** An OGM that is taken notice of is not older than the newest one.  If the neighbour
it came from is not the router afterwards, nothing was sent on, and the vertex has only heard it.
Otherwise the route was stored, and what was sent on carries at least the stored cost. -/
theorem OgmReception.outif (h : OgmReception M n i ev x total t)
    (hreach : Advertised.Reachable M.dest t) (hsim : ∀ key, KeySim M bat t (n, key))
    (hfresh : ((n, ifKey ifOutgoing), ev.ifIncoming.ifindex, i) ∉ t.heard)
    (hweight : 1000 ≤ (nodeWeightFactor bat.config).toNat)
    (hpenalty : PenaltyFits bat.config ev.ifIncoming ifOutgoing (ogmPathAirtime ev))
    {orig : OrigNode δ} {age : ℤ} (hfind : origHashFind bat ev.ogm.orig = some orig)
    (hn : (orig.neighList.get ev.neigh).isSome)
    (hproc : vOgmProcessPerOutif msecsToJiffies ev bat ifOutgoing = (bat', age, packet)) :
    ∃ t', OgmExtends M n ev.ifIncoming.ifindex i (offset M.base ev.ogm.seqno) [ifKey ifOutgoing]
        (packet.toList.map (M.advertFor n (ifKey ifOutgoing))) t t' ∧
      ∀ key, KeySim M bat' t' (n, key) := by
  have hinv := hreach.inv
  have hsame : ∀ key' ≠ ifKey ifOutgoing, SameRoutes bat bat' M.orig key' := by
    intro key' hkey
    rw [← h.orig]
    have hroutes := (vOgmProcessPerOutif_routes hfind hproc).1 ev.ogm.orig key' (.inr hkey)
    exact ⟨(vOgmProcessPerOutif_window hfind hn hproc).1 _ _ (.inr hkey), hroutes.1, hroutes.2⟩
  have hcases := vOgmProcessPerOutif_noticed hfind hn hproc
  rw [h.orig] at hcases
  rcases hcases with ⟨rfl, hmemory, hrouter, hinfo⟩ | ⟨hrange, hnewest, hmemory, hroutes⟩
  · refine ⟨t, .refl _ _ _ _ _ _ _, fun key => ?_⟩
    by_cases hkey : key = ifKey ifOutgoing
    · subst hkey
      exact (hsim _).congr hmemory hrouter hinfo rfl rfl fun _ _ hb _ => hb
    · have hsame' := hsame key hkey
      refine (hsim key).congr ?_ hsame'.router hsame'.info rfl rfl fun _ _ hb _ => hb
      rw [memoryOf, memoryOf, hsame'.window]
  · have hle := h.newest_le (hsim (ifKey ifOutgoing)) hrange
    have hseqno : (M.advert x).seqno = offset M.base ev.ogm.seqno := by
      rw [h.ogm]
      rfl
    have hears : t.Hears M.dest (n, ifKey ifOutgoing) ev.ifIncoming.ifindex i (M.advert x) :=
      ⟨h.node, h.advert, hfresh, hseqno ▸ hle⟩
    -- the vertex has only heard the OGM
    have hhear : packet = none → RouteSim M bat' (ifKey ifOutgoing)
        (t.route (n, ifKey ifOutgoing)) → ∃ t', OgmExtends M n ev.ifIncoming.ifindex i
          (offset M.base ev.ogm.seqno) [ifKey ifOutgoing]
          (packet.toList.map (M.advertFor n (ifKey ifOutgoing))) t t' ∧
          ∀ key, KeySim M bat' t' (n, key) := by
      rintro rfl hroute
      refine ⟨_, h.noticed hinv hsim hsame hle hnewest hmemory
        (.hear t (n, ifKey ifOutgoing) ev.ifIncoming.ifindex i (M.advert x) hears) ?_ rfl ?_
        (fun _ _ => rfl) hroute⟩
      · exact (List.append_nil _).symm
      · rw [← hseqno]
        rfl
    cases hroutes with
    | kept hpacket hinfo hrouter =>
      rw [h.orig] at hinfo hrouter
      exact hhear hpacket ((hsim _).route.congr hrouter fun neigh _ => hinfo neigh)
    | stored new hnew _ hstored hinfo hrouter hsent =>
      rw [h.orig] at hstored hinfo hrouter hsent
      by_cases hneigh : routerOf bat' M.orig (ifKey ifOutgoing) = some ev.neigh
      · rw [hnew] at hstored
        refine h.took hinv hsim hfresh hsame hle hnewest hmemory (le_pathCost hpenalty) hneigh
          hstored (fun router hr => ?_) fun p hp => ?_
        · rcases hrouter with hkept | ⟨-, hset⟩
          · rw [← hkept, hneigh] at hr
            exact .inl (Option.some.inj hr).symm
          · rw [← hnew]
            exact hset router hr
        · rw [(hsent p hp).2, hnew]
          exact le_selfWeight hweight _
      · refine hhear ?_ ?_
        · cases packet with
          | none => rfl
          | some p => exact absurd (hsent p rfl).1 hneigh
        · have hrouter := hrouter.resolve_right fun hset => hneigh hset.1
          refine (hsim _).route.congr hrouter fun neigh hmem => hinfo neigh ?_
          rintro rfl
          exact hneigh (hrouter.trans hmem)

/-- What is known of an OGM that a node processes is still known later. -/
lemma OgmReception.extends (h : OgmReception M n i ev x total t) {p : ℕ} {keys : List IfKey}
    {adverts : List (Advertised.Advert (ν × IfKey) ℕ)}
    (hext : OgmExtends M n p i (offset M.base ev.ogm.seqno) keys adverts t t') :
    OgmReception M n i ev x total t' := by
  refine ⟨h.ogm, h.source, h.iface, h.orig, h.node, ?_, h.seqno, h.bound, h.timely, fun v => ?_⟩
  · rw [hext.adverts, List.getElem?_append_left (List.getElem?_eq_some_iff.1 h.advert).1]
    exact h.advert
  · rcases hext.newest v with heq | heq
    · exact heq.trans_le (h.newest v)
    · exact heq.trans_le h.seqno

/-- What a node has sent on, as advertisements. -/
def OgmMesh.advertsOf (M : OgmMesh ν) (n : ν) (forwarded : List (ℕ × Ogm2Packet)) :
    List (Advertised.Advert (ν × IfKey) ℕ) :=
  forwarded.map fun q => M.advertFor n (some q.1) q.2

/-- The loop over the outgoing interfaces. -/
lemma OgmReception.ifaces (outs : List HardIface) (h : OgmReception M n i ev x total t)
    (hreach : Advertised.Reachable M.dest t) (hsim : ∀ key, KeySim M bat t (n, key))
    (hfresh : ∀ out ∈ outs, ((n, some out.ifindex), ev.ifIncoming.ifindex, i) ∉ t.heard)
    (hnodup : (outs.map HardIface.ifindex).Nodup)
    (hweight : 1000 ≤ (nodeWeightFactor bat.config).toNat)
    (hpenalty : ∀ out ∈ outs,
      PenaltyFits bat.config ev.ifIncoming (some out) (ogmPathAirtime ev))
    (hknown : ∃ orig, origHashFind bat ev.ogm.orig = some orig ∧
      (orig.neighList.get ev.neigh).isSome) :
    ∃ t', OgmExtends M n ev.ifIncoming.ifindex i (offset M.base ev.ogm.seqno)
        (outs.map (some ·.ifindex))
        (M.advertsOf n (vOgmProcessIfaces msecsToJiffies ev bat outs).2) t t' ∧
      ∀ key, KeySim M (vOgmProcessIfaces msecsToJiffies ev bat outs).1 t' (n, key) := by
  induction outs generalizing bat t with
  | nil => exact ⟨t, .refl _ _ _ _ _ _ _, hsim⟩
  | cons out outs ih =>
    obtain ⟨orig, hfind, hn⟩ := hknown
    generalize hone : vOgmProcessPerOutif msecsToJiffies ev bat (some out) = one
    obtain ⟨bat₁, age, packet⟩ := one
    obtain ⟨-, hknown₁, -⟩ := vOgmProcessPerOutif_window hfind hn hone
    have hconfig := (vOgmProcessPerOutif_spec hfind hone).1.config
    rw [List.map_cons, List.nodup_cons] at hnodup
    have hfirst : ((n, ifKey (some out)), ev.ifIncoming.ifindex, i) ∉ t.heard :=
      hfresh out List.mem_cons_self
    obtain ⟨t₁, hext, hsim₁⟩ := h.outif hreach hsim hfirst hweight
      (hpenalty out List.mem_cons_self) hfind hn hone
    have hrest : ∀ out' ∈ outs, ((n, some out'.ifindex), ev.ifIncoming.ifindex, i) ∉ t₁.heard := by
      intro out' hmem he
      rcases hext.heard _ he with he | ⟨key, hkey, heq⟩
      · exact hfresh out' (List.mem_cons_of_mem _ hmem) he
      · rw [List.mem_singleton.1 hkey, Prod.mk.injEq, Prod.mk.injEq, ifKey_some,
          Option.some.injEq] at heq
        exact hnodup.1 (List.mem_map.2 ⟨out', hmem, heq.1.2⟩)
    obtain ⟨t₂, hext₂, hsim₂⟩ := ih (h.extends hext) (hreach.trans hext.steps) hsim₁ hrest hnodup.2
      (hconfig ▸ hweight)
      (fun out' hmem => hconfig ▸ hpenalty out' (List.mem_cons_of_mem _ hmem)) hknown₁
    have hall := hext.trans hext₂
    simp only [vOgmProcessIfaces, hone]
    refine ⟨t₂, ?_, hsim₂⟩
    cases packet <;> exact hall

/-- **The processing of an OGM of the originator** is a sequence of steps. -/
theorem OgmReception.process (msecsToJiffies : ℕ → Jiffies) (h : OgmReception M n i ev x total t)
    (hreach : Advertised.Reachable M.dest t) (hsim : ∀ key, KeySim M bat t (n, key))
    (hfresh : ∀ key, ((n, key), ev.ifIncoming.ifindex, i) ∉ t.heard)
    (hnodup : (bat.hardIfaces.map HardIface.ifindex).Nodup)
    (hweight : 1000 ≤ (nodeWeightFactor bat.config).toNat)
    (hpenalty : ∀ out ∈ bat.hardIfaces,
      PenaltyFits bat.config ev.ifIncoming (some out) (ogmPathAirtime ev)) :
    ∃ keys t', OgmExtends M n ev.ifIncoming.ifindex i (offset M.base ev.ogm.seqno) keys
        (M.advertsOf n (vOgmProcess msecsToJiffies bat ev).2.forwarded) t t' ∧
      ∀ key, KeySim M (vOgmProcess msecsToJiffies bat ev).1 t' (n, key) := by
  unfold vOgmProcess
  cases hacc : vOgmAccept ev bat with
  | none =>
    refine ⟨[], t, .refl _ _ _ _ _ _ _, fun key => ?_⟩
    obtain ⟨hrouter, hinfo⟩ := vOgmRejectState_routes ev bat M.orig key
    refine (hsim key).congr ?_ hrouter hinfo rfl rfl fun _ _ hb _ => hb
    rw [memoryOf, memoryOf, vOgmRejectState_window]
  | some r =>
    obtain ⟨bat₁, orig, hardifNeigh⟩ := r
    obtain ⟨hwindow, orig₁, hfind, hn⟩ := ogmTvlvState_window hacc
    have hsame := (vOgmAccept_eq_some hacc).1
    have hsim₁ : ∀ key, KeySim M (ogmTvlvState ev bat₁ orig) t (n, key) := by
      intro key
      obtain ⟨hrouter, hinfo⟩ := ogmTvlvState_routes hacc M.orig key
      refine (hsim key).congr ?_ hrouter hinfo rfl rfl fun _ _ hb _ => hb
      rw [memoryOf, memoryOf, hwindow]
    have hconfig : (ogmTvlvState ev bat₁ orig).config = bat.config := hsame.config
    generalize hone : vOgmProcessPerOutif msecsToJiffies ev (ogmTvlvState ev bat₁ orig) none = one
    obtain ⟨bat₂, age, packet⟩ := one
    obtain ⟨hsame₂, -, hnone⟩ := vOgmProcessPerOutif_spec hfind hone
    obtain ⟨-, hknown₂, -⟩ := vOgmProcessPerOutif_window hfind hn hone
    have hpacket : packet = none := by
      cases packet with
      | none => rfl
      | some p =>
        obtain ⟨out, hout, -⟩ := hnone p rfl
        cases hout
    subst hpacket
    have hfirst : ((n, ifKey none), ev.ifIncoming.ifindex, i) ∉ t.heard := hfresh none
    obtain ⟨t₂, hext, hsim₂⟩ := h.outif hreach hsim₁ hfirst (hconfig ▸ hweight) trivial hfind hn
      hone
    have hconfig₂ : bat₂.config = bat.config := hsame₂.config.trans hconfig
    have hifaces₂ : bat₂.hardIfaces = bat.hardIfaces := hsame₂.hardIfaces.trans hsame.hardIfaces
    have hsub : (ogmOutIfaces bat₂ ev hardifNeigh).Sublist bat.hardIfaces :=
      hifaces₂ ▸ List.filter_sublist
    have hrest : ∀ out ∈ ogmOutIfaces bat₂ ev hardifNeigh,
        ((n, some out.ifindex), ev.ifIncoming.ifindex, i) ∉ t₂.heard := by
      intro out _ he
      rcases hext.heard _ he with he | ⟨key, hkey, heq⟩
      · exact hfresh _ he
      · rw [List.mem_singleton.1 hkey] at heq
        cases heq
    obtain ⟨t₃, hext₃, hsim₃⟩ := (h.extends hext).ifaces (ogmOutIfaces bat₂ ev hardifNeigh)
      (hreach.trans hext.steps) hsim₂ hrest (hnodup.sublist (hsub.map HardIface.ifindex))
      (hconfig₂ ▸ hweight) (fun out hmem => hconfig₂ ▸ hpenalty out (hsub.subset hmem)) hknown₂
    simp only [hone]
    exact ⟨_, t₃, hext.trans hext₃, hsim₃⟩

/-! ### Runs -/

/-- The originator's sending is a sequence of steps. -/
lemma originate_steps (M : OgmMesh ν) (ogm : Ogm2Packet) (ifaces : List ℕ) (hnodup : ifaces.Nodup)
    (t : Advertised.State (ν × IfKey) ℕ ℕ)
    (hseqno : ∀ a ∈ t.adverts, ∀ x ∈ ifaces, a.source = (M.origin, some x) →
      a.seqno < offset M.base ogm.seqno) :
    Relation.ReflTransGen (Advertised.Step M.dest) t
      { t with
        adverts := t.adverts ++ ifaces.map fun x => M.advert ⟨M.origin, x, ogm⟩ } := by
  induction ifaces generalizing t with
  | nil =>
    rw [List.map_nil, List.append_nil]
  | cons x ifaces ih =>
    rw [List.nodup_cons] at hnodup
    have hfirst : Advertised.Step M.dest t (t.advertise (M.origin, some x) (offset M.base ogm.seqno)
        ogm.throughput.toNat) :=
      .start t _ _ _ rfl fun a ha hsource => hseqno a ha x List.mem_cons_self hsource
    have hseqno' : ∀ a ∈ (t.advertise (M.origin, some x) (offset M.base ogm.seqno)
        ogm.throughput.toNat).adverts, ∀ y ∈ ifaces, a.source = (M.origin, some y) →
          a.seqno < offset M.base ogm.seqno := by
      intro a ha y hy hsource
      rcases List.mem_append.1 ha with ha | ha
      · exact hseqno a ha y (List.mem_cons_of_mem _ hy) hsource
      · obtain rfl := List.mem_singleton.1 ha
        obtain rfl := Option.some.inj (congrArg Prod.snd hsource)
        exact absurd hy hnodup.1
    refine .head hfirst ?_
    simpa only [Advertised.State.advertise, OgmMesh.advert, List.append_assoc,
      List.singleton_append, List.map_cons] using ih hnodup.2 _ hseqno'

omit [Inhabited δ] in
/-- Before anything was sent, the simulation holds. -/
lemma OgmNet.Fresh.sim {s : OgmNet ν δ} (h : s.Fresh M) : OgmNetSim M s .start where
  reachable := .refl
  adverts := by rw [h.sent]; rfl
  heard := fun _ _ _ _ he => absurd he (Set.notMem_empty _)
  newest := fun _ => Nat.zero_le _
  sent := fun x hx => by
    rw [h.sent] at hx
    exact absurd hx List.not_mem_nil
  count := by
    rw [h.count]
    decide
  vertex := fun v => ⟨.inl rfl, fun _ b hb => absurd hb List.not_mem_nil, .none (h.router v.1 v.2)⟩

omit [DecidableEq ν] in
/-- The sequence number of the next OGM. -/
lemma offset_nextOgm (M : OgmMesh ν) {count : ℕ} (hcount : count + 1 < 2 ^ 31) (tvlv : List U8) :
    offset M.base (M.nextOgm count tvlv).seqno = count + 1 :=
  SerialNumber.offset_add_ofNat M.base (by omega)

/-- The originator sends an OGM. -/
lemma OgmNetSim.originate {s : OgmNet ν δ} (h : OgmNetSim M s t) {ifaces : List ℕ}
    (hnodup : ifaces.Nodup) (hifaces : ∀ x ∈ ifaces, M.hasIface M.origin x)
    (hcount : s.count + 1 < 2 ^ 31) (tvlv : List U8) :
    ∃ t', OgmNetSim M (ogmNetNext msecsToJiffies M s (.originate ifaces tvlv)) t' := by
  have hseqno := offset_nextOgm M hcount tvlv
  have hsteps := originate_steps M (M.nextOgm s.count tvlv) ifaces hnodup t fun a ha _ _ _ => by
    rw [h.adverts] at ha
    obtain ⟨x, hx, rfl⟩ := List.mem_map.1 ha
    exact hseqno.symm ▸ Nat.lt_succ_of_le (h.sent x hx).2.2.2
  refine ⟨_, h.reachable.trans hsteps, ?_, h.heard, fun v => (h.newest v).trans (Nat.le_succ _),
    fun x hx => ?_, hcount, fun v => ?_⟩
  · simp only [ogmNetNext, h.adverts, List.map_append, List.map_map]
    rfl
  · rcases List.mem_append.1 hx with hx | hx
    · obtain ⟨hiface, horig, hpos, hle⟩ := h.sent x hx
      exact ⟨hiface, horig, hpos, hle.trans (Nat.le_succ _)⟩
    · obtain ⟨y, hy, rfl⟩ := List.mem_map.1 hx
      dsimp only
      rw [hseqno]
      exact ⟨hifaces y hy, rfl, Nat.le_add_left _ _, le_refl _⟩
  · refine (h.vertex v).congr rfl rfl (fun _ => rfl) rfl rfl fun hdest b hb hsource => ?_
    rcases List.mem_append.1 hb with hb | hb
    · exact hb
    · obtain ⟨y, -, rfl⟩ := List.mem_map.1 hb
      exact absurd (congrArg Prod.fst hsource).symm hdest

/-- A node other than the originator receives an OGM. -/
lemma OgmNetSim.receive {s : OgmNet ν δ} (h : OgmNetSim M s t) (hguard : OgmReceiveGuard M s n i ev)
    (hn : n ≠ M.origin) :
    ∃ t', OgmNetSim M (ogmNetNext msecsToJiffies M s (.receive n i ev)) t' := by
  obtain ⟨x, hx, hogm, hsource⟩ := hguard.sent
  obtain ⟨hiface, horig, hpos, hle⟩ := h.sent x (List.mem_of_getElem? hx)
  rw [← hogm] at horig hpos hle
  have hadvert : t.adverts[i]? = some (M.advert x) := by
    rw [h.adverts, List.getElem?_map, hx]
    rfl
  have hrecv : OgmReception M n i ev x s.count t :=
    ⟨hogm, hsource, hiface, horig, hn, hadvert, hle, h.count, hguard.timely, h.newest⟩
  obtain ⟨keys, t', hext, hsim⟩ := hrecv.process msecsToJiffies h.reachable
    (fun key => h.vertex (n, key)) (fun key he => hguard.once (h.heard n key _ i he)) hguard.ifaces
    hguard.weight hguard.penalty
  refine ⟨t', h.reachable.trans hext.steps, ?_, fun m key p j he => ?_, fun v => ?_, fun y hy => ?_,
    h.count, fun v => ?_⟩
  · rw [hext.adverts, h.adverts]
    simp only [ogmNetNext, List.map_append, List.map_map]
    rfl
  · rcases hext.heard _ he with he | ⟨key', -, heq⟩
    · exact List.mem_cons_of_mem _ (h.heard m key p j he)
    · cases heq
      exact List.mem_cons_self
  · rcases hext.newest v with heq | heq
    · exact heq.trans_le (h.newest v)
    · exact heq.trans_le hle
  · rcases List.mem_append.1 hy with hy | hy
    · exact h.sent y hy
    · obtain ⟨q, hq, rfl⟩ := List.mem_map.1 hy
      obtain ⟨-, out, hout, -, -, rfl⟩ := vOgmProcess_forwarded hq
      exact ⟨hguard.hasIface out hout, horig, hpos, hle⟩
  · by_cases hv : v.1 = n
    · obtain ⟨m, key⟩ := v
      obtain rfl : m = n := hv
      have hnode : (ogmNetNext msecsToJiffies M s (.receive m i ev)).node m =
          (vOgmProcess msecsToJiffies (s.node m) ev).1 := Function.update_self ..
      rw [hnode]
      exact hsim key
    · have hnode : (ogmNetNext msecsToJiffies M s (.receive n i ev)).node v.1 = s.node v.1 :=
        Function.update_of_ne hv ..
      obtain ⟨hnewest, hroute⟩ := hext.others v hv
      rw [hnode]
      refine (h.vertex v).congr rfl rfl (fun _ => rfl) hnewest hroute fun _ b hb hsource => ?_
      rw [hext.adverts] at hb
      rcases List.mem_append.1 hb with hb | hb
      · exact hb
      · obtain ⟨q, -, rfl⟩ := List.mem_map.1 hb
        exact absurd (congrArg Prod.fst hsource).symm hv

omit [Inhabited δ] in
/-- An event that leaves the records of the originator alone. -/
lemma OgmNetSim.other {s s' : OgmNet ν δ} (h : OgmNetSim M s t) (hsent : s'.sent = s.sent)
    (hreceived : ∀ e ∈ s.received, e ∈ s'.received) (hcount : s'.count = s.count)
    (hsame : ∀ m key, SameRoutes (s.node m) (s'.node m) M.orig key) : OgmNetSim M s' t where
  reachable := h.reachable
  adverts := by rw [hsent, h.adverts]
  heard := fun m key p j he => hreceived _ (h.heard m key p j he)
  newest := fun v => hcount ▸ h.newest v
  sent := by
    rw [hsent, hcount]
    exact h.sent
  count := hcount ▸ h.count
  vertex := by
    intro v
    have hsame' := hsame v.1 v.2
    refine (h.vertex v).congr ?_ hsame'.router hsame'.info rfl rfl fun _ _ hb _ => hb
    rw [memoryOf, memoryOf, hsame'.window]

/-- **Every event is a sequence of steps of the abstract routes.** -/
theorem OgmNetSim.step {s : OgmNet ν δ} (h : OgmNetSim M s t) {e : OgmNetEvent ν δ}
    (hguard : OgmNetGuard M s e) : ∃ t', OgmNetSim M (ogmNetNext msecsToJiffies M s e) t' := by
  cases e with
  | originate ifaces tvlv => exact h.originate hguard.1 hguard.2.1 hguard.2.2 tvlv
  | receive n i ev =>
    by_cases hn : n = M.origin
    · -- the originator drops its own OGM
      obtain ⟨x, hx, hogm, -⟩ := hguard.sent
      have horig := (h.sent x (List.mem_of_getElem? hx)).2.1
      rw [← hogm] at horig
      have hmine : isMyMac (s.node n) ev.ogm.orig = true := horig ▸ hguard.own hn
      have hdropped : vOgmProcess msecsToJiffies (s.node n) ev = (s.node n, .dropped) := by
        unfold vOgmProcess vOgmAccept vOgmRejectState
        rw [if_pos hmine, if_pos hmine]
      refine ⟨t, h.other ?_ (fun e he => List.mem_cons_of_mem _ he) rfl fun m key => ?_⟩
      · simp only [ogmNetNext, hdropped, OgmOutcome.dropped, List.map_nil, List.append_nil]
      · simp only [ogmNetNext, hdropped, Function.update_eq_self]
        exact .refl _ _ _
    · exact h.receive hguard hn
  | other n bat =>
    refine ⟨t, h.other rfl (fun _ he => he) rfl fun m key => ?_⟩
    by_cases hm : m = n
    · subst hm
      have hnode : (ogmNetNext msecsToJiffies M s (.other m bat)).node m = bat :=
        Function.update_self ..
      rw [hnode]
      exact hguard key
    · have hnode : (ogmNetNext msecsToJiffies M s (.other n bat)).node m = s.node m :=
        Function.update_of_ne hm ..
      rw [hnode]
      exact .refl _ _ _

end Steps

/-! ### No loop -/

section Loops

variable [DecidableEq ν] {M : OgmMesh ν} {s : OgmNet ν δ}
variable {t : Advertised.State (ν × IfKey) ℕ ℕ}

/-- The next hop is that of the abstract route. -/
lemma OgmNetSim.nextHop_iff (h : OgmNetSim M s t) (v w : ν × IfKey) :
    NextHop M s v w ↔ Advertised.Uses t v w := by
  constructor
  · rintro ⟨key, x, hrouter, hindex, hiface, haddr⟩
    cases hr : t.route v with
    | none =>
      have hroute := (h.vertex v).route
      rw [hr] at hroute
      cases hroute with
      | none hnone =>
        rw [hnone] at hrouter
        cases hrouter
    | some r =>
      have hroute := (h.vertex v).route
      rw [hr] at hroute
      refine ⟨r, hr, ?_⟩
      cases hroute with
      | some _ y info hnext hiface' hrouter' =>
        obtain rfl := Option.some.inj (hrouter'.symm.trans hrouter)
        obtain ⟨hnode, rfl⟩ := M.addrOf_injective hiface' hiface haddr
        exact Prod.ext hnode (hnext.trans hindex.symm)
  · rintro ⟨r, hr, rfl⟩
    have hroute := (h.vertex v).route
    rw [Option.mem_def.1 hr] at hroute
    cases hroute with
    | some _ y info hnext hiface hrouter => exact ⟨_, y, hrouter, hnext, hiface, rfl⟩

/-- A router is an abstract route. -/
lemma OgmNetSim.exists_route (h : OgmNetSim M s t) {v : ν × IfKey}
    (hv : (routerOf (s.node v.1) M.orig v.2).isSome) : ∃ r, r ∈ t.route v := by
  cases hr : t.route v with
  | none =>
    have hroute := (h.vertex v).route
    rw [hr] at hroute
    cases hroute with
    | none hnone =>
      rw [hnone] at hv
      exact absurd hv Bool.false_ne_true
  | some r => exact ⟨r, rfl⟩

/-- **The routes form no loop, and lead to the originator**, in every state of every run from nodes
without routes to it.

**Proof sketch.** The records simulate the abstract routes, where the sequence number and the cost
get better along every route. -/
theorem v_ogm_loop_free [Inhabited δ] (msecsToJiffies : ℕ → Jiffies) (M : OgmMesh ν)
    {s : OgmNet ν δ} (hfresh : s.Fresh M) (es : List (OgmNetEvent ν δ))
    (hguard : Run.AllSteps (ogmNetNext msecsToJiffies M) (OgmNetGuard M) s es) :
    ∀ s' ∈ Run.states (ogmNetNext msecsToJiffies M) s es,
      (∀ v, ¬ Relation.TransGen (NextHop M s') v v) ∧
      ∀ v, (routerOf (s'.node v.1) M.orig v.2).isSome →
        ∃ key, Relation.TransGen (NextHop M s') v (M.origin, key) := by
  intro s' hs'
  obtain ⟨t, hsim⟩ := Run.AllSteps.forall_mem_states (fun s => ∃ t, OgmNetSim M s t)
    (fun _ _ ⟨_, h⟩ hguard => h.step hguard) ⟨_, hfresh.sim⟩ hguard s' hs'
  have hinv := hsim.reachable.inv
  have huses : NextHop M s' = Advertised.Uses t := by
    ext v w
    exact hsim.nextHop_iff v w
  rw [huses]
  refine ⟨Advertised.not_transGen_uses hinv, fun v hv => ?_⟩
  obtain ⟨r, hr⟩ := hsim.exists_route hv
  obtain ⟨w, hw, hpath⟩ := Advertised.exists_dest hinv hr
  refine ⟨w.2, ?_⟩
  rw [← show w.1 = M.origin from hw]
  exact hpath

end Loops

/-! ### A line of three nodes -/

/-- The interfaces of an originator, a relay and a third node. -/
def lineIfaces : List (Fin 3 × ℕ) := [(0, 1), (1, 1), (1, 2), (2, 1)]

/-- Their addresses. -/
def lineAddr : Fin 3 → ℕ → EthAddr
  | 0, _ => 0x02000000000A
  | 1, x => 0x020000000010 + BitVec.ofNat 48 x
  | 2, _ => 0x02000000000C

/-- An originator, a relay and a third node. -/
def lineMesh : OgmMesh (Fin 3) where
  origin := 0
  orig := 0x02000000000A
  base := 0
  hasIface := fun n x => (n, x) ∈ lineIfaces
  addrOf := lineAddr
  addrOf_injective := by
    intro n m x y hx hy haddr
    have hall : ∀ p ∈ lineIfaces, ∀ q ∈ lineIfaces,
        lineAddr p.1 p.2 = lineAddr q.1 q.2 → p = q := by decide
    exact Prod.mk.inj (hall _ hx _ hy haddr)

instance (n : Fin 3) (x : ℕ) : Decidable (lineMesh.hasIface n x) :=
  inferInstanceAs (Decidable ((n, x) ∈ lineIfaces))

/-- The interface of the third node. -/
def lineIface : HardIface :=
  ⟨1, 0x02000000000C, true, FULL_DUPLEX, [⟨0x020000000012, 0x020000000011, 20⟩]⟩

/-- Nothing was sent yet. -/
def lineNet : OgmNet (Fin 3) Unit where
  node
    | 0 => ⟨meshConfigInit, [⟨1, 0x02000000000A, true, FULL_DUPLEX, []⟩], [], []⟩
    | 1 => relayNode meshConfigInit 10
    | 2 => ⟨meshConfigInit, [lineIface], [], []⟩
  sent := []
  received := []
  count := 0

/-- The originator sends an OGM, which the relay receives, and then the third node. -/
def lineRun : List (OgmNetEvent (Fin 3) Unit) :=
  [.originate [1] [], .receive 1 0 (relayRecv 0 10),
    .receive 2 1 ⟨⟨49, 1, 0x02000000000A, 11, []⟩, 0x020000000012, lineIface, 100000, .all⟩]

/-- Nobody knows the originator yet. -/
lemma lineNet_fresh : lineNet.Fresh lineMesh where
  sent := rfl
  count := rfl
  router := by
    intro n key
    have hhash : ∀ n, (lineNet.node n).origHash = [] := by decide
    rw [routerOf, origHashFind, hhash]
    rfl

/-- The third node's route leads to the originator. -/
theorem v_ogm_loop_free_line : ∃ key, Relation.TransGen
    (NextHop lineMesh (Run.final (ogmNetNext (BitVec.ofNat 64) lineMesh) lineNet lineRun))
    (2, none) (0, key) :=
  (v_ogm_loop_free (BitVec.ofNat 64) lineMesh lineNet_fresh lineRun
    ⟨⟨by decide, by decide, by decide⟩,
      ⟨⟨⟨0, 1, ⟨50, 1, 0x02000000000A, 0, []⟩⟩, by decide, rfl, rfl⟩, by decide, by decide,
        by decide, by decide, by decide, by decide, by decide⟩,
      ⟨⟨⟨1, 2, ⟨49, 1, 0x02000000000A, 11, []⟩⟩, by decide, rfl, by decide⟩, by decide, by decide,
        by decide, by decide, by decide, by decide, by decide⟩,
      trivial⟩ _ (Run.final_mem_states _ _)).2 (2, none) (by decide)

end Batadv
