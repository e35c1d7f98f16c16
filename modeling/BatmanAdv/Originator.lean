import BatmanAdv.Lib.Table
import BatmanAdv.Tvlv

set_option relaxedAutoImplicit false
set_option autoImplicit false

/-!
# Interfaces, neighbours and originators (`types.h`, `originator.c`, `hard-interface.c`)

What a node knows about the mesh: its hard interfaces with the neighbours heard on them, and for
each originator the neighbours through which it can be reached, with one record per outgoing
interface.  `BATADV_IF_DEFAULT`, a null pointer in the code, is `none`.

Allocations may fail.  Which ones succeed during a call is an argument of it, an `Alloc`.

## Main definitions

* `Batadv.HardIface`, `Batadv.OrigNode`, `Batadv.BatPriv` — the data.
* `Batadv.origIfinfoNew`, `Batadv.neighIfinfoNew`, `Batadv.neighNodeGetOrCreate`,
  `Batadv.origNodeNew` — lookups that create what they do not find.
* `Batadv.hardifNoBroadcast` — whether an interface needs a rebroadcast at all.
-/

namespace Batadv

/-! ### Interfaces -/

/-- `struct batadv_hardif_neigh_node`: a neighbour heard on an interface. -/
structure HardifNeighNode where
  addr : EthAddr
  orig : EthAddr
  airtimeCost : U32
deriving DecidableEq, Repr

/-- `struct batadv_hard_iface`.  Two pointers to interfaces are equal when the indices are. -/
structure HardIface where
  ifindex : ℕ
  devAddr : EthAddr
  /-- `if_status` is `BATADV_IF_ACTIVE`. -/
  active : Bool
  /-- `bat_v.flags`. -/
  flags : U8
  neighList : List HardifNeighNode
deriving DecidableEq, Repr

/-- `BATADV_FULL_DUPLEX`. -/
def FULL_DUPLEX : U8 := 1

/-- The key of the per-interface records: `none` is `BATADV_IF_DEFAULT`. -/
abbrev IfKey := Option ℕ

/-- The key of an outgoing interface. -/
def ifKey (ifOutgoing : Option HardIface) : IfKey := ifOutgoing.map HardIface.ifindex

@[simp] lemma ifKey_none : ifKey none = none := rfl
@[simp] lemma ifKey_some (h : HardIface) : ifKey (some h) = some h.ifindex := rfl

/-- `batadv_hardif_neigh_get`. -/
def hardifNeighGet (hardIface : HardIface) (neighAddr : EthAddr) : Option HardifNeighNode :=
  hardIface.neighList.find? (fun n => n.addr == neighAddr)

/-- The reasons `batadv_hardif_no_broadcast` gives. -/
inductive HardifBcast
  | ok
  | noRecipient
  | dupOrig
  | dupFwd
deriving DecidableEq, Repr

/-- `batadv_hardif_no_broadcast`: check whether (re)broadcast is necessary.  The forwarder is
`none` when the packet originated here. -/
def hardifNoBroadcast (ifOutgoing : HardIface) (origAddr : EthAddr)
    (origNeigh : Option EthAddr) : HardifBcast :=
  match ifOutgoing.neighList with
  | [] => .noRecipient
  | [n] =>
    if n.orig = origAddr then .dupOrig
    else if origNeigh = some n.orig then .dupFwd
    else .ok
  | _ :: _ :: _ => .ok

/-! ### Originators -/

/-- `struct batadv_neigh_ifinfo`. -/
structure NeighIfinfo where
  airtimeCost : U32
  lastSeqno : U32
  lastTtl : U8
deriving DecidableEq, Repr

/-- What identifies a neighbour of an originator: its address and the interface it is heard on. -/
structure NeighKey where
  addr : EthAddr
  ifIncoming : ℕ
deriving DecidableEq, Repr

/-- `struct batadv_neigh_node`. -/
structure NeighNode where
  /-- The originator whose list the neighbour is in. -/
  origNode : EthAddr
  lastSeen : Jiffies
  ifinfoList : Table IfKey NeighIfinfo
deriving DecidableEq, Repr

/-- `struct batadv_orig_ifinfo`. -/
structure OrigIfinfo where
  router : Option NeighKey
  lastRealSeqno : U32
  lastTtl : U8
  lastSeqnoForwarded : U32
  batmanSeqnoReset : Jiffies
deriving DecidableEq, Repr

/-- What TVLV handlers keep about an originator: the parameters of its weight, and in `data` what
the other handlers keep (translation table, gateway, multicast, ...). -/
structure OrigTvlv (δ : Type*) where
  nodePriority : U8
  dutyCycle : U8
  powerClass : U8
  data : δ
deriving DecidableEq, Repr

/-- `struct batadv_orig_node`. -/
structure OrigNode (δ : Type*) where
  orig : EthAddr
  lastSeen : Jiffies
  neighList : Table NeighKey NeighNode
  ifinfoList : Table IfKey OrigIfinfo
  tvlv : OrigTvlv δ
deriving DecidableEq, Repr

/-- The parameters a node is configured with: its weight and the hop penalty. -/
structure MeshConfig where
  nodePriority : U8
  dutyCycle : U8
  powerClass : U8
  hopPenalty : U8
deriving DecidableEq, Repr

/-- `struct batadv_priv`, as far as the routing algorithm is concerned. -/
structure BatPriv (δ : Type*) where
  config : MeshConfig
  hardIfaces : List HardIface
  origHash : Table EthAddr (OrigNode δ)
  handlerList : List (TvlvHandler (OrigTvlv δ))

/-- Which allocations succeed during a call. -/
structure Alloc where
  origNode : EthAddr → Bool
  neighNode : Bool
  origIfinfo : IfKey → Bool
  neighIfinfo : IfKey → Bool
  skb : ℕ → Bool

/-- Memory is available throughout. -/
def Alloc.all : Alloc := ⟨fun _ => true, true, fun _ => true, fun _ => true, fun _ => true⟩

variable {δ : Type*}

/-- `batadv_is_my_mac`. -/
def isMyMac (bat : BatPriv δ) (addr : EthAddr) : Bool :=
  bat.hardIfaces.any (fun h => h.active && h.devAddr == addr)

/-- The originator hash with the record of one originator replaced. -/
def BatPriv.setOrig (bat : BatPriv δ) (addr : EthAddr) (orig : OrigNode δ) : BatPriv δ :=
  { bat with origHash := bat.origHash.set addr orig }

/-- `batadv_orig_hash_find`. -/
def origHashFind (bat : BatPriv δ) (addr : EthAddr) : Option (OrigNode δ) := bat.origHash.get addr

@[simp] lemma origHashFind_setOrig_self (bat : BatPriv δ) (addr : EthAddr) (orig : OrigNode δ) :
    origHashFind (bat.setOrig addr orig) addr = some orig := Table.get_set_self _ _ _

lemma origHashFind_setOrig_of_ne (bat : BatPriv δ) {addr addr' : EthAddr} (orig : OrigNode δ)
    (h : addr' ≠ addr) : origHashFind (bat.setOrig addr orig) addr' = origHashFind bat addr' :=
  Table.get_set_of_ne _ _ h

@[simp] lemma setOrig_config (bat : BatPriv δ) (addr : EthAddr) (orig : OrigNode δ) :
    (bat.setOrig addr orig).config = bat.config := rfl

@[simp] lemma setOrig_hardIfaces (bat : BatPriv δ) (addr : EthAddr) (orig : OrigNode δ) :
    (bat.setOrig addr orig).hardIfaces = bat.hardIfaces := rfl

/-- `BATADV_NODE_PRIORITY_DEFAULT`. -/
def NODE_PRIORITY_DEFAULT : U8 := 128

/-- `BATADV_DUTY_CYCLE_DEFAULT`. -/
def DUTY_CYCLE_DEFAULT : U8 := 100

/-- `BATADV_POWER_CLASS_DEFAULT`. -/
def POWER_CLASS_DEFAULT : U8 := 1

/-- What is assumed of an originator before any TVLV handler was run for it. -/
def origTvlvInit [Inhabited δ] : OrigTvlv δ :=
  ⟨NODE_PRIORITY_DEFAULT, DUTY_CYCLE_DEFAULT, POWER_CLASS_DEFAULT, default⟩

/-- `batadv_orig_node_new`: an originator about which nothing is known yet. -/
def origNodeNew [Inhabited δ] (jiffies : Jiffies) (addr : EthAddr) : OrigNode δ where
  orig := addr
  lastSeen := jiffies
  neighList := []
  ifinfoList := []
  tvlv := origTvlvInit

/-- What the node knows of an originator through TVLVs. -/
def tvlvOf [Inhabited δ] (bat : BatPriv δ) (addr : EthAddr) : OrigTvlv δ :=
  ((origHashFind bat addr).map OrigNode.tvlv).getD origTvlvInit

/-- A record that `batadv_orig_ifinfo_new` creates.  Its last reset lies as far back as it takes
not to be protected. -/
def origIfinfoInit (msecsToJiffies : ℕ → Jiffies) (jiffies : Jiffies) : OrigIfinfo where
  router := none
  lastRealSeqno := 0
  lastTtl := 0
  lastSeqnoForwarded := 0
  batmanSeqnoReset := jiffies - 1 - msecsToJiffies RESET_PROTECTION_MS

/-- `batadv_orig_ifinfo_new`: find the record for an outgoing interface, or create one. -/
def origIfinfoNew (msecsToJiffies : ℕ → Jiffies) (jiffies : Jiffies) (alloc : Alloc)
    (orig : OrigNode δ) (ifOutgoing : IfKey) : Option (OrigNode δ × OrigIfinfo) :=
  match orig.ifinfoList.get ifOutgoing with
  | some ifinfo => some (orig, ifinfo)
  | none =>
    if alloc.origIfinfo ifOutgoing then
      let ifinfo := origIfinfoInit msecsToJiffies jiffies
      some ({ orig with ifinfoList := orig.ifinfoList.set ifOutgoing ifinfo }, ifinfo)
    else none

/-- `batadv_neigh_ifinfo_new`: find the record for an outgoing interface, or create one. -/
def neighIfinfoNew (alloc : Alloc) (neigh : NeighNode) (ifOutgoing : IfKey) :
    Option (NeighNode × NeighIfinfo) :=
  match neigh.ifinfoList.get ifOutgoing with
  | some ifinfo => some (neigh, ifinfo)
  | none =>
    if alloc.neighIfinfo ifOutgoing then
      let ifinfo : NeighIfinfo := ⟨0, 0, 0⟩
      some ({ neigh with ifinfoList := neigh.ifinfoList.set ifOutgoing ifinfo }, ifinfo)
    else none

/-- `batadv_neigh_ifinfo_get` for a neighbour of an originator. -/
def OrigNode.neighIfinfoGet (orig : OrigNode δ) (neigh : NeighKey) (ifOutgoing : IfKey) :
    Option NeighIfinfo :=
  (orig.neighList.get neigh).bind (fun n => n.ifinfoList.get ifOutgoing)

/-- `batadv_neigh_node_get_or_create`: find the neighbour of an originator, or create it.  The
neighbour has to be known on the interface; the caller has looked it up there. -/
def neighNodeGetOrCreate (jiffies : Jiffies) (alloc : Alloc) (orig : OrigNode δ)
    (neigh : NeighKey) : Option (OrigNode δ) :=
  match orig.neighList.get neigh with
  | some _ => some orig
  | none =>
    if alloc.neighNode then
      some { orig with neighList := orig.neighList.set neigh ⟨orig.orig, jiffies, []⟩ }
    else none

/-- `batadv_orig_router_get`. -/
def origRouterGet (orig : OrigNode δ) (ifOutgoing : IfKey) : Option NeighKey :=
  (orig.ifinfoList.get ifOutgoing).bind OrigIfinfo.router

/-- `_batadv_update_route` to a neighbour: set the router for the given interface. -/
def updateRoute (orig : OrigNode δ) (ifOutgoing : IfKey) (neigh : NeighKey) : OrigNode δ :=
  match orig.ifinfoList.get ifOutgoing with
  | none => orig
  | some ifinfo =>
    { orig with ifinfoList := orig.ifinfoList.set ifOutgoing { ifinfo with router := some neigh } }

/-! ### What the lookups keep -/

/-- Between the states, nothing was changed that TVLV handlers keep, and no originator was lost:
only metrics and routes were. -/
structure SameTvlv [Inhabited δ] (bat bat' : BatPriv δ) : Prop where
  config : bat'.config = bat.config
  hardIfaces : bat'.hardIfaces = bat.hardIfaces
  handlerList : bat'.handlerList = bat.handlerList
  tvlv : ∀ addr, tvlvOf bat' addr = tvlvOf bat addr
  known : ∀ addr, (origHashFind bat addr).isSome → (origHashFind bat' addr).isSome

lemma SameTvlv.refl [Inhabited δ] (bat : BatPriv δ) : SameTvlv bat bat :=
  ⟨rfl, rfl, rfl, fun _ => rfl, fun _ h => h⟩

lemma SameTvlv.trans [Inhabited δ] {a b c : BatPriv δ} (h : SameTvlv a b) (h' : SameTvlv b c) :
    SameTvlv a c :=
  ⟨h'.config.trans h.config, h'.hardIfaces.trans h.hardIfaces,
    h'.handlerList.trans h.handlerList, fun addr => (h'.tvlv addr).trans (h.tvlv addr),
    fun addr hk => h'.known addr (h.known addr hk)⟩

/-- Replacing a record by one with the same TVLV data. -/
lemma SameTvlv.setOrig [Inhabited δ] {bat : BatPriv δ} {addr : EthAddr} {orig : OrigNode δ}
    (h : orig.tvlv = tvlvOf bat addr) : SameTvlv bat (bat.setOrig addr orig) := by
  refine ⟨rfl, rfl, rfl, fun a => ?_, fun a ha => ?_⟩
  · by_cases haddr : a = addr
    · rw [haddr, ← h]
      simp [tvlvOf]
    · simp [tvlvOf, origHashFind_setOrig_of_ne bat orig haddr]
  · by_cases haddr : a = addr
    · simp [haddr]
    · rwa [origHashFind_setOrig_of_ne bat orig haddr]

lemma tvlvOf_eq_of_find [Inhabited δ] {bat : BatPriv δ} {addr : EthAddr} {orig : OrigNode δ}
    (h : origHashFind bat addr = some orig) : tvlvOf bat addr = orig.tvlv := by
  simp [tvlvOf, h]

/-- What `origIfinfoNew` returns: the record that is there, or a new one.  It is in the table, and
nothing else changed. -/
lemma origIfinfoNew_eq_some {msecsToJiffies : ℕ → Jiffies} {jiffies : Jiffies} {alloc : Alloc}
    {orig orig' : OrigNode δ} {ifOutgoing : IfKey} {ifinfo : OrigIfinfo}
    (h : origIfinfoNew msecsToJiffies jiffies alloc orig ifOutgoing = some (orig', ifinfo)) :
    orig'.ifinfoList.get ifOutgoing = some ifinfo ∧
      ifinfo = (orig.ifinfoList.get ifOutgoing).getD (origIfinfoInit msecsToJiffies jiffies) ∧
      orig'.neighList = orig.neighList ∧ orig'.tvlv = orig.tvlv := by
  unfold origIfinfoNew at h
  split at h
  · next hget =>
    obtain ⟨rfl, rfl⟩ := by simpa using h
    exact ⟨hget, by simp [hget], rfl, rfl⟩
  · next hget =>
    split_ifs at h
    obtain ⟨rfl, rfl⟩ := by simpa using h
    exact ⟨Table.get_set_self _ _ _, by simp [hget], rfl, rfl⟩

/-- `origIfinfoNew` fails when there is no record and none can be allocated. -/
lemma origIfinfoNew_eq_none_iff {msecsToJiffies : ℕ → Jiffies} {jiffies : Jiffies}
    {alloc : Alloc} {orig : OrigNode δ} {ifOutgoing : IfKey} :
    origIfinfoNew msecsToJiffies jiffies alloc orig ifOutgoing = none ↔
      ¬ ((orig.ifinfoList.get ifOutgoing).isSome ∨ alloc.origIfinfo ifOutgoing = true) := by
  unfold origIfinfoNew
  split
  · next hget => simp [hget]
  · next hget => split_ifs <;> simp_all

/-- `neighIfinfoNew` fails when there is no record and none can be allocated. -/
lemma neighIfinfoNew_eq_none_iff (alloc : Alloc) (neigh : NeighNode) (ifOutgoing : IfKey) :
    neighIfinfoNew alloc neigh ifOutgoing = none ↔
      ¬ ((neigh.ifinfoList.get ifOutgoing).isSome ∨ alloc.neighIfinfo ifOutgoing = true) := by
  unfold neighIfinfoNew
  split
  · next hget => simp [hget]
  · next hget => split_ifs <;> simp_all

/-- A neighbour that was looked up or created is in the list, and nothing else changed. -/
lemma neighNodeGetOrCreate_eq_some {jiffies : Jiffies} {alloc : Alloc} {orig orig' : OrigNode δ}
    {neigh : NeighKey} (h : neighNodeGetOrCreate jiffies alloc orig neigh = some orig') :
    (∃ n, orig'.neighList.get neigh = some n) ∧
      (∀ key, orig'.neighIfinfoGet neigh key = orig.neighIfinfoGet neigh key) ∧
      orig'.ifinfoList = orig.ifinfoList ∧ orig'.tvlv = orig.tvlv := by
  unfold neighNodeGetOrCreate at h
  split at h
  · next n hget =>
    obtain rfl := by simpa using h
    exact ⟨⟨n, hget⟩, fun _ => rfl, rfl, rfl⟩
  · next hget =>
    split_ifs at h
    obtain rfl := by simpa using h
    refine ⟨⟨_, Table.get_set_self _ _ _⟩, fun key => ?_, rfl, rfl⟩
    simp [OrigNode.neighIfinfoGet, hget]

/-- A neighbour cannot be had when it is not in the list and none can be allocated. -/
lemma neighNodeGetOrCreate_eq_none_iff (jiffies : Jiffies) {alloc : Alloc} {orig : OrigNode δ}
    {neigh : NeighKey} : neighNodeGetOrCreate jiffies alloc orig neigh = none ↔
      orig.neighList.get neigh = none ∧ alloc.neighNode = false := by
  unfold neighNodeGetOrCreate
  split
  · next hget => simp [hget]
  · next hget => split_ifs <;> simp_all

end Batadv
