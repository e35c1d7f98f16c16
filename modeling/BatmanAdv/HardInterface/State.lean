import BatmanAdv.Fragmentation.Buffer
import BatmanAdv.Lib.Run
import Mathlib.Logic.Function.Basic

set_option relaxedAutoImplicit false
set_option autoImplicit false

/-!
# The life of a hard interface (`hard-interface.c`, `mesh-interface.c`)

A net device that can carry a mesh gets an object, `struct batadv_hard_iface`, when it is
registered.  The object can be enslaved to a mesh interface, becomes active when its device goes up,
may be the primary interface of the mesh, and goes away with its device.  The objects are counted:
the list of all objects, the link to the mesh interface, the packet handler, the pointer to the
primary interface and whatever else uses the object hold a reference each.

All of this happens under the RTNL lock, so that one event is handled at a time.  Objects, devices
and mesh interfaces are numbers; a pointer to an object is its number, and the number of an object
is never used again.

## Main definitions

* `Batadv.HardifTables` — the objects and the links between them.
* `Batadv.HardifWorld` — the same with the reference counters, and with a record of any use of an
  object without references or of a mesh interface that is not there.
* `Batadv.hardifEnableInterface`, `Batadv.hardifDisableInterface`, `Batadv.hardIfEvent`,
  `Batadv.meshifSlaveAdd`, `Batadv.meshifDestroyNetlink` — the handlers.
* `Batadv.updateMinMtu`, `Batadv.interfaceChangeMtu` — the MTU of a mesh interface.
* `Batadv.hardifWorldNext` — one event.
-/

namespace Batadv

/-! ### The data -/

/-- `enum batadv_hard_if_state`. -/
inductive HardIfState
  | notInUse
  | toBeRemoved
  | inactive
  | active
  | toBeActivated
deriving DecidableEq, Repr

/-- Whether an interface with this status belongs to a mesh. -/
def HardIfState.inUse : HardIfState → Bool
  | .notInUse => false
  | .toBeRemoved => false
  | .inactive => true
  | .active => true
  | .toBeActivated => true

/-- Whether an interface with this status carries the traffic of a mesh. -/
def HardIfState.running : HardIfState → Bool
  | .active => true
  | .toBeActivated => true
  | _ => false

/-- The routing algorithm of a mesh interface: the operations of `bat_algo` differ in what they do
when an interface gets active. -/
inductive BatAlgo
  | iv
  | v
deriving DecidableEq, Repr

/-- What `struct batadv_hard_iface` has about its place in a mesh. -/
structure Hardif where
  netDev : ℕ
  meshIface : Option ℕ
  ifStatus : HardIfState
  /-- `batman_adv_ptype` is registered. -/
  ptype : Bool
deriving DecidableEq, Repr

/-- The part of `struct net_device` that matters of a device below the mesh. -/
structure NetDev where
  /-- `IFF_UP` is set in `flags`. -/
  up : Bool
  mtu : ℕ
deriving DecidableEq, Repr

/-- A mesh interface: its `struct net_device` and its `struct batadv_priv`. -/
structure MeshIf where
  algo : BatAlgo
  primaryIf : Option ℕ
  /-- The interfaces below it, `adj_list.lower`. -/
  lower : List ℕ
  mtu : ℤ
  mtuSetByUser : ℤ
  fragmentation : Bool
  packetSizeMax : ℤ
deriving DecidableEq, Repr

/-- All objects, devices and mesh interfaces. -/
structure HardifTables where
  hardif : ℕ → Hardif
  /-- The number of the next object. -/
  next : ℕ
  /-- `batadv_hardif_list`. -/
  hardifList : List ℕ
  dev : ℕ → NetDev
  mesh : ℕ → MeshIf

namespace HardifTables

variable (t : HardifTables)

/-- Writes to an object. -/
def setHardif (h : ℕ) (x : Hardif) : HardifTables :=
  { t with hardif := Function.update t.hardif h x }

/-- Writes to a mesh interface. -/
def setMesh (m : ℕ) (x : MeshIf) : HardifTables :=
  { t with mesh := Function.update t.mesh m x }

/-- Writes `if_status`. -/
def setStatus (h : ℕ) (status : HardIfState) : HardifTables :=
  t.setHardif h { t.hardif h with ifStatus := status }

/-- Writes `mesh_iface`. -/
def setMeshIface (h : ℕ) (m : Option ℕ) : HardifTables :=
  t.setHardif h { t.hardif h with meshIface := m }

/-- `dev_add_pack` and `dev_remove_pack` of the packet handler. -/
def setPtype (h : ℕ) (ptype : Bool) : HardifTables :=
  t.setHardif h { t.hardif h with ptype := ptype }

/-- Writes `primary_if`. -/
def setPrimary (m : ℕ) (h : Option ℕ) : HardifTables :=
  t.setMesh m { t.mesh m with primaryIf := h }

/-- `netdev_master_upper_dev_link`, when it succeeds. -/
def link (h m : ℕ) : HardifTables :=
  t.setMesh m { t.mesh m with lower := (t.mesh m).lower ++ [h] }

/-- `netdev_upper_dev_unlink`. -/
def unlink (h m : ℕ) : HardifTables :=
  t.setMesh m { t.mesh m with lower := (t.mesh m).lower.erase h }

end HardifTables

/-! ### The MTU of a mesh interface -/

/-- `ETH_MIN_MTU`. -/
def ETH_MIN_MTU : ℤ := 68

/-- `ETH_DATA_LEN`. -/
def ETH_DATA_LEN : ℤ := 1500

/-- `INT_MAX`. -/
def INT_MAX : ℤ := 2 ^ 31 - 1

/-- `batadv_max_header_len`: the largest of the three headers, the one of a unicast packet with four
addresses, and an Ethernet header. -/
def maxHeaderLen : ℤ := max (max (max 0 10) 18) 14 + 14

/-- `BATADV_MAX_MTU`, from `ETH_MAX_MTU`. -/
def MAX_MTU : ℤ := 0xFFFF - maxHeaderLen

/-- Whether an object is counted for the MTU. -/
def HardifTables.runs (t : HardifTables) (h : ℕ) : Bool := (t.hardif h).ifStatus.running

/-- The smallest MTU of the running interfaces of a mesh, the loop of `batadv_hardif_min_mtu`. -/
def lowerMinMtu (m : ℕ) (t : HardifTables) : ℤ :=
  ((t.mesh m).lower.filter t.runs).foldl
    (fun minMtu h => min ((t.dev (t.hardif h).netDev).mtu : ℤ) minMtu) INT_MAX

/-- What `batadv_hardif_min_mtu` reports as `packet_size_max`. -/
def minMtuPacketSize (m : ℕ) (t : HardifTables) : ℤ :=
  if (t.mesh m).fragmentation then
    (min (lowerMinMtu m t) FRAG_MAX_FRAG_SIZE - FRAG_HDR_SIZE) * FRAG_MAX_FRAGMENTS
  else lowerMinMtu m t

/-- What `batadv_hardif_min_mtu` returns. -/
def minMtuValue (m : ℕ) (t : HardifTables) : ℤ := min (minMtuPacketSize m t - maxHeaderLen) MAX_MTU

/-- `batadv_hardif_min_mtu`. -/
def hardifMinMtu (m : ℕ) (t : HardifTables) : ℤ × HardifTables :=
  (minMtuValue m t, t.setMesh m { t.mesh m with packetSizeMax := minMtuPacketSize m t })

/-- `batadv_interface_change_mtu`. -/
def interfaceChangeMtu (m : ℕ) (newMtu : ℤ) (t : HardifTables) : HardifTables :=
  let (minMtu, t) := hardifMinMtu m t
  if newMtu < ETH_MIN_MTU ∨ minMtu < newMtu then t
  else t.setMesh m { t.mesh m with mtu := newMtu, mtuSetByUser := newMtu }

/-- `dev_set_mtu` of the kernel on a mesh interface: nothing to do for the MTU it has, a check
against `min_mtu` and `max_mtu`, and the operation of the driver. -/
def devSetMtu (m : ℕ) (newMtu : ℤ) (t : HardifTables) : HardifTables :=
  if newMtu = (t.mesh m).mtu then t
  else if newMtu < ETH_MIN_MTU ∨ MAX_MTU < newMtu then t
  else interfaceChangeMtu m newMtu t

/-- `batadv_update_min_mtu`. -/
def updateMinMtu (m : ℕ) (t : HardifTables) : HardifTables :=
  let (mtu, t) := hardifMinMtu m t
  let limitMtu := if (t.mesh m).mtuSetByUser ≠ 0 then (t.mesh m).mtuSetByUser else ETH_DATA_LEN
  devSetMtu m (min mtu limitMtu) t

/-! ### References -/

/-- The tables with the reference counters of the objects.  `others` counts the references that the
rest of the module holds: neighbours, originators, queued packets.  `fault` records that an object
without references was counted up or down, or that the mesh interface of an object was used that had
none. -/
structure HardifWorld where
  tables : HardifTables
  refcount : ℕ → ℕ
  others : ℕ → ℕ
  fault : Bool

namespace HardifWorld

variable (w : HardifWorld)

/-- A step that touches no counter. -/
def map (f : HardifTables → HardifTables) : HardifWorld := { w with tables := f w.tables }

/-- The use of something that is not there. -/
def misuse : HardifWorld := { w with fault := true }

/-- `kref_get`. -/
def krefGet (h : ℕ) : HardifWorld :=
  if w.refcount h = 0 then w.misuse
  else { w with refcount := Function.update w.refcount h (w.refcount h + 1) }

/-- `batadv_hardif_put` of an object; at zero the object is released. -/
def krefPut (h : ℕ) : HardifWorld :=
  if w.refcount h = 0 then w.misuse
  else { w with refcount := Function.update w.refcount h (w.refcount h - 1) }

/-- `batadv_hardif_put`. -/
def put : Option ℕ → HardifWorld
  | none => w
  | some h => w.krefPut h

/-- The code after a pointer to an interface was read: a reference, unless there are none left. -/
def getUnlessZero : Option ℕ → Option ℕ × HardifWorld
  | none => (none, w)
  | some h => if w.refcount h = 0 then (none, w) else (some h, w.krefGet h)

end HardifWorld

/-! ### Looking up interfaces -/

/-- `batadv_hardif_get_by_netdev`. -/
def hardifGetByNetdev (d : ℕ) (w : HardifWorld) : Option ℕ × HardifWorld :=
  w.getUnlessZero (w.tables.hardifList.find? fun h =>
    (w.tables.hardif h).netDev == d && w.refcount h != 0)

/-- `batadv_primary_if_get_selected`. -/
def primaryIfGetSelected (m : ℕ) (w : HardifWorld) : Option ℕ × HardifWorld :=
  w.getUnlessZero (w.tables.mesh m).primaryIf

/-- `batadv_hardif_get_active`. -/
def hardifGetActive (m : ℕ) (w : HardifWorld) : Option ℕ × HardifWorld :=
  w.getUnlessZero ((w.tables.mesh m).lower.find? fun h =>
    (w.tables.hardif h).ifStatus == .active && w.refcount h != 0)

/-! ### The primary interface -/

/-- `batadv_primary_if_update_addr`, of which only the references are left: the own addresses of
the distributed ARP table and of the bridge loop avoidance are not here. -/
def primaryIfUpdateAddr (m : ℕ) (w : HardifWorld) : HardifWorld :=
  let (primaryIf, w) := primaryIfGetSelected m w
  w.put primaryIf

/-- `batadv_primary_if_select`. -/
def primaryIfSelect (m : ℕ) (newHardIface : Option ℕ) (w : HardifWorld) : HardifWorld :=
  let w := match newHardIface with
    | none => w
    | some h => w.krefGet h
  let currHardIface := (w.tables.mesh m).primaryIf
  let w := w.map (·.setPrimary m newHardIface)
  let w := match newHardIface with
    | none => w
    | some _ => primaryIfUpdateAddr m w
  w.put currHardIface

/-! ### Activation -/

/-- `batadv_v_iface_activate`, without the start of the ELP. -/
def vIfaceActivate (m h : ℕ) (w : HardifWorld) : HardifWorld :=
  let (primaryIf, w) := primaryIfGetSelected m w
  let w := w.put primaryIf
  if (w.tables.hardif h).ifStatus = .toBeActivated then w.map (·.setStatus h .active) else w

/-- The operation `iface.activate` of the algorithms; B.A.T.M.A.N. IV has none. -/
def algoIfaceActivate (m h : ℕ) (w : HardifWorld) : HardifWorld :=
  match (w.tables.mesh m).algo with
  | .iv => w
  | .v => vIfaceActivate m h w

/-- `batadv_hardif_activate_interface`. -/
def hardifActivateInterface (h : ℕ) (w : HardifWorld) : HardifWorld :=
  if (w.tables.hardif h).ifStatus ≠ .inactive then w
  else
    match (w.tables.hardif h).meshIface with
    | none => w.misuse
    | some m =>
      let w := w.map (·.setStatus h .toBeActivated)
      let (primaryIf, w) := primaryIfGetSelected m w
      let w := if primaryIf.isNone then primaryIfSelect m (some h) w else w
      let w := w.map (updateMinMtu m)
      let w := algoIfaceActivate m h w
      w.put primaryIf

/-- `batadv_hardif_deactivate_interface`. -/
def hardifDeactivateInterface (h : ℕ) (w : HardifWorld) : HardifWorld :=
  if (w.tables.hardif h).ifStatus ≠ .active ∧ (w.tables.hardif h).ifStatus ≠ .toBeActivated then w
  else
    match (w.tables.hardif h).meshIface with
    | none => w.misuse
    | some m => (w.map (·.setStatus h .inactive)).map (updateMinMtu m)

/-- `batadv_iv_ogm_schedule` as far as it concerns an interface: an interface that waits for its
activation gets active, provided that it has a buffer for its OGM. -/
def ivOgmSchedule (h : ℕ) (ogmBuff : Bool) (w : HardifWorld) : HardifWorld :=
  if (w.tables.hardif h).ifStatus = .notInUse ∨ (w.tables.hardif h).ifStatus = .toBeRemoved then w
  else
    match (w.tables.hardif h).meshIface with
    | none => w.misuse
    | some m =>
      if ¬ ogmBuff then w
      else
        let w := if (w.tables.hardif h).ifStatus = .toBeActivated then
            w.map (·.setStatus h .active)
          else w
        let (primaryIf, w) := primaryIfGetSelected m w
        w.put primaryIf

/-- The operation `iface.enabled` of the algorithms. -/
def algoIfaceEnabled (m h : ℕ) (w : HardifWorld) : HardifWorld :=
  match (w.tables.mesh m).algo with
  | .iv => ivOgmSchedule h true w
  | .v => w

/-! ### Enslaving and releasing -/

/-- `batadv_hardif_enable_interface`.  Whether the device can be linked below the mesh interface and
whether the algorithm can be enabled on it are arguments. -/
def hardifEnableInterface (h m : ℕ) (linked enabled : Bool) (w : HardifWorld) : HardifWorld :=
  if ((w.tables.dev (w.tables.hardif h).netDev).mtu : ℤ) < ETH_MIN_MTU + maxHeaderLen then w
  else if (w.tables.hardif h).ifStatus ≠ .notInUse then w
  else
    let w := w.krefGet h
    let w := w.map (·.setMeshIface h (some m))
    if ¬ linked then
      let w := w.map (·.setMeshIface h none)
      w.krefPut h
    else
      let w := w.map (·.link h m)
      if ¬ enabled then
        let w := w.map (·.unlink h m)
        let w := w.map (·.setMeshIface h none)
        w.krefPut h
      else
        let w := w.map (·.setStatus h .inactive)
        let w := w.krefGet h
        let w := w.map (·.setPtype h true)
        let w := if (w.tables.dev (w.tables.hardif h).netDev).up then hardifActivateInterface h w
          else w
        algoIfaceEnabled m h w

/-- `batadv_hardif_disable_interface`. -/
def hardifDisableInterface (h : ℕ) (w : HardifWorld) : HardifWorld :=
  match (w.tables.hardif h).meshIface with
  | none => w.misuse
  | some m =>
    let w := hardifDeactivateInterface h w
    if (w.tables.hardif h).ifStatus ≠ .inactive then w
    else
      let w := w.map (·.setPtype h false)
      let w := w.krefPut h
      let (primaryIf, w) := primaryIfGetSelected m w
      let w := if primaryIf = some h then
          let (newIf, w) := hardifGetActive m w
          let w := primaryIfSelect m newIf w
          w.put newIf
        else w
      let w := w.map (·.setStatus h .notInUse)
      let w := w.map (·.unlink h m)
      let w := w.map (·.setMeshIface h none)
      let w := w.krefPut h
      w.put primaryIf

/-- `batadv_hardif_add_interface`.  Whether the device can carry a mesh and whether there is memory
are arguments. -/
def hardifAddInterface (d : ℕ) (valid alloc : Bool) (w : HardifWorld) : Option ℕ × HardifWorld :=
  if ¬ valid ∨ ¬ alloc then (none, w)
  else
    let h := w.tables.next
    let w := { w with
      tables := { w.tables.setHardif h ⟨d, none, .notInUse, false⟩ with next := h + 1 }
      refcount := Function.update w.refcount h 1 }
    let w := w.krefGet h
    (some h, w.map fun t => { t with hardifList := t.hardifList ++ [h] })

/-- `batadv_hardif_remove_interface`. -/
def hardifRemoveInterface (h : ℕ) (w : HardifWorld) : HardifWorld :=
  let w := if (w.tables.hardif h).ifStatus ≠ .notInUse then hardifDisableInterface h w else w
  if (w.tables.hardif h).ifStatus ≠ .notInUse then w
  else
    let w := w.map (·.setStatus h .toBeRemoved)
    w.krefPut h

/-! ### Events of the devices -/

/-- The events of a net device, with what is new about the device, and for a device without object
whether it can get one. -/
inductive NetdevEvent
  | register (valid alloc : Bool)
  | postTypeChange (valid alloc : Bool)
  | up
  | goingDown
  | down
  | unregister
  | preTypeChange
  | changeMtu (mtu : ℕ)
  | changeAddr
  | changeUpper
deriving DecidableEq, Repr

/-- The change of the device that an event reports. -/
def NetdevEvent.apply (d : ℕ) (event : NetdevEvent) (t : HardifTables) : HardifTables :=
  match event with
  | .up => { t with dev := Function.update t.dev d { t.dev d with up := true } }
  | .down => { t with dev := Function.update t.dev d { t.dev d with up := false } }
  | .changeMtu mtu => { t with dev := Function.update t.dev d { t.dev d with mtu := mtu } }
  | _ => t

/-- The first lines of `batadv_hard_if_event`: the object of the device, which may be new. -/
def hardIfEventGet (d : ℕ) (event : NetdevEvent) (w : HardifWorld) : Option ℕ × HardifWorld :=
  match hardifGetByNetdev d w, event with
  | (none, w), .register valid alloc => hardifAddInterface d valid alloc w
  | (none, w), .postTypeChange valid alloc => hardifAddInterface d valid alloc w
  | r, _ => r

/-- The `switch` of `batadv_hard_if_event`. -/
def hardIfEventSwitch (h : ℕ) (event : NetdevEvent) (w : HardifWorld) : HardifWorld :=
  let remove := hardifRemoveInterface h
    (w.map fun t => { t with hardifList := t.hardifList.erase h })
  match event with
  | .up => hardifActivateInterface h w
  | .goingDown => hardifDeactivateInterface h w
  | .down => hardifDeactivateInterface h w
  | .unregister => remove
  | .preTypeChange => remove
  | .changeMtu _ =>
    match (w.tables.hardif h).meshIface with
    | none => w
    | some m => w.map (updateMinMtu m)
  | .changeAddr =>
    if (w.tables.hardif h).ifStatus = .notInUse then w
    else
      match (w.tables.hardif h).meshIface with
      | none => w.misuse
      | some m =>
        let (primaryIf, w) := primaryIfGetSelected m w
        let w := if primaryIf = some h then primaryIfUpdateAddr m w else w
        w.put primaryIf
  | _ => w

/-- `batadv_hard_if_event` for a device that is not a mesh interface, after the device has
changed. -/
def hardIfEvent (d : ℕ) (event : NetdevEvent) (w : HardifWorld) : HardifWorld :=
  match hardIfEventGet d event (w.map (event.apply d)) with
  | (none, w) => w
  | (some h, w) => (hardIfEventSwitch h event w).krefPut h

/-! ### Requests to a mesh interface -/

/-- `batadv_meshif_slave_add`. -/
def meshifSlaveAdd (m d : ℕ) (linked enabled : Bool) (w : HardifWorld) : HardifWorld :=
  match hardifGetByNetdev d w with
  | (none, w) => w
  | (some h, w) =>
    let w := if (w.tables.hardif h).meshIface.isSome then w
      else hardifEnableInterface h m linked enabled w
    w.krefPut h

/-- `batadv_meshif_slave_del`. -/
def meshifSlaveDel (m d : ℕ) (w : HardifWorld) : HardifWorld :=
  match hardifGetByNetdev d w with
  | (none, w) => w
  | (some h, w) =>
    let w := if (w.tables.hardif h).meshIface ≠ some m then w else hardifDisableInterface h w
    w.krefPut h

/-- The loop of `batadv_meshif_destroy_netlink`, for the given number of turns. -/
def meshifDestroyLoop (m : ℕ) : ℕ → HardifWorld → HardifWorld
  | 0, w => w
  | turns + 1, w =>
    match (w.tables.mesh m).lower with
    | [] => w
    | h :: _ => meshifDestroyLoop m turns (hardifDisableInterface h w)

/-- `batadv_meshif_destroy_netlink`: one turn for each interface of the mesh. -/
def meshifDestroyNetlink (m : ℕ) (w : HardifWorld) : HardifWorld :=
  meshifDestroyLoop m (w.tables.mesh m).lower.length w

/-- `BATADV_ATTR_FRAGMENTATION_ENABLED` in `batadv_netlink_set_mesh`. -/
def setFragmentation (m : ℕ) (enabled : Bool) (t : HardifTables) : HardifTables :=
  updateMinMtu m (t.setMesh m { t.mesh m with fragmentation := enabled })

/-! ### Runs -/

/-- What can happen. -/
inductive HardifEvent
  | netdev (d : ℕ) (event : NetdevEvent)
  | slaveAdd (m d : ℕ) (linked enabled : Bool)
  | slaveDel (m d : ℕ)
  | destroy (m : ℕ)
  | setMtu (m : ℕ) (mtu : ℤ)
  | setFragmentation (m : ℕ) (enabled : Bool)
  /-- A worker that holds a reference to an interface schedules the next OGM on it. -/
  | ogmSchedule (h : ℕ) (ogmBuff : Bool)
  /-- Another part of the module takes a reference, unless there are none left. -/
  | take (h : ℕ)
  /-- Another part of the module gives one of its references back. -/
  | drop (h : ℕ)
deriving DecidableEq, Repr

/-- One event. -/
def hardifWorldNext (w : HardifWorld) : HardifEvent → HardifWorld
  | .netdev d event => hardIfEvent d event w
  | .slaveAdd m d linked enabled => meshifSlaveAdd m d linked enabled w
  | .slaveDel m d => meshifSlaveDel m d w
  | .destroy m => meshifDestroyNetlink m w
  | .setMtu m mtu => w.map (devSetMtu m mtu)
  | .setFragmentation m enabled => w.map (setFragmentation m enabled)
  | .ogmSchedule h ogmBuff =>
    if w.others h = 0 ∨ (w.tables.hardif h).meshIface.any
      (fun m => (w.tables.mesh m).algo == .v) then w
    else ivOgmSchedule h ogmBuff w
  | .take h =>
    if w.refcount h = 0 then w
    else { w.krefGet h with others := Function.update w.others h (w.others h + 1) }
  | .drop h =>
    if w.others h = 0 then w
    else { w.krefPut h with others := Function.update w.others h (w.others h - 1) }

/-- The module when it is loaded, with the mesh interfaces there will be: no objects. -/
def hardifWorldInit (algo : ℕ → BatAlgo) (dev : ℕ → NetDev) : HardifWorld where
  tables :=
    { hardif := fun _ => ⟨0, none, .notInUse, false⟩
      next := 0
      hardifList := []
      dev := dev
      mesh := fun m => ⟨algo m, none, [], ETH_DATA_LEN, 0, true, MAX_MTU⟩ }
  refcount := fun _ => 0
  others := fun _ => 0
  fault := false

end Batadv
