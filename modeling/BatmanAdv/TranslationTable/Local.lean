import BatmanAdv.Lib.Checksum
import BatmanAdv.Main

set_option relaxedAutoImplicit false
set_option autoImplicit false

/-!
# The local translation table (`translation-table.c`)

A node keeps the clients it serves in a hash table, and the changes since the last announcement in
a list.  A commit makes a new version of the table: clients marked `NEW` become part of it, those
marked `PENDING` leave it, the checksums of the VLANs are computed, and the changes are put into
the container that is sent with every OGM.

The hash table is the list of its entries in the order in which its buckets are walked; where a
new entry goes is an input.  What a function reads from elsewhere is an input as well: the time,
the size of the largest packet, the properties of the interface a client was seen on, and which
allocations succeed.  What `batadv_tt_local_add` does to the global table is not part of the
state here.

## Main definitions

* `Batadv.TtLocalEntry`, `Batadv.TtChange`, `Batadv.MeshifVlan`, `Batadv.TtLocal` — the table, the
  changes, the VLANs and the whole state.
* `Batadv.ttLocalEvent`, `Batadv.ttLocalAdd`, `Batadv.ttLocalRemove`, `Batadv.ttLocalPurge`,
  `Batadv.ttLocalCommitChanges`, `Batadv.ttLocalResizeToMtu` — the functions of these names.
* `Batadv.ttLocalCrc` — the checksum of a VLAN.
* `Batadv.TtLocalOp`, `Batadv.ttLocalStep` — one of them as a step.
-/

namespace Batadv

/-! ### Flags -/

/-- `BATADV_TT_CLIENT_DEL`: the client has to be deleted from the table. -/
def TT_CLIENT_DEL : U16 := 0x0001

/-- `BATADV_TT_CLIENT_ROAM`: the client roamed to or from another node. -/
def TT_CLIENT_ROAM : U16 := 0x0002

/-- `BATADV_TT_CLIENT_WIFI`: the client is connected through a wifi interface. -/
def TT_CLIENT_WIFI : U16 := 0x0010

/-- `BATADV_TT_CLIENT_ISOLA`: the client is considered isolated. -/
def TT_CLIENT_ISOLA : U16 := 0x0020

/-- `BATADV_TT_CLIENT_NOPURGE`: the client should never be removed from the table. -/
def TT_CLIENT_NOPURGE : U16 := 0x0100

/-- `BATADV_TT_CLIENT_NEW`: the client has not been announced yet. -/
def TT_CLIENT_NEW : U16 := 0x0200

/-- `BATADV_TT_CLIENT_PENDING`: the client is marked for removal, but kept for one more originator
interval. -/
def TT_CLIENT_PENDING : U16 := 0x0400

/-- `BATADV_TT_CLIENT_TEMP`: no node has announced the client yet. -/
def TT_CLIENT_TEMP : U16 := 0x0800

/-- `BATADV_TT_REMOTE_MASK`: the flags that are sent over the wire. -/
def TT_REMOTE_MASK : U16 := 0x00FF

/-- `BATADV_TT_SYNC_MASK`: the flags that need to be kept in sync among nodes. -/
def TT_SYNC_MASK : U16 := 0x00F0

/-- Whether some of the given flags are set. -/
def hasFlag {w : ℕ} (flags flag : BitVec w) : Bool := flags &&& flag != 0

/-- Setting other flags does not change a flag. -/
lemma hasFlag_or {w : ℕ} {flag other : BitVec w} (h : other &&& flag = 0) (flags : BitVec w) :
    hasFlag (flags ||| other) flag = hasFlag flags flag := by
  unfold hasFlag
  rw [BitVec.and_comm, BitVec.and_or_distrib_left, BitVec.and_comm flag other, h, BitVec.and_comm]
  simp

/-- Clearing other flags does not change a flag. -/
lemma hasFlag_and_not {w : ℕ} {flag other : BitVec w} (h : other &&& flag = 0)
    (flags : BitVec w) : hasFlag (flags &&& ~~~other) flag = hasFlag flags flag := by
  have hand : ~~~other &&& flag = flag := by
    ext i hi
    have hbit : (other &&& flag)[i] = false := by rw [h]; simp
    rw [BitVec.getElem_and] at hbit
    rw [BitVec.getElem_and, BitVec.getElem_not]
    cases ho : other[i] <;> cases hf : flag[i] <;> simp_all
  unfold hasFlag
  rw [BitVec.and_assoc, hand]

/-- A flag that was set is set. -/
lemma hasFlag_or_self {w : ℕ} {flag : BitVec w} (h : flag ≠ 0) (flags : BitVec w) :
    hasFlag (flags ||| flag) flag = true := by
  have hand : (flags ||| flag) &&& flag = flag := by
    ext i hi
    simp only [BitVec.getElem_and, BitVec.getElem_or]
    cases flags[i] <;> cases flag[i] <;> rfl
  rw [hasFlag, hand, bne_iff_ne]
  exact h

/-- A flag that was cleared is not set. -/
lemma hasFlag_and_not_self {w : ℕ} (flag flags : BitVec w) :
    hasFlag (flags &&& ~~~flag) flag = false := by
  have hand : flags &&& ~~~flag &&& flag = 0 := by
    rw [BitVec.and_assoc, BitVec.not_and_self]
    simp
  rw [hasFlag, hand]
  simp

/-! ### Entries and checksums -/

/-- `struct batadv_tt_local_entry`. -/
structure TtLocalEntry where
  addr : EthAddr
  vid : U16
  flags : U16
  lastSeen : Jiffies
deriving DecidableEq, Repr

/-- What identifies a client: its address and its VLAN. -/
def TtLocalEntry.key (e : TtLocalEntry) : EthAddr × U16 := (e.addr, e.vid)

/-- Whether the entry is for the client (`batadv_compare_tt`). -/
def TtLocalEntry.isFor (addr : EthAddr) (vid : U16) (e : TtLocalEntry) : Bool :=
  e.addr == addr && e.vid == vid

/-- `struct batadv_tvlv_tt_change`: one change of the table. -/
structure TtChange where
  flags : U8
  addr : EthAddr
  vid : U16
deriving DecidableEq, Repr

/-- Whether the change is a deletion. -/
def TtChange.isDel (c : TtChange) : Bool := hasFlag c.flags (TT_CLIENT_DEL.setWidth 8)

/-- `struct batadv_meshif_vlan` with its part of the translation table. -/
structure MeshifVlan where
  vid : U16
  crc : U32
  numEntries : ℤ
deriving DecidableEq, Repr

/-- `struct batadv_tvlv_tt_vlan_data`: the checksum of a VLAN. -/
structure TtVlanData where
  crc : U32
  vid : U16
deriving DecidableEq, Repr

/-- The value of a TT container: `struct batadv_tvlv_tt_data`, the VLANs and the changes behind
it. -/
structure TtTvlv where
  flags : U8
  ttvn : U8
  vlans : List TtVlanData
  changes : List TtChange
deriving DecidableEq, Repr

/-- The polynomial of `crc32c`, bit-reversed. -/
def CRC32C_POLY : U32 := 0x82F63B78

/-- `crc32c` of the kernel. -/
def crc32c (crc : U32) (bytes : List U8) : U32 := Checksum.crc CRC32C_POLY crc bytes

/-- The checksum of one client: of its VLAN in network order, its flags and its address. -/
def ttEntryCrc (vid : U16) (flags : U8) (addr : EthAddr) : U32 :=
  let crcTmp := crc32c 0 [vid.extractLsb' 8 8, vid.extractLsb' 0 8]
  let crcTmp := crc32c crcTmp [flags]
  crc32c crcTmp addr.bytes

/-! ### The state -/

/-- The translation table of the clients a node serves: the hash table, the list of changes and
the counter of them, the VLANs, the version, how often the changes are still sent, the last
changes for possible requests, and the registered container. -/
structure TtLocal where
  localHash : List TtLocalEntry
  changesList : List TtChange
  localChanges : ℕ
  vlanList : List MeshifVlan
  vn : U8
  ogmAppendCnt : ℕ
  lastChangeset : List TtChange
  container : Option TtTvlv
deriving DecidableEq, Repr

/-- `batadv_tt_local_hash_find`. -/
def ttLocalHashFind (tt : TtLocal) (addr : EthAddr) (vid : U16) : Option TtLocalEntry :=
  tt.localHash.find? (TtLocalEntry.isFor addr vid)

/-- Write back an entry of the hash table. -/
def ttLocalPut (tt : TtLocal) (e : TtLocalEntry) : TtLocal :=
  { tt with localHash := tt.localHash.map fun d => if d.isFor e.addr e.vid then e else d }

/-- `batadv_tt_local_size_mod`. -/
def ttLocalSizeMod (tt : TtLocal) (vid : U16) (v : ℤ) : TtLocal :=
  { tt with
    vlanList := tt.vlanList.map fun vlan =>
      if vlan.vid = vid then { vlan with numEntries := vlan.numEntries + v } else vlan }

/-- `batadv_tt_len`. -/
def ttLen (changesNum : ℕ) : ℕ := changesNum * 12

/-- `batadv_tt_local_table_transmit_size`; the numbers are summed up in a `u16`. -/
def ttLocalTableTransmitSize (tt : TtLocal) : ℕ :=
  let numVlan : U16 := tt.vlanList.foldl (fun n _ => n + 1) 0
  let ttLocalEntries : U16 :=
    tt.vlanList.foldl (fun n vlan => n + BitVec.ofInt 16 vlan.numEntries) 0
  -- the headers of the unicast TVLV packet, of the container and of the TT data
  20 + 4 + 4 + numVlan.toNat * 8 + ttLen ttLocalEntries.toNat

/-! ### Changes -/

/-- Set the flags of the first change of the address. -/
def ttChangesSetFlags (addr : EthAddr) (flags : U8) : List TtChange → List TtChange
  | [] => []
  | c :: cs =>
    if c.addr == addr then { c with flags := flags } :: cs
    else c :: ttChangesSetFlags addr flags cs

/-- `batadv_tt_local_event`: store a change.  Whether there is memory for it may differ from
change to change. -/
def ttLocalEvent (alloc : TtChange → Bool) (tt : TtLocal) (e : TtLocalEntry) (eventFlags : U8) :
    TtLocal :=
  let change : TtChange := ⟨e.flags.setWidth 8 ||| eventFlags, e.addr, e.vid⟩
  if !alloc change then tt
  else
    -- a change of the same address is looked for, whatever its VLAN
    match tt.changesList.find? fun c => c.addr == e.addr with
    | none =>
      { tt with changesList := tt.changesList ++ [change], localChanges := tt.localChanges + 1 }
    | some c =>
      if change.isDel != c.isDel then
        { tt with
          changesList := tt.changesList.eraseP fun c => c.addr == e.addr
          localChanges := tt.localChanges - 1 }
      else { tt with changesList := ttChangesSetFlags e.addr change.flags tt.changesList }

/-- `batadv_tt_local_set_pending`. -/
def ttLocalSetPending (alloc : TtChange → Bool) (tt : TtLocal) (e : TtLocalEntry) (flags : U16) :
    TtLocal :=
  let tt := ttLocalEvent alloc tt e (flags.setWidth 8)
  ttLocalPut tt { e with flags := e.flags ||| TT_CLIENT_PENDING }

/-! ### Adding and removing clients -/

/-- What `batadv_tt_local_add` is called with and what it reads: the client, when and on what kind
of interface it was seen, the mark of its packet and the mark of isolated clients, the address of
the mesh interface, the size of the largest packet, the place of a new entry in the hash table,
and whether there is memory. -/
structure TtLocalAddArgs where
  addr : EthAddr
  vid : U16
  jiffies : Jiffies
  wifi : Bool
  mark : U32
  isolationMark : U32
  isolationMarkMask : U32
  devAddr : EthAddr
  packetSizeMax : ℤ
  pos : ℕ
  allocEntry : Bool
  allocChange : TtChange → Bool

/-- The flags that depend on the interface a client was seen on and on the mark of its packet. -/
def TtLocalAddArgs.dynamicFlags (a : TtLocalAddArgs) (flags : U16) : U16 :=
  let flags := if a.wifi then flags ||| TT_CLIENT_WIFI else flags &&& ~~~TT_CLIENT_WIFI
  let matchMark := a.mark &&& a.isolationMarkMask
  if a.isolationMarkMask ≠ 0 ∧ matchMark = a.isolationMark then flags ||| TT_CLIENT_ISOLA
  else flags &&& ~~~TT_CLIENT_ISOLA

/-- The end of `batadv_tt_local_add`: set the dynamic flags, and store a change if a flag that is
sent has changed. -/
def ttLocalAddFlags (a : TtLocalAddArgs) (tt : TtLocal) (e : TtLocalEntry) : TtLocal :=
  let remoteFlags := e.flags &&& TT_REMOTE_MASK
  let e := { e with flags := a.dynamicFlags e.flags }
  let tt := ttLocalPut tt e
  if remoteFlags ≠ e.flags &&& TT_REMOTE_MASK then ttLocalEvent a.allocChange tt e 0 else tt

/-- The new entry of `batadv_tt_local_add`. -/
def ttLocalNewEntry (a : TtLocalAddArgs) : TtLocalEntry :=
  { addr := a.addr
    vid := a.vid
    flags := TT_CLIENT_NEW ||| (if a.wifi then TT_CLIENT_WIFI else 0) |||
      (if a.addr = a.devAddr ∨ isMulticastEtherAddr a.addr then TT_CLIENT_NOPURGE else 0)
    lastSeen := a.jiffies }

/-- `batadv_tt_local_add`: the table, and whether the client was added. -/
def ttLocalAdd (tt : TtLocal) (a : TtLocalAddArgs) : TtLocal × Bool :=
  match ttLocalHashFind tt a.addr a.vid with
  | some e =>
    let e := { e with lastSeen := a.jiffies }
    if hasFlag e.flags TT_CLIENT_PENDING then
      -- re-adding a pending client
      let e := { e with flags := e.flags &&& ~~~TT_CLIENT_PENDING }
      let tt := ttLocalEvent a.allocChange (ttLocalPut tt e) e 0
      (ttLocalAddFlags a tt e, true)
    else
      -- a client that roamed away may have come back; no change is stored for it
      let e := { e with flags := e.flags &&& ~~~TT_CLIENT_ROAM }
      (ttLocalAddFlags a (ttLocalPut tt e) e, true)
  | none =>
    if a.packetSizeMax < ttLocalTableTransmitSize tt + ttLen 1 then (tt, false)
    else if !a.allocEntry then (tt, false)
    else if (tt.vlanList.find? fun vlan => vlan.vid == a.vid).isNone then (tt, false)
    else
      let e := ttLocalNewEntry a
      let tt := { tt with localHash := tt.localHash.take a.pos ++ e :: tt.localHash.drop a.pos }
      let tt := ttLocalEvent a.allocChange tt e 0
      (ttLocalAddFlags a tt e, true)

/-- `batadv_tt_local_remove`. -/
def ttLocalRemove (alloc : TtChange → Bool) (tt : TtLocal) (addr : EthAddr) (vid : U16)
    (roaming : Bool) : TtLocal :=
  match ttLocalHashFind tt addr vid with
  | none => tt
  | some e =>
    let e := if roaming then { e with flags := e.flags ||| TT_CLIENT_ROAM } else e
    let flags := if roaming then TT_CLIENT_DEL ||| TT_CLIENT_ROAM else TT_CLIENT_DEL
    let tt := ttLocalPut tt e
    if !hasFlag e.flags TT_CLIENT_NEW then ttLocalSetPending alloc tt e flags
    else
      -- a client that has been added right now can be purged immediately
      let tt := ttLocalEvent alloc tt e (TT_CLIENT_DEL.setWidth 8)
      { tt with localHash := tt.localHash.eraseP (TtLocalEntry.isFor addr vid) }

variable (msecsToJiffies : ℕ → Jiffies)

/-- Whether `batadv_tt_local_purge_list` marks an entry. -/
def TtLocalEntry.purgeDue (jiffies : Jiffies) (timeout : ℕ) (e : TtLocalEntry) : Bool :=
  !hasFlag e.flags TT_CLIENT_NOPURGE && !hasFlag e.flags TT_CLIENT_PENDING &&
    hasTimedOut msecsToJiffies jiffies e.lastSeen timeout

/-- `batadv_tt_local_purge`: inactive clients are going to be removed. -/
def ttLocalPurge (alloc : TtChange → Bool) (jiffies : Jiffies) (timeout : ℕ) (tt : TtLocal) :
    TtLocal :=
  tt.localHash.foldl
    (fun tt e =>
      if e.purgeDue msecsToJiffies jiffies timeout then ttLocalSetPending alloc tt e TT_CLIENT_DEL
      else tt)
    tt

/-! ### Committing changes -/

/-- `batadv_tt_local_set_flags(bat_priv, BATADV_TT_CLIENT_NEW, false, true)`, the only call of it:
the flag is cleared and the clients that had it are counted. -/
def ttLocalClearNew (tt : TtLocal) : TtLocal :=
  let tt' := tt.localHash.foldl
    (fun tt e => if hasFlag e.flags TT_CLIENT_NEW then ttLocalSizeMod tt e.vid 1 else tt) tt
  { tt' with
    localHash := tt.localHash.map fun e => { e with flags := e.flags &&& ~~~TT_CLIENT_NEW } }

/-- `batadv_tt_local_purge_pending_clients`. -/
def ttLocalPurgePendingClients (tt : TtLocal) : TtLocal :=
  let tt' := tt.localHash.foldl
    (fun tt e => if hasFlag e.flags TT_CLIENT_PENDING then ttLocalSizeMod tt e.vid (-1) else tt) tt
  { tt' with localHash := tt.localHash.filter fun e => !hasFlag e.flags TT_CLIENT_PENDING }

/-- `batadv_tt_local_crc`: the checksum of the clients of a VLAN, without those that are not yet
committed. -/
def ttLocalCrc (localHash : List TtLocalEntry) (vid : U16) : U32 :=
  Checksum.xorSum (fun e => ttEntryCrc e.vid ((e.flags &&& TT_SYNC_MASK).setWidth 8) e.addr)
    (localHash.filter fun e => e.vid == vid && !hasFlag e.flags TT_CLIENT_NEW)

/-- `batadv_tt_local_update_crc`. -/
def ttLocalUpdateCrc (tt : TtLocal) : TtLocal :=
  { tt with
    vlanList := tt.vlanList.map fun vlan => { vlan with crc := ttLocalCrc tt.localHash vlan.vid } }

/-- The VLANs that `batadv_tt_prepare_tvlv_local_data` announces: those with clients, of which it
reads the number as a `u16`. -/
def ttLocalActiveVlans (tt : TtLocal) : List MeshifVlan :=
  tt.vlanList.filter fun vlan => BitVec.ofInt 16 vlan.numEntries != 0

/-- The checksums that `batadv_tt_prepare_tvlv_local_data` writes. -/
def ttLocalVlanData (tt : TtLocal) : List TtVlanData :=
  (ttLocalActiveVlans tt).map fun vlan => ⟨vlan.crc, vlan.vid⟩

/-- `BATADV_TT_OGM_DIFF`: TT data transmitted as changes in an OGM. -/
def TT_OGM_DIFF : U8 := 0x01

/-- `BATADV_TT_OGM_APPEND_MAX`: number of OGMs sent with the last changes. -/
def TT_OGM_APPEND_MAX : ℕ := 3

/-- What a commit reads: the largest packet the mesh interface takes, and whether there is memory
for the content of the container, for keeping the changes and for the container. -/
structure TtCommitArgs where
  mtu : ℕ
  allocData : Bool
  allocChangeset : Bool
  allocContainer : Bool

/-- The length of the container that `batadv_tt_prepare_tvlv_local_data` reserves, a `u16`. -/
def ttLocalTvlvLen (tt : TtLocal) (ttLen : ℕ) : U16 :=
  BitVec.ofNat 16 (ttLen + (4 + 8 * (ttLocalActiveVlans tt).length))

/-- Register the container (`batadv_tvlv_container_register`), which takes memory. -/
def ttRegisterContainer (a : TtCommitArgs) (tt : TtLocal) (changes : List TtChange) : TtLocal :=
  if a.allocContainer then
    { tt with container := some ⟨TT_OGM_DIFF, tt.vn, ttLocalVlanData tt, changes⟩ }
  else tt

/-- `batadv_tt_tvlv_container_update`. -/
def ttTvlvContainerUpdate (a : TtCommitArgs) (tt : TtLocal) : TtLocal :=
  -- too many changes for one packet are not sent at all
  let dropChanges := a.mtu < ttLen tt.localChanges
  let ttDiffEntriesNum := if dropChanges then 0 else tt.localChanges
  if !a.allocData ∨ ttLocalTvlvLen tt (ttLen ttDiffEntriesNum) = 0 then tt
  else if ¬ dropChanges ∧ ttDiffEntriesNum = 0 then
    ttRegisterContainer a tt []
  else
    let changes := tt.changesList.take ttDiffEntriesNum
    -- the changes are kept for requests; without memory the full table is sent instead
    ttRegisterContainer a
      { tt with
        changesList := []
        localChanges := 0
        lastChangeset := if a.allocChangeset then changes else [] }
      changes

/-- `batadv_tt_local_commit_changes`, also what `batadv_tt_local_commit_changes_nolock` does. -/
def ttLocalCommitChanges (a : TtCommitArgs) (tt : TtLocal) : TtLocal :=
  if tt.localChanges = 0 then
    if tt.ogmAppendCnt = 0 then ttTvlvContainerUpdate a tt
    else { tt with ogmAppendCnt := tt.ogmAppendCnt - 1 }
  else
    let tt := ttLocalUpdateCrc (ttLocalPurgePendingClients (ttLocalClearNew tt))
    ttTvlvContainerUpdate a { tt with vn := tt.vn + 1, ogmAppendCnt := TT_OGM_APPEND_MAX }

/-- `BATADV_TT_LOCAL_TIMEOUT`: ten minutes in milliseconds. -/
def TT_LOCAL_TIMEOUT : ℕ := 600000

/-- What `batadv_tt_local_resize_to_mtu` reads, and the results of its allocations. -/
structure TtResizeArgs where
  packetSizeMax : ℤ
  jiffies : Jiffies
  allocChange : TtChange → Bool
  commit : TtCommitArgs

/-- One turn of the loop of `batadv_tt_local_resize_to_mtu`. -/
def ttResizeTurn (a : TtResizeArgs) (timeout : ℕ) (tt : TtLocal) : TtLocal :=
  ttLocalPurgePendingClients (ttLocalPurge msecsToJiffies a.allocChange a.jiffies timeout tt)

/-- The loop of `batadv_tt_local_resize_to_mtu`: the table, and whether it was reduced.  The
timeout is halved in every turn, so that it bounds the number of turns. -/
def ttResizeLoop (a : TtResizeArgs) : ℕ → ℕ → TtLocal → Bool → TtLocal × Bool
  | 0, _, tt, reduced => (tt, reduced)
  | fuel + 1, timeout, tt, reduced =>
    if timeout = 0 then (tt, reduced)
    else if (ttLocalTableTransmitSize tt : ℤ) ≤ a.packetSizeMax then (tt, reduced)
    else ttResizeLoop a fuel (timeout / 2) (ttResizeTurn msecsToJiffies a timeout tt) true

/-- `batadv_tt_local_resize_to_mtu`. -/
def ttLocalResizeToMtu (a : TtResizeArgs) (tt : TtLocal) : TtLocal :=
  let (tt, reduced) := ttResizeLoop msecsToJiffies a (TT_LOCAL_TIMEOUT / 2)
    (TT_LOCAL_TIMEOUT / 2) tt false
  if reduced then ttLocalCommitChanges a.commit tt else tt

/-! ### Steps -/

/-- A call of one of the functions that change the local table. -/
inductive TtLocalOp where
  | add (a : TtLocalAddArgs)
  | remove (allocChange : TtChange → Bool) (addr : EthAddr) (vid : U16) (roaming : Bool)
  | purge (allocChange : TtChange → Bool) (jiffies : Jiffies) (timeout : ℕ)
  | commit (a : TtCommitArgs)
  | resize (a : TtResizeArgs)

/-- The table after a call. -/
def ttLocalStep (tt : TtLocal) : TtLocalOp → TtLocal
  | .add a => (ttLocalAdd tt a).1
  | .remove allocChange addr vid roaming => ttLocalRemove allocChange tt addr vid roaming
  | .purge allocChange jiffies timeout =>
    ttLocalPurge msecsToJiffies allocChange jiffies timeout tt
  | .commit a => ttLocalCommitChanges a tt
  | .resize a => ttLocalResizeToMtu msecsToJiffies a tt

/-- The table of a mesh interface with the given VLANs, before any client was seen. -/
def TtLocal.new (vids : List U16) : TtLocal :=
  { localHash := []
    changesList := []
    localChanges := 0
    vlanList := vids.map fun vid => ⟨vid, 0, 0⟩
    vn := 0
    ogmAppendCnt := 0
    lastChangeset := []
    container := none }

/-- A client that is seen on a wired interface, with memory and room for everything. -/
def ttSeen (addr : EthAddr) (vid : U16) (jiffies : Jiffies) : TtLocalOp :=
  .add ⟨addr, vid, jiffies, false, 0, 0, 0, 0x020000000009, 1500, 0, true, fun _ => true⟩

/-- A commit with memory and room for everything. -/
def ttCommitFits : TtCommitArgs := ⟨1500, true, true, true⟩

end Batadv
