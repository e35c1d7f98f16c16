import BatmanAdv.TranslationTable.Local

set_option relaxedAutoImplicit false
set_option autoImplicit false

/-!
# The global translation table (`translation-table.c`, parts of `originator.c`)

What a node knows about the clients of the others.  An entry of the global table names the
originators that announce the client, each with its own flags.  For each originator the node keeps
the number of its clients and their checksum in every VLAN, the version of its table, and the last
changes it has announced.

As in the local table, a hash table is the list of its entries in the order in which the buckets
are walked.  An originator is known by its address.  Whether it is a backbone gateway, which
allocations succeed, the time and the places of new entries are inputs of a call.  The list of the
requests that have been sent is not part of the state.

## Main definitions

* `Batadv.TtGlobalEntry`, `Batadv.TtOrigNode`, `Batadv.TtPriv` — the table, the originators and the
  whole state.
* `Batadv.ttGlobalAdd`, `Batadv.ttGlobalDel`, `Batadv.ttGlobalDelOrig`, `Batadv.ttGlobalPurge` —
  the functions that change the table.
* `Batadv.ttGlobalCrc`, `Batadv.ttGlobalUpdateCrc`, `Batadv.ttGlobalCheckCrc` — the checksums.
* `Batadv.ttUpdateOrig`, `Batadv.ttHandleResponse` — what an OGM and a response do.
-/

namespace Batadv

/-! ### State -/

/-- `struct batadv_tt_orig_list_entry`: an originator that announces a client. -/
structure TtOrigListEntry where
  origNode : EthAddr
  ttvn : U8
  flags : U8
deriving DecidableEq, Repr

/-- `struct batadv_tt_global_entry`. -/
structure TtGlobalEntry where
  addr : EthAddr
  vid : U16
  flags : U16
  addedAt : Jiffies
  roamAt : Jiffies
  origList : List TtOrigListEntry
  origListCount : ℤ
deriving DecidableEq, Repr

/-- `struct batadv_orig_node_vlan`: a VLAN of an originator. -/
structure OrigNodeVlan where
  vid : U16
  crc : U32
  numEntries : ℤ
deriving DecidableEq, Repr

/-- What `struct batadv_orig_node` holds for the translation table. -/
structure TtOrigNode where
  orig : EthAddr
  /-- `BATADV_ORIG_CAPA_HAS_TT` of `capa_initialized`. -/
  hasTt : Bool
  lastTtvn : U8
  ttBuff : Option (List TtChange)
  /-- An `s16` of the code. -/
  ttBuffLen : U16
  vlanList : List OrigNodeVlan
deriving DecidableEq, Repr

/-- The translation tables of a node: the local and the global one, and the originators. -/
structure TtPriv where
  ttLocal : TtLocal
  globalHash : List TtGlobalEntry
  origHash : List TtOrigNode
deriving DecidableEq, Repr

/-- What a call reads from elsewhere: the time, whether an originator is a backbone gateway of a
VLAN, the places of new entries, and which allocations succeed. -/
structure TtEnv where
  jiffies : Jiffies
  isBackboneGwOrig : EthAddr → U16 → Bool
  pos : EthAddr → U16 → ℕ
  allocEntry : EthAddr → U16 → Bool
  allocOrigEntry : EthAddr → U16 → Bool
  allocVlan : EthAddr → U16 → Bool
  allocChange : TtChange → Bool
  allocBuff : Bool

/-- What identifies a client. -/
def TtGlobalEntry.key (e : TtGlobalEntry) : EthAddr × U16 := (e.addr, e.vid)

/-- Whether the entry is for the client (`batadv_compare_tt`). -/
def TtGlobalEntry.isFor (addr : EthAddr) (vid : U16) (e : TtGlobalEntry) : Bool :=
  e.addr == addr && e.vid == vid

/-- `batadv_tt_global_hash_find`. -/
def ttGlobalHashFind (tt : TtPriv) (addr : EthAddr) (vid : U16) : Option TtGlobalEntry :=
  tt.globalHash.find? (TtGlobalEntry.isFor addr vid)

/-- Write back an entry of the global table. -/
def ttGlobalPut (tt : TtPriv) (e : TtGlobalEntry) : TtPriv :=
  { tt with globalHash := tt.globalHash.map fun d => if d.isFor e.addr e.vid then e else d }

/-- `batadv_tt_global_free`: take an entry out of the global table. -/
def ttGlobalFree (tt : TtPriv) (e : TtGlobalEntry) : TtPriv :=
  { tt with globalHash := tt.globalHash.filter fun d => !d.isFor e.addr e.vid }

/-- `batadv_orig_hash_find`. -/
def ttOrigHashFind (tt : TtPriv) (orig : EthAddr) : Option TtOrigNode :=
  tt.origHash.find? fun o => o.orig == orig

/-- Write to an originator. -/
def ttOrigUpdate (tt : TtPriv) (orig : EthAddr) (f : TtOrigNode → TtOrigNode) : TtPriv :=
  { tt with origHash := tt.origHash.map fun o => if o.orig == orig then f o else o }

/-! ### VLANs of an originator (`originator.c`) -/

/-- `batadv_vlan_id_valid`. -/
def vlanIdValid (vid : U16) : Bool :=
  let nonVlan := vid &&& ~~~(VLAN_HAS_TAG ||| VLAN_VID_MASK)
  if vid = 0 then true
  else if !hasFlag vid VLAN_HAS_TAG then false
  else nonVlan == 0

/-- `batadv_orig_node_vlan_get`. -/
def origNodeVlanGet (o : TtOrigNode) (vid : U16) : Option OrigNodeVlan :=
  o.vlanList.find? fun vlan => vlan.vid == vid

/-- `batadv_orig_node_vlan_new`: the originator, and whether it has the VLAN. -/
def origNodeVlanNew (alloc : Bool) (o : TtOrigNode) (vid : U16) : TtOrigNode × Bool :=
  if !vlanIdValid vid then (o, false)
  else if (origNodeVlanGet o vid).isSome then (o, true)
  else if !alloc then (o, false)
  else ({ o with vlanList := ⟨vid, 0, 0⟩ :: o.vlanList }, true)

/-- `batadv_tt_global_size_mod`, for the originator. -/
def origNodeSizeMod (alloc : Bool) (vid : U16) (v : ℤ) (o : TtOrigNode) : TtOrigNode :=
  match origNodeVlanNew alloc o vid with
  | (o, false) => o
  | (o, true) =>
    let vlanList := o.vlanList.map fun vlan =>
      if vlan.vid == vid then { vlan with numEntries := vlan.numEntries + v } else vlan
    -- a VLAN whose number becomes zero is taken off the list
    { o with vlanList := vlanList.filter fun vlan => !(vlan.vid == vid && vlan.numEntries == 0) }

/-- `batadv_tt_global_size_mod`. -/
def ttGlobalSizeMod (env : TtEnv) (tt : TtPriv) (orig : EthAddr) (vid : U16) (v : ℤ) : TtPriv :=
  ttOrigUpdate tt orig (origNodeSizeMod (env.allocVlan orig vid) vid v)

/-! ### The originators of a client -/

/-- `batadv_tt_global_orig_entry_find`. -/
def TtGlobalEntry.origEntryFind (e : TtGlobalEntry) (orig : EthAddr) : Option TtOrigListEntry :=
  e.origList.find? fun o => o.origNode == orig

/-- `_batadv_tt_global_del_orig_entry` for the originators that satisfy `p`: their numbers of
clients go down, and they are taken off the list. -/
def ttGlobalDelOrigEntries (env : TtEnv) (p : EthAddr → Bool) (tt : TtPriv) (e : TtGlobalEntry) :
    TtPriv × TtGlobalEntry :=
  ((e.origList.filter fun o => p o.origNode).foldl
      (fun tt o => ttGlobalSizeMod env tt o.origNode e.vid (-1)) tt,
    { e with
      origList := e.origList.filter fun o => !p o.origNode
      origListCount := e.origListCount - e.origList.countP fun o => p o.origNode })

/-- `batadv_tt_global_del_orig_list`. -/
def ttGlobalDelOrigList (env : TtEnv) (tt : TtPriv) (e : TtGlobalEntry) :
    TtPriv × TtGlobalEntry :=
  ttGlobalDelOrigEntries env (fun _ => true) tt e

/-- `batadv_tt_global_del_orig_node`. -/
def ttGlobalDelOrigNode (env : TtEnv) (tt : TtPriv) (e : TtGlobalEntry) (orig : EthAddr) :
    TtPriv × TtGlobalEntry :=
  ttGlobalDelOrigEntries env (fun o => o == orig) tt e

/-- `batadv_tt_global_sync_flags`: the flags that are kept in sync are those of all originators
together. -/
def TtGlobalEntry.syncFlags (e : TtGlobalEntry) : TtGlobalEntry :=
  let flags : U16 := e.origList.foldl (fun flags o => flags ||| o.flags.setWidth 16) 0
  { e with flags := flags ||| (e.flags &&& ~~~TT_SYNC_MASK) }

/-- `batadv_tt_global_orig_entry_add`: add an originator to a client, or update it. -/
def ttGlobalOrigEntryAdd (env : TtEnv) (tt : TtPriv) (e : TtGlobalEntry) (orig : EthAddr)
    (ttvn : U8) (flags : U8) : TtPriv × TtGlobalEntry :=
  match e.origEntryFind orig with
  | some _ =>
    let origList := e.origList.map fun o =>
      if o.origNode == orig then { o with ttvn := ttvn, flags := flags } else o
    (tt, ({ e with origList := origList } : TtGlobalEntry).syncFlags)
  | none =>
    if !env.allocOrigEntry e.addr e.vid then (tt, e)
    else
      (ttGlobalSizeMod env tt orig e.vid 1,
        ({ e with
          origList := ⟨orig, ttvn, flags⟩ :: e.origList
          origListCount := e.origListCount + 1 } : TtGlobalEntry).syncFlags)

/-! ### Adding and deleting clients -/

/-- The end of `batadv_tt_global_add`: the client is not a local one any more, and if it is not
roaming, that is noted. -/
def ttGlobalAddRemoveLocal (env : TtEnv) (tt : TtPriv) (e : TtGlobalEntry) (flags : U16) : TtPriv :=
  -- multicast addresses are not removed from the local table
  if isMulticastEtherAddr e.addr then ttGlobalPut tt e
  else
    let localFlags := ((ttLocalHashFind tt.ttLocal e.addr e.vid).map TtLocalEntry.flags).getD 0
    let tt := { tt with
      ttLocal := ttLocalRemove env.allocChange tt.ttLocal e.addr e.vid
        (hasFlag flags TT_CLIENT_ROAM) }
    let e := { e with flags := e.flags ||| (localFlags &&& TT_CLIENT_WIFI) }
    let e := if !hasFlag flags TT_CLIENT_ROAM then { e with flags := e.flags &&& ~~~TT_CLIENT_ROAM }
      else e
    ttGlobalPut tt e

/-- `batadv_tt_global_add` from the label `add_orig_entry` on. -/
def ttGlobalAddOrigEntry (env : TtEnv) (tt : TtPriv) (e : TtGlobalEntry) (orig : EthAddr)
    (flags : U16) (ttvn : U8) : TtPriv :=
  let (tt, e) := ttGlobalOrigEntryAdd env tt e orig ttvn ((flags &&& TT_SYNC_MASK).setWidth 8)
  ttGlobalAddRemoveLocal env tt e flags

/-- The new entry of `batadv_tt_global_add`. -/
def ttGlobalNewEntry (env : TtEnv) (addr : EthAddr) (vid : U16) (flags : U16) : TtGlobalEntry :=
  { addr := addr
    vid := vid
    flags := if isMulticastEtherAddr addr then 0 else flags &&& ~~~TT_SYNC_MASK
    addedAt := env.jiffies
    roamAt := if hasFlag flags TT_CLIENT_ROAM then env.jiffies else 0
    origList := []
    origListCount := 0 }

/-- What `batadv_tt_global_add` does to an entry that exists, before it adds the originator: what
is known of a temporary or a roaming client does not count any more. -/
def ttGlobalAddExisting (env : TtEnv) (tt : TtPriv) (e : TtGlobalEntry) (flags : U16) :
    TtPriv × TtGlobalEntry :=
  let (tt, e) :=
    if hasFlag e.flags TT_CLIENT_TEMP then
      let (tt, e) := ttGlobalDelOrigList env tt e
      (tt, { e with flags := e.flags &&& ~~~TT_CLIENT_TEMP })
    else (tt, e)
  let e := if isMulticastEtherAddr e.addr then e
    else { e with flags := e.flags ||| (flags &&& ~~~TT_SYNC_MASK) }
  if hasFlag e.flags TT_CLIENT_ROAM then
    let (tt, e) := ttGlobalDelOrigList env tt e
    (tt, { e with flags := e.flags &&& ~~~TT_CLIENT_ROAM, roamAt := 0 })
  else (tt, e)

/-- `batadv_tt_global_add`: the tables, and whether the client was added. -/
def ttGlobalAdd (env : TtEnv) (tt : TtPriv) (orig : EthAddr) (ttAddr : EthAddr) (vid : U16)
    (flags : U16) (ttvn : U8) : TtPriv × Bool :=
  -- entries of backbone nodes are ignored
  if env.isBackboneGwOrig orig vid then (tt, true)
  else if hasFlag flags TT_CLIENT_TEMP &&
      ((ttLocalHashFind tt.ttLocal ttAddr vid).any fun e => !hasFlag e.flags TT_CLIENT_NEW) then
    (tt, false)
  else
    match ttGlobalHashFind tt ttAddr vid with
    | none =>
      if !env.allocEntry ttAddr vid then (tt, false)
      else
        let e := ttGlobalNewEntry env ttAddr vid flags
        let pos := env.pos ttAddr vid
        let tt := { tt with globalHash := tt.globalHash.take pos ++ e :: tt.globalHash.drop pos }
        (ttGlobalAddOrigEntry env tt e orig flags ttvn, true)
    | some e =>
      if hasFlag flags TT_CLIENT_TEMP then
        if !hasFlag e.flags TT_CLIENT_TEMP then (tt, false)
        else if (e.origEntryFind orig).isSome then (ttGlobalAddRemoveLocal env tt e flags, false)
        else
          let (tt, e) := ttGlobalDelOrigList env tt e
          (ttGlobalAddOrigEntry env tt e orig flags ttvn, true)
      else
        let (tt, e) := ttGlobalAddExisting env tt e flags
        (ttGlobalAddOrigEntry env tt e orig flags ttvn, true)

/-- `batadv_tt_global_del_roaming`: the last originator of a roaming client stays in the list. -/
def ttGlobalDelRoaming (env : TtEnv) (tt : TtPriv) (e : TtGlobalEntry) (orig : EthAddr) : TtPriv :=
  let lastEntry := e.origList.all fun o => o.origNode == orig
  if lastEntry then
    ttGlobalPut tt { e with flags := e.flags ||| TT_CLIENT_ROAM, roamAt := env.jiffies }
  else
    let (tt, e) := ttGlobalDelOrigNode env tt e orig
    ttGlobalPut tt e

/-- `batadv_tt_global_del`. -/
def ttGlobalDel (env : TtEnv) (tt : TtPriv) (orig : EthAddr) (addr : EthAddr) (vid : U16)
    (roaming : Bool) : TtPriv :=
  match ttGlobalHashFind tt addr vid with
  | none => tt
  | some e =>
    if !roaming then
      let (tt, e) := ttGlobalDelOrigNode env tt e orig
      if e.origList.isEmpty then ttGlobalFree tt e else ttGlobalPut tt e
    else if (ttLocalHashFind tt.ttLocal e.addr vid).isSome then
      -- the client roamed to this node
      let (tt, e) := ttGlobalDelOrigList env tt e
      ttGlobalFree tt e
    else ttGlobalDelRoaming env tt e orig

/-- `batadv_tt_global_del_orig`: remove the clients of an originator, of one VLAN or of all. -/
def ttGlobalDelOrig (env : TtEnv) (tt : TtPriv) (orig : EthAddr) (matchVid : Option U16) :
    TtPriv :=
  let isMatch (e : TtGlobalEntry) : Bool := matchVid.all fun vid => e.vid == vid
  let tt' := tt.globalHash.foldl
    (fun tt e => if isMatch e then (ttGlobalDelOrigNode env tt e orig).1 else tt) tt
  let tt' := { tt' with
    globalHash := tt.globalHash.filterMap fun e =>
      if isMatch e then
        let e := (ttGlobalDelOrigNode env tt e orig).2
        if e.origList.isEmpty then none else some e
      else some e }
  ttOrigUpdate tt' orig fun o => { o with hasTt := false }

variable (msecsToJiffies : ℕ → Jiffies)

/-- `BATADV_TT_CLIENT_ROAM_TIMEOUT`, in milliseconds. -/
def TT_CLIENT_ROAM_TIMEOUT : ℕ := 600000

/-- `BATADV_TT_CLIENT_TEMP_TIMEOUT`, in milliseconds. -/
def TT_CLIENT_TEMP_TIMEOUT : ℕ := 600000

/-- `batadv_tt_global_to_purge`. -/
def ttGlobalToPurge (jiffies : Jiffies) (e : TtGlobalEntry) : Bool :=
  (hasFlag e.flags TT_CLIENT_ROAM &&
      hasTimedOut msecsToJiffies jiffies e.roamAt TT_CLIENT_ROAM_TIMEOUT) ||
    (hasFlag e.flags TT_CLIENT_TEMP &&
      hasTimedOut msecsToJiffies jiffies e.addedAt TT_CLIENT_TEMP_TIMEOUT)

/-- `batadv_tt_global_purge`; the originators of an entry are taken off its list when it is
released. -/
def ttGlobalPurge (env : TtEnv) (tt : TtPriv) : TtPriv :=
  let tt' := tt.globalHash.foldl
    (fun tt e => if ttGlobalToPurge msecsToJiffies env.jiffies e then
      (ttGlobalDelOrigList env tt e).1 else tt) tt
  { tt' with
    globalHash := tt.globalHash.filter fun e => !ttGlobalToPurge msecsToJiffies env.jiffies e }

/-! ### Checksums -/

/-- `batadv_tt_global_crc`: the checksum of the clients of an originator in a VLAN. -/
def ttGlobalCrc (tt : TtPriv) (orig : EthAddr) (vid : U16) : U32 :=
  Checksum.xorSum id <| tt.globalHash.filterMap fun e =>
    if e.vid ≠ vid then none
    -- roaming and temporary clients do not count
    else if hasFlag e.flags TT_CLIENT_ROAM then none
    else if hasFlag e.flags TT_CLIENT_TEMP then none
    else (e.origEntryFind orig).map fun o => ttEntryCrc e.vid o.flags e.addr

/-- `batadv_tt_global_update_crc`. -/
def ttGlobalUpdateCrc (env : TtEnv) (tt : TtPriv) (orig : EthAddr) : TtPriv :=
  ttOrigUpdate tt orig fun o =>
    { o with
      vlanList := o.vlanList.map fun vlan =>
        if env.isBackboneGwOrig orig vlan.vid then vlan
        else { vlan with crc := ttGlobalCrc tt orig vlan.vid } }

/-- `batadv_tt_global_check_crc`. -/
def ttGlobalCheckCrc (env : TtEnv) (o : TtOrigNode) (ttVlan : List TtVlanData) : Bool :=
  (ttVlan.all fun vlanData =>
    env.isBackboneGwOrig o.orig vlanData.vid ||
      ((origNodeVlanGet o vlanData.vid).any fun vlan => vlan.crc == vlanData.crc)) &&
  -- VLANs that are not announced any more
  !decide (ttVlan.length < o.vlanList.length)

/-! ### Announcements -/

/-- `batadv_tt_save_orig_buffer`. -/
def ttSaveOrigBuffer (env : TtEnv) (ttBuff : List TtChange) (o : TtOrigNode) : TtOrigNode :=
  let ttBuffLen : U16 := BitVec.ofNat 16 (ttLen ttBuff.length)
  if ttBuffLen = 0 then o
  else if !env.allocBuff then { o with ttBuff := none, ttBuffLen := 0 }
  else { o with ttBuff := some ttBuff, ttBuffLen := ttBuffLen }

/-- The loop of `_batadv_tt_update_changes`: it stops at a client that cannot be added, and
otherwise notes that the table of the originator is known. -/
def ttUpdateChangesLoop (env : TtEnv) (orig : EthAddr) (ttvn : U8) (tt : TtPriv) :
    List TtChange → TtPriv
  | [] => ttOrigUpdate tt orig fun o => { o with hasTt := true }
  | c :: cs =>
    if c.isDel then
      let roams := hasFlag c.flags (TT_CLIENT_ROAM.setWidth 8)
      ttUpdateChangesLoop env orig ttvn (ttGlobalDel env tt orig c.addr c.vid roams) cs
    else
      match ttGlobalAdd env tt orig c.addr c.vid (c.flags.setWidth 16) ttvn with
      | (tt, true) => ttUpdateChangesLoop env orig ttvn tt cs
      | (tt, false) => tt

/-- `batadv_tt_fill_gtable`: replace all clients of an originator. -/
def ttFillGtable (env : TtEnv) (tt : TtPriv) (ttChange : List TtChange) (ttvn : U8)
    (respSrc : EthAddr) : TtPriv :=
  let tt := ttGlobalDelOrig env tt respSrc none
  let tt := ttUpdateChangesLoop env respSrc ttvn tt ttChange
  ttOrigUpdate tt respSrc fun o => { o with ttBuff := none, ttBuffLen := 0, lastTtvn := ttvn }

/-- `batadv_tt_update_changes`. -/
def ttUpdateChanges (env : TtEnv) (tt : TtPriv) (orig : EthAddr) (ttvn : U8)
    (ttChange : List TtChange) : TtPriv :=
  let tt := ttUpdateChangesLoop env orig ttvn tt ttChange
  ttOrigUpdate tt orig fun o => { ttSaveOrigBuffer env ttChange o with lastTtvn := ttvn }

/-- `BATADV_TT_FULL_TABLE`: the TT data is or asks for the whole table. -/
def TT_FULL_TABLE : U8 := 0x10

/-- `batadv_handle_tt_response`, without the requests that it settles. -/
def ttHandleResponse (env : TtEnv) (tt : TtPriv) (ttData : TtTvlv) (respSrc : EthAddr) : TtPriv :=
  match ttOrigHashFind tt respSrc with
  | none => tt
  | some _ =>
    let tt :=
      if hasFlag ttData.flags TT_FULL_TABLE then
        ttFillGtable env tt ttData.changes ttData.ttvn respSrc
      else ttUpdateChanges env tt respSrc ttData.ttvn ttData.changes
    ttGlobalUpdateCrc env tt respSrc

/-- What `batadv_send_tt_request` is called with: the version and the checksums that are asked
for, and whether the full table is. -/
structure TtRequest where
  ttvn : U8
  ttVlan : List TtVlanData
  fullTable : Bool
deriving DecidableEq, Repr

/-- `batadv_tt_update_orig`: the tables, and the request that is sent if they turn out to be
inconsistent. -/
def ttUpdateOrig (env : TtEnv) (tt : TtPriv) (orig : EthAddr) (ttVlan : List TtVlanData)
    (ttChange : List TtChange) (ttvn : U8) : TtPriv × Option TtRequest :=
  match ttOrigHashFind tt orig with
  | none => (tt, none)
  | some o =>
    let hasTtInit := o.hasTt
    -- the versions are promoted to `int` before they are subtracted
    if (!hasTtInit && ttvn == 1) || (ttvn.toNat : ℤ) - o.lastTtvn.toNat == 1 then
      if ttChange.isEmpty then (tt, some ⟨ttvn, ttVlan, false⟩)
      else
        let tt := ttUpdateChanges env tt orig ttvn ttChange
        let tt := ttGlobalUpdateCrc env tt orig
        if (ttOrigHashFind tt orig).any fun o => ttGlobalCheckCrc env o ttVlan then (tt, none)
        else (tt, some ⟨ttvn, ttVlan, true⟩)
    else if !hasTtInit || ttvn != o.lastTtvn || !ttGlobalCheckCrc env o ttVlan then
      (tt, some ⟨ttvn, ttVlan, true⟩)
    else (tt, none)

end Batadv
