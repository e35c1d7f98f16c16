import BatmanAdv.Lib.Checksum
import BatmanAdv.Lib.Heap
import BatmanAdv.Main

set_option relaxedAutoImplicit false
set_option autoImplicit false

/-!
# The claims of bridge loop avoidance (`bridge_loop_avoidance.c`)

Several nodes of the mesh may be bridged into the same LAN.  For each client one of these backbone
gateways is responsible: it has claimed the client.  The gateways tell each other about claims with
frames on the LAN that look like ARP replies, and they compare checksums of each other's claims.

Gateways and claims are objects that count their references.  A hash table holds a reference, a
claim holds one to its gateway, a worker that is to report a loop holds one, and a function that
works on an object holds one while it does.  The model has the objects that are in memory, each
with an address; an object that is in its hash table knows so, and a gateway knows in which bucket,
which depends on the address the gateway had when it was added.

## Main definitions

* `Batadv.BlaBackboneGw`, `Batadv.BlaClaim`, `Batadv.BlaPriv` — the data.
* `Batadv.BlaFrame`, `Batadv.blaClaimFrame` — the frames.
* `Batadv.blaAddClaim`, `Batadv.blaDelClaim`, `Batadv.blaDelBackboneClaims` — the claim table.
* `Batadv.blaProcessClaim` — what a received frame does.
* `Batadv.blaRx`, `Batadv.blaTx`, `Batadv.blaPeriodicWork`, `Batadv.blaUpdateOrigAddress` — the
  functions that the rest of the program calls.
* `Batadv.BlaEvent`, `Batadv.blaStep` — the steps.
-/

namespace Batadv

/-! ### Data -/

/-- The polynomial of `crc16`, bit-reversed. -/
def CRC16_POLY : U16 := 0xA001

/-- `crc16` of the kernel over an Ethernet address, from zero. -/
def crc16 (addr : EthAddr) : U16 := Checksum.crc CRC16_POLY 0 addr.bytes

/-- The polynomial gives its usual check value for the digits from 1 to 9. -/
example : Checksum.crc CRC16_POLY 0
    [0x31, 0x32, 0x33, 0x34, 0x35, 0x36, 0x37, 0x38, 0x39] = 0xBB3D#16 := by decide +kernel

/-- `struct batadv_bla_backbone_gw`, with the bucket of the hash table that it is in. -/
structure BlaBackboneGw where
  ptr : ℕ
  orig : EthAddr
  vid : U16
  bucket : Option ℕ
  lasttime : Jiffies
  waitPeriods : ℤ
  requestSent : ℤ
  crc : U16
  refcount : ℕ
deriving DecidableEq, Repr

/-- `struct batadv_bla_claim`, with whether it is in the hash table. -/
structure BlaClaim where
  ptr : ℕ
  addr : EthAddr
  vid : U16
  backboneGw : ℕ
  lasttime : Jiffies
  hashed : Bool
  refcount : ℕ
deriving DecidableEq, Repr

/-- `struct batadv_bla_claim_dst`: the target hardware address of a claim frame. -/
structure BlaClaimDst where
  magic : BitVec 24
  type : U8
  group : U16
deriving DecidableEq, Repr

/-- The part of an ARP frame that is looked at. -/
structure BlaArp where
  arHrd : U16
  arPro : U16
  arHln : U8
  arPln : U8
  hwSrc : EthAddr
  hwDst : BlaClaimDst
deriving DecidableEq, Repr

/-- A frame on the LAN: its Ethernet header, the contents of its VLAN headers, and what follows if
that is an ARP frame of full length. -/
structure BlaFrame where
  hDest : EthAddr
  hSource : EthAddr
  vlans : List U16
  arp : Option BlaArp
deriving DecidableEq, Repr

/-- `struct batadv_priv_bla` with the clock: the objects that are in memory, the gateways of which
a loop is to be reported, and the frames that were given to the LAN. -/
structure BlaPriv where
  jiffies : Jiffies
  group : U16
  numRequests : ℤ
  loopdetectAddr : EthAddr
  loopdetectLasttime : Jiffies
  loopdetectNext : ℤ
  backboneGws : List BlaBackboneGw
  claims : List BlaClaim
  reportWork : List ℕ
  nextPtr : ℕ
  sent : List BlaFrame
deriving DecidableEq, Repr

/-- What the functions take from their surroundings: the bucket for a gateway, and how long a
jiffy is. -/
structure BlaEnv where
  chooseBackboneGw : EthAddr → U16 → ℕ
  msecsToJiffies : ℕ → Jiffies

/-- `BATADV_BLA_CRC_INIT`. -/
def BLA_CRC_INIT : U16 := 0

/-- `BATADV_BLA_BACKBONE_TIMEOUT`: six periods of ten seconds. -/
def BLA_BACKBONE_TIMEOUT : ℕ := 10000 * 6

/-- `BATADV_BLA_CLAIM_TIMEOUT`. -/
def BLA_CLAIM_TIMEOUT : ℕ := 10000 * 10

/-- `BATADV_BLA_WAIT_PERIODS`. -/
def BLA_WAIT_PERIODS : ℤ := 3

/-- `BATADV_BLA_LOOPDETECT_PERIODS`. -/
def BLA_LOOPDETECT_PERIODS : ℤ := 6

/-- `BATADV_BLA_LOOPDETECT_TIMEOUT`. -/
def BLA_LOOPDETECT_TIMEOUT : ℕ := 3000

def CLAIM_TYPE_CLAIM : U8 := 0
def CLAIM_TYPE_UNCLAIM : U8 := 1
def CLAIM_TYPE_ANNOUNCE : U8 := 2
def CLAIM_TYPE_REQUEST : U8 := 3
def CLAIM_TYPE_LOOPDETECT : U8 := 4

/-- The first three bytes of the target hardware address of every claim frame. -/
def BLA_CLAIM_MAGIC : BitVec 24 := 0xFF4305

/-- `batadv_announce_mac`. -/
def BLA_ANNOUNCE_MAC : U32 := 0x43054305

def ARPHRD_ETHER : U16 := 1

/-- `BATADV_BCAST` and `BATADV_UNICAST` of `enum batadv_packettype`. -/
def PACKET_BCAST : U8 := 0x01
def PACKET_UNICAST : U8 := 0x40

/-! ### Objects -/

namespace BlaPriv

/-- The gateway at an address. -/
def gw? (s : BlaPriv) (gw : ℕ) : Option BlaBackboneGw :=
  Heap.get? BlaBackboneGw.ptr gw s.backboneGws

/-- The claim at an address. -/
def claim? (s : BlaPriv) (claim : ℕ) : Option BlaClaim := Heap.get? BlaClaim.ptr claim s.claims

/-- Write to a gateway. -/
def updateGw (s : BlaPriv) (gw : ℕ) (f : BlaBackboneGw → BlaBackboneGw) : BlaPriv :=
  { s with backboneGws := Heap.modify BlaBackboneGw.ptr gw f s.backboneGws }

/-- Write to a claim. -/
def updateClaim (s : BlaPriv) (claim : ℕ) (f : BlaClaim → BlaClaim) : BlaPriv :=
  { s with claims := Heap.modify BlaClaim.ptr claim f s.claims }

end BlaPriv

/-- Take a reference to a gateway. -/
def backboneGwGet (s : BlaPriv) (gw : ℕ) : BlaPriv :=
  s.updateGw gw fun g => { g with refcount := g.refcount + 1 }

/-- `batadv_backbone_gw_put`: the last reference frees the gateway. -/
def backboneGwPut (s : BlaPriv) (gw : ℕ) : BlaPriv :=
  match s.gw? gw with
  | none => s
  | some g =>
    if g.refcount = 1 then
      { s with backboneGws := Heap.free BlaBackboneGw.ptr gw s.backboneGws }
    else s.updateGw gw fun g => { g with refcount := g.refcount - 1 }

/-- Take a reference to a claim. -/
def claimGet (s : BlaPriv) (claim : ℕ) : BlaPriv :=
  s.updateClaim claim fun c => { c with refcount := c.refcount + 1 }

/-- `batadv_claim_release`: the address of the client is taken out of the checksum of the gateway,
and the reference to the gateway is dropped. -/
def claimRelease (s : BlaPriv) (claim : BlaClaim) : BlaPriv :=
  let s := { s with claims := Heap.free BlaClaim.ptr claim.ptr s.claims }
  let s := s.updateGw claim.backboneGw fun g => { g with crc := g.crc ^^^ crc16 claim.addr }
  backboneGwPut s claim.backboneGw

/-- `batadv_claim_put`: the last reference releases the claim. -/
def claimPut (s : BlaPriv) (claim : ℕ) : BlaPriv :=
  match s.claim? claim with
  | none => s
  | some c =>
    if c.refcount = 1 then claimRelease s c
    else s.updateClaim claim fun c => { c with refcount := c.refcount - 1 }

/-- Take a claim out of the hash table, whose reference goes to the caller. -/
def claimHashDel (s : BlaPriv) (claim : ℕ) : BlaPriv :=
  s.updateClaim claim fun c => { c with hashed := false }

/-- `batadv_claim_hash_find`, without the reference that it takes. -/
def claimHashFind (s : BlaPriv) (addr : EthAddr) (vid : U16) : Option BlaClaim :=
  s.claims.find? fun c => c.hashed && c.addr == addr && c.vid == vid

variable (env : BlaEnv)

/-- `batadv_backbone_hash_find`, without the reference that it takes: only the bucket of the
address is searched. -/
def backboneHashFind (s : BlaPriv) (addr : EthAddr) (vid : U16) : Option BlaBackboneGw :=
  s.backboneGws.find? fun g =>
    g.bucket == some (env.chooseBackboneGw addr vid) && g.orig == addr && g.vid == vid

/-- The claims in the hash table that refer to a gateway. -/
def BlaPriv.claimsOf (s : BlaPriv) (gw : ℕ) : List BlaClaim :=
  s.claims.filter fun c => c.hashed && c.backboneGw == gw

/-- The turn of `batadv_bla_del_backbone_claims` for a claim of the gateway. -/
def blaDelBackboneClaimsTurn (s : BlaPriv) (claim : ℕ) : BlaPriv :=
  claimPut (claimHashDel s claim) claim

/-- `batadv_bla_del_backbone_claims`. -/
def blaDelBackboneClaims (s : BlaPriv) (gw : ℕ) : BlaPriv :=
  let s := ((s.claimsOf gw).map BlaClaim.ptr).foldl blaDelBackboneClaimsTurn s
  s.updateGw gw fun g => { g with crc := BLA_CRC_INIT }

/-! ### Frames -/

/-- The frame that `batadv_bla_send_claim` makes. -/
def blaClaimFrame (group : U16) (devAddr mac : EthAddr) (vid : U16) (claimtype : U8) : BlaFrame :=
  -- `arp_create`
  let arp : BlaArp := ⟨ARPHRD_ETHER, ETH_P_IP, 6, 4, devAddr, ⟨BLA_CLAIM_MAGIC, claimtype, group⟩⟩
  let vlans := if vid &&& VLAN_HAS_TAG ≠ 0 then [vid &&& VLAN_VID_MASK] else []
  let frame : BlaFrame := ⟨BitVec.allOnes 48, devAddr, vlans, some arp⟩
  if claimtype = CLAIM_TYPE_CLAIM then { frame with hSource := mac }
  else if claimtype = CLAIM_TYPE_UNCLAIM then { frame with arp := some { arp with hwSrc := mac } }
  else if claimtype = CLAIM_TYPE_ANNOUNCE then { frame with arp := some { arp with hwSrc := mac } }
  else if claimtype = CLAIM_TYPE_REQUEST then
    { frame with arp := some { arp with hwSrc := mac }, hDest := mac }
  else if claimtype = CLAIM_TYPE_LOOPDETECT then { frame with hSource := mac }
  else frame

/-- `batadv_bla_send_claim`. -/
def blaSendClaim (s : BlaPriv) (primaryIf mac : EthAddr) (vid : U16) (claimtype : U8) : BlaPriv :=
  { s with sent := s.sent ++ [blaClaimFrame s.group primaryIf mac vid claimtype] }

/-- `batadv_bla_send_announce`. -/
def blaSendAnnounce (s : BlaPriv) (primaryIf : EthAddr) (gw : BlaBackboneGw) : BlaPriv :=
  blaSendClaim s primaryIf (BLA_ANNOUNCE_MAC ++ gw.crc) gw.vid CLAIM_TYPE_ANNOUNCE

/-! ### Gateways -/

/-- `batadv_bla_get_backbone_gw`: the gateway is found or created, and the caller gets a
reference. -/
def blaGetBackboneGw (s : BlaPriv) (primaryIf orig : EthAddr) (vid : U16) (ownBackbone : Bool) :
    BlaPriv × ℕ :=
  match backboneHashFind env s orig vid with
  | some gw => (backboneGwGet s gw.ptr, gw.ptr)
  | none =>
    let entry : BlaBackboneGw :=
      ⟨s.nextPtr, orig, vid, some (env.chooseBackboneGw orig vid), s.jiffies, 0, 0, BLA_CRC_INIT, 2⟩
    let s := { s with backboneGws := entry :: s.backboneGws, nextPtr := s.nextPtr + 1 }
    if ownBackbone then
      let s := blaSendAnnounce s primaryIf entry
      let s := s.updateGw entry.ptr fun g =>
        { g with requestSent := g.requestSent + 1, waitPeriods := BLA_WAIT_PERIODS }
      ({ s with numRequests := s.numRequests + 1 }, entry.ptr)
    else (s, entry.ptr)

/-- `batadv_bla_update_own_backbone_gw`. -/
def blaUpdateOwnBackboneGw (s : BlaPriv) (primaryIf : EthAddr) (vid : U16) : BlaPriv :=
  let (s, gw) := blaGetBackboneGw env s primaryIf primaryIf vid true
  backboneGwPut (s.updateGw gw fun g => { g with lasttime := s.jiffies }) gw

/-- `batadv_bla_answer_request`. -/
def blaAnswerRequest (s : BlaPriv) (primaryIf : EthAddr) (vid : U16) : BlaPriv :=
  match backboneHashFind env s primaryIf vid with
  | none => s
  | some gw =>
    let s := backboneGwGet s gw.ptr
    let s := (s.claimsOf gw.ptr).foldl
      (fun s c => blaSendClaim s primaryIf c.addr c.vid CLAIM_TYPE_CLAIM) s
    let s := blaSendAnnounce s primaryIf gw
    backboneGwPut s gw.ptr

/-- `batadv_bla_send_request`. -/
def blaSendRequest (s : BlaPriv) (primaryIf : EthAddr) (gw : ℕ) : BlaPriv :=
  let s := blaDelBackboneClaims s gw
  match s.gw? gw with
  | none => s
  | some g =>
    let s := blaSendClaim s primaryIf g.orig g.vid CLAIM_TYPE_REQUEST
    if g.requestSent = 0 then
      let s := { s with numRequests := s.numRequests + 1 }
      s.updateGw gw fun g => { g with requestSent := 1 }
    else s

/-! ### Claims -/

/-- The part of `batadv_bla_add_claim` that both branches share: the claim gets a gateway, and the
checksums follow. -/
def blaReplaceBackboneGw (s : BlaPriv) (claim : BlaClaim) (gw : ℕ) (removeCrc : Bool) : BlaPriv :=
  let oldBackboneGw := claim.backboneGw
  let s := backboneGwGet s gw
  let s := s.updateClaim claim.ptr fun c => { c with backboneGw := gw }
  let s := if removeCrc then
      s.updateGw oldBackboneGw fun g => { g with crc := g.crc ^^^ crc16 claim.addr }
    else s
  let s := backboneGwPut s oldBackboneGw
  let s := s.updateGw gw fun g => { g with crc := g.crc ^^^ crc16 claim.addr }
  s.updateGw gw fun g => { g with lasttime := s.jiffies }

/-- The part of `batadv_bla_add_claim` for a client that has no claim: the new claim has a reference
of the hash table and one of the function. -/
def blaCreateClaim (s : BlaPriv) (claim : BlaClaim) : BlaPriv :=
  let s := backboneGwGet s claim.backboneGw
  { s with claims := claim :: s.claims, nextPtr := s.nextPtr + 1 }

/-- The part of `batadv_bla_add_claim` for a client that has a claim. -/
def blaSeeClaim (s : BlaPriv) (claim : BlaClaim) : BlaPriv :=
  (claimGet s claim.ptr).updateClaim claim.ptr fun c => { c with lasttime := s.jiffies }

/-- `batadv_bla_add_claim`. -/
def blaAddClaim (s : BlaPriv) (mac : EthAddr) (vid : U16) (gw : ℕ) : BlaPriv :=
  match claimHashFind s mac vid with
  | none =>
    let claim : BlaClaim := ⟨s.nextPtr, mac, vid, gw, s.jiffies, true, 2⟩
    claimPut (blaReplaceBackboneGw (blaCreateClaim s claim) claim gw false) claim.ptr
  | some claim =>
    let s := blaSeeClaim s claim
    if claim.backboneGw = gw then claimPut s claim.ptr
    else claimPut (blaReplaceBackboneGw s claim gw true) claim.ptr

/-- `batadv_bla_del_claim`. -/
def blaDelClaim (s : BlaPriv) (mac : EthAddr) (vid : U16) : BlaPriv :=
  match claimHashFind s mac vid with
  | none => s
  | some claim =>
    let s := claimGet s claim.ptr
    let s := claimPut (claimHashDel s claim.ptr) claim.ptr
    claimPut s claim.ptr

/-! ### Received frames -/

/-- `batadv_handle_announce`, with whether the frame was handled. -/
def handleAnnounce (s : BlaPriv) (primaryIf anAddr backboneAddr : EthAddr) (vid : U16) :
    BlaPriv × Bool :=
  if anAddr.extractLsb' 16 32 ≠ BLA_ANNOUNCE_MAC then (s, false)
  else
    let (s, gw) := blaGetBackboneGw env s primaryIf backboneAddr vid false
    let s := s.updateGw gw fun g => { g with lasttime := s.jiffies }
    let crc := anAddr.extractLsb' 0 16
    match s.gw? gw with
    | none => (s, true)
    | some g =>
      let s :=
        if g.crc ≠ crc then blaSendRequest s primaryIf gw
        else if g.requestSent ≠ 0 then
          let s := { s with numRequests := s.numRequests - 1 }
          s.updateGw gw fun g => { g with requestSent := 0 }
        else s
      (backboneGwPut s gw, true)

/-- `batadv_handle_request`. -/
def handleRequest (s : BlaPriv) (primaryIf backboneAddr hDest : EthAddr) (vid : U16) :
    BlaPriv × Bool :=
  if backboneAddr ≠ hDest then (s, false)
  else if hDest ≠ primaryIf then (s, true)
  else (blaAnswerRequest env s primaryIf vid, true)

/-- `batadv_handle_unclaim`. -/
def handleUnclaim (s : BlaPriv) (primaryIf : Option EthAddr) (backboneAddr claimAddr : EthAddr)
    (vid : U16) : BlaPriv :=
  let s := match primaryIf with
    | none => s
    | some devAddr =>
      if backboneAddr = devAddr then blaSendClaim s devAddr claimAddr vid CLAIM_TYPE_UNCLAIM else s
  match backboneHashFind env s backboneAddr vid with
  | none => s
  | some gw =>
    let s := backboneGwGet s gw.ptr
    let s := blaDelClaim s claimAddr vid
    backboneGwPut s gw.ptr

/-- `batadv_handle_claim`. -/
def handleClaim (s : BlaPriv) (primaryIf backboneAddr claimAddr : EthAddr) (vid : U16) : BlaPriv :=
  let (s, gw) := blaGetBackboneGw env s primaryIf backboneAddr vid false
  let s := blaAddClaim s claimAddr vid gw
  let s := if backboneAddr = primaryIf then
      blaSendClaim s primaryIf claimAddr vid CLAIM_TYPE_CLAIM
    else s
  backboneGwPut s gw

/-- `batadv_check_claim_group`: whether the frame is a claim frame, and of the own group, which may
change. -/
def checkClaimGroup (inMesh : EthAddr → Bool) (s : BlaPriv) (primaryIf hwSrc : EthAddr)
    (hwDst : BlaClaimDst) (hSource : EthAddr) : BlaPriv × ℕ :=
  let backboneAddr :=
    if hwDst.type = CLAIM_TYPE_CLAIM then some hwSrc
    else if hwDst.type = CLAIM_TYPE_REQUEST ∨ hwDst.type = CLAIM_TYPE_ANNOUNCE ∨
        hwDst.type = CLAIM_TYPE_UNCLAIM then some hSource
    else none
  match backboneAddr with
  | none => (s, 0)
  | some backboneAddr =>
    if backboneAddr = primaryIf then (s, 0)
    else if hwDst.group = s.group then (s, 2)
    else if !inMesh backboneAddr then (s, 1)
    else if s.group < hwDst.group then ({ s with group := hwDst.group }, 2)
    else (s, 2)

/-- `batadv_get_vid`. -/
def getVid (vlans : List U16) : U16 :=
  match vlans with
  | [] => 0
  | tci :: _ =>
    let vid := tci &&& VLAN_VID_MASK
    if vid = 0 then 0 else vid ||| VLAN_HAS_TAG

/-- The end of `batadv_bla_process_claim`: the different types of claim frames.  A frame that is
not handled is useless, and ends here all the same. -/
def blaHandleFrame (s : BlaPriv) (primaryIf : EthAddr) (frame : BlaFrame) (arp : BlaArp)
    (vid : U16) : BlaPriv :=
  if arp.hwDst.type = CLAIM_TYPE_CLAIM then
    handleClaim env s primaryIf arp.hwSrc frame.hSource vid
  else if arp.hwDst.type = CLAIM_TYPE_UNCLAIM then
    handleUnclaim env s (some primaryIf) frame.hSource arp.hwSrc vid
  else if arp.hwDst.type = CLAIM_TYPE_ANNOUNCE then
    (handleAnnounce env s primaryIf arp.hwSrc frame.hSource vid).1
  else if arp.hwDst.type = CLAIM_TYPE_REQUEST then
    (handleRequest env s primaryIf arp.hwSrc frame.hDest vid).1
  else s

/-- `batadv_bla_process_claim`, with whether the frame was a claim frame. -/
def blaProcessClaim (inMesh : EthAddr → Bool) (s : BlaPriv) (primaryIf : EthAddr)
    (frame : BlaFrame) : BlaPriv × Bool :=
  let vid := getVid frame.vlans
  -- without a VLAN, the first protocol has to be ARP
  if vid &&& VLAN_HAS_TAG = 0 ∧ frame.vlans ≠ [] then (s, false)
  else match frame.arp with
  | none => (s, false)
  | some arp =>
    if arp.arHrd ≠ ARPHRD_ETHER then (s, false)
    else if arp.arPro ≠ ETH_P_IP then (s, false)
    else if arp.arHln ≠ 6 then (s, false)
    else if arp.arPln ≠ 4 then (s, false)
    else if arp.hwDst.magic ≠ BLA_CLAIM_MAGIC then (s, false)
    else if 1 < frame.vlans.length then (s, true)
    else if arp.hwDst.type = CLAIM_TYPE_LOOPDETECT then (s, false)
    else
      let (s, ret) := checkClaimGroup inMesh s primaryIf arp.hwSrc arp.hwDst frame.hSource
      if ret < 2 then (s, ret ≠ 0)
      else
        let s := blaUpdateOwnBackboneGw env s primaryIf vid
        (blaHandleFrame env s primaryIf frame arp vid, true)

/-! ### Timeouts and changes of the own address -/

/-- The turn of `batadv_bla_purge_backbone_gw` for a gateway that is in the hash table. -/
def blaPurgeBackboneGwTurn (now : Bool) (s : BlaPriv) (gw : ℕ) : BlaPriv :=
  match s.gw? gw with
  | none => s
  | some g =>
    if g.bucket.isNone then s
    else if !now && !hasTimedOut env.msecsToJiffies s.jiffies g.lasttime BLA_BACKBONE_TIMEOUT then s
    else
      let s := if g.requestSent ≠ 0 then { s with numRequests := s.numRequests - 1 } else s
      let s := blaDelBackboneClaims s gw
      let s := s.updateGw gw fun g => { g with bucket := none }
      backboneGwPut s gw

/-- The gateways in the hash table. -/
def BlaPriv.hashedGws (s : BlaPriv) : List ℕ :=
  (s.backboneGws.filter fun g => g.bucket.isSome).map BlaBackboneGw.ptr

/-- `batadv_bla_purge_backbone_gw`. -/
def blaPurgeBackboneGw (s : BlaPriv) (now : Bool) : BlaPriv :=
  s.hashedGws.foldl (blaPurgeBackboneGwTurn env now) s

/-- The turn of `batadv_bla_purge_claims` for a claim. -/
def blaPurgeClaimsTurn (primaryIf : Option EthAddr) (now : Bool) (s : BlaPriv) (claim : ℕ) :
    BlaPriv :=
  match s.claim? claim with
  | none => s
  | some c =>
    let s := claimGet s claim
    let s := backboneGwGet s c.backboneGw
    let s := match s.gw? c.backboneGw with
      | none => s
      | some g =>
        if !now && some g.orig != primaryIf then s
        else if !now &&
            !hasTimedOut env.msecsToJiffies s.jiffies c.lasttime BLA_CLAIM_TIMEOUT then s
        else handleUnclaim env s primaryIf g.orig c.addr c.vid
    let s := backboneGwPut s c.backboneGw
    claimPut s claim

/-- The claims in the hash table. -/
def BlaPriv.hashedClaims (s : BlaPriv) : List ℕ :=
  (s.claims.filter BlaClaim.hashed).map BlaClaim.ptr

/-- `batadv_bla_purge_claims`. -/
def blaPurgeClaims (s : BlaPriv) (primaryIf : Option EthAddr) (now : Bool) : BlaPriv :=
  s.hashedClaims.foldl (blaPurgeClaimsTurn env primaryIf now) s

/-- The turn of `batadv_bla_update_orig_address` for a gateway: its address changes, but it stays
where it is in the hash table. -/
def blaUpdateOrigAddressTurn (primaryIf oldif : EthAddr) (s : BlaPriv) (gw : ℕ) : BlaPriv :=
  match s.gw? gw with
  | none => s
  | some g =>
    if g.orig ≠ oldif then s
    else
      let s := s.updateGw gw fun g => { g with orig := primaryIf }
      blaSendAnnounce s primaryIf g

/-- `batadv_bla_update_orig_address`. -/
def blaUpdateOrigAddress (s : BlaPriv) (bridgeLoopAvoidance : Bool) (primaryIf : EthAddr)
    (oldif : Option EthAddr) : BlaPriv :=
  let s := { s with group := crc16 primaryIf }
  match (if bridgeLoopAvoidance then oldif else none) with
  | none => blaPurgeBackboneGw env (blaPurgeClaims env s none true) true
  | some oldif => s.hashedGws.foldl (blaUpdateOrigAddressTurn primaryIf oldif) s

/-- The turn of `batadv_bla_periodic_work` for a gateway: a node announces itself, and stops
waiting after some periods. -/
def blaPeriodicTurn (primaryIf : EthAddr) (sendLoopdetect : Bool) (s : BlaPriv) (gw : ℕ) :
    BlaPriv :=
  match s.gw? gw with
  | none => s
  | some g =>
    if g.orig ≠ primaryIf then s
    else
      let s := s.updateGw gw fun g => { g with lasttime := s.jiffies }
      let s := blaSendAnnounce s primaryIf g
      let s := if sendLoopdetect then
          blaSendClaim s primaryIf s.loopdetectAddr g.vid CLAIM_TYPE_LOOPDETECT
        else s
      if g.requestSent = 0 then s
      else
        let s := s.updateGw gw fun g => { g with waitPeriods := g.waitPeriods - 1 }
        if g.waitPeriods - 1 ≠ 0 then s
        else
          let s := { s with numRequests := s.numRequests - 1 }
          s.updateGw gw fun g => { g with requestSent := 0 }

/-- `batadv_bla_periodic_work`; `ethRandomAddr` is the address that is drawn if one is. -/
def blaPeriodicWork (s : BlaPriv) (bridgeLoopAvoidance : Bool) (primaryIf : Option EthAddr)
    (ethRandomAddr : EthAddr) : BlaPriv :=
  match primaryIf with
  | none => s
  | some primaryIf =>
    let s := blaPurgeClaims env s (some primaryIf) false
    let s := blaPurgeBackboneGw env s false
    if !bridgeLoopAvoidance then s
    else
      let s : BlaPriv := { s with loopdetectNext := s.loopdetectNext - 1 }
      let sendLoopdetect := s.loopdetectNext == 0
      let s := if sendLoopdetect then
          { s with
            loopdetectAddr := 0xBABE#16 ++ ethRandomAddr.extractLsb' 0 32
            loopdetectLasttime := s.jiffies
            loopdetectNext := BLA_LOOPDETECT_PERIODS }
        else s
      s.hashedGws.foldl (blaPeriodicTurn primaryIf sendLoopdetect) s

/-! ### Payload -/

/-- `batadv_bla_loopdetect_check`: the worker that reports a loop gets the reference, unless it is
to run already. -/
def blaLoopdetectCheck (s : BlaPriv) (primaryIf hSource : EthAddr) (vid : U16) : BlaPriv × Bool :=
  if hSource ≠ s.loopdetectAddr then (s, false)
  else if hasTimedOut env.msecsToJiffies s.jiffies s.loopdetectLasttime BLA_LOOPDETECT_TIMEOUT then
    (s, true)
  else
    let (s, gw) := blaGetBackboneGw env s primaryIf primaryIf vid true
    if gw ∈ s.reportWork then (backboneGwPut s gw, true)
    else ({ s with reportWork := gw :: s.reportWork }, true)

/-- A frame of a client, as `batadv_bla_rx` gets it from the mesh: its addresses and its VLAN, the
type of the packet it came in, and whether it is in the list of duplicates. -/
structure BlaRxFrame where
  hDest : EthAddr
  hSource : EthAddr
  vid : U16
  packetType : U8
  duplicate : Bool
deriving DecidableEq, Repr

/-- `batadv_bla_rx`, with whether the frame is taken. -/
def blaRx (s : BlaPriv) (bridgeLoopAvoidance : Bool) (primaryIf : Option EthAddr)
    (frame : BlaRxFrame) : BlaPriv × Bool :=
  match primaryIf with
  | none => (s, true)
  | some primaryIf =>
    let allow (s : BlaPriv) := (blaUpdateOwnBackboneGw env s primaryIf frame.vid, false)
    let multicast := isMulticastEtherAddr frame.hDest
    let flooded := frame.packetType = PACKET_BCAST ∨ frame.packetType = PACKET_UNICAST
    if !bridgeLoopAvoidance then allow s
    else
      let (s, loop) := blaLoopdetectCheck env s primaryIf frame.hSource frame.vid
      if loop then (s, true)
      else if s.numRequests ≠ 0 ∧ multicast ∧ flooded then (s, true)
      else if multicast ∧ frame.packetType = PACKET_UNICAST ∧ frame.duplicate then (s, true)
      else match claimHashFind s frame.hSource frame.vid with
      | none => allow (handleClaim env s primaryIf primaryIf frame.hSource frame.vid)
      | some claim =>
        let s := claimGet s claim.ptr
        let ownClaim := (s.gw? claim.backboneGw).any fun g => g.orig == primaryIf
        if ownClaim then
          let s := s.updateClaim claim.ptr fun c => { c with lasttime := s.jiffies }
          let (s, ret) := allow s
          (claimPut s claim.ptr, ret)
        else if multicast ∧ flooded then (claimPut s claim.ptr, true)
        else
          let (s, ret) := allow (handleClaim env s primaryIf primaryIf frame.hSource frame.vid)
          (claimPut s claim.ptr, ret)

/-- `batadv_bla_tx`, with whether the frame is taken. -/
def blaTx (inMesh : EthAddr → Bool) (s : BlaPriv) (bridgeLoopAvoidance : Bool)
    (primaryIf : Option EthAddr) (frame : BlaFrame) (vid : U16) : BlaPriv × Bool :=
  match primaryIf with
  | none => (s, false)
  | some primaryIf =>
    let allow (s : BlaPriv) := (blaUpdateOwnBackboneGw env s primaryIf vid, false)
    let multicast := isMulticastEtherAddr frame.hDest
    if !bridgeLoopAvoidance then allow s
    else
      let (s, isClaim) := blaProcessClaim env inMesh s primaryIf frame
      if isClaim then (s, true)
      else if s.numRequests ≠ 0 ∧ multicast then (s, true)
      else match claimHashFind s frame.hSource vid with
      | none => allow s
      | some claim =>
        let s := claimGet s claim.ptr
        let clientRoamed := (s.gw? claim.backboneGw).any fun g => g.orig == primaryIf
        if clientRoamed then
          if hasTimedOut env.msecsToJiffies s.jiffies claim.lasttime 100 then
            let (s, ret) := allow (handleUnclaim env s (some primaryIf) primaryIf frame.hSource vid)
            (claimPut s claim.ptr, ret)
          else (claimPut s claim.ptr, true)
        else if multicast then (claimPut s claim.ptr, true)
        else
          let (s, ret) := allow s
          (claimPut s claim.ptr, ret)

/-- `batadv_bla_loopdetect_report` for a gateway: the reference of the worker is dropped. -/
def blaLoopdetectReport (s : BlaPriv) (gw : ℕ) : BlaPriv :=
  if gw ∈ s.reportWork then backboneGwPut { s with reportWork := s.reportWork.erase gw } gw else s

/-! ### Steps -/

/-- A step: the clock ticks, a frame comes from the mesh or from the LAN, the periodic work is done,
the primary interface or its address changes, or a loop is reported. -/
inductive BlaEvent
  | tick
  | rx (bridgeLoopAvoidance : Bool) (primaryIf : Option EthAddr) (frame : BlaRxFrame)
  | tx (inMesh : EthAddr → Bool) (bridgeLoopAvoidance : Bool) (primaryIf : Option EthAddr)
      (frame : BlaFrame) (vid : U16)
  | periodicWork (bridgeLoopAvoidance : Bool) (primaryIf : Option EthAddr)
      (ethRandomAddr : EthAddr)
  | updateOrigAddress (bridgeLoopAvoidance : Bool) (primaryIf : EthAddr) (oldif : Option EthAddr)
  | loopdetectReport (gw : ℕ)

/-- The state after a step. -/
def blaStep (s : BlaPriv) : BlaEvent → BlaPriv
  | .tick => { s with jiffies := s.jiffies + 1 }
  | .rx bla primaryIf frame => (blaRx env s bla primaryIf frame).1
  | .tx inMesh bla primaryIf frame vid => (blaTx env inMesh s bla primaryIf frame vid).1
  | .periodicWork bla primaryIf ethRandomAddr => blaPeriodicWork env s bla primaryIf ethRandomAddr
  | .updateOrigAddress bla primaryIf oldif => blaUpdateOrigAddress env s bla primaryIf oldif
  | .loopdetectReport gw => blaLoopdetectReport s gw

/-- The state that `batadv_bla_init` sets up. -/
def blaInit (jiffies : Jiffies) (primaryIf : Option EthAddr) : BlaPriv where
  jiffies := jiffies
  group := (primaryIf.map crc16).getD 0
  numRequests := 0
  loopdetectAddr := 0
  loopdetectLasttime := 0
  loopdetectNext := BLA_LOOPDETECT_PERIODS
  backboneGws := []
  claims := []
  reportWork := []
  nextPtr := 0
  sent := []

end Batadv
