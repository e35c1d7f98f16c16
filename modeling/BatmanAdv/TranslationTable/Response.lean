import BatmanAdv.TranslationTable.Global

set_option relaxedAutoImplicit false
set_option autoImplicit false

/-!
# Answers to requests for a translation table (`translation-table.c`)

A node that is asked for its translation table answers with the whole table or with the changes
of its last commit.  It also answers for another originator, if what it knows about that one is
what is asked for: with the clients that it has in its global table, or with the last changes that
it has received.

A response is given with the length of its container and with the number of bytes that are copied
behind the checksums, which the code takes from two places.

## Main definitions

* `Batadv.ttLocalValid`, `Batadv.ttGlobalValid`, `Batadv.ttTvlvGenerate` — the clients that are
  put into a response.
* `Batadv.sendMyTtResponse`, `Batadv.sendOtherTtResponse`, `Batadv.sendTtResponse` — the functions
  of these names.
-/

namespace Batadv

/-- `BATADV_TT_REQUEST`. -/
def TT_REQUEST : U8 := 0x02

/-- `BATADV_TT_RESPONSE`. -/
def TT_RESPONSE : U8 := 0x04

/-! ### The clients in a response -/

/-- `batadv_tt_entries`: the number of changes that fit. -/
def ttEntries (ttLen : U16) : U16 := BitVec.ofNat 16 (ttLen.toNat / 12)

/-- `batadv_tt_local_valid`: the flags of a client that is put into a response. -/
def ttLocalValid (e : TtLocalEntry) : Option U8 :=
  if hasFlag e.flags TT_CLIENT_NEW then none else some (e.flags.setWidth 8)

/-- `batadv_tt_global_valid`: the same for a client of an originator. -/
def ttGlobalValid (orig : EthAddr) (e : TtGlobalEntry) : Option U8 :=
  if hasFlag e.flags TT_CLIENT_ROAM || hasFlag e.flags TT_CLIENT_TEMP then none
  else (e.origEntryFind orig).map TtOrigListEntry.flags

/-- `batadv_tt_tvlv_generate`: the changes that are written, as far as there is room, and the
number of bytes that are not used. -/
def ttTvlvGenerate (changes : List TtChange) (tt_len : U16) : List TtChange × U16 :=
  let ttTot := ttEntries tt_len
  let written := changes.take ttTot.toNat
  (written, BitVec.ofNat 16 (ttLen (ttTot.toNat - written.length)))

/-- The changes for the clients of the local table. -/
def ttLocalChangesOf (tt : TtLocal) : List TtChange :=
  tt.localHash.filterMap fun e => (ttLocalValid e).map fun flags => ⟨flags, e.addr, e.vid⟩

/-- The changes for the clients of an originator. -/
def ttGlobalChangesOf (tt : TtPriv) (orig : EthAddr) : List TtChange :=
  tt.globalHash.filterMap fun e =>
    (ttGlobalValid orig e).map fun flags => ⟨flags, e.addr, e.vid⟩

/-! ### Responses -/

/-- A response: the TT data, the length of the container, and the number of bytes that are copied
behind the checksums. -/
structure TtResponse where
  data : TtTvlv
  tvlvLen : U16
  copied : ℤ
deriving DecidableEq, Repr

/-- The room for changes in the container: what is left of its length behind the checksums. -/
def TtResponse.room (r : TtResponse) : ℤ := r.tvlvLen.toNat - (4 + 8 * r.data.vlans.length)

/-- What answering reads from elsewhere: whether there is memory, the largest packet the mesh
takes, which addresses belong to this node, and whether it has a primary interface. -/
structure TtResponseEnv where
  allocData : Bool
  packetSizeMax : ℤ
  isMyMac : EthAddr → Bool
  primaryIf : Bool

/-- `batadv_tt_prepare_tvlv_local_data`: the length of the container, and of the changes in it. -/
def ttPrepareTvlvLocalData (alloc : Bool) (tt : TtLocal) (tt_len : ℤ) : U16 × ℤ :=
  let vlans := ttLocalActiveVlans tt
  let totalEntries : U16 := vlans.foldl (fun n vlan => n + BitVec.ofInt 16 vlan.numEntries) 0
  let changeOffset : ℤ := 4 + 8 * vlans.length
  let tt_len := if tt_len < 0 then (ttLen totalEntries.toNat : ℤ) else tt_len
  (if alloc then BitVec.ofInt 16 tt_len + BitVec.ofInt 16 changeOffset else 0, tt_len)

/-- `batadv_tt_prepare_tvlv_global_data`: the length of the container, and of the changes in it. -/
def ttPrepareTvlvGlobalData (alloc : Bool) (o : TtOrigNode) (tt_len : ℤ) : U16 × ℤ :=
  let numEntries : U16 := o.vlanList.foldl (fun n vlan => n + BitVec.ofInt 16 vlan.numEntries) 0
  let numVlan : U16 := BitVec.ofNat 16 o.vlanList.length
  let changeOffset : ℤ := 4 + 8 * numVlan.toNat
  let tt_len := if tt_len < 0 then (ttLen numEntries.toNat : ℤ) else tt_len
  -- the sum is checked for an overflow of its type
  let overflow := decide (2 ^ 16 ≤ tt_len + changeOffset)
  (BitVec.ofInt 16 (tt_len + changeOffset), if overflow || !alloc then 0 else tt_len)

/-- The checksums that `batadv_tt_prepare_tvlv_global_data` writes. -/
def ttGlobalVlanData (o : TtOrigNode) : List TtVlanData :=
  o.vlanList.map fun vlan => ⟨vlan.crc, vlan.vid⟩

/-- `batadv_send_my_tt_response`. -/
def sendMyTtResponse (env : TtResponseEnv) (tt : TtPriv) (ttData : TtTvlv) (reqSrc : EthAddr) :
    Option TtResponse :=
  let tl := tt.ttLocal
  if (ttOrigHashFind tt reqSrc).isNone || !env.primaryIf then none
  else if hasFlag ttData.flags TT_FULL_TABLE || tl.vn != ttData.ttvn ||
      tl.lastChangeset.isEmpty then
    let (tvlvLen, tt_len) := ttPrepareTvlvLocalData env.allocData tl (-1)
    if tt_len = 0 ∨ tvlvLen = 0 then none
    else
      let (changes, rest) := ttTvlvGenerate (ttLocalChangesOf tl) (BitVec.ofInt 16 tt_len)
      some ⟨⟨TT_RESPONSE ||| TT_FULL_TABLE, tl.vn, ttLocalVlanData tl, changes⟩, tvlvLen - rest,
        ttLen changes.length⟩
  else
    -- the length of the last changes is an `s16`
    let lastLen : U16 := BitVec.ofNat 16 (ttLen tl.lastChangeset.length)
    let (tvlvLen, tt_len) := ttPrepareTvlvLocalData env.allocData tl lastLen.toInt
    if tt_len = 0 ∨ tvlvLen = 0 then none
    else
      some ⟨⟨TT_RESPONSE, ttData.ttvn, ttLocalVlanData tl, tl.lastChangeset⟩, tvlvLen,
        lastLen.toInt⟩

/-- `batadv_send_other_tt_response`. -/
def sendOtherTtResponse (env : TtEnv) (renv : TtResponseEnv) (tt : TtPriv) (ttData : TtTvlv)
    (reqSrc reqDst : EthAddr) : Option TtResponse :=
  match ttOrigHashFind tt reqDst with
  | none => none
  | some o =>
    if (ttOrigHashFind tt reqSrc).isNone then none
    -- this node does not have what is asked for
    else if o.lastTtvn != ttData.ttvn || !ttGlobalCheckCrc env o ttData.vlans then none
    else
      match (if hasFlag ttData.flags TT_FULL_TABLE then none else o.ttBuff) with
      | some ttBuff =>
        let (tvlvLen, tt_len) := ttPrepareTvlvGlobalData renv.allocData o o.ttBuffLen.toInt
        if tt_len = 0 then none
        else if renv.packetSizeMax < 20 + tvlvLen.toNat then none
        else
          some ⟨⟨TT_RESPONSE, ttData.ttvn, ttGlobalVlanData o, ttBuff⟩, tvlvLen,
            o.ttBuffLen.toInt⟩
      | none =>
        let (tvlvLen, tt_len) := ttPrepareTvlvGlobalData renv.allocData o (-1)
        if tt_len = 0 then none
        else
          let (changes, rest) := ttTvlvGenerate (ttGlobalChangesOf tt reqDst)
            (BitVec.ofInt 16 tt_len)
          let tvlvLen := tvlvLen - rest
          if renv.packetSizeMax < 20 + tvlvLen.toNat then none
          else
            some ⟨⟨TT_RESPONSE ||| TT_FULL_TABLE, ttData.ttvn, ttGlobalVlanData o, changes⟩,
              tvlvLen, ttLen changes.length⟩

/-- `batadv_send_tt_response`: the response, and whether the request has not to be passed on. -/
def sendTtResponse (env : TtEnv) (renv : TtResponseEnv) (tt : TtPriv) (ttData : TtTvlv)
    (reqSrc reqDst : EthAddr) : Option TtResponse × Bool :=
  if renv.isMyMac reqDst then (sendMyTtResponse renv tt ttData reqSrc, true)
  else
    let response := sendOtherTtResponse env renv tt ttData reqSrc reqDst
    (response, response.isSome)

end Batadv
