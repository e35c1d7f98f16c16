import BatmanAdv.TranslationTable.Response
import BatmanAdv.Tvlv.Container

set_option relaxedAutoImplicit false
set_option autoImplicit false

/-!
# Reading a TT container (`translation-table.c`)

The value of a TT container is a header with the number of checksums, the checksums, and the
changes.  The handlers compute from the number and from the length of the value where the changes
begin and how many there are.  The one for OGMs does so in a `size_t`.  The one for unicast packets
keeps the size of the checksums in a `u16`, where eight times the number may wrap around; then it
takes a value for long enough that is not.

Memory is a function from addresses to bytes, of which the value is a part.

## Main definitions

* `Batadv.ttVlanAt`, `Batadv.ttChangeAt` — one record at an address.
* `Batadv.ttTvlvOgmHandler`, `Batadv.ttTvlvUnicastHandler` — the handlers.
* `Batadv.ttOgmReads`, `Batadv.ttUnicastReads` — the records that are read.
* `Batadv.TtOgmSafe`, `Batadv.TtUnicastSafe` — a handler keeps to the value.

## Main results

* `Batadv.tt_tvlv_safe_iff` — when the handlers keep to the value.
-/

namespace Batadv

/-! ### Records -/

/-- `struct batadv_tvlv_tt_vlan_data` at an address. -/
def ttVlanAt (mem : ℕ → U8) (off : ℕ) : TtVlanData :=
  ⟨mem off ++ mem (off + 1) ++ mem (off + 2) ++ mem (off + 3), mem (off + 4) ++ mem (off + 5)⟩

/-- `struct batadv_tvlv_tt_change` at an address. -/
def ttChangeAt (mem : ℕ → U8) (off : ℕ) : TtChange :=
  ⟨mem off, mem (off + 4) ++ mem (off + 5) ++ mem (off + 6) ++ mem (off + 7) ++ mem (off + 8) ++
    mem (off + 9), mem (off + 10) ++ mem (off + 11)⟩

/-- The array of checksums at an address. -/
def ttVlansAt (mem : ℕ → U8) (off num : ℕ) : List TtVlanData :=
  (List.range num).map fun i => ttVlanAt mem (off + 8 * i)

/-- The array of changes at an address. -/
def ttChangesAt (mem : ℕ → U8) (off num : ℕ) : List TtChange :=
  (List.range num).map fun i => ttChangeAt mem (off + 12 * i)

/-- The number of checksums in the header at an address. -/
def ttNumVlanAt (mem : ℕ → U8) (off : ℕ) : U16 := mem (off + 2) ++ mem (off + 3)

/-- `struct_size(tt_data, vlan_data, num_vlan)`, a `size_t`. -/
def ttDataSize (numVlan : U16) : ℕ := 4 + 8 * numVlan.toNat

/-- The TT data at an address, with the changes behind the checksums. -/
def ttDataAt (mem : ℕ → U8) (off numEntries : ℕ) : TtTvlv :=
  let numVlan := ttNumVlanAt mem off
  ⟨mem off, mem (off + 1), ttVlansAt mem (off + 4) numVlan.toNat,
    ttChangesAt mem (off + ttDataSize numVlan) numEntries⟩

/-! ### The handlers -/

/-- The checks of `batadv_tt_tvlv_ogm_handler_v1`: the number of changes, if the value passes. -/
def ttOgmEntries (mem : ℕ → U8) (off : ℕ) (tvlvValueLen : U16) : Option U16 :=
  if tvlvValueLen.toNat < 4 then none
  else
    let ttDataSz := ttDataSize (ttNumVlanAt mem off)
    if tvlvValueLen.toNat < ttDataSz then none
    else some (ttEntries (tvlvValueLen - BitVec.ofNat 16 ttDataSz))

/-- The checks of `batadv_tt_tvlv_unicast_handler_v1`. -/
def ttUnicastEntries (mem : ℕ → U8) (off : ℕ) (tvlvValueLen : U16) : Option U16 :=
  if tvlvValueLen.toNat < 4 then none
  else
    let tvlvValueLen := tvlvValueLen - 4
    -- the size of the checksums is kept in a `u16`
    let ttVlanLen : U16 := BitVec.ofNat 16 (8 * (ttNumVlanAt mem off).toNat)
    if tvlvValueLen.toNat < ttVlanLen.toNat then none
    else some (ttEntries (tvlvValueLen - ttVlanLen))

/-- `batadv_tt_tvlv_ogm_handler_v1`: the tables, and the request that is sent. -/
def ttTvlvOgmHandler (env : TtEnv) (tt : TtPriv) (orig : EthAddr) (mem : ℕ → U8) (off : ℕ)
    (tvlvValueLen : U16) : TtPriv × Option TtRequest :=
  match ttOgmEntries mem off tvlvValueLen with
  | none => (tt, none)
  | some numEntries =>
    let ttData := ttDataAt mem off numEntries.toNat
    ttUpdateOrig env tt orig ttData.vlans ttData.changes ttData.ttvn

/-- `BATADV_TT_DATA_TYPE_MASK`. -/
def TT_DATA_TYPE_MASK : U8 := 0x0F

/-- What a unicast container is, by its flags. -/
inductive TtDataType
  | request
  | response
  | other
deriving DecidableEq, Repr

/-- The type of the TT data at an address. -/
def ttDataTypeAt (mem : ℕ → U8) (off : ℕ) : TtDataType :=
  let type := mem off &&& TT_DATA_TYPE_MASK
  if type = TT_REQUEST then .request else if type = TT_RESPONSE then .response else .other

/-- `batadv_tt_tvlv_unicast_handler_v1`: the tables, the response that is sent, and whether the
packet is to be passed on (`NET_RX_DROP`). -/
def ttTvlvUnicastHandler (env : TtEnv) (renv : TtResponseEnv) (tt : TtPriv) (src dst : EthAddr)
    (mem : ℕ → U8) (off : ℕ) (tvlvValueLen : U16) : TtPriv × Option TtResponse × Bool :=
  match ttUnicastEntries mem off tvlvValueLen with
  | none => (tt, none, false)
  | some numEntries =>
    match ttDataTypeAt mem off with
    | .request =>
      let (response, done) := sendTtResponse env renv tt (ttDataAt mem off 0) src dst
      (tt, response, !done)
    | .response =>
      if renv.isMyMac dst then
        (ttHandleResponse env tt (ttDataAt mem off numEntries.toNat) src, none, false)
      else (tt, none, true)
    | .other => (tt, none, false)

/-! ### What is read -/

/-- The stretches of memory where an array of records lies, as addresses and lengths. -/
def ttRecords (size off num : ℕ) : List (ℕ × ℕ) :=
  (List.range num).map fun i => (off + size * i, size)

/-- The records that are read when `batadv_tt_tvlv_ogm_handler_v1` goes on to process the value:
the checksums by `batadv_tt_global_check_crc` and for a request, the changes by
`_batadv_tt_update_changes`. -/
def ttOgmReads (mem : ℕ → U8) (off : ℕ) (tvlvValueLen : U16) : Option (List (ℕ × ℕ)) :=
  (ttOgmEntries mem off tvlvValueLen).map fun numEntries =>
    let numVlan := ttNumVlanAt mem off
    ttRecords 8 (off + 4) numVlan.toNat ++
      ttRecords 12 (off + ttDataSize numVlan) numEntries.toNat

/-- The records that are read when `batadv_tt_tvlv_unicast_handler_v1` goes on to process the
value: of a request the checksums, by `batadv_tt_global_check_crc`, and of a response to this node
the changes, by `_batadv_tt_update_changes`. -/
def ttUnicastReads (renv : TtResponseEnv) (dst : EthAddr) (mem : ℕ → U8) (off : ℕ)
    (tvlvValueLen : U16) : Option (List (ℕ × ℕ)) :=
  match ttUnicastEntries mem off tvlvValueLen with
  | none => none
  | some numEntries =>
    let numVlan := ttNumVlanAt mem off
    match ttDataTypeAt mem off with
    | .request => some (ttRecords 8 (off + 4) numVlan.toNat)
    | .response =>
      if renv.isMyMac dst then some (ttRecords 12 (off + ttDataSize numVlan) numEntries.toNat)
      else none
    | .other => none

/-- The header and the checksums fit into the value. -/
def TtValueFits (mem : ℕ → U8) (off : ℕ) (tvlvValueLen : U16) : Prop :=
  4 ≤ tvlvValueLen.toNat ∧ ttDataSize (ttNumVlanAt mem off) ≤ tvlvValueLen.toNat

/-- A handler keeps to the value: it goes on to process it only if the header and the checksums
fit, what it reads then lies in the value, its result does not depend on any other byte of memory,
and if it does not go on then it has done nothing. -/
structure TtKeepsToValue {ρ : Type*} (reads : Option (List (ℕ × ℕ))) (handler : (ℕ → U8) → ρ)
    (Idle : ρ → Prop) (mem : ℕ → U8) (off : ℕ) (tvlvValueLen : U16) : Prop where
  fits : reads.isSome → TtValueFits mem off tvlvValueLen
  inside : ∀ stretches ∈ reads, ∀ stretch ∈ stretches,
    off + 4 ≤ stretch.1 ∧ stretch.1 + stretch.2 ≤ off + tvlvValueLen.toNat
  bytes : ∀ mem' : ℕ → U8, (∀ i, off ≤ i → i < off + tvlvValueLen.toNat → mem' i = mem i) →
    handler mem' = handler mem
  idle : reads = none → Idle (handler mem)

/-- The handler for OGMs keeps to the value. -/
def TtOgmSafe (env : TtEnv) (tt : TtPriv) (orig : EthAddr) (mem : ℕ → U8) (off : ℕ)
    (tvlvValueLen : U16) : Prop :=
  TtKeepsToValue (ttOgmReads mem off tvlvValueLen)
    (fun mem => ttTvlvOgmHandler env tt orig mem off tvlvValueLen) (fun r => r = (tt, none))
    mem off tvlvValueLen

/-- The handler for unicast packets keeps to the value. -/
def TtUnicastSafe (env : TtEnv) (renv : TtResponseEnv) (tt : TtPriv) (src dst : EthAddr)
    (mem : ℕ → U8) (off : ℕ) (tvlvValueLen : U16) : Prop :=
  TtKeepsToValue (ttUnicastReads renv dst mem off tvlvValueLen)
    (fun mem => ttTvlvUnicastHandler env renv tt src dst mem off tvlvValueLen)
    (fun r => r.1 = tt ∧ r.2.1 = none) mem off tvlvValueLen

/-- The size of the checksums wraps around to a number that the check lets pass, in a request, or
in a response to this node. -/
def TtUnicastWraps (renv : TtResponseEnv) (dst : EthAddr) (mem : ℕ → U8) (off : ℕ)
    (tvlvValueLen : U16) : Prop :=
  4 ≤ tvlvValueLen.toNat ∧ tvlvValueLen.toNat < ttDataSize (ttNumVlanAt mem off) ∧
    8 * (ttNumVlanAt mem off).toNat % 2 ^ 16 ≤ tvlvValueLen.toNat - 4 ∧
    (ttDataTypeAt mem off = .request ∨ ttDataTypeAt mem off = .response ∧ renv.isMyMac dst = true)

/-! ### Arrays of records -/

variable {mem mem' : ℕ → U8} {off : ℕ} {tvlvValueLen : U16}

/-- Every record of an array lies where the array does. -/
lemma mem_ttRecords {size num : ℕ} {stretch : ℕ × ℕ} (h : stretch ∈ ttRecords size off num) :
    off ≤ stretch.1 ∧ stretch.1 + stretch.2 ≤ off + size * num := by
  obtain ⟨i, hi, rfl⟩ := List.mem_map.1 h
  rw [List.mem_range] at hi
  have hlast : size * (i + 1) ≤ size * num := Nat.mul_le_mul_left size hi
  rw [Nat.mul_add] at hlast
  constructor
  · simp
  · dsimp only
    omega

/-- The checksums depend on the bytes of their array only. -/
lemma ttVlansAt_congr {num : ℕ} (h : ∀ i, off ≤ i → i < off + 8 * num → mem' i = mem i) :
    ttVlansAt mem' off num = ttVlansAt mem off num := by
  apply List.map_congr_left
  intro i hi
  rw [List.mem_range] at hi
  have hbyte (j : ℕ) (hj : j < 8) : mem' (off + 8 * i + j) = mem (off + 8 * i + j) :=
    h _ (by omega) (by omega)
  have hzero : mem' (off + 8 * i) = mem (off + 8 * i) := hbyte 0 (by omega)
  simp only [ttVlanAt, hzero, hbyte 1 (by omega), hbyte 2 (by omega), hbyte 3 (by omega),
    hbyte 4 (by omega), hbyte 5 (by omega)]

/-- The changes depend on the bytes of their array only. -/
lemma ttChangesAt_congr {num : ℕ} (h : ∀ i, off ≤ i → i < off + 12 * num → mem' i = mem i) :
    ttChangesAt mem' off num = ttChangesAt mem off num := by
  apply List.map_congr_left
  intro i hi
  rw [List.mem_range] at hi
  have hbyte (j : ℕ) (hj : j < 12) : mem' (off + 12 * i + j) = mem (off + 12 * i + j) :=
    h _ (by omega) (by omega)
  have hzero : mem' (off + 12 * i) = mem (off + 12 * i) := hbyte 0 (by omega)
  simp only [ttChangeAt, hzero, hbyte 4 (by omega), hbyte 5 (by omega), hbyte 6 (by omega),
    hbyte 7 (by omega), hbyte 8 (by omega), hbyte 9 (by omega), hbyte 10 (by omega),
    hbyte 11 (by omega)]

/-- The number of checksums depends on the header only. -/
lemma ttNumVlanAt_congr (hlen : 4 ≤ tvlvValueLen.toNat)
    (h : ∀ i, off ≤ i → i < off + tvlvValueLen.toNat → mem' i = mem i) :
    ttNumVlanAt mem' off = ttNumVlanAt mem off := by
  rw [ttNumVlanAt, h _ (by omega) (by omega), h _ (by omega) (by omega), ttNumVlanAt]

/-- TT data that lies in the value depends on the bytes of the value only. -/
lemma ttDataAt_congr {numEntries : ℕ} (hlen : 4 ≤ tvlvValueLen.toNat)
    (hfits : ttDataSize (ttNumVlanAt mem off) + 12 * numEntries ≤ tvlvValueLen.toNat)
    (h : ∀ i, off ≤ i → i < off + tvlvValueLen.toNat → mem' i = mem i) :
    ttDataAt mem' off numEntries = ttDataAt mem off numEntries := by
  have hnum := ttNumVlanAt_congr hlen h
  have hflags : mem' off = mem off := h off le_rfl (by omega)
  have httvn : mem' (off + 1) = mem (off + 1) := h _ (by omega) (by omega)
  unfold ttDataSize at hfits
  have hvlans : ttVlansAt mem' (off + 4) (ttNumVlanAt mem off).toNat =
      ttVlansAt mem (off + 4) (ttNumVlanAt mem off).toNat :=
    ttVlansAt_congr fun i hi hi' => h i (by omega) (by omega)
  have hchanges : ttChangesAt mem' (off + ttDataSize (ttNumVlanAt mem off)) numEntries =
      ttChangesAt mem (off + ttDataSize (ttNumVlanAt mem off)) numEntries := by
    apply ttChangesAt_congr
    unfold ttDataSize
    intro i hi hi'
    exact h i (by omega) (by omega)
  unfold ttDataAt
  rw [hnum, hflags, httvn]
  dsimp only
  rw [hvlans, hchanges]

/-! ### The handlers keep to the value -/

/-- As many changes as fit lie in the rest of the value. -/
lemma ttEntries_le (tt_len : U16) : 12 * (ttEntries tt_len).toNat ≤ tt_len.toNat := by
  have hlt := tt_len.isLt
  rw [ttEntries, BitVec.toNat_ofNat, Nat.mod_eq_of_lt (by omega)]
  omega

/-- A value that passes the checks of the handler for OGMs fits, with its changes. -/
lemma ttOgmEntries_eq_some {numEntries : U16}
    (h : ttOgmEntries mem off tvlvValueLen = some numEntries) :
    4 ≤ tvlvValueLen.toNat ∧
      ttDataSize (ttNumVlanAt mem off) + 12 * numEntries.toNat ≤ tvlvValueLen.toNat := by
  have hlt := tvlvValueLen.isLt
  unfold ttOgmEntries at h
  dsimp only at h
  split_ifs at h with hhdr hsize
  rw [Option.some.injEq] at h
  subst h
  have hfit : (BitVec.ofNat 16 (ttDataSize (ttNumVlanAt mem off))).toNat =
      ttDataSize (ttNumVlanAt mem off) := by
    rw [BitVec.toNat_ofNat, Nat.mod_eq_of_lt (by omega)]
  have hrest := toNat_sub_of_le_u16 (x := tvlvValueLen)
    (y := BitVec.ofNat 16 (ttDataSize (ttNumVlanAt mem off))) (by omega)
  have hentries := ttEntries_le
    (tvlvValueLen - BitVec.ofNat 16 (ttDataSize (ttNumVlanAt mem off)))
  omega

/-- **The handler for OGMs keeps to the value.** -/
theorem ttOgmSafe (env : TtEnv) (tt : TtPriv) (orig : EthAddr) (mem : ℕ → U8) (off : ℕ)
    (tvlvValueLen : U16) : TtOgmSafe env tt orig mem off tvlvValueLen := by
  constructor
  · intro hreads
    rw [ttOgmReads, Option.isSome_map] at hreads
    obtain ⟨numEntries, hsome⟩ := Option.isSome_iff_exists.1 hreads
    obtain ⟨hhdr, hfits⟩ := ttOgmEntries_eq_some hsome
    exact ⟨hhdr, by omega⟩
  · intro stretches hreads stretch hmem
    rw [ttOgmReads, Option.mem_def, Option.map_eq_some_iff] at hreads
    obtain ⟨numEntries, hsome, rfl⟩ := hreads
    obtain ⟨hhdr, hfits⟩ := ttOgmEntries_eq_some hsome
    unfold ttDataSize at hfits hmem
    rcases List.mem_append.1 hmem with hmem | hmem
    · have hrecord := mem_ttRecords hmem
      omega
    · have hrecord := mem_ttRecords hmem
      omega
  · intro mem' hsame
    have hentries : ttOgmEntries mem' off tvlvValueLen = ttOgmEntries mem off tvlvValueLen := by
      unfold ttOgmEntries
      split_ifs with hhdr
      · rfl
      · rw [ttNumVlanAt_congr (by omega) hsame]
    rw [ttTvlvOgmHandler, ttTvlvOgmHandler, hentries]
    cases hsome : ttOgmEntries mem off tvlvValueLen with
    | none => rfl
    | some numEntries =>
      obtain ⟨hhdr, hfits⟩ := ttOgmEntries_eq_some hsome
      dsimp only
      rw [ttDataAt_congr hhdr hfits hsame]
  · intro hreads
    rw [ttOgmReads, Option.map_eq_none_iff] at hreads
    rw [ttTvlvOgmHandler, hreads]

/-- What the checks of the handler for unicast packets let pass. -/
lemma ttUnicastEntries_eq_some {numEntries : U16}
    (h : ttUnicastEntries mem off tvlvValueLen = some numEntries) :
    4 ≤ tvlvValueLen.toNat ∧
      8 * (ttNumVlanAt mem off).toNat % 2 ^ 16 ≤ tvlvValueLen.toNat - 4 ∧
      (ttDataSize (ttNumVlanAt mem off) ≤ tvlvValueLen.toNat →
        ttDataSize (ttNumVlanAt mem off) + 12 * numEntries.toNat ≤ tvlvValueLen.toNat) := by
  have hlt := tvlvValueLen.isLt
  unfold ttUnicastEntries at h
  dsimp only at h
  split_ifs at h with hhdr hsize
  rw [Option.some.injEq] at h
  subst h
  have hfour := toNat_sub_four hhdr
  have hrest := toNat_sub_of_le_u16 (x := tvlvValueLen - 4)
    (y := BitVec.ofNat 16 (8 * (ttNumVlanAt mem off).toNat)) (by omega)
  have hentries := ttEntries_le
    (tvlvValueLen - 4 - BitVec.ofNat 16 (8 * (ttNumVlanAt mem off).toNat))
  have hmod : (BitVec.ofNat 16 (8 * (ttNumVlanAt mem off).toNat)).toNat =
      8 * (ttNumVlanAt mem off).toNat % 2 ^ 16 := BitVec.toNat_ofNat _ _
  refine ⟨by omega, by omega, fun hfits => ?_⟩
  unfold ttDataSize at hfits ⊢
  -- a size that fits does not wrap around
  have hsame : 8 * (ttNumVlanAt mem off).toNat % 2 ^ 16 = 8 * (ttNumVlanAt mem off).toNat :=
    Nat.mod_eq_of_lt (by omega)
  omega

/-- A value that the handler for unicast packets goes on to process fits, unless the size of the
checksums wraps around. -/
lemma ttUnicastReads_isSome {renv : TtResponseEnv} {dst : EthAddr}
    (hwraps : ¬ TtUnicastWraps renv dst mem off tvlvValueLen)
    (h : (ttUnicastReads renv dst mem off tvlvValueLen).isSome) :
    TtValueFits mem off tvlvValueLen := by
  unfold ttUnicastReads at h
  cases hsome : ttUnicastEntries mem off tvlvValueLen with
  | none =>
    rw [hsome] at h
    exact nomatch h
  | some numEntries =>
    obtain ⟨hhdr, hmod, -⟩ := ttUnicastEntries_eq_some hsome
    rw [hsome] at h
    refine ⟨hhdr, ?_⟩
    by_contra hshort
    apply hwraps
    refine ⟨hhdr, by omega, hmod, ?_⟩
    cases htype : ttDataTypeAt mem off with
    | request => exact Or.inl rfl
    | response =>
      refine Or.inr ⟨rfl, ?_⟩
      by_contra hdst
      simp [htype, hdst] at h
    | other => simp [htype] at h

/-- **The handler for unicast packets keeps to the value** unless the size of the checksums wraps
around.

**Proof sketch.** If the value fits, then what is read lies in it.  If it does not, then the
handler does nothing with it, for the checks let it pass only where the size wraps around. -/
theorem ttUnicastSafe_of_not_wraps (env : TtEnv) (renv : TtResponseEnv) (tt : TtPriv)
    (src dst : EthAddr) (hwraps : ¬ TtUnicastWraps renv dst mem off tvlvValueLen) :
    TtUnicastSafe env renv tt src dst mem off tvlvValueLen := by
  have hfits := ttUnicastReads_isSome hwraps
  constructor
  · exact hfits
  · intro stretches hreads stretch hmem
    obtain ⟨hhdr, hsize⟩ := hfits (Option.isSome_iff_exists.2 ⟨stretches, hreads⟩)
    unfold ttUnicastReads at hreads
    cases hsome : ttUnicastEntries mem off tvlvValueLen with
    | none =>
      rw [hsome] at hreads
      exact nomatch hreads
    | some numEntries =>
      obtain ⟨-, -, hall⟩ := ttUnicastEntries_eq_some hsome
      have hend := hall hsize
      unfold ttDataSize at hsize hend
      rw [hsome] at hreads
      cases htype : ttDataTypeAt mem off with
      | request =>
        simp only [htype, Option.mem_def, Option.some.injEq] at hreads
        subst hreads
        have hrecord := mem_ttRecords hmem
        omega
      | response =>
        simp only [htype, Option.mem_def] at hreads
        split_ifs at hreads
        rw [Option.some.injEq] at hreads
        subst hreads
        have hrecord := mem_ttRecords hmem
        unfold ttDataSize at hrecord
        omega
      | other => simp [htype] at hreads
  · intro mem' hsame
    have hentries : ttUnicastEntries mem' off tvlvValueLen =
        ttUnicastEntries mem off tvlvValueLen := by
      unfold ttUnicastEntries
      split_ifs with hhdr
      · rfl
      · rw [ttNumVlanAt_congr (by omega) hsame]
    rw [ttTvlvUnicastHandler, ttTvlvUnicastHandler, hentries]
    cases hsome : ttUnicastEntries mem off tvlvValueLen with
    | none => rfl
    | some numEntries =>
      obtain ⟨hhdr, -, hall⟩ := ttUnicastEntries_eq_some hsome
      have htype : ttDataTypeAt mem' off = ttDataTypeAt mem off := by
        rw [ttDataTypeAt, hsame off le_rfl (by omega), ttDataTypeAt]
      dsimp only
      rw [htype]
      unfold ttUnicastReads at hfits
      cases htype' : ttDataTypeAt mem off with
      | request =>
        simp only [hsome, htype'] at hfits
        have hend := hall (hfits rfl).2
        dsimp only
        rw [ttDataAt_congr hhdr (by omega) hsame]
      | response =>
        dsimp only
        split_ifs with hdst
        · simp only [hsome, htype', hdst, if_true] at hfits
          rw [ttDataAt_congr hhdr (hall (hfits rfl).2) hsame]
        · rfl
      | other => rfl
  · intro hreads
    unfold ttUnicastReads at hreads
    rw [ttTvlvUnicastHandler]
    cases hsome : ttUnicastEntries mem off tvlvValueLen with
    | none => exact ⟨rfl, rfl⟩
    | some numEntries =>
      rw [hsome] at hreads
      cases htype : ttDataTypeAt mem off with
      | request => simp [htype] at hreads
      | response =>
        simp only [htype] at hreads
        split_ifs at hreads with hdst
        dsimp only
        rw [if_neg hdst]
        exact ⟨rfl, rfl⟩
      | other => exact ⟨rfl, rfl⟩

/-- Where the size of the checksums wraps around, the handler goes on with a value that is too
short. -/
lemma not_ttUnicastSafe_of_wraps (env : TtEnv) (renv : TtResponseEnv) (tt : TtPriv)
    (src dst : EthAddr) (hwraps : TtUnicastWraps renv dst mem off tvlvValueLen) :
    ¬ TtUnicastSafe env renv tt src dst mem off tvlvValueLen := by
  obtain ⟨hhdr, hshort, hmod, htype⟩ := hwraps
  intro hsafe
  have hsome : ∃ numEntries, ttUnicastEntries mem off tvlvValueLen = some numEntries := by
    have hfour := toNat_sub_four (x := tvlvValueLen) (by omega)
    have hlen : (BitVec.ofNat 16 (8 * (ttNumVlanAt mem off).toNat)).toNat =
        8 * (ttNumVlanAt mem off).toNat % 2 ^ 16 := BitVec.toNat_ofNat _ _
    unfold ttUnicastEntries
    dsimp only
    rw [if_neg (by omega), if_neg (by omega)]
    exact ⟨_, rfl⟩
  obtain ⟨numEntries, hsome⟩ := hsome
  have hreads : (ttUnicastReads renv dst mem off tvlvValueLen).isSome := by
    unfold ttUnicastReads
    rw [hsome]
    rcases htype with htype | ⟨htype, hdst⟩
    · simp [htype]
    · simp [htype, hdst]
  have hfits := (hsafe.fits hreads).2
  omega

/-- **TT TVLV parsing.**  The handlers keep to the value exactly if it is not one for which the
handler for unicast packets computes the size of the checksums with a wrap around. -/
theorem tt_tvlv_safe_iff (env : TtEnv) (renv : TtResponseEnv) (tt : TtPriv)
    (orig src dst : EthAddr) (mem : ℕ → U8) (off : ℕ) (tvlvValueLen : U16) :
    (TtOgmSafe env tt orig mem off tvlvValueLen ∧
        TtUnicastSafe env renv tt src dst mem off tvlvValueLen) ↔
      ¬ TtUnicastWraps renv dst mem off tvlvValueLen := by
  constructor
  · rintro ⟨-, hsafe⟩ hwraps
    exact not_ttUnicastSafe_of_wraps env renv tt src dst hwraps hsafe
  · intro hwraps
    exact ⟨ttOgmSafe env tt orig mem off tvlvValueLen,
      ttUnicastSafe_of_not_wraps env renv tt src dst hwraps⟩

/-- A full table for this node of four bytes, with 8192 checksums by its header. -/
def ttWrapsValue (i : ℕ) : U8 := [0x14, 1, 0x20, 0].getD i 0

/-- The handler for unicast packets takes it for a table without clients, and takes the changes
from an address 65536 bytes behind its end. -/
theorem tt_tvlv_unsafe :
    ¬ ∀ (env : TtEnv) (renv : TtResponseEnv) (tt : TtPriv) (orig src dst : EthAddr)
      (mem : ℕ → U8) (off : ℕ) (tvlvValueLen : U16),
      TtOgmSafe env tt orig mem off tvlvValueLen ∧
        TtUnicastSafe env renv tt src dst mem off tvlvValueLen := by
  intro hsafe
  let env : TtEnv := ⟨1000, fun _ _ => false, fun _ _ => 0, fun _ _ => true, fun _ _ => true,
    fun _ _ => true, fun _ => true, true⟩
  let renv : TtResponseEnv := ⟨true, 1500, fun _ => true, true⟩
  have hvalue := (hsafe env renv ⟨TtLocal.new [0], [], []⟩ 1 1 2 ttWrapsValue 0 4).2
  have hfits := hvalue.fits (by decide)
  revert hfits
  unfold TtValueFits
  decide

end Batadv
