import BatmanAdv.BatV.Metric

set_option relaxedAutoImplicit false
set_option autoImplicit false

/-!
# The airtime of a link (`bat_v_elp.c`)

The airtime of a link is that of a test frame at the link's bit rate, divided by the share of the
frames that arrive.  The bit rate comes from the configuration, from the wireless driver or from
the Ethernet driver, each in a unit of its own, and is converted to bit/s in 32 bits.  The loss is
estimated from the gaps in the sequence numbers of the ELP packets of the neighbour: the packets
that were received and those that were expected are counted between two updates of the metric.

A division by zero has no result.

## Main definitions

* `Batadv.elpAirtimeGetBase`, `Batadv.elpAirtimeMetricUpdate`, `Batadv.elpNeighUpdate` — the
  functions of these names.
* `Batadv.ElpAirtimeExact` — what an update of the metric computes, in unbounded numbers.

## Main results

* `Batadv.elpAirtimeGetBase_rate_iff` — when the airtime of the test frame is right.
* `Batadv.toNat_elpCost_eq_iff` — when the division by the delivery rate is.
* `Batadv.elp_airtime_iff` — when an update of the metric computes what it should.
-/

namespace Batadv

/-- `SPEED_UNKNOWN`, as a `u32`. -/
def SPEED_UNKNOWN : U32 := 0xFFFFFFFF

/-- `BATADV_WARNING_DEFAULT`. -/
def WARNING_DEFAULT : U8 := 2

/-- `BATADV_AIRTIME_OVERHEAD`, in microseconds. -/
def AIRTIME_OVERHEAD : U64 := 300

/-- `BATADV_AIRTIME_TEST_FRAME_SIZE`, in bits. -/
def AIRTIME_TEST_FRAME_SIZE : U64 := 8192

/-- `BATADV_AIRTIME_EWMA_WEIGHT`. -/
def AIRTIME_EWMA_WEIGHT : U32 := 4

/-- `BATADV_ELP_MAX_AGE`. -/
def ELP_MAX_AGE : ℤ := 64

/-- What `struct batadv_hardif_neigh_node` and its `bat_v` keep of the ELP packets of a
neighbour. -/
structure HardifNeighBatV where
  airtimeCost : U32
  baseAirtime : U32
  elpReceived : U32
  elpExpected : U32
  elpLastSeqno : U32
  /-- The smoothed rate of lost frames, in thousandths. -/
  ePtSmoothed : U32
  elpInterval : U32
  elpLatestSeqno : U32
  lastSeen : Jiffies
deriving DecidableEq, Repr

/-- `batadv_v_hardif_neigh_init`, for a neighbour that is created at the given time. -/
def hardifNeighInit (jiffies : Jiffies) : HardifNeighBatV where
  airtimeCost := AIRTIME_MAX_VALUE
  baseAirtime := AIRTIME_MAX_VALUE
  elpReceived := 0
  elpExpected := 0
  elpLastSeqno := 0
  ePtSmoothed := 0
  elpInterval := 0
  elpLatestSeqno := 0
  lastSeen := jiffies

/-! ### The bit rate -/

/-- `struct station_info`, of which `expected_throughput` and the rate of `txrate` are there if
`filled` says so. -/
structure StationInfo where
  expectedThroughput : Option U32
  txBitrate : Option U32

/-- What `batadv_v_elp_airtime_get_base` reads of an interface: whether it belongs to a mesh and
whether it is a wireless one, the throughput that is configured, and what the kernel returns. -/
structure ElpLink where
  meshIface : Bool
  /-- `bat_v.flags`. -/
  flags : U8
  throughputOverride : U32
  isWifiHardif : Bool
  isCfg80211Hardif : Bool
  rtnlTrylock : Bool
  realNetdev : Bool
  /-- `cfg80211_get_station`. -/
  station : ℤ × StationInfo
  /-- `__ethtool_get_link_ksettings` if it returns 0: full duplex, and the speed in Mbit/s. -/
  linkSettings : Option (Bool × U32)

/-- Where the bit rate comes from: the function returns false, the station is unknown, or a value
in a unit that is given in bit/s. -/
inductive ElpSource
  | invalid
  | noStation
  | rate (value unit : U32)
deriving DecidableEq, Repr

/-- The label `default_airtime`: 1 Mbit/s, with a warning the first time. -/
def elpDefaultAirtime (flags : U8) : U8 × ElpSource := (flags ||| WARNING_DEFAULT, .rate 1 1000000)

/-- The part of `batadv_v_elp_airtime_get_base` in front of the label `calculate`: the flags after
it, and the bit rate. -/
def elpBitrateSource (link : ElpLink) : U8 × ElpSource :=
  if !link.meshIface then (link.flags, .invalid)
  else if link.throughputOverride ≠ 0 then (link.flags, .rate link.throughputOverride 100000)
  else if link.isWifiHardif then
    if !link.isCfg80211Hardif then elpDefaultAirtime link.flags
    else if !link.rtnlTrylock then (link.flags, .invalid)
    else if !link.realNetdev then elpDefaultAirtime link.flags
    else if link.station.1 = -ENOENT then (link.flags, .noStation)
    else if link.station.1 ≠ 0 then elpDefaultAirtime link.flags
    else
      match link.station.2.expectedThroughput, link.station.2.txBitrate with
      | some expected, _ => (link.flags, .rate expected 1000)
      | none, some tx => (link.flags, .rate tx 100000)
      | none, none => elpDefaultAirtime link.flags
  else if !link.rtnlTrylock then (link.flags, .invalid)
  else
    match link.linkSettings with
    | none => elpDefaultAirtime link.flags
    | some (fullDuplex, speed) =>
      let flags := if fullDuplex then link.flags ||| FULL_DUPLEX else link.flags &&& ~~~FULL_DUPLEX
      if speed ≠ 0 ∧ speed ≠ SPEED_UNKNOWN then (flags, .rate speed 1000000)
      else elpDefaultAirtime flags

/-- `base_airtime` in `batadv_v_elp_airtime_get_base`, computed in 64 bits and cut to 32. -/
def elpFrameAirtime (bitrate : U32) : U32 :=
  if 0 < bitrate then
    (AIRTIME_OVERHEAD + AIRTIME_TEST_FRAME_SIZE * 1000000 / bitrate.setWidth 64).setWidth 32
  else AIRTIME_MAX_VALUE

/-- The part of `batadv_v_elp_airtime_get_base` from the label `calculate` on.  The message at its
end divides by the bit rate without a test. -/
def elpCalculate (bitrate : U32) : Option U32 :=
  if bitrate = 0 then none else some (elpFrameAirtime bitrate)

/-- `batadv_v_elp_airtime_get_base`: the flags after it, and the base airtime if it returns
true. -/
def elpAirtimeGetBase (link : ElpLink) : Option (U8 × Option U32) :=
  match elpBitrateSource link with
  | (flags, .invalid) => some (flags, none)
  | (flags, .noStation) => some (flags, some AIRTIME_MAX_VALUE)
  | (flags, .rate value unit) => (elpCalculate (value * unit)).map fun base => (flags, some base)

/-! ### The metric -/

/-- `e_pt` in `batadv_v_elp_airtime_metric_update`: the rate of lost frames since the last
update, in thousandths. -/
def elpLossSample (neigh : HardifNeighBatV) : U32 :=
  if 0 < neigh.elpExpected then 1000 - neigh.elpReceived * 1000 / neigh.elpExpected else 0

/-- The smoothed rate of lost frames after an update. -/
def elpSmooth (ePt ePtSmoothed : U32) : U32 :=
  (ePt + (AIRTIME_EWMA_WEIGHT - 1) * ePtSmoothed) / AIRTIME_EWMA_WEIGHT

/-- The airtime that an update stores. -/
def elpCost (baseAirtime ePtSmoothed : U32) : U32 :=
  if ePtSmoothed < 1000 then baseAirtime * 1000 / (1000 - ePtSmoothed) else AIRTIME_MAX_VALUE

/-- What `batadv_v_elp_airtime_metric_update` does with a base airtime. -/
def elpAirtimeStore (baseAirtime : U32) (neigh : HardifNeighBatV) : HardifNeighBatV :=
  let ePtSmoothed := elpSmooth (elpLossSample neigh) neigh.ePtSmoothed
  { neigh with
    baseAirtime := baseAirtime
    ePtSmoothed := ePtSmoothed
    elpReceived := 0
    elpExpected := 0
    airtimeCost := elpCost baseAirtime ePtSmoothed }

/-- `batadv_v_elp_airtime_metric_update`: the flags of the interface and the neighbour after it. -/
def elpAirtimeMetricUpdate (link : ElpLink) (neigh : HardifNeighBatV) :
    Option (U8 × HardifNeighBatV) :=
  match elpAirtimeGetBase link with
  | none => none
  | some (flags, none) => some (flags, neigh)
  | some (flags, some base) => some (flags, elpAirtimeStore base neigh)

/-! ### ELP packets -/

/-- The reception of an ELP packet: its fields, the time, and whether the originator and the two
records of the neighbour were found. -/
structure ElpRecv where
  seqno : U32
  elpInterval : U32
  jiffies : Jiffies
  found : Bool
deriving DecidableEq, Repr

/-- The gap in front of a packet that is not the first one: the packets that were missed, and none
where the sequence number goes back or too far ahead. -/
def elpGap (newSeqno lastSeqno : U32) : U32 :=
  let gap := newSeqno - lastSeqno - 1
  if gap.toInt < 0 then 0 else if 100 < gap.toInt then 0 else gap

/-- The part of `batadv_v_elp_neigh_update` that counts the packet. -/
def elpCount (newSeqno : U32) (neigh : HardifNeighBatV) : HardifNeighBatV :=
  if 0 < neigh.elpLastSeqno then
    { neigh with
      elpExpected := neigh.elpExpected + (1 + elpGap newSeqno neigh.elpLastSeqno)
      elpReceived := neigh.elpReceived + 1
      elpLastSeqno := newSeqno }
  else { neigh with elpExpected := 1, elpReceived := 1, elpLastSeqno := newSeqno }

/-- `batadv_v_elp_neigh_update`.  A packet that is known or older is counted, but nothing else. -/
def elpNeighUpdate (recv : ElpRecv) (neigh : HardifNeighBatV) : HardifNeighBatV :=
  if !recv.found then neigh
  else
    let neigh := elpCount recv.seqno neigh
    let seqnoDiff := (recv.seqno - neigh.elpLatestSeqno).toInt
    if seqnoDiff < 1 ∧ -ELP_MAX_AGE < seqnoDiff then neigh
    else
      { neigh with
        lastSeen := recv.jiffies
        elpLatestSeqno := recv.seqno
        elpInterval := recv.elpInterval }

/-! ### The airtime in unbounded numbers -/

/-- The airtime of the test frame at a bit rate. -/
def frameAirtime (rate : ℕ) : ℕ :=
  if rate = 0 then 2 ^ 32 - 1 else 300 + 8192 * 10 ^ 6 / rate

/-- The base airtime of a link whose bit rate comes from the given source, if there is one. -/
def ElpSource.baseAirtime : ElpSource → Option ℕ
  | .invalid => none
  | .noStation => some (2 ^ 32 - 1)
  | .rate value unit => some (frameAirtime (value.toNat * unit.toNat))

/-- A base airtime divided by the share of the frames that arrive; unusable from the greatest cost
on. -/
def deliveredAirtime (base ePt : ℕ) : ℕ :=
  if base = 2 ^ 32 - 1 then 2 ^ 32 - 1 else min (2 ^ 32 - 1) (base * 1000 / (1000 - ePt))

/-- **An update of the metric computes what it should**: where the link has a base airtime, this is
what is determined, without a division by zero, and the cost that is stored is the base airtime
divided by the share of the frames that arrive, which is at least the base airtime. -/
def ElpAirtimeExact (link : ElpLink) (neigh : HardifNeighBatV) : Prop :=
  ∀ base, (elpBitrateSource link).2.baseAirtime = some base →
    ∃ (flags : U8) (stored : U32) (neigh' : HardifNeighBatV),
      elpAirtimeGetBase link = some (flags, some stored) ∧ stored.toNat = base ∧
      elpAirtimeMetricUpdate link neigh = some (flags, neigh') ∧
      neigh'.airtimeCost.toNat = deliveredAirtime base neigh'.ePtSmoothed.toNat ∧
      stored ≤ neigh'.airtimeCost

/-- The bit rates of a source for which 32 bits are enough: at least 1908 bit/s, so that the base
airtime in thousandths fits, and less than `2 ^ 32` bit/s. -/
def ElpSource.Fits : ElpSource → Prop
  | .invalid => True
  | .noStation => False
  | .rate value unit => 1908 ≤ value.toNat * unit.toNat ∧ value.toNat * unit.toNat < 2 ^ 32

/-! ### The base airtime -/

lemma frameAirtime_of_ne {rate : ℕ} (h : rate ≠ 0) :
    frameAirtime rate = 300 + 8192000000 / rate := by
  rw [frameAirtime, if_neg h]
  norm_num

/-- The base airtime of a bit rate that is not zero. -/
lemma toNat_elpFrameAirtime {bitrate : U32} (h : bitrate ≠ 0) :
    (elpFrameAirtime bitrate).toNat = (300 + 8192000000 / bitrate.toNat) % 2 ^ 32 := by
  have hlt := bitrate.isLt
  have hne : bitrate.toNat ≠ 0 := fun h0 => h (BitVec.eq_of_toNat_eq h0)
  have hpos : 0 < bitrate := by
    rw [BitVec.lt_def]
    exact Nat.pos_of_ne_zero hne
  have hframe : (AIRTIME_TEST_FRAME_SIZE * 1000000 : U64).toNat = 8192000000 := rfl
  have hover : AIRTIME_OVERHEAD.toNat = 300 := rfl
  have hdiv : 8192000000 / bitrate.toNat ≤ 8192000000 := Nat.div_le_self _ _
  rw [elpFrameAirtime, if_pos hpos, BitVec.toNat_setWidth, BitVec.toNat_add, BitVec.toNat_udiv,
    BitVec.toNat_setWidth, hframe, hover, Nat.mod_eq_of_lt (by omega : bitrate.toNat < 2 ^ 64)]
  omega

/-- What is left of a bit rate that does not fit into 32 bits has a longer frame: the one of the
rate takes at most 1 microsecond. -/
lemma frame_lt_wrapped {rate : ℕ} (hrate : 2 ^ 32 ≤ rate) (hzero : rate % 2 ^ 32 ≠ 0) :
    8192000000 / rate < 8192000000 / (rate % 2 ^ 32) := by
  generalize hm : rate % 2 ^ 32 = m at hzero
  have hmlt : m < 2 ^ 32 := hm ▸ Nat.mod_lt _ (by norm_num)
  have hle : m + 2 ^ 32 ≤ rate := by omega
  have hq : 8192000000 / rate ≤ 1 := by
    calc 8192000000 / rate ≤ 8192000000 / 2 ^ 32 := Nat.div_le_div_left hrate (by norm_num)
      _ = 1 := by norm_num
  have hq' : 1 ≤ 8192000000 / m := (Nat.le_div_iff_mul_le (by omega)).2 (by omega)
  by_cases hone : 1 ≤ 8192000000 / rate
  · have hr : 1 * rate ≤ 8192000000 := (Nat.le_div_iff_mul_le (by omega)).1 hone
    have htwice : 2 ≤ 8192000000 / m := (Nat.le_div_iff_mul_le (by omega)).2 (by omega)
    omega
  · omega

/-- A bit rate that does not fit into 32 bits gives another airtime. -/
lemma frameAirtime_wrapped_ne {rate : ℕ} (hrate : 2 ^ 32 ≤ rate) (hzero : rate % 2 ^ 32 ≠ 0) :
    (300 + 8192000000 / (rate % 2 ^ 32)) % 2 ^ 32 ≠ 300 + 8192000000 / rate := by
  have hlt := frame_lt_wrapped hrate hzero
  generalize rate % 2 ^ 32 = m at hzero hlt
  rcases Nat.lt_or_ge m 2 with hone | htwo
  · have hq : 8192000000 / rate ≤ 8192000000 / 2 ^ 32 := Nat.div_le_div_left hrate (by norm_num)
    have h1 : m = 1 := by omega
    rw [h1]
    omega
  · have hfits : 8192000000 / m ≤ 8192000000 / 2 := Nat.div_le_div_left htwo (by norm_num)
    omega

/-- **When the base airtime of a bit rate is right**: the rate is at least 2 bit/s and fits into 32
bits. -/
lemma elpCalculate_rate_iff (value unit : U32) :
    (∃ stored, elpCalculate (value * unit) = some stored ∧
        stored.toNat = frameAirtime (value.toNat * unit.toNat)) ↔
      2 ≤ value.toNat * unit.toNat ∧ value.toNat * unit.toNat < 2 ^ 32 := by
  have hmul : (value * unit).toNat = value.toNat * unit.toNat % 2 ^ 32 := BitVec.toNat_mul ..
  generalize hr : value.toNat * unit.toNat = rate at hmul
  unfold elpCalculate
  by_cases hzero : value * unit = 0
  · -- the division by zero
    rw [if_pos hzero]
    rw [hzero] at hmul
    have h0 : rate % 2 ^ 32 = 0 := hmul.symm
    constructor
    · rintro ⟨stored, hnone, -⟩
      cases hnone
    · omega
  · have hne : rate % 2 ^ 32 ≠ 0 := fun h0 => hzero (BitVec.eq_of_toNat_eq (hmul.trans h0))
    have hrne : rate ≠ 0 := fun h0 => hne (by rw [h0]; rfl)
    have hframe := frameAirtime_of_ne hrne
    rw [if_neg hzero]
    have hstored : (∃ stored, some (elpFrameAirtime (value * unit)) = some stored ∧
        stored.toNat = frameAirtime rate) ↔
        (300 + 8192000000 / (rate % 2 ^ 32)) % 2 ^ 32 = 300 + 8192000000 / rate := by
      rw [← hmul, ← toNat_elpFrameAirtime hzero, ← hframe]
      constructor
      · rintro ⟨stored, hs, heq⟩
        cases hs
        exact heq
      · exact fun heq => ⟨_, rfl, heq⟩
    rw [hstored]
    constructor
    · intro heq
      have hlt : rate < 2 ^ 32 := by
        by_contra hge
        exact frameAirtime_wrapped_ne (by omega) hne heq
      refine ⟨?_, hlt⟩
      by_contra hone
      have h1 : rate = 1 := by omega
      rw [h1] at heq
      revert heq
      decide
    · rintro ⟨htwo, hlt⟩
      have hfits : 8192000000 / rate ≤ 8192000000 / 2 := Nat.div_le_div_left htwo (by norm_num)
      rw [Nat.mod_eq_of_lt hlt]
      exact Nat.mod_eq_of_lt (by omega)

/-- The base airtime in thousandths fits from 1908 bit/s on. -/
lemma frameAirtime_fits_iff {rate : ℕ} (hrate : rate ≠ 0) :
    frameAirtime rate * 1000 < 2 ^ 32 ↔ 1908 ≤ rate := by
  rw [frameAirtime_of_ne hrate]
  constructor
  · intro hlt
    by_contra hsmall
    have hle : 8192000000 / 1907 ≤ 8192000000 / rate :=
      Nat.div_le_div_left (by omega) (Nat.pos_of_ne_zero hrate)
    omega
  · intro hle
    have hdiv : 8192000000 / rate ≤ 8192000000 / 1908 := Nat.div_le_div_left hle (by norm_num)
    omega

/-! ### The division by the delivery rate -/

/-- The cost of a base airtime, for a rate of lost frames below one. -/
lemma toNat_elpCost {base ePt : U32} (h : ePt.toNat < 1000) :
    (elpCost base ePt).toNat = base.toNat * 1000 % 2 ^ 32 / (1000 - ePt.toNat) := by
  have hlt : ePt < 1000 := by
    rw [BitVec.lt_def]
    exact h
  have hsub : (1000 - ePt : U32).toNat = 1000 - ePt.toNat := by
    rw [BitVec.toNat_sub_of_le (BitVec.le_def.2 (le_of_lt h))]
    rfl
  rw [elpCost, if_pos hlt, BitVec.toNat_udiv, BitVec.toNat_mul, hsub]
  rfl

/-- **When the cost of a base airtime is right**: the base airtime in thousandths fits into 32 bits.

**Proof sketch.** What is cut off is at least `2 ^ 32`, which is more than a divisor.  The greatest
cost is not reached either, since it would have to be a multiple of 1000. -/
lemma toNat_elpCost_eq_iff {base ePt : U32} (h : ePt.toNat < 1000) :
    (elpCost base ePt).toNat = deliveredAirtime base.toNat ePt.toNat ↔
      base.toNat * 1000 < 2 ^ 32 := by
  have hbase := base.isLt
  rw [toNat_elpCost h, deliveredAirtime]
  obtain ⟨d, hd⟩ : ∃ d, d = 1000 - ePt.toNat := ⟨_, rfl⟩
  rw [← hd]
  have hpos : 0 < d := by omega
  have hle : d ≤ 1000 := by omega
  constructor
  · intro heq
    by_contra hge
    set cut := base.toNat * 1000 % 2 ^ 32 with hcut
    have hless : cut + 2 ^ 32 ≤ base.toNat * 1000 := by omega
    have hquot : cut / d ≤ cut := Nat.div_le_self _ _
    have hnext : cut / d + 1 ≤ base.toNat * 1000 / d := by
      rw [← Nat.add_div_right _ hpos]
      exact Nat.div_le_div_right (by omega)
    split_ifs at heq with hmax
    · omega
    · omega
  · intro hlt
    have hquot : base.toNat * 1000 / d ≤ base.toNat * 1000 := Nat.div_le_self _ _
    rw [Nat.mod_eq_of_lt hlt, if_neg (by omega)]
    omega

/-- A base airtime is at most its cost where the cost is right. -/
lemma le_elpCost {base ePt : U32} (h : ePt.toNat < 1000) (hfits : base.toNat * 1000 < 2 ^ 32) :
    base ≤ elpCost base ePt := by
  rw [BitVec.le_def, toNat_elpCost h, Nat.mod_eq_of_lt hfits]
  exact (Nat.le_div_iff_mul_le (by omega)).2 (Nat.mul_le_mul_left _ (by omega))

/-! ### An update of the metric -/

/-- An update that has a base airtime stores its cost. -/
lemma elpAirtimeMetricUpdate_of_base {link : ElpLink} {flags : U8} {base : U32}
    (h : elpAirtimeGetBase link = some (flags, some base)) (neigh : HardifNeighBatV) :
    elpAirtimeMetricUpdate link neigh = some (flags, elpAirtimeStore base neigh) := by
  rw [elpAirtimeMetricUpdate, h]

/-- **When an update of the metric computes what it should**, for every link and every neighbour
with a smoothed loss below one: the bit rate is at least 1908 bit/s and fits into 32 bits, or the
link has no base airtime. -/
theorem elp_airtime_iff (link : ElpLink) (neigh : HardifNeighBatV)
    (hept : (elpSmooth (elpLossSample neigh) neigh.ePtSmoothed).toNat < 1000) :
    ElpAirtimeExact link neigh ↔ (elpBitrateSource link).2.Fits := by
  -- the cost that an update stores for a base airtime
  have hstore (base : U32) :
      (elpAirtimeStore base neigh).airtimeCost.toNat =
        deliveredAirtime base.toNat (elpAirtimeStore base neigh).ePtSmoothed.toNat ↔
      base.toNat * 1000 < 2 ^ 32 := toNat_elpCost_eq_iff hept
  have hle {base : U32} (hfits : base.toNat * 1000 < 2 ^ 32) :
      base ≤ (elpAirtimeStore base neigh).airtimeCost := le_elpCost hept hfits
  unfold ElpAirtimeExact
  cases hsource : elpBitrateSource link with
  | mk flags source =>
  cases source with
  | invalid => exact ⟨fun _ => trivial, fun _ base hnone => nomatch hnone⟩
  | noStation =>
    refine ⟨fun hexact => ?_, fun hfalse => hfalse.elim⟩
    obtain ⟨flags', stored, neigh', hget, -, hupdate, hcost, -⟩ := hexact _ rfl
    have hbase : elpAirtimeGetBase link = some (flags, some AIRTIME_MAX_VALUE) := by
      rw [elpAirtimeGetBase, hsource]
    rw [elpAirtimeMetricUpdate_of_base hbase] at hupdate
    cases hupdate
    have hfits := (hstore AIRTIME_MAX_VALUE).1 hcost
    exact absurd hfits (by decide)
  | rate value unit =>
    have hbase : elpAirtimeGetBase link =
        (elpCalculate (value * unit)).map fun base => (flags, some base) := by
      rw [elpAirtimeGetBase, hsource]
    constructor
    · intro hexact
      obtain ⟨flags', stored, neigh', hget, hstored, hupdate, hcost, -⟩ := hexact _ rfl
      rw [elpAirtimeMetricUpdate_of_base hget] at hupdate
      cases hupdate
      rw [hbase, Option.map_eq_some_iff] at hget
      obtain ⟨base, hcalc, heq⟩ := hget
      cases heq
      obtain ⟨htwo, hlt⟩ := (elpCalculate_rate_iff value unit).1 ⟨_, hcalc, hstored⟩
      rw [← hstored, hstore, hstored, frameAirtime_fits_iff (by omega)] at hcost
      exact ⟨hcost, hlt⟩
    · rintro ⟨hge, hlt⟩ base heq
      cases heq
      obtain ⟨stored, hcalc, hstored⟩ :=
        (elpCalculate_rate_iff value unit).2 ⟨le_trans (by norm_num) hge, hlt⟩
      have hget : elpAirtimeGetBase link = some (flags, some stored) := by
        rw [hbase, hcalc, Option.map_some]
      have hfits : stored.toNat * 1000 < 2 ^ 32 := by
        rw [hstored, frameAirtime_fits_iff (by omega)]
        exact hge
      refine ⟨flags, stored, elpAirtimeStore stored neigh, hget, hstored,
        elpAirtimeMetricUpdate_of_base hget neigh, ?_, hle hfits⟩
      rw [← hstored]
      exact (hstore stored).2 hfits

/-! ### Three links -/

/-- An Ethernet link of the given speed in Mbit/s. -/
def ethernetLink (speed : U32) : ElpLink :=
  ⟨true, 0, 0, false, false, true, true, (0, ⟨none, none⟩), some (true, speed)⟩

/-- A wireless link with the throughput in kbit/s that its driver expects. -/
def wifiLink (expectedThroughput : U32) : ElpLink :=
  ⟨true, 0, 0, true, true, true, true, (0, ⟨some expectedThroughput, none⟩), none⟩

/-- At 1 Gbit/s the metric of a new neighbour is right: the theorem applies. -/
theorem elp_airtime_iff_gigabit : ElpAirtimeExact (ethernetLink 1000) (hardifNeighInit 0) :=
  (elp_airtime_iff (ethernetLink 1000) (hardifNeighInit 0) (by decide)).2
    (show ElpSource.Fits (.rate 1000 1000000) from by unfold ElpSource.Fits; decide)

/-- **The metric is wrong for fast and for slow links**: at 10 Gbit/s the base airtime is 305 and
not 300, at 1 kbit/s a cost of 8192300 is stored as 3897332, and at a rate of 0 the update divides
by zero. -/
theorem elp_airtime_wrong :
    elpAirtimeGetBase (ethernetLink 10000) = some (1, some 305) ∧
      ¬ ElpAirtimeExact (ethernetLink 10000) (hardifNeighInit 0) ∧
      elpAirtimeMetricUpdate (wifiLink 1) (hardifNeighInit 0) =
        some (0, { hardifNeighInit 0 with baseAirtime := 8192300, airtimeCost := 3897332 }) ∧
      ¬ ElpAirtimeExact (wifiLink 1) (hardifNeighInit 0) ∧
      elpAirtimeMetricUpdate (wifiLink 0) (hardifNeighInit 0) = none ∧
      ¬ ElpAirtimeExact (wifiLink 0) (hardifNeighInit 0) := by
  have hfast : elpAirtimeGetBase (ethernetLink 10000) = some (1, some 305) := by decide
  have hslow : elpAirtimeMetricUpdate (wifiLink 1) (hardifNeighInit 0) =
      some (0, { hardifNeighInit 0 with baseAirtime := 8192300, airtimeCost := 3897332 }) := by
    decide
  have hzero : elpAirtimeMetricUpdate (wifiLink 0) (hardifNeighInit 0) = none := by decide
  refine ⟨hfast, fun h => ?_, hslow, fun h => ?_, hzero, fun h => ?_⟩
  · obtain ⟨flags, stored, neigh', hget, hstored, -⟩ := h _ rfl
    cases hfast.symm.trans hget
    exact absurd hstored (by decide)
  · obtain ⟨flags, stored, neigh', -, -, hupdate, hcost, -⟩ := h _ rfl
    cases hslow.symm.trans hupdate
    exact absurd hcost (by decide)
  · obtain ⟨flags, stored, neigh', -, -, hupdate, -⟩ := h _ rfl
    cases hzero.symm.trans hupdate

end Batadv
