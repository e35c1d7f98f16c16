import BatmanAdv.Lib.CountedList
import BatmanAdv.Lib.Run
import BatmanAdv.Lib.Table
import BatmanAdv.Tvlv

set_option relaxedAutoImplicit false
set_option autoImplicit false

/-!
# The multicast flags of the originators

An originator announces in a TVLV container which multicast packets it wants all of.
`multicast.c` keeps these flags with the originator, and links the originators that want a kind of
packets into a list with a counter.  The lists are changed whenever flags change, by comparing the
old flags with the new ones; two of the flags have the inverse meaning.

## Main definitions

* `Batadv.McastOrig`, `Batadv.McastPriv` — what is kept for an originator, and the lists.
* `Batadv.mcastTvlvFlagsGet`, `Batadv.mcastTvlvOgmHandler` — a container is received.
* `Batadv.mcastPurgeOrig` — an originator is freed.
* `Batadv.McastPriv.Agree` — lists, counters and flags agree.

## Main results

* `Batadv.McastPriv.Agree.setFlags` — all the updates for an originator.
* `Batadv.mcast_lists_agree` — lists, counters and flags agree in every state of a run.
-/

namespace Batadv

/-! ### The flags -/

/-- `BATADV_MCAST_WANT_ALL_UNSNOOPABLES`. -/
def MCAST_WANT_ALL_UNSNOOPABLES : U8 := 0x01

/-- `BATADV_MCAST_WANT_ALL_IPV4`. -/
def MCAST_WANT_ALL_IPV4 : U8 := 0x02

/-- `BATADV_MCAST_WANT_ALL_IPV6`. -/
def MCAST_WANT_ALL_IPV6 : U8 := 0x04

/-- `BATADV_MCAST_WANT_NO_RTR4`. -/
def MCAST_WANT_NO_RTR4 : U8 := 0x08

/-- `BATADV_MCAST_WANT_NO_RTR6`. -/
def MCAST_WANT_NO_RTR6 : U8 := 0x10

/-- `BATADV_MCAST_HAVE_MC_PTYPE_CAPA`. -/
def MCAST_HAVE_MC_PTYPE_CAPA : U8 := 0x20

/-- A flag is set. -/
def mcastHas (flag flags : U8) : Bool := flags &&& flag != 0

/-- A flag is not set. -/
def mcastLacks (flag flags : U8) : Bool := flags &&& flag == 0

/-! ### The state -/

/-- `struct batadv_orig_node`, as far as its multicast state is concerned: the flags, and the bits
`BATADV_ORIG_CAPA_HAS_MCAST` of `capabilities` and of `capa_initialized`. -/
structure McastOrig where
  mcastFlags : U8
  hasMcast : Bool
  mcastInitialized : Bool
deriving DecidableEq, Repr

/-- Which object an originator is; there can be several for an address while one is being freed. -/
abbrev OrigPtr := ℕ

/-- `struct batadv_priv_mcast`, as far as the flags are concerned, with the originators that are
live. -/
structure McastPriv where
  origs : Table OrigPtr McastOrig
  wantAllUnsnoopables : CountedList OrigPtr
  wantAllIpv4 : CountedList OrigPtr
  wantAllIpv6 : CountedList OrigPtr
  wantAllRtr4 : CountedList OrigPtr
  wantAllRtr6 : CountedList OrigPtr
  numNoMcPtypeCapa : ℤ
deriving DecidableEq, Repr

/-- The state without originators. -/
def McastPriv.init : McastPriv :=
  ⟨[], .empty, .empty, .empty, .empty, .empty, 0⟩

/-- `batadv_orig_node_new`: the multicast state of a new originator. -/
def mcastOrigNew : McastOrig :=
  ⟨MCAST_WANT_NO_RTR4 ||| MCAST_WANT_NO_RTR6 ||| MCAST_HAVE_MC_PTYPE_CAPA, false, false⟩

/-! ### The updates -/

/-- The update that the five functions for the lists make, where the flags `wants` are those of an
originator that belongs to the list. -/
def wantListUpdate (wants : U8 → Bool) (l : CountedList OrigPtr) (orig : OrigPtr)
    (origFlags mcastFlags : U8) : CountedList OrigPtr :=
  l.update orig (wants origFlags) (wants mcastFlags)

/-- `batadv_mcast_want_unsnoop_update`. -/
def mcastWantUnsnoopUpdate (s : McastPriv) (orig : OrigPtr) (origFlags mcastFlags : U8) :
    McastPriv :=
  let l := wantListUpdate (mcastHas MCAST_WANT_ALL_UNSNOOPABLES) s.wantAllUnsnoopables orig
    origFlags mcastFlags
  { s with wantAllUnsnoopables := l }

/-- `batadv_mcast_want_ipv4_update`. -/
def mcastWantIpv4Update (s : McastPriv) (orig : OrigPtr) (origFlags mcastFlags : U8) :
    McastPriv :=
  let l := wantListUpdate (mcastHas MCAST_WANT_ALL_IPV4) s.wantAllIpv4 orig origFlags mcastFlags
  { s with wantAllIpv4 := l }

/-- `batadv_mcast_want_ipv6_update`. -/
def mcastWantIpv6Update (s : McastPriv) (orig : OrigPtr) (origFlags mcastFlags : U8) :
    McastPriv :=
  let l := wantListUpdate (mcastHas MCAST_WANT_ALL_IPV6) s.wantAllIpv6 orig origFlags mcastFlags
  { s with wantAllIpv6 := l }

/-- `batadv_mcast_want_rtr4_update`. -/
def mcastWantRtr4Update (s : McastPriv) (orig : OrigPtr) (origFlags mcastFlags : U8) :
    McastPriv :=
  let l := wantListUpdate (mcastLacks MCAST_WANT_NO_RTR4) s.wantAllRtr4 orig origFlags mcastFlags
  { s with wantAllRtr4 := l }

/-- `batadv_mcast_want_rtr6_update`. -/
def mcastWantRtr6Update (s : McastPriv) (orig : OrigPtr) (origFlags mcastFlags : U8) :
    McastPriv :=
  let l := wantListUpdate (mcastLacks MCAST_WANT_NO_RTR6) s.wantAllRtr6 orig origFlags mcastFlags
  { s with wantAllRtr6 := l }

/-- `batadv_mcast_have_mc_ptype_update`. -/
def mcastHaveMcPtypeUpdate (s : McastPriv) (origFlags mcastFlags : U8) : McastPriv :=
  -- switched from flag set to unset
  if mcastLacks MCAST_HAVE_MC_PTYPE_CAPA mcastFlags && mcastHas MCAST_HAVE_MC_PTYPE_CAPA origFlags
  then { s with numNoMcPtypeCapa := s.numNoMcPtypeCapa + 1 }
  -- switched from flag unset to set
  else if mcastHas MCAST_HAVE_MC_PTYPE_CAPA mcastFlags &&
    mcastLacks MCAST_HAVE_MC_PTYPE_CAPA origFlags
  then { s with numNoMcPtypeCapa := s.numNoMcPtypeCapa - 1 }
  else s

/-- `batadv_mcast_tvlv_flags_get`: the flags in a container. -/
def mcastTvlvFlagsGet (enabled : Bool) (tvlvValue : List U8) : U8 :=
  let mcastFlags := if enabled then tvlvValue.headD 0 else 0
  let mcastFlags :=
    if !enabled then mcastFlags ||| MCAST_WANT_ALL_IPV4 ||| MCAST_WANT_ALL_IPV6 else mcastFlags
  -- remove redundant flags to avoid sending duplicate packets later
  let mcastFlags :=
    if mcastHas MCAST_WANT_ALL_IPV4 mcastFlags then mcastFlags ||| MCAST_WANT_NO_RTR4
    else mcastFlags
  if mcastHas MCAST_WANT_ALL_IPV6 mcastFlags then mcastFlags ||| MCAST_WANT_NO_RTR6
  else mcastFlags

/-- `batadv_mcast_tvlv_ogm_handler` for an originator `o`. -/
def mcastTvlvOgmHandler (s : McastPriv) (orig : OrigPtr) (o : McastOrig) (flags : U8)
    (tvlvValue : List U8) : McastPriv :=
  let origMcastEnabled := mcastLacks TVLV_HANDLER_OGM_CIFNOTFND flags
  let mcastFlags := mcastTvlvFlagsGet origMcastEnabled tvlvValue
  let s := mcastWantUnsnoopUpdate s orig o.mcastFlags mcastFlags
  let s := mcastWantIpv4Update s orig o.mcastFlags mcastFlags
  let s := mcastWantIpv6Update s orig o.mcastFlags mcastFlags
  let s := mcastWantRtr4Update s orig o.mcastFlags mcastFlags
  let s := mcastWantRtr6Update s orig o.mcastFlags mcastFlags
  let s := mcastHaveMcPtypeUpdate s o.mcastFlags mcastFlags
  { s with origs := s.origs.set orig ⟨mcastFlags, origMcastEnabled, true⟩ }

/-- `batadv_mcast_purge_orig` for an originator `o`. -/
def mcastPurgeOrig (s : McastPriv) (orig : OrigPtr) (o : McastOrig) : McastPriv :=
  let s := mcastWantUnsnoopUpdate s orig o.mcastFlags 0
  let s := mcastWantIpv4Update s orig o.mcastFlags 0
  let s := mcastWantIpv6Update s orig o.mcastFlags 0
  let s := mcastWantRtr4Update s orig o.mcastFlags MCAST_WANT_NO_RTR4
  let s := mcastWantRtr6Update s orig o.mcastFlags MCAST_WANT_NO_RTR6
  mcastHaveMcPtypeUpdate s o.mcastFlags MCAST_HAVE_MC_PTYPE_CAPA

/-! ### Runs -/

/-- A step: an originator is created, a container with multicast flags is received from it or
missed in its OGM, or it is freed. -/
inductive McastEvent
  | new (orig : OrigPtr)
  | tvlv (orig : OrigPtr) (flags : U8) (tvlvValue : List U8)
  | free (orig : OrigPtr)
deriving DecidableEq, Repr

/-- The originator that a step is about. -/
def McastEvent.orig : McastEvent → OrigPtr
  | .new orig => orig
  | .tvlv orig _ _ => orig
  | .free orig => orig

/-- The state after a step.  An object is not created twice, and what is not live is not used. -/
def mcastStep (s : McastPriv) : McastEvent → McastPriv
  | .new orig =>
    match s.origs.get orig with
    | some _ => s
    | none => { s with origs := s.origs.set orig mcastOrigNew }
  | .tvlv orig flags tvlvValue =>
    match s.origs.get orig with
    | some o => mcastTvlvOgmHandler s orig o flags tvlvValue
    | none => s
  | .free orig =>
    match s.origs.get orig with
    | some o =>
      { mcastPurgeOrig s orig o with origs := s.origs.filter fun e => e.1 ≠ orig }
    | none => s

/-- A live originator whose flags have a property. -/
def mcastLive (origs : Table OrigPtr McastOrig) (wants : U8 → Bool) (orig : OrigPtr) : Prop :=
  ∃ o, origs.get orig = some o ∧ wants o.mcastFlags

/-- The number of originators without the capability. -/
def mcastLackPtype (origs : Table OrigPtr McastOrig) : ℕ :=
  origs.countP fun e => mcastLacks MCAST_HAVE_MC_PTYPE_CAPA e.2.mcastFlags

/-- The counters. -/
def McastPriv.counters (s : McastPriv) : List ℤ :=
  [s.wantAllUnsnoopables.num, s.wantAllIpv4.num, s.wantAllIpv6.num, s.wantAllRtr4.num,
    s.wantAllRtr6.num, s.numNoMcPtypeCapa]

/-- **The lists agree with the flags**: each has those live originators, once, whose flags say so,
and counts them; the last counter counts those without the capability. -/
structure McastPriv.Lists (s : McastPriv) : Prop where
  unsnoopables :
    s.wantAllUnsnoopables.Agrees (mcastLive s.origs (mcastHas MCAST_WANT_ALL_UNSNOOPABLES))
  ipv4 : s.wantAllIpv4.Agrees (mcastLive s.origs (mcastHas MCAST_WANT_ALL_IPV4))
  ipv6 : s.wantAllIpv6.Agrees (mcastLive s.origs (mcastHas MCAST_WANT_ALL_IPV6))
  rtr4 : s.wantAllRtr4.Agrees (mcastLive s.origs (mcastLacks MCAST_WANT_NO_RTR4))
  rtr6 : s.wantAllRtr6.Agrees (mcastLive s.origs (mcastLacks MCAST_WANT_NO_RTR6))
  ptype : s.numNoMcPtypeCapa = mcastLackPtype s.origs

/-- **Lists, counters and flags agree**: also, no counter is negative, and nobody is in the list for
all packets of an IP version and in the list for the routable ones. -/
structure McastPriv.Agree (s : McastPriv) : Prop extends s.Lists where
  nonneg : ∀ num ∈ s.counters, 0 ≤ num
  notBoth4 : ∀ orig ∈ s.wantAllIpv4.list, orig ∉ s.wantAllRtr4.list
  notBoth6 : ∀ orig ∈ s.wantAllIpv6.list, orig ∉ s.wantAllRtr6.list

/-- Flags that are not redundant: who wants all packets of an IP version does not want the routable
ones in particular. -/
def NotRedundant (flags : U8) : Bool :=
  (mcastLacks MCAST_WANT_ALL_IPV4 flags || mcastHas MCAST_WANT_NO_RTR4 flags) &&
    (mcastLacks MCAST_WANT_ALL_IPV6 flags || mcastHas MCAST_WANT_NO_RTR6 flags)

/-- **The invariant.** -/
structure McastPriv.Inv (s : McastPriv) : Prop where
  keys : (s.origs.map Prod.fst).Nodup
  lists : s.Lists
  notRedundant : ∀ orig o, s.origs.get orig = some o → NotRedundant o.mcastFlags

/-! ### Flags -/

lemma mcastLacks_eq (flag flags : U8) : mcastLacks flag flags = !mcastHas flag flags :=
  (Bool.not_not _).symm

lemma notRedundant_iff {flags : U8} : NotRedundant flags ↔
    (mcastHas MCAST_WANT_ALL_IPV4 flags → ¬mcastLacks MCAST_WANT_NO_RTR4 flags) ∧
      (mcastHas MCAST_WANT_ALL_IPV6 flags → ¬mcastLacks MCAST_WANT_NO_RTR6 flags) := by
  simp only [NotRedundant, mcastLacks_eq, Bool.and_eq_true, Bool.or_eq_true, Bool.not_eq_true',
    ← Bool.not_eq_true, imp_iff_not_or, not_not]

/-- The flags that are kept for an originator are not redundant. -/
lemma notRedundant_mcastTvlvFlagsGet (enabled : Bool) (tvlvValue : List U8) :
    NotRedundant (mcastTvlvFlagsGet enabled tvlvValue) := by
  have hflags : ∀ flags : U8,
      let flags :=
        if mcastHas MCAST_WANT_ALL_IPV4 flags then flags ||| MCAST_WANT_NO_RTR4 else flags
      NotRedundant
        (if mcastHas MCAST_WANT_ALL_IPV6 flags then flags ||| MCAST_WANT_NO_RTR6 else flags) := by
    decide +kernel
  exact hflags _

/-! ### Lists -/

/-- Flags tell whether an originator of the table belongs to a list. -/
def McastTells (origs : Table OrigPtr McastOrig) (orig : OrigPtr) (wants : U8 → Bool)
    (mcastFlags : U8) : Prop :=
  wants mcastFlags = true ↔ mcastLive origs wants orig

section Updates

variable {origs origs' : Table OrigPtr McastOrig} {orig : OrigPtr} {o : McastOrig} {mcastFlags : U8}

/-- **An update of a list** when the flags of an originator become `mcastFlags`, or it goes and
these are the flags of an originator that does not belong to the list. -/
lemma agrees_wantListUpdate {wants : U8 → Bool} {l : CountedList OrigPtr}
    (h : l.Agrees (mcastLive origs wants)) (hget : origs.get orig = some o)
    (hnew : McastTells origs' orig wants mcastFlags)
    (hother : ∀ j, j ≠ orig → origs'.get j = origs.get j) :
    (wantListUpdate wants l orig o.mcastFlags mcastFlags).Agrees (mcastLive origs' wants) := by
  refine h.update ?_ hnew fun j hj => ?_
  · simp [mcastLive, hget]
  · rw [mcastLive, mcastLive, hother j hj]

lemma mcastHaveMcPtypeUpdate_eq (s : McastPriv) (origFlags mcastFlags : U8) :
    mcastHaveMcPtypeUpdate s origFlags mcastFlags =
      { s with
        numNoMcPtypeCapa := s.numNoMcPtypeCapa +
          (mcastLacks MCAST_HAVE_MC_PTYPE_CAPA mcastFlags).toNat -
          (mcastLacks MCAST_HAVE_MC_PTYPE_CAPA origFlags).toNat } := by
  unfold mcastHaveMcPtypeUpdate
  rw [← Bool.not_not (mcastHas _ mcastFlags), ← Bool.not_not (mcastHas _ origFlags),
    ← mcastLacks_eq, ← mcastLacks_eq]
  cases mcastLacks MCAST_HAVE_MC_PTYPE_CAPA mcastFlags <;>
    cases mcastLacks MCAST_HAVE_MC_PTYPE_CAPA origFlags <;> simp

/-- The number of originators without the capability, if one of them is singled out. -/
lemma mcastLackPtype_of_perm {rest : Table OrigPtr McastOrig} (h : origs.Perm ((orig, o) :: rest)) :
    mcastLackPtype origs =
      mcastLackPtype rest + (mcastLacks MCAST_HAVE_MC_PTYPE_CAPA o.mcastFlags).toNat := by
  unfold mcastLackPtype
  rw [h.countP_eq, List.countP_cons, Bool.toNat, cond_eq_ite]

/-- **All the updates** for an originator, each with flags that agree with the table afterwards. -/
theorem McastPriv.Lists.update {s : McastPriv} (h : s.Lists) (hget : s.origs.get orig = some o)
    (hother : ∀ j, j ≠ orig → origs'.get j = s.origs.get j) {f₁ f₂ f₃ f₄ f₅ f₆ : U8}
    (h₁ : McastTells origs' orig (mcastHas MCAST_WANT_ALL_UNSNOOPABLES) f₁)
    (h₂ : McastTells origs' orig (mcastHas MCAST_WANT_ALL_IPV4) f₂)
    (h₃ : McastTells origs' orig (mcastHas MCAST_WANT_ALL_IPV6) f₃)
    (h₄ : McastTells origs' orig (mcastLacks MCAST_WANT_NO_RTR4) f₄)
    (h₅ : McastTells origs' orig (mcastLacks MCAST_WANT_NO_RTR6) f₅)
    (h₆ : mcastLackPtype origs' + (mcastLacks MCAST_HAVE_MC_PTYPE_CAPA o.mcastFlags).toNat =
      mcastLackPtype s.origs + (mcastLacks MCAST_HAVE_MC_PTYPE_CAPA f₆).toNat) :
    McastPriv.Lists
      { mcastHaveMcPtypeUpdate (mcastWantRtr6Update (mcastWantRtr4Update (mcastWantIpv6Update
          (mcastWantIpv4Update (mcastWantUnsnoopUpdate s orig o.mcastFlags f₁) orig o.mcastFlags f₂)
          orig o.mcastFlags f₃) orig o.mcastFlags f₄) orig o.mcastFlags f₅) o.mcastFlags f₆ with
        origs := origs' } := by
  rw [mcastHaveMcPtypeUpdate_eq]
  constructor
  · exact agrees_wantListUpdate h.unsnoopables hget h₁ hother
  · exact agrees_wantListUpdate h.ipv4 hget h₂ hother
  · exact agrees_wantListUpdate h.ipv6 hget h₃ hother
  · exact agrees_wantListUpdate h.rtr4 hget h₄ hother
  · exact agrees_wantListUpdate h.rtr6 hget h₅ hother
  · have hcount := h.ptype
    show s.numNoMcPtypeCapa + _ - _ = ((mcastLackPtype origs' : ℕ) : ℤ)
    omega

end Updates

/-- The originators after a container was received. -/
lemma origs_mcastTvlvOgmHandler {s : McastPriv} {orig : OrigPtr} {o : McastOrig} (flags : U8)
    (tvlvValue : List U8) :
    (mcastTvlvOgmHandler s orig o flags tvlvValue).origs = s.origs.set orig
      ⟨mcastTvlvFlagsGet (mcastLacks TVLV_HANDLER_OGM_CIFNOTFND flags) tvlvValue,
        mcastLacks TVLV_HANDLER_OGM_CIFNOTFND flags, true⟩ := by
  unfold mcastTvlvOgmHandler
  simp only [mcastHaveMcPtypeUpdate_eq]
  rfl

/-- **An originator's flags change.** -/
lemma McastPriv.Lists.tvlvOgmHandler {s : McastPriv} (h : s.Lists)
    (hkeys : (s.origs.map Prod.fst).Nodup) {orig : OrigPtr} {o : McastOrig}
    (hget : s.origs.get orig = some o) (flags : U8) (tvlvValue : List U8) :
    (mcastTvlvOgmHandler s orig o flags tvlvValue).Lists := by
  have hnew : (mcastTvlvOgmHandler s orig o flags tvlvValue).origs = _ :=
    origs_mcastTvlvOgmHandler flags tvlvValue
  have hget' : (mcastTvlvOgmHandler s orig o flags tvlvValue).origs.get orig = _ :=
    hnew ▸ Table.get_set_self _ _ _
  have htells : ∀ wants, McastTells (mcastTvlvOgmHandler s orig o flags tvlvValue).origs orig wants
      (mcastTvlvFlagsGet (mcastLacks TVLV_HANDLER_OGM_CIFNOTFND flags) tvlvValue) := by
    intro wants
    simp [McastTells, mcastLive, hget']
  have hother : ∀ j, j ≠ orig →
      (mcastTvlvOgmHandler s orig o flags tvlvValue).origs.get j = s.origs.get j := by
    intro j hj
    rw [hnew, Table.get_set_of_ne _ _ hj]
  refine h.update hget hother (htells _) (htells _) (htells _) (htells _) (htells _) ?_
  have hperm := Table.perm_of_get (hnew ▸ Table.nodup_set hkeys _ _) hget'
  have hrest := Table.filter_set s.origs orig
    ⟨mcastTvlvFlagsGet (mcastLacks TVLV_HANDLER_OGM_CIFNOTFND flags) tvlvValue,
      mcastLacks TVLV_HANDLER_OGM_CIFNOTFND flags, true⟩
  rw [← hnew] at hrest
  rw [mcastLackPtype_of_perm hperm, mcastLackPtype_of_perm (Table.perm_of_get hkeys hget), hrest]
  exact Nat.add_right_comm _ _ _

/-- **An originator is freed.** -/
lemma McastPriv.Lists.purgeOrig {s : McastPriv} (h : s.Lists)
    (hkeys : (s.origs.map Prod.fst).Nodup) {orig : OrigPtr} {o : McastOrig}
    (hget : s.origs.get orig = some o) :
    McastPriv.Lists
      { mcastPurgeOrig s orig o with origs := s.origs.filter fun e => e.1 ≠ orig } := by
  have hgone : Table.get (s.origs.filter fun e => e.1 ≠ orig) orig = none := by
    rw [Table.get_filter hkeys, hget]
    simp
  have htells : ∀ wants mcastFlags, wants mcastFlags = false →
      McastTells (s.origs.filter fun e => e.1 ≠ orig) orig wants mcastFlags := by
    intro wants mcastFlags hwants
    simp only [McastTells, mcastLive, hgone, hwants]
    simp
  refine h.update hget (fun j hj => ?_) (htells _ _ rfl) (htells _ _ rfl) (htells _ _ rfl)
    (htells _ _ rfl) (htells _ _ rfl) ?_
  · rw [Table.get_filter hkeys]
    cases s.origs.get j <;> simp [hj]
  · exact (mcastLackPtype_of_perm (Table.perm_of_get hkeys hget)).symm

/-- **An originator is created**: it belongs to no list. -/
lemma McastPriv.Lists.origNew {s : McastPriv} (h : s.Lists) {orig : OrigPtr}
    (hget : s.origs.get orig = none) :
    McastPriv.Lists { s with origs := s.origs.set orig mcastOrigNew } := by
  have hlive : ∀ wants, wants mcastOrigNew.mcastFlags = false → ∀ j,
      mcastLive s.origs wants j ↔ mcastLive (s.origs.set orig mcastOrigNew) wants j := by
    intro wants hwants j
    by_cases hj : j = orig
    · subst hj
      simp [mcastLive, hget, hwants]
    · rw [mcastLive, mcastLive, Table.get_set_of_ne _ _ hj]
  refine ⟨h.unsnoopables.congr (hlive _ rfl), h.ipv4.congr (hlive _ rfl),
    h.ipv6.congr (hlive _ rfl), h.rtr4.congr (hlive _ rfl), h.rtr6.congr (hlive _ rfl), ?_⟩
  show s.numNoMcPtypeCapa = ((mcastLackPtype (s.origs.set orig mcastOrigNew) : ℕ) : ℤ)
  rw [h.ptype, Table.set, if_neg (by simp [hget]), mcastLackPtype_of_perm (List.Perm.refl _)]
  rfl

/-! ### Runs -/

/-- **A step** keeps the invariant. -/
theorem McastPriv.Inv.step {s : McastPriv} (h : s.Inv) (e : McastEvent) : (mcastStep s e).Inv := by
  obtain ⟨hkeys, hlists, hflags⟩ := h
  have hset : ∀ orig o', NotRedundant o'.mcastFlags → ∀ j o,
      (s.origs.set orig o').get j = some o → NotRedundant o.mcastFlags := by
    intro orig o' ho' j o hj
    by_cases hne : j = orig
    · rw [hne, Table.get_set_self] at hj
      rwa [← Option.some.inj hj]
    · rw [Table.get_set_of_ne _ _ hne] at hj
      exact hflags j o hj
  cases e with
  | new orig =>
    rw [mcastStep]
    cases hget : s.origs.get orig with
    | some o => exact ⟨hkeys, hlists, hflags⟩
    | none =>
      exact ⟨Table.nodup_set hkeys _ _, hlists.origNew hget, hset orig _ (by decide)⟩
  | tvlv orig flags tvlvValue =>
    rw [mcastStep]
    cases hget : s.origs.get orig with
    | none => exact ⟨hkeys, hlists, hflags⟩
    | some o =>
      refine ⟨?_, hlists.tvlvOgmHandler hkeys hget flags tvlvValue, ?_⟩
      · rw [origs_mcastTvlvOgmHandler]
        exact Table.nodup_set hkeys _ _
      · rw [origs_mcastTvlvOgmHandler]
        exact hset orig _ (notRedundant_mcastTvlvFlagsGet _ _)
  | free orig =>
    rw [mcastStep]
    cases hget : s.origs.get orig with
    | none => exact ⟨hkeys, hlists, hflags⟩
    | some o =>
      refine ⟨(List.filter_sublist.map _).nodup hkeys, hlists.purgeOrig hkeys hget, ?_⟩
      intro j o' hj
      rw [Table.get_filter hkeys] at hj
      exact hflags j o' (Option.filter_eq_some_iff.1 hj).1

/-- Where the lists agree with flags that are not redundant, nobody is in two lists. -/
theorem McastPriv.Inv.agree {s : McastPriv} (h : s.Inv) : s.Agree := by
  obtain ⟨-, hlists, hflags⟩ := h
  refine ⟨hlists, ?_, fun orig h4 hr4 => ?_, fun orig h6 hr6 => ?_⟩
  · intro num hnum
    simp only [McastPriv.counters, List.mem_cons, List.not_mem_nil, or_false] at hnum
    rcases hnum with rfl | rfl | rfl | rfl | rfl | rfl
    · exact hlists.unsnoopables.num_nonneg
    · exact hlists.ipv4.num_nonneg
    · exact hlists.ipv6.num_nonneg
    · exact hlists.rtr4.num_nonneg
    · exact hlists.rtr6.num_nonneg
    · rw [hlists.ptype]
      exact Int.natCast_nonneg _
  · obtain ⟨o, hget, hall⟩ := (hlists.ipv4.mem orig).1 h4
    obtain ⟨o', hget', hrtr⟩ := (hlists.rtr4.mem orig).1 hr4
    obtain rfl : o = o' := Option.some.inj (hget.symm.trans hget')
    exact (notRedundant_iff.1 (hflags orig o hget)).1 hall hrtr
  · obtain ⟨o, hget, hall⟩ := (hlists.ipv6.mem orig).1 h6
    obtain ⟨o', hget', hrtr⟩ := (hlists.rtr6.mem orig).1 hr6
    obtain rfl : o = o' := Option.some.inj (hget.symm.trans hget')
    exact (notRedundant_iff.1 (hflags orig o hget)).2 hall hrtr

lemma McastPriv.inv_init : McastPriv.init.Inv := by
  have hnone : ∀ wants orig, ¬mcastLive [] wants orig := by simp [mcastLive]
  exact ⟨List.nodup_nil, ⟨.empty (hnone _), .empty (hnone _), .empty (hnone _), .empty (hnone _),
    .empty (hnone _), rfl⟩, by simp [McastPriv.init]⟩

/-- **The invariant holds** after every run. -/
theorem McastPriv.inv_final (events : List McastEvent) :
    (Run.final mcastStep .init events).Inv :=
  Run.AllSteps.invariant (P := fun _ _ => True) McastPriv.Inv (fun _ e h _ => h.step e)
    McastPriv.inv_init (.of_forall (fun _ _ => trivial) events)

/-- **Lists, counters and flags agree** in every state of every run. -/
theorem mcast_lists_agree (events : List McastEvent) :
    ∀ s ∈ Run.states mcastStep .init events, s.Agree := by
  intro s hs
  exact (Run.AllSteps.forall_mem_states (P := fun _ _ => True) McastPriv.Inv
    (fun _ e h _ => h.step e) McastPriv.inv_init (.of_forall (fun _ _ => trivial) events) s
    hs).agree

/-- Of two originators one wants all IPv4 packets and then none in particular, and the other one
goes while it wants all packets without a listener. -/
def mcastListsOps : List McastEvent :=
  [.new 1, .new 2, .tvlv 1 0 [0x02, 0, 0, 0], .tvlv 2 0 [0x01, 0, 0, 0], .tvlv 1 0 [0x38, 0, 0, 0],
    .free 2]

theorem mcast_lists_agree_ops : (Run.final mcastStep .init mcastListsOps).Agree :=
  mcast_lists_agree mcastListsOps _ (Run.final_mem_states _ _)

end Batadv
