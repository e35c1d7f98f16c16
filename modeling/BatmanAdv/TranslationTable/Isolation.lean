import BatmanAdv.TranslationTable.Find

set_option relaxedAutoImplicit false
set_option autoImplicit false

/-!
# Isolated clients (`translation-table.c`)

Frames are not delivered between two clients that are both connected by wifi, or both isolated.  A
node decides that by the flags of its own client and those of the entry of the global table, which
are the flags of all the originators that announce the client, taken together.  They are computed
when an originator is put on the list of the client; when the client is a local one at that time and
is connected by wifi, that is kept, too.  When an originator is taken off the list they stay as they
are.

## Main definitions

* `Batadv.isApIsolated`, `Batadv.transtableSearch` — `_batadv_is_ap_isolated` and
  `batadv_transtable_search`.
* `Batadv.TtGlobalEntry.isolationFlags` — the flags by which a client should be isolated.
* `Batadv.TtIsolationExact`, `Batadv.TtIsolationCovered` — frames are dropped exactly by these
  flags, or by those that are announced at least.
* `Batadv.TtEntryStep` — what a call can do to the entry of a client.

## Main results

* `Batadv.ttClientStep_entry` — every call does one of these things.
* `Batadv.tt_isolation_flags` — runs.
-/

namespace Batadv

/-! ### What is asked of the table -/

/-- `BATADV_TT_CLIENT_WIFI` and `BATADV_TT_CLIENT_ISOLA`. -/
def TT_ISOLATION_MASK : U16 := TT_CLIENT_WIFI ||| TT_CLIENT_ISOLA

/-- `_batadv_is_ap_isolated`. -/
def isApIsolated (ttLocalEntry : TtLocalEntry) (ttGlobalEntry : TtGlobalEntry) : Bool :=
  if hasFlag ttLocalEntry.flags TT_CLIENT_WIFI && hasFlag ttGlobalEntry.flags TT_CLIENT_WIFI then
    true
  -- check if the two clients are marked as isolated
  else if hasFlag ttLocalEntry.flags TT_CLIENT_ISOLA &&
      hasFlag ttGlobalEntry.flags TT_CLIENT_ISOLA then
    true
  else false

/-- `batadv_transtable_search`.  Whether AP isolation is on in a VLAN, and the best originator of an
entry (`batadv_transtable_best_orig`), are inputs. -/
def transtableSearch (vlanApIsola : U16 → Bool) (bestOrig : TtGlobalEntry → Option EthAddr)
    (tt : TtPriv) (src : Option EthAddr) (addr : EthAddr) (vid : U16) : Option EthAddr :=
  let isolating := if vlanApIsola vid then src else none
  let ttLocalEntry := isolating.bind fun src =>
    (ttLocalHashFind tt.ttLocal src vid).filter fun e => !hasFlag e.flags TT_CLIENT_PENDING
  if isolating.isSome && ttLocalEntry.isNone then none
  else
    match ttGlobalHashFind tt addr vid with
    | none => none
    | some e => if ttLocalEntry.any fun l => isApIsolated l e then none else bestOrig e

/-! ### What is promised -/

/-- The flags that the originators of a client announce, taken together. -/
def TtGlobalEntry.announced (e : TtGlobalEntry) : U16 :=
  e.origList.foldl (fun flags o => flags ||| o.flags.setWidth 16) 0

/-- The flags by which a client should be isolated: those that its originators announce, and if it
was connected to this node by wifi when it was announced, that it was. -/
def TtGlobalEntry.isolationFlags (wifi : Bool) (e : TtGlobalEntry) : U16 :=
  (e.announced ||| if wifi then TT_CLIENT_WIFI else 0) &&& TT_ISOLATION_MASK

/-- Whether flags of two clients isolate them from each other. -/
def isolatedBy (flags flags' : U16) : Bool :=
  (hasFlag flags TT_CLIENT_WIFI && hasFlag flags' TT_CLIENT_WIFI) ||
    (hasFlag flags TT_CLIENT_ISOLA && hasFlag flags' TT_CLIENT_ISOLA)

/-- **The isolation of a client follows the announcements**: the flags of its entry do, and the
frames from a local client that are dropped are those between two clients that the announcements
isolate. -/
structure TtIsolationExact (addr : EthAddr) (vid : U16) (wifi : Bool) (tt : TtPriv) : Prop where
  flags : ∀ e, ttGlobalHashFind tt addr vid = some e →
    e.flags &&& TT_ISOLATION_MASK = e.isolationFlags wifi
  isolated : ∀ e, ttGlobalHashFind tt addr vid = some e → ∀ l : TtLocalEntry,
    isApIsolated l e = isolatedBy l.flags (e.isolationFlags wifi)
  search : ∀ e, ttGlobalHashFind tt addr vid = some e → ∀ vlanApIsola, vlanApIsola vid = true →
    ∀ bestOrig src l, ttLocalHashFind tt.ttLocal src vid = some l →
      hasFlag l.flags TT_CLIENT_PENDING = false →
      transtableSearch vlanApIsola bestOrig tt (some src) addr vid =
        if isolatedBy l.flags (e.isolationFlags wifi) then none else bestOrig e

/-- **The announcements isolate a client at least**: no frame is delivered between two clients that
they isolate. -/
def TtIsolationCovered (addr : EthAddr) (vid : U16) (tt : TtPriv) : Prop :=
  ∀ e, ttGlobalHashFind tt addr vid = some e → ∀ vlanApIsola, vlanApIsola vid = true →
    ∀ bestOrig src l, ttLocalHashFind tt.ttLocal src vid = some l →
      isolatedBy l.flags e.announced = true →
      transtableSearch vlanApIsola bestOrig tt (some src) addr vid = none

/-! ### A client in the course of time -/

/-- The tables, and whether a client was connected to this node by wifi when it was announced. -/
structure TtClientState where
  tt : TtPriv
  wifi : Bool

/-- Whether a client is a local one that is connected by wifi. -/
def ttLocalWifi (tt : TtPriv) (addr : EthAddr) (vid : U16) : Bool :=
  (ttLocalHashFind tt.ttLocal addr vid).any fun e => hasFlag e.flags TT_CLIENT_WIFI

/-- Whether the client was connected by wifi when it was announced, after a call. -/
def ttWifiKept (addr : EthAddr) (vid : U16) (s : TtClientState) (c : TtGlobalCall) : Bool :=
  match c.op with
  | .add orig addr' vid' flags _ =>
    if ¬ (addr' = addr ∧ vid' = vid ∧ (ttOrigHashFind s.tt orig).isSome = true) then s.wifi
    else if hasFlag flags TT_CLIENT_TEMP &&
        ((ttLocalHashFind s.tt.ttLocal addr vid).any fun e => !hasFlag e.flags TT_CLIENT_NEW) then
      s.wifi
    else
      match ttGlobalHashFind s.tt addr vid with
      | none => ttLocalWifi s.tt addr vid
      | some e =>
        if hasFlag flags TT_CLIENT_TEMP then
          if !hasFlag e.flags TT_CLIENT_TEMP then s.wifi
          -- the originator has announced the client before
          else if (e.origEntryFind orig).isSome then s.wifi || ttLocalWifi s.tt addr vid
          else ttLocalWifi s.tt addr vid
        else ttLocalWifi s.tt addr vid
  | _ => s.wifi

/-- A call, with the client in view. -/
def ttClientStep (msecsToJiffies : ℕ → Jiffies) (addr : EthAddr) (vid : U16) (s : TtClientState)
    (c : TtGlobalCall) : TtClientState where
  tt := ttGlobalStep msecsToJiffies s.tt c
  wifi := ttWifiKept addr vid s c

/-- The originator that a call takes off the list of a client. -/
def ttDeletes (addr : EthAddr) (vid : U16) (tt : TtPriv) (c : TtGlobalCall) : Option EthAddr :=
  match c.op with
  | .del orig addr' vid' roaming =>
    if addr' = addr ∧ vid' = vid ∧
        ¬ (roaming = true ∧ (ttLocalHashFind tt.ttLocal addr vid).isSome = true) then some orig
    else none
  | .delOrig orig matchVid => if matchVid.all fun vid' => vid == vid' then some orig else none
  | _ => none

/-- The entry without an originator. -/
def TtGlobalEntry.without (e : TtGlobalEntry) (orig : EthAddr) : TtGlobalEntry :=
  { e with origList := e.origList.filter fun o => !(o.origNode == orig) }

/-- **An originator that is taken off the list takes no flag with it**, if others stay. -/
def TtFlagsStay (addr : EthAddr) (vid : U16) (s : TtClientState) (c : TtGlobalCall) : Prop :=
  ∀ e, ttGlobalHashFind s.tt addr vid = some e → ∀ orig, ttDeletes addr vid s.tt c = some orig →
    (e.without orig).origList ≠ [] →
      (e.without orig).isolationFlags s.wifi = e.isolationFlags s.wifi

/-- **What a call can do to the entry of a client**, where `del` is the originator that it takes off
the list. -/
inductive TtEntryStep (wifi : Bool) (del : Option EthAddr) (wifi' : Bool) :
    Option TtGlobalEntry → Option TtGlobalEntry → Prop
  | gone (e : Option TtGlobalEntry)
      (hdel : ∀ d, e = some d → ∀ orig, del = some orig → (d.without orig).origList = []) :
      TtEntryStep wifi del wifi' e none
  | kept (e e' : TtGlobalEntry) (localWifi : Bool)
      (hdel : ∀ orig, del = some orig → (e.without orig).origList = [])
      (hlist : e'.origList = e.origList) (hwifi : wifi' = (wifi || localWifi))
      (hflags : e'.flags &&& TT_ISOLATION_MASK =
        (e.flags ||| if localWifi then TT_CLIENT_WIFI else 0) &&& TT_ISOLATION_MASK) :
      TtEntryStep wifi del wifi' (some e) (some e')
  | announced (e : Option TtGlobalEntry) (e' : TtGlobalEntry) (hdel : del = none)
      (hflags : e'.flags &&& TT_ISOLATION_MASK = e'.isolationFlags wifi') :
      TtEntryStep wifi del wifi' e (some e')
  | deleted (e e' : TtGlobalEntry) (orig : EthAddr) (hdel : del = some orig)
      (hne : (e.without orig).origList ≠ []) (hlist : e'.origList = (e.without orig).origList)
      (hwifi : wifi' = wifi) (hflags : e'.flags = e.flags) :
      TtEntryStep wifi del wifi' (some e) (some e')

/-- Nothing happens to the entry. -/
lemma TtEntryStep.unchanged (wifi : Bool) (e : Option TtGlobalEntry) {d : Option EthAddr}
    (hdel : ∀ c, e = some c → ∀ orig, d = some orig → (c.without orig).origList = []) :
    TtEntryStep wifi d wifi e e := by
  cases e with
  | none => exact .gone none hdel
  | some e => exact .kept e e false (hdel e rfl) rfl (Bool.or_false _).symm (by simp)

/-! ### Flags -/

/-- Flags that are set together are those that are set in one or the other. -/
lemma hasFlag_or_eq {w : ℕ} (flags flags' flag : BitVec w) :
    hasFlag (flags ||| flags') flag = (hasFlag flags flag || hasFlag flags' flag) := by
  rw [Bool.eq_iff_iff, Bool.or_eq_true, hasFlag, hasFlag, hasFlag, bne_iff_ne, bne_iff_ne,
    bne_iff_ne, BitVec.and_or_distrib_right]
  exact (not_congr BitVec.or_eq_zero_iff).trans not_and_or

/-- A flag of a mask is not lost by the mask. -/
lemma hasFlag_and_mask {w : ℕ} {flag mask : BitVec w} (h : mask &&& flag = flag)
    (flags : BitVec w) : hasFlag (flags &&& mask) flag = hasFlag flags flag := by
  rw [hasFlag, hasFlag, BitVec.and_assoc, h]

/-- The flag of wifi that a client had is added to the others. -/
lemma or_and_wifi (flags localFlags : U16) :
    flags ||| (localFlags &&& TT_CLIENT_WIFI) =
      flags ||| if hasFlag localFlags TT_CLIENT_WIFI then TT_CLIENT_WIFI else 0 := by
  have hbit : localFlags &&& TT_CLIENT_WIFI =
      if localFlags.getLsbD 4 then TT_CLIENT_WIFI else 0 := BitVec.and_twoPow localFlags 4
  rw [hasFlag, hbit]
  cases localFlags.getLsbD 4 <;> rfl

/-- Whether two clients are isolated depends on the flags for that. -/
lemma isolatedBy_mask (flags flags' : U16) :
    isolatedBy flags (flags' &&& TT_ISOLATION_MASK) = isolatedBy flags flags' := by
  rw [isolatedBy, isolatedBy, hasFlag_and_mask (by decide), hasFlag_and_mask (by decide)]

/-- `_batadv_is_ap_isolated` looks at the flags of the entries. -/
lemma isApIsolated_eq (l : TtLocalEntry) (e : TtGlobalEntry) :
    isApIsolated l e = isolatedBy l.flags (e.flags &&& TT_ISOLATION_MASK) := by
  rw [isolatedBy_mask, isApIsolated, isolatedBy]
  split_ifs with hwifi hisola <;> simp_all

/-- The flags that are announced are those of an originator. -/
lemma TtGlobalEntry.hasFlag_announced (e : TtGlobalEntry) (flag : U16) :
    hasFlag e.announced flag = e.origList.any fun o => hasFlag (o.flags.setWidth 16) flag := by
  have hfold : ∀ (l : List TtOrigListEntry) (flags : U16),
      hasFlag (l.foldl (fun flags o => flags ||| o.flags.setWidth 16) flags) flag =
        (hasFlag flags flag || l.any fun o => hasFlag (o.flags.setWidth 16) flag) := by
    intro l
    induction l with
    | nil => intro flags; simp
    | cons o l ih => intro flags; rw [List.foldl_cons, ih, hasFlag_or_eq, List.any_cons,
        Bool.or_assoc]
  have hzero : hasFlag (0 : U16) flag = false := by simp [hasFlag]
  rw [announced, hfold, hzero, Bool.false_or]

/-- The flags of the entry after `batadv_tt_global_sync_flags`. -/
lemma TtGlobalEntry.syncFlags_and_mask (e : TtGlobalEntry) :
    e.syncFlags.flags &&& TT_ISOLATION_MASK = e.announced &&& TT_ISOLATION_MASK := by
  have hrest : e.flags &&& ~~~TT_SYNC_MASK &&& TT_ISOLATION_MASK = 0 := by
    rw [BitVec.and_assoc]
    exact BitVec.and_zero
  have hsplit : e.syncFlags.flags &&& TT_ISOLATION_MASK = e.announced &&& TT_ISOLATION_MASK |||
      e.flags &&& ~~~TT_SYNC_MASK &&& TT_ISOLATION_MASK := BitVec.and_or_distrib_right ..
  rw [hsplit, hrest]
  exact BitVec.or_zero

/-! ### What the functions do to the entry of a client -/

section Functions

variable {j : Jiffies} {n : EthAddr → U16 → ℕ} {tt tt' : TtPriv} {addr : EthAddr} {vid : U16}
  {e : TtGlobalEntry}

lemma TtSameTables.localWifi (h : TtSameTables tt tt') (addr : EthAddr) (vid : U16) :
    ttLocalWifi tt' addr vid = ttLocalWifi tt addr vid := by
  rw [ttLocalWifi, h.ttLocal, ttLocalWifi]

/-- **The flags of an entry are those of its originators** after one was put on the list. -/
lemma ttGlobalOrigEntryAdd_synced (tt : TtPriv) (e : TtGlobalEntry) (orig : EthAddr)
    (ttvn flags : U8) :
    let added := ttGlobalOrigEntryAdd (.plain j n) tt e orig ttvn flags
    TtSameTables tt added.1 ∧ added.2.key = e.key ∧
      added.2.flags &&& TT_ISOLATION_MASK = added.2.announced &&& TT_ISOLATION_MASK := by
  unfold ttGlobalOrigEntryAdd
  cases e.origEntryFind orig with
  | some o => exact ⟨.refl tt, rfl, TtGlobalEntry.syncFlags_and_mask _⟩
  | none => exact ⟨⟨rfl, rfl⟩, rfl, TtGlobalEntry.syncFlags_and_mask _⟩

/-- The end of an addition adds the flag that the local client has. -/
lemma ttGlobalAddRemoveLocal_entry (env : TtEnv) (hkey : e.key = (addr, vid))
    (huni : isMulticastEtherAddr addr = false)
    (hfind : (ttGlobalHashFind tt addr vid).isSome = true) (flags : U16) :
    ∃ e', ttGlobalHashFind (ttGlobalAddRemoveLocal env tt e flags) addr vid = some e' ∧
      e'.origList = e.origList ∧ e'.flags &&& TT_ISOLATION_MASK =
        (e.flags ||| if ttLocalWifi tt addr vid then TT_CLIENT_WIFI else 0) &&&
          TT_ISOLATION_MASK := by
  obtain ⟨rfl, rfl⟩ := Prod.mk.inj hkey
  have hwifi : hasFlag (((ttLocalHashFind tt.ttLocal e.addr e.vid).map
      TtLocalEntry.flags).getD 0) TT_CLIENT_WIFI = ttLocalWifi tt e.addr e.vid := by
    rw [ttLocalWifi]
    cases ttLocalHashFind tt.ttLocal e.addr e.vid <;> rfl
  unfold ttGlobalAddRemoveLocal
  rw [huni, if_neg Bool.false_ne_true, ← hwifi, ← or_and_wifi]
  dsimp only
  -- the client is not in the local table any more
  generalize ttLocalRemove env.allocChange tt.ttLocal e.addr e.vid
    (hasFlag flags TT_CLIENT_ROAM) = ttLocal
  generalize e.flags ||| (((ttLocalHashFind tt.ttLocal e.addr e.vid).map
    TtLocalEntry.flags).getD 0 &&& TT_CLIENT_WIFI) = newFlags
  split_ifs
  · refine ⟨_, ttGlobalHashFind_put_self rfl hfind, rfl, ?_⟩
    dsimp only
    rw [BitVec.and_assoc]
    rfl
  · exact ⟨_, ttGlobalHashFind_put_self rfl hfind, rfl, rfl⟩

lemma ttGlobalAddRemoveLocal_find_of_ne (env : TtEnv) (hkey : e.key ≠ (addr, vid)) (flags : U16) :
    ttGlobalHashFind (ttGlobalAddRemoveLocal env tt e flags) addr vid =
      ttGlobalHashFind tt addr vid := by
  unfold ttGlobalAddRemoveLocal
  dsimp only
  split_ifs
  · exact ttGlobalHashFind_put_of_ne hkey
  · exact ttGlobalHashFind_put_of_ne hkey
  · exact ttGlobalHashFind_put_of_ne hkey

/-- **A client that is announced** has the flags of the announcements, and the one that it had as a
local client. -/
lemma ttGlobalAddOrigEntry_entry (hkey : e.key = (addr, vid))
    (huni : isMulticastEtherAddr addr = false)
    (hfind : (ttGlobalHashFind tt addr vid).isSome = true) (orig : EthAddr) (flags : U16)
    (ttvn : U8) :
    ∃ e', ttGlobalHashFind (ttGlobalAddOrigEntry (.plain j n) tt e orig flags ttvn) addr vid =
        some e' ∧
      e'.flags &&& TT_ISOLATION_MASK = e'.isolationFlags (ttLocalWifi tt addr vid) := by
  obtain ⟨hsame, hkey', hsynced⟩ := ttGlobalOrigEntryAdd_synced (j := j) (n := n) tt e orig ttvn
    ((flags &&& TT_SYNC_MASK).setWidth 8)
  unfold ttGlobalAddOrigEntry
  generalize ttGlobalOrigEntryAdd (.plain j n) tt e orig ttvn
    ((flags &&& TT_SYNC_MASK).setWidth 8) = added at hsame hkey' hsynced
  obtain ⟨tt', e'⟩ := added
  dsimp only at hsame hkey' hsynced ⊢
  obtain ⟨e'', hfind'', hlist, hflags⟩ := ttGlobalAddRemoveLocal_entry (.plain j n)
    (hkey'.trans hkey) huni (by rw [hsame.find, hfind]) flags
  refine ⟨e'', hfind'', ?_⟩
  have hannounced : e''.announced = e'.announced := by
    rw [TtGlobalEntry.announced, hlist, TtGlobalEntry.announced]
  rw [hflags, hsame.localWifi, TtGlobalEntry.isolationFlags, hannounced,
    BitVec.and_or_distrib_right, hsynced, ← BitVec.and_or_distrib_right]

lemma ttGlobalAddOrigEntry_find_of_ne (hkey : e.key ≠ (addr, vid)) (orig : EthAddr) (flags : U16)
    (ttvn : U8) :
    ttGlobalHashFind (ttGlobalAddOrigEntry (.plain j n) tt e orig flags ttvn) addr vid =
      ttGlobalHashFind tt addr vid := by
  obtain ⟨hsame, hkey', -⟩ := ttGlobalOrigEntryAdd_synced (j := j) (n := n) tt e orig ttvn
    ((flags &&& TT_SYNC_MASK).setWidth 8)
  unfold ttGlobalAddOrigEntry
  dsimp only
  rw [ttGlobalAddRemoveLocal_find_of_ne _ (by rw [hkey']; exact hkey), hsame.find]

/-- **What an addition does**: nothing; or it makes an entry, and puts the originator on its list;
or it only ends as an addition does; or it puts the originator on the list of an entry that there
is. -/
lemma ttGlobalAdd_cases (tt : TtPriv) {orig : EthAddr}
    (hknown : (ttOrigHashFind tt orig).isSome = true) (addr : EthAddr) (vid flags : U16)
    (ttvn : U8) (wifi : Bool) :
    let tt' := (ttGlobalAdd (.plain j n) tt orig addr vid flags ttvn).1
    let wifi' := ttWifiKept addr vid ⟨tt, wifi⟩ ⟨j, n, .add orig addr vid flags ttvn⟩
    (tt' = tt ∧ wifi' = wifi) ∨
    (∃ d, ttGlobalHashFind tt addr vid = none ∧ d.key = (addr, vid) ∧
      tt' = ttGlobalAddOrigEntry (.plain j n)
        { tt with
          globalHash :=
            tt.globalHash.take (n addr vid) ++ d :: tt.globalHash.drop (n addr vid) } d orig flags
        ttvn ∧
      wifi' = ttLocalWifi tt addr vid) ∨
    (∃ e, ttGlobalHashFind tt addr vid = some e ∧
      tt' = ttGlobalAddRemoveLocal (.plain j n) tt e flags ∧
      wifi' = (wifi || ttLocalWifi tt addr vid)) ∨
    ∃ e tt₁ e₁, ttGlobalHashFind tt addr vid = some e ∧ TtSameTables tt tt₁ ∧ e₁.key = e.key ∧
      tt' = ttGlobalAddOrigEntry (.plain j n) tt₁ e₁ orig flags ttvn ∧
      wifi' = ttLocalWifi tt addr vid := by
  have hclient : ¬¬(addr = addr ∧ vid = vid ∧ (ttOrigHashFind tt orig).isSome = true) :=
    not_not_intro ⟨rfl, rfl, hknown⟩
  have hbackbone : ¬ (TtEnv.plain j n).isBackboneGwOrig orig vid = true := Bool.false_ne_true
  dsimp only
  rw [ttGlobalAdd, ttWifiKept]
  dsimp only
  rw [if_neg hclient, if_neg hbackbone]
  split
  · exact .inl ⟨rfl, rfl⟩
  cases hfind : ttGlobalHashFind tt addr vid with
  | none =>
    have halloc : (!(TtEnv.plain j n).allocEntry addr vid) = false := rfl
    dsimp only
    rw [halloc, if_neg Bool.false_ne_true]
    exact .inr (.inl ⟨ttGlobalNewEntry (.plain j n) addr vid flags, rfl, rfl, rfl, rfl⟩)
  | some e =>
    dsimp only
    split
    · split
      · exact .inl ⟨rfl, rfl⟩
      split
      · exact .inr (.inr (.inl ⟨e, rfl, rfl, rfl⟩))
      · have hsame := ttGlobalDelOrigEntries_same (.plain j n) (fun _ => true) tt e
        exact .inr (.inr (.inr ⟨e, (ttGlobalDelOrigList (.plain j n) tt e).1,
          (ttGlobalDelOrigList (.plain j n) tt e).2, rfl, hsame, rfl, rfl, rfl⟩))
    · obtain ⟨hsame, hkey⟩ := ttGlobalAddExisting_same (.plain j n) tt e flags
      exact .inr (.inr (.inr ⟨e, (ttGlobalAddExisting (.plain j n) tt e flags).1,
        (ttGlobalAddExisting (.plain j n) tt e flags).2, rfl, hsame, hkey, rfl, rfl⟩))

/-- Additions of other clients. -/
lemma ttGlobalAdd_find_of_ne {addr' : EthAddr} {vid' : U16} (hne : (addr', vid') ≠ (addr, vid))
    {orig : EthAddr} (hknown : (ttOrigHashFind tt orig).isSome = true) (flags : U16) (ttvn : U8) :
    ttGlobalHashFind (ttGlobalAdd (.plain j n) tt orig addr' vid' flags ttvn).1 addr vid =
      ttGlobalHashFind tt addr vid := by
  obtain ⟨htt, -⟩ | ⟨d, hfind, hkey, htt, -⟩ | ⟨e, hfind, htt, -⟩ |
      ⟨e, tt₁, e₁, hfind, hsame, hkey, htt, -⟩ :=
    ttGlobalAdd_cases (j := j) (n := n) tt hknown addr' vid' flags ttvn false
  · rw [htt]
  · obtain ⟨rfl, rfl⟩ := Prod.mk.inj hkey
    rw [htt, ttGlobalAddOrigEntry_find_of_ne hne, ttGlobalHashFind_insert _ hfind]
    exact if_neg hne
  · rw [htt, ttGlobalAddRemoveLocal_find_of_ne _ (by rw [key_of_find hfind]; exact hne)]
  · rw [htt, ttGlobalAddOrigEntry_find_of_ne (by rw [hkey, key_of_find hfind]; exact hne),
      hsame.find]

/-- **The client is announced.** -/
lemma ttGlobalAdd_entry (huni : isMulticastEtherAddr addr = false) {orig : EthAddr}
    (hknown : (ttOrigHashFind tt orig).isSome = true) (flags : U16) (ttvn : U8) (wifi : Bool) :
    TtEntryStep wifi none (ttWifiKept addr vid ⟨tt, wifi⟩ ⟨j, n, .add orig addr vid flags ttvn⟩)
      (ttGlobalHashFind tt addr vid)
      (ttGlobalHashFind (ttGlobalAdd (.plain j n) tt orig addr vid flags ttvn).1 addr vid) := by
  obtain ⟨htt, hwifi⟩ | ⟨d, hfind, hkey, htt, hwifi⟩ | ⟨e, hfind, htt, hwifi⟩ |
      ⟨e, tt₁, e₁, hfind, hsame, hkey, htt, hwifi⟩ :=
    ttGlobalAdd_cases (j := j) (n := n) tt hknown addr vid flags ttvn wifi
  · rw [htt, hwifi]
    exact .unchanged _ _ nofun
  · obtain ⟨rfl, rfl⟩ := Prod.mk.inj hkey
    have hinsert := (ttGlobalHashFind_insert (n d.addr d.vid) hfind).trans (if_pos hkey)
    obtain ⟨e', hfind', hflags⟩ := ttGlobalAddOrigEntry_entry (j := j) (n := n) hkey huni
      (Option.isSome_of_eq_some hinsert) orig flags ttvn
    rw [htt, hfind', hwifi]
    exact .announced _ e' rfl hflags
  · obtain ⟨e', hfind', hlist, hflags⟩ := ttGlobalAddRemoveLocal_entry (.plain j n)
      (key_of_find hfind) huni (Option.isSome_of_eq_some hfind) flags
    rw [htt, hfind', hfind, hwifi]
    exact .kept e e' _ nofun hlist rfl hflags
  · obtain ⟨e', hfind', hflags⟩ := ttGlobalAddOrigEntry_entry (j := j) (n := n)
      (hkey.trans (key_of_find hfind)) huni
      (Option.isSome_of_eq_some ((hsame.find addr vid).trans hfind)) orig flags ttvn
    rw [hsame.localWifi] at hflags
    rw [htt, hfind', hwifi]
    exact .announced _ e' rfl hflags

/-- An entry loses an originator, or is taken out of the table with the last one. -/
lemma TtEntryStep.delOrigNode (tt : TtPriv) (wifi : Bool) (e : TtGlobalEntry) (orig : EthAddr)
    {e' : Option TtGlobalEntry}
    (he' : e' = if (ttGlobalDelOrigNode (.plain j n) tt e orig).2.origList.isEmpty then none
      else some (ttGlobalDelOrigNode (.plain j n) tt e orig).2) :
    TtEntryStep wifi (some orig) wifi (some e) e' := by
  have hlist : (ttGlobalDelOrigNode (.plain j n) tt e orig).2.origList =
      (e.without orig).origList := rfl
  rw [he', hlist]
  split_ifs with hempty
  · refine .gone _ fun d hd orig' horig' => ?_
    cases hd
    cases horig'
    exact List.isEmpty_iff.1 hempty
  · exact .deleted e _ orig rfl (fun hnil => hempty (List.isEmpty_iff.2 hnil)) rfl rfl rfl

/-- Deletions of other clients. -/
lemma ttGlobalDel_find_of_ne {addr' : EthAddr} {vid' : U16} (hne : (addr', vid') ≠ (addr, vid))
    (orig : EthAddr) (roaming : Bool) :
    ttGlobalHashFind (ttGlobalDel (.plain j n) tt orig addr' vid' roaming) addr vid =
      ttGlobalHashFind tt addr vid := by
  unfold ttGlobalDel
  cases hfind : ttGlobalHashFind tt addr' vid' with
  | none => rfl
  | some e =>
    have hkey : e.key ≠ (addr, vid) := by rw [key_of_find hfind]; exact hne
    have hdel := fun p => (ttGlobalDelOrigEntries_same (.plain j n) p tt e).find addr vid
    dsimp only
    have hput : ttGlobalHashFind (ttGlobalPut (ttGlobalDelOrigNode (.plain j n) tt e orig).1
        (ttGlobalDelOrigNode (.plain j n) tt e orig).2) addr vid = ttGlobalHashFind
          (ttGlobalDelOrigNode (.plain j n) tt e orig).1 addr vid :=
      ttGlobalHashFind_put_of_ne hkey
    split
    · split
      · exact (ttGlobalHashFind_free_of_ne hkey).trans (hdel _)
      · exact hput.trans (hdel _)
    split
    · exact (ttGlobalHashFind_free_of_ne hkey).trans (hdel _)
    · unfold ttGlobalDelRoaming
      dsimp only
      split
      · exact ttGlobalHashFind_put_of_ne hkey
      · exact hput.trans (hdel _)

/-- **The client is deleted.** -/
lemma ttGlobalDel_entry (wifi : Bool) (orig addr' : EthAddr) (vid' : U16) (roaming : Bool) :
    TtEntryStep wifi (ttDeletes addr vid tt ⟨j, n, .del orig addr' vid' roaming⟩) wifi
      (ttGlobalHashFind tt addr vid)
      (ttGlobalHashFind (ttGlobalDel (.plain j n) tt orig addr' vid' roaming) addr vid) := by
  by_cases hne : (addr', vid') ≠ (addr, vid)
  · rw [ttGlobalDel_find_of_ne hne]
    refine .unchanged wifi _ fun _ _ orig' horig' => ?_
    rw [ttDeletes] at horig'
    dsimp only at horig'
    rw [if_neg (fun h => hne (by rw [h.1, h.2.1]))] at horig'
    cases horig'
  obtain ⟨rfl, rfl⟩ := Prod.mk.inj (not_not.1 hne)
  unfold ttGlobalDel ttDeletes
  cases hfind : ttGlobalHashFind tt addr' vid' with
  | none =>
    dsimp only
    rw [hfind]
    exact .gone none nofun
  | some e =>
    have hkey := key_of_find hfind
    have hsome : ∀ p, (ttGlobalHashFind (ttGlobalDelOrigEntries (.plain j n) p tt e).1
        addr' vid').isSome = true := fun p => by
      rw [(ttGlobalDelOrigEntries_same (.plain j n) p tt e).find, hfind]
      rfl
    have haddr : e.addr = addr' := congrArg Prod.fst hkey
    dsimp only
    cases roaming with
    | false =>
      rw [if_pos ⟨rfl, rfl, nofun⟩]
      refine .delOrigNode (j := j) (n := n) tt wifi e orig ?_
      rw [if_pos Bool.not_false]
      split_ifs
      · exact ttGlobalHashFind_free_self hkey
      · exact ttGlobalHashFind_put_self hkey (hsome _)
    | true =>
      cases hlocal : (ttLocalHashFind tt.ttLocal addr' vid').isSome with
      | true =>
        rw [haddr, hlocal, if_neg (fun h => h.2.2 ⟨rfl, rfl⟩)]
        rw [if_neg (by decide), if_pos rfl]
        have hgone : ttGlobalHashFind (ttGlobalFree (ttGlobalDelOrigList (.plain j n) tt e).1
            (ttGlobalDelOrigList (.plain j n) tt e).2) addr' vid' = none :=
          ttGlobalHashFind_free_self hkey
        rw [hgone]
        exact .gone _ nofun
      | false =>
        rw [haddr, hlocal, if_pos ⟨rfl, rfl, fun h => Bool.false_ne_true h.2⟩]
        rw [if_neg (by decide), if_neg Bool.false_ne_true]
        unfold ttGlobalDelRoaming
        dsimp only
        split
        · next hlast =>
          have hfind' := ttGlobalHashFind_put_self (e := { e with
            flags := e.flags ||| TT_CLIENT_ROAM, roamAt := (TtEnv.plain j n).jiffies }) hkey
            (Option.isSome_of_eq_some hfind)
          rw [hfind']
          refine .kept e _ false (fun orig' horig' => ?_) rfl (Bool.or_false wifi).symm ?_
          · cases horig'
            refine List.filter_eq_nil_iff.2 fun o ho => ?_
            simpa using List.all_eq_true.1 hlast o ho
          · dsimp only
            rw [BitVec.and_or_distrib_right, BitVec.and_or_distrib_right]
            rfl
        · next hlast =>
          have hfind' := ttGlobalHashFind_put_self
            (e := (ttGlobalDelOrigNode (.plain j n) tt e orig).2) hkey (hsome fun o => o == orig)
          refine .delOrigNode (j := j) (n := n) tt wifi e orig (hfind'.trans ?_)
          rw [if_neg]
          intro hempty
          refine hlast (List.all_eq_true.2 fun o ho => ?_)
          simpa using List.filter_eq_nil_iff.1 (List.isEmpty_iff.1 hempty) o ho

/-- **All clients of an originator are deleted.** -/
lemma ttGlobalDelOrig_entry (hnd : (tt.globalHash.map TtGlobalEntry.key).Nodup) (wifi : Bool)
    (orig : EthAddr) (matchVid : Option U16) :
    TtEntryStep wifi (ttDeletes addr vid tt ⟨j, n, .delOrig orig matchVid⟩) wifi
      (ttGlobalHashFind tt addr vid)
      (ttGlobalHashFind (ttGlobalDelOrig (.plain j n) tt orig matchVid) addr vid) := by
  have hfind' : ttGlobalHashFind (ttGlobalDelOrig (.plain j n) tt orig matchVid) addr vid =
      (ttGlobalHashFind tt addr vid).bind fun e =>
        if matchVid.all fun vid => e.vid == vid then
          if (ttGlobalDelOrigNode (.plain j n) tt e orig).2.origList.isEmpty then none
          else some (ttGlobalDelOrigNode (.plain j n) tt e orig).2
        else some e := by
    refine find_filterMap (fun d c hdc => ?_) hnd addr vid
    split at hdc
    · dsimp only at hdc
      split at hdc
      · cases hdc
      · cases hdc
        rfl
    · cases hdc
      rfl
  rw [hfind', ttDeletes]
  cases hfind : ttGlobalHashFind tt addr vid with
  | none => exact .gone none nofun
  | some e =>
    have hvid : e.vid = vid := congrArg Prod.snd (key_of_find hfind)
    dsimp only
    rw [Option.bind_some, hvid]
    split
    · exact .delOrigNode (j := j) (n := n) tt wifi e orig rfl
    · exact .unchanged wifi (some e) nofun

/-- Entries time out. -/
lemma ttGlobalPurge_entry (msecsToJiffies : ℕ → Jiffies)
    (hnd : (tt.globalHash.map TtGlobalEntry.key).Nodup) (wifi : Bool) :
    TtEntryStep wifi none wifi (ttGlobalHashFind tt addr vid)
      (ttGlobalHashFind (ttGlobalPurge msecsToJiffies (.plain j n) tt) addr vid) := by
  have hfind' : ttGlobalHashFind (ttGlobalPurge msecsToJiffies (.plain j n) tt) addr vid =
      (ttGlobalHashFind tt addr vid).bind
        (Option.guard fun e => !ttGlobalToPurge msecsToJiffies j e) := by
    rw [ttGlobalHashFind, ttGlobalPurge, ← List.filterMap_eq_filter]
    refine find_filterMap (fun d c hdc => ?_) hnd addr vid
    rw [(Option.guard_eq_some_iff.1 hdc).1]
  rw [hfind']
  cases ttGlobalHashFind tt addr vid with
  | none => exact .gone none fun _ hd => absurd hd (by simp)
  | some e =>
    rw [Option.bind_some, Option.guard]
    split
    · exact .unchanged wifi (some e) fun _ _ _ hd => absurd hd (by simp)
    · exact .gone _ fun _ _ _ hd => absurd hd (by simp)

/-- **A client appears at this node.** -/
lemma ttPrivLocalAdd_entry (wifi : Bool) (a : TtLocalAddArgs) :
    TtEntryStep wifi none wifi (ttGlobalHashFind tt addr vid)
      (ttGlobalHashFind (ttPrivLocalAdd (.plain j n) tt a) addr vid) := by
  unfold ttPrivLocalAdd
  dsimp only
  generalize hlocal : ({ tt with ttLocal := (ttLocalAdd tt.ttLocal a).1 } : TtPriv) = tt'
  have hsame : TtSameTables ⟨tt'.ttLocal, tt.globalHash, tt.origHash⟩ tt' := by
    rw [← hlocal]
    exact .refl _
  have hfind : ttGlobalHashFind tt addr vid = ttGlobalHashFind tt' addr vid :=
    (hsame.find addr vid).symm
  rw [hfind]
  have hunchanged := TtEntryStep.unchanged wifi (ttGlobalHashFind tt' addr vid) (d := none) nofun
  split
  · exact hunchanged
  cases hclient : ttGlobalHashFind tt' a.addr a.vid with
  | none => exact hunchanged
  | some e =>
    dsimp only
    split
    · exact hunchanged
    have hdel := ttGlobalDelOrigEntries_same (.plain j n) (fun _ => true) tt' e
    by_cases hkey : e.key = (addr, vid)
    · obtain ⟨haddr, hvid⟩ := Prod.mk.inj ((key_of_find hclient).symm.trans hkey)
      rw [haddr, hvid] at hclient
      split
      · have hgone : ttGlobalHashFind (ttGlobalFree (ttGlobalDelOrigList (.plain j n) tt' e).1
            (ttGlobalDelOrigList (.plain j n) tt' e).2) addr vid = none :=
          ttGlobalHashFind_free_self hkey
        rw [hgone]
        exact .gone _ nofun
      · have hfind' := ttGlobalHashFind_put_self (e := { e with
          flags := e.flags ||| TT_CLIENT_ROAM, roamAt := (TtEnv.plain j n).jiffies }) hkey
          (Option.isSome_of_eq_some hclient)
        rw [hfind', hclient]
        refine .kept e _ false nofun rfl (Bool.or_false wifi).symm ?_
        dsimp only
        rw [BitVec.and_or_distrib_right, BitVec.and_or_distrib_right]
        rfl
    · split
      · have hfree : ttGlobalHashFind (ttGlobalFree (ttGlobalDelOrigList (.plain j n) tt' e).1
            (ttGlobalDelOrigList (.plain j n) tt' e).2) addr vid = ttGlobalHashFind tt' addr vid :=
          (ttGlobalHashFind_free_of_ne hkey).trans (hdel.find addr vid)
        rw [hfree]
        exact hunchanged
      · have hput : ttGlobalHashFind (ttGlobalPut tt' { e with
            flags := e.flags ||| TT_CLIENT_ROAM, roamAt := (TtEnv.plain j n).jiffies }) addr vid =
              ttGlobalHashFind tt' addr vid := ttGlobalHashFind_put_of_ne hkey
        rw [hput]
        exact hunchanged

end Functions

/-! ### Runs -/

section Runs

variable {addr : EthAddr} {vid : U16}

/-- **A call does one of these things to the entry of the client.** -/
theorem ttClientStep_entry (msecsToJiffies : ℕ → Jiffies)
    (huni : isMulticastEtherAddr addr = false) {s : TtClientState}
    (hnd : (s.tt.globalHash.map TtGlobalEntry.key).Nodup) (c : TtGlobalCall) :
    TtEntryStep s.wifi (ttDeletes addr vid s.tt c) (ttWifiKept addr vid s c)
      (ttGlobalHashFind s.tt addr vid)
      (ttGlobalHashFind (ttGlobalStep msecsToJiffies s.tt c) addr vid) := by
  obtain ⟨tt, wifi⟩ := s
  obtain ⟨j, n, op⟩ := c
  have hunchanged := TtEntryStep.unchanged wifi (ttGlobalHashFind tt addr vid) (d := none) nofun
  cases op with
  | origNew orig =>
    have hsame : TtSameTables tt (ttOrigNew tt orig) := by
      unfold ttOrigNew
      split
      · exact .refl tt
      · exact ⟨rfl, rfl⟩
    have hfind : ttGlobalHashFind (ttGlobalStep msecsToJiffies tt ⟨j, n, .origNew orig⟩) addr vid =
        ttGlobalHashFind tt addr vid := hsame.find addr vid
    rw [hfind]
    exact hunchanged
  | add orig addr' vid' flags ttvn =>
    rw [ttGlobalStep]
    dsimp only
    split
    · next hknown =>
      by_cases hne : (addr', vid') ≠ (addr, vid)
      · rw [ttGlobalAdd_find_of_ne hne hknown, ttWifiKept]
        dsimp only
        rw [if_pos fun h => hne (by rw [h.1, h.2.1])]
        exact hunchanged
      · obtain ⟨rfl, rfl⟩ := Prod.mk.inj (not_not.1 hne)
        exact ttGlobalAdd_entry huni hknown flags ttvn wifi
    · next hknown =>
      rw [ttWifiKept]
      dsimp only
      rw [if_pos fun h => hknown h.2.2]
      exact hunchanged
  | del orig addr' vid' roaming => exact ttGlobalDel_entry wifi orig addr' vid' roaming
  | delOrig orig matchVid => exact ttGlobalDelOrig_entry hnd wifi orig matchVid
  | localAdd a => exact ttPrivLocalAdd_entry wifi a
  | purge => exact ttGlobalPurge_entry msecsToJiffies hnd wifi

variable {wifi wifi' : Bool} {del : Option EthAddr} {e e' : Option TtGlobalEntry}

/-- The announced flags are those of the list of originators. -/
lemma TtGlobalEntry.announced_congr {d d' : TtGlobalEntry} (h : d'.origList = d.origList) :
    d'.announced = d.announced := by
  rw [announced, h, announced]

/-- **The flags follow the announcements exactly if** no originator takes flags with it. -/
theorem TtEntryStep.exact_iff (h : TtEntryStep wifi del wifi' e e')
    (hbefore : ∀ d, e = some d → d.flags &&& TT_ISOLATION_MASK = d.isolationFlags wifi) :
    (∀ d, e' = some d → d.flags &&& TT_ISOLATION_MASK = d.isolationFlags wifi') ↔
      ∀ d, e = some d → ∀ orig, del = some orig → (d.without orig).origList ≠ [] →
        (d.without orig).isolationFlags wifi = d.isolationFlags wifi := by
  cases h with
  | gone e hdel =>
    refine iff_of_true nofun fun d hd orig horig hne => absurd (hdel d hd orig horig) hne
  | kept e e' localWifi hdel hlist hwifi hflags =>
    refine iff_of_true (fun d hd => ?_) fun d hd orig horig hne => ?_
    · cases hd
      have hflag : ((if wifi then TT_CLIENT_WIFI else 0) |||
          if localWifi then TT_CLIENT_WIFI else 0) = if wifi' then TT_CLIENT_WIFI else 0 := by
        rw [hwifi]
        cases wifi <;> cases localWifi <;> rfl
      rw [hflags, BitVec.and_or_distrib_right, hbefore e rfl, TtGlobalEntry.isolationFlags,
        TtGlobalEntry.isolationFlags, TtGlobalEntry.announced_congr hlist,
        ← BitVec.and_or_distrib_right, BitVec.or_assoc, hflag]
    · cases hd
      exact absurd (hdel orig horig) hne
  | announced e e' hdel hflags =>
    refine iff_of_true (fun d hd => ?_) fun d hd orig horig => ?_
    · cases hd
      exact hflags
    · rw [hdel] at horig
      cases horig
  | deleted e e' orig hdel hne hlist hwifi hflags =>
    have hsame : e'.isolationFlags wifi' = (e.without orig).isolationFlags wifi := by
      rw [TtGlobalEntry.isolationFlags, TtGlobalEntry.announced_congr hlist, hwifi,
        TtGlobalEntry.isolationFlags]
    constructor
    · intro hafter d hd orig' horig' _
      cases hd
      rw [hdel] at horig'
      cases horig'
      rw [← hsame, ← hafter e' rfl, hflags, hbefore e rfl]
    · intro hstay d hd
      cases hd
      rw [hflags, hbefore e rfl, hsame, hstay e rfl orig hdel hne]

/-- **The flags that are announced are never lost.** -/
theorem TtEntryStep.covered (h : TtEntryStep wifi del wifi' e e') {flag : U16}
    (hflag : TT_ISOLATION_MASK &&& flag = flag)
    (hbefore : ∀ d, e = some d → hasFlag d.announced flag = true → hasFlag d.flags flag = true) :
    ∀ d, e' = some d → hasFlag d.announced flag = true → hasFlag d.flags flag = true := by
  intro d hd hannounced
  rw [← hasFlag_and_mask hflag]
  cases h with
  | gone e hdel => cases hd
  | kept e e' localWifi hdel hlist hwifi hflags =>
    cases hd
    rw [TtGlobalEntry.announced_congr hlist] at hannounced
    rw [hflags, hasFlag_and_mask hflag, hasFlag_or_eq, hbefore e rfl hannounced, Bool.true_or]
  | announced e e' hdel hflags =>
    cases hd
    rw [hflags, TtGlobalEntry.isolationFlags, hasFlag_and_mask hflag, hasFlag_or_eq, hannounced,
      Bool.true_or]
  | deleted e e' orig hdel hne hlist hwifi hflags =>
    cases hd
    rw [hasFlag_and_mask hflag, hflags]
    refine hbefore e rfl ?_
    rw [TtGlobalEntry.hasFlag_announced, List.any_eq_true] at hannounced ⊢
    obtain ⟨o, ho, hoflag⟩ := hannounced
    rw [hlist] at ho
    exact ⟨o, List.mem_of_mem_filter ho, hoflag⟩

/-- What the search finds for a local client, by the flags of the entry. -/
lemma transtableSearch_eq {tt : TtPriv} {d : TtGlobalEntry}
    (hfind : ttGlobalHashFind tt addr vid = some d) {vlanApIsola : U16 → Bool}
    (hisola : vlanApIsola vid = true) (bestOrig : TtGlobalEntry → Option EthAddr) {src : EthAddr}
    {l : TtLocalEntry} (hlocal : ttLocalHashFind tt.ttLocal src vid = some l) :
    transtableSearch vlanApIsola bestOrig tt (some src) addr vid =
      if hasFlag l.flags TT_CLIENT_PENDING || isApIsolated l d then none else bestOrig d := by
  unfold transtableSearch
  dsimp only
  rw [if_pos hisola, Option.bind_some, hlocal, Option.filter_some, hfind]
  cases hasFlag l.flags TT_CLIENT_PENDING with
  | true => rfl
  | false => simp

/-- When the flags of the entry follow the announcements, so do the frames that are dropped. -/
lemma TtIsolationExact.of_flags {tt : TtPriv}
    (h : ∀ d, ttGlobalHashFind tt addr vid = some d →
      d.flags &&& TT_ISOLATION_MASK = d.isolationFlags wifi) :
    TtIsolationExact addr vid wifi tt where
  flags := h
  isolated d hd l := by rw [isApIsolated_eq, h d hd]
  search d hd vlanApIsola hisola bestOrig src l hlocal hpending := by
    rw [transtableSearch_eq hd hisola bestOrig hlocal, hpending, Bool.false_or, isApIsolated_eq,
      h d hd]

lemma ttIsolationCovered_of_flags {tt : TtPriv}
    (h : ∀ flag, TT_ISOLATION_MASK &&& flag = flag → ∀ d, ttGlobalHashFind tt addr vid = some d →
      hasFlag d.announced flag = true → hasFlag d.flags flag = true) :
    TtIsolationCovered addr vid tt := by
  intro d hd vlanApIsola hisola bestOrig src l hlocal hannounced
  have hisolated : isApIsolated l d = true := by
    rw [isApIsolated_eq, isolatedBy_mask]
    rw [isolatedBy, Bool.or_eq_true, Bool.and_eq_true, Bool.and_eq_true] at hannounced ⊢
    exact hannounced.imp (And.imp_right (h _ rfl d hd)) (And.imp_right (h _ rfl d hd))
  rw [transtableSearch_eq hd hisola bestOrig hlocal, hisolated, Bool.or_true, if_pos rfl]

/-- **The isolation of a client over a run.**  No frame is ever delivered between two clients that
the announcements isolate.  The flags of the entry are those that are announced, with the flag for
wifi of a client that was a local one when it was announced, in all states, exactly if no originator
that is taken off the list of the client takes flags with it.

**Proof sketch.** What a call can do to the entry is known; in the case of a deletion the flags stay
as they are, in the other cases they follow the announcements. -/
theorem tt_isolation_flags (msecsToJiffies : ℕ → Jiffies) (vids : List U16) (addr : EthAddr)
    (huni : isMulticastEtherAddr addr = false) (vid : U16) (calls : List TtGlobalCall) :
    (∀ s ∈ Run.states (ttClientStep msecsToJiffies addr vid) ⟨.new vids, false⟩ calls,
      TtIsolationCovered addr vid s.tt) ∧
    ((∀ s ∈ Run.states (ttClientStep msecsToJiffies addr vid) ⟨.new vids, false⟩ calls,
        TtIsolationExact addr vid s.wifi s.tt) ↔
      Run.AllSteps (ttClientStep msecsToJiffies addr vid) (TtFlagsStay addr vid)
        ⟨.new vids, false⟩ calls) := by
  have hkeys : ∀ s c, TtAccounts (fun _ => True) (TtClientState.tt s) →
      TtAccounts (fun _ => True) (ttClientStep msecsToJiffies addr vid s c).tt := fun s c h =>
    let h' := ttGlobalStep_accounts msecsToJiffies h c
    ⟨h'.keys, h'.entries, h'.vlans, h'.counts, fun _ _ => trivial⟩
  have hstart : ∀ d, ttGlobalHashFind (.new vids) addr vid ≠ some d := fun d hd => by
    have hnone : ttGlobalHashFind (.new vids) addr vid = none := rfl
    rw [hnone] at hd
    cases hd
  have htrue : Run.AllSteps (ttClientStep msecsToJiffies addr vid) (fun _ _ => True)
      ⟨.new vids, false⟩ calls := .of_forall (fun _ _ => trivial) calls
  constructor
  · intro s hs
    have hinv := htrue.forall_mem_states
      (fun s => TtAccounts (fun _ => True) s.tt ∧
        ∀ flag, TT_ISOLATION_MASK &&& flag = flag → ∀ d, ttGlobalHashFind s.tt addr vid = some d →
          hasFlag d.announced flag = true → hasFlag d.flags flag = true)
      (fun s c h _ => ⟨hkeys s c h.1, fun flag hflag =>
        (ttClientStep_entry msecsToJiffies huni h.1.keys c).covered hflag (h.2 flag hflag)⟩)
      ⟨ttAccounts_new vids, fun _ _ d hd => (hstart d hd).elim⟩ s hs
    exact ttIsolationCovered_of_flags hinv.2
  · refine Run.forall_mem_states_iff
      (fun s => TtAccounts (fun _ => True) s.tt ∧ TtIsolationExact addr vid s.wifi s.tt)
      (fun s => TtIsolationExact addr vid s.wifi s.tt) (fun _ _ => True)
      (fun s c h _ => ?_) (fun s c h _ hstay => ⟨hkeys s c h.1, ?_⟩)
      ⟨ttAccounts_new vids, .of_flags fun d hd => (hstart d hd).elim⟩
      (.of_flags fun d hd => (hstart d hd).elim) htrue
    · have hiff := (ttClientStep_entry msecsToJiffies huni h.1.keys c).exact_iff h.2.flags
      exact ⟨fun hexact => hiff.1 hexact.flags, fun hstay => .of_flags (hiff.2 hstay)⟩
    · exact .of_flags <|
        ((ttClientStep_entry msecsToJiffies huni h.1.keys c).exact_iff h.2.flags).2 hstay

/-- Two originators announce a client with the same flags, and one of them stops doing so. -/
def twoAnnouncersCalls : List TtGlobalCall :=
  [⟨0, 0, .origNew 0x020000000002⟩, ⟨0, 0, .origNew 0x020000000003⟩,
    ⟨0, 0, .add 0x020000000002 0x0200000000c1 0 TT_CLIENT_WIFI 1⟩,
    ⟨0, 0, .add 0x020000000003 0x0200000000c1 0 TT_CLIENT_WIFI 1⟩,
    ⟨0, 0, .del 0x020000000002 0x0200000000c1 0 false⟩]

/-- The flags of the client are those of the other originator, at the end. -/
theorem tt_isolation_flags_two_announcers :
    let s := Run.final (ttClientStep (fun n => BitVec.ofNat 64 n) 0x0200000000c1 0)
      ⟨.new [0], false⟩ twoAnnouncersCalls
    TtIsolationCovered 0x0200000000c1 0 s.tt ∧
      TtIsolationExact 0x0200000000c1 0 s.wifi s.tt := by
  obtain ⟨hcovered, hexact⟩ := tt_isolation_flags (fun n => BitVec.ofNat 64 n) [0]
    0x0200000000c1 (by decide) 0 twoAnnouncersCalls
  refine ⟨hcovered _ (Run.final_mem_states _ _), hexact.2 ?_ _ (Run.final_mem_states _ _)⟩
  refine ⟨fun _ _ _ h => ?_, fun _ _ _ h => ?_, fun _ _ _ h => ?_, fun _ _ _ h => ?_,
    fun e he orig h _ => ?_, trivial⟩
  · cases h
  · cases h
  · cases h
  · cases h
  · cases h
    cases he
    decide

/-- A wifi client of this node roams away, and its new node announces it without flags for now. -/
def roamingWifiCalls : List TtGlobalCall :=
  [⟨0, 0, .origNew 0x020000000002⟩,
    ⟨0, 0, .localAdd ⟨0x0200000000c1, 0, 0, true, 0, 0, 0, 0x020000000001, 1500, 0, true,
      fun _ => true⟩⟩,
    ⟨0, 0, .add 0x020000000002 0x0200000000c1 0 TT_CLIENT_ROAM 1⟩]

/-- The entry of the client has a flag that nobody has announced. -/
theorem tt_isolation_local_wifi_kept :
    let tt := Run.final (ttGlobalStep fun n => BitVec.ofNat 64 n) (.new [0]) roamingWifiCalls
    (ttGlobalHashFind tt 0x0200000000c1 0).any fun e =>
      hasFlag e.flags TT_CLIENT_WIFI && e.announced == 0 := by
  decide

end Runs

end Batadv
