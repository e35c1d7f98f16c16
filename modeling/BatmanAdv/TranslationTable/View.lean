import BatmanAdv.TranslationTable.Changes
import BatmanAdv.TranslationTable.Find
import BatmanAdv.TranslationTable.Response

set_option relaxedAutoImplicit false
set_option autoImplicit false

/-!
# What a node knows of the clients of an originator (`translation-table.c`)

A table of clients gives, for a client and its VLAN, the flags that are kept in sync.  The view of
an originator is such a table: its clients in the global table, without those that roam or are
temporary.  Adding a client and deleting one change the view at that client and nowhere else, and
the checksums are those of the view.

## Main definitions

* `Batadv.TtTable`, `Batadv.ttGlobalView` — tables of clients, and the view of an originator.
* `Batadv.TtCrc` — the checksum of a table in a VLAN.

## Main results

* `Batadv.ttGlobalAdd_found`, `Batadv.ttGlobalDel_found` — the entries that are found after a client
  was added or deleted.
* `Batadv.ttGlobalView_add`, `Batadv.ttGlobalView_del` — the view after that.
* `Batadv.ttCrc_globalCrc` — the checksums are those of the view.
-/

namespace Batadv

/-! ### Tables of clients -/

/-- A table of clients: the flags that are kept in sync. -/
abbrev TtTable := EthAddr × U16 → Option U8

/-- **The view of an originator**: its clients that are neither roaming nor temporary. -/
def ttGlobalView (tt : TtPriv) (orig : EthAddr) : TtTable := fun key =>
  (ttGlobalHashFind tt key.1 key.2).bind (ttGlobalValid orig)

/-- There are clients in the VLAN. -/
def TtTable.Serves (T : TtTable) (vid : U16) : Prop := ∃ addr, (T (addr, vid)).isSome = true

/-- **The checksum of a table in a VLAN**: the exclusive or over its clients, each taken once. -/
def TtCrc (T : TtTable) (vid : U16) (crc : U32) : Prop :=
  ∃ clients : List (EthAddr × U8), (clients.map Prod.fst).Nodup ∧
    (∀ addr flags, (addr, flags) ∈ clients ↔ T (addr, vid) = some flags) ∧
    crc = Checksum.xorSum (fun c => ttEntryCrc vid c.2 c.1) clients

/-- A table has one checksum in a VLAN. -/
theorem TtCrc.unique {T : TtTable} {vid : U16} {crc crc' : U32} (h : TtCrc T vid crc)
    (h' : TtCrc T vid crc') : crc = crc' := by
  obtain ⟨clients, hnd, hmem, rfl⟩ := h
  obtain ⟨clients', hnd', hmem', rfl⟩ := h'
  have hperm : clients.Perm clients' :=
    (List.perm_ext_iff_of_nodup (List.Nodup.of_map Prod.fst hnd)
      (List.Nodup.of_map Prod.fst hnd')).mpr fun c => (hmem c.1 c.2).trans (hmem' c.1 c.2).symm
  exact Checksum.xorSum_perm _ hperm

/-- The checksum in a VLAN depends on the clients there only. -/
lemma TtCrc.congr {T T' : TtTable} {vid : U16} {crc : U32} (h : TtCrc T vid crc)
    (hsame : ∀ addr, T' (addr, vid) = T (addr, vid)) : TtCrc T' vid crc := by
  obtain ⟨clients, hnd, hmem, hcrc⟩ := h
  exact ⟨clients, hnd, fun addr flags => by rw [hmem, hsame], hcrc⟩

/-! ### Flags -/

/-- No originator of the entry has the roaming flag among its flags. -/
def TtGlobalEntry.FlagsOk (e : TtGlobalEntry) : Prop :=
  ∀ o ∈ e.origList, o.flags.getLsbD 1 = false

/-- The entry counts: it is neither roaming nor temporary. -/
def TtGlobalEntry.Counts (e : TtGlobalEntry) : Prop :=
  hasFlag e.flags TT_CLIENT_ROAM = false ∧ hasFlag e.flags TT_CLIENT_TEMP = false

instance (e : TtGlobalEntry) : Decidable e.Counts := inferInstanceAs (Decidable (_ ∧ _))

lemma hasFlag_roam (flags : U16) : hasFlag flags TT_CLIENT_ROAM = flags.getLsbD 1 := by
  have hbit : TT_CLIENT_ROAM = BitVec.twoPow 16 1 := by decide
  rw [hasFlag, hbit, BitVec.and_twoPow]
  cases flags.getLsbD 1 <;> rfl

lemma hasFlag_temp (flags : U16) : hasFlag flags TT_CLIENT_TEMP = flags.getLsbD 11 := by
  have hbit : TT_CLIENT_TEMP = BitVec.twoPow 16 11 := by decide
  rw [hasFlag, hbit, BitVec.and_twoPow]
  cases flags.getLsbD 11 <;> rfl

lemma counts_iff {e : TtGlobalEntry} :
    e.Counts ↔ e.flags.getLsbD 1 = false ∧ e.flags.getLsbD 11 = false := by
  rw [TtGlobalEntry.Counts, hasFlag_roam, hasFlag_temp]

/-- A flag of all originators together. -/
lemma getLsbD_foldl_flags (l : List TtOrigListEntry) (acc : U16) {k : ℕ} (hk : k < 16) :
    (l.foldl (fun flags o => flags ||| o.flags.setWidth 16) acc).getLsbD k =
      (acc.getLsbD k || l.any fun o => o.flags.getLsbD k) := by
  induction l generalizing acc with
  | nil => simp
  | cons o l ih =>
    rw [List.foldl_cons, ih, List.any_cons, BitVec.getLsbD_or, BitVec.getLsbD_setWidth,
      decide_eq_true hk, Bool.true_and, Bool.or_assoc]

/-- A flag that is not kept in sync, and that no originator has, stays. -/
lemma TtGlobalEntry.getLsbD_syncFlags {e : TtGlobalEntry} {k : ℕ} (hk : k < 16)
    (hmask : TT_SYNC_MASK.getLsbD k = false)
    (hany : ∀ o ∈ e.origList, o.flags.getLsbD k = false) :
    e.syncFlags.flags.getLsbD k = e.flags.getLsbD k := by
  have hnone : (e.origList.any fun o => o.flags.getLsbD k) = false :=
    List.any_eq_false.mpr fun o ho => by rw [hany o ho]; exact Bool.false_ne_true
  rw [TtGlobalEntry.syncFlags]
  dsimp only
  rw [BitVec.getLsbD_or, getLsbD_foldl_flags _ _ hk, hnone, BitVec.getLsbD_and, BitVec.getLsbD_not,
    hmask, decide_eq_true hk]
  simp

/-- Whether an entry is a temporary one is not among the flags of its originators. -/
lemma TtGlobalEntry.temp_syncFlags (e : TtGlobalEntry) :
    e.syncFlags.flags.getLsbD 11 = e.flags.getLsbD 11 :=
  getLsbD_syncFlags (by decide) (by decide) fun o _ => BitVec.getLsbD_of_ge o.flags 11 (by decide)

lemma TtGlobalEntry.FlagsOk.counts_syncFlags {e : TtGlobalEntry} (h : e.FlagsOk) :
    e.syncFlags.Counts ↔ e.Counts := by
  rw [counts_iff, counts_iff, e.temp_syncFlags, getLsbD_syncFlags (by decide) (by decide) h]

/-! ### Adding a client -/

section Add

variable {tt : TtPriv} {e : TtGlobalEntry} {addr : EthAddr} {vid flags : U16}

/-- An entry to which an originator was added. -/
structure TtAdded (e e' : TtGlobalEntry) (orig : EthAddr) (flags : U8) : Prop where
  key : e'.key = e.key
  listed : (e'.origEntryFind orig).map TtOrigListEntry.flags = some flags
  ok : e'.FlagsOk
  counts : e.Counts → e'.Counts

/-- **An originator is added to an entry.** -/
lemma ttGlobalOrigEntryAdd_added {env : TtEnv} (tt : TtPriv) (orig : EthAddr) (ttvn : U8)
    (halloc : env.allocOrigEntry e.addr e.vid = true) (hok : e.FlagsOk) {flags : U8}
    (hflags : flags.getLsbD 1 = false) :
    (ttGlobalOrigEntryAdd env tt e orig ttvn flags).1.globalHash = tt.globalHash ∧
      TtAdded e (ttGlobalOrigEntryAdd env tt e orig ttvn flags).2 orig flags := by
  have hsync {e' : TtGlobalEntry} (hok' : e'.FlagsOk) (heq : e'.flags = e.flags) :
      e.Counts → e'.syncFlags.Counts := by
    rw [hok'.counts_syncFlags, counts_iff, counts_iff, heq]
    exact id
  unfold ttGlobalOrigEntryAdd
  cases hfind : e.origEntryFind orig with
  | some o =>
    have hok' : ({ e with origList := e.origList.map fun o =>
        if o.origNode == orig then { o with ttvn := ttvn, flags := flags } else o } :
          TtGlobalEntry).FlagsOk := by
      intro o' ho'
      obtain ⟨d, hd, rfl⟩ := List.mem_map.mp ho'
      split_ifs
      · exact hflags
      · exact hok d hd
    refine ⟨rfl, rfl, ?_, hok', hsync hok' rfl⟩
    have hsame : ((fun o : TtOrigListEntry => o.origNode == orig) ∘ fun o =>
        if o.origNode == orig then { o with ttvn := ttvn, flags := flags } else o) =
          fun o => o.origNode == orig := by
      funext d
      rw [Function.comp_apply]
      split_ifs <;> rfl
    have hfound : (e.origList.map fun o => if o.origNode == orig then
        { o with ttvn := ttvn, flags := flags } else o).find? (fun o => o.origNode == orig) =
          some { o with ttvn := ttvn, flags := flags } := by
      have horig : (o.origNode == orig) = true :=
        List.find?_some (p := fun o : TtOrigListEntry => o.origNode == orig) hfind
      rw [List.find?_map, hsame]
      change (e.origEntryFind orig).map _ = _
      rw [hfind, Option.map_some, if_pos horig]
    exact congrArg (Option.map TtOrigListEntry.flags) hfound
  | none =>
    rw [halloc, Bool.not_true, if_neg Bool.false_ne_true]
    have hok' : ({ e with
        origList := ⟨orig, ttvn, flags⟩ :: e.origList
        origListCount := e.origListCount + 1 } : TtGlobalEntry).FlagsOk :=
      List.forall_mem_cons.mpr ⟨hflags, hok⟩
    refine ⟨rfl, rfl, ?_, hok', hsync hok' rfl⟩
    exact congrArg (Option.map TtOrigListEntry.flags)
      (List.find?_cons_of_pos (beq_self_eq_true orig))

/-- The end of an addition. -/
lemma ttGlobalAddRemoveLocal_put (env : TtEnv) (tt : TtPriv) (e : TtGlobalEntry) (flags : U16) :
    ∃ e', (ttGlobalAddRemoveLocal env tt e flags).globalHash = (ttGlobalPut tt e').globalHash ∧
      e'.key = e.key ∧ e'.origList = e.origList ∧ (e.Counts → e'.Counts) ∧
      e'.flags.getLsbD 11 = e.flags.getLsbD 11 := by
  unfold ttGlobalAddRemoveLocal
  have hwifi (localFlags : U16) (k : ℕ) (hk : TT_CLIENT_WIFI.getLsbD k = false) :
      (e.flags ||| (localFlags &&& TT_CLIENT_WIFI)).getLsbD k = e.flags.getLsbD k := by
    rw [BitVec.getLsbD_or, BitVec.getLsbD_and, hk, Bool.and_false, Bool.or_false]
  have hroam (flags : U16) (k : ℕ) (hk : k = 11) :
      (flags &&& ~~~TT_CLIENT_ROAM).getLsbD k = flags.getLsbD k := by
    have hbit : (~~~TT_CLIENT_ROAM).getLsbD 11 = true := by decide
    rw [hk, BitVec.getLsbD_and, hbit, Bool.and_true]
  split_ifs
  · exact ⟨e, rfl, rfl, rfl, id, rfl⟩
  · refine ⟨_, rfl, rfl, rfl, fun h => ?_, ?_⟩
    · rw [counts_iff] at h ⊢
      dsimp only
      rw [BitVec.getLsbD_and, hwifi _ 1 (by decide), h.1, hroam _ 11 rfl, hwifi _ 11 (by decide),
        h.2, Bool.false_and]
      exact ⟨rfl, rfl⟩
    · dsimp only
      rw [hroam _ 11 rfl, hwifi _ 11 (by decide)]
  · refine ⟨_, rfl, rfl, rfl, fun h => ?_, hwifi _ 11 (by decide)⟩
    rw [counts_iff] at h ⊢
    dsimp only
    rw [hwifi _ 1 (by decide), h.1, hwifi _ 11 (by decide), h.2]
    exact ⟨rfl, rfl⟩

/-- An entry to which an originator is added is written back. -/
lemma ttGlobalAddOrigEntry_put (env : TtEnv) (tt : TtPriv) (orig : EthAddr) (flags : U16)
    (ttvn : U8) (halloc : env.allocOrigEntry e.addr e.vid = true) (hok : e.FlagsOk) :
    ∃ e', (ttGlobalAddOrigEntry env tt e orig flags ttvn).globalHash =
        (ttGlobalPut tt e').globalHash ∧
      TtAdded e e' orig ((flags &&& TT_SYNC_MASK).setWidth 8) := by
  have hflags : ((flags &&& TT_SYNC_MASK).setWidth 8 : U8).getLsbD 1 = false := by
    have hmask : TT_SYNC_MASK.getLsbD 1 = false := by decide
    rw [BitVec.getLsbD_setWidth, BitVec.getLsbD_and, hmask, Bool.and_false, Bool.and_false]
  obtain ⟨hhash, hadded⟩ := ttGlobalOrigEntryAdd_added tt orig ttvn halloc hok hflags
  unfold ttGlobalAddOrigEntry
  obtain ⟨e', hput, hkey, hlist, hcounts, -⟩ := ttGlobalAddRemoveLocal_put env
    (ttGlobalOrigEntryAdd env tt e orig ttvn ((flags &&& TT_SYNC_MASK).setWidth 8)).1
    (ttGlobalOrigEntryAdd env tt e orig ttvn ((flags &&& TT_SYNC_MASK).setWidth 8)).2 flags
  refine ⟨e', hput.trans ?_, hkey.trans hadded.key, ?_, ?_, fun h => hcounts (hadded.counts h)⟩
  · unfold ttGlobalPut
    dsimp only
    rw [hhash]
  · rw [TtGlobalEntry.origEntryFind, hlist]
    exact hadded.listed
  · rw [TtGlobalEntry.FlagsOk, hlist]
    exact hadded.ok

/-- An entry that exists counts after what is known of a roaming or temporary client was
dropped. -/
lemma ttGlobalAddExisting_counts (env : TtEnv) (tt : TtPriv) (hok : e.FlagsOk)
    (htemp : hasFlag flags TT_CLIENT_TEMP = false) :
    (ttGlobalAddExisting env tt e flags).2.FlagsOk ∧
      (ttGlobalAddExisting env tt e flags).2.Counts := by
  -- the first part: a temporary client
  obtain ⟨tt₁, e₁, hfirst, hok₁, htemp₁⟩ : ∃ tt₁ e₁,
      (if hasFlag e.flags TT_CLIENT_TEMP then
        ((ttGlobalDelOrigList env tt e).1, { (ttGlobalDelOrigList env tt e).2 with
          flags := (ttGlobalDelOrigList env tt e).2.flags &&& ~~~TT_CLIENT_TEMP })
      else (tt, e)) = (tt₁, e₁) ∧ e₁.FlagsOk ∧ e₁.flags.getLsbD 11 = false := by
    by_cases h : hasFlag e.flags TT_CLIENT_TEMP = true
    · rw [if_pos h]
      refine ⟨_, _, rfl, fun o ho => hok o (List.mem_of_mem_filter ho), ?_⟩
      have hbit : TT_CLIENT_TEMP.getLsbD 11 = true := by decide
      dsimp only
      rw [BitVec.getLsbD_and, BitVec.getLsbD_not, hbit, Bool.not_true, Bool.and_false,
        Bool.and_false]
    · rw [if_neg h]
      refine ⟨_, _, rfl, hok, ?_⟩
      rwa [← hasFlag_temp, ← Bool.not_eq_true]
  -- the second part: the flags of the change
  obtain ⟨e₂, hsecond, hok₂, htemp₂⟩ : ∃ e₂,
      (if isMulticastEtherAddr e₁.addr then e₁
        else { e₁ with flags := e₁.flags ||| (flags &&& ~~~TT_SYNC_MASK) }) = e₂ ∧
      e₂.FlagsOk ∧ e₂.flags.getLsbD 11 = false := by
    split_ifs
    · exact ⟨_, rfl, hok₁, htemp₁⟩
    · refine ⟨_, rfl, hok₁, ?_⟩
      rw [hasFlag_temp] at htemp
      dsimp only
      rw [BitVec.getLsbD_or, BitVec.getLsbD_and, htemp₁, htemp, Bool.false_and, Bool.false_or]
  unfold ttGlobalAddExisting
  dsimp only
  rw [hfirst]
  dsimp only
  rw [hsecond]
  -- the last part: a roaming client
  by_cases h : hasFlag e₂.flags TT_CLIENT_ROAM = true
  · rw [if_pos h]
    refine ⟨fun o ho => hok₂ o (List.mem_of_mem_filter ho), counts_iff.mpr ⟨?_, ?_⟩⟩
    · have hbit : TT_CLIENT_ROAM.getLsbD 1 = true := by decide
      dsimp only
      rw [BitVec.getLsbD_and, BitVec.getLsbD_not, hbit, Bool.not_true, Bool.and_false,
        Bool.and_false]
    · dsimp only
      rw [BitVec.getLsbD_and]
      exact (congrArg (· && _) htemp₂).trans (Bool.false_and _)
  · rw [if_neg h]
    refine ⟨hok₂, counts_iff.mpr ⟨?_, htemp₂⟩⟩
    rwa [← hasFlag_roam, ← Bool.not_eq_true]

/-- **Adding a client**: an entry that counts is found for it afterwards, with the originator, and
for other clients what was found before.

**Proof sketch.** A new entry, or the one that exists, is written back with the originator; the
latter counts in any case, and the former unless the client is said to be roaming. -/
theorem ttGlobalAdd_found (j : Jiffies) (n : EthAddr → U16 → ℕ) (orig : EthAddr) (ttvn : U8)
    (hok : ∀ e ∈ tt.globalHash, e.FlagsOk)
    (htemp : hasFlag flags TT_CLIENT_TEMP = false)
    (hroam : ttGlobalHashFind tt addr vid = none → isMulticastEtherAddr addr = false →
      hasFlag flags TT_CLIENT_ROAM = false) :
    (ttGlobalAdd (.plain j n) tt orig addr vid flags ttvn).2 = true ∧
      ∃ e', e'.key = (addr, vid) ∧ e'.FlagsOk ∧ e'.Counts ∧
        (e'.origEntryFind orig).map TtOrigListEntry.flags = some (ttSync flags) ∧
        ∀ addr' vid',
          ttGlobalHashFind (ttGlobalAdd (.plain j n) tt orig addr vid flags ttvn).1 addr' vid' =
            if (addr, vid) = (addr', vid') then some e' else ttGlobalHashFind tt addr' vid' := by
  have hbackbone : (TtEnv.plain j n).isBackboneGwOrig orig vid = false := rfl
  unfold ttGlobalAdd
  rw [hbackbone, htemp, if_neg Bool.false_ne_true, Bool.false_and, if_neg Bool.false_ne_true]
  cases hfind : ttGlobalHashFind tt addr vid with
  | none =>
    have halloc : (!(TtEnv.plain j n).allocEntry addr vid) = false := rfl
    dsimp only
    rw [halloc, if_neg Bool.false_ne_true]
    refine ⟨rfl, ?_⟩
    generalize hnew : ttGlobalNewEntry (.plain j n) addr vid flags = d
    have hkey : d.key = (addr, vid) := by rw [← hnew]; rfl
    have hcounts : d.Counts := by
      rw [← hnew, counts_iff]
      unfold ttGlobalNewEntry
      dsimp only
      cases hmulti : isMulticastEtherAddr addr with
      | true => exact ⟨BitVec.getLsbD_zero, BitVec.getLsbD_zero⟩
      | false =>
        have hflag := hroam hfind hmulti
        rw [hasFlag_roam] at hflag
        rw [hasFlag_temp] at htemp
        rw [if_neg Bool.false_ne_true, BitVec.getLsbD_and, BitVec.getLsbD_and, hflag, htemp,
          Bool.false_and, Bool.false_and]
        exact ⟨rfl, rfl⟩
    have hdok : d.FlagsOk := by
      rw [← hnew]
      exact fun o ho => absurd ho List.not_mem_nil
    obtain ⟨e', hput, hadded⟩ := ttGlobalAddOrigEntry_put (.plain j n)
      { tt with
        globalHash := tt.globalHash.take (n addr vid) ++ d :: tt.globalHash.drop (n addr vid) }
      orig flags ttvn rfl hdok
    refine ⟨e', hadded.key.trans hkey, hadded.ok, hadded.counts hcounts, hadded.listed,
      fun addr' vid' => ?_⟩
    have hmem : e'.key ∈ (tt.globalHash.take (n addr vid) ++
        d :: tt.globalHash.drop (n addr vid)).map TtGlobalEntry.key := by
      rw [hadded.key]
      exact List.mem_map_of_mem (List.mem_append_right _ List.mem_cons_self)
    refine (ttGlobalHashFind_congr hput addr' vid').trans ?_
    have hnone : ttGlobalHashFind tt d.addr d.vid = none := by
      rw [← hnew]
      exact hfind
    rw [ttGlobalHashFind_put hmem, ttGlobalHashFind_insert (n addr vid) hnone, hadded.key, hkey]
    split_ifs <;> rfl
  | some e =>
    dsimp only
    rw [if_neg Bool.false_ne_true]
    refine ⟨rfl, ?_⟩
    have hmem := List.mem_of_find?_eq_some hfind
    obtain ⟨hsame, hkey⟩ := ttGlobalAddExisting_same (.plain j n) tt e flags
    obtain ⟨heok, hcounts⟩ := ttGlobalAddExisting_counts (.plain j n) tt (hok e hmem) htemp
    obtain ⟨e', hput, hadded⟩ := ttGlobalAddOrigEntry_put (.plain j n)
      (ttGlobalAddExisting (.plain j n) tt e flags).1 orig flags ttvn rfl heok
    have hkey' : e'.key = (addr, vid) := hadded.key.trans (hkey.trans (key_of_find hfind))
    refine ⟨e', hkey', hadded.ok, hadded.counts hcounts, hadded.listed, fun addr' vid' => ?_⟩
    have hin : e'.key ∈ (ttGlobalAddExisting (.plain j n) tt e flags).1.globalHash.map
        TtGlobalEntry.key := by
      rw [hsame.globalHash, hadded.key, hkey]
      exact List.mem_map_of_mem hmem
    refine (ttGlobalHashFind_congr hput addr' vid').trans ?_
    rw [ttGlobalHashFind_put hin, hkey', hsame.find]

end Add

/-! ### Deleting a client -/

section Delete

variable {tt : TtPriv}

/-- A deletion leaves the originator on the list of a client that roams now: nobody else announces
the client, and it is not a local one. -/
def TtLeavesRoaming (tt : TtPriv) (orig addr : EthAddr) (vid : U16) (roaming : Bool) : Prop :=
  roaming = true ∧ ttLocalHashFind tt.ttLocal addr vid = none ∧
    ∃ e, ttGlobalHashFind tt addr vid = some e ∧ ∀ o ∈ e.origList, o.origNode = orig

/-- An originator that was taken off the list of a client is not on it. -/
lemma origEntryFind_delOrigNode (env : TtEnv) (tt : TtPriv) (e : TtGlobalEntry) (orig : EthAddr) :
    (ttGlobalDelOrigNode env tt e orig).2.origEntryFind orig = none := by
  refine List.find?_eq_none.mpr fun o ho => ?_
  simpa using (List.mem_filter.mp ho).2

/-- **Deleting a client**: what is found for it afterwards does not count for the originator, and
names it only if the client roams now; for other clients what was found before.

**Proof sketch.** The entry goes, or it is written back without the originator or as one that
roams. -/
theorem ttGlobalDel_found (j : Jiffies) (n : EthAddr → U16 → ℕ) (orig addr : EthAddr) (vid : U16)
    (roaming : Bool)
    (hok : ∀ e ∈ tt.globalHash, e.FlagsOk) :
    ∃ found : Option TtGlobalEntry,
      (∀ e' ∈ found, e'.key = (addr, vid) ∧ e'.FlagsOk ∧ ttGlobalValid orig e' = none ∧
        ((e'.origEntryFind orig).isSome = true → TtLeavesRoaming tt orig addr vid roaming)) ∧
      ∀ addr' vid',
        ttGlobalHashFind (ttGlobalDel (.plain j n) tt orig addr vid roaming) addr' vid' =
          if (addr, vid) = (addr', vid') then found else ttGlobalHashFind tt addr' vid' := by
  unfold ttGlobalDel
  cases hfind : ttGlobalHashFind tt addr vid with
  | none =>
    refine ⟨none, fun _ h => absurd h (Option.not_mem_none _), fun addr' vid' => ?_⟩
    dsimp only
    by_cases hsame : (addr, vid) = (addr', vid')
    · obtain ⟨rfl, rfl⟩ := Prod.mk.inj hsame
      rw [if_pos rfl, hfind]
    · rw [if_neg hsame]
  | some e =>
    have hmem := List.mem_of_find?_eq_some hfind
    have hkey : e.key = (addr, vid) := key_of_find hfind
    have hin : e.key ∈ tt.globalHash.map TtGlobalEntry.key := List.mem_map_of_mem hmem
    -- what is found if the entry goes, or if it is written back in another form
    have hfree (tt' : TtPriv) (e' : TtGlobalEntry) (hhash : tt'.globalHash = tt.globalHash)
        (hkey' : e'.key = e.key) (addr' : EthAddr) (vid' : U16) :
        ttGlobalHashFind (ttGlobalFree tt' e') addr' vid' =
          if (addr, vid) = (addr', vid') then none else ttGlobalHashFind tt addr' vid' := by
      rw [ttGlobalHashFind_free, hkey', hkey, ttGlobalHashFind_congr hhash]
    have hput (tt' : TtPriv) (e' : TtGlobalEntry) (hhash : tt'.globalHash = tt.globalHash)
        (hkey' : e'.key = e.key) (addr' : EthAddr) (vid' : U16) :
        ttGlobalHashFind (ttGlobalPut tt' e') addr' vid' =
          if (addr, vid) = (addr', vid') then some e' else ttGlobalHashFind tt addr' vid' := by
      rw [ttGlobalHashFind_put, hkey', hkey, ttGlobalHashFind_congr hhash]
      rwa [hhash, hkey']
    have hnode := origEntryFind_delOrigNode (.plain j n) tt e orig
    have hgone : ∀ e' ∈ some (ttGlobalDelOrigNode (.plain j n) tt e orig).2,
        e'.key = (addr, vid) ∧ e'.FlagsOk ∧ ttGlobalValid orig e' = none ∧
          ((e'.origEntryFind orig).isSome = true → TtLeavesRoaming tt orig addr vid roaming) := by
      rintro e' ⟨⟩
      refine ⟨hkey, fun o ho => hok e hmem o (List.mem_of_mem_filter ho), ?_, ?_⟩
      · rw [ttGlobalValid, hnode, Option.map_none, ite_self]
      · rw [hnode]
        intro h
        cases h
    have hhash : (ttGlobalDelOrigNode (.plain j n) tt e orig).1.globalHash = tt.globalHash :=
      (ttGlobalDelOrigEntries_same _ _ tt e).globalHash
    dsimp only
    cases hroaming : roaming with
    | false =>
      rw [Bool.not_false, if_pos rfl]
      split_ifs
      · exact ⟨none, fun _ h => absurd h (Option.not_mem_none _), hfree _ _ hhash rfl⟩
      · exact ⟨_, hroaming ▸ hgone, hput _ _ hhash rfl⟩
    | true =>
      rw [Bool.not_true, if_neg Bool.false_ne_true]
      by_cases hlocal : (ttLocalHashFind tt.ttLocal e.addr vid).isSome = true
      · rw [if_pos hlocal]
        exact ⟨none, fun _ h => absurd h (Option.not_mem_none _),
          hfree _ _ (ttGlobalDelOrigEntries_same _ _ tt e).globalHash rfl⟩
      rw [if_neg hlocal, ttGlobalDelRoaming]
      dsimp only
      by_cases hlast : (e.origList.all fun o => o.origNode == orig) = true
      · rw [if_pos hlast]
        refine ⟨_, ?_, hput tt _ rfl rfl⟩
        rintro e' ⟨⟩
        refine ⟨hkey, hok e hmem, ?_, fun _ => ⟨rfl, ?_, e, hfind, ?_⟩⟩
        · have hflag : hasFlag (e.flags ||| TT_CLIENT_ROAM) TT_CLIENT_ROAM = true := by
            have hbit : TT_CLIENT_ROAM.getLsbD 1 = true := by decide
            rw [hasFlag_roam, BitVec.getLsbD_or, hbit, Bool.or_true]
          rw [ttGlobalValid]
          dsimp only
          rw [hflag, Bool.true_or, if_pos rfl]
        · have haddr : e.addr = addr := congrArg Prod.fst hkey
          rwa [haddr, Option.not_isSome_iff_eq_none] at hlocal
        · intro o ho
          exact eq_of_beq (List.all_eq_true.mp hlast o ho)
      · rw [if_neg hlast]
        exact ⟨_, hroaming ▸ hgone, hput _ _ hhash rfl⟩

end Delete

/-! ### The view of an originator -/

section View

variable {tt : TtPriv} {orig addr : EthAddr} {vid flags : U16} {ttvn : U8} {j : Jiffies}
  {n : EthAddr → U16 → ℕ}

/-- **The view after a client was added.** -/
theorem ttGlobalView_add (hok : ∀ e ∈ tt.globalHash, e.FlagsOk)
    (htemp : hasFlag flags TT_CLIENT_TEMP = false)
    (hroam : ttGlobalHashFind tt addr vid = none → isMulticastEtherAddr addr = false →
      hasFlag flags TT_CLIENT_ROAM = false) :
    ttGlobalView (ttGlobalAdd (.plain j n) tt orig addr vid flags ttvn).1 orig =
      Function.update (ttGlobalView tt orig) (addr, vid)
        (some (ttSync flags)) := by
  obtain ⟨-, e', -, -, hcounts, hlisted, hfind⟩ := ttGlobalAdd_found j n orig ttvn hok htemp
    hroam
  funext key
  rw [ttGlobalView, hfind, Function.update_apply]
  by_cases hkey : (addr, vid) = key
  · rw [if_pos hkey, if_pos hkey.symm, Option.bind_some, ttGlobalValid, hcounts.1, hcounts.2,
      Bool.or_false, if_neg Bool.false_ne_true]
    exact hlisted
  · rw [if_neg hkey, if_neg (Ne.symm hkey), ttGlobalView]

/-- **The view after a client was deleted.** -/
theorem ttGlobalView_del (hok : ∀ e ∈ tt.globalHash, e.FlagsOk) (roaming : Bool) :
    ttGlobalView (ttGlobalDel (.plain j n) tt orig addr vid roaming) orig =
      Function.update (ttGlobalView tt orig) (addr, vid) none := by
  obtain ⟨found, hfound, hfind⟩ := ttGlobalDel_found j n orig addr vid roaming hok
  funext key
  rw [ttGlobalView, hfind, Function.update_apply]
  by_cases hkey : (addr, vid) = key
  · rw [if_pos hkey, if_pos hkey.symm]
    cases found with
    | none => rfl
    | some e' => exact (hfound e' rfl).2.2.1
  · rw [if_neg hkey, if_neg (Ne.symm hkey), ttGlobalView]

/-- What a client contributes to the view of an originator in a VLAN. -/
def ttGlobalClient (orig : EthAddr) (vid : U16) (e : TtGlobalEntry) : Option (EthAddr × U8) :=
  if e.vid = vid then (ttGlobalValid orig e).map fun flags => (e.addr, flags) else none

lemma ttGlobalClient_eq_some {e : TtGlobalEntry} {c : EthAddr × U8} :
    ttGlobalClient orig vid e = some c ↔ e.key = (c.1, vid) ∧ ttGlobalValid orig e = some c.2 := by
  rw [ttGlobalClient, TtGlobalEntry.key]
  by_cases hvid : e.vid = vid
  · rw [if_pos hvid, Option.map_eq_some_iff, hvid]
    constructor
    · rintro ⟨flags, hvalid, rfl⟩
      exact ⟨rfl, hvalid⟩
    · rintro ⟨hkey, hvalid⟩
      exact ⟨c.2, hvalid, congrArg (·, c.2) (congrArg Prod.fst hkey)⟩
  · rw [if_neg hvid]
    exact ⟨fun h => (Option.some_ne_none c h.symm).elim,
      fun h => absurd (congrArg Prod.snd h.1) hvid⟩

/-- **The checksum of an originator in a VLAN is that of its view.** -/
theorem ttCrc_globalCrc (hkeys : (tt.globalHash.map TtGlobalEntry.key).Nodup) (orig : EthAddr)
    (vid : U16) : TtCrc (ttGlobalView tt orig) vid (ttGlobalCrc tt orig vid) := by
  refine ⟨tt.globalHash.filterMap (ttGlobalClient orig vid), ?_, fun addr flags => ?_, ?_⟩
  · -- clients of one VLAN that are different have different addresses
    have hsub : ((tt.globalHash.filterMap (ttGlobalClient orig vid)).map
        fun c => (c.1, vid)).Sublist (tt.globalHash.map TtGlobalEntry.key) := by
      generalize tt.globalHash = l
      induction l with
      | nil => exact .slnil
      | cons e l ih =>
        rw [List.filterMap_cons]
        cases hc : ttGlobalClient orig vid e with
        | none => exact ih.cons e.key
        | some c =>
          rw [List.map_cons, List.map_cons, (ttGlobalClient_eq_some.mp hc).1]
          exact ih.cons_cons (c.1, vid)
    refine List.Nodup.of_map (fun addr => (addr, vid)) ?_
    rw [List.map_map]
    exact hkeys.sublist hsub
  · rw [List.mem_filterMap, ttGlobalView]
    dsimp only
    constructor
    · rintro ⟨e, he, hc⟩
      obtain ⟨hkey, hvalid⟩ := ttGlobalClient_eq_some.mp hc
      obtain ⟨rfl, rfl⟩ := Prod.mk.inj hkey
      rw [find_of_mem hkeys he]
      exact hvalid
    · intro hview
      obtain ⟨e, hfind, hvalid⟩ := Option.bind_eq_some_iff.mp hview
      exact ⟨e, List.mem_of_find?_eq_some hfind,
        ttGlobalClient_eq_some.mpr ⟨key_of_find hfind, hvalid⟩⟩
  · have hmap := Checksum.xorSum_map id (fun c : EthAddr × U8 => ttEntryCrc vid c.2 c.1)
      (tt.globalHash.filterMap (ttGlobalClient orig vid))
    refine Eq.trans ?_ hmap
    rw [List.map_filterMap, ttGlobalCrc]
    congr 1
    refine List.filterMap_congr fun e _ => ?_
    rw [ttGlobalClient, ttGlobalValid]
    by_cases hvid : e.vid = vid
    · rw [if_neg (not_not.mpr hvid), if_pos hvid]
      cases hasFlag e.flags TT_CLIENT_ROAM with
      | true => rfl
      | false =>
        cases hasFlag e.flags TT_CLIENT_TEMP with
        | true => rfl
        | false =>
          rw [Bool.or_false, if_neg Bool.false_ne_true, if_neg Bool.false_ne_true,
            if_neg Bool.false_ne_true, Option.map_map, Option.map_map, hvid]
          rfl
    · rw [if_pos hvid, if_neg hvid]
      rfl

end View

end Batadv
