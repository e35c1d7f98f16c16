import BatmanAdv.TranslationTable.UpdateChanges
import BatmanAdv.TranslationTable.View

set_option relaxedAutoImplicit false
set_option autoImplicit false

/-!
# Following the versions of an originator's table (`translation-table.c`)

An originator commits changes to its table of clients, gives the table the next version, and
announces the changes, the version and the checksums of the VLANs in its OGMs.  A node that is in
sync with it applies the changes (`batadv_tt_update_orig`), and asks for the table if its own
checksums are not the announced ones afterwards.

The version is a `u8`.  The difference of two versions is computed as an `int`, though, so that the
version behind 255 does not look like the next one.  A client that has roamed away is kept for a
while, with the VLAN in which it was, even if the originator has no clients there any more; and a
client that is said to be roaming does not count if it was not known.

## Main definitions

* `Batadv.TtCommit`, `Batadv.ttCommitStep` — a commit and what it does to the originator's table
  and to the node that receives its announcement.
* `Batadv.TtCommit.Correct` — the announcement is the right one.
* `Batadv.TtInSync` — the node is in sync with the originator.
* `Batadv.TtCommit.Follows` — a commit that the node can follow.

## Main results

* `Batadv.TtTracks.change`, `Batadv.TtTracks.loop` — what applying the changes keeps.
* `Batadv.TtInSync.step` — a commit that the node can follow leaves it in sync, and no request is
  sent.
* `Batadv.tt_versions_tracked` — the same over runs of any length.
-/

namespace Batadv

/-! ### Commits -/

/-- The table of an originator with its version, and the node that follows it. -/
structure TtFollowed where
  table : TtTable
  ttvn : U8
  node : TtPriv

/-- A commit of the originator: the changes, the checksums of the VLANs after them, and when the
announcement is received and where new entries are put. -/
structure TtCommit where
  changes : List TtChange
  vlans : List TtVlanData
  jiffies : Jiffies
  pos : EthAddr → U16 → ℕ

/-- The table after the commit. -/
def TtCommit.table (c : TtCommit) (T : TtTable) : TtTable :=
  Changeset.applyAll T (c.changes.map TtChange.toChange)

/-- **A commit**: the originator has the next version of its table, and the node receives the OGM
that announces it. -/
def ttCommitStep (orig : EthAddr) (s : TtFollowed) (c : TtCommit) : TtFollowed × Option TtRequest :=
  let received := ttUpdateOrig (.plain c.jiffies c.pos) s.node orig c.vlans c.changes (s.ttvn + 1)
  (⟨c.table s.table, s.ttvn + 1, received.1⟩, received.2)

/-- What is announced is right: there are changes, and the VLANs are those in which there are
clients after them, all of them with a valid identifier and the checksum of their clients. -/
structure TtCommit.Correct (s : TtFollowed) (c : TtCommit) : Prop where
  nonempty : c.changes ≠ []
  vlans : ∀ vid, vid ∈ c.vlans.map TtVlanData.vid ↔ (c.table s.table).Serves vid
  valid : ∀ vid, (c.table s.table).Serves vid → vlanIdValid vid = true
  crc : ∀ vlan ∈ c.vlans, TtCrc (c.table s.table) vlan.vid vlan.crc

/-! ### Being in sync -/

/-- What the node keeps of its global table, with a table of clients that is its view of an
originator: the accounts are right, the originator is known and has no VLAN without clients, and
roaming is not among the flags of an originator. -/
structure TtTracks (orig : EthAddr) (T : TtTable) (tt : TtPriv) : Prop where
  accounts : TtAccounts (fun k => k.1 ≠ orig) tt
  flagsOk : ∀ e ∈ tt.globalHash, e.FlagsOk
  view : ttGlobalView tt orig = T
  known : (ttOrigHashFind tt orig).isSome = true

/-- **The node is in sync** with the originator: it has its clients, the version, and exactly the
VLANs with clients, with their checksums. -/
structure TtInSync (orig : EthAddr) (s : TtFollowed) : Prop where
  tracks : TtTracks orig s.table s.node
  hasTt : (ttOrigHashFind s.node orig).map TtOrigNode.hasTt = some true
  ttvn : (ttOrigHashFind s.node orig).map TtOrigNode.lastTtvn = some s.ttvn
  vlans : ∀ o, ttOrigHashFind s.node orig = some o →
    ∀ vid, vid ∈ o.vlanList.map OrigNodeVlan.vid ↔ s.table.Serves vid
  crc : ∀ o, ttOrigHashFind s.node orig = some o →
    ∀ vlan ∈ o.vlanList, TtCrc s.table vlan.vid vlan.crc

/-! ### What the node can follow -/

/-- A VLAN has a client of the originator that does not count, as it roams or is temporary. -/
def TtStale (orig : EthAddr) (tt : TtPriv) (vid : U16) : Prop :=
  ∃ e ∈ tt.globalHash, e.vid = vid ∧ (e.origEntryFind orig).isSome = true ∧
    ttGlobalValid orig e = none

/-- A change that the node can follow: a client that is added as a roaming one is known, or a
group; and a client that is kept as a roaming one when it is deleted, in a VLAN with a valid
identifier, is in one in which there are clients when all changes are applied. -/
def TtChange.Follows (orig : EthAddr) (T : TtTable) (tt : TtPriv) (c : TtChange) : Prop :=
  if c.isDel then
    vlanIdValid c.vid = true →
      TtLeavesRoaming tt orig c.addr c.vid (hasFlag c.flags (TT_CLIENT_ROAM.setWidth 8)) →
        T.Serves c.vid
  else
    ttGlobalHashFind tt c.addr c.vid = none → isMulticastEtherAddr c.addr = false →
      hasFlag c.flags (TT_CLIENT_ROAM.setWidth 8) = false

/-- **A commit that the node can follow**: the version does not wrap, clients that do not count are
in VLANs in which there are others after the commit, and the node can follow every change.  VLANs
whose identifier is not valid do not matter, as no originator has them. -/
structure TtCommit.Follows (orig : EthAddr) (s : TtFollowed) (c : TtCommit) : Prop where
  noWrap : s.ttvn ≠ 255
  stale : ∀ vid, vlanIdValid vid = true → TtStale orig s.node vid → (c.table s.table).Serves vid
  changes : Run.AllSteps (fun tt turn => (ttUpdateChange orig (s.ttvn + 1) tt turn).1)
    (fun tt turn => turn.change.Follows orig (c.table s.table) tt) s.node
    (ttTurns (.plain c.jiffies c.pos) c.changes)

/-! ### Applying the changes -/

section Tracks

variable {orig : EthAddr} {T : TtTable} {tt tt' : TtPriv} {j : Jiffies} {n : EthAddr → U16 → ℕ}
  {ttvn : U8}

/-- A VLAN is served, or has a client that does not count, if a client in it names the
originator. -/
lemma TtTracks.listed_iff (h : TtTracks orig T tt) (vid : U16) :
    0 < ttClientCount tt orig vid ↔ T.Serves vid ∨ TtStale orig tt vid := by
  rw [ttClientCount, List.countP_pos_iff, ← h.view]
  constructor
  · rintro ⟨e, he, hlisted⟩
    rw [Bool.and_eq_true, beq_iff_eq] at hlisted
    obtain ⟨rfl, hlisted⟩ := hlisted
    cases hvalid : ttGlobalValid orig e with
    | none => exact Or.inr ⟨e, he, rfl, hlisted, hvalid⟩
    | some flags =>
      refine Or.inl ⟨e.addr, ?_⟩
      rw [ttGlobalView, find_of_mem h.accounts.keys he, Option.bind_some, hvalid]
      rfl
  · rintro (⟨addr, hserved⟩ | ⟨e, he, rfl, hlisted, -⟩)
    · obtain ⟨flags, hview⟩ := Option.isSome_iff_exists.mp hserved
      obtain ⟨e, hfind, hvalid⟩ := Option.bind_eq_some_iff.mp hview
      have hkey : e.key = (addr, vid) := key_of_find hfind
      refine ⟨e, List.mem_of_find?_eq_some hfind, ?_⟩
      rw [Bool.and_eq_true, beq_iff_eq]
      refine ⟨congrArg Prod.snd hkey, ?_⟩
      unfold ttGlobalValid at hvalid
      split_ifs at hvalid
      obtain ⟨o, ho, -⟩ := Option.map_eq_some_iff.mp hvalid
      rw [ho]
      rfl
    · refine ⟨e, he, ?_⟩
      rw [beq_self_eq_true, Bool.true_and]
      exact hlisted

/-- **The VLANs of the originator** are those that are served, or have a client that does not
count. -/
lemma TtTracks.mem_vlans (h : TtTracks orig T tt) {o : TtOrigNode}
    (ho : ttOrigHashFind tt orig = some o) (vid : U16) :
    vid ∈ o.vlanList.map OrigNodeVlan.vid ↔
      vlanIdValid vid = true ∧ (T.Serves vid ∨ TtStale orig tt vid) := by
  rw [← h.listed_iff]
  have hget : vid ∈ o.vlanList.map OrigNodeVlan.vid ↔ (origNodeVlanGet o vid).isSome = true := by
    rw [origNodeVlanGet, List.find?_isSome, List.mem_map]
    simp only [beq_iff_eq]
  rw [hget]
  cases hvid : vlanIdValid vid with
  | false =>
    rw [h.accounts.exact.invalid orig o ho vid hvid]
    simp
  | true =>
    have hnum := h.accounts.exact.numEntries orig o ho vid hvid
    cases hvlan : origNodeVlanGet o vid with
    | none =>
      rw [hvlan, Option.map_none, Option.getD_none] at hnum
      have hzero : ttClientCount tt orig vid = 0 := by exact_mod_cast hnum.symm
      simp [hzero]
    | some vlan =>
      rw [hvlan, Option.map_some, Option.getD_some] at hnum
      have hne : ttClientCount tt orig vid ≠ 0 := by
        intro hzero
        -- the originator has no VLAN without clients
        refine h.accounts.zero (orig, vid) ?_ rfl
        rw [ttTally, ho, Option.bind_some, hvlan, Option.map_some, hnum, hzero]
        rfl
      simp [Nat.pos_of_ne_zero hne]

/-- Tables in which one entry at most is another one: what is known of the originators stays. -/
lemma TtTracks.of_find (h : TtTracks orig T tt) {T' : TtTable} {addr : EthAddr} {vid : U16}
    (haccounts : TtAccounts (fun k => k.1 ≠ orig) tt') (hview : ttGlobalView tt' orig = T')
    (hsaved : tt'.saved = tt.saved) {found : Option TtGlobalEntry}
    (hfound : ∀ e ∈ found, e.FlagsOk)
    (hfind : ∀ addr' vid', ttGlobalHashFind tt' addr' vid' =
      if (addr, vid) = (addr', vid') then found else ttGlobalHashFind tt addr' vid') :
    TtTracks orig T' tt' := by
  refine ⟨haccounts, fun e he => ?_, hview, ?_⟩
  · have hsome := find_of_mem haccounts.keys he
    rw [hfind] at hsome
    split_ifs at hsome
    · exact hfound e hsome
    · exact h.flagsOk e (List.mem_of_find?_eq_some hsome)
  · obtain ⟨o, ho⟩ := Option.isSome_iff_exists.mp h.known
    obtain ⟨o', ho', -⟩ := ttOrigHashFind_of_saved hsaved ho
    rw [ho']
    rfl

/-- A client that does not count was one before, or is the one that was found now. -/
lemma stale_of_find {addr : EthAddr} {vid : U16} {found : Option TtGlobalEntry}
    (hkeys : (tt'.globalHash.map TtGlobalEntry.key).Nodup)
    (hfind : ∀ addr' vid', ttGlobalHashFind tt' addr' vid' =
      if (addr, vid) = (addr', vid') then found else ttGlobalHashFind tt addr' vid')
    {vid' : U16} (h : TtStale orig tt' vid') :
    TtStale orig tt vid' ∨ vid' = vid ∧ ∃ e ∈ found, (e.origEntryFind orig).isSome = true ∧
      ttGlobalValid orig e = none := by
  obtain ⟨e, he, rfl, hlisted, hvalid⟩ := h
  have hsome := find_of_mem hkeys he
  rw [hfind] at hsome
  split_ifs at hsome with hkey
  · exact Or.inr ⟨(congrArg Prod.snd hkey).symm, e, hsome, hlisted, hvalid⟩
  · exact Or.inl ⟨e, List.mem_of_find?_eq_some hsome, rfl, hlisted, hvalid⟩

/-- The flags that are stored for a change are those of the change that are kept in sync. -/
lemma ttSync_setWidth (c : TtChange) : ttSync (c.flags.setWidth 16) = c.sync := by
  rw [ttSync, TtChange.sync, BitVec.setWidth_and, BitVec.setWidth_setWidth_of_le _ (by decide),
    BitVec.setWidth_eq]

/-- Whether a change says that its client roams. -/
lemma hasFlag_roam_setWidth (flags : U8) :
    hasFlag (flags.setWidth 16) TT_CLIENT_ROAM = hasFlag flags (TT_CLIENT_ROAM.setWidth 8) := by
  have hbit : TT_CLIENT_ROAM.setWidth 8 = BitVec.twoPow 8 1 := by decide
  rw [hasFlag_roam, BitVec.getLsbD_setWidth, hasFlag, hbit, BitVec.and_twoPow]
  cases flags.getLsbD 1 <;> rfl

/-- **A change is applied**: the view is that with the change, and a client that does not count was
one before, or is in a VLAN that is served in the end.

**Proof sketch.** One entry at most is found that was not found before, by the lemmas on adding and
on deleting a client. -/
theorem TtTracks.change (h : TtTracks orig T tt) (ttvn : U8) {c : TtChange} {Tend : TtTable}
    (hfollows : c.Follows orig Tend tt) :
    (ttUpdateChange orig ttvn tt ⟨.plain j n, c⟩).2 = true ∧
      TtTracks orig (c.toChange.apply T) (ttUpdateChange orig ttvn tt ⟨.plain j n, c⟩).1 ∧
      ∀ vid, vlanIdValid vid = true →
        TtStale orig (ttUpdateChange orig ttvn tt ⟨.plain j n, c⟩).1 vid →
          TtStale orig tt vid ∨ Tend.Serves vid := by
  unfold TtChange.Follows at hfollows
  unfold ttUpdateChange TtChange.toChange Changeset.Change.apply
  dsimp only
  cases hdel : c.isDel with
  | true =>
    rw [hdel, if_pos rfl] at hfollows
    rw [if_pos rfl, if_pos rfl]
    have haccounts := h.accounts.globalDel (j := j) (n := n) orig c.addr c.vid
      (hasFlag c.flags (TT_CLIENT_ROAM.setWidth 8))
    obtain ⟨found, hfound, hfind⟩ := ttGlobalDel_found j n orig c.addr c.vid
      (hasFlag c.flags (TT_CLIENT_ROAM.setWidth 8)) h.flagsOk
    refine ⟨rfl, h.of_find haccounts ?_ (saved_ttGlobalDel _ _ _ _ _ _)
      (fun e he => (hfound e he).2.1) hfind, fun vid hvalid hstale => ?_⟩
    · rw [ttGlobalView_del h.flagsOk, h.view]
    · rcases stale_of_find haccounts.keys hfind hstale with hbefore | ⟨rfl, e, he, hlisted, -⟩
      · exact Or.inl hbefore
      · exact Or.inr (hfollows hvalid ((hfound e he).2.2.2 hlisted))
  | false =>
    rw [hdel, if_neg Bool.false_ne_true] at hfollows
    rw [if_neg Bool.false_ne_true, if_neg Bool.false_ne_true]
    have haccounts := h.accounts.globalAdd (j := j) (n := n) h.known c.addr c.vid
      (c.flags.setWidth 16) ttvn
    have hroam := hfollows
    rw [← hasFlag_roam_setWidth] at hroam
    obtain ⟨hadded, e', hkey, hok, hcounts, hlisted, hfind⟩ := ttGlobalAdd_found j n orig ttvn
      h.flagsOk (hasFlag_temp_setWidth c.flags) hroam
    have hok' : ∀ e ∈ some e', e.FlagsOk := by
      rintro e ⟨⟩
      exact hok
    refine ⟨hadded, h.of_find haccounts ?_ (saved_ttGlobalAdd _ _ _ _ _ _ _) hok' hfind,
      fun vid _ hstale => ?_⟩
    · rw [ttGlobalView_add h.flagsOk (hasFlag_temp_setWidth c.flags) hroam, h.view, ttSync_setWidth]
    · rcases stale_of_find haccounts.keys hfind hstale with hbefore | ⟨-, e, he, -, hvalid⟩
      · exact Or.inl hbefore
      · -- the client that was added counts
        obtain rfl := Option.some.inj he
        rw [ttGlobalValid, hcounts.1, hcounts.2, Bool.or_false, if_neg Bool.false_ne_true,
          hlisted] at hvalid
        cases hvalid

/-- An originator after it was written to. -/
lemma ttOrigHashFind_update_self {f : TtOrigNode → TtOrigNode} {o : TtOrigNode}
    (ho : ttOrigHashFind tt orig = some o) (hf : ∀ o, (f o).orig = o.orig) :
    ttOrigHashFind (ttOrigUpdate tt orig f) orig = some (f o) := by
  rw [ttOrigHashFind_update tt orig (fun o _ => hf o), ho, Option.map_some, if_pos rfl]

/-- **All changes are applied**, and the node knows the table of the originator then.

**Proof sketch.** Induction on the changes: each keeps what `TtTracks` says, and adds clients that
do not count in VLANs only that are served in the end. -/
theorem TtTracks.loop (h : TtTracks orig T tt) {cs : List TtChange} {Tend : TtTable}
    (hfollows : Run.AllSteps (fun tt turn => (ttUpdateChange orig ttvn tt turn).1)
      (fun tt turn => turn.change.Follows orig Tend tt) tt (ttTurns (.plain j n) cs))
    (hstale : ∀ vid, vlanIdValid vid = true → TtStale orig tt vid → Tend.Serves vid) :
    TtTracks orig (Changeset.applyAll T (cs.map TtChange.toChange))
        (ttUpdateChangesLoop (.plain j n) orig ttvn tt cs) ∧
      (∀ vid, vlanIdValid vid = true →
        TtStale orig (ttUpdateChangesLoop (.plain j n) orig ttvn tt cs) vid → Tend.Serves vid) ∧
      (ttOrigHashFind (ttUpdateChangesLoop (.plain j n) orig ttvn tt cs) orig).map
        TtOrigNode.hasTt = some true := by
  induction cs generalizing T tt with
  | nil =>
    obtain ⟨o, ho⟩ := Option.isSome_iff_exists.mp h.known
    have hnode := ttOrigHashFind_update_self (f := fun o => { o with hasTt := true }) ho
      fun _ => rfl
    refine ⟨⟨h.accounts.origUpdate orig (fun _ => rfl) fun _ => rfl, h.flagsOk, h.view, ?_⟩, hstale,
      ?_⟩
    · exact Option.isSome_iff_exists.mpr ⟨_, hnode⟩
    · exact congrArg (Option.map TtOrigNode.hasTt) hnode
  | cons c cs ih =>
    obtain ⟨hfirst, hrest⟩ := hfollows
    obtain ⟨hgoes, htracks, hstale'⟩ := h.change ttvn (j := j) (n := n) hfirst
    have hnext := ih htracks hrest fun vid hvalid hs =>
      (hstale' vid hvalid hs).elim (hstale vid hvalid) id
    have hstep : ttUpdateChangesLoop (.plain j n) orig ttvn tt (c :: cs) =
        ttUpdateChangesLoop (.plain j n) orig ttvn
          (ttUpdateChange orig ttvn tt ⟨.plain j n, c⟩).1 cs := by
      rw [ttUpdateChangesLoop_eq, ttUpdateChangesLoop_eq, ttTurns, List.map_cons,
        ttUpdateChangesTurns]
      generalize ttUpdateChange orig ttvn tt ⟨.plain j n, c⟩ = after at hgoes
      obtain ⟨tt', added⟩ := after
      obtain rfl : added = true := hgoes
      rfl
    rw [hstep]
    exact hnext

/-! ### Receiving an announcement -/

/-- The VLANs of an originator after its checksums were computed. -/
def vlansWithCrc (tt : TtPriv) (orig : EthAddr) (vlanList : List OrigNodeVlan) :
    List OrigNodeVlan :=
  vlanList.map fun vlan => { vlan with crc := ttGlobalCrc tt orig vlan.vid }

/-- **The checksums are computed**, and nothing else changes. -/
lemma TtTracks.updateCrc (h : TtTracks orig T tt) {o : TtOrigNode}
    (ho : ttOrigHashFind tt orig = some o) :
    TtTracks orig T (ttGlobalUpdateCrc (.plain j n) tt orig) ∧
      ttOrigHashFind (ttGlobalUpdateCrc (.plain j n) tt orig) orig =
        some { o with vlanList := vlansWithCrc tt orig o.vlanList } := by
  have hnode : ttOrigHashFind (ttGlobalUpdateCrc (.plain j n) tt orig) orig =
      some { o with vlanList := vlansWithCrc tt orig o.vlanList } :=
    ttOrigHashFind_update_self
      (f := fun o => { o with vlanList := vlansWithCrc tt orig o.vlanList }) ho fun _ => rfl
  refine ⟨⟨?_, h.flagsOk, h.view, Option.isSome_iff_exists.mpr ⟨_, hnode⟩⟩, hnode⟩
  exact h.accounts.vlansUpdate orig (fun _ => rfl) (fun _ => rfl) fun _ => ⟨rfl, rfl⟩

/-- Saving changes leaves the VLANs, and whether the table is known. -/
lemma ttSaveOrigBuffer_rest (env : TtEnv) (changes : List TtChange) (o : TtOrigNode) :
    (ttSaveOrigBuffer env changes o).vlanList = o.vlanList ∧
      (ttSaveOrigBuffer env changes o).hasTt = o.hasTt := by
  unfold ttSaveOrigBuffer
  dsimp only
  split_ifs <;> exact ⟨rfl, rfl⟩

/-- **The announced checksums are found to be right** if the originator has exactly the VLANs that
are announced, with their checksums. -/
lemma ttGlobalCheckCrc_of_vlans {o : TtOrigNode} {vlans : List TtVlanData} (env : TtEnv)
    (hnd : (o.vlanList.map OrigNodeVlan.vid).Nodup)
    (hvids : ∀ vid, vid ∈ o.vlanList.map OrigNodeVlan.vid ↔ vid ∈ vlans.map TtVlanData.vid)
    (hcrc : ∀ vlan ∈ o.vlanList, TtCrc T vlan.vid vlan.crc)
    (hannounced : ∀ vlan ∈ vlans, TtCrc T vlan.vid vlan.crc) :
    ttGlobalCheckCrc env o vlans = true := by
  rw [ttGlobalCheckCrc, Bool.and_eq_true, List.all_eq_true]
  constructor
  · intro data hdata
    have hmem := (hvids data.vid).mpr (List.mem_map_of_mem hdata)
    have hsome : (origNodeVlanGet o data.vid).isSome = true := by
      obtain ⟨vlan, hvlan, hvid⟩ := List.mem_map.mp hmem
      rw [origNodeVlanGet, List.find?_isSome]
      exact ⟨vlan, hvlan, beq_iff_eq.mpr hvid⟩
    obtain ⟨vlan, hvlan⟩ := Option.isSome_iff_exists.mp hsome
    have hvid : vlan.vid = data.vid :=
      beq_iff_eq.mp (List.find?_some (p := fun d : OrigNodeVlan => d.vid == data.vid) hvlan)
    have hsame : vlan.crc = data.crc :=
      (hvid ▸ hcrc vlan (List.mem_of_find?_eq_some hvlan)).unique (hannounced data hdata)
    rw [hvlan, Option.any_some, hsame, beq_self_eq_true, Bool.or_true]
  · have hlen : o.vlanList.length ≤ vlans.length := by
      have hsub := (List.subperm_of_subset hnd fun vid h => (hvids vid).mp h).length_le
      rwa [List.length_map, List.length_map] at hsub
    rw [decide_eq_false (Nat.not_lt.mpr hlen), Bool.not_false]

/-- The version behind one that is not the last is the next one, as an integer too. -/
lemma ttvn_sub_eq_one {ttvn : U8} (h : ttvn ≠ 255) :
    ((ttvn + 1).toNat : ℤ) - ttvn.toNat = 1 := by
  have hlt : ttvn.toNat + 1 < 2 ^ 8 := by
    have hne : ttvn.toNat ≠ 255 := fun heq => h (BitVec.eq_of_toNat_eq heq)
    have hbound := ttvn.isLt
    omega
  have hone : (1 : U8).toNat = 1 := rfl
  rw [BitVec.toNat_add, hone, Nat.mod_eq_of_lt hlt]
  push_cast
  ring

/-- **A commit that the node can follow** leaves it in sync, and no request is sent.

**Proof sketch.** The version is the next one, as it does not wrap; the changes are applied, so that
the view is the table of the originator; the checksums are then those of the table, and so are the
announced ones. -/
theorem TtInSync.step {s : TtFollowed} (h : TtInSync orig s) {c : TtCommit} (hcorrect : c.Correct s)
    (hfollows : c.Follows orig s) :
    TtInSync orig (ttCommitStep orig s c).1 ∧ (ttCommitStep orig s c).2 = none := by
  obtain ⟨o, ho⟩ := Option.isSome_iff_exists.mp h.tracks.known
  have hhas : o.hasTt = true := by
    have hsome := h.hasTt
    rw [ho] at hsome
    exact Option.some.inj hsome
  have hlast : o.lastTtvn = s.ttvn := by
    have hsome := h.ttvn
    rw [ho] at hsome
    exact Option.some.inj hsome
  -- the changes are applied
  obtain ⟨hloop, hstale, hhasLoop⟩ := h.tracks.loop hfollows.changes hfollows.stale
  obtain ⟨o₁, ho₁, hhas₁⟩ := Option.map_eq_some_iff.mp hhasLoop
  -- they are stored with the version
  have hsaved := ttOrigHashFind_update_self (f := fun o =>
    { ttSaveOrigBuffer (.plain c.jiffies c.pos) c.changes o with lastTtvn := s.ttvn + 1 }) ho₁
      (orig_ttSaveOrigBuffer _ _)
  have htracks : TtTracks orig (c.table s.table)
      (ttUpdateChanges (.plain c.jiffies c.pos) s.node orig (s.ttvn + 1) c.changes) :=
    ⟨hloop.accounts.origUpdate orig (orig_ttSaveOrigBuffer _ _)
      fun o => (ttSaveOrigBuffer_rest _ _ o).1, hloop.flagsOk, hloop.view,
      Option.isSome_iff_exists.mpr ⟨_, hsaved⟩⟩
  -- and the checksums are computed
  obtain ⟨hfinal, hnode⟩ := htracks.updateCrc (j := c.jiffies) (n := c.pos) hsaved
  generalize hend : ttGlobalUpdateCrc (.plain c.jiffies c.pos)
    (ttUpdateChanges (.plain c.jiffies c.pos) s.node orig (s.ttvn + 1) c.changes) orig = ttEnd
    at hfinal hnode
  have hstaleEnd (vid : U16) (hvalid : vlanIdValid vid = true) (hs : TtStale orig ttEnd vid) :
      (c.table s.table).Serves vid := by
    rw [← hend] at hs
    exact hstale vid hvalid hs
  have hvids (vid : U16) := hfinal.mem_vlans hnode vid
  have hserved (vid : U16) : (vlanIdValid vid = true ∧
      ((c.table s.table).Serves vid ∨ TtStale orig ttEnd vid)) ↔ (c.table s.table).Serves vid :=
    ⟨fun hv => hv.2.elim id (hstaleEnd vid hv.1), fun hs => ⟨hcorrect.valid vid hs, Or.inl hs⟩⟩
  have hcrc : ∀ vlan ∈ vlansWithCrc
      (ttUpdateChanges (.plain c.jiffies c.pos) s.node orig (s.ttvn + 1) c.changes) orig
      (ttSaveOrigBuffer (.plain c.jiffies c.pos) c.changes o₁).vlanList,
      TtCrc (c.table s.table) vlan.vid vlan.crc := by
    intro vlan hvlan
    obtain ⟨vlan', -, rfl⟩ := List.mem_map.mp hvlan
    rw [← htracks.view]
    exact ttCrc_globalCrc htracks.accounts.keys orig vlan'.vid
  have hcheck := ttGlobalCheckCrc_of_vlans (.plain c.jiffies c.pos)
    (hfinal.accounts.vlans _ (List.mem_of_find?_eq_some hnode)).1
    (fun vid => (hvids vid).trans ((hserved vid).trans (hcorrect.vlans vid).symm)) hcrc hcorrect.crc
  have hstep : ttCommitStep orig s c = (⟨c.table s.table, s.ttvn + 1, ttEnd⟩, none) := by
    unfold ttCommitStep ttUpdateOrig
    rw [ho]
    dsimp only
    rw [hhas, hlast, ttvn_sub_eq_one hfollows.noWrap, beq_self_eq_true, Bool.or_true, if_pos rfl,
      if_neg (by rw [List.isEmpty_iff]; exact hcorrect.nonempty), hend, hnode, Option.any_some,
      hcheck, if_pos rfl]
  rw [hstep]
  refine ⟨⟨hfinal, ?_, ?_, ?_, ?_⟩, rfl⟩
  · rw [hnode, Option.map_some]
    exact congrArg some ((ttSaveOrigBuffer_rest _ _ o₁).2.trans hhas₁)
  · rw [hnode]
    rfl
  · intro o' ho' vid
    obtain rfl := Option.some.inj (hnode.symm.trans ho')
    exact (hvids vid).trans (hserved vid)
  · intro o' ho'
    obtain rfl := Option.some.inj (hnode.symm.trans ho')
    exact hcrc

end Tracks

/-- **The versions of a table are followed.**  In a run of commits that are announced rightly and
that the node can follow, it is in sync after each of them, and never sends a request.

**Proof sketch.** By `TtInSync.step` every commit keeps the node in sync. -/
theorem tt_versions_tracked (orig : EthAddr) {s : TtFollowed} (h : TtInSync orig s)
    {cs : List TtCommit}
    (hcorrect : Run.AllSteps (fun s c => (ttCommitStep orig s c).1) (fun s c => c.Correct s) s cs)
    (hfollows : Run.AllSteps (fun s c => (ttCommitStep orig s c).1) (fun s c => c.Follows orig s)
      s cs) :
    (∀ t ∈ Run.states (fun s c => (ttCommitStep orig s c).1) s cs, TtInSync orig t) ∧
      Run.AllSteps (fun s c => (ttCommitStep orig s c).1)
        (fun s c => (ttCommitStep orig s c).2 = none) s cs := by
  have hboth := hcorrect.and hfollows
  constructor
  · exact hboth.forall_mem_states (TtInSync orig) (fun s c hs hc => (hs.step hc.1 hc.2).1) h
  · exact hboth.imp (TtInSync orig) (fun s c hs hc => (hs.step hc.1 hc.2).symm) h

/-! ### The first clients of an originator -/

/-- An originator without clients at some version, and a node that knows it. -/
def ttNoClients (ttvn : U8) : TtFollowed where
  table := fun _ => none
  ttvn := ttvn
  node := ⟨.new [0], [], [⟨0x020000000002, true, ttvn, none, 0, []⟩]⟩

/-- Its first client, without a VLAN tag. -/
def ttFirstClient : TtCommit where
  changes := [⟨0, 0x0200000000c1, 0⟩]
  vlans := [⟨ttEntryCrc 0 0 0x0200000000c1, 0⟩]
  jiffies := 0
  pos := fun _ _ => 0

/-- The first client leaves, and another one, on a wireless interface, comes in VLAN 5. -/
def ttSecondClient : TtCommit where
  changes := [⟨0x01, 0x0200000000c1, 0⟩, ⟨0x10, 0x0200000000c2, 0x8005⟩]
  vlans := [⟨ttEntryCrc 0x8005 0x10 0x0200000000c2, 0x8005⟩]
  jiffies := 1000
  pos := fun _ _ => 0

/-- A table with one client. -/
def ttOnlyClient (addr : EthAddr) (vid : U16) (flags : U8) : TtTable :=
  Function.update (fun _ => none) (addr, vid) (some flags)

lemma ttNoClients_inSync (ttvn : U8) : TtInSync 0x020000000002 (ttNoClients ttvn) := by
  have hfind (o : TtOrigNode)
      (ho : ttOrigHashFind (ttNoClients ttvn).node 0x020000000002 = some o) : o.vlanList = [] := by
    obtain rfl := Option.some.inj ho
    rfl
  have htally (k : EthAddr × U16) : ttTally (ttNoClients ttvn).node k = none := by
    rw [ttTally, Option.map_eq_none_iff, Option.bind_eq_none_iff]
    intro o ho
    have hmem := List.mem_of_find?_eq_some ho
    rw [List.mem_singleton.mp hmem]
    rfl
  have haccounts : TtAccounts (fun k => k.1 ≠ 0x020000000002) (ttNoClients ttvn).node := by
    refine ⟨List.nodup_nil, fun e he => absurd he List.not_mem_nil, fun o ho => ?_,
      fun k _ => ?_, fun k hk => ?_⟩
    · rw [List.mem_singleton.mp ho]
      exact ⟨List.nodup_nil, fun vlan hvlan => absurd hvlan List.not_mem_nil⟩
    · rw [Tally.val, htally]
      rfl
    · rw [htally] at hk
      cases hk
  refine ⟨⟨haccounts, fun e he => absurd he List.not_mem_nil, rfl, rfl⟩, rfl, rfl,
    fun o ho vid => ?_, fun o ho vlan hvlan => ?_⟩
  · rw [hfind o ho]
    refine iff_of_false List.not_mem_nil ?_
    rintro ⟨_, h⟩
    exact Bool.false_ne_true h
  · rw [hfind o ho] at hvlan
    exact absurd hvlan List.not_mem_nil

lemma ttOnlyClient_serves (addr : EthAddr) (vid : U16) (flags : U8) (vid' : U16) :
    (ttOnlyClient addr vid flags).Serves vid' ↔ vid' = vid := by
  unfold ttOnlyClient
  constructor
  · rintro ⟨addr', hserved⟩
    by_contra hvid
    rw [Function.update_of_ne fun h => hvid (congrArg Prod.snd h)] at hserved
    cases hserved
  · rintro rfl
    exact ⟨addr, by rw [Function.update_self, Option.isSome_some]⟩

/-- A commit after which there is one client is right if it announces its VLAN with its
checksum. -/
lemma TtCommit.Correct.of_onlyClient {s : TtFollowed} {c : TtCommit} {addr : EthAddr} {vid : U16}
    {flags : U8} (hchanges : c.changes ≠ [])
    (htable : c.table s.table = ttOnlyClient addr vid flags)
    (hvlans : c.vlans = [⟨ttEntryCrc vid flags addr, vid⟩]) (hvid : vlanIdValid vid = true) :
    c.Correct s where
  nonempty := hchanges
  vlans vid' := by
    rw [hvlans, htable, ttOnlyClient_serves]
    exact List.mem_singleton
  valid vid' hserved := by
    rw [htable, ttOnlyClient_serves] at hserved
    rw [hserved, hvid]
  crc vlan hvlan := by
    rw [hvlans, List.mem_singleton] at hvlan
    rw [hvlan, htable]
    refine ⟨[(addr, flags)], List.nodup_singleton _, fun addr' flags' => ?_, ?_⟩
    · rw [List.mem_singleton, ttOnlyClient, Function.update_apply]
      by_cases haddr : addr' = addr
      · subst haddr
        rw [if_pos rfl, Prod.mk.injEq, eq_self_iff_true, true_and, Option.some.injEq, eq_comm]
      · rw [if_neg fun h => haddr (congrArg Prod.fst h)]
        exact iff_of_false (fun h => haddr (congrArg Prod.fst h)) (Option.some_ne_none flags').symm
    · rw [Checksum.xorSum_cons, Checksum.xorSum_nil]
      dsimp only
      generalize ttEntryCrc vid flags addr = crc
      exact BitVec.xor_zero.symm

lemma ttFirstClient_table : ttFirstClient.table (fun _ => none) =
    ttOnlyClient 0x0200000000c1 0 0 := by
  have hchange : (⟨0, 0x0200000000c1, 0⟩ : TtChange).toChange = ⟨(0x0200000000c1, 0), some 0⟩ := rfl
  rw [TtCommit.table, ttFirstClient, List.map_cons, hchange]
  rfl

lemma ttSecondClient_table : ttSecondClient.table (ttOnlyClient 0x0200000000c1 0 0) =
    ttOnlyClient 0x0200000000c2 0x8005 0x10 := by
  have hdel : (⟨0x01, 0x0200000000c1, 0⟩ : TtChange).toChange = ⟨(0x0200000000c1, 0), none⟩ := rfl
  have hadd : (⟨0x10, 0x0200000000c2, 0x8005⟩ : TtChange).toChange =
      ⟨(0x0200000000c2, 0x8005), some 0x10⟩ := rfl
  rw [TtCommit.table, ttSecondClient, List.map_cons, List.map_cons, hdel, hadd, List.map_nil,
    Changeset.applyAll_cons, Changeset.applyAll_cons, Changeset.applyAll_nil]
  unfold Changeset.Change.apply ttOnlyClient
  rw [Function.update_idem, Function.update_eq_self]

lemma ttFirstClient_correct (ttvn : U8) : ttFirstClient.Correct (ttNoClients ttvn) :=
  .of_onlyClient (List.cons_ne_nil _ _) ttFirstClient_table rfl rfl

lemma ttSecondClient_correct (ttvn : U8) :
    ttSecondClient.Correct (ttCommitStep 0x020000000002 (ttNoClients ttvn) ttFirstClient).1 := by
  refine .of_onlyClient (List.cons_ne_nil _ _) ?_ rfl rfl
  have htable : (ttCommitStep 0x020000000002 (ttNoClients ttvn) ttFirstClient).1.table =
      ttFirstClient.table fun _ => none := rfl
  rw [htable, ttFirstClient_table, ttSecondClient_table]

/-- The node follows the originator from version 4 to version 6. -/
theorem tt_versions_tracked_two_clients :
    (∀ t ∈ Run.states (fun s c => (ttCommitStep 0x020000000002 s c).1) (ttNoClients 4)
        [ttFirstClient, ttSecondClient], TtInSync 0x020000000002 t) ∧
      Run.AllSteps (fun s c => (ttCommitStep 0x020000000002 s c).1)
        (fun s c => (ttCommitStep 0x020000000002 s c).2 = none) (ttNoClients 4)
        [ttFirstClient, ttSecondClient] := by
  refine tt_versions_tracked 0x020000000002 (ttNoClients_inSync 4)
    ⟨ttFirstClient_correct 4, ttSecondClient_correct 4, trivial⟩
    ⟨⟨by decide, ?_, ⟨?_, trivial⟩⟩, ⟨by decide, ?_, ⟨?_, ?_, trivial⟩⟩, trivial⟩
  · rintro vid - ⟨e, he, -⟩
    exact absurd he List.not_mem_nil
  · exact fun _ _ => by decide
  · -- the client that is known counts
    have hvalid : ∀ e ∈ (ttCommitStep 0x020000000002 (ttNoClients 4)
        ttFirstClient).1.node.globalHash, ttGlobalValid 0x020000000002 e ≠ none := by decide +kernel
    rintro vid - ⟨e, he, -, -, hnone⟩
    exact absurd hnone (hvalid e he)
  · rintro - ⟨hroaming, -⟩
    exact absurd hroaming (by decide)
  · exact fun _ _ => by decide

/-- **At the wrap of the version a request is sent**: the node is in sync at version 255, and the
next commit is announced rightly, but the node asks for the full table and stays at version 255. -/
theorem tt_version_wrap_not_tracked :
    TtInSync 0x020000000002 (ttNoClients 255) ∧ ttFirstClient.Correct (ttNoClients 255) ∧
      (ttCommitStep 0x020000000002 (ttNoClients 255) ttFirstClient).2 =
        some ⟨0, ttFirstClient.vlans, true⟩ ∧
      ¬ TtInSync 0x020000000002
        (ttCommitStep 0x020000000002 (ttNoClients 255) ttFirstClient).1 := by
  refine ⟨ttNoClients_inSync 255, ttFirstClient_correct 255, rfl, fun h => ?_⟩
  have hvn : some (255 : U8) = some 0 := h.ttvn
  exact absurd hvn (by decide)

end Batadv
