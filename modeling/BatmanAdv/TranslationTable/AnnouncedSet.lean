import BatmanAdv.TranslationTable.LocalTable
import BatmanAdv.TranslationTable.View

set_option relaxedAutoImplicit false
set_option autoImplicit false

/-!
# Checksums of announced clients (`translation-table.c`)

A node announces the checksums of its own clients, and another node computes those of the clients
that it has in its global table for it.  The one walks the local table, leaves out new clients and
masks the flags of an entry; the other walks the global table, leaves out roaming and temporary
clients and takes the flags that are kept for the originator as they are.

The flags of an originator are those of the last addition, as far as they are kept in sync.  Not
every addition counts, though: additions for a backbone gateway are ignored, and so are temporary
ones of a client that is known already, which every received frame causes.

## Main definitions

* `Batadv.TtTableCall`, `Batadv.ttTableStep` — the calls that change the global table.
* `Batadv.TtHistory`, `Batadv.ttHistoryStep` — the tables with the flags of the last additions.
* `Batadv.TtTableCall.announces` — an addition that counts.
* `Batadv.ttLocalAnnounced`, `Batadv.ttGlobalAnnounced` — the clients in a VLAN with their flags.

## Main results

* `Batadv.TtGivenOk.step` — the flags that are kept are those of the last addition that counts.
* `Batadv.tt_crc_of_announced_set` — checksums of the same clients are equal, and one client more
  changes a checksum by its own.
-/

namespace Batadv

variable (msecsToJiffies : ℕ → Jiffies)

/-! ### Calls -/

/-- A call that changes the global table, with what it reads. -/
structure TtTableCall where
  env : TtEnv
  op : TtGlobalOp

/-- The tables after a call. -/
def ttTableStep (tt : TtPriv) (c : TtTableCall) : TtPriv :=
  match c.op with
  | .origNew orig => ttOrigNew tt orig
  | .add orig addr vid flags ttvn => (ttGlobalAdd c.env tt orig addr vid flags ttvn).1
  | .del orig addr vid roaming => ttGlobalDel c.env tt orig addr vid roaming
  | .delOrig orig matchVid => ttGlobalDelOrig c.env tt orig matchVid
  | .localAdd a => ttPrivLocalAdd c.env tt a
  | .purge => ttGlobalPurge msecsToJiffies c.env tt

/-- The flags of the last addition of a client by an originator. -/
abbrev TtGiven := EthAddr → EthAddr × U16 → U16

/-- The tables, with the flags of the last additions. -/
structure TtHistory where
  tt : TtPriv
  given : TtGiven

/-- An addition counts unless it is for a backbone gateway, or a temporary one of a client that is
known already. -/
def TtTableCall.announces (tt : TtPriv) (c : TtTableCall) : Bool :=
  match c.op with
  | .add orig addr vid flags _ =>
    !c.env.isBackboneGwOrig orig vid &&
      (!hasFlag flags TT_CLIENT_TEMP || (ttGlobalHashFind tt addr vid).isNone)
  | _ => false

/-- The flags of the last additions after a call, if only those additions count that `counts`
says. -/
def ttGivenStep (counts : TtPriv → TtTableCall → Bool) (s : TtHistory) (c : TtTableCall) :
    TtGiven :=
  match c.op with
  | .add orig addr vid flags _ =>
    if counts s.tt c then
      Function.update s.given orig (Function.update (s.given orig) (addr, vid) flags)
    else s.given
  | _ => s.given

/-- The tables after a call, with the flags of the last additions. -/
def ttHistoryStep (counts : TtPriv → TtTableCall → Bool) (s : TtHistory) (c : TtTableCall) :
    TtHistory :=
  ⟨ttTableStep msecsToJiffies s.tt c, ttGivenStep counts s c⟩

/-- No client was ever added. -/
def TtHistory.new (vids : List U16) : TtHistory := ⟨.new vids, fun _ _ => 0⟩

/-! ### Announced clients -/

/-- The clients of the local table in a VLAN that are not new, with the flags that are kept in
sync. -/
def ttLocalAnnounced (localHash : List TtLocalEntry) (vid : U16) : Set (EthAddr × U8) :=
  {c | ∃ e ∈ localHash, e.vid = vid ∧ hasFlag e.flags TT_CLIENT_NEW = false ∧
    c = (e.addr, ttSync e.flags)}

/-- The clients of the global table in a VLAN that list an originator and are neither roaming nor
temporary, with those flags of their last addition by the originator that are kept in sync. -/
def ttGlobalAnnounced (s : TtHistory) (orig : EthAddr) (vid : U16) : Set (EthAddr × U8) :=
  {c | ∃ e ∈ s.tt.globalHash, e.vid = vid ∧ e.Counts ∧ (e.origEntryFind orig).isSome = true ∧
    c = (e.addr, ttSync (s.given orig e.key))}

/-! ### The flags that are kept -/

/-- The flags that an entry keeps are those of the last additions, if it is not a temporary one. -/
def TtGlobalEntry.GivenOk (given : TtGiven) (e : TtGlobalEntry) : Prop :=
  e.flags.getLsbD 11 = false → ∀ o ∈ e.origList, o.flags = ttSync (given o.origNode e.key)

/-- **The flags that are kept are those of the last additions**; no client has two entries. -/
structure TtGivenOk (given : TtGiven) (globalHash : List TtGlobalEntry) : Prop where
  keys : (globalHash.map TtGlobalEntry.key).Nodup
  given : ∀ e ∈ globalHash, e.GivenOk given

section Given

variable {given : TtGiven} {tt : TtPriv} {e e' : TtGlobalEntry} {env : TtEnv}

/-- An entry of the same client with fewer originators. -/
lemma TtGlobalEntry.GivenOk.of_subset (h : e.GivenOk given) (hkey : e'.key = e.key)
    (htemp : e'.flags.getLsbD 11 = e.flags.getLsbD 11) (hsub : e'.origList ⊆ e.origList) :
    e'.GivenOk given := by
  intro hfalse o ho
  rw [hkey]
  exact h (htemp.symm.trans hfalse) o (hsub ho)

/-- An entry is written back; the last additions of other clients are the same. -/
lemma TtGivenOk.put {given' : TtGiven} (h : TtGivenOk given tt.globalHash) (he : e.GivenOk given')
    (hsame : ∀ orig, ∀ k ≠ e.key, given' orig k = given orig k) :
    TtGivenOk given' (ttGlobalPut tt e).globalHash := by
  unfold ttGlobalPut
  have hkeys : (tt.globalHash.map fun d => if d.isFor e.addr e.vid then e else d).map
      TtGlobalEntry.key = tt.globalHash.map TtGlobalEntry.key := by
    rw [List.map_map]
    refine List.map_congr_left fun d _ => ?_
    dsimp only [Function.comp_apply]
    split_ifs with hd
    · exact (TtGlobalEntry.isFor_iff.mp hd).symm
    · rfl
  refine ⟨hkeys ▸ h.keys, fun d hd => ?_⟩
  obtain ⟨d', hd', rfl⟩ := List.mem_map.mp hd
  split_ifs with hfor
  · exact he
  · intro hfalse o ho
    rw [hsame o.origNode d'.key fun hkey => hfor (TtGlobalEntry.isFor_iff.mpr hkey)]
    exact h.given d' hd' hfalse o ho

/-- Additions of a client that has no entry. -/
lemma TtGivenOk.of_find_none {given' : TtGiven} (h : TtGivenOk given tt.globalHash) {addr : EthAddr}
    {vid : U16} (hfind : ttGlobalHashFind tt addr vid = none)
    (hsame : ∀ orig, ∀ k ≠ (addr, vid), given' orig k = given orig k) :
    TtGivenOk given' tt.globalHash := by
  refine ⟨h.keys, fun d hd hfalse o ho => ?_⟩
  have hne : d.key ≠ (addr, vid) := fun hkey =>
    List.find?_eq_none.mp hfind d hd (TtGlobalEntry.isFor_iff.mpr hkey)
  rw [hsame o.origNode d.key hne]
  exact h.given d hd hfalse o ho

/-- Entries are taken out. -/
lemma TtGivenOk.filter (h : TtGivenOk given tt.globalHash) (p : TtGlobalEntry → Bool) :
    TtGivenOk given (tt.globalHash.filter p) :=
  ⟨h.keys.sublist (List.filter_sublist.map _),
    fun d hd => h.given d (List.mem_of_mem_filter hd)⟩

/-- A new entry, which has no originators yet, is put in. -/
lemma TtGivenOk.insert (h : TtGivenOk given tt.globalHash) (n : ℕ)
    (hfind : ttGlobalHashFind tt e.addr e.vid = none) (hlist : e.origList = []) :
    TtGivenOk given (tt.globalHash.take n ++ e :: tt.globalHash.drop n) := by
  have hperm : (tt.globalHash.take n ++ e :: tt.globalHash.drop n).Perm (e :: tt.globalHash) := by
    have hmiddle : (tt.globalHash.take n ++ e :: tt.globalHash.drop n).Perm
        (e :: (tt.globalHash.take n ++ tt.globalHash.drop n)) := List.perm_middle
    rwa [List.take_append_drop] at hmiddle
  refine ⟨?_, fun d hd => ?_⟩
  · rw [(hperm.map TtGlobalEntry.key).nodup_iff, List.map_cons, List.nodup_cons]
    refine ⟨fun hmem => ?_, h.keys⟩
    obtain ⟨c, hc, hkey⟩ := List.mem_map.mp hmem
    exact List.find?_eq_none.mp hfind c hc (TtGlobalEntry.isFor_iff.mpr hkey)
  · rcases List.mem_cons.mp (hperm.subset hd) with rfl | hd
    · intro _ o ho
      rw [hlist] at ho
      exact absurd ho List.not_mem_nil
    · exact h.given d hd

/-- The originators of an entry after one was added to it: this one with its flags, if there was
memory for it, and those that were there before. -/
lemma ttGlobalOrigEntryAdd_origList (env : TtEnv) (tt : TtPriv) (e : TtGlobalEntry)
    (orig : EthAddr) (ttvn flags : U8) :
    (ttGlobalOrigEntryAdd env tt e orig ttvn flags).1.globalHash = tt.globalHash ∧
      (ttGlobalOrigEntryAdd env tt e orig ttvn flags).2.key = e.key ∧
      (ttGlobalOrigEntryAdd env tt e orig ttvn flags).2.flags.getLsbD 11 = e.flags.getLsbD 11 ∧
      ∀ o ∈ (ttGlobalOrigEntryAdd env tt e orig ttvn flags).2.origList,
        o.origNode = orig ∧ o.flags = flags ∨ o.origNode ≠ orig ∧ o ∈ e.origList := by
  unfold ttGlobalOrigEntryAdd
  cases hfind : e.origEntryFind orig with
  | some d =>
    refine ⟨rfl, rfl, TtGlobalEntry.temp_syncFlags _, fun o ho => ?_⟩
    obtain ⟨o', ho', rfl⟩ := List.mem_map.mp ho
    split_ifs with horig
    · exact Or.inl ⟨eq_of_beq horig, rfl⟩
    · exact Or.inr ⟨fun h => horig (beq_iff_eq.mpr h), ho'⟩
  | none =>
    have hothers : ∀ o ∈ e.origList, o.origNode ≠ orig := fun o ho h =>
      List.find?_eq_none.mp hfind o ho (beq_iff_eq.mpr h)
    split_ifs
    · exact ⟨rfl, rfl, rfl, fun o ho => Or.inr ⟨hothers o ho, ho⟩⟩
    · refine ⟨rfl, rfl, TtGlobalEntry.temp_syncFlags _, fun o ho => ?_⟩
      rcases List.mem_cons.mp ho with rfl | ho
      · exact Or.inl ⟨rfl, rfl⟩
      · exact Or.inr ⟨hothers o ho, ho⟩

/-- **An originator is added to an entry**, which is written back. -/
lemma TtGivenOk.addOrigEntry {given' : TtGiven} (h : TtGivenOk given tt.globalHash) {orig : EthAddr}
    {flags : U16} {ttvn : U8}
    (hentry : e.flags.getLsbD 11 = true ∨ e.GivenOk given ∧ given' orig e.key = flags ∧
      ∀ orig' ≠ orig, given' orig' e.key = given orig' e.key)
    (hsame : ∀ orig, ∀ k ≠ e.key, given' orig k = given orig k) :
    TtGivenOk given' (ttGlobalAddOrigEntry env tt e orig flags ttvn).globalHash := by
  obtain ⟨hhash, hkey, htemp, hlist⟩ := ttGlobalOrigEntryAdd_origList env tt e orig ttvn
    (ttSync flags)
  obtain ⟨e', hput, hkey', hlist', -, htemp'⟩ := ttGlobalAddRemoveLocal_put env
    (ttGlobalOrigEntryAdd env tt e orig ttvn (ttSync flags)).1
    (ttGlobalOrigEntryAdd env tt e orig ttvn (ttSync flags)).2 flags
  have hall : TtGivenOk given' (ttGlobalPut tt e').globalHash := by
    refine h.put ?_ fun orig k hk =>
      hsame orig k fun h => hk (h.trans (hkey'.trans hkey).symm)
    intro hfalse o ho
    rw [hlist'] at ho
    rw [hkey', hkey]
    rcases hentry with htrue | ⟨hok, hnew, hold⟩
    · rw [htemp', htemp, htrue] at hfalse
      cases hfalse
    · rcases hlist o ho with ⟨rfl, hflags⟩ | ⟨hne, ho⟩
      · rw [hnew, hflags]
      · rw [hold o.origNode hne]
        exact hok ((htemp'.trans htemp).symm.trans hfalse) o ho
  unfold ttGlobalPut at hall
  unfold ttGlobalAddOrigEntry
  dsimp only
  rw [← ttSync, hput, ttGlobalPut]
  dsimp only
  rw [hhash]
  exact hall

/-- When what is known of a temporary or a roaming client is dropped, no originator is left, or the
client was not a temporary one and all are. -/
lemma ttGlobalAddExisting_origList (env : TtEnv) (tt : TtPriv) (e : TtGlobalEntry) (flags : U16) :
    (ttGlobalAddExisting env tt e flags).2.origList = [] ∨
      e.flags.getLsbD 11 = false ∧
        (ttGlobalAddExisting env tt e flags).2.origList = e.origList := by
  have hwiped (tt : TtPriv) (e : TtGlobalEntry) :
      (ttGlobalDelOrigList env tt e).2.origList = [] :=
    List.filter_eq_nil_iff.mpr fun o _ => by simp
  unfold ttGlobalAddExisting
  by_cases htemp : hasFlag e.flags TT_CLIENT_TEMP = true
  · rw [if_pos htemp]
    dsimp only
    split_ifs
    · exact Or.inl (hwiped tt _)
    · exact Or.inl (hwiped tt _)
    · exact Or.inl (hwiped tt _)
    · exact Or.inl (hwiped tt _)
  · rw [if_neg htemp]
    rw [Bool.not_eq_true, hasFlag_temp] at htemp
    dsimp only
    split_ifs
    · exact Or.inl (hwiped tt _)
    · exact Or.inr ⟨htemp, rfl⟩
    · exact Or.inl (hwiped tt _)
    · exact Or.inr ⟨htemp, rfl⟩

/-- What is known of a temporary or a roaming client is dropped. -/
lemma TtGlobalEntry.GivenOk.addExisting (h : e.GivenOk given) (env : TtEnv) (tt : TtPriv)
    (flags : U16) :
    (ttGlobalAddExisting env tt e flags).2.GivenOk given := by
  intro _ o ho
  rw [(ttGlobalAddExisting_same env tt e flags).2]
  rcases ttGlobalAddExisting_origList env tt e flags with hnil | ⟨htemp, hlist⟩
  · rw [hnil] at ho
    exact absurd ho List.not_mem_nil
  · rw [hlist] at ho
    exact h htemp o ho

/-- **A client is added.**  The flags of this addition are the ones that are kept if it counts.

**Proof sketch.** A client without an entry gets one without originators at first.  To one that has
an entry the originator is added, and if it was temporary or roaming the others are dropped before.
A temporary addition leaves the originators of a client that is not temporary. -/
lemma TtGivenOk.globalAdd {given' : TtGiven} (h : TtGivenOk given tt.globalHash)
    {orig addr : EthAddr} {vid flags : U16} (ttvn : U8)
    (hgiven : given' =
      if !env.isBackboneGwOrig orig vid &&
          (!hasFlag flags TT_CLIENT_TEMP || (ttGlobalHashFind tt addr vid).isNone) then
        Function.update given orig (Function.update (given orig) (addr, vid) flags)
      else given) :
    TtGivenOk given' (ttGlobalAdd env tt orig addr vid flags ttvn).1.globalHash := by
  have hsame (orig' : EthAddr) (k : EthAddr × U16) (hk : k ≠ (addr, vid)) :
      given' orig' k = given orig' k := by
    rw [hgiven]
    split_ifs
    · by_cases horig : orig' = orig
      · rw [horig, Function.update_self, Function.update_of_ne hk]
      · rw [Function.update_of_ne horig]
    · rfl
  unfold ttGlobalAdd
  cases hbackbone : env.isBackboneGwOrig orig vid with
  | true =>
    rw [hbackbone, Bool.not_true, Bool.false_and, if_neg Bool.false_ne_true] at hgiven
    rw [if_pos rfl, hgiven]
    exact h
  | false =>
    rw [hbackbone, Bool.not_false, Bool.true_and] at hgiven
    rw [if_neg Bool.false_ne_true]
    cases hfind : ttGlobalHashFind tt addr vid with
    | none =>
      rw [hfind, Option.isNone_none, Bool.or_true, if_pos rfl] at hgiven
      have hold : TtGivenOk given' tt.globalHash := h.of_find_none hfind hsame
      dsimp only
      split_ifs
      · exact hold
      · exact hold
      · generalize hnew : ttGlobalNewEntry env addr vid flags = d
        have hkey : d.key = (addr, vid) := by rw [← hnew]; rfl
        have hlist : d.origList = [] := by rw [← hnew]; rfl
        have hnone : ttGlobalHashFind tt d.addr d.vid = none := by rw [← hnew]; exact hfind
        have hinsert := h.insert (env.pos addr vid) hnone hlist
        refine TtGivenOk.addOrigEntry (show TtGivenOk given _ from hinsert)
          (Or.inr ⟨?_, ?_, ?_⟩) (hkey ▸ hsame)
        · exact fun _ o ho => absurd (hlist ▸ ho) List.not_mem_nil
        · rw [hkey, hgiven, Function.update_self, Function.update_self]
        · intro orig' horig
          rw [hgiven, Function.update_of_ne horig]
    | some e =>
      have hmem := List.mem_of_find?_eq_some hfind
      have hkey : e.key = (addr, vid) := key_of_find hfind
      rw [hfind, Option.isNone_some, Bool.or_false] at hgiven
      dsimp only
      cases htemp : hasFlag flags TT_CLIENT_TEMP with
      | true =>
        rw [htemp, Bool.not_true, if_neg Bool.false_ne_true] at hgiven
        rw [if_pos rfl, hgiven]
        split_ifs with hlocal hknown hlisted
        · exact h
        · exact h
        · obtain ⟨e', hput, hkey', hlist, -, htemp'⟩ := ttGlobalAddRemoveLocal_put env tt e flags
          rw [hput]
          exact h.put ((h.given e hmem).of_subset hkey' htemp' (hlist ▸ List.Subset.refl _))
            fun _ _ _ => rfl
        · rw [Bool.not_eq_true, Bool.not_eq_false', hasFlag_temp] at hknown
          have hsame := ttGlobalDelOrigEntries_same env (fun _ => true) tt e
          have hdel : TtGivenOk given (ttGlobalDelOrigList env tt e).1.globalHash := by
            rw [ttGlobalDelOrigList, hsame.globalHash]
            exact h
          exact hdel.addOrigEntry (Or.inl hknown) fun _ _ _ => rfl
      | false =>
        rw [htemp, Bool.not_false, if_pos rfl] at hgiven
        rw [Bool.false_and, if_neg Bool.false_ne_true, if_neg Bool.false_ne_true]
        have hok := (h.given e hmem).addExisting env tt flags
        obtain ⟨hsameTables, hkey'⟩ := ttGlobalAddExisting_same env tt e flags
        rw [← hsameTables.globalHash] at h
        refine h.addOrigEntry (Or.inr ⟨hok, ?_, ?_⟩) ?_
        · rw [hkey', hkey, hgiven, Function.update_self, Function.update_self]
        · intro orig' horig
          rw [hgiven, Function.update_of_ne horig]
        · rw [hkey', hkey]
          exact hsame

/-- The originators that are left when some are taken off an entry. -/
lemma TtGlobalEntry.GivenOk.delOrigEntries (h : e.GivenOk given) (p : EthAddr → Bool) :
    (ttGlobalDelOrigEntries env p tt e).2.GivenOk given :=
  h.of_subset rfl rfl fun _ ho => List.mem_of_mem_filter ho

/-- **A client is deleted.** -/
lemma TtGivenOk.globalDel (h : TtGivenOk given tt.globalHash) (orig addr : EthAddr) (vid : U16)
    (roaming : Bool) : TtGivenOk given (ttGlobalDel env tt orig addr vid roaming).globalHash := by
  unfold ttGlobalDel
  cases hfind : ttGlobalHashFind tt addr vid with
  | none => exact h
  | some e =>
    have hok := h.given e (List.mem_of_find?_eq_some hfind)
    have hdel (p : EthAddr → Bool) :
        TtGivenOk given (ttGlobalDelOrigEntries env p tt e).1.globalHash := by
      rw [(ttGlobalDelOrigEntries_same env p tt e).globalHash]
      exact h
    unfold ttGlobalDelRoaming
    dsimp only
    split_ifs
    · exact (hdel _).filter _
    · exact (hdel _).put (hok.delOrigEntries _) fun _ _ _ => rfl
    · exact (hdel _).filter _
    · refine h.put (hok.of_subset rfl ?_ (List.Subset.refl _)) fun _ _ _ => rfl
      have hbit : TT_CLIENT_ROAM.getLsbD 11 = false := by decide
      dsimp only
      rw [BitVec.getLsbD_or, hbit, Bool.or_false]
    · exact (hdel _).put (hok.delOrigEntries _) fun _ _ _ => rfl

/-- **All clients of an originator are deleted.** -/
lemma TtGivenOk.globalDelOrig (h : TtGivenOk given tt.globalHash) (orig : EthAddr)
    (matchVid : Option U16) :
    TtGivenOk given (ttGlobalDelOrig env tt orig matchVid).globalHash := by
  unfold ttGlobalDelOrig
  dsimp only
  have hentry (e c : TtGlobalEntry) (hc : (if (matchVid.all fun vid => e.vid == vid) then
      if (ttGlobalDelOrigNode env tt e orig).2.origList.isEmpty then none
      else some (ttGlobalDelOrigNode env tt e orig).2
    else some e) = some c) : c.key = e.key ∧ (e.GivenOk given → c.GivenOk given) := by
    split_ifs at hc
    · obtain rfl := Option.some.inj hc
      exact ⟨rfl, fun hok => hok.delOrigEntries _⟩
    · obtain rfl := Option.some.inj hc
      exact ⟨rfl, id⟩
  refine ⟨h.keys.sublist (map_key_filterMap_sublist (fun e c hc => (hentry e c hc).1) _),
    fun c hc => ?_⟩
  obtain ⟨e, he, hec⟩ := List.mem_filterMap.mp hc
  exact (hentry e c hec).2 (h.given e he)

/-- **A client of others is a local one now.** -/
lemma TtGivenOk.privLocalAdd (h : TtGivenOk given tt.globalHash) (a : TtLocalAddArgs) :
    TtGivenOk given (ttPrivLocalAdd env tt a).globalHash := by
  unfold ttPrivLocalAdd
  dsimp only
  split
  · exact h
  generalize htt : ({ tt with ttLocal := (ttLocalAdd tt.ttLocal a).1 } : TtPriv) = tt'
  have h' : TtGivenOk given tt'.globalHash := by rw [← htt]; exact h
  cases hfind : ttGlobalHashFind tt' a.addr a.vid with
  | none => exact h'
  | some e =>
    have hok := h'.given e (List.mem_of_find?_eq_some hfind)
    dsimp only
    split_ifs
    · exact h'
    · have hdel : TtGivenOk given (ttGlobalDelOrigList env tt' e).1.globalHash := by
        rw [ttGlobalDelOrigList, (ttGlobalDelOrigEntries_same env _ tt' e).globalHash]
        exact h'
      exact hdel.filter _
    · refine h'.put (hok.of_subset rfl ?_ (List.Subset.refl _)) fun _ _ _ => rfl
      have hbit : TT_CLIENT_ROAM.getLsbD 11 = false := by decide
      dsimp only
      rw [BitVec.getLsbD_or, hbit, Bool.or_false]

end Given

/-- **The flags that are kept are those of the last addition that counts**, after every call. -/
theorem TtGivenOk.step {s : TtHistory} (h : TtGivenOk s.given s.tt.globalHash) (c : TtTableCall) :
    let s' := ttHistoryStep msecsToJiffies (fun tt c => c.announces tt) s c
    TtGivenOk s'.given s'.tt.globalHash := by
  obtain ⟨env, op⟩ := c
  unfold ttHistoryStep ttTableStep ttGivenStep
  cases op with
  | origNew orig =>
    have hhash : (ttOrigNew s.tt orig).globalHash = s.tt.globalHash := by
      unfold ttOrigNew
      split_ifs <;> rfl
    dsimp only
    rw [hhash]
    exact h
  | add orig addr vid flags ttvn => exact h.globalAdd ttvn rfl
  | del orig addr vid roaming => exact h.globalDel orig addr vid roaming
  | delOrig orig matchVid => exact h.globalDelOrig orig matchVid
  | localAdd a => exact h.privLocalAdd a
  | purge => exact h.filter _

/-! ### Checksums -/

section Checksums

/-- The clients of the local table that are not new, with the flags that are kept in sync. -/
def ttLocalCommitted (tt : TtLocal) : TtTable := fun key =>
  (ttLocalHashFind tt key.1 key.2).bind fun e =>
    if hasFlag e.flags TT_CLIENT_NEW then none else some (ttSync e.flags)

lemma ttLocalCommitted_eq_some {tt : TtLocal} (hwf : tt.Wf) {addr : EthAddr} {vid : U16}
    {flags : U8} :
    ttLocalCommitted tt (addr, vid) = some flags ↔
      (addr, flags) ∈ ttLocalAnnounced tt.localHash vid := by
  rw [ttLocalCommitted, Option.bind_eq_some_iff]
  constructor
  · rintro ⟨e, hfind, hflags⟩
    obtain ⟨hmem, rfl, rfl⟩ := ttLocalHashFind_eq_some hfind
    split_ifs at hflags with hnew
    exact ⟨e, hmem, rfl, Bool.not_eq_true _ ▸ hnew, by rw [Option.some.inj hflags]⟩
  · rintro ⟨e, hmem, rfl, hnew, hc⟩
    obtain ⟨rfl, rfl⟩ := Prod.mk.inj hc
    exact ⟨e, hwf.find_of_mem hmem, by rw [hnew, if_neg Bool.false_ne_true]⟩

/-- **The checksum of a VLAN is that of the clients that are not new.** -/
theorem ttCrc_localCrc {tt : TtLocal} (hwf : tt.Wf) (vid : U16) :
    TtCrc (ttLocalCommitted tt) vid (ttLocalCrc tt.localHash vid) := by
  generalize hcounted : tt.localHash.filter
    (fun e => e.vid == vid && !hasFlag e.flags TT_CLIENT_NEW) = counted
  have hmem (e : TtLocalEntry) : e ∈ counted ↔
      e ∈ tt.localHash ∧ e.vid = vid ∧ hasFlag e.flags TT_CLIENT_NEW = false := by
    rw [← hcounted, List.mem_filter, Bool.and_eq_true, beq_iff_eq, Bool.not_eq_true']
  refine ⟨counted.map fun e => (e.addr, ttSync e.flags), ?_, fun addr flags => ?_, ?_⟩
  · -- clients of one VLAN that are different have different addresses
    have hkeys : (counted.map TtLocalEntry.key).Nodup := by
      rw [← hcounted]
      exact hwf.nodup.sublist (List.filter_sublist.map _)
    rw [List.map_map]
    refine List.Nodup.map_on (fun d hd e he heq => ?_) (List.Nodup.of_map _ hkeys)
    have hd' := (hmem d).mp hd
    have he' := (hmem e).mp he
    exact hwf.eq_of_key hd'.1 he'.1 (Prod.ext heq (hd'.2.1.trans he'.2.1.symm))
  · rw [ttLocalCommitted_eq_some hwf, List.mem_map]
    constructor
    · rintro ⟨e, he, hc⟩
      obtain ⟨hin, hvid, hnew⟩ := (hmem e).mp he
      exact ⟨e, hin, hvid, hnew, hc.symm⟩
    · rintro ⟨e, hin, hvid, hnew, hc⟩
      exact ⟨e, (hmem e).mpr ⟨hin, hvid, hnew⟩, hc.symm⟩
  · rw [Checksum.xorSum_map, ttLocalCrc, hcounted]
    refine Checksum.xorSum_congr fun e he => ?_
    rw [((hmem e).mp he).2.1]
    rfl

/-- The view of an originator is made of its announced clients. -/
lemma ttGlobalView_eq_some {s : TtHistory} (h : TtGivenOk s.given s.tt.globalHash)
    {orig addr : EthAddr} {vid : U16} {flags : U8} :
    ttGlobalView s.tt orig (addr, vid) = some flags ↔
      (addr, flags) ∈ ttGlobalAnnounced s orig vid := by
  -- an originator that is listed has the flags of the last addition
  have hflags {e : TtGlobalEntry} (he : e ∈ s.tt.globalHash) (hcounts : e.Counts)
      {o : TtOrigListEntry} (ho : e.origEntryFind orig = some o) :
      o.flags = ttSync (s.given orig e.key) := by
    have horig : o.origNode = orig :=
      eq_of_beq (List.find?_some (p := fun o : TtOrigListEntry => o.origNode == orig) ho)
    rw [h.given e he (counts_iff.mp hcounts).2 o (List.mem_of_find?_eq_some ho), horig]
  rw [ttGlobalView, Option.bind_eq_some_iff]
  constructor
  · rintro ⟨e, hfind, hvalid⟩
    have hmem := List.mem_of_find?_eq_some hfind
    have hkey : e.key = (addr, vid) := key_of_find hfind
    obtain ⟨rfl, rfl⟩ := Prod.mk.inj hkey
    unfold ttGlobalValid at hvalid
    split_ifs at hvalid with hskip
    rw [Bool.not_eq_true, Bool.or_eq_false_iff] at hskip
    obtain ⟨o, ho, rfl⟩ := Option.map_eq_some_iff.mp hvalid
    exact ⟨e, hmem, rfl, hskip, Option.isSome_of_eq_some ho, by rw [hflags hmem hskip ho]⟩
  · rintro ⟨e, hmem, rfl, hcounts, hlisted, hc⟩
    obtain ⟨rfl, rfl⟩ := Prod.mk.inj hc
    obtain ⟨o, ho⟩ := Option.isSome_iff_exists.mp hlisted
    refine ⟨e, find_of_mem h.keys hmem, ?_⟩
    rw [ttGlobalValid, hcounts.1, hcounts.2, Bool.or_false, if_neg Bool.false_ne_true, ho,
      Option.map_some, hflags hmem hcounts ho]

/-- What an entry of the local table contributes to the checksum of a VLAN. -/
def ttLocalEntryCrc (vid : U16) (e : TtLocalEntry) : U32 :=
  if e.vid = vid ∧ hasFlag e.flags TT_CLIENT_NEW = false then
    ttEntryCrc e.vid (ttSync e.flags) e.addr
  else 0

/-- What an entry of the global table contributes to the checksum of an originator in a VLAN. -/
def ttGlobalEntryCrc (orig : EthAddr) (vid : U16) (e : TtGlobalEntry) : U32 :=
  if e.vid = vid ∧ e.Counts then
    ((e.origEntryFind orig).map fun o => ttEntryCrc e.vid o.flags e.addr).getD 0
  else 0

/-- The checksum of the local table, entry by entry. -/
lemma ttLocalCrc_eq (localHash : List TtLocalEntry) (vid : U16) :
    ttLocalCrc localHash vid = Checksum.xorSum (ttLocalEntryCrc vid) localHash := by
  rw [ttLocalCrc, Checksum.xorSum_filter]
  refine Checksum.xorSum_congr fun e _ => ?_
  rw [ttLocalEntryCrc]
  refine if_congr ?_ rfl rfl
  rw [Bool.and_eq_true, beq_iff_eq, Bool.not_eq_true']

/-- The checksum of the global table, entry by entry. -/
lemma ttGlobalCrc_eq (tt : TtPriv) (orig : EthAddr) (vid : U16) :
    ttGlobalCrc tt orig vid = Checksum.xorSum (ttGlobalEntryCrc orig vid) tt.globalHash := by
  rw [ttGlobalCrc, Checksum.xorSum_filterMap]
  refine Checksum.xorSum_congr fun e _ => ?_
  rw [ttGlobalEntryCrc]
  by_cases hvid : e.vid = vid
  · rw [if_neg (not_not.mpr hvid)]
    by_cases hcounts : e.Counts
    · have hboth : e.vid = vid ∧ e.Counts := ⟨hvid, hcounts⟩
      rw [hcounts.1, hcounts.2, if_neg Bool.false_ne_true, if_neg Bool.false_ne_true, if_pos hboth]
    · have hnot : ¬(e.vid = vid ∧ e.Counts) := fun h => hcounts h.2
      rw [if_neg hnot]
      split_ifs with hroam htemp
      · rfl
      · rfl
      · rw [Bool.not_eq_true] at hroam htemp
        exact absurd ⟨hroam, htemp⟩ hcounts
  · have hnot : ¬(e.vid = vid ∧ e.Counts) := fun h => hvid h.1
    rw [if_pos hvid, if_neg hnot, Option.getD_none]

/-- The order of the buckets of the local table is immaterial. -/
lemma ttLocalCrc_perm {localHash localHash' : List TtLocalEntry} (hperm : localHash.Perm localHash')
    (vid : U16) : ttLocalCrc localHash vid = ttLocalCrc localHash' vid := by
  rw [ttLocalCrc_eq, ttLocalCrc_eq, Checksum.xorSum_perm _ hperm]

/-- The order of the buckets of the global table is immaterial. -/
lemma ttGlobalCrc_perm (tt : TtPriv) {globalHash : List TtGlobalEntry}
    (hperm : globalHash.Perm tt.globalHash) (orig : EthAddr) (vid : U16) :
    ttGlobalCrc { tt with globalHash := globalHash } orig vid = ttGlobalCrc tt orig vid := by
  rw [ttGlobalCrc_eq, ttGlobalCrc_eq, Checksum.xorSum_perm _ hperm]

end Checksums

/-- **The checksum depends on the announced clients only.**  After any calls, if the clients of the
local table of one node in a VLAN that are not new are the clients of an originator in the global
table of another node that count, with the flags of the last additions that count, then the two
checksums are equal, in whatever order the buckets of the two hash tables are walked; and one client
more or less changes either checksum by its own.

**Proof sketch.** Both checksums are those of a table of clients (`ttCrc_localCrc`,
`ttCrc_globalCrc`), and the tables are the same: the flags that are kept for the originator are
those of its last additions (`TtGivenOk.step`). -/
theorem tt_crc_of_announced_set (vids localVids : List U16) (calls : List TtTableCall)
    (ops : List TtLocalOp) (orig : EthAddr) (vid : U16) :
    let s := Run.final (ttHistoryStep msecsToJiffies fun tt c => c.announces tt)
      (TtHistory.new vids) calls
    let l := Run.final (ttLocalStep msecsToJiffies) (TtLocal.new localVids) ops
    (ttLocalAnnounced l.localHash vid = ttGlobalAnnounced s orig vid →
      ∀ localHash globalHash, localHash.Perm l.localHash → globalHash.Perm s.tt.globalHash →
        ttLocalCrc localHash vid = ttGlobalCrc { s.tt with globalHash := globalHash } orig vid) ∧
    (∀ pre e post, ttLocalCrc (pre ++ e :: post) vid =
      ttLocalCrc (pre ++ post) vid ^^^ ttLocalEntryCrc vid e) ∧
    ∀ (tt : TtPriv) pre e post, ttGlobalCrc { tt with globalHash := pre ++ e :: post } orig vid =
      ttGlobalCrc { tt with globalHash := pre ++ post } orig vid ^^^
        ttGlobalEntryCrc orig vid e := by
  intro s l
  refine ⟨fun hset localHash globalHash hlocal hperm => ?_, fun pre e post => ?_,
    fun tt pre e post => ?_⟩
  · have hgiven : TtGivenOk s.given s.tt.globalHash := by
      have htrue : Run.AllSteps (ttHistoryStep msecsToJiffies fun tt c => c.announces tt)
          (fun _ _ => True) (TtHistory.new vids) calls := .of_forall (fun _ _ => trivial) calls
      have hnew : TtGivenOk (TtHistory.new vids).given (TtHistory.new vids).tt.globalHash :=
        ⟨List.nodup_nil, fun e he => absurd he List.not_mem_nil⟩
      exact htrue.invariant (fun s => TtGivenOk s.given s.tt.globalHash)
        (fun s c hs _ => hs.step msecsToJiffies c) hnew
    have hwf : l.Wf := by
      have htrue : Run.AllSteps (ttLocalStep msecsToJiffies) (fun _ _ => True)
          (TtLocal.new localVids) ops := .of_forall (fun _ _ => trivial) ops
      exact htrue.invariant TtLocal.Wf (fun _ op h _ => h.step op) (TtLocal.wf_new localVids)
    have hglobal := ttCrc_globalCrc hgiven.keys orig vid
    rw [ttLocalCrc_perm hlocal, ttGlobalCrc_perm s.tt hperm]
    refine (ttCrc_localCrc hwf vid).unique (hglobal.congr fun addr => Option.ext fun flags => ?_)
    rw [ttLocalCommitted_eq_some hwf, ttGlobalView_eq_some hgiven, hset]
  · rw [ttLocalCrc_eq, ttLocalCrc_eq, Checksum.xorSum_insert]
  · rw [ttGlobalCrc_eq, ttGlobalCrc_eq, Checksum.xorSum_insert]

/-! ### Two clients -/

/-- In a table with committed clients of one VLAN only, these are announced. -/
lemma ttLocalAnnounced_eq {localHash : List TtLocalEntry} {vid : U16}
    (hall : ∀ e ∈ localHash, e.vid = vid ∧ hasFlag e.flags TT_CLIENT_NEW = false) :
    ttLocalAnnounced localHash vid =
      {c | c ∈ localHash.map fun e => (e.addr, ttSync e.flags)} := by
  ext c
  rw [Set.mem_ofPred_eq, List.mem_map]
  constructor
  · rintro ⟨e, he, -, -, hc⟩
    exact ⟨e, he, hc.symm⟩
  · rintro ⟨e, he, hc⟩
    exact ⟨e, he, (hall e he).1, (hall e he).2, hc.symm⟩

/-- In a global table in which every client counts for the originator, these are announced. -/
lemma ttGlobalAnnounced_eq {s : TtHistory} {orig : EthAddr} {vid : U16}
    {globalHash : List TtGlobalEntry} (hlist : s.tt.globalHash = globalHash)
    (hall : ∀ e ∈ globalHash, e.vid = vid ∧ e.Counts ∧ (e.origEntryFind orig).isSome = true) :
    ttGlobalAnnounced s orig vid =
      {c | c ∈ globalHash.map fun e => (e.addr, ttSync (s.given orig e.key))} := by
  ext c
  rw [Set.mem_ofPred_eq, List.mem_map]
  constructor
  · rintro ⟨e, he, -, -, -, hc⟩
    exact ⟨e, hlist ▸ he, hc.symm⟩
  · rintro ⟨e, he, hc⟩
    exact ⟨e, hlist ▸ he, (hall e he).1, (hall e he).2.1, (hall e he).2.2, hc.symm⟩

/-- A wired client is seen, then one that is connected by wifi, and the changes are committed. -/
def ttWifiOps : List TtLocalOp :=
  [ttSeen 0x0200000000c1 0 1000,
    .add ⟨0x0200000000c2, 0, 1000, true, 0, 0, 0, 0x020000000009, 1500, 0, true, fun _ => true⟩,
    .commit ttCommitFits]

/-- An originator adds a client, with the given flags. -/
def ttAddCall (addr : EthAddr) (flags : U16) : TtTableCall :=
  ⟨.plain 0 fun _ _ => 0, .add 0x020000000002 addr 0 flags 1⟩

/-- Both clients are added for their originator, the second one first. -/
def ttWifiCalls : List TtTableCall :=
  [⟨.plain 0 fun _ _ => 0, .origNew 0x020000000002⟩, ttAddCall 0x0200000000c2 TT_CLIENT_WIFI,
    ttAddCall 0x0200000000c1 0]

/-- The clients of the local table. -/
lemma ttWifiOps_announced :
    ttLocalAnnounced (Run.final (ttLocalStep fun _ => 0) (TtLocal.new [0]) ttWifiOps).localHash 0 =
      {c | c ∈ [(0x0200000000c2, 0x10), (0x0200000000c1, 0)]} := by
  have hlist : (Run.final (ttLocalStep fun _ => 0) (TtLocal.new [0]) ttWifiOps).localHash =
      [⟨0x0200000000c2, 0, TT_CLIENT_WIFI, 1000⟩, ⟨0x0200000000c1, 0, 0, 1000⟩] := by decide +kernel
  rw [hlist]
  exact ttLocalAnnounced_eq (by decide)

/-- **Two clients, in another order in each table**: the announced clients are the same, and the
theorem applies, however the tables are walked. -/
theorem tt_crc_of_announced_set_wifi :
    let s := Run.final (ttHistoryStep (fun _ => 0) fun tt c => c.announces tt) (TtHistory.new [0])
      ttWifiCalls
    let l := Run.final (ttLocalStep fun _ => 0) (TtLocal.new [0]) ttWifiOps
    l.localHash.map TtLocalEntry.addr = [0x0200000000c2, 0x0200000000c1] ∧
      s.tt.globalHash.map TtGlobalEntry.addr = [0x0200000000c1, 0x0200000000c2] ∧
      ∀ localHash globalHash, localHash.Perm l.localHash → globalHash.Perm s.tt.globalHash →
        ttLocalCrc localHash 0 =
          ttGlobalCrc { s.tt with globalHash := globalHash } 0x020000000002 0 := by
  refine ⟨by decide +kernel, by decide +kernel, ?_⟩
  refine (tt_crc_of_announced_set (fun _ => 0) [0] [0] ttWifiCalls ttWifiOps 0x020000000002 0).1 ?_
  have hlist : (Run.final (ttHistoryStep (fun _ => 0) fun tt c => c.announces tt)
      (TtHistory.new [0]) ttWifiCalls).tt.globalHash =
        [⟨0x0200000000c1, 0, 0, 0, 0, [⟨0x020000000002, 1, 0⟩], 1⟩,
          ⟨0x0200000000c2, 0, TT_CLIENT_WIFI, 0, 0, [⟨0x020000000002, 1, 0x10⟩], 1⟩] := by
    decide +kernel
  rw [ttWifiOps_announced, ttGlobalAnnounced_eq hlist (by decide)]
  -- the flags of the last additions, which are kept as a function
  have hclients : (List.map (fun e : TtGlobalEntry => (e.addr, ttSync ((Run.final
      (ttHistoryStep (fun _ => 0) fun tt c => c.announces tt) (TtHistory.new [0])
        ttWifiCalls).given 0x020000000002 e.key)))
      [⟨0x0200000000c1, 0, 0, 0, 0, [⟨0x020000000002, 1, 0⟩], 1⟩,
        ⟨0x0200000000c2, 0, TT_CLIENT_WIFI, 0, 0, [⟨0x020000000002, 1, 0x10⟩], 1⟩]) =
        [(0x0200000000c1, 0), (0x0200000000c2, 0x10)] := by
    decide +kernel
  rw [hclients]
  exact Set.ext fun c => (List.Perm.swap _ _ []).mem_iff

/-- **A temporary addition is not the last one that counts**: a client was announced as one that is
connected by wifi, and a frame of it has caused a temporary addition without that flag since.  The
flags of the last addition are those of the wired client in the local table, but the checksums are
not the same. -/
theorem tt_crc_last_addition_ignored :
    let s := Run.final (ttHistoryStep (fun _ => 0) fun _ _ => true) (TtHistory.new [0])
      [⟨.plain 0 fun _ _ => 0, .origNew 0x020000000002⟩, ttAddCall 0x0200000000c1 TT_CLIENT_WIFI,
        ttAddCall 0x0200000000c1 TT_CLIENT_TEMP]
    let l := Run.final (ttLocalStep fun _ => 0) (TtLocal.new [0])
      [ttSeen 0x0200000000c1 0 1000, .commit ttCommitFits]
    ttLocalAnnounced l.localHash 0 = ttGlobalAnnounced s 0x020000000002 0 ∧
      ttLocalCrc l.localHash 0 ≠ ttGlobalCrc s.tt 0x020000000002 0 := by
  have hlist : (Run.final (ttHistoryStep (fun _ => 0) fun _ _ => true) (TtHistory.new [0])
      [⟨.plain 0 fun _ _ => 0, .origNew 0x020000000002⟩, ttAddCall 0x0200000000c1 TT_CLIENT_WIFI,
        ttAddCall 0x0200000000c1 TT_CLIENT_TEMP]).tt.globalHash =
        [⟨0x0200000000c1, 0, TT_CLIENT_WIFI, 0, 0, [⟨0x020000000002, 1, 0x10⟩], 1⟩] := by
    decide +kernel
  have hlocal : (Run.final (ttLocalStep fun _ => 0) (TtLocal.new [0])
      [ttSeen 0x0200000000c1 0 1000, .commit ttCommitFits]).localHash =
        [⟨0x0200000000c1, 0, 0, 1000⟩] := by
    decide +kernel
  constructor
  · rw [hlocal, ttLocalAnnounced_eq (by decide), ttGlobalAnnounced_eq hlist (by decide)]
    exact congrArg (fun cs : List (EthAddr × U8) => {c | c ∈ cs}) (by decide +kernel)
  · decide +kernel

end Batadv
