import BatmanAdv.Lib.Run
import BatmanAdv.Lib.Tally
import BatmanAdv.TranslationTable.Global

set_option relaxedAutoImplicit false
set_option autoImplicit false

/-!
# The accounts of the global translation table (`translation-table.c`)

For every originator and every VLAN a node keeps the number of clients that the originator announces
there.  The numbers are kept in objects of their own, which are created when a client is counted and
unlinked when the number becomes zero, while clients are announced, roam, time out or are deleted.

The pairs of an originator and a VLAN that a client contributes are counted by a tally.  A function
that works on an entry of the table is looked at with the entry in hand: the numbers are those of
this entry, as it is by now, and of the other entries.

## Main definitions

* `Batadv.ttPrivLocalAdd` — `batadv_tt_local_add` with what it does to the global table.
* `Batadv.TtGlobalOp`, `Batadv.ttGlobalStep` — the calls that change the global table.
* `Batadv.ttTally`, `Batadv.ttPairs` — the numbers, and what they count.
* `Batadv.TtHeld` — the accounts with an entry in hand.
* `Batadv.TtAccounts` — the accounts between two calls.

## Main results

* `Batadv.TtHeld.delOrigEntries`, `Batadv.TtHeld.origEntryAdd` — originators are taken off the list
  of a client, and put on it.
* `Batadv.ttGlobalStep_accounts` — a call keeps the accounts.
* `Batadv.tt_global_accounting` — the accounts are right over every run.
-/

namespace Batadv

/-! ### Calls -/

/-- The environment of a call: there is memory, and nobody is a backbone gateway. -/
def TtEnv.plain (jiffies : Jiffies) (pos : EthAddr → U16 → ℕ) : TtEnv where
  jiffies := jiffies
  isBackboneGwOrig _ _ := false
  pos := pos
  allocEntry _ _ := true
  allocOrigEntry _ _ := true
  allocVlan _ _ := true
  allocChange _ := true
  allocBuff := true

/-- `batadv_orig_node_new`, for the translation table: the originator has the VLAN 0, and no
clients. -/
def ttOrigNodeNew (orig : EthAddr) : TtOrigNode where
  orig := orig
  hasTt := false
  lastTtvn := 0
  ttBuff := none
  ttBuffLen := 0
  vlanList := [⟨0, 0, 0⟩]

/-- `batadv_orig_hash_find` or else `batadv_orig_node_new`. -/
def ttOrigNew (tt : TtPriv) (orig : EthAddr) : TtPriv :=
  if (ttOrigHashFind tt orig).isSome then tt
  else { tt with origHash := ttOrigNodeNew orig :: tt.origHash }

/-- Whether `batadv_tt_local_add` finds a client that had roamed away and has come back. -/
def ttRoamedBack (tt : TtLocal) (a : TtLocalAddArgs) : Bool :=
  (ttLocalHashFind tt a.addr a.vid).any fun e =>
    !hasFlag e.flags TT_CLIENT_PENDING && hasFlag e.flags TT_CLIENT_ROAM

/-- `batadv_tt_local_add`, with what it does to the global table: a client that was announced by
others has roamed to this node. -/
def ttPrivLocalAdd (env : TtEnv) (tt : TtPriv) (a : TtLocalAddArgs) : TtPriv :=
  let roamedBack := ttRoamedBack tt.ttLocal a
  let (ttLocal, added) := ttLocalAdd tt.ttLocal a
  let tt := { tt with ttLocal := ttLocal }
  if !added || isMulticastEtherAddr a.addr then tt
  else
    match ttGlobalHashFind tt a.addr a.vid with
    | none => tt
    | some e =>
      if hasFlag e.flags TT_CLIENT_ROAM then tt
      else if roamedBack then
        -- the entry is freed, and with it the list of its originators
        let (tt, e) := ttGlobalDelOrigList env tt e
        ttGlobalFree tt e
      else ttGlobalPut tt { e with flags := e.flags ||| TT_CLIENT_ROAM, roamAt := env.jiffies }

/-- A call that changes the global table, or the creation of an originator. -/
inductive TtGlobalOp
  | origNew (orig : EthAddr)
  | add (orig addr : EthAddr) (vid flags : U16) (ttvn : U8)
  | del (orig addr : EthAddr) (vid : U16) (roaming : Bool)
  | delOrig (orig : EthAddr) (matchVid : Option U16)
  | localAdd (a : TtLocalAddArgs)
  | purge

/-- A call with the time, and the places of new entries in the hash table. -/
structure TtGlobalCall where
  jiffies : Jiffies
  pos : EthAddr → U16 → ℕ
  op : TtGlobalOp

variable (msecsToJiffies : ℕ → Jiffies)

/-- The tables after a call.  Who adds a client for an originator holds a reference to it. -/
def ttGlobalStep (tt : TtPriv) (c : TtGlobalCall) : TtPriv :=
  let env : TtEnv := .plain c.jiffies c.pos
  match c.op with
  | .origNew orig => ttOrigNew tt orig
  | .add orig addr vid flags ttvn =>
    if (ttOrigHashFind tt orig).isSome then (ttGlobalAdd env tt orig addr vid flags ttvn).1 else tt
  | .del orig addr vid roaming => ttGlobalDel env tt orig addr vid roaming
  | .delOrig orig matchVid => ttGlobalDelOrig env tt orig matchVid
  | .localAdd a => ttPrivLocalAdd env tt a
  | .purge => ttGlobalPurge msecsToJiffies env tt

/-- The tables before any originator is known. -/
def TtPriv.new (vids : List U16) : TtPriv := ⟨.new vids, [], []⟩

/-! ### What is promised -/

/-- The number of clients in a VLAN that an originator announces. -/
def ttClientCount (tt : TtPriv) (orig : EthAddr) (vid : U16) : ℕ :=
  tt.globalHash.countP fun e => e.vid == vid && (e.origEntryFind orig).isSome

/-- The accounts as they are promised: each client has one entry at most; the list of originators
of an entry is not empty, has nobody twice, and is as long as its counter says; an originator has a
VLAN with the number of its clients there, or does not have the VLAN and no clients there; a VLAN
whose identifier is not valid it never has. -/
structure TtAccountsExact (tt : TtPriv) : Prop where
  keys : (tt.globalHash.map TtGlobalEntry.key).Nodup
  origList : ∀ e ∈ tt.globalHash, e.origList ≠ [] ∧
    (e.origList.map TtOrigListEntry.origNode).Nodup ∧ e.origListCount = e.origList.length
  numEntries : ∀ orig o, ttOrigHashFind tt orig = some o → ∀ vid, vlanIdValid vid = true →
    ((origNodeVlanGet o vid).map OrigNodeVlan.numEntries).getD 0 = ttClientCount tt orig vid
  invalid : ∀ orig o, ttOrigHashFind tt orig = some o → ∀ vid, vlanIdValid vid = false →
    origNodeVlanGet o vid = none

/-- A VLAN in which the last client of an originator has gone is unlinked. -/
def TtVlanUnlinked (tt tt' : TtPriv) : Prop :=
  ∀ orig o, ttOrigHashFind tt' orig = some o → ∀ vid, vlanIdValid vid = true →
    0 < ttClientCount tt orig vid → ttClientCount tt' orig vid = 0 → origNodeVlanGet o vid = none

/-! ### The numbers -/

/-- The number of clients of an originator in a VLAN, if it has the VLAN. -/
def ttTally (tt : TtPriv) (k : EthAddr × U16) : Option ℤ :=
  ((ttOrigHashFind tt k.1).bind fun o => origNodeVlanGet o k.2).map OrigNodeVlan.numEntries

/-- Only VLANs with a valid identifier are counted. -/
def TtVlanValid (k : EthAddr × U16) : Prop := vlanIdValid k.2 = true

instance : DecidablePred TtVlanValid := fun k =>
  inferInstanceAs (Decidable (vlanIdValid k.2 = true))

/-- What the list of originators of a client contributes. -/
def TtGlobalEntry.pairs (e : TtGlobalEntry) : List (EthAddr × U16) :=
  e.origList.map fun o => (o.origNode, e.vid)

/-- What all clients contribute. -/
def ttPairs (globalHash : List TtGlobalEntry) : List (EthAddr × U16) :=
  globalHash.flatMap TtGlobalEntry.pairs

/-- The identifiers of an originator's VLANs are different, and valid. -/
def TtOrigNode.VlansOk (o : TtOrigNode) : Prop :=
  (o.vlanList.map OrigNodeVlan.vid).Nodup ∧ ∀ vlan ∈ o.vlanList, vlanIdValid vlan.vid = true

/-- Two states differ in the numbers of clients only. -/
structure TtNumbersOnly (tt tt' : TtPriv) : Prop where
  ttLocal : tt'.ttLocal = tt.ttLocal
  globalHash : tt'.globalHash = tt.globalHash
  known : ∀ orig, (ttOrigHashFind tt' orig).isSome = (ttOrigHashFind tt orig).isSome
  vlans : (∀ o ∈ tt.origHash, o.VlansOk) → ∀ o ∈ tt'.origHash, o.VlansOk

lemma TtNumbersOnly.refl (tt : TtPriv) : TtNumbersOnly tt tt := ⟨rfl, rfl, fun _ => rfl, id⟩

lemma TtNumbersOnly.trans {tt tt' tt'' : TtPriv} (h : TtNumbersOnly tt tt')
    (h' : TtNumbersOnly tt' tt'') : TtNumbersOnly tt tt'' :=
  ⟨h'.ttLocal.trans h.ttLocal, h'.globalHash.trans h.globalHash,
    fun orig => (h'.known orig).trans (h.known orig), h'.vlans ∘ h.vlans⟩

/-- What changing the number of a VLAN does to the list of VLANs. -/
def vlanListMod (vid : U16) (v : ℤ) (vlanList : List OrigNodeVlan) : List OrigNodeVlan :=
  (vlanList.map fun vlan =>
      if vlan.vid == vid then { vlan with numEntries := vlan.numEntries + v } else vlan).filter
    fun vlan => !(vlan.vid == vid && vlan.numEntries == 0)

/-- Other VLANs stay. -/
lemma find_vlanListMod_of_ne {vid vid' : U16} (hne : vid' ≠ vid) (v : ℤ)
    (vlanList : List OrigNodeVlan) :
    (vlanListMod vid v vlanList).find? (fun vlan => vlan.vid == vid') =
      vlanList.find? fun vlan => vlan.vid == vid' := by
  induction vlanList with
  | nil => rfl
  | cons vlan vlanList ih =>
    rw [vlanListMod] at ih ⊢
    by_cases hvid : vlan.vid = vid
    · have hother : (vlan.vid == vid') = false := by
        rw [hvid, beq_eq_false_iff_ne]
        exact Ne.symm hne
      rw [List.find?_cons, hother, ← ih, List.map_cons, if_pos (beq_iff_eq.2 hvid),
        List.filter_cons]
      split_ifs
      · rw [List.find?_cons, hother]
      · rfl
    · rw [List.map_cons, if_neg (by simpa using hvid), List.filter_cons_of_pos (by simp [hvid]),
        List.find?_cons, List.find?_cons, ih]

/-- A VLAN that is not in the list stays out of it. -/
lemma vlanListMod_of_notMem {vid : U16} (v : ℤ) {vlanList : List OrigNodeVlan}
    (h : vid ∉ vlanList.map OrigNodeVlan.vid) : vlanListMod vid v vlanList = vlanList := by
  induction vlanList with
  | nil => rfl
  | cons vlan vlanList ih =>
    rw [List.map_cons, List.mem_cons, not_or] at h
    have hne : ¬ vlan.vid = vid := fun heq => h.1 heq.symm
    have hrest := ih h.2
    rw [vlanListMod] at hrest ⊢
    rw [List.map_cons, if_neg (by simpa using hne), List.filter_cons_of_pos (by simp [hne]), hrest]

/-- The VLAN itself is changed, or unlinked. -/
lemma find_vlanListMod_self {vid : U16} (v : ℤ) {vlanList : List OrigNodeVlan}
    (hnd : (vlanList.map OrigNodeVlan.vid).Nodup) {vlan : OrigNodeVlan}
    (hfind : vlanList.find? (fun vlan => vlan.vid == vid) = some vlan) :
    ((vlanListMod vid v vlanList).find? fun vlan => vlan.vid == vid).map OrigNodeVlan.numEntries =
      if vlan.numEntries + v = 0 then none else some (vlan.numEntries + v) := by
  induction vlanList with
  | nil => cases hfind
  | cons d vlanList ih =>
    rw [List.map_cons, List.nodup_cons] at hnd
    by_cases hvid : d.vid = vid
    · rw [List.find?_cons, beq_iff_eq.2 hvid, Option.some.injEq] at hfind
      subst hfind
      have hrest : vlanListMod vid v vlanList = vlanList :=
        vlanListMod_of_notMem v (hvid ▸ hnd.1)
      have hnone : vlanList.find? (fun vlan => vlan.vid == vid) = none := by
        rw [List.find?_eq_none]
        intro c hc heq
        exact hnd.1 (by rw [hvid, ← beq_iff_eq.1 heq]; exact List.mem_map_of_mem hc)
      rw [vlanListMod] at hrest ⊢
      rw [List.map_cons, if_pos (beq_iff_eq.2 hvid), List.filter_cons, hrest]
      by_cases hzero : d.numEntries + v = 0
      · simp [hvid, hzero, hnone]
      · simp [hvid, hzero]
    · have hother : (d.vid == vid) = false := beq_eq_false_iff_ne.2 hvid
      rw [List.find?_cons, hother] at hfind
      have hrest := ih hnd.2 hfind
      rw [vlanListMod] at hrest ⊢
      rw [List.map_cons, if_neg (by simpa using hvid), List.filter_cons_of_pos (by simp [hvid]),
        List.find?_cons, hother, hrest]

/-- The identifiers that are left were there before. -/
lemma map_vid_vlanListMod (vid : U16) (v : ℤ) (vlanList : List OrigNodeVlan) :
    ((vlanListMod vid v vlanList).map OrigNodeVlan.vid).Sublist
      (vlanList.map OrigNodeVlan.vid) := by
  have hmap : (vlanList.map fun vlan =>
      if vlan.vid == vid then { vlan with numEntries := vlan.numEntries + v } else vlan).map
        OrigNodeVlan.vid = vlanList.map OrigNodeVlan.vid := by
    rw [List.map_map]
    refine List.map_congr_left fun vlan _ => ?_
    rw [Function.comp_apply]
    split_ifs <;> rfl
  rw [← hmap]
  exact List.filter_sublist.map _

/-- **What changing a number does to an originator.** -/
lemma origNodeSizeMod_spec {o : TtOrigNode} (h : o.VlansOk) (vid : U16) (v : ℤ) :
    (origNodeSizeMod true vid v o).orig = o.orig ∧ (origNodeSizeMod true vid v o).VlansOk ∧
      ∀ vid', (origNodeVlanGet (origNodeSizeMod true vid v o) vid').map OrigNodeVlan.numEntries =
        if vid' = vid ∧ vlanIdValid vid = true then
          let num := ((origNodeVlanGet o vid).map OrigNodeVlan.numEntries).getD 0 + v
          if num = 0 then none else some num
        else (origNodeVlanGet o vid').map OrigNodeVlan.numEntries := by
  cases hvalid : vlanIdValid vid with
  | false =>
    have hsame : origNodeSizeMod true vid v o = o := by
      rw [origNodeSizeMod, origNodeVlanNew, hvalid]
      rfl
    rw [hsame]
    exact ⟨rfl, h, fun vid' => by simp⟩
  | true =>
    -- the list of VLANs, in which there is the VLAN by now
    have hlist : ∃ vlanList vlan, origNodeSizeMod true vid v o =
          { o with vlanList := vlanListMod vid v vlanList } ∧
        (vlanList.map OrigNodeVlan.vid).Nodup ∧
        (∀ d ∈ vlanList, vlanIdValid d.vid = true) ∧
        vlanList.find? (fun d => d.vid == vid) = some vlan ∧
        vlan.numEntries = ((origNodeVlanGet o vid).map OrigNodeVlan.numEntries).getD 0 ∧
        ∀ vid' ≠ vid, vlanList.find? (fun d => d.vid == vid') = origNodeVlanGet o vid' := by
      cases hget : origNodeVlanGet o vid with
      | some vlan =>
        refine ⟨o.vlanList, vlan, ?_, h.1, h.2, hget, rfl, fun _ _ => rfl⟩
        rw [origNodeSizeMod, origNodeVlanNew, hvalid, hget]
        rfl
      | none =>
        have hnew : vid ∉ o.vlanList.map OrigNodeVlan.vid := fun hmem => by
          obtain ⟨d, hd, hvid⟩ := List.mem_map.1 hmem
          exact List.find?_eq_none.1 hget d hd (beq_iff_eq.2 hvid)
        refine ⟨⟨vid, 0, 0⟩ :: o.vlanList, ⟨vid, 0, 0⟩, ?_, List.nodup_cons.2 ⟨hnew, h.1⟩, ?_, ?_,
          rfl, fun vid' hne => ?_⟩
        · rw [origNodeSizeMod, origNodeVlanNew, hvalid, hget]
          rfl
        · rw [List.forall_mem_cons]
          exact ⟨hvalid, h.2⟩
        · rw [List.find?_cons, beq_self_eq_true]
        · rw [List.find?_cons, beq_eq_false_iff_ne.2 (Ne.symm hne)]
          rfl
    obtain ⟨vlanList, vlan, hmod, hnd, hall, hfind, hnum, hother⟩ := hlist
    rw [hmod]
    have hsub := map_vid_vlanListMod vid v vlanList
    refine ⟨rfl, ⟨hnd.sublist hsub, fun d hd => ?_⟩, fun vid' => ?_⟩
    · obtain ⟨d', hd', hvid⟩ := List.mem_map.1 (hsub.subset (List.mem_map_of_mem hd))
      exact hvid ▸ hall d' hd'
    · by_cases hvid : vid' = vid
      · subst hvid
        rw [if_pos ⟨rfl, rfl⟩, ← hnum]
        exact find_vlanListMod_self v hnd hfind
      · rw [if_neg (fun h => hvid h.1), ← hother vid' hvid]
        exact congrArg (Option.map OrigNodeVlan.numEntries) (find_vlanListMod_of_ne hvid v vlanList)

/-- An originator after another one, or it, was written to. -/
lemma ttOrigHashFind_update (tt : TtPriv) (orig : EthAddr) {f : TtOrigNode → TtOrigNode}
    (hf : ∀ o ∈ tt.origHash, (f o).orig = o.orig) (orig' : EthAddr) :
    ttOrigHashFind (ttOrigUpdate tt orig f) orig' =
      (ttOrigHashFind tt orig').map fun o => if orig' = orig then f o else o := by
  unfold ttOrigHashFind ttOrigUpdate
  dsimp only
  generalize tt.origHash = origHash at hf
  induction origHash with
  | nil => rfl
  | cons o origHash ih =>
    obtain ⟨ho, hrest⟩ := List.forall_mem_cons.1 hf
    have hkey : (if (o.orig == orig) = true then f o else o).orig = o.orig := by
      split_ifs
      · exact ho
      · rfl
    rw [List.map_cons, List.find?_cons, List.find?_cons, hkey]
    cases hfound : o.orig == orig' with
    | true =>
      rw [beq_iff_eq.1 hfound]
      simp
    | false => exact ih hrest

section Environment

variable {j : Jiffies} {n : EthAddr → U16 → ℕ} {tt : TtPriv}

/-- **What changing a number does.** -/
lemma ttGlobalSizeMod_spec (h : ∀ o ∈ tt.origHash, o.VlansOk) {orig : EthAddr}
    (hknown : (ttOrigHashFind tt orig).isSome = true) (vid : U16) (v : ℤ) :
    ttTally (ttGlobalSizeMod (.plain j n) tt orig vid v) =
        Tally.bump TtVlanValid (ttTally tt) (orig, vid) v ∧
      TtNumbersOnly tt (ttGlobalSizeMod (.plain j n) tt orig vid v) := by
  have hfind := ttOrigHashFind_update tt orig (f := origNodeSizeMod true vid v)
    fun o ho => (origNodeSizeMod_spec (h o ho) vid v).1
  refine ⟨funext fun k => ?_, rfl, rfl, fun orig' => ?_, fun _ o ho => ?_⟩
  · obtain ⟨orig', vid'⟩ := k
    have htally : ttTally (ttGlobalSizeMod (.plain j n) tt orig vid v) (orig', vid') =
        (((ttOrigHashFind tt orig').map fun o =>
          if orig' = orig then origNodeSizeMod true vid v o else o).bind
            fun o => origNodeVlanGet o vid').map OrigNodeVlan.numEntries :=
      congrArg (fun o : Option TtOrigNode =>
        (o.bind fun o => origNodeVlanGet o vid').map OrigNodeVlan.numEntries) (hfind orig')
    rw [htally]
    by_cases horig : orig' = orig
    · subst horig
      obtain ⟨o, ho⟩ := Option.isSome_iff_exists.1 hknown
      have hmem : o ∈ tt.origHash := List.mem_of_find?_eq_some ho
      have hspec := (origNodeSizeMod_spec (h o hmem) vid v).2.2 vid'
      rw [ho, Option.map_some, if_pos rfl, Option.bind_some, hspec, Tally.bump, Tally.val]
      simp only [ttTally, ho, Option.bind_some, Prod.mk.injEq, true_and, TtVlanValid]
    · rw [Tally.bump_of_ne (fun h => horig (congrArg Prod.fst h)), ttTally]
      simp only [horig, if_false, Option.map_id']
  · have hsome : (ttOrigHashFind (ttGlobalSizeMod (.plain j n) tt orig vid v) orig').isSome =
        ((ttOrigHashFind tt orig').map fun o =>
          if orig' = orig then origNodeSizeMod true vid v o else o).isSome :=
      congrArg Option.isSome (hfind orig')
    rw [hsome, Option.isSome_map]
  · obtain ⟨o', ho', rfl⟩ := List.mem_map.1 ho
    split_ifs
    · exact (origNodeSizeMod_spec (h o' ho') vid v).2.1
    · exact h o' ho'

/-- The same for the originators of a list. -/
lemma foldl_ttGlobalSizeMod_spec (h : ∀ o ∈ tt.origHash, o.VlansOk) (vid : U16) (v : ℤ)
    {l : List TtOrigListEntry} (hl : ∀ o ∈ l, (ttOrigHashFind tt o.origNode).isSome = true) :
    ttTally (l.foldl (fun tt o => ttGlobalSizeMod (.plain j n) tt o.origNode vid v) tt) =
        Tally.bumpAll TtVlanValid (ttTally tt) (l.map fun o => (o.origNode, vid)) v ∧
      TtNumbersOnly tt
        (l.foldl (fun tt o => ttGlobalSizeMod (.plain j n) tt o.origNode vid v) tt) := by
  induction l generalizing tt with
  | nil => exact ⟨rfl, .refl tt⟩
  | cons o l ih =>
    obtain ⟨ho, hrest⟩ := List.forall_mem_cons.1 hl
    obtain ⟨htally, honly⟩ :=
      ttGlobalSizeMod_spec (j := j) (n := n) h ho vid v
    obtain ⟨htallies, honlies⟩ := ih (honly.vlans h)
      fun o' ho' => by rw [honly.known]; exact hrest o' ho'
    rw [List.foldl_cons]
    refine ⟨?_, honly.trans honlies⟩
    rw [htallies, htally]
    rfl

/-- The pairs of the originators that satisfy a predicate. -/
def TtGlobalEntry.pairsOf (p : EthAddr → Bool) (e : TtGlobalEntry) : List (EthAddr × U16) :=
  (e.origList.filter fun o => p o.origNode).map fun o => (o.origNode, e.vid)

/-- **What taking originators off the list of a client does.** -/
lemma ttGlobalDelOrigEntries_spec (h : ∀ o ∈ tt.origHash, o.VlansOk) (p : EthAddr → Bool)
    {e : TtGlobalEntry} (he : ∀ o ∈ e.origList, (ttOrigHashFind tt o.origNode).isSome = true) :
    ttTally (ttGlobalDelOrigEntries (.plain j n) p tt e).1 =
        Tally.bumpAll TtVlanValid (ttTally tt) (e.pairsOf p) (-1) ∧
      TtNumbersOnly tt (ttGlobalDelOrigEntries (.plain j n) p tt e).1 :=
  foldl_ttGlobalSizeMod_spec h e.vid (-1) fun o ho => he o (List.mem_filter.1 ho).1

/-- The same for the clients of a list that satisfy a predicate. -/
lemma foldl_ttGlobalDelOrigEntries_spec (h : ∀ o ∈ tt.origHash, o.VlansOk)
    (m : TtGlobalEntry → Bool) (p : EthAddr → Bool) {l : List TtGlobalEntry}
    (hl : ∀ e ∈ l, ∀ o ∈ e.origList, (ttOrigHashFind tt o.origNode).isSome = true) :
    ttTally (l.foldl (fun tt e =>
          if m e then (ttGlobalDelOrigEntries (.plain j n) p tt e).1 else tt) tt) =
        Tally.bumpAll TtVlanValid (ttTally tt)
          (l.flatMap fun e => if m e then e.pairsOf p else []) (-1) ∧
      TtNumbersOnly tt (l.foldl (fun tt e =>
          if m e then (ttGlobalDelOrigEntries (.plain j n) p tt e).1 else tt) tt) := by
  induction l generalizing tt with
  | nil => exact ⟨rfl, .refl tt⟩
  | cons e l ih =>
    obtain ⟨he, hrest⟩ := List.forall_mem_cons.1 hl
    rw [List.foldl_cons, List.flatMap_cons]
    cases hm : m e with
    | false =>
      simp only [Bool.false_eq_true, if_false, List.nil_append]
      exact ih h hrest
    | true =>
      obtain ⟨htally, honly⟩ :=
        ttGlobalDelOrigEntries_spec (j := j) (n := n) h p he
      obtain ⟨htallies, honlies⟩ := ih (honly.vlans h)
        fun e' he' o ho => by rw [honly.known]; exact hrest e' he' o ho
      simp only [if_true]
      refine ⟨?_, honly.trans honlies⟩
      rw [htallies, htally, Tally.bumpAll, Tally.bumpAll, Tally.bumpAll, List.foldl_append]

end Environment

/-! ### The accounts with an entry in hand -/

/-- The list of originators of an entry has nobody twice, is as long as the counter says, and those
on it are known. -/
structure TtGlobalEntry.Ok (tt : TtPriv) (e : TtGlobalEntry) : Prop where
  nodup : (e.origList.map TtOrigListEntry.origNode).Nodup
  listCount : e.origListCount = e.origList.length
  known : ∀ o ∈ e.origList, (ttOrigHashFind tt o.origNode).isSome = true

/-- The other entries of the global table. -/
def TtPriv.others (tt : TtPriv) (e : TtGlobalEntry) : List TtGlobalEntry :=
  tt.globalHash.filter fun d => !d.isFor e.addr e.vid

/-- **The accounts between two calls.**  Only the numbers of pairs in `zeros` may be zero. -/
structure TtAccounts (zeros : EthAddr × U16 → Prop) (tt : TtPriv) : Prop where
  keys : (tt.globalHash.map TtGlobalEntry.key).Nodup
  entries : ∀ e ∈ tt.globalHash, e.Ok tt ∧ e.origList ≠ []
  vlans : ∀ o ∈ tt.origHash, o.VlansOk
  counts : Tally.Counts TtVlanValid (ttTally tt) (ttPairs tt.globalHash)
  zero : ∀ k, ttTally tt k = some 0 → zeros k

/-- **The accounts with an entry in hand**, which is in the table, maybe in an earlier form. -/
structure TtHeld (zeros : EthAddr × U16 → Prop) (tt : TtPriv) (e : TtGlobalEntry) : Prop where
  mem : e.key ∈ tt.globalHash.map TtGlobalEntry.key
  keys : (tt.globalHash.map TtGlobalEntry.key).Nodup
  entries : ∀ d ∈ tt.others e, d.Ok tt ∧ d.origList ≠ []
  entry : e.Ok tt
  vlans : ∀ o ∈ tt.origHash, o.VlansOk
  counts : Tally.Counts TtVlanValid (ttTally tt) (e.pairs ++ ttPairs (tt.others e))
  zero : ∀ k, ttTally tt k = some 0 → zeros k

section Accounts

variable {zeros : EthAddr × U16 → Prop} {tt : TtPriv} {e : TtGlobalEntry}

lemma TtGlobalEntry.isFor_iff {addr : EthAddr} {vid : U16} :
    e.isFor addr vid = true ↔ e.key = (addr, vid) := by
  rw [TtGlobalEntry.isFor, Bool.and_eq_true, beq_iff_eq, beq_iff_eq, TtGlobalEntry.key,
    Prod.mk.injEq]

lemma TtGlobalEntry.Ok.of_known {tt' : TtPriv} (h : e.Ok tt)
    (hknown : ∀ orig, (ttOrigHashFind tt orig).isSome = true →
      (ttOrigHashFind tt' orig).isSome = true) : e.Ok tt' :=
  ⟨h.nodup, h.listCount, fun o ho => hknown o.origNode (h.known o ho)⟩

/-- The entries before and behind the one in hand. -/
lemma exists_split_of_key {globalHash : List TtGlobalEntry}
    (hnd : (globalHash.map TtGlobalEntry.key).Nodup)
    (hmem : e.key ∈ globalHash.map TtGlobalEntry.key) :
    ∃ pre d post, globalHash = pre ++ d :: post ∧ d.key = e.key ∧
      ∀ c ∈ pre ++ post, c.isFor e.addr e.vid = false := by
  obtain ⟨d, hd, hkey⟩ := List.mem_map.1 hmem
  obtain ⟨pre, post, rfl⟩ := List.append_of_mem hd
  refine ⟨pre, d, post, rfl, hkey, fun c hc => ?_⟩
  have hperm : ((pre ++ d :: post).map TtGlobalEntry.key).Perm
      (d.key :: (pre ++ post).map TtGlobalEntry.key) :=
    (List.perm_middle.map TtGlobalEntry.key)
  rw [← Bool.not_eq_true, TtGlobalEntry.isFor_iff]
  intro heq
  refine (List.nodup_cons.1 (hperm.nodup_iff.1 hnd)).1 ?_
  rw [hkey, TtGlobalEntry.key, ← heq]
  exact List.mem_map_of_mem hc

/-- The entries other than the one in hand. -/
lemma filter_split (pre post : List TtGlobalEntry) {d : TtGlobalEntry} (hkey : d.key = e.key)
    (hother : ∀ c ∈ pre ++ post, c.isFor e.addr e.vid = false) :
    ((pre ++ d :: post).filter fun c => !c.isFor e.addr e.vid) = pre ++ post := by
  have hd : d.isFor e.addr e.vid = true := TtGlobalEntry.isFor_iff.2 hkey
  have hkeep : ∀ l ⊆ pre ++ post, (l.filter fun c => !c.isFor e.addr e.vid) = l := fun l hl =>
    List.filter_eq_self.2 fun c hc => by rw [hother c (hl hc)]; rfl
  rw [List.filter_append, List.filter_cons_of_neg (by simp [hd]),
    hkeep pre (List.subset_append_left _ _), hkeep post (List.subset_append_right _ _)]

/-- **An entry that was found is taken in hand.** -/
lemma TtAccounts.held (h : TtAccounts zeros tt) {addr : EthAddr} {vid : U16}
    (hfind : ttGlobalHashFind tt addr vid = some e) :
    TtHeld zeros tt e ∧ e.addr = addr ∧ e.vid = vid := by
  have hmem := List.mem_of_find?_eq_some hfind
  have hkey := TtGlobalEntry.isFor_iff.1 (List.find?_some hfind)
  have hin : e.key ∈ tt.globalHash.map TtGlobalEntry.key := List.mem_map_of_mem hmem
  obtain ⟨pre, d, post, hsplit, hd, hother⟩ := exists_split_of_key h.keys hin
  have hothers : tt.others e = pre ++ post := by
    rw [TtPriv.others, hsplit]
    exact filter_split pre post hd hother
  have hde : d = e :=
    List.inj_on_of_nodup_map h.keys (by rw [hsplit]; simp) hmem hd
  refine ⟨⟨hin, h.keys, fun c hc => h.entries c (List.mem_of_mem_filter hc), (h.entries e hmem).1,
    h.vlans, ?_, h.zero⟩, congrArg Prod.fst hkey, congrArg Prod.snd hkey⟩
  have hperm : (ttPairs tt.globalHash).Perm (e.pairs ++ ttPairs (tt.others e)) := by
    rw [hothers, hsplit, hde]
    exact List.perm_middle.flatMap_right _
  exact h.counts.perm hperm

/-- **The entry in hand is written back.** -/
lemma TtHeld.put (h : TtHeld zeros tt e) (hne : e.origList ≠ []) :
    TtAccounts zeros (ttGlobalPut tt e) := by
  obtain ⟨pre, d, post, hsplit, hd, hother⟩ := exists_split_of_key h.keys h.mem
  have hothers : tt.others e = pre ++ post := by
    rw [TtPriv.others, hsplit]
    exact filter_split pre post hd hother
  have hmap : ∀ l ⊆ pre ++ post, (l.map fun c => if c.isFor e.addr e.vid then e else c) = l := by
    intro l hl
    refine (List.map_congr_left fun c hc => ?_).trans (List.map_id l)
    rw [hother c (hl hc), if_neg Bool.false_ne_true, id]
  have hput : (ttGlobalPut tt e).globalHash = pre ++ e :: post := by
    rw [ttGlobalPut, hsplit, List.map_append, List.map_cons,
      if_pos (TtGlobalEntry.isFor_iff.2 hd), hmap pre (List.subset_append_left _ _),
      hmap post (List.subset_append_right _ _)]
  have hkeys : (ttGlobalPut tt e).globalHash.map TtGlobalEntry.key =
      tt.globalHash.map TtGlobalEntry.key := by
    rw [hput, hsplit, List.map_append, List.map_append, List.map_cons, List.map_cons, hd]
  refine ⟨by rw [hkeys]; exact h.keys, fun c hc => ?_, h.vlans, ?_, h.zero⟩
  · rw [hput, List.perm_middle.mem_iff, List.mem_cons] at hc
    rcases hc with rfl | hc
    · exact ⟨h.entry.of_known fun _ => id, hne⟩
    · obtain ⟨hok, hcne⟩ := h.entries c (hothers ▸ hc)
      exact ⟨hok.of_known fun _ => id, hcne⟩
  · have hcounts := h.counts
    rw [hothers] at hcounts
    rw [hput]
    exact hcounts.perm (List.perm_middle.flatMap_right _).symm

/-- **The entry in hand is taken out of the table**, when there are no originators any more. -/
lemma TtHeld.free (h : TtHeld zeros tt e) (hnil : e.origList = []) :
    TtAccounts zeros (ttGlobalFree tt e) := by
  refine ⟨h.keys.sublist (List.filter_sublist.map _), fun c hc => ?_, h.vlans, ?_, h.zero⟩
  · obtain ⟨hok, hcne⟩ := h.entries c hc
    exact ⟨hok.of_known fun _ => id, hcne⟩
  have hcounts := h.counts
  rwa [TtGlobalEntry.pairs, hnil, List.map_nil, List.nil_append] at hcounts

/-- Fields that are not about originators may be written. -/
lemma TtHeld.setFlags (h : TtHeld zeros tt e) (flags : U16) (roamAt : Jiffies) :
    TtHeld zeros tt { e with flags := flags, roamAt := roamAt } :=
  ⟨h.mem, h.keys, h.entries, ⟨h.entry.nodup, h.entry.listCount, h.entry.known⟩, h.vlans, h.counts,
    h.zero⟩

/-- The local table may change. -/
lemma TtHeld.setLocal (h : TtHeld zeros tt e) (ttLocal : TtLocal) :
    TtHeld zeros { tt with ttLocal := ttLocal } e :=
  ⟨h.mem, h.keys, fun d hd => ⟨(h.entries d hd).1.of_known fun _ => id, (h.entries d hd).2⟩,
    h.entry.of_known fun _ => id, h.vlans, h.counts, h.zero⟩

lemma TtAccounts.setLocal (h : TtAccounts zeros tt) (ttLocal : TtLocal) :
    TtAccounts zeros { tt with ttLocal := ttLocal } :=
  ⟨h.keys, fun e he => ⟨(h.entries e he).1.of_known fun _ => id, (h.entries e he).2⟩, h.vlans,
    h.counts, h.zero⟩

end Accounts

/-! ### What the functions do -/

section Functions

variable {j : Jiffies} {n : EthAddr → U16 → ℕ} {zeros : EthAddr × U16 → Prop} {tt : TtPriv}
  {e : TtGlobalEntry}

/-- The pairs of an entry are those of the originators that go and those of the others. -/
lemma pairsOf_append_perm (tt : TtPriv) (p : EthAddr → Bool) (e : TtGlobalEntry) :
    (e.pairsOf p ++ (ttGlobalDelOrigEntries (.plain j n) p tt e).2.pairs).Perm e.pairs := by
  rw [TtGlobalEntry.pairsOf, TtGlobalEntry.pairs, TtGlobalEntry.pairs, ttGlobalDelOrigEntries,
    ← List.map_append]
  exact (List.filter_append_perm (fun o : TtOrigListEntry => p o.origNode) e.origList).map _

/-- An entry without some of its originators is in order. -/
lemma TtGlobalEntry.Ok.delOrigEntries (h : e.Ok tt) (p : EthAddr → Bool) :
    (ttGlobalDelOrigEntries (.plain j n) p tt e).2.Ok tt where
  nodup := h.nodup.sublist (List.filter_sublist.map _)
  listCount := by
    have hlen := List.length_eq_countP_add_countP (fun o : TtOrigListEntry => p o.origNode)
      (l := e.origList)
    simp only [Bool.not_eq_true, Bool.decide_eq_false] at hlen
    rw [ttGlobalDelOrigEntries]
    dsimp only
    rw [h.listCount, ← List.countP_eq_length_filter, hlen]
    push_cast
    ring
  known o ho := h.known o (List.mem_of_mem_filter ho)

/-- **Originators are taken off the list of the client.** -/
theorem TtHeld.delOrigEntries (h : TtHeld zeros tt e) (p : EthAddr → Bool) :
    TtHeld zeros (ttGlobalDelOrigEntries (.plain j n) p tt e).1
      (ttGlobalDelOrigEntries (.plain j n) p tt e).2 := by
  obtain ⟨htally, honly⟩ :=
    ttGlobalDelOrigEntries_spec (j := j) (n := n) h.vlans p h.entry.known
  have hok := h.entry.delOrigEntries (j := j) (n := n) p
  have hpairs := pairsOf_append_perm (j := j) (n := n) tt p e
  have hothers : (ttGlobalDelOrigEntries (.plain j n) p tt e).1.others
      (ttGlobalDelOrigEntries (.plain j n) p tt e).2 = tt.others e := by
    rw [TtPriv.others, TtPriv.others, honly.globalHash]
    rfl
  have hknown : ∀ orig, (ttOrigHashFind tt orig).isSome = true → (ttOrigHashFind
      (ttGlobalDelOrigEntries (.plain j n) p tt e).1 orig).isSome = true :=
    fun orig ho => by rw [honly.known, ho]
  refine ⟨?_, ?_, fun d hd => ?_, hok.of_known hknown, honly.vlans h.vlans, ?_,
    fun k hk => h.zero k (Tally.bumpAll_eq_some_zero (htally ▸ hk))⟩
  · rw [honly.globalHash]
    exact h.mem
  · rw [honly.globalHash]
    exact h.keys
  · rw [hothers] at hd
    exact ⟨(h.entries d hd).1.of_known hknown, (h.entries d hd).2⟩
  · rw [htally, hothers]
    refine Tally.Counts.drop ?_
    rw [← List.append_assoc]
    exact h.counts.perm (hpairs.symm.append_right _)

/-- **An originator is put on the list of the client**, or stays on it. -/
theorem TtHeld.origEntryAdd (h : TtHeld zeros tt e) {orig : EthAddr}
    (hknown : (ttOrigHashFind tt orig).isSome = true) (ttvn flags : U8) :
    TtHeld zeros (ttGlobalOrigEntryAdd (.plain j n) tt e orig ttvn flags).1
        (ttGlobalOrigEntryAdd (.plain j n) tt e orig ttvn flags).2 ∧
      (ttGlobalOrigEntryAdd (.plain j n) tt e orig ttvn flags).2.origList ≠ [] := by
  unfold ttGlobalOrigEntryAdd
  cases hfind : e.origEntryFind orig with
  | some o =>
    have hmem : o ∈ e.origList := List.mem_of_find?_eq_some hfind
    have hnodes : (e.origList.map fun o =>
        if o.origNode == orig then { o with ttvn := ttvn, flags := flags } else o).map
          TtOrigListEntry.origNode = e.origList.map TtOrigListEntry.origNode := by
      rw [List.map_map]
      refine List.map_congr_left fun o _ => ?_
      rw [Function.comp_apply]
      split_ifs <;> rfl
    generalize hlist : (e.origList.map fun o =>
      if o.origNode == orig then { o with ttvn := ttvn, flags := flags } else o) = origList
      at hnodes
    have hlen : origList.length = e.origList.length := by rw [← hlist, List.length_map]
    have hpairs : ({ e with origList := origList } : TtGlobalEntry).pairs = e.pairs := by
      have hcomp := congrArg (List.map fun orig => (orig, e.vid)) hnodes
      rwa [List.map_map, List.map_map] at hcomp
    have hheld : TtHeld zeros tt { e with origList := origList } := by
      refine ⟨h.mem, h.keys, h.entries, ⟨?_, ?_, fun o ho => ?_⟩, h.vlans, ?_, h.zero⟩
      · exact hnodes ▸ h.entry.nodup
      · dsimp only
        rw [hlen, h.entry.listCount]
      · obtain ⟨d, hd, heq⟩ := List.mem_map.1 (hnodes ▸ List.mem_map_of_mem ho :
          o.origNode ∈ e.origList.map TtOrigListEntry.origNode)
        exact heq ▸ h.entry.known d hd
      · rw [hpairs]
        exact h.counts
    refine ⟨hheld.setFlags _ e.roamAt, fun hnil => ?_⟩
    have hzero : origList.length = 0 := List.length_eq_zero_iff.2 hnil
    rw [hlen, List.length_eq_zero_iff] at hzero
    rw [hzero] at hmem
    cases hmem
  | none =>
    have hnew : orig ∉ e.origList.map TtOrigListEntry.origNode := fun hmem => by
      obtain ⟨o, ho, heq⟩ := List.mem_map.1 hmem
      exact List.find?_eq_none.1 hfind o ho (beq_iff_eq.2 heq)
    obtain ⟨htally, honly⟩ :=
      ttGlobalSizeMod_spec (j := j) (n := n) h.vlans hknown e.vid 1
    generalize ttGlobalSizeMod (.plain j n) tt orig e.vid 1 = tt' at htally honly
    have hknown' : ∀ orig, (ttOrigHashFind tt orig).isSome = true →
        (ttOrigHashFind tt' orig).isSome = true := fun orig ho => by rw [honly.known, ho]
    generalize hadded : ({ e with
      origList := ⟨orig, ttvn, flags⟩ :: e.origList
      origListCount := e.origListCount + 1 } : TtGlobalEntry) = e'
    have hothers : tt'.others e' = tt.others e := by
      subst hadded
      exact congrArg (List.filter fun d => !d.isFor e.addr e.vid) honly.globalHash
    have hheld : TtHeld zeros tt' e' := by
      refine ⟨?_, ?_, fun d hd => ?_, ?_, honly.vlans h.vlans, ?_,
        fun k hk => h.zero k (Tally.bump_eq_some_zero (htally ▸ hk))⟩
      · rw [honly.globalHash, ← hadded]
        exact h.mem
      · rw [honly.globalHash]
        exact h.keys
      · rw [hothers] at hd
        exact ⟨(h.entries d hd).1.of_known hknown', (h.entries d hd).2⟩
      · subst hadded
        refine ⟨List.nodup_cons.2 ⟨hnew, h.entry.nodup⟩, ?_, ?_⟩
        · rw [List.length_cons, h.entry.listCount]
          push_cast
          ring
        · rw [List.forall_mem_cons]
          exact ⟨hknown' orig hknown, fun o ho => hknown' o.origNode (h.entry.known o ho)⟩
      · rw [htally, hothers, ← hadded]
        exact h.counts.cons (orig, e.vid)
    have hne : e'.origList ≠ [] := by
      rw [← hadded]
      exact List.cons_ne_nil _ _
    exact ⟨hheld.setFlags _ e'.roamAt, hne⟩

/-- The end of an addition. -/
lemma TtHeld.addRemoveLocal (h : TtHeld zeros tt e) (hne : e.origList ≠ []) (flags : U16) :
    TtAccounts zeros (ttGlobalAddRemoveLocal (.plain j n) tt e flags) := by
  unfold ttGlobalAddRemoveLocal
  split_ifs
  · exact h.put hne
  · exact ((h.setLocal _).setFlags _ e.roamAt).put hne
  · exact ((h.setLocal _).setFlags _ e.roamAt).put hne

/-- An originator is added, and the addition ended. -/
lemma TtHeld.addOrigEntry (h : TtHeld zeros tt e) {orig : EthAddr}
    (hknown : (ttOrigHashFind tt orig).isSome = true) (flags : U16) (ttvn : U8) :
    TtAccounts zeros (ttGlobalAddOrigEntry (.plain j n) tt e orig flags ttvn) := by
  obtain ⟨hheld, hne⟩ := h.origEntryAdd (j := j) (n := n) hknown ttvn
    ((flags &&& TT_SYNC_MASK).setWidth 8)
  exact hheld.addRemoveLocal hne flags

/-- **An entry for a new client is put into the table**, and taken in hand. -/
lemma TtAccounts.insert (h : TtAccounts zeros tt) {addr : EthAddr} {vid : U16}
    (hfind : ttGlobalHashFind tt addr vid = none) (flags : U16) :
    TtHeld zeros
      { tt with
        globalHash := tt.globalHash.take (n addr vid) ++
          ttGlobalNewEntry (.plain j n) addr vid flags :: tt.globalHash.drop (n addr vid) }
      (ttGlobalNewEntry (.plain j n) addr vid flags) := by
  generalize hnew : ttGlobalNewEntry (.plain j n) addr vid flags = d
  have hkey : d.key = (addr, vid) := by rw [← hnew]; rfl
  have hlist : d.origList = [] ∧ d.origListCount = 0 := by rw [← hnew]; exact ⟨rfl, rfl⟩
  have hother : ∀ c ∈ tt.globalHash, c.isFor d.addr d.vid = false := fun c hc => by
    rw [← Bool.not_eq_true, TtGlobalEntry.isFor_iff]
    exact fun heq => List.find?_eq_none.1 hfind c hc (TtGlobalEntry.isFor_iff.2 (heq.trans hkey))
  generalize n addr vid = pos
  have hperm : (tt.globalHash.take pos ++ d :: tt.globalHash.drop pos).Perm
      (d :: tt.globalHash) := by
    have hmiddle : (tt.globalHash.take pos ++ d :: tt.globalHash.drop pos).Perm
        (d :: (tt.globalHash.take pos ++ tt.globalHash.drop pos)) := List.perm_middle
    rwa [List.take_append_drop] at hmiddle
  have hothers : TtPriv.others
      { tt with globalHash := tt.globalHash.take pos ++ d :: tt.globalHash.drop pos } d =
        tt.globalHash := by
    have hfilter := filter_split (tt.globalHash.take pos) (tt.globalHash.drop pos)
      (e := d) (d := d) rfl (by rw [List.take_append_drop]; exact hother)
    rw [List.take_append_drop] at hfilter
    exact hfilter
  refine ⟨List.mem_map_of_mem (by simp), ?_, fun c hc => ?_, ?_, h.vlans, ?_, h.zero⟩
  · rw [(hperm.map TtGlobalEntry.key).nodup_iff, List.map_cons, List.nodup_cons]
    refine ⟨fun hmem => ?_, h.keys⟩
    obtain ⟨c, hc, heq⟩ := List.mem_map.1 hmem
    exact absurd (TtGlobalEntry.isFor_iff.2 heq) (by rw [hother c hc]; exact Bool.false_ne_true)
  · rw [hothers] at hc
    exact ⟨(h.entries c hc).1.of_known fun _ => id, (h.entries c hc).2⟩
  · refine ⟨?_, ?_, fun o ho => ?_⟩
    · rw [hlist.1]
      exact List.nodup_nil
    · rw [hlist.1, hlist.2]
      rfl
    · rw [hlist.1] at ho
      cases ho
  · rw [hothers, TtGlobalEntry.pairs, hlist.1]
    exact h.counts

/-- Those who are known stay known when originators are taken off a list. -/
lemma TtHeld.known_delOrigEntries (h : TtHeld zeros tt e) (p : EthAddr → Bool) (orig : EthAddr) :
    (ttOrigHashFind (ttGlobalDelOrigEntries (.plain j n) p tt e).1 orig).isSome =
      (ttOrigHashFind tt orig).isSome :=
  (ttGlobalDelOrigEntries_spec h.vlans p h.entry.known).2.known orig

/-- What is known of a temporary or a roaming client does not count any more. -/
lemma TtHeld.addExisting (h : TtHeld zeros tt e) (flags : U16) :
    TtHeld zeros (ttGlobalAddExisting (.plain j n) tt e flags).1
        (ttGlobalAddExisting (.plain j n) tt e flags).2 ∧
      ∀ orig, (ttOrigHashFind (ttGlobalAddExisting (.plain j n) tt e flags).1 orig).isSome =
        (ttOrigHashFind tt orig).isSome := by
  -- an entry whose originators are all taken off, or the entry as it is
  have hwipe : ∀ {tt e}, TtHeld zeros tt e → ∀ flags roamAt,
      TtHeld zeros (ttGlobalDelOrigList (.plain j n) tt e).1
          { (ttGlobalDelOrigList (.plain j n) tt e).2 with
            flags := flags, roamAt := roamAt } ∧
        ∀ orig, (ttOrigHashFind (ttGlobalDelOrigList (.plain j n) tt e).1 orig).isSome =
          (ttOrigHashFind tt orig).isSome :=
    fun h flags roamAt => ⟨(h.delOrigEntries _).setFlags flags roamAt, h.known_delOrigEntries _⟩
  unfold ttGlobalAddExisting
  obtain ⟨tt₁, e₁, hfirst, hheld₁, hknown₁⟩ : ∃ tt₁ e₁,
      (if hasFlag e.flags TT_CLIENT_TEMP then
          ((ttGlobalDelOrigList (.plain j n) tt e).1,
            { (ttGlobalDelOrigList (.plain j n) tt e).2 with
              flags := (ttGlobalDelOrigList (.plain j n) tt e).2.flags &&&
                ~~~TT_CLIENT_TEMP })
        else (tt, e)) = (tt₁, e₁) ∧ TtHeld zeros tt₁ e₁ ∧
        ∀ orig, (ttOrigHashFind tt₁ orig).isSome = (ttOrigHashFind tt orig).isSome := by
    split
    · exact ⟨_, _, rfl, hwipe h _ _⟩
    · exact ⟨tt, e, rfl, h, fun _ => rfl⟩
  dsimp only
  rw [hfirst]
  dsimp only
  obtain ⟨e₂, hsecond, hheld₂⟩ : ∃ e₂, (if isMulticastEtherAddr e₁.addr then e₁
      else { e₁ with flags := e₁.flags ||| (flags &&& ~~~TT_SYNC_MASK) }) = e₂ ∧
        TtHeld zeros tt₁ e₂ := by
    split
    · exact ⟨e₁, rfl, hheld₁⟩
    · exact ⟨_, rfl, hheld₁.setFlags _ e₁.roamAt⟩
  rw [hsecond]
  split
  · obtain ⟨hheld, hknown⟩ := hwipe hheld₂ _ _
    exact ⟨hheld, fun orig => (hknown orig).trans (hknown₁ orig)⟩
  · exact ⟨hheld₂, hknown₁⟩

/-- The originators of a call are known to the other functions. -/
lemma TtAccounts.globalAdd (h : TtAccounts zeros tt) {orig : EthAddr}
    (hknown : (ttOrigHashFind tt orig).isSome = true) (addr : EthAddr) (vid flags : U16)
    (ttvn : U8) :
    TtAccounts zeros (ttGlobalAdd (.plain j n) tt orig addr vid flags ttvn).1 := by
  unfold ttGlobalAdd
  split
  · exact h
  split
  · exact h
  cases hfind : ttGlobalHashFind tt addr vid with
  | none =>
    have hheld := h.insert (j := j) (n := n) hfind flags
    exact hheld.addOrigEntry (j := j) (n := n) hknown flags ttvn
  | some e =>
    obtain ⟨hheld, -, -⟩ := h.held hfind
    have hne : e.origList ≠ [] := (h.entries e (List.mem_of_find?_eq_some hfind)).2
    dsimp only
    split
    · split
      · exact h
      split
      · exact hheld.addRemoveLocal hne flags
      · exact (hheld.delOrigEntries fun _ => true).addOrigEntry
          ((hheld.known_delOrigEntries _ orig).trans hknown) flags ttvn
    · obtain ⟨hexisting, hsame⟩ := hheld.addExisting (j := j) (n := n) flags
      exact hexisting.addOrigEntry ((hsame orig).trans hknown) flags ttvn

/-- **A client is deleted.** -/
lemma TtAccounts.globalDel (h : TtAccounts zeros tt) (orig addr : EthAddr) (vid : U16)
    (roaming : Bool) :
    TtAccounts zeros (ttGlobalDel (.plain j n) tt orig addr vid roaming) := by
  unfold ttGlobalDel
  cases hfind : ttGlobalHashFind tt addr vid with
  | none => exact h
  | some e =>
    obtain ⟨hheld, -, -⟩ := h.held hfind
    have hne : e.origList ≠ [] := (h.entries e (List.mem_of_find?_eq_some hfind)).2
    dsimp only
    split
    · -- one originator less
      have hdel := hheld.delOrigEntries (j := j) (n := n) fun o => o == orig
      split
      · next hempty => exact hdel.free (List.isEmpty_iff.1 hempty)
      · next hempty => exact hdel.put fun hnil => hempty (List.isEmpty_iff.2 hnil)
    split
    · -- the client is a local one now
      refine (hheld.delOrigEntries fun _ => true).free ?_
      exact List.filter_eq_nil_iff.2 fun _ _ => by simp
    · unfold ttGlobalDelRoaming
      dsimp only
      split
      · exact (hheld.setFlags _ j).put hne
      · next hlast =>
        refine (hheld.delOrigEntries fun o => o == orig).put fun hnil => hlast ?_
        rw [List.all_eq_true]
        intro o ho
        simpa using List.filter_eq_nil_iff.1 hnil o ho

/-- What clients contribute before and after some of their originators are taken off. -/
lemma ttPairs_delete_perm (tt : TtPriv) (m : TtGlobalEntry → Bool) (p : EthAddr → Bool)
    (l : List TtGlobalEntry) :
    (ttPairs l).Perm ((l.flatMap fun e => if m e then e.pairsOf p else []) ++
      ttPairs (l.filterMap fun e =>
        if m e then
          if (ttGlobalDelOrigEntries (.plain j n) p tt e).2.origList.isEmpty then none
          else some (ttGlobalDelOrigEntries (.plain j n) p tt e).2
        else some e)) := by
  induction l with
  | nil => exact .refl _
  | cons e l ih =>
    have hpairs := pairsOf_append_perm (j := j) (n := n) tt p e
    rw [List.flatMap_cons, List.filterMap_cons]
    cases hm : m e with
    | false =>
      simp only [Bool.false_eq_true, if_false, List.nil_append]
      rw [ttPairs, ttPairs, List.flatMap_cons, List.flatMap_cons]
      exact (ih.append_left _).trans (List.perm_append_comm_assoc _ _ _)
    | true =>
      simp only [if_true]
      have hsplit : (ttPairs (e :: l)).Perm ((e.pairsOf p ++
          (ttGlobalDelOrigEntries (.plain j n) p tt e).2.pairs) ++ ttPairs l) :=
        hpairs.symm.append_right _
      refine hsplit.trans ?_
      rw [List.append_assoc, List.append_assoc]
      refine List.Perm.append_left _ ?_
      cases hempty : (ttGlobalDelOrigEntries (.plain j n) p tt e).2.origList.isEmpty with
      | true =>
        rw [TtGlobalEntry.pairs, List.isEmpty_iff.1 hempty]
        exact ih
      | false =>
        simp only [Bool.false_eq_true, if_false]
        rw [ttPairs, ttPairs, List.flatMap_cons]
        exact (ih.append_left _).trans (List.perm_append_comm_assoc _ _ _)

/-- The clients that are left were there before. -/
lemma map_key_filterMap_sublist {f : TtGlobalEntry → Option TtGlobalEntry}
    (hf : ∀ d c, f d = some c → c.key = d.key) (l : List TtGlobalEntry) :
    ((l.filterMap f).map TtGlobalEntry.key).Sublist (l.map TtGlobalEntry.key) := by
  induction l with
  | nil => exact .slnil
  | cons d l ih =>
    rw [List.filterMap_cons]
    cases hd : f d with
    | none => exact ih.cons d.key
    | some c =>
      rw [List.map_cons, List.map_cons, hf d c hd]
      exact ih.cons_cons d.key

/-- **Originators are taken off the lists of many clients**, and clients without any out of the
table. -/
lemma TtAccounts.deleteAll (h : TtAccounts zeros tt) (m : TtGlobalEntry → Bool)
    (p : EthAddr → Bool) :
    TtAccounts zeros
      { tt.globalHash.foldl (fun tt e =>
            if m e then (ttGlobalDelOrigEntries (.plain j n) p tt e).1 else tt) tt with
        globalHash := tt.globalHash.filterMap fun e =>
          if m e then
            if (ttGlobalDelOrigEntries (.plain j n) p tt e).2.origList.isEmpty then none
            else some (ttGlobalDelOrigEntries (.plain j n) p tt e).2
          else some e } := by
  obtain ⟨htally, honly⟩ := foldl_ttGlobalDelOrigEntries_spec (j := j) (n := n)
    h.vlans m p (l := tt.globalHash) fun e he => (h.entries e he).1.known
  have hperm := ttPairs_delete_perm (j := j) (n := n) tt m p tt.globalHash
  generalize hfold : tt.globalHash.foldl (fun tt e =>
    if m e then (ttGlobalDelOrigEntries (.plain j n) p tt e).1 else tt) tt = tt'
    at htally honly
  generalize hlist : (tt.globalHash.filterMap fun e =>
    if m e then
      if (ttGlobalDelOrigEntries (.plain j n) p tt e).2.origList.isEmpty then none
      else some (ttGlobalDelOrigEntries (.plain j n) p tt e).2
    else some e) = globalHash at hperm
  have hknown : ∀ orig, (ttOrigHashFind tt orig).isSome = true → (ttOrigHashFind
      { tt' with globalHash := globalHash } orig).isSome = true :=
    fun orig ho => (honly.known orig).trans ho
  refine ⟨?_, fun e he => ?_, honly.vlans h.vlans, ?_,
    fun k hk => h.zero k (Tally.bumpAll_eq_some_zero (htally ▸ hk))⟩
  · refine h.keys.sublist (hlist ▸ map_key_filterMap_sublist (fun d c hdc => ?_) tt.globalHash)
    split at hdc
    · split at hdc
      · cases hdc
      · cases hdc
        rfl
    · cases hdc
      rfl
  · subst hlist
    obtain ⟨d, hd, hde⟩ := List.mem_filterMap.1 he
    obtain ⟨hok, hne⟩ := h.entries d hd
    split at hde
    · split at hde
      · cases hde
      · next hempty =>
        cases hde
        exact ⟨(hok.delOrigEntries p).of_known hknown,
          fun hnil => hempty (List.isEmpty_iff.2 hnil)⟩
    · cases hde
      exact ⟨hok.of_known hknown, hne⟩
  · have hcounts := (h.counts.perm hperm).drop
    rw [← htally] at hcounts
    exact hcounts

/-- The numbers of clients and the identifiers of VLANs are what the accounts are about. -/
lemma TtAccounts.vlansUpdate (h : TtAccounts zeros tt) (orig : EthAddr)
    {f : TtOrigNode → TtOrigNode} {g : OrigNodeVlan → OrigNodeVlan}
    (horig : ∀ o, (f o).orig = o.orig) (hvlans : ∀ o, (f o).vlanList = o.vlanList.map g)
    (hg : ∀ vlan, (g vlan).vid = vlan.vid ∧ (g vlan).numEntries = vlan.numEntries) :
    TtAccounts zeros (ttOrigUpdate tt orig f) := by
  have hfind := ttOrigHashFind_update tt orig fun o _ => horig o
  have hget (o : TtOrigNode) (vid : U16) : (origNodeVlanGet (f o) vid).map OrigNodeVlan.numEntries =
      (origNodeVlanGet o vid).map OrigNodeVlan.numEntries := by
    have hvid : ((fun vlan : OrigNodeVlan => vlan.vid == vid) ∘ g) = fun vlan => vlan.vid == vid :=
      funext fun vlan => congrArg (· == vid) (hg vlan).1
    have hnum : (OrigNodeVlan.numEntries ∘ g) = OrigNodeVlan.numEntries :=
      funext fun vlan => (hg vlan).2
    rw [origNodeVlanGet, hvlans, List.find?_map, hvid, Option.map_map, hnum, origNodeVlanGet]
  have htally : ttTally (ttOrigUpdate tt orig f) = ttTally tt := by
    funext k
    rw [ttTally, ttTally, hfind]
    cases ttOrigHashFind tt k.1 with
    | none => rfl
    | some o =>
      rw [Option.map_some, Option.bind_some, Option.bind_some]
      split_ifs
      · exact hget o k.2
      · rfl
  refine ⟨h.keys, fun e he => ?_, fun o ho => ?_, ?_, ?_⟩
  · obtain ⟨hok, hne⟩ := h.entries e he
    exact ⟨hok.of_known fun orig' ho => by rw [hfind, Option.isSome_map, ho], hne⟩
  · obtain ⟨o', ho', rfl⟩ := List.mem_map.1 ho
    obtain ⟨hnd, hvalid⟩ := h.vlans o' ho'
    split_ifs
    · have hvids : (o'.vlanList.map g).map OrigNodeVlan.vid =
          o'.vlanList.map OrigNodeVlan.vid := by
        rw [List.map_map]
        exact List.map_congr_left fun vlan _ => (hg vlan).1
      rw [TtOrigNode.VlansOk, hvlans, hvids]
      refine ⟨hnd, List.forall_mem_map.2 fun vlan hvlan => ?_⟩
      rw [(hg vlan).1]
      exact hvalid vlan hvlan
    · exact ⟨hnd, hvalid⟩
  · rw [htally]
    exact h.counts
  · rw [htally]
    exact h.zero

/-- Fields of an originator that are not about its VLANs may be written. -/
lemma TtAccounts.origUpdate (h : TtAccounts zeros tt) (orig : EthAddr) {f : TtOrigNode → TtOrigNode}
    (horig : ∀ o, (f o).orig = o.orig) (hvlans : ∀ o, (f o).vlanList = o.vlanList) :
    TtAccounts zeros (ttOrigUpdate tt orig f) :=
  h.vlansUpdate orig (g := id) horig (fun o => (hvlans o).trans (List.map_id _).symm)
    fun _ => ⟨rfl, rfl⟩

/-- All clients of an originator are deleted. -/
lemma TtAccounts.globalDelOrig (h : TtAccounts zeros tt) (orig : EthAddr)
    (matchVid : Option U16) :
    TtAccounts zeros (ttGlobalDelOrig (.plain j n) tt orig matchVid) :=
  (h.deleteAll (j := j) (n := n) (fun e => matchVid.all fun vid => e.vid == vid)
    fun o => o == orig).origUpdate orig (fun _ => rfl) fun _ => rfl

/-- Clients that have roamed away, and temporary ones, time out. -/
lemma TtAccounts.globalPurge (h : TtAccounts zeros tt) (msecsToJiffies : ℕ → Jiffies) :
    TtAccounts zeros (ttGlobalPurge msecsToJiffies (.plain j n) tt) := by
  have hlist : (tt.globalHash.filterMap fun e =>
      if ttGlobalToPurge msecsToJiffies j e then
        if (ttGlobalDelOrigList (.plain j n) tt e).2.origList.isEmpty then none
        else some (ttGlobalDelOrigList (.plain j n) tt e).2
      else some e) =
      tt.globalHash.filter fun e => !ttGlobalToPurge msecsToJiffies j e := by
    rw [← List.filterMap_eq_filter]
    refine List.filterMap_congr fun e _ => ?_
    have hempty : (ttGlobalDelOrigList (.plain j n) tt e).2.origList = [] :=
      List.filter_eq_nil_iff.2 fun _ _ => by simp
    rw [hempty]
    cases hpurge : ttGlobalToPurge msecsToJiffies j e <;>
      simp [Option.guard, hpurge]
  have hall := h.deleteAll (j := j) (n := n)
    (ttGlobalToPurge msecsToJiffies j) fun _ => true
  unfold ttGlobalDelOrigList at hlist
  rw [hlist] at hall
  exact hall

/-- A client that others have announced is a local one now. -/
lemma TtAccounts.privLocalAdd (h : TtAccounts zeros tt) (a : TtLocalAddArgs) :
    TtAccounts zeros (ttPrivLocalAdd (.plain j n) tt a) := by
  unfold ttPrivLocalAdd
  dsimp only
  have hlocal := h.setLocal (ttLocalAdd tt.ttLocal a).1
  generalize ({ tt with ttLocal := (ttLocalAdd tt.ttLocal a).1 } : TtPriv) = tt' at hlocal ⊢
  split
  · exact hlocal
  cases hfind : ttGlobalHashFind tt' a.addr a.vid with
  | none => exact hlocal
  | some e =>
    obtain ⟨hheld, -, -⟩ := hlocal.held hfind
    have hne : e.origList ≠ [] := (hlocal.entries e (List.mem_of_find?_eq_some hfind)).2
    dsimp only
    split
    · exact hlocal
    split
    · refine (hheld.delOrigEntries fun _ => true).free ?_
      exact List.filter_eq_nil_iff.2 fun _ _ => by simp
    · exact (hheld.setFlags _ j).put hne

/-- **An originator becomes known.** -/
lemma TtAccounts.origNew (h : TtAccounts zeros tt) {orig : EthAddr}
    (hzero : ttOrigHashFind tt orig = none → zeros (orig, 0)) :
    TtAccounts zeros (ttOrigNew tt orig) := by
  unfold ttOrigNew
  cases hfind : ttOrigHashFind tt orig with
  | some o => exact h
  | none =>
    rw [if_neg (by simp)]
    generalize htt : ({ tt with origHash := ttOrigNodeNew orig :: tt.origHash } : TtPriv) = tt'
    have hself : ttOrigHashFind tt' orig = some (ttOrigNodeNew orig) := by
      rw [← htt]
      exact List.find?_cons_of_pos (beq_self_eq_true orig)
    have hother : ∀ orig' ≠ orig, ttOrigHashFind tt' orig' = ttOrigHashFind tt orig' := by
      intro orig' hne
      have hkey : ((ttOrigNodeNew orig).orig == orig') = false := beq_eq_false_iff_ne.2 hne.symm
      rw [ttOrigHashFind, ← htt, List.find?_cons, hkey]
      rfl
    have hglobal : tt'.globalHash = tt.globalHash := by rw [← htt]
    have hold : ∀ {orig'}, (ttOrigHashFind tt orig').isSome = true → orig' ≠ orig := by
      rintro orig' hsome rfl
      rw [hfind] at hsome
      cases hsome
    have hknown : ∀ orig', (ttOrigHashFind tt orig').isSome = true →
        (ttOrigHashFind tt' orig').isSome = true := fun orig' hsome => by
      rw [hother orig' (hold hsome), hsome]
    -- the one number is that of the VLAN 0, and it is zero
    have htally : ∀ k, ttTally tt' k =
        if k.1 = orig then (if k.2 = 0 then some 0 else none) else ttTally tt k := by
      rintro ⟨orig', vid⟩
      rw [ttTally, ttTally]
      dsimp only
      split_ifs with horig hvid
      · rw [horig, hself, hvid]
        rfl
      · have hne : ((0 : U16) == vid) = false := beq_eq_false_iff_ne.2 (Ne.symm hvid)
        rw [horig, hself, Option.bind_some, origNodeVlanGet, ttOrigNodeNew, List.find?_cons, hne]
        rfl
      · rw [hother orig' horig]
    refine ⟨hglobal ▸ h.keys, fun e he => ?_, fun o ho => ?_, fun k hk => ?_, fun k hk => ?_⟩
    · obtain ⟨hok, hne⟩ := h.entries e (hglobal ▸ he)
      exact ⟨hok.of_known hknown, hne⟩
    · rw [← htt] at ho
      rcases List.mem_cons.1 ho with rfl | ho
      · exact ⟨List.nodup_singleton _, by simp [ttOrigNodeNew]; decide⟩
      · exact h.vlans o ho
    · rw [hglobal, ← h.counts k hk, Tally.val, Tally.val, htally]
      split_ifs with horig hvid
      · rw [ttTally, horig, hfind]
        rfl
      · rw [ttTally, horig, hfind]
        rfl
      · rfl
    · rw [htally] at hk
      split_ifs at hk with horig hvid
      · obtain ⟨orig', vid⟩ := k
        cases horig
        cases hvid
        exact hzero hfind
      · exact h.zero k hk

end Functions

/-! ### Runs -/

section Runs

variable {zeros : EthAddr × U16 → Prop} {tt tt' : TtPriv}

/-- The numbers that may be zero after a call: those that were zero, and those of an originator that
was not known. -/
def ttZeros (tt : TtPriv) (k : EthAddr × U16) : Prop :=
  ttTally tt k = some 0 ∨ ttOrigHashFind tt k.1 = none

/-- A client contributes a pair once. -/
lemma TtGlobalEntry.count_pairs {e : TtGlobalEntry}
    (hnd : (e.origList.map TtOrigListEntry.origNode).Nodup) (orig : EthAddr) (vid : U16) :
    e.pairs.count (orig, vid) = if e.vid == vid && (e.origEntryFind orig).isSome then 1 else 0 := by
  by_cases hvid : e.vid = vid
  · have hpairs : e.pairs =
        (e.origList.map TtOrigListEntry.origNode).map fun orig => (orig, vid) := by
      rw [List.map_map, ← hvid]
      rfl
    have hinj : Function.Injective fun orig : EthAddr => (orig, vid) :=
      fun _ _ h => congrArg Prod.fst h
    have hmem : (e.origEntryFind orig).isSome = true ↔
        orig ∈ e.origList.map TtOrigListEntry.origNode := by
      rw [TtGlobalEntry.origEntryFind, List.find?_isSome, List.mem_map]
      simp only [beq_iff_eq]
    rw [hpairs, List.count_map_of_injective _ _ hinj, hnd.count, hvid, beq_self_eq_true,
      Bool.true_and]
    exact if_congr hmem.symm rfl rfl
  · have hne : (e.vid == vid) = false := beq_eq_false_iff_ne.2 hvid
    rw [hne, Bool.false_and, if_neg Bool.false_ne_true, List.count_eq_zero]
    intro hmem
    obtain ⟨o, -, ho⟩ := List.mem_map.1 hmem
    exact hvid (congrArg Prod.snd ho)

/-- The number of clients of an originator in a VLAN is that of its pair. -/
lemma TtAccounts.clientCount (h : TtAccounts zeros tt) (orig : EthAddr) (vid : U16) :
    ttClientCount tt orig vid = (ttPairs tt.globalHash).count (orig, vid) := by
  have hnd : ∀ e ∈ tt.globalHash, (e.origList.map TtOrigListEntry.origNode).Nodup :=
    fun e he => (h.entries e he).1.nodup
  rw [ttClientCount]
  generalize tt.globalHash = l at hnd
  induction l with
  | nil => rfl
  | cons e l ih =>
    obtain ⟨he, hrest⟩ := List.forall_mem_cons.1 hnd
    have hpairs : ttPairs (e :: l) = e.pairs ++ ttPairs l := List.flatMap_cons
    rw [hpairs, List.count_append, e.count_pairs he, List.countP_cons, ih hrest, Nat.add_comm]

/-- The number that an originator keeps is that of its clients. -/
lemma TtAccounts.val_tally (h : TtAccounts zeros tt) (orig : EthAddr) {vid : U16}
    (hvid : vlanIdValid vid = true) :
    Tally.val (ttTally tt) (orig, vid) = ttClientCount tt orig vid := by
  rw [h.clientCount, lawful_beq_subsingleton (instBEqProd : BEq (EthAddr × U16))
    instBEqOfDecidableEq]
  exact h.counts (orig, vid) hvid

/-- **The accounts are as promised.** -/
theorem TtAccounts.exact (h : TtAccounts zeros tt) : TtAccountsExact tt where
  keys := h.keys
  origList e he :=
    let ⟨hok, hne⟩ := h.entries e he
    ⟨hne, hok.nodup, hok.listCount⟩
  numEntries orig o ho vid hvid := by
    rw [← h.val_tally orig hvid, Tally.val, ttTally, ho]
    rfl
  invalid orig o ho vid hvid := by
    cases hget : origNodeVlanGet o vid with
    | none => rfl
    | some vlan =>
      have hvlan := (h.vlans o (List.mem_of_find?_eq_some ho)).2 vlan
        (List.mem_of_find?_eq_some hget)
      have hsame : (vlan.vid == vid) = true :=
        List.find?_some (p := fun d : OrigNodeVlan => d.vid == vid) hget
      rw [beq_iff_eq.1 hsame, hvid] at hvlan
      cases hvlan

/-- A VLAN without clients after a call had none before, or the originator was not known. -/
lemma TtAccounts.vlanUnlinked (h : TtAccounts zeros tt) (h' : TtAccounts (ttZeros tt) tt') :
    TtVlanUnlinked tt tt' := by
  intro orig o ho vid hvid hbefore hafter
  cases hget : origNodeVlanGet o vid with
  | none => rfl
  | some vlan =>
    have htally : ttTally tt' (orig, vid) = some vlan.numEntries := by
      rw [ttTally, ho, Option.bind_some, hget, Option.map_some]
    have hnum := h'.val_tally orig hvid
    rw [Tally.val, htally, Option.getD_some, hafter] at hnum
    have hnumBefore := h.val_tally orig hvid
    rcases h'.zero (orig, vid) (by rw [htally, hnum]; rfl) with hzero | hunknown
    · rw [Tally.val, hzero, Option.getD_some] at hnumBefore
      omega
    · rw [Tally.val, ttTally, hunknown] at hnumBefore
      have hnone : (0 : ℤ) = ttClientCount tt orig vid := hnumBefore
      omega

/-- **A call keeps the accounts**, and no number becomes zero. -/
theorem ttGlobalStep_accounts (msecsToJiffies : ℕ → Jiffies) (h : TtAccounts zeros tt)
    (c : TtGlobalCall) : TtAccounts (ttZeros tt) (ttGlobalStep msecsToJiffies tt c) := by
  have hstart : TtAccounts (ttZeros tt) tt :=
    ⟨h.keys, h.entries, h.vlans, h.counts, fun _ => Or.inl⟩
  obtain ⟨jiffies, pos, op⟩ := c
  cases op with
  | origNew orig => exact hstart.origNew Or.inr
  | add orig addr vid flags ttvn =>
    rw [ttGlobalStep]
    dsimp only
    split
    · next hknown => exact hstart.globalAdd hknown addr vid flags ttvn
    · exact hstart
  | del orig addr vid roaming => exact hstart.globalDel orig addr vid roaming
  | delOrig orig matchVid => exact hstart.globalDelOrig orig matchVid
  | localAdd a => exact hstart.privLocalAdd a
  | purge => exact hstart.globalPurge msecsToJiffies

/-- There is nothing to count at first. -/
lemma ttAccounts_new (vids : List U16) : TtAccounts (fun _ => True) (TtPriv.new vids) where
  keys := List.nodup_nil
  entries _ he := nomatch he
  vlans _ ho := nomatch ho
  counts _ _ := rfl
  zero _ _ := trivial

/-- **The accounts of the global table are right** in all states that any calls lead to, and a VLAN
in which an originator has no clients any more is unlinked by the call that takes the last one.

**Proof sketch.** A call keeps the accounts; the numbers that are zero after it are those of a new
originator, or they were zero before. -/
theorem tt_global_accounting (msecsToJiffies : ℕ → Jiffies) (vids : List U16)
    (calls : List TtGlobalCall) :
    (∀ tt ∈ Run.states (ttGlobalStep msecsToJiffies) (.new vids) calls, TtAccountsExact tt) ∧
      Run.AllSteps (ttGlobalStep msecsToJiffies)
        (fun tt c => TtVlanUnlinked tt (ttGlobalStep msecsToJiffies tt c)) (.new vids) calls := by
  have hkeep : ∀ tt c, TtAccounts (fun _ => True) tt →
      TtAccounts (fun _ => True) (ttGlobalStep msecsToJiffies tt c) := fun tt c h =>
    let h' := ttGlobalStep_accounts msecsToJiffies h c
    ⟨h'.keys, h'.entries, h'.vlans, h'.counts, fun _ _ => trivial⟩
  have htrue : Run.AllSteps (ttGlobalStep msecsToJiffies) (fun _ _ => True) (.new vids) calls :=
    .of_forall (fun _ _ => trivial) calls
  constructor
  · intro tt htt
    have haccounts := htrue.forall_mem_states _ (fun tt c h _ => hkeep tt c h)
      (ttAccounts_new vids) tt htt
    exact haccounts.exact
  · exact htrue.imp _ (fun tt c h _ =>
      ⟨h.vlanUnlinked (ttGlobalStep_accounts msecsToJiffies h c), hkeep tt c h⟩)
      (ttAccounts_new vids)

/-- Two calls that make a client of a VLAN whose identifier has a number but no tag. -/
def untaggedVlanCalls : List TtGlobalCall :=
  [⟨0, 0, .origNew 0x020000000002⟩, ⟨0, 0, .add 0x020000000002 0x0200000000c1 1 0 1⟩]

/-- A client is in the table, but the originator has no VLAN that counts it. -/
theorem tt_global_untagged_vlan_not_counted :
    let tt := Run.final (ttGlobalStep fun n => BitVec.ofNat 64 n) (.new [0]) untaggedVlanCalls
    ttClientCount tt 0x020000000002 1 = 1 ∧
      (ttOrigHashFind tt 0x020000000002).any fun o => origNodeVlanGet o 1 = none := by
  decide

end Runs

end Batadv
