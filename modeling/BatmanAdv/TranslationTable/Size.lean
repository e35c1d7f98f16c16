import BatmanAdv.Lib.Run
import BatmanAdv.TranslationTable.LocalTable

set_option relaxedAutoImplicit false
set_option autoImplicit false

/-!
# The sizes of the local translation table

Each VLAN has a counter of its committed clients, which decides what is announced and whether
another client fits.  A commit counts the clients whose flag `NEW` it clears, and takes off those
that are pending when it removes them.  `batadv_tt_local_resize_to_mtu` removes clients without
clearing the flag first: those that are `NEW` have never been counted.

## Main definitions

* `Batadv.TtLocal.committed` — the number of committed clients of a VLAN.
* `Batadv.TtLocal.SizesExact` — the counters are right.
* `Batadv.TtLocalOp.SparesNew` — the call removes no client that has not been counted.

## Main results

* `Batadv.TtLocal.SizesShort.step` — how far the counters fall short after one call.
* `Batadv.tt_sizes_iff` — exactly in which runs the counters are always right.
-/

namespace Batadv

variable {msecsToJiffies : ℕ → Jiffies} {tt : TtLocal}

/-- The number of committed clients of a VLAN: those whose flag `NEW` is clear. -/
def TtLocal.committed (tt : TtLocal) (vid : U16) : ℕ :=
  tt.localHash.countP fun e => e.vid == vid && !hasFlag e.flags TT_CLIENT_NEW

/-- The counter of each VLAN is the number of its committed clients. -/
def TtLocal.SizesExact (tt : TtLocal) : Prop :=
  ∀ vlan ∈ tt.vlanList, vlan.numEntries = tt.committed vlan.vid

instance (tt : TtLocal) : Decidable tt.SizesExact :=
  List.decidableBAll _ tt.vlanList

/-- The counter of each VLAN falls short of the number of its committed clients by `d`. -/
def TtLocal.SizesShort (d : U16 → ℕ) (tt : TtLocal) : Prop :=
  ∀ vlan ∈ tt.vlanList, vlan.numEntries = tt.committed vlan.vid - (d vlan.vid : ℤ)

/-- Whether a turn of the resizing loop removes the entry. -/
def TtLocalEntry.purged (msecsToJiffies : ℕ → Jiffies) (jiffies : Jiffies) (timeout : ℕ)
    (e : TtLocalEntry) : Bool :=
  hasFlag e.flags TT_CLIENT_PENDING || e.purgeDue msecsToJiffies jiffies timeout

/-- No turn of the resizing loop removes a client that is `NEW`. -/
def ttResizeSparesNew (msecsToJiffies : ℕ → Jiffies) (a : TtResizeArgs) :
    ℕ → ℕ → TtLocal → Prop
  | 0, _, _ => True
  | fuel + 1, timeout, tt =>
    timeout = 0 ∨ (ttLocalTableTransmitSize tt : ℤ) ≤ a.packetSizeMax ∨
      ((∀ e ∈ tt.localHash, e.purged msecsToJiffies a.jiffies timeout = true →
          hasFlag e.flags TT_CLIENT_NEW = false) ∧
        ttResizeSparesNew msecsToJiffies a fuel (timeout / 2)
          (ttResizeTurn msecsToJiffies a timeout tt))

/-- The call removes no client that has not been counted: if it is
`batadv_tt_local_resize_to_mtu`, then no client that a turn of its loop removes, because it is
pending or has been inactive for the timeout, is `NEW`. -/
def TtLocalOp.SparesNew (msecsToJiffies : ℕ → Jiffies) (tt : TtLocal) : TtLocalOp → Prop
  | .resize a =>
    ttResizeSparesNew msecsToJiffies a (TT_LOCAL_TIMEOUT / 2) (TT_LOCAL_TIMEOUT / 2) tt
  | _ => True

/-! ### What is counted -/

/-- A client that was added is `NEW`. -/
lemma hasFlag_new_ttLocalNewEntry (a : TtLocalAddArgs) :
    hasFlag (a.dynamicFlags (ttLocalNewEntry a).flags) TT_CLIENT_NEW = true := by
  rw [hasFlag_dynamicFlags a (by decide) (by decide),
    hasFlag_ttLocalNewEntry a (by decide) (by decide)]
  decide

/-- Writing to an entry without touching the flag `NEW` does not change what is committed. -/
lemma countP_put (hwf : tt.Wf) {e : TtLocalEntry} (he : e ∈ tt.localHash) (e' : TtLocalEntry)
    (hkey : e'.key = e.key) (hnew : hasFlag e'.flags TT_CLIENT_NEW = hasFlag e.flags TT_CLIENT_NEW)
    {addr : EthAddr} {vid : U16} (hfor : e.key = (addr, vid)) (v : U16) :
    (tt.localHash.map fun d => if d.isFor addr vid then e' else d).countP
        (fun d => d.vid == v && !hasFlag d.flags TT_CLIENT_NEW) = tt.committed v := by
  rw [List.countP_map]
  refine List.countP_congr fun d hd => ?_
  simp only [Function.comp_apply]
  split_ifs with hdfor
  · have hde : d = e := hwf.eq_of_key hd he ((TtLocalEntry.isFor_iff.1 hdfor).trans hfor.symm)
    have hvid : e'.vid = e.vid := congrArg Prod.snd hkey
    rw [hde, hvid, hnew]
  · rfl

/-- The committed clients of a VLAN after a turn of the resizing loop, those that it removes, and
those that it removes without their being committed. -/
lemma countP_purged (l : List TtLocalEntry) (p : TtLocalEntry → Bool) (v : U16) :
    l.countP (fun e => p e && e.vid == v) + (l.filter fun e => !p e).countP
        (fun e => e.vid == v && !hasFlag e.flags TT_CLIENT_NEW) =
      l.countP (fun e => e.vid == v && !hasFlag e.flags TT_CLIENT_NEW) +
        l.countP fun e => p e && hasFlag e.flags TT_CLIENT_NEW && e.vid == v := by
  induction l with
  | nil => rfl
  | cons e l ih =>
    rw [List.filter_cons]
    cases hp : p e
    all_goals
      simp only [Bool.not_true, Bool.not_false, Bool.false_eq_true, if_false, if_true,
        List.countP_cons, hp]
      cases hasFlag e.flags TT_CLIENT_NEW <;> cases e.vid == v <;> simp <;> omega

/-- The clients of a VLAN, counted by whether they are `NEW` and by whether they are pending. -/
lemma countP_new_pending (l : List TtLocalEntry) (v : U16) :
    l.countP (fun e => e.vid == v && !hasFlag e.flags TT_CLIENT_NEW) +
        l.countP (fun e => hasFlag e.flags TT_CLIENT_NEW && e.vid == v) =
      l.countP (fun e => hasFlag e.flags TT_CLIENT_PENDING && e.vid == v) +
        l.countP fun e => e.vid == v && !hasFlag e.flags TT_CLIENT_PENDING := by
  induction l with
  | nil => rfl
  | cons e l ih =>
    simp only [List.countP_cons]
    cases hasFlag e.flags TT_CLIENT_NEW <;> cases hasFlag e.flags TT_CLIENT_PENDING <;>
      cases e.vid == v <;> simp <;> omega

/-! ### How far the counters fall short -/

/-- Where neither the counters nor the committed clients change, the shortfall does not. -/
lemma TtLocal.SizesShort.of_eq {d : U16 → ℕ} {tt' : TtLocal} (h : tt.SizesShort d)
    (hvlan : tt'.vlanList = tt.vlanList) (hcommitted : ∀ v, tt'.committed v = tt.committed v) :
    tt'.SizesShort d := by
  intro vlan hmem
  rw [hcommitted]
  exact h vlan (hvlan ▸ hmem)

lemma TtLocal.SizesShort.add {d : U16 → ℕ} (hwf : tt.Wf) (h : tt.SizesShort d)
    (a : TtLocalAddArgs) : (ttLocalAdd tt a).1.SizesShort d := by
  cases hfind : ttLocalHashFind tt a.addr a.vid with
  | some e =>
    obtain ⟨he, hkey⟩ := ttLocalHashFind_eq_some hfind
    refine h.of_eq (ttLocalAdd_vlanList tt a) fun v => ?_
    rw [committed, ttLocalAdd_localHash_of_found hfind]
    refine countP_put hwf he _ ?_ ?_ hkey v
    · exact hkey.symm
    · exact hasFlag_new_flagsAgain a e.flags
  | none =>
    cases hadd : (ttLocalAdd tt a).2 with
    | false => rw [ttLocalAdd_of_refused hadd]; exact h
    | true =>
      refine h.of_eq (ttLocalAdd_vlanList tt a) fun v => ?_
      rw [committed, ttLocalAdd_localHash_of_new hfind hadd, List.countP_append,
        List.countP_cons]
      simp only [hasFlag_new_ttLocalNewEntry, Bool.not_true, Bool.and_false, Bool.false_eq_true,
        if_false, Nat.add_zero]
      rw [← List.countP_append, List.take_append_drop, committed]

lemma TtLocal.SizesShort.remove {d : U16 → ℕ} (hwf : tt.Wf) (h : tt.SizesShort d)
    (alloc : TtChange → Bool) (addr : EthAddr) (vid : U16) (roaming : Bool) :
    (ttLocalRemove alloc tt addr vid roaming).SizesShort d := by
  refine h.of_eq (ttLocalRemove_vlanList alloc tt addr vid roaming) fun v => ?_
  cases hfind : ttLocalHashFind tt addr vid with
  | none => rw [ttLocalRemove, hfind]
  | some e =>
    obtain ⟨he, hkey⟩ := ttLocalHashFind_eq_some hfind
    cases hnew : hasFlag e.flags TT_CLIENT_NEW with
    | false =>
      rw [committed, ttLocalRemove_localHash_of_committed alloc hfind hnew]
      refine countP_put hwf he _ ?_ ?_ hkey v
      · rfl
      · exact hasFlag_ttFlagsRemoved roaming (by decide) (by decide) e.flags
    | true =>
      -- what is removed was not committed
      rw [committed, ttLocalRemove_localHash_of_new alloc hfind hwf.nodup hnew,
        List.countP_filter]
      refine List.countP_congr fun x hx => ?_
      by_cases hxfor : x.isFor addr vid = true
      · have hxe : x = e :=
          hwf.eq_of_key hx he ((TtLocalEntry.isFor_iff.1 hxfor).trans hkey.symm)
        simp [hxe, hnew]
      · simp [hxfor]

lemma TtLocal.SizesShort.purge {d : U16 → ℕ} (hwf : tt.Wf) (h : tt.SizesShort d)
    (alloc : TtChange → Bool) (jiffies : Jiffies) (timeout : ℕ) :
    (ttLocalPurge msecsToJiffies alloc jiffies timeout tt).SizesShort d := by
  refine h.of_eq (ttLocalPurge_vlanList alloc jiffies timeout tt) fun v => ?_
  rw [committed, ttLocalPurge_localHash alloc jiffies timeout hwf.nodup, List.countP_map]
  refine List.countP_congr fun e _ => ?_
  simp only [Function.comp_apply]
  split_ifs
  · rw [hasFlag_or (by decide)]
  · rfl

/-- **A commit** leaves the shortfall as it is: it counts the clients that it commits, and takes
off those that it removes. -/
lemma TtLocal.SizesShort.commit {d : U16 → ℕ} (h : tt.SizesShort d) (a : TtCommitArgs) :
    (ttLocalCommitChanges a tt).SizesShort d := by
  by_cases hchanges : tt.localChanges = 0
  · obtain ⟨hhash, hvlan⟩ := ttLocalCommitChanges_of_no_changes a hchanges
    exact h.of_eq hvlan fun v => by rw [committed, committed, hhash]
  · have hclear (e : TtLocalEntry) :
        hasFlag (e.flags &&& ~~~TT_CLIENT_NEW) TT_CLIENT_NEW = false := hasFlag_and_not_self _ _
    have hpending (e : TtLocalEntry) :
        hasFlag (e.flags &&& ~~~TT_CLIENT_NEW) TT_CLIENT_PENDING =
          hasFlag e.flags TT_CLIENT_PENDING := hasFlag_and_not (by decide) _
    have hcommitted (v : U16) : (ttLocalCommitChanges a tt).committed v =
        tt.localHash.countP fun e => e.vid == v && !hasFlag e.flags TT_CLIENT_PENDING := by
      rw [committed, ttLocalCommitChanges_localHash a hchanges, List.countP_filter,
        List.countP_map]
      refine List.countP_congr fun e _ => ?_
      simp [hclear, hpending]
    intro vlan hmem
    rw [hcommitted]
    rw [ttLocalCommitChanges, if_neg hchanges, ttLocalClearNew_eq,
      ttLocalPurgePendingClients_eq] at hmem
    simp only [ttTvlvContainerUpdate_vlanList, ttLocalUpdateCrc, List.map_map, List.mem_map,
      Function.comp_apply] at hmem
    obtain ⟨old, hold, rfl⟩ := hmem
    have hshort := h old hold
    have hcount := countP_new_pending tt.localHash old.vid
    have hpendingCount : (tt.localHash.map fun e =>
        { e with flags := e.flags &&& ~~~TT_CLIENT_NEW }).countP
          (fun e => hasFlag e.flags TT_CLIENT_PENDING && e.vid == old.vid) =
        tt.localHash.countP fun e => hasFlag e.flags TT_CLIENT_PENDING && e.vid == old.vid := by
      rw [List.countP_map]
      refine List.countP_congr fun e _ => ?_
      simp [hpending]
    dsimp only
    rw [hpendingCount, hshort]
    unfold committed
    omega

/-- **A turn of the resizing loop** adds to the shortfall the clients that it removes without
their being committed. -/
lemma TtLocal.SizesShort.resizeTurn {d : U16 → ℕ} (hwf : tt.Wf) (h : tt.SizesShort d)
    (a : TtResizeArgs) (timeout : ℕ) :
    (ttResizeTurn msecsToJiffies a timeout tt).SizesShort fun v => d v +
      tt.localHash.countP fun e => e.purged msecsToJiffies a.jiffies timeout &&
        hasFlag e.flags TT_CLIENT_NEW && e.vid == v := by
  intro vlan hmem
  have hcount (v : U16) := countP_purged tt.localHash
    (TtLocalEntry.purged msecsToJiffies a.jiffies timeout) v
  have hcommitted (v : U16) : (ttResizeTurn msecsToJiffies a timeout tt).committed v =
      (tt.localHash.filter fun e => !e.purged msecsToJiffies a.jiffies timeout).countP
        fun e => e.vid == v && !hasFlag e.flags TT_CLIENT_NEW := by
    rw [committed, ttResizeTurn_localHash a timeout hwf.nodup]
    rfl
  rw [hcommitted]
  rw [ttResizeTurn, ttLocalPurgePendingClients_eq] at hmem
  simp only [ttLocalPurge_vlanList, List.mem_map] at hmem
  obtain ⟨old, hold, rfl⟩ := hmem
  have hshort := h old hold
  have hpurged : (ttLocalPurge msecsToJiffies a.allocChange a.jiffies timeout tt).localHash.countP
      (fun e => hasFlag e.flags TT_CLIENT_PENDING && e.vid == old.vid) =
      tt.localHash.countP fun e =>
        e.purged msecsToJiffies a.jiffies timeout && e.vid == old.vid := by
    rw [ttLocalPurge_localHash _ _ _ hwf.nodup, List.countP_map]
    refine List.countP_congr fun e _ => ?_
    simp only [Function.comp_apply, TtLocalEntry.purged]
    by_cases hdue : e.purgeDue msecsToJiffies a.jiffies timeout = true
    · rw [if_pos hdue, hasFlag_or_self (by decide)]
      simp [hdue]
    · rw [if_neg hdue]
      simp [hdue]
  dsimp only
  rw [hpurged, hshort]
  have hold := hcount old.vid
  unfold committed
  push_cast
  omega

lemma ttResizeTurn_vids (a : TtResizeArgs) (timeout : ℕ) (tt : TtLocal) :
    (ttResizeTurn msecsToJiffies a timeout tt).vlanList.map MeshifVlan.vid =
      tt.vlanList.map MeshifVlan.vid := by
  rw [ttResizeTurn, ttLocalPurgePendingClients_eq]
  simp only [ttLocalPurge_vlanList, List.map_map]
  rfl

lemma ttResizeLoop_vids (msecsToJiffies : ℕ → Jiffies) (a : TtResizeArgs) (fuel timeout : ℕ)
    (tt : TtLocal) (reduced : Bool) :
    (ttResizeLoop msecsToJiffies a fuel timeout tt reduced).1.vlanList.map MeshifVlan.vid =
      tt.vlanList.map MeshifVlan.vid := by
  induction fuel generalizing timeout tt reduced with
  | zero => rfl
  | succ fuel ih =>
    unfold ttResizeLoop
    split_ifs
    · rfl
    · rfl
    · rw [ih, ttResizeTurn_vids]

/-- The shortfall after the resizing loop has not become smaller, and has stayed the same in every
VLAN exactly if no turn has removed a client that was `NEW`.

**Proof sketch.** Induction on the fuel, with the shortfall general: what a turn adds to it is
nothing exactly if the turn spares the clients that are `NEW`. -/
lemma TtLocal.SizesShort.resizeLoop {d : U16 → ℕ} (hwf : tt.Wf) (h : tt.SizesShort d)
    (a : TtResizeArgs) (fuel timeout : ℕ) (reduced : Bool) :
    ∃ d' : U16 → ℕ, (ttResizeLoop msecsToJiffies a fuel timeout tt reduced).1.SizesShort d' ∧
      (∀ v, d v ≤ d' v) ∧
      (ttResizeSparesNew msecsToJiffies a fuel timeout tt ↔
        ∀ v ∈ tt.vlanList.map MeshifVlan.vid, d' v = d v) := by
  induction fuel generalizing timeout tt reduced d with
  | zero => exact ⟨d, h, fun _ => le_rfl, by simp [ttResizeSparesNew]⟩
  | succ fuel ih =>
    unfold ttResizeLoop ttResizeSparesNew
    split_ifs with htimeout hfits
    · exact ⟨d, h, fun _ => le_rfl, by simp [htimeout]⟩
    · exact ⟨d, h, fun _ => le_rfl, by simp [hfits]⟩
    · -- what the turn adds to the shortfall
      set removed : U16 → ℕ := fun v => tt.localHash.countP fun e =>
        e.purged msecsToJiffies a.jiffies timeout && hasFlag e.flags TT_CLIENT_NEW && e.vid == v
        with hremoved
      have hturn : (ttResizeTurn msecsToJiffies a timeout tt).SizesShort fun v => d v + removed v :=
        h.resizeTurn hwf a timeout
      obtain ⟨d', hshort, hle, hiff⟩ := ih (hwf.resizeTurn a timeout) hturn (timeout / 2) true
      rw [ttResizeTurn_vids] at hiff
      have hspared : (∀ e ∈ tt.localHash, e.purged msecsToJiffies a.jiffies timeout = true →
          hasFlag e.flags TT_CLIENT_NEW = false) ↔
            ∀ v ∈ tt.vlanList.map MeshifVlan.vid, removed v = 0 := by
        constructor
        · intro hall v _
          refine List.countP_eq_zero.2 fun e he hbad => ?_
          rw [Bool.and_eq_true, Bool.and_eq_true] at hbad
          rw [hall e he hbad.1.1] at hbad
          exact absurd hbad.1.2 (by simp)
        · intro hnone e he hpurged
          have hvid : e.vid ∈ tt.vlanList.map MeshifVlan.vid :=
            hwf.vlan e.key (List.mem_map_of_mem he)
          have hzero := List.countP_eq_zero.1 (hnone e.vid hvid) e he
          simpa [hpurged] using hzero
      refine ⟨d', hshort, fun v => (Nat.le_add_right _ _).trans (hle v), ?_⟩
      simp only [htimeout, hfits, false_or]
      rw [hspared, hiff]
      constructor
      · rintro ⟨hzero, hsame⟩ v hv
        rw [hsame v hv, hzero v hv, Nat.add_zero]
      · intro hsame
        have hzero : ∀ v ∈ tt.vlanList.map MeshifVlan.vid, removed v = 0 := fun v hv => by
          have hlev := hle v
          rw [hsame v hv] at hlev
          omega
        exact ⟨hzero, fun v hv => by rw [hsame v hv, hzero v hv, Nat.add_zero]⟩

/-! ### Runs -/

/-- The counters are right exactly if they do not fall short. -/
lemma sizesExact_iff_sizesShort_zero : tt.SizesExact ↔ tt.SizesShort fun _ => 0 := by
  simp [TtLocal.SizesExact, TtLocal.SizesShort]

/-- **One call** keeps the counters right exactly if it spares the clients that are `NEW`. -/
theorem TtLocal.SizesExact.step_iff (hwf : tt.Wf) (h : tt.SizesExact) (op : TtLocalOp) :
    (ttLocalStep msecsToJiffies tt op).SizesExact ↔ op.SparesNew msecsToJiffies tt := by
  rw [sizesExact_iff_sizesShort_zero] at h
  cases op with
  | add a => exact iff_of_true (sizesExact_iff_sizesShort_zero.2 (h.add hwf a)) trivial
  | remove alloc addr vid roaming =>
    exact iff_of_true
      (sizesExact_iff_sizesShort_zero.2 (h.remove hwf alloc addr vid roaming)) trivial
  | purge alloc jiffies timeout =>
    exact iff_of_true
      (sizesExact_iff_sizesShort_zero.2 (h.purge hwf alloc jiffies timeout)) trivial
  | commit a => exact iff_of_true (sizesExact_iff_sizesShort_zero.2 (h.commit a)) trivial
  | resize a =>
    obtain ⟨d, hshort, -, hiff⟩ :
        ∃ d' : U16 → ℕ, (ttResizeLoop msecsToJiffies a (TT_LOCAL_TIMEOUT / 2)
            (TT_LOCAL_TIMEOUT / 2) tt false).1.SizesShort d' ∧ (∀ _ : U16, 0 ≤ d' _) ∧
          (ttResizeSparesNew msecsToJiffies a (TT_LOCAL_TIMEOUT / 2) (TT_LOCAL_TIMEOUT / 2) tt ↔
            ∀ v ∈ tt.vlanList.map MeshifVlan.vid, d' v = 0) :=
      h.resizeLoop hwf a (TT_LOCAL_TIMEOUT / 2) (TT_LOCAL_TIMEOUT / 2) false
    have hafter : (ttLocalResizeToMtu msecsToJiffies a tt).SizesShort d ∧
        (ttLocalResizeToMtu msecsToJiffies a tt).vlanList.map MeshifVlan.vid =
          tt.vlanList.map MeshifVlan.vid := by
      have hvids := ttResizeLoop_vids (msecsToJiffies) a (TT_LOCAL_TIMEOUT / 2)
        (TT_LOCAL_TIMEOUT / 2) tt false
      unfold ttLocalResizeToMtu
      dsimp only
      split_ifs
      · exact ⟨hshort.commit a.commit, (ttLocalCommitChanges_vids _ _).trans hvids⟩
      · exact ⟨hshort, hvids⟩
    change (ttLocalResizeToMtu msecsToJiffies a tt).SizesExact ↔ ttResizeSparesNew _ _ _ _ _
    rw [hiff, ← hafter.2]
    constructor
    · rintro hexact v hv
      obtain ⟨vlan, hmem, rfl⟩ := List.mem_map.1 hv
      have hboth := (hexact vlan hmem).symm.trans (hafter.1 vlan hmem)
      omega
    · intro hzero vlan hmem
      rw [hafter.1 vlan hmem, hzero vlan.vid (List.mem_map_of_mem hmem)]
      simp

/-- **Local table size accounting.**  In a run of calls from a table without clients, the counters
are right in every state exactly if no call of `batadv_tt_local_resize_to_mtu` removes a client
that is `NEW`. -/
theorem tt_sizes_iff (msecsToJiffies : ℕ → Jiffies) (vids : List U16) (ops : List TtLocalOp) :
    (∀ tt ∈ Run.states (ttLocalStep msecsToJiffies) (TtLocal.new vids) ops, tt.SizesExact) ↔
      Run.AllSteps (ttLocalStep msecsToJiffies) (TtLocalOp.SparesNew msecsToJiffies)
        (TtLocal.new vids) ops := by
  have hnew : (TtLocal.new vids).SizesExact := by
    intro vlan hmem
    obtain ⟨vid, -, rfl⟩ := List.mem_map.1 hmem
    rfl
  exact Run.forall_mem_states_iff (fun tt => tt.Wf ∧ tt.SizesExact) TtLocal.SizesExact
    (fun _ _ => True) (fun tt op hinv _ => hinv.2.step_iff hinv.1 op)
    (fun tt op hinv _ hp => ⟨hinv.1.step op, (hinv.2.step_iff hinv.1 op).2 hp⟩)
    ⟨TtLocal.wf_new vids, hnew⟩ hnew (Run.AllSteps.of_forall (fun _ _ => trivial) ops)

/-- Six clients are committed and a seventh one is seen.  Before the next commit an interface with
an MTU of 100 comes, which is the size of the largest packet if nothing is fragmented. -/
def ttSizesFailOps : List TtLocalOp :=
  (List.range 6).map (fun i => ttSeen (BitVec.ofNat 48 (0x020000000001 + i)) 0 1000) ++
    [.commit ttCommitFits, ttSeen 0x020000000007 0 1000,
      .resize ⟨100, 2000, fun _ => true, ⟨68, true, true, true⟩⟩]

/-- The counter is -1 after that: the seventh client is taken off without having been counted. -/
theorem tt_sizes_fail :
    let final := Run.final (ttLocalStep fun ms => BitVec.ofNat 64 ms) (TtLocal.new [0])
      ttSizesFailOps
    final.localHash = [] ∧ final.vlanList.map MeshifVlan.numEntries = [-1] ∧
      ¬ ∀ tt ∈ Run.states (ttLocalStep fun ms => BitVec.ofNat 64 ms) (TtLocal.new [0])
        ttSizesFailOps, tt.SizesExact := by
  refine ⟨by decide +kernel, by decide +kernel, fun h => ?_⟩
  have hlast := h _ (Run.final_mem_states _ ttSizesFailOps)
  revert hlast
  decide +kernel

end Batadv
