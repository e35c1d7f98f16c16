import BatmanAdv.HardInterface.References

set_option relaxedAutoImplicit false
set_option autoImplicit false

/-!
# Hard interfaces over whole runs

Whatever happens to the devices and whatever is asked of the mesh interfaces, in any order, no
handler uses an object that was released or a mesh interface that is not there, every pointer leads
to an object that is alive, and an object is released exactly when it is off the list and nobody
else uses it.

## Main definitions

* `Batadv.HardifWorld.Inv` — the invariant of the runs.
* `Batadv.HardifWorld.Safe` — what it means for the module.

## Main results

* `Batadv.HardifWorld.Inv.next` — an event keeps the invariant.
* `Batadv.hardif_world_safe` — every state of every run is safe.
-/

namespace Batadv

open HardifTables HardifWorld

/-- **The invariant**: well-formed links, a list that is right, and counters that are right when no
handler is running. -/
structure HardifWorld.Inv (w : HardifWorld) : Prop where
  links : Links w.tables
  listed : Listed w.tables
  counted : Counted 0 w

/-- What the invariant means. -/
structure HardifWorld.Safe (w : HardifWorld) : Prop where
  /-- Nothing was used that is not there. -/
  fault : w.fault = false
  /-- The primary interface of a mesh is alive and one of the interfaces of the mesh. -/
  primary : ∀ m h, (w.tables.mesh m).primaryIf = some h →
    (w.tables.hardif h).meshIface = some m ∧ (w.tables.hardif h).ifStatus.inUse = true ∧
      0 < w.refcount h
  /-- The interfaces below a mesh interface are alive and have it as their mesh interface. -/
  lower : ∀ m h, h ∈ (w.tables.mesh m).lower ↔ (w.tables.hardif h).meshIface = some m
  alive : ∀ m h, h ∈ (w.tables.mesh m).lower → 0 < w.refcount h
  /-- An interface has a mesh interface and a packet handler exactly when its status says so. -/
  status : ∀ h, (w.tables.hardif h).meshIface.isSome = (w.tables.hardif h).ifStatus.inUse
  ptype : ∀ h, (w.tables.hardif h).ptype = (w.tables.hardif h).ifStatus.inUse
  /-- The list has at most one object of a device. -/
  device : ∀ h k, h ∈ w.tables.hardifList → k ∈ w.tables.hardifList →
    (w.tables.hardif h).netDev = (w.tables.hardif k).netDev → h = k
  /-- An object is released exactly when it is off the list and nobody else uses it. -/
  released : ∀ h, w.refcount h = 0 ↔ h ∉ w.tables.hardifList ∧ w.others h = 0
  /-- With B.A.T.M.A.N. V, a mesh without a primary interface has no interface that runs. -/
  v : ∀ m h, (w.tables.mesh m).algo = .v → (w.tables.mesh m).primaryIf = none →
    (w.tables.hardif h).meshIface = some m → (w.tables.hardif h).ifStatus = .inactive

variable {w : HardifWorld}

/-- An object that is off the list belongs to no mesh. -/
lemma HardifWorld.Inv.unused (hi : w.Inv) {h : ℕ} (hmem : h ∉ w.tables.hardifList) :
    (w.tables.hardif h).ifStatus.inUse = false := by
  by_cases hlt : h < w.tables.next
  · by_cases hst : (w.tables.hardif h).ifStatus = .toBeRemoved
    · rw [hst]
      rfl
    · exact absurd ((hi.listed.mem h).mpr ⟨hlt, hst⟩) hmem
  · rw [hi.listed.fresh h (by omega)]
    rfl

/-- The tables hold a reference exactly to the objects of the list. -/
lemma HardifWorld.Inv.refs_eq_zero (hi : w.Inv) (h : ℕ) :
    w.tables.refs h = 0 ↔ h ∉ w.tables.hardifList := by
  refine ⟨fun hr hmem => ?_, fun hmem => ?_⟩
  · have hpos := List.count_pos_iff.mpr hmem
    unfold refs at hr
    omega
  · have hun := hi.unused hmem
    have hmesh : (w.tables.hardif h).meshIface = none := by
      have h1 := hi.links.status h
      rw [hun] at h1
      simpa using h1
    rw [refs, List.count_eq_zero.mpr hmem, hi.links.ptype, hun, hmesh, primaryRefs_none hmesh]
    rfl

/-- The invariant is what the module needs. -/
lemma HardifWorld.Inv.safe (hi : w.Inv) : w.Safe where
  fault := hi.counted.fault
  primary m h hp := by
    have hm := hi.links.primary m h hp
    refine ⟨hm, ?_, hi.counted.pos_of_mesh hm⟩
    rw [← hi.links.status, hm]
    rfl
  lower := hi.links.lower
  alive m h hmem := hi.counted.pos_of_mesh (hi.counted.lower m h hmem)
  status := hi.links.status
  ptype := hi.links.ptype
  device := hi.listed.device
  released h := by
    rw [hi.counted.count, Multiset.count_zero, ← hi.refs_eq_zero]
    omega
  v m h halgo hnone hm := by
    obtain ⟨hwait, hactive⟩ := hi.links.v m h halgo hm
    have h1 := hi.links.status h
    rw [hm] at h1
    cases hst : (w.tables.hardif h).ifStatus with
    | notInUse => simp [hst, HardIfState.inUse] at h1
    | toBeRemoved => simp [hst, HardIfState.inUse] at h1
    | inactive => rfl
    | active => exact absurd hnone (hactive hst)
    | toBeActivated => exact absurd hst hwait

/-! ### One event -/

/-- A step that changes no link. -/
lemma HardifWorld.Inv.map_same (hi : w.Inv) {f : HardifTables → HardifTables}
    (hs : SameLinks w.tables (f w.tables)) : (w.map f).Inv :=
  ⟨hi.links.congr hs, hi.listed.congr hs, hi.counted.map_same hs⟩

/-- What an event of a device does to tables that are right. -/
lemma links_onEvent {t : HardifTables} (hl : Links t) (hL : Listed t) {h : ℕ}
    (hmem : h ∈ t.hardifList) (event : NetdevEvent) :
    Links (t.onEvent h event) ∧ Listed (t.onEvent h event) := by
  obtain ⟨hlt, hst⟩ := (hL.mem h).mp hmem
  have hdeactivate : Links (t.deactivate h) ∧ Listed (t.deactivate h) :=
    ⟨hl.deactivate h, hL.touches (touches_deactivate h t) hlt hst⟩
  have hremove : Links (t.remove h) ∧ Listed (t.remove h) := ⟨hl.remove hst, hL.remove hmem⟩
  cases event with
  | up => exact ⟨hl.activate h, hL.touches (touches_activate h t) hlt hst⟩
  | goingDown => exact hdeactivate
  | down => exact hdeactivate
  | unregister => exact hremove
  | preTypeChange => exact hremove
  | changeMtu mtu =>
    unfold HardifTables.onEvent
    cases hm : (t.hardif h).meshIface with
    | none => exact ⟨hl, hL⟩
    | some m => exact ⟨hl.congr (sameLinks_updateMinMtu m t), hL.congr (sameLinks_updateMinMtu m t)⟩
  | _ => exact ⟨hl, hL⟩

/-- An event of a device. -/
lemma HardifWorld.Inv.hardIfEvent (hi : w.Inv) (d : ℕ) (event : NetdevEvent) :
    (Batadv.hardIfEvent d event w).Inv := by
  have h0 := hi.map_same (sameLinks_apply d event w.tables)
  obtain ⟨hc, htab⟩ := hardIfEvent_spec hi.links hi.listed hi.counted d event
  rcases htab with ⟨ht, -⟩ | ⟨h, hmem, -, ht⟩ | ⟨hfree, -, ht⟩
  · exact ⟨by rw [ht]; exact h0.links, by rw [ht]; exact h0.listed, hc⟩
  · obtain ⟨hl, hL⟩ := links_onEvent h0.links h0.listed hmem event
    exact ⟨by rw [ht]; exact hl, by rw [ht]; exact hL, hc⟩
  · exact ⟨by rw [ht]; exact h0.links.add h0.listed d, by rw [ht]; exact h0.listed.add hfree, hc⟩

/-- A device is enslaved. -/
lemma HardifWorld.Inv.meshifSlaveAdd (hi : w.Inv) (m d : ℕ) (linked enabled : Bool) :
    (Batadv.meshifSlaveAdd m d linked enabled w).Inv := by
  obtain ⟨hc, htab⟩ := meshifSlaveAdd_spec hi.links hi.counted m d linked enabled
  rcases htab with ht | ⟨h, hmem, hfree, ht⟩
  · exact ⟨by rw [ht]; exact hi.links, by rw [ht]; exact hi.listed, hc⟩
  · obtain ⟨hlt, hst⟩ := (hi.listed.mem h).mp hmem
    refine ⟨by rw [ht]; exact hi.links.enable m hfree, ?_, hc⟩
    rw [ht]
    exact hi.listed.touches (touches_enable h m _) hlt hst

/-- A device is released. -/
lemma HardifWorld.Inv.meshifSlaveDel (hi : w.Inv) (m d : ℕ) :
    (Batadv.meshifSlaveDel m d w).Inv := by
  obtain ⟨hc, htab⟩ := meshifSlaveDel_spec hi.links hi.counted m d
  rcases htab with ht | ⟨h, hmem, ht⟩
  · exact ⟨by rw [ht]; exact hi.links, by rw [ht]; exact hi.listed, hc⟩
  · obtain ⟨hlt, hst⟩ := (hi.listed.mem h).mp hmem
    refine ⟨by rw [ht]; exact hi.links.disable h, ?_, hc⟩
    rw [ht]
    exact hi.listed.touches (touches_disable h _) hlt hst

/-- Releasing an interface of a mesh keeps the invariant and takes the interface from the list of
the mesh. -/
lemma HardifWorld.Inv.disable (hi : w.Inv) {m h : ℕ} (hmem : h ∈ (w.tables.mesh m).lower) :
    (hardifDisableInterface h w).Inv ∧
      ((hardifDisableInterface h w).tables.mesh m).lower = (w.tables.mesh m).lower.erase h := by
  have hm := (hi.links.lower m h).mp hmem
  obtain ⟨ht, hc⟩ := hardifDisableInterface_spec hi.links hi.counted hm
  have hin : (w.tables.hardif h).ifStatus.inUse = true := by
    rw [← hi.links.status, hm]
    rfl
  have hlist : h ∈ w.tables.hardifList := by
    by_contra hno
    rw [hi.unused hno] at hin
    cases hin
  obtain ⟨hlt, hst⟩ := (hi.listed.mem h).mp hlist
  refine ⟨⟨?_, ?_, hc⟩, ?_⟩
  · rw [ht]
    exact hi.links.disable h
  · rw [ht]
    exact hi.listed.touches (touches_disable h _) hlt hst
  · rw [ht]
    exact (disable_hardif hi.links hm).2

/-- The end of a mesh interface: the loop empties the list of its interfaces.

**Proof sketch.** Each turn releases the first interface, which takes it from the list. -/
lemma HardifWorld.Inv.destroyLoop (m : ℕ) :
    ∀ (turns : ℕ) {w : HardifWorld}, w.Inv → (w.tables.mesh m).lower.length ≤ turns →
      (meshifDestroyLoop m turns w).Inv ∧ ((meshifDestroyLoop m turns w).tables.mesh m).lower = []
  | 0, w, hi, hlen => ⟨hi, List.length_eq_zero_iff.mp (Nat.le_zero.mp hlen)⟩
  | turns + 1, w, hi, hlen => by
    unfold meshifDestroyLoop
    cases hlow : (w.tables.mesh m).lower with
    | nil => exact ⟨hi, hlow⟩
    | cons h rest =>
      have hmem : h ∈ (w.tables.mesh m).lower := by
        rw [hlow]
        exact List.mem_cons_self
      obtain ⟨hi', hlow'⟩ := hi.disable hmem
      refine HardifWorld.Inv.destroyLoop m turns hi' ?_
      rw [hlow', List.length_erase_of_mem hmem]
      omega

lemma HardifWorld.Inv.meshifDestroyNetlink (hi : w.Inv) (m : ℕ) :
    (Batadv.meshifDestroyNetlink m w).Inv ∧
      ((Batadv.meshifDestroyNetlink m w).tables.mesh m).lower = [] :=
  HardifWorld.Inv.destroyLoop m _ hi le_rfl

/-- Another part of the module takes or gives back a reference. -/
lemma HardifWorld.Inv.others (hi : w.Inv) {h : ℕ} (hpos : 0 < w.refcount h) :
    ({ w.krefGet h with others := Function.update w.others h (w.others h + 1) } :
      HardifWorld).Inv := by
  have hc := hi.counted.krefGet hpos
  have htab : (w.krefGet h).tables = w.tables := krefGet_tables
  refine ⟨by rw [htab]; exact hi.links, by rw [htab]; exact hi.listed, ?_⟩
  refine ⟨hc.fault, hc.primary, hc.lower, fun k hk => ?_, fun k => ?_⟩
  · have hkh : k ≠ h := by
      rintro rfl
      rw [htab] at hk
      have hmem : k ∉ w.tables.hardifList :=
        fun hmem => absurd ((hi.listed.mem k).mp hmem).1 (by omega)
      rw [hi.counted.count, (hi.refs_eq_zero k).mpr hmem, hi.counted.fresh k hk,
        Multiset.count_zero] at hpos
      exact lt_irrefl 0 hpos
    show Function.update w.others h _ k = 0
    rw [Function.update_of_ne hkh]
    exact hi.counted.fresh k (by rwa [htab] at hk)
  · have hck := hc.count k
    have hothers : (w.krefGet h).others = w.others := by
      unfold HardifWorld.krefGet
      split <;> rfl
    rw [hothers, Multiset.count_cons] at hck
    show (w.krefGet h).refcount k = (w.krefGet h).tables.refs k +
      Function.update w.others h (w.others h + 1) k + (0 : Multiset ℕ).count k
    rw [Function.update_apply]
    split_ifs at hck ⊢ with hk
    · subst hk
      omega
    · omega

lemma HardifWorld.Inv.dropOther (hi : w.Inv) {h : ℕ} (hpos : w.others h ≠ 0) :
    ({ w.krefPut h with others := Function.update w.others h (w.others h - 1) } :
      HardifWorld).Inv := by
  have hch := hi.counted.count h
  have htab : (w.krefPut h).tables = w.tables := krefPut_tables
  have hput : w.krefPut h =
      { w with refcount := Function.update w.refcount h (w.refcount h - 1) } := by
    unfold HardifWorld.krefPut
    rw [if_neg (by omega)]
  refine ⟨by rw [htab]; exact hi.links, by rw [htab]; exact hi.listed, ?_⟩
  rw [hput]
  refine ⟨hi.counted.fault, hi.counted.primary, hi.counted.lower, fun k hk => ?_, fun k => ?_⟩
  · have h0 := hi.counted.fresh k hk
    show Function.update w.others h _ k = 0
    rw [Function.update_apply]
    split_ifs with hkh
    · subst hkh
      omega
    · exact h0
  · have hck := hi.counted.count k
    show Function.update w.refcount h _ k = w.tables.refs k +
      Function.update w.others h (w.others h - 1) k + (0 : Multiset ℕ).count k
    rw [Function.update_apply, Function.update_apply]
    split_ifs with hkh
    · subst hkh
      omega
    · exact hck

/-- A worker schedules the next OGM. -/
lemma HardifWorld.Inv.schedule (hi : w.Inv) {h : ℕ}
    (hiv : ∀ m, (w.tables.hardif h).meshIface = some m → (w.tables.mesh m).algo = .iv)
    (ogmBuff : Bool) : (ivOgmSchedule h ogmBuff w).Inv := by
  obtain ⟨ht, hc⟩ := ivOgmSchedule_spec hi.links hi.counted h ogmBuff
  cases ogmBuff with
  | false => exact ⟨by rw [ht]; exact hi.links, by rw [ht]; exact hi.listed, hc⟩
  | true =>
    refine ⟨by rw [ht]; exact hi.links.schedule h hiv, ?_, hc⟩
    rw [ht]
    show Listed (w.tables.schedule h)
    unfold HardifTables.schedule
    split_ifs with hst
    · have hlt : h < w.tables.next := by
        by_contra hge
        rw [hi.listed.fresh h (by omega)] at hst
        cases hst
      exact hi.listed.touches (touches_setStatus (by decide)) hlt (by rw [hst]; decide)
    · exact hi.listed

/-- **An event keeps the invariant.** -/
theorem HardifWorld.Inv.next (hi : w.Inv) (event : HardifEvent) :
    (hardifWorldNext w event).Inv := by
  cases event with
  | netdev d event => exact hi.hardIfEvent d event
  | slaveAdd m d linked enabled => exact hi.meshifSlaveAdd m d linked enabled
  | slaveDel m d => exact hi.meshifSlaveDel m d
  | destroy m => exact (hi.meshifDestroyNetlink m).1
  | setMtu m mtu => exact hi.map_same (sameLinks_devSetMtu m mtu w.tables)
  | setFragmentation m enabled => exact hi.map_same (sameLinks_setFragmentation m enabled w.tables)
  | ogmSchedule h ogmBuff =>
    simp only [hardifWorldNext]
    split_ifs with hguard
    · exact hi
    · rw [not_or] at hguard
      refine hi.schedule (fun m hm => ?_) ogmBuff
      have h2 := hguard.2
      rw [hm] at h2
      cases halgo : (w.tables.mesh m).algo with
      | iv => rfl
      | v => simp [halgo] at h2
  | take h =>
    simp only [hardifWorldNext]
    split_ifs with hpos
    · exact hi
    · exact hi.others (by omega)
  | drop h =>
    simp only [hardifWorldNext]
    split_ifs with hpos
    · exact hi
    · exact hi.dropOther hpos

/-- The module without objects. -/
lemma hardifWorldInit_inv (algo : ℕ → BatAlgo) (dev : ℕ → NetDev) :
    (hardifWorldInit algo dev).Inv where
  links := by
    refine ⟨?_, ?_, ?_, ?_, ?_, ?_⟩ <;> simp [hardifWorldInit, HardIfState.inUse]
  listed := by
    refine ⟨?_, ?_, ?_, ?_⟩ <;> simp [hardifWorldInit]
  counted := by
    refine ⟨rfl, ?_, ?_, fun _ _ => rfl, fun h => ?_⟩
    · simp [hardifWorldInit]
    · simp [hardifWorldInit]
    · simp [hardifWorldInit, refs, primaryRefs]

/-- **Hard interfaces over whole runs.**  In every state of every run, whatever happens to the
devices and whatever is asked of the mesh interfaces, the interfaces are safe; and the loop that
releases all interfaces of a mesh interface comes to its end with none left.

**Proof sketch.** Every event keeps the links well formed and the counters right.  A handler takes
references only to objects that have one, so the counters never make a difference to what it does
to the tables, and it gives back what it takes. -/
theorem hardif_world_safe (algo : ℕ → BatAlgo) (dev : ℕ → NetDev) (events : List HardifEvent) :
    ∀ w ∈ Run.states hardifWorldNext (hardifWorldInit algo dev) events,
      w.Safe ∧ ∀ m, ((meshifDestroyNetlink m w).tables.mesh m).lower = [] := by
  intro w hw
  have hi : w.Inv := Run.AllSteps.forall_mem_states HardifWorld.Inv
    (fun w event hi _ => hi.next event) (hardifWorldInit_inv algo dev)
    (Run.AllSteps.of_forall (P := fun _ _ => True) (fun _ _ => trivial) events) w hw
  exact ⟨hi.safe, fun m => (hi.meshifDestroyNetlink m).2⟩

/-- Two devices appear and become interfaces of a mesh; the first one goes away again. -/
theorem hardif_world_safe_two_devices :
    let w := Run.final hardifWorldNext (hardifWorldInit (fun _ => .iv) fun _ => ⟨true, 1500⟩)
      [.netdev 0 (.register true true), .netdev 1 (.register true true), .slaveAdd 0 0 true true,
        .slaveAdd 0 1 true true, .netdev 0 .unregister]
    (w.tables.mesh 0).lower = [1] ∧ w.Safe ∧
      ∀ m, ((meshifDestroyNetlink m w).tables.mesh m).lower = [] :=
  ⟨by decide, hardif_world_safe (fun _ => .iv) (fun _ => ⟨true, 1500⟩)
    [.netdev 0 (.register true true), .netdev 1 (.register true true), .slaveAdd 0 0 true true,
      .slaveAdd 0 1 true true, .netdev 0 .unregister] _ (Run.final_mem_states _ _)⟩

end Batadv
