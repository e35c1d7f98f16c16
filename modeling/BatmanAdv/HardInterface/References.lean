import BatmanAdv.HardInterface.Links
import Mathlib.Data.List.Find
import Mathlib.Data.Multiset.Count

set_option relaxedAutoImplicit false
set_option autoImplicit false

/-!
# The reference counters of the hard interfaces

While a handler runs it holds references of its own.  The counter of every object is at all times
the number of references that the tables, the rest of the module and the running handler hold.  So
a lookup never passes over an object that is there, and each handler does to the tables what its
counterpart without counters does.

## Main definitions

* `Batadv.HardifTables.refs` — the references that the tables hold to an object.
* `Batadv.HardifWorld.Counted` — the counters are right, for the references of a running handler.

## Main results

* `Batadv.hardifActivateInterface_spec`, `Batadv.hardifDeactivateInterface_spec`,
  `Batadv.hardifEnableInterface_spec`, `Batadv.hardifDisableInterface_spec`,
  `Batadv.hardifRemoveInterface_spec`, `Batadv.hardifAddInterface_spec` — what the handlers do, and
  that they give back the references they take.
* `Batadv.hardIfEvent_spec`, `Batadv.meshifSlaveAdd_spec`, `Batadv.meshifSlaveDel_spec` — the same
  for the events of the devices and the requests to a mesh interface.
-/

namespace Batadv

/-! ### Counting references -/

namespace HardifTables

/-- The reference of a mesh interface to its primary interface. -/
def primaryRefs (t : HardifTables) (h : ℕ) : ℕ :=
  match (t.hardif h).meshIface with
  | none => 0
  | some m => ((t.mesh m).primaryIf == some h).toNat

/-- The references that the tables hold to an object: the list, the link to the mesh interface, the
packet handler and the pointer to the primary interface. -/
def refs (t : HardifTables) (h : ℕ) : ℕ :=
  t.hardifList.count h + (t.hardif h).meshIface.isSome.toNat + (t.hardif h).ptype.toNat +
    t.primaryRefs h

lemma primaryRefs_none {t : HardifTables} {h : ℕ} (hm : (t.hardif h).meshIface = none) :
    t.primaryRefs h = 0 := by
  simp only [primaryRefs, hm]

lemma primaryRefs_some {t : HardifTables} {h m : ℕ} (hm : (t.hardif h).meshIface = some m) :
    t.primaryRefs h = ((t.mesh m).primaryIf == some h).toNat := by
  simp only [primaryRefs, hm]

/-- Two tables that agree about what holds a reference. -/
lemma refs_congr {t t' : HardifTables} {h : ℕ} (hlist : t'.hardifList = t.hardifList)
    (hmesh : (t'.hardif h).meshIface = (t.hardif h).meshIface)
    (hptype : (t'.hardif h).ptype = (t.hardif h).ptype)
    (hprimary : ∀ m, (t'.mesh m).primaryIf = (t.mesh m).primaryIf) : t'.refs h = t.refs h := by
  simp only [refs, primaryRefs, hlist, hmesh, hptype, hprimary]

end HardifTables

open HardifTables

namespace HardifWorld

/-- The references of a handler together with the one to the object of a pointer. -/
def hold : Option ℕ → Multiset ℕ → Multiset ℕ
  | none, e => e
  | some h, e => h ::ₘ e

/-- **The counters are right** when the running handler holds the references `e`, and so far nothing
was used that is not there. -/
structure Counted (e : Multiset ℕ) (w : HardifWorld) : Prop where
  fault : w.fault = false
  primary : ∀ m h, (w.tables.mesh m).primaryIf = some h →
    (w.tables.hardif h).meshIface = some m
  lower : ∀ m h, h ∈ (w.tables.mesh m).lower → (w.tables.hardif h).meshIface = some m
  fresh : ∀ h, w.tables.next ≤ h → w.others h = 0
  count : ∀ h, w.refcount h = w.tables.refs h + w.others h + e.count h

variable {e e' : Multiset ℕ} {w : HardifWorld} {h m : ℕ}

/-! ### Steps that touch the counters -/

@[simp] lemma map_tables (f : HardifTables → HardifTables) : (w.map f).tables = f w.tables := rfl

@[simp] lemma krefGet_tables : (w.krefGet h).tables = w.tables := by
  unfold krefGet
  split <;> rfl

@[simp] lemma krefPut_tables : (w.krefPut h).tables = w.tables := by
  unfold krefPut
  split <;> rfl

@[simp] lemma put_tables (o : Option ℕ) : (w.put o).tables = w.tables := by
  cases o with
  | none => rfl
  | some h => exact krefPut_tables

/-- Taking a reference to an object that has one. -/
lemma Counted.krefGet (hc : Counted e w) (hpos : 0 < w.refcount h) :
    Counted (h ::ₘ e) (w.krefGet h) := by
  unfold HardifWorld.krefGet
  rw [if_neg (by omega)]
  refine ⟨hc.fault, hc.primary, hc.lower, hc.fresh, fun k => ?_⟩
  simp only [Function.update_apply, Multiset.count_cons]
  have hk := hc.count k
  split_ifs with hkh
  · subst hkh
    omega
  · omega

/-- Giving a reference back. -/
lemma Counted.krefPut (hc : Counted (h ::ₘ e) w) : Counted e (w.krefPut h) := by
  have hh := hc.count h
  rw [Multiset.count_cons_self] at hh
  unfold HardifWorld.krefPut
  rw [if_neg (by omega)]
  refine ⟨hc.fault, hc.primary, hc.lower, hc.fresh, fun k => ?_⟩
  have hk := hc.count k
  rw [Multiset.count_cons] at hk
  simp only [Function.update_apply]
  split_ifs with hkh
  · subst hkh
    omega
  · simp only [hkh, if_false] at hk
    omega

lemma Counted.put {o : Option ℕ} (hc : Counted (hold o e) w) : Counted e (w.put o) := by
  cases o with
  | none => exact hc
  | some h => exact hc.krefPut

/-- Following a pointer to an object that has a reference. -/
lemma Counted.getUnlessZero (hc : Counted e w) {o : Option ℕ}
    (halive : ∀ h, o = some h → 0 < w.refcount h) :
    ∃ w', w.getUnlessZero o = (o, w') ∧ w'.tables = w.tables ∧ Counted (hold o e) w' := by
  cases o with
  | none => exact ⟨w, rfl, rfl, hc⟩
  | some h =>
    have hpos := halive h rfl
    refine ⟨w.krefGet h, ?_, krefGet_tables, hc.krefGet hpos⟩
    simp only [HardifWorld.getUnlessZero]
    rw [if_neg (by omega)]

/-- An interface of a mesh has a reference. -/
lemma Counted.pos_of_mesh (hc : Counted e w) (hm : (w.tables.hardif h).meshIface = some m) :
    0 < w.refcount h := by
  rw [hc.count, refs, hm]
  simp only [Option.isSome_some, Bool.toNat_true]
  omega

/-- An object of the list has a reference. -/
lemma Counted.pos_of_list (hc : Counted e w) (hmem : h ∈ w.tables.hardifList) :
    0 < w.refcount h := by
  have h1 := List.count_pos_iff.mpr hmem
  rw [hc.count, refs]
  omega

/-! ### Steps that touch the tables -/

/-- A step on the tables that leaves the sum of all references to each object as it is. -/
lemma Counted.map (hc : Counted e w) {f : HardifTables → HardifTables}
    (hprimary : ∀ m h, ((f w.tables).mesh m).primaryIf = some h →
      ((f w.tables).hardif h).meshIface = some m)
    (hlower : ∀ m h, h ∈ ((f w.tables).mesh m).lower →
      ((f w.tables).hardif h).meshIface = some m)
    (hnext : w.tables.next ≤ (f w.tables).next)
    (hrefs : ∀ h, (f w.tables).refs h + e'.count h = w.tables.refs h + e.count h) :
    Counted e' (w.map f) where
  fault := hc.fault
  primary := hprimary
  lower := hlower
  fresh h hh := hc.fresh h (hnext.trans hh)
  count h := by
    have h1 := hc.count h
    have h2 := hrefs h
    show w.refcount h = (f w.tables).refs h + w.others h + e'.count h
    omega

/-- A step on the tables that changes no link. -/
lemma Counted.map_same (hc : Counted e w) {f : HardifTables → HardifTables}
    (hs : SameLinks w.tables (f w.tables)) : Counted e (w.map f) := by
  refine hc.map ?_ ?_ hs.next.ge fun h => ?_
  · intro m h
    rw [hs.primary, hs.hardif]
    exact hc.primary m h
  · intro m h
    rw [hs.lower, hs.hardif]
    exact hc.lower m h
  · have hr : (f w.tables).refs h = w.tables.refs h :=
      refs_congr hs.list (by rw [hs.hardif]) (by rw [hs.hardif]) hs.primary
    rw [hr]

lemma Counted.setStatus (hc : Counted e w) (status : HardIfState) :
    Counted e (w.map (·.setStatus h status)) := by
  refine hc.map ?_ ?_ le_rfl fun k => ?_
  · simpa using hc.primary
  · simpa using hc.lower
  · have hr : (w.tables.setStatus h status).refs k = w.tables.refs k :=
      refs_congr rfl (by simp) (by simp) fun _ => rfl
    rw [hr]

/-- The counters when a packet handler is added or removed. -/
lemma refs_setPtype (t : HardifTables) (b : Bool) (k : ℕ) :
    (t.setPtype h b).refs k + (if k = h then (t.hardif h).ptype.toNat else 0) =
      t.refs k + (if k = h then b.toNat else 0) := by
  have hp : (t.setPtype h b).primaryRefs k = t.primaryRefs k := by
    unfold primaryRefs
    rw [setPtype_meshIface, setPtype_mesh]
  simp only [refs, hp, setPtype_list, setPtype_meshIface, setPtype_ptype]
  split_ifs with hk
  · subst hk
    omega
  · omega

/-- The reference of a packet handler that is removed. -/
lemma Counted.setPtype_false (hc : Counted e w) (hp : (w.tables.hardif h).ptype = true) :
    Counted (h ::ₘ e) (w.map (·.setPtype h false)) := by
  refine hc.map ?_ ?_ le_rfl fun k => ?_
  · simpa using hc.primary
  · simpa using hc.lower
  · have hr := refs_setPtype (h := h) w.tables false k
    rw [hp] at hr
    rw [Multiset.count_cons]
    simp only [Bool.toNat_true, Bool.toNat_false] at hr
    split_ifs at hr ⊢ <;> omega

/-- The reference of a packet handler that is added. -/
lemma Counted.setPtype_true (hc : Counted (h ::ₘ e) w) (hp : (w.tables.hardif h).ptype = false) :
    Counted e (w.map (·.setPtype h true)) := by
  refine hc.map ?_ ?_ le_rfl fun k => ?_
  · simpa using hc.primary
  · simpa using hc.lower
  · have hr := refs_setPtype (h := h) w.tables true k
    rw [hp] at hr
    rw [Multiset.count_cons]
    simp only [Bool.toNat_true, Bool.toNat_false] at hr
    split_ifs at hr ⊢ <;> omega

/-- The reference of the link to a mesh interface that is removed. -/
lemma Counted.setMeshIface_none (hc : Counted e w)
    (hm : (w.tables.hardif h).meshIface = some m)
    (hprimary : ∀ n, (w.tables.mesh n).primaryIf ≠ some h)
    (hlower : ∀ n, h ∉ (w.tables.mesh n).lower) :
    Counted (h ::ₘ e) (w.map (·.setMeshIface h none)) := by
  refine hc.map ?_ ?_ le_rfl fun k => ?_
  · intro n k hk
    rw [setMeshIface_mesh] at hk
    rw [setMeshIface_meshIface, if_neg (fun hkh => hprimary n (by rw [← hkh]; exact hk))]
    exact hc.primary n k hk
  · intro n k hk
    rw [setMeshIface_mesh] at hk
    rw [setMeshIface_meshIface, if_neg (fun hkh => hlower n (by rw [← hkh]; exact hk))]
    exact hc.lower n k hk
  · rw [Multiset.count_cons]
    by_cases hk : k = h
    · subst hk
      have hn : ((w.tables.setMeshIface k none).hardif k).meshIface = none := by simp
      have hp : ((w.tables.mesh m).primaryIf == some k) = false := by simpa using hprimary m
      rw [refs, refs, primaryRefs_none hn, primaryRefs_some hm, hn, hm, hp]
      simp only [setMeshIface_list, setMeshIface_ptype, Option.isSome_none, Option.isSome_some,
        Bool.toNat_true, Bool.toNat_false, if_true]
      omega
    · have hr : (w.tables.setMeshIface h none).refs k = w.tables.refs k :=
        refs_congr rfl (by simp [hk]) (by simp) fun _ => rfl
      rw [if_neg hk, hr]
      omega

/-- The reference of the link to a mesh interface that is added. -/
lemma Counted.setMeshIface_some (hc : Counted (h ::ₘ e) w)
    (hm : (w.tables.hardif h).meshIface = none) :
    Counted e (w.map (·.setMeshIface h (some m))) := by
  have hne : ∀ {n k}, (w.tables.hardif k).meshIface = some n → k ≠ h := by
    rintro n k hk rfl
    rw [hm] at hk
    cases hk
  refine hc.map ?_ ?_ le_rfl fun k => ?_
  · intro n k hk
    have hkn := hc.primary n k hk
    rw [setMeshIface_meshIface, if_neg (hne hkn)]
    exact hkn
  · intro n k hk
    have hkn := hc.lower n k hk
    rw [setMeshIface_meshIface, if_neg (hne hkn)]
    exact hkn
  · rw [Multiset.count_cons]
    by_cases hk : k = h
    · subst hk
      have hs : ((w.tables.setMeshIface k (some m)).hardif k).meshIface = some m := by simp
      have hno : (w.tables.mesh m).primaryIf ≠ some k := by
        intro hp
        exact hne (hc.primary m k hp) rfl
      have hp : ((w.tables.mesh m).primaryIf == some k) = false := by simpa using hno
      rw [refs, refs, primaryRefs_none hm, primaryRefs_some hs, hs, hm, setMeshIface_mesh, hp]
      simp only [setMeshIface_list, setMeshIface_ptype, Option.isSome_none, Option.isSome_some,
        Bool.toNat_true, Bool.toNat_false, if_true]
      omega
    · have hr : (w.tables.setMeshIface h (some m)).refs k = w.tables.refs k :=
        refs_congr rfl (by simp [hk]) (by simp) fun _ => rfl
      rw [if_neg hk, hr]
      omega

lemma Counted.link (hc : Counted e w) (hm : (w.tables.hardif h).meshIface = some m) :
    Counted e (w.map (·.link h m)) := by
  refine hc.map ?_ ?_ le_rfl fun k => ?_
  · simpa using hc.primary
  · intro n k hk
    rw [link_lower] at hk
    split_ifs at hk with hn
    · rcases List.mem_append.mp hk with hk | hk
      · rw [hn]
        exact hc.lower m k hk
      · rw [List.mem_singleton.mp hk, hn]
        exact hm
    · exact hc.lower n k hk
  · have hr : (w.tables.link h m).refs k = w.tables.refs k := refs_congr rfl rfl rfl (by simp)
    rw [hr]

lemma Counted.unlink (hc : Counted e w) : Counted e (w.map (·.unlink h m)) := by
  refine hc.map ?_ ?_ le_rfl fun k => ?_
  · simpa using hc.primary
  · intro n k hk
    rw [unlink_lower] at hk
    split_ifs at hk with hn
    · rw [hn]
      exact hc.lower m k (List.mem_of_mem_erase hk)
    · exact hc.lower n k hk
  · have hr : (w.tables.unlink h m).refs k = w.tables.refs k := refs_congr rfl rfl rfl (by simp)
    rw [hr]

/-- The references of the new and of the old primary interface change places. -/
lemma Counted.setPrimary {o : Option ℕ} (hc : Counted (hold o e) w)
    (ho : ∀ k, o = some k → (w.tables.hardif k).meshIface = some m) :
    Counted (hold (w.tables.mesh m).primaryIf e) (w.map (·.setPrimary m o)) := by
  have hhold : ∀ (o : Option ℕ) k, (hold o e).count k = e.count k + (o == some k).toNat := by
    intro o k
    cases o with
    | none => simp [hold]
    | some j =>
      simp only [hold, Multiset.count_cons]
      by_cases hj : k = j
      · simp [hj]
      · have hj' : (some j == some k) = false := by simpa using Ne.symm hj
        simp [hj, hj']
  refine hc.map ?_ ?_ le_rfl fun k => ?_
  · intro n k hk
    rw [setPrimary_primaryIf] at hk
    split_ifs at hk with hn
    · rw [hn]
      exact ho k hk
    · exact hc.primary n k hk
  · intro n k hk
    rw [setPrimary_lower] at hk
    exact hc.lower n k hk
  · rw [hhold, hhold]
    cases hkm : (w.tables.hardif k).meshIface with
    | none =>
      have hold1 : (w.tables.mesh m).primaryIf ≠ some k := by
        intro hp
        rw [hc.primary m k hp] at hkm
        cases hkm
      have hold2 : o ≠ some k := by
        intro hp
        rw [ho k hp] at hkm
        cases hkm
      have h1 : ((w.tables.mesh m).primaryIf == some k) = false := by simpa using hold1
      have h2 : (o == some k) = false := by simpa using hold2
      rw [h1, h2, refs, refs, primaryRefs_none hkm,
        primaryRefs_none (t := w.tables.setPrimary m o) hkm]
      rfl
    | some n =>
      rw [refs, refs, primaryRefs_some hkm, primaryRefs_some (t := w.tables.setPrimary m o) hkm,
        setPrimary_primaryIf, setPrimary_hardif, setPrimary_list]
      by_cases hn : n = m
      · subst hn
        rw [if_pos rfl]
        omega
      · have hold1 : (w.tables.mesh m).primaryIf ≠ some k := by
          intro hp
          rw [hc.primary m k hp] at hkm
          exact hn (Option.some.inj hkm).symm
        have hold2 : o ≠ some k := by
          intro hp
          rw [ho k hp] at hkm
          exact hn (Option.some.inj hkm).symm
        have h1 : ((w.tables.mesh m).primaryIf == some k) = false := by simpa using hold1
        have h2 : (o == some k) = false := by simpa using hold2
        rw [h1, h2, if_neg hn]

/-- The reference of the list to an object that is taken out. -/
lemma Counted.eraseList (hc : Counted e w) (hmem : h ∈ w.tables.hardifList) :
    Counted (h ::ₘ e) (w.map fun t => { t with hardifList := t.hardifList.erase h }) := by
  refine hc.map hc.primary hc.lower le_rfl fun k => ?_
  rw [Multiset.count_cons]
  have hpos := List.count_pos_iff.mpr hmem
  simp only [refs, primaryRefs]
  by_cases hk : k = h
  · subst hk
    rw [List.count_erase_self, if_pos rfl]
    omega
  · rw [List.count_erase_of_ne hk, if_neg hk]
    omega

end HardifWorld

open HardifWorld

variable {e : Multiset ℕ} {w : HardifWorld} {h m : ℕ}

/-! ### Lookups -/

/-- Reading the primary interface of a mesh. -/
lemma primaryIfGetSelected_spec (hc : Counted e w) (m : ℕ) :
    ∃ w', primaryIfGetSelected m w = ((w.tables.mesh m).primaryIf, w') ∧ w'.tables = w.tables ∧
      Counted (hold (w.tables.mesh m).primaryIf e) w' :=
  hc.getUnlessZero fun h hp => hc.pos_of_mesh (hc.primary m h hp)

/-- Searching the interfaces of a mesh for an active one. -/
lemma hardifGetActive_spec (hc : Counted e w) (m : ℕ) :
    ∃ w', hardifGetActive m w = (w.tables.firstActive m, w') ∧ w'.tables = w.tables ∧
      Counted (hold (w.tables.firstActive m) e) w' := by
  have hfind : ((w.tables.mesh m).lower.find? fun h =>
      (w.tables.hardif h).ifStatus == .active && w.refcount h != 0) = w.tables.firstActive m := by
    refine List.find?_congr fun h hmem => ?_
    have hpos := hc.pos_of_mesh (hc.lower m h hmem)
    simp [hpos.ne']
  unfold hardifGetActive
  rw [hfind]
  refine hc.getUnlessZero fun h hp => ?_
  exact hc.pos_of_mesh (hc.lower m h (firstActive_eq_some hp).1)

/-- Searching the object of a device. -/
lemma hardifGetByNetdev_spec (hc : Counted e w) (d : ℕ) :
    ∃ o w', hardifGetByNetdev d w = (o, w') ∧ w'.tables = w.tables ∧ Counted (hold o e) w' ∧
      (∀ h, o = some h → h ∈ w.tables.hardifList ∧ (w.tables.hardif h).netDev = d) ∧
      (o = none → w' = w ∧ ∀ h ∈ w.tables.hardifList, (w.tables.hardif h).netDev ≠ d) := by
  have hfind : (w.tables.hardifList.find? fun h =>
      (w.tables.hardif h).netDev == d && w.refcount h != 0) =
      w.tables.hardifList.find? fun h => (w.tables.hardif h).netDev == d := by
    refine List.find?_congr fun h hmem => ?_
    have hpos := hc.pos_of_list hmem
    simp [hpos.ne']
  unfold hardifGetByNetdev
  rw [hfind]
  set o := w.tables.hardifList.find? fun h => (w.tables.hardif h).netDev == d with ho
  have hsome : ∀ h, o = some h → h ∈ w.tables.hardifList ∧ (w.tables.hardif h).netDev = d := by
    intro h hh
    rw [ho] at hh
    exact ⟨List.mem_of_find?_eq_some hh, by simpa using List.find?_some hh⟩
  obtain ⟨w', hget, ht, hc'⟩ := hc.getUnlessZero fun h hp => hc.pos_of_list (hsome h hp).1
  refine ⟨o, w', hget, ht, hc', hsome, fun hnone => ⟨?_, fun h hmem => ?_⟩⟩
  · rw [hnone] at hget
    exact (Prod.mk.inj hget).2.symm
  · rw [ho] at hnone
    simpa using List.find?_eq_none.mp hnone h hmem

/-! ### The primary interface -/

/-- Reading the primary interface for a moment. -/
lemma counted_visitPrimary (hc : Counted e w) (m : ℕ) :
    ∃ w', primaryIfGetSelected m w = ((w.tables.mesh m).primaryIf, w') ∧
      (w'.put (w.tables.mesh m).primaryIf).tables = w.tables ∧
      Counted e (w'.put (w.tables.mesh m).primaryIf) := by
  obtain ⟨w', hget, ht, hc'⟩ := primaryIfGetSelected_spec hc m
  exact ⟨w', hget, by rw [put_tables, ht], hc'.put⟩

lemma primaryIfUpdateAddr_spec (hc : Counted e w) (m : ℕ) :
    (primaryIfUpdateAddr m w).tables = w.tables ∧ Counted e (primaryIfUpdateAddr m w) := by
  obtain ⟨w', hget, ht, hc'⟩ := counted_visitPrimary hc m
  unfold primaryIfUpdateAddr
  rw [hget]
  exact ⟨ht, hc'⟩

/-- The primary interface of a mesh changes to one of its interfaces, or to none. -/
lemma primaryIfSelect_spec (hc : Counted e w) {m : ℕ} {o : Option ℕ}
    (ho : ∀ k, o = some k → (w.tables.hardif k).meshIface = some m) :
    (primaryIfSelect m o w).tables = w.tables.setPrimary m o ∧
      Counted e (primaryIfSelect m o w) := by
  cases o with
  | none =>
    have h1 : Counted (hold (w.tables.mesh m).primaryIf e) (w.map (·.setPrimary m none)) :=
      hc.setPrimary (o := none) ho
    exact ⟨by simp [primaryIfSelect], h1.put⟩
  | some k =>
    have hpos := hc.pos_of_mesh (ho k rfl)
    have h1 : Counted (hold (some k) e) (w.krefGet k) := hc.krefGet hpos
    have h2 := h1.setPrimary (m := m) (by simpa using ho)
    rw [krefGet_tables] at h2
    obtain ⟨ht3, h3⟩ := primaryIfUpdateAddr_spec h2 m
    refine ⟨?_, ?_⟩
    · simp only [primaryIfSelect, krefGet_tables]
      rw [put_tables, ht3]
      simp
    · simp only [primaryIfSelect, krefGet_tables]
      exact h3.put

/-! ### Activation -/

lemma hardifDeactivateInterface_spec (hl : Links w.tables) (hc : Counted e w) (h : ℕ) :
    (hardifDeactivateInterface h w).tables = w.tables.deactivate h ∧
      Counted e (hardifDeactivateInterface h w) := by
  unfold hardifDeactivateInterface HardifTables.deactivate
  split_ifs with hst
  · exact ⟨rfl, hc⟩
  · have hin : (w.tables.hardif h).ifStatus.inUse = true := by
      cases hs : (w.tables.hardif h).ifStatus <;> simp_all [HardIfState.inUse]
    obtain ⟨m, hm⟩ := hl.exists_mesh hin
    simp only [hm]
    exact ⟨rfl, (hc.setStatus .inactive).map_same (sameLinks_updateMinMtu m _)⟩

/-- The operation of the algorithm, which may make the interface active. -/
lemma algoIfaceActivate_spec (hc : Counted e w) (m h : ℕ) :
    (algoIfaceActivate m h w).tables = (match (w.tables.mesh m).algo with
      | .iv => w.tables
      | .v => if (w.tables.hardif h).ifStatus = .toBeActivated then w.tables.setStatus h .active
          else w.tables) ∧
      Counted e (algoIfaceActivate m h w) := by
  unfold algoIfaceActivate
  cases (w.tables.mesh m).algo with
  | iv => exact ⟨rfl, hc⟩
  | v =>
    obtain ⟨w', hget, ht, hc'⟩ := counted_visitPrimary hc m
    simp only [vIfaceActivate, hget]
    rw [ht]
    split_ifs with hst
    · refine ⟨?_, hc'.setStatus .active⟩
      rw [map_tables, ht]
    · exact ⟨ht, hc'⟩

lemma hardifActivateInterface_spec (hl : Links w.tables) (hc : Counted e w) (h : ℕ) :
    (hardifActivateInterface h w).tables = w.tables.activate h ∧
      Counted e (hardifActivateInterface h w) := by
  unfold hardifActivateInterface HardifTables.activate
  split_ifs with hst
  · exact ⟨rfl, hc⟩
  have hin : (w.tables.hardif h).ifStatus.inUse = true := by
    rw [not_not.mp hst]
    rfl
  obtain ⟨m, hm⟩ := hl.exists_mesh hin
  simp only [hm]
  have h1 : Counted e (w.map (·.setStatus h .toBeActivated)) := hc.setStatus .toBeActivated
  obtain ⟨w2, hget, ht2, h2⟩ := primaryIfGetSelected_spec h1 m
  rw [hget]
  -- the mesh gets a primary interface if it had none
  set p := (w.tables.mesh m).primaryIf with hp
  have h3 : (if p.isNone then primaryIfSelect m (some h) w2 else w2).tables =
      (if p.isNone then (w.tables.setStatus h .toBeActivated).setPrimary m (some h)
        else w.tables.setStatus h .toBeActivated) ∧
      Counted (hold p e) (if p.isNone then primaryIfSelect m (some h) w2 else w2) := by
    cases hpn : p.isNone with
    | false => exact ⟨ht2, h2⟩
    | true =>
      have hsel := primaryIfSelect_spec h2 (m := m) (o := some h) (by
        intro k hk
        rw [← Option.some.inj hk, ht2]
        simpa using hm)
      rw [ht2] at hsel
      exact hsel
  obtain ⟨ht3, h3⟩ := h3
  have h4 := h3.map_same (sameLinks_updateMinMtu m _)
  obtain ⟨ht5, h5⟩ := algoIfaceActivate_spec h4 m h
  refine ⟨?_, h5.put⟩
  rw [put_tables]
  refine ht5.trans ?_
  rw [map_tables, ht3]
  rfl

lemma ivOgmSchedule_spec (hl : Links w.tables) (hc : Counted e w) (h : ℕ) (ogmBuff : Bool) :
    (ivOgmSchedule h ogmBuff w).tables =
      (if ogmBuff then w.tables.schedule h else w.tables) ∧
      Counted e (ivOgmSchedule h ogmBuff w) := by
  unfold ivOgmSchedule
  by_cases hst : (w.tables.hardif h).ifStatus = .notInUse ∨
      (w.tables.hardif h).ifStatus = .toBeRemoved
  · rw [if_pos hst]
    have hself : w.tables.schedule h = w.tables := by
      unfold HardifTables.schedule
      rw [if_neg]
      rcases hst with hst | hst <;> simp [hst]
    rw [hself]
    exact ⟨by simp, hc⟩
  · rw [if_neg hst]
    obtain ⟨m, hm⟩ := hl.exists_mesh (h := h) (by
      cases hs : (w.tables.hardif h).ifStatus <;> simp_all [HardIfState.inUse])
    simp only [hm]
    cases ogmBuff with
    | false => exact ⟨rfl, hc⟩
    | true =>
      have h1 : (if (w.tables.hardif h).ifStatus = .toBeActivated then
            w.map (·.setStatus h .active) else w).tables = w.tables.schedule h ∧
          Counted e (if (w.tables.hardif h).ifStatus = .toBeActivated then
            w.map (·.setStatus h .active) else w) := by
        unfold HardifTables.schedule
        split_ifs
        · exact ⟨rfl, hc.setStatus .active⟩
        · exact ⟨rfl, hc⟩
      obtain ⟨ht1, h1⟩ := h1
      obtain ⟨w', hget, ht, hc'⟩ := counted_visitPrimary h1 m
      simp only [not_true, if_false, if_true]
      rw [hget]
      exact ⟨ht.trans ht1, hc'⟩

/-! ### Enslaving and releasing -/

/-- An interface that was enslaved and released at once. -/
lemma link_unlink {t : HardifTables} (hl : Links t) (hm : (t.hardif h).meshIface = none) :
    (((t.setMeshIface h (some m)).link h m).unlink h m).setMeshIface h none = t := by
  have hnot : h ∉ (t.mesh m).lower := by
    rw [hl.lower, hm]
    simp
  have herase : ((t.mesh m).lower ++ [h]).erase h = (t.mesh m).lower := by
    rw [List.erase_append_right _ hnot]
    simp
  have hobj : ({ t.hardif h with meshIface := none } : Hardif) = t.hardif h := by
    rw [← hm]
  simp [HardifTables.link, HardifTables.unlink, HardifTables.setMesh, HardifTables.setMeshIface,
    HardifTables.setHardif, herase, hobj]

lemma setMeshIface_undo {t : HardifTables} (hm : (t.hardif h).meshIface = none) :
    (t.setMeshIface h (some m)).setMeshIface h none = t := by
  have hobj : ({ t.hardif h with meshIface := none } : Hardif) = t.hardif h := by
    rw [← hm]
  simp [HardifTables.setMeshIface, HardifTables.setHardif, hobj]

/-- Enslaving an interface: the tables are as before, or the interface was free and is enslaved. -/
lemma hardifEnableInterface_spec (hl : Links w.tables) (hc : Counted e w) (h m : ℕ)
    (linked enabled : Bool) (hpos : 0 < w.refcount h) :
    ((hardifEnableInterface h m linked enabled w).tables = w.tables ∨
      (w.tables.hardif h).ifStatus = .notInUse ∧
        (hardifEnableInterface h m linked enabled w).tables = w.tables.enable h m) ∧
      Counted e (hardifEnableInterface h m linked enabled w) := by
  unfold hardifEnableInterface
  by_cases hmtu : ((w.tables.dev (w.tables.hardif h).netDev).mtu : ℤ) < ETH_MIN_MTU + maxHeaderLen
  · rw [if_pos hmtu]
    exact ⟨.inl rfl, hc⟩
  rw [if_neg hmtu]
  by_cases hst : (w.tables.hardif h).ifStatus = .notInUse
  swap
  · rw [if_pos hst]
    exact ⟨.inl rfl, hc⟩
  rw [if_neg (not_not.mpr hst)]
  have hm : (w.tables.hardif h).meshIface = none := by
    have h1 := hl.status h
    rw [hst] at h1
    exact Option.isNone_iff_eq_none.mp (by simpa [HardIfState.inUse] using h1)
  have hptype : (w.tables.hardif h).ptype = false := by
    rw [hl.ptype, hst]
    rfl
  have hno : ∀ n, h ∉ (w.tables.mesh n).lower := by
    intro n hmem
    rw [hl.lower, hm] at hmem
    cases hmem
  have hnp : ∀ n, (w.tables.mesh n).primaryIf ≠ some h := by
    intro n hp
    have := hl.primary n h hp
    rw [hm] at this
    cases this
  have h1 : Counted (h ::ₘ e) (w.krefGet h) := hc.krefGet hpos
  have h2 : Counted e ((w.krefGet h).map (·.setMeshIface h (some m))) :=
    h1.setMeshIface_some (by simpa using hm)
  cases linked with
  | false =>
    have h3 : Counted (h ::ₘ e) (((w.krefGet h).map (·.setMeshIface h (some m))).map
        (·.setMeshIface h none)) :=
      h2.setMeshIface_none (m := m) (by simp) (by simpa using hnp) (by simpa using hno)
    refine ⟨.inl ?_, h3.krefPut⟩
    simpa using setMeshIface_undo hm
  | true =>
    have h3 := h2.link (h := h) (m := m) (by simp)
    cases enabled with
    | false =>
      have h4 := h3.unlink (h := h) (m := m)
      have h5 := h4.setMeshIface_none (h := h) (m := m) (by simp) (by simpa using hnp) (by
        intro n
        simp only [map_tables, krefGet_tables, unlink_lower, link_lower, setMeshIface_mesh]
        split_ifs with hn
        · rw [List.erase_append_right _ (hno m)]
          simpa using hno m
        · exact hno n)
      refine ⟨.inl ?_, h5.krefPut⟩
      simpa using link_unlink (m := m) hl hm
    | true =>
      have h4 := h3.setStatus (h := h) .inactive
      have h5 : Counted (h ::ₘ e) _ := h4.krefGet (h := h) (by
        exact h4.pos_of_mesh (m := m) (by simp))
      have h6 := h5.setPtype_true (by simpa using hptype)
      set w6 := ((((((w.krefGet h).map (·.setMeshIface h (some m))).map (·.link h m)).map
        (·.setStatus h .inactive)).krefGet h).map (·.setPtype h true)) with hw6
      have ht6 : w6.tables = w.tables.enslave h m := by
        simp [hw6, HardifTables.enslave]
      have hl6 : Links w6.tables := by
        rw [ht6]
        exact hl.enslave m hst
      set w7 := if (w6.tables.dev (w6.tables.hardif h).netDev).up then hardifActivateInterface h w6
        else w6 with hw7
      have h7 : w7.tables = (if (w6.tables.dev (w6.tables.hardif h).netDev).up then
          w6.tables.activate h else w6.tables) ∧ Counted e w7 := by
        rw [hw7]
        split_ifs
        · exact hardifActivateInterface_spec hl6 h6 h
        · exact ⟨rfl, h6⟩
      obtain ⟨ht7, h7⟩ := h7
      have hl7 : Links w7.tables := by
        rw [ht7]
        split_ifs
        · exact hl6.activate h
        · exact hl6
      have h8 : (algoIfaceEnabled m h w7).tables = (match (w7.tables.mesh m).algo with
          | .iv => w7.tables.schedule h
          | .v => w7.tables) ∧ Counted e (algoIfaceEnabled m h w7) := by
        unfold algoIfaceEnabled
        cases (w7.tables.mesh m).algo with
        | iv => exact ivOgmSchedule_spec hl7 h7 h true
        | v => exact ⟨rfl, h7⟩
      obtain ⟨ht8, h8⟩ := h8
      refine ⟨.inr ⟨hst, ?_⟩, h8⟩
      refine ht8.trans ?_
      rw [ht7, ht6]
      rfl

/-- Releasing an interface of a mesh. -/
lemma hardifDisableInterface_spec (hl : Links w.tables) (hc : Counted e w)
    (hm : (w.tables.hardif h).meshIface = some m) :
    (hardifDisableInterface h w).tables = w.tables.disable h ∧
      Counted e (hardifDisableInterface h w) := by
  unfold hardifDisableInterface HardifTables.disable
  simp only [hm]
  obtain ⟨ht1, h1⟩ := hardifDeactivateInterface_spec hl hc h
  obtain ⟨hst1, hm1, hp1, -⟩ := deactivate_frame hl hm
  have hl1 := hl.deactivate h
  have hptype1 : ((w.tables.deactivate h).hardif h).ptype = true := by
    rw [hp1, hl.ptype, ← hl.status, hm]
    rfl
  rw [← ht1] at hst1 hm1 hl1 hptype1
  set w1 := hardifDeactivateInterface h w
  rw [if_neg (not_not.mpr hst1), ← ht1]
  -- the packet handler goes, and its reference
  have h2 : Counted (h ::ₘ e) (w1.map (·.setPtype h false)) := h1.setPtype_false hptype1
  have h3 : Counted e ((w1.map (·.setPtype h false)).krefPut h) := h2.krefPut
  set w3 := (w1.map (·.setPtype h false)).krefPut h with hw3
  have ht3 : w3.tables = w1.tables.setPtype h false := by simp [hw3]
  obtain ⟨w4, hget, ht4, h4⟩ := primaryIfGetSelected_spec h3 m
  rw [hget]
  set p := (w3.tables.mesh m).primaryIf with hp
  rw [ht3] at ht4
  -- the mesh gets another primary interface
  have h5 : ∀ w5, w5 = (if p = some h then
        (primaryIfSelect m (hardifGetActive m w4).1 (hardifGetActive m w4).2).put
          (hardifGetActive m w4).1
      else w4) →
      w5.tables = (w1.tables.setPtype h false).reselect h m ∧ Counted (hold p e) w5 := by
    intro w5 hw5
    have hpm : p = ((w1.tables.setPtype h false).mesh m).primaryIf := by rw [hp, ht3]
    unfold HardifTables.reselect
    rw [← hpm, hw5]
    split_ifs with hph
    · obtain ⟨w', hactive, ht', h'⟩ := hardifGetActive_spec h4 m
      rw [ht4] at ht' hactive h'
      obtain ⟨htsel, hsel⟩ := primaryIfSelect_spec h' (m := m)
        (o := (w1.tables.setPtype h false).firstActive m) (by
          intro k hk
          rw [ht']
          exact (by simpa [hl1.lower] using (firstActive_eq_some hk).1))
      rw [hactive]
      refine ⟨?_, hsel.put⟩
      rw [put_tables, htsel, ht']
    · exact ⟨ht4, h4⟩
  set w5 := (if p = some h then
        (primaryIfSelect m (hardifGetActive m w4).1 (hardifGetActive m w4).2).put
          (hardifGetActive m w4).1
      else w4) with hw5
  obtain ⟨ht5, h5⟩ := h5 w5 rfl
  -- the interface leaves the mesh
  have h6 : Counted (hold p e) ((w5.map (·.setStatus h .notInUse)).map (·.unlink h m)) :=
    (h5.setStatus .notInUse).unlink
  have hne := reselect_primaryIf_ne hl1 hm1 hst1
  have h7 := h6.setMeshIface_none (h := h) (m := m) (by
      simp only [map_tables, unlink_hardif, setStatus_meshIface]
      rw [ht5, reselect_hardif]
      simpa using hm1) (by
      intro n
      simp only [map_tables, unlink_primaryIf, setStatus_mesh]
      rw [ht5]
      exact hne n) (by
      intro n hmem
      simp only [map_tables, unlink_lower, setStatus_mesh] at hmem
      rw [ht5] at hmem
      simp only [reselect_lower, setPtype_mesh] at hmem
      split_ifs at hmem with hn
      · exact (hl1.lowerNodup m).not_mem_erase hmem
      · rw [hl1.lower, hm1] at hmem
        exact hn (Option.some.inj hmem).symm)
  refine ⟨?_, h7.krefPut.put⟩
  rw [put_tables, krefPut_tables]
  simp only [map_tables]
  rw [ht5]
  rfl

/-- The end of a device of which the running handler holds a reference. -/
lemma hardifRemoveInterface_spec (hl : Links w.tables) (hc : Counted e w)
    (hmem : h ∈ w.tables.hardifList) (hst : (w.tables.hardif h).ifStatus ≠ .toBeRemoved) :
    (hardifRemoveInterface h
        (w.map fun t => { t with hardifList := t.hardifList.erase h })).tables =
      w.tables.remove h ∧
      Counted e (hardifRemoveInterface h
        (w.map fun t => { t with hardifList := t.hardifList.erase h })) := by
  have h1 := hc.eraseList hmem
  set w1 := w.map fun t => { t with hardifList := t.hardifList.erase h } with hw1
  have hl1 : Links w1.tables := hl.setList _
  unfold hardifRemoveInterface
  set w2 := if (w1.tables.hardif h).ifStatus ≠ .notInUse then hardifDisableInterface h w1 else w1
    with hw2
  have h2 : w2.tables = (if (w1.tables.hardif h).ifStatus ≠ .notInUse then w1.tables.disable h
      else w1.tables) ∧ Counted (h ::ₘ e) w2 := by
    rw [hw2]
    split_ifs with hin
    · obtain ⟨m, hm⟩ := hl1.exists_mesh (h := h) (by
        have hst' : (w1.tables.hardif h).ifStatus ≠ .toBeRemoved := hst
        cases hs : (w1.tables.hardif h).ifStatus <;> simp_all [HardIfState.inUse])
      exact hardifDisableInterface_spec hl1 h1 hm
    · exact ⟨rfl, h1⟩
  obtain ⟨ht2, h2⟩ := h2
  have hfree : (w2.tables.hardif h).ifStatus = .notInUse := by
    rw [ht2]
    exact remove_status hl1 hst
  rw [if_neg (not_not.mpr hfree)]
  refine ⟨?_, (h2.setStatus .toBeRemoved).krefPut⟩
  rw [krefPut_tables, map_tables, ht2]
  rfl

/-- The reference of the list to a new object. -/
lemma refs_add {t : HardifTables} (hL : Listed t) (d k : ℕ) :
    (t.add d).refs k = if k = t.next then 1 else t.refs k := by
  have hnot : t.next ∉ t.hardifList := fun hmem => absurd ((hL.mem _).mp hmem).1 (lt_irrefl _)
  have hhardif : ∀ k, (t.add d).hardif k =
      if k = t.next then ⟨d, none, .notInUse, false⟩ else t.hardif k := by
    intro k
    simp only [HardifTables.add, setHardif_hardif]
  have hlist : (t.add d).hardifList = t.hardifList ++ [t.next] := rfl
  have hmesh : (t.add d).mesh = t.mesh := rfl
  simp only [refs, primaryRefs, hhardif, hlist, hmesh, List.count_append]
  split_ifs with hk
  · subst hk
    simp [List.count_eq_zero.mpr hnot]
  · have h0 : List.count k [t.next] = 0 := by
      rw [List.count_eq_zero, List.mem_singleton]
      exact hk
    rw [h0, Nat.add_zero]

/-- A new object: the list and the handler hold a reference each. -/
lemma hardifAddInterface_spec (hl : Links w.tables) (hL : Listed w.tables) (hc : Counted 0 w)
    (d : ℕ) (valid alloc : Bool) :
    hardifAddInterface d valid alloc w = (none, w) ∨
      ∃ w', hardifAddInterface d valid alloc w = (some w.tables.next, w') ∧
        w'.tables = w.tables.add d ∧ Counted (w.tables.next ::ₘ 0) w' := by
  unfold hardifAddInterface
  split_ifs with hva
  · exact .inl rfl
  refine .inr ⟨_, rfl, by simp [HardifTables.add, HardifTables.setHardif], ?_⟩
  have hl' := hl.add hL d
  unfold HardifWorld.krefGet
  simp only [Function.update_self]
  rw [if_neg (by omega)]
  refine ⟨hc.fault, hl'.primary, fun m k => (hl'.lower m k).mp, ?_, fun k => ?_⟩
  · intro k hk
    have hk' : w.tables.next + 1 ≤ k := hk
    exact hc.fresh k (by omega)
  · have hck := hc.count k
    show Function.update (Function.update w.refcount w.tables.next 1) w.tables.next (1 + 1) k =
      (w.tables.add d).refs k + w.others k + (w.tables.next ::ₘ (0 : Multiset ℕ)).count k
    rw [refs_add hL, Multiset.count_cons, Function.update_apply, Function.update_apply]
    split_ifs with hk
    · rw [hk, hc.fresh _ le_rfl]
      rfl
    · rw [hck, Nat.add_zero]

/-! ### Events and requests -/

/-- The `switch` over an event, for an object of the list to which the handler has a reference. -/
lemma hardIfEventSwitch_spec (hl : Links w.tables) (hc : Counted e w)
    (hmem : h ∈ w.tables.hardifList) (hst : (w.tables.hardif h).ifStatus ≠ .toBeRemoved)
    (event : NetdevEvent) :
    (hardIfEventSwitch h event w).tables = w.tables.onEvent h event ∧
      Counted e (hardIfEventSwitch h event w) := by
  cases event with
  | register valid alloc => exact ⟨rfl, hc⟩
  | postTypeChange valid alloc => exact ⟨rfl, hc⟩
  | up => exact hardifActivateInterface_spec hl hc h
  | goingDown => exact hardifDeactivateInterface_spec hl hc h
  | down => exact hardifDeactivateInterface_spec hl hc h
  | unregister => exact hardifRemoveInterface_spec hl hc hmem hst
  | preTypeChange => exact hardifRemoveInterface_spec hl hc hmem hst
  | changeMtu mtu =>
    unfold hardIfEventSwitch HardifTables.onEvent
    cases hm : (w.tables.hardif h).meshIface with
    | none => exact ⟨rfl, hc⟩
    | some m => exact ⟨rfl, hc.map_same (sameLinks_updateMinMtu m w.tables)⟩
  | changeAddr =>
    unfold hardIfEventSwitch HardifTables.onEvent
    simp only
    split_ifs with hin
    · exact ⟨rfl, hc⟩
    · obtain ⟨m, hm⟩ := hl.exists_mesh (h := h) (by
        cases hs : (w.tables.hardif h).ifStatus <;> simp_all [HardIfState.inUse])
      simp only [hm]
      obtain ⟨w', hget, ht, hc'⟩ := primaryIfGetSelected_spec hc m
      rw [hget]
      simp only
      split_ifs with hp
      · obtain ⟨ht2, hc2⟩ := primaryIfUpdateAddr_spec hc' m
        rw [put_tables, ht2, ht]
        exact ⟨rfl, hc2.put⟩
      · rw [put_tables, ht]
        exact ⟨rfl, hc'.put⟩
  | changeUpper => exact ⟨rfl, hc⟩

/-- An event of a device: the device has no object, or its object is dealt with, or it gets one. -/
lemma hardIfEvent_spec (hl : Links w.tables) (hL : Listed w.tables) (hc : Counted 0 w) (d : ℕ)
    (event : NetdevEvent) :
    Counted 0 (hardIfEvent d event w) ∧
      (((hardIfEvent d event w).tables = event.apply d w.tables ∧
          ∀ k ∈ (event.apply d w.tables).hardifList,
            ((event.apply d w.tables).hardif k).netDev ≠ d) ∨
        (∃ h ∈ (event.apply d w.tables).hardifList,
          ((event.apply d w.tables).hardif h).netDev = d ∧
            (hardIfEvent d event w).tables = (event.apply d w.tables).onEvent h event) ∨
        (∀ k ∈ (event.apply d w.tables).hardifList,
            ((event.apply d w.tables).hardif k).netDev ≠ d) ∧
          event.apply d w.tables = w.tables ∧
            (hardIfEvent d event w).tables = (event.apply d w.tables).add d) := by
  have hs := sameLinks_apply d event w.tables
  have hl0 := hl.congr hs
  have hL0 := hL.congr hs
  have hc0 : Counted 0 (w.map (event.apply d)) := hc.map_same hs
  unfold hardIfEvent
  set w0 := w.map (event.apply d) with hw0
  have ht0 : w0.tables = event.apply d w.tables := rfl
  rw [← ht0] at hl0 hL0 ⊢
  obtain ⟨o, w', hg, ht, hc', hsome, hnone⟩ := hardifGetByNetdev_spec hc0 d
  cases o with
  | some h =>
    obtain ⟨hmem, hdev⟩ := hsome h rfl
    have hget : hardIfEventGet d event w0 = (some h, w') := by
      unfold hardIfEventGet
      rw [hg]
    rw [hget]
    rw [← ht] at hl0 hL0 hmem
    obtain ⟨hsw, hcsw⟩ := hardIfEventSwitch_spec hl0 (e := h ::ₘ 0) hc' hmem
      ((hL0.mem h).mp hmem).2 event
    rw [ht] at hmem
    refine ⟨hcsw.krefPut, .inr (.inl ⟨h, hmem, hdev, ?_⟩)⟩
    rw [krefPut_tables, hsw, ht]
  | none =>
    obtain ⟨hw', hfree⟩ := hnone rfl
    rw [hw'] at hg
    have hget : hardIfEventGet d event w0 = (none, w0) ∨
        event.apply d w.tables = w.tables ∧ (∀ h w, hardIfEventSwitch h event w = w) ∧
          ∃ w'', hardIfEventGet d event w0 = (some w0.tables.next, w'') ∧
            w''.tables = w0.tables.add d ∧ Counted (w0.tables.next ::ₘ 0) w'' := by
      have hadd := hardifAddInterface_spec hl0 hL0 hc0 d
      unfold hardIfEventGet
      rw [hg]
      cases event with
      | register valid alloc =>
        exact (hadd valid alloc).imp id fun h1 => ⟨rfl, fun _ _ => rfl, h1⟩
      | postTypeChange valid alloc =>
        exact (hadd valid alloc).imp id fun h1 => ⟨rfl, fun _ _ => rfl, h1⟩
      | _ => exact .inl rfl
    rcases hget with hget | ⟨happly, hswitch, w'', hget, ht'', hc''⟩
    · rw [hget]
      exact ⟨hc0, .inl ⟨rfl, hfree⟩⟩
    · rw [hget]
      simp only [hswitch]
      refine ⟨hc''.krefPut, .inr (.inr ⟨hfree, happly, ?_⟩)⟩
      rw [krefPut_tables, ht'']

/-- A request to enslave a device. -/
lemma meshifSlaveAdd_spec (hl : Links w.tables) (hc : Counted 0 w) (m d : ℕ)
    (linked enabled : Bool) :
    Counted 0 (meshifSlaveAdd m d linked enabled w) ∧
      ((meshifSlaveAdd m d linked enabled w).tables = w.tables ∨
        ∃ h ∈ w.tables.hardifList, (w.tables.hardif h).ifStatus = .notInUse ∧
          (meshifSlaveAdd m d linked enabled w).tables = w.tables.enable h m) := by
  unfold meshifSlaveAdd
  obtain ⟨o, w', hg, ht, hc', hsome, -⟩ := hardifGetByNetdev_spec hc d
  rw [hg]
  cases o with
  | none => exact ⟨hc', .inl ht⟩
  | some h =>
    replace hc' : Counted (h ::ₘ 0) w' := hc'
    have hl' : Links w'.tables := by rw [ht]; exact hl
    obtain ⟨hmem, -⟩ := hsome h rfl
    simp only
    split_ifs with hm
    · exact ⟨hc'.krefPut, .inl (by rw [krefPut_tables, ht])⟩
    · obtain ⟨htab, hc2⟩ := hardifEnableInterface_spec hl' hc' h m linked enabled
        (hc'.pos_of_list (by rw [ht]; exact hmem))
      refine ⟨hc2.krefPut, ?_⟩
      rw [krefPut_tables]
      rw [ht] at htab
      exact htab.imp id fun hfree => ⟨h, hmem, hfree⟩

/-- A request to release a device. -/
lemma meshifSlaveDel_spec (hl : Links w.tables) (hc : Counted 0 w) (m d : ℕ) :
    Counted 0 (meshifSlaveDel m d w) ∧
      ((meshifSlaveDel m d w).tables = w.tables ∨
        ∃ h ∈ w.tables.hardifList, (meshifSlaveDel m d w).tables = w.tables.disable h) := by
  unfold meshifSlaveDel
  obtain ⟨o, w', hg, ht, hc', hsome, -⟩ := hardifGetByNetdev_spec hc d
  rw [hg]
  cases o with
  | none => exact ⟨hc', .inl ht⟩
  | some h =>
    replace hc' : Counted (h ::ₘ 0) w' := hc'
    have hl' : Links w'.tables := by rw [ht]; exact hl
    obtain ⟨hmem, -⟩ := hsome h rfl
    simp only
    split_ifs with hm
    · exact ⟨hc'.krefPut, .inl (by rw [krefPut_tables, ht])⟩
    · obtain ⟨htab, hc2⟩ := hardifDisableInterface_spec hl' hc' (not_not.mp hm)
      refine ⟨hc2.krefPut, .inr ⟨h, hmem, ?_⟩⟩
      rw [krefPut_tables, htab, ht]

end Batadv
