import BatmanAdv.HardInterface.State

set_option relaxedAutoImplicit false
set_option autoImplicit false

/-!
# The links of the hard interfaces without their counters

The handlers count references all the way, and what they do depends on the counters: an object
without references is passed over.  As long as the counters are right this makes no difference, and
a handler does to the tables what its counterpart here does, which knows no counters.

## Main definitions

* `Batadv.HardifTables.activate`, `.deactivate`, `.enable`, `.disable`, `.remove`, `.add` — the
  handlers without references.
* `Batadv.HardifTables.SameLinks` — two tables that differ in MTUs only.
* `Batadv.HardifTables.Touches` — two tables that differ in one object and in the mesh interfaces.

## Main results

* `Batadv.HardifTables.sameLinks_updateMinMtu` — the adjustment of the MTU leaves the links alone.
* `Batadv.HardifTables.touches_enable`, `.touches_disable` — a handler changes its own object only.
-/

namespace Batadv

namespace HardifTables

variable (t : HardifTables) (h k m n : ℕ)

/-! ### Reading what was written -/

lemma setHardif_hardif (x : Hardif) :
    (t.setHardif h x).hardif k = if k = h then x else t.hardif k :=
  Function.update_apply ..

lemma setMesh_mesh (x : MeshIf) : (t.setMesh m x).mesh n = if n = m then x else t.mesh n :=
  Function.update_apply ..

@[simp] lemma setStatus_mesh (status : HardIfState) : (t.setStatus h status).mesh = t.mesh := rfl
@[simp] lemma setStatus_dev (status : HardIfState) : (t.setStatus h status).dev = t.dev := rfl
@[simp] lemma setStatus_next (status : HardIfState) : (t.setStatus h status).next = t.next := rfl
@[simp] lemma setStatus_list (status : HardIfState) :
    (t.setStatus h status).hardifList = t.hardifList := rfl

@[simp] lemma setStatus_ifStatus (status : HardIfState) :
    ((t.setStatus h status).hardif k).ifStatus =
      if k = h then status else (t.hardif k).ifStatus := by
  rw [setStatus, setHardif_hardif]
  split <;> rfl

@[simp] lemma setStatus_meshIface (status : HardIfState) :
    ((t.setStatus h status).hardif k).meshIface = (t.hardif k).meshIface := by
  rw [setStatus, setHardif_hardif]
  split <;> simp_all

@[simp] lemma setStatus_ptype (status : HardIfState) :
    ((t.setStatus h status).hardif k).ptype = (t.hardif k).ptype := by
  rw [setStatus, setHardif_hardif]
  split <;> simp_all

@[simp] lemma setStatus_netDev (status : HardIfState) :
    ((t.setStatus h status).hardif k).netDev = (t.hardif k).netDev := by
  rw [setStatus, setHardif_hardif]
  split <;> simp_all

@[simp] lemma setMeshIface_mesh (o : Option ℕ) : (t.setMeshIface h o).mesh = t.mesh := rfl
@[simp] lemma setMeshIface_dev (o : Option ℕ) : (t.setMeshIface h o).dev = t.dev := rfl
@[simp] lemma setMeshIface_next (o : Option ℕ) : (t.setMeshIface h o).next = t.next := rfl
@[simp] lemma setMeshIface_list (o : Option ℕ) :
    (t.setMeshIface h o).hardifList = t.hardifList := rfl

@[simp] lemma setMeshIface_meshIface (o : Option ℕ) :
    ((t.setMeshIface h o).hardif k).meshIface = if k = h then o else (t.hardif k).meshIface := by
  rw [setMeshIface, setHardif_hardif]
  split <;> rfl

@[simp] lemma setMeshIface_ifStatus (o : Option ℕ) :
    ((t.setMeshIface h o).hardif k).ifStatus = (t.hardif k).ifStatus := by
  rw [setMeshIface, setHardif_hardif]
  split <;> simp_all

@[simp] lemma setMeshIface_ptype (o : Option ℕ) :
    ((t.setMeshIface h o).hardif k).ptype = (t.hardif k).ptype := by
  rw [setMeshIface, setHardif_hardif]
  split <;> simp_all

@[simp] lemma setMeshIface_netDev (o : Option ℕ) :
    ((t.setMeshIface h o).hardif k).netDev = (t.hardif k).netDev := by
  rw [setMeshIface, setHardif_hardif]
  split <;> simp_all

@[simp] lemma setPtype_mesh (b : Bool) : (t.setPtype h b).mesh = t.mesh := rfl
@[simp] lemma setPtype_dev (b : Bool) : (t.setPtype h b).dev = t.dev := rfl
@[simp] lemma setPtype_next (b : Bool) : (t.setPtype h b).next = t.next := rfl
@[simp] lemma setPtype_list (b : Bool) : (t.setPtype h b).hardifList = t.hardifList := rfl

@[simp] lemma setPtype_ptype (b : Bool) :
    ((t.setPtype h b).hardif k).ptype = if k = h then b else (t.hardif k).ptype := by
  rw [setPtype, setHardif_hardif]
  split <;> rfl

@[simp] lemma setPtype_ifStatus (b : Bool) :
    ((t.setPtype h b).hardif k).ifStatus = (t.hardif k).ifStatus := by
  rw [setPtype, setHardif_hardif]
  split <;> simp_all

@[simp] lemma setPtype_meshIface (b : Bool) :
    ((t.setPtype h b).hardif k).meshIface = (t.hardif k).meshIface := by
  rw [setPtype, setHardif_hardif]
  split <;> simp_all

@[simp] lemma setPtype_netDev (b : Bool) :
    ((t.setPtype h b).hardif k).netDev = (t.hardif k).netDev := by
  rw [setPtype, setHardif_hardif]
  split <;> simp_all

@[simp] lemma setMesh_hardif (x : MeshIf) : (t.setMesh m x).hardif = t.hardif := rfl
@[simp] lemma setMesh_dev (x : MeshIf) : (t.setMesh m x).dev = t.dev := rfl
@[simp] lemma setMesh_next (x : MeshIf) : (t.setMesh m x).next = t.next := rfl
@[simp] lemma setMesh_list (x : MeshIf) : (t.setMesh m x).hardifList = t.hardifList := rfl

@[simp] lemma setPrimary_hardif (o : Option ℕ) : (t.setPrimary m o).hardif = t.hardif := rfl
@[simp] lemma setPrimary_dev (o : Option ℕ) : (t.setPrimary m o).dev = t.dev := rfl
@[simp] lemma setPrimary_next (o : Option ℕ) : (t.setPrimary m o).next = t.next := rfl
@[simp] lemma setPrimary_list (o : Option ℕ) :
    (t.setPrimary m o).hardifList = t.hardifList := rfl

@[simp] lemma setPrimary_primaryIf (o : Option ℕ) :
    ((t.setPrimary m o).mesh n).primaryIf = if n = m then o else (t.mesh n).primaryIf := by
  rw [setPrimary, setMesh_mesh]
  split <;> rfl

@[simp] lemma setPrimary_lower (o : Option ℕ) :
    ((t.setPrimary m o).mesh n).lower = (t.mesh n).lower := by
  rw [setPrimary, setMesh_mesh]
  split <;> simp_all

@[simp] lemma setPrimary_algo (o : Option ℕ) :
    ((t.setPrimary m o).mesh n).algo = (t.mesh n).algo := by
  rw [setPrimary, setMesh_mesh]
  split <;> simp_all

@[simp] lemma link_hardif : (t.link h m).hardif = t.hardif := rfl
@[simp] lemma link_dev : (t.link h m).dev = t.dev := rfl
@[simp] lemma link_next : (t.link h m).next = t.next := rfl
@[simp] lemma link_list : (t.link h m).hardifList = t.hardifList := rfl

@[simp] lemma link_lower :
    ((t.link h m).mesh n).lower =
      if n = m then (t.mesh m).lower ++ [h] else (t.mesh n).lower := by
  rw [link, setMesh_mesh]
  split <;> rfl

@[simp] lemma link_primaryIf : ((t.link h m).mesh n).primaryIf = (t.mesh n).primaryIf := by
  rw [link, setMesh_mesh]
  split <;> simp_all

@[simp] lemma link_algo : ((t.link h m).mesh n).algo = (t.mesh n).algo := by
  rw [link, setMesh_mesh]
  split <;> simp_all

@[simp] lemma unlink_hardif : (t.unlink h m).hardif = t.hardif := rfl
@[simp] lemma unlink_dev : (t.unlink h m).dev = t.dev := rfl
@[simp] lemma unlink_next : (t.unlink h m).next = t.next := rfl
@[simp] lemma unlink_list : (t.unlink h m).hardifList = t.hardifList := rfl

@[simp] lemma unlink_lower :
    ((t.unlink h m).mesh n).lower =
      if n = m then (t.mesh m).lower.erase h else (t.mesh n).lower := by
  rw [unlink, setMesh_mesh]
  split <;> rfl

@[simp] lemma unlink_primaryIf : ((t.unlink h m).mesh n).primaryIf = (t.mesh n).primaryIf := by
  rw [unlink, setMesh_mesh]
  split <;> simp_all

@[simp] lemma unlink_algo : ((t.unlink h m).mesh n).algo = (t.mesh n).algo := by
  rw [unlink, setMesh_mesh]
  split <;> simp_all

/-! ### Tables that differ in MTUs only -/

/-- The two tables have the same objects and the same links. -/
structure SameLinks (t t' : HardifTables) : Prop where
  hardif : t'.hardif = t.hardif
  next : t'.next = t.next
  list : t'.hardifList = t.hardifList
  algo : ∀ m, (t'.mesh m).algo = (t.mesh m).algo
  primary : ∀ m, (t'.mesh m).primaryIf = (t.mesh m).primaryIf
  lower : ∀ m, (t'.mesh m).lower = (t.mesh m).lower

variable {t t' t'' : HardifTables}

lemma SameLinks.refl (t : HardifTables) : SameLinks t t :=
  ⟨rfl, rfl, rfl, fun _ => rfl, fun _ => rfl, fun _ => rfl⟩

lemma SameLinks.trans (h1 : SameLinks t t') (h2 : SameLinks t' t'') : SameLinks t t'' where
  hardif := h2.hardif.trans h1.hardif
  next := h2.next.trans h1.next
  list := h2.list.trans h1.list
  algo m := (h2.algo m).trans (h1.algo m)
  primary m := (h2.primary m).trans (h1.primary m)
  lower m := (h2.lower m).trans (h1.lower m)

/-- Writing to a mesh interface something with the same links. -/
lemma SameLinks.setMesh {m : ℕ} {x : MeshIf} (halgo : x.algo = (t.mesh m).algo)
    (hprimary : x.primaryIf = (t.mesh m).primaryIf) (hlower : x.lower = (t.mesh m).lower) :
    SameLinks t (t.setMesh m x) := by
  refine ⟨rfl, rfl, rfl, fun n => ?_, fun n => ?_, fun n => ?_⟩ <;>
  · rw [setMesh_mesh]
    split <;> simp_all

lemma sameLinks_hardifMinMtu (m : ℕ) (t : HardifTables) : SameLinks t (hardifMinMtu m t).2 :=
  .setMesh rfl rfl rfl

lemma sameLinks_interfaceChangeMtu (m : ℕ) (newMtu : ℤ) (t : HardifTables) :
    SameLinks t (interfaceChangeMtu m newMtu t) := by
  have h := sameLinks_hardifMinMtu m t
  simp only [interfaceChangeMtu]
  split_ifs
  · exact h
  · exact h.trans (.setMesh rfl rfl rfl)

lemma sameLinks_devSetMtu (m : ℕ) (newMtu : ℤ) (t : HardifTables) :
    SameLinks t (devSetMtu m newMtu t) := by
  unfold devSetMtu
  split_ifs
  · exact .refl t
  · exact .refl t
  · exact sameLinks_interfaceChangeMtu m newMtu t

/-- The adjustment of the MTU leaves the links alone. -/
lemma sameLinks_updateMinMtu (m : ℕ) (t : HardifTables) : SameLinks t (updateMinMtu m t) :=
  (sameLinks_hardifMinMtu m t).trans (sameLinks_devSetMtu m _ _)

lemma sameLinks_setFragmentation (m : ℕ) (enabled : Bool) (t : HardifTables) :
    SameLinks t (setFragmentation m enabled t) := by
  have h : SameLinks t (t.setMesh m { t.mesh m with fragmentation := enabled }) :=
    .setMesh rfl rfl rfl
  exact h.trans (sameLinks_updateMinMtu m _)

lemma sameLinks_apply (d : ℕ) (event : NetdevEvent) (t : HardifTables) :
    SameLinks t (event.apply d t) := by
  cases event <;> exact ⟨rfl, rfl, rfl, fun _ => rfl, fun _ => rfl, fun _ => rfl⟩

/-! ### The handlers without references -/

/-- What `batadv_hardif_activate_interface` does to the tables. -/
def activate (h : ℕ) (t : HardifTables) : HardifTables :=
  if (t.hardif h).ifStatus ≠ .inactive then t
  else
    match (t.hardif h).meshIface with
    | none => t
    | some m =>
      let t := t.setStatus h .toBeActivated
      let t := if (t.mesh m).primaryIf.isNone then t.setPrimary m (some h) else t
      let t := updateMinMtu m t
      match (t.mesh m).algo with
      | .iv => t
      | .v => if (t.hardif h).ifStatus = .toBeActivated then t.setStatus h .active else t

/-- What `batadv_hardif_deactivate_interface` does to the tables. -/
def deactivate (h : ℕ) (t : HardifTables) : HardifTables :=
  if (t.hardif h).ifStatus ≠ .active ∧ (t.hardif h).ifStatus ≠ .toBeActivated then t
  else
    match (t.hardif h).meshIface with
    | none => t
    | some m => updateMinMtu m (t.setStatus h .inactive)

/-- What `batadv_iv_ogm_schedule` does to the tables. -/
def schedule (h : ℕ) (t : HardifTables) : HardifTables :=
  if (t.hardif h).ifStatus = .toBeActivated then t.setStatus h .active else t

/-- The interface that `batadv_hardif_get_active` finds. -/
def firstActive (m : ℕ) (t : HardifTables) : Option ℕ :=
  (t.mesh m).lower.find? fun h => (t.hardif h).ifStatus == .active

/-- The part of `batadv_hardif_enable_interface` that enslaves an interface. -/
def enslave (h m : ℕ) (t : HardifTables) : HardifTables :=
  (((t.setMeshIface h (some m)).link h m).setStatus h .inactive).setPtype h true

/-- What a successful `batadv_hardif_enable_interface` does to the tables. -/
def enable (h m : ℕ) (t : HardifTables) : HardifTables :=
  let t := t.enslave h m
  let t := if (t.dev (t.hardif h).netDev).up then t.activate h else t
  match (t.mesh m).algo with
  | .iv => t.schedule h
  | .v => t

/-- The choice of a new primary interface when an interface goes. -/
def reselect (h m : ℕ) (t : HardifTables) : HardifTables :=
  if (t.mesh m).primaryIf = some h then t.setPrimary m (t.firstActive m) else t

/-- The part of `batadv_hardif_disable_interface` that releases an interface. -/
def release (h m : ℕ) (t : HardifTables) : HardifTables :=
  ((t.setStatus h .notInUse).unlink h m).setMeshIface h none

/-- What `batadv_hardif_disable_interface` does to the tables. -/
def disable (h : ℕ) (t : HardifTables) : HardifTables :=
  match (t.hardif h).meshIface with
  | none => t
  | some m => (((t.deactivate h).setPtype h false).reselect h m).release h m

/-- What the end of a device does to the tables. -/
def remove (h : ℕ) (t : HardifTables) : HardifTables :=
  let t := { t with hardifList := t.hardifList.erase h }
  let t := if (t.hardif h).ifStatus ≠ .notInUse then t.disable h else t
  t.setStatus h .toBeRemoved

/-- What `batadv_hardif_add_interface` does to the tables. -/
def add (d : ℕ) (t : HardifTables) : HardifTables :=
  { t.setHardif t.next ⟨d, none, .notInUse, false⟩ with
    next := t.next + 1
    hardifList := t.hardifList ++ [t.next] }

/-- What the `switch` of `batadv_hard_if_event` does to the tables. -/
def onEvent (h : ℕ) (event : NetdevEvent) (t : HardifTables) : HardifTables :=
  match event with
  | .up => t.activate h
  | .goingDown => t.deactivate h
  | .down => t.deactivate h
  | .unregister => t.remove h
  | .preTypeChange => t.remove h
  | .changeMtu _ =>
    match (t.hardif h).meshIface with
    | none => t
    | some m => updateMinMtu m t
  | _ => t

/-! ### One object is changed -/

/-- Only an object that exists is changed, and neither its device nor the list. -/
structure Touches (h : ℕ) (t t' : HardifTables) : Prop where
  other : ∀ k, k ≠ h → t'.hardif k = t.hardif k
  netDev : (t'.hardif h).netDev = (t.hardif h).netDev
  status : (t.hardif h).ifStatus ≠ .toBeRemoved → (t'.hardif h).ifStatus ≠ .toBeRemoved
  next : t'.next = t.next
  list : t'.hardifList = t.hardifList

lemma SameLinks.touches (hs : SameLinks t t') (h : ℕ) : Touches h t t' where
  other k _ := by rw [hs.hardif]
  netDev := by rw [hs.hardif]
  status := by rw [hs.hardif]; exact id
  next := hs.next
  list := hs.list

lemma Touches.refl (h : ℕ) (t : HardifTables) : Touches h t t := (SameLinks.refl t).touches h

lemma Touches.trans {h : ℕ} (h1 : Touches h t t') (h2 : Touches h t' t'') : Touches h t t'' where
  other k hk := (h2.other k hk).trans (h1.other k hk)
  netDev := h2.netDev.trans h1.netDev
  status := h2.status ∘ h1.status
  next := h2.next.trans h1.next
  list := h2.list.trans h1.list

/-- Writing to an object. -/
lemma touches_setHardif {h : ℕ} {x : Hardif} (hdev : x.netDev = (t.hardif h).netDev)
    (hstatus : (t.hardif h).ifStatus ≠ .toBeRemoved → x.ifStatus ≠ .toBeRemoved) :
    Touches h t (t.setHardif h x) where
  other k hk := by rw [setHardif_hardif, if_neg hk]
  netDev := by rw [setHardif_hardif, if_pos rfl, hdev]
  status := by rw [setHardif_hardif, if_pos rfl]; exact hstatus
  next := rfl
  list := rfl

/-- Writing to a mesh interface. -/
lemma touches_setMesh (h m : ℕ) (x : MeshIf) : Touches h t (t.setMesh m x) :=
  ⟨fun _ _ => rfl, rfl, id, rfl, rfl⟩

lemma touches_setStatus {h : ℕ} {status : HardIfState} (hs : status ≠ .toBeRemoved) :
    Touches h t (t.setStatus h status) := touches_setHardif rfl fun _ => hs

lemma touches_setMeshIface (h : ℕ) (o : Option ℕ) : Touches h t (t.setMeshIface h o) :=
  touches_setHardif rfl id

lemma touches_setPtype (h : ℕ) (b : Bool) : Touches h t (t.setPtype h b) :=
  touches_setHardif rfl id

/-! ### Activation -/

lemma touches_activate (h : ℕ) (t : HardifTables) : Touches h t (t.activate h) := by
  unfold activate
  split_ifs with hst
  · exact .refl h t
  cases hm : (t.hardif h).meshIface with
  | none => exact .refl h t
  | some m =>
    have h1 : Touches h t (t.setStatus h .toBeActivated) := touches_setStatus (by decide)
    have h2 : ∀ t : HardifTables, Touches h t
        (if (t.mesh m).primaryIf.isNone then t.setPrimary m (some h) else t) := by
      intro t
      split_ifs
      · exact touches_setMesh h m _
      · exact .refl h t
    have h3 : ∀ t : HardifTables, Touches h t (match (t.mesh m).algo with
        | .iv => t
        | .v => if (t.hardif h).ifStatus = .toBeActivated then t.setStatus h .active else t) := by
      intro t
      split
      · exact .refl h t
      · split_ifs
        · exact touches_setStatus (by decide)
        · exact .refl h t
    exact ((h1.trans (h2 _)).trans ((sameLinks_updateMinMtu m _).touches h)).trans (h3 _)

lemma touches_deactivate (h : ℕ) (t : HardifTables) : Touches h t (t.deactivate h) := by
  unfold deactivate
  split_ifs
  · exact .refl h t
  cases hm : (t.hardif h).meshIface with
  | none => exact .refl h t
  | some m => exact (touches_setStatus (by decide)).trans ((sameLinks_updateMinMtu m _).touches h)

lemma touches_schedule (h : ℕ) (t : HardifTables) : Touches h t (t.schedule h) := by
  unfold schedule
  split_ifs
  · exact touches_setStatus (by decide)
  · exact .refl h t

lemma touches_enslave (h m : ℕ) (t : HardifTables) : Touches h t (t.enslave h m) :=
  (((touches_setMeshIface h _).trans (touches_setMesh h m _)).trans
    (touches_setStatus (by decide))).trans (touches_setPtype h _)

lemma touches_enable (h m : ℕ) (t : HardifTables) : Touches h t (t.enable h m) := by
  have h1 := touches_enslave h m t
  have h2 : ∀ t : HardifTables, Touches h t
      (if (t.dev (t.hardif h).netDev).up then t.activate h else t) := by
    intro t
    split_ifs
    · exact touches_activate h t
    · exact .refl h t
  have h3 : ∀ t : HardifTables, Touches h t (match (t.mesh m).algo with
      | .iv => t.schedule h
      | .v => t) := by
    intro t
    split
    · exact touches_schedule h t
    · exact .refl h t
  exact (h1.trans (h2 _)).trans (h3 _)

lemma touches_disable (h : ℕ) (t : HardifTables) : Touches h t (t.disable h) := by
  unfold disable
  cases hm : (t.hardif h).meshIface with
  | none => exact .refl h t
  | some m =>
    have h1 : ∀ t : HardifTables, Touches h t (t.reselect h m) := by
      intro t
      unfold reselect
      split_ifs
      · exact touches_setMesh h m _
      · exact .refl h t
    have h2 : ∀ t : HardifTables, Touches h t (t.release h m) := fun t =>
      ((touches_setStatus (by decide)).trans (touches_setMesh h m _)).trans
        (touches_setMeshIface h _)
    exact (((touches_deactivate h t).trans (touches_setPtype h _)).trans (h1 _)).trans (h2 _)

end HardifTables

end Batadv
