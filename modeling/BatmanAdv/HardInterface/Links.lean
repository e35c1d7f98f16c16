import BatmanAdv.HardInterface.Tables

set_option relaxedAutoImplicit false
set_option autoImplicit false

/-!
# The links between hard interfaces and mesh interfaces

Which interface belongs to which mesh is written down four times: in the status of the interface, in
its pointer to the mesh interface, in the list of the devices below the mesh interface and, for one
of them, in the pointer to the primary interface.  The handlers keep these in step.

## Main definitions

* `Batadv.HardifTables.Links` — the links are well formed.
* `Batadv.HardifTables.Listed` — the list has one object for each device that is there.

## Main results

* `Batadv.HardifTables.Links.activate`, `.deactivate`, `.enable`, `.disable`, `.remove`, `.add` —
  the links stay well formed.
* `Batadv.HardifTables.Listed.touches`, `.remove`, `.add` — the list stays right.
-/

namespace Batadv

namespace HardifTables

variable {t t' t'' : HardifTables}

/-! ### Well-formed links -/

/-- **The links are well formed.**  An interface belongs to a mesh exactly when its status says so,
then it is below the mesh interface, has its packet handler, and may be the primary interface.  With
B.A.T.M.A.N. V no interface waits for its activation, and a mesh with an active interface has a
primary interface. -/
structure Links (t : HardifTables) : Prop where
  primary : ∀ m h, (t.mesh m).primaryIf = some h → (t.hardif h).meshIface = some m
  lower : ∀ m h, h ∈ (t.mesh m).lower ↔ (t.hardif h).meshIface = some m
  lowerNodup : ∀ m, (t.mesh m).lower.Nodup
  status : ∀ h, (t.hardif h).meshIface.isSome = (t.hardif h).ifStatus.inUse
  ptype : ∀ h, (t.hardif h).ptype = (t.hardif h).ifStatus.inUse
  v : ∀ m h, (t.mesh m).algo = .v → (t.hardif h).meshIface = some m →
    (t.hardif h).ifStatus ≠ .toBeActivated ∧
      ((t.hardif h).ifStatus = .active → (t.mesh m).primaryIf ≠ none)

/-- The list has the objects whose devices are there, one for each device. -/
structure Listed (t : HardifTables) : Prop where
  nodup : t.hardifList.Nodup
  mem : ∀ h, h ∈ t.hardifList ↔ h < t.next ∧ (t.hardif h).ifStatus ≠ .toBeRemoved
  fresh : ∀ h, t.next ≤ h → (t.hardif h).ifStatus = .notInUse
  device : ∀ h k, h ∈ t.hardifList → k ∈ t.hardifList →
    (t.hardif h).netDev = (t.hardif k).netDev → h = k

lemma Links.congr (hl : Links t) (hs : SameLinks t t') : Links t' where
  primary m h := by rw [hs.primary, hs.hardif]; exact hl.primary m h
  lower m h := by rw [hs.lower, hs.hardif]; exact hl.lower m h
  lowerNodup m := by rw [hs.lower]; exact hl.lowerNodup m
  status h := by rw [hs.hardif]; exact hl.status h
  ptype h := by rw [hs.hardif]; exact hl.ptype h
  v m h := by rw [hs.algo, hs.hardif, hs.primary]; exact hl.v m h

lemma Listed.congr (hL : Listed t) (hs : SameLinks t t') : Listed t' where
  nodup := by rw [hs.list]; exact hL.nodup
  mem h := by rw [hs.list, hs.next, hs.hardif]; exact hL.mem h
  fresh h := by rw [hs.next, hs.hardif]; exact hL.fresh h
  device h k := by rw [hs.list, hs.hardif]; exact hL.device h k

/-- The list stays right when an object that exists is changed. -/
lemma Listed.touches {h : ℕ} (hL : Listed t) (ht : Touches h t t') (hlt : h < t.next)
    (hstatus : (t.hardif h).ifStatus ≠ .toBeRemoved) : Listed t' where
  nodup := by rw [ht.list]; exact hL.nodup
  mem k := by
    rw [ht.list, ht.next, hL.mem]
    by_cases hk : k = h
    · subst hk
      exact ⟨fun _ => ⟨hlt, ht.status hstatus⟩, fun _ => ⟨hlt, hstatus⟩⟩
    · rw [ht.other k hk]
  fresh k hk := by
    rw [ht.next] at hk
    rw [ht.other k (by omega)]
    exact hL.fresh k hk
  device k k' hk hk' hdev := by
    rw [ht.list] at hk hk'
    have hnet : ∀ j, (t'.hardif j).netDev = (t.hardif j).netDev := by
      intro j
      by_cases hj : j = h
      · rw [hj, ht.netDev]
      · rw [ht.other j hj]
    rw [hnet, hnet] at hdev
    exact hL.device k k' hk hk' hdev

/-! ### The links stay well formed -/

/-- An interface of a mesh starts or stops to run; if it starts to run, the mesh has a primary
interface. -/
lemma Links.setRunning (hl : Links t) {h m : ℕ} {status : HardIfState} {o : Option ℕ}
    (hm : (t.hardif h).meshIface = some m) (hstatus : status.inUse = true)
    (hv : (t.mesh m).algo = .v → status ≠ .toBeActivated)
    (ho : o = (t.mesh m).primaryIf ∨ o = some h)
    (hprimary : status = .active → o ≠ none) :
    Links ((t.setPrimary m o).setStatus h status) where
  primary n k hk := by
    simp only [setStatus_mesh, setPrimary_primaryIf, setStatus_meshIface, setPrimary_hardif]
      at hk ⊢
    by_cases hn : n = m
    · subst hn
      rw [if_pos rfl] at hk
      rcases ho with rfl | rfl
      · exact hl.primary n k hk
      · rw [← Option.some.inj hk]
        exact hm
    · rw [if_neg hn] at hk
      exact hl.primary n k hk
  lower n k := by simpa using hl.lower n k
  lowerNodup n := by simpa using hl.lowerNodup n
  status k := by
    simp only [setStatus_meshIface, setPrimary_hardif, setStatus_ifStatus]
    split_ifs with hk
    · rw [hk, hm, hstatus]
      rfl
    · exact hl.status k
  ptype k := by
    simp only [setStatus_ptype, setPrimary_hardif, setStatus_ifStatus]
    split_ifs with hk
    · have h1 := hl.status h
      rw [hm] at h1
      rw [hk, hl.ptype, ← h1, hstatus]
      rfl
    · exact hl.ptype k
  v n k halgo hk := by
    simp only [setStatus_mesh, setPrimary_algo, setStatus_meshIface, setPrimary_hardif] at halgo hk
    simp only [setStatus_ifStatus, setStatus_mesh, setPrimary_primaryIf, setPrimary_hardif]
    by_cases hkh : k = h
    · subst hkh
      obtain rfl : m = n := Option.some.inj (hm.symm.trans hk)
      simp only [if_true]
      exact ⟨hv halgo, hprimary⟩
    · rw [if_neg hkh]
      obtain ⟨hwait, hactive⟩ := hl.v n k halgo hk
      refine ⟨hwait, fun hact => ?_⟩
      by_cases hn : n = m
      · subst hn
        rw [if_pos rfl]
        rcases ho with rfl | rfl
        · exact hactive hact
        · simp
      · rw [if_neg hn]
        exact hactive hact

/-- A mesh interface whose primary interface is written again. -/
lemma setPrimary_self (t : HardifTables) (m : ℕ) : t.setPrimary m (t.mesh m).primaryIf = t := by
  simp [setPrimary, setMesh]

/-- Writing the status twice. -/
lemma setStatus_setStatus (t : HardifTables) (h : ℕ) (a b : HardIfState) :
    (t.setStatus h a).setStatus h b = t.setStatus h b := by
  simp [setStatus, setHardif]

lemma SameLinks.setStatus (hs : SameLinks t t') (h : ℕ) (status : HardIfState) :
    SameLinks (t.setStatus h status) (t'.setStatus h status) where
  hardif := by simp only [HardifTables.setStatus, HardifTables.setHardif, hs.hardif]
  next := hs.next
  list := hs.list
  algo := hs.algo
  primary := hs.primary
  lower := hs.lower

/-- Activating an interface gives the mesh a primary interface and makes the interface wait for its
activation or, with B.A.T.M.A.N. V, active. -/
lemma activate_eq {h m : ℕ} (hm : (t.hardif h).meshIface = some m)
    (hst : (t.hardif h).ifStatus = .inactive) :
    ∃ o status, (o = (t.mesh m).primaryIf ∨ o = some h) ∧ o ≠ none ∧
      ((t.mesh m).algo = .iv ∧ status = .toBeActivated ∨
        (t.mesh m).algo = .v ∧ status = .active) ∧
      SameLinks ((t.setPrimary m o).setStatus h status) (t.activate h) := by
  set t1 := t.setStatus h .toBeActivated with ht1
  set t2 := if (t1.mesh m).primaryIf.isNone then t1.setPrimary m (some h) else t1 with ht2
  -- the primary interface that is left
  obtain ⟨o, ho, hone, ht2o⟩ : ∃ o, (o = (t.mesh m).primaryIf ∨ o = some h) ∧ o ≠ none ∧
      t2 = (t.setPrimary m o).setStatus h .toBeActivated := by
    cases hp : (t.mesh m).primaryIf with
    | none =>
      refine ⟨some h, .inr rfl, by simp, ?_⟩
      rw [ht2, ht1, setStatus_mesh, hp]
      rfl
    | some p =>
      refine ⟨some p, .inl rfl, by simp, ?_⟩
      rw [ht2, ht1, setStatus_mesh, hp, ← hp, setPrimary_self]
      simp [hp]
  have hsame := sameLinks_updateMinMtu m t2
  have halgo : ((updateMinMtu m t2).mesh m).algo = (t.mesh m).algo := by
    rw [hsame.algo, ht2o]
    simp
  unfold activate
  rw [if_neg (by simp [hst])]
  simp only [hm, ← ht1, ← ht2, halgo]
  cases halg : (t.mesh m).algo with
  | iv =>
    refine ⟨o, .toBeActivated, ho, hone, .inl ⟨rfl, rfl⟩, ?_⟩
    rw [← ht2o]
    exact hsame
  | v =>
    refine ⟨o, .active, ho, hone, .inr ⟨rfl, rfl⟩, ?_⟩
    have hwait : ((updateMinMtu m t2).hardif h).ifStatus = .toBeActivated := by
      rw [hsame.hardif, ht2o, setStatus_ifStatus, if_pos rfl]
    simp only [hwait, if_true]
    rw [← setStatus_setStatus (t.setPrimary m o) h .toBeActivated .active, ← ht2o]
    exact hsame.setStatus h .active

lemma Links.activate (hl : Links t) (h : ℕ) : Links (t.activate h) := by
  by_cases hst : (t.hardif h).ifStatus = .inactive
  · cases hm : (t.hardif h).meshIface with
    | none =>
      have h1 := hl.status h
      rw [hm, hst] at h1
      cases h1
    | some m =>
      obtain ⟨o, status, ho, hone, halgo, hsame⟩ := activate_eq hm hst
      refine (hl.setRunning hm ?_ ?_ ho fun _ => hone).congr hsame
      · rcases halgo with ⟨-, rfl⟩ | ⟨-, rfl⟩ <;> rfl
      · rcases halgo with ⟨halg, -⟩ | ⟨-, rfl⟩
        · simp [halg]
        · simp
  · unfold HardifTables.activate
    rw [if_pos hst]
    exact hl

/-- Deactivating an interface of a mesh makes it inactive, whatever it was. -/
lemma deactivate_eq (hl : Links t) {h m : ℕ} (hm : (t.hardif h).meshIface = some m) :
    SameLinks (t.setStatus h .inactive) (t.deactivate h) := by
  have h1 := hl.status h
  unfold deactivate
  split_ifs with hst
  · have hin : (t.hardif h).ifStatus = .inactive := by
      rw [hm] at h1
      cases hs : (t.hardif h).ifStatus <;> simp_all [HardIfState.inUse]
    have hself : t.setStatus h .inactive = t := by
      rw [← hin]
      simp [setStatus, setHardif]
    rw [hself]
    exact .refl t
  · simp only [hm]
    exact sameLinks_updateMinMtu m _

lemma Links.setInactive (hl : Links t) {h m : ℕ} (hm : (t.hardif h).meshIface = some m) :
    Links (t.setStatus h .inactive) := by
  have h1 : Links ((t.setPrimary m (t.mesh m).primaryIf).setStatus h .inactive) :=
    hl.setRunning hm rfl (by simp) (.inl rfl) (by simp)
  rwa [setPrimary_self] at h1

lemma Links.deactivate (hl : Links t) (h : ℕ) : Links (t.deactivate h) := by
  cases hm : (t.hardif h).meshIface with
  | none =>
    have hsame : t.deactivate h = t := by
      unfold HardifTables.deactivate
      split_ifs
      · rfl
      · simp only [hm]
    rw [hsame]
    exact hl
  | some m => exact (hl.setInactive hm).congr (deactivate_eq hl hm)

lemma Links.schedule (hl : Links t) (h : ℕ)
    (hiv : ∀ m, (t.hardif h).meshIface = some m → (t.mesh m).algo = .iv) :
    Links (t.schedule h) := by
  unfold HardifTables.schedule
  split_ifs with hst
  · cases hm : (t.hardif h).meshIface with
    | none =>
      have h1 := hl.status h
      rw [hm, hst] at h1
      cases h1
    | some m =>
      refine ⟨?_, ?_, ?_, ?_, ?_, ?_⟩
      · simpa using hl.primary
      · simpa using hl.lower
      · simpa using hl.lowerNodup
      · intro k
        simp only [setStatus_meshIface, setStatus_ifStatus]
        split_ifs with hk
        · rw [hk, hm]
          rfl
        · exact hl.status k
      · intro k
        simp only [setStatus_ptype, setStatus_ifStatus]
        split_ifs with hk
        · rw [hk, hl.ptype, hst]
          rfl
        · exact hl.ptype k
      · intro n k halgo hk
        simp only [setStatus_mesh, setStatus_meshIface] at halgo hk
        simp only [setStatus_ifStatus, setStatus_mesh]
        have hkh : k ≠ h := by
          rintro rfl
          simp [hiv n hk] at halgo
        rw [if_neg hkh]
        exact hl.v n k halgo hk
  · exact hl

/-- An interface is enslaved that belonged to no mesh. -/
lemma Links.enslave (hl : Links t) {h : ℕ} (m : ℕ) (hst : (t.hardif h).ifStatus = .notInUse) :
    Links (t.enslave h m) := by
  have hm : (t.hardif h).meshIface = none := by
    have h1 := hl.status h
    rw [hst] at h1
    exact Option.isNone_iff_eq_none.mp (by simpa [HardIfState.inUse] using h1)
  have hnot : ∀ n, h ∉ (t.mesh n).lower := by
    intro n hmem
    rw [hl.lower, hm] at hmem
    cases hmem
  unfold HardifTables.enslave
  refine ⟨?_, ?_, ?_, ?_, ?_, ?_⟩
  · intro n k hk
    simp only [setPtype_mesh, setStatus_mesh, link_primaryIf, setMeshIface_mesh, setPtype_meshIface,
      setStatus_meshIface, link_hardif, setMeshIface_meshIface] at hk ⊢
    have hkn := hl.primary n k hk
    have hkh : k ≠ h := by
      rintro rfl
      rw [hm] at hkn
      cases hkn
    rw [if_neg hkh]
    exact hkn
  · intro n k
    simp only [setPtype_mesh, setStatus_mesh, link_lower, setMeshIface_mesh, setPtype_meshIface,
      setStatus_meshIface, link_hardif, setMeshIface_meshIface]
    by_cases hk : k = h
    · subst hk
      by_cases hn : n = m
      · subst hn
        simp
      · simp [hn, hnot n, Ne.symm hn]
    · by_cases hn : n = m
      · subst hn
        simp [hk, hl.lower n k]
      · simp [hk, hn, hl.lower n k]
  · intro n
    simp only [setPtype_mesh, setStatus_mesh, link_lower, setMeshIface_mesh]
    split_ifs with hn
    · have hnm := hnot m
      exact List.nodup_append.mpr ⟨hl.lowerNodup m, by simp, by
        intro a ha b hb
        rw [List.mem_singleton] at hb
        rintro rfl
        exact hnm (hb ▸ ha)⟩
    · exact hl.lowerNodup n
  · intro k
    simp only [setPtype_meshIface, setStatus_meshIface, link_hardif, setMeshIface_meshIface,
      setPtype_ifStatus, setStatus_ifStatus, setMeshIface_ifStatus]
    split_ifs with hk
    · rfl
    · exact hl.status k
  · intro k
    simp only [setPtype_ptype, setPtype_ifStatus, setStatus_ifStatus, link_hardif, setStatus_ptype,
      setMeshIface_ptype, setMeshIface_ifStatus]
    split_ifs with hk
    · rfl
    · exact hl.ptype k
  · intro n k halgo hk
    simp only [setPtype_mesh, setStatus_mesh, link_algo, setMeshIface_mesh, setPtype_meshIface,
      setStatus_meshIface, link_hardif, setMeshIface_meshIface] at halgo hk
    simp only [setPtype_ifStatus, setStatus_ifStatus, link_hardif, setMeshIface_ifStatus,
      setPtype_mesh, setStatus_mesh, link_primaryIf, setMeshIface_mesh]
    by_cases hkh : k = h
    · simp [hkh]
    · rw [if_neg hkh] at hk ⊢
      exact hl.v n k halgo hk

/-- Activating an interface moves no interface to another mesh. -/
lemma activate_frame (hl : Links t) (h : ℕ) :
    (∀ k, ((t.activate h).hardif k).meshIface = (t.hardif k).meshIface) ∧
      (∀ n, ((t.activate h).mesh n).algo = (t.mesh n).algo) ∧
      ∀ n, ((t.activate h).mesh n).lower = (t.mesh n).lower := by
  by_cases hst : (t.hardif h).ifStatus = .inactive
  · cases hm : (t.hardif h).meshIface with
    | none =>
      have h1 := hl.status h
      rw [hm, hst] at h1
      cases h1
    | some m =>
      obtain ⟨o, status, -, -, -, hsame⟩ := activate_eq hm hst
      refine ⟨fun k => ?_, fun n => ?_, fun n => ?_⟩
      · rw [hsame.hardif]
        simp
      · rw [hsame.algo]
        simp
      · rw [hsame.lower]
        simp
  · have hself : t.activate h = t := by
      unfold HardifTables.activate
      rw [if_pos hst]
    rw [hself]
    exact ⟨fun _ => rfl, fun _ => rfl, fun _ => rfl⟩

lemma enslave_meshIface (h m : ℕ) (t : HardifTables) :
    ((t.enslave h m).hardif h).meshIface = some m := by
  simp [HardifTables.enslave]

lemma Links.enable (hl : Links t) {h : ℕ} (m : ℕ) (hst : (t.hardif h).ifStatus = .notInUse) :
    Links (t.enable h m) := by
  have h1 : Links (t.enslave h m) := hl.enslave m hst
  set t2 := if ((t.enslave h m).dev ((t.enslave h m).hardif h).netDev).up then
    (t.enslave h m).activate h else t.enslave h m with ht2
  have h2 : Links t2 := by
    rw [ht2]
    split_ifs
    · exact h1.activate h
    · exact h1
  have hm2 : (t2.hardif h).meshIface = some m := by
    rw [ht2]
    split_ifs
    · rw [(activate_frame h1 h).1, enslave_meshIface]
    · exact enslave_meshIface h m t
  unfold HardifTables.enable
  simp only [← ht2]
  cases halg : (t2.mesh m).algo with
  | iv =>
    refine h2.schedule h fun n hn => ?_
    rw [hm2] at hn
    rw [← Option.some.inj hn]
    exact halg
  | v => exact h2

/-- The interface that becomes the primary interface runs below the same mesh interface. -/
lemma firstActive_eq_some {m k : ℕ} (hk : t.firstActive m = some k) :
    k ∈ (t.mesh m).lower ∧ (t.hardif k).ifStatus = .active := by
  have hmem := List.mem_of_find?_eq_some hk
  have hact := List.find?_some hk
  exact ⟨hmem, by simpa using hact⟩

lemma firstActive_ne_none {m k : ℕ} (hmem : k ∈ (t.mesh m).lower)
    (hact : (t.hardif k).ifStatus = .active) : t.firstActive m ≠ none := by
  intro hnone
  have h1 := List.find?_eq_none.mp hnone k hmem
  simp [hact] at h1

/-- The primary interface of a mesh that an interface leaves. -/
lemma reselect_primaryIf (h m n : ℕ) (t : HardifTables) :
    ((t.reselect h m).mesh n).primaryIf =
      if n = m ∧ (t.mesh m).primaryIf = some h then t.firstActive m
      else (t.mesh n).primaryIf := by
  unfold reselect
  by_cases hp : (t.mesh m).primaryIf = some h
  · rw [if_pos hp, setPrimary_primaryIf]
    simp [hp]
  · rw [if_neg hp, if_neg (fun hn => hp hn.2)]

lemma reselect_hardif (h m : ℕ) (t : HardifTables) : (t.reselect h m).hardif = t.hardif := by
  unfold reselect
  split_ifs <;> rfl

lemma reselect_lower (h m n : ℕ) (t : HardifTables) :
    ((t.reselect h m).mesh n).lower = (t.mesh n).lower := by
  unfold reselect
  split_ifs <;> simp

lemma reselect_algo (h m n : ℕ) (t : HardifTables) :
    ((t.reselect h m).mesh n).algo = (t.mesh n).algo := by
  unfold reselect
  split_ifs <;> simp

/-- After the choice of a new primary interface, the interface that goes is none. -/
lemma reselect_primaryIf_ne (hl : Links t) {h m : ℕ} (hm : (t.hardif h).meshIface = some m)
    (hst : (t.hardif h).ifStatus = .inactive) (n : ℕ) :
    (((t.setPtype h false).reselect h m).mesh n).primaryIf ≠ some h := by
  rw [reselect_primaryIf]
  intro hk
  by_cases hn : n = m ∧ ((t.setPtype h false).mesh m).primaryIf = some h
  · rw [if_pos hn] at hk
    have hact := (firstActive_eq_some hk).2
    rw [setPtype_ifStatus, hst] at hact
    cases hact
  · rw [if_neg hn] at hk
    have hnm := hl.primary n h hk
    rw [hm] at hnm
    obtain rfl := Option.some.inj hnm
    exact hn ⟨rfl, hk⟩

/-- An inactive interface is released. -/
lemma Links.release (hl : Links t) {h m : ℕ} (hm : (t.hardif h).meshIface = some m)
    (hst : (t.hardif h).ifStatus = .inactive) :
    Links (((t.setPtype h false).reselect h m).release h m) := by
  have hne := reselect_primaryIf_ne hl hm hst
  have hactive : ∀ k, (t.setPtype h false).firstActive m = some k →
      (t.hardif k).meshIface = some m := by
    intro k hk
    obtain ⟨hmem, -⟩ := firstActive_eq_some hk
    rwa [setPtype_mesh, hl.lower] at hmem
  unfold HardifTables.release
  refine ⟨?_, ?_, ?_, ?_, ?_, ?_⟩
  · intro n k hk
    simp only [setMeshIface_mesh, unlink_primaryIf, setStatus_mesh, setMeshIface_meshIface,
      unlink_hardif, setStatus_meshIface, reselect_hardif, setPtype_meshIface] at hk ⊢
    have hkh : k ≠ h := by
      rintro rfl
      exact hne n hk
    rw [if_neg hkh]
    rw [reselect_primaryIf] at hk
    by_cases hn : n = m ∧ ((t.setPtype h false).mesh m).primaryIf = some h
    · rw [if_pos hn] at hk
      rw [hn.1]
      exact hactive k hk
    · rw [if_neg hn] at hk
      exact hl.primary n k hk
  · intro n k
    simp only [setMeshIface_mesh, unlink_lower, setStatus_mesh, reselect_lower, setPtype_mesh,
      setMeshIface_meshIface, unlink_hardif, setStatus_meshIface, reselect_hardif,
      setPtype_meshIface]
    by_cases hn : n = m
    · subst hn
      rw [if_pos rfl, (hl.lowerNodup n).mem_erase_iff, hl.lower]
      by_cases hk : k = h <;> simp [hk]
    · rw [if_neg hn, hl.lower]
      by_cases hk : k = h
      · subst hk
        simp [hm, Ne.symm hn]
      · rw [if_neg hk]
  · intro n
    simp only [setMeshIface_mesh, unlink_lower, setStatus_mesh, reselect_lower, setPtype_mesh]
    split_ifs
    · exact (hl.lowerNodup m).erase h
    · exact hl.lowerNodup n
  · intro k
    simp only [setMeshIface_meshIface, unlink_hardif, setStatus_meshIface, reselect_hardif,
      setPtype_meshIface, setMeshIface_ifStatus, setStatus_ifStatus, setPtype_ifStatus]
    split_ifs
    · rfl
    · exact hl.status k
  · intro k
    simp only [setMeshIface_ptype, unlink_hardif, setStatus_ptype, reselect_hardif,
      setPtype_ptype, setMeshIface_ifStatus, setStatus_ifStatus, setPtype_ifStatus]
    split_ifs
    · rfl
    · exact hl.ptype k
  · intro n k halgo hk
    simp only [setMeshIface_mesh, unlink_algo, setStatus_mesh, reselect_algo, setPtype_mesh,
      setMeshIface_meshIface, unlink_hardif, setStatus_meshIface, reselect_hardif,
      setPtype_meshIface] at halgo hk
    simp only [setMeshIface_ifStatus, unlink_hardif, setStatus_ifStatus, reselect_hardif,
      setPtype_ifStatus, setMeshIface_mesh, unlink_primaryIf, setStatus_mesh]
    by_cases hkh : k = h
    · rw [if_pos hkh] at hk
      cases hk
    · rw [if_neg hkh] at hk ⊢
      obtain ⟨hwait, hact⟩ := hl.v n k halgo hk
      refine ⟨hwait, fun hka => ?_⟩
      rw [reselect_primaryIf]
      split_ifs with hn
      · obtain ⟨rfl, -⟩ := hn
        refine firstActive_ne_none (k := k) ?_ ?_
        · rw [setPtype_mesh, hl.lower]
          exact hk
        · rw [setPtype_ifStatus]
          exact hka
      · exact hact hka

/-- After its deactivation an interface of a mesh is inactive. -/
lemma deactivate_frame (hl : Links t) {h m : ℕ} (hm : (t.hardif h).meshIface = some m) :
    ((t.deactivate h).hardif h).ifStatus = .inactive ∧
      ((t.deactivate h).hardif h).meshIface = some m ∧
      (∀ k, ((t.deactivate h).hardif k).ptype = (t.hardif k).ptype) ∧
      (∀ n, ((t.deactivate h).mesh n).primaryIf = (t.mesh n).primaryIf) ∧
      ∀ n, ((t.deactivate h).mesh n).lower = (t.mesh n).lower := by
  have hsame := deactivate_eq hl hm
  refine ⟨?_, ?_, fun k => ?_, fun n => ?_, fun n => ?_⟩
  · rw [hsame.hardif]
    simp
  · rw [hsame.hardif]
    simpa using hm
  · rw [hsame.hardif]
    simp
  · rw [hsame.primary]
    simp
  · rw [hsame.lower]
    simp

lemma Links.disable (hl : Links t) (h : ℕ) : Links (t.disable h) := by
  unfold HardifTables.disable
  cases hm : (t.hardif h).meshIface with
  | none => exact hl
  | some m =>
    obtain ⟨hst, hm', -⟩ := deactivate_frame hl hm
    exact (hl.deactivate h).release hm' hst

/-- What is left of an interface that was released. -/
lemma disable_hardif (hl : Links t) {h m : ℕ} (hm : (t.hardif h).meshIface = some m) :
    ((t.disable h).hardif h).ifStatus = .notInUse ∧
      ((t.disable h).mesh m).lower = (t.mesh m).lower.erase h := by
  obtain ⟨-, -, -, -, hlower⟩ := deactivate_frame hl hm
  unfold HardifTables.disable HardifTables.release
  simp only [hm]
  refine ⟨?_, ?_⟩
  · simp
  · simp [reselect_lower, hlower]

/-- An interface that belongs to no mesh gets another status that belongs to no mesh. -/
lemma Links.setUnused (hl : Links t) {h : ℕ} {status : HardIfState}
    (hst : (t.hardif h).ifStatus.inUse = false) (hstatus : status.inUse = false) :
    Links (t.setStatus h status) where
  primary n k := by simpa using hl.primary n k
  lower n k := by simpa using hl.lower n k
  lowerNodup n := by simpa using hl.lowerNodup n
  status k := by
    simp only [setStatus_meshIface, setStatus_ifStatus]
    split_ifs with hk
    · rw [hk, hl.status, hst, hstatus]
    · exact hl.status k
  ptype k := by
    simp only [setStatus_ptype, setStatus_ifStatus]
    split_ifs with hk
    · rw [hk, hl.ptype, hst, hstatus]
    · exact hl.ptype k
  v n k halgo hk := by
    simp only [setStatus_mesh, setStatus_meshIface] at halgo hk
    have hkh : k ≠ h := by
      rintro rfl
      have h1 := hl.status k
      rw [hk, hst] at h1
      cases h1
    simp only [setStatus_ifStatus, if_neg hkh, setStatus_mesh]
    exact hl.v n k halgo hk

/-- The list of the objects plays no role for the links. -/
lemma Links.setList (hl : Links t) (l : List ℕ) : Links { t with hardifList := l } :=
  ⟨hl.primary, hl.lower, hl.lowerNodup, hl.status, hl.ptype, hl.v⟩

/-- An object that is in use belongs to a mesh. -/
lemma Links.exists_mesh (hl : Links t) {h : ℕ} (hst : (t.hardif h).ifStatus.inUse = true) :
    ∃ m, (t.hardif h).meshIface = some m :=
  Option.isSome_iff_exists.mp ((hl.status h).trans hst)

/-- The status of an object that is no longer in use, when its device goes. -/
lemma remove_status (hl : Links t) {h : ℕ} (hst : (t.hardif h).ifStatus ≠ .toBeRemoved) :
    ((if (t.hardif h).ifStatus ≠ .notInUse then t.disable h else t).hardif h).ifStatus =
      .notInUse := by
  split_ifs with hin
  · obtain ⟨m, hm⟩ := hl.exists_mesh (h := h) (by
      cases hs : (t.hardif h).ifStatus <;> simp_all [HardIfState.inUse])
    exact (disable_hardif hl hm).1
  · exact not_not.mp hin

lemma Links.remove (hl : Links t) {h : ℕ} (hst : (t.hardif h).ifStatus ≠ .toBeRemoved) :
    Links (t.remove h) := by
  have h1 : Links { t with hardifList := t.hardifList.erase h } := hl.setList _
  have h2 := remove_status h1 hst
  unfold HardifTables.remove
  refine Links.setUnused ?_ ?_ rfl
  · split_ifs
    · exact h1.disable h
    · exact h1
  · simp only
    rw [h2]
    rfl

lemma Listed.remove (hL : Listed t) {h : ℕ} (hmem : h ∈ t.hardifList) : Listed (t.remove h) := by
  obtain ⟨hlt, hst⟩ := (hL.mem h).mp hmem
  set t1 : HardifTables := { t with hardifList := t.hardifList.erase h } with ht1
  set t2 := if (t1.hardif h).ifStatus ≠ .notInUse then t1.disable h else t1 with ht2
  have htouch : Touches h t1 t2 := by
    rw [ht2]
    split_ifs
    · exact touches_disable h t1
    · exact .refl h t1
  have hremove : t.remove h = t2.setStatus h .toBeRemoved := rfl
  rw [hremove]
  have hnet : ∀ k, (t2.hardif k).netDev = (t.hardif k).netDev := by
    intro k
    by_cases hk : k = h
    · rw [hk, htouch.netDev]
    · rw [htouch.other k hk]
  refine ⟨?_, fun k => ?_, fun k hk => ?_, fun k k' hk hk' hdev => ?_⟩
  · rw [setStatus_list, htouch.list]
    exact hL.nodup.erase h
  · rw [setStatus_list, htouch.list, setStatus_next, htouch.next, setStatus_ifStatus]
    simp only [ht1]
    rw [hL.nodup.mem_erase_iff, hL.mem]
    by_cases hk : k = h
    · simp [hk]
    · rw [if_neg hk, htouch.other k hk]
      simp [hk, ht1]
  · rw [setStatus_next, htouch.next] at hk
    have hkh : k ≠ h := by
      rintro rfl
      exact absurd hlt (by simpa [ht1] using hk)
    rw [setStatus_ifStatus, if_neg hkh, htouch.other k hkh]
    exact hL.fresh k hk
  · rw [setStatus_list, htouch.list] at hk hk'
    simp only [setStatus_netDev, hnet] at hdev
    exact hL.device k k' (List.mem_of_mem_erase hk) (List.mem_of_mem_erase hk') hdev

lemma Links.add (hl : Links t) (hL : Listed t) (d : ℕ) : Links (t.add d) := by
  have hfresh := hL.fresh t.next le_rfl
  have hnone : (t.hardif t.next).meshIface = none := by
    have h1 := hl.status t.next
    rw [hfresh] at h1
    exact Option.isNone_iff_eq_none.mp (by simpa [HardIfState.inUse] using h1)
  have hptype : (t.hardif t.next).ptype = false := by
    rw [hl.ptype, hfresh]
    rfl
  have hcases : ∀ k, ((t.add d).hardif k).meshIface = (t.hardif k).meshIface ∧
      ((t.add d).hardif k).ifStatus = (t.hardif k).ifStatus ∧
      ((t.add d).hardif k).ptype = (t.hardif k).ptype := by
    intro k
    simp only [HardifTables.add, setHardif_hardif]
    split_ifs with hk
    · subst hk
      exact ⟨hnone.symm, hfresh.symm, hptype.symm⟩
    · exact ⟨rfl, rfl, rfl⟩
  refine ⟨fun m k => ?_, fun m k => ?_, hl.lowerNodup, fun k => ?_, fun k => ?_, fun m k => ?_⟩
  · rw [(hcases k).1]
    exact hl.primary m k
  · rw [(hcases k).1]
    exact hl.lower m k
  · rw [(hcases k).1, (hcases k).2.1]
    exact hl.status k
  · rw [(hcases k).2.2, (hcases k).2.1]
    exact hl.ptype k
  · rw [(hcases k).1, (hcases k).2.1]
    exact hl.v m k

/-- A device that has no object gets one. -/
lemma Listed.add (hL : Listed t) {d : ℕ}
    (hd : ∀ k ∈ t.hardifList, (t.hardif k).netDev ≠ d) : Listed (t.add d) := by
  have hnot : t.next ∉ t.hardifList := fun hmem => absurd ((hL.mem _).mp hmem).1 (lt_irrefl _)
  have hlist : ∀ k, k ∈ (t.add d).hardifList ↔ k ∈ t.hardifList ∨ k = t.next := by
    intro k
    simp [HardifTables.add]
  have hself : (t.add d).hardif t.next = ⟨d, none, .notInUse, false⟩ := by
    simp only [HardifTables.add, setHardif_hardif, if_true]
  have hother : ∀ k, k ≠ t.next → (t.add d).hardif k = t.hardif k := by
    intro k hk
    simp only [HardifTables.add, setHardif_hardif, if_neg hk]
  have hin : ∀ k ∈ t.hardifList, k ≠ t.next := fun k hk he => hnot (he ▸ hk)
  refine ⟨?_, fun k => ?_, fun k hk => ?_, fun k k' hk hk' hdev => ?_⟩
  · exact List.nodup_append.mpr ⟨hL.nodup, by simp, by
      intro a ha b hb
      rw [List.mem_singleton] at hb
      exact hb ▸ hin a ha⟩
  · rw [hlist, hL.mem]
    have hnext : (t.add d).next = t.next + 1 := rfl
    rw [hnext]
    by_cases hk : k = t.next
    · rw [hk, hself]
      simp
    · rw [hother k hk]
      have hlt : k < t.next + 1 ↔ k < t.next := by omega
      simp [hk, hlt]
  · have hnext : (t.add d).next = t.next + 1 := rfl
    rw [hnext] at hk
    rw [hother k (by omega)]
    exact hL.fresh k (by omega)
  · rcases (hlist k).mp hk with hk | rfl <;> rcases (hlist k').mp hk' with hk' | rfl
    · rw [hother k (hin k hk), hother k' (hin k' hk')] at hdev
      exact hL.device k k' hk hk' hdev
    · rw [hother k (hin k hk), hself] at hdev
      exact absurd hdev (hd k hk)
    · rw [hother k' (hin k' hk'), hself] at hdev
      exact absurd hdev.symm (hd k' hk')
    · rfl

end HardifTables

end Batadv
