import BatmanAdv.HardInterface.Lifecycle

set_option relaxedAutoImplicit false
set_option autoImplicit false

/-!
# The MTU of a mesh interface over whole runs

A mesh interface must not offer an MTU that its interfaces cannot carry.  Whenever an interface
starts or stops to run, or its device changes its MTU, the MTU of the mesh interface is adjusted, to
the smaller of what the interfaces carry and a limit.  The limit is the last MTU that was set, and
the adjustment itself counts as setting the MTU: so it only goes down, until a user asks for more.

## Main definitions

* `Batadv.runningMtus` — the MTUs of the running interfaces of a mesh.
* `Batadv.MtuOk` — the MTU of a mesh interface and its `packet_size_max` are right.
* `Batadv.Lowers` — a step that keeps the MTUs right and raises none.

## Main results

* `Batadv.updateMinMtu_ok` — the adjustment makes the MTU right and does not raise it.
* `Batadv.lowers_next` — an event keeps the MTUs right; only a user raises one.
* `Batadv.mesh_mtu_carried` — the MTU of a mesh interface over whole runs.
-/

namespace Batadv

open HardifTables HardifWorld

variable {t t' t'' : HardifTables} {h m n : ℕ}

/-! ### What the MTU depends on -/

/-- The MTUs of the running interfaces of a mesh. -/
def runningMtus (m : ℕ) (t : HardifTables) : List ℕ :=
  ((t.mesh m).lower.filter t.runs).map fun h => (t.dev (t.hardif h).netDev).mtu

lemma lowerMinMtu_eq (m : ℕ) (t : HardifTables) :
    lowerMinMtu m t =
      (runningMtus m t).foldl (fun minMtu (mtu : ℕ) => min (mtu : ℤ) minMtu) INT_MAX := by
  unfold lowerMinMtu runningMtus
  rw [List.foldl_map]

/-- **The MTU of a mesh interface is right**: within the bounds, not above what the running
interfaces carry as long as they carry the smallest MTU at all, and recorded as set unless it is the
initial one; and `packet_size_max` is up to date. -/
structure MtuOk (m : ℕ) (t : HardifTables) : Prop where
  lower : ETH_MIN_MTU ≤ (t.mesh m).mtu
  upper : (t.mesh m).mtu ≤ MAX_MTU
  user : (t.mesh m).mtuSetByUser = 0 ∧ (t.mesh m).mtu = ETH_DATA_LEN ∨
    (t.mesh m).mtuSetByUser = (t.mesh m).mtu
  carried : ETH_MIN_MTU ≤ minMtuValue m t → (t.mesh m).mtu ≤ minMtuValue m t
  size : (t.mesh m).packetSizeMax = minMtuPacketSize m t ∨
    (t.mesh m).packetSizeMax = MAX_MTU ∧ runningMtus m t = []

/-- The part of it that is left when the interfaces have changed. -/
structure MtuWeak (m : ℕ) (t : HardifTables) : Prop where
  lower : ETH_MIN_MTU ≤ (t.mesh m).mtu
  upper : (t.mesh m).mtu ≤ MAX_MTU
  user : (t.mesh m).mtuSetByUser = 0 ∧ (t.mesh m).mtu = ETH_DATA_LEN ∨
    (t.mesh m).mtuSetByUser = (t.mesh m).mtu

lemma MtuOk.weak (ho : MtuOk m t) : MtuWeak m t := ⟨ho.lower, ho.upper, ho.user⟩

/-- Two tables that agree about all that matters for the MTU of a mesh interface. -/
structure SameMtu (m : ℕ) (t t' : HardifTables) : Prop where
  running : runningMtus m t' = runningMtus m t
  fragmentation : (t'.mesh m).fragmentation = (t.mesh m).fragmentation
  mtu : (t'.mesh m).mtu = (t.mesh m).mtu
  user : (t'.mesh m).mtuSetByUser = (t.mesh m).mtuSetByUser
  size : (t'.mesh m).packetSizeMax = (t.mesh m).packetSizeMax

lemma SameMtu.refl (m : ℕ) (t : HardifTables) : SameMtu m t t := ⟨rfl, rfl, rfl, rfl, rfl⟩

lemma SameMtu.trans (h1 : SameMtu m t t') (h2 : SameMtu m t' t'') : SameMtu m t t'' where
  running := h2.running.trans h1.running
  fragmentation := h2.fragmentation.trans h1.fragmentation
  mtu := h2.mtu.trans h1.mtu
  user := h2.user.trans h1.user
  size := h2.size.trans h1.size

lemma minMtuPacketSize_congr (hr : runningMtus m t' = runningMtus m t)
    (hf : (t'.mesh m).fragmentation = (t.mesh m).fragmentation) :
    minMtuPacketSize m t' = minMtuPacketSize m t := by
  simp only [minMtuPacketSize, lowerMinMtu_eq, hr, hf]

lemma minMtuValue_congr (hr : runningMtus m t' = runningMtus m t)
    (hf : (t'.mesh m).fragmentation = (t.mesh m).fragmentation) :
    minMtuValue m t' = minMtuValue m t := by
  simp only [minMtuValue, minMtuPacketSize_congr hr hf]

lemma MtuOk.congr (ho : MtuOk m t) (hs : SameMtu m t t') : MtuOk m t' where
  lower := by rw [hs.mtu]; exact ho.lower
  upper := by rw [hs.mtu]; exact ho.upper
  user := by rw [hs.mtu, hs.user]; exact ho.user
  carried := by
    rw [hs.mtu, minMtuValue_congr hs.running hs.fragmentation]
    exact ho.carried
  size := by
    rw [hs.size, hs.running, minMtuPacketSize_congr hs.running hs.fragmentation]
    exact ho.size

lemma MtuWeak.congr (ho : MtuWeak m t) (hmtu : (t'.mesh m).mtu = (t.mesh m).mtu)
    (huser : (t'.mesh m).mtuSetByUser = (t.mesh m).mtuSetByUser) : MtuWeak m t' :=
  ⟨by rw [hmtu]; exact ho.lower, by rw [hmtu]; exact ho.upper, by rw [hmtu, huser]; exact ho.user⟩

/-- The same running interfaces with the same MTUs. -/
lemma runningMtus_congr
    (hf : (t'.mesh m).lower.filter t'.runs = (t.mesh m).lower.filter t.runs)
    (hd : ∀ h ∈ (t.mesh m).lower,
      (t'.dev (t'.hardif h).netDev).mtu = (t.dev (t.hardif h).netDev).mtu) :
    runningMtus m t' = runningMtus m t := by
  unfold runningMtus
  rw [hf]
  exact List.map_congr_left fun h hmem => hd h (List.mem_filter.mp hmem).1

/-- Writing to a mesh interface, but not to the list of its interfaces. -/
lemma runningMtus_setMesh {x : MeshIf} (hx : x.lower = (t.mesh m).lower) (n : ℕ) :
    runningMtus n (t.setMesh m x) = runningMtus n t := by
  have hlower : ((t.setMesh m x).mesh n).lower = (t.mesh n).lower := by
    rw [setMesh_mesh]
    split_ifs with hn
    · rw [hn, hx]
    · rfl
  refine runningMtus_congr ?_ fun _ _ => rfl
  rw [hlower]
  rfl

lemma sameMtu_setMesh_other (x : MeshIf) (hn : n ≠ m) : SameMtu n t (t.setMesh m x) := by
  have hmesh : (t.setMesh m x).mesh n = t.mesh n := by rw [setMesh_mesh, if_neg hn]
  refine ⟨runningMtus_congr ?_ fun _ _ => rfl, ?_, ?_, ?_, ?_⟩ <;> rw [hmesh]
  rfl

lemma sameMtu_setPrimary (m : ℕ) (o : Option ℕ) (t : HardifTables) (n : ℕ) :
    SameMtu n t (t.setPrimary m o) := by
  refine ⟨runningMtus_setMesh (by rfl) n, ?_, ?_, ?_, ?_⟩ <;>
  · rw [setPrimary, setMesh_mesh]
    split <;> simp_all

/-- Writing to an object with its device, when this does not make it run or stop, or when it is
none of the interfaces of the mesh. -/
lemma sameMtu_setHardif {x : Hardif} (hdev : x.netDev = (t.hardif h).netDev)
    (hruns : x.ifStatus.running = (t.hardif h).ifStatus.running ∨ h ∉ (t.mesh n).lower) :
    SameMtu n t (t.setHardif h x) := by
  refine ⟨runningMtus_congr ?_ fun k _ => ?_, rfl, rfl, rfl, rfl⟩
  · refine List.filter_congr fun k hk => ?_
    simp only [HardifTables.runs, setHardif_hardif]
    split_ifs with hkh
    · subst hkh
      rcases hruns with hruns | hruns
      · exact hruns
      · exact absurd hk hruns
    · rfl
  · rw [setHardif_hardif]
    split_ifs with hkh
    · rw [hkh, hdev]
      rfl
    · rfl

lemma sameMtu_setStatus {status : HardIfState}
    (hruns : status.running = (t.hardif h).ifStatus.running ∨ h ∉ (t.mesh n).lower) :
    SameMtu n t (t.setStatus h status) := sameMtu_setHardif rfl hruns

/-! ### The adjustment -/

/-- What reporting the sizes does. -/
lemma hardifMinMtu_mesh (m n : ℕ) (t : HardifTables) :
    (hardifMinMtu m t).2.mesh n =
      if n = m then { t.mesh m with packetSizeMax := minMtuPacketSize m t } else t.mesh n :=
  setMesh_mesh ..

/-- Reporting the sizes changes nothing that they depend on. -/
lemma hardifMinMtu_again (m : ℕ) (t : HardifTables) :
    minMtuValue m (hardifMinMtu m t).2 = minMtuValue m t ∧
      minMtuPacketSize m (hardifMinMtu m t).2 = minMtuPacketSize m t := by
  have hr : runningMtus m (hardifMinMtu m t).2 = runningMtus m t := runningMtus_setMesh (by rfl) m
  have hf : ((hardifMinMtu m t).2.mesh m).fragmentation = (t.mesh m).fragmentation := by
    rw [hardifMinMtu_mesh, if_pos rfl]
  exact ⟨minMtuValue_congr hr hf, minMtuPacketSize_congr hr hf⟩

/-- After a report the MTU is right if it can be carried. -/
lemma MtuWeak.report (hw : MtuWeak m t)
    (hc : ETH_MIN_MTU ≤ minMtuValue m t → (t.mesh m).mtu ≤ minMtuValue m t) :
    MtuOk m (hardifMinMtu m t).2 := by
  have hmesh := hardifMinMtu_mesh m m t
  rw [if_pos rfl] at hmesh
  obtain ⟨hval, hsize⟩ := hardifMinMtu_again m t
  refine ⟨?_, ?_, ?_, ?_, .inl ?_⟩
  · rw [hmesh]
    exact hw.lower
  · rw [hmesh]
    exact hw.upper
  · rw [hmesh]
    exact hw.user
  · rw [hmesh, hval]
    exact hc
  · rw [hmesh, hsize]

/-- A mesh interface gets an MTU that its interfaces carry. -/
lemma mtuOk_set {newMtu : ℤ} (h1 : ETH_MIN_MTU ≤ newMtu) (h2 : newMtu ≤ minMtuValue m t) :
    MtuOk m ((hardifMinMtu m t).2.setMesh m
      { (hardifMinMtu m t).2.mesh m with mtu := newMtu, mtuSetByUser := newMtu }) := by
  set t1 := (hardifMinMtu m t).2 with ht1
  set x : MeshIf := { t1.mesh m with mtu := newMtu, mtuSetByUser := newMtu } with hx
  have hmesh : (t1.setMesh m x).mesh m = x := by rw [setMesh_mesh, if_pos rfl]
  have hr : runningMtus m (t1.setMesh m x) = runningMtus m t1 := runningMtus_setMesh (by rfl) m
  have hf : ((t1.setMesh m x).mesh m).fragmentation = (t1.mesh m).fragmentation := by rw [hmesh]
  obtain ⟨hval, hsize⟩ := hardifMinMtu_again m t
  have hval' := (minMtuValue_congr hr hf).trans hval
  have hsize' := (minMtuPacketSize_congr hr hf).trans hsize
  have hp : (t1.mesh m).packetSizeMax = minMtuPacketSize m t := by
    rw [ht1, hardifMinMtu_mesh, if_pos rfl]
  have hmax : minMtuValue m t ≤ MAX_MTU := min_le_right _ _
  refine ⟨?_, ?_, ?_, ?_, .inl ?_⟩
  · rw [hmesh]
    exact h1
  · rw [hmesh]
    exact h2.trans hmax
  · rw [hmesh]
    exact .inr rfl
  · rw [hmesh, hval']
    exact fun _ => h2
  · rw [hmesh, hsize']
    exact hp

/-- **The adjustment makes the MTU of a mesh interface right, and does not raise it.**

**Proof sketch.** The limit is the MTU that the mesh interface has: either it was never set and is
the initial one, which is also the limit then, or it is the last one that was set.  So the MTU is
lowered to what the interfaces carry, or stays, because it can be carried or because less than the
smallest MTU can. -/
lemma updateMinMtu_ok (hw : MtuWeak m t) :
    MtuOk m (updateMinMtu m t) ∧ ((updateMinMtu m t).mesh m).mtu ≤ (t.mesh m).mtu := by
  set t1 := (hardifMinMtu m t).2 with ht1
  have hmesh : t1.mesh m = { t.mesh m with packetSizeMax := minMtuPacketSize m t } := by
    rw [ht1, hardifMinMtu_mesh, if_pos rfl]
  have hmtu1 : (t1.mesh m).mtu = (t.mesh m).mtu := by rw [hmesh]
  obtain ⟨hval, -⟩ := hardifMinMtu_again m t
  have hlimit : (if (t1.mesh m).mtuSetByUser ≠ 0 then (t1.mesh m).mtuSetByUser else ETH_DATA_LEN) =
      (t.mesh m).mtu := by
    rw [hmesh]
    rcases hw.user with ⟨h0, hmtu⟩ | hmtu
    · simp [h0, hmtu]
    · have hpos : (t.mesh m).mtuSetByUser ≠ 0 := by
        have := hw.lower
        unfold ETH_MIN_MTU at this
        omega
      simp only [hpos, ne_eq, not_false_eq_true, if_true]
      exact hmtu
  have heq : updateMinMtu m t = devSetMtu m (min (minMtuValue m t) (t.mesh m).mtu) t1 := by
    rw [← hlimit]
    rfl
  have hweak1 : MtuWeak m t1 := hw.congr hmtu1 (by rw [hmesh])
  rw [heq, devSetMtu]
  by_cases hsame : min (minMtuValue m t) (t.mesh m).mtu = (t1.mesh m).mtu
  · rw [if_pos hsame]
    rw [hmtu1, min_eq_right_iff] at hsame
    exact ⟨hw.report fun _ => hsame, hmtu1.le⟩
  · rw [if_neg hsame]
    have hlt : minMtuValue m t < (t.mesh m).mtu := by
      rw [hmtu1, min_eq_right_iff, not_le] at hsame
      exact hsame
    rw [min_eq_left hlt.le]
    by_cases hbounds : minMtuValue m t < ETH_MIN_MTU ∨ MAX_MTU < minMtuValue m t
    · rw [if_pos hbounds]
      refine ⟨hw.report fun hge => ?_, hmtu1.le⟩
      have hmax : minMtuValue m t ≤ MAX_MTU := min_le_right _ _
      rcases hbounds with hb | hb
      · exact absurd hge (not_le.mpr hb)
      · exact absurd hmax (not_le.mpr hb)
    · rw [if_neg hbounds]
      rw [not_or, not_lt, not_lt] at hbounds
      have hgo : interfaceChangeMtu m (minMtuValue m t) t1 = (hardifMinMtu m t1).2.setMesh m
          { (hardifMinMtu m t1).2.mesh m with
            mtu := minMtuValue m t, mtuSetByUser := minMtuValue m t } := by
        unfold interfaceChangeMtu
        have hno : ¬(minMtuValue m t < ETH_MIN_MTU ∨ minMtuValue m t1 < minMtuValue m t) := by
          rw [hval]
          simpa using hbounds.1
        exact if_neg hno
      rw [hgo]
      refine ⟨mtuOk_set hbounds.1 hval.ge, ?_⟩
      rw [setMesh_mesh, if_pos rfl]
      exact hlt.le

/-- The adjustment does not touch other mesh interfaces. -/
lemma sameMtu_updateMinMtu_other (hn : n ≠ m) (t : HardifTables) :
    SameMtu n t (updateMinMtu m t) := by
  have h1 : ∀ t, SameMtu n t (hardifMinMtu m t).2 := fun t => sameMtu_setMesh_other _ hn
  have h2 : ∀ newMtu t, SameMtu n t (interfaceChangeMtu m newMtu t) := by
    intro newMtu t
    simp only [interfaceChangeMtu]
    split_ifs
    · exact h1 t
    · exact (h1 t).trans (sameMtu_setMesh_other _ hn)
  have h3 : ∀ newMtu t, SameMtu n t (devSetMtu m newMtu t) := by
    intro newMtu t
    unfold devSetMtu
    split_ifs
    · exact .refl n t
    · exact .refl n t
    · exact h2 newMtu t
  exact (h1 t).trans (h3 _ _)

/-! ### Steps that raise no MTU -/

/-- A step that keeps the MTUs right and raises none. -/
def Lowers (t t' : HardifTables) : Prop :=
  ∀ m, MtuOk m t → MtuOk m t' ∧ (t'.mesh m).mtu ≤ (t.mesh m).mtu

lemma Lowers.refl (t : HardifTables) : Lowers t t := fun _ ho => ⟨ho, le_rfl⟩

lemma Lowers.trans (h1 : Lowers t t') (h2 : Lowers t' t'') : Lowers t t'' := by
  intro m ho
  obtain ⟨ho1, hle1⟩ := h1 m ho
  obtain ⟨ho2, hle2⟩ := h2 m ho1
  exact ⟨ho2, hle2.trans hle1⟩

lemma Lowers.of_same (hs : ∀ m, SameMtu m t t') : Lowers t t' :=
  fun m ho => ⟨ho.congr (hs m), (hs m).mtu.le⟩

/-- A change of the interfaces of one mesh, with the adjustment after it. -/
lemma Lowers.adjust (m : ℕ) (hother : ∀ n, n ≠ m → SameMtu n t t')
    (hmtu : (t'.mesh m).mtu = (t.mesh m).mtu)
    (huser : (t'.mesh m).mtuSetByUser = (t.mesh m).mtuSetByUser) :
    Lowers t (updateMinMtu m t') := by
  intro n ho
  by_cases hn : n = m
  · subst hn
    obtain ⟨ho', hle⟩ := updateMinMtu_ok (ho.weak.congr hmtu huser)
    exact ⟨ho', hle.trans hmtu.le⟩
  · have hs := (hother n hn).trans (sameMtu_updateMinMtu_other hn t')
    exact ⟨ho.congr hs, hs.mtu.le⟩

/-- An interface is below its own mesh interface only. -/
lemma HardifTables.Links.not_mem_lower (hl : Links t) (hm : (t.hardif h).meshIface = some m)
    (hn : n ≠ m) : h ∉ (t.mesh n).lower := by
  rw [hl.lower, hm]
  simpa using Ne.symm hn

lemma lowers_activate (hl : Links t) (h : ℕ) : Lowers t (t.activate h) := by
  unfold HardifTables.activate
  split_ifs with hst
  · exact .refl t
  cases hm : (t.hardif h).meshIface with
  | none => exact .refl t
  | some m =>
    simp only
    set t2 := if ((t.setStatus h .toBeActivated).mesh m).primaryIf.isNone then
        (t.setStatus h .toBeActivated).setPrimary m (some h)
      else t.setStatus h .toBeActivated with ht2
    have hs2 : ∀ n, SameMtu n (t.setStatus h .toBeActivated) t2 := by
      intro n
      rw [ht2]
      split_ifs
      · exact sameMtu_setPrimary m _ _ n
      · exact .refl n _
    have h2 : Lowers t (updateMinMtu m t2) :=
      .adjust m (fun n hn => (sameMtu_setStatus (.inr (hl.not_mem_lower hm hn))).trans (hs2 n))
        (hs2 m).mtu (hs2 m).user
    refine h2.trans ?_
    -- only B.A.T.M.A.N. V goes on
    split
    · exact .refl _
    · split_ifs with hwait
      · refine .of_same fun n => sameMtu_setStatus (.inl ?_)
        rw [hwait]
        rfl
      · exact .refl _

lemma lowers_deactivate (hl : Links t) (h : ℕ) : Lowers t (t.deactivate h) := by
  unfold HardifTables.deactivate
  split_ifs with hst
  · exact .refl t
  cases hm : (t.hardif h).meshIface with
  | none => exact .refl t
  | some m =>
    exact .adjust m (fun n hn => sameMtu_setStatus (.inr (hl.not_mem_lower hm hn))) rfl rfl

lemma lowers_schedule (h : ℕ) (t : HardifTables) : Lowers t (t.schedule h) := by
  unfold HardifTables.schedule
  split_ifs with hst
  · refine .of_same fun n => sameMtu_setStatus (.inl ?_)
    rw [hst]
    rfl
  · exact .refl t

/-- An interface that is enslaved does not run yet. -/
lemma lowers_enslave (hl : Links t) (m : ℕ) (hst : (t.hardif h).ifStatus = .notInUse) :
    Lowers t (t.enslave h m) := by
  have hnot : ∀ n, h ∉ (t.mesh n).lower := by
    intro n
    have h1 := hl.status h
    rw [hst] at h1
    rw [hl.lower]
    intro hn
    rw [hn] at h1
    cases h1
  refine .of_same fun n => ?_
  unfold HardifTables.enslave
  refine ⟨runningMtus_congr ?_ fun k _ => ?_, ?_, ?_, ?_, ?_⟩
  · have hruns : ∀ k, (((((t.setMeshIface h (some m)).link h m).setStatus h .inactive).setPtype h
        true).runs k) = if k = h then false else t.runs k := by
      intro k
      simp only [HardifTables.runs, setPtype_ifStatus, setStatus_ifStatus, link_hardif,
        setMeshIface_ifStatus]
      split_ifs <;> rfl
    have hsame : ∀ l : List ℕ, h ∉ l → l.filter ((((t.setMeshIface h (some m)).link h m).setStatus h
        .inactive).setPtype h true).runs = l.filter t.runs := by
      intro l hl'
      refine List.filter_congr fun k hk => ?_
      rw [hruns, if_neg]
      rintro rfl
      exact hl' hk
    simp only [setPtype_mesh, setStatus_mesh, link_lower, setMeshIface_mesh]
    split_ifs with hn
    · rw [List.filter_append, hsame _ (hnot m), hn]
      simp [hruns]
    · exact hsame _ (hnot n)
  · simp [HardifTables.setPtype, HardifTables.setStatus, HardifTables.setMeshIface,
      HardifTables.setHardif, Function.update_apply]
    split_ifs <;> simp_all
  all_goals
    simp only [setPtype_mesh, setStatus_mesh, HardifTables.link, setMesh_mesh, setMeshIface_mesh]
    split <;> simp_all

lemma lowers_enable (hl : Links t) (m : ℕ) (hst : (t.hardif h).ifStatus = .notInUse) :
    Lowers t (t.enable h m) := by
  have h1 := lowers_enslave hl m hst
  have hl1 : Links (t.enslave h m) := hl.enslave m hst
  set t2 := if ((t.enslave h m).dev ((t.enslave h m).hardif h).netDev).up then
    (t.enslave h m).activate h else t.enslave h m with ht2
  have h2 : Lowers (t.enslave h m) t2 := by
    rw [ht2]
    split_ifs
    · exact lowers_activate hl1 h
    · exact .refl _
  refine (h1.trans h2).trans ?_
  unfold HardifTables.enable
  simp only [← ht2]
  cases (t2.mesh m).algo with
  | iv => exact lowers_schedule h t2
  | v => exact .refl t2

/-- An interface that does not run is taken from the list of its mesh. -/
lemma sameMtu_unlink (hnodup : (t.mesh m).lower.Nodup)
    (hst : (t.hardif h).ifStatus.running = false) (n : ℕ) : SameMtu n t (t.unlink h m) := by
  refine ⟨runningMtus_congr ?_ fun _ _ => rfl, ?_, ?_, ?_, ?_⟩
  · have hruns : (t.unlink h m).runs = t.runs := rfl
    rw [unlink_lower, hruns]
    split_ifs with hn
    · rw [hnodup.erase_eq_filter, List.filter_filter, hn]
      refine List.filter_congr fun k _ => ?_
      by_cases hk : k = h
      · subst hk
        simp [HardifTables.runs, hst]
      · simp [hk]
    · rfl
  all_goals
    rw [HardifTables.unlink, setMesh_mesh]
    split <;> simp_all

lemma lowers_disable (hl : Links t) (h : ℕ) : Lowers t (t.disable h) := by
  unfold HardifTables.disable
  cases hm : (t.hardif h).meshIface with
  | none => exact .refl t
  | some m =>
    have h1 := lowers_deactivate hl h
    have hl1 := hl.deactivate h
    obtain ⟨hst1, -⟩ := deactivate_frame hl hm
    set t1 := t.deactivate h
    have h2 : Lowers t1 (t1.setPtype h false) := .of_same fun n => sameMtu_setHardif rfl (.inl rfl)
    have h3 : Lowers (t1.setPtype h false) ((t1.setPtype h false).reselect h m) := by
      unfold HardifTables.reselect
      split_ifs
      · exact .of_same fun n => sameMtu_setPrimary m _ _ n
      · exact .refl _
    set t3 := (t1.setPtype h false).reselect h m with ht3
    have hst3 : (t3.hardif h).ifStatus = .inactive := by
      rw [ht3, reselect_hardif]
      simpa using hst1
    have hnodup3 : (t3.mesh m).lower.Nodup := by
      rw [ht3, reselect_lower]
      exact hl1.lowerNodup m
    have h4 : Lowers t3 (t3.setStatus h .notInUse) := by
      refine .of_same fun n => sameMtu_setStatus (.inl ?_)
      rw [hst3]
      rfl
    have h5 : Lowers (t3.setStatus h .notInUse) ((t3.setStatus h .notInUse).unlink h m) := by
      refine .of_same (sameMtu_unlink (by rw [setStatus_mesh]; exact hnodup3) ?_)
      rw [setStatus_ifStatus, if_pos rfl]
      rfl
    have h6 : Lowers ((t3.setStatus h .notInUse).unlink h m) (t3.release h m) :=
      .of_same fun n => sameMtu_setHardif rfl (.inl rfl)
    exact ((((h1.trans h2).trans h3).trans h4).trans h5).trans h6

lemma lowers_remove (hl : Links t) (hst : (t.hardif h).ifStatus ≠ .toBeRemoved) :
    Lowers t (t.remove h) := by
  set t1 : HardifTables := { t with hardifList := t.hardifList.erase h } with ht1
  have hl1 : Links t1 := hl.setList _
  have h1 : Lowers t t1 := .of_same fun n => ⟨rfl, rfl, rfl, rfl, rfl⟩
  set t2 := if (t1.hardif h).ifStatus ≠ .notInUse then t1.disable h else t1 with ht2
  have h2 : Lowers t1 t2 := by
    rw [ht2]
    split_ifs
    · exact lowers_disable hl1 h
    · exact .refl t1
  have h3 : Lowers t2 (t2.setStatus h .toBeRemoved) := by
    refine .of_same fun n => sameMtu_setStatus (.inl ?_)
    rw [ht2, remove_status hl1 hst]
    rfl
  exact (h1.trans h2).trans h3

lemma lowers_add (hl : Links t) (hL : Listed t) (d : ℕ) : Lowers t (t.add d) := by
  have hnot : ∀ n k, k ∈ (t.mesh n).lower → k ≠ t.next := by
    rintro n k hk rfl
    rw [hl.lower] at hk
    have h1 := hl.status t.next
    rw [hk, hL.fresh t.next le_rfl] at h1
    cases h1
  have hhardif : ∀ k, k ≠ t.next → (t.add d).hardif k = t.hardif k := by
    intro k hk
    simp only [HardifTables.add, setHardif_hardif, if_neg hk]
  refine .of_same fun n => ⟨runningMtus_congr ?_ fun k hk => ?_, rfl, rfl, rfl, rfl⟩
  · refine List.filter_congr fun k hk => ?_
    simp only [HardifTables.runs, hhardif k (hnot n k hk)]
  · rw [hhardif k (hnot n k hk)]
    rfl

/-! ### Events of the devices -/

/-- A device changes that is none of the devices of a mesh. -/
lemma sameMtu_dev (d : ℕ) (x : NetDev)
    (hd : ∀ k ∈ (t.mesh n).lower, (t.hardif k).netDev ≠ d ∨ x.mtu = (t.dev d).mtu) :
    SameMtu n t { t with dev := Function.update t.dev d x } := by
  refine ⟨runningMtus_congr rfl fun k hk => ?_, rfl, rfl, rfl, rfl⟩
  show (Function.update t.dev d x (t.hardif k).netDev).mtu = (t.dev (t.hardif k).netDev).mtu
  rcases hd k hk with hne | hmtu
  · rw [Function.update_of_ne hne]
  · rw [Function.update_apply]
    split_ifs with hkd
    · rw [hkd, hmtu]
    · rfl

/-- An interface of a mesh is in the list. -/
lemma HardifTables.Listed.mem_of_lower (hL : Listed t) (hl : Links t)
    (hmem : h ∈ (t.mesh m).lower) : h ∈ t.hardifList := by
  have hm := (hl.lower m h).mp hmem
  have hin := hl.status h
  rw [hm] at hin
  refine (hL.mem h).mpr ⟨?_, ?_⟩
  · by_contra hge
    rw [hL.fresh h (by omega)] at hin
    cases hin
  · intro hst
    rw [hst] at hin
    cases hin

/-- What an event of a device and the handling of it do. -/
lemma lowers_onEvent (hl : Links t) (hL : Listed t) (d : ℕ) (event : NetdevEvent)
    (hmem : h ∈ t.hardifList) (hdev : (t.hardif h).netDev = d) :
    Lowers t ((event.apply d t).onEvent h event) := by
  have hst := ((hL.mem h).mp hmem).2
  have hs := sameLinks_apply d event t
  have hup : ∀ b, Lowers t { t with dev := Function.update t.dev d { t.dev d with up := b } } :=
    fun b => .of_same fun n => sameMtu_dev d _ fun _ _ => .inr rfl
  cases event with
  | up => exact (hup true).trans (lowers_activate (hl.congr hs) h)
  | goingDown => exact lowers_deactivate hl h
  | down => exact (hup false).trans (lowers_deactivate (hl.congr hs) h)
  | unregister => exact lowers_remove hl hst
  | preTypeChange => exact lowers_remove hl hst
  | changeMtu mtu =>
    -- the device belongs to at most one mesh
    have honly : ∀ n k, k ∈ (t.mesh n).lower → (t.hardif k).netDev = d →
        (t.hardif h).meshIface = some n := by
      intro n k hk hkd
      have hkh : k = h := hL.device k h (hL.mem_of_lower hl hk) hmem (hkd.trans hdev.symm)
      rw [← hkh]
      exact (hl.lower n k).mp hk
    have hother : ∀ n, (t.hardif h).meshIface ≠ some n →
        SameMtu n t (NetdevEvent.apply d (.changeMtu mtu) t) := by
      intro n hn
      refine sameMtu_dev d _ fun k hk => .inl fun hkd => ?_
      exact hn (honly n k hk hkd)
    unfold HardifTables.onEvent
    rw [hs.hardif]
    cases hm : (t.hardif h).meshIface with
    | none =>
      refine .of_same fun n => hother n ?_
      rw [hm]
      simp
    | some m =>
      refine .adjust m (fun n hn => hother n ?_) rfl rfl
      rw [hm]
      simpa using Ne.symm hn
  | _ => exact .refl t

/-- An event of a device without an object. -/
lemma lowers_apply (hl : Links t) (hL : Listed t) (d : ℕ) (event : NetdevEvent)
    (hfree : ∀ k ∈ t.hardifList, (t.hardif k).netDev ≠ d) : Lowers t (event.apply d t) := by
  have hd : ∀ x n, SameMtu n t { t with dev := Function.update t.dev d x } := fun x n =>
    sameMtu_dev d x fun k hk => .inl (hfree k (hL.mem_of_lower hl hk))
  cases event with
  | up => exact .of_same (hd _)
  | down => exact .of_same (hd _)
  | changeMtu mtu => exact .of_same (hd _)
  | _ => exact .refl t

/-! ### Requests of a user -/

/-- A user asks for an MTU. -/
lemma mtuOk_devSetMtu (newMtu : ℤ) (ho : MtuOk m t) : MtuOk m (devSetMtu m newMtu t) := by
  unfold devSetMtu
  split_ifs with hsame hbounds
  · exact ho
  · exact ho
  · simp only [interfaceChangeMtu]
    split_ifs with hcheck
    · exact ho.weak.report ho.carried
    · rw [not_or, not_lt, not_lt] at hcheck
      exact mtuOk_set hcheck.1 hcheck.2

lemma lowers_setFragmentation (m : ℕ) (enabled : Bool) (t : HardifTables) :
    Lowers t (setFragmentation m enabled t) := by
  refine .adjust m (fun n hn => sameMtu_setMesh_other _ hn) ?_ ?_ <;>
  · rw [setMesh_mesh, if_pos rfl]

/-! ### Runs -/

/-- Whether an event is a request of a user for an MTU of this mesh interface. -/
def HardifEvent.setsMtu (m : ℕ) : HardifEvent → Bool
  | .setMtu n _ => n == m
  | _ => false

/-- The end of a mesh interface. -/
lemma lowers_destroyLoop (m : ℕ) :
    ∀ (turns : ℕ) {w : HardifWorld}, w.Inv →
      Lowers w.tables (meshifDestroyLoop m turns w).tables
  | 0, w, _ => .refl w.tables
  | turns + 1, w, hi => by
    unfold meshifDestroyLoop
    cases hlow : (w.tables.mesh m).lower with
    | nil => exact .refl w.tables
    | cons h rest =>
      have hmem : h ∈ (w.tables.mesh m).lower := by
        rw [hlow]
        exact List.mem_cons_self
      have h1 : Lowers w.tables (hardifDisableInterface h w).tables := by
        rw [(hardifDisableInterface_spec hi.links hi.counted ((hi.links.lower m h).mp hmem)).1]
        exact lowers_disable hi.links h
      exact h1.trans (lowers_destroyLoop m turns (hi.disable hmem).1)

/-- **An event keeps the MTUs right, and only a user raises one.** -/
lemma lowers_next {w : HardifWorld} (hi : w.Inv) (event : HardifEvent) (m : ℕ)
    (ho : MtuOk m w.tables) :
    MtuOk m (hardifWorldNext w event).tables ∧ (event.setsMtu m = false →
      ((hardifWorldNext w event).tables.mesh m).mtu ≤ (w.tables.mesh m).mtu) := by
  have hlowers : (∀ n mtu, event ≠ .setMtu n mtu) →
      Lowers w.tables (hardifWorldNext w event).tables := by
    intro hno
    cases event with
    | netdev d event =>
      obtain ⟨-, htab⟩ := hardIfEvent_spec hi.links hi.listed hi.counted d event
      have hs := sameLinks_apply d event w.tables
      show Lowers w.tables (hardIfEvent d event w).tables
      rcases htab with ⟨ht, hfree⟩ | ⟨h, hmem, hdev, ht⟩ | ⟨-, happly, ht⟩
      · rw [ht]
        rw [hs.list, hs.hardif] at hfree
        exact lowers_apply hi.links hi.listed d event hfree
      · rw [ht]
        rw [hs.list] at hmem
        rw [hs.hardif] at hdev
        exact lowers_onEvent hi.links hi.listed d event hmem hdev
      · rw [ht, happly]
        exact lowers_add hi.links hi.listed d
    | slaveAdd m' d linked enabled =>
      obtain ⟨-, htab⟩ := meshifSlaveAdd_spec hi.links hi.counted m' d linked enabled
      show Lowers w.tables (meshifSlaveAdd m' d linked enabled w).tables
      rcases htab with ht | ⟨h, -, hfree, ht⟩
      · rw [ht]
        exact .refl _
      · rw [ht]
        exact lowers_enable hi.links m' hfree
    | slaveDel m' d =>
      obtain ⟨-, htab⟩ := meshifSlaveDel_spec hi.links hi.counted m' d
      show Lowers w.tables (meshifSlaveDel m' d w).tables
      rcases htab with ht | ⟨h, -, ht⟩
      · rw [ht]
        exact .refl _
      · rw [ht]
        exact lowers_disable hi.links h
    | destroy m' => exact lowers_destroyLoop m' _ hi
    | setMtu n mtu => exact absurd rfl (hno n mtu)
    | setFragmentation m' enabled => exact lowers_setFragmentation m' enabled w.tables
    | ogmSchedule h ogmBuff =>
      simp only [hardifWorldNext]
      split_ifs
      · exact .refl _
      · rw [(ivOgmSchedule_spec hi.links hi.counted h ogmBuff).1]
        split_ifs
        · exact lowers_schedule h _
        · exact .refl _
    | take h =>
      simp only [hardifWorldNext]
      split_ifs
      · exact .refl _
      · rw [krefGet_tables]
        exact .refl _
    | drop h =>
      simp only [hardifWorldNext]
      split_ifs
      · exact .refl _
      · rw [krefPut_tables]
        exact .refl _
  cases event with
  | setMtu n mtu =>
    show MtuOk m (devSetMtu n mtu w.tables) ∧ (_ → _)
    by_cases hn : n = m
    · subst hn
      exact ⟨mtuOk_devSetMtu mtu ho, fun hset => by simp [HardifEvent.setsMtu] at hset⟩
    · have hs : SameMtu m w.tables (devSetMtu n mtu w.tables) := by
        unfold devSetMtu
        split_ifs
        · exact .refl m _
        · exact .refl m _
        · simp only [interfaceChangeMtu]
          split_ifs
          · exact sameMtu_setMesh_other _ (Ne.symm hn)
          · exact (sameMtu_setMesh_other _ (Ne.symm hn)).trans
              (sameMtu_setMesh_other _ (Ne.symm hn))
      exact ⟨ho.congr hs, fun _ => hs.mtu.le⟩
  | _ =>
    obtain ⟨ho', hle⟩ := hlowers (by intro n mtu; simp) m ho
    exact ⟨ho', fun _ => hle⟩

/-- The MTU of a mesh interface that has no interfaces yet. -/
lemma hardifWorldInit_mtuOk (algo : ℕ → BatAlgo) (dev : ℕ → NetDev) (m : ℕ) :
    MtuOk m (hardifWorldInit algo dev).tables where
  lower := by show ETH_MIN_MTU ≤ ETH_DATA_LEN; decide
  upper := by show ETH_DATA_LEN ≤ MAX_MTU; decide
  user := .inl ⟨rfl, rfl⟩
  carried _ := by
    show ETH_DATA_LEN ≤ min ((min INT_MAX 1280 - 20) * 16 - maxHeaderLen) MAX_MTU
    decide
  size := .inr ⟨rfl, rfl⟩

/-- **The MTU of a mesh interface over whole runs.**  In every state of every run, the MTU of a mesh
interface is within its bounds, is not above what its running interfaces carry, as long as they
carry the smallest MTU at all, and `packet_size_max` is up to date; and no event but a request of a
user raises the MTU.

**Proof sketch.** An event that changes what the interfaces of a mesh carry ends with the
adjustment, which makes the MTU right and only lowers it; all others leave it as it is. -/
theorem mesh_mtu_carried (algo : ℕ → BatAlgo) (dev : ℕ → NetDev) (events : List HardifEvent)
    (m : ℕ) :
    ∀ w ∈ Run.states hardifWorldNext (hardifWorldInit algo dev) events,
      MtuOk m w.tables ∧ ∀ event : HardifEvent, event.setsMtu m = false →
        ((hardifWorldNext w event).tables.mesh m).mtu ≤ (w.tables.mesh m).mtu := by
  intro w hw
  have h1 : w.Inv ∧ MtuOk m w.tables := Run.AllSteps.forall_mem_states
    (fun w => w.Inv ∧ MtuOk m w.tables)
    (fun w event hi _ => ⟨hi.1.next event, (lowers_next hi.1 event m hi.2).1⟩)
    ⟨hardifWorldInit_inv algo dev, hardifWorldInit_mtuOk algo dev m⟩
    (Run.AllSteps.of_forall (P := fun _ _ => True) (fun _ _ => trivial) events) w hw
  exact ⟨h1.2, fun event => (lowers_next h1.1 event m h1.2).2⟩

/-- A device that carries 1400 bytes becomes the interface of a mesh without fragmentation. -/
theorem mesh_mtu_carried_small_device :
    let w := Run.final hardifWorldNext (hardifWorldInit (fun _ => .iv) fun _ => ⟨true, 1400⟩)
      [.setFragmentation 0 false, .netdev 0 (.register true true), .slaveAdd 0 0 true true]
    (w.tables.mesh 0).mtu = 1368 ∧ MtuOk 0 w.tables ∧
      ∀ event : HardifEvent, event.setsMtu 0 = false →
        ((hardifWorldNext w event).tables.mesh 0).mtu ≤ (w.tables.mesh 0).mtu :=
  ⟨by decide, mesh_mtu_carried (fun _ => .iv) (fun _ => ⟨true, 1400⟩)
    [.setFragmentation 0 false, .netdev 0 (.register true true), .slaveAdd 0 0 true true] 0 _
    (Run.final_mem_states _ _)⟩

end Batadv
