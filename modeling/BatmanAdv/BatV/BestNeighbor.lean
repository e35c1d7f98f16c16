import BatmanAdv.BatV.Metric
import BatmanAdv.Lib.Selection
import BatmanAdv.TranslationTable.Global

set_option relaxedAutoImplicit false
set_option autoImplicit false

/-!
# The best neighbour of an originator (`bat_v.c`, `originator.c`, `translation-table.c`)

The routing algorithm compares two neighbours by the difference of their costs.  With it
`originator.c` looks for the best neighbour after others were purged, and `translation-table.c` for
the best of the originators that announce a client.  The difference is an `int`, and wraps.

## Main definitions

* `Batadv.vNeighCmp`, `Batadv.findBestNeighbor`, `Batadv.transtableBestOrig` — the functions of
  these names.
* `Batadv.ComparesCosts`, `Batadv.CheapestNeighbor`, `Batadv.CheapestOrig` — what they should do.

## Main results

* `Batadv.comparesCosts_iff` — the comparison is that of the costs if and only if these are close.
* `Batadv.best_neighbor_cheapest_iff` — so the cheapest is found.
-/

namespace Batadv

variable {δ : Type*}

/-! ### The functions -/

/-- `batadv_v_neigh_cmp`; the `int`s of the code wrap. -/
def vNeighCmp (neigh1 : NeighNode) (ifOutgoing1 : IfKey) (neigh2 : NeighNode)
    (ifOutgoing2 : IfKey) : ℤ :=
  match neigh1.ifinfoList.get ifOutgoing1 with
  | none => 0
  | some ifinfo1 =>
    match neigh2.ifinfoList.get ifOutgoing2 with
    | none => 0
    | some ifinfo2 => (ifinfo2.airtimeCost - ifinfo1.airtimeCost).toInt

/-- `batadv_find_best_neighbor` with `bao->neigh.cmp`; `kref` tells which neighbours are not being
freed. -/
def findBestNeighbor (cmp : NeighNode → IfKey → NeighNode → IfKey → ℤ) (kref : NeighKey → Bool)
    (orig : OrigNode δ) (ifOutgoing : IfKey) : Option (NeighKey × NeighNode) :=
  orig.neighList.foldl
    (fun best neigh =>
      if best.any fun best => cmp neigh.2 ifOutgoing best.2 ifOutgoing ≤ 0 then best
      else if !kref neigh.1 then best
      else some neigh)
    none

/-- `batadv_orig_router_get` for an originator that is known by its address. -/
def origRouter (bat : BatPriv δ) (addr : EthAddr) (ifOutgoing : IfKey) : Option NeighNode :=
  (origHashFind bat addr).bind fun orig =>
    (origRouterGet orig ifOutgoing).bind fun key => orig.neighList.get key

/-- `batadv_transtable_best_orig` with `bao->neigh.cmp`: the entry, and the router to it. -/
def transtableBestOrig (cmp : NeighNode → IfKey → NeighNode → IfKey → ℤ) (bat : BatPriv δ)
    (ttGlobalEntry : TtGlobalEntry) : Option (TtOrigListEntry × NeighNode) :=
  ttGlobalEntry.origList.foldl
    (fun best origEntry =>
      match origRouter bat origEntry.origNode none with
      | none => best
      | some router =>
        if best.any fun best => cmp router none best.2 none ≤ 0 then best
        else some (origEntry, router))
    none

/-! ### What they should do -/

/-- The cost by way of a neighbour. -/
def NeighNode.cost (neigh : NeighNode) (ifOutgoing : IfKey) : Option U32 :=
  (neigh.ifinfoList.get ifOutgoing).map NeighIfinfo.airtimeCost

/-- **The comparison is that of the costs**, of any two of the neighbours; so it is a total
preorder on them. -/
structure ComparesCosts (neighs : List NeighNode) (ifOutgoing : IfKey) : Prop where
  exact : ∀ a ∈ neighs, ∀ b ∈ neighs, ∀ ca ∈ a.cost ifOutgoing, ∀ cb ∈ b.cost ifOutgoing,
    (0 < vNeighCmp a ifOutgoing b ifOutgoing ↔ ca < cb) ∧
      (vNeighCmp a ifOutgoing b ifOutgoing < 0 ↔ cb < ca) ∧
      (vNeighCmp a ifOutgoing b ifOutgoing = 0 ↔ ca = cb)
  total : ∀ a ∈ neighs, ∀ b ∈ neighs,
    0 ≤ vNeighCmp a ifOutgoing b ifOutgoing ∨ 0 ≤ vNeighCmp b ifOutgoing a ifOutgoing
  trans : ∀ a ∈ neighs, ∀ b ∈ neighs, ∀ c ∈ neighs,
    0 ≤ vNeighCmp a ifOutgoing b ifOutgoing → 0 ≤ vNeighCmp b ifOutgoing c ifOutgoing →
      0 ≤ vNeighCmp a ifOutgoing c ifOutgoing

/-- **The neighbour that is found is a cheapest one** of those that are not being freed, and one is
found if there is one. -/
def CheapestNeighbor (orig : OrigNode δ) (ifOutgoing : IfKey) : Prop :=
  ∀ kref : NeighKey → Bool,
    match findBestNeighbor vNeighCmp kref orig ifOutgoing with
    | none => ∀ neigh ∈ orig.neighList, kref neigh.1 = false
    | some best => best ∈ orig.neighList ∧ kref best.1 = true ∧
      ∀ neigh ∈ orig.neighList, kref neigh.1 = true →
        ∀ c ∈ neigh.2.cost ifOutgoing, ∀ c' ∈ best.2.cost ifOutgoing, c' ≤ c

/-- The originators of an entry to which there is a router, with it. -/
def ttRouters (bat : BatPriv δ) (ttGlobalEntry : TtGlobalEntry) :
    List (TtOrigListEntry × NeighNode) :=
  ttGlobalEntry.origList.filterMap fun origEntry =>
    (origRouter bat origEntry.origNode none).map fun router => (origEntry, router)

/-- **The originator that is found is a cheapest one** of those to which there is a router, and one
is found if there is one. -/
def CheapestOrig (bat : BatPriv δ) (ttGlobalEntry : TtGlobalEntry) : Prop :=
  match transtableBestOrig vNeighCmp bat ttGlobalEntry with
  | none => ttRouters bat ttGlobalEntry = []
  | some best => best ∈ ttRouters bat ttGlobalEntry ∧
    ∀ other ∈ ttRouters bat ttGlobalEntry,
      ∀ c ∈ other.2.cost none, ∀ c' ∈ best.2.cost none, c' ≤ c

/-- The costs differ by less than `2 ^ 31`. -/
def CostsClose (neighs : List NeighNode) (ifOutgoing : IfKey) : Prop :=
  ∀ a ∈ neighs, ∀ b ∈ neighs, ∀ ca ∈ a.cost ifOutgoing, ∀ cb ∈ b.cost ifOutgoing,
    cb.toNat < ca.toNat + 2 ^ 31

/-- Each of the neighbours has a record for the interface. -/
def HaveIfinfo (neighs : List NeighNode) (ifOutgoing : IfKey) : Prop :=
  ∀ neigh ∈ neighs, (neigh.ifinfoList.get ifOutgoing).isSome

/-! ### The comparison -/

/-- The wrapping difference compares two costs. -/
lemma toInt_sub_exact_iff (ca cb : U32) :
    ((0 < (cb - ca).toInt ↔ ca < cb) ∧ ((cb - ca).toInt < 0 ↔ cb < ca) ∧
      ((cb - ca).toInt = 0 ↔ ca = cb)) ↔
        cb.toNat < ca.toNat + 2 ^ 31 ∧ ca.toNat ≤ cb.toNat + 2 ^ 31 := by
  have ha := ca.isLt
  have hb := cb.isLt
  rw [BitVec.lt_def, BitVec.lt_def, ← BitVec.toNat_inj, BitVec.toInt_eq_toNat_cond,
    BitVec.toNat_sub]
  split <;> omega

section Compare

variable {neighs : List NeighNode} {ifOutgoing : IfKey}

lemma vNeighCmp_eq {a b : NeighNode} {ca cb : U32} (ha : ca ∈ a.cost ifOutgoing)
    (hb : cb ∈ b.cost ifOutgoing) :
    vNeighCmp a ifOutgoing b ifOutgoing = (cb - ca).toInt := by
  obtain ⟨ifinfo1, h1, rfl⟩ := Option.map_eq_some_iff.1 ha
  obtain ⟨ifinfo2, h2, rfl⟩ := Option.map_eq_some_iff.1 hb
  rw [vNeighCmp, h1]
  simp only [h2]

lemma HaveIfinfo.exists_cost (h : HaveIfinfo neighs ifOutgoing) {neigh : NeighNode}
    (hmem : neigh ∈ neighs) : ∃ c, c ∈ neigh.cost ifOutgoing := by
  obtain ⟨ifinfo, hget⟩ := Option.isSome_iff_exists.1 (h neigh hmem)
  exact ⟨ifinfo.airtimeCost, by simp [NeighNode.cost, hget]⟩

/-- **The comparison is that of the costs** if and only if these are close. -/
theorem comparesCosts_iff (hinfo : HaveIfinfo neighs ifOutgoing) :
    ComparesCosts neighs ifOutgoing ↔ CostsClose neighs ifOutgoing := by
  constructor
  · intro h a ha b hb ca hca cb hcb
    have hexact := h.exact a ha b hb ca hca cb hcb
    rw [vNeighCmp_eq hca hcb, toInt_sub_exact_iff] at hexact
    exact hexact.1
  · intro hclose
    have hexact : ∀ a ∈ neighs, ∀ b ∈ neighs, ∀ ca ∈ a.cost ifOutgoing, ∀ cb ∈ b.cost ifOutgoing,
        (0 < vNeighCmp a ifOutgoing b ifOutgoing ↔ ca < cb) ∧
          (vNeighCmp a ifOutgoing b ifOutgoing < 0 ↔ cb < ca) ∧
          (vNeighCmp a ifOutgoing b ifOutgoing = 0 ↔ ca = cb) := by
      intro a ha b hb ca hca cb hcb
      rw [vNeighCmp_eq hca hcb, toInt_sub_exact_iff]
      exact ⟨hclose a ha b hb ca hca cb hcb, (hclose b hb a ha cb hcb ca hca).le⟩
    -- a neighbour compares as well or better if its cost is not higher
    have hnonneg : ∀ a ∈ neighs, ∀ b ∈ neighs, ∀ ca ∈ a.cost ifOutgoing,
        ∀ cb ∈ b.cost ifOutgoing, 0 ≤ vNeighCmp a ifOutgoing b ifOutgoing ↔ ca ≤ cb := by
      intro a ha b hb ca hca cb hcb
      rw [← not_lt, (hexact a ha b hb ca hca cb hcb).2.1, BitVec.not_lt]
    refine ⟨hexact, fun a ha b hb => ?_, fun a ha b hb c hc hab hbc => ?_⟩
    · obtain ⟨ca, hca⟩ := hinfo.exists_cost ha
      obtain ⟨cb, hcb⟩ := hinfo.exists_cost hb
      rw [hnonneg a ha b hb ca hca cb hcb, hnonneg b hb a ha cb hcb ca hca]
      exact BitVec.le_total ca cb
    · obtain ⟨ca, hca⟩ := hinfo.exists_cost ha
      obtain ⟨cb, hcb⟩ := hinfo.exists_cost hb
      obtain ⟨cc, hcc⟩ := hinfo.exists_cost hc
      rw [hnonneg a ha b hb ca hca cb hcb] at hab
      rw [hnonneg b hb c hc cb hcb cc hcc] at hbc
      rw [hnonneg a ha c hc ca hca cc hcc]
      exact BitVec.le_trans hab hbc

/-- So it is on fewer neighbours. -/
lemma ComparesCosts.mono {neighs' : List NeighNode} (h : ComparesCosts neighs ifOutgoing)
    (hsub : ∀ neigh ∈ neighs', neigh ∈ neighs) : ComparesCosts neighs' ifOutgoing :=
  ⟨fun a ha b hb => h.exact a (hsub a ha) b (hsub b hb),
    fun a ha b hb => h.total a (hsub a ha) b (hsub b hb),
    fun a ha b hb c hc => h.trans a (hsub a ha) b (hsub b hb) c (hsub c hc)⟩

end Compare

/-! ### The loops -/

/-- Both loops keep a best one of their candidates. -/
lemma foldl_cmp_eq {ι : Type} (neigh : ι → NeighNode) (ifOutgoing : IfKey) (l : List ι) :
    l.foldl (fun best i =>
        if best.any fun best => vNeighCmp (neigh i) ifOutgoing (neigh best) ifOutgoing ≤ 0
        then best else some i) none =
      Selection.best (fun i j => 0 < vNeighCmp (neigh i) ifOutgoing (neigh j) ifOutgoing) l := by
  unfold Selection.best
  congr 1
  funext best i
  cases best with
  | none => rfl
  | some j =>
    by_cases hcmp : vNeighCmp (neigh i) ifOutgoing (neigh j) ifOutgoing ≤ 0
    · simp [Selection.keepBest, hcmp, not_lt.2 hcmp]
    · simp [Selection.keepBest, hcmp, not_le.1 hcmp]

/-- **What the loops keep** is a cheapest candidate, where the comparison is that of the costs. -/
lemma cheapest_of_comparesCosts {ι : Type} (neigh : ι → NeighNode) {ifOutgoing : IfKey}
    {l : List ι} (hinfo : HaveIfinfo (l.map neigh) ifOutgoing)
    (h : ComparesCosts (l.map neigh) ifOutgoing) :
    match l.foldl (fun best i =>
        if best.any fun best => vNeighCmp (neigh i) ifOutgoing (neigh best) ifOutgoing ≤ 0
        then best else some i) none with
    | none => l = []
    | some best => best ∈ l ∧ ∀ i ∈ l, ∀ c ∈ (neigh i).cost ifOutgoing,
      ∀ c' ∈ (neigh best).cost ifOutgoing, c' ≤ c := by
  have hkey (i : ι) (c : U32) (hc : c ∈ (neigh i).cost ifOutgoing) :
      ((neigh i).cost ifOutgoing).getD 0 = c := by
    rw [Option.mem_def.1 hc]
    rfl
  have hspec := Selection.best_spec (l := l)
    (fun i => (((neigh i).cost ifOutgoing).getD 0).toNat)
    (fun i j => 0 < vNeighCmp (neigh i) ifOutgoing (neigh j) ifOutgoing) fun i hi j hj => by
      obtain ⟨ci, hci⟩ := hinfo.exists_cost (List.mem_map_of_mem hi)
      obtain ⟨cj, hcj⟩ := hinfo.exists_cost (List.mem_map_of_mem hj)
      rw [decide_eq_true_iff, hkey i ci hci, hkey j cj hcj, ← BitVec.lt_def]
      exact (h.exact _ (List.mem_map_of_mem hi) _ (List.mem_map_of_mem hj) ci hci cj hcj).1
  rw [foldl_cmp_eq]
  split <;> rename_i heq <;> rw [heq] at hspec
  · exact hspec
  · refine ⟨hspec.1, fun i hi c hc c' hc' => ?_⟩
    have hle := hspec.2 i hi
    rwa [hkey _ c hc, hkey _ c' hc', ← BitVec.le_def] at hle

/-- `batadv_find_best_neighbor` keeps a best one of the neighbours that are not being freed. -/
lemma findBestNeighbor_eq (kref : NeighKey → Bool) (orig : OrigNode δ) (ifOutgoing : IfKey) :
    findBestNeighbor vNeighCmp kref orig ifOutgoing =
      (orig.neighList.filter fun neigh => kref neigh.1).foldl (fun best neigh =>
        if best.any fun best => vNeighCmp neigh.2 ifOutgoing best.2 ifOutgoing ≤ 0
        then best else some neigh) none := by
  rw [List.foldl_filter, findBestNeighbor]
  congr 1
  funext best neigh
  cases kref neigh.1 <;> simp

/-- `batadv_transtable_best_orig` keeps a best one of the originators to which there is a router. -/
lemma transtableBestOrig_eq (bat : BatPriv δ) (ttGlobalEntry : TtGlobalEntry) :
    transtableBestOrig vNeighCmp bat ttGlobalEntry =
      (ttRouters bat ttGlobalEntry).foldl (fun best other =>
        if best.any fun best => vNeighCmp other.2 none best.2 none ≤ 0
        then best else some other) none := by
  rw [ttRouters, List.foldl_filterMap, transtableBestOrig]
  congr 1
  funext best origEntry
  cases origRouter bat origEntry.origNode none <;> rfl

/-- **The cheapest is found**: the comparison is that of the costs, so that a cheapest neighbour of
an originator and a cheapest originator of a client are found, if and only if the costs of the
neighbours, and those of the routers, differ by less than `2 ^ 31`. -/
theorem best_neighbor_cheapest_iff (orig : OrigNode δ) (ifOutgoing : IfKey) (bat : BatPriv δ)
    (ttGlobalEntry : TtGlobalEntry)
    (hinfo : HaveIfinfo (orig.neighList.map Prod.snd) ifOutgoing)
    (hrouters : HaveIfinfo ((ttRouters bat ttGlobalEntry).map Prod.snd) none) :
    ((ComparesCosts (orig.neighList.map Prod.snd) ifOutgoing ∧ CheapestNeighbor orig ifOutgoing) ∧
      ComparesCosts ((ttRouters bat ttGlobalEntry).map Prod.snd) none ∧
        CheapestOrig bat ttGlobalEntry) ↔
      CostsClose (orig.neighList.map Prod.snd) ifOutgoing ∧
        CostsClose ((ttRouters bat ttGlobalEntry).map Prod.snd) none := by
  rw [← comparesCosts_iff hinfo, ← comparesCosts_iff hrouters]
  refine ⟨fun h => ⟨h.1.1, h.2.1⟩, fun h => ⟨⟨h.1, fun kref => ?_⟩, h.2, ?_⟩⟩
  · have hsub : ∀ neigh ∈ (orig.neighList.filter fun neigh => kref neigh.1).map Prod.snd,
        neigh ∈ orig.neighList.map Prod.snd :=
      (List.filter_sublist.map Prod.snd).subset
    have hcheapest := cheapest_of_comparesCosts Prod.snd
      (fun neigh hneigh => hinfo neigh (hsub neigh hneigh)) (h.1.mono hsub)
    rw [findBestNeighbor_eq]
    split <;> rename_i heq <;> rw [heq] at hcheapest
    · simpa [List.filter_eq_nil_iff] using hcheapest
    · simp only [List.mem_filter] at hcheapest
      exact ⟨hcheapest.1.1, hcheapest.1.2, fun neigh hneigh hkref =>
        hcheapest.2 neigh ⟨hneigh, hkref⟩⟩
  · have hcheapest := cheapest_of_comparesCosts Prod.snd hrouters h.2
    rw [CheapestOrig, transtableBestOrig_eq]
    split <;> rename_i heq <;> rw [heq] at hcheapest <;> exact hcheapest

/-- An originator with two neighbours, by which it is reached at these costs. -/
def twoNeighbors (cost1 cost2 : U32) : OrigNode Unit where
  orig := 0x020000000009
  lastSeen := 0
  neighList := [(⟨0x020000000001, 1⟩, ⟨0x020000000009, 0, [(none, ⟨cost1, 1, 50⟩)]⟩),
    (⟨0x020000000002, 1⟩, ⟨0x020000000009, 0, [(none, ⟨cost2, 1, 50⟩)]⟩)]
  ifinfoList := [(none, ⟨some ⟨0x020000000002, 1⟩, 1, 50, 1, 0⟩)]
  tvlv := ⟨128, 100, 1, ()⟩

/-- Another originator, that is reached by one of them. -/
def oneNeighbor (cost : U32) : OrigNode Unit where
  orig := 0x02000000000A
  lastSeen := 0
  neighList := [(⟨0x020000000001, 1⟩, ⟨0x02000000000A, 0, [(none, ⟨cost, 1, 50⟩)]⟩)]
  ifinfoList := [(none, ⟨some ⟨0x020000000001, 1⟩, 1, 50, 1, 0⟩)]
  tvlv := ⟨128, 100, 1, ()⟩

/-- A node that knows of both. -/
def twoOrigs : BatPriv Unit :=
  ⟨⟨128, 100, 1, 15⟩, [],
    [(0x020000000009, twoNeighbors 1000 500), (0x02000000000A, oneNeighbor 800)], []⟩

/-- A client that both of them announce. -/
def twiceAnnounced : TtGlobalEntry :=
  ⟨0x020000000007, 0, 0, 0, 0, [⟨0x02000000000A, 1, 0⟩, ⟨0x020000000009, 1, 0⟩], 2⟩

/-- The routers to them are the second neighbour of the one and the only one of the other. -/
lemma ttRouters_twoOrigs : ttRouters twoOrigs twiceAnnounced =
    [(⟨0x02000000000A, 1, 0⟩, ⟨0x02000000000A, 0, [(none, ⟨800, 1, 50⟩)]⟩),
      (⟨0x020000000009, 1, 0⟩, ⟨0x020000000009, 0, [(none, ⟨500, 1, 50⟩)]⟩)] := by
  decide

/-- The neighbour and the originator of cost 500 are found. -/
theorem best_neighbor_cheapest_iff_two :
    (transtableBestOrig vNeighCmp twoOrigs twiceAnnounced).map (fun best => best.1.origNode) =
        some 0x020000000009 ∧
      CheapestNeighbor (twoNeighbors 1000 500) none ∧ CheapestOrig twoOrigs twiceAnnounced := by
  have h := (best_neighbor_cheapest_iff (twoNeighbors 1000 500) none twoOrigs twiceAnnounced
    (by simp [HaveIfinfo, twoNeighbors, Table.get_cons])
    (by simp [HaveIfinfo, ttRouters_twoOrigs, Table.get_cons])).2
    ⟨by simp [CostsClose, twoNeighbors, NeighNode.cost, Table.get_cons],
      by simp [CostsClose, ttRouters_twoOrigs, NeighNode.cost, Table.get_cons]⟩
  exact ⟨by decide, h.1.2, h.2.2⟩

/-- A link that cannot be used at all is preferred to one with a cost of 1000. -/
theorem best_neighbor_not_cheapest :
    HaveIfinfo ((twoNeighbors 1000 AIRTIME_MAX_VALUE).neighList.map Prod.snd) none ∧
      (findBestNeighbor vNeighCmp (fun _ => true) (twoNeighbors 1000 AIRTIME_MAX_VALUE) none).map
        (fun best => best.2.cost none) = some (some AIRTIME_MAX_VALUE) ∧
      ¬CheapestNeighbor (twoNeighbors 1000 AIRTIME_MAX_VALUE) none := by
  have hbest : findBestNeighbor vNeighCmp (fun _ => true) (twoNeighbors 1000 AIRTIME_MAX_VALUE)
      none = some (⟨0x020000000002, 1⟩,
        ⟨0x020000000009, 0, [(none, ⟨AIRTIME_MAX_VALUE, 1, 50⟩)]⟩) := by
    decide
  refine ⟨by simp [HaveIfinfo, twoNeighbors, Table.get_cons], by rw [hbest]; rfl, fun h => ?_⟩
  have hcheapest := h fun _ => true
  rw [hbest] at hcheapest
  have hle : AIRTIME_MAX_VALUE ≤ 1000 :=
    hcheapest.2.2 (⟨0x020000000001, 1⟩, ⟨0x020000000009, 0, [(none, ⟨1000, 1, 50⟩)]⟩)
      List.mem_cons_self rfl 1000 rfl AIRTIME_MAX_VALUE rfl
  exact absurd hle (by decide)

end Batadv
