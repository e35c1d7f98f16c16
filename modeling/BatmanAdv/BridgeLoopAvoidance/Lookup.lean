import BatmanAdv.BridgeLoopAvoidance.Resync

set_option relaxedAutoImplicit false
set_option autoImplicit false

/-!
# Gateways that are found

A gateway is looked up in the bucket that is computed from its address and its VLAN.  When the
address of the primary interface changes, the own gateways get the new address where they are: they
stay in the buckets of the old one, and nothing is compared with what is in the table already.

## Main definitions

* `Batadv.BlaPriv.Located` — every gateway is in its bucket, and claims refer to gateways in the
  hash table.
* `Batadv.BlaPriv.Findable` — what this means for the lookups and for the answer to a request.
* `Batadv.BlaEvent.KeepsBuckets` — a change of the address that does no harm.

## Main results

* `Batadv.BlaPriv.Located.step` — every other step keeps the gateways where they are found.
* `Batadv.bla_findable_iff` — the gateways are found in every state of a run exactly if every change
  of the address keeps them in their buckets and apart.
-/

namespace Batadv

variable {env : BlaEnv}

/-! ### Functions that keep the gateways in the hash table -/

/-- The gateways in the hash table are what they were, and no claim has got another one. -/
structure BlaPriv.Within (s s' : BlaPriv) : Prop where
  faces : s'.faces = s.faces
  owners : s'.claims.map BlaClaim.gwKey ⊆ s.claims.map BlaClaim.gwKey

lemma BlaPriv.Within.refl (s : BlaPriv) : s.Within s := ⟨rfl, List.Subset.refl _⟩

lemma BlaPriv.Within.trans {s s' s'' : BlaPriv} (h : s.Within s') (h' : s'.Within s'') :
    s.Within s'' :=
  ⟨h'.faces.trans h.faces, List.Subset.trans h'.owners h.owners⟩

/-- Functions that leave the objects alone. -/
lemma BlaPriv.Within.of_eq {s s' : BlaPriv} (hgws : s'.backboneGws = s.backboneGws)
    (hclaims : s'.claims = s.claims) : s.Within s' := by
  constructor
  · unfold BlaPriv.faces
    rw [hgws]
  · rw [hclaims]
    exact List.Subset.refl _

/-- Writing to a gateway what it is not looked up by. -/
lemma BlaPriv.Within.updateGw (s : BlaPriv) {p : ℕ} {f : BlaBackboneGw → BlaBackboneGw}
    (hf : ∀ g, (f g).face = g.face) : s.Within (s.updateGw p f) :=
  ⟨BlaPriv.faces_updateGw hf, List.Subset.refl _⟩

/-- Writing to a claim what leaves it with its gateway. -/
lemma BlaPriv.Within.updateClaim (s : BlaPriv) {p : ℕ} {f : BlaClaim → BlaClaim}
    (hf : ∀ c, (f c).gwKey = c.gwKey) : s.Within (s.updateClaim p f) := by
  refine ⟨rfl, ?_⟩
  have howners : (s.updateClaim p f).claims.map BlaClaim.gwKey = s.claims.map BlaClaim.gwKey :=
    Heap.map_modify fun c _ _ => hf c
  rw [howners]
  exact List.Subset.refl _

lemma BlaPriv.Within.backboneGwGet (s : BlaPriv) (p : ℕ) : s.Within (backboneGwGet s p) :=
  BlaPriv.Within.updateGw s fun _ => rfl

lemma BlaPriv.Within.claimGet (s : BlaPriv) (p : ℕ) : s.Within (claimGet s p) :=
  BlaPriv.Within.updateClaim s fun _ => rfl

lemma BlaPriv.Within.claimHashDel (s : BlaPriv) (p : ℕ) : s.Within (claimHashDel s p) :=
  BlaPriv.Within.updateClaim s fun _ => rfl

/-- Dropping a reference to a claim gives no claim another gateway. -/
lemma owners_claimPut (s : BlaPriv) (p : ℕ) :
    (claimPut s p).claims.map BlaClaim.gwKey ⊆ s.claims.map BlaClaim.gwKey := by
  unfold claimPut
  cases hget : s.claim? p with
  | none => exact List.Subset.refl _
  | some c =>
    dsimp only
    split_ifs
    · unfold claimRelease
      rw [claims_backboneGwPut]
      exact List.map_subset _ List.filter_sublist.subset
    · refine (BlaPriv.Within.updateClaim s ?_).owners
      exact fun c => rfl

namespace BlaPriv.Inv

variable {s : BlaPriv} {G C : List ℕ} {d : ℕ → U16} {p : ℕ}

lemma within_backboneGwPut (h : s.Inv (p :: G) C d) : s.Within (Batadv.backboneGwPut s p) := by
  refine ⟨h.faces_backboneGwPut, ?_⟩
  rw [claims_backboneGwPut]
  exact List.Subset.refl _

lemma within_claimPut (h : s.Inv G (p :: C) d) : s.Within (Batadv.claimPut s p) :=
  ⟨h.faces_claimPut, owners_claimPut s p⟩

/-- `batadv_bla_del_claim`. -/
lemma within_delClaim (h : s.Inv G C fun _ => 0) (mac : EthAddr) (vid : U16) :
    s.Within (blaDelClaim s mac vid) := by
  unfold blaDelClaim
  cases hfind : claimHashFind s mac vid with
  | none => exact BlaPriv.Within.refl s
  | some claim =>
    obtain ⟨hmem, hhashed, -, -⟩ := claimHashFind_eq_some hfind
    have hget := h.claimGet (List.mem_map_of_mem hmem)
    have hdel := hget.claimHashDel (Heap.mem_modify_self hmem) hhashed
    have hput := hdel.within_claimPut.trans hdel.claimPut.within_claimPut
    exact (BlaPriv.Within.claimGet s claim.ptr).trans
      ((BlaPriv.Within.claimHashDel _ claim.ptr).trans hput)

/-- `batadv_bla_del_backbone_claims`. -/
lemma within_delBackboneClaims (h : s.Inv G [] fun _ => 0) (gw : ℕ) :
    s.Within (blaDelBackboneClaims s gw) := by
  obtain ⟨-, hclaims, hfaces⟩ := h.delBackboneClaims gw
  refine ⟨hfaces, ?_⟩
  rw [hclaims]
  exact List.map_subset _ List.filter_sublist.subset

/-- `batadv_bla_answer_request`. -/
lemma within_answerRequest (h : s.Inv G C d) (env : BlaEnv) (primaryIf : EthAddr) (vid : U16) :
    s.Within (blaAnswerRequest env s primaryIf vid) := by
  unfold blaAnswerRequest
  cases hfind : backboneHashFind env s primaryIf vid with
  | none => exact BlaPriv.Within.refl s
  | some gw =>
    have hget := h.backboneGwGet (List.mem_map_of_mem (List.mem_of_find?_eq_some hfind))
    have hsent := hget.sendClaims primaryIf ((Batadv.backboneGwGet s gw.ptr).claimsOf gw.ptr)
    have hsends : ∀ (l : List BlaClaim) (s : BlaPriv), s.Within
        (l.foldl (fun s c => blaSendClaim s primaryIf c.addr c.vid CLAIM_TYPE_CLAIM) s) := by
      intro l
      induction l with
      | nil => exact BlaPriv.Within.refl
      | cons c l ih =>
        intro s
        refine BlaPriv.Within.trans ?_ (ih (blaSendClaim s primaryIf c.addr c.vid CLAIM_TYPE_CLAIM))
        exact BlaPriv.Within.of_eq rfl rfl
    have hrepeat := hsends ((Batadv.backboneGwGet s gw.ptr).claimsOf gw.ptr)
      (Batadv.backboneGwGet s gw.ptr)
    dsimp only
    generalize List.foldl _ _ _ = s' at hsent hrepeat ⊢
    have hannounced : (blaSendAnnounce s' primaryIf gw).Inv (gw.ptr :: G) C d :=
      hsent.of_eq rfl rfl rfl rfl
    refine (BlaPriv.Within.backboneGwGet s gw.ptr).trans (hrepeat.trans ?_)
    refine BlaPriv.Within.trans ?_ hannounced.within_backboneGwPut
    exact BlaPriv.Within.of_eq rfl rfl

/-- `batadv_bla_send_request`. -/
lemma within_sendRequest (h : s.Inv G [] fun _ => 0) (primaryIf : EthAddr) (gw : ℕ) :
    s.Within (blaSendRequest s primaryIf gw) := by
  have hdel := h.within_delBackboneClaims gw
  unfold blaSendRequest
  dsimp only
  split
  · exact hdel
  · split_ifs
    · refine hdel.trans (BlaPriv.Within.trans ?_ (BlaPriv.Within.updateGw _ fun g => rfl))
      exact BlaPriv.Within.of_eq rfl rfl
    · exact hdel.trans (BlaPriv.Within.of_eq rfl rfl)

/-- `batadv_handle_unclaim`. -/
lemma within_handleUnclaim (h : s.Inv G C fun _ => 0) (env : BlaEnv) (primaryIf : Option EthAddr)
    (backboneAddr claimAddr : EthAddr) (vid : U16) :
    s.Within (Batadv.handleUnclaim env s primaryIf backboneAddr claimAddr vid) := by
  unfold Batadv.handleUnclaim
  extract_lets s₁
  have hsent : s₁.Inv G C (fun _ => 0) ∧ s.Within s₁ := by
    unfold s₁
    cases primaryIf with
    | none => exact ⟨h, BlaPriv.Within.refl s⟩
    | some devAddr =>
      dsimp only
      split_ifs
      · exact ⟨h.of_eq rfl rfl rfl rfl, BlaPriv.Within.of_eq rfl rfl⟩
      · exact ⟨h, BlaPriv.Within.refl s⟩
  obtain ⟨hsent, hwithin⟩ := hsent
  cases hfind : backboneHashFind env s₁ backboneAddr vid with
  | none => exact hwithin
  | some gw =>
    have hget := hsent.backboneGwGet (List.mem_map_of_mem (List.mem_of_find?_eq_some hfind))
    refine hwithin.trans ((BlaPriv.Within.backboneGwGet s₁ gw.ptr).trans ?_)
    exact (hget.within_delClaim claimAddr vid).trans
      (hget.delClaim claimAddr vid).within_backboneGwPut

/-- `batadv_check_claim_group`. -/
lemma within_checkClaimGroup (s : BlaPriv) (inMesh : EthAddr → Bool) (primaryIf hwSrc : EthAddr)
    (hwDst : BlaClaimDst) (hSource : EthAddr) :
    s.Within (Batadv.checkClaimGroup inMesh s primaryIf hwSrc hwDst hSource).1 := by
  unfold Batadv.checkClaimGroup
  dsimp only
  split
  · exact BlaPriv.Within.refl s
  · split_ifs <;> exact BlaPriv.Within.of_eq rfl rfl

/-- The turn of `batadv_bla_purge_claims` for a claim. -/
lemma within_purgeClaimsTurn (h : s.Inv G C fun _ => 0) (env : BlaEnv)
    (primaryIf : Option EthAddr) (now : Bool) (claim : ℕ) :
    s.Within (blaPurgeClaimsTurn env primaryIf now s claim) := by
  have hturn := h.purgeClaimsTurn env primaryIf now claim
  unfold blaPurgeClaimsTurn at hturn ⊢
  cases hget : s.claim? claim with
  | none => exact BlaPriv.Within.refl s
  | some c =>
    obtain ⟨hc, rfl⟩ := (Heap.get?_eq_some_iff h.claims.nodup).1 hget
    have hclaim := h.claimGet (List.mem_map_of_mem hc)
    have hheld := hclaim.backboneGwGet (ptr_mem_of_key (h.owner _ (List.mem_map_of_mem hc)))
    have hstart := (BlaPriv.Within.claimGet s c.ptr).trans
      (BlaPriv.Within.backboneGwGet _ c.backboneGw)
    -- what is done in the middle keeps the references that the turn holds
    have hend : ∀ s' : BlaPriv, s'.Inv (c.backboneGw :: G) (c.ptr :: C) (fun _ => 0) →
        s.Within s' → s.Within (Batadv.claimPut (Batadv.backboneGwPut s' c.backboneGw) c.ptr) :=
      fun s' hinv hwithin => hwithin.trans
        (hinv.within_backboneGwPut.trans hinv.backboneGwPut.within_claimPut)
    dsimp only
    split
    · exact hend _ hheld hstart
    · split_ifs
      · exact hend _ hheld hstart
      · exact hend _ hheld hstart
      · exact hend _ (hheld.handleUnclaim env _ _ _ _)
          (hstart.trans (hheld.within_handleUnclaim env _ _ _ _))

/-- The turn of `batadv_bla_periodic_work` for a gateway. -/
lemma within_periodicTurn (s : BlaPriv) (primaryIf : EthAddr) (sendLoopdetect : Bool) (gw : ℕ) :
    s.Within (blaPeriodicTurn primaryIf sendLoopdetect s gw) := by
  unfold blaPeriodicTurn
  cases s.gw? gw with
  | none => exact BlaPriv.Within.refl s
  | some g =>
    dsimp -zeta only
    by_cases horig : g.orig ≠ primaryIf
    · rw [if_pos horig]
      exact BlaPriv.Within.refl s
    · rw [if_neg horig]
      extract_lets s₁ s₂ s₃
      have hsent : s.Within s₃ := by
        have hseen : s.Within s₁ := BlaPriv.Within.updateGw s fun _ => rfl
        refine hseen.trans ?_
        unfold s₃
        split_ifs <;> exact BlaPriv.Within.of_eq rfl rfl
      split_ifs
      · exact hsent
      · exact hsent.trans (BlaPriv.Within.updateGw _ fun _ => rfl)
      · have hwait : s.Within
            (s₃.updateGw gw fun g => { g with waitPeriods := g.waitPeriods - 1 }) :=
          hsent.trans (BlaPriv.Within.updateGw _ fun _ => rfl)
        refine hwait.trans (BlaPriv.Within.trans ?_ (BlaPriv.Within.updateGw _ fun _ => rfl))
        exact BlaPriv.Within.of_eq rfl rfl

end BlaPriv.Inv

/-! ### Gateways in their buckets -/

/-- A gateway in the hash table, as a claim refers to it. -/
def gwKeyOf (face : ℕ × EthAddr × U16 × Option ℕ) : ℕ × U16 := (face.1, face.2.2.1)

/-- Every gateway in the hash table is in the bucket of its address and VLAN, no two have the same,
and claims refer to gateways in the hash table. -/
structure BlaPriv.Located (env : BlaEnv) (s : BlaPriv) : Prop where
  bucket : ∀ face ∈ s.faces, face.2.2.2 = some (env.chooseBackboneGw face.2.1 face.2.2.1)
  unique : (s.faces.map fun face => (face.2.1, face.2.2.1)).Nodup
  owner : ∀ k ∈ s.claims.map BlaClaim.gwKey, k ∈ s.faces.map gwKeyOf

/-- What claims refer to is in memory. -/
lemma mem_keys_of_faces {s : BlaPriv} {k : ℕ × U16} (h : k ∈ s.faces.map gwKeyOf) :
    k ∈ s.backboneGws.map BlaBackboneGw.key := by
  obtain ⟨face, hface, rfl⟩ := List.mem_map.1 h
  obtain ⟨g, hg, rfl⟩ := List.mem_map.1 hface
  exact List.mem_map_of_mem (List.mem_filter.1 hg).1

/-- A gateway that is new in the hash table. -/
lemma faces_blaGetBackboneGw {s : BlaPriv} {addr : EthAddr} {vid : U16}
    (hnone : s.gwOf env addr vid = none) (primaryIf : EthAddr) (ownBackbone : Bool) :
    (blaGetBackboneGw env s primaryIf addr vid ownBackbone).1.faces =
        (s.nextPtr, addr, vid, some (env.chooseBackboneGw addr vid)) :: s.faces ∧
      (blaGetBackboneGw env s primaryIf addr vid ownBackbone).2 = s.nextPtr := by
  rw [gwOf_eq, Option.map_eq_none_iff] at hnone
  unfold blaGetBackboneGw
  rw [hnone]
  dsimp -zeta only
  extract_lets entry
  split_ifs
  · have hwait : ∀ f : BlaBackboneGw → BlaBackboneGw, (∀ g, (f g).face = g.face) →
        ((blaSendAnnounce { s with
          backboneGws := entry :: s.backboneGws, nextPtr := s.nextPtr + 1 } primaryIf
          entry).updateGw entry.ptr f).faces = entry.face :: s.faces :=
      fun f hf => BlaPriv.faces_updateGw hf
    exact ⟨hwait (fun g => { g with
      requestSent := g.requestSent + 1, waitPeriods := BLA_WAIT_PERIODS }) fun g => rfl, rfl⟩
  · exact ⟨rfl, rfl⟩

namespace BlaPriv.Located

variable {s : BlaPriv} {G C : List ℕ} {d : ℕ → U16}

/-- Functions that keep the gateways in the hash table. -/
lemma within {s' : BlaPriv} (h : s.Located env) (hw : s.Within s') : s'.Located env := by
  constructor
  · rw [hw.faces]
    exact h.bucket
  · rw [hw.faces]
    exact h.unique
  · intro k hk
    rw [hw.faces]
    exact h.owner k (hw.owners hk)

/-- `batadv_bla_get_backbone_gw`: a gateway that is not found is not in the hash table. -/
lemma getBackboneGw (h : s.Located env) (primaryIf orig : EthAddr) (vid : U16)
    (ownBackbone : Bool) :
    (blaGetBackboneGw env s primaryIf orig vid ownBackbone).1.Located env ∧
      ((blaGetBackboneGw env s primaryIf orig vid ownBackbone).2, vid) ∈
        (blaGetBackboneGw env s primaryIf orig vid ownBackbone).1.faces.map gwKeyOf := by
  cases hgw : s.gwOf env orig vid with
  | some p =>
    rw [blaGetBackboneGw_of_gwOf hgw]
    refine ⟨h.within (BlaPriv.Within.backboneGwGet s p), ?_⟩
    obtain ⟨face, hfind, rfl⟩ := Option.map_eq_some_iff.1 hgw
    have hvid : face.2.2.1 = vid := by
      have his := List.find?_some hfind
      simp only [gwIs, Bool.and_eq_true, beq_iff_eq] at his
      exact his.2
    rw [BlaPriv.faces_backboneGwGet, ← hvid]
    exact List.mem_map_of_mem (List.mem_of_find?_eq_some hfind)
  | none =>
    obtain ⟨hknows, -⟩ := blaKnows_blaGetBackboneGw env s primaryIf orig vid ownBackbone
    obtain ⟨hfaces, hptr⟩ := faces_blaGetBackboneGw hgw primaryIf ownBackbone
    have hkeys := hfaces
    rw [hptr]
    generalize (blaGetBackboneGw env s primaryIf orig vid ownBackbone).1 = s' at *
    have hfresh : (orig, vid) ∉ s.faces.map fun face => (face.2.1, face.2.2.1) := by
      intro hmem
      obtain ⟨face, hface, hkey⟩ := List.mem_map.1 hmem
      obtain ⟨horig, hvid⟩ := Prod.mk.inj hkey
      refine List.find?_eq_none.1 (Option.map_eq_none_iff.1 hgw) face hface ?_
      unfold gwIs
      rw [h.bucket face hface, horig, hvid, beq_self_eq_true, beq_self_eq_true, beq_self_eq_true]
      rfl
    refine ⟨⟨?_, ?_, ?_⟩, ?_⟩
    · rw [hfaces]
      exact List.forall_mem_cons.2 ⟨rfl, h.bucket⟩
    · rw [hfaces, List.map_cons, List.nodup_cons]
      exact ⟨hfresh, h.unique⟩
    · intro k hk
      rw [hknows.claims] at hk
      rw [hfaces]
      exact List.mem_cons_of_mem _ (h.owner k hk)
    · rw [hfaces]
      exact List.mem_cons_self

/-- The gateways that claims refer to, after one was given another one. -/
lemma owners_blaReplaceBackboneGw (h : s.Inv G C d) {c : BlaClaim}
    (hc : c.ident ∈ s.claims.map BlaClaim.ident) (gw : ℕ) (removeCrc : Bool) :
    (blaReplaceBackboneGw s c gw removeCrc).claims.map BlaClaim.gwKey ⊆
      (gw, c.vid) :: s.claims.map BlaClaim.gwKey := by
  obtain ⟨c', hc', hident⟩ := List.mem_map.1 hc
  obtain ⟨hptr, hkey, -⟩ : c'.ptr = c.ptr ∧ c'.key = c.key ∧ c'.backboneGw = c.backboneGw := by
    simpa [BlaClaim.ident] using hident
  have hvid : c'.vid = c.vid := congrArg Prod.snd hkey
  rw [claims_blaReplaceBackboneGw]
  intro k hk
  obtain ⟨c₁, hc₁, rfl⟩ := List.mem_map.1 hk
  obtain ⟨c₂, hc₂, rfl⟩ := Heap.mem_modify.1 hc₁
  split_ifs with heq
  · obtain rfl := List.inj_on_of_nodup_map h.claims.nodup hc₂ hc' (heq.trans hptr.symm)
    rw [← hvid]
    exact List.mem_cons_self
  · exact List.mem_cons_of_mem _ (List.mem_map_of_mem hc₂)

/-- The gateways that claims refer to, after one was added. -/
lemma owners_blaAddClaim {gw : ℕ} (h : s.Inv G C fun _ => 0) {vid : U16}
    (hgw : (gw, vid) ∈ s.backboneGws.map BlaBackboneGw.key) (mac : EthAddr) :
    (blaAddClaim s mac vid gw).claims.map BlaClaim.gwKey ⊆
      (gw, vid) :: s.claims.map BlaClaim.gwKey := by
  unfold blaAddClaim
  cases hfind : claimHashFind s mac vid with
  | none =>
    have hget := h.backboneGwGet (BlaPriv.Inv.ptr_mem_of_key hgw)
    have hnew := hget.newClaim s.jiffies (by rw [BlaPriv.keys_backboneGwGet]; exact hgw) hfind
    refine List.Subset.trans (owners_claimPut _ _) ?_
    refine List.Subset.trans (owners_blaReplaceBackboneGw hnew
      (c := ⟨s.nextPtr, mac, vid, gw, s.jiffies, true, 2⟩) List.mem_cons_self gw false) ?_
    exact List.cons_subset.2 ⟨List.mem_cons_self, List.Subset.refl _⟩
  | some claim =>
    obtain ⟨hmem, -, -, hvid⟩ := claimHashFind_eq_some hfind
    have hseen := h.seeClaim hmem
    have hsee : s.Within (blaSeeClaim s claim) :=
      (BlaPriv.Within.claimGet s claim.ptr).trans (BlaPriv.Within.updateClaim _ fun c => rfl)
    have hident : claim.ident ∈ (blaSeeClaim s claim).claims.map BlaClaim.ident := by
      unfold blaSeeClaim
      rw [BlaPriv.idents_updateClaim, BlaPriv.idents_claimGet]
      · exact List.mem_map_of_mem hmem
      · exact fun c => rfl
    dsimp only
    split_ifs
    · exact List.Subset.trans (owners_claimPut _ _)
        (List.Subset.trans hsee.owners (List.subset_cons_self _ _))
    · refine List.Subset.trans (owners_claimPut _ _) ?_
      refine List.Subset.trans (owners_blaReplaceBackboneGw hseen hident gw true) ?_
      rw [hvid]
      exact List.cons_subset_cons _ hsee.owners

/-- **Adding a claim** of a gateway in the hash table. -/
lemma addClaim {gw : ℕ} (h : s.Located env) (hinv : s.Inv G C fun _ => 0) {vid : U16}
    (hgw : (gw, vid) ∈ s.faces.map gwKeyOf) (mac : EthAddr) :
    (blaAddClaim s mac vid gw).Located env := by
  have hkey := mem_keys_of_faces hgw
  have hfaces := hinv.faces_addClaim hkey mac
  constructor
  · rw [hfaces]
    exact h.bucket
  · rw [hfaces]
    exact h.unique
  · intro k hk
    rw [hfaces]
    rcases List.mem_cons.1 (owners_blaAddClaim hinv hkey mac hk) with rfl | hk
    · exact hgw
    · exact h.owner k hk

/-- `batadv_bla_update_own_backbone_gw`. -/
lemma updateOwnBackboneGw (h : s.Located env) (hinv : s.Inv G C fun _ => 0) (primaryIf : EthAddr)
    (vid : U16) : (blaUpdateOwnBackboneGw env s primaryIf vid).Located env := by
  obtain ⟨hget, -⟩ := hinv.getBackboneGw env primaryIf primaryIf vid true
  obtain ⟨hloc, -⟩ := h.getBackboneGw primaryIf primaryIf vid true
  unfold blaUpdateOwnBackboneGw
  generalize blaGetBackboneGw env s primaryIf primaryIf vid true = r at hget hloc ⊢
  have hseen : (r.1.updateGw r.2 fun g => { g with lasttime := r.1.jiffies }).Inv (r.2 :: G) C
      fun _ => 0 := hget.updateGw fun g => ⟨rfl, rfl, rfl, rfl⟩
  refine hloc.within (BlaPriv.Within.trans ?_ hseen.within_backboneGwPut)
  exact BlaPriv.Within.updateGw r.1 fun g => rfl

/-- `batadv_handle_claim`. -/
lemma handleClaim (h : s.Located env) (hinv : s.Inv G C fun _ => 0)
    (primaryIf backboneAddr claimAddr : EthAddr) (vid : U16) :
    (Batadv.handleClaim env s primaryIf backboneAddr claimAddr vid).Located env := by
  obtain ⟨hget, hkey⟩ := hinv.getBackboneGw env primaryIf backboneAddr vid false
  obtain ⟨hloc, hmem⟩ := h.getBackboneGw primaryIf backboneAddr vid false
  have hadd := hget.addClaim hkey claimAddr
  have hclaimed := hloc.addClaim hget hmem claimAddr
  unfold Batadv.handleClaim
  dsimp only
  split_ifs
  · have hsent : (blaSendClaim (blaAddClaim (blaGetBackboneGw env s primaryIf backboneAddr vid
        false).1 claimAddr vid (blaGetBackboneGw env s primaryIf backboneAddr vid false).2)
        primaryIf claimAddr vid CLAIM_TYPE_CLAIM).Inv
        ((blaGetBackboneGw env s primaryIf backboneAddr vid false).2 :: G) C fun _ => 0 :=
      hadd.of_eq rfl rfl rfl rfl
    refine BlaPriv.Located.within ?_ hsent.within_backboneGwPut
    exact hclaimed.within (BlaPriv.Within.of_eq rfl rfl)
  · exact hclaimed.within hadd.within_backboneGwPut

/-- `batadv_handle_announce`. -/
lemma handleAnnounce (h : s.Located env) (hinv : s.Inv G [] fun _ => 0)
    (primaryIf anAddr backboneAddr : EthAddr) (vid : U16) :
    (Batadv.handleAnnounce env s primaryIf anAddr backboneAddr vid).1.Located env := by
  unfold Batadv.handleAnnounce
  split_ifs with hmac
  · exact h
  · obtain ⟨hget, -⟩ := hinv.getBackboneGw env primaryIf backboneAddr vid false
    obtain ⟨hloc, -⟩ := h.getBackboneGw primaryIf backboneAddr vid false
    generalize blaGetBackboneGw env s primaryIf backboneAddr vid false = r at hget hloc ⊢
    obtain ⟨s₁, p⟩ := r
    dsimp only at hget hloc ⊢
    have hseen : (s₁.updateGw p fun g => { g with lasttime := s₁.jiffies }).Inv (p :: G) []
        fun _ => 0 := hget.updateGw fun g => ⟨rfl, rfl, rfl, rfl⟩
    have hloc : (s₁.updateGw p fun g => { g with lasttime := s₁.jiffies }).Located env :=
      hloc.within (BlaPriv.Within.updateGw s₁ fun g => rfl)
    generalize s₁.updateGw p (fun g => { g with lasttime := s₁.jiffies }) = s₂ at *
    split
    · exact hloc
    · split_ifs
      · exact hloc.within ((hseen.within_sendRequest primaryIf p).trans
          (hseen.sendRequest primaryIf p).within_backboneGwPut)
      · have hback : BlaPriv.Inv ({ s₂ with numRequests := s₂.numRequests - 1 }.updateGw p fun g =>
            { g with requestSent := 0 }) (p :: G) [] fun _ => 0 := by
          apply BlaPriv.Inv.updateGw
          · exact hseen.of_eq rfl rfl rfl rfl
          · exact fun g => ⟨rfl, rfl, rfl, rfl⟩
        have hstart : s₂.Within { s₂ with numRequests := s₂.numRequests - 1 } :=
          BlaPriv.Within.of_eq rfl rfl
        refine hloc.within (hstart.trans (BlaPriv.Within.trans ?_ hback.within_backboneGwPut))
        exact BlaPriv.Within.updateGw _ fun g => rfl
      · exact hloc.within hseen.within_backboneGwPut

/-- The different types of claim frames. -/
lemma handleFrame (h : s.Located env) (hinv : s.Inv G [] fun _ => 0) (primaryIf : EthAddr)
    (frame : BlaFrame) (arp : BlaArp) (vid : U16) :
    (blaHandleFrame env s primaryIf frame arp vid).Located env := by
  unfold blaHandleFrame
  split_ifs
  · exact h.handleClaim hinv primaryIf _ _ vid
  · exact h.within (hinv.within_handleUnclaim env _ _ _ vid)
  · exact h.handleAnnounce hinv primaryIf _ _ vid
  · unfold handleRequest
    split_ifs
    · exact h
    · exact h
    · exact h.within (hinv.within_answerRequest env primaryIf vid)
  · exact h

/-- Either outcome of a test. -/
lemma ite {q : Prop} [Decidable q] {a b : BlaPriv × Bool} (ha : a.1.Located env)
    (hb : b.1.Located env) : (if q then a else b).1.Located env := by
  by_cases hq : q
  · rw [if_pos hq]
    exact ha
  · rw [if_neg hq]
    exact hb

/-- **A frame from the LAN.** -/
lemma processClaim (h : s.Located env) (hinv : s.Inv G [] fun _ => 0) (inMesh : EthAddr → Bool)
    (primaryIf : EthAddr) (frame : BlaFrame) :
    (blaProcessClaim env inMesh s primaryIf frame).1.Located env := by
  unfold blaProcessClaim
  dsimp only
  refine ite h ?_
  cases frame.arp with
  | none => exact h
  | some arp =>
    have hgroup := hinv.checkClaimGroup inMesh primaryIf arp.hwSrc arp.hwDst frame.hSource
    have hown := hgroup.updateOwnBackboneGw env primaryIf (getVid frame.vlans)
    have hloc := h.within (BlaPriv.Inv.within_checkClaimGroup s inMesh primaryIf arp.hwSrc arp.hwDst
      frame.hSource)
    have hlocOwn := hloc.updateOwnBackboneGw hgroup primaryIf (getVid frame.vlans)
    exact ite h (ite h (ite h (ite h (ite h (ite h (ite h (ite hloc
      (hlocOwn.handleFrame hown primaryIf frame arp (getVid frame.vlans)))))))))

/-! ### Timeouts -/

/-- A loop whose turns keep the gateways where they are found. -/
lemma foldl {f : BlaPriv → ℕ → BlaPriv}
    (hf : ∀ (s : BlaPriv) (p : ℕ), s.Inv G C (fun _ => 0) → s.Located env →
      (f s p).Inv G C (fun _ => 0) ∧ (f s p).Located env)
    (h : s.Located env) (hinv : s.Inv G C fun _ => 0) (ps : List ℕ) :
    (ps.foldl f s).Inv G C (fun _ => 0) ∧ (ps.foldl f s).Located env := by
  induction ps generalizing s with
  | nil => exact ⟨hinv, h⟩
  | cons p ps ih =>
    obtain ⟨hinv', h'⟩ := hf s p hinv h
    exact ih h' hinv'

/-- A gateway that is taken out of the hash table has no claims any more. -/
lemma removeGw (h : s.Located env) (hinv : s.Inv G [] fun _ => 0) {g : BlaBackboneGw}
    (hface : g.face ∈ s.faces) :
    (Batadv.backboneGwPut ((blaDelBackboneClaims s g.ptr).updateGw g.ptr
      fun g => { g with bucket := none }) g.ptr).Located env := by
  obtain ⟨hdel, hclaims, hfaces⟩ := hinv.delBackboneClaims g.ptr
  have hface' := hface
  rw [← hfaces] at hface'
  obtain ⟨g', hmem, heq⟩ := List.mem_map.1 hface'
  obtain ⟨hg', hsome⟩ := List.mem_filter.1 hmem
  have hptr : g'.ptr = g.ptr := congrArg Prod.fst heq
  have hunhashed := hdel.unhashGw hg' hsome
  rw [hptr] at hunhashed
  have hrest : ((blaDelBackboneClaims s g.ptr).updateGw g.ptr
      fun g => { g with bucket := none }).faces = s.faces.filter fun face => face.1 ≠ g.ptr := by
    show (List.filter _ (Heap.modify _ _ _ _)).map BlaBackboneGw.face = _
    rw [Heap.filter_modify_of_not fun g _ _ => rfl, ← hfaces]
    unfold Heap.free BlaPriv.faces
    rw [List.filter_map, List.filter_filter, List.filter_filter]
    congr 1
    apply List.filter_congr
    intro g₁ _
    exact Bool.and_comm _ _
  refine BlaPriv.Located.within ?_ hunhashed.within_backboneGwPut
  constructor
  · intro face hmem
    rw [hrest] at hmem
    exact h.bucket face (List.mem_filter.1 hmem).1
  · rw [hrest]
    exact (List.filter_sublist.map _).nodup h.unique
  · intro k hk
    change k ∈ (blaDelBackboneClaims s g.ptr).claims.map BlaClaim.gwKey at hk
    rw [hclaims] at hk
    obtain ⟨c, hc, rfl⟩ := List.mem_map.1 hk
    obtain ⟨hc, hne⟩ := List.mem_filter.1 hc
    obtain ⟨face, hface, hkey⟩ := List.mem_map.1 (h.owner _ (List.mem_map_of_mem hc))
    rw [hrest, ← hkey]
    refine List.mem_map_of_mem (List.mem_filter.2 ⟨hface, ?_⟩)
    rw [show face.1 = c.backboneGw from congrArg Prod.fst hkey]
    exact hne

/-- `batadv_bla_purge_backbone_gw`. -/
lemma purgeBackboneGw (h : s.Located env) (hinv : s.Inv G [] fun _ => 0) (now : Bool) :
    (blaPurgeBackboneGw env s now).Located env := by
  refine (foldl (fun s gw hinv h => ⟨hinv.purgeBackboneGwTurn env now gw, ?_⟩) h hinv _).2
  unfold blaPurgeBackboneGwTurn
  cases hget : s.gw? gw with
  | none => exact h
  | some g =>
    obtain ⟨hg, rfl⟩ := (Heap.get?_eq_some_iff hinv.gws.nodup).1 hget
    dsimp only
    by_cases hbucket : g.bucket.isNone = true
    · rw [if_pos hbucket]
      exact h
    · have hface : g.face ∈ s.faces :=
        List.mem_map_of_mem (List.mem_filter.2
          ⟨hg, by simpa [Option.isSome_iff_ne_none] using hbucket⟩)
      rw [if_neg hbucket]
      split_ifs
      · exact h
      · have hstart : s.Within { s with numRequests := s.numRequests - 1 } :=
          BlaPriv.Within.of_eq rfl rfl
        exact (h.within hstart).removeGw (hinv.of_eq rfl rfl rfl rfl) hface
      · exact h.removeGw hinv hface

/-- `batadv_bla_purge_claims`. -/
lemma purgeClaims (h : s.Located env) (hinv : s.Inv G C fun _ => 0) (primaryIf : Option EthAddr)
    (now : Bool) : (blaPurgeClaims env s primaryIf now).Located env :=
  (foldl (fun _ claim hinv h => ⟨hinv.purgeClaimsTurn env primaryIf now claim,
    h.within (hinv.within_purgeClaimsTurn env primaryIf now claim)⟩) h hinv _).2

/-- `batadv_bla_periodic_work`. -/
lemma periodicWork (h : s.Located env) (hinv : s.Inv G [] fun _ => 0) (bridgeLoopAvoidance : Bool)
    (primaryIf : Option EthAddr) (ethRandomAddr : EthAddr) :
    (blaPeriodicWork env s bridgeLoopAvoidance primaryIf ethRandomAddr).Located env := by
  unfold blaPeriodicWork
  cases primaryIf with
  | none => exact h
  | some primaryIf =>
    have hclaims := hinv.purgeClaims env (some primaryIf) false
    have hpurged := hclaims.purgeBackboneGw env false
    have hloc := (h.purgeClaims hinv (some primaryIf) false).purgeBackboneGw hclaims false
    dsimp only
    by_cases hbla : (!bridgeLoopAvoidance) = true
    · rw [if_pos hbla]
      exact hloc
    · rw [if_neg hbla]
      refine (foldl (G := G) (C := []) (fun s gw hinv h => ⟨hinv.periodicTurn primaryIf _ gw,
        h.within (BlaPriv.Inv.within_periodicTurn s primaryIf _ gw)⟩) ?_ ?_ _).2
      · split_ifs
        · exact hloc.within (BlaPriv.Within.of_eq rfl rfl)
        · exact hloc.within (BlaPriv.Within.of_eq rfl rfl)
      · split_ifs
        · exact hpurged.of_eq rfl rfl rfl rfl
        · exact hpurged.of_eq rfl rfl rfl rfl

/-! ### Payload -/

/-- `batadv_bla_loopdetect_check`. -/
lemma loopdetectCheck (h : s.Located env) (hinv : s.Inv G C fun _ => 0)
    (primaryIf hSource : EthAddr) (vid : U16) :
    (blaLoopdetectCheck env s primaryIf hSource vid).1.Located env := by
  obtain ⟨hget, -⟩ := hinv.getBackboneGw env primaryIf primaryIf vid true
  obtain ⟨hloc, -⟩ := h.getBackboneGw primaryIf primaryIf vid true
  unfold blaLoopdetectCheck
  split_ifs
  · exact h
  · exact h
  · dsimp only
    split_ifs
    · exact hloc.within hget.within_backboneGwPut
    · exact hloc.within (BlaPriv.Within.of_eq rfl rfl)

/-- **A frame from the mesh.** -/
lemma rx (h : s.Located env) (hinv : s.Inv G [] fun _ => 0) (bridgeLoopAvoidance : Bool)
    (primaryIf : Option EthAddr) (frame : BlaRxFrame) :
    (blaRx env s bridgeLoopAvoidance primaryIf frame).1.Located env := by
  unfold blaRx
  cases primaryIf with
  | none => exact h
  | some primaryIf =>
    have hloop := hinv.loopdetectCheck env primaryIf frame.hSource frame.vid
    have hloc := h.loopdetectCheck hinv primaryIf frame.hSource frame.vid
    dsimp only
    refine ite (h.updateOwnBackboneGw hinv primaryIf frame.vid) (ite hloc (ite hloc
      (ite hloc ?_)))
    cases hfind : claimHashFind (blaLoopdetectCheck env s primaryIf frame.hSource frame.vid).1
        frame.hSource frame.vid with
    | none =>
      have hclaimed := hloop.handleClaim env primaryIf primaryIf frame.hSource frame.vid
      exact (hloc.handleClaim hloop primaryIf primaryIf frame.hSource frame.vid).updateOwnBackboneGw
        hclaimed primaryIf frame.vid
    | some claim =>
      have hget := hloop.claimGet (List.mem_map_of_mem (List.mem_of_find?_eq_some hfind))
      have hlocGet := hloc.within (BlaPriv.Within.claimGet _ claim.ptr)
      dsimp only
      refine ite ?_ (ite (hlocGet.within hget.within_claimPut) ?_)
      · have hseen := hget.updateClaim (p := claim.ptr) (f := fun c => { c with
            lasttime := (claimGet (blaLoopdetectCheck env s primaryIf frame.hSource frame.vid).1
              claim.ptr).jiffies }) fun c => ⟨rfl, rfl, rfl, rfl, rfl⟩
        refine BlaPriv.Located.within ?_
          (hseen.updateOwnBackboneGw env primaryIf frame.vid).within_claimPut
        refine updateOwnBackboneGw (hlocGet.within ?_) hseen primaryIf frame.vid
        exact BlaPriv.Within.updateClaim _ fun c => rfl
      · have hclaimed := hget.handleClaim env primaryIf primaryIf frame.hSource frame.vid
        exact ((hlocGet.handleClaim hget primaryIf primaryIf frame.hSource
          frame.vid).updateOwnBackboneGw hclaimed primaryIf frame.vid).within
          (hclaimed.updateOwnBackboneGw env primaryIf frame.vid).within_claimPut

/-- **A frame from the LAN**, claim frame or not. -/
lemma tx (h : s.Located env) (hinv : s.Inv G [] fun _ => 0) (inMesh : EthAddr → Bool)
    (bridgeLoopAvoidance : Bool) (primaryIf : Option EthAddr) (frame : BlaFrame) (vid : U16) :
    (blaTx env inMesh s bridgeLoopAvoidance primaryIf frame vid).1.Located env := by
  unfold blaTx
  cases primaryIf with
  | none => exact h
  | some primaryIf =>
    have hclaim := hinv.processClaim env inMesh primaryIf frame
    have hloc := h.processClaim hinv inMesh primaryIf frame
    dsimp only
    refine ite (h.updateOwnBackboneGw hinv primaryIf vid) (ite hloc (ite hloc ?_))
    cases hfind : claimHashFind (blaProcessClaim env inMesh s primaryIf frame).1
        frame.hSource vid with
    | none => exact hloc.updateOwnBackboneGw hclaim primaryIf vid
    | some claim =>
      have hget := hclaim.claimGet (List.mem_map_of_mem (List.mem_of_find?_eq_some hfind))
      have hlocGet := hloc.within (BlaPriv.Within.claimGet _ claim.ptr)
      have hput := hlocGet.within hget.within_claimPut
      dsimp only
      refine ite (ite ?_ hput) (ite hput ?_)
      · have hend := hget.handleUnclaim env (some primaryIf) primaryIf frame.hSource vid
        have hlocEnd := hlocGet.within
          (hget.within_handleUnclaim env (some primaryIf) primaryIf frame.hSource vid)
        exact (hlocEnd.updateOwnBackboneGw hend primaryIf vid).within
          (hend.updateOwnBackboneGw env primaryIf vid).within_claimPut
      · exact (hlocGet.updateOwnBackboneGw hget primaryIf vid).within
          (hget.updateOwnBackboneGw env primaryIf vid).within_claimPut

/-- `batadv_bla_loopdetect_report`. -/
lemma loopdetectReport (h : s.Located env) (hinv : s.Inv [] [] fun _ => 0) (gw : ℕ) :
    (blaLoopdetectReport s gw).Located env := by
  unfold blaLoopdetectReport
  split_ifs with hmem
  · have hheld : BlaPriv.Inv { s with reportWork := s.reportWork.erase gw } [gw] [] fun _ => 0 := by
      refine ⟨hinv.claims, hinv.gws.perm ?_, hinv.owner⟩
      rw [List.append_nil]
      exact (List.perm_append_comm.trans (List.perm_cons_erase hmem).symm)
    refine BlaPriv.Located.within ?_ hheld.within_backboneGwPut
    exact h.within (BlaPriv.Within.of_eq rfl rfl)
  · exact h

end BlaPriv.Located

/-! ### Changes of the own address -/

/-- What a change of the own address makes of a gateway. -/
def faceRename (primaryIf oldif : EthAddr) (face : ℕ × EthAddr × U16 × Option ℕ) :
    ℕ × EthAddr × U16 × Option ℕ :=
  if face.2.1 = oldif then (face.1, primaryIf, face.2.2) else face

@[simp] lemma faceRename_fst (primaryIf oldif : EthAddr) (face : ℕ × EthAddr × U16 × Option ℕ) :
    (faceRename primaryIf oldif face).1 = face.1 := by
  unfold faceRename
  split_ifs <;> rfl

@[simp] lemma faceRename_snd (primaryIf oldif : EthAddr) (face : ℕ × EthAddr × U16 × Option ℕ) :
    (faceRename primaryIf oldif face).2.2 = face.2.2 := by
  unfold faceRename
  split_ifs <;> rfl

lemma faceRename_idem (primaryIf oldif : EthAddr) (face : ℕ × EthAddr × U16 × Option ℕ) :
    faceRename primaryIf oldif (faceRename primaryIf oldif face) =
      faceRename primaryIf oldif face := by
  unfold faceRename
  by_cases horig : face.2.1 = oldif
  · rw [if_pos horig]
    split_ifs <;> rfl
  · rw [if_neg horig, if_neg horig]

namespace BlaPriv.Inv

variable {s : BlaPriv} {G C : List ℕ} {d : ℕ → U16}

/-- The gateways in the hash table have different addresses in memory. -/
lemma nodup_faces (h : s.Inv G C d) : (s.faces.map Prod.fst).Nodup := by
  unfold BlaPriv.faces
  rw [List.map_map]
  exact (List.filter_sublist.map _).nodup h.gws.nodup

/-- The turn of `batadv_bla_update_orig_address` for a gateway. -/
lemma faces_updateOrigAddressTurn (h : s.Inv G C d) (primaryIf oldif : EthAddr) (gw : ℕ) :
    (blaUpdateOrigAddressTurn primaryIf oldif s gw).faces =
      s.faces.map fun face => if face.1 = gw then faceRename primaryIf oldif face else face := by
  have hsame : (∀ face ∈ s.faces, face.1 = gw → face.2.1 ≠ oldif) → s.faces =
      s.faces.map fun face => if face.1 = gw then faceRename primaryIf oldif face else face := by
    intro hother
    conv_lhs => rw [← List.map_id s.faces]
    apply List.map_congr_left
    intro face hface
    split_ifs with hptr
    · exact (if_neg (hother face hface hptr)).symm
    · rfl
  unfold blaUpdateOrigAddressTurn
  cases hget : s.gw? gw with
  | none =>
    refine hsame fun face hface hptr => ?_
    obtain ⟨g, hg, rfl⟩ := List.mem_map.1 hface
    have hsome := (Heap.get?_eq_some_iff h.gws.nodup).2 ⟨(List.mem_filter.1 hg).1, hptr⟩
    rw [BlaPriv.gw?, hsome] at hget
    exact absurd hget (Option.some_ne_none g)
  | some g =>
    obtain ⟨hg, rfl⟩ := (Heap.get?_eq_some_iff h.gws.nodup).1 hget
    dsimp only
    split_ifs with horig
    · refine hsame fun face hface hptr => ?_
      obtain ⟨g', hg', rfl⟩ := List.mem_map.1 hface
      rw [List.inj_on_of_nodup_map h.gws.nodup (List.mem_filter.1 hg').1 hg hptr]
      exact horig
    · show ((Heap.modify _ _ _ _).filter _).map BlaBackboneGw.face = _
      unfold BlaPriv.faces Heap.modify
      rw [List.filter_map, List.map_map, List.map_map]
      have hselect : ((fun g : BlaBackboneGw => g.bucket.isSome) ∘ fun a =>
          if a.ptr = g.ptr then { a with orig := primaryIf } else a) =
          fun g => g.bucket.isSome := by
        funext a
        rw [Function.comp_apply]
        split_ifs <;> rfl
      rw [hselect]
      apply List.map_congr_left
      intro a ha
      rw [Function.comp_apply, Function.comp_apply]
      by_cases hptr : a.ptr = g.ptr
      · have ha := List.inj_on_of_nodup_map h.gws.nodup (List.mem_filter.1 ha).1 hg hptr
        rw [if_pos hptr, if_pos (show a.face.1 = g.ptr from hptr)]
        exact (if_pos (by rw [ha]; exact not_not.1 horig)).symm
      · rw [if_neg hptr, if_neg (show ¬a.face.1 = g.ptr from hptr)]

/-- `batadv_bla_update_orig_address` with an old interface. -/
lemma updateOrigAddress_of_some (h : s.Inv G C d) (primaryIf oldif : EthAddr) (ps : List ℕ) :
    (ps.foldl (blaUpdateOrigAddressTurn primaryIf oldif) s).claims = s.claims ∧
      (ps.foldl (blaUpdateOrigAddressTurn primaryIf oldif) s).faces =
        s.faces.map fun face => if face.1 ∈ ps then faceRename primaryIf oldif face else face := by
  induction ps generalizing s with
  | nil => simp
  | cons p ps ih =>
    have hturn : (blaUpdateOrigAddressTurn primaryIf oldif s p).Inv G C d ∧
        (blaUpdateOrigAddressTurn primaryIf oldif s p).claims = s.claims := by
      unfold blaUpdateOrigAddressTurn
      split
      · exact ⟨h, rfl⟩
      · split_ifs
        · exact ⟨h, rfl⟩
        · refine ⟨(h.updateGw ?_).of_eq rfl rfl rfl rfl, rfl⟩
          exact fun g => ⟨rfl, rfl, rfl, rfl⟩
    obtain ⟨hclaims, hfaces⟩ := ih hturn.1
    rw [List.foldl_cons]
    refine ⟨hclaims.trans hturn.2, hfaces.trans ?_⟩
    rw [h.faces_updateOrigAddressTurn, List.map_map]
    apply List.map_congr_left
    intro face _
    rw [Function.comp_apply]
    by_cases hp : face.1 = p
    · rw [if_pos hp, if_pos (List.mem_cons.2 (Or.inl hp)), faceRename_idem, ite_self]
    · simp only [List.mem_cons, hp, false_or, if_false]

end BlaPriv.Inv

/-- The addresses and VLANs of the gateways in the hash table, after a change of the own address. -/
lemma hashedGws_eq (s : BlaPriv) : s.hashedGws = s.faces.map Prod.fst := by
  unfold BlaPriv.hashedGws BlaPriv.faces
  rw [List.map_map]
  rfl

/-- **A change of the own address that does no harm**: every own gateway is in the bucket of the new
address already, and no other gateway of its VLAN has the new address. -/
def BlaEvent.KeepsBuckets (env : BlaEnv) (s : BlaPriv) : BlaEvent → Prop
  | .updateOrigAddress bridgeLoopAvoidance primaryIf oldif =>
    ∀ old, (if bridgeLoopAvoidance then oldif else none) = some old →
      ∀ g ∈ s.backboneGws, g.bucket.isSome = true → g.orig = old →
        g.bucket = some (env.chooseBackboneGw primaryIf g.vid) ∧
        ∀ g' ∈ s.backboneGws, g'.bucket.isSome = true → g'.orig = primaryIf → g'.vid = g.vid →
          g'.ptr = g.ptr
  | _ => True

/-- The gateways of a table after a change of the own address. -/
lemma faces_blaUpdateOrigAddress {s : BlaPriv} {G C : List ℕ} {d : ℕ → U16} (h : s.Inv G C d)
    (env : BlaEnv) (primaryIf old : EthAddr) :
    (blaUpdateOrigAddress env s true primaryIf (some old)).claims = s.claims ∧
      (blaUpdateOrigAddress env s true primaryIf (some old)).faces =
        s.faces.map (faceRename primaryIf old) := by
  have hgroup : BlaPriv.Inv { s with group := crc16 primaryIf } G C d := h.of_eq rfl rfl rfl rfl
  obtain ⟨hclaims, hfaces⟩ := hgroup.updateOrigAddress_of_some primaryIf old s.hashedGws
  refine ⟨hclaims, hfaces.trans ?_⟩
  apply List.map_congr_left
  intro face hface
  exact if_pos (hashedGws_eq s ▸ List.mem_map_of_mem hface)

/-- **A change of the own address** keeps the gateways in their buckets and apart exactly if it does
no harm. -/
lemma BlaPriv.Located.rename_iff {s : BlaPriv} {G C : List ℕ} {d : ℕ → U16} (h : s.Located env)
    (hinv : s.Inv G C d) {primaryIf old : EthAddr} :
    ((∀ face ∈ s.faces.map (faceRename primaryIf old),
        face.2.2.2 = some (env.chooseBackboneGw face.2.1 face.2.2.1)) ∧
      ((s.faces.map (faceRename primaryIf old)).map fun face => (face.2.1, face.2.2.1)).Nodup) ↔
      ∀ face ∈ s.faces, face.2.1 = old →
        face.2.2.2 = some (env.chooseBackboneGw primaryIf face.2.2.1) ∧
        ∀ face' ∈ s.faces, face'.2.1 = primaryIf → face'.2.2.1 = face.2.2.1 →
          face'.1 = face.1 := by
  rw [List.map_map]
  constructor
  · rintro ⟨hbucket, hunique⟩ face hface horig
    have hface' : faceRename primaryIf old face = (face.1, primaryIf, face.2.2) := if_pos horig
    refine ⟨?_, fun face' hface₂ horig' hvid => ?_⟩
    · have hmoved := hbucket _ (List.mem_map_of_mem hface)
      rw [hface'] at hmoved
      exact hmoved
    · -- both have the new address and the same VLAN
      have hboth : faceRename primaryIf old face' = (face'.1, primaryIf, face'.2.2) := by
        unfold faceRename
        split_ifs
        · rfl
        · exact Prod.ext rfl (Prod.ext horig' rfl)
      refine congrArg Prod.fst (List.inj_on_of_nodup_map hunique hface₂ hface ?_)
      rw [Function.comp_apply, Function.comp_apply, hboth, hface']
      exact Prod.ext rfl hvid
  · intro hcond
    constructor
    · intro face hmem
      obtain ⟨face, hface, rfl⟩ := List.mem_map.1 hmem
      by_cases horig : face.2.1 = old
      · rw [show faceRename primaryIf old face = (face.1, primaryIf, face.2.2) from if_pos horig]
        exact (hcond face hface horig).1
      · rw [show faceRename primaryIf old face = face from if_neg horig]
        exact h.bucket face hface
    · refine List.Nodup.map_on (fun face hface face' hface' heq => ?_) h.unique.of_map
      have hvid : face.2.2.1 = face'.2.2.1 := by
        have hsnd := congrArg Prod.snd heq
        simpa using hsnd
      have horig : (faceRename primaryIf old face).2.1 = (faceRename primaryIf old face').2.1 :=
        (Prod.mk.inj heq).1
      have hptr : face.1 = face'.1 → face = face' :=
        List.inj_on_of_nodup_map hinv.nodup_faces hface hface'
      unfold faceRename at horig
      split_ifs at horig with ho ho' ho'
      · exact List.inj_on_of_nodup_map h.unique hface hface' (Prod.ext (ho.trans ho'.symm) hvid)
      · exact hptr ((hcond face hface ho).2 face' hface' horig.symm hvid.symm).symm
      · exact hptr ((hcond face' hface' ho').2 face hface horig hvid)
      · exact List.inj_on_of_nodup_map h.unique hface hface' (Prod.ext horig hvid)

/-- A change of the address that does no harm, in terms of what is looked up. -/
lemma keepsBuckets_iff {s : BlaPriv} {primaryIf old : EthAddr} :
    (BlaEvent.updateOrigAddress true primaryIf (some old)).KeepsBuckets env s ↔
      ∀ face ∈ s.faces, face.2.1 = old →
        face.2.2.2 = some (env.chooseBackboneGw primaryIf face.2.2.1) ∧
        ∀ face' ∈ s.faces, face'.2.1 = primaryIf → face'.2.2.1 = face.2.2.1 →
          face'.1 = face.1 := by
  have hmem : ∀ {g}, g ∈ s.backboneGws → g.bucket.isSome = true → g.face ∈ s.faces :=
    fun hg hsome => List.mem_map_of_mem (List.mem_filter.2 ⟨hg, hsome⟩)
  constructor
  · intro h face hface horig
    obtain ⟨g, hg, rfl⟩ := List.mem_map.1 hface
    obtain ⟨hg, hsome⟩ := List.mem_filter.1 hg
    obtain ⟨hbucket, hothers⟩ := h old rfl g hg hsome horig
    refine ⟨hbucket, fun face' hface' => ?_⟩
    obtain ⟨g', hg', rfl⟩ := List.mem_map.1 hface'
    obtain ⟨hg', hsome'⟩ := List.mem_filter.1 hg'
    exact hothers g' hg' hsome'
  · intro h old' hold g hg hsome horig
    obtain rfl : old = old' := Option.some.inj hold
    obtain ⟨hbucket, hothers⟩ := h g.face (hmem hg hsome) horig
    exact ⟨hbucket, fun g' hg' hsome' => hothers g'.face (hmem hg' hsome')⟩

/-- **A step** keeps the gateways where they are found, if it is not a change of the own address
that does harm. -/
theorem BlaPriv.Located.step {s : BlaPriv} (h : s.Located env) (hinv : s.Inv [] [] fun _ => 0)
    {e : BlaEvent} (he : e.KeepsBuckets env s) : (blaStep env s e).Located env := by
  cases e with
  | tick => exact h.within (BlaPriv.Within.of_eq rfl rfl)
  | rx bla primaryIf frame => exact h.rx hinv bla primaryIf frame
  | tx inMesh bla primaryIf frame vid => exact h.tx hinv inMesh bla primaryIf frame vid
  | periodicWork bla primaryIf ethRandomAddr =>
    exact h.periodicWork hinv bla primaryIf ethRandomAddr
  | loopdetectReport gw => exact h.loopdetectReport hinv gw
  | updateOrigAddress bla primaryIf oldif =>
    have hgroup : BlaPriv.Inv { s with group := crc16 primaryIf } [] [] fun _ => 0 :=
      hinv.of_eq rfl rfl rfl rfl
    have hloc : BlaPriv.Located env { s with group := crc16 primaryIf } :=
      h.within (BlaPriv.Within.of_eq rfl rfl)
    have hpurged := (hloc.purgeClaims hgroup none true).purgeBackboneGw
      (hgroup.purgeClaims env none true) true
    cases bla with
    | false => exact hpurged
    | true =>
      cases oldif with
      | none => exact hpurged
      | some old =>
        obtain ⟨hclaims, hfaces⟩ := faces_blaUpdateOrigAddress hinv env primaryIf old
        obtain ⟨hbucket, hunique⟩ := (h.rename_iff hinv).2 (keepsBuckets_iff.1 he)
        show (blaUpdateOrigAddress env s true primaryIf (some old)).Located env
        rw [← hfaces] at hbucket hunique
        refine ⟨hbucket, hunique, fun k hk => ?_⟩
        rw [hclaims] at hk
        rw [hfaces, List.map_map]
        obtain ⟨face, hface, rfl⟩ := List.mem_map.1 (h.owner k hk)
        refine List.mem_map.2 ⟨face, hface, ?_⟩
        unfold gwKeyOf
        rw [Function.comp_apply, faceRename_fst, faceRename_snd]

/-! ### What is found -/

/-- The clients that a gateway has claimed itself, by its address. -/
def BlaPriv.ownClients (s : BlaPriv) (own : EthAddr) (vid : U16) : List EthAddr :=
  (s.claims.filter fun c => c.hashed && c.vid == vid &&
    (s.gw? c.backboneGw).any fun g => g.orig == own).map BlaClaim.addr

/-- **The gateways are found**: each is in the bucket of its address and VLAN, no two have the same,
a claim's gateway is what is found for its address, and the answer to a request repeats the clients
that are claimed by the gateway with the address, and announces their checksum. -/
structure BlaPriv.Findable (env : BlaEnv) (s : BlaPriv) : Prop where
  bucket : ∀ g ∈ s.backboneGws, g.bucket.isSome = true →
    g.bucket = some (env.chooseBackboneGw g.orig g.vid)
  unique : ((s.backboneGws.filter fun g => g.bucket.isSome).map fun g => (g.orig, g.vid)).Nodup
  found : ∀ c ∈ s.claims, c.hashed = true → ∃ g ∈ s.backboneGws, g.ptr = c.backboneGw ∧
    backboneHashFind env s g.orig c.vid = some g
  answer : ∀ g ∈ s.backboneGws, g.bucket.isSome = true →
    (blaAnswerRequest env s g.orig g.vid).sent = s.sent ++
      ((s.ownClients g.orig g.vid).map fun mac =>
        blaClaimFrame s.group g.orig mac g.vid CLAIM_TYPE_CLAIM) ++
      [blaClaimFrame s.group g.orig (BLA_ANNOUNCE_MAC ++
        (BLA_CRC_INIT ^^^ Checksum.xorSum crc16 (s.ownClients g.orig g.vid))) g.vid
        CLAIM_TYPE_ANNOUNCE]

/-- A gateway in its bucket is found. -/
lemma BlaPriv.Located.find {s : BlaPriv} (h : s.Located env) {g : BlaBackboneGw}
    (hg : g ∈ s.backboneGws) (hsome : g.bucket.isSome = true) :
    backboneHashFind env s g.orig g.vid = some g := by
  have hunique := h.unique
  unfold BlaPriv.faces at hunique
  rw [List.map_map] at hunique
  have hbucket : g.bucket = some (env.chooseBackboneGw g.orig g.vid) :=
    h.bucket g.face (List.mem_map_of_mem (List.mem_filter.2 ⟨hg, hsome⟩))
  cases hfind : backboneHashFind env s g.orig g.vid with
  | none =>
    have hne := List.find?_eq_none.1 hfind g hg
    simp [hbucket] at hne
  | some g' =>
    have hfound := List.find?_some hfind
    simp only [Bool.and_eq_true, beq_iff_eq] at hfound
    have hsome' : g'.bucket.isSome = true := by rw [hfound.1.1, Option.isSome_some]
    rw [List.inj_on_of_nodup_map hunique
      (List.mem_filter.2 ⟨List.mem_of_find?_eq_some hfind, hsome'⟩) (List.mem_filter.2 ⟨hg, hsome⟩)
      (Prod.ext hfound.1.2 hfound.2)]

/-- The clients of a gateway in the hash table are those that are claimed by its address. -/
lemma BlaPriv.Located.ownClients_eq {s : BlaPriv} (h : s.Located env)
    (hinv : s.Inv [] [] fun _ => 0) {g : BlaBackboneGw} (hg : g ∈ s.backboneGws)
    (hsome : g.bucket.isSome = true) : s.ownClients g.orig g.vid = s.clients g.ptr := by
  unfold BlaPriv.ownClients BlaPriv.clients blaClients
  congr 1
  apply List.filter_congr
  intro c hc
  obtain ⟨face, hface, hkey⟩ := List.mem_map.1 (h.owner _ (List.mem_map_of_mem hc))
  obtain ⟨g', hg', rfl⟩ := List.mem_map.1 hface
  obtain ⟨hg', hsome'⟩ := List.mem_filter.1 hg'
  obtain ⟨hptr, hvid⟩ : g'.ptr = c.backboneGw ∧ g'.vid = c.vid := Prod.mk.inj hkey
  have hget : s.gw? c.backboneGw = some g' :=
    (Heap.get?_eq_some_iff hinv.gws.nodup).2 ⟨hg', hptr⟩
  rw [hget, (hinv.refcount_eq_one hc).1, Bool.true_and, Option.any_some, Bool.eq_iff_iff,
    Bool.and_eq_true, beq_iff_eq, beq_iff_eq, beq_iff_eq, ← hptr, ← hvid]
  constructor
  · rintro ⟨hvid, horig⟩
    have hfind := h.find hg' hsome'
    rw [horig, hvid, h.find hg hsome] at hfind
    rw [Option.some.inj hfind]
  · intro heq
    rw [List.inj_on_of_nodup_map hinv.gws.nodup hg' hg heq]
    exact ⟨rfl, rfl⟩

/-- Gateways in their buckets are found. -/
lemma BlaPriv.Located.findable {s : BlaPriv} (h : s.Located env)
    (hinv : s.Inv [] [] fun _ => 0) : s.Findable env := by
  refine ⟨fun g hg hsome => ?_, ?_, fun c hc _ => ?_, fun g hg hsome => ?_⟩
  · exact h.bucket g.face (List.mem_map_of_mem (List.mem_filter.2 ⟨hg, hsome⟩))
  · have hunique := h.unique
    unfold BlaPriv.faces at hunique
    rw [List.map_map] at hunique
    exact hunique
  · obtain ⟨face, hface, hkey⟩ := List.mem_map.1 (h.owner _ (List.mem_map_of_mem hc))
    obtain ⟨g, hg, rfl⟩ := List.mem_map.1 hface
    obtain ⟨hg, hsome⟩ := List.mem_filter.1 hg
    obtain ⟨hptr, hvid⟩ : g.ptr = c.backboneGw ∧ g.vid = c.vid := Prod.mk.inj hkey
    refine ⟨g, hg, hptr, ?_⟩
    rw [← hvid]
    exact h.find hg hsome
  · obtain ⟨-, hsent⟩ := hinv.sent_answerRequest (h.find hg hsome)
    rw [hsent, hinv.crc_eq hg, h.ownClients_eq hinv hg hsome]

/-- A step after which the gateways are found is no change of the own address that does harm. -/
lemma BlaPriv.Findable.keepsBuckets {s : BlaPriv} (h : s.Located env)
    (hinv : s.Inv [] [] fun _ => 0) {e : BlaEvent} (he : (blaStep env s e).Findable env) :
    e.KeepsBuckets env s := by
  cases e with
  | updateOrigAddress bla primaryIf oldif =>
    cases bla with
    | false => exact fun old hold => absurd hold (Option.some_ne_none old).symm
    | true =>
      cases oldif with
      | none => exact fun old hold => absurd hold (Option.some_ne_none old).symm
      | some old =>
        obtain ⟨-, hfaces⟩ := faces_blaUpdateOrigAddress hinv env primaryIf old
        rw [keepsBuckets_iff, ← h.rename_iff hinv, ← hfaces]
        change (blaUpdateOrigAddress env s true primaryIf (some old)).Findable env at he
        constructor
        · intro face hface
          obtain ⟨g, hg, rfl⟩ := List.mem_map.1 hface
          obtain ⟨hg, hsome⟩ := List.mem_filter.1 hg
          exact he.bucket g hg hsome
        · unfold BlaPriv.faces
          rw [List.map_map]
          exact he.unique
  | _ => trivial

/-- **The gateways are found in every state of a run** exactly if every change of the own address
keeps them in their buckets and apart.

**Proof sketch.** All other steps create gateways only where none is found, in the right bucket, and
remove their claims before they remove them.  A change of the address keeps the buckets and rewrites
the addresses, so what has to hold afterwards can be read off the state before it. -/
theorem bla_findable_iff (env : BlaEnv) (jiffies : Jiffies) (primaryIf : Option EthAddr)
    (events : List BlaEvent) :
    (∀ s ∈ Run.states (blaStep env) (blaInit jiffies primaryIf) events, s.Findable env) ↔
      Run.AllSteps (blaStep env) (fun s e => e.KeepsBuckets env s) (blaInit jiffies primaryIf)
        events := by
  have hinit : (blaInit jiffies primaryIf).Inv [] [] (fun _ => 0) ∧
      (blaInit jiffies primaryIf).Located env :=
    ⟨BlaPriv.Inv.run env jiffies primaryIf [], by simp [blaInit, BlaPriv.faces],
      by simp [blaInit, BlaPriv.faces], by simp [blaInit]⟩
  exact Run.forall_mem_states_iff
    (fun s : BlaPriv => s.Inv [] [] (fun _ => 0) ∧ s.Located env) (BlaPriv.Findable env)
    (fun _ _ => True)
    (fun s e hs _ => ⟨BlaPriv.Findable.keepsBuckets hs.2 hs.1,
      fun he => (hs.2.step hs.1 he).findable (hs.1.step env e)⟩)
    (fun s e hs _ he => ⟨hs.1.step env e, hs.2.step hs.1 he⟩) hinit (hinit.2.findable hinit.1)
    (Run.AllSteps.of_forall (fun _ _ => trivial) events)

/-- The own gateway is not in its bucket any more after the address of the primary interface has
changed to one with another bucket. -/
theorem bla_not_findable :
    let env : BlaEnv := ⟨fun addr vid => (addr.toNat + vid.toNat) % 32,
      fun ms => BitVec.ofNat 64 ms⟩
    ¬ (Run.final (blaStep env) (blaInit 1000 (some 0x020000000001))
      [.rx true (some 0x020000000001)
        ⟨0x020000000009, 0x0200000000AA, 0x8005, PACKET_UNICAST, false⟩,
      .updateOrigAddress true 0x020000000002 (some 0x020000000001)]).Findable env := by
  intro env h
  have hbucket := h.bucket
  revert hbucket
  decide +kernel

/-- It has a claim, but a request to it is not answered. -/
example :
    let env : BlaEnv := ⟨fun addr vid => (addr.toNat + vid.toNat) % 32,
      fun ms => BitVec.ofNat 64 ms⟩
    let s := Run.final (blaStep env) (blaInit 1000 (some 0x020000000001))
      [.rx true (some 0x020000000001)
        ⟨0x020000000009, 0x0200000000AA, 0x8005, PACKET_UNICAST, false⟩,
      .updateOrigAddress true 0x020000000002 (some 0x020000000001)]
    s.ownClients 0x020000000002 0x8005 = [0x0200000000AA] ∧
      blaAnswerRequest env s 0x020000000002 0x8005 = s := by
  decide +kernel

end Batadv
