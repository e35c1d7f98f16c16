import BatmanAdv.BridgeLoopAvoidance.Invariant

set_option relaxedAutoImplicit false
set_option autoImplicit false

/-!
# Two gateways agree again

A gateway announces the checksum of its claims.  Another gateway that has a different checksum on
record for it forgets the claims it has on record, and sends a request.  The answer is one claim
frame for each claim, and the announcement again.  Nothing but the frames goes from one gateway to
the other: what is proved here is that making, reading and processing them fits together.

## Main definitions

* `Batadv.BlaPriv.gwOf` — the gateway that is found for an address.
* `Batadv.BlaReceives` — the state of a gateway that is to get the answer.

## Main results

* `Batadv.blaProcessClaim_claimFrame` — a frame is read as it was made.
* `Batadv.BlaPriv.Inv.addClaim_find` — what a new claim changes.
* `Batadv.BlaReceives.claims`, `Batadv.BlaReceives.announce` — processing the answer.
* `Batadv.bla_resync` — what both gateways have afterwards.
-/

namespace Batadv

/-! ### Frames -/

/-- The VLAN of a frame survives the VLAN header. -/
lemma getVid_vlans (vlans : List U16) :
    getVid (if getVid vlans &&& VLAN_HAS_TAG ≠ 0 then [getVid vlans &&& VLAN_VID_MASK] else []) =
      getVid vlans := by
  have hzero : getVid (if (0 : U16) &&& VLAN_HAS_TAG ≠ 0 then [0 &&& VLAN_VID_MASK] else []) =
      0 := by decide
  cases vlans with
  | nil => exact hzero
  | cons tci vlans =>
    by_cases htci : tci &&& VLAN_VID_MASK = 0
    · have hvid : getVid (tci :: vlans) = 0 := if_pos htci
      rw [hvid]
      exact hzero
    · have hvid : getVid (tci :: vlans) = tci &&& VLAN_VID_MASK ||| VLAN_HAS_TAG := if_neg htci
      have hdisjoint : VLAN_VID_MASK &&& VLAN_HAS_TAG = 0 := by decide
      have htag : (tci &&& VLAN_VID_MASK ||| VLAN_HAS_TAG) &&& VLAN_HAS_TAG = VLAN_HAS_TAG := by
        rw [BitVec.and_or_distrib_right, BitVec.and_assoc, hdisjoint, BitVec.and_self]
        simp
      have hmask : (tci &&& VLAN_VID_MASK ||| VLAN_HAS_TAG) &&& VLAN_VID_MASK =
          tci &&& VLAN_VID_MASK := by
        have hdisjoint : VLAN_HAS_TAG &&& VLAN_VID_MASK = 0 := by decide
        rw [BitVec.and_or_distrib_right, BitVec.and_assoc, BitVec.and_self, hdisjoint]
        simp
      rw [hvid, htag, if_pos (by decide), hmask]
      show (if tci &&& VLAN_VID_MASK &&& VLAN_VID_MASK = 0 then _ else _) = _
      rw [BitVec.and_assoc, BitVec.and_self, if_neg htci]

variable {env : BlaEnv} {inMesh : EthAddr → Bool}

/-- The VLAN headers that a claim frame gets. -/
def blaVlans (vid : U16) : List U16 :=
  if vid &&& VLAN_HAS_TAG ≠ 0 then [vid &&& VLAN_VID_MASK] else []

/-- **A frame that was made by a gateway** is checked for its group, and handled. -/
lemma blaProcessClaim_frame {s : BlaPriv} {primaryIf hDest hSource hwSrc : EthAddr}
    {vlans : List U16} {type : U8} {group : U16} (hloop : type ≠ CLAIM_TYPE_LOOPDETECT) :
    (blaProcessClaim env inMesh s primaryIf ⟨hDest, hSource, blaVlans (getVid vlans),
        some ⟨ARPHRD_ETHER, ETH_P_IP, 6, 4, hwSrc, ⟨BLA_CLAIM_MAGIC, type, group⟩⟩⟩).1 =
      let r := checkClaimGroup inMesh s primaryIf hwSrc ⟨BLA_CLAIM_MAGIC, type, group⟩ hSource
      if r.2 < 2 then r.1
      else blaHandleFrame env (blaUpdateOwnBackboneGw env r.1 primaryIf (getVid vlans)) primaryIf
        ⟨hDest, hSource, blaVlans (getVid vlans),
          some ⟨ARPHRD_ETHER, ETH_P_IP, 6, 4, hwSrc, ⟨BLA_CLAIM_MAGIC, type, group⟩⟩⟩
        ⟨ARPHRD_ETHER, ETH_P_IP, 6, 4, hwSrc, ⟨BLA_CLAIM_MAGIC, type, group⟩⟩ (getVid vlans) := by
  have hvid : getVid (blaVlans (getVid vlans)) = getVid vlans := getVid_vlans vlans
  have hproto : ¬(getVid vlans &&& VLAN_HAS_TAG = 0 ∧ blaVlans (getVid vlans) ≠ []) := by
    rintro ⟨htag, hvlans⟩
    exact hvlans (if_neg (not_not.2 htag))
  have hdepth : ¬1 < (blaVlans (getVid vlans)).length := by
    unfold blaVlans
    split_ifs <;> simp
  unfold blaProcessClaim
  dsimp only
  rw [hvid, if_neg hproto, if_neg (not_not.2 rfl), if_neg (not_not.2 rfl), if_neg (not_not.2 rfl),
    if_neg (not_not.2 rfl), if_neg (not_not.2 rfl), if_neg hdepth, if_neg hloop]
  split_ifs <;> rfl

/-- **A frame of the own group**, of a gateway that is not the receiver itself. -/
lemma blaProcessClaim_of_group {s : BlaPriv} {primaryIf hDest hSource hwSrc : EthAddr}
    {vlans : List U16} {type : U8}
    (htype : type = CLAIM_TYPE_CLAIM ∧ hwSrc ≠ primaryIf ∨
      (type = CLAIM_TYPE_ANNOUNCE ∨ type = CLAIM_TYPE_REQUEST) ∧ hSource ≠ primaryIf) :
    (blaProcessClaim env inMesh s primaryIf ⟨hDest, hSource, blaVlans (getVid vlans),
        some ⟨ARPHRD_ETHER, ETH_P_IP, 6, 4, hwSrc, ⟨BLA_CLAIM_MAGIC, type, s.group⟩⟩⟩).1 =
      blaHandleFrame env (blaUpdateOwnBackboneGw env s primaryIf (getVid vlans)) primaryIf
        ⟨hDest, hSource, blaVlans (getVid vlans),
          some ⟨ARPHRD_ETHER, ETH_P_IP, 6, 4, hwSrc, ⟨BLA_CLAIM_MAGIC, type, s.group⟩⟩⟩
        ⟨ARPHRD_ETHER, ETH_P_IP, 6, 4, hwSrc, ⟨BLA_CLAIM_MAGIC, type, s.group⟩⟩ (getVid vlans) := by
  have hloop : type ≠ CLAIM_TYPE_LOOPDETECT := by
    rintro rfl
    rcases htype with ⟨heq, -⟩ | ⟨heq | heq, -⟩ <;> exact absurd heq (by decide)
  have hgroup : checkClaimGroup inMesh s primaryIf hwSrc ⟨BLA_CLAIM_MAGIC, type, s.group⟩ hSource =
      (s, 2) := by
    unfold checkClaimGroup
    rcases htype with ⟨rfl, hne⟩ | ⟨rfl | rfl, hne⟩
    · simp [hne]
    · simp [CLAIM_TYPE_ANNOUNCE, CLAIM_TYPE_CLAIM, CLAIM_TYPE_REQUEST, hne]
    · simp [CLAIM_TYPE_CLAIM, CLAIM_TYPE_REQUEST, hne]
  rw [blaProcessClaim_frame hloop, hgroup]
  rfl

lemma blaClaimFrame_claim (group : U16) (devAddr mac : EthAddr) (vid : U16) :
    blaClaimFrame group devAddr mac vid CLAIM_TYPE_CLAIM =
      ⟨BitVec.allOnes 48, mac, blaVlans vid, some ⟨ARPHRD_ETHER, ETH_P_IP, 6, 4, devAddr,
        ⟨BLA_CLAIM_MAGIC, CLAIM_TYPE_CLAIM, group⟩⟩⟩ := rfl

lemma blaClaimFrame_announce (group : U16) (devAddr mac : EthAddr) (vid : U16) :
    blaClaimFrame group devAddr mac vid CLAIM_TYPE_ANNOUNCE =
      ⟨BitVec.allOnes 48, devAddr, blaVlans vid, some ⟨ARPHRD_ETHER, ETH_P_IP, 6, 4, mac,
        ⟨BLA_CLAIM_MAGIC, CLAIM_TYPE_ANNOUNCE, group⟩⟩⟩ := rfl

lemma blaClaimFrame_request (group : U16) (devAddr mac : EthAddr) (vid : U16) :
    blaClaimFrame group devAddr mac vid CLAIM_TYPE_REQUEST =
      ⟨mac, devAddr, blaVlans vid, some ⟨ARPHRD_ETHER, ETH_P_IP, 6, 4, mac,
        ⟨BLA_CLAIM_MAGIC, CLAIM_TYPE_REQUEST, group⟩⟩⟩ := rfl

/-! ### What the functions leave alone -/

/-- What a gateway sends, and the group that it is in. -/
def BlaPriv.io (s : BlaPriv) : U16 × List BlaFrame := (s.group, s.sent)

@[simp] lemma io_backboneGwPut (s : BlaPriv) (p : ℕ) : (backboneGwPut s p).io = s.io := by
  unfold backboneGwPut
  split
  · rfl
  · split_ifs <;> rfl

@[simp] lemma io_claimPut (s : BlaPriv) (p : ℕ) : (claimPut s p).io = s.io := by
  unfold claimPut
  split
  · rfl
  · split_ifs
    · unfold claimRelease
      exact io_backboneGwPut _ _
    · rfl

@[simp] lemma io_blaReplaceBackboneGw (s : BlaPriv) (c : BlaClaim) (gw : ℕ) (removeCrc : Bool) :
    (blaReplaceBackboneGw s c gw removeCrc).io = s.io := by
  unfold blaReplaceBackboneGw
  refine (io_backboneGwPut _ _).trans ?_
  cases removeCrc <;> rfl

lemma io_blaAddClaim (s : BlaPriv) (mac : EthAddr) (vid : U16) (gw : ℕ) :
    (blaAddClaim s mac vid gw).io = s.io := by
  unfold blaAddClaim
  split
  · exact (io_claimPut _ _).trans (io_blaReplaceBackboneGw _ _ _ _)
  · dsimp only
    split_ifs
    · exact io_claimPut _ _
    · exact (io_claimPut _ _).trans (io_blaReplaceBackboneGw _ _ _ _)

lemma io_blaDelBackboneClaims (s : BlaPriv) (gw : ℕ) : (blaDelBackboneClaims s gw).io = s.io := by
  have hfold : ∀ (l : List ℕ) (s : BlaPriv), (l.foldl blaDelBackboneClaimsTurn s).io = s.io := by
    intro l
    induction l with
    | nil => exact fun s => rfl
    | cons p l ih => exact fun s => (ih _).trans (io_claimPut _ _)
  exact hfold _ s

/-- A gateway is what it was before a reference to it, or to another one, was dropped. -/
lemma exists_of_mem_backboneGwPut {s : BlaPriv} {p : ℕ} {g : BlaBackboneGw}
    (h : g ∈ (backboneGwPut s p).backboneGws) :
    ∃ g' ∈ s.backboneGws, g'.ptr = g.ptr ∧ g'.requestSent = g.requestSent := by
  unfold backboneGwPut at h
  split at h
  · exact ⟨g, h, rfl, rfl⟩
  · split_ifs at h
    · exact ⟨g, (Heap.mem_free.1 h).1, rfl, rfl⟩
    · obtain ⟨g', hg', rfl⟩ := Heap.mem_modify.1 h
      refine ⟨g', hg', ?_⟩
      split_ifs <;> exact ⟨rfl, rfl⟩

/-! ### Looking gateways up -/

/-- Whether a gateway is found for an address and a VLAN. -/
def gwIs (env : BlaEnv) (addr : EthAddr) (vid : U16) (face : ℕ × EthAddr × U16 × Option ℕ) : Bool :=
  face.2.2.2 == some (env.chooseBackboneGw addr vid) && face.2.1 == addr && face.2.2.1 == vid

/-- The gateway that is found for an address and a VLAN. -/
def BlaPriv.gwOf (env : BlaEnv) (s : BlaPriv) (addr : EthAddr) (vid : U16) : Option ℕ :=
  (s.faces.find? (gwIs env addr vid)).map Prod.fst

/-- A gateway that is looked up is in the hash table. -/
lemma gwOf_eq (s : BlaPriv) (addr : EthAddr) (vid : U16) :
    s.gwOf env addr vid = (backboneHashFind env s addr vid).map BlaBackboneGw.ptr := by
  have his : (fun g : BlaBackboneGw => decide (g.bucket.isSome = true ∧
        (gwIs env addr vid ∘ BlaBackboneGw.face) g = true)) =
      fun g => g.bucket == some (env.chooseBackboneGw addr vid) && g.orig == addr &&
        g.vid == vid := by
    funext g
    rw [Bool.eq_iff_iff]
    cases hbucket : g.bucket <;> simp [gwIs, BlaBackboneGw.face, hbucket]
  unfold BlaPriv.gwOf BlaPriv.faces backboneHashFind
  rw [List.find?_map, List.find?_filter, Option.map_map, ← his]
  rfl

/-- Functions that leave the gateways in the hash table find the same ones. -/
lemma gwOf_congr {s s' : BlaPriv} (h : s'.faces = s.faces) (addr : EthAddr) (vid : U16) :
    s'.gwOf env addr vid = s.gwOf env addr vid := by
  unfold BlaPriv.gwOf
  rw [h]

/-! ### Looking claims up -/

/-- The claim for one client is `c` afterwards, and the other claims are found as before. -/
structure BlaSets (s s' : BlaPriv) (mac : EthAddr) (vid : U16) (c : BlaClaim) : Prop where
  self : claimHashFind s' mac vid = some c
  others : ∀ addr v, (addr, v) ≠ (mac, vid) → claimHashFind s' addr v = claimHashFind s addr v

lemma BlaSets.trans {s s' s'' : BlaPriv} {mac : EthAddr} {vid : U16} {c c' : BlaClaim}
    (h : BlaSets s s' mac vid c) (h' : BlaSets s' s'' mac vid c') : BlaSets s s'' mac vid c' :=
  ⟨h'.self, fun addr v hne => (h'.others addr v hne).trans (h.others addr v hne)⟩

/-- Writing to a claim that was found what it is not looked up by. -/
lemma blaSets_updateClaim {s : BlaPriv} (hnodup : (s.claims.map BlaClaim.ptr).Nodup)
    {mac : EthAddr} {vid : U16} {c : BlaClaim} (hfind : claimHashFind s mac vid = some c)
    {f : BlaClaim → BlaClaim} (hf : ∀ c, (f c).key = c.key ∧ (f c).hashed = c.hashed) :
    BlaSets s (s.updateClaim c.ptr f) mac vid (f c) := by
  obtain ⟨hmem, -, haddr, hvid⟩ := claimHashFind_eq_some hfind
  have hmap : ∀ addr v, claimHashFind (s.updateClaim c.ptr f) addr v =
      (claimHashFind s addr v).map fun c' => if c'.ptr = c.ptr then f c' else c' := by
    intro addr v
    refine Heap.find?_modify fun c' _ _ => ?_
    obtain ⟨hkey, hhashed⟩ := hf c'
    obtain ⟨haddr, hvid⟩ := Prod.mk.inj hkey
    rw [haddr, hvid, hhashed]
  constructor
  · rw [hmap, hfind, Option.map_some, if_pos rfl]
  · intro addr v hne
    rw [hmap]
    cases hother : claimHashFind s addr v with
    | none => rfl
    | some c' =>
      obtain ⟨hmem', -, haddr', hvid'⟩ := claimHashFind_eq_some hother
      have hptr : c'.ptr ≠ c.ptr := by
        intro heq
        apply hne
        rw [← haddr', ← hvid', List.inj_on_of_nodup_map hnodup hmem' hmem heq, haddr, hvid]
      rw [Option.map_some, if_neg hptr]

/-- The claims after one was given another gateway. -/
lemma claims_blaReplaceBackboneGw (s : BlaPriv) (c : BlaClaim) (gw : ℕ) (removeCrc : Bool) :
    (blaReplaceBackboneGw s c gw removeCrc).claims =
      (s.updateClaim c.ptr fun c => { c with backboneGw := gw }).claims := by
  unfold blaReplaceBackboneGw
  refine (claims_backboneGwPut _ _).trans ?_
  cases removeCrc <;> rfl

lemma ptrs_blaReplaceBackboneGw (s : BlaPriv) (c : BlaClaim) (gw : ℕ) (removeCrc : Bool) :
    (blaReplaceBackboneGw s c gw removeCrc).claims.map BlaClaim.ptr =
      s.claims.map BlaClaim.ptr := by
  rw [claims_blaReplaceBackboneGw]
  exact Heap.map_modify fun _ _ _ => rfl

/-- Giving a claim that was found another gateway. -/
lemma blaSets_blaReplaceBackboneGw {s : BlaPriv} (hnodup : (s.claims.map BlaClaim.ptr).Nodup)
    {mac : EthAddr} {vid : U16} {c c' : BlaClaim} (hfind : claimHashFind s mac vid = some c)
    (hptr : c'.ptr = c.ptr) (gw : ℕ) (removeCrc : Bool) :
    BlaSets s (blaReplaceBackboneGw s c' gw removeCrc) mac vid { c with backboneGw := gw } := by
  have hsets := blaSets_updateClaim hnodup hfind
    (f := fun c => { c with backboneGw := gw }) fun c => ⟨rfl, rfl⟩
  have hclaims := claims_blaReplaceBackboneGw s c' gw removeCrc
  rw [hptr] at hclaims
  constructor
  · unfold claimHashFind
    rw [hclaims]
    exact hsets.self
  · intro addr v hne
    unfold claimHashFind
    rw [hclaims]
    exact hsets.others addr v hne

namespace BlaPriv.Inv

variable {s : BlaPriv} {G C : List ℕ} {d : ℕ → U16} {p : ℕ}

/-- A claim is found by its address and VLAN. -/
lemma find_of_mem (h : s.Inv G C d) {c : BlaClaim} (hc : c ∈ s.claims) (hhashed : c.hashed = true) :
    claimHashFind s c.addr c.vid = some c := by
  cases hfind : claimHashFind s c.addr c.vid with
  | none =>
    have hne := List.find?_eq_none.1 hfind c hc
    simp [hhashed] at hne
  | some c' =>
    obtain ⟨hc', hhashed', haddr, hvid⟩ := claimHashFind_eq_some hfind
    rw [List.inj_on_of_nodup_map h.claims.keys (List.mem_filter.2 ⟨hc', hhashed'⟩)
      (List.mem_filter.2 ⟨hc, hhashed⟩) (Prod.ext haddr hvid)]

/-- A claim in the hash table is not released by a function that holds it. -/
lemma claimPut_of_hashed (h : s.Inv G (p :: C) d) {c : BlaClaim} (hc : c ∈ s.claims)
    (hp : c.ptr = p) (hhashed : c.hashed = true) :
    Batadv.claimPut s p = s.updateClaim p fun c => { c with refcount := c.refcount - 1 } := by
  have hget : s.claim? p = some c := (Heap.get?_eq_some_iff h.claims.nodup).2 ⟨hc, hp⟩
  have hrefs := (h.claims.ok c hc).refcount
  rw [hhashed, hp, List.count_cons_self] at hrefs
  have hlast : c.refcount ≠ 1 := by
    change c.refcount = 1 + (C.count p + 1) at hrefs
    omega
  unfold Batadv.claimPut
  rw [hget]
  exact if_neg hlast

/-- A claim that the function holds is found as before when the function lets go of it. -/
lemma sets_claimPut (h : s.Inv G (p :: C) d) {mac : EthAddr} {vid : U16} {c : BlaClaim}
    (hfind : claimHashFind s mac vid = some c) (hp : c.ptr = p) :
    BlaSets s (Batadv.claimPut s p) mac vid { c with refcount := c.refcount - 1 } := by
  obtain ⟨hmem, hhashed, -, -⟩ := claimHashFind_eq_some hfind
  rw [h.claimPut_of_hashed hmem hp hhashed, ← hp]
  exact blaSets_updateClaim h.claims.nodup hfind
    (f := fun c => { c with refcount := c.refcount - 1 }) fun c => ⟨rfl, rfl⟩

/-- Seeing a claim again. -/
lemma sets_seeClaim (h : s.Inv G C d) {mac : EthAddr} {vid : U16} {c : BlaClaim}
    (hfind : claimHashFind s mac vid = some c) :
    BlaSets s (blaSeeClaim s c) mac vid
      { c with refcount := c.refcount + 1, lasttime := s.jiffies } := by
  have hget := h.claimGet (List.mem_map_of_mem (claimHashFind_eq_some hfind).1)
  have hheld := blaSets_updateClaim h.claims.nodup hfind
    (f := fun c => { c with refcount := c.refcount + 1 }) fun c => ⟨rfl, rfl⟩
  exact hheld.trans (blaSets_updateClaim hget.claims.nodup hheld.self
    (f := fun c => { c with lasttime := s.jiffies }) fun c => ⟨rfl, rfl⟩)

/-- **Adding a claim** gives the client to the gateway, and leaves the other claims alone. -/
theorem sets_addClaim {gw : ℕ} (h : s.Inv G C fun _ => 0) {vid : U16}
    (hgw : (gw, vid) ∈ s.backboneGws.map BlaBackboneGw.key) (mac : EthAddr) :
    ∃ c, BlaSets s (blaAddClaim s mac vid gw) mac vid c ∧ c.backboneGw = gw := by
  unfold blaAddClaim
  cases hfind : claimHashFind s mac vid with
  | none =>
    obtain ⟨hdone, -⟩ := h.createClaim hgw hfind s.jiffies
    have hnodup := hdone.claims.nodup
    rw [ptrs_blaReplaceBackboneGw] at hnodup
    have hcreated : BlaSets s (blaCreateClaim s ⟨s.nextPtr, mac, vid, gw, s.jiffies, true, 2⟩)
        mac vid ⟨s.nextPtr, mac, vid, gw, s.jiffies, true, 2⟩ := by
      constructor
      · exact List.find?_cons_of_pos (by simp)
      · intro addr v hne
        refine List.find?_cons_of_neg ?_
        intro heq
        simp only [Bool.and_eq_true, beq_iff_eq] at heq
        exact hne (Prod.ext heq.1.2.symm heq.2.symm)
    have hgiven := hcreated.trans (blaSets_blaReplaceBackboneGw hnodup hcreated.self rfl gw false)
    exact ⟨_, hgiven.trans (hdone.sets_claimPut hgiven.self rfl), rfl⟩
  | some claim =>
    obtain ⟨hmem, -, -, hvid⟩ := claimHashFind_eq_some hfind
    have hseen := h.seeClaim hmem
    have hsets := h.sets_seeClaim hfind
    dsimp only
    split_ifs with hold
    · exact ⟨_, hsets.trans (hseen.sets_claimPut hsets.self rfl), hold⟩
    · obtain ⟨hmoved, -⟩ := h.moveClaim hmem (by rw [hvid]; exact hgw)
      have hgiven := hsets.trans
        (blaSets_blaReplaceBackboneGw hseen.claims.nodup hsets.self rfl gw true)
      exact ⟨_, hgiven.trans (hmoved.sets_claimPut hgiven.self rfl), rfl⟩

/-- Adding a claim leaves the gateways in the hash table. -/
lemma faces_addClaim {gw : ℕ} (h : s.Inv G C fun _ => 0) {vid : U16}
    (hgw : (gw, vid) ∈ s.backboneGws.map BlaBackboneGw.key) (mac : EthAddr) :
    (blaAddClaim s mac vid gw).faces = s.faces := by
  unfold blaAddClaim
  cases hfind : claimHashFind s mac vid with
  | none =>
    obtain ⟨hdone, hfaces⟩ := h.createClaim hgw hfind s.jiffies
    exact hdone.faces_claimPut.trans hfaces
  | some claim =>
    obtain ⟨hmem, -, -, hvid⟩ := claimHashFind_eq_some hfind
    dsimp only
    split_ifs with hold
    · exact (h.seeClaim hmem).faces_claimPut
    · obtain ⟨hmoved, hfaces⟩ := h.moveClaim hmem (by rw [hvid]; exact hgw)
      exact hmoved.faces_claimPut.trans hfaces

end BlaPriv.Inv

/-! ### What the handlers do -/

/-- Finding or creating a gateway: it is found from now on, and nothing else changes but that the
own gateway may have announced itself. -/
structure BlaKnows (env : BlaEnv) (s s' : BlaPriv) (addr : EthAddr) (vid : U16) (p : ℕ) : Prop where
  claims : s'.claims = s.claims
  gw : s'.gwOf env addr vid = some p
  others : ∀ a v, (a, v) ≠ (addr, vid) → s'.gwOf env a v = s.gwOf env a v
  group : s'.group = s.group
  sent : ∃ announced, s'.sent = s.sent ++ announced

/-- A gateway that is known already. -/
lemma blaGetBackboneGw_of_gwOf {s : BlaPriv} {addr : EthAddr} {vid : U16} {p : ℕ}
    (hgw : s.gwOf env addr vid = some p) (primaryIf : EthAddr) (ownBackbone : Bool) :
    blaGetBackboneGw env s primaryIf addr vid ownBackbone = (backboneGwGet s p, p) := by
  rw [gwOf_eq] at hgw
  obtain ⟨g, hfind, rfl⟩ := Option.map_eq_some_iff.1 hgw
  unfold blaGetBackboneGw
  rw [hfind]

/-- `batadv_bla_get_backbone_gw`. -/
lemma blaKnows_blaGetBackboneGw (env : BlaEnv) (s : BlaPriv) (primaryIf addr : EthAddr) (vid : U16)
    (ownBackbone : Bool) :
    BlaKnows env s (blaGetBackboneGw env s primaryIf addr vid ownBackbone).1 addr vid
        (blaGetBackboneGw env s primaryIf addr vid ownBackbone).2 ∧
      (ownBackbone = false →
        (blaGetBackboneGw env s primaryIf addr vid ownBackbone).1.io = s.io) := by
  cases hgw : s.gwOf env addr vid with
  | some p =>
    rw [blaGetBackboneGw_of_gwOf hgw]
    exact ⟨⟨rfl, (gwOf_congr (BlaPriv.faces_backboneGwGet s p) addr vid).trans hgw,
      fun a v _ => gwOf_congr (BlaPriv.faces_backboneGwGet s p) a v, rfl,
      ⟨[], (List.append_nil _).symm⟩⟩, fun _ => rfl⟩
  | none =>
    rw [gwOf_eq, Option.map_eq_none_iff] at hgw
    unfold blaGetBackboneGw
    rw [hgw]
    dsimp -zeta only
    extract_lets entry
    -- the new gateway is the first one that is found, and only for its own address
    have hself : ∀ s' : BlaPriv, s'.faces = entry.face :: s.faces →
        s'.gwOf env addr vid = some s.nextPtr ∧
          ∀ a v, (a, v) ≠ (addr, vid) → s'.gwOf env a v = s.gwOf env a v := by
      intro s' hfaces
      unfold BlaPriv.gwOf
      rw [hfaces]
      constructor
      · rw [List.find?_cons_of_pos (by simp [gwIs, BlaBackboneGw.face, entry])]
        rfl
      intro a v hne
      rw [List.find?_cons_of_neg]
      intro his
      simp only [gwIs, BlaBackboneGw.face, entry, Bool.and_eq_true, beq_iff_eq] at his
      exact hne (Prod.ext his.1.2.symm his.2.symm)
    split_ifs with hown
    · have hwait : ∀ (s' : BlaPriv) (f : BlaBackboneGw → BlaBackboneGw),
          (∀ g, (f g).face = g.face) → s'.backboneGws = entry :: s.backboneGws →
          (s'.updateGw entry.ptr f).faces = entry.face :: s.faces := by
        intro s' f hf hgws
        rw [BlaPriv.faces_updateGw hf]
        unfold BlaPriv.faces
        rw [hgws, List.filter_cons_of_pos rfl, List.map_cons]
      have hfaces := hself _ (hwait (blaSendAnnounce { s with
        backboneGws := entry :: s.backboneGws, nextPtr := s.nextPtr + 1 } primaryIf entry)
        (fun g => { g with requestSent := g.requestSent + 1, waitPeriods := BLA_WAIT_PERIODS })
        (fun g => rfl) rfl)
      exact ⟨⟨rfl, hfaces.1, hfaces.2, rfl, ⟨_, rfl⟩⟩, fun hfalse => by simp [hown] at hfalse⟩
    · have hfaces := hself { s with
        backboneGws := entry :: s.backboneGws, nextPtr := s.nextPtr + 1 } rfl
      exact ⟨⟨rfl, hfaces.1, hfaces.2, rfl, ⟨[], (List.append_nil _).symm⟩⟩, fun _ => rfl⟩

namespace BlaPriv.Inv

variable {s : BlaPriv} {G C : List ℕ} {d : ℕ → U16} {p : ℕ}

/-- What is found for an address has the address. -/
lemma gwOf_spec (h : s.Inv G C d) {addr : EthAddr} {vid : U16} (hgw : s.gwOf env addr vid = some p)
    {g : BlaBackboneGw} (hg : g ∈ s.backboneGws) (hp : g.ptr = p) :
    g.orig = addr ∧ g.vid = vid := by
  rw [gwOf_eq] at hgw
  obtain ⟨g', hfind, rfl⟩ := Option.map_eq_some_iff.1 hgw
  obtain rfl := List.inj_on_of_nodup_map h.gws.nodup hg (List.mem_of_find?_eq_some hfind) hp
  have hfound := List.find?_some hfind
  simp only [Bool.and_eq_true, beq_iff_eq] at hfound
  exact ⟨hfound.1.2, hfound.2⟩

/-- What is found for an address is in memory. -/
lemma exists_of_gwOf (_h : s.Inv G C d) {addr : EthAddr} {vid : U16}
    (hgw : s.gwOf env addr vid = some p) : ∃ g ∈ s.backboneGws, g.ptr = p := by
  rw [gwOf_eq] at hgw
  obtain ⟨g, hfind, hp⟩ := Option.map_eq_some_iff.1 hgw
  exact ⟨g, List.mem_of_find?_eq_some hfind, hp⟩

/-- The checksum of a gateway. -/
lemma crc_eq (h : s.Inv G C fun _ => 0) {g : BlaBackboneGw} (hg : g ∈ s.backboneGws) :
    g.crc = BLA_CRC_INIT ^^^ Checksum.xorSum crc16 (s.clients g.ptr) := by
  rw [(h.gws.ok g hg).crc]
  exact BitVec.xor_zero

/-- `batadv_bla_update_own_backbone_gw`. -/
lemma knows_updateOwn (h : s.Inv G C fun _ => 0) (env : BlaEnv) (primaryIf : EthAddr) (vid : U16) :
    ∃ p, BlaKnows env s (blaUpdateOwnBackboneGw env s primaryIf vid) primaryIf vid p := by
  obtain ⟨hget, -⟩ := h.getBackboneGw env primaryIf primaryIf vid true
  obtain ⟨hknows, -⟩ := blaKnows_blaGetBackboneGw env s primaryIf primaryIf vid true
  refine ⟨(blaGetBackboneGw env s primaryIf primaryIf vid true).2, ?_⟩
  unfold blaUpdateOwnBackboneGw
  generalize blaGetBackboneGw env s primaryIf primaryIf vid true = r at hget hknows ⊢
  dsimp only
  have hseen : (r.1.updateGw r.2 fun g => { g with lasttime := r.1.jiffies }).Inv (r.2 :: G) C
      fun _ => 0 := hget.updateGw fun g => ⟨rfl, rfl, rfl, rfl⟩
  have hfaces : (Batadv.backboneGwPut (r.1.updateGw r.2 fun g => { g with lasttime := r.1.jiffies })
      r.2).faces = r.1.faces := by
    rw [hseen.faces_backboneGwPut, BlaPriv.faces_updateGw]
    exact fun g => rfl
  have hio := io_backboneGwPut (r.1.updateGw r.2 fun g => { g with lasttime := r.1.jiffies }) r.2
  obtain ⟨hgroup, hsent⟩ := Prod.mk.inj hio
  obtain ⟨announced, hannounced⟩ := hknows.sent
  refine ⟨?_, ?_, ?_, ?_, ⟨announced, ?_⟩⟩
  · exact (claims_backboneGwPut _ _).trans hknows.claims
  · exact (gwOf_congr hfaces _ _).trans hknows.gw
  · exact fun a v hne => (gwOf_congr hfaces _ _).trans (hknows.others a v hne)
  · exact hgroup.trans hknows.group
  · exact hsent.trans hannounced

/-- `batadv_bla_update_own_backbone_gw`, if there is the own gateway. -/
lemma updateOwn_of_gwOf (h : s.Inv G C fun _ => 0) {primaryIf : EthAddr} {vid : U16}
    (hgw : s.gwOf env primaryIf vid = some p) :
    (blaUpdateOwnBackboneGw env s primaryIf vid).claims = s.claims ∧
      (blaUpdateOwnBackboneGw env s primaryIf vid).faces = s.faces ∧
      (blaUpdateOwnBackboneGw env s primaryIf vid).io = s.io := by
  obtain ⟨g, hg, hp⟩ := h.exists_of_gwOf hgw
  have hget := h.backboneGwGet (p := p) (hp ▸ List.mem_map_of_mem hg)
  unfold blaUpdateOwnBackboneGw
  rw [blaGetBackboneGw_of_gwOf hgw]
  dsimp only
  refine ⟨claims_backboneGwPut _ _, ?_, io_backboneGwPut _ _⟩
  rw [(hget.updateGw _).faces_backboneGwPut, BlaPriv.faces_updateGw, BlaPriv.faces_backboneGwGet]
  · exact fun g => rfl
  · exact fun g => ⟨rfl, rfl, rfl, rfl⟩

/-- **A claim of a gateway that is known** gives the client to the gateway. -/
lemma sets_handleClaim (h : s.Inv [] [] fun _ => 0) {primaryIf backboneAddr : EthAddr} {vid : U16}
    (hne : backboneAddr ≠ primaryIf) (hgw : s.gwOf env backboneAddr vid = some p) (mac : EthAddr) :
    (∃ c, BlaSets s (Batadv.handleClaim env s primaryIf backboneAddr mac vid) mac vid c ∧
        c.backboneGw = p) ∧
      (Batadv.handleClaim env s primaryIf backboneAddr mac vid).faces = s.faces ∧
      (Batadv.handleClaim env s primaryIf backboneAddr mac vid).io = s.io := by
  obtain ⟨hget, hkey⟩ := h.getBackboneGw env primaryIf backboneAddr vid false
  unfold Batadv.handleClaim
  rw [blaGetBackboneGw_of_gwOf hgw] at hget hkey ⊢
  dsimp only at hget hkey ⊢
  rw [if_neg hne]
  have hadd := hget.addClaim hkey mac
  obtain ⟨c, hsets, hc⟩ := hget.sets_addClaim hkey mac
  refine ⟨⟨c, ⟨?_, ?_⟩, hc⟩, ?_, ?_⟩
  · unfold claimHashFind
    rw [claims_backboneGwPut]
    exact hsets.self
  · intro addr v hne'
    unfold claimHashFind
    rw [claims_backboneGwPut]
    exact hsets.others addr v hne'
  · rw [hadd.faces_backboneGwPut, hget.faces_addClaim hkey, BlaPriv.faces_backboneGwGet]
  · rw [io_backboneGwPut, io_blaAddClaim]
    rfl

/-- The checksum on record for an address, as the gateway that is found or created has it. -/
lemma crc_getBackboneGw (h : s.Inv [] [] fun _ => 0) (primaryIf addr : EthAddr) (vid : U16) :
    ((backboneHashFind env s addr vid).map BlaBackboneGw.crc).getD BLA_CRC_INIT =
      BLA_CRC_INIT ^^^
        Checksum.xorSum crc16 (s.clients (blaGetBackboneGw env s primaryIf addr vid false).2) := by
  unfold blaGetBackboneGw
  cases hfind : backboneHashFind env s addr vid with
  | some g => exact h.crc_eq (List.mem_of_find?_eq_some hfind)
  | none =>
    show BLA_CRC_INIT = BLA_CRC_INIT ^^^ Checksum.xorSum crc16 (s.clients s.nextPtr)
    rw [h.clients_nextPtr]
    rfl

/-- `batadv_bla_send_request` to a gateway that was found. -/
lemma sendRequest_of_gwOf (h : s.Inv G [] fun _ => 0) {addr : EthAddr} {vid : U16}
    (hgw : s.gwOf env addr vid = some p) (primaryIf : EthAddr) :
    (blaSendRequest s primaryIf p).claims = (s.claims.filter fun c => c.backboneGw ≠ p) ∧
      (blaSendRequest s primaryIf p).faces = s.faces ∧
      (blaSendRequest s primaryIf p).io =
        (s.group, s.sent ++ [blaClaimFrame s.group primaryIf addr vid CLAIM_TYPE_REQUEST]) := by
  obtain ⟨hdel, hclaims, hfaces⟩ := h.delBackboneClaims p
  have hgw' := (gwOf_congr hfaces addr vid).trans hgw
  obtain ⟨g, hg, hp⟩ := hdel.exists_of_gwOf hgw'
  obtain ⟨horig, hvid⟩ := hdel.gwOf_spec hgw' hg hp
  have hget : (blaDelBackboneClaims s p).gw? p = some g :=
    (Heap.get?_eq_some_iff hdel.gws.nodup).2 ⟨hg, hp⟩
  obtain ⟨hgroup, hsent⟩ := Prod.mk.inj (io_blaDelBackboneClaims s p)
  unfold blaSendRequest
  dsimp only
  rw [hget]
  dsimp only
  have hio : (blaSendClaim (blaDelBackboneClaims s p) primaryIf g.orig g.vid
      CLAIM_TYPE_REQUEST).io =
      (s.group, s.sent ++ [blaClaimFrame s.group primaryIf addr vid CLAIM_TYPE_REQUEST]) := by
    rw [horig, hvid]
    unfold blaSendClaim BlaPriv.io
    rw [hgroup, hsent]
  split_ifs
  · refine ⟨hclaims, ?_, hio⟩
    rw [BlaPriv.faces_updateGw]
    · exact hfaces
    · exact fun g => rfl
  · exact ⟨hclaims, hfaces, hio⟩

/-- **An announcement that does not agree**: the claims on record are forgotten, and the request is
sent. -/
lemma handleAnnounce_of_ne (h : s.Inv [] [] fun _ => 0) (primaryIf : EthAddr) {addr : EthAddr}
    {vid crc : U16}
    (hcrc : ((backboneHashFind env s addr vid).map BlaBackboneGw.crc).getD BLA_CRC_INIT ≠ crc) :
    ∃ p, BlaKnows env s (blaGetBackboneGw env s primaryIf addr vid false).1 addr vid p ∧
      (Batadv.handleAnnounce env s primaryIf (BLA_ANNOUNCE_MAC ++ crc) addr vid).1.claims =
        (s.claims.filter fun c => c.backboneGw ≠ p) ∧
      (Batadv.handleAnnounce env s primaryIf (BLA_ANNOUNCE_MAC ++ crc) addr vid).1.faces =
        (blaGetBackboneGw env s primaryIf addr vid false).1.faces ∧
      (Batadv.handleAnnounce env s primaryIf (BLA_ANNOUNCE_MAC ++ crc) addr vid).1.io =
        (s.group, s.sent ++ [blaClaimFrame s.group primaryIf addr vid CLAIM_TYPE_REQUEST]) := by
  rw [h.crc_getBackboneGw primaryIf] at hcrc
  obtain ⟨hget, -⟩ := h.getBackboneGw env primaryIf addr vid false
  obtain ⟨hknows, hio⟩ := blaKnows_blaGetBackboneGw env s primaryIf addr vid false
  have hio := hio rfl
  refine ⟨(blaGetBackboneGw env s primaryIf addr vid false).2, hknows, ?_⟩
  unfold Batadv.handleAnnounce
  rw [BitVec.extractLsb'_append_eq_left, BitVec.extractLsb'_append_eq_right,
    if_neg (not_not.2 rfl)]
  generalize blaGetBackboneGw env s primaryIf addr vid false = r at hget hknows hio hcrc ⊢
  obtain ⟨s₁, p⟩ := r
  dsimp only at hget hknows hio hcrc ⊢
  have hseen : (s₁.updateGw p fun g => { g with lasttime := s₁.jiffies }).Inv [p] [] fun _ => 0 :=
    hget.updateGw fun g => ⟨rfl, rfl, rfl, rfl⟩
  have hfaces : (s₁.updateGw p fun g => { g with lasttime := s₁.jiffies }).faces = s₁.faces :=
    BlaPriv.faces_updateGw fun g => rfl
  have hclaims : (s₁.updateGw p fun g => { g with lasttime := s₁.jiffies }).claims = s.claims :=
    hknows.claims
  have hio : (s₁.updateGw p fun g => { g with lasttime := s₁.jiffies }).io = s.io := hio
  generalize s₁.updateGw p (fun g => { g with lasttime := s₁.jiffies }) = s₂ at *
  have hgw : s₂.gwOf env addr vid = some p := (gwOf_congr hfaces addr vid).trans hknows.gw
  obtain ⟨g, hg, hp⟩ := hseen.exists_of_gwOf hgw
  have hclients : s₂.clients p = s.clients p := by
    unfold BlaPriv.clients
    rw [hclaims]
  rw [show s₂.gw? p = some g from (Heap.get?_eq_some_iff hseen.gws.nodup).2 ⟨hg, hp⟩]
  dsimp only
  rw [if_pos (by rw [hseen.crc_eq hg, hp, hclients]; exact hcrc)]
  obtain ⟨hclaims', hfaces', hio'⟩ := hseen.sendRequest_of_gwOf hgw primaryIf
  obtain ⟨hgroup, hsent⟩ := Prod.mk.inj hio
  refine ⟨?_, ?_, ?_⟩
  · rw [claims_backboneGwPut, hclaims', hclaims]
  · rw [(hseen.sendRequest primaryIf p).faces_backboneGwPut, hfaces', hfaces]
  · rw [io_backboneGwPut, hio', hgroup, hsent]

/-- **An announcement that agrees**: no request is on its way any more. -/
lemma handleAnnounce_of_eq (h : s.Inv [] [] fun _ => 0) {addr : EthAddr} {vid crc : U16}
    (hgw : s.gwOf env addr vid = some p)
    (hcrc : crc = BLA_CRC_INIT ^^^ Checksum.xorSum crc16 (s.clients p)) (primaryIf : EthAddr) :
    (Batadv.handleAnnounce env s primaryIf (BLA_ANNOUNCE_MAC ++ crc) addr vid).1.claims =
        s.claims ∧
      (Batadv.handleAnnounce env s primaryIf (BLA_ANNOUNCE_MAC ++ crc) addr vid).1.faces =
        s.faces ∧
      (Batadv.handleAnnounce env s primaryIf (BLA_ANNOUNCE_MAC ++ crc) addr vid).1.io = s.io ∧
      ∀ g ∈ (Batadv.handleAnnounce env s primaryIf (BLA_ANNOUNCE_MAC ++ crc)
        addr vid).1.backboneGws, g.ptr = p → g.requestSent = 0 := by
  obtain ⟨hget, -⟩ := h.getBackboneGw env primaryIf addr vid false
  unfold Batadv.handleAnnounce
  rw [BitVec.extractLsb'_append_eq_left, BitVec.extractLsb'_append_eq_right,
    if_neg (not_not.2 rfl)]
  rw [blaGetBackboneGw_of_gwOf hgw] at hget ⊢
  dsimp only at hget ⊢
  have hseen : ((Batadv.backboneGwGet s p).updateGw p fun g =>
      { g with lasttime := (Batadv.backboneGwGet s p).jiffies }).Inv [p] [] fun _ => 0 :=
    hget.updateGw fun g => ⟨rfl, rfl, rfl, rfl⟩
  have hfaces : ((Batadv.backboneGwGet s p).updateGw p fun g =>
      { g with lasttime := (Batadv.backboneGwGet s p).jiffies }).faces = s.faces := by
    rw [BlaPriv.faces_updateGw, BlaPriv.faces_backboneGwGet]
    exact fun g => rfl
  have hclaims : ((Batadv.backboneGwGet s p).updateGw p fun g =>
      { g with lasttime := (Batadv.backboneGwGet s p).jiffies }).claims = s.claims := rfl
  have hio : ((Batadv.backboneGwGet s p).updateGw p fun g =>
      { g with lasttime := (Batadv.backboneGwGet s p).jiffies }).io = s.io := rfl
  generalize (Batadv.backboneGwGet s p).updateGw p (fun g =>
    { g with lasttime := (Batadv.backboneGwGet s p).jiffies }) = s₂ at *
  obtain ⟨g, hg, hp⟩ := hseen.exists_of_gwOf ((gwOf_congr hfaces addr vid).trans hgw)
  have hclients : s₂.clients p = s.clients p := by
    unfold BlaPriv.clients
    rw [hclaims]
  rw [show s₂.gw? p = some g from (Heap.get?_eq_some_iff hseen.gws.nodup).2 ⟨hg, hp⟩]
  dsimp only
  rw [if_neg (not_not.2 (by rw [hseen.crc_eq hg, hp, hclients]; exact hcrc.symm))]
  rw [claims_backboneGwPut, io_backboneGwPut]
  split_ifs with hrequest
  · -- the request is taken back
    have hback : BlaPriv.Inv ({ s₂ with numRequests := s₂.numRequests - 1 }.updateGw p fun g =>
        { g with requestSent := 0 }) [p] [] fun _ => 0 := by
      apply BlaPriv.Inv.updateGw
      · exact hseen.of_eq rfl rfl rfl rfl
      · exact fun g => ⟨rfl, rfl, rfl, rfl⟩
    refine ⟨hclaims, ?_, hio, fun g' hg' hp' => ?_⟩
    · rw [hback.faces_backboneGwPut, BlaPriv.faces_updateGw]
      · exact hfaces
      · exact fun g => rfl
    · obtain ⟨g₁, hg₁, hptr, hsent⟩ := exists_of_mem_backboneGwPut hg'
      obtain ⟨g₂, -, rfl⟩ := Heap.mem_modify.1 hg₁
      rw [← hsent]
      split_ifs with heq
      · rfl
      · rw [if_neg heq] at hptr
        exact absurd (hptr.trans hp') heq
  · refine ⟨hclaims, hseen.faces_backboneGwPut.trans hfaces, hio, fun g' hg' hp' => ?_⟩
    obtain ⟨g₁, hg₁, hptr, hsent⟩ := exists_of_mem_backboneGwPut hg'
    rw [← hsent, List.inj_on_of_nodup_map hseen.gws.nodup hg₁ hg
      ((hptr.trans hp').trans hp.symm)]
    exact not_not.1 hrequest

/-- A claim of a gateway that was found is in its VLAN. -/
lemma vid_of_gwOf (h : s.Inv G C d) {addr : EthAddr} {vid : U16}
    (hgw : s.gwOf env addr vid = some p) {c : BlaClaim} (hc : c ∈ s.claims)
    (hsel : c.backboneGw = p) : c.vid = vid := by
  obtain ⟨g, hg, hkey⟩ := List.mem_map.1 (h.owner _ (List.mem_map_of_mem hc))
  obtain ⟨hptr, hvid⟩ := Prod.mk.inj hkey
  rw [← hvid]
  exact (h.gwOf_spec hgw hg (hptr.trans hsel)).2

/-- The clients of a gateway that was found are in its VLAN. -/
lemma mem_clients_iff (h : s.Inv G [] d) {addr : EthAddr} {vid : U16}
    (hgw : s.gwOf env addr vid = some p) (mac : EthAddr) :
    mac ∈ s.clients p ↔ ∃ c, claimHashFind s mac vid = some c ∧ c.backboneGw = p := by
  constructor
  · intro hmem
    obtain ⟨c, hc, rfl⟩ := List.mem_map.1 hmem
    obtain ⟨hc, hsel⟩ := List.mem_filter.1 hc
    rw [beq_iff_eq] at hsel
    refine ⟨c, ?_, hsel⟩
    rw [← h.vid_of_gwOf hgw hc hsel]
    exact h.find_of_mem hc (h.refcount_eq_one hc).1
  · rintro ⟨c, hfind, hsel⟩
    obtain ⟨hc, -, rfl, -⟩ := claimHashFind_eq_some hfind
    exact List.mem_map_of_mem (List.mem_filter.2 ⟨hc, by simpa using hsel⟩)

/-- The claims of a gateway that was found, by their keys. -/
lemma mem_keys_iff (h : s.Inv G [] d) {addr : EthAddr} {vid : U16}
    (hgw : s.gwOf env addr vid = some p) (k : EthAddr × U16) :
    k ∈ (s.claimsOf p).map BlaClaim.key ↔ k.1 ∈ s.clients p ∧ k.2 = vid := by
  constructor
  · intro hmem
    obtain ⟨c, hc, rfl⟩ := List.mem_map.1 hmem
    obtain ⟨hc, hsel⟩ := List.mem_filter.1 hc
    rw [Bool.and_eq_true] at hsel
    exact ⟨List.mem_map_of_mem (List.mem_filter.2 ⟨hc, hsel.2⟩),
      h.vid_of_gwOf hgw hc (by simpa using hsel.2)⟩
  · rintro ⟨hmem, hvid⟩
    obtain ⟨c, hc, haddr⟩ := List.mem_map.1 hmem
    obtain ⟨hc, hsel⟩ := List.mem_filter.1 hc
    refine List.mem_map.2 ⟨c, List.mem_filter.2 ⟨hc, ?_⟩, Prod.ext haddr ?_⟩
    · rw [Bool.and_eq_true]
      exact ⟨(h.refcount_eq_one hc).1, hsel⟩
    · exact (h.vid_of_gwOf hgw hc (by simpa using hsel)).trans hvid.symm

/-- A gateway has no client twice. -/
lemma nodup_clients (h : s.Inv G [] d) {addr : EthAddr} {vid : U16}
    (hgw : s.gwOf env addr vid = some p) : (s.clients p).Nodup := by
  have hsub : ((s.claims.filter fun c => c.backboneGw == p).map BlaClaim.key).Nodup := by
    refine List.Sublist.nodup (List.Sublist.map _ ?_) h.claims.keys
    have hall : s.claims.filter BlaClaim.hashed = s.claims :=
      List.filter_eq_self.2 fun c hc => (h.refcount_eq_one hc).1
    rw [hall]
    exact List.filter_sublist
  have hkeys : (s.claims.filter fun c => c.backboneGw == p).map BlaClaim.key =
      (s.clients p).map fun mac => (mac, vid) := by
    unfold BlaPriv.clients blaClients
    rw [List.map_map]
    apply List.map_congr_left
    intro c hc
    obtain ⟨hc, hsel⟩ := List.mem_filter.1 hc
    exact Prod.ext rfl (h.vid_of_gwOf hgw hc (by simpa using hsel))
  rw [hkeys] at hsub
  exact hsub.of_map _

end BlaPriv.Inv

/-! ### The answer -/

/-- A gateway that knows itself and the gateway that the answer comes from. -/
structure BlaReceives (env : BlaEnv) (s : BlaPriv) (own peer : EthAddr) (vid : U16) (p : ℕ) :
    Prop where
  inv : s.Inv [] [] fun _ => 0
  own : ∃ q, s.gwOf env own vid = some q
  peer : s.gwOf env peer vid = some p

namespace BlaReceives

variable {s : BlaPriv} {own peer : EthAddr} {vlans : List U16} {p : ℕ}

/-- A gateway that finds the same gateways goes on to receive. -/
lemma of_faces {s' : BlaPriv} (h : BlaReceives env s own peer (getVid vlans) p)
    (hinv : s'.Inv [] [] fun _ => 0) (hfaces : s'.faces = s.faces) :
    BlaReceives env s' own peer (getVid vlans) p := by
  obtain ⟨q, hq⟩ := h.own
  exact ⟨hinv, ⟨q, (gwOf_congr hfaces _ _).trans hq⟩, (gwOf_congr hfaces _ _).trans h.peer⟩

/-- **A claim frame of the answer.** -/
lemma claim (h : BlaReceives env s own peer (getVid vlans) p) (inMesh : EthAddr → Bool)
    (hne : peer ≠ own) (mac : EthAddr) :
    BlaReceives env (blaProcessClaim env inMesh s own
        (blaClaimFrame s.group peer mac (getVid vlans) CLAIM_TYPE_CLAIM)).1 own peer
        (getVid vlans) p ∧
      (blaProcessClaim env inMesh s own
        (blaClaimFrame s.group peer mac (getVid vlans) CLAIM_TYPE_CLAIM)).1.io = s.io ∧
      ∃ c, BlaSets s (blaProcessClaim env inMesh s own
        (blaClaimFrame s.group peer mac (getVid vlans) CLAIM_TYPE_CLAIM)).1 mac (getVid vlans) c ∧
        c.backboneGw = p := by
  have hinv := h.inv.processClaim env inMesh own
    (blaClaimFrame s.group peer mac (getVid vlans) CLAIM_TYPE_CLAIM)
  obtain ⟨q, hq⟩ := h.own
  obtain ⟨hclaims, hfaces, hio⟩ := h.inv.updateOwn_of_gwOf hq
  have hown := h.inv.updateOwnBackboneGw env own (getVid vlans)
  obtain ⟨⟨c, hsets, hc⟩, hfaces', hio'⟩ := hown.sets_handleClaim hne
    ((gwOf_congr hfaces peer (getVid vlans)).trans h.peer) mac
  have hprocess : (blaProcessClaim env inMesh s own
      (blaClaimFrame s.group peer mac (getVid vlans) CLAIM_TYPE_CLAIM)).1 =
      handleClaim env (blaUpdateOwnBackboneGw env s own (getVid vlans)) own peer mac
        (getVid vlans) := by
    rw [blaClaimFrame_claim, blaProcessClaim_of_group (Or.inl ⟨rfl, hne⟩)]
    exact if_pos rfl
  rw [hprocess] at hinv ⊢
  refine ⟨h.of_faces hinv (hfaces'.trans hfaces), hio'.trans hio, c, ⟨hsets.self, ?_⟩, hc⟩
  intro addr v hne'
  rw [hsets.others addr v hne']
  unfold claimHashFind
  rw [hclaims]

/-- **All the claim frames of the answer.** -/
lemma claims (h : BlaReceives env s own peer (getVid vlans) p) (inMesh : EthAddr → Bool)
    (hne : peer ≠ own) (l : List EthAddr) :
    let s' := (l.map fun mac => blaClaimFrame s.group peer mac (getVid vlans)
      CLAIM_TYPE_CLAIM).foldl (fun s frame => (blaProcessClaim env inMesh s own frame).1) s
    BlaReceives env s' own peer (getVid vlans) p ∧ s'.io = s.io ∧
      (∀ mac ∈ l, ∃ c, claimHashFind s' mac (getVid vlans) = some c ∧ c.backboneGw = p) ∧
      ∀ addr v, (addr ∈ l → v ≠ getVid vlans) →
        claimHashFind s' addr v = claimHashFind s addr v := by
  induction l generalizing s with
  | nil => exact ⟨h, rfl, by simp, fun _ _ _ => rfl⟩
  | cons mac l ih =>
    obtain ⟨hreceives, hio, c, hsets, hc⟩ := h.claim inMesh hne mac
    obtain ⟨hgroup, -⟩ := Prod.mk.inj hio
    obtain ⟨hdone, hdoneIo, hin, hout⟩ := ih hreceives
    rw [hgroup] at hdone hdoneIo hin hout
    refine ⟨hdone, hdoneIo.trans hio, fun mac' hmac' => ?_, fun addr v hv => ?_⟩
    · by_cases hmem : mac' ∈ l
      · exact hin mac' hmem
      · obtain rfl : mac' = mac := (List.mem_cons.1 hmac').resolve_right hmem
        refine ⟨c, ?_, hc⟩
        rw [List.map_cons, List.foldl_cons]
        rw [hout mac' _ fun hmem' => absurd hmem' hmem]
        exact hsets.self
    · rw [List.map_cons, List.foldl_cons]
      rw [hout addr v fun hmem => hv (List.mem_cons_of_mem _ hmem)]
      refine hsets.others addr v fun heq => ?_
      obtain ⟨rfl, rfl⟩ := Prod.mk.inj heq
      exact hv List.mem_cons_self rfl

/-- **The announcement of the answer.** -/
lemma announce (h : BlaReceives env s own peer (getVid vlans) p) (inMesh : EthAddr → Bool)
    (hne : peer ≠ own) {crc : U16}
    (hcrc : crc = BLA_CRC_INIT ^^^ Checksum.xorSum crc16 (s.clients p)) :
    let s' := (blaProcessClaim env inMesh s own
      (blaClaimFrame s.group peer (BLA_ANNOUNCE_MAC ++ crc) (getVid vlans)
        CLAIM_TYPE_ANNOUNCE)).1
    BlaReceives env s' own peer (getVid vlans) p ∧ s'.claims = s.claims ∧ s'.io = s.io ∧
      ∀ g ∈ s'.backboneGws, g.ptr = p → g.requestSent = 0 := by
  have hinv := h.inv.processClaim env inMesh own (blaClaimFrame s.group peer
    (BLA_ANNOUNCE_MAC ++ crc) (getVid vlans) CLAIM_TYPE_ANNOUNCE)
  obtain ⟨q, hq⟩ := h.own
  obtain ⟨hclaims, hfaces, hio⟩ := h.inv.updateOwn_of_gwOf hq
  have hown := h.inv.updateOwnBackboneGw env own (getVid vlans)
  have hclients : (blaUpdateOwnBackboneGw env s own (getVid vlans)).clients p = s.clients p := by
    unfold BlaPriv.clients
    rw [hclaims]
  rw [← hclients] at hcrc
  obtain ⟨hclaims', hfaces', hio', hrequest⟩ := hown.handleAnnounce_of_eq
    ((gwOf_congr hfaces peer (getVid vlans)).trans h.peer) hcrc own
  have hprocess : (blaProcessClaim env inMesh s own (blaClaimFrame s.group peer
      (BLA_ANNOUNCE_MAC ++ crc) (getVid vlans) CLAIM_TYPE_ANNOUNCE)).1 =
      (handleAnnounce env (blaUpdateOwnBackboneGw env s own (getVid vlans)) own
        (BLA_ANNOUNCE_MAC ++ crc) peer (getVid vlans)).1 := by
    rw [blaClaimFrame_announce, blaProcessClaim_of_group (Or.inr ⟨Or.inl rfl, hne⟩)]
    rfl
  rw [hprocess] at hinv ⊢
  exact ⟨h.of_faces hinv (hfaces'.trans hfaces), hclaims'.trans hclaims, hio'.trans hio, hrequest⟩

end BlaReceives

/-- Sending claims. -/
lemma blaSendClaims (primaryIf : EthAddr) (l : List BlaClaim) (s : BlaPriv) :
    (l.foldl (fun s c => blaSendClaim s primaryIf c.addr c.vid CLAIM_TYPE_CLAIM) s).claims =
        s.claims ∧
      (l.foldl (fun s c => blaSendClaim s primaryIf c.addr c.vid CLAIM_TYPE_CLAIM) s).io =
        (s.group, s.sent ++ l.map fun c =>
          blaClaimFrame s.group primaryIf c.addr c.vid CLAIM_TYPE_CLAIM) := by
  induction l generalizing s with
  | nil =>
    rw [List.map_nil, List.append_nil]
    exact ⟨rfl, rfl⟩
  | cons c l ih =>
    obtain ⟨hclaims, hio⟩ := ih (blaSendClaim s primaryIf c.addr c.vid CLAIM_TYPE_CLAIM)
    refine ⟨hclaims, hio.trans ?_⟩
    rw [List.map_cons]
    show (s.group, s.sent ++ [_] ++ _) = _
    rw [List.append_assoc, List.singleton_append]
    rfl

/-- `batadv_bla_answer_request`: the frames name the clients in the order of the hash table. -/
lemma BlaPriv.Inv.sent_answerRequest {s : BlaPriv} (h : s.Inv [] [] fun _ => 0) {own : EthAddr}
    {vid : U16} {gw : BlaBackboneGw} (hgw : backboneHashFind env s own vid = some gw) :
    (blaAnswerRequest env s own vid).claims = s.claims ∧
      (blaAnswerRequest env s own vid).sent =
        s.sent ++ ((s.clients gw.ptr).map fun mac => blaClaimFrame s.group own mac vid
          CLAIM_TYPE_CLAIM) ++
          [blaClaimFrame s.group own (BLA_ANNOUNCE_MAC ++ gw.crc) vid CLAIM_TYPE_ANNOUNCE] := by
  have hgwOf : s.gwOf env own vid = some gw.ptr := by rw [gwOf_eq, hgw, Option.map_some]
  obtain ⟨-, hvid⟩ := h.gwOf_spec hgwOf (List.mem_of_find?_eq_some hgw) rfl
  have hframes : (s.claimsOf gw.ptr).map (fun c =>
      blaClaimFrame s.group own c.addr c.vid CLAIM_TYPE_CLAIM) =
      (s.clients gw.ptr).map fun mac => blaClaimFrame s.group own mac vid CLAIM_TYPE_CLAIM := by
    have hfilter : s.claimsOf gw.ptr = s.claims.filter fun c => c.backboneGw == gw.ptr := by
      unfold BlaPriv.claimsOf
      apply List.filter_congr
      intro c hc
      rw [(h.refcount_eq_one hc).1, Bool.true_and]
    rw [hfilter]
    unfold BlaPriv.clients blaClients
    rw [List.map_map]
    apply List.map_congr_left
    intro c hc
    obtain ⟨hc, hsel⟩ := List.mem_filter.1 hc
    rw [Function.comp_apply, h.vid_of_gwOf hgwOf hc (by simpa using hsel)]
  unfold blaAnswerRequest
  rw [hgw]
  dsimp only
  obtain ⟨hclaims, hio⟩ := blaSendClaims own
    ((Batadv.backboneGwGet s gw.ptr).claimsOf gw.ptr) (Batadv.backboneGwGet s gw.ptr)
  obtain ⟨hgroup, hsent⟩ := Prod.mk.inj hio
  constructor
  · rw [claims_backboneGwPut]
    exact hclaims
  · refine (congrArg Prod.snd (io_backboneGwPut _ _)).trans ?_
    show BlaPriv.sent (List.foldl _ _ _) ++ [blaClaimFrame (BlaPriv.group (List.foldl _ _ _)) own
      (BLA_ANNOUNCE_MAC ++ gw.crc) gw.vid CLAIM_TYPE_ANNOUNCE] = _
    rw [hsent, hgroup, hvid]
    show s.sent ++ (s.claimsOf gw.ptr).map (fun c =>
      blaClaimFrame s.group own c.addr c.vid CLAIM_TYPE_CLAIM) ++
      [blaClaimFrame s.group _ _ _ _] = _
    rw [hframes]

/-- **The answer to a request**: a claim frame for each claim, and the announcement. -/
lemma BlaPriv.Inv.answer {s : BlaPriv} (h : s.Inv [] [] fun _ => 0) (inMesh : EthAddr → Bool)
    {own peer : EthAddr} (hne : peer ≠ own) {vlans : List U16} {gw : BlaBackboneGw}
    (hgw : backboneHashFind env s own (getVid vlans) = some gw) :
    (blaProcessClaim env inMesh s own
        (blaClaimFrame s.group peer own (getVid vlans) CLAIM_TYPE_REQUEST)).1.claims = s.claims ∧
      (blaProcessClaim env inMesh s own
        (blaClaimFrame s.group peer own (getVid vlans) CLAIM_TYPE_REQUEST)).1.sent =
        s.sent ++ ((s.clients gw.ptr).map fun mac => blaClaimFrame s.group own mac (getVid vlans)
          CLAIM_TYPE_CLAIM) ++ [blaClaimFrame s.group own (BLA_ANNOUNCE_MAC ++ gw.crc)
            (getVid vlans) CLAIM_TYPE_ANNOUNCE] := by
  have hprocess : (blaProcessClaim env inMesh s own
      (blaClaimFrame s.group peer own (getVid vlans) CLAIM_TYPE_REQUEST)).1 =
      blaAnswerRequest env (blaUpdateOwnBackboneGw env s own (getVid vlans)) own
        (getVid vlans) := by
    rw [blaClaimFrame_request, blaProcessClaim_of_group (Or.inr ⟨Or.inr rfl, hne⟩)]
    show (handleRequest env _ own own own _).1 = _
    unfold handleRequest
    rw [if_neg (not_not.2 rfl), if_neg (not_not.2 rfl)]
  have hgwOf : s.gwOf env own (getVid vlans) = some gw.ptr := by rw [gwOf_eq, hgw, Option.map_some]
  obtain ⟨hclaims, hfaces, hio⟩ := h.updateOwn_of_gwOf hgwOf
  have hinv := h.updateOwnBackboneGw env own (getVid vlans)
  rw [hprocess]
  generalize blaUpdateOwnBackboneGw env s own (getVid vlans) = s₁ at *
  -- the gateway is still the same object
  have hfind := (gwOf_congr hfaces own (getVid vlans)).trans hgwOf
  rw [gwOf_eq] at hfind
  obtain ⟨g, hfind, hp⟩ := Option.map_eq_some_iff.1 hfind
  obtain ⟨hgroup, hsent⟩ := Prod.mk.inj hio
  have hclients : s₁.clients gw.ptr = s.clients gw.ptr := by
    unfold BlaPriv.clients
    rw [hclaims]
  have hcrc : g.crc = gw.crc := by
    rw [hinv.crc_eq (List.mem_of_find?_eq_some hfind), hp, hclients,
      h.crc_eq (List.mem_of_find?_eq_some hgw)]
  obtain ⟨hclaims', hsent'⟩ := hinv.sent_answerRequest hfind
  refine ⟨hclaims'.trans hclaims, ?_⟩
  rw [hsent', hp, hclients, hcrc, hsent, hgroup]

/-! ### The exchange -/

/-- What the gateway that has sent the request has on record for the other one, `gwR`, after it has
processed the answer: the same claims and the same checksum, and no request on its way.  The claims
of other gateways are what they were, but for those that were taken over. -/
structure BlaResynced (env : BlaEnv) (sA sR sR' : BlaPriv) (addrA : EthAddr) (vid : U16)
    (gwA gwR : BlaBackboneGw) : Prop where
  found : backboneHashFind env sR' addrA vid = some gwR
  claims : ∀ k, k ∈ (sR'.claimsOf gwR.ptr).map BlaClaim.key ↔
    k ∈ (sA.claimsOf gwA.ptr).map BlaClaim.key
  others : ∀ addr v, (addr, v) ∉ (sA.claimsOf gwA.ptr).map BlaClaim.key →
    claimHashFind sR' addr v =
      (claimHashFind sR addr v).filter fun c => c.backboneGw ≠ gwR.ptr
  crc : gwR.crc = gwA.crc
  requestSent : gwR.requestSent = 0
  consistent : sR'.Consistent

/-- The checksums on record are those of the claims on record. -/
lemma BlaPriv.Inv.map_crc {s : BlaPriv} (h : s.Inv [] [] fun _ => 0) (addr : EthAddr) (vid : U16) :
    (backboneHashFind env s addr vid).map BlaBackboneGw.crc =
      (s.gwOf env addr vid).map fun p => BLA_CRC_INIT ^^^ Checksum.xorSum crc16 (s.clients p) := by
  rw [gwOf_eq, Option.map_map]
  apply Option.map_congr
  intro g hfind
  exact h.crc_eq (List.mem_of_find?_eq_some hfind)

/-- **The request**, after an announcement that does not agree. -/
lemma BlaPriv.Inv.request {s : BlaPriv} (h : s.Inv [] [] fun _ => 0) (env : BlaEnv)
    (inMesh : EthAddr → Bool) {own peer : EthAddr} (hne : peer ≠ own) {vlans : List U16} {crc : U16}
    (hcrc : ((backboneHashFind env s peer (getVid vlans)).map BlaBackboneGw.crc).getD
      BLA_CRC_INIT ≠ crc) :
    let s' := (blaProcessClaim env inMesh s own
      (blaClaimFrame s.group peer (BLA_ANNOUNCE_MAC ++ crc) (getVid vlans)
        CLAIM_TYPE_ANNOUNCE)).1
    ∃ p announced, BlaReceives env s' own peer (getVid vlans) p ∧
      s'.claims = (s.claims.filter fun c => c.backboneGw ≠ p) ∧
      s'.io = (s.group, s.sent ++ announced ++
        [blaClaimFrame s.group own peer (getVid vlans) CLAIM_TYPE_REQUEST]) := by
  have hinv := h.processClaim env inMesh own (blaClaimFrame s.group peer
    (BLA_ANNOUNCE_MAC ++ crc) (getVid vlans) CLAIM_TYPE_ANNOUNCE)
  have hprocess : (blaProcessClaim env inMesh s own (blaClaimFrame s.group peer
      (BLA_ANNOUNCE_MAC ++ crc) (getVid vlans) CLAIM_TYPE_ANNOUNCE)).1 =
      (Batadv.handleAnnounce env (blaUpdateOwnBackboneGw env s own (getVid vlans)) own
        (BLA_ANNOUNCE_MAC ++ crc) peer (getVid vlans)).1 := by
    rw [blaClaimFrame_announce, blaProcessClaim_of_group (Or.inr ⟨Or.inl rfl, hne⟩)]
    rfl
  dsimp only
  rw [hprocess] at hinv ⊢
  obtain ⟨q, hown⟩ := h.knows_updateOwn env own (getVid vlans)
  have hinv₁ := h.updateOwnBackboneGw env own (getVid vlans)
  obtain ⟨announced, hsent⟩ := hown.sent
  -- the own gateway may be new, but it is not the one that has announced itself
  have hkey : (peer, getVid vlans) ≠ (own, getVid vlans) := fun heq => hne (Prod.mk.inj heq).1
  have hmap : (backboneHashFind env (blaUpdateOwnBackboneGw env s own (getVid vlans)) peer
      (getVid vlans)).map BlaBackboneGw.crc =
      (backboneHashFind env s peer (getVid vlans)).map BlaBackboneGw.crc := by
    rw [hinv₁.map_crc, h.map_crc, hown.others _ _ hkey]
    unfold BlaPriv.clients
    rw [hown.claims]
  rw [← hmap] at hcrc
  obtain ⟨p, hknows, hclaims, hfaces, hio⟩ := hinv₁.handleAnnounce_of_ne own hcrc
  refine ⟨p, announced, ⟨hinv, ⟨q, ?_⟩, ?_⟩, ?_, ?_⟩
  · rw [gwOf_congr hfaces, hknows.others _ _ hkey.symm, hown.gw]
  · rw [gwOf_congr hfaces, hknows.gw]
  · rw [hclaims, hown.claims]
  · rw [hio, hown.group, hsent]

/-- What is found after the claims of a gateway were forgotten. -/
lemma BlaPriv.Inv.find_filter {s s' : BlaPriv} (h : s.Inv [] [] fun _ => 0)
    (h' : s'.Inv [] [] fun _ => 0) {p : ℕ}
    (hclaims : s'.claims = s.claims.filter fun c => c.backboneGw ≠ p) (addr : EthAddr)
    (vid : U16) :
    claimHashFind s' addr vid = (claimHashFind s addr vid).filter fun c => c.backboneGw ≠ p := by
  have hkept : ∀ c, c ∈ s'.claims ↔ c ∈ s.claims ∧ c.backboneGw ≠ p := by
    intro c
    rw [hclaims, List.mem_filter, decide_eq_true_iff]
  cases hfind' : claimHashFind s' addr vid with
  | some c =>
    obtain ⟨hc, hhashed, rfl, rfl⟩ := claimHashFind_eq_some hfind'
    obtain ⟨hc, hsel⟩ := (hkept c).1 hc
    rw [h.find_of_mem hc hhashed]
    exact (Option.filter_some_pos (p := fun c : BlaClaim => decide (c.backboneGw ≠ p))
      (decide_eq_true hsel)).symm
  | none =>
    cases hfind : claimHashFind s addr vid with
    | none => rfl
    | some c =>
      obtain ⟨hc, hhashed, rfl, rfl⟩ := claimHashFind_eq_some hfind
      by_cases hsel : c.backboneGw = p
      · exact (Option.filter_some_neg (by simpa using hsel)).symm
      · rw [h'.find_of_mem ((hkept c).2 ⟨hc, hsel⟩) hhashed] at hfind'
        exact absurd hfind' (Option.some_ne_none _)

/-- **Two gateways agree again** once one has processed the answer of the other.

**Proof sketch.** The request is sent after the claims on record are forgotten, so the claims on
record are those of the answer in the end.  Both checksums sum up the same clients by the invariant,
and the announcement that ends the answer agrees. -/
theorem bla_resync (envA envR : BlaEnv) (inMeshA inMeshR : EthAddr → Bool) {sA sR : BlaPriv}
    (hA : sA.Inv [] [] fun _ => 0) (hR : sR.Inv [] [] fun _ => 0) {addrA addrR : EthAddr}
    (hne : addrA ≠ addrR) (hgroup : sA.group = sR.group) (vlans : List U16) {gwA : BlaBackboneGw}
    (hgwA : backboneHashFind envA sA addrA (getVid vlans) = some gwA) {crc : U16}
    (hcrc : ((backboneHashFind envR sR addrA (getVid vlans)).map BlaBackboneGw.crc).getD
      BLA_CRC_INIT ≠ crc) :
    let announce := blaClaimFrame sA.group addrA (BLA_ANNOUNCE_MAC ++ crc) (getVid vlans)
      CLAIM_TYPE_ANNOUNCE
    let sR₁ := (blaProcessClaim envR inMeshR sR addrR announce).1
    let request := blaClaimFrame sR.group addrR addrA (getVid vlans) CLAIM_TYPE_REQUEST
    let sA₁ := (blaProcessClaim envA inMeshA sA addrA request).1
    ∃ announced frames gwR, sR₁.sent = sR.sent ++ announced ++ [request] ∧
      sA₁.sent = sA.sent ++ frames ∧
      frames.getLast? = some (blaClaimFrame sA.group addrA (BLA_ANNOUNCE_MAC ++ gwA.crc)
        (getVid vlans) CLAIM_TYPE_ANNOUNCE) ∧
      let sR₂ := frames.foldl (fun s frame => (blaProcessClaim envR inMeshR s addrR frame).1) sR₁
      sR₂.sent = sR₁.sent ∧ BlaResynced envR sA sR sR₂ addrA (getVid vlans) gwA gwR := by
  intro announce sR₁ request sA₁
  -- the request
  obtain ⟨p, announced, hreceives, hclaims₁, hio₁⟩ :=
    hR.request envR inMeshR hne hcrc
  rw [← hgroup] at hreceives hclaims₁
  change BlaReceives envR sR₁ addrR addrA (getVid vlans) p at hreceives
  change sR₁.claims = _ at hclaims₁
  have hio₁ : sR₁.io = (sR.group, sR.sent ++ announced ++ [request]) := by
    rw [← hio₁, ← hgroup]
  obtain ⟨hgroup₁, hsent₁⟩ := Prod.mk.inj hio₁
  -- the answer
  obtain ⟨-, hsentA⟩ := hA.answer inMeshA hne.symm hgwA
  rw [hgroup] at hsentA
  change sA₁.sent = _ at hsentA
  have hgwOfA : sA.gwOf envA addrA (getVid vlans) = some gwA.ptr := by
    rw [gwOf_eq, hgwA, Option.map_some]
  -- the claims of the answer
  obtain ⟨hreceives₂, hio₂, hin, hout⟩ := hreceives.claims inMeshR hne (sA.clients gwA.ptr)
  rw [hgroup₁] at hreceives₂ hio₂ hin hout
  generalize hs₂ : List.foldl _ sR₁ _ = s₂ at hreceives₂ hio₂ hin hout
  obtain ⟨hgroup₂, hsent₂⟩ := Prod.mk.inj hio₂
  have hmem : ∀ mac, mac ∈ s₂.clients p ↔ mac ∈ sA.clients gwA.ptr := by
    intro mac
    rw [hreceives₂.inv.mem_clients_iff hreceives₂.peer]
    refine ⟨?_, hin mac⟩
    rintro ⟨c, hfind, hc⟩
    by_contra hnone
    rw [hout mac _ fun hmac => absurd hmac hnone,
      hR.find_filter hreceives.inv hclaims₁, Option.filter_eq_some_iff] at hfind
    exact of_decide_eq_true hfind.2 hc
  -- the announcement of the answer
  have hperm : (s₂.clients p).Perm (sA.clients gwA.ptr) :=
    (List.perm_ext_iff_of_nodup (hreceives₂.inv.nodup_clients hreceives₂.peer)
      (hA.nodup_clients hgwOfA)).2 hmem
  have hcrcA : gwA.crc = BLA_CRC_INIT ^^^ Checksum.xorSum crc16 (s₂.clients p) := by
    rw [hA.crc_eq (List.mem_of_find?_eq_some hgwA), Checksum.xorSum_perm _ hperm]
  obtain ⟨hreceives₃, hclaims₃, hio₃, hrequest⟩ := hreceives₂.announce inMeshR hne hcrcA
  rw [hgroup₂, hgroup₁] at hreceives₃ hclaims₃ hio₃ hrequest
  have hfound := hreceives₃.peer
  rw [gwOf_eq] at hfound
  obtain ⟨gwR, hgwR, rfl⟩ := Option.map_eq_some_iff.1 hfound
  refine ⟨announced, _, gwR, hsent₁, hsentA.trans (List.append_assoc _ _ _), ?_, ?_, ?_⟩
  · rw [hgroup]
    exact List.getLast?_concat
  · rw [List.foldl_append, List.foldl_cons, List.foldl_nil, hs₂]
    exact (congrArg Prod.snd hio₃).trans hsent₂
  · rw [List.foldl_append, List.foldl_cons, List.foldl_nil, hs₂]
    generalize (blaProcessClaim envR inMeshR s₂ addrR _).1 = s₃ at *
    have hmemR := List.mem_of_find?_eq_some hgwR
    have hclients : s₃.clients gwR.ptr = s₂.clients gwR.ptr := by
      unfold BlaPriv.clients
      rw [hclaims₃]
    refine ⟨hgwR, fun k => ?_, fun addr v hk => ?_, ?_, hrequest gwR hmemR rfl,
      hreceives₃.inv.consistent⟩
    · rw [hreceives₃.inv.mem_keys_iff hreceives₃.peer, hA.mem_keys_iff hgwOfA, hclients, hmem]
    · rw [hA.mem_keys_iff hgwOfA] at hk
      have hsame : claimHashFind s₃ addr v = claimHashFind s₂ addr v := by
        unfold claimHashFind
        rw [hclaims₃]
      rw [hsame, hout addr v fun hmac hv => hk ⟨hmac, hv⟩,
        hR.find_filter hreceives.inv hclaims₁]
    · rw [hreceives₃.inv.crc_eq hmemR, hclients, hcrcA]

/-- One gateway has claimed a client that the other one has on record for a third gateway, and has
lost a client that the other one still has on record for it. -/
theorem bla_resync_two :
    let env : BlaEnv := ⟨fun addr vid => (addr.toNat + vid.toNat) % 4, fun ms => BitVec.ofNat 64 ms⟩
    let vid := getVid [0x0005]
    let sA := Run.final (blaStep env) (blaInit 1000 none)
      [.rx true (some 0x020000000001) ⟨0x020000000009, 0x0200000000AA, vid, PACKET_UNICAST, false⟩]
    let sR := Run.final (blaStep env) (blaInit 1000 none)
      [.tx (fun _ => true) true (some 0x020000000002)
        (blaClaimFrame 0 0x020000000003 0x0200000000AA vid CLAIM_TYPE_CLAIM) vid,
      .tx (fun _ => true) true (some 0x020000000002)
        (blaClaimFrame 0 0x020000000001 0x0200000000BB vid CLAIM_TYPE_CLAIM) vid]
    ∃ (gwA gwR : BlaBackboneGw) (frames : List BlaFrame),
      backboneHashFind env sA 0x020000000001 vid = some gwA ∧
      (blaProcessClaim env (fun _ => true) sA 0x020000000001
        (blaClaimFrame 0 0x020000000002 0x020000000001 vid CLAIM_TYPE_REQUEST)).1.sent =
        sA.sent ++ frames ∧
      let sR₁ := (blaProcessClaim env (fun _ => true) sR 0x020000000002
        (blaClaimFrame 0 0x020000000001 (BLA_ANNOUNCE_MAC ++ 0x9D81#16) vid
          CLAIM_TYPE_ANNOUNCE)).1
      BlaResynced env sA sR
        (frames.foldl (fun s frame =>
          (blaProcessClaim env (fun _ => true) s 0x020000000002 frame).1) sR₁)
        0x020000000001 vid gwA gwR := by
  intro env vid sA sR
  have hA : sA.Inv [] [] fun _ => 0 := BlaPriv.Inv.run env 1000 none _
  have hR : sR.Inv [] [] fun _ => 0 := BlaPriv.Inv.run env 1000 none _
  have hne : (0x020000000001 : EthAddr) ≠ 0x020000000002 := by decide
  have hgroupA : sA.group = 0 := by decide +kernel
  have hgroupR : sR.group = 0 := by decide +kernel
  have hcrc : ((backboneHashFind env sR 0x020000000001 vid).map BlaBackboneGw.crc).getD
      BLA_CRC_INIT ≠ 0x9D81 := by decide +kernel
  obtain ⟨gwA, hgwA⟩ := Option.isSome_iff_exists.1
    (show (backboneHashFind env sA 0x020000000001 vid).isSome = true by decide +kernel)
  obtain ⟨-, frames, gwR, -, hframes, -, -, hresynced⟩ := bla_resync env env (fun _ => true)
    (fun _ => true) hA hR hne (hgroupA.trans hgroupR.symm) [0x0005] hgwA hcrc
  rw [hgroupR] at hframes
  rw [hgroupA] at hresynced
  exact ⟨gwA, gwR, frames, hgwA, hframes, hresynced⟩

end Batadv
