import BatmanAdv.BridgeLoopAvoidance.Lookup

set_option relaxedAutoImplicit false
set_option autoImplicit false

/-!
# Who ends a claim

A gateway takes a client over from another one with a claim frame, and gives it up with an unclaim
frame.  A third gateway may get the frames of the two in any order.  An unclaim frame is processed
for the client alone: whose claim it ends is not looked at.

## Main definitions

* `Batadv.BlaClaimMsg` — a claim or an unclaim frame, as a gateway makes it.
* `Batadv.BlaWatched` — the table with the gateways whose claims are to last.
* `Batadv.BlaClaimMsg.Spares` — an unclaim frame that ends no claim of another gateway.

## Main results

* `Batadv.BlaPriv.Inv.find_free` — what the removal of a claim changes.
* `Batadv.BlaWatched.Inv.step` — a frame that spares the claims of others keeps them.
* `Batadv.bla_claims_last` — a claim lasts until its gateway, or a new claim, ends it.
-/

namespace Batadv

variable {env : BlaEnv} {inMesh : EthAddr → Bool}

/-! ### The removal of a claim -/

namespace BlaPriv.Inv

variable {s : BlaPriv} {G : List ℕ} {d : ℕ → U16}

/-- The claims after one that was found was removed. -/
lemma claims_delClaim (h : s.Inv G [] fun _ => 0) {mac : EthAddr} {vid : U16} {c : BlaClaim}
    (hfind : claimHashFind s mac vid = some c) :
    (blaDelClaim s mac vid).claims = Heap.free BlaClaim.ptr c.ptr s.claims := by
  obtain ⟨hc, hhashed, -, -⟩ := claimHashFind_eq_some hfind
  obtain ⟨-, hlast⟩ := h.refcount_eq_one hc
  have hget := h.claimGet (List.mem_map_of_mem hc)
  have hdel := hget.claimHashDel (Heap.mem_modify_self hc) hhashed
  have hmem : { c with refcount := c.refcount + 1, hashed := false } ∈
      (Batadv.claimHashDel (Batadv.claimGet s c.ptr) c.ptr).claims := by
    have hheld : { c with refcount := c.refcount + 1 } ∈ (Batadv.claimGet s c.ptr).claims :=
      Heap.mem_modify_self hc
    exact Heap.mem_modify_self hheld
  -- the reference of the hash table is dropped first, then that of the function
  have hfirst : Batadv.claimPut (Batadv.claimHashDel (Batadv.claimGet s c.ptr) c.ptr) c.ptr =
      (Batadv.claimHashDel (Batadv.claimGet s c.ptr) c.ptr).updateClaim c.ptr
        fun c => { c with refcount := c.refcount - 1 } := by
    unfold Batadv.claimPut
    rw [BlaPriv.claim?, (Heap.get?_eq_some_iff hdel.claims.nodup).2 ⟨hmem, rfl⟩]
    exact if_neg (by simp [hlast])
  have hput := hdel.claimPut
  rw [hfirst] at hput
  unfold blaDelClaim
  rw [hfind]
  dsimp only
  rw [hfirst]
  generalize hY : (Batadv.claimHashDel (Batadv.claimGet s c.ptr) c.ptr).updateClaim c.ptr
    (fun c => { c with refcount := c.refcount - 1 }) = Y at hput ⊢
  have hclaim : Y.claim? c.ptr =
      some { c with refcount := c.refcount + 1 - 1, hashed := false } := by
    refine (Heap.get?_eq_some_iff hput.claims.nodup).2 ⟨?_, rfl⟩
    rw [← hY]
    exact Heap.mem_modify_self hmem
  unfold Batadv.claimPut
  rw [hclaim]
  dsimp only
  rw [if_pos (by rw [hlast])]
  unfold Batadv.claimRelease
  rw [claims_backboneGwPut, ← hY]
  refine (Heap.free_modify ?_).trans ((Heap.free_modify ?_).trans (Heap.free_modify ?_)) <;>
    exact fun c _ hp => hp

/-- **What the removal of a claim changes**: the client has no claim, and the claims for all other
clients are found as before. -/
lemma find_free (h : s.Inv G [] d) {s' : BlaPriv} (h' : s'.Inv G [] d) {mac : EthAddr} {vid : U16}
    {c : BlaClaim} (hfind : claimHashFind s mac vid = some c)
    (hclaims : s'.claims = Heap.free BlaClaim.ptr c.ptr s.claims) :
    claimHashFind s' mac vid = none ∧
      ∀ addr v, (addr, v) ≠ (mac, vid) → claimHashFind s' addr v = claimHashFind s addr v := by
  obtain ⟨hc, hhashed, haddr, hvid⟩ := claimHashFind_eq_some hfind
  have hkept : ∀ c', c' ∈ s'.claims ↔ c' ∈ s.claims ∧ c'.ptr ≠ c.ptr := by
    intro c'
    rw [hclaims, Heap.mem_free]
  constructor
  · cases hfind' : claimHashFind s' mac vid with
    | none => rfl
    | some c' =>
      obtain ⟨hc', hhashed', rfl, rfl⟩ := claimHashFind_eq_some hfind'
      obtain ⟨hc', hptr⟩ := (hkept c').1 hc'
      rw [h.find_of_mem hc' hhashed'] at hfind
      exact absurd (congrArg BlaClaim.ptr (Option.some.inj hfind)) hptr
  · intro addr v hne
    cases hfind' : claimHashFind s' addr v with
    | some c' =>
      obtain ⟨hc', hhashed', rfl, rfl⟩ := claimHashFind_eq_some hfind'
      exact (h.find_of_mem ((hkept c').1 hc').1 hhashed').symm
    | none =>
      cases hother : claimHashFind s addr v with
      | none => rfl
      | some c' =>
        obtain ⟨hc', hhashed', rfl, rfl⟩ := claimHashFind_eq_some hother
        have hptr : c'.ptr ≠ c.ptr := by
          intro heq
          obtain rfl := List.inj_on_of_nodup_map h.claims.nodup hc' hc heq
          exact hne (Prod.ext haddr hvid)
        rw [h'.find_of_mem ((hkept c').2 ⟨hc', hptr⟩) hhashed'] at hfind'
        exact absurd hfind' (Option.some_ne_none c')

/-- Looking a gateway up leaves those in the hash table there. -/
lemma faces_getBackboneGw (env : BlaEnv) (s : BlaPriv) (primaryIf orig : EthAddr)
    (vid : U16) (ownBackbone : Bool) :
    s.faces ⊆ (blaGetBackboneGw env s primaryIf orig vid ownBackbone).1.faces := by
  cases hgw : s.gwOf env orig vid with
  | some p =>
    rw [blaGetBackboneGw_of_gwOf hgw, BlaPriv.faces_backboneGwGet]
    exact List.Subset.refl _
  | none =>
    rw [(faces_blaGetBackboneGw hgw primaryIf ownBackbone).1]
    exact List.subset_cons_self _ _

/-- `batadv_bla_update_own_backbone_gw`. -/
lemma faces_updateOwn (h : s.Inv G [] fun _ => 0) (primaryIf : EthAddr) (vid : U16) :
    s.faces ⊆ (blaUpdateOwnBackboneGw env s primaryIf vid).faces := by
  obtain ⟨hget, -⟩ := h.getBackboneGw env primaryIf primaryIf vid true
  have hfaces := faces_getBackboneGw env s primaryIf primaryIf vid true
  unfold blaUpdateOwnBackboneGw
  generalize blaGetBackboneGw env s primaryIf primaryIf vid true = r at hget hfaces ⊢
  have hseen : (r.1.updateGw r.2 fun g => { g with lasttime := r.1.jiffies }).Inv (r.2 :: G) []
      fun _ => 0 := hget.updateGw fun g => ⟨rfl, rfl, rfl, rfl⟩
  show s.faces ⊆ (Batadv.backboneGwPut _ _).faces
  rw [hseen.faces_backboneGwPut, BlaPriv.faces_updateGw]
  · exact hfaces
  · exact fun g => rfl

/-- **A claim of another gateway**, known or not. -/
lemma claimed_handleClaim (h : s.Inv [] [] fun _ => 0) (env : BlaEnv)
    {own gw : EthAddr} (hne : gw ≠ own) (mac : EthAddr) (vid : U16) :
    (∃ c, BlaSets s (Batadv.handleClaim env s own gw mac vid) mac vid c ∧
      ∃ face ∈ (Batadv.handleClaim env s own gw mac vid).faces,
        face.1 = c.backboneGw ∧ face.2.1 = gw) ∧
      s.faces ⊆ (Batadv.handleClaim env s own gw mac vid).faces := by
  obtain ⟨hget, hkey⟩ := h.getBackboneGw env own gw vid false
  obtain ⟨hknows, -⟩ := blaKnows_blaGetBackboneGw env s own gw vid false
  have hsub := faces_getBackboneGw env s own gw vid false
  have hadd := hget.addClaim hkey mac
  obtain ⟨c, hsets, hc⟩ := hget.sets_addClaim hkey mac
  have hfaces := hget.faces_addClaim hkey mac
  unfold Batadv.handleClaim
  generalize blaGetBackboneGw env s own gw vid false = r at *
  obtain ⟨s₁, p⟩ := r
  dsimp only at *
  rw [if_neg hne, hadd.faces_backboneGwPut, hfaces]
  refine ⟨⟨c, ⟨?_, fun addr v hne' => ?_⟩, ?_⟩, hsub⟩
  · unfold claimHashFind
    rw [claims_backboneGwPut]
    exact hsets.self
  · have hothers := hsets.others addr v hne'
    unfold claimHashFind at hothers ⊢
    rw [claims_backboneGwPut, hothers, hknows.claims]
  · obtain ⟨face, hfind, hp⟩ := Option.map_eq_some_iff.1 hknows.gw
    have his := List.find?_some hfind
    simp only [gwIs, Bool.and_eq_true, beq_iff_eq] at his
    exact ⟨face, List.mem_of_find?_eq_some hfind, hp.trans hc.symm, his.1.2⟩

end BlaPriv.Inv

/-! ### Claim and unclaim frames -/

/-- A claim or an unclaim frame, as `batadv_bla_send_claim` makes it on a VLAN. -/
structure BlaClaimMsg where
  unclaim : Bool
  group : U16
  gw : EthAddr
  mac : EthAddr
  vlans : List U16
deriving DecidableEq, Repr

namespace BlaClaimMsg

variable (m : BlaClaimMsg)

/-- The VLAN that the frame is sent on. -/
def vid : U16 := getVid m.vlans

/-- The frame. -/
def frame : BlaFrame :=
  blaClaimFrame m.group m.gw m.mac m.vid
    (if m.unclaim then CLAIM_TYPE_UNCLAIM else CLAIM_TYPE_CLAIM)

/-- Whether the receiver processes the frame: it is not its own, and comes from a gateway of its
group or of the mesh. -/
def accepted (inMesh : EthAddr → Bool) (s : BlaPriv) (own : EthAddr) : Bool :=
  m.gw != own && (m.group == s.group || inMesh m.gw)

/-- The check of the group, for a frame of a gateway. -/
lemma checkClaimGroup_eq (s : BlaPriv) (own hwSrc hSource : EthAddr) (type : U8)
    (htype : type = CLAIM_TYPE_CLAIM ∧ hwSrc = m.gw ∨ type = CLAIM_TYPE_UNCLAIM ∧ hSource = m.gw) :
    (m.accepted inMesh s own = true → ∃ group,
        checkClaimGroup inMesh s own hwSrc ⟨BLA_CLAIM_MAGIC, type, m.group⟩ hSource =
          ({ s with group := group }, 2)) ∧
      (m.accepted inMesh s own = false →
        (checkClaimGroup inMesh s own hwSrc ⟨BLA_CLAIM_MAGIC, type, m.group⟩ hSource).1 = s ∧
        (checkClaimGroup inMesh s own hwSrc ⟨BLA_CLAIM_MAGIC, type, m.group⟩ hSource).2 < 2) := by
  have hcheck : checkClaimGroup inMesh s own hwSrc ⟨BLA_CLAIM_MAGIC, type, m.group⟩ hSource =
      if m.gw = own then (s, 0)
      else if m.group = s.group then (s, 2)
      else if !inMesh m.gw then (s, 1)
      else if s.group < m.group then ({ s with group := m.group }, 2)
      else (s, 2) := by
    unfold checkClaimGroup
    rcases htype with ⟨rfl, rfl⟩ | ⟨rfl, rfl⟩
    · rfl
    · rfl
  unfold accepted
  rw [hcheck]
  by_cases hown : m.gw = own
  · simp [hown]
  · by_cases hgroup : m.group = s.group
    · simp only [if_neg hown, if_pos hgroup]
      refine ⟨fun _ => ⟨s.group, rfl⟩, fun hfalse => ?_⟩
      simp [hown, hgroup] at hfalse
    · cases hmesh : inMesh m.gw with
      | false => simp [hown, hgroup]
      | true =>
        simp only [if_neg hown, if_neg hgroup, Bool.not_true, Bool.false_eq_true, if_false]
        refine ⟨fun _ => ?_, fun hfalse => ?_⟩
        · split_ifs
          · exact ⟨m.group, rfl⟩
          · exact ⟨s.group, rfl⟩
        · simp [hown] at hfalse

/-- A frame that is processed. -/
lemma process_of_accepted (env : BlaEnv) {s : BlaPriv} {own : EthAddr}
    (h : m.accepted inMesh s own = true) :
    ∃ group, (blaProcessClaim env inMesh s own m.frame).1 =
      let s' := blaUpdateOwnBackboneGw env { s with group := group } own m.vid
      if m.unclaim then handleUnclaim env s' (some own) m.gw m.mac m.vid
      else handleClaim env s' own m.gw m.mac m.vid := by
  unfold frame
  cases hunclaim : m.unclaim with
  | true =>
    obtain ⟨group, hgroup⟩ := (m.checkClaimGroup_eq s own m.mac m.gw _ (Or.inr ⟨rfl, rfl⟩)).1 h
    refine ⟨group, ?_⟩
    show (blaProcessClaim env inMesh s own ⟨BitVec.allOnes 48, m.gw, blaVlans (getVid m.vlans),
      some ⟨ARPHRD_ETHER, ETH_P_IP, 6, 4, m.mac, ⟨BLA_CLAIM_MAGIC, CLAIM_TYPE_UNCLAIM,
        m.group⟩⟩⟩).1 = _
    rw [blaProcessClaim_frame (by decide), hgroup]
    rfl
  | false =>
    obtain ⟨group, hgroup⟩ := (m.checkClaimGroup_eq s own m.gw m.mac _ (Or.inl ⟨rfl, rfl⟩)).1 h
    refine ⟨group, ?_⟩
    show (blaProcessClaim env inMesh s own ⟨BitVec.allOnes 48, m.mac, blaVlans (getVid m.vlans),
      some ⟨ARPHRD_ETHER, ETH_P_IP, 6, 4, m.gw, ⟨BLA_CLAIM_MAGIC, CLAIM_TYPE_CLAIM,
        m.group⟩⟩⟩).1 = _
    rw [blaProcessClaim_frame (by decide), hgroup]
    rfl

/-- A frame that is not processed. -/
lemma process_of_not_accepted {s : BlaPriv} {own : EthAddr}
    (h : m.accepted inMesh s own = false) :
    (blaProcessClaim env inMesh s own m.frame).1 = s := by
  unfold frame
  cases hunclaim : m.unclaim with
  | true =>
    obtain ⟨hsame, hret⟩ := (m.checkClaimGroup_eq s own m.mac m.gw _ (Or.inr ⟨rfl, rfl⟩)).2 h
    show (blaProcessClaim env inMesh s own ⟨BitVec.allOnes 48, m.gw, blaVlans (getVid m.vlans),
      some ⟨ARPHRD_ETHER, ETH_P_IP, 6, 4, m.mac, ⟨BLA_CLAIM_MAGIC, CLAIM_TYPE_UNCLAIM,
        m.group⟩⟩⟩).1 = _
    rw [blaProcessClaim_frame (by decide)]
    exact (if_pos hret).trans hsame
  | false =>
    obtain ⟨hsame, hret⟩ := (m.checkClaimGroup_eq s own m.gw m.mac _ (Or.inl ⟨rfl, rfl⟩)).2 h
    show (blaProcessClaim env inMesh s own ⟨BitVec.allOnes 48, m.mac, blaVlans (getVid m.vlans),
      some ⟨ARPHRD_ETHER, ETH_P_IP, 6, 4, m.gw, ⟨BLA_CLAIM_MAGIC, CLAIM_TYPE_CLAIM,
        m.group⟩⟩⟩).1 = _
    rw [blaProcessClaim_frame (by decide)]
    exact (if_pos hret).trans hsame

end BlaClaimMsg

/-! ### The claims that are to last -/

/-- The table, and for each client the gateway that has sent the last claim frame for it that was
processed, unless it has sent an unclaim frame for it since. -/
structure BlaWatched where
  bla : BlaPriv
  owner : EthAddr → U16 → Option EthAddr

/-- The state after a frame. -/
def BlaWatched.step (env : BlaEnv) (inMesh : EthAddr → Bool) (own : EthAddr) (w : BlaWatched)
    (m : BlaClaimMsg) : BlaWatched where
  bla := (blaProcessClaim env inMesh w.bla own m.frame).1
  owner mac vid :=
    if m.accepted inMesh w.bla own ∧ (mac, vid) = (m.mac, m.vid) then
      if !m.unclaim then some m.gw
      else if w.owner mac vid = some m.gw then none
      else w.owner mac vid
    else w.owner mac vid

/-- The claim on record for a client is that of a gateway. -/
def BlaPriv.ClaimedBy (s : BlaPriv) (mac : EthAddr) (vid : U16) (gw : EthAddr) : Prop :=
  ∃ c, claimHashFind s mac vid = some c ∧
    ∃ g ∈ s.backboneGws, g.bucket.isSome = true ∧ g.ptr = c.backboneGw ∧ g.orig = gw

/-- **An unclaim frame that ends no claim of another gateway**: a gateway that is known only gives
up what is on record for it. -/
def BlaClaimMsg.Spares (env : BlaEnv) (inMesh : EthAddr → Bool) (own : EthAddr) (w : BlaWatched)
    (m : BlaClaimMsg) : Prop :=
  m.unclaim = true → m.accepted inMesh w.bla own = true →
    ∀ gw ∈ backboneHashFind env w.bla m.gw m.vid, ∀ c ∈ claimHashFind w.bla m.mac m.vid,
      c.backboneGw = gw.ptr

instance (w : BlaWatched) (own : EthAddr) (m : BlaClaimMsg) :
    Decidable (m.Spares env inMesh own w) :=
  inferInstanceAs (Decidable (_ → _ →
    ∀ gw ∈ backboneHashFind env w.bla m.gw m.vid, ∀ c ∈ claimHashFind w.bla m.mac m.vid, _))

/-- An unclaim frame leaves the claims and the checksums of all other gateways alone. -/
def BlaClaimMsg.KeepsOthers (env : BlaEnv) (inMesh : EthAddr → Bool) (own : EthAddr)
    (w : BlaWatched) (m : BlaClaimMsg) : Prop :=
  m.unclaim = true → ∀ g ∈ w.bla.backboneGws, g.bucket.isSome = true → g.orig ≠ m.gw →
    (∀ c ∈ w.bla.claims, c.backboneGw = g.ptr →
      claimHashFind (w.step env inMesh own m).bla c.addr c.vid = some c) ∧
    ∃ g' ∈ (w.step env inMesh own m).bla.backboneGws, g'.face = g.face ∧ g'.crc = g.crc

/-- **The invariant**: the claims that are to last are on record. -/
structure BlaWatched.Inv (w : BlaWatched) : Prop where
  bla : w.bla.Inv [] [] fun _ => 0
  owned : ∀ mac vid gw, w.owner mac vid = some gw → w.bla.ClaimedBy mac vid gw

/-- Who has claimed a client, in terms of what is looked up. -/
lemma claimedBy_iff {s : BlaPriv} {mac : EthAddr} {vid : U16} {gw : EthAddr} :
    s.ClaimedBy mac vid gw ↔ ∃ c, claimHashFind s mac vid = some c ∧
      ∃ face ∈ s.faces, face.1 = c.backboneGw ∧ face.2.1 = gw := by
  constructor
  · rintro ⟨c, hfind, g, hg, hsome, hptr, horig⟩
    exact ⟨c, hfind, g.face, List.mem_map_of_mem (List.mem_filter.2 ⟨hg, hsome⟩), hptr, horig⟩
  · rintro ⟨c, hfind, face, hface, hptr, horig⟩
    obtain ⟨g, hg, rfl⟩ := List.mem_map.1 hface
    obtain ⟨hg, hsome⟩ := List.mem_filter.1 hg
    exact ⟨c, hfind, g, hg, hsome, hptr, horig⟩

/-- Who has claimed a client, after functions that find the same claim. -/
lemma BlaPriv.ClaimedBy.mono {s s' : BlaPriv} {mac : EthAddr} {vid : U16} {gw : EthAddr}
    (h : s.ClaimedBy mac vid gw) (hfind : claimHashFind s' mac vid = claimHashFind s mac vid)
    (hfaces : s.faces ⊆ s'.faces) : s'.ClaimedBy mac vid gw := by
  rw [claimedBy_iff] at h ⊢
  obtain ⟨c, hc, face, hface, hgw⟩ := h
  exact ⟨c, hfind.trans hc, face, hfaces hface, hgw⟩

namespace BlaClaimMsg

variable (m : BlaClaimMsg) {s : BlaPriv} {own : EthAddr}

/-- What is known of the table after the own gateway was looked up. -/
lemma updateOwn (h : s.Inv [] [] fun _ => 0) (env : BlaEnv) (own : EthAddr) (group : U16)
    (vid : U16) :
    let s' := blaUpdateOwnBackboneGw env { s with group := group } own vid
    s'.Inv [] [] (fun _ => 0) ∧ s'.claims = s.claims ∧ s.faces ⊆ s'.faces ∧
      ∀ gw, gw ≠ own → s'.gwOf env gw vid = s.gwOf env gw vid := by
  have hgroup : BlaPriv.Inv { s with group := group } [] [] fun _ => 0 := h.of_eq rfl rfl rfl rfl
  obtain ⟨q, hknows⟩ := hgroup.knows_updateOwn env own vid
  refine ⟨hgroup.updateOwnBackboneGw env own vid, hknows.claims, hgroup.faces_updateOwn own vid,
    fun gw hne => ?_⟩
  exact hknows.others gw vid fun heq => hne (Prod.mk.inj heq).1

/-- **A claim frame** that is processed. -/
lemma claim (h : s.Inv [] [] fun _ => 0) (env : BlaEnv) (hm : m.unclaim = false)
    (hacc : m.accepted inMesh s own = true) :
    let s' := (blaProcessClaim env inMesh s own m.frame).1
    s'.ClaimedBy m.mac m.vid m.gw ∧ s.faces ⊆ s'.faces ∧
      ∀ addr v, (addr, v) ≠ (m.mac, m.vid) → claimHashFind s' addr v = claimHashFind s addr v := by
  have hne : m.gw ≠ own := by
    unfold accepted at hacc
    rw [Bool.and_eq_true] at hacc
    simpa using hacc.1
  obtain ⟨group, hprocess⟩ := m.process_of_accepted env hacc
  obtain ⟨hinv, hclaims, hfaces, -⟩ := updateOwn h env own group m.vid
  dsimp only at hprocess ⊢
  rw [hprocess, hm, if_neg Bool.false_ne_true]
  generalize blaUpdateOwnBackboneGw env { s with group := group } own m.vid = s₁ at *
  obtain ⟨⟨c, hsets, hface⟩, hgrown⟩ := hinv.claimed_handleClaim env hne m.mac m.vid
  refine ⟨claimedBy_iff.2 ⟨c, hsets.self, hface⟩, List.Subset.trans hfaces hgrown, ?_⟩
  intro addr v hother
  rw [hsets.others addr v hother]
  unfold claimHashFind
  rw [hclaims]

/-- **An unclaim frame** that is processed removes the claim for the client, if there is one and the
gateway is known. -/
lemma unclaim_frame (h : s.Inv [] [] fun _ => 0) (env : BlaEnv) (hm : m.unclaim = true)
    (hacc : m.accepted inMesh s own = true) :
    let s' := (blaProcessClaim env inMesh s own m.frame).1
    s.faces ⊆ s'.faces ∧ (s'.claims = s.claims ∨
      ∃ gw c, backboneHashFind env s m.gw m.vid = some gw ∧
        claimHashFind s m.mac m.vid = some c ∧
        s'.claims = Heap.free BlaClaim.ptr c.ptr s.claims) := by
  have hne : m.gw ≠ own := by
    unfold accepted at hacc
    rw [Bool.and_eq_true] at hacc
    simpa using hacc.1
  obtain ⟨group, hprocess⟩ := m.process_of_accepted env hacc
  obtain ⟨hinv, hclaims, hfaces, hgw⟩ := updateOwn h env own group m.vid
  dsimp only at hprocess ⊢
  rw [hprocess, hm, if_pos rfl]
  generalize blaUpdateOwnBackboneGw env { s with group := group } own m.vid = s₁ at *
  have hgw := hgw m.gw hne
  have hwithin := hinv.within_handleUnclaim env (some own) m.gw m.mac m.vid
  refine ⟨by rw [hwithin.faces]; exact hfaces, ?_⟩
  unfold handleUnclaim
  dsimp only
  rw [if_neg hne]
  cases hfind : backboneHashFind env s₁ m.gw m.vid with
  | none => exact Or.inl hclaims
  | some gw =>
    have hget := hinv.backboneGwGet (List.mem_map_of_mem (List.mem_of_find?_eq_some hfind))
    rw [gwOf_eq, gwOf_eq, hfind] at hgw
    obtain ⟨gw', hfind', -⟩ := Option.map_eq_some_iff.1 hgw.symm
    dsimp only
    rw [claims_backboneGwPut]
    cases hclaim : claimHashFind s m.mac m.vid with
    | none =>
      left
      have hnone : claimHashFind (backboneGwGet s₁ gw.ptr) m.mac m.vid = none := by
        rw [← hclaim]
        show s₁.claims.find? _ = _
        rw [hclaims]
        rfl
      unfold blaDelClaim
      rw [hnone]
      exact hclaims
    | some c =>
      right
      have hsome : claimHashFind (backboneGwGet s₁ gw.ptr) m.mac m.vid = some c := by
        rw [← hclaim]
        show s₁.claims.find? _ = _
        rw [hclaims]
        rfl
      refine ⟨gw', c, hfind', rfl, ?_⟩
      rw [hget.claims_delClaim hsome]
      show Heap.free _ _ s₁.claims = _
      rw [hclaims]

end BlaClaimMsg

namespace BlaWatched.Inv

variable {w : BlaWatched} {own : EthAddr} {m : BlaClaimMsg}

/-- The claim that an unclaim frame ends, if it spares the others, is that of its sender. -/
lemma owner_of_spares (h : w.Inv) (hm : m.Spares env inMesh own w) (hunclaim : m.unclaim = true)
    (hacc : m.accepted inMesh w.bla own = true) {gw : BlaBackboneGw}
    (hgw : backboneHashFind env w.bla m.gw m.vid = some gw) {c : BlaClaim}
    (hc : claimHashFind w.bla m.mac m.vid = some c) {face : ℕ × EthAddr × U16 × Option ℕ}
    (hface : face ∈ w.bla.faces) (hptr : face.1 = c.backboneGw) : face.2.1 = m.gw := by
  have hgwOf : w.bla.gwOf env m.gw m.vid = some gw.ptr := by rw [gwOf_eq, hgw, Option.map_some]
  have heq := hm hunclaim hacc gw hgw c hc
  obtain ⟨g, hg, rfl⟩ := List.mem_map.1 hface
  exact (h.bla.gwOf_spec hgwOf (List.mem_filter.1 hg).1 (hptr.trans heq)).1

/-- **An unclaim frame** keeps the claims that are to last, and all of other gateways. -/
lemma unclaim_step (h : w.Inv) (hm : m.Spares env inMesh own w) (hunclaim : m.unclaim = true)
    (hacc : m.accepted inMesh w.bla own = true) :
    (w.step env inMesh own m).Inv ∧ m.KeepsOthers env inMesh own w := by
  have hinv : (w.step env inMesh own m).bla.Inv [] [] fun _ => 0 :=
    h.bla.processClaim env inMesh own m.frame
  obtain ⟨hfaces, hclaims⟩ := m.unclaim_frame h.bla env hunclaim hacc
  change w.bla.faces ⊆ (w.step env inMesh own m).bla.faces at hfaces
  change (w.step env inMesh own m).bla.claims = _ ∨ _ at hclaims
  have howner : ∀ mac vid gw, (w.step env inMesh own m).owner mac vid = some gw →
      w.owner mac vid = some gw ∧ ((mac, vid) = (m.mac, m.vid) → gw ≠ m.gw) := by
    intro mac vid gw hsome
    simp only [step, hacc, hunclaim, true_and, Bool.not_true, Bool.false_eq_true, if_false] at hsome
    split_ifs at hsome with hkey hown
    · exact ⟨hsome, fun _ heq => hown (hsome.trans (congrArg some heq))⟩
    · exact ⟨hsome, fun heq => absurd heq hkey⟩
  have hfound : ∀ g ∈ w.bla.backboneGws, g.bucket.isSome = true →
      ∃ g' ∈ (w.step env inMesh own m).bla.backboneGws, g'.face = g.face := by
    intro g hg hsome
    obtain ⟨g', hg', hface⟩ := List.mem_map.1
      (hfaces (List.mem_map_of_mem (List.mem_filter.2 ⟨hg, hsome⟩)))
    exact ⟨g', (List.mem_filter.1 hg').1, hface⟩
  -- a gateway whose clients are the same has the same checksum
  have hcrc : ∀ g ∈ w.bla.backboneGws, g.bucket.isSome = true →
      (w.step env inMesh own m).bla.clients g.ptr = w.bla.clients g.ptr →
      ∃ g' ∈ (w.step env inMesh own m).bla.backboneGws, g'.face = g.face ∧ g'.crc = g.crc := by
    intro g hg hsome hclients
    obtain ⟨g', hg', hface⟩ := hfound g hg hsome
    refine ⟨g', hg', hface, ?_⟩
    rw [hinv.crc_eq hg', h.bla.crc_eq hg, show g'.ptr = g.ptr from congrArg Prod.fst hface,
      hclients]
  rcases hclaims with hsame | ⟨gw, c, hgw, hc, hfree⟩
  · -- nothing was removed
    have hfind : ∀ addr v, claimHashFind (w.step env inMesh own m).bla addr v =
        claimHashFind w.bla addr v := by
      intro addr v
      unfold claimHashFind
      rw [hsame]
    refine ⟨⟨hinv, fun mac vid gw hsome => ?_⟩, fun _ g hg hsome _ => ⟨fun c hc _ => ?_, ?_⟩⟩
    · exact (h.owned mac vid gw (howner mac vid gw hsome).1).mono (hfind mac vid) hfaces
    · rw [hfind]
      exact h.bla.find_of_mem hc (h.bla.refcount_eq_one hc).1
    · refine hcrc g hg hsome ?_
      unfold BlaPriv.clients
      rw [hsame]
  · -- the claim of the sender was removed
    change (w.step env inMesh own m).bla.claims = _ at hfree
    obtain ⟨-, hothers⟩ := h.bla.find_free hinv hc hfree
    have hsender : ∀ face ∈ w.bla.faces, face.1 = c.backboneGw → face.2.1 = m.gw :=
      fun _ => h.owner_of_spares hm hunclaim hacc hgw hc
    refine ⟨⟨hinv, fun mac vid gw' hsome => ?_⟩, fun _ g hg hsome horig => ⟨?_, ?_⟩⟩
    · obtain ⟨hold, hne⟩ := howner mac vid gw' hsome
      have hclaimed := h.owned mac vid gw' hold
      by_cases hkey : (mac, vid) = (m.mac, m.vid)
      · -- the client was to stay with another gateway than the sender
        obtain ⟨c', hc', face, hface, hptr, hgw'⟩ := claimedBy_iff.1 hclaimed
        obtain ⟨rfl, rfl⟩ := Prod.mk.inj hkey
        rw [hc] at hc'
        obtain rfl := Option.some.inj hc'
        exact absurd (hgw'.symm.trans (hsender face hface hptr)) (hne hkey)
      · exact hclaimed.mono (hothers mac vid hkey) hfaces
    · intro c' hc' hptr
      have hfind' := h.bla.find_of_mem hc' (h.bla.refcount_eq_one hc').1
      rw [hothers, hfind']
      intro hkey
      obtain ⟨haddr, hvid⟩ := Prod.mk.inj hkey
      rw [haddr, hvid, hc] at hfind'
      obtain rfl := Option.some.inj hfind'
      exact horig (hsender _ (List.mem_map_of_mem (List.mem_filter.2 ⟨hg, hsome⟩)) hptr.symm)
    · refine hcrc g hg hsome ?_
      unfold BlaPriv.clients blaClients
      rw [hfree]
      unfold Heap.free
      rw [List.filter_filter]
      congr 1
      apply List.filter_congr
      intro c' hc'
      rw [Bool.and_eq_left_iff_imp, beq_iff_eq, decide_eq_true_iff]
      intro hptr heq
      obtain rfl := List.inj_on_of_nodup_map h.bla.claims.nodup hc' (claimHashFind_eq_some hc).1 heq
      exact horig (hsender _ (List.mem_map_of_mem (List.mem_filter.2 ⟨hg, hsome⟩)) hptr.symm)

/-- **A step**: a frame that spares the claims of others keeps them. -/
theorem step (h : w.Inv) (hm : m.Spares env inMesh own w) :
    (w.step env inMesh own m).Inv ∧ m.KeepsOthers env inMesh own w := by
  cases hacc : m.accepted inMesh w.bla own with
  | false =>
    have hsame : (w.step env inMesh own m).bla = w.bla := m.process_of_not_accepted hacc
    refine ⟨⟨by rw [hsame]; exact h.bla, fun mac vid gw hsome => ?_⟩,
      fun _ g hg _ _ => ⟨fun c hc _ => ?_, g, by rw [hsame]; exact hg, rfl, rfl⟩⟩
    · rw [hsame]
      simp only [BlaWatched.step, hacc, Bool.false_eq_true, false_and, if_false] at hsome
      exact h.owned mac vid gw hsome
    · rw [hsame]
      exact h.bla.find_of_mem hc (h.bla.refcount_eq_one hc).1
  | true =>
    cases hunclaim : m.unclaim with
    | true => exact h.unclaim_step hm hunclaim hacc
    | false =>
      obtain ⟨hclaimed, hfaces, hothers⟩ := m.claim h.bla env hunclaim hacc
      refine ⟨⟨h.bla.processClaim env inMesh own m.frame, fun mac vid gw hsome => ?_⟩,
        fun hfalse => absurd (hunclaim.symm.trans hfalse) Bool.false_ne_true⟩
      simp only [BlaWatched.step, hacc, hunclaim, true_and, Bool.not_false, if_true] at hsome
      split_ifs at hsome with hkey
      · obtain ⟨rfl, rfl⟩ := Prod.mk.inj hkey
        obtain rfl := Option.some.inj hsome
        exact hclaimed
      · exact (h.owned mac vid gw hsome).mono (hothers mac vid hkey) hfaces

end BlaWatched.Inv

/-- **A claim lasts until its gateway, or a new claim, ends it**, if no gateway gives up what is on
record for another one; and no unclaim frame changes the claims or the checksum of another gateway
then. -/
theorem bla_claims_last (env : BlaEnv) (inMesh : EthAddr → Bool) (own : EthAddr) {s : BlaPriv}
    (h : s.Inv [] [] fun _ => 0) {msgs : List BlaClaimMsg}
    (hmsgs : Run.AllSteps (BlaWatched.step env inMesh own)
      (fun w m => m.Spares env inMesh own w) ⟨s, fun _ _ => none⟩ msgs) :
    (∀ w ∈ Run.states (BlaWatched.step env inMesh own) ⟨s, fun _ _ => none⟩ msgs,
      ∀ mac vid gw, w.owner mac vid = some gw → w.bla.ClaimedBy mac vid gw) ∧
      Run.AllSteps (BlaWatched.step env inMesh own)
        (fun w m => m.KeepsOthers env inMesh own w) ⟨s, fun _ _ => none⟩ msgs := by
  have hinit : BlaWatched.Inv ⟨s, fun _ _ => none⟩ := by
    refine ⟨h, fun mac vid gw hsome => ?_⟩
    exact absurd hsome.symm (Option.some_ne_none gw)
  constructor
  · intro w hw
    exact (Run.AllSteps.forall_mem_states BlaWatched.Inv (fun _ _ hinv hm => (hinv.step hm).1) hinit
      hmsgs w hw).owned
  · exact Run.AllSteps.imp BlaWatched.Inv
      (fun _ _ hinv hm => ⟨(hinv.step hm).2, (hinv.step hm).1⟩) hinit hmsgs

/-- A client that roams from one gateway to another: the first one gives it up, the second one takes
it over. -/
theorem bla_claims_last_roamed :
    let env : BlaEnv := ⟨fun addr vid => (addr.toNat + vid.toNat) % 32,
      fun ms => BitVec.ofNat 64 ms⟩
    ∀ w ∈ Run.states (BlaWatched.step env (fun _ => true) 0x020000000003)
        ⟨blaInit 1000 none, fun _ _ => none⟩
        [⟨false, 0, 0x020000000001, 0x0200000000AA, [5]⟩,
          ⟨true, 0, 0x020000000001, 0x0200000000AA, [5]⟩,
          ⟨false, 0, 0x020000000002, 0x0200000000AA, [5]⟩,
          ⟨true, 0, 0x020000000001, 0x0200000000BB, [5]⟩],
      ∀ mac vid gw, w.owner mac vid = some gw → w.bla.ClaimedBy mac vid gw := by
  intro env
  have hinit : (blaInit 1000 none).Inv [] [] fun _ => 0 := BlaPriv.Inv.run env 1000 none []
  exact (bla_claims_last env (fun _ => true) 0x020000000003 hinit (by decide +kernel)).1

/-- The unclaim frame of the first gateway comes after the claim frame of the second one, and ends
its claim. -/
theorem bla_claim_lost :
    let env : BlaEnv := ⟨fun addr vid => (addr.toNat + vid.toNat) % 32,
      fun ms => BitVec.ofNat 64 ms⟩
    let w := Run.final (BlaWatched.step env (fun _ => true) 0x020000000003)
      ⟨blaInit 1000 none, fun _ _ => none⟩
      [⟨false, 0, 0x020000000001, 0x0200000000AA, [5]⟩,
        ⟨false, 0, 0x020000000002, 0x0200000000AA, [5]⟩,
        ⟨true, 0, 0x020000000001, 0x0200000000AA, [5]⟩]
    w.owner 0x0200000000AA 0x8005 = some 0x020000000002 ∧
      ¬ w.bla.ClaimedBy 0x0200000000AA 0x8005 0x020000000002 := by
  intro env w
  have hnone : claimHashFind w.bla 0x0200000000AA 0x8005 = none := by decide +kernel
  refine ⟨by decide +kernel, ?_⟩
  rintro ⟨c, hfind, -⟩
  rw [hnone] at hfind
  exact absurd hfind.symm (Option.some_ne_none c)

end Batadv
