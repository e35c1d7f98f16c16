import BatmanAdv.BridgeLoopAvoidance.Claims
import BatmanAdv.Lib.Run

set_option relaxedAutoImplicit false
set_option autoImplicit false

/-!
# The checksums of bridge loop avoidance

The checksum of a gateway is never computed from its claims: it is changed by the check of one
client whenever a claim gets or loses the gateway.  It nevertheless is the exclusive or over the
claims, because each claim that refers to the gateway is counted in once, and is counted out when
its last reference is dropped or when it goes to another gateway.

Within a function this holds up to the references that the function has, and up to the checks that
it has still to add, and the invariant has both as parameters.

## Main definitions

* `Batadv.BlaPriv.clients` — the clients whose claims refer to a gateway.
* `Batadv.BlaPriv.Inv` — the invariant.
* `Batadv.BlaPriv.Consistent` — what it says between two steps.

## Main results

* `Batadv.BlaPriv.Inv.claimPut`, `Batadv.BlaPriv.Inv.addClaim`, `Batadv.BlaPriv.Inv.delClaim`,
  `Batadv.BlaPriv.Inv.delBackboneClaims` — the functions of the claim table.
* `Batadv.BlaPriv.Inv.processClaim`, `Batadv.BlaPriv.Inv.step` — a received frame, and a step.
* `Batadv.bla_claims_consistent` — all reachable states.
-/

namespace Batadv

/-! ### The invariant -/

/-- The clients whose claims refer to a gateway. -/
def blaClients (claims : List BlaClaim) (gw : ℕ) : List EthAddr :=
  (claims.filter fun c => c.backboneGw == gw).map BlaClaim.addr

/-- The clients of a gateway. -/
def BlaPriv.clients (s : BlaPriv) (gw : ℕ) : List EthAddr := blaClients s.claims gw

lemma blaClients_cons (c : BlaClaim) (claims : List BlaClaim) (gw : ℕ) :
    blaClients (c :: claims) gw =
      if c.backboneGw = gw then c.addr :: blaClients claims gw else blaClients claims gw := by
  unfold blaClients
  split_ifs with h
  · rw [List.filter_cons_of_pos (by simpa using h), List.map_cons]
  · rw [List.filter_cons_of_neg (by simpa using h)]

lemma blaClients_perm {claims claims' : List BlaClaim} (h : claims.Perm claims') (gw : ℕ) :
    (blaClients claims gw).Perm (blaClients claims' gw) := (h.filter _).map _

/-- What a claim is found by. -/
def BlaClaim.key (c : BlaClaim) : EthAddr × U16 := (c.addr, c.vid)

/-- What a claim is to the functions of the claim table. -/
def BlaClaim.ident (c : BlaClaim) : ℕ × (EthAddr × U16) × ℕ := (c.ptr, c.key, c.backboneGw)

/-- The gateway that a claim refers to, and the VLAN. -/
def BlaClaim.gwKey (c : BlaClaim) : ℕ × U16 := (c.backboneGw, c.vid)

/-- A gateway, and its VLAN. -/
def BlaBackboneGw.key (g : BlaBackboneGw) : ℕ × U16 := (g.ptr, g.vid)

/-- A claim counts the reference of the hash table and those that are held otherwise. -/
structure BlaClaim.Ok (held : List ℕ) (c : BlaClaim) : Prop where
  refcount : c.refcount = c.hashed.toNat + held.count c.ptr
  live : 0 < c.refcount

/-- A gateway counts the references of the hash table, of claims, and those that are held
otherwise, and sums up its clients but for `defect`. -/
structure BlaBackboneGw.Ok (clients : ℕ → List EthAddr) (held : List ℕ) (defect : ℕ → U16)
    (g : BlaBackboneGw) : Prop where
  refcount : g.refcount = g.bucket.isSome.toNat + (clients g.ptr).length + held.count g.ptr
  live : 0 < g.refcount
  crc : g.crc = BLA_CRC_INIT ^^^ Checksum.xorSum crc16 (clients g.ptr) ^^^ defect g.ptr

/-- The claims in memory. -/
structure BlaClaimsOk (claims : List BlaClaim) (nextPtr : ℕ) (held : List ℕ) : Prop where
  nodup : (claims.map BlaClaim.ptr).Nodup
  fresh : ∀ p ∈ claims.map BlaClaim.ptr, p < nextPtr
  keys : ((claims.filter BlaClaim.hashed).map BlaClaim.key).Nodup
  exist : ∀ p ∈ held, p ∈ claims.map BlaClaim.ptr
  ok : ∀ c ∈ claims, c.Ok held

/-- The gateways in memory. -/
structure BlaGwsOk (gws : List BlaBackboneGw) (nextPtr : ℕ) (clients : ℕ → List EthAddr)
    (held : List ℕ) (defect : ℕ → U16) : Prop where
  nodup : (gws.map BlaBackboneGw.ptr).Nodup
  fresh : ∀ p ∈ gws.map BlaBackboneGw.ptr, p < nextPtr
  exist : ∀ p ∈ held, p ∈ gws.map BlaBackboneGw.ptr
  ok : ∀ g ∈ gws, g.Ok clients held defect

/-- **The invariant**, with the references to gateways and to claims that the running function
holds, and with what the checksums are off by. -/
structure BlaPriv.Inv (s : BlaPriv) (gwRefs claimRefs : List ℕ) (defect : ℕ → U16) : Prop where
  claims : BlaClaimsOk s.claims s.nextPtr claimRefs
  gws : BlaGwsOk s.backboneGws s.nextPtr s.clients (s.reportWork ++ gwRefs) defect
  owner : ∀ k ∈ s.claims.map BlaClaim.gwKey, k ∈ s.backboneGws.map BlaBackboneGw.key

/-- Count a check into the defect of a gateway. -/
def blaBump (defect : ℕ → U16) (p : ℕ) (h : U16) : ℕ → U16 :=
  fun q => if q = p then defect q ^^^ h else defect q

lemma blaBump_self (defect : ℕ → U16) (p : ℕ) (h : U16) :
    blaBump (blaBump defect p h) p h = defect := by
  funext q
  unfold blaBump
  split_ifs
  · rw [BitVec.xor_assoc, BitVec.xor_self, BitVec.xor_zero]
  · rfl

lemma blaBump_comm (defect : ℕ → U16) (p q : ℕ) (h : U16) :
    blaBump (blaBump defect p h) q h = blaBump (blaBump defect q h) p h := by
  funext r
  unfold blaBump
  split_ifs <;> rfl

/-! ### Gateways -/

section Gateways

variable {gws : List BlaBackboneGw} {n p : ℕ} {clients clients' : ℕ → List EthAddr}
  {held held' : List ℕ} {defect defect' : ℕ → U16}

/-- Only the gateway itself matters. -/
lemma BlaBackboneGw.Ok.of_eq {g : BlaBackboneGw} (h : g.Ok clients held defect)
    (hclients : (clients' g.ptr).Perm (clients g.ptr))
    (hheld : held'.count g.ptr = held.count g.ptr) (hdefect : defect' g.ptr = defect g.ptr) :
    g.Ok clients' held' defect' := by
  refine ⟨?_, h.live, ?_⟩
  · rw [hclients.length_eq, hheld]
    exact h.refcount
  · rw [Checksum.xorSum_perm crc16 hclients, hdefect]
    exact h.crc

/-- Writing to one gateway. -/
lemma BlaGwsOk.modify (h : BlaGwsOk gws n clients held defect) {f : BlaBackboneGw → BlaBackboneGw}
    (hptr : ∀ g, (f g).ptr = g.ptr) (hheld : ∀ q ∈ held', q ∈ gws.map BlaBackboneGw.ptr)
    (hself : ∀ g ∈ gws, g.ptr = p → g.Ok clients held defect → (f g).Ok clients' held' defect')
    (hother : ∀ g ∈ gws, g.ptr ≠ p → g.Ok clients held defect → g.Ok clients' held' defect') :
    BlaGwsOk (Heap.modify BlaBackboneGw.ptr p f gws) n clients' held' defect' := by
  have hmap : (Heap.modify BlaBackboneGw.ptr p f gws).map BlaBackboneGw.ptr =
      gws.map BlaBackboneGw.ptr := Heap.map_modify fun g _ _ => hptr g
  refine ⟨?_, ?_, ?_, ?_⟩
  · rw [hmap]
    exact h.nodup
  · rw [hmap]
    exact h.fresh
  · rw [hmap]
    exact hheld
  · intro g hg
    obtain ⟨g, hmem, rfl⟩ := Heap.mem_modify.1 hg
    split_ifs with hp
    · exact hself g hmem hp (h.ok g hmem)
    · exact hother g hmem hp (h.ok g hmem)

/-- The order in which references are listed is immaterial. -/
lemma BlaGwsOk.perm (h : BlaGwsOk gws n clients held defect) (hheld : held'.Perm held) :
    BlaGwsOk gws n clients held' defect :=
  ⟨h.nodup, h.fresh, fun q hq => h.exist q (hheld.mem_iff.1 hq),
    fun g hg => (h.ok g hg).of_eq (List.Perm.refl _) (hheld.count_eq _) rfl⟩

/-- Taking a reference. -/
lemma BlaGwsOk.get (h : BlaGwsOk gws n clients held defect)
    (hp : p ∈ gws.map BlaBackboneGw.ptr) :
    BlaGwsOk (Heap.modify BlaBackboneGw.ptr p (fun g => { g with refcount := g.refcount + 1 }) gws)
      n clients (p :: held) defect := by
  refine h.modify (fun g => rfl) (fun q hq => ?_) (fun g hg hptr hok => ?_)
    (fun g hg hptr hok => hok.of_eq (List.Perm.refl _) (List.count_cons_of_ne (Ne.symm hptr)) rfl)
  · rcases List.mem_cons.1 hq with rfl | hq
    · exact hp
    · exact h.exist q hq
  · refine ⟨?_, Nat.succ_pos _, hok.crc⟩
    subst hptr
    show g.refcount + 1 = _
    rw [hok.refcount, List.count_cons_self]
    rfl

/-- Dropping a reference that is not the last one. -/
lemma BlaGwsOk.drop (h : BlaGwsOk gws n clients (p :: held) defect)
    (hlast : ∀ g ∈ gws, g.ptr = p → g.refcount ≠ 1) :
    BlaGwsOk (Heap.modify BlaBackboneGw.ptr p (fun g => { g with refcount := g.refcount - 1 }) gws)
      n clients held defect := by
  refine h.modify (fun g => rfl) (fun q hq => h.exist q (List.mem_cons_of_mem p hq))
    (fun g hg hptr hok => ?_) (fun g hg hptr hok => hok.of_eq (List.Perm.refl _)
      (List.count_cons_of_ne (Ne.symm hptr)).symm rfl)
  have hne := hlast g hg hptr
  obtain ⟨hrefs, hlive, hcrc⟩ := hok
  subst hptr
  rw [List.count_cons_self] at hrefs
  refine ⟨?_, ?_, hcrc⟩
  · show g.refcount - 1 = g.bucket.isSome.toNat + (clients g.ptr).length + held.count g.ptr
    omega
  · show 0 < g.refcount - 1
    omega

/-- Dropping the last reference. -/
lemma BlaGwsOk.free (h : BlaGwsOk gws n clients (p :: held) defect) (hheld : p ∉ held) :
    BlaGwsOk (Heap.free BlaBackboneGw.ptr p gws) n clients held defect := by
  refine ⟨Heap.nodup_free h.nodup, fun q hq => ?_, fun q hq => ?_, fun g hg => ?_⟩
  · obtain ⟨g, hg, rfl⟩ := List.mem_map.1 hq
    exact h.fresh _ (List.mem_map_of_mem (Heap.mem_free.1 hg).1)
  · obtain ⟨g, hg, hptr⟩ := List.mem_map.1 (h.exist q (List.mem_cons_of_mem p hq))
    have hne : g.ptr ≠ p := fun heq => hheld (heq ▸ hptr ▸ hq)
    exact List.mem_map.2 ⟨g, Heap.mem_free.2 ⟨hg, hne⟩, hptr⟩
  · obtain ⟨hg, hptr⟩ := Heap.mem_free.1 hg
    exact (h.ok g hg).of_eq (List.Perm.refl _) (List.count_cons_of_ne (Ne.symm hptr)).symm rfl

/-- A claim loses the gateway, and its reference goes to the caller. -/
lemma BlaGwsOk.unclaim (h : BlaGwsOk gws n clients held defect)
    (hp : p ∈ gws.map BlaBackboneGw.ptr) {a : EthAddr}
    (hself : (clients p).Perm (a :: clients' p))
    (hother : ∀ q, q ≠ p → (clients q).Perm (clients' q)) :
    BlaGwsOk gws n clients' (p :: held) (blaBump defect p (crc16 a)) := by
  refine ⟨h.nodup, h.fresh, fun q hq => ?_, fun g hg => ?_⟩
  · rcases List.mem_cons.1 hq with rfl | hq
    · exact hp
    · exact h.exist q hq
  · have hok := h.ok g hg
    by_cases hptr : g.ptr = p
    · obtain ⟨hrefs, hlive, hcrc⟩ := hok
      rw [hptr] at hrefs hcrc
      refine ⟨?_, hlive, ?_⟩
      · rw [hptr, hrefs, hself.length_eq, List.length_cons, List.count_cons_self]
        omega
      · rw [hptr, hcrc, Checksum.xorSum_perm crc16 hself, Checksum.xorSum_cons, blaBump, if_pos rfl,
          BitVec.xor_comm (crc16 a), ← BitVec.xor_assoc, BitVec.xor_assoc _ (crc16 a),
          BitVec.xor_comm (crc16 a)]
    · exact hok.of_eq (hother g.ptr hptr).symm (List.count_cons_of_ne (Ne.symm hptr)) (if_neg hptr)

/-- A claim gets the gateway, and a reference of the caller. -/
lemma BlaGwsOk.claim (h : BlaGwsOk gws n clients (p :: held) defect) {a : EthAddr}
    (hself : (clients' p).Perm (a :: clients p))
    (hother : ∀ q, q ≠ p → (clients' q).Perm (clients q)) :
    BlaGwsOk gws n clients' held (blaBump defect p (crc16 a)) := by
  refine ⟨h.nodup, h.fresh, fun q hq => h.exist q (List.mem_cons_of_mem p hq), fun g hg => ?_⟩
  have hok := h.ok g hg
  by_cases hptr : g.ptr = p
  · obtain ⟨hrefs, hlive, hcrc⟩ := hok
    rw [hptr] at hrefs hcrc
    rw [List.count_cons_self] at hrefs
    refine ⟨?_, hlive, ?_⟩
    · rw [hptr, hrefs, hself.length_eq, List.length_cons]
      omega
    · rw [hptr, hcrc, Checksum.xorSum_perm crc16 hself, Checksum.xorSum_cons, blaBump, if_pos rfl,
        BitVec.xor_comm (crc16 a), ← BitVec.xor_assoc _ _ (crc16 a), ← BitVec.xor_assoc,
        BitVec.xor_assoc _ (crc16 a), BitVec.xor_comm (crc16 a), ← BitVec.xor_assoc,
        BitVec.xor_assoc _ (crc16 a), BitVec.xor_self, BitVec.xor_zero]
  · exact hok.of_eq (hother g.ptr hptr) (List.count_cons_of_ne (Ne.symm hptr)).symm (if_neg hptr)

end Gateways

/-! ### Claims -/

section Claims

variable {claims : List BlaClaim} {n p : ℕ} {held held' : List ℕ}

/-- Only the claim itself matters. -/
lemma BlaClaim.Ok.of_eq {c : BlaClaim} (h : c.Ok held)
    (hheld : held'.count c.ptr = held.count c.ptr) : c.Ok held' :=
  ⟨by rw [hheld]; exact h.refcount, h.live⟩

/-- Writing to one claim, which keeps what it is found by, and does not come into the hash
table. -/
lemma BlaClaimsOk.modify (h : BlaClaimsOk claims n held) {f : BlaClaim → BlaClaim}
    (hptr : ∀ c, (f c).ptr = c.ptr)
    (hkeys : ((((Heap.modify BlaClaim.ptr p f claims).filter BlaClaim.hashed).map
      BlaClaim.key).Sublist ((claims.filter BlaClaim.hashed).map BlaClaim.key)))
    (hexist : ∀ q ∈ held', q ∈ claims.map BlaClaim.ptr)
    (hself : ∀ c ∈ claims, c.ptr = p → c.Ok held → (f c).Ok held')
    (hother : ∀ c ∈ claims, c.ptr ≠ p → c.Ok held → c.Ok held') :
    BlaClaimsOk (Heap.modify BlaClaim.ptr p f claims) n held' := by
  have hmap : (Heap.modify BlaClaim.ptr p f claims).map BlaClaim.ptr = claims.map BlaClaim.ptr :=
    Heap.map_modify fun c _ _ => hptr c
  refine ⟨?_, ?_, hkeys.nodup h.keys, ?_, ?_⟩
  · rw [hmap]
    exact h.nodup
  · rw [hmap]
    exact h.fresh
  · rw [hmap]
    exact hexist
  · intro c hc
    obtain ⟨c, hmem, rfl⟩ := Heap.mem_modify.1 hc
    split_ifs with hp
    · exact hself c hmem hp (h.ok c hmem)
    · exact hother c hmem hp (h.ok c hmem)

/-- Writing to a claim what does not change its keys. -/
lemma hashedKeys_modify {f : BlaClaim → BlaClaim}
    (hf : ∀ c, (f c).key = c.key ∧ (f c).hashed = c.hashed) :
    (((Heap.modify BlaClaim.ptr p f claims).filter BlaClaim.hashed).map BlaClaim.key).Sublist
      ((claims.filter BlaClaim.hashed).map BlaClaim.key) := by
  rw [Heap.map_filter_modify (fun c _ _ => (hf c).2) (fun c _ _ => (hf c).1)]

/-- Taking a reference. -/
lemma BlaClaimsOk.get (h : BlaClaimsOk claims n held) (hp : p ∈ claims.map BlaClaim.ptr) :
    BlaClaimsOk (Heap.modify BlaClaim.ptr p (fun c => { c with refcount := c.refcount + 1 }) claims)
      n (p :: held) := by
  refine h.modify (fun c => rfl) (hashedKeys_modify fun c => ⟨rfl, rfl⟩)
    (fun q hq => ?_) (fun c _ hptr hok => ⟨?_, Nat.succ_pos _⟩)
    (fun c _ hptr hok => hok.of_eq (List.count_cons_of_ne (Ne.symm hptr)))
  · rcases List.mem_cons.1 hq with rfl | hq
    · exact hp
    · exact h.exist q hq
  · subst hptr
    show c.refcount + 1 = _
    rw [hok.refcount, List.count_cons_self]
    rfl

/-- Dropping a reference that is not the last one. -/
lemma BlaClaimsOk.drop (h : BlaClaimsOk claims n (p :: held))
    (hlast : ∀ c ∈ claims, c.ptr = p → c.refcount ≠ 1) :
    BlaClaimsOk (Heap.modify BlaClaim.ptr p (fun c => { c with refcount := c.refcount - 1 }) claims)
      n held := by
  refine h.modify (fun c => rfl) (hashedKeys_modify fun c => ⟨rfl, rfl⟩)
    (fun q hq => h.exist q (List.mem_cons_of_mem p hq)) (fun c hc hptr hok => ?_)
    (fun c _ hptr hok => hok.of_eq (List.count_cons_of_ne (Ne.symm hptr)).symm)
  have hne := hlast c hc hptr
  obtain ⟨hrefs, hlive⟩ := hok
  subst hptr
  rw [List.count_cons_self] at hrefs
  constructor
  · show c.refcount - 1 = c.hashed.toNat + held.count c.ptr
    omega
  · show 0 < c.refcount - 1
    omega

/-- Dropping the last reference. -/
lemma BlaClaimsOk.free (h : BlaClaimsOk claims n (p :: held)) (hheld : p ∉ held) :
    BlaClaimsOk (Heap.free BlaClaim.ptr p claims) n held := by
  refine ⟨Heap.nodup_free h.nodup, fun q hq => ?_, ?_, fun q hq => ?_, fun c hc => ?_⟩
  · obtain ⟨c, hc, rfl⟩ := List.mem_map.1 hq
    exact h.fresh _ (List.mem_map_of_mem (Heap.mem_free.1 hc).1)
  · exact ((List.filter_sublist.filter BlaClaim.hashed).map BlaClaim.key).nodup h.keys
  · obtain ⟨c, hc, hptr⟩ := List.mem_map.1 (h.exist q (List.mem_cons_of_mem p hq))
    have hne : c.ptr ≠ p := fun heq => hheld (heq ▸ hptr ▸ hq)
    exact List.mem_map.2 ⟨c, Heap.mem_free.2 ⟨hc, hne⟩, hptr⟩
  · obtain ⟨hc, hptr⟩ := Heap.mem_free.1 hc
    exact (h.ok c hc).of_eq (List.count_cons_of_ne (Ne.symm hptr)).symm

/-- The reference of the hash table goes to the caller. -/
lemma BlaClaimsOk.hashDel (h : BlaClaimsOk claims n held)
    (hp : ∀ c ∈ claims, c.ptr = p → c.hashed = true) (hexist : p ∈ claims.map BlaClaim.ptr) :
    BlaClaimsOk (Heap.modify BlaClaim.ptr p (fun c => { c with hashed := false }) claims)
      n (p :: held) := by
  refine h.modify (fun c => rfl) ?_ (fun q hq => ?_) (fun c hc hptr hok => ⟨?_, hok.live⟩)
    (fun c _ hptr hok => hok.of_eq (List.count_cons_of_ne (Ne.symm hptr)))
  · rw [Heap.filter_modify_of_not fun c _ _ => rfl]
    exact (List.filter_sublist.filter BlaClaim.hashed).map BlaClaim.key
  · rcases List.mem_cons.1 hq with rfl | hq
    · exact hexist
    · exact h.exist q hq
  · have hrefs := hok.refcount
    rw [hp c hc hptr] at hrefs
    subst hptr
    show c.refcount = false.toNat + (c.ptr :: held).count c.ptr
    rw [hrefs, List.count_cons_self]
    show 1 + held.count c.ptr = 0 + (held.count c.ptr + 1)
    omega

end Claims

/-- The gateways that there are, after one was written to. -/
lemma BlaPriv.keys_updateGw {s : BlaPriv} {p : ℕ} {f : BlaBackboneGw → BlaBackboneGw}
    (hf : ∀ g, (f g).key = g.key) :
    (s.updateGw p f).backboneGws.map BlaBackboneGw.key = s.backboneGws.map BlaBackboneGw.key :=
  Heap.map_modify fun g _ _ => hf g

/-- What a gateway is to the functions that look it up. -/
def BlaBackboneGw.face (g : BlaBackboneGw) : ℕ × EthAddr × U16 × Option ℕ :=
  (g.ptr, g.orig, g.vid, g.bucket)

/-- The gateways in the hash table. -/
def BlaPriv.faces (s : BlaPriv) : List (ℕ × EthAddr × U16 × Option ℕ) :=
  (s.backboneGws.filter fun g => g.bucket.isSome).map BlaBackboneGw.face

/-- Writing to a gateway what it is not looked up by. -/
lemma BlaPriv.faces_updateGw {s : BlaPriv} {p : ℕ} {f : BlaBackboneGw → BlaBackboneGw}
    (hf : ∀ g, (f g).face = g.face) : (s.updateGw p f).faces = s.faces := by
  refine Heap.map_filter_modify (fun g _ _ => ?_) (fun g _ _ => hf g)
  rw [show (f g).bucket = g.bucket from congrArg (fun face => face.2.2.2) (hf g)]

@[simp] lemma BlaPriv.faces_backboneGwGet (s : BlaPriv) (p : ℕ) :
    (backboneGwGet s p).faces = s.faces := BlaPriv.faces_updateGw fun _ => rfl

/-- What is known of a claim that is found. -/
lemma claimHashFind_eq_some {s : BlaPriv} {addr : EthAddr} {vid : U16} {c : BlaClaim}
    (h : claimHashFind s addr vid = some c) :
    c ∈ s.claims ∧ c.hashed = true ∧ c.addr = addr ∧ c.vid = vid := by
  have hfound := List.find?_some h
  simp only [Bool.and_eq_true, beq_iff_eq] at hfound
  exact ⟨List.mem_of_find?_eq_some h, hfound.1.1, hfound.1.2, hfound.2⟩

@[simp] lemma claims_backboneGwPut (s : BlaPriv) (p : ℕ) :
    (backboneGwPut s p).claims = s.claims := by
  unfold backboneGwPut
  split
  · rfl
  · split_ifs <;> rfl

@[simp] lemma BlaPriv.keys_backboneGwGet (s : BlaPriv) (p : ℕ) :
    (backboneGwGet s p).backboneGws.map BlaBackboneGw.key = s.backboneGws.map BlaBackboneGw.key :=
  BlaPriv.keys_updateGw fun _ => rfl

/-- The claims that there are, after one was written to. -/
lemma BlaPriv.idents_updateClaim {s : BlaPriv} {p : ℕ} {f : BlaClaim → BlaClaim}
    (hf : ∀ c, (f c).ident = c.ident) :
    (s.updateClaim p f).claims.map BlaClaim.ident = s.claims.map BlaClaim.ident :=
  Heap.map_modify fun c _ _ => hf c

@[simp] lemma BlaPriv.idents_claimGet (s : BlaPriv) (p : ℕ) :
    (claimGet s p).claims.map BlaClaim.ident = s.claims.map BlaClaim.ident :=
  BlaPriv.idents_updateClaim fun _ => rfl

@[simp] lemma BlaPriv.clients_updateGw (s : BlaPriv) (p : ℕ) (f : BlaBackboneGw → BlaBackboneGw) :
    (s.updateGw p f).clients = s.clients := rfl

namespace BlaPriv.Inv

variable {s : BlaPriv} {G C : List ℕ} {d : ℕ → U16} {p : ℕ}

/-- Only the objects in memory matter. -/
lemma of_eq {s' : BlaPriv} (h : s.Inv G C d) (hgws : s'.backboneGws = s.backboneGws)
    (hclaims : s'.claims = s.claims) (hreport : s'.reportWork = s.reportWork)
    (hnext : s'.nextPtr = s.nextPtr) : s'.Inv G C d := by
  have hclients : s'.clients = s.clients := by
    funext gw
    unfold BlaPriv.clients
    rw [hclaims]
  refine ⟨?_, ?_, ?_⟩
  · rw [hclaims, hnext]
    exact h.claims
  · rw [hgws, hnext, hclients, hreport]
    exact h.gws
  · rw [hclaims, hgws]
    exact h.owner

/-- Every claim still has its gateway after the gateway was written to. -/
lemma owner_updateGw (h : s.Inv G C d) {f : BlaBackboneGw → BlaBackboneGw}
    (hf : ∀ g, (f g).key = g.key) : ∀ k ∈ (s.updateGw p f).claims.map BlaClaim.gwKey,
      k ∈ (s.updateGw p f).backboneGws.map BlaBackboneGw.key := by
  rw [BlaPriv.keys_updateGw hf]
  exact h.owner

/-- Writing to a gateway what neither tells the gateway apart nor counts. -/
lemma updateGw (h : s.Inv G C d) {f : BlaBackboneGw → BlaBackboneGw}
    (hf : ∀ g, (f g).key = g.key ∧ (f g).bucket = g.bucket ∧ (f g).crc = g.crc ∧
      (f g).refcount = g.refcount) : (s.updateGw p f).Inv G C d := by
  have hptr : ∀ g, (f g).ptr = g.ptr := fun g => congrArg Prod.fst (hf g).1
  refine ⟨h.claims, h.gws.modify hptr h.gws.exist (fun g _ _ hok => ?_) (fun g _ _ hok => hok), ?_⟩
  · obtain ⟨-, hbucket, hcrc, hrefs⟩ := hf g
    refine ⟨?_, ?_, ?_⟩
    · rw [hrefs, hbucket, hptr]
      exact hok.refcount
    · rw [hrefs]
      exact hok.live
    · rw [hcrc, hptr]
      exact hok.crc
  · exact h.owner_updateGw fun g => (hf g).1

/-- Adding a check to the checksum of a gateway. -/
lemma xorCrc (h : s.Inv G C d) (x : U16) :
    (s.updateGw p fun g => { g with crc := g.crc ^^^ x }).Inv G C (blaBump d p x) := by
  refine ⟨h.claims, h.gws.modify (fun g => rfl) h.gws.exist (fun g _ hptr hok => ?_)
    (fun g _ hptr hok => hok.of_eq (List.Perm.refl _) rfl (if_neg hptr)), ?_⟩
  · refine ⟨hok.refcount, hok.live, ?_⟩
    show g.crc ^^^ x = _ ^^^ blaBump d p x g.ptr
    rw [BlaPriv.clients_updateGw, blaBump, if_pos hptr, ← BitVec.xor_assoc, ← hok.crc]
  · exact h.owner_updateGw fun g => rfl

/-- Taking a reference to a gateway. -/
lemma backboneGwGet (h : s.Inv G C d) (hp : p ∈ s.backboneGws.map BlaBackboneGw.ptr) :
    (Batadv.backboneGwGet s p).Inv (p :: G) C d :=
  ⟨h.claims, (h.gws.get hp).perm List.perm_middle, h.owner_updateGw fun _ => rfl⟩

/-- The gateways, with a reference that the function has set apart. -/
lemma heldGws (h : s.Inv (p :: G) C d) :
    BlaGwsOk s.backboneGws s.nextPtr s.clients (p :: (s.reportWork ++ G)) d :=
  h.gws.perm List.perm_middle.symm

/-- Dropping a reference to a gateway: the last one is not that of a claim. -/
lemma backboneGwPut (h : s.Inv (p :: G) C d) : (Batadv.backboneGwPut s p).Inv G C d := by
  have hgws := h.heldGws
  unfold Batadv.backboneGwPut
  cases hget : s.gw? p with
  | none =>
    -- a gateway to which there is a reference is in memory
    obtain ⟨g, hg, hptr⟩ := List.mem_map.1 (hgws.exist p List.mem_cons_self)
    rw [BlaPriv.gw?, (Heap.get?_eq_some_iff hgws.nodup).2 ⟨hg, hptr⟩] at hget
    exact absurd hget (by simp)
  | some g =>
    obtain ⟨hg, rfl⟩ := (Heap.get?_eq_some_iff hgws.nodup).1 hget
    dsimp only
    split_ifs with hlast
    · -- there are no other references
      have hrefs := (hgws.ok g hg).refcount
      rw [hlast, List.count_cons_self] at hrefs
      have hheld : g.ptr ∉ s.reportWork ++ G := by
        rw [← List.count_eq_zero]
        omega
      have hclients : s.clients g.ptr = [] := List.eq_nil_of_length_eq_zero (by omega)
      refine ⟨h.claims, hgws.free hheld, ?_⟩
      intro k hk
      obtain ⟨g', hg', rfl⟩ := List.mem_map.1 (h.owner k hk)
      refine List.mem_map_of_mem (Heap.mem_free.2 ⟨hg', fun heq => ?_⟩)
      obtain ⟨c, hc, hkey⟩ := List.mem_map.1 hk
      have hmem : c.addr ∈ s.clients g.ptr := by
        refine List.mem_map_of_mem (List.mem_filter.2 ⟨hc, ?_⟩)
        rw [beq_iff_eq, ← heq]
        exact congrArg Prod.fst hkey
      rw [hclients] at hmem
      exact absurd hmem List.not_mem_nil
    · refine ⟨h.claims, hgws.drop fun g' hg' heq => ?_, ?_⟩
      · rw [List.inj_on_of_nodup_map hgws.nodup hg' hg heq]
        exact hlast
      · exact h.owner_updateGw fun g => rfl

/-- A gateway that is freed was not in the hash table any more. -/
lemma faces_backboneGwPut (h : s.Inv (p :: G) C d) :
    (Batadv.backboneGwPut s p).faces = s.faces := by
  have hgws := h.heldGws
  unfold Batadv.backboneGwPut
  cases hget : s.gw? p with
  | none => rfl
  | some g =>
    obtain ⟨hg, rfl⟩ := (Heap.get?_eq_some_iff hgws.nodup).1 hget
    dsimp only
    split_ifs with hlast
    · have hrefs := (hgws.ok g hg).refcount
      rw [hlast, List.count_cons_self] at hrefs
      have hbucket : g.bucket.isSome = false := by
        cases hsome : g.bucket.isSome with
        | false => rfl
        | true =>
          rw [hsome] at hrefs
          change 1 = 1 + _ + _ at hrefs
          omega
      show (List.filter _ (Heap.free _ _ _)).map BlaBackboneGw.face = _
      unfold Heap.free BlaPriv.faces
      rw [List.filter_filter]
      congr 1
      apply List.filter_congr
      intro g' hg'
      cases hsome : g'.bucket.isSome with
      | false => rfl
      | true =>
        have hne : g'.ptr ≠ g.ptr := fun heq => by
          rw [List.inj_on_of_nodup_map hgws.nodup hg' hg heq, hbucket] at hsome
          exact Bool.false_ne_true hsome
        simpa using hne
    · exact BlaPriv.faces_updateGw fun g => rfl

/-! ### Claims and their gateways -/

/-- Writing to a claim what leaves it with its gateway. -/
lemma ofClaims (h : s.Inv G C d) {C' : List ℕ} {f : BlaClaim → BlaClaim}
    (hf : ∀ c, (f c).addr = c.addr ∧ (f c).gwKey = c.gwKey)
    (hclaims : BlaClaimsOk (Heap.modify BlaClaim.ptr p f s.claims) s.nextPtr C') :
    (s.updateClaim p f).Inv G C' d := by
  have hclients : (s.updateClaim p f).clients = s.clients := by
    funext gw
    refine Heap.map_filter_modify (fun c _ _ => ?_) (fun c _ _ => (hf c).1)
    rw [show (f c).backboneGw = c.backboneGw from congrArg Prod.fst (hf c).2]
  refine ⟨hclaims, ?_, ?_⟩
  · rw [hclients]
    exact h.gws
  · show ∀ k ∈ (Heap.modify BlaClaim.ptr p f s.claims).map BlaClaim.gwKey, _
    rw [Heap.map_modify fun c _ _ => (hf c).2]
    exact h.owner

/-- Writing to a claim what neither tells it apart nor counts. -/
lemma updateClaim (h : s.Inv G C d) {f : BlaClaim → BlaClaim}
    (hf : ∀ c, (f c).ptr = c.ptr ∧ (f c).key = c.key ∧ (f c).backboneGw = c.backboneGw ∧
      (f c).hashed = c.hashed ∧ (f c).refcount = c.refcount) : (s.updateClaim p f).Inv G C d := by
  have haddr : ∀ c, (f c).addr = c.addr := fun c => congrArg Prod.fst (hf c).2.1
  have hvid : ∀ c, (f c).vid = c.vid := fun c => congrArg Prod.snd (hf c).2.1
  refine h.ofClaims (fun c => ⟨haddr c, Prod.ext (hf c).2.2.1 (hvid c)⟩) ?_
  refine h.claims.modify (fun c => (hf c).1)
    (hashedKeys_modify fun c => ⟨(hf c).2.1, (hf c).2.2.2.1⟩) h.claims.exist
    (fun c _ _ hok => ?_) (fun c _ _ hok => hok)
  obtain ⟨hptr, -, -, hhashed, hrefs⟩ := hf c
  constructor
  · rw [hrefs, hhashed, hptr]
    exact hok.refcount
  · rw [hrefs]
    exact hok.live

/-- Taking a reference to a claim. -/
lemma claimGet (h : s.Inv G C d) (hp : p ∈ s.claims.map BlaClaim.ptr) :
    (Batadv.claimGet s p).Inv G (p :: C) d :=
  h.ofClaims (fun _ => ⟨rfl, rfl⟩) (h.claims.get hp)

/-- The reference of the hash table goes to the caller. -/
lemma claimHashDel (h : s.Inv G C d) {c : BlaClaim} (hc : c ∈ s.claims)
    (hhashed : c.hashed = true) :
    (Batadv.claimHashDel s c.ptr).Inv G (c.ptr :: C) d := by
  refine h.ofClaims (fun c => ⟨rfl, rfl⟩) (h.claims.hashDel (fun c' hc' heq => ?_) ?_)
  · rw [List.inj_on_of_nodup_map h.claims.nodup hc' hc heq]
    exact hhashed
  · exact List.mem_map_of_mem hc

/-- The clients of the gateways when a claim is set apart. -/
lemma clients_perm (h : s.Inv G C d) {c : BlaClaim} (hc : c ∈ s.claims) :
    (s.clients c.backboneGw).Perm
        (c.addr :: blaClients (Heap.free BlaClaim.ptr c.ptr s.claims) c.backboneGw) ∧
      ∀ q, q ≠ c.backboneGw →
        (s.clients q).Perm (blaClients (Heap.free BlaClaim.ptr c.ptr s.claims) q) := by
  have hperm := fun q => blaClients_perm (Heap.perm_free h.claims.nodup hc) q
  constructor
  · have hself := hperm c.backboneGw
    rw [blaClients_cons, if_pos rfl] at hself
    exact hself
  · intro q hq
    have hother := hperm q
    rw [blaClients_cons, if_neg (Ne.symm hq)] at hother
    exact hother

/-- A claim whose last reference is dropped is freed, and its reference to the gateway is held by
the function. -/
lemma freeClaim (h : s.Inv G (p :: C) d) {c : BlaClaim} (hc : c ∈ s.claims) (hp : c.ptr = p)
    (hlast : c.refcount = 1) :
    BlaPriv.Inv { s with claims := Heap.free BlaClaim.ptr p s.claims } (c.backboneGw :: G) C
      (blaBump d c.backboneGw (crc16 c.addr)) := by
  subst hp
  have hheld : c.ptr ∉ C := by
    have hrefs := (h.claims.ok c hc).refcount
    rw [hlast, List.count_cons_self] at hrefs
    rw [← List.count_eq_zero]
    omega
  obtain ⟨hself, hother⟩ := h.clients_perm hc
  have hgw : c.backboneGw ∈ s.backboneGws.map BlaBackboneGw.ptr := by
    obtain ⟨g, hg, hkey⟩ := List.mem_map.1 (h.owner _ (List.mem_map_of_mem hc))
    exact List.mem_map.2 ⟨g, hg, congrArg Prod.fst hkey⟩
  refine ⟨h.claims.free hheld, (h.gws.unclaim hgw hself hother).perm List.perm_middle, ?_⟩
  intro k hk
  obtain ⟨c', hc', rfl⟩ := List.mem_map.1 hk
  exact h.owner _ (List.mem_map_of_mem (Heap.mem_free.1 hc').1)

/-- **The last reference to a claim is dropped**: its client is counted out. -/
lemma claimRelease (h : s.Inv G (p :: C) d) {c : BlaClaim} (hc : c ∈ s.claims) (hp : c.ptr = p)
    (hlast : c.refcount = 1) :
    (Batadv.claimRelease s c).Inv G C d ∧ (Batadv.claimRelease s c).faces = s.faces := by
  have hcounted := (h.freeClaim hc hp hlast).xorCrc (p := c.backboneGw) (crc16 c.addr)
  rw [blaBump_self, ← hp] at hcounted
  refine ⟨hcounted.backboneGwPut, hcounted.faces_backboneGwPut.trans ?_⟩
  exact BlaPriv.faces_updateGw fun g => rfl

/-- **Dropping a reference to a claim.** -/
lemma claimPut (h : s.Inv G (p :: C) d) : (Batadv.claimPut s p).Inv G C d := by
  unfold Batadv.claimPut
  cases hget : s.claim? p with
  | none =>
    obtain ⟨c, hc, hptr⟩ := List.mem_map.1 (h.claims.exist p List.mem_cons_self)
    rw [BlaPriv.claim?, (Heap.get?_eq_some_iff h.claims.nodup).2 ⟨hc, hptr⟩] at hget
    exact absurd hget (by simp)
  | some c =>
    obtain ⟨hc, hptr⟩ := (Heap.get?_eq_some_iff h.claims.nodup).1 hget
    dsimp only
    split_ifs with hlast
    · exact (h.claimRelease hc hptr hlast).1
    · refine h.ofClaims (fun c => ⟨rfl, rfl⟩) (h.claims.drop fun c' hc' heq => ?_)
      rw [List.inj_on_of_nodup_map h.claims.nodup hc' hc (heq.trans hptr.symm)]
      exact hlast

/-- Dropping a reference to a claim leaves the gateways in the hash table. -/
lemma faces_claimPut (h : s.Inv G (p :: C) d) : (Batadv.claimPut s p).faces = s.faces := by
  unfold Batadv.claimPut
  cases hget : s.claim? p with
  | none => rfl
  | some c =>
    obtain ⟨hc, hptr⟩ := (Heap.get?_eq_some_iff h.claims.nodup).1 hget
    dsimp only
    split_ifs with hlast
    · exact (h.claimRelease hc hptr hlast).2
    · rfl

/-- **A new claim** takes a reference that the function has to the gateway. -/
lemma newClaim {gw : ℕ} (h : s.Inv (gw :: G) C d) {mac : EthAddr} {vid : U16} (lasttime : Jiffies)
    (hgw : (gw, vid) ∈ s.backboneGws.map BlaBackboneGw.key)
    (hnone : claimHashFind s mac vid = none) :
    BlaPriv.Inv
      { s with
        claims := ⟨s.nextPtr, mac, vid, gw, lasttime, true, 2⟩ :: s.claims
        nextPtr := s.nextPtr + 1 } G (s.nextPtr :: C) (blaBump d gw (crc16 mac)) := by
  have hfresh : s.nextPtr ∉ s.claims.map BlaClaim.ptr := fun hmem =>
    absurd (h.claims.fresh _ hmem) (Nat.lt_irrefl _)
  refine ⟨⟨?_, ?_, ?_, ?_, ?_⟩, ?_, ?_⟩
  · rw [List.map_cons, List.nodup_cons]
    exact ⟨hfresh, h.claims.nodup⟩
  · intro p hp
    rcases List.mem_cons.1 hp with rfl | hp
    · exact Nat.lt_succ_self _
    · exact Nat.lt_succ_of_lt (h.claims.fresh p hp)
  · rw [List.filter_cons_of_pos rfl, List.map_cons, List.nodup_cons]
    refine ⟨fun hmem => ?_, h.claims.keys⟩
    obtain ⟨c, hc, hkey⟩ := List.mem_map.1 hmem
    obtain ⟨hc, hhashed⟩ := List.mem_filter.1 hc
    obtain ⟨haddr, hvid⟩ := Prod.mk.inj hkey
    have hne := List.find?_eq_none.1 hnone c hc
    rw [hhashed, haddr, hvid] at hne
    simp at hne
  · intro p hp
    rcases List.mem_cons.1 hp with rfl | hp
    · exact List.mem_cons_self
    · exact List.mem_cons_of_mem _ (h.claims.exist p hp)
  · intro c hc
    rcases List.mem_cons.1 hc with rfl | hc
    · have hcount : C.count s.nextPtr = 0 :=
        List.count_eq_zero.2 fun hmem => hfresh (h.claims.exist _ hmem)
      refine ⟨?_, Nat.succ_pos _⟩
      show 2 = true.toNat + (s.nextPtr :: C).count s.nextPtr
      rw [List.count_cons_self, hcount]
      rfl
    · have hne : s.nextPtr ≠ c.ptr := fun heq => hfresh (heq ▸ List.mem_map_of_mem hc)
      exact (h.claims.ok c hc).of_eq (List.count_cons_of_ne hne)
  · have hgws : BlaGwsOk s.backboneGws s.nextPtr
        (blaClients (⟨s.nextPtr, mac, vid, gw, lasttime, true, 2⟩ :: s.claims))
        (s.reportWork ++ G) (blaBump d gw (crc16 mac)) :=
      h.heldGws.claim (by rw [blaClients_cons, if_pos rfl]; rfl)
        (fun q hq => by rw [blaClients_cons, if_neg (Ne.symm hq)]; rfl)
    exact ⟨hgws.nodup, fun p hp => Nat.lt_succ_of_lt (hgws.fresh p hp), hgws.exist, hgws.ok⟩
  · intro k hk
    rcases List.mem_cons.1 hk with rfl | hk
    · exact hgw
    · exact h.owner k hk

/-- **A claim goes from one gateway to another**, and so does the reference to it. -/
lemma replaceGw {gw : ℕ} (h : s.Inv (gw :: G) C d) {c : BlaClaim} (hc : c ∈ s.claims)
    (hgw : (gw, c.vid) ∈ s.backboneGws.map BlaBackboneGw.key) :
    (s.updateClaim c.ptr fun c => { c with backboneGw := gw }).Inv (c.backboneGw :: G) C
      (blaBump (blaBump d c.backboneGw (crc16 c.addr)) gw (crc16 c.addr)) := by
  obtain ⟨hself, hother⟩ := h.clients_perm hc
  have hold : c.backboneGw ∈ s.backboneGws.map BlaBackboneGw.ptr := by
    obtain ⟨g, hg, hkey⟩ := List.mem_map.1 (h.owner _ (List.mem_map_of_mem hc))
    exact List.mem_map.2 ⟨g, hg, congrArg Prod.fst hkey⟩
  have hmodify := Heap.modify_perm (f := fun c : BlaClaim => { c with backboneGw := gw })
    h.claims.nodup hc
  refine ⟨?_, ?_, ?_⟩
  · exact h.claims.modify (fun c => rfl) (hashedKeys_modify fun c => ⟨rfl, rfl⟩) h.claims.exist
      (fun c _ _ hok => ⟨hok.refcount, hok.live⟩) (fun c _ _ hok => hok)
  · have hfreed := (h.heldGws.unclaim hold hself hother).perm (List.Perm.swap c.backboneGw gw _)
    refine BlaGwsOk.perm (hfreed.claim ?_ fun q hq => ?_) List.perm_middle
    · have hperm := blaClients_perm hmodify gw
      rw [blaClients_cons, if_pos rfl] at hperm
      exact hperm
    · have hperm := blaClients_perm hmodify q
      rw [blaClients_cons, if_neg (Ne.symm hq)] at hperm
      exact hperm
  · intro k hk
    obtain ⟨c', hc', rfl⟩ := List.mem_map.1 hk
    obtain ⟨b, hb, rfl⟩ := Heap.mem_modify.1 hc'
    split_ifs with hptr
    · rw [List.inj_on_of_nodup_map h.claims.nodup hb hc hptr]
      exact hgw
    · exact h.owner _ (List.mem_map_of_mem hb)

/-! ### New gateways, and those that are taken out of the hash table -/

/-- Nothing refers to an address that is not in use. -/
lemma clients_nextPtr (h : s.Inv G C d) : s.clients s.nextPtr = [] := by
  have hnone : (s.claims.filter fun c => c.backboneGw == s.nextPtr) = [] := by
    rw [List.filter_eq_nil_iff]
    intro c hc hgw
    obtain ⟨g, hg, hkey⟩ := List.mem_map.1 (h.owner _ (List.mem_map_of_mem hc))
    have hptr : g.ptr = c.backboneGw := congrArg Prod.fst hkey
    rw [beq_iff_eq, ← hptr] at hgw
    exact absurd (h.gws.fresh _ (hgw ▸ List.mem_map_of_mem hg)) (Nat.lt_irrefl _)
  show (s.claims.filter fun c => c.backboneGw == s.nextPtr).map BlaClaim.addr = []
  rw [hnone, List.map_nil]

/-- **A new gateway** has no clients. -/
lemma newGw (h : s.Inv G C fun _ => 0) (orig : EthAddr) (vid : U16) (bucket : ℕ)
    (lasttime : Jiffies) :
    BlaPriv.Inv
      { s with
        backboneGws :=
          ⟨s.nextPtr, orig, vid, some bucket, lasttime, 0, 0, BLA_CRC_INIT, 2⟩ :: s.backboneGws
        nextPtr := s.nextPtr + 1 } (s.nextPtr :: G) C fun _ => 0 := by
  have hfresh : s.nextPtr ∉ s.backboneGws.map BlaBackboneGw.ptr := fun hmem =>
    absurd (h.gws.fresh _ hmem) (Nat.lt_irrefl _)
  have hgws := h.gws
  refine ⟨⟨h.claims.nodup, fun p hp => Nat.lt_succ_of_lt (h.claims.fresh p hp), h.claims.keys,
    h.claims.exist, h.claims.ok⟩, BlaGwsOk.perm ?_ List.perm_middle, ?_⟩
  · refine ⟨?_, ?_, ?_, ?_⟩
    · rw [List.map_cons, List.nodup_cons]
      exact ⟨hfresh, hgws.nodup⟩
    · intro p hp
      rcases List.mem_cons.1 hp with rfl | hp
      · exact Nat.lt_succ_self _
      · exact Nat.lt_succ_of_lt (hgws.fresh p hp)
    · intro p hp
      rcases List.mem_cons.1 hp with rfl | hp
      · exact List.mem_cons_self
      · exact List.mem_cons_of_mem _ (hgws.exist p hp)
    · intro g hg
      rcases List.mem_cons.1 hg with rfl | hg
      · have hcount : (s.reportWork ++ G).count s.nextPtr = 0 :=
          List.count_eq_zero.2 fun hmem => hfresh (hgws.exist _ hmem)
        have hclients := h.clients_nextPtr
        refine ⟨?_, Nat.succ_pos _, ?_⟩
        · show 2 = true.toNat + (s.clients s.nextPtr).length +
            (s.nextPtr :: (s.reportWork ++ G)).count s.nextPtr
          rw [hclients, List.count_cons_self, hcount]
          rfl
        · show BLA_CRC_INIT = BLA_CRC_INIT ^^^ Checksum.xorSum crc16 (s.clients s.nextPtr) ^^^ 0
          rw [hclients]
          rfl
      · have hne : s.nextPtr ≠ g.ptr := fun heq => hfresh (heq ▸ List.mem_map_of_mem hg)
        exact (hgws.ok g hg).of_eq (List.Perm.refl _) (List.count_cons_of_ne hne) rfl
  · intro k hk
    exact List.mem_cons_of_mem _ (h.owner k hk)

/-- The reference of the hash table goes to the caller. -/
lemma unhashGw (h : s.Inv G C d) {g : BlaBackboneGw} (hg : g ∈ s.backboneGws)
    (hbucket : g.bucket.isSome = true) :
    (s.updateGw g.ptr fun g => { g with bucket := none }).Inv (g.ptr :: G) C d := by
  refine ⟨h.claims, BlaGwsOk.perm ?_ List.perm_middle, h.owner_updateGw fun g => rfl⟩
  refine h.gws.modify (fun g => rfl) (fun q hq => ?_) (fun g' hg' hptr hok => ?_)
    (fun g' _ hptr hok => hok.of_eq (List.Perm.refl _) (List.count_cons_of_ne (Ne.symm hptr)) rfl)
  · rcases List.mem_cons.1 hq with rfl | hq
    · exact List.mem_map_of_mem hg
    · exact h.gws.exist q hq
  · obtain rfl := List.inj_on_of_nodup_map h.gws.nodup hg' hg hptr
    refine ⟨?_, hok.live, hok.crc⟩
    show g'.refcount = false.toNat + (s.clients g'.ptr).length +
      (g'.ptr :: (s.reportWork ++ G)).count g'.ptr
    rw [hok.refcount, hbucket, List.count_cons_self]
    show 1 + _ + _ = 0 + _ + _
    omega

/-- Resetting the checksum of a gateway that has no clients. -/
lemma resetCrc (h : s.Inv G C fun _ => 0) (hclients : s.clients p = []) :
    (s.updateGw p fun g => { g with crc := BLA_CRC_INIT }).Inv G C fun _ => 0 := by
  refine ⟨h.claims, h.gws.modify (fun g => rfl) h.gws.exist
    (fun g _ hptr hok => ⟨hok.refcount, hok.live, ?_⟩) (fun g _ _ hok => hok),
    h.owner_updateGw fun g => rfl⟩
  show BLA_CRC_INIT = BLA_CRC_INIT ^^^ Checksum.xorSum crc16 (s.clients g.ptr) ^^^ 0
  rw [hptr, hclients]
  rfl

/-! ### The functions of the claim table -/

/-- The gateway of a claim is in memory. -/
lemma ptr_mem_of_key {gw : ℕ} {vid : U16} (hgw : (gw, vid) ∈ s.backboneGws.map BlaBackboneGw.key) :
    gw ∈ s.backboneGws.map BlaBackboneGw.ptr := by
  obtain ⟨g, hg, hkey⟩ := List.mem_map.1 hgw
  exact List.mem_map.2 ⟨g, hg, congrArg Prod.fst hkey⟩

/-- **Giving a claim another gateway.**  For a claim that is new, the check of its client has to be
added still. -/
lemma replaceBackboneGw {gw : ℕ} (h : s.Inv G C d) {c : BlaClaim}
    (hc : c.ident ∈ s.claims.map BlaClaim.ident)
    (hgw : (gw, c.vid) ∈ s.backboneGws.map BlaBackboneGw.key) (removeCrc : Bool) :
    (blaReplaceBackboneGw s c gw removeCrc).Inv G C
        (if removeCrc then d else blaBump d c.backboneGw (crc16 c.addr)) ∧
      (blaReplaceBackboneGw s c gw removeCrc).faces = s.faces := by
  obtain ⟨c', hc', hident⟩ := List.mem_map.1 hc
  obtain ⟨hptr, hkey, hold⟩ : c'.ptr = c.ptr ∧ c'.key = c.key ∧ c'.backboneGw = c.backboneGw := by
    simpa [BlaClaim.ident] using hident
  have haddr : c'.addr = c.addr := congrArg Prod.fst hkey
  have hvid : c'.vid = c.vid := congrArg Prod.snd hkey
  have hget := h.backboneGwGet (ptr_mem_of_key hgw)
  have hreplaced := hget.replaceGw hc'
    (by rw [hvid, BlaPriv.keys_backboneGwGet]; exact hgw)
  rw [hptr, haddr, hold] at hreplaced
  have hreplacedFaces := (BlaPriv.faces_backboneGwGet s gw)
  -- the reference of the claim to its old gateway is dropped
  unfold blaReplaceBackboneGw
  cases removeCrc with
  | true =>
    have hcounted := hreplaced.xorCrc (p := c.backboneGw) (crc16 c.addr)
    have hdone := hcounted.backboneGwPut.xorCrc (p := gw) (crc16 c.addr)
    rw [blaBump_comm _ gw, blaBump_self, blaBump_self] at hdone
    constructor
    · apply hdone.updateGw
      exact fun g => ⟨rfl, rfl, rfl, rfl⟩
    · dsimp only
      rw [BlaPriv.faces_updateGw, BlaPriv.faces_updateGw]
      · refine hcounted.faces_backboneGwPut.trans ?_
        rw [BlaPriv.faces_updateGw]
        · exact hreplacedFaces
        · exact fun g => rfl
      · exact fun g => rfl
      · exact fun g => rfl
  | false =>
    have hdone := hreplaced.backboneGwPut.xorCrc (p := gw) (crc16 c.addr)
    rw [blaBump_self] at hdone
    constructor
    · apply hdone.updateGw
      exact fun g => ⟨rfl, rfl, rfl, rfl⟩
    · dsimp only
      rw [BlaPriv.faces_updateGw, BlaPriv.faces_updateGw]
      · exact hreplaced.faces_backboneGwPut.trans hreplacedFaces
      · exact fun g => rfl
      · exact fun g => rfl

/-- A claim that is created, before the function lets go of it. -/
lemma createClaim {gw : ℕ} (h : s.Inv G C fun _ => 0) {mac : EthAddr} {vid : U16}
    (hgw : (gw, vid) ∈ s.backboneGws.map BlaBackboneGw.key)
    (hfind : claimHashFind s mac vid = none) (lasttime : Jiffies) :
    (blaReplaceBackboneGw (blaCreateClaim s ⟨s.nextPtr, mac, vid, gw, lasttime, true, 2⟩)
        ⟨s.nextPtr, mac, vid, gw, lasttime, true, 2⟩ gw false).Inv G (s.nextPtr :: C) (fun _ => 0) ∧
      (blaReplaceBackboneGw (blaCreateClaim s ⟨s.nextPtr, mac, vid, gw, lasttime, true, 2⟩)
        ⟨s.nextPtr, mac, vid, gw, lasttime, true, 2⟩ gw false).faces = s.faces := by
  have hget := h.backboneGwGet (ptr_mem_of_key hgw)
  have hgw' : (gw, vid) ∈ (Batadv.backboneGwGet s gw).backboneGws.map BlaBackboneGw.key := by
    rw [BlaPriv.keys_backboneGwGet]
    exact hgw
  have hnew := hget.newClaim lasttime hgw' hfind
  obtain ⟨hdone, hfaces⟩ := hnew.replaceBackboneGw
    (c := ⟨s.nextPtr, mac, vid, gw, lasttime, true, 2⟩) List.mem_cons_self hgw' false
  simp only [Bool.false_eq_true, if_false, blaBump_self] at hdone
  exact ⟨hdone, hfaces.trans (BlaPriv.faces_backboneGwGet s gw)⟩

/-- A claim that is seen again, before the function lets go of it. -/
lemma seeClaim (h : s.Inv G C d) {claim : BlaClaim} (hmem : claim ∈ s.claims) :
    (blaSeeClaim s claim).Inv G (claim.ptr :: C) d := by
  apply (h.claimGet (List.mem_map_of_mem hmem)).updateClaim
  exact fun c => ⟨rfl, rfl, rfl, rfl, rfl⟩

/-- A claim that changes its gateway, before the function lets go of it. -/
lemma moveClaim {gw : ℕ} (h : s.Inv G C d) {claim : BlaClaim} (hmem : claim ∈ s.claims)
    (hgw : (gw, claim.vid) ∈ s.backboneGws.map BlaBackboneGw.key) :
    (blaReplaceBackboneGw (blaSeeClaim s claim) claim gw true).Inv G (claim.ptr :: C) d ∧
      (blaReplaceBackboneGw (blaSeeClaim s claim) claim gw true).faces = s.faces := by
  have hident : claim.ident ∈ (blaSeeClaim s claim).claims.map BlaClaim.ident := by
    unfold blaSeeClaim
    rw [BlaPriv.idents_updateClaim, BlaPriv.idents_claimGet]
    · exact List.mem_map_of_mem hmem
    · exact fun c => rfl
  exact (h.seeClaim hmem).replaceBackboneGw hident hgw true

/-- **Adding a claim.** -/
lemma addClaim {gw : ℕ} (h : s.Inv G C fun _ => 0) {vid : U16}
    (hgw : (gw, vid) ∈ s.backboneGws.map BlaBackboneGw.key) (mac : EthAddr) :
    (blaAddClaim s mac vid gw).Inv G C fun _ => 0 := by
  unfold blaAddClaim
  cases hfind : claimHashFind s mac vid with
  | none => exact (h.createClaim hgw hfind s.jiffies).1.claimPut
  | some claim =>
    obtain ⟨hmem, -, -, hvid⟩ := claimHashFind_eq_some hfind
    dsimp only
    split_ifs
    · exact (h.seeClaim hmem).claimPut
    · exact (h.moveClaim hmem (by rw [hvid]; exact hgw)).1.claimPut

/-- **Removing a claim.** -/
lemma delClaim (h : s.Inv G C fun _ => 0) (mac : EthAddr) (vid : U16) :
    (blaDelClaim s mac vid).Inv G C fun _ => 0 := by
  unfold blaDelClaim
  cases hfind : claimHashFind s mac vid with
  | none => exact h
  | some claim =>
    obtain ⟨hmem, hhashed, -, -⟩ := claimHashFind_eq_some hfind
    have hget := h.claimGet (List.mem_map_of_mem hmem)
    have hdel := hget.claimHashDel (Heap.mem_modify_self hmem) hhashed
    exact hdel.claimPut.claimPut

/-- Claims that only the hash table refers to. -/
lemma refcount_eq_one (h : s.Inv G [] d) {c : BlaClaim} (hc : c ∈ s.claims) :
    c.hashed = true ∧ c.refcount = 1 := by
  obtain ⟨hrefs, hlive⟩ := h.claims.ok c hc
  rw [List.count_nil] at hrefs
  cases hhashed : c.hashed with
  | true =>
    rw [hhashed] at hrefs
    exact ⟨rfl, hrefs⟩
  | false =>
    rw [hhashed] at hrefs
    change c.refcount = 0 at hrefs
    omega

/-- The claims after one was taken out of the hash table and released. -/
lemma drop_claims (h : s.Inv G [] d) {c : BlaClaim} (hc : c ∈ s.claims) :
    (blaDelBackboneClaimsTurn s c.ptr).claims =
      Heap.free BlaClaim.ptr c.ptr s.claims := by
  obtain ⟨hhashed, hlast⟩ := h.refcount_eq_one hc
  have hdel := h.claimHashDel hc hhashed
  have hget : (Batadv.claimHashDel s c.ptr).claim? c.ptr = some { c with hashed := false } :=
    (Heap.get?_eq_some_iff hdel.claims.nodup).2 ⟨Heap.mem_modify_self hc, rfl⟩
  unfold blaDelBackboneClaimsTurn Batadv.claimPut
  rw [hget]
  dsimp only
  rw [if_pos hlast]
  show (Batadv.backboneGwPut _ _).claims = _
  rw [claims_backboneGwPut]
  exact Heap.free_modify fun c' _ hptr => hptr

/-- The claims after several were taken out and released. -/
lemma dropAll (h : s.Inv G [] d) {l : List BlaClaim} (hl : ∀ c ∈ l, c ∈ s.claims)
    (hnodup : (l.map BlaClaim.ptr).Nodup) :
    ((l.map BlaClaim.ptr).foldl blaDelBackboneClaimsTurn s).Inv G [] d ∧
      ((l.map BlaClaim.ptr).foldl blaDelBackboneClaimsTurn s).claims =
        (s.claims.filter fun c => c.ptr ∉ l.map BlaClaim.ptr) ∧
      ((l.map BlaClaim.ptr).foldl blaDelBackboneClaimsTurn s).faces = s.faces := by
  induction l generalizing s with
  | nil =>
    refine ⟨h, ?_, rfl⟩
    simp
  | cons c l ih =>
    rw [List.forall_mem_cons] at hl
    rw [List.map_cons, List.nodup_cons] at hnodup
    have hdel := h.claimHashDel hl.1 (h.refcount_eq_one hl.1).1
    have hturn : (blaDelBackboneClaimsTurn s c.ptr).Inv G [] d := hdel.claimPut
    have hfaces : (blaDelBackboneClaimsTurn s c.ptr).faces = s.faces := hdel.faces_claimPut
    have hclaims := h.drop_claims hl.1
    have hrest : ∀ c' ∈ l, c' ∈ (blaDelBackboneClaimsTurn s c.ptr).claims := by
      intro c' hc'
      rw [hclaims]
      refine Heap.mem_free.2 ⟨hl.2 c' hc', fun heq => hnodup.1 ?_⟩
      exact heq ▸ List.mem_map_of_mem hc'
    obtain ⟨hinv, hfilter, hrestFaces⟩ := ih hturn hrest hnodup.2
    rw [List.map_cons, List.foldl_cons]
    refine ⟨hinv, hfilter.trans ?_, hrestFaces.trans hfaces⟩
    rw [hclaims, Heap.free, List.filter_filter]
    apply List.filter_congr
    intro c' _
    simp only [List.mem_cons, not_or, ne_eq, Bool.decide_and, Bool.and_comm]

/-- **Removing the claims of a gateway.** -/
lemma delBackboneClaims (h : s.Inv G [] fun _ => 0) (gw : ℕ) :
    (blaDelBackboneClaims s gw).Inv G [] (fun _ => 0) ∧
      (blaDelBackboneClaims s gw).claims = (s.claims.filter fun c => c.backboneGw ≠ gw) ∧
      (blaDelBackboneClaims s gw).faces = s.faces := by
  obtain ⟨hinv, hclaims, hfaces⟩ := h.dropAll (l := s.claimsOf gw)
    (fun c hc => (List.mem_filter.1 hc).1)
    ((List.filter_sublist.map BlaClaim.ptr).nodup h.claims.nodup)
  have hfilter : (s.claims.filter fun c => c.ptr ∉ (s.claimsOf gw).map BlaClaim.ptr) =
      s.claims.filter fun c => c.backboneGw ≠ gw := by
    apply List.filter_congr
    intro c hc
    rw [decide_eq_decide, not_iff_not]
    constructor
    · intro hmem
      obtain ⟨c', hc', hptr⟩ := List.mem_map.1 hmem
      obtain ⟨hc', hsel⟩ := List.mem_filter.1 hc'
      rw [List.inj_on_of_nodup_map h.claims.nodup hc' hc hptr] at hsel
      simp only [Bool.and_eq_true, beq_iff_eq] at hsel
      exact hsel.2
    · intro hgw
      refine List.mem_map_of_mem (List.mem_filter.2 ⟨hc, ?_⟩)
      simp [(h.refcount_eq_one hc).1, hgw]
  rw [hfilter] at hclaims
  refine ⟨hinv.resetCrc ?_, hclaims, Eq.trans (BlaPriv.faces_updateGw ?_) hfaces⟩
  swap
  · exact fun g => rfl
  show (List.filter _ (List.foldl _ s _).claims).map BlaClaim.addr = []
  rw [hclaims, List.filter_filter, List.map_eq_nil_iff, List.filter_eq_nil_iff]
  intro c _ hsel
  simp at hsel

/-! ### Gateways, frames and timeouts -/

variable (env : BlaEnv)

/-- **Finding or creating a gateway.** -/
lemma getBackboneGw (h : s.Inv G C fun _ => 0) (primaryIf orig : EthAddr) (vid : U16)
    (ownBackbone : Bool) :
    (blaGetBackboneGw env s primaryIf orig vid ownBackbone).1.Inv
        ((blaGetBackboneGw env s primaryIf orig vid ownBackbone).2 :: G) C (fun _ => 0) ∧
      ((blaGetBackboneGw env s primaryIf orig vid ownBackbone).2, vid) ∈
        (blaGetBackboneGw env s primaryIf orig vid ownBackbone).1.backboneGws.map
          BlaBackboneGw.key := by
  unfold blaGetBackboneGw
  cases hfind : backboneHashFind env s orig vid with
  | some gw =>
    have hmem : gw ∈ s.backboneGws := List.mem_of_find?_eq_some hfind
    have hvid : gw.vid = vid := by
      have hfound := List.find?_some hfind
      simp only [Bool.and_eq_true, beq_iff_eq] at hfound
      exact hfound.2
    refine ⟨h.backboneGwGet (List.mem_map_of_mem hmem), ?_⟩
    rw [BlaPriv.keys_backboneGwGet, ← hvid]
    exact List.mem_map_of_mem hmem
  | none =>
    have hnew := h.newGw orig vid (env.chooseBackboneGw orig vid) s.jiffies
    dsimp only
    split_ifs with hown
    · have hwait := hnew.updateGw (p := s.nextPtr) (f := fun g =>
          { g with requestSent := g.requestSent + 1, waitPeriods := BLA_WAIT_PERIODS })
        fun g => ⟨rfl, rfl, rfl, rfl⟩
      refine ⟨hwait.of_eq rfl rfl rfl rfl, ?_⟩
      show (s.nextPtr, vid) ∈ List.map BlaBackboneGw.key (BlaPriv.updateGw _ _ _).backboneGws
      rw [BlaPriv.keys_updateGw]
      · exact List.mem_cons_self
      · exact fun g => rfl
    · exact ⟨hnew, List.mem_cons_self⟩

/-- `batadv_bla_update_own_backbone_gw`. -/
lemma updateOwnBackboneGw (h : s.Inv G C fun _ => 0) (primaryIf : EthAddr) (vid : U16) :
    (blaUpdateOwnBackboneGw env s primaryIf vid).Inv G C fun _ => 0 := by
  unfold blaUpdateOwnBackboneGw
  obtain ⟨hget, -⟩ := h.getBackboneGw env primaryIf primaryIf vid true
  apply backboneGwPut
  apply hget.updateGw
  exact fun g => ⟨rfl, rfl, rfl, rfl⟩

/-- Frames that are sent change nothing. -/
lemma sendClaims (h : s.Inv G C d) (primaryIf : EthAddr) (claims : List BlaClaim) :
    (claims.foldl (fun s c => blaSendClaim s primaryIf c.addr c.vid CLAIM_TYPE_CLAIM) s).Inv
      G C d := by
  induction claims generalizing s with
  | nil => exact h
  | cons c claims ih => exact ih (h.of_eq rfl rfl rfl rfl)

/-- `batadv_bla_answer_request`. -/
lemma answerRequest (h : s.Inv G C d) (primaryIf : EthAddr) (vid : U16) :
    (blaAnswerRequest env s primaryIf vid).Inv G C d := by
  unfold blaAnswerRequest
  cases hfind : backboneHashFind env s primaryIf vid with
  | none => exact h
  | some gw =>
    have hget := h.backboneGwGet (List.mem_map_of_mem (List.mem_of_find?_eq_some hfind))
    dsimp only
    apply backboneGwPut
    exact (hget.sendClaims primaryIf _).of_eq rfl rfl rfl rfl

/-- `batadv_bla_send_request`. -/
lemma sendRequest (h : s.Inv G [] fun _ => 0) (primaryIf : EthAddr) (gw : ℕ) :
    (blaSendRequest s primaryIf gw).Inv G [] fun _ => 0 := by
  obtain ⟨hdel, -, -⟩ := h.delBackboneClaims gw
  unfold blaSendRequest
  dsimp only
  split
  · exact hdel
  · split_ifs
    · apply updateGw
      · exact hdel.of_eq rfl rfl rfl rfl
      · exact fun g => ⟨rfl, rfl, rfl, rfl⟩
    · exact hdel.of_eq rfl rfl rfl rfl

/-- `batadv_handle_announce`. -/
lemma handleAnnounce (h : s.Inv G [] fun _ => 0) (primaryIf anAddr backboneAddr : EthAddr)
    (vid : U16) :
    (Batadv.handleAnnounce env s primaryIf anAddr backboneAddr vid).1.Inv G [] fun _ => 0 := by
  unfold Batadv.handleAnnounce
  split_ifs with hmac
  · exact h
  · obtain ⟨hget, -⟩ := h.getBackboneGw env primaryIf backboneAddr vid false
    have hseen := hget.updateGw (p := (blaGetBackboneGw env s primaryIf backboneAddr vid false).2)
      (f := fun g => { g with
        lasttime := (blaGetBackboneGw env s primaryIf backboneAddr vid false).1.jiffies })
      fun g => ⟨rfl, rfl, rfl, rfl⟩
    dsimp only
    split
    · -- the gateway is in memory
      rename_i hnone
      obtain ⟨g, hg, hptr⟩ := List.mem_map.1
        (hseen.gws.exist _ (List.mem_append_right _ List.mem_cons_self))
      rw [BlaPriv.gw?, (Heap.get?_eq_some_iff hseen.gws.nodup).2 ⟨hg, hptr⟩] at hnone
      exact absurd hnone (by simp)
    · apply backboneGwPut
      split_ifs
      · exact hseen.sendRequest primaryIf _
      · apply updateGw
        · exact hseen.of_eq rfl rfl rfl rfl
        · exact fun g => ⟨rfl, rfl, rfl, rfl⟩
      · exact hseen

/-- `batadv_handle_unclaim`. -/
lemma handleUnclaim (h : s.Inv G C fun _ => 0) (primaryIf : Option EthAddr)
    (backboneAddr claimAddr : EthAddr) (vid : U16) :
    (Batadv.handleUnclaim env s primaryIf backboneAddr claimAddr vid).Inv G C fun _ => 0 := by
  unfold Batadv.handleUnclaim
  extract_lets s₁
  have hsent : s₁.Inv G C fun _ => 0 := by
    unfold s₁
    cases primaryIf with
    | none => exact h
    | some devAddr =>
      dsimp only
      split_ifs
      · exact h.of_eq rfl rfl rfl rfl
      · exact h
  cases hfind : backboneHashFind env s₁ backboneAddr vid with
  | none => exact hsent
  | some gw =>
    have hget := hsent.backboneGwGet (List.mem_map_of_mem (List.mem_of_find?_eq_some hfind))
    exact (hget.delClaim claimAddr vid).backboneGwPut

/-- `batadv_handle_claim`. -/
lemma handleClaim (h : s.Inv G C fun _ => 0) (primaryIf backboneAddr claimAddr : EthAddr)
    (vid : U16) :
    (Batadv.handleClaim env s primaryIf backboneAddr claimAddr vid).Inv G C fun _ => 0 := by
  unfold Batadv.handleClaim
  obtain ⟨hget, hkey⟩ := h.getBackboneGw env primaryIf backboneAddr vid false
  have hadd := hget.addClaim hkey claimAddr
  dsimp only
  apply backboneGwPut
  split_ifs
  · exact hadd.of_eq rfl rfl rfl rfl
  · exact hadd

/-- `batadv_check_claim_group`. -/
lemma checkClaimGroup (h : s.Inv G C d) (inMesh : EthAddr → Bool) (primaryIf hwSrc : EthAddr)
    (hwDst : BlaClaimDst) (hSource : EthAddr) :
    (Batadv.checkClaimGroup inMesh s primaryIf hwSrc hwDst hSource).1.Inv G C d := by
  unfold Batadv.checkClaimGroup
  dsimp only
  split
  · exact h
  · split_ifs
    · exact h
    · exact h
    · exact h
    · exact h.of_eq rfl rfl rfl rfl
    · exact h

/-- The different types of claim frames. -/
lemma handleFrame (h : s.Inv G [] fun _ => 0) (primaryIf : EthAddr) (frame : BlaFrame)
    (arp : BlaArp) (vid : U16) :
    (blaHandleFrame env s primaryIf frame arp vid).Inv G [] fun _ => 0 := by
  unfold blaHandleFrame
  split_ifs
  · exact h.handleClaim env primaryIf _ _ vid
  · exact h.handleUnclaim env _ _ _ vid
  · exact h.handleAnnounce env primaryIf _ _ vid
  · unfold handleRequest
    split_ifs
    · exact h
    · exact h
    · exact h.answerRequest env primaryIf vid
  · exact h

/-- Either outcome of a test. -/
lemma ite {q : Prop} [Decidable q] {a b : BlaPriv × Bool} (ha : a.1.Inv G C d)
    (hb : b.1.Inv G C d) : (if q then a else b).1.Inv G C d := by
  by_cases hq : q
  · rw [if_pos hq]
    exact ha
  · rw [if_neg hq]
    exact hb

/-- **A frame from the LAN.** -/
theorem processClaim (h : s.Inv G [] fun _ => 0) (inMesh : EthAddr → Bool) (primaryIf : EthAddr)
    (frame : BlaFrame) :
    (blaProcessClaim env inMesh s primaryIf frame).1.Inv G [] fun _ => 0 := by
  unfold blaProcessClaim
  dsimp only
  refine ite h ?_
  cases frame.arp with
  | none => exact h
  | some arp =>
    have hgroup := h.checkClaimGroup inMesh primaryIf arp.hwSrc arp.hwDst frame.hSource
    have hown := hgroup.updateOwnBackboneGw env primaryIf (getVid frame.vlans)
    exact ite h (ite h (ite h (ite h (ite h (ite h (ite h (ite hgroup
      (hown.handleFrame env primaryIf frame arp (getVid frame.vlans)))))))))

/-! ### Timeouts and changes of the own address -/

/-- A loop whose turns keep the invariant. -/
lemma foldl (h : s.Inv G C d) {f : BlaPriv → ℕ → BlaPriv}
    (hf : ∀ (s : BlaPriv) (p : ℕ), s.Inv G C d → (f s p).Inv G C d) (ps : List ℕ) :
    (ps.foldl f s).Inv G C d := by
  induction ps generalizing s with
  | nil => exact h
  | cons p ps ih => exact ih (hf s p h)

/-- **Removing a gateway**, and its claims. -/
lemma removeGw (h : s.Inv G [] fun _ => 0) {g : BlaBackboneGw} (hface : g.face ∈ s.faces) :
    (Batadv.backboneGwPut ((blaDelBackboneClaims s g.ptr).updateGw g.ptr
      fun g => { g with bucket := none }) g.ptr).Inv G [] fun _ => 0 := by
  obtain ⟨hdel, -, hfaces⟩ := h.delBackboneClaims g.ptr
  rw [← hfaces] at hface
  -- the gateway is still in the hash table when its claims are gone
  obtain ⟨g', hmem, heq⟩ := List.mem_map.1 hface
  obtain ⟨hg', hsome⟩ := List.mem_filter.1 hmem
  have hptr : g'.ptr = g.ptr := congrArg Prod.fst heq
  have hunhashed := hdel.unhashGw hg' hsome
  rw [hptr] at hunhashed
  exact hunhashed.backboneGwPut

/-- The turn of `batadv_bla_purge_backbone_gw` for a gateway. -/
lemma purgeBackboneGwTurn (h : s.Inv G [] fun _ => 0) (now : Bool) (gw : ℕ) :
    (blaPurgeBackboneGwTurn env now s gw).Inv G [] fun _ => 0 := by
  unfold blaPurgeBackboneGwTurn
  cases hget : s.gw? gw with
  | none => exact h
  | some g =>
    obtain ⟨hg, rfl⟩ := (Heap.get?_eq_some_iff h.gws.nodup).1 hget
    dsimp only
    by_cases hbucket : g.bucket.isNone = true
    · rw [if_pos hbucket]
      exact h
    · have hface : g.face ∈ s.faces :=
        List.mem_map_of_mem (List.mem_filter.2
          ⟨hg, by simpa [Option.isSome_iff_ne_none] using hbucket⟩)
      rw [if_neg hbucket]
      split_ifs
      · exact h
      · exact BlaPriv.Inv.removeGw (s := { s with numRequests := s.numRequests - 1 })
          (h.of_eq rfl rfl rfl rfl) hface
      · exact h.removeGw hface

/-- `batadv_bla_purge_backbone_gw`. -/
lemma purgeBackboneGw (h : s.Inv G [] fun _ => 0) (now : Bool) :
    (blaPurgeBackboneGw env s now).Inv G [] fun _ => 0 :=
  h.foldl (fun _ gw hs => hs.purgeBackboneGwTurn env now gw) _

/-- The turn of `batadv_bla_purge_claims` for a claim. -/
lemma purgeClaimsTurn (h : s.Inv G C fun _ => 0) (primaryIf : Option EthAddr) (now : Bool)
    (claim : ℕ) : (blaPurgeClaimsTurn env primaryIf now s claim).Inv G C fun _ => 0 := by
  unfold blaPurgeClaimsTurn
  cases hget : s.claim? claim with
  | none => exact h
  | some c =>
    obtain ⟨hc, rfl⟩ := (Heap.get?_eq_some_iff h.claims.nodup).1 hget
    have hclaim := h.claimGet (List.mem_map_of_mem hc)
    have hheld := hclaim.backboneGwGet (ptr_mem_of_key (h.owner _ (List.mem_map_of_mem hc)))
    dsimp only
    apply claimPut
    apply backboneGwPut
    split
    · exact hheld
    · split_ifs
      · exact hheld
      · exact hheld
      · exact hheld.handleUnclaim env _ _ _ _

/-- `batadv_bla_purge_claims`. -/
lemma purgeClaims (h : s.Inv G C fun _ => 0) (primaryIf : Option EthAddr) (now : Bool) :
    (blaPurgeClaims env s primaryIf now).Inv G C fun _ => 0 :=
  h.foldl (fun _ claim hs => hs.purgeClaimsTurn env primaryIf now claim) _

/-- `batadv_bla_update_orig_address`. -/
lemma updateOrigAddress (h : s.Inv G [] fun _ => 0) (bridgeLoopAvoidance : Bool)
    (primaryIf : EthAddr) (oldif : Option EthAddr) :
    (blaUpdateOrigAddress env s bridgeLoopAvoidance primaryIf oldif).Inv G [] fun _ => 0 := by
  have hgroup : BlaPriv.Inv { s with group := crc16 primaryIf } G [] fun _ => 0 :=
    h.of_eq rfl rfl rfl rfl
  unfold blaUpdateOrigAddress
  dsimp only
  split
  · exact (hgroup.purgeClaims env none true).purgeBackboneGw env true
  · refine hgroup.foldl (fun s gw hs => ?_) _
    unfold blaUpdateOrigAddressTurn
    split
    · exact hs
    · split_ifs
      · exact hs
      · refine (hs.updateGw ?_).of_eq rfl rfl rfl rfl
        exact fun g => ⟨rfl, rfl, rfl, rfl⟩

/-- The turn of `batadv_bla_periodic_work` for a gateway. -/
lemma periodicTurn (h : s.Inv G C d) (primaryIf : EthAddr) (sendLoopdetect : Bool) (gw : ℕ) :
    (blaPeriodicTurn primaryIf sendLoopdetect s gw).Inv G C d := by
  unfold blaPeriodicTurn
  cases s.gw? gw with
  | none => exact h
  | some g =>
    dsimp -zeta only
    by_cases horig : g.orig ≠ primaryIf
    · rw [if_pos horig]
      exact h
    · rw [if_neg horig]
      extract_lets s₁ s₂ s₃
      have hseen : s₁.Inv G C d := h.updateGw fun g => ⟨rfl, rfl, rfl, rfl⟩
      have hsent : s₃.Inv G C d := by
        show BlaPriv.Inv (if sendLoopdetect then _ else _) G C d
        split_ifs
        · exact hseen.of_eq rfl rfl rfl rfl
        · exact hseen.of_eq rfl rfl rfl rfl
      split_ifs
      · exact hsent
      · exact hsent.updateGw fun g => ⟨rfl, rfl, rfl, rfl⟩
      · have hwait := hsent.updateGw (p := gw)
          (f := fun g => { g with waitPeriods := g.waitPeriods - 1 }) fun g => ⟨rfl, rfl, rfl, rfl⟩
        apply updateGw
        · exact hwait.of_eq rfl rfl rfl rfl
        · exact fun g => ⟨rfl, rfl, rfl, rfl⟩

/-- `batadv_bla_periodic_work`. -/
lemma periodicWork (h : s.Inv G [] fun _ => 0) (bridgeLoopAvoidance : Bool)
    (primaryIf : Option EthAddr) (ethRandomAddr : EthAddr) :
    (blaPeriodicWork env s bridgeLoopAvoidance primaryIf ethRandomAddr).Inv G [] fun _ => 0 := by
  unfold blaPeriodicWork
  cases primaryIf with
  | none => exact h
  | some primaryIf =>
    have hpurged := (h.purgeClaims env (some primaryIf) false).purgeBackboneGw env false
    dsimp only
    by_cases hbla : (!bridgeLoopAvoidance) = true
    · rw [if_pos hbla]
      exact hpurged
    · rw [if_neg hbla]
      refine foldl ?_ (fun _ gw hs => hs.periodicTurn primaryIf _ gw) _
      split_ifs
      · exact hpurged.of_eq rfl rfl rfl rfl
      · exact hpurged.of_eq rfl rfl rfl rfl

/-! ### Payload -/

/-- `batadv_bla_loopdetect_check`: the reference goes to the worker, or is dropped. -/
lemma loopdetectCheck (h : s.Inv G C fun _ => 0) (primaryIf hSource : EthAddr) (vid : U16) :
    (blaLoopdetectCheck env s primaryIf hSource vid).1.Inv G C fun _ => 0 := by
  obtain ⟨hget, -⟩ := h.getBackboneGw env primaryIf primaryIf vid true
  unfold blaLoopdetectCheck
  split_ifs
  · exact h
  · exact h
  · dsimp only
    split_ifs
    · exact hget.backboneGwPut
    · exact ⟨hget.claims, hget.gws.perm List.perm_middle.symm, hget.owner⟩

/-- **A frame from the mesh.** -/
theorem rx (h : s.Inv G [] fun _ => 0) (bridgeLoopAvoidance : Bool) (primaryIf : Option EthAddr)
    (frame : BlaRxFrame) :
    (blaRx env s bridgeLoopAvoidance primaryIf frame).1.Inv G [] fun _ => 0 := by
  unfold blaRx
  cases primaryIf with
  | none => exact h
  | some primaryIf =>
    have hloop := h.loopdetectCheck env primaryIf frame.hSource frame.vid
    dsimp only
    refine ite (h.updateOwnBackboneGw env primaryIf frame.vid) (ite hloop (ite hloop
      (ite hloop ?_)))
    cases hfind : claimHashFind (blaLoopdetectCheck env s primaryIf frame.hSource frame.vid).1
        frame.hSource frame.vid with
    | none =>
      have hclaimed := hloop.handleClaim env primaryIf primaryIf frame.hSource frame.vid
      exact hclaimed.updateOwnBackboneGw env primaryIf frame.vid
    | some claim =>
      have hget := hloop.claimGet (List.mem_map_of_mem (List.mem_of_find?_eq_some hfind))
      dsimp only
      refine ite ?_ (ite hget.claimPut ?_)
      · apply claimPut
        apply updateOwnBackboneGw
        apply hget.updateClaim
        exact fun c => ⟨rfl, rfl, rfl, rfl, rfl⟩
      · apply claimPut
        apply updateOwnBackboneGw
        exact hget.handleClaim env primaryIf _ _ _

/-- **A frame from the LAN**, claim frame or not. -/
theorem tx (h : s.Inv G [] fun _ => 0) (inMesh : EthAddr → Bool) (bridgeLoopAvoidance : Bool)
    (primaryIf : Option EthAddr) (frame : BlaFrame) (vid : U16) :
    (blaTx env inMesh s bridgeLoopAvoidance primaryIf frame vid).1.Inv G [] fun _ => 0 := by
  unfold blaTx
  cases primaryIf with
  | none => exact h
  | some primaryIf =>
    have hclaim := h.processClaim env inMesh primaryIf frame
    dsimp only
    refine ite (h.updateOwnBackboneGw env primaryIf vid) (ite hclaim (ite hclaim ?_))
    cases hfind : claimHashFind (blaProcessClaim env inMesh s primaryIf frame).1
        frame.hSource vid with
    | none => exact hclaim.updateOwnBackboneGw env primaryIf vid
    | some claim =>
      have hget := hclaim.claimGet (List.mem_map_of_mem (List.mem_of_find?_eq_some hfind))
      dsimp only
      refine ite (ite ?_ hget.claimPut) (ite hget.claimPut ?_)
      · apply claimPut
        apply updateOwnBackboneGw
        exact hget.handleUnclaim env _ _ _ _
      · apply claimPut
        exact hget.updateOwnBackboneGw env primaryIf vid

/-- **A step.** -/
theorem step (h : s.Inv [] [] fun _ => 0) (e : BlaEvent) :
    (blaStep env s e).Inv [] [] fun _ => 0 := by
  cases e with
  | tick => exact h.of_eq rfl rfl rfl rfl
  | rx bla primaryIf frame => exact h.rx env bla primaryIf frame
  | tx inMesh bla primaryIf frame vid => exact h.tx env inMesh bla primaryIf frame vid
  | periodicWork bla primaryIf ethRandomAddr => exact h.periodicWork env bla primaryIf ethRandomAddr
  | updateOrigAddress bla primaryIf oldif => exact h.updateOrigAddress env bla primaryIf oldif
  | loopdetectReport gw =>
    show (blaLoopdetectReport s gw).Inv [] [] _
    unfold blaLoopdetectReport
    split_ifs with hmem
    · -- the reference of the worker is dropped
      apply backboneGwPut
      refine ⟨h.claims, h.gws.perm ?_, h.owner⟩
      rw [List.append_nil]
      exact (List.perm_append_comm.trans (List.perm_cons_erase hmem).symm)
    · exact h

end BlaPriv.Inv

/-! ### Reachable states -/

/-- What holds between two steps: there is one claim for each client and VLAN, every claim refers
to a gateway in memory of its VLAN, which counts it, and the checksum of every gateway in the hash
table, and what the gateway announces, sums up the clients of its claims. -/
structure BlaPriv.Consistent (s : BlaPriv) : Prop where
  unique : ((s.claims.filter BlaClaim.hashed).map BlaClaim.key).Nodup
  owner : ∀ c ∈ s.claims, c.hashed = true → ∃ g ∈ s.backboneGws, g.ptr = c.backboneGw ∧
    g.vid = c.vid ∧ g.refcount =
      g.bucket.isSome.toNat + (s.claimsOf g.ptr).length + s.reportWork.count g.ptr
  crc : ∀ g ∈ s.backboneGws, g.bucket.isSome = true →
    g.crc = BLA_CRC_INIT ^^^ Checksum.xorSum crc16 ((s.claimsOf g.ptr).map BlaClaim.addr)
  announced : ∀ g ∈ s.backboneGws, g.bucket.isSome = true → ∀ primaryIf,
    (blaSendAnnounce s primaryIf g).sent = s.sent ++ [blaClaimFrame s.group primaryIf
      (BLA_ANNOUNCE_MAC ++
        (BLA_CRC_INIT ^^^ Checksum.xorSum crc16 ((s.claimsOf g.ptr).map BlaClaim.addr)))
      g.vid CLAIM_TYPE_ANNOUNCE]

/-- The invariant is enough. -/
lemma BlaPriv.Inv.consistent {s : BlaPriv} (h : s.Inv [] [] fun _ => 0) : s.Consistent := by
  have hclients : ∀ gw, s.clients gw = (s.claimsOf gw).map BlaClaim.addr := by
    intro gw
    unfold BlaPriv.clients blaClients BlaPriv.claimsOf
    congr 1
    apply List.filter_congr
    intro c hc
    rw [(h.refcount_eq_one hc).1, Bool.true_and]
  have hcrc : ∀ g ∈ s.backboneGws,
      g.crc = BLA_CRC_INIT ^^^ Checksum.xorSum crc16 ((s.claimsOf g.ptr).map BlaClaim.addr) := by
    intro g hg
    rw [(h.gws.ok g hg).crc, hclients]
    exact BitVec.xor_zero
  refine ⟨h.claims.keys, fun c hc _ => ?_, fun g hg _ => hcrc g hg, fun g hg _ primaryIf => ?_⟩
  · obtain ⟨g, hg, hkey⟩ := List.mem_map.1 (h.owner _ (List.mem_map_of_mem hc))
    obtain ⟨hptr, hvid⟩ := Prod.mk.inj hkey
    refine ⟨g, hg, hptr, hvid, ?_⟩
    rw [(h.gws.ok g hg).refcount, hclients, List.length_map, List.append_nil]
  · rw [← hcrc g hg]
    rfl

/-- The invariant holds in every reachable state. -/
lemma BlaPriv.Inv.run (env : BlaEnv) (jiffies : Jiffies) (primaryIf : Option EthAddr)
    (events : List BlaEvent) :
    (Run.final (blaStep env) (blaInit jiffies primaryIf) events).Inv [] [] fun _ => 0 := by
  have hinit : (blaInit jiffies primaryIf).Inv [] [] fun _ => 0 := by
    refine ⟨⟨List.nodup_nil, ?_, List.nodup_nil, ?_, ?_⟩, ⟨List.nodup_nil, ?_, ?_, ?_⟩, ?_⟩ <;>
      simp [blaInit]
  have hrun : Run.AllSteps (blaStep env) (fun _ _ => True) (blaInit jiffies primaryIf) events :=
    Run.AllSteps.of_forall (fun _ _ => trivial) events
  exact Run.AllSteps.invariant (fun s : BlaPriv => s.Inv [] [] fun _ => 0)
    (fun _ e hs _ => hs.step env e) hinit hrun

/-- **The checksums of the gateways sum up their claims** in every reachable state. -/
theorem bla_claims_consistent (env : BlaEnv) (jiffies : Jiffies) (primaryIf : Option EthAddr)
    (events : List BlaEvent) :
    (Run.final (blaStep env) (blaInit jiffies primaryIf) events).Consistent :=
  (BlaPriv.Inv.run env jiffies primaryIf events).consistent

end Batadv
