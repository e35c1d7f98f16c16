import BatmanAdv.TranslationTable.Response
import BatmanAdv.TranslationTable.Size
import Mathlib.Algebra.BigOperators.Ring.Finset

set_option relaxedAutoImplicit false
set_option autoImplicit false

/-!
# Responses with the whole local table

`batadv_tt_local_add` refuses a client with which the table could not be sent any more, and
`batadv_tt_prepare_tvlv_local_data` reserves the room for a response with the whole table.  Both
go by the counters of the VLANs, which change when changes are committed: the clients that were
added since the last commit are not counted when another one is.  How many of them there are is
limited by nothing, so that a commit can make a table that is too large to be sent, and even one
whose length is more than the `u16` that it is kept in.

## Main definitions

* `Batadv.TtLocal.FullTableExact` — the room for a response with the whole table is what its
  clients take, and they are all written to it.
* `Batadv.TtLocal.clientsAfterCommit` — the clients that a commit leaves in the table.
* `Batadv.TtLocalOp.FitsAfter`, `Batadv.TtLocalOp.CommitFits` — after a commit the table fits into
  a packet, and the condition for that on the state before it.
* `Batadv.TtLocalOp.AddsOneByOne` — no new client waits for a commit when another one is added.

## Main results

* `Batadv.TtLocal.fullTableExact_iff` — the room is right exactly if it is less than 64 KiB.
* `Batadv.TtLocal.FullTableExact.step_iff` — one call.
* `Batadv.TtLocal.Roomy.commitFits_of_addsOneByOne` — the refusal is enough where clients are added
  one by one.
* `Batadv.tt_full_table_iff` — exactly in which runs the table fits after each commit and the
  responses are right in every state.
-/

namespace Batadv

variable {msecsToJiffies : ℕ → Jiffies} {tt : TtLocal}

/-! ### The length of a response -/

/-- The number of committed clients. -/
def TtLocal.clients (tt : TtLocal) : ℕ :=
  tt.localHash.countP fun e => !hasFlag e.flags TT_CLIENT_NEW

/-- The number of the VLANs that have committed clients. -/
def TtLocal.servedVlans (tt : TtLocal) : ℕ :=
  tt.vlanList.countP fun vlan => decide (0 < tt.committed vlan.vid)

/-- **A response with the whole table is right**: the room that is reserved for it is that of its
header, of the checksums of the VLANs that have clients, and of the committed clients; these are
written to the part of it behind the checksums, all of them. -/
structure TtLocal.FullTableExact (tt : TtLocal) : Prop where
  length : (ttPrepareTvlvLocalData true tt (-1)).1.toNat =
    4 + 8 * tt.servedVlans + ttLen tt.clients
  room : (ttPrepareTvlvLocalData true tt (-1)).2 = ttLen tt.clients
  written : ttTvlvGenerate (ttLocalChangesOf tt)
    (BitVec.ofInt 16 (ttPrepareTvlvLocalData true tt (-1)).2) = (ttLocalChangesOf tt, 0)
  all : (ttLocalChangesOf tt).length = tt.clients
  inside : 4 + 8 * (ttLocalVlanData tt).length + ttLen (ttLocalChangesOf tt).length ≤
    (ttPrepareTvlvLocalData true tt (-1)).1.toNat

/-- The VLANs of a mesh interface: each is there once, and has the number of a VLAN. -/
structure TtLocal.VlansOk (tt : TtLocal) : Prop where
  nodup : (tt.vlanList.map MeshifVlan.vid).Nodup
  valid : ∀ vid ∈ tt.vlanList.map MeshifVlan.vid, vlanIdValid vid = true

/-! ### The clients of all VLANs -/

/-- Counting a VLAN in a list by a sum. -/
lemma sum_map_beq (vid : U16) (vids : List U16) :
    (vids.map fun v => if (vid == v) = true then 1 else 0).sum = vids.count vid := by
  induction vids with
  | nil => rfl
  | cons v vids ih =>
    rw [List.map_cons, List.sum_cons, ih, List.count_cons, Nat.add_comm, Bool.beq_comm]

/-- Counting the entries of each VLAN counts each entry once. -/
lemma sum_countP_vid (p : TtLocalEntry → Bool) {vids : List U16} (hnd : vids.Nodup)
    {l : List TtLocalEntry} (hl : ∀ e ∈ l, e.vid ∈ vids) :
    (vids.map fun v => l.countP fun e => e.vid == v && p e).sum = l.countP p := by
  induction l with
  | nil => simp
  | cons e l ih =>
    have hrest := ih fun d hd => hl d (List.mem_cons_of_mem _ hd)
    have hone : (vids.map fun v => if (e.vid == v && p e) = true then 1 else 0).sum =
        if p e = true then 1 else 0 := by
      cases p e with
      | false => simp
      | true =>
        have hcount : vids.count e.vid = 1 := List.count_eq_one_of_mem hnd (hl e List.mem_cons_self)
        simp only [Bool.and_true, if_true]
        rw [sum_map_beq, hcount]
    simp only [List.countP_cons, List.sum_map_add, hrest, hone]

/-- The committed clients are those of all VLANs. -/
lemma TtLocal.sum_committed (hwf : tt.Wf) (hvlans : tt.VlansOk) :
    (tt.vlanList.map fun vlan => tt.committed vlan.vid).sum = tt.clients := by
  have hmap : (tt.vlanList.map fun vlan => tt.committed vlan.vid) =
      (tt.vlanList.map MeshifVlan.vid).map tt.committed := by
    rw [List.map_map]
    rfl
  rw [hmap]
  exact sum_countP_vid _ hvlans.nodup fun e he => hwf.vlan e.key (List.mem_map_of_mem he)

/-- No VLAN has more clients than there are. -/
lemma TtLocal.committed_le_clients (tt : TtLocal) (vid : U16) : tt.committed vid ≤ tt.clients := by
  refine List.countP_mono_left fun e _ h => ?_
  exact (Bool.and_eq_true _ _ ▸ h).2

/-- There are less than 65536 VLANs: not every `u16` is the number of one. -/
lemma TtLocal.VlansOk.length_lt (h : tt.VlansOk) : tt.vlanList.length < 2 ^ 16 := by
  have hsub : ((tt.vlanList.map MeshifVlan.vid).map BitVec.toNat).toFinset ⊆
      (Finset.range (2 ^ 16)).erase 1 := by
    intro n hn
    simp only [List.mem_toFinset, List.mem_map] at hn
    obtain ⟨vid, hvid, rfl⟩ := hn
    rw [Finset.mem_erase, Finset.mem_range]
    refine ⟨fun hone => ?_, vid.isLt⟩
    obtain rfl : vid = 1 := BitVec.eq_of_toNat_eq hone
    have hbad := h.valid 1 (by simpa using hvid)
    revert hbad
    decide
  have hnd : ((tt.vlanList.map MeshifVlan.vid).map BitVec.toNat).Nodup :=
    h.nodup.map fun _ _ => BitVec.eq_of_toNat_eq
  have hcard := Finset.card_le_card hsub
  rw [List.toFinset_card_of_nodup hnd] at hcard
  simp at hcard
  omega

/-! ### What the counters say -/

/-- The sum of the counters as the code computes it. -/
lemma foldl_numEntries (l : List MeshifVlan) (n : ℤ) :
    l.foldl (fun n vlan => n + BitVec.ofInt 16 vlan.numEntries) (BitVec.ofInt 16 n) =
      BitVec.ofInt 16 (n + (l.map MeshifVlan.numEntries).sum) := by
  induction l generalizing n with
  | nil => simp
  | cons vlan l ih =>
    rw [List.foldl_cons, ← BitVec.ofInt_add, ih, List.map_cons, List.sum_cons, add_assoc]

/-- The number of VLANs as the code computes it. -/
lemma foldl_numVlan (l : List MeshifVlan) (n : ℕ) :
    l.foldl (fun (n : U16) _ => n + 1) (BitVec.ofNat 16 n) = BitVec.ofNat 16 (n + l.length) := by
  induction l generalizing n with
  | nil => rfl
  | cons vlan l ih =>
    have hstep : BitVec.ofNat 16 n + 1 = BitVec.ofNat 16 (n + 1) := by
      rw [BitVec.ofNat_add]
      rfl
    rw [List.foldl_cons, hstep, ih, List.length_cons]
    congr 1
    omega

/-- The sum of the counters. -/
lemma TtLocal.SizesExact.sum_numEntries (h : tt.SizesExact) (hwf : tt.Wf) (hvlans : tt.VlansOk) :
    (tt.vlanList.map MeshifVlan.numEntries).sum = tt.clients := by
  have hmap : tt.vlanList.map MeshifVlan.numEntries =
      (tt.vlanList.map fun vlan => tt.committed vlan.vid).map Nat.cast := by
    rw [List.map_map]
    exact List.map_congr_left h
  rw [hmap, ← tt.sum_committed hwf hvlans]
  exact (Nat.cast_list_sum _).symm

/-- The clients and the VLANs that have some are known from the counters. -/
lemma TtLocal.SizesExact.served_eq (h : tt.SizesExact) :
    tt.servedVlans = tt.vlanList.countP fun vlan => decide (0 < vlan.numEntries) := by
  refine List.countP_congr fun vlan hmem => ?_
  rw [h vlan hmem]
  simp

/-- `batadv_tt_local_table_transmit_size`, as long as its counters do not overflow. -/
lemma TtLocal.SizesExact.transmitSize_eq (h : tt.SizesExact) (hwf : tt.Wf) (hvlans : tt.VlansOk)
    (hclients : tt.clients < 2 ^ 16) :
    ttLocalTableTransmitSize tt = 28 + 8 * tt.vlanList.length + ttLen tt.clients := by
  have hentries := foldl_numEntries tt.vlanList 0
  have hnum := foldl_numVlan tt.vlanList 0
  rw [h.sum_numEntries hwf hvlans, zero_add, BitVec.ofInt_natCast] at hentries
  rw [zero_add] at hnum
  unfold ttLocalTableTransmitSize
  dsimp only
  rw [show (0 : U16) = BitVec.ofInt 16 0 from rfl, hentries,
    show BitVec.ofInt 16 0 = BitVec.ofNat 16 0 from rfl, hnum, BitVec.toNat_ofNat,
    BitVec.toNat_ofNat, Nat.mod_eq_of_lt hclients, Nat.mod_eq_of_lt hvlans.length_lt]
  omega

/-- The VLANs without a counter, as it is read, add nothing to the sum. -/
lemma foldl_active (l : List MeshifVlan) (n : U16) :
    (l.filter fun vlan => BitVec.ofInt 16 vlan.numEntries != 0).foldl
        (fun n vlan => n + BitVec.ofInt 16 vlan.numEntries) n =
      l.foldl (fun n vlan => n + BitVec.ofInt 16 vlan.numEntries) n := by
  induction l generalizing n with
  | nil => rfl
  | cons vlan l ih =>
    rw [List.filter_cons]
    by_cases hzero : BitVec.ofInt 16 vlan.numEntries = 0
    · rw [if_neg (by simp [hzero]), ih, List.foldl_cons, hzero, BitVec.ofNat_eq_ofNat,
        BitVec.add_zero]
    · rw [if_pos (bne_iff_ne.2 hzero), List.foldl_cons, ih, List.foldl_cons]

/-- The VLANs that are announced are those that have clients, as long as their counters do not
overflow. -/
lemma TtLocal.SizesExact.length_active (h : tt.SizesExact) (hclients : tt.clients < 2 ^ 16) :
    (ttLocalActiveVlans tt).length = tt.servedVlans := by
  rw [ttLocalActiveVlans, ← List.countP_eq_length_filter]
  refine List.countP_congr fun vlan hmem => ?_
  have hle := tt.committed_le_clients vlan.vid
  rw [h vlan hmem, BitVec.ofInt_natCast, bne_iff_ne, decide_eq_true_iff]
  constructor
  · intro hne
    by_contra hzero
    exact hne (by rw [Nat.eq_zero_of_not_pos hzero]; rfl)
  · intro hpos hzero
    have hval := congrArg BitVec.toNat hzero
    rw [BitVec.toNat_ofNat, Nat.mod_eq_of_lt (by omega)] at hval
    exact hpos.ne' hval

/-- `batadv_tt_prepare_tvlv_local_data` for the whole table, as long as its counters do not
overflow: the length of the container is cut to a `u16`. -/
lemma TtLocal.SizesExact.prepare_eq (h : tt.SizesExact) (hwf : tt.Wf) (hvlans : tt.VlansOk)
    (hclients : tt.clients < 2 ^ 16) :
    ttPrepareTvlvLocalData true tt (-1) =
      (BitVec.ofNat 16 (4 + 8 * tt.servedVlans + ttLen tt.clients), (ttLen tt.clients : ℤ)) := by
  have hentries := foldl_numEntries tt.vlanList 0
  rw [h.sum_numEntries hwf hvlans, zero_add, BitVec.ofInt_natCast] at hentries
  have htotal : (ttLocalActiveVlans tt).foldl
      (fun n vlan => n + BitVec.ofInt 16 vlan.numEntries) (0 : U16) =
        BitVec.ofNat 16 tt.clients := by
    rw [ttLocalActiveVlans, foldl_active]
    exact hentries
  have hlen : (4 + 8 * (tt.servedVlans : ℤ)) = ((4 + 8 * tt.servedVlans : ℕ) : ℤ) := by
    push_cast
    rfl
  unfold ttPrepareTvlvLocalData
  dsimp only
  rw [htotal, h.length_active hclients, BitVec.toNat_ofNat, Nat.mod_eq_of_lt hclients, hlen,
    BitVec.ofInt_natCast]
  simp only [Int.reduceNeg, Int.reduceLT, if_true, BitVec.ofInt_natCast]
  rw [← BitVec.ofNat_add, Nat.add_comm]

/-- The changes of a response with the whole table are the committed clients. -/
lemma length_ttLocalChangesOf (tt : TtLocal) : (ttLocalChangesOf tt).length = tt.clients := by
  rw [ttLocalChangesOf, TtLocal.clients]
  induction tt.localHash with
  | nil => rfl
  | cons e l ih =>
    cases hnew : hasFlag e.flags TT_CLIENT_NEW with
    | true => simp [ttLocalValid, hnew] at ih ⊢; exact ih
    | false => simp [ttLocalValid, hnew] at ih ⊢; exact ih

/-- Where there is room for all clients, they are all written. -/
lemma ttTvlvGenerate_all {changes : List TtChange} (h : ttLen changes.length < 2 ^ 16) :
    ttTvlvGenerate changes (BitVec.ofNat 16 (ttLen changes.length)) = (changes, 0) := by
  have hentries : (ttEntries (BitVec.ofNat 16 (ttLen changes.length))).toNat = changes.length := by
    unfold ttLen at h ⊢
    rw [ttEntries, BitVec.toNat_ofNat, BitVec.toNat_ofNat, Nat.mod_eq_of_lt h,
      Nat.mul_div_cancel _ (by decide), Nat.mod_eq_of_lt (by omega)]
  unfold ttTvlvGenerate
  dsimp only
  rw [hentries, List.take_length, Nat.sub_self]
  rfl

/-- **The room for a response with the whole table is right exactly if it is less than 64 KiB**,
the length being kept in a `u16`. -/
theorem TtLocal.fullTableExact_iff (h : tt.SizesExact) (hwf : tt.Wf) (hvlans : tt.VlansOk) :
    tt.FullTableExact ↔ 4 + 8 * tt.servedVlans + ttLen tt.clients < 2 ^ 16 := by
  constructor
  · intro hexact
    rw [← hexact.length]
    exact (ttPrepareTvlvLocalData true tt (-1)).1.isLt
  · intro hroom
    have hclients : tt.clients < 2 ^ 16 := by
      unfold ttLen at hroom
      omega
    have hprepare := h.prepare_eq hwf hvlans hclients
    have hlen := length_ttLocalChangesOf tt
    have htoNat : (BitVec.ofNat 16 (4 + 8 * tt.servedVlans + ttLen tt.clients)).toNat =
        4 + 8 * tt.servedVlans + ttLen tt.clients := by
      rw [BitVec.toNat_ofNat, Nat.mod_eq_of_lt hroom]
    constructor
    · rw [hprepare, htoNat]
    · rw [hprepare]
    · rw [hprepare, BitVec.ofInt_natCast, ← hlen]
      exact ttTvlvGenerate_all (by rw [hlen]; omega)
    · exact hlen
    · rw [hprepare, htoNat, hlen, ttLocalVlanData, List.length_map, h.length_active hclients]

/-! ### Commits -/

/-- The number of clients that a commit leaves in the table: those that are not pending, or, if no
changes are stored, those that are committed already. -/
def TtLocal.clientsAfterCommit (tt : TtLocal) : ℕ :=
  if tt.localChanges = 0 then tt.clients
  else tt.localHash.countP fun e => !hasFlag e.flags TT_CLIENT_PENDING

/-- After the call, if it is a commit, the table can be sent in a packet. -/
def TtLocalOp.FitsAfter (packetSizeMax : ℤ) (tt : TtLocal) : TtLocalOp → Prop
  | .commit a => (ttLocalTableTransmitSize (ttLocalCommitChanges a tt) : ℤ) ≤ packetSizeMax
  | _ => True

instance TtLocalOp.decidableFitsAfter (packetSizeMax : ℤ) (tt : TtLocal) :
    ∀ op : TtLocalOp, Decidable (op.FitsAfter packetSizeMax tt)
  | .commit a => inferInstanceAs (Decidable
      ((ttLocalTableTransmitSize (ttLocalCommitChanges a tt) : ℤ) ≤ packetSizeMax))
  | .add _ => .isTrue trivial
  | .remove _ _ _ _ => .isTrue trivial
  | .purge _ _ _ => .isTrue trivial
  | .resize _ => .isTrue trivial

/-- If the call is a commit, the packet has room for the clients that it leaves in the table, and
for the headers and the checksums. -/
def TtLocalOp.CommitFits (packetSizeMax : ℤ) (tt : TtLocal) : TtLocalOp → Prop
  | .commit _ => 28 + 8 * tt.vlanList.length + ttLen tt.clientsAfterCommit ≤ packetSizeMax
  | _ => True

instance TtLocalOp.decidableCommitFits (packetSizeMax : ℤ) (tt : TtLocal) :
    ∀ op : TtLocalOp, Decidable (op.CommitFits packetSizeMax tt)
  | .commit _ => inferInstanceAs (Decidable
      (28 + 8 * (tt.vlanList.length : ℤ) + ttLen tt.clientsAfterCommit ≤ packetSizeMax))
  | .add _ => .isTrue trivial
  | .remove _ _ _ _ => .isTrue trivial
  | .purge _ _ _ => .isTrue trivial
  | .resize _ => .isTrue trivial

/-- The size of the largest packet stays the same: the calls that read it read this one, and
`batadv_tt_local_resize_to_mtu`, which is called when it changes, is not called. -/
def TtLocalOp.PacketSizeConst (packetSizeMax : ℤ) : TtLocalOp → Prop
  | .add a => a.packetSizeMax = packetSizeMax
  | .resize _ => False
  | _ => True

lemma clients_commit (a : TtCommitArgs) (tt : TtLocal) :
    (ttLocalCommitChanges a tt).clients = tt.clientsAfterCommit := by
  unfold TtLocal.clientsAfterCommit TtLocal.clients
  split_ifs with hchanges
  · rw [(ttLocalCommitChanges_of_no_changes a hchanges).1]
  · rw [ttLocalCommitChanges_localHash a hchanges, List.countP_filter, List.countP_map]
    refine List.countP_congr fun e _ => ?_
    have hnew : hasFlag (e.flags &&& ~~~TT_CLIENT_NEW) TT_CLIENT_NEW = false :=
      hasFlag_and_not_self _ _
    have hpending : hasFlag (e.flags &&& ~~~TT_CLIENT_NEW) TT_CLIENT_PENDING =
        hasFlag e.flags TT_CLIENT_PENDING := hasFlag_and_not (by decide) _
    simp [hnew, hpending]

/-- What is known of the table in every state of a run without resizing. -/
structure TtLocal.SizeInv (tt : TtLocal) : Prop where
  wf : tt.Wf
  sizes : tt.SizesExact
  vlans : tt.VlansOk

/-- Whether the responses are right is known from the counters. -/
lemma TtLocal.FullTableExact.of_vlanList {tt' : TtLocal} (hinv : tt.SizeInv) (hinv' : tt'.SizeInv)
    (hvlan : tt'.vlanList = tt.vlanList) (h : tt.FullTableExact) : tt'.FullTableExact := by
  have hclients : tt'.clients = tt.clients := by
    have hsum := hinv.sizes.sum_numEntries hinv.wf hinv.vlans
    have hsum' := hinv'.sizes.sum_numEntries hinv'.wf hinv'.vlans
    rw [hvlan, hsum] at hsum'
    exact (Nat.cast_injective hsum').symm
  have hserved : tt'.servedVlans = tt.servedVlans := by
    rw [hinv'.sizes.served_eq, hinv.sizes.served_eq, hvlan]
  rw [TtLocal.fullTableExact_iff hinv'.sizes hinv'.wf hinv'.vlans, hclients, hserved]
  exact (TtLocal.fullTableExact_iff hinv.sizes hinv.wf hinv.vlans).1 h

/-- The calls of a run without resizing keep what is known of the table. -/
lemma TtLocal.SizeInv.step (hinv : tt.SizeInv) {packetSizeMax : ℤ} {op : TtLocalOp}
    (hop : op.PacketSizeConst packetSizeMax) : (ttLocalStep msecsToJiffies tt op).SizeInv := by
  have hspares : op.SparesNew msecsToJiffies tt := by
    cases op with
    | resize a => exact hop.elim
    | _ => trivial
  have hvids : (ttLocalStep msecsToJiffies tt op).vlanList.map MeshifVlan.vid =
      tt.vlanList.map MeshifVlan.vid := by
    cases op with
    | add a => rw [ttLocalStep, ttLocalAdd_vlanList]
    | remove alloc addr vid roaming => rw [ttLocalStep, ttLocalRemove_vlanList]
    | purge alloc jiffies timeout => rw [ttLocalStep, ttLocalPurge_vlanList]
    | commit a => exact ttLocalCommitChanges_vids a tt
    | resize a => exact hop.elim
  refine ⟨hinv.wf.step op, (hinv.sizes.step_iff hinv.wf op).2 hspares, ?_, ?_⟩
  · rw [hvids]
    exact hinv.vlans.nodup
  · rw [hvids]
    exact hinv.vlans.valid

/-- **One call** leaves a table whose responses are right, and that fits into a packet if the call
is a commit, exactly if a commit finds room for the clients that it leaves.

**Proof sketch.** Only a commit changes the counters.  If the responses are right after it, there
are so few clients that the size of the table is computed without an overflow; and a table that
fits into a packet is even shorter than 64 KiB with the headers. -/
theorem TtLocal.FullTableExact.step_iff (hinv : tt.SizeInv) (h : tt.FullTableExact)
    {packetSizeMax : ℤ} (hmax : packetSizeMax ≤ 65535) {op : TtLocalOp}
    (hop : op.PacketSizeConst packetSizeMax) :
    ((ttLocalStep msecsToJiffies tt op).FullTableExact ∧ op.FitsAfter packetSizeMax tt) ↔
      op.CommitFits packetSizeMax tt := by
  have hinv' : (ttLocalStep msecsToJiffies tt op).SizeInv := hinv.step hop
  cases op with
  | add a =>
    exact iff_of_true ⟨h.of_vlanList hinv hinv' (ttLocalAdd_vlanList tt a), trivial⟩ trivial
  | remove alloc addr vid roaming =>
    exact iff_of_true
      ⟨h.of_vlanList hinv hinv' (ttLocalRemove_vlanList alloc tt addr vid roaming), trivial⟩ trivial
  | purge alloc jiffies timeout =>
    exact iff_of_true
      ⟨h.of_vlanList hinv hinv' (ttLocalPurge_vlanList alloc jiffies timeout tt), trivial⟩ trivial
  | resize a => exact hop.elim
  | commit a =>
    change ((ttLocalCommitChanges a tt).FullTableExact ∧
      (ttLocalTableTransmitSize (ttLocalCommitChanges a tt) : ℤ) ≤ packetSizeMax) ↔
        28 + 8 * (tt.vlanList.length : ℤ) + ttLen tt.clientsAfterCommit ≤ packetSizeMax
    change (ttLocalCommitChanges a tt).SizeInv at hinv'
    have hvlans : (ttLocalCommitChanges a tt).vlanList.length = tt.vlanList.length := by
      have hlen := congrArg List.length (ttLocalCommitChanges_vids a tt)
      rwa [List.length_map, List.length_map] at hlen
    have hserved : (ttLocalCommitChanges a tt).servedVlans ≤ tt.vlanList.length :=
      List.countP_le_length.trans_eq hvlans
    rw [TtLocal.fullTableExact_iff hinv'.sizes hinv'.wf hinv'.vlans, ← clients_commit a tt]
    have hsize := hinv'.sizes.transmitSize_eq hinv'.wf hinv'.vlans
    rw [hvlans] at hsize
    unfold ttLen at *
    constructor
    · rintro ⟨hroom, hfits⟩
      rw [hsize (by omega)] at hfits
      push_cast at hfits ⊢
      omega
    · intro hfits
      push_cast at hfits
      rw [hsize (by omega)]
      push_cast
      exact ⟨by omega, by omega⟩

/-! ### What the refusal is enough for -/

/-- A client that is not in the table is added when all others are committed. -/
def TtLocalOp.AddsOneByOne (tt : TtLocal) : TtLocalOp → Prop
  | .add a => ttLocalHashFind tt a.addr a.vid = none →
    ∀ e ∈ tt.localHash, hasFlag e.flags TT_CLIENT_NEW = false
  | _ => True

/-- A packet has room for all clients, committed or not. -/
def TtLocal.Roomy (packetSizeMax : ℤ) (tt : TtLocal) : Prop :=
  28 + 8 * tt.vlanList.length + ttLen tt.localHash.length ≤ packetSizeMax

/-- A commit leaves at most all clients. -/
lemma TtLocal.Roomy.commitFits {packetSizeMax : ℤ} (h : tt.Roomy packetSizeMax) (op : TtLocalOp) :
    op.CommitFits packetSizeMax tt := by
  have hle : tt.clientsAfterCommit ≤ tt.localHash.length := by
    unfold TtLocal.clientsAfterCommit TtLocal.clients
    split_ifs <;> exact List.countP_le_length
  cases op with
  | commit a =>
    change 28 + 8 * (tt.vlanList.length : ℤ) + ttLen tt.clientsAfterCommit ≤ packetSizeMax
    unfold TtLocal.Roomy ttLen at *
    push_cast at h ⊢
    omega
  | _ => trivial

/-- Where the table gets no client that it had not, the room is still enough. -/
lemma TtLocal.Roomy.of_length_le {packetSizeMax : ℤ} (h : tt.Roomy packetSizeMax) {tt' : TtLocal}
    (hvlans : tt'.vlanList.length = tt.vlanList.length)
    (hle : tt'.localHash.length ≤ tt.localHash.length) : tt'.Roomy packetSizeMax := by
  unfold TtLocal.Roomy ttLen at *
  rw [hvlans]
  push_cast at h ⊢
  omega

/-- **What a client that is not refused leaves**, if all others are committed: room for all of
them. -/
lemma TtLocal.Roomy.added (hinv : tt.SizeInv) {packetSizeMax : ℤ} (h : tt.Roomy packetSizeMax)
    (hmax : packetSizeMax ≤ 65535) {a : TtLocalAddArgs} (ha : a.packetSizeMax = packetSizeMax)
    (hfind : ttLocalHashFind tt a.addr a.vid = none)
    (hcommitted : ∀ e ∈ tt.localHash, hasFlag e.flags TT_CLIENT_NEW = false) :
    (ttLocalAdd tt a).1.Roomy packetSizeMax := by
  cases hadd : (ttLocalAdd tt a).2 with
  | false =>
    rw [ttLocalAdd_of_refused hadd]
    exact h
  | true =>
    have hclients : tt.clients = tt.localHash.length :=
      List.countP_eq_length.2 fun e he => by rw [hcommitted e he, Bool.not_false]
    have hlength : (ttLocalAdd tt a).1.localHash.length = tt.localHash.length + 1 := by
      rw [ttLocalAdd_localHash_of_new hfind hadd, List.length_append, List.length_cons,
        ← Nat.add_assoc, ← List.length_append, List.take_append_drop]
    have hroom : ¬ a.packetSizeMax < ttLocalTableTransmitSize tt + ttLen 1 := by
      unfold ttLocalAdd at hadd
      simp only [hfind] at hadd
      split_ifs at hadd with hroom
      exact hroom
    unfold TtLocal.Roomy at h ⊢
    rw [ha, hinv.sizes.transmitSize_eq hinv.wf hinv.vlans (by unfold ttLen at h; omega),
      hclients] at hroom
    rw [hlength, ttLocalAdd_vlanList]
    unfold ttLen at *
    push_cast at hroom ⊢
    omega

/-- One call keeps the room for all clients. -/
lemma TtLocal.Roomy.step (hinv : tt.SizeInv) {packetSizeMax : ℤ} (h : tt.Roomy packetSizeMax)
    (hmax : packetSizeMax ≤ 65535) {op : TtLocalOp} (hop : op.PacketSizeConst packetSizeMax)
    (hone : op.AddsOneByOne tt) : (ttLocalStep msecsToJiffies tt op).Roomy packetSizeMax := by
  cases op with
  | add a =>
    cases hfind : ttLocalHashFind tt a.addr a.vid with
    | some e =>
      refine h.of_length_le (congrArg _ (ttLocalAdd_vlanList tt a)) ?_
      rw [ttLocalStep, ttLocalAdd_localHash_of_found hfind, List.length_map]
    | none => exact h.added hinv hmax hop hfind (hone hfind)
  | remove alloc addr vid roaming =>
    refine h.of_length_le (congrArg _ (ttLocalRemove_vlanList alloc tt addr vid roaming)) ?_
    change (ttLocalRemove alloc tt addr vid roaming).localHash.length ≤ _
    cases hfind : ttLocalHashFind tt addr vid with
    | none => rw [ttLocalRemove, hfind]
    | some e =>
      cases hnew : hasFlag e.flags TT_CLIENT_NEW with
      | false => rw [ttLocalRemove_localHash_of_committed alloc hfind hnew, List.length_map]
      | true =>
        rw [ttLocalRemove_localHash_of_new alloc hfind hinv.wf.nodup hnew]
        exact List.length_filter_le _ _
  | purge alloc jiffies timeout =>
    refine h.of_length_le (congrArg _ (ttLocalPurge_vlanList alloc jiffies timeout tt)) ?_
    rw [ttLocalStep, ttLocalPurge_localHash alloc jiffies timeout hinv.wf.nodup, List.length_map]
  | commit a =>
    have hvlans := congrArg List.length (ttLocalCommitChanges_vids a tt)
    rw [List.length_map, List.length_map] at hvlans
    refine h.of_length_le hvlans ?_
    rw [ttLocalStep]
    by_cases hchanges : tt.localChanges = 0
    · rw [(ttLocalCommitChanges_of_no_changes a hchanges).1]
    · rw [ttLocalCommitChanges_localHash a hchanges]
      exact (List.length_filter_le _ _).trans_eq (List.length_map _)
  | resize a => exact hop.elim

/-- **The refusal of `batadv_tt_local_add` is enough where clients are added one by one**: in a run
in which every client that is created finds all others committed, every commit finds room.  What it
does not see are those that gather between two commits. -/
theorem TtLocal.Roomy.commitFits_of_addsOneByOne (hinv : tt.SizeInv) {packetSizeMax : ℤ}
    (h : tt.Roomy packetSizeMax) (hmax : packetSizeMax ≤ 65535) {ops : List TtLocalOp}
    (hops : Run.AllSteps (ttLocalStep msecsToJiffies)
      (fun tt op => op.PacketSizeConst packetSizeMax ∧ op.AddsOneByOne tt) tt ops) :
    Run.AllSteps (ttLocalStep msecsToJiffies) (TtLocalOp.CommitFits packetSizeMax) tt ops :=
  Run.AllSteps.imp (fun tt => tt.SizeInv ∧ tt.Roomy packetSizeMax)
    (fun _ op hi hop => ⟨hi.2.commitFits op, hi.1.step hop.1, hi.2.step hi.1 hmax hop.1 hop.2⟩)
    ⟨hinv, h⟩ hops

/-! ### Runs -/

/-- **Full-table responses.**  With a constant size of the largest packet, and in a run of calls
from a table without clients, the table fits into a packet after each commit and the responses with
the whole table are right in every state exactly if every commit finds room for the clients that it
leaves. -/
theorem tt_full_table_iff (msecsToJiffies : ℕ → Jiffies) (vids : List U16) (hnd : vids.Nodup)
    (hvids : ∀ vid ∈ vids, vlanIdValid vid = true) (packetSizeMax : ℤ)
    (hmax : packetSizeMax ≤ 65535) (ops : List TtLocalOp)
    (hops : ∀ op ∈ ops, op.PacketSizeConst packetSizeMax) :
    ((∀ tt ∈ Run.states (ttLocalStep msecsToJiffies) (TtLocal.new vids) ops, tt.FullTableExact) ∧
        Run.AllSteps (ttLocalStep msecsToJiffies) (TtLocalOp.FitsAfter packetSizeMax)
          (TtLocal.new vids) ops) ↔
      Run.AllSteps (ttLocalStep msecsToJiffies) (TtLocalOp.CommitFits packetSizeMax)
        (TtLocal.new vids) ops := by
  have hmap : (TtLocal.new vids).vlanList.map MeshifVlan.vid = vids := by
    rw [TtLocal.new, List.map_map]
    exact List.map_id vids
  have hsizes : (TtLocal.new vids).SizesExact := by
    intro vlan hmem
    obtain ⟨vid, -, rfl⟩ := List.mem_map.1 hmem
    rfl
  have hinv : (TtLocal.new vids).SizeInv :=
    ⟨TtLocal.wf_new vids, hsizes, ⟨by rwa [hmap], by rwa [hmap]⟩⟩
  have hnone : (TtLocal.new vids).servedVlans = 0 :=
    List.countP_eq_zero.2 fun vlan _ => by simp [TtLocal.committed, TtLocal.new]
  have hexact : (TtLocal.new vids).FullTableExact := by
    rw [TtLocal.fullTableExact_iff hinv.sizes hinv.wf hinv.vlans, hnone]
    change 4 + 8 * 0 + ttLen 0 < 2 ^ 16
    decide
  exact Run.forall_mem_states_and_allSteps_iff TtLocal.SizeInv TtLocal.FullTableExact
    (fun _ op => op.PacketSizeConst packetSizeMax)
    (fun tt op hinv hexact hop => hexact.step_iff hinv hmax hop)
    (fun tt op hinv hop _ => hinv.step hop) hinv hexact (Run.AllSteps.of_forall_mem hops)

/-- Clients are seen one after the other, and then their changes are committed; packets have at most
100 bytes. -/
def ttFullTableOps (clients : List EthAddr) : List TtLocalOp :=
  clients.map (fun addr =>
    .add ⟨addr, 0, 1000, false, 0, 0, 0, 0x020000000009, 100, 0, true, fun _ => true⟩) ++
      [.commit ⟨1500, true, true, true⟩]

lemma ttFullTableOps_const (clients : List EthAddr) :
    ∀ op ∈ ttFullTableOps clients, op.PacketSizeConst 100 := by
  intro op hop
  rw [ttFullTableOps, List.mem_append, List.mem_map, List.mem_singleton] at hop
  obtain ⟨addr, -, rfl⟩ | rfl := hop
  · rfl
  · trivial

/-- There is room for five clients. -/
theorem tt_full_table_iff_five :
    (∀ tt ∈ Run.states (ttLocalStep fun ms => BitVec.ofNat 64 ms) (TtLocal.new [0])
        (ttFullTableOps [1, 2, 3, 4, 5]), tt.FullTableExact) ∧
      Run.AllSteps (ttLocalStep fun ms => BitVec.ofNat 64 ms) (TtLocalOp.FitsAfter 100)
        (TtLocal.new [0]) (ttFullTableOps [1, 2, 3, 4, 5]) := by
  have hfits : Run.AllSteps (ttLocalStep fun ms => BitVec.ofNat 64 ms) (TtLocalOp.CommitFits 100)
      (TtLocal.new [0]) (ttFullTableOps [1, 2, 3, 4, 5]) := by
    decide +kernel
  exact (tt_full_table_iff (fun ms => BitVec.ofNat 64 ms) [0] (by simp) (by simp [vlanIdValid]) 100
    (by simp) (ttFullTableOps [1, 2, 3, 4, 5]) (ttFullTableOps_const _)).2 hfits

/-- A sixth client is not refused, since none of the others is counted yet: after the commit the
table does not fit into a packet. -/
theorem tt_full_table_fails :
    ¬Run.AllSteps (ttLocalStep fun ms => BitVec.ofNat 64 ms) (TtLocalOp.FitsAfter 100)
      (TtLocal.new [0]) (ttFullTableOps [1, 2, 3, 4, 5, 6]) := by
  decide +kernel

end Batadv
