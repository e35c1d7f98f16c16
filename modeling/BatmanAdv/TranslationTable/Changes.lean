import BatmanAdv.Lib.Changeset
import BatmanAdv.Lib.Run
import BatmanAdv.TranslationTable.LocalTable

set_option relaxedAutoImplicit false
set_option autoImplicit false

/-!
# The changes announced for the local translation table

Between two commits `batadv_tt_local_event` keeps one change for each address: a deletion and an
addition of the same address cancel each other, and a second one of the same kind replaces the
flags of the first.  The change list is compared with the clients of the last commit, client by
client.

It goes wrong in three ways.  A change of an address is taken for one of the same client even if
it is in another VLAN.  A deletion cancels an addition that only told new flags of a client that
had been announced before.  And a client that is created anew while a deletion of it is recorded
is not announced, since it had not been announced before the deletion either.

## Main definitions

* `Batadv.ttView` — the clients of a table with the flags that are kept in sync.
* `Batadv.TtLocal.Committed` — a table right after a commit.
* `Batadv.TtLocalAddArgs.storesChange` — whether an addition stores a change.
* `Batadv.TtLocalOp.KeepsChanges` — a call does none of the three things above.
* `Batadv.TtTracked` — the recorded changes lead from the committed clients to the present ones.

## Main results

* `Batadv.ttChangeOf_event` — what an event does to the recorded changes.
* `Batadv.TtTracked.step` — one call keeps the changes right.
* `Batadv.tt_changeset_exact` — the announced changes are exact.
-/

namespace Batadv

open Changeset

variable {msecsToJiffies : ℕ → Jiffies} {tt : TtLocal}

/-! ### Clients and changes as a map -/

/-- The flags that are kept in sync, of the flags of a client. -/
def ttSync (flags : U16) : U8 := (flags &&& TT_SYNC_MASK).setWidth 8

/-- The same of the flags of a change. -/
def TtChange.sync (c : TtChange) : U8 := c.flags &&& TT_SYNC_MASK.setWidth 8

/-- The clients of the table, with the flags that are kept in sync. -/
def ttView (tt : TtLocal) (k : EthAddr × U16) : Option U8 :=
  (ttLocalHashFind tt k.1 k.2).map fun e => ttSync e.flags

/-- What a change means: a deletion takes the client away, anything else inserts or overwrites
it. -/
def TtChange.toChange (c : TtChange) : Change (EthAddr × U16) U8 :=
  ⟨(c.addr, c.vid), if c.isDel then none else some c.sync⟩

/-- The changes in the registered container. -/
def ttTvlvChanges (tt : TtLocal) : List (Change (EthAddr × U16) U8) :=
  (tt.container.map fun tvlv => tvlv.changes.map TtChange.toChange).getD []

/-- A table right after a commit: no change is recorded, no client is `NEW` or pending, and the
changes in the container have been made. -/
structure TtLocal.Committed (tt : TtLocal) : Prop where
  wf : tt.Wf
  changesList : tt.changesList = []
  localChanges : tt.localChanges = 0
  clean : ∀ e ∈ tt.localHash, hasFlag e.flags TT_CLIENT_NEW = false ∧
    hasFlag e.flags TT_CLIENT_PENDING = false ∧ hasFlag e.flags TT_CLIENT_DEL = false
  announced : applyAll (ttView tt) (ttTvlvChanges tt) = ttView tt

/-! ### When the changes stay exact -/

/-- The recorded changes of the client's address are of this client, not of one with the same
address in another VLAN. -/
def TtEventMatches (tt : TtLocal) (e : TtLocalEntry) : Prop :=
  ∀ c ∈ tt.changesList, c.addr = e.addr → c.vid = e.vid

/-- A deletion of the client does not cancel the announcement of new flags: it is `NEW`, or the
recorded change, if there is one, is a deletion itself. -/
def TtDeletionKept (tt : TtLocal) (e : TtLocalEntry) : Prop :=
  hasFlag e.flags TT_CLIENT_NEW = true ∨ ∀ c ∈ tt.changesList, c.addr = e.addr → c.isDel = true

instance (tt : TtLocal) (e : TtLocalEntry) : Decidable (TtEventMatches tt e) :=
  inferInstanceAs (Decidable (∀ c ∈ tt.changesList, c.addr = e.addr → c.vid = e.vid))

instance (tt : TtLocal) (e : TtLocalEntry) : Decidable (TtDeletionKept tt e) :=
  inferInstanceAs (Decidable (_ ∨ ∀ c ∈ tt.changesList, c.addr = e.addr → c.isDel = true))

/-- Whether a flag that is sent gets another value when the client of the entry is seen again. -/
def TtLocalAddArgs.newFlags (a : TtLocalAddArgs) (e : TtLocalEntry) : Bool :=
  e.flags &&& ~~~TT_CLIENT_ROAM &&& TT_REMOTE_MASK !=
    a.dynamicFlags (e.flags &&& ~~~TT_CLIENT_ROAM) &&& TT_REMOTE_MASK

/-- Whether a client that is not in the table is not refused. -/
def TtLocalAddArgs.accepted (a : TtLocalAddArgs) (tt : TtLocal) : Bool :=
  !decide (a.packetSizeMax < ttLocalTableTransmitSize tt + ttLen 1) && a.allocEntry &&
    (tt.vlanList.find? fun vlan => vlan.vid == a.vid).isSome

/-- Whether adding a client stores a change: it is pending, or seen with other flags, or it is
created.  A client that is just seen again stores none. -/
def TtLocalAddArgs.storesChange (a : TtLocalAddArgs) (tt : TtLocal) : Bool :=
  match ttLocalHashFind tt a.addr a.vid with
  | some e => hasFlag e.flags TT_CLIENT_PENDING || a.newFlags e
  | none => a.accepted tt

/-- The call keeps the changes exact.  It is one that changes clients, there is memory for the
changes it stores, and

* any change it stores meets only recorded changes of the same client,
* a deletion it stores does not cancel the announcement of new flags,
* a client it creates has no recorded deletion. -/
def TtLocalOp.KeepsChanges (msecsToJiffies : ℕ → Jiffies) (tt : TtLocal) : TtLocalOp → Prop
  | .add a => a.storesChange tt = true →
    (∀ c, a.allocChange c = true) ∧
    (∀ e ∈ ttLocalHashFind tt a.addr a.vid, TtEventMatches tt e) ∧
    (ttLocalHashFind tt a.addr a.vid = none →
      ∀ c ∈ tt.changesList, c.addr = a.addr → c.vid = a.vid ∧ c.isDel = false)
  | .remove alloc addr vid _ => ∀ e ∈ ttLocalHashFind tt addr vid,
    (∀ c, alloc c = true) ∧ TtEventMatches tt e ∧ TtDeletionKept tt e
  | .purge alloc jiffies timeout =>
    ∀ e ∈ tt.localHash, e.purgeDue msecsToJiffies jiffies timeout = true →
      (∀ c, alloc c = true) ∧ TtEventMatches tt e ∧ TtDeletionKept tt e ∧
        ∀ d ∈ tt.localHash, d.purgeDue msecsToJiffies jiffies timeout = true →
          d.addr = e.addr → d.vid = e.vid
  | .commit _ | .resize _ => False

/-! ### The change list -/

/-- Whether the change is of the client. -/
def TtChange.isFor (k : EthAddr × U16) (c : TtChange) : Bool := c.addr == k.1 && c.vid == k.2

/-- The recorded change of a client. -/
def ttChangeOf (tt : TtLocal) (k : EthAddr × U16) : Option TtChange :=
  tt.changesList.find? (TtChange.isFor k)

lemma TtChange.isFor_iff {k : EthAddr × U16} {c : TtChange} :
    c.isFor k = true ↔ k = (c.addr, c.vid) := by
  rw [TtChange.isFor, Bool.and_eq_true, beq_iff_eq, beq_iff_eq]
  exact ⟨fun h => Prod.ext h.1.symm h.2.symm, by rintro rfl; exact ⟨rfl, rfl⟩⟩

/-- What becomes of the recorded change of a client when another one is stored. -/
def ttCoalesce (old : Option TtChange) (new : TtChange) : Option TtChange :=
  match old with
  | none => some new
  | some c => if new.isDel != c.isDel then none else some { c with flags := new.flags }

/-- The change list is in order: the counter is its length, and no address occurs twice. -/
structure TtChangesWf (tt : TtLocal) : Prop where
  count : tt.localChanges = tt.changesList.length
  nodup : (tt.changesList.map TtChange.addr).Nodup

/-- The change that `batadv_tt_local_event` stores. -/
def ttEventChange (e : TtLocalEntry) (eventFlags : U8) : TtChange :=
  ⟨e.flags.setWidth 8 ||| eventFlags, e.addr, e.vid⟩

/-- Setting the flags of a change leaves the address and the VLAN of every change. -/
lemma map_ttChangesSetFlags {β : Type*} (g : EthAddr → U16 → β) (addr : EthAddr) (flags : U8)
    (cs : List TtChange) :
    (ttChangesSetFlags addr flags cs).map (fun c => g c.addr c.vid) =
      cs.map fun c => g c.addr c.vid := by
  induction cs with
  | nil => rfl
  | cons c cs ih =>
    unfold ttChangesSetFlags
    split_ifs
    · rfl
    · rw [List.map_cons, List.map_cons, ih]

/-- What an event does, when there is memory and all recorded changes of the address are of the
client. -/
lemma ttLocalEvent_changesList {alloc : TtChange → Bool} (halloc : ∀ c, alloc c = true)
    (e : TtLocalEntry) (eventFlags : U8) :
    (ttLocalEvent alloc tt e eventFlags).changesList =
      match tt.changesList.find? fun c => c.addr == e.addr with
      | none => tt.changesList ++ [ttEventChange e eventFlags]
      | some c =>
        if (ttEventChange e eventFlags).isDel != c.isDel then
          tt.changesList.eraseP fun c => c.addr == e.addr
        else ttChangesSetFlags e.addr (ttEventChange e eventFlags).flags tt.changesList := by
  unfold ttLocalEvent ttEventChange
  simp only [halloc, Bool.not_true, Bool.false_eq_true, if_false]
  cases tt.changesList.find? fun c => c.addr == e.addr with
  | none => rfl
  | some c =>
    dsimp only
    split_ifs <;> rfl

/-- An event keeps the change list in order. -/
lemma TtChangesWf.event (h : TtChangesWf tt) (alloc : TtChange → Bool) (e : TtLocalEntry)
    (eventFlags : U8) : TtChangesWf (ttLocalEvent alloc tt e eventFlags) := by
  unfold ttLocalEvent
  dsimp only
  split_ifs with halloc
  · exact h
  cases hfind : tt.changesList.find? fun c => c.addr == e.addr with
  | none =>
    have hnew : e.addr ∉ tt.changesList.map TtChange.addr := fun hmem => by
      obtain ⟨c, hc, haddr⟩ := List.mem_map.1 hmem
      exact List.find?_eq_none.1 hfind c hc (by simpa using haddr)
    refine ⟨by simp [h.count], ?_⟩
    rw [List.map_append]
    refine List.nodup_append.2 ⟨h.nodup, List.nodup_singleton _, fun x hx y hy hxy => ?_⟩
    rw [List.map_cons, List.map_nil, List.mem_singleton] at hy
    rw [hxy, hy] at hx
    exact hnew hx
  | some c =>
    have hmem := List.mem_of_find?_eq_some hfind
    have haddr := List.find?_some hfind
    dsimp only
    split_ifs
    · refine ⟨?_, h.nodup.sublist (List.eraseP_sublist.map _)⟩
      dsimp only
      rw [List.length_eraseP_of_mem hmem haddr, h.count]
    · have hlen := congrArg List.length (map_ttChangesSetFlags (fun a _ => a) e.addr
        (e.flags.setWidth 8 ||| eventFlags) tt.changesList)
      rw [List.length_map, List.length_map] at hlen
      refine ⟨by dsimp only; rw [hlen, h.count], ?_⟩
      have hmap := map_ttChangesSetFlags (fun a _ => a) e.addr
        (e.flags.setWidth 8 ||| eventFlags) tt.changesList
      exact (congrArg List.Nodup hmap).mpr h.nodup

/-- Setting the flags of the first change of an address, seen client by client. -/
lemma find_ttChangesSetFlags {cs : List TtChange} (hnd : (cs.map TtChange.addr).Nodup)
    {c : TtChange} (hc : c ∈ cs) (flags : U8) (k : EthAddr × U16) :
    (ttChangesSetFlags c.addr flags cs).find? (TtChange.isFor k) =
      if k = (c.addr, c.vid) then some { c with flags := flags }
      else cs.find? (TtChange.isFor k) := by
  induction cs with
  | nil => simp at hc
  | cons d cs ih =>
    rw [List.map_cons, List.nodup_cons] at hnd
    rw [ttChangesSetFlags]
    rcases List.mem_cons.1 hc with rfl | hc
    · simp only [beq_self_eq_true, if_true]
      split_ifs with hk
      · exact List.find?_cons_of_pos (TtChange.isFor_iff.2 hk)
      · have hset : ¬ ({ c with flags := flags } : TtChange).isFor k = true := fun h =>
          hk (TtChange.isFor_iff.1 h)
        have hold : ¬ c.isFor k = true := fun h => hk (TtChange.isFor_iff.1 h)
        rw [List.find?_cons_of_neg hset, List.find?_cons_of_neg hold]
    · have hne : d.addr ≠ c.addr := fun heq => hnd.1 (heq ▸ List.mem_map_of_mem hc)
      rw [if_neg (by simpa using hne)]
      by_cases hd : d.isFor k = true
      · have hk : k ≠ (c.addr, c.vid) := fun heq =>
          hne (congrArg Prod.fst ((TtChange.isFor_iff.1 hd).symm.trans heq))
        rw [List.find?_cons_of_pos hd, List.find?_cons_of_pos hd, if_neg hk]
      · rw [List.find?_cons_of_neg hd, List.find?_cons_of_neg hd, ih hnd.2 hc]

/-- Erasing the only change of an address, seen client by client. -/
lemma find_eraseP_addr {cs : List TtChange} (hnd : (cs.map TtChange.addr).Nodup)
    {c : TtChange} (hc : c ∈ cs) (k : EthAddr × U16) :
    (cs.eraseP fun d => d.addr == c.addr).find? (TtChange.isFor k) =
      if k = (c.addr, c.vid) then none else cs.find? (TtChange.isFor k) := by
  induction cs with
  | nil => simp at hc
  | cons d cs ih =>
    rw [List.map_cons, List.nodup_cons] at hnd
    rcases List.mem_cons.1 hc with rfl | hc
    · rw [List.eraseP_cons_of_pos (by simp)]
      split_ifs with hk
      · refine List.find?_eq_none.2 fun e he heq => hnd.1 ?_
        have haddr : c.addr = e.addr :=
          congrArg Prod.fst (hk.symm.trans (TtChange.isFor_iff.1 heq))
        rw [haddr]
        exact List.mem_map_of_mem he
      · rw [List.find?_cons_of_neg (fun h => hk (TtChange.isFor_iff.1 h))]
    · have hne : d.addr ≠ c.addr := fun heq => hnd.1 (heq ▸ List.mem_map_of_mem hc)
      rw [List.eraseP_cons_of_neg (by simpa using hne)]
      by_cases hd : d.isFor k = true
      · have hk : k ≠ (c.addr, c.vid) := fun heq =>
          hne (congrArg Prod.fst ((TtChange.isFor_iff.1 hd).symm.trans heq))
        rw [List.find?_cons_of_pos hd, List.find?_cons_of_pos hd, if_neg hk]
      · rw [List.find?_cons_of_neg hd, List.find?_cons_of_neg hd, ih hnd.2 hc]

/-- The recorded change of a client is in the list. -/
lemma ttChangeOf_eq_some {k : EthAddr × U16} {c : TtChange} (h : ttChangeOf tt k = some c) :
    c ∈ tt.changesList ∧ k = (c.addr, c.vid) :=
  ⟨List.mem_of_find?_eq_some h, TtChange.isFor_iff.1 (List.find?_some h)⟩

/-- Each change of the list is the recorded change of its client. -/
lemma TtChangesWf.changeOf_of_mem (h : TtChangesWf tt) {c : TtChange} (hc : c ∈ tt.changesList) :
    ttChangeOf tt (c.addr, c.vid) = some c := by
  cases hold : ttChangeOf tt (c.addr, c.vid) with
  | none => exact absurd (TtChange.isFor_iff.2 rfl) (List.find?_eq_none.1 hold c hc)
  | some d =>
    obtain ⟨hd, hkey⟩ := ttChangeOf_eq_some hold
    rw [List.inj_on_of_nodup_map h.nodup hd hc (congrArg Prod.fst hkey).symm]

/-- **What an event does to the recorded changes**, client by client: the change of its own client
is coalesced with the new one, the others stay. -/
theorem ttChangeOf_event (h : TtChangesWf tt) {alloc : TtChange → Bool}
    (halloc : ∀ c, alloc c = true) {e : TtLocalEntry} (hmatch : TtEventMatches tt e)
    (eventFlags : U8) (k : EthAddr × U16) :
    ttChangeOf (ttLocalEvent alloc tt e eventFlags) k =
      if k = e.key then ttCoalesce (ttChangeOf tt k) (ttEventChange e eventFlags)
      else ttChangeOf tt k := by
  have hevent : ttChangeOf (ttLocalEvent alloc tt e eventFlags) k = _ :=
    congrArg (List.find? (TtChange.isFor k)) (ttLocalEvent_changesList halloc e eventFlags)
  rw [hevent]
  cases hfind : tt.changesList.find? fun c => c.addr == e.addr with
  | none =>
    have hnone : ∀ c ∈ tt.changesList, c.addr ≠ e.addr := fun c hc heq =>
      List.find?_eq_none.1 hfind c hc (by simpa using heq)
    dsimp only
    rw [List.find?_append]
    split_ifs with hk
    · have hold : ttChangeOf tt k = none := by
        rw [Option.eq_none_iff_forall_ne_some]
        intro c hc
        obtain ⟨hmem, hkey⟩ := ttChangeOf_eq_some hc
        exact hnone c hmem (congrArg Prod.fst (hkey.symm.trans hk))
      have hself : (ttEventChange e eventFlags).isFor k = true := TtChange.isFor_iff.2 hk
      change (ttChangeOf tt k).or _ = _
      rw [hold, Option.none_or, List.find?_cons_of_pos hself, ttCoalesce]
    · have hne : ¬ (ttEventChange e eventFlags).isFor k = true := fun heq =>
        hk (TtChange.isFor_iff.1 heq)
      rw [List.find?_cons_of_neg hne, List.find?_nil, Option.or_none]
      rfl
  | some c =>
    have hc := List.mem_of_find?_eq_some hfind
    have haddr : c.addr = e.addr := by simpa using List.find?_some hfind
    have hkey : e.key = (c.addr, c.vid) := by rw [haddr, hmatch c hc haddr]; rfl
    have hold := h.changeOf_of_mem hc
    rw [hkey, ← haddr]
    dsimp only
    by_cases hdel : ((ttEventChange e eventFlags).isDel != c.isDel) = true
    · rw [if_pos hdel, find_eraseP_addr h.nodup hc]
      split_ifs with hk
      · rw [hk, hold, ttCoalesce, if_pos hdel]
      · rfl
    · rw [if_neg hdel, find_ttChangesSetFlags h.nodup hc]
      split_ifs with hk
      · rw [hk, hold, ttCoalesce, if_neg hdel]
      · rfl

/-- After an event the recorded changes of the address are still those of the client. -/
lemma TtEventMatches.event {alloc : TtChange → Bool} (halloc : ∀ c, alloc c = true)
    {d e : TtLocalEntry} (eventFlags : U8) (hmatch : TtEventMatches tt d)
    (hsame : e.addr = d.addr → e.vid = d.vid) :
    TtEventMatches (ttLocalEvent alloc tt e eventFlags) d := by
  intro c hc haddr
  rw [ttLocalEvent_changesList halloc] at hc
  cases hfind : tt.changesList.find? fun c => c.addr == e.addr with
  | none =>
    rw [hfind] at hc
    rcases List.mem_append.1 hc with hc | hc
    · exact hmatch c hc haddr
    · rw [List.mem_singleton.1 hc] at haddr ⊢
      exact hsame haddr
  | some c' =>
    rw [hfind] at hc
    dsimp only at hc
    split_ifs at hc
    · exact hmatch c (List.mem_of_mem_eraseP hc) haddr
    · have hkeys := map_ttChangesSetFlags Prod.mk e.addr
        (ttEventChange e eventFlags).flags tt.changesList
      have hmem : (c.addr, c.vid) ∈ tt.changesList.map fun c => (c.addr, c.vid) :=
        hkeys ▸ List.mem_map_of_mem hc
      obtain ⟨x, hx, hxkey⟩ := List.mem_map.1 hmem
      rw [Prod.mk.injEq] at hxkey
      rw [← hxkey.2]
      exact hmatch x hx (hxkey.1.trans haddr)

/-! ### One client -/

/-- Setting flags that are not kept in sync. -/
lemma ttSync_or {other : U16} (h : other &&& TT_SYNC_MASK = 0) (flags : U16) :
    ttSync (flags ||| other) = ttSync flags := by
  have hand : (flags ||| other) &&& TT_SYNC_MASK = flags &&& TT_SYNC_MASK := by
    rw [BitVec.and_comm, BitVec.and_or_distrib_left, BitVec.and_comm _ other, h,
      BitVec.and_comm _ flags]
    exact BitVec.or_zero
  rw [ttSync, hand, ttSync]

/-- Clearing flags that are not kept in sync. -/
lemma ttSync_and_not {other : U16} (h : ~~~other &&& TT_SYNC_MASK = TT_SYNC_MASK) (flags : U16) :
    ttSync (flags &&& ~~~other) = ttSync flags := by
  rw [ttSync, BitVec.and_assoc, h, ttSync]

/-- The flags that are kept in sync are among those that are sent. -/
lemma ttSync_eq_of_remote {flags flags' : U16}
    (h : flags &&& TT_REMOTE_MASK = flags' &&& TT_REMOTE_MASK) : ttSync flags = ttSync flags' := by
  have hmask : TT_SYNC_MASK = TT_REMOTE_MASK &&& TT_SYNC_MASK := by decide
  rw [ttSync, ttSync, hmask, ← BitVec.and_assoc, h, BitVec.and_assoc]

/-- The flag `DEL` is in the lowest octet. -/
lemma hasFlag_del_setWidth (flags : U16) :
    hasFlag (flags.setWidth 8) (TT_CLIENT_DEL.setWidth 8) = hasFlag flags TT_CLIENT_DEL := by
  have h8 : ((flags.setWidth 8 &&& TT_CLIENT_DEL.setWidth 8) = 0) ↔
      (flags &&& TT_CLIENT_DEL) = 0 := by
    rw [← BitVec.setWidth_and]
    have hone : flags &&& TT_CLIENT_DEL = 0 ∨ flags &&& TT_CLIENT_DEL = 1 := by
      have hbit : flags &&& TT_CLIENT_DEL = (BitVec.ofBool (flags.getLsbD 0)).setWidth 16 :=
        BitVec.and_one_eq_setWidth_ofBool_getLsbD
      rw [hbit]
      cases flags.getLsbD 0
      · exact Or.inl rfl
      · exact Or.inr rfl
    rcases hone with h | h <;> rw [h] <;> decide
  unfold hasFlag
  rw [Bool.eq_iff_iff, bne_iff_ne, bne_iff_ne, ne_eq, ne_eq, h8]

/-- The change for a client that is not deleted. -/
lemma isDel_ttEventChange_zero {e : TtLocalEntry} (h : hasFlag e.flags TT_CLIENT_DEL = false) :
    (ttEventChange e 0).isDel = false := by
  rw [TtChange.isDel, ttEventChange, hasFlag_or (by decide), hasFlag_del_setWidth, h]

/-- Its flags are those of the client. -/
lemma sync_ttEventChange_zero (e : TtLocalEntry) : (ttEventChange e 0).sync = ttSync e.flags := by
  have hor : e.flags.setWidth 8 ||| (0 : U8) = e.flags.setWidth 8 := BitVec.or_zero
  rw [TtChange.sync, ttEventChange, hor, ttSync, BitVec.setWidth_and]

/-- The change for a client that is going to be removed. -/
lemma isDel_ttEventChange_del (e : TtLocalEntry) {eventFlags : U8}
    (h : hasFlag eventFlags (TT_CLIENT_DEL.setWidth 8) = true) :
    (ttEventChange e eventFlags).isDel = true := by
  unfold TtChange.isDel ttEventChange hasFlag at *
  rw [bne_iff_ne] at h ⊢
  intro hzero
  apply h
  rw [BitVec.and_comm, BitVec.and_or_distrib_left] at hzero
  have hbits : ∀ x y : U8, x ||| y = 0 → y = 0 := by
    intro x y hxy
    ext i hi
    have hbit : (x ||| y)[i] = false := by rw [hxy]; simp
    rw [BitVec.getElem_or, Bool.or_eq_false_iff] at hbit
    rw [hbit.2]
    simp
  rw [BitVec.and_comm]
  exact hbits _ _ hzero

/-- What the last commit, the table and the change list say about one client: the flags it was
committed with, its entry, and the recorded change.

* `absent` — there is no such client.
* `forgotten` — a client was `NEW`, has timed out, and was removed: a deletion is recorded,
  although the client had not been announced.
* `new` — a client is `NEW`, and its addition is recorded.
* `newPending` — a client was `NEW` and has timed out, and no change is recorded.
* `unchanged` — a committed client has the flags it was committed with.
* `changed` — it has other flags, which are recorded.
* `removed` — it is going to be removed, which is recorded. -/
inductive TtKeyTracked : Option U8 → Option TtLocalEntry → Option TtChange → Prop where
  | absent : TtKeyTracked none none none
  | forgotten {c : TtChange} (hdel : c.isDel = true) : TtKeyTracked none none (some c)
  | new {e : TtLocalEntry} {c : TtChange} (hnew : hasFlag e.flags TT_CLIENT_NEW = true)
      (hpending : hasFlag e.flags TT_CLIENT_PENDING = false) (hadd : c.isDel = false)
      (hsync : c.sync = ttSync e.flags) : TtKeyTracked none (some e) (some c)
  | newPending {e : TtLocalEntry} (hnew : hasFlag e.flags TT_CLIENT_NEW = true)
      (hpending : hasFlag e.flags TT_CLIENT_PENDING = true) : TtKeyTracked none (some e) none
  | unchanged {e : TtLocalEntry} (hnew : hasFlag e.flags TT_CLIENT_NEW = false)
      (hpending : hasFlag e.flags TT_CLIENT_PENDING = false) :
      TtKeyTracked (some (ttSync e.flags)) (some e) none
  | changed {committed : U8} {e : TtLocalEntry} {c : TtChange}
      (hnew : hasFlag e.flags TT_CLIENT_NEW = false)
      (hpending : hasFlag e.flags TT_CLIENT_PENDING = false) (hadd : c.isDel = false)
      (hsync : c.sync = ttSync e.flags) : TtKeyTracked (some committed) (some e) (some c)
  | removed {e : TtLocalEntry} {c : TtChange} (hnew : hasFlag e.flags TT_CLIENT_NEW = false)
      (hpending : hasFlag e.flags TT_CLIENT_PENDING = true) (hdel : c.isDel = true) :
      TtKeyTracked (some (ttSync e.flags)) (some e) (some c)

namespace TtKeyTracked

variable {committed : Option U8} {old : Option TtChange} {e e' : TtLocalEntry} {c : TtChange}

/-- A client that is there and not pending has its flags written, and they are recorded. -/
lemma flagsRecorded (h : TtKeyTracked committed (some e) old)
    (hpending : hasFlag e.flags TT_CLIENT_PENDING = false)
    (hnew : hasFlag e'.flags TT_CLIENT_NEW = hasFlag e.flags TT_CLIENT_NEW)
    (hpending' : hasFlag e'.flags TT_CLIENT_PENDING = false) (hadd : c.isDel = false)
    (hsync : c.sync = ttSync e'.flags) :
    TtKeyTracked committed (some e') (ttCoalesce old c) := by
  cases h with
  | new hn hp ha hs =>
    rw [ttCoalesce, hadd, ha, if_neg (by simp)]
    exact .new (hnew.trans hn) hpending' hadd hsync
  | newPending hn hp => rw [hp] at hpending; exact nomatch hpending
  | unchanged hn hp => exact .changed (hnew.trans hn) hpending' hadd hsync
  | changed hn hp ha hs =>
    rw [ttCoalesce, hadd, ha, if_neg (by simp)]
    exact .changed (hnew.trans hn) hpending' hadd hsync
  | removed hn hp hd => rw [hp] at hpending; exact nomatch hpending

/-- A client that is there and not pending is written to, but none of the flags that are kept in
sync. -/
lemma sameFlags (h : TtKeyTracked committed (some e) old)
    (hpending : hasFlag e.flags TT_CLIENT_PENDING = false)
    (hnew : hasFlag e'.flags TT_CLIENT_NEW = hasFlag e.flags TT_CLIENT_NEW)
    (hpending' : hasFlag e'.flags TT_CLIENT_PENDING = false)
    (hsync : ttSync e'.flags = ttSync e.flags) : TtKeyTracked committed (some e') old := by
  cases h with
  | new hn hp ha hs => exact .new (hnew.trans hn) hpending' ha (hs.trans hsync.symm)
  | newPending hn hp => rw [hp] at hpending; exact nomatch hpending
  | unchanged hn hp => rw [← hsync]; exact .unchanged (hnew.trans hn) hpending'
  | changed hn hp ha hs => exact .changed (hnew.trans hn) hpending' ha (hs.trans hsync.symm)
  | removed hn hp hd => rw [hp] at hpending; exact nomatch hpending

/-- A pending client is seen again. -/
lemma readded (h : TtKeyTracked committed (some e) old)
    (hpending : hasFlag e.flags TT_CLIENT_PENDING = true)
    (hnew : hasFlag e'.flags TT_CLIENT_NEW = hasFlag e.flags TT_CLIENT_NEW)
    (hpending' : hasFlag e'.flags TT_CLIENT_PENDING = false)
    (hsync : ttSync e'.flags = ttSync e.flags) (hadd : c.isDel = false)
    (hcsync : c.sync = ttSync e'.flags) : TtKeyTracked committed (some e') (ttCoalesce old c) := by
  cases h with
  | new hn hp ha hs => rw [hp] at hpending; exact nomatch hpending
  | newPending hn hp => exact .new (hnew.trans hn) hpending' hadd hcsync
  | unchanged hn hp => rw [hp] at hpending; exact nomatch hpending
  | changed hn hp ha hs => rw [hp] at hpending; exact nomatch hpending
  | removed hn hp hd =>
    -- the recorded deletion is cancelled, and the client has the flags it was committed with
    rw [ttCoalesce, hadd, hd, if_pos (by simp), ← hsync]
    exact .unchanged (hnew.trans hn) hpending'

/-- A client is marked for removal.  It is not one that is `NEW` and pending already, and if it is
not `NEW` then no addition is recorded. -/
lemma marked (h : TtKeyTracked committed (some e) old)
    (hmark : hasFlag e.flags TT_CLIENT_PENDING = false ∨ hasFlag e.flags TT_CLIENT_NEW = false)
    (hkept : hasFlag e.flags TT_CLIENT_NEW = true ∨ ∀ x, old = some x → x.isDel = true)
    (hnew : hasFlag e'.flags TT_CLIENT_NEW = hasFlag e.flags TT_CLIENT_NEW)
    (hpending' : hasFlag e'.flags TT_CLIENT_PENDING = true)
    (hsync : ttSync e'.flags = ttSync e.flags) (hdel : c.isDel = true) :
    TtKeyTracked committed (some e') (ttCoalesce old c) := by
  cases h with
  | new hn hp ha hs =>
    rw [ttCoalesce, hdel, ha, if_pos (by simp)]
    exact .newPending (hnew.trans hn) hpending'
  | newPending hn hp =>
    rw [hn, hp] at hmark
    exact absurd hmark (by simp)
  | unchanged hn hp => rw [← hsync]; exact .removed (hnew.trans hn) hpending' hdel
  | changed hn hp ha hs =>
    rcases hkept with h | h
    · rw [hn] at h
      exact nomatch h
    · rw [h _ rfl] at ha
      exact nomatch ha
  | removed hn hp hd =>
    rw [ttCoalesce, hdel, hd, if_neg (by simp), ← hsync]
    exact .removed (hnew.trans hn) hpending' hdel

/-- A client that is `NEW` is removed. -/
lemma erased (h : TtKeyTracked committed (some e) old)
    (hnew : hasFlag e.flags TT_CLIENT_NEW = true) (hdel : c.isDel = true) :
    TtKeyTracked committed none (ttCoalesce old c) := by
  cases h with
  | new hn hp ha hs =>
    rw [ttCoalesce, hdel, ha, if_pos (by simp)]
    exact .absent
  | newPending hn hp => exact .forgotten hdel
  | unchanged hn hp => rw [hn] at hnew; exact nomatch hnew
  | changed hn hp ha hs => rw [hn] at hnew; exact nomatch hnew
  | removed hn hp hd => rw [hn] at hnew; exact nomatch hnew

/-- A client is created that has no recorded deletion. -/
lemma created (h : TtKeyTracked committed none old) (hold : ∀ x, old = some x → x.isDel = false)
    (hnew : hasFlag e'.flags TT_CLIENT_NEW = true)
    (hpending : hasFlag e'.flags TT_CLIENT_PENDING = false) (hadd : c.isDel = false)
    (hsync : c.sync = ttSync e'.flags) : TtKeyTracked committed (some e') (ttCoalesce old c) := by
  cases h with
  | absent => exact .new hnew hpending hadd hsync
  | forgotten hd => rw [hold _ rfl] at hd; exact nomatch hd

end TtKeyTracked

/-! ### Finding clients -/

/-- Writing to the entry of a client does not change what is found for the others. -/
lemma ttLocalHashFind_put_of_ne {e : TtLocalEntry} {k : EthAddr × U16} (hk : k ≠ e.key) :
    ttLocalHashFind (ttLocalPut tt e) k.1 k.2 = ttLocalHashFind tt k.1 k.2 := by
  unfold ttLocalHashFind
  rw [ttLocalPut_localHash]
  generalize tt.localHash = l
  induction l with
  | nil => rfl
  | cons d l ih =>
    rw [List.map_cons]
    by_cases hd : d.isFor e.addr e.vid = true
    · have hdkey : d.key = e.key := TtLocalEntry.isFor_iff.1 hd
      have hneg : ¬ e.isFor k.1 k.2 = true := fun h => hk (TtLocalEntry.isFor_iff.1 h).symm
      have hdneg : ¬ d.isFor k.1 k.2 = true := fun h =>
        hk ((TtLocalEntry.isFor_iff.1 h).symm.trans hdkey)
      rw [if_pos hd, List.find?_cons_of_neg hneg, List.find?_cons_of_neg hdneg, ih]
    · rw [if_neg hd]
      by_cases hdk : d.isFor k.1 k.2 = true
      · rw [List.find?_cons_of_pos hdk, List.find?_cons_of_pos hdk]
      · rw [List.find?_cons_of_neg hdk, List.find?_cons_of_neg hdk, ih]

/-- The client whose entry is written to is found with it. -/
lemma ttLocalHashFind_put_self {e e' : TtLocalEntry}
    (h : ttLocalHashFind tt e.addr e.vid = some e') :
    ttLocalHashFind (ttLocalPut tt e) e.addr e.vid = some e := by
  unfold ttLocalHashFind at *
  rw [ttLocalPut_localHash]
  generalize tt.localHash = l at h
  induction l with
  | nil => exact nomatch h
  | cons d l ih =>
    rw [List.map_cons]
    by_cases hd : d.isFor e.addr e.vid = true
    · rw [if_pos hd, List.find?_cons_of_pos e.isFor_self]
    · rw [List.find?_cons_of_neg hd] at h
      rw [if_neg hd, List.find?_cons_of_neg hd, ih h]

/-- A new entry does not change what is found for the other clients. -/
lemma ttLocalHashFind_insert_of_ne {e : TtLocalEntry} {k : EthAddr × U16} (hk : k ≠ e.key)
    (pos : ℕ) :
    ttLocalHashFind
        { tt with localHash := tt.localHash.take pos ++ e :: tt.localHash.drop pos } k.1 k.2 =
      ttLocalHashFind tt k.1 k.2 := by
  have hneg : ¬ e.isFor k.1 k.2 = true := fun h => hk (TtLocalEntry.isFor_iff.1 h).symm
  unfold ttLocalHashFind
  dsimp only
  rw [List.find?_append, List.find?_cons_of_neg hneg, ← List.find?_append,
    List.take_append_drop]

/-- A new entry is found. -/
lemma ttLocalHashFind_insert_self {e : TtLocalEntry}
    (h : ttLocalHashFind tt e.addr e.vid = none) (pos : ℕ) :
    ttLocalHashFind
        { tt with localHash := tt.localHash.take pos ++ e :: tt.localHash.drop pos }
        e.addr e.vid = some e := by
  have htake : (tt.localHash.take pos).find? (TtLocalEntry.isFor e.addr e.vid) = none := by
    refine List.find?_eq_none.2 fun d hd => ?_
    exact List.find?_eq_none.1 h d (List.mem_of_mem_take hd)
  unfold ttLocalHashFind
  dsimp only
  rw [List.find?_append, htake, Option.none_or, List.find?_cons_of_pos e.isFor_self]

/-- An entry that is in the table is found. -/
lemma TtLocal.Wf.find_of_mem (hwf : tt.Wf) {e : TtLocalEntry} (he : e ∈ tt.localHash) :
    ttLocalHashFind tt e.addr e.vid = some e := by
  cases hfind : ttLocalHashFind tt e.addr e.vid with
  | none => exact absurd rfl (ttLocalHashFind_eq_none hfind e he)
  | some d =>
    obtain ⟨hd, hkey⟩ := ttLocalHashFind_eq_some hfind
    rw [hwf.eq_of_key hd he hkey]

@[simp] lemma ttLocalHashFind_event (alloc : TtChange → Bool) (e : TtLocalEntry)
    (eventFlags : U8) (addr : EthAddr) (vid : U16) :
    ttLocalHashFind (ttLocalEvent alloc tt e eventFlags) addr vid =
      ttLocalHashFind tt addr vid := by
  rw [ttLocalHashFind, ttLocalEvent_localHash, ttLocalHashFind]

@[simp] lemma ttLocalEvent_container (alloc : TtChange → Bool) (tt : TtLocal) (e : TtLocalEntry)
    (eventFlags : U8) : (ttLocalEvent alloc tt e eventFlags).container = tt.container := by
  unfold ttLocalEvent
  dsimp only
  split_ifs
  · rfl
  · split
    · rfl
    · split_ifs <;> rfl

/-- Storing a change and writing to an entry do not get in each other's way. -/
lemma ttLocalEvent_put (alloc : TtChange → Bool) (tt : TtLocal) (e e' : TtLocalEntry)
    (eventFlags : U8) :
    ttLocalEvent alloc (ttLocalPut tt e') e eventFlags =
      ttLocalPut (ttLocalEvent alloc tt e eventFlags) e' := by
  unfold ttLocalEvent ttLocalPut
  dsimp only
  split_ifs
  · rfl
  · split
    · rfl
    · split_ifs <;> rfl

/-- Writing twice to the entry of a client. -/
lemma ttLocalPut_twice (tt : TtLocal) {e e' : TtLocalEntry} (h : e.key = e'.key) :
    ttLocalPut (ttLocalPut tt e) e' = ttLocalPut tt e' := by
  obtain ⟨haddr, hvid⟩ : e.addr = e'.addr ∧ e.vid = e'.vid := Prod.mk.injEq .. ▸ h
  have hfor : e.isFor e'.addr e'.vid = true := TtLocalEntry.isFor_iff.2 h
  unfold ttLocalPut
  dsimp only
  rw [haddr, hvid, ttLocalPut_put _ _ hfor]

/-- The entry that is marked need not be written to before. -/
lemma ttLocalSetPending_put (alloc : TtChange → Bool) (tt : TtLocal) (e : TtLocalEntry)
    (flags : U16) :
    ttLocalSetPending alloc (ttLocalPut tt e) e flags = ttLocalSetPending alloc tt e flags := by
  unfold ttLocalSetPending
  rw [ttLocalEvent_put]
  exact ttLocalPut_twice _ rfl

/-- Setting the flags of a change leaves those of other addresses as they are. -/
lemma mem_ttChangesSetFlags {addr : EthAddr} {flags : U8} {c : TtChange} {cs : List TtChange}
    (hc : c ∈ ttChangesSetFlags addr flags cs) (hne : c.addr ≠ addr) : c ∈ cs := by
  induction cs with
  | nil => exact hc
  | cons x cs ih =>
    unfold ttChangesSetFlags at hc
    split_ifs at hc with hx
    · rcases List.mem_cons.1 hc with rfl | hc
      · exact absurd (by simpa using hx) hne
      · exact List.mem_cons_of_mem _ hc
    · rcases List.mem_cons.1 hc with rfl | hc
      · exact List.mem_cons_self
      · exact List.mem_cons_of_mem _ (ih hc)

/-- A change of another address was recorded before the event. -/
lemma mem_changesList_event {alloc : TtChange → Bool} (halloc : ∀ c, alloc c = true)
    {e : TtLocalEntry} {eventFlags : U8} {c : TtChange}
    (hc : c ∈ (ttLocalEvent alloc tt e eventFlags).changesList) (hne : c.addr ≠ e.addr) :
    c ∈ tt.changesList := by
  rw [ttLocalEvent_changesList halloc] at hc
  cases hfind : tt.changesList.find? fun c => c.addr == e.addr with
  | none =>
    rw [hfind] at hc
    rcases List.mem_append.1 hc with hc | hc
    · exact hc
    · rw [List.mem_singleton.1 hc] at hne
      exact absurd rfl hne
  | some d =>
    rw [hfind] at hc
    dsimp only at hc
    split_ifs at hc
    · exact List.mem_of_mem_eraseP hc
    · exact mem_ttChangesSetFlags hc hne

/-! ### The whole table -/

/-- **The recorded changes lead from the committed clients to the present ones.**  The committed
clients are given as a map, and the changes in the container have been made to it. -/
structure TtTracked (committed : EthAddr × U16 → Option U8) (tt : TtLocal) : Prop where
  wf : tt.Wf
  changes : TtChangesWf tt
  noDel : ∀ e ∈ tt.localHash, hasFlag e.flags TT_CLIENT_DEL = false
  announced : applyAll committed (ttTvlvChanges tt) = committed
  keys : ∀ k, TtKeyTracked (committed k) (ttLocalHashFind tt k.1 k.2) (ttChangeOf tt k)

/-- Right after a commit nothing is recorded, and the clients are the committed ones. -/
lemma TtLocal.Committed.tracked (h : tt.Committed) : TtTracked (ttView tt) tt := by
  have hnone (k : EthAddr × U16) : ttChangeOf tt k = none := by
    rw [ttChangeOf, h.changesList, List.find?_nil]
  refine ⟨h.wf, ⟨by rw [h.localChanges, h.changesList]; rfl, by rw [h.changesList]; simp⟩,
    fun e he => (h.clean e he).2.2, h.announced, fun k => ?_⟩
  rw [hnone, ttView]
  cases hfind : ttLocalHashFind tt k.1 k.2 with
  | none => exact .absent
  | some e =>
    obtain ⟨hnew, hpending, -⟩ := h.clean e (ttLocalHashFind_eq_some hfind).1
    exact .unchanged hnew hpending

namespace TtTracked

variable {committed : EthAddr × U16 → Option U8} {e e' : TtLocalEntry} {alloc : TtChange → Bool}

/-- A step that is about one client only keeps the changes right if it does for that client. -/
lemma of_key (h : TtTracked committed tt) {tt' : TtLocal} (k₀ : EthAddr × U16) (hwf : tt'.Wf)
    (hchanges : TtChangesWf tt')
    (hnoDel : ∀ e ∈ tt'.localHash, hasFlag e.flags TT_CLIENT_DEL = false)
    (hcontainer : tt'.container = tt.container)
    (hfind : ∀ k ≠ k₀, ttLocalHashFind tt' k.1 k.2 = ttLocalHashFind tt k.1 k.2)
    (hchange : ∀ k ≠ k₀, ttChangeOf tt' k = ttChangeOf tt k)
    (hkey : TtKeyTracked (committed k₀) (ttLocalHashFind tt' k₀.1 k₀.2) (ttChangeOf tt' k₀)) :
    TtTracked committed tt' := by
  refine ⟨hwf, hchanges, hnoDel, ?_, fun k => ?_⟩
  · rw [ttTvlvChanges, hcontainer]
    exact h.announced
  · by_cases hk : k = k₀
    · rw [hk]
      exact hkey
    · rw [hfind k hk, hchange k hk]
      exact h.keys k

/-- Writing to the entry of a client, with or without storing a change for it. -/
lemma put (h : TtTracked committed tt) {old : TtLocalEntry}
    (hfind : ttLocalHashFind tt e.addr e.vid = some old)
    (hdel : hasFlag e.flags TT_CLIENT_DEL = false)
    (hkey : TtKeyTracked (committed e.key) (some e) (ttChangeOf tt e.key)) :
    TtTracked committed (ttLocalPut tt e) := by
  refine h.of_key e.key ?_ ⟨h.changes.count, h.changes.nodup⟩ (fun d hd => ?_) rfl
    (fun k hk => ttLocalHashFind_put_of_ne hk) (fun k _ => rfl) ?_
  · refine h.wf.of_sublist ?_ rfl
    rw [ttLocalPut_localHash, map_key_put _ rfl]
  · rw [ttLocalPut_localHash] at hd
    obtain ⟨x, hx, rfl⟩ := List.mem_map.1 hd
    split_ifs
    · exact hdel
    · exact h.noDel x hx
  · have hself := ttLocalHashFind_put_self hfind
    rw [show ttLocalHashFind (ttLocalPut tt e) e.key.1 e.key.2 = some e from hself]
    exact hkey

/-- **An event and the entry it is about.**  The other clients are not concerned. -/
lemma event_put (h : TtTracked committed tt) (halloc : ∀ c, alloc c = true)
    {old : TtLocalEntry} (hfind : ttLocalHashFind tt e.addr e.vid = some old)
    (hmatch : TtEventMatches tt e) (eventFlags : U8) (hsame : e'.key = e.key)
    (hdel : hasFlag e'.flags TT_CLIENT_DEL = false)
    (hkey : TtKeyTracked (committed e.key) (some e')
      (ttCoalesce (ttChangeOf tt e.key) (ttEventChange e eventFlags))) :
    TtTracked committed (ttLocalPut (ttLocalEvent alloc tt e eventFlags) e') := by
  have hevent := ttChangeOf_event h.changes halloc hmatch eventFlags
  have hchanges := h.changes.event alloc e eventFlags
  refine h.of_key e'.key ?_ ⟨hchanges.count, hchanges.nodup⟩ (fun d hd => ?_)
    (ttLocalEvent_container alloc tt e eventFlags) (fun k hk => ?_) (fun k hk => ?_) ?_
  · refine h.wf.of_sublist ?_ (by simp)
    rw [ttLocalPut_localHash, map_key_put _ rfl, ttLocalEvent_localHash]
  · rw [ttLocalPut_localHash, ttLocalEvent_localHash] at hd
    obtain ⟨x, hx, rfl⟩ := List.mem_map.1 hd
    split_ifs
    · exact hdel
    · exact h.noDel x hx
  · rw [ttLocalHashFind_put_of_ne hk, ttLocalHashFind_event]
  · change ttChangeOf (ttLocalEvent alloc tt e eventFlags) k = _
    rw [hsame] at hk
    rw [hevent k, if_neg hk]
  · have hold : ttLocalHashFind (ttLocalEvent alloc tt e eventFlags) e'.addr e'.vid = some old := by
      obtain ⟨haddr, hvid⟩ : e'.addr = e.addr ∧ e'.vid = e.vid := Prod.mk.injEq .. ▸ hsame
      rw [ttLocalHashFind_event, haddr, hvid, hfind]
    have hself := ttLocalHashFind_put_self hold
    have hchange : ttChangeOf (ttLocalPut (ttLocalEvent alloc tt e eventFlags) e') e'.key =
        ttCoalesce (ttChangeOf tt e.key) (ttEventChange e eventFlags) := by
      change ttChangeOf (ttLocalEvent alloc tt e eventFlags) e'.key = _
      rw [hevent, if_pos hsame, hsame]
    rw [show ttLocalHashFind (ttLocalPut (ttLocalEvent alloc tt e eventFlags) e') e'.key.1
      e'.key.2 = some e' from hself, hchange, hsame]
    exact hkey

/-- **The flags at the end of `batadv_tt_local_add`.**  The entry is not pending; a change is
stored if a flag that is sent is different from before. -/
lemma addFlags (h : TtTracked committed tt) {a : TtLocalAddArgs}
    (hfind : ttLocalHashFind tt e.addr e.vid = some e)
    (hpending : hasFlag e.flags TT_CLIENT_PENDING = false)
    (hstored : e.flags &&& TT_REMOTE_MASK ≠ a.dynamicFlags e.flags &&& TT_REMOTE_MASK →
      (∀ c, a.allocChange c = true) ∧ TtEventMatches tt e) :
    TtTracked committed (ttLocalAddFlags a tt e) := by
  have hkey := h.keys e.key
  rw [show ttLocalHashFind tt e.key.1 e.key.2 = some e from hfind] at hkey
  set e' : TtLocalEntry := { e with flags := a.dynamicFlags e.flags }
  have hnew : hasFlag e'.flags TT_CLIENT_NEW = hasFlag e.flags TT_CLIENT_NEW :=
    hasFlag_dynamicFlags a (by decide) (by decide) e.flags
  have hpending' : hasFlag e'.flags TT_CLIENT_PENDING = false :=
    (hasFlag_dynamicFlags a (by decide) (by decide) e.flags).trans hpending
  have hdel' : hasFlag e'.flags TT_CLIENT_DEL = false :=
    (hasFlag_dynamicFlags a (by decide) (by decide) e.flags).trans
      (h.noDel e (ttLocalHashFind_eq_some hfind).1)
  have hfind' : ttLocalHashFind tt e'.addr e'.vid = some e := hfind
  unfold ttLocalAddFlags
  dsimp only
  split_ifs with hremote
  · obtain ⟨halloc, hmatch⟩ := hstored hremote
    rw [ttLocalEvent_put]
    exact h.event_put halloc hfind' hmatch 0 rfl hdel'
      (hkey.flagsRecorded hpending hnew hpending' (isDel_ttEventChange_zero hdel')
        (sync_ttEventChange_zero e'))
  · have hsync : ttSync e'.flags = ttSync e.flags :=
      (ttSync_eq_of_remote (not_ne_iff.1 hremote)).symm
    exact h.put hfind' hdel' (hkey.sameFlags hpending hnew hpending' hsync)

/-- Adding a client that is in the table. -/
lemma add_found (h : TtTracked committed tt) {a : TtLocalAddArgs}
    (hfind : ttLocalHashFind tt a.addr a.vid = some e)
    (hstored : hasFlag e.flags TT_CLIENT_PENDING = true ∨ a.newFlags e = true →
      (∀ c, a.allocChange c = true) ∧ TtEventMatches tt e) :
    TtTracked committed (ttLocalAdd tt a).1 := by
  obtain ⟨hmem, hekey⟩ := ttLocalHashFind_eq_some hfind
  obtain ⟨haddr, hvid⟩ : e.addr = a.addr ∧ e.vid = a.vid := Prod.mk.injEq .. ▸ hekey
  have hkey := h.keys e.key
  have hold : ttLocalHashFind tt e.addr e.vid = some e := by rw [haddr, hvid, hfind]
  rw [show ttLocalHashFind tt e.key.1 e.key.2 = some e from hold] at hkey
  have hdel := h.noDel e hmem
  unfold ttLocalAdd
  rw [hfind]
  dsimp only
  split_ifs with hpending
  · -- a pending client is seen again: its deletion is cancelled, or it is announced again
    obtain ⟨halloc, hmatch⟩ := hstored (Or.inl hpending)
    set e' : TtLocalEntry :=
      { e with lastSeen := a.jiffies, flags := e.flags &&& ~~~TT_CLIENT_PENDING }
    have hdel' : hasFlag e'.flags TT_CLIENT_DEL = false :=
      (hasFlag_and_not (by decide) e.flags).trans hdel
    have hpending' : hasFlag e'.flags TT_CLIENT_PENDING = false := hasFlag_and_not_self _ _
    have hold' : ttLocalHashFind tt e'.addr e'.vid = some e := hold
    have hstep : TtTracked committed (ttLocalPut (ttLocalEvent a.allocChange tt e' 0) e') :=
      h.event_put halloc hold' hmatch 0 rfl hdel'
        (hkey.readded hpending (hasFlag_and_not (by decide) e.flags) hpending'
          (ttSync_and_not (by decide) e.flags) (isDel_ttEventChange_zero hdel')
          (sync_ttEventChange_zero e'))
    rw [ttLocalEvent_put]
    have hevent : ttLocalHashFind (ttLocalEvent a.allocChange tt e' 0) e'.addr e'.vid = some e := by
      rw [ttLocalHashFind_event]
      exact hold'
    have hmatch' : TtEventMatches (ttLocalEvent a.allocChange tt e' 0) e' :=
      TtEventMatches.event halloc 0 hmatch fun _ => rfl
    exact hstep.addFlags (ttLocalHashFind_put_self hevent) hpending' fun _ => ⟨halloc, hmatch'⟩
  · -- a client may have come back from where it roamed to
    set e' : TtLocalEntry :=
      { e with lastSeen := a.jiffies, flags := e.flags &&& ~~~TT_CLIENT_ROAM }
    rw [Bool.not_eq_true] at hpending
    have hpending' : hasFlag e'.flags TT_CLIENT_PENDING = false :=
      (hasFlag_and_not (by decide) e.flags).trans hpending
    have hold' : ttLocalHashFind tt e'.addr e'.vid = some e := hold
    have hstep : TtTracked committed (ttLocalPut tt e') :=
      h.put hold' ((hasFlag_and_not (by decide) e.flags).trans hdel)
        (hkey.sameFlags hpending (hasFlag_and_not (by decide) e.flags) hpending'
          (ttSync_and_not (by decide) e.flags))
    exact hstep.addFlags (ttLocalHashFind_put_self hold') hpending' fun hremote =>
      hstored (Or.inr (bne_iff_ne.2 hremote))

/-- A client that is created was not refused. -/
lemma accepted_of_added {a : TtLocalAddArgs} (hfind : ttLocalHashFind tt a.addr a.vid = none)
    (hadd : (ttLocalAdd tt a).2 = true) : a.accepted tt = true := by
  unfold ttLocalAdd at hadd
  simp only [hfind] at hadd
  split_ifs at hadd with hsize halloc hvlan
  simpa [TtLocalAddArgs.accepted, not_lt.1 hsize, Option.isSome_iff_ne_none] using
    And.intro (by simpa using halloc) (by simpa using hvlan)

/-- Adding a client that is not in the table, if it is not refused. -/
lemma add_new (h : TtTracked committed tt) {a : TtLocalAddArgs}
    (hfind : ttLocalHashFind tt a.addr a.vid = none)
    (hstored : a.accepted tt = true → (∀ c, a.allocChange c = true) ∧
      ∀ c ∈ tt.changesList, c.addr = a.addr → c.vid = a.vid ∧ c.isDel = false) :
    TtTracked committed (ttLocalAdd tt a).1 := by
  cases hadd : (ttLocalAdd tt a).2 with
  | false =>
    rw [ttLocalAdd_of_refused hadd]
    exact h
  | true =>
    obtain ⟨halloc, hmatch⟩ := hstored (accepted_of_added hfind hadd)
    set e := ttLocalNewEntry a with he
    set tt' : TtLocal :=
      { tt with localHash := tt.localHash.take a.pos ++ e :: tt.localHash.drop a.pos } with htt'
    have hstate : (ttLocalAdd tt a).1 =
        ttLocalAddFlags a (ttLocalEvent a.allocChange tt' e 0) e := by
      unfold ttLocalAdd at hadd ⊢
      simp only [hfind] at hadd ⊢
      split_ifs at hadd ⊢
      rfl
    have hmatch' : TtEventMatches tt' e := fun c hc haddr => (hmatch c hc haddr).1
    have hnew : hasFlag e.flags TT_CLIENT_NEW = true :=
      (hasFlag_ttLocalNewEntry a (by decide) (by decide)).trans (by decide)
    have hpending : hasFlag e.flags TT_CLIENT_PENDING = false :=
      (hasFlag_ttLocalNewEntry a (by decide) (by decide)).trans (by decide)
    have hdel : hasFlag e.flags TT_CLIENT_DEL = false :=
      (hasFlag_ttLocalNewEntry a (by decide) (by decide)).trans (by decide)
    have hwf : tt'.Wf := h.wf.insert (ttLocalHashFind_eq_none hfind)
      (ttLocalAdd_vlan_of_new hfind hadd) a.pos
    have hfound : ttLocalHashFind (ttLocalEvent a.allocChange tt' e 0) e.addr e.vid = some e := by
      rw [ttLocalHashFind_event]
      exact ttLocalHashFind_insert_self hfind a.pos
    have hchanges' : TtChangesWf tt' := ⟨h.changes.count, h.changes.nodup⟩
    have hchanges := hchanges'.event a.allocChange e 0
    have hevent := ttChangeOf_event hchanges' halloc hmatch' 0
    have hkey := h.keys e.key
    rw [show ttLocalHashFind tt e.key.1 e.key.2 = none from hfind] at hkey
    have hstep : TtTracked committed (ttLocalEvent a.allocChange tt' e 0) := by
      refine h.of_key e.key ?_ hchanges (fun d hd => ?_) (ttLocalEvent_container _ _ _ _)
        (fun k hk => ?_) (fun k hk => ?_) ?_
      · exact hwf.of_sublist (by rw [ttLocalEvent_localHash]) (by rw [ttLocalEvent_vlanList])
      · rw [ttLocalEvent_localHash] at hd
        rcases List.mem_append.1 hd with hd | hd
        · exact h.noDel d (List.mem_of_mem_take hd)
        · rcases List.mem_cons.1 hd with rfl | hd
          · exact hdel
          · exact h.noDel d (List.mem_of_mem_drop hd)
      · rw [ttLocalHashFind_event]
        exact ttLocalHashFind_insert_of_ne hk a.pos
      · rw [hevent k, if_neg hk]
        rfl
      · rw [hevent e.key, if_pos rfl,
          show ttLocalHashFind (ttLocalEvent a.allocChange tt' e 0) e.key.1 e.key.2 = some e from
            hfound]
        refine hkey.created (fun c hc => ?_) hnew hpending (isDel_ttEventChange_zero hdel)
          (sync_ttEventChange_zero e)
        obtain ⟨hmem, hck⟩ := ttChangeOf_eq_some hc
        exact (hmatch c hmem (congrArg Prod.fst hck).symm).2
    rw [hstate]
    exact hstep.addFlags hfound hpending fun _ =>
      ⟨halloc, TtEventMatches.event halloc 0 hmatch' fun _ => rfl⟩

/-- **Marking a client for removal**: a deletion is stored and the client is pending. -/
lemma setPending (h : TtTracked committed tt) (halloc : ∀ c, alloc c = true)
    {old : TtLocalEntry} (hfind : ttLocalHashFind tt e.addr e.vid = some old)
    (hnew : hasFlag e.flags TT_CLIENT_NEW = hasFlag old.flags TT_CLIENT_NEW)
    (hdel : hasFlag e.flags TT_CLIENT_DEL = false) (hsync : ttSync e.flags = ttSync old.flags)
    (hmark : hasFlag old.flags TT_CLIENT_PENDING = false ∨
      hasFlag old.flags TT_CLIENT_NEW = false)
    (hmatch : TtEventMatches tt old) (hkept : TtDeletionKept tt old) {flags : U16}
    (hflags : hasFlag (flags.setWidth 8) (TT_CLIENT_DEL.setWidth 8) = true) :
    TtTracked committed (ttLocalSetPending alloc tt e flags) := by
  have hold : old.key = e.key := (ttLocalHashFind_eq_some hfind).2
  obtain ⟨haddr, hvid⟩ : old.addr = e.addr ∧ old.vid = e.vid := Prod.mk.injEq .. ▸ hold
  have hkey := h.keys e.key
  rw [show ttLocalHashFind tt e.key.1 e.key.2 = some old from hfind] at hkey
  have hmatch' : TtEventMatches tt e := fun c hc hca => by
    rw [← hvid]
    exact hmatch c hc (hca.trans haddr.symm)
  have hkept' : hasFlag old.flags TT_CLIENT_NEW = true ∨
      ∀ c, ttChangeOf tt e.key = some c → c.isDel = true := by
    refine hkept.imp_right fun hdels c hc => ?_
    obtain ⟨hmem, hck⟩ := ttChangeOf_eq_some hc
    exact hdels c hmem ((congrArg Prod.fst hck).symm.trans haddr.symm)
  refine h.event_put halloc hfind hmatch' _ rfl ((hasFlag_or (by decide) e.flags).trans hdel) ?_
  exact hkey.marked hmark hkept' ((hasFlag_or (by decide) e.flags).trans hnew)
    (hasFlag_or_self (by decide) e.flags) ((ttSync_or (by decide) e.flags).trans hsync)
    (isDel_ttEventChange_del e hflags)

/-- **A client that is `NEW` is gone**, and a deletion is stored. -/
lemma erase (h : TtTracked committed tt) (halloc : ∀ c, alloc c = true) {old : TtLocalEntry}
    (hfind : ttLocalHashFind tt e.addr e.vid = some old)
    (hnew : hasFlag old.flags TT_CLIENT_NEW = true) (hmatch : TtEventMatches tt e) {tt' : TtLocal}
    (hhash : tt'.localHash = tt.localHash.filter fun d => !d.isFor e.addr e.vid)
    (hvlan : tt'.vlanList = tt.vlanList) (hcontainer : tt'.container = tt.container)
    (hlist : tt'.changesList =
      (ttLocalEvent alloc tt e (TT_CLIENT_DEL.setWidth 8)).changesList)
    (hcount : tt'.localChanges =
      (ttLocalEvent alloc tt e (TT_CLIENT_DEL.setWidth 8)).localChanges) :
    TtTracked committed tt' := by
  have hevent := ttChangeOf_event h.changes halloc hmatch (TT_CLIENT_DEL.setWidth 8)
  have hchanges := h.changes.event alloc e (TT_CLIENT_DEL.setWidth 8)
  have hchange (k : EthAddr × U16) : ttChangeOf tt' k =
      ttChangeOf (ttLocalEvent alloc tt e (TT_CLIENT_DEL.setWidth 8)) k := by
    rw [ttChangeOf, hlist, ttChangeOf]
  have hkey := h.keys e.key
  rw [show ttLocalHashFind tt e.key.1 e.key.2 = some old from hfind] at hkey
  have hchanges' : TtChangesWf tt' :=
    ⟨by rw [hcount, hlist, hchanges.count], by rw [hlist]; exact hchanges.nodup⟩
  refine h.of_key e.key ?_ hchanges' (fun d hd => ?_) hcontainer (fun k hk => ?_)
    (fun k hk => ?_) ?_
  · refine h.wf.of_sublist ?_ (by rw [hvlan])
    rw [hhash]
    exact List.filter_sublist.map _
  · rw [hhash] at hd
    exact h.noDel d (List.mem_of_mem_filter hd)
  · unfold ttLocalHashFind
    rw [hhash, List.find?_filter]
    refine congrArg (fun p => List.find? p tt.localHash) (funext fun d => ?_)
    -- what is looked for passes the filter
    by_cases hd : d.isFor k.1 k.2 = true
    · have hde : ¬ d.isFor e.addr e.vid = true := fun hfor =>
        hk ((TtLocalEntry.isFor_iff.1 hd).symm.trans (TtLocalEntry.isFor_iff.1 hfor))
      simp [hd, hde]
    · simp [hd]
  · rw [hchange, hevent k, if_neg hk]
  · have hgone : ttLocalHashFind tt' e.key.1 e.key.2 = none := by
      refine List.find?_eq_none.2 fun d hd => ?_
      rw [hhash, List.mem_filter] at hd
      rw [show d.isFor e.key.1 e.key.2 = d.isFor e.addr e.vid from rfl]
      simpa using hd.2
    rw [hgone, hchange, hevent e.key, if_pos rfl]
    exact hkey.erased hnew (isDel_ttEventChange_del e (by decide))

/-- Removing a client. -/
lemma remove (h : TtTracked committed tt) {addr : EthAddr} {vid : U16}
    (hstored : ∀ e ∈ ttLocalHashFind tt addr vid,
      (∀ c, alloc c = true) ∧ TtEventMatches tt e ∧ TtDeletionKept tt e)
    (roaming : Bool) : TtTracked committed (ttLocalRemove alloc tt addr vid roaming) := by
  cases hfind : ttLocalHashFind tt addr vid with
  | none =>
    have hsame : ttLocalRemove alloc tt addr vid roaming = tt := by rw [ttLocalRemove, hfind]
    rw [hsame]
    exact h
  | some e =>
    obtain ⟨hmem, hekey⟩ := ttLocalHashFind_eq_some hfind
    obtain ⟨haddr, hvid⟩ : e.addr = addr ∧ e.vid = vid := Prod.mk.injEq .. ▸ hekey
    subst haddr hvid
    obtain ⟨halloc, hmatch, hkept⟩ := hstored e hfind
    -- the entry may be marked as roaming first
    obtain ⟨e', he'⟩ : ∃ e' : TtLocalEntry,
        e' = if roaming then { e with flags := e.flags ||| TT_CLIENT_ROAM } else e := ⟨_, rfl⟩
    obtain ⟨flags, hflags⟩ : ∃ flags : U16,
        flags = if roaming then TT_CLIENT_DEL ||| TT_CLIENT_ROAM else TT_CLIENT_DEL := ⟨_, rfl⟩
    have hekey' : e'.key = e.key := by rw [he']; split_ifs <;> rfl
    have hflag {flag : U16} (hroam : TT_CLIENT_ROAM &&& flag = 0) :
        hasFlag e'.flags flag = hasFlag e.flags flag := by
      rw [he']
      split_ifs
      · exact hasFlag_or hroam e.flags
      · rfl
    have hsync : ttSync e'.flags = ttSync e.flags := by
      rw [he']
      split_ifs
      · exact ttSync_or (by decide) e.flags
      · rfl
    have hdel' : hasFlag (flags.setWidth 8) (TT_CLIENT_DEL.setWidth 8) = true := by
      rw [hflags]
      split_ifs <;> decide
    have hdel : hasFlag e'.flags TT_CLIENT_DEL = false :=
      (hflag (by decide)).trans (h.noDel e hmem)
    have hfind' : ttLocalHashFind tt e'.addr e'.vid = some e := by
      obtain ⟨haddr, hvid⟩ : e'.addr = e.addr ∧ e'.vid = e.vid := Prod.mk.injEq .. ▸ hekey'
      rw [haddr, hvid, hfind]
    have hstate : ttLocalRemove alloc tt e.addr e.vid roaming =
        if !hasFlag e'.flags TT_CLIENT_NEW then ttLocalSetPending alloc (ttLocalPut tt e') e' flags
        else
          { ttLocalEvent alloc (ttLocalPut tt e') e' (TT_CLIENT_DEL.setWidth 8) with
            localHash := (ttLocalEvent alloc (ttLocalPut tt e') e'
              (TT_CLIENT_DEL.setWidth 8)).localHash.eraseP (TtLocalEntry.isFor e.addr e.vid) } := by
      rw [ttLocalRemove, hfind, he', hflags]
    cases hnew : hasFlag e.flags TT_CLIENT_NEW with
    | false =>
      have hnew' := (hflag (by decide)).trans hnew
      rw [hstate, hnew', Bool.not_false, if_pos rfl, ttLocalSetPending_put]
      exact h.setPending halloc hfind' (hflag (by decide)) hdel hsync (Or.inr hnew) hmatch hkept
        hdel'
    | true =>
      have hnew' := (hflag (by decide)).trans hnew
      have hhash := ttLocalRemove_localHash_of_new alloc hfind h.wf.nodup hnew roaming
      have hmatch' : TtEventMatches tt e' := fun c hc hca => by
        obtain ⟨haddr, hvid⟩ : e'.addr = e.addr ∧ e'.vid = e.vid := Prod.mk.injEq .. ▸ hekey'
        rw [hvid]
        exact hmatch c hc (hca.trans haddr)
      rw [hnew', Bool.not_true, if_neg (by simp), ttLocalEvent_put] at hstate
      have hfilter : (ttLocalRemove alloc tt e.addr e.vid roaming).localHash =
          tt.localHash.filter fun d => !d.isFor e'.addr e'.vid := by
        obtain ⟨haddr, hvid⟩ : e'.addr = e.addr ∧ e'.vid = e.vid := Prod.mk.injEq .. ▸ hekey'
        rw [haddr, hvid, hhash]
      refine h.erase halloc hfind' hnew hmatch' hfilter ?_ ?_ ?_ ?_
      · rw [hstate]
        simp
      · rw [hstate]
        exact ttLocalEvent_container alloc tt e' _
      · rw [hstate]
        rfl
      · rw [hstate]
        rfl

/-- **Marking the inactive clients.**

**Proof sketch.** Induction on the entries that are still to be looked at.  They are in the table
as they were at the start, and no change of their addresses has been stored since, because the
inactive clients have different addresses. -/
lemma purge (h : TtTracked committed tt) (jiffies : Jiffies) (timeout : ℕ)
    (hstored : ∀ e ∈ tt.localHash, e.purgeDue msecsToJiffies jiffies timeout = true →
      (∀ c, alloc c = true) ∧ TtEventMatches tt e ∧ TtDeletionKept tt e ∧
        ∀ d ∈ tt.localHash, d.purgeDue msecsToJiffies jiffies timeout = true →
          d.addr = e.addr → d.vid = e.vid) :
    TtTracked committed (ttLocalPurge msecsToJiffies alloc jiffies timeout tt) := by
  unfold ttLocalPurge
  suffices hgen : ∀ (after : List TtLocalEntry) (tt' : TtLocal), TtTracked committed tt' →
      (after.map TtLocalEntry.key).Nodup → (∀ e ∈ after, e ∈ tt.localHash) →
      (∀ e ∈ after, ttLocalHashFind tt' e.addr e.vid = some e) →
      (∀ e ∈ after, e.purgeDue msecsToJiffies jiffies timeout = true →
        ∀ c ∈ tt'.changesList, c.addr = e.addr → c ∈ tt.changesList) →
      TtTracked committed (after.foldl (fun tt e =>
        if e.purgeDue msecsToJiffies jiffies timeout then ttLocalSetPending alloc tt e TT_CLIENT_DEL
        else tt) tt') from
    hgen tt.localHash tt h h.wf.nodup (fun e he => he) (fun e he => h.wf.find_of_mem he)
      fun e _ _ c hc _ => hc
  intro after
  induction after with
  | nil => exact fun tt' h _ _ _ _ => h
  | cons e after ih =>
    intro tt' h' hnd hmem hfind hold
    rw [List.map_cons, List.nodup_cons] at hnd
    rw [List.foldl_cons]
    have hrest : ∀ d ∈ after, d.key ≠ e.key := fun d hd heq =>
      hnd.1 (heq ▸ List.mem_map_of_mem hd)
    split_ifs with hdue
    · obtain ⟨halloc, hematch, hekept, hedue⟩ := hstored e (hmem e List.mem_cons_self) hdue
      have hsince := hold e List.mem_cons_self hdue
      have hpending : hasFlag e.flags TT_CLIENT_PENDING = false := by
        unfold TtLocalEntry.purgeDue at hdue
        simp only [Bool.and_eq_true, Bool.not_eq_true'] at hdue
        exact hdue.1.2
      have hstep : TtTracked committed (ttLocalSetPending alloc tt' e TT_CLIENT_DEL) := by
        refine h'.setPending halloc (hfind e List.mem_cons_self) rfl ?_ rfl (Or.inl hpending)
          (fun c hc haddr => hematch c (hsince c hc haddr) haddr) ?_ (by decide)
        · exact h'.noDel e (ttLocalHashFind_eq_some (hfind e List.mem_cons_self)).1
        · exact hekept.imp_right fun hdels c hc haddr => hdels c (hsince c hc haddr) haddr
      refine ih _ hstep hnd.2 (fun d hd => hmem d (List.mem_cons_of_mem _ hd)) (fun d hd => ?_)
        fun d hd hddue c hc haddr => ?_
      · have hput : ttLocalHashFind (ttLocalSetPending alloc tt' e TT_CLIENT_DEL) d.key.1 d.key.2 =
            ttLocalHashFind (ttLocalEvent alloc tt' e (TT_CLIENT_DEL.setWidth 8)) d.key.1 d.key.2 :=
          ttLocalHashFind_put_of_ne (hrest d hd)
        rw [ttLocalHashFind_event] at hput
        exact hput.trans (hfind d (List.mem_cons_of_mem _ hd))
      · -- an inactive client has another address
        have hne : d.addr ≠ e.addr := fun heq => by
          refine hrest d hd (Prod.ext heq ?_)
          exact hedue d (hmem d (List.mem_cons_of_mem _ hd)) hddue heq
        refine hold d (List.mem_cons_of_mem _ hd) hddue c ?_ haddr
        exact mem_changesList_event halloc hc (haddr ▸ hne)
    · exact ih tt' h' hnd.2 (fun d hd => hmem d (List.mem_cons_of_mem _ hd))
        (fun d hd => hfind d (List.mem_cons_of_mem _ hd))
        fun d hd => hold d (List.mem_cons_of_mem _ hd)

/-- **One call keeps the changes right**, if it is one that keeps them exact. -/
theorem step (h : TtTracked committed tt) {op : TtLocalOp}
    (hop : op.KeepsChanges msecsToJiffies tt) :
    TtTracked committed (ttLocalStep msecsToJiffies tt op) := by
  cases op with
  | add a =>
    change TtTracked committed (ttLocalAdd tt a).1
    cases hfind : ttLocalHashFind tt a.addr a.vid with
    | some e =>
      refine h.add_found hfind fun hstores => ?_
      obtain ⟨halloc, hfound, -⟩ :=
        hop (by simpa [TtLocalAddArgs.storesChange, hfind] using hstores)
      exact ⟨halloc, hfound e hfind⟩
    | none =>
      refine h.add_new hfind fun hstores => ?_
      obtain ⟨halloc, -, hnew⟩ := hop (by simpa [TtLocalAddArgs.storesChange, hfind] using hstores)
      exact ⟨halloc, hnew hfind⟩
  | remove alloc addr vid roaming => exact h.remove hop roaming
  | purge alloc jiffies timeout => exact h.purge jiffies timeout hop
  | commit a => exact hop.elim
  | resize a => exact hop.elim

end TtTracked

/-! ### The commit -/

/-- What a commit announces if there is memory and what it announces fits: all recorded changes. -/
lemma ttTvlvContainerUpdate_of_fits {a : TtCommitArgs} (hdata : a.allocData = true)
    (hcontainer : a.allocContainer = true) (hchanges : TtChangesWf tt)
    (hmtu : ttLen tt.localChanges ≤ a.mtu)
    (hlen : ttLen tt.localChanges + 4 + 8 * tt.vlanList.length < 2 ^ 16) :
    (ttTvlvContainerUpdate a tt).changesList = [] ∧ (ttTvlvContainerUpdate a tt).localChanges = 0 ∧
      ttTvlvChanges (ttTvlvContainerUpdate a tt) = tt.changesList.map TtChange.toChange := by
  have hactive : (ttLocalActiveVlans tt).length ≤ tt.vlanList.length :=
    List.length_filter_le _ _
  have hfits : ttLocalTvlvLen tt (ttLen tt.localChanges) ≠ 0 := by
    rw [ttLocalTvlvLen, ne_eq, ← BitVec.toNat_inj, BitVec.toNat_ofNat, Nat.mod_eq_of_lt (by omega)]
    simp
  have hdrop : ¬ a.mtu < ttLen tt.localChanges := by omega
  have htake : tt.changesList.take tt.localChanges = tt.changesList := by
    rw [hchanges.count, List.take_length]
  unfold ttTvlvContainerUpdate
  simp only [hdrop, if_false, hdata, Bool.not_true, Bool.false_eq_true, hfits, or_self,
    not_false_eq_true, true_and, ttRegisterContainer, hcontainer, if_true]
  split_ifs with hzero
  · have hnil : tt.changesList = [] := List.length_eq_zero_iff.1 (hchanges.count ▸ hzero)
    exact ⟨hnil, hzero, by rw [hnil]; rfl⟩
  all_goals
    refine ⟨rfl, rfl, ?_⟩
    rw [htake]
    rfl

/-- The recorded changes, applied to the committed clients, client by client. -/
lemma applyAll_changesList (h : TtChangesWf tt) (committed : EthAddr × U16 → Option U8)
    (k : EthAddr × U16) :
    applyAll committed (tt.changesList.map TtChange.toChange) k =
      match ttChangeOf tt k with
      | none => committed k
      | some c => c.toChange.value := by
  have hkeys : (tt.changesList.map TtChange.toChange).map Change.key =
      tt.changesList.map fun c => (c.addr, c.vid) := by
    rw [List.map_map]
    rfl
  have hnd : ((tt.changesList.map TtChange.toChange).map Change.key).Nodup := by
    rw [hkeys]
    refine List.Nodup.of_map Prod.fst ?_
    rw [List.map_map]
    exact h.nodup
  cases hchange : ttChangeOf tt k with
  | none =>
    refine applyAll_of_notMem (fun hmem => ?_) committed
    rw [hkeys] at hmem
    obtain ⟨c, hc, hck⟩ := List.mem_map.1 hmem
    exact List.find?_eq_none.1 hchange c hc (TtChange.isFor_iff.2 hck.symm)
  | some c =>
    obtain ⟨hc, hck⟩ := ttChangeOf_eq_some hchange
    rw [hck]
    exact applyAll_of_mem hnd (List.mem_map_of_mem hc) committed

/-- The entries after a commit of changes: those that were not pending, without the flag `NEW`. -/
lemma mem_localHash_commit {a : TtCommitArgs} (hchanges : tt.localChanges ≠ 0) {d : TtLocalEntry} :
    d ∈ (ttLocalCommitChanges a tt).localHash ↔
      ∃ e ∈ tt.localHash, hasFlag e.flags TT_CLIENT_PENDING = false ∧
        { e with flags := e.flags &&& ~~~TT_CLIENT_NEW } = d := by
  have hpending (e : TtLocalEntry) :
      hasFlag (e.flags &&& ~~~TT_CLIENT_NEW) TT_CLIENT_PENDING =
        hasFlag e.flags TT_CLIENT_PENDING := hasFlag_and_not (by decide) e.flags
  rw [ttLocalCommitChanges_localHash a hchanges, List.mem_filter, List.mem_map]
  constructor
  · rintro ⟨⟨e, he, rfl⟩, hkeep⟩
    refine ⟨e, he, ?_, rfl⟩
    rw [← hpending e]
    simpa using hkeep
  · rintro ⟨e, he, hkeep, rfl⟩
    refine ⟨⟨e, he, rfl⟩, ?_⟩
    rw [hpending e, hkeep]
    rfl

/-- The clients after a commit of changes: those that were not pending. -/
lemma ttView_commit (hwf : tt.Wf) (a : TtCommitArgs) (hchanges : tt.localChanges ≠ 0)
    (k : EthAddr × U16) :
    ttView (ttLocalCommitChanges a tt) k =
      match ttLocalHashFind tt k.1 k.2 with
      | none => none
      | some e => if hasFlag e.flags TT_CLIENT_PENDING then none else some (ttSync e.flags) := by
  cases hfind : ttLocalHashFind tt k.1 k.2 with
  | none =>
    have hgone : ttLocalHashFind (ttLocalCommitChanges a tt) k.1 k.2 = none := by
      refine List.find?_eq_none.2 fun d hd hfor => ?_
      obtain ⟨e, he, -, rfl⟩ := (mem_localHash_commit hchanges).1 hd
      exact ttLocalHashFind_eq_none hfind e he (TtLocalEntry.isFor_iff.1 hfor)
    rw [ttView, hgone]
    rfl
  | some e =>
    obtain ⟨he, hkey⟩ := ttLocalHashFind_eq_some hfind
    dsimp only
    split_ifs with hpending
    · have hgone : ttLocalHashFind (ttLocalCommitChanges a tt) k.1 k.2 = none := by
        refine List.find?_eq_none.2 fun d hd hfor => ?_
        obtain ⟨x, hx, hkeep, rfl⟩ := (mem_localHash_commit hchanges).1 hd
        have hxe : x = e := hwf.eq_of_key hx he ((TtLocalEntry.isFor_iff.1 hfor).trans hkey.symm)
        rw [hxe, hpending] at hkeep
        exact nomatch hkeep
      rw [ttView, hgone]
      rfl
    · rw [Bool.not_eq_true] at hpending
      have hmem := (mem_localHash_commit (a := a) hchanges).2 ⟨e, he, hpending, rfl⟩
      have hfound := (hwf.commit a).find_of_mem hmem
      obtain ⟨haddr, hvid⟩ : e.addr = k.1 ∧ e.vid = k.2 := Prod.mk.injEq .. ▸ hkey
      rw [haddr, hvid] at hfound
      rw [ttView, hfound, Option.map_some, ttSync_and_not (by decide)]

namespace TtTracked

variable {committed : EthAddr × U16 → Option U8}

/-- **A commit announces what leads from the committed clients to the new ones.**

**Proof sketch.** Client by client: the recorded change of a client gives it what it has after the
commit, and a client without one has what it was committed with. -/
theorem commit (h : TtTracked committed tt) {a : TtCommitArgs} (hdata : a.allocData = true)
    (hcontainer : a.allocContainer = true) (hmtu : ttLen tt.localChanges ≤ a.mtu)
    (hlen : ttLen tt.localChanges + 4 + 8 * tt.vlanList.length < 2 ^ 16)
    (hnone : tt.localChanges = 0 → ∀ e ∈ tt.localHash, hasFlag e.flags TT_CLIENT_NEW = false) :
    applyAll committed (ttTvlvChanges (ttLocalCommitChanges a tt)) =
        ttView (ttLocalCommitChanges a tt) ∧
      (ttLocalCommitChanges a tt).Committed := by
  by_cases hchanges : tt.localChanges = 0
  · -- nothing is recorded, and nothing is changed
    have hlist : tt.changesList = [] := List.length_eq_zero_iff.1 (h.changes.count ▸ hchanges)
    have hhash := (ttLocalCommitChanges_of_no_changes a hchanges).1
    have hclean : ∀ e ∈ tt.localHash, hasFlag e.flags TT_CLIENT_PENDING = false ∧
        committed e.key = some (ttSync e.flags) := by
      intro e he
      have hkey := h.keys e.key
      have hnew := hnone hchanges e he
      rw [show ttLocalHashFind tt e.key.1 e.key.2 = some e from h.wf.find_of_mem he, ttChangeOf,
        hlist, List.find?_nil] at hkey
      generalize hcommitted : committed e.key = value at hkey
      cases hkey with
      | newPending hn hp => rw [hnew] at hn; exact nomatch hn
      | unchanged hn hp => exact ⟨hp, rfl⟩
    have hview : committed = ttView (ttLocalCommitChanges a tt) := by
      funext k
      have hkey := h.keys k
      rw [ttView, ttLocalHashFind, hhash]
      change _ = (ttLocalHashFind tt k.1 k.2).map _
      cases hfind : ttLocalHashFind tt k.1 k.2 with
      | none =>
        rw [hfind, ttChangeOf, hlist, List.find?_nil] at hkey
        generalize committed k = value at hkey
        cases hkey with
        | absent => rfl
      | some e =>
        obtain ⟨he, hek⟩ := ttLocalHashFind_eq_some hfind
        have hek' : e.key = k := hek
        rw [← hek', (hclean e he).2, Option.map_some]
    have happly : applyAll committed (ttTvlvChanges (ttLocalCommitChanges a tt)) = committed := by
      rw [ttLocalCommitChanges, if_pos hchanges]
      split_ifs
      · rw [(ttTvlvContainerUpdate_of_fits hdata hcontainer h.changes hmtu hlen).2.2, hlist]
        rfl
      · exact h.announced
    have hstate : (ttLocalCommitChanges a tt).changesList = [] ∧
        (ttLocalCommitChanges a tt).localChanges = 0 := by
      rw [ttLocalCommitChanges, if_pos hchanges]
      split_ifs
      · have hfits := ttTvlvContainerUpdate_of_fits hdata hcontainer h.changes hmtu hlen
        exact ⟨hfits.1, hfits.2.1⟩
      · exact ⟨hlist, hchanges⟩
    refine ⟨happly.trans hview, h.wf.commit a, hstate.1, hstate.2, fun e he => ?_, ?_⟩
    · rw [hhash] at he
      exact ⟨hnone hchanges e he, (hclean e he).1, h.noDel e he⟩
    · rw [← hview]
      exact happly
  · -- the recorded changes are announced
    obtain ⟨tt₁, htt₁⟩ : ∃ tt₁ : TtLocal, tt₁ =
        { ttLocalUpdateCrc (ttLocalPurgePendingClients (ttLocalClearNew tt)) with
          vn := (ttLocalUpdateCrc (ttLocalPurgePendingClients (ttLocalClearNew tt))).vn + 1
          ogmAppendCnt := TT_OGM_APPEND_MAX } := ⟨_, rfl⟩
    have hstate : ttLocalCommitChanges a tt = ttTvlvContainerUpdate a tt₁ := by
      rw [ttLocalCommitChanges, if_neg hchanges, htt₁]
    rw [ttLocalPurgePendingClients_eq, ttLocalClearNew_eq] at htt₁
    have hlist : tt₁.changesList = tt.changesList := by rw [htt₁]; rfl
    have hcount : tt₁.localChanges = tt.localChanges := by rw [htt₁]; rfl
    have hvlans : tt₁.vlanList.length = tt.vlanList.length := by
      rw [htt₁]
      simp [ttLocalUpdateCrc]
    have hwf₁ : TtChangesWf tt₁ := ⟨by rw [hcount, hlist, h.changes.count], hlist ▸ h.changes.nodup⟩
    obtain ⟨hlist', hcount', hannounced⟩ := ttTvlvContainerUpdate_of_fits hdata hcontainer hwf₁
      (hcount ▸ hmtu) (by rw [hcount, hvlans]; exact hlen)
    rw [← hstate] at hlist' hcount' hannounced
    rw [hlist] at hannounced
    have hview : applyAll committed (ttTvlvChanges (ttLocalCommitChanges a tt)) =
        ttView (ttLocalCommitChanges a tt) := by
      funext k
      have hkey := h.keys k
      rw [hannounced, applyAll_changesList h.changes, ttView_commit h.wf a hchanges]
      generalize committed k = value, ttLocalHashFind tt k.1 k.2 = entry,
        ttChangeOf tt k = change at hkey
      cases hkey with
      | absent => rfl
      | forgotten hdel => simp [TtChange.toChange, hdel]
      | new hnew hpending hadd hsync => simp [TtChange.toChange, hadd, hpending, hsync]
      | newPending hnew hpending => simp [hpending]
      | unchanged hnew hpending => simp [hpending]
      | changed hnew hpending hadd hsync => simp [TtChange.toChange, hadd, hpending, hsync]
      | removed hnew hpending hdel => simp [TtChange.toChange, hdel, hpending]
    have hnd : ((ttTvlvChanges (ttLocalCommitChanges a tt)).map Change.key).Nodup := by
      rw [hannounced, List.map_map]
      refine List.Nodup.of_map Prod.fst ?_
      rw [List.map_map]
      exact h.changes.nodup
    refine ⟨hview, h.wf.commit a, hlist', hcount', fun d hd => ?_, ?_⟩
    · obtain ⟨e, he, hpending, rfl⟩ := (mem_localHash_commit hchanges).1 hd
      exact ⟨hasFlag_and_not_self _ _, (hasFlag_and_not (by decide) e.flags).trans hpending,
        (hasFlag_and_not (by decide) e.flags).trans (h.noDel e he)⟩
    · rw [← hview]
      exact applyAll_idem hnd committed

end TtTracked

/-- The table without clients is one right after a commit. -/
lemma TtLocal.committed_new (vids : List U16) : (TtLocal.new vids).Committed :=
  ⟨TtLocal.wf_new vids, rfl, rfl, fun _ he => (List.not_mem_nil he).elim, rfl⟩

/-- After calls that keep the changes exact the recorded ones lead from the committed clients to the
present ones. -/
lemma TtLocal.Committed.run (htt : tt.Committed) {ops : List TtLocalOp}
    (hops : Run.AllSteps (ttLocalStep msecsToJiffies)
      (fun tt op => op.KeepsChanges msecsToJiffies tt) tt ops) :
    TtTracked (ttView tt) (Run.final (ttLocalStep msecsToJiffies) tt ops) :=
  Run.AllSteps.invariant (TtTracked (ttView tt)) (fun _ _ h hop => h.step hop) htt.tracked hops

/-- **Translation table changeset exactness.**  From a committed table, after calls that keep the
changes exact, the changes that a commit announces lead from the clients committed before to those
of the table after it, which is committed again. -/
theorem tt_changeset_exact (htt : tt.Committed) {ops : List TtLocalOp}
    (hops : Run.AllSteps (ttLocalStep msecsToJiffies)
      (fun tt op => op.KeepsChanges msecsToJiffies tt) tt ops) {a : TtCommitArgs}
    (hdata : a.allocData = true) (hcontainer : a.allocContainer = true)
    (hmtu : ttLen (Run.final (ttLocalStep msecsToJiffies) tt ops).localChanges ≤ a.mtu)
    (hlen : ttLen (Run.final (ttLocalStep msecsToJiffies) tt ops).localChanges + 4 +
      8 * (Run.final (ttLocalStep msecsToJiffies) tt ops).vlanList.length < 2 ^ 16)
    (hnone : (Run.final (ttLocalStep msecsToJiffies) tt ops).localChanges = 0 →
      ∀ e ∈ (Run.final (ttLocalStep msecsToJiffies) tt ops).localHash,
        hasFlag e.flags TT_CLIENT_NEW = false) :
    applyAll (ttView tt) (ttTvlvChanges
        (ttLocalCommitChanges a (Run.final (ttLocalStep msecsToJiffies) tt ops))) =
      ttView (ttLocalCommitChanges a (Run.final (ttLocalStep msecsToJiffies) tt ops)) ∧
    (ttLocalCommitChanges a (Run.final (ttLocalStep msecsToJiffies) tt ops)).Committed :=
  (htt.run hops).commit hdata hcontainer hmtu hlen hnone

/-- A table right after a commit, with one client in two VLANs. -/
def ttTwoVlans : TtLocal :=
  Run.final (ttLocalStep fun ms => BitVec.ofNat 64 ms) (TtLocal.new [0, 0x8005])
    [ttSeen 0x020000000001 0 1000, .commit ttCommitFits, ttSeen 0x020000000001 0x8005 1000,
      .commit ttCommitFits]

lemma committed_ttTwoVlans : ttTwoVlans.Committed := by
  have hfirst := (TtLocal.committed_new [0, 0x8005]).run
    (show Run.AllSteps (ttLocalStep fun ms => BitVec.ofNat 64 ms) _ _
      [ttSeen 0x020000000001 0 1000] from ⟨fun _ => ⟨fun _ => rfl, by decide +kernel⟩, trivial⟩)
  have hone := (hfirst.commit (a := ttCommitFits) rfl rfl (by decide +kernel) (by decide +kernel)
    (by decide +kernel)).2
  have hsecond := hone.run
    (show Run.AllSteps (ttLocalStep fun ms => BitVec.ofNat 64 ms) _ _
      [ttSeen 0x020000000001 0x8005 1000] from
        ⟨fun _ => ⟨fun _ => rfl, by decide +kernel⟩, trivial⟩)
  exact (hsecond.commit (a := ttCommitFits) rfl rfl (by decide +kernel) (by decide +kernel)
    (by decide +kernel)).2

/-- The client is removed from one VLAN and just seen again in the other one, which stores no
change, and another client is added and removed again. -/
def ttChangesetOps : List TtLocalOp :=
  [.remove (fun _ => true) 0x020000000001 0 false, ttSeen 0x020000000001 0x8005 2000,
    ttSeen 0x020000000002 0x8005 2000, .remove (fun _ => true) 0x020000000002 0x8005 false]

theorem tt_changeset_exact_example :
    applyAll (ttView ttTwoVlans) (ttTvlvChanges (ttLocalCommitChanges ttCommitFits
        (Run.final (ttLocalStep fun ms => BitVec.ofNat 64 ms) ttTwoVlans ttChangesetOps))) =
      ttView (ttLocalCommitChanges ttCommitFits
        (Run.final (ttLocalStep fun ms => BitVec.ofNat 64 ms) ttTwoVlans ttChangesetOps)) := by
  refine (tt_changeset_exact committed_ttTwoVlans ?_ rfl rfl ?_ ?_ ?_).1
  · have hremoved : ∀ e ∈ ttLocalHashFind ttTwoVlans 0x020000000001 0,
        TtEventMatches ttTwoVlans e ∧ TtDeletionKept ttTwoVlans e := by decide +kernel
    refine ⟨fun e he => ⟨fun _ => rfl, hremoved e he⟩, fun hstores => absurd hstores ?_,
      fun _ => ⟨fun _ => rfl, ?_⟩, fun e he => ⟨fun _ => rfl, ?_⟩, trivial⟩
    · decide +kernel
    · decide +kernel
    · revert e he
      decide +kernel
  · decide +kernel
  · decide +kernel
  · decide +kernel

/-- A client is seen in one VLAN and then in another one. -/
def ttChangesetFailOps : List TtLocalOp :=
  [ttSeen 0x020000000001 0 1000, ttSeen 0x020000000001 0x8005 1000]

/-- The second of them is committed, but not announced: only the change of the first is recorded,
and the second event writes its flags to it. -/
theorem tt_changeset_fails :
    ∃ tt a, tt.Committed ∧ a.allocData = true ∧ a.allocChangeset = true ∧
      a.allocContainer = true ∧
      ttLen (Run.final (ttLocalStep fun ms => BitVec.ofNat 64 ms) tt
        ttChangesetFailOps).localChanges ≤ a.mtu ∧
      applyAll (ttView tt) (ttTvlvChanges (ttLocalCommitChanges a
          (Run.final (ttLocalStep fun ms => BitVec.ofNat 64 ms) tt ttChangesetFailOps))) ≠
        ttView (ttLocalCommitChanges a
          (Run.final (ttLocalStep fun ms => BitVec.ofNat 64 ms) tt ttChangesetFailOps)) := by
  refine ⟨TtLocal.new [0, 0x8005], ttCommitFits, TtLocal.committed_new _, rfl, rfl, rfl, ?_, ?_⟩
  · decide +kernel
  · intro h
    have hkey := congrFun h (0x020000000001, 0x8005)
    revert hkey
    decide +kernel

end Batadv
