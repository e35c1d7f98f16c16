import BatmanAdv.BatV.BestNeighbor
import BatmanAdv.Lib.Paging
import BatmanAdv.TranslationTable.Accounting

set_option relaxedAutoImplicit false
set_option autoImplicit false

/-!
# Netlink dumps of tables (`bat_v.c`, `translation-table.c`)

A table is dumped into several messages.  A call writes entries until one does not fit, and leaves
in `cb->args` where the next call goes on: the bucket, the index in the bucket and the index in the
list of the entry.  The dump is over when a message has no entry.

An interface is known by its index, and `ifname` gives its name.  The time since something was last
seen changes from call to call and is left out of an entry; it takes four bytes in any case.

## Main definitions

* `Batadv.NlAttr`, `Batadv.NlEntry`, `Batadv.genlmsgPut` — entries, and an entry that is written.
* `Batadv.vOrigDump`, `Batadv.ttGlobalDump`, `Batadv.vNeighDump` — the dumps.
* `Batadv.Dumped` — the messages have the given entries.

## Main results

* `Batadv.hashDump_continues` — dumps of hash tables.
* `Batadv.netlink_dumps_complete` — what the dumps have.
* `Batadv.tt_global_dump_leaves_out` — what one of them does not have.
-/

namespace Batadv

open Paging

variable {δ : Type*}

/-! ### Messages -/

/-- `ENOBUFS`. -/
def ENOBUFS : ℤ := 105

/-- `EMSGSIZE`. -/
def EMSGSIZE : ℤ := 90

/-- The commands of the dumps. -/
inductive NlCmd
  | getNeighbors
  | getOriginators
  | getTranstableGlobal
deriving DecidableEq, Repr

/-- The attributes of entries. -/
inductive NlAttr
  | origAddress (addr : EthAddr)
  | neighAddress (addr : EthAddr)
  | hardIfname (name : List Char)
  | hardIfindex (ifindex : ℕ)
  | throughput (airtime : U32)
  | lastSeenMsecs
  | ttAddress (addr : EthAddr)
  | ttTtvn (ttvn : U8)
  | ttLastTtvn (ttvn : U8)
  | ttCrc32 (crc : U32)
  | ttVid (vid : U16)
  | ttFlags (flags : U32)
  | flagBest
deriving DecidableEq, Repr

/-- The length of an attribute without its header. -/
def NlAttr.len : NlAttr → ℕ
  | origAddress _ | neighAddress _ | ttAddress _ => 6
  | hardIfname name => name.length + 1
  | hardIfindex _ | throughput _ | lastSeenMsecs | ttCrc32 _ | ttFlags _ => 4
  | ttTtvn _ | ttLastTtvn _ => 1
  | ttVid _ => 2
  | flagBest => 0

/-- `nla_total_size`: the header and the length, as a multiple of four. -/
def NlAttr.totalSize (attr : NlAttr) : ℕ := (4 + attr.len + 3) / 4 * 4

/-- An entry of a message. -/
structure NlEntry where
  cmd : NlCmd
  attrs : List NlAttr
deriving DecidableEq, Repr

/-- What `genlmsg_put` takes. -/
def GENL_HDRLEN : ℕ := 20

/-- The room that an entry takes. -/
def NlEntry.size (e : NlEntry) : ℕ := GENL_HDRLEN + (e.attrs.map NlAttr.totalSize).sum

/-- A message. -/
abbrev NlMsg := Page NlEntry

/-- `genlmsg_put`, `nla_put` and `genlmsg_end`; what is there of an entry that does not fit is taken
back. -/
def genlmsgPut (msg : NlMsg) (cmd : NlCmd) (attrs : List NlAttr) : NlMsg × ℤ :=
  let used := (msg.entries.map NlEntry.size).sum
  if msg.capacity < used + GENL_HDRLEN then (msg, -ENOBUFS)
  else if msg.capacity < used + (NlEntry.mk cmd attrs).size then (msg, -EMSGSIZE)
  else (msg.append [⟨cmd, attrs⟩], 0)

/-- An entry is written if it fits. -/
lemma genlmsgPut_spec (msg : NlMsg) (cmd : NlCmd) (attrs : List NlAttr) :
    ((genlmsgPut msg cmd attrs).2 = 0 →
      (genlmsgPut msg cmd attrs).1 = msg.append [⟨cmd, attrs⟩]) ∧
    ((genlmsgPut msg cmd attrs).2 ≠ 0 → (genlmsgPut msg cmd attrs).1 = msg ∧
      ¬ msg.Fits NlEntry.size ⟨cmd, attrs⟩) := by
  unfold genlmsgPut Page.Fits
  dsimp only
  have hle : GENL_HDRLEN ≤ (NlEntry.mk cmd attrs).size := Nat.le_add_right _ _
  by_cases hhdr : msg.capacity < (msg.entries.map NlEntry.size).sum + GENL_HDRLEN
  · rw [if_pos hhdr]
    exact ⟨fun h => absurd (show -ENOBUFS = 0 from h) (by decide), fun _ => ⟨rfl, by omega⟩⟩
  · by_cases hfits : msg.capacity < (msg.entries.map NlEntry.size).sum +
        (NlEntry.mk cmd attrs).size
    · rw [if_neg hhdr, if_pos hfits]
      exact ⟨fun h => absurd (show -EMSGSIZE = 0 from h) (by decide), fun _ => ⟨rfl, by omega⟩⟩
    · rw [if_neg hhdr, if_neg hfits]
      exact ⟨fun _ => rfl, fun h => absurd rfl h⟩

/-- The loop over the buckets of a hash table. -/
def hashDump {α : Type*} (dumpBucket : Dump NlEntry (ℕ × ℕ) (List α)) (table : List (List α))
    (msg : NlMsg) (args : ℕ × ℕ × ℕ) : NlMsg × (ℕ × ℕ × ℕ) :=
  match loop dumpBucket 0 args.1 msg args.2 (table.drop args.1) with
  | (msg, pos, some bucket) => (msg, bucket, pos)
  | (msg, pos, none) => (msg, max args.1 table.length, pos)

/-! ### Originators -/

section Originators

variable (ifname : ℕ → List Char) (ifOutgoing : IfKey)

/-- The entry for a neighbor of an originator. -/
def vOrigAttrs (orig : OrigNode δ) (neigh : NeighKey × NeighNode) (airtime : U32) (best : Bool) :
    List NlAttr :=
  [.origAddress orig.orig, .neighAddress neigh.1.addr, .hardIfname (ifname neigh.1.ifIncoming),
    .hardIfindex neigh.1.ifIncoming, .throughput airtime, .lastSeenMsecs] ++
    if best then [.flagBest] else []

/-- `batadv_v_orig_dump_subentry`. -/
def vOrigDumpSubentry (msg : NlMsg) (orig : OrigNode δ) (neigh : NeighKey × NeighNode)
    (best : Bool) : NlMsg × ℤ :=
  match neigh.2.ifinfoList.get ifOutgoing with
  | none => (msg, 0)
  | some ifinfo =>
    if ifOutgoing ≠ none ∧ ifOutgoing ≠ some neigh.1.ifIncoming then (msg, 0)
    else genlmsgPut msg .getOriginators (vOrigAttrs ifname orig neigh ifinfo.airtimeCost best)

/-- `batadv_v_orig_dump_entry`. -/
def vOrigDumpEntry : Dump NlEntry ℕ (OrigNode δ) := fun msg sub orig =>
  match origRouterGet orig ifOutgoing with
  | none => (msg, 0, 0)
  | some best => leaves
    (fun msg neigh => vOrigDumpSubentry ifname ifOutgoing msg orig neigh (neigh.1 == best))
    (-EMSGSIZE) msg sub orig.neighList

/-- `batadv_v_orig_dump_bucket`. -/
def vOrigDumpBucket : Dump NlEntry (ℕ × ℕ) (List (OrigNode δ)) :=
  list (vOrigDumpEntry ifname ifOutgoing) 0 (-EMSGSIZE)

/-- **`batadv_v_orig_dump`**. -/
def vOrigDump (origHash : List (List (OrigNode δ))) : NlMsg → ℕ × ℕ × ℕ → NlMsg × (ℕ × ℕ × ℕ) :=
  hashDump (vOrigDumpBucket ifname ifOutgoing) origHash

end Originators

/-! ### Clients -/

section Clients

variable (cmp : NeighNode → IfKey → NeighNode → IfKey → ℤ) (bat : BatPriv δ) (tt : TtPriv)

/-- The VLAN of the originator that a client is in. -/
def ttDumpVlan (common : TtGlobalEntry) (orig : TtOrigListEntry) :
    Option (TtOrigNode × OrigNodeVlan) :=
  (ttOrigHashFind tt orig.origNode).bind fun origNode =>
    (origNodeVlanGet origNode common.vid).map fun vlan => (origNode, vlan)

/-- The entry for a client and an originator. -/
def ttGlobalAttrs (common : TtGlobalEntry) (orig : TtOrigListEntry) (origNode : TtOrigNode)
    (crc : U32) (best : Bool) : List NlAttr :=
  let flags := (common.flags &&& ~~~TT_SYNC_MASK) ||| orig.flags.setWidth 16
  [.ttAddress common.addr, .origAddress orig.origNode, .ttTtvn orig.ttvn,
    .ttLastTtvn origNode.lastTtvn, .ttCrc32 crc, .ttVid common.vid, .ttFlags (flags.setWidth 32)] ++
    if best then [.flagBest] else []

/-- `batadv_tt_global_dump_subentry`. -/
def ttGlobalDumpSubentry (msg : NlMsg) (common : TtGlobalEntry) (orig : TtOrigListEntry)
    (best : Bool) : NlMsg × ℤ :=
  match ttDumpVlan tt common orig with
  | none => (msg, 0)
  | some (origNode, vlan) => genlmsgPut msg .getTranstableGlobal
    (ttGlobalAttrs common orig origNode vlan.crc best)

/-- `batadv_tt_global_dump_entry`; an originator is in the list of a client once. -/
def ttGlobalDumpEntry : Dump NlEntry ℕ TtGlobalEntry := fun msg sub common =>
  let best := (transtableBestOrig cmp bat common).map Prod.fst
  leaves (fun msg orig => ttGlobalDumpSubentry tt msg common orig (some orig == best))
    (-EMSGSIZE) msg sub common.origList

/-- `batadv_tt_global_dump_bucket`. -/
def ttGlobalDumpBucket : Dump NlEntry (ℕ × ℕ) (List TtGlobalEntry) :=
  list (ttGlobalDumpEntry cmp bat tt) 0 (-EMSGSIZE)

/-- **`batadv_tt_global_dump`**: the message with `cb->args`, and what is returned. -/
def ttGlobalDump (primaryIf : Option HardIface) (globalHash : List (List TtGlobalEntry))
    (msg : NlMsg) (args : ℕ × ℕ × ℕ) : (NlMsg × (ℕ × ℕ × ℕ)) × ℤ :=
  if !primaryIf.any HardIface.active then ((msg, args), -ENOENT)
  else
    let r := hashDump (ttGlobalDumpBucket cmp bat tt) globalHash msg args
    (r, (r.1.entries.map NlEntry.size).sum)

end Clients

/-! ### Neighbors -/

section Neighbors

variable (ifname : ℕ → List Char)

/-- `batadv_v_neigh_dump_neigh`. -/
def vNeighDumpNeigh (msg : NlMsg) (hardIface : HardIface) (hardifNeigh : HardifNeighNode) :
    NlMsg × ℤ :=
  genlmsgPut msg .getNeighbors [.neighAddress hardifNeigh.addr,
    .hardIfname (ifname hardIface.ifindex), .hardIfindex hardIface.ifindex, .lastSeenMsecs,
    .throughput hardifNeigh.airtimeCost]

/-- `batadv_v_neigh_dump_hardif`. -/
def vNeighDumpHardif : Dump NlEntry ℕ HardIface := fun msg idx hardIface =>
  leaves (fun msg hardifNeigh => vNeighDumpNeigh ifname msg hardIface hardifNeigh) (-EMSGSIZE)
    msg idx hardIface.neighList

/-- **`batadv_v_neigh_dump`**, for one interface or for all. -/
def vNeighDump (singleHardif : Option HardIface) (hardIfaces : List HardIface) (msg : NlMsg)
    (args : ℕ × ℕ) : NlMsg × (ℕ × ℕ) :=
  match singleHardif with
  | some hardIface =>
    if args.1 = 0 then
      let r := vNeighDumpHardif ifname msg args.2 hardIface
      (r.1, if r.2.2 = 0 then 1 else 0, r.2.1)
    else (msg, 0, args.2)
  | none =>
    match loop (vNeighDumpHardif ifname) args.1 0 msg args.2 hardIfaces with
    | (msg, idx, some i) => (msg, i, idx)
    | (msg, idx, none) => (msg, hardIfaces.length, idx)

end Neighbors

/-! ### What is dumped -/

/-- The pairs of an originator and a neighbor, in the order of the table. -/
def origDumpPairs (origHash : List (List (OrigNode δ))) :
    List (OrigNode δ × (NeighKey × NeighNode)) :=
  origHash.flatMap fun head => head.flatMap fun orig =>
    orig.neighList.map fun neigh => (orig, neigh)

/-- There is a router to the originator, and the neighbor is known on the interface. -/
def origEligible (ifOutgoing : IfKey) (p : OrigNode δ × (NeighKey × NeighNode)) : Bool :=
  (origRouterGet p.1 ifOutgoing).isSome && (p.2.2.ifinfoList.get ifOutgoing).isSome &&
    decide (ifOutgoing = none ∨ ifOutgoing = some p.2.1.ifIncoming)

/-- The entry of a pair. -/
def origEntry (ifname : ℕ → List Char) (ifOutgoing : IfKey)
    (p : OrigNode δ × (NeighKey × NeighNode)) : NlEntry :=
  ⟨.getOriginators, vOrigAttrs ifname p.1 p.2
    (((p.2.2.ifinfoList.get ifOutgoing).map NeighIfinfo.airtimeCost).getD 0)
    (origRouterGet p.1 ifOutgoing == some p.2.1)⟩

/-- The pairs of a client and an originator, in the order of the table. -/
def ttDumpPairs (globalHash : List (List TtGlobalEntry)) : List (TtGlobalEntry × TtOrigListEntry) :=
  globalHash.flatMap fun head => head.flatMap fun common =>
    common.origList.map fun orig => (common, orig)

/-- The originator has the VLAN of the client. -/
def ttEligible (tt : TtPriv) (p : TtGlobalEntry × TtOrigListEntry) : Bool :=
  (ttDumpVlan tt p.1 p.2).isSome

/-- The entry of a pair. -/
def ttEntry (cmp : NeighNode → IfKey → NeighNode → IfKey → ℤ) (bat : BatPriv δ) (tt : TtPriv)
    (p : TtGlobalEntry × TtOrigListEntry) : NlEntry :=
  let vlan := (ttDumpVlan tt p.1 p.2).getD (⟨p.2.origNode, false, 0, none, 0, []⟩, ⟨p.1.vid, 0, 0⟩)
  ⟨.getTranstableGlobal, ttGlobalAttrs p.1 p.2 vlan.1 vlan.2.crc
    (some p.2 == (transtableBestOrig cmp bat p.1).map Prod.fst)⟩

/-- The neighbors on one interface or on all, in their order. -/
def neighDumpPairs (singleHardif : Option HardIface) (hardIfaces : List HardIface) :
    List (HardIface × HardifNeighNode) :=
  ((singleHardif.map fun hardIface => [hardIface]).getD hardIfaces).flatMap fun hardIface =>
    hardIface.neighList.map fun hardifNeigh => (hardIface, hardifNeigh)

/-- The entry of a neighbor. -/
def neighEntry (ifname : ℕ → List Char) (p : HardIface × HardifNeighNode) : NlEntry :=
  ⟨.getNeighbors, [.neighAddress p.2.addr, .hardIfname (ifname p.1.ifindex),
    .hardIfindex p.1.ifindex, .lastSeenMsecs, .throughput p.2.airtimeCost]⟩

/-- **The messages have the given entries**, each once and in their order: if each message has room
for any one of them, then these are in the messages before the first one without an entry. -/
def Dumped {σ : Type*} (dump : NlMsg → σ → NlMsg × σ) (start : σ) (entries : List NlEntry) : Prop :=
  ∀ caps : ℕ → ℕ, (∀ k, ∀ e ∈ entries, e.size ≤ caps k) →
    ∃ n, message dump caps start n = [] ∧ (∀ k < n, message dump caps start k ≠ []) ∧
      (List.range n).flatMap (message dump caps start) = entries

/-! ### Dumps of items -/

/-- Selected items with their entries. -/
lemma map_filter_eq_flatMap {α β : Type*} (p : α → Bool) (f : α → β) (xs : List α) :
    (xs.filter p).map f = xs.flatMap fun x => if p x then [f x] else [] := by
  induction xs with
  | nil => rfl
  | cons x xs ih =>
    rw [List.flatMap_cons, ← ih, List.filter_cons]
    split_ifs <;> rfl

/-- **Dumps of hash tables** go on where they stopped. -/
lemma hashDump_continues {α : Type*} {dumpBucket : Dump NlEntry (ℕ × ℕ) (List α)}
    {rest : ℕ × ℕ → List α → List NlEntry}
    (h : Resumes NlEntry.size dumpBucket rest (0, 0)) (table : List (List α)) :
    Continues NlEntry.size (hashDump dumpBucket table)
      fun args => listRest rest (0, 0) args table := by
  have hloop : ∀ msg (args : ℕ × ℕ × ℕ), loop dumpBucket 0 args.1 msg args.2 (table.drop args.1) =
      loop dumpBucket args.1 0 msg args.2 table := fun msg args => loop_start args.1 _ _
  refine Continues.of_resumes h table (fun args => args) ?_ ?_
  · intro msg args i hsome
    unfold hashDump
    rw [hloop]
    obtain ⟨r, hr⟩ : ∃ r, loop dumpBucket args.1 0 msg args.2 table = r := ⟨_, rfl⟩
    obtain ⟨msg', pos', stop⟩ := r
    rw [hr] at hsome ⊢
    obtain rfl : stop = some i := hsome
    exact ⟨rfl, rfl⟩
  · intro msg args hnone
    unfold hashDump
    rw [hloop]
    obtain ⟨r, hr⟩ : ∃ r, loop dumpBucket args.1 0 msg args.2 table = r := ⟨_, rfl⟩
    obtain ⟨msg', pos', stop⟩ := r
    rw [hr] at hnone ⊢
    obtain rfl : stop = none := hnone
    exact ⟨rfl, fun _ => le_max_right _ _⟩

/-- `batadv_v_orig_dump_entry`: the neighbors of an originator. -/
lemma vOrigDumpEntry_resumes (ifname : ℕ → List Char) (ifOutgoing : IfKey) :
    Resumes NlEntry.size (vOrigDumpEntry (δ := δ) ifname ifOutgoing)
      (fun sub orig => (((orig.neighList.drop sub).map fun neigh => (orig, neigh)).filter
        (origEligible ifOutgoing)).map (origEntry ifname ifOutgoing)) 0 := by
  -- the neighbors of an originator, one by one
  have hlist : ∀ sub (orig : OrigNode δ),
      (((orig.neighList.drop sub).map fun neigh => (orig, neigh)).filter
        (origEligible ifOutgoing)).map (origEntry ifname ifOutgoing) =
      (orig.neighList.drop sub).flatMap fun neigh => if origEligible ifOutgoing (orig, neigh) then
        [origEntry ifname ifOutgoing (orig, neigh)] else [] := fun sub orig => by
    rw [map_filter_eq_flatMap, List.flatMap_map]
  have hleaves : ∀ orig : OrigNode δ, ∀ best, origRouterGet orig ifOutgoing = some best →
      Resumes NlEntry.size (leaves (fun msg neigh =>
        vOrigDumpSubentry ifname ifOutgoing msg orig neigh (neigh.1 == best)) (-EMSGSIZE))
        (fun sub neighs => (neighs.drop sub).flatMap fun neigh =>
          if origEligible ifOutgoing (orig, neigh) then
            [origEntry ifname ifOutgoing (orig, neigh)] else []) 0 := by
    intro orig best hbest
    refine Resumes.leaves (fun msg neigh => ?_) (by decide)
    unfold vOrigDumpSubentry origEligible
    rw [hbest]
    cases hifinfo : neigh.2.ifinfoList.get ifOutgoing with
    | none => simp
    | some ifinfo =>
      by_cases hout : ifOutgoing ≠ none ∧ ifOutgoing ≠ some neigh.1.ifIncoming
      · have hno : ¬ (ifOutgoing = none ∨ ifOutgoing = some neigh.1.ifIncoming) :=
          not_or.2 hout
        simp only [if_pos hout, decide_eq_false hno, Bool.and_false]
        simp
      · have hyes : ifOutgoing = none ∨ ifOutgoing = some neigh.1.ifIncoming := by
          by_contra hno
          exact hout (not_or.1 hno)
        have hentry : origEntry ifname ifOutgoing (orig, neigh) = ⟨.getOriginators,
            vOrigAttrs ifname orig neigh ifinfo.airtimeCost (neigh.1 == best)⟩ := by
          simp [origEntry, hifinfo, hbest, BEq.comm (a := best)]
        simp only [if_neg hout, decide_eq_true hyes, Option.isSome_some, Bool.and_true, if_true,
          hentry]
        obtain ⟨hok, herr⟩ := genlmsgPut_spec msg .getOriginators
          (vOrigAttrs ifname orig neigh ifinfo.airtimeCost (neigh.1 == best))
        exact ⟨hok, fun h => ⟨(herr h).1, _, [], rfl, (herr h).2⟩⟩
  constructor
  · intro msg sub orig hzero
    unfold vOrigDumpEntry at hzero ⊢
    cases hbest : origRouterGet orig ifOutgoing with
    | none =>
      have hnil : ∀ neigh, origEligible ifOutgoing (orig, neigh) = false := fun neigh => by
        simp [origEligible, hbest]
      refine ⟨?_, rfl⟩
      rw [hlist, List.flatMap_eq_nil_iff.2 fun neigh _ => if_neg (by rw [hnil]; decide)]
      exact msg.append_nil.symm
    | some best =>
      rw [hbest] at hzero
      simp only at hzero ⊢
      rw [hlist]
      exact (hleaves orig best hbest).complete msg sub orig.neighList hzero
  · intro msg sub orig hzero
    unfold vOrigDumpEntry at hzero ⊢
    cases hbest : origRouterGet orig ifOutgoing with
    | none =>
      rw [hbest] at hzero
      exact absurd rfl hzero
    | some best =>
      rw [hbest] at hzero
      simp only [hlist] at hzero ⊢
      exact (hleaves orig best hbest).abort msg sub orig.neighList hzero

/-- `batadv_tt_global_dump_entry`: the originators of a client. -/
lemma ttGlobalDumpEntry_resumes (cmp : NeighNode → IfKey → NeighNode → IfKey → ℤ)
    (bat : BatPriv δ) (tt : TtPriv) :
    Resumes NlEntry.size (ttGlobalDumpEntry cmp bat tt)
      (fun sub common => (((common.origList.drop sub).map fun orig => (common, orig)).filter
        (ttEligible tt)).map (ttEntry cmp bat tt)) 0 := by
  have hlist : ∀ sub (common : TtGlobalEntry),
      (((common.origList.drop sub).map fun orig => (common, orig)).filter
        (ttEligible tt)).map (ttEntry cmp bat tt) =
      (common.origList.drop sub).flatMap fun orig => if ttEligible tt (common, orig) then
        [ttEntry cmp bat tt (common, orig)] else [] := fun sub common => by
    rw [map_filter_eq_flatMap, List.flatMap_map]
  have hleaves : ∀ common : TtGlobalEntry,
      Resumes NlEntry.size (leaves (fun msg orig => ttGlobalDumpSubentry tt msg common orig
        (some orig == (transtableBestOrig cmp bat common).map Prod.fst)) (-EMSGSIZE))
        (fun sub origs => (origs.drop sub).flatMap fun orig => if ttEligible tt (common, orig) then
          [ttEntry cmp bat tt (common, orig)] else []) 0 := by
    intro common
    refine Resumes.leaves (fun msg orig => ?_) (by decide)
    unfold ttGlobalDumpSubentry ttEligible
    cases hvlan : ttDumpVlan tt common orig with
    | none => simp
    | some vlan =>
      obtain ⟨origNode, vlan⟩ := vlan
      have hentry : ttEntry cmp bat tt (common, orig) = ⟨.getTranstableGlobal,
          ttGlobalAttrs common orig origNode vlan.crc
            (some orig == (transtableBestOrig cmp bat common).map Prod.fst)⟩ := by
        simp only [ttEntry, hvlan, Option.getD_some]
      simp only [Option.isSome_some, if_true, hentry]
      obtain ⟨hok, herr⟩ := genlmsgPut_spec msg .getTranstableGlobal
        (ttGlobalAttrs common orig origNode vlan.crc
          (some orig == (transtableBestOrig cmp bat common).map Prod.fst))
      exact ⟨hok, fun h => ⟨(herr h).1, _, [], rfl, (herr h).2⟩⟩
  constructor
  · intro msg sub common hzero
    rw [hlist]
    exact (hleaves common).complete msg sub common.origList hzero
  · intro msg sub common hzero
    simp only [hlist]
    exact (hleaves common).abort msg sub common.origList hzero

/-- `batadv_v_neigh_dump_hardif`: the neighbors on an interface. -/
lemma vNeighDumpHardif_resumes (ifname : ℕ → List Char) :
    Resumes NlEntry.size (vNeighDumpHardif ifname)
      (fun idx hardIface => (hardIface.neighList.drop idx).flatMap fun hardifNeigh =>
        [neighEntry ifname (hardIface, hardifNeigh)]) 0 := by
  have hleaves : ∀ hardIface : HardIface,
      Resumes NlEntry.size (leaves (fun msg hardifNeigh =>
        vNeighDumpNeigh ifname msg hardIface hardifNeigh) (-EMSGSIZE))
        (fun idx neighs => (neighs.drop idx).flatMap fun hardifNeigh =>
          [neighEntry ifname (hardIface, hardifNeigh)]) 0 := by
    intro hardIface
    refine Resumes.leaves (fun msg hardifNeigh => ?_) (by decide)
    unfold vNeighDumpNeigh
    obtain ⟨hok, herr⟩ := genlmsgPut_spec msg .getNeighbors
      (neighEntry ifname (hardIface, hardifNeigh)).attrs
    exact ⟨hok, fun h => ⟨(herr h).1, _, [], rfl, (herr h).2⟩⟩
  exact ⟨fun msg idx hardIface => (hleaves hardIface).complete msg idx hardIface.neighList,
    fun msg idx hardIface => (hleaves hardIface).abort msg idx hardIface.neighList⟩

/-! ### The dumps -/

/-- Nothing is written yet of a hash table. -/
lemma listRest_start {α : Type*} (rest : ℕ → α → List NlEntry) (table : List (List α)) :
    listRest (listRest rest 0) (0, 0) (0, 0, 0) table =
      table.flatMap fun head => head.flatMap (rest 0) := by
  unfold listRest
  rw [List.drop_zero, pending_start]
  exact List.flatMap_congr fun head _ => pending_start head

/-- **A dump that goes on where it stopped has everything.** -/
lemma dumped_of_continues {σ : Type*} {dump : NlMsg → σ → NlMsg × σ} {left : σ → List NlEntry}
    {start : σ} {entries : List NlEntry} (h : Continues NlEntry.size dump left)
    (hleft : left start = entries) : Dumped dump start entries := by
  subst hleft
  exact fun caps hcaps => h.complete hcaps

/-- The dump of the originators. -/
lemma dumped_vOrigDump (ifname : ℕ → List Char) (ifOutgoing : IfKey)
    (origHash : List (List (OrigNode δ))) :
    Dumped (vOrigDump ifname ifOutgoing origHash) (0, 0, 0)
      (((origDumpPairs origHash).filter (origEligible ifOutgoing)).map
        (origEntry ifname ifOutgoing)) := by
  have hbucket := (vOrigDumpEntry_resumes (δ := δ) ifname ifOutgoing).list
    (show -EMSGSIZE ≠ 0 by decide)
  refine dumped_of_continues (hashDump_continues hbucket origHash) ?_
  rw [listRest_start, origDumpPairs]
  simp only [List.drop_zero, List.filter_flatMap, List.map_flatMap]

/-- The dump of the clients. -/
lemma dumped_ttGlobalDump (cmp : NeighNode → IfKey → NeighNode → IfKey → ℤ) (bat : BatPriv δ)
    (tt : TtPriv) {primaryIf : Option HardIface} (hactive : primaryIf.any HardIface.active = true)
    (globalHash : List (List TtGlobalEntry)) :
    Dumped (fun msg args => (ttGlobalDump cmp bat tt primaryIf globalHash msg args).1) (0, 0, 0)
      (((ttDumpPairs globalHash).filter (ttEligible tt)).map (ttEntry cmp bat tt)) := by
  have hdump : (fun msg args => (ttGlobalDump cmp bat tt primaryIf globalHash msg args).1) =
      hashDump (ttGlobalDumpBucket cmp bat tt) globalHash := by
    funext msg args
    rw [ttGlobalDump, hactive, Bool.not_true, if_neg Bool.false_ne_true]
  rw [hdump]
  have hbucket := (ttGlobalDumpEntry_resumes cmp bat tt).list (show -EMSGSIZE ≠ 0 by decide)
  refine dumped_of_continues (hashDump_continues hbucket globalHash) ?_
  rw [listRest_start, ttDumpPairs]
  simp only [List.drop_zero, List.filter_flatMap, List.map_flatMap]

/-- The dump of the neighbors.

**Proof sketch.** One interface is a list of one; a call after the last neighbor of it writes
nothing, whatever it leaves in the arguments. -/
lemma dumped_vNeighDump (ifname : ℕ → List Char) (singleHardif : Option HardIface)
    (hardIfaces : List HardIface) :
    Dumped (vNeighDump ifname singleHardif hardIfaces) (0, 0)
      ((neighDumpPairs singleHardif hardIfaces).map (neighEntry ifname)) := by
  have hentries : ∀ ifaces : List HardIface,
      listRest (fun idx (hardIface : HardIface) =>
        (hardIface.neighList.drop idx).flatMap fun hardifNeigh =>
          [neighEntry ifname (hardIface, hardifNeigh)]) 0 (0, 0) ifaces =
      (ifaces.flatMap fun hardIface => hardIface.neighList.map
        fun hardifNeigh => (hardIface, hardifNeigh)).map (neighEntry ifname) := by
    intro ifaces
    rw [listRest, List.drop_zero, pending_start, List.map_flatMap]
    refine List.flatMap_congr fun hardIface _ => ?_
    rw [List.drop_zero, List.map_map, List.map_eq_flatMap]
    rfl
  cases singleHardif with
  | none =>
    refine dumped_of_continues (Continues.of_resumes (vNeighDumpHardif_resumes ifname) hardIfaces
      (fun args => args) ?_ ?_) (hentries hardIfaces)
    · intro msg args i hsome
      unfold vNeighDump
      obtain ⟨r, hr⟩ : ∃ r, loop (vNeighDumpHardif ifname) args.1 0 msg args.2 hardIfaces = r :=
        ⟨_, rfl⟩
      obtain ⟨msg', idx', stop⟩ := r
      rw [hr] at hsome ⊢
      obtain rfl : stop = some i := hsome
      exact ⟨rfl, rfl⟩
    · intro msg args hnone
      unfold vNeighDump
      obtain ⟨r, hr⟩ : ∃ r, loop (vNeighDumpHardif ifname) args.1 0 msg args.2 hardIfaces = r :=
        ⟨_, rfl⟩
      obtain ⟨msg', idx', stop⟩ := r
      rw [hr] at hnone ⊢
      obtain rfl : stop = none := hnone
      exact ⟨rfl, fun _ => le_rfl⟩
  | some hardIface =>
    have hone : ∀ msg (args : ℕ × ℕ), loop (vNeighDumpHardif ifname) args.1 0 msg args.2
        [hardIface] = if 0 < args.1 then (msg, args.2, none)
          else if (vNeighDumpHardif ifname msg args.2 hardIface).2.2 = 0 then
            ((vNeighDumpHardif ifname msg args.2 hardIface).1,
              (vNeighDumpHardif ifname msg args.2 hardIface).2.1, none)
          else ((vNeighDumpHardif ifname msg args.2 hardIface).1,
            (vNeighDumpHardif ifname msg args.2 hardIface).2.1, some 0) := fun msg args => rfl
    refine dumped_of_continues (Continues.of_resumes (vNeighDumpHardif_resumes ifname) [hardIface]
      (fun args => args) ?_ ?_) (hentries [hardIface])
    · intro msg args i hsome
      rw [hone] at hsome ⊢
      unfold vNeighDump
      by_cases hargs : 0 < args.1
      · rw [if_pos hargs] at hsome
        exact absurd hsome (by simp)
      · rw [if_neg hargs] at hsome ⊢
        dsimp only
        rw [if_pos (Nat.eq_zero_of_not_pos hargs)]
        by_cases hcode : (vNeighDumpHardif ifname msg args.2 hardIface).2.2 = 0
        · rw [if_pos hcode] at hsome
          exact absurd hsome (by simp)
        · rw [if_neg hcode] at hsome ⊢
          obtain rfl := Option.some.inj hsome
          rw [if_neg hcode]
          exact ⟨rfl, rfl⟩
    · intro msg args hnone
      rw [hone] at hnone ⊢
      unfold vNeighDump
      by_cases hargs : 0 < args.1
      · dsimp only
        rw [if_pos hargs, if_neg hargs.ne']
        refine ⟨rfl, fun hne => absurd ?_ hne⟩
        rw [listRest, List.drop_eq_nil_of_le hargs]
        rfl
      · rw [if_neg hargs] at hnone ⊢
        dsimp only
        rw [if_pos (Nat.eq_zero_of_not_pos hargs)]
        by_cases hcode : (vNeighDumpHardif ifname msg args.2 hardIface).2.2 = 0
        · rw [if_pos hcode, if_pos hcode]
          exact ⟨rfl, fun _ => le_rfl⟩
        · rw [if_neg hcode] at hnone
          exact absurd hnone (by simp)

/-- **Netlink dumps are complete and free of repetitions**: for every table and all messages that
have room for any one entry, the messages have the eligible pairs of an originator and a neighbor,
the pairs of a client and an originator that has the VLAN of the client, and the neighbors, each
once and in the order of the table.  The dump of the clients asks for an active primary interface,
and fails without writing anything if there is none. -/
theorem netlink_dumps_complete (ifname : ℕ → List Char)
    (cmp : NeighNode → IfKey → NeighNode → IfKey → ℤ) (bat : BatPriv δ) (tt : TtPriv) :
    (∀ (ifOutgoing : IfKey) (origHash : List (List (OrigNode δ))),
      Dumped (vOrigDump ifname ifOutgoing origHash) (0, 0, 0)
        (((origDumpPairs origHash).filter (origEligible ifOutgoing)).map
          (origEntry ifname ifOutgoing))) ∧
    (∀ (primaryIf : Option HardIface) (globalHash : List (List TtGlobalEntry)),
      (primaryIf.any HardIface.active = true →
        Dumped (fun msg args => (ttGlobalDump cmp bat tt primaryIf globalHash msg args).1) (0, 0, 0)
          (((ttDumpPairs globalHash).filter (ttEligible tt)).map (ttEntry cmp bat tt))) ∧
      (primaryIf.any HardIface.active = false →
        ∀ msg args, ttGlobalDump cmp bat tt primaryIf globalHash msg args =
          ((msg, args), -ENOENT))) ∧
    ∀ (singleHardif : Option HardIface) (hardIfaces : List HardIface),
      Dumped (vNeighDump ifname singleHardif hardIfaces) (0, 0)
        ((neighDumpPairs singleHardif hardIfaces).map (neighEntry ifname)) := by
  refine ⟨dumped_vOrigDump ifname, fun primaryIf globalHash =>
    ⟨fun hactive => dumped_ttGlobalDump cmp bat tt hactive globalHash, fun hnone msg args => ?_⟩,
    dumped_vNeighDump ifname⟩
  rw [ttGlobalDump, hnone, Bool.not_false, if_pos rfl]

/-- A node that has heard of one client, in a VLAN whose identifier has a number but no tag. -/
def untaggedVlanTt : TtPriv :=
  Run.final (ttGlobalStep fun n => BitVec.ofNat 64 n) (.new [0]) untaggedVlanCalls

/-- An active primary interface. -/
def activePrimaryIf : HardIface := ⟨1, 0x020000000009, true, 0, []⟩

/-- **A client whose VLAN is unknown** is left out: its originator has no VLAN for an identifier
that is not valid, and the first message has no entry. -/
theorem tt_global_dump_leaves_out :
    (ttDumpPairs [untaggedVlanTt.globalHash]).length = 1 ∧
      ¬ Dumped (fun msg args => (ttGlobalDump vNeighCmp
          ⟨⟨0, 0, 0, 0⟩, [], ([] : Table EthAddr (OrigNode Unit)), []⟩ untaggedVlanTt
          (some activePrimaryIf) [untaggedVlanTt.globalHash] msg args).1) (0, 0, 0)
        ((ttDumpPairs [untaggedVlanTt.globalHash]).map
          (ttEntry vNeighCmp ⟨⟨0, 0, 0, 0⟩, [], ([] : Table EthAddr (OrigNode Unit)), []⟩
            untaggedVlanTt)) := by
  have hone : (ttDumpPairs [untaggedVlanTt.globalHash]).length = 1 := by decide +kernel
  refine ⟨hone, fun hdumped => ?_⟩
  obtain ⟨n, -, hne, hall⟩ := hdumped (fun _ => 1000) (fun _ => by decide +kernel)
  cases n with
  | zero =>
    have hlen := congrArg List.length hall
    rw [List.length_map, hone] at hlen
    exact absurd hlen (by decide)
  | succ n => exact hne 0 (Nat.succ_pos n) (by decide +kernel)

end Batadv
