import Mathlib.Data.List.Pairwise
import Mathlib.Logic.Function.Basic
import BatmanAdv.Lib.Reassembly
import BatmanAdv.Routing.Receive

set_option relaxedAutoImplicit false
set_option autoImplicit false

/-!
# Buffering and merging fragments (`fragmentation.c`, receiving side)

For each originator there are eight chains of fragments, one for each value of the sequence number
modulo 8.  A chain keeps its fragments from the highest number to the lowest, and knows that it is
complete only by the sum of their sizes.

Allocations may fail; which ones succeed while a fragment is handled is an argument, a `FragAlloc`.

## Main definitions

* `Batadv.FragSkb`, `Batadv.FragTableEntry`, `Batadv.FragTable` — a fragment, a chain and the
  chains of an originator.
* `Batadv.fragInitChain`, `Batadv.fragInsertPacket`, `Batadv.fragMergePackets`,
  `Batadv.fragSkbBuffer`, `Batadv.fragPurgeOrig` — the functions of these names.
* `Batadv.fragListInsert` — the search for the position of a fragment in its chain.

## Main results

* `Batadv.fragListInsert_eq_some`, `Batadv.fragListInsert_eq_none_iff` — in a descending chain the
  search fails exactly on a number that is there, and otherwise keeps the chain descending.
* `Batadv.fragInsertChain_spec` — all that happens to a chain when a fragment comes in.
* `Batadv.fragSkbBuffer_of_alloc` — buffering is the insertion, followed by the merge.
-/

namespace Batadv

/-- `BATADV_FRAG_BUFFER_COUNT`. -/
def FRAG_BUFFER_COUNT : ℕ := 8

/-- `BATADV_FRAG_MAX_FRAGMENTS`. -/
def FRAG_MAX_FRAGMENTS : ℕ := 16

/-- `BATADV_FRAG_MAX_FRAG_SIZE`. -/
def FRAG_MAX_FRAG_SIZE : ℕ := 1280

/-- `BATADV_FRAG_TIMEOUT`, in milliseconds. -/
def FRAG_TIMEOUT : ℕ := 10000

/-- `sizeof(struct batadv_frag_packet)`. -/
def FRAG_HDR_SIZE : ℕ := 20

/-- `batadv_frag_size_limit`: the maximum size of payload that can be fragmented. -/
def fragSizeLimit : ℕ := (FRAG_MAX_FRAG_SIZE - FRAG_HDR_SIZE) * FRAG_MAX_FRAGMENTS

/-! ### The data -/

/-- A fragment: the header and what follows it. -/
structure FragSkb where
  header : FragHeader
  payload : List U8
deriving DecidableEq, Repr

/-- `skb->len`. -/
def FragSkb.len (skb : FragSkb) : ℕ := FRAG_HDR_SIZE + skb.payload.length

/-- `struct batadv_frag_list_entry`. -/
structure FragListEntry where
  skb : FragSkb
  no : BitVec 4
deriving DecidableEq, Repr

/-- `struct batadv_frag_table_entry`: a chain of fragments. -/
structure FragTableEntry where
  fragmentList : List FragListEntry
  timestamp : Jiffies
  seqno : U16
  size : U16
  totalSize : U16
deriving DecidableEq, Repr

/-- `orig_node->fragments`. -/
abbrev FragTable := Fin FRAG_BUFFER_COUNT → FragTableEntry

/-- The chains of an originator that `batadv_orig_node_new` creates, in zeroed memory. -/
def fragTableInit : FragTable := fun _ => ⟨[], 0, 0, 0, 0⟩

/-- The chain that fragments with a sequence number belong to. -/
def fragBucket (seqno : U16) : Fin FRAG_BUFFER_COUNT :=
  ⟨seqno.toNat % FRAG_BUFFER_COUNT, Nat.mod_lt _ (by decide)⟩

/-- Which allocations succeed while a fragment is handled. -/
structure FragAlloc where
  /-- `skb_linearize`. -/
  linearize : Bool
  /-- The memory for the list entry. -/
  entry : Bool
  /-- `pskb_expand_head`. -/
  expand : Bool
deriving DecidableEq, Repr

/-! ### Inserting a fragment -/

/-- `batadv_frag_clear_chain` on the list of a chain, with the size set to 0 after it as both
callers do. -/
def FragTableEntry.clear (chain : FragTableEntry) : FragTableEntry :=
  { chain with fragmentList := [], size := 0 }

/-- `batadv_frag_init_chain`: make the chain ready for a fragment with the sequence number; `true`
if the chain is new and empty. -/
def fragInitChain (chain : FragTableEntry) (seqno : U16) : FragTableEntry × Bool :=
  if chain.seqno = seqno then (chain, false)
  else ({ chain with fragmentList := [], size := 0, seqno := seqno }, true)

/-- The loop of `batadv_frag_insert_packet` that finds the position of a fragment, from the highest
number to the lowest.  `none` when the fragment already exists; past the last entry it goes behind
that. -/
def fragListInsert (new : FragListEntry) : List FragListEntry → Option (List FragListEntry)
  | [] => some [new]
  | curr :: rest =>
    if curr.no = new.no then none
    else if curr.no < new.no then some (new :: curr :: rest)
    else (fragListInsert new rest).map (curr :: ·)

/-- What `batadv_frag_insert_packet` does from the label `out` on: clear a chain that became too
big or has fragments of different packets, and hand a complete chain over to the caller. -/
def fragCheckChain (chain : FragTableEntry) (h : FragHeader) :
    FragTableEntry × List FragListEntry :=
  if fragSizeLimit < chain.size.toNat ∨ chain.totalSize ≠ h.totalSize ∨
      fragSizeLimit < chain.totalSize.toNat then (chain.clear, [])
  else if h.totalSize = chain.size then (chain.clear, chain.fragmentList)
  else (chain, [])

/-- What the insertion of a fragment comes to: the chain, the list that is handed over to be merged,
and the return value. -/
structure FragInserted where
  chain : FragTableEntry
  chainOut : List FragListEntry
  ret : Bool
deriving DecidableEq, Repr

/-- The chain with a fragment added to its list and its size. -/
def FragTableEntry.grow (chain : FragTableEntry) (jiffies : Jiffies) (skb : FragSkb)
    (list : List FragListEntry) : FragTableEntry :=
  { chain with
    fragmentList := list
    size := chain.size + BitVec.ofNat 16 (skb.len - FRAG_HDR_SIZE)
    timestamp := jiffies }

/-- The part of `batadv_frag_insert_packet` that runs under the lock of the chain. -/
def fragInsertChain (jiffies : Jiffies) (chain : FragTableEntry) (skb : FragSkb) : FragInserted :=
  let new : FragListEntry := ⟨skb, skb.header.no⟩
  let finish (chain : FragTableEntry) (ret : Bool) : FragInserted :=
    ⟨(fragCheckChain chain skb.header).1, (fragCheckChain chain skb.header).2, ret⟩
  match fragInitChain chain skb.header.seqno with
  | (chain, true) =>
    finish
      { chain with
        fragmentList := [new]
        size := BitVec.ofNat 16 (skb.len - FRAG_HDR_SIZE)
        timestamp := jiffies
        totalSize := skb.header.totalSize } true
  | (chain, false) =>
    -- without a last entry there is no position, and the fragment is not buffered
    if chain.fragmentList.isEmpty then finish chain false
    else
      match fragListInsert new chain.fragmentList with
      | none => ⟨chain, [], false⟩
      | some list => finish (chain.grow jiffies skb list) true

/-- `batadv_frag_insert_packet`. -/
def fragInsertPacket (table : FragTable) (skb : FragSkb) (jiffies : Jiffies) (alloc : FragAlloc) :
    FragTable × List FragListEntry × Bool :=
  if !alloc.linearize || !alloc.entry then (table, [], false)
  else
    let bucket := fragBucket skb.header.seqno
    let r := fragInsertChain jiffies (table bucket) skb
    (Function.update table bucket r.chain, r.chainOut, r.ret)

/-! ### Merging a chain -/

/-- A merged packet: its bytes, and how many bytes were reserved for the fragments after the first
and how many of them were put there. -/
structure MergedSkb where
  data : List U8
  reserved : ℤ
  copied : ℕ
deriving DecidableEq, Repr

/-- The sum of the payload lengths of a chain, as a number. -/
def fragPayloadSum (list : List FragListEntry) : ℕ :=
  Reassembly.weight (fun e => e.skb.payload.length) list

/-- `batadv_frag_merge_packets`; `none` when the first fragment cannot be expanded.  The empty
chain is not passed to it. -/
def fragMergePackets (alloc : FragAlloc) : List FragListEntry → Option MergedSkb
  | [] => none
  | entry :: chain =>
    if !alloc.expand then none
    else some
      { data := entry.skb.payload ++ chain.flatMap (fun e => e.skb.payload)
        reserved := (entry.skb.header.totalSize.toNat + FRAG_HDR_SIZE : ℤ) - entry.skb.len
        copied := fragPayloadSum chain }

/-- The outcomes of `batadv_frag_skb_buffer`: the packet is merged, the fragment is buffered, or it
is dropped. -/
inductive FragResult
  | merged (skb : MergedSkb)
  | buffered
  | dropped
deriving DecidableEq, Repr

/-- What `batadv_frag_skb_buffer` does: the chains it leaves, the chain it hands to
`batadv_frag_merge_packets` (empty when there is none), and the outcome. -/
structure FragBuffered where
  table : FragTable
  handed : List FragListEntry
  result : FragResult

/-- `batadv_frag_skb_buffer`: buffer a fragment for later merge. -/
def fragSkbBuffer (table : FragTable) (skb : FragSkb) (jiffies : Jiffies) (alloc : FragAlloc) :
    FragBuffered :=
  match fragInsertPacket table skb jiffies alloc with
  | (table, _, false) => ⟨table, [], .dropped⟩
  | (table, [], true) => ⟨table, [], .buffered⟩
  | (table, head, true) =>
    match fragMergePackets alloc head with
    | none => ⟨table, head, .dropped⟩
    | some skbOut => ⟨table, head, .merged skbOut⟩

/-! ### Purging -/

/-- `batadv_frag_check_entry`: the chain has fragments and has timed out. -/
def fragCheckEntry (msecsToJiffies : ℕ → Jiffies) (jiffies : Jiffies) (chain : FragTableEntry) :
    Bool :=
  !chain.fragmentList.isEmpty && hasTimedOut msecsToJiffies jiffies chain.timestamp FRAG_TIMEOUT

/-- `batadv_frag_purge_orig`, with `none` for the missing callback. -/
def fragPurgeOrig (table : FragTable) (checkCb : Option (FragTableEntry → Bool)) : FragTable :=
  fun i =>
    if checkCb.all (fun check => check (table i)) then (table i).clear else table i

/-! ### The search for the position -/

/-- The numbers of a chain are strictly descending. -/
def FragDescending (list : List FragListEntry) : Prop :=
  list.Pairwise (fun a b => b.no.toNat < a.no.toNat)

instance : Std.Irrefl (fun a b : FragListEntry => b.no.toNat < a.no.toNat) where
  irrefl _ := lt_irrefl _

instance : Std.Antisymm (fun a b : FragListEntry => b.no.toNat < a.no.toNat) where
  antisymm _ _ hab hba := absurd hab (lt_asymm hba)

/-- A number is there only once. -/
lemma FragDescending.eq_of_no_eq {list : List FragListEntry} (h : FragDescending list)
    {a b : FragListEntry} (ha : a ∈ list) (hb : b ∈ list) (heq : a.no = b.no) : a = b := by
  by_contra hne
  have hsymm : Std.Symm (fun a b : FragListEntry => a.no ≠ b.no) := ⟨fun _ _ h => h.symm⟩
  have hno : list.Pairwise (fun a b => a.no ≠ b.no) := h.imp fun hlt he => by
    rw [he] at hlt
    exact lt_irrefl _ hlt
  exact hno.forall ha hb hne heq

/-- A fragment that found its position was added to the chain, and a descending chain stays
descending.

**Proof sketch.** Induction along the search: all entries before the position have a higher
number. -/
lemma fragListInsert_eq_some {new : FragListEntry} {list list' : List FragListEntry}
    (h : fragListInsert new list = some list') :
    list'.Perm (new :: list) ∧ (FragDescending list → FragDescending list') := by
  induction list generalizing list' with
  | nil =>
    obtain rfl := Option.some.inj h
    exact ⟨List.Perm.refl _, fun _ => List.pairwise_singleton _ _⟩
  | cons curr rest ih =>
    rw [fragListInsert] at h
    split at h
    · cases h
    next hne =>
      have hnat : curr.no.toNat ≠ new.no.toNat := fun heq => hne (BitVec.eq_of_toNat_eq heq)
      split at h
      · next hlt =>
        obtain rfl := Option.some.inj h
        have hlt : curr.no.toNat < new.no.toNat := BitVec.lt_def.1 hlt
        refine ⟨List.Perm.refl _, fun hdesc => List.pairwise_cons.2 ⟨fun e he => ?_, hdesc⟩⟩
        rcases List.mem_cons.1 he with rfl | he
        · exact hlt
        · exact lt_trans ((List.pairwise_cons.1 hdesc).1 e he) hlt
      · next hge =>
        have hge : ¬ curr.no.toNat < new.no.toNat := fun hlt => hge (BitVec.lt_def.2 hlt)
        obtain ⟨list₁, hrest, rfl⟩ := Option.map_eq_some_iff.1 h
        obtain ⟨hperm, hkeep⟩ := ih hrest
        refine ⟨(hperm.cons curr).trans (List.Perm.swap new curr rest), fun hdesc => ?_⟩
        obtain ⟨hcurr, hdesc⟩ := List.pairwise_cons.1 hdesc
        refine List.pairwise_cons.2 ⟨fun e he => ?_, hkeep hdesc⟩
        rcases List.mem_cons.1 (hperm.mem_iff.1 he) with rfl | he
        · omega
        · exact hcurr e he

/-- In a descending chain the search fails exactly on a number that is there.

**Proof sketch.** Induction along the search; where it stops before a lower number, the rest of the
chain has lower numbers still. -/
lemma fragListInsert_eq_none_iff {new : FragListEntry} {list : List FragListEntry}
    (hdesc : FragDescending list) :
    fragListInsert new list = none ↔ ∃ e ∈ list, e.no = new.no := by
  induction list with
  | nil => simp [fragListInsert]
  | cons curr rest ih =>
    obtain ⟨hcurr, hrest⟩ := List.pairwise_cons.1 hdesc
    rw [fragListInsert]
    split
    · next heq => simp [heq]
    · next hne =>
      split
      · next hlt =>
        have hlt : curr.no.toNat < new.no.toNat := BitVec.lt_def.1 hlt
        have hnot : ¬ ∃ e ∈ curr :: rest, e.no = new.no := by
          rintro ⟨e, he, heq⟩
          rcases List.mem_cons.1 he with rfl | he
          · exact hne heq
          · have := hcurr e he
            rw [heq] at this
            omega
        exact iff_of_false (by simp) hnot
      · simp [hne, ih hrest]

/-! ### What happens to a chain -/

/-- Everything the insertion of a fragment can do to a chain. -/
inductive FragStep (jiffies : Jiffies) (chain : FragTableEntry) (skb : FragSkb) :
    FragInserted → Prop
  /-- A new packet starts. -/
  | fresh {chain₁ : FragTableEntry} {out : List FragListEntry} : chain.seqno ≠ skb.header.seqno →
      fragCheckChain ⟨[⟨skb, skb.header.no⟩], jiffies, skb.header.seqno,
        BitVec.ofNat 16 skb.payload.length, skb.header.totalSize⟩ skb.header = (chain₁, out) →
      FragStep jiffies chain skb ⟨chain₁, out, true⟩
  /-- The chain has the sequence number, but no fragment. -/
  | noPosition {chain₁ : FragTableEntry} {out : List FragListEntry} :
      chain.seqno = skb.header.seqno → chain.fragmentList = [] →
      fragCheckChain chain skb.header = (chain₁, out) →
      FragStep jiffies chain skb ⟨chain₁, out, false⟩
  /-- The fragment is there already. -/
  | duplicate : chain.seqno = skb.header.seqno → chain.fragmentList ≠ [] →
      fragListInsert ⟨skb, skb.header.no⟩ chain.fragmentList = none →
      FragStep jiffies chain skb ⟨chain, [], false⟩
  /-- The fragment continues the packet. -/
  | continued {chain₁ : FragTableEntry} {out list : List FragListEntry} :
      chain.seqno = skb.header.seqno → chain.fragmentList ≠ [] →
      fragListInsert ⟨skb, skb.header.no⟩ chain.fragmentList = some list →
      fragCheckChain { chain with
        fragmentList := list
        size := chain.size + BitVec.ofNat 16 skb.payload.length
        timestamp := jiffies } skb.header = (chain₁, out) →
      FragStep jiffies chain skb ⟨chain₁, out, true⟩

/-- **What the insertion of a fragment does to its chain** is one of these steps. -/
theorem fragInsertChain_spec (jiffies : Jiffies) (chain : FragTableEntry) (skb : FragSkb) :
    FragStep jiffies chain skb (fragInsertChain jiffies chain skb) := by
  have hlen : skb.len - FRAG_HDR_SIZE = skb.payload.length := Nat.add_sub_cancel_left _ _
  unfold fragInsertChain fragInitChain FragTableEntry.grow
  rw [hlen]
  by_cases hseq : chain.seqno = skb.header.seqno
  · simp only [if_pos hseq]
    by_cases hempty : chain.fragmentList = []
    · simp only [hempty, List.isEmpty_nil, if_true]
      exact .noPosition hseq hempty rfl
    · have hisEmpty : chain.fragmentList.isEmpty = false := by simpa using hempty
      simp only [hisEmpty, Bool.false_eq_true, if_false]
      split
      · next hnone => exact .duplicate hseq hempty hnone
      · next hsome => exact .continued hseq hempty hsome rfl
  · simp only [if_neg hseq]
    exact .fresh hseq rfl

/-- The outcomes of the check: the chain is cleared, or it is within the limits and is handed over
or kept. -/
lemma fragCheckChain_cases {chain chain₁ : FragTableEntry} {h : FragHeader}
    {out : List FragListEntry} (hcheck : fragCheckChain chain h = (chain₁, out)) :
    (chain₁ = chain.clear ∧ out = [] ∧ (chain.size.toNat ≤ fragSizeLimit →
        chain.totalSize = h.totalSize → ¬ chain.totalSize.toNat ≤ fragSizeLimit)) ∨
      (chain.size.toNat ≤ fragSizeLimit ∧ chain.totalSize = h.totalSize ∧
        chain.totalSize.toNat ≤ fragSizeLimit ∧
        ((chain₁ = chain.clear ∧ out = chain.fragmentList ∧ h.totalSize = chain.size) ∨
          (chain₁ = chain ∧ out = [] ∧ h.totalSize ≠ chain.size))) := by
  unfold fragCheckChain at hcheck
  split at hcheck
  · next hbad =>
    obtain ⟨rfl, rfl⟩ := Prod.mk.inj hcheck
    refine Or.inl ⟨rfl, rfl, fun hsize htotal hle => ?_⟩
    rcases hbad with hbad | hbad | hbad
    · omega
    · exact hbad htotal
    · omega
  · next hgood =>
    obtain ⟨hsize, htotal, hle⟩ := by simpa only [not_or, not_lt, not_not] using hgood
    refine Or.inr ⟨hsize, htotal, hle, ?_⟩
    split at hcheck
    · next heq =>
      obtain ⟨rfl, rfl⟩ := Prod.mk.inj hcheck
      exact Or.inl ⟨rfl, rfl, heq⟩
    · next hne =>
      obtain ⟨rfl, rfl⟩ := Prod.mk.inj hcheck
      exact Or.inr ⟨rfl, rfl, hne⟩

/-- The payload sum does not depend on the order. -/
lemma fragPayloadSum_perm {l l' : List FragListEntry} (h : l.Perm l') :
    fragPayloadSum l = fragPayloadSum l' := Reassembly.weight_perm _ h

@[simp] lemma fragPayloadSum_cons (e : FragListEntry) (l : List FragListEntry) :
    fragPayloadSum (e :: l) = e.skb.payload.length + fragPayloadSum l :=
  Reassembly.weight_cons _ e l

/-! ### Buffering -/

/-- A fragment that is not buffered completes no chain. -/
lemma fragInsertChain_chainOut_of_not_ret (jiffies : Jiffies) (chain : FragTableEntry)
    (skb : FragSkb) (h : (fragInsertChain jiffies chain skb).ret = false) :
    (fragInsertChain jiffies chain skb).chainOut = [] := by
  have hstep := fragInsertChain_spec jiffies chain skb
  generalize fragInsertChain jiffies chain skb = r at hstep h ⊢
  cases hstep with
  | fresh | continued => cases h
  | duplicate => rfl
  | noPosition _ hempty hcheck =>
    rcases fragCheckChain_cases hcheck with ⟨-, hnil, -⟩ | ⟨-, -, -, ⟨-, hall, -⟩ | ⟨-, hnil, -⟩⟩
    · exact hnil
    · exact hall.trans hempty
    · exact hnil

/-- When the memory for the list entry can be had, the fragment goes to its chain, and what is
handed over is what the insertion hands over. -/
lemma fragSkbBuffer_of_alloc (table : FragTable) (skb : FragSkb) (jiffies : Jiffies)
    (alloc : FragAlloc) (hlin : alloc.linearize = true) (hentry : alloc.entry = true) :
    let r := fragInsertChain jiffies (table (fragBucket skb.header.seqno)) skb
    (fragSkbBuffer table skb jiffies alloc).table =
        Function.update table (fragBucket skb.header.seqno) r.chain ∧
      (fragSkbBuffer table skb jiffies alloc).handed = r.chainOut ∧
      (fragSkbBuffer table skb jiffies alloc).result =
        if r.ret = false then .dropped
        else if r.chainOut = [] then .buffered
        else ((fragMergePackets alloc r.chainOut).map FragResult.merged).getD .dropped := by
  have hnil := fragInsertChain_chainOut_of_not_ret jiffies (table (fragBucket skb.header.seqno)) skb
  unfold fragSkbBuffer fragInsertPacket
  simp only [hlin, hentry, Bool.not_true, Bool.or_self, Bool.false_eq_true, if_false]
  generalize fragInsertChain jiffies (table (fragBucket skb.header.seqno)) skb = r at hnil ⊢
  obtain ⟨chain, out, ret⟩ := r
  cases ret with
  | false => simpa using (hnil rfl).symm
  | true =>
    cases out with
    | nil => simp
    | cons entry rest => cases hmerge : fragMergePackets alloc (entry :: rest) <;> simp [hmerge]

/-- A fragment whose list entry cannot be allocated changes nothing. -/
lemma fragSkbBuffer_of_not_alloc (table : FragTable) (skb : FragSkb) (jiffies : Jiffies)
    {alloc : FragAlloc} (h : ¬ (alloc.linearize = true ∧ alloc.entry = true)) :
    fragSkbBuffer table skb jiffies alloc = ⟨table, [], .dropped⟩ := by
  have hfail : (!alloc.linearize || !alloc.entry) = true := by
    cases hlin : alloc.linearize <;> cases hentry : alloc.entry <;> simp_all
  simp [fragSkbBuffer, fragInsertPacket, hfail]

end Batadv
