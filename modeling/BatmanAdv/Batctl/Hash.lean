import BatmanAdv.Lib.LinkedList
import BatmanAdv.Main
import Mathlib.Data.BitVec
import Mathlib.Tactic.SplitIfs

set_option relaxedAutoImplicit false
set_option autoImplicit false

/-!
# The hash table of batctl (`batctl/hash.c`)

The functions that work on a table, as they read and write memory: a bucket that is not allocated
cannot be read or written, and a loop that follows the buckets runs as long as there is fuel.  Both
are the failure of a call here.  A table whose chains are linked lists in memory without common
buckets remains one, and what each function makes of the chains is described by one lemma.

## Main definitions

* `Batctl.HashCallbacks`, `Batctl.macCallbacks` — the callbacks of a table, and those of the list of
  hosts.
* `Batctl.Hashtable`, `Batctl.HashIt` — a table, and an iterator.
* `Batctl.hashAddBucket`, `Batctl.hashAdd`, `Batctl.hashRemoveBucket`, `Batctl.hashRemove`,
  `Batctl.hashResize`, `Batctl.hashIterate` — the functions.
* `Batctl.HashRep` — the chains of a table.

## Main results

* `Batctl.hashAddBucket_spec`, `Batctl.hashRemoveBucket_spec`, `Batctl.hashRemove_spec` — what
  becomes of the chains.
* `Batctl.hashResize_spec` — all elements are in the new table.
-/

namespace Batctl

open Batadv LinkedList

/-- **The callbacks of a table**, `hashdata_compare_cb` and `hashdata_choose_cb`: elements are
compared by their keys, and the index depends on the key alone. -/
structure HashCallbacks (α : Type) where
  /-- whether two elements have the same key -/
  compare : α → α → Bool
  /-- the index of an element in a table of some size -/
  choose : α → ℕ → ℕ
  compare_self : ∀ d, compare d d = true
  choose_eq : ∀ {d d'}, compare d d' = true → ∀ size, choose d size = choose d' size
  choose_lt : ∀ d {size}, 0 < size → choose d size < size

/-- A host of the list of hosts, `struct bat_host`. -/
structure BatHost where
  macAddr : EthAddr
  name : String
deriving DecidableEq

/-- What `choose_mac` makes of one byte. -/
def chooseMacByte (hash : U32) (key : U8) : U32 :=
  let hash := hash + key.setWidth 32
  let hash := hash + (hash <<< 10)
  hash ^^^ (hash >>> 6)

/-- `choose_mac`. -/
def chooseMac (host : BatHost) (size : ℕ) : ℕ :=
  let hash := host.macAddr.bytes.foldl chooseMacByte 0
  let hash := hash + (hash <<< 3)
  let hash := hash ^^^ (hash >>> 11)
  let hash := hash + (hash <<< 15)
  hash.toNat % size

/-- The callbacks of the list of hosts: `compare_mac` and `choose_mac`. -/
def macCallbacks : HashCallbacks BatHost where
  compare host host' := host.macAddr == host'.macAddr
  choose := chooseMac
  compare_self host := beq_self_eq_true host.macAddr
  choose_eq h size := by simp only [chooseMac, eq_of_beq h]
  choose_lt _ _ hsize := Nat.mod_lt _ hsize

/-- A table, `struct hashtable_t`: the first bucket of each chain, and the number of elements.  Its
size is the number of chains. -/
structure Hashtable where
  table : List (Option ℕ)
  elements : U32
deriving DecidableEq

/-- An iterator, `struct hash_it_t`.  `firstBucket` is the index of the slot that is pointed to. -/
structure HashIt where
  index : ℤ
  bucket : Option ℕ
  prevBucket : Option ℕ
  firstBucket : Option ℕ
deriving DecidableEq

variable {α : Type}

/-! ### Adding an element -/

/-- `hash_init` for a table of some size. -/
def hashInit (size : ℕ) : Hashtable := ⟨List.replicate size none, 0⟩

/-- `hash_new`, where memory is allocated or not. -/
def hashNew (alloc : Bool) (size : ℕ) : Option Hashtable :=
  if alloc then some (hashInit size) else none

/-- How the search for the end of a chain ends. -/
inductive HashEnd where
  | duplicate
  | tail (prevBucket : Option ℕ)
deriving DecidableEq

/-- The loop of `hash_add_bucket`. -/
def hashFindEnd (cb : HashCallbacks α) (mem : Mem α) (data : α) (checkDuplicate : Bool) :
    ℕ → Option ℕ → Option ℕ → Option HashEnd
  | 0, _, _ => none
  | _ + 1, none, prevBucket => some (.tail prevBucket)
  | fuel + 1, some bucketIt, _ =>
    (mem bucketIt).bind fun c =>
      if checkDuplicate && cb.compare c.data data then some .duplicate
      else hashFindEnd cb mem data checkDuplicate fuel c.next (some bucketIt)

/-- `hash_add_bucket`: whether the data was added. -/
def hashAddBucket (cb : HashCallbacks α) (fuel : ℕ) (mem : Mem α) (hash : Hashtable) (data : α)
    (bucket : ℕ) (checkDuplicate : Bool) : Option (Bool × Mem α × Hashtable) :=
  let index := cb.choose data hash.table.length
  hash.table[index]?.bind fun bucketIt =>
    (hashFindEnd cb mem data checkDuplicate fuel bucketIt none).bind fun
      | .duplicate => some (false, mem, hash)
      | .tail prevBucket => (mem bucket).bind fun _ =>
        let mem := Function.update mem bucket (some ⟨data, none⟩)
        match prevBucket with
        | none => some (true, mem, ⟨hash.table.set index (some bucket), hash.elements + 1⟩)
        | some prev => (mem prev).bind fun c =>
          some (true, Function.update mem prev (some { c with next := some bucket }),
            { hash with elements := hash.elements + 1 })

/-- `hash_add`, with the address of the allocated bucket and what is in it. -/
def hashAdd (cb : HashCallbacks α) (fuel : ℕ) (mem : Mem α) (hash : Hashtable) (data : α)
    (malloc : Option (ℕ × Cell α)) : Option (Bool × Mem α × Hashtable) :=
  match malloc with
  | none => some (false, mem, hash)
  | some (bucket, junk) =>
    (hashAddBucket cb fuel (Function.update mem bucket (some junk)) hash data bucket true).map
      fun r => if r.1 then r else (false, Function.update r.2.1 bucket none, r.2.2)

/-! ### Removing an element -/

/-- `hash_remove_bucket`: the data of the bucket that an iterator is at. -/
def hashRemoveBucket (mem : Mem α) (hash : Hashtable) (it : HashIt) :
    Option (α × Mem α × Hashtable) :=
  it.bucket.bind fun bucket => (mem bucket).bind fun c =>
    match it.prevBucket, it.firstBucket with
    | some prev, _ => (mem prev).bind fun p =>
      some (c.data,
        Function.update (Function.update mem prev (some { p with next := c.next })) bucket none,
        { hash with elements := hash.elements - 1 })
    | none, some first =>
      if first < hash.table.length then
        some (c.data, Function.update mem bucket none,
          ⟨hash.table.set first c.next, hash.elements - 1⟩)
      else none
    | none, none =>
      some (c.data, Function.update mem bucket none, { hash with elements := hash.elements - 1 })

/-- The loop of `hash_remove`. -/
def hashRemoveLoop (cb : HashCallbacks α) (mem : Mem α) (hash : Hashtable) (data : α) :
    ℕ → HashIt → Option (Option (α × Mem α × Hashtable))
  | 0, _ => none
  | fuel + 1, it =>
    match it.bucket with
    | none => some none
    | some bucket => (mem bucket).bind fun c =>
      if cb.compare c.data data then
        hash.table[it.index.toNat]?.bind fun head =>
          (hashRemoveBucket mem hash { it with
            firstBucket := if some bucket = head then some it.index.toNat else none }).map some
      else
        hashRemoveLoop cb mem hash data fuel
          { it with prevBucket := some bucket, bucket := c.next }

/-- `hash_remove`: the data that was removed, if it was found. -/
def hashRemove (cb : HashCallbacks α) (fuel : ℕ) (mem : Mem α) (hash : Hashtable) (data : α) :
    Option (Option (α × Mem α × Hashtable)) :=
  let index := cb.choose data hash.table.length
  hash.table[index]?.bind fun bucket =>
    hashRemoveLoop cb mem hash data fuel ⟨index, bucket, none, none⟩

/-! ### Resizing -/

/-- The inner loop of `hash_delete`, without a callback. -/
def hashFreeChain : ℕ → Mem α → Option ℕ → Option (Mem α)
  | 0, _, _ => none
  | _ + 1, mem, none => some mem
  | fuel + 1, mem, some bucket =>
    (mem bucket).bind fun c => hashFreeChain fuel (Function.update mem bucket none) c.next

/-- `hash_delete` without a callback. -/
def hashDelete (fuel : ℕ) (mem : Mem α) (hash : Hashtable) : Option (Mem α) :=
  hash.table.foldlM (hashFreeChain fuel) mem

/-- The inner loop of `hash_resize`, over the chain `i` of the old table. -/
def hashMoveChain (cb : HashCallbacks α) (walk i : ℕ) :
    ℕ → Mem α × Hashtable × Hashtable → Option (Mem α × Hashtable × Hashtable)
  | 0, _ => none
  | fuel + 1, (mem, hash, newHash) =>
    hash.table[i]?.bind fun
      | none => some (mem, hash, newHash)
      | some bucket => (mem bucket).bind fun c =>
        (hashAddBucket cb walk mem newHash c.data bucket false).bind fun r =>
          hashMoveChain cb walk i fuel
            (r.2.1, { hash with table := hash.table.set i c.next }, r.2.2)

/-- `hash_resize`: the new table, if it could be allocated. -/
def hashResize (cb : HashCallbacks α) (fuel : ℕ) (mem : Mem α) (hash : Hashtable) (size : ℕ)
    (alloc : Bool) : Option (Option (Mem α × Hashtable)) :=
  match hashNew alloc size with
  | none => some none
  | some newHash =>
    ((List.range hash.table.length).foldlM (fun s i => hashMoveChain cb fuel i fuel s)
      (mem, hash, newHash)).bind fun s =>
        (hashDelete fuel s.1 s.2.1).map fun mem => some (mem, s.2.2)

/-! ### Iterating -/

/-- The last loop of `hash_iterate`, from the slot `index` on. -/
def hashSearch : List (Option ℕ) → ℕ → Option HashIt
  | [], _ => none
  | none :: table, index => hashSearch table (index + 1)
  | some bucket :: _, index => some ⟨index, some bucket, none, some index⟩

/-- The end of `hash_iterate`: the next chain that is not empty, or the iterator is freed.  The
first component is the number of iterators that are allocated. -/
def hashForward (hash : Hashtable) (iters : ℕ) (it : HashIt) : ℕ × Option HashIt :=
  match hashSearch (hash.table.drop (it.index + 1).toNat) (it.index + 1).toNat with
  | some it => (iters, some it)
  | none => (iters - 1, none)

/-- The second half of `hash_iterate`: select the next bucket. -/
def hashSelectNext (mem : Mem α) (hash : Hashtable) (iters : ℕ) (it : HashIt) :
    Option (ℕ × Option HashIt) :=
  match it.bucket with
  | none => some (hashForward hash iters it)
  | some bucket => (mem bucket).bind fun c =>
    match c.next with
    | some next => some (iters, some
        { it with prevBucket := some bucket, bucket := some next, firstBucket := none })
    | none => some (hashForward hash iters it)

/-- `hash_iterate` on an iterator: the checks whether the bucket got removed, and the selection of
the next one. -/
def hashIterateNext (mem : Mem α) (hash : Hashtable) (iters : ℕ) (it : HashIt) :
    Option (ℕ × Option HashIt) :=
  match it.bucket with
  | none => hashSelectNext mem hash iters it
  | some bucket =>
    match it.firstBucket, it.prevBucket with
    | some first, _ => hash.table[first]?.bind fun head =>
      if head = some bucket then hashSelectNext mem hash iters it
      else match head with
        | some head => some (iters, some
            ⟨it.index, some head, none, some it.index.toNat⟩)
        | none => hashSelectNext mem hash iters { it with bucket := none }
    | none, some prev => (mem prev).bind fun p =>
      if p.next = some bucket then hashSelectNext mem hash iters it
      else hashSelectNext mem hash iters { it with bucket := some prev }
    | none, none => hashSelectNext mem hash iters it

/-- `hash_iterate`, with the iterator that is allocated for the first call as it is found in
memory. -/
def hashIterate (malloc : Option HashIt) (mem : Mem α) (hash : Hashtable) (iters : ℕ)
    (iterIn : Option HashIt) : Option (ℕ × Option HashIt) :=
  match iterIn with
  | some it => hashIterateNext mem hash iters it
  | none =>
    match malloc with
    | none => some (iters, none)
    | some it => hashIterateNext mem hash (iters + 1)
        { it with index := -1, bucket := none, prevBucket := none }

/-! ### The chains of a table -/

/-- **The chains of a table**, with the address of each bucket: they are linked in memory and have
no bucket in common, every element is in the chain of its index, and no two have the same key. -/
structure HashRep (cb : HashCallbacks α) (mem : Mem α) (hash : Hashtable)
    (chains : List (List (ℕ × α))) : Prop where
  table : hash.table = chains.map (headPtr none)
  linked : ∀ l ∈ chains, Linked mem none l
  nodup : (chains.flatten.map Prod.fst).Nodup
  elements : hash.elements = BitVec.ofNat 32 chains.flatten.length
  index : ∀ i l, chains[i]? = some l → ∀ c ∈ l, cb.choose c.2 chains.length = i
  distinct : ∀ l ∈ chains, l.Pairwise fun c c' => cb.compare c.2 c'.2 = false

/-- The iterator at the bucket `b` of chain `i`, behind the buckets `pre`. -/
def hashCursor (i : ℕ) (pre : List (ℕ × α)) (b : ℕ) : HashIt :=
  ⟨i, some b, lastPtr pre, if pre.isEmpty then some i else none⟩

variable {cb : HashCallbacks α} {mem mem' : Mem α} {hash : Hashtable}
  {before after chains : List (List (ℕ × α))} {chain chain' pre rest : List (ℕ × α)} {b : ℕ × α}

/-- A new table has empty chains. -/
lemma hashInit_rep (size : ℕ) : HashRep cb mem (hashInit size) (List.replicate size []) := by
  have hflat : (List.replicate size ([] : List (ℕ × α))).flatten = [] := by simp
  refine ⟨?_, ?_, ?_, ?_, ?_, ?_⟩
  · rw [List.map_replicate]
    rfl
  · intro l hl
    rw [List.eq_of_mem_replicate hl]
    trivial
  · rw [hflat]
    exact List.nodup_nil
  · rw [hflat]
    rfl
  · intro i l hl c hc
    rw [List.eq_of_mem_replicate (List.mem_of_getElem? hl)] at hc
    exact absurd hc (List.not_mem_nil)
  · intro l hl
    rw [List.eq_of_mem_replicate hl]
    exact List.Pairwise.nil

lemma HashRep.length (h : HashRep cb mem hash chains) : hash.table.length = chains.length := by
  rw [h.table, List.length_map]

/-- The slot of a chain. -/
lemma HashRep.slot (h : HashRep cb mem hash (before ++ chain :: after)) :
    hash.table[before.length]? = some (headPtr none chain) := by
  rw [h.table, List.map_append, List.getElem?_append_right (by simp)]
  simp

/-- The addresses of one chain are not those of another one. -/
lemma HashRep.not_mem (h : HashRep cb mem hash (before ++ chain :: after)) {l : List (ℕ × α)}
    (hl : l ∈ before ++ after) {a : ℕ} (ha : a ∈ chain.map Prod.fst) : a ∉ l.map Prod.fst := by
  have hnodup := h.nodup
  rw [List.flatten_append, List.flatten_cons, List.map_append, List.map_append,
    List.nodup_append] at hnodup
  obtain ⟨-, hright, hleft⟩ := hnodup
  rw [List.nodup_append] at hright
  intro hal
  rcases List.mem_append.1 hl with hl | hl
  · obtain ⟨c, hc, rfl⟩ := List.mem_map.1 hal
    exact hleft _ (List.mem_map_of_mem (List.mem_flatten_of_mem hl hc)) _
      (List.mem_append_left _ ha) rfl
  · obtain ⟨c, hc, rfl⟩ := List.mem_map.1 hal
    exact hright.2.2 _ ha _ (List.mem_map_of_mem (List.mem_flatten_of_mem hl hc)) rfl

/-- The other chains remain linked if only one chain is written. -/
lemma HashRep.linked_of_frame (h : HashRep cb mem hash (before ++ chain :: after))
    (hframe : ∀ l ∈ before ++ after, ∀ a ∈ l.map Prod.fst, a ∉ chain.map Prod.fst →
      mem' a = mem a) (hchain' : Linked mem' none chain') :
    ∀ l ∈ before ++ chain' :: after, Linked mem' none l := by
  intro l hl
  have hcases : l ∈ before ++ after ∨ l = chain' := by
    rw [List.mem_append, List.mem_cons] at hl
    rw [List.mem_append]
    tauto
  rcases hcases with hl | rfl
  · refine (h.linked l ?_).congr fun a ha => hframe l hl a ha fun hac => h.not_mem hl hac ha
    rw [List.mem_append, List.mem_cons]
    rw [List.mem_append] at hl
    tauto
  · exact hchain'

/-- The addresses of a chain. -/
lemma HashRep.nodup_chain (h : HashRep cb mem hash (before ++ chain :: after)) :
    (chain.map Prod.fst).Nodup := by
  have hsub : (chain.map Prod.fst).Sublist ((before ++ chain :: after).flatten.map Prod.fst) := by
    refine List.Sublist.map _ ?_
    rw [List.flatten_append, List.flatten_cons]
    exact (List.sublist_append_left _ _).trans (List.sublist_append_right _ _)
  exact h.nodup.sublist hsub

/-- The chain at its slot. -/
lemma getElem?_chain_iff (chain' : List (ℕ × α)) {i : ℕ} {l : List (ℕ × α)} :
    (before ++ chain :: after)[i]? = some l ↔
      (i ≠ before.length ∧ (before ++ chain' :: after)[i]? = some l) ∨
        (i = before.length ∧ l = chain) := by
  rcases lt_trichotomy i before.length with hi | rfl | hi
  · rw [List.getElem?_append_left hi, List.getElem?_append_left hi]
    simp [hi.ne]
  · simp [eq_comm]
  · obtain ⟨k, rfl⟩ : ∃ k, i = before.length + (k + 1) := ⟨i - before.length - 1, by omega⟩
    rw [List.getElem?_append_right (by omega), List.getElem?_append_right (by omega)]
    simp

/-- **A chain becomes shorter.** -/
lemma HashRep.sublist {hash' : Hashtable} (h : HashRep cb mem hash (before ++ chain :: after))
    (hsub : chain'.Sublist chain)
    (htable : hash'.table = (before ++ chain' :: after).map (headPtr none))
    (hlinked : ∀ l ∈ before ++ chain' :: after, Linked mem' none l)
    (helements : hash'.elements = BitVec.ofNat 32 (before ++ chain' :: after).flatten.length) :
    HashRep cb mem' hash' (before ++ chain' :: after) := by
  have hflat : (before ++ chain' :: after).flatten.Sublist (before ++ chain :: after).flatten := by
    rw [List.flatten_append, List.flatten_cons, List.flatten_append, List.flatten_cons]
    exact (List.Sublist.refl _).append (hsub.append (List.Sublist.refl _))
  refine ⟨htable, hlinked, h.nodup.sublist (hflat.map _), helements, ?_, ?_⟩
  · intro i l hl c hc
    have hlen : (before ++ chain' :: after).length = (before ++ chain :: after).length := by simp
    rw [hlen]
    rcases (getElem?_chain_iff chain).1 hl with ⟨-, hl⟩ | ⟨rfl, rfl⟩
    · exact h.index i l hl c hc
    · exact h.index _ chain (by simp) c (hsub.subset hc)
  · intro l hl
    rw [List.mem_append, List.mem_cons] at hl
    rcases hl with hl | rfl | hl
    · exact h.distinct l (List.mem_append_left _ hl)
    · exact (h.distinct chain (by simp)).sublist hsub
    · exact h.distinct l (by simp [hl])

/-- The number of elements after one more, or one less. -/
lemma elements_succ (n : ℕ) : BitVec.ofNat 32 n + 1 = BitVec.ofNat 32 (n + 1) := by
  rw [BitVec.ofNat_add]
  rfl

/-- **What `hash_remove_bucket` makes of the chains**, for an iterator at one of the buckets. -/
lemma hashRemoveBucket_spec (h : HashRep cb mem hash (before ++ (pre ++ b :: rest) :: after)) :
    ∃ mem' hash', hashRemoveBucket mem hash (hashCursor before.length pre b.1) =
        some (b.2, mem', hash') ∧
      HashRep cb mem' hash' (before ++ (pre ++ rest) :: after) := by
  have hlinked : Linked mem none (pre ++ b :: rest) := h.linked _ (by simp)
  have hb : mem b.1 = some ⟨b.2, headPtr none rest⟩ := (linked_append.1 hlinked).2.1
  have hnodup := h.nodup_chain
  have hsub : (pre ++ rest).Sublist (pre ++ b :: rest) :=
    (List.Sublist.refl _).append (List.sublist_cons_self _ _)
  have helements : hash.elements - 1 =
      BitVec.ofNat 32 (before ++ (pre ++ rest) :: after).flatten.length := by
    have hlen : (before ++ (pre ++ b :: rest) :: after).flatten.length =
        (before ++ (pre ++ rest) :: after).flatten.length + 1 := by
      simp only [List.flatten_append, List.flatten_cons, List.length_append, List.length_cons]
      omega
    rw [h.elements, hlen, ← elements_succ, BitVec.add_sub_cancel]
  rcases List.eq_nil_or_concat pre with rfl | ⟨pre, p, rfl⟩
  · have hlt : before.length < hash.table.length := by simp [h.length]
    refine ⟨Function.update mem b.1 none,
      ⟨hash.table.set before.length (headPtr none rest), hash.elements - 1⟩, ?_,
      h.sublist hsub ?_ ?_ helements⟩
    · simp only [hashRemoveBucket, hashCursor, lastPtr_nil, List.isEmpty_nil, if_true,
        Option.bind_some, hb, if_pos hlt]
    · rw [h.table]
      simp
    · refine h.linked_of_frame (fun l hl a ha hac => Function.update_of_ne ?_ _ _) ?_
      · rintro rfl
        exact hac (by simp)
      · rw [List.nil_append, List.map_cons, List.nodup_cons] at hnodup
        exact Linked.update (linked_append.1 hlinked).2.2 hnodup.1
  · rw [List.concat_eq_append] at *
    have hp : mem p.1 = some ⟨p.2, some b.1⟩ := by
      have hpre := (linked_append.1 hlinked).1
      exact (linked_append.1 hpre).2.1
    refine ⟨Function.update (Function.update mem p.1 (some ⟨p.2, headPtr none rest⟩)) b.1 none,
      ⟨hash.table, hash.elements - 1⟩, ?_, h.sublist hsub ?_ ?_ helements⟩
    · simp only [hashRemoveBucket, hashCursor, lastPtr_concat, Option.bind_some, hb, hp]
    · rw [h.table, List.map_append, List.map_append, List.map_cons, List.map_cons,
        headPtr_append, headPtr_append]
      cases pre <;> rfl
    · refine h.linked_of_frame (fun l hl a ha hac => ?_) ?_
      · rw [Function.update_of_ne, Function.update_of_ne]
        · rintro rfl
          exact hac (by simp)
        · rintro rfl
          exact hac (by simp)
      · rw [List.map_append, List.map_cons, List.nodup_append, List.nodup_cons] at hnodup
        obtain ⟨hpre, ⟨hbrest, -⟩, hdisj⟩ := hnodup
        have hbpre : b.1 ∉ (pre ++ [p]).map Prod.fst := fun hmem =>
          hdisj _ hmem _ List.mem_cons_self rfl
        rw [List.map_append, List.nodup_append] at hpre
        have hppre : p.1 ∉ pre.map Prod.fst := fun hmem =>
          hpre.2.2 _ hmem _ (by simp) rfl
        have hprest : p.1 ∉ rest.map Prod.fst := fun hmem =>
          hdisj _ (by simp) _ (List.mem_cons_of_mem _ hmem) rfl
        rw [linked_append] at hlinked ⊢
        exact ⟨(hlinked.1.setNext hppre).update hbpre, (hlinked.2.2.update hprest).update hbrest⟩

/-- The search for the end of a chain without a duplicate. -/
lemma hashFindEnd_of_distinct (pre : List (ℕ × α)) {d : α} (check : Bool)
    (hlinked : Linked mem none rest)
    (hdist : check = true → ∀ c ∈ rest, cb.compare c.2 d = false) :
    ∀ {fuel : ℕ}, rest.length < fuel →
      hashFindEnd cb mem d check fuel (headPtr none rest) (lastPtr pre) =
        some (.tail (lastPtr (pre ++ rest))) := by
  induction rest generalizing pre with
  | nil =>
    intro fuel hfuel
    obtain ⟨fuel, rfl⟩ := Nat.exists_eq_succ_of_ne_zero (Nat.ne_of_gt (Nat.zero_lt_of_lt hfuel))
    rw [List.append_nil]
    rfl
  | cons c rest ih =>
    intro fuel hfuel
    obtain ⟨fuel, rfl⟩ := Nat.exists_eq_succ_of_ne_zero (Nat.ne_of_gt (Nat.zero_lt_of_lt hfuel))
    have hne : (check && cb.compare c.2 d) = false := by
      cases hc : check with
      | false => rfl
      | true => exact hdist hc c List.mem_cons_self
    have hrest : check = true → ∀ c ∈ rest, cb.compare c.2 d = false := fun hcheck c hc =>
      hdist hcheck c (List.mem_cons_of_mem _ hc)
    have hnext := ih (pre ++ [c]) hlinked.2 hrest (Nat.lt_of_succ_lt_succ hfuel)
    rw [lastPtr_concat, List.append_assoc, List.singleton_append] at hnext
    simp only [headPtr_cons, hashFindEnd, hlinked.1, Option.bind_some, hne, Bool.false_eq_true,
      if_false, hnext]

/-- The search for the end of a chain with a duplicate. -/
lemma hashFindEnd_of_duplicate {d : α} {prev : Option ℕ} (hlinked : Linked mem none rest)
    (hdup : ∃ c ∈ rest, cb.compare c.2 d = true) :
    ∀ {fuel : ℕ}, rest.length < fuel →
      hashFindEnd cb mem d true fuel (headPtr none rest) prev = some .duplicate := by
  induction rest generalizing prev with
  | nil => exact absurd hdup (by simp)
  | cons c rest ih =>
    intro fuel hfuel
    obtain ⟨fuel, rfl⟩ := Nat.exists_eq_succ_of_ne_zero (Nat.ne_of_gt (Nat.zero_lt_of_lt hfuel))
    simp only [headPtr_cons, hashFindEnd, hlinked.1, Option.bind_some, Bool.true_and]
    split_ifs with hc
    · rfl
    · obtain ⟨c', hc', hcomp⟩ := hdup
      rcases List.mem_cons.1 hc' with rfl | hc'
      · exact absurd hcomp hc
      · exact ih hlinked.2 ⟨c', hc', hcomp⟩ (Nat.lt_of_succ_lt_succ hfuel)

/-- One more element. -/
lemma flatten_concat_perm (before after : List (List (ℕ × α))) (chain : List (ℕ × α))
    (c : ℕ × α) : (before ++ (chain ++ [c]) :: after).flatten.Perm
      (c :: (before ++ chain :: after).flatten) := by
  simp only [List.flatten_append, List.flatten_cons]
  rw [← List.append_assoc, ← List.append_assoc, List.append_assoc, List.singleton_append,
    ← List.append_assoc]
  exact List.perm_middle

/-- **A chain becomes longer.** -/
lemma HashRep.concat {hash' : Hashtable} {a : ℕ} {d : α}
    (h : HashRep cb mem hash (before ++ chain :: after))
    (hindex : cb.choose d hash.table.length = before.length)
    (hfresh : a ∉ (before ++ chain :: after).flatten.map Prod.fst)
    (hdist : ∀ c ∈ chain, cb.compare c.2 d = false)
    (htable : hash'.table = (before ++ (chain ++ [(a, d)]) :: after).map (headPtr none))
    (hlinked : ∀ l ∈ before ++ (chain ++ [(a, d)]) :: after, Linked mem' none l)
    (helements : hash'.elements = hash.elements + 1) :
    HashRep cb mem' hash' (before ++ (chain ++ [(a, d)]) :: after) := by
  have hperm := flatten_concat_perm before after chain (a, d)
  refine ⟨htable, hlinked, ?_, ?_, ?_, ?_⟩
  · rw [(hperm.map Prod.fst).nodup_iff, List.map_cons, List.nodup_cons]
    exact ⟨hfresh, h.nodup⟩
  · rw [helements, h.elements, elements_succ, hperm.length_eq, List.length_cons]
  · intro i l hl c hc
    have hlen : (before ++ (chain ++ [(a, d)]) :: after).length =
        (before ++ chain :: after).length := by simp
    rw [hlen]
    rcases (getElem?_chain_iff chain).1 hl with ⟨-, hl⟩ | ⟨rfl, rfl⟩
    · exact h.index i l hl c hc
    · rcases List.mem_append.1 hc with hc | hc
      · exact h.index _ chain (by simp) c hc
      · rw [List.mem_singleton.1 hc, ← h.length]
        exact hindex
  · intro l hl
    rw [List.mem_append, List.mem_cons] at hl
    rcases hl with hl | rfl | hl
    · exact h.distinct l (List.mem_append_left _ hl)
    · rw [List.pairwise_append]
      refine ⟨h.distinct chain (by simp), List.pairwise_singleton _ _, fun c hc c' hc' => ?_⟩
      rw [List.mem_singleton.1 hc']
      exact hdist c hc
    · exact h.distinct l (by simp [hl])

/-- **What `hash_add_bucket` makes of the chains** if it adds the element: it is the last one of its
chain, and only that chain and the bucket are written. -/
lemma hashAddBucket_spec (check : Bool) {a : ℕ} {d : α}
    (h : HashRep cb mem hash (before ++ chain :: after))
    (hindex : cb.choose d hash.table.length = before.length) (ha : mem a ≠ none)
    (hfresh : a ∉ (before ++ chain :: after).flatten.map Prod.fst)
    (hdist : ∀ c ∈ chain, cb.compare c.2 d = false) :
    ∃ mem' hash', (∀ fuel > chain.length,
        hashAddBucket cb fuel mem hash d a check = some (true, mem', hash')) ∧
      HashRep cb mem' hash' (before ++ (chain ++ [(a, d)]) :: after) ∧
      ∀ x, x ≠ a → x ∉ chain.map Prod.fst → mem' x = mem x := by
  obtain ⟨c, hc⟩ := Option.ne_none_iff_exists'.1 ha
  have hlinked : Linked mem none chain := h.linked _ (by simp)
  have hnotmem : ∀ l ∈ before ++ chain :: after, a ∉ l.map Prod.fst := fun l hl hmem =>
    hfresh (((List.sublist_flatten_of_mem hl).map _).subset hmem)
  have hend : ∀ fuel > chain.length, hashFindEnd cb mem d check fuel (headPtr none chain) none =
      some (.tail (lastPtr chain)) := fun fuel hfuel =>
    hashFindEnd_of_distinct [] check hlinked (fun _ => hdist) hfuel
  have hframe : ∀ {m : Mem α}, (∀ x, x ≠ a → x ∉ chain.map Prod.fst → m x = mem x) →
      Linked m none (chain ++ [(a, d)]) →
      ∀ l ∈ before ++ (chain ++ [(a, d)]) :: after, Linked m none l := fun hm =>
    h.linked_of_frame fun l hl x hx hxc => hm x (by
      rintro rfl
      refine hnotmem l ?_ hx
      simp only [List.mem_append, List.mem_cons] at hl ⊢
      tauto) hxc
  rcases List.eq_nil_or_concat chain with rfl | ⟨pre, p, rfl⟩
  · have hwritten : ∀ x, x ≠ a → x ∉ ([] : List (ℕ × α)).map Prod.fst →
        Function.update mem a (some ⟨d, none⟩) x = mem x := fun x hx _ =>
      Function.update_of_ne hx _ _
    refine ⟨Function.update mem a (some ⟨d, none⟩),
      ⟨hash.table.set before.length (some a), hash.elements + 1⟩, ?_,
      h.concat hindex hfresh hdist ?_ (hframe hwritten ?_) rfl, hwritten⟩
    · intro fuel hfuel
      simp only [hashAddBucket, hindex, h.slot, Option.bind_some, hend fuel hfuel, lastPtr_nil, hc]
    · rw [h.table]
      simp
    · exact ⟨Function.update_self _ _ _, trivial⟩
  · rw [List.concat_eq_append] at *
    have hp : mem p.1 = some ⟨p.2, none⟩ := (linked_append.1 hlinked).2.1
    have hpa : p.1 ≠ a := by
      rintro rfl
      exact hnotmem (pre ++ [p]) (by simp) (by simp)
    have hp' : Function.update mem a (some ⟨d, none⟩) p.1 = some ⟨p.2, none⟩ := by
      rw [Function.update_of_ne hpa, hp]
    have hwritten : ∀ x, x ≠ a → x ∉ (pre ++ [p]).map Prod.fst →
        Function.update (Function.update mem a (some ⟨d, none⟩)) p.1 (some ⟨p.2, some a⟩) x =
          mem x := by
      intro x hx hxp
      rw [Function.update_of_ne (by rintro rfl; exact hxp (by simp)), Function.update_of_ne hx]
    refine ⟨Function.update (Function.update mem a (some ⟨d, none⟩)) p.1 (some ⟨p.2, some a⟩),
      ⟨hash.table, hash.elements + 1⟩, ?_,
      h.concat hindex hfresh hdist ?_ (hframe hwritten ?_) rfl, hwritten⟩
    · intro fuel hfuel
      simp only [hashAddBucket, hindex, h.slot, Option.bind_some, hend fuel hfuel, lastPtr_concat,
        hc, hp']
    · rw [h.table, List.map_append, List.map_append, List.map_cons, List.map_cons,
        headPtr_append (l := pre ++ [p])]
      cases pre <;> rfl
    · have hpre := h.nodup_chain
      rw [List.map_append, List.nodup_append] at hpre
      have hppre : p.1 ∉ pre.map Prod.fst := fun hmem => hpre.2.2 _ hmem _ (by simp) rfl
      rw [linked_append]
      refine ⟨(hlinked.update (hnotmem _ (by simp))).setNext hppre, ?_, trivial⟩
      rw [Function.update_of_ne hpa.symm, Function.update_self, headPtr_nil]

/-- The chain of an index. -/
lemma HashRep.exists_chain (h : HashRep cb mem hash chains) (hne : chains ≠ []) (d : α) :
    ∃ before chain after, chains = before ++ chain :: after ∧
      cb.choose d hash.table.length = before.length := by
  have hlt : cb.choose d hash.table.length < chains.length := by
    rw [← h.length]
    exact cb.choose_lt d (by rw [h.length]; exact List.length_pos_iff.2 hne)
  refine ⟨chains.take (cb.choose d hash.table.length), chains[cb.choose d hash.table.length],
    chains.drop (cb.choose d hash.table.length + 1), ?_, ?_⟩
  · rw [List.getElem_cons_drop, List.take_append_drop]
  · rw [List.length_take_of_le hlt.le]

/-- The buckets of a table are allocated. -/
lemma HashRep.allocated (h : HashRep cb mem hash chains) {a : ℕ}
    (ha : a ∈ chains.flatten.map Prod.fst) : mem a ≠ none := by
  obtain ⟨c, hc, rfl⟩ := List.mem_map.1 ha
  obtain ⟨l, hl, hcl⟩ := List.mem_flatten.1 hc
  obtain ⟨pre, rest, rfl⟩ := List.append_of_mem hcl
  rw [(linked_append.1 (h.linked _ hl)).2.1]
  exact Option.some_ne_none _

/-- A table depends on its own buckets alone. -/
lemma HashRep.congr (h : HashRep cb mem hash chains)
    (hmem : ∀ a ∈ chains.flatten.map Prod.fst, mem' a = mem a) :
    HashRep cb mem' hash chains where
  table := h.table
  linked l hl := (h.linked l hl).congr fun a ha =>
    hmem a (((List.sublist_flatten_of_mem hl).map _).subset ha)
  nodup := h.nodup
  elements := h.elements
  index := h.index
  distinct := h.distinct

/-- **`hash_add` keeps a table a table**: the element is the last one of its chain, or the chains
remain as they are. -/
lemma hashAdd_spec {d : α} {malloc : Option (ℕ × Cell α)}
    (h : HashRep cb mem hash chains) (hne : chains ≠ [])
    (hmalloc : ∀ r ∈ malloc, mem r.1 = none) :
    ∃ ok mem' hash' chains', (∀ fuel > chains.flatten.length,
        hashAdd cb fuel mem hash d malloc = some (ok, mem', hash')) ∧
      HashRep cb mem' hash' chains' ∧ chains' ≠ [] := by
  cases hm : malloc with
  | none => exact ⟨false, mem, hash, chains, fun _ _ => rfl, h, hne⟩
  | some r =>
    obtain ⟨a, junk⟩ := r
    have hfree : mem a = none := hmalloc (a, junk) hm
    have hfresh : a ∉ chains.flatten.map Prod.fst := fun ha => h.allocated ha hfree
    have hkeep : ∀ {m : Mem α} {x : Option (Cell α)}, HashRep cb m hash chains →
        HashRep cb (Function.update m a x) hash chains := fun hm =>
      hm.congr fun b hb => Function.update_of_ne (ne_of_mem_of_not_mem hb hfresh) _ _
    have hrep : HashRep cb (Function.update mem a (some junk)) hash chains := hkeep h
    obtain ⟨before, chain, after, rfl, hindex⟩ := h.exists_chain hne d
    have hchain : ∀ fuel > (before ++ chain :: after).flatten.length, chain.length < fuel :=
      fun fuel hfuel => lt_of_le_of_lt (List.sublist_flatten_of_mem (by simp)).length_le hfuel
    by_cases hdup : ∃ c ∈ chain, cb.compare c.2 d = true
    · have hend : ∀ fuel > chain.length, hashFindEnd cb (Function.update mem a (some junk)) d true
          fuel (headPtr none chain) none = some .duplicate := fun fuel hfuel =>
        hashFindEnd_of_duplicate (hrep.linked chain (by simp)) hdup hfuel
      have hadd : ∀ fuel > chain.length,
          hashAddBucket cb fuel (Function.update mem a (some junk)) hash d a true =
            some (false, Function.update mem a (some junk), hash) := fun fuel hfuel => by
        simp only [hashAddBucket, hindex, h.slot, Option.bind_some, hend fuel hfuel]
      refine ⟨false, Function.update (Function.update mem a (some junk)) a none, hash, _,
        fun fuel hfuel => ?_, hkeep hrep, hne⟩
      simp only [hashAdd, hadd fuel (hchain fuel hfuel), Option.map_some, Bool.false_eq_true,
        if_false]
    · have hdist : ∀ c ∈ chain, cb.compare c.2 d = false := fun c hc =>
        Bool.eq_false_iff.2 fun hcomp => hdup ⟨c, hc, hcomp⟩
      obtain ⟨mem', hash', hadd, hrep', -⟩ := hashAddBucket_spec true hrep hindex
        (by rw [Function.update_self]; exact Option.some_ne_none _) hfresh hdist
      refine ⟨true, mem', hash', _, fun fuel hfuel => ?_, hrep', by simp⟩
      simp only [hashAdd, hadd fuel (hchain fuel hfuel), Option.map_some, if_true]

/-- `hash_remove` goes on to the first bucket with the key. -/
lemma hashRemoveLoop_of_found (pre : List (ℕ × α)) {d : α} {mid : List (ℕ × α)}
    (h : HashRep cb mem hash (before ++ (pre ++ (mid ++ b :: rest)) :: after))
    (hmid : ∀ c ∈ mid, cb.compare c.2 d = false) (hb : cb.compare b.2 d = true) :
    ∀ {fuel : ℕ}, mid.length < fuel →
      hashRemoveLoop cb mem hash d fuel
          ⟨before.length, headPtr none (mid ++ b :: rest), lastPtr pre, none⟩ =
        (hashRemoveBucket mem hash (hashCursor before.length (pre ++ mid) b.1)).map some := by
  induction mid generalizing pre with
  | nil =>
    intro fuel hfuel
    obtain ⟨fuel, rfl⟩ := Nat.exists_eq_succ_of_ne_zero (Nat.ne_of_gt (Nat.zero_lt_of_lt hfuel))
    rw [List.nil_append] at h ⊢
    have hcell : mem b.1 = some ⟨b.2, headPtr none rest⟩ :=
      (linked_append.1 (h.linked _ (by simp : pre ++ b :: rest ∈ _))).2.1
    have hsame : (if some b.1 = headPtr none (pre ++ b :: rest) then some before.length else none) =
        if pre.isEmpty then some before.length else none := by
      cases pre with
      | nil => simp
      | cons p pre =>
        have hne : b.1 ≠ p.1 := by
          have hnodup := h.nodup_chain
          rw [List.cons_append, List.map_cons, List.nodup_cons] at hnodup
          rintro heq
          exact hnodup.1 (by simp [← heq])
        simp [hne]
    simp only [headPtr_cons, hashRemoveLoop, hcell, Option.bind_some, hb, if_true,
      Int.toNat_natCast, h.slot, hsame, List.append_nil, hashCursor]
  | cons c mid ih =>
    intro fuel hfuel
    obtain ⟨fuel, rfl⟩ := Nat.exists_eq_succ_of_ne_zero (Nat.ne_of_gt (Nat.zero_lt_of_lt hfuel))
    have hcell : mem c.1 = some ⟨c.2, headPtr none (mid ++ b :: rest)⟩ :=
      (linked_append.1 (h.linked _ (by simp : pre ++ (c :: mid ++ b :: rest) ∈ _))).2.1
    have hc : cb.compare c.2 d = false := hmid c List.mem_cons_self
    have hnext := ih (pre ++ [c]) (by simpa using h)
      (fun c' hc' => hmid c' (List.mem_cons_of_mem _ hc')) (Nat.lt_of_succ_lt_succ hfuel)
    rw [lastPtr_concat, List.append_assoc, List.singleton_append] at hnext
    simp only [List.cons_append, headPtr_cons, hashRemoveLoop, hcell, Option.bind_some, hc,
      Bool.false_eq_true, if_false, hnext]

/-- `hash_remove` without a bucket that has the key. -/
lemma hashRemoveLoop_of_absent {d : α} {i : ℤ} (prev : Option ℕ) (hlinked : Linked mem none rest)
    (hrest : ∀ c ∈ rest, cb.compare c.2 d = false) :
    ∀ {fuel : ℕ}, rest.length < fuel →
      hashRemoveLoop cb mem hash d fuel ⟨i, headPtr none rest, prev, none⟩ = some none := by
  induction rest generalizing prev with
  | nil =>
    intro fuel hfuel
    obtain ⟨fuel, rfl⟩ := Nat.exists_eq_succ_of_ne_zero (Nat.ne_of_gt (Nat.zero_lt_of_lt hfuel))
    rfl
  | cons c rest ih =>
    intro fuel hfuel
    obtain ⟨fuel, rfl⟩ := Nat.exists_eq_succ_of_ne_zero (Nat.ne_of_gt (Nat.zero_lt_of_lt hfuel))
    have hc : cb.compare c.2 d = false := hrest c List.mem_cons_self
    have hnext := ih (some c.1) hlinked.2
      (fun c' hc' => hrest c' (List.mem_cons_of_mem _ hc')) (Nat.lt_of_succ_lt_succ hfuel)
    simp only [headPtr_cons, hashRemoveLoop, hlinked.1, Option.bind_some, hc, Bool.false_eq_true,
      if_false, hnext]

/-- **`hash_remove` with the element of a bucket removes that bucket.** -/
lemma hashRemove_of_mem {fuel : ℕ}
    (h : HashRep cb mem hash (before ++ (pre ++ b :: rest) :: after)) (hfuel : pre.length < fuel) :
    hashRemove cb fuel mem hash b.2 =
      (hashRemoveBucket mem hash (hashCursor before.length pre b.1)).map some := by
  have hindex : cb.choose b.2 hash.table.length = before.length := by
    rw [h.length]
    exact h.index before.length (pre ++ b :: rest) (by simp) b (by simp)
  have hpre : ∀ c ∈ pre, cb.compare c.2 b.2 = false := by
    intro c hc
    exact (List.pairwise_append.1 (h.distinct (pre ++ b :: rest) (by simp))).2.2 c hc b
      List.mem_cons_self
  have hloop := hashRemoveLoop_of_found [] h hpre (cb.compare_self b.2) hfuel
  rw [lastPtr_nil, List.nil_append] at hloop
  simp only [hashRemove, hindex, h.slot, Option.bind_some, hloop]

/-- **What `hash_remove` makes of the chains**: it removes the bucket with the key, if there is
one. -/
lemma hashRemove_spec {d : α} (h : HashRep cb mem hash chains) (hne : chains ≠ []) :
    (∀ fuel > chains.flatten.length, hashRemove cb fuel mem hash d = some none) ∨
      ∃ d' mem' hash' chains', (∀ fuel > chains.flatten.length,
          hashRemove cb fuel mem hash d = some (some (d', mem', hash'))) ∧
        HashRep cb mem' hash' chains' ∧ chains' ≠ [] := by
  obtain ⟨before, chain, after, rfl, hindex⟩ := h.exists_chain hne d
  have hchain : ∀ fuel > (before ++ chain :: after).flatten.length, chain.length < fuel :=
    fun fuel hfuel => lt_of_le_of_lt (List.sublist_flatten_of_mem (by simp)).length_le hfuel
  have hcall : ∀ fuel, hashRemove cb fuel mem hash d = hashRemoveLoop cb mem hash d fuel
      ⟨before.length, headPtr none chain, lastPtr ([] : List (ℕ × α)), none⟩ := fun fuel => by
    simp only [hashRemove, hindex, h.slot, Option.bind_some, lastPtr_nil]
  cases hfind : chain.find? fun c => cb.compare c.2 d with
  | none =>
    have habsent : ∀ c ∈ chain, cb.compare c.2 d = false := fun c hc =>
      Bool.eq_false_iff.2 (List.find?_eq_none.1 hfind c hc)
    exact .inl fun fuel hfuel => (hcall fuel).trans
      (hashRemoveLoop_of_absent _ (h.linked chain (by simp)) habsent (hchain fuel hfuel))
  | some b =>
    obtain ⟨hb, mid, rest, rfl, hmid⟩ := List.find?_eq_some_iff_append.1 hfind
    have hmid' : ∀ c ∈ mid, cb.compare c.2 d = false := fun c hc => by simpa using hmid c hc
    obtain ⟨mem', hash', hremove, hrep⟩ := hashRemoveBucket_spec h
    refine .inr ⟨b.2, mem', hash', _, fun fuel hfuel => ?_, hrep, by simp⟩
    have hfound := hashRemoveLoop_of_found [] h hmid' hb
      (lt_of_le_of_lt (by simp) (hchain fuel hfuel))
    rw [List.nil_append, hremove, Option.map_some] at hfound
    exact (hcall fuel).trans hfound

/-- **What the inner loop of `hash_resize` does with a chain**: its buckets are moved to the new
table. -/
lemma hashMoveChain_spec {i : ℕ} {news : List (List (ℕ × α))} {new : Hashtable} (old : Hashtable)
    (hlinked : Linked mem none chain) (hnew : HashRep cb mem new news) (hne : news ≠ [])
    (hslot : old.table[i]? = some (headPtr none chain))
    (hnodup : ((chain ++ news.flatten).map Prod.fst).Nodup)
    (hcross : ∀ x ∈ news.flatten, ∀ y ∈ chain, cb.compare x.2 y.2 = false)
    (hchain : chain.Pairwise fun c c' => cb.compare c.2 c'.2 = false) :
    ∃ mem' old' new' news', (∀ walk > (chain ++ news.flatten).length, ∀ fuel > chain.length,
        hashMoveChain cb walk i fuel (mem, old, new) = some (mem', old', new')) ∧
      old'.table = old.table.set i none ∧ HashRep cb mem' new' news' ∧
      news'.length = news.length ∧ news'.flatten.Perm (chain ++ news.flatten) ∧
      ∀ x ∉ (chain ++ news.flatten).map Prod.fst, mem' x = mem x := by
  induction chain generalizing mem old new news with
  | nil =>
    refine ⟨mem, old, new, news, fun walk _ fuel hfuel => ?_, ?_, hnew, rfl, .refl _,
      fun _ _ => rfl⟩
    · obtain ⟨fuel, rfl⟩ := Nat.exists_eq_succ_of_ne_zero (Nat.ne_of_gt (Nat.zero_lt_of_lt hfuel))
      simp only [hashMoveChain, hslot, headPtr_nil, Option.bind_some]
    · obtain ⟨hlt, heq⟩ := List.getElem?_eq_some_iff.1 hslot
      rw [headPtr_nil] at heq
      rw [← heq, List.set_getElem_self]
  | cons c chain ih =>
    obtain ⟨before, l, after, rfl, hindex⟩ := hnew.exists_chain hne c.2
    have hsub : l.Sublist (before ++ l :: after).flatten := List.sublist_flatten_of_mem (by simp)
    rw [List.cons_append, List.map_cons, List.nodup_cons] at hnodup
    obtain ⟨hc, hnodup⟩ := hnodup
    rw [List.map_append, List.mem_append, not_or] at hc
    have hdistc : ∀ x ∈ l, cb.compare x.2 c.2 = false := fun x hx =>
      hcross x (hsub.subset hx) c List.mem_cons_self
    obtain ⟨mem₁, new₁, hadd, hnew₁, hframe₁⟩ := hashAddBucket_spec false hnew hindex
      (by rw [hlinked.1]; exact Option.some_ne_none _) hc.2 hdistc
    have hperm : (chain ++ (before ++ (l ++ [c]) :: after).flatten).Perm
        (c :: chain ++ (before ++ l :: after).flatten) :=
      ((flatten_concat_perm before after l c).append_left chain).trans List.perm_middle
    -- the buckets that remain to be moved are not written
    have hkeep : ∀ x ∈ chain.map Prod.fst, mem₁ x = mem x := by
      intro x hx
      refine hframe₁ x (ne_of_mem_of_not_mem hx hc.1) fun hxl => ?_
      rw [List.map_append, List.nodup_append] at hnodup
      exact hnodup.2.2 x hx x ((hsub.map _).subset hxl) rfl
    obtain ⟨hlt, -⟩ := List.getElem?_eq_some_iff.1 hslot
    obtain ⟨mem', old', new', news', hmove, hold, hnew', hlen, hperm', hframe'⟩ :=
      ih { old with table := old.table.set i (headPtr none chain) }
        (hlinked.2.congr hkeep) hnew₁ (by simp) (by simp [hlt])
        (by rw [(hperm.map _).nodup_iff, List.cons_append, List.map_cons, List.nodup_cons,
              List.map_append, List.mem_append, not_or]
            exact ⟨hc, by rwa [List.map_append] at hnodup⟩)
        (fun x hx y hy => by
          rcases List.mem_cons.1 ((flatten_concat_perm before after l c).subset hx) with rfl | hx
          · exact (List.pairwise_cons.1 hchain).1 y hy
          · exact hcross x hx y (List.mem_cons_of_mem _ hy))
        (List.pairwise_cons.1 hchain).2
    refine ⟨mem', old', new', news', fun walk hwalk fuel hfuel => ?_, ?_, hnew',
      by simpa using hlen, hperm'.trans hperm, ?_⟩
    · obtain ⟨fuel, rfl⟩ := Nat.exists_eq_succ_of_ne_zero (Nat.ne_of_gt (Nat.zero_lt_of_lt hfuel))
      have hwalkl : l.length < walk := by
        refine lt_of_le_of_lt (hsub.length_le.trans ?_) hwalk
        rw [List.length_append]
        exact Nat.le_add_left _ _
      simp only [hashMoveChain, hslot, headPtr_cons, Option.bind_some, hlinked.1,
        hadd walk hwalkl, hmove walk (by rwa [hperm.length_eq]) fuel (Nat.lt_of_succ_lt_succ hfuel)]
    · rw [hold, List.set_set]
    · intro x hx
      rw [hframe' x fun hmem => hx ((hperm.map _).subset hmem)]
      refine hframe₁ x ?_ fun hxl => hx ?_
      · rintro rfl
        exact hx (by simp)
      · rw [List.map_append, List.mem_append]
        exact .inr ((hsub.map _).subset hxl)

/-- **What the outer loop of `hash_resize` does** from the chain `i` on. -/
lemma hashMoveChains_spec {i : ℕ} {news : List (List (ℕ × α))} {new old : Hashtable}
    (hlinked : ∀ l ∈ chains, Linked mem none l) (hnew : HashRep cb mem new news) (hne : news ≠ [])
    (htable : old.table = List.replicate i none ++ chains.map (headPtr none))
    (hnodup : ((chains.flatten ++ news.flatten).map Prod.fst).Nodup)
    (hcross : ∀ x ∈ news.flatten, ∀ y ∈ chains.flatten, cb.compare x.2 y.2 = false)
    (hchains : chains.flatten.Pairwise fun c c' => cb.compare c.2 c'.2 = false) :
    ∃ mem' old' new' news', (∀ fuel > (chains.flatten ++ news.flatten).length,
        (List.range' i chains.length).foldlM (fun s i => hashMoveChain cb fuel i fuel s)
          (mem, old, new) = some (mem', old', new')) ∧
        old'.table = List.replicate (i + chains.length) none ∧
        HashRep cb mem' new' news' ∧ news'.length = news.length ∧
        news'.flatten.Perm (chains.flatten ++ news.flatten) := by
  induction chains generalizing mem old new news i with
  | nil => exact ⟨mem, old, new, news, fun _ _ => rfl, by simpa using htable, hnew, rfl, .refl _⟩
  | cons chain chains ih =>
    rw [List.flatten_cons, List.append_assoc] at *
    have hslot : old.table[i]? = some (headPtr none chain) := by
      rw [htable, List.getElem?_append_right (by simp)]
      simp
    have hnodupc : ((chain ++ news.flatten).map Prod.fst).Nodup :=
      hnodup.sublist (((List.sublist_append_right _ _).append_left _).map _)
    have hlenc : (chain ++ news.flatten).length ≤
        (chain ++ (chains.flatten ++ news.flatten)).length :=
      ((List.sublist_append_right _ _).append_left _).length_le
    rw [List.forall_mem_cons] at hlinked
    rw [List.pairwise_append] at hchains
    obtain ⟨mem₁, old₁, new₁, news₁, hmove, hold₁, hnew₁, hlen₁, hperm₁, hframe₁⟩ :=
      hashMoveChain_spec old hlinked.1 hnew hne hslot hnodupc
        (fun x hx y hy => hcross x hx y (List.mem_append_left _ hy)) hchains.1
    have hperm : (chains.flatten ++ news₁.flatten).Perm
        (chain ++ (chains.flatten ++ news.flatten)) :=
      (hperm₁.append_left _).trans (List.perm_append_comm_assoc _ _ _)
    -- the chains that remain to be moved are not written
    have hkeep : ∀ l ∈ chains, ∀ x ∈ l.map Prod.fst, mem₁ x = mem x := by
      intro l hl x hx
      refine hframe₁ x fun hmem => ?_
      have hnodup' := ((List.perm_append_comm_assoc chain chains.flatten news.flatten).map
        Prod.fst).nodup_iff.1 hnodup
      rw [List.map_append, List.nodup_append] at hnodup'
      exact hnodup'.2.2 x (((List.sublist_flatten_of_mem hl).map _).subset hx) x hmem rfl
    obtain ⟨mem', old', new', news', hmoves, hold', hnew', hlen', hperm'⟩ :=
      ih (i := i + 1) (fun l hl => (hlinked.2 l hl).congr (hkeep l hl)) hnew₁
        (List.ne_nil_of_length_pos (by rw [hlen₁]; exact List.length_pos_iff.2 hne))
        (by
          rw [hold₁, htable, List.set_append_right _ _ (by simp), List.length_replicate,
            Nat.sub_self, List.map_cons, List.set_cons_zero, List.replicate_succ',
            List.append_assoc, List.singleton_append])
        ((hperm.map _).nodup_iff.2 hnodup)
        (fun x hx y hy => by
          rcases List.mem_append.1 (hperm₁.subset hx) with hx | hx
          · exact hchains.2.2 x hx y hy
          · exact hcross x hx y (List.mem_append_right _ hy))
        hchains.2.1
    refine ⟨mem', old', new', news', fun fuel hfuel => ?_, ?_, hnew', hlen'.trans hlen₁,
      hperm'.trans hperm⟩
    · rw [List.length_cons, List.range'_succ, List.foldlM_cons,
        hmove fuel (lt_of_le_of_lt hlenc hfuel) fuel
          (lt_of_le_of_lt (List.sublist_append_left _ _).length_le hfuel)]
      exact hmoves fuel (by rwa [hperm.length_eq])
    · rw [hold', List.length_cons, Nat.add_right_comm, Nat.add_assoc]

/-- No two elements of a table have the same key. -/
lemma HashRep.distinct_flatten (h : HashRep cb mem hash chains) :
    chains.flatten.Pairwise fun c c' => cb.compare c.2 c'.2 = false := by
  rw [List.pairwise_flatten]
  refine ⟨h.distinct, ?_⟩
  rw [List.pairwise_iff_getElem]
  intro i j hi hj hij x hx y hy
  have hix := h.index i chains[i] (List.getElem?_eq_getElem hi) x hx
  have hjy := h.index j chains[j] (List.getElem?_eq_getElem hj) y hy
  refine Bool.eq_false_iff.2 fun hcomp => ?_
  have heq := cb.choose_eq hcomp chains.length
  omega

/-- **`hash_resize` keeps all elements**, in a table of the new size. -/
lemma hashResize_spec {size : ℕ} (h : HashRep cb mem hash chains) (hsize : 0 < size) :
    ∃ mem' hash' chains', (∀ fuel > chains.flatten.length,
        hashResize cb fuel mem hash size true = some (some (mem', hash'))) ∧
      HashRep cb mem' hash' chains' ∧ chains'.length = size ∧
      chains'.flatten.Perm chains.flatten := by
  have hempty : (List.replicate size ([] : List (ℕ × α))).flatten = [] := by simp
  obtain ⟨mem', old', new', news', hmoves, hold', hnew', hlen, hperm⟩ :=
    hashMoveChains_spec (i := 0) h.linked (hashInit_rep size)
      (List.ne_nil_of_length_pos (by simpa using hsize)) (by simpa using h.table)
      (by rw [hempty, List.append_nil]; exact h.nodup)
      (fun x hx => by rw [hempty] at hx; exact absurd hx (List.not_mem_nil)) h.distinct_flatten
  have hdelete : ∀ fuel n,
      (List.replicate n none).foldlM (hashFreeChain (fuel + 1)) mem' = some mem' := by
    intro fuel n
    induction n with
    | zero => rfl
    | succ n ih =>
      rw [List.replicate_succ, List.foldlM_cons]
      exact ih
  refine ⟨mem', new', news', fun fuel hfuel => ?_, hnew', by simpa using hlen,
    by simpa [hempty] using hperm⟩
  rw [hempty, List.append_nil, ← List.range_eq_range', ← h.length] at hmoves
  have hmoves := hmoves fuel hfuel
  obtain ⟨fuel, rfl⟩ := Nat.exists_eq_succ_of_ne_zero (Nat.ne_of_gt (Nat.zero_lt_of_lt hfuel))
  simp only [hashResize, hashNew, if_true, hmoves, Option.bind_some, hashDelete, hold',
    hdelete fuel, Option.map_some]

end Batctl
