import BatmanAdv.Batctl.Hash

set_option relaxedAutoImplicit false
set_option autoImplicit false

/-!
# Removing elements in a loop over a table (`batctl/hash.c`)

A loop over `hash_iterate` may remove the element it is at.  Every element that was in the table is
returned once, no matter which of them are removed, no bucket is accessed after it was freed, and
the iterator is freed in the end.  If no iterator can be allocated the loop returns nothing.

## Main definitions

* `Batctl.hashLoop` — a loop over `hash_iterate`.
* `Batctl.HashReachable` — the tables that the functions make.
* `Batctl.HashHolds` — the elements of a table.

## Main results

* `Batctl.hashIterateNext_kept`, `Batctl.hashIterateNext_removed` — the checks of `hash_iterate`.
* `Batctl.hashLoop_spec` — a loop from any chain on.
* `Batctl.hash_tolerates_removal` — the loops over a table that can be reached.
-/

namespace Batctl

open Batadv LinkedList

variable {α : Type}

/-- What a loop does with the element it is at. -/
inductive HashAction where
  | keep
  | removeBucket
  | remove
deriving DecidableEq

/-- A table in memory, and the number of iterators that are allocated. -/
structure HashState (α : Type) where
  mem : Mem α
  hash : Hashtable
  iters : ℕ

/-- The body of a loop: the element, and what the action makes of the table. -/
def hashLoopBody (cb : HashCallbacks α) (fuel : ℕ) (s : HashState α) (it : HashIt)
    (action : HashAction) : Option (α × HashState α) :=
  it.bucket.bind fun bucket => (s.mem bucket).bind fun c =>
    match action with
    | .keep => some (c.data, s)
    | .removeBucket => (hashRemoveBucket s.mem s.hash it).map fun r =>
      (c.data, { s with mem := r.2.1, hash := r.2.2 })
    | .remove => (hashRemove cb fuel s.mem s.hash c.data).map fun
      | none => (c.data, s)
      | some r => (c.data, { s with mem := r.2.1, hash := r.2.2 })

/-- **A loop over `hash_iterate`** that does `act i` in its turn `i`: each element that is returned
and what was done with it, and the state after the loop. -/
def hashLoop (cb : HashCallbacks α) (walk : ℕ) (malloc : Option HashIt) (act : ℕ → HashAction) :
    ℕ → ℕ → HashState α → Option HashIt → Option (List (α × HashAction) × HashState α)
  | 0, _, _, _ => none
  | fuel + 1, turn, s, iterIn =>
    (hashIterate malloc s.mem s.hash s.iters iterIn).bind fun r =>
      match r.2 with
      | none => some ([], { s with iters := r.1 })
      | some it =>
        (hashLoopBody cb walk { s with iters := r.1 } it (act turn)).bind fun t =>
          (hashLoop cb walk malloc act fuel (turn + 1) t.2 (some it)).map fun u =>
            ((t.1, act turn) :: u.1, u.2)

/-- A call ends and returns a value: it does with any fuel that is enough. -/
def HashReturns {β : Type} (call : ℕ → Option β) (r : β) : Prop :=
  ∃ n, ∀ fuel ≥ n, call fuel = some r

/-- **The tables that the functions make**, with what is in memory then.  A bucket is allocated at
an address that is not in use. -/
inductive HashReachable (cb : HashCallbacks α) : Mem α → Hashtable → Prop
  | new {mem : Mem α} {alloc : Bool} {size : ℕ} {hash : Hashtable} (hsize : 0 < size)
      (hnew : hashNew alloc size = some hash) : HashReachable cb mem hash
  | add {mem mem' : Mem α} {hash hash' : Hashtable} {data : α} {malloc : Option (ℕ × Cell α)}
      {ok : Bool} (h : HashReachable cb mem hash) (hmalloc : ∀ r ∈ malloc, mem r.1 = none)
      (hadd : HashReturns (fun fuel => hashAdd cb fuel mem hash data malloc) (ok, mem', hash')) :
      HashReachable cb mem' hash'
  | remove {mem mem' : Mem α} {hash hash' : Hashtable} {data data' : α}
      (h : HashReachable cb mem hash)
      (hremove : HashReturns (fun fuel => hashRemove cb fuel mem hash data)
        (some (data', mem', hash'))) : HashReachable cb mem' hash'
  | resize {mem mem' : Mem α} {hash hash' : Hashtable} {size : ℕ} {alloc : Bool}
      (h : HashReachable cb mem hash) (hsize : 0 < size)
      (hresize : HashReturns (fun fuel => hashResize cb fuel mem hash size alloc)
        (some (mem', hash'))) : HashReachable cb mem' hash'
  | loop {mem mem' : Mem α} {hash hash' : Hashtable} {malloc : Option HashIt}
      {act : ℕ → HashAction} {iters iters' : ℕ} {log : List (α × HashAction)}
      (h : HashReachable cb mem hash)
      (hloop : HashReturns (fun fuel => hashLoop cb fuel malloc act fuel 0 ⟨mem, hash, iters⟩ none)
        (log, ⟨mem', hash', iters'⟩)) : HashReachable cb mem' hash'

/-- **The elements of a table**, in the order of its chains. -/
def HashHolds (mem : Mem α) (hash : Hashtable) (l : List α) : Prop :=
  ∃ chains : List (List (ℕ × α)), hash.table = chains.map (headPtr none) ∧
    (∀ c ∈ chains, Linked mem none c) ∧ (chains.flatten.map Prod.fst).Nodup ∧
    l = chains.flatten.map Prod.snd

/-- The elements that a loop kept. -/
def hashKept (log : List (α × HashAction)) : List α :=
  (log.filter fun r => r.2 = .keep).map Prod.fst

variable {cb : HashCallbacks α} {mem mem' : Mem α} {hash : Hashtable}
  {before after chains : List (List (ℕ × α))} {chain pre rest : List (ℕ × α)} {b : ℕ × α}

/-- A table has only one list of elements. -/
lemma HashHolds.unique {l l' : List α} (h : HashHolds mem hash l) (h' : HashHolds mem hash l') :
    l = l' := by
  obtain ⟨chains, htable, hlinked, -, rfl⟩ := h
  obtain ⟨chains', htable', hlinked', -, rfl⟩ := h'
  rw [htable] at htable'
  congr 2
  clear htable
  induction chains generalizing chains' with
  | nil => exact (List.map_eq_nil_iff.1 htable'.symm).symm
  | cons c chains ih =>
    cases chains' with
    | nil => exact absurd htable' (by simp)
    | cons c' chains' =>
      rw [List.map_cons, List.map_cons, List.cons.injEq] at htable'
      rw [List.forall_mem_cons] at hlinked hlinked'
      rw [hlinked.1.unique hlinked'.1 htable'.1, ih hlinked.2 chains' htable'.2 hlinked'.2]

lemma HashRep.holds (h : HashRep cb mem hash chains) :
    HashHolds mem hash (chains.flatten.map Prod.snd) := ⟨chains, h.table, h.linked, h.nodup, rfl⟩

/-! ### `hash_iterate` -/

/-- The next bucket in the same chain. -/
lemma hashSelectNext_cons {iters : ℕ} {it : HashIt} {r : ℕ × α}
    (h : HashRep cb mem hash (before ++ (pre ++ b :: r :: rest) :: after))
    (hindex : it.index = before.length) (hbucket : it.bucket = some b.1) :
    hashSelectNext mem hash iters it =
      some (iters, some (hashCursor before.length (pre ++ [b]) r.1)) := by
  have hb : mem b.1 = some ⟨b.2, some r.1⟩ :=
    (linked_append.1 (h.linked (pre ++ b :: r :: rest) (by simp))).2.1
  simp only [hashSelectNext, hbucket, hb, Option.bind_some, hindex, hashCursor, lastPtr_concat]
  cases pre <;> rfl

/-- The last bucket of a chain. -/
lemma hashSelectNext_nil {iters : ℕ} {it : HashIt}
    (h : HashRep cb mem hash (before ++ (pre ++ [b]) :: after)) (hbucket : it.bucket = some b.1) :
    hashSelectNext mem hash iters it = some (hashForward hash iters it) := by
  have hb : mem b.1 = some ⟨b.2, none⟩ :=
    (linked_append.1 (h.linked (pre ++ [b]) (by simp))).2.1
  simp only [hashSelectNext, hbucket, hb, Option.bind_some]

/-- **The current bucket is still there**: the next one is selected. -/
lemma hashIterateNext_kept {iters : ℕ}
    (h : HashRep cb mem hash (before ++ (pre ++ b :: rest) :: after)) :
    hashIterateNext mem hash iters (hashCursor before.length pre b.1) =
      hashSelectNext mem hash iters (hashCursor before.length pre b.1) := by
  have hlinked := linked_append.1 (h.linked (pre ++ b :: rest) (by simp))
  rcases List.eq_nil_or_concat pre with rfl | ⟨pre, p, rfl⟩
  · have hslot := h.slot
    rw [List.nil_append, headPtr_cons] at hslot
    simp only [hashIterateNext, hashCursor, List.isEmpty_nil, if_true, hslot, Option.bind_some]
  · rw [List.concat_eq_append] at *
    have hp : mem p.1 = some ⟨p.2, some b.1⟩ := (linked_append.1 hlinked.1).2.1
    have hne : (pre ++ [p]).isEmpty = false := by simp
    simp only [hashIterateNext, hashCursor, hne, Bool.false_eq_true, if_false, lastPtr_concat, hp,
      Option.bind_some, if_true]

/-- **The current bucket was removed**, and it was not the first one: `hash_iterate` goes back to
the one before it. -/
lemma hashIterateNext_removed {iters : ℕ} {p : ℕ × α}
    (h : HashRep cb mem hash (before ++ (pre ++ p :: rest) :: after))
    (hb : headPtr none rest ≠ some b.1) :
    hashIterateNext mem hash iters (hashCursor before.length (pre ++ [p]) b.1) =
      hashSelectNext mem hash iters ⟨before.length, some p.1, some p.1, none⟩ := by
  have hp : mem p.1 = some ⟨p.2, headPtr none rest⟩ :=
    (linked_append.1 (h.linked (pre ++ p :: rest) (by simp))).2.1
  have hne : (pre ++ [p]).isEmpty = false := by simp
  simp only [hashIterateNext, hashCursor, hne, Bool.false_eq_true, if_false, lastPtr_concat, hp,
    Option.bind_some, hb]

/-- The current bucket was removed, and it was the first one of its chain: the one that is the first
now. -/
lemma hashIterateNext_removed_first {iters : ℕ} {r : ℕ × α}
    (h : HashRep cb mem hash (before ++ (r :: rest) :: after)) (hb : r.1 ≠ b.1) :
    hashIterateNext mem hash iters (hashCursor before.length ([] : List (ℕ × α)) b.1) =
      some (iters, some (hashCursor before.length ([] : List (ℕ × α)) r.1)) := by
  have hslot := h.slot
  have hne : some r.1 ≠ some b.1 := fun heq => hb (Option.some.inj heq)
  rw [headPtr_cons] at hslot
  simp only [hashIterateNext, hashCursor, List.isEmpty_nil, if_true, hslot, Option.bind_some, hne,
    if_false, Int.toNat_natCast, lastPtr_nil]

/-- The current bucket was removed, and it was the only one of its chain. -/
lemma hashIterateNext_removed_only {iters : ℕ}
    (h : HashRep cb mem hash (before ++ [] :: after)) :
    hashIterateNext mem hash iters (hashCursor before.length ([] : List (ℕ × α)) b.1) =
      some (hashForward hash iters
        { hashCursor before.length ([] : List (ℕ × α)) b.1 with bucket := none }) := by
  have hslot := h.slot
  rw [headPtr_nil] at hslot
  simp only [hashIterateNext, hashCursor, List.isEmpty_nil, if_true, hslot, Option.bind_some,
    reduceCtorEq, if_false, hashSelectNext]

/-- **What `hash_iterate` returns** at a bucket that was kept or removed, where `pre'` are the
buckets of the chain up to there: the next bucket of the chain, or one of a later chain.

**Proof sketch.** If the bucket was kept the checks find that.  If it was removed, the pointer to it
is no longer where the iterator looks for it, in the slot of the chain or in the bucket before. -/
lemma hashIterateNext_spec (iters : ℕ) {pre' : List (ℕ × α)}
    (h : HashRep cb mem hash (before ++ (pre' ++ rest) :: after))
    (hpre : pre' = pre ++ [b] ∨ pre' = pre ∧ headPtr none rest ≠ some b.1) :
    (∀ r rest', rest = r :: rest' →
      hashIterateNext mem hash iters (hashCursor before.length pre b.1) =
        some (iters, some (hashCursor before.length pre' r.1))) ∧
      (rest = [] → ∃ it : HashIt, it.index = before.length ∧
        hashIterateNext mem hash iters (hashCursor before.length pre b.1) =
          some (hashForward hash iters it)) := by
  rcases hpre with rfl | ⟨rfl, hb⟩
  · rw [List.append_assoc, List.singleton_append] at h
    rw [hashIterateNext_kept h]
    constructor
    · rintro r rest' rfl
      exact hashSelectNext_cons h rfl rfl
    · rintro rfl
      exact ⟨_, rfl, hashSelectNext_nil h rfl⟩
  · rcases List.eq_nil_or_concat pre' with rfl | ⟨pre, p, rfl⟩
    · constructor
      · rintro r rest' rfl
        exact hashIterateNext_removed_first h fun heq => hb (congrArg some heq)
      · rintro rfl
        exact ⟨_, rfl, hashIterateNext_removed_only h⟩
    · rw [List.concat_eq_append] at *
      rw [List.append_assoc, List.singleton_append] at h
      rw [hashIterateNext_removed h hb]
      constructor
      · rintro r rest' rfl
        exact hashSelectNext_cons h rfl rfl
      · rintro rfl
        exact ⟨_, rfl, hashSelectNext_nil h rfl⟩

/-- The chains from a slot on. -/
lemma HashRep.drop_slots (h : HashRep cb mem hash (before ++ after)) :
    hash.table.drop before.length = after.map (headPtr none) := by
  rw [h.table, List.map_append, List.drop_left' (by simp)]

section Forward

variable {iters : ℕ} {it : HashIt} (hindex : it.index + 1 = before.length)

include hindex

/-- There are no more chains. -/
lemma hashForward_nil (h : HashRep cb mem hash before) :
    hashForward hash iters it = (iters - 1, none) := by
  have hdrop : hash.table.drop before.length = [] := by
    rw [← h.length, List.drop_length]
  simp only [hashForward, hindex, Int.toNat_natCast, hdrop, hashSearch]

/-- An empty chain. -/
lemma hashForward_empty (h : HashRep cb mem hash (before ++ [] :: after)) :
    hashForward hash iters it = hashForward hash iters { it with index := it.index + 1 } := by
  have hdrop := h.drop_slots
  rw [List.map_cons, headPtr_nil] at hdrop
  have hdrop' : hash.table.drop (before.length + 1) = after.map (headPtr none) := by
    rw [← List.drop_drop, hdrop, List.drop_one, List.tail_cons]
  have hnext : ((before.length : ℤ) + 1).toNat = before.length + 1 := by omega
  simp only [hashForward, hindex, Int.toNat_natCast, hdrop, hashSearch, hnext, hdrop']

/-- A chain that is not empty. -/
lemma hashForward_cons (h : HashRep cb mem hash (before ++ (b :: rest) :: after)) :
    hashForward hash iters it =
      (iters, some (hashCursor before.length ([] : List (ℕ × α)) b.1)) := by
  have hdrop := h.drop_slots
  rw [List.map_cons, headPtr_cons] at hdrop
  simp only [hashForward, hindex, Int.toNat_natCast, hdrop, hashSearch]
  rfl

end Forward

/-! ### The loop -/

/-- **The body of a loop**: the chains lose the bucket, or keep it. -/
lemma hashLoopBody_spec {s : HashState α} (action : HashAction)
    (h : HashRep cb s.mem s.hash (before ++ (pre ++ b :: rest) :: after)) :
    ∃ s', (∀ walk > pre.length,
        hashLoopBody cb walk s (hashCursor before.length pre b.1) action = some (b.2, s')) ∧
      s'.iters = s.iters ∧
      HashRep cb s'.mem s'.hash
        (before ++ (if action = .keep then pre ++ b :: rest else pre ++ rest) :: after) := by
  have hb : s.mem b.1 = some ⟨b.2, headPtr none rest⟩ :=
    (linked_append.1 (h.linked (pre ++ b :: rest) (by simp))).2.1
  obtain ⟨mem', hash', hremove, hrep⟩ := hashRemoveBucket_spec h
  have hbucket : (hashCursor before.length pre b.1).bucket = some b.1 := rfl
  cases action with
  | keep =>
    refine ⟨s, fun walk _ => ?_, rfl, by simpa using h⟩
    simp only [hashLoopBody, hbucket, Option.bind_some, hb]
  | removeBucket =>
    refine ⟨⟨mem', hash', s.iters⟩, fun walk _ => ?_, rfl, by simpa using hrep⟩
    simp only [hashLoopBody, hbucket, Option.bind_some, hb, hremove, Option.map_some]
  | remove =>
    refine ⟨⟨mem', hash', s.iters⟩, fun walk hwalk => ?_, rfl, by simpa using hrep⟩
    have hcall := hashRemove_of_mem h hwalk
    rw [hremove, Option.map_some] at hcall
    simp only [hashLoopBody, hbucket, Option.bind_some, hb, hcall, Option.map_some]

/-- The rest of a turn, once `hash_iterate` returned. -/
def hashLoopTurn (cb : HashCallbacks α) (walk : ℕ) (malloc : Option HashIt) (act : ℕ → HashAction)
    (fuel turn : ℕ) (s : HashState α) (r : ℕ × Option HashIt) :
    Option (List (α × HashAction) × HashState α) :=
  match r.2 with
  | none => some ([], { s with iters := r.1 })
  | some it =>
    (hashLoopBody cb walk { s with iters := r.1 } it (act turn)).bind fun t =>
      (hashLoop cb walk malloc act fuel (turn + 1) t.2 (some it)).map fun u =>
        ((t.1, act turn) :: u.1, u.2)

lemma hashLoop_succ {walk fuel turn : ℕ} {malloc : Option HashIt} {act : ℕ → HashAction}
    {s : HashState α} {iterIn : Option HashIt} :
    hashLoop cb walk malloc act (fuel + 1) turn s iterIn =
      (hashIterate malloc s.mem s.hash s.iters iterIn).bind
        (hashLoopTurn cb walk malloc act fuel turn s) := rfl

/-- **How a loop ends** that has still to return the elements `todo`, in a table with at most `n`
elements: it returns them, the elements that were passed and those that are kept are in the table,
and the iterator is freed. -/
def HashLoopEnds (cb : HashCallbacks α) (size n : ℕ) (passed todo : List α) (iters : ℕ)
    (x : ℕ → ℕ → Option (List (α × HashAction) × HashState α)) : Prop :=
  ∃ log s chains, (∀ walk > n, ∀ fuel ≥ todo.length, x walk fuel = some (log, s)) ∧
    log.map Prod.fst = todo ∧ s.iters = iters ∧ HashRep cb s.mem s.hash chains ∧
    chains.length = size ∧ chains.flatten.map Prod.snd = passed ++ hashKept log

/-- One more element. -/
lemma HashLoopEnds.cons {size n iters : ℕ} {passed todo : List α} {d : α} {action : HashAction}
    {x x' : ℕ → ℕ → Option (List (α × HashAction) × HashState α)}
    (h : HashLoopEnds cb size n (passed ++ if action = .keep then [d] else []) todo iters x)
    (hx : ∀ walk > n, ∀ fuel,
      x' walk (fuel + 1) = (x walk fuel).map fun u => ((d, action) :: u.1, u.2)) :
    HashLoopEnds cb size n passed (d :: todo) iters x' := by
  obtain ⟨log, s, chains, hends, hlog, hiters, hrep, hlen, hkept⟩ := h
  refine ⟨(d, action) :: log, s, chains, fun walk hwalk fuel hfuel => ?_,
    by rw [List.map_cons, hlog], hiters, hrep, hlen, ?_⟩
  · obtain ⟨fuel, rfl⟩ := Nat.exists_eq_succ_of_ne_zero (Nat.ne_of_gt (Nat.zero_lt_of_lt hfuel))
    rw [hx walk hwalk, hends walk hwalk fuel (Nat.le_of_succ_le_succ hfuel), Option.map_some]
  · rw [hkept, hashKept, hashKept, List.append_assoc]
    by_cases hk : action = .keep
    · simp [hk]
    · simp [hk]

section Loop

variable {n : ℕ} (malloc : Option HashIt) (act : ℕ → HashAction)

/-- **One turn**: the body, and the next call of `hash_iterate`. -/
lemma hashLoopTurn_step {s : HashState α} (turn iters : ℕ)
    (h : HashRep cb s.mem s.hash (before ++ (pre ++ b :: rest) :: after))
    (hn : (before ++ (pre ++ b :: rest) :: after).flatten.length ≤ n) :
    ∃ s' pre', s'.iters = iters ∧
      HashRep cb s'.mem s'.hash (before ++ (pre' ++ rest) :: after) ∧
      pre'.map Prod.snd = pre.map Prod.snd ++ (if act turn = .keep then [b.2] else []) ∧
      (pre' = pre ++ [b] ∨ pre' = pre ∧ headPtr none rest ≠ some b.1) ∧
      (before ++ (pre' ++ rest) :: after).flatten.length ≤ n ∧
      ∀ walk > n, ∀ fuel, hashLoopTurn cb walk malloc act (fuel + 1) turn s
          (iters, some (hashCursor before.length pre b.1)) =
        ((hashIterateNext s'.mem s'.hash iters (hashCursor before.length pre b.1)).bind
          (hashLoopTurn cb walk malloc act fuel (turn + 1) s')).map
            fun u => ((b.2, act turn) :: u.1, u.2) := by
  have hpre : pre.length ≤ n := by
    refine le_trans ?_ hn
    refine le_trans ?_ (List.sublist_flatten_of_mem (by simp : pre ++ b :: rest ∈ _)).length_le
    exact (List.sublist_append_left _ _).length_le
  obtain ⟨s', hbody, hiters, hrep⟩ :=
    hashLoopBody_spec (s := { s with iters := iters }) (act turn) h
  have hturn : ∀ walk > n, ∀ fuel, hashLoopTurn cb walk malloc act (fuel + 1) turn s
      (iters, some (hashCursor before.length pre b.1)) =
        ((hashIterateNext s'.mem s'.hash iters (hashCursor before.length pre b.1)).bind
          (hashLoopTurn cb walk malloc act fuel (turn + 1) s')).map
            fun u => ((b.2, act turn) :: u.1, u.2) := by
    intro walk hwalk fuel
    simp only [hashLoopTurn, hbody walk (lt_of_le_of_lt hpre hwalk), Option.bind_some,
      hashLoop_succ, hashIterate]
    rw [hiters]
  by_cases hk : act turn = .keep
  · refine ⟨s', pre ++ [b], hiters, ?_, ?_, .inl rfl, by simpa using hn, hturn⟩
    · simpa [hk] using hrep
    · simp [hk]
  · refine ⟨s', pre, hiters, ?_, ?_, .inr ⟨rfl, ?_⟩, ?_, hturn⟩
    · simpa [hk] using hrep
    · simp [hk]
    · have hnodup := h.nodup_chain
      rw [List.map_append, List.nodup_append, List.map_cons, List.nodup_cons] at hnodup
      cases rest with
      | nil => simp
      | cons r rest =>
        intro heq
        exact hnodup.2.1.1 (by simp [← Option.some.inj heq])
    · simp only [List.flatten_append, List.flatten_cons, List.length_append,
        List.length_cons] at hn ⊢
      omega

/-- **A loop from a bucket on**, if it ends well from the next chain on.

**Proof sketch.** Induction on the rest of the chain.  The body keeps the bucket or removes it, and
`hash_iterate` returns the next one in either case. -/
lemma hashLoopTurn_chain
    (hafter : ∀ {before : List (List (ℕ × α))} {s : HashState α} (turn iters : ℕ) (it : HashIt),
      it.index + 1 = before.length → HashRep cb s.mem s.hash (before ++ after) →
      (before ++ after).flatten.length ≤ n →
      HashLoopEnds cb (before ++ after).length n (before.flatten.map Prod.snd)
        (after.flatten.map Prod.snd) (iters - 1) fun walk fuel =>
          hashLoopTurn cb walk malloc act fuel turn s (hashForward s.hash iters it)) :
    ∀ (pre : List (ℕ × α)) {b : ℕ × α} {s : HashState α} (turn iters : ℕ),
      HashRep cb s.mem s.hash (before ++ (pre ++ b :: rest) :: after) →
      (before ++ (pre ++ b :: rest) :: after).flatten.length ≤ n →
      HashLoopEnds cb (before.length + (after.length + 1)) n
        (before.flatten.map Prod.snd ++ pre.map Prod.snd)
        (b.2 :: (rest ++ after.flatten).map Prod.snd) (iters - 1) fun walk fuel =>
          hashLoopTurn cb walk malloc act fuel turn s
            (iters, some (hashCursor before.length pre b.1)) := by
  induction rest with
  | nil =>
    intro pre b s turn iters h hn
    obtain ⟨s', pre', -, hrep, hsnd, hpre, hn', hturn⟩ := hashLoopTurn_step malloc act turn
      iters h hn
    obtain ⟨it, hindex, hnext⟩ := (hashIterateNext_spec iters hrep hpre).2 rfl
    have hsplit : before ++ (pre' ++ []) :: after = (before ++ [pre']) ++ after := by simp
    rw [hsplit] at hrep hn'
    have hends := hafter (turn + 1) iters it (by simp [hindex]) hrep hn'
    have hpassed : (before ++ [pre']).flatten.map Prod.snd =
        before.flatten.map Prod.snd ++ pre.map Prod.snd ++
          (if act turn = .keep then [b.2] else []) := by
      rw [List.flatten_append, List.flatten_singleton, List.map_append, hsnd, List.append_assoc]
    have hlen : (before ++ [pre'] ++ after).length = before.length + (after.length + 1) := by
      simp
    rw [hpassed, hlen] at hends
    refine hends.cons fun walk hwalk fuel => ?_
    rw [hturn walk hwalk, hnext, Option.bind_some]
  | cons r rest ih =>
    intro pre b s turn iters h hn
    obtain ⟨s', pre', -, hrep, hsnd, hpre, hn', hturn⟩ := hashLoopTurn_step malloc act turn
      iters h hn
    have hnext := (hashIterateNext_spec iters hrep hpre).1 r rest rfl
    have hends := ih pre' (turn + 1) iters hrep hn'
    rw [hsnd, ← List.append_assoc] at hends
    refine hends.cons fun walk hwalk fuel => ?_
    rw [hturn walk hwalk, hnext, Option.bind_some]

/-- **A loop from a chain on**: it returns all elements of the chains that are left.

**Proof sketch.** Induction on the chains that are left. -/
lemma hashLoop_spec : ∀ {before : List (List (ℕ × α))} {s : HashState α} (turn iters : ℕ)
    (it : HashIt), it.index + 1 = before.length → HashRep cb s.mem s.hash (before ++ after) →
    (before ++ after).flatten.length ≤ n →
    HashLoopEnds cb (before ++ after).length n (before.flatten.map Prod.snd)
      (after.flatten.map Prod.snd) (iters - 1) fun walk fuel =>
        hashLoopTurn cb walk malloc act fuel turn s (hashForward s.hash iters it) := by
  induction after with
  | nil =>
    intro before s turn iters it hindex h _
    rw [List.append_nil] at h ⊢
    rw [hashForward_nil hindex h]
    exact ⟨[], { s with iters := iters - 1 }, before, fun _ _ _ _ => rfl, rfl, rfl, h, rfl,
      (List.append_nil _).symm⟩
  | cons chain after ih =>
    intro before s turn iters it hindex h hn
    cases chain with
    | nil =>
      rw [hashForward_empty hindex h]
      have hsplit : before ++ [] :: after = (before ++ [[]]) ++ after := by simp
      rw [hsplit] at h hn ⊢
      have hends := ih turn iters { it with index := it.index + 1 } (by simp [hindex]) h hn
      simpa using hends
    | cons b rest =>
      rw [hashForward_cons hindex h]
      have hends := hashLoopTurn_chain malloc act ih [] turn iters h hn
      simpa using hends

/-- **A whole loop**, for which an iterator is allocated. -/
lemma hashLoop_ends (it : HashIt) {s : HashState α} (h : HashRep cb s.mem s.hash chains) :
    HashLoopEnds cb chains.length chains.flatten.length [] (chains.flatten.map Prod.snd) s.iters
      fun walk fuel => hashLoop cb walk (some it) act (fuel + 1) 0 s none :=
  have hstart : HashRep cb s.mem s.hash ([] ++ chains) := h
  hashLoop_spec (some it) act 0 (s.iters + 1)
    { it with index := -1, bucket := none, prevBucket := none } (by simp) hstart le_rfl

end Loop

/-- A call has only one result. -/
lemma HashReturns.unique {β : Type} {call : ℕ → Option β} {r r' : β} (h : HashReturns call r)
    (h' : HashReturns call r') : r = r' := by
  obtain ⟨n, hn⟩ := h
  obtain ⟨n', hn'⟩ := h'
  have heq := (hn (max n n') (le_max_left _ _)).symm.trans (hn' (max n n') (le_max_right _ _))
  exact Option.some.inj heq

/-- **What a whole loop returns**, for which an iterator is allocated. -/
lemma hashLoop_returns (act : ℕ → HashAction) (it : HashIt) (s : HashState α)
    (h : HashRep cb s.mem s.hash chains) :
    ∃ log s', HashReturns (fun fuel => hashLoop cb fuel (some it) act fuel 0 s none) (log, s') ∧
      log.map Prod.fst = chains.flatten.map Prod.snd ∧ s'.iters = s.iters ∧
      ∃ chains', HashRep cb s'.mem s'.hash chains' ∧ chains'.length = chains.length ∧
        chains'.flatten.map Prod.snd = hashKept log := by
  obtain ⟨log, s', chains', hends, hlog, hiters, hrep, hlen, hkept⟩ :=
    hashLoop_ends act it h
  rw [List.length_map] at hends
  refine ⟨log, s', ⟨chains.flatten.length + 1, fun fuel hfuel => ?_⟩, hlog, hiters, chains', hrep,
    hlen, hkept⟩
  obtain ⟨fuel, rfl⟩ : ∃ f, fuel = f + 1 := ⟨fuel - 1, by omega⟩
  exact hends (fuel + 1) hfuel fuel (Nat.le_of_succ_le_succ hfuel)

/-- What a loop returns for which none is allocated. -/
lemma hashLoop_returns_nil (act : ℕ → HashAction) (s : HashState α) :
    HashReturns (fun fuel => hashLoop cb fuel none act fuel 0 s none) ([], s) := by
  refine ⟨1, fun fuel hfuel => ?_⟩
  obtain ⟨fuel, rfl⟩ : ∃ f, fuel = f + 1 := ⟨fuel - 1, by omega⟩
  rfl

/-- **A table that can be reached has chains.**

**Proof sketch.** Induction on how it was made; each function keeps the chains, by its
specification. -/
lemma HashReachable.rep (h : HashReachable cb mem hash) :
    ∃ chains, HashRep cb mem hash chains ∧ chains ≠ [] := by
  induction h with
  | @new mem alloc size hash hsize hnew =>
    have hinit : hashInit size = hash := by
      unfold hashNew at hnew
      split_ifs at hnew
      exact Option.some.inj hnew
    refine ⟨List.replicate size [], ?_, ?_⟩
    · rw [← hinit]
      exact hashInit_rep size
    · exact List.ne_nil_of_length_pos (by simpa using hsize)
  | @add mem mem' hash hash' data malloc ok _ hmalloc hadd ih =>
    obtain ⟨chains, hrep, hne⟩ := ih
    obtain ⟨ok', m, t, chains', hcall, hrep', hne'⟩ := hashAdd_spec (d := data) hrep hne hmalloc
    have heq := hadd.unique ⟨_, hcall⟩
    simp only [Prod.mk.injEq] at heq
    rw [heq.2.1, heq.2.2]
    exact ⟨chains', hrep', hne'⟩
  | @remove mem mem' hash hash' data data' _ hremove ih =>
    obtain ⟨chains, hrep, hne⟩ := ih
    rcases hashRemove_spec (d := data) hrep hne with hnone | ⟨d, m, t, chains', hsome, hrep', hne'⟩
    · exact absurd (hremove.unique ⟨_, hnone⟩) (by simp)
    · have heq := hremove.unique ⟨_, hsome⟩
      simp only [Option.some.injEq, Prod.mk.injEq] at heq
      rw [heq.2.1, heq.2.2]
      exact ⟨chains', hrep', hne'⟩
  | @resize mem mem' hash hash' size alloc _ hsize hresize ih =>
    obtain ⟨chains, hrep, hne⟩ := ih
    cases alloc with
    | false => exact absurd (hresize.unique ⟨0, fun _ _ => rfl⟩) (by simp)
    | true =>
      obtain ⟨m, t, chains', hsome, hrep', hlen, -⟩ := hashResize_spec hrep hsize
      have heq := hresize.unique ⟨_, hsome⟩
      simp only [Option.some.injEq, Prod.mk.injEq] at heq
      rw [heq.1, heq.2]
      exact ⟨chains', hrep', List.ne_nil_of_length_pos (hlen ▸ hsize)⟩
  | @loop mem mem' hash hash' malloc act iters iters' log _ hloop ih =>
    obtain ⟨chains, hrep, hne⟩ := ih
    cases malloc with
    | none =>
      have heq := hloop.unique (hashLoop_returns_nil act ⟨mem, hash, iters⟩)
      simp only [Prod.mk.injEq, HashState.mk.injEq] at heq
      rw [heq.2.1, heq.2.2.1]
      exact ⟨chains, hrep, hne⟩
    | some it =>
      obtain ⟨log', s, hends, -, -, chains', hrep', hlen, -⟩ :=
        hashLoop_returns act it ⟨mem, hash, iters⟩ hrep
      have hs : (⟨mem', hash', iters'⟩ : HashState α) = s :=
        congrArg Prod.snd (hloop.unique hends)
      refine ⟨chains', ?_, List.ne_nil_of_length_pos ?_⟩
      · rw [← hs] at hrep'
        exact hrep'
      · rw [hlen]
        exact List.length_pos_iff.2 hne

/-- **Loops over a table that can be reached**, in which each element may be removed while it is the
current one, by either function.  If an iterator is allocated, the loop ends and frees it, every
element is returned once, and the elements that were not removed are in the table, with their
number in its counter.  Otherwise the loop returns nothing and changes nothing.  A new size keeps
the elements if the new table is allocated, and otherwise there is none.  No call accesses a bucket
that is not allocated, since it would fail.

**Proof sketch.** The table has chains, by induction on how it was made.  The loop is followed along
the chains, with what was passed and what is left. -/
theorem hash_tolerates_removal (cb : HashCallbacks α) (mem : Mem α) (hash : Hashtable)
    (h : HashReachable cb mem hash) :
    ∃ l, HashHolds mem hash l ∧ hash.elements = BitVec.ofNat 32 l.length ∧
      (∀ it act iters, ∃ log mem' hash',
        HashReturns (fun fuel => hashLoop cb fuel (some it) act fuel 0 ⟨mem, hash, iters⟩ none)
          (log, ⟨mem', hash', iters⟩) ∧
        log.map Prod.fst = l ∧ HashHolds mem' hash' (hashKept log) ∧
        hash'.elements = BitVec.ofNat 32 (hashKept log).length) ∧
      (∀ act iters, HashReturns
        (fun fuel => hashLoop cb fuel none act fuel 0 ⟨mem, hash, iters⟩ none)
        ([], ⟨mem, hash, iters⟩)) ∧
      (∀ size > 0, ∃ mem' hash' l',
        HashReturns (fun fuel => hashResize cb fuel mem hash size true) (some (mem', hash')) ∧
        l'.Perm l ∧ HashHolds mem' hash' l' ∧ hash'.elements = BitVec.ofNat 32 l'.length) ∧
      ∀ size, HashReturns (fun fuel => hashResize cb fuel mem hash size false) none := by
  obtain ⟨chains, hrep, -⟩ := h.rep
  refine ⟨chains.flatten.map Prod.snd, hrep.holds, by rw [hrep.elements, List.length_map],
    fun it act iters => ?_, fun act iters => hashLoop_returns_nil act _, fun size hsize => ?_,
    fun size => ⟨0, fun _ _ => rfl⟩⟩
  · obtain ⟨log, ⟨mem', hash', iters'⟩, hends, hlog, hiters, chains', hrep', -, hkept⟩ :=
      hashLoop_returns act it ⟨mem, hash, iters⟩ hrep
    obtain rfl : iters' = iters := hiters
    exact ⟨log, mem', hash', hends, hlog, hkept ▸ hrep'.holds,
      by rw [hrep'.elements, ← hkept, List.length_map]⟩
  · obtain ⟨mem', hash', chains', hcall, hrep', -, hperm⟩ := hashResize_spec hrep hsize
    exact ⟨mem', hash', chains'.flatten.map Prod.snd, ⟨_, hcall⟩, hperm.map _, hrep'.holds,
      by rw [hrep'.elements, List.length_map]⟩

/-- A host. -/
def hostA : BatHost := ⟨0x02000000000a, "a"⟩

/-- Another host. -/
def hostB : BatHost := ⟨0x02000000000b, "b"⟩

/-- The buckets of the two hosts in memory. -/
def twoHostsMem : Mem BatHost := fun
  | 1 => some ⟨hostA, some 2⟩
  | 2 => some ⟨hostB, none⟩
  | _ => none

/-- A table of size 1 to which the two hosts were added. -/
lemma twoHosts_reachable : HashReachable macCallbacks twoHostsMem ⟨[some 1], 2⟩ := by
  have hchoose : ∀ host, macCallbacks.choose host 1 = 0 := fun host => Nat.mod_one _
  have hne : macCallbacks.compare hostA hostB = false := by decide
  have haddA : HashReturns (fun fuel => hashAdd macCallbacks fuel (fun _ => none) (hashInit 1) hostA
      (some (1, ⟨hostA, none⟩)))
      (true, Function.update (fun _ => none) 1 (some ⟨hostA, none⟩), ⟨[some 1], 1⟩) := by
    refine ⟨1, fun fuel hfuel => ?_⟩
    obtain ⟨fuel, rfl⟩ : ∃ f, fuel = f + 1 := ⟨fuel - 1, by omega⟩
    simp [hashAdd, hashAddBucket, hashInit, hchoose, hashFindEnd]
  have hmem : Function.update (Function.update (Function.update (Function.update
      (fun _ => none) 1 (some ⟨hostA, none⟩)) 2 (some ⟨hostA, none⟩)) 2
        (some ⟨hostB, none⟩)) 1 (some ⟨hostA, some 2⟩) = twoHostsMem := by
    funext x
    rcases x with _ | _ | _ | x
    · rfl
    · rfl
    · rfl
    · simp [twoHostsMem]
  have haddB : HashReturns (fun fuel => hashAdd macCallbacks fuel
      (Function.update (fun _ => none) 1 (some ⟨hostA, none⟩)) ⟨[some 1], 1⟩ hostB
      (some (2, ⟨hostA, none⟩))) (true, twoHostsMem, ⟨[some 1], 2⟩) := by
    refine ⟨2, fun fuel hfuel => ?_⟩
    obtain ⟨fuel, rfl⟩ : ∃ f, fuel = f + 2 := ⟨fuel - 2, by omega⟩
    rw [← hmem]
    simp [hashAdd, hashAddBucket, hchoose, hashFindEnd, hne]
  have hinit : hashNew true 1 = some (hashInit 1) := rfl
  refine .add (.add (.new Nat.one_pos hinit) (fun _ _ => rfl) haddA) ?_ haddB
  rintro r ⟨⟩
  rfl

/-- The elements of that table. -/
lemma twoHosts_holds : HashHolds twoHostsMem ⟨[some 1], 2⟩ [hostA, hostB] := by
  refine ⟨[[(1, hostA), (2, hostB)]], rfl, fun c hc => ?_, by decide, rfl⟩
  rw [List.mem_singleton.1 hc]
  exact ⟨rfl, rfl, trivial⟩

/-- The first of two hosts is removed: both are returned, and the second one remains. -/
theorem hash_tolerates_removal_two : ∃ log mem' hash',
    HashReturns (fun fuel => hashLoop macCallbacks fuel (some ⟨0, none, none, none⟩)
      (fun turn => if turn = 0 then .remove else .keep) fuel 0 ⟨twoHostsMem, ⟨[some 1], 2⟩, 0⟩ none)
      (log, ⟨mem', hash', 0⟩) ∧ log.map Prod.fst = [hostA, hostB] ∧
    HashHolds mem' hash' (hashKept log) := by
  obtain ⟨l, hholds, -, hloop, -⟩ :=
    hash_tolerates_removal macCallbacks twoHostsMem ⟨[some 1], 2⟩ twoHosts_reachable
  obtain ⟨log, mem', hash', hreturns, hlog, hkept, -⟩ := hloop ⟨0, none, none, none⟩
    (fun turn => if turn = 0 then .remove else .keep) 0
  exact ⟨log, mem', hash', hreturns, hlog.trans (hholds.unique twoHosts_holds), hkept⟩

/-- **Without memory for an iterator** a loop returns none of the elements. -/
theorem hash_loop_without_iterator :
    HashReachable macCallbacks twoHostsMem ⟨[some 1], 2⟩ ∧
      HashHolds twoHostsMem ⟨[some 1], 2⟩ [hostA, hostB] ∧
      HashReturns (fun fuel => hashLoop macCallbacks fuel none (fun _ => .keep) fuel 0
        ⟨twoHostsMem, ⟨[some 1], 2⟩, 0⟩ none) ([], ⟨twoHostsMem, ⟨[some 1], 2⟩, 0⟩) :=
  ⟨twoHosts_reachable, twoHosts_holds, hashLoop_returns_nil _ _⟩

end Batctl
