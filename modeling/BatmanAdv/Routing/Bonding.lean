import BatmanAdv.BatV.BestNeighbor
import BatmanAdv.Lib.Rotation

set_option relaxedAutoImplicit false
set_option autoImplicit false

/-!
# Bonding (`routing.c`, `bat_v.c`)

An originator has a router for every outgoing interface.  With bonding, `batadv_find_router` uses
those that are about as good as the default router by turns, and remembers the last one.  Whether a
router is good enough is for the routing algorithm to say.  The one of B.A.T.M.A.N. V compares the
wrong way around: the default router has to be similar to the candidate, or better.

The loop is meant to go on behind the last candidate.  It skips the router of the last candidate
before it looks whether it has come to it, so it always starts from the front.

## Main definitions

* `Batadv.BondMem`, `Batadv.BondOrig` — what is behind the pointers, and an originator.
* `Batadv.findRouter` — `batadv_find_router`, with its loop in `Batadv.bondingLoop`.
* `Batadv.vNeighIsSob` — `batadv_v_neigh_is_sob`.
* `Batadv.bondCandidates` — the records of the list that are good enough.
* `Batadv.VBondingSimilar`, `Batadv.UsesInTurn` — what bonding should do.

## Main results

* `Batadv.findRouter_bonding` — the first candidate with another router than the last one's.
* `Batadv.v_bonding_similar_iff` — it is similar to the default router, or better, if and only if
  the first one is that the comparison lets pass.
* `Batadv.bonding_in_turn_iff` — the candidates are used in turn if and only if there are two.
-/

namespace Batadv

variable {ι ν : Type*}

/-! ### The data -/

/-- `struct batadv_orig_ifinfo`, as far as it is read here; `ν` are the pointers to neighbours. -/
structure BondIfinfo (ν : Type*) where
  ifOutgoing : IfKey
  router : Option ν
  /-- The record is not being freed: `kref_get_unless_zero` takes a reference. -/
  refcount : Bool

/-- What is behind the pointers `ι` to the records of an originator and `ν` to neighbours. -/
structure BondMem (ι ν : Type*) where
  ifinfo : ι → BondIfinfo ν
  neigh : ν → NeighNode
  /-- The neighbour is not being freed. -/
  neighRefcount : ν → Bool

/-- `struct batadv_orig_node`.  The last candidate may have left the list. -/
structure BondOrig (ι : Type*) where
  ifinfoList : List ι
  lastBondingCandidate : Option ι

/-! ### The functions -/

/-- `batadv_orig_router_get`. -/
def BondMem.origRouterGet (mem : BondMem ι ν) (orig : BondOrig ι) (ifOutgoing : IfKey) :
    Option ν :=
  ((orig.ifinfoList.find? fun i => (mem.ifinfo i).ifOutgoing == ifOutgoing).bind
    fun i => (mem.ifinfo i).router).filter mem.neighRefcount

section FindRouter

variable [DecidableEq ι] [DecidableEq ν]

/-- The loop of `batadv_find_router`: `first_candidate` and `next_candidate`, each with its router.
`isSob` compares a candidate with the default router. -/
def bondingLoop (mem : BondMem ι ν) (isSob : ν → IfKey → Bool) (lastCandidate : Option ι)
    (lastCandRouter : Option ν) :
    List ι → Option (ι × ν) → Bool → Option (ι × ν) × Option (ι × ν)
  | [], firstCandidate, _ => (firstCandidate, none)
  | cand :: list, firstCandidate, lastCandidateFound =>
    let next := bondingLoop mem isSob lastCandidate lastCandRouter list
    if !(mem.ifinfo cand).refcount then next firstCandidate lastCandidateFound
    else
      match (mem.ifinfo cand).router with
      | none => next firstCandidate lastCandidateFound
      | some candRouter =>
        if !mem.neighRefcount candRouter then next firstCandidate lastCandidateFound
        else if !isSob candRouter (mem.ifinfo cand).ifOutgoing then
          next firstCandidate lastCandidateFound
        -- the last candidate itself is skipped here
        else if lastCandRouter = some candRouter then next firstCandidate lastCandidateFound
        else
          let firstCandidate := firstCandidate.getD (cand, candRouter)
          if lastCandidate.isNone || lastCandidateFound then
            (some firstCandidate, some (cand, candRouter))
          else next (some firstCandidate) (lastCandidateFound || lastCandidate == some cand)

/-- `batadv_find_router` with `bao->neigh.is_similar_or_better`; the originator is returned with the
candidate it remembers. -/
def findRouter (mem : BondMem ι ν) (isSimilarOrBetter : ν → IfKey → ν → IfKey → Bool)
    (bonding : Bool) (origNode : Option (BondOrig ι)) (recvIf : IfKey) :
    Option ν × Option (BondOrig ι) :=
  match origNode with
  | none => (none, none)
  | some orig =>
    match mem.origRouterGet orig recvIf with
    | none => (none, some orig)
    | some router =>
      if !(recvIf.isNone && bonding) then (some router, some orig)
      else
        let lastCandRouter := orig.lastBondingCandidate.bind fun i => (mem.ifinfo i).router
        let candidates := bondingLoop mem
          (fun candRouter ifOutgoing => isSimilarOrBetter candRouter ifOutgoing router recvIf)
          orig.lastBondingCandidate lastCandRouter orig.ifinfoList none false
        match candidates.2.or candidates.1 with
        | some cand => (some cand.2, some { orig with lastBondingCandidate := some cand.1 })
        | none => (some router, some { orig with lastBondingCandidate := none })

end FindRouter

/-- `batadv_v_neigh_is_sob`. -/
def vNeighIsSob (neigh1 : NeighNode) (ifOutgoing1 : IfKey) (neigh2 : NeighNode)
    (ifOutgoing2 : IfKey) : Bool :=
  match neigh1.ifinfoList.get ifOutgoing1 with
  | none => false
  | some ifinfo1 =>
    match neigh2.ifinfoList.get ifOutgoing2 with
    | none => false
    | some ifinfo2 =>
      let threshold := ifinfo1.airtimeCost / 4
      let threshold := ifinfo1.airtimeCost + threshold
      decide (ifinfo2.airtimeCost ≤ threshold)

/-- `batadv_v_neigh_is_sob` for pointers. -/
def BondMem.vIsSob (mem : BondMem ι ν) (neigh1 : ν) (ifOutgoing1 : IfKey) (neigh2 : ν)
    (ifOutgoing2 : IfKey) : Bool :=
  vNeighIsSob (mem.neigh neigh1) ifOutgoing1 (mem.neigh neigh2) ifOutgoing2

/-! ### The candidates -/

/-- The router of a record that is good enough. -/
def candRouter (mem : BondMem ι ν) (isSob : ν → IfKey → Bool) (cand : ι) : Option ν :=
  if (mem.ifinfo cand).refcount then
    (mem.ifinfo cand).router.filter fun router =>
      mem.neighRefcount router && isSob router (mem.ifinfo cand).ifOutgoing
  else none

/-- The records of a list that are good enough, with their routers. -/
def candidatesOf (mem : BondMem ι ν) (isSob : ν → IfKey → Bool) (list : List ι) : List (ι × ν) :=
  list.filterMap fun cand => (candRouter mem isSob cand).map fun router => (cand, router)

/-- The candidates of an originator: the records that are similar to its default router or
better. -/
def bondCandidates (mem : BondMem ι ν) (isSimilarOrBetter : ν → IfKey → ν → IfKey → Bool)
    (orig : BondOrig ι) : List (ι × ν) :=
  match mem.origRouterGet orig none with
  | none => []
  | some router =>
    candidatesOf mem (fun r ifOutgoing => isSimilarOrBetter r ifOutgoing router none)
      orig.ifinfoList

lemma candRouter_eq_some_iff {mem : BondMem ι ν} {isSob : ν → IfKey → Bool} {cand : ι}
    {router : ν} :
    candRouter mem isSob cand = some router ↔
      (mem.ifinfo cand).refcount = true ∧ (mem.ifinfo cand).router = some router ∧
        mem.neighRefcount router = true ∧ isSob router (mem.ifinfo cand).ifOutgoing = true := by
  unfold candRouter
  split_ifs with h
  · simp [h, Option.filter_eq_some_iff]
  · simp [h]

lemma mem_candidatesOf {mem : BondMem ι ν} {isSob : ν → IfKey → Bool} {list : List ι}
    {cand : ι × ν} :
    cand ∈ candidatesOf mem isSob list ↔
      cand.1 ∈ list ∧ candRouter mem isSob cand.1 = some cand.2 := by
  obtain ⟨i, r⟩ := cand
  simp only [candidatesOf, List.mem_filterMap, Option.map_eq_some_iff, Prod.mk.injEq]
  constructor
  · rintro ⟨_, hi, _, hr, rfl, rfl⟩
    exact ⟨hi, hr⟩
  · rintro ⟨hi, hr⟩
    exact ⟨i, hi, r, hr, rfl, rfl⟩

section FindRouter

variable [DecidableEq ι] [DecidableEq ν] {mem : BondMem ι ν}

/-- The first candidate with another router. -/
def otherCandidate (candidates : List (ι × ν)) (lastRouter : Option ν) : Option (ι × ν) :=
  candidates.find? fun cand => decide (lastRouter ≠ some cand.2)

omit [DecidableEq ι] in
/-- The first candidate with another router, in terms of the list. -/
lemma otherCandidate_eq_some_iff {isSob : ν → IfKey → Bool} {list : List ι}
    {last : Option ν} {cand : ι} {r : ν} :
    otherCandidate (candidatesOf mem isSob list) last = some (cand, r) ↔
      ∃ pre post, list = pre ++ cand :: post ∧
        (∀ i ∈ pre, ∀ r', candRouter mem isSob i = some r' → last = some r') ∧
          candRouter mem isSob cand = some r ∧ last ≠ some r := by
  induction list with
  | nil => simp [candidatesOf, otherCandidate]
  | cons i list ih =>
    have hskip (hi : ∀ r', candRouter mem isSob i = some r' → last = some r') :
        (∃ pre post, i :: list = pre ++ cand :: post ∧
          (∀ j ∈ pre, ∀ r', candRouter mem isSob j = some r' → last = some r') ∧
            candRouter mem isSob cand = some r ∧ last ≠ some r) ↔
          ∃ pre post, list = pre ++ cand :: post ∧
            (∀ j ∈ pre, ∀ r', candRouter mem isSob j = some r' → last = some r') ∧
              candRouter mem isSob cand = some r ∧ last ≠ some r := by
      constructor
      · rintro ⟨pre, post, hlist, hpre, hr, hne⟩
        cases pre with
        | nil =>
          obtain ⟨rfl, rfl⟩ := List.cons.inj hlist
          exact absurd (hi r hr) hne
        | cons j pre =>
          obtain ⟨rfl, rfl⟩ := List.cons.inj hlist
          exact ⟨pre, post, rfl, fun k hk => hpre k (List.mem_cons_of_mem _ hk), hr, hne⟩
      · rintro ⟨pre, post, rfl, hpre, hr, hne⟩
        exact ⟨i :: pre, post, rfl, List.forall_mem_cons.2 ⟨hi, hpre⟩, hr, hne⟩
    cases h : candRouter mem isSob i with
    | none =>
      rw [hskip (by simp [h]), ← ih]
      simp [candidatesOf, h]
    | some router =>
      by_cases hlast : last = some router
      · rw [hskip (by simp [h, hlast]), ← ih]
        simp [candidatesOf, otherCandidate, h, hlast]
      · have hfirst : otherCandidate (candidatesOf mem isSob (i :: list)) last =
            some (i, router) := by
          simp [candidatesOf, otherCandidate, h, hlast]
        rw [hfirst]
        constructor
        · intro heq
          obtain ⟨rfl, rfl⟩ := Prod.mk.inj (Option.some.inj heq)
          exact ⟨[], list, rfl, by simp, h, hlast⟩
        · rintro ⟨pre, post, hlist, hpre, hr, hne⟩
          cases pre with
          | nil =>
            obtain ⟨rfl, rfl⟩ := List.cons.inj hlist
            rw [Option.some.inj (h.symm.trans hr)]
          | cons j pre =>
            obtain ⟨rfl, rfl⟩ := List.cons.inj hlist
            exact absurd (hpre i (List.mem_cons_self ..) router h) hlast

/-- A record that is not good enough is passed over. -/
lemma bondingLoop_cons_none {isSob : ν → IfKey → Bool} {cand : ι}
    (h : candRouter mem isSob cand = none) (lastCandidate : Option ι) (lastRouter : Option ν)
    (list : List ι) (first : Option (ι × ν)) (found : Bool) :
    bondingLoop mem isSob lastCandidate lastRouter (cand :: list) first found =
      bondingLoop mem isSob lastCandidate lastRouter list first found := by
  rw [bondingLoop]
  unfold candRouter at h
  cases hr : (mem.ifinfo cand).router with
  | none => simp
  | some router =>
    rw [hr] at h
    by_cases href : (mem.ifinfo cand).refcount
    · by_cases hn : mem.neighRefcount router
      · have hsob : isSob router (mem.ifinfo cand).ifOutgoing = false := by
          simpa [href, hn, Option.filter] using h
        simp [hsob]
      · simp [hn]
    · simp [href]

/-- A record that is good enough is taken unless it has the last router. -/
lemma bondingLoop_cons_some {isSob : ν → IfKey → Bool} {cand : ι} {router : ν}
    (h : candRouter mem isSob cand = some router) (lastCandidate : Option ι)
    (lastRouter : Option ν) (list : List ι) (first : Option (ι × ν)) (found : Bool) :
    bondingLoop mem isSob lastCandidate lastRouter (cand :: list) first found =
      if lastRouter = some router then
        bondingLoop mem isSob lastCandidate lastRouter list first found
      else if lastCandidate.isNone || found then
        (some (first.getD (cand, router)), some (cand, router))
      else
        bondingLoop mem isSob lastCandidate lastRouter list (some (first.getD (cand, router)))
          (found || lastCandidate == some cand) := by
  obtain ⟨href, hr, hn, hsob⟩ := candRouter_eq_some_iff.1 h
  rw [bondingLoop]
  simp [href, hr, hn, hsob]

/-- Without a last candidate the loop stops at the first one. -/
lemma bondingLoop_none (isSob : ν → IfKey → Bool) (list : List ι) :
    bondingLoop mem isSob none none list none false =
      (otherCandidate (candidatesOf mem isSob list) none,
        otherCandidate (candidatesOf mem isSob list) none) := by
  induction list with
  | nil => rfl
  | cons cand list ih =>
    cases h : candRouter mem isSob cand with
    | none =>
      rw [bondingLoop_cons_none h, ih]
      simp [candidatesOf, h]
    | some router =>
      rw [bondingLoop_cons_some h]
      simp [candidatesOf, otherCandidate, h]

/-- **With a last candidate the loop never comes to it**, so that there is no next candidate: the
record of the last candidate is skipped with its router. -/
lemma bondingLoop_some (isSob : ν → IfKey → Bool) (last : ι) (list : List ι)
    (first : Option (ι × ν)) :
    bondingLoop mem isSob (some last) (mem.ifinfo last).router list first false =
      (first.or (otherCandidate (candidatesOf mem isSob list) (mem.ifinfo last).router),
        none) := by
  induction list generalizing first with
  | nil => simp [bondingLoop, candidatesOf, otherCandidate]
  | cons cand list ih =>
    cases h : candRouter mem isSob cand with
    | none =>
      rw [bondingLoop_cons_none h, ih]
      simp [candidatesOf, h]
    | some router =>
      rw [bondingLoop_cons_some h]
      have hr := (candRouter_eq_some_iff.1 h).2.1
      by_cases hlast : (mem.ifinfo last).router = some router
      · rw [if_pos hlast, ih]
        simp [candidatesOf, otherCandidate, h, hlast]
      · have hne : last ≠ cand := by
          rintro rfl
          exact hlast hr
        have hbeq : (some last == some cand) = false := by simpa using hne
        rw [if_neg hlast, Option.isNone_some, Bool.or_false, if_neg Bool.false_ne_true,
          Bool.false_or, hbeq, ih]
        cases first <;> simp [candidatesOf, otherCandidate, h, hlast]

/-- The router of the last candidate. -/
def lastRouter (mem : BondMem ι ν) (orig : BondOrig ι) : Option ν :=
  orig.lastBondingCandidate.bind fun i => (mem.ifinfo i).router

/-- **What bonding chooses**: the first candidate with another router than that of the last
candidate, and otherwise the default router. -/
theorem findRouter_bonding (isSimilarOrBetter : ν → IfKey → ν → IfKey → Bool)
    {orig : BondOrig ι} {router : ν} (h : mem.origRouterGet orig none = some router) :
    findRouter mem isSimilarOrBetter true (some orig) none =
      ((otherCandidate (bondCandidates mem isSimilarOrBetter orig) (lastRouter mem orig)).elim
          (some router) (fun cand => some cand.2),
        some { orig with
          lastBondingCandidate :=
            (otherCandidate (bondCandidates mem isSimilarOrBetter orig)
              (lastRouter mem orig)).map Prod.fst }) := by
  have hor : ∀ o : Option (ι × ν), o.or o = o := by
    intro o
    cases o <;> rfl
  unfold findRouter bondCandidates lastRouter
  simp only [h, Option.isNone_none, Bool.true_and, Bool.not_true, Bool.false_eq_true, if_false]
  cases hlast : orig.lastBondingCandidate with
  | none =>
    simp only [Option.bind_none, bondingLoop_none, hor]
    cases otherCandidate (candidatesOf mem _ orig.ifinfoList) none <;> rfl
  | some last =>
    simp only [Option.bind_some, bondingLoop_some, Option.none_or]
    cases otherCandidate (candidatesOf mem _ orig.ifinfoList) (mem.ifinfo last).router <;> rfl

/-! ### Similar or better -/

/-- `c` is at most a quarter above `b`, computed without wrapping. -/
def SimilarOrBetter (c b : U32) : Prop := c.toNat ≤ b.toNat + b.toNat / 4

/-- The cost of a router for an interface. -/
def BondMem.cost (mem : BondMem ι ν) (router : ν) (ifOutgoing : IfKey) : Option U32 :=
  (mem.neigh router).cost ifOutgoing

omit [DecidableEq ι] [DecidableEq ν] in
/-- The comparison lets a candidate pass whose cost is low enough for the default router to be
similar to it. -/
lemma vIsSob_iff (mem : BondMem ι ν) (r : ν) (ifOutgoing : IfKey) (router : ν) :
    mem.vIsSob r ifOutgoing router none = true ↔
      ∃ c ∈ mem.cost r ifOutgoing, ∃ b ∈ mem.cost router none,
        b.toNat ≤ (c.toNat + c.toNat / 4) % 2 ^ 32 := by
  unfold BondMem.vIsSob vNeighIsSob BondMem.cost NeighNode.cost
  cases (mem.neigh r).ifinfoList.get ifOutgoing with
  | none => simp
  | some ifinfo1 =>
    cases (mem.neigh router).ifinfoList.get none with
    | none => simp
    | some ifinfo2 => simp [BitVec.le_def]

/-- **Bonding uses similar routers only**: the one that is returned is the default router, or is
similar to it or better for the interface of the candidate that was chosen. -/
def VBondingSimilar (mem : BondMem ι ν) (orig : BondOrig ι) : Prop :=
  let res := findRouter mem mem.vIsSob true (some orig) none
  res.1 = mem.origRouterGet orig none ∨
    ∃ orig' ∈ res.2, ∃ cand ∈ orig'.lastBondingCandidate, ∃ r ∈ (mem.ifinfo cand).router,
      res.1 = some r ∧ ∃ c ∈ mem.cost r (mem.ifinfo cand).ifOutgoing,
        ∃ router ∈ mem.origRouterGet orig none, ∃ b ∈ mem.cost router none, SimilarOrBetter c b

/-- A record with the router `r` at the cost `c`, which can be chosen beside a default router at
the cost `b`: neither is being freed, the last candidate has another router, and `b` is at most a
quarter above `c`, where the sum wraps. -/
def VCanBeChosen (mem : BondMem ι ν) (orig : BondOrig ι) (b : U32) (cand : ι) (r : ν) (c : U32) :
    Prop :=
  (mem.ifinfo cand).refcount = true ∧ (mem.ifinfo cand).router = some r ∧
    mem.neighRefcount r = true ∧ lastRouter mem orig ≠ some r ∧
      mem.cost r (mem.ifinfo cand).ifOutgoing = some c ∧
        b.toNat ≤ (c.toNat + c.toNat / 4) % 2 ^ 32

/-- The first record of the list that can be chosen has the default router or one that is similar
to it or better. -/
def FirstSimilar (mem : BondMem ι ν) (orig : BondOrig ι) : Prop :=
  ∀ router ∈ mem.origRouterGet orig none, ∀ b ∈ mem.cost router none,
    ∀ pre cand post, orig.ifinfoList = pre ++ cand :: post →
      (∀ i ∈ pre, ∀ r c, ¬ VCanBeChosen mem orig b i r c) →
        ∀ r c, VCanBeChosen mem orig b cand r c → r = router ∨ SimilarOrBetter c b

omit [DecidableEq ι] [DecidableEq ν] in
/-- What can be chosen, in terms of the tests of the loop. -/
lemma vCanBeChosen_iff {orig : BondOrig ι} {router : ν} {b : U32}
    (hb : mem.cost router none = some b) {cand : ι} {r : ν} :
    (∃ c, VCanBeChosen mem orig b cand r c) ↔
      candRouter mem (fun r ifOutgoing => mem.vIsSob r ifOutgoing router none) cand = some r ∧
        lastRouter mem orig ≠ some r := by
  rw [candRouter_eq_some_iff, vIsSob_iff]
  unfold VCanBeChosen
  constructor
  · rintro ⟨c, href, hr, hn, hlast, hc, hle⟩
    exact ⟨⟨href, hr, hn, c, hc, b, hb, hle⟩, hlast⟩
  · rintro ⟨⟨href, hr, hn, c, hc, b', hb', hle⟩, hlast⟩
    obtain rfl : b = b' := Option.some.inj (hb.symm.trans hb')
    exact ⟨c, href, hr, hn, hlast, hc, hle⟩

omit [DecidableEq ι] in
/-- The candidate that is chosen is the first one that can be. -/
lemma otherCandidate_eq_some_iff_vCanBeChosen {orig : BondOrig ι} {router : ν} {b : U32}
    (hrouter : mem.origRouterGet orig none = some router) (hb : mem.cost router none = some b)
    {cand : ι} {r : ν} :
    otherCandidate (bondCandidates mem mem.vIsSob orig) (lastRouter mem orig) = some (cand, r) ↔
      ∃ pre post, orig.ifinfoList = pre ++ cand :: post ∧
        (∀ i ∈ pre, ∀ r' c, ¬ VCanBeChosen mem orig b i r' c) ∧
          ∃ c, VCanBeChosen mem orig b cand r c := by
  have hnot (i : ι) (r' : ν) : (∀ c, ¬ VCanBeChosen mem orig b i r' c) ↔
      (candRouter mem (fun r ifOutgoing => mem.vIsSob r ifOutgoing router none) i = some r' →
        lastRouter mem orig = some r') := by
    rw [← not_exists, vCanBeChosen_iff hb, not_and_not_right]
  have hcands : bondCandidates mem mem.vIsSob orig =
      candidatesOf mem (fun r ifOutgoing => mem.vIsSob r ifOutgoing router none)
        orig.ifinfoList := by
    simp only [bondCandidates, hrouter]
  rw [hcands, otherCandidate_eq_some_iff]
  simp only [hnot, vCanBeChosen_iff hb]

/-- **Bonding uses similar routers** if and only if the first record that can be chosen has one.

**Proof sketch.** The candidate that is chosen is the first record that can be chosen.  If there is
none, and if there is no default router or no cost of it, the default router is returned. -/
theorem v_bonding_similar_iff (mem : BondMem ι ν) (orig : BondOrig ι) :
    VBondingSimilar mem orig ↔ FirstSimilar mem orig := by
  cases hrouter : mem.origRouterGet orig none with
  | none =>
    refine iff_of_true (Or.inl ?_) ?_
    · simp [findRouter, hrouter]
    · intro router h
      simp [hrouter] at h
  | some router =>
    cases hcand : otherCandidate (bondCandidates mem mem.vIsSob orig) (lastRouter mem orig) with
    | none =>
      refine iff_of_true (Or.inl ?_) ?_
      · rw [findRouter_bonding _ hrouter, hcand, hrouter]
        rfl
      · intro router' h b hb pre cand post hlist hpre r c hc
        obtain rfl : router = router' := Option.some.inj (hrouter.symm.trans h)
        have hsome := (otherCandidate_eq_some_iff_vCanBeChosen hrouter hb).2
          ⟨pre, post, hlist, hpre, c, hc⟩
        rw [hcand] at hsome
        cases hsome
    | some cand =>
      obtain ⟨cand, r⟩ := cand
      -- a candidate has passed the comparison, so both costs are there
      obtain ⟨b, hb⟩ : ∃ b, mem.cost router none = some b := by
        have hmem : (cand, r) ∈ bondCandidates mem mem.vIsSob orig :=
          List.mem_of_find?_eq_some hcand
        simp only [bondCandidates, hrouter] at hmem
        have hsob := (candRouter_eq_some_iff.1 (mem_candidatesOf.1 hmem).2).2.2.2
        obtain ⟨c, hc, b, hb, hle⟩ := (vIsSob_iff mem _ _ _).1 hsob
        exact ⟨b, hb⟩
      obtain ⟨pre, post, hlist, hpre, c, hc⟩ :=
        (otherCandidate_eq_some_iff_vCanBeChosen hrouter hb).1 hcand
      obtain ⟨href, hr, hn, hlast, hcost, hle⟩ := hc
      have hres := findRouter_bonding mem.vIsSob hrouter
      rw [hcand] at hres
      constructor
      · intro h router' h' b' hb' pre' cand' post' hlist' hpre' r' c' hc'
        obtain rfl : router = router' := Option.some.inj (hrouter.symm.trans h')
        obtain rfl : b = b' := Option.some.inj (hb.symm.trans hb')
        have hsome := (otherCandidate_eq_some_iff_vCanBeChosen hrouter hb).2
          ⟨pre', post', hlist', hpre', c', hc'⟩
        obtain ⟨rfl, rfl⟩ := Prod.mk.inj (Option.some.inj (hcand.symm.trans hsome))
        obtain rfl : c = c' := Option.some.inj (hcost.symm.trans hc'.2.2.2.2.1)
        unfold VBondingSimilar at h
        rw [hres, hrouter] at h
        rcases h with h | ⟨orig', horig', i, hi, r', hr', -, c', hc', router', h', b', hb', hsim⟩
        · exact Or.inl (Option.some.inj h)
        · obtain rfl := Option.some.inj horig'
          obtain rfl : cand = i := Option.some.inj hi
          obtain rfl : r = r' := Option.some.inj (hr.symm.trans hr')
          obtain rfl : c = c' := Option.some.inj (hcost.symm.trans hc')
          obtain rfl : router = router' := Option.some.inj h'
          obtain rfl : b = b' := Option.some.inj (hb.symm.trans hb')
          exact Or.inr hsim
      · intro h
        unfold VBondingSimilar
        rw [hres]
        rcases h router hrouter b hb pre cand post hlist hpre r c
          ⟨href, hr, hn, hlast, hcost, hle⟩ with rfl | hsim
        · exact Or.inl hrouter.symm
        · exact Or.inr ⟨_, rfl, cand, rfl, r, hr, rfl, c, hcost, router, hrouter, b, hb, hsim⟩

end FindRouter

/-- A neighbour of cost `c` for one interface. -/
def bondNeigh (ifOutgoing : IfKey) (c : U32) : NeighNode := ⟨0, 0, [(ifOutgoing, ⟨c, 0, 0⟩)]⟩

/-- A default router of cost 100, and a router of cost 1000 for an interface. -/
def dearMem : BondMem ℕ ℕ where
  ifinfo i := if i = 0 then ⟨none, some 0, true⟩ else ⟨some 1, some 1, true⟩
  neigh i := if i = 0 then bondNeigh none 100 else bondNeigh (some 1) 1000
  neighRefcount _ := true

/-- The router of cost 1000 is returned beside a default router of cost 100. -/
theorem dearMem_not_similar : ¬ VBondingSimilar dearMem ⟨[1, 0], none⟩ := by
  have hres : findRouter dearMem dearMem.vIsSob true (some ⟨[1, 0], none⟩) none =
      (some 1, some ⟨[1, 0], some 1⟩) := by rfl
  have hrouter : dearMem.origRouterGet ⟨[1, 0], none⟩ none = some 0 := by rfl
  unfold VBondingSimilar
  rw [hres, hrouter]
  rintro (h | ⟨orig', horig, cand, hcand, r, hr, -, c, hc, router, h, b, hb, hsim⟩)
  · cases h
  · obtain rfl := Option.some.inj horig
    obtain rfl : 1 = cand := Option.some.inj hcand
    obtain rfl : 1 = r := Option.some.inj hr
    obtain rfl : 0 = router := Option.some.inj h
    obtain rfl : (1000 : U32) = c := Option.some.inj hc
    obtain rfl : (100 : U32) = b := Option.some.inj hb
    exact absurd hsim (by unfold SimilarOrBetter; decide)

/-! ### In turn -/

section InTurn

variable [DecidableEq ι] [DecidableEq ν] {mem : BondMem ι ν}

/-- **Bonding uses the candidates in turn**: every so many consecutive calls return the router of
each of them once, and the one that follows another in the list is returned after it. -/
def UsesInTurn (mem : BondMem ι ν) (isSimilarOrBetter : ν → IfKey → ν → IfKey → Bool)
    (orig : BondOrig ι) : Prop :=
  let call := fun o => findRouter mem isSimilarOrBetter true o none
  let candidates := bondCandidates mem isSimilarOrBetter orig
  Rotation.InTurn call (candidates.map fun cand => some cand.2) (some orig) ∧
    ∀ i cand cand', candidates[i]? = some cand →
      candidates[(i + 1) % candidates.length]? = some cand' →
        (call (some { orig with lastBondingCandidate := some cand.1 })).1 = some cand'.2

omit [DecidableEq ι] in
/-- The candidate that is chosen, by its router. -/
lemma map_otherCandidate (candidates : List (ι × ν)) (last : Option ν) :
    (otherCandidate candidates last).map Prod.snd =
      Rotation.other (candidates.map Prod.snd) last := by
  rw [otherCandidate, Rotation.other, List.find?_map]
  rfl

omit [DecidableEq ι] [DecidableEq ν] in
/-- A candidate comes with the router of its record. -/
lemma router_of_mem_bondCandidates {isSimilarOrBetter : ν → IfKey → ν → IfKey → Bool}
    {orig : BondOrig ι} {cand : ι × ν} (h : cand ∈ bondCandidates mem isSimilarOrBetter orig) :
    (mem.ifinfo cand.1).router = some cand.2 := by
  unfold bondCandidates at h
  split at h
  · cases h
  · exact (candRouter_eq_some_iff.1 (mem_candidatesOf.1 h).2).2.1

/-- **The calls are those that return the first other router**, as long as there is one. -/
lemma findRouter_lockstep {isSimilarOrBetter : ν → IfKey → ν → IfKey → Bool} {orig : BondOrig ι}
    (hn : 2 ≤ (bondCandidates mem isSimilarOrBetter orig).length)
    (hnodup : ((bondCandidates mem isSimilarOrBetter orig).map Prod.snd).Nodup)
    {last : Option ν} {orig' : BondOrig ι} (hlist : orig'.ifinfoList = orig.ifinfoList)
    (hlast : lastRouter mem orig' = last) :
    (findRouter mem isSimilarOrBetter true (some orig') none).1 =
        Rotation.other ((bondCandidates mem isSimilarOrBetter orig).map Prod.snd) last ∧
      ∃ orig'', (findRouter mem isSimilarOrBetter true (some orig') none).2 = some orig'' ∧
        orig''.ifinfoList = orig.ifinfoList ∧
          lastRouter mem orig'' =
            Rotation.other ((bondCandidates mem isSimilarOrBetter orig).map Prod.snd) last := by
  have hcands : bondCandidates mem isSimilarOrBetter orig' =
      bondCandidates mem isSimilarOrBetter orig := by
    unfold bondCandidates BondMem.origRouterGet
    rw [hlist]
  -- with candidates there is a default router
  obtain ⟨router, hrouter⟩ : ∃ router, mem.origRouterGet orig' none = some router := by
    cases h : mem.origRouterGet orig' none with
    | none =>
      rw [← hcands, bondCandidates, h] at hn
      simp at hn
    | some router => exact ⟨router, rfl⟩
  have hsome := Rotation.other_isSome (by rwa [List.length_map]) hnodup last
  rw [← map_otherCandidate, Option.isSome_map] at hsome
  obtain ⟨cand, hcand⟩ := Option.isSome_iff_exists.1 hsome
  rw [findRouter_bonding _ hrouter, hcands, hlast, hcand, ← map_otherCandidate, hcand]
  refine ⟨rfl, _, rfl, hlist, ?_⟩
  exact router_of_mem_bondCandidates (List.mem_of_find?_eq_some hcand)

/-- **Bonding uses the candidates in turn** if and only if there are two of them.

**Proof sketch.** The calls return the first router that is not the last one. -/
theorem bonding_in_turn_iff (mem : BondMem ι ν)
    (isSimilarOrBetter : ν → IfKey → ν → IfKey → Bool) (orig : BondOrig ι)
    (hn : 2 ≤ (bondCandidates mem isSimilarOrBetter orig).length)
    (hnodup : ((bondCandidates mem isSimilarOrBetter orig).map Prod.snd).Nodup) :
    UsesInTurn mem isSimilarOrBetter orig ↔
      (bondCandidates mem isSimilarOrBetter orig).length = 2 := by
  have hlen : ((bondCandidates mem isSimilarOrBetter orig).map Prod.snd).length =
      (bondCandidates mem isSimilarOrBetter orig).length := List.length_map ..
  have hlockstep : Rotation.InTurn (fun o => findRouter mem isSimilarOrBetter true o none)
      ((bondCandidates mem isSimilarOrBetter orig).map fun cand => some cand.2) (some orig) ↔
        Rotation.InTurn
          (Rotation.callOther ((bondCandidates mem isSimilarOrBetter orig).map Prod.snd))
          (((bondCandidates mem isSimilarOrBetter orig).map Prod.snd).map some)
          (lastRouter mem orig) := by
    rw [List.map_map]
    refine Rotation.inTurn_of_sim (R := fun o last => ∃ orig', o = some orig' ∧
      orig'.ifinfoList = orig.ifinfoList ∧ lastRouter mem orig' = last) ?_
      ⟨orig, rfl, rfl, rfl⟩ _
    rintro _ last ⟨orig', rfl, hlist, hlast⟩
    exact findRouter_lockstep hn hnodup hlist hlast
  have hturn := Rotation.inTurn_other_iff (hn.trans_eq hlen.symm) hnodup (lastRouter mem orig)
  rw [← hlockstep, hlen] at hturn
  refine ⟨fun h => hturn.1 h.1, fun htwo => ⟨hturn.2 htwo, ?_⟩⟩
  intro i cand cand' hi hi'
  have hlast : lastRouter mem { orig with lastBondingCandidate := some cand.1 } =
      some cand.2 := router_of_mem_bondCandidates (List.mem_of_getElem? hi)
  have hlist : ({ orig with lastBondingCandidate := some cand.1 } : BondOrig ι).ifinfoList =
      orig.ifinfoList := rfl
  change (findRouter mem isSimilarOrBetter true _ none).1 = _
  rw [(findRouter_lockstep hn hnodup hlist hlast).1]
  generalize bondCandidates mem isSimilarOrBetter orig = candidates at htwo hnodup hi hi'
  obtain ⟨a, b, rfl⟩ : ∃ a b, candidates = [a, b] := List.length_eq_two.1 htwo
  have hne : a.2 ≠ b.2 := by simpa using hnodup
  simp only [List.map_cons, List.map_nil, Rotation.other_cons_cons hne]
  match i, hi with
  | 0, hi =>
    obtain rfl := Option.some.inj hi
    obtain rfl : b = cand' := Option.some.inj hi'
    rw [if_pos rfl]
  | 1, hi =>
    obtain rfl := Option.some.inj hi
    obtain rfl : a = cand' := by simpa using hi'
    rw [if_neg (fun h => hne (Option.some.inj h).symm)]
  | i + 2, hi => simp at hi

end InTurn

/-- An interface has a router of its own, and so has the default interface; all cost the same. -/
def equalRouters : BondMem ℕ ℕ where
  ifinfo i := if i = 0 then ⟨none, some 0, true⟩ else ⟨some i, some i, true⟩
  neigh i := if i = 0 then bondNeigh none 100 else bondNeigh (some i) 100
  neighRefcount _ := true

/-- Two routers are used in turn. -/
theorem equalRouters_two_in_turn :
    UsesInTurn equalRouters equalRouters.vIsSob ⟨[1, 0], some 0⟩ ↔
      (bondCandidates equalRouters equalRouters.vIsSob ⟨[1, 0], some 0⟩).length = 2 :=
  bonding_in_turn_iff equalRouters equalRouters.vIsSob ⟨[1, 0], some 0⟩ (by decide) (by decide)

/-- With three of them the third is never used. -/
theorem equalRouters_three_not_in_turn :
    (bondCandidates equalRouters equalRouters.vIsSob ⟨[2, 1, 0], some 0⟩).length = 3 ∧
      ((bondCandidates equalRouters equalRouters.vIsSob ⟨[2, 1, 0], some 0⟩).map Prod.snd).Nodup ∧
        ¬ UsesInTurn equalRouters equalRouters.vIsSob ⟨[2, 1, 0], some 0⟩ := by
  refine ⟨by decide, by decide, fun h => ?_⟩
  have hsucc := h.2 1 (1, 1) (0, 0) (by decide) (by decide)
  exact absurd hsucc (by decide)

end Batadv
