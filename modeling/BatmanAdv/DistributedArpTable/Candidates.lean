import BatmanAdv.DistributedArpTable.Cache
import BatmanAdv.Lib.Selection

set_option relaxedAutoImplicit false
set_option autoImplicit false

/-!
# Where the entries of the distributed ARP table are stored

An entry is sent to the three originators whose addresses in the table's hash space come closest
before the hash of the entry.  `batadv_dat_select_candidates` searches the originator table three
times for the greatest value on the ring that is left.

## Main definitions

* `Batadv.datSelectCandidates` — `batadv_dat_select_candidates`.
* `Batadv.datPlacement` — what it is for: the first three originators, those with the lowest
  addresses where values on the ring are equal.
* `Batadv.DatTiesFit` — where values are equal and there is no room for all of these originators,
  those that the table enumerates last have the lowest addresses.

## Main results

* `Batadv.datSelectCandidates_eq` — the search finds the first three originators, those that are
  enumerated last where values are equal.
* `Batadv.dat_candidates_iff` — when these are the ones with the lowest addresses.
-/

namespace Batadv

/-- `struct batadv_orig_node`, as far as the distributed ARP table needs it; `hasDat` is the bit
`BATADV_ORIG_CAPA_HAS_DAT` of the capabilities. -/
structure DatOrig where
  orig : EthAddr
  datAddr : U16
  hasDat : Bool
deriving DecidableEq, Repr

/-- `BATADV_DAT_ADDR_MAX`. -/
def DAT_ADDR_MAX : U16 := BitVec.allOnes 16

/-- `BATADV_DAT_CANDIDATES_NUM`. -/
def DAT_CANDIDATES_NUM : ℕ := 3

/-- An originator's place on the ring: `tmp_max` in `batadv_choose_next_candidate`. -/
def datRing (ipKey : U16) (origNode : DatOrig) : U16 := DAT_ADDR_MAX - origNode.datAddr + ipKey

/-- `batadv_is_orig_node_eligible`; a candidate that was not found is `none`. -/
def isOrigNodeEligible (res : List (Option DatOrig)) (tmpMax max lastMax : U16)
    (candidate : DatOrig) (maxOrigNode : Option DatOrig) : Bool :=
  -- check if orig node candidate is running DAT
  if !candidate.hasDat then false
  -- check if this node has already been selected, and possibly skip it
  else if some candidate ∈ res then false
  else if tmpMax > lastMax then false
  -- an originator with a closer dht address has already been found
  else if tmpMax < max then false
  -- a hash collision with the temporary selected node
  else if tmpMax = max ∧ maxOrigNode.any fun m => candidate.orig == m.orig then false
  else true

/-- What `batadv_choose_next_candidate` does with an originator of the table: `max` and
`max_orig_node`. -/
def datTurn (res : List (Option DatOrig)) (ipKey lastMax : U16) (s : U16 × Option DatOrig)
    (origNode : DatOrig) : U16 × Option DatOrig :=
  if isOrigNodeEligible res (datRing ipKey origNode) s.1 lastMax origNode s.2 then
    (datRing ipKey origNode, some origNode)
  else s

/-- `batadv_choose_next_candidate`: the candidates, and `last_max`. -/
def chooseNextCandidate (origHash : List DatOrig) (ipKey : U16)
    (s : List (Option DatOrig) × U16) : List (Option DatOrig) × U16 :=
  let (max, maxOrigNode) := origHash.foldl (datTurn s.1 ipKey s.2) (0, none)
  (s.1 ++ [maxOrigNode], max)

/-- The key of an entry on the ring: `ip_key` in `batadv_dat_select_candidates`. -/
def datIpKey (ipDst : U32) (vid : U16) : U16 :=
  (hashDat ipDst vid (DAT_ADDR_MAX.setWidth 32)).setWidth 16

/-- `batadv_dat_select_candidates`, for the originators in the order in which the hash table
enumerates them. -/
def datSelectCandidates (origHash : List DatOrig) (ipDst : U32) (vid : U16) :
    List (Option DatOrig) :=
  ((chooseNextCandidate origHash (datIpKey ipDst vid))^[DAT_CANDIDATES_NUM] ([], DAT_ADDR_MAX)).1

/-- The originators that were selected. -/
def datSelected (origHash : List DatOrig) (ipDst : U32) (vid : U16) : List DatOrig :=
  (datSelectCandidates origHash ipDst vid).filterMap id

/-! ### What it is for -/

/-- The originators that can be candidates. -/
def datCapable (origHash : List DatOrig) : List DatOrig := origHash.filter DatOrig.hasDat

/-- The order of the candidates: by descending values on the ring and ascending addresses. -/
def datKey (ipKey : U16) (o : DatOrig) : ℕ ×ₗ ℕ :=
  toLex (65535 - (datRing ipKey o).toNat, o.orig.toNat)

/-- **The placement** of an entry: the first three originators. -/
def datPlacement (origHash : List DatOrig) (ipDst : U32) (vid : U16) : List DatOrig :=
  Selection.first (datKey (datIpKey ipDst vid)) (datCapable origHash) DAT_CANDIDATES_NUM

/-- The order that the search follows: by descending values on the ring, and what is enumerated
last first. -/
def datSearchKey (origHash : List DatOrig) (ipKey : U16) (o : DatOrig) : ℕ ×ₗ ℕ :=
  toLex (65535 - (datRing ipKey o).toNat, origHash.length - origHash.idxOf o)

/-- The candidates with a value on the ring, in the order of the table. -/
def datTies (origHash : List DatOrig) (ipKey v : U16) : List DatOrig :=
  (datCapable origHash).filter fun o => datRing ipKey o = v

/-- How many candidates are left for a value on the ring, by those that have greater values. -/
def datRoom (origHash : List DatOrig) (ipKey v : U16) : ℕ :=
  DAT_CANDIDATES_NUM - (datCapable origHash).countP fun o => v < datRing ipKey o

/-- **Ties fit the addresses**: where candidates have the same value on the ring, those that are
enumerated last, as many as there is room for, have lower addresses than the others. -/
def DatTiesFit (origHash : List DatOrig) (ipKey : U16) : Prop :=
  ∀ o ∈ datCapable origHash,
    let ties := datTies origHash ipKey (datRing ipKey o)
    let others := ties.length - datRoom origHash ipKey (datRing ipKey o)
    ∀ a ∈ ties.drop others, ∀ b ∈ ties.take others, a.orig < b.orig

instance (origHash : List DatOrig) (ipKey : U16) : Decidable (DatTiesFit origHash ipKey) :=
  List.decidableBAll (p := fun o =>
    let ties := datTies origHash ipKey (datRing ipKey o)
    let others := ties.length - datRoom origHash ipKey (datRing ipKey o)
    ∀ a ∈ ties.drop others, ∀ b ∈ ties.take others, a.orig < b.orig) (datCapable origHash)

/-! ### A search -/

variable {origHash : List DatOrig} {ipKey : U16}

/-- An originator is **left** when it can be a candidate and was not selected before. -/
def DatLeft (res : List (Option DatOrig)) (o : DatOrig) : Prop := o.hasDat ∧ some o ∉ res

/-- What a search has found: the last of the greatest values, if any originator is left. -/
def DatFound (res : List (Option DatOrig)) (ipKey : U16) (l : List DatOrig)
    (s : U16 × Option DatOrig) : Prop :=
  match s.2 with
  | none => s.1 = 0 ∧ ∀ a ∈ l, ¬DatLeft res a
  | some m => DatLeft res m ∧ s.1 = datRing ipKey m ∧ ∃ before after, l = before ++ m :: after ∧
      (∀ a ∈ before, DatLeft res a → datRing ipKey a ≤ datRing ipKey m) ∧
      ∀ a ∈ after, DatLeft res a → datRing ipKey a < datRing ipKey m

lemma isOrigNodeEligible_iff {res : List (Option DatOrig)} {tmpMax max lastMax : U16}
    {candidate : DatOrig} {maxOrigNode : Option DatOrig} :
    isOrigNodeEligible res tmpMax max lastMax candidate maxOrigNode ↔
      DatLeft res candidate ∧ tmpMax ≤ lastMax ∧ max ≤ tmpMax ∧
        ¬(tmpMax = max ∧ maxOrigNode.any fun m => candidate.orig == m.orig) := by
  unfold isOrigNodeEligible DatLeft
  split_ifs <;> simp_all [BitVec.not_lt]

/-- What was found is at least as great as everything else that is left. -/
lemma DatFound.le {res : List (Option DatOrig)} {l : List DatOrig} {s : U16 × Option DatOrig}
    (h : DatFound res ipKey l s) {a : DatOrig} (ha : a ∈ l) (hleft : DatLeft res a) :
    datRing ipKey a ≤ s.1 := by
  obtain ⟨max, _ | m⟩ := s
  · exact absurd hleft (h.2 a ha)
  · obtain ⟨-, rfl, before, after, rfl, hbefore, hafter⟩ := h
    rcases List.mem_append.1 ha with ha | ha
    · exact hbefore a ha hleft
    · rcases List.mem_cons.1 ha with rfl | ha
      · exact BitVec.le_refl _
      · exact BitVec.le_of_lt (hafter a ha hleft)

/-- **An originator of the table** when those before it were searched.

**Proof sketch.** It is found if it is left and its value is not less than the greatest one so far:
the comparison of the addresses only excludes the same originator. -/
lemma DatFound.turn {res : List (Option DatOrig)} {lastMax : U16} {l : List DatOrig}
    {s : U16 × Option DatOrig} (h : DatFound res ipKey l s) {o : DatOrig}
    (hlast : DatLeft res o → datRing ipKey o ≤ lastMax)
    (hne : ∀ a ∈ l, a.orig ≠ o.orig) :
    DatFound res ipKey (l ++ [o]) (datTurn res ipKey lastMax s o) := by
  unfold datTurn
  split
  · -- it is found
    rename_i helig
    obtain ⟨hleft, -, hmax, -⟩ := isOrigNodeEligible_iff.1 helig
    exact ⟨hleft, rfl, l, [], rfl, fun a ha hla => BitVec.le_trans (h.le ha hla) hmax, by simp⟩
  · -- what was found so far stays
    rename_i helig
    have hless : DatLeft res o → datRing ipKey o < s.1 := by
      intro hleft
      rw [isOrigNodeEligible_iff] at helig
      by_contra hmax
      refine helig ⟨hleft, hlast hleft, BitVec.not_lt.1 hmax, ?_⟩
      rintro ⟨-, hsame⟩
      obtain ⟨max, _ | m⟩ := s
      · exact absurd hsame Bool.false_ne_true
      · obtain ⟨-, -, before, after, rfl, -, -⟩ := h
        exact hne m (by simp) (by simpa using hsame : o.orig = m.orig).symm
    obtain ⟨max, _ | m⟩ := s
    · obtain ⟨rfl, hnone⟩ := h
      refine ⟨rfl, fun a ha hleft => ?_⟩
      rcases List.mem_append.1 ha with ha | ha
      · exact hnone a ha hleft
      · obtain rfl := List.mem_singleton.1 ha
        exact absurd (hless hleft) (by simp)
    · obtain ⟨hm, rfl, before, after, rfl, hbefore, hafter⟩ := h
      refine ⟨hm, rfl, before, after ++ [o], by simp, hbefore, fun a ha hleft => ?_⟩
      rcases List.mem_append.1 ha with ha | ha
      · exact hafter a ha hleft
      · obtain rfl := List.mem_singleton.1 ha
        exact hless hleft

/-- **A search** of the table.

**Proof sketch.** Induction on the originators that were searched. -/
lemma datFound_foldl {res : List (Option DatOrig)} {lastMax : U16}
    (hnodup : (origHash.map DatOrig.orig).Nodup)
    (hlast : ∀ o ∈ origHash, DatLeft res o → datRing ipKey o ≤ lastMax) :
    DatFound res ipKey origHash (origHash.foldl (datTurn res ipKey lastMax) (0, none)) := by
  induction origHash using List.reverseRecOn with
  | nil => exact ⟨rfl, by simp⟩
  | append_singleton l o ih =>
    rw [List.foldl_concat]
    rw [List.map_append, List.nodup_append] at hnodup
    refine (ih hnodup.1 fun a ha => hlast a (by simp [ha])).turn (hlast o (by simp)) ?_
    exact fun a ha => hnodup.2.2 _ (List.mem_map_of_mem ha) _ (by simp)

/-! ### The candidates -/

lemma mem_datCapable {o : DatOrig} : o ∈ datCapable origHash ↔ o ∈ origHash ∧ o.hasDat := by
  simp [datCapable]

/-- A position in the table is an originator's own. -/
lemma nodup_datSearchKey (hnodup : origHash.Nodup) :
    ((datCapable origHash).map (datSearchKey origHash ipKey)).Nodup := by
  refine (List.nodup_map_iff_inj_on (hnodup.filter _)).2 fun a ha b hb hab => ?_
  have hidx := congrArg (fun k => (ofLex k).2) hab
  have ha := List.idxOf_lt_length_of_mem (mem_datCapable.1 ha).1
  have hb := List.idxOf_lt_length_of_mem (mem_datCapable.1 hb).1
  simp only [datSearchKey, ofLex_toLex] at hidx
  exact (List.idxOf_inj (mem_datCapable.1 ‹a ∈ datCapable origHash›).1).1 (by omega)

lemma le_DAT_ADDR_MAX (v : U16) : v ≤ DAT_ADDR_MAX := by
  rw [BitVec.le_def, DAT_ADDR_MAX, BitVec.toNat_allOnes]
  exact Nat.le_sub_one_of_lt v.isLt

/-- What comes first in the search: greater values, and later positions where they are equal. -/
lemma datSearchKey_le {m a : DatOrig} (hring : datRing ipKey a ≤ datRing ipKey m)
    (hidx : datRing ipKey a = datRing ipKey m → origHash.idxOf a ≤ origHash.idxOf m) :
    datSearchKey origHash ipKey m ≤ datSearchKey origHash ipKey a := by
  unfold datSearchKey
  rw [Prod.Lex.toLex_le_toLex]
  have hlt := (datRing ipKey m).isLt
  rw [BitVec.le_def] at hring
  by_cases heq : datRing ipKey a = datRing ipKey m
  · exact .inr ⟨by rw [heq], Nat.sub_le_sub_left (hidx heq) _⟩
  · rw [← BitVec.toNat_inj] at heq
    exact .inl (by simp only; omega)

/-- **A round** selects the next candidate in the order that the search follows.

**Proof sketch.** What was found has the greatest value of those that are left, and stands last
among those with the same value. -/
lemma first_succ_of_datFound (hnodup : origHash.Nodup) {res : List (Option DatOrig)} {k : ℕ}
    (hres : res.filterMap id =
      Selection.first (datSearchKey origHash ipKey) (datCapable origHash) k)
    {s : U16 × Option DatOrig} (h : DatFound res ipKey origHash s) :
    Selection.first (datSearchKey origHash ipKey) (datCapable origHash) (k + 1) =
      (res ++ [s.2]).filterMap id := by
  have hmem : ∀ o, o ∈ Selection.first (datSearchKey origHash ipKey) (datCapable origHash) k ↔
      some o ∈ res := fun o => by rw [← hres]; simp
  rw [List.filterMap_append, hres]
  obtain ⟨max, _ | m⟩ := s
  · refine (Selection.first_succ_of_none (hnodup.filter _) fun o ho => ?_).trans
      (List.append_nil _).symm
    obtain ⟨ho, hdat⟩ := mem_datCapable.1 ho
    by_contra hnew
    exact h.2 o ho ⟨hdat, fun hsel => hnew ((hmem o).2 hsel)⟩
  · obtain ⟨⟨hdat, hnew⟩, -, before, after, horig, hbefore, hafter⟩ := h
    have hm : m ∈ origHash := by simp [horig]
    refine Selection.first_succ_of_least (nodup_datSearchKey hnodup)
      (mem_datCapable.2 ⟨hm, hdat⟩) (fun hsel => hnew ((hmem m).1 hsel)) fun a ha hanew => ?_
    obtain ⟨ha, hadat⟩ := mem_datCapable.1 ha
    have hleft : DatLeft res a := ⟨hadat, fun hsel => hanew ((hmem a).2 hsel)⟩
    refine datSearchKey_le ?_ fun heq => ?_
    · rw [horig, List.mem_append, List.mem_cons] at ha
      rcases ha with ha | rfl | ha
      · exact hbefore a ha hleft
      · exact BitVec.le_refl _
      · exact BitVec.le_of_lt (hafter a ha hleft)
    · rw [horig, List.mem_append, List.mem_cons] at ha
      rw [horig] at hnodup ⊢
      have hmb : m ∉ before := fun hmem =>
        (List.nodup_append.1 hnodup).2.2 m hmem m List.mem_cons_self rfl
      rw [List.idxOf_append_of_notMem hmb, List.idxOf_cons_self]
      rcases ha with ha | rfl | ha
      · rw [List.idxOf_append_of_mem ha]
        exact (List.idxOf_lt_length_of_mem ha).le
      · rw [List.idxOf_append_of_notMem hmb, List.idxOf_cons_self]
      · have hlt := hafter a ha hleft
        rw [heq] at hlt
        exact absurd hlt (BitVec.lt_irrefl _)

/-- The state of the search after some rounds. -/
structure DatRounds (origHash : List DatOrig) (ipKey : U16) (k : ℕ)
    (s : List (Option DatOrig) × U16) : Prop where
  selected : s.1.filterMap id =
    Selection.first (datSearchKey origHash ipKey) (datCapable origHash) k
  last : ∀ o ∈ origHash, DatLeft s.1 o → datRing ipKey o ≤ s.2

/-- **The candidates** are the first three originators in the order that the search follows.

**Proof sketch.** Induction on the rounds. -/
theorem datSelectCandidates_eq (hnodup : (origHash.map DatOrig.orig).Nodup) (ipDst : U32)
    (vid : U16) :
    datSelected origHash ipDst vid = Selection.first (datSearchKey origHash (datIpKey ipDst vid))
      (datCapable origHash) DAT_CANDIDATES_NUM := by
  have hround : ∀ k, DatRounds origHash (datIpKey ipDst vid) k
      ((chooseNextCandidate origHash (datIpKey ipDst vid))^[k] ([], DAT_ADDR_MAX)) := by
    intro k
    induction k with
    | zero => exact ⟨rfl, fun o _ _ => le_DAT_ADDR_MAX _⟩
    | succ k ih =>
      rw [Function.iterate_succ_apply']
      have hfound := datFound_foldl hnodup ih.last
      constructor
      · exact (first_succ_of_datFound hnodup.of_map ih.selected hfound).symm
      · intro o ho hleft
        exact hfound.le ho ⟨hleft.1, fun hsel => hleft.2 (List.mem_append_left _ hsel)⟩
  exact (hround DAT_CANDIDATES_NUM).selected

/-! ### Ties -/

lemma mem_datTies {v : U16} {o : DatOrig} :
    o ∈ datTies origHash ipKey v ↔ o ∈ datCapable origHash ∧ datRing ipKey o = v := by
  simp [datTies]

/-- What comes first in the search has a greater value, or the same value and a later position. -/
lemma datSearchKey_lt_iff {a b : DatOrig} (ha : a ∈ origHash) (hb : b ∈ origHash) :
    datSearchKey origHash ipKey a < datSearchKey origHash ipKey b ↔
      datRing ipKey b < datRing ipKey a ∨
        datRing ipKey a = datRing ipKey b ∧ origHash.idxOf b < origHash.idxOf a := by
  have hia := List.idxOf_lt_length_of_mem ha
  have hib := List.idxOf_lt_length_of_mem hb
  have hra := (datRing ipKey a).isLt
  have hrb := (datRing ipKey b).isLt
  simp only [datSearchKey, Prod.Lex.toLex_lt_toLex, BitVec.lt_def, ← BitVec.toNat_inj]
  omega

/-- Ties are searched from their end. -/
lemma pairwise_reverse_datTies (hnodup : origHash.Nodup) (v : U16) :
    (datTies origHash ipKey v).reverse.Pairwise fun a b =>
      datSearchKey origHash ipKey a < datSearchKey origHash ipKey b := by
  have hidx : origHash.Pairwise fun a b => origHash.idxOf a < origHash.idxOf b := by
    rw [List.pairwise_iff_getElem]
    intro i j hi hj hij
    rwa [hnodup.idxOf_getElem, hnodup.idxOf_getElem]
  have hties : (datTies origHash ipKey v).Pairwise fun a b =>
      origHash.idxOf a < origHash.idxOf b := (hidx.filter _).filter _
  rw [List.pairwise_reverse]
  refine hties.imp_of_mem fun {a b} ha hb hab => ?_
  obtain ⟨hca, hra⟩ := mem_datTies.1 ha
  obtain ⟨hcb, hrb⟩ := mem_datTies.1 hb
  exact (datSearchKey_lt_iff (mem_datCapable.1 hcb).1 (mem_datCapable.1 hca).1).2
    (.inr ⟨hrb.trans hra.symm, hab⟩)

/-- What comes before an originator: those with greater values, and ties. -/
lemma rank_datSearchKey {v : U16} {o : DatOrig} (ho : o ∈ datTies origHash ipKey v) :
    Selection.rank (datSearchKey origHash ipKey) (datCapable origHash) o =
      Selection.rank (datSearchKey origHash ipKey) (datTies origHash ipKey v) o +
        (datCapable origHash).countP fun o => v < datRing ipKey o := by
  obtain ⟨hcap, rfl⟩ := mem_datTies.1 ho
  unfold Selection.rank
  rw [List.countP_eq_countP_filter_add _ _ fun b => datRing ipKey b = datRing ipKey o]
  congr 1
  rw [List.countP_filter]
  refine List.countP_congr fun b hb => ?_
  have hlt : datSearchKey origHash ipKey b < datSearchKey origHash ipKey o ↔ _ :=
    datSearchKey_lt_iff (mem_datCapable.1 hb).1 (mem_datCapable.1 hcap).1
  simp only [Bool.and_eq_true, decide_eq_true_eq, Bool.not_eq_true', decide_eq_false_iff_not, hlt]
  constructor
  · rintro ⟨hgt | ⟨heq, -⟩, hne⟩
    · exact hgt
    · exact absurd heq hne
  · intro hgt
    refine ⟨.inl hgt, fun heq => ?_⟩
    rw [heq] at hgt
    exact BitVec.lt_irrefl _ hgt

/-- Which ties the search selects. -/
lemma mem_first_iff_mem_drop (hnodup : origHash.Nodup) {v : U16} {o : DatOrig}
    (ho : o ∈ datTies origHash ipKey v) :
    o ∈ Selection.first (datSearchKey origHash ipKey) (datCapable origHash) DAT_CANDIDATES_NUM ↔
      o ∈ (datTies origHash ipKey v).drop
        ((datTies origHash ipKey v).length - datRoom origHash ipKey v) := by
  have hrank := rank_datSearchKey ho
  have hrev : Selection.rank (datSearchKey origHash ipKey) (datTies origHash ipKey v).reverse o =
      Selection.rank (datSearchKey origHash ipKey) (datTies origHash ipKey v) o :=
    List.countP_reverse
  have hdrop : o ∈ (datTies origHash ipKey v).drop
      ((datTies origHash ipKey v).length - datRoom origHash ipKey v) ↔
      o ∈ (datTies origHash ipKey v).reverse.take (datRoom origHash ipKey v) := by
    rw [List.take_reverse, List.mem_reverse]
  rw [hdrop, Selection.mem_take_iff (pairwise_reverse_datTies hnodup v), List.mem_reverse,
    Selection.mem_first_iff (nodup_datSearchKey hnodup), hrev, hrank, datRoom]
  have hcap := (mem_datTies.1 ho).1
  constructor
  · rintro ⟨-, hlt⟩
    exact ⟨ho, by omega⟩
  · rintro ⟨-, hlt⟩
    exact ⟨hcap, by omega⟩

/-- The addresses decide between ties of the placement. -/
lemma datKey_lt_iff {a b : DatOrig} :
    datKey ipKey a < datKey ipKey b ↔ datRing ipKey b < datRing ipKey a ∨
      datRing ipKey a = datRing ipKey b ∧ a.orig < b.orig := by
  have hra := (datRing ipKey a).isLt
  have hrb := (datRing ipKey b).isLt
  simp only [datKey, Prod.Lex.toLex_lt_toLex, BitVec.lt_def, ← BitVec.toNat_inj]
  omega

/-- Different originators have different places in the placement. -/
lemma nodup_datKey (hnodup : (origHash.map DatOrig.orig).Nodup) :
    ((datCapable origHash).map (datKey ipKey)).Nodup := by
  refine (List.nodup_map_iff_inj_on (hnodup.of_map.filter _)).2 fun a ha b hb hab => ?_
  have horig : a.orig = b.orig := BitVec.eq_of_toNat_eq (congrArg (fun k => (ofLex k).2) hab)
  exact List.inj_on_of_nodup_map hnodup (mem_datCapable.1 ha).1 (mem_datCapable.1 hb).1 horig

/-- **The search finds the placement** if and only if ties fit the addresses: as many originators as
there are, up to three, all different, and those that come first.

**Proof sketch.** The search selects the first three in its own order, so the placement is found if
all of these come before all others in the order of the placement, too.  The orders agree but for
ties, of which the search selects the last ones. -/
theorem dat_candidates_iff (hnodup : (origHash.map DatOrig.orig).Nodup) (ipDst : U32)
    (vid : U16) :
    ((datSelected origHash ipDst vid).length =
        min DAT_CANDIDATES_NUM (datCapable origHash).length ∧
      (datSelected origHash ipDst vid).Nodup ∧
      ∀ o, o ∈ datSelected origHash ipDst vid ↔ o ∈ datPlacement origHash ipDst vid) ↔
    DatTiesFit origHash (datIpKey ipDst vid) := by
  have hkey : ((datCapable origHash).map (datSearchKey origHash (datIpKey ipDst vid))).Nodup :=
    nodup_datSearchKey hnodup.of_map
  have hlen : (Selection.first (datSearchKey origHash (datIpKey ipDst vid)) (datCapable origHash)
      DAT_CANDIDATES_NUM).length = min DAT_CANDIDATES_NUM (datCapable origHash).length :=
    Selection.length_first _
  have hnd := Selection.nodup_first hkey DAT_CANDIDATES_NUM
  have hsub : Selection.first (datSearchKey origHash (datIpKey ipDst vid)) (datCapable origHash)
      DAT_CANDIDATES_NUM ⊆ datCapable origHash := Selection.first_subset _
  -- what the search selects comes before everything else in its own order
  have hown := (Selection.mem_iff_mem_first_iff hkey hnd hsub hlen).1 fun _ => Iff.rfl
  have hdrop : ∀ v, ∀ o ∈ datTies origHash (datIpKey ipDst vid) v, o ∈ Selection.first _ _ _ ↔ _ :=
    fun v o => mem_first_iff_mem_drop hnodup.of_map
  rw [datSelectCandidates_eq hnodup, datPlacement]
  generalize Selection.first (datSearchKey origHash (datIpKey ipDst vid)) (datCapable origHash)
    DAT_CANDIDATES_NUM = selected at *
  rw [and_iff_right hlen, and_iff_right hnd,
    Selection.mem_iff_mem_first_iff (nodup_datKey hnodup) hnd hsub hlen]
  constructor
  · intro hbefore o _ ties others a ha b hb
    have hta := List.drop_subset _ _ ha
    have htb := List.take_subset _ _ hb
    have hbs : b ∉ selected := by
      rw [hdrop _ b htb]
      have hties : ties.Nodup := (hnodup.of_map.filter _).filter _
      exact List.disjoint_take_drop hties le_rfl hb
    have hlt := datKey_lt_iff.1 (hbefore a ((hdrop _ a hta).2 ha) b (mem_datTies.1 htb).1 hbs)
    have hring := (mem_datTies.1 hta).2.trans (mem_datTies.1 htb).2.symm
    rw [hring] at hlt
    exact (hlt.resolve_left (BitVec.lt_irrefl _)).2
  · intro hfit a ha b hb hbs
    rw [datKey_lt_iff]
    have hca := hsub ha
    rcases (datSearchKey_lt_iff (mem_datCapable.1 hca).1 (mem_datCapable.1 hb).1).1
      (hown a ha b hb hbs) with hlt | ⟨hring, -⟩
    · exact .inl hlt
    · -- ties, of which the one was selected and the other was not
      have hta : a ∈ datTies origHash _ (datRing (datIpKey ipDst vid) a) :=
        mem_datTies.2 ⟨hca, rfl⟩
      have htb : b ∈ datTies origHash _ (datRing (datIpKey ipDst vid) a) :=
        mem_datTies.2 ⟨hb, hring.symm⟩
      refine .inr ⟨hring, hfit a hca a ((hdrop _ a hta).1 ha) b ?_⟩
      refine (List.mem_append.1 ?_).resolve_right fun hsel => hbs ((hdrop _ b htb).2 hsel)
      rwa [List.take_append_drop]

/-- Five originators, three of which have the same value: they are enumerated in the order of their
addresses from the highest one. -/
theorem dat_candidates_iff_descending :
    let origHash : List DatOrig := [⟨0x020000000001, 7, true⟩, ⟨0x020000000009, 500, true⟩,
      ⟨0x020000000005, 500, true⟩, ⟨0x020000000008, 500, false⟩, ⟨0x020000000002, 500, true⟩]
    (datSelected origHash 0xC0A80001 0).length = min DAT_CANDIDATES_NUM 4 ∧
      (datSelected origHash 0xC0A80001 0).Nodup ∧
      ∀ o, o ∈ datSelected origHash 0xC0A80001 0 ↔ o ∈ datPlacement origHash 0xC0A80001 0 := by
  intro origHash
  have hnodup : (origHash.map DatOrig.orig).Nodup := by decide
  have hfit : DatTiesFit origHash (datIpKey 0xC0A80001 0) := by decide +kernel
  exact (dat_candidates_iff hnodup 0xC0A80001 0).2 hfit

/-- Four originators have the same value: enumerated in the order of their addresses, the one with
the lowest address is not selected. -/
theorem dat_candidates_highest :
    let origHash : List DatOrig := [⟨0x020000000001, 500, true⟩, ⟨0x020000000002, 500, true⟩,
      ⟨0x020000000003, 500, true⟩, ⟨0x020000000004, 500, true⟩]
    ⟨0x020000000001, 500, true⟩ ∈ datPlacement origHash 0xC0A80001 0 ∧
      ⟨0x020000000001, 500, true⟩ ∉ datSelected origHash 0xC0A80001 0 := by
  decide +kernel

end Batadv
