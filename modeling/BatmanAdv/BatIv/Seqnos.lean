import BatmanAdv.Bitarray
import BatmanAdv.Lib.Run
import BatmanAdv.Lib.SlidingWindow
import BatmanAdv.Originator

set_option relaxedAutoImplicit false
set_option autoImplicit false

/-!
# Duplicate windows of B.A.T.M.A.N. IV (`bat_iv_ogm.c`)

For every originator and outgoing interface a node keeps the newest sequence number of the
originator's OGMs, and with every neighbour in the originator's list a bitmap that tells which of
the last 64 numbers have come from that neighbour.  All the bitmaps of an originator are relative to
the one newest number.  `batadv_iv_ogm_update_seqnos` looks a number up in them, moves them on and
marks the number for its sender.

## Main definitions

* `Batadv.ivOgmUpdateSeqnos` — `batadv_iv_ogm_update_seqnos`.
* `Batadv.IvHistory`, `Batadv.ivHistoryNext` — which numbers were accepted from whom since the
  window has last started anew.

## Main results

* `Batadv.ivOgmUpdateSeqnos_spec` — what one OGM does.
* `Batadv.iv_windows_exact` — over any run the windows are those of the history.
-/

namespace Batadv

/-! ### Bitmaps -/

/-- `bitmap_weight` -/
def bitmapWeight (bits : BitVec 64) : ℕ := (List.range 64).countP (bits.getLsbD ·)

/-! ### The update -/

/-- `struct batadv_neigh_ifinfo` with the part `bat_iv` that is used here. -/
structure IvNeighIfinfo where
  realBits : BitVec 64
  realPacketCount : U8
deriving DecidableEq, Repr

/-- `struct batadv_neigh_node` -/
structure IvNeighNode where
  ifinfoList : Table IfKey IvNeighIfinfo
deriving DecidableEq, Repr

/-- `struct batadv_orig_node` -/
structure IvOrigNode where
  neighList : Table NeighKey IvNeighNode
  ifinfoList : Table IfKey OrigIfinfo
deriving DecidableEq, Repr

/-- The reception of an OGM of the originator: its sequence number, the sender and the interface it
came in on, the time, and which records can be allocated. -/
structure IvOgmRecv where
  seqno : U32
  neigh : NeighKey
  jiffies : Jiffies
  origIfinfo : Bool
  neighIfinfo : NeighKey → Bool

/-- `enum batadv_dup_status` -/
inductive DupStatus
  | noDup
  | origDup
  | neighDup
  | isProtected
deriving DecidableEq, Repr

/-- `batadv_orig_ifinfo_new` -/
def ivOrigIfinfoNew (msecsToJiffies : ℕ → Jiffies) (ev : IvOgmRecv) (orig : IvOrigNode)
    (ifOutgoing : IfKey) : Option OrigIfinfo :=
  match orig.ifinfoList.get ifOutgoing with
  | some ifinfo => some ifinfo
  | none => if ev.origIfinfo then some (origIfinfoInit msecsToJiffies ev.jiffies) else none

/-- `batadv_neigh_ifinfo_new` -/
def ivNeighIfinfoNew (allocated : Bool) (neigh : IvNeighNode) (ifOutgoing : IfKey) :
    Option IvNeighIfinfo :=
  match neigh.ifinfoList.get ifOutgoing with
  | some ifinfo => some ifinfo
  | none => if allocated then some ⟨0, 0⟩ else none

/-- The status after another neighbour was looked at. -/
def nextDupStatus (ret : DupStatus) (isSender isDup : Bool) : DupStatus :=
  if isSender then
    if isDup then .neighDup else ret
  else if isDup && ret ≠ .neighDup then .origDup
  else ret

/-- What the loop of `batadv_iv_ogm_update_seqnos` does with one neighbour's record. -/
def ivUpdateIfinfo (neighIfinfo : IvNeighIfinfo) (seqDiff : ℤ) (setMark : Bool) : IvNeighIfinfo :=
  let bitmap := (bitGetPacket neighIfinfo.realBits seqDiff setMark).1
  ⟨bitmap, BitVec.ofNat 8 (bitmapWeight bitmap)⟩

/-- The loop over the originator's neighbours in `batadv_iv_ogm_update_seqnos`: the list after it,
the status, and whether the newest number is to be updated. -/
def ivUpdateSeqnosLoop (ev : IvOgmRecv) (lastRealSeqno : U32) (ifOutgoing : IfKey) :
    Table NeighKey IvNeighNode → DupStatus → Bool → Table NeighKey IvNeighNode × DupStatus × Bool
  | [], ret, needUpdate => ([], ret, needUpdate)
  | (key, neigh) :: neighList, ret, needUpdate =>
    match ivNeighIfinfoNew (ev.neighIfinfo key) neigh ifOutgoing with
    | none =>
      let (neighList, r) := ivUpdateSeqnosLoop ev lastRealSeqno ifOutgoing neighList ret needUpdate
      ((key, neigh) :: neighList, r)
    | some neighIfinfo =>
      let seqDiff := (ev.seqno - lastRealSeqno).toInt
      let isDup := testBit neighIfinfo.realBits lastRealSeqno ev.seqno
      let setMark := decide (key = ev.neigh)
      let ret := nextDupStatus ret setMark isDup
      let needUpdate := needUpdate || (bitGetPacket neighIfinfo.realBits seqDiff setMark).2
      let neigh : IvNeighNode :=
        ⟨neigh.ifinfoList.set ifOutgoing (ivUpdateIfinfo neighIfinfo seqDiff setMark)⟩
      let (neighList, r) := ivUpdateSeqnosLoop ev lastRealSeqno ifOutgoing neighList ret needUpdate
      ((key, neigh) :: neighList, r)

/-- `batadv_iv_ogm_update_seqnos` for the originator's record: the record after it, and the
status. -/
def ivOgmUpdateSeqnos (msecsToJiffies : ℕ → Jiffies) (ev : IvOgmRecv) (orig : IvOrigNode)
    (ifOutgoing : IfKey) : IvOrigNode × DupStatus :=
  match ivOrigIfinfoNew msecsToJiffies ev orig ifOutgoing with
  | none => (orig, .noDup)
  | some origIfinfo =>
    let seqDiff := (ev.seqno - origIfinfo.lastRealSeqno).toInt
    let protection :=
      if orig.neighList.isEmpty then some (origIfinfo.batmanSeqnoReset, false)
      else windowProtected msecsToJiffies ev.jiffies seqDiff TQ_LOCAL_WINDOW_SIZE
        origIfinfo.batmanSeqnoReset
    match protection with
    | none =>
      ({ orig with ifinfoList := orig.ifinfoList.set ifOutgoing origIfinfo }, .isProtected)
    | some (batmanSeqnoReset, _) =>
      let (neighList, ret, needUpdate) := ivUpdateSeqnosLoop ev origIfinfo.lastRealSeqno ifOutgoing
        orig.neighList .noDup false
      let origIfinfo :=
        { origIfinfo with
          batmanSeqnoReset := batmanSeqnoReset
          lastRealSeqno := if needUpdate then ev.seqno else origIfinfo.lastRealSeqno }
      ({ neighList := neighList
         ifinfoList := orig.ifinfoList.set ifOutgoing origIfinfo }, ret)

/-! ### Runs -/

/-- What happens to an originator's record: an OGM of it is received, or a neighbour joins its
list (`batadv_neigh_node_get_or_create`). -/
inductive IvSeqnoEvent
  | ogm (ev : IvOgmRecv)
  | neigh (key : NeighKey)

/-- The record after an event. -/
def ivSeqnosNext (msecsToJiffies : ℕ → Jiffies) (ifOutgoing : IfKey) (orig : IvOrigNode) :
    IvSeqnoEvent → IvOrigNode
  | .ogm ev => (ivOgmUpdateSeqnos msecsToJiffies ev orig ifOutgoing).1
  | .neigh key =>
    match orig.neighList.get key with
    | some _ => orig
    | none => { orig with neighList := (key, ⟨[]⟩) :: orig.neighList }

/-- `last_real_seqno`; it is 0 before there is a record. -/
def ivLastRealSeqno (orig : IvOrigNode) (ifOutgoing : IfKey) : U32 :=
  ((orig.ifinfoList.get ifOutgoing).map OrigIfinfo.lastRealSeqno).getD 0

/-- The record of a neighbour in the list. -/
def ivNeighIfinfoOf (orig : IvOrigNode) (ifOutgoing : IfKey) (key : NeighKey) :
    Option IvNeighIfinfo :=
  (orig.neighList.get key).bind fun neigh => neigh.ifinfoList.get ifOutgoing

/-- `real_bits` of a neighbour; no bit is set before there is a record. -/
def ivRealBits (orig : IvOrigNode) (ifOutgoing : IfKey) (key : NeighKey) : BitVec 64 :=
  ((ivNeighIfinfoOf orig ifOutgoing key).map IvNeighIfinfo.realBits).getD 0

/-- The bit for a sequence number is set in the bitmap of a neighbour. -/
def IvMarked (orig : IvOrigNode) (ifOutgoing : IfKey) (key : NeighKey) (seqno : U32) : Prop :=
  ∃ i < 64, ivLastRealSeqno orig ifOutgoing - BitVec.ofNat 32 i = seqno ∧
    (ivRealBits orig ifOutgoing key).getLsbD i = true

/-- What was accepted since the window has last started anew, each number with the neighbour it
came from, and whether it has not done so yet. -/
structure IvHistory where
  accepted : List (NeighKey × U32)
  fresh : Bool
deriving DecidableEq, Repr

/-- The history of a new record. -/
def IvHistory.init : IvHistory := ⟨[], true⟩

/-- The numbers that the history spans.  The number of a new record is 0. -/
def IvHistory.numbers (h : IvHistory) : List U32 :=
  (if h.fresh then [0] else []) ++ h.accepted.map Prod.snd

/-- The sequence number is out of the range in which the window is moved on: accepting it makes the
window start anew. -/
def ivRestarts (orig : IvOrigNode) (ifOutgoing : IfKey) (ev : IvOgmRecv) : Bool :=
  let seqDiff := (ev.seqno - ivLastRealSeqno orig ifOutgoing).toInt
  decide (seqDiff ≤ -TQ_LOCAL_WINDOW_SIZE ∨ EXPECTED_SEQNO_RANGE ≤ seqDiff)

/-- The history after an event: a number that is not rejected as protected is accepted. -/
def ivHistoryNext (msecsToJiffies : ℕ → Jiffies) (ifOutgoing : IfKey) (orig : IvOrigNode)
    (h : IvHistory) : IvSeqnoEvent → IvHistory
  | .ogm ev =>
    if (ivOgmUpdateSeqnos msecsToJiffies ev orig ifOutgoing).2 = .isProtected then h
    else if ivRestarts orig ifOutgoing ev then ⟨[(ev.neigh, ev.seqno)], false⟩
    else ⟨h.accepted ++ [(ev.neigh, ev.seqno)], h.fresh⟩
  | .neigh _ => h

/-- A record with its history. -/
def ivRunNext (msecsToJiffies : ℕ → Jiffies) (ifOutgoing : IfKey)
    (s : IvOrigNode × IvHistory) (e : IvSeqnoEvent) : IvOrigNode × IvHistory :=
  (ivSeqnosNext msecsToJiffies ifOutgoing s.1 e,
    ivHistoryNext msecsToJiffies ifOutgoing s.1 s.2 e)

/-- An OGM comes from a neighbour in the list. -/
def IvListed (orig : IvOrigNode) : IvSeqnoEvent → Prop
  | .ogm ev => (orig.neighList.get ev.neigh).isSome
  | .neigh _ => True

/-- The records for the outgoing interface exist or can be allocated. -/
def IvAllocated (ifOutgoing : IfKey) (orig : IvOrigNode) : IvSeqnoEvent → Prop
  | .ogm ev => ((orig.ifinfoList.get ifOutgoing).isSome ∨ ev.origIfinfo = true) ∧
      ∀ e ∈ orig.neighList, (e.2.ifinfoList.get ifOutgoing).isSome ∨ ev.neighIfinfo e.1 = true
  | .neigh _ => True

instance (orig : IvOrigNode) : ∀ e, Decidable (IvListed orig e)
  | .ogm ev => inferInstanceAs (Decidable ((orig.neighList.get ev.neigh).isSome = true))
  | .neigh _ => .isTrue trivial

instance (ifOutgoing : IfKey) (orig : IvOrigNode) : ∀ e, Decidable (IvAllocated ifOutgoing orig e)
  | .ogm ev => inferInstanceAs (Decidable (((orig.ifinfoList.get ifOutgoing).isSome = true ∨
      ev.origIfinfo = true) ∧ ∀ e ∈ orig.neighList,
        (e.2.ifinfoList.get ifOutgoing).isSome = true ∨ ev.neighIfinfo e.1 = true))
  | .neigh _ => .isTrue trivial

/-- The list of a new originator's record: no neighbour twice, and nothing recorded. -/
structure IvFresh (orig : IvOrigNode) (ifOutgoing : IfKey) : Prop where
  nodup : (orig.neighList.map Prod.fst).Nodup
  ifinfo : orig.ifinfoList.get ifOutgoing = none
  neighIfinfo : ∀ key, ivNeighIfinfoOf orig ifOutgoing key = none

/-- The status of an OGM is the one that the bitmaps before it call for. -/
structure IvStatusExact (msecsToJiffies : ℕ → Jiffies) (ifOutgoing : IfKey) (orig : IvOrigNode)
    (ev : IvOgmRecv) : Prop where
  neighDup : (ivOgmUpdateSeqnos msecsToJiffies ev orig ifOutgoing).2 = .neighDup ↔
    IvMarked orig ifOutgoing ev.neigh ev.seqno
  origDup : (ivOgmUpdateSeqnos msecsToJiffies ev orig ifOutgoing).2 = .origDup ↔
    ¬ IvMarked orig ifOutgoing ev.neigh ev.seqno ∧
      ∃ key ≠ ev.neigh, IvMarked orig ifOutgoing key ev.seqno
  noDup : (ivOgmUpdateSeqnos msecsToJiffies ev orig ifOutgoing).2 = .noDup ↔
    (ivOgmUpdateSeqnos msecsToJiffies ev orig ifOutgoing).2 ≠ .isProtected ∧
      ∀ key, ¬ IvMarked orig ifOutgoing key ev.seqno

/-- The windows of an originator for an outgoing interface are those of its history. -/
structure IvWindowsExact (ifOutgoing : IfKey) (orig : IvOrigNode) (h : IvHistory) : Prop where
  bits : ∀ key, (orig.neighList.get key).isSome → ∀ i < 64,
    (ivRealBits orig ifOutgoing key).getLsbD i = true ↔
      (key, ivLastRealSeqno orig ifOutgoing - BitVec.ofNat 32 i) ∈ h.accepted
  count : ∀ key ifinfo, ivNeighIfinfoOf orig ifOutgoing key = some ifinfo →
    ifinfo.realPacketCount.toNat = bitmapWeight ifinfo.realBits
  newest : ivLastRealSeqno orig ifOutgoing ∈ h.numbers ∧
    ∀ m ∈ h.numbers, 0 ≤ (ivLastRealSeqno orig ifOutgoing - m).toInt

/-! ### The loop -/

lemma bitmapWeight_le (bits : BitVec 64) : bitmapWeight bits ≤ 64 :=
  List.countP_le_length.trans (by simp)

/-- The record of a neighbour, or the one that is created for it. -/
def ivIfinfoOrNew (neigh : IvNeighNode) (ifOutgoing : IfKey) : IvNeighIfinfo :=
  (neigh.ifinfoList.get ifOutgoing).getD ⟨0, 0⟩

/-- What an OGM does to a neighbour in the list. -/
def ivUpdateNeigh (ev : IvOgmRecv) (lastRealSeqno : U32) (ifOutgoing : IfKey) (key : NeighKey)
    (neigh : IvNeighNode) : IvNeighNode :=
  ⟨neigh.ifinfoList.set ifOutgoing (ivUpdateIfinfo (ivIfinfoOrNew neigh ifOutgoing)
    (ev.seqno - lastRealSeqno).toInt (decide (key = ev.neigh)))⟩

/-- The status after the neighbours were looked at. -/
def ivDupStatus (ev : IvOgmRecv) (lastRealSeqno : U32) (ifOutgoing : IfKey)
    (neighList : Table NeighKey IvNeighNode) (ret : DupStatus) : DupStatus :=
  neighList.foldl
    (fun ret e => nextDupStatus ret (decide (e.1 = ev.neigh))
      (testBit (ivIfinfoOrNew e.2 ifOutgoing).realBits lastRealSeqno ev.seqno))
    ret

/-- **The loop over the neighbours**, when all records are there: each is updated on its own, and
the newest number is to be updated when the window was moved. -/
lemma ivUpdateSeqnosLoop_eq {ev : IvOgmRecv} {ifOutgoing : IfKey} (lastRealSeqno : U32)
    {neighList : Table NeighKey IvNeighNode}
    (halloc : ∀ e ∈ neighList,
      (e.2.ifinfoList.get ifOutgoing).isSome ∨ ev.neighIfinfo e.1 = true)
    (ret : DupStatus) (needUpdate : Bool) :
    ivUpdateSeqnosLoop ev lastRealSeqno ifOutgoing neighList ret needUpdate =
      (neighList.map fun e => (e.1, ivUpdateNeigh ev lastRealSeqno ifOutgoing e.1 e.2),
        ivDupStatus ev lastRealSeqno ifOutgoing neighList ret,
        needUpdate || (!neighList.isEmpty &&
          !decide ((ev.seqno - lastRealSeqno).toInt ≤ 0 ∧
            -64 < (ev.seqno - lastRealSeqno).toInt))) := by
  induction neighList generalizing ret needUpdate with
  | nil => simp [ivUpdateSeqnosLoop, ivDupStatus]
  | cons e neighList ih =>
    obtain ⟨key, neigh⟩ := e
    obtain ⟨he, hrest⟩ := List.forall_mem_cons.1 halloc
    have hnew : ivNeighIfinfoNew (ev.neighIfinfo key) neigh ifOutgoing =
        some (ivIfinfoOrNew neigh ifOutgoing) := by
      unfold ivNeighIfinfoNew ivIfinfoOrNew
      cases hget : neigh.ifinfoList.get ifOutgoing with
      | some ifinfo => rfl
      | none =>
        have hyes : ev.neighIfinfo key = true := he.resolve_left (by simp [hget])
        simp [hyes]
    simp only [ivUpdateSeqnosLoop, hnew, ih hrest, bitGetPacket_snd, List.map_cons,
      List.isEmpty_cons, Bool.not_false, Bool.true_and]
    refine Prod.ext rfl (Prod.ext rfl ?_)
    cases needUpdate <;> cases neighList.isEmpty <;> simp

/-- **The status**: that of the sender's bit comes before that of the others. -/
lemma ivDupStatus_eq (ev : IvOgmRecv) (lastRealSeqno : U32) (ifOutgoing : IfKey)
    (neighList : Table NeighKey IvNeighNode) (ret : DupStatus) :
    ivDupStatus ev lastRealSeqno ifOutgoing neighList ret =
      if neighList.any (fun e => decide (e.1 = ev.neigh) &&
          testBit (ivIfinfoOrNew e.2 ifOutgoing).realBits lastRealSeqno ev.seqno) then .neighDup
      else if ret = .neighDup then .neighDup
      else if neighList.any (fun e => !decide (e.1 = ev.neigh) &&
          testBit (ivIfinfoOrNew e.2 ifOutgoing).realBits lastRealSeqno ev.seqno) then .origDup
      else ret := by
  induction neighList generalizing ret with
  | nil => cases ret <;> rfl
  | cons e neighList ih =>
    have hcons : ivDupStatus ev lastRealSeqno ifOutgoing (e :: neighList) ret =
        ivDupStatus ev lastRealSeqno ifOutgoing neighList
          (nextDupStatus ret (decide (e.1 = ev.neigh))
            (testBit (ivIfinfoOrNew e.2 ifOutgoing).realBits lastRealSeqno ev.seqno)) := rfl
    rw [hcons, ih, List.any_cons, List.any_cons, nextDupStatus]
    generalize (neighList.any fun e => decide (e.1 = ev.neigh) && _) = senderDup
    generalize (neighList.any fun e => !decide (e.1 = ev.neigh) && _) = otherDup
    cases decide (e.1 = ev.neigh) <;>
      cases testBit (ivIfinfoOrNew e.2 ifOutgoing).realBits lastRealSeqno ev.seqno <;>
      cases senderDup <;> cases otherDup <;> cases ret <;> rfl

/-! ### One OGM -/

variable {msecsToJiffies : ℕ → Jiffies} {ifOutgoing : IfKey} {orig : IvOrigNode} {ev : IvOgmRecv}

/-- A record that is there, or can be allocated, has the newest number. -/
lemma ivOrigIfinfoNew_eq_some (msecsToJiffies : ℕ → Jiffies)
    (h : (orig.ifinfoList.get ifOutgoing).isSome ∨ ev.origIfinfo = true) :
    ∃ origIfinfo, ivOrigIfinfoNew msecsToJiffies ev orig ifOutgoing = some origIfinfo ∧
      origIfinfo.lastRealSeqno = ivLastRealSeqno orig ifOutgoing := by
  unfold ivOrigIfinfoNew ivLastRealSeqno
  cases hget : orig.ifinfoList.get ifOutgoing with
  | some ifinfo => exact ⟨ifinfo, rfl, rfl⟩
  | none =>
    have hyes : ev.origIfinfo = true := h.resolve_left (by simp [hget])
    exact ⟨_, if_pos hyes, rfl⟩

lemma ivLastRealSeqno_set (neighList : Table NeighKey IvNeighNode)
    (ifinfoList : Table IfKey OrigIfinfo) (ifOutgoing : IfKey) (ifinfo : OrigIfinfo) :
    ivLastRealSeqno ⟨neighList, ifinfoList.set ifOutgoing ifinfo⟩ ifOutgoing =
      ifinfo.lastRealSeqno := by
  simp [ivLastRealSeqno]

/-- **What an OGM does.**  It is rejected as protected, which happens only to a number that would
make the window start anew, or every neighbour's record is updated. -/
theorem ivOgmUpdateSeqnos_spec (msecsToJiffies : ℕ → Jiffies) (hlisted : IvListed orig (.ogm ev))
    (halloc : IvAllocated ifOutgoing orig (.ogm ev)) :
    ((ivOgmUpdateSeqnos msecsToJiffies ev orig ifOutgoing).2 = .isProtected ∧
        ivRestarts orig ifOutgoing ev = true ∧
        (ivOgmUpdateSeqnos msecsToJiffies ev orig ifOutgoing).1.neighList = orig.neighList ∧
        ivLastRealSeqno (ivOgmUpdateSeqnos msecsToJiffies ev orig ifOutgoing).1 ifOutgoing =
          ivLastRealSeqno orig ifOutgoing) ∨
      ((ivOgmUpdateSeqnos msecsToJiffies ev orig ifOutgoing).2 =
          ivDupStatus ev (ivLastRealSeqno orig ifOutgoing) ifOutgoing orig.neighList .noDup ∧
        (ivOgmUpdateSeqnos msecsToJiffies ev orig ifOutgoing).1.neighList =
          orig.neighList.map (fun e =>
            (e.1, ivUpdateNeigh ev (ivLastRealSeqno orig ifOutgoing) ifOutgoing e.1 e.2)) ∧
        ivLastRealSeqno (ivOgmUpdateSeqnos msecsToJiffies ev orig ifOutgoing).1 ifOutgoing =
          if (ev.seqno - ivLastRealSeqno orig ifOutgoing).toInt ≤ 0 ∧
              -64 < (ev.seqno - ivLastRealSeqno orig ifOutgoing).toInt then
            ivLastRealSeqno orig ifOutgoing
          else ev.seqno) := by
  obtain ⟨origIfinfo, hnew, hlast⟩ := ivOrigIfinfoNew_eq_some msecsToJiffies halloc.1
  have hempty : orig.neighList.isEmpty = false := by
    cases hl : orig.neighList with
    | nil =>
      rw [IvListed, hl] at hlisted
      cases hlisted
    | cons e neighList => rfl
  have hloop := ivUpdateSeqnosLoop_eq (ivLastRealSeqno orig ifOutgoing) halloc.2 .noDup false
  unfold ivOgmUpdateSeqnos
  simp only [hnew, hempty, Bool.false_eq_true, if_false, hlast, hloop, Bool.not_false,
    Bool.true_and, Bool.false_or]
  cases hprot : windowProtected msecsToJiffies ev.jiffies
      (ev.seqno - ivLastRealSeqno orig ifOutgoing).toInt TQ_LOCAL_WINDOW_SIZE
      origIfinfo.batmanSeqnoReset with
  | none =>
    refine Or.inl ⟨rfl, ?_, rfl, ?_⟩
    · exact decide_eq_true ((windowProtected_eq_none_iff _ _ _ _ _).1 hprot).1
    · exact (ivLastRealSeqno_set _ _ _ _).trans hlast
  | some r =>
    refine Or.inr ⟨rfl, rfl, (ivLastRealSeqno_set _ _ _ _).trans ?_⟩
    by_cases hbehind : (ev.seqno - ivLastRealSeqno orig ifOutgoing).toInt ≤ 0 ∧
        -64 < (ev.seqno - ivLastRealSeqno orig ifOutgoing).toInt
    · simp only [hbehind, and_self, decide_true, Bool.not_true, Bool.false_eq_true, if_false,
        if_true]
    · simp only [hbehind, decide_false, Bool.not_false, if_false, if_true]

/-- The status of the loop is not that of a protected OGM. -/
lemma ivDupStatus_ne_isProtected (ev : IvOgmRecv) (lastRealSeqno : U32) (ifOutgoing : IfKey)
    (neighList : Table NeighKey IvNeighNode) :
    ivDupStatus ev lastRealSeqno ifOutgoing neighList .noDup ≠ .isProtected := by
  rw [ivDupStatus_eq]
  split_ifs <;> simp

/-- An entry of a list without double keys is found by its key. -/
lemma ivNeigh_get_of_mem {neighList : Table NeighKey IvNeighNode}
    (hnodup : (neighList.map Prod.fst).Nodup) {e : NeighKey × IvNeighNode}
    (he : e ∈ neighList) : neighList.get e.1 = some e.2 := by
  induction neighList with
  | nil => cases he
  | cons e' neighList ih =>
    rw [List.map_cons, List.nodup_cons] at hnodup
    rw [Table.get_cons]
    rcases List.mem_cons.1 he with rfl | he
    · rw [if_pos rfl]
    · rw [if_neg, ih hnodup.2 he]
      intro heq
      exact hnodup.1 (heq ▸ List.mem_map_of_mem he)

/-- The bitmap of a neighbour in the list. -/
lemma ivRealBits_of_get (ifOutgoing : IfKey) {key : NeighKey} {neigh : IvNeighNode}
    (h : orig.neighList.get key = some neigh) :
    ivRealBits orig ifOutgoing key = (ivIfinfoOrNew neigh ifOutgoing).realBits := by
  rw [ivRealBits, ivNeighIfinfoOf, h, Option.bind_some, ivIfinfoOrNew]
  cases neigh.ifinfoList.get ifOutgoing <;> rfl

/-- Who is not in the list has no bits. -/
lemma ivRealBits_of_get_none {key : NeighKey} (h : orig.neighList.get key = none) :
    ivRealBits orig ifOutgoing key = 0 := by
  rw [ivRealBits, ivNeighIfinfoOf, h]
  rfl

/-- The bit for the number is set for a neighbour of a kind. -/
lemma any_testBit_iff (ifOutgoing : IfKey) (hnodup : (orig.neighList.map Prod.fst).Nodup)
    (p : NeighKey → Bool) (seqno : U32) :
    (orig.neighList.any fun e => p e.1 && testBit (ivIfinfoOrNew e.2 ifOutgoing).realBits
        (ivLastRealSeqno orig ifOutgoing) seqno) = true ↔
      ∃ key, p key = true ∧ IvMarked orig ifOutgoing key seqno := by
  rw [List.any_eq_true]
  constructor
  · rintro ⟨e, he, hbit⟩
    rw [Bool.and_eq_true] at hbit
    have hbits := ivRealBits_of_get ifOutgoing (ivNeigh_get_of_mem hnodup he)
    exact ⟨e.1, hbit.1, by rw [IvMarked, hbits]; exact testBit_iff.1 hbit.2⟩
  · rintro ⟨key, hp, hmark⟩
    cases hget : orig.neighList.get key with
    | none =>
      obtain ⟨i, -, -, hbit⟩ := hmark
      rw [ivRealBits_of_get_none hget] at hbit
      simp at hbit
    | some neigh =>
      refine ⟨(key, neigh), Table.mem_of_get hget, ?_⟩
      rw [IvMarked, ivRealBits_of_get _ hget] at hmark
      rw [Bool.and_eq_true]
      exact ⟨hp, testBit_iff.2 hmark⟩

/-- A number that would make the window start anew is not in it. -/
lemma not_ivMarked_of_restarts (h : ivRestarts orig ifOutgoing ev = true) (key : NeighKey) :
    ¬ IvMarked orig ifOutgoing key ev.seqno := by
  rintro ⟨i, hi, hnum, -⟩
  have hsize : TQ_LOCAL_WINDOW_SIZE = 64 := rfl
  have hrange : EXPECTED_SEQNO_RANGE = 65536 := rfl
  have hneg : (ev.seqno - ivLastRealSeqno orig ifOutgoing) = - BitVec.ofNat 32 i := by
    rw [← hnum]
    ring
  have hdiff : (ev.seqno - ivLastRealSeqno orig ifOutgoing).toInt = -i := by
    rw [hneg, BitVec.toInt_neg, BitVec.toInt_eq_toNat_cond, BitVec.toNat_ofNat,
      Nat.mod_eq_of_lt (by omega), if_pos (by omega)]
    exact Int.bmod_eq_of_le (by omega) (by omega)
  rw [ivRestarts, decide_eq_true_iff] at h
  omega

/-- **The status is exact.** -/
lemma ivStatusExact (msecsToJiffies : ℕ → Jiffies)
    (hnodup : (orig.neighList.map Prod.fst).Nodup) (hlisted : IvListed orig (.ogm ev))
    (halloc : IvAllocated ifOutgoing orig (.ogm ev)) :
    IvStatusExact msecsToJiffies ifOutgoing orig ev := by
  have hsender := any_testBit_iff ifOutgoing hnodup
    (fun key => decide (key = ev.neigh)) ev.seqno
  have hother := any_testBit_iff ifOutgoing hnodup
    (fun key => !decide (key = ev.neigh)) ev.seqno
  simp only [decide_eq_true_eq, exists_eq_left, Bool.not_eq_true', decide_eq_false_iff_not]
    at hsender hother
  rcases ivOgmUpdateSeqnos_spec msecsToJiffies hlisted halloc with
    ⟨hst, hrestart, -⟩ | ⟨hst, -⟩
  · have hnot := not_ivMarked_of_restarts hrestart
    constructor <;> rw [hst]
    · simp [hnot]
    · simp [hnot]
    · simp
  · have hne := ivDupStatus_ne_isProtected ev (ivLastRealSeqno orig ifOutgoing) ifOutgoing
      orig.neighList
    have heq := ivDupStatus_eq ev (ivLastRealSeqno orig ifOutgoing) ifOutgoing orig.neighList
      .noDup
    simp only [reduceCtorEq, if_false] at heq
    have hnone : (∀ key, ¬ IvMarked orig ifOutgoing key ev.seqno) ↔
        ¬ IvMarked orig ifOutgoing ev.neigh ev.seqno ∧
          ¬ ∃ key, ¬ key = ev.neigh ∧ IvMarked orig ifOutgoing key ev.seqno := by
      refine ⟨fun h => ⟨h _, fun ⟨key, _, hmark⟩ => h key hmark⟩, fun ⟨h, h'⟩ key hmark => ?_⟩
      by_cases hkey : key = ev.neigh
      · exact h (hkey ▸ hmark)
      · exact h' ⟨key, hkey, hmark⟩
    constructor <;> rw [hst]
    · rw [heq, ← hsender]
      split_ifs with h₁ h₂ <;> simp [h₁]
    · rw [heq, ← hsender]
      simp only [ne_eq]
      rw [← hother]
      split_ifs with h₁ h₂
      · simp [h₁]
      · simp [h₁, h₂]
      · simp [h₁, h₂]
    · rw [and_iff_right hne, hnone, heq, ← hsender, ← hother]
      split_ifs with h₁ h₂
      · simp [h₁]
      · simp [h₁, h₂]
      · simp [h₁, h₂]

/-! ### The windows over a run -/

/-- The numbers that were accepted from a neighbour. -/
def IvHistory.fromNeigh (h : IvHistory) (key : NeighKey) : List U32 :=
  (h.accepted.filter fun e => decide (e.1 = key)).map Prod.snd

lemma IvHistory.mem_fromNeigh {h : IvHistory} {key : NeighKey} {m : U32} :
    m ∈ h.fromNeigh key ↔ (key, m) ∈ h.accepted := by
  simp only [IvHistory.fromNeigh, List.mem_map, List.mem_filter, decide_eq_true_eq]
  constructor
  · rintro ⟨⟨key', m'⟩, ⟨hmem, rfl⟩, rfl⟩
    exact hmem
  · exact fun hmem => ⟨(key, m), ⟨hmem, rfl⟩, rfl⟩

lemma IvHistory.mem_numbers_of_mem_fromNeigh {h : IvHistory} {key : NeighKey} {m : U32}
    (hm : m ∈ h.fromNeigh key) : m ∈ h.numbers :=
  List.mem_append_right _ (List.mem_map.2 ⟨(key, m), IvHistory.mem_fromNeigh.1 hm, rfl⟩)

/-- A number is accepted from a neighbour. -/
def IvHistory.accept (h : IvHistory) (key : NeighKey) (seqno : U32) : IvHistory :=
  ⟨h.accepted ++ [(key, seqno)], h.fresh⟩

@[simp] lemma IvHistory.numbers_accept (h : IvHistory) (key : NeighKey) (seqno : U32) :
    (h.accept key seqno).numbers = h.numbers ++ [seqno] := by
  rw [IvHistory.numbers, IvHistory.numbers, IvHistory.accept, List.map_append, List.append_assoc]
  rfl

lemma IvHistory.fromNeigh_accept (h : IvHistory) (key key' : NeighKey) (seqno : U32) :
    (h.accept key' seqno).fromNeigh key =
      h.fromNeigh key ++ if key = key' then [seqno] else [] := by
  by_cases hkey : key = key'
  · simp [IvHistory.fromNeigh, IvHistory.accept, hkey]
  · simp [IvHistory.fromNeigh, IvHistory.accept, hkey, Ne.symm hkey]

/-- What holds of an originator's record and its history.  While the numbers of the history lie on a
half circle, none is ahead of the newest one, and the bitmaps are exact. -/
structure IvInv (ifOutgoing : IfKey) (orig : IvOrigNode) (h : IvHistory) : Prop where
  nodup : (orig.neighList.map Prod.fst).Nodup
  listed : ∀ e ∈ h.accepted, (orig.neighList.get e.1).isSome
  count : ∀ key ifinfo, ivNeighIfinfoOf orig ifOutgoing key = some ifinfo →
    ifinfo.realPacketCount.toNat = bitmapWeight ifinfo.realBits
  last : ivLastRealSeqno orig ifOutgoing ∈ h.numbers
  exact_of_near : ∀ b, (∀ m ∈ h.numbers, SerialNumber.Near b m) →
    SlidingWindow.Behind b (ivLastRealSeqno orig ifOutgoing) h.numbers ∧
      ∀ key, SlidingWindow.Exact (ivRealBits orig ifOutgoing key)
        (ivLastRealSeqno orig ifOutgoing) (h.fromNeigh key)

/-- The invariant holds of a new record. -/
lemma ivInv_init (h : IvFresh orig ifOutgoing) : IvInv ifOutgoing orig .init := by
  have hlast : ivLastRealSeqno orig ifOutgoing = 0 := by
    rw [ivLastRealSeqno, h.ifinfo]
    rfl
  refine ⟨h.nodup, by simp [IvHistory.init], fun key ifinfo hinfo => ?_, ?_, fun b hb => ?_⟩
  · rw [h.neighIfinfo] at hinfo
    cases hinfo
  · rw [hlast]
    exact List.mem_singleton_self _
  · have hb0 := hb 0 (List.mem_singleton_self _)
    rw [hlast]
    refine ⟨⟨hb0, fun m hm => ?_⟩, fun key => ?_⟩
    · obtain rfl : m = 0 := List.mem_singleton.1 hm
      exact ⟨hb0, le_rfl⟩
    · rw [ivRealBits, h.neighIfinfo]
      exact SlidingWindow.exact_zero _ _

/-- A neighbour that joins the list has no bits. -/
lemma IvInv.neigh {h : IvHistory} (msecsToJiffies : ℕ → Jiffies)
    (hinv : IvInv ifOutgoing orig h) (key : NeighKey) :
    IvInv ifOutgoing (ivSeqnosNext msecsToJiffies ifOutgoing orig (.neigh key)) h := by
  simp only [ivSeqnosNext]
  split
  · exact hinv
  · next hget =>
    have hnew : ∀ key', (Table.get ((key, (⟨[]⟩ : IvNeighNode)) :: orig.neighList) key').isSome ↔
        key' = key ∨ (orig.neighList.get key').isSome := by
      intro key'
      rw [Table.get_cons]
      split_ifs with hkey <;> simp [hkey]
    have hinfo : ∀ key', ivNeighIfinfoOf ⟨(key, ⟨[]⟩) :: orig.neighList, orig.ifinfoList⟩
        ifOutgoing key' = ivNeighIfinfoOf orig ifOutgoing key' := by
      intro key'
      rw [ivNeighIfinfoOf, ivNeighIfinfoOf, Table.get_cons]
      split_ifs with hkey
      · rw [hkey, hget]
        rfl
      · rfl
    refine ⟨?_, fun e he => (hnew e.1).2 (Or.inr (hinv.listed e he)), fun key' ifinfo => ?_,
      hinv.last, fun b hb => ?_⟩
    · rw [List.map_cons, List.nodup_cons]
      exact ⟨Table.get_eq_none_iff.1 hget, hinv.nodup⟩
    · rw [hinfo]
      exact hinv.count key' ifinfo
    · obtain ⟨hbehind, hexact⟩ := hinv.exact_of_near b hb
      refine ⟨hbehind, fun key' => ?_⟩
      rw [ivRealBits, hinfo]
      exact hexact key'

/-- The records after an OGM that was accepted. -/
lemma ivNeighIfinfoOf_update {orig' : IvOrigNode} {last : U32}
    (hlist : orig'.neighList = orig.neighList.map fun e =>
      (e.1, ivUpdateNeigh ev last ifOutgoing e.1 e.2)) (key : NeighKey) :
    ivNeighIfinfoOf orig' ifOutgoing key = (orig.neighList.get key).map fun neigh =>
      ivUpdateIfinfo (ivIfinfoOrNew neigh ifOutgoing) (ev.seqno - last).toInt
        (decide (key = ev.neigh)) := by
  rw [ivNeighIfinfoOf, hlist, Table.get_map_key]
  cases orig.neighList.get key with
  | none => rfl
  | some neigh => simp [ivUpdateNeigh]

/-- The bitmaps after an OGM that was accepted. -/
lemma ivRealBits_update {orig' : IvOrigNode} {last : U32}
    (hlist : orig'.neighList = orig.neighList.map fun e =>
      (e.1, ivUpdateNeigh ev last ifOutgoing e.1 e.2)) (key : NeighKey) :
    ivRealBits orig' ifOutgoing key =
      if (orig.neighList.get key).isSome then
        (bitGetPacket (ivRealBits orig ifOutgoing key) (ev.seqno - last).toInt
          (decide (key = ev.neigh))).1
      else 0 := by
  rw [ivRealBits, ivNeighIfinfoOf_update hlist]
  cases hget : orig.neighList.get key with
  | none => rfl
  | some neigh =>
    rw [ivRealBits_of_get _ hget]
    rfl

/-- An OGM that is accepted keeps what the invariant says about the list and the counters. -/
lemma IvInv.list_update {h : IvHistory} (hinv : IvInv ifOutgoing orig h) {orig' : IvOrigNode}
    {last : U32} (h' : IvHistory) (hlisted : IvListed orig (.ogm ev))
    (haccepted : ∀ e ∈ h'.accepted, e ∈ h.accepted ∨ e = (ev.neigh, ev.seqno))
    (hlist : orig'.neighList = orig.neighList.map fun e =>
      (e.1, ivUpdateNeigh ev last ifOutgoing e.1 e.2)) :
    (orig'.neighList.map Prod.fst).Nodup ∧
      (∀ e ∈ h'.accepted, (orig'.neighList.get e.1).isSome) ∧
      ∀ key ifinfo, ivNeighIfinfoOf orig' ifOutgoing key = some ifinfo →
        ifinfo.realPacketCount.toNat = bitmapWeight ifinfo.realBits := by
  have hsome : ∀ key, (orig'.neighList.get key).isSome = (orig.neighList.get key).isSome := by
    intro key
    rw [hlist, Table.get_map_key, Option.isSome_map]
  refine ⟨?_, fun e he => ?_, fun key ifinfo hinfo => ?_⟩
  · rw [hlist, List.map_map]
    exact hinv.nodup
  · rw [hsome]
    rcases haccepted e he with he | rfl
    · exact hinv.listed e he
    · exact hlisted
  · rw [ivNeighIfinfoOf_update hlist, Option.map_eq_some_iff] at hinfo
    obtain ⟨neigh, -, rfl⟩ := hinfo
    have hle := bitmapWeight_le (bitGetPacket (ivIfinfoOrNew neigh ifOutgoing).realBits
      (ev.seqno - last).toInt (decide (key = ev.neigh))).1
    rw [ivUpdateIfinfo, BitVec.toNat_ofNat, Nat.mod_eq_of_lt (by omega)]

/-- Marking the newest number, or not, keeps a window exact. -/
lemma exact_markNewest {bits : BitVec 64} {seqno : U32} {seen : List U32}
    (h : SlidingWindow.Exact bits seqno seen) (key key' : NeighKey) :
    SlidingWindow.Exact (markNewest (decide (key = key')) bits) seqno
      (seen ++ if key = key' then [seqno] else []) := by
  unfold markNewest
  by_cases hkey : key = key'
  · have hmark := h.mark (by decide) (d := 0) (by decide)
    have hzero : seqno - BitVec.ofNat 32 0 = seqno := by simp
    rw [hzero] at hmark
    simpa [hkey] using hmark
  · simpa [hkey] using h

/-- **A number that makes the window start anew** leaves it alone in the history. -/
lemma IvInv.restart {h : IvHistory} (hinv : IvInv ifOutgoing orig h) {orig' : IvOrigNode}
    (hlisted : IvListed orig (.ogm ev)) (hrestart : ivRestarts orig ifOutgoing ev = true)
    (hlist : orig'.neighList = orig.neighList.map fun e =>
      (e.1, ivUpdateNeigh ev (ivLastRealSeqno orig ifOutgoing) ifOutgoing e.1 e.2))
    (hlast : ivLastRealSeqno orig' ifOutgoing = ev.seqno) :
    IvInv ifOutgoing orig' ⟨[(ev.neigh, ev.seqno)], false⟩ := by
  have hsize : TQ_LOCAL_WINDOW_SIZE = 64 := rfl
  have hrange : EXPECTED_SEQNO_RANGE = 65536 := rfl
  obtain ⟨hnodup, hlisted', hcount⟩ := hinv.list_update
    ⟨[(ev.neigh, ev.seqno)], false⟩ hlisted
    (fun e he => Or.inr (List.mem_singleton.1 he)) hlist
  rw [ivRestarts, decide_eq_true_iff] at hrestart
  refine ⟨hnodup, hlisted', hcount, ?_, fun b hb => ?_⟩
  · rw [hlast]
    exact List.mem_singleton_self _
  · rw [hlast]
    have hnear := hb ev.seqno (List.mem_singleton_self _)
    refine ⟨⟨hnear, fun m hm => ?_⟩, fun key => ?_⟩
    · obtain rfl : m = ev.seqno := List.mem_singleton.1 hm
      exact ⟨hnear, le_rfl⟩
    · have hfrom : IvHistory.fromNeigh ⟨[(ev.neigh, ev.seqno)], false⟩ key =
          [] ++ if key = ev.neigh then [ev.seqno] else [] := by
        by_cases hkey : key = ev.neigh
        · simp [IvHistory.fromNeigh, hkey]
        · simp [IvHistory.fromNeigh, hkey, Ne.symm hkey]
      rw [ivRealBits_update hlist, hfrom]
      split_ifs with hsome hkey
      · rw [bitGetPacket_of_range (by omega)]
        simpa [hkey] using exact_markNewest (SlidingWindow.exact_zero 64 ev.seqno) key ev.neigh
      · rw [bitGetPacket_of_range (by omega)]
        simpa [hkey] using exact_markNewest (SlidingWindow.exact_zero 64 ev.seqno) key ev.neigh
      · rw [‹key = ev.neigh›] at hsome
        exact absurd hlisted hsome
      · exact SlidingWindow.exact_zero _ _

/-- Nothing was accepted from a neighbour that is not in the list. -/
lemma IvInv.fromNeigh_eq_nil {h : IvHistory} (hinv : IvInv ifOutgoing orig h) {key : NeighKey}
    (hkey : ¬ (orig.neighList.get key).isSome) : h.fromNeigh key = [] := by
  refine List.eq_nil_iff_forall_not_mem.2 fun m hm => hkey ?_
  exact hinv.listed _ (IvHistory.mem_fromNeigh.1 hm)

/-- **A number in the range** is marked for its sender, and moves all windows on if it is ahead. -/
lemma IvInv.accept {h : IvHistory} (hinv : IvInv ifOutgoing orig h) {orig' : IvOrigNode}
    (hlisted : IvListed orig (.ogm ev)) (hrange : ivRestarts orig ifOutgoing ev = false)
    (hlist : orig'.neighList = orig.neighList.map fun e =>
      (e.1, ivUpdateNeigh ev (ivLastRealSeqno orig ifOutgoing) ifOutgoing e.1 e.2))
    (hlast : ivLastRealSeqno orig' ifOutgoing =
      if (ev.seqno - ivLastRealSeqno orig ifOutgoing).toInt ≤ 0 ∧
          -64 < (ev.seqno - ivLastRealSeqno orig ifOutgoing).toInt then
        ivLastRealSeqno orig ifOutgoing
      else ev.seqno) :
    IvInv ifOutgoing orig' (h.accept ev.neigh ev.seqno) := by
  have hsize : TQ_LOCAL_WINDOW_SIZE = 64 := rfl
  have hmax : EXPECTED_SEQNO_RANGE = 65536 := rfl
  obtain ⟨hnodup, hlisted', hcount⟩ := hinv.list_update (h.accept ev.neigh ev.seqno) hlisted
    (fun e he => (List.mem_append.1 he).imp id List.mem_singleton.1) hlist
  rw [ivRestarts, decide_eq_false_iff_not] at hrange
  -- who is not in the list neither has bits nor has sent anything
  have hunlisted : ∀ key, ¬ (orig.neighList.get key).isSome →
      (h.accept ev.neigh ev.seqno).fromNeigh key = [] := by
    intro key hkey
    have hne : key ≠ ev.neigh := by
      rintro rfl
      exact hkey hlisted
    rw [IvHistory.fromNeigh_accept, if_neg hne, hinv.fromNeigh_eq_nil hkey, List.append_nil]
  have hbits := ivRealBits_update hlist
  generalize hlast₀ : ivLastRealSeqno orig ifOutgoing = last at *
  by_cases hle : (ev.seqno - last).toInt ≤ 0
  · rw [if_pos ⟨hle, by omega⟩] at hlast
    refine ⟨hnodup, hlisted', hcount, ?_, fun b hb => ?_⟩
    · rw [hlast, IvHistory.numbers_accept, ← hlast₀]
      exact List.mem_append_left _ hinv.last
    · rw [IvHistory.numbers_accept, List.forall_mem_append] at hb
      have hseq := hb.2 ev.seqno (List.mem_singleton_self _)
      obtain ⟨hbehind, hexact⟩ := hinv.exact_of_near b hb.1
      rw [hlast₀] at hbehind hexact
      have hdiff := SerialNumber.toInt_sub_eq_offset_sub (by decide) hseq hbehind.1
      have hnum : ev.seqno = last - BitVec.ofNat 32 (-(ev.seqno - last).toInt).toNat := by
        refine SerialNumber.offset_injective b ?_
        rw [SerialNumber.offset_sub_of_le (by omega)]
        omega
      rw [hlast, IvHistory.numbers_accept]
      refine ⟨hbehind.append hseq (by omega), fun key => ?_⟩
      rw [hbits]
      split_ifs with hsome
      · rw [bitGetPacket_of_le hle (by omega), IvHistory.fromNeigh_accept]
        by_cases hkey : key = ev.neigh
        · have hmark := (hexact key).mark (by decide)
            (d := (-(ev.seqno - last).toInt).toNat) (by omega)
          rw [← hnum] at hmark
          simpa [hkey] using hmark
        · simpa [hkey] using hexact key
      · rw [hunlisted key hsome]
        exact SlidingWindow.exact_zero _ _
  · rw [if_neg (fun hc => hle hc.1)] at hlast
    refine ⟨hnodup, hlisted', hcount, ?_, fun b hb => ?_⟩
    · rw [hlast, IvHistory.numbers_accept]
      exact List.mem_append_right _ (List.mem_singleton_self _)
    · rw [IvHistory.numbers_accept, List.forall_mem_append] at hb
      have hseq := hb.2 ev.seqno (List.mem_singleton_self _)
      obtain ⟨hbehind, hexact⟩ := hinv.exact_of_near b hb.1
      rw [hlast₀] at hbehind hexact
      have hdiff := SerialNumber.toInt_sub_eq_offset_sub (by decide) hseq hbehind.1
      have hnext : SerialNumber.offset b last + (ev.seqno - last).toInt.toNat < 2 ^ (32 - 1) := by
        unfold SerialNumber.Near at hseq
        omega
      have hnum : last + BitVec.ofNat 32 (ev.seqno - last).toInt.toNat = ev.seqno := by
        refine SerialNumber.offset_injective b ?_
        rw [SerialNumber.offset_add_of_lt (by omega)]
        omega
      rw [hlast, IvHistory.numbers_accept]
      refine ⟨(hbehind.advance hseq (by omega)).append hseq le_rfl, fun key => ?_⟩
      rw [hbits]
      split_ifs with hsome
      · have hfrom : SlidingWindow.Behind b last (h.fromNeigh key) :=
          ⟨hbehind.1, fun m hm => hbehind.2 m (IvHistory.mem_numbers_of_mem_fromNeigh hm)⟩
        have hshift := (hexact key).shift hfrom (by decide)
          (d := (ev.seqno - last).toInt.toNat) (by omega) hnext
        rw [hnum] at hshift
        rw [bitGetPacket_of_pos (by omega) (by omega), IvHistory.fromNeigh_accept]
        exact exact_markNewest hshift key ev.neigh
      · rw [hunlisted key hsome]
        exact SlidingWindow.exact_zero _ _

/-- **Every event keeps the invariant.** -/
lemma IvInv.step (msecsToJiffies : ℕ → Jiffies) {s : IvOrigNode × IvHistory} {e : IvSeqnoEvent}
    (hinv : IvInv ifOutgoing s.1 s.2) (hlisted : IvListed s.1 e)
    (halloc : IvAllocated ifOutgoing s.1 e) :
    IvInv ifOutgoing (ivRunNext msecsToJiffies ifOutgoing s e).1
      (ivRunNext msecsToJiffies ifOutgoing s e).2 := by
  obtain ⟨orig, h⟩ := s
  cases e with
  | neigh key => exact hinv.neigh msecsToJiffies key
  | ogm ev =>
    simp only [ivRunNext, ivSeqnosNext, ivHistoryNext]
    rcases ivOgmUpdateSeqnos_spec msecsToJiffies hlisted halloc with
      ⟨hst, -, hlist, hlast⟩ | ⟨hst, hlist, hlast⟩
    · rw [if_pos hst]
      have hinfo : ∀ key, ivNeighIfinfoOf
          (ivOgmUpdateSeqnos msecsToJiffies ev orig ifOutgoing).1 ifOutgoing key =
            ivNeighIfinfoOf orig ifOutgoing key := by
        intro key
        rw [ivNeighIfinfoOf, ivNeighIfinfoOf, hlist]
      refine ⟨by rw [hlist]; exact hinv.nodup, by rw [hlist]; exact hinv.listed,
        fun key ifinfo => ?_, by rw [hlast]; exact hinv.last, fun b hb => ?_⟩
      · rw [hinfo]
        exact hinv.count key ifinfo
      · rw [hlast]
        simp only [ivRealBits, hinfo]
        exact hinv.exact_of_near b hb
    · have hne := ivDupStatus_ne_isProtected ev (ivLastRealSeqno orig ifOutgoing) ifOutgoing
        orig.neighList
      rw [← hst] at hne
      rw [if_neg hne]
      cases hrestart : ivRestarts orig ifOutgoing ev
      · exact hinv.accept hlisted hrestart hlist hlast
      · refine hinv.restart hlisted hrestart hlist ?_
        have hsize : TQ_LOCAL_WINDOW_SIZE = 64 := rfl
        have hmax : EXPECTED_SEQNO_RANGE = 65536 := rfl
        rw [ivRestarts, decide_eq_true_iff] at hrestart
        have hout : ¬ ((ev.seqno - ivLastRealSeqno orig ifOutgoing).toInt ≤ 0 ∧
            -64 < (ev.seqno - ivLastRealSeqno orig ifOutgoing).toInt) := by omega
        exact hlast.trans (if_neg hout)

/-- **The duplicate windows are exact.**  In every run in which OGMs come from neighbours in the
originator's list and the records they need are there or can be allocated, as long as the numbers
since the last time the window started anew lie on a half circle: a bit is set exactly if its number
was accepted from the neighbour since then, the counters are those of the bits, the newest number
accepted is the one kept, and an OGM's status is the one that the bits call for.  While the window
has not started anew yet, the number 0 of a new record is among the numbers.

**Proof sketch.** Induction on the events.  Each one keeps the invariant that the windows are exact
for every half circle the numbers lie on; the cases are those of `batadv_bit_get_packet`. -/
theorem iv_windows_exact (msecsToJiffies : ℕ → Jiffies) (ifOutgoing : IfKey) (orig : IvOrigNode)
    (hfresh : IvFresh orig ifOutgoing) (es : List IvSeqnoEvent)
    (hlisted : Run.AllSteps (ivRunNext msecsToJiffies ifOutgoing) (fun s e => IvListed s.1 e)
      (orig, .init) es)
    (halloc : Run.AllSteps (ivRunNext msecsToJiffies ifOutgoing)
      (fun s e => IvAllocated ifOutgoing s.1 e) (orig, .init) es) :
    ∀ s ∈ Run.states (ivRunNext msecsToJiffies ifOutgoing) (orig, .init) es,
      (∃ b, ∀ m ∈ s.2.numbers, SerialNumber.Near b m) →
        IvWindowsExact ifOutgoing s.1 s.2 ∧
          ∀ ev, IvListed s.1 (.ogm ev) → IvAllocated ifOutgoing s.1 (.ogm ev) →
            IvStatusExact msecsToJiffies ifOutgoing s.1 ev := by
  have hinv := Run.AllSteps.forall_mem_states
    (fun s : IvOrigNode × IvHistory => IvInv ifOutgoing s.1 s.2)
    (fun s e hinv hg => hinv.step msecsToJiffies hg.1 hg.2)
    (ivInv_init hfresh) (hlisted.and halloc)
  rintro s hs ⟨b, hb⟩
  have h := hinv s hs
  obtain ⟨hbehind, hexact⟩ := h.exact_of_near b hb
  refine ⟨⟨fun key _ i hi => ?_, h.count, h.last, fun m hm => ?_⟩, fun ev hl ha => ?_⟩
  · rw [hexact key i hi, IvHistory.mem_fromNeigh]
  · obtain ⟨hnear, hle⟩ := hbehind.2 m hm
    rw [SerialNumber.toInt_sub_eq_offset_sub (by decide) hbehind.1 hnear]
    omega
  · exact ivStatusExact msecsToJiffies h.nodup hl ha

/-- A new originator's record with two neighbours. -/
def ivTwoNeighbors : IvOrigNode := ⟨[(⟨10, 1⟩, ⟨[]⟩), (⟨11, 1⟩, ⟨[]⟩)], []⟩

/-- An OGM from one of them; the second one's record can be allocated or not. -/
def ivRecvFrom (neigh : EthAddr) (seqno : U32) (allocated : Bool) : IvOgmRecv :=
  ⟨seqno, ⟨neigh, 1⟩, 0, true, fun key => key.addr = 10 || allocated⟩

/-- OGMs from both neighbours, out of order, one of them for the second time. -/
def ivBothEvents : List IvSeqnoEvent :=
  [.ogm (ivRecvFrom 10 5 true), .ogm (ivRecvFrom 11 5 true), .ogm (ivRecvFrom 11 7 true),
    .ogm (ivRecvFrom 10 6 true), .ogm (ivRecvFrom 10 5 true)]

/-- With memory available the windows after these OGMs are exact, and so is the status of the next
one. -/
theorem iv_windows_exact_both :
    let s := Run.final (ivRunNext (BitVec.ofNat 64) none) (ivTwoNeighbors, .init) ivBothEvents
    s.1.neighList = [(⟨10, 1⟩, ⟨[(none, ⟨6, 2⟩)]⟩), (⟨11, 1⟩, ⟨[(none, ⟨5, 2⟩)]⟩)] ∧
      IvWindowsExact none s.1 s.2 ∧
      IvStatusExact (BitVec.ofNat 64) none s.1 (ivRecvFrom 11 6 true) := by
  have hexact := iv_windows_exact (BitVec.ofNat 64) none ivTwoNeighbors
    ⟨by decide, rfl, fun key => ?_⟩ ivBothEvents (by decide) (by decide) _
    (Run.final_mem_states _ _) ⟨0, ?_⟩
  · exact ⟨rfl, hexact.1, hexact.2 (ivRecvFrom 11 6 true) (by decide) (by decide)⟩
  · rw [ivNeighIfinfoOf, ivTwoNeighbors, Table.get_cons, Table.get_cons]
    split_ifs <;> rfl
  · have hnumbers : (Run.final (ivRunNext (BitVec.ofNat 64) none) (ivTwoNeighbors, .init)
        ivBothEvents).2.numbers = [0, 5, 5, 7, 6, 5] := by rfl
    rw [hnumbers]
    simp [SerialNumber.Near, SerialNumber.offset]

/-- The second neighbour's record is missing while its OGM is received. -/
def ivMissedEvents : List IvSeqnoEvent :=
  [.ogm (ivRecvFrom 10 100000 false), .ogm (ivRecvFrom 11 100001 false),
    .ogm (ivRecvFrom 10 100002 true)]

/-- What comes of it. -/
def ivMissedState : IvOrigNode × IvHistory :=
  (⟨[(⟨10, 1⟩, ⟨[(none, ⟨5, 2⟩)]⟩), (⟨11, 1⟩, ⟨[(none, ⟨0, 0⟩)]⟩)],
      [(none, ⟨none, 100002, 0, 0, 0⟩)]⟩,
    ⟨[(⟨10, 1⟩, 100000), (⟨11, 1⟩, 100001), (⟨10, 1⟩, 100002)], false⟩)

/-- **Without memory a window is not exact.**  The record of the second neighbour cannot be
allocated while its OGM is received: its number is accepted, and its bit never set. -/
theorem iv_windows_not_exact :
    Run.AllSteps (ivRunNext (BitVec.ofNat 64) none) (fun s e => IvListed s.1 e)
        (ivTwoNeighbors, .init) ivMissedEvents ∧
      Run.final (ivRunNext (BitVec.ofNat 64) none) (ivTwoNeighbors, .init) ivMissedEvents =
        ivMissedState ∧
      ivMissedState.2.fresh = false ∧
      (∀ m ∈ ivMissedState.2.numbers, SerialNumber.Near 100000 m) ∧
      ¬ IvWindowsExact none ivMissedState.1 ivMissedState.2 := by
  refine ⟨⟨rfl, rfl, rfl, trivial⟩, rfl, rfl, ?_, fun h => ?_⟩
  · have hnumbers : ivMissedState.2.numbers = [100000, 100001, 100002] := by rfl
    rw [hnumbers]
    simp [SerialNumber.Near, SerialNumber.offset]
  · have hbit := (h.bits ⟨11, 1⟩ (by decide) 1 (by decide)).2 (by decide)
    exact absurd hbit (by decide)

end Batadv
