import BatmanAdv.BatIv.Aggregation
import BatmanAdv.BatIv.Seqnos
import BatmanAdv.Lib.ShiftRegister

set_option relaxedAutoImplicit false
set_option autoImplicit false

/-!
# Echoes of a node's own OGMs (`bat_iv_ogm.c`)

A neighbour that hears an OGM of the node on the same interface sends it on with the flag
`BATADV_DIRECTLINK`.  Which of the last 64 OGMs came back from a neighbour is kept in a bitmap with
the originator of the neighbour and the interface.  The bitmap is shifted when an OGM is scheduled,
and an echo is marked at its distance from the last OGM that was sent; the counter of the interface
is two ahead of that.

The counter has 32 bits.  An echo that came in with the distance 63 has the number of the newest
OGM again after `2 ^ 32 - 63` more of them.

## Main definitions

* `Batadv.EchoPriv` — the interfaces and the originators, as far as they are used here.
* `Batadv.ivOgmScheduleBuff`, `Batadv.ivOgmSlideOwnBcastWindow`, `Batadv.ivOgmProcessReply` — the
  functions of these names.
* `Batadv.EchoEvent`, `Batadv.echoNext` — OGMs that are scheduled and echoes that come in.
* `Batadv.Echoed` — there was an echo in time, with the number a bit stands for.
* `Batadv.EchoWindowExact` — the bitmap says which OGMs were echoed.

## Main results

* `Batadv.echoAges_concat_schedule`, `Batadv.echoAges_concat_reply` — how old the echoes are.
* `Batadv.marks_echoAges` — over any run the bits are the ages of the echoes.
* `Batadv.echo_window_exact` — the bitmap is exact for fewer than `2 ^ 32 - 63` OGMs.
* `Batadv.echo_window_aliased` — and not for as many.
-/

namespace Batadv

/-! ### The data -/

/-- `struct batadv_hard_iface`, as far as it is used here. -/
structure EchoIface where
  devAddr : EthAddr
  ogmSeqno : U32
  /-- There is an `ogm_buff`: the interface is not disabled. -/
  ogmBuff : Bool
deriving DecidableEq, Repr

/-- The part `bat_iv` of `struct batadv_orig_ifinfo`. -/
structure EchoIfinfo where
  bcastOwn : U64
  bcastOwnSum : U8
deriving DecidableEq, Repr

/-- `struct batadv_priv`, as far as it is used here: the interfaces, and for each originator the
records it has for outgoing interfaces. -/
structure EchoPriv where
  hardIface : ℕ → EchoIface
  origHash : Table EthAddr (Table IfKey EchoIfinfo)

/-- `struct batadv_ogm_packet`, as far as it is used here. -/
structure EchoOgm where
  flags : U8
  seqno : U32
  orig : EthAddr
deriving DecidableEq, Repr

/-- `batadv_orig_ifinfo_get` for an interface. -/
def EchoPriv.ifinfo (priv : EchoPriv) (orig : EthAddr) (hardIface : ℕ) : Option EchoIfinfo :=
  (priv.origHash.get orig).bind fun list => list.get (some hardIface)

/-! ### The functions -/

/-- A bitmap, with its sum computed anew. -/
def echoIfinfoOf (bcastOwn : U64) : EchoIfinfo :=
  ⟨bcastOwn, BitVec.ofNat 8 (bitmapWeight bcastOwn)⟩

/-- `batadv_iv_ogm_slide_own_bcast_window` -/
def ivOgmSlideOwnBcastWindow (priv : EchoPriv) (hardIface : ℕ) : EchoPriv :=
  { priv with
    origHash := priv.origHash.map fun origNode =>
      (origNode.1, origNode.2.map fun origIfinfo =>
        (origIfinfo.1,
          if origIfinfo.1 ≠ some hardIface then origIfinfo.2
          else echoIfinfoOf (bitGetPacket origIfinfo.2.bcastOwn 1 false).1)) }

/-- The part of `batadv_iv_ogm_schedule_buff` that moves the counter and the windows on. -/
def ivOgmScheduleBuff (priv : EchoPriv) (hardIface : ℕ) : EchoPriv :=
  let iface := priv.hardIface hardIface
  if !iface.ogmBuff then priv
  else
    ivOgmSlideOwnBcastWindow
      { priv with
        hardIface := Function.update priv.hardIface hardIface
          { iface with ogmSeqno := iface.ogmSeqno + 1 } }
      hardIface

/-- `batadv_iv_ogm_process_reply` -/
def ivOgmProcessReply (priv : EchoPriv) (ogmPacket : EchoOgm) (ifIncoming : ℕ) (origNode : EthAddr)
    (ifIncomingSeqno : U32) : EchoPriv :=
  if ogmPacket.flags &&& DIRECTLINK = 0 then priv
  else if (priv.hardIface ifIncoming).devAddr ≠ ogmPacket.orig then priv
  else
    match priv.origHash.get origNode with
    | none => priv
    | some list =>
      match list.get (some ifIncoming) with
      | none => priv
      | some origIfinfo =>
        let bitPos := (ifIncomingSeqno - 2 - ogmPacket.seqno).toInt
        { priv with
          origHash := priv.origHash.set origNode (list.set (some ifIncoming)
            (echoIfinfoOf (setBit origIfinfo.bcastOwn bitPos))) }

/-- `batadv_orig_ifinfo_new` for an originator that is in the hash. -/
def EchoPriv.origIfinfoNew (priv : EchoPriv) (origNode : EthAddr) (ifOutgoing : IfKey) :
    EchoPriv :=
  match priv.origHash.get origNode with
  | none => priv
  | some list =>
    match list.get ifOutgoing with
    | some _ => priv
    | none => { priv with origHash := priv.origHash.set origNode (list.set ifOutgoing ⟨0, 0⟩) }

/-- What happens: an OGM is scheduled on an interface, or an OGM with an address of the node is
received from a neighbour. -/
inductive EchoEvent
  | schedule (hardIface : ℕ)
  | reply (ogmPacket : EchoOgm) (ifIncoming : ℕ) (origNode : EthAddr)
deriving DecidableEq

/-- The next state.  `batadv_iv_ogm_process` reads the counter of the interface. -/
def echoNext (priv : EchoPriv) : EchoEvent → EchoPriv
  | .schedule hardIface => ivOgmScheduleBuff priv hardIface
  | .reply ogmPacket ifIncoming origNode =>
    ivOgmProcessReply priv ogmPacket ifIncoming origNode (priv.hardIface ifIncoming).ogmSeqno

/-! ### What the window should say -/

/-- An OGM is an echo of the interface's own: it has the flag and the address. -/
def EchoOgm.IsEcho (ogm : EchoOgm) (iface : EchoIface) : Prop :=
  ogm.flags &&& DIRECTLINK ≠ 0 ∧ iface.devAddr = ogm.orig

/-- The distance of a number from the last OGM that was sent is between 0 and 63. -/
def EchoInTime (ogmSeqno seqno : U32) : Prop :=
  0 ≤ (ogmSeqno - 2 - seqno).toInt ∧ (ogmSeqno - 2 - seqno).toInt ≤ 63

/-- During the run `es` from `priv` an echo of the OGM `seqno` of the interface came in from the
originator, when this was in time. -/
def Echoed (priv : EchoPriv) (es : List EchoEvent) (orig : EthAddr) (hardIface : ℕ)
    (seqno : U32) : Prop :=
  ∃ pre ogm post, es = pre ++ EchoEvent.reply ogm hardIface orig :: post ∧
    ogm.IsEcho ((Run.final echoNext priv pre).hardIface hardIface) ∧ ogm.seqno = seqno ∧
      EchoInTime ((Run.final echoNext priv pre).hardIface hardIface).ogmSeqno ogm.seqno

/-- **The echo window is exact** after the run `es` from `priv`: bit `i` is set if and only if the
OGM `i` before the last one was echoed in time; the sum is the number of bits; and OGMs that are
not in time change nothing. -/
def EchoWindowExact (priv : EchoPriv) (es : List EchoEvent) (orig : EthAddr) (hardIface : ℕ) :
    Prop :=
  let s := Run.final echoNext priv es
  let ogmSeqno := (s.hardIface hardIface).ogmSeqno
  (∃ ifinfo, s.ifinfo orig hardIface = some ifinfo ∧
    (∀ i < 64, ifinfo.bcastOwn.getLsbD i = true ↔
      Echoed priv es orig hardIface (ogmSeqno - 2 - BitVec.ofNat 32 i)) ∧
    ifinfo.bcastOwnSum.toNat = bitmapWeight ifinfo.bcastOwn ∧
    bitmapWeight ifinfo.bcastOwn ≤ 64) ∧
  ∀ ogm, ¬ EchoInTime ogmSeqno ogm.seqno → echoNext s (.reply ogm hardIface orig) = s

/-- How many OGMs are scheduled on an interface. -/
def scheduled (priv : EchoPriv) (hardIface : ℕ) (es : List EchoEvent) : ℕ :=
  if (priv.hardIface hardIface).ogmBuff then es.count (.schedule hardIface) else 0

/-! ### What a step does -/

/-- The address of an interface stays, and whether it is disabled. -/
lemma echoNext_const (priv : EchoPriv) (e : EchoEvent) (i : ℕ) :
    ((echoNext priv e).hardIface i).devAddr = (priv.hardIface i).devAddr ∧
      ((echoNext priv e).hardIface i).ogmBuff = (priv.hardIface i).ogmBuff := by
  cases e with
  | schedule j =>
    simp only [echoNext, ivOgmScheduleBuff, ivOgmSlideOwnBcastWindow]
    split_ifs
    · exact ⟨rfl, rfl⟩
    · by_cases hij : i = j
      · subst hij
        simp
      · simp [Function.update_of_ne hij]
  | reply ogm j orig =>
    simp only [echoNext, ivOgmProcessReply]
    split_ifs
    · exact ⟨rfl, rfl⟩
    · exact ⟨rfl, rfl⟩
    · split
      · exact ⟨rfl, rfl⟩
      · split <;> exact ⟨rfl, rfl⟩

/-- The counter is moved on by one with every OGM that is scheduled. -/
lemma echoNext_ogmSeqno (priv : EchoPriv) (e : EchoEvent) (i : ℕ) :
    ((echoNext priv e).hardIface i).ogmSeqno =
      (priv.hardIface i).ogmSeqno + BitVec.ofNat 32 (scheduled priv i [e]) := by
  cases e with
  | schedule j =>
    by_cases hij : i = j
    · subst hij
      simp only [echoNext, ivOgmScheduleBuff, ivOgmSlideOwnBcastWindow, scheduled]
      cases (priv.hardIface i).ogmBuff <;> simp
    · have hne : EchoEvent.schedule j ≠ .schedule i := fun h => hij (EchoEvent.schedule.inj h).symm
      simp only [echoNext, ivOgmScheduleBuff, ivOgmSlideOwnBcastWindow, scheduled]
      split_ifs <;> simp [Function.update_of_ne hij, hne]
  | reply ogm j orig =>
    have hsched : scheduled priv i [.reply ogm j orig] = 0 := by simp [scheduled]
    rw [hsched, show BitVec.ofNat 32 0 = 0#32 from rfl, BitVec.add_zero]
    simp only [echoNext, ivOgmProcessReply]
    split_ifs
    · rfl
    · rfl
    · split
      · rfl
      · split <;> rfl

/-- Scheduling an OGM shifts the windows of the interface. -/
lemma ifinfo_schedule (priv : EchoPriv) (j i : ℕ) (orig : EthAddr) :
    (echoNext priv (.schedule j)).ifinfo orig i =
      if j = i ∧ (priv.hardIface j).ogmBuff = true then
        (priv.ifinfo orig i).map fun (ifinfo : EchoIfinfo) => echoIfinfoOf (ifinfo.bcastOwn <<< 1)
      else priv.ifinfo orig i := by
  have hslide (bits : U64) : (bitGetPacket bits 1 false).1 = bits <<< 1 := by
    rw [bitGetPacket_of_pos (by decide) (by decide)]
    rfl
  simp only [echoNext, ivOgmScheduleBuff]
  cases hbuff : (priv.hardIface j).ogmBuff with
  | false => simp
  | true =>
    simp only [Bool.not_true, Bool.false_eq_true, if_false, and_true, EchoPriv.ifinfo,
      ivOgmSlideOwnBcastWindow, hslide]
    rw [Table.get_map priv.origHash]
    cases priv.origHash.get orig with
    | none => simp
    | some list =>
      rw [Option.map_some, Option.bind_some, Option.bind_some,
        Table.get_map_key list fun key (origIfinfo : EchoIfinfo) =>
          if key ≠ some j then origIfinfo else echoIfinfoOf (origIfinfo.bcastOwn <<< 1)]
      by_cases hij : j = i
      · subst hij
        simp
      · have hne : (some i : IfKey) ≠ some j := fun h => hij (Option.some.inj h).symm
        simp [hne, hij]

/-- An echo of an OGM of the interface is marked in the window of its sender. -/
lemma ifinfo_reply (priv : EchoPriv) (ogm : EchoOgm) (j i : ℕ) (orig' orig : EthAddr)
    [Decidable (ogm.IsEcho (priv.hardIface j))] :
    (echoNext priv (.reply ogm j orig')).ifinfo orig i =
      if ogm.IsEcho (priv.hardIface j) ∧ orig' = orig ∧ j = i then
        (priv.ifinfo orig i).map fun ifinfo => echoIfinfoOf
          (setBit ifinfo.bcastOwn ((priv.hardIface j).ogmSeqno - 2 - ogm.seqno).toInt)
      else priv.ifinfo orig i := by
  by_cases hecho : ogm.IsEcho (priv.hardIface j)
  · obtain ⟨hflag, haddr⟩ := hecho
    have hecho : ogm.IsEcho (priv.hardIface j) := ⟨hflag, haddr⟩
    simp only [echoNext, ivOgmProcessReply, hflag, haddr, if_false, ne_eq, not_true_eq_false,
      hecho, true_and]
    cases hlist : priv.origHash.get orig' with
    | none =>
      by_cases horig : orig' = orig
      · subst horig
        simp [EchoPriv.ifinfo, hlist]
      · simp [horig]
    | some list =>
      dsimp only
      cases hinfo : list.get (some j) with
      | none =>
        by_cases hsame : orig' = orig ∧ j = i
        · obtain ⟨rfl, rfl⟩ := hsame
          simp [EchoPriv.ifinfo, hlist, hinfo]
        · simp [hsame]
      | some ifinfo =>
        dsimp only
        by_cases horig : orig' = orig
        · subst horig
          by_cases hij : j = i
          · subst hij
            simp [EchoPriv.ifinfo, hlist, hinfo]
          · have hne : (some i : IfKey) ≠ some j := fun h => hij (Option.some.inj h).symm
            simp [EchoPriv.ifinfo, hlist, hij, Table.get_set_of_ne list _ hne]
        · have hne : orig ≠ orig' := fun h => horig h.symm
          simp [EchoPriv.ifinfo, horig, Table.get_set_of_ne priv.origHash _ hne]
  · rw [if_neg fun h => hecho h.1]
    simp only [echoNext, ivOgmProcessReply]
    split_ifs with hflag haddr
    · rfl
    · rfl
    · exact absurd ⟨hflag, not_not.1 haddr⟩ hecho

/-- An echo in time is marked at its distance. -/
lemma setBit_of_inTime {ogmSeqno seqno : U32} (h : EchoInTime ogmSeqno seqno) (bits : U64) :
    setBit bits (ogmSeqno - 2 - seqno).toInt =
        bits ||| BitVec.twoPow 64 (ogmSeqno - 2 - seqno).toNat ∧
      (ogmSeqno - 2 - seqno).toNat < 64 := by
  obtain ⟨hlo, hhi⟩ := h
  have hsize : TQ_LOCAL_WINDOW_SIZE = 64 := rfl
  have hint : (ogmSeqno - 2 - seqno).toInt = (ogmSeqno - 2 - seqno).toNat := by
    rw [BitVec.toInt_eq_toNat_cond] at hlo ⊢
    split_ifs at hlo ⊢ <;> omega
  rw [setBit, if_neg (by omega), hint, Int.toNat_natCast]
  exact ⟨rfl, by omega⟩

/-- Any other OGM is not marked. -/
lemma setBit_of_not_inTime {ogmSeqno seqno : U32} (h : ¬ EchoInTime ogmSeqno seqno)
    (bits : U64) : setBit bits (ogmSeqno - 2 - seqno).toInt = bits := by
  have hsize : TQ_LOCAL_WINDOW_SIZE = 64 := rfl
  unfold EchoInTime at h
  rw [setBit, if_pos (by omega)]

/-! ### Runs -/

lemma final_const (priv : EchoPriv) (es : List EchoEvent) (i : ℕ) :
    ((Run.final echoNext priv es).hardIface i).devAddr = (priv.hardIface i).devAddr ∧
      ((Run.final echoNext priv es).hardIface i).ogmBuff = (priv.hardIface i).ogmBuff := by
  induction es generalizing priv with
  | nil => exact ⟨rfl, rfl⟩
  | cons e es ih =>
    obtain ⟨haddr, hbuff⟩ := ih (echoNext priv e)
    obtain ⟨haddr', hbuff'⟩ := echoNext_const priv e i
    exact ⟨haddr.trans haddr', hbuff.trans hbuff'⟩

lemma scheduled_append (priv : EchoPriv) (i : ℕ) (es fs : List EchoEvent) :
    scheduled priv i (es ++ fs) = scheduled priv i es + scheduled priv i fs := by
  unfold scheduled
  split_ifs
  · exact List.count_append
  · rfl

lemma scheduled_final (priv : EchoPriv) (i : ℕ) (es fs : List EchoEvent) :
    scheduled (Run.final echoNext priv es) i fs = scheduled priv i fs := by
  unfold scheduled
  rw [(final_const priv es i).2]

/-- The counter after a run. -/
lemma final_ogmSeqno (priv : EchoPriv) (es : List EchoEvent) (i : ℕ) :
    ((Run.final echoNext priv es).hardIface i).ogmSeqno =
      (priv.hardIface i).ogmSeqno + BitVec.ofNat 32 (scheduled priv i es) := by
  induction es using List.reverseRecOn with
  | nil => simp [scheduled]
  | append_singleton es e ih =>
    have hlast : Run.final echoNext priv (es ++ [e]) =
        echoNext (Run.final echoNext priv es) e := Run.final_append es [e]
    rw [hlast, echoNext_ogmSeqno, ih, scheduled_final, scheduled_append, BitVec.ofNat_add,
      BitVec.add_assoc]

/-- The ages of the echoes that came in from an originator in time: the distance of each from the
last OGM then, and the number of OGMs that were scheduled since. -/
def echoAges (priv : EchoPriv) (es : List EchoEvent) (orig : EthAddr) (hardIface : ℕ) : Set ℕ :=
  {a | ∃ pre ogm post, es = pre ++ EchoEvent.reply ogm hardIface orig :: post ∧
    ogm.IsEcho ((Run.final echoNext priv pre).hardIface hardIface) ∧
    EchoInTime ((Run.final echoNext priv pre).hardIface hardIface).ogmSeqno ogm.seqno ∧
    a = (((Run.final echoNext priv pre).hardIface hardIface).ogmSeqno - 2 - ogm.seqno).toNat +
      scheduled priv hardIface post}

/-- The last event of a run is the one that is looked for, or that one comes before it. -/
lemma concat_eq_append_cons_iff {α : Type*} {es pre post : List α} {e x : α} :
    es ++ [e] = pre ++ x :: post ↔
      (post = [] ∧ es = pre ∧ e = x) ∨ ∃ post', post = post' ++ [e] ∧ es = pre ++ x :: post' := by
  induction post using List.reverseRecOn with
  | nil => simp
  | append_singleton post y _ =>
    rw [← List.cons_append, ← List.append_assoc, List.append_singleton_inj]
    constructor
    · rintro ⟨rfl, rfl⟩
      exact Or.inr ⟨post, rfl, rfl⟩
    · rintro (⟨h, -⟩ | ⟨post', h, hes⟩)
      · simp at h
      · obtain ⟨rfl, rfl⟩ := List.append_singleton_inj.1 h
        exact ⟨hes, rfl⟩

/-- **One event more**: the echoes grow older with an OGM, and an echo may be added. -/
lemma mem_echoAges_concat {priv : EchoPriv} {es : List EchoEvent} {e : EchoEvent} {orig : EthAddr}
    {i a : ℕ} :
    a ∈ echoAges priv (es ++ [e]) orig i ↔
      (∃ ogm, e = .reply ogm i orig ∧ ogm.IsEcho ((Run.final echoNext priv es).hardIface i) ∧
        EchoInTime ((Run.final echoNext priv es).hardIface i).ogmSeqno ogm.seqno ∧
        a = (((Run.final echoNext priv es).hardIface i).ogmSeqno - 2 - ogm.seqno).toNat) ∨
      ∃ a' ∈ echoAges priv es orig i, a = a' + scheduled priv i [e] := by
  constructor
  · rintro ⟨pre, ogm, post, hes, hecho, htime, ha⟩
    rcases concat_eq_append_cons_iff.1 hes with ⟨rfl, rfl, rfl⟩ | ⟨post', rfl, rfl⟩
    · exact Or.inl ⟨ogm, rfl, hecho, htime, by simpa [scheduled] using ha⟩
    · refine Or.inr ⟨_, ⟨pre, ogm, post', rfl, hecho, htime, rfl⟩, ?_⟩
      rw [ha, scheduled_append, Nat.add_assoc]
  · rintro (⟨ogm, rfl, hecho, htime, ha⟩ | ⟨a', ⟨pre, ogm, post, rfl, hecho, htime, rfl⟩, ha⟩)
    · exact ⟨es, ogm, [], rfl, hecho, htime, by simpa [scheduled] using ha⟩
    · refine ⟨pre, ogm, post ++ [e], by simp, hecho, htime, ?_⟩
      rw [ha, scheduled_append, Nat.add_assoc]

/-- An OGM of the interface makes the echoes one older. -/
lemma echoAges_concat_schedule (priv : EchoPriv) (es : List EchoEvent) (orig : EthAddr)
    (i j : ℕ) :
    echoAges priv (es ++ [.schedule j]) orig i =
      if j = i ∧ (priv.hardIface j).ogmBuff = true then (· + 1) '' echoAges priv es orig i
      else echoAges priv es orig i := by
  have hone : scheduled priv i [.schedule j] =
      if j = i ∧ (priv.hardIface j).ogmBuff = true then 1 else 0 := by
    unfold scheduled
    by_cases hij : j = i
    · subst hij
      simp
    · have hne : EchoEvent.schedule j ≠ .schedule i := fun h => hij (EchoEvent.schedule.inj h)
      simp [hij, hne]
  ext a
  rw [mem_echoAges_concat, hone]
  split_ifs <;> simp [eq_comm]

/-- An echo in time is added. -/
lemma echoAges_concat_reply (priv : EchoPriv) (es : List EchoEvent) (ogm : EchoOgm)
    (orig orig' : EthAddr) (i j : ℕ)
    [Decidable (ogm.IsEcho ((Run.final echoNext priv es).hardIface j))]
    [Decidable (EchoInTime ((Run.final echoNext priv es).hardIface j).ogmSeqno ogm.seqno)] :
    echoAges priv (es ++ [.reply ogm j orig']) orig i =
      if (ogm.IsEcho ((Run.final echoNext priv es).hardIface j) ∧ orig' = orig ∧ j = i) ∧
          EchoInTime ((Run.final echoNext priv es).hardIface j).ogmSeqno ogm.seqno then
        insert (((Run.final echoNext priv es).hardIface j).ogmSeqno - 2 - ogm.seqno).toNat
          (echoAges priv es orig i)
      else echoAges priv es orig i := by
  have hzero : scheduled priv i [.reply ogm j orig'] = 0 := by simp [scheduled]
  ext a
  rw [mem_echoAges_concat, hzero]
  simp only [Nat.add_zero, exists_eq_right']
  split_ifs with h
  · obtain ⟨⟨hecho, rfl, rfl⟩, htime⟩ := h
    simp [hecho, htime]
  · constructor
    · rintro (⟨ogm', heq, hecho, htime, -⟩ | hmem)
      · obtain ⟨rfl, rfl, rfl⟩ := EchoEvent.reply.inj heq
        exact absurd ⟨⟨hecho, rfl, rfl⟩, htime⟩ h
      · exact hmem
    · exact Or.inr

/-- **Over any run the bits are the ages of the echoes**, and the sum is kept.

**Proof sketch.** Induction on the run, from its end: a shift makes all echoes older, and an echo
is marked with its distance. -/
theorem marks_echoAges {priv : EchoPriv} {orig : EthAddr} {i : ℕ}
    (hnew : priv.ifinfo orig i = some ⟨0, 0⟩) (es : List EchoEvent) :
    ∃ bits, (Run.final echoNext priv es).ifinfo orig i = some (echoIfinfoOf bits) ∧
      ShiftRegister.Marks bits (echoAges priv es orig i) := by
  classical
  induction es using List.reverseRecOn with
  | nil =>
    have hempty : echoAges priv [] orig i = ∅ := by
      ext a
      simp [echoAges]
    refine ⟨0, hnew, ?_⟩
    rw [hempty]
    exact ShiftRegister.marks_zero 64
  | append_singleton es e ih =>
    obtain ⟨bits, hbits, hmarks⟩ := ih
    have hlast : Run.final echoNext priv (es ++ [e]) =
        echoNext (Run.final echoNext priv es) e := Run.final_append es [e]
    rw [hlast]
    cases e with
    | schedule j =>
      rw [ifinfo_schedule, echoAges_concat_schedule, (final_const priv es j).2, hbits]
      split_ifs
      · exact ⟨_, rfl, hmarks.shift⟩
      · exact ⟨bits, rfl, hmarks⟩
    | reply ogm j orig' =>
      rw [ifinfo_reply, echoAges_concat_reply, hbits]
      by_cases hecho : ogm.IsEcho ((Run.final echoNext priv es).hardIface j) ∧
          orig' = orig ∧ j = i
      · by_cases htime : EchoInTime ((Run.final echoNext priv es).hardIface j).ogmSeqno ogm.seqno
        · rw [if_pos hecho, if_pos ⟨hecho, htime⟩]
          obtain ⟨hbit, hlt⟩ := setBit_of_inTime htime bits
          refine ⟨_, rfl, ?_⟩
          change ShiftRegister.Marks (setBit bits _) _
          rw [hbit]
          exact hmarks.mark hlt
        · rw [if_pos hecho, if_neg fun h => htime h.2]
          refine ⟨_, rfl, ?_⟩
          change ShiftRegister.Marks (setBit bits _) _
          rwa [setBit_of_not_inTime htime]
      · rw [if_neg hecho, if_neg fun h => hecho h.1]
        exact ⟨bits, rfl, hmarks⟩

/-- An OGM that is not in time changes nothing, as long as the sum is that of the bitmap. -/
lemma echoNext_reply_of_not_inTime {priv : EchoPriv} {orig : EthAddr} {i : ℕ} {bits : U64}
    (h : priv.ifinfo orig i = some (echoIfinfoOf bits)) {ogm : EchoOgm}
    (htime : ¬ EchoInTime (priv.hardIface i).ogmSeqno ogm.seqno) :
    echoNext priv (.reply ogm i orig) = priv := by
  obtain ⟨list, hlist, hinfo⟩ := Option.bind_eq_some_iff.1 h
  have hsame : list.set (some i) (echoIfinfoOf bits) = list := Table.set_eq_self hinfo
  have hsame' : priv.origHash.set orig list = priv.origHash := Table.set_eq_self hlist
  simp only [echoNext, ivOgmProcessReply, hlist, hinfo]
  rw [setBit_of_not_inTime htime]
  change (if _ then priv else if _ then priv else
    { priv with origHash := priv.origHash.set orig (list.set (some i) (echoIfinfoOf bits)) }) = _
  rw [hsame, hsame']
  simp

/-- The number that a bit stands for is that of an echo of this age. -/
lemma echoed_iff {priv : EchoPriv} {es : List EchoEvent} {orig : EthAddr} {i : ℕ}
    (hcount : scheduled priv i es < 2 ^ 32 - 63) {k : ℕ} (hk : k < 64) :
    Echoed priv es orig i
        (((Run.final echoNext priv es).hardIface i).ogmSeqno - 2 - BitVec.ofNat 32 k) ↔
      k ∈ echoAges priv es orig i := by
  unfold Echoed echoAges
  refine exists_congr fun pre => exists_congr fun ogm => exists_congr fun post => ?_
  refine and_congr_right fun hes => and_congr_right fun _ => ?_
  rw [and_comm]
  refine and_congr_right fun htime => ?_
  -- the counter has moved on by the OGMs that were scheduled since
  have hreply : scheduled priv i [.reply ogm i orig] = 0 := by simp [scheduled]
  have hsum : scheduled priv i es = scheduled priv i pre + scheduled priv i post := by
    rw [hes, scheduled_append, ← List.singleton_append, scheduled_append, hreply, Nat.zero_add]
  have hseqno : ((Run.final echoNext priv es).hardIface i).ogmSeqno =
      ((Run.final echoNext priv pre).hardIface i).ogmSeqno +
        BitVec.ofNat 32 (scheduled priv i post) := by
    rw [final_ogmSeqno, final_ogmSeqno, hsum, BitVec.ofNat_add, BitVec.add_assoc]
  have hlt := (setBit_of_inTime htime 0).2
  rw [hseqno]
  generalize ((Run.final echoNext priv pre).hardIface i).ogmSeqno = s at hlt
  generalize scheduled priv i post = n at hsum
  bv_omega

/-- **The echo window is exact** for fewer than `2 ^ 32 - 63` OGMs of the interface since the record
was created.

**Proof sketch.** The bits are the ages of the echoes.  As long as no age reaches `2 ^ 32`, the
numbers of the last 64 OGMs are those of echoes of the same age. -/
theorem echo_window_exact (priv : EchoPriv) (orig : EthAddr) (i : ℕ)
    (list : Table IfKey EchoIfinfo) (horig : priv.origHash.get orig = some list)
    (hnone : list.get (some i) = none) (es : List EchoEvent)
    (hcount : scheduled priv i es < 2 ^ 32 - 63) :
    EchoWindowExact (priv.origIfinfoNew orig (some i)) es orig i := by
  have hnew : priv.origIfinfoNew orig (some i) =
      { priv with origHash := priv.origHash.set orig (list.set (some i) ⟨0, 0⟩) } := by
    simp [EchoPriv.origIfinfoNew, horig, hnone]
  have hrecord : (priv.origIfinfoNew orig (some i)).ifinfo orig i = some ⟨0, 0⟩ := by
    rw [hnew]
    simp [EchoPriv.ifinfo]
  have hcount' : scheduled (priv.origIfinfoNew orig (some i)) i es < 2 ^ 32 - 63 := by
    rw [hnew]
    exact hcount
  obtain ⟨bits, hbits, hmarks⟩ := marks_echoAges hrecord es
  have hweight := bitmapWeight_le bits
  refine ⟨⟨echoIfinfoOf bits, hbits, fun k hk => ?_, ?_, hweight⟩, fun ogm htime => ?_⟩
  · rw [echoed_iff hcount' hk]
    exact hmarks k hk
  · change (BitVec.ofNat 8 (bitmapWeight bits)).toNat = bitmapWeight bits
    rw [BitVec.toNat_ofNat]
    omega
  · exact echoNext_reply_of_not_inTime hbits htime

/-- An interface whose next OGM has the number 65, and an originator without records. -/
def echoPriv : EchoPriv where
  hardIface _ := ⟨1, 65, true⟩
  origHash := [(2, [])]

/-- A neighbour echoes two OGMs, each of them twice and the first one late, while another interface
schedules its own. -/
def echoEvents : List EchoEvent :=
  [.schedule 0, .schedule 0, .reply ⟨DIRECTLINK, 65, 1⟩ 0 2, .reply ⟨DIRECTLINK, 65, 1⟩ 0 2,
    .schedule 1, .schedule 0, .reply ⟨DIRECTLINK, 66, 1⟩ 0 2, .reply ⟨DIRECTLINK, 65, 1⟩ 0 2,
    .reply ⟨DIRECTLINK, 66, 1⟩ 0 2]

/-- Each echo is counted once. -/
theorem echo_window_exact_repeated :
    ((Run.final echoNext (echoPriv.origIfinfoNew 2 (some 0)) echoEvents).ifinfo 2 0 =
        some ⟨0b11, 2⟩) ∧
      EchoWindowExact (echoPriv.origIfinfoNew 2 (some 0)) echoEvents 2 0 :=
  ⟨rfl, echo_window_exact echoPriv 2 0 [] rfl rfl echoEvents (by decide)⟩

/-- An echo with the distance 63, and `n` OGMs after it. -/
def aliasedRun (n : ℕ) : List EchoEvent :=
  .reply ⟨DIRECTLINK, 0, 1⟩ 0 2 :: List.replicate n (.schedule 0)

lemma scheduled_aliasedRun (n : ℕ) : scheduled echoPriv 0 (aliasedRun n) = n := by
  simp [scheduled, echoPriv, aliasedRun]

/-- The echo leaves the window, but has the number of the newest OGM when the counter has come
round to it. -/
lemma not_exact_aliasedRun {n : ℕ} (hn : BitVec.ofNat 32 (63 + n) = 0) :
    ¬ EchoWindowExact (echoPriv.origIfinfoNew 2 (some 0)) (aliasedRun n) 2 0 := by
  have hrecord : (echoPriv.origIfinfoNew 2 (some 0)).ifinfo 2 0 = some ⟨0, 0⟩ := rfl
  intro h
  obtain ⟨⟨ifinfo, hinfo, hbits, -⟩, -⟩ := h
  obtain ⟨bits, hbits', hmarks⟩ := marks_echoAges hrecord (aliasedRun n)
  obtain rfl : echoIfinfoOf bits = ifinfo := Option.some.inj (hbits'.symm.trans hinfo)
  have hseqno := final_ogmSeqno (echoPriv.origIfinfoNew 2 (some 0)) (aliasedRun n) 0
  have hsched : scheduled (echoPriv.origIfinfoNew 2 (some 0)) 0 (aliasedRun n) = n :=
    scheduled_aliasedRun n
  rw [hsched] at hseqno
  have hstart : ((echoPriv.origIfinfoNew 2 (some 0)).hardIface 0).ogmSeqno = 65 := rfl
  have hechoed : Echoed (echoPriv.origIfinfoNew 2 (some 0)) (aliasedRun n) 2 0
      (((Run.final echoNext (echoPriv.origIfinfoNew 2 (some 0)) (aliasedRun n)).hardIface
        0).ogmSeqno - 2 - BitVec.ofNat 32 0) := by
    refine ⟨[], _, _, rfl, ⟨by decide, rfl⟩, ?_, by unfold EchoInTime; decide⟩
    rw [hseqno, hstart]
    bv_omega
  -- the age of the only echo is not zero
  obtain ⟨pre, ogm, post, hes, -, htime, hage⟩ :=
    (hmarks 0 (by decide)).1 ((hbits 0 (by decide)).2 hechoed)
  cases pre with
  | nil =>
    obtain ⟨hogm, hpost⟩ := List.cons.inj hes
    obtain ⟨rfl, -, -⟩ := EchoEvent.reply.inj hogm
    have hdist : (((Run.final echoNext (echoPriv.origIfinfoNew 2 (some 0)) []).hardIface
        0).ogmSeqno - 2 - (⟨DIRECTLINK, 0, 1⟩ : EchoOgm).seqno).toNat = 63 := rfl
    rw [hdist] at hage
    omega
  | cons e pre =>
    have hmem : EchoEvent.reply ogm 0 2 ∈ List.replicate n (EchoEvent.schedule 0) := by
      rw [(List.cons.inj hes).2]
      simp
    cases (List.mem_replicate.1 hmem).2

/-- **With `2 ^ 32 - 63` OGMs** the window is not exact. -/
theorem echo_window_aliased :
    ¬ ∀ (priv : EchoPriv) (orig : EthAddr) (i : ℕ) (list : Table IfKey EchoIfinfo),
      priv.origHash.get orig = some list → list.get (some i) = none →
        ∀ es : List EchoEvent, scheduled priv i es < 2 ^ 32 →
          EchoWindowExact (priv.origIfinfoNew orig (some i)) es orig i := by
  intro h
  have hcount : scheduled echoPriv 0 (aliasedRun (2 ^ 32 - 63)) < 2 ^ 32 := by
    rw [scheduled_aliasedRun]
    omega
  exact not_exact_aliasedRun (n := 2 ^ 32 - 63) (by decide)
    (h echoPriv 2 0 [] rfl rfl (aliasedRun (2 ^ 32 - 63)) hcount)

end Batadv
