import BatmanAdv.Lib.Run
import BatmanAdv.BatV.PathCost

set_option relaxedAutoImplicit false
set_option autoImplicit false

/-!
# Freshness of OGM2 packets

In a mesh an OGM arrives over several paths, late and repeated.  Whether it is new is decided by
the metric update for the default interface; what TVLV handlers keep about an originator should
change for new OGMs only.  `batadv_v_ogm_process` runs the handlers before that decision and
without regard to it, so they are run for every OGM that is not dropped by the earlier checks.

## Main definitions

* `Batadv.OgmFresh` — the metric update for the default interface will find the OGM new.
* `Batadv.OgmDropped` — an OGM that is dropped before its TVLV buffer is looked at.
* `Batadv.MeshEvent`, `Batadv.meshNext` — the events in a node's life, and their effect.
* `Batadv.HandlersOnlyIfNew`, `Batadv.FreshOrSilent` — what a step should do, and when it does.

## Main results

* `Batadv.vOgmMetricUpdate_eq_one_iff` — the classification as new, in terms of the state before.
* `Batadv.handlers_only_if_new_iff` — a run changes TVLV data for new OGMs only exactly when each
  of its OGMs is dropped, is new, or calls no handler.
* `Batadv.stale_ogm_changes_weight` — an OGM that is rejected as outdated changes the weight.
-/

namespace Batadv

variable {δ : Type*} {msecsToJiffies : ℕ → Jiffies} {ev : OgmRecv}

/-! ### The classification -/

/-- The record the metric update for an outgoing interface works on: the one that is there, or a
new one. -/
def ogmLastIfinfo (msecsToJiffies : ℕ → Jiffies) (ev : OgmRecv) (orig : OrigNode δ)
    (ifOutgoing : IfKey) : OrigIfinfo :=
  (orig.ifinfoList.get ifOutgoing).getD (origIfinfoInit msecsToJiffies ev.jiffies)

/-- The sequence number is ahead of the last one by less than the expected range, or it is out of
range and the originator has not restarted lately. -/
def SeqnoNew (msecsToJiffies : ℕ → Jiffies) (ev : OgmRecv) (last : OrigIfinfo) : Prop :=
  (0 < ogmSeqDiff ev last ∧ ogmSeqDiff ev last < EXPECTED_SEQNO_RANGE) ∨
    ((ogmSeqDiff ev last ≤ -OGM_MAX_AGE ∨ EXPECTED_SEQNO_RANGE ≤ ogmSeqDiff ev last) ∧
      hasTimedOut msecsToJiffies ev.jiffies last.batmanSeqnoReset RESET_PROTECTION_MS = true)

instance (last : OrigIfinfo) : Decidable (SeqnoNew msecsToJiffies ev last) :=
  inferInstanceAs (Decidable (_ ∨ _))

/-- The metric update for the default interface will find the OGM new: its records exist or can be
allocated, and its sequence number is new. -/
def OgmFresh (msecsToJiffies : ℕ → Jiffies) (ev : OgmRecv) (orig : OrigNode δ) : Prop :=
  ((orig.ifinfoList.get none).isSome ∨ ev.alloc.origIfinfo none = true) ∧
    ((orig.neighIfinfoGet ev.neigh none).isSome ∨ ev.alloc.neighIfinfo none = true) ∧
    SeqnoNew msecsToJiffies ev (ogmLastIfinfo msecsToJiffies ev orig none)

instance (orig : OrigNode δ) : Decidable (OgmFresh msecsToJiffies ev orig) :=
  inferInstanceAs (Decidable (_ ∧ _ ∧ _))

/-- The sequence number check lets an OGM pass as new exactly when its sequence number is. -/
lemma ogmSeqnoCheck_new_iff (msecsToJiffies : ℕ → Jiffies) (ev : OgmRecv) {orig : OrigNode δ}
    (last : OrigIfinfo) (h : orig.neighList ≠ []) :
    (∃ r, ogmSeqnoCheck msecsToJiffies ev orig last = some r ∧
        (0 < ogmSeqDiff ev last ∨ r.2 = true)) ↔ SeqnoNew msecsToJiffies ev last := by
  have hempty : orig.neighList.isEmpty = false := by simpa using h
  have hrange : (0 : ℤ) < EXPECTED_SEQNO_RANGE := by decide
  have hage : (0 : ℤ) < OGM_MAX_AGE := by decide
  unfold ogmSeqnoCheck SeqnoNew windowProtected
  simp only [hempty, Bool.false_eq_true, if_false]
  by_cases hout : ogmSeqDiff ev last ≤ -OGM_MAX_AGE ∨ EXPECTED_SEQNO_RANGE ≤ ogmSeqDiff ev last
  · -- out of range: only the age of the last restart decides
    have hin : ¬ (0 < ogmSeqDiff ev last ∧ ogmSeqDiff ev last < EXPECTED_SEQNO_RANGE) := by omega
    cases hasTimedOut msecsToJiffies ev.jiffies last.batmanSeqnoReset RESET_PROTECTION_MS <;>
      simp [hout, hin]
  · -- in range: only the sign of the difference decides
    by_cases hneg : ogmSeqDiff ev last < 0
    · simp [hout, hneg, not_lt_of_gt hneg]
    · have hlt : ogmSeqDiff ev last < EXPECTED_SEQNO_RANGE := by omega
      simp [hout, hneg, hlt]

/-- Storing the metric with a neighbour fails only for want of memory. -/
lemma ogmStoreMetric_snd_iff {config : MeshConfig} {orig orig' : OrigNode δ} {n : NeighNode}
    {ifOutgoing : Option HardIface} {ok : Bool} (hn : orig.neighList.get ev.neigh = some n)
    (h : ogmStoreMetric config ev orig ifOutgoing = (orig', ok)) :
    ok = true ↔ ((n.ifinfoList.get (ifKey ifOutgoing)).isSome ∨
      ev.alloc.neighIfinfo (ifKey ifOutgoing) = true) := by
  have hiff := neighIfinfoNew_eq_none_iff ev.alloc { n with lastSeen := ev.jiffies }
    (ifKey ifOutgoing)
  simp only [ogmStoreMetric, hn] at h
  split at h
  · next hnone =>
    obtain rfl := (Prod.mk.inj h).2
    simpa using hiff.1 hnone
  · next hsome =>
    obtain rfl := (Prod.mk.inj h).2
    have hne : neighIfinfoNew ev.alloc { n with lastSeen := ev.jiffies } (ifKey ifOutgoing) ≠
        none := by simp [hsome]
    exact ⟨fun _ => not_not.1 fun hc => hne (hiff.2 hc), fun _ => rfl⟩

/-- **The classification as new**, in terms of what was known before: the metric update for the
default interface returns 1 exactly for a fresh OGM. -/
theorem vOgmMetricUpdate_eq_one_iff {config : MeshConfig} {orig : OrigNode δ}
    (h : ∃ n, orig.neighList.get ev.neigh = some n) :
    (vOgmMetricUpdate msecsToJiffies config ev orig none).2 = 1 ↔
      OgmFresh msecsToJiffies ev orig := by
  have hneg : ¬ -EINVAL = (1 : ℤ) := by decide
  obtain ⟨n, hn⟩ := h
  unfold vOgmMetricUpdate OgmFresh
  split
  · next hnone =>
    have hnot := origIfinfoNew_eq_none_iff.1 hnone
    rw [ifKey_none] at hnot
    exact ⟨fun h1 => absurd h1 hneg, fun h1 => absurd h1.1 hnot⟩
  · next orig' last hsome =>
    obtain ⟨-, hlast, hneigh, -⟩ := origIfinfoNew_eq_some hsome
    have hmem : (orig.ifinfoList.get none).isSome ∨ ev.alloc.origIfinfo none = true := by
      have hne : ¬ origIfinfoNew msecsToJiffies ev.jiffies ev.alloc orig none = none := by
        rw [ifKey_none] at hsome
        simp [hsome]
      exact not_not.1 (fun hc => hne (origIfinfoNew_eq_none_iff.2 hc))
    have hnil : orig'.neighList ≠ [] := by
      rw [hneigh]
      rintro h
      simp [h] at hn
    have hseq := ogmSeqnoCheck_new_iff msecsToJiffies ev last hnil
    have hget : orig.neighIfinfoGet ev.neigh none = n.ifinfoList.get none := by
      simp [OrigNode.neighIfinfoGet, hn]
    rw [ifKey_none] at hlast
    rw [ogmLastIfinfo, ← hlast]
    split
    · next hcheck =>
      have hold : ¬ SeqnoNew msecsToJiffies ev last := by simp [← hseq, hcheck]
      simp [hold, hneg]
    · next reset started hcheck =>
      have hnew : (0 < ogmSeqDiff ev last ∨ started = true) ↔
          SeqnoNew msecsToJiffies ev last := by simp [← hseq, hcheck]
      dsimp only
      split
      · next hstore =>
        have hfail := ogmStoreMetric_snd_iff (n := n) (by rw [← hn, ← hneigh]) hstore
        simp only [Bool.false_eq_true, false_iff, ifKey_none] at hfail
        simp [hneg, hget, hfail]
      · next hstore =>
        have hok := (ogmStoreMetric_snd_iff (n := n) (by rw [← hn, ← hneigh]) hstore).1 rfl
        rw [ifKey_none] at hok
        simp [hget, hmem, hok, hnew]

/-- TVLV data and a neighbour without records make no difference to the freshness of an OGM. -/
lemma ogmFresh_congr {orig orig' : OrigNode δ} (hifinfo : orig'.ifinfoList = orig.ifinfoList)
    (hneigh : orig'.neighIfinfoGet ev.neigh none = orig.neighIfinfoGet ev.neigh none) :
    OgmFresh msecsToJiffies ev orig' ↔ OgmFresh msecsToJiffies ev orig := by
  unfold OgmFresh ogmLastIfinfo
  rw [hifinfo, hneigh]

/-! ### What a step does -/

variable [Inhabited δ]

/-- The record of the OGM's originator, or the one that would be created for it. -/
def ogmOrig (bat : BatPriv δ) (ev : OgmRecv) : OrigNode δ :=
  (origHashFind bat ev.ogm.orig).getD (origNodeNew ev.jiffies ev.ogm.orig)

/-- An OGM that is dropped before its TVLV buffer is looked at: one of the node itself, one with
an unusable cost, one from an unknown neighbour, or one whose originator or neighbour cannot be
created. -/
def OgmDropped (bat : BatPriv δ) (ev : OgmRecv) : Prop :=
  isMyMac bat ev.ogm.orig = true ∨ ev.ogm.throughput = AIRTIME_MAX_VALUE ∨
    hardifNeighGet ev.ifIncoming ev.source = none ∨
    (origHashFind bat ev.ogm.orig = none ∧ ev.alloc.origNode ev.ogm.orig = false) ∨
    ((ogmOrig bat ev).neighList.get ev.neigh = none ∧ ev.alloc.neighNode = false)

/-- The originator's record that is looked up or created. -/
lemma vOgmOrigGet_orig {bat bat' : BatPriv δ} {orig : OrigNode δ}
    (h : vOgmOrigGet ev bat ev.ogm.orig = some (bat', orig)) : orig = ogmOrig bat ev := by
  unfold vOgmOrigGet at h
  unfold ogmOrig
  split at h
  · next hfind =>
    cases h
    rw [hfind, Option.getD_some]
  · next hfind =>
    split at h
    · cases h
      rw [hfind, Option.getD_none]
    · cases h

/-- An originator cannot be had when it is unknown and none can be allocated. -/
lemma vOgmOrigGet_eq_none_iff {bat : BatPriv δ} {addr : EthAddr} :
    vOgmOrigGet ev bat addr = none ↔
      origHashFind bat addr = none ∧ ev.alloc.origNode addr = false := by
  unfold vOgmOrigGet
  split
  · next hfind => simp [hfind]
  · next hfind => split <;> simp_all

/-- Exactly the dropped OGMs are not accepted, and an accepted one is processed with the record of
its originator, with the neighbour in it. -/
lemma vOgmAccept_spec {bat : BatPriv δ} :
    (vOgmAccept ev bat = none ↔ OgmDropped bat ev) ∧
      ∀ bat' orig hardifNeigh, vOgmAccept ev bat = some (bat', orig, hardifNeigh) →
        neighNodeGetOrCreate ev.jiffies ev.alloc (ogmOrig bat ev) ev.neigh = some orig := by
  unfold OgmDropped vOgmAccept
  rw [← vOgmOrigGet_eq_none_iff, ← neighNodeGetOrCreate_eq_none_iff ev.jiffies]
  split
  · next hmine => simp [hmine]
  · next hmine =>
    split
    · next hmax => simp [hmax]
    · next hmax =>
      split
      · next hhard => simp [hhard]
      · next hhard =>
        split
        · next hget => simp [hget]
        · next hget =>
          rw [vOgmOrigGet_orig hget]
          split <;> simp_all

/-- A dropped OGM leaves all TVLV data alone. -/
lemma vOgmRejectState_sameTvlv (ev : OgmRecv) (bat : BatPriv δ) :
    SameTvlv bat (vOgmRejectState ev bat) := by
  unfold vOgmRejectState
  split
  · exact SameTvlv.refl _
  · split
    · exact SameTvlv.refl _
    · split
      · exact SameTvlv.refl _
      · split
        · exact SameTvlv.refl _
        · next hget => exact (vOgmOrigGet_eq_some hget).1

/-- **The processing of an OGM that is not dropped**: no TVLV handler is run exactly when none is
called for its buffer, and then the TVLV data stay; the OGM is classified as new exactly when it
is fresh. -/
lemma vOgmProcess_of_not_dropped (msecsToJiffies : ℕ → Jiffies) {bat : BatPriv δ}
    (h : ¬ OgmDropped bat ev) :
    ((vOgmProcess msecsToJiffies bat ev).2.called = [] ↔
        TvlvCallsNone bat.handlerList ev.ogm.tvlv) ∧
      ((vOgmProcess msecsToJiffies bat ev).2.called = [] →
        tvlvOf (vOgmProcess msecsToJiffies bat ev).1 ev.ogm.orig = tvlvOf bat ev.ogm.orig) ∧
      ((vOgmProcess msecsToJiffies bat ev).2.seqnoAge = some 1 ↔
        OgmFresh msecsToJiffies ev (ogmOrig bat ev)) := by
  rw [← vOgmAccept_spec.1, ← ne_eq, Option.ne_none_iff_exists'] at h
  obtain ⟨⟨bat', orig, hardifNeigh⟩, hacc⟩ := h
  obtain ⟨hsame, htvlv, -⟩ := vOgmAccept_eq_some hacc
  obtain ⟨hin, hinfo, hifinfo, -⟩ :=
    neighNodeGetOrCreate_eq_some (vOgmAccept_spec.2 _ _ _ hacc)
  obtain ⟨hrest, hcalled, hage, -⟩ := vOgmProcess_of_accept msecsToJiffies hacc
  have hiff : (vOgmProcess msecsToJiffies bat ev).2.called = [] ↔
      TvlvCallsNone bat.handlerList ev.ogm.tvlv := by
    rw [hcalled, tvlvContainersProcess_called_eq_nil_iff, hsame.handlerList]
  refine ⟨hiff, fun hnil => ?_, ?_⟩
  · have hnone := hiff.1 hnil
    rw [← hsame.handlerList] at hnone
    rw [hrest.tvlv, htvlv, ← tvlvContainersProcess_of_callsNone orig.tvlv hnone]
    exact tvlvOf_eq_of_find (origHashFind_setOrig_self _ _ _)
  · rw [hage, Option.some_inj]
    exact (vOgmMetricUpdate_eq_one_iff (by exact hin)).trans
      (ogmFresh_congr hifinfo (hinfo none))

/-! ### Runs -/

/-- The events in the life of a node: an OGM is received, the interfaces or what is known of the
neighbours on them change, or the node is configured anew. -/
inductive MeshEvent
  | recv (ev : OgmRecv)
  | ifaces (hardIfaces : List HardIface)
  | netlink (attrs : MeshAttrs)

/-- The effect of an event. -/
def meshNext (msecsToJiffies : ℕ → Jiffies) (bat : BatPriv δ) : MeshEvent → BatPriv δ
  | .recv ev => (vOgmProcess msecsToJiffies bat ev).1
  | .ifaces hardIfaces => { bat with hardIfaces := hardIfaces }
  | .netlink attrs => { bat with config := netlinkSetMesh attrs bat.config }

/-- What a step should do: it runs TVLV handlers only for an OGM that the metric update for the
default interface classifies as new, and any other OGM leaves the TVLV data of its originator as
they were. -/
def HandlersOnlyIfNew (msecsToJiffies : ℕ → Jiffies) (bat : BatPriv δ) : MeshEvent → Prop
  | .recv ev =>
    let r := vOgmProcess msecsToJiffies bat ev
    (r.2.called ≠ [] → r.2.seqnoAge = some 1) ∧
      (r.2.seqnoAge ≠ some 1 → tvlvOf r.1 ev.ogm.orig = tvlvOf bat ev.ogm.orig)
  | .ifaces _ | .netlink _ => True

/-- When a step does so: the OGM is dropped before its TVLV buffer is looked at, calls no handler,
or is fresh. -/
def FreshOrSilent (msecsToJiffies : ℕ → Jiffies) (bat : BatPriv δ) : MeshEvent → Prop
  | .recv ev => OgmDropped bat ev ∨ TvlvCallsNone bat.handlerList ev.ogm.tvlv ∨
      OgmFresh msecsToJiffies ev (ogmOrig bat ev)
  | .ifaces _ | .netlink _ => True

/-- One step runs the handlers for new OGMs only exactly when its OGM is fresh or silent. -/
lemma handlersOnlyIfNew_iff (bat : BatPriv δ) (e : MeshEvent) :
    HandlersOnlyIfNew msecsToJiffies bat e ↔ FreshOrSilent msecsToJiffies bat e := by
  cases e with
  | ifaces hardIfaces => exact Iff.rfl
  | netlink attrs => exact Iff.rfl
  | recv ev =>
    unfold HandlersOnlyIfNew FreshOrSilent
    by_cases hdrop : OgmDropped bat ev
    · have hstep : vOgmProcess msecsToJiffies bat ev = (vOgmRejectState ev bat, .dropped) := by
        simp only [vOgmProcess, vOgmAccept_spec.1.2 hdrop]
      have hkeep := (vOgmRejectState_sameTvlv ev bat).tvlv ev.ogm.orig
      simp [hstep, hdrop, hkeep, OgmOutcome.dropped]
    · obtain ⟨hcalled, hkeep, hage⟩ := vOgmProcess_of_not_dropped msecsToJiffies hdrop
      dsimp only
      simp only [hdrop, false_or, ← hcalled, ← hage]
      constructor
      · intro h
        by_cases hnil : (vOgmProcess msecsToJiffies bat ev).2.called = []
        · exact Or.inl hnil
        · exact Or.inr (h.1 hnil)
      · rintro (hnil | hnew)
        · exact ⟨fun hne => absurd hnil hne, fun _ => hkeep hnil⟩
        · exact ⟨fun _ => hnew, fun hne => absurd hnew hne⟩

/-- **Handlers are run for new OGMs only** in a run exactly when each of its OGMs is dropped
before its TVLV buffer is looked at, calls no handler, or is fresh. -/
theorem handlers_only_if_new_iff (bat : BatPriv δ) (es : List MeshEvent) :
    Run.AllSteps (meshNext msecsToJiffies) (HandlersOnlyIfNew msecsToJiffies) bat es ↔
      Run.AllSteps (meshNext msecsToJiffies) (FreshOrSilent msecsToJiffies) bat es :=
  Run.allSteps_iff (fun _ => True) (fun _ _ _ => trivial)
    (fun bat e _ => handlersOnlyIfNew_iff bat e) trivial es

/-! ### A late OGM -/

/-- The relay with the handler of the node weight registered. -/
def weightRelay : BatPriv Unit :=
  { relayNode meshConfigInit 10 with handlerList := [nodeWeightTvlvHandler] }

/-- An OGM that announces a node weight with the given priority. -/
def weightOgm (seqno : U32) (priority : U8) : OgmRecv :=
  { relayRecv 1000 10 with
    ogm := ⟨50, seqno, 0x02000000000A, 1000, [0x10, 1, 0, 3, priority, 100, 1]⟩ }

/-- **A late OGM changes the node weight.**  After the OGM with sequence number 2, the older one
with sequence number 1 is rejected as outdated, but its priority replaces the newer one. -/
theorem stale_ogm_changes_weight :
    let late := (vOgmProcess (BitVec.ofNat 64) weightRelay (weightOgm 2 64)).1
    let r := vOgmProcess (BitVec.ofNat 64) late (weightOgm 1 200)
    (tvlvOf late 0x02000000000A).nodePriority = 64 ∧ r.2.seqnoAge = some (-22) ∧
      r.2.called ≠ [] ∧ (tvlvOf r.1 0x02000000000A).nodePriority = 200 ∧
      ¬ Run.AllSteps (meshNext (BitVec.ofNat 64)) (HandlersOnlyIfNew (BitVec.ofNat 64))
        weightRelay [.recv (weightOgm 2 64), .recv (weightOgm 1 200)] := by
  refine ⟨by decide, by decide, by decide, by decide, ?_⟩
  rintro ⟨-, ⟨honly, -⟩, -⟩
  exact absurd (honly (by decide)) (by decide)

end Batadv
