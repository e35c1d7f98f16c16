import Mathlib.Data.List.Chain
import BatmanAdv.Lib.Run
import BatmanAdv.Lib.SerialWindow
import BatmanAdv.BatV.Freshness

set_option relaxedAutoImplicit false
set_option autoImplicit false

/-!
# The sequence window of OGM2 packets

For every originator and outgoing interface a node keeps the newest sequence number it has
accepted, the time at which it has last started anew, and the last sequence number it has sent on.
The first two are kept by the metric update, the third by the forwarding; together they see to it
that an OGM is sent on once, whatever copies of it come in.

## Main definitions

* `Batadv.OgmWindow`, `Batadv.windowOf` — the three values.
* `Batadv.OutifEvent`, `Batadv.outifNext` — an OGM is processed for one outgoing interface, or
  anything happens that leaves the windows alone.
* `Batadv.protectionReset` — the metric update starts anew.
* `Batadv.AdvancesOrResets`, `Batadv.OlderIgnored` — what a step should do.

## Main results

* `Batadv.vOgmProcessPerOutif_window` — what the processing of an OGM does to the windows.
* `Batadv.ogm_window_single_forwarding` — the window over a run.
* `Batadv.vOgmProcess_eq_final`, `Batadv.outifEventsOf_guard` — the processing of an OGM, and of one
  after the other, is such a run.
-/

namespace Batadv

variable {δ : Type*} {msecsToJiffies : ℕ → Jiffies} {ev : OgmRecv}
variable {ifOutgoing : Option HardIface}

/-! ### Windows -/

/-- The part of `struct batadv_orig_ifinfo` that decides which OGMs are accepted and sent on. -/
structure OgmWindow where
  lastRealSeqno : U32
  lastSeqnoForwarded : U32
  batmanSeqnoReset : Jiffies
deriving DecidableEq, Repr

/-- The window in a record. -/
def OrigIfinfo.window (ifinfo : OrigIfinfo) : OgmWindow :=
  ⟨ifinfo.lastRealSeqno, ifinfo.lastSeqnoForwarded, ifinfo.batmanSeqnoReset⟩

/-- The window of an originator for an outgoing interface. -/
def windowOf (bat : BatPriv δ) (addr : EthAddr) (key : IfKey) : Option OgmWindow :=
  (origHashFind bat addr).bind fun orig => (orig.ifinfoList.get key).map OrigIfinfo.window

/-- The two sequence numbers of a window; both are 0 before there is one. -/
def memoryOf (bat : BatPriv δ) (addr : EthAddr) (key : IfKey) : SerialWindow.Memory 32 :=
  match windowOf bat addr key with
  | none => ⟨0, 0⟩
  | some window => ⟨window.lastRealSeqno, window.lastSeqnoForwarded⟩

/-- `last_real_seqno` of an originator for an outgoing interface. -/
def lastRealSeqnoOf (bat : BatPriv δ) (addr : EthAddr) (key : IfKey) : U32 :=
  (memoryOf bat addr key).newest

/-- The router of an originator for an outgoing interface. -/
def routerOf (bat : BatPriv δ) (addr : EthAddr) (key : IfKey) : Option NeighKey :=
  (origHashFind bat addr).bind fun orig => origRouterGet orig key

/-- What is known of the cost of a neighbour of an originator for an outgoing interface. -/
def neighIfinfoOf (bat : BatPriv δ) (addr : EthAddr) (neigh : NeighKey) (key : IfKey) :
    Option NeighIfinfo :=
  (origHashFind bat addr).bind fun orig => orig.neighIfinfoGet neigh key

/-! ### Runs -/

/-- An OGM is processed for an outgoing interface, or something else happens at the node. -/
inductive OutifEvent (δ : Type*)
  | process (ev : OgmRecv) (ifOutgoing : Option HardIface)
  | other (bat : BatPriv δ)

/-- What a node does at an event: the state after it, and the OGM that is sent on. -/
def outifStep [Inhabited δ] (msecsToJiffies : ℕ → Jiffies) (bat : BatPriv δ) :
    OutifEvent δ → BatPriv δ × Option Ogm2Packet
  | .process ev ifOutgoing =>
    let (bat, _, packet) := vOgmProcessPerOutif msecsToJiffies ev bat ifOutgoing
    (bat, packet)
  | .other bat => (bat, none)

/-- The state after an event. -/
def outifNext [Inhabited δ] (msecsToJiffies : ℕ → Jiffies) (bat : BatPriv δ)
    (e : OutifEvent δ) : BatPriv δ :=
  (outifStep msecsToJiffies bat e).1

/-- An OGM is processed when its originator is known and has the neighbour in its list, as the
caller has seen to; anything may be changed by other events, routers in particular, but no
window. -/
def OutifGuard (bat : BatPriv δ) : OutifEvent δ → Prop
  | .process ev _ => ∃ orig, origHashFind bat ev.ogm.orig = some orig ∧
      (orig.neighList.get ev.neigh).isSome
  | .other bat' => ∀ addr key, windowOf bat' addr key = windowOf bat addr key

/-- The event is an OGM of the given originator that is processed for the given interface. -/
def OutifEvent.concerns (addr : EthAddr) (key : IfKey) : OutifEvent δ → Bool
  | .process ev ifOutgoing => decide (ev.ogm.orig = addr ∧ ifKey ifOutgoing = key)
  | .other _ => false

/-- The metric update takes the originator to have restarted, and starts the protection. -/
def metricReset (msecsToJiffies : ℕ → Jiffies) (ev : OgmRecv) (orig : OrigNode δ)
    (ifOutgoing : Option HardIface) : Bool :=
  match origIfinfoNew msecsToJiffies ev.jiffies ev.alloc orig (ifKey ifOutgoing) with
  | none => false
  | some (orig, origIfinfo) => (ogmSeqnoCheck msecsToJiffies ev orig origIfinfo).any Prod.snd

/-- The event is an OGM whose metric update starts the protection. -/
def protectionReset (msecsToJiffies : ℕ → Jiffies) (bat : BatPriv δ) : OutifEvent δ → Bool
  | .process ev ifOutgoing =>
    (origHashFind bat ev.ogm.orig).any fun orig => metricReset msecsToJiffies ev orig ifOutgoing
  | .other _ => false

/-- The event makes the window of the given originator and interface start anew. -/
def resetsWindow (msecsToJiffies : ℕ → Jiffies) (addr : EthAddr) (key : IfKey)
    (bat : BatPriv δ) (e : OutifEvent δ) : Bool :=
  e.concerns addr key && protectionReset msecsToJiffies bat e

/-- When an event takes place; only that of the reception of an OGM is known. -/
def OutifEvent.jiffies : OutifEvent δ → Option Jiffies
  | .process ev _ => some ev.jiffies
  | .other _ => none

section

variable [Inhabited δ]

/-- The times at which the window of the given originator and interface starts anew. -/
def resetTimes (msecsToJiffies : ℕ → Jiffies) (addr : EthAddr) (key : IfKey) :
    BatPriv δ → List (OutifEvent δ) → List Jiffies
  | _, [] => []
  | bat, e :: es =>
    (if resetsWindow msecsToJiffies addr key bat e then e.jiffies.toList else []) ++
      resetTimes msecsToJiffies addr key (outifNext msecsToJiffies bat e) es

/-- The sequence number that an event makes the node send on for the given originator over the
given interface. -/
def queuedSeqno (msecsToJiffies : ℕ → Jiffies) (addr : EthAddr) (key : IfKey) (bat : BatPriv δ)
    (e : OutifEvent δ) : Option U32 :=
  if e.concerns addr key then (outifStep msecsToJiffies bat e).2.map Ogm2Packet.seqno else none

/-- The sequence numbers that are sent on in a run for the given originator over the given
interface. -/
def queuedSeqnos (msecsToJiffies : ℕ → Jiffies) (addr : EthAddr) (key : IfKey) :
    BatPriv δ → List (OutifEvent δ) → List U32
  | _, [] => []
  | bat, e :: es =>
    (queuedSeqno msecsToJiffies addr key bat e).toList ++
      queuedSeqnos msecsToJiffies addr key (outifNext msecsToJiffies bat e) es

/-- How far a run moves `last_real_seqno` forward. -/
def seqnoTravelled (msecsToJiffies : ℕ → Jiffies) (addr : EthAddr) (key : IfKey) :
    BatPriv δ → List (OutifEvent δ) → ℕ
  | _, [] => 0
  | bat, e :: es =>
    (lastRealSeqnoOf (outifNext msecsToJiffies bat e) addr key -
        lastRealSeqnoOf bat addr key).toNat +
      seqnoTravelled msecsToJiffies addr key (outifNext msecsToJiffies bat e) es

/-- `last_real_seqno` is moved forward by at most 65535, unless the window starts anew. -/
def AdvancesOrResets (msecsToJiffies : ℕ → Jiffies) (addr : EthAddr) (key : IfKey)
    (bat : BatPriv δ) (e : OutifEvent δ) : Prop :=
  resetsWindow msecsToJiffies addr key bat e = false →
    (lastRealSeqnoOf (outifNext msecsToJiffies bat e) addr key -
      lastRealSeqnoOf bat addr key).toNat ≤ 65535

/-- An OGM that is older than `last_real_seqno` changes no cost and no route, unless the window
starts anew. -/
def OlderIgnored (msecsToJiffies : ℕ → Jiffies) (bat : BatPriv δ) : OutifEvent δ → Prop
  | .process ev ifOutgoing =>
    (ev.ogm.seqno - lastRealSeqnoOf bat ev.ogm.orig (ifKey ifOutgoing)).toInt < 0 →
    protectionReset msecsToJiffies bat (.process ev ifOutgoing) = false →
    ∀ addr key,
      routerOf (outifNext msecsToJiffies bat (.process ev ifOutgoing)) addr key =
          routerOf bat addr key ∧
        ∀ neigh, neighIfinfoOf (outifNext msecsToJiffies bat (.process ev ifOutgoing)) addr neigh
          key = neighIfinfoOf bat addr neigh key
  | .other _ => True

end

/-! ### The metric update -/

/-- A sequence number is accepted with the window as it is when it is at most 65535 ahead, and
otherwise only by starting anew, when the last time was long enough ago. -/
lemma ogmSeqnoCheck_eq_some {orig : OrigNode δ} {last : OrigIfinfo} {reset : Jiffies}
    {started : Bool} (hn : orig.neighList ≠ [])
    (h : ogmSeqnoCheck msecsToJiffies ev orig last = some (reset, started)) :
    (started = false ∧ reset = last.batmanSeqnoReset ∧ 0 ≤ ogmSeqDiff ev last ∧
        ogmSeqDiff ev last < 65536) ∨
      (started = true ∧ reset = ev.jiffies ∧
        hasTimedOut msecsToJiffies ev.jiffies last.batmanSeqnoReset RESET_PROTECTION_MS =
          true) := by
  have hempty : orig.neighList.isEmpty = false := by simpa using hn
  unfold ogmSeqnoCheck windowProtected at h
  simp only [hempty, Bool.false_eq_true, if_false] at h
  by_cases hout : ogmSeqDiff ev last ≤ -OGM_MAX_AGE ∨ EXPECTED_SEQNO_RANGE ≤ ogmSeqDiff ev last
  · cases hto : hasTimedOut msecsToJiffies ev.jiffies last.batmanSeqnoReset RESET_PROTECTION_MS
    · simp [hout, hto] at h
    · simp only [hout, hto, if_true, Bool.not_true, Bool.false_eq_true, if_false] at h
      simp only [Bool.true_eq_false, and_false, if_false, Option.some.injEq, Prod.mk.injEq] at h
      exact Or.inr ⟨h.2.symm, h.1.symm, rfl⟩
  · have hlt : ogmSeqDiff ev last < 65536 := by
      have : EXPECTED_SEQNO_RANGE = 65536 := rfl
      omega
    simp only [hout, if_false, and_true] at h
    split_ifs at h with hneg
    simp only [Option.some.injEq, Prod.mk.injEq] at h
    exact Or.inl ⟨h.2.symm, h.1.symm, by omega, hlt⟩

/-- Storing the metric keeps the neighbours in the list. -/
lemma ogmStoreMetric_neighList {config : MeshConfig} {orig orig' : OrigNode δ} {ok : Bool}
    (h : ogmStoreMetric config ev orig ifOutgoing = (orig', ok)) {neigh : NeighKey}
    (hn : (orig.neighList.get neigh).isSome) : (orig'.neighList.get neigh).isSome := by
  have hset : ∀ n, ((orig.neighList.set ev.neigh n).get neigh).isSome := by
    intro n
    by_cases heq : neigh = ev.neigh
    · rw [heq, Table.get_set_self]
      rfl
    · rwa [Table.get_set_of_ne _ _ heq]
  unfold ogmStoreMetric at h
  split at h
  · cases h
    exact hn
  · dsimp only at h
    split at h
    · cases h
      exact hset _
    · cases h
      exact hset _

/-- The sequence number check depends on the list of neighbours only. -/
lemma ogmSeqnoCheck_congr {orig orig' : OrigNode δ} (h : orig'.neighList = orig.neighList)
    (last : OrigIfinfo) : ogmSeqnoCheck msecsToJiffies ev orig' last =
      ogmSeqnoCheck msecsToJiffies ev orig last := by
  simp only [ogmSeqnoCheck, h]

/-- A record for an outgoing interface is found, or it is added and nothing else is changed. -/
lemma origIfinfoNew_cases {jiffies : Jiffies} {alloc : Alloc} {orig orig' : OrigNode δ}
    {key : IfKey} {ifinfo : OrigIfinfo}
    (h : origIfinfoNew msecsToJiffies jiffies alloc orig key = some (orig', ifinfo)) :
    (orig.ifinfoList.get key = some ifinfo ∧ orig' = orig) ∨
      (orig.ifinfoList.get key = none ∧ ifinfo = origIfinfoInit msecsToJiffies jiffies ∧
        orig' = { orig with ifinfoList := orig.ifinfoList.set key ifinfo }) := by
  unfold origIfinfoNew at h
  split at h
  · next hget =>
    obtain ⟨rfl, rfl⟩ := by simpa using h
    exact Or.inl ⟨hget, rfl⟩
  · next hget =>
    split_ifs at h
    obtain ⟨rfl, rfl⟩ := by simpa using h
    exact Or.inr ⟨hget, rfl, rfl⟩

/-- A record that is looked up or added is the one the metric update works on; the others are kept,
and so is the list of neighbours. -/
lemma origIfinfoNew_last {orig orig' : OrigNode δ} {key : IfKey} {ifinfo : OrigIfinfo}
    (h : origIfinfoNew msecsToJiffies ev.jiffies ev.alloc orig key = some (orig', ifinfo)) :
    ifinfo = ogmLastIfinfo msecsToJiffies ev orig key ∧ orig'.neighList = orig.neighList ∧
      (∀ key' ≠ key, orig'.ifinfoList.get key' = orig.ifinfoList.get key') ∧
      (orig'.ifinfoList.get key = orig.ifinfoList.get key ∨
        (orig.ifinfoList.get key = none ∧
          orig'.ifinfoList.get key = some (origIfinfoInit msecsToJiffies ev.jiffies))) := by
  rcases origIfinfoNew_cases h with ⟨hget, rfl⟩ | ⟨hget, rfl, rfl⟩
  · exact ⟨by rw [ogmLastIfinfo, hget, Option.getD_some], rfl, fun _ _ => rfl, Or.inl rfl⟩
  · exact ⟨by rw [ogmLastIfinfo, hget, Option.getD_none], rfl,
      fun key' hne => Table.get_set_of_ne _ _ hne, Or.inr ⟨hget, Table.get_set_self _ _ _⟩⟩

/-- **What a metric update does to the records of an originator**: it fails, and at most adds a new
record and nothing else, or it stores the sequence number that was accepted. -/
lemma vOgmMetricUpdate_window {config : MeshConfig} {orig orig' : OrigNode δ} {age : ℤ}
    (h : vOgmMetricUpdate msecsToJiffies config ev orig ifOutgoing = (orig', age)) :
    (∀ key ≠ ifKey ifOutgoing, orig'.ifinfoList.get key = orig.ifinfoList.get key) ∧
      (∀ neigh, (orig.neighList.get neigh).isSome → (orig'.neighList.get neigh).isSome) ∧
      ((age < 0 ∧ metricReset msecsToJiffies ev orig ifOutgoing = false ∧
          orig'.neighList = orig.neighList ∧
          (orig'.ifinfoList.get (ifKey ifOutgoing) = orig.ifinfoList.get (ifKey ifOutgoing) ∨
            (orig.ifinfoList.get (ifKey ifOutgoing) = none ∧
              orig'.ifinfoList.get (ifKey ifOutgoing) =
                some (origIfinfoInit msecsToJiffies ev.jiffies)))) ∨
        ∃ reset started,
          ogmSeqnoCheck msecsToJiffies ev orig
            (ogmLastIfinfo msecsToJiffies ev orig (ifKey ifOutgoing)) = some (reset, started) ∧
          metricReset msecsToJiffies ev orig ifOutgoing = started ∧
          orig'.ifinfoList.get (ifKey ifOutgoing) =
            some { ogmLastIfinfo msecsToJiffies ev orig (ifKey ifOutgoing) with
              batmanSeqnoReset := reset
              lastRealSeqno := ev.ogm.seqno
              lastTtl := ev.ogm.ttl }) := by
  have hneg : -EINVAL < (0 : ℤ) := by decide
  unfold vOgmMetricUpdate at h
  unfold metricReset
  cases hnew : origIfinfoNew msecsToJiffies ev.jiffies ev.alloc orig (ifKey ifOutgoing) with
  | none =>
    rw [hnew] at h
    cases h
    exact ⟨fun _ _ => rfl, fun _ hn => hn, Or.inl ⟨hneg, rfl, rfl, Or.inl rfl⟩⟩
  | some r =>
    obtain ⟨orig₁, last⟩ := r
    rw [hnew] at h
    dsimp only at h ⊢
    obtain ⟨rfl, hneigh, hother, hself⟩ := origIfinfoNew_last hnew
    cases hcheck : ogmSeqnoCheck msecsToJiffies ev orig₁
        (ogmLastIfinfo msecsToJiffies ev orig (ifKey ifOutgoing)) with
    | none =>
      rw [hcheck] at h
      cases h
      exact ⟨hother, fun _ hn => by rwa [hneigh],
        Or.inl ⟨hneg, by rw [Option.any_none], hneigh, hself⟩⟩
    | some r =>
      obtain ⟨reset, started⟩ := r
      rw [hcheck] at h
      rw [Option.any_some]
      rw [ogmSeqnoCheck_congr hneigh] at hcheck
      dsimp only at h
      generalize hstore : ogmStoreMetric config ev _ ifOutgoing = stored at h
      obtain ⟨orig₂, ok⟩ := stored
      have hifinfo := (ogmStoreMetric_eq hstore).2.1
      have hkeep := fun neigh (hn : (orig₁.neighList.get neigh).isSome) =>
        ogmStoreMetric_neighList hstore hn
      have horig' : orig' = orig₂ := by cases ok <;> exact (Prod.mk.inj h).1.symm
      subst horig'
      refine ⟨fun key hne => ?_, fun neigh hn => hkeep neigh (by rwa [hneigh]),
        Or.inr ⟨reset, started, hcheck, rfl, ?_⟩⟩
      · rw [hifinfo, Table.get_set_of_ne _ _ hne]
        exact hother key hne
      · rw [hifinfo, Table.get_set_self]

/-! ### Routes and forwarding -/

lemma windowOf_eq_of_find {bat : BatPriv δ} {addr : EthAddr} {orig : OrigNode δ}
    (h : origHashFind bat addr = some orig) (key : IfKey) :
    windowOf bat addr key = (orig.ifinfoList.get key).map OrigIfinfo.window := by
  rw [windowOf, h, Option.bind_some]

lemma windowOf_setOrig_self (bat : BatPriv δ) (addr : EthAddr) (orig : OrigNode δ) (key : IfKey) :
    windowOf (bat.setOrig addr orig) addr key =
      (orig.ifinfoList.get key).map OrigIfinfo.window :=
  windowOf_eq_of_find (origHashFind_setOrig_self _ _ _) key

lemma windowOf_setOrig_of_ne (bat : BatPriv δ) {addr addr' : EthAddr} (orig : OrigNode δ)
    (h : addr' ≠ addr) (key : IfKey) :
    windowOf (bat.setOrig addr orig) addr' key = windowOf bat addr' key := by
  rw [windowOf, windowOf, origHashFind_setOrig_of_ne _ _ h]

/-- A record is replaced by one with the same windows. -/
lemma windowOf_setOrig_same (bat : BatPriv δ) {addr : EthAddr} {orig : OrigNode δ}
    (h : ∀ key, (orig.ifinfoList.get key).map OrigIfinfo.window = windowOf bat addr key)
    (addr' : EthAddr) (key : IfKey) :
    windowOf (bat.setOrig addr orig) addr' key = windowOf bat addr' key := by
  by_cases heq : addr' = addr
  · rw [heq, windowOf_setOrig_self, h]
  · exact windowOf_setOrig_of_ne _ _ heq _

/-- Looking an originator up leaves the windows alone; one that is created has none. -/
lemma vOgmOrigGet_window [Inhabited δ] {bat bat' : BatPriv δ} {addr : EthAddr}
    {orig : OrigNode δ} (h : vOgmOrigGet ev bat addr = some (bat', orig)) (addr' : EthAddr)
    (key : IfKey) : windowOf bat' addr' key = windowOf bat addr' key := by
  unfold vOgmOrigGet at h
  split at h
  · cases h
    rfl
  · next hfind =>
    split_ifs at h
    cases h
    refine windowOf_setOrig_same _ (fun key => ?_) addr' key
    rw [windowOf, hfind]
    rfl

/-- Setting a route leaves the windows alone. -/
lemma updateRoute_window (orig : OrigNode δ) (key key' : IfKey) (neigh : NeighKey) :
    ((updateRoute orig key neigh).ifinfoList.get key').map OrigIfinfo.window =
      (orig.ifinfoList.get key').map OrigIfinfo.window := by
  unfold updateRoute
  split
  · rfl
  · next ifinfo hget =>
    by_cases heq : key' = key
    · rw [heq, Table.get_set_self, hget]
      rfl
    · rw [Table.get_set_of_ne _ _ heq]

/-- A route update leaves the windows alone. -/
lemma vOgmRouteUpdate_window [Inhabited δ] {bat bat' : BatPriv δ} {forward : Bool}
    (h : vOgmRouteUpdate ev bat ifOutgoing = (bat', forward)) (addr : EthAddr) (key : IfKey) :
    windowOf bat' addr key = windowOf bat addr key := by
  unfold vOgmRouteUpdate at h
  split at h
  · cases h
    rfl
  · next bat₁ origNeigh hget =>
    have hwin := vOgmOrigGet_window hget
    split at h
    · cases h
      exact hwin addr key
    · next orig hfind =>
      have hset : windowOf (bat₁.setOrig ev.ogm.orig
          (updateRoute orig (ifKey ifOutgoing) ev.neigh)) addr key = windowOf bat addr key := by
        rw [← hwin addr key]
        refine windowOf_setOrig_same _ (fun key => ?_) addr key
        rw [updateRoute_window, windowOf_eq_of_find hfind]
      dsimp only at h
      split at h
      · cases h
        exact hset
      · split_ifs at h
        · cases h
          exact hwin addr key
        · cases h
          exact hwin addr key
        · split at h
          · split_ifs at h
            · cases h
              exact hwin addr key
            · cases h
              exact hset
          · cases h
            exact hwin addr key

/-- **What forwarding does to the records of an originator**: it leaves them alone and sends
nothing, or the sequence number differs from the one sent on last, and replaces it. -/
lemma vOgmForward_window {config : MeshConfig} {orig orig' : OrigNode δ} {last : OrigIfinfo}
    {packet : Option Ogm2Packet} (hlast : orig.ifinfoList.get (ifKey ifOutgoing) = some last)
    (h : vOgmForward msecsToJiffies config ev orig ifOutgoing = (orig', packet)) :
    (∀ key ≠ ifKey ifOutgoing, orig'.ifinfoList.get key = orig.ifinfoList.get key) ∧
      orig'.neighList = orig.neighList ∧
      ((orig'.ifinfoList.get (ifKey ifOutgoing) = some last ∧ packet = none) ∨
        (orig'.ifinfoList.get (ifKey ifOutgoing) =
            some { last with lastSeqnoForwarded := ev.ogm.seqno } ∧
          last.lastSeqnoForwarded ≠ ev.ogm.seqno ∧ ∀ p ∈ packet, p.seqno = ev.ogm.seqno)) := by
  have keep : (orig, (none : Option Ogm2Packet)) = (orig', packet) →
      (∀ key ≠ ifKey ifOutgoing, orig'.ifinfoList.get key = orig.ifinfoList.get key) ∧
        orig'.neighList = orig.neighList ∧
        ((orig'.ifinfoList.get (ifKey ifOutgoing) = some last ∧ packet = none) ∨
          (orig'.ifinfoList.get (ifKey ifOutgoing) =
              some { last with lastSeqnoForwarded := ev.ogm.seqno } ∧
            last.lastSeqnoForwarded ≠ ev.ogm.seqno ∧ ∀ p ∈ packet, p.seqno = ev.ogm.seqno)) := by
    rintro ⟨⟩
    exact ⟨fun _ _ => rfl, rfl, Or.inl ⟨hlast, rfl⟩⟩
  unfold vOgmForward at h
  split at h
  · exact keep h
  · next out =>
    have hlast' : orig.ifinfoList.get (some out.ifindex) = some last := hlast
    have hnew : origIfinfoNew msecsToJiffies ev.jiffies ev.alloc orig (some out.ifindex) =
        some (orig, last) := by simp only [origIfinfoNew, hlast']
    simp only [hnew] at h
    split_ifs at h with hrouter hfwd httl halloc
    · exact keep h
    · exact keep h
    all_goals
      have hother : ∀ key ≠ ifKey (some out), (orig.ifinfoList.set (some out.ifindex)
          { last with lastSeqnoForwarded := ev.ogm.seqno }).get key = orig.ifinfoList.get key :=
        fun key hne => Table.get_set_of_ne _ _ hne
      have hself : (orig.ifinfoList.set (some out.ifindex)
          { last with lastSeqnoForwarded := ev.ogm.seqno }).get (ifKey (some out)) =
            some { last with lastSeqnoForwarded := ev.ogm.seqno } := Table.get_set_self _ _ _
    · cases h
      exact ⟨hother, rfl, Or.inr ⟨hself, hfwd, by simp⟩⟩
    · split at h
      · cases h
        exact ⟨hother, rfl, Or.inr ⟨hself, hfwd, by simp⟩⟩
      · cases h
        exact ⟨hother, rfl, Or.inr ⟨hself, hfwd, by simp⟩⟩
    · split at h
      · cases h
        exact ⟨hother, rfl, Or.inr ⟨hself, hfwd, by simp⟩⟩
      · cases h
        exact ⟨hother, rfl, Or.inr ⟨hself, hfwd, by simp⟩⟩

/-! ### One step -/

lemma routerOf_setOrig_of_ne (bat : BatPriv δ) {addr addr' : EthAddr} (orig : OrigNode δ)
    (h : addr' ≠ addr) (key : IfKey) :
    routerOf (bat.setOrig addr orig) addr' key = routerOf bat addr' key := by
  rw [routerOf, routerOf, origHashFind_setOrig_of_ne _ _ h]

/-- The records of an originator that the node knows, with at most a new one added, have the routes
and costs that were known. -/
lemma setOrig_routes {bat : BatPriv δ} {addr : EthAddr} {orig orig' : OrigNode δ}
    (hfind : origHashFind bat addr = some orig) (hneigh : orig'.neighList = orig.neighList)
    (hrouter : ∀ key, origRouterGet orig' key = origRouterGet orig key) (addr' : EthAddr)
    (key : IfKey) :
    routerOf (bat.setOrig addr orig') addr' key = routerOf bat addr' key ∧
      ∀ neigh, neighIfinfoOf (bat.setOrig addr orig') addr' neigh key =
        neighIfinfoOf bat addr' neigh key := by
  by_cases heq : addr' = addr
  · subst heq
    refine ⟨?_, fun neigh => ?_⟩
    · rw [routerOf, routerOf, origHashFind_setOrig_self, hfind]
      exact hrouter key
    · rw [neighIfinfoOf, neighIfinfoOf, origHashFind_setOrig_self, hfind]
      simp only [Option.bind_some, OrigNode.neighIfinfoGet, hneigh]
  · refine ⟨routerOf_setOrig_of_ne _ _ heq _, fun neigh => ?_⟩
    rw [neighIfinfoOf, neighIfinfoOf, origHashFind_setOrig_of_ne _ _ heq]

/-- The window a metric update works on: the one that is there, or a new one. -/
def ogmLastWindow (msecsToJiffies : ℕ → Jiffies) (ev : OgmRecv) (bat : BatPriv δ)
    (key : IfKey) : OgmWindow :=
  (windowOf bat ev.ogm.orig key).getD (origIfinfoInit msecsToJiffies ev.jiffies).window

/-- What the processing of an OGM does to the window of its originator for the outgoing interface.
It is `rejected`, with at most a new window added, or it is `accepted` and possibly sent on. -/
inductive WindowStep (msecsToJiffies : ℕ → Jiffies) (ev : OgmRecv) (last : OgmWindow)
    (before after : Option OgmWindow) (reset : Bool) (packet : Option Ogm2Packet) : Prop
  | rejected (hreset : reset = false) (hpacket : packet = none)
      (hafter : after = before ∨ before = none ∧ after = some last)
  | accepted (batmanSeqnoReset : Jiffies) (lastSeqnoForwarded : U32)
      (hafter : after = some ⟨ev.ogm.seqno, lastSeqnoForwarded, batmanSeqnoReset⟩)
      (hcheck : reset = false ∧ batmanSeqnoReset = last.batmanSeqnoReset ∧
          0 ≤ (ev.ogm.seqno - last.lastRealSeqno).toInt ∧
          (ev.ogm.seqno - last.lastRealSeqno).toInt < 65536 ∨
        reset = true ∧ batmanSeqnoReset = ev.jiffies ∧
          hasTimedOut msecsToJiffies ev.jiffies last.batmanSeqnoReset RESET_PROTECTION_MS = true)
      (hsent : packet = none ∧ (lastSeqnoForwarded = last.lastSeqnoForwarded ∨
            lastSeqnoForwarded = ev.ogm.seqno) ∨
        lastSeqnoForwarded = ev.ogm.seqno ∧ last.lastSeqnoForwarded ≠ ev.ogm.seqno ∧
          ∀ p ∈ packet, p.seqno = ev.ogm.seqno)

/-- The window of the record a metric update works on. -/
lemma ogmLastIfinfo_window (msecsToJiffies : ℕ → Jiffies) {bat : BatPriv δ} {orig : OrigNode δ}
    (hfind : origHashFind bat ev.ogm.orig = some orig) (key : IfKey) :
    (ogmLastIfinfo msecsToJiffies ev orig key).window =
      ogmLastWindow msecsToJiffies ev bat key := by
  rw [ogmLastIfinfo, ogmLastWindow, windowOf_eq_of_find hfind]
  cases orig.ifinfoList.get key <;> rfl

/-- **What the processing of an OGM does to the windows**: those of other originators and interfaces
are left alone, its own takes a step, and an OGM that is older than the window changes no route and
no cost unless the window starts anew. -/
theorem vOgmProcessPerOutif_window [Inhabited δ] {bat bat' : BatPriv δ} {orig : OrigNode δ}
    {age : ℤ} {packet : Option Ogm2Packet} (hfind : origHashFind bat ev.ogm.orig = some orig)
    (hn : (orig.neighList.get ev.neigh).isSome)
    (h : vOgmProcessPerOutif msecsToJiffies ev bat ifOutgoing = (bat', age, packet)) :
    (∀ addr key, addr ≠ ev.ogm.orig ∨ key ≠ ifKey ifOutgoing →
        windowOf bat' addr key = windowOf bat addr key) ∧
      (∃ orig', origHashFind bat' ev.ogm.orig = some orig' ∧
        (orig'.neighList.get ev.neigh).isSome) ∧
      WindowStep msecsToJiffies ev (ogmLastWindow msecsToJiffies ev bat (ifKey ifOutgoing))
        (windowOf bat ev.ogm.orig (ifKey ifOutgoing))
        (windowOf bat' ev.ogm.orig (ifKey ifOutgoing))
        (metricReset msecsToJiffies ev orig ifOutgoing) packet ∧
      ((ev.ogm.seqno - (ogmLastWindow msecsToJiffies ev bat (ifKey ifOutgoing)).lastRealSeqno).toInt
          < 0 → metricReset msecsToJiffies ev orig ifOutgoing = false → ∀ addr key,
        routerOf bat' addr key = routerOf bat addr key ∧ ∀ neigh,
          neighIfinfoOf bat' addr neigh key = neighIfinfoOf bat addr neigh key) := by
  unfold vOgmProcessPerOutif at h
  simp only [hfind] at h
  generalize hupd : vOgmMetricUpdate msecsToJiffies bat.config ev orig ifOutgoing = upd at h
  obtain ⟨orig₁, age₁⟩ := upd
  obtain ⟨hother₁, hneigh₁, hcases⟩ := vOgmMetricUpdate_window hupd
  have hlastwin := ogmLastIfinfo_window msecsToJiffies hfind (ifKey ifOutgoing)
  have hwin₁ : ∀ addr key, addr ≠ ev.ogm.orig ∨ key ≠ ifKey ifOutgoing →
      windowOf (bat.setOrig ev.ogm.orig orig₁) addr key = windowOf bat addr key := by
    intro addr key hne
    by_cases haddr : addr = ev.ogm.orig
    · subst haddr
      rw [windowOf_setOrig_self, windowOf_eq_of_find hfind,
        hother₁ key (hne.resolve_left (not_not.2 rfl))]
    · exact windowOf_setOrig_of_ne _ _ haddr _
  have hfind₁ : origHashFind (bat.setOrig ev.ogm.orig orig₁) ev.ogm.orig = some orig₁ :=
    origHashFind_setOrig_self _ _ _
  dsimp only at h
  rcases hcases with ⟨hage, hreset, hlist, hself⟩ | ⟨reset, started, hcheck, hstarted, hself⟩
  · -- the metric update has failed, and all it may have done is to add a record
    rw [if_pos hage] at h
    cases h
    refine ⟨hwin₁, ⟨orig₁, hfind₁, hneigh₁ _ hn⟩, .rejected hreset rfl ?_, fun _ _ => ?_⟩
    · rw [windowOf_setOrig_self, ← hlastwin, windowOf_eq_of_find hfind, ogmLastIfinfo]
      rcases hself with hself | ⟨hnone, hself⟩
      · exact Or.inl (by rw [hself])
      · rw [hself, hnone]
        exact Or.inr ⟨rfl, rfl⟩
    · refine setOrig_routes hfind hlist fun key => ?_
      unfold origRouterGet
      by_cases hkey : key = ifKey ifOutgoing
      · subst hkey
        rcases hself with hself | ⟨hnone, hself⟩
        · rw [hself]
        · rw [hself, hnone]
          rfl
      · rw [hother₁ key hkey]
  · -- the sequence number has been accepted
    have hne : orig.neighList ≠ [] := by
      intro hnil
      simp [hnil] at hn
    have hacc := ogmSeqnoCheck_eq_some hne hcheck
    rw [← hstarted] at hacc
    unfold ogmSeqDiff at hacc
    have hfresh : (ev.ogm.seqno -
        (ogmLastWindow msecsToJiffies ev bat (ifKey ifOutgoing)).lastRealSeqno).toInt < 0 →
        metricReset msecsToJiffies ev orig ifOutgoing = false → False := by
      rw [← hlastwin]
      intro hold hno
      rcases hacc with ⟨-, -, hge, -⟩ | ⟨hyes, -⟩
      · exact absurd hold (not_lt.2 hge)
      · rw [hno] at hyes
        cases hyes
    have hstep : ∀ (fwd : U32) (p : Option Ogm2Packet) (w : Option OgmWindow),
        w = some ⟨ev.ogm.seqno, fwd, reset⟩ →
        (p = none ∧ (fwd = (ogmLastIfinfo msecsToJiffies ev orig
              (ifKey ifOutgoing)).lastSeqnoForwarded ∨ fwd = ev.ogm.seqno) ∨
          fwd = ev.ogm.seqno ∧ (ogmLastIfinfo msecsToJiffies ev orig
              (ifKey ifOutgoing)).lastSeqnoForwarded ≠ ev.ogm.seqno ∧
            ∀ q ∈ p, q.seqno = ev.ogm.seqno) →
        WindowStep msecsToJiffies ev (ogmLastWindow msecsToJiffies ev bat (ifKey ifOutgoing))
          (windowOf bat ev.ogm.orig (ifKey ifOutgoing)) w
          (metricReset msecsToJiffies ev orig ifOutgoing) p := by
      intro fwd p w hw hsent
      rw [← hlastwin]
      refine .accepted reset fwd hw ?_ hsent
      rcases hacc with ⟨h1, h2, h3, h4⟩ | ⟨h1, h2, h3⟩
      · exact Or.inl ⟨h1, h2, h3, h4⟩
      · exact Or.inr ⟨h1, h2, h3⟩
    by_cases hage : age₁ < 0
    · rw [if_pos hage] at h
      cases h
      refine ⟨hwin₁, ⟨orig₁, hfind₁, hneigh₁ _ hn⟩, hstep _ none _ ?_ (Or.inl ⟨rfl, Or.inl rfl⟩),
        fun hold hno => (hfresh hold hno).elim⟩
      rw [windowOf_setOrig_self, hself]
      rfl
    · rw [if_neg hage] at h
      generalize hroute : vOgmRouteUpdate ev (bat.setOrig ev.ogm.orig orig₁) ifOutgoing = upd at h
      obtain ⟨bat₂, forward⟩ := upd
      have hwin₂ := vOgmRouteUpdate_window hroute
      obtain ⟨-, orig₂, hfind₂, hneigh₂⟩ := vOgmRouteUpdate_frame hfind₁ hroute
      have hn₂ : (orig₂.neighList.get ev.neigh).isSome := by
        rw [hneigh₂]
        exact hneigh₁ _ hn
      have hwinkey : windowOf bat₂ ev.ogm.orig (ifKey ifOutgoing) = some ⟨ev.ogm.seqno,
          (ogmLastIfinfo msecsToJiffies ev orig (ifKey ifOutgoing)).lastSeqnoForwarded,
          reset⟩ := by
        rw [hwin₂, windowOf_setOrig_self, hself]
        rfl
      dsimp only at h
      cases forward
      · simp only [Bool.false_eq_true, if_false] at h
        cases h
        refine ⟨fun addr key hne => ?_, ⟨orig₂, hfind₂, hn₂⟩,
          hstep _ none _ hwinkey (Or.inl ⟨rfl, Or.inl rfl⟩),
          fun hold hno => (hfresh hold hno).elim⟩
        rw [hwin₂, hwin₁ addr key hne]
      · simp only [if_true, hfind₂] at h
        generalize hfwd : vOgmForward msecsToJiffies bat₂.config ev orig₂ ifOutgoing = upd at h
        obtain ⟨orig₃, packet₃⟩ := upd
        cases h
        rw [windowOf_eq_of_find hfind₂] at hwinkey
        obtain ⟨last₂, hlast₂, hw₂⟩ := Option.map_eq_some_iff.1 hwinkey
        obtain ⟨hother₃, hneigh₃, hfwd₃⟩ := vOgmForward_window hlast₂ hfwd
        have hreal : last₂.lastRealSeqno = ev.ogm.seqno := congrArg OgmWindow.lastRealSeqno hw₂
        have hsent : last₂.lastSeqnoForwarded = (ogmLastIfinfo msecsToJiffies ev orig
            (ifKey ifOutgoing)).lastSeqnoForwarded := congrArg OgmWindow.lastSeqnoForwarded hw₂
        have hrst : last₂.batmanSeqnoReset = reset := congrArg OgmWindow.batmanSeqnoReset hw₂
        refine ⟨fun addr key hne => ?_, ⟨orig₃, origHashFind_setOrig_self _ _ _, by rwa [hneigh₃]⟩,
          ?_, fun hold hno => (hfresh hold hno).elim⟩
        · rw [← hwin₁ addr key hne, ← hwin₂]
          by_cases haddr : addr = ev.ogm.orig
          · subst haddr
            rw [windowOf_setOrig_self, windowOf_eq_of_find hfind₂,
              hother₃ key (hne.resolve_left (not_not.2 rfl))]
          · exact windowOf_setOrig_of_ne _ _ haddr _
        · rcases hfwd₃ with ⟨hget, rfl⟩ | ⟨hget, hdiff, hseq⟩
          · refine hstep _ none _ ?_ (Or.inl ⟨rfl, Or.inl rfl⟩)
            rw [windowOf_setOrig_self, hget, Option.map_some, hw₂]
          · refine hstep ev.ogm.seqno _ _ ?_ (Or.inr ⟨rfl, hsent ▸ hdiff, hseq⟩)
            rw [windowOf_setOrig_self, hget, Option.map_some, OrigIfinfo.window, hreal, hrst]

/-- The numbers in the window a metric update works on, as they were before it. -/
lemma ogmLastWindow_memory (msecsToJiffies : ℕ → Jiffies) (ev : OgmRecv) (bat : BatPriv δ)
    (key : IfKey) :
    (⟨(ogmLastWindow msecsToJiffies ev bat key).lastRealSeqno,
      (ogmLastWindow msecsToJiffies ev bat key).lastSeqnoForwarded⟩ : SerialWindow.Memory 32) =
      memoryOf bat ev.ogm.orig key := by
  unfold ogmLastWindow memoryOf
  cases windowOf bat ev.ogm.orig key <;> rfl

variable [Inhabited δ]

/-- **What an event does to a window**: nothing, and nothing is sent on for it, or an OGM of its
originator is processed for its interface. -/
lemma outifStep_cases (msecsToJiffies : ℕ → Jiffies) {bat : BatPriv δ} {e : OutifEvent δ}
    (hguard : OutifGuard bat e) (addr : EthAddr) (key : IfKey) :
    (e.concerns addr key = false ∧
        windowOf (outifNext msecsToJiffies bat e) addr key = windowOf bat addr key) ∨
      ∃ ev ifOutgoing, e = .process ev ifOutgoing ∧ ev.ogm.orig = addr ∧ ifKey ifOutgoing = key ∧
        WindowStep msecsToJiffies ev (ogmLastWindow msecsToJiffies ev bat key)
          (windowOf bat addr key) (windowOf (outifNext msecsToJiffies bat e) addr key)
          (resetsWindow msecsToJiffies addr key bat e) (outifStep msecsToJiffies bat e).2 := by
  cases e with
  | other bat' => exact Or.inl ⟨rfl, hguard addr key⟩
  | process ev ifOutgoing =>
    obtain ⟨orig, hfind, hn⟩ := hguard
    generalize hone : vOgmProcessPerOutif msecsToJiffies ev bat ifOutgoing = one
    obtain ⟨bat', age, packet⟩ := one
    obtain ⟨hother, -, hstep, -⟩ := vOgmProcessPerOutif_window hfind hn hone
    have hnext : outifStep msecsToJiffies bat (.process ev ifOutgoing) = (bat', packet) := by
      simp only [outifStep, hone]
    by_cases hc : ev.ogm.orig = addr ∧ ifKey ifOutgoing = key
    · obtain ⟨rfl, rfl⟩ := hc
      refine Or.inr ⟨ev, ifOutgoing, rfl, rfl, rfl, ?_⟩
      have hreset : resetsWindow msecsToJiffies ev.ogm.orig (ifKey ifOutgoing) bat
          (.process ev ifOutgoing) = metricReset msecsToJiffies ev orig ifOutgoing := by
        simp [resetsWindow, OutifEvent.concerns, protectionReset, hfind]
      rw [hreset, outifNext, hnext]
      exact hstep
    · refine Or.inl ⟨decide_eq_false hc, ?_⟩
      rw [outifNext, hnext]
      refine hother addr key ?_
      by_cases haddr : addr = ev.ogm.orig
      · exact Or.inr fun hkey => hc ⟨haddr.symm, hkey.symm⟩
      · exact Or.inl haddr

/-- Every event is a step of the relay that sends each newest number on once. -/
lemma memoryOf_step {bat : BatPriv δ} {e : OutifEvent δ} (hguard : OutifGuard bat e)
    (addr : EthAddr) (key : IfKey) :
    SerialWindow.Step (memoryOf bat addr key)
      (memoryOf (outifNext msecsToJiffies bat e) addr key)
      (queuedSeqno msecsToJiffies addr key bat e) := by
  rcases outifStep_cases msecsToJiffies hguard addr key with
    ⟨hno, hsame⟩ | ⟨ev, ifOutgoing, rfl, rfl, rfl, hstep⟩
  · simp only [queuedSeqno, hno, Bool.false_eq_true, if_false, memoryOf, hsame]
    exact Or.inl rfl
  · have hqueued : queuedSeqno msecsToJiffies ev.ogm.orig (ifKey ifOutgoing) bat
        (.process ev ifOutgoing) =
          (outifStep msecsToJiffies bat (.process ev ifOutgoing)).2.map Ogm2Packet.seqno := by
      simp [queuedSeqno, OutifEvent.concerns]
    have hmem := ogmLastWindow_memory msecsToJiffies ev bat (ifKey ifOutgoing)
    rw [hqueued, ← hmem]
    cases hstep with
    | rejected hreset hpacket hafter =>
      rw [hpacket]
      refine Or.inl ?_
      rw [hmem]
      unfold memoryOf
      rcases hafter with hafter | ⟨hbefore, hafter⟩
      · rw [hafter]
      · rw [hafter, ogmLastWindow, hbefore]
        rfl
    | accepted reset fwd hafter hcheck hsent =>
      have hmem' : memoryOf (outifNext msecsToJiffies bat (.process ev ifOutgoing)) ev.ogm.orig
          (ifKey ifOutgoing) = ⟨ev.ogm.seqno, fwd⟩ := by
        unfold memoryOf
        rw [hafter]
      rw [hmem']
      rcases hsent with ⟨hpacket, hfwd⟩ | ⟨hfwd, hne, hseq⟩
      · rw [hpacket]
        exact hfwd
      · cases hp : (outifStep msecsToJiffies bat (.process ev ifOutgoing)).2 with
        | none => exact Or.inr hfwd
        | some p =>
          rw [Option.map_some, hseq p (by rw [hp]; rfl)]
          exact ⟨rfl, hne, hfwd⟩

/-- An event moves `last_real_seqno` forward by at most 65535, or makes the window start anew. -/
lemma advancesOrResets {bat : BatPriv δ} {e : OutifEvent δ} (hguard : OutifGuard bat e)
    (addr : EthAddr) (key : IfKey) : AdvancesOrResets msecsToJiffies addr key bat e := by
  intro hreset
  unfold lastRealSeqnoOf
  have hsame : ∀ {m m' : SerialWindow.Memory 32}, m' = m →
      (m'.newest - m.newest).toNat ≤ 65535 := by
    rintro m m' rfl
    rw [BitVec.sub_self]
    decide
  rcases outifStep_cases msecsToJiffies hguard addr key with
    ⟨-, hkeep⟩ | ⟨ev, ifOutgoing, rfl, rfl, rfl, hstep⟩
  · exact hsame (by rw [memoryOf, memoryOf, hkeep])
  · have hmem := ogmLastWindow_memory msecsToJiffies ev bat (ifKey ifOutgoing)
    rw [hreset] at hstep
    cases hstep with
    | rejected hno hpacket hafter =>
      refine hsame ?_
      rcases hafter with hafter | ⟨hbefore, hafter⟩
      · rw [memoryOf, memoryOf, hafter]
      · rw [← hmem, memoryOf, hafter]
    | accepted reset fwd hafter hcheck hsent =>
      obtain ⟨-, -, hge, hlt⟩ := hcheck.resolve_right (by simp)
      rw [← hmem, memoryOf, hafter]
      dsimp only
      rw [BitVec.toInt_eq_toNat_cond] at hge hlt
      split_ifs at hge hlt <;> omega

/-- An OGM that is older than the window changes no cost and no route. -/
lemma olderIgnored {bat : BatPriv δ} {e : OutifEvent δ} (hguard : OutifGuard bat e) :
    OlderIgnored msecsToJiffies bat e := by
  cases e with
  | other bat' => trivial
  | process ev ifOutgoing =>
    obtain ⟨orig, hfind, hn⟩ := hguard
    generalize hone : vOgmProcessPerOutif msecsToJiffies ev bat ifOutgoing = one
    obtain ⟨bat', age, packet⟩ := one
    obtain ⟨-, -, -, hold⟩ := vOgmProcessPerOutif_window hfind hn hone
    have hnext : outifNext msecsToJiffies bat (.process ev ifOutgoing) = bat' := by
      simp only [outifNext, outifStep, hone]
    have hmem := ogmLastWindow_memory msecsToJiffies ev bat (ifKey ifOutgoing)
    have hreset : protectionReset msecsToJiffies bat (.process ev ifOutgoing) =
        metricReset msecsToJiffies ev orig ifOutgoing := by
      simp only [protectionReset, hfind, Option.any_some]
    simp only [OlderIgnored, hnext, hreset, lastRealSeqnoOf, ← hmem]
    exact hold

/-! ### Runs -/

/-- A time that the protection has timed out for lies more than its length ahead. -/
lemma lt_of_hasTimedOut {jiffies timestamp : Jiffies} {timeout : ℕ}
    (hmsecs : (msecsToJiffies timeout).toNat < 2 ^ 63)
    (h : hasTimedOut msecsToJiffies jiffies timestamp timeout = true) :
    (msecsToJiffies timeout).toNat < (jiffies - timestamp).toNat := by
  rw [hasTimedOut, decide_eq_true_iff, BitVec.toInt_eq_toNat_cond] at h
  have h1 := jiffies.isLt
  have h2 := timestamp.isLt
  rw [BitVec.toNat_sub, BitVec.toNat_add] at h
  rw [BitVec.toNat_sub]
  split_ifs at h <;> omega

/-- An event keeps the time of the last reset, or it is a reset, long enough after the last one, if
there was one. -/
lemma resetTime_step (hmsecs : (msecsToJiffies RESET_PROTECTION_MS).toNat < 2 ^ 63)
    {bat : BatPriv δ} {e : OutifEvent δ} (hguard : OutifGuard bat e) (addr : EthAddr)
    (key : IfKey) :
    (resetsWindow msecsToJiffies addr key bat e = false ∧
        (windowOf bat addr key = none ∨
          (windowOf (outifNext msecsToJiffies bat e) addr key).map OgmWindow.batmanSeqnoReset =
            (windowOf bat addr key).map OgmWindow.batmanSeqnoReset)) ∨
      ∃ jiffies, resetsWindow msecsToJiffies addr key bat e = true ∧ e.jiffies = some jiffies ∧
        (windowOf (outifNext msecsToJiffies bat e) addr key).map OgmWindow.batmanSeqnoReset =
          some jiffies ∧
        ∀ window ∈ windowOf bat addr key,
          (msecsToJiffies RESET_PROTECTION_MS).toNat <
            (jiffies - window.batmanSeqnoReset).toNat := by
  rcases outifStep_cases msecsToJiffies hguard addr key with
    ⟨hno, hkeep⟩ | ⟨ev, ifOutgoing, rfl, rfl, rfl, hstep⟩
  · exact Or.inl ⟨by rw [resetsWindow, hno, Bool.false_and], Or.inr (by rw [hkeep])⟩
  · cases hstep with
    | rejected hno hpacket hafter =>
      refine Or.inl ⟨hno, ?_⟩
      rcases hafter with hafter | ⟨hbefore, -⟩
      · exact Or.inr (by rw [hafter])
      · exact Or.inl hbefore
    | accepted reset fwd hafter hcheck hsent =>
      rcases hcheck with ⟨hno, hreset, -⟩ | ⟨hyes, hreset, hout⟩
      · refine Or.inl ⟨hno, ?_⟩
        cases hw : windowOf bat ev.ogm.orig (ifKey ifOutgoing) with
        | none => exact Or.inl rfl
        | some window =>
          rw [ogmLastWindow, hw, Option.getD_some] at hreset
          exact Or.inr (by rw [hafter, Option.map_some, Option.map_some, hreset])
      · refine Or.inr ⟨ev.jiffies, hyes, rfl, by rw [hafter, hreset]; rfl, fun window hw => ?_⟩
        rw [ogmLastWindow, Option.mem_def.1 hw, Option.getD_some] at hout
        exact lt_of_hasTimedOut hmsecs hout

/-- **The reset times of a run lie apart**, and apart from the last one before it.

**Proof sketch.** Induction on the events, with the state general: the time of the last reset is
carried along in the window. -/
lemma resetTimes_isChain (hmsecs : (msecsToJiffies RESET_PROTECTION_MS).toNat < 2 ^ 63)
    (addr : EthAddr) (key : IfKey) {bat : BatPriv δ} {es : List (OutifEvent δ)}
    (hguard : Run.AllSteps (outifNext msecsToJiffies) OutifGuard bat es) :
    (((windowOf bat addr key).map OgmWindow.batmanSeqnoReset).toList ++
      resetTimes msecsToJiffies addr key bat es).IsChain
        fun j j' => (msecsToJiffies RESET_PROTECTION_MS).toNat < (j' - j).toNat := by
  induction es generalizing bat with
  | nil => cases windowOf bat addr key <;> simp [resetTimes]
  | cons e es ih =>
    obtain ⟨he, hes⟩ := hguard
    have hchain := ih hes
    rcases resetTime_step hmsecs he addr key with
      ⟨hno, hsame⟩ | ⟨jiffies, hyes, htime, hafter, hapart⟩
    · rw [resetTimes, hno]
      rcases hsame with hnone | hsame
      · rw [hnone]
        exact hchain.right_of_append
      · rw [← hsame]
        exact hchain
    · rw [hafter] at hchain
      rw [resetTimes, hyes, htime]
      cases hw : windowOf bat addr key with
      | none => exact hchain
      | some window => exact List.isChain_cons_cons.2 ⟨hapart window hw, hchain⟩

/-- The steps of a run, as those of the relay. -/
def memoryPath (msecsToJiffies : ℕ → Jiffies) (addr : EthAddr) (key : IfKey) :
    BatPriv δ → List (OutifEvent δ) → List (SerialWindow.Memory 32 × Option U32)
  | _, [] => []
  | bat, e :: es =>
    (memoryOf (outifNext msecsToJiffies bat e) addr key,
        queuedSeqno msecsToJiffies addr key bat e) ::
      memoryPath msecsToJiffies addr key (outifNext msecsToJiffies bat e) es

/-- **A run is one of the relay** that sends each newest number on once; what is sent and how far
the newest number travels are the same. -/
lemma memoryPath_path (addr : EthAddr) (key : IfKey) {bat : BatPriv δ}
    {es : List (OutifEvent δ)}
    (hguard : Run.AllSteps (outifNext msecsToJiffies) OutifGuard bat es) :
    SerialWindow.Path (memoryOf bat addr key) (memoryPath msecsToJiffies addr key bat es) ∧
      SerialWindow.sentOn (memoryPath msecsToJiffies addr key bat es) =
        queuedSeqnos msecsToJiffies addr key bat es ∧
      SerialWindow.travelled (memoryOf bat addr key)
        (memoryPath msecsToJiffies addr key bat es) =
          seqnoTravelled msecsToJiffies addr key bat es := by
  induction es generalizing bat with
  | nil => exact ⟨trivial, rfl, rfl⟩
  | cons e es ih =>
    obtain ⟨he, hes⟩ := hguard
    obtain ⟨hpath, hsent, htravel⟩ := ih hes
    refine ⟨⟨memoryOf_step he addr key, hpath⟩, ?_, ?_⟩
    · rw [queuedSeqnos, ← hsent, SerialWindow.sentOn, memoryPath, List.filterMap_cons]
      cases queuedSeqno msecsToJiffies addr key bat e <;> rfl
    · rw [seqnoTravelled, ← htravel]
      rfl

/-- **The sequence window and single forwarding.**  In every run, for every originator and outgoing
interface: `last_real_seqno` is moved forward by at most 65535 or the window starts anew; two such
times are further apart than the protection lasts; an OGM that is older changes no cost and no
route; and in every stretch of the run after whose first event `last_real_seqno` does not come
round, as between two resets, no sequence number is sent on twice.

**Proof sketch.** The first three are properties of single steps, the times of the resets being
carried along in the window.  For the last one, each step is one of a relay that sends on the newest
number it has accepted unless it was sent on last; the numbers it sends lie at increasing
positions. -/
theorem ogm_window_single_forwarding
    (hmsecs : (msecsToJiffies RESET_PROTECTION_MS).toNat < 2 ^ 63) (bat : BatPriv δ)
    (es : List (OutifEvent δ))
    (hguard : Run.AllSteps (outifNext msecsToJiffies) OutifGuard bat es) (addr : EthAddr)
    (key : IfKey) :
    Run.AllSteps (outifNext msecsToJiffies) (AdvancesOrResets msecsToJiffies addr key) bat es ∧
      (resetTimes msecsToJiffies addr key bat es).IsChain
        (fun j j' => (msecsToJiffies RESET_PROTECTION_MS).toNat < (j' - j).toNat) ∧
      Run.AllSteps (outifNext msecsToJiffies) (OlderIgnored msecsToJiffies) bat es ∧
      ∀ before first stretch after, es = before ++ first :: stretch ++ after →
        seqnoTravelled msecsToJiffies addr key
            (Run.final (outifNext msecsToJiffies) bat (before ++ [first])) stretch < 2 ^ 32 →
        (queuedSeqnos msecsToJiffies addr key (Run.final (outifNext msecsToJiffies) bat before)
          (first :: stretch)).Nodup := by
  refine ⟨?_, ?_, ?_, fun before first stretch after hes hturn => ?_⟩
  · exact Run.AllSteps.imp (fun _ => True)
      (fun _ _ _ hg => ⟨advancesOrResets hg addr key, trivial⟩) trivial hguard
  · exact (resetTimes_isChain hmsecs addr key hguard).right_of_append
  · exact Run.AllSteps.imp (fun _ => True)
      (fun _ _ _ hg => ⟨olderIgnored hg, trivial⟩) trivial hguard
  · rw [hes, Run.allSteps_append, Run.allSteps_append] at hguard
    obtain ⟨hpath, hsent, -⟩ := memoryPath_path addr key hguard.1.2
    obtain ⟨-, -, htravel⟩ := memoryPath_path addr key hguard.1.2.2
    rw [← hsent]
    refine SerialWindow.Path.sent_nodup hpath ?_
    rw [htravel]
    rw [Run.final_append] at hturn
    exact hturn

/-! ### The processing of an OGM as a run -/

/-- The events that the processing of an OGM consists of: whatever comes before the metric update,
the TVLV handlers included, and then one event for each outgoing interface. -/
def outifEvents (msecsToJiffies : ℕ → Jiffies) (bat : BatPriv δ) (ev : OgmRecv) :
    List (OutifEvent δ) :=
  match vOgmAccept ev bat with
  | none => [.other (vOgmRejectState ev bat)]
  | some (bat, orig, hardifNeigh) =>
    let bat := ogmTvlvState ev bat orig
    let outs := ogmOutIfaces (vOgmProcessPerOutif msecsToJiffies ev bat none).1 ev hardifNeigh
    .other bat :: .process ev none :: outs.map fun out => .process ev (some out)

/-- An OGM that is dropped leaves the windows alone. -/
lemma vOgmRejectState_window (ev : OgmRecv) (bat : BatPriv δ) (addr : EthAddr) (key : IfKey) :
    windowOf (vOgmRejectState ev bat) addr key = windowOf bat addr key := by
  unfold vOgmRejectState
  split_ifs
  · rfl
  · rfl
  · split
    · rfl
    · split
      · rfl
      · next hget => exact vOgmOrigGet_window hget addr key

/-- What comes before the metric update leaves the windows alone, and puts the neighbour into the
list. -/
lemma ogmTvlvState_window {bat bat' : BatPriv δ} {orig : OrigNode δ}
    {hardifNeigh : HardifNeighNode} (h : vOgmAccept ev bat = some (bat', orig, hardifNeigh)) :
    (∀ addr key, windowOf (ogmTvlvState ev bat' orig) addr key = windowOf bat addr key) ∧
      ∃ orig', origHashFind (ogmTvlvState ev bat' orig) ev.ogm.orig = some orig' ∧
        (orig'.neighList.get ev.neigh).isSome := by
  unfold vOgmAccept at h
  split_ifs at h
  split at h
  · cases h
  · split at h
    · cases h
    · next bat₁ orig₁ hget =>
      split at h
      · cases h
      · next orig₂ hneigh =>
        cases h
        obtain ⟨⟨n, hn⟩, -, hifinfo, -⟩ := neighNodeGetOrCreate_eq_some hneigh
        have hfind := (vOgmOrigGet_eq_some hget).2.1
        refine ⟨fun addr key => ?_, _, origHashFind_setOrig_self _ _ _, by simp [hn]⟩
        rw [← vOgmOrigGet_window hget addr key]
        refine windowOf_setOrig_same bat' (fun key => ?_) addr key
        rw [windowOf_eq_of_find hfind]
        dsimp only
        rw [hifinfo]

/-- The loop over the outgoing interfaces is a run. -/
lemma vOgmProcessIfaces_run (msecsToJiffies : ℕ → Jiffies) (index : ℕ) {bat : BatPriv δ}
    (outs : List HardIface) (hknown : ∃ orig, origHashFind bat ev.ogm.orig = some orig ∧
      (orig.neighList.get ev.neigh).isSome) :
    Run.AllSteps (outifNext msecsToJiffies) OutifGuard bat
        (outs.map fun out => .process ev (some out)) ∧
      Run.final (outifNext msecsToJiffies) bat (outs.map fun out => .process ev (some out)) =
        (vOgmProcessIfaces msecsToJiffies ev bat outs).1 ∧
      queuedSeqnos msecsToJiffies ev.ogm.orig (some index) bat
          (outs.map fun out => .process ev (some out)) =
        ((vOgmProcessIfaces msecsToJiffies ev bat outs).2.filter (·.1 == index)).map
          (·.2.seqno) := by
  induction outs generalizing bat with
  | nil => exact ⟨trivial, rfl, rfl⟩
  | cons out outs ih =>
    obtain ⟨orig, hfind, hn⟩ := hknown
    generalize hone : vOgmProcessPerOutif msecsToJiffies ev bat (some out) = one
    obtain ⟨bat₁, age, packet⟩ := one
    have hknown₁ := (vOgmProcessPerOutif_window hfind hn hone).2.1
    have hnext : outifNext msecsToJiffies bat (.process ev (some out)) = bat₁ := by
      simp only [outifNext, outifStep, hone]
    obtain ⟨hguard, hfinal, hqueued⟩ := ih hknown₁
    rw [List.map_cons]
    refine ⟨⟨⟨orig, hfind, hn⟩, by rwa [hnext]⟩, ?_, ?_⟩
    · rw [Run.final_cons, hnext, hfinal]
      simp only [vOgmProcessIfaces, hone]
    · rw [queuedSeqnos, hnext, hqueued]
      simp only [vOgmProcessIfaces, hone, List.filter_append, List.map_append]
      congr 1
      simp only [queuedSeqno, OutifEvent.concerns, ifKey, outifStep, hone]
      cases packet with
      | none => simp
      | some p => by_cases h : out.ifindex = index <;> simp [h]

/-- **The processing of an OGM is a run**: it meets the guard, ends in the same state, and sends on
the same sequence numbers. -/
theorem vOgmProcess_eq_final (msecsToJiffies : ℕ → Jiffies) (bat : BatPriv δ) (ev : OgmRecv)
    (index : ℕ) :
    Run.AllSteps (outifNext msecsToJiffies) OutifGuard bat (outifEvents msecsToJiffies bat ev) ∧
      Run.final (outifNext msecsToJiffies) bat (outifEvents msecsToJiffies bat ev) =
        (vOgmProcess msecsToJiffies bat ev).1 ∧
      queuedSeqnos msecsToJiffies ev.ogm.orig (some index) bat
          (outifEvents msecsToJiffies bat ev) =
        ((vOgmProcess msecsToJiffies bat ev).2.forwarded.filter (·.1 == index)).map
          (·.2.seqno) := by
  unfold outifEvents vOgmProcess
  cases hacc : vOgmAccept ev bat with
  | none =>
    exact ⟨⟨fun addr key => vOgmRejectState_window ev bat addr key, trivial⟩, rfl, rfl⟩
  | some r =>
    obtain ⟨bat₁, orig, hardifNeigh⟩ := r
    obtain ⟨hwin, orig₁, hfind, hn⟩ := ogmTvlvState_window hacc
    generalize hone : vOgmProcessPerOutif msecsToJiffies ev (ogmTvlvState ev bat₁ orig) none = one
    obtain ⟨bat₂, age, packet⟩ := one
    have hknown := (vOgmProcessPerOutif_window hfind hn hone).2.1
    have hnext : outifNext msecsToJiffies (ogmTvlvState ev bat₁ orig) (.process ev none) =
        bat₂ := by simp only [outifNext, outifStep, hone]
    obtain ⟨hguard, hfinal, hqueued⟩ := vOgmProcessIfaces_run msecsToJiffies index
      (ogmOutIfaces bat₂ ev hardifNeigh) hknown
    have hother : outifNext msecsToJiffies bat (.other (ogmTvlvState ev bat₁ orig)) =
        ogmTvlvState ev bat₁ orig := rfl
    simp only [hone, Run.allSteps_cons, Run.final_cons, queuedSeqnos, hother, hnext]
    refine ⟨⟨hwin, ⟨orig₁, hfind, hn⟩, hguard⟩, hfinal, ?_⟩
    rw [hqueued]
    simp [queuedSeqno, OutifEvent.concerns]

/-- OGMs that are processed one after the other. -/
def outifEventsOf (msecsToJiffies : ℕ → Jiffies) : BatPriv δ → List OgmRecv → List (OutifEvent δ)
  | _, [] => []
  | bat, ev :: evs =>
    outifEvents msecsToJiffies bat ev ++
      outifEventsOf msecsToJiffies (vOgmProcess msecsToJiffies bat ev).1 evs

/-- They are a run, too. -/
lemma outifEventsOf_guard (msecsToJiffies : ℕ → Jiffies) (bat : BatPriv δ) (evs : List OgmRecv) :
    Run.AllSteps (outifNext msecsToJiffies) OutifGuard bat
      (outifEventsOf msecsToJiffies bat evs) := by
  induction evs generalizing bat with
  | nil => exact trivial
  | cons ev evs ih =>
    obtain ⟨hguard, hfinal, -⟩ := vOgmProcess_eq_final msecsToJiffies bat ev 0
    rw [outifEventsOf, Run.allSteps_append, hfinal]
    exact ⟨hguard, ih _⟩

/-- An OGM that comes in twice, the next one, and the first one for a third time. -/
def relayRecvs : List OgmRecv :=
  [relayRecv 1000 10, relayRecv 1000 10,
    { relayRecv 1000 10 with ogm := ⟨50, 2, 0x02000000000A, 1000, []⟩ }, relayRecv 1000 10]

/-- The run that their processing by a relay is. -/
def relayOgmRun : List (OutifEvent Unit) :=
  outifEventsOf (BitVec.ofNat 64) (relayNode meshConfigInit 10) relayRecvs

lemma relayOgmRun_ne_nil : relayOgmRun ≠ [] := by decide

/-- The relay sends on each of them once: the theorem applies to the whole run. -/
theorem ogm_window_single_forwarding_relay :
    Run.AllSteps (outifNext (BitVec.ofNat 64))
        (AdvancesOrResets (BitVec.ofNat 64) 0x02000000000A (some 2)) (relayNode meshConfigInit 10)
        relayOgmRun ∧
      queuedSeqnos (BitVec.ofNat 64) 0x02000000000A (some 2) (relayNode meshConfigInit 10)
        relayOgmRun = [1, 2] ∧
      (queuedSeqnos (BitVec.ofNat 64) 0x02000000000A (some 2) (relayNode meshConfigInit 10)
        relayOgmRun).Nodup := by
  obtain ⟨hadvances, -, -, hnodup⟩ := ogm_window_single_forwarding (by decide)
    (relayNode meshConfigInit 10) relayOgmRun (outifEventsOf_guard _ _ relayRecvs) 0x02000000000A
    (some 2)
  have hcons : relayOgmRun =
      [] ++ relayOgmRun.head relayOgmRun_ne_nil :: relayOgmRun.tail ++ [] := by simp
  have hstretch := hnodup [] (relayOgmRun.head relayOgmRun_ne_nil) relayOgmRun.tail [] hcons
    (by decide)
  rw [List.cons_head_tail] at hstretch
  exact ⟨hadvances, by decide, hstretch⟩

end Batadv
