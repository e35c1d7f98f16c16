import BatmanAdv.Lib.RingBuffer
import BatmanAdv.Main

set_option relaxedAutoImplicit false
set_option autoImplicit false

/-!
# The list of recent broadcasts (`bridge_loop_avoidance.c`)

A backbone gateway remembers the checksums of the last broadcasts it let pass, with the originator
they came from.  A frame with the checksum of a recent one is a duplicate, which another gateway
put into the mesh, unless both came from the same originator.  The list is a ring that is filled
downwards; a check looks through it from the newest entry, and stops at the first one that is too
old.

The width of `jiffies` is a parameter.

## Main definitions

* `Batadv.BcastDuplist`, `Batadv.blaInitDuplist` — the list, and what `batadv_bla_init` makes of it.
* `Batadv.blaCheckDuplist` — `batadv_bla_check_duplist`.
* `Batadv.DuplistCall`, `Batadv.duplistRun` — calls at given times, and which of them were
  recorded.
* `Batadv.DuplicateOf` — when a recorded call makes another one a duplicate.

## Main results

* `Batadv.jiffiesTimedOut_iff` — what the timeout means as long as the times are close.
* `Batadv.duplist_exact` — a call returns true if and only if it duplicates one of the last calls
  that were recorded.
-/

namespace Batadv

variable {w : ℕ}

/-- `BATADV_DUPLIST_SIZE`. -/
def DUPLIST_SIZE : ℕ := 16

/-- `BATADV_DUPLIST_TIMEOUT`, in milliseconds. -/
def DUPLIST_TIMEOUT : ℕ := 500

instance : NeZero DUPLIST_SIZE := ⟨by decide⟩

/-- `struct batadv_bcast_duplist_entry`. -/
structure BcastDuplistEntry (w : ℕ) where
  orig : EthAddr
  crc : U32
  entrytime : BitVec w
deriving DecidableEq, Repr

/-- `bcast_duplist` and `bcast_duplist_curr` of `struct batadv_priv_bla`. -/
abbrev BcastDuplist (w : ℕ) := RingBuffer (BcastDuplistEntry w) DUPLIST_SIZE

/-- `batadv_has_timed_out`, for `jiffies` of any width. -/
def jiffiesTimedOut (msecsToJiffies : ℕ → BitVec w) (jiffies timestamp : BitVec w)
    (timeout : ℕ) : Bool :=
  decide ((timestamp + msecsToJiffies timeout - jiffies).toInt < 0)

/-- On a machine with words of 64 bits it is the function of the other modules. -/
lemma jiffiesTimedOut_eq_hasTimedOut : @jiffiesTimedOut 64 = hasTimedOut := rfl

/-- The part of `batadv_bla_init` that sets up the list, in whatever was in the memory. -/
def blaInitDuplist (msecsToJiffies : ℕ → BitVec w) (jiffies : BitVec w)
    (memory : Fin DUPLIST_SIZE → BcastDuplistEntry w) : BcastDuplist w where
  slots i := { memory i with entrytime := jiffies - msecsToJiffies DUPLIST_TIMEOUT }
  head := 0

/-- The originators of a frame and an entry are both known and not anonymous, and they are the
same. -/
def sameKnownOrig (orig : Option EthAddr) (entryOrig : EthAddr) : Bool :=
  orig.any fun orig => orig ≠ 0 && entryOrig ≠ 0 && entryOrig == orig

/-- The loop of `batadv_bla_check_duplist` over the places behind `bcast_duplist_curr`. -/
def duplistLoop (msecsToJiffies : ℕ → BitVec w) (jiffies : BitVec w) (bla : BcastDuplist w)
    (crc : U32) (orig : Option EthAddr) : List ℕ → Bool
  | [] => false
  | i :: is =>
    let entry := bla.slot i
    if jiffiesTimedOut msecsToJiffies jiffies entry.entrytime DUPLIST_TIMEOUT then false
    else if entry.crc ≠ crc then duplistLoop msecsToJiffies jiffies bla crc orig is
    else if sameKnownOrig orig entry.orig then
      duplistLoop msecsToJiffies jiffies bla crc orig is
    else true

/-- `batadv_bla_check_duplist` for a frame with the checksum `crc`; the originator is `none` if it
is not known. -/
def blaCheckDuplist (msecsToJiffies : ℕ → BitVec w) (jiffies : BitVec w) (bla : BcastDuplist w)
    (crc : U32) (orig : Option EthAddr) : Bool × BcastDuplist w :=
  if duplistLoop msecsToJiffies jiffies bla crc orig (List.range DUPLIST_SIZE) then (true, bla)
  else (false, bla.push ⟨orig.getD 0, crc, jiffies⟩)

/-! ### Calls at given times -/

/-- A call: the jiffies since the machine was started, which do not wrap, the checksum of the frame
and its originator. -/
structure DuplistCall where
  time : ℕ
  crc : U32
  orig : Option EthAddr
deriving DecidableEq, Repr

/-- The check of a call. -/
def DuplistCall.check (msecsToJiffies : ℕ → BitVec w) (bla : BcastDuplist w)
    (call : DuplistCall) : Bool × BcastDuplist w :=
  blaCheckDuplist msecsToJiffies (BitVec.ofNat w call.time) bla call.crc call.orig

/-- One call: the list after it, and the calls that were recorded, the last one first.  A call is
recorded when it returns false. -/
def duplistStep (msecsToJiffies : ℕ → BitVec w) (s : BcastDuplist w × List DuplistCall)
    (call : DuplistCall) : BcastDuplist w × List DuplistCall :=
  let res := call.check msecsToJiffies s.1
  (res.2, if res.1 then s.2 else call :: s.2)

/-- The list after some calls, and which of them were recorded. -/
def duplistRun (msecsToJiffies : ℕ → BitVec w) (bla : BcastDuplist w)
    (calls : List DuplistCall) : BcastDuplist w × List DuplistCall :=
  calls.foldl (duplistStep msecsToJiffies) (bla, [])

/-- The originator of a call is known: there is one, and it is not zero. -/
def DuplistCall.Known (call : DuplistCall) : Prop := ∃ orig, call.orig = some orig ∧ orig ≠ 0

/-- A recorded call makes another one a duplicate: it is not older than the timeout, it has the
same checksum, and it does not have the same, known originator. -/
def DuplicateOf (timeout : ℕ) (call recorded : DuplistCall) : Prop :=
  call.time ≤ recorded.time + timeout ∧ recorded.crc = call.crc ∧
    ¬ (call.Known ∧ recorded.Known ∧ recorded.orig = call.orig)

/-! ### The timeout -/

/-- The signed difference of two words is that of the numbers if these are close. -/
lemma toInt_ofNat_sub_ofNat {a b : ℕ} (h : 2 * b < 2 * a + 2 ^ w) (h' : 2 * a < 2 * b + 2 ^ w) :
    (BitVec.ofNat w a - BitVec.ofNat w b).toInt = (a : ℤ) - b := by
  have hofInt : BitVec.ofNat w a - BitVec.ofNat w b = BitVec.ofInt w ((a : ℤ) - b) := by
    rw [← BitVec.ofInt_natCast, ← BitVec.ofInt_natCast, sub_eq_add_neg, sub_eq_add_neg,
      ← BitVec.ofInt_neg, ← BitVec.ofInt_add]
  rw [hofInt, BitVec.toInt_ofInt]
  have h2 : ((2 ^ w : ℕ) : ℤ) = 2 ^ w := by push_cast; rfl
  refine Int.bmod_eq_of_le ?_ ?_ <;> omega

/-- **The timeout**, of an entry recorded at the time `t`, at a later time that is close. -/
theorem jiffiesTimedOut_iff {msecsToJiffies : ℕ → BitVec w} {timeout : ℕ}
    (hmsecs : 2 * (msecsToJiffies timeout).toNat < 2 ^ w) {t now : ℕ} (ht : t ≤ now)
    (hnow : 2 * (now - t) < 2 ^ w) :
    jiffiesTimedOut msecsToJiffies (BitVec.ofNat w now) (BitVec.ofNat w t) timeout = true ↔
      t + (msecsToJiffies timeout).toNat < now := by
  have hsum : BitVec.ofNat w t + msecsToJiffies timeout =
      BitVec.ofNat w (t + (msecsToJiffies timeout).toNat) := by
    rw [BitVec.ofNat_add, BitVec.ofNat_toNat, BitVec.setWidth_eq]
  rw [jiffiesTimedOut, decide_eq_true_iff, hsum, toInt_ofNat_sub_ofNat (by omega) (by omega)]
  omega

/-- The entries that `batadv_bla_init` leaves have timed out, from the next jiffy on. -/
lemma jiffiesTimedOut_init (msecsToJiffies : ℕ → BitVec w) {start now : ℕ} (hstart : start < now)
    (hnow : 2 * (now - start) < 2 ^ w) :
    jiffiesTimedOut msecsToJiffies (BitVec.ofNat w now)
      (BitVec.ofNat w start - msecsToJiffies DUPLIST_TIMEOUT) DUPLIST_TIMEOUT = true := by
  rw [jiffiesTimedOut, decide_eq_true_iff, BitVec.sub_add_cancel,
    toInt_ofNat_sub_ofNat (by omega) (by omega)]
  omega

/-! ### The list -/

/-- What a recorded call leaves in the list. -/
def DuplistCall.entry (call : DuplistCall) : BcastDuplistEntry w :=
  ⟨call.orig.getD 0, call.crc, BitVec.ofNat w call.time⟩

/-- An entry has the checksum of a call, and not the same, known originator. -/
def DuplistCall.hits (call : DuplistCall) (entry : BcastDuplistEntry w) : Bool :=
  entry.crc == call.crc && !sameKnownOrig call.orig entry.orig

/-- The loop is a scan of the list. -/
lemma duplistLoop_eq (msecsToJiffies : ℕ → BitVec w) (bla : BcastDuplist w) (call : DuplistCall)
    (is : List ℕ) :
    duplistLoop msecsToJiffies (BitVec.ofNat w call.time) bla call.crc call.orig is =
      RingBuffer.scan
        (fun entry => jiffiesTimedOut msecsToJiffies (BitVec.ofNat w call.time) entry.entrytime
          DUPLIST_TIMEOUT)
        call.hits (is.map bla.slot) := by
  induction is with
  | nil => rfl
  | cons i is ih =>
    rw [duplistLoop, List.map_cons, RingBuffer.scan, ih]
    refine if_congr Iff.rfl rfl ?_
    by_cases hcrc : (bla.slot i).crc = call.crc
    · rw [if_neg (not_not.2 hcrc)]
      by_cases horig : sameKnownOrig call.orig (bla.slot i).orig = true
      · simp [DuplistCall.hits, horig]
      · simp [DuplistCall.hits, horig, hcrc]
    · simp [DuplistCall.hits, hcrc]

/-- Both originators are known and the same, of an entry that a call left. -/
lemma sameKnownOrig_iff (call recorded : DuplistCall) :
    sameKnownOrig call.orig (recorded.orig.getD 0) = true ↔
      call.Known ∧ recorded.Known ∧ recorded.orig = call.orig := by
  unfold sameKnownOrig DuplistCall.Known
  cases call.orig with
  | none => simp
  | some orig =>
    cases recorded.orig with
    | none => simp
    | some orig' => simp [and_assoc]

/-- A recorded call's entry is hit when the call makes another one a duplicate, its age apart. -/
lemma hits_entry_iff (call recorded : DuplistCall) :
    call.hits (recorded.entry (w := w)) = true ↔
      recorded.crc = call.crc ∧ ¬ (call.Known ∧ recorded.Known ∧ recorded.orig = call.orig) := by
  rw [← sameKnownOrig_iff]
  simp [DuplistCall.hits, DuplistCall.entry]

lemma duplistRun_concat (msecsToJiffies : ℕ → BitVec w) (bla : BcastDuplist w)
    (calls : List DuplistCall) (call : DuplistCall) :
    duplistRun msecsToJiffies bla (calls ++ [call]) =
      duplistStep msecsToJiffies (duplistRun msecsToJiffies bla calls) call := by
  rw [duplistRun, List.foldl_concat]
  rfl

/-- A check that returns true leaves the list alone, and any other one records the call. -/
lemma check_snd (msecsToJiffies : ℕ → BitVec w) (bla : BcastDuplist w) (call : DuplistCall) :
    (call.check msecsToJiffies bla).2 =
      if (call.check msecsToJiffies bla).1 then bla else bla.push call.entry := by
  unfold DuplistCall.check blaCheckDuplist
  split_ifs with h h' h'
  · rfl
  · exact absurd rfl h'
  · cases h'
  · rfl

/-- The list after a run: the entries of the recorded calls, pushed one after the other. -/
lemma duplistRun_fst (msecsToJiffies : ℕ → BitVec w) (bla : BcastDuplist w)
    (calls : List DuplistCall) :
    (duplistRun msecsToJiffies bla calls).1 =
      ((duplistRun msecsToJiffies bla calls).2.map DuplistCall.entry).reverse.foldl
        RingBuffer.push bla := by
  induction calls using List.reverseRecOn with
  | nil => rfl
  | append_singleton calls call ih =>
    rw [duplistRun_concat, duplistStep, check_snd]
    split_ifs with h
    · exact ih
    · rw [List.map_cons, List.reverse_cons, List.foldl_concat, ← ih]

/-- The recorded calls are some of the calls, the last one first. -/
lemma duplistRun_snd_sublist (msecsToJiffies : ℕ → BitVec w) (bla : BcastDuplist w)
    (calls : List DuplistCall) :
    (duplistRun msecsToJiffies bla calls).2.Sublist calls.reverse := by
  induction calls using List.reverseRecOn with
  | nil => exact List.Sublist.refl _
  | append_singleton calls call ih =>
    rw [duplistRun_concat, duplistStep, List.reverse_append, List.reverse_singleton,
      List.singleton_append]
    split_ifs
    · exact ih.cons call
    · exact ih.cons_cons call

/-- **The list of recent broadcasts is exact.**  Let the calls follow each other in time, from the
jiffy after the list was set up on and over less than half of the range of `jiffies`.  Then a call
returns true if and only if one of the last calls that were recorded makes it a duplicate.

**Proof sketch.** The list holds the recorded calls, the last one first, and behind them what was
set up, which has timed out.  The older entries are, the further behind they stand, so the scan
misses nothing when it stops. -/
theorem duplist_exact (msecsToJiffies : ℕ → BitVec w)
    (hmsecs : 2 * (msecsToJiffies DUPLIST_TIMEOUT).toNat < 2 ^ w)
    (memory : Fin DUPLIST_SIZE → BcastDuplistEntry w) (start : ℕ) (calls : List DuplistCall)
    (hmono : calls.Pairwise fun a b => a.time ≤ b.time)
    (hspan : ∀ call ∈ calls, start < call.time ∧ 2 * (call.time - start) < 2 ^ w)
    (pre : List DuplistCall) (call : DuplistCall) (post : List DuplistCall)
    (hcalls : calls = pre ++ call :: post) :
    let s := duplistRun msecsToJiffies
      (blaInitDuplist msecsToJiffies (BitVec.ofNat w start) memory) pre
    (call.check msecsToJiffies s.1).1 = true ↔
      ∃ recorded ∈ s.2.take DUPLIST_SIZE,
        DuplicateOf (msecsToJiffies DUPLIST_TIMEOUT).toNat call recorded := by
  intro s
  subst hcalls
  set init := blaInitDuplist msecsToJiffies (BitVec.ofNat w start) memory with hinit
  set stop : BcastDuplistEntry w → Bool := fun entry =>
    jiffiesTimedOut msecsToJiffies (BitVec.ofNat w call.time) entry.entrytime DUPLIST_TIMEOUT
    with hstop
  -- the list is what was recorded and what was set up
  have hlist : s.1.toList = (s.2.map DuplistCall.entry ++ init.toList).take DUPLIST_SIZE := by
    rw [show s.1 = _ from duplistRun_fst .., RingBuffer.toList_foldl_push, List.reverse_reverse]
  have hcheck : (call.check msecsToJiffies s.1).1 = RingBuffer.scan stop call.hits s.1.toList := by
    rw [RingBuffer.toList, ← duplistLoop_eq, DuplistCall.check, blaCheckDuplist]
    split_ifs with h
    · exact h.symm
    · exact (Bool.not_eq_true _ ▸ h).symm
  -- the recorded calls are in the past, and the later ones stand in front
  have hsub : s.2.Sublist pre.reverse := duplistRun_snd_sublist ..
  obtain ⟨hpre, -, hcross⟩ := List.pairwise_append.1 hmono
  have hcall := hspan call (by simp)
  have hpast : ∀ r ∈ s.2, start < r.time ∧ r.time ≤ call.time := by
    intro r hr
    have hmem : r ∈ pre := List.mem_reverse.1 (hsub.subset hr)
    exact ⟨(hspan r (by simp [hmem])).1, hcross r hmem call (List.mem_cons_self ..)⟩
  have hstop_entry : ∀ r ∈ s.2, stop r.entry = true ↔
      r.time + (msecsToJiffies DUPLIST_TIMEOUT).toNat < call.time := by
    intro r hr
    have := hpast r hr
    exact jiffiesTimedOut_iff hmsecs this.2 (by omega)
  have hstop_init : ∀ e ∈ init.toList, stop e = true := by
    intro e he
    obtain ⟨i, -, rfl⟩ := List.mem_map.1 he
    exact jiffiesTimedOut_init msecsToJiffies hcall.1 hcall.2
  have hsorted : (s.2.map DuplistCall.entry ++ init.toList).Pairwise
      fun a b => stop a = true → stop b = true := by
    refine List.pairwise_append.2 ⟨?_, ?_, fun a _ b hb _ => hstop_init b hb⟩
    · rw [List.pairwise_map]
      have hrev : s.2.Pairwise fun a b => b.time ≤ a.time :=
        (List.pairwise_reverse.2 hpre).sublist hsub
      refine hrev.imp_of_mem fun {a b} ha hb hle h => ?_
      rw [hstop_entry a ha] at h
      rw [hstop_entry b hb]
      omega
    · exact List.pairwise_of_forall_mem_list fun a _ b hb _ => hstop_init b hb
  rw [hcheck, hlist, RingBuffer.scan_eq_true_iff (hsorted.sublist (List.take_sublist ..)),
    List.take_append, ← List.map_take]
  constructor
  · rintro ⟨e, he, hfresh, hhit⟩
    rcases List.mem_append.1 he with he | he
    · obtain ⟨r, hr, rfl⟩ := List.mem_map.1 he
      have hmem := List.mem_of_mem_take hr
      refine ⟨r, hr, ?_, (hits_entry_iff call r).1 hhit⟩
      have hnot := mt (hstop_entry r hmem).2 (by rw [hfresh]; exact Bool.false_ne_true)
      omega
    · rw [hstop_init e (List.mem_of_mem_take he)] at hfresh
      cases hfresh
  · rintro ⟨r, hr, hfresh, hhit⟩
    have hmem := List.mem_of_mem_take hr
    refine ⟨r.entry, List.mem_append_left _ (List.mem_map_of_mem hr), ?_,
      (hits_entry_iff call r).2 hhit⟩
    rw [← Bool.not_eq_true, hstop_entry r hmem]
    omega

/-- A broadcast that a second gateway repeats in the next jiffy. -/
theorem duplist_exact_two_gateways :
    let s := duplistRun (BitVec.ofNat 64)
      (blaInitDuplist (BitVec.ofNat 64) (BitVec.ofNat 64 0) fun _ => ⟨0, 0, 0⟩) [⟨1, 7, some 1⟩]
    (DuplistCall.check (BitVec.ofNat 64) s.1 ⟨2, 7, some 2⟩).1 = true ↔
      ∃ recorded ∈ s.2.take DUPLIST_SIZE,
        DuplicateOf (BitVec.ofNat 64 DUPLIST_TIMEOUT).toNat ⟨2, 7, some 2⟩ recorded :=
  duplist_exact (BitVec.ofNat 64) (by decide) (fun _ => ⟨0, 0, 0⟩) 0
    [⟨1, 7, some 1⟩, ⟨2, 7, some 2⟩] (by decide) (by decide) [⟨1, 7, some 1⟩] ⟨2, 7, some 2⟩ [] rfl

end Batadv
