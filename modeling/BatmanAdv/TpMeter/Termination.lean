import BatmanAdv.Lib.Run
import BatmanAdv.TpMeter.Sender

set_option relaxedAutoImplicit false
set_option autoImplicit false

/-!
# The end of a sender session (`tp_meter.c`)

A session is stopped by a decrement of `sending` from one to zero; whoever makes that decrement
then stores the reason.  Nobody looks before decrementing, so that a second stop makes the flag
negative, which every reader takes for a running session.

A step is one access to the shared variables: the decrement and the store of the reason are two.

## Main definitions

* `Batadv.TpThread` — where the thread of `batadv_tp_send` is.
* `Batadv.TpSession`, `Batadv.TpEndEvent`, `Batadv.tpSessionNext` — the session, and its steps.
* `Batadv.TpStopped` — after the first stop the session is seen as stopped, for its reason.
* `Batadv.TpStopsOnce` — a step does not stop a session that is stopped already.

## Main results

* `Batadv.tp_termination_iff` — a stop is final exactly if no other one follows.
* `Batadv.tp_stop_twice` — two stops, and the thread goes on.
-/

namespace Batadv

/-! ### The steps -/

/-- Where the thread of `batadv_tp_send` is. -/
inductive TpThread
  /-- `batadv_tp_start_kthread` is about to create it. -/
  | create
  | setup
  /-- About to read `sending` in the loop. -/
  | test
  | send
  /-- About to store the reason, after its own decrement. -/
  | reason (err : TpReason)
  | out
  /-- `batadv_tp_sender_cleanup` has taken the session out of the list. -/
  | done
deriving DecidableEq, Repr

/-- A session that is being run and stopped. -/
structure TpSession where
  vars : TpVars
  thread : TpThread
  /-- The timer's handler has seen the session running. -/
  timerTested : Bool
  /-- The reasons of those in `batadv_tp_sender_shutdown` that have decremented `sending` to zero,
  and have yet to store them. -/
  writers : List TpReason
  /-- The reason of the first decrement. -/
  first : Option TpReason
deriving DecidableEq, Repr

/-- The accesses that end a session, and those that find out whether it has ended. -/
inductive TpEndEvent
  /-- `batadv_tp_sender_finish`, up to the decrement. -/
  | finish
  /-- `batadv_tp_stop`, up to the decrement. -/
  | stop (returnValue : TpReason)
  /-- `batadv_tp_stop_all`, up to the decrement. -/
  | stopAll
  /-- The second half of `batadv_tp_sender_shutdown`. -/
  | storeReason (reason : TpReason)
  /-- The test of `batadv_tp_sender_timeout`. -/
  | timerTest
  /-- The rest of `batadv_tp_sender_timeout`, up to the decrement if there is one. -/
  | timerRun
  /-- `batadv_tp_recv_ack`. -/
  | ack (ack : TpAck)
  | kthread (created : Bool)
  /-- The thread looks up the originator and the primary interface. -/
  | threadSetup (found : Bool)
  | threadTest
  /-- The body of the loop, with what `batadv_tp_send_msg` returns. -/
  | threadSend (err : TpReason)
  | threadReason
  | threadCleanup
deriving DecidableEq, Repr

namespace TpSession

/-- The reasons that have yet to be stored. -/
def pending (s : TpSession) : List TpReason :=
  match s.thread with
  | .reason err => err :: s.writers
  | _ => s.writers

/-- The session is in the list. -/
def listed (s : TpSession) : Bool := s.thread != .done

/-- The decrement of `sending`, for a reason. -/
def decrement (s : TpSession) (reason : TpReason) : TpSession :=
  { s with
    vars := (tpDecAndTest s.vars).1
    first := some (s.first.getD reason) }

/-- `batadv_tp_sender_shutdown`, up to the store of the reason. -/
def shutdown (s : TpSession) (reason : TpReason) : TpSession :=
  if (tpDecAndTest s.vars).2 then
    { s.decrement reason with writers := reason :: s.writers }
  else s.decrement reason

/-- The error path of `batadv_tp_send`, up to the store of the reason. -/
def threadFail (s : TpSession) (err : TpReason) : TpSession :=
  if (tpDecAndTest s.vars).2 then { s.decrement err with thread := .reason err }
  else { s.decrement err with thread := .out }

end TpSession

/-- One access to the shared variables. -/
def tpSessionNext (s : TpSession) : TpEndEvent → TpSession
  | .finish => if s.listed then s.shutdown TP_REASON_COMPLETE else s
  | .stop returnValue => if s.listed then s.shutdown returnValue else s
  | .stopAll => if s.listed then s.shutdown TP_REASON_CANCEL else s
  | .storeReason reason =>
    if reason ∈ s.writers then
      { s with vars := { s.vars with reason := reason }, writers := s.writers.erase reason }
    else s
  | .timerTest => if s.listed && s.vars.sending != 0 then { s with timerTested := true } else s
  | .timerRun =>
    if !s.timerTested then s
    else if TP_MAX_RTO ≤ s.vars.rto then
      { s.shutdown TP_REASON_DST_UNREACHABLE with timerTested := false }
    else { s with vars := tpSenderBackoff s.vars, timerTested := false }
  | .ack ack => if s.listed then { s with vars := (tpRecvAck s.vars ack).1 } else s
  | .kthread created =>
    if s.thread = .create then { s with thread := if created then .setup else .done } else s
  | .threadSetup found =>
    if s.thread ≠ .setup then s
    else if found then { s with thread := .test }
    else { s with vars := { s.vars with reason := TP_REASON_DST_UNREACHABLE }, thread := .out }
  | .threadTest =>
    if s.thread ≠ .test then s
    else { s with thread := if s.vars.sending ≠ 0 then .send else .out }
  | .threadSend err =>
    if s.thread ≠ .send then s
    else if !tpAvail s.vars TP_PLEN then { s with thread := .test }
    else if err = 0 then
      { s with vars := { s.vars with lastSent := s.vars.lastSent + TP_PLEN }, thread := .test }
    else if err = TP_REASON_CANT_SEND then { s with thread := .test }
    else s.threadFail err
  | .threadReason =>
    match s.thread with
    | .reason err => { s with vars := { s.vars with reason := err }, thread := .out }
    | _ => s
  -- `timer_delete_sync` waits for the timer's handler
  | .threadCleanup => if s.thread = .out ∧ !s.timerTested then { s with thread := .done } else s

/-- A session that `batadv_tp_start` has put into the list. -/
def tpSessionStart (memory : TpVars) : TpSession where
  vars := tpStart memory
  thread := .create
  timerTested := false
  writers := []
  first := none

/-! ### Properties -/

/-- After the first stop every reader sees the session as stopped, and the reason is that of the
first stop once it is stored. -/
def TpStopped (s : TpSession) : Prop :=
  ∀ reason, s.first = some reason →
    s.vars.sending = 0 ∧ (s.pending = [] → s.vars.reason = reason)

/-- The access decrements `sending`. -/
def TpDecrements (s : TpSession) : TpEndEvent → Prop
  | .finish | .stop _ | .stopAll => s.listed = true
  | .timerRun => s.timerTested = true ∧ TP_MAX_RTO ≤ s.vars.rto
  | .threadSend err => s.thread = .send ∧ tpAvail s.vars TP_PLEN = true ∧ err ≠ 0 ∧
      err ≠ TP_REASON_CANT_SEND
  | _ => False

/-- The access does not stop a session that is stopped already: it does not decrement `sending`
when it is zero, and the thread does not give up before its loop after the reason of a stop has
been stored, unless for that reason. -/
def TpStopsOnce (s : TpSession) (e : TpEndEvent) : Prop :=
  (TpDecrements s e → s.vars.sending ≠ 0) ∧
    (e = .threadSetup false → s.thread = .setup → s.vars.sending = 0 → s.pending = [] →
      s.vars.reason = TP_REASON_DST_UNREACHABLE)

/-! ### What an access does -/

/-- What an access does to the flag, the reason, and those that have yet to store one. -/
inductive TpEndStep (s : TpSession) (e : TpEndEvent) (s' : TpSession) : Prop
  | quiet (sending : s'.vars.sending = s.vars.sending) (stored : s'.vars.reason = s.vars.reason)
      (first : s'.first = s.first) (pending : s'.pending = s.pending)
  | decrement (reason : TpReason) (decrements : TpDecrements s e)
      (sending : s'.vars.sending = s.vars.sending - 1)
      (first : s'.first = some (s.first.getD reason))
      (pending : s.vars.sending - 1 = 0 → s'.pending.Perm (reason :: s.pending))
  | store (reason : TpReason) (sending : s'.vars.sending = s.vars.sending)
      (stored : s'.vars.reason = reason) (first : s'.first = s.first)
      (pending : s.pending.Perm (reason :: s'.pending))
  /-- The thread gives up before its loop. -/
  | giveUp (event : e = .threadSetup false) (thread : s.thread = .setup)
      (sending : s'.vars.sending = s.vars.sending)
      (stored : s'.vars.reason = TP_REASON_DST_UNREACHABLE) (first : s'.first = s.first)
      (pending : s'.pending = s.pending)

/-- The pending reasons where another writer comes in front. -/
lemma TpSession.pending_cons (s : TpSession) (reason : TpReason) :
    ({ s with writers := reason :: s.writers } : TpSession).pending.Perm (reason :: s.pending) := by
  cases hthread : s.thread
  case reason err => simpa [TpSession.pending, hthread] using List.Perm.swap reason err s.writers
  all_goals simp [TpSession.pending, hthread]

/-- `batadv_tp_sender_shutdown`, up to the store of the reason. -/
lemma TpSession.shutdown_step {s : TpSession} {e : TpEndEvent} (reason : TpReason)
    (h : TpDecrements s e) : TpEndStep s e (s.shutdown reason) := by
  unfold TpSession.shutdown
  split_ifs with hzero
  · exact .decrement reason h rfl rfl fun _ => TpSession.pending_cons (s.decrement reason) reason
  · exact .decrement reason h rfl rfl fun hsending => absurd (beq_iff_eq.2 hsending) hzero

/-- The error path of `batadv_tp_send`, up to the store of the reason. -/
lemma TpSession.threadFail_step {s : TpSession} {e : TpEndEvent} (err : TpReason)
    (h : TpDecrements s e) (hthread : s.thread = .send) : TpEndStep s e (s.threadFail err) := by
  have hpending : s.pending = s.writers := by simp [TpSession.pending, hthread]
  unfold TpSession.threadFail
  split_ifs with hzero
  · refine .decrement err h rfl rfl fun _ => ?_
    rw [hpending]
    exact List.Perm.refl _
  · exact .decrement err h rfl rfl fun hsending => absurd (beq_iff_eq.2 hsending) hzero

/-- Moving the thread between points where it does not store a reason is quiet. -/
lemma TpSession.move_step {s : TpSession} {e : TpEndEvent} {thread : TpThread}
    (hfrom : s.pending = s.writers) (hto : ∀ err, thread ≠ .reason err) :
    TpEndStep s e { s with thread := thread } := by
  refine .quiet rfl rfl rfl ?_
  rw [hfrom]
  cases thread with
  | reason err => exact absurd rfl (hto err)
  | _ => rfl

/-- **One access.** -/
lemma tpSessionNext_step (s : TpSession) (e : TpEndEvent) :
    TpEndStep s e (tpSessionNext s e) := by
  cases e with
  | finish =>
    simp only [tpSessionNext]
    split_ifs with hlisted
    · exact TpSession.shutdown_step _ hlisted
    · exact .quiet rfl rfl rfl rfl
  | stop returnValue =>
    simp only [tpSessionNext]
    split_ifs with hlisted
    · exact TpSession.shutdown_step _ hlisted
    · exact .quiet rfl rfl rfl rfl
  | stopAll =>
    simp only [tpSessionNext]
    split_ifs with hlisted
    · exact TpSession.shutdown_step _ hlisted
    · exact .quiet rfl rfl rfl rfl
  | storeReason reason =>
    simp only [tpSessionNext]
    split_ifs with hmem
    · refine .store reason rfl rfl rfl ?_
      have hperm : s.writers.Perm (reason :: s.writers.erase reason) := List.perm_cons_erase hmem
      cases hthread : s.thread
      case reason err =>
        simpa [TpSession.pending, hthread] using
          (hperm.cons err).trans (List.Perm.swap reason err (s.writers.erase reason))
      all_goals simpa [TpSession.pending, hthread] using hperm
    · exact .quiet rfl rfl rfl rfl
  | timerTest =>
    simp only [tpSessionNext]
    split_ifs
    · exact .quiet rfl rfl rfl rfl
    · exact .quiet rfl rfl rfl rfl
  | timerRun =>
    simp only [tpSessionNext]
    split_ifs with htested hrto
    · exact .quiet rfl rfl rfl rfl
    · have h : TpDecrements s .timerRun := ⟨by simpa using htested, hrto⟩
      -- what the handler has seen is none of the variables of the step
      cases TpSession.shutdown_step TP_REASON_DST_UNREACHABLE h with
      | quiet sending stored first pending => exact .quiet sending stored first pending
      | decrement reason decrements sending first pending =>
        exact .decrement reason decrements sending first pending
      | store reason sending stored first pending =>
        exact .store reason sending stored first pending
      | giveUp event => exact absurd event (by simp)
    · exact .quiet rfl rfl rfl rfl
  | ack ack =>
    simp only [tpSessionNext]
    split_ifs
    · exact .quiet (tpRecvAck_frame s.vars ack).1 (tpRecvAck_frame s.vars ack).2 rfl rfl
    · exact .quiet rfl rfl rfl rfl
  | kthread created =>
    simp only [tpSessionNext]
    split_ifs with hthread
    · exact TpSession.move_step (by simp [TpSession.pending, hthread]) (by simp)
    · exact TpSession.move_step (by simp [TpSession.pending, hthread]) (by simp)
    · exact .quiet rfl rfl rfl rfl
  | threadSetup found =>
    simp only [tpSessionNext]
    split_ifs with hthread hfound
    · exact .quiet rfl rfl rfl rfl
    · exact TpSession.move_step (by simp [TpSession.pending, not_not.1 hthread]) (by simp)
    · obtain rfl : found = false := by simpa using hfound
      exact .giveUp rfl (not_not.1 hthread) rfl rfl rfl
        (by simp [TpSession.pending, not_not.1 hthread])
  | threadTest =>
    simp only [tpSessionNext]
    split_ifs with hthread
    · exact .quiet rfl rfl rfl rfl
    · exact TpSession.move_step (by simp [TpSession.pending, not_not.1 hthread]) (by simp)
    · exact TpSession.move_step (by simp [TpSession.pending, not_not.1 hthread]) (by simp)
  | threadSend err =>
    simp only [tpSessionNext]
    split_ifs with hthread havail hok hcant
    · exact .quiet rfl rfl rfl rfl
    · exact TpSession.move_step (by simp [TpSession.pending, not_not.1 hthread]) (by simp)
    · exact .quiet rfl rfl rfl (by simp [TpSession.pending, not_not.1 hthread])
    · exact TpSession.move_step (by simp [TpSession.pending, not_not.1 hthread]) (by simp)
    · exact TpSession.threadFail_step err
        ⟨not_not.1 hthread, by simpa using havail, hok, hcant⟩ (not_not.1 hthread)
  | threadReason =>
    simp only [tpSessionNext]
    cases hthread : s.thread with
    | reason err => exact .store err rfl rfl rfl (by simp [TpSession.pending, hthread])
    | _ => exact .quiet rfl rfl rfl rfl
  | threadCleanup =>
    simp only [tpSessionNext]
    split_ifs with hthread
    · exact TpSession.move_step (by simp [TpSession.pending, hthread.1]) (by simp)
    · exact .quiet rfl rfl rfl rfl

/-! ### Stopped once -/

/-- What is known of a session that has been stopped at most once. -/
inductive TpSession.Inv (s : TpSession) : Prop
  | running (first : s.first = none) (sending : s.vars.sending = 1) (pending : s.pending = [])
  | storing (reason : TpReason) (first : s.first = some reason) (sending : s.vars.sending = 0)
      (pending : s.pending = [reason])
  | stopped (reason : TpReason) (first : s.first = some reason) (sending : s.vars.sending = 0)
      (pending : s.pending = []) (stored : s.vars.reason = reason)

/-- The invariant implies the property. -/
lemma TpSession.Inv.ok {s : TpSession} (h : s.Inv) : TpStopped s := by
  intro r hr
  cases h with
  | running first => rw [first] at hr; exact absurd hr (by simp)
  | storing reason first sending pending =>
    exact ⟨sending, fun hnil => by rw [pending] at hnil; exact absurd hnil (by simp)⟩
  | stopped reason first sending pending stored =>
    rw [first] at hr
    exact ⟨sending, fun _ => stored.trans (Option.some.inj hr)⟩

/-- **The invariant is kept** by an access that does not stop the session again. -/
lemma TpSession.Inv.step {s s' : TpSession} {e : TpEndEvent} (h : s.Inv)
    (honce : TpStopsOnce s e) (hstep : TpEndStep s e s') : s'.Inv := by
  cases hstep with
  | quiet sending stored first pending =>
    cases h with
    | running f n p => exact .running (first.trans f) (sending.trans n) (pending.trans p)
    | storing r f n p => exact .storing r (first.trans f) (sending.trans n) (pending.trans p)
    | stopped r f n p t =>
      exact .stopped r (first.trans f) (sending.trans n) (pending.trans p) (stored.trans t)
  | decrement reason decrements sending first pending =>
    have hne := honce.1 decrements
    cases h with
    | running f n p =>
      -- the first stop
      have hzero : s.vars.sending - 1 = 0 := by rw [n]; rfl
      rw [f] at first
      rw [p] at pending
      exact .storing reason first (sending.trans hzero) (List.perm_singleton.1 (pending hzero))
    | storing r f n p => exact absurd n hne
    | stopped r f n p t => exact absurd n hne
  | store reason sending stored first pending =>
    cases h with
    | running f n p => rw [p] at pending; exact absurd pending.length_eq (by simp)
    | storing r f n p =>
      rw [p] at pending
      have hnil : s'.pending = [] := by
        simpa using pending.length_eq
      rw [hnil] at pending
      obtain rfl : r = reason := by simpa using pending
      exact .stopped r (first.trans f) (sending.trans n) hnil stored
    | stopped r f n p t => rw [p] at pending; exact absurd pending.length_eq (by simp)
  | giveUp event thread sending stored first pending =>
    cases h with
    | running f n p => exact .running (first.trans f) (sending.trans n) (pending.trans p)
    | storing r f n p => exact .storing r (first.trans f) (sending.trans n) (pending.trans p)
    | stopped r f n p t =>
      have hreason := honce.2 event thread n p
      exact .stopped r (first.trans f) (sending.trans n) (pending.trans p)
        (stored.trans (hreason.symm.trans t))

/-- What a decrement does, whoever makes it. -/
lemma tpSessionNext_of_decrements {s : TpSession} {e : TpEndEvent} (h : TpDecrements s e) :
    (tpSessionNext s e).vars.sending = s.vars.sending - 1 ∧
      ∃ reason, (tpSessionNext s e).first = some (s.first.getD reason) := by
  have hshutdown : ∀ reason, (s.shutdown reason).vars.sending = s.vars.sending - 1 ∧
      (s.shutdown reason).first = some (s.first.getD reason) := fun reason => by
    unfold TpSession.shutdown
    split_ifs <;> exact ⟨rfl, rfl⟩
  cases e with
  | finish =>
    have hlisted : s.listed = true := h
    simp only [tpSessionNext, hlisted, if_true]
    exact ⟨(hshutdown _).1, _, (hshutdown _).2⟩
  | stop returnValue =>
    have hlisted : s.listed = true := h
    simp only [tpSessionNext, hlisted, if_true]
    exact ⟨(hshutdown _).1, _, (hshutdown _).2⟩
  | stopAll =>
    have hlisted : s.listed = true := h
    simp only [tpSessionNext, hlisted, if_true]
    exact ⟨(hshutdown _).1, _, (hshutdown _).2⟩
  | timerRun =>
    obtain ⟨htested, hrto⟩ := h
    simp only [tpSessionNext, htested, Bool.not_true, Bool.false_eq_true, if_false, hrto, if_true]
    exact ⟨(hshutdown _).1, _, (hshutdown _).2⟩
  | threadSend err =>
    obtain ⟨hthread, havail, hok, hcant⟩ := h
    simp only [tpSessionNext, hthread, ne_eq, not_true_eq_false, if_false, havail, Bool.not_true,
      Bool.false_eq_true, hok, hcant, TpSession.threadFail]
    split_ifs <;> exact ⟨rfl, _, rfl⟩
  | _ => exact absurd h id

/-- **A second stop shows**: if the property holds after an access, it did not stop a session that
was stopped already. -/
lemma TpSession.Inv.stopsOnce {s : TpSession} {e : TpEndEvent} (h : s.Inv)
    (hok : TpStopped (tpSessionNext s e)) : TpStopsOnce s e := by
  constructor
  · intro hdec hzero
    obtain ⟨hsending, reason, hfirst⟩ := tpSessionNext_of_decrements hdec
    have hstopped := (hok _ hfirst).1
    rw [hsending, hzero] at hstopped
    exact absurd hstopped (by decide)
  · rintro rfl hthread hzero hpending
    have hnext : tpSessionNext s (.threadSetup false) =
        { s with vars := { s.vars with reason := TP_REASON_DST_UNREACHABLE }, thread := .out } := by
      simp [tpSessionNext, hthread]
    have hnone : (tpSessionNext s (.threadSetup false)).pending = [] := by
      rw [hnext]
      simpa [TpSession.pending, hthread] using hpending
    cases h with
    | running f n p => rw [n] at hzero; exact absurd hzero (by decide)
    | storing r f n p => rw [p] at hpending; exact absurd hpending (by simp)
    | stopped r f n p t =>
      have hreason := (hok r (by rw [hnext]; exact f)).2 hnone
      rw [hnext] at hreason
      exact t.trans hreason.symm

/-- **The first stop is final.**  Along every interleaving of the accesses that end a session and of
those that find out, after the first stop `sending` is zero in every state, and the reason is that
of the first stop once it is stored, exactly if no access stops the session again. -/
theorem tp_termination_iff (memory : TpVars) (es : List TpEndEvent) :
    (∀ s ∈ Run.states tpSessionNext (tpSessionStart memory) es, TpStopped s) ↔
      Run.AllSteps tpSessionNext TpStopsOnce (tpSessionStart memory) es := by
  have hstart : (tpSessionStart memory).Inv := .running rfl rfl rfl
  exact Run.forall_mem_states_iff TpSession.Inv TpStopped (fun _ _ => True)
    (fun s e hinv _ => ⟨hinv.stopsOnce, fun h => (hinv.step h (tpSessionNext_step s e)).ok⟩)
    (fun s e hinv _ h => hinv.step h (tpSessionNext_step s e)) hstart hstart.ok
    (Run.AllSteps.of_forall (fun _ _ => trivial) es)

/-! ### Two stops -/

/-- The user stops the test twice between two tests of the thread. -/
def tpStopTwice : List TpEndEvent :=
  [.kthread true, .threadSetup true, .threadTest, .stop TP_REASON_CANCEL,
    .storeReason TP_REASON_CANCEL, .stop TP_REASON_CANCEL, .threadSend 0, .threadTest]

/-- **The thread goes on** after two stops, for it sees minus one. -/
theorem tp_stop_twice :
    (Run.final tpSessionNext (tpSessionStart tpMemory) tpStopTwice).thread = .send ∧
      (Run.final tpSessionNext (tpSessionStart tpMemory) tpStopTwice).vars.sending = -1 ∧
      ¬ ∀ s ∈ Run.states tpSessionNext (tpSessionStart tpMemory) tpStopTwice, TpStopped s := by
  have hsending : (Run.final tpSessionNext (tpSessionStart tpMemory) tpStopTwice).vars.sending =
      -1 := by decide +kernel
  have hfirst : (Run.final tpSessionNext (tpSessionStart tpMemory) tpStopTwice).first =
      some TP_REASON_CANCEL := by decide +kernel
  refine ⟨by decide +kernel, hsending, fun h => ?_⟩
  have hzero := (h _ (Run.final_mem_states _ _) _ hfirst).1
  rw [hsending] at hzero
  exact absurd hzero (by decide)

end Batadv
