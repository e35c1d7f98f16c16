import BatmanAdv.Lib.Programs
import BatmanAdv.TpMeter.Vars

set_option relaxedAutoImplicit false
set_option autoImplicit false

/-!
# How long a session of the throughput meter lives (`tp_meter.c`)

A session is referenced by the list of sessions, by its timer, by the thread of a sender, and by
whoever has looked it up.  Here the functions that start and end sessions run on any number of
threads.  A step is a section of the lock of the list, the start of a timer callback, an access to
`tp_num` or to a reference count, or a call that changes the timer.

A pointer to a session is its place in the list of all sessions that were ever allocated, which also
count how often they were unlinked and released.  Whether a sender goes on is read from elsewhere,
since any part of the node may stop it.  The timer of a sender belongs to the threads that are going
to delete it, and the one of a receiver has a reference of its own.

## Main definitions

* `Batadv.TpObject`, `Batadv.TpPriv` — a session, and what the node has of all of them.
* `Batadv.TpOp`, `Batadv.tpExec` — the operations, and their effect.
* `Batadv.TpObject.Inv` — the references to a session that are counted.

## Main results

* `Batadv.tpVarsExec_keeps` — every operation on a session keeps its references counted.
-/

namespace Batadv

/-- `BATADV_TP_MAX_NUM`. -/
def TP_MAX_NUM : ℕ := 5

/-! ### State -/

/-- What of `struct batadv_tp_vars` is about its lifetime: the reference count, the timer, which may
be pending, run its callback, and be shut down, and the completion.  `unlinked` and `released` count
how often the session was taken from the list, and how often its reference count became zero. -/
structure TpObject where
  role : TpRole
  otherEnd : EthAddr
  session : U16
  refcount : ℤ
  pending : Bool
  running : Bool
  shutdown : Bool
  finished : ℕ
  unlinked : ℕ
  released : ℕ
deriving DecidableEq, Repr

/-- The sessions that were ever allocated, the places of those in `tp_list`, and `tp_num`. -/
structure TpPriv where
  vars : List TpObject
  tpList : List ℕ
  tpNum : ℤ
deriving DecidableEq, Repr

/-- There are no sessions yet (`batadv_mesh_init`). -/
def tpPrivInit : TpPriv := ⟨[], [], 0⟩

/-- What is left to do with one session. -/
inductive TpVarsOp
  /-- `batadv_tp_start_kthread` takes the reference of the thread, and creates it; then
  `batadv_tp_start` drops its own reference. -/
  | startKthread
  | createKthread
  /-- `batadv_tp_send` before its loop, and a turn of the loop. -/
  | sendInit
  | send
  /-- `batadv_tp_vars_put`. -/
  | put
  /-- `timer_delete_sync` and `timer_delete`. -/
  | timerDeleteSync
  | timerDelete
  /-- `complete` and `wait_for_completion`. -/
  | complete
  | wait
  /-- `timer_shutdown_sync`, and `batadv_tp_vars_put` if the timer was pending.  It takes back what
  a callback that it had to wait for has armed, like `del_timer_sync` of the compat layer. -/
  | timerShutdownSync
  /-- The callbacks of the timer, `batadv_tp_receiver_shutdown` and `batadv_tp_sender_timeout`, and
  their end. -/
  | receiverShutdown
  | senderTimeout
  | callbackReturn
deriving DecidableEq, Repr

/-- What a thread still has to do. -/
inductive TpOp
  /-- `batadv_tp_start` in its section of the lock. -/
  | start (dst : EthAddr) (session : U16)
  /-- `batadv_tp_init_recv`, for a first segment. -/
  | initRecv (orig : EthAddr) (session : U16)
  /-- The time of a timer has come. -/
  | fire (p : ℕ)
  /-- `batadv_tp_stop_all` in its section of the lock. -/
  | stopAll
  /-- `batadv_tp_list_detach` in its section of the lock. -/
  | detach (p : ℕ)
  /-- `atomic_dec` for `tp_num`. -/
  | decNum
  | on (p : ℕ) (op : TpVarsOp)
deriving DecidableEq, Repr

/-- What an operation reads: whether the mesh is active, whether there is memory for a session,
whether a thread can be created, whether there is a way to the other end, whether a sender goes on,
and whether a receiver has received something lately. -/
structure TpOpInput where
  meshActive : Bool
  alloc : Bool
  kthread : Bool
  route : Bool
  sending : Bool
  recent : Bool

/-! ### Operations -/

/-- `kref_get`. -/
def tpVarsGet (v : TpObject) : TpObject := { v with refcount := v.refcount + 1 }

/-- `batadv_tp_vars_put`. -/
def tpVarsPut (v : TpObject) : TpObject :=
  { v with
    refcount := v.refcount - 1
    released := if v.refcount - 1 = 0 then v.released + 1 else v.released }

/-- `mod_timer`, which does nothing after the timer was shut down. -/
def tpModTimer (v : TpObject) : TpObject := { v with pending := !v.shutdown }

/-- `batadv_tp_sender_cleanup`. -/
def tpSenderCleanup (p : ℕ) : List TpOp :=
  [.detach p, .on p .timerDeleteSync, .on p .timerDelete, .on p .put]

/-- The end of `batadv_tp_send`. -/
def tpSendOut (p : ℕ) : List TpOp := tpSenderCleanup p ++ [.on p .complete, .on p .put]

/-- An operation on a session: what becomes of it, what replaces the operation, and the threads that
are started. -/
def tpVarsExec (input : TpOpInput) (p : ℕ) (v : TpObject) :
    TpVarsOp → Option (TpObject × List TpOp × List (List TpOp))
  | .startKthread => some (tpVarsGet v, [.on p .createKthread], [])
  | .createKthread =>
    if input.kthread then some (v, [.on p .put], [[.on p .sendInit]])
    -- drop reserved reference for kthread; the session then ends like one that was sent
    else some (v, .on p .put :: tpSendOut p, [])
  | .sendInit =>
    if !input.route then some (v, tpSendOut p, [])
    else if input.sending then some (tpModTimer v, [.on p .send], [])
    else some (v, [.on p .send], [])
  | .send => some (v, if input.sending then [.on p .send] else tpSendOut p, [])
  | .put => some (tpVarsPut v, [], [])
  -- the call returns when the callback does not run
  | .timerDeleteSync => if v.running then none else some ({ v with pending := false }, [], [])
  | .timerDelete => some ({ v with pending := false }, [], [])
  | .complete => some ({ v with finished := v.finished + 1 }, [], [])
  | .wait =>
    if v.finished = 0 then none else some ({ v with finished := v.finished - 1 }, [], [])
  | .timerShutdownSync =>
    if v.running then none
    else some ({ v with pending := false, shutdown := true },
      if v.pending then [.on p .put] else [], [])
  | .receiverShutdown =>
    -- if there is recent activity rearm the timer
    if input.recent then some (tpModTimer v, [.on p .callbackReturn], [])
    else some (v, [.detach p, .on p .put, .on p .callbackReturn], [])
  | .senderTimeout =>
    if input.sending then some (tpModTimer v, [.on p .callbackReturn], [])
    else some (v, [.on p .callbackReturn], [])
  | .callbackReturn => some ({ v with running := false }, [], [])

/-- The state with another session at a place. -/
def TpPriv.setVars (s : TpPriv) (p : ℕ) (v : TpObject) : TpPriv := { s with vars := s.vars.set p v }

/-- The state with a reference more for a session. -/
def TpPriv.get (s : TpPriv) (p : ℕ) : TpPriv := { s with vars := s.vars.modify p tpVarsGet }

/-- A session that can be referenced: `kref_get_unless_zero`. -/
def TpPriv.alive (s : TpPriv) (p : ℕ) (q : TpObject → Bool) : Bool :=
  (s.vars[p]?).any fun v => q v && v.refcount != 0

/-- `batadv_tp_list_find`, without taking the reference. -/
def tpListFind (s : TpPriv) (dst : EthAddr) : Option ℕ :=
  s.tpList.find? fun p => s.alive p fun v => v.otherEnd == dst

/-- `batadv_tp_list_find_session`, without taking the reference. -/
def tpListFindSession (s : TpPriv) (dst : EthAddr) (session : U16) : Option ℕ :=
  s.tpList.find? fun p => s.alive p fun v => v.otherEnd == dst && v.session == session

/-- A new session, with references of the list, the timer and the caller. -/
def tpVarsNew (role : TpRole) (otherEnd : EthAddr) (session : U16) (pending : Bool) : TpObject :=
  ⟨role, otherEnd, session, 3, pending, false, false, 0, 0, 0⟩

/-- The state with a new session, which is linked and counted. -/
def TpPriv.insert (s : TpPriv) (v : TpObject) : TpPriv :=
  ⟨s.vars ++ [v], s.vars.length :: s.tpList, s.tpNum + 1⟩

/-- What `batadv_tp_stop_all` does with a session it has a reference to. -/
def tpStop (p : ℕ) : TpRole → List TpOp
  | .sender => [.on p .wait, .on p .put]
  | .receiver => [.detach p, .on p .timerShutdownSync, .on p .put]

/-- What `batadv_tp_stop_all` does with the session at a place. -/
def tpStopAt (s : TpPriv) (p : ℕ) : List TpOp := ((s.vars[p]?).map fun v => tpStop p v.role).getD []

/-- The sessions that `batadv_tp_stop_all` takes references to. -/
def tpStopAll (s : TpPriv) : List ℕ := (s.tpList.filter (s.alive · fun _ => true)).take TP_MAX_NUM

/-- The callback of the timer. -/
def tpCallback : TpRole → TpVarsOp
  | .sender => .senderTimeout
  | .receiver => .receiverShutdown

/-- A section of the lock that looks a session up, or adds one with `now` to do next. -/
def tpFindOrAdd (input : TpOpInput) (s : TpPriv) (found : Option ℕ) (v : TpObject)
    (now : List TpOp) : TpPriv × List TpOp :=
  if !input.meshActive then (s, [])
  else
    match found with
    | some p => (s.get p, [.on p .put])
    | none => if s.tpNum = TP_MAX_NUM || !input.alloc then (s, []) else (s.insert v, now)

/-- The effect of an operation, which is `none` if it has to wait. -/
def tpExec (input : TpOpInput) (s : TpPriv) : TpOp → Option (Programs.Outcome TpPriv TpOp)
  | .start dst session =>
    let p := s.vars.length
    let r := tpFindOrAdd input s (tpListFind s dst) (tpVarsNew .sender dst session false)
      [.on p .startKthread]
    some ⟨r.1, r.2, []⟩
  | .initRecv orig session =>
    let p := s.vars.length
    let r := tpFindOrAdd input s (tpListFindSession s orig session)
      (tpVarsNew .receiver orig session true) [.on p .put]
    some ⟨r.1, r.2, []⟩
  | .fire p =>
    match s.vars[p]? with
    | none => some ⟨s, [], []⟩
    | some v =>
      if v.pending && !v.running then
        some ⟨s.setVars p { v with pending := false, running := true },
          [.on p (tpCallback v.role)], []⟩
      else some ⟨s, [], []⟩
  | .stopAll => some ⟨(tpStopAll s).foldl TpPriv.get s, (tpStopAll s).flatMap (tpStopAt s), []⟩
  | .detach p =>
    match s.vars[p]? with
    | none => some ⟨s, [], []⟩
    | some v =>
      if p ∈ s.tpList then
        some ⟨{ s.setVars p { v with unlinked := v.unlinked + 1 } with tpList := s.tpList.erase p },
          [.decNum, .on p .put], []⟩
      else some ⟨s, [], []⟩
  | .decNum => some ⟨{ s with tpNum := s.tpNum - 1 }, [], []⟩
  | .on p op =>
    match s.vars[p]? with
    | none => some ⟨s, [], []⟩
    | some v =>
      (tpVarsExec input p v op).map fun (v, now, spawned) => ⟨s.setVars p v, now, spawned⟩

/-- What may happen at any time: a session is started, a first segment arrives, the time of a timer
has come, or all sessions are stopped. -/
inductive TpEntry
  | start (dst : EthAddr) (session : U16)
  | initRecv (orig : EthAddr) (session : U16)
  | fire (p : ℕ)
  | stopAll
deriving DecidableEq, Repr

/-- Where a thread begins. -/
def tpEntry : TpEntry → List TpOp
  | .start dst session => [.start dst session]
  | .initRecv orig session => [.initRecv orig session]
  | .fire p => [.fire p]
  | .stopAll => [.stopAll]

/-- A state of a run. -/
abbrev TpState := Threads.State TpPriv (List TpOp)

/-- The state after an event. -/
def tpNext : TpState → Threads.Event TpEntry TpOpInput → TpState :=
  Threads.next tpEntry (Programs.step tpExec)

/-! ### What operations hold -/

/-- The session that an operation is about. -/
def TpOp.vars : TpOp → Option ℕ
  | .detach p | .on p _ => some p
  | _ => none

/-- The references that an operation is going to drop. -/
def TpOp.refs : TpOp → ℕ
  | .on _ .createKthread => 3
  -- the one of the timer, and that of the thread or the caller
  | .on _ .startKthread | .on _ .sendInit | .on _ .send => 2
  | .on _ .put | .on _ .receiverShutdown => 1
  | _ => 0

/-- The operation is part of a callback of the timer. -/
def TpOp.callbacks : TpOp → ℕ
  | .on _ .receiverShutdown | .on _ .senderTimeout | .on _ .callbackReturn => 1
  | _ => 0

/-- The operation is the callback for an inactive receiver. -/
def TpOp.inactivity : TpOp → ℕ
  | .on _ .receiverShutdown => 1
  | _ => 0

/-- The operation deletes the timer of a sender, or leads to that. -/
def TpOp.deletes : TpOp → ℕ
  | .on _ .sendInit | .on _ .send | .on _ .timerDeleteSync => 1
  | _ => 0

/-- The operation relies on a reference that its own thread has. -/
def TpOp.needs : TpOp → Bool
  | .on _ .senderTimeout | .on _ .callbackReturn => false
  | .detach _ | .on _ _ => true
  | _ => false

/-- The role of the sessions that an operation is for. -/
def TpOp.role : TpOp → Option TpRole
  | .on _ .receiverShutdown | .on _ .timerShutdownSync => some .receiver
  | .on _ .put | .on _ .callbackReturn => none
  | .on _ _ => some .sender
  | _ => none

/-- The reference that the timer of a receiver has while it is pending.  The one of a sender's timer
is dropped by the thread. -/
def TpObject.timerRef (v : TpObject) : ℕ := if v.role = .receiver ∧ v.pending = true then 1 else 0

/-- The reference that the list has. -/
def tpListRef (linked : Prop) [Decidable linked] : ℕ := if linked then 1 else 0

/-- The references to a session that are counted, where `refs`, `callbacks`, `inactivity` and
`deletes` are what the operations of all threads have for it. -/
structure TpObject.Inv (linked : Prop) [Decidable linked] (refs callbacks inactivity deletes : ℕ)
    (v : TpObject) : Prop where
  refcount : v.refcount = (tpListRef linked + v.timerRef + refs : ℕ)
  released : v.released = if v.refcount = 0 then 1 else 0
  unlinked : v.unlinked + tpListRef linked = 1
  running : callbacks = if v.running then 1 else 0
  fired : 0 < inactivity → v.role = .receiver ∧ v.pending = false ∧ v.shutdown = false
  shutdown : v.shutdown = true → v.pending = false
  timer : v.role = .sender → v.pending = true ∨ v.running = true → 0 < deletes

/-- Replacing the operations `old` by `new` keeps the references to a session counted, whatever the
other operations have for it.  The session is in the list before and after, or not. -/
def TpKeeps (linked linked' : Prop) [Decidable linked] [Decidable linked'] (old new : List TpOp)
    (v v' : TpObject) : Prop :=
  ∀ refs callbacks inactivity deletes : ℕ, inactivity ≤ callbacks →
    v.Inv linked ((old.map TpOp.refs).sum + refs) ((old.map TpOp.callbacks).sum + callbacks)
      ((old.map TpOp.inactivity).sum + inactivity) ((old.map TpOp.deletes).sum + deletes) →
    v'.Inv linked' ((new.map TpOp.refs).sum + refs) ((new.map TpOp.callbacks).sum + callbacks)
      ((new.map TpOp.inactivity).sum + inactivity) ((new.map TpOp.deletes).sum + deletes)

/-- The operations are all about the session at a place, and for its role. -/
def TpAbout (p : ℕ) (v : TpObject) (ops : List TpOp) : Prop :=
  ∀ op ∈ ops, op.vars = some p ∧ ∀ role, op.role = some role → v.role = role

lemma timerRef_of_sender {v : TpObject} (hrole : v.role = .sender) : v.timerRef = 0 :=
  if_neg fun h => by simp [hrole] at h

lemma timerRef_of_not_pending {v : TpObject} (hpending : v.pending = false) : v.timerRef = 0 :=
  if_neg fun h => by simp [hpending] at h

lemma timerRef_of_receiver {v : TpObject} (hrole : v.role = .receiver)
    (hpending : v.pending = true) : v.timerRef = 1 := if_pos ⟨hrole, hpending⟩

namespace TpObject.Inv

variable {linked : Prop} [Decidable linked] {refs callbacks inactivity deletes : ℕ} {v : TpObject}

lemma of_iff {linked' : Prop} [Decidable linked']
    (h : v.Inv linked refs callbacks inactivity deletes) (hiff : linked ↔ linked') :
    v.Inv linked' refs callbacks inactivity deletes := by
  have href : tpListRef linked = tpListRef linked' := by
    unfold tpListRef
    simp only [hiff]
  exact ⟨href ▸ h.refcount, h.released, href ▸ h.unlinked, h.running, h.fired, h.shutdown,
    h.timer⟩

/-- A session that is linked, or that somebody has a reference to, has not been released. -/
lemma refcount_pos (h : v.Inv linked refs callbacks inactivity deletes)
    (hheld : linked ∨ 0 < refs) : 0 < v.refcount := by
  have hcount := h.refcount
  rcases hheld with hlinked | hrefs
  · have hlist : tpListRef linked = 1 := if_pos hlinked
    omega
  · omega

/-- A reference is taken, and somebody is going to drop it. -/
lemma get (h : v.Inv linked refs callbacks inactivity deletes) (hheld : linked ∨ 0 < refs) :
    (tpVarsGet v).Inv linked (refs + 1) callbacks inactivity deletes := by
  have hcount := h.refcount
  have hreleased := h.released
  have hpos := h.refcount_pos hheld
  refine ⟨?_, ?_, h.unlinked, h.running, h.fired, h.shutdown, h.timer⟩
  · change v.refcount + 1 = (tpListRef linked + v.timerRef + (refs + 1) : ℕ)
    omega
  · rw [if_neg hpos.ne'] at hreleased
    rw [if_neg (by change v.refcount + 1 ≠ 0; omega)]
    exact hreleased

/-- A reference is dropped. -/
lemma put (h : v.Inv linked (refs + 1) callbacks inactivity deletes) :
    (tpVarsPut v).Inv linked refs callbacks inactivity deletes := by
  have hcount := h.refcount
  have hreleased := h.released
  have hpos := h.refcount_pos (Or.inr (Nat.succ_pos refs))
  refine ⟨?_, ?_, h.unlinked, h.running, h.fired, h.shutdown, h.timer⟩
  · change v.refcount - 1 = (tpListRef linked + v.timerRef + refs : ℕ)
    omega
  · rw [if_neg hpos.ne'] at hreleased
    change (if v.refcount - 1 = 0 then v.released + 1 else v.released) =
      if v.refcount - 1 = 0 then 1 else 0
    rw [hreleased]

/-- The thread of a sender, or the callback of its timer, arms the timer. -/
lemma arm_sender (h : v.Inv linked refs callbacks inactivity deletes) (hrole : v.role = .sender)
    (hdeletes : 0 < deletes) : (tpModTimer v).Inv linked refs callbacks inactivity deletes := by
  have hcount := h.refcount
  have hbefore := timerRef_of_sender hrole
  have hafter : (tpModTimer v).timerRef = 0 := timerRef_of_sender hrole
  refine ⟨?_, h.released, h.unlinked, h.running, fun hpos => ?_, fun hshut => ?_,
    fun _ _ => hdeletes⟩
  · change v.refcount = _
    omega
  · have hreceiver := (h.fired hpos).1
    rw [hrole] at hreceiver
    cases hreceiver
  · change (!v.shutdown) = false
    rw [show v.shutdown = true from hshut]
    rfl

/-- The callback of the timer of a receiver arms it again, and gives it the reference. -/
lemma arm_receiver (h : v.Inv linked (refs + 1) callbacks (inactivity + 1) deletes)
    (hinactivity : inactivity = 0) :
    (tpModTimer v).Inv linked refs callbacks inactivity deletes := by
  obtain ⟨hrole, hpending, hshutdown⟩ := h.fired (Nat.succ_pos inactivity)
  have hcount := h.refcount
  have hbefore := timerRef_of_not_pending hpending
  have hafter : (tpModTimer v).timerRef = 1 :=
    timerRef_of_receiver hrole (by simp [tpModTimer, hshutdown])
  refine ⟨?_, h.released, h.unlinked, h.running, fun hpos => absurd hpos (by omega),
    fun hshut => ?_, fun hsender => ?_⟩
  · change v.refcount = _
    omega
  · rw [show v.shutdown = true from hshut] at hshutdown
    cases hshutdown
  · rw [show v.role = .sender from hsender] at hrole
    cases hrole

/-- The timer of a sender is deleted: it has no reference of its own. -/
lemma disarm (h : v.Inv linked refs callbacks inactivity deletes) (hrole : v.role = .sender)
    {deletes' : ℕ} (hrunning : v.running = true → 0 < deletes') :
    ({ v with pending := false } : TpObject).Inv linked refs callbacks inactivity deletes' := by
  have hcount := h.refcount
  have hbefore := timerRef_of_sender hrole
  refine ⟨?_, h.released, h.unlinked, h.running, fun hpos => ?_, fun _ => rfl,
    fun _ htimer => hrunning (htimer.resolve_left Bool.false_ne_true)⟩
  · rw [timerRef_of_not_pending rfl]
    change v.refcount = _
    omega
  · obtain ⟨hreceiver, -, hshutdown⟩ := h.fired hpos
    exact ⟨hreceiver, rfl, hshutdown⟩

/-- While the callback does not run there are no operations of it. -/
lemma callbacks_eq_zero (h : v.Inv linked refs callbacks inactivity deletes)
    (hrunning : v.running = false) : callbacks = 0 := by
  have hcallbacks := h.running
  rwa [if_neg (by simp [hrunning])] at hcallbacks

/-- The timer of a receiver is shut down: its reference goes to whoever has done this. -/
lemma shut (h : v.Inv linked refs callbacks inactivity deletes) (hrole : v.role = .receiver)
    (hrunning : ¬ v.running = true) (hle : inactivity ≤ callbacks) :
    ({ v with pending := false, shutdown := true } : TpObject).Inv linked
      (refs + if v.pending then 1 else 0) callbacks inactivity deletes := by
  have hcount := h.refcount
  have hnone := h.callbacks_eq_zero (by simpa using hrunning)
  refine ⟨?_, h.released, h.unlinked, h.running, fun hpos => absurd hpos (by omega), fun _ => rfl,
    fun hsender => ?_⟩
  · rw [timerRef_of_not_pending rfl]
    change v.refcount = _
    cases hpending : v.pending with
    | false =>
      have hbefore := timerRef_of_not_pending hpending
      simp only [Bool.false_eq_true, if_false]
      omega
    | true =>
      have hbefore := timerRef_of_receiver hrole hpending
      simp only [if_true]
      omega
  · rw [show v.role = .sender from hsender] at hrole
    cases hrole

/-- The timer of a receiver fires, and its reference goes to the callback. -/
lemma fire_receiver (h : v.Inv linked refs callbacks inactivity deletes)
    (hrole : v.role = .receiver) (hpending : v.pending = true) (hrunning : v.running = false) :
    ({ v with pending := false, running := true } : TpObject).Inv linked (refs + 1) (callbacks + 1)
      (inactivity + 1) deletes := by
  have hcount := h.refcount
  have hcallbacks := h.running
  have hbefore := timerRef_of_receiver hrole hpending
  have hshutdown : v.shutdown = false := by
    by_contra hshut
    exact Bool.false_ne_true ((h.shutdown (by simpa using hshut)).symm.trans hpending)
  rw [if_neg (by simp [hrunning])] at hcallbacks
  refine ⟨?_, h.released, h.unlinked, by rw [hcallbacks]; rfl, fun _ => ⟨hrole, rfl, hshutdown⟩,
    fun _ => rfl, fun hsender => ?_⟩
  · rw [timerRef_of_not_pending rfl]
    change v.refcount = _
    omega
  · rw [show v.role = .sender from hsender] at hrole
    cases hrole

/-- The timer of a sender fires. -/
lemma fire_sender (h : v.Inv linked refs callbacks inactivity deletes) (hrole : v.role = .sender)
    (hpending : v.pending = true) (hrunning : v.running = false) :
    ({ v with pending := false, running := true } : TpObject).Inv linked refs (callbacks + 1)
      inactivity deletes := by
  have hcount := h.refcount
  have hcallbacks := h.running
  have hbefore := timerRef_of_sender hrole
  rw [if_neg (by simp [hrunning])] at hcallbacks
  refine ⟨?_, h.released, h.unlinked, by rw [hcallbacks]; rfl, fun hpos => ?_, fun _ => rfl,
    fun _ _ => h.timer hrole (Or.inl hpending)⟩
  · rw [timerRef_of_not_pending rfl]
    change v.refcount = _
    omega
  · obtain ⟨hreceiver, -, hshutdown⟩ := h.fired hpos
    exact ⟨hreceiver, rfl, hshutdown⟩

/-- The callback of the timer ends. -/
lemma callbackReturn (h : v.Inv linked refs (callbacks + 1) inactivity deletes) :
    callbacks = 0 ∧
      ({ v with running := false } : TpObject).Inv linked refs callbacks inactivity deletes := by
  have hcallbacks := h.running
  have hnone : callbacks = 0 := by
    split_ifs at hcallbacks
    omega
  exact ⟨hnone, h.refcount, h.released, h.unlinked, hnone, h.fired, h.shutdown,
    fun hsender htimer => h.timer hsender (htimer.imp_right (absurd · Bool.false_ne_true))⟩

end TpObject.Inv

/-- Nothing changes for the session if the operations hold the same references, are no more about an
inactive receiver, and still delete the timer. -/
lemma TpKeeps.same {linked : Prop} [Decidable linked] {old new : List TpOp} (v : TpObject)
    (hrefs : (new.map TpOp.refs).sum = (old.map TpOp.refs).sum)
    (hcallbacks : (new.map TpOp.callbacks).sum = (old.map TpOp.callbacks).sum)
    (hinactivity : (new.map TpOp.inactivity).sum ≤ (old.map TpOp.inactivity).sum)
    (hdeletes : (old.map TpOp.deletes).sum ≤ (new.map TpOp.deletes).sum) :
    TpKeeps linked linked old new v v := by
  intro refs callbacks inactivity deletes _ h
  refine ⟨?_, h.released, h.unlinked, ?_, fun hpos => h.fired (by omega), h.shutdown,
    fun hsender htimer => ?_⟩
  · rw [hrefs]
    exact h.refcount
  · rw [hcallbacks]
    exact h.running
  · have hpos := h.timer hsender htimer
    omega

/-- **Every operation on a session keeps its references counted.**

**Proof sketch.** One case for each operation; the timer that a callback arms again was not armed,
since the callback runs once. -/
theorem tpVarsExec_keeps {input : TpOpInput} {p : ℕ} {v v' : TpObject} {op : TpVarsOp}
    {now : List TpOp} {spawned : List (List TpOp)} {linked : Prop} [Decidable linked]
    (hrole : ∀ role, (TpOp.on p op).role = some role → v.role = role)
    (h : tpVarsExec input p v op = some (v', now, spawned)) :
    TpKeeps linked linked [.on p op] (now ++ spawned.flatten) v v' := by
  cases op with
  | startKthread =>
    cases h
    intro refs callbacks inactivity deletes _ hinv
    have hget := hinv.get (Or.inr (Nat.add_pos_left Nat.two_pos refs))
    exact (Nat.add_right_comm 2 refs 1) ▸ hget
  | createKthread =>
    rw [tpVarsExec] at h
    split_ifs at h
    · cases h
      exact TpKeeps.same v rfl rfl le_rfl (Nat.le_succ 0)
    · cases h
      exact TpKeeps.same v rfl rfl le_rfl (Nat.le_succ 0)
  | sendInit =>
    have hsender := hrole .sender rfl
    rw [tpVarsExec] at h
    split_ifs at h
    · cases h
      exact TpKeeps.same v rfl rfl le_rfl le_rfl
    · cases h
      intro refs callbacks inactivity deletes _ hinv
      exact hinv.arm_sender hsender (Nat.add_pos_left Nat.one_pos deletes)
    · cases h
      exact TpKeeps.same v rfl rfl le_rfl le_rfl
  | send =>
    rw [tpVarsExec] at h
    split_ifs at h
    · cases h
      exact TpKeeps.same v rfl rfl le_rfl le_rfl
    · cases h
      exact TpKeeps.same v rfl rfl le_rfl le_rfl
  | put =>
    cases h
    intro refs callbacks inactivity deletes _ hinv
    refine (Nat.zero_add refs).symm ▸ TpObject.Inv.put ?_
    exact (Nat.add_comm 1 refs) ▸ hinv
  | timerDeleteSync =>
    have hsender := hrole .sender rfl
    rw [tpVarsExec] at h
    split_ifs at h with hrunning
    cases h
    intro refs callbacks inactivity deletes _ hinv
    exact hinv.disarm hsender (absurd · hrunning)
  | timerDelete =>
    have hsender := hrole .sender rfl
    cases h
    intro refs callbacks inactivity deletes _ hinv
    exact hinv.disarm hsender fun hrunning => hinv.timer hsender (Or.inr hrunning)
  | complete =>
    cases h
    intro refs callbacks inactivity deletes _ hinv
    exact ⟨hinv.refcount, hinv.released, hinv.unlinked, hinv.running, hinv.fired, hinv.shutdown,
      hinv.timer⟩
  | wait =>
    rw [tpVarsExec] at h
    split_ifs at h
    cases h
    intro refs callbacks inactivity deletes _ hinv
    exact ⟨hinv.refcount, hinv.released, hinv.unlinked, hinv.running, hinv.fired, hinv.shutdown,
      hinv.timer⟩
  | timerShutdownSync =>
    have hreceiver := hrole .receiver rfl
    rw [tpVarsExec] at h
    split_ifs at h with hrunning hpending
    · cases h
      intro refs callbacks inactivity deletes hle hinv
      have hold : v.Inv linked refs callbacks inactivity deletes := by
        simpa [TpOp.refs, TpOp.callbacks, TpOp.inactivity, TpOp.deletes] using hinv
      simpa [hpending, TpOp.refs, TpOp.callbacks, TpOp.inactivity, TpOp.deletes, add_comm] using
        hold.shut hreceiver hrunning hle
    · cases h
      intro refs callbacks inactivity deletes hle hinv
      have hold : v.Inv linked refs callbacks inactivity deletes := by
        simpa [TpOp.refs, TpOp.callbacks, TpOp.inactivity, TpOp.deletes] using hinv
      simpa [hpending] using hold.shut hreceiver hrunning hle
  | receiverShutdown =>
    rw [tpVarsExec] at h
    split_ifs at h
    · cases h
      intro refs callbacks inactivity deletes hle hinv
      have hold : v.Inv linked (refs + 1) (callbacks + 1) (inactivity + 1) deletes := by
        simpa [TpOp.refs, TpOp.callbacks, TpOp.inactivity, TpOp.deletes, add_comm] using hinv
      have hnone := hold.callbackReturn.1
      simpa [TpOp.refs, TpOp.callbacks, TpOp.inactivity, TpOp.deletes, add_comm]
        using hold.arm_receiver (by omega)
    · cases h
      exact TpKeeps.same v rfl rfl (Nat.le_succ 0) le_rfl
  | senderTimeout =>
    rw [tpVarsExec] at h
    have hsender := hrole .sender rfl
    split_ifs at h
    · cases h
      intro refs callbacks inactivity deletes _ hinv
      have hrunning : v.running = true := by
        by_contra hnot
        have hnone := hinv.callbacks_eq_zero (by simpa using hnot)
        simp [TpOp.callbacks] at hnone
      exact hinv.arm_sender hsender (hinv.timer hsender (Or.inr hrunning))
    · cases h
      exact TpKeeps.same v rfl rfl le_rfl le_rfl
  | callbackReturn =>
    cases h
    intro refs callbacks inactivity deletes _ hinv
    have hold : v.Inv linked refs (callbacks + 1) inactivity deletes := by
      simpa [TpOp.refs, TpOp.callbacks, TpOp.inactivity, TpOp.deletes, add_comm] using hinv
    simpa using hold.callbackReturn.2

/-- What replaces an operation on a session is about this session, which keeps its role and its
other end. -/
lemma tpVarsExec_about {input : TpOpInput} {p : ℕ} {v v' : TpObject} {op : TpVarsOp}
    {now : List TpOp} {spawned : List (List TpOp)}
    (hrole : ∀ role, (TpOp.on p op).role = some role → v.role = role)
    (h : tpVarsExec input p v op = some (v', now, spawned)) :
    TpAbout p v (now ++ spawned.flatten) ∧ v'.role = v.role ∧ v'.otherEnd = v.otherEnd := by
  have hsender (hop : (TpOp.on p op).role = some .sender) := hrole .sender hop
  have hreceiver (hop : (TpOp.on p op).role = some .receiver) := hrole .receiver hop
  unfold TpAbout
  cases op
  all_goals
    rw [tpVarsExec] at h
    try split_ifs at h
  all_goals
    cases h
    simp_all [TpOp.vars, TpOp.role, tpVarsGet, tpVarsPut, tpModTimer, tpSendOut, tpSenderCleanup]

end Batadv
