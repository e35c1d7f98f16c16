import BatmanAdv.Lib.Run
import BatmanAdv.Lib.Table
import BatmanAdv.Main

set_option relaxedAutoImplicit false
set_option autoImplicit false

/-!
# Forwarding packets

A packet that is to be sent later is a `struct batadv_forw_packet`: it is linked into a list, and
a delayed work item sends it.  The worker may queue it again, or frees it; a purge takes packets out
of the list and frees them.  Who frees a packet is decided under the lock of the list, by the two
list nodes of the packet: `list` is linked while the packet is in the list, `cleanup_list` is hashed
once somebody has claimed it.

The steps that are interleaved are the sections under a lock, and what happens between them: a
packet is allocated, queued, its worker starts, sends the packet, queues it again or claims it,
frees it and returns; a purge claims what is in the lists, and then cancels and frees one packet
after the other.  A work item is not run by two workers at a time, and what cancels it waits for its
worker.

A list is modelled by the state of the nodes of the packets; the purge may free what it has claimed
in any order.

## Main definitions

* `Batadv.ForwPacket` — a packet, with its work item, and what has happened to it.
* `Batadv.forwPacketAlloc`, `Batadv.forwPacketQueue`, `Batadv.forwPacketSteal`,
  `Batadv.forwPacketListSteal`, `Batadv.forwPacketFree` — the functions of `send.c`.
* `Batadv.forwStep` — a step of any of the parties.
-/

namespace Batadv

/-- Which list and lock a packet belongs to: the broadcast packets or the OGMs. -/
inductive ForwStore
  | bcast
  | bat
deriving DecidableEq, Repr

/-- Who can claim a packet: its worker, or a purge. -/
inductive ForwParty
  | worker
  | purge (q : ℕ)
deriving DecidableEq, Repr

/-- The node `cleanup_list`: not hashed, made hashed by `hlist_add_fake`, in the list of a purge, or
taken out of that with `hlist_del`, which leaves it hashed. -/
inductive CleanupNode
  | unhashed
  | fake
  | list (q : ℕ)
  | poison
deriving DecidableEq, Repr

/-- Where a running worker is: at its start, about to queue the packet again or to claim it, about
to free it, or about to return. -/
inductive ForwWorker
  | start
  | queue
  | steal
  | free
  | return
deriving DecidableEq, Repr

/-- What has happened to a packet: who claimed it and who freed it, and whether it was used after it
was freed, or queued after it was claimed. -/
structure ForwHistory where
  claims : List ForwParty
  frees : List ForwParty
  usedAfterFree : Bool
  queuedAfterClaim : Bool
deriving DecidableEq, Repr

/-- `struct batadv_forw_packet`, with the party that allocated it and has not queued it yet, its
work item, and its history.  `queueLeft` says which counter it holds. -/
structure ForwPacket where
  store : ForwStore
  ifIncoming : Option ℕ
  ifOutgoing : Option ℕ
  queueLeft : Option ForwStore
  numBcasts : U8
  linked : Bool
  cleanupList : CleanupNode
  sender : Bool
  pending : Bool
  worker : Option ForwWorker
  history : ForwHistory
deriving DecidableEq, Repr

/-- Where a purge is: about to claim the broadcast packets, then the OGMs, freeing what it claimed,
having cancelled the work of one of these packets or none, or done. -/
inductive PurgePhase
  | stealBcast
  | stealBat
  | free (cancelled : Option ℕ)
  | done
deriving DecidableEq, Repr

/-- A run of `batadv_purge_outstanding_packets`. -/
structure ForwPurge where
  hardIface : Option ℕ
  phase : PurgePhase
deriving DecidableEq, Repr

/-- The packets that were ever allocated, the counters, and the purges. -/
structure ForwState where
  packets : Table ℕ ForwPacket
  bcastQueueLeft : ℕ
  batmanQueueLeft : ℕ
  purges : Table ℕ ForwPurge
deriving DecidableEq, Repr

/-- The state before anything is sent. -/
def ForwState.init (bcastQueueLeft batmanQueueLeft : ℕ) : ForwState :=
  ⟨[], bcastQueueLeft, batmanQueueLeft, []⟩

/-! ### The functions -/

/-- The value of a counter. -/
def ForwState.queueLeft (s : ForwState) : ForwStore → ℕ
  | .bcast => s.bcastQueueLeft
  | .bat => s.batmanQueueLeft

/-- The state with another value of a counter, if any. -/
def ForwState.setQueueLeft (s : ForwState) (counter : Option ForwStore) (f : ℕ → ℕ) : ForwState :=
  match counter with
  | some .bcast => { s with bcastQueueLeft := f s.bcastQueueLeft }
  | some .bat => { s with batmanQueueLeft := f s.batmanQueueLeft }
  | none => s

/-- A packet is used: this must not happen once it was freed. -/
def ForwPacket.use (p : ForwPacket) : ForwPacket :=
  let history := { p.history with
    usedAfterFree := p.history.usedAfterFree || !p.history.frees.isEmpty }
  { p with history := history }

/-- `batadv_forw_packet_alloc`, as the object `i`; `alloc` says whether there is memory. -/
def forwPacketAlloc (s : ForwState) (i : ℕ) (store : ForwStore) (ifIncoming ifOutgoing : Option ℕ)
    (queueLeft : Option ForwStore) (numBcasts : U8) (alloc : Bool) : ForwState :=
  -- the queue is full
  if queueLeft.any fun counter => s.queueLeft counter = 0 then s
  else
    let s := s.setQueueLeft queueLeft fun n => n - 1
    if !alloc then s.setQueueLeft queueLeft fun n => n + 1
    else
      let p : ForwPacket := ⟨store, ifIncoming, ifOutgoing, queueLeft, numBcasts, false, .unhashed,
        true, false, none, ⟨[], [], false, false⟩⟩
      { s with packets := s.packets.set i p }

/-- `batadv_forw_packet_was_stolen`. -/
def ForwPacket.wasStolen (p : ForwPacket) : Bool := p.cleanupList != .unhashed

/-- `batadv_forw_packet_queue`, under the lock. -/
def forwPacketQueue (p : ForwPacket) : ForwPacket :=
  let p := p.use
  -- did purging routine steal it from us?
  if p.wasStolen then p
  else
    let history := { p.history with
      queuedAfterClaim := p.history.queuedAfterClaim || !p.history.claims.isEmpty }
    { p with linked := true, pending := true, history := history }

/-- A packet is claimed. -/
def ForwPacket.claim (p : ForwPacket) (party : ForwParty) : ForwPacket :=
  { p with history := { p.history with claims := party :: p.history.claims } }

/-- `batadv_forw_packet_steal`, under the lock. -/
def forwPacketSteal (p : ForwPacket) : Bool × ForwPacket :=
  let p := p.use
  if p.wasStolen then (false, p)
  else (true, { p.claim .worker with linked := false, cleanupList := .fake })

/-- What `batadv_forw_packet_list_steal` does with a packet, under the lock of a list. -/
def forwPacketListSteal (store : ForwStore) (q : ℕ) (hardIface : Option ℕ) (p : ForwPacket) :
    ForwPacket :=
  if p.store != store || !p.linked then p
  else
    let p := p.use
    if hardIface.isSome && p.ifIncoming != hardIface && p.ifOutgoing != hardIface then p
    else { p.claim (.purge q) with linked := false, cleanupList := .list q }

/-- A packet is freed. -/
def ForwPacket.freed (p : ForwPacket) (party : ForwParty) : ForwPacket :=
  { p with history := { p.history with frees := party :: p.history.frees } }

/-- `batadv_forw_packet_free`, by a party. -/
def forwPacketFree (s : ForwState) (i : ℕ) (p : ForwPacket) (party : ForwParty) : ForwState :=
  let s := { s with packets := s.packets.set i (p.use.freed party) }
  s.setQueueLeft p.queueLeft fun n => n + 1

/-- What a worker finds when it sends a packet: the mesh is being deactivated, the distributed ARP
table makes the broadcast unnecessary, the packet cannot be cloned, or it is sent. -/
inductive SendOutcome
  | deactivating
  | datDrop
  | cloneFailed
  | sent
deriving DecidableEq, Repr

/-- `batadv_send_outstanding_bcast_packet` and `batadv_iv_send_outstanding_bat_ogm_packet` up to the
section under the lock: a broadcast packet is queued again while there are transmissions left. -/
def sendOutstanding (outcome : SendOutcome) (p : ForwPacket) : ForwPacket :=
  let p := p.use
  match p.store, outcome with
  | .bcast, .sent =>
    let numBcasts := p.numBcasts - 1
    { p with
      numBcasts := numBcasts, worker := some (if numBcasts ≠ 0 then .queue else .steal) }
  | _, _ => { p with worker := some .steal }

/-- The section under the lock of a running worker, after which it returns or frees the packet. -/
def workerLocked (p : ForwPacket) : ForwPacket :=
  match p.worker with
  | some .queue => { forwPacketQueue p with worker := some .return }
  | some .steal =>
    let (stolen, p) := forwPacketSteal p
    { p with worker := some (if stolen then .free else .return) }
  | _ => p

/-! ### Steps -/

/-- A step of one of the parties: a packet is allocated, or queued for the first time; its worker
starts, sends it, executes its section under the lock, frees it, or returns; a purge starts, claims
what is in a list, cancels the work of a packet, frees it, or is done. -/
inductive ForwEvent
  | alloc (i : ℕ) (store : ForwStore) (ifIncoming ifOutgoing : Option ℕ)
      (queueLeft : Option ForwStore) (numBcasts : U8) (alloc : Bool)
  | queue (i : ℕ)
  | workerStart (i : ℕ)
  | workerSend (i : ℕ) (outcome : SendOutcome)
  | workerLocked (i : ℕ)
  | workerFree (i : ℕ)
  | workerReturn (i : ℕ)
  | purge (q : ℕ) (hardIface : Option ℕ)
  | purgeSteal (q : ℕ)
  | purgeCancel (q i : ℕ)
  | purgeFree (q i : ℕ)
  | purgeDone (q : ℕ)
deriving DecidableEq, Repr

/-- The state when a packet is changed. -/
def ForwState.modify (s : ForwState) (i : ℕ) (f : ForwPacket → ForwPacket) : ForwState :=
  match s.packets.get i with
  | some p => { s with packets := s.packets.set i (f p) }
  | none => s

/-- The state when a purge gets on. -/
def ForwState.setPhase (s : ForwState) (q : ℕ) (u : ForwPurge) (phase : PurgePhase) : ForwState :=
  { s with purges := s.purges.set q { u with phase := phase } }

/-- The state when a purge claims the packets of a list. -/
def ForwState.listSteal (s : ForwState) (store : ForwStore) (q : ℕ) (hardIface : Option ℕ) :
    ForwState :=
  { s with packets := s.packets.map fun e => (e.1, forwPacketListSteal store q hardIface e.2) }

/-- `batadv_forw_packet_list_free` when the work of a packet in the list of a purge has been
cancelled. -/
def forwPacketListFree (s : ForwState) (q i : ℕ) (p : ForwPacket) : ForwState :=
  forwPacketFree s i { p with cleanupList := .poison } (.purge q)

/-- The state after a step.  A step that a party is not about to do changes nothing. -/
def forwStep (s : ForwState) : ForwEvent → ForwState
  | .alloc i store ifIncoming ifOutgoing queueLeft numBcasts alloc =>
    if (s.packets.get i).isSome then s
    else forwPacketAlloc s i store ifIncoming ifOutgoing queueLeft numBcasts alloc
  | .queue i => s.modify i fun p =>
    if p.sender then { forwPacketQueue p with sender := false } else p
  | .workerStart i => s.modify i fun p =>
    -- the work item is not running already
    if p.pending && p.worker.isNone then
      { p.use with pending := false, worker := some .start }
    else p
  | .workerSend i outcome => s.modify i fun p =>
    if p.worker = some .start then sendOutstanding outcome p else p
  | .workerLocked i => s.modify i workerLocked
  | .workerFree i =>
    match s.packets.get i with
    | some p =>
      if p.worker = some .free then forwPacketFree s i { p with worker := none } .worker else s
    | none => s
  | .workerReturn i => s.modify i fun p =>
    if p.worker = some .return then { p with worker := none } else p
  | .purge q hardIface =>
    if (s.purges.get q).isSome then s
    else { s with purges := s.purges.set q ⟨hardIface, .stealBcast⟩ }
  | .purgeSteal q =>
    match s.purges.get q with
    | some u =>
      match u.phase with
      | .stealBcast => (s.listSteal .bcast q u.hardIface).setPhase q u .stealBat
      | .stealBat => (s.listSteal .bat q u.hardIface).setPhase q u (.free none)
      | _ => s
    | none => s
  | .purgeCancel q i =>
    match s.purges.get q, s.packets.get i with
    | some u, some p =>
      -- waits until the worker has returned
      if u.phase = .free none ∧ p.cleanupList = .list q ∧ p.worker = none then
        (s.modify i fun p => { p.use with pending := false }).setPhase q u (.free (some i))
      else s
    | _, _ => s
  | .purgeFree q i =>
    match s.purges.get q, s.packets.get i with
    | some u, some p =>
      if u.phase = .free (some i) then (forwPacketListFree s q i p).setPhase q u (.free none) else s
    | _, _ => s
  | .purgeDone q =>
    match s.purges.get q with
    | some u =>
      -- the list is empty
      if u.phase = .free none ∧ ∀ e ∈ s.packets, e.2.cleanupList ≠ .list q then
        s.setPhase q u .done
      else s
    | none => s

end Batadv
