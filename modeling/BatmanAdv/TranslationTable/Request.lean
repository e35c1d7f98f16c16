import BatmanAdv.Lib.Run
import BatmanAdv.Main
import Mathlib.Data.List.Count

set_option relaxedAutoImplicit false
set_option autoImplicit false

/-!
# Requests for a translation table (`translation-table.c`)

Before a node sends a request to an originator it links a marker into a list, and as long as the
marker is there and young, no other request is sent to that originator.  A response takes the
marker out of the list, a timer does if no response comes, and the sender itself does after it has
sent the request, though not if it has failed to.

Several senders may be at work at the same time.  A step is one section under the lock of the
list, or what a sender does between two of them.  The list is given by the markers that are linked
in.  A marker knows how far the call that has created it has got.

## Main definitions

* `Batadv.TtReqNode`, `Batadv.TtReqState` — the markers, and the state with the requests that are
  outstanding.
* `Batadv.TtReqEvent`, `Batadv.ttReqStep` — the steps.
* `Batadv.TtReqState.Good` — at most one request is outstanding, and the markers are cleaned up.
* `Batadv.TtReqEvent.Disciplined` — a step that does no harm.

## Main results

* `Batadv.TtReqNode.Ok` — a marker is freed once, whatever happens.
* `Batadv.tt_one_request` — what holds after disciplined steps.
* `Batadv.TtReqState.not_good_of_no_marker` — a request without a marker is followed by another.
-/

namespace Batadv

/-! ### Markers -/

/-- How far a call of `batadv_send_tt_request` has got: it has created its marker, it has sent the
request, it has failed to, it has taken the marker out of the list, or it is over, with its return
value. -/
inductive TtReqPhase
  | created
  | sent
  | failed
  | unlinked
  | done (ret : Bool)
deriving DecidableEq, Repr

/-- `struct batadv_tt_req_node`, whether it is in the list, how often it has been freed, and how
far the call has got that has created it. -/
structure TtReqNode where
  addr : EthAddr
  issuedAt : Jiffies
  linked : Bool
  refcount : ℕ
  frees : ℕ
  phase : TtReqPhase
deriving DecidableEq, Repr

/-- The markers that have ever been created, in the order of their creation, and the requests that
are outstanding, each with the time when it was sent: neither has a response of the originator
been processed since, nor has the timeout elapsed. -/
structure TtReqState where
  jiffies : Jiffies
  nodes : List TtReqNode
  outstanding : List (EthAddr × Jiffies)
deriving DecidableEq, Repr

/-- `BATADV_TT_REQUEST_TIMEOUT`: three seconds in milliseconds. -/
def TT_REQUEST_TIMEOUT : ℕ := 3000

/-- `batadv_tt_req_node_put`. -/
def TtReqNode.put (n : TtReqNode) : TtReqNode :=
  { n with
    refcount := n.refcount - 1
    frees := if n.refcount - 1 = 0 then n.frees + 1 else n.frees }

/-- Take a marker out of the list, if it is there, and drop the reference of the list. -/
def TtReqNode.unlink (n : TtReqNode) : TtReqNode :=
  if n.linked then { n.put with linked := false } else n

/-! ### Steps -/

/-- A step: the clock ticks, a call of `batadv_send_tt_request` begins, the call that has created
the `i`-th marker goes on, a response of an originator is processed, or the timer runs. -/
inductive TtReqEvent
  | tick
  | start (orig : EthAddr) (primaryIf alloc : Bool)
  | send (i : ℕ) (alloc : Bool)
  | unlink (i : ℕ)
  | put (i : ℕ)
  | response (orig : EthAddr)
  | purge
deriving DecidableEq, Repr

variable (msecsToJiffies : ℕ → Jiffies)

/-- Whether a marker suppresses a request to the originator (`batadv_tt_req_node_new`). -/
def TtReqNode.suppresses (jiffies : Jiffies) (orig : EthAddr) (n : TtReqNode) : Bool :=
  n.linked && n.addr == orig &&
    !hasTimedOut msecsToJiffies jiffies n.issuedAt TT_REQUEST_TIMEOUT

/-- Whether a call that begins gets to create its marker. -/
def ttReqCreates (s : TtReqState) (orig : EthAddr) (primaryIf alloc : Bool) : Bool :=
  primaryIf && !(s.nodes.any (TtReqNode.suppresses msecsToJiffies s.jiffies orig)) && alloc

/-- `batadv_send_tt_request` up to and with `batadv_tt_req_node_new`: the marker has a reference
of the list and one of the call. -/
def ttSendStart (s : TtReqState) (orig : EthAddr) (primaryIf alloc : Bool) : TtReqState :=
  if ttReqCreates msecsToJiffies s orig primaryIf alloc then
    { s with nodes := s.nodes ++ [⟨orig, s.jiffies, true, 2, 0, .created⟩] }
  else s

/-- `batadv_send_tt_request` between the two sections: memory for the request is allocated, and it
is sent. -/
def ttSendRequest (s : TtReqState) (i : ℕ) (alloc : Bool) : TtReqState :=
  match s.nodes[i]? with
  | none => s
  | some n =>
    if n.phase ≠ .created then s
    else if !alloc then { s with nodes := s.nodes.set i { n with phase := .failed } }
    else
      { s with
        nodes := s.nodes.set i { n with phase := .sent }
        outstanding := (n.addr, s.jiffies) :: s.outstanding }

/-- The last section of `batadv_send_tt_request`, which is entered if the request was sent. -/
def ttSendUnlink (s : TtReqState) (i : ℕ) : TtReqState :=
  match s.nodes[i]? with
  | none => s
  | some n =>
    if n.phase ≠ .sent then s
    else { s with nodes := s.nodes.set i { n.unlink with phase := .unlinked } }

/-- The end of `batadv_send_tt_request`: the reference of the call is dropped. -/
def ttSendPut (s : TtReqState) (i : ℕ) : TtReqState :=
  match s.nodes[i]? with
  | none => s
  | some n =>
    if n.phase = .unlinked then
      { s with nodes := s.nodes.set i { n.put with phase := .done true } }
    else if n.phase = .failed then
      { s with nodes := s.nodes.set i { n.put with phase := .done false } }
    else s

/-- The end of `batadv_handle_tt_response`: the markers of the originator are dropped. -/
def ttReqResponse (s : TtReqState) (orig : EthAddr) : TtReqState :=
  { s with
    nodes := s.nodes.map fun n => if n.addr == orig then n.unlink else n
    outstanding := s.outstanding.filter fun r => r.1 != orig }

/-- `batadv_tt_req_purge`. -/
def ttReqPurge (s : TtReqState) : TtReqState :=
  { s with
    nodes := s.nodes.map fun n =>
      if hasTimedOut msecsToJiffies s.jiffies n.issuedAt TT_REQUEST_TIMEOUT then n.unlink else n }

/-- The clock ticks; a request that has been sent too long ago is not outstanding any more. -/
def ttReqTick (s : TtReqState) : TtReqState :=
  { s with
    jiffies := s.jiffies + 1
    outstanding := s.outstanding.filter fun r =>
      !hasTimedOut msecsToJiffies (s.jiffies + 1) r.2 TT_REQUEST_TIMEOUT }

/-- The state after a step. -/
def ttReqStep (s : TtReqState) : TtReqEvent → TtReqState
  | .tick => ttReqTick msecsToJiffies s
  | .start orig primaryIf alloc => ttSendStart msecsToJiffies s orig primaryIf alloc
  | .send i alloc => ttSendRequest s i alloc
  | .unlink i => ttSendUnlink s i
  | .put i => ttSendPut s i
  | .response orig => ttReqResponse s orig
  | .purge => ttReqPurge msecsToJiffies s

/-- The state before any request was sent. -/
def TtReqState.new (jiffies : Jiffies) : TtReqState := ⟨jiffies, [], []⟩

/-! ### What should hold, and when it does -/

/-- At most one request to each originator is outstanding, a call that has failed has left no
marker in the list, and every marker is freed once, when it is out of the list and its call is
over. -/
structure TtReqState.Good (s : TtReqState) : Prop where
  once : (s.outstanding.map Prod.fst).Nodup
  clean : ∀ n ∈ s.nodes, n.phase = .done false → n.linked = false
  freed : ∀ n ∈ s.nodes,
    n.frees ≤ 1 ∧ (n.frees = 1 ↔ n.linked = false ∧ ∃ ret, n.phase = .done ret)

/-- Whether a marker is in the list, and the timeout has not elapsed since its creation. -/
def TtReqNode.pending (jiffies : Jiffies) (n : TtReqNode) : Bool :=
  n.linked && !hasTimedOut msecsToJiffies jiffies n.issuedAt TT_REQUEST_TIMEOUT

/-- A step that does no harm.  The last section of a call that has sent its request does not find
its marker in the list any more, or only after the timeout; and a call that fails does not find it
there either, as nobody takes it out.  A request is sent while its marker is in the list, and the
clock does not tick between the creation of a marker and that, as the marker counts the time from
its creation. -/
def TtReqEvent.Disciplined (s : TtReqState) : TtReqEvent → Prop
  | .tick => ∀ n ∈ s.nodes, n.phase = .created → n.linked = false
  | .send i alloc => ∀ n ∈ s.nodes[i]?, n.phase = .created →
    if alloc then n.pending msecsToJiffies s.jiffies = true else n.linked = false
  | .unlink i => ∀ n ∈ s.nodes[i]?, n.phase = .sent → n.pending msecsToJiffies s.jiffies = false
  | _ => True

instance (s : TtReqState) (e : TtReqEvent) : Decidable (e.Disciplined msecsToJiffies s) :=
  match e with
  | .tick => inferInstanceAs (Decidable (∀ n ∈ s.nodes, n.phase = .created → n.linked = false))
  | .send i alloc => inferInstanceAs (Decidable (∀ n ∈ s.nodes[i]?, n.phase = .created →
      if alloc then n.pending msecsToJiffies s.jiffies = true else n.linked = false))
  | .unlink i => inferInstanceAs (Decidable (∀ n ∈ s.nodes[i]?, n.phase = .sent →
      n.pending msecsToJiffies s.jiffies = false))
  | .start _ _ _ | .put _ | .response _ | .purge => .isTrue trivial

/-! ### References -/

/-- Whether the call that has created the marker still holds it. -/
def TtReqNode.held (n : TtReqNode) : Bool :=
  match n.phase with
  | .done _ => false
  | _ => true

/-- A marker counts the references of the list and of its call, and has been freed if there are
none. -/
structure TtReqNode.Ok (n : TtReqNode) : Prop where
  refcount : n.refcount = n.linked.toNat + n.held.toNat
  frees : n.frees = if n.refcount = 0 then 1 else 0

/-- Taking a marker out of the list. -/
lemma TtReqNode.Ok.unlink {n : TtReqNode} (h : n.Ok) : n.unlink.Ok := by
  obtain ⟨hrefs, hfrees⟩ := h
  unfold TtReqNode.unlink
  split_ifs with hlinked
  · rw [hlinked] at hrefs
    have hheld : ({ n.put with linked := false } : TtReqNode).held = n.held := rfl
    constructor
    · rw [hheld]
      simp [TtReqNode.put, hrefs]
    · have hpos : n.refcount ≠ 0 := by simp [hrefs]
      rw [if_neg hpos] at hfrees
      simp [TtReqNode.put, hfrees]
  · exact ⟨hrefs, hfrees⟩

/-- The call that has created a marker is over. -/
lemma TtReqNode.Ok.put {n : TtReqNode} (h : n.Ok) (hheld : n.held = true) (ret : Bool) :
    TtReqNode.Ok { n.put with phase := .done ret } := by
  obtain ⟨hrefs, hfrees⟩ := h
  rw [hheld] at hrefs
  have hpos : n.refcount ≠ 0 := by simp [hrefs]
  rw [if_neg hpos] at hfrees
  constructor
  · simp [TtReqNode.put, TtReqNode.held, hrefs]
  · simp [TtReqNode.put, hfrees]

/-- The call goes on. -/
lemma TtReqNode.Ok.setPhase {n : TtReqNode} (h : n.Ok) {phase : TtReqPhase}
    (hheld : ({ n with phase := phase } : TtReqNode).held = n.held) :
    TtReqNode.Ok { n with phase := phase } :=
  ⟨h.refcount.trans (by rw [hheld]), h.frees⟩

@[simp] lemma TtReqNode.unlink_phase (n : TtReqNode) : n.unlink.phase = n.phase := by
  unfold TtReqNode.unlink
  split_ifs <;> rfl

@[simp] lemma TtReqNode.unlink_addr (n : TtReqNode) : n.unlink.addr = n.addr := by
  unfold TtReqNode.unlink
  split_ifs <;> rfl

@[simp] lemma TtReqNode.unlink_linked (n : TtReqNode) : n.unlink.linked = false := by
  unfold TtReqNode.unlink
  split_ifs with h
  · rfl
  · simpa using h

/-- A marker that counts its references is freed once. -/
lemma TtReqNode.Ok.freed {n : TtReqNode} (h : n.Ok) :
    n.frees ≤ 1 ∧ (n.frees = 1 ↔ n.linked = false ∧ ∃ ret, n.phase = .done ret) := by
  obtain ⟨hrefs, hfrees⟩ := h
  have hzero : n.refcount = 0 ↔ n.linked = false ∧ ∃ ret, n.phase = .done ret := by
    rw [hrefs]
    unfold TtReqNode.held
    cases n.linked <;> cases n.phase <;> simp
  rw [← hzero, hfrees]
  split_ifs with h
  · exact ⟨le_rfl, by simp [h]⟩
  · exact ⟨Nat.zero_le 1, by simp [h]⟩

/-! ### The invariant -/

variable {msecsToJiffies : ℕ → Jiffies}

/-- A marker that is pending suppresses requests to its originator. -/
lemma TtReqNode.suppresses_eq (jiffies : Jiffies) (orig : EthAddr) (n : TtReqNode) :
    n.suppresses msecsToJiffies jiffies orig =
      (n.pending msecsToJiffies jiffies && n.addr == orig) := by
  unfold TtReqNode.suppresses TtReqNode.pending
  rw [Bool.and_assoc, Bool.and_assoc, Bool.and_comm (n.addr == orig)]

/-- A marker is pending while it is in the list and young. -/
lemma TtReqNode.pending_iff {jiffies : Jiffies} {n : TtReqNode} :
    n.pending msecsToJiffies jiffies = true ↔ n.linked = true ∧
      hasTimedOut msecsToJiffies jiffies n.issuedAt TT_REQUEST_TIMEOUT = false := by
  simp [TtReqNode.pending]

/-- A marker that has been taken out of the list is not pending. -/
lemma TtReqNode.pending_unlink (jiffies : Jiffies) (n : TtReqNode) :
    n.unlink.pending msecsToJiffies jiffies = false := by
  simp [TtReqNode.pending]

variable (msecsToJiffies)

/-- Whether the marker is pending, and of a call that has still to send its request to the
originator. -/
def TtReqNode.waits (jiffies : Jiffies) (orig : EthAddr) (n : TtReqNode) : Bool :=
  n.pending msecsToJiffies jiffies && n.addr == orig && n.phase == .created

/-- How many calls with a pending marker have still to send a request to an originator, and how
many requests to it are outstanding. -/
def TtReqState.load (s : TtReqState) (orig : EthAddr) : ℕ :=
  s.nodes.countP (TtReqNode.waits msecsToJiffies s.jiffies orig) +
    s.outstanding.countP fun r => r.1 == orig

/-- What disciplined steps keep: every marker counts its references, a call that has failed has
no marker in the list, and each originator is asked at most once.  The last holds because every
request that is outstanding has a pending marker: it was created when the request was sent, and
the call has not taken it out of the list. -/
structure TtReqState.Inv (s : TtReqState) : Prop where
  ok : ∀ n ∈ s.nodes, n.Ok
  clean : ∀ n ∈ s.nodes, n.phase = .failed ∨ n.phase = .done false → n.linked = false
  fresh : ∀ n ∈ s.nodes, n.phase = .created → n.linked = true → n.issuedAt = s.jiffies
  marker : ∀ r ∈ s.outstanding, ∃ n ∈ s.nodes, (n.addr, n.issuedAt) = r ∧ n.phase = .sent ∧
    n.pending msecsToJiffies s.jiffies = true
  load : ∀ orig, s.load msecsToJiffies orig ≤ 1

variable {msecsToJiffies}

/-- Another element of a list stays when one is replaced. -/
lemma mem_set_of_getElem?_ne {α : Type*} {l : List α} {i : ℕ} {a b c : α} (ha : l[i]? = some a)
    (hb : b ∈ l) (hne : b ≠ a) : b ∈ l.set i c := by
  obtain ⟨j, hj⟩ := List.mem_iff_getElem?.1 hb
  have hij : i ≠ j := by
    rintro rfl
    exact hne (Option.some.inj (hj.symm.trans ha))
  exact List.mem_iff_getElem?.2 ⟨j, by rw [List.getElem?_set_ne hij, hj]⟩

namespace TtReqState.Inv

variable {s : TtReqState}

/-- A step that changes one marker, which does not wait afterwards, and sends nothing.  The marker
is not one that a request which is outstanding relies on. -/
lemma set (h : s.Inv msecsToJiffies) {i : ℕ} {n n' : TtReqNode} (hn : s.nodes[i]? = some n)
    (hok : n'.Ok) (hclean : n'.phase = .failed ∨ n'.phase = .done false → n'.linked = false)
    (hphase : n'.phase ≠ .created)
    (hfree : n.phase = .sent → n.pending msecsToJiffies s.jiffies = false) :
    TtReqState.Inv msecsToJiffies { s with nodes := s.nodes.set i n' } := by
  obtain ⟨hi, hget⟩ := List.getElem?_eq_some_iff.1 hn
  refine ⟨fun m hm => ?_, fun m hm => ?_, fun m hm hcreated => ?_, fun r hr => ?_, fun orig => ?_⟩
  · rcases List.mem_or_eq_of_mem_set hm with hm | rfl
    · exact h.ok m hm
    · exact hok
  · rcases List.mem_or_eq_of_mem_set hm with hm | rfl
    · exact h.clean m hm
    · exact hclean
  · rcases List.mem_or_eq_of_mem_set hm with hm | rfl
    · exact h.fresh m hm hcreated
    · exact absurd hcreated hphase
  · obtain ⟨m, hm, hmr, hsent, hpending⟩ := h.marker r hr
    have hne : m ≠ n := by
      rintro rfl
      rw [hfree hsent] at hpending
      cases hpending
    exact ⟨m, mem_set_of_getElem?_ne hn hm hne, hmr, hsent, hpending⟩
  · refine le_trans ?_ (h.load orig)
    apply Nat.add_le_add_right
    have hwaits : n'.waits msecsToJiffies s.jiffies orig = false := by
      simp [TtReqNode.waits, hphase]
    rw [List.countP_set hi, hwaits]
    simp

/-- A step that takes markers out of the list, and lets some requests go: those that stay do not
rely on a marker that goes. -/
lemma map (h : s.Inv msecsToJiffies) (f : TtReqNode → TtReqNode)
    (hf : ∀ n, f n = n.unlink ∨ f n = n) {outstanding : List (EthAddr × Jiffies)}
    (hsub : outstanding.Sublist s.outstanding)
    (hkeep : ∀ r ∈ outstanding, ∀ n, n.addr = r.1 →
      n.pending msecsToJiffies s.jiffies = true → f n = n) :
    TtReqState.Inv msecsToJiffies ⟨s.jiffies, s.nodes.map f, outstanding⟩ := by
  refine ⟨fun m hm => ?_, fun m hm hphase => ?_, fun m hm hcreated hlinked => ?_, fun r hr => ?_,
    fun orig => ?_⟩
  · obtain ⟨n, hn, rfl⟩ := List.mem_map.1 hm
    rcases hf n with heq | heq
    · rw [heq]
      exact (h.ok n hn).unlink
    · rw [heq]
      exact h.ok n hn
  · obtain ⟨n, hn, rfl⟩ := List.mem_map.1 hm
    rcases hf n with heq | heq
    · rw [heq]
      exact n.unlink_linked
    · rw [heq] at hphase ⊢
      exact h.clean n hn hphase
  · obtain ⟨n, hn, rfl⟩ := List.mem_map.1 hm
    rcases hf n with heq | heq
    · rw [heq, n.unlink_linked] at hlinked
      cases hlinked
    · rw [heq] at hcreated hlinked ⊢
      exact h.fresh n hn hcreated hlinked
  · obtain ⟨n, hn, rfl, hsent, hpending⟩ := h.marker r (hsub.subset hr)
    exact ⟨n, List.mem_map.2 ⟨n, hn, hkeep _ hr n rfl hpending⟩, rfl, hsent, hpending⟩
  · have hwaits : ∀ n, (f n).waits msecsToJiffies s.jiffies orig = true →
        n.waits msecsToJiffies s.jiffies orig = true := by
      intro n hwaits
      rcases hf n with heq | heq
      · rw [heq] at hwaits
        simp [TtReqNode.waits, TtReqNode.pending_unlink] at hwaits
      · rwa [heq] at hwaits
    refine le_trans (Nat.add_le_add ?_ ?_) (h.load orig)
    · rw [List.countP_map]
      exact List.countP_mono_left fun n _ => hwaits n
    · exact hsub.countP_le

/-- The clock ticks: no call waits, and a marker times out with its request. -/
lemma tick (h : s.Inv msecsToJiffies)
    (hd : TtReqEvent.Disciplined msecsToJiffies s .tick) :
    (ttReqTick msecsToJiffies s).Inv msecsToJiffies := by
  refine ⟨h.ok, h.clean, fun n hn hcreated hlinked => ?_, fun r hr => ?_, fun orig => ?_⟩
  · rw [hd n hn hcreated] at hlinked
    cases hlinked
  · obtain ⟨hr, hyoung⟩ := List.mem_filter.1 hr
    obtain ⟨n, hn, rfl, hsent, hpending⟩ := h.marker r hr
    rw [Bool.not_eq_true'] at hyoung
    exact ⟨n, hn, rfl, hsent,
      TtReqNode.pending_iff.2 ⟨(TtReqNode.pending_iff.1 hpending).1, hyoung⟩⟩
  · have hnone : s.nodes.countP (TtReqNode.waits msecsToJiffies (s.jiffies + 1) orig) = 0 := by
      rw [List.countP_eq_zero]
      intro n hn hwaits
      simp only [TtReqNode.waits, Bool.and_eq_true, beq_iff_eq] at hwaits
      have hlinked := (TtReqNode.pending_iff.1 hwaits.1.1).1
      rw [hd n hn hwaits.2] at hlinked
      cases hlinked
    have hrequests : (s.outstanding.filter fun r => !hasTimedOut msecsToJiffies (s.jiffies + 1)
        r.2 TT_REQUEST_TIMEOUT).countP (fun r => r.1 == orig) ≤
          s.outstanding.countP fun r => r.1 == orig := List.filter_sublist.countP_le
    have hload := h.load orig
    simp only [TtReqState.load, ttReqTick] at hload ⊢
    omega

/-- A call begins: it gets to create its marker only if no other one suppresses it, and then no
request to the originator is outstanding. -/
lemma start (h : s.Inv msecsToJiffies) (orig : EthAddr) (primaryIf alloc : Bool) :
    (ttSendStart msecsToJiffies s orig primaryIf alloc).Inv msecsToJiffies := by
  unfold ttSendStart
  split_ifs with hcreates
  · have hnone : ∀ n ∈ s.nodes,
        ¬ (n.pending msecsToJiffies s.jiffies = true ∧ n.addr = orig) := by
      simp only [ttReqCreates, Bool.and_eq_true, Bool.not_eq_true', List.any_eq_false,
        TtReqNode.suppresses_eq, beq_iff_eq] at hcreates
      exact hcreates.1.2
    refine ⟨fun m hm => ?_, fun m hm hphase => ?_, fun m hm hcreated hlinked => ?_,
      fun r hr => ?_, fun o => ?_⟩
    · rcases List.mem_append.1 hm with hm | hm
      · exact h.ok m hm
      · rw [List.mem_singleton.1 hm]
        exact ⟨rfl, rfl⟩
    · rcases List.mem_append.1 hm with hm | hm
      · exact h.clean m hm hphase
      · rw [List.mem_singleton.1 hm] at hphase
        simp at hphase
    · rcases List.mem_append.1 hm with hm | hm
      · exact h.fresh m hm hcreated hlinked
      · rw [List.mem_singleton.1 hm]
    · obtain ⟨n, hn, hmarker⟩ := h.marker r hr
      exact ⟨n, List.mem_append_left _ hn, hmarker⟩
    · unfold TtReqState.load
      rw [List.countP_append]
      by_cases ho : orig = o
      · subst ho
        -- a call that waits or a request would have a marker that suppresses this call
        have hnodes : s.nodes.countP (TtReqNode.waits msecsToJiffies s.jiffies orig) = 0 := by
          rw [List.countP_eq_zero]
          intro n hn hwaits
          simp only [TtReqNode.waits, Bool.and_eq_true, beq_iff_eq] at hwaits
          exact hnone n hn hwaits.1
        have hrequests : s.outstanding.countP (fun r => r.1 == orig) = 0 := by
          rw [List.countP_eq_zero]
          intro r hr heq
          obtain ⟨n, hn, rfl, -, hpending⟩ := h.marker r hr
          exact hnone n hn ⟨hpending, beq_iff_eq.1 heq⟩
        rw [hnodes, hrequests]
        exact (Nat.zero_add _).le.trans List.countP_le_length
      · have hnew : [(⟨orig, s.jiffies, true, 2, 0, .created⟩ : TtReqNode)].countP
            (TtReqNode.waits msecsToJiffies s.jiffies o) = 0 := by
          simp [TtReqNode.waits, ho]
        rw [hnew]
        exact h.load o
  · exact h

/-- A call sends its request, which is outstanding with its marker, or fails. -/
lemma send (h : s.Inv msecsToJiffies) {i : ℕ} {alloc : Bool}
    (hd : TtReqEvent.Disciplined msecsToJiffies s (.send i alloc)) :
    (ttSendRequest s i alloc).Inv msecsToJiffies := by
  unfold ttSendRequest
  cases hn : s.nodes[i]? with
  | none => exact h
  | some n =>
    dsimp only
    have hmem := List.mem_of_getElem? hn
    split_ifs with hphase halloc
    · exact h
    · rw [not_ne_iff] at hphase
      have hok : TtReqNode.Ok { n with phase := .failed } :=
        (h.ok n hmem).setPhase (by simp [TtReqNode.held, hphase])
      have hlinked := hd n hn hphase
      rw [Bool.not_eq_true'] at halloc
      rw [halloc, if_neg Bool.false_ne_true] at hlinked
      exact h.set hn hok (fun _ => hlinked) (by simp) (by simp [hphase])
    · rw [not_ne_iff] at hphase
      have hok : TtReqNode.Ok { n with phase := .sent } :=
        (h.ok n hmem).setPhase (by simp [TtReqNode.held, hphase])
      have hpending := hd n hn hphase
      rw [Bool.not_eq_true', Bool.not_eq_false] at halloc
      rw [if_pos halloc] at hpending
      have hset := h.set hn hok (by simp) (by simp) (by simp [hphase])
      obtain ⟨hi, hget⟩ := List.getElem?_eq_some_iff.1 hn
      refine ⟨hset.ok, hset.clean, hset.fresh, fun r hr => ?_, fun orig => ?_⟩
      · rcases List.mem_cons.1 hr with rfl | hr
        · have hissued : n.issuedAt = s.jiffies :=
            h.fresh n hmem hphase (TtReqNode.pending_iff.1 hpending).1
          exact ⟨{ n with phase := .sent }, List.mem_set hi _, by rw [hissued], rfl, hpending⟩
        · exact hset.marker r hr
      · -- the call does not wait any more, but its request is outstanding
        have hload := h.load orig
        have hone : (if n.waits msecsToJiffies s.jiffies orig = true then 1 else 0) ≤
            s.nodes.countP (TtReqNode.waits msecsToJiffies s.jiffies orig) := by
          split_ifs with hwaits
          · exact List.countP_pos_iff.2 ⟨n, hmem, hwaits⟩
          · exact Nat.zero_le _
        have hwaits : n.waits msecsToJiffies s.jiffies orig = (n.addr == orig) := by
          simp [TtReqNode.waits, hphase, hpending]
        have hsent : ({ n with phase := .sent } : TtReqNode).waits msecsToJiffies s.jiffies
            orig = false := by
          simp [TtReqNode.waits]
        unfold TtReqState.load at hload ⊢
        rw [List.countP_set hi, hget, hsent, List.countP_cons]
        rw [hwaits] at hone ⊢
        simp only [Bool.false_eq_true, if_false]
        omega

/-- **A disciplined step keeps the invariant.** -/
theorem step (h : s.Inv msecsToJiffies) {e : TtReqEvent} (hd : e.Disciplined msecsToJiffies s) :
    (ttReqStep msecsToJiffies s e).Inv msecsToJiffies := by
  cases e with
  | tick => exact h.tick hd
  | start orig primaryIf alloc => exact h.start orig primaryIf alloc
  | send i alloc => exact h.send hd
  | unlink i =>
    show (ttSendUnlink s i).Inv msecsToJiffies
    unfold ttSendUnlink
    cases hn : s.nodes[i]? with
    | none => exact h
    | some n =>
      dsimp only
      split_ifs with hphase
      · exact h
      · rw [not_ne_iff] at hphase
        have hok : TtReqNode.Ok { n.unlink with phase := .unlinked } :=
          (h.ok n (List.mem_of_getElem? hn)).unlink.setPhase (by simp [TtReqNode.held, hphase])
        exact h.set hn hok (by simp) (by simp) (hd n hn)
  | put i =>
    show (ttSendPut s i).Inv msecsToJiffies
    unfold ttSendPut
    cases hn : s.nodes[i]? with
    | none => exact h
    | some n =>
      dsimp only
      have hmem := List.mem_of_getElem? hn
      split_ifs with hunlinked hfailed
      · have hok := (h.ok n hmem).put (by simp [TtReqNode.held, hunlinked]) true
        exact h.set hn hok (by simp) (by simp) (by simp [hunlinked])
      · have hok := (h.ok n hmem).put (by simp [TtReqNode.held, hfailed]) false
        exact h.set hn hok (fun _ => h.clean n hmem (Or.inl hfailed)) (by simp) (by simp [hfailed])
      · exact h
  | response orig =>
    refine h.map _ (fun n => ?_) List.filter_sublist fun r hr n haddr hpending => ?_
    · split_ifs
      · exact Or.inl rfl
      · exact Or.inr rfl
    · have hother : r.1 ≠ orig := by simpa using (List.mem_filter.1 hr).2
      rw [if_neg (by simpa [haddr] using hother)]
  | purge =>
    refine h.map _ (fun n => ?_) (List.Sublist.refl _) fun r hr n haddr hpending => ?_
    · split_ifs
      · exact Or.inl rfl
      · exact Or.inr rfl
    · rw [(TtReqNode.pending_iff.1 hpending).2, if_neg Bool.false_ne_true]

/-- The invariant is enough. -/
lemma good (h : s.Inv msecsToJiffies) : s.Good := by
  refine ⟨?_, fun n hn hphase => h.clean n hn (Or.inr hphase), fun n hn => (h.ok n hn).freed⟩
  rw [List.nodup_iff_count_le_one]
  intro orig
  have hload := h.load orig
  unfold TtReqState.load at hload
  rw [List.count, List.countP_map]
  exact le_trans (Nat.le_add_left _ _) hload

end TtReqState.Inv

/-- **At most one TT request per originator is outstanding** after steps that are disciplined.

**Proof sketch.** By induction on the steps every request that is outstanding has its marker in the
list, created when the request was sent.  So a call that begins finds it there, and
`batadv_tt_req_node_new` refuses to create another one. -/
theorem tt_one_request (msecsToJiffies : ℕ → Jiffies) (jiffies : Jiffies)
    {events : List TtReqEvent}
    (hevents : Run.AllSteps (ttReqStep msecsToJiffies) (TtReqEvent.Disciplined msecsToJiffies)
      (TtReqState.new jiffies) events) :
    (Run.final (ttReqStep msecsToJiffies) (TtReqState.new jiffies) events).Good := by
  have hnew : (TtReqState.new jiffies).Inv msecsToJiffies := by
    constructor <;> simp [TtReqState.new, TtReqState.load]
  exact (Run.AllSteps.invariant (TtReqState.Inv msecsToJiffies) (fun _ _ h hd => h.step hd) hnew
    hevents).good

/-- A call is suppressed while the request of the first one is outstanding; the response comes
before the first call takes its marker away, and then another one is sent.  A request to another
originator is sent between them. -/
theorem tt_one_request_answered :
    (Run.final (ttReqStep fun ms => BitVec.ofNat 64 ms) (TtReqState.new 1000)
      [.start 0x02#48 true true, .send 0 true, .tick, .start 0x02#48 true true,
        .start 0x03#48 true true, .send 1 true, .tick, .response 0x02#48, .unlink 0, .put 0,
        .start 0x02#48 true true, .send 2 true, .tick, .purge]).Good :=
  tt_one_request (fun ms => BitVec.ofNat 64 ms) 1000 (by decide +kernel)

/-- **Without its marker a request is followed by a second one**: wherever a request is outstanding
and no marker suppresses others, the next call sends one. -/
theorem TtReqState.not_good_of_no_marker {s : TtReqState} {orig : EthAddr} {sent : Jiffies}
    (hsent : (orig, sent) ∈ s.outstanding)
    (hnone : ∀ n ∈ s.nodes, n.suppresses msecsToJiffies s.jiffies orig = false) :
    ¬ (Run.final (ttReqStep msecsToJiffies) s
      [.start orig true true, .send s.nodes.length true]).Good := by
  intro hgood
  have hcreates : ttReqCreates msecsToJiffies s orig true true = true := by
    simp only [ttReqCreates, Bool.and_true, Bool.true_and, Bool.not_eq_true', List.any_eq_false]
    exact fun n hn => Bool.eq_false_iff.1 (hnone n hn)
  have honce := hgood.once
  simp only [Run.final_cons, Run.final_nil, ttReqStep, ttSendStart, hcreates, if_true,
    ttSendRequest, List.getElem?_concat_length] at honce
  simp only [ne_eq, not_true_eq_false, if_false, Bool.not_true, Bool.false_eq_true,
    List.map_cons, List.nodup_cons] at honce
  exact honce.1 (List.mem_map.2 ⟨_, hsent, rfl⟩)

/-- A call that has sent its request takes its marker away, so the next one sends a second. -/
theorem tt_two_requests :
    ¬ ∀ events : List TtReqEvent,
      (Run.final (ttReqStep fun ms => BitVec.ofNat 64 ms) (TtReqState.new 1000) events).Good := by
  intro h
  have hgood := h ([.start 0x02#48 true true, .send 0 true, .unlink 0, .put 0] ++
    [.start 0x02#48 true true, .send 1 true])
  rw [Run.final_append] at hgood
  exact TtReqState.not_good_of_no_marker (show (_, 1000) ∈ _ by decide) (by decide) hgood

/-- A call that has failed leaves its marker in the list, and the next one is suppressed. -/
example :
    let msecsToJiffies := fun ms => BitVec.ofNat 64 ms
    let s := Run.final (ttReqStep msecsToJiffies) (TtReqState.new 1000)
      [.start 0x02#48 true true, .send 0 false, .put 0]
    ttReqCreates msecsToJiffies s 0x02#48 true true = false := by
  decide

end Batadv
