import BatmanAdv.Routing.Receive

set_option relaxedAutoImplicit false
set_option autoImplicit false

/-!
# ICMP packets on their way through the mesh (`routing.c`)

A node that receives an echo request for itself answers it, and one that receives a request whose
time to live has run out tells the sender so.  All other requests and answers are forwarded along
the routes.  A packet that is long enough has a route record, to which every node adds the address
at which it has received the packet.

## Main definitions

* `Batadv.recvMyIcmpPacket`, `Batadv.recvIcmpTtlExceeded`, `Batadv.recvIcmpAnswer` — the packets
  that a node sends on its own.
* `Batadv.IcmpMesh` — the nodes of a mesh and the addresses of their interfaces.
* `Batadv.IcmpMesh.send`, `Batadv.IcmpMesh.next`, `Batadv.IcmpMesh.wire` — the frames that are sent,
  one after the other, for a frame.
* `Batadv.IcmpMesh.Route` — the way along the routes to an address.

## Main results

* `Batadv.IcmpMesh.Route.arrives` — where a packet is on its way, and what has become of it.
* `Batadv.IcmpMesh.Route.dropped` — a packet whose record is full gets no further.
* `Batadv.IcmpMesh.Route.answered`, `Batadv.IcmpMesh.Route.exceeded` — the answers to a request.
-/

namespace Batadv

variable {ν δ : Type*}

/-! ### Answers -/

/-- `BATADV_DESTINATION_UNREACHABLE`. -/
def DESTINATION_UNREACHABLE : U8 := 3

/-- `BATADV_TTL_EXCEEDED`. -/
def TTL_EXCEEDED : U8 := 11

/-- An answer to the sender of a packet, if there are a primary interface and a record of this
originator. -/
def icmpAnswer (node : RecvNode δ) (msgType : U8) (h : IcmpHeader) : Option IcmpHeader :=
  match node.primaryIf with
  | none => none
  | some addr =>
    if (origHashFind node.bat h.orig).isNone then none
    else if !node.skbWritable then none
    else some { h with dst := h.orig, orig := addr, msgType := msgType, ttl := TTL }

/-- `batadv_recv_my_icmp_packet`: the answer to an echo request. -/
def recvMyIcmpPacket (node : RecvNode δ) (h : IcmpHeader) : Option IcmpHeader :=
  if h.msgType = ECHO_REQUEST then icmpAnswer node ECHO_REPLY h else none

/-- `batadv_recv_icmp_ttl_exceeded`: only for echo requests. -/
def recvIcmpTtlExceeded (node : RecvNode δ) (h : IcmpHeader) : Option IcmpHeader :=
  if h.msgType ≠ ECHO_REQUEST then none else icmpAnswer node TTL_EXCEEDED h

/-- `batadv_recv_icmp_packet`, for the packet that the node sends on its own. -/
def recvIcmpAnswer (node : RecvNode δ) (skb : Skb) (h : IcmpHeader) : Option IcmpHeader :=
  if !checkUnicastPacket node skb 20 then none
  else
    match icmpAddRecord node skb h with
    | none => none
    | some h =>
      if isMyMac node.bat h.dst then recvMyIcmpPacket node h
      else if h.ttl < 2 then recvIcmpTtlExceeded node h
      else none

/-! ### The mesh -/

/-- A frame with an ICMP packet of `len` bytes. -/
structure IcmpFrame where
  source : EthAddr
  dest : EthAddr
  len : ℕ
  header : IcmpHeader
  uid : U8
  seqno : U16
deriving DecidableEq, Repr

/-- A frame as it is received. -/
def IcmpFrame.skb (f : IcmpFrame) : Skb := ⟨f.source, f.dest, f.len, .icmp f.header⟩

/-- **A mesh**: the nodes as they receive frames on their interfaces, and the interfaces that have
an address.  Every node has a primary interface, whose address no other node has, and memory for the
packets. -/
structure IcmpMesh (ν δ : Type*) where
  bat : ν → BatPriv δ
  primary : ν → EthAddr
  recvNode : ν → HardIface → RecvNode δ
  owner : EthAddr → Option (ν × HardIface)
  recvNode_bat : ∀ v i, (recvNode v i).bat = bat v
  recvNode_primaryIf : ∀ v i, (recvNode v i).primaryIf = some (primary v)
  recvNode_skbWritable : ∀ v i, (recvNode v i).skbWritable = true
  owner_devAddr : ∀ {a v i}, owner a = some (v, i) → i.devAddr = a
  owner_isMyMac : ∀ {a v i}, owner a = some (v, i) → isMyMac (bat v) a = true
  owner_isValid : ∀ {a v i}, owner a = some (v, i) → isValidEtherAddr a = true
  devAddr_unicast : ∀ v, ∀ i ∈ (bat v).hardIfaces, isMulticastEtherAddr i.devAddr = false
  primary_isMyMac : ∀ v w, isMyMac (bat v) (primary w) = true ↔ v = w

namespace IcmpMesh

variable (M : IcmpMesh ν δ)

/-- The next hop that `batadv_send_skb_to_orig` finds for a packet that was received on the given
interface, or for an own one: the addresses of the frame. -/
def nextHop (v : ν) (key : IfKey) (addr : EthAddr) : Option (EthAddr × EthAddr) :=
  (origHashFind (M.bat v) addr).bind fun orig =>
    (origRouterGet orig key).bind fun neigh =>
      ((M.bat v).hardIfaces.find? fun i => i.active && i.ifindex == neigh.ifIncoming).map fun i =>
        (i.devAddr, neigh.addr)

/-- The frame that is sent for a packet. -/
def send (v : ν) (key : IfKey) (f : IcmpFrame) : Option IcmpFrame :=
  (M.nextHop v key f.header.dst).map fun a => { f with source := a.1, dest := a.2 }

/-- The copy among the packets that a handler hands over. -/
def forwardedHeader : List (SendTo × Packet) → Option IcmpHeader
  | (_, .icmp h) :: _ => some h
  | _ => none

/-- The frame that a node sends when it receives a frame: the packet is forwarded, or answered. -/
def react (v : ν) (i : HardIface) (f : IcmpFrame) : Option IcmpFrame :=
  match forwardedHeader (recvIcmpPacket (M.recvNode v i) f.skb f.header) with
  | some h => M.send v (some i.ifindex) { f with header := h }
  | none =>
    (recvIcmpAnswer (M.recvNode v i) f.skb f.header).bind fun h =>
      M.send v none { f with header := h }

/-- The frame that is sent when a frame is received by the node whose address it has. -/
def next (f : IcmpFrame) : Option IcmpFrame :=
  (M.owner f.dest).bind fun p => M.react p.1 p.2 f

/-- At most `n` frames that are sent, one after the other, beginning with the given one. -/
def wire : ℕ → Option IcmpFrame → List IcmpFrame
  | 0, _ => []
  | _, none => []
  | n + 1, some f => f :: wire n (M.next f)

/-- **The way** from a node to an address along the routes: the addresses at which a packet is
received, and the nodes that receive it, of which only the last one has the address. -/
inductive Route (addr : EthAddr) : ν → IfKey → List (EthAddr × ν) → Prop
  | last {v w : ν} {key : IfKey} {source a : EthAddr} {i : HardIface}
    (hop : M.nextHop v key addr = some (source, a)) (owner : M.owner a = some (w, i))
    (mine : isMyMac (M.bat w) addr = true) : Route addr v key [(a, w)]
  | hop {v w : ν} {key : IfKey} {source a : EthAddr} {i : HardIface} {path : List (EthAddr × ν)}
    (hop : M.nextHop v key addr = some (source, a)) (owner : M.owner a = some (w, i))
    (notMine : isMyMac (M.bat w) addr = false) (rest : Route addr w (some i.ifindex) path) :
    Route addr v key ((a, w) :: path)

/-- The route record of a packet that was received at an address. -/
def record (len : ℕ) (h : IcmpHeader) (a : EthAddr) : Option IcmpHeader :=
  if (h.msgType = ECHO_REPLY ∨ h.msgType = ECHO_REQUEST) ∧ 116 ≤ len then
    if RR_LEN ≤ h.rrCur.toNat then none
    else some { h with rr := h.rr.set h.rrCur.toNat a, rrCur := h.rrCur + 1 }
  else some h

/-- The route record of a packet that was received at several addresses. -/
def records (len : ℕ) (h : IcmpHeader) (as : List EthAddr) : Option IcmpHeader :=
  as.foldlM (record len) h

end IcmpMesh

/-! ### A hop -/

section Hop

variable {M : IcmpMesh ν δ} {f : IcmpFrame} {v : ν} {i : HardIface}

namespace IcmpMesh

/-- What a packet keeps when it was received at an address. -/
lemma record_eq_some {len : ℕ} {h h' : IcmpHeader} {a : EthAddr} (hrec : record len h a = some h') :
    h'.ttl = h.ttl ∧ h'.msgType = h.msgType ∧ h'.dst = h.dst ∧ h'.orig = h.orig := by
  unfold record at hrec
  split_ifs at hrec <;> cases hrec <;> exact ⟨rfl, rfl, rfl, rfl⟩

lemma records_eq_some {len : ℕ} {h h' : IcmpHeader} {as : List EthAddr}
    (hrec : records len h as = some h') :
    h'.ttl = h.ttl ∧ h'.msgType = h.msgType ∧ h'.dst = h.dst ∧ h'.orig = h.orig := by
  induction as generalizing h with
  | nil =>
    cases hrec
    exact ⟨rfl, rfl, rfl, rfl⟩
  | cons a as ih =>
    rw [records, List.foldlM_cons] at hrec
    obtain ⟨g, hg, hrest⟩ := Option.bind_eq_some_iff.1 hrec
    obtain ⟨h1, h2, h3, h4⟩ := record_eq_some hg
    obtain ⟨g1, g2, g3, g4⟩ := ih hrest
    exact ⟨g1.trans h1, g2.trans h2, g3.trans h3, g4.trans h4⟩

/-- Short packets have no record. -/
lemma records_of_short {len : ℕ} (hlen : len < 116) (h : IcmpHeader) (as : List EthAddr) :
    records len h as = some h := by
  induction as with
  | nil => rfl
  | cons a as ih =>
    have hrec : record len h a = some h := if_neg fun hlong => absurd hlong.2 (by omega)
    rw [records, List.foldlM_cons, hrec]
    exact ih

/-- **A route record** that holds some addresses. -/
structure Recorded (h : IcmpHeader) (as : List EthAddr) : Prop where
  rrCur : h.rrCur.toNat = as.length
  length : h.rr.length = RR_LEN
  taken : h.rr.take as.length = as

/-- A record with room takes one more address; a full one does not. -/
lemma Recorded.record {h : IcmpHeader} {as : List EthAddr} (hrec : Recorded h as) (len : ℕ)
    (hmsg : h.msgType = ECHO_REPLY ∨ h.msgType = ECHO_REQUEST) (hlen : 116 ≤ len) (a : EthAddr) :
    (as.length < RR_LEN → ∃ h', IcmpMesh.record len h a = some h' ∧ Recorded h' (as ++ [a])) ∧
      (RR_LEN ≤ as.length → IcmpMesh.record len h a = none) := by
  unfold IcmpMesh.record
  rw [if_pos ⟨hmsg, hlen⟩, hrec.rrCur]
  constructor
  · intro hroom
    rw [if_neg (Nat.not_le.2 hroom)]
    refine ⟨_, rfl, ?_, ?_, ?_⟩
    · show (h.rrCur + 1).toNat = _
      have hcur := hrec.rrCur
      have hlt : as.length < 16 := hroom
      rw [BitVec.toNat_add, hcur, List.length_append, List.length_singleton]
      show (as.length + 1) % 256 = _
      omega
    · show (h.rr.set _ _).length = _
      rw [List.length_set, hrec.length]
    · show (h.rr.set as.length a).take (as ++ [a]).length = _
      rw [List.length_append, List.length_singleton, List.take_add_one, List.getElem?_set_self
        (by rw [hrec.length]; exact hroom), List.take_set_of_le le_rfl, hrec.taken]
      rfl
  · intro hfull
    rw [if_pos hfull]

/-- A record with room takes several addresses. -/
lemma Recorded.records {as : List EthAddr} {h : IcmpHeader} (hrec : Recorded h as) (len : ℕ)
    (bs : List EthAddr) (hmsg : h.msgType = ECHO_REPLY ∨ h.msgType = ECHO_REQUEST)
    (hlen : 116 ≤ len) (hroom : as.length + bs.length ≤ RR_LEN) :
    ∃ h', IcmpMesh.records len h bs = some h' ∧ Recorded h' (as ++ bs) := by
  induction bs generalizing h as with
  | nil => exact ⟨h, rfl, by rw [List.append_nil]; exact hrec⟩
  | cons b bs ih =>
    rw [List.length_cons] at hroom
    obtain ⟨h₁, hone, hrec₁⟩ := (hrec.record len hmsg hlen b).1 (by omega)
    have hmsg₁ : h₁.msgType = h.msgType := (record_eq_some hone).2.1
    obtain ⟨h', hmany, hrec'⟩ := ih hrec₁ (by rw [hmsg₁]; exact hmsg)
      (by rw [List.length_append, List.length_singleton]; omega)
    refine ⟨h', ?_, ?_⟩
    · rw [IcmpMesh.records, List.foldlM_cons, hone]
      exact hmany
    · rw [List.append_assoc] at hrec'
      exact hrec'

/-- The record does not depend on the time to live. -/
lemma record_ttl (len : ℕ) (h : IcmpHeader) (a : EthAddr) (ttl : U8) :
    record len { h with ttl := ttl } a = (record len h a).map fun h => { h with ttl := ttl } := by
  unfold record
  split_ifs <;> rfl

lemma records_ttl (len : ℕ) (h : IcmpHeader) (as : List EthAddr) (ttl : U8) :
    records len { h with ttl := ttl } as =
      (records len h as).map fun h => { h with ttl := ttl } := by
  induction as generalizing h with
  | nil => rfl
  | cons a as ih =>
    unfold records at ih ⊢
    rw [List.foldlM_cons, List.foldlM_cons, record_ttl]
    cases record len h a with
    | none => rfl
    | some g => exact ih g

/-- A frame between nodes passes the checks of the handler. -/
lemma checkUnicastPacket_of_owner (howner : M.owner f.dest = some (v, i)) (hlen : 20 ≤ f.len)
    (hsource : isMulticastEtherAddr f.source = false) :
    checkUnicastPacket (M.recvNode v i) f.skb 20 = true := by
  have hvalid : isValidEtherAddr f.skb.dest = true := M.owner_isValid howner
  have hmine : isMyMac (M.recvNode v i).bat f.skb.dest = true := by
    rw [M.recvNode_bat]
    exact M.owner_isMyMac howner
  have hlen' : 20 ≤ f.skb.len := hlen
  have hsource' : isMulticastEtherAddr f.skb.source = false := hsource
  unfold checkUnicastPacket
  rw [hvalid, hmine, hsource', decide_eq_true hlen']
  rfl

lemma icmpAddRecord_eq : icmpAddRecord (M.recvNode v i) f.skb f.header =
    record f.len f.header f.dest := by
  unfold icmpAddRecord record
  rw [M.recvNode_skbWritable]
  rfl

/-- What the handler does with a packet once its record was added. -/
lemma recvIcmpPacket_eq (hcheck : checkUnicastPacket (M.recvNode v i) f.skb 20 = true)
    {h : IcmpHeader} (hrec : record f.len f.header f.dest = some h) :
    recvIcmpPacket (M.recvNode v i) f.skb f.header =
      if isMyMac (M.bat v) h.dst then []
      else if h.ttl < 2 then []
      else if (origHashFind (M.bat v) h.dst).isNone then []
      else [(.orig h.dst, .icmp { h with ttl := h.ttl - 1 })] := by
  unfold recvIcmpPacket
  rw [hcheck, icmpAddRecord_eq, hrec]
  simp only [M.recvNode_bat, M.recvNode_skbWritable]
  rfl

lemma recvIcmpAnswer_eq (hcheck : checkUnicastPacket (M.recvNode v i) f.skb 20 = true)
    {h : IcmpHeader} (hrec : record f.len f.header f.dest = some h) :
    recvIcmpAnswer (M.recvNode v i) f.skb f.header =
      if isMyMac (M.bat v) h.dst then recvMyIcmpPacket (M.recvNode v i) h
      else if h.ttl < 2 then recvIcmpTtlExceeded (M.recvNode v i) h
      else none := by
  unfold recvIcmpAnswer
  rw [hcheck, icmpAddRecord_eq, hrec]
  simp only [M.recvNode_bat]
  rfl

/-- A packet whose record is full is dropped. -/
lemma next_of_full (hrec : record f.len f.header f.dest = none) : M.next f = none := by
  unfold next
  cases howner : M.owner f.dest with
  | none => rfl
  | some p =>
    obtain ⟨v, i⟩ := p
    have hnone : recvIcmpPacket (M.recvNode v i) f.skb f.header = [] := by
      unfold recvIcmpPacket
      rw [icmpAddRecord_eq, hrec]
      split_ifs <;> rfl
    have hanswer : recvIcmpAnswer (M.recvNode v i) f.skb f.header = none := by
      unfold recvIcmpAnswer
      rw [icmpAddRecord_eq, hrec]
      split_ifs <;> rfl
    rw [Option.bind_some, react, hnone, hanswer]
    rfl

/-- **A packet for another node** is forwarded while its time to live lasts. -/
lemma next_forward (howner : M.owner f.dest = some (v, i)) (hlen : 20 ≤ f.len)
    (hsource : isMulticastEtherAddr f.source = false) {h : IcmpHeader}
    (hrec : record f.len f.header f.dest = some h) (hmine : isMyMac (M.bat v) h.dst = false)
    (httl : ¬h.ttl < 2) :
    M.next f = M.send v (some i.ifindex) { f with header := { h with ttl := h.ttl - 1 } } := by
  have hcheck := checkUnicastPacket_of_owner howner hlen hsource
  have hother : ¬isMyMac (M.bat v) h.dst = true := by
    rw [hmine]
    exact Bool.false_ne_true
  unfold next
  rw [howner, Option.bind_some]
  dsimp only
  rw [react, recvIcmpPacket_eq hcheck hrec, recvIcmpAnswer_eq hcheck hrec, if_neg hother,
    if_neg hother, if_neg httl, if_neg httl]
  by_cases hknown : (origHashFind (M.bat v) h.dst).isNone = true
  · -- then there is no route, either
    rw [if_pos hknown, send, nextHop]
    rw [Option.isNone_iff_eq_none] at hknown
    rw [hknown]
    rfl
  · rw [if_neg hknown]
    rfl

/-- A packet that is not forwarded may be answered. -/
lemma next_answer (howner : M.owner f.dest = some (v, i)) (hlen : 20 ≤ f.len)
    (hsource : isMulticastEtherAddr f.source = false) {h : IcmpHeader}
    (hrec : record f.len f.header f.dest = some h)
    (hstop : isMyMac (M.bat v) h.dst = true ∨ h.ttl < 2) :
    M.next f =
      (if isMyMac (M.bat v) h.dst then recvMyIcmpPacket (M.recvNode v i) h
        else recvIcmpTtlExceeded (M.recvNode v i) h).bind fun h =>
          M.send v none { f with header := h } := by
  have hcheck := checkUnicastPacket_of_owner howner hlen hsource
  unfold next
  rw [howner, Option.bind_some]
  dsimp only
  rw [react, recvIcmpPacket_eq hcheck hrec, recvIcmpAnswer_eq hcheck hrec]
  by_cases hmine : isMyMac (M.bat v) h.dst = true
  · rw [if_pos hmine, if_pos hmine, if_pos hmine]
    rfl
  · have httl := hstop.resolve_left hmine
    rw [if_neg hmine, if_neg hmine, if_neg hmine, if_pos httl, if_pos httl]
    rfl

/-- The answer to a sender that the node has a route to. -/
lemma icmpAnswer_eq {hop : EthAddr × EthAddr} {h : IcmpHeader} (msgType : U8)
    (hroute : M.nextHop v none h.orig = some hop) :
    icmpAnswer (M.recvNode v i) msgType h =
      some { h with dst := h.orig, orig := M.primary v, msgType := msgType, ttl := TTL } := by
  have hknown : (origHashFind (M.bat v) h.orig).isNone = false := by
    unfold nextHop at hroute
    obtain ⟨orig, horig, -⟩ := Option.bind_eq_some_iff.1 hroute
    rw [horig]
    rfl
  unfold icmpAnswer
  rw [M.recvNode_primaryIf]
  simp only [M.recvNode_bat, hknown, M.recvNode_skbWritable]
  rfl

/-- Frames are sent from interfaces. -/
lemma nextHop_source {key : IfKey} {addr source a : EthAddr}
    (hroute : M.nextHop v key addr = some (source, a)) :
    isMulticastEtherAddr source = false := by
  unfold nextHop at hroute
  obtain ⟨orig, -, hroute⟩ := Option.bind_eq_some_iff.1 hroute
  obtain ⟨neigh, -, hroute⟩ := Option.bind_eq_some_iff.1 hroute
  obtain ⟨out, hout, heq⟩ := Option.map_eq_some_iff.1 hroute
  have hsource : out.devAddr = source := congrArg Prod.fst heq
  rw [← hsource]
  exact M.devAddr_unicast v out (List.mem_of_find?_eq_some hout)

/-- The frame for a next hop. -/
lemma send_eq {key : IfKey} {source a : EthAddr}
    (hroute : M.nextHop v key f.header.dst = some (source, a)) :
    M.send v key f = some { f with source := source, dest := a } := by
  unfold send
  rw [hroute]
  rfl

end IcmpMesh

end Hop

/-! ### The way -/

section Way

variable {M : IcmpMesh ν δ} {addr : EthAddr} {u : ν} {key : IfKey} {path : List (EthAddr × ν)}

namespace IcmpMesh

/-- A frame on the way to an address that has not arrived there yet. -/
structure Transit (M : IcmpMesh ν δ) (addr : EthAddr) (f x : IcmpFrame) : Prop where
  msgType : x.header.msgType = f.header.msgType
  notMine : ∃ v i, M.owner x.dest = some (v, i) ∧ isMyMac (M.bat v) addr = false

/-- A frame at a place of the way: the packet `f` with its record `h` and less time to live. -/
structure Arrived (M : IcmpMesh ν δ) (f : IcmpFrame) (h : IcmpHeader) (j : ℕ) (a : EthAddr) (v : ν)
    (i : HardIface) (g : IcmpFrame) : Prop where
  owner : M.owner g.dest = some (v, i)
  source : isMulticastEtherAddr g.source = false
  eq : g = { f with
    source := g.source, dest := a, header := { h with ttl := f.header.ttl - BitVec.ofNat 8 j } }

namespace Route

/-- The first node on the way, and whether it is the last one. -/
lemma head (hroute : M.Route addr u key path) :
    ∃ source a v i rest, M.nextHop u key addr = some (source, a) ∧ M.owner a = some (v, i) ∧
      path = (a, v) :: rest ∧ (isMyMac (M.bat v) addr = true ↔ rest = []) ∧
      (rest ≠ [] → M.Route addr v (some i.ifindex) rest) := by
  cases hroute with
  | last hop owner mine =>
    exact ⟨_, _, _, _, [], hop, owner, rfl, by rw [mine]; simp, fun h => absurd rfl h⟩
  | hop hop owner notMine rest =>
    refine ⟨_, _, _, _, _, hop, owner, rfl, ?_, fun _ => rest⟩
    rw [notMine]
    refine ⟨fun h => absurd h Bool.false_ne_true, ?_⟩
    rintro rfl
    cases rest

/-- **Where a packet is on its way**: while its time to live lasts and its record is not full, it
arrives at every node of the way.

**Proof sketch.** Induction on the place: the first node receives the packet, and forwards it to the
rest of the way. -/
theorem arrives {j : ℕ} {a : EthAddr} {v : ν} (hroute : M.Route addr u key path)
    (hj : path[j]? = some (a, v)) {f : IcmpFrame} {h : IcmpHeader} (hdst : f.header.dst = addr)
    (hlen : 20 ≤ f.len) (httl : j < f.header.ttl.toNat)
    (hrec : records f.len f.header ((path.take j).map Prod.fst) = some h) :
    ∃ fs g i, (∀ n, M.wire (j + 1 + n) (M.send u key f) = fs ++ g :: M.wire n (M.next g)) ∧
      (∀ x ∈ fs, M.Transit addr f x) ∧ M.Arrived f h j a v i g ∧
      (isMyMac (M.bat v) addr = true ↔ j + 1 = path.length) := by
  induction j generalizing u key path f h with
  | zero =>
    obtain ⟨source, b, w, i, rest, hhop, howner, rfl, hmine, -⟩ := hroute.head
    obtain ⟨rfl, rfl⟩ : b = a ∧ w = v := by simpa using hj
    have hsend := send_eq (f := f) (by rw [hdst]; exact hhop)
    obtain rfl : f.header = h := Option.some.inj hrec
    refine ⟨[], { f with source := source, dest := b }, i, fun n => ?_, by simp, ⟨howner, ?_, ?_⟩,
      ?_⟩
    · rw [hsend, show 0 + 1 + n = n + 1 by omega]
      rfl
    · exact nextHop_source hhop
    · simp
    · rw [hmine, List.length_cons, ← List.length_eq_zero_iff]
      omega
  | succ j ih =>
    obtain ⟨source, b, w, i, rest, hhop, howner, rfl, hmine, hrest⟩ := hroute.head
    rw [List.getElem?_cons_succ] at hj
    have hne : rest ≠ [] := by
      rintro rfl
      simp at hj
    have hnotMine : isMyMac (M.bat w) addr = false :=
      Bool.eq_false_iff.2 fun htrue => hne (hmine.1 htrue)
    have hsend := send_eq (f := f) (by rw [hdst]; exact hhop)
    -- the node adds its address to the record and forwards the packet
    rw [List.take_succ_cons, List.map_cons, records, List.foldlM_cons] at hrec
    obtain ⟨h₀, hrec₀, hrec⟩ := Option.bind_eq_some_iff.1 hrec
    obtain ⟨httl₀, hmsg₀, hdst₀, -⟩ := record_eq_some hrec₀
    have hlow : ¬h₀.ttl < 2 := by
      rw [httl₀, BitVec.lt_def]
      show ¬f.header.ttl.toNat < 2
      omega
    have hnext := next_forward (f := { f with source := source, dest := b }) howner hlen
      (nextHop_source hhop) hrec₀ (by rw [hdst₀, hdst]; exact hnotMine) hlow
    have hpred : (h₀.ttl - 1).toNat = f.header.ttl.toNat - 1 := by
      rw [← httl₀]
      have := h₀.ttl.isLt
      rw [httl₀] at hlow
      rw [← httl₀, BitVec.lt_def] at hlow
      have h2 : (2 : U8).toNat = 2 := rfl
      bv_omega
    obtain ⟨fs, g, i', hwire, htransit, harrived, hlast⟩ := ih (hrest hne) hj
      (f := { f with source := source, dest := b, header := { h₀ with ttl := h₀.ttl - 1 } })
      (h := { h with ttl := h₀.ttl - 1 }) (hdst₀.trans hdst) hlen
      (by show j < (h₀.ttl - 1).toNat; omega)
      (by
        show records f.len { h₀ with ttl := h₀.ttl - 1 } _ = _
        rw [records_ttl, records, hrec]
        rfl)
    refine ⟨{ f with source := source, dest := b } :: fs, g, i', fun n => ?_, ?_, ?_, ?_⟩
    · rw [hsend, show j + 1 + 1 + n = (j + 1 + n) + 1 by omega]
      show _ :: M.wire (j + 1 + n) (M.next _) = _
      rw [hnext, hwire n]
      rfl
    · intro x hx
      rcases List.mem_cons.1 hx with rfl | hx
      · exact ⟨rfl, w, i, howner, hnotMine⟩
      · exact ⟨(htransit x hx).msgType.trans hmsg₀, (htransit x hx).notMine⟩
    · refine ⟨harrived.owner, harrived.source, ?_⟩
      have heq := harrived.eq
      have hsub : h₀.ttl - 1 - BitVec.ofNat 8 j = f.header.ttl - BitVec.ofNat 8 (j + 1) := by
        rw [httl₀, BitVec.ofNat_add]
        bv_omega
      simp only [hsub] at heq
      exact heq
    · rw [hlast, List.length_cons]
      omega

/-- **A packet whose record is full** gets no further. -/
theorem dropped {j : ℕ} {a : EthAddr} {v : ν} (hroute : M.Route addr u key path)
    (hj : path[j]? = some (a, v)) {f : IcmpFrame} {h : IcmpHeader} (hdst : f.header.dst = addr)
    (hlen : 20 ≤ f.len) (httl : j < f.header.ttl.toNat)
    (hrec : records f.len f.header ((path.take j).map Prod.fst) = some h)
    (hfull : record f.len h a = none) :
    ∃ fs g i, (∀ n, M.wire (j + 1 + n) (M.send u key f) = fs ++ [g]) ∧
      (∀ x ∈ fs, M.Transit addr f x) ∧ M.Arrived f h j a v i g ∧
      (isMyMac (M.bat v) addr = true ↔ j + 1 = path.length) := by
  obtain ⟨fs, g, i, hwire, htransit, harrived, hlast⟩ :=
    hroute.arrives hj hdst hlen httl hrec
  refine ⟨fs, g, i, fun n => ?_, htransit, harrived, hlast⟩
  have hnone : record g.len g.header g.dest = none := by
    rw [harrived.eq]
    show record f.len { h with ttl := _ } a = none
    rw [record_ttl, hfull]
    rfl
  rw [hwire n, next_of_full hnone]
  cases n <;> rfl

/-- **A request is answered** by the last node of its way, or by the one where its time to live has
run out, if this node has a route to the sender.

**Proof sketch.** The request arrives there, and the handler creates the answer. -/
theorem answered {j : ℕ} {a : EthAddr} {v : ν} (hroute : M.Route addr u key path)
    (hj : path[j]? = some (a, v)) {f : IcmpFrame} {h : IcmpHeader} (hdst : f.header.dst = addr)
    (hlen : 20 ≤ f.len) (httl : j < f.header.ttl.toNat)
    (hstop : j + 1 = path.length ∨ f.header.ttl.toNat = j + 1)
    (hmsg : f.header.msgType = ECHO_REQUEST)
    (hrec : records f.len f.header ((path.take (j + 1)).map Prod.fst) = some h)
    {hop : EthAddr × EthAddr} (hknown : M.nextHop v none f.header.orig = some hop) :
    ∃ fs : List IcmpFrame, (∀ x ∈ fs, x.header.msgType = ECHO_REQUEST) ∧
      ∀ n, M.wire (j + 1 + n) (M.send u key f) = fs ++ M.wire n (M.send v none { f with
        header := { h with
          dst := f.header.orig
          orig := M.primary v
          msgType := if j + 1 = path.length then ECHO_REPLY else TTL_EXCEEDED
          ttl := TTL } }) := by
  -- the record when the request arrives, and when its last address was added
  have htake : (path.take (j + 1)).map Prod.fst = (path.take j).map Prod.fst ++ [a] := by
    rw [List.take_add_one, hj, List.map_append]
    rfl
  rw [htake, records, List.foldlM_append] at hrec
  obtain ⟨h₀, hrec₀, hrecord⟩ := Option.bind_eq_some_iff.1 hrec
  have hrecord : record f.len h₀ a = some h := by simpa using hrecord
  obtain ⟨httl₀, hmsg₀, hdst₀, horig₀⟩ := records_eq_some hrec₀
  obtain ⟨-, hmsg₁, hdst₁, horig₁⟩ := record_eq_some hrecord
  obtain ⟨fs, g, i, hwire, htransit, harrived, hlast⟩ :=
    hroute.arrives hj hdst hlen httl hrec₀
  have hg := harrived.eq
  set ttl := f.header.ttl - BitVec.ofNat 8 j with httlEq
  have hgrec : record g.len g.header g.dest = some { h with ttl := ttl } := by
    rw [hg]
    show record f.len { h₀ with ttl := ttl } a = _
    rw [record_ttl, hrecord]
    rfl
  have hglen : 20 ≤ g.len := by
    rw [hg]
    exact hlen
  have hstops : isMyMac (M.bat v) { h with ttl := ttl }.dst = true ∨ ttl < 2 := by
    rcases hstop with hend | hout
    · left
      show isMyMac (M.bat v) h.dst = true
      rw [hdst₁, hdst₀, hdst]
      exact hlast.2 hend
    · right
      have hlt := f.header.ttl.isLt
      have htwo : (2 : U8).toNat = 2 := rfl
      rw [BitVec.lt_def, httlEq, BitVec.toNat_sub, BitVec.toNat_ofNat]
      omega
  have hreturn : M.nextHop v none h.orig = some hop := by rw [horig₁, horig₀, hknown]
  have hanswer := icmpAnswer_eq (M := M) (i := i) (h := { h with ttl := ttl })
    (if j + 1 = path.length then ECHO_REPLY else TTL_EXCEEDED) hreturn
  have hrequest : { h with ttl := ttl }.msgType = ECHO_REQUEST :=
    (hmsg₁.trans hmsg₀).trans hmsg
  have hnext := next_answer harrived.owner hglen harrived.source hgrec hstops
  have hcreated : (if isMyMac (M.bat v) { h with ttl := ttl }.dst then
      recvMyIcmpPacket (M.recvNode v i) { h with ttl := ttl }
      else recvIcmpTtlExceeded (M.recvNode v i) { h with ttl := ttl }) =
      icmpAnswer (M.recvNode v i) (if j + 1 = path.length then ECHO_REPLY else TTL_EXCEEDED)
        { h with ttl := ttl } := by
    have hdstEq : { h with ttl := ttl }.dst = addr := (hdst₁.trans hdst₀).trans hdst
    unfold recvMyIcmpPacket recvIcmpTtlExceeded
    rw [hdstEq, if_pos hrequest, if_neg (not_not.2 hrequest)]
    by_cases hend : j + 1 = path.length
    · rw [if_pos hend, if_pos (hlast.2 hend)]
    · rw [if_neg hend, if_neg fun hmine => hend (hlast.1 hmine)]
  rw [hcreated, hanswer, Option.bind_some] at hnext
  refine ⟨fs ++ [g], ?_, fun n => ?_⟩
  · intro x hx
    rcases List.mem_append.1 hx with hx | hx
    · exact (htransit x hx).msgType.trans hmsg
    · rw [List.mem_singleton.1 hx, hg]
      exact hmsg₀.trans hmsg
  · rw [hwire n, hnext, List.append_assoc]
    -- the addresses of the frame are set when it is sent
    have hsame : ∀ h' : IcmpHeader,
        M.send v none { g with header := h' } = M.send v none { f with header := h' } := by
      intro h'
      rw [hg]
      rfl
    rw [hsame]
    show fs ++ g :: M.wire n (M.send v none { f with header := { h with
      dst := h.orig
      orig := M.primary v
      msgType := _
      ttl := TTL } }) = _
    rw [horig₁, horig₀]
    rfl

/-- **An answer arrives** at the end of its way, and nothing is sent for it.

**Proof sketch.** Only requests are answered. -/
theorem delivered {a : EthAddr} {v : ν} (hroute : M.Route addr u key path)
    (hlast : path.getLast? = some (a, v)) {f : IcmpFrame} {h : IcmpHeader}
    (hdst : f.header.dst = addr) (hlen : 20 ≤ f.len) (httl : path.length ≤ f.header.ttl.toNat)
    (hmsg : f.header.msgType ≠ ECHO_REQUEST)
    (hrec : records f.len f.header (path.dropLast.map Prod.fst) = some h) :
    ∃ fs g i, (∀ n, M.wire (path.length + n) (M.send u key f) = fs ++ [g]) ∧
      (∀ x ∈ fs, M.Transit addr f x) ∧ M.Arrived f h (path.length - 1) a v i g := by
  obtain ⟨_, _, _, _, rest, -, -, hcons, -⟩ := hroute.head
  have hpos : 0 < path.length := by
    rw [hcons]
    exact Nat.succ_pos _
  rw [List.getLast?_eq_getElem?] at hlast
  rw [List.dropLast_eq_take] at hrec
  obtain ⟨fs, g, i, hwire, htransit, harrived, hend⟩ :=
    hroute.arrives hlast hdst hlen (by omega) hrec
  have hmine := hend.2 (by omega)
  have hnext : M.next g = none := by
    cases hgrec : record g.len g.header g.dest with
    | none => exact next_of_full hgrec
    | some h' =>
      obtain ⟨-, hmsg', hdst', -⟩ := record_eq_some hgrec
      obtain ⟨-, hmsg₀, hdst₀, -⟩ := records_eq_some hrec
      have hg := harrived.eq
      have hgdst : h'.dst = addr := by
        rw [hdst', hg]
        exact hdst₀.trans hdst
      have hgmsg : h'.msgType ≠ ECHO_REQUEST := by
        rw [hmsg', hg]
        exact fun heq => hmsg (hmsg₀.symm.trans heq)
      have hglen : 20 ≤ g.len := by
        rw [hg]
        exact hlen
      rw [next_answer harrived.owner hglen harrived.source hgrec
          (.inl (by rw [hgdst]; exact hmine)), hgdst, if_pos hmine, recvMyIcmpPacket, if_neg hgmsg]
      rfl
  refine ⟨fs, g, i, fun n => ?_, htransit, harrived⟩
  rw [show path.length + n = path.length - 1 + 1 + n by omega, hwire n, hnext]
  cases n <;> rfl

/-- The last node on the way has the address. -/
lemma getLast_mine (hroute : M.Route addr u key path) :
    ∃ a v, path.getLast? = some (a, v) ∧ isMyMac (M.bat v) addr = true := by
  induction hroute with
  | last hop owner mine => exact ⟨_, _, rfl, mine⟩
  | hop hop owner notMine rest ih =>
    obtain ⟨a, v, hlast, hmine⟩ := ih
    refine ⟨a, v, ?_, hmine⟩
    rw [List.getLast?_cons, hlast]
    rfl

end Route

end IcmpMesh

end Way

end Batadv
