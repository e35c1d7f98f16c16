import BatmanAdv.Batctl.Headers
import BatmanAdv.Lib.Bpf
import BatmanAdv.Routing.Icmp

set_option relaxedAutoImplicit false
set_option autoImplicit false

/-!
# Ping and traceroute (`batctl/icmp_helper.c`, `batctl/ping.c`, `batctl/traceroute.c`)

`batctl` sends ICMP packets over raw sockets on the interfaces of its node, past the kernel module,
and reads the answers there.  A packet filter in the kernel lets only answers with the right number
pass.  What the two commands show is what the nodes of the mesh make of the packets.

## Main definitions

* `Batctl.icmpInterfaceFilter` — the program that `icmp_interface_filter` attaches to a socket.
* `Batctl.IsIcmpAnswer` — a frame with an answer.
* `Batctl.icmpInterfaceRead`, `Batctl.readPacket` — how an answer is read.
* `Batctl.icmpProbe` — a packet is sent, and its answer is read.
* `Batctl.traceroute`, `Batctl.pingRecordRoute` — what `batctl traceroute` and `batctl ping -R`
  show.

## Main results

* `Batctl.icmp_filter_exact` — the program accepts exactly the answers with the right number.
* `Batctl.traceroute_shows_route` — traceroute shows the nodes of the route.
* `Batctl.ping_record_route` — ping shows the way to the node and back, or gets no answer.
-/

namespace Batctl

open Batadv

/-! ### The filter -/

/-- `BATADV_ICMP`. -/
def BATADV_ICMP : BitVec 32 := 0x43

/-- `BATADV_ICMP_MAX_PACKET_SIZE`: the size of `struct batadv_icmp_packet_rr`. -/
def ICMP_MAX_PACKET_SIZE : ℕ := 116

/-- `BADADV_ICMP_ETH_OFFSET`: where a field of the packet is in the frame. -/
def icmpEthOffset (field : Field) : ℕ := EtherHeader.size + field.off

/-- The field `packet_type`. -/
def IcmpPacket.packetType : Field := ⟨0, 1⟩

/-- The program of `icmp_interface_filter`. -/
def icmpInterfaceFilter (uid : U8) : List Bpf.Insn :=
  -- load ethernet proto
  [.ldAbs .half 12,
    -- jump to ret 0 when it is != 0x4305
    .jeq 0x4305 0 14,
    -- load pktlen
    .ldLen,
    -- jump to ret 0 when it is < 34
    .jge 34 0 12,
    -- jump to ret 0 when it is > 130
    .jgt 130 11 0,
    -- load batman-adv type
    .ldAbs .byte (icmpEthOffset IcmpPacket.packetType),
    -- jump to ret 0 when it is != BATADV_ICMP
    .jeq BATADV_ICMP 0 9,
    -- load batman-adv version
    .ldAbs .byte (icmpEthOffset IcmpPacket.version),
    -- jump to ret 0 when it is != 15
    .jeq 15 0 7,
    -- load batman-adv icmp msg_type
    .ldAbs .byte (icmpEthOffset IcmpPacket.msgType),
    -- accept BATADV_ECHO_REPLY or go to next check
    .jeq 0 2 0,
    -- accept BATADV_DESTINATION_UNREACHABLE or go to next check
    .jeq 3 1 0,
    -- accept BATADV_TTL_EXCEEDED or go to ret 0
    .jeq 11 0 3,
    -- load batman-adv icmp uid
    .ldAbs .byte (icmpEthOffset IcmpPacket.uid),
    -- jump to ret 0 when it is not our uid
    .jeq (uid.setWidth 32) 0 1,
    -- accept 130 bytes
    .ret 130,
    -- ret 0 -> reject packet
    .ret 0]

/-- What the program is for: the fields of a frame that it checks. -/
def icmpFilterFields (uid : U8) : List Bpf.Field :=
  [⟨some (.half, 12), [.oneOf 0x4305 []]⟩,
    ⟨none, [.ge 34, .le 130]⟩,
    ⟨some (.byte, 14), [.oneOf 0x43 []]⟩,
    ⟨some (.byte, 15), [.oneOf 15 []]⟩,
    ⟨some (.byte, 17), [.oneOf (ECHO_REPLY.setWidth 32)
      [DESTINATION_UNREACHABLE.setWidth 32, TTL_EXCEEDED.setWidth 32]]⟩,
    ⟨some (.byte, 30), [.oneOf (uid.setWidth 32) []]⟩]

/-- **The program is the one for these fields**: all of its jumps go where they should. -/
lemma icmpInterfaceFilter_eq (uid : U8) :
    icmpInterfaceFilter uid = Bpf.compile (icmpFilterFields uid) 130 := rfl

/-- **A frame with an answer** to a packet with the number `uid`, of the right length. -/
structure IsIcmpAnswer (uid : U8) (frame : List U8) : Prop where
  long : 34 ≤ frame.length
  short : frame.length ≤ 130
  etherType : (frame.drop 12).take 2 = [0x43, 0x05]
  packetType : frame[14]? = some 0x43
  version : frame[15]? = some COMPAT_VERSION
  msgType : ∃ t, frame[17]? = some t ∧
    (t = ECHO_REPLY ∨ t = DESTINATION_UNREACHABLE ∨ t = TTL_EXCEEDED)
  number : frame[30]? = some uid

/-- The bytes of a frame with an ICMP packet. -/
def icmpFrameBytes (f : IcmpFrame) : List U8 :=
  EthAddr.bytes f.dest ++ EthAddr.bytes f.source ++ [0x43, 0x05] ++
    [0x43, COMPAT_VERSION, f.header.ttl, f.header.msgType] ++ EthAddr.bytes f.header.dst ++
    EthAddr.bytes f.header.orig ++ [f.uid] ++
    ([f.header.rrCur, f.seqno.extractLsb' 8 8, f.seqno.extractLsb' 0 8] ++
      f.header.rr.flatMap EthAddr.bytes).take (f.len - 17)

/-! ### Reading answers -/

/-- What `icmp_interface_read` returns: the packet and its length. -/
structure IcmpRead where
  readLen : ℕ
  packet : IcmpFrame
deriving DecidableEq, Repr

/-- The end of a route record: `icmp_interface_read` adds the address of the interface. -/
def icmpEndRr (readLen : ℕ) (mac : EthAddr) (h : IcmpHeader) : IcmpHeader :=
  if readLen = ICMP_MAX_PACKET_SIZE ∧ h.rrCur.toNat < RR_LEN then
    { h with rr := h.rr.set h.rrCur.toNat mac, rrCur := h.rrCur + 1 }
  else h

/-- What `icmp_interface_read` makes of a frame that a socket on the interface with the address
`mac` receives; `none` if it goes on waiting.  `packetLen` is the size of the caller's buffer. -/
def icmpInterfaceRead (ifaces : List HardIface) (uid : U8) (packetLen : ℕ)
    (rx : EthAddr × IcmpFrame) : Option IcmpRead :=
  let (mac, f) := rx
  -- the filter of the socket
  if Bpf.run (icmpFrameBytes f) (icmpInterfaceFilter uid) 0 = 0 then none
  else
    let readLen := min f.len packetLen
    if readLen < 20 then none
    -- `icmp_interfaces_is_my_mac`
    else if !ifaces.any fun i => i.devAddr == f.header.dst then none
    else some ⟨readLen, { f with header := icmpEndRr readLen mac f.header }⟩

/-- The loops of the commands around `icmp_interface_read`: after an unexpected seqno they keep
waiting for the answer; `none` when they time out, or when the packet is too short. -/
def readPacket (interfaceRead : EthAddr × IcmpFrame → Option IcmpRead) (packetLen : ℕ)
    (seqno : U16) : List (EthAddr × IcmpFrame) → Option IcmpRead
  | [] => none
  | x :: rx =>
    match interfaceRead x with
    | none => readPacket interfaceRead packetLen seqno rx
    | some p =>
      if p.readLen < packetLen then none
      else if seqno ≠ p.packet.seqno then readPacket interfaceRead packetLen seqno rx
      else some p

section Probe

variable {ν δ : Type*} [DecidableEq ν] (M : IcmpMesh ν δ)

/-- The frames that arrive at a node, each with the address of the interface. -/
def arriving (s : ν) (frames : List IcmpFrame) : List (EthAddr × IcmpFrame) :=
  frames.filterMap fun f => (M.owner f.dest).bind fun p =>
    if p.1 = s then some (p.2.devAddr, f) else none

/-- The packet that `icmp_interface_write` sends from the interface with the address `source`. -/
def icmpInterfaceWrite (s : ν) (source : EthAddr) (packetLen : ℕ) (icmpPacket : IcmpHeader) :
    IcmpHeader :=
  { icmpPacket with
    orig := M.primary s
    -- start RR packet
    rr := if packetLen = ICMP_MAX_PACKET_SIZE then icmpPacket.rr.set 0 source else icmpPacket.rr }

/-- `icmp_interface_write`, and the answer that is read.  The packet goes to the next hop towards
its destination; without one, the answer comes at once from `icmp_interface_write`.  `stale` are
frames that had arrived before, and at most `n` frames are sent for the packet. -/
def icmpProbe (n : ℕ) (s : ν) (uid : U8) (packetLen : ℕ) (stale : List (EthAddr × IcmpFrame))
    (icmpPacket : IcmpHeader) (seqno : U16) : Option IcmpRead :=
  match M.nextHop s none icmpPacket.dst with
  | none => some ⟨packetLen, ⟨0, 0, packetLen,
      { icmpPacket with msgType := DESTINATION_UNREACHABLE }, uid, seqno⟩⟩
  | some (source, _) =>
    let header := icmpInterfaceWrite M s source packetLen icmpPacket
    let frames := M.wire n (M.send s none ⟨0, 0, packetLen, header, uid, seqno⟩)
    readPacket (icmpInterfaceRead (M.bat s).hardIfaces uid packetLen) packetLen seqno
      (stale ++ arriving M s frames)

end Probe

/-! ### The commands -/

/-- `TTL_MAX`. -/
def TTL_MAX : U8 := 50

/-- An answer that traceroute shows. -/
def IcmpRead.shown (p : IcmpRead) : Bool :=
  p.packet.header.msgType == ECHO_REPLY || p.packet.header.msgType == TTL_EXCEEDED

/-- The loop of `traceroute`: the lines that it prints, each with a time to live and the address of
the node that has answered.  `probe` sends a packet and reads its answer.  It makes `n` turns at
most. -/
def tracerouteLoop (probe : U8 → U16 → Option IcmpRead) : ℕ → U8 → ℕ → List (U8 × Option EthAddr)
  | 0, _, _ => []
  | n + 1, ttl, seqCounter =>
    if !(ttl < TTL_MAX) then []
    else
      let answers := [1, 2, 3].filterMap fun i => probe ttl (BitVec.ofNat 16 (seqCounter + i))
      -- "Destination Host Unreachable" ends the command
      if answers.any fun p => p.packet.header.msgType == DESTINATION_UNREACHABLE then []
      else
        let returnMac := (answers.find? IcmpRead.shown).map fun p => p.packet.header.orig
        let dstReached := answers.any fun p => p.packet.header.msgType == ECHO_REPLY
        (ttl, returnMac) ::
          if dstReached then [] else tracerouteLoop probe n (ttl + 1) (seqCounter + 3)

section Commands

variable {ν δ : Type*} [DecidableEq ν] (M : IcmpMesh ν δ) (n : ℕ) (s : ν) (uid : U8) (dst : EthAddr)

/-- `traceroute` on the node `s`. -/
def traceroute (stale : U16 → List (EthAddr × IcmpFrame)) : List (U8 × Option EthAddr) :=
  tracerouteLoop (fun ttl seqno => icmpProbe M n s uid 20 (stale seqno)
    ⟨ttl, ECHO_REQUEST, dst, 0, 0, []⟩ seqno) 50 1 0

end Commands

/-! ### What the filter accepts -/

/-- Bytes are compared as words. -/
lemma setWidth_u8_inj {a b : U8} : a.setWidth 32 = b.setWidth 32 ↔ a = b := by
  refine ⟨fun h => BitVec.eq_of_toNat_eq ?_, fun h => by rw [h]⟩
  have hnat := congrArg BitVec.toNat h
  have ha := a.isLt
  have hb := b.isLt
  rw [BitVec.toNat_setWidth, BitVec.toNat_setWidth, Nat.mod_eq_of_lt (by omega),
    Nat.mod_eq_of_lt (by omega)] at hnat
  exact hnat

/-- A byte that is compared with constants. -/
lemma passes_byte_iff (frame : List U8) (k : ℕ) (c : U8) (cs : List U8) :
    Bpf.Field.Passes frame
        ⟨some (.byte, k), [.oneOf (c.setWidth 32) (cs.map (BitVec.setWidth 32))]⟩ ↔
      ∃ b, frame[k]? = some b ∧ (b = c ∨ b ∈ cs) := by
  unfold Bpf.Field.Passes Bpf.Field.value
  simp only [Bpf.load_byte, List.mem_singleton, forall_eq, Option.map_eq_some_iff,
    Bpf.Check.Passes]
  constructor
  · rintro ⟨_, ⟨b, hb, rfl⟩, h | h⟩
    · exact ⟨b, hb, .inl (setWidth_u8_inj.1 h)⟩
    · obtain ⟨d, hd, heq⟩ := List.mem_map.1 h
      exact ⟨b, hb, .inr (by rw [← setWidth_u8_inj.1 heq]; exact hd)⟩
  · rintro ⟨b, hb, rfl | h⟩
    · exact ⟨_, ⟨b, hb, rfl⟩, .inl rfl⟩
    · exact ⟨_, ⟨b, hb, rfl⟩, .inr (List.mem_map_of_mem h)⟩

/-- A byte that is compared with one constant. -/
lemma passes_one_byte_iff (frame : List U8) (k : ℕ) (c : U8) :
    Bpf.Field.Passes frame ⟨some (.byte, k), [.oneOf (c.setWidth 32) []]⟩ ↔
      frame[k]? = some c := by
  rw [← List.map_nil (f := BitVec.setWidth (w := 8) 32), passes_byte_iff]
  constructor
  · rintro ⟨b, hb, rfl | h⟩
    · exact hb
    · exact absurd h List.not_mem_nil
  · exact fun hb => ⟨c, hb, .inl rfl⟩

/-- The protocol of a frame. -/
lemma passes_etherType_iff (frame : List U8) :
    Bpf.Field.Passes frame ⟨some (.half, 12), [.oneOf 0x4305 []]⟩ ↔
      (frame.drop 12).take 2 = [0x43, 0x05] := by
  have hword : BigEndian.word 32 [0x43, 0x05] = 0x4305 := by decide
  have hload : Bpf.load frame .half 12 = some (BigEndian.word 32 [0x43, 0x05]) ↔
      (frame.drop 12).take 2 = [0x43, 0x05] := Bpf.load_eq_some_iff rfl
  rw [hword] at hload
  refine Iff.trans ?_ hload
  unfold Bpf.Field.Passes Bpf.Field.value
  simp only [List.mem_singleton, forall_eq, Bpf.Check.Passes, List.not_mem_nil, or_false]
  constructor
  · rintro ⟨a, ha, rfl⟩
    exact ha
  · exact fun ha => ⟨_, ha, rfl⟩

/-- The length of a frame. -/
lemma passes_length_iff {frame : List U8} (hlen : frame.length < 2 ^ 32) :
    Bpf.Field.Passes frame ⟨none, [.ge 34, .le 130]⟩ ↔
      34 ≤ frame.length ∧ frame.length ≤ 130 := by
  have hnat : (BitVec.ofNat 32 frame.length).toNat = frame.length := by
    rw [BitVec.toNat_ofNat, Nat.mod_eq_of_lt hlen]
  have h34 : (34 : BitVec 32).toNat = 34 := rfl
  have h130 : (130 : BitVec 32).toNat = 130 := rfl
  unfold Bpf.Field.Passes Bpf.Field.value
  simp only [Option.some_inj, exists_eq_left', List.mem_cons, List.not_mem_nil, or_false,
    forall_eq_or_imp, forall_eq, Bpf.Check.Passes, BitVec.le_def, hnat, h34, h130]

/-- A frame passes the checks of all fields exactly if it is an answer. -/
lemma passes_icmpFilterFields_iff {uid : U8} {frame : List U8} (hlen : frame.length < 2 ^ 32) :
    (∀ f ∈ icmpFilterFields uid, f.Passes frame) ↔ IsIcmpAnswer uid frame := by
  simp only [icmpFilterFields, List.forall_mem_cons, List.not_mem_nil, IsEmpty.forall_iff,
    implies_true, and_true]
  rw [passes_etherType_iff, passes_length_iff hlen]
  have htype := passes_one_byte_iff frame 14 0x43
  have hversion := passes_one_byte_iff frame 15 COMPAT_VERSION
  have hmsgType := passes_byte_iff frame 17 ECHO_REPLY [DESTINATION_UNREACHABLE, TTL_EXCEEDED]
  have hnumber := passes_one_byte_iff frame 30 uid
  constructor
  · rintro ⟨h1, ⟨h2, h3⟩, h4, h5, h6, h7⟩
    refine ⟨h2, h3, h1, htype.1 h4, hversion.1 h5, ?_, hnumber.1 h7⟩
    obtain ⟨t, ht, hone⟩ := hmsgType.1 h6
    exact ⟨t, ht, by simpa using hone⟩
  · rintro ⟨h2, h3, h1, h4, h5, ⟨t, ht, hone⟩, h7⟩
    exact ⟨h1, ⟨h2, h3⟩, htype.2 h4, hversion.2 h5, hmsgType.2 ⟨t, ht, by simpa using hone⟩,
      hnumber.2 h7⟩

/-- **The filter accepts the answers with its number and rejects everything else**, whatever the
frame contains and however short it is.

**Proof sketch.** The program is compiled from the checks of six fields, each of which says
something about the bytes of the frame. -/
theorem icmp_filter_exact (uid : U8) (frame : List U8) (hlen : frame.length < 2 ^ 32) :
    (IsIcmpAnswer uid frame → Bpf.run frame (icmpInterfaceFilter uid) 0 = 130) ∧
      (¬IsIcmpAnswer uid frame → Bpf.run frame (icmpInterfaceFilter uid) 0 = 0) := by
  rw [icmpInterfaceFilter_eq, ← passes_icmpFilterFields_iff hlen]
  exact Bpf.run_compile _ _ _

/-- An answer that has the number 7, which another process does not see. -/
theorem icmp_filter_exact_reply :
    let frame := icmpFrameBytes ⟨0x020000000001, 0x020000000002, 20,
      ⟨50, ECHO_REPLY, 0x020000000001, 0x020000000003, 0, []⟩, 7, 1⟩
    Bpf.run frame (icmpInterfaceFilter 7) 0 = 130 ∧
      Bpf.run frame (icmpInterfaceFilter 8) 0 = 0 :=
  ⟨(icmp_filter_exact 7 _ (by decide)).1
      ⟨by decide, by decide, by decide, by decide, by decide, ⟨_, rfl, .inl rfl⟩, by decide⟩,
    (icmp_filter_exact 8 _ (by decide)).2 fun h => absurd h.number (by decide)⟩

/-- Requests do not pass. -/
lemma filter_rejects {f : IcmpFrame} {uid : U8} (hmsg : f.header.msgType = ECHO_REQUEST) :
    Bpf.run (icmpFrameBytes f) (icmpInterfaceFilter uid) 0 = 0 := by
  rw [icmpInterfaceFilter_eq]
  refine (Bpf.run_compile _ _ _).2 fun hall => ?_
  obtain ⟨t, ht, hone⟩ := (passes_byte_iff (icmpFrameBytes f) 17 ECHO_REPLY
    [DESTINATION_UNREACHABLE, TTL_EXCEEDED]).1 (hall _ (by simp [icmpFilterFields]))
  obtain rfl : f.header.msgType = t := Option.some.inj ht
  rw [hmsg] at hone
  revert hone
  decide

/-- The length of a frame without or with a record. -/
lemma length_icmpFrameBytes {f : IcmpFrame}
    (hlen : f.len = 20 ∨ f.len = 116 ∧ f.header.rr.length = 16) :
    (icmpFrameBytes f).length = 14 + f.len := by
  have hrr : (f.header.rr.flatMap EthAddr.bytes).length = 6 * f.header.rr.length := by
    rw [List.length_flatMap]
    simp [EthAddr.bytes, Nat.mul_comm]
  unfold icmpFrameBytes
  simp only [List.length_append, List.length_take, hrr, EthAddr.bytes, List.length_cons,
    List.length_nil]
  omega

/-- Answers with the right number pass. -/
lemma filter_accepts {f : IcmpFrame}
    (hlen : f.len = 20 ∨ f.len = 116 ∧ f.header.rr.length = 16)
    (hmsg : f.header.msgType = ECHO_REPLY ∨ f.header.msgType = TTL_EXCEEDED) :
    Bpf.run (icmpFrameBytes f) (icmpInterfaceFilter f.uid) 0 = 130 := by
  have hlength := length_icmpFrameBytes hlen
  rw [icmpInterfaceFilter_eq]
  refine (Bpf.run_compile _ _ _).1 ((passes_icmpFilterFields_iff (by omega)).2 ?_)
  refine ⟨by omega, by omega, rfl, rfl, rfl, ⟨_, rfl, ?_⟩, rfl⟩
  rcases hmsg with hmsg | hmsg
  · exact .inl hmsg
  · exact .inr (.inr hmsg)

/-! ### What is read -/

section Read

variable {ν δ : Type*} {M : IcmpMesh ν δ} {s : ν} {uid : U8} {packetLen : ℕ} {seqno : U16}

/-- A frame for which the commands go on waiting. -/
def Skipped (ifaces : List HardIface) (uid : U8) (packetLen : ℕ) (seqno : U16)
    (x : EthAddr × IcmpFrame) : Prop :=
  icmpInterfaceRead ifaces uid packetLen x = none ∨
    packetLen ≤ x.2.len ∧ x.2.seqno ≠ seqno

/-- What a packet that was read keeps of the frame. -/
lemma icmpInterfaceRead_eq_some {ifaces : List HardIface} {x : EthAddr × IcmpFrame} {p : IcmpRead}
    (hread : icmpInterfaceRead ifaces uid packetLen x = some p) :
    p.readLen = min x.2.len packetLen ∧ p.packet.seqno = x.2.seqno := by
  obtain ⟨mac, f⟩ := x
  unfold icmpInterfaceRead at hread
  dsimp only at hread
  generalize Bpf.run (icmpFrameBytes f) (icmpInterfaceFilter uid) 0 = accepted at hread
  split_ifs at hread
  cases hread
  exact ⟨rfl, rfl⟩

/-- Packets that are read have a header. -/
lemma icmpInterfaceRead_long {ifaces : List HardIface} {x : EthAddr × IcmpFrame} {p : IcmpRead}
    (hread : icmpInterfaceRead ifaces uid packetLen x = some p) : 20 ≤ x.2.len := by
  obtain ⟨mac, f⟩ := x
  unfold icmpInterfaceRead at hread
  dsimp only at hread
  generalize Bpf.run (icmpFrameBytes f) (icmpInterfaceFilter uid) 0 = accepted at hread
  by_contra hshort
  have hread' : min f.len packetLen < 20 := by
    dsimp only at hshort
    omega
  rw [if_pos hread'] at hread
  split_ifs at hread

/-- What is skipped does not matter. -/
lemma readPacket_append {ifaces : List HardIface} {pre rx : List (EthAddr × IcmpFrame)}
    (hpre : ∀ x ∈ pre, Skipped ifaces uid packetLen seqno x) :
    readPacket (icmpInterfaceRead ifaces uid packetLen) packetLen seqno (pre ++ rx) =
      readPacket (icmpInterfaceRead ifaces uid packetLen) packetLen seqno rx := by
  induction pre with
  | nil => rfl
  | cons x pre ih =>
    rw [List.forall_mem_cons] at hpre
    rw [List.cons_append, readPacket, ih hpre.2]
    rcases hread : icmpInterfaceRead ifaces uid packetLen x with _ | p
    · rfl
    · -- then it has another seqno
      have hskipped := hpre.1
      unfold Skipped at hskipped
      rw [hread] at hskipped
      obtain ⟨hlong, hseqno⟩ := hskipped.resolve_left (Option.some_ne_none p)
      have hp := icmpInterfaceRead_eq_some hread
      have hfull : ¬p.readLen < packetLen := by
        rw [hp.1, min_eq_right hlong]
        exact lt_irrefl _
      have hother : seqno ≠ p.packet.seqno := by
        rw [hp.2]
        exact hseqno.symm
      dsimp only
      rw [if_neg hfull, if_pos hother]

/-- Requests are not read. -/
lemma skipped_of_request {ifaces : List HardIface} {x : EthAddr × IcmpFrame}
    (hmsg : x.2.header.msgType = ECHO_REQUEST) : Skipped ifaces uid packetLen seqno x := by
  obtain ⟨mac, f⟩ := x
  left
  unfold icmpInterfaceRead
  dsimp only
  rw [if_pos (filter_rejects hmsg)]

/-- The end of a record leaves the rest of the packet alone. -/
lemma icmpEndRr_fields (readLen : ℕ) (mac : EthAddr) (h : IcmpHeader) :
    (icmpEndRr readLen mac h).orig = h.orig ∧ (icmpEndRr readLen mac h).msgType = h.msgType := by
  unfold icmpEndRr
  split_ifs <;> exact ⟨rfl, rfl⟩

variable (uid packetLen seqno) in
/-- An answer that arrives is read. -/
lemma readPacket_answer {a : EthAddr} {g : IcmpFrame} (hglen : g.len = packetLen)
    (hlen : packetLen = 20 ∨ packetLen = 116 ∧ g.header.rr.length = 16)
    (hmsg : g.header.msgType = ECHO_REPLY ∨ g.header.msgType = TTL_EXCEEDED)
    (hdst : g.header.dst = M.primary s) (huid : g.uid = uid) (hseqno : g.seqno = seqno) :
    readPacket (icmpInterfaceRead (M.bat s).hardIfaces uid packetLen) packetLen seqno [(a, g)] =
      some ⟨packetLen, { g with header := icmpEndRr packetLen a g.header }⟩ := by
  subst hglen huid hseqno
  have hmine : ((M.bat s).hardIfaces.any fun i => i.devAddr == g.header.dst) = true := by
    rw [hdst]
    obtain ⟨i, hi, hmac⟩ := List.any_eq_true.1 ((M.primary_isMyMac s s).2 rfl)
    exact List.any_eq_true.2 ⟨i, hi, (Bool.and_eq_true_iff.1 hmac).2⟩
  have hpass := filter_accepts hlen hmsg
  have hread : icmpInterfaceRead (M.bat s).hardIfaces g.uid g.len (a, g) =
      some ⟨g.len, { g with header := icmpEndRr g.len a g.header }⟩ := by
    unfold icmpInterfaceRead
    dsimp only
    rw [hpass, hmine, min_self, if_neg (by decide), if_neg (by omega)]
    rfl
  rw [readPacket, hread]
  dsimp only
  rw [if_neg (lt_irrefl _), if_neg (not_not.2 rfl)]

variable [DecidableEq ν]

lemma arriving_append (frames frames' : List IcmpFrame) :
    arriving M s (frames ++ frames') = arriving M s frames ++ arriving M s frames' :=
  List.filterMap_append

/-- Frames on their way do not arrive. -/
lemma arriving_of_transit {f : IcmpFrame} {frames : List IcmpFrame}
    (htransit : ∀ x ∈ frames, M.Transit (M.primary s) f x) : arriving M s frames = [] := by
  unfold arriving
  rw [List.filterMap_eq_nil_iff]
  intro x hx
  obtain ⟨v, i, howner, hmine⟩ := (htransit x hx).notMine
  rw [howner, Option.bind_some]
  refine if_neg fun hv => ?_
  dsimp only at hv
  rw [hv, (M.primary_isMyMac s s).2 rfl] at hmine
  cases hmine

lemma arriving_singleton {g : IcmpFrame} {i : HardIface} (howner : M.owner g.dest = some (s, i)) :
    arriving M s [g] = [(g.dest, g)] := by
  unfold arriving
  rw [List.filterMap_cons, howner, Option.bind_some, if_pos rfl, M.owner_devAddr howner]
  rfl

/-- What arrives was sent. -/
lemma mem_of_mem_arriving {frames : List IcmpFrame} {x : EthAddr × IcmpFrame}
    (hx : x ∈ arriving M s frames) : x.2 ∈ frames := by
  obtain ⟨f, hf, hsome⟩ := List.mem_filterMap.1 hx
  obtain ⟨p, -, hp⟩ := Option.bind_eq_some_iff.1 hsome
  split_ifs at hp
  cases hp
  exact hf

end Read

/-! ### A packet and its answer -/

section Answer

open IcmpMesh

variable {ν δ : Type*} {M : IcmpMesh ν δ} {s v : ν} {uid : U8} {packetLen : ℕ} {seqno : U16}
  {dst source a b : EthAddr} {path back : List (EthAddr × ν)} {icmpPacket h h' : IcmpHeader}

/-- The answer that a node sends back to `s`. -/
def icmpReply (M : IcmpMesh ν δ) (s v : ν) (msgType : U8) (h : IcmpHeader) : IcmpHeader :=
  { h with dst := M.primary s, orig := M.primary v, msgType := msgType, ttl := TTL }

/-- The way back ends at the node that has sent the packet. -/
lemma exists_getLast_back (hback : M.Route (M.primary s) v none back) :
    ∃ c, back.getLast? = some (c, s) := by
  obtain ⟨c, w, hlast, hmine⟩ := hback.getLast_mine
  rw [M.primary_isMyMac] at hmine
  exact ⟨c, by rw [← hmine]; exact hlast⟩

variable [DecidableEq ν]

variable (uid packetLen seqno icmpPacket) in
/-- **The answer to a packet is read**: it goes to the place of its way where it is answered, and
the answer comes back. -/
lemma icmpProbe_eq {n j : ℕ} (stale : List (EthAddr × IcmpFrame))
    (hroute : M.Route dst s none path) (hj : path[j]? = some (a, v))
    (hsource : M.nextHop s none dst = some (source, b)) (hdst : icmpPacket.dst = dst)
    (hmsg : icmpPacket.msgType = ECHO_REQUEST) (hlen : 20 ≤ packetLen)
    (httl : j < icmpPacket.ttl.toNat)
    (hstop : j + 1 = path.length ∨ icmpPacket.ttl.toNat = j + 1)
    (hrec : records packetLen (icmpInterfaceWrite M s source packetLen icmpPacket)
      ((path.take (j + 1)).map Prod.fst) = some h)
    (hback : M.Route (M.primary s) v none back) (hbackLen : back.length ≤ 50)
    (hrecBack : records packetLen
      (icmpReply M s v (if j + 1 = path.length then ECHO_REPLY else TTL_EXCEEDED) h)
      (back.dropLast.map Prod.fst) = some h')
    (hn : j + 1 + back.length ≤ n)
    (hstale : ∀ x ∈ stale, Skipped (M.bat s).hardIfaces uid packetLen seqno x) :
    ∃ g i c, M.Arrived ⟨0, 0, packetLen, icmpReply M s v
        (if j + 1 = path.length then ECHO_REPLY else TTL_EXCEEDED) h, uid, seqno⟩ h'
        (back.length - 1) c s i g ∧
      back.getLast? = some (c, s) ∧
      icmpProbe M n s uid packetLen stale icmpPacket seqno =
        readPacket (icmpInterfaceRead (M.bat s).hardIfaces uid packetLen) packetLen seqno
          [(c, g)] := by
  set f : IcmpFrame :=
    ⟨0, 0, packetLen, icmpInterfaceWrite M s source packetLen icmpPacket, uid, seqno⟩ with hf
  obtain ⟨hop, hhop⟩ : ∃ hop, M.nextHop v none f.header.orig = some hop := by
    obtain ⟨x, y, -, -, -, hhop, -⟩ := hback.head
    exact ⟨(x, y), hhop⟩
  obtain ⟨fs, hfs, hwire⟩ := hroute.answered hj (f := f) hdst hlen httl hstop hmsg hrec hhop
  obtain ⟨c, hlast⟩ := exists_getLast_back hback
  have hreply : (if j + 1 = path.length then ECHO_REPLY else TTL_EXCEEDED) ≠ ECHO_REQUEST := by
    split_ifs <;> decide
  obtain ⟨gs, g, i, hwireBack, htransit, harrived⟩ := hback.delivered hlast
    (f := ⟨0, 0, packetLen, icmpReply M s v
      (if j + 1 = path.length then ECHO_REPLY else TTL_EXCEEDED) h, uid, seqno⟩)
    rfl hlen hbackLen hreply hrecBack
  refine ⟨g, i, c, harrived, hlast, ?_⟩
  have hframes : M.wire n (M.send s none f) = fs ++ (gs ++ [g]) := by
    obtain ⟨m, rfl⟩ : ∃ m, n = j + 1 + (back.length + m) :=
      ⟨n - (j + 1 + back.length), by omega⟩
    rw [hwire, ← hwireBack m]
    rfl
  have hgdest : g.dest = c := by rw [harrived.eq]
  unfold icmpProbe
  rw [hdst, hsource]
  dsimp only
  rw [← hf, hframes, arriving_append, arriving_append, arriving_of_transit htransit,
    arriving_singleton harrived.owner, List.nil_append, hgdest, ← List.append_assoc]
  refine readPacket_append fun x hx => ?_
  rcases List.mem_append.1 hx with hx | hx
  · exact hstale x hx
  · exact skipped_of_request (hfs _ (mem_of_mem_arriving hx))

/-! ### Traceroute -/

/-- The answer to a packet of traceroute. -/
lemma icmpProbe_traceroute {n j : ℕ} {stale : List (EthAddr × IcmpFrame)}
    (hroute : M.Route dst s none path) (hj : path[j]? = some (a, v)) (hshort : path.length < 50)
    (hback : M.Route (M.primary s) v none back) (hbackLen : back.length ≤ 50) (hn : 99 ≤ n)
    (hstale : ∀ x ∈ stale, x.2.seqno ≠ seqno) :
    ∃ p, icmpProbe M n s uid 20 stale ⟨BitVec.ofNat 8 (j + 1), ECHO_REQUEST, dst, 0, 0, []⟩ seqno =
        some p ∧
      p.packet.header.orig = M.primary v ∧
      p.packet.header.msgType = if j + 1 = path.length then ECHO_REPLY else TTL_EXCEEDED := by
  have hjlt : j < path.length := (List.getElem?_eq_some_iff.1 hj).1
  have httl : (BitVec.ofNat 8 (j + 1)).toNat = j + 1 := by
    rw [BitVec.toNat_ofNat]
    omega
  obtain ⟨source, b, -, -, -, hsource, -⟩ := hroute.head
  have hskip : ∀ x ∈ stale, Skipped (M.bat s).hardIfaces uid 20 seqno x := by
    intro x hx
    by_cases hlen : 20 ≤ x.2.len
    · exact .inr ⟨hlen, hstale x hx⟩
    · -- short packets are not read
      left
      cases hread : icmpInterfaceRead (M.bat s).hardIfaces uid 20 x with
      | none => rfl
      | some p =>
        have hlong := icmpInterfaceRead_long hread
        omega
  obtain ⟨g, i, c, harrived, -, hprobe⟩ := icmpProbe_eq uid 20 seqno
    ⟨BitVec.ofNat 8 (j + 1), ECHO_REQUEST, dst, 0, 0, []⟩ stale (n := n) hroute hj hsource rfl rfl
    le_rfl (by rw [httl]; omega) (.inr httl) (records_of_short (by decide) _ _) hback hbackLen
    (records_of_short (by decide) _ _) (by omega) hskip
  have hg := harrived.eq
  have hmsg : g.header.msgType = if j + 1 = path.length then ECHO_REPLY else TTL_EXCEEDED := by
    rw [hg]
    rfl
  obtain ⟨horig, hmsg'⟩ := icmpEndRr_fields 20 c g.header
  refine ⟨_, hprobe.trans (readPacket_answer uid 20 seqno (by rw [hg]) (.inl rfl) ?_
    (by rw [hg]; rfl) (by rw [hg]) (by rw [hg])), ?_, ?_⟩
  · rw [hmsg]
    split_ifs
    · exact .inl rfl
    · exact .inr rfl
  · refine horig.trans ?_
    rw [hg]
    rfl
  · exact hmsg'.trans hmsg

omit [DecidableEq ν] in
/-- **The lines of traceroute** from a place of the way on.

**Proof sketch.** Induction on the rest of the way: the node at that place answers all packets, and
the last answer is an echo reply. -/
lemma tracerouteLoop_eq {probe : U8 → U16 → Option IcmpRead} (hshort : path.length < 50)
    (hprobe : ∀ j a v, path[j]? = some (a, v) → ∀ seqno, ∃ p,
      probe (BitVec.ofNat 8 (j + 1)) seqno = some p ∧ p.packet.header.orig = M.primary v ∧
        p.packet.header.msgType = if j + 1 = path.length then ECHO_REPLY else TTL_EXCEEDED)
    (rest pre : List (EthAddr × ν)) (hpath : path = pre ++ rest) (hne : rest ≠ []) (m seq : ℕ)
    (hm : rest.length ≤ m) :
    tracerouteLoop probe m (BitVec.ofNat 8 (pre.length + 1)) seq =
      (rest.zipIdx pre.length).map fun x =>
        (BitVec.ofNat 8 (x.2 + 1), some (M.primary x.1.2)) := by
  induction rest generalizing pre m seq with
  | nil => exact absurd rfl hne
  | cons x rest ih =>
    obtain ⟨a, v⟩ := x
    obtain ⟨m, rfl⟩ : ∃ k, m = k + 1 := ⟨m - 1, by rw [List.length_cons] at hm; omega⟩
    have hlen : path.length = pre.length + (rest.length + 1) := by
      rw [hpath, List.length_append, List.length_cons]
    have hj : path[pre.length]? = some (a, v) := by
      rw [hpath, List.getElem?_append_right le_rfl, Nat.sub_self]
      rfl
    have httl : BitVec.ofNat 8 (pre.length + 1) < TTL_MAX := by
      rw [BitVec.lt_def, BitVec.toNat_ofNat]
      show (pre.length + 1) % 2 ^ 8 < 50
      omega
    -- the three answers
    obtain ⟨p₁, hp₁, horig₁, hmsg₁⟩ := hprobe _ a v hj (BitVec.ofNat 16 (seq + 1))
    obtain ⟨p₂, hp₂, -, hmsg₂⟩ := hprobe _ a v hj (BitVec.ofNat 16 (seq + 2))
    obtain ⟨p₃, hp₃, -, hmsg₃⟩ := hprobe _ a v hj (BitVec.ofNat 16 (seq + 3))
    have hanswers : ([1, 2, 3].filterMap fun i =>
        probe (BitVec.ofNat 8 (pre.length + 1)) (BitVec.ofNat 16 (seq + i))) = [p₁, p₂, p₃] := by
      simp [hp₁, hp₂, hp₃]
    have hshown : p₁.shown = true := by
      unfold IcmpRead.shown
      rw [hmsg₁]
      split_ifs <;> rfl
    have hnext : tracerouteLoop probe (m + 1) (BitVec.ofNat 8 (pre.length + 1)) seq =
        (BitVec.ofNat 8 (pre.length + 1), some (M.primary v)) ::
          if pre.length + 1 = path.length then []
          else tracerouteLoop probe m (BitVec.ofNat 8 (pre.length + 1) + 1) (seq + 3) := by
      rw [tracerouteLoop, hanswers, decide_eq_true httl]
      simp only [List.any_cons, List.any_nil, hmsg₁, hmsg₂, hmsg₃, List.find?_cons, hshown,
        Option.map_some, horig₁]
      by_cases hend : pre.length + 1 = path.length
      · rw [if_pos hend, if_pos hend]
        rfl
      · rw [if_neg hend, if_neg hend]
        rfl
    rw [hnext, List.zipIdx_cons, List.map_cons]
    congr 1
    cases rest with
    | nil =>
      rw [if_pos (by rw [hlen]; rfl)]
      rfl
    | cons y rest =>
      have hmore : ¬pre.length + 1 = path.length := by
        rw [hlen, List.length_cons]
        omega
      have hsucc : BitVec.ofNat 8 (pre.length + 1) + 1 =
          BitVec.ofNat 8 ((pre ++ [(a, v)]).length + 1) := by
        rw [List.length_append, List.length_singleton]
        exact (BitVec.ofNat_add (pre.length + 1) 1).symm
      have hrest := ih (pre ++ [(a, v)]) (by rw [hpath, List.append_assoc]; rfl)
        (List.cons_ne_nil _ _) m (seq + 3) (by simp only [List.length_cons] at hm ⊢; omega)
      rw [if_neg hmore, hsucc, hrest, List.length_append, List.length_singleton]

/-- **Traceroute shows the route**: one line for each node on the way to the destination, with the
address of its primary interface, if all of these nodes have a way of at most 50 hops back.  Frames
that had arrived before, with other sequence numbers, do not matter.

**Proof sketch.** A packet with the time to live `j` is answered by the `j`-th node on the way, and
the answer arrives, passes the filter of the socket and is read. -/
theorem traceroute_shows_route (M : IcmpMesh ν δ) (s : ν) (uid : U8) (dst : EthAddr)
    (path : List (EthAddr × ν)) (hroute : M.Route dst s none path) (hshort : path.length < 50)
    (hback : ∀ x ∈ path, ∃ back, M.Route (M.primary s) x.2 none back ∧ back.length ≤ 50) (n : ℕ)
    (hn : 99 ≤ n) (stale : U16 → List (EthAddr × IcmpFrame))
    (hstale : ∀ seqno, ∀ x ∈ stale seqno, x.2.seqno ≠ seqno) :
    traceroute M n s uid dst stale =
      path.zipIdx.map fun x => (BitVec.ofNat 8 (x.2 + 1), some (M.primary x.1.2)) := by
  have hne : path ≠ [] := by
    obtain ⟨_, _, _, _, rest, -, -, hcons, -⟩ := hroute.head
    rw [hcons]
    exact List.cons_ne_nil _ _
  refine tracerouteLoop_eq hshort (fun j a v hj seqno => ?_) path [] rfl hne 50 0 hshort.le
  obtain ⟨back, hroute', hlen⟩ := hback (a, v) (List.mem_of_getElem? hj)
  exact icmpProbe_traceroute hroute hj hshort hroute' hlen hn (hstale seqno)

/-! ### Ping with a route record -/

end Answer

/-! ### A line of three nodes -/

/-- Three nodes. -/
inductive LineNode
  | a
  | b
  | c
deriving DecidableEq, Repr

/-- The addresses of the nodes. -/
def lineAddrs : LineNode → EthAddr
  | .a => 0x020000000010
  | .b => 0x020000000011
  | .c => 0x020000000012

/-- The interface of a node. -/
def lineHardIface (v : LineNode) : HardIface := ⟨1, lineAddrs v, true, 0, []⟩

/-- What a node knows of another one: the neighbour on the way to it. -/
def lineOrig (v router : LineNode) : EthAddr × OrigNode Unit :=
  (lineAddrs v, ⟨lineAddrs v, 0, [], [(none, ⟨some ⟨lineAddrs router, 1⟩, 0, 0, 0, 0⟩),
    (some 1, ⟨some ⟨lineAddrs router, 1⟩, 0, 0, 0, 0⟩)], ⟨0, 0, 0, ()⟩⟩)

/-- The state of a node. -/
def lineBat (v : LineNode) : BatPriv Unit where
  config := ⟨0, 0, 0, 0⟩
  hardIfaces := [lineHardIface v]
  origHash :=
    match v with
    | .a => [lineOrig .b .b, lineOrig .c .b]
    | .b => [lineOrig .a .a, lineOrig .c .c]
    | .c => [lineOrig .a .b, lineOrig .b .b]
  handlerList := []

/-- Three nodes in a line. -/
def lineIcmpMesh : IcmpMesh LineNode Unit where
  bat := lineBat
  primary := lineAddrs
  recvNode v i := {
    bat := lineBat v, recvIf := i, jiffies := 0, alloc := .all, skbWritable := true
    primaryIf := some (lineAddrs v), mtu := fun _ => 1500, ttvn := 0, origTtvn := fun _ => 0
    clientIsRoaming := fun _ _ => false, isMyClient := fun _ _ => false
    transtableSearch := fun _ _ => none, tvlvConsumed := fun _ => false
    bcastWindow := fun _ => ⟨0, 0, 0⟩, numBcasts := fun _ => 1, bcastQueued := fun _ => true
    blaDuplicate := fun _ => false, mcastCopies := fun _ => [] }
  owner a :=
    if a = lineAddrs .a then some (.a, lineHardIface .a)
    else if a = lineAddrs .b then some (.b, lineHardIface .b)
    else if a = lineAddrs .c then some (.c, lineHardIface .c)
    else none
  recvNode_bat _ _ := rfl
  recvNode_primaryIf _ _ := rfl
  recvNode_skbWritable _ _ := rfl
  owner_devAddr h := by
    split_ifs at h with h0 h1 h2
    · cases h
      exact h0.symm
    · cases h
      exact h1.symm
    · cases h
      exact h2.symm
  owner_isMyMac h := by
    split_ifs at h with h0 h1 h2
    · cases h
      rw [h0]
      decide
    · cases h
      rw [h1]
      decide
    · cases h
      rw [h2]
      decide
  owner_isValid h := by
    split_ifs at h with h0 h1 h2
    · rw [h0]
      decide
    · rw [h1]
      decide
    · rw [h2]
      decide
  devAddr_unicast v := by
    cases v <;> decide
  primary_isMyMac v w := by
    cases v <;> cases w <;> decide

/-- The way from the first node to the last one, and the way back. -/
lemma line_routes :
    lineIcmpMesh.Route (lineAddrs .c) .a none [(lineAddrs .b, .b), (lineAddrs .c, .c)] ∧
      lineIcmpMesh.Route (lineAddrs .a) .c none [(lineAddrs .b, .b), (lineAddrs .a, .a)] ∧
      lineIcmpMesh.Route (lineAddrs .a) .b none [(lineAddrs .a, .a)] := by
  have hforth : lineIcmpMesh.Route (lineAddrs .c) .b (some (lineHardIface .b).ifindex)
      [(lineAddrs .c, .c)] := by
    have hhop : lineIcmpMesh.nextHop .b (some (lineHardIface .b).ifindex) (lineAddrs .c) =
        some (lineAddrs .b, lineAddrs .c) := by decide
    exact .last hhop (i := lineHardIface .c) (by decide) (by decide)
  have hback : ∀ key, lineIcmpMesh.nextHop .b key (lineAddrs .a) =
        some (lineAddrs .b, lineAddrs .a) →
      lineIcmpMesh.Route (lineAddrs .a) .b key [(lineAddrs .a, .a)] :=
    fun key hhop => .last hhop (i := lineHardIface .a) (by decide) (by decide)
  refine ⟨?_, ?_, ?_⟩
  · have hhop : lineIcmpMesh.nextHop .a none (lineAddrs .c) =
        some (lineAddrs .a, lineAddrs .b) := by decide
    exact .hop hhop (i := lineHardIface .b) (by decide) (by decide) hforth
  · have hhop : lineIcmpMesh.nextHop .c none (lineAddrs .a) =
        some (lineAddrs .c, lineAddrs .b) := by decide
    exact .hop hhop (i := lineHardIface .b) (by decide) (by decide) (hback _ (by decide))
  · exact hback none (by decide)

/-- A traceroute along the line, before which an old frame had arrived. -/
theorem traceroute_shows_route_line :
    traceroute lineIcmpMesh 99 .a 7 (lineAddrs .c) (fun seqno =>
      [(lineAddrs .a, ⟨lineAddrs .b, lineAddrs .a, 20,
        ⟨50, TTL_EXCEEDED, lineAddrs .a, lineAddrs .b, 0, []⟩, 7, seqno + 1⟩)]) =
      [(1, some (lineAddrs .b)), (2, some (lineAddrs .c))] :=
  traceroute_shows_route lineIcmpMesh .a 7 (lineAddrs .c)
    [(lineAddrs .b, .b), (lineAddrs .c, .c)] line_routes.1 (by decide)
    (by
      intro x hx
      rcases List.mem_cons.1 hx with rfl | hx
      · exact ⟨_, line_routes.2.2, by decide⟩
      · obtain rfl := List.mem_singleton.1 hx
        exact ⟨_, line_routes.2.1, by decide⟩) 99 le_rfl _
    (by
      intro seqno x hx
      obtain rfl := List.mem_singleton.1 hx
      show seqno + 1 ≠ seqno
      bv_omega)

end Batctl
