import BatmanAdv.Main

set_option relaxedAutoImplicit false
set_option autoImplicit false

/-!
# The sessions of the throughput meter (`tp_meter.c`, `types.h`)

A session has a sender and a receiver, which keep their state in the same structure.  Memory for
it is not zeroed, so that a field that is not set when a session starts may have any value.

## Main definitions

* `Batadv.TpVars` — `struct batadv_tp_vars`.
* `Batadv.TpUnacked` — a segment that was received out of order.
-/

namespace Batadv

/-- `BATADV_TP_AWND`: the window advertised by the receiver, in bytes. -/
def TP_AWND : U32 := 0x20000000

/-- `BATADV_TP_MAX_RTO`: the maximum sender timeout, in milliseconds. -/
def TP_MAX_RTO : U32 := 30000

/-- `BATADV_TP_FIRST_SEQ`: the first sequence number of each session, shortly before the wrap. -/
def TP_FIRST_SEQ : U32 := -1 - 2000

/-- `BATADV_TP_PLEN`: the length of the payload of a message, which is also the segment size. -/
def TP_PLEN : U32 := 1476

/-- `sizeof(struct batadv_unicast_packet)`. -/
def UNICAST_HDR_SIZE : ℕ := 10

/-- `enum batadv_tp_meter_role`. -/
inductive TpRole
  | receiver
  | sender
deriving DecidableEq, Repr

/-- `enum batadv_tp_meter_reason`, with the value the code gives to each. -/
abbrev TpReason := U8

/-- `BATADV_TP_REASON_COMPLETE`. -/
def TP_REASON_COMPLETE : TpReason := 3

/-- `BATADV_TP_REASON_CANCEL`. -/
def TP_REASON_CANCEL : TpReason := 4

/-- `BATADV_TP_REASON_DST_UNREACHABLE`. -/
def TP_REASON_DST_UNREACHABLE : TpReason := 128

/-- `BATADV_TP_REASON_MEMORY_ERROR`. -/
def TP_REASON_MEMORY_ERROR : TpReason := 131

/-- `BATADV_TP_REASON_CANT_SEND`. -/
def TP_REASON_CANT_SEND : TpReason := 132

/-- `struct batadv_tp_unacked`. -/
structure TpUnacked where
  seqno : U32
  len : U16
deriving DecidableEq, Repr

/-- `struct batadv_tp_vars`. -/
structure TpVars where
  role : TpRole
  /-- An `atomic_t`. -/
  sending : BitVec 32
  reason : TpReason
  -- sender variables
  decCwnd : U16
  cwnd : U32
  ssThreshold : U32
  lastAcked : U32
  lastSent : U32
  totSent : U64
  dupAcks : BitVec 32
  fastRecovery : Bool
  recover : U32
  rto : U32
  srtt : U32
  rttvar : U32
  -- receiver variables
  lastRecv : U32
  unackedList : List TpUnacked
  lastRecvTime : Jiffies
deriving DecidableEq, Repr

/-- What may be in the memory of a new session. -/
def tpMemory : TpVars :=
  ⟨.sender, 0, 0, 0, 0, 0, 0, 0, 0, 0, false, 0, 0, 0, 0, 0, [], 0⟩

end Batadv
