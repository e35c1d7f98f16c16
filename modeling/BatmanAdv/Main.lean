import BatmanAdv.Lib.SerialNumber

set_option relaxedAutoImplicit false
set_option autoImplicit false

/-!
# Shared definitions of the mesh protocol (`main.h`, `main.c`, parts of `routing.c`)

The fixed-width integers of the C code are bit vectors of the same width, so that arithmetic
wraps as it does there.  Time is the jiffies counter; how many jiffies a number of milliseconds
is depends on the kernel's configuration, and is a parameter of every definition that needs it.

## Main definitions

* `Batadv.U8`, `Batadv.U16`, `Batadv.U32`, `Batadv.U64`, `Batadv.Jiffies`, `Batadv.EthAddr`.
* `Batadv.seqBefore` — `batadv_seq_before`, the macro every sequence number goes through.
* `Batadv.hasTimedOut` — `batadv_has_timed_out`.
* `Batadv.windowProtected` — `batadv_window_protected`, the protection against restarts.

## Main results

* `Batadv.seqBefore_iff` — the macro is serial number comparison.
* `Batadv.windowProtected_eq_none_iff` — exactly when a sequence number is ignored.
-/

namespace Batadv

abbrev U8 := BitVec 8
abbrev U16 := BitVec 16
abbrev U32 := BitVec 32
abbrev U64 := BitVec 64

/-- The kernel's tick counter, an `unsigned long`. -/
abbrev Jiffies := BitVec 64

/-- An Ethernet address; the octet sent first is the most significant one. -/
abbrev EthAddr := BitVec 48

/-- The bytes of an Ethernet address. -/
def EthAddr.bytes (addr : EthAddr) : List U8 :=
  [addr.extractLsb' 40 8, addr.extractLsb' 32 8, addr.extractLsb' 24 8, addr.extractLsb' 16 8,
    addr.extractLsb' 8 8, addr.extractLsb' 0 8]

/-- `is_multicast_ether_addr`: the group bit of the first octet. -/
def isMulticastEtherAddr (addr : EthAddr) : Bool := addr.getLsbD 40

/-- `is_broadcast_ether_addr`. -/
def isBroadcastEtherAddr (addr : EthAddr) : Bool := addr == BitVec.allOnes 48

/-- `is_zero_ether_addr`. -/
def isZeroEtherAddr (addr : EthAddr) : Bool := addr == 0

/-- `is_valid_ether_addr`: neither a group address nor zero. -/
def isValidEtherAddr (addr : EthAddr) : Bool :=
  !isMulticastEtherAddr addr && !isZeroEtherAddr addr

/-- `ENOENT`. -/
def ENOENT : ℤ := 2

/-- `ENOMEM`. -/
def ENOMEM : ℤ := 12

/-- `EINVAL`. -/
def EINVAL : ℤ := 22

/-- `NET_XMIT_SUCCESS`. -/
def NET_XMIT_SUCCESS : ℤ := 0

/-- `NET_XMIT_DROP`. -/
def NET_XMIT_DROP : ℤ := 1

/-- `ETH_P_IP`. -/
def ETH_P_IP : U16 := 0x0800

/-- `ETH_P_IPV6`. -/
def ETH_P_IPV6 : U16 := 0x86DD

/-- `BATADV_TTL`. -/
def TTL : U8 := 50

/-- `BATADV_TQ_MAX_VALUE`. -/
def TQ_MAX_VALUE : U32 := 255

/-- `BATADV_COMPAT_VERSION`. -/
def COMPAT_VERSION : U8 := 15

/-- `BATADV_MAX_AGGREGATION_BYTES`. -/
def MAX_AGGREGATION_BYTES : U32 := 512

/-- `BATADV_VLAN_HAS_TAG`. -/
def VLAN_HAS_TAG : U16 := 0x8000

/-- `VLAN_VID_MASK`. -/
def VLAN_VID_MASK : U16 := 0x0FFF

/-! ### Sequence numbers -/

/-- `batadv_smallest_signed_int`: the smallest signed integer of a type of `size` bytes, read as
an unsigned number. -/
def smallestSignedInt (size : ℕ) : ℕ := 1 <<< (7 + 8 * (size - 1))

/-- `batadv_seq_before`: checks if a sequence number `x` is a predecessor of `y`. -/
def seqBefore {w : ℕ} (x y : BitVec w) : Bool :=
  decide (smallestSignedInt (w / 8) < (x - y).toNat)

/-- `batadv_seq_after`. -/
def seqAfter {w : ℕ} (x y : BitVec w) : Bool := seqBefore y x

/-- **The macro is serial number comparison** on every type of a whole number of bytes. -/
theorem seqBefore_iff {w : ℕ} (hw : 8 ∣ w) (hpos : 0 < w) (x y : BitVec w) :
    seqBefore x y = true ↔ SerialNumber.Before x y := by
  obtain ⟨n, rfl⟩ := hw
  have hn : 0 < n := by omega
  have hexp : 7 + 8 * (8 * n / 8 - 1) = 8 * n - 1 := by omega
  rw [seqBefore, smallestSignedInt, Nat.one_shiftLeft, hexp, decide_eq_true_iff,
    SerialNumber.Before]

/-- The comparison of 32-bit sequence numbers. -/
lemma seqBefore_u32 (x y : U32) : seqBefore x y = true ↔ SerialNumber.Before x y :=
  seqBefore_iff (by decide) (by decide) x y

/-- No sequence number is a predecessor of itself. -/
@[simp] lemma seqBefore_self (x : U32) : seqBefore x x = false := by
  rw [← Bool.not_eq_true, seqBefore_u32]
  exact SerialNumber.not_before_self x

/-- The comparison is unchanged when both sequence numbers are shifted. -/
@[simp] lemma seqBefore_add_right (x y k : U32) : seqBefore (x + k) (y + k) = seqBefore x y := by
  rw [Bool.eq_iff_iff, seqBefore_u32, seqBefore_u32, SerialNumber.before_add_right]

/-! ### Timeouts -/

/-- The kernel's `time_before`, which reads the difference as a signed number. -/
def timeBefore (a b : Jiffies) : Bool := decide ((a - b).toInt < 0)

/-- The kernel's `time_after_eq`. -/
def timeAfterEq (a b : Jiffies) : Bool := decide (0 ≤ (a - b).toInt)

/-- `batadv_has_timed_out`: the current time is after `timestamp` plus `timeout` milliseconds.
The kernel's `time_is_before_jiffies` reads the difference as a signed number. -/
def hasTimedOut (msecsToJiffies : ℕ → Jiffies) (jiffies timestamp : Jiffies) (timeout : ℕ) :
    Bool :=
  decide ((timestamp + msecsToJiffies timeout - jiffies).toInt < 0)

/-- `BATADV_RESET_PROTECTION_MS`: don't reset again within 30 seconds. -/
def RESET_PROTECTION_MS : ℕ := 30000

/-- `BATADV_EXPECTED_SEQNO_RANGE`. -/
def EXPECTED_SEQNO_RANGE : ℤ := 65536

/-- `batadv_window_protected`: `none` when the packet is to be ignored, and otherwise the new
time of the last reset together with whether the protection was started. -/
def windowProtected (msecsToJiffies : ℕ → Jiffies) (jiffies : Jiffies) (seqNumDiff : ℤ)
    (seqOldMaxDiff : ℤ) (lastReset : Jiffies) : Option (Jiffies × Bool) :=
  if seqNumDiff ≤ -seqOldMaxDiff ∨ EXPECTED_SEQNO_RANGE ≤ seqNumDiff then
    if !hasTimedOut msecsToJiffies jiffies lastReset RESET_PROTECTION_MS then none
    else some (jiffies, true)
  else some (lastReset, false)

/-- **A sequence number is ignored** exactly when it is out of the expected range and the last
restart is still under protection. -/
theorem windowProtected_eq_none_iff (msecsToJiffies : ℕ → Jiffies) (jiffies lastReset : Jiffies)
    (seqNumDiff seqOldMaxDiff : ℤ) :
    windowProtected msecsToJiffies jiffies seqNumDiff seqOldMaxDiff lastReset = none ↔
      (seqNumDiff ≤ -seqOldMaxDiff ∨ EXPECTED_SEQNO_RANGE ≤ seqNumDiff) ∧
        hasTimedOut msecsToJiffies jiffies lastReset RESET_PROTECTION_MS = false := by
  unfold windowProtected
  split_ifs with hrange hout
  · simpa [hrange] using hout
  · simpa [hrange] using hout
  · simp [hrange]

end Batadv
