import Mathlib.Logic.Relation
import Mathlib.Data.List.Range
import Mathlib.Data.List.Nodup
import Mathlib.Data.List.FinRange
import Mathlib.Data.Nat.Bitwise
import Mathlib.Algebra.Group.Int

/-!
# Status codes, byte memory and host widths

The pieces of `osal_error.h`, `osal_common_type.h` and the C integer model that the
queue, timer and task models share. Memory is a map from byte offsets to bytes (`Mem`);
`copyIn` is a `memcpy` into it and `readBytes` a `memcpy` out of it. `readBytes_copyIn_self`
and `readBytes_copyIn_of_disjoint` are the two facts every buffer argument uses.

`Host` fixes the width of `size_t`; POSIX hosts have at least 32 bits, so a `uint32_t`
converts to `size_t` without loss (`Host.sizeT_of_lt`).
-/

namespace Osal

/-- The `osal_status_t` codes returned by the modelled functions. -/
inductive OsalStatus
  | success
  | error
  | invalidPointer
  | queueEmpty
  | queueFull
  | queueTimeout
  | queueInvalidSize
  | errNameTooLong
  | errInvalidId
  | errInvalidSize
  | errInvalidPriority
  | errInvalidArgument
  | timerErrInvalidArgs
  | timerErrInternal
  | semFailure
  | semTimeout
  | invalidSemValue
  | errNotImplemented
  deriving DecidableEq, Repr

/-- `OSAL_MAX_DELAY`: wait forever. -/
def maxDelay : Nat := 0xFFFFFFFF

/-- `OSAL_MAX_NAME_LEN`, terminator included. -/
def maxNameLen : Nat := 32

/-- `uint32_t` arithmetic: the value modulo `2^32`. -/
def u32 (n : Nat) : Nat := n % 2 ^ 32

theorem u32_of_lt {n : Nat} (h : n < 2 ^ 32) : u32 n = n := Nat.mod_eq_of_lt h

/-- `pdMS_TO_TICKS(ms)` at `configTICK_RATE_HZ = hz`, in a 32-bit `TickType_t`. -/
def pdMsToTicks (hz ms : Nat) : Nat := u32 (ms * hz) / 1000

theorem toNat_lt_u32 (a : UInt32) : a.toNat < 2 ^ 32 := a.toNat_lt_size

/-- A wait that blocks with a deadline: `timeout_ms != 0U && timeout_ms != OSAL_MAX_DELAY`. -/
def isTimed (timeoutMs : Nat) : Bool := timeoutMs != 0 && timeoutMs != maxDelay

/-- What `pthread_cond_wait` or `pthread_cond_timedwait` returned: `0`, `ETIMEDOUT`, or
another error number. -/
inductive WaitRet
  | ok
  | timedOut
  | failed
  deriving DecidableEq, Repr

/-- `OSAL_CHECK_STRING(str, maxlen, _)` on a non-null string: `memchr` finds the
terminator among the first `maxlen` bytes. -/
def lengthCheck (str : List UInt8) (len : Nat) : Bool := (str.take len).contains 0

/-! ## Hosts -/

/-- A POSIX host, by the width of its `size_t`. -/
structure Host where
  sizeBits : Nat
  le_sizeBits : 32 ≤ sizeBits

/-- An LP64 host. -/
def Host.lp64 : Host := ⟨64, by decide⟩

/-- `SIZE_MAX`. -/
def Host.sizeMax (h : Host) : Nat := 2 ^ h.sizeBits - 1

/-- A value computed in `size_t`. -/
def Host.sizeT (h : Host) (n : Nat) : Nat := n % 2 ^ h.sizeBits

theorem Host.u32_lt_size (h : Host) : 2 ^ 32 ≤ 2 ^ h.sizeBits :=
  Nat.pow_le_pow_right (by decide) h.le_sizeBits

theorem Host.sizeT_of_le_sizeMax (h : Host) {n : Nat} (hn : n ≤ h.sizeMax) : h.sizeT n = n := by
  have : 0 < 2 ^ h.sizeBits := Nat.two_pow_pos _
  exact Nat.mod_eq_of_lt (by unfold Host.sizeMax at hn; omega)

theorem Host.sizeT_of_lt (h : Host) {n : Nat} (hn : n < 2 ^ 32) : h.sizeT n = n :=
  Nat.mod_eq_of_lt (lt_of_lt_of_le hn h.u32_lt_size)

/-! ## Byte memory -/

/-- Bytes addressed from some base pointer. -/
abbrev Mem := Nat → UInt8

/-- `memcpy(dst + off, src, n)`. -/
def copyIn (dst : Mem) (off n : Nat) (src : Mem) : Mem :=
  fun j => if off ≤ j ∧ j < off + n then src (j - off) else dst j

/-- The `n` bytes at `m + off`, as `memcpy(out, m + off, n)` copies them out. -/
def readBytes (m : Mem) (off n : Nat) : List UInt8 :=
  (List.range n).map fun i => m (off + i)

@[simp] theorem readBytes_length (m : Mem) (off n : Nat) : (readBytes m off n).length = n := by
  simp [readBytes]

theorem readBytes_copyIn_self (dst src : Mem) (off n : Nat) :
    readBytes (copyIn dst off n src) off n = readBytes src 0 n := by
  refine List.map_congr_left fun i hi => ?_
  have : i < n := List.mem_range.mp hi
  simp [copyIn, this]

theorem readBytes_copyIn_of_disjoint (dst src : Mem) {off off' n : Nat}
    (h : off' + n ≤ off ∨ off + n ≤ off') :
    readBytes (copyIn dst off n src) off' n = readBytes dst off' n := by
  refine List.map_congr_left fun i hi => ?_
  have : i < n := List.mem_range.mp hi
  simp only [copyIn]
  rw [if_neg (by omega)]

/-- The bytes of an ASCII string. -/
def ascii (s : String) : List UInt8 := s.toList.map fun c => c.toNat.toUInt8

/-- A C string: its bytes before the NUL. -/
structure CString where
  bytes : List UInt8
  noNul : (0 : UInt8) ∉ bytes

end Osal
