import Osal.Basic

/-!
# Deadlines: `osal_timespec_add_ms`

The POSIX backend waits with absolute `CLOCK_REALTIME` deadlines. `osal_timespec_add_ms` adds
a `uint32_t` count of milliseconds to a `struct timespec`: the queue and the timer each have a
copy (`queueTimespecAddMs`, `timerTimespecAddMs`), and `osal_sem_wait_timed` has it inline
(`semWaitTimedDeadline`). All three are `timespecAddMs`. `osal_get_deadline` and
`osal_timer_get_deadline` read the clock and add (`getDeadline`).

C leaves signed overflow undefined, so the additions on `time_t` and `long` are partial
(`signedAdd`, `none` on overflow); an unsigned value converted to them is its two's-complement
reading, as GCC defines it (`toSigned`).

`timespec_add_ms_exact`: for a timespec with `0 ≤ tv_nsec < 10^9` and any `uint32_t` count,
the `uint32_t` product `(ms % 1000U) * 1000000U` does not wrap and `tv_nsec` stays below
`2^31` on the way. Every copy returns a valid timespec exactly `ms` milliseconds later exactly
when the deadline's seconds (`deadlineSec`) fit in `time_t`; the deadlines are then exactly
`timeout_ms` or `period_ms` after the clock reading. Otherwise an addition on `tv_sec`
overflows (`timespec_add_ms_overflows`), which a 32-bit `time_t` reaches in January 2038.
-/

namespace Osal

/-- `struct timespec` as C holds it. -/
structure CTimespec where
  tvSec : Int
  tvNsec : Int
  deriving DecidableEq, Repr

namespace CTimespec

/-- The time it names, in nanoseconds. -/
def toNs (t : CTimespec) : Int := t.tvSec * 1000000000 + t.tvNsec

/-- What `pthread_cond_timedwait` and `sem_timedwait` accept: `0 ≤ tv_nsec < 10^9`. -/
def Valid (t : CTimespec) : Prop := 0 ≤ t.tvNsec ∧ t.tvNsec < 1000000000

instance (t : CTimespec) : Decidable t.Valid := inferInstanceAs (Decidable (_ ∧ _))

end CTimespec

/-- The widths of `time_t` and `long`. C gives `long` at least 32 bits, and a POSIX `time_t`
has at least 32. -/
structure TimeWidths where
  timeBits : Nat
  longBits : Nat
  le_timeBits : 32 ≤ timeBits
  le_longBits : 32 ≤ longBits

/-- A value that a signed type of `w` bits represents. -/
def inSigned (w : Nat) (x : Int) : Bool := -(2 ^ (w - 1)) ≤ x && x < 2 ^ (w - 1)

/-- `a + b` in a signed type of `w` bits; `none` when it overflows, which C leaves undefined. -/
def signedAdd (w : Nat) (a b : Int) : Option Int :=
  if inSigned w (a + b) then some (a + b) else none

/-- An unsigned value converted to a signed type of `w` bits: its two's-complement reading. -/
def toSigned (w v : Nat) : Int :=
  if v % 2 ^ w < 2 ^ (w - 1) then (v % 2 ^ w : Nat) else ((v % 2 ^ w : Nat) : Int) - 2 ^ w

/-- `osal_timespec_add_ms(ts, ms)`: add the whole seconds, add the rest as nanoseconds computed
in `uint32_t`, and carry one second if `tv_nsec` reaches `10^9`. -/
def timespecAddMs (W : TimeWidths) (ts : CTimespec) (ms : Nat) : Option CTimespec := do
  let sec ← signedAdd W.timeBits ts.tvSec (toSigned W.timeBits (ms / 1000))
  let nsec ← signedAdd W.longBits ts.tvNsec (toSigned W.longBits (u32 (ms % 1000 * 1000000)))
  if 1000000000 ≤ nsec then
    let sec' ← signedAdd W.timeBits sec 1
    let nsec' ← signedAdd W.longBits nsec (-1000000000)
    pure ⟨sec', nsec'⟩
  else pure ⟨sec, nsec⟩

/-- `osal_timespec_add_ms` of `osal_queue_impl.c` (lines 28–37). -/
def queueTimespecAddMs (W : TimeWidths) (ts : CTimespec) (timeoutMs : Nat) : Option CTimespec :=
  timespecAddMs W ts timeoutMs

/-- `osal_timespec_add_ms` of `osal_timer_impl.c` (lines 15–24). -/
def timerTimespecAddMs (W : TimeWidths) (ts : CTimespec) (ms : Nat) : Option CTimespec :=
  timespecAddMs W ts ms

/-- The deadline `osal_sem_wait_timed` builds inline from its clock reading (lines 39–46). -/
def semWaitTimedDeadline (W : TimeWidths) (ts : CTimespec) (timeoutMs : Nat) :
    Option CTimespec :=
  timespecAddMs W ts timeoutMs

/-- Read the clock (`none` when `clock_gettime` fails) and add: `-1`, or `0` with the
deadline; `none` when the addition overflows. -/
def getDeadline (add : CTimespec → Nat → Option CTimespec) (reading : Option CTimespec)
    (ms : Nat) : Option (Except Int CTimespec) :=
  match reading with
  | none => some (.error (-1))
  | some ts => (add ts ms).map .ok

/-- `osal_get_deadline(ts, timeout_ms)` of the queue (lines 39–53), on a host with
`CLOCK_REALTIME`. -/
def osalGetDeadline (W : TimeWidths) (reading : Option CTimespec) (timeoutMs : Nat) :
    Option (Except Int CTimespec) :=
  getDeadline (queueTimespecAddMs W) reading timeoutMs

/-- `osal_timer_get_deadline(timer, ts)` (lines 26–35): the timer's clock plus `period_ms`. -/
def osalTimerGetDeadline (W : TimeWidths) (reading : Option CTimespec) (periodMs : Nat) :
    Option (Except Int CTimespec) :=
  getDeadline (timerTimespecAddMs W) reading periodMs

/-! ## Machine arithmetic -/

theorem inSigned_iff {w : Nat} {x : Int} :
    inSigned w x = true ↔ -(2 ^ (w - 1)) ≤ x ∧ x < 2 ^ (w - 1) := by
  simp [inSigned]

theorem signedAdd_of_inSigned {w : Nat} {a b : Int} (h : -(2 ^ (w - 1)) ≤ a + b)
    (h' : a + b < 2 ^ (w - 1)) : signedAdd w a b = some (a + b) :=
  if_pos (inSigned_iff.mpr ⟨h, h'⟩)

/-- A value below `2^(w-1)` converts to itself. -/
theorem toSigned_of_lt {w v : Nat} (h : v < 2 ^ (w - 1)) : toSigned w v = v := by
  have hv : v % 2 ^ w = v :=
    Nat.mod_eq_of_lt (lt_of_lt_of_le h (Nat.pow_le_pow_right (by decide) (Nat.sub_le w 1)))
  simp [toSigned, hv, h]

theorem two_pow_31_le_nat {w : Nat} (h : 32 ≤ w) : 2147483648 ≤ 2 ^ (w - 1) := by
  have : 2 ^ 31 ≤ 2 ^ (w - 1) := Nat.pow_le_pow_right (by decide) (by omega)
  simpa using this

/-- A signed type of at least 32 bits holds every value below `2^31`. -/
theorem two_pow_31_le {w : Nat} (h : 32 ≤ w) : (2147483648 : Int) ≤ 2 ^ (w - 1) := by
  have := two_pow_31_le_nat h
  have e : ((2 ^ (w - 1) : Nat) : Int) = 2 ^ (w - 1) := Int.natCast_pow 2 (w - 1)
  omega

/-- The `uint32_t` product `(ms % 1000U) * 1000000U` never wraps. -/
theorem u32_nsecPart (ms : Nat) : u32 (ms % 1000 * 1000000) = ms % 1000 * 1000000 :=
  u32_of_lt (by omega)

/-! ## The addition -/

section Add

variable (W : TimeWidths) {ts : CTimespec} {ms : Nat}

/-- The seconds of the deadline `ts + ms`: those of `ts`, the whole seconds of `ms`, and the
carry out of the nanoseconds. -/
def deadlineSec (ts : CTimespec) (ms : Nat) : Int :=
  ts.tvSec + (ts.tvNsec + (ms * 1000000 : Nat)) / 1000000000

/-- For a valid timespec, the addition is defined exactly when the deadline's seconds fit in
`time_t`, and is then the deadline with its nanoseconds reduced below `10^9`. Each `signedAdd`
on `long` stays in range; of those on `time_t`, the carry's is the one that can overflow
while `tv_sec + ms / 1000` fits. -/
theorem timespecAddMs_eq (hv : ts.Valid) (hs : -(2 ^ (W.timeBits - 1)) ≤ ts.tvSec)
    (hms : ms < 2 ^ 32) :
    timespecAddMs W ts ms =
      if deadlineSec ts ms < 2 ^ (W.timeBits - 1) then
        some ⟨deadlineSec ts ms, (ts.tvNsec + (ms * 1000000 : Nat)) % 1000000000⟩
      else none := by
  obtain ⟨hn₀, hn₁⟩ := hv
  have hT := two_pow_31_le_nat W.le_timeBits
  have hL := two_pow_31_le_nat W.le_longBits
  have hT' := two_pow_31_le W.le_timeBits
  have hL' := two_pow_31_le W.le_longBits
  rw [timespecAddMs, u32_nsecPart, toSigned_of_lt (by omega), toSigned_of_lt (by omega),
    signedAdd_of_inSigned (w := W.longBits) (by omega) (by omega)]
  simp only [deadlineSec, signedAdd, inSigned_iff, Option.bind_eq_bind]
  by_cases ha : ts.tvSec + ((ms / 1000 : Nat) : Int) < 2 ^ (W.timeBits - 1)
  · rw [if_pos ⟨by omega, ha⟩, Option.some_bind, Option.some_bind]
    by_cases hc : 1000000000 ≤ ts.tvNsec + ((ms % 1000 * 1000000 : Nat) : Int)
    · have hl : -(2 ^ (W.longBits - 1)) ≤ ts.tvNsec + ((ms % 1000 * 1000000 : Nat) : Int) +
          -1000000000 ∧ ts.tvNsec + ((ms % 1000 * 1000000 : Nat) : Int) + -1000000000 <
          2 ^ (W.longBits - 1) := ⟨by omega, by omega⟩
      rw [if_pos hc, if_pos hl]
      by_cases hb : ts.tvSec + ((ms / 1000 : Nat) : Int) + 1 < 2 ^ (W.timeBits - 1)
      · rw [if_pos ⟨by omega, hb⟩, Option.some_bind, Option.some_bind, if_pos (by omega)]
        simp only [Option.pure_def, Option.some.injEq, CTimespec.mk.injEq]
        omega
      · rw [if_neg (fun h => hb h.2), Option.none_bind, if_neg (by omega)]
    · rw [if_neg hc, if_pos (by omega)]
      simp only [Option.pure_def, Option.some.injEq, CTimespec.mk.injEq]
      omega
  · rw [if_neg (fun h => ha h.2), Option.none_bind, if_neg (by omega)]

/-- The deadline, when it is defined, is valid and exactly `ms` milliseconds after `ts`. -/
theorem timespecAddMs_spec (hv : ts.Valid) (hs : -(2 ^ (W.timeBits - 1)) ≤ ts.tvSec)
    (hms : ms < 2 ^ 32) (hroom : deadlineSec ts ms < 2 ^ (W.timeBits - 1)) :
    ∃ ts', timespecAddMs W ts ms = some ts' ∧ ts'.Valid ∧
      ts'.toNs = ts.toNs + (ms * 1000000 : Nat) := by
  rw [timespecAddMs_eq W hv hs hms, if_pos hroom]
  have := hv.1
  refine ⟨_, rfl, ⟨?_, ?_⟩, ?_⟩ <;> dsimp only [CTimespec.toNs, deadlineSec] <;> omega

end Add

/-! ## Deadlines -/

/-- For a valid timespec and any `uint32_t` count `ms`: the `uint32_t` product does not wrap,
and `tv_nsec` stays below `2^31` before the carry, so a 32-bit `long` holds it. When the
deadline's seconds fit in `time_t`, the three copies of `osal_timespec_add_ms` return the same
valid timespec, exactly `ms` milliseconds later, and `osal_get_deadline` and
`osal_timer_get_deadline` return it after a successful clock reading `ts`; this is the deadline
`now + period_ms` of `workerBlock`, in milliseconds. When they do not fit, an addition on
`tv_sec` overflows in every copy. -/
theorem timespec_add_ms_exact (W : TimeWidths) (ts : CTimespec) (ms : Nat) (hv : ts.Valid)
    (hs : -(2 ^ (W.timeBits - 1)) ≤ ts.tvSec) (hms : ms < 2 ^ 32) :
    u32 (ms % 1000 * 1000000) = ms % 1000 * 1000000 ∧
      ts.tvNsec + (ms % 1000 * 1000000 : Nat) < 2 ^ 31 ∧
      (deadlineSec ts ms < 2 ^ (W.timeBits - 1) →
        ∃ d, d.Valid ∧ d.toNs = ts.toNs + (ms * 1000000 : Nat) ∧
          queueTimespecAddMs W ts ms = some d ∧ timerTimespecAddMs W ts ms = some d ∧
          semWaitTimedDeadline W ts ms = some d ∧
          osalGetDeadline W (some ts) ms = some (.ok d) ∧
          osalTimerGetDeadline W (some ts) ms = some (.ok d)) ∧
      (2 ^ (W.timeBits - 1) ≤ deadlineSec ts ms →
        queueTimespecAddMs W ts ms = none ∧ timerTimespecAddMs W ts ms = none ∧
          semWaitTimedDeadline W ts ms = none ∧ osalGetDeadline W (some ts) ms = none ∧
          osalTimerGetDeadline W (some ts) ms = none) := by
  refine ⟨u32_nsecPart ms, by have := hv.2; omega, fun hroom => ?_, fun hover => ?_⟩
  · obtain ⟨d, hd, hdv, hns⟩ := timespecAddMs_spec W hv hs hms hroom
    exact ⟨d, hdv, hns, hd, hd, hd, congrArg (Option.map Except.ok) hd,
      congrArg (Option.map Except.ok) hd⟩
  · have hd : timespecAddMs W ts ms = none := by
      rw [timespecAddMs_eq W hv hs hms, if_neg (not_lt.2 hover)]
    exact ⟨hd, hd, hd, congrArg (Option.map Except.ok) hd, congrArg (Option.map Except.ok) hd⟩

/-- On a 32-bit `time_t`, the largest `uint32_t` count added to a reading of late 2023. -/
theorem timespec_add_ms_exact_at_max :
    (⟨1700000000, 999999999⟩ : CTimespec).Valid ∧
      -(2 ^ (32 - 1)) ≤ (1700000000 : Int) ∧ 4294967295 < 2 ^ 32 ∧
      deadlineSec ⟨1700000000, 999999999⟩ 4294967295 < 2 ^ (32 - 1) ∧
      ∃ d : CTimespec, d.Valid ∧
        d.toNs = CTimespec.toNs ⟨1700000000, 999999999⟩ + (4294967295 * 1000000 : Nat) ∧
        queueTimespecAddMs ⟨32, 32, le_rfl, le_rfl⟩ ⟨1700000000, 999999999⟩ 4294967295 = some d ∧
        timerTimespecAddMs ⟨32, 32, le_rfl, le_rfl⟩ ⟨1700000000, 999999999⟩ 4294967295 = some d ∧
        semWaitTimedDeadline ⟨32, 32, le_rfl, le_rfl⟩ ⟨1700000000, 999999999⟩ 4294967295 =
          some d ∧
        osalGetDeadline ⟨32, 32, le_rfl, le_rfl⟩ (some ⟨1700000000, 999999999⟩) 4294967295 =
          some (.ok d) ∧
        osalTimerGetDeadline ⟨32, 32, le_rfl, le_rfl⟩ (some ⟨1700000000, 999999999⟩)
          4294967295 = some (.ok d) :=
  ⟨by decide, by decide, by decide, by decide,
    (timespec_add_ms_exact ⟨32, 32, le_rfl, le_rfl⟩ ⟨1700000000, 999999999⟩ 4294967295
      (by decide) (by decide) (by decide)).2.2.1 (by decide)⟩

/-- A reading seven seconds before the end of a 32-bit `time_t` (2038-01-19 03:14:07 UTC)
plus a ten-second timeout overflows `tv_sec`. -/
theorem timespec_add_ms_overflows :
    (⟨2147483640, 500000000⟩ : CTimespec).Valid ∧
      timespecAddMs ⟨32, 32, le_rfl, le_rfl⟩ ⟨2147483640, 500000000⟩ 10000 = none := by
  decide

end Osal
