import Osal.Basic

/-!
# Elapsed time from `osal_task_get_time_ms`

Both backends return a millisecond count truncated to `uint32_t`. On POSIX it is
`tv_sec * 1000 + tv_nsec / 1000000` of a `CLOCK_MONOTONIC` reading (`posixGetTimeMs`), the
whole milliseconds of the reading (`Timespec.floorMs`); on ESP it is the `TickType_t` tick
counter times `portTICK_PERIOD_MS` in `TickType_t` (`espGetTimeMs`).

The `uint32_t` difference of two results is the elapsed count modulo `2^32`, and the count
itself when that is below `2^32` (`task_time_elapsed_u32`). On POSIX the whole milliseconds of
two readings less than `2^32` ms apart can still differ by `2^32`, and then the difference is
`0` (`posix_elapsed_wraps_below_distance`); readings less than `2^32 - 1` ms apart never do.
-/

namespace Osal

/-- `a - b` on `uint32_t` operands. -/
def u32Sub (a b : Nat) : Nat := u32 (u32 a + (2 ^ 32 - u32 b))

/-- Unsigned subtraction of truncated values is the truncated difference. -/
theorem u32Sub_u32 {x y : Nat} (h : y ≤ x) : u32Sub (u32 x) (u32 y) = u32 (x - y) := by
  unfold u32Sub u32
  omega

/-- A successful `clock_gettime(CLOCK_MONOTONIC, &ts)`: whole seconds and nanoseconds. -/
structure Timespec where
  sec : Nat
  nsec : Nat
  nsec_lt : nsec < 10 ^ 9

namespace Timespec

/-- The reading in nanoseconds. -/
def toNs (t : Timespec) : Nat := t.sec * 10 ^ 9 + t.nsec

/-- The whole milliseconds of the reading. -/
def floorMs (t : Timespec) : Nat := t.toNs / 10 ^ 6

/-- Earlier readings have no more whole milliseconds. -/
theorem floorMs_le {t₁ t₂ : Timespec} (h : t₁.toNs ≤ t₂.toNs) : t₁.floorMs ≤ t₂.floorMs :=
  Nat.div_le_div_right h

/-- Readings less than `2^32 - 1` ms apart differ by less than `2^32` whole milliseconds. -/
theorem floorMs_sub_lt {t₁ t₂ : Timespec} (h : t₂.toNs - t₁.toNs < (2 ^ 32 - 1) * 10 ^ 6) :
    t₂.floorMs - t₁.floorMs < 2 ^ 32 := by
  unfold floorMs
  omega

end Timespec

/-- `osal_task_get_time_ms` of the POSIX backend (lines 233–243); `none` when
`clock_gettime` fails. -/
def posixGetTimeMs : Option Timespec → Nat
  | none => 0
  | some ts => u32 (ts.sec * 1000 + ts.nsec / 1000000)

theorem posixGetTimeMs_some (t : Timespec) : posixGetTimeMs (some t) = u32 t.floorMs := by
  show u32 _ = u32 _
  unfold Timespec.floorMs Timespec.toNs
  congr 1
  omega

/-- `osal_task_get_time_ms` of the ESP backend (lines 266–271) after `ticks` ticks since
boot: `xTaskGetTickCount()` returns them in `TickType_t`, and the product with
`portTICK_PERIOD_MS` is taken in `TickType_t`. -/
def espGetTimeMs (tickPeriodMs ticks : Nat) : Nat := u32 (u32 ticks * tickPeriodMs)

theorem espGetTimeMs_eq (tickPeriodMs ticks : Nat) :
    espGetTimeMs tickPeriodMs ticks = u32 (ticks * tickPeriodMs) := by
  unfold espGetTimeMs u32
  rw [Nat.mod_mul_mod]

/-- On both backends the `uint32_t` difference of two results is the elapsed count modulo
`2^32`: on POSIX the whole milliseconds between the readings, on ESP the ticks between them
times `portTICK_PERIOD_MS`. It is the count itself when that is below `2^32`, which on
POSIX holds for readings less than `2^32 - 1` ms apart. -/
theorem task_time_elapsed_u32 :
    (∀ t₁ t₂ : Timespec, t₁.toNs ≤ t₂.toNs →
      u32Sub (posixGetTimeMs (some t₂)) (posixGetTimeMs (some t₁)) =
        (t₂.floorMs - t₁.floorMs) % 2 ^ 32 ∧
      (t₂.floorMs - t₁.floorMs < 2 ^ 32 →
        u32Sub (posixGetTimeMs (some t₂)) (posixGetTimeMs (some t₁)) = t₂.floorMs - t₁.floorMs) ∧
      (t₂.toNs - t₁.toNs < (2 ^ 32 - 1) * 10 ^ 6 → t₂.floorMs - t₁.floorMs < 2 ^ 32)) ∧
    ∀ tickPeriodMs ticks₁ ticks₂ : Nat, ticks₁ ≤ ticks₂ →
      u32Sub (espGetTimeMs tickPeriodMs ticks₂) (espGetTimeMs tickPeriodMs ticks₁) =
        (ticks₂ - ticks₁) * tickPeriodMs % 2 ^ 32 ∧
      ((ticks₂ - ticks₁) * tickPeriodMs < 2 ^ 32 →
        u32Sub (espGetTimeMs tickPeriodMs ticks₂) (espGetTimeMs tickPeriodMs ticks₁) =
          (ticks₂ - ticks₁) * tickPeriodMs) := by
  refine ⟨fun t₁ t₂ h => ?_, fun p k₁ k₂ h => ?_⟩
  · have hd : u32Sub (posixGetTimeMs (some t₂)) (posixGetTimeMs (some t₁)) =
        u32 (t₂.floorMs - t₁.floorMs) := by
      rw [posixGetTimeMs_some, posixGetTimeMs_some, u32Sub_u32 (Timespec.floorMs_le h)]
    exact ⟨hd, fun hlt => hd.trans (u32_of_lt hlt), Timespec.floorMs_sub_lt⟩
  · have hd : u32Sub (espGetTimeMs p k₂) (espGetTimeMs p k₁) = u32 ((k₂ - k₁) * p) := by
      rw [espGetTimeMs_eq, espGetTimeMs_eq, u32Sub_u32 (Nat.mul_le_mul_right p h),
        Nat.sub_mul]
    exact ⟨hd, fun hlt => hd.trans (u32_of_lt hlt)⟩

/-- Two POSIX readings 0.9 ms and 4294967296.5 ms after the clock's origin are less than
`2^32` ms apart and `2^32` whole milliseconds apart, and the `uint32_t` difference of their
results is `0`. -/
theorem posix_elapsed_wraps_below_distance :
    ∃ t₁ t₂ : Timespec, t₁.toNs ≤ t₂.toNs ∧ t₂.toNs - t₁.toNs < 2 ^ 32 * 10 ^ 6 ∧
      t₂.floorMs - t₁.floorMs = 2 ^ 32 ∧
      u32Sub (posixGetTimeMs (some t₂)) (posixGetTimeMs (some t₁)) = 0 :=
  ⟨⟨0, 900000, by decide⟩, ⟨4294967, 296500000, by decide⟩, by decide, by decide, by decide,
    by decide⟩

end Osal
