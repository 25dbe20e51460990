import Osal.Basic

/-!
# Software timers: the control block, the commands and the worker

`struct osal_timer_internal` of the POSIX backend (`osal_timer_impl.c`) without its mutex,
condition variable, thread and name (`Timer`); the bodies that the timer calls run under the
mutex (`timerStart` to `timerSetContext`, gathered by `TimerOp.body`); and the worker
`osal_timer_thread` as a program counter (`WorkerPc`).

The worker holds the mutex except while it waits on `timer->cond`, while the user callback
runs, and after it returns. `workerBlock` runs one basic block with the mutex held: the
fields it writes and where it goes next, with `now` the clock and `clockOk` whether
`osal_timer_get_deadline` reads it. `WorkerPc.reacquire` is the worker taking the mutex
back, `WorkerPc.wake` a wait returning by itself, and `WorkerPc.signal` what
`pthread_cond_signal(&timer->cond)` does to the worker (it is the only waiter).

`timerStart_eq_timerReset`: `osal_timer_start` and `osal_timer_reset` have the same body.
-/

namespace Osal

/-- `struct osal_timer_internal` without its mutex, condition variable, thread and name. -/
structure Timer where
  periodMs : Nat
  autoReload : Bool
  active : Bool
  stopRequested : Bool
  context : Nat
  deriving DecidableEq, Repr

/-- `osal_timer_create` with its checks: the handle and callback pointers, the name, the
period, and the size of a caller-supplied control block (`staticSize`, with `none` for
`stack_pointer == NULL`); `osal_timer_init` zeroes `active` and `stop_requested`.
`resources` is whether allocation, `osal_timer_init` and `pthread_create` succeed. -/
def timerCreate (timerId callback : Bool) (name : Option (List UInt8)) (periodMs : UInt32)
    (autoReload : Bool) (callbackArg : Nat) (staticSize : Option Nat) (controlBlockSize : Nat)
    (resources : Bool) : Except OsalStatus Timer :=
  if !timerId || !callback then .error .invalidPointer
  else if name.any (fun s => !lengthCheck s maxNameLen) then .error .errNameTooLong
  else if ¬0 < periodMs.toNat then .error .timerErrInvalidArgs
  else if staticSize.any (· < controlBlockSize) then .error .errInvalidSize
  else if !resources then .error .error
  else .ok { periodMs := periodMs.toNat, autoReload, active := false, stopRequested := false,
             context := callbackArg }

theorem timerCreate_eq_ok {timerId callback : Bool} {name : Option (List UInt8)}
    {periodMs : UInt32} {autoReload : Bool} {callbackArg : Nat} {staticSize : Option Nat}
    {controlBlockSize : Nat} {resources : Bool} {tm : Timer}
    (hc : timerCreate timerId callback name periodMs autoReload callbackArg staticSize
      controlBlockSize resources = .ok tm) :
    0 < tm.periodMs ∧ tm.active = false ∧ tm.stopRequested = false := by
  unfold timerCreate at hc
  split_ifs at hc with h1 h2 h3
  cases hc
  exact ⟨by simpa using h3, rfl, rfl⟩

/-! ## The calls -/

/-- The body of the commands under the mutex: store the new period if there is one, set
`active`, and set `stop_requested` for a delete. Each then signals `timer->cond`. -/
def Timer.command (tm : Timer) (period : Option Nat) (active stop : Bool) : Timer :=
  { tm with periodMs := period.getD tm.periodMs, active, stopRequested := stop || tm.stopRequested }

/-- `osal_timer_start`, lines 253–254. -/
def timerStart (tm : Timer) : Timer := tm.command none true false

/-- `osal_timer_reset`, lines 272–273. -/
def timerReset (tm : Timer) : Timer := tm.command none true false

/-- `osal_timer_stop`, lines 291–292. -/
def timerStop (tm : Timer) : Timer := tm.command none false false

/-- `osal_timer_delete`, lines 310–312. -/
def timerDelete (tm : Timer) : Timer := tm.command none false true

/-- `osal_timer_change_period`, lines 346–348. -/
def timerChangePeriod (tm : Timer) (newPeriodMs : Nat) : Timer :=
  tm.command (some newPeriodMs) true false

/-- `osal_timer_set_context`, line 425. -/
def timerSetContext (tm : Timer) (context : Nat) : Timer := { tm with context }

/-- `osal_timer_start` does what `osal_timer_reset` does: on an active timer it restarts the
period like a reset. -/
theorem timerStart_eq_timerReset : timerStart = timerReset := rfl

/-- A timer call, with the arguments the model reads (the command-queue timeouts are
ignored by the POSIX backend). -/
inductive TimerOp
  | start
  | reset
  | stop
  | delete
  | changePeriod (newPeriodMs : Nat)
  | isActive
  | getContext
  | setContext (context : Nat)
  deriving DecidableEq, Repr

/-- What a timer call returns. -/
inductive TimerResult
  | status (s : OsalStatus)
  | active (b : Bool)
  | context (c : Nat)
  deriving DecidableEq, Repr

namespace TimerOp

/-- The check before the lock: `ARGCHECK(new_period_ms > 0U, ...)` of change_period. -/
def argCheck : TimerOp → Option OsalStatus
  | .changePeriod p => if 0 < p then none else some .timerErrInvalidArgs
  | _ => none

/-- The call's body under the mutex. -/
def body (tm : Timer) : TimerOp → Timer
  | .start => timerStart tm
  | .reset => timerReset tm
  | .stop => timerStop tm
  | .delete => timerDelete tm
  | .changePeriod p => timerChangePeriod tm p
  | .isActive => tm
  | .getContext => tm
  | .setContext c => timerSetContext tm c

/-- Whether the body ends with `pthread_cond_signal(&timer->cond)`. -/
def signals : TimerOp → Bool
  | .isActive | .getContext | .setContext _ => false
  | _ => true

/-- What the call returns, read under the mutex. -/
def result (tm : Timer) : TimerOp → TimerResult
  | .isActive => .active tm.active
  | .getContext => .context tm.context
  | _ => .status .success

/-- Only a delete sets `stop_requested`, and nothing clears it. -/
theorem stopRequested_body (tm : Timer) (op : TimerOp) :
    (op.body tm).stopRequested = (decide (op = .delete) || tm.stopRequested) := by
  cases op <;> rfl

end TimerOp

/-! ## The worker -/

/-- A thread's progress through one timer call: in `pthread_mutex_lock`, holding the mutex,
or, for `osal_timer_delete`, in `pthread_join`. -/
inductive CallPc (K : Type)
  | idle
  | lockWait (k : K) (op : TimerOp)
  | holding (k : K) (op : TimerOp)
  | joining (k : K)

/-- Where `osal_timer_thread` stands. `deadline` is its local `deadline` in ms; `callback`
runs the user callback, whose own timer calls are `call`. -/
inductive WorkerPc (K : Type)
  | start
  | top
  | dormantTest
  | dormantWait
  | dormantWoken
  | arm
  | innerTest (deadline : Nat)
  | timedWait (deadline : Nat)
  | timedWoken (deadline : Nat) (ret : WaitRet)
  | afterWait (deadline : Nat) (ret : WaitRet)
  | callback (deadline : Nat) (call : CallPc K)
  | relock (deadline : Nat)
  | afterCallback (deadline : Nat)
  | exit
  | exited

namespace WorkerPc

variable {K : Type}

/-- The locations at which the worker holds its mutex. -/
def holdsMutex : WorkerPc K → Bool
  | .top | .dormantTest | .arm | .innerTest _ | .afterWait _ _ | .afterCallback _ | .exit => true
  | _ => false

/-- `pthread_mutex_lock(&timer->mutex)`: at start (line 41), after either wait, and after the
callback (line 89). -/
def reacquire : WorkerPc K → Option (WorkerPc K)
  | .start => some .top
  | .dormantWoken => some .dormantTest
  | .timedWoken d ret => some (.afterWait d ret)
  | .relock d => some (.afterCallback d)
  | _ => none

/-- A wait returning by itself: `pthread_cond_wait` spuriously, `pthread_cond_timedwait`
spuriously, with `ETIMEDOUT` once the deadline has passed, or with an error. -/
def wake (now : Nat) (ret : WaitRet) : WorkerPc K → Option (WorkerPc K)
  | .dormantWait => some .dormantWoken
  | .timedWait d => if ret = .timedOut ∧ now < d then none else some (.timedWoken d ret)
  | _ => none

/-- `pthread_cond_signal(&timer->cond)` wakes the worker if it waits; a timed wait whose
deadline has passed may consume it and still return `ETIMEDOUT` (`late`). -/
def signal (now : Nat) (late : Bool) : WorkerPc K → WorkerPc K
  | .dormantWait => .dormantWoken
  | .timedWait d => .timedWoken d (if late && decide (d ≤ now) then .timedOut else .ok)
  | pc => pc

end WorkerPc

/-- One basic block of `osal_timer_thread` run with the mutex held: the timer after it and
the next location; `none` where the worker does not hold the mutex. -/
def workerBlock {K : Type} (tm : Timer) (now : Nat) (clockOk : Bool) :
    WorkerPc K → Option (Timer × WorkerPc K)
  | .top => some (tm, if tm.stopRequested then .exit else .dormantTest)
  | .dormantTest => some (tm, if !tm.active && !tm.stopRequested then .dormantWait else .arm)
  | .arm => some <|
      if tm.stopRequested then (tm, .exit)
      else if clockOk then (tm, .innerTest (now + tm.periodMs))
      else ({ tm with active := false }, .exit)
  | .innerTest d => some (tm, if tm.active && !tm.stopRequested then .timedWait d else .top)
  | .afterWait d .timedOut => some <|
      if !tm.autoReload then ({ tm with active := false }, .callback d .idle)
      else if clockOk then (tm, .callback (now + tm.periodMs) .idle)
      else ({ tm with active := false }, .callback d .idle)
  | .afterWait _ .failed => some ({ tm with active := false }, .top)
  | .afterWait _ .ok => some <|
      if !tm.active || tm.stopRequested then (tm, .top)
      else if clockOk then (tm, .innerTest (now + tm.periodMs))
      else ({ tm with active := false }, .top)
  | .afterCallback d => some (tm, if !tm.autoReload then .top else .innerTest d)
  | .exit => some (tm, .exited)
  | _ => none

section workerBlock

variable {K : Type} {tm tm' : Timer} {now : Nat} {clockOk : Bool} {pc pc' : WorkerPc K}

theorem holdsMutex_of_workerBlock (h : workerBlock tm now clockOk pc = some (tm', pc')) :
    pc.holdsMutex = true := by
  cases pc <;> first | rfl | cases h

/-- The worker's blocks write only `active`. -/
theorem workerBlock_timer (h : workerBlock tm now clockOk pc = some (tm', pc')) :
    tm' = tm ∨ tm' = { tm with active := false } := by
  unfold workerBlock at h
  split at h <;> (try split_ifs at h) <;> cases h <;> simp

end workerBlock

end Osal
