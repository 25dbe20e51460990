import Osal.Timer.System

/-!
# Three races of the timer worker

Each theorem replays one interleaving of `TimerStep` on a timer fresh from
`osal_timer_create`, with one task commanding it, and shows where the worker's decisions part
from the commands.

* `timer_fires_after_stop`: `pthread_cond_timedwait` returns `ETIMEDOUT` and, before the
  worker takes the mutex back, `osal_timer_stop` runs its critical section. The `ETIMEDOUT`
  branch (lines 70–95) tests neither `active` nor `stop_requested`, so the worker calls the
  callback of a stopped timer.
* `timer_reset_during_callback_lost`: `osal_timer_reset` runs while the callback of an
  auto-reload timer runs. Its signal finds no waiter, and after the callback the worker goes
  back to `pthread_cond_timedwait` on the deadline it computed before calling it, so the next
  expiry comes before a period has passed since the reset.
* `timer_start_moves_active_deadline`: `osal_timer_start` on an active timer signals the
  worker, whose `ret == 0` branch (lines 101–112) computes a new deadline from the current
  time, so the start restarts the period.
-/

namespace Osal

/-- A one-shot timer of period 1 ms is started at time 0. At time 1 its timed wait returns
`ETIMEDOUT`, and a task's `osal_timer_stop` takes the mutex before the worker does. The worker
then takes the mutex and, with `active` cleared by the stop, takes the callback branch. -/
theorem timer_fires_after_stop :
    timerCreate true true none 1 false 0 none 0 true = .ok ⟨1, false, false, false, 0⟩ ∧
    ∃ (tr : List (TimerEvent Unit Unit)) (s₁ s₂ s₃ : TimerSys Unit Unit),
      TimerRun (TimerSys.init (fun _ => ⟨1, false, false, false, 0⟩) 0) tr s₁ ∧
      s₁.worker () = .timedWoken 1 .timedOut ∧ s₁.callOf (.task ()) = some (.holding () .stop) ∧
      TimerRun s₁ [.command (.task ()) () .stop (.status .success), .loop ()] s₂ ∧
      (s₂.timer ()).active = false ∧ TimerStep s₂ (.fire ()) s₃ := by
  let tm₀ : Timer := ⟨1, false, false, false, 0⟩
  let tm₁ : Timer := ⟨1, false, true, false, 0⟩
  let w : Option (Thread Unit Unit) := some (.worker ())
  let t : Option (Thread Unit Unit) := some (.task ())
  obtain ⟨_, h₀⟩ := TimerSys.one_started 1 false 0
  refine ⟨rfl, _, _, _, _,
    h₀.append <|
    .head (.one tm₁ none (.timedWait 1) .idle 1) (.tick _) <|
    .head (.one tm₁ none (.timedWoken 1 .timedOut) .idle 1) (.wake _ () .timedOut _ (by rfl)) <|
    .head (.one tm₁ none (.timedWoken 1 .timedOut) (.lockWait () .stop) 1)
      (.call _ (.task ()) () .stop (by rfl) (by rfl) (by rfl) fun _ h => nomatch h) <|
    .head (.one tm₁ t (.timedWoken 1 .timedOut) (.holding () .stop) 1)
      (.acquire _ (.task ()) () .stop (by rfl) (by rfl)) <| .refl _,
    rfl, rfl,
    .head (.one tm₀ none (.timedWoken 1 .timedOut) .idle 1)
      (.body _ (.task ()) () .stop false (by rfl)) <|
    .head (.one tm₀ w (.afterWait 1 .timedOut) .idle 1) (.lock _ () _ (by rfl) (by rfl)) <| .refl _,
    rfl, .run _ () true tm₀ (.callback 1 .idle) (by rfl)⟩

/-- An auto-reload timer of period 1 ms is started at time 0 and expires at time 1; the worker
computes the deadline 2 and calls the callback. At time 2, while the callback runs, a task's
`osal_timer_reset` runs its critical section. After the callback the worker waits on the
deadline 2 and takes the callback branch at time 2, before a period has passed since the
reset, with no command in between. -/
theorem timer_reset_during_callback_lost :
    timerCreate true true none 1 true 0 none 0 true = .ok ⟨1, true, false, false, 0⟩ ∧
    ∃ (tr : List (TimerEvent Unit Unit)) (s₁ s₂ s₃ s₄ : TimerSys Unit Unit),
      TimerRun (TimerSys.init (fun _ => ⟨1, true, false, false, 0⟩) 0) tr s₁ ∧
      s₁.worker () = .callback 2 .idle ∧
      TimerRun s₁ [.call (.task ()), .call (.task ()),
        .command (.task ()) () .reset (.status .success)] s₂ ∧
      TimerRun s₂ [.loop (), .loop (), .loop (), .loop (), .loop (), .loop ()] s₃ ∧
      TimerStep s₃ (.fire ()) s₄ ∧ s₃.now < s₂.now + (s₂.timer ()).periodMs := by
  let tm₁ : Timer := ⟨1, true, true, false, 0⟩
  let w : Option (Thread Unit Unit) := some (.worker ())
  let t : Option (Thread Unit Unit) := some (.task ())
  obtain ⟨_, h₀⟩ := TimerSys.one_started 1 true 0
  refine ⟨rfl, _, _, _, _, _,
    h₀.append <|
    .head (.one tm₁ none (.timedWait 1) .idle 1) (.tick _) <|
    .head (.one tm₁ none (.timedWoken 1 .timedOut) .idle 1) (.wake _ () .timedOut _ (by rfl)) <|
    .head (.one tm₁ w (.afterWait 1 .timedOut) .idle 1) (.lock _ () _ (by rfl) (by rfl)) <|
    .head (.one tm₁ none (.callback 2 .idle) .idle 1)
      (.run _ () true tm₁ (.callback 2 .idle) (by rfl)) <|
    .head (.one tm₁ none (.callback 2 .idle) .idle 2) (.tick _) <| .refl _,
    rfl,
    .head (.one tm₁ none (.callback 2 .idle) (.lockWait () .reset) 2)
      (.call _ (.task ()) () .reset (by rfl) (by rfl) (by rfl) fun _ h => nomatch h) <|
    .head (.one tm₁ t (.callback 2 .idle) (.holding () .reset) 2)
      (.acquire _ (.task ()) () .reset (by rfl) (by rfl)) <|
    .head (.one tm₁ none (.callback 2 .idle) .idle 2)
      (.body _ (.task ()) () .reset false (by rfl)) <| .refl _,
    .head (.one tm₁ none (.relock 2) .idle 2) (.ret _ () 2 (by rfl)) <|
    .head (.one tm₁ w (.afterCallback 2) .idle 2) (.lock _ () _ (by rfl) (by rfl)) <|
    .head (.one tm₁ w (.innerTest 2) .idle 2) (.run _ () true tm₁ (.innerTest 2) (by rfl)) <|
    .head (.one tm₁ none (.timedWait 2) .idle 2) (.run _ () true tm₁ (.timedWait 2) (by rfl)) <|
    .head (.one tm₁ none (.timedWoken 2 .timedOut) .idle 2) (.wake _ () .timedOut _ (by rfl)) <|
    .head (.one tm₁ w (.afterWait 2 .timedOut) .idle 2) (.lock _ () _ (by rfl) (by rfl)) <|
      .refl _,
    .run _ () true tm₁ (.callback 3 .idle) (by rfl), by decide⟩

/-- A one-shot timer of period 2 ms is started at time 0, and its worker waits on the deadline
2. At time 1 a task calls `osal_timer_start` on the active timer, and the worker then waits on
the deadline 3; a spurious return of `pthread_cond_timedwait` at time 1 does the same. -/
theorem timer_start_moves_active_deadline :
    timerCreate true true none 2 false 0 none 0 true = .ok ⟨2, false, false, false, 0⟩ ∧
    ∃ (tr : List (TimerEvent Unit Unit)) (s₁ s₂ s₃ : TimerSys Unit Unit),
      TimerRun (TimerSys.init (fun _ => ⟨2, false, false, false, 0⟩) 0) tr s₁ ∧
      s₁.worker () = .timedWait 2 ∧ (s₁.timer ()).active = true ∧
      TimerRun s₁ [.call (.task ()), .call (.task ()),
        .command (.task ()) () .start (.status .success), .loop (), .loop (), .loop ()] s₂ ∧
      s₂.worker () = .timedWait 3 ∧
      TimerRun s₁ [.loop (), .loop (), .loop (), .loop ()] s₃ ∧ s₃.worker () = .timedWait 3 := by
  let tm₁ : Timer := ⟨2, false, true, false, 0⟩
  let w : Option (Thread Unit Unit) := some (.worker ())
  let t : Option (Thread Unit Unit) := some (.task ())
  obtain ⟨_, h₀⟩ := TimerSys.one_started 2 false 0
  refine ⟨rfl, _, _, _, _,
    h₀.append <|
    .head (.one tm₁ none (.timedWait 2) .idle 1) (.tick _) <| .refl _,
    rfl, rfl,
    .head (.one tm₁ none (.timedWait 2) (.lockWait () .start) 1)
      (.call _ (.task ()) () .start (by rfl) (by rfl) (by rfl) fun _ h => nomatch h) <|
    .head (.one tm₁ t (.timedWait 2) (.holding () .start) 1)
      (.acquire _ (.task ()) () .start (by rfl) (by rfl)) <|
    .head (.one tm₁ none (.timedWoken 2 .ok) .idle 1)
      (.body _ (.task ()) () .start false (by rfl)) <|
    .head (.one tm₁ w (.afterWait 2 .ok) .idle 1) (.lock _ () _ (by rfl) (by rfl)) <|
    .head (.one tm₁ w (.innerTest 3) .idle 1) (.run _ () true tm₁ (.innerTest 3) (by rfl)) <|
    .head (.one tm₁ none (.timedWait 3) .idle 1) (.run _ () true tm₁ (.timedWait 3) (by rfl)) <|
      .refl _,
    rfl,
    .head (.one tm₁ none (.timedWoken 2 .ok) .idle 1) (.wake _ () .ok _ (by rfl)) <|
    .head (.one tm₁ w (.afterWait 2 .ok) .idle 1) (.lock _ () _ (by rfl) (by rfl)) <|
    .head (.one tm₁ w (.innerTest 3) .idle 1) (.run _ () true tm₁ (.innerTest 3) (by rfl)) <|
    .head (.one tm₁ none (.timedWait 3) .idle 1) (.run _ () true tm₁ (.timedWait 3) (by rfl)) <|
      .refl _,
    rfl⟩

end Osal
