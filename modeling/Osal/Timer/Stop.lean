import Osal.Timer.Delete

/-!
# After a stop, at most one more callback

`osal_timer_stop` clears `active`, and a worker whose timed wait has already returned
`ETIMEDOUT` still takes the callback branch (`timer_fires_after_stop`). This file bounds what
that costs: once `active` is clear, and until a start, reset or change_period on the timer,
the worker takes the callback branch at most once (`timer_stop_fires_at_most_once`).

The count is `WorkerPc.fireBudget`: it is `1` while the worker is in its timed wait or just
out of it, and with `active` clear no step puts the worker back there
(`TimerStep.fireBudget_of_inactive`); only a call that sets `active` sets it again
(`TimerStep.inactive`).
-/

set_option linter.unusedSectionVars false

namespace Osal

variable {K I : Type} [DecidableEq K] [DecidableEq I]

/-- The calls that set `active`: `osal_timer_start`, `osal_timer_reset` and
`osal_timer_change_period`. -/
def TimerOp.activates : TimerOp → Bool
  | .start | .reset | .changePeriod _ => true
  | _ => false

/-- The end of a call on timer `k` that sets `active`. -/
def TimerEvent.isActivationOf (k : K) : TimerEvent K I → Bool
  | .command _ j op _ => decide (j = k) && op.activates
  | _ => false

theorem TimerOp.active_body {op : TimerOp} (h : op.activates = false) {tm : Timer}
    (ha : tm.active = false) : (op.body tm).active = false := by
  cases op <;> first | rfl | exact ha | cases h

namespace WorkerPc

@[simp] theorem fireBudget_signal (pc : WorkerPc K) (now : Nat) (late : Bool) :
    (pc.signal now late).fireBudget = pc.fireBudget := by
  cases pc <;> rfl

theorem fireBudget_wake {pc pc' : WorkerPc K} {now : Nat} {ret : WaitRet}
    (h : pc.wake now ret = some pc') : pc'.fireBudget = pc.fireBudget := by
  cases pc <;> simp only [wake, reduceCtorEq] at h
  · cases h; rfl
  · split at h <;> cases h; rfl

end WorkerPc

/-- With `active` clear, a locked block of the worker never reaches its timed wait, and spends
the callback budget exactly when it is the callback branch. -/
theorem workerBlock_inactive {tm tm' : Timer} {now : Nat} {clockOk : Bool}
    {pc pc' : WorkerPc K} (h : workerBlock tm now clockOk pc = some (tm', pc'))
    (ha : tm.active = false) :
    pc'.fireBudget + (if pc.isFire then 1 else 0) ≤ pc.fireBudget := by
  unfold workerBlock at h
  split at h <;> (try split_ifs at h) <;> cases h <;>
    simp_all [WorkerPc.fireBudget, WorkerPc.isFire]

section Inactive

variable {s s' : TimerSys K I} {e : TimerEvent K I}

/-- Only a start, reset or change_period sets `active` again. -/
theorem TimerStep.inactive (hs : TimerStep s e s') (k : K) (ha : (s.timer k).active = false)
    (hn : e.isActivationOf k = false) : (s'.timer k).active = false := by
  cases hs with
  | body th j op late hc =>
    by_cases hk : k = j
    · subst hk
      have hop : op.activates = false := by simpa [TimerEvent.isActivationOf] using hn
      simpa [TimerSys.runBody] using TimerOp.active_body hop ha
    · simp [TimerSys.runBody, hk, ha]
  | run j clockOk tm pc hb =>
    by_cases hk : k = j
    · subst hk
      rcases workerBlock_timer hb with rfl | rfl
      · simpa using ha
      · simp
    · simpa [hk] using ha
  | call | acquire | join => simpa using ha
  | _ => exact ha

/-- With `active` clear, a step never raises the callback budget, and the callback branch
spends it. -/
theorem TimerStep.fireBudget_of_inactive (hs : TimerStep s e s') (k : K)
    (ha : (s.timer k).active = false) :
    (s'.worker k).fireBudget + (if e.isFireOf k then 1 else 0) ≤ (s.worker k).fireBudget := by
  rcases hs.cases_at k with ⟨-, h₂, op, pc, late, -, hl, hpc⟩ |
    ⟨-, h₂, -, hr | ⟨ret, hwk⟩ | ⟨d, hd, hd'⟩⟩ | ⟨-, h₂, clockOk, hb⟩
  · have : (s'.worker k).fireBudget = pc.fireBudget := by rw [hpc]; split <;> simp
    simp [h₂, this, hl.eq.2.1]
  · simpa [h₂] using (WorkerPc.reacquire_progress hr).2.1
  · simp [h₂, WorkerPc.fireBudget_wake hwk]
  · simp [h₂, hd, hd', WorkerPc.fireBudget]
  · rw [h₂]; exact workerBlock_inactive hb ha

end Inactive

/-- From a state where timer `k` is not active, a run with no start, reset or change_period
on it keeps it inactive and takes the callback branch at most as often as the budget. -/
theorem TimerRun.fires_of_inactive {s s' : TimerSys K I} {tr : List (TimerEvent K I)}
    (hr : TimerRun s tr s') (k : K) (ha : (s.timer k).active = false)
    (hn : ∀ e ∈ tr, e.isActivationOf k = false) :
    (s'.timer k).active = false ∧
      tr.countP (·.isFireOf k) + (s'.worker k).fireBudget ≤ (s.worker k).fireBudget := by
  induction hr with
  | refl => exact ⟨ha, by simp⟩
  | step _ hs ih =>
    obtain ⟨ha', hb⟩ := ih fun e he => hn e (List.mem_append_left _ he)
    have hb' := hs.fireBudget_of_inactive k ha'
    refine ⟨hs.inactive k ha' (hn _ (by simp)), ?_⟩
    rw [List.countP_append, List.countP_singleton]
    split at hb' <;> simp_all <;> omega

/-- Once `osal_timer_stop` has run its critical section on timer `k`, and until a start,
reset or change_period on it, the timer stays inactive and its worker takes the callback
branch at most once. -/
theorem timer_stop_fires_at_most_once {s s' s'' : TimerSys K I} {th : Thread K I} {k : K}
    {r : TimerResult} {tr : List (TimerEvent K I)} (hs : TimerStep s (.command th k .stop r) s')
    (hr : TimerRun s' tr s'') (hn : ∀ e ∈ tr, e.isActivationOf k = false) :
    (s''.timer k).active = false ∧ tr.countP (·.isFireOf k) ≤ 1 := by
  have ha : (s'.timer k).active = false := by
    generalize he : TimerEvent.command th k .stop r = e at hs
    cases hs with
    | body =>
      cases he
      simp [TimerSys.runBody, TimerOp.body, timerStop, Timer.command]
    | reject _ _ _ _ _ hc => cases he; cases hc
    | run => split at he <;> cases he
    | _ => cases he
  obtain ⟨h₁, h₂⟩ := hr.fires_of_inactive k ha hn
  exact ⟨h₁, by have := (s'.worker k).fireBudget_le_one; omega⟩

end Osal
