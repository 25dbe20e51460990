import Osal.Timer.Locks

/-!
# Deleting a timer joins its worker

`osal_timer_delete` sets `stop_requested`, clears `active`, signals the worker and joins it.
This file shows the join is cooperative and cannot hang on the worker.

`TimerStep.cases_at` says once what a step can do to one timer and its worker: a step of
another thread leaves the worker where it is in its loop (or moves it inside its callback)
and may run a call's body on the timer and signal the worker; the worker's own steps take
its mutex back, run one locked block, return from a wait, or return from the callback.

Once `stop_requested` is set, nothing clears it, and every step keeps the worker off its
condition variable, spends the one callback the worker may still start (`fireBudget`), and
lowers the worker's distance to its exit (`exitRank`) by one for each of its own steps
(`TimerStep.after_stop`). Nothing before the delete puts the worker on its condition variable
with `stop_requested` set (`TimerSys.StopInv`). `timer_delete_joins` collects these facts
for every reachable state: the worker starts at most one more callback, takes at most eight
steps of its own before it returns, can always take one unless its callback runs or another
thread holds its mutex, and holds no mutex once it has returned, when `pthread_join` lets
the delete destroy the mutex.
-/

set_option linter.unusedSectionVars false

namespace Osal

variable {K I : Type} [DecidableEq K] [DecidableEq I]

namespace TimerEvent

/-- A step of the worker of `k` itself, its callback's own timer calls apart. -/
def isStepOf (k : K) : TimerEvent K I → Bool
  | .loop j | .fire j => decide (j = k)
  | _ => false

/-- The worker of `k` takes the callback branch. -/
def isFireOf (k : K) : TimerEvent K I → Bool
  | .fire j => decide (j = k)
  | _ => false

end TimerEvent

namespace WorkerPc

/-- The worker waits on its condition variable. -/
def isWaiting : WorkerPc K → Bool
  | .dormantWait | .timedWait _ => true
  | _ => false

/-- The callbacks the worker can still start once `stop_requested` is set. -/
def fireBudget : WorkerPc K → Nat
  | .timedWait _ | .timedWoken _ _ | .afterWait _ .timedOut => 1
  | _ => 0

/-- A bound on the worker's own steps to `return NULL` once `stop_requested` is set. -/
def exitRank : WorkerPc K → Nat
  | .exited => 0
  | .exit => 1
  | .top | .arm => 2
  | .innerTest _ | .dormantTest | .start => 3
  | .afterCallback _ | .dormantWoken => 4
  | .dormantWait | .relock _ => 5
  | .callback _ _ => 6
  | .afterWait _ _ => 7
  | .timedWoken _ _ => 8
  | .timedWait _ => 9

/-- The worker is where it was in its loop, or moved inside its callback. -/
def SameLoop (pc pc' : WorkerPc K) : Prop :=
  pc' = pc ∨ ∃ d c c', pc = .callback d c ∧ pc' = .callback d c'

theorem SameLoop.eq {pc pc' : WorkerPc K} (h : SameLoop pc pc') :
    pc'.isWaiting = pc.isWaiting ∧ pc'.fireBudget = pc.fireBudget ∧
      pc'.exitRank = pc.exitRank := by
  rcases h with rfl | ⟨d, c, c', rfl, rfl⟩ <;> exact ⟨rfl, rfl, rfl⟩

@[simp] theorem isWaiting_signal (pc : WorkerPc K) (now : Nat) (late : Bool) :
    (pc.signal now late).isWaiting = false := by
  cases pc <;> rfl

theorem signal_of_not_waiting {pc : WorkerPc K} (h : pc.isWaiting = false) (now : Nat)
    (late : Bool) : pc.signal now late = pc := by
  cases pc <;> first | rfl | cases h

theorem isWaiting_of_wake {pc pc' : WorkerPc K} {now : Nat} {ret : WaitRet}
    (h : pc.wake now ret = some pc') : pc.isWaiting = true := by
  cases pc <;> first | rfl | cases h

/-- Taking the mutex back lowers the rank and spends no callback. -/
theorem reacquire_progress {pc pc' : WorkerPc K} (h : pc.reacquire = some pc') :
    pc'.isWaiting = false ∧ pc'.fireBudget ≤ pc.fireBudget ∧ pc'.exitRank + 1 ≤ pc.exitRank := by
  cases pc <;> simp only [reacquire, reduceCtorEq, Option.some.injEq] at h <;> subst h
  all_goals (try rename_i ret; cases ret) <;> simp [isWaiting, fireBudget, exitRank]

end WorkerPc

/-- With `stop_requested` set, a locked block of the worker keeps it, goes towards the exit,
and spends the callback budget exactly when it is the callback branch. -/
theorem workerBlock_after_stop {tm tm' : Timer} {now : Nat} {clockOk : Bool}
    {pc pc' : WorkerPc K} (h : workerBlock tm now clockOk pc = some (tm', pc'))
    (hstop : tm.stopRequested = true) :
    tm'.stopRequested = true ∧ pc'.isWaiting = false ∧
      pc'.fireBudget + (if pc.isFire then 1 else 0) ≤ pc.fireBudget ∧
      pc'.exitRank + 1 ≤ pc.exitRank := by
  unfold workerBlock at h
  split at h <;> (try split_ifs at h) <;> cases h <;>
    simp_all [WorkerPc.isWaiting, WorkerPc.fireBudget, WorkerPc.exitRank, WorkerPc.isFire]

/-- A locked block of the worker that goes to wait on the condition variable found
`stop_requested` clear, and no block clears it or sets it. -/
theorem workerBlock_stopRequested {tm tm' : Timer} {now : Nat} {clockOk : Bool}
    {pc pc' : WorkerPc K} (h : workerBlock tm now clockOk pc = some (tm', pc')) :
    tm'.stopRequested = tm.stopRequested ∧ (pc'.isWaiting = true → tm.stopRequested = false) := by
  refine ⟨by rcases workerBlock_timer h with rfl | rfl <;> rfl, fun hw => ?_⟩
  unfold workerBlock at h
  split at h <;> (try split_ifs at h) <;> cases h <;> simp_all [WorkerPc.isWaiting]

namespace TimerSys

variable {s : TimerSys K I}

theorem setCall_sameLoop (s : TimerSys K I) (th : Thread K I) (c : CallPc K) (k : K) :
    (s.worker k).SameLoop ((s.setCall th c).worker k) := by
  rcases s.setCall_worker th c k with h | ⟨d, c₀, h₀, h⟩
  · exact .inl h
  · exact .inr ⟨d, c₀, c, h₀, h⟩

theorem runBody_at (s : TimerSys K I) (th : Thread K I) (k₀ : K) (op : TimerOp) (late : Bool)
    (k : K) : ∃ (op' : TimerOp) (pc : WorkerPc K),
      (s.runBody th k₀ op late).timer k = op'.body (s.timer k) ∧ (s.worker k).SameLoop pc ∧
      (s.runBody th k₀ op late).worker k = if op'.signals then pc.signal s.now late else pc := by
  have hs := s.setCall_sameLoop th (if op = .delete then .joining k₀ else .idle) k
  by_cases hk : k = k₀
  · subst hk
    refine ⟨op, _, by simp [runBody], hs, ?_⟩
    simp only [runBody]
    split <;> simp [*]
  · refine ⟨.isActive, _, by simp [runBody, hk, TimerOp.body], hs, ?_⟩
    simp only [runBody, TimerOp.signals]
    split <;> simp [hk]

end TimerSys

/-- A step that is not one of worker `k`'s and leaves timer `k` and the worker as they were. -/
theorem TimerStep.passive_of_eq {s s' : TimerSys K I} {e : TimerEvent K I} {k : K}
    (h₁ : e.isStepOf k = false) (h₂ : e.isFireOf k = false) (ht : s'.timer k = s.timer k)
    (hw : s'.worker k = s.worker k) :
    e.isStepOf k = false ∧ e.isFireOf k = false ∧
      ∃ (op : TimerOp) (pc : WorkerPc K) (late : Bool), s'.timer k = op.body (s.timer k) ∧
        (s.worker k).SameLoop pc ∧ s'.worker k = if op.signals then pc.signal s.now late else pc :=
  ⟨h₁, h₂, .isActive, _, false, ht, .inl rfl, hw⟩

/-- What a step does to one timer and its worker: a step of another thread, or of the
worker's callback, leaves the worker where it is in its loop, maybe signals it, and may run
a call's body on the timer; the worker's own steps take the mutex back, run a locked block,
return from a wait, or return from the callback. -/
theorem TimerStep.cases_at {s s' : TimerSys K I} {e : TimerEvent K I}
    (hs : TimerStep s e s') (k : K) :
    (e.isStepOf k = false ∧ e.isFireOf k = false ∧
      ∃ (op : TimerOp) (pc : WorkerPc K) (late : Bool), s'.timer k = op.body (s.timer k) ∧
        (s.worker k).SameLoop pc ∧ s'.worker k = if op.signals then pc.signal s.now late else pc) ∨
    (e.isStepOf k = true ∧ e.isFireOf k = false ∧ s'.timer k = s.timer k ∧
      ((s.worker k).reacquire = some (s'.worker k) ∨
        (∃ ret, (s.worker k).wake s.now ret = some (s'.worker k)) ∨
        ∃ d, s.worker k = .callback d .idle ∧ s'.worker k = .relock d)) ∨
    (e.isStepOf k = true ∧ e.isFireOf k = (s.worker k).isFire ∧ ∃ clockOk,
      workerBlock (s.timer k) s.now clockOk (s.worker k) = some (s'.timer k, s'.worker k)) := by
  cases hs with
  | tick | reject => exact .inl (passive_of_eq rfl rfl rfl rfl)
  | call th | acquire th | join th =>
    exact .inl ⟨rfl, rfl, .isActive, _, false, by simp; rfl, s.setCall_sameLoop th _ k, rfl⟩
  | body th j op late =>
    obtain ⟨op', pc, ht, hl, hw⟩ := s.runBody_at th j op late k
    exact .inl ⟨rfl, rfl, op', pc, late, ht, hl, hw⟩
  | lock j pc hr =>
    by_cases hk : k = j
    · subst hk
      exact .inr (.inl ⟨by simp [TimerEvent.isStepOf], rfl, rfl, .inl (by simpa using hr)⟩)
    · exact .inl (passive_of_eq (by simp [TimerEvent.isStepOf, Ne.symm hk]) rfl rfl
        (by simp [hk]))
  | wake j ret pc hw =>
    by_cases hk : k = j
    · subst hk
      exact .inr (.inl ⟨by simp [TimerEvent.isStepOf], rfl, rfl,
        .inr (.inl ⟨ret, by simpa using hw⟩)⟩)
    · exact .inl (passive_of_eq (by simp [TimerEvent.isStepOf, Ne.symm hk]) rfl rfl
        (by simp [hk]))
  | ret j d hw =>
    by_cases hk : k = j
    · subst hk
      exact .inr (.inl ⟨by simp [TimerEvent.isStepOf], rfl, rfl, .inr (.inr ⟨d, hw, by simp⟩)⟩)
    · exact .inl (passive_of_eq (by simp [TimerEvent.isStepOf, Ne.symm hk]) rfl rfl
        (by simp [hk]))
  | run j clockOk tm pc hb =>
    by_cases hk : k = j
    · subst hk
      refine .inr (.inr ⟨?_, ?_, clockOk, by simpa using hb⟩) <;>
        split <;> simp_all [TimerEvent.isStepOf, TimerEvent.isFireOf]
    · refine .inl (passive_of_eq ?_ ?_ (by simp [hk]) (by simp [hk])) <;>
        split <;> simp [TimerEvent.isStepOf, TimerEvent.isFireOf, Ne.symm hk]

/-! ## After `stop_requested` is set -/

section AfterStop

variable {s s' : TimerSys K I} {e : TimerEvent K I}

/-- With `stop_requested` set on timer `k` and its worker off the condition variable, a step
keeps both, spends the callback budget on a fire, and lowers the rank on a step of the
worker. -/
theorem TimerStep.after_stop (hs : TimerStep s e s') (k : K)
    (hstop : (s.timer k).stopRequested = true) (hw : (s.worker k).isWaiting = false) :
    (s'.timer k).stopRequested = true ∧ (s'.worker k).isWaiting = false ∧
      (s'.worker k).fireBudget + (if e.isFireOf k then 1 else 0) ≤ (s.worker k).fireBudget ∧
      (s'.worker k).exitRank + (if e.isStepOf k then 1 else 0) ≤ (s.worker k).exitRank := by
  rcases hs.cases_at k with ⟨h₁, h₂, op, pc, late, ht, hl, hpc⟩ |
    ⟨h₁, h₂, ht, hr | ⟨ret, hwk⟩ | ⟨d, hd, hd'⟩⟩ | ⟨h₁, h₂, clockOk, hb⟩
  · obtain ⟨hw', hb', hr'⟩ := hl.eq
    have hpc' : s'.worker k = pc := by
      rw [hpc]; split
      · exact WorkerPc.signal_of_not_waiting (hw' ▸ hw) _ _
      · rfl
    simp [h₁, h₂, hpc', ht, TimerOp.stopRequested_body, hstop, hw', hb', hr', hw]
  · obtain ⟨a, b, c⟩ := WorkerPc.reacquire_progress hr
    simp [h₁, h₂, ht, hstop, a]; omega
  · exact absurd (WorkerPc.isWaiting_of_wake hwk) (by simp [hw])
  · simp [h₁, h₂, ht, hstop, hd, hd', WorkerPc.isWaiting, WorkerPc.fireBudget,
      WorkerPc.exitRank]
  · obtain ⟨a, b, c, d⟩ := workerBlock_after_stop hb hstop
    refine ⟨a, b, h₂ ▸ c, by simpa [h₁] using d⟩

/-- Once `stop_requested` is set, the worker is not on its condition variable. -/
def TimerSys.StopInv (s : TimerSys K I) : Prop :=
  ∀ k, (s.timer k).stopRequested = true → (s.worker k).isWaiting = false

theorem TimerStep.stopInv (hs : TimerStep s e s') (h : s.StopInv) : s'.StopInv := by
  intro k hk
  by_cases h₀ : (s.timer k).stopRequested = true
  · exact (hs.after_stop k h₀ (h k h₀)).2.1
  rcases hs.cases_at k with ⟨-, -, op, pc, late, ht, -, hpc⟩ | ⟨-, -, ht, -⟩ | ⟨-, -, _, hb⟩
  · rw [hpc]
    split
    · simp
    · rename_i hsig
      rw [ht, TimerOp.stopRequested_body] at hk
      cases op <;> simp_all [TimerOp.signals]
  · rw [ht] at hk; exact absurd hk h₀
  · rw [(workerBlock_stopRequested hb).1] at hk; exact absurd hk h₀

theorem TimerSys.stopInv_init (tm : K → Timer) (now : Nat) :
    (TimerSys.init tm now : TimerSys K I).StopInv := fun _ _ => rfl

/-- Along a run from a state where `stop_requested` is set and the worker is off its
condition variable, both stay so, the run fires at most the budget, and the worker's own
steps are at most its rank. -/
theorem TimerRun.after_stop {tr : List (TimerEvent K I)} (hr : TimerRun s tr s') (k : K)
    (hstop : (s.timer k).stopRequested = true) (hw : (s.worker k).isWaiting = false) :
    (s'.timer k).stopRequested = true ∧ (s'.worker k).isWaiting = false ∧
      (s'.worker k).fireBudget + tr.countP (·.isFireOf k) ≤ (s.worker k).fireBudget ∧
      (s'.worker k).exitRank + tr.countP (·.isStepOf k) ≤ (s.worker k).exitRank := by
  induction hr with
  | refl => simp [hstop, hw]
  | step _ hs ih =>
    obtain ⟨h₁, h₂, h₃, h₄⟩ := ih
    obtain ⟨h₁', h₂', h₃', h₄'⟩ := hs.after_stop k h₁ h₂
    refine ⟨h₁', h₂', ?_, ?_⟩ <;> simp only [List.countP_append, List.countP_singleton] <;>
      split <;> simp_all <;> omega

end AfterStop

/-! ## The worker can always move on, and the delete destroys only what it released -/

theorem workerBlock_isSome {tm : Timer} {now : Nat} {clockOk : Bool} {pc : WorkerPc K}
    (h : pc.holdsMutex = true) : (workerBlock tm now clockOk pc).isSome = true := by
  cases pc <;> first | rfl | (rename_i ret; cases ret <;> rfl) | cases h

theorem TimerSys.worker_can_step {s : TimerSys K I} (hl : s.LockInv) (k : K)
    (hw : (s.worker k).isWaiting = false) (hx : s.worker k ≠ .exited) :
    (∃ d c, s.worker k = .callback d c) ∨ (∃ th, s.owner k = some th ∧ th ≠ .worker k) ∨
      ∃ e s', TimerStep s e s' ∧ e.isStepOf k = true := by
  cases hpc : s.worker k with
  | callback d c => exact .inl ⟨d, c, rfl⟩
  | exited => exact absurd hpc hx
  | dormantWait | timedWait => simp [hpc, WorkerPc.isWaiting] at hw
  | start | dormantWoken | timedWoken | relock =>
    obtain ⟨pc, hr⟩ : ∃ pc, (s.worker k).reacquire = some pc := by
      simp [hpc, WorkerPc.reacquire]
    cases ho : s.owner k with
    | none => exact .inr (.inr ⟨_, _, .lock s k pc hr ho, by simp [TimerEvent.isStepOf]⟩)
    | some th =>
      refine .inr (.inl ⟨th, rfl, fun h => ?_⟩)
      subst h
      have := (hl _ _).mp ho
      rw [TimerSys.heldBy, (WorkerPc.held_of_reacquire k hr).1] at this
      cases this
  | top | dormantTest | arm | innerTest | afterWait | afterCallback | exit =>
    obtain ⟨⟨tm, pc⟩, hb⟩ := Option.isSome_iff_exists.mp
      (@workerBlock_isSome K _ (s.timer k) s.now true (s.worker k)
        (by simp [hpc, WorkerPc.holdsMutex]))
    refine .inr (.inr ⟨_, _, .run s k true tm pc hb, ?_⟩)
    split <;> simp [TimerEvent.isStepOf]


/-- Only `pthread_join` returning lets a delete destroy the timer, and it returns only once
the worker has. -/
theorem TimerStep.exited_of_destroyed {s s' : TimerSys K I} {e : TimerEvent K I}
    (hs : TimerStep s e s') {k : K} (h₀ : s.destroyed k = false) (h₁ : s'.destroyed k = true) :
    s.worker k = .exited := by
  cases hs with
  | join th j _ hx =>
    by_cases hk : k = j
    · subst hk; exact hx
    · simp [hk, h₀] at h₁
  | body => simp [TimerSys.runBody, h₀] at h₁
  | call | acquire => simp [h₀] at h₁
  | _ => simp [h₀] at h₁

theorem WorkerPc.fireBudget_le_one (pc : WorkerPc K) : pc.fireBudget ≤ 1 := by
  unfold fireBudget; split <;> omega

theorem WorkerPc.exitRank_le (pc : WorkerPc K) (h : pc.isWaiting = false) : pc.exitRank ≤ 8 := by
  cases pc <;> simp_all [isWaiting, exitRank]

/-- Once a delete has set `stop_requested` on timer `k`, in every continuation of the run it
stays set, the worker never waits on its condition variable again, starts at most one more
callback, and takes at most `exitRank ≤ 8` steps of its own before it returns; until then it
can always take one unless its callback runs or another thread holds its mutex; and the
delete destroys the mutex only after the worker has returned, holding no mutex. -/
theorem timer_delete_joins {tm : K → Timer} {now : Nat} {tr₀ : List (TimerEvent K I)}
    {s : TimerSys K I} (hr : TimerRun (TimerSys.init tm now) tr₀ s) {k : K}
    (hstop : (s.timer k).stopRequested = true) :
    (s.worker k).exitRank ≤ 8 ∧
    ∀ tr s', TimerRun s tr s' →
      (s'.timer k).stopRequested = true ∧ (s'.worker k).isWaiting = false ∧
      tr.countP (·.isFireOf k) ≤ 1 ∧
      tr.countP (·.isStepOf k) + (s'.worker k).exitRank ≤ (s.worker k).exitRank ∧
      (s'.worker k ≠ .exited → (∃ d c, s'.worker k = .callback d c) ∨
        (∃ th, s'.owner k = some th ∧ th ≠ .worker k) ∨
        ∃ e s'', TimerStep s' e s'' ∧ e.isStepOf k = true) ∧
      ∀ e s'', TimerStep s' e s'' → s'.destroyed k = false → s''.destroyed k = true →
        s'.worker k = .exited ∧ s'.owner k ≠ some (.worker k) := by
  have hw : (s.worker k).isWaiting = false :=
    hr.preserves TimerStep.stopInv (TimerSys.stopInv_init tm now) k hstop
  refine ⟨WorkerPc.exitRank_le _ hw, fun tr s' hr' => ?_⟩
  obtain ⟨h₁, h₂, h₃, h₄⟩ := hr'.after_stop k hstop hw
  have hl : s'.LockInv := (hr.append hr').preserves TimerStep.lockInv (TimerSys.lockInv_init tm now)
  refine ⟨h₁, h₂, by have := (s.worker k).fireBudget_le_one; omega, by omega,
    TimerSys.worker_can_step hl k h₂, fun e s'' hs hd₀ hd₁ => ?_⟩
  have hx := hs.exited_of_destroyed hd₀ hd₁
  refine ⟨hx, fun ho => ?_⟩
  have := (hl _ _).mp ho
  simp [TimerSys.heldBy, hx, WorkerPc.held, WorkerPc.holdsMutex] at this

/-- `timer_delete_joins` once a task's `osal_timer_delete` has run its body on a stopped
timer, before the worker has seen it. -/
theorem timer_delete_joins_after_body :
    ∃ (tr₀ : List (TimerEvent Unit Unit)) (s : TimerSys Unit Unit),
      TimerRun (TimerSys.init (fun _ => ⟨100, false, false, false, 0⟩) 0) tr₀ s ∧
      (s.timer ()).stopRequested = true ∧
      (s.worker ()).exitRank ≤ 8 ∧
      ∀ tr s', TimerRun s tr s' →
        (s'.timer ()).stopRequested = true ∧ (s'.worker ()).isWaiting = false ∧
        tr.countP (·.isFireOf ()) ≤ 1 ∧
        tr.countP (·.isStepOf ()) + (s'.worker ()).exitRank ≤ (s.worker ()).exitRank ∧
        (s'.worker () ≠ .exited → (∃ d c, s'.worker () = .callback d c) ∨
          (∃ th, s'.owner () = some th ∧ th ≠ .worker ()) ∨
          ∃ e s'', TimerStep s' e s'' ∧ e.isStepOf () = true) ∧
        ∀ e s'', TimerStep s' e s'' → s'.destroyed () = false → s''.destroyed () = true →
          s'.worker () = .exited ∧ s'.owner () ≠ some (.worker ()) := by
  have hr := (((TimerRun.refl (TimerSys.init (fun _ => ⟨100, false, false, false, 0⟩) 0)).step
    (.call _ (.task ()) () .delete rfl rfl rfl fun _ h => nomatch h)).step
    (.acquire _ (.task ()) () .delete (by rfl) (by rfl))).step
    (.body _ (.task ()) () .delete false (by rfl))
  exact ⟨_, _, hr, rfl, timer_delete_joins hr rfl⟩

end Osal
