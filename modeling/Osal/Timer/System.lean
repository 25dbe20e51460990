import Osal.Timer.Worker

/-!
# Timers, their workers and the tasks that command them

Any number of timers (indexed by `K`) and tasks (indexed by `I`) of the POSIX backend, as
one interleaving (`TimerStep`). Each timer has a mutex (`TimerSys.owner`), a condition
variable whose only waiter is its worker, and a worker running `osal_timer_thread`. A
thread in a timer call waits for the timer's mutex, takes it, runs the call's body and
unlocks (`runBody`), and in `osal_timer_delete` then joins the worker. The user callback
runs on the worker's thread with the mutex released, and may call any timer operation on any
timer but delete on its own (`TimerSys.callOf`). The clock advances by `TimerStep.tick`.

`pthread_mutex_lock` on a timer's default mutex cannot fail here (no thread locks a mutex
it holds, `Osal.Timer.Locks`), so its error branches are not modelled.

The events record where the threads are: `fire k` is worker `k` taking the branch that calls
the callback, `command th k op r` is the end of the critical section of a call `op` on timer
`k` by thread `th`, with what the call returns, `call th` is any other step of a call (entering
it, taking the mutex, returning from `pthread_join`), and `loop k` is any other step of worker
`k`.
-/

namespace Osal

/-- The threads: the worker of each timer and the application tasks. -/
inductive Thread (K I : Type)
  | worker (k : K)
  | task (i : I)
  deriving DecidableEq

/-- What a step of the timers did. -/
inductive TimerEvent (K I : Type)
  | tick
  | loop (k : K)
  | fire (k : K)
  | call (th : Thread K I)
  | command (th : Thread K I) (k : K) (op : TimerOp) (result : TimerResult)

/-- The timers, their mutexes and workers, the tasks, and the clock. -/
structure TimerSys (K I : Type) where
  timer : K → Timer
  owner : K → Option (Thread K I)
  worker : K → WorkerPc K
  task : I → CallPc K
  destroyed : K → Bool
  now : Nat

/-- The worker location that takes the callback branch. -/
def WorkerPc.isFire {K : Type} : WorkerPc K → Bool
  | .afterWait _ .timedOut => true
  | _ => false

variable {K I : Type} [DecidableEq K] [DecidableEq I]

namespace TimerSys

/-- Timers as `osal_timer_create` returned them, their workers started, no call in
progress, at time `now`. -/
def init (tm : K → Timer) (now : Nat) : TimerSys K I :=
  ⟨tm, fun _ => none, fun _ => .start, fun _ => .idle, fun _ => false, now⟩

/-- The timer call a thread is in: every task, and a worker while its callback runs. -/
def callOf (s : TimerSys K I) : Thread K I → Option (CallPc K)
  | .task i => some (s.task i)
  | .worker k => match s.worker k with
    | .callback _ c => some c
    | _ => none

/-- Thread `th` moves to `c` in its call. -/
def setCall (s : TimerSys K I) : Thread K I → CallPc K → TimerSys K I
  | .task i, c => { s with task := Function.update s.task i c }
  | .worker k, c => match s.worker k with
    | .callback d _ => { s with worker := Function.update s.worker k (.callback d c) }
    | _ => s

/-- Thread `th` runs the body of `op` on timer `k` and unlocks: the timer's fields, the signal
to its worker, and `th` going on to `pthread_join` (delete) or out of the call. -/
def runBody (s : TimerSys K I) (th : Thread K I) (k : K) (op : TimerOp) (late : Bool) :
    TimerSys K I :=
  let s₁ := s.setCall th (if op = .delete then .joining k else .idle)
  { s₁ with
    timer := Function.update s.timer k (op.body (s.timer k))
    owner := Function.update s.owner k none
    worker := if op.signals then Function.update s₁.worker k ((s₁.worker k).signal s.now late)
      else s₁.worker }

@[simp] theorem setCall_timer (s : TimerSys K I) (th : Thread K I) (c : CallPc K) :
    (s.setCall th c).timer = s.timer := by
  cases th with
  | task => rfl
  | worker k => simp only [setCall]; split <;> rfl

@[simp] theorem setCall_owner (s : TimerSys K I) (th : Thread K I) (c : CallPc K) :
    (s.setCall th c).owner = s.owner := by
  cases th with
  | task => rfl
  | worker k => simp only [setCall]; split <;> rfl

@[simp] theorem setCall_now (s : TimerSys K I) (th : Thread K I) (c : CallPc K) :
    (s.setCall th c).now = s.now := by
  cases th with
  | task => rfl
  | worker k => simp only [setCall]; split <;> rfl

@[simp] theorem setCall_destroyed (s : TimerSys K I) (th : Thread K I) (c : CallPc K) :
    (s.setCall th c).destroyed = s.destroyed := by
  cases th with
  | task => rfl
  | worker k => simp only [setCall]; split <;> rfl

/-- A call step moves a worker only inside its callback. -/
theorem setCall_worker (s : TimerSys K I) (th : Thread K I) (c : CallPc K) (k : K) :
    (s.setCall th c).worker k = s.worker k ∨
      ∃ d c₀, s.worker k = .callback d c₀ ∧ (s.setCall th c).worker k = .callback d c := by
  cases th with
  | task => exact .inl rfl
  | worker j =>
    simp only [setCall]
    split
    · rename_i d c₀ hj
      by_cases hk : k = j
      · subst hk; exact .inr ⟨d, c₀, hj, by simp⟩
      · exact .inl (by simp [hk])
    · exact .inl rfl

end TimerSys

/-- One step of the timers and tasks. -/
inductive TimerStep : TimerSys K I → TimerEvent K I → TimerSys K I → Prop
  | tick (s) : TimerStep s .tick { s with now := s.now + 1 }
  | call (s th k op) : s.callOf th = some .idle → s.destroyed k = false → op.argCheck = none →
      (∀ j, th = .worker j → op = .delete → k ≠ j) →
      TimerStep s (.call th) (s.setCall th (.lockWait k op))
  | reject (s th k op st) : s.callOf th = some .idle → op.argCheck = some st →
      TimerStep s (.command th k op (.status st)) s
  | acquire (s th k op) : s.callOf th = some (.lockWait k op) → s.owner k = none →
      TimerStep s (.call th)
        { s.setCall th (.holding k op) with owner := Function.update s.owner k (some th) }
  | body (s th k op late) : s.callOf th = some (.holding k op) →
      TimerStep s (.command th k op (op.result (s.timer k))) (s.runBody th k op late)
  | join (s th k) : s.callOf th = some (.joining k) → s.worker k = .exited →
      TimerStep s (.call th)
        { s.setCall th .idle with destroyed := Function.update s.destroyed k true }
  | lock (s k pc) : (s.worker k).reacquire = some pc → s.owner k = none →
      TimerStep s (.loop k) { s with worker := Function.update s.worker k pc,
                                     owner := Function.update s.owner k (some (.worker k)) }
  | run (s k clockOk tm pc) :
      workerBlock (s.timer k) s.now clockOk (s.worker k) = some (tm, pc) →
      TimerStep s (if (s.worker k).isFire then .fire k else .loop k)
        { s with timer := Function.update s.timer k tm, worker := Function.update s.worker k pc,
                 owner := Function.update s.owner k
                   (if pc.holdsMutex then some (.worker k) else none) }
  | wake (s k ret pc) : (s.worker k).wake s.now ret = some pc →
      TimerStep s (.loop k) { s with worker := Function.update s.worker k pc }
  | ret (s k d) : s.worker k = .callback d .idle →
      TimerStep s (.loop k) { s with worker := Function.update s.worker k (.relock d) }

/-- Runs of `TimerStep`, with their traces. -/
inductive TimerRun : TimerSys K I → List (TimerEvent K I) → TimerSys K I → Prop
  | refl (s) : TimerRun s [] s
  | step {s tr s' e s''} : TimerRun s tr s' → TimerStep s' e s'' → TimerRun s (tr ++ [e]) s''

/-- The states that timers created as `tm` reach. -/
def TimerSys.Reachable (tm : K → Timer) (now : Nat) (s : TimerSys K I) : Prop :=
  ∃ tr, TimerRun (TimerSys.init tm now) tr s

theorem TimerRun.append {s s' s'' : TimerSys K I} {tr tr' : List (TimerEvent K I)}
    (h₁ : TimerRun s tr s') (h₂ : TimerRun s' tr' s'') : TimerRun s (tr ++ tr') s'' := by
  induction h₂ with
  | refl => simpa using h₁
  | step _ hs ih => simpa [List.append_assoc] using ih.step hs

/-- A step to `s'` followed by a run from `s'` is a run. -/
theorem TimerRun.head {s s'' : TimerSys K I} {e : TimerEvent K I} {tr : List (TimerEvent K I)}
    (s' : TimerSys K I) (hs : TimerStep s e s') (hr : TimerRun s' tr s'') :
    TimerRun s (e :: tr) s'' := by
  simpa using ((TimerRun.refl s).step hs).append hr

/-- A property that every step keeps holds along every run. -/
theorem TimerRun.preserves {P : TimerSys K I → Prop}
    (hP : ∀ {s e s'}, TimerStep s e s' → P s → P s') {s s' : TimerSys K I}
    {tr : List (TimerEvent K I)} (hr : TimerRun s tr s') (hs : P s) : P s' := by
  induction hr with
  | refl => exact hs
  | step _ hst ih => exact hP hst ih

/-! ## One timer and one task -/

/-- One timer and one task, with the timer's fields, its mutex owner, the worker's and the
task's locations, and the clock. -/
def TimerSys.one (tm : Timer) (owner : Option (Thread Unit Unit)) (worker : WorkerPc Unit)
    (task : CallPc Unit) (now : Nat) : TimerSys Unit Unit :=
  ⟨fun _ => tm, fun _ => owner, fun _ => worker, fun _ => task, fun _ => false, now⟩

/-- From timers fresh from `osal_timer_create` at time `now`, a task's `osal_timer_start`:
the worker leaves its dormant wait, arms the timer and waits on the deadline `now + periodMs`. -/
theorem TimerSys.one_started (periodMs : Nat) (autoReload : Bool) (now : Nat) :
    ∃ tr, TimerRun (TimerSys.init (fun _ => ⟨periodMs, autoReload, false, false, 0⟩) now) tr
      (.one ⟨periodMs, autoReload, true, false, 0⟩ none (.timedWait (now + periodMs)) .idle
        now) := by
  let tm₀ : Timer := ⟨periodMs, autoReload, false, false, 0⟩
  let tm₁ : Timer := ⟨periodMs, autoReload, true, false, 0⟩
  let w : Option (Thread Unit Unit) := some (.worker ())
  exact ⟨_,
    .head (.one tm₀ w .top .idle now) (.lock _ () _ (by rfl) (by rfl)) <|
    .head (.one tm₀ w .dormantTest .idle now) (.run _ () true tm₀ .dormantTest (by rfl)) <|
    .head (.one tm₀ none .dormantWait .idle now) (.run _ () true tm₀ .dormantWait (by rfl)) <|
    .head (.one tm₀ none .dormantWait (.lockWait () .start) now)
      (.call _ (.task ()) () .start (by rfl) (by rfl) (by rfl) fun _ h => nomatch h) <|
    .head (.one tm₀ (some (.task ())) .dormantWait (.holding () .start) now)
      (.acquire _ (.task ()) () .start (by rfl) (by rfl)) <|
    .head (.one tm₁ none .dormantWoken .idle now) (.body _ (.task ()) () .start false (by rfl)) <|
    .head (.one tm₁ w .dormantTest .idle now) (.lock _ () _ (by rfl) (by rfl)) <|
    .head (.one tm₁ w .arm .idle now) (.run _ () true tm₁ .arm (by rfl)) <|
    .head (.one tm₁ w (.innerTest (now + periodMs)) .idle now)
      (.run _ () true tm₁ (.innerTest (now + periodMs)) (by rfl)) <|
    .head (.one tm₁ none (.timedWait (now + periodMs)) .idle now)
      (.run _ () true tm₁ (.timedWait (now + periodMs)) (by rfl)) <| .refl _⟩

end Osal
