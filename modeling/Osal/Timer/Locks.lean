import Osal.Timer.System

/-!
# Lock discipline of the timers

The owner of every timer mutex is the thread whose location says it holds that mutex
(`LockInv`): a task or a callback between taking the mutex and unlocking it in a call, or a
worker in one of the blocks of `osal_timer_thread` that run locked. Every step keeps this
(`TimerStep.lockInv`), and it holds of the created timers, so of every reachable state.

Each location names at most one mutex, so no thread holds two; a thread that waits (for a
mutex, in `pthread_join`, or on its condition variable) holds none; and the worker holds no
mutex while its callback runs, except in a timer call the callback itself makes. So a thread
that waits for a mutex is never the owner another thread waits for, and the waits-for
relation has no cycle: `timer_locks_deadlock_free`.
-/

set_option linter.unusedSectionVars false

namespace Osal

variable {K I : Type} [DecidableEq K] [DecidableEq I]

/-- The mutex a call holds. -/
def CallPc.held : CallPc K → Option K
  | .holding k _ => some k
  | _ => none

/-- The mutex the worker of timer `j` holds at its location. -/
def WorkerPc.held (j : K) : WorkerPc K → Option K
  | .callback _ c => c.held
  | pc => if pc.holdsMutex then some j else none

/-- The mutex a thread holds, read off its location. -/
def TimerSys.heldBy (s : TimerSys K I) : Thread K I → Option K
  | .task i => (s.task i).held
  | .worker j => (s.worker j).held j

/-- The owner of each mutex is the thread that holds it by its location. -/
def Matches {T : Type} (owner : K → Option T) (held : T → Option K) : Prop :=
  ∀ k t, owner k = some t ↔ held t = some k

/-- The lock invariant of the timers. -/
def TimerSys.LockInv (s : TimerSys K I) : Prop := Matches s.owner s.heldBy

section Matches

variable {T : Type} [DecidableEq T] {o : K → Option T} {hd : T → Option K} {k : K} {t : T}

theorem Matches.acquire (hm : Matches o hd) (ho : o k = none) (hh : hd t = none) :
    Matches (Function.update o k (some t)) (Function.update hd t (some k)) := by
  intro k' t'
  by_cases hk : k' = k <;> by_cases ht : t' = t
  · subst hk ht; simp
  · subst hk; simp only [Function.update_same, Function.update_noteq ht, Option.some.injEq]
    constructor
    · intro h; exact absurd h.symm ht
    · intro h; exact absurd ((hm _ _).mpr h) (by simp [ho])
  · subst ht; simp only [Function.update_noteq hk, Function.update_same, Option.some.injEq]
    constructor
    · intro h; exact absurd ((hm _ _).mp h) (by simp [hh])
    · intro h; exact absurd h.symm hk
  · simp only [Function.update_noteq hk, Function.update_noteq ht]; exact hm _ _

theorem Matches.release (hm : Matches o hd) (ho : o k = some t) :
    Matches (Function.update o k none) (Function.update hd t none) := by
  have hh : hd t = some k := (hm _ _).mp ho
  intro k' t'
  by_cases hk : k' = k <;> by_cases ht : t' = t
  · subst hk ht; simp
  · subst hk; simp only [Function.update_same, Function.update_noteq ht, reduceCtorEq,
      false_iff]
    intro h; exact ht (Option.some.inj (((hm _ _).mpr h).symm.trans ho))
  · subst ht; simp only [Function.update_noteq hk, Function.update_same, reduceCtorEq, iff_false]
    intro h; exact hk (Option.some.inj (((hm _ _).mp h).symm.trans hh))
  · simp only [Function.update_noteq hk, Function.update_noteq ht]; exact hm _ _

end Matches

/-! ## How steps move the held mutexes -/

@[simp] theorem WorkerPc.held_signal (pc : WorkerPc K) (j : K) (now : Nat) (late : Bool) :
    (pc.signal now late).held j = pc.held j := by
  cases pc <;> rfl

namespace TimerSys

variable {s : TimerSys K I}

theorem heldBy_of_callOf {th : Thread K I} {c : CallPc K} (hc : s.callOf th = some c) :
    s.heldBy th = c.held := by
  cases th with
  | task i => cases hc; rfl
  | worker j =>
    simp only [callOf] at hc
    split at hc <;> cases hc
    simp [heldBy, WorkerPc.held, *]

theorem heldBy_setCall {th : Thread K I} {c₀ : CallPc K} (hc : s.callOf th = some c₀)
    (c : CallPc K) : (s.setCall th c).heldBy = Function.update s.heldBy th c.held := by
  funext th'
  cases th with
  | task i =>
    cases th' with
    | task i' => by_cases h : i' = i
                 · subst h; simp [setCall, heldBy]
                 · simp [setCall, heldBy, h]
    | worker j => simp [setCall, heldBy]
  | worker j =>
    simp only [callOf] at hc
    split at hc <;> cases hc
    rename_i d _ hj
    cases th' with
    | task i' => simp [setCall, heldBy, hj]
    | worker j' => by_cases h : j' = j
                   · subst h; simp [setCall, heldBy, hj, WorkerPc.held]
                   · simp [setCall, heldBy, hj, h]

theorem heldBy_update_worker (s : TimerSys K I) (k : K) (pc : WorkerPc K) :
    ({ s with worker := Function.update s.worker k pc } : TimerSys K I).heldBy =
      Function.update s.heldBy (.worker k) (pc.held k) := by
  funext th'
  cases th' with
  | task i => rfl
  | worker j => by_cases h : j = k
                · subst h; simp [heldBy]
                · simp [heldBy, h]

/-- Moving a worker to a location where it holds what it held leaves `heldBy` alone. -/
theorem heldBy_update_worker_of_held (s : TimerSys K I) (k : K) (pc : WorkerPc K)
    (h : pc.held k = s.heldBy (.worker k)) :
    ({ s with worker := Function.update s.worker k pc } : TimerSys K I).heldBy = s.heldBy := by
  rw [heldBy_update_worker, h, Function.update_eq_self]

/-- A call step that leaves the thread holding what it held leaves `heldBy` alone. -/
theorem heldBy_setCall_of_held {th : Thread K I} {c₀ : CallPc K} (hc : s.callOf th = some c₀)
    (c : CallPc K) (hh : c.held = c₀.held) : (s.setCall th c).heldBy = s.heldBy := by
  rw [heldBy_setCall hc, hh, ← heldBy_of_callOf hc, Function.update_eq_self]

/-- States whose tasks agree and whose workers hold the same mutexes agree on `heldBy`. -/
theorem heldBy_congr {s' : TimerSys K I} (ht : s'.task = s.task)
    (hw : ∀ j, (s'.worker j).held j = (s.worker j).held j) : s'.heldBy = s.heldBy := by
  funext th'
  cases th' with
  | task i => simp [heldBy, ht]
  | worker j => exact hw j

theorem heldBy_runBody {th : Thread K I} {k : K} {op : TimerOp} {late : Bool}
    (hc : s.callOf th = some (.holding k op)) :
    (s.runBody th k op late).heldBy = Function.update s.heldBy th none := by
  have hs₁ := heldBy_setCall hc (if op = .delete then .joining k else .idle)
  have hnone : (if op = TimerOp.delete then CallPc.joining k else .idle).held = none := by
    split <;> rfl
  rw [hnone] at hs₁
  rw [← hs₁]
  refine heldBy_congr rfl fun j => ?_
  simp only [runBody]
  split
  · by_cases h : j = k
    · subst h; simp only [Function.update_same, WorkerPc.held_signal]
    · simp [h]
  · rfl

end TimerSys

theorem WorkerPc.held_of_reacquire {pc pc' : WorkerPc K} (j : K) (h : pc.reacquire = some pc') :
    pc.held j = none ∧ pc'.held j = some j := by
  cases pc <;> simp only [reacquire, reduceCtorEq, Option.some.injEq] at h <;> subst h <;>
    simp [held, holdsMutex]

theorem WorkerPc.held_of_wake {pc pc' : WorkerPc K} {now : Nat} {ret : WaitRet} (j : K)
    (h : pc.wake now ret = some pc') : pc.held j = none ∧ pc'.held j = none := by
  cases pc <;> simp only [wake, reduceCtorEq] at h
  · cases h; simp [held, holdsMutex]
  · split at h <;> cases h; simp [held, holdsMutex]

theorem held_of_workerBlock {tm tm' : Timer} {now : Nat} {clockOk : Bool} {pc pc' : WorkerPc K}
    (j : K) (h : workerBlock tm now clockOk pc = some (tm', pc')) :
    pc.held j = some j ∧ pc'.held j = if pc'.holdsMutex then some j else none := by
  have hp := holdsMutex_of_workerBlock h
  refine ⟨by cases pc <;> simp_all [WorkerPc.held, WorkerPc.holdsMutex], ?_⟩
  unfold workerBlock at h
  split at h <;> (try split_ifs at h) <;> cases h <;>
    simp [WorkerPc.held, WorkerPc.holdsMutex, CallPc.held]

/-- Every step keeps the lock invariant. -/
theorem TimerStep.lockInv {s s' : TimerSys K I} {e : TimerEvent K I} (hs : TimerStep s e s')
    (h : s.LockInv) : s'.LockInv := by
  cases hs with
  | tick => exact h
  | reject => exact h
  | call th k op hc =>
    show Matches (s.setCall th _).owner (s.setCall th _).heldBy
    rw [TimerSys.heldBy_setCall_of_held hc (.lockWait k op) rfl, TimerSys.setCall_owner]
    exact h
  | acquire th k op hc ho =>
    show Matches (Function.update s.owner k (some th)) (s.setCall th (.holding k op)).heldBy
    rw [TimerSys.heldBy_setCall hc]
    exact h.acquire ho (TimerSys.heldBy_of_callOf hc)
  | body th k op late hc =>
    show Matches (Function.update s.owner k none) (s.runBody th k op late).heldBy
    rw [TimerSys.heldBy_runBody hc]
    exact h.release ((h _ _).mpr (TimerSys.heldBy_of_callOf hc))
  | join th k hc =>
    show Matches (s.setCall th .idle).owner (s.setCall th .idle).heldBy
    rw [TimerSys.heldBy_setCall_of_held hc .idle rfl, TimerSys.setCall_owner]
    exact h
  | lock k pc hr ho =>
    obtain ⟨h₀, h₁⟩ := WorkerPc.held_of_reacquire k hr
    show Matches (Function.update s.owner k (some (.worker k)))
      ({ s with worker := Function.update s.worker k pc } : TimerSys K I).heldBy
    rw [TimerSys.heldBy_update_worker, h₁]
    exact h.acquire ho h₀
  | run k clockOk tm pc hb =>
    obtain ⟨h₀, h₁⟩ := held_of_workerBlock k hb
    have ho : s.owner k = some (.worker k) := (h _ _).mpr h₀
    show Matches (Function.update s.owner k (if pc.holdsMutex then some (.worker k) else none))
      ({ s with worker := Function.update s.worker k pc } : TimerSys K I).heldBy
    split
    · have hpc : pc.held k = s.heldBy (.worker k) := (h₁.trans (if_pos ‹_›)).trans h₀.symm
      rw [TimerSys.heldBy_update_worker_of_held _ _ _ hpc, ← ho, Function.update_eq_self]
      exact h
    · rw [TimerSys.heldBy_update_worker, h₁, if_neg ‹_›]
      exact h.release ho
  | wake k ret pc hw =>
    obtain ⟨h₀, h₁⟩ := WorkerPc.held_of_wake k hw
    show Matches s.owner ({ s with worker := Function.update s.worker k pc } : TimerSys K I).heldBy
    rw [TimerSys.heldBy_update_worker_of_held _ _ _ (h₁.trans h₀.symm)]
    exact h
  | ret k d hw =>
    show Matches s.owner
      ({ s with worker := Function.update s.worker k (.relock d) } : TimerSys K I).heldBy
    rw [TimerSys.heldBy_update_worker_of_held _ _ _
      (by simp [TimerSys.heldBy, hw, WorkerPc.held, WorkerPc.holdsMutex, CallPc.held])]
    exact h

theorem TimerSys.lockInv_init (tm : K → Timer) (now : Nat) :
    (TimerSys.init tm now : TimerSys K I).LockInv := by
  intro k th
  cases th <;> simp [init, heldBy, WorkerPc.held, WorkerPc.holdsMutex, CallPc.held]

/-! ## No deadlock -/

namespace TimerSys

variable {s : TimerSys K I}

/-- Thread `th` waits to take the mutex of timer `k`: in the `pthread_mutex_lock` of a call,
or as the worker of `k` taking its mutex back. -/
def WaitsFor (s : TimerSys K I) (th : Thread K I) (k : K) : Prop :=
  (∃ op, s.callOf th = some (.lockWait k op)) ∨
    th = .worker k ∧ ((s.worker k).reacquire).isSome = true

/-- `th` waits for a mutex that `th'` holds. -/
def WaitsOn (s : TimerSys K I) (th th' : Thread K I) : Prop :=
  ∃ k, s.WaitsFor th k ∧ s.owner k = some th'

/-- `th` is blocked: waiting for a mutex, in `pthread_join`, or, as a worker, on its
condition variable. -/
def Blocked (s : TimerSys K I) (th : Thread K I) : Prop :=
  (∃ k, s.WaitsFor th k) ∨ (∃ k, s.callOf th = some (.joining k)) ∨
    ∃ j, th = .worker j ∧ (s.worker j = .dormantWait ∨ ∃ d, s.worker j = .timedWait d)

theorem heldBy_of_blocked {th : Thread K I} (hb : s.Blocked th) : s.heldBy th = none := by
  rcases hb with ⟨k, ⟨op, hc⟩ | ⟨rfl, hr⟩⟩ | ⟨k, hc⟩ | ⟨j, rfl, hw | ⟨d, hw⟩⟩
  · rw [heldBy_of_callOf hc]; rfl
  · obtain ⟨pc, hpc⟩ := Option.isSome_iff_exists.mp hr
    exact (WorkerPc.held_of_reacquire k hpc).1
  · rw [heldBy_of_callOf hc]; rfl
  · simp [heldBy, hw, WorkerPc.held, WorkerPc.holdsMutex]
  · simp [heldBy, hw, WorkerPc.held, WorkerPc.holdsMutex]

/-- A thread waiting for a mutex holds none, so it waits on no one who waits. -/
theorem not_waitsOn_of_waitsOn (h : s.LockInv) {th th' th'' : Thread K I}
    (h₁ : s.WaitsOn th th') : ¬s.WaitsOn th' th'' := by
  rintro ⟨k', hw, -⟩
  obtain ⟨k, -, ho⟩ := h₁
  have := heldBy_of_blocked (.inl ⟨k', hw⟩)
  rw [(h _ _).mp ho] at this
  cases this

theorem not_transGen_waitsOn (h : s.LockInv) (th : Thread K I) :
    ¬Relation.TransGen s.WaitsOn th th := by
  intro hc
  obtain ⟨u, h₁, h₂⟩ := Relation.TransGen.head'_iff.mp hc
  rcases Relation.ReflTransGen.cases_head h₂ with rfl | ⟨v, h₃, -⟩
  · exact not_waitsOn_of_waitsOn h h₁ h₁
  · exact not_waitsOn_of_waitsOn h h₁ h₃

end TimerSys

/-- In every state that tasks and workers reach from created timers, a thread holds at most
one timer mutex, a blocked thread holds none (the condition waits release theirs), a worker
running its callback holds only the mutex of the call that callback is making, and no cycle
of threads each waits for a mutex the next one holds. -/
theorem timer_locks_deadlock_free {tm : K → Timer} {now : Nat} {tr : List (TimerEvent K I)}
    {s : TimerSys K I} (hr : TimerRun (TimerSys.init tm now) tr s) :
    (∀ th k k', s.owner k = some th → s.owner k' = some th → k = k') ∧
    (∀ th, s.Blocked th → ∀ k, s.owner k ≠ some th) ∧
    (∀ j d c k, s.worker j = .callback d c → s.owner k = some (.worker j) →
      ∃ op, c = .holding k op) ∧
    ∀ th, ¬Relation.TransGen s.WaitsOn th th := by
  have h : s.LockInv := hr.preserves TimerStep.lockInv (TimerSys.lockInv_init tm now)
  refine ⟨fun th k k' hk hk' => ?_, fun th hb k ho => ?_, fun j d c k hw ho => ?_,
    TimerSys.not_transGen_waitsOn h⟩
  · exact Option.some.inj (((h _ _).mp hk).symm.trans ((h _ _).mp hk'))
  · have := (h _ _).mp ho
    rw [TimerSys.heldBy_of_blocked hb] at this
    cases this
  · have := (h _ _).mp ho
    simp only [TimerSys.heldBy, hw, WorkerPc.held] at this
    cases c <;> simp only [CallPc.held, reduceCtorEq, Option.some.injEq] at this
    exact ⟨_, by rw [this]⟩


/-- An auto-reload timer of period 1 ms is started at time 0 and expires at time 1. Its
callback calls `osal_timer_stop` on its own timer and takes the timer's mutex, so that the
worker's thread holds the mutex of the call its callback makes; the lock properties of
`timer_locks_deadlock_free` hold there. -/
theorem timer_locks_deadlock_free_callback_stop :
    let s : TimerSys Unit Unit :=
      .one ⟨1, true, true, false, 0⟩ (some (.worker ())) (.callback 2 (.holding () .stop)) .idle 1
    (∃ tr, TimerRun (TimerSys.init (fun _ => ⟨1, true, false, false, 0⟩) 0) tr s) ∧
    (∀ th k k', s.owner k = some th → s.owner k' = some th → k = k') ∧
    (∀ th, s.Blocked th → ∀ k, s.owner k ≠ some th) ∧
    (∀ j d c k, s.worker j = .callback d c → s.owner k = some (.worker j) →
      ∃ op, c = .holding k op) ∧
    ∀ th, ¬Relation.TransGen s.WaitsOn th th := by
  let tm₁ : Timer := ⟨1, true, true, false, 0⟩
  let w : Option (Thread Unit Unit) := some (.worker ())
  obtain ⟨_, h₀⟩ := TimerSys.one_started 1 true 0
  have hr := h₀.append <|
    .head (.one tm₁ none (.timedWait 1) .idle 1) (.tick _) <|
    .head (.one tm₁ none (.timedWoken 1 .timedOut) .idle 1) (.wake _ () .timedOut _ (by rfl)) <|
    .head (.one tm₁ w (.afterWait 1 .timedOut) .idle 1) (.lock _ () _ (by rfl) (by rfl)) <|
    .head (.one tm₁ none (.callback 2 .idle) .idle 1)
      (.run _ () true tm₁ (.callback 2 .idle) (by rfl)) <|
    .head (.one tm₁ none (.callback 2 (.lockWait () .stop)) .idle 1)
      (.call _ (.worker ()) () .stop (by rfl) (by rfl) (by rfl) fun _ _ h => nomatch h) <|
    .head (.one tm₁ w (.callback 2 (.holding () .stop)) .idle 1)
      (.acquire _ (.worker ()) () .stop (by rfl) (by rfl)) <| .refl _
  exact ⟨⟨_, hr⟩, timer_locks_deadlock_free hr⟩

end Osal
