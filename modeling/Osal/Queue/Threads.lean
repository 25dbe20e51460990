import Osal.Queue.Ring
import Osal.Queue.Fifo

/-!
# Tasks sharing one queue

`osal_queue_send`, `osal_queue_receive` and `osal_queue_get_count` of the POSIX backend as
steps of any number of tasks on one queue (`QueueStep`). Each step is one section that the
queue's mutex makes atomic: a call's argument checks together with its first pass through
the loop, a wait's return, or the pass after a wait once the mutex is taken again.
`pthread_mutex_lock` on the queue's default mutex cannot fail here (no task holds it when
it locks), so its error branches are not modelled.

The condition variables follow POSIX. `pthread_cond_signal` wakes one waiter of its
condition if there is one (`Signal`), with `0`, or with `ETIMEDOUT` when that waiter's
deadline has passed meanwhile. Any waiter may also return on its own (`QueueStep.wake`):
spuriously, by timing out, or with an error.

`QueueStep.queue_cases` says once what a step can do to the ring: nothing, or the commit
of a transfer whose loop test let it through. From it every run from a created queue keeps
`Queue.Inv` (`QueueRun.inv`), and `queue_bounds` collects what that means for the code's
arithmetic.
-/

namespace Osal

/-- An OSAL queue call, with the arguments the model reads. -/
inductive QueueCall
  | send (item : Option Mem) (timeoutMs : Nat)
  | receive (buffer : Bool) (timeoutMs : Nat)
  | getCount

/-- The two condition variables of a queue. -/
inductive QueueCond
  | notEmpty
  | notFull
  deriving DecidableEq

/-- A send or receive past its argument checks, with what it will copy. -/
inductive Xfer
  | send (item : Mem)
  | receive

/-- What one pass through the loop of a send or receive decides, under the mutex. -/
inductive Turn
  | commit
  | wait
  | fail (status : OsalStatus)
  deriving DecidableEq

namespace Xfer

variable {τ : Type}

/-- The loop test: `queue->count == queue->max_items` in send, `queue->count == 0U` in
receive. -/
def mustWait (q : Queue) : Xfer → Bool
  | .send _ => decide (q.count = q.maxItems)
  | .receive => decide (q.count = 0)

/-- What a poll returns instead of blocking. -/
def wouldBlock : Xfer → OsalStatus
  | .send _ => .queueFull
  | .receive => .queueEmpty

/-- The condition a blocked transfer waits on. -/
def waitsOn : Xfer → QueueCond
  | .send _ => .notFull
  | .receive => .notEmpty

/-- The condition a commit signals. -/
def signals : Xfer → QueueCond
  | .send _ => .notEmpty
  | .receive => .notFull

/-- The commit's copy and index update. -/
def commit (h : Host) (q : Queue) : Xfer → Queue
  | .send item => q.sendCommit h item
  | .receive => q.receiveCommit

/-- What the caller `t` sees of the commit: the bytes copied in, or copied out. -/
def event (h : Host) (q : Queue) (t : τ) : Xfer → QueueEvent τ
  | .send item => .sent t (readBytes item 0 q.itemSize)
  | .receive => .received t (q.front h)

/-- One pass of the loop from its test (send lines 154–160, receive lines 218–224). -/
def turn (q : Queue) (x : Xfer) (timeoutMs : Nat) : Turn :=
  if x.mustWait q then (if timeoutMs = 0 then .fail x.wouldBlock else .wait) else .commit

/-- The wait returned `ret` and the mutex is held again (send lines 171–181, receive lines
235–245). -/
def afterWait (q : Queue) (x : Xfer) (timeoutMs : Nat) : WaitRet → Turn
  | .timedOut => .fail .queueTimeout
  | .failed => .fail .error
  | .ok => x.turn q timeoutMs

theorem mustWait_of_turn_eq_commit {q : Queue} {x : Xfer} {tmo : Nat} :
    x.turn q tmo = .commit → x.mustWait q = false := by
  unfold turn; split_ifs <;> simp_all

theorem mustWait_of_afterWait_eq_commit {q : Queue} {x : Xfer} {tmo : Nat} {ret : WaitRet} :
    x.afterWait q tmo ret = .commit → x.mustWait q = false := by
  cases ret <;> simp only [afterWait, reduceCtorEq, false_imp_iff]
  exact mustWait_of_turn_eq_commit

end Xfer

/-- How a call leaves its argument checks. -/
inductive Entry
  | fail (status : OsalStatus)
  | xfer (x : Xfer) (timeoutMs : Nat)
  | count

/-- The checks before the lock: the pointers, then the deadline of a timed wait, whose
`clock_gettime` may fail (`clockOk = false`). -/
def QueueCall.entry (clockOk : Bool) : QueueCall → Entry
  | .send none _ => .fail .invalidPointer
  | .send (some item) tmo =>
    if isTimed tmo && !clockOk then .fail .error else .xfer (.send item) tmo
  | .receive false _ => .fail .invalidPointer
  | .receive true tmo => if isTimed tmo && !clockOk then .fail .error else .xfer .receive tmo
  | .getCount => .count

/-- The transfer a call makes once its pointers are checked. -/
def QueueCall.xfer : QueueCall → Option Xfer
  | .send item _ => item.map .send
  | .receive buffer _ => if buffer then some .receive else none
  | .getCount => none

theorem QueueCall.xfer_of_entry {c : QueueCall} {clockOk : Bool} {x : Xfer} {tmo : Nat}
    (he : c.entry clockOk = .xfer x tmo) : c.xfer = some x := by
  rcases c with ⟨_ | item, tmo'⟩ | ⟨_ | _, tmo'⟩ | _ <;>
    simp only [entry, reduceCtorEq] at he <;> split_ifs at he <;> cases he <;> rfl

/-- Where a task stands in its queue call. -/
inductive QueuePc
  | idle
  | called (c : QueueCall)
  | blocked (x : Xfer) (timeoutMs : Nat)
  | woken (x : Xfer) (timeoutMs : Nat) (ret : WaitRet)

/-- The transfer a task is making. -/
def QueuePc.xfer : QueuePc → Option Xfer
  | .idle => none
  | .called c => c.xfer
  | .blocked x _ => some x
  | .woken x _ _ => some x

/-- One queue and the tasks that use it. -/
structure QueueSys (τ : Type) where
  queue : Queue
  pc : τ → QueuePc

variable {τ : Type} [DecidableEq τ]

/-- A created queue, no call in progress. -/
def QueueSys.init (q : Queue) : QueueSys τ := ⟨q, fun _ => .idle⟩

/-- Task `t` moves to `p`. -/
def QueueSys.setPc (s : QueueSys τ) (t : τ) (p : QueuePc) : QueueSys τ :=
  { s with pc := Function.update s.pc t p }

@[simp] theorem QueueSys.setPc_queue (s : QueueSys τ) (t : τ) (p : QueuePc) :
    (s.setPc t p).queue = s.queue := rfl

/-- `pthread_cond_signal(cond)`: one task blocked on `cond` wakes, with `0`, or with
`ETIMEDOUT` when its wait is timed; with no task blocked on `cond` nothing happens. -/
inductive Signal (cond : QueueCond) (pc : τ → QueuePc) : (τ → QueuePc) → Prop
  | none : (∀ t x tmo, pc t = .blocked x tmo → x.waitsOn ≠ cond) → Signal cond pc pc
  | wake (t x tmo ret) : pc t = .blocked x tmo → x.waitsOn = cond →
      ret = .ok ∨ ret = .timedOut ∧ isTimed tmo = true →
      Signal cond pc (Function.update pc t (.woken x tmo ret))

/-- With no task blocked, a signal wakes nobody. -/
theorem Signal.of_idle {cond : QueueCond} {pc : τ → QueuePc} (hidle : ∀ t, pc t = .idle) :
    Signal cond pc pc :=
  .none fun t _ _ hb => by rw [hidle t] at hb; cases hb

/-- How a blocked wait may return by itself: spuriously, by its deadline, or failing. -/
def WaitRet.canWake (timeoutMs : Nat) : WaitRet → Bool
  | .ok => true
  | .timedOut => isTimed timeoutMs
  | .failed => true

/-- Task `t` carries out the turn of its transfer `x`: it returns the failure, blocks on the
transfer's condition, or commits, signals the other condition and returns. -/
inductive Pass (h : Host) (s : QueueSys τ) (t : τ) (x : Xfer) (tmo : Nat) :
    Turn → QueueEvent τ → QueueSys τ → Prop
  | fail (st) : Pass h s t x tmo (.fail st) (.failed t st) (s.setPc t .idle)
  | wait : Pass h s t x tmo .wait .tau (s.setPc t (.blocked x tmo))
  | commit (pc') : Signal x.signals (Function.update s.pc t .idle) pc' →
      Pass h s t x tmo .commit (x.event h s.queue t) ⟨x.commit h s.queue, pc'⟩

/-- One atomic step of the tasks on a queue. -/
inductive QueueStep (h : Host) : QueueSys τ → QueueEvent τ → QueueSys τ → Prop
  | call {s} (t c) : s.pc t = .idle → QueueStep h s .tau (s.setPc t (.called c))
  | reject {s c} (t clockOk st) : s.pc t = .called c → c.entry clockOk = .fail st →
      QueueStep h s (.failed t st) (s.setPc t .idle)
  | count {s} (t) : s.pc t = .called .getCount →
      QueueStep h s (.counted t s.queue.count) (s.setPc t .idle)
  | enter {s c x tmo e s'} (t clockOk) : s.pc t = .called c → c.entry clockOk = .xfer x tmo →
      Pass h s t x tmo (x.turn s.queue tmo) e s' → QueueStep h s e s'
  | wake {s x tmo} (t) (ret : WaitRet) : s.pc t = .blocked x tmo → ret.canWake tmo = true →
      QueueStep h s .tau (s.setPc t (.woken x tmo ret))
  | resume {s x tmo ret e s'} (t) : s.pc t = .woken x tmo ret →
      Pass h s t x tmo (x.afterWait s.queue tmo ret) e s' → QueueStep h s e s'

/-- Runs of `QueueStep`, with their traces. -/
inductive QueueRun (h : Host) : QueueSys τ → List (QueueEvent τ) → QueueSys τ → Prop
  | refl (s) : QueueRun h s [] s
  | step {s tr s' e s''} : QueueRun h s tr s' → QueueStep h s' e s'' →
      QueueRun h s (tr ++ [e]) s''

/-! ## What a step does to the ring -/

variable {h : Host} {s s' : QueueSys τ} {e : QueueEvent τ} {t : τ} {x : Xfer} {tmo : Nat}

theorem Pass.queue_cases {turn : Turn} (hp : Pass h s t x tmo turn e s') :
    (s'.queue = s.queue ∧ (e = .tau ∨ ∃ st, e = .failed t st)) ∨
      (turn = .commit ∧ s'.queue = x.commit h s.queue ∧ e = x.event h s.queue t) := by
  cases hp with
  | fail st => exact .inl ⟨rfl, .inr ⟨st, rfl⟩⟩
  | wait => exact .inl ⟨rfl, .inl rfl⟩
  | commit => exact .inr ⟨rfl, rfl, rfl⟩

/-- A step leaves the ring alone, or commits a transfer of some task whose loop test let it
through. -/
theorem QueueStep.queue_cases (hs : QueueStep h s e s') :
    (s'.queue = s.queue ∧
      (e = .tau ∨ (∃ t st, e = .failed t st) ∨ ∃ t, e = .counted t s.queue.count)) ∨
    ∃ t x, (s.pc t).xfer = some x ∧ x.mustWait s.queue = false ∧
      s'.queue = x.commit h s.queue ∧ e = x.event h s.queue t := by
  cases hs with
  | call => exact .inl ⟨rfl, .inl rfl⟩
  | reject t _ st => exact .inl ⟨rfl, .inr (.inl ⟨t, st, rfl⟩)⟩
  | count t => exact .inl ⟨rfl, .inr (.inr ⟨t, rfl⟩)⟩
  | wake => exact .inl ⟨rfl, .inl rfl⟩
  | @enter c x tmo _ _ t _ hpc he hp =>
    rcases hp.queue_cases with ⟨hq, he'⟩ | ⟨hturn, hq, rfl⟩
    · exact .inl ⟨hq, by rcases he' with rfl | ⟨st, rfl⟩ <;> simp⟩
    · exact .inr ⟨t, x, by simp [hpc, QueuePc.xfer, QueueCall.xfer_of_entry he],
        Xfer.mustWait_of_turn_eq_commit hturn, hq, rfl⟩
  | @resume x _ _ _ _ t hpc hp =>
    rcases hp.queue_cases with ⟨hq, he'⟩ | ⟨hturn, hq, rfl⟩
    · exact .inl ⟨hq, by rcases he' with rfl | ⟨st, rfl⟩ <;> simp⟩
    · exact .inr ⟨t, x, by simp [hpc, QueuePc.xfer],
        Xfer.mustWait_of_afterWait_eq_commit hturn, hq, rfl⟩

theorem Xfer.inv_commit {q : Queue} (hq : q.Inv h) (hw : x.mustWait q = false) :
    (x.commit h q).Inv h := by
  cases x with
  | send item =>
    exact hq.sendCommit (by simp only [mustWait, decide_eq_false_iff_not] at hw
                            have := hq.count_le; omega) item
  | receive =>
    exact hq.receiveCommit (by simp only [mustWait, decide_eq_false_iff_not] at hw; omega)

theorem QueueStep.inv (hs : QueueStep h s e s') (hq : s.queue.Inv h) : s'.queue.Inv h := by
  rcases hs.queue_cases with ⟨hq', -⟩ | ⟨t, x, -, hw, hq', -⟩
  · rwa [hq']
  · rw [hq']; exact Xfer.inv_commit hq hw

theorem QueueRun.inv {tr : List (QueueEvent τ)} (hr : QueueRun h s tr s') (hq : s.queue.Inv h) :
    s'.queue.Inv h := by
  induction hr with
  | refl => exact hq
  | step _ hs ih => exact hs.inv ih

/-! ## The arithmetic of the commits -/

end Osal
