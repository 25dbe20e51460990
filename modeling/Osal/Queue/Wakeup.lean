import Osal.Queue.Threads

/-!
# A timed-out wait that swallows a wake-up

`osal_queue_receive` returns `OSAL_QUEUE_TIMEOUT` as soon as `pthread_cond_timedwait`
returns `ETIMEDOUT` (lines 235–239), without testing `count` again and without passing the
wake-up on. POSIX lets a timed waiter whose deadline passes while a signal is sent consume that
signal and still return `ETIMEDOUT`. With two receivers blocked, one timed and one not, a
send that signals the timed one leaves an item in the queue and the other receiver blocked
with no wake-up to come: `queue_timeout_swallows_wakeup`.
-/

namespace Osal

variable {τ : Type} [DecidableEq τ]

/-- Every task is idle or blocked on a condition: none is running, woken, or waiting for the
mutex. -/
def QueueSys.Quiescent (s : QueueSys τ) : Prop :=
  ∀ t, s.pc t = .idle ∨ ∃ x tmo, s.pc t = .blocked x tmo

/-- A task stays blocked that the queue's state should have released: a receiver while the
queue holds an item, or a sender while it has room. -/
def QueueSys.LostWakeup (s : QueueSys τ) : Prop :=
  (∃ t tmo, s.pc t = .blocked .receive tmo ∧ 0 < s.queue.count) ∨
  (∃ t item tmo, s.pc t = .blocked (.send item) tmo ∧ s.queue.count < s.queue.maxItems)

/-- On a queue of three 4-byte items, task 0 receives with a 50 ms timeout and task 1 with
`OSAL_MAX_DELAY`, both block; task 2 sends, and its signal reaches task 0 as its deadline
passes. Task 0 returns `OSAL_QUEUE_TIMEOUT`, and task 1 stays blocked on a queue that holds
an item. -/
theorem queue_timeout_swallows_wakeup :
    ∃ q, queueCreate Host.lp64 true none 3 4 (some fun _ => 0) = .ok q ∧
      ∃ tr, ∃ s : QueueSys (Fin 3), QueueRun Host.lp64 (QueueSys.init q) tr s ∧
        s.Quiescent ∧ s.LostWakeup := by
  refine ⟨_, rfl, _, _,
    .step (.step (.step (.step (.step (.step (.step (.refl _)
      (.call 0 (.receive true 50) rfl))
      (.enter 0 true rfl rfl .wait))
      (.call 1 (.receive true maxDelay) rfl))
      (.enter 1 true rfl rfl .wait))
      (.call 2 (.send (some fun _ => 7) 0) rfl))
      (.enter 2 true rfl rfl (.commit _ (.wake 0 .receive 50 .timedOut rfl rfl (.inr ⟨rfl, rfl⟩)))))
      (.resume 0 rfl (.fail .queueTimeout)), ?_, ?_⟩
  · rintro ⟨_ | _ | _ | n, hn⟩
    · exact .inl rfl
    · exact .inr ⟨_, _, rfl⟩
    · exact .inl rfl
    · omega
  · exact .inl ⟨1, maxDelay, rfl, by decide⟩

end Osal
