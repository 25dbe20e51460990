import Osal.Queue.Threads

/-!
# The ring refines a bounded FIFO

Under the view `Queue.items`, every step of the tasks on a queue is a step of the bounded
FIFO of `Osal.Queue.Fifo` (`QueueStep.fifoStep`): the commit of a send appends the
`item_size` bytes its caller passed, the commit of a receive copies out the front item and
drops it, and every other step, whatever it returns, leaves the items alone; `get_count`
reports their number. Whole runs from a created queue are then runs of the FIFO from empty
(`QueueRun.fifoRun`), and `queue_refines_fifo` collects what this gives: bounded contents of
fixed-size items, and received items that are a prefix of the sent ones.
-/

namespace Osal

variable {τ : Type} [DecidableEq τ] {h : Host} {s s' : QueueSys τ} {e : QueueEvent τ}

theorem QueueStep.maxItems_eq (hs : QueueStep h s e s') :
    s'.queue.maxItems = s.queue.maxItems := by
  rcases hs.queue_cases with ⟨hq, -⟩ | ⟨t, x, -, -, hq, -⟩ <;> rw [hq]
  cases x <;> rfl

theorem QueueStep.itemSize_eq (hs : QueueStep h s e s') :
    s'.queue.itemSize = s.queue.itemSize := by
  rcases hs.queue_cases with ⟨hq, -⟩ | ⟨t, x, -, -, hq, -⟩ <;> rw [hq]
  cases x <;> rfl

/-- From a state with the ring invariant, a step is a step of the bounded FIFO on the
items. -/
theorem QueueStep.fifoStep (hs : QueueStep h s e s') (hq : s.queue.Inv h) :
    FifoStep s.queue.maxItems s.queue.items e s'.queue.items := by
  rcases hs.queue_cases with ⟨hq', he⟩ | ⟨t, x, -, hw, hq', rfl⟩ <;> rw [hq']
  · rcases he with rfl | ⟨t, st, rfl⟩ | ⟨t, rfl⟩
    · exact .tau _
    · exact .failed _ _ _
    · rw [← Queue.length_items]; exact .counted _ _
  · cases x with
    | send item =>
      have hlt : s.queue.count < s.queue.maxItems := by
        simp only [Xfer.mustWait, decide_eq_false_iff_not] at hw; have := hq.count_le; omega
      rw [Xfer.commit, Queue.items_sendCommit hq hlt]
      exact .sent _ _ _ (by simpa using hlt)
    | receive =>
      have hpos : 0 < s.queue.count := by
        simp only [Xfer.mustWait, decide_eq_false_iff_not] at hw; omega
      rw [Xfer.commit, Xfer.event, Queue.items_receiveCommit hq hpos]
      exact .received _ _ _

/-- A successful send delivers the `item_size` bytes at the item pointer of its caller. -/
theorem QueueStep.sent_eq (hs : QueueStep h s e s') {t : τ} {x : List UInt8}
    (he : e = .sent t x) :
    ∃ item, (s.pc t).xfer = some (.send item) ∧ x = readBytes item 0 s.queue.itemSize := by
  rcases hs.queue_cases with ⟨-, rfl | ⟨_, _, rfl⟩ | ⟨_, rfl⟩⟩ | ⟨u, y, hpc, -, -, rfl⟩
  all_goals try cases he
  cases y with
  | receive => cases he
  | send item =>
    obtain ⟨rfl, rfl⟩ := QueueEvent.sent.inj he
    exact ⟨item, hpc, rfl⟩

theorem QueueRun.fifoRun {tr : List (QueueEvent τ)} (hr : QueueRun h s tr s')
    (hq : s.queue.Inv h) : FifoRun s.queue.maxItems s.queue.items tr s'.queue.items ∧
      s'.queue.maxItems = s.queue.maxItems ∧ s'.queue.itemSize = s.queue.itemSize := by
  induction hr with
  | refl => exact ⟨.refl _, rfl, rfl⟩
  | step hr hs ih =>
    obtain ⟨hrun, hm, hn⟩ := ih
    refine ⟨.step hrun (hm ▸ hs.fifoStep (hr.inv hq)), ?_, ?_⟩
    · rw [hs.maxItems_eq, hm]
    · rw [hs.itemSize_eq, hn]

/-- Every run of tasks on a created queue is a run of the bounded FIFO of `max_items` items
of `item_size` bytes from empty, every step it can take next is a FIFO step in which a send
delivers its caller's bytes, and the items received are a prefix of the items sent. -/
theorem queue_refines_fifo {queueId : Bool} {name : Option (List UInt8)}
    {maxItems itemSize : UInt32} {resources : Option Mem} {q0 : Queue}
    (hc : queueCreate h queueId name maxItems itemSize resources = .ok q0)
    {tr : List (QueueEvent τ)} {s : QueueSys τ} (hr : QueueRun h (QueueSys.init q0) tr s) :
    FifoRun maxItems.toNat [] tr s.queue.items ∧
    s.queue.items.length ≤ maxItems.toNat ∧
    (∀ x ∈ s.queue.items, x.length = itemSize.toNat) ∧
    (∀ e s', QueueStep h s e s' →
      FifoStep maxItems.toNat s.queue.items e s'.queue.items ∧
      ∀ t x, e = .sent t x →
        ∃ item, (s.pc t).xfer = some (.send item) ∧ x = readBytes item 0 itemSize.toNat) ∧
    receivedItems tr <+: sentItems tr := by
  obtain ⟨-, -, -, buffer, rfl⟩ := queueCreate_eq_ok hc
  have hq := hr.inv (queueCreate_inv hc)
  obtain ⟨hrun, hm, hn⟩ := hr.fifoRun (queueCreate_inv hc)
  simp only [QueueSys.init, Queue.items, List.range_zero, List.map_nil] at hrun hm hn
  refine ⟨hrun, ?_, fun x hx => hn ▸ Queue.length_of_mem_items hx,
    fun e s' hs => ⟨hm ▸ hs.fifoStep hq, fun t x he => hn ▸ hs.sent_eq he⟩,
    hrun.received_prefix⟩
  simpa [hm] using hq.count_le

/-- On a queue of three 4-byte items, task 0 sends the item `7 7 7 7` and task 1 then
receives it: `queue_refines_fifo` along that run, whose one received item is its one sent
item. -/
theorem queue_refines_fifo_send_receive :
    queueCreate Host.lp64 true none 3 4 (some fun _ => 0) = .ok ⟨fun _ => 0, 4, 3, 0, 0, 0⟩ ∧
    ∃ (tr : List (QueueEvent Nat)) (s : QueueSys Nat),
      QueueRun Host.lp64 (QueueSys.init ⟨fun _ => 0, 4, 3, 0, 0, 0⟩) tr s ∧
      sentItems tr = [[7, 7, 7, 7]] ∧ receivedItems tr = [[7, 7, 7, 7]] ∧
      FifoRun (UInt32.toNat 3) [] tr s.queue.items ∧
      s.queue.items.length ≤ (3 : UInt32).toNat ∧
      (∀ x ∈ s.queue.items, x.length = (4 : UInt32).toNat) ∧
      (∀ e s', QueueStep Host.lp64 s e s' →
        FifoStep (UInt32.toNat 3) s.queue.items e s'.queue.items ∧
        ∀ t x, e = .sent t x →
          ∃ item, (s.pc t).xfer = some (.send item) ∧ x = readBytes item 0 (UInt32.toNat 4)) ∧
      receivedItems tr <+: sentItems tr := by
  have hr : QueueRun Host.lp64 (QueueSys.init ⟨fun _ => 0, 4, 3, 0, 0, 0⟩ : QueueSys Nat) _ _ :=
    .step (.step (.step (.step (.refl _)
      (.call 0 (.send (some fun _ => 7) 0) rfl))
      (.enter 0 true rfl rfl (.commit _ (Signal.of_idle fun t => by
        by_cases ht : t = 0 <;> simp [ht, QueueSys.setPc, QueueSys.init]))))
      (.call 1 (.receive true 0) rfl))
      (.enter 1 true rfl rfl (.commit _ (Signal.of_idle fun t => by
        by_cases ht : t = 1 <;> simp [ht, QueueSys.setPc, QueueSys.init, Function.update_apply])))
  exact ⟨rfl, _, _, hr, by decide, by decide,
    @queue_refines_fifo Nat _ Host.lp64 true none 3 4 (some fun _ => 0) _ rfl _ _ hr⟩

end Osal
