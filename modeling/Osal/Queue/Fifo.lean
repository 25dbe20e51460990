import Osal.Basic

/-!
# Bounded FIFO queues

What an OSAL message queue is for (§4.5 of the design): a FIFO of at most `cap` items.
`FifoStep` is its labelled step. A successful send appends its item when there is room, a
successful receive hands out the front item, a failed call leaves the contents alone, and
`get_count` reports their number.

`FifoRun.received_append` is what every client relies on: along any run from the empty
queue, the items received followed by the items still queued are exactly the items sent.
So the received items are a prefix of the sent ones (`FifoRun.received_prefix`): no item
is lost, duplicated or reordered.
-/

namespace Osal

/-- What one step of a queue did, as its caller `t` sees it. -/
inductive QueueEvent (τ : Type)
  | tau
  | sent (t : τ) (item : List UInt8)
  | received (t : τ) (item : List UInt8)
  | failed (t : τ) (status : OsalStatus)
  | counted (t : τ) (n : Nat)

variable {τ : Type}

namespace QueueEvent

/-- The item a successful send accepted. -/
def sentItem : QueueEvent τ → Option (List UInt8)
  | .sent _ x => some x
  | _ => none

/-- The item a successful receive delivered. -/
def receivedItem : QueueEvent τ → Option (List UInt8)
  | .received _ x => some x
  | _ => none

end QueueEvent

/-- The items accepted by the successful sends of a trace, in order. -/
def sentItems (tr : List (QueueEvent τ)) : List (List UInt8) := tr.filterMap QueueEvent.sentItem

/-- The items delivered by the successful receives of a trace, in order. -/
def receivedItems (tr : List (QueueEvent τ)) : List (List UInt8) :=
  tr.filterMap QueueEvent.receivedItem

/-- One step of a FIFO of at most `cap` items. -/
inductive FifoStep (cap : Nat) : List (List UInt8) → QueueEvent τ → List (List UInt8) → Prop
  | tau (l) : FifoStep cap l .tau l
  | sent (l t x) : l.length < cap → FifoStep cap l (.sent t x) (l ++ [x])
  | received (x l t) : FifoStep cap (x :: l) (.received t x) l
  | failed (l t s) : FifoStep cap l (.failed t s) l
  | counted (l t) : FifoStep cap l (.counted t l.length) l

/-- Runs of `FifoStep`, with their traces. -/
inductive FifoRun (cap : Nat) :
    List (List UInt8) → List (QueueEvent τ) → List (List UInt8) → Prop
  | refl (l) : FifoRun cap l [] l
  | step {l tr l' e l''} : FifoRun cap l tr l' → FifoStep cap l' e l'' →
      FifoRun cap l (tr ++ [e]) l''

variable {cap : Nat} {l l' : List (List UInt8)} {e : QueueEvent τ} {tr : List (QueueEvent τ)}

theorem FifoStep.length_le (hs : FifoStep cap l e l') (hl : l.length ≤ cap) :
    l'.length ≤ cap := by
  cases hs with
  | sent _ _ _ hlt => simpa using hlt
  | received => simp at hl; omega
  | _ => exact hl

theorem FifoRun.length_le (hr : FifoRun cap l tr l') (hl : l.length ≤ cap) : l'.length ≤ cap := by
  induction hr with
  | refl => exact hl
  | step _ hs ih => exact hs.length_le ih

/-- Along a run from the empty queue, received items followed by the queued ones are the
sent items. -/
theorem FifoRun.received_append (hr : FifoRun cap [] tr l) :
    receivedItems tr ++ l = sentItems tr := by
  induction hr with
  | refl => rfl
  | step _ hs ih =>
    simp only [sentItems, receivedItems, List.filterMap_append] at ih ⊢
    cases hs <;> simp [QueueEvent.sentItem, QueueEvent.receivedItem, ← ih]

/-- No item is lost, duplicated or reordered. -/
theorem FifoRun.received_prefix (hr : FifoRun cap [] tr l) :
    receivedItems tr <+: sentItems tr :=
  ⟨l, hr.received_append⟩

end Osal
