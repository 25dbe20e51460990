import Osal.Basic

/-!
# The queue's ring buffer

`struct osal_queue_internal` of the POSIX backend (`osal_queue_impl.c`) without its mutex
and condition variables, which `Osal.Queue.Threads` models as a scheduler: `queueCreate`,
and the two critical sections that move an item, `Queue.sendCommit` (lines 184–186 of
`osal_queue_send`) and `Queue.receiveCommit` with `Queue.front` (lines 248–250 of
`osal_queue_receive`).

`Queue.Inv` is the ring invariant: `head` is a slot, `count ≤ max_items`,
`tail = (head + count) mod max_items`, and `max_items * item_size` fits in `size_t`.
`queueCreate_inv` gives it to every created queue, and `Queue.Inv.sendCommit` and
`Queue.Inv.receiveCommit` keep it. The FIFO view `Queue.items` reads `count` items from
slot `head` on: `Queue.items_sendCommit` appends the copied item to it and
`Queue.items_receiveCommit` takes its front.
-/

namespace Osal

/-- `struct osal_queue_internal` without its mutex, condition variables and name. -/
structure Queue where
  buffer : Mem
  itemSize : Nat
  maxItems : Nat
  head : Nat
  tail : Nat
  count : Nat

/-- `osal_queue_create`. `resources` is what `malloc` and the `pthread_*_init` calls give:
`none` when one of them fails, else the contents of the fresh buffer. -/
def queueCreate (h : Host) (queueId : Bool) (name : Option (List UInt8))
    (maxItems itemSize : UInt32) (resources : Option Mem) : Except OsalStatus Queue :=
  if !queueId then .error .invalidPointer
  else if name.any (fun s => !lengthCheck s maxNameLen) then .error .errNameTooLong
  else if ¬0 < maxItems.toNat then .error .queueInvalidSize
  else if ¬0 < itemSize.toNat then .error .queueInvalidSize
  else if h.sizeT maxItems.toNat > h.sizeMax / h.sizeT itemSize.toNat then
    .error .queueInvalidSize
  else match resources with
    | none => .error .error
    | some buffer =>
      .ok { buffer, itemSize := h.sizeT itemSize.toNat, maxItems := maxItems.toNat,
            head := 0, tail := 0, count := 0 }

namespace Queue

variable {h : Host} {q : Queue}

/-- `queue->buffer + (i * queue->item_size)`: the offset of slot `i`, computed in `size_t`. -/
def offset (h : Host) (q : Queue) (i : Nat) : Nat := h.sizeT (i * q.itemSize)

/-- Lines 184–186 of `osal_queue_send`: copy the item into slot `tail`, advance `tail`,
count the item. -/
def sendCommit (h : Host) (q : Queue) (item : Mem) : Queue :=
  { q with
    buffer := copyIn q.buffer (q.offset h q.tail) q.itemSize item
    tail := u32 (q.tail + 1) % q.maxItems
    count := u32 (q.count + 1) }

/-- The bytes line 248 of `osal_queue_receive` copies out of slot `head`. -/
def front (h : Host) (q : Queue) : List UInt8 :=
  readBytes q.buffer (q.offset h q.head) q.itemSize

/-- Lines 249–250 of `osal_queue_receive`: advance `head`, uncount the item. -/
def receiveCommit (q : Queue) : Queue :=
  { q with head := u32 (q.head + 1) % q.maxItems, count := u32 (q.count + (2 ^ 32 - 1)) }

/-- The FIFO contents: `count` items of `item_size` bytes, read from slot `head` on. -/
def items (q : Queue) : List (List UInt8) :=
  (List.range q.count).map fun i =>
    readBytes q.buffer ((q.head + i) % q.maxItems * q.itemSize) q.itemSize

@[simp] theorem length_items (q : Queue) : q.items.length = q.count := by simp [items]

theorem length_of_mem_items {x : List UInt8} (hx : x ∈ q.items) : x.length = q.itemSize := by
  obtain ⟨i, -, rfl⟩ := List.mem_map.mp hx
  exact readBytes_length ..

/-! ## The ring invariant -/

/-- The ring invariant of a created queue. -/
structure Inv (h : Host) (q : Queue) : Prop where
  maxItems_pos : 0 < q.maxItems
  maxItems_lt : q.maxItems < 2 ^ 32
  itemSize_pos : 0 < q.itemSize
  size_le : q.maxItems * q.itemSize ≤ h.sizeMax
  head_lt : q.head < q.maxItems
  count_le : q.count ≤ q.maxItems
  tail_eq : q.tail = (q.head + q.count) % q.maxItems

theorem Inv.tail_lt (hq : q.Inv h) : q.tail < q.maxItems :=
  hq.tail_eq ▸ Nat.mod_lt _ hq.maxItems_pos

/-- Slot `i` of `m` slots of `n` bytes ends inside the buffer. -/
theorem slot_end_le {i m n : Nat} (hi : i < m) : i * n + n ≤ m * n := by
  simpa [Nat.succ_mul] using Nat.mul_le_mul_right n (Nat.succ_le_of_lt hi)

/-- The `size_t` product `i * item_size` of a slot does not wrap. -/
theorem Inv.offset_eq (hq : q.Inv h) {i : Nat} (hi : i < q.maxItems) :
    q.offset h i = i * q.itemSize := by
  have : i * q.itemSize + q.itemSize ≤ q.maxItems * q.itemSize := slot_end_le hi
  exact h.sizeT_of_le_sizeMax (by have := hq.size_le; omega)

/-- Distinct slots hold disjoint byte ranges. -/
theorem slots_disjoint {a b n : Nat} (hab : a ≠ b) : a * n + n ≤ b * n ∨ b * n + n ≤ a * n := by
  rcases Nat.lt_or_gt_of_ne hab with hlt | hlt
  · exact .inl (by simpa [Nat.succ_mul] using Nat.mul_le_mul_right n hlt)
  · exact .inr (by simpa [Nat.succ_mul] using Nat.mul_le_mul_right n hlt)

/-- Offsets below one revolution from a slot reach distinct slots. -/
theorem mod_add_ne {m a i j : Nat} (ha : a < m) (hij : i < j) (hj : j < m) :
    (a + i) % m ≠ (a + j) % m := by
  have key : ∀ x, x < 2 * m → x % m = if x < m then x else x - m := fun x hx => by
    split
    · exact Nat.mod_eq_of_lt ‹_›
    · rw [Nat.mod_eq_sub_mod (by omega), Nat.mod_eq_of_lt (by omega)]
  rw [key _ (by omega), key _ (by omega)]
  split <;> split <;> omega

/-! ## The two critical sections -/

@[simp] theorem sendCommit_maxItems (item : Mem) :
    (q.sendCommit h item).maxItems = q.maxItems := rfl
@[simp] theorem sendCommit_itemSize (item : Mem) :
    (q.sendCommit h item).itemSize = q.itemSize := rfl
@[simp] theorem sendCommit_head (item : Mem) : (q.sendCommit h item).head = q.head := rfl
@[simp] theorem receiveCommit_maxItems : q.receiveCommit.maxItems = q.maxItems := rfl
@[simp] theorem receiveCommit_itemSize : q.receiveCommit.itemSize = q.itemSize := rfl
@[simp] theorem receiveCommit_tail : q.receiveCommit.tail = q.tail := rfl
@[simp] theorem receiveCommit_buffer : q.receiveCommit.buffer = q.buffer := rfl

@[simp] theorem sendCommit_count (hq : q.Inv h) (hc : q.count < q.maxItems) (item : Mem) :
    (q.sendCommit h item).count = q.count + 1 :=
  u32_of_lt (by have := hq.maxItems_lt; omega)

@[simp] theorem receiveCommit_count (hc : 0 < q.count) (hq : q.Inv h) :
    q.receiveCommit.count = q.count - 1 := by
  have := hq.count_le; have := hq.maxItems_lt
  simp only [receiveCommit, u32]
  rw [show q.count + (2 ^ 32 - 1) = q.count - 1 + 2 ^ 32 by omega, Nat.add_mod_right,
    Nat.mod_eq_of_lt (by omega)]

theorem Inv.sendCommit (hq : q.Inv h) (hc : q.count < q.maxItems) (item : Mem) :
    (q.sendCommit h item).Inv h := by
  have htail : u32 (q.tail + 1) = q.tail + 1 :=
    u32_of_lt (by have := hq.tail_lt; have := hq.maxItems_lt; omega)
  refine ⟨hq.maxItems_pos, hq.maxItems_lt, hq.itemSize_pos, hq.size_le, hq.head_lt, ?_, ?_⟩
  · simp only [sendCommit_count hq hc, sendCommit_maxItems]; omega
  · show (u32 (q.tail + 1)) % q.maxItems = (q.head + (q.sendCommit h item).count) % q.maxItems
    rw [htail, sendCommit_count hq hc, hq.tail_eq, Nat.mod_add_mod, Nat.add_assoc]

theorem Inv.receiveCommit (hq : q.Inv h) (hc : 0 < q.count) : q.receiveCommit.Inv h := by
  have hhead : u32 (q.head + 1) = q.head + 1 :=
    u32_of_lt (by have := hq.head_lt; have := hq.maxItems_lt; omega)
  refine ⟨hq.maxItems_pos, hq.maxItems_lt, hq.itemSize_pos, hq.size_le,
    Nat.mod_lt _ hq.maxItems_pos, ?_, ?_⟩
  · simp only [receiveCommit_count hc hq, receiveCommit_maxItems]; have := hq.count_le; omega
  · show q.tail = (u32 (q.head + 1) % q.maxItems + q.receiveCommit.count) % q.maxItems
    rw [hhead, receiveCommit_count hc hq, Nat.mod_add_mod, hq.tail_eq]
    congr 1
    omega

/-- A send into a queue with a free slot appends the `item_size` bytes of its item. -/
theorem items_sendCommit (hq : q.Inv h) (hc : q.count < q.maxItems) (item : Mem) :
    (q.sendCommit h item).items = q.items ++ [readBytes item 0 q.itemSize] := by
  have htail : q.offset h q.tail = q.tail * q.itemSize := hq.offset_eq hq.tail_lt
  simp only [items, sendCommit_count hq hc, List.range_succ, List.map_append, List.map_singleton]
  simp only [Queue.sendCommit, htail]
  congr 1
  · refine List.map_congr_left fun i hi => readBytes_copyIn_of_disjoint _ _ ?_
    refine slots_disjoint ?_
    rw [hq.tail_eq]
    exact mod_add_ne hq.head_lt (List.mem_range.mp hi) hc
  · rw [← hq.tail_eq, readBytes_copyIn_self]

/-- A receive from a non-empty queue copies out its front item and removes it. -/
theorem items_receiveCommit (hq : q.Inv h) (hc : 0 < q.count) :
    q.items = q.front h :: q.receiveCommit.items := by
  have hhead : u32 (q.head + 1) = q.head + 1 :=
    u32_of_lt (by have := hq.head_lt; have := hq.maxItems_lt; omega)
  obtain ⟨c, hc'⟩ : ∃ c, q.count = c + 1 := ⟨q.count - 1, by omega⟩
  simp only [items, receiveCommit_count hc hq, hc', List.range_succ_eq_map, List.map_cons,
    List.map_map, Nat.add_sub_cancel]
  congr 1
  · simp [front, hq.offset_eq hq.head_lt, Nat.mod_eq_of_lt hq.head_lt]
  · refine List.map_congr_left fun i _ => ?_
    simp only [Function.comp, Queue.receiveCommit, hhead, Nat.mod_add_mod]
    congr 3
    omega

end Queue

/-! ## Creation -/

/-- The size test of `osal_queue_create`, `max_items > SIZE_MAX / item_size`, holds exactly
when `max_items * item_size` overflows `size_t`. -/
theorem queueCreate_sizeTest_iff (h : Host) (maxItems : UInt32) {itemSize : UInt32}
    (hn : 0 < itemSize.toNat) :
    h.sizeT maxItems.toNat > h.sizeMax / h.sizeT itemSize.toNat ↔
      maxItems.toNat * itemSize.toNat > h.sizeMax := by
  rw [h.sizeT_of_lt (toNat_lt_u32 maxItems), h.sizeT_of_lt (toNat_lt_u32 itemSize)]
  exact Nat.div_lt_iff_lt_mul hn

/-- A successful `osal_queue_create` checked both sizes positive and their product in
`size_t`, and returns an empty ring over its fresh buffer. -/
theorem queueCreate_eq_ok {h : Host} {queueId : Bool} {name : Option (List UInt8)}
    {maxItems itemSize : UInt32} {resources : Option Mem} {q : Queue}
    (hc : queueCreate h queueId name maxItems itemSize resources = .ok q) :
    0 < maxItems.toNat ∧ 0 < itemSize.toNat ∧ maxItems.toNat * itemSize.toNat ≤ h.sizeMax ∧
      ∃ buffer, q = { buffer, itemSize := itemSize.toNat, maxItems := maxItems.toNat,
                      head := 0, tail := 0, count := 0 } := by
  unfold queueCreate at hc
  split_ifs at hc with h1 h2 h3 h4 h5
  obtain _ | buffer := resources
  · cases hc
  · cases hc
    refine ⟨by omega, by omega, ?_, buffer, by rw [h.sizeT_of_lt (toNat_lt_u32 itemSize)]⟩
    exact Nat.le_of_not_lt ((queueCreate_sizeTest_iff h maxItems (by omega)).not.mp h5)

theorem queueCreate_inv {h : Host} {queueId : Bool} {name : Option (List UInt8)}
    {maxItems itemSize : UInt32} {resources : Option Mem} {q : Queue}
    (hc : queueCreate h queueId name maxItems itemSize resources = .ok q) : q.Inv h := by
  obtain ⟨hm, hn, hmn, buffer, rfl⟩ := queueCreate_eq_ok hc
  exact ⟨hm, (toNat_lt_u32 maxItems), hn, hmn, hm, Nat.zero_le _, by simp⟩

end Osal
