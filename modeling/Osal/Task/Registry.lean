import Osal.Basic

/-!
# The registry of statically created tasks

On the ESP backend, `osal_task_create` with a caller-supplied stack allocates a
`StaticTask_t` and an entry of `struct osal_task_tcb_entry` that remembers it, and pushes the
entry on the list at `osal_task_registry_head`; `osal_task_delete` takes the entry out with
`osal_task_registry_detach` and frees both. The heap holds the entries by address
(`Registry.entries`), and `NULL` is `none`.

`Seg entries p L q` says that following `next` from `p` visits the entries `L` and arrives at
`q`; a list that reaches `NULL` visits each block once (`Seg.nodup_addrs`).
`taskRegistryDetach` runs the loop of lines 51–67 with a bound on its iterations. On a
list that reaches `NULL` it returns, given as many iterations as the list has entries,
whatever bound it is given when it returns, and its result is that of the list view: `NULL`
and the registry unchanged when no entry has the handle (`taskRegistryDetach_of_not_mem`),
and otherwise the address of the first entry with it, unlinked, every other entry kept in
order (`taskRegistryDetach_of_mem`).
-/

namespace Osal

/-- `struct osal_task_tcb_entry`: a task's handle, its `StaticTask_t`, and the next entry. -/
structure TcbEntry where
  handle : Nat
  tcb : Nat
  next : Option Nat
  deriving DecidableEq, Repr

/-- `osal_task_registry_head`, and the entries the heap holds by address. -/
structure Registry where
  head : Option Nat
  entries : Nat → Option TcbEntry

/-- What a walk of the list sees of each entry: its address, handle and `StaticTask_t`. -/
def cells (L : List (Nat × TcbEntry)) : List (Nat × Nat × Nat) :=
  L.map fun x => (x.1, x.2.handle, x.2.tcb)

/-- The handles of the entries `L`. -/
def handles (L : List (Nat × TcbEntry)) : List Nat := L.map (·.2.handle)

@[simp] theorem cells_append (L₁ L₂ : List (Nat × TcbEntry)) :
    cells (L₁ ++ L₂) = cells L₁ ++ cells L₂ := List.map_append _ _ _

@[simp] theorem handles_append (L₁ L₂ : List (Nat × TcbEntry)) :
    handles (L₁ ++ L₂) = handles L₁ ++ handles L₂ := List.map_append _ _ _

@[simp] theorem handles_cons (x : Nat × TcbEntry) (L : List (Nat × TcbEntry)) :
    handles (x :: L) = x.2.handle :: handles L := rfl

/-! ## List segments -/

/-- Following `next` from `p` visits the entries `L`, with their contents, and arrives at
`q`. -/
inductive Seg (entries : Nat → Option TcbEntry) :
    Option Nat → List (Nat × TcbEntry) → Option Nat → Prop
  | nil (p : Option Nat) : Seg entries p [] p
  | cons (a : Nat) (e : TcbEntry) (L : List (Nat × TcbEntry)) (q : Option Nat) :
      entries a = some e → Seg entries e.next L q → Seg entries (some a) ((a, e) :: L) q

namespace Seg

variable {entries : Nat → Option TcbEntry}

theorem append {p q r : Option Nat} {L₁ L₂ : List (Nat × TcbEntry)}
    (h₁ : Seg entries p L₁ q) (h₂ : Seg entries q L₂ r) : Seg entries p (L₁ ++ L₂) r := by
  induction h₁ with
  | nil => exact h₂
  | cons a e L _ he _ ih => exact .cons a e _ _ he (ih h₂)

theorem split {p r : Option Nat} {L₁ L₂ : List (Nat × TcbEntry)}
    (h : Seg entries p (L₁ ++ L₂) r) : ∃ q, Seg entries p L₁ q ∧ Seg entries q L₂ r := by
  induction L₁ generalizing p with
  | nil => exact ⟨p, .nil p, h⟩
  | cons x L ih =>
    cases h with
    | cons a e _ _ he h' =>
      obtain ⟨q, h₁, h₂⟩ := ih h'
      exact ⟨q, .cons a e L q he h₁, h₂⟩

theorem cons_inv {p q : Option Nat} {a : Nat} {e : TcbEntry} {L : List (Nat × TcbEntry)}
    (h : Seg entries p ((a, e) :: L) q) :
    p = some a ∧ entries a = some e ∧ Seg entries e.next L q := by
  cases h with
  | cons _ _ _ _ he h' => exact ⟨rfl, he, h'⟩

/-- A walk that reaches `NULL` is determined by where it starts. -/
theorem eq_of_none {p : Option Nat} {L L' : List (Nat × TcbEntry)}
    (h : Seg entries p L none) (h' : Seg entries p L' none) : L = L' := by
  generalize hq : (none : Option Nat) = q at h h'
  induction h generalizing L' with
  | nil => cases h' with
    | nil => rfl
    | cons => cases hq
  | cons a e L _ he _ ih =>
    cases h' with
    | nil => cases hq
    | cons _ e' L' _ he' h' =>
      obtain rfl : e = e' := Option.some.inj (he.symm.trans he')
      rw [ih hq h']

/-- A walk that reaches `NULL` visits each block once: the list is acyclic. -/
theorem nodup_addrs {p : Option Nat} {L : List (Nat × TcbEntry)}
    (h : Seg entries p L none) : (L.map Prod.fst).Nodup := by
  induction L generalizing p with
  | nil => exact List.nodup_nil
  | cons x L ih =>
    obtain ⟨a, e⟩ := x
    obtain ⟨rfl, he, hs⟩ := h.cons_inv
    refine List.nodup_cons.mpr ⟨fun ha => ?_, ih hs⟩
    obtain ⟨⟨_, e'⟩, hx, rfl⟩ := List.mem_map.mp ha
    obtain ⟨L₁, L₂, rfl⟩ := List.append_of_mem hx
    obtain ⟨q, h₁, h₂⟩ := split hs
    obtain ⟨rfl, -, -⟩ := cons_inv h₂
    have := congrArg List.length (eq_of_none (.cons _ _ _ _ he (h₁.append h₂)) h₂)
    simp only [List.length_cons, List.length_append] at this
    omega

/-- An entry of a walk to `NULL` is not among the entries before it. -/
theorem not_mem_prefix {p : Option Nat} {L₁ L₂ : List (Nat × TcbEntry)} {a : Nat}
    {e : TcbEntry} (h : Seg entries p (L₁ ++ (a, e) :: L₂) none) : a ∉ L₁.map Prod.fst := by
  have hn := h.nodup_addrs
  simp only [List.map_append, List.map_cons] at hn
  exact fun hm => (List.nodup_cons.mp (List.nodup_middle.mp hn)).1 (List.mem_append_left _ hm)

/-- A write to a block the walk does not visit keeps it. -/
theorem update_out {p q : Option Nat} {L : List (Nat × TcbEntry)} (h : Seg entries p L q)
    {a : Nat} (ha : a ∉ L.map Prod.fst) (v : Option TcbEntry) :
    Seg (Function.update entries a v) p L q := by
  induction h with
  | nil => exact .nil _
  | cons b e L q he _ ih =>
    simp only [List.map_cons, List.mem_cons, not_or] at ha
    exact .cons b e L q (by rw [Function.update_noteq (Ne.symm ha.1), he]) (ih ha.2)

end Seg

/-! ## `osal_task_registry_detach` -/

/-- `prev->next = cur->next` (line 57), or `osal_task_registry_head = cur->next` (line 61)
when `prev` is `NULL`; `none` if `prev` holds no entry. -/
def Registry.unlink (r : Registry) (prev next : Option Nat) : Option Registry :=
  match prev with
  | none => some { r with head := next }
  | some p => (r.entries p).map fun pe =>
      { r with entries := Function.update r.entries p (some { pe with next }) }

/-- The loop of `osal_task_registry_detach` (lines 51–67) from `prev` and `cur`: the registry
after it and the `cur` it returns. `none` if `fuel` iterations do not finish it, or it reads
a block that holds no entry. -/
def detachLoop (handle : Nat) (r : Registry) :
    Nat → Option Nat → Option Nat → Option (Registry × Option Nat)
  | _, _, none => some (r, none)
  | 0, _, some _ => none
  | fuel + 1, prev, some c =>
    match r.entries c with
    | none => none
    | some e =>
      if e.handle = handle then (r.unlink prev e.next).map (·, some c)
      else detachLoop handle r fuel (some c) e.next

/-- `osal_task_registry_detach(handle)`, with at most `fuel` iterations of its loop. -/
def taskRegistryDetach (handle : Nat) (r : Registry) (fuel : Nat) :
    Option (Registry × Option Nat) :=
  detachLoop handle r fuel none r.head

section Detach

variable {h : Nat} {r : Registry}

/-- The `prev` of the loop after it has stepped over `L` from `prev`. -/
def prevAfter (prev : Option Nat) (L : List (Nat × TcbEntry)) : Option Nat :=
  L.foldl (fun _ x => some x.1) prev

/-- More iterations do not change a finished loop. -/
theorem detachLoop_succ {fuel : Nat} {prev cur : Option Nat} {x : Registry × Option Nat}
    (hx : detachLoop h r fuel prev cur = some x) : detachLoop h r (fuel + 1) prev cur = some x := by
  induction fuel generalizing prev cur with
  | zero => cases cur <;> simp_all [detachLoop]
  | succ n ih =>
    cases cur with
    | none => simpa [detachLoop] using hx
    | some c =>
      simp only [detachLoop] at hx ⊢
      rcases hc : r.entries c with _ | e
      · simp [hc] at hx
      · simp only [hc] at hx ⊢
        split_ifs at hx ⊢
        · exact hx
        · exact ih hx

theorem detachLoop_le {fuel fuel' : Nat} {prev cur : Option Nat} {x : Registry × Option Nat}
    (hx : detachLoop h r fuel prev cur = some x) (hf : fuel ≤ fuel') :
    detachLoop h r fuel' prev cur = some x := by
  induction hf with
  | refl => exact hx
  | step _ ih => exact detachLoop_succ ih

/-- Two bounds under which the loop finishes give the same result. -/
theorem detachLoop_det {fuel fuel' : Nat} {prev cur : Option Nat} {x y : Registry × Option Nat}
    (hx : detachLoop h r fuel prev cur = some x) (hy : detachLoop h r fuel' prev cur = some y) :
    x = y := by
  rcases le_total fuel fuel' with hf | hf
  · exact Option.some.inj ((detachLoop_le hx hf).symm.trans hy)
  · exact Option.some.inj (hx.symm.trans (detachLoop_le hy hf))

/-- The loop steps over entries without the handle, one iteration each. -/
theorem detachLoop_skip {cur q : Option Nat} {L : List (Nat × TcbEntry)}
    (hs : Seg r.entries cur L q) (hn : h ∉ handles L) (fuel : Nat) (prev : Option Nat) :
    detachLoop h r (fuel + L.length) prev cur = detachLoop h r fuel (prevAfter prev L) q := by
  induction hs generalizing prev with
  | nil => rfl
  | cons a e L q he _ ih =>
    simp only [handles_cons, List.mem_cons, not_or] at hn
    rw [List.length_cons, ← Nat.add_assoc, detachLoop, he]
    simp only [Ne.symm hn.1, if_false]
    exact ih hn.2 (some a)

/-- With no entry for the handle the loop walks to `NULL` and returns it, the registry
unchanged. -/
theorem detachLoop_of_not_mem {cur : Option Nat} {L : List (Nat × TcbEntry)}
    (hs : Seg r.entries cur L none) (hn : h ∉ handles L) (prev : Option Nat) :
    detachLoop h r L.length prev cur = some (r, none) := by
  simpa [detachLoop] using detachLoop_skip hs hn 0 prev

/-- At the first entry with the handle the loop unlinks it and returns its address. -/
theorem detachLoop_of_mem {cur : Option Nat} {L₁ L₂ : List (Nat × TcbEntry)} {a : Nat}
    {e : TcbEntry} (hs : Seg r.entries cur (L₁ ++ (a, e) :: L₂) none) (hn : h ∉ handles L₁)
    (he : e.handle = h) (prev : Option Nat) :
    detachLoop h r (L₁.length + 1) prev cur =
      (r.unlink (prevAfter prev L₁) e.next).map (·, some a) := by
  obtain ⟨q, h₁, h₂⟩ := hs.split
  obtain ⟨rfl, ha, -⟩ := h₂.cons_inv
  rw [Nat.add_comm, detachLoop_skip h₁ hn, detachLoop, ha]
  simp [he]

@[simp] theorem prevAfter_concat (prev : Option Nat) (L : List (Nat × TcbEntry))
    (x : Nat × TcbEntry) : prevAfter prev (L ++ [x]) = some x.1 := by
  simp [prevAfter]

/-- Unlinking the entry that follows `L₁` keeps every other entry, in order, and writes no
block outside `L₁`. -/
theorem unlink_seg {L₁ L₂ : List (Nat × TcbEntry)} {a : Nat} {e : TcbEntry}
    (hs : Seg r.entries r.head (L₁ ++ (a, e) :: L₂) none) :
    ∃ r', r.unlink (prevAfter none L₁) e.next = some r' ∧
      (∀ b ∉ L₁.map Prod.fst, r'.entries b = r.entries b) ∧
      ∃ L', Seg r'.entries r'.head L' none ∧ cells L' = cells L₁ ++ cells L₂ := by
  have hnd := hs.nodup_addrs
  rcases List.eq_nil_or_concat L₁ with rfl | ⟨L₀, ⟨p, pe⟩, rfl⟩
  · exact ⟨_, rfl, fun _ _ => rfl, L₂, hs.cons_inv.2.2, rfl⟩
  · rw [List.concat_eq_append] at hs hnd ⊢
    rw [List.append_assoc, List.singleton_append] at hs hnd
    obtain ⟨q, h₀, h₁⟩ := hs.split
    obtain ⟨rfl, hp, h₂⟩ := h₁.cons_inv
    obtain ⟨-, -, h₃⟩ := h₂.cons_inv
    simp only [List.map_append, List.map_cons] at hnd
    obtain ⟨-, hpB, hdis⟩ := List.nodup_append.mp hnd
    have hp₀ : p ∉ L₀.map Prod.fst := fun hm => hdis hm (List.mem_cons_self _ _)
    have hp₂ : p ∉ L₂.map Prod.fst := fun hm =>
      (List.nodup_cons.mp hpB).1 (List.mem_cons_of_mem _ hm)
    refine ⟨{ r with entries := Function.update r.entries p (some { pe with next := e.next }) },
      by simp [Registry.unlink, hp], fun b hb => ?_, L₀ ++ (p, { pe with next := e.next }) :: L₂,
      (h₀.update_out hp₀ _).append (.cons p _ L₂ none (by simp) (h₃.update_out hp₂ _)),
      by simp [cells]⟩
    have : b ≠ p := by rintro rfl; simp at hb
    exact Function.update_noteq this _ _

/-- With no entry for the handle, `osal_task_registry_detach` returns `NULL` and changes
nothing; it finishes within as many iterations as the list has entries. -/
theorem taskRegistryDetach_of_not_mem {L : List (Nat × TcbEntry)}
    (hs : Seg r.entries r.head L none) (hn : h ∉ handles L) :
    taskRegistryDetach h r L.length = some (r, none) ∧
      ∀ fuel x, taskRegistryDetach h r fuel = some x → x = (r, none) :=
  ⟨detachLoop_of_not_mem hs hn none,
    fun _ _ hx => detachLoop_det hx (detachLoop_of_not_mem hs hn none)⟩

/-- `osal_task_registry_detach` returns the address of the first entry with the handle and
unlinks it, keeping every other entry in order and writing only blocks before it; it finishes
within one iteration per entry up to that one. -/
theorem taskRegistryDetach_of_mem {L₁ L₂ : List (Nat × TcbEntry)} {a : Nat} {e : TcbEntry}
    (hs : Seg r.entries r.head (L₁ ++ (a, e) :: L₂) none) (hn : h ∉ handles L₁)
    (he : e.handle = h) :
    ∃ r', taskRegistryDetach h r (L₁.length + 1) = some (r', some a) ∧
      (∀ b ∉ L₁.map Prod.fst, r'.entries b = r.entries b) ∧
      (∃ L', Seg r'.entries r'.head L' none ∧ cells L' = cells L₁ ++ cells L₂) ∧
      ∀ fuel x, taskRegistryDetach h r fuel = some x → x = (r', some a) := by
  obtain ⟨r', hu, hb, hL'⟩ := unlink_seg hs
  have hd : taskRegistryDetach h r (L₁.length + 1) = some (r', some a) := by
    rw [taskRegistryDetach, detachLoop_of_mem hs hn he, hu]; rfl
  exact ⟨r', hd, hb, hL', fun _ _ hx => detachLoop_det hx hd⟩

end Detach

end Osal
