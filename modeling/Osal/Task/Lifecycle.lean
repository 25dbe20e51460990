import Osal.Task.Registry

/-!
# Creating and deleting tasks on the ESP backend

`osal_task_create` and `osal_task_delete` as steps of one state (`TaskStep`): the registry,
the heap blocks that `pvPortMalloc` has handed out (`TaskSys.used`), and the kernel's live
tasks by handle, each marked with whether it runs on a caller-supplied stack
(`TaskSys.tasks`). The calls are sequential, as the registry mutex and the freshness of each
call's own blocks make them. `xTaskCreateStaticPinnedToCore` returns the `StaticTask_t` it
is given as the handle; `xTaskCreatePinnedToCore` allocates the control block that becomes
the handle, and `vTaskDelete` frees it.

`TaskSys.Inv` says that the list at `osal_task_registry_head` reaches `NULL` and holds one
entry, with the task's own `StaticTask_t`, for each live task created with a stack, and that
every listed block and every live task's block is in use. Every step keeps it when no task
deletes itself (`TaskStep.inv`). `task_registry_tracks_static_tasks` collects what it
gives: the registry is acyclic and tracks the static tasks, `osal_task_registry_detach`
works as the list view says, a failed call changes nothing, and a delete frees exactly the
`StaticTask_t` and entry of its own task, both in use, and nothing for a task created
without a stack.
-/

namespace Osal

/-! ## The calls -/

/-- `OSAL_TASK_NO_AFFINITY`. -/
def taskNoAffinity : Int := -1

/-- `osal_task_attr_t`. -/
structure TaskAttr where
  coreAffinity : Int
  reserved : Fin 4 → Nat

/-- `osal_task_validate_attr`. -/
def taskValidateAttr : Option TaskAttr → OsalStatus
  | none => .success
  | some attr =>
    if attr.coreAffinity ≠ taskNoAffinity ∧ attr.coreAffinity < 0 then .errInvalidArgument
    else if attr.reserved 0 ≠ 0 ∨ attr.reserved 1 ≠ 0 ∨ attr.reserved 2 ≠ 0 ∨
      attr.reserved 3 ≠ 0 then .errInvalidArgument
    else .success

/-- The FreeRTOS configuration that `osal_task_create` reads: `configMAX_PRIORITIES`,
`sizeof(StackType_t)`, and `portNUM_PROCESSORS` where it is defined. -/
structure EspConfig where
  maxPriorities : Nat
  stackTypeSize : Nat
  numProcessors : Option Nat

/-- The checks of `osal_task_create` before it allocates anything (lines 119–158), in their
order; `none` when all pass. `taskName` is `none` for `NULL`. -/
def taskCreateCheck (cfg : EspConfig) (taskId : Bool) (taskName : Option (List UInt8))
    (routine : Bool) (stackSize : Nat) (priority : UInt32) (attr : Option TaskAttr) :
    Option OsalStatus :=
  if !taskId then some .invalidPointer
  else if !routine then some .invalidPointer
  else match taskName with
    | none => some .invalidPointer
    | some name =>
      if !lengthCheck name maxNameLen then some .errNameTooLong
      else if ¬0 < stackSize then some .errInvalidSize
      else if taskValidateAttr attr ≠ .success then some (taskValidateAttr attr)
      else if cfg.maxPriorities % 2 ^ 32 ≤ priority.toNat then some .errInvalidPriority
      else if stackSize / cfg.stackTypeSize = 0 then some .errInvalidSize
      else if attr.any (fun a => a.coreAffinity != taskNoAffinity &&
          cfg.numProcessors.any fun n => decide ((n : Int) ≤ a.coreAffinity)) then
        some .errInvalidArgument
      else none

/-- The registry, the heap blocks that `pvPortMalloc` has handed out and not taken back, and
the live tasks by handle, with whether each was created on a caller-supplied stack. -/
structure TaskSys where
  reg : Registry
  used : Nat → Bool
  tasks : Nat → Option Bool

/-- What a task call did. `frees` are the blocks it passed to `vPortFree`, in order. -/
inductive TaskEvent
  | created (handle : Nat) (static : Bool)
  | deleted (current handle : Nat) (frees : List Nat)
  | failed (status : OsalStatus) (frees : List Nat)

/-- The blocks a call passed to `vPortFree`. -/
def TaskEvent.frees : TaskEvent → List Nat
  | .created _ _ => []
  | .deleted _ _ f => f
  | .failed _ f => f

namespace TaskSys

/-- No task, no block in use, an empty registry. -/
def init : TaskSys := ⟨⟨none, fun _ => none⟩, fun _ => false, fun _ => none⟩

/-- `pvPortMalloc` hands out block `a`. -/
def malloc (s : TaskSys) (a : Nat) : TaskSys := { s with used := Function.update s.used a true }

/-- `vPortFree(a)`. -/
def free (s : TaskSys) (a : Nat) : TaskSys := { s with used := Function.update s.used a false }

/-- `vTaskDelete(h)`: the kernel drops the task, and frees the control block it allocated
itself for a task created without a caller's stack. -/
def vTaskDelete (s : TaskSys) (h : Nat) : TaskSys :=
  { s with tasks := Function.update s.tasks h none,
           used := if s.tasks h = some false then Function.update s.used h false else s.used }

/-- The `stack_pointer != NULL` branch of `osal_task_create` (lines 160–208). `entry` and
`tcb` are what the two `pvPortMalloc` calls return, and `kernelOk` whether
`xTaskCreateStaticPinnedToCore` returns a handle. -/
def createStatic (s : TaskSys) (entry tcb : Option Nat) (kernelOk : Bool) :
    TaskSys × TaskEvent :=
  match entry, tcb with
  | none, _ => (s, .failed .error [])
  | some e, none => ((s.malloc e).free e, .failed .error [e])
  | some e, some c =>
    if !kernelOk then ((((s.malloc e).malloc c).free c).free e, .failed .error [c, e])
    else
      let s₁ := (s.malloc e).malloc c
      ({ s₁ with reg := ⟨some e, Function.update s₁.reg.entries e (some ⟨c, c, s₁.reg.head⟩)⟩,
                 tasks := Function.update s₁.tasks c (some true) }, .created c true)

/-- The `stack_pointer == NULL` branch (lines 209–228). `tcb` is the control block
`xTaskCreatePinnedToCore` allocates, `none` when it does not return `pdPASS`. -/
def createDynamic (s : TaskSys) (tcb : Option Nat) : TaskSys × TaskEvent :=
  match tcb with
  | none => (s, .failed .error [])
  | some c =>
    ({ s.malloc c with tasks := Function.update s.tasks c (some false) }, .created c false)

/-- `osal_task_create`. -/
def taskCreate (s : TaskSys) (cfg : EspConfig) (taskId : Bool) (taskName : Option (List UInt8))
    (routine stackPointer : Bool) (stackSize : Nat) (priority : UInt32) (attr : Option TaskAttr)
    (entry tcb : Option Nat) (kernelOk : Bool) : TaskSys × TaskEvent :=
  match taskCreateCheck cfg taskId taskName routine stackSize priority attr with
  | some st => (s, .failed st [])
  | none => if stackPointer then s.createStatic entry tcb kernelOk else s.createDynamic tcb

/-- `osal_task_delete(taskId)` called by the task `current`, with at most `fuel` iterations
of the loop of `osal_task_registry_detach`. -/
def taskDelete (s : TaskSys) (current : Nat) (taskId : Option Nat) (fuel : Nat) :
    Option (TaskSys × TaskEvent) :=
  match taskId with
  | none => some (s, .failed .errInvalidId [])
  | some h =>
    if h = current then some (s.vTaskDelete h, .deleted current h [])
    else (taskRegistryDetach h s.reg fuel).bind fun (reg, entry) =>
      let s₁ := { s with reg }.vTaskDelete h
      match entry with
      | none => some (s₁, .deleted current h [])
      | some a => (s₁.reg.entries a).map fun e =>
          ((s₁.free e.tcb).free a, .deleted current h [e.tcb, a])

end TaskSys

/-- One task call. `pvPortMalloc` hands out blocks not in use, the second of a call distinct
from the first, and a delete names a live task. -/
inductive TaskStep (cfg : EspConfig) : TaskSys → TaskEvent → TaskSys → Prop
  | create (s taskId taskName routine stackPointer stackSize priority attr entry tcb kernelOk)
      (s' e) :
      (∀ a, entry = some a → s.used a = false) →
      (∀ c, tcb = some c → s.used c = false ∧ entry ≠ some c) →
      s.taskCreate cfg taskId taskName routine stackPointer stackSize priority attr entry tcb
        kernelOk = (s', e) →
      TaskStep cfg s e s'
  | delete (s current taskId fuel s' e) : (∀ h, taskId = some h → s.tasks h ≠ none) →
      s.taskDelete current taskId fuel = some (s', e) → TaskStep cfg s e s'

/-- Runs of `TaskStep`, with their traces. -/
inductive TaskRun (cfg : EspConfig) : TaskSys → List TaskEvent → TaskSys → Prop
  | refl (s) : TaskRun cfg s [] s
  | step {s tr s' e s''} : TaskRun cfg s tr s' → TaskStep cfg s' e s'' →
      TaskRun cfg s (tr ++ [e]) s''

/-! ## The invariant -/

theorem handles_eq_map_cells (L : List (Nat × TcbEntry)) :
    handles L = (cells L).map (·.2.1) := by
  simp [handles, cells]

theorem addrs_eq_map_cells (L : List (Nat × TcbEntry)) :
    L.map Prod.fst = (cells L).map Prod.fst := by
  simp [cells]

namespace TaskSys

variable {s : TaskSys} {L : List (Nat × TcbEntry)}

@[simp] theorem malloc_reg (s : TaskSys) (a : Nat) : (s.malloc a).reg = s.reg := rfl
@[simp] theorem malloc_tasks (s : TaskSys) (a : Nat) : (s.malloc a).tasks = s.tasks := rfl
@[simp] theorem malloc_used (s : TaskSys) (a : Nat) :
    (s.malloc a).used = Function.update s.used a true := rfl
@[simp] theorem free_reg (s : TaskSys) (a : Nat) : (s.free a).reg = s.reg := rfl
@[simp] theorem free_tasks (s : TaskSys) (a : Nat) : (s.free a).tasks = s.tasks := rfl
@[simp] theorem free_used (s : TaskSys) (a : Nat) :
    (s.free a).used = Function.update s.used a false := rfl
@[simp] theorem vTaskDelete_reg (s : TaskSys) (h : Nat) : (s.vTaskDelete h).reg = s.reg := rfl
@[simp] theorem vTaskDelete_tasks (s : TaskSys) (h : Nat) :
    (s.vTaskDelete h).tasks = Function.update s.tasks h none := rfl

/-- A task live after `vTaskDelete h` is another task, live before. -/
theorem vTaskDelete_live {h b : Nat} (hb : (s.vTaskDelete h).tasks b ≠ none) :
    b ≠ h ∧ s.tasks b ≠ none := by
  have hbh : b ≠ h := by rintro rfl; simp at hb
  exact ⟨hbh, by simpa [Function.update_noteq hbh] using hb⟩

/-- Freeing the block a call has just allocated gives back the state before it. -/
theorem free_malloc (hu : s.used a = false) : (s.malloc a).free a = s := by
  cases s
  simp only [malloc, free, Function.update_idem, mk.injEq, true_and, and_true]
  exact Function.update_eq_self_iff.mpr hu.symm

/-- The registry reaches `NULL` through the entries `L`, one for each live task created with
a stack, holding that task's own `StaticTask_t`. Every listed block and every live task's
block is in use, and no live task's block is an entry. -/
structure Inv (s : TaskSys) (L : List (Nat × TcbEntry)) : Prop where
  seg : Seg s.reg.entries s.reg.head L none
  tcb_eq : ∀ x ∈ L, x.2.tcb = x.2.handle
  static_iff : ∀ h, s.tasks h = some true ↔ h ∈ handles L
  handles_nodup : (handles L).Nodup
  used_addr : ∀ a ∈ L.map Prod.fst, s.used a = true
  used_task : ∀ h, s.tasks h ≠ none → s.used h = true
  task_not_addr : ∀ h, s.tasks h ≠ none → h ∉ L.map Prod.fst

theorem inv_init : init.Inv [] :=
  ⟨.nil _, by simp, by simp [init, handles], List.nodup_nil, by simp, by simp [init], by simp⟩

/-- A block not in use is no entry, no task's handle, and no live task. -/
theorem Inv.fresh (hi : s.Inv L) {a : Nat} (hu : s.used a = false) :
    a ∉ L.map Prod.fst ∧ a ∉ handles L ∧ s.tasks a = none := by
  have ht : s.tasks a = none := by
    by_contra hn; simp [hi.used_task a hn] at hu
  refine ⟨fun hm => by simp [hi.used_addr a hm] at hu, fun hm => ?_, ht⟩
  simp [(hi.static_iff a).mpr hm] at ht

/-- The end of a create with a stack keeps the invariant, with its entry in front. -/
theorem Inv.insert (hi : s.Inv L) {e c : Nat} (he : s.used e = false) (hc : s.used c = false)
    (hec : e ≠ c) :
    Inv { (s.malloc e).malloc c with
      reg := ⟨some e, Function.update s.reg.entries e (some ⟨c, c, s.reg.head⟩)⟩,
      tasks := Function.update s.tasks c (some true) } ((e, ⟨c, c, s.reg.head⟩) :: L) := by
  obtain ⟨heA, heH, heT⟩ := hi.fresh he
  obtain ⟨hcA, hcH, hcT⟩ := hi.fresh hc
  refine ⟨.cons e _ L none (by simp) (hi.seg.update_out heA _), ?_, fun h => ?_,
    List.nodup_cons.mpr ⟨hcH, hi.handles_nodup⟩, fun a ha => ?_, fun h hh => ?_, fun h hh => ?_⟩
  · rintro x (_ | ⟨_, hx⟩)
    · rfl
    · exact hi.tcb_eq x hx
  · by_cases hch : h = c
    · subst hch; simp
    · simp [Function.update_noteq hch, hi.static_iff, hch]
  · simp only [malloc_used, Function.update_apply]
    split_ifs <;> simp_all [hi.used_addr]
  · simp only [malloc_used, Function.update_apply]
    split_ifs <;> simp_all [hi.used_task]
  · by_cases hch : h = c
    · subst hch; simp [Ne.symm hec, hcA]
    · have hh' : s.tasks h ≠ none := by simpa [Function.update_noteq hch] using hh
      have : h ≠ e := by rintro rfl; exact hh' heT
      simp [this, hi.task_not_addr h hh']

/-- A create without a stack keeps the invariant. -/
theorem Inv.dynamic (hi : s.Inv L) {c : Nat} (hc : s.used c = false) :
    Inv { s.malloc c with tasks := Function.update s.tasks c (some false) } L := by
  obtain ⟨hcA, hcH, -⟩ := hi.fresh hc
  refine ⟨hi.seg, hi.tcb_eq, fun h => ?_, hi.handles_nodup, fun a ha => ?_, fun h hh => ?_,
    fun h hh => ?_⟩
  · by_cases hch : h = c
    · subst hch; simp [hcH]
    · simp [Function.update_noteq hch, hi.static_iff]
  · simp [Function.update_apply, hi.used_addr a ha]
  · by_cases hch : h = c
    · subst hch; simp
    · have hh' : s.tasks h ≠ none := by simpa [Function.update_noteq hch] using hh
      simp [Function.update_noteq hch, hi.used_task h hh']
  · by_cases hch : h = c
    · subst hch; exact hcA
    · exact hi.task_not_addr h (by simpa [Function.update_noteq hch] using hh)

/-- Deleting a task created without a stack keeps the invariant. -/
theorem Inv.vTaskDelete_dynamic (hi : s.Inv L) {h : Nat} (hh : s.tasks h = some false) :
    (s.vTaskDelete h).Inv L := by
  have hhA := hi.task_not_addr h (by simp [hh])
  have hhH : h ∉ handles L := fun hm => by simp [(hi.static_iff h).mpr hm] at hh
  refine ⟨hi.seg, hi.tcb_eq, fun b => ?_, hi.handles_nodup, fun a ha => ?_, fun b hb => ?_,
    fun b hb => ?_⟩
  · by_cases hbh : b = h
    · subst hbh; simp [hhH]
    · simp [Function.update_noteq hbh, hi.static_iff]
  · have : a ≠ h := by rintro rfl; exact hhA ha
    simp [vTaskDelete, hh, Function.update_noteq this, hi.used_addr a ha]
  · obtain ⟨hbh, hb'⟩ := vTaskDelete_live hb
    simp [vTaskDelete, hh, Function.update_noteq hbh, hi.used_task b hb']
  · exact hi.task_not_addr b (vTaskDelete_live hb).2

/-- Deleting a task created with a stack, once its entry is unlinked and its
`StaticTask_t` and entry are freed, keeps the invariant over the remaining entries. -/
theorem Inv.delete_static {L₁ L₂ : List (Nat × TcbEntry)} {a h : Nat} {en : TcbEntry}
    (hi : s.Inv (L₁ ++ (a, en) :: L₂)) (hh : en.handle = h) {r' : Registry}
    {L' : List (Nat × TcbEntry)} (hs' : Seg r'.entries r'.head L' none)
    (hc : cells L' = cells L₁ ++ cells L₂) :
    (((({ s with reg := r' } : TaskSys).vTaskDelete h).free h).free a).Inv L' := by
  have hH : handles L' = handles L₁ ++ handles L₂ := by
    rw [handles_eq_map_cells, hc, List.map_append, ← handles_eq_map_cells, ← handles_eq_map_cells]
  have hA : L'.map Prod.fst = L₁.map Prod.fst ++ L₂.map Prod.fst := by
    rw [addrs_eq_map_cells, hc, List.map_append, ← addrs_eq_map_cells, ← addrs_eq_map_cells]
  have hnH := hi.handles_nodup
  have hnA := hi.seg.nodup_addrs
  simp only [handles_append, handles_cons, hh, List.map_append, List.map_cons] at hnH hnA
  obtain ⟨hhL, hnH'⟩ := List.nodup_cons.mp (List.nodup_middle.mp hnH)
  obtain ⟨haL, -⟩ := List.nodup_cons.mp (List.nodup_middle.mp hnA)
  have hts : s.tasks h = some true := (hi.static_iff h).mpr (by simp [hh])
  have hhA := hi.task_not_addr h (by simp [hts])
  have hsub : ∀ b, b ∈ L₁.map Prod.fst ++ L₂.map Prod.fst →
      b ∈ (L₁ ++ (a, en) :: L₂).map Prod.fst := fun b hb => by
    simp only [List.mem_append, List.map_append, List.map_cons, List.mem_cons] at hb ⊢; tauto
  refine ⟨hs', fun x hx => ?_, fun b => ?_, hH ▸ hnH', fun b hb => ?_, fun b hb => ?_,
    fun b hb => ?_⟩
  · have hm : (x.1, x.2.handle, x.2.tcb) ∈ cells L₁ ++ cells L₂ :=
      hc ▸ List.mem_map.mpr ⟨x, hx, rfl⟩
    simp only [cells, ← List.map_append, List.mem_map, Prod.mk.injEq] at hm
    obtain ⟨y, hy, -, hyh, hyt⟩ := hm
    rw [← hyh, ← hyt]
    exact hi.tcb_eq y (by simp only [List.mem_append, List.mem_cons] at hy ⊢; tauto)
  · by_cases hbh : b = h
    · subst hbh; simp [hH, hhL]
    · simp only [free_tasks, vTaskDelete_tasks, Function.update_noteq hbh, hi.static_iff, hH,
        handles_append, handles_cons, hh, List.mem_append, List.mem_cons, hbh, false_or]
  · rw [hA] at hb
    have hba : b ≠ a := by rintro rfl; exact haL hb
    have hbh : b ≠ h := by rintro rfl; exact hhA (hsub _ hb)
    simp [vTaskDelete, hts, Function.update_noteq hba, Function.update_noteq hbh,
      hi.used_addr b (hsub _ hb)]
  · obtain ⟨hbh, hb'⟩ := vTaskDelete_live hb
    have hba : b ≠ a := by rintro rfl; exact hi.task_not_addr _ hb' (by simp)
    simp [vTaskDelete, hts, Function.update_noteq hba, Function.update_noteq hbh,
      hi.used_task b hb']
  · rw [hA]
    exact fun hm => hi.task_not_addr b (vTaskDelete_live hb).2 (hsub b hm)

/-- No entry before a task's entry has its handle. -/
theorem Inv.handle_not_mem_prefix {L₁ L₂ : List (Nat × TcbEntry)} {a : Nat} {en : TcbEntry}
    (hi : s.Inv (L₁ ++ (a, en) :: L₂)) : en.handle ∉ handles L₁ := by
  have hn := hi.handles_nodup
  simp only [handles_append, handles_cons] at hn
  exact fun hm => (List.nodup_cons.mp (List.nodup_middle.mp hn)).1 (List.mem_append_left _ hm)

/-- A live task created with a stack has an entry, and no entry before it has its handle. -/
theorem Inv.split_of_static (hi : s.Inv L) {h : Nat} (hh : s.tasks h = some true) :
    ∃ L₁ a en L₂, L = L₁ ++ (a, en) :: L₂ ∧ en.handle = h ∧ h ∉ handles L₁ := by
  obtain ⟨⟨a, en⟩, hx, rfl⟩ := List.mem_map.mp ((hi.static_iff h).mp hh)
  obtain ⟨L₁, L₂, rfl⟩ := List.append_of_mem hx
  exact ⟨L₁, a, en, L₂, rfl, rfl, hi.handle_not_mem_prefix⟩

/-- What `osal_task_create` does with blocks not in use: it fails and leaves the state as it
was, having freed only blocks it allocated itself; or it creates a task on the caller's
stack and pushes its entry; or it creates one without. -/
theorem taskCreate_cases {cfg : EspConfig} {taskId : Bool} {taskName : Option (List UInt8)}
    {routine stackPointer : Bool} {stackSize : Nat} {priority : UInt32}
    {attr : Option TaskAttr} {entry tcb : Option Nat} {kernelOk : Bool} {s' : TaskSys}
    {ev : TaskEvent} (hE : ∀ a, entry = some a → s.used a = false)
    (hT : ∀ c, tcb = some c → s.used c = false ∧ entry ≠ some c)
    (h : s.taskCreate cfg taskId taskName routine stackPointer stackSize priority attr entry tcb
      kernelOk = (s', ev)) :
    (∃ st f, ev = .failed st f ∧ s' = s ∧ ∀ x ∈ f, s.used x = false) ∨
    (∃ e c, ev = .created c true ∧ s.used e = false ∧ s.used c = false ∧ e ≠ c ∧
      s' = { (s.malloc e).malloc c with
        reg := ⟨some e, Function.update s.reg.entries e (some ⟨c, c, s.reg.head⟩)⟩,
        tasks := Function.update s.tasks c (some true) }) ∨
    (∃ c, ev = .created c false ∧ s.used c = false ∧
      s' = { s.malloc c with tasks := Function.update s.tasks c (some false) }) := by
  unfold taskCreate at h
  split at h
  · cases h; exact .inl ⟨_, [], rfl, rfl, by simp⟩
  split_ifs at h
  · unfold createStatic at h
    rcases entry with _ | e
    · cases h; exact .inl ⟨_, [], rfl, rfl, by simp⟩
    rcases tcb with _ | c
    · cases h; exact .inl ⟨_, [e], rfl, free_malloc (hE e rfl), by simpa using hE e rfl⟩
    obtain ⟨hc, hec⟩ := hT c rfl
    have hec : e ≠ c := fun h => hec (congrArg some h)
    cases kernelOk
    · have hc' : (s.malloc e).used c = false := by simp [Function.update_noteq hec.symm, hc]
      cases h
      refine .inl ⟨_, [c, e], rfl, ?_, by simp [hc, hE e rfl]⟩
      rw [free_malloc hc', free_malloc (hE e rfl)]
    · cases h; exact .inr (.inl ⟨e, c, rfl, hE e rfl, hc, hec, rfl⟩)
  · unfold createDynamic at h
    rcases tcb with _ | c
    · cases h; exact .inl ⟨_, [], rfl, rfl, by simp⟩
    · cases h; exact .inr (.inr ⟨c, rfl, (hT c rfl).1, rfl⟩)

/-- What `osal_task_delete` does from a state with the invariant, on `NULL` or a live task:
return `OSAL_ERR_INVALID_ID`; delete the calling task itself; delete a task created without a
stack and free nothing; or delete one created with a stack, unlink its entry and free its
`StaticTask_t` and the entry. -/
theorem taskDelete_cases (hi : s.Inv L) {current : Nat} {taskId : Option Nat} {fuel : Nat}
    {s' : TaskSys} {ev : TaskEvent} (hlive : ∀ h, taskId = some h → s.tasks h ≠ none)
    (hd : s.taskDelete current taskId fuel = some (s', ev)) :
    (ev = .failed .errInvalidId [] ∧ s' = s) ∨
    (ev = .deleted current current [] ∧ s' = s.vTaskDelete current) ∨
    (∃ h, ev = .deleted current h [] ∧ h ≠ current ∧ s.tasks h = some false ∧
      s' = s.vTaskDelete h) ∨
    (∃ h L₁ a en L₂ r' L', L = L₁ ++ (a, en) :: L₂ ∧ en.handle = h ∧ h ≠ current ∧
      s.tasks h = some true ∧ ev = .deleted current h [h, a] ∧
      Seg r'.entries r'.head L' none ∧ cells L' = cells L₁ ++ cells L₂ ∧
      s' = ((({ s with reg := r' } : TaskSys).vTaskDelete h).free h).free a) := by
  rcases taskId with _ | h
  · cases hd; exact .inl ⟨rfl, rfl⟩
  simp only [taskDelete] at hd
  split_ifs at hd with hcur
  · cases hd; subst hcur; exact .inr (.inl ⟨rfl, rfl⟩)
  obtain ⟨x, hx, hd⟩ := Option.bind_eq_some.mp hd
  rcases hts : s.tasks h with _ | _ | _
  · exact absurd hts (hlive h rfl)
  · have hn : h ∉ handles L := fun hm => by simp [(hi.static_iff h).mpr hm] at hts
    obtain rfl := (taskRegistryDetach_of_not_mem hi.seg hn).2 _ _ hx
    cases hd; exact .inr (.inr (.inl ⟨h, rfl, hcur, hts, rfl⟩))
  · obtain ⟨L₁, a, en, L₂, rfl, hh, hn⟩ := hi.split_of_static hts
    obtain ⟨r', -, hb, ⟨L', hs', hc⟩, hdet⟩ := taskRegistryDetach_of_mem hi.seg hn hh
    obtain rfl := hdet _ _ hx
    have hen : r'.entries a = some en := by
      obtain ⟨_, -, h₂⟩ := hi.seg.split
      rw [hb a hi.seg.not_mem_prefix]; exact h₂.cons_inv.2.1
    have htcb : en.tcb = h := hh ▸ hi.tcb_eq (a, en) (by simp)
    simp only [vTaskDelete_reg, hen, Option.map_some', Option.some.injEq, Prod.mk.injEq] at hd
    obtain ⟨rfl, rfl⟩ := hd
    rw [htcb]
    exact .inr (.inr (.inr ⟨h, L₁, a, en, L₂, r', L', rfl, hh, hcur, hts, rfl, hs', hc, rfl⟩))

end TaskSys

/-! ## Runs -/

section Runs

variable {cfg : EspConfig} {s s' : TaskSys} {e : TaskEvent} {L : List (Nat × TcbEntry)}

/-- Every step but a task deleting itself keeps the invariant. -/
theorem TaskStep.inv (hs : TaskStep cfg s e s') (hself : ∀ c h f, e = .deleted c h f → c ≠ h)
    (hi : s.Inv L) : ∃ L', s'.Inv L' := by
  cases hs with
  | create _ _ _ _ _ _ _ _ _ _ _ _ hE hT hc =>
    rcases TaskSys.taskCreate_cases hE hT hc with
      ⟨-, -, -, rfl, -⟩ | ⟨_, _, -, heu, hcu, hec, rfl⟩ | ⟨_, -, hcu, rfl⟩
    · exact ⟨L, hi⟩
    · exact ⟨_, hi.insert heu hcu hec⟩
    · exact ⟨L, hi.dynamic hcu⟩
  | delete _ _ _ _ _ hlive hd =>
    rcases TaskSys.taskDelete_cases hi hlive hd with
      ⟨-, rfl⟩ | ⟨rfl, -⟩ | ⟨_, -, -, hts, rfl⟩ |
      ⟨_, _, _, _, _, _, L', rfl, hh, -, -, -, hs', hc, rfl⟩
    · exact ⟨L, hi⟩
    · exact absurd rfl (hself _ _ _ rfl)
    · exact ⟨L, hi.vTaskDelete_dynamic hts⟩
    · exact ⟨L', hi.delete_static hh hs' hc⟩

/-- What a step frees from a state with the invariant. A failed call leaves the state as it
was and frees only blocks it allocated itself; a live task's `StaticTask_t` is freed only by a
delete of that task; a delete by another task frees nothing for a task created without a
stack, and for one created with a stack exactly its `StaticTask_t` and then its entry, two
blocks in use. -/
theorem TaskStep.frees_spec (hs : TaskStep cfg s e s') (hi : s.Inv L) :
    (∀ st f, e = .failed st f → s' = s ∧ ∀ x ∈ f, s.used x = false) ∧
    (∀ h, s.tasks h = some true → h ∈ e.frees → ∃ c f, e = .deleted c h f) ∧
    ∀ c h f, e = .deleted c h f → c ≠ h →
      (s.tasks h = some false → f = []) ∧
      (s.tasks h = some true → ∃ a en, (a, en) ∈ L ∧ en.handle = h ∧ f = [h, a] ∧ a ≠ h ∧
        s.used a = true ∧ s.used h = true) := by
  cases hs with
  | create _ _ _ _ _ _ _ _ _ _ _ _ hE hT hc =>
    rcases TaskSys.taskCreate_cases hE hT hc with
      ⟨_, f, rfl, rfl, hf⟩ | ⟨_, _, rfl, -⟩ | ⟨_, rfl, -⟩
    · refine ⟨fun _ _ he => ?_, fun h hh hm => ?_, fun _ _ _ he => by cases he⟩
      · cases he; exact ⟨rfl, hf⟩
      · have := hi.used_task h (by simp [hh]); simp [hf h hm] at this
    all_goals
      refine ⟨fun _ _ he => (by cases he), fun _ _ hm => ?_, fun _ _ _ he => by cases he⟩
      simp [TaskEvent.frees] at hm
  | delete _ _ _ _ _ hlive hd =>
    rcases TaskSys.taskDelete_cases hi hlive hd with
      ⟨rfl, rfl⟩ | ⟨rfl, -⟩ | ⟨h, rfl, -, hts, -⟩ |
      ⟨h, L₁, a, en, L₂, _, _, rfl, hh, -, hts, rfl, -⟩
    · refine ⟨fun _ _ he => ?_, fun _ _ hm => ?_, fun _ _ _ he => by cases he⟩
      · cases he; exact ⟨rfl, by simp⟩
      · simp [TaskEvent.frees] at hm
    · refine ⟨fun _ _ he => (by cases he), fun _ _ hm => ?_, fun _ _ _ he hne => ?_⟩
      · simp [TaskEvent.frees] at hm
      · cases he; exact absurd rfl hne
    · refine ⟨fun _ _ he => (by cases he), fun _ _ hm => ?_, fun _ _ _ he _ => ?_⟩
      · simp [TaskEvent.frees] at hm
      · cases he
        exact ⟨fun _ => rfl, fun h' => by simp [hts] at h'⟩
    · have hhA := hi.task_not_addr h (by simp [hts])
      have hmem : (a, en) ∈ L₁ ++ (a, en) :: L₂ := by simp
      have hah : a ≠ h := by rintro rfl; exact hhA (List.mem_map_of_mem _ hmem)
      refine ⟨fun _ _ he => (by cases he), fun h' _ hm => ?_, fun _ _ _ he _ => ?_⟩
      · simp only [TaskEvent.frees, List.mem_cons, List.mem_singleton, List.not_mem_nil,
          or_false] at hm
        rcases hm with rfl | rfl
        · exact ⟨_, _, rfl⟩
        · exact absurd (List.mem_map_of_mem _ hmem) (hi.task_not_addr h' (by simp_all))
      · cases he
        exact ⟨fun h' => by simp [hts] at h', fun _ => ⟨a, en, hmem, hh, rfl, hah,
          hi.used_addr a (List.mem_map_of_mem _ hmem), hi.used_task h (by simp [hts])⟩⟩

/-- From no task, every run in which no task deletes itself keeps the invariant. -/
theorem TaskRun.inv {tr : List TaskEvent} (hr : TaskRun cfg TaskSys.init tr s)
    (hself : ∀ c h f, TaskEvent.deleted c h f ∈ tr → c ≠ h) : ∃ L, s.Inv L := by
  induction hr with
  | refl => exact ⟨[], TaskSys.inv_init⟩
  | step _ hs ih =>
    obtain ⟨L, hi⟩ := ih fun c h f hm => hself c h f (List.mem_append_left _ hm)
    exact hs.inv (fun c h f he => hself c h f (by simp [he])) hi

end Runs

/-- On the ESP backend, after any calls of `osal_task_create` and `osal_task_delete` in which
no task deletes itself, the list at `osal_task_registry_head` reaches `NULL` without
revisiting a block, and holds one entry, with its own `StaticTask_t`, for each live task
created with a stack. `osal_task_registry_detach` returns `NULL` and changes nothing for a
handle without an entry, and otherwise returns the entry and unlinks it, keeping the others
in order; it finishes, within one iteration per entry. Every next call frees only blocks in
use: a failed call changes nothing, a live task's `StaticTask_t` is freed only by the delete
of that task, which frees it and its entry, and a delete frees nothing for a task created
without a stack. -/
theorem task_registry_tracks_static_tasks {cfg : EspConfig} {tr : List TaskEvent}
    {s : TaskSys} (hr : TaskRun cfg TaskSys.init tr s)
    (hself : ∀ c h f, TaskEvent.deleted c h f ∈ tr → c ≠ h) :
    ∃ L, Seg s.reg.entries s.reg.head L none ∧ (L.map Prod.fst).Nodup ∧
      (handles L).Nodup ∧ (∀ h, s.tasks h = some true ↔ h ∈ handles L) ∧
      (∀ x ∈ L, x.2.tcb = x.2.handle) ∧
      (∀ h, h ∉ handles L → taskRegistryDetach h s.reg L.length = some (s.reg, none) ∧
        ∀ fuel x, taskRegistryDetach h s.reg fuel = some x → x = (s.reg, none)) ∧
      (∀ L₁ a en L₂, L = L₁ ++ (a, en) :: L₂ →
        ∃ r', taskRegistryDetach en.handle s.reg (L₁.length + 1) = some (r', some a) ∧
          (∃ L', Seg r'.entries r'.head L' none ∧ cells L' = cells L₁ ++ cells L₂) ∧
          ∀ fuel x, taskRegistryDetach en.handle s.reg fuel = some x → x = (r', some a)) ∧
      ∀ e s', TaskStep cfg s e s' →
        (∀ st f, e = .failed st f → s' = s ∧ ∀ x ∈ f, s.used x = false) ∧
        (∀ h, s.tasks h = some true → h ∈ e.frees → ∃ c f, e = .deleted c h f) ∧
        ∀ c h f, e = .deleted c h f → c ≠ h →
          (s.tasks h = some false → f = []) ∧
          (s.tasks h = some true → ∃ a en, (a, en) ∈ L ∧ en.handle = h ∧ f = [h, a] ∧
            a ≠ h ∧ s.used a = true ∧ s.used h = true) := by
  obtain ⟨L, hi⟩ := hr.inv hself
  refine ⟨L, hi.seg, hi.seg.nodup_addrs, hi.handles_nodup, hi.static_iff, hi.tcb_eq,
    fun h hn => taskRegistryDetach_of_not_mem hi.seg hn, fun L₁ a en L₂ hL => ?_,
    fun e s' hs => hs.frees_spec hi⟩
  subst hL
  obtain ⟨r', hd, -, hL', hdet⟩ := taskRegistryDetach_of_mem hi.seg hi.handle_not_mem_prefix rfl
  exact ⟨r', hd, hL', hdet⟩

/-- `task_registry_tracks_static_tasks` after task 100 creates a task on its own stack, with
the entry at block 1 and the `StaticTask_t` at block 2, and then deletes it. -/
theorem task_registry_tracks_static_tasks_after_delete :
    ∃ s, TaskRun ⟨25, 1, some 2⟩ TaskSys.init [.created 2 true, .deleted 100 2 [2, 1]] s ∧
    (∀ c h f, TaskEvent.deleted c h f ∈ [.created 2 true, .deleted 100 2 [2, 1]] → c ≠ h) ∧
    ∃ L, Seg s.reg.entries s.reg.head L none ∧ (L.map Prod.fst).Nodup ∧
      (handles L).Nodup ∧ (∀ h, s.tasks h = some true ↔ h ∈ handles L) ∧
      (∀ x ∈ L, x.2.tcb = x.2.handle) ∧
      (∀ h, h ∉ handles L → taskRegistryDetach h s.reg L.length = some (s.reg, none) ∧
        ∀ fuel x, taskRegistryDetach h s.reg fuel = some x → x = (s.reg, none)) ∧
      (∀ L₁ a en L₂, L = L₁ ++ (a, en) :: L₂ →
        ∃ r', taskRegistryDetach en.handle s.reg (L₁.length + 1) = some (r', some a) ∧
          (∃ L', Seg r'.entries r'.head L' none ∧ cells L' = cells L₁ ++ cells L₂) ∧
          ∀ fuel x, taskRegistryDetach en.handle s.reg fuel = some x → x = (r', some a)) ∧
      ∀ e s', TaskStep ⟨25, 1, some 2⟩ s e s' →
        (∀ st f, e = .failed st f → s' = s ∧ ∀ x ∈ f, s.used x = false) ∧
        (∀ h, s.tasks h = some true → h ∈ e.frees → ∃ c f, e = .deleted c h f) ∧
        ∀ c h f, e = .deleted c h f → c ≠ h →
          (s.tasks h = some false → f = []) ∧
          (s.tasks h = some true → ∃ a en, (a, en) ∈ L ∧ en.handle = h ∧ f = [h, a] ∧
            a ≠ h ∧ s.used a = true ∧ s.used h = true) := by
  have hr : TaskRun ⟨25, 1, some 2⟩ TaskSys.init [.created 2 true, .deleted 100 2 [2, 1]] _ :=
    .step (.step (.refl _) (.create _ true (some [65, 0]) true true 4096 5 none (some 1) (some 2)
      true _ _ (fun _ h => by cases h; rfl) (fun _ h => by cases h; exact ⟨rfl, by decide⟩) rfl))
      (.delete _ 100 (some 2) 1 _ _ (fun _ h => by cases h; decide) rfl)
  have hself : ∀ c h f, TaskEvent.deleted c h f ∈ [.created 2 true, .deleted 100 2 [2, 1]] →
      c ≠ h := by
    intro c h f hm
    simp only [List.mem_cons, TaskEvent.deleted.injEq, List.mem_singleton,
      List.not_mem_nil, or_false] at hm
    rcases hm with hm | ⟨rfl, rfl, -⟩
    · cases hm
    · decide
  exact ⟨_, hr, hself, task_registry_tracks_static_tasks hr hself⟩

end Osal
