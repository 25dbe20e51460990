import Osal.Basic

/-!
# Counting and binary semaphores

`osal_count_sem` has two backends. On POSIX a semaphore is a `sem_t`: `sem_post` adds a token
unless the count is at `SEM_VALUE_MAX`, `sem_wait` blocks until it takes one or a signal
interrupts it, `sem_trywait` takes one or fails with `EAGAIN`, and `sem_timedwait` gives up at
its deadline. On ESP it is a FreeRTOS counting semaphore of at most `effective_max` tokens:
`xSemaphoreGive` adds one unless it is full, and `xSemaphoreTake` takes one, waiting up to the
ticks `osal_timeout_to_ticks` gives (`portMAX_DELAY`, no limit, for `OSAL_MAX_DELAY`). The ESP
binary semaphore is the same FreeRTOS object with room for one token, and its calls have the
bodies of the counting ones.

Each call is modelled up to the point where it blocks (`SemEntry`); the kernel then completes a
blocked call when a token is there, at its deadline, or, for the POSIX `sem_wait`, on a signal.
`SemStep` is one call or completion of any task, or a tick, so a run is any interleaving.

`count_sem_tokens`: in every run on either backend, the count is the initial count plus the
gives that returned `OSAL_SUCCESS` minus the takes that did, so no token is lost or made up by
the status codes the wrappers return, and the count never passes the bound the semaphore was
created with: `effective_max` on ESP, which is `initial_value`, or `1`, when `max_value` is
`0`; `SEM_VALUE_MAX` on POSIX, where `max_value` bounds nothing past the check in
`osal_count_sem_create`; and `1` for the binary semaphore.
-/

namespace Osal

/-- A kernel semaphore: its count, and the most it holds (`SEM_VALUE_MAX` for a `sem_t`,
`uxMaxCount` for a FreeRTOS semaphore). -/
structure CountSem where
  count : Nat
  bound : Nat
  count_le : count ≤ bound

/-- `sem_post`, `xSemaphoreGive`: one token more, or `none` at the bound (`EOVERFLOW`,
`errQUEUE_FULL`). -/
def CountSem.give (c : CountSem) : Option CountSem :=
  if h : c.count < c.bound then some ⟨c.count + 1, c.bound, h⟩ else none

/-- A take that finds a token: one fewer, or `none` on an empty semaphore. -/
def CountSem.take (c : CountSem) : Option CountSem :=
  if 0 < c.count then some ⟨c.count - 1, c.bound, Nat.le_trans (Nat.sub_le _ _) c.count_le⟩
  else none

theorem CountSem.give_spec {c c' : CountSem} (h : c.give = some c') :
    c'.count = c.count + 1 ∧ c'.bound = c.bound := by
  unfold CountSem.give at h
  split at h <;> cases h
  exact ⟨rfl, rfl⟩

theorem CountSem.take_spec {c c' : CountSem} (h : c.take = some c') :
    c'.count + 1 = c.count ∧ c'.bound = c.bound := by
  unfold CountSem.take at h
  split at h <;> cases h
  exact ⟨by simp only; omega, rfl⟩

/-! ## The calls -/

/-- The calls on a created semaphore, with `timed_wait`'s `timeout_ms`; `get_count` apart. -/
inductive SemCall
  | give
  | take
  | timedWait (timeoutMs : Nat)
  | giveFromIsr
  | takeFromIsr
  deriving DecidableEq, Repr

/-- `give` and `give_from_isr` add a token; the others take one. -/
def SemCall.gives : SemCall → Bool
  | .give | .giveFromIsr => true
  | _ => false

/-- The call returned `status` having added a token. -/
def SemCall.gave (call : SemCall) (status : OsalStatus) : Bool :=
  status == .success && call.gives

/-- The call returned `status` having taken a token. -/
def SemCall.took (call : SemCall) (status : OsalStatus) : Bool :=
  status == .success && !call.gives

/-- How a call leaves its task: returned with a status and the semaphore after it, or blocked
in the kernel until a token comes, until `deadline` (then it returns `onTimeout`), or, if
`interruptible`, until a signal (then `OSAL_SEM_FAILURE`). -/
inductive SemEntry
  | done (status : OsalStatus) (sem : CountSem)
  | block (deadline : Option Nat) (onTimeout : OsalStatus) (interruptible : Bool)

/-- A give that does not wait: `OSAL_SUCCESS` with one token more, or `OSAL_SEM_FAILURE` when
the kernel refuses it. -/
def SemEntry.tryGive (c : CountSem) : SemEntry :=
  match c.give with
  | some c' => .done .success c'
  | none => .done .semFailure c

/-- A take that does not wait: `OSAL_SUCCESS` with a token, or `fail` without one. -/
def SemEntry.tryTake (c : CountSem) (fail : OsalStatus) : SemEntry :=
  match c.take with
  | some c' => .done .success c'
  | none => .done fail c

/-- `osal_sem_wait_timed` of the POSIX backend (lines 10–73), with `_POSIX_TIMERS`:
`sem_trywait` for a zero timeout (`EAGAIN` is `OSAL_SEM_TIMEOUT`), `sem_wait` for
`OSAL_MAX_DELAY` (a signal is `OSAL_SEM_FAILURE`), and otherwise `sem_timedwait` to
`now + timeout_ms`, called again after `EINTR`. -/
def posixSemWaitTimed (timeoutMs now : Nat) (c : CountSem) : SemEntry :=
  if timeoutMs = 0 then .tryTake c .semTimeout
  else if timeoutMs = maxDelay then .block none .semFailure true
  else .block (some (now + timeoutMs)) .semTimeout false

/-- The POSIX calls (lines 123–164): `sem_post`, `sem_wait`, `osal_sem_wait_timed`, and the
ISR calls, which are not implemented. -/
def posixCountSemEntry (call : SemCall) (now : Nat) (c : CountSem) : SemEntry :=
  match call with
  | .give => .tryGive c
  | .take => .block none .semFailure true
  | .timedWait timeoutMs => posixSemWaitTimed timeoutMs now c
  | .giveFromIsr | .takeFromIsr => .done .errNotImplemented c

/-- `osal_timeout_to_ticks` of the ESP backend (lines 9–17): `none` for `portMAX_DELAY`. -/
def osalTimeoutToTicks (hz timeoutMs : Nat) : Option Nat :=
  if timeoutMs = maxDelay then none else some (pdMsToTicks hz timeoutMs)

/-- `xSemaphoreTake(sem, ticks)` up to where it blocks: with no tick to wait, a token or `fail`
at once; otherwise blocked until `now + ticks`, or without limit for `portMAX_DELAY`. -/
def xSemaphoreTake (ticks : Option Nat) (now : Nat) (c : CountSem) (fail : OsalStatus) :
    SemEntry :=
  match ticks with
  | some 0 => .tryTake c fail
  | some t => .block (some (now + t)) fail false
  | none => .block none fail false

/-- The ESP calls (lines 64–135): `xSemaphoreGive`, `xSemaphoreTake` with `portMAX_DELAY`, and
with `osal_timeout_to_ticks(timeout_ms)`, failing with `OSAL_SEM_FAILURE` for `OSAL_MAX_DELAY`
and `OSAL_SEM_TIMEOUT` otherwise; the ISR calls never wait, and a failed take from an ISR is
`OSAL_SEM_TIMEOUT`. -/
def espCountSemEntry (hz : Nat) (call : SemCall) (now : Nat) (c : CountSem) : SemEntry :=
  match call with
  | .give | .giveFromIsr => .tryGive c
  | .take => xSemaphoreTake none now c .semFailure
  | .timedWait timeoutMs => xSemaphoreTake (osalTimeoutToTicks hz timeoutMs) now c
      (if timeoutMs = maxDelay then .semFailure else .semTimeout)
  | .takeFromIsr => .tryTake c .semTimeout

/-- The calls of the ESP binary semaphore (`osal_bin_sem_impl.c`, lines 56–127), whose bodies
are those of the counting semaphore's calls. -/
def espBinSemEntry (hz : Nat) : SemCall → Nat → CountSem → SemEntry := espCountSemEntry hz

/-! ## Creation -/

/-- `effective_max` of the ESP `osal_count_sem_create` (lines 35–39): `max_value`, or for `0`
the initial value, and `1` when that is `0` too. -/
def effectiveMax (initialValue maxValue : Nat) : Nat :=
  if maxValue = 0 then (if initialValue = 0 then 1 else initialValue) else maxValue

/-- `osal_count_sem_create` of the ESP backend (lines 19–54), `created` whether
`xSemaphoreCreateCounting` allocates. -/
def espCountSemCreate (semId : Bool) (name : Option (List UInt8)) (initialValue maxValue : UInt32)
    (created : Bool) : Except OsalStatus CountSem :=
  if !semId then .error .invalidPointer
  else if name.any (fun s => !lengthCheck s maxNameLen) then .error .errNameTooLong
  else if h : initialValue.toNat > effectiveMax initialValue.toNat maxValue.toNat then
    .error .invalidSemValue
  else if !created then .error .error
  else .ok ⟨initialValue.toNat, effectiveMax initialValue.toNat maxValue.toNat, Nat.le_of_not_lt h⟩

/-- `osal_count_sem_create` of the POSIX backend (lines 75–108) on a host whose `SEM_VALUE_MAX`
is `semValueMax`, `allocated` whether `malloc` succeeds; `sem_init` refuses an initial value
above `SEM_VALUE_MAX`. -/
def posixCountSemCreate (semValueMax : Nat) (semId : Bool) (name : Option (List UInt8))
    (initialValue maxValue : UInt32) (allocated : Bool) : Except OsalStatus CountSem :=
  if !semId then .error .invalidPointer
  else if name.any (fun s => !lengthCheck s maxNameLen) then .error .errNameTooLong
  else if maxValue.toNat ≠ 0 ∧ initialValue.toNat > maxValue.toNat then .error .invalidSemValue
  else if !allocated then .error .error
  else if h : initialValue.toNat ≤ semValueMax then .ok ⟨initialValue.toNat, semValueMax, h⟩
  else .error .error

/-- `OSAL_SEM_FULL`. -/
def semFull : Nat := 1

/-- `osal_bin_sem_create` of the ESP backend (lines 19–46): an empty semaphore from
`xSemaphoreCreateBinary`, given once for `OSAL_SEM_FULL`. -/
def espBinSemCreate (semId : Bool) (name : Option (List UInt8)) (initialValue : UInt32)
    (created : Bool) : Except OsalStatus CountSem :=
  if !semId then .error .invalidPointer
  else if initialValue.toNat > semFull then .error .invalidSemValue
  else if name.any (fun s => !lengthCheck s maxNameLen) then .error .errNameTooLong
  else if !created then .error .error
  else .ok (if initialValue.toNat = semFull then ⟨1, 1, le_rfl⟩ else ⟨0, 1, Nat.zero_le _⟩)

theorem espCountSemCreate_ok {semId : Bool} {name : Option (List UInt8)}
    {initialValue maxValue : UInt32} {created : Bool} {c : CountSem}
    (h : espCountSemCreate semId name initialValue maxValue created = .ok c) :
    c.count = initialValue.toNat ∧ c.bound = effectiveMax initialValue.toNat maxValue.toNat := by
  unfold espCountSemCreate at h
  split_ifs at h
  cases h
  exact ⟨rfl, rfl⟩

theorem posixCountSemCreate_ok {semValueMax : Nat} {semId : Bool} {name : Option (List UInt8)}
    {initialValue maxValue : UInt32} {allocated : Bool} {c : CountSem}
    (h : posixCountSemCreate semValueMax semId name initialValue maxValue allocated = .ok c) :
    c.count = initialValue.toNat ∧ c.bound = semValueMax := by
  unfold posixCountSemCreate at h
  split_ifs at h
  cases h
  exact ⟨rfl, rfl⟩

theorem espBinSemCreate_ok {semId : Bool} {name : Option (List UInt8)} {initialValue : UInt32}
    {created : Bool} {c : CountSem} (h : espBinSemCreate semId name initialValue created = .ok c) :
    c.count = initialValue.toNat ∧ c.bound = 1 := by
  unfold espBinSemCreate semFull at h
  split_ifs at h <;> cases h <;> exact ⟨by simp only; omega, rfl⟩

/-! ## Tasks on one semaphore -/

/-- Where a task is: outside the semaphore's calls, or blocked in the kernel in `call`. -/
inductive SemPc
  | idle
  | blocked (call : SemCall) (deadline : Option Nat) (onTimeout : OsalStatus)
      (interruptible : Bool)

/-- The semaphore, the tasks, and the clock (milliseconds on POSIX, ticks on ESP). -/
structure SemSys (τ : Type) where
  sem : CountSem
  pc : τ → SemPc
  now : Nat

/-- A created semaphore with no task in a call. -/
def SemSys.init {τ : Type} (c : CountSem) : SemSys τ := ⟨c, fun _ => .idle, 0⟩

/-- A backend: its calls up to where they block, and whether a wait at its deadline still takes
a token that came meanwhile (FreeRTOS's `xSemaphoreTake` looks again before it fails; glibc's
`sem_timedwait` returns `ETIMEDOUT`). -/
structure SemBackend where
  entry : SemCall → Nat → CountSem → SemEntry
  recheck : Bool

def SemBackend.posix : SemBackend := ⟨posixCountSemEntry, false⟩

def SemBackend.esp (hz : Nat) : SemBackend := ⟨espCountSemEntry hz, true⟩

def SemBackend.espBin (hz : Nat) : SemBackend := ⟨espBinSemEntry hz, true⟩

/-- What a step shows: a call returning its status, a call blocking in the kernel,
`get_count`'s result, or a tick. -/
inductive SemEvent (τ : Type)
  | returned (t : τ) (call : SemCall) (status : OsalStatus)
  | blocked (t : τ) (call : SemCall)
  | counted (t : τ) (n : Nat)
  | tick

/-- The event is a call that returned `OSAL_SUCCESS` having added a token. -/
def SemEvent.gave {τ : Type} : SemEvent τ → Bool
  | .returned _ call status => call.gave status
  | _ => false

/-- The event is a call that returned `OSAL_SUCCESS` having taken a token. -/
def SemEvent.took {τ : Type} : SemEvent τ → Bool
  | .returned _ call status => call.took status
  | _ => false

section System

variable {τ : Type} [DecidableEq τ]

/-- One call of a task, or one completion of a blocked call by the kernel, or a tick. -/
inductive SemStep (B : SemBackend) : SemSys τ → SemEvent τ → SemSys τ → Prop
  | call (s t call status c) : s.pc t = .idle → B.entry call s.now s.sem = .done status c →
      SemStep B s (.returned t call status) { s with sem := c }
  | block (s t call d st i) : s.pc t = .idle → B.entry call s.now s.sem = .block d st i →
      SemStep B s (.blocked t call) { s with pc := Function.update s.pc t (.blocked call d st i) }
  | acquire (s t call d st i c) : s.pc t = .blocked call d st i → s.sem.take = some c →
      SemStep B s (.returned t call .success)
        { s with sem := c, pc := Function.update s.pc t .idle }
  | timeout (s t call d st i) : s.pc t = .blocked call (some d) st i → d ≤ s.now →
      (B.recheck → s.sem.count = 0) →
      SemStep B s (.returned t call st) { s with pc := Function.update s.pc t .idle }
  | interrupt (s t call d st) : s.pc t = .blocked call d st true →
      SemStep B s (.returned t call .semFailure) { s with pc := Function.update s.pc t .idle }
  | getCount (s t) : s.pc t = .idle → SemStep B s (.counted t s.sem.count) s
  | tick (s) : SemStep B s .tick { s with now := s.now + 1 }

/-- Runs of `SemStep`, with their traces. -/
inductive SemRun (B : SemBackend) : SemSys τ → List (SemEvent τ) → SemSys τ → Prop
  | refl (s) : SemRun B s [] s
  | step {s tr s' e s''} : SemRun B s tr s' → SemStep B s' e s'' → SemRun B s (tr ++ [e]) s''

end System

/-! ## Tokens -/

/-- What a call may do before the kernel completes it: return at once, with one token more
exactly when it is a give that succeeded and one fewer exactly when it is a take that
succeeded, or block a take whose timeout does not report success. -/
def SemEntry.Sound (call : SemCall) (c : CountSem) : SemEntry → Prop
  | .done status c' => c'.bound = c.bound ∧
      c'.count + (if call.took status then 1 else 0) = c.count + (if call.gave status then 1 else 0)
  | .block _ onTimeout _ => call.gives = false ∧ onTimeout ≠ .success

/-- Every call of the backend is sound. -/
def SemBackend.Sound (B : SemBackend) : Prop := ∀ call now c, (B.entry call now c).Sound call c

section Sound

variable {call : SemCall} {c : CountSem}

theorem SemEntry.tryGive_sound (hg : call.gives = true) : (SemEntry.tryGive c).Sound call c := by
  unfold SemEntry.tryGive
  split
  · rename_i c' h
    obtain ⟨h₁, h₂⟩ := CountSem.give_spec h
    simp [SemEntry.Sound, SemCall.took, SemCall.gave, hg, h₁, h₂]
  · simp [SemEntry.Sound, SemCall.took, SemCall.gave]

theorem SemEntry.tryTake_sound (hg : call.gives = false) {fail : OsalStatus}
    (hf : fail ≠ .success) : (SemEntry.tryTake c fail).Sound call c := by
  unfold SemEntry.tryTake
  split
  · rename_i c' h
    obtain ⟨h₁, h₂⟩ := CountSem.take_spec h
    simp [SemEntry.Sound, SemCall.took, SemCall.gave, hg, h₁, h₂]
  · simp [SemEntry.Sound, SemCall.took, SemCall.gave, hf]

theorem xSemaphoreTake_sound (hg : call.gives = false) {fail : OsalStatus} (hf : fail ≠ .success)
    (ticks : Option Nat) (now : Nat) : (xSemaphoreTake ticks now c fail).Sound call c := by
  unfold xSemaphoreTake
  split
  · exact SemEntry.tryTake_sound hg hf
  all_goals exact ⟨hg, hf⟩

end Sound

theorem SemBackend.posix_sound : SemBackend.posix.Sound := by
  intro call now c
  cases call with
  | give => exact SemEntry.tryGive_sound rfl
  | take => exact ⟨rfl, by decide⟩
  | timedWait timeoutMs =>
    show (posixSemWaitTimed timeoutMs now c).Sound (.timedWait timeoutMs) c
    unfold posixSemWaitTimed
    split_ifs
    · apply SemEntry.tryTake_sound
      · rfl
      · decide
    all_goals exact ⟨rfl, by decide⟩
  | giveFromIsr | takeFromIsr => exact ⟨rfl, by simp [SemCall.took, SemCall.gave]⟩

theorem SemBackend.esp_sound (hz : Nat) : (SemBackend.esp hz).Sound := by
  intro call now c
  show (espCountSemEntry hz call now c).Sound call c
  cases call <;> dsimp only [espCountSemEntry]
  case give | giveFromIsr => apply SemEntry.tryGive_sound; rfl
  case take => apply xSemaphoreTake_sound <;> decide
  case timedWait timeoutMs =>
    apply xSemaphoreTake_sound
    · rfl
    · split <;> decide
  case takeFromIsr => apply SemEntry.tryTake_sound <;> decide

section Run

variable {τ : Type} [DecidableEq τ] {B : SemBackend} {s s' : SemSys τ} {e : SemEvent τ}

/-- Every blocked call is a take whose timeout does not report success. -/
def SemSys.Blocked (s : SemSys τ) : Prop :=
  ∀ t call d st i, s.pc t = .blocked call d st i → call.gives = false ∧ st ≠ .success

theorem SemSys.Blocked.update {s : SemSys τ} (hb : s.Blocked) {t : τ} {p : SemPc}
    (hp : ∀ call d st i, p = .blocked call d st i → call.gives = false ∧ st ≠ .success) :
    SemSys.Blocked { s with pc := Function.update s.pc t p } := by
  intro u call d st i hu
  simp only [Function.update_apply] at hu
  split at hu
  · exact hp _ _ _ _ hu
  · exact hb _ _ _ _ _ hu

/-- One step keeps the bound and the blocked calls takes, and moves one token exactly when it
returns a successful give or take. -/
theorem SemStep.tokens (hB : B.Sound) (h : SemStep B s e s') (hb : s.Blocked) :
    s'.Blocked ∧ s'.sem.bound = s.sem.bound ∧
      s'.sem.count + (if e.took then 1 else 0) = s.sem.count + (if e.gave then 1 else 0) := by
  cases h with
  | call t call status c _ he =>
    have := hB call s.now s.sem
    rw [he] at this
    exact ⟨hb, this⟩
  | block t call d st i _ he =>
    have := hB call s.now s.sem
    rw [he] at this
    exact ⟨hb.update fun _ _ _ _ hp => by cases hp; exact this, rfl, rfl⟩
  | acquire t call d st i c hp hc =>
    obtain ⟨h₁, h₂⟩ := CountSem.take_spec hc
    have hg := (hb _ _ _ _ _ hp).1
    refine ⟨hb.update fun _ _ _ _ hp => (by cases hp), h₂, ?_⟩
    simp [SemEvent.took, SemEvent.gave, SemCall.took, SemCall.gave, hg, h₁]
  | timeout t call d st i hp =>
    have hst := (hb _ _ _ _ _ hp).2
    exact ⟨hb.update fun _ _ _ _ hp => (by cases hp), rfl,
      by simp [SemEvent.took, SemEvent.gave, SemCall.took, SemCall.gave, hst]⟩
  | interrupt t call d st =>
    exact ⟨hb.update fun _ _ _ _ hp => (by cases hp), rfl,
      by simp [SemEvent.took, SemEvent.gave, SemCall.took, SemCall.gave]⟩
  | getCount | tick => exact ⟨hb, rfl, rfl⟩

/-- Along a run from a created semaphore: the count is the initial one plus the successful
gives minus the successful takes, and it stays within the bound. -/
theorem SemRun.tokens (hB : B.Sound) {c : CountSem} {tr : List (SemEvent τ)}
    (h : SemRun B (SemSys.init c) tr s) :
    s.Blocked ∧ s.sem.bound = c.bound ∧
      s.sem.count + tr.countP SemEvent.took = c.count + tr.countP SemEvent.gave := by
  induction h with
  | refl => exact ⟨fun _ _ _ _ _ h => (by cases h), rfl, by simp [SemSys.init]⟩
  | step _ hs ih =>
    obtain ⟨hb, hbound, hcount⟩ := ih
    obtain ⟨hb', hbound', hcount'⟩ := hs.tokens hB hb
    refine ⟨hb', hbound'.trans hbound, ?_⟩
    simp only [List.countP_append, List.countP_singleton]
    split <;> split <;> simp_all <;> omega

end Run

/-- In every interleaving of tasks calling `give`, `take`, `timed_wait` with any timeouts, the
ISR calls and `get_count` on a semaphore `osal_count_sem_create` or `osal_bin_sem_create`
made, the count is the initial value plus the gives that returned `OSAL_SUCCESS` minus the
takes that did. The count never passes `effective_max` on ESP, nor `1` for the binary
semaphore; on POSIX only `SEM_VALUE_MAX` bounds it, whatever `max_value` was. -/
theorem count_sem_tokens {τ : Type} [DecidableEq τ] {hz semValueMax : Nat} {semId : Bool}
    {name : Option (List UInt8)} {initialValue maxValue : UInt32} {created : Bool} :
    (∀ {c : CountSem} {tr : List (SemEvent τ)} {s : SemSys τ},
      espCountSemCreate semId name initialValue maxValue created = .ok c →
      SemRun (.esp hz) (SemSys.init c) tr s →
      s.sem.count + tr.countP SemEvent.took = initialValue.toNat + tr.countP SemEvent.gave ∧
        s.sem.count ≤ effectiveMax initialValue.toNat maxValue.toNat) ∧
    (∀ {c : CountSem} {tr : List (SemEvent τ)} {s : SemSys τ},
      posixCountSemCreate semValueMax semId name initialValue maxValue created = .ok c →
      SemRun .posix (SemSys.init c) tr s →
      s.sem.count + tr.countP SemEvent.took = initialValue.toNat + tr.countP SemEvent.gave ∧
        s.sem.count ≤ semValueMax) ∧
    (∀ {c : CountSem} {tr : List (SemEvent τ)} {s : SemSys τ},
      espBinSemCreate semId name initialValue created = .ok c →
      SemRun (.espBin hz) (SemSys.init c) tr s →
      s.sem.count + tr.countP SemEvent.took = initialValue.toNat + tr.countP SemEvent.gave ∧
        s.sem.count ≤ 1) := by
  refine ⟨@fun _ _ s hc h => ?_, @fun _ _ s hc h => ?_, @fun _ _ s hc h => ?_⟩
  · obtain ⟨-, hb, hn⟩ := h.tokens (SemBackend.esp_sound hz)
    obtain ⟨h₁, h₂⟩ := espCountSemCreate_ok hc
    exact ⟨h₁ ▸ hn, h₂ ▸ hb ▸ s.sem.count_le⟩
  · obtain ⟨-, hb, hn⟩ := h.tokens SemBackend.posix_sound
    obtain ⟨h₁, h₂⟩ := posixCountSemCreate_ok hc
    exact ⟨h₁ ▸ hn, h₂ ▸ hb ▸ s.sem.count_le⟩
  · obtain ⟨-, hb, hn⟩ := h.tokens (SemBackend.esp_sound hz)
    obtain ⟨h₁, h₂⟩ := espBinSemCreate_ok hc
    exact ⟨h₁ ▸ hn, h₂ ▸ hb ▸ s.sem.count_le⟩

/-- A POSIX semaphore created with `max_value = 3` holds four tokens after four gives, while an
ESP semaphore created with `max_value = 0` refuses its second give. -/
theorem count_sem_tokens_max_value :
    (∃ tr c s, tr = List.replicate 4 (SemEvent.returned () .give .success) ∧
      posixCountSemCreate 2147483647 true none 0 3 true = .ok c ∧ SemRun .posix (SemSys.init c) tr s ∧
      3 < s.sem.count ∧
      (s.sem.count + tr.countP SemEvent.took = (0 : UInt32).toNat + tr.countP SemEvent.gave ∧
        s.sem.count ≤ 2147483647)) ∧
    (∃ tr c s, tr = [SemEvent.returned () .give .success, .returned () .give .semFailure] ∧
      espCountSemCreate true none 0 0 true = .ok c ∧ SemRun (.esp 100) (SemSys.init c) tr s ∧
      (s.sem.count + tr.countP SemEvent.took = (0 : UInt32).toNat + tr.countP SemEvent.gave ∧
        s.sem.count ≤ effectiveMax (0 : UInt32).toNat (0 : UInt32).toNat)) := by
  have hp : posixCountSemCreate 2147483647 true none 0 3 true = .ok ⟨0, 2147483647, by decide⟩ := rfl
  have he : espCountSemCreate true none 0 0 true = .ok ⟨0, 1, by decide⟩ := rfl
  have h₁ : SemRun .posix (SemSys.init ⟨0, 2147483647, by decide⟩)
      (List.replicate 4 (SemEvent.returned () .give .success)) _ :=
    ((((SemRun.refl _).step (.call _ () .give .success ⟨1, 2147483647, by decide⟩ rfl rfl)).step
      (.call _ () .give .success ⟨2, 2147483647, by decide⟩ rfl rfl)).step
      (.call _ () .give .success ⟨3, 2147483647, by decide⟩ rfl rfl)).step
      (.call _ () .give .success ⟨4, 2147483647, by decide⟩ rfl rfl)
  have h₂ : SemRun (.esp 100) (SemSys.init ⟨0, 1, by decide⟩)
      [SemEvent.returned () .give .success, .returned () .give .semFailure] _ :=
    ((SemRun.refl _).step (.call _ () .give .success ⟨1, 1, le_rfl⟩ rfl rfl)).step
      (.call _ () .give .semFailure ⟨1, 1, le_rfl⟩ rfl rfl)
  exact ⟨⟨_, _, _, rfl, hp, h₁, by decide, (@count_sem_tokens Unit _ 100 2147483647 true none 0 3
    true).2.1 hp h₁⟩, ⟨_, _, _, rfl, he, h₂, (@count_sem_tokens Unit _ 100 2147483647 true none 0 0
    true).1 he h₂⟩⟩

end Osal
