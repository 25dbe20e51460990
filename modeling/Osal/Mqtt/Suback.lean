import Osal.Basic

/-!
# Waiting for the SUBACK

`MqttApp_Subscribe` clears `mqtt_acks.suback_received`, sends its SUBSCRIBE, starts the
one-shot suback timer and blocks on the binary semaphore `mqtt_sync.suback`; when it gets the
token it returns the flag. Two other tasks give that semaphore: the network task on any SUBACK
(`handle_mqtt_command` sets the flag and stops the timer), and the timer daemon when the timer
expires with the flag clear (`suback_timer_callback`). `SubackStep` is one action of any of
the three tasks or of the broker, so a run is any interleaving of them.

What the code guarantees (`SubackRun.returned_true`): a call returns `true` only if some
SUBACK arrived after its own SUBSCRIBE was sent. Nothing ties that SUBACK to the packet, since
the handler does not read the packet identifier. When one subscribe times out and its SUBACK
comes late, the next call returns `true` on that late SUBACK while its own packet is never
answered; and if the late SUBACK arrives between the two calls, its give stays in the semaphore,
so the next call returns `false` at once although its own SUBACK arrives within its timeout
(`suback_not_matched_to_packet`).
-/

namespace Osal

/-- Where the task in `MqttApp_Subscribe` is, for the call that sent SUBSCRIBE number
`packet`: blocked in `xSemaphoreTake` until tick `deadline`, or holding the token. -/
inductive SubCall
  | idle
  | waiting (packet deadline : Nat)
  | taken (packet : Nat)
  deriving DecidableEq, Repr

/-- The packet of the call in progress. -/
def SubCall.packet : SubCall → Option Nat
  | .idle => none
  | .waiting packet _ => some packet
  | .taken packet => some packet

/-- The state the three tasks share: the subscribing task's place, `suback_received`, the
token of `mqtt_sync.suback`, the expiry tick of the suback timer while it runs, the tick
count, and the SUBSCRIBE packets sent so far and not yet answered by the broker. -/
structure SubackSys where
  call : SubCall
  subackReceived : Bool
  sem : Bool
  timer : Option Nat
  now : Nat
  sent : Nat
  unanswered : List Nat
  deriving DecidableEq, Repr

/-- After `MqttApp_Init`: `mqtt_acks` zero, the semaphore created empty, the timer dormant. -/
def SubackSys.init : SubackSys := ⟨.idle, false, false, none, 0, 0, []⟩

/-- Lines 434–440 of `MqttApp_Subscribe(topic, qos, callback, timeout_ms)`, up to the blocking
`xSemaphoreTake`: the flag cleared, SUBSCRIBE number `s.sent` sent, the timer (re)started with
period `pdMS_TO_TICKS(timeout_ms)`, and the wait bounded by `pdMS_TO_TICKS(timeout_ms + 100)`. -/
def SubackSys.subscribe (hz timeoutMs : Nat) (s : SubackSys) : SubackSys :=
  { s with
    call := .waiting s.sent (s.now + pdMsToTicks hz (u32 (timeoutMs + 100)))
    subackReceived := false
    timer := some (s.now + pdMsToTicks hz timeoutMs)
    sent := s.sent + 1
    unanswered := s.unanswered ++ [s.sent] }

/-- `handle_mqtt_command` on the SUBACK answering packet `n` (lines 275–280). -/
def SubackSys.suback (n : Nat) (s : SubackSys) : SubackSys :=
  { s with subackReceived := true, timer := none, sem := true, unanswered := s.unanswered.erase n }

/-- `suback_timer_callback` when the one-shot timer expires (lines 162–169): a give, which on a
binary semaphore that holds its token changes nothing, if the flag is clear. -/
def SubackSys.expire (s : SubackSys) : SubackSys :=
  { s with timer := none, sem := s.sem || !s.subackReceived }

/-- What each step shows: a SUBSCRIBE sent, a SUBACK received, the timer callback, the token
taken, a call returning, a tick. -/
inductive SubackEvent
  | subscribe (packet : Nat)
  | suback (packet : Nat)
  | expire
  | take
  | returned (packet : Nat) (result : Bool)
  | tick
  deriving DecidableEq, Repr

/-- One action of the subscribing task, the network task, the timer daemon or the broker, at
tick rate `hz`. A call returns `false` from `xSemaphoreTake` timing out, or the flag after it
got the token. -/
inductive SubackStep (hz : Nat) : SubackSys → SubackEvent → SubackSys → Prop
  | subscribe (s timeoutMs) : s.call = .idle →
      SubackStep hz s (.subscribe s.sent) (s.subscribe hz timeoutMs)
  | suback (s n) : n ∈ s.unanswered → SubackStep hz s (.suback n) (s.suback n)
  | expire (s t) : s.timer = some t → t ≤ s.now → SubackStep hz s .expire s.expire
  | take (s n d) : s.call = .waiting n d → s.sem →
      SubackStep hz s .take { s with call := .taken n, sem := false }
  | timeout (s n d) : s.call = .waiting n d → d ≤ s.now → s.sem = false →
      SubackStep hz s (.returned n false) { s with call := .idle }
  | check (s n) : s.call = .taken n →
      SubackStep hz s (.returned n s.subackReceived) { s with call := .idle }
  | tick (s) : SubackStep hz s .tick { s with now := s.now + 1 }

/-- Runs of `SubackStep`, with their traces. -/
inductive SubackRun (hz : Nat) : SubackSys → List SubackEvent → SubackSys → Prop
  | refl (s) : SubackRun hz s [] s
  | step {s tr s' e s''} : SubackRun hz s tr s' → SubackStep hz s' e s'' →
      SubackRun hz s (tr ++ [e]) s''

section
variable {hz : Nat}

theorem SubackRun.append {s s' s'' : SubackSys} {tr tr' : List SubackEvent}
    (h : SubackRun hz s tr s') (h' : SubackRun hz s' tr' s'') : SubackRun hz s (tr ++ tr') s'' := by
  induction h' with
  | refl => simpa using h
  | step _ hs ih => simpa [List.append_assoc] using ih.step hs

theorem SubackRun.ticks (s : SubackSys) (n : Nat) :
    SubackRun hz s (List.replicate n .tick) { s with now := s.now + n } := by
  induction n with
  | zero => exact .refl s
  | succ n ih =>
    rw [List.replicate_succ']
    exact ih.step (.tick _)

/-! ## What a `true` result means -/

/-- While a call is in progress, its SUBSCRIBE is in the trace, and a set flag means some
SUBACK arrived after it. -/
def SubackSys.FlagInv (s : SubackSys) (tr : List SubackEvent) : Prop :=
  ∀ n, s.call.packet = some n → ∃ tr₁ tr₂, tr = tr₁ ++ .subscribe n :: tr₂ ∧
    (s.subackReceived → ∃ m, .suback m ∈ tr₂)

/-- Appending an event that keeps the call and does not clear the flag keeps the invariant. -/
theorem SubackSys.FlagInv.snoc {s s' : SubackSys} {tr : List SubackEvent} {e : SubackEvent}
    (hi : s.FlagInv tr) (hc : s'.call.packet = s.call.packet)
    (hf : s'.subackReceived → s.subackReceived ∨ ∃ m, e = .suback m) :
    s'.FlagInv (tr ++ [e]) := by
  intro n hn
  obtain ⟨tr₁, tr₂, rfl, h⟩ := hi n (hc ▸ hn)
  refine ⟨tr₁, tr₂ ++ [e], by simp, fun hr => ?_⟩
  rcases hf hr with hr | ⟨m, rfl⟩
  · obtain ⟨m, hm⟩ := h hr
    exact ⟨m, List.mem_append_left _ hm⟩
  · exact ⟨m, by simp⟩

theorem SubackStep.flagInv {s s' : SubackSys} {tr : List SubackEvent} {e : SubackEvent}
    (h : SubackStep hz s e s') (hi : s.FlagInv tr) : s'.FlagInv (tr ++ [e]) := by
  cases h with
  | subscribe timeoutMs _ =>
    intro n hn
    cases hn
    exact ⟨tr, [], rfl, fun h => by cases h⟩
  | suback n _ => exact hi.snoc rfl fun _ => .inr ⟨n, rfl⟩
  | expire => exact hi.snoc rfl .inl
  | take n d hc =>
    refine hi.snoc ?_ .inl
    simp [hc, SubCall.packet]
  | timeout => intro n hn; cases hn
  | check => intro n hn; cases hn
  | tick => exact hi.snoc rfl .inl

theorem SubackRun.flagInv {s : SubackSys} {tr : List SubackEvent}
    (h : SubackRun hz SubackSys.init tr s) : s.FlagInv tr := by
  induction h with
  | refl => intro n hn; cases hn
  | step _ hs ih => exact hs.flagInv ih

/-- A call returns `true` only if some SUBACK, for whichever packet, arrived after its own
SUBSCRIBE was sent. -/
theorem SubackRun.returned_true {s s' : SubackSys} {tr : List SubackEvent} {n : Nat}
    (h : SubackRun hz SubackSys.init tr s) (hs : SubackStep hz s (.returned n true) s') :
    ∃ tr₁ tr₂ m, tr = tr₁ ++ .subscribe n :: tr₂ ∧ .suback m ∈ tr₂ := by
  generalize he : SubackEvent.returned n true = e at hs
  cases hs
  case check n' hc =>
    obtain ⟨rfl, hr⟩ := SubackEvent.returned.inj he
    obtain ⟨tr₁, tr₂, htr, hm⟩ := h.flagInv n (by simp [hc, SubCall.packet])
    obtain ⟨m, hm⟩ := hm hr.symm
    exact ⟨tr₁, tr₂, m, htr, hm⟩
  all_goals cases he

end

/-! ## The SUBACK is not matched to its packet -/

/-- At any tick rate and any `timeout_ms`, with `p = pdMS_TO_TICKS(timeout_ms)`: the first
call's timer expires after `p` ticks with no SUBACK and the call returns `false`. If the broker's
late SUBACK for it then arrives during the second call, the second call returns `true` although
its own packet is never answered. If it arrives between the two calls, the second call takes
the token left behind and returns `false` at once, and its own SUBACK arrives at that same
tick, inside its timeout. -/
theorem suback_not_matched_to_packet (hz timeoutMs : Nat) :
    (∃ s, SubackRun hz SubackSys.init
        ([.subscribe 0] ++ List.replicate (pdMsToTicks hz timeoutMs) .tick ++
          [.expire, .take, .returned 0 false, .subscribe 1, .suback 0, .take, .returned 1 true]) s) ∧
      ∃ s, SubackRun hz SubackSys.init
        ([.subscribe 0] ++ List.replicate (pdMsToTicks hz timeoutMs) .tick ++
          [.expire, .take, .returned 0 false, .suback 0, .subscribe 1, .take, .returned 1 false,
            .suback 1]) s ∧
        s.now = pdMsToTicks hz timeoutMs := by
  have h₀ := ((@SubackRun.refl hz SubackSys.init).step (.subscribe _ timeoutMs rfl)).append
    (SubackRun.ticks _ (pdMsToTicks hz timeoutMs))
  have h₁ := ((h₀.step (.expire _ _ rfl (Nat.le_refl _))).step (.take _ 0 _ rfl rfl)).step
    (.check _ 0 rfl)
  constructor
  · have h₂ := (h₁.step (.subscribe _ timeoutMs rfl)).step
      (.suback _ 0 (by simp [SubackSys.subscribe, SubackSys.expire, SubackSys.init]))
    have h₃ := (h₂.step (.take _ 1 _ rfl rfl)).step (.check _ 1 rfl)
    exact ⟨_, by simpa only [List.append_assoc, List.cons_append, List.nil_append] using h₃⟩
  · have h₂ := (h₁.step
      (.suback _ 0 (by simp [SubackSys.subscribe, SubackSys.expire, SubackSys.init]))).step
      (.subscribe _ timeoutMs rfl)
    have h₃ := ((h₂.step (.take _ 1 _ rfl rfl)).step (.check _ 1 rfl)).step (.suback _ 1
      (by simp [SubackSys.subscribe, SubackSys.expire, SubackSys.suback, SubackSys.init]))
    exact ⟨_, by simpa only [List.append_assoc, List.cons_append, List.nil_append] using h₃,
      Nat.zero_add _⟩

end Osal
