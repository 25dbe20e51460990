import Osal.Basic

/-!
# The MQTT connection manager

`mqtt_connect` sets `is_closing` on the connection `mqtt_state.nc` points to and opens a new
one with `mg_mqtt_connect`; `ev_handler` calls `mqtt_connected` on `MG_EV_CONNECT` (the flag
set, the reconnect timer stopped) and `mqtt_disconnected` on `MG_EV_ERROR` and `MG_EV_CLOSE`
(the flag cleared, the reconnect timer started), whichever connection the event is for; the
auto-reload reconnect timer calls `mqtt_connect` while not connected. `MqttApp_Init` starts the
timer and connects, and `MqttApp_Deinit` deletes the timers, marks `mqtt_state.nc` closing if
connected, and zeroes the state, the timer handles with it. Mongoose's side is the life of each
connection: connecting, established after `MG_EV_CONNECT`, closing once `is_closing` is set or
after `MG_EV_ERROR`, and freed right after `MG_EV_CLOSE`, the last event it delivers.
`ConnStep` is one call of the module, one event Mongoose delivers or one step of the FreeRTOS
timer daemon, so a run is any order of them. A `configASSERT` that fails (a FreeRTOS timer call
on a `NULL` handle) stops the system.

The timer calls all pass 0 ticks to wait. FreeRTOS queues each command to the timer daemon and
drops it when the daemon's command queue is full. Here `xTimerStart` and `xTimerStop` take
effect at once, and `reconnect` is the state the last of them commanded. `xTimerDelete` is
queued as FreeRTOS does: a reconnect timer that Deinit deleted while it ran still fires until
the daemon takes the command (`orphan`), and forever when the command was dropped.

* `ConnRun.reconnect_timer_iff_disconnected`: while initialized, the reconnect timer runs exactly
  when the client is not connected.
* `ConnRun.reconnects_through_freed`: `MG_EV_CLOSE` leaves `mqtt_state.nc` pointing to the freed
  connection, so the client connects again only after the reconnect timer's `mqtt_connect` has
  written `is_closing` into freed memory.
* `ConnRun.timer_steps_after_deinit`: after `MqttApp_Deinit` and before the next `MqttApp_Init`,
  every step is the timer daemon's but a last one: the deleted reconnect timer can still run
  `mqtt_connect` and open a connection, and the first event `ev_handler` gets, for any
  connection, calls a timer function on the `NULL` handle and stops the system.
-/

namespace Osal

/-- Where a connection made by `mg_mqtt_connect` is: not made yet, connecting, established,
marked `is_closing`, or freed after `MG_EV_CLOSE`. -/
inductive MgConn
  | unused
  | connecting
  | established
  | closing
  | freed
  deriving DecidableEq, Repr

/-- `c->is_closing = 1`: a live connection is closed at Mongoose's next poll; a freed one is
memory Mongoose no longer owns, left as it is. -/
def MgConn.markClosing : MgConn → MgConn
  | .unused => .unused
  | .freed => .freed
  | _ => .closing

/-- `initialized`, `connected`, the connection `mqtt_state.nc` points to, the reconnect timer
`mqtt_timers.reconnect` (`none` while the handle is `NULL`, else whether it is active), whether a
reconnect timer an earlier `MqttApp_Deinit` deleted while it was active still fires, Mongoose's
connections by number, the number of the next one, and whether a failed `configASSERT` has
stopped the system. -/
structure ConnSys where
  initialized : Bool
  connected : Bool
  nc : Option Nat
  reconnect : Option Bool
  orphan : Bool
  conns : Nat → MgConn
  next : Nat
  halted : Bool

/-- The statics at boot. -/
def ConnSys.init : ConnSys := ⟨false, false, none, none, false, fun _ => .unused, 0, false⟩

/-- `mqtt_connect` (lines 180–218): `is_closing` set on `mqtt_state.nc` if it is not `NULL`,
then `mg_mqtt_connect`, which makes connection `next`, or returns `NULL` when `ok` is false. -/
def ConnSys.mqttConnect (s : ConnSys) (ok : Bool) : ConnSys :=
  { s with
    conns := fun k => if ok ∧ k = s.next then .connecting
      else if s.nc = some k then (s.conns k).markClosing else s.conns k
    nc := if ok then some s.next else none
    next := if ok then s.next + 1 else s.next }

/-- `mqtt_connected` (lines 220–237), TLS and `resubscribe_all` apart: the flag set, then
`xTimerStop` on the reconnect timer, which fails its `configASSERT` on the `NULL` handle
Deinit leaves. The stop takes effect at once. -/
def ConnSys.mqttConnected (s : ConnSys) : ConnSys :=
  match s.reconnect with
  | some _ => { s with connected := true, reconnect := some false }
  | none => { s with connected := true, halted := true }

/-- `mqtt_disconnected` (lines 239–244): the flag cleared, then `xTimerStart` on the reconnect
timer, at once. -/
def ConnSys.mqttDisconnected (s : ConnSys) : ConnSys :=
  match s.reconnect with
  | some _ => { s with connected := false, reconnect := some true }
  | none => { s with connected := false, halted := true }

/-- `MqttApp_Init` (lines 513–551) once its `assert(initialized == 0)` holds: the timers
created, the reconnect timer started, `mqtt_connect`, and `initialized` set. -/
def ConnSys.mqttAppInit (s : ConnSys) (ok : Bool) : ConnSys :=
  { { s with reconnect := some true }.mqttConnect ok with initialized := true }

/-- `MqttApp_Deinit` (lines 553–586) when initialized: the deletes of the timers queued, so a
reconnect timer that was active goes on firing until the daemon takes its delete; if connected,
`mg_mqtt_disconnect` and `is_closing` on `mqtt_state.nc` (a `NULL` one is dereferenced); then
`mqtt_state` and `mqtt_timers` zeroed. -/
def ConnSys.mqttAppDeinit (s : ConnSys) : ConnSys :=
  let s' := { s with
    initialized := false, connected := false, nc := none, reconnect := none
    orphan := s.orphan || s.reconnect == some true }
  if s.connected then
    match s.nc with
    | some c => { s' with conns := Function.update s.conns c (s.conns c).markClosing }
    | none => { s' with halted := true }
  else s'

/-- What each step shows: `MqttApp_Init` with the connection it made, `MqttApp_Deinit`, the
reconnect timer's callback calling `mqtt_connect` (the connection it set `is_closing` on, with
where that connection was, and the connection it made) or doing nothing, the timer daemon taking
a queued delete of the reconnect timer, and the events Mongoose delivers to `ev_handler`. -/
inductive ConnEvent
  | init (made : Option Nat)
  | deinit
  | reconnect (marked : Option (Nat × MgConn)) (made : Option Nat)
  | reconnectIdle
  | timerDeleted
  | evConnect (c : Nat)
  | evError (c : Nat)
  | evClose (c : Nat)
  deriving DecidableEq, Repr

/-- One call or event. Mongoose delivers `MG_EV_CONNECT` to a connecting connection,
`MG_EV_ERROR` to a connecting or established one, and `MG_EV_CLOSE` to any live one; the timer
daemon runs `reconnect_timer_callback` (lines 137–144) for the reconnect timer while it is
active, and for one Deinit deleted while it was active until it takes the delete. -/
inductive ConnStep : ConnSys → ConnEvent → ConnSys → Prop
  | init (s ok) : s.initialized = false →
      ConnStep s (.init (if ok then some s.next else none)) (s.mqttAppInit ok)
  | deinit (s) : s.initialized → ConnStep s .deinit s.mqttAppDeinit
  | reconnect (s ok) : s.reconnect = some true ∨ s.orphan → s.connected = false →
      ConnStep s (.reconnect (s.nc.map fun c => (c, s.conns c)) (if ok then some s.next else none))
        (s.mqttConnect ok)
  | reconnectIdle (s) : s.reconnect = some true ∨ s.orphan → s.connected →
      ConnStep s .reconnectIdle s
  | timerDeleted (s) : s.orphan → ConnStep s .timerDeleted { s with orphan := false }
  | evConnect (s c) : s.conns c = .connecting →
      ConnStep s (.evConnect c) { s with conns := Function.update s.conns c .established }.mqttConnected
  | evError (s c) : s.conns c = .connecting ∨ s.conns c = .established →
      ConnStep s (.evError c) { s with conns := Function.update s.conns c .closing }.mqttDisconnected
  | evClose (s c) : s.conns c ≠ .unused → s.conns c ≠ .freed →
      ConnStep s (.evClose c) { s with conns := Function.update s.conns c .freed }.mqttDisconnected

/-- Runs of `ConnStep`; nothing runs once the system has stopped. -/
inductive ConnRun : ConnSys → List ConnEvent → ConnSys → Prop
  | refl (s) : ConnRun s [] s
  | step {s tr s' e s''} : ConnRun s tr s' → s'.halted = false → ConnStep s' e s'' →
      ConnRun s (tr ++ [e]) s''

/-- What holds at the end of every run from `s₀` for an invariant that holds at `s₀` and that
every step from a running state keeps. -/
theorem ConnRun.inv {P : ConnSys → List ConnEvent → Prop} {s₀ : ConnSys} (h₀ : P s₀ [])
    (hs : ∀ {s s' e tr}, s.halted = false → ConnStep s e s' → P s tr → P s' (tr ++ [e]))
    {s : ConnSys} {tr : List ConnEvent} (h : ConnRun s₀ tr s) : P s tr := by
  induction h with
  | refl => exact h₀
  | step _ hh hst ih => exact hs hh hst ih

/-- The last step of a run. -/
theorem ConnRun.last {s s'' : ConnSys} {tr : List ConnEvent} {e : ConnEvent}
    (h : ConnRun s (tr ++ [e]) s'') :
    ∃ s', ConnRun s tr s' ∧ s'.halted = false ∧ ConnStep s' e s'' := by
  generalize hl : tr ++ [e] = l at h
  cases h with
  | refl => simp at hl
  | step h hh hs =>
    obtain ⟨rfl, he⟩ := List.append_inj' hl rfl
    obtain rfl := List.singleton_inj.1 he
    exact ⟨_, h, hh, hs⟩

/-- A run cut in two. -/
theorem ConnRun.split {s s'' : ConnSys} {tr tr' : List ConnEvent} (h : ConnRun s (tr ++ tr') s'') :
    ∃ s', ConnRun s tr s' ∧ ConnRun s' tr' s'' := by
  induction tr' using List.reverseRecOn generalizing s'' with
  | nil => exact ⟨s'', by simpa using h, .refl _⟩
  | append_singleton tr' e ih =>
    rw [← List.append_assoc] at h
    obtain ⟨s₁, h₁, hh, hs⟩ := ConnRun.last h
    obtain ⟨s', h', h''⟩ := ih h₁
    exact ⟨s', h', h''.step hh hs⟩

theorem ConnRun.append {s s' s'' : ConnSys} {tr tr' : List ConnEvent}
    (h : ConnRun s tr s') (h' : ConnRun s' tr' s'') : ConnRun s (tr ++ tr') s'' := by
  induction h' with
  | refl => simpa using h
  | step _ hh hs ih => simpa [List.append_assoc] using ih.step hh hs

/-! ## The reconnect timer -/

/-- While initialized the timer is active exactly when the flag is clear; otherwise it is not
created and the flag is clear. -/
structure ConnSys.TimerInv (s : ConnSys) : Prop where
  live : s.initialized → s.reconnect = some !s.connected
  dead : s.initialized = false → s.reconnect = none ∧ s.connected = false

theorem ConnSys.timerInv_init : ConnSys.init.TimerInv :=
  ⟨fun h => (by cases h), fun _ => ⟨rfl, rfl⟩⟩

theorem ConnStep.timerInv {s s' : ConnSys} {e : ConnEvent} (h : ConnStep s e s')
    (hi : s.TimerInv) : s'.halted = false → s'.TimerInv := by
  cases h with
  | init ok hn =>
    intro _
    refine ⟨fun _ => ?_, fun h => by simp [ConnSys.mqttAppInit] at h⟩
    simp [ConnSys.mqttAppInit, ConnSys.mqttConnect, (hi.dead hn).2]
  | deinit =>
    intro _
    have hd : ∀ t : ConnSys, t.initialized = false → t.connected = false → t.reconnect = none →
        t.TimerInv := fun t h₁ h₂ h₃ => ⟨fun h => absurd h (by simp [h₁]), fun _ => ⟨h₃, h₂⟩⟩
    unfold ConnSys.mqttAppDeinit
    split <;> (try split) <;> exact hd _ rfl rfl rfl
  | reconnect ok _ hc =>
    intro _
    exact ⟨fun h => by simpa [ConnSys.mqttConnect, hc] using hi.live h,
      fun h => by simpa [ConnSys.mqttConnect] using hi.dead h⟩
  | reconnectIdle | timerDeleted => exact fun _ => ⟨hi.live, hi.dead⟩
  | evConnect c _ =>
    intro hh'
    cases hr : s.reconnect with
    | none => simp [ConnSys.mqttConnected, hr] at hh'
    | some b =>
      simp only [ConnSys.mqttConnected, hr]
      exact ⟨fun _ => rfl, fun hn => by simp [(hi.dead hn).1] at hr⟩
  | evError c _ | evClose c _ _ =>
    intro hh'
    cases hr : s.reconnect with
    | none => simp [ConnSys.mqttDisconnected, hr] at hh'
    | some b =>
      simp only [ConnSys.mqttDisconnected, hr]
      exact ⟨fun _ => rfl, fun hn => by simp [(hi.dead hn).1] at hr⟩

/-- While `MqttApp` is initialized, the reconnect timer runs exactly when the client is not
connected: a disconnected client keeps retrying every `RECONNECT_DELAY_MS`, a connected one
never calls `mqtt_connect`. -/
theorem ConnRun.reconnect_timer_iff_disconnected {tr : List ConnEvent} {s : ConnSys}
    (h : ConnRun ConnSys.init tr s) (hh : s.halted = false) (hi : s.initialized) :
    s.reconnect = some !s.connected := by
  have := h.inv (P := fun s _ => s.halted = false → s.TimerInv)
    (fun _ => ConnSys.timerInv_init) fun hh hs hi => hs.timerInv (hi hh)
  exact (this hh).live hi

/-- Once the first connection connects, the timer is stopped. -/
theorem reconnect_timer_stopped_when_connected :
    ∃ s, ConnRun ConnSys.init [.init (some 0), .evConnect 0] s ∧ s.halted = false ∧
      s.initialized ∧ s.reconnect = some !s.connected := by
  have h : ConnRun ConnSys.init [.init (some 0), .evConnect 0] _ :=
    ((ConnRun.refl ConnSys.init).step rfl (.init _ true rfl)).step rfl (.evConnect _ 0 rfl)
  exact ⟨_, h, rfl, rfl, ConnRun.reconnect_timer_iff_disconnected h rfl rfl⟩

/-! ## `mqtt_state.nc` after `MG_EV_CLOSE` -/

/-- Within one `MqttApp_Init`: before it nothing is made and the timer does not exist; after it
every connection but `mqtt_state.nc` is unused, closing or freed, `mqtt_state.nc` was made, and
none from `next` on is; and no deleted timer fires. -/
structure ConnSys.OneLife (s : ConnSys) : Prop where
  before : s.initialized = false → s.nc = none ∧ s.reconnect = none ∧ ∀ k, s.conns k = .unused
  others : ∀ k, s.nc ≠ some k → s.conns k = .unused ∨ s.conns k = .closing ∨ s.conns k = .freed
  nc_lt : ∀ c, s.nc = some c → c < s.next
  fresh : ∀ k, s.next ≤ k → s.conns k = .unused
  no_orphan : s.orphan = false

theorem ConnSys.oneLife_init : ConnSys.init.OneLife :=
  ⟨fun _ => ⟨rfl, rfl, fun _ => rfl⟩, fun _ _ => .inl rfl, fun _ h => (by cases h),
    fun _ _ => rfl, rfl⟩

theorem ConnSys.mqttConnected_eq (s : ConnSys) : s.mqttConnected.conns = s.conns ∧
    s.mqttConnected.nc = s.nc ∧ s.mqttConnected.next = s.next ∧
    s.mqttConnected.initialized = s.initialized ∧ s.mqttConnected.orphan = s.orphan := by
  unfold ConnSys.mqttConnected; split <;> exact ⟨rfl, rfl, rfl, rfl, rfl⟩

theorem ConnSys.mqttDisconnected_eq (s : ConnSys) : s.mqttDisconnected.conns = s.conns ∧
    s.mqttDisconnected.nc = s.nc ∧ s.mqttDisconnected.next = s.next ∧
    s.mqttDisconnected.initialized = s.initialized ∧ s.mqttDisconnected.orphan = s.orphan := by
  unfold ConnSys.mqttDisconnected; split <;> exact ⟨rfl, rfl, rfl, rfl, rfl⟩

/-- A connection that is made lies below `next`. -/
theorem ConnSys.OneLife.lt_next {s : ConnSys} (hi : s.OneLife) {k : Nat}
    (hk : s.conns k ≠ .unused) : k < s.next :=
  Nat.lt_of_not_le fun h => hk (hi.fresh k h)

/-- A Mongoose event moves connection `c` only. -/
theorem ConnSys.OneLife.event {s : ConnSys} (hi : s.OneLife) {c : Nat} {m : MgConn}
    (hc : s.conns c ≠ .unused) (hm : s.nc ≠ some c → m = .closing ∨ m = .freed)
    {s' : ConnSys} (hs' : s'.conns = Function.update s.conns c m ∧ s'.nc = s.nc ∧
      s'.next = s.next ∧ s'.initialized = s.initialized ∧ s'.orphan = s.orphan) : s'.OneLife := by
  obtain ⟨h₁, h₂, h₃, h₄, h₅⟩ := hs'
  have hlt := hi.lt_next hc
  refine ⟨fun h => absurd (hi.before (h₄ ▸ h)).2.2 fun hu => hc (hu c), fun k hk => ?_,
    fun c' hc' => h₃ ▸ hi.nc_lt c' (h₂ ▸ hc'), fun k hk => ?_, h₅.trans hi.no_orphan⟩
  · rw [h₁, Function.update_apply]
    split
    · subst k; rcases hm (h₂ ▸ hk) with h | h <;> simp [h]
    · exact hi.others k (h₂ ▸ hk)
  · rw [h₁, Function.update_noteq (by omega)]
    exact hi.fresh k (h₃ ▸ hk)

theorem ConnStep.oneLife {s s' : ConnSys} {e : ConnEvent} (h : ConnStep s e s')
    (he : e ≠ .deinit) (hi : s.OneLife) : s'.OneLife := by
  cases h with
  | init ok hn =>
    obtain ⟨hnc, -, hu⟩ := hi.before hn
    refine ⟨fun h => (by cases h), fun k hk => ?_, fun c hc => ?_, fun k hk => ?_,
      hi.no_orphan⟩ <;>
      cases ok <;> simp_all [ConnSys.mqttAppInit, ConnSys.mqttConnect, Function.update_apply]
    · exact .inl fun h => hk h.symm
    · omega
  | deinit => exact absurd rfl he
  | reconnect ok hr hc =>
    refine ⟨fun h => ?_, fun k hk => ?_, fun c hc => ?_, fun k hk => ?_, hi.no_orphan⟩
    · simp [ConnSys.mqttConnect, (hi.before h).2.1, hi.no_orphan] at hr
    · simp only [ConnSys.mqttConnect] at hk ⊢
      split_ifs with h₁ h₂
      · simp [h₁] at hk
      · cases h : s.conns k <;> simp [h, MgConn.markClosing]
      · exact hi.others k h₂
    · simp only [ConnSys.mqttConnect] at hc ⊢
      split at hc <;> simp_all
    · simp only [ConnSys.mqttConnect] at hk ⊢
      have hf := hi.fresh k (by split at hk <;> omega)
      split_ifs with h₁ h₂
      · obtain ⟨rfl, rfl⟩ := h₁; simp only [if_true] at hk; omega
      · have := hi.nc_lt k h₂; split at hk <;> omega
      · exact hf
  | reconnectIdle => exact hi
  | timerDeleted ho => simp [hi.no_orphan] at ho
  | evConnect c hc =>
    refine hi.event (by simp [hc]) (fun hn => ?_) (ConnSys.mqttConnected_eq _)
    rcases hi.others c hn with h | h | h <;> simp [h] at hc
  | evError c hc =>
    exact hi.event (by rcases hc with h | h <;> simp [h]) (fun _ => .inl rfl)
      (ConnSys.mqttDisconnected_eq _)
  | evClose c hu _ => exact hi.event hu (fun _ => .inr rfl) (ConnSys.mqttDisconnected_eq _)

/-- Every run from boot keeps `OneLife` until `MqttApp_Deinit`. -/
theorem ConnRun.oneLife {tr : List ConnEvent} {s : ConnSys} (h : ConnRun ConnSys.init tr s)
    (hd : ConnEvent.deinit ∉ tr) : s.OneLife := by
  have := h.inv (P := fun s tr => ConnEvent.deinit ∉ tr → s.OneLife)
    (fun _ => ConnSys.oneLife_init) fun _ hs ih hd => by
      simp only [List.mem_append, List.mem_singleton, not_or] at hd
      exact hs.oneLife (Ne.symm hd.2) (ih hd.1)
  exact this hd

/-- While `mqtt_state.nc` points to a freed connection, no connection is connecting or
established, so Mongoose delivers neither `MG_EV_CONNECT` nor `MG_EV_ERROR`. -/
theorem ConnSys.OneLife.dead_of_freed {s : ConnSys} (hi : s.OneLife) {c : Nat}
    (hc : s.nc = some c) (hf : s.conns c = .freed) (k : Nat) :
    s.conns k ≠ .connecting ∧ s.conns k ≠ .established := by
  by_cases hk : s.nc = some k
  · obtain rfl : c = k := Option.some_injective _ (hc.symm.trans hk)
    simp [hf]
  · rcases hi.others k hk with h | h | h <;> simp [h]

/-- One step while `mqtt_state.nc` points to a freed connection: the reconnect timer's
`mqtt_connect` writes `is_closing` into it, or `nc` keeps pointing to it. -/
theorem ConnStep.freed_nc {s s' : ConnSys} {e : ConnEvent} (h : ConnStep s e s')
    (he : e ≠ .deinit) (hi : s.OneLife) {c : Nat} (hc : s.nc = some c)
    (hf : s.conns c = .freed) :
    (∃ made, e = .reconnect (some (c, .freed)) made) ∨ (s'.nc = some c ∧ s'.conns c = .freed) := by
  cases h with
  | init ok hn => simp [(hi.before hn).1] at hc
  | deinit => exact absurd rfl he
  | reconnect ok => exact .inl ⟨if ok then some s.next else none, by simp [hc, hf]⟩
  | reconnectIdle => exact .inr ⟨hc, hf⟩
  | timerDeleted ho => simp [hi.no_orphan] at ho
  | evConnect k hk => exact absurd hk (hi.dead_of_freed hc hf k).1
  | evError k hk => exact hk.elim (hi.dead_of_freed hc hf k).1 (hi.dead_of_freed hc hf k).2 |>.elim
  | evClose k _ hk =>
    have hne : c ≠ k := by rintro rfl; exact hk hf
    refine .inr ⟨(ConnSys.mqttDisconnected_eq _).2.1.trans hc, ?_⟩
    rw [(ConnSys.mqttDisconnected_eq _).1]
    exact (Function.update_noteq hne _ _).trans hf

/-- `MG_EV_CLOSE` does not clear `mqtt_state.nc`: once the connection it points to is freed,
the client connects again (Mongoose's next `MG_EV_CONNECT`) only after the reconnect timer's
`mqtt_connect` has set `is_closing` on that freed connection. -/
theorem ConnRun.reconnects_through_freed {tr pre : List ConnEvent} {s s' : ConnSys} {c k : Nat}
    (h : ConnRun ConnSys.init tr s) (hd : ConnEvent.deinit ∉ tr) (hc : s.nc = some c)
    (hf : s.conns c = .freed) (h' : ConnRun s (pre ++ [.evConnect k]) s')
    (hd' : ConnEvent.deinit ∉ pre) :
    ∃ made, ConnEvent.reconnect (some (c, .freed)) made ∈ pre := by
  obtain ⟨s₁, h₁, -, hs⟩ := ConnRun.last h'
  have := h₁.inv (P := fun t tr => ConnEvent.deinit ∉ tr → t.OneLife ∧
      ((∃ made, ConnEvent.reconnect (some (c, .freed)) made ∈ tr) ∨
        (t.nc = some c ∧ t.conns c = .freed)))
    (fun _ => ⟨h.oneLife hd, .inr ⟨hc, hf⟩⟩) fun _ hst ih hd => by
      simp only [List.mem_append, List.mem_singleton, not_or] at hd
      obtain ⟨hi, hm⟩ := ih hd.1
      refine ⟨hst.oneLife (Ne.symm hd.2) hi, ?_⟩
      rcases hm with ⟨made, hm⟩ | ⟨hc, hf⟩
      · exact .inl ⟨made, List.mem_append_left _ hm⟩
      · rcases hst.freed_nc (Ne.symm hd.2) hi hc hf with ⟨made, rfl⟩ | h
        · exact .inl ⟨made, by simp⟩
        · exact .inr h
  obtain ⟨hi, hm | ⟨hc₁, hf₁⟩⟩ := this hd'
  · exact hm
  · exact absurd (by cases hs; assumption) (hi.dead_of_freed hc₁ hf₁ k).1

/-- The broker closes the first connection before it connects; the reconnect timer's
`mqtt_connect` marks the freed connection and makes the next one, which connects. -/
theorem reconnects_through_freed_after_close :
    ∃ s, ConnRun ConnSys.init [.init (some 0), .evClose 0] s ∧ s.nc = some 0 ∧
      s.conns 0 = .freed ∧ ∃ s', ConnRun s ([.reconnect (some (0, .freed)) (some 1)] ++
        [.evConnect 1]) s' ∧ ∃ made, ConnEvent.reconnect (some (0, .freed)) made ∈
          [ConnEvent.reconnect (some (0, .freed)) (some 1)] := by
  have h₁ : ConnRun ConnSys.init [.init (some 0), .evClose 0] _ :=
    ((ConnRun.refl ConnSys.init).step rfl (.init _ true rfl)).step rfl
      (.evClose _ 0 (by decide) (by decide))
  have h₂ : ConnRun { ConnSys.init.mqttAppInit true with
      conns := Function.update (ConnSys.init.mqttAppInit true).conns 0 .freed }.mqttDisconnected
      ([.reconnect (some (0, .freed)) (some 1)] ++ [.evConnect 1]) _ :=
    ((ConnRun.refl _).step rfl (.reconnect _ true (.inl rfl) rfl)).step rfl (.evConnect _ 1 rfl)
  exact ⟨_, h₁, rfl, rfl, _, h₂, ConnRun.reconnects_through_freed h₁ (by decide) rfl rfl h₂
    (by decide)⟩

/-! ## After `MqttApp_Deinit` -/

/-- The timer daemon's steps: the reconnect timer's callback, and a queued delete taken. -/
def ConnEvent.fromTimer : ConnEvent → Bool
  | .reconnect _ _ | .reconnectIdle | .timerDeleted => true
  | _ => false

theorem ConnSys.mqttAppDeinit_deleted (s : ConnSys) :
    s.mqttAppDeinit.initialized = false ∧ s.mqttAppDeinit.reconnect = none := by
  unfold ConnSys.mqttAppDeinit
  split <;> (try split) <;> exact ⟨rfl, rfl⟩

/-- With the handles zeroed and no `MqttApp_Init`, a step is the timer daemon's, which leaves
the handles zeroed, or one of Mongoose's events, which reaches `xTimerStart` or `xTimerStop` on
the `NULL` reconnect handle. -/
theorem ConnStep.after_deinit {s s' : ConnSys} {e : ConnEvent} (h : ConnStep s e s')
    (hn : s.initialized = false) (hr : s.reconnect = none) (he : ∀ made, e ≠ .init made) :
    (e.fromTimer ∧ s'.initialized = false ∧ s'.reconnect = none) ∨
      (e.fromTimer = false ∧ s'.halted) := by
  cases h with
  | init ok => exact absurd rfl (he _)
  | deinit hi => simp [hn] at hi
  | reconnect | reconnectIdle | timerDeleted => exact .inl ⟨rfl, hn, hr⟩
  | evConnect => simp [ConnSys.mqttConnected, hr, ConnEvent.fromTimer]
  | evError | evClose => simp [ConnSys.mqttDisconnected, hr, ConnEvent.fromTimer]

/-- After `MqttApp_Deinit`, from any state and until the next `MqttApp_Init`, every step is the
timer daemon's but a last one, an event `ev_handler` gets, which stops the system. A reconnect
timer that Deinit deleted while it ran fires until the daemon takes the delete, and its
`mqtt_connect` opens a connection whose events reach `ev_handler` as well. -/
theorem ConnRun.timer_steps_after_deinit {s₀ s : ConnSys} {tr tr' : List ConnEvent}
    (h : ConnRun s₀ (tr ++ .deinit :: tr') s) (hi : ∀ made, ConnEvent.init made ∉ tr') :
    ∃ pre, (∀ e ∈ pre, e.fromTimer) ∧
      (tr' = pre ∨ ∃ e, e.fromTimer = false ∧ tr' = pre ++ [e] ∧ s.halted) := by
  have h : ConnRun s₀ ((tr ++ [.deinit]) ++ tr') s := by simpa using h
  obtain ⟨s₁, h₁, h'⟩ := ConnRun.split h
  obtain ⟨s₂, -, -, hd⟩ := ConnRun.last h₁
  have hdel : s₁.initialized = false ∧ s₁.reconnect = none := by
    cases hd; exact ConnSys.mqttAppDeinit_deleted _
  have := h'.inv (P := fun t tr => (∀ made, ConnEvent.init made ∉ tr) →
      ((∀ e ∈ tr, e.fromTimer) ∧ t.initialized = false ∧ t.reconnect = none) ∨
        ∃ pre e, (∀ e ∈ pre, e.fromTimer) ∧ e.fromTimer = false ∧ tr = pre ++ [e] ∧ t.halted)
    (fun _ => .inl ⟨by simp, hdel⟩) fun hh hst ih hi => by
      have hi' : ∀ made, ConnEvent.init made ∉ _ := fun m hm => hi m (List.mem_append_left _ hm)
      rcases ih hi' with ⟨hpre, hn, hr⟩ | ⟨-, -, -, -, -, hh'⟩
      · rcases hst.after_deinit hn hr fun m hm => hi m (by simp [hm]) with ⟨he, hn', hr'⟩ | ⟨he, hh'⟩
        · exact .inl ⟨List.forall_mem_append.2 ⟨hpre, List.forall_mem_singleton.2 he⟩, hn', hr'⟩
        · exact .inr ⟨_, _, hpre, he, rfl, hh'⟩
      · simp [hh] at hh'
  rcases this hi with ⟨hpre, -⟩ | ⟨pre, e, hpre, he, rfl, hh⟩
  · exact ⟨tr', hpre, .inl rfl⟩
  · exact ⟨pre, hpre, .inr ⟨e, he, rfl, hh⟩⟩

/-- Deinit before the first connection connects: the reconnect timer it deleted fires, its
`mqtt_connect` opens connection 1, and the `MG_EV_CONNECT` of that connection stops the system. -/
theorem timer_steps_after_deinit_reconnects :
    ∃ s, ConnRun ConnSys.init ([.init (some 0)] ++
        .deinit :: [.reconnect none (some 1), .evConnect 1]) s ∧
      ∃ pre : List ConnEvent, (∀ e ∈ pre, e.fromTimer) ∧
        ([.reconnect none (some 1), .evConnect 1] = pre ∨
        ∃ e, e.fromTimer = false ∧ [.reconnect none (some 1), .evConnect 1] = pre ++ [e] ∧
          s.halted) := by
  have h : ConnRun ConnSys.init ([.init (some 0)] ++
      .deinit :: [.reconnect none (some 1), .evConnect 1]) _ :=
    ((((ConnRun.refl ConnSys.init).step rfl (.init _ true rfl)).step (by rfl)
      (.deinit _ (by rfl))).step (by rfl) (.reconnect _ true (.inr (by rfl)) (by rfl))).step
      (by rfl) (.evConnect _ 1 (by rfl))
  exact ⟨_, h, ConnRun.timer_steps_after_deinit h (by simp)⟩

end Osal
