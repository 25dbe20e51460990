import Osal.Mqtt.Suback

/-!
# Publishing with PUBACK retries

`MqttApp_PostData` copies a topic and a message into an `mqtt_message_t` and puts it on
`mqtt_sync.message_queue` without waiting. `mongoose_task` takes the messages off the queue one
by one into its local `msg` and, while connected, publishes each with `mqtt_publish_internal`:
it clears `mqtt_acks.puback_received`, fills `mqtt_state.publish_opts` with `mg_str`s of `msg`'s
fields, zeroes `mqtt_state.retries` and sends the PUBLISH; for QoS 1 it then starts the
auto-reload PUBACK timer and blocks on the binary semaphore `mqtt_sync.puback`. Two more tasks
act on that state: the network task on any PUBACK (`handle_mqtt_command` sets the flag, stops
the timer and gives the semaphore), and the timer daemon (`puback_timer_callback` sends
`publish_opts` again while the flag is clear and fewer than `RETRY_COUNT` retries were made, and
gives the semaphore and stops the timer once `RETRY_COUNT` were). `PubStep` is one atomic action
of one of these tasks, of the connection or of the clock, so a run is any interleaving of them.
`mongoose_task` steps at each statement that writes what the callback reads.

`publish_opts` keeps pointers into `msg`, which the next `xQueueReceive` overwrites, so a
PUBLISH carries the bytes `msg` holds when it is sent (`PubSys.packet`). Each message
`MqttApp_PostData` accepts gets a number, which the model adds to tell messages apart: a retry
names the message `publish_opts` was filled for and the message whose bytes `msg` holds.

The timer commands `xTimerStart(.., 0)` and `xTimerStop(.., 0)` take effect at once here;
FreeRTOS queues them to the timer daemon, and drops one when its command queue is full. Neither
result below depends on when the timer fires.

* `PubRun.sends_le`: in every run, at most `2 * RETRY_COUNT + 1` PUBLISHes carry the bytes of
  one message, and a run reaches that many (`sends_le_reached`): the retries of the previous
  message made after `xQueueReceive` and before `retries = 0` send the new message's bytes.
* `PubRun.resends_published`: after a message is published, whatever its QoS, every run of the
  callback before a PUBACK, before the next message is taken off the queue and before
  `RETRY_COUNT` retries sends that message again; so a QoS 0 message published while the timer
  of a timed-out QoS 1 wait runs is sent twice (`resends_published_qos0`).
-/

namespace Osal

/-- `RETRY_COUNT`. -/
def retryCount : Nat := 3

/-- `TIMEOUT_DEFAULT_MS`. -/
def timeoutDefaultMs : Nat := 5000

/-- `MESSAGE_QUEUE_SIZE`. -/
def messageQueueSize : Nat := 6

/-! ## The message queue -/

/-- `strncpy(field, s, n - 1)` into an `n`-byte field that `mqtt_message_t msg = {0}` zeroed,
then `field[n - 1] = '\0'`. -/
def strncpyField (s : List UInt8) (n : Nat) : List UInt8 :=
  s.take (n - 1) ++ List.replicate (n - (s.take (n - 1)).length) 0

/-- The bytes `strlen` and `mg_str` read from a field: those before its first NUL. -/
def cString (field : List UInt8) : List UInt8 := field.takeWhile (· != 0)

/-- `mqtt_message_t` (lines 21–26): the fields `topic[64]` and `message[256]`, and `qos`. -/
structure MqttMessage where
  topic : List UInt8
  message : List UInt8
  qos : Int
  deriving DecidableEq, Repr

/-- `MqttApp_PostData(topic, message, qos)` (lines 588–615) on the queue's items, for the
message numbered `id`: `false` when not initialized, when the topic or the message does not fit
its field with its NUL, or when the queue is full (`xQueueSend` does not wait). -/
def mqttAppPostData (initialized : Bool) (queue : List (Nat × MqttMessage)) (id : Nat)
    (topic message : CString) (qos : Int) : Bool × List (Nat × MqttMessage) :=
  if !initialized || 64 ≤ topic.bytes.length || 256 ≤ message.bytes.length then (false, queue)
  else if queue.length < messageQueueSize then
    (true, queue ++ [(id, ⟨strncpyField topic.bytes 64, strncpyField message.bytes 256, qos⟩)])
  else (false, queue)

/-- A C string shorter than its field is read back from it whole. -/
theorem cString_strncpyField {s : List UInt8} {n : Nat} (h0 : (0 : UInt8) ∉ s)
    (hs : s.length < n) : cString (strncpyField s n) = s := by
  have hk : n - s.length = n - s.length - 1 + 1 := by omega
  rw [strncpyField, List.take_of_length_le (by omega), cString,
    List.takeWhile_append_of_pos fun a ha => bne_iff_ne.2 (by rintro rfl; exact h0 ha), hk,
    List.replicate_succ, List.takeWhile_cons_of_neg (by decide), List.append_nil]

/-- The bytes `mg_str` of such a field points at, read with its length. -/
theorem take_strncpyField {s : List UInt8} {n : Nat} (hs : s.length < n) :
    (strncpyField s n).take s.length = s := by
  have hk : s.take (n - 1) = s := List.take_of_length_le (by omega)
  rw [strncpyField, hk, List.take_left' rfl]

/-- What an accepted call puts on the queue, and when it is accepted. -/
theorem mqttAppPostData_true {queue : List (Nat × MqttMessage)} {id : Nat}
    {topic message : CString} {qos : Int} (h : (mqttAppPostData true queue id topic message qos).1) :
    topic.bytes.length < 64 ∧ message.bytes.length < 256 ∧ queue.length < messageQueueSize ∧
      (mqttAppPostData true queue id topic message qos).2 =
        queue ++ [(id, ⟨strncpyField topic.bytes 64, strncpyField message.bytes 256, qos⟩)] := by
  simp only [mqttAppPostData, Bool.not_true, Bool.false_or] at h ⊢
  by_cases ht : 64 ≤ topic.bytes.length
  · simp [ht] at h
  by_cases hm : 256 ≤ message.bytes.length
  · simp [ht, hm] at h
  by_cases hq : queue.length < messageQueueSize
  · refine ⟨by omega, by omega, hq, ?_⟩
    simp [ht, hm, hq]
  · simp [ht, hm, hq] at h

/-! ## The tasks -/

/-- Where `mongoose_task` is: in `xQueueReceive` (`idle`); with message `id` in `msg`, past
`xQueueReceive`, past line 357 of `mqtt_publish_internal` (the flag cleared), past the `memset`
of line 358, or past the assignments of lines 360–363; for a QoS 1 message, past `mg_mqtt_pub`,
past `xTimerStart`, or blocked in `xSemaphoreTake` since tick `since`. -/
inductive PubTask
  | idle
  | received (id : Nat)
  | cleared (id : Nat)
  | zeroed (id : Nat)
  | filled (id : Nat)
  | starting (id : Nat)
  | taking (id : Nat)
  | waiting (id since : Nat)
  deriving DecidableEq, Repr

/-- The message `mongoose_task` has taken off the queue and not yet sent. -/
def PubTask.unsent : PubTask → Option Nat
  | .received id | .cleared id | .zeroed id | .filled id => some id
  | _ => none

/-- `mqtt_state.publish_opts` as `mqtt_publish_internal` fills it: the topic and the message as
`mg_str`s of `msg`'s fields, that is their lengths with the bytes left in `msg`, and `qos`. -/
structure PublishOpts where
  topicLen : Nat
  messageLen : Nat
  qos : Int
  deriving DecidableEq, Repr

/-- The state the tasks share: the queue's items, the number the next accepted message gets,
`mongoose_task`'s place, its local `msg` and the number of the message `msg` holds,
`publish_opts` and the number of the message it was filled for, `connected`,
`puback_received`, `retries`, the token of `mqtt_sync.puback`, the expiry tick of the PUBACK
timer while it runs, and the tick count. -/
structure PubSys where
  queue : List (Nat × MqttMessage)
  posted : Nat
  task : PubTask
  msg : MqttMessage
  held : Nat
  opts : PublishOpts
  current : Nat
  connected : Bool
  pubackReceived : Bool
  retries : Nat
  sem : Bool
  timer : Option Nat
  now : Nat
  deriving DecidableEq, Repr

/-- After `MqttApp_Init`: the statics zero, the queue and the semaphore empty, the timer
dormant, not yet connected. Messages are numbered from 1. -/
def PubSys.init : PubSys :=
  ⟨[], 1, .idle, ⟨[], [], 0⟩, 0, ⟨0, 0, 0⟩, 0, false, false, 0, false, none, 0⟩

/-- Lines 360–363 of `mqtt_publish_internal(msg.topic, msg.message, msg.qos)` for message
`id`: `publish_opts` gets `msg`'s fields as `mg_str`s and its QoS. The four assignments are one
step here; the callback running between two of them would send a partly filled
`publish_opts`. -/
def PubSys.fillOpts (s : PubSys) (id : Nat) : PubSys :=
  { s with
    opts := ⟨(cString s.msg.topic).length, (cString s.msg.message).length, s.msg.qos⟩
    current := id
    task := .filled id }

/-- Lines 364–368: `retries` zeroed, the first `mg_mqtt_pub`, and for QoS 1 on to
`xTimerStart`. The callback running between `retries = 0` and the send sends the same PUBLISH
as just after it. -/
def PubSys.publish (s : PubSys) (id : Nat) : PubSys :=
  { s with retries := 0, task := if s.msg.qos = 1 then .starting id else .idle }

/-- The PUBLISH `mg_mqtt_pub(mqtt_state.nc, &mqtt_state.publish_opts)` sends: the first
`topicLen` and `messageLen` bytes of `msg`'s fields as they are now, and the QoS. -/
def PubSys.packet (s : PubSys) : List UInt8 × List UInt8 × Int :=
  (s.msg.topic.take s.opts.topicLen, s.msg.message.take s.opts.messageLen, s.opts.qos)

/-- What each step shows: a message accepted, taken off the queue, dropped while disconnected,
the steps of `mqtt_publish_internal` up to its first send, that send, the timer started, the
wait begun, the wait ending with the token or timing out, the three branches of the timer
callback, a PUBACK, the connection made or lost, a tick. -/
inductive PubEvent
  | post (id : Nat) (topic message : List UInt8) (qos : Int)
  | receive (id : Nat)
  | drop
  | clearFlag
  | zeroOpts
  | fillOpts
  | publish (id : Nat) (topic message : List UInt8) (qos : Int)
  | timerStart
  | wait
  | acked (id : Nat)
  | timedOut (id : Nat)
  | resend (id held : Nat) (topic message : List UInt8) (qos : Int)
  | exhausted
  | expired
  | puback
  | connect
  | disconnect
  | tick
  deriving DecidableEq, Repr

/-- The first send of message `id`. -/
def PubSys.sent (s : PubSys) (id : Nat) : PubEvent :=
  .publish id s.packet.1 s.packet.2.1 s.packet.2.2

/-- A retry: `publish_opts` as filled for `current`, over the bytes of message `held`. -/
def PubSys.resent (s : PubSys) : PubEvent :=
  .resend s.current s.held s.packet.1 s.packet.2.1 s.packet.2.2

/-- `puback_timer_callback` (lines 146–160). -/
def pubackTimerCallback (s : PubSys) : PubSys × PubEvent :=
  if !s.pubackReceived && s.retries < retryCount then ({ s with retries := s.retries + 1 }, s.resent)
  else if retryCount ≤ s.retries then ({ s with sem := true, timer := none }, .exhausted)
  else (s, .expired)

/-- The PUBACK timer's period, `pdMS_TO_TICKS(TIMEOUT_DEFAULT_MS)`. -/
def pubackPeriod (hz : Nat) : Nat := pdMsToTicks hz timeoutDefaultMs

/-- The wait of `mqtt_publish_internal`, `pdMS_TO_TICKS(TIMEOUT_DEFAULT_MS * RETRY_COUNT + 100)`. -/
def pubackWait (hz : Nat) : Nat := pdMsToTicks hz (u32 (timeoutDefaultMs * retryCount + 100))

/-- One action, at tick rate `hz`, of an application task in `MqttApp_PostData` (an accepted
call; a rejected one changes nothing), of `mongoose_task`, of the timer daemon running the
auto-reload timer's callback (re-armed one period after the expiry it serves), of the network
task on a PUBACK, of the connection, or of the clock. The two tests of `connected` before a
publish are one (`drop`, `clearFlag`), since nothing the other tasks read is written between
them. `xSemaphoreTake` times out only with the semaphore empty. -/
inductive PubStep (hz : Nat) : PubSys → PubEvent → PubSys → Prop
  | post (s topic message qos) : (mqttAppPostData true s.queue s.posted topic message qos).1 →
      PubStep hz s (.post s.posted topic.bytes message.bytes qos)
        { s with
          queue := (mqttAppPostData true s.queue s.posted topic message qos).2
          posted := s.posted + 1 }
  | receive (s id m rest) : s.task = .idle → s.queue = (id, m) :: rest →
      PubStep hz s (.receive id) { s with queue := rest, msg := m, held := id, task := .received id }
  | drop (s id) : s.task = .received id → s.connected = false →
      PubStep hz s .drop { s with task := .idle }
  | clearFlag (s id) : s.task = .received id → s.connected →
      PubStep hz s .clearFlag { s with pubackReceived := false, task := .cleared id }
  | zeroOpts (s id) : s.task = .cleared id →
      PubStep hz s .zeroOpts { s with opts := ⟨0, 0, 0⟩, task := .zeroed id }
  | fillOpts (s id) : s.task = .zeroed id → PubStep hz s .fillOpts (s.fillOpts id)
  | publish (s id) : s.task = .filled id → PubStep hz s (s.sent id) (s.publish id)
  | timerStart (s id) : s.task = .starting id →
      PubStep hz s .timerStart { s with timer := some (s.now + pubackPeriod hz), task := .taking id }
  | wait (s id) : s.task = .taking id → PubStep hz s .wait { s with task := .waiting id s.now }
  | take (s id c) : s.task = .waiting id c → s.sem →
      PubStep hz s (.acked id) { s with sem := false, task := .idle }
  | timeout (s id c) : s.task = .waiting id c → c + pubackWait hz ≤ s.now → s.sem = false →
      PubStep hz s (.timedOut id) { s with task := .idle }
  | fire (s t) : s.timer = some t → t ≤ s.now →
      PubStep hz s (pubackTimerCallback { s with timer := some (t + pubackPeriod hz) }).2
        (pubackTimerCallback { s with timer := some (t + pubackPeriod hz) }).1
  | puback (s) : PubStep hz s .puback { s with pubackReceived := true, timer := none, sem := true }
  | connect (s) : PubStep hz s .connect { s with connected := true }
  | disconnect (s) : PubStep hz s .disconnect { s with connected := false }
  | tick (s) : PubStep hz s .tick { s with now := s.now + 1 }

/-- Runs of `PubStep`, with their traces. -/
inductive PubRun (hz : Nat) : PubSys → List PubEvent → PubSys → Prop
  | refl (s) : PubRun hz s [] s
  | step {s tr s' e s''} : PubRun hz s tr s' → PubStep hz s' e s'' → PubRun hz s (tr ++ [e]) s''

/-- The three branches of the callback. -/
theorem pubackTimerCallback_cases (s : PubSys) :
    (pubackTimerCallback s = ({ s with retries := s.retries + 1 }, s.resent) ∧
        s.pubackReceived = false ∧ s.retries < retryCount) ∨
      (pubackTimerCallback s = ({ s with sem := true, timer := none }, .exhausted) ∧
        retryCount ≤ s.retries) ∨
      (pubackTimerCallback s = (s, .expired) ∧ s.retries < retryCount) := by
  unfold pubackTimerCallback
  by_cases hr : s.retries < retryCount
  · cases hf : s.pubackReceived <;> simp [hr]
  · simp [hr, Nat.le_of_not_lt hr]

/-- The retry branch. -/
theorem pubackTimerCallback_retry {s : PubSys} (hf : s.pubackReceived = false)
    (hr : s.retries < retryCount) :
    pubackTimerCallback s = ({ s with retries := s.retries + 1 }, s.resent) := by
  simp [pubackTimerCallback, hf, hr]

section
variable {hz : Nat}

theorem PubRun.append {s s' s'' : PubSys} {tr tr' : List PubEvent}
    (h : PubRun hz s tr s') (h' : PubRun hz s' tr' s'') : PubRun hz s (tr ++ tr') s'' := by
  induction h' with
  | refl => simpa using h
  | step _ hs ih => simpa [List.append_assoc] using ih.step hs

theorem PubRun.ticks (s : PubSys) (n : Nat) :
    PubRun hz s (List.replicate n .tick) { s with now := s.now + n } := by
  induction n with
  | zero => exact .refl s
  | succ n ih =>
    rw [List.replicate_succ']
    exact ih.step (.tick _)

/-- The last step of a run. -/
theorem PubRun.last {s s'' : PubSys} {tr : List PubEvent} {e : PubEvent}
    (h : PubRun hz s (tr ++ [e]) s'') : ∃ s', PubRun hz s tr s' ∧ PubStep hz s' e s'' := by
  generalize hl : tr ++ [e] = l at h
  cases h with
  | refl => simp at hl
  | step h hs =>
    obtain ⟨rfl, he⟩ := List.append_inj' hl rfl
    obtain rfl := List.singleton_inj.1 he
    exact ⟨_, h, hs⟩

theorem PubRun.nil_eq {s s' : PubSys} (h : PubRun hz s [] s') : s = s' := by
  generalize hl : ([] : List PubEvent) = l at h
  cases h with
  | refl => rfl
  | step => simp at hl

theorem PubRun.single {s s' : PubSys} {e : PubEvent} (h : PubRun hz s [e] s') : PubStep hz s e s' := by
  obtain ⟨s₀, h₀, hs⟩ := @PubRun.last hz s s' [] e h
  rwa [h₀.nil_eq]

/-- A run through a trace split in two passes through a state between the halves. -/
theorem PubRun.split {s s'' : PubSys} {tr₁ tr₂ : List PubEvent}
    (h : PubRun hz s (tr₁ ++ tr₂) s'') : ∃ s', PubRun hz s tr₁ s' ∧ PubRun hz s' tr₂ s'' := by
  induction tr₂ using List.reverseRecOn generalizing s'' with
  | nil => exact ⟨s'', by simpa using h, .refl _⟩
  | append_singleton tr₂ e ih =>
    obtain ⟨s', h', hs⟩ := PubRun.last (by rwa [← List.append_assoc] at h)
    obtain ⟨s₁, h₁, h₂⟩ := ih h'
    exact ⟨s₁, h₁, h₂.step hs⟩

/-- What holds at the end of every run from `PubSys.init`, for an invariant that holds
initially and that every step keeps. -/
theorem PubRun.inv {P : PubSys → List PubEvent → Prop} (h₀ : P PubSys.init [])
    (hs : ∀ {s s' e tr}, PubStep hz s e s' → P s tr → P s' (tr ++ [e])) {s : PubSys}
    {tr : List PubEvent} (h : PubRun hz PubSys.init tr s) : P s tr := by
  induction h with
  | refl => exact h₀
  | step _ hst ih => exact hs hst ih

/-! ## The numbers of the messages -/

/-- The numbers on the queue increase and lie between the number of the message in `msg` and
the next one to be given; a message taken off the queue and not yet sent is the one in `msg`,
and once `publish_opts` is filled for it, the one it names. -/
structure PubSys.Numbered (s : PubSys) : Prop where
  sorted : (s.queue.map Prod.fst).Pairwise (· < ·)
  queued : ∀ p ∈ s.queue, s.held < p.1 ∧ p.1 < s.posted
  held_lt : s.held < s.posted
  unsent_held : ∀ id, s.task.unsent = some id → id = s.held
  filled_current : ∀ id, s.task = .filled id → s.current = id

theorem PubSys.numbered_init : PubSys.init.Numbered :=
  ⟨List.Pairwise.nil, (fun _ h => nomatch h), by decide, (fun _ h => nomatch h),
    (fun _ h => nomatch h)⟩

theorem PubStep.numbered {s s' : PubSys} {e : PubEvent} (h : PubStep hz s e s')
    (hi : s.Numbered) : s'.Numbered := by
  obtain ⟨hs, hq, hh, hu, hf⟩ := hi
  have keep : ∀ {s' : PubSys}, s'.queue = s.queue → s'.posted = s.posted → s'.held = s.held →
      (∀ id, s'.task.unsent = some id → s.task.unsent = some id) →
      (∀ id, s'.task = .filled id → s'.current = id) → s'.Numbered := fun h₁ h₂ h₃ h₄ h₅ =>
    ⟨h₁ ▸ hs, fun p hp => h₂ ▸ h₃ ▸ hq p (h₁ ▸ hp), h₂ ▸ h₃ ▸ hh,
      fun id hid => h₃ ▸ hu id (h₄ id hid), h₅⟩
  cases h with
  | post topic message qos hp =>
    obtain ⟨-, -, -, hq'⟩ := mqttAppPostData_true hp
    simp only [hq']
    refine ⟨?_, fun p hp => ?_, Nat.lt_succ_of_lt hh, hu, hf⟩
    · rw [List.map_append, List.pairwise_append]
      refine ⟨hs, List.pairwise_singleton _ _, fun a ha b hb => ?_⟩
      obtain ⟨p, hp, rfl⟩ := List.mem_map.1 ha
      rw [List.mem_singleton.1 hb]
      exact (hq p hp).2
    · rcases List.mem_append.1 hp with hp | hp
      · exact ⟨(hq p hp).1, Nat.lt_succ_of_lt (hq p hp).2⟩
      · rw [List.mem_singleton.1 hp]
        exact ⟨hh, Nat.lt_succ_self _⟩
  | receive id m rest _ hqe =>
    rw [hqe] at hs hq
    simp only [List.map_cons, List.pairwise_cons] at hs
    exact ⟨hs.2, fun p hp => ⟨hs.1 _ (List.mem_map_of_mem _ hp), (hq p (.tail _ hp)).2⟩,
      (hq _ (.head _)).2, fun _ h => (Option.some.inj h).symm, fun _ h => nomatch h⟩
  | drop => exact keep rfl rfl rfl (fun _ h => nomatch h) (fun _ h => nomatch h)
  | clearFlag id ht | zeroOpts id ht =>
    exact keep rfl rfl rfl (fun _ h => by simpa [ht, PubTask.unsent] using h) (fun _ h => nomatch h)
  | fillOpts id ht =>
    exact keep rfl rfl rfl (fun _ h => by simpa [ht, PubSys.fillOpts, PubTask.unsent] using h)
      (fun _ h => by simp only [PubSys.fillOpts, PubTask.filled.injEq] at h ⊢; exact h)
  | publish id =>
    refine keep rfl rfl rfl (fun _ h => ?_) (fun _ h => ?_) <;>
      simp only [PubSys.publish] at h <;> split at h <;> cases h
  | timerStart | wait | take | timeout =>
    exact keep rfl rfl rfl (fun _ h => nomatch h) (fun _ h => nomatch h)
  | fire t =>
    rcases pubackTimerCallback_cases { s with timer := some (t + pubackPeriod hz) } with
      ⟨h, -⟩ | ⟨h, -⟩ | ⟨h, -⟩ <;> rw [h] <;> exact keep rfl rfl rfl (fun _ h => h) hf
  | puback | connect | disconnect | tick => exact keep rfl rfl rfl (fun _ h => h) hf

theorem PubRun.numbered {s : PubSys} {tr : List PubEvent} (h : PubRun hz PubSys.init tr s) :
    s.Numbered :=
  h.inv (P := fun s _ => s.Numbered) PubSys.numbered_init fun hs hi => hs.numbered hi

/-! ## At most `2 * RETRY_COUNT + 1` sends of a message's bytes -/

/-- The event is a PUBLISH carrying bytes of message `i`: its first send, or a retry while `msg`
holds it. -/
def PubEvent.sendsBytesOf (i : Nat) : PubEvent → Bool
  | .publish j _ _ _ | .resend _ j _ _ _ => j == i
  | _ => false

/-- The event is the first send of message `i`. -/
def PubEvent.isFirstSend (i : Nat) : PubEvent → Bool
  | .publish j _ _ _ => j == i
  | _ => false

theorem PubEvent.sendsBytesOf_of_isFirstSend {i : Nat} {e : PubEvent} (h : e.isFirstSend i) :
    e.sendsBytesOf i := by
  cases e <;> first | exact h | cases h

/-- Each message's bytes were sent at most `2 * RETRY_COUNT + 1` times. Those of the message in
`msg` were sent at most `retries` times before its first send, which comes at most once, and at
most `RETRY_COUNT + 1 + retries` times in all after it; no later message's yet. -/
structure PubSys.SendBound (s : PubSys) (tr : List PubEvent) : Prop where
  retries_le : s.retries ≤ retryCount
  first_le : tr.countP (PubEvent.isFirstSend s.held) ≤ 1
  unsent : s.task.unsent.isSome → tr.countP (PubEvent.isFirstSend s.held) = 0
  held_le : tr.countP (PubEvent.sendsBytesOf s.held) ≤
    s.retries + (retryCount + 1) * tr.countP (PubEvent.isFirstSend s.held)
  bytes_le : ∀ i, tr.countP (PubEvent.sendsBytesOf i) ≤ 2 * retryCount + 1
  later : ∀ i, s.held < i → tr.countP (PubEvent.sendsBytesOf i) = 0

/-- Appending an element the predicate rejects keeps the count. -/
theorem countP_snoc_of_neg {α : Type} {p : α → Bool} (l : List α) {a : α} (h : p a = false) :
    (l ++ [a]).countP p = l.countP p := by
  simp [h]

/-- Appending an element the predicate accepts adds one to the count. -/
theorem countP_snoc_of_pos {α : Type} {p : α → Bool} (l : List α) {a : α} (h : p a = true) :
    (l ++ [a]).countP p = l.countP p + 1 := by
  simp [h]

theorem PubStep.sendBound {s s' : PubSys} {e : PubEvent} {tr : List PubEvent}
    (h : PubStep hz s e s') (hn : s.Numbered) (hb : s.SendBound tr) :
    s'.SendBound (tr ++ [e]) := by
  obtain ⟨hr, h1, hu, hh, hle, hlat⟩ := hb
  have first_le_bytes : ∀ i, tr.countP (PubEvent.isFirstSend i) ≤
      tr.countP (PubEvent.sendsBytesOf i) := fun i =>
    List.countP_mono_left fun e _ he => PubEvent.sendsBytesOf_of_isFirstSend he
  have quiet : ∀ {e' : PubEvent}, (∀ i, e'.sendsBytesOf i = false) → ∀ i,
      (tr ++ [e']).countP (PubEvent.sendsBytesOf i) = tr.countP (PubEvent.sendsBytesOf i) ∧
        (tr ++ [e']).countP (PubEvent.isFirstSend i) = tr.countP (PubEvent.isFirstSend i) :=
    fun he i => ⟨countP_snoc_of_neg tr (he i), countP_snoc_of_neg tr <| Bool.eq_false_iff.2
      fun hc => by simpa [he i] using PubEvent.sendsBytesOf_of_isFirstSend hc⟩
  have keep : ∀ {s' : PubSys} {e' : PubEvent}, (∀ i, e'.sendsBytesOf i = false) →
      s'.retries = s.retries → s'.held = s.held →
      (s'.task.unsent.isSome → s.task.unsent.isSome) → s'.SendBound (tr ++ [e']) := by
    intro s' e' he h₁ h₂ h₃
    have hq := quiet he
    exact ⟨h₁ ▸ hr, (hq _).2.trans_le (h₂ ▸ h1), fun ht => (hq _).2.trans (h₂ ▸ hu (h₃ ht)),
      by rw [(hq _).1, (hq _).2, h₁, h₂]; exact hh, fun i => (hq i).1.trans_le (hle i),
      fun i hi => (hq i).1.trans (hlat i (h₂ ▸ hi))⟩
  cases h with
  | receive id m rest _ hq =>
    have hid := (hn.queued (id, m) (by simp [hq])).1
    have h0 : tr.countP (PubEvent.isFirstSend id) = 0 :=
      Nat.eq_zero_of_le_zero ((first_le_bytes id).trans (hlat id hid).le)
    have hq' := @quiet (.receive id) fun _ => rfl
    exact ⟨hr, ((hq' id).2.trans h0).trans_le (Nat.zero_le 1), fun _ => (hq' id).2.trans h0,
      by rw [(hq' id).1, (hq' id).2, hlat id hid, h0]; exact Nat.zero_le _,
      fun i => (hq' i).1.trans_le (hle i), fun i hi => (hq' i).1.trans (hlat i (hid.trans hi))⟩
  | publish id ht =>
    have hid : id = s.held := hn.unsent_held id (by simp [ht, PubTask.unsent])
    subst hid
    have h0 := hu (by simp [ht, PubTask.unsent])
    have hf : (tr ++ [s.sent s.held]).countP (PubEvent.isFirstSend s.held) =
        tr.countP (PubEvent.isFirstSend s.held) + 1 := countP_snoc_of_pos tr (beq_self_eq_true _)
    rw [h0] at hf
    have hs : (tr ++ [s.sent s.held]).countP (PubEvent.sendsBytesOf s.held) =
        tr.countP (PubEvent.sendsBytesOf s.held) + 1 := countP_snoc_of_pos tr (beq_self_eq_true _)
    have hne : ∀ i, s.held ≠ i → (tr ++ [s.sent s.held]).countP (PubEvent.sendsBytesOf i) =
        tr.countP (PubEvent.sendsBytesOf i) := fun i hi => countP_snoc_of_neg tr (beq_false_of_ne hi)
    rw [h0] at hh
    refine ⟨Nat.zero_le _, hf.le, fun h' => ?_, ?_, fun i => ?_, fun i hi => ?_⟩ <;>
      dsimp only [PubSys.publish] at *
    · split at h' <;> cases h'
    · rw [hs, hf]
      omega
    · by_cases hi : s.held = i
      · subst hi; rw [hs]; omega
      · rw [hne i hi]; exact hle i
    · rw [hne i (Nat.ne_of_lt hi)]; exact hlat i hi
  | fire t =>
    rcases pubackTimerCallback_cases { s with timer := some (t + pubackPeriod hz) } with
      ⟨h, -, hlt⟩ | ⟨h, -⟩ | ⟨h, -⟩ <;> rw [h] <;> dsimp only at *
    · have hf : ∀ i, (tr ++ [PubSys.resent { s with timer := some (t + pubackPeriod hz) }]).countP
          (PubEvent.isFirstSend i) = tr.countP (PubEvent.isFirstSend i) := fun _ =>
        countP_snoc_of_neg tr rfl
      have hs : (tr ++ [PubSys.resent { s with timer := some (t + pubackPeriod hz) }]).countP
          (PubEvent.sendsBytesOf s.held) = tr.countP (PubEvent.sendsBytesOf s.held) + 1 :=
        countP_snoc_of_pos tr (beq_self_eq_true _)
      have hne : ∀ i, s.held ≠ i → (tr ++ [PubSys.resent { s with
          timer := some (t + pubackPeriod hz) }]).countP (PubEvent.sendsBytesOf i) =
            tr.countP (PubEvent.sendsBytesOf i) := fun i hi => countP_snoc_of_neg tr (beq_false_of_ne hi)
      refine ⟨hlt, (hf _).trans_le h1, fun ht => (hf _).trans (hu ht), ?_, fun i => ?_,
        fun i hi => (hne i (Nat.ne_of_lt hi)).trans (hlat i hi)⟩ <;> dsimp only
      · rw [hs, hf]
        omega
      · by_cases hi : s.held = i
        · subst hi
          have : tr.countP (PubEvent.isFirstSend s.held) ≤ 1 := h1
          rw [hs]
          simp only [retryCount] at hh hlt this ⊢
          omega
        · exact (hne i hi).trans_le (hle i)
    all_goals exact keep (fun _ => rfl) rfl rfl id
  | post | puback | connect | disconnect | tick => exact keep (fun _ => rfl) rfl rfl id
  | drop | timerStart | wait | take | timeout => exact keep (fun _ => rfl) rfl rfl (fun h => by cases h)
  | clearFlag _ ht | zeroOpts _ ht | fillOpts _ ht =>
    exact keep (fun _ => rfl) rfl rfl (fun _ => by rw [ht]; rfl)

/-- In every run, at most `2 * RETRY_COUNT + 1` PUBLISHes carry the bytes of one message: at
most `RETRY_COUNT` retries of the previous message once `xQueueReceive` has put it in `msg`,
its first send, and at most `RETRY_COUNT` retries after `retries = 0`. -/
theorem PubRun.sends_le {s : PubSys} {tr : List PubEvent} (h : PubRun hz PubSys.init tr s)
    (i : Nat) : tr.countP (PubEvent.sendsBytesOf i) ≤ 2 * retryCount + 1 := by
  have := h.inv (P := fun s tr => s.Numbered ∧ s.SendBound tr)
    ⟨PubSys.numbered_init, Nat.zero_le _, Nat.zero_le _, fun _ => rfl, Nat.zero_le _,
      fun _ => Nat.zero_le _, fun _ _ => rfl⟩
    fun hs hi => ⟨hs.numbered hi.1, hs.sendBound hi.1 hi.2⟩
  exact this.2.bytes_le i

/-- A message whose bytes go out `2 * RETRY_COUNT + 1` times: message 1 (QoS 1) times out with
its three retries still due; message 2 is taken off the queue into `msg`, and the three retries
of message 1 then send its bytes before `mqtt_publish_internal` refills `publish_opts`; message
2 is then sent and retried three times. -/
theorem sends_le_reached :
    ∃ tr s, PubRun 1 PubSys.init tr s ∧ tr.countP (PubEvent.sendsBytesOf 2) = 2 * retryCount + 1 ∧
      tr.countP (PubEvent.sendsBytesOf 2) ≤ 2 * retryCount + 1 := by
  have h₁ := (((((((((@PubRun.refl 1 PubSys.init).step (.connect _)).step
    (.post _ ⟨[0x61], by decide⟩ ⟨[0x61], by decide⟩ 1 rfl)).step
    (.receive _ 1 ⟨strncpyField [0x61] 64, strncpyField [0x61] 256, 1⟩ [] rfl rfl)).step
    (.clearFlag _ 1 rfl rfl)).step (.zeroOpts _ 1 rfl)).step (.fillOpts _ 1 rfl)).step
    (.publish _ 1 rfl)).step (.timerStart _ 1 rfl)).step (.wait _ 1 rfl)
  have h₂ := (((h₁.append (PubRun.ticks _ 15)).step (.timeout _ 1 0 rfl (by decide) rfl)).step
    (.post _ ⟨[0x62], by decide⟩ ⟨[0x62], by decide⟩ 1 rfl)).step
    (.receive _ 2 ⟨strncpyField [0x62] 64, strncpyField [0x62] 256, 1⟩ [] rfl rfl)
  have h₃ := ((((((((h₂.step (.fire _ 5 rfl (by decide))).step (.fire _ 10 rfl (by decide))).step
    (.fire _ 15 rfl (by decide))).step (.clearFlag _ 2 rfl rfl)).step (.zeroOpts _ 2 rfl)).step
    (.fillOpts _ 2 rfl)).step (.publish _ 2 rfl)).step (.timerStart _ 2 rfl)).step (.wait _ 2 rfl)
  have h₄ := ((((h₃.append (PubRun.ticks _ 5)).step (.fire _ 20 rfl (by decide))).append
    (PubRun.ticks _ 5)).step (.fire _ 25 rfl (by decide))).append (PubRun.ticks _ 5)
  have h₅ := h₄.step (.fire _ 30 rfl (by decide))
  exact ⟨_, _, h₅, by decide, PubRun.sends_le h₅ 2⟩

/-! ## Any published message is retried -/

/-- A timer event: a branch of `puback_timer_callback`. -/
def PubEvent.fromTimer : PubEvent → Bool
  | .resend .. | .exhausted | .expired => true
  | _ => false

/-- `xQueueReceive` takes a message off the queue. -/
def PubEvent.takesMsg : PubEvent → Bool
  | .receive _ => true
  | _ => false

theorem pubackTimerCallback_fromTimer (s : PubSys) : (pubackTimerCallback s).2.fromTimer := by
  rcases pubackTimerCallback_cases s with ⟨h, -⟩ | ⟨h, -⟩ | ⟨h, -⟩ <;> rw [h] <;> rfl

/-- The step that shows `puback_received = 0` clears the flag. -/
theorem PubStep.clearFlag_cases {s s' : PubSys} (h : PubStep hz s .clearFlag s') :
    s'.pubackReceived = false := by
  generalize he : PubEvent.clearFlag = e at h
  cases h with
  | clearFlag => rfl
  | fire t =>
    have := pubackTimerCallback_fromTimer { s with timer := some (t + pubackPeriod hz) }
    rw [← he] at this
    cases this
  | _ => cases he

/-- The step that shows a first send is `mqtt_publish_internal`'s, and sends `publish_opts`
over `msg`. -/
theorem PubStep.publish_cases {s s' : PubSys} {j : Nat} {topic message : List UInt8} {qos : Int}
    (h : PubStep hz s (.publish j topic message qos) s') :
    s.task = .filled j ∧ topic = s.packet.1 ∧ message = s.packet.2.1 ∧ qos = s.packet.2.2 ∧
      s' = s.publish j := by
  generalize he : PubEvent.publish j topic message qos = e at h
  cases h with
  | publish id ht =>
    simp only [PubSys.sent, PubEvent.publish.injEq] at he
    obtain ⟨rfl, rfl, rfl, rfl⟩ := he
    exact ⟨ht, rfl, rfl, rfl, rfl⟩
  | fire t =>
    have := pubackTimerCallback_fromTimer { s with timer := some (t + pubackPeriod hz) }
    rw [← he] at this
    cases this
  | _ => cases he

/-- `mongoose_task` is past the first send of the message `ev` retries, `publish_opts` and `msg`
are as that send left them, and no PUBACK has come since the flag was cleared. -/
structure PubSys.Retrying (ev : PubEvent) (s : PubSys) : Prop where
  flag : s.pubackReceived = false
  sent : s.task.unsent = none
  resent : s.resent = ev

/-- A step that is neither a PUBACK nor an `xQueueReceive`, below `RETRY_COUNT` retries, keeps
`Retrying`; if it is a timer event it is the retry `ev` and counts one more retry. -/
theorem PubStep.retrying {s s' : PubSys} {e ev : PubEvent} (h : PubStep hz s e s')
    (hq : s.Retrying ev) (hp : e ≠ .puback) (hr : e.takesMsg = false)
    (hlt : s.retries < retryCount) :
    s'.Retrying ev ∧ s'.retries = s.retries + (if e.fromTimer then 1 else 0) ∧
      (e.fromTimer → e = ev) := by
  obtain ⟨hf, hs, he⟩ := hq
  cases h with
  | fire t =>
    rw [pubackTimerCallback_retry (s := { s with timer := some (t + pubackPeriod hz) }) hf hlt]
    exact ⟨⟨hf, hs, he⟩, rfl, fun _ => he⟩
  | receive => cases hr
  | puback => exact absurd rfl hp
  | drop _ ht | clearFlag _ ht | zeroOpts _ ht | fillOpts _ ht | publish _ ht =>
    simp [ht, PubTask.unsent] at hs
  | post | timerStart | wait | take | timeout | connect | disconnect | tick =>
    exact ⟨⟨hf, by first | exact hs | rfl, he⟩, by simp [PubEvent.fromTimer], fun h => by cases h⟩

theorem PubRun.retrying {s s' : PubSys} {tr : List PubEvent} {ev : PubEvent}
    (h : PubRun hz s tr s') (hq : s.Retrying ev) (h0 : s.retries = 0)
    (htr : ∀ e ∈ tr, e ≠ .puback ∧ e.takesMsg = false)
    (hn : tr.countP PubEvent.fromTimer < retryCount) :
    s'.Retrying ev ∧ s'.retries = tr.countP PubEvent.fromTimer := by
  induction h with
  | refl => exact ⟨hq, h0⟩
  | @step tr₁ s₂ e s₃ _ hs ih =>
    rw [List.countP_append, List.countP_singleton] at hn ⊢
    obtain ⟨hq', hr'⟩ := ih (fun e he => htr e (List.mem_append_left _ he)) (by omega)
    obtain ⟨hp, hm⟩ := htr e (by simp)
    obtain ⟨hq'', hr'', -⟩ := hs.retrying hq' hp hm (by omega)
    exact ⟨hq'', by rw [hr'', hr']⟩

/-- The flag stays clear through steps that are not PUBACKs. -/
theorem PubRun.flag_clear {s s' : PubSys} {tr : List PubEvent} (h : PubRun hz s tr s')
    (hf : s.pubackReceived = false) (htr : .puback ∉ tr) : s'.pubackReceived = false := by
  induction h with
  | refl => exact hf
  | @step tr₁ s₂ e s₃ _ hs ih =>
    have hp : e ≠ .puback := fun he => htr (by simp [he])
    have hf' := ih fun h => htr (List.mem_append_left _ h)
    cases hs with
    | fire t =>
      rcases pubackTimerCallback_cases { s₂ with timer := some (t + pubackPeriod hz) } with
        ⟨h, -⟩ | ⟨h, -⟩ | ⟨h, -⟩ <;> rw [h] <;> exact hf'
    | puback => exact absurd rfl hp
    | _ => first | exact hf' | rfl

/-- After `mqtt_publish_internal` sends message `j`, whatever its QoS, as long as no PUBACK has
come since `puback_received = 0`, no message is taken off the queue and fewer than
`RETRY_COUNT` retries were made: once the PUBACK timer expires, `puback_timer_callback` can run
and send `j` again with its topic, message and QoS, and every run of it does. -/
theorem PubRun.resends_published {s : PubSys} {pre mid₁ mid₂ : List PubEvent} {j : Nat}
    {topic message : List UInt8} {qos : Int}
    (h : PubRun hz PubSys.init
      (pre ++ .clearFlag :: mid₁ ++ .publish j topic message qos :: mid₂) s)
    (h₁ : .puback ∉ mid₁) (h₂ : ∀ e ∈ mid₂, e ≠ .puback ∧ e.takesMsg = false)
    (hn : mid₂.countP PubEvent.fromTimer < retryCount) :
    (∀ d, s.timer = some d → d ≤ s.now → ∃ s', PubStep hz s (.resend j j topic message qos) s') ∧
      ∀ e s', PubStep hz s e s' → e.fromTimer → e = .resend j j topic message qos := by
  obtain ⟨s₁, hpre, hpost⟩ := @PubRun.split hz _ _ _ (.publish j topic message qos :: mid₂) h
  obtain ⟨s₀, hpre, hmid⟩ := @PubRun.split hz _ _ (pre ++ [.clearFlag]) mid₁
    (by simpa using hpre)
  obtain ⟨_, -, hc⟩ := hpre.last
  have hf₁ := hmid.flag_clear hc.clearFlag_cases h₁
  obtain ⟨s₂, hp, hrest⟩ := @PubRun.split hz _ _ [.publish j topic message qos] mid₂ hpost
  obtain ⟨ht, rfl, rfl, rfl, rfl⟩ := hp.single.publish_cases
  have hnum := (hpre.append hmid).numbered
  have hq : (s₁.publish j).Retrying (.resend j j s₁.packet.1 s₁.packet.2.1 s₁.packet.2.2) := by
    refine ⟨hf₁, by simp only [PubSys.publish]; split <;> rfl, ?_⟩
    simp [PubSys.resent, PubSys.publish, PubSys.packet, hnum.filled_current j ht,
      hnum.unsent_held j (by simp [ht, PubTask.unsent])]
  obtain ⟨hq', hr'⟩ := hrest.retrying hq rfl h₂ hn
  have hlt : s.retries < retryCount := by omega
  refine ⟨fun d hd hdn => ?_, fun e s' hs hte => ?_⟩
  · have hs := @PubStep.fire hz s d hd hdn
    have hev : ({ s with timer := some (d + pubackPeriod hz) }).resent = _ := hq'.resent
    rw [pubackTimerCallback_retry (s := { s with timer := some (d + pubackPeriod hz) }) hq'.flag
      hlt, hev] at hs
    exact ⟨_, hs⟩
  · exact (hs.retrying hq' (by rintro rfl; cases hte) (by cases e <;> first | rfl | cases hte)
      hlt).2.2 hte

/-- At one tick a second: a QoS 1 message `a` times out after `pdMS_TO_TICKS(15100) = 15` ticks
with no PUBACK and its retries not yet made; a QoS 0 message `b` is then published, and the
PUBACK timer, due since tick 5, sends `b` again. -/
theorem resends_published_qos0 :
    ∃ s, PubRun 1 PubSys.init
        (([.connect, .post 1 [0x61] [0x61] 1, .receive 1, .clearFlag, .zeroOpts, .fillOpts,
          .publish 1 [0x61] [0x61] 1, .timerStart, .wait] ++ List.replicate 15 .tick ++
          [.timedOut 1, .post 2 [0x62] [0x62] 0, .receive 2]) ++ .clearFlag :: [.zeroOpts, .fillOpts] ++
          .publish 2 [0x62] [0x62] 0 :: []) s ∧
      s.timer = some 5 ∧ 5 ≤ s.now ∧ PubEvent.puback ∉ [PubEvent.zeroOpts, .fillOpts] ∧
      (∀ e ∈ ([] : List PubEvent), e ≠ .puback ∧ e.takesMsg = false) ∧
      ([] : List PubEvent).countP PubEvent.fromTimer < retryCount ∧
      (∀ d, s.timer = some d → d ≤ s.now → ∃ s', PubStep 1 s (.resend 2 2 [0x62] [0x62] 0) s') ∧
      ∀ e s', PubStep 1 s e s' → e.fromTimer → e = .resend 2 2 [0x62] [0x62] 0 := by
  have h₁ := (((((((((@PubRun.refl 1 PubSys.init).step (.connect _)).step
    (.post _ ⟨[0x61], by decide⟩ ⟨[0x61], by decide⟩ 1 rfl)).step
    (.receive _ 1 ⟨strncpyField [0x61] 64, strncpyField [0x61] 256, 1⟩ [] rfl rfl)).step
    (.clearFlag _ 1 rfl rfl)).step (.zeroOpts _ 1 rfl)).step (.fillOpts _ 1 rfl)).step
    (.publish _ 1 rfl)).step (.timerStart _ 1 rfl)).step (.wait _ 1 rfl)
  have h₂ := ((((((h₁.append (PubRun.ticks _ 15)).step (.timeout _ 1 0 rfl (by decide) rfl)).step
    (.post _ ⟨[0x62], by decide⟩ ⟨[0x62], by decide⟩ 0 rfl)).step
    (.receive _ 2 ⟨strncpyField [0x62] 64, strncpyField [0x62] 256, 0⟩ [] rfl rfl)).step
    (.clearFlag _ 2 rfl rfl)).step (.zeroOpts _ 2 rfl)).step (.fillOpts _ 2 rfl)
  have h₃ : PubRun 1 PubSys.init
      (([.connect, .post 1 [0x61] [0x61] 1, .receive 1, .clearFlag, .zeroOpts, .fillOpts,
        .publish 1 [0x61] [0x61] 1, .timerStart, .wait] ++ List.replicate 15 .tick ++
        [.timedOut 1, .post 2 [0x62] [0x62] 0, .receive 2]) ++ .clearFlag :: [.zeroOpts, .fillOpts] ++
        .publish 2 [0x62] [0x62] 0 :: []) _ :=
    h₂.step (.publish _ 2 rfl)
  exact ⟨_, h₃, rfl, by decide, by decide, by simp, by decide,
    PubRun.resends_published h₃ (by decide) (by simp) (by decide)⟩

end

end Osal
