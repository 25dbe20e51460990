import Osal.Mqtt.Packet

/-!
# The subscription table of the MQTT client

`mqtt_state.subscriptions` holds `MAX_SUBSCRIPTIONS` entries, each a topic buffer of 128
bytes, a callback and `active`. `MqttApp_Subscribe` reuses the active entry whose topic
`strcmp`s equal to its argument, or fills a free one with `strncpy(sub->topic, topic, 127)`
and keeps it if the SUBACK comes; `MqttApp_Unsubscribe` sends an UNSUBSCRIBE for an active
topic and clears the entry if the UNSUBACK comes. How each wait ends is an argument
(`AckOutcome`), so a run (`MqttRun`) is any sequence of calls with any outcomes.

For runs whose topics are shorter than 128 bytes, no two active entries hold the same topic
(`MqttRun.unique`), and a subscribed topic is found in the same entry until an unsubscribe of
it succeeds (`MqttRun.found_until_unsubscribed`). A longer topic is stored cut to 127 bytes,
so the entry `MqttApp_Subscribe` just filled does not match its own topic
(`subscription_long_topic_lost`).

`MqttApp_Unsubscribe` numbers its packets with a static `uint16_t` that starts at 1 and is
never kept off 0. The `k`-th UNSUBSCRIBE of a run carries `k mod 65536` and decodes to it and
its topic whenever that is not 0 (`MqttRun.unsubscribe_packets`); the 65536-th carries 0
(`unsubscribe_id_wraps_to_zero`).
-/

namespace Osal

/-- `MAX_SUBSCRIPTIONS`; reducible, so that `Fin maxSubscriptions` has its numerals. -/
abbrev maxSubscriptions : Nat := 10

/-- `sizeof(mqtt_subscription_t.topic)`. -/
def topicSize : Nat := 128

/-- `mqtt_subscription_t`: the C string its `topic` buffer holds, the callback (`none` for
`NULL`) and `active`. `pending_unsub` is written and never read. -/
structure Subscription where
  topic : List UInt8
  callback : Option Nat
  active : Bool
  deriving DecidableEq, Repr

/-- An entry as `clear_subscription` and the `memset`s of `MqttApp_Init` leave it. -/
def Subscription.cleared : Subscription := ⟨[], none, false⟩

/-- `mqtt_state.subscriptions`. Topics are C strings: the bytes before the terminator. -/
abbrev SubTable := Fin maxSubscriptions → Subscription

/-- `find_subscription(topic)` (lines 85–98) for a non-`NULL` topic: the first active entry
whose topic `strcmp`s equal. -/
def findSubscription (tbl : SubTable) (topic : List UInt8) : Option (Fin maxSubscriptions) :=
  (List.finRange maxSubscriptions).find? fun i => (tbl i).active && (tbl i).topic == topic

/-- `find_free_subscription_slot()` (lines 100–110): the first inactive entry. -/
def findFreeSubscriptionSlot (tbl : SubTable) : Option (Fin maxSubscriptions) :=
  (List.finRange maxSubscriptions).find? fun i => !(tbl i).active

/-- `clear_subscription(sub)` (lines 112–121). -/
def clearSubscription (tbl : SubTable) (i : Fin maxSubscriptions) : SubTable :=
  Function.update tbl i .cleared

/-- How the wait of a subscribe or an unsubscribe ends: the semaphore taken with the ack flag
set, taken with it clear, or `xSemaphoreTake` timing out. -/
inductive AckOutcome
  | acked
  | notAcked
  | timedOut
  deriving DecidableEq, Repr

/-- `MqttApp_Subscribe(topic, qos, callback, timeout_ms)` (lines 406–456) for a non-`NULL`
topic, with `ready` for `initialized && connected`: the result and the table after it. A free
entry is zero past its topic, so `strncpy` of 127 bytes leaves the first 127 bytes of `topic`
as the entry's C string. -/
def mqttAppSubscribe (tbl : SubTable) (ready : Bool) (topic : List UInt8) (callback : Option Nat)
    (outcome : AckOutcome) : Bool × SubTable :=
  if !ready || callback.isNone then (false, tbl)
  else match findSubscription tbl topic with
    | some i => (true, Function.update tbl i { tbl i with callback := callback })
    | none =>
      match findFreeSubscriptionSlot tbl with
      | none => (false, tbl)
      | some i =>
        let tbl₁ := Function.update tbl i ⟨topic.take (topicSize - 1), callback, true⟩
        match outcome with
        | .timedOut => (false, clearSubscription tbl₁ i)
        | .notAcked => (false, clearSubscription tbl₁ i)
        | .acked => (true, tbl₁)

/-- The client state the two calls read and write: the table and the static `packet_id` of
`MqttApp_Unsubscribe`. -/
structure MqttClient where
  subscriptions : SubTable
  packetId : Nat

/-- At start: every entry zero, `packet_id` at its initial `1`. -/
def MqttClient.init : MqttClient := ⟨fun _ => .cleared, 1⟩

/-- `MqttApp_Unsubscribe(topic, timeout_ms)` (lines 458–511) for a non-`NULL` topic: the
result, the client after it, and the UNSUBSCRIBE bytes it sends. -/
def mqttAppUnsubscribe (c : MqttClient) (ready : Bool) (topic : List UInt8)
    (outcome : AckOutcome) : Bool × MqttClient × Option (List UInt8) :=
  if !ready then (false, c, none)
  else match findSubscription c.subscriptions topic with
    | none => (false, c, none)
    | some i =>
      let sent := unsubscribePacket c.packetId topic
      let c₁ := { c with packetId := (c.packetId + 1) % 2 ^ 16 }
      match outcome with
      | .timedOut => (false, c₁, some sent)
      | .notAcked => (false, c₁, some sent)
      | .acked => (true, { c₁ with subscriptions := clearSubscription c.subscriptions i }, some sent)

/-! ## Runs -/

/-- A call of one of the two functions, with how its wait ends. -/
inductive MqttCall
  | subscribe (topic : List UInt8) (callback : Option Nat) (outcome : AckOutcome)
  | unsubscribe (topic : List UInt8) (outcome : AckOutcome)

/-- The topic a call passes. -/
def MqttCall.topic : MqttCall → List UInt8
  | .subscribe topic _ _ => topic
  | .unsubscribe topic _ => topic

/-- A call on the client, `ready` or not. -/
def MqttClient.call (c : MqttClient) (ready : Bool) : MqttCall → Bool × MqttClient × Option (List UInt8)
  | .subscribe topic callback outcome =>
    ((mqttAppSubscribe c.subscriptions ready topic callback outcome).1,
      { c with subscriptions := (mqttAppSubscribe c.subscriptions ready topic callback outcome).2 },
      none)
  | .unsubscribe topic outcome => mqttAppUnsubscribe c ready topic outcome

/-- A call as the caller and the broker see it: what was called, what it returned, and the
UNSUBSCRIBE bytes it sent. -/
structure MqttEvent where
  call : MqttCall
  result : Bool
  sent : Option (List UInt8)

/-- The UNSUBSCRIBE packets of an event, each with the topic it was sent for. -/
def MqttEvent.packets (e : MqttEvent) : List (List UInt8 × List UInt8) :=
  e.sent.toList.map fun b => (e.call.topic, b)

inductive MqttStep : MqttClient → MqttEvent → MqttClient → Prop
  | call (c ready k) :
      MqttStep c ⟨k, (c.call ready k).1, (c.call ready k).2.2⟩ (c.call ready k).2.1

/-- Runs of `MqttStep`, with their traces. -/
inductive MqttRun : MqttClient → List MqttEvent → MqttClient → Prop
  | refl (c) : MqttRun c [] c
  | step {c tr c' e c''} : MqttRun c tr c' → MqttStep c' e c'' → MqttRun c (tr ++ [e]) c''

theorem MqttRun.append {c c' c'' : MqttClient} {tr tr' : List MqttEvent} (h : MqttRun c tr c')
    (h' : MqttRun c' tr' c'') : MqttRun c (tr ++ tr') c'' := by
  induction h' with
  | refl => simpa using h
  | step _ hs ih => simpa [List.append_assoc] using ih.step hs

theorem MqttStep.of_subscribe {c : MqttClient} {ready : Bool} {topic : List UInt8}
    {callback : Option Nat} {outcome : AckOutcome} {r : Bool} {tbl : SubTable}
    (h : mqttAppSubscribe c.subscriptions ready topic callback outcome = (r, tbl)) :
    MqttStep c ⟨.subscribe topic callback outcome, r, none⟩ ⟨tbl, c.packetId⟩ := by
  have := MqttStep.call c ready (.subscribe topic callback outcome)
  simp only [MqttClient.call, h] at this
  exact this

/-! ## The table -/

/-- Every topic fits the 128-byte buffer with its terminator. -/
def TableShort (tbl : SubTable) : Prop := ∀ i, (tbl i).topic.length < topicSize

/-- No two active entries hold the same topic. -/
def TableUnique (tbl : SubTable) : Prop :=
  ∀ i j, (tbl i).active → (tbl j).active → (tbl i).topic = (tbl j).topic → i = j

theorem findSubscription_some {tbl : SubTable} {t : List UInt8} {i : Fin maxSubscriptions}
    (h : findSubscription tbl t = some i) : (tbl i).active ∧ (tbl i).topic = t := by
  simpa using List.find?_some h

theorem findSubscription_none {tbl : SubTable} {t : List UInt8} :
    findSubscription tbl t = none ↔ ∀ i, (tbl i).active → (tbl i).topic ≠ t := by
  simp [findSubscription, List.find?_eq_none, List.mem_finRange]

/-- With no duplicates, the first-match search finds exactly the entry holding the topic. -/
theorem findSubscription_of_unique {tbl : SubTable} {t : List UInt8} {i : Fin maxSubscriptions}
    (hu : TableUnique tbl) (ha : (tbl i).active) (ht : (tbl i).topic = t) :
    findSubscription tbl t = some i := by
  cases h : findSubscription tbl t with
  | none => exact absurd ht (findSubscription_none.mp h i ha)
  | some j =>
    obtain ⟨hja, hjt⟩ := findSubscription_some h
    rw [hu j i hja ha (hjt.trans ht.symm)]

theorem findFreeSubscriptionSlot_some {tbl : SubTable} {i : Fin maxSubscriptions}
    (h : findFreeSubscriptionSlot tbl = some i) : (tbl i).active = false := by
  simpa using List.find?_some h

theorem tableShort_update {tbl : SubTable} {i : Fin maxSubscriptions} {s : Subscription}
    (hs : TableShort tbl) (h : s.topic.length < topicSize) :
    TableShort (Function.update tbl i s) := by
  intro j
  rw [Function.update_apply]
  split
  · exact h
  · exact hs j

/-- Writing an entry keeps the table free of duplicates when the entry is inactive or its
topic is held by no other active entry. -/
theorem tableUnique_update {tbl : SubTable} {i : Fin maxSubscriptions} {s : Subscription}
    (hu : TableUnique tbl) (hs : s.active → ∀ j ≠ i, (tbl j).active → (tbl j).topic ≠ s.topic) :
    TableUnique (Function.update tbl i s) := by
  intro a b ha hb hab
  simp only [Function.update_apply] at ha hb hab
  by_cases h₁ : a = i <;> by_cases h₂ : b = i <;>
    simp only [h₁, h₂, if_true, if_false] at ha hb hab
  · rw [h₁, h₂]
  · exact absurd hab.symm (hs ha b h₂ hb)
  · exact absurd hab (hs hb a h₁ ha)
  · exact hu a b ha hb hab

/-- Everything `MqttApp_Subscribe` can do to the table. -/
theorem mqttAppSubscribe_cases (tbl : SubTable) (ready : Bool) (topic : List UInt8)
    (callback : Option Nat) (outcome : AckOutcome) :
    mqttAppSubscribe tbl ready topic callback outcome = (false, tbl) ∨
      (∃ i, findSubscription tbl topic = some i ∧
        mqttAppSubscribe tbl ready topic callback outcome =
          (true, Function.update tbl i { tbl i with callback := callback })) ∨
      ∃ i, findSubscription tbl topic = none ∧ (tbl i).active = false ∧
        (mqttAppSubscribe tbl ready topic callback outcome =
            (true, Function.update tbl i ⟨topic.take (topicSize - 1), callback, true⟩) ∨
          mqttAppSubscribe tbl ready topic callback outcome =
            (false, Function.update tbl i .cleared)) := by
  unfold mqttAppSubscribe
  split
  · exact .inl rfl
  rcases hf : findSubscription tbl topic with _ | i
  · rcases hs : findFreeSubscriptionSlot tbl with _ | i
    · exact .inl rfl
    · refine .inr (.inr ⟨i, rfl, findFreeSubscriptionSlot_some hs, ?_⟩)
      cases outcome <;> simp [clearSubscription]
  · exact .inr (.inl ⟨i, rfl, rfl⟩)

/-- Everything `MqttApp_Unsubscribe` can do. -/
theorem mqttAppUnsubscribe_cases (c : MqttClient) (ready : Bool) (topic : List UInt8)
    (outcome : AckOutcome) :
    mqttAppUnsubscribe c ready topic outcome = (false, c, none) ∨
      ∃ i, findSubscription c.subscriptions topic = some i ∧
        (mqttAppUnsubscribe c ready topic outcome =
            (false, { c with packetId := (c.packetId + 1) % 2 ^ 16 },
              some (unsubscribePacket c.packetId topic)) ∨
          outcome = .acked ∧ mqttAppUnsubscribe c ready topic outcome =
            (true, ⟨clearSubscription c.subscriptions i, (c.packetId + 1) % 2 ^ 16⟩,
              some (unsubscribePacket c.packetId topic))) := by
  unfold mqttAppUnsubscribe
  split
  · exact .inl rfl
  rcases hf : findSubscription c.subscriptions topic with _ | i
  · exact .inl rfl
  · refine .inr ⟨i, rfl, ?_⟩
    cases outcome <;> simp

/-! ## Topics and duplicates -/

theorem mqttAppSubscribe_short {tbl : SubTable} (hs : TableShort tbl) (ready : Bool)
    (topic : List UInt8) (callback : Option Nat) (outcome : AckOutcome) :
    TableShort (mqttAppSubscribe tbl ready topic callback outcome).2 := by
  rcases mqttAppSubscribe_cases tbl ready topic callback outcome with
    h | ⟨i, -, h⟩ | ⟨i, -, -, h | h⟩ <;> rw [h]
  · exact hs
  · exact tableShort_update hs (hs i)
  · refine tableShort_update hs ?_
    simp only [List.length_take, topicSize]
    omega
  · exact tableShort_update hs (by decide)

/-- A subscribe of a topic shorter than 128 bytes keeps the table free of duplicates. -/
theorem mqttAppSubscribe_unique {tbl : SubTable} (hu : TableUnique tbl) (ready : Bool)
    {topic : List UInt8} (ht : topic.length < topicSize) (callback : Option Nat)
    (outcome : AckOutcome) : TableUnique (mqttAppSubscribe tbl ready topic callback outcome).2 := by
  rcases mqttAppSubscribe_cases tbl ready topic callback outcome with
    h | ⟨i, hf, h⟩ | ⟨i, hf, -, h | h⟩ <;> rw [h]
  · exact hu
  · exact tableUnique_update hu fun _ j hj ha heq =>
      hj (hu j i ha (findSubscription_some hf).1 heq)
  · refine tableUnique_update hu fun _ j _ ha heq => findSubscription_none.mp hf j ha ?_
    rwa [List.take_of_length_le (by unfold topicSize at ht ⊢; omega)] at heq
  · exact tableUnique_update hu fun h => by cases h

/-- A subscribe leaves an active entry active with its topic. -/
theorem mqttAppSubscribe_active {tbl : SubTable} {i : Fin maxSubscriptions}
    (ha : (tbl i).active) (ready : Bool) (topic : List UInt8) (callback : Option Nat)
    (outcome : AckOutcome) :
    ((mqttAppSubscribe tbl ready topic callback outcome).2 i).active ∧
      ((mqttAppSubscribe tbl ready topic callback outcome).2 i).topic = (tbl i).topic := by
  rcases mqttAppSubscribe_cases tbl ready topic callback outcome with
    h | ⟨j, -, h⟩ | ⟨j, -, hj, h | h⟩ <;> rw [h] <;> dsimp only
  · exact ⟨ha, rfl⟩
  · rw [Function.update_apply]
    split
    · subst i; simpa using ha
    · exact ⟨ha, rfl⟩
  all_goals
    have hij : i ≠ j := by rintro rfl; simp [hj] at ha
    rw [Function.update_noteq hij]
    exact ⟨ha, rfl⟩

/-- A subscribe keeps a found topic in its entry, if the table after it has no duplicates. -/
theorem mqttAppSubscribe_keeps_found {tbl : SubTable} {ready : Bool} {topic : List UInt8}
    {callback : Option Nat} {outcome : AckOutcome} {t : List UInt8} {i : Fin maxSubscriptions}
    (hu : TableUnique (mqttAppSubscribe tbl ready topic callback outcome).2)
    (hf : findSubscription tbl t = some i) :
    findSubscription (mqttAppSubscribe tbl ready topic callback outcome).2 t = some i := by
  obtain ⟨ha, ht⟩ := findSubscription_some hf
  obtain ⟨ha', ht'⟩ := mqttAppSubscribe_active ha ready topic callback outcome
  exact findSubscription_of_unique hu ha' (ht'.trans ht)

/-- A successful subscribe of a topic shorter than 128 bytes leaves it found, if the table
after it has no duplicates. -/
theorem mqttAppSubscribe_found {tbl : SubTable} {ready : Bool} {topic : List UInt8}
    {callback : Option Nat} {outcome : AckOutcome}
    (hu : TableUnique (mqttAppSubscribe tbl ready topic callback outcome).2)
    (ht : topic.length < topicSize) (hr : (mqttAppSubscribe tbl ready topic callback outcome).1) :
    ∃ i, findSubscription (mqttAppSubscribe tbl ready topic callback outcome).2 topic =
      some i := by
  rcases mqttAppSubscribe_cases tbl ready topic callback outcome with
    h | ⟨i, hf, h⟩ | ⟨i, -, -, h | h⟩
  · rw [h] at hr; cases hr
  · exact ⟨i, mqttAppSubscribe_keeps_found hu hf⟩
  · have hl : topic.length ≤ topicSize - 1 := by unfold topicSize at ht ⊢; omega
    refine ⟨i, findSubscription_of_unique hu ?_ ?_⟩ <;> rw [h] <;>
      simp [List.take_of_length_le hl]
  · rw [h] at hr; cases hr

/-- A subscribe of a topic not found, with a free entry and the SUBACK, fills that entry. -/
theorem mqttAppSubscribe_fresh {tbl : SubTable} {topic : List UInt8} {i : Fin maxSubscriptions}
    (hf : findSubscription tbl topic = none) (hs : findFreeSubscriptionSlot tbl = some i)
    (callback : Nat) :
    mqttAppSubscribe tbl true topic (some callback) .acked =
      (true, Function.update tbl i ⟨topic.take (topicSize - 1), some callback, true⟩) := by
  simp [mqttAppSubscribe, hf, hs]

theorem mqttAppUnsubscribe_short {c : MqttClient} (hs : TableShort c.subscriptions) (ready : Bool)
    (topic : List UInt8) (outcome : AckOutcome) :
    TableShort (mqttAppUnsubscribe c ready topic outcome).2.1.subscriptions := by
  rcases mqttAppUnsubscribe_cases c ready topic outcome with h | ⟨i, -, h | ⟨-, h⟩⟩ <;>
    rw [h]
  · exact hs
  · exact hs
  · exact tableShort_update hs (by decide)

theorem mqttAppUnsubscribe_unique {c : MqttClient} (hu : TableUnique c.subscriptions)
    (ready : Bool) (topic : List UInt8) (outcome : AckOutcome) :
    TableUnique (mqttAppUnsubscribe c ready topic outcome).2.1.subscriptions := by
  rcases mqttAppUnsubscribe_cases c ready topic outcome with h | ⟨i, -, h | ⟨-, h⟩⟩ <;>
    rw [h]
  · exact hu
  · exact hu
  · exact tableUnique_update hu fun h => by cases h

/-- An unsubscribe keeps a found topic in its entry unless it is a successful unsubscribe of
that topic, if the table after it has no duplicates. -/
theorem mqttAppUnsubscribe_keeps_found {c : MqttClient} {ready : Bool} {topic : List UInt8}
    {outcome : AckOutcome} {t : List UInt8} {i : Fin maxSubscriptions}
    (hu : TableUnique (mqttAppUnsubscribe c ready topic outcome).2.1.subscriptions)
    (hf : findSubscription c.subscriptions t = some i)
    (hne : ¬(topic = t ∧ (mqttAppUnsubscribe c ready topic outcome).1)) :
    findSubscription (mqttAppUnsubscribe c ready topic outcome).2.1.subscriptions t = some i := by
  rcases mqttAppUnsubscribe_cases c ready topic outcome with h | ⟨j, hj, h | ⟨-, h⟩⟩ <;>
    rw [h] at hu hne ⊢
  · exact hf
  · exact hf
  · obtain ⟨ha, ht⟩ := findSubscription_some hf
    have hij : i ≠ j := by
      rintro rfl
      exact hne ⟨(findSubscription_some hj).2.symm.trans ht, rfl⟩
    refine findSubscription_of_unique hu ?_ ?_ <;>
      simp only [clearSubscription, Function.update_noteq hij, ha, ht]

/-! ## Steps and runs -/

/-- The event is an `MqttApp_Unsubscribe(t)` that returned `true`. -/
def MqttEvent.Unsubscribed (e : MqttEvent) (t : List UInt8) : Prop :=
  (∃ o, e.call = .unsubscribe t o) ∧ e.result = true

section
variable {c c' : MqttClient} {e : MqttEvent}

theorem MqttStep.short (h : MqttStep c e c') (hs : TableShort c.subscriptions) :
    TableShort c'.subscriptions := by
  cases h with
  | call ready k =>
    cases k with
    | subscribe topic callback outcome =>
      exact mqttAppSubscribe_short hs ready topic callback outcome
    | unsubscribe topic outcome => exact mqttAppUnsubscribe_short hs ready topic outcome

theorem MqttStep.unique (h : MqttStep c e c') (hu : TableUnique c.subscriptions)
    (ht : e.call.topic.length < topicSize) : TableUnique c'.subscriptions := by
  cases h with
  | call ready k =>
    cases k with
    | subscribe topic callback outcome =>
      exact mqttAppSubscribe_unique hu ready ht callback outcome
    | unsubscribe topic outcome => exact mqttAppUnsubscribe_unique hu ready topic outcome

theorem MqttStep.keeps_found {t : List UInt8} {i : Fin maxSubscriptions} (h : MqttStep c e c')
    (hu : TableUnique c'.subscriptions) (hf : findSubscription c.subscriptions t = some i)
    (hne : ¬e.Unsubscribed t) : findSubscription c'.subscriptions t = some i := by
  cases h with
  | call ready k =>
    cases k with
    | subscribe topic callback outcome => exact mqttAppSubscribe_keeps_found hu hf
    | unsubscribe topic outcome =>
      refine mqttAppUnsubscribe_keeps_found hu hf fun ⟨htop, hr⟩ =>
        hne ⟨⟨outcome, by rw [htop]⟩, hr⟩

/-- The UNSUBSCRIBE a step sends, if any: for a topic shorter than 128 bytes, numbered with
`packet_id`, which it then advances. -/
theorem MqttStep.packets (h : MqttStep c e c') (hs : TableShort c.subscriptions) :
    e.packets = [] ∧ c'.packetId = c.packetId ∨
      e.call.topic.length < topicSize ∧
        e.packets = [(e.call.topic, unsubscribePacket c.packetId e.call.topic)] ∧
        c'.packetId = (c.packetId + 1) % 2 ^ 16 := by
  cases h with
  | call ready k =>
    cases k with
    | subscribe topic callback outcome => exact .inl ⟨rfl, rfl⟩
    | unsubscribe topic outcome =>
      simp only [MqttEvent.packets, MqttClient.call, MqttCall.topic]
      rcases mqttAppUnsubscribe_cases c ready topic outcome with h | ⟨j, hj, h | ⟨-, h⟩⟩ <;>
        rw [h]
      · exact .inl ⟨rfl, rfl⟩
      all_goals
        have ht : topic.length < topicSize := (findSubscription_some hj).2 ▸ hs j
        exact .inr ⟨ht, rfl, rfl⟩

end

theorem MqttClient.init_unique : TableUnique MqttClient.init.subscriptions :=
  fun _ _ h => by cases h

/-- Over a run whose topics are shorter than 128 bytes, the table stays free of duplicates
and a found topic stays in its entry unless a successful unsubscribe of it is among the
run's events. -/
theorem MqttRun.keeps_found {c c' : MqttClient} {tr : List MqttEvent} {t : List UInt8}
    {i : Fin maxSubscriptions} (h : MqttRun c tr c') (hu : TableUnique c.subscriptions)
    (hs : ∀ e ∈ tr, e.call.topic.length < topicSize)
    (hf : findSubscription c.subscriptions t = some i)
    (hne : ∀ e ∈ tr, ¬e.Unsubscribed t) :
    TableUnique c'.subscriptions ∧ findSubscription c'.subscriptions t = some i := by
  induction h with
  | refl => exact ⟨hu, hf⟩
  | step _ hstep ih =>
    simp only [List.mem_append, List.mem_singleton] at hs hne
    obtain ⟨hu', hf'⟩ := ih (fun e he => hs e (.inl he)) (fun e he => hne e (.inl he))
    have hu'' := hstep.unique hu' (hs _ (.inr rfl))
    exact ⟨hu'', hstep.keeps_found hu'' hf' (hne _ (.inr rfl))⟩

/-- From the start, a run whose topics are all shorter than 128 bytes leaves no two active
entries with the same topic. -/
theorem MqttRun.unique {c : MqttClient} {tr : List MqttEvent} (h : MqttRun MqttClient.init tr c)
    (hs : ∀ e ∈ tr, e.call.topic.length < topicSize) : TableUnique c.subscriptions := by
  induction h with
  | refl => exact MqttClient.init_unique
  | step _ hstep ih =>
    simp only [List.mem_append, List.mem_singleton] at hs
    exact hstep.unique (ih fun e he => hs e (.inl he)) (hs _ (.inr rfl))

/-- The table guarantee for topics shorter than 128 bytes: after `MqttApp_Subscribe(t)`
returns `true`, `find_subscription(t)` returns one entry, and the same entry after any later
calls with short topics among which no `MqttApp_Unsubscribe(t)` returned `true`. -/
theorem MqttRun.found_until_unsubscribed {tr₀ tr : List MqttEvent} {c c₁ c₂ : MqttClient}
    {e : MqttEvent} {t : List UInt8} {callback : Option Nat} {outcome : AckOutcome}
    (h₀ : MqttRun MqttClient.init tr₀ c) (hstep : MqttStep c e c₁) (h : MqttRun c₁ tr c₂)
    (hs : ∀ e' ∈ tr₀ ++ e :: tr, e'.call.topic.length < topicSize)
    (he : e.call = .subscribe t callback outcome) (hr : e.result = true)
    (hne : ∀ e' ∈ tr, ¬e'.Unsubscribed t) :
    ∃ i, findSubscription c₁.subscriptions t = some i ∧
      findSubscription c₂.subscriptions t = some i := by
  simp only [List.mem_append, List.mem_cons] at hs
  have hu₁ := hstep.unique (h₀.unique fun e' he' => hs e' (.inl he')) (hs e (.inr (.inl rfl)))
  obtain ⟨i, hi⟩ : ∃ i, findSubscription c₁.subscriptions t = some i := by
    cases hstep with
    | call ready k =>
      subst he
      have ht := hs _ (.inr (.inl rfl))
      exact mqttAppSubscribe_found hu₁ ht hr
  exact ⟨i, hi, (h.keeps_found hu₁ (fun e' he' => hs e' (.inr (.inr he'))) hi hne).2⟩

/-! ## Packet identifiers -/

/-- What a run from the start keeps about the UNSUBSCRIBE packets `sent` so far: topics fit
their buffers, `packet_id` is one past the number sent (mod 2^16), and the `k`-th packet (from
0) carries `k + 1` (mod 2^16) and a topic shorter than 128 bytes. -/
structure MqttClient.SentInv (c : MqttClient) (sent : List (List UInt8 × List UInt8)) : Prop where
  short : TableShort c.subscriptions
  packetId : c.packetId = (1 + sent.length) % 2 ^ 16
  packets : ∀ k (hk : k < sent.length), sent[k].1.length < topicSize ∧
    sent[k].2 = unsubscribePacket ((k + 1) % 2 ^ 16) sent[k].1

theorem MqttStep.sentInv {c c' : MqttClient} {e : MqttEvent}
    {sent : List (List UInt8 × List UInt8)} (h : MqttStep c e c') (hi : c.SentInv sent) :
    c'.SentInv (sent ++ e.packets) := by
  rcases h.packets hi.short with ⟨he, hid⟩ | ⟨ht, he, hid⟩ <;> rw [he]
  · exact ⟨h.short hi.short, by rw [hid, hi.packetId, List.append_nil],
      by simpa using hi.packets⟩
  · refine ⟨h.short hi.short, by rw [hid, hi.packetId]; simp; omega, fun k hk => ?_⟩
    simp only [List.length_append, List.length_singleton] at hk
    rcases Nat.lt_or_ge k sent.length with hk' | hk'
    · rw [List.getElem_append_left hk']
      exact hi.packets k hk'
    · have hk : k = sent.length := by omega
      subst hk
      simp only [List.getElem_append_right (Nat.le_refl _), Nat.sub_self, List.getElem_singleton]
      rw [hi.packetId, Nat.add_comm]
      exact ⟨ht, rfl⟩

theorem MqttRun.sentInv {c : MqttClient} {tr : List MqttEvent} (h : MqttRun MqttClient.init tr c) :
    c.SentInv (tr.flatMap MqttEvent.packets) := by
  induction h with
  | refl =>
    exact ⟨fun _ => (by decide : 0 < 128), rfl, fun _ hk => absurd hk (Nat.not_lt_zero _)⟩
  | step _ hstep ih => simpa [List.flatMap_append, List.flatMap_singleton] using hstep.sentInv ih

/-- In every run from the start, the `k`-th UNSUBSCRIBE sent (from 0) is `MqttApp_Unsubscribe`'s
packet for its topic with identifier `k + 1` mod 2^16, and it decodes to that identifier and
the topic exactly when the identifier is not 0. -/
theorem MqttRun.unsubscribe_packets {c : MqttClient} {tr : List MqttEvent}
    (h : MqttRun MqttClient.init tr c) (k : Nat) (hk : k < (tr.flatMap MqttEvent.packets).length) :
    (tr.flatMap MqttEvent.packets)[k].2 =
        unsubscribePacket ((k + 1) % 2 ^ 16) (tr.flatMap MqttEvent.packets)[k].1 ∧
      decodeUnsubscribe (tr.flatMap MqttEvent.packets)[k].2 =
        if (k + 1) % 2 ^ 16 ≠ 0 then some ((k + 1) % 2 ^ 16, [(tr.flatMap MqttEvent.packets)[k].1])
        else none := by
  obtain ⟨ht, hp⟩ := h.sentInv.packets k hk
  have hid : (k + 1) % 2 ^ 16 < 65536 := Nat.mod_lt _ (by decide)
  exact ⟨hp, by rw [hp, decodeUnsubscribe_unsubscribePacket hid (Nat.lt_trans ht (by decide))]⟩

/-- From a client where `t` is found, `n` unsubscribes of `t` that time out send `n` packets
for `t` and leave the table as it was. -/
theorem MqttRun.unsubscribe_timeouts {c : MqttClient} {t : List UInt8} {i : Fin maxSubscriptions}
    (hf : findSubscription c.subscriptions t = some i) (n : Nat) :
    ∃ tr c', MqttRun c tr c' ∧ c'.subscriptions = c.subscriptions ∧
      (tr.flatMap MqttEvent.packets).map Prod.fst = List.replicate n t := by
  induction n with
  | zero => exact ⟨[], c, .refl c, rfl, rfl⟩
  | succ n ih =>
    obtain ⟨tr, c', hr, hsub, hmap⟩ := ih
    refine ⟨_, _, hr.step (.call c' true (.unsubscribe t .timedOut)), ?_, ?_⟩
    · simp [MqttClient.call, mqttAppUnsubscribe, hsub, hf]
    · simp [MqttClient.call, mqttAppUnsubscribe, hsub, hf, hmap, MqttEvent.packets, MqttCall.topic,
        List.replicate_succ']

/-! ## Topics of 128 bytes or more -/

/-- From the start, `MqttApp_Subscribe(t)` with a topic of 128 bytes or more returns `true`
while `find_subscription(t)` then finds nothing, and a second `MqttApp_Subscribe(t)` also
returns `true` and leaves entries 0 and 1 both active with the same topic. -/
theorem subscription_long_topic_lost (t : List UInt8) (ht : topicSize ≤ t.length) (callback : Nat) :
    ∃ c₁ c₂, MqttStep MqttClient.init ⟨.subscribe t (some callback) .acked, true, none⟩ c₁ ∧
      findSubscription c₁.subscriptions t = none ∧
      MqttStep c₁ ⟨.subscribe t (some callback) .acked, true, none⟩ c₂ ∧
      (c₂.subscriptions 0).active ∧ (c₂.subscriptions 1).active ∧
      (c₂.subscriptions 0).topic = (c₂.subscriptions 1).topic := by
  let s : Subscription := ⟨t.take (topicSize - 1), some callback, true⟩
  have hcut : s.topic ≠ t := fun h => by
    have := congrArg List.length h
    simp only [s, List.length_take, topicSize] at this ht
    omega
  have hf₁ : findSubscription (Function.update MqttClient.init.subscriptions 0 s) t = none :=
    findSubscription_none.mpr fun i ha => by
      by_cases hi : i = 0
      · subst hi; exact hcut
      · rw [Function.update_noteq hi] at ha; cases ha
  have hf₀ : findSubscription MqttClient.init.subscriptions t = none :=
    findSubscription_none.mpr fun _ h => by cases h
  have hs₀ : findFreeSubscriptionSlot MqttClient.init.subscriptions = some 0 := rfl
  have hs₁ : findFreeSubscriptionSlot (Function.update MqttClient.init.subscriptions 0 s) = some 1 :=
    rfl
  exact ⟨_, _, .of_subscribe (mqttAppSubscribe_fresh hf₀ hs₀ callback), hf₁,
    .of_subscribe (mqttAppSubscribe_fresh hf₁ hs₁ callback), rfl, rfl, rfl⟩

theorem subscription_long_topic_lost_128 :
    topicSize ≤ (List.replicate 128 (0x61 : UInt8)).length ∧
      ∃ c₁ c₂, MqttStep MqttClient.init
          ⟨.subscribe (List.replicate 128 0x61) (some 0) .acked, true, none⟩ c₁ ∧
        findSubscription c₁.subscriptions (List.replicate 128 0x61) = none ∧
        MqttStep c₁ ⟨.subscribe (List.replicate 128 0x61) (some 0) .acked, true, none⟩ c₂ ∧
        (c₂.subscriptions 0).active ∧ (c₂.subscriptions 1).active ∧
        (c₂.subscriptions 0).topic = (c₂.subscriptions 1).topic :=
  ⟨by simp [topicSize], subscription_long_topic_lost _ (by simp [topicSize]) 0⟩

/-! ## The identifier wraps -/

/-- The 65536-th UNSUBSCRIBE of a run carries the identifier 0, which MQTT forbids: after
`MqttApp_Subscribe("a")`, the 65536-th of a series of `MqttApp_Unsubscribe("a")` calls that
time out sends the packet with identifier 0, and it does not decode. -/
theorem unsubscribe_id_wraps_to_zero :
    ∃ tr c, MqttRun MqttClient.init tr c ∧
      (tr.flatMap MqttEvent.packets)[65535]? = some ([0x61], unsubscribePacket 0 [0x61]) ∧
      decodeUnsubscribe (unsubscribePacket 0 [0x61]) = none := by
  let tbl := Function.update MqttClient.init.subscriptions 0 ⟨[0x61], some 0, true⟩
  have hf₀ : findSubscription MqttClient.init.subscriptions [0x61] = none :=
    findSubscription_none.mpr fun _ h => by cases h
  have hs₀ : findFreeSubscriptionSlot MqttClient.init.subscriptions = some 0 := rfl
  have h₀ :=
    (MqttRun.refl MqttClient.init).step (.of_subscribe (mqttAppSubscribe_fresh hf₀ hs₀ 0))
  have hf : findSubscription (MqttClient.mk tbl 1).subscriptions [0x61] = some 0 := rfl
  obtain ⟨tr, c, hr, -, hmap⟩ := MqttRun.unsubscribe_timeouts hf 65536
  have hrun := h₀.append hr
  refine ⟨_, c, hrun, ?_, by decide⟩
  have hL : ([] ++ [MqttEvent.mk (.subscribe [0x61] (some 0) .acked) true none] ++
      tr).flatMap MqttEvent.packets = tr.flatMap MqttEvent.packets := by
    simp [MqttEvent.packets]
  have hlen : 65535 < (tr.flatMap MqttEvent.packets).length := by
    have := congrArg List.length hmap
    simp only [List.length_map, List.length_replicate] at this
    omega
  have htopic : (tr.flatMap MqttEvent.packets)[65535].1 = [0x61] := by
    have := List.getElem_of_eq hmap (by rw [List.length_map]; exact hlen)
    rwa [List.getElem_map, List.getElem_replicate] at this
  have hp := (hrun.unsubscribe_packets 65535 (hL.symm ▸ hlen)).1
  simp only [hL, htopic] at hp
  rw [hL, List.getElem?_eq_getElem hlen]
  exact congrArg some (Prod.ext htopic hp)

end Osal
