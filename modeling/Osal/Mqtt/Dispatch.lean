import Osal.Mongoose.Match
import Osal.Mqtt.Subscriptions

/-!
# Which callback a message reaches

`handle_mqtt_message` copies at most 128 bytes of a received topic into a zeroed buffer and
calls the callback of the first active entry of the subscription table whose topic `mg_match`es
that copy (`handleMqttMessage`). The broker chose to send the message by the topic-filter rules
of MQTT 3.1.1 section 4.7 (`mqttTopicMatches`): levels separated by `/`, `+` for any one level,
and a final `#` for the parent level and any number of levels below it. The two readings of a
filter differ:

* for filters in the syntax both share (`MgFilter`: no `+`, `*` or `?`, and a `#` only as the
  whole filter or its last level), a message reaches the first entry whose filter the standard
  matches, except that `p/#` does not match its parent level `p`
  (`handleMqttMessage_eq_standard`);
* `+` is an ordinary byte to `mg_match`, so an entry whose filter has a `+` is never called for a
  topic name, which has none (`handleMqttMessage_plus_filter`).
-/

namespace Osal

/-- `handle_mqtt_message(mm)` (lines 249–269) for a message on `topic` with payload `data`: the
entry whose callback it calls, with the topic and the payload it passes. `topic_str` holds the
first 128 bytes of the topic in a zeroed buffer and is read back as a C string. -/
def handleMqttMessage (tbl : SubTable) (topic data : List UInt8) :
    Option (Fin maxSubscriptions × List UInt8 × List UInt8) :=
  let topicStr := (topic.take 128).takeWhile (· != 0)
  ((List.finRange maxSubscriptions).find? fun i =>
      (tbl i).active && (tbl i).callback.isSome && mgMatch topicStr (tbl i).topic).map
    fun i => (i, topicStr, data)

/-! ## Topic filters in MQTT 3.1.1 -/

/-- Section 4.7.1: whether a topic filter's levels match a topic name's levels. A final `#`
matches the parent level and every level below it, `+` matches any one level, and any other
level only itself. -/
def levelsMatch : List (List UInt8) → List (List UInt8) → Bool
  | [], t => t.isEmpty
  | l :: f, t =>
    (l == [35] && f.isEmpty) ||
      match t with
      | [] => false
      | l' :: t' => (l == [43] || l == l') && levelsMatch f t'

/-- Section 4.7: whether the server sends a message published to `topic` to a subscription with
`filter`. Levels are separated by `/`; a filter that starts with a wildcard does not match a
topic name that starts with `$` (section 4.7.2). -/
def mqttTopicMatches (filter topic : List UInt8) : Bool :=
  !(topic.head? == some 36 && (filter.head? == some 35 || filter.head? == some 43)) &&
    levelsMatch (filter.splitOn 47) (topic.splitOn 47)

/-- A byte neither reading of a filter treats as a wildcard. -/
def Plain (b : UInt8) : Prop := IsLit b ∧ b ≠ 43

instance : DecidablePred Plain := fun b => inferInstanceAs (Decidable (IsLit b ∧ b ≠ 43))

/-- A filter in the syntax both readings share: plain bytes, `#` alone, or plain bytes followed
by the level `/#`. -/
def MgFilter (f : List UInt8) : Prop :=
  (∀ b ∈ f, Plain b) ∨ f = [35] ∨ ∃ p, (∀ b ∈ p, Plain b) ∧ f = p ++ [47, 35]

/-! ## Levels -/

theorem splitOn_cons (x : UInt8) (s : List UInt8) :
    (x :: s).splitOn 47 =
      if x = 47 then [] :: s.splitOn 47 else (s.splitOn 47).modifyHead (x :: ·) := by
  by_cases h : x = 47 <;> simp [List.splitOn, h]

theorem splitOn_eq_cons (s : List UInt8) : ∃ l ls, s.splitOn 47 = l :: ls :=
  List.exists_cons_of_ne_nil (List.splitOnP_ne_nil _ _)

theorem splitOn_append_sep (a b : List UInt8) :
    (a ++ 47 :: b).splitOn 47 = a.splitOn 47 ++ b.splitOn 47 := by
  induction a with
  | nil => simp [splitOn_cons]
  | cons x a ih =>
    obtain ⟨l, ls, h⟩ := splitOn_eq_cons a
    by_cases hx : x = 47 <;> simp [splitOn_cons, hx, ih, h]

theorem mem_of_mem_splitOn {s l : List UInt8} {b : UInt8} (hl : l ∈ s.splitOn 47) (hb : b ∈ l) :
    b ∈ s := by
  induction s generalizing l with
  | nil => simp_all
  | cons x s ih =>
    obtain ⟨l₀, ls, h⟩ := splitOn_eq_cons s
    rw [splitOn_cons] at hl
    split_ifs at hl
    · rcases List.mem_cons.1 hl with rfl | hl
      · cases hb
      · exact List.mem_cons_of_mem _ (ih hl hb)
    · simp only [h, List.modifyHead, List.mem_cons] at hl
      rcases hl with rfl | hl
      · rcases List.mem_cons.1 hb with rfl | hb
        · exact List.mem_cons_self _ _
        · exact List.mem_cons_of_mem _ (ih (by simp [h]) hb)
      · exact List.mem_cons_of_mem _ (ih (by simp [h, hl]) hb)

/-- `splitOn` forgets nothing: two strings with the same levels are equal. -/
theorem splitOn_inj {a b : List UInt8} (h : a.splitOn 47 = b.splitOn 47) : a = b := by
  rw [← List.intercalate_splitOn a 47, h, List.intercalate_splitOn]

/-- The levels of `p` begin the levels of `t` exactly when `t` is `p` or continues it past a `/`. -/
theorem splitOn_prefix_iff (p t : List UInt8) :
    p.splitOn 47 <+: t.splitOn 47 ↔ t = p ∨ p ++ [47] <+: t := by
  refine ⟨fun h => ?_, ?_⟩
  · induction p generalizing t with
    | nil =>
      cases t with
      | nil => exact .inl rfl
      | cons y t =>
        refine .inr ?_
        obtain ⟨l, ls, ht⟩ := splitOn_eq_cons t
        by_cases hy : y = 47
        · exact ⟨t, by simp [hy]⟩
        · simp [splitOn_cons, hy, ht] at h
    | cons x p ih =>
      obtain ⟨l₀, ls₀, hp⟩ := splitOn_eq_cons p
      cases t with
      | nil =>
        by_cases hx : x = 47 <;> simp [splitOn_cons, hx, hp] at h
      | cons y t =>
        obtain ⟨l, ls, ht⟩ := splitOn_eq_cons t
        by_cases hx : x = 47 <;> by_cases hy : y = 47
        · subst hx hy
          simp only [splitOn_cons, if_true, List.cons_prefix_cons, true_and] at h
          rcases ih t h with rfl | hpre
          · exact .inl rfl
          · exact .inr (List.cons_prefix_cons.2 ⟨rfl, hpre⟩)
        · simp [splitOn_cons, hx, hy, ht] at h
        · simp [splitOn_cons, hx, hy, hp] at h
        · simp only [splitOn_cons, hx, hy, if_false, hp, ht, List.modifyHead,
            List.cons_prefix_cons, List.cons.injEq] at h
          obtain ⟨⟨rfl, rfl⟩, hls⟩ := h
          rcases ih t (by rw [hp, ht]; exact List.cons_prefix_cons.2 ⟨rfl, hls⟩) with rfl | hpre
          · exact .inl rfl
          · exact .inr (List.cons_prefix_cons.2 ⟨rfl, hpre⟩)
  · rintro (rfl | ⟨r, rfl⟩)
    · exact List.prefix_refl _
    · rw [List.append_assoc, List.singleton_append, splitOn_append_sep]
      exact List.prefix_append _ _

theorem levels_plain {p : List UInt8} (hp : ∀ b ∈ p, Plain b) :
    ∀ l ∈ p.splitOn 47, l ≠ [35] ∧ l ≠ [43] := by
  intro l hl
  constructor <;> rintro rfl
  · exact (hp 35 (mem_of_mem_splitOn hl (List.mem_singleton_self _))).1.2.2 rfl
  · exact (hp 43 (mem_of_mem_splitOn hl (List.mem_singleton_self _))).2 rfl

theorem levelsMatch_literal {f : List (List UInt8)} (hf : ∀ l ∈ f, l ≠ [35] ∧ l ≠ [43])
    (t : List (List UInt8)) : levelsMatch f t = (f == t) := by
  induction f generalizing t with
  | nil => cases t <;> rfl
  | cons l f ih =>
    obtain ⟨h35, h43⟩ := hf l (List.mem_cons_self _ _)
    cases t with
    | nil => simp [levelsMatch, beq_false_of_ne h35]
    | cons l' t =>
      simp [levelsMatch, beq_false_of_ne h35, beq_false_of_ne h43,
        ih (fun l hl => hf l (List.mem_cons_of_mem _ hl))]

theorem levelsMatch_literal_hash {f : List (List UInt8)} (hf : ∀ l ∈ f, l ≠ [43])
    (t : List (List UInt8)) : levelsMatch (f ++ [[35]]) t = f.isPrefixOf t := by
  induction f generalizing t with
  | nil => simp [levelsMatch]
  | cons l f ih =>
    cases t with
    | nil => simp [levelsMatch]
    | cons l' t =>
      simp [levelsMatch, List.isPrefixOf, beq_false_of_ne (hf l (List.mem_cons_self _ _)),
        ih (fun l hl => hf l (List.mem_cons_of_mem _ hl))]

/-! ## What the server sends -/

/-- A filter that starts with a plain byte or `/` is not subject to the `$` rule. -/
theorem mqttTopicMatches_of_head {f : List UInt8} (hf : ∀ b ∈ f.head?, b ≠ 35 ∧ b ≠ 43)
    (t : List UInt8) : mqttTopicMatches f t = levelsMatch (f.splitOn 47) (t.splitOn 47) := by
  cases f with
  | nil => simp [mqttTopicMatches]
  | cons b f =>
    obtain ⟨h35, h43⟩ := hf b rfl
    simp [mqttTopicMatches, h35, h43]

/-- The server sends a filter of plain bytes exactly the topic equal to it. -/
theorem mqttTopicMatches_plain {f : List UInt8} (hf : ∀ b ∈ f, Plain b) (t : List UInt8) :
    mqttTopicMatches f t = (t == f) := by
  rw [mqttTopicMatches_of_head (fun b hb => ⟨(hf b (List.mem_of_mem_head? hb)).1.2.2,
    (hf b (List.mem_of_mem_head? hb)).2⟩), levelsMatch_literal (levels_plain hf)]
  exact Bool.eq_iff_iff.2 (by simpa using ⟨fun h => (splitOn_inj h).symm, fun h => h ▸ rfl⟩)

/-- The server sends `p/#` the topic `p` and every topic continuing it past a `/`. -/
theorem mqttTopicMatches_plain_hash {p : List UInt8} (hp : ∀ b ∈ p, Plain b) (t : List UInt8) :
    mqttTopicMatches (p ++ [47, 35]) t = true ↔ t = p ∨ p ++ [47] <+: t := by
  have hhead : ∀ b ∈ (p ++ [47, 35]).head?, b ≠ 35 ∧ b ≠ 43 := by
    cases p with
    | nil => simp
    | cons b p => simpa using ⟨(hp b (List.mem_cons_self _ _)).1.2.2, (hp b (List.mem_cons_self _ _)).2⟩
  have hsplit : (p ++ [47, 35]).splitOn 47 = p.splitOn 47 ++ [[35]] := splitOn_append_sep p [35]
  rw [mqttTopicMatches_of_head hhead, hsplit,
    levelsMatch_literal_hash (fun l hl => (levels_plain hp l hl).2), List.isPrefixOf_iff_prefix,
    splitOn_prefix_iff]

/-! ## The client's reading against the server's -/

/-- A copy cut at 128 bytes equals a string shorter than that only if nothing was cut. -/
theorem take_128_eq_iff {t f : List UInt8} (hf : f.length < 128) : t.take 128 = f ↔ t = f := by
  refine ⟨fun h => ?_, fun h => by subst h; exact List.take_of_length_le (by omega)⟩
  have : (t.take 128).length < 128 := h ▸ hf
  rwa [List.take_of_length_le (by simp at this; omega)] at h

/-- `t` continues `p` past a `/` exactly when the server's `p/#` matches it and it is not `p`. -/
theorem prefix_sep_iff {p t : List UInt8} : p ++ [47] <+: t ↔ (t = p ∨ p ++ [47] <+: t) ∧ p ≠ t := by
  refine ⟨fun h => ⟨.inr h, fun hpt => ?_⟩, fun ⟨h, hpt⟩ => h.resolve_left (Ne.symm hpt)⟩
  have := h.length_le
  simp only [hpt, List.length_append, List.length_singleton] at this
  omega

/-- For a filter of the shared syntax that fits its entry, the client's match of the copied
topic is the server's, but for the parent level of a `p/#` filter. -/
theorem mgMatch_topicStr {f t : List UInt8} (hf : MgFilter f) (hlen : f.length < topicSize)
    (hnul : (0 : UInt8) ∉ t) (hd : t.head? ≠ some 36) :
    mgMatch ((t.take 128).takeWhile (· != 0)) f = (mqttTopicMatches f t && f != t ++ [47, 35]) := by
  have hcopy : (t.take 128).takeWhile (· != 0) = t.take 128 :=
    List.takeWhile_eq_self_iff.2 fun x hx =>
      bne_iff_ne.2 fun h => hnul (h ▸ List.mem_of_mem_take hx)
  rw [hcopy]
  rcases hf with hf | rfl | ⟨p, hp, rfl⟩
  · have hne : (f != t ++ [47, 35]) = true :=
      bne_iff_ne.2 fun h => (hf 35 (h ▸ by simp)).1.2.2 rfl
    rw [mgMatch_literal (fun b hb => (hf b hb).1), mqttTopicMatches_plain hf, hne, Bool.and_true]
    exact Bool.eq_iff_iff.2 (by simpa using take_128_eq_iff hlen)
  · have : mgMatch (t.take 128) [35] = true := by
      simpa using mgMatch_literal_hash (p := []) (by simp) (t.take 128)
    have hne : ([35] != t ++ [47, 35]) = true :=
      bne_iff_ne.2 fun h => by simpa using congrArg List.length h
    simp [this, hne, mqttTopicMatches, hd, splitOn_cons, levelsMatch]
  · have hlit : ∀ b ∈ p ++ [47], IsLit b :=
      List.forall_mem_append.2 ⟨fun b hb => (hp b hb).1, by decide⟩
    have hprefix : (p ++ [47]).isPrefixOf (t.take 128) = true ↔ p ++ [47] <+: t := by
      rw [List.isPrefixOf_iff_prefix, List.prefix_take_iff, and_iff_left_iff_imp]
      intro
      simp only [topicSize, List.length_append, List.length_cons, List.length_nil] at hlen ⊢
      omega
    have hm : mgMatch (t.take 128) (p ++ [47, 35]) = (p ++ [47]).isPrefixOf (t.take 128) := by
      rw [← mgMatch_literal_hash hlit]; simp
    refine Bool.eq_iff_iff.2 ?_
    rw [hm, hprefix, Bool.and_eq_true, mqttTopicMatches_plain_hash hp,
      bne_iff_ne, ne_eq, List.append_cancel_right_eq, ← ne_eq]
    exact prefix_sep_iff

/-- A message on a topic name reaches the first entry whose filter, in the syntax both readings
share, the server would match it with, except that a `p/#` entry does not get the topic `p`.
The topic may be longer than the 128 bytes `handle_mqtt_message` copies. -/
theorem handleMqttMessage_eq_standard (tbl : SubTable) (topic data : List UInt8)
    (htbl : ∀ i, (tbl i).active → (tbl i).topic.length < topicSize ∧ MgFilter (tbl i).topic)
    (hnul : (0 : UInt8) ∉ topic) (hd : topic.head? ≠ some 36) :
    (handleMqttMessage tbl topic data).map Prod.fst =
      (List.finRange maxSubscriptions).find? fun i =>
        (tbl i).active && (tbl i).callback.isSome && mqttTopicMatches (tbl i).topic topic &&
          (tbl i).topic != topic ++ [47, 35] := by
  have hpred : (fun i => (tbl i).active && (tbl i).callback.isSome &&
      mgMatch ((topic.take 128).takeWhile (· != 0)) (tbl i).topic) =
      fun i => (tbl i).active && (tbl i).callback.isSome &&
        mqttTopicMatches (tbl i).topic topic && (tbl i).topic != topic ++ [47, 35] := by
    funext i
    cases ha : (tbl i).active
    · rfl
    · rw [mgMatch_topicStr (htbl i ha).2 (htbl i ha).1 hnul hd]
      simp only [Bool.and_assoc]
  simp only [handleMqttMessage, Option.map_map, Function.comp_def, Option.map_id', hpred]

/-- Entry 0 subscribed to `home/#` and entry 1 to `home`: the server matches `home` with both,
but the message goes to entry 1. -/
theorem handleMqttMessage_eq_standard_parent :
    let tbl : SubTable := fun i =>
      if i = 0 then ⟨ascii "home/#", some 0, true⟩
      else if i = 1 then ⟨ascii "home", some 1, true⟩ else .cleared
    (∀ i, (tbl i).active → (tbl i).topic.length < topicSize ∧ MgFilter (tbl i).topic) ∧
      (0 : UInt8) ∉ ascii "home" ∧ (ascii "home").head? ≠ some 36 ∧
      (handleMqttMessage tbl (ascii "home") []).map Prod.fst = some 1 ∧
      mqttTopicMatches (ascii "home/#") (ascii "home") = true := by
  intro tbl
  have htbl : ∀ i, (tbl i).active → (tbl i).topic.length < topicSize ∧ MgFilter (tbl i).topic := by
    intro i hi
    by_cases h0 : i = 0
    · subst h0
      exact ⟨by decide, .inr (.inr ⟨ascii "home", by decide, by decide⟩)⟩
    by_cases h1 : i = 1
    · subst h1
      exact ⟨by decide, .inl (by decide)⟩
    simp [tbl, h0, h1, Subscription.cleared] at hi
  exact ⟨htbl, by decide, by decide,
    (handleMqttMessage_eq_standard tbl (ascii "home") [] htbl (by decide) (by decide)).trans
      (by decide), by decide⟩

/-- An entry whose filter holds a `+` is never called for a topic without one, though the
server sends it every topic its levels match. -/
theorem handleMqttMessage_plus_filter (tbl : SubTable) (topic data : List UInt8)
    (i : Fin maxSubscriptions) (hplus : (43 : UInt8) ∈ (tbl i).topic)
    (htopic : (43 : UInt8) ∉ topic) :
    (handleMqttMessage tbl topic data).map Prod.fst ≠ some i := by
  intro h
  simp only [handleMqttMessage, Option.map_map, Function.comp_def, Option.map_id'] at h
  have hm := List.find?_some h
  simp only [Bool.and_eq_true] at hm
  exact htopic (List.mem_of_mem_take ((List.takeWhile_prefix _).subset
    (mem_of_mgMatch (by decide) hplus hm.2)))

/-- A subscription to `home/+/temp` never sees `home/kitchen/temp`, which the server sends it. -/
theorem handleMqttMessage_plus_filter_kitchen :
    let tbl : SubTable := fun i => if i = 0 then ⟨ascii "home/+/temp", some 0, true⟩ else .cleared
    (43 : UInt8) ∈ (tbl 0).topic ∧ (43 : UInt8) ∉ ascii "home/kitchen/temp" ∧
      (handleMqttMessage tbl (ascii "home/kitchen/temp") []).map Prod.fst ≠ some 0 ∧
      mqttTopicMatches (ascii "home/+/temp") (ascii "home/kitchen/temp") = true := by
  intro tbl
  have h₁ : (43 : UInt8) ∈ (tbl 0).topic := by decide
  have h₂ : (43 : UInt8) ∉ ascii "home/kitchen/temp" := by decide
  exact ⟨h₁, h₂, handleMqttMessage_plus_filter tbl _ [] 0 h₁ h₂, by decide⟩

end Osal
