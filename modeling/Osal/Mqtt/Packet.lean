import Osal.Basic

/-!
# The UNSUBSCRIBE packet

`MqttApp_Unsubscribe` builds its UNSUBSCRIBE packet by hand: `mg_mqtt_send_header` of
Mongoose for the fixed header, then the packet identifier, the topic's length and the topic
(`unsubscribePacket`). `decodeUnsubscribe` reads a packet as MQTT 3.1.1 lays it out (§3.10),
with the checks a receiver makes: the type and flags byte, the remaining length (§2.2.3), a
non-zero packet identifier (§2.3.1), and length-prefixed topic filters.

`decodeUnsubscribe_unsubscribePacket`: for any identifier from 1 to 65535 and any topic
shorter than 65536 bytes, the packet decodes to that identifier and that one topic. The
identifier 0 does not decode.
-/

namespace Osal

/-- `MQTT_CMD_UNSUBSCRIBE`. -/
def mqttCmdUnsubscribe : Nat := 10

/-- The length bytes of `mg_mqtt_send_header`: its `do … while` loop writes `len % 0x80`,
with `0x80` or-ed in while more follows, and stops after four bytes. -/
def mgVarLen : Nat → Nat → List UInt8
  | 0, _ => []
  | fuel + 1, len =>
    if len / 0x80 > 0 then (len % 0x80 ||| 0x80).toUInt8 :: mgVarLen fuel (len / 0x80)
    else [(len % 0x80).toUInt8]

/-- `mg_mqtt_send_header(c, cmd, flags, len)`: the byte `(cmd << 4) | flags`, then `len`. -/
def mgMqttSendHeader (cmd flags len : Nat) : List UInt8 :=
  (cmd <<< 4 ||| flags).toUInt8 :: mgVarLen 4 len

/-- The bytes `MqttApp_Unsubscribe` sends (lines 475–491) with `packet_id` and the topic:
`mg_mqtt_send_header(nc, MQTT_CMD_UNSUBSCRIBE, 0x02, 2 + 2 + len)`, the identifier and the
topic's length each as `(x >> 8) & 0xFF` then `x & 0xFF`, and the topic. -/
def unsubscribePacket (packetId : Nat) (topic : List UInt8) : List UInt8 :=
  mgMqttSendHeader mqttCmdUnsubscribe 0x02 (2 + 2 + topic.length) ++
    [(packetId >>> 8 &&& 0xFF).toUInt8, (packetId &&& 0xFF).toUInt8] ++
    [(topic.length >>> 8 &&& 0xFF).toUInt8, (topic.length &&& 0xFF).toUInt8] ++ topic

/-- The remaining length (MQTT 3.1.1 §2.2.3), at most `fuel` bytes: seven bits a byte, least
significant first, continued while the top bit is set. The value and the bytes after it. -/
def decodeRemainingLength : Nat → List UInt8 → Option (Nat × List UInt8)
  | 0, _ => none
  | _ + 1, [] => none
  | fuel + 1, b :: rest =>
    if b.toNat < 0x80 then some (b.toNat, rest)
    else (decodeRemainingLength fuel rest).map fun (v, r) => (b.toNat - 0x80 + 0x80 * v, r)

/-- Topic filters to the end of the payload (§3.10.3), at most `fuel` of them: each a
two-byte length, most significant byte first, then that many bytes. -/
def decodeFilters : Nat → List UInt8 → Option (List (List UInt8))
  | _, [] => some []
  | 0, _ :: _ => none
  | _ + 1, [_] => none
  | fuel + 1, hi :: lo :: rest =>
    if hi.toNat * 256 + lo.toNat ≤ rest.length then
      (decodeFilters fuel (rest.drop (hi.toNat * 256 + lo.toNat))).map
        (rest.take (hi.toNat * 256 + lo.toNat) :: ·)
    else none

/-- An UNSUBSCRIBE packet (MQTT 3.1.1 §3.10): the byte `0xA2` (type 10, flags `0010`), the
remaining length, and exactly that many bytes: a non-zero packet identifier, most significant
byte first, and one or more topic filters. The identifier and the filters, or `none`. -/
def decodeUnsubscribe : List UInt8 → Option (Nat × List (List UInt8))
  | [] => none
  | b :: rest =>
    if b ≠ 0xA2 then none
    else match decodeRemainingLength 4 rest with
      | some (len, hi :: lo :: payload) =>
        if payload.length + 2 = len ∧ hi.toNat * 256 + lo.toNat ≠ 0 then
          match decodeFilters payload.length payload with
          | some (f :: fs) => some (hi.toNat * 256 + lo.toNat, f :: fs)
          | _ => none
        else none
      | _ => none

/-! ## Round trip -/

theorem toNat_toUInt8 {n : Nat} (h : n < 256) : n.toUInt8.toNat = n :=
  UInt8.toNat_ofNat_of_lt h

theorem land_0xFF (x : Nat) : x &&& 0xFF = x % 256 := Nat.and_pow_two_sub_one_eq_mod x 8

theorem lor_0x80 {x : Nat} (h : x < 0x80) : x ||| 0x80 = x + 0x80 :=
  (by decide : ∀ y : Fin 0x80, y.val ||| 0x80 = y.val + 0x80) ⟨x, h⟩

/-- The two bytes `(x >> 8) & 0xFF`, `x & 0xFF` read back most significant first. -/
theorem be16_decode {x : Nat} (h : x < 65536) :
    (x >>> 8 &&& 0xFF).toUInt8.toNat * 256 + (x &&& 0xFF).toUInt8.toNat = x := by
  rw [land_0xFF, land_0xFF, Nat.shiftRight_eq_div_pow, toNat_toUInt8 (Nat.mod_lt _ (by decide)),
    toNat_toUInt8 (Nat.mod_lt _ (by decide))]
  omega

/-- A length below 128 is one byte, read back at once. -/
theorem decodeRemainingLength_mgVarLen_small {len : Nat} (h : len < 0x80) (fuel : Nat)
    (rest : List UInt8) :
    decodeRemainingLength (fuel + 1) (mgVarLen (fuel + 1) len ++ rest) = some (len, rest) := by
  simp [mgVarLen, decodeRemainingLength, Nat.div_eq_of_lt h, Nat.mod_eq_of_lt h,
    toNat_toUInt8 (show len < 256 by omega), h]

/-- Mongoose's length bytes read back as MQTT's remaining length. -/
theorem decodeRemainingLength_mgVarLen (fuel : Nat) {len : Nat} (h : len < 0x80 ^ (fuel + 1))
    (rest : List UInt8) :
    decodeRemainingLength (fuel + 1) (mgVarLen (fuel + 1) len ++ rest) = some (len, rest) := by
  induction fuel generalizing len with
  | zero => exact decodeRemainingLength_mgVarLen_small (by simpa using h) 0 rest
  | succ fuel ih =>
    by_cases hl : len < 0x80
    · exact decodeRemainingLength_mgVarLen_small hl _ rest
    have hb : (len % 0x80 ||| 0x80).toUInt8.toNat = len % 0x80 + 0x80 := by
      rw [lor_0x80 (Nat.mod_lt _ (by decide)), toNat_toUInt8 (by omega)]
    have hq : len / 0x80 < 0x80 ^ (fuel + 1) := by
      rw [Nat.div_lt_iff_lt_mul (by decide)]
      simpa [Nat.pow_succ] using h
    unfold mgVarLen
    rw [if_pos (Nat.div_pos (by omega) (by decide))]
    simp only [List.cons_append, decodeRemainingLength, hb, List.append_eq, ih hq,
      Option.map_some']
    rw [if_neg (by omega)]
    congr 2
    omega

/-- One topic filter with its length read back. -/
theorem decodeFilters_single {topic : List UInt8} (h : topic.length < 65536) :
    decodeFilters (topic.length + 2)
      ((topic.length >>> 8 &&& 0xFF).toUInt8 :: (topic.length &&& 0xFF).toUInt8 :: topic) =
      some [topic] := by
  simp only [decodeFilters, be16_decode h, le_refl, if_true, List.drop_length, List.take_length]
  cases topic.length + 1 <;> rfl

/-- The packet `MqttApp_Unsubscribe` builds, for an identifier below 65536 and a topic shorter
than 65536 bytes, decodes to its identifier and its one topic exactly when the identifier is
not 0. -/
theorem decodeUnsubscribe_unsubscribePacket {packetId : Nat} {topic : List UInt8}
    (h₁ : packetId < 65536) (ht : topic.length < 65536) :
    decodeUnsubscribe (unsubscribePacket packetId topic) =
      if packetId ≠ 0 then some (packetId, [topic]) else none := by
  have hlen : 2 + 2 + topic.length < 0x80 ^ (3 + 1) := by
    rw [show (0x80 : Nat) ^ (3 + 1) = 268435456 from rfl]; omega
  simp only [unsubscribePacket, mgMqttSendHeader, List.cons_append, List.append_assoc,
    List.nil_append, decodeUnsubscribe]
  rw [if_neg (by decide), decodeRemainingLength_mgVarLen 3 hlen]
  have hrem : topic.length + 1 + 1 + 2 = 2 + 2 + topic.length := by omega
  simp only [List.length_cons, be16_decode h₁, hrem, true_and]
  by_cases h₀ : packetId ≠ 0
  · rw [if_pos h₀, if_pos h₀, decodeFilters_single ht]
  · rw [if_neg h₀, if_neg h₀]

example : unsubscribePacket 1 [0x61] = [0xA2, 5, 0, 1, 0, 1, 0x61] := by decide

example : decodeUnsubscribe (unsubscribePacket 0 [0x61]) = none := by decide

end Osal
