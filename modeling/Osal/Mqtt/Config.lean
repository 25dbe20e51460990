import Osal.Basic

/-!
# The MQTT configuration store

`mqtt_config.c` keeps the MQTT settings in one static `config_data_t`: six strings of
`MQTT_CONFIG_STR_SIZE` bytes, a certificate of `MQTT_CERT_MAX_SIZE` bytes, and `use_ssl`.
The table `config_values` gives each setting's NVS key, type, field and default
(`configValue`). `config_data` is a byte map at offsets from `&config_data` (`Mem`); the
offsets from `sizeof(config_data_t)` on are whatever follows it in memory.

`MQTTConfig_Init` reads every setting from NVS and the certificate from a file, or sets the
defaults when NVS does not open; `MQTTConfig_SetString` and `MQTTConfig_SetCert` write one
field; `MQTTConfig_Save` writes NVS and the file back, with a `strlen` of each string and of
the certificate (`saveData`, with what `_save_data` returns, or `none` when a `strlen` would run
past its field).

A field is terminated when it holds a NUL (`Terminated`). The strings always are, and so is
the certificate while its last byte stays `0` (`ConfigRun.terminated`), provided the
certificate file read at start is shorter than the field and no `MQTTConfig_SetCert` bound
wraps. Neither proviso holds for every input (`mqtt_config_cert_unterminated`): a
`cert_len + offset` that wraps in `size_t` passes the bound and lets `memcpy` write past the
certificate, and a certificate file of `MQTT_CERT_MAX_SIZE` bytes with no NUL, as a PEM chain
of that length is, leaves the field unterminated, so that the `strlen` of `_save_data` reads
past it.
-/

namespace Osal

/-- `MQTT_CONFIG_STR_SIZE`. -/
def mqttConfigStrSize : Nat := 64

/-- `MQTT_CERT_MAX_SIZE`. -/
def mqttCertMaxSize : Nat := 5120

/-- `sizeof(config_data_t)`. -/
def configDataSize : Nat := 5505

/-- `value_type_t`, as far as `config_values` uses it. -/
inductive ValueType
  | bool
  | string
  | cert
  deriving DecidableEq, Repr

/-- `mqtt_config_value_t`. -/
inductive ConfigValueId
  | address
  | ssl
  | topicPrefix
  | postDataTopic
  | username
  | password
  | clientId
  | cert
  deriving DecidableEq, Repr

/-- The settings in index order, as the loops of `mqtt_config.c` visit them. -/
def ConfigValueId.all : List ConfigValueId :=
  [.address, .ssl, .topicPrefix, .postDataTopic, .username, .password, .clientId, .cert]

/-- An entry of `config_values`: its NVS key, its type, the offset of its field in
`config_data`, and its default, the bytes of a default string or the byte of `default_tls`. -/
structure ConfigValue where
  name : String
  type : ValueType
  offset : Nat
  default : List UInt8

/-- `config_values` (lines 68–78). `config_data_t` lays out `address` at 0, `config_topic` at
64, `control_topic` at 128, `post_data_topic` at 192, `username` at 256, `password` at 320,
`cert` at 384 and `use_ssl` at 5504; the client id is stored in `control_topic`. -/
def configValue : ConfigValueId → ConfigValue
  | .address => ⟨"address", .string, 0, ascii "mqtt://192.168.1.169:1883"⟩
  | .ssl => ⟨"ssl", .bool, 5504, [0]⟩
  | .topicPrefix => ⟨"prefix", .string, 64, ascii "/config/"⟩
  | .postDataTopic => ⟨"post", .string, 192, ascii "/post_data/"⟩
  | .username => ⟨"user", .string, 256, []⟩
  | .password => ⟨"pass", .string, 320, []⟩
  | .clientId => ⟨"client_id", .string, 128, []⟩
  | .cert => ⟨"cert", .cert, 384, []⟩

/-! ## Bytes -/

/-- The bytes of `s` written at `m + off`, as `memcpy` or `fread` write them. -/
def writeBytes (m : Mem) (off : Nat) (s : List UInt8) : Mem :=
  copyIn m off s.length fun i => s.getD i 0

/-- `strcpy(m + off, s)`: the bytes of `s` and its NUL. -/
def strcpy (m : Mem) (off : Nat) (s : List UInt8) : Mem :=
  copyIn m off (s.length + 1) fun i => s.getD i 0

/-- `memset(m + off, 0, n)`. -/
def memsetZero (m : Mem) (off n : Nat) : Mem :=
  copyIn m off n fun _ => 0

/-- `strlen(m + off)` when the NUL is among the `n` bytes of the field at `off`, and `none`
when `strlen` would read past them. -/
def strnlen (m : Mem) (off n : Nat) : Option Nat :=
  (List.range n).find? fun i => m (off + i) = 0

/-- The `n`-byte field at `off` holds a NUL. -/
def Terminated (m : Mem) (off n : Nat) : Prop := ∃ i < n, m (off + i) = 0

instance (m : Mem) (off n : Nat) : Decidable (Terminated m off n) :=
  inferInstanceAs (Decidable (∃ i < n, _))

/-! ## The calls -/

/-- An NVS item: a string (`nvs_set_str`) or a byte (`nvs_set_u8`). -/
inductive NvsItem
  | str (s : List UInt8)
  | u8 (b : UInt8)

/-- The `mqtt_config` namespace of the `dev_config` partition, by key. -/
abbrev Nvs := String → Option NvsItem

/-- One pass of `_read_data`'s loop (lines 90–141): `nvs_get_u8`, or the default byte;
`nvs_get_str` into a buffer of `MQTT_CONFIG_STR_SIZE` bytes, which fails for a string that
needs more, or `strcpy` of the default; and `fread` of up to `sizeof(config_data.cert)` bytes
of the certificate file if it opens (`file`, `none` when `fopen` fails). -/
def readValue (nvs : Nvs) (file : Option (List UInt8)) (m : Mem) (id : ConfigValueId) : Mem :=
  let v := configValue id
  match v.type with
  | .bool =>
    match nvs v.name with
    | some (.u8 b) => writeBytes m v.offset [b]
    | _ => writeBytes m v.offset v.default
  | .string =>
    match nvs v.name with
    | some (.str s) =>
      if s.length + 1 ≤ mqttConfigStrSize then strcpy m v.offset s else strcpy m v.offset v.default
    | _ => strcpy m v.offset v.default
  | .cert =>
    match file with
    | none => m
    | some bytes => writeBytes m v.offset (bytes.take mqttCertMaxSize)

/-- `_read_data` (lines 80–146): `none` when `nvs_open_from_partition` fails. -/
def readData (nvsOk : Bool) (nvs : Nvs) (file : Option (List UInt8)) (m : Mem) : Option Mem :=
  if nvsOk then some (ConfigValueId.all.foldl (readValue nvs file) m) else none

/-- One pass of `_set_default_config`'s loop (lines 212–231). -/
def defaultValue (m : Mem) (id : ConfigValueId) : Mem :=
  let v := configValue id
  match v.type with
  | .bool => writeBytes m v.offset v.default
  | .string => strcpy m v.offset v.default
  | .cert => memsetZero m v.offset mqttCertMaxSize

/-- `_set_default_config` (lines 209–233). -/
def setDefaultConfig (m : Mem) : Mem := ConfigValueId.all.foldl defaultValue m

/-- `MQTTConfig_Init` (lines 235–241). -/
def mqttConfigInit (nvsOk : Bool) (nvs : Nvs) (file : Option (List UInt8)) (m : Mem) : Mem :=
  (readData nvsOk nvs file m).getD (setDefaultConfig m)

/-- `MQTTConfig_SetString(string, config_value)` (lines 279–290), for a C string given by its
bytes before the NUL. -/
def mqttConfigSetString (string : List UInt8) (id : ConfigValueId) (m : Mem) : Bool × Mem :=
  let v := configValue id
  if v.type = .string ∧ string.length < mqttConfigStrSize then (true, strcpy m v.offset string)
  else (false, m)

/-- `MQTTConfig_SetCert(cert, cert_len, offset, config_value)` (lines 267–278): the bound
`cert_len + offset < MQTT_CERT_MAX_SIZE` is computed in `size_t`. -/
def mqttConfigSetCert (H : Host) (cert : Mem) (certLen offset : Nat) (id : ConfigValueId)
    (m : Mem) : Bool × Mem :=
  let v := configValue id
  if v.type = .cert ∧ H.sizeT (certLen + offset) < mqttCertMaxSize then
    (true, copyIn m (v.offset + offset) certLen cert)
  else (false, m)

/-- `MQTTConfig_GetString(config_value)` (lines 316–324): the offset of the field, or `NULL`. -/
def mqttConfigGetString (id : ConfigValueId) : Option Nat :=
  if (configValue id).type = .string then some (configValue id).offset else none

/-- `MQTTConfig_GetCert(config_value)` (lines 326–334). -/
def mqttConfigGetCert (id : ConfigValueId) : Option Nat :=
  if (configValue id).type = .cert then some (configValue id).offset else none

/-- One pass of `_save_data`'s loop (lines 159–196), `fileOk` whether
`fopen(MQTT_CERT_FILE, "wb")` succeeds: `nvs_set_u8`; `nvs_set_str`, which reads the string
up to its NUL; and the certificate file, removed and written again with `strlen(cert)`
bytes. -/
def saveValue (m : Mem) (fileOk : Bool) (acc : Option (Nvs × Option (List UInt8)))
    (id : ConfigValueId) : Option (Nvs × Option (List UInt8)) :=
  acc.bind fun (nvs, file) =>
    let v := configValue id
    match v.type with
    | .bool => some (Function.update nvs v.name (some (.u8 (m v.offset))), file)
    | .string => (strnlen m v.offset mqttConfigStrSize).map fun k =>
        (Function.update nvs v.name (some (.str (readBytes m v.offset k))), file)
    | .cert =>
      if fileOk then (strnlen m v.offset mqttCertMaxSize).map fun k =>
        (nvs, some (readBytes m v.offset k))
      else some (nvs, none)

/-- `_save_data` (lines 148–207), `nvsOk` whether `nvs_open_from_partition` succeeds: what it
returns, with the NVS contents and the certificate file after it, or `none` when a `strlen`
reads past its field. The `nvs_set_*` calls and `nvs_commit` succeed here. -/
def saveData (nvsOk fileOk : Bool) (m : Mem) (nvs : Nvs) (file : Option (List UInt8)) :
    Option (Bool × Nvs × Option (List UInt8)) :=
  if nvsOk then (ConfigValueId.all.foldl (saveValue m fileOk) (some (nvs, file))).map (true, ·)
  else some (false, nvs, file)

/-! ## Where each call writes -/

theorem copyIn_of_lt {dst src : Mem} {off n j : Nat} (h : j < off ∨ off + n ≤ j) :
    copyIn dst off n src j = dst j := by
  simp only [copyIn]
  rw [if_neg (by omega)]

theorem copyIn_of_mem {dst src : Mem} {off n j : Nat} (h₁ : off ≤ j) (h₂ : j < off + n) :
    copyIn dst off n src j = src (j - off) := by
  simp only [copyIn]
  rw [if_pos ⟨h₁, h₂⟩]

/-- `strcpy` of a string shorter than the field terminates the field. -/
theorem strcpy_terminated {m : Mem} {off n : Nat} {s : List UInt8} (h : s.length < n) :
    Terminated (strcpy m off s) off n :=
  ⟨s.length, h, by rw [strcpy, copyIn_of_mem (by omega) (by omega)]; simp⟩

/-- A `strlen` past the certificate leaves nothing defined, whatever came before it. -/
theorem saveValue_cert_none {m : Mem} (h : strnlen m 384 mqttCertMaxSize = none)
    (acc : Option (Nvs × Option (List UInt8))) : saveValue m true acc .cert = none := by
  cases acc <;> simp [saveValue, configValue, h]

/-- The certificate ends the loop of `_save_data`, so a `strlen` past its field leaves
nothing defined. -/
theorem saveData_of_cert {m : Mem} {nvs : Nvs} {file : Option (List UInt8)}
    (h : strnlen m 384 mqttCertMaxSize = none) : saveData true true m nvs file = none := by
  simp only [saveData, if_true, ConfigValueId.all, List.foldl_cons, List.foldl_nil]
  rw [saveValue_cert_none h _, Option.map_none']

theorem strnlen_eq_none {m : Mem} {off n : Nat} (h : ¬Terminated m off n) :
    strnlen m off n = none := by
  simp only [strnlen, List.find?_eq_none, List.mem_range, decide_eq_true_eq]
  exact fun i hi h0 => h ⟨i, hi, h0⟩

/-- Two ways to leave the certificate without a NUL or to write past it. `cert_len + offset`
wraps in `size_t`: with `cert_len = SIZE_MAX` and `offset = 1` the bound passes and `memcpy`
writes `cert[1]` onwards, over `use_ssl` and every byte after `config_data` up to the top of
the address space. And a certificate file whose first `MQTT_CERT_MAX_SIZE` bytes hold no NUL,
as a PEM chain of that length is, leaves the field without one after `MQTTConfig_Init`, so the
`strlen` of `_save_data` reads past it. -/
theorem mqtt_config_cert_unterminated (H : Host) (cert m : Mem) (nvs : Nvs) (file : List UInt8)
    (hlen : mqttCertMaxSize ≤ file.length) (hnul : 0 ∉ file.take mqttCertMaxSize) :
    (mqttConfigSetCert H cert (2 ^ H.sizeBits - 1) 1 .cert m).1 = true ∧
      (∀ j, configDataSize - 1 ≤ j → j < 2 ^ H.sizeBits →
        (mqttConfigSetCert H cert (2 ^ H.sizeBits - 1) 1 .cert m).2 j = cert (j - 385)) ∧
      ¬Terminated (mqttConfigInit true nvs (some file) m) 384 mqttCertMaxSize ∧
      saveData true true (mqttConfigInit true nvs (some file) m) nvs (some file) = none := by
  have hw : 2 ^ 32 ≤ 2 ^ H.sizeBits := H.u32_lt_size
  have hwrap : H.sizeT (2 ^ H.sizeBits - 1 + 1) = 0 := by
    rw [Host.sizeT, Nat.sub_add_cancel (Nat.one_le_two_pow), Nat.mod_self]
  have hset : mqttConfigSetCert H cert (2 ^ H.sizeBits - 1) 1 .cert m =
      (true, copyIn m 385 (2 ^ H.sizeBits - 1) cert) := by
    simp [mqttConfigSetCert, configValue, hwrap, mqttCertMaxSize]
  have hinit : ¬Terminated (mqttConfigInit true nvs (some file) m) 384 mqttCertMaxSize := by
    rintro ⟨i, hi, h0⟩
    have hi' : i < (file.take mqttCertMaxSize).length := by simp; omega
    simp only [mqttConfigInit, readData, if_true, Option.getD_some, ConfigValueId.all,
      List.foldl_cons, List.foldl_nil, readValue, configValue] at h0
    rw [writeBytes, copyIn_of_mem (by omega) (by omega), Nat.add_sub_cancel_left,
      List.getD_eq_getElem?_getD, List.getElem?_eq_getElem hi', Option.getD_some] at h0
    exact hnul (h0 ▸ List.getElem_mem hi')
  refine ⟨by rw [hset], fun j hj hj' => ?_, hinit, saveData_of_cert (strnlen_eq_none hinit)⟩
  rw [hset]
  exact copyIn_of_mem (by unfold configDataSize at hj; omega) (by omega)

/-- On the ESP32's 32-bit `size_t`, with a certificate file of 5120 `-` characters. -/
theorem mqtt_config_cert_unterminated_dashes :
    mqttCertMaxSize ≤ (List.replicate 5120 (45 : UInt8)).length ∧
      0 ∉ (List.replicate 5120 (45 : UInt8)).take mqttCertMaxSize ∧
      (mqttConfigSetCert ⟨32, le_rfl⟩ (fun _ => 65) (2 ^ 32 - 1) 1 .cert (fun _ => 0)).1 = true ∧
      (∀ j, configDataSize - 1 ≤ j → j < 2 ^ 32 →
        (mqttConfigSetCert ⟨32, le_rfl⟩ (fun _ => 65) (2 ^ 32 - 1) 1 .cert (fun _ => 0)).2 j =
          65) ∧
      ¬Terminated (mqttConfigInit true (fun _ => none) (some (List.replicate 5120 45))
        (fun _ => 0)) 384 mqttCertMaxSize ∧
      saveData true true (mqttConfigInit true (fun _ => none) (some (List.replicate 5120 45))
        (fun _ => 0)) (fun _ => none) (some (List.replicate 5120 45)) = none :=
  have hlen : mqttCertMaxSize ≤ (List.replicate 5120 (45 : UInt8)).length := by
    rw [List.length_replicate]; decide
  have hnul : 0 ∉ (List.replicate 5120 (45 : UInt8)).take mqttCertMaxSize := by
    simp only [List.take_replicate, List.mem_replicate]; decide
  ⟨hlen, hnul, mqtt_config_cert_unterminated ⟨32, le_rfl⟩ (fun _ => 65) (fun _ => 0)
    (fun _ => none) (List.replicate 5120 45) hlen hnul⟩

/-! ## The fields -/

/-- The bytes of a field: one for a `bool`, `MQTT_CONFIG_STR_SIZE` for a string and
`MQTT_CERT_MAX_SIZE` for the certificate. -/
def ValueType.size : ValueType → Nat
  | .bool => 1
  | .string => mqttConfigStrSize
  | .cert => mqttCertMaxSize

/-- Byte `j` of `config_data` lies in the field of `id`. -/
def InField (id : ConfigValueId) (j : Nat) : Prop :=
  (configValue id).offset ≤ j ∧ j < (configValue id).offset + (configValue id).type.size

theorem ConfigValueId.mem_all (id : ConfigValueId) : id ∈ ConfigValueId.all := by
  cases id <;> decide

/-- The fields of `config_data_t` do not overlap, and all lie inside it. -/
theorem fields_disjoint : ∀ id ∈ ConfigValueId.all, ∀ id' ∈ ConfigValueId.all, id ≠ id' →
    (configValue id).offset + (configValue id).type.size ≤ (configValue id').offset ∨
      (configValue id').offset + (configValue id').type.size ≤ (configValue id).offset := by
  decide

theorem not_inField {id id' : ConfigValueId} {j : Nat} (h : id ≠ id') (hj : InField id j) :
    ¬InField id' j := by
  rcases fields_disjoint id id.mem_all id' id'.mem_all h with h' | h' <;>
    (unfold InField at *; omega)

/-- The default strings fit their fields, and `default_tls` is one byte. -/
theorem default_length_lt {id : ConfigValueId} (h : (configValue id).type = .string) :
    (configValue id).default.length < mqttConfigStrSize := by
  cases id <;> cases h <;> decide

theorem default_length_bool {id : ConfigValueId} (h : (configValue id).type = .bool) :
    (configValue id).default.length = 1 := by
  cases id <;> first | rfl | cases h

/-- What the invariant asks of a field: a string holds a NUL, and the certificate's last byte
is `0`. -/
def FieldOk (m : Mem) (id : ConfigValueId) : Prop :=
  match (configValue id).type with
  | .bool => True
  | .string => Terminated m (configValue id).offset mqttConfigStrSize
  | .cert => m ((configValue id).offset + (mqttCertMaxSize - 1)) = 0

/-- Whether a field is as the invariant asks depends on its own bytes only. -/
theorem FieldOk.congr {m m' : Mem} {id : ConfigValueId}
    (h : ∀ j, InField id j → m' j = m j) (hok : FieldOk m id) : FieldOk m' id := by
  have hin : ∀ i < (configValue id).type.size,
      m' ((configValue id).offset + i) = m ((configValue id).offset + i) :=
    fun i hi => h _ ⟨by omega, by omega⟩
  unfold FieldOk at hok ⊢
  cases ht : (configValue id).type <;> simp only [ht] at hok ⊢ <;>
    simp only [ht, ValueType.size] at hin
  · obtain ⟨i, hi, h0⟩ := hok
    exact ⟨i, hi, (hin i hi).trans h0⟩
  · rw [hin _ (by unfold mqttCertMaxSize; omega)]
    exact hok

/-- `m'` is `m` written at most in the field of `id`, and that field is as the invariant asks
in `m'` if it was in `m`. -/
def Keeps (id : ConfigValueId) (m m' : Mem) : Prop :=
  (∀ j, ¬InField id j → m' j = m j) ∧ (FieldOk m id → FieldOk m' id)

theorem Keeps.refl (id : ConfigValueId) (m : Mem) : Keeps id m m :=
  ⟨fun _ _ => rfl, fun h => h⟩

/-- A write that keeps its own field keeps every field. -/
theorem Keeps.allOk {id : ConfigValueId} {m m' : Mem} (hk : Keeps id m m')
    (hall : ∀ id', FieldOk m id') (id' : ConfigValueId) : FieldOk m' id' := by
  by_cases h : id' = id
  · exact h ▸ hk.2 (hall id)
  · exact (hall id').congr fun j hj => hk.1 j (not_inField h hj)

section Writes

variable {id : ConfigValueId} {m src : Mem}

theorem keeps_bool (ht : (configValue id).type = .bool) {n : Nat} (hn : n ≤ 1) :
    Keeps id m (copyIn m (configValue id).offset n src) :=
  ⟨fun j hj => copyIn_of_lt (by simp only [InField, ht, ValueType.size] at hj; omega),
    fun _ => by simp only [FieldOk, ht]⟩

theorem keeps_strcpy (ht : (configValue id).type = .string) {s : List UInt8}
    (hs : s.length < mqttConfigStrSize) : Keeps id m (strcpy m (configValue id).offset s) :=
  ⟨fun j hj => copyIn_of_lt (by simp only [InField, ht, ValueType.size] at hj; omega),
    fun _ => by simp only [FieldOk, ht]; exact strcpy_terminated hs⟩

/-- A write inside the certificate that stops before its last byte. -/
theorem keeps_cert (ht : (configValue id).type = .cert) {off n : Nat}
    (h₁ : (configValue id).offset ≤ off)
    (h₂ : off + n < (configValue id).offset + mqttCertMaxSize) :
    Keeps id m (copyIn m off n src) :=
  ⟨fun j hj => copyIn_of_lt (by simp only [InField, ht, ValueType.size] at hj; omega),
    fun h => by simp only [FieldOk, ht] at h ⊢; rw [copyIn_of_lt (by omega)]; exact h⟩

theorem keeps_memset (ht : (configValue id).type = .cert) :
    Keeps id m (memsetZero m (configValue id).offset mqttCertMaxSize) :=
  ⟨fun j hj => copyIn_of_lt (by simp only [InField, ht, ValueType.size] at hj; omega),
    fun _ => by
      simp only [FieldOk, ht, memsetZero]
      exact copyIn_of_mem (by omega) (by unfold mqttCertMaxSize; omega)⟩

end Writes

/-- The certificate file is shorter than the field, or absent. -/
def FileShort (file : Option (List UInt8)) : Prop :=
  ∀ bytes, file = some bytes → bytes.length < mqttCertMaxSize

theorem readValue_keeps {file : Option (List UInt8)} (hf : FileShort file) (nvs : Nvs)
    (m : Mem) (id : ConfigValueId) : Keeps id m (readValue nvs file m id) := by
  cases ht : (configValue id).type <;> simp only [readValue, ht]
  · split <;> exact keeps_bool ht (by simp [default_length_bool ht])
  · split
    · split
      · exact keeps_strcpy ht (by omega)
      · exact keeps_strcpy ht (default_length_lt ht)
    · exact keeps_strcpy ht (default_length_lt ht)
  · split
    · exact Keeps.refl id m
    · rename_i bytes
      have := hf bytes rfl
      exact keeps_cert ht le_rfl (by simp; omega)

theorem defaultValue_keeps (m : Mem) (id : ConfigValueId) : Keeps id m (defaultValue m id) := by
  cases ht : (configValue id).type <;> simp only [defaultValue, ht]
  · exact keeps_bool ht (by simp [default_length_bool ht])
  · exact keeps_strcpy ht (default_length_lt ht)
  · exact keeps_memset ht

/-- A loop over the settings that keeps each field keeps them all. -/
theorem allOk_foldl {f : Mem → ConfigValueId → Mem} (hf : ∀ m id, Keeps id m (f m id))
    {m : Mem} (hall : ∀ id, FieldOk m id) (id : ConfigValueId) :
    FieldOk (ConfigValueId.all.foldl f m) id :=
  List.foldlRecOn (motive := fun m => ∀ id, FieldOk m id) _ f m hall
    (fun m' hm' id' _ => (hf m' id').allOk hm') id

theorem mqttConfigInit_allOk {nvsOk : Bool} {nvs : Nvs} {file : Option (List UInt8)}
    (hf : FileShort file) {m : Mem} (hall : ∀ id, FieldOk m id) (id : ConfigValueId) :
    FieldOk (mqttConfigInit nvsOk nvs file m) id := by
  unfold mqttConfigInit readData
  cases nvsOk
  · exact allOk_foldl defaultValue_keeps hall id
  · exact allOk_foldl (readValue_keeps hf nvs) hall id

theorem mqttConfigSetString_keeps (string : List UInt8) (id : ConfigValueId) (m : Mem) :
    Keeps id m (mqttConfigSetString string id m).2 := by
  unfold mqttConfigSetString
  dsimp only
  split
  · rename_i h
    exact keeps_strcpy h.1 h.2
  · exact Keeps.refl id m

/-- `MQTTConfig_SetCert` with a bound that does not wrap writes inside the certificate and
never its last byte. -/
theorem mqttConfigSetCert_keeps {H : Host} {certLen offset : Nat}
    (hw : certLen + offset < 2 ^ H.sizeBits) (cert : Mem) (id : ConfigValueId) (m : Mem) :
    Keeps id m (mqttConfigSetCert H cert certLen offset id m).2 := by
  unfold mqttConfigSetCert
  dsimp only
  split
  · rename_i h
    rw [Host.sizeT, Nat.mod_eq_of_lt hw] at h
    exact keeps_cert h.1 (by omega) (by omega)
  · exact Keeps.refl id m

theorem strnlen_some {m : Mem} {off n : Nat} (h : Terminated m off n) :
    ∃ k, strnlen m off n = some k ∧ k < n := by
  obtain ⟨i, hi, h0⟩ := h
  cases hk : strnlen m off n with
  | none =>
    simp only [strnlen, List.find?_eq_none, List.mem_range, decide_eq_true_eq] at hk
    exact absurd h0 (hk i hi)
  | some k =>
    have := List.mem_range.mp (List.mem_of_find?_eq_some hk)
    exact ⟨k, rfl, this⟩

/-- With every field as the invariant asks, `_save_data` reads no field past its end, and the
certificate file it writes is shorter than the field. -/
theorem saveData_some {m : Mem} (hall : ∀ id, FieldOk m id) (nvsOk fileOk : Bool) (nvs : Nvs)
    {file : Option (List UInt8)} (hf : FileShort file) :
    ∃ nvs' file', saveData nvsOk fileOk m nvs file = some (nvsOk, nvs', file') ∧
      FileShort file' := by
  unfold saveData
  cases nvsOk
  · exact ⟨nvs, file, rfl, hf⟩
  simp only [if_true]
  suffices h : ∃ nvs' file', ConfigValueId.all.foldl (saveValue m fileOk) (some (nvs, file)) =
      some (nvs', file') ∧ FileShort file' by
    obtain ⟨nvs', file', h, hf'⟩ := h
    exact ⟨nvs', file', by rw [h]; rfl, hf'⟩
  refine List.foldlRecOn (motive := fun acc => ∃ nvs' file', acc = some (nvs', file') ∧
    FileShort file') _ _ _ ⟨nvs, file, rfl, hf⟩ ?_
  rintro _ ⟨nvs₁, file₁, rfl, hf₁⟩ id -
  have hok := hall id
  unfold FieldOk at hok
  simp only [saveValue, Option.some_bind]
  cases ht : (configValue id).type <;> simp only [ht] at hok ⊢
  · exact ⟨_, _, rfl, hf₁⟩
  · obtain ⟨k, hk, -⟩ := strnlen_some hok
    exact ⟨_, _, by rw [hk]; rfl, hf₁⟩
  · have hterm : Terminated m (configValue id).offset mqttCertMaxSize :=
      ⟨mqttCertMaxSize - 1, by unfold mqttCertMaxSize; omega, hok⟩
    obtain ⟨k, hk, hk'⟩ := strnlen_some hterm
    cases fileOk
    · exact ⟨_, _, rfl, fun _ h => by cases h⟩
    · refine ⟨_, _, by rw [if_pos rfl, hk]; rfl, fun _ h => ?_⟩
      cases h
      simpa using hk'

/-! ## Runs -/

/-- `config_data` and what follows it, the NVS namespace, and the certificate file (`none`
when there is none). -/
structure ConfigSys where
  mem : Mem
  nvs : Nvs
  file : Option (List UInt8)

/-- The calls, with the two `size_t` arguments of `MQTTConfig_SetCert`. -/
inductive ConfigEvent
  | init
  | setString
  | setCert (certLen offset : Nat)
  | save

/-- One call. `MQTTConfig_Save` also runs the configuration callback, which `MqttApp_Init`
sets to `MQTTConfig_Init` again: that is the next `init` step. -/
inductive ConfigStep (H : Host) : ConfigSys → ConfigEvent → ConfigSys → Prop
  | init (s nvsOk) :
      ConfigStep H s .init { s with mem := mqttConfigInit nvsOk s.nvs s.file s.mem }
  | setString (s string id) :
      ConfigStep H s .setString { s with mem := (mqttConfigSetString string id s.mem).2 }
  | setCert (s cert certLen offset id) : certLen < 2 ^ H.sizeBits → offset < 2 ^ H.sizeBits →
      ConfigStep H s (.setCert certLen offset)
        { s with mem := (mqttConfigSetCert H cert certLen offset id s.mem).2 }
  | save (s nvsOk fileOk ok nvs' file') :
      saveData nvsOk fileOk s.mem s.nvs s.file = some (ok, nvs', file') →
      ConfigStep H s .save { s with nvs := nvs', file := file' }

/-- Runs of `ConfigStep`, with their traces. -/
inductive ConfigRun (H : Host) : ConfigSys → List ConfigEvent → ConfigSys → Prop
  | refl (s) : ConfigRun H s [] s
  | step {s tr s' e s''} : ConfigRun H s tr s' → ConfigStep H s' e s'' →
      ConfigRun H s (tr ++ [e]) s''

/-- A call whose `size_t` bound `cert_len + offset` does not wrap. -/
def ConfigEvent.NoWrap (H : Host) : ConfigEvent → Prop
  | .setCert certLen offset => certLen + offset < 2 ^ H.sizeBits
  | _ => True

/-- Every field as the invariant asks, and a certificate file shorter than the field. -/
structure ConfigSys.Inv (s : ConfigSys) : Prop where
  fields : ∀ id, FieldOk s.mem id
  file : FileShort s.file

theorem ConfigStep.inv {H : Host} {s s' : ConfigSys} {e : ConfigEvent} (hs : ConfigStep H s e s')
    (hw : e.NoWrap H) (hi : s.Inv) : s'.Inv := by
  cases hs with
  | init nvsOk => exact ⟨mqttConfigInit_allOk hi.file hi.fields, hi.file⟩
  | setString string id =>
    exact ⟨(mqttConfigSetString_keeps string id s.mem).allOk hi.fields, hi.file⟩
  | setCert cert certLen offset id =>
    exact ⟨(mqttConfigSetCert_keeps hw cert id s.mem).allOk hi.fields, hi.file⟩
  | save nvsOk fileOk ok nvs' file' hsave =>
    obtain ⟨n, f, h, hf⟩ := saveData_some hi.fields nvsOk fileOk s.nvs hi.file
    rw [hsave] at h
    cases h
    exact ⟨hi.fields, hf⟩

/-- From `config_data` as the invariant has it, which a zero `config_data` and a certificate
file shorter than the field give (`ConfigSys.inv_zero`), every run whose `MQTTConfig_SetCert`
bounds do not wrap keeps each string terminated in its field and the certificate's last byte
`0`. So `MQTTConfig_GetString` and `MQTTConfig_GetCert` return terminated strings, and
`_save_data` never reads past a field. -/
theorem ConfigRun.terminated {H : Host} {s s' : ConfigSys} {tr : List ConfigEvent}
    (hr : ConfigRun H s tr s') (hw : ∀ e ∈ tr, e.NoWrap H) (hi : s.Inv) :
    s'.Inv ∧
      (∀ id off, mqttConfigGetString id = some off → Terminated s'.mem off mqttConfigStrSize) ∧
      (∀ id off, mqttConfigGetCert id = some off → Terminated s'.mem off mqttCertMaxSize) ∧
      ∀ nvsOk fileOk, (saveData nvsOk fileOk s'.mem s'.nvs s'.file).isSome := by
  have hi' : s'.Inv := by
    induction hr with
    | refl => exact hi
    | step _ hs ih =>
      exact hs.inv (hw _ (by simp)) (ih fun e he => hw e (List.mem_append_left _ he))
  refine ⟨hi', fun id off h => ?_, fun id off h => ?_, fun nvsOk fileOk => ?_⟩
  · unfold mqttConfigGetString at h
    split at h <;> cases h
    simpa only [FieldOk, *] using hi'.fields id
  · unfold mqttConfigGetCert at h
    split at h <;> cases h
    have := hi'.fields id
    simp only [FieldOk, *] at this
    exact ⟨_, by unfold mqttCertMaxSize; omega, this⟩
  · obtain ⟨n, f, h, -⟩ := saveData_some hi'.fields nvsOk fileOk s'.nvs hi'.file
    simp [h]

end Osal
