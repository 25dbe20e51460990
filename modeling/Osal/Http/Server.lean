import Osal.Mongoose.Match

/-!
# Routing of the HTTP server

`fn`, the handler `HTTPServer_Init` gives Mongoose, answers a request whose URI matches
`/api/#` with the callback of the first registered token whose pattern `/api/<name>#` matches
the URI, and every other request with `400 Unknown API`. The pattern is printed into a 128-byte
buffer, so a name longer than 121 bytes loses its `#`.

`fn_routes`: for names without `mg_match` wildcards, a request goes to the first token whose
`/api/<name>` begins its URI (`apiRoute`; for a name cut by the buffer, whose cut pattern is the
whole URI). A token whose name begins a later token's name therefore takes every request meant
for the later one (`fn_routes_shadowed`).
-/

namespace Osal

/-- `HTTPServerMethod_t`, in the order of its values. -/
inductive HttpServerMethod
  | put
  | get
  | post
  | delete
  | patch
  | unhallowed
  deriving DecidableEq, Repr

/-- The values below `HTTP_SERVER_METHOD_LAST`, in order. -/
def HttpServerMethod.all : List HttpServerMethod := [.put, .get, .post, .delete, .patch, .unhallowed]

/-- `method_names` (lines 38–45). -/
def methodNames : HttpServerMethod → List UInt8
  | .put => ascii "PUT"
  | .get => ascii "GET"
  | .post => ascii "POST"
  | .delete => ascii "DELETE"
  | .patch => ascii "PATCH"
  | .unhallowed => ascii "UNHALLOWED"

/-- Mongoose's `mg_lower`: an ASCII capital to its small letter. -/
def mgLower (c : UInt8) : UInt8 := if 65 ≤ c ∧ c ≤ 90 then c + 32 else c

/-- Mongoose's `mg_strcasecmp(a, b) == 0`: the same length, and the same bytes after
`mg_lower`. -/
def mgStrcaseeq (a b : List UInt8) : Bool := a.map mgLower == b.map mgLower

/-- `_get_method(name)` (lines 56–66). -/
def getMethod (name : List UInt8) : HttpServerMethod :=
  (HttpServerMethod.all.find? fun m => mgStrcaseeq name (methodNames m)).getD .unhallowed

/-- `HTTPServerResponse_t`: the status code, the header lines and the body `mg_http_reply`
sends. -/
structure HttpServerResponse where
  code : Nat
  headers : List UInt8
  msg : List UInt8

/-- `HTTPServerApiToken_t`: the API name after `/api/`, and the callback, which gets the URI,
the body and the method. -/
structure HttpServerApiToken where
  apiName : CString
  cb : List UInt8 → List UInt8 → HttpServerMethod → HttpServerResponse

/-- `mg_http_reply(c, 400, "", "Unknown API")`. -/
def unknownApi : HttpServerResponse := ⟨400, [], ascii "Unknown API"⟩

/-- What `mg_snprintf(buffer, sizeof(buffer), "/api/%s#", api_name)` leaves in the 128-byte
buffer: the first 127 bytes, then the terminator. -/
def apiPattern (name : CString) : List UInt8 := (ascii "/api/" ++ name.bytes ++ [35]).take 127

/-- `fn(c, MG_EV_HTTP_MSG, hm)` (lines 68–97) with the first `tokens_size` entries of `tokens`:
the reply to a request with `uri`, `body` and `method`. -/
def fn (tokens : List HttpServerApiToken) (uri body method : List UInt8) : HttpServerResponse :=
  let route := if mgMatch uri (ascii "/api/#") then
      tokens.find? fun tk => mgMatch uri (apiPattern tk.apiName)
    else none
  match route with
  | some tk => tk.cb uri body (getMethod method)
  | none => unknownApi

/-- `HTTPServer_AddApiToken(token)` (lines 117–122); `none` where its `assert` that one of the
16 entries is free fails. -/
def httpServerAddApiToken (tokens : List HttpServerApiToken) (token : HttpServerApiToken) :
    Option (List HttpServerApiToken) :=
  if tokens.length < 16 then some (tokens ++ [token]) else none

/-! ## Routes -/

/-- The URIs the token named `name` answers when no token before it does: those beginning with
`/api/name` while its printed pattern keeps the `#`, and for a longer name only the cut pattern
itself. -/
def apiRoute (name uri : List UInt8) : Bool :=
  if name.length ≤ 121 then (ascii "/api/" ++ name).isPrefixOf uri
  else uri == (ascii "/api/" ++ name).take 127

theorem find?_congr_mem {α : Type} {p q : α → Bool} {l : List α} (h : ∀ x ∈ l, p x = q x) :
    l.find? p = l.find? q := by
  induction l with
  | nil => rfl
  | cons x l ih =>
    simp [List.find?_cons, h x (List.mem_cons_self _ _),
      ih fun y hy => h y (List.mem_cons_of_mem _ hy)]

theorem ascii_api_lit : ∀ b ∈ ascii "/api/", IsLit b := by decide

/-- A token's printed pattern matches exactly the URIs of its route. -/
theorem mgMatch_apiPattern {name : CString} (hn : ∀ b ∈ name.bytes, IsLit b) (uri : List UInt8) :
    mgMatch uri (apiPattern name) = apiRoute name.bytes uri := by
  have hlit : ∀ b ∈ ascii "/api/" ++ name.bytes, IsLit b := fun b hb =>
    (List.mem_append.1 hb).elim (ascii_api_lit b) (hn b)
  have hlen : (ascii "/api/").length = 5 := rfl
  unfold apiPattern apiRoute
  split_ifs with h
  · rw [List.take_of_length_le (by simp [hlen]; omega), mgMatch_literal_hash hlit]
  · rw [List.take_append_of_le_length (by simp [hlen]; omega),
      mgMatch_literal fun b hb => hlit b (List.mem_of_mem_take hb)]

/-- Every route lies under `/api/`. -/
theorem api_prefix_of_apiRoute {name uri : List UInt8} (h : apiRoute name uri = true) :
    ascii "/api/" <+: uri := by
  unfold apiRoute at h
  split_ifs at h with hn
  · exact (List.prefix_append _ _).trans (List.isPrefixOf_iff_prefix.1 h)
  · rw [beq_iff_eq.1 h, List.prefix_take_iff]
    exact ⟨List.prefix_append _ _, by decide⟩

/-- For names without wildcards, a request goes to the callback of the first token whose route
holds its URI, with the method its method name gives; any other request gets `400 Unknown API`. -/
theorem fn_routes (tokens : List HttpServerApiToken) (uri body method : List UInt8)
    (hnames : ∀ tk ∈ tokens, ∀ b ∈ tk.apiName.bytes, IsLit b) :
    fn tokens uri body method =
      match tokens.find? fun tk => apiRoute tk.apiName.bytes uri with
      | some tk => tk.cb uri body (getMethod method)
      | none => unknownApi := by
  have hfind : (tokens.find? fun tk => mgMatch uri (apiPattern tk.apiName)) =
      tokens.find? fun tk => apiRoute tk.apiName.bytes uri :=
    find?_congr_mem fun tk htk => mgMatch_apiPattern (hnames tk htk) uri
  have hapi : mgMatch uri (ascii "/api/#") = (ascii "/api/").isPrefixOf uri :=
    mgMatch_literal_hash ascii_api_lit uri
  simp only [fn]
  by_cases hout : (ascii "/api/").isPrefixOf uri = true
  · rw [hapi, if_pos hout, hfind]
  · have hnone : (tokens.find? fun tk => apiRoute tk.apiName.bytes uri) = none :=
      List.find?_eq_none.2 fun tk _ hr =>
        hout (List.isPrefixOf_iff_prefix.2 (api_prefix_of_apiRoute hr))
    rw [hapi, if_neg hout, hnone]

/-- `led` registered before `ledstrip` answers `/api/ledstrip`. -/
theorem fn_routes_shadowed :
    let tokens : List HttpServerApiToken :=
      [⟨⟨ascii "led", by decide⟩, fun _ _ _ => ⟨200, [], ascii "led"⟩⟩,
        ⟨⟨ascii "ledstrip", by decide⟩, fun _ _ _ => ⟨200, [], ascii "ledstrip"⟩⟩]
    (∀ tk ∈ tokens, ∀ b ∈ tk.apiName.bytes, IsLit b) ∧
      (fn tokens (ascii "/api/ledstrip") [] (ascii "GET")).msg = ascii "led" := by
  intro tokens
  have hnames : ∀ tk ∈ tokens, ∀ b ∈ tk.apiName.bytes, IsLit b := by decide
  exact ⟨hnames, by rw [fn_routes tokens _ _ _ hnames]; decide⟩

end Osal
