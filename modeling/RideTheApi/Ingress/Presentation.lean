import RideTheApi.Engine.Probe
import RideTheApi.Pipeline.HeaderProtocol
import RideTheApi.Py.JsonBytes

/-!
# `Ingress.Presentation` — one request at the two HTTP ingresses

The proxy route gets a request through the web framework: the path is percent-decoded, the query string is
parsed, and a body that is no JSON container reads as no body. The TLS listener passes the raw target on and
keeps every body it gets. `handle_request` cuts what is still attached to the path. No adapter and no
modification rule changes the request.

The matcher gets the same call from both, as far as any pattern set can tell, exactly when the request is
`PresentedAlike` (`ingresses_alike_iff`).
-/

namespace RideTheApi.Presentation

open Py PatternDb Engine HeaderProtocol

/-- A character of a request target. -/
def isVisible (c : CodePoint) : Bool := 0x21 ≤ c.val && c.val ≤ 0x7e && c != cp '#'

/-- A request as it arrives: an origin-form target in visible ASCII, and header names in lower case. -/
structure HttpRequest where
  method : Str
  target : Str
  headers : Dict Str Str
  body : Bytes
  rooted : target.head? = some (cp '/')
  visible : target.all isVisible = true

namespace HttpRequest

/-- The path of the target, still encoded. -/
def rawPath (r : HttpRequest) : Str := r.target.before (cp '?')

/-- The query string of the target. -/
def queryString (r : HttpRequest) : Str := Str.after (cp '?') r.target

end HttpRequest

/-! ## Bodies -/

/-- The body of an intercepted request: parsed, or as it came off the wire. -/
inductive InterceptedBody where
  | parsed (v : Json)
  | bytes (bs : Bytes)
deriving Repr, DecidableEq

/-- What stands for bytes that are no text. -/
def base64Marker (bs : Bytes) : Json := .obj [("_encoding", .str "base64"), ("data", .str (b64encode bs))]

section
variable {I : Interp} (F : FloatReader I)

/-- Return a JSON-storable form of a request body. -/
def normalizeRequestBody : InterceptedBody → Json
  | .parsed v => v
  | .bytes bs =>
    if bs = [] then .null
    else
      match decodeUtf8 bs with
      | none      => base64Marker bs
      | some text =>
        if opensContainer bs then
          match loads F text with
          | some v => v
          | none   => .str text
        else .str text

/-- Extract the JSON body of a request; an integer of too many digits raises. -/
def getRequestBody (bs : Bytes) : Result Json :=
  if bs = [] then .ok .null
  else if opensContainer bs then
    match loadsBytes F bs with
    | .value v            => .ok v
    | .unicodeDecodeError => .ok .null
    | .jsonDecodeError    => .ok .null
    | .valueError         => .error .valueError
  else .ok .null

end

/-! ## What the pipeline is handed -/

/-- What `handle_request` presents to the matcher: a query string still attached to the path is cut off, and
    parsed when there are no query parameters. -/
def handleRequest (protocol method path : Str) (headers : Dict Str Str) (body : Json)
    (queryParams : Dict Str Str) : MatchCall :=
  if path.contains (cp '?') then
    { method := method
      path := path.before (cp '?')
      headers := headers
      body := body
      queryParams := if queryParams = [] then queryDict (Str.after (cp '?') path) else queryParams
      protocol := protocol }
  else
    { method := method
      path := path
      headers := headers
      body := body
      queryParams := queryParams
      protocol := protocol }

section
variable {I : Interp} (F : FloatReader I)

/-- The call the proxy route hands over, unless reading the body raises. -/
def proxyVendorRequest (r : HttpRequest) : Result MatchCall :=
  (getRequestBody F r.body).map fun body =>
    handleRequest "http" r.method (unquote r.rawPath) r.headers (normalizeRequestBody F (.parsed body))
      (queryDict r.queryString)

/-- The call the TLS listener hands over. -/
def handleTlsDecryptedRequest (connection : Str) (header : Option DeviceMeta) (r : HttpRequest) : MatchCall :=
  handleRequest (resolveDeviceProtocol I connection header "https") r.method r.target r.headers
    (normalizeRequestBody F (.bytes r.body)) []

/-- The header leaves the connection mode undecided. -/
def Undecided (I : Interp) (header : Option DeviceMeta) : Prop :=
  ∀ mode, (header.bind fun m => normalizeConnectionMode I m.connectionMode) = some mode → mode = str "auto"

/-- Both ingresses hand over a request that gets the same pattern and score. -/
def SameMatch (connection : Str) (header : Option DeviceMeta) (r : HttpRequest) : Prop :=
  ∃ call, proxyVendorRequest F r = .ok call ∧ ∀ cached db,
    (findBestMatch cached db call).map MatchResult.selected =
      (findBestMatch cached db (handleTlsDecryptedRequest F connection header r)).map MatchResult.selected

/-! ## When they agree -/

/-- A body both ingresses read alike: none, a document in UTF-8, or bytes that only one of them takes for a
    document but whose keys are those of what the other one makes of them. -/
inductive BodyReadAlike : Bytes → Prop where
  | empty : BodyReadAlike []
  | document {bs : Bytes} {text : Str} {v : Json} (hopens : opensContainer bs = true)
      (htext : decodeUtf8 bs = some text) (hloads : loads F text = some v) : BodyReadAlike bs
  | coincidence {bs : Bytes} {v : Json} (hopens : opensContainer bs = true) (hloads : loadsBytes F bs = .value v)
      (htruthy : v.truthy = true)
      (hkeys : SameKeys (bodyKeys v) (if decodeUtf8 bs = none then ["_encoding", "data"].map str else [])) :
      BodyReadAlike bs

/-- The override keeps to the HTTP family, decoding the path changes no segment, a decoded `?` adds no query
    parameter, and the body reads alike. -/
structure PresentedAlike (connection : Str) (r : HttpRequest) : Prop where
  connection : connection ∈ [[], str "auto", "http", "https"]
  path : PathsAlike ((unquote r.rawPath).before (cp '?')) r.rawPath
  query : queryDict r.queryString ≠ [] ∨ queryDict (Str.after (cp '?') (unquote r.rawPath)) = []
  body : BodyReadAlike F r.body

end

/-! ## The parts of a call -/

section
variable {protocol method path : Str} {headers queryParams : Dict Str Str} {body : Json}

theorem before_of_not_contains {c : CodePoint} {s : Str} (h : s.contains c = false) : s.before c = s := by
  apply List.takeWhile_eq_self_iff.mpr
  intro d hd
  rw [bne_iff_ne]
  rintro rfl
  rw [List.contains_iff_mem.mpr hd] at h
  cases h

theorem after_of_not_contains {c : CodePoint} {s : Str} (h : s.contains c = false) : Str.after c s = [] := by
  have hdrop : s.dropWhile (· != c) = [] := by
    rw [List.dropWhile_eq_nil_iff]
    intro d hd
    rw [bne_iff_ne]
    rintro rfl
    rw [List.contains_iff_mem.mpr hd] at h
    cases h
  unfold Str.after
  rw [hdrop]
  rfl

theorem before_before (c : CodePoint) (s : Str) : (s.before c).before c = s.before c := by
  apply List.takeWhile_eq_self_iff.mpr
  intro d hd
  exact List.mem_takeWhile_imp (p := (· != c)) hd

theorem handleRequest_path :
    (handleRequest protocol method path headers body queryParams).path = path.before (cp '?') := by
  unfold handleRequest
  split
  · rfl
  · next h => exact (before_of_not_contains (Bool.eq_false_iff.mpr h)).symm

theorem handleRequest_queryParams :
    (handleRequest protocol method path headers body queryParams).queryParams =
      if queryParams = [] then queryDict (Str.after (cp '?') path) else queryParams := by
  unfold handleRequest
  split
  · rfl
  · next h =>
    rw [after_of_not_contains (Bool.eq_false_iff.mpr h)]
    show queryParams = _
    split
    · next hnone => exact hnone
    · rfl

@[simp] theorem handleRequest_method :
    (handleRequest protocol method path headers body queryParams).method = method := by
  unfold handleRequest
  split <;> rfl

@[simp] theorem handleRequest_headers :
    (handleRequest protocol method path headers body queryParams).headers = headers := by
  unfold handleRequest
  split <;> rfl

@[simp] theorem handleRequest_body : (handleRequest protocol method path headers body queryParams).body = body := by
  unfold handleRequest
  split <;> rfl

@[simp] theorem handleRequest_protocol :
    (handleRequest protocol method path headers body queryParams).protocol = protocol := by
  unfold handleRequest
  split <;> rfl

end

/-! ## Bodies read alike -/

section
variable {I : Interp} {F : FloatReader I}

/-- Something owed comes out, decoded or not. -/
theorem utf8Run_ne_nil {surrogates : Bool} {st : Utf8State} (bs : Bytes) (h : st.2 ≠ []) :
    utf8Run surrogates st bs ≠ [] := by
  induction bs generalizing st with
  | nil =>
    unfold utf8Run
    rw [if_neg h]
    exact List.cons_ne_nil _ _
  | cons b bs ih =>
    obtain ⟨value, owed⟩ := st
    cases owed with
    | nil => exact absurd rfl h
    | cons range owed =>
      obtain ⟨low, high⟩ := range
      intro hnil
      obtain ⟨hout, hrest⟩ := List.append_eq_nil_iff.mp hnil
      by_cases hin : low ≤ b.val ∧ b.val ≤ high
      · have hstep : utf8Step surrogates (value, (low, high) :: owed) b =
            if owed = [] then ([some (Fin.ofNat 0x110000 (0x40 * value + (b.val - 0x80)))], (0, []))
            else ([], (0x40 * value + (b.val - 0x80), owed)) := if_pos (by simpa using hin)
        rw [hstep] at hout hrest
        split at hout
        · cases hout
        · next howed =>
          rw [if_neg howed] at hrest
          exact ih howed hrest
      · have hstep : utf8Step surrogates (value, (low, high) :: owed) b =
            (none :: (utf8Start surrogates b).1, (utf8Start surrogates b).2) := if_neg (by simpa using hin)
        rw [hstep] at hout
        cases hout

/-- Bytes that decode to no text are none. -/
theorem eq_nil_of_decodeUtf8 {bs : Bytes} (h : decodeUtf8 bs = some []) : bs = [] := by
  cases bs with
  | nil => rfl
  | cons b bs =>
    have hnil : utf8Run false (0, []) (b :: bs) = [] := by
      unfold decodeUtf8 at h
      generalize utf8Run false (0, []) (b :: bs) = cs at h
      cases cs with
      | nil => rfl
      | cons c cs =>
        obtain ⟨c, _, h⟩ := Option.bind_eq_some_iff.mp h
        obtain ⟨t, _, h⟩ := Option.map_eq_some_iff.mp h
        cases h
    obtain ⟨hout, hrest⟩ := List.append_eq_nil_iff.mp hnil
    exfalso
    change (utf8Start false b).1 = [] at hout
    change utf8Run false (utf8Start false b).2 bs = [] at hrest
    unfold utf8Start at hout hrest
    split at hout
    · cases hout
    · next hb =>
      rw [if_neg hb] at hrest
      cases hlead : utf8Lead false b.val with
      | none =>
        rw [hlead] at hout
        cases hout
      | some st =>
        rw [hlead] at hrest
        refine utf8Run_ne_nil bs ?_ hrest
        unfold utf8Lead at hlead
        split_ifs at hlead <;> rw [← Option.some.inj hlead] <;> exact List.cons_ne_nil _ _

/-- Text that is no document stays text: a body that counts, without keys. -/
theorem bodiesAlike_text {bs : Bytes} {text : Str} {v : Json} (hne : bs ≠ []) (htext : decodeUtf8 bs = some text) :
    BodiesAlike v (.str text) ↔ v.truthy = true ∧ SameKeys (bodyKeys v) [] := by
  have htruthy : Json.truthy (.str text) = true := by
    cases text with
    | nil => exact absurd (eq_nil_of_decodeUtf8 htext) hne
    | cons c text => rfl
  unfold BodiesAlike
  rw [htruthy]
  rfl

/-- What is no document in UTF-8 is kept, and counts as a body. -/
theorem normalize_kept {bs : Bytes} (hne : bs ≠ [])
    (hkept : ∀ text v, opensContainer bs = true → decodeUtf8 bs = some text → loads F text ≠ some v) (v : Json) :
    BodiesAlike v (normalizeRequestBody F (.bytes bs)) ↔
      v.truthy = true ∧ SameKeys (bodyKeys v) (if decodeUtf8 bs = none then ["_encoding", "data"].map str else []) := by
  unfold normalizeRequestBody
  dsimp only
  rw [if_neg hne]
  cases htext : decodeUtf8 bs with
  | none =>
    rw [if_pos rfl]
    rfl
  | some text =>
    rw [if_neg (Option.some_ne_none _)]
    have hstr : (if opensContainer bs then match loads F text with | some v => v | none => .str text
        else .str text) = (.str text : Json) := by
      split
      · next hopens =>
        cases hloads : loads F text with
        | none => rfl
        | some w => exact absurd hloads (hkept text w hopens htext)
      · rfl
    dsimp only
    rw [hstr]
    exact bodiesAlike_text hne htext

theorem normalize_document {bs : Bytes} {text : Str} {v : Json} (hne : bs ≠ []) (hopens : opensContainer bs = true)
    (htext : decodeUtf8 bs = some text) (hloads : loads F text = some v) :
    normalizeRequestBody F (.bytes bs) = v := by
  unfold normalizeRequestBody
  dsimp only
  rw [if_neg hne, htext]
  dsimp only
  rw [if_pos hopens, hloads]

/-- A body the proxy route hands over counts only when its bytes are read as a value. -/
theorem getRequestBody_truthy {bs : Bytes} {v : Json} (h : getRequestBody F bs = .ok v) (hv : v.truthy = true) :
    opensContainer bs = true ∧ loadsBytes F bs = .value v := by
  unfold getRequestBody at h
  split at h
  · cases h
    cases hv
  · split at h
    · next hopens =>
      cases hloads : loadsBytes F bs with
      | value w =>
        rw [hloads] at h
        cases h
        exact ⟨hopens, rfl⟩
      | unicodeDecodeError | jsonDecodeError =>
        rw [hloads] at h
        cases h
        cases hv
      | valueError =>
        rw [hloads] at h
        cases h
    · cases h
      cases hv

theorem getRequestBody_value {bs : Bytes} {v : Json} (hopens : opensContainer bs = true)
    (h : loadsBytes F bs = .value v) : getRequestBody F bs = .ok v := by
  have hne : bs ≠ [] := by
    rintro rfl
    cases hopens
  unfold getRequestBody
  rw [if_neg hne, if_pos hopens, h]

/-- **Both ingresses present the body alike iff it reads alike.** -/
theorem bodies_iff (bs : Bytes) : (∃ v, getRequestBody F bs = .ok v ∧
    BodiesAlike v (normalizeRequestBody F (.bytes bs))) ↔ BodyReadAlike F bs := by
  by_cases hne : bs = []
  · subst hne
    exact iff_of_true ⟨.null, rfl, rfl, fun _ => Iff.rfl⟩ .empty
  · by_cases hdocument : ∃ text v, opensContainer bs = true ∧ decodeUtf8 bs = some text ∧ loads F text = some v
    · obtain ⟨text, v, hopens, htext, hloads⟩ := hdocument
      refine iff_of_true ⟨v, getRequestBody_value hopens (loadsBytes_of_text hopens htext hloads), ?_⟩
        (.document hopens htext hloads)
      rw [normalize_document hne hopens htext hloads]
      exact ⟨rfl, fun _ => Iff.rfl⟩
    · have hkept : ∀ text v, opensContainer bs = true → decodeUtf8 bs = some text → loads F text ≠ some v :=
        fun text v hopens htext hloads => hdocument ⟨text, v, hopens, htext, hloads⟩
      constructor
      · rintro ⟨v, hv, halike⟩
        obtain ⟨htruthy, hkeys⟩ := (normalize_kept hne hkept v).mp halike
        obtain ⟨hopens, hloads⟩ := getRequestBody_truthy hv htruthy
        exact .coincidence hopens hloads htruthy hkeys
      · intro h
        cases h with
        | empty => exact absurd rfl hne
        | document hopens htext hloads => exact absurd hloads (hkept _ _ hopens htext)
        | @coincidence _ v hopens hloads htruthy hkeys =>
          exact ⟨v, getRequestBody_value hopens hloads, (normalize_kept hne hkept v).mpr ⟨htruthy, hkeys⟩⟩

end

/-! ## Protocol, path and query -/

section
variable {I : Interp} {F : FloatReader I} {connection : Str} {header : Option DeviceMeta} {r : HttpRequest}

theorem protocolMatches_family {protocol : Str} (h : protocol ∈ httpProtocols) (p : Str) :
    protocolMatches protocol p = (p.isEmpty || httpProtocols.contains p) := by
  have hempty : protocol.isEmpty = false := by
    rw [List.isEmpty_eq_false_iff]
    rintro rfl
    exact absurd h (by decide)
  have hself : protocol = p → httpProtocols.contains p = true := by
    rintro rfl
    exact List.contains_iff_mem.mpr h
  have hcontains : (["http", "https"].map str).contains protocol = true := List.contains_iff_mem.mpr h
  unfold protocolMatches
  rw [hempty, hcontains, Bool.false_or, Bool.true_and, Bool.or_assoc]
  congr 1
  show (protocol == p || httpProtocols.contains p) = httpProtocols.contains p
  cases hp : protocol == p with
  | false => exact Bool.false_or _
  | true => rw [Bool.true_or, hself (eq_of_beq hp)]

/-- The listener passes a protocol of the family on iff no override of another one is set. -/
theorem protocols_iff (h : Undecided I header) :
    (∀ p, protocolMatches "http" p = protocolMatches (resolveDeviceProtocol I connection header "https") p) ↔
      connection ∈ [[], str "auto", "http", "https"] := by
  have hhttp : str "http" ∈ httpProtocols := by decide
  by_cases hauto : connection = [] ∨ connection = str "auto"
  · have hresolved : resolveDeviceProtocol I connection header "https" = str "https" := by
      rw [resolve_of_undecided I header hauto]
      split
      · next mode hmode => rw [if_pos (h mode hmode)]
      · rfl
    refine iff_of_true (fun p => ?_) ?_
    · rw [hresolved, protocolMatches_family hhttp, protocolMatches_family (by decide)]
    · rcases hauto with rfl | rfl
      · exact List.mem_cons_self
      · exact List.mem_cons_of_mem _ List.mem_cons_self
  · push Not at hauto
    have hresolved : resolveDeviceProtocol I connection header "https" = connection := if_pos hauto
    rw [hresolved]
    constructor
    · intro hall
      -- A pattern learned over http fits the override only within the family.
      have hfamily : connection ∈ httpProtocols := by
        refine (matches_http_iff hauto.1).mp fun pat hpat => ?_
        rw [← hall, protocolMatches_family hhttp, List.contains_iff_mem.mpr hpat, Bool.or_true]
      exact List.mem_cons_of_mem _ (List.mem_cons_of_mem _ hfamily)
    · intro hmem p
      have hfamily : connection ∈ httpProtocols := by
        simpa [httpProtocols, hauto.1, hauto.2] using hmem
      rw [protocolMatches_family hhttp, protocolMatches_family hfamily]

theorem queries_iff : SameKeys (Dict.keys (if queryDict r.queryString = [] then
      queryDict (Str.after (cp '?') (unquote r.rawPath)) else queryDict r.queryString))
    (queryDict r.queryString).keys ↔
      queryDict r.queryString ≠ [] ∨ queryDict (Str.after (cp '?') (unquote r.rawPath)) = [] := by
  by_cases hquery : queryDict r.queryString = []
  · rw [if_pos hquery, hquery]
    constructor
    · intro h
      right
      have hkeys : Dict.keys (queryDict (Str.after (cp '?') (unquote r.rawPath))) = [] :=
        List.eq_nil_iff_forall_not_mem.mpr fun k hk => List.not_mem_nil ((h k).mp hk)
      exact List.map_eq_nil_iff.mp hkeys
    · rintro (h | h)
      · exact absurd rfl h
      · rw [h]
        exact fun _ => Iff.rfl
  · rw [if_neg hquery]
    exact iff_of_true (fun _ => Iff.rfl) (.inl hquery)

/-- **A request gets the same match at both ingresses iff it is presented alike**: for every request and every
    device whose header leaves the connection mode undecided. -/
theorem ingresses_alike_iff (F : FloatReader I) (connection : Str) (header : Option DeviceMeta)
    (hundecided : Undecided I header) (r : HttpRequest) :
    SameMatch F connection header r ↔ PresentedAlike F connection r := by
  have hprotocols := @protocols_iff I connection header hundecided
  have hqueries := queries_iff (r := r)
  have hbodies := bodies_iff (F := F) r.body
  constructor
  · rintro ⟨call, hcall, hmatch⟩
    obtain ⟨body, hbody, rfl⟩ := Except.map_ok_iff.mp hcall
    have halike := findBestMatch_alike_iff.mpr hmatch
    have hpath := halike.path
    have hquery := halike.queryParams
    unfold handleTlsDecryptedRequest at hpath hquery
    rw [handleRequest_path, handleRequest_path, before_before, before_before] at hpath
    rw [handleRequest_queryParams, handleRequest_queryParams, if_pos (c := ([] : Dict Str Str) = []) rfl] at hquery
    refine ⟨hprotocols.mp fun p => ?_, hpath, hqueries.mp hquery, hbodies.mp ⟨body, hbody, ?_⟩⟩
    · have hprotocol := halike.protocol p
      unfold handleTlsDecryptedRequest at hprotocol
      rwa [handleRequest_protocol, handleRequest_protocol] at hprotocol
    · have hread := halike.body
      unfold handleTlsDecryptedRequest at hread
      rwa [handleRequest_body, handleRequest_body] at hread
  · intro h
    obtain ⟨body, hbody, hread⟩ := hbodies.mpr h.body
    refine ⟨_, Except.map_ok_iff.mpr ⟨body, hbody, rfl⟩, findBestMatch_alike_iff.mp ?_⟩
    unfold handleTlsDecryptedRequest
    refine ⟨?_, fun p => ?_, ?_, ?_, ?_, ?_⟩
    · rw [handleRequest_method, handleRequest_method]
    · rw [handleRequest_protocol, handleRequest_protocol]
      exact hprotocols.mpr h.connection p
    · rw [handleRequest_path, handleRequest_path, before_before, before_before]
      exact h.path
    · rw [handleRequest_headers, handleRequest_headers]
      exact fun _ => Iff.rfl
    · rw [handleRequest_queryParams, handleRequest_queryParams, if_pos (c := ([] : Dict Str Str) = []) rfl]
      exact hqueries.mpr h.query
    · rw [handleRequest_body, handleRequest_body]
      exact hread

end

/-! ## Two requests -/

/-- A document posted to a thermostat. -/
def postedDocument : HttpRequest where
  method := "POST"
  target := "/v1/42/state?ts=1"
  headers := [("content-type", "application/json")]
  body := (str "\x7b\"mode\": \"eco\"\x7d").map fun c => Fin.ofNat 256 c.val
  rooted := rfl
  visible := by decide +kernel

theorem postedDocument_same : SameMatch bitsReader [] none postedDocument := by
  have hpath : (unquote postedDocument.rawPath).before (cp '?') = postedDocument.rawPath := by decide +kernel
  refine (ingresses_alike_iff bitsReader [] none (fun mode h => nomatch h) postedDocument).mpr
    ⟨List.mem_cons_self, ?_, .inl (by decide +kernel), ?_⟩
  · rw [hpath]
    exact List.forall₂_same.mpr fun _ _ => .inl rfl
  · have htext : decodeUtf8 postedDocument.body = some (str "\x7b\"mode\": \"eco\"\x7d") := by decide +kernel
    have hloads : loads bitsReader (str "\x7b\"mode\": \"eco\"\x7d") = some (.obj [("mode", .str "eco")]) := by
      decide +kernel
    exact .document (by decide) htext hloads

/-- A form posted by the same device. -/
def postedForm : HttpRequest where
  method := "POST"
  target := "/v1/42/state"
  headers := [("content-type", "application/x-www-form-urlencoded")]
  body := (str "command=reboot").map fun c => Fin.ofNat 256 c.val
  rooted := rfl
  visible := by decide +kernel

/-- A form has no body at the proxy route and one at the listener. -/
theorem postedForm_differs : ¬ ∀ (I : Interp) (F : FloatReader I) (connection : Str) (header : Option DeviceMeta),
    Undecided I header → ∀ r : HttpRequest, SameMatch F connection header r := by
  intro h
  obtain ⟨call, hcall, hmatch⟩ := h bitsInterp bitsReader [] none (fun mode h => nomatch h) postedForm
  obtain ⟨body, hbody, rfl⟩ := Except.map_ok_iff.mp hcall
  have hnone : getRequestBody bitsReader postedForm.body = .ok .null := by decide
  rw [hnone] at hbody
  cases hbody
  have htruthy := (findBestMatch_alike_iff.mpr hmatch).body.1
  unfold handleTlsDecryptedRequest at htruthy
  rw [handleRequest_body, handleRequest_body] at htruthy
  have htext : (normalizeRequestBody bitsReader (.bytes postedForm.body)).truthy = true := by decide +kernel
  rw [htext] at htruthy
  cases htruthy

end RideTheApi.Presentation
