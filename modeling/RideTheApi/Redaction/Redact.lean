import RideTheApi.Py.JsonTrim

/-!
# `Redaction.Redact` — the credentials taken out of captures and prompts

Header and query maps are redacted by name, bodies by a walk over dicts and lists. A string body is parsed
as JSON when it looks like a document and redacted as `key=value` pairs otherwise; a string inside a body is
treated the same way, so the walk and the treatment of strings call each other. The walk is structural and
takes the treatment of strings as a parameter; the treatment is given one unit of fuel for each character,
which `redactJsonString_eq` shows to be enough: a string inside a document is shorter than the document.

The recursion limit of the interpreter is not part of the model.
-/

namespace RideTheApi.Redaction

open Py JsonGrammar

/-! ## Which names are sensitive -/

/-- Header names whose values are always secrets. -/
def sensitiveHeaders : List Str :=
  ["authorization", "proxy-authorization", "cookie", "set-cookie", "x-api-key", "api-key", "apikey",
    "x-auth-token", "x-auth", "x-access-token", "x-request-token", "token", "password", "passwd", "pwd",
    "x-password", "secret", "client-secret", "client_secret", "credential", "credentials"].map str

/-- JSON keys whose values are redacted. -/
def sensitiveKeys : List Str :=
  ["token", "access_token", "access-token", "auth_token", "refresh_token", "id_token", "api_key", "apikey",
    "api-key", "password", "passwd", "pwd", "secret", "client_secret", "client-secret", "credential",
    "credentials", "authorization", "cookie", "session_id", "session-key", "serial", "serial_number",
    "wifi_password", "wifi_pass", "wifipassword", "security_code", "pin", "otp", "mfa", "totp", "private_key",
    "key_file"].map str

/-- Query parameters whose values are redacted. -/
def sensitiveQueryParams : List Str :=
  ["token", "access_token", "access-token", "api_key", "apikey", "api-key", "key", "auth", "auth_token",
    "signature", "sig", "code", "password", "passwd", "pwd", "secret", "credential", "session",
    "session_id"].map str

/-- What a secret is replaced with. -/
def redacted : Str := "[REDACTED]"

/-- A normalised name that ends in one of these is a secret whatever its prefix. -/
def sensitiveSuffixes : List Str :=
  ["token", "secret", "password", "passwd", "passphrase", "apikey", "credential", "credentials", "privatekey",
    "cookie", "authorization", "sessionid", "sessionkey", "localkey", "signature"].map str

section
variable (I : Interp)

/-- A name in lower case, with everything but ASCII letters and digits removed. -/
def norm (name : Str) : Str := (I.lowerStr name).filter fun c => Interp.asciiLower c || Interp.asciiDigit c

/-- Whether a name is sensitive: an exact hit, a normalised hit, or a secret suffix. -/
def matchesName (exact : List Str) (name : Str) : Bool :=
  if exact.contains name then true
  else
    let n := norm I name
    if n.isEmpty then false
    else (exact.map (norm I)).contains n || sensitiveSuffixes.any fun suffix => n.endsWith suffix

def isSensitiveHeader (name : Str) : Bool := matchesName I sensitiveHeaders name

def isSensitiveQueryParam (name : Str) : Bool := matchesName I sensitiveQueryParams name

def isSensitiveKey (key : Str) : Bool := matchesName I sensitiveKeys key

/-- The stems whose presence in a text sends it down the slow path. -/
def fastPathStems : List Str := sensitiveKeys.map (norm I) ++ sensitiveSuffixes

/-- `[\s_\-]`. -/
def isSeparator (c : CodePoint) : Bool := Str.isSpace c || c == cp '_' || c == cp '-'

/-- Whether a stem occurs in the text, its separators squashed. -/
def containsSensitiveKey (text : Str) : Bool :=
  let squashed : Str := (I.lowerStr text).filter fun c => !isSeparator c
  (fastPathStems I).any fun stem => squashed.includes stem

/-- Whether a text that looks like a document is returned untouched. -/
def fastPath (stripped : Str) : Bool := !stripped.includes "\\u" && !containsSensitiveKey I stripped

end

/-! ## Header and query maps -/

/-- `value in (None, "")`. -/
def isBlank : Json → Bool
  | .null   => true
  | .str s  => s.isEmpty
  | _       => false

/-- A copy of the map with the values of sensitive names replaced. An empty value stays. -/
def redactNames (sensitive : Str → Bool) (d : Dict Str Json) : Dict Str Json :=
  d.map fun kv => (kv.1, if isBlank kv.2 then kv.2 else if sensitive kv.1 then .str redacted else kv.2)

def redactHeaders (I : Interp) (headers : Option (Dict Str Json)) : Option (Dict Str Json) :=
  headers.map (redactNames (isSensitiveHeader I))

def redactQuery (I : Interp) (queryParams : Option (Dict Str Json)) : Option (Dict Str Json) :=
  queryParams.map (redactNames (isSensitiveQueryParam I))

/-! ## `key=value` pairs -/

/-- `re.split(r"(&|\r?\n)", text)`, with `part` read already: the parts and the separators between them. -/
def splitPairs (part : Str) : Str → List Str
  | []          => [part]
  | [c]         => if c = cp '&' ∨ c = cp '\n' then [part, [c], []] else [part ++ [c]]
  | c :: d :: s =>
    if c = cp '&' ∨ c = cp '\n' then part :: [c] :: splitPairs [] (d :: s)
    else if c = cp '\r' ∧ d = cp '\n' then part :: [c, d] :: splitPairs [] s
    else splitPairs (part ++ [c]) (d :: s)

/-- `s.lstrip()`. -/
def lstrip (s : Str) : Str := s.dropWhile Str.isSpace

section
variable (I : Interp)

/-- A pair whose name is sensitive as a query parameter or as a key. -/
def isSensitivePair (part : Str) : Bool :=
  part.contains (cp '=') && !braceOrBracket (lstrip part) &&
    (isSensitiveQueryParam I (part.before (cp '=')).stripSpace || isSensitiveKey I (part.before (cp '=')).stripSpace)

/-- The pair with its value replaced. -/
def maskedPair (part : Str) : Str := part.before (cp '=') ++ str "=" ++ redacted

def redactPart (part : Str) : Str := if isSensitivePair I part then maskedPair part else part

def redactKeyValuePairs (text : Str) : Str :=
  if !text.contains (cp '=') then text else (splitPairs [] text).flatMap (redactPart I)

end

/-! ## Bodies -/

section
variable (I : Interp) (text : Str → Str)

/-- A string value: a document, pairs, or neither. -/
def redactValueText (s : Str) : Str :=
  if braceOrBracket (lstrip s) then text s
  else if s.contains (cp '=') then redactKeyValuePairs I s
  else s

/-- A value under its key, with what the walk makes of it: redacted if the key names a sensitive field. -/
def redactUnder (key : Str) (value walked : Json) : Json :=
  if isSensitiveKey I key then .str redacted
  else match value with
    | .obj _ | .arr _ => walked
    | .str s          => .str (redactValueText I text s)
    | v               => v

mutual
/-- The walk over a body; `text` treats a string that may be a document. -/
def redactBodyWith : Json → Json
  | .obj kvs => .obj (redactEntriesWith kvs)
  | .arr xs  => .arr (redactItemsWith xs)
  | .str s   => .str (if s.isEmpty then s else text s)
  | v        => v
def redactItemsWith : List Json → List Json
  | []      => []
  | x :: xs => redactBodyWith x :: redactItemsWith xs
def redactEntriesWith : List (Str × Json) → List (Str × Json)
  | []            => []
  | (k, v) :: kvs => (k, redactUnder I text k v (redactBodyWith v)) :: redactEntriesWith kvs
end

end

section
variable {I : Interp} (F : FloatReader I)

/-- A string body, with `body` treating the parsed document. -/
def redactJsonStringWith (body : Json → Json) (text : Str) : Str :=
  let stripped := text.stripSpace
  if braceOrBracket stripped then
    if fastPath I stripped then text
    else match loads F stripped with
      | some parsed =>
        match dumpsRaw I (body parsed) with
        | .ok s    => s
        | .error _ => text
      | none        => text
  else redactKeyValuePairs I text

/-- A string body, with documents in documents up to a depth. -/
def redactJsonStringAt : Nat → Str → Str
  | 0, text     => text
  | n + 1, text => redactJsonStringWith F (redactBodyWith I (redactJsonStringAt n)) text

/-- Redact the sensitive fields of a string body. -/
def redactJsonString (text : Str) : Str := redactJsonStringAt F (text.length + 1) text

/-- A copy of the body with sensitive values redacted. -/
def redactBody (body : Json) : Json := redactBodyWith I (redactJsonString F) body

/-- Redact a value if its key names a sensitive field, else look inside. -/
def redactValue (key : Str) (value : Json) : Json :=
  redactUnder I (redactJsonString F) key value (redactBody F value)

/-! ## Captured pairs before a prompt -/

/-- A map field of a captured pair: what is neither empty nor a dict raises. -/
def redactMapField (sensitive : Str → Bool) (value : Json) : Option Json :=
  if !value.truthy then some value
  else match value with
    | .obj d => some (.obj (redactNames sensitive d))
    | _      => none

/-- The fields of a captured pair and how each is redacted. -/
def redactMappings : List (Str × (Json → Option Json)) :=
  [("request_headers", redactMapField (isSensitiveHeader I)),
    ("response_headers", redactMapField (isSensitiveHeader I)),
    ("request_query", redactMapField (isSensitiveQueryParam I)),
    ("request_body", fun body => some (redactBody F body)),
    ("response_body", fun body => some (redactBody F body))].map fun m => (str m.1, m.2)

/-- One field of a pair, if the pair has it. -/
def redactField (clone : Dict Str Json) (mapping : Str × (Json → Option Json)) : Option (Dict Str Json) :=
  match clone.get? mapping.1 with
  | some value => (mapping.2 value).map fun value' => clone.set mapping.1 value'
  | none       => some clone

/-- A captured pair; what is not a dict is kept. -/
def redactPair : Json → Option Json
  | .obj pair => ((redactMappings F).foldlM redactField pair).map JsonTree.obj
  | pair      => some pair

/-- Captured pairs with their sensitive fields redacted; `none` where a map field raises. -/
def redactPairsForPrompt : Json → Option Json
  | .arr pairs => (pairs.mapM (redactPair F)).map JsonTree.arr
  | pairs      => some pairs

end

/-! ## The equations of the source -/

section
variable {I : Interp}

theorem redactItemsWith_eq (text : Str → Str) (xs : List Json) :
    redactItemsWith I text xs = xs.map (redactBodyWith I text) := by
  induction xs with
  | nil => rfl
  | cons x xs ih => rw [redactItemsWith, ih, List.map_cons]

theorem redactEntriesWith_eq (text : Str → Str) (kvs : List (Str × Json)) :
    redactEntriesWith I text kvs =
      kvs.map fun kv => (kv.1, redactUnder I text kv.1 kv.2 (redactBodyWith I text kv.2)) := by
  induction kvs with
  | nil => rfl
  | cons kv kvs ih => rw [redactEntriesWith, ih, List.map_cons]

mutual
/-- The walk depends on what is done to the strings of the body only. -/
theorem redactBodyWith_congr {f g : Str → Str} : ∀ v : Json, (∀ s ∈ v.strings, f s = g s) →
    redactBodyWith I f v = redactBodyWith I g v
  | .null, _ | .bool _, _ | .int _, _ | .float _, _ => rfl
  | .str s, h => by
    rw [redactBodyWith, redactBodyWith, h s (List.mem_singleton_self s)]
  | .arr xs, h => by
    rw [redactBodyWith, redactBodyWith, redactItemsWith_congr xs h]
  | .obj kvs, h => by
    rw [redactBodyWith, redactBodyWith, redactEntriesWith_congr kvs h]
theorem redactItemsWith_congr {f g : Str → Str} : ∀ xs : List Json, (∀ s ∈ JsonTree.stringsList xs, f s = g s) →
    redactItemsWith I f xs = redactItemsWith I g xs
  | [], _ => rfl
  | x :: xs, h => by
    rw [redactItemsWith, redactItemsWith, redactBodyWith_congr x fun s hs => h s (List.mem_append_left _ hs),
      redactItemsWith_congr xs fun s hs => h s (List.mem_append_right _ hs)]
theorem redactEntriesWith_congr {f g : Str → Str} : ∀ kvs : List (Str × Json),
    (∀ s ∈ JsonTree.stringsEntries kvs, f s = g s) → redactEntriesWith I f kvs = redactEntriesWith I g kvs
  | [], _ => rfl
  | (k, v) :: kvs, h => by
    have hbody := redactBodyWith_congr v fun s hs => h s (List.mem_append_left _ hs)
    have hrest := redactEntriesWith_congr kvs fun s hs => h s (List.mem_append_right _ hs)
    have hunder : redactUnder I f k v = redactUnder I g k v := by
      funext walked
      unfold redactUnder
      cases v with
      | str s =>
        have hs : f s = g s := h s (List.mem_append_left _ (List.mem_singleton_self s))
        simp only [redactValueText, hs]
      | null | bool | int | float | obj | arr => rfl
    rw [redactEntriesWith, redactEntriesWith, hrest, hunder, hbody]
end

variable {F : FloatReader I}

/-- What is done to a string body depends on what is done to the document in it only. -/
theorem redactJsonStringWith_congr {f g : Json → Json} {text : Str}
    (h : ∀ parsed, loads F text.stripSpace = some parsed → f parsed = g parsed) :
    redactJsonStringWith F f text = redactJsonStringWith F g text := by
  unfold redactJsonStringWith
  dsimp only
  cases hparsed : loads F text.stripSpace with
  | none => rfl
  | some parsed =>
    dsimp only
    rw [h parsed hparsed]

theorem stripSpace_length (s : Str) : s.stripSpace.length ≤ s.length :=
  (List.rdropWhile_prefix _ _).length_le.trans (List.dropWhile_suffix _).length_le

/-- A string inside a document is shorter than the text of the document. -/
theorem strings_lt {text : Str} {parsed : Json} (h : loads F text.stripSpace = some parsed) {s : Str}
    (hs : s ∈ parsed.strings) : s.length < text.length :=
  (((over_strings parsed (loads_over h) s hs).2 s rfl)).trans_le (stripSpace_length text)

/-- **One unit of fuel for each character is enough.** -/
theorem redactJsonStringAt_eq {n m : Nat} {text : Str} (hn : text.length < n) (hm : text.length < m) :
    redactJsonStringAt F n text = redactJsonStringAt F m text := by
  induction n generalizing m text with
  | zero => omega
  | succ n ih =>
    obtain ⟨m, rfl⟩ : ∃ k, m = k + 1 := ⟨m - 1, by omega⟩
    apply redactJsonStringWith_congr
    intro parsed hparsed
    apply redactBodyWith_congr
    intro s hs
    have hlen := strings_lt hparsed hs
    exact ih (by omega) (by omega)

/-- **A string body is treated as the source says, with no depth.** -/
theorem redactJsonString_eq (text : Str) :
    redactJsonString F text = redactJsonStringWith F (redactBody F) text := by
  apply redactJsonStringWith_congr
  intro parsed hparsed
  apply redactBodyWith_congr
  intro s hs
  exact redactJsonStringAt_eq (strings_lt hparsed hs) (Nat.lt_succ_self _)

end

end RideTheApi.Redaction
