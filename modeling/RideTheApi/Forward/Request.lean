import RideTheApi.Py.Equal
import RideTheApi.Py.JsonBytes
import RideTheApi.Py.Quote

/-!
# `Forward.Request` — what of an intercepted request goes upstream

The forward sends the raw request target where the ingress kept one and rebuilds it from the decoded path otherwise; it
sends the raw body unless the parsed one was changed, and no body at all for some methods.
-/

namespace RideTheApi.Forward

open Py

/-! ## The request -/

/-- The parts of an intercepted request that a forward reads. `null` is a body of `None`. -/
structure InterceptedRequest where
  method : Str
  path : Str
  headers : Dict Str Str
  queryParams : Dict Str Str
  rawTarget : Option Str
  body : Json
  bodyBytes : Option Bytes
deriving DecidableEq

/-- `_TARGET_SAFE`. -/
def targetSafe : Str := "/?:@!$&'()*+,;=-._~%"

/-- `_request_target`: `none` is a `UnicodeEncodeError`. -/
def requestTarget (request : InterceptedRequest) : Option Str :=
  match request.rawTarget with
  | some (c :: raw) => some (c :: raw)
  | _ => do
    let path ← quote (if request.path.isEmpty then "/" else request.path) targetSafe
    if request.queryParams.isEmpty then pure path
    else
      let query ← urlencode request.queryParams
      pure (path ++ (if path.contains (cp '?') then str "&" else str "?") ++ query)

/-! ## The body -/

section
variable {I : Interp} (F : FloatReader I)

/-- `_raw_body_matches_parsed`. -/
def rawBodyMatchesParsed (parsed : Json) (raw : Bytes) : Bool :=
  if parsed = .null then true
  else
    match loadsAny F raw, parsed with
    | some (.float x), .float y => pyEq (.float x) (.float y)
    | some v,          parsed   => eqItem v parsed
    | none,            _        => false

/-- `_request_body_bytes`: the body to send and the headers it leaves. -/
def requestBodyBytes (request : InterceptedRequest) (method : Str) (headers : Dict Str Str) :
    Result (Option Bytes × Dict Str Str) :=
  if [str "GET", str "HEAD", str "DELETE"].contains method then .ok (none, headers)
  else
    match request.bodyBytes.filter (rawBodyMatchesParsed F request.body) with
    | some raw =>
      if raw.isEmpty then .ok (none, headers)
      else .ok (some raw, headers.set "content-length" (natStr raw.length))
    | none =>
      if request.body = .null ∨ request.body = .obj [] then .ok (none, headers)
      else do
        let text ← dumps I request.body
        -- `json.dumps` writes ASCII
        let body : Bytes := text.map fun c => Fin.ofNat 256 c.val
        .ok (some body,
          (headers.setDefault "content-type" "application/json").set "content-length" (natStr body.length))

end

end RideTheApi.Forward
