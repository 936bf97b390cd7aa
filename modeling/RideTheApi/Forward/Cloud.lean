import RideTheApi.Forward.Request
import RideTheApi.Forward.Resolver

/-!
# `Forward.Cloud` — one request forwarded to the first address that answers

`forward` makes one attempt at one address; `forward_intercepted` tries the addresses in turn and goes on after every
exception it catches. What the network does during an attempt is a `Link`; the HTTP framing of the request is the
library's, and so are the events of the response. An attempt also says whether the whole request got to the address,
which the code does not know.
-/

namespace RideTheApi.Forward

open Py

/-- The client side of the HTTP library: the bytes of a request, unless it refuses them. -/
structure HttpClient where
  send : (method : Str) → (target : Bytes) → (headers : List (Bytes × Bytes)) → (body : Option Bytes) → Option Bytes

/-- An event of the response, or the need for more bytes. -/
inductive Event where
  /-- The next read, which may time out or fail. -/
  | needData (fails : Bool)
  | informational
  | response (status : Nat) (headers : List (Bytes × Bytes))
  | data (chunk : Bytes)
  | endOfMessage
  | connectionClosed
  /-- The answer is malformed. -/
  | malformed
deriving DecidableEq

/-- What the network does with one address during one attempt. -/
structure Link where
  connects : Bool
  /-- `drain` returned. -/
  drained : Bool
  /-- The whole of what was written got to the address. -/
  delivered : Bool
  events : List Event
deriving DecidableEq

/-- An address nobody listens at. -/
def Link.refused : Link := { connects := false, drained := false, delivered := false, events := [] }

/-- The exceptions `forward` ends with. -/
inductive ForwardExn where
  | cloudForward
  /-- `TimeoutError`, `ConnectionError` or any other `OSError`. -/
  | os
  /-- Anything else: a request the library refuses, text that does not encode. -/
  | other
deriving DecidableEq, Repr

/-- The exceptions after which the next address is tried. -/
def ForwardExn.caught : ForwardExn → Bool
  | .cloudForward => true
  | .os           => true
  | .other        => false

/-- A parsed upstream response. -/
structure ForwardedResponse where
  statusCode : Nat
  headers : Dict Str Str
  body : Bytes
deriving DecidableEq

/-- `_MAX_RESPONSE_BODY`. -/
def maxResponseBody : Nat := 5 * 1024 * 1024

section
variable (I : Interp)

/-- `{k.decode("latin-1").lower(): v.decode("latin-1") for k, v in event.headers}`. -/
def responseHeaders (headers : List (Bytes × Bytes)) : Dict Str Str :=
  Dict.ofList (headers.map fun kv => (I.lowerStr (decodeLatin1 kv.1), decodeLatin1 kv.2))

/-- The loop over the events of the response. A script that runs out is a read that times out. -/
def readResponse : List Event → Option Nat → Dict Str Str → Bytes → Except ForwardExn ForwardedResponse
  | [],                            _,      _,       _    => .error .cloudForward
  | .needData fails :: events,     status, headers, body =>
    if fails then .error .cloudForward else readResponse events status headers body
  | .informational :: events,      status, headers, body => readResponse events status headers body
  | .response status raw :: events, _,     _,       body => readResponse events (some status) (responseHeaders I raw) body
  | .data chunk :: events,         status, headers, body =>
    if maxResponseBody < body.length + chunk.length then .error .cloudForward
    else readResponse events status headers (body ++ chunk)
  | .malformed :: _,               _,      _,       _    => .error .cloudForward
  | .endOfMessage :: _,            status, headers, body => ended status headers body
  | .connectionClosed :: _,        status, headers, body => ended status headers body
where
  /-- The end of the exchange: without a status line there was no response. -/
  ended (status : Option Nat) (headers : Dict Str Str) (body : Bytes) : Except ForwardExn ForwardedResponse :=
    match status with
    | some statusCode => .ok { statusCode, headers, body }
    | none            => .error .cloudForward

/-- What is sent to every address. -/
structure Outgoing where
  hostname : Str
  port : Nat
  method : Str
  path : Str
  headers : Dict Str Str
  body : Option Bytes

/-- `_HOP_BY_HOP_HEADERS`. -/
def hopByHopHeaders : List Str := ["content-length", "transfer-encoding", "connection"].map str

/-- `_norm_headers`. -/
def normHeaders (headers : Dict Str Str) : Dict Str Str :=
  Dict.ofList (headers.map fun kv => (I.lowerStr kv.1, kv.2))

/-- The header lines of a forwarded request. -/
def sendHeaders (o : Outgoing) : Dict Str Str :=
  let headers := hopByHopHeaders.foldl Dict.erase (normHeaders I o.headers)
  let headers := match o.body with
    | some body => headers.set "content-length" (natStr body.length)
    | none      => headers
  let host := if o.port = 443 then o.hostname else o.hostname ++ str ":" ++ natStr o.port
  headers.filter (fun kv => kv.1 ≠ str "host") ++ [(str "host", host)]

/-- The bytes of a forwarded request; `none` is an exception nobody catches. -/
def requestBytes (lib : HttpClient) (o : Outgoing) : Option Bytes := do
  let headers ← (sendHeaders I o).mapM fun (kv : Str × Str) => do
    let k ← encodeLatin1 kv.1
    let v ← encodeLatin1 kv.2
    pure (k, v)
  let target ← encodeLatin1 o.path
  lib.send o.method target headers (o.body.filter fun body => !body.isEmpty)

/-- One attempt: whether the address got the whole request, and how the attempt ended. -/
structure Attempt where
  delivered : Bool
  result : Except ForwardExn ForwardedResponse

/-- `CloudForwarder.forward`. -/
def forward (lib : HttpClient) (o : Outgoing) (link : Link) : Attempt :=
  if !link.connects then { delivered := false, result := .error .cloudForward }
  else
    match requestBytes I lib o with
    | none   => { delivered := false, result := .error .other }
    | some _ =>
      if !link.drained then { delivered := link.delivered, result := .error .os }
      else { delivered := link.delivered, result := readResponse I link.events none [] [] }

/-- `_decode_body`: `none` is an integer of too many digits, which raises. -/
def decodeBody {I : Interp} (F : FloatReader I) (raw : Bytes) : Option Json :=
  if raw.isEmpty then some .null
  else
    let kept : Json := .obj [("raw", .str (decodeUtf8Replace raw))]
    match decodeUtf8 raw with
    | none      => some kept
    | some text =>
      match loads F text with
      | some v => some v
      | none   => if meetsOverlong F text then none else some kept

/-- The result of a forward. -/
structure CommandResult where
  success : Bool
  response : Json
  statusCode : Option Nat
  responseHeaders : Dict Str Str
  bodyBytes : Option Bytes
deriving DecidableEq

/-- A result that carries an error. -/
def CommandResult.failed : CommandResult :=
  { success := false, response := .null, statusCode := none, responseHeaders := [], bodyBytes := none }

/-- The result of a response that was accepted. -/
def CommandResult.ofResponse (response : ForwardedResponse) (decoded : Json) : CommandResult :=
  { success := true
    response := Json.orElse decoded (.obj [])
    statusCode := some response.statusCode
    responseHeaders := response.headers
    bodyBytes := some response.body }

/-- What a run of `forward_intercepted` does: the addresses it connects to, those that get the whole request, and the
    result or the exception it ends with. -/
structure Exchange where
  contacted : List Str
  deliveries : List Str
  outcome : Except ForwardExn CommandResult

/-- A run that ends before any address is tried. -/
def Exchange.none (outcome : Except ForwardExn CommandResult) : Exchange :=
  { contacted := [], deliveries := [], outcome }

section
variable {I} (F : FloatReader I)

/-- The loop over the addresses. -/
def tryAddresses (lib : HttpClient) (o : Outgoing) : List Str → List Link → Exchange
  | [],        _     => .none (.ok .failed)
  | ip :: ips, links =>
    let attempt := forward I lib o (links.headD .refused)
    let delivered := if attempt.delivered then [ip] else []
    match attempt.result with
    | .ok response =>
      let outcome := match decodeBody F response.body with
        | some decoded => .ok (.ofResponse response decoded)
        | none         => .error .other
      { contacted := [ip], deliveries := delivered, outcome }
    | .error e     =>
      if e.caught then
        let rest := tryAddresses lib o ips links.tail
        { contacted := ip :: rest.contacted, deliveries := delivered ++ rest.deliveries, outcome := rest.outcome }
      else { contacted := [ip], deliveries := delivered, outcome := .error e }

/-- `s.upper()` of a method, which is ASCII. -/
def upperMethod (method : Str) : Str :=
  method.map fun c : CodePoint => if Interp.asciiLower c then Fin.ofNat 0x110000 (c.val - 0x20) else c

/-- The request as it goes upstream, whatever the address; `none` is an exception. -/
def prepare (request : InterceptedRequest) (hostname : Str) (port : Nat) : Option Outgoing := do
  let method := upperMethod (if request.method.isEmpty then str "GET" else request.method)
  let path ← requestTarget request
  let (body, headers) ← (requestBodyBytes F request method (normHeaders I request.headers)).toOption
  pure { hostname, port, method, path, headers, body }

/-- `forward_intercepted`, once `resolve_upstream` has returned `resolved` (`none` for an exception). -/
def forwardIntercepted (lib : HttpClient) (request : InterceptedRequest) (hostname : Str) (port : Nat)
    (resolved : Option (List Str)) (links : List Link) : Exchange :=
  if hostname.isEmpty then .none (.ok .failed)
  else
    let safeIps := (resolved.getD []).filter fun ip => !isBlockedIp ip
    if safeIps.isEmpty then .none (.ok .failed)
    else
      match prepare F request hostname port with
      | none   => .none (.error .other)
      | some o => tryAddresses F lib o safeIps links

end

end

end RideTheApi.Forward
