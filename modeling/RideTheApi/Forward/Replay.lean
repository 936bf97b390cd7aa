import RideTheApi.Forward.Cloud
import RideTheApi.Tls.Outgoing

/-!
# `Forward.Replay` — an upstream answer on its way to the device

The TLS listener turns the result of a forward into a reply, has the HTTP library write it and hands what the TLS object
makes of it to the transport. The library refuses to write what it would not read. What it does on either side is given
by `HttpLibrary`, which carries what the code relies on.
-/

namespace RideTheApi.Forward

open Py

/-- Header lines. -/
abbrev Headers := List (Bytes × Bytes)

/-- The bytes of a header name or value. -/
def headerBytes (s : Str) : Bytes := encodeLatin1Replace s

/-- A length as a header has it. -/
def decimal (n : Nat) : Bytes := headerBytes (natStr n)

def contentLength : Bytes := headerBytes "content-length"
def transferEncoding : Bytes := headerBytes "transfer-encoding"

/-- The header is for the far end: it is not one of those that frame the message on one connection. -/
def isEndToEnd (h : Bytes × Bytes) : Bool := !hopByHopHeaders.contains (decodeLatin1 h.1)

def endToEnd (headers : Headers) : Headers := headers.filter isEndToEnd

/-- Answers without a body, whatever their headers say. -/
def bodiless (method : Str) (status : Nat) : Prop := method = "HEAD" ∨ status = 204 ∨ status = 304

/-- A message as a client reads it. -/
structure Message where
  status : Nat
  headers : Headers
  body : Bytes
deriving DecidableEq

/-- The HTTP library as it writes an answer on a fresh server connection and reads one as a client. -/
structure HttpLibrary where
  /-- `HTTPStatus(status).phrase`. -/
  phrase : (status : Nat) → Option Bytes
  /-- The answer, its body and its end; `none` where it is refused. -/
  write : (status : Nat) → (reason : Bytes) → (headers : Headers) → (body : Bytes) → Option Bytes
  /-- What the client that asked with `method` reads, up to the close. -/
  parse : (method : Str) → (bytes : Bytes) → Option Message
  /-- A header line the library reads and writes. -/
  legal : Bytes × Bytes → Prop
  legal_length : ∀ n, legal (contentLength, decimal n)
  legal_close : legal (headerBytes "connection", headerBytes "close")
  legal_json : legal (headerBytes "content-type", headerBytes "application/json")
  /-- An answer whose framing is consistent is written. -/
  writes : ∀ status headers body, 200 ≤ status → status < 1000 → (∀ h ∈ headers, legal h) →
    (∃ h ∈ headers, h.1 = contentLength) → (∀ h ∈ headers, h.1 = contentLength → h.2 = decimal body.length) →
    headers.countP (fun h => h.1 == transferEncoding) ≤ 1 →
    (∀ h ∈ headers, h.1 = transferEncoding → h.2 = headerBytes "chunked") →
    (status = 204 ∨ status = 304 → body = []) →
    (write status ((phrase status).getD (headerBytes "OK")) headers body).isSome = true
  /-- Contradictory lengths are refused. -/
  refuses : ∀ status reason headers body value value', (contentLength, value) ∈ headers →
    (contentLength, value') ∈ headers → value ≠ value' → (∀ b ∈ value, 0x30 ≤ b.val ∧ b.val ≤ 0x39) →
    (∀ b ∈ value', 0x30 ≤ b.val ∧ b.val ≤ 0x39) → write status reason headers body = none
  /-- What is written reads the same, but for the headers that frame it. -/
  parse_write : ∀ method status reason headers body bytes, (∀ h ∈ headers, legal h) →
    (bodiless method status → body = []) → write status reason headers body = some bytes →
    ∃ message, parse method bytes = some message ∧ message.status = status ∧ message.body = body ∧
      endToEnd message.headers = endToEnd headers

section
variable (lib : HttpLibrary)

/-- `serialize_http_response`. -/
def serializeHttpResponse (status : Nat) (headers : Dict Str Str) (body : Bytes) : Option Bytes :=
  lib.write status ((lib.phrase status).getD (headerBytes "OK"))
    ((contentLength, decimal body.length) :: (headerBytes "connection", headerBytes "close") ::
      headers.map fun kv => (headerBytes kv.1, headerBytes kv.2)) body

/-- What the listener replays. -/
structure Reply where
  statusCode : Nat
  headers : Dict Str Str
  body : Bytes
deriving DecidableEq

variable {I : Interp}

/-- The end of `_forward_upstream`: an exception and a failed result make no reply. -/
def forwardUpstream (outcome : Except ForwardExn CommandResult) : Option Reply :=
  match outcome with
  | .error _   => none
  | .ok result =>
    if !result.success then none
    else do
      let body ← match result.bodyBytes with
        | some body => some body
        | none      => (dumps I (Json.orElse result.response (.obj []))).toOption.bind encodeUtf8
      pure {
        statusCode := (result.statusCode.filter (· ≠ 0)).getD 200
        headers := if result.responseHeaders = [] then [("content-type", "application/json")] else result.responseHeaders
        body }

/-- `_write_http_response`, for a TLS object that queues `encrypt raw` when `raw` is written to it. -/
def writeReply (encrypt : Bytes → Bytes) (drains : Bool) (reply : Reply) : List Tls.Event :=
  Tls.writeHttpResponse
    (match serializeHttpResponse lib reply.statusCode reply.headers reply.body with
      | some raw => { queued := encrypt raw, raises := false, drains }
      | none     => { queued := [], raises := true, drains }) []

end

/-! ## What the upstream answered -/

/-- The body that the rest of the events carries. -/
def bodyOf : List Event → Option Bytes
  | .needData false :: events   => bodyOf events
  | .informational :: events    => bodyOf events
  | .data chunk :: events       => (bodyOf events).map (chunk ++ ·)
  | .endOfMessage :: _          => some []
  | .connectionClosed :: _      => some []
  | _                           => none

/-- The answer that the events carry. -/
def answerOf : List Event → Option Message
  | .needData false :: events          => answerOf events
  | .informational :: events           => answerOf events
  | .response status headers :: events => (bodyOf events).map fun body => { status, headers, body }
  | _                                  => none

/-- An upstream answer that `forward` accepts, with what the library guarantees of one it has read. -/
structure Upstream (I : Interp) (lib : HttpLibrary) where
  client : HttpClient
  request : Outgoing
  link : Link
  answer : Message
  carried : answerOf link.events = some answer
  accepted : ∃ response, (forward I client request link).result = .ok response
  status_ge : 200 ≤ answer.status
  status_lt : answer.status < 1000
  legal : ∀ h ∈ answer.headers, lib.legal h
  /-- Names are in lower case. -/
  names : ∀ h ∈ answer.headers, ∀ b ∈ h.1, b.val < 0x80 ∧ ¬(0x41 ≤ b.val ∧ b.val ≤ 0x5a)
  lengths : ∀ h ∈ answer.headers, h.1 = contentLength → ∀ b ∈ h.2, 0x30 ≤ b.val ∧ b.val ≤ 0x39
  length_once : ∀ h ∈ answer.headers, ∀ h' ∈ answer.headers, h.1 = contentLength → h'.1 = contentLength → h.2 = h'.2
  codings : ∀ h ∈ answer.headers, h.1 = transferEncoding → h.2 = headerBytes "chunked"
  bodiless_body : bodiless request.method answer.status → answer.body = []

end RideTheApi.Forward
