import RideTheApi.Lib.Dict
import RideTheApi.Lib.Except
import RideTheApi.Py.Codec

/-!
# `Protocols.Http2` — the streams of one HTTP/2 connection

A read is applied to the connection as a whole, and the events it made are handled in order: a completed request is
answered, and its body is queued and sent as far as the windows allow. The connection is a parameter; `Laws` says what is
relied on.
-/

namespace RideTheApi.Http2

open Py

abbrev StreamId := Nat
abbrev Headers := List (Str × Str)

/-! ## The connection -/

/-- A frame of the client; a window update of stream 0 is one of the connection. -/
inductive ClientFrame where
  | request (s : StreamId) (fin : Bool)
  | data (s : StreamId) (bytes : Bytes) (flowControlled : Nat) (fin : Bool)
  | windowUpdate (s : StreamId) (increment : Nat)
  | reset (s : StreamId)
deriving Repr, DecidableEq

/-- What the connection says about a frame. -/
inductive Event where
  | requestReceived (s : StreamId) (streamEnded : Bool)
  | dataReceived (s : StreamId) (data : Bytes) (flowControlledLength : Nat)
  | streamEnded (s : StreamId)
  | streamReset (s : StreamId)
  | other
deriving Repr, DecidableEq

/-- A frame that was sent: headers, or data with the most bytes the windows and the frame size allowed. -/
structure Sent where
  stream : StreamId
  bytes  : Bytes := []
  fin    : Bool
  limit  : Int := 0
deriving Repr, DecidableEq

inductive H2Error where
  /-- `StreamClosedError`. -/
  | streamClosed
  | protocol
deriving Repr, DecidableEq

/-- The operations of a connection, and what can be seen of it. -/
structure H2 where
  Conn                   : Type
  init                   : Conn
  receiveFrame           : Conn → ClientFrame → Except H2Error (List Event × Conn)
  sendHeaders            : Conn → StreamId → Headers → Bool → Except H2Error Conn
  sendData               : Conn → StreamId → Bytes → Bool → Except H2Error Conn
  resetStream            : Conn → StreamId → Except H2Error Conn
  acknowledge            : Conn → Nat → StreamId → Except H2Error Conn
  localFlowControlWindow : Conn → StreamId → Except H2Error Int
  maxOutboundFrameSize   : Conn → Int
  /-- A request of the stream was received. -/
  opened                 : Conn → StreamId → Prop
  /-- The server may send on the stream. -/
  sendable               : Conn → StreamId → Prop
  /-- The window of the stream, and of the connection. -/
  window                 : Conn → StreamId → Int
  connWindow             : Conn → Int
  sent                   : Conn → List Sent

/-- What a frame is reported as; a second block of headers is the trailers. -/
inductive Reports : ClientFrame → List Event → Prop where
  | request (s : StreamId) (fin : Bool) :
      Reports (.request s fin) (.requestReceived s fin :: if fin then [.streamEnded s] else [])
  | trailers (s : StreamId) : Reports (.request s true) [.other, .streamEnded s]
  | data (s : StreamId) (bytes : Bytes) (n : Nat) (fin : Bool) :
      Reports (.data s bytes n fin) (.dataReceived s bytes n :: if fin then [.streamEnded s] else [])
  | windowUpdate (s : StreamId) (increment : Nat) : Reports (.windowUpdate s increment) [.other]
  | reset (s : StreamId) : Reports (.reset s) [.streamReset s]
  | ignored (f : ClientFrame) : Reports f []

/-- A send: what it adds to what was sent, and the streams that cannot be sent on afterwards. Windows do not grow. -/
structure Sends (H : H2) (c : H.Conn) (frames : List Sent) (gone : StreamId → Prop) (c' : H.Conn) : Prop where
  sent      : H.sent c' = H.sent c ++ frames
  opened    : ∀ t, H.opened c' t ↔ H.opened c t
  sendable  : ∀ t, H.sendable c t → ¬ gone t → H.sendable c' t
  window    : ∀ t w, H.localFlowControlWindow c t = .ok w → ∃ w' ≤ w, H.localFlowControlWindow c' t = .ok w'
  frameSize : H.maxOutboundFrameSize c' = H.maxOutboundFrameSize c

/-- A frame that was received. Only a reset closes a stream, and only a request opens one, once. -/
structure Receives (H : H2) (c : H.Conn) (events : List Event) (c' : H.Conn) : Prop where
  sent     : H.sent c' = H.sent c
  fresh    : ∀ s fin, .requestReceived s fin ∈ events → ¬ H.opened c s
  opened   : ∀ t, H.opened c' t ↔ H.opened c t ∨ ∃ fin, .requestReceived t fin ∈ events
  sendable : ∀ t, H.sendable c t → H.sendable c' t ∨ .streamReset t ∈ events
  opening  : ∀ t fin, .requestReceived t fin ∈ events → H.sendable c' t

/-- What is relied on: a frame is reported, a send on a closed stream is refused, and one on another stream is not refused
    as if its stream were closed. -/
structure Laws (H : H2) : Prop where
  init          : H.sent H.init = [] ∧ ∀ s, ¬ H.opened H.init s
  reports       : ∀ {c f events c'}, H.receiveFrame c f = .ok (events, c') → Reports f events
  receives      : ∀ {c f events c'}, H.receiveFrame c f = .ok (events, c') → Receives H c events c'
  received      : ∀ {c f}, H.receiveFrame c f ≠ .error .streamClosed
  window        : ∀ {c s}, H.sendable c s → H.localFlowControlWindow c s = .ok (min (H.window c s) (H.connWindow c))
  sendHeaders   : ∀ {c s headers fin c'}, H.sendHeaders c s headers fin = .ok c' →
    H.sendable c s ∧ Sends H c [{ stream := s, fin }] (fun t => t = s ∧ fin = true) c'
  headersClosed : ∀ {c s headers fin}, H.sendHeaders c s headers fin = .error .streamClosed → ¬ H.sendable c s
  sendData      : ∀ {c s bytes fin c'}, H.sendData c s bytes fin = .ok c' →
    H.sendable c s ∧ Sends H c [⟨s, bytes, fin, min (min (H.window c s) (H.connWindow c)) (H.maxOutboundFrameSize c)⟩]
      (fun t => t = s ∧ fin = true) c'
  dataClosed    : ∀ {c s bytes fin}, H.sendData c s bytes fin = .error .streamClosed → ¬ H.sendable c s
  resetStream   : ∀ {c s c'}, H.resetStream c s = .ok c' → Sends H c [] (· = s) c'
  resetClosed   : ∀ {c s}, H.resetStream c s = .error .streamClosed → ¬ H.sendable c s
  acknowledge   : ∀ {c n s c'}, H.acknowledge c n s = .ok c' → Sends H c [] (fun _ => False) c'
  acknowledged  : ∀ {c n s}, H.acknowledge c n s ≠ .error .streamClosed

/-! ## The server -/

/-- What ends a connection: the connection refuses, a loop does not end, or anything else is raised. -/
inductive Stop where
  | h2 (e : H2Error)
  | diverges
  | raised
deriving Repr, DecidableEq

/-- What the pipeline answers. -/
inductive Reply where
  | raises
  | unanswered
  | answer (headers : Headers) (payload : Bytes)
deriving Repr, DecidableEq

/-- The body of a response. -/
def Reply.payload : Reply → Bytes
  | .answer _ payload => payload
  | _                 => []

/-- The requests that are not complete, with the bodies so far, and the response bodies that wait for a window. -/
structure Server (H : H2) where
  conn    : H.Conn
  pending : Dict StreamId Bytes := []
  outbox  : Dict StreamId Bytes := []

/-- `_MAX_PENDING_STREAMS`. -/
def maxPendingStreams : Nat := 512

/-- `_MAX_BODY_BYTES`. -/
def maxBodyBytes : Nat := 1024 * 1024

variable (H : H2)

/-- An operation of the connection. -/
def call {α : Type} (x : Except H2Error α) : Except Stop α := x.mapError .h2

/-- `while data:` of `_send_queued`, at most so many times. -/
def drain : Nat → H.Conn → StreamId → Bytes → Except Stop (H.Conn × Bytes)
  | 0,        _, _, _    => .error .diverges
  | fuel + 1, c, s, data =>
    if data = [] then .ok (c, data)
    else do
      let window ← call (H.localFlowControlWindow c s)
      let room := min window (H.maxOutboundFrameSize c)
      if room ≤ 0 then .ok (c, data)
      else do
        let rest := data.drop room.toNat
        let c ← call (H.sendData c s (data.take room.toNat) rest.isEmpty)
        drain fuel c s rest

/-- One stream of `_send_queued`. -/
def sendQueuedOn (srv : Server H) (s : StreamId) : Except Stop (Server H) :=
  match srv.outbox.get? s with
  | none      => .error .raised
  | some data => do
    let (c, rest) ← drain H (data.length + 1) srv.conn s data
    .ok { srv with conn := c, outbox := if rest = [] then srv.outbox.erase s else srv.outbox.set s rest }

/-- `_send_queued`. -/
def sendQueued (srv : Server H) : Except Stop (Server H) := srv.outbox.keys.foldlM (sendQueuedOn H) srv

/-- `_respond`. A stream is answered once, so that the replies are a function of the stream. -/
def respond (reply : StreamId → Reply) (srv : Server H) (s : StreamId) : Except Stop (Server H) :=
  match reply s with
  | .raises                 => .error .raised
  | .unanswered             => do
    let c ← call (H.sendHeaders srv.conn s [(":status", "502")] true)
    .ok { srv with conn := c }
  | .answer headers payload => do
    let c ← call (H.sendHeaders srv.conn s headers payload.isEmpty)
    if payload = [] then .ok { srv with conn := c }
    else sendQueued H { srv with conn := c, outbox := srv.outbox.set s payload }

/-- The body of a request grows, or its stream is refused. -/
def takeData (srv : Server H) (s : StreamId) (data : Bytes) : Except Stop (Server H) :=
  match srv.pending.get? s with
  | none      => .ok srv
  | some body =>
    if maxBodyBytes < body.length + data.length then do
      let c ← call (H.resetStream srv.conn s)
      .ok { srv with conn := c, pending := srv.pending.erase s }
    else .ok { srv with pending := srv.pending.set s (body ++ data) }

/-- One event of `for event in conn.receive_data(data)`. -/
def handleEvent (reply : StreamId → Reply) (srv : Server H) : Event → Except Stop (Server H)
  | .requestReceived s streamEnded =>
    if maxPendingStreams ≤ srv.pending.length then do
      let c ← call (H.resetStream srv.conn s)
      .ok { srv with conn := c }
    else if streamEnded then respond H reply { srv with pending := (srv.pending.set s []).erase s } s
    else .ok { srv with pending := srv.pending.set s [] }
  | .dataReceived s data flowControlledLength => do
    let srv ← takeData H srv s data
    let c ← call (H.acknowledge srv.conn flowControlledLength s)
    .ok { srv with conn := c }
  | .streamEnded s =>
    if srv.pending.has s then respond H reply { srv with pending := srv.pending.erase s } s else .ok srv
  | .streamReset s => .ok { srv with pending := srv.pending.erase s, outbox := srv.outbox.erase s }
  | .other => .ok srv

/-- `conn.receive_data(data)`: every frame is applied before the events are returned. -/
def receiveData : H.Conn → List ClientFrame → Except H2Error (List Event × H.Conn)
  | c, []          => .ok ([], c)
  | c, f :: frames => do
    let (events, c) ← H.receiveFrame c f
    let (events', c) ← receiveData c frames
    .ok (events ++ events', c)

/-- One turn of `while True` of `_handle_connection`. -/
def handleRead (reply : StreamId → Reply) (srv : Server H) (frames : List ClientFrame) : Except Stop (Server H) := do
  let (events, c) ← call (receiveData H srv.conn frames)
  let srv ← events.foldlM (handleEvent H reply) { srv with conn := c }
  sendQueued H srv

/-- `_handle_connection`, until the reads end. -/
def handleConnection (reply : StreamId → Reply) (reads : List (List ClientFrame)) : Except Stop (Server H) :=
  reads.foldlM (handleRead H reply) { conn := H.init }

/-! ## What is claimed -/

/-- What was sent on a stream. -/
def onStream (s : StreamId) (c : H.Conn) : List Sent := (H.sent c).filter (·.stream = s)

/-- The bytes of frames. -/
def bytesOf (frames : List Sent) : Bytes := frames.flatMap Sent.bytes

/-- Frames are a part of a response, from its start: the end is marked once, on the last frame of all of it. -/
structure InOrder (payload : Bytes) (frames : List Sent) : Prop where
  start : bytesOf frames <+: payload
  once  : (frames.filter (·.fin)).length ≤ 1
  last  : ∀ before f after, frames = before ++ f :: after → f.fin = true → after = [] ∧ bytesOf frames = payload

/-- Nothing can be sent on the stream now. -/
def noRoom (c : H.Conn) (s : StreamId) : Bool :=
  match H.localFlowControlWindow c s with
  | .ok window => min window (H.maxOutboundFrameSize c) ≤ 0
  | .error _   => false

/-! ## Resets that come too late -/

/-- The streams that are reset. -/
def resets (events : List Event) : List StreamId :=
  events.filterMap fun e => match e with | .streamReset s => some s | _ => none

/-- The stream whose request an event completes. -/
def completes (pending : Dict StreamId Bytes) : Event → Option StreamId
  | .requestReceived s true => if maxPendingStreams ≤ pending.length then none else some s
  | .streamEnded s          => if pending.has s then some s else none
  | _                       => none

/-- The stream whose request is refused with an event. -/
def refuses (pending : Dict StreamId Bytes) : Event → Option StreamId
  | .requestReceived s _ => if maxPendingStreams ≤ pending.length then some s else none
  | .dataReceived s data _ =>
    ((pending.get? s).filter fun body => maxBodyBytes < body.length + data.length).map fun _ => s
  | _ => none

/-- The requests that are not complete after an event. -/
def pendingAfter (pending : Dict StreamId Bytes) : Event → Dict StreamId Bytes
  | .requestReceived s streamEnded =>
    if maxPendingStreams ≤ pending.length then pending
    else if streamEnded then (pending.set s []).erase s
    else pending.set s []
  | .dataReceived s data _ =>
    match pending.get? s with
    | none      => pending
    | some body =>
      if maxBodyBytes < body.length + data.length then pending.erase s else pending.set s (body ++ data)
  | .streamEnded s => if pending.has s then pending.erase s else pending
  | .streamReset s => pending.erase s
  | .other         => pending

/-- An event completes a request that is answered with a body. -/
def answersWithBody (reply : StreamId → Reply) (pending : Dict StreamId Bytes) (e : Event) : Bool :=
  (completes pending e).any fun s => (reply s).payload ≠ []

/-- A stream that is reset in the rest of the read does not mind the event: it does not complete or refuse the request of
    the stream, nor, when the stream has a body waiting that could be sent, is it answered with a body. -/
def spares (reply : StreamId → Reply) (queued : List StreamId) (c : H.Conn) (pending : Dict StreamId Bytes) (e : Event)
    (s : StreamId) : Bool :=
  completes pending e ≠ some s && refuses pending e ≠ some s &&
    (!queued.contains s || noRoom H c s || !answersWithBody reply pending e)

/-- No event is in front of a reset that minds it. -/
def timely (reply : StreamId → Reply) (queued : List StreamId) (c : H.Conn) : Dict StreamId Bytes → List Event → Bool
  | _,       []          => true
  | pending, e :: events =>
    (resets events).all (spares H reply queued c pending e) && timely reply queued c (pendingAfter pending e) events

/-- The resets of a read are timely. -/
def timelyRead (reply : StreamId → Reply) (srv : Server H) (frames : List ClientFrame) : Bool :=
  match receiveData H srv.conn frames with
  | .ok (events, c) => timely H reply srv.outbox.keys c srv.pending events
  | .error _        => true

/-- The resets of every read are. -/
def timelyReads (reply : StreamId → Reply) : Server H → List (List ClientFrame) → Bool
  | _,   []             => true
  | srv, frames :: reads =>
    timelyRead H reply srv frames && match handleRead H reply srv frames with
      | .ok srv  => timelyReads reply srv reads
      | .error _ => true

end RideTheApi.Http2
