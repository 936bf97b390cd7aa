import RideTheApi.Py.Codec

/-!
# `Tls.Outgoing` — from the outgoing BIO to the transport

What the TLS object queues waits in a memory BIO until the code reads it out and writes it to the client. The handshake
loop reads up to 4096 bytes at each attempt, the response writer up to 65536 bytes once. What the TLS object does is
given attempt by attempt; what the code does with it is the trace of a connection.
-/

namespace RideTheApi.Tls

open Py

def handshakeDrain : Nat := 4096
def responseDrain : Nat := 65536
def maxAttempts : Nat := 100

inductive Event where
  /-- The TLS object queues bytes. -/
  | queued (bs : Bytes)
  /-- `writer.write`. -/
  | handed (bs : Bytes)
  /-- The code waits for the client's next bytes. -/
  | waits
  /-- The connection is over. -/
  | finishes
deriving DecidableEq

/-- How `do_handshake` ends. -/
inductive Outcome where
  | done
  /-- `SSLWantReadError`, and whether the read that follows brings bytes: at the end of the stream and at a timeout
      it does not. -/
  | wantRead (more : Bool)
  | wantWrite
  /-- Any other exception. -/
  | failed
deriving DecidableEq

structure Attempt where
  queued : Bytes
  outcome : Outcome
  /-- `writer.drain` returns, if it is called. -/
  drains : Bool
deriving DecidableEq

/-- `if outgoing.pending: writer.write(outgoing.read(n)); await writer.drain()`: what is handed over, what stays in the
    BIO, and whether it returned. -/
def flush (n : Nat) (drains : Bool) (pending : Bytes) : List Event × Bytes × Bool :=
  if pending = [] then ([], [], true) else ([.handed (pending.take n)], pending.drop n, drains)

/-- `_pump_tls_handshake` from attempt `k` with `left` attempts left: what happens, and what is in the BIO where it
    returns `True`. -/
def pumpTlsHandshake (attempts : Nat → Attempt) : (left k : Nat) → (pending : Bytes) → List Event × Option Bytes
  | 0, _, _              => ([], none)
  | left + 1, k, pending =>
    let attempt := attempts k
    let flushed := flush handshakeDrain attempt.drains (pending ++ attempt.queued)
    match attempt.outcome with
    | .done =>
      (.queued attempt.queued :: flushed.1, if flushed.2.2 then some flushed.2.1 else none)
    | .wantRead more =>
      if flushed.2.2 then
        if more then
          let rest := pumpTlsHandshake attempts left (k + 1) flushed.2.1
          (.queued attempt.queued :: (flushed.1 ++ .waits :: rest.1), rest.2)
        else (.queued attempt.queued :: (flushed.1 ++ [.waits]), none)
      else (.queued attempt.queued :: flushed.1, none)
    | .wantWrite =>
      if flushed.2.2 then
        let rest := pumpTlsHandshake attempts left (k + 1) flushed.2.1
        (.queued attempt.queued :: (flushed.1 ++ rest.1), rest.2)
      else (.queued attempt.queued :: flushed.1, none)
    | .failed => ([.queued attempt.queued], none)

/-- A response on its way through the TLS object. -/
structure Response where
  /-- What `ssl_obj.write` queues. -/
  queued : Bytes
  /-- The response cannot be serialised, or the write raises other than for want of a read or a write. -/
  raises : Bool
  drains : Bool
deriving DecidableEq

/-- `_write_http_response`: whatever it raises is caught. -/
def writeHttpResponse (response : Response) (pending : Bytes) : List Event :=
  .queued response.queued ::
    if response.raises then [] else (flush responseDrain response.drains (pending ++ response.queued)).1

/-- What a connection brings. Between the handshake and the response the request is read, and reading it queues
    nothing. -/
structure Connection where
  attempts : Nat → Attempt
  /-- The request is not all there after the handshake, so the code waits for it. -/
  requestWaits : Bool
  /-- None where no request comes or nothing answers it. -/
  response : Option Response

namespace Connection

/-- After the handshake. -/
def answer (c : Connection) (pending : Bytes) : List Event :=
  (if c.requestWaits then [.waits] else []) ++
    (match c.response with
      | none          => []
      | some response => writeHttpResponse response pending) ++ [.finishes]

/-- `_handle_connection`, from the first attempt on. -/
def run (c : Connection) : List Event :=
  match pumpTlsHandshake c.attempts maxAttempts 0 [] with
  | (events, none)         => events ++ [.finishes]
  | (events, some pending) => events ++ c.answer pending

end Connection

end RideTheApi.Tls
