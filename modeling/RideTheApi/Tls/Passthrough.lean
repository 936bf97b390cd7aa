import RideTheApi.Lib.Transition
import RideTheApi.Registry.Addresses
import RideTheApi.Tls.Outgoing

/-!
# `Tls.Passthrough` — which devices are no longer decrypted

A device that refuses the proxy's certificate is marked in its registry row, and from then on its connections are
relayed. The handshake loop tells its caller only whether the handshake was completed. A run is any order of
connections, of the reads and commits of the registry they race with, and of what the operator sets.
-/

namespace RideTheApi.Tls.Passthrough

open Py Transition
open Registry.Addresses (deviceIdFromIp)

/-! ## The handshake -/

/-- How the loop's `reader.read` comes out. -/
inductive Read where
  | bytes
  | eof
  | timeout
  | raises
deriving Repr, DecidableEq

/-- How one attempt comes out; `drained` says that `writer.drain` returns, where it is called. -/
inductive Turn where
  | done (drained : Bool)
  | wantRead (drained : Bool) (read : Read)
  | wantWrite (drained : Bool)
  /-- Any other `ssl.SSLError`, and whether an alert of the peer raised it. -/
  | sslError (alert : Bool)
  | raises
deriving Repr, DecidableEq

/-- How a handshake ends. -/
inductive Ending where
  | completed
  | alert
  | tlsError
  | closed
  | timedOut
  | exhausted
  | raised
deriving Repr, DecidableEq

/-- `_pump_tls_handshake` with `left` attempts left; `none` while it goes on. -/
def pumpTlsHandshake : (left : Nat) → List Turn → Option Ending
  | 0,        _             => some .exhausted
  | _ + 1,    []            => none
  | left + 1, turn :: turns =>
    match turn with
    | .done drained => some (if drained then .completed else .raised)
    | .wantRead drained read =>
      if drained then
        match read with
        | .bytes   => pumpTlsHandshake left turns
        | .eof     => some .closed
        | .timeout => some .timedOut
        | .raises  => some .raised
      else some .raised
    | .wantWrite drained => if drained then pumpTlsHandshake left turns else some .raised
    | .sslError alert => some (if alert then .alert else .tlsError)
    | .raises => some .raised

/-- What `_pump_tls_handshake` returns; it raises where `drain` or `read` does. -/
def Ending.handshakeOk : Ending → Option Bool
  | .completed => some true
  | .raised    => none
  | _          => some false

/-- The attempt that `Outgoing` has for a turn. -/
def Turn.attempt : Turn → Attempt
  | .done drained                => ⟨[0], .done, drained⟩
  | .wantRead drained .bytes     => ⟨[0], .wantRead true, drained⟩
  | .wantRead drained _          => ⟨[0], .wantRead false, drained⟩
  | .wantWrite drained           => ⟨[0], .wantWrite, drained⟩
  | .sslError _ | .raises        => ⟨[0], .failed, true⟩

/-! ## The registry -/

/-- A row's `extra_attributes`. -/
abbrev Attributes := Dict Str Json

/-- `bool(extra.get("tls_passthrough"))`. -/
def passthrough (extra : Attributes) : Bool := ((extra.get? "tls_passthrough").getD .null).truthy

/-- `previous if isinstance(previous, int) else 0`; a bool is an int. -/
def refusals (extra : Attributes) : Int :=
  match extra.get? "tls_refusals" with
  | some (.int n)  => n
  | some (.bool b) => if b then 1 else 0
  | _              => 0

/-- A value set unless the one that is there is truthy. -/
def setUnless (extra : Attributes) (key : Str) (value : Json) : Attributes :=
  if ((extra.get? key).getD .null).truthy then extra else extra.set key value

/-- What `mark_device_untrusted` makes of a row's attributes. -/
def markedUntrusted (extra : Attributes) (sni : Option Str) (now : Str) : Result Attributes := do
  let extra := Dict.set extra "tls_refusals" (.int (refusals extra + 1))
  let extra := Dict.set extra "tls_last_refusal_at" (.str now)
  let extra := setUnless extra "tls_first_refusal_at" (.str now)
  let extra := Dict.set extra "tls_passthrough" (.bool true)
  let extra := setUnless extra "tls_untrusted_reason" (.str "client_refused_certificate")
  let hostnames ← Json.iter (Json.orElse ((extra.get? "seen_hostnames").getD .null) (.arr []))
  let new := (sni.filter fun sni => sni ≠ [] && !hostnames.any fun hostname => pyEq (.str sni) hostname).toList
  .ok (Dict.set extra "seen_hostnames" (.arr (hostnames ++ new.map .str)))

/-! ## The proxy -/

/-- A connection in its handshake. -/
structure Connection where
  clientIp : Str
  sni : Option Str
deriving DecidableEq

/-- `if sni`. -/
def Connection.named (conn : Connection) : Bool := conn.sni.any (· ≠ [])

structure State where
  /-- The devices, with their attributes. -/
  rows : Dict Str Attributes := []
  /-- `_device_cache`. -/
  cache : Dict Str (Option Attributes) := []
  /-- Rows as some task has selected them. -/
  selected : List (Str × Attributes) := []
  connections : Dict Nat Connection := []
  /-- The devices of the connections that were relayed. -/
  relayed : List Str := []
  /-- The devices of the handshakes that an alert ended. -/
  refused : List Str := []
  /-- The devices for which the operator switched it on. -/
  configured : List Str := []
  /-- The devices for which a handshake that ended otherwise switched it on. -/
  misset : List (Str × Ending) := []

/-- Where `get_device` has a device from. -/
inductive Lookup where
  | cached
  /-- A row that was selected. -/
  | row (i : Nat)
  | fails

inductive Event where
  /-- `get_or_create_device`. -/
  | create (deviceId : Str)
  | remove (deviceId : Str)
  /-- Some task selects a row. -/
  | select (deviceId : Str)
  /-- `get_device` keeps a row it selected, or that there is none. -/
  | keep (deviceId : Str) (i : Option Nat)
  /-- A cached row expires or is dropped. -/
  | forget (deviceId : Str)
  /-- A task commits a row it selected with another attribute changed. -/
  | rewrite (i : Nat) (key : Str) (value : Json)
  /-- The operator sets `passthrough`. -/
  | configure (i : Nat) (value : Json)
  /-- A ClientHello is in, and `resolve_device_id` answers for its address. -/
  | hello (c : Nat) (clientIp : Str) (sni : Option Str) (resolved : Option Str) (lookup : Lookup)
  /-- A handshake goes through some turns; where it ends, `resolve_device_id` answers, and the row is selected if the
      database calls go through. -/
  | handshake (c : Nat) (turns : List Turn) (resolved : Option Str) (i : Option Nat) (now : Str)
  /-- The process is restarted. -/
  | restart

namespace State

/-- A selected row, if it is of the device. -/
def row (s : State) (deviceId : Str) (i : Nat) : Option Attributes :=
  (s.selected[i]?).bind fun r => if r.1 = deviceId then some r.2 else none

/-- `get_device`. -/
def lookUp (s : State) (deviceId : Str) : Lookup → Option Attributes
  | .cached => (s.cache.get? deviceId).join
  | .row i  => s.row deviceId i
  | .fails  => none

/-- `should_relay_tls`, for the device the address resolves to. -/
def shouldRelayTls (s : State) (resolved : Option Str) (lookup : Lookup) : Option Str :=
  resolved.filter fun deviceId => deviceId ≠ [] && (s.lookUp deviceId lookup).any passthrough

variable (selfConnection : Str → Bool)

/-- The device a handshake is of: the one its address resolves to, or one named after the address. -/
def deviceOf (clientIp : Str) (resolved : Option Str) : Str := (resolved.filter (· ≠ [])).getD (deviceIdFromIp clientIp)

/-- What `mark_device_untrusted` commits, where it comes to that: the proxy is no device, the row must be there, and no
    call may raise. -/
def recorded (s : State) (conn : Connection) (deviceId : Str) (i : Option Nat) (now : Str) : Option Attributes :=
  if selfConnection conn.clientIp || !s.rows.has deviceId then none
  else (i.bind (s.row deviceId)).bind fun extra => (markedUntrusted extra conn.sni now).toOption

/-- `mark_device_untrusted`. -/
def markDeviceUntrusted (s : State) (conn : Connection) (deviceId : Str) (i : Option Nat) (now : Str) (ending : Ending) :
    State :=
  match s.recorded selfConnection conn deviceId i now with
  | none       => s
  | some extra =>
    let already := (s.rows.get? deviceId).any passthrough
    { s with
      rows := s.rows.set deviceId extra
      cache := s.cache.erase deviceId
      misset := if ending = .alert || already then s.misset else (deviceId, ending) :: s.misset }

/-- A handshake has ended. -/
def handshakeEnded (s : State) (conn : Connection) (deviceId : Str) (i : Option Nat) (now : Str) (ending : Ending) : State :=
  let refused := if ending = .alert && !selfConnection conn.clientIp then deviceId :: s.refused else s.refused
  let s := { s with refused }
  if ending.handshakeOk = some false && conn.named then s.markDeviceUntrusted selfConnection conn deviceId i now ending
  else s

/-- One event; what cannot happen changes nothing. -/
def next (s : State) : Event → State
  | .create deviceId => { s with rows := s.rows.setDefault deviceId [], cache := s.cache.erase deviceId }
  | .remove deviceId => { s with rows := s.rows.erase deviceId, cache := s.cache.erase deviceId }
  | .select deviceId =>
    match s.rows.get? deviceId with
    | some extra => { s with selected := s.selected ++ [(deviceId, extra)] }
    | none       => s
  | .keep deviceId i => { s with cache := s.cache.set deviceId (i.bind (s.row deviceId)) }
  | .forget deviceId => { s with cache := s.cache.erase deviceId }
  | .rewrite i key value =>
    match s.selected[i]? with
    | some (deviceId, extra) =>
      if key ≠ str "tls_passthrough" ∧ s.rows.has deviceId then
        { s with rows := s.rows.set deviceId (extra.set key value) }
      else s
    | none => s
  | .configure i value =>
    match s.selected[i]? with
    | some (deviceId, extra) =>
      if s.rows.has deviceId then
        { s with
          rows := s.rows.set deviceId (extra.set "tls_passthrough" value)
          cache := s.cache.erase deviceId
          configured := if value.truthy then deviceId :: s.configured else s.configured }
      else s
    | none => s
  | .hello c clientIp sni resolved lookup =>
    let conn : Connection := { clientIp, sni }
    match if conn.named then s.shouldRelayTls resolved lookup else none with
    | some deviceId => { s with relayed := deviceId :: s.relayed }
    | none          => if s.connections.has c then s else { s with connections := s.connections.set c conn }
  | .handshake c turns resolved i now =>
    match s.connections.get? c, pumpTlsHandshake maxAttempts turns with
    | some conn, some ending =>
      let s := { s with connections := s.connections.erase c }
      s.handshakeEnded selfConnection conn (deviceOf conn.clientIp resolved) i now ending
    | _, _ => s
  | .restart => { s with cache := [], selected := [], connections := [] }

/-- The events in their order. -/
def step (s : State) (e : Event) : Option State := some (s.next selfConnection e)

end State

end RideTheApi.Tls.Passthrough
