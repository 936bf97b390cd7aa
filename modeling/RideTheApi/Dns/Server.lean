import RideTheApi.Dns.Policy
import RideTheApi.Lib.Transition
import RideTheApi.Py.Codec

/-!
# `Dns.Server` — the server: queries on their way, datagrams and connections

`handle_query` runs until it asks an upstream resolver, and goes on when that answers or fails, so a run is any
interleaving of queries with answers, new settings, cancellations and what the clients send. A query keeps the list of
resolvers it started with: new settings replace the list. Messages are read, made and written by dnspython
(`Dnspython`); sockets are bound already.

Beside what the code keeps, a query records the settings it started under and what it has asked, and a connection all
it has received. What `_note_query` hands on is in `Discovery.Recorder`.
-/

namespace RideTheApi.Dns

open Py Transition

namespace Server

/-- `query.question[0]`. -/
structure Question where
  name : Str
  rdtype : Nat
deriving Repr, DecidableEq

/-- What the server uses of dnspython, for queries of `Q` and messages of `M`; `none` is an exception. -/
structure Dnspython (Q M : Type) where
  fromWire : Bytes → Option Q
  question : Q → List Question
  makeResponse : Q → Option M
  /-- `response.answer.append(rrset.from_text(name, ttl, IN, A, ip))`. -/
  addAddress : M → Str → Int → Str → Option M
  /-- `response.set_rcode(SERVFAIL)`. -/
  setServfail : M → M
  /-- `response.flags & TC`. -/
  truncated : M → Bool
  toWire : M → Option Bytes

/-- `DNSConfig`, as far as the interceptor reads it. -/
structure DnsConfig where
  intercept : List Str := []
  interceptAll : Bool := false
  exclude : List Str := defaultDnsExclusions
  answerIp : Str := []
  answerTtl : Int := 60
  dnsServers : List Str := [str "8.8.8.8", str "1.1.1.1"]
  dnsServersV6 : List Str := [str "2001:4860:4860::8888", str "2606:4700:4700::1111"]
deriving Repr, DecidableEq

/-- The settings of an interceptor. -/
structure Settings extends Interceptor where
  answerIp : Str
  ttl : Int
  upstreams : List Str
deriving Repr, DecidableEq

/-- `DNSInterceptor(config)`, for the address that would be detected. -/
def Settings.create (cfg : DnsConfig) (adapterHostnames : List Str) (detected : Str) : Settings :=
  { patterns := cfg.intercept, exclude := cfg.exclude, interceptAll := cfg.interceptAll, adapterHostnames
    answerIp := if cfg.answerIp ≠ [] then cfg.answerIp else detected
    ttl := cfg.answerTtl, upstreams := cfg.dnsServers ++ cfg.dnsServersV6 }

/-- `apply_settings`. -/
def Settings.applySettings (settings : Settings) (cfg : DnsConfig) (detected : Str) : Settings :=
  { settings with
    patterns := cfg.intercept, exclude := cfg.exclude, interceptAll := cfg.interceptAll
    answerIp :=
      if cfg.answerIp ≠ [] then cfg.answerIp else if settings.answerIp ≠ [] then settings.answerIp else detected
    ttl := cfg.answerTtl, upstreams := cfg.dnsServers ++ cfg.dnsServersV6 }

/-- The counters of `stats`. -/
inductive Counter where
  | intercepted
  | forwarded
  | excluded
  | tcpRetries
  | refused
  | errors
deriving Repr, DecidableEq

/-- Where a query came from: an address, or a connection by its number. -/
inductive Origin where
  | udp (client : Str)
  | tcp (conn : Nat)
deriving Repr, DecidableEq

/-- An upstream was asked, by UDP or TCP, and answered or failed. -/
structure Exchange (M : Type) where
  server : Str
  overTcp : Bool
  answer : Option M
deriving Repr, DecidableEq

/-- How far `handle_query` is: it waits for a resolver, with those that are left, or is over. -/
inductive Phase (Q : Type) where
  | udp (query : Q) (server : Str) (rest : List Str)
  | tcp (query : Q) (server : Str) (rest : List Str)
  | returned (response : Option Bytes)
  | raised
  | cancelled
deriving Repr, DecidableEq

def Phase.over {Q : Type} : Phase Q → Bool
  | .udp .. | .tcp .. => false
  | _ => true

/-- A call of `handle_query`. -/
structure Task (Q M : Type) where
  origin : Origin
  data : Bytes
  client : Str
  settings : Settings
  exchanges : List (Exchange M) := []
  phase : Phase Q
deriving Repr, DecidableEq

inductive Stage where
  /-- `_handle_tcp` waits for bytes. -/
  | reading
  /-- … for a query. -/
  | waiting
  | closed
deriving Repr, DecidableEq

/-- How a connection broke: with a `ConnectionError` or a `TimeoutError`, or with another exception. -/
inductive Break where
  | expected
  | other
deriving Repr, DecidableEq

/-- A connection: what came in and was not read yet, whether more may come, what was written, and whether an exception
    that is not expected ended it. -/
structure Conn where
  peer : Str
  input : Bytes := []
  ended : Bool := false
  broken : Option Break := none
  output : Bytes := []
  status : Stage := .reading
  failed : Bool := false
  received : Bytes := []
deriving Repr, DecidableEq

/-- The server: its settings and counters, the queries that arrived, the connections, and the datagrams sent. -/
structure State (Q M : Type) where
  settings : Settings
  stats : Counter → Nat := fun _ => 0
  tasks : List (Task Q M) := []
  conns : List Conn := []
  sent : List (Str × Bytes) := []

inductive Label (M : Type) where
  /-- `_reply` starts for a datagram. -/
  | datagram (client : Str) (data : Bytes)
  | connect (peer : Str)
  | receive (conn : Nat) (bytes : Bytes)
  /-- The client has sent all it will. -/
  | eof (conn : Nat)
  | lost (conn : Nat) (how : Break)
  /-- `_handle_tcp` reads a message, or finds that none comes. -/
  | read (conn : Nat)
  /-- A resolver answered, or the exchange failed. -/
  | answered (task : Nat) (answer : Option M)
  | cancel (task : Nat)
  | applySettings (cfg : DnsConfig) (detected : Str)

/-! ## `handle_query` -/

section
variable {Q M : Type} (H : Host) (D : Dnspython Q M)

/-- `_split_upstream`: `none` when `int` raises. -/
def splitUpstream (server : Str) : Option (Str × Nat) :=
  let port := (server.dropWhile (· != cp ':')).drop 1
  if server.count (cp ':') = 1 ∧ H.strIsDigit port = true then
    (H.parseDigits port).toOption.map fun n => (server.takeWhile (· != cp ':'), n)
  else some (server, 53)

/-- `_intercept_response`. -/
def interceptResponse (settings : Settings) (query : Q) (question : Question) : Option M := do
  let response ← D.makeResponse query
  if question.rdtype = 1 then D.addAddress response question.name settings.ttl settings.answerIp else some response

/-- `_servfail`. -/
def servfail (query : Q) : Option M := (D.makeResponse query).map D.setServfail

/-- A message is returned on the wire. -/
def Phase.ofWire (message : Option M) : Phase Q :=
  match message.bind D.toWire with
  | some wire => .returned (some wire)
  | none      => .raised

/-- `_forward` comes to the next resolver; when none is left, `handle_query` returns a failure. -/
def nextUpstream (query : Q) : List Str → Phase Q × List Counter
  | []             => (Phase.ofWire D (servfail D query), [.refused])
  | server :: rest => if (splitUpstream H server).isSome then (.udp query server rest, []) else (.raised, [])

/-- `handle_query` until it asks a resolver, and what it counts. -/
def handleQuery (fromSelf : Bool) (settings : Settings) (data : Bytes) : Phase Q × List Counter :=
  match D.fromWire data with
  | none       => (.returned none, [.errors])
  | some query =>
    match D.question query with
    | []            => (.returned none, [])
    | question :: _ =>
      match classify H settings.toInterceptor (H.lowerStr question.name) fromSelf with
      | .intercepted => (Phase.ofWire D (interceptResponse D settings query question), [.intercepted])
      | .excluded    =>
        let (phase, counted) := nextUpstream H D query settings.upstreams
        (phase, .excluded :: .forwarded :: counted)
      | .forwarded   =>
        let (phase, counted) := nextUpstream H D query settings.upstreams
        (phase, .forwarded :: counted)

/-- `_forward` goes on with what the resolver did; `_retry_over_tcp` in between. -/
def resume : Phase Q → Option M → Option (Exchange M × Phase Q × List Counter)
  | .udp query server rest, answer =>
    some (⟨server, false, answer⟩, match answer with
      | none   => nextUpstream H D query rest
      | some m => if D.truncated m then (.tcp query server rest, []) else (Phase.ofWire D (some m), []))
  | .tcp query server rest, answer =>
    some (⟨server, true, answer⟩, match answer with
      | none   => nextUpstream H D query rest
      | some m => (Phase.ofWire D (some m), [.tcpRetries]))
  | _, _ => none

end

/-! ## The transports -/

/-- A 16-bit length in front of a message. -/
def frame (message : Bytes) : Bytes :=
  Fin.ofNat 256 (message.length / 256) :: Fin.ofNat 256 (message.length % 256) :: message

/-- What `readexactly` finds: a message with the rest, a length of zero, or too little. -/
inductive Reading where
  | message (payload rest : Bytes)
  | malformed
  | incomplete
deriving Repr, DecidableEq

def readFrame : Bytes → Reading
  | high :: low :: rest =>
    let length := 256 * high.val + low.val
    if length = 0 then .malformed
    else if rest.length < length then .incomplete
    else .message (rest.take length) (rest.drop length)
  | _ => .incomplete

variable {Q M : Type}

/-- Counters go up. -/
def State.count (s : State Q M) (counted : List Counter) : State Q M :=
  { s with stats := fun k => s.stats k + counted.count k }

def State.setConn (s : State Q M) (i : Nat) (c : Conn) : State Q M := { s with conns := s.conns.set i c }

/-- A connection becomes another, and counts. -/
def State.turn (s : State Q M) (i : Nat) (next : Conn × List Counter) : State Q M :=
  (s.setConn i next.1).count next.2

/-- `_handle_tcp` ends, with an exception that is counted or without. -/
def Conn.close (c : Conn) (failed : Bool) : Conn × List Counter :=
  ({ c with status := .closed, failed }, if failed then [.errors] else [])

/-- `_handle_tcp` goes on when `handle_query` is over. -/
def tcpReply (c : Conn) : Phase Q → Conn × List Counter
  | .returned (some wire) =>
    -- `to_bytes(2)` raises on a message that is too long.
    if 65535 < wire.length then c.close true
    else match c.broken with
      | some how => c.close (how = .other)
      | none     => ({ c with output := c.output ++ frame wire, status := .reading }, [])
  | .raised => c.close true
  | _       => c.close false

/-- What comes of a query that is over. -/
def deliver (s : State Q M) (origin : Origin) (phase : Phase Q) : State Q M :=
  if phase.over then
    match origin with
    | .udp client =>
      match phase with
      | .returned (some (b :: wire)) => { s with sent := s.sent ++ [(client, b :: wire)] }
      | _ => s
    | .tcp i =>
      match s.conns[i]? with
      | some c => s.turn i (tcpReply c phase)
      | none   => s
  else s

section
variable (H : Host) (D : Dnspython Q M) (isSelf : Str → Bool)

/-- A call of `handle_query` starts. -/
def start (s : State Q M) (origin : Origin) (client : Str) (data : Bytes) : State Q M :=
  let handled := handleQuery H D (isSelf client) s.settings data
  let task := { origin, data, client, settings := s.settings, phase := handled.1 }
  deliver ({ s with tasks := s.tasks ++ [task] }.count handled.2) origin handled.1

/-- `_handle_tcp` reads. -/
def readConn (s : State Q M) (i : Nat) (c : Conn) : Option (State Q M) :=
  match c.status, readFrame c.input with
  | .reading, .message payload rest =>
    some (start H D isSelf (s.setConn i { c with input := rest, status := .waiting }) (.tcp i) c.peer payload)
  | .reading, .malformed  => some (s.turn i (c.close false))
  | .reading, .incomplete => if c.ended then some (s.turn i (c.close false)) else none
  | _, _                  => none

/-- A query goes on. -/
def goOn (s : State Q M) (i : Nat) (t : Task Q M) (answer : Option M) : Option (State Q M) :=
  (resume H D t.phase answer).map fun next =>
    deliver ({ s with tasks := s.tasks.set i { t with exchanges := t.exchanges ++ [next.1], phase := next.2.1 } }.count
      next.2.2) t.origin next.2.1

/-- One step; `none` when it cannot happen. -/
def step (s : State Q M) : Label M → Option (State Q M)
  | .datagram client data => some (start H D isSelf s (.udp client) client data)
  | .connect peer => some { s with conns := s.conns ++ [{ peer }] }
  | .receive i bytes =>
    (s.conns[i]?).bind fun c =>
      if c.ended || c.status = .closed then none
      else some (s.setConn i { c with input := c.input ++ bytes, received := c.received ++ bytes })
  | .eof i => (s.conns[i]?).map fun c => s.setConn i { c with ended := true }
  | .lost i how =>
    (s.conns[i]?).bind fun c =>
      let c' := { c with ended := true, broken := some how }
      if c.broken.isSome then none
      else if c.status = .reading then some (s.turn i (c'.close (how = .other))) else some (s.setConn i c')
  | .read i => (s.conns[i]?).bind fun c => readConn H D isSelf s i c
  | .answered i answer => (s.tasks[i]?).bind fun t => goOn H D s i t answer
  | .cancel i =>
    (s.tasks[i]?).bind fun t =>
      if t.phase.over then none
      else some (deliver { s with tasks := s.tasks.set i { t with phase := .cancelled } } t.origin .cancelled)
  | .applySettings cfg detected => some { s with settings := s.settings.applySettings cfg detected }

end

/-- The server that was set up with some settings. -/
def initial (settings : Settings) : State Q M := { settings }

end Server

end RideTheApi.Dns
