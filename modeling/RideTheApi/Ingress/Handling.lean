import RideTheApi.Lib.Faulty
import RideTheApi.Pipeline.Correlation

/-!
# `Ingress.Handling` — what becomes of a captured request at each ingress

A request that is forwarded while the device learns is captured: queued in memory and stored as an
uncorrelated row. The handling of a request is a sequence of awaits, each of which may raise (`Await`); which
of them do, and what the others answer (`Answers`), is input. Captures are registered deep inside
`handle_request` and settled by the three callers, each in its own way.
-/

namespace RideTheApi.Ingress

open Correlation Faulty

/-- The two copies of a device's pending requests. -/
structure Copies where
  pending : List Entry
  table : List SessionCache

/-- The points of a handling at which an exception may be raised. -/
inductive Await where
  /-- Everything a caller does before `orchestrator.handle_request`. -/
  | prelude
  | getDevice
  | findBestMatch
  /-- `build_local_response` and `persist_state`. -/
  | serveLocally
  /-- `tracker.record_result` in `handle_request`. -/
  | recordResult
  /-- Building the pipeline of the device, before its first registration. -/
  | ensureBuffer
  /-- The `INSERT` of `register_request`. -/
  | insertRow
  /-- The upstream exchange. -/
  | forward
  /-- Normalising and redacting the upstream response, before `match_response` looks at either copy. -/
  | readResponse
  /-- The `UPDATE` of `match_response`. -/
  | markRow
  /-- What `handle_response` does with a pair. -/
  | learnPair
  /-- Building or sending the reply. -/
  | reply
  /-- `tracker.record_result` in `discard_request`. -/
  | recordError
  /-- The `DELETE` of `discard_request`. -/
  | deleteRow
deriving DecidableEq

inductive Mode where
  | learning
  | hybrid
  | production
  | passthrough
deriving DecidableEq

/-- What the awaits answer that do not raise. -/
structure Answers where
  /-- A block rule, a bypass or another decision of the caller keeps the request from the pipeline. -/
  refused : Bool
  /-- The mode of the device, or none when it is not registered. -/
  device : Option Mode
  /-- The best match reaches the threshold, or the LLM confirms it. -/
  confident : Bool
  noFallback : Bool
  signalForward : Bool
  cloudSuccess : Bool
deriving DecidableEq

/-- The action of a handling, with the correlation key of what it captured. -/
inductive Action where
  | localResponse
  | forward (correlationKey : Option String)
  | noFallback
deriving DecidableEq

/-- The correlation key a result carries. -/
def Action.correlationKey : Action → Option String
  | .forward key => key
  | _            => none

section
variable (x : Await → Bool) (a : Answers) (deviceId : String)

/-! ## The pipeline -/

/-- `_register_for_learning` and `register_request`: the entry is queued before its row is inserted. -/
def registerRequest (entry : Entry) (createdAt : Int) : Faulty Copies String := do
  raiseIf (x .ensureBuffer)
  modify fun s => { s with pending := appendPending s.pending entry }
  raiseIf (x .insertRow)
  modify fun s => { s with table := s.table ++ [entry.toRow createdAt] }
  pure entry.correlationKey

/-- `discard_request`: the entry leaves the queue, is counted as an error, and its row is deleted. -/
def discardRequest (key : String) (countAsError : Bool) : Faulty Copies Unit := do
  let s ← get
  let removed := s.pending.any fun entry => entry.correlationKey == key
  set { s with pending := s.pending.eraseP fun entry => entry.correlationKey == key }
  raiseIf (removed && countAsError && x .recordError)
  raiseIf (x .deleteRow)
  modify fun s => { s with table := deleteUncorrelated s.table deviceId key }

/-- `match_response`: the entry is popped and its row marked, or else a row is claimed, by its key or as the
    first of the fallback's protocol. Whether there is a pair. -/
def matchResponse (key : Option String) (resp : Response) (pairTtlHours now : Int) : Faulty Copies Bool := do
  let cutoff := now - correlationMaxAge pairTtlHours
  let s ← get
  match popPending s.pending resp.protocol key cutoff with
  | some (entry, rest) =>
    set { s with pending := rest }
    raiseIf (x .markRow)
    modify fun s => { s with table := updateMatched s.table entry.correlationKey resp now }
    pure true
  | none =>
    raiseIf (x .markRow)
    let claimed := match key with
      | some key => if s.table.any (claimable key) then some key else none
      | none     => ((selectUncorrelated s.table deviceId cutoff).find? fun row =>
          row.protocol == resp.protocol).map (·.correlationKey)
    match claimed with
    | none     => pure false
    | some key =>
      modify fun s => { s with table := updateClaim s.table key resp now }
      pure true

/-- `handle_response`: a pair is buffered. -/
def handleResponse (key : Option String) (resp : Response) (pairTtlHours now : Int) : Faulty Copies Unit := do
  raiseIf (x .readResponse)
  let paired ← matchResponse x deviceId key resp pairTtlHours now
  raiseIf (paired && x .learnPair)

/-- `_handle_learning`: captured first; the shadow match cannot fail the request. -/
def handleLearning (entry : Entry) (now : Int) : Faulty Copies Action := do
  let key ← registerRequest x entry now
  raiseIf (x .recordResult)
  pure (.forward (some key))

/-- The local hit of the production and hybrid modes. -/
def serveLocally : Faulty Copies Action := do
  raiseIf (x .serveLocally)
  raiseIf (x .recordResult)
  pure .localResponse

/-- `_handle_hybrid`: a miss is captured before it is counted. -/
def handleHybrid (entry : Entry) (now : Int) : Faulty Copies Action := do
  raiseIf (x .findBestMatch)
  if a.confident then serveLocally x
  else
    let key ← registerRequest x entry now
    raiseIf (x .recordResult)
    pure (.forward (some key))

/-- `_handle_production`: a miss is counted before it is captured. -/
def handleProduction (entry : Entry) (now : Int) : Faulty Copies Action := do
  raiseIf (x .findBestMatch)
  if a.confident then serveLocally x
  else
    raiseIf (x .recordResult)
    if a.noFallback then pure .noFallback
    else
      let key ← registerRequest x entry now
      pure (.forward (some key))

/-- `handle_request`. -/
def handleRequest (entry : Entry) (now : Int) : Faulty Copies Action := do
  raiseIf (x .getDevice)
  match a.device with
  | none              => pure (.forward none)
  | some .passthrough => pure (.forward none)
  | some .learning    => handleLearning x entry now
  | some .hybrid      => handleHybrid x a entry now
  | some .production  => handleProduction x a entry now

/-! ## The ingresses -/

/-- `_discard_pending_capture`: best effort. -/
def discardPendingCapture (key : Option String) (countAsError : Bool) : Faulty Copies Unit :=
  match key with
  | none     => pure ()
  | some key => ignore (discardRequest x deviceId key countAsError)

/-- What the plain proxy route does with the result of `handle_request`. -/
def proxyRouteResult (resp : Response) (pairTtlHours now : Int) : Action → Faulty Copies Unit
  | .localResponse => raiseIf (x .reply)
  | .noFallback    => pure ()
  | .forward key   => do
    if a.signalForward then discardPendingCapture x deviceId key false
    else
      raiseIf (x .forward)
      if a.cloudSuccess then
        handleResponse x deviceId key resp pairTtlHours now
        raiseIf (x .reply)
      else discardPendingCapture x deviceId key true

/-- The plain proxy route: an exception after `handle_request` discards what its result captured. -/
def proxyVendorRequest (entry : Entry) (resp : Response) (pairTtlHours now : Int) : Faulty Copies Unit := do
  if a.refused then pure ()
  else
    let result ← attempt do
      raiseIf (x .prelude)
      handleRequest x a entry now
    match result with
    | none        => discardPendingCapture x deviceId none true
    | some action =>
      let done ← attempt (proxyRouteResult x a deviceId resp pairTtlHours now action)
      if done.isNone then discardPendingCapture x deviceId action.correlationKey true

/-- `handle_tls_decrypted_request`: an exception leaves no result. -/
def handleTlsDecryptedRequest (entry : Entry) (now : Int) : Faulty Copies (Option Action) := attempt do
  raiseIf (x .prelude)
  if a.refused then pure (.forward none)
  else handleRequest x a entry now

/-- What the TLS listener does with the result of its handler: it exchanges with the upstream itself and
    records the response or the failure, either of which is only logged when it raises. -/
def tlsListenerResult (resp : Response) (pairTtlHours now : Int) : Option Action → Faulty Copies Unit
  | some (.forward (some key)) =>
    if a.cloudSuccess && !x .forward then ignore (handleResponse x deviceId (some key) resp pairTtlHours now)
    else ignore (discardRequest x deviceId key true)
  | _ => pure ()

/-- The TLS listener, from the handler on. -/
def handleConnection (entry : Entry) (resp : Response) (pairTtlHours now : Int) : Faulty Copies Unit := do
  let result ← handleTlsDecryptedRequest x a entry now
  tlsListenerResult x a deviceId resp pairTtlHours now result
  raiseIf (x .reply)

/-- The handler of the protocol servers, which serve a local response and drop any other result. -/
def handleProtocolRequest (entry : Entry) (now : Int) : Faulty Copies (Option Action) := attempt do
  raiseIf (x .prelude)
  if a.refused then pure (.forward none)
  else handleRequest x a entry now

/-- A way for a request to come in. -/
inductive IngressKind where
  | proxyRoute
  | tlsListener
  | protocolServer
deriving DecidableEq

/-- The copies of the pending requests once the handling of a request has ended. -/
def handled (ingress : IngressKind) (entry : Entry) (resp : Response) (pairTtlHours now : Int) (s : Copies) :
    Copies :=
  match ingress with
  | .proxyRoute     => (proxyVendorRequest x a deviceId entry resp pairTtlHours now s).2
  | .tlsListener    => (handleConnection x a deviceId entry resp pairTtlHours now s).2
  | .protocolServer => (handleProtocolRequest x a entry now s).2

end

end RideTheApi.Ingress
