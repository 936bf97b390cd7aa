import Mathlib.Data.List.Sort
import RideTheApi.Lib.Transition
import RideTheApi.Py.Value

/-!
# `Pipeline.Correlation` — request/response correlation, cut at its await points

One device's `LearningPipeline`: the in-memory pending queue (`_correlation_cache[device_id]`) and the
`SessionCache` table, with every call of `register_request`, `match_response` and `discard_request` as a
coroutine that runs from one await to the next. A label either starts a call (its code up to the first
await) or resumes one (the next SQL statement and the code up to the await after it); each SQL statement
is atomic. Calls stay in the list once they have returned, with the value they returned.

Headers, bodies and query maps pass through `core/redaction.py` on the way in (`Redactors`); correlation
never looks inside them.
-/

namespace RideTheApi
namespace Correlation

open Py

/-- `redact_headers`, `redact_query` and `redact_body`. -/
structure Redactors where
  redactHeaders : Json → Json
  redactQuery : Json → Json
  redactBody : Json → Json

/-- The dict `register_request` appends to the pending queue. -/
structure Entry where
  correlationKey : String
  deviceId : String
  vendor : String
  protocol : String
  method : String
  path : String
  headers : Json
  body : Json
  queryParams : Json
  enrichment : Option Json
  timestamp : Int

/-- A `SessionCache` row (the columns correlation reads or writes). -/
structure SessionCache where
  deviceId : String
  correlationKey : String
  method : String
  path : String
  headers : Json
  body : Json
  queryParams : Json
  protocol : String
  createdAt : Int
  correlated : Bool
  correlatedAt : Option Int
  responseStatus : Option Int
  responseHeaders : Json
  responseBody : Json

/-- A returned `CorrelatedPair`. -/
structure CorrelatedPair where
  pairId : String
  deviceId : String
  vendor : String
  protocol : String
  method : String
  path : String
  requestHeaders : Json
  requestBody : Json
  requestQuery : Json
  responseStatus : Int
  responseHeaders : Json
  responseBody : Json
  latencyMs : Int
  correlationConfidence : Rat
  timestamp : Int
  enrichment : Option Json

/-- The arguments of `match_response` after redaction. -/
structure Response where
  vendor : String
  protocol : String
  statusCode : Int
  headers : Json
  body : Json

/-- Where a coroutine stands: suspended before its next SQL statement, or returned. -/
inductive Call where
  /-- `register_request`: the entry is queued, the `INSERT` is still to come. -/
  | registering (entry : Entry)
  | registered (correlationKey : String)
  /-- `match_response`: `matched` was popped from memory, its row is still to be marked. -/
  | marking (resp : Response) (matched : Entry)
  /-- `_claim_keyed_row`: the claiming `UPDATE` is still to come. -/
  | claimingKeyed (resp : Response) (correlationKey : String)
  /-- `_claim_keyed_row`: claimed, the `SELECT` of the row is still to come. -/
  | readingKeyed (resp : Response) (correlationKey : String)
  /-- Keyless fallback: the `SELECT … LIMIT 10` is still to come. -/
  | selecting (resp : Response) (cutoff : Int)
  /-- Keyless fallback: inside the loop over the selected rows. -/
  | scanning (resp : Response) (rows : List SessionCache)
  /-- The pair is built; the last session of `match_response` is still to be opened. -/
  | storing (correlationKey : String) (pair : CorrelatedPair)
  /-- `match_response` returned; a pair comes with the key of the request it consumed. -/
  | matched (result : Option (String × CorrelatedPair))
  /-- `discard_request`: the `DELETE` is still to come. -/
  | discarding (correlationKey : String) (removedFromMemory : Bool)
  | discarded (correlationKey : String) (result : Bool)
  /-- `scalar_one_or_none` raised `MultipleResultsFound`. -/
  | failed

/-- The state of one device's pipeline. -/
structure State where
  deviceId : String
  pending : List Entry
  table : List SessionCache
  calls : List Call

/-- One scheduling choice. `now` is what the clock reads there; it is not assumed to be monotone. -/
inductive Label where
  | registerRequest (vendor protocol method path : String) (headers body queryParams : Json)
      (enrichment : Option Json) (uuid : String) (now : Int)
  | matchResponse (vendor protocol : String) (statusCode : Int) (headers body : Json)
      (correlationKey : Option String) (pairTtlHours : Int) (now : Int)
  | discardRequest (correlationKey : String)
  | resume (call : Nat) (uuid : String) (now : Int)

/-! ## The pieces of the source -/

/-- `f"{device_id}:{method}:{path}:{uuid4().hex[:8]}"`. -/
def corrKey (deviceId method path uuid : String) : String :=
  deviceId ++ ":" ++ method ++ ":" ++ path ++ ":" ++ uuid

/-- `deque(maxlen=1000)`. -/
def correlationCacheMaxlen : Nat := 1000

/-- `deque.append` with a bound: the oldest entry falls out. -/
def appendPending (pending : List Entry) (entry : Entry) : List Entry :=
  (pending ++ [entry]).drop (pending.length + 1 - correlationCacheMaxlen)

/-- `_correlation_max_age`, in seconds. -/
def correlationMaxAge (pairTtlHours : Int) : Int := max pairTtlHours 1 * 3600

/-- `_older_than` on an aware timestamp. -/
def olderThan (timestamp cutoff : Int) : Bool := timestamp < cutoff

/-- The test of `_pop_pending`'s loop: with a key only that request, without one a request of the same
    protocol inside the window. -/
def qualifies (protocol : String) (correlationKey : Option String) (cutoff : Int) (entry : Entry) :
    Bool :=
  match correlationKey with
  | some key => entry.correlationKey == key
  | none     => entry.protocol == protocol && !olderThan entry.timestamp cutoff

/-- `_pop_pending`: the first qualifying entry and the queue without it. -/
def popPending (pending : List Entry) (protocol : String) (correlationKey : Option String)
    (cutoff : Int) : Option (Entry × List Entry) :=
  (pending.find? (qualifies protocol correlationKey cutoff)).map fun entry =>
    (entry, pending.eraseP (qualifies protocol correlationKey cutoff))

/-- The `.values(correlated=True, …)` of the three `UPDATE`s. -/
def SessionCache.mark (row : SessionCache) (resp : Response) (now : Int) : SessionCache :=
  { row with correlated := true, correlatedAt := some now, responseStatus := some resp.statusCode,
             responseHeaders := resp.headers, responseBody := resp.body }

/-- `UPDATE session_cache … WHERE correlation_key = key`. -/
def updateMatched (table : List SessionCache) (key : String) (resp : Response) (now : Int) :
    List SessionCache :=
  table.map fun row => if row.correlationKey = key then row.mark resp now else row

/-- The rows a claim or a discard of `key` may take. -/
def claimable (key : String) (row : SessionCache) : Bool :=
  row.correlationKey == key && !row.correlated

/-- `UPDATE session_cache … WHERE correlation_key = key AND correlated = 0`. -/
def updateClaim (table : List SessionCache) (key : String) (resp : Response) (now : Int) :
    List SessionCache :=
  table.map fun row => if claimable key row then row.mark resp now else row

/-- `DELETE FROM session_cache WHERE device_id = … AND correlation_key = key AND correlated = 0`. -/
def deleteUncorrelated (table : List SessionCache) (deviceId key : String) : List SessionCache :=
  table.filter fun row => !(row.deviceId == deviceId && claimable key row)

/-- The keyless fallback's `SELECT … ORDER BY created_at DESC LIMIT 10`. -/
def selectUncorrelated (table : List SessionCache) (deviceId : String) (cutoff : Int) :
    List SessionCache :=
  ((table.filter fun row =>
      row.deviceId == deviceId && !row.correlated && decide (cutoff ≤ row.createdAt)).insertionSort
    fun a b => b.createdAt ≤ a.createdAt).take 10

/-- The row `register_request` inserts; `created_at` is the server's clock. -/
def Entry.toRow (entry : Entry) (createdAt : Int) : SessionCache :=
  { deviceId := entry.deviceId, correlationKey := entry.correlationKey, method := entry.method,
    path := entry.path, headers := entry.headers, body := entry.body,
    queryParams := entry.queryParams, protocol := entry.protocol, createdAt := createdAt,
    correlated := false, correlatedAt := none, responseStatus := none,
    responseHeaders := .obj [], responseBody := .null }

/-- The `matched` dict built from a claimed row (vendor and protocol are the response's). -/
def SessionCache.toMatched (row : SessionCache) (deviceId : String) (resp : Response) : Entry :=
  { correlationKey := row.correlationKey, deviceId := deviceId, vendor := resp.vendor,
    protocol := resp.protocol, method := row.method, path := row.path, headers := row.headers,
    body := row.body, queryParams := row.queryParams, enrichment := none,
    timestamp := row.createdAt }

/-- The `CorrelatedPair` of a matched request. -/
def correlatedPair (deviceId : String) (matched : Entry) (resp : Response) (uuid : String)
    (now : Int) : CorrelatedPair :=
  { pairId := uuid, deviceId := deviceId, vendor := resp.vendor, protocol := resp.protocol,
    method := matched.method, path := matched.path, requestHeaders := matched.headers,
    requestBody := matched.body, requestQuery := matched.queryParams,
    responseStatus := resp.statusCode, responseHeaders := resp.headers, responseBody := resp.body,
    latencyMs := (now - matched.timestamp) * 1000, correlationConfidence := 4 / 5,
    timestamp := now, enrichment := matched.enrichment }

/-! ## The coroutines -/

/-- Start a coroutine. -/
def State.addCall (s : State) (call : Call) : State := { s with calls := s.calls ++ [call] }

/-- Suspend (or return from) coroutine `i` at `call`. -/
def State.setCall (s : State) (i : Nat) (call : Call) : State :=
  { s with calls := s.calls.set i call }

/-- `register_request` up to its first await: key, entry, append. -/
def registerRequest (R : Redactors) (s : State) (vendor protocol method path : String)
    (headers body queryParams : Json) (enrichment : Option Json) (uuid : String) (now : Int) :
    State :=
  let entry : Entry :=
    { correlationKey := corrKey s.deviceId method path uuid, deviceId := s.deviceId,
      vendor := vendor, protocol := protocol, method := method, path := path,
      headers := R.redactHeaders headers, body := R.redactBody body,
      queryParams := R.redactQuery queryParams, enrichment := enrichment, timestamp := now }
  { s with pending := appendPending s.pending entry }.addCall (.registering entry)

/-- `match_response` up to its first await: cutoff, `_pop_pending`, choice of the path to the table. -/
def matchResponse (R : Redactors) (s : State) (vendor protocol : String) (statusCode : Int)
    (headers body : Json) (correlationKey : Option String) (pairTtlHours now : Int) : State :=
  let resp : Response :=
    { vendor := vendor, protocol := protocol, statusCode := statusCode,
      headers := R.redactHeaders headers, body := R.redactBody body }
  let cutoff := now - correlationMaxAge pairTtlHours
  match popPending s.pending protocol correlationKey cutoff with
  | some (entry, rest) => { s with pending := rest }.addCall (.marking resp entry)
  | none =>
    match correlationKey with
    | some key => s.addCall (.claimingKeyed resp key)
    | none     => s.addCall (.selecting resp cutoff)

/-- `discard_request` up to its first await: removal from memory (the tracker's counter, when the
    removal counts as an error, is awaited here too and touches neither copy). -/
def discardRequest (s : State) (key : String) : State :=
  let removed := s.pending.any fun entry => entry.correlationKey == key
  { s with pending := s.pending.eraseP fun entry => entry.correlationKey == key }.addCall
    (.discarding key removed)

/-- The pair a claimed row is returned as. -/
def claimedPair (s : State) (row : SessionCache) (resp : Response) (uuid : String) (now : Int) :
    CorrelatedPair :=
  correlatedPair s.deviceId (row.toMatched s.deviceId resp) resp uuid now

/-- Resume one suspended call: its next SQL statement and the code up to the following await. A call
    that has returned is never resumed. -/
def resume (s : State) (i : Nat) (uuid : String) (now : Int) : Option State :=
  match s.calls[i]? with
  | some (.registering entry) =>
    some ({ s with table := s.table ++ [entry.toRow now] }.setCall i
      (.registered entry.correlationKey))
  | some (.marking resp entry) =>
    some ({ s with table := updateMatched s.table entry.correlationKey resp now }.setCall i
      (.storing entry.correlationKey (correlatedPair s.deviceId entry resp uuid now)))
  | some (.claimingKeyed resp key) =>
    if s.table.any (claimable key) then
      some ({ s with table := updateClaim s.table key resp now }.setCall i (.readingKeyed resp key))
    else
      some (s.setCall i (.matched none))
  | some (.readingKeyed resp key) =>
    match s.table.filter fun row => row.correlationKey == key with
    | []    => some (s.setCall i (.matched none))
    | [row] => some (s.setCall i (.storing key (claimedPair s row resp uuid now)))
    | _     => some (s.setCall i .failed)
  | some (.selecting resp cutoff) =>
    some (s.setCall i (.scanning resp (selectUncorrelated s.table s.deviceId cutoff)))
  | some (.scanning resp rows) =>
    -- rows of another protocol are skipped without a statement
    match rows.dropWhile fun row => row.protocol != resp.protocol with
    | []          => some (s.setCall i (.matched none))
    | row :: rest =>
      if s.table.any (claimable row.correlationKey) then
        some ({ s with table := updateClaim s.table row.correlationKey resp now }.setCall i
          (.storing row.correlationKey (claimedPair s row resp uuid now)))
      else
        some (s.setCall i (.scanning resp rest))
  | some (.storing key pair) => some (s.setCall i (.matched (some (key, pair))))
  | some (.discarding key removed) =>
    let hit := s.table.any fun row => row.deviceId == s.deviceId && claimable key row
    some ({ s with table := deleteUncorrelated s.table s.deviceId key }.setCall i
      (.discarded key (removed || hit)))
  | _ => none

/-- One step of the pipeline. -/
def step (R : Redactors) (s : State) : Label → Option State
  | .registerRequest vendor protocol method path headers body queryParams enrichment uuid now =>
    some (registerRequest R s vendor protocol method path headers body queryParams enrichment uuid
      now)
  | .matchResponse vendor protocol statusCode headers body correlationKey pairTtlHours now =>
    some (matchResponse R s vendor protocol statusCode headers body correlationKey pairTtlHours now)
  | .discardRequest key => some (discardRequest s key)
  | .resume i uuid now => resume s i uuid now

/-- A device's pipeline before its first request. -/
def init (deviceId : String) : State := ⟨deviceId, [], [], []⟩

end Correlation
end RideTheApi
