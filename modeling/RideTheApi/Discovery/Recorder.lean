import RideTheApi.Discovery.QueryLog
import RideTheApi.Lib.Transition

/-!
# `Discovery.Recorder` — DNS observations counted in memory and flushed in batches

`note` is synchronous. `flush` swaps the live table out under the lock, awaits the sink with the batch in hand
and puts it back if the write did not take effect; `clear` empties memory, then awaits the sink under the same
lock. A label is what runs between two awaits, so a list of labels is one interleaving of the three. After a
write, `flush` prunes the log outside the lock.

The state also remembers the notes accepted since the last clear, newest first; nothing reads them.
-/

namespace RideTheApi.Discovery

open Py

/-- What the recorder was built with. `upper` is `str.upper`. -/
structure Settings where
  interp : Interp
  upper : Str → Str
  hasSink : Bool
  enabled : Bool
  maxRows : Nat
  pruneIntervalS : Nat

/-- Who holds the lock: nobody, a flush awaiting the sink with its batch, or a clear awaiting the sink. -/
inductive Lock where
  | free
  | flushing (pending : Pairs)
  | clearing
deriving DecidableEq

structure Recorder where
  pairs : Pairs
  flushedPairs : Nat
  flushErrors : Nat
  droppedPairs : Nat
  nextPrune : Int
  lock : Lock
  /-- Flushes that have released the lock and await `prune_dns_queries`. -/
  pruning : Nat
  /-- The rows of `dns_query_log`. -/
  log : Pairs
  /-- The notes accepted since the last clear. -/
  accepted : List (PairKey × Str)
deriving DecidableEq

/-- A new recorder over an empty log. -/
def Recorder.new : Recorder where
  pairs := []
  flushedPairs := 0
  flushErrors := 0
  droppedPairs := 0
  nextPrune := 0
  lock := .free
  pruning := 0
  log := []
  accepted := []

variable (cfg : Settings)

/-- `hostname.lower().rstrip(".")`. -/
def normaliseHost (hostname : Str) : Str := (cfg.interp.lowerStr hostname).rdropWhile (· == cp '.')

/-- The key of an observation. -/
def pairKey (clientIp hostname qtype : Str) : PairKey where
  clientIp := if clientIp.isEmpty then "unknown" else clientIp
  hostname := normaliseHost cfg hostname
  qtype := cfg.upper (if qtype.isEmpty then "A" else qtype)

/-- Counters for the first observation of a pair. -/
def PairCounters.first (key : PairKey) (status : Str) (now : Int) : PairCounters :=
  { toPairKey := key, hitCount := 1, firstSeen := now, lastSeen := now, status }

/-- One more observation of a pair. -/
def PairCounters.again (counters : PairCounters) (status : Str) (now : Int) : PairCounters :=
  { counters with hitCount := counters.hitCount + 1, lastSeen := now, status }

/-- `note`. -/
def note (r : Recorder) (clientIp hostname qtype status : Str) (now : Int) : Recorder :=
  if !cfg.enabled || hostname.isEmpty then r
  else
    let key := pairKey cfg clientIp hostname qtype
    match r.pairs.get? key with
    | none =>
      if cfg.maxRows ≤ r.pairs.length then { r with droppedPairs := r.droppedPairs + 1 }
      else
        { r with
          pairs := r.pairs.set key (.first key status now)
          accepted := (key, status) :: r.accepted }
    | some counters =>
      { r with
        pairs := r.pairs.set key (counters.again status now)
        accepted := (key, status) :: r.accepted }

/-- A counter of the batch that was not persisted, put back over the live one. -/
def mergeCounters : Option PairCounters → PairCounters → PairCounters
  | none,        counters => counters
  | some merged, counters =>
    { merged with
      hitCount := merged.hitCount + counters.hitCount
      firstSeen := min merged.firstSeen counters.firstSeen
      lastSeen := max merged.lastSeen counters.lastSeen
      status := counters.status }

/-- `_merge_back`. -/
def mergeBack (pairs pending : Pairs) : Pairs := Dict.mergeWith mergeCounters pairs pending

/-- What runs between two awaits. -/
inductive Label where
  /-- One observed query, at a time. -/
  | note (clientIp hostname qtype status : Str) (now : Int)
  /-- `flush` up to its await of `record_dns_queries`. -/
  | flush
  /-- The sink committed the batch; `flush` goes on to `prune`, at a monotonic time. -/
  | written (now : Int)
  /-- The write failed, or was cancelled, before taking effect. -/
  | notWritten (cancelled : Bool)
  /-- `prune_dns_queries` returned. -/
  | pruned
  /-- `prune_dns_queries` failed, or was cancelled. -/
  | notPruned (cancelled : Bool)
  /-- `clear` up to its await of `clear_dns_queries`. -/
  | clear
  /-- The sink emptied the log. -/
  | cleared
  /-- The sink did not empty the log. -/
  | notCleared (cancelled : Bool)
deriving DecidableEq

/-- An error of the sink is counted; a cancellation is passed on. -/
def Recorder.countError (r : Recorder) (cancelled : Bool) : Recorder :=
  if cancelled then r else { r with flushErrors := r.flushErrors + 1 }

/-- One scheduling choice. A label that is not enabled (the lock is held, nothing awaits) yields `none`. -/
def step (r : Recorder) : Label → Option Recorder
  | .note clientIp hostname qtype status now => some (note cfg r clientIp hostname qtype status now)
  | .flush =>
    match r.lock with
    | .free =>
      if r.pairs.isEmpty then some r
      -- no sink: the table is swapped out and merged back into the empty one
      else if !cfg.hasSink then some { r with pairs := mergeBack [] r.pairs }
      else some { r with pairs := [], lock := .flushing r.pairs }
    | _ => none
  | .written now =>
    match r.lock with
    | .flushing pending =>
      let done :=
        { r with
          log := recordDnsQueries r.log (pending.map Prod.snd)
          lock := .free
          flushedPairs := r.flushedPairs + pending.length }
      if now < r.nextPrune then some done
      else some { done with nextPrune := now + cfg.pruneIntervalS, pruning := r.pruning + 1 }
    | _ => none
  | .notWritten cancelled =>
    match r.lock with
    | .flushing pending =>
      some (Recorder.countError { r with pairs := mergeBack r.pairs pending, lock := .free } cancelled)
    | _ => none
  | .pruned =>
    if r.pruning = 0 then none
    else some { r with pruning := r.pruning - 1, log := pruneDnsQueries r.log cfg.maxRows }
  | .notPruned cancelled =>
    if r.pruning = 0 then none
    else some (Recorder.countError { r with pruning := r.pruning - 1 } cancelled)
  | .clear =>
    match r.lock with
    | .free =>
      let emptied := { r with pairs := [], accepted := [] }
      some (if cfg.hasSink then { emptied with lock := .clearing } else emptied)
    | _ => none
  | .cleared =>
    match r.lock with
    | .clearing => some { r with log := clearDnsQueries r.log, lock := .free }
    | _ => none
  | .notCleared cancelled =>
    match r.lock with
    | .clearing => some (Recorder.countError { r with lock := .free } cancelled)
    | _ => none

end RideTheApi.Discovery
