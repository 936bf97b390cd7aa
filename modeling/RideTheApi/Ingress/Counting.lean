import Mathlib.Algebra.GroupWithZero.Nat
import Mathlib.Data.List.Perm.Basic
import RideTheApi.Ingress.Handling
import RideTheApi.Resilience.MatchTracker

/-!
# `Ingress.Counting` — the results that handling a request records

Each mode handler records one hit or miss, at a place of its own between the other awaits, and
`discard_request` records an error for a captured request whose forward failed. What a handler does to the
queue and the counters is a list of effects, determined by what its awaits answer; handlers in flight
interleave effect by effect, with the responses and discards in between. Hits and misses count the handled
requests, errors the failed forwards on top (`counted_once`).
-/

namespace RideTheApi.Counting

open Correlation Faulty Transition
open Ingress (Action Await Mode)
open MatchTracker (Counters MatchResult)

/-- What a handler does to the queue of pending requests and to the tracker. -/
inductive Effect where
  | queue (entry : Entry)
  | record (r : MatchResult)

/-- A request, with what the awaits of its handler answer that do not raise. -/
structure Request where
  mode : Mode
  /-- The best match has a template and reaches the threshold. -/
  reachesThreshold : Bool
  /-- The best match has a template and is weak, and the LLM confirms it. -/
  llmConfirms : Bool
  noFallback : Bool
  entry : Entry

/-- Whether the production and hybrid modes serve it locally. -/
def Request.confident (req : Request) : Bool := req.reachesThreshold || req.llmConfirms

section
variable (x : Await → Bool) (req : Request)

/-! ## The handlers -/

/-- `tracker.record_result` counts before it awaits anything. -/
def recordResult (r : MatchResult) : Faulty (List Effect) Unit := do
  modify fun done => done ++ [.record r]
  raiseIf (x .recordResult)

/-- `_register_for_learning` and `register_request`. -/
def registerRequest (entry : Entry) : Faulty (List Effect) String := do
  raiseIf (x .ensureBuffer)
  modify fun done => done ++ [.queue entry]
  raiseIf (x .insertRow)
  pure entry.correlationKey

/-- `_handle_learning`: a shadow match that raises serves nothing. -/
def handleLearning : Faulty (List Effect) Action := do
  let key ← registerRequest x req.entry
  let wouldServe := !x .findBestMatch && req.reachesThreshold
  recordResult x (if wouldServe then .localHit else .cloudMiss)
  pure (.forward (some key))

/-- The local hit of the production and hybrid modes. -/
def serveLocally : Faulty (List Effect) Action := do
  raiseIf (x .serveLocally)
  recordResult x .localHit
  pure .localResponse

/-- `_handle_hybrid`. -/
def handleHybrid : Faulty (List Effect) Action := do
  raiseIf (x .findBestMatch)
  if req.confident then serveLocally x
  else
    let key ← registerRequest x req.entry
    recordResult x .cloudMiss
    pure (.forward (some key))

/-- `_handle_production`. -/
def handleProduction : Faulty (List Effect) Action := do
  raiseIf (x .findBestMatch)
  if req.confident then serveLocally x
  else
    recordResult x .cloudMiss
    if req.noFallback then pure .noFallback
    else
      let key ← registerRequest x req.entry
      pure (.forward (some key))

/-- `handle_request` of a registered device. -/
def handleRequest : Faulty (List Effect) Action := do
  raiseIf (x .getDevice)
  match req.mode with
  | .passthrough => pure (.forward none)
  | .learning    => handleLearning x req
  | .hybrid      => handleHybrid x req
  | .production  => handleProduction x req

/-- The effects of a handler, in order. -/
def effects : List Effect := (handleRequest x req []).2

/-- An exception ends the handler before it has recorded its result. -/
def raisesEarly : Bool :=
  x .getDevice || match req.mode with
    | .passthrough => false
    | .learning    => x .ensureBuffer || x .insertRow
    | .hybrid      =>
      x .findBestMatch || (if req.confident then x .serveLocally else x .ensureBuffer || x .insertRow)
    | .production  => x .findBestMatch || req.confident && x .serveLocally

end

/-! ## The pipeline of a device -/

/-- The pending requests of a device, what its tracker has recorded, and the handlers in flight, each with the
    effects still to come. -/
structure State where
  pending : List Entry := []
  recorded : Counters := {}
  tasks : List (List Effect) := []
  /-- The handlers that have ended. -/
  handled : Nat := 0
  /-- The discards that count as an error and found their request. -/
  failedForwards : Nat := 0

/-- A call, or the next effect of a handler. -/
inductive Label where
  | handleRequest (x : Await → Bool) (req : Request)
  | advance (i : Nat)
  /-- `handle_response`, up to what `match_response` pops. -/
  | handleResponse (protocol : String) (correlationKey : Option String) (cutoff : Int)
  | discardRequest (correlationKey : String) (countAsError : Bool)

/-- An effect. -/
def Effect.apply (s : State) : Effect → State
  | .queue entry => { s with pending := appendPending s.pending entry }
  | .record r    => { s with recorded := s.recorded.count r }

/-- `discard_request`. -/
def discardRequest (s : State) (key : String) (countAsError : Bool) : State :=
  let removed := s.pending.any fun entry => entry.correlationKey == key
  let discarded := { s with pending := s.pending.eraseP fun entry => entry.correlationKey == key }
  if removed && countAsError then
    { discarded with recorded := s.recorded.count .error, failedForwards := s.failedForwards + 1 }
  else discarded

/-- One step. -/
def step (s : State) : Label → Option State
  | .handleRequest x req => some { s with tasks := s.tasks ++ [effects x req] }
  | .advance i =>
    s.tasks[i]?.map fun task =>
      match task with
      | []             => { s with tasks := s.tasks.eraseIdx i, handled := s.handled + 1 }
      | effect :: rest => effect.apply { s with tasks := s.tasks.set i rest }
  | .handleResponse protocol key cutoff =>
    some { s with pending := ((popPending s.pending protocol key cutoff).map (·.2)).getD s.pending }
  | .discardRequest key countAsError => some (discardRequest s key countAsError)

/-- Hits and misses. -/
def attempted (c : Counters) : Nat := c.localHits + c.cloudMisses

/-- The device learns or serves. -/
def OnTracked (_ : State) : Label → Prop
  | .handleRequest _ req => req.mode ≠ .passthrough
  | _                    => True

/-- The device learns or serves, and no exception ends a handler before it has recorded its result. -/
def Recording (_ : State) : Label → Prop
  | .handleRequest x req => req.mode ≠ .passthrough ∧ raisesEarly x req = false
  | _                    => True

/-! ## What a handler records -/

/-- The hits and misses among effects. -/
def owed (task : List Effect) : Nat :=
  task.countP fun effect => match effect with
    | .record _ => true
    | .queue _  => false

/-- Effects that record no error. -/
def NoError (task : List Effect) : Prop := Effect.record .error ∉ task

/-- Effects that record one hit or miss, and no error. -/
def RecordsOnce (task : List Effect) : Prop := owed task = 1 ∧ NoError task

/-- Effects that record nothing. -/
def RecordsNone (task : List Effect) : Prop := owed task = 0 ∧ NoError task

section
variable {x : Await → Bool} {req : Request} {done : List Effect} {entry : Entry} {r : MatchResult}

theorem owed_append (done rest : List Effect) : owed (done ++ rest) = owed done + owed rest :=
  List.countP_append

theorem NoError.append {rest : List Effect} (h : NoError done) (hrest : NoError rest) : NoError (done ++ rest) := by
  intro hmem
  rcases List.mem_append.mp hmem with hmem | hmem
  · exact h hmem
  · exact hrest hmem

theorem recordsNone_nil : RecordsNone [] := ⟨rfl, List.not_mem_nil⟩

theorem noError_queue (entry : Entry) : NoError [.queue entry] := by
  intro hmem
  cases List.mem_singleton.mp hmem

theorem RecordsNone.record (h : RecordsNone done) (hr : r ≠ .error) : RecordsOnce (done ++ [.record r]) := by
  refine ⟨?_, h.2.append ?_⟩
  · rw [owed_append, h.1]
    rfl
  · intro hmem
    cases List.mem_singleton.mp hmem
    exact hr rfl

theorem RecordsNone.queue (h : RecordsNone done) (entry : Entry) : RecordsNone (done ++ [.queue entry]) := by
  refine ⟨?_, h.2.append (noError_queue entry)⟩
  rw [owed_append, h.1]
  rfl

theorem RecordsOnce.queue (h : RecordsOnce done) (entry : Entry) : RecordsOnce (done ++ [.queue entry]) := by
  refine ⟨?_, h.2.append (noError_queue entry)⟩
  rw [owed_append, h.1]
  rfl

theorem leaves_recordResult (h : RecordsNone done) (hr : r ≠ .error) :
    Leaves (recordResult x r) done RecordsOnce :=
  (leaves_modify (h.record hr)).bind fun _ _ hdone => leaves_raiseIf _ hdone

theorem leaves_registerRequest (h : RecordsOnce done) : Leaves (registerRequest x entry) done RecordsOnce := by
  refine (leaves_raiseIf _ h).bind fun _ done hdone => ?_
  have hqueue : Leaves (modify fun done => done ++ [.queue entry]) done RecordsOnce :=
    leaves_modify (hdone.queue entry)
  refine hqueue.bind fun _ _ hdone => ?_
  refine (leaves_raiseIf _ hdone).bind fun _ _ hdone => ?_
  exact leaves_pure hdone

theorem ends_registerRequest (h : RecordsNone done) (hbuffer : x .ensureBuffer = false)
    (hinsert : x .insertRow = false) :
    Ends (registerRequest x entry) done (some entry.correlationKey) RecordsNone := by
  unfold registerRequest
  rw [hbuffer, hinsert]
  refine (ends_pass h).bind fun done hdone => ?_
  have hqueue : Ends (modify fun done => done ++ [.queue entry]) done (some ()) RecordsNone :=
    ends_modify (hdone.queue entry)
  refine hqueue.bind fun _ hdone => ?_
  exact (ends_pass hdone).bind fun _ hdone => ends_pure hdone

theorem leaves_serveLocally (h : RecordsNone done) (hserve : x .serveLocally = false) :
    Leaves (serveLocally x) done RecordsOnce := by
  unfold serveLocally
  rw [hserve]
  refine (ends_pass h).bind_leaves fun _ hdone => ?_
  refine (leaves_recordResult hdone (by decide)).bind fun _ _ hdone => ?_
  exact leaves_pure hdone

/-- A registration, a result and a reply, as the learning and hybrid modes have them. -/
theorem leaves_registerThenRecord (h : RecordsNone done) (hbuffer : x .ensureBuffer = false)
    (hinsert : x .insertRow = false) (hr : r ≠ .error) :
    Leaves (do
      let key ← registerRequest x entry
      recordResult x r
      pure (Action.forward (some key))) done RecordsOnce := by
  refine (ends_registerRequest h hbuffer hinsert).bind_leaves fun _ hdone => ?_
  refine (leaves_recordResult hdone hr).bind fun _ _ hdone => ?_
  exact leaves_pure hdone

/-- **A handler that is not cut short records one hit or miss.** -/
theorem recordsOnce_effects (hmode : req.mode ≠ .passthrough) (hearly : raisesEarly x req = false) :
    RecordsOnce (effects x req) := by
  show Leaves (handleRequest x req) [] RecordsOnce
  unfold raisesEarly at hearly
  obtain ⟨hdevice, hearly⟩ := Bool.or_eq_false_iff.mp hearly
  unfold handleRequest
  rw [hdevice]
  refine (ends_pass recordsNone_nil).bind_leaves fun _ hdone => ?_
  cases hm : req.mode with
  | passthrough => exact absurd hm hmode
  | learning =>
    rw [hm] at hearly
    obtain ⟨hbuffer, hinsert⟩ := Bool.or_eq_false_iff.mp hearly
    -- Whatever the shadow match answered, it is a hit or a miss.
    refine leaves_registerThenRecord hdone hbuffer hinsert ?_
    split <;> decide
  | hybrid =>
    rw [hm] at hearly
    obtain ⟨hmatch, hearly⟩ := Bool.or_eq_false_iff.mp hearly
    show Leaves (handleHybrid x req) _ RecordsOnce
    unfold handleHybrid
    rw [hmatch]
    refine (ends_pass hdone).bind_leaves fun _ hdone => ?_
    split at hearly
    · next hconfident =>
      rw [if_pos hconfident]
      exact leaves_serveLocally hdone hearly
    · next hconfident =>
      rw [if_neg hconfident]
      obtain ⟨hbuffer, hinsert⟩ := Bool.or_eq_false_iff.mp hearly
      exact leaves_registerThenRecord hdone hbuffer hinsert (by decide)
  | production =>
    rw [hm] at hearly
    obtain ⟨hmatch, hearly⟩ := Bool.or_eq_false_iff.mp hearly
    show Leaves (handleProduction x req) _ RecordsOnce
    unfold handleProduction
    rw [hmatch]
    refine (ends_pass hdone).bind_leaves fun _ hdone => ?_
    split
    · next hconfident =>
      rw [hconfident] at hearly
      exact leaves_serveLocally hdone hearly
    -- The miss is counted first, so a registration that raises no longer matters.
    · refine (leaves_recordResult hdone (by decide)).bind fun _ _ hdone => ?_
      split
      · exact leaves_pure hdone
      · refine (leaves_registerRequest hdone).bind fun _ _ hdone => ?_
        exact leaves_pure hdone

end

/-! ## Counting over a run -/

/-- What holds in a run whose handlers record: the results recorded, and those the handlers in flight still
    owe, are one for each request; and only the failed forwards are errors. -/
structure Inv (s : State) : Prop where
  once : attempted s.recorded + (s.tasks.map owed).sum = s.handled + s.tasks.length
  noError : ∀ task ∈ s.tasks, NoError task
  errors : s.recorded.errors = s.failedForwards
  balanced : s.recorded.Balanced

section
variable {s s' : State} {l : Label} {task : List Effect} {i : Nat}

theorem attempted_count (c : Counters) {r : MatchResult} (hr : r ≠ .error) :
    attempted (c.count r) = attempted c + 1 := by
  unfold attempted
  cases r with
  | localHit => simp only [Counters.count]; omega
  | cloudMiss => simp only [Counters.count]; omega
  | error => exact absurd rfl hr

theorem errors_count (c : Counters) {r : MatchResult} (hr : r ≠ .error) : (c.count r).errors = c.errors := by
  cases r with
  | localHit | cloudMiss => rfl
  | error => exact absurd rfl hr

/-- What the handlers owe, with one of them taken out. -/
theorem owed_eraseIdx (htask : s.tasks[i]? = some task) :
    (s.tasks.map owed).sum = owed task + ((s.tasks.eraseIdx i).map owed).sum := by
  obtain ⟨hi, rfl⟩ := List.getElem?_eq_some_iff.mp htask
  have hperm := (List.getElem_cons_eraseIdx_perm hi).symm.map owed
  rw [hperm.sum_nat, List.map_cons, List.sum_cons]

/-- What the handlers owe, with one of them replaced. -/
theorem owed_set (htask : s.tasks[i]? = some task) (rest : List Effect) :
    ((s.tasks.set i rest).map owed).sum = owed rest + ((s.tasks.eraseIdx i).map owed).sum := by
  obtain ⟨hi, _⟩ := List.getElem?_eq_some_iff.mp htask
  have hperm := (List.set_perm_cons_eraseIdx hi rest).map owed
  rw [hperm.sum_nat, List.map_cons, List.sum_cons]

theorem Inv.finish (h : Inv s) (htask : s.tasks[i]? = some []) :
    Inv { s with tasks := s.tasks.eraseIdx i, handled := s.handled + 1 } where
  once := by
    obtain ⟨hi, _⟩ := List.getElem?_eq_some_iff.mp htask
    have honce := h.once
    have hnone : owed [] = 0 := rfl
    have hlength := List.length_eraseIdx_of_lt hi
    rw [owed_eraseIdx htask, hnone] at honce
    dsimp only
    omega
  noError := fun task hmem => h.noError task (List.mem_of_mem_eraseIdx hmem)
  errors := h.errors
  balanced := h.balanced

theorem Inv.advance {effect : Effect} {rest : List Effect} (h : Inv s)
    (htask : s.tasks[i]? = some (effect :: rest)) :
    Inv (effect.apply { s with tasks := s.tasks.set i rest }) := by
  have honce := h.once
  have hrest := owed_set htask rest
  have hnoError := h.noError _ (List.mem_of_getElem? htask)
  have hset : ∀ task ∈ s.tasks.set i rest, NoError task := by
    intro task hmem
    rcases List.mem_or_eq_of_mem_set hmem with hmem | rfl
    · exact h.noError task hmem
    · exact fun hmem => hnoError (List.mem_cons_of_mem _ hmem)
  rw [owed_eraseIdx htask] at honce
  cases effect with
  | queue entry =>
    have howed : owed (.queue entry :: rest) = owed rest := List.countP_cons_of_neg (by simp)
    unfold Effect.apply
    generalize appendPending _ entry = pending
    refine ⟨?_, hset, h.errors, h.balanced⟩
    show attempted s.recorded + ((s.tasks.set i rest).map owed).sum = s.handled + (s.tasks.set i rest).length
    rw [List.length_set]
    omega
  | record r =>
    have hr : r ≠ .error := by
      rintro rfl
      exact hnoError List.mem_cons_self
    -- One result less is owed, one more is recorded.
    have howed : owed (.record r :: rest) = owed rest + 1 := List.countP_cons_of_pos rfl
    refine ⟨?_, hset, (errors_count _ hr).trans h.errors, h.balanced.count r⟩
    show attempted (s.recorded.count r) + ((s.tasks.set i rest).map owed).sum =
      s.handled + (s.tasks.set i rest).length
    rw [List.length_set, attempted_count _ hr]
    omega

theorem Inv.discardRequest (h : Inv s) (key : String) (countAsError : Bool) :
    Inv (discardRequest s key countAsError) := by
  unfold Counting.discardRequest
  dsimp only
  split
  · exact ⟨h.once, h.noError, congrArg (· + 1) h.errors, h.balanced.count .error⟩
  · exact ⟨h.once, h.noError, h.errors, h.balanced⟩

/-- Every step keeps the invariant. -/
theorem Inv.step (h : Inv s) (hok : Recording s l) (hs : step s l = some s') : Inv s' := by
  cases l with
  | handleRequest x req =>
    cases hs
    obtain ⟨hcount, hnoError⟩ := recordsOnce_effects hok.1 hok.2
    refine ⟨?_, fun task hmem => ?_, h.errors, h.balanced⟩
    · have honce := h.once
      simp only [List.map_append, List.map_cons, List.map_nil, List.sum_append, List.sum_cons, List.sum_nil,
        List.length_append, List.length_singleton, hcount]
      omega
    · rcases List.mem_append.mp hmem with hmem | hmem
      · exact h.noError task hmem
      · rw [List.mem_singleton.mp hmem]
        exact hnoError
  | advance i =>
    obtain ⟨task, htask, rfl⟩ := Option.map_eq_some_iff.mp hs
    cases task with
    | nil => exact h.finish htask
    | cons effect rest => exact h.advance htask
  | handleResponse protocol key cutoff =>
    cases hs
    exact ⟨h.once, h.noError, h.errors, h.balanced⟩
  | discardRequest key countAsError =>
    cases hs
    exact h.discardRequest key countAsError

/-- **Every handled request is counted once, and every failed forward once more, as an error.** Whenever no
    handler is in flight, hits and misses are as many as the handled requests, and all results as many as these
    and the failed forwards. -/
theorem counted_once (h : ReachesUnder step Recording {} s) (hidle : s.tasks = []) :
    attempted s.recorded = s.handled ∧ s.recorded.errors = s.failedForwards ∧
      s.recorded.total = s.handled + s.failedForwards := by
  have hstart : Inv {} := ⟨rfl, fun task hmem => absurd hmem List.not_mem_nil, rfl, rfl⟩
  have hinv := h.invariant hstart fun _ _ _ hinv hok hs => hinv.step hok hs
  have honce := hinv.once
  have hbalanced := hinv.balanced
  have herrors := hinv.errors
  rw [hidle] at honce
  unfold Counters.Balanced at hbalanced
  unfold attempted at honce ⊢
  refine ⟨honce, herrors, ?_⟩
  rw [hbalanced, herrors]
  exact congrArg (· + s.failedForwards) honce

end

/-! ## A failed forward -/

/-- A request of a device `lamp`, as captured. -/
def lampEntry : Entry where
  correlationKey := "lamp:GET:/state:0a1b2c3d"
  deviceId := "lamp"
  vendor := "shelly"
  protocol := "http"
  method := "GET"
  path := "/state"
  headers := .null
  body := .null
  queryParams := .null
  enrichment := none
  timestamp := 0

/-- A miss of the hybrid mode. -/
def lampRequest : Request where
  mode := .hybrid
  reachesThreshold := false
  llmConfirms := false
  noFallback := false
  entry := lampEntry

/-- The request is captured and counted as a miss; then its forward fails and is discarded. -/
def failedForward : List Label :=
  [.handleRequest (fun _ => false) lampRequest, .advance 0, .advance 0, .advance 0,
    .discardRequest "lamp:GET:/state:0a1b2c3d" true]

/-- The state it ends in. -/
def failedForwardEnd : State := (exec step {} failedForward).getD {}

theorem failedForward_counted :
    attempted failedForwardEnd.recorded = failedForwardEnd.handled ∧
      failedForwardEnd.recorded.errors = failedForwardEnd.failedForwards ∧
      failedForwardEnd.recorded.total = failedForwardEnd.handled + failedForwardEnd.failedForwards := by
  refine counted_once (reachesUnder_of_exec .start failedForward rfl ?_) rfl
  exact ⟨⟨(fun h => nomatch h), rfl⟩, trivial, trivial, trivial, trivial, trivial⟩

/-- One request, two results. -/
theorem failedForward_twice :
    ¬ ∀ s, ReachesUnder step OnTracked {} s → s.tasks = [] → s.recorded.total = s.handled := by
  intro h
  have hreach : ReachesUnder step OnTracked {} failedForwardEnd :=
    reachesUnder_of_exec .start failedForward rfl
      ⟨(fun h => nomatch h), trivial, trivial, trivial, trivial, trivial⟩
  have htotal : failedForwardEnd.recorded.total = failedForwardEnd.handled := h _ hreach rfl
  exact absurd htotal (by decide)

end RideTheApi.Counting
