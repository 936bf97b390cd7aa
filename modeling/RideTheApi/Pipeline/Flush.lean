import RideTheApi.Buffer.Switch

/-!
# `Pipeline.Flush` — learning flushes over a buffer whose backend may be switched

Any number of `flush_and_learn` cycles, arriving pairs and backend switches, interleaved at their awaits.
A cycle resolves the buffer's store each time it uses it: once to read the pairs it sends to the LLM, and
once more, after the LLM answered, to mark ids as flushed. A switch replaces the store under it in one
step (`set_buffer_backend`, `persist_backend` and `rebind_buffer_store` do not await).
-/

namespace RideTheApi.Flush

open Buffer Transition

universe u v

/-- Where a `flush_and_learn` call is. A backend is named by whether it is the in-memory one. -/
inductive Pc (δ : Type u) (π : Type v) where
  /-- Waits for the device's flush lock. -/
  | queued
  /-- Resolved the store; the SELECT is still to run. -/
  | reading (memory : Bool)
  /-- The LLM works on `context`. -/
  | analysing (context : List (Entry δ π))
  /-- Patterns are saved and the store resolved; the UPDATE is still to run. -/
  | marking (context : List (Entry δ π)) (memory : Bool)
  /-- The UPDATE flushed the rows `marked`. -/
  | marked (context marked : List (Entry δ π))
  /-- Returned success; `remaining` is what the active store still listed for the device. -/
  | learned (context marked remaining : List (Entry δ π))
  /-- Returned an error or raised. -/
  | failed (context marked : List (Entry δ π))
deriving Repr, DecidableEq

/-- A `flush_and_learn` call. -/
structure Cycle (δ : Type u) (π : Type v) where
  device : δ
  pairIds : Option (List Nat)
  pc : Pc δ π := .queued
deriving Repr, DecidableEq

/-- The buffer with its switch, and the calls. `switch.old` is the active store. -/
structure State (δ : Type u) (π : Type v) where
  switch : Switch.State δ π
  cycles : List (Cycle δ π) := []
deriving Repr, DecidableEq

/-- One scheduling choice. `i` is the index of a call. -/
inductive Label (δ : Type u) (π : Type v) where
  | flushAndLearn (dev : δ) (pairIds : Option (List Nat))
  | acquire (i : Nat)
  | read (i : Nat)
  | analysed (i : Nat)
  | analysisFailed (i : Nat)
  | update (i : Nat)
  | updateRaised (i : Nat)
  | finish (i : Nat)
  | finishRaised (i : Nat)
  /-- A pair arrives in the store its `add_pair` call resolved. -/
  | addPair (memory : Bool) (id sequence : Nat) (dev : δ) (pair : π) (size : Nat)
  /-- `switch_backend` starts; `ids` are the ids the device listing returns. -/
  | startSwitch (ids : List δ)
  /-- The next await of `switch_backend`; a copied row gets this id and sequence. -/
  | switchStep (id sequence : Nat)
deriving Repr, DecidableEq

variable {δ : Type u} {π : Type v} [DecidableEq δ] [DecidableEq π]

namespace State

/-- The active store. -/
def active (s : State δ π) : Store δ π := s.switch.old

/-- The store of a backend. -/
def storeOf (s : State δ π) (memory : Bool) : Store δ π :=
  if memory = s.switch.oldShared then s.switch.old else s.switch.new

/-- Replace the store of a backend. -/
def setStore (s : State δ π) (memory : Bool) (st : Store δ π) : State δ π :=
  if memory = s.switch.oldShared then { s with switch := { s.switch with old := st } }
  else { s with switch := { s.switch with new := st } }

/-- Move a call on. -/
def setPc (s : State δ π) (i : Nat) (c : Cycle δ π) (pc : Pc δ π) : State δ π :=
  { s with cycles := s.cycles.set i { c with pc } }

end State

/-- The call holds the device's flush lock. -/
def Cycle.running (c : Cycle δ π) : Bool :=
  match c.pc with
  | .queued | .learned _ _ _ | .failed _ _ => false
  | _ => true

/-- The ids a call marks: the requested ones, else those it read. -/
def Cycle.analysedIds (c : Cycle δ π) (context : List (Entry δ π)) : List Nat :=
  c.pairIds.getD (context.map Entry.id)

/-- The pairs a call sends to the LLM, out of all it read. -/
def Cycle.select (c : Cycle δ π) (all : List (Entry δ π)) : List (Entry δ π) :=
  match c.pairIds with
  | none     => all
  | some ids => all.filter fun p => ids.contains p.id

/-- The rows `flush_selected` flushes. -/
def selectedRows (st : Store δ π) (d : δ) (ids : List Nat) : List (Entry δ π) :=
  st.rows.filter fun e => Store.unflushed d e && ids.contains e.id

/-- One step of a call. -/
def cycleStep (s : State δ π) (i : Nat) (c : Cycle δ π) : Label δ π → Option (State δ π)
  | .acquire _ =>
    match c.pc with
    | .queued =>
      if s.cycles.all fun c' => c'.device != c.device || !c'.running then
        some (s.setPc i c (.reading s.switch.oldShared))
      else none
    | _ => none
  | .read _ =>
    match c.pc with
    | .reading memory =>
      let context := c.select ((s.storeOf memory).getBufferPairs c.device)
      if context.isEmpty then some (s.setPc i c (.failed [] []))
      else some (s.setPc i c (.analysing context))
    | _ => none
  | .analysed _ =>
    match c.pc with
    | .analysing context => some (s.setPc i c (.marking context s.switch.oldShared))
    | _ => none
  | .analysisFailed _ =>
    match c.pc with
    | .analysing context => some (s.setPc i c (.failed context []))
    | _ => none
  | .update _ =>
    match c.pc with
    | .marking context memory =>
      let st := s.storeOf memory
      let ids := c.analysedIds context
      some ((s.setStore memory (st.flushSelected c.device ids)).setPc i c
        (.marked context (selectedRows st c.device ids)))
    | _ => none
  | .updateRaised _ =>
    match c.pc with
    | .marking context _ => some (s.setPc i c (.failed context []))
    | _ => none
  | .finish _ =>
    match c.pc with
    | .marked context marked =>
      some (s.setPc i c (.learned context marked (s.active.getBufferPairs c.device)))
    | _ => none
  | .finishRaised _ =>
    match c.pc with
    | .marked context marked => some (s.setPc i c (.failed context marked))
    | _ => none
  | _ => none

/-- Once the switch is through, the new store is the active one. -/
def rebind (sw : Switch.State δ π) : Switch.State δ π :=
  match sw.phase with
  | .succeeded => Switch.init (!sw.oldShared) sw.new sw.old
  | _ => sw

/-- The pair is not in the store yet: every captured pair carries a `pair_id` of its own. -/
def unseen (st : Store δ π) (pair : π) : Bool := st.rows.all fun e => e.pair != pair

/-- One step. -/
def step (s : State δ π) (l : Label δ π) : Option (State δ π) :=
  match l with
  | .flushAndLearn dev pairIds => some { s with cycles := s.cycles ++ [{ device := dev, pairIds }] }
  | .addPair memory id sequence dev pair size =>
    let st := s.storeOf memory
    if Switch.fresh st dev id && unseen s.switch.old pair && unseen s.switch.new pair then
      some (s.setStore memory (st.addPair id sequence dev pair size))
    else none
  | .startSwitch ids => (Switch.step s.switch (.start ids)).map fun sw => { s with switch := sw }
  | .switchStep id sequence =>
    (Switch.step s.switch (.proceed id sequence)).map fun sw => { s with switch := rebind sw }
  | .acquire i | .read i | .analysed i | .analysisFailed i | .update i | .updateRaised i | .finish i
  | .finishRaised i => s.cycles[i]?.bind fun c => cycleStep s i c l

/-- A process with empty buffers and no call running. -/
def start (memory : Bool) : State δ π := { switch := Switch.init memory {} {} }

/-! ## What a cycle may mark -/

/-- The pair of `e` is among the pairs of `es`. -/
def among (e : Entry δ π) (es : List (Entry δ π)) : Prop := ∃ e' ∈ es, e'.pair = e.pair

/-- Whatever a call flushed was among the pairs it sent to the LLM. -/
def Cycle.MarksOnlyContext (c : Cycle δ π) : Prop :=
  match c.pc with
  | .marked context marked | .learned context marked _ | .failed context marked =>
    ∀ e ∈ marked, among e context
  | _ => True

/-- A call that succeeded left none of the pairs it sent to the LLM in the active store's buffer. -/
def Cycle.MarksAllContext (c : Cycle δ π) : Prop :=
  match c.pc with
  | .learned context _ remaining => ∀ e ∈ remaining, ¬ among e context
  | _ => True

/-- Every call flushed what it learned, and nothing else. -/
def State.MarksExactlyContext (s : State δ π) : Prop :=
  ∀ c ∈ s.cycles, c.MarksOnlyContext ∧ c.MarksAllContext

instance (c : Cycle δ π) : Decidable c.MarksOnlyContext := by
  unfold Cycle.MarksOnlyContext among
  split <;> infer_instance

instance (c : Cycle δ π) : Decidable c.MarksAllContext := by
  unfold Cycle.MarksAllContext among
  split <;> infer_instance

/-- A call that asked for `id` and has read the buffer, but not marked it yet. -/
def Cycle.awaits (c : Cycle δ π) (dev : δ) (id : Nat) : Bool :=
  match c.pc with
  | .analysing _ | .marking _ _ => c.device == dev && (c.pairIds.getD []).contains id
  | _ => false

/-- No switch replaces the store while a cycle runs, and no pair that arrives in the active store gets an
    id that a cycle past its read was asked to flush. -/
def Orderly (s : State δ π) (l : Label δ π) : Prop :=
  match l with
  | .switchStep _ _ => s.switch.phase = .devices [] → ∀ c ∈ s.cycles, c.running = false
  | .addPair memory id _ dev _ _ =>
    memory = s.switch.oldShared → ∀ c ∈ s.cycles, c.awaits dev id = false
  | _ => True

instance (s : State δ π) (l : Label δ π) : Decidable (Orderly s l) := by
  unfold Orderly
  split <;> infer_instance

end RideTheApi.Flush
