import Mathlib.Algebra.Order.Ring.Rat
import Mathlib.Logic.Function.Basic

/-!
# `Llm.Breaker` — the circuit breaker between provider profiles

A provider that keeps failing is excluded (open), probed once after a cool-down (half-open) and closed again
by one success. The breaker keeps four dictionaries keyed by provider name; here a provider's entries are
one `Circuit`, whose defaults are the values read when a key is missing.
-/

namespace RideTheApi.Llm

/-- What the breaker holds of one provider. -/
structure Circuit where
  failures : Nat := 0
  openedAt : Option Rat := none
  halfOpen : Bool := false
  probeInFlight : Bool := false
deriving DecidableEq

/-- The tuning of a `ProviderCircuitBreaker`. -/
structure Tuning where
  failureThreshold : Nat
  cooldownSeconds : Rat

/-- The constructor's clamping. -/
def tuning (failureThreshold : Nat) (cooldownSeconds : Rat) : Tuning :=
  ⟨max 1 failureThreshold, max 0 cooldownSeconds⟩

/-- The circuits of all providers. -/
abbrev Breaker : Type := String → Circuit

/-- Close the circuit and reset failure counters for `name`. -/
def recordSuccess (b : Breaker) (name : String) : Breaker := Function.update b name {}

/-- A circuit after one more failure: tripped once the threshold is reached. -/
def Circuit.fail (T : Tuning) (now : Rat) (c : Circuit) : Circuit :=
  if T.failureThreshold ≤ c.failures + 1 then
    { failures := c.failures + 1, openedAt := some now, halfOpen := false, probeInFlight := false }
  else
    { c with failures := c.failures + 1 }

/-- Increment the failure counter; trip the circuit when exceeded. -/
def recordFailure (T : Tuning) (b : Breaker) (name : String) (now : Rat) : Breaker :=
  Function.update b name ((b name).fail T now)

/-- The cool-down of an opened circuit has elapsed. -/
def Circuit.cooled (T : Tuning) (now : Rat) (c : Circuit) : Bool :=
  c.openedAt.any fun openedAt => decide (T.cooldownSeconds ≤ now - openedAt)

/-- Whether a provider is excluded, and its circuit afterwards: a cooled-down one turns half-open. -/
def Circuit.isOpen (T : Tuning) (now : Rat) (c : Circuit) : Bool × Circuit :=
  if c.halfOpen then (c.probeInFlight, c)
  else if c.openedAt.isNone then (false, c)
  else if c.cooled T now then (false, { c with halfOpen := true })
  else (true, c)

/-- Whether a call is permitted, and the circuit afterwards: a half-open one has its probe slot claimed. -/
def Circuit.allow (T : Tuning) (now : Rat) (c : Circuit) : Bool × Circuit :=
  let (excluded, c) := c.isOpen T now
  if excluded then (false, c)
  else if c.halfOpen then (true, { c with probeInFlight := true })
  else (true, c)

/-- Whether a provider reads as `"half_open"`. Asking may turn a cooled-down circuit half-open, which then
    reads as `"closed"` this once. -/
def Circuit.stateHalfOpen (T : Tuning) (now : Rat) (c : Circuit) : Bool × Circuit :=
  if c.halfOpen || c.probeInFlight then (true, c) else (false, (c.isOpen T now).2)

/-- The names that pass a test of their circuit, in order, and the breaker afterwards. -/
def filterCircuits (test : Circuit → Bool × Circuit) : List String → Breaker → List String × Breaker
  | [],            b => ([], b)
  | name :: names, b =>
    let (passed, c) := test (b name)
    let (rest, b') := filterCircuits test names (Function.update b name c)
    (if passed then name :: rest else rest, b')

/-! ## What the tests do to a circuit -/

/-- A provider whose probe slot `allow` claims. -/
def Circuit.due (T : Tuning) (now : Rat) (c : Circuit) : Bool :=
  if c.halfOpen then !c.probeInFlight else c.cooled T now

section
variable {T : Tuning} {now : Rat} {c : Circuit}

/-- **Allowing a call.** A due circuit is allowed with its slot claimed; any other keeps its circuit. -/
theorem Circuit.allow_eq (T : Tuning) (now : Rat) (c : Circuit) :
    c.allow T now =
      if c.due T now then (true, { c with halfOpen := true, probeInFlight := true })
      else (!(c.isOpen T now).1, c) := by
  unfold allow due isOpen
  cases hhalf : c.halfOpen with
  | true =>
    cases hprobe : c.probeInFlight with
    | true => simp
    | false => simp [hhalf]
  | false =>
    cases hopened : c.openedAt with
    | none => simp [cooled, hopened, hhalf]
    | some openedAt =>
      cases hcooled : c.cooled T now with
      | true => simp
      | false => simp

/-- A circuit that is not due is left alone by the state query. -/
theorem Circuit.stateHalfOpen_of_not_due (h : c.due T now = false) :
    c.stateHalfOpen T now = (c.halfOpen || c.probeInFlight, c) := by
  unfold stateHalfOpen
  cases hhalf : c.halfOpen with
  | true => simp
  | false =>
    have hcooled : c.cooled T now = false := by simpa [due, hhalf] using h
    cases hprobe : c.probeInFlight with
    | true => simp
    | false => cases hopened : c.openedAt <;> simp [isOpen, hhalf, hopened, hcooled]

end

section
variable {test : Circuit → Bool × Circuit} {names : List String} {b : Breaker}

/-- A walk over distinct names tests each on its own circuit. -/
theorem filterCircuits_eq (hn : names.Nodup) :
    filterCircuits test names b =
      (names.filter fun name => (test (b name)).1, fun name => if name ∈ names then (test (b name)).2 else b name) := by
  induction names generalizing b with
  | nil => simp [filterCircuits]
  | cons name names ih =>
    obtain ⟨hnot, hn⟩ := List.nodup_cons.mp hn
    have hother : ∀ other ∈ names, Function.update b name (test (b name)).2 other = b other := by
      intro other hmem
      have hne : other ≠ name := by
        rintro rfl
        exact hnot hmem
      exact Function.update_of_ne hne _ _
    have hfilter : (names.filter fun other => (test (Function.update b name (test (b name)).2 other)).1) =
        names.filter fun other => (test (b other)).1 :=
      List.filter_congr fun other hmem => by rw [hother other hmem]
    unfold filterCircuits
    dsimp only
    rw [ih hn, hfilter, List.filter_cons]
    refine Prod.ext rfl (funext fun other => ?_)
    dsimp only
    by_cases hmem : other ∈ names
    · rw [if_pos hmem, if_pos (List.mem_cons_of_mem _ hmem), hother other hmem]
    · rw [if_neg hmem]
      by_cases heq : other = name
      · subst heq
        rw [Function.update_self, if_pos List.mem_cons_self]
      · have hnmem : other ∉ name :: names := by simp [heq, hmem]
        rw [Function.update_of_ne heq, if_neg hnmem]

end

end RideTheApi.Llm
