import RideTheApi.Lib.Transition
import RideTheApi.Llm.Breaker

/-!
# `Llm.Chain` — overlapping runs of `call_profile_chain`

A chain asks `available_profiles` for its profiles, which claims the probe slot of every half-open one of
them, and then calls them one at a time until one succeeds. Everything between two awaits is one step: the
start of a chain up to its first call, and the end of a call up to the next one.
-/

namespace RideTheApi.Llm

/-- The configured profiles in declaration order, each with its `enabled` flag. -/
structure Profiles where
  enabled : Bool
  profiles : List (String × Bool)
  defaultProfile : String
  /-- The profiles are the keys of a dictionary. -/
  nodup : (profiles.map (·.1)).Nodup

/-- The names of the enabled profiles. -/
def Profiles.enabledNames (P : Profiles) : List String := (P.profiles.filter (·.2)).map (·.1)

/-- `preferred or self._default_profile`. -/
def Profiles.first (P : Profiles) (preferred : Option String) : String :=
  match preferred with
  | some name => if name.isEmpty then P.defaultProfile else name
  | none      => P.defaultProfile

/-- Put the preferred (or default) profile first, if enabled. -/
def Profiles.orderProfiles (P : Profiles) (preferred : Option String) : List String :=
  if P.first preferred ∈ P.enabledNames then
    P.first preferred :: P.enabledNames.filter (· != P.first preferred)
  else
    P.enabledNames

/-- The profiles rotation may use: none when the service or every profile is disabled. -/
def Profiles.ordered (P : Profiles) (preferred : Option String) : List String :=
  if !P.enabled || P.enabledNames.isEmpty then [] else P.orderProfiles preferred

/-- The enabled profiles that allow a call, ordered for rotation; when none does, the half-open ones, and
    failing these all of them. -/
def availableProfiles (T : Tuning) (P : Profiles) (preferred : Option String) (now : Rat) (b : Breaker) :
    List String × Breaker :=
  let ordered := P.ordered preferred
  let (allowed, b) := filterCircuits (Circuit.allow T now) ordered b
  if allowed ≠ [] then (allowed, b)
  else
    let (halfOpen, b) := filterCircuits (Circuit.stateHalfOpen T now) ordered b
    (if halfOpen ≠ [] then halfOpen else ordered, b)

/-- A run of `call_profile_chain`. -/
structure Chain where
  /-- The profiles it still calls; the call of the first one is in flight. -/
  steps : List String
  /-- The profiles it was given half-open: its calls of these are probes. -/
  probes : List String
  /-- The profiles whose probe slot it claimed. -/
  claimed : List String
deriving DecidableEq

/-- The service: its breaker and the chains started so far. -/
structure Service where
  breaker : Breaker
  chains : List Chain

/-- How a call of a profile ends. -/
inductive Outcome where
  | success
  | failure
  /-- The task is cancelled while it awaits the call. -/
  | cancelled
deriving DecidableEq

/-- One scheduling choice, with the clock reading it sees. -/
inductive Label where
  | callProfileChain (P : Profiles) (preferred : Option String) (now : Rat)
  | callEnds (chain : Nat) (outcome : Outcome) (now : Rat)

/-- `call_profile_chain` up to its first await. -/
def startChain (T : Tuning) (s : Service) (P : Profiles) (preferred : Option String) (now : Rat) : Service :=
  let (names, b) := availableProfiles T P preferred now s.breaker
  let chain :=
    { steps := names
      probes := names.filter fun name => (b name).halfOpen
      claimed := names.filter fun name => (s.breaker name).due T now }
  { breaker := b, chains := s.chains ++ [chain] }

/-- The end of the call in flight of a chain: its result is recorded, and after a failure the next profile
    is called. -/
def endCall (T : Tuning) (s : Service) (i : Nat) (outcome : Outcome) (now : Rat) : Option Service :=
  match s.chains[i]? with
  | some { steps := name :: rest, probes, claimed } =>
    match outcome with
    | .success   =>
      some { breaker := recordSuccess s.breaker name, chains := s.chains.set i ⟨[], probes, claimed⟩ }
    | .failure   =>
      some { breaker := recordFailure T s.breaker name now, chains := s.chains.set i ⟨rest, probes, claimed⟩ }
    | .cancelled => some { s with chains := s.chains.set i ⟨[], probes, claimed⟩ }
  | _ => none

/-- One step of the service. -/
def step (T : Tuning) (s : Service) : Label → Option Service
  | .callProfileChain P preferred now => some (startChain T s P preferred now)
  | .callEnds i outcome now           => endCall T s i outcome now

/-- A service before its first chain. -/
def init : Service := ⟨fun _ => {}, []⟩

end RideTheApi.Llm
