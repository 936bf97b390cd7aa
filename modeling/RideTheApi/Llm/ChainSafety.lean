import RideTheApi.Lib.Slots
import RideTheApi.Llm.Chain

/-!
# `Llm.ChainSafety` — when half-open probes are neither stuck nor doubled

A chain claims the slots of all its half-open profiles at once and gives a slot back only by recording the
result of a call. So a slot is stuck when the chain ends before its call, and a second probe can start when
a result of an older call gave the slot back early, or when every profile is excluded and the half-open ones
are offered anyway. `Guard` leaves these steps out.
-/

namespace RideTheApi.Llm

open Transition

/-! ## The law and the guard -/

/-- The provider a chain is probing: its call is in flight and was given out half-open. -/
def Chain.probing (c : Chain) : Option String := c.steps.head?.filter (· ∈ c.probes)

/-- A probe of a chain that is in flight or still to be made. -/
def Chain.Outstanding (c : Chain) (name : String) : Prop := name ∈ c.steps ∧ name ∈ c.probes

instance (c : Chain) (name : String) : Decidable (c.Outstanding name) :=
  inferInstanceAs (Decidable (_ ∧ _))

/-- **At most one probe per provider is in flight, and a held slot has a call that gives it back.** -/
structure ProbesSound (s : Service) : Prop where
  single : ∀ (i j : Nat) (c d : Chain) (name : String), s.chains[i]? = some c → s.chains[j]? = some d →
    c.probing = some name → d.probing = some name → i = j
  held : ∀ name, (s.breaker name).probeInFlight = true → ∃ c ∈ s.chains, name ∈ c.steps ∧ name ∈ c.claimed

/-- The slots of the profiles a chain will not call are free of its claims. -/
def Unclaimed (s : Service) (c : Chain) (names : List String) : Prop :=
  ∀ name ∈ names, name ∈ c.claimed → (s.breaker name).probeInFlight = false

instance (s : Service) (c : Chain) (names : List String) : Decidable (Unclaimed s c names) :=
  inferInstanceAs (Decidable (∀ _ ∈ _, _))

/-- **The steps that keep slots and probes together.** A provider whose slot is up for a claim has no probe
    outstanding, and a chain is not started when every profile is excluded and one is half-open; a chain that
    ends leaves no slot claimed for a profile it has not called. -/
def Guard (T : Tuning) (s : Service) : Label → Prop
  | .callProfileChain P preferred now =>
    (∀ name ∈ P.ordered preferred, (s.breaker name).due T now = true →
      ∀ c ∈ s.chains, ¬ c.Outstanding name) ∧
    ((∀ name ∈ P.ordered preferred, ((s.breaker name).isOpen T now).1 = true) →
      ∀ name ∈ P.ordered preferred, (s.breaker name).halfOpen = false)
  | .callEnds i .success _   => ∀ c ∈ s.chains[i]?, Unclaimed s c c.steps.tail
  | .callEnds _ .failure _   => True
  | .callEnds i .cancelled _ => ∀ c ∈ s.chains[i]?, Unclaimed s c c.steps

instance (T : Tuning) (s : Service) : (l : Label) → Decidable (Guard T s l)
  | .callProfileChain .. => inferInstanceAs (Decidable (_ ∧ _))
  | .callEnds _ .success _ => inferInstanceAs (Decidable (∀ _ ∈ _, _))
  | .callEnds _ .failure _ => inferInstanceAs (Decidable True)
  | .callEnds _ .cancelled _ => inferInstanceAs (Decidable (∀ _ ∈ _, _))

/-! ## What `available_profiles` offers -/

theorem enabledNames_nodup (P : Profiles) : P.enabledNames.Nodup :=
  P.nodup.sublist (List.filter_sublist.map _)

theorem ordered_nodup (P : Profiles) (preferred : Option String) : (P.ordered preferred).Nodup := by
  have hn := enabledNames_nodup P
  unfold Profiles.ordered Profiles.orderProfiles
  split
  · exact List.nodup_nil
  · split
    · refine List.nodup_cons.mpr ⟨fun hmem => ?_, hn.filter _⟩
      simpa using (List.mem_filter.mp hmem).2
    · exact hn

/-- What `available_profiles` returns: distinct names of the rotation, every due one among them with its
    slot claimed, and an excluded one only when all are. -/
structure Offers (T : Tuning) (ordered : List String) (now : Rat) (b : Breaker) (names : List String)
    (b' : Breaker) : Prop where
  nodup : names.Nodup
  subset : ∀ name ∈ names, name ∈ ordered
  due : ∀ name ∈ ordered, (b name).due T now = true → name ∈ names
  breaker : ∀ name, b' name =
    if name ∈ ordered ∧ (b name).due T now = true then { b name with halfOpen := true, probeInFlight := true }
    else b name
  excluded : ∀ name ∈ names, (b name).due T now = true ∨ ((b name).isOpen T now).1 = false ∨
    ∀ other ∈ ordered, ((b other).isOpen T now).1 = true

section
variable {T : Tuning} {P : Profiles} {preferred : Option String} {now : Rat} {b : Breaker} {c : Circuit}

/-- A profile is allowed when its slot is up for a claim, and otherwise while its circuit is closed. -/
theorem allow_fst : (c.allow T now).1 = (c.due T now || !(c.isOpen T now).1) := by
  rw [Circuit.allow_eq]
  cases c.due T now <;> simp

/-- When no name passes the filter, every circuit is open and none is due. -/
theorem open_of_none_allowed {names : List String} (h : names.filter (fun name => ((b name).allow T now).1) = []) :
    ∀ name ∈ names, (b name).due T now = false ∧ ((b name).isOpen T now).1 = true := by
  intro name hmem
  have hrefused := List.filter_eq_nil_iff.mp h name hmem
  rw [allow_fst, Bool.or_eq_true, not_or] at hrefused
  exact ⟨by simpa using hrefused.1, by simpa using hrefused.2⟩

/-- **`available_profiles` offers what it claims.** -/
theorem offers_availableProfiles (T : Tuning) (P : Profiles) (preferred : Option String) (now : Rat)
    (b : Breaker) :
    Offers T (P.ordered preferred) now b (availableProfiles T P preferred now b).1
      (availableProfiles T P preferred now b).2 := by
  have hn := ordered_nodup P preferred
  unfold availableProfiles
  dsimp only
  rw [filterCircuits_eq hn]
  dsimp only
  by_cases hsome : (P.ordered preferred).filter (fun name => ((b name).allow T now).1) ≠ []
  · rw [if_pos hsome]
    refine ⟨hn.filter _, fun name hmem => (List.mem_filter.mp hmem).1, ?_, ?_, ?_⟩
    · intro name hmem hdue
      exact List.mem_filter.mpr ⟨hmem, by rw [allow_fst, hdue, Bool.true_or]⟩
    · intro name
      dsimp only
      by_cases hmem : name ∈ P.ordered preferred
      · rw [if_pos hmem, Circuit.allow_eq]
        cases hdue : (b name).due T now <;> simp [hmem]
      · rw [if_neg hmem, if_neg fun h => hmem h.1]
    · intro name hmem
      have hpassed := (List.mem_filter.mp hmem).2
      rw [allow_fst, Bool.or_eq_true, Bool.not_eq_true'] at hpassed
      exact hpassed.elim .inl fun h => .inr (.inl h)
  · -- nothing is allowed, so nothing is due: the breaker stays and every profile is excluded
    have hnone := open_of_none_allowed (not_ne_iff.mp hsome)
    have hnotDue : ∀ name ∈ P.ordered preferred, (b name).due T now = false := fun name hmem => (hnone name hmem).1
    have hopen : ∀ name ∈ P.ordered preferred, ((b name).isOpen T now).1 = true := fun name hmem => (hnone name hmem).2
    have hkept : (fun name => if name ∈ P.ordered preferred then ((b name).allow T now).2 else b name) = b := by
      funext name
      by_cases hmem : name ∈ P.ordered preferred
      · rw [if_pos hmem, Circuit.allow_eq, hnotDue name hmem]
        rfl
      · rw [if_neg hmem]
    rw [if_neg hsome, hkept, filterCircuits_eq hn]
    dsimp only
    refine ⟨?_, ?_, ?_, ?_, fun name _ => .inr (.inr hopen)⟩
    · -- the half-open ones when there are any, else all
      split
      · exact hn.filter _
      · exact hn
    · intro name hmem
      split at hmem
      · exact (List.mem_filter.mp hmem).1
      · exact hmem
    · intro name hmem hdue
      rw [hnotDue name hmem] at hdue
      cases hdue
    · intro name
      dsimp only
      by_cases hmem : name ∈ P.ordered preferred
      · rw [if_pos hmem, Circuit.stateHalfOpen_of_not_due (hnotDue name hmem), hnotDue name hmem]
        simp
      · rw [if_neg hmem, if_neg fun h => hmem h.1]

end

/-! ## The invariant -/

/-- A tripped circuit has counted its failures up to the threshold. -/
def Circuit.Counted (T : Tuning) (c : Circuit) : Prop :=
  c.openedAt.isSome = true ∨ c.halfOpen = true ∨ c.probeInFlight = true → T.failureThreshold ≤ c.failures

/-- No provider has probes outstanding in two chains. -/
def Chain.Apart (c d : Chain) : Prop := ∀ name, c.Outstanding name → ¬ d.Outstanding name

structure Inv (T : Tuning) (s : Service) : Prop where
  counted : ∀ name, (s.breaker name).Counted T
  stepsNodup : ∀ c ∈ s.chains, c.steps.Nodup
  apart : s.chains.Pairwise Chain.Apart
  held : ∀ name, (s.breaker name).probeInFlight = true → ∃ c ∈ s.chains, name ∈ c.steps ∧ name ∈ c.claimed

section
variable {T : Tuning} {s s' : Service} {c : Circuit} {now : Rat}

theorem inv_init (T : Tuning) : Inv T init where
  counted := by simp [init, Circuit.Counted]
  stepsNodup := by simp [init]
  apart := List.Pairwise.nil
  held := by simp [init]

/-- The law is read off the invariant. -/
theorem Inv.probesSound (h : Inv T s) : ProbesSound s where
  single := by
    intro i j c d name hi hj hc hd
    have outstanding : ∀ {e : Chain}, e.probing = some name → e.Outstanding name := by
      intro e he
      obtain ⟨hhead, hprobe⟩ := Option.filter_eq_some_iff.mp he
      exact ⟨List.mem_of_mem_head? hhead, by simpa using hprobe⟩
    exact Slots.index_eq_of_pairwise h.apart hi hj (fun hap => hap name (outstanding hc) (outstanding hd))
      fun hap => hap name (outstanding hd) (outstanding hc)
  held := h.held

/-- A cooled circuit was opened. -/
theorem Circuit.Counted.of_due (h : c.Counted T) (hdue : c.due T now = true) : T.failureThreshold ≤ c.failures := by
  refine h ?_
  unfold Circuit.due at hdue
  split at hdue
  · exact .inr (.inl ‹_›)
  · unfold Circuit.cooled at hdue
    cases hopened : c.openedAt with
    | none => rw [hopened] at hdue; cases hdue
    | some openedAt => exact .inl rfl

/-- A half-open profile that is offered is due, or all profiles are excluded. -/
theorem Circuit.due_or_excluded_of_halfOpen (T : Tuning) (now : Rat) (hhalf : c.halfOpen = true) :
    c.due T now = true ∨ (c.isOpen T now).1 = true := by
  unfold Circuit.due Circuit.isOpen
  rw [if_pos hhalf, if_pos hhalf]
  cases c.probeInFlight <;> simp

/-- **Starting a chain keeps the invariant.** -/
theorem Inv.startChain {P : Profiles} {preferred : Option String} (h : Inv T s)
    (hok : Guard T s (.callProfileChain P preferred now)) : Inv T (startChain T s P preferred now) := by
  obtain ⟨hfree, hfallback⟩ := hok
  have ho := offers_availableProfiles T P preferred now s.breaker
  refine ⟨fun name => ?_, fun c hc => ?_, ?_, fun name hheld => ?_⟩
  · show ((availableProfiles T P preferred now s.breaker).2 name).Counted T
    rw [ho.breaker]
    split
    next hdue => exact fun _ => (h.counted name).of_due hdue.2
    next => exact h.counted name
  · rcases List.mem_append.mp hc with hc | hc
    · exact h.stepsNodup c hc
    · obtain rfl := List.mem_singleton.mp hc
      exact ho.nodup
  · refine List.pairwise_append.mpr ⟨h.apart, List.pairwise_singleton _ _, fun c hc d hd name hout hnew => ?_⟩
    obtain rfl := List.mem_singleton.mp hd
    obtain ⟨hstep, hprobe⟩ := hnew
    have hmem := ho.subset name hstep
    have hhalf : ((availableProfiles T P preferred now s.breaker).2 name).halfOpen = true :=
      (List.mem_filter.mp hprobe).2
    rw [ho.breaker] at hhalf
    by_cases hdue : (s.breaker name).due T now = true
    · exact hfree name hmem hdue c hc hout
    · -- half-open but not due: its slot is held, so it was offered because all are excluded
      rw [if_neg fun hd => hdue hd.2] at hhalf
      have hexcluded := (Circuit.due_or_excluded_of_halfOpen T now hhalf).resolve_left hdue
      rcases ho.excluded name hstep with hdue' | hopen | hall
      · exact hdue hdue'
      · rw [hexcluded] at hopen
        cases hopen
      · rw [hfallback hall name hmem] at hhalf
        cases hhalf
  · have hheld : ((availableProfiles T P preferred now s.breaker).2 name).probeInFlight = true := hheld
    rw [ho.breaker] at hheld
    by_cases hdue : name ∈ P.ordered preferred ∧ (s.breaker name).due T now = true
    · have hstep := ho.due name hdue.1 hdue.2
      exact ⟨_, List.mem_append_right _ (List.mem_singleton.mpr rfl), hstep, List.mem_filter.mpr ⟨hstep, hdue.2⟩⟩
    · rw [if_neg hdue] at hheld
      obtain ⟨c, hc, hclaim⟩ := h.held name hheld
      exact ⟨c, List.mem_append_left _ hc, hclaim⟩

/-- **The rule for the end of a call.** Chain `i` drops steps; a slot still held is not one it claimed for a
    profile it dropped. -/
theorem Inv.dropSteps {i : Nat} {c : Chain} {b : Breaker} {steps : List String} (h : Inv T s)
    (hi : s.chains[i]? = some c) (hsub : steps.Sublist c.steps) (hcounted : ∀ name, (b name).Counted T)
    (hheld : ∀ name, (b name).probeInFlight = true →
      (s.breaker name).probeInFlight = true ∧ (name ∈ c.steps → name ∈ c.claimed → name ∈ steps)) :
    Inv T { breaker := b, chains := s.chains.set i ⟨steps, c.probes, c.claimed⟩ } where
  counted := hcounted
  stepsNodup := by
    intro d hd
    rcases List.mem_or_eq_of_mem_set hd with hd | rfl
    · exact h.stepsNodup d hd
    · exact (h.stepsNodup c (List.mem_of_getElem? hi)).sublist hsub
  apart := by
    refine Slots.pairwise_set hi h.apart (fun d had name hout hnew => ?_) fun d had name hnew => ?_
    · exact had name hout ⟨hsub.subset hnew.1, hnew.2⟩
    · exact had name ⟨hsub.subset hnew.1, hnew.2⟩
  held := by
    intro name hname
    obtain ⟨hold, hkeep⟩ := hheld name hname
    obtain ⟨d, hd, hstep, hclaim⟩ := h.held name hold
    obtain ⟨l₁, l₂, h₁, h₂⟩ := Slots.exists_split hi ⟨steps, c.probes, c.claimed⟩
    dsimp only
    rw [h₂]
    rw [h₁] at hd
    rcases List.mem_append.mp hd with hd | hd
    · exact ⟨d, List.mem_append_left _ hd, hstep, hclaim⟩
    · rcases List.mem_cons.mp hd with rfl | hd
      · exact ⟨_, List.mem_append_right _ List.mem_cons_self, hkeep hstep hclaim, hclaim⟩
      · exact ⟨d, List.mem_append_right _ (List.mem_cons_of_mem _ hd), hstep, hclaim⟩

/-- A failure of a counted circuit gives its slot back, and it stays counted. -/
theorem Circuit.Counted.fail (h : c.Counted T) :
    (c.fail T now).Counted T ∧ (c.fail T now).probeInFlight = false := by
  unfold Circuit.fail
  split
  next htrip => exact ⟨fun _ => htrip, rfl⟩
  next htrip =>
    have huntripped : ¬ (c.openedAt.isSome = true ∨ c.halfOpen = true ∨ c.probeInFlight = true) :=
      fun hor => htrip (Nat.le_succ_of_le (h hor))
    refine ⟨fun hor => absurd hor huntripped, ?_⟩
    have hfree : ¬ c.probeInFlight = true := fun hp => huntripped (.inr (.inr hp))
    simpa using hfree

/-- **The end of a call keeps the invariant**: one case per outcome. -/
theorem Inv.endCall {i : Nat} {outcome : Outcome} (h : Inv T s) (hok : Guard T s (.callEnds i outcome now))
    (hs : endCall T s i outcome now = some s') : Inv T s' := by
  unfold Llm.endCall at hs
  split at hs
  case h_2 => cases hs
  case h_1 name rest probes claimed hi =>
    have hn : (name :: rest).Nodup := h.stepsNodup _ (List.mem_of_getElem? hi)
    cases outcome with
    | success =>
      cases hs
      have hok : Unclaimed s ⟨name :: rest, probes, claimed⟩ rest := hok _ hi
      refine h.dropSteps hi (List.nil_sublist _) (fun other => ?_) fun other hheld => ?_
      · by_cases heq : other = name
        · subst heq
          rw [recordSuccess, Function.update_self]
          simp [Circuit.Counted]
        · rw [recordSuccess, Function.update_of_ne heq]
          exact h.counted other
      · by_cases heq : other = name
        · subst heq
          rw [recordSuccess, Function.update_self] at hheld
          cases hheld
        · rw [recordSuccess, Function.update_of_ne heq] at hheld
          refine ⟨hheld, fun hstep hclaim => ?_⟩
          have hrest : other ∈ rest := (List.mem_cons.mp hstep).resolve_left heq
          rw [hok other hrest hclaim] at hheld
          cases hheld
    | failure =>
      cases hs
      refine h.dropSteps hi (List.sublist_cons_self _ _) (fun other => ?_) fun other hheld => ?_
      · by_cases heq : other = name
        · subst heq
          rw [recordFailure, Function.update_self]
          exact (h.counted other).fail.1
        · rw [recordFailure, Function.update_of_ne heq]
          exact h.counted other
      · by_cases heq : other = name
        · subst heq
          rw [recordFailure, Function.update_self, (h.counted other).fail.2] at hheld
          cases hheld
        · rw [recordFailure, Function.update_of_ne heq] at hheld
          exact ⟨hheld, fun hstep _ => (List.mem_cons.mp hstep).resolve_left heq⟩
    | cancelled =>
      cases hs
      have hok : Unclaimed s ⟨name :: rest, probes, claimed⟩ (name :: rest) := hok _ hi
      refine h.dropSteps hi (List.nil_sublist _) h.counted fun other hheld => ⟨hheld, fun hstep hclaim => ?_⟩
      rw [hok other hstep hclaim] at hheld
      cases hheld

/-- **Every guarded step keeps the invariant.** -/
theorem Inv.step {l : Label} (h : Inv T s) (hok : Guard T s l) (hs : step T s l = some s') : Inv T s' := by
  cases l with
  | callProfileChain P preferred now =>
    cases hs
    exact h.startChain hok
  | callEnds i outcome now => exact h.endCall hok hs

end

/-- **Probes are neither stuck nor doubled** in every run whose chains leave no claimed slot behind and whose
    half-open probes start only once the one before has ended. -/
theorem probesSound_of_guarded (T : Tuning) (s : Service) (h : ReachesUnder (step T) (Guard T) init s) :
    ProbesSound s :=
  (h.invariant (inv_init T) fun _ _ _ hinv hok hs => hinv.step hok hs).probesSound

/-- Two enabled profiles. -/
def twoProfiles : Profiles := ⟨true, [("a", true), ("b", true)], "a", by decide⟩

/-- `a` fails and opens, `b` fails and opens; both have cooled down when the next chain probes them: the
    probe of `a` fails and the probe of `b` closes it. -/
def probedRun : List Label :=
  [.callProfileChain twoProfiles none 0, .callEnds 0 .failure 0, .callEnds 0 .failure 0,
   .callProfileChain twoProfiles none 100, .callEnds 1 .failure 100, .callEnds 1 .success 101]

theorem probedRun_sound : ∃ s, exec (step (tuning 1 60)) init probedRun = some s ∧ ProbesSound s := by
  obtain ⟨s, hrun⟩ : ∃ s, exec (step (tuning 1 60)) init probedRun = some s :=
    Option.isSome_iff_exists.mp (by decide +kernel)
  exact ⟨s, hrun, probesSound_of_guarded (tuning 1 60) s
    (reachesUnder_of_exec .start probedRun hrun (by decide +kernel))⟩

/-- `b` fails and cools down; the next chain claims its slot behind `a`, which answers. -/
def stuckRun : List Label :=
  [.callProfileChain twoProfiles (some "b") 0, .callEnds 0 .failure 0, .callEnds 0 .success 0,
   .callProfileChain twoProfiles none 100, .callEnds 1 .success 100]

/-- **The law fails in general**: after `stuckRun` the slot of `b` is held and no chain calls it. -/
theorem stuckRun_holds_slot :
    ¬ ∀ (T : Tuning) (s : Service), Reaches (step T) init s → ProbesSound s := by
  intro h
  obtain ⟨s, hrun, hstuck⟩ : ∃ s, exec (step (tuning 1 60)) init stuckRun = some s ∧
      decide ((s.breaker "b").probeInFlight = true ∧ ∀ c ∈ s.chains, "b" ∉ c.steps) = true :=
    (Option.any_eq_true _ _).mp (by decide +kernel)
  obtain ⟨hheld, hnone⟩ := of_decide_eq_true hstuck
  obtain ⟨c, hc, hstep, -⟩ := (h (tuning 1 60) s (reaches_of_exec _ hrun)).held "b" hheld
  exact hnone c hc hstep

end RideTheApi.Llm
