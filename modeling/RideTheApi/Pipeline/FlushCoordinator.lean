import RideTheApi.Lib.Dict
import RideTheApi.Pipeline.LearnedOnce

/-!
# `Pipeline.FlushCoordinator` — automatic flushes in the background

A response that fills a device's buffer schedules a flush: a task of its own that calls `flush_and_learn`, records how
that ended and is done. A step is what happens up to the next await: of a call (`Pipeline.Flush`), of a background task,
or of `cancel_all` at shutdown, which cancels what runs, waits for it and forgets it.

* Of each device at most one background flush is on its way, and after `cancel_all` none is (`singleFlight`).
* After one failed, the next starts no earlier than the cooldown later (`backsOff`).
* What a call has flushed is in the context of no other call that runs or has succeeded (`learned_once`).

`Quiet` asks that no flush is scheduled while `cancel_all` waits: one that is would be forgotten while it runs.
-/

namespace RideTheApi.FlushCoordinator

open Buffer Transition Flush

/-- `_FLUSH_RETRY_COOLDOWN_S`, in nanoseconds. -/
def flushRetryCooldown : Nat := 60 * 10 ^ 9

/-- A background task: the device it is for, the number of its `flush_and_learn` call, and whether it is done. -/
structure Job (δ : Type) where
  device : δ
  call : Nat
  done : Bool := false
deriving Repr, DecidableEq

/-- What happened to the automatic flushes of a device, and when. -/
inductive Event (δ : Type) where
  | started (dev : δ) (time : Nat)
  | failed (dev : δ) (time : Nat)
deriving Repr, DecidableEq

/-- The calls with the buffer under them, the background tasks there were, what the coordinator knows of them, and the
    clock. `gathering` lists the tasks `cancel_all` waits for. -/
structure State (δ π : Type) where
  flush : Flush.State δ π
  jobs : List (Job δ) := []
  /-- `_tasks`: the number of the background task of a device. -/
  tasks : Dict δ Nat := []
  /-- `_retry_at`. -/
  retryAt : Dict δ Nat := []
  now : Nat := 0
  gathering : Option (List Nat) := none
  history : List (Event δ) := []
deriving Repr, DecidableEq

inductive Label (δ π : Type) where
  /-- Time passes. -/
  | tick (n : Nat)
  /-- `process_learning_pair` finds the buffer of the device full. -/
  | schedule (dev : δ)
  /-- A call of `flush_and_learn` that is not a background task's, a step of any call, or what happens to the buffer. -/
  | flush (l : Flush.Label δ π)
  /-- The call of a background task ended; what the task records. -/
  | record (k : Nat) (failed : Bool)
  /-- A background task that `cancel_all` cancelled raises where it is. -/
  | cancelled (k : Nat)
  /-- `cancel_all` up to its await. -/
  | cancelAll
  /-- `cancel_all` goes on. -/
  | gathered
deriving Repr, DecidableEq

variable {δ π : Type} [DecidableEq δ] [DecidableEq π]

namespace State

variable (s : State δ π)

/-- `is_running`. -/
def isRunning (dev : δ) : Bool :=
  match s.tasks.get? dev with
  | none   => false
  | some k => s.jobs[k]?.any fun job => !job.done

/-- `cooling_down`. -/
def coolingDown (dev : δ) : Bool := s.now < (s.retryAt.get? dev).getD 0

/-- `start`: the task is created; its call waits for the device's lock. -/
def start (dev : δ) : State δ π :=
  { s with flush := { s.flush with cycles := s.flush.cycles ++ [{ device := dev, pairIds := none }] }
           jobs := s.jobs ++ [{ device := dev, call := s.flush.cycles.length }]
           tasks := s.tasks.set dev s.jobs.length
           history := s.history ++ [.started dev s.now] }

/-- `_schedule_flush`. -/
def scheduleFlush (dev : δ) : State δ π :=
  if s.isRunning dev then s
  else if s.coolingDown dev then s
  else s.start dev

/-- A background task is done. -/
def finish (k : Nat) (job : Job δ) : State δ π := { s with jobs := s.jobs.set k { job with done := true } }

/-- `record`. -/
def record (dev : δ) (failed : Bool) : State δ π :=
  if failed then
    { s with retryAt := s.retryAt.set dev (s.now + flushRetryCooldown)
             history := s.history ++ [.failed dev s.now] }
  else { s with retryAt := s.retryAt.erase dev }

end State

/-- A call that returned or raised, and whether it succeeded. -/
def ended (c : Cycle δ π) : Option Bool :=
  match c.pc with
  | .learned _ _ _ => some true
  | .failed _ _    => some false
  | _              => none

/-- Where a call is that raised: what it sent, and what it has flushed. -/
def raised (c : Cycle δ π) : Pc δ π :=
  match c.pc with
  | .analysing context | .marking context _ => .failed context []
  | .marked context marked                  => .failed context marked
  | _                                       => .failed [] []

omit [DecidableEq δ] [DecidableEq π] in
theorem ended_raised (c : Cycle δ π) : (ended { c with pc := raised c }).isSome = true := by
  unfold raised
  split <;> rfl

/-- A step of a call, or of the buffer; a call of a background task begins with the task. -/
def flushStep (s : State δ π) (l : Flush.Label δ π) : Option (State δ π) :=
  (Flush.step s.flush l).map fun flush => { s with flush }

/-- One step. -/
def step (s : State δ π) : Label δ π → Option (State δ π)
  | .tick n       => some { s with now := s.now + n }
  | .schedule dev => some (s.scheduleFlush dev)
  | .flush l      => flushStep s l
  | .record k failed =>
    s.jobs[k]?.bind fun job =>
      match (s.flush.cycles[job.call]?).bind ended with
      -- A call that succeeded is not a failure; one that did not may have had nothing to send.
      | some succeeded =>
        if job.done || (succeeded && failed) then none else some ((s.record job.device failed).finish k job)
      | none => none
  | .cancelled k =>
    s.jobs[k]?.bind fun job =>
      (s.flush.cycles[job.call]?).bind fun c =>
        if job.done || (ended c).isSome || !(s.gathering.any (·.contains k)) then none
        else some ({ s with flush := s.flush.setPc job.call c (raised c) }.finish k job)
  | .cancelAll =>
    if s.gathering.isNone then some { s with gathering := some (s.tasks.map Prod.snd) } else none
  | .gathered =>
    match s.gathering with
    | some ks =>
      if ks.all fun k => s.jobs[k]?.all (·.done) then some { s with tasks := [], gathering := none } else none
    | none => none

/-- No flush is scheduled while `cancel_all` waits. -/
def Quiet (s : State δ π) : Label δ π → Prop
  | .schedule _ => s.gathering = none
  | _           => True

instance (s : State δ π) (l : Label δ π) : Decidable (Quiet s l) := by
  unfold Quiet
  split <;> infer_instance

/-- No switch of the buffer's backend starts while a call runs, and no call gets its lock while one is on its way. -/
def CalmBuffer (s : State δ π) : Label δ π → Prop
  | .flush l => Calm s.flush l
  | _        => True

instance (s : State δ π) (l : Label δ π) : Decidable (CalmBuffer s l) := by
  unfold CalmBuffer
  split <;> infer_instance

/-- A process with empty buffers and no call running. -/
def initial (memory : Bool) : State δ π := { flush := Flush.start memory }

/-! ## What a step leaves of the calls -/

variable {s s' : State δ π} {l : Label δ π} {k k' : Nat} {job job' : Job δ} {c : Cycle δ π} {f f' : Flush.State δ π}

omit [DecidableEq δ] [DecidableEq π] in
theorem setPc_at {i j : Nat} {d : Cycle δ π} (hi : f.cycles[i]? = some c) (hj : f.cycles[j]? = some d)
    (hnot : ended c = none) (pc : Pc δ π) :
    ∃ d', (f.setPc i c pc).cycles[j]? = some d' ∧ d'.device = d.device ∧ ((ended d).isSome = true → d' = d) := by
  have hlt : i < f.cycles.length := (List.getElem?_eq_some_iff.mp hi).1
  simp only [Flush.State.setPc, List.getElem?_set]
  by_cases hij : i = j
  · subst hij
    obtain rfl : c = d := Option.some.inj (hi.symm.trans hj)
    exact ⟨{ c with pc }, by simp [hlt], rfl, fun h => by simp [hnot] at h⟩
  · exact ⟨d, by rw [if_neg hij]; exact hj, rfl, fun _ => rfl⟩

omit [DecidableEq π] in
/-- A step of a call moves that call on, which has not ended. -/
theorem cycleStep_moves {i : Nat} {l : Flush.Label δ π} (hs : cycleStep f i c l = some f') :
    ended c = none ∧ ∃ sw pc, f' = ({ f with switch := sw } : Flush.State δ π).setPc i c pc := by
  have hstore : ∀ memory st, ∃ sw, f.setStore memory st = { f with switch := sw } := by
    intro memory st
    unfold Flush.State.setStore
    split
    · exact ⟨_, rfl⟩
    · exact ⟨_, rfl⟩
  unfold cycleStep at hs
  split at hs
  case h_1 =>
    split at hs
    next hpc =>
      split at hs <;> cases hs
      exact ⟨by simp [ended, hpc], f.switch, _, rfl⟩
    next => cases hs
  case h_2 =>
    split at hs
    next hpc =>
      dsimp only at hs
      split at hs <;> cases hs
      · exact ⟨by simp [ended, hpc], f.switch, _, rfl⟩
      · exact ⟨by simp [ended, hpc], f.switch, _, rfl⟩
    next => cases hs
  case h_5 =>
    split at hs
    next context memory hpc =>
      cases hs
      obtain ⟨sw, hsw⟩ := hstore memory ((f.storeOf memory).flushSelected c.device (c.analysedIds context))
      exact ⟨by simp [ended, hpc], sw, _, by rw [hsw]⟩
    next => cases hs
  case h_9 => cases hs
  all_goals
    split at hs
    next hpc =>
      cases hs
      exact ⟨by simp [ended, hpc], f.switch, _, rfl⟩
    next => cases hs

/-- The calls stay at their numbers and with their devices, and one that has ended stays as it is. -/
theorem flush_step_at {l : Flush.Label δ π} (hs : Flush.step f l = some f') {j : Nat} {d : Cycle δ π}
    (hj : f.cycles[j]? = some d) :
    ∃ d', f'.cycles[j]? = some d' ∧ d'.device = d.device ∧ ((ended d).isSome = true → d' = d) := by
  have hsame : ∀ {g : Flush.State δ π}, g.cycles = f.cycles →
      ∃ d', g.cycles[j]? = some d' ∧ d'.device = d.device ∧ ((ended d).isSome = true → d' = d) :=
    fun hg => ⟨d, by rw [hg]; exact hj, rfl, fun _ => rfl⟩
  have hcall : ∀ {i}, (f.cycles[i]?.bind fun c => cycleStep f i c l) = some f' →
      ∃ d', f'.cycles[j]? = some d' ∧ d'.device = d.device ∧ ((ended d).isSome = true → d' = d) := by
    intro i hs
    obtain ⟨c, hi, hs⟩ := Option.bind_eq_some_iff.mp hs
    obtain ⟨hnot, sw, pc, rfl⟩ := cycleStep_moves hs
    exact setPc_at (f := { f with switch := sw }) hi hj hnot pc
  cases l with
  | flushAndLearn dev pairIds =>
    cases hs
    exact ⟨d, (List.getElem?_append_left (List.getElem?_eq_some_iff.mp hj).1).trans hj, rfl, fun _ => rfl⟩
  | addPair memory id sequence dev pair size =>
    simp only [Flush.step] at hs
    split at hs
    · cases hs
      refine hsame ?_
      unfold Flush.State.setStore
      split <;> rfl
    · cases hs
  | startSwitch ids =>
    obtain ⟨sw, -, rfl⟩ := Option.map_eq_some_iff.mp hs
    exact hsame rfl
  | switchStep id sequence =>
    obtain ⟨sw, -, rfl⟩ := Option.map_eq_some_iff.mp hs
    exact hsame rfl
  | acquire i => exact hcall hs
  | read i => exact hcall hs
  | analysed i => exact hcall hs
  | analysisFailed i => exact hcall hs
  | update i => exact hcall hs
  | updateRaised i => exact hcall hs
  | finish i => exact hcall hs
  | finishRaised i => exact hcall hs

/-! ## The invariant -/

/-- A background task at work. -/
def State.Alive (s : State δ π) (k : Nat) (job : Job δ) : Prop := s.jobs[k]? = some job ∧ job.done = false

/-- A flush of a device starts no earlier than the cooldown after one that failed. -/
def Spaced : Event δ → Event δ → Prop
  | .failed dev t, .started dev' t' => dev = dev' → t + flushRetryCooldown ≤ t'
  | _, _ => True

/-- What holds in every state of a quiet run. -/
structure Coordinated (s : State δ π) : Prop where
  tasks : ∀ dev k, s.tasks.get? dev = some k → ∃ job, s.jobs[k]? = some job ∧ job.device = dev
  alive : ∀ k job, s.Alive k job → s.tasks.get? job.device = some k
  calls : ∀ (k : Nat) (job : Job δ), s.jobs[k]? = some job → ∃ c, s.flush.cycles[job.call]? = some c ∧ c.device = job.device ∧
    (job.done = true → (ended c).isSome = true)
  gathering : ∀ ks, s.gathering = some ks → ∀ k job, s.Alive k job → k ∈ ks
  backoff : ∀ dev t, Event.failed dev t ∈ s.history → t + flushRetryCooldown ≤ s.now ∨
    (∃ r, s.retryAt.get? dev = some r ∧ t + flushRetryCooldown ≤ r) ∧ ∀ k job, s.Alive k job → job.device ≠ dev
  spaced : s.history.Pairwise Spaced

omit [DecidableEq π] in
theorem coordinated_initial (memory : Bool) : Coordinated (initial memory : State δ π) := by
  constructor <;> simp [initial, State.Alive, Dict.get?]

omit [DecidableEq π] in
/-- A running flush is known to be one. -/
theorem Coordinated.isRunning_of_alive (h : Coordinated s) (hk : s.Alive k job) : s.isRunning job.device = true := by
  simp [State.isRunning, h.alive k job hk, hk.1, hk.2]

omit [DecidableEq π] in
/-- Where the coordinator knows of no running flush there is none. -/
theorem Coordinated.not_alive (h : Coordinated s) {dev : δ} (hrunning : s.isRunning dev = false) :
    ∀ k job, s.Alive k job → job.device ≠ dev := by
  rintro k job hk rfl
  rw [h.isRunning_of_alive hk] at hrunning
  cases hrunning

omit [DecidableEq π] in
/-- A background task is created. -/
theorem Coordinated.start (h : Coordinated s) {dev : δ} (hrunning : s.isRunning dev = false) (hcool : s.coolingDown dev = false)
    (hquiet : s.gathering = none) : Coordinated (s.start dev) := by
  have hnone := h.not_alive hrunning
  -- Every failure so far is a cooldown ago.
  have hpast : ∀ t, Event.failed dev t ∈ s.history → t + flushRetryCooldown ≤ s.now := by
    intro t ht
    rcases h.backoff dev t ht with hle | ⟨⟨r, hr, hle⟩, -⟩
    · exact hle
    · simp only [State.coolingDown, hr, Option.getD_some, decide_eq_false_iff_not, not_lt] at hcool
      exact hle.trans hcool
  have hget : ∀ {k job}, (s.start dev).jobs[k]? = some job →
      s.jobs[k]? = some job ∨ (k = s.jobs.length ∧ job = { device := dev, call := s.flush.cycles.length }) := by
    intro k job hk
    rcases Nat.lt_trichotomy k s.jobs.length with hlt | rfl | hgt
    · exact .inl ((List.getElem?_append_left hlt).symm.trans hk)
    · simp only [State.start, List.getElem?_concat_length, Option.some.injEq] at hk
      exact .inr ⟨rfl, hk.symm⟩
    · rw [State.start, List.getElem?_eq_none (by simp; omega)] at hk
      cases hk
  have hlast : (s.start dev).jobs[s.jobs.length]? = some { device := dev, call := s.flush.cycles.length } := by
    simp [State.start]
  refine ⟨fun dev' k hk => ?_, fun k job hk => ?_, fun k job hk => ?_, fun ks hks => ?_, fun dev' t ht => ?_, ?_⟩
  · simp only [State.start, Dict.get?_set] at hk
    split at hk
    case isTrue heq =>
      cases hk
      exact ⟨_, hlast, heq⟩
    case isFalse =>
      obtain ⟨job, hjob, hdev⟩ := h.tasks dev' k hk
      exact ⟨job, (List.getElem?_append_left (List.getElem?_eq_some_iff.mp hjob).1).trans hjob, hdev⟩
  · simp only [State.start, Dict.get?_set]
    rcases hget hk.1 with hold | ⟨rfl, rfl⟩
    · rw [if_neg fun heq => hnone k job ⟨hold, hk.2⟩ heq.symm]
      exact h.alive k job ⟨hold, hk.2⟩
    · rw [if_pos rfl]
  · rcases hget hk with hold | ⟨rfl, rfl⟩
    · obtain ⟨c, hc, hrest⟩ := h.calls k job hold
      exact ⟨c, (List.getElem?_append_left (List.getElem?_eq_some_iff.mp hc).1).trans hc, hrest⟩
    · exact ⟨{ device := dev, pairIds := none }, by simp [State.start], rfl, fun hdone => by simp at hdone⟩
  · rw [show (s.start dev).gathering = s.gathering from rfl, hquiet] at hks
    cases hks
  · have hmem : Event.failed dev' t ∈ s.history := by simpa [State.start] using ht
    by_cases hdev : dev' = dev
    · subst hdev
      exact .inl (hpast t hmem)
    · rcases h.backoff dev' t hmem with hle | ⟨hr, hothers⟩
      · exact .inl hle
      · refine .inr ⟨hr, fun k job hk => ?_⟩
        rcases hget hk.1 with hold | ⟨-, rfl⟩
        · exact hothers k job ⟨hold, hk.2⟩
        · exact Ne.symm hdev
  · refine List.pairwise_append.mpr ⟨h.spaced, List.pairwise_singleton _ _, fun e he e' he' => ?_⟩
    rw [List.mem_singleton.mp he']
    cases e with
    | started dev' t => trivial
    | failed dev' t =>
      rintro rfl
      exact hpast t he

omit [DecidableEq π] in
/-- A background task ends, and its call has ended; the others stay. -/
theorem Coordinated.finish (h : Coordinated s) (hk : s.Alive k job) (hcall : ∀ c, s.flush.cycles[job.call]? = some c → (ended c).isSome = true) :
    Coordinated (s.finish k job) ∧ ∀ k' job', (s.finish k job).Alive k' job' → job'.device ≠ job.device := by
  have hlt : k < s.jobs.length := (List.getElem?_eq_some_iff.mp hk.1).1
  have hget : ∀ {k' job'}, (s.finish k job).jobs[k']? = some job' →
      (k' = k ∧ job' = { job with done := true }) ∨ (k' ≠ k ∧ s.jobs[k']? = some job') := by
    intro k' job' hk'
    simp only [State.finish, List.getElem?_set] at hk'
    split at hk'
    case isTrue heq => exact .inl ⟨heq.symm, (Option.some.inj (by simpa [heq ▸ hlt] using hk')).symm⟩
    case isFalse hne => exact .inr ⟨Ne.symm hne, hk'⟩
  have halive : ∀ {k' job'}, (s.finish k job).Alive k' job' → k' ≠ k ∧ s.Alive k' job' := by
    intro k' job' hk'
    rcases hget hk'.1 with ⟨rfl, rfl⟩ | ⟨hne, hold⟩
    · exact absurd hk'.2 (by simp)
    · exact ⟨hne, hold, hk'.2⟩
  refine ⟨⟨fun dev k' hk' => ?_, fun k' job' hk' => h.alive k' job' (halive hk').2, fun k' job' hk' => ?_,
    fun ks hks k' job' hk' => h.gathering ks hks k' job' (halive hk').2, fun dev t ht => ?_, h.spaced⟩,
    fun k' job' hk' hdev => ?_⟩
  · obtain ⟨job', hjob', hdev⟩ := h.tasks dev k' hk'
    by_cases hkk : k' = k
    · subst hkk
      obtain rfl : job = job' := Option.some.inj (hk.1.symm.trans hjob')
      exact ⟨{ job with done := true }, by simp [State.finish, hlt], hdev⟩
    · exact ⟨job', by simp [State.finish, Ne.symm hkk, hjob'], hdev⟩
  · rcases hget hk' with ⟨rfl, rfl⟩ | ⟨-, hold⟩
    · obtain ⟨c, hc, hdev, -⟩ := h.calls k' job hk.1
      exact ⟨c, hc, hdev, fun _ => hcall c hc⟩
    · exact h.calls k' job' hold
  · rcases h.backoff dev t ht with hle | ⟨hr, hothers⟩
    · exact .inl hle
    · exact .inr ⟨hr, fun k' job' hk' => hothers k' job' (halive hk').2⟩
  · -- Two tasks of a device at work would be one.
    obtain ⟨hne, hold⟩ := halive hk'
    have h1 := h.alive k' job' hold
    rw [hdev, h.alive k job hk] at h1
    exact hne (Option.some.inj h1).symm

omit [DecidableEq π] in
/-- What a task records leaves the rest as it is. -/
theorem Coordinated.record (h : Coordinated s) {dev : δ} (hnone : ∀ k job, s.Alive k job → job.device ≠ dev)
    (hpast : ∀ t, Event.failed dev t ∈ s.history → t + flushRetryCooldown ≤ s.now) (failed : Bool) :
    Coordinated (s.record dev failed) := by
  cases failed with
  | true =>
    refine ⟨h.tasks, h.alive, h.calls, h.gathering, fun dev' t ht => ?_, ?_⟩
    · rcases List.mem_append.mp ht with ht | ht
      · rcases h.backoff dev' t ht with hle | ⟨⟨r, hr, hle⟩, hothers⟩
        · exact .inl hle
        · by_cases hdev : dev = dev'
          · exact .inl (hpast t (hdev ▸ ht))
          · refine .inr ⟨⟨r, ?_, hle⟩, hothers⟩
            rw [show (s.record dev true).retryAt = s.retryAt.set dev (s.now + flushRetryCooldown) from rfl,
              Dict.get?_set, if_neg hdev]
            exact hr
      · obtain ⟨rfl, rfl⟩ := by simpa using ht
        refine .inr ⟨⟨s.now + flushRetryCooldown, ?_, le_rfl⟩, hnone⟩
        rw [show (s.record dev' true).retryAt = s.retryAt.set dev' (s.now + flushRetryCooldown) from rfl,
          Dict.get?_set, if_pos rfl]
    · refine List.pairwise_append.mpr ⟨h.spaced, List.pairwise_singleton _ _, fun e _ e' he' => ?_⟩
      rw [List.mem_singleton.mp he']
      cases e <;> trivial
  | false =>
    refine ⟨h.tasks, h.alive, h.calls, h.gathering, fun dev' t ht => ?_, h.spaced⟩
    rcases h.backoff dev' t ht with hle | ⟨⟨r, hr, hle⟩, hothers⟩
    · exact .inl hle
    · by_cases hdev : dev = dev'
      · exact .inl (hpast t (hdev ▸ ht))
      · refine .inr ⟨⟨r, ?_, hle⟩, hothers⟩
        rw [show (s.record dev false).retryAt = s.retryAt.erase dev from rfl, Dict.get?_erase, if_neg hdev]
        exact hr

omit [DecidableEq π] in
/-- A background task at work started after every failure of its device. -/
theorem Coordinated.past_of_alive (h : Coordinated s) (hk : s.Alive k job) :
    ∀ t, Event.failed job.device t ∈ s.history → t + flushRetryCooldown ≤ s.now := by
  intro t ht
  rcases h.backoff job.device t ht with hle | ⟨-, hothers⟩
  · exact hle
  · exact absurd rfl (hothers k job hk)

/-- **A step keeps the invariant.** -/
theorem Coordinated.step (h : Coordinated s) (hok : Quiet s l) (hs : step s l = some s') : Coordinated s' := by
  cases l with
  | tick n =>
    cases hs
    refine ⟨h.tasks, h.alive, h.calls, h.gathering, fun dev t ht => ?_, h.spaced⟩
    exact (h.backoff dev t ht).imp_left fun hle => hle.trans (Nat.le_add_right _ _)
  | schedule dev =>
    cases hs
    unfold State.scheduleFlush
    split
    · exact h
    case isFalse hrunning =>
      split
      · exact h
      case isFalse hcool => exact h.start (by simpa using hrunning) (by simpa using hcool) hok
  | flush l =>
    obtain ⟨f', hf, rfl⟩ := Option.map_eq_some_iff.mp hs
    refine ⟨h.tasks, h.alive, fun k job hk => ?_, h.gathering, h.backoff, h.spaced⟩
    obtain ⟨c, hc, hdev, hdone⟩ := h.calls k job hk
    obtain ⟨c', hc', hdev', hsame⟩ := flush_step_at hf hc
    exact ⟨c', hc', hdev'.trans hdev, fun hd => hsame (hdone hd) ▸ hdone hd⟩
  | record k failed =>
    obtain ⟨job, hk, hs⟩ := Option.bind_eq_some_iff.mp hs
    split at hs
    case h_2 => cases hs
    case h_1 succeeded hended =>
      split at hs
      · cases hs
      case isFalse hnot =>
        cases hs
        simp only [Bool.or_eq_true, not_or, Bool.not_eq_true] at hnot
        obtain ⟨c, hc, hended⟩ := Option.bind_eq_some_iff.mp hended
        have hk : s.Alive k job := ⟨hk, hnot.1⟩
        -- The order of the two is of no account.
        have hswap : (s.record job.device failed).finish k job = (s.finish k job).record job.device failed := by
          unfold State.record
          cases failed <;> rfl
        have hfinish := h.finish hk fun c' hc' => by
          obtain rfl : c = c' := Option.some.inj (hc.symm.trans hc')
          simp [hended]
        rw [hswap]
        exact hfinish.1.record hfinish.2 (h.past_of_alive hk) failed
  | cancelled k =>
    obtain ⟨job, hk, hs⟩ := Option.bind_eq_some_iff.mp hs
    obtain ⟨c, hc, hs⟩ := Option.bind_eq_some_iff.mp hs
    split at hs
    · cases hs
    case isFalse hnot =>
      cases hs
      simp only [Bool.or_eq_true, not_or, Bool.not_eq_true, Option.isSome_eq_false_iff, Option.isNone_iff_eq_none] at hnot
      obtain ⟨⟨hdone, hended⟩, -⟩ := hnot
      have hcalls : Coordinated { s with flush := s.flush.setPc job.call c (raised c) } := by
        refine ⟨h.tasks, h.alive, fun k job hk => ?_, h.gathering, h.backoff, h.spaced⟩
        obtain ⟨d, hd, hdev, hdone⟩ := h.calls k job hk
        obtain ⟨d', hd', hdev', hsame⟩ := setPc_at hc hd hended (raised c)
        exact ⟨d', hd', hdev'.trans hdev, fun hjob => hsame (hdone hjob) ▸ hdone hjob⟩
      refine (hcalls.finish ⟨hk, hdone⟩ fun c' hc' => ?_).1
      have hlt : job.call < s.flush.cycles.length := (List.getElem?_eq_some_iff.mp hc).1
      simp only [Flush.State.setPc, List.getElem?_set_self hlt, Option.some.injEq] at hc'
      exact hc' ▸ ended_raised c
  | cancelAll =>
    simp only [FlushCoordinator.step] at hs
    split at hs
    case isTrue =>
      cases hs
      refine ⟨h.tasks, h.alive, h.calls, fun ks hks k job hk => ?_, h.backoff, h.spaced⟩
      cases hks
      exact List.mem_map.mpr ⟨(job.device, k), Dict.mem_of_get? (h.alive k job hk), rfl⟩
    case isFalse => cases hs
  | gathered =>
    simp only [FlushCoordinator.step] at hs
    split at hs
    case h_2 => cases hs
    case h_1 ks hks =>
      split at hs
      case isFalse => cases hs
      case isTrue hall =>
        cases hs
        have hnone : ∀ k job, ¬ s.Alive k job := by
          intro k job hk
          have := List.all_eq_true.mp hall k (h.gathering ks hks k job hk)
          simp [hk.1, hk.2] at this
        refine ⟨fun dev k hk => by simp [Dict.get?] at hk, fun k job hk => (hnone k job hk).elim, h.calls,
          fun ks' hks' => (by cases hks'), fun dev t ht => ?_, h.spaced⟩
        exact (h.backoff dev t ht).imp_right fun hr => ⟨hr.1, fun k job hk => (hnone k job hk).elim⟩

/-! ## Runs -/

/-- **One automatic flush at a time.** In every quiet run, of each device at most one background flush is on its way, the
    coordinator knows of it, and where it knows of none (as after `cancel_all`) every call of a background flush has
    ended. -/
theorem singleFlight {memory : Bool} (h : ReachesUnder step Quiet (initial memory) s) :
    (∀ k k' job job', s.Alive k job → s.Alive k' job' → job.device = job'.device → k = k') ∧
    (∀ k job, s.Alive k job → s.isRunning job.device = true) ∧
    (s.tasks = [] → ∀ job ∈ s.jobs, ∃ c, s.flush.cycles[job.call]? = some c ∧ (ended c).isSome = true) := by
  have hinv : Coordinated s :=
    h.invariant (coordinated_initial memory) fun _ _ _ hinv hok hs => hinv.step hok hs
  refine ⟨fun k k' job job' hk hk' hdev => ?_, fun k job hk => hinv.isRunning_of_alive hk, fun hnone job hjob => ?_⟩
  · have hentry := hinv.alive k job hk
    rw [hdev, hinv.alive k' job' hk'] at hentry
    exact (Option.some.inj hentry).symm
  · obtain ⟨k, hk⟩ := List.getElem?_of_mem hjob
    obtain ⟨c, hc, -, hdone⟩ := hinv.calls k job hk
    refine ⟨c, hc, hdone ?_⟩
    by_contra halive
    have hentry := hinv.alive k job ⟨hk, by simpa using halive⟩
    simp [hnone, Dict.get?] at hentry

/-- A response schedules a flush, another one finds it running, and shutdown cancels it. -/
theorem singleFlight_shutdown : ∃ s : State String String, Reaches step (initial true) s ∧ s.jobs.length = 1 ∧
    (∀ k k' job job', s.Alive k job → s.Alive k' job' → job.device = job'.device → k = k') ∧
    (∀ k job, s.Alive k job → s.isRunning job.device = true) ∧
    (s.tasks = [] → ∀ job ∈ s.jobs, ∃ c, s.flush.cycles[job.call]? = some c ∧ (ended c).isSome = true) := by
  let ls : List (Label String String) :=
    [.flush (.addPair true 1 1 "plug" "a" 10), .schedule "plug", .flush (.acquire 0), .flush (.read 0), .schedule "plug",
     .cancelAll, .cancelled 0, .gathered]
  have hfacts : (exec step (initial true) ls).map (fun s => s.jobs.length) = some 1 := by decide +kernel
  obtain ⟨s, hrun, hjobs⟩ := Option.map_eq_some_iff.mp hfacts
  have hok : AllOk step Quiet (initial true) ls := by decide +kernel
  exact ⟨s, reaches_of_exec ls hrun, hjobs, singleFlight (reachesUnder_of_exec .start ls hrun hok)⟩

/-- **Failed flushes back off.** In every quiet run, an automatic flush of a device starts no earlier than the cooldown
    after every earlier one of that device that failed, whatever manual flushes do meanwhile. -/
theorem backsOff {memory : Bool} (h : ReachesUnder step Quiet (initial memory) s) {i j t t' : Nat} {dev : δ}
    (hij : i < j) (hi : s.history[i]? = some (.failed dev t)) (hj : s.history[j]? = some (.started dev t')) :
    t + flushRetryCooldown ≤ t' := by
  have hinv : Coordinated s :=
    h.invariant (coordinated_initial memory) fun _ _ _ hinv hok hs => hinv.step hok hs
  obtain ⟨hilt, hi⟩ := List.getElem?_eq_some_iff.mp hi
  obtain ⟨hjlt, hj⟩ := List.getElem?_eq_some_iff.mp hj
  have hspaced := List.pairwise_iff_getElem.mp hinv.spaced i j hilt hjlt hij
  rw [hi, hj] at hspaced
  exact hspaced rfl

/-- The LLM fails; the response right after it starts nothing, the one a minute later does. -/
theorem backsOff_minute : ∃ s : State String String, s.history[1]? = some (.failed "plug" 5) ∧
    s.history[2]? = some (.started "plug" (60 * 10 ^ 9 + 5)) ∧ 5 + flushRetryCooldown ≤ 60 * 10 ^ 9 + 5 := by
  let ls : List (Label String String) :=
    [.flush (.addPair true 1 1 "plug" "a" 10), .schedule "plug", .flush (.acquire 0), .flush (.read 0), .tick 5,
     .flush (.analysisFailed 0), .record 0 true, .schedule "plug", .tick (60 * 10 ^ 9), .schedule "plug"]
  have hfacts : (exec step (initial true) ls).map (fun s => (s.history[1]?, s.history[2]?)) =
      some (some (.failed "plug" 5), some (.started "plug" (60 * 10 ^ 9 + 5))) := by decide +kernel
  obtain ⟨s, hrun, hs⟩ := Option.map_eq_some_iff.mp hfacts
  have hok : AllOk step Quiet (initial true) ls := by decide +kernel
  obtain ⟨hfailed, hstarted⟩ := Prod.mk.injEq .. ▸ hs
  exact ⟨s, hfailed, hstarted, backsOff (reachesUnder_of_exec .start ls hrun hok) (by decide) hfailed hstarted⟩

/-- The calls of a coordinated run, and the buffer under them, keep what holds of calls alone. -/
theorem once_step (h : Once s.flush) (hok : CalmBuffer s l) (hs : step s l = some s') : Once s'.flush := by
  cases l with
  | tick n =>
    cases hs
    exact h
  | schedule dev =>
    cases hs
    unfold State.scheduleFlush
    split
    · exact h
    · split
      · exact h
      · exact h.step (l := .flushAndLearn dev none) trivial rfl
  | flush l =>
    obtain ⟨f', hf, rfl⟩ := Option.map_eq_some_iff.mp hs
    exact h.step hok hf
  | record k failed =>
    obtain ⟨job, -, hs⟩ := Option.bind_eq_some_iff.mp hs
    split at hs
    · split at hs
      · cases hs
      · cases hs
        unfold State.record
        split <;> exact h
    · cases hs
  | cancelled k =>
    obtain ⟨job, -, hs⟩ := Option.bind_eq_some_iff.mp hs
    obtain ⟨c, hc, hs⟩ := Option.bind_eq_some_iff.mp hs
    split at hs
    · cases hs
    · cases hs
      have hfailed : ∃ context marked, raised c = .failed context marked := by
        unfold raised
        split <;> exact ⟨_, _, rfl⟩
      obtain ⟨context, marked, hfailed⟩ := hfailed
      show Once (s.flush.setPc job.call c (raised c))
      rw [hfailed]
      exact h.abort hc context marked
  | cancelAll =>
    simp only [FlushCoordinator.step] at hs
    split at hs <;> cases hs
    exact h
  | gathered =>
    simp only [FlushCoordinator.step] at hs
    split at hs
    · split at hs <;> cases hs
      exact h
    · cases hs

end RideTheApi.FlushCoordinator
