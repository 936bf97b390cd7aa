import RideTheApi.Lib.Transition
import RideTheApi.Resilience.Independence

/-!
# `Resilience.Scheduler` — a scheduler pass and an operator on one device

A pass lists the devices, computes the status of one, and writes its mode; each of these is an await, and
the write is an `UPDATE` of a row selected one await earlier. An operator's call takes effect at its commit.
The pass takes the mode of a device to promote from the list it read first, and never looks again, so an
operator who acts while the pass relies on what it read is overridden. In every run without such a call, what
the pass changes is what it may change (`changes_legit`).
-/

namespace RideTheApi.Scheduler

open Py Resilience Transition

/-- What a pass may do to the mode of a device. -/
inductive Switch where
  | promote
  | rollBack
deriving Repr, DecidableEq

namespace Switch

/-- The mode it writes. -/
def target : Switch → Str
  | promote  => "production"
  | rollBack => "learning"

/-- The mode it is meant for. -/
def source : Switch → Str
  | promote  => "learning"
  | rollBack => "production"

end Switch

/-- Where the pass is with the device. -/
inductive Phase where
  | idle
  /-- `list_devices` has returned; other devices may come first. -/
  | listed (row : Registered)
  /-- In `auto_switch_to_production`, before the status is there. -/
  | promoting
  /-- In `should_rollback_to_learning`, before the status is there. -/
  | reviewing
  /-- In `update_device_mode`, before its `SELECT`. -/
  | switching (switch : Switch)
  /-- In `update_device_mode`, before its commit. -/
  | committing (switch : Switch) (selected : Registered)
deriving Repr, DecidableEq

/-- A mode the pass changed, and the auto-switch flag at that moment. -/
structure Change where
  before : Str
  after : Str
  autoSwitchEnabled : Bool
deriving Repr, DecidableEq

/-- The row of the device, the pass, and what the pass has changed. -/
structure State where
  device : Registered
  phase : Phase := .idle
  changes : List Change := []
deriving Repr, DecidableEq

/-- One await of the pass, or one commit of an operator. -/
inductive Label where
  | list
  /-- The pass comes to the device; `promote` is the deployment's auto-switch setting. -/
  | visit (promote : Bool)
  /-- The registry row of the status is read; `verdict` is what the statistics say. -/
  | status (verdict : Bool)
  | select
  | commit
  /-- The commit of an operator's `update_device_mode`. -/
  | operatorMode (mode : Str)
  /-- The commit of an operator's `update_device_auto_switch`. -/
  | operatorAutoSwitch (enabled : Bool)
deriving Repr, DecidableEq

/-- `update_device_mode` writes the mode when the selected row had another one. -/
def commitMode (s : State) (switch : Switch) (selected : Registered) : State :=
  if selected.mode = switch.target then { s with phase := .idle }
  else
    { device := { s.device with mode := switch.target }
      phase := .idle
      changes := s.changes ++ [⟨s.device.mode, switch.target, s.device.autoSwitchEnabled⟩] }

/-- One step. -/
def step (s : State) : Label → Option State
  | .list =>
    match s.phase with
    | .idle => some { s with phase := .listed s.device }
    | _     => none
  | .visit promote =>
    match s.phase with
    | .listed row =>
      if row.mode = str "learning" ∧ row.autoSwitchEnabled = true then
        some { s with phase := if promote then .promoting else .idle }
      else some { s with phase := if row.mode = str "production" then .reviewing else .idle }
    | _           => none
  | .status verdict =>
    match s.phase with
    | .promoting =>
      some { s with phase := if s.device.autoSwitchEnabled && verdict then .switching .promote else .idle }
    | .reviewing =>
      some { s with
        phase := if s.device.mode == str "production" && s.device.autoSwitchEnabled && verdict
          then .switching .rollBack else .idle }
    | _          => none
  | .select =>
    match s.phase with
    | .switching switch => some { s with phase := .committing switch s.device }
    | _                 => none
  | .commit =>
    match s.phase with
    | .committing switch selected => some (commitMode s switch selected)
    | _                           => none
  | .operatorMode mode => some { s with device := { s.device with mode := mode } }
  | .operatorAutoSwitch enabled => some { s with device := { s.device with autoSwitchEnabled := enabled } }

/-- A change the pass may make: from learning to production or back, with auto-switch enabled. -/
def Change.Legit (c : Change) : Prop :=
  (∃ switch : Switch, c.before = switch.source ∧ c.after = switch.target) ∧ c.autoSwitchEnabled = true

/-! ## What the pass relies on -/

/-- What a phase takes for granted of the device, without looking again. -/
def Phase.relies : Phase → Registered → Bool
  | .listed row, d          =>
    !(row.mode == str "learning" && row.autoSwitchEnabled) || d.mode == str "learning"
  | .promoting, d           => d.mode == str "learning"
  | .switching switch, d    => d.mode == switch.source && d.autoSwitchEnabled
  | .committing switch _, d => d.mode == switch.source && d.autoSwitchEnabled
  | _, _                    => true

/-- No operator changes what the pass relies on at that moment. -/
def Undisturbed (s : State) : Label → Prop
  | .operatorMode mode          => s.phase.relies { s.device with mode := mode } = true
  | .operatorAutoSwitch enabled => s.phase.relies { s.device with autoSwitchEnabled := enabled } = true
  | _                           => True

instance (s : State) (l : Label) : Decidable (Undisturbed s l) := by
  cases l <;> unfold Undisturbed <;> infer_instance

/-- What holds in an undisturbed run: the pass relies on what is so, and has made no other change than it may. -/
structure Inv (s : State) : Prop where
  relies : s.phase.relies s.device = true
  legit : ∀ c ∈ s.changes, c.Legit

section
variable {s s' : State} {l : Label}

theorem Inv.commit {switch : Switch} {selected : Registered} (h : Inv s)
    (hphase : s.phase = .committing switch selected) : Inv (commitMode s switch selected) := by
  unfold commitMode
  split
  · exact ⟨rfl, h.legit⟩
  · refine ⟨rfl, fun c hc => ?_⟩
    rcases List.mem_append.mp hc with hc | hc
    · exact h.legit c hc
    · rw [List.mem_singleton.mp hc]
      have hrelies := h.relies
      rw [hphase] at hrelies
      simp only [Phase.relies, Bool.and_eq_true, beq_iff_eq] at hrelies
      exact ⟨⟨switch, hrelies.1, rfl⟩, hrelies.2⟩

/-- Every undisturbed step keeps the invariant. -/
theorem Inv.step (h : Inv s) (hok : Undisturbed s l) (hs : step s l = some s') : Inv s' := by
  cases l with
  | list =>
    simp only [Scheduler.step] at hs
    split at hs
    · cases hs
      refine ⟨?_, h.legit⟩
      -- The row just listed is the device as it is.
      show (!(s.device.mode == str "learning" && s.device.autoSwitchEnabled) || s.device.mode == str "learning") = true
      cases s.device.mode == str "learning" with
      | true => exact Bool.or_true _
      | false => rfl
    · cases hs
  | visit promote =>
    simp only [Scheduler.step] at hs
    split at hs
    · next row hphase =>
      have hrelies := h.relies
      rw [hphase] at hrelies
      split at hs
      · next hrow =>
        cases hs
        refine ⟨?_, h.legit⟩
        cases promote with
        -- The list shows the device in learning mode, and so it still is.
        | true => simpa [Phase.relies, hrow.1, hrow.2] using hrelies
        | false => rfl
      · cases hs
        refine ⟨?_, h.legit⟩
        dsimp only
        split <;> rfl
    · cases hs
  | status verdict =>
    simp only [Scheduler.step] at hs
    split at hs
    · next hphase =>
      cases hs
      have hrelies := h.relies
      rw [hphase] at hrelies
      refine ⟨?_, h.legit⟩
      dsimp only
      split
      · next hswitch =>
        rw [Bool.and_eq_true] at hswitch
        -- The status tells of the flag only; the mode is the one the list showed.
        show (s.device.mode == str "learning" && s.device.autoSwitchEnabled) = true
        rw [hswitch.1, Bool.and_true]
        exact hrelies
      · rfl
    · cases hs
      refine ⟨?_, h.legit⟩
      dsimp only
      split
      · next hswitch =>
        rw [Bool.and_eq_true] at hswitch
        exact hswitch.1
      · rfl
    · cases hs
  | select =>
    simp only [Scheduler.step] at hs
    split at hs
    · next switch hphase =>
      cases hs
      have hrelies := h.relies
      rw [hphase] at hrelies
      exact ⟨hrelies, h.legit⟩
    · cases hs
  | commit =>
    simp only [Scheduler.step] at hs
    split at hs
    · next switch selected hphase =>
      cases hs
      exact h.commit hphase
    · cases hs
  | operatorMode mode =>
    cases hs
    exact ⟨hok, h.legit⟩
  | operatorAutoSwitch enabled =>
    cases hs
    exact ⟨hok, h.legit⟩

/-- **The scheduler overrides no operator who leaves alone what the pass relies on**: in every run whose operator
    steps change, from the listing to the commit of a promotion, not the learning mode of the device, and, from
    the status to the commit of a switch, neither its mode nor its auto-switch flag, every change of the pass goes
    from learning to production or back on a device with auto-switch enabled. -/
theorem changes_legit (device : Registered) (h : ReachesUnder step Undisturbed { device := device } s) :
    ∀ c ∈ s.changes, c.Legit := by
  have hinv : Inv s :=
    h.invariant ⟨rfl, fun c hc => nomatch hc⟩ fun _ _ _ hinv hok hs => hinv.step hok hs
  exact hinv.legit

end

/-! ## Two passes -/

/-- A device in learning with auto-switch on. -/
def learning : Registered := { mode := "learning", autoSwitchEnabled := true }

/-- A promotion; afterwards the operator picks hybrid. -/
def promotedThenHybrid : List Label :=
  [.list, .visit true, .status true, .select, .commit, .operatorMode "hybrid"]

theorem promotedThenHybrid_legit : (⟨"learning", "production", true⟩ : Change).Legit :=
  changes_legit learning
    (s := { device := { mode := "hybrid", autoSwitchEnabled := true }
            changes := [⟨"learning", "production", true⟩] })
    (reachesUnder_of_exec .start promotedThenHybrid (by decide) (by decide)) _ List.mem_cons_self

/-- The operator picks passthrough while the pass visits other devices. -/
def passthroughOverridden : List Label :=
  [.list, .operatorMode "passthrough", .visit true, .status true, .select, .commit]

/-- The pass puts the device into production. -/
theorem passthroughOverridden_illegit : ¬ ∀ (device : Registered) (s : State), Reaches step { device := device } s →
    ∀ c ∈ s.changes, c.Legit := by
  intro h
  have hreach : Reaches step { device := learning } { device := { mode := "production", autoSwitchEnabled := true }
                                                      changes := [⟨"passthrough", "production", true⟩] } :=
    reaches_of_exec passthroughOverridden (by decide)
  obtain ⟨⟨switch, hsource, _⟩, _⟩ := h _ _ hreach _ List.mem_cons_self
  cases switch <;> exact absurd hsource (by decide)

end RideTheApi.Scheduler
