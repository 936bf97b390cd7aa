import Mathlib.Algebra.Order.Group.Defs
import Mathlib.Algebra.Order.Sub.Basic
import Mathlib.Algebra.Order.Group.Int
import Mathlib.Data.List.Induction
import RideTheApi.Lib.Transition

/-!
# `Resilience.Watchdog` — the connection watchdog across restarts

A process probes the network, counts the failures in a row in memory, and restarts itself when there are too many.
The restart replaces the process, so the time of the last one is kept in a file. A run is a list of events: a
process starts, or the running one goes round its loop once, with what the probe, the clock and the probe of a
fresh process say.
-/

namespace RideTheApi.Watchdog

open Transition

variable {T : Type}

/-- `ConnectionWatchdogConfig`, as far as restarts depend on it. -/
structure Config (T : Type) where
  maxFailures : Int := 5
  cooldown : T

/-- `ConnectionWatchdog`. No last restart is `-inf`. -/
structure ConnectionWatchdog (T : Type) where
  failures : Nat := 0
  lastRestart : Option T
deriving Repr, DecidableEq

/-- The machine: what the stamp file reads as, and the watchdog of the running process, while it loops. -/
structure Machine (T : Type) where
  stamp : Option T
  watchdog : Option (ConnectionWatchdog T) := none
deriving Repr, DecidableEq

inductive Event (T : Type) where
  /-- A process starts. -/
  | boot
  /-- One turn of the loop: the probe, the clock, and whether a fresh process gets through (none: cannot tell). -/
  | probe (ok : Bool) (now : T) (fresh : Option Bool)
deriving Repr, DecidableEq

/-- The reading of the clock. -/
def Event.clock : Event T → Option T
  | .boot          => none
  | .probe _ now _ => some now

def Event.failed : Event T → Bool
  | .probe false _ _ => true
  | _                => false

section
variable {e : Event T} {past : List (Event T)}

/-- The last `n` events, at least, are failed probes. -/
def FailedFor (past : List (Event T)) (n : Nat) : Prop :=
  ∃ before since, past = before ++ since ∧ n ≤ since.length ∧ ∀ e ∈ since, e.failed = true

theorem FailedFor.zero (past : List (Event T)) : FailedFor past 0 := ⟨past, [], by simp, Nat.le_refl 0, by simp⟩

theorem FailedFor.snoc {n k : Nat} (h : FailedFor past n) (hk : k ≤ if e.failed then n + 1 else 0) :
    FailedFor (past ++ [e]) k := by
  cases hfailed : e.failed with
  | false =>
    rw [hfailed] at hk
    obtain rfl := Nat.le_zero.mp hk
    exact .zero _
  | true =>
    obtain ⟨before, since, rfl, hlength, hall⟩ := h
    refine ⟨before, since ++ [e], by simp, ?_, ?_⟩
    · rw [hfailed, if_pos rfl] at hk
      rw [List.length_append, List.length_singleton]
      omega
    · intro e' he'
      rcases List.mem_append.mp he' with he' | he'
      · exact hall e' he'
      · rwa [List.mem_singleton.mp he']

end

variable [AddCommGroup T] [LinearOrder T]

section
variable (C : Config T)

/-- `_cooling_down`: a stamp from the future is not trusted. -/
def ConnectionWatchdog.coolingDown (w : ConnectionWatchdog T) (now : T) : Bool :=
  match w.lastRestart with
  | none      => false
  | some last => decide (0 ≤ now - last) && decide (now - last < C.cooldown)

/-- `_record_restart`, and the process is replaced. -/
def recordRestart (now : T) : Machine T := { stamp := some now }

/-- A turn of the loop of `_run`: what becomes of the machine, and the stamp of a restart that is decided. -/
def loopBody (stamp : Option T) (w : ConnectionWatchdog T) (ok : Bool) (now : T) (fresh : Option Bool) :
    Machine T × Option T :=
  if ok then ({ stamp, watchdog := some { w with failures := 0 } }, none)
  else
    let w := { w with failures := w.failures + 1 }
    if (w.failures : Int) < C.maxFailures then ({ stamp, watchdog := some w }, none)
    else if w.coolingDown C now then ({ stamp, watchdog := some w }, none)
    else if fresh = some false then ({ stamp, watchdog := some { w with failures := 0 } }, none)
    else (recordRestart now, some now)

/-- An event on the machine; only a running process probes. -/
def turn (m : Machine T) : Event T → Option (Machine T × Option T)
  | .boot               => some ({ m with watchdog := some { lastRestart := m.stamp } }, none)
  | .probe ok now fresh => m.watchdog.map fun w => loopBody C m.stamp w ok now fresh

def step (m : Machine T) (e : Event T) : Option (Machine T) := (turn C m e).map Prod.fst

/-- The restart that `e` decides after the events `past`. -/
def decided (m₀ : Machine T) (past : List (Event T)) (e : Event T) : Option T :=
  (exec (step C) m₀ past).bind fun m => (turn C m e).bind Prod.snd

/-! ## What a turn does -/

variable {C} {m₀ m m' : Machine T} {e : Event T} {past : List (Event T)} {t : T}

/-- A restart is decided after enough failures, by a failed probe outside the cooldown, unless a fresh process does
    not get through either. -/
theorem loopBody_decides {stamp : Option T} {w : ConnectionWatchdog T} {ok : Bool} {now : T} {fresh : Option Bool}
    (h : (loopBody C stamp w ok now fresh).2 = some t) :
    t = now ∧ ok = false ∧ fresh ≠ some false ∧ C.maxFailures ≤ w.failures + 1 ∧ w.coolingDown C now = false ∧
      (loopBody C stamp w ok now fresh).1 = recordRestart now := by
  unfold loopBody at h ⊢
  split at h
  · cases h
  · rename_i hok
    dsimp only at h ⊢
    split at h
    · cases h
    · rename_i hmax
      split at h
      · cases h
      · rename_i hcool
        split at h
        · cases h
        · rename_i hfresh
          cases h
          rw [if_neg hok, if_neg hmax, if_neg hcool, if_neg hfresh]
          refine ⟨rfl, by simpa using hok, hfresh, ?_, by simpa [ConnectionWatchdog.coolingDown] using hcool, rfl⟩
          push_cast at hmax
          omega

/-- A turn without a restart leaves the stamps; it counts a failed probe at most once, and forgets the others on a
    success. -/
theorem loopBody_goesOn {stamp : Option T} {w : ConnectionWatchdog T} {ok : Bool} {now : T} {fresh : Option Bool}
    (h : (loopBody C stamp w ok now fresh).2 = none) :
    ∃ failures, failures ≤ (if ok then 0 else w.failures + 1) ∧
      (loopBody C stamp w ok now fresh).1 = { stamp, watchdog := some { w with failures } } := by
  unfold loopBody at h ⊢
  cases ok with
  | true => exact ⟨0, Nat.le_refl 0, rfl⟩
  | false =>
    simp only [Bool.false_eq_true, if_false] at h ⊢
    split
    · exact ⟨_, Nat.le_refl _, rfl⟩
    · split
      · exact ⟨_, Nat.le_refl _, rfl⟩
      · split
        · exact ⟨0, Nat.zero_le _, rfl⟩
        · rename_i hmax hcool hfresh
          rw [if_neg hmax, if_neg hcool, if_neg hfresh] at h
          cases h

theorem turn_decides (h : (turn C m e).bind Prod.snd = some t) :
    ∃ w fresh, m.watchdog = some w ∧ e = .probe false t fresh ∧ fresh ≠ some false ∧ C.maxFailures ≤ w.failures + 1 ∧
      w.coolingDown C t = false ∧ step C m e = some (recordRestart t) := by
  cases e with
  | boot => cases h
  | probe ok now fresh =>
    unfold step
    unfold turn at h ⊢
    cases hw : m.watchdog with
    | none =>
      rw [hw] at h
      cases h
    | some w =>
      rw [hw] at h
      obtain ⟨rfl, rfl, hfresh, hmax, hcool, hnext⟩ := loopBody_decides h
      exact ⟨w, fresh, rfl, rfl, hfresh, hmax, hcool, by simp [hnext]⟩

/-- **What an event does.** A process starts with the stamp of the file; a turn decides a restart, or leaves the
    stamps and counts no more than the failed probe. -/
theorem step_cases (h : step C m e = some m') :
    (e = .boot ∧ m' = { m with watchdog := some { lastRestart := m.stamp } }) ∨
    (∃ t, e.clock = some t ∧ m' = recordRestart t) ∨
    (∃ w failures, m.watchdog = some w ∧ failures ≤ (if e.failed then w.failures + 1 else 0) ∧
      m' = { m with watchdog := some { w with failures } }) := by
  unfold step at h
  cases e with
  | boot =>
    cases h
    exact .inl ⟨rfl, rfl⟩
  | probe ok now fresh =>
    unfold turn at h
    obtain ⟨w, hw, rfl⟩ : ∃ w, m.watchdog = some w ∧ (loopBody C m.stamp w ok now fresh).1 = m' := by
      simpa using h
    cases hdecides : (loopBody C m.stamp w ok now fresh).2 with
    | some t =>
      obtain ⟨rfl, _, _, _, _, hnext⟩ := loopBody_decides hdecides
      exact .inr (.inl ⟨t, rfl, hnext⟩)
    | none =>
      obtain ⟨failures, hle, hnext⟩ := loopBody_goesOn hdecides
      refine .inr (.inr ⟨w, failures, hw, ?_, hnext⟩)
      cases ok <;> exact hle

/-! ## What a run keeps -/

theorem decided_cases (h : decided C m₀ past e = some t) :
    ∃ m, exec (step C) m₀ past = some m ∧ (turn C m e).bind Prod.snd = some t := by
  unfold decided at h
  exact Option.bind_eq_some_iff.mp h

/-- The failures that are counted were the last events. -/
theorem failedFor_of_exec (hoff : m₀.watchdog = none) (h : exec (step C) m₀ past = some m) :
    ∀ w ∈ m.watchdog, FailedFor past w.failures := by
  induction past using List.reverseRecOn generalizing m with
  | nil =>
    cases h
    rw [hoff]
    simp
  | append_singleton past e ih =>
    obtain ⟨m', hm', hstep⟩ := exec_snoc h
    rcases step_cases hstep with ⟨_, rfl⟩ | ⟨t, _, rfl⟩ | ⟨w, failures, hw, hle, rfl⟩
    · intro w' hw'
      cases hw'
      exact .zero _
    · intro w' hw'
      cases hw'
    · intro w' hw'
      cases hw'
      exact (ih hm' w hw).snoc hle

/-- After a restart the file and the running process hold the stamp of the last one. -/
theorem stamped_of_exec (h : exec (step C) (recordRestart t) past = some m) :
    ∃ last, m.stamp = some last ∧ last ∈ t :: past.filterMap Event.clock ∧ ∀ w ∈ m.watchdog, w.lastRestart = some last := by
  induction past using List.reverseRecOn generalizing m with
  | nil =>
    cases h
    exact ⟨t, rfl, List.mem_cons_self, by simp [recordRestart]⟩
  | append_singleton past e ih =>
    obtain ⟨m', hm', hstep⟩ := exec_snoc h
    obtain ⟨last, hstamp, hmem, hw⟩ := ih hm'
    have hmem' : last ∈ t :: (past ++ [e]).filterMap Event.clock := by
      rw [List.filterMap_append, ← List.cons_append]
      exact List.mem_append_left _ hmem
    rcases step_cases hstep with ⟨_, rfl⟩ | ⟨t', hclock, rfl⟩ | ⟨w, failures, hw', _, rfl⟩
    · refine ⟨last, hstamp, hmem', ?_⟩
      intro w' hw'
      cases hw'
      exact hstamp
    · refine ⟨t', rfl, ?_, by simp [recordRestart]⟩
      simp [hclock]
    · refine ⟨last, hstamp, hmem', ?_⟩
      intro w'' hw''
      cases hw''
      exact hw w hw'

/-! ## The law -/

variable [IsOrderedAddMonoid T]

/-- A restart out of the cooldown of an earlier one is at least the cooldown later. -/
theorem cooldown_le {w : ConnectionWatchdog T} {last now : T} (hlast : w.lastRestart = some last)
    (hcool : w.coolingDown C now = false) (hle : last ≤ now) : C.cooldown ≤ now - last := by
  unfold ConnectionWatchdog.coolingDown at hcool
  rw [hlast] at hcool
  by_contra hlt
  have hpos : 0 ≤ now - last := sub_nonneg.mpr hle
  simp [hpos, not_le.mp hlt] at hcool

/-- The restarts of a run are the cooldown apart; each is decided by a failed probe, after as many failed probes in
    a row as it takes, and not when a fresh process does not get through either. -/
structure RateLimited (C : Config T) (m₀ : Machine T) (run : List (Event T)) : Prop where
  apart : ∀ past e between e' later t t', run = past ++ e :: between ++ e' :: later →
    decided C m₀ past e = some t → decided C m₀ (past ++ e :: between) e' = some t' → C.cooldown ≤ t' - t
  failed : ∀ past e later t, run = past ++ e :: later → decided C m₀ past e = some t →
    ∃ n : Nat, C.maxFailures ≤ n ∧ FailedFor (past ++ [e]) n
  reachable : ∀ past e later t, run = past ++ e :: later → decided C m₀ past e = some t →
    ∃ fresh, e = .probe false t fresh ∧ fresh ≠ some false

/-- **The watchdog is rate-limited across restarts**: in every run of a machine with any stamp, under a clock that
    does not go back. -/
theorem rateLimited (C : Config T) (stamp : Option T) (run : List (Event T))
    (hclock : (run.filterMap Event.clock).Pairwise (· ≤ ·)) : RateLimited C { stamp } run where
  apart past e between e' later t t' hrun ht ht' := by
    obtain ⟨m, hm, hdecides⟩ := decided_cases ht
    obtain ⟨_, _, _, rfl, _, _, _, hstep⟩ := turn_decides hdecides
    obtain ⟨m', hm', hdecides'⟩ := decided_cases ht'
    obtain ⟨w, _, hw, rfl, _, _, hcool, _⟩ := turn_decides hdecides'
    rw [exec_append, hm, Option.bind_some, exec, hstep, Option.bind_some] at hm'
    obtain ⟨last, _, hmem, hlast⟩ := stamped_of_exec hm'
    -- the stamps of the restarts are readings of the clock, in their order
    rw [hrun, List.append_assoc, List.filterMap_append, List.pairwise_append] at hclock
    have hsorted := hclock.2.1
    rw [List.cons_append, List.filterMap_cons, List.filterMap_append, List.filterMap_cons] at hsorted
    simp only [Event.clock] at hsorted
    rw [← List.cons_append, List.pairwise_append] at hsorted
    have hle : last ≤ t' := hsorted.2.2 last hmem t' List.mem_cons_self
    have hge : t ≤ last := by
      rcases List.mem_cons.mp hmem with rfl | hmem
      · exact le_refl _
      · exact List.rel_of_pairwise_cons hsorted.1 hmem
    calc C.cooldown ≤ t' - last := cooldown_le (hlast w hw) hcool hle
      _ ≤ t' - t := sub_le_sub_left hge t'
  failed past e later t hrun ht := by
    obtain ⟨m, hm, hdecides⟩ := decided_cases ht
    obtain ⟨w, _, hw, rfl, _, hmax, _, _⟩ := turn_decides hdecides
    refine ⟨w.failures + 1, by push_cast; exact hmax, ?_⟩
    exact (failedFor_of_exec rfl hm w hw).snoc (Nat.le_refl _)
  reachable past e later t hrun ht := by
    obtain ⟨m, hm, hdecides⟩ := decided_cases ht
    obtain ⟨_, fresh, _, rfl, hfresh, _, _, _⟩ := turn_decides hdecides
    exact ⟨fresh, rfl, hfresh⟩

/-- Two failures, and ten minutes between restarts. -/
def tenMinutes : Config Int where
  maxFailures := 2
  cooldown := 600

/-- Two failures restart; the next two are inside the cooldown, and the restart waits for its end. -/
def wedged : List (Event Int) :=
  [.boot, .probe false 0 none, .probe false 60 (some true), .boot, .probe false 120 none, .probe false 180 none,
   .probe false 700 none]

theorem wedged_rateLimited :
    decided tenMinutes { stamp := none } (wedged.take 6) (.probe false 700 none) = some 700 ∧
      RateLimited tenMinutes { stamp := none } wedged :=
  ⟨by decide, rateLimited tenMinutes none wedged (by decide)⟩

end

end RideTheApi.Watchdog
