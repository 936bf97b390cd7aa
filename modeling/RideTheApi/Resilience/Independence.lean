import RideTheApi.Py.Float
import RideTheApi.Py.Text

/-!
# `Resilience.Independence` — the judges of cloud independence

Three predicates look at the match statistics of a device: the promotion of the scheduler's pass, the report
of `check_cloud_independence`, and the rollback rule. The promotion has thresholds of its own, from the
configuration, and asks for less: it knows neither the confidence of the templates nor the rate below which
the rollback rule demotes. The three agree exactly on what is promoted with enough of both
(`judgesAgree_iff`).
-/

namespace RideTheApi.Resilience

open Py

/-- The columns of a `match_stats` row that the judges read. -/
structure MatchStats where
  totalRequests : Nat
  matchRatePct : BitVec 64
  recentResults : Json
deriving Repr, DecidableEq

/-- What a judge reads of a device's own database: the row, how many patterns there are, and the confidence of
    each template. -/
structure DeviceData where
  stats : Option MatchStats
  patternsCount : Nat
  confidences : List (BitVec 64)
deriving Repr, DecidableEq

/-- What a judge reads of the registry. -/
structure Registered where
  mode : Str
  autoSwitchEnabled : Bool
deriving Repr, DecidableEq

/-- The auto-switch settings of `config.learning`. -/
structure AutoSwitchSettings where
  enabled : Bool := false
  minMatchRate : BitVec 64 := 0x4054000000000000
  minPatterns : Int := 10
deriving Repr, DecidableEq

/-- `MIN_PATTERNS_FOR_SWITCH`. -/
def minPatternsForSwitch : Nat := 10

/-- `MIN_TOTAL_REQUESTS`. -/
def minTotalRequests : Nat := 50

/-- `ROLLBACK_MATCH_RATE`, 90.0. -/
def rollbackMatchRate : BitVec 64 := 0x4056800000000000

/-- The confidence from which a template counts, 0.7. -/
def usableConfidence : BitVec 64 := 0x3fe6666666666666

/-- The confidence the report asks for, 0.85. -/
def highConfidence : BitVec 64 := 0x3feb333333333333

/-! ## The match rate -/

/-- The results that count toward the match rate. -/
def rateResults : List Str := ["local_hit", "cloud_miss"].map str

/-- The result of an entry of the window. -/
def entryResult : Json → Json
  | .obj d => (Dict.get? d (str "result")).getD .null
  | _      => .null

/-- Hits and samples of the rolling window. An unhashable result raises. -/
def countResults : List Json → Result (Nat × Nat)
  | []           => .ok (0, 0)
  | entry :: rest => do
    let counts ← Json.memKeys (entryResult entry) rateResults
    let (hits, total) ← countResults rest
    .ok (if counts then (if entryResult entry = .str "local_hit" then hits + 1 else hits, total + 1)
      else (hits, total))

/-- Match rate over the rolling window, with the sample count. `percent` is `round(hits / total * 100, 2)`. -/
def recentMatchRate (percent : Nat → Nat → BitVec 64) (recentResults : Json) :
    Result (Option (BitVec 64) × Nat) :=
  if !recentResults.truthy then .ok (none, 0)
  else do
    let entries ← recentResults.iter
    let (hits, total) ← countResults entries
    .ok (if total = 0 then (none, 0) else (some (percent hits total), total))

/-! ## The judges -/

/-- What `check_cloud_independence` reports of a device that is registered. -/
structure Status where
  independent : Bool
  patternsLearned : Nat
  matchRate : BitVec 64
  totalRequests : Nat
  mode : Str
  autoSwitchEnabled : Bool
deriving Repr, DecidableEq

section
variable (percent : Nat → Nat → BitVec 64) (settings : AutoSwitchSettings) (data : DeviceData)

/-- The rate a decision uses and the number of samples behind it: the window, else the lifetime. -/
def currentRate : Result (BitVec 64 × Nat) := do
  let (windowRate, windowSamples) ← recentMatchRate percent ((data.stats.map MatchStats.recentResults).getD .null)
  .ok (windowRate.getD ((data.stats.map MatchStats.matchRatePct).getD 0),
    if windowSamples = 0 then (data.stats.map MatchStats.totalRequests).getD 0 else windowSamples)

/-- Check if a device can operate independently of its vendor cloud; `none` when it is not registered. -/
def checkCloudIndependence (device : Option Registered) : Result (Option Status) :=
  match device with
  | none        => .ok none
  | some device => do
    let (matchRate, totalRequests) ← currentRate percent data
    let usable := data.confidences.filter (floatLe usableConfidence)
    let hasPatterns := decide (0 < data.patternsCount)
    let hasTemplates := decide (0 < usable.length)
    let hasHighConfidence := floatLe highConfidence ((maxFloat usable).getD 0)
    let hasExcellentMatchRate := floatLe settings.minMatchRate matchRate
    let isProduction := device.mode == str "production"
    let isSwitchReady := hasPatterns && hasExcellentMatchRate && hasHighConfidence &&
      decide (minTotalRequests ≤ totalRequests) && decide (minPatternsForSwitch ≤ data.patternsCount)
    .ok (some
      { independent :=
          isProduction && hasPatterns && hasTemplates && hasHighConfidence && hasExcellentMatchRate || isSwitchReady
        patternsLearned := data.patternsCount
        matchRate := matchRate
        totalRequests := totalRequests
        mode := device.mode
        autoSwitchEnabled := device.autoSwitchEnabled })

/-- Whether `auto_switch_to_production` switches the device. -/
def autoSwitchToProduction (device : Option Registered) : Result Bool :=
  (checkCloudIndependence percent settings data device).map fun status => status.any fun status =>
    status.autoSwitchEnabled && decide (settings.minPatterns ≤ status.patternsLearned) &&
      floatLe settings.minMatchRate status.matchRate && decide (minTotalRequests ≤ status.totalRequests)

/-- Whether `should_rollback_to_learning` demotes the device. -/
def shouldRollbackToLearning (device : Option Registered) : Result Bool :=
  (checkCloudIndependence percent settings data device).map fun status => status.any fun status =>
    status.mode == str "production" && status.autoSwitchEnabled &&
      floatLt status.matchRate rollbackMatchRate && decide (minTotalRequests ≤ status.totalRequests)

/-- Whether the scheduler's pass promotes the device. -/
def passPromotes (device : Registered) : Result Bool :=
  if device.mode = str "learning" ∧ device.autoSwitchEnabled = true ∧ settings.enabled = true then
    autoSwitchToProduction percent settings data (some device)
  else .ok false

/-- The device after a promotion. -/
def promoted (device : Registered) : Registered := { device with mode := "production" }

/-- The report calls the device independent. -/
def ReportsIndependent (device : Registered) : Prop :=
  ∃ status, checkCloudIndependence percent settings data (some device) = .ok (some status) ∧
    status.independent = true

/-- Whenever the pass promotes a device, the report calls it independent before and after, and the rollback
    rule would not demote it. -/
def JudgesAgree (device : Registered) : Prop :=
  passPromotes percent settings data device = .ok true →
    ReportsIndependent percent settings data device ∧
    ReportsIndependent percent settings data (promoted device) ∧
    shouldRollbackToLearning percent settings data (some (promoted device)) = .ok false

/-- What the promotion does not ask for: enough patterns for the report, a template of high confidence, and a
    rate the rollback rule accepts. -/
def Solid : Prop :=
  minPatternsForSwitch ≤ data.patternsCount ∧ (∃ c ∈ data.confidences, floatLe highConfidence c = true) ∧
    ∀ rate samples, currentRate percent data = .ok (rate, samples) → floatLe rollbackMatchRate rate = true

end

section
variable {percent : Nat → Nat → BitVec 64} {settings : AutoSwitchSettings} {data : DeviceData} {device : Registered}

/-! ## What a promotion shows -/

/-- What a promotion has checked. -/
theorem passPromotes_ok (h : passPromotes percent settings data device = .ok true) :
    device.mode = str "learning" ∧ device.autoSwitchEnabled = true ∧
      ∃ rate samples, currentRate percent data = .ok (rate, samples) ∧
        floatLe settings.minMatchRate rate = true ∧ minTotalRequests ≤ samples := by
  unfold passPromotes at h
  split at h
  · next hdevice =>
    obtain ⟨status, hstatus, hpromotes⟩ := Except.map_ok_iff.mp h
    obtain ⟨⟨rate, samples⟩, hrate, hstatus⟩ := Except.bind_ok_iff.mp hstatus
    cases hstatus
    simp only [Option.any_some, Bool.and_eq_true, decide_eq_true_eq] at hpromotes
    exact ⟨hdevice.1, hdevice.2.1, rate, samples, hrate, hpromotes.1.2, hpromotes.2⟩
  · cases h

/-- Some template is of high confidence iff the highest one is. -/
theorem highConfidence_iff (confidences : List (BitVec 64)) :
    floatLe highConfidence ((maxFloat (confidences.filter (floatLe usableConfidence))).getD 0) = true ↔
      ∃ c ∈ confidences, floatLe highConfidence c = true := by
  have hnan : ∀ c ∈ confidences.filter (floatLe usableConfidence), isNaN c = false := by
    intro c hc
    exact (floatLe_iff.mp (List.mem_filter.mp hc).2).2.1
  -- A template of high confidence is among the usable ones, and no NaN is.
  have husable : ∀ c, floatLe highConfidence c = true → floatLe usableConfidence c = true :=
    fun c hc => floatLe_trans (by decide) hc
  have hmax := maxFloat_reaches (z := highConfidence) hnan
  constructor
  · intro h
    cases hm : maxFloat (confidences.filter (floatLe usableConfidence)) with
    | none =>
      rw [hm] at h
      exact absurd h (by decide)
    | some m =>
      rw [hm] at h
      obtain ⟨c, hc, hle⟩ := hmax.mp ⟨m, hm, h⟩
      exact ⟨c, (List.mem_filter.mp hc).1, hle⟩
  · rintro ⟨c, hc, hle⟩
    obtain ⟨m, hm, hle⟩ := hmax.mpr ⟨c, List.mem_filter.mpr ⟨hc, husable c hle⟩, hle⟩
    rw [hm]
    exact hle

/-! ## The report and the rollback rule, on the statistics of a promotion -/

/-- What the report says where the rate is known. -/
theorem checkCloudIndependence_eq {rate : BitVec 64} {samples : Nat}
    (hrate : currentRate percent data = .ok (rate, samples)) :
    ∃ status, checkCloudIndependence percent settings data (some device) = .ok (some status) ∧
      status.matchRate = rate ∧ status.totalRequests = samples ∧ status.mode = device.mode ∧
      status.autoSwitchEnabled = device.autoSwitchEnabled := by
  unfold checkCloudIndependence
  rw [hrate]
  exact ⟨_, rfl, rfl, rfl, rfl, rfl⟩

/-- A device with enough samples at a rate the promotion accepts is reported independent iff a template is of
    high confidence and the patterns are enough for the report, or some in production. -/
theorem reportsIndependent_iff {rate : BitVec 64} {samples : Nat}
    (hrate : currentRate percent data = .ok (rate, samples)) (hmin : floatLe settings.minMatchRate rate = true)
    (hsamples : minTotalRequests ≤ samples) :
    ReportsIndependent percent settings data device ↔
      (∃ c ∈ data.confidences, floatLe highConfidence c = true) ∧
        (minPatternsForSwitch ≤ data.patternsCount ∨ device.mode = str "production" ∧ 0 < data.patternsCount) := by
  have htemplates : (∃ c ∈ data.confidences, floatLe highConfidence c = true) →
      0 < (data.confidences.filter (floatLe usableConfidence)).length := by
    rintro ⟨c, hc, hle⟩
    exact List.length_pos_of_mem (List.mem_filter.mpr ⟨hc, floatLe_trans (by decide) hle⟩)
  have hpatterns : minPatternsForSwitch ≤ data.patternsCount → 0 < data.patternsCount :=
    fun h => Nat.lt_of_lt_of_le (by decide) h
  unfold ReportsIndependent checkCloudIndependence
  rw [hrate]
  -- The report is there, so all that matters is what it says.
  have hreport : ∀ status : Status, (∃ s, (.ok (some status) : Result (Option Status)) = .ok (some s) ∧
      s.independent = true) ↔ status.independent = true := by
    intro status
    constructor
    · rintro ⟨s, hs, hind⟩
      cases hs
      exact hind
    · exact fun hind => ⟨status, rfl, hind⟩
  refine (hreport _).trans ?_
  simp only [Bool.or_eq_true, Bool.and_eq_true, decide_eq_true_eq, beq_iff_eq, highConfidence_iff]
  constructor
  · rintro (⟨⟨⟨⟨hmode, hsome⟩, _⟩, hhigh⟩, _⟩ | ⟨⟨⟨_, hhigh⟩, _⟩, henough⟩)
    · exact ⟨hhigh, .inr ⟨hmode, hsome⟩⟩
    · exact ⟨hhigh, .inl henough⟩
  · rintro ⟨hhigh, henough | ⟨hmode, hsome⟩⟩
    · exact .inr ⟨⟨⟨⟨hpatterns henough, hmin⟩, hhigh⟩, hsamples⟩, henough⟩
    · exact .inl ⟨⟨⟨⟨hmode, hsome⟩, htemplates hhigh⟩, hhigh⟩, hmin⟩

/-- On the statistics of a promotion, the rollback rule looks at the rate alone. -/
theorem shouldRollback_promoted {rate : BitVec 64} {samples : Nat}
    (hrate : currentRate percent data = .ok (rate, samples)) (hauto : device.autoSwitchEnabled = true)
    (hsamples : minTotalRequests ≤ samples) :
    shouldRollbackToLearning percent settings data (some (promoted device)) = .ok (floatLt rate rollbackMatchRate) := by
  obtain ⟨status, hstatus, hr, ht, hm, ha⟩ :=
    @checkCloudIndependence_eq percent settings data (promoted device) rate samples hrate
  unfold shouldRollbackToLearning
  rw [hstatus]
  show Except.ok (status.mode == str "production" && status.autoSwitchEnabled &&
    floatLt status.matchRate rollbackMatchRate && decide (minTotalRequests ≤ status.totalRequests)) = _
  rw [hr, ht, hm, ha, decide_eq_true hsamples, Bool.and_true]
  show Except.ok ((promoted device).mode == str "production" && device.autoSwitchEnabled && _) = _
  rw [hauto, show ((promoted device).mode == str "production") = true from rfl, Bool.true_and, Bool.true_and]

/-- **The judges agree iff whatever the pass promotes is solid**: for every statistics row, set of patterns and
    templates, device and configuration. -/
theorem judgesAgree_iff (percent : Nat → Nat → BitVec 64) (settings : AutoSwitchSettings) (data : DeviceData)
    (device : Registered) : JudgesAgree percent settings data device ↔
      (passPromotes percent settings data device = .ok true → Solid percent data) := by
  refine forall_congr' fun hpromotes => ?_
  obtain ⟨hmode, hauto, rate, samples, hrate, hmin, hsamples⟩ := passPromotes_ok hpromotes
  have hnan := (floatLe_iff.mp hmin).2.1
  rw [reportsIndependent_iff hrate hmin hsamples, reportsIndependent_iff hrate hmin hsamples,
    shouldRollback_promoted hrate hauto hsamples]
  have hrollback : (.ok (floatLt rate rollbackMatchRate) : Result Bool) = .ok false ↔
      floatLe rollbackMatchRate rate = true := by
    rw [Except.ok.injEq]
    exact floatLt_eq_false_iff hnan (by decide)
  rw [hrollback]
  unfold Solid
  constructor
  · rintro ⟨⟨hhigh, henough⟩, _, hrate'⟩
    refine ⟨?_, hhigh, fun rate' samples' h => ?_⟩
    · rcases henough with henough | ⟨hproduction, _⟩
      · exact henough
      · rw [hmode] at hproduction
        exact absurd hproduction (by decide)
    · cases hrate.symm.trans h
      exact hrate'
  · rintro ⟨henough, hhigh, hrates⟩
    exact ⟨⟨hhigh, .inl henough⟩, ⟨hhigh, .inl henough⟩, hrates rate samples hrate⟩

/-! ## A device that flaps -/

/-- A hundred requests at 85 percent, with patterns enough and a template of full confidence. -/
def flapping : DeviceData where
  stats := some { totalRequests := 100, matchRatePct := 0x4055400000000000, recentResults := .arr [] }
  patternsCount := 12
  confidences := [0x3ff0000000000000]

/-- The pass promotes it at the default threshold of 80, and the rollback rule demotes it below 90. -/
theorem flapping_disagree : ¬ ∀ (percent : Nat → Nat → BitVec 64) (settings : AutoSwitchSettings) (data : DeviceData)
    (device : Registered), JudgesAgree percent settings data device := by
  intro h
  have hagree := h (fun _ _ => 0) { enabled := true } flapping { mode := "learning", autoSwitchEnabled := true }
    (by decide)
  exact absurd hagree.2.2 (by decide)

end

end RideTheApi.Resilience
