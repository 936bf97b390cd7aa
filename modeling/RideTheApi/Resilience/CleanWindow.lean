import RideTheApi.Py.Text
import RideTheApi.Resilience.MatchTracker

/-!
# `Resilience.CleanWindow` — a mode change and the statistics of the mode before

`update_device_mode` commits the mode and then, in a transaction of its own, sets the counters of the stored
row to zero. The batch in the cache is in neither transaction, a flush on its way writes over the zeros what
it selected before them, and a decision may have read the row already. In every run in which none of these
meets a change, a decision is based on results recorded since (`clean_window`).
-/

namespace RideTheApi.CleanWindow

open MatchTracker Py Transition

/-- A call of `update_device_mode` between its `SELECT` and its commit. -/
structure ModeUpdate where
  mode : Str
  /-- The mode of the row it selected. -/
  selected : Str
deriving Repr, DecidableEq

/-- A promotion or rollback decision: the row it read, and the results recorded by then since the last mode
    change. -/
structure Decision (τ : Type) where
  basis : Row τ
  since : List (Recorded τ)
deriving Repr, DecidableEq

/-- The statistics of a device, its mode, and the calls on their way. -/
structure State (τ : Type) where
  tracker : MatchTracker.State τ := {}
  mode : Str
  updates : List ModeUpdate := []
  /-- The calls of `reset_match_counters`, each with the row it selected. -/
  resets : List (Option (Row τ)) := []
  /-- The rows that decisions on their way have read. -/
  readings : List (Row τ) := []
  /-- How many results were recorded before the last mode change. -/
  recordedBefore : Nat := 0
  decisions : List (Decision τ) := []
deriving Repr, DecidableEq

/-- What happens at an await point. -/
inductive Label (τ : Type) where
  /-- A step of `record_result`, `_flush_cache` or `get_stats`. -/
  | tracker (l : MatchTracker.Label τ)
  | modeSelect (mode : Str)
  | modeCommit (i : Nat)
  | resetSelect (i : Nat)
  | resetCommit (i : Nat)
  /-- The reset raises, is logged and is given up. -/
  | resetFails (i : Nat)
  /-- `check_cloud_independence` reads the row. -/
  | statsRead
  /-- The decision on what it read. -/
  | decide (i : Nat)
deriving Repr, DecidableEq

section
variable {τ : Type}

/-- The results recorded since the last mode change. -/
def State.since (s : State τ) : List (Recorded τ) := s.tracker.recorded.drop s.recordedBefore

/-- The commit of an `update_device_mode`. The row is written, and the counters are to be reset, when the row
    it selected had another mode. -/
def commitMode (s : State τ) (i : Nat) (u : ModeUpdate) : State τ :=
  if u.mode = u.selected then { s with updates := s.updates.eraseIdx i }
  else
    { s with
      updates := s.updates.eraseIdx i
      mode := u.mode
      resets := s.resets ++ [none]
      recordedBefore := s.tracker.recorded.length }

/-- One step. -/
def step [DecidableEq τ] (percent : Nat → Nat → BitVec 64) (s : State τ) : Label τ → Option (State τ)
  | .tracker l       => (MatchTracker.step percent s.tracker l).map fun t => { s with tracker := t }
  | .modeSelect mode => some { s with updates := s.updates ++ [⟨mode, s.mode⟩] }
  | .modeCommit i    => s.updates[i]?.map fun u => commitMode s i u
  | .resetSelect i   =>
    match s.resets[i]? with
    | some none => some { s with resets := s.resets.set i (some s.tracker.row) }
    | _         => none
  | .resetCommit i   =>
    match s.resets[i]? with
    | some (some row) =>
      some { s with
        tracker := { s.tracker with row := s.tracker.row.update row {} }
        resets := s.resets.eraseIdx i }
    | _               => none
  | .resetFails i    => s.resets[i]?.map fun _ => { s with resets := s.resets.eraseIdx i }
  | .statsRead       => some { s with readings := s.readings ++ [s.tracker.row] }
  | .decide i        =>
    s.readings[i]?.map fun basis =>
      { s with readings := s.readings.eraseIdx i, decisions := s.decisions ++ [⟨basis, s.since⟩] }

/-- A row that counts exactly the results of a list. -/
def Counts (percent : Nat → Nat → BitVec 64) (row : Row τ) (rs : List (Recorded τ)) : Prop :=
  row.counters = Counters.tally rs ∧ row.matchRatePct = row.counters.matchRate percent ∧ row.recent.Sublist rs

/-- A row that counts nothing else than results of a list. -/
def CountsOnly (percent : Nat → Nat → BitVec 64) (row : Row τ) (since : List (Recorded τ)) : Prop :=
  ∃ rs : List (Recorded τ), rs.Sublist since ∧ Counts percent row rs

/-- No flush is on its way, and nothing in the cache was recorded before the last mode change. -/
def Settled (s : State τ) : Prop :=
  s.tracker.flushing = .free ∧ s.tracker.cache.counters.total ≤ s.since.length

/-- The mode does not change over a decision on its way; a reset meets the row as it selected it, no flush, and
    no older result in the cache, and does not fail unless the row is zero already; no decision reads the row
    before a reset, unless it is zero already. -/
def Undisturbed (s : State τ) : Label τ → Prop
  | .modeCommit i  => ∀ u, s.updates[i]? = some u → u.mode ≠ u.selected → s.readings = []
  | .resetCommit i => ∀ row, s.resets[i]? = some (some row) → Settled s ∧ row = s.tracker.row
  | .resetFails _  => Settled s ∧ s.tracker.row = {}
  | .statsRead     => s.resets = [] ∨ s.tracker.row = {}
  | _              => True

end

/-! ## Counting a list -/

section
variable {τ : Type} {percent : Nat → Nat → BitVec 64} {row : Row τ} {cache : Cache τ}
variable {rs cs since since' : List (Recorded τ)}

theorem counts_zero : Counts percent ({} : Row τ) [] := ⟨rfl, rfl, List.Sublist.refl _⟩

theorem Counts.addBatch (h : Counts percent row rs) (hcache : cache.counters = Counters.tally cs)
    (hrecent : cache.recent.Sublist cs) : Counts percent (row.addBatch percent cache) (rs ++ cs) := by
  obtain ⟨hcounters, _, hrow⟩ := h
  refine ⟨?_, rfl, ?_⟩
  · rw [Counters.tally_append, ← hcounters, ← hcache]
    rfl
  · exact (Row.recent_addBatch_suffix percent row cache).sublist.trans (hrow.append hrecent)

theorem CountsOnly.mono (h : CountsOnly percent row since) (hle : since.Sublist since') :
    CountsOnly percent row since' := by
  obtain ⟨rs, hrs, hcounts⟩ := h
  exact ⟨rs, hrs.trans hle, hcounts⟩

theorem CountsOnly.balanced (h : CountsOnly percent row since) : row.counters.Balanced := by
  obtain ⟨rs, _, hcounts, _⟩ := h
  rw [hcounts]
  exact Counters.balanced_tally rs

end

/-! ## The tracker between two mode changes -/

/-- The results that the cache counts. -/
def pending {τ : Type} (t : MatchTracker.State τ) : List (Recorded τ) :=
  t.recorded.rtake t.cache.counters.total

/-- A row that counts only results after the first `n`, and none that the cache counts. -/
def CountsBeside {τ : Type} (percent : Nat → Nat → BitVec 64) (t : MatchTracker.State τ) (n : Nat) (row : Row τ) :
    Prop :=
  ∃ rs : List (Recorded τ), (rs ++ pending t).Sublist (t.recorded.drop n) ∧ Counts percent row rs

/-- The stored row, and the one a flush is about to store, count only results after the first `n`. -/
structure Window {τ : Type} (percent : Nat → Nat → BitVec 64) (t : MatchTracker.State τ) (n : Nat) : Prop where
  row : CountsBeside percent t n t.row
  merged : ∀ row new, t.flushing = .merged row new → CountsBeside percent t n new

/-- What holds of the tracker, whoever resets its row: a flush has the stored row in hand, and the cache counts
    the last results. -/
structure TrackerInv {τ : Type} (percent : Nat → Nat → BitVec 64) (t : MatchTracker.State τ) (n : Nat) (clean : Prop) :
    Prop where
  balanced : t.row.counters.Balanced
  selected : ∀ row, t.flushing = .selected row → row = t.row
  merged : ∀ row new, t.flushing = .merged row new → row = t.row ∧ new.counters.Balanced
  counters : t.cache.counters = Counters.tally (pending t)
  recent : t.cache.recent.Sublist (pending t)
  recordedBefore : n ≤ t.recorded.length
  window : clean → Window percent t n

section
variable {τ : Type} {percent : Nat → Nat → BitVec 64} {t t' : MatchTracker.State τ} {n : Nat} {clean : Prop}

theorem pending_empty {t : MatchTracker.State τ} (h : t.cache = {}) : pending t = [] := by
  unfold pending
  rw [h]
  exact List.rtake_zero _

theorem CountsBeside.countsOnly {row : Row τ} (h : CountsBeside percent t n row) :
    CountsOnly percent row (t.recorded.drop n) := by
  obtain ⟨rs, hrs, hcounts⟩ := h
  exact ⟨rs, (List.sublist_append_left _ _).trans hrs, hcounts⟩

/-- A row that is zero counts nothing, so all that matters is what the cache counts. -/
theorem countsBeside_zero (hle : n ≤ t.recorded.length)
    (h : t.cache.counters.total ≤ (t.recorded.drop n).length) : CountsBeside percent t n {} := by
  refine ⟨[], ?_, counts_zero⟩
  rw [List.nil_append]
  unfold pending List.rtake
  rw [List.length_drop] at h
  exact List.drop_sublist_drop_left _ (by omega)

theorem pending_record (r : Recorded τ) (m : Nat) :
    pending { t with cache := t.cache.record r, waiting := m, recorded := t.recorded ++ [r] } = pending t ++ [r] := by
  unfold pending
  dsimp only
  rw [Cache.total_record, List.rtake_concat_succ]

theorem CountsBeside.record {row : Row τ} (h : CountsBeside percent t n row) (hle : n ≤ t.recorded.length)
    (r : Recorded τ) (m : Nat) :
    CountsBeside percent { t with cache := t.cache.record r, waiting := m, recorded := t.recorded ++ [r] } n row := by
  obtain ⟨rs, hrs, hcounts⟩ := h
  refine ⟨rs, ?_, hcounts⟩
  rw [pending_record, ← List.append_assoc]
  dsimp only
  rw [List.drop_append_of_le_length hle]
  exact hrs.append (List.Sublist.refl _)

theorem TrackerInv.record (h : TrackerInv percent t n clean) (r : Recorded τ) (m : Nat) :
    TrackerInv percent { t with cache := t.cache.record r, waiting := m, recorded := t.recorded ++ [r] } n clean where
  balanced := h.balanced
  selected := h.selected
  merged := h.merged
  counters := by
    rw [pending_record, Counters.tally_concat, ← h.counters]
    rfl
  recent := by
    rw [pending_record]
    exact (Cache.recent_record_suffix _ _).sublist.trans (h.recent.append (List.Sublist.refl _))
  recordedBefore := by
    have hle := h.recordedBefore
    rw [List.length_append]
    omega
  window := fun hclean =>
    ⟨(h.window hclean).row.record h.recordedBefore r m,
      fun row new hphase => ((h.window hclean).merged row new hphase).record h.recordedBefore r m⟩

theorem TrackerInv.merge {row : Row τ} (h : TrackerInv percent t n clean) (hphase : t.flushing = .selected row) :
    TrackerInv percent { t with flushing := .merged row (row.addBatch percent t.cache), cache := {} } n clean where
  balanced := h.balanced
  selected := fun row' hphase' => by cases hphase'
  merged := by
    intro row' new hphase'
    cases hphase'
    have hrow := h.selected row hphase
    refine ⟨hrow, ?_⟩
    have hcache : t.cache.counters.Balanced := by
      rw [h.counters]
      exact Counters.balanced_tally _
    exact (hrow ▸ h.balanced).add hcache
  counters := by
    rw [pending_empty rfl]
    rfl
  recent := List.nil_sublist _
  recordedBefore := h.recordedBefore
  window := by
    intro hclean
    obtain ⟨rs, hrs, hcounts⟩ := (h.window hclean).row
    have hnone : pending { t with flushing := .merged row (row.addBatch percent t.cache), cache := {} } = [] :=
      pending_empty rfl
    refine ⟨⟨rs, ?_, hcounts⟩, fun row' new hphase' => ?_⟩
    · rw [hnone, List.append_nil]
      exact (List.sublist_append_left _ _).trans hrs
    · cases hphase'
      -- What the row counts is followed by what the cache counted.
      rw [← h.selected row hphase] at hcounts
      refine ⟨rs ++ pending t, ?_, hcounts.addBatch h.counters h.recent⟩
      rw [hnone, List.append_nil]
      exact hrs

/-- A flush that has nothing merged, over a row that counts as it should. -/
theorem TrackerInv.unmerged {row : Row τ} {phase : Flushing τ} (h : TrackerInv percent t n clean) (m : Nat)
    (hbalanced : row.counters.Balanced) (hrow : clean → CountsBeside percent t n row)
    (hselected : ∀ row', phase = .selected row' → row' = row) (hmerged : ∀ row' new, phase ≠ .merged row' new) :
    TrackerInv percent { t with row := row, flushing := phase, waiting := m } n clean where
  balanced := hbalanced
  selected := hselected
  merged := fun row' new hphase => absurd hphase (hmerged row' new)
  counters := h.counters
  recent := h.recent
  recordedBefore := h.recordedBefore
  window := fun hclean => ⟨hrow hclean, fun row' new hphase => absurd hphase (hmerged row' new)⟩

/-- Whatever the tracker does keeps its invariant. -/
theorem TrackerInv.step [DecidableEq τ] {l : MatchTracker.Label τ} (h : TrackerInv percent t n clean)
    (hs : MatchTracker.step percent t l = some t') : TrackerInv percent t' n clean := by
  have hrow (hclean : clean) := (h.window hclean).row
  cases stepped_of_step hs with
  | recordResult r m => exact h.record r m
  | flushCache m =>
    exact ⟨h.balanced, h.selected, h.merged, h.counters, h.recent, h.recordedBefore,
      fun hclean => ⟨(h.window hclean).row, (h.window hclean).merged⟩⟩
  | select m hphase =>
    apply h.unmerged m h.balanced hrow
    · intro row hselected
      cases hselected
      rfl
    · intro row new hmerged
      cases hmerged
  | merge row hphase => exact h.merge hphase
  | commit row new hphase =>
    -- Nothing but this flush has stored the row since it was selected.
    obtain ⟨rfl, hnew⟩ := h.merged row new hphase
    rw [Row.update_self]
    exact h.unmerged _ hnew (fun hclean => (h.window hclean).merged _ new hphase) (fun _ => nofun) fun _ _ => nofun
  | commitFails row new hphase =>
    -- What was merged is lost, so the row still counts no more than it did.
    exact h.unmerged _ h.balanced hrow (fun _ => nofun) fun _ _ => nofun
  | abort row hphase => exact h.unmerged _ h.balanced hrow (fun _ => nofun) fun _ _ => nofun

/-- A mode change closes the window. -/
theorem TrackerInv.close (h : TrackerInv percent t n clean) {clean' : Prop} (hclean' : ¬ clean') :
    TrackerInv percent t t.recorded.length clean' :=
  ⟨h.balanced, h.selected, h.merged, h.counters, h.recent, Nat.le_refl _, fun hclean => absurd hclean hclean'⟩

/-- A row that is zero opens a window. -/
theorem TrackerInv.open (h : TrackerInv percent t n clean) (clean' : Prop) (hfree : t.flushing = .free)
    (hcache : t.cache.counters.total ≤ (t.recorded.drop n).length) :
    TrackerInv percent { t with row := {} } n clean' where
  balanced := rfl
  selected := fun row hphase => by
    rw [hfree] at hphase
    cases hphase
  merged := fun row new hphase => by
    rw [hfree] at hphase
    cases hphase
  counters := h.counters
  recent := h.recent
  recordedBefore := h.recordedBefore
  window := fun _ => ⟨countsBeside_zero h.recordedBefore hcache, fun row new hphase => by
    rw [hfree] at hphase
    cases hphase⟩

end

/-! ## Decisions -/

/-- What holds in an undisturbed run: whenever no reset is due, the rows count only results since the last mode
    change, and so do the rows that decisions have read. -/
structure Inv {τ : Type} (percent : Nat → Nat → BitVec 64) (s : State τ) : Prop where
  tracker : TrackerInv percent s.tracker s.recordedBefore (s.resets = [])
  readings : ∀ basis ∈ s.readings, CountsOnly percent basis s.since
  decisions : ∀ d ∈ s.decisions, CountsOnly percent d.basis d.since

section
variable {τ : Type} {percent : Nat → Nat → BitVec 64} {s s' : State τ} {l : Label τ}

theorem Inv.commitMode {i : Nat} {u : ModeUpdate} (h : Inv percent s) (hok : u.mode ≠ u.selected → s.readings = []) :
    Inv percent (commitMode s i u) := by
  unfold CleanWindow.commitMode
  split
  · exact ⟨h.tracker, h.readings, h.decisions⟩
  · next hchanged =>
    refine ⟨h.tracker.close (by simp), ?_, h.decisions⟩
    intro basis hbasis
    -- No decision is on its way that has read the row of the mode before.
    have hmem : basis ∈ s.readings := hbasis
    rw [hok hchanged] at hmem
    cases hmem

theorem Inv.statsRead (h : Inv percent s) (hok : s.resets = [] ∨ s.tracker.row = {}) :
    Inv percent { s with readings := s.readings ++ [s.tracker.row] } := by
  refine ⟨h.tracker, ?_, h.decisions⟩
  intro basis hbasis
  rcases List.mem_append.mp hbasis with hbasis | hbasis
  · exact h.readings basis hbasis
  · rw [List.mem_singleton.mp hbasis]
    rcases hok with hresets | hzero
    · exact (h.tracker.window hresets).row.countsOnly
    · rw [hzero]
      exact ⟨[], List.nil_sublist _, counts_zero⟩

theorem Inv.decide {i : Nat} {basis : Row τ} (h : Inv percent s) (hbasis : s.readings[i]? = some basis) :
    Inv percent
      { s with readings := s.readings.eraseIdx i, decisions := s.decisions ++ [⟨basis, s.since⟩] } := by
  refine ⟨h.tracker, fun basis' hmem => h.readings basis' (List.mem_of_mem_eraseIdx hmem), ?_⟩
  intro d hd
  rcases List.mem_append.mp hd with hd | hd
  · exact h.decisions d hd
  · rw [List.mem_singleton.mp hd]
    exact h.readings basis (List.mem_of_getElem? hbasis)

/-- Every undisturbed step keeps the invariant. -/
theorem Inv.step [DecidableEq τ] (h : Inv percent s) (hok : Undisturbed s l) (hs : step percent s l = some s') :
    Inv percent s' := by
  cases l with
  | tracker l =>
    obtain ⟨t, ht, rfl⟩ := Option.map_eq_some_iff.mp hs
    refine ⟨h.tracker.step ht, fun basis hbasis => ?_, h.decisions⟩
    exact (h.readings basis hbasis).mono ((recorded_step ht).sublist.drop _)
  | modeSelect mode =>
    cases hs
    exact ⟨h.tracker, h.readings, h.decisions⟩
  | modeCommit i =>
    obtain ⟨u, hu, rfl⟩ := Option.map_eq_some_iff.mp hs
    exact h.commitMode (hok u hu)
  | resetSelect i =>
    simp only [CleanWindow.step] at hs
    split at hs
    · cases hs
      refine ⟨?_, h.readings, h.decisions⟩
      have hnil : (s.resets.set i (some s.tracker.row) = []) = (s.resets = []) := by
        rw [List.set_eq_nil_iff]
      show TrackerInv percent s.tracker s.recordedBefore (s.resets.set i (some s.tracker.row) = [])
      rw [hnil]
      exact h.tracker
    · cases hs
  | resetCommit i =>
    simp only [CleanWindow.step] at hs
    split at hs
    · next row hreset =>
      cases hs
      obtain ⟨⟨hfree, hcache⟩, rfl⟩ := hok row hreset
      rw [Row.update_self]
      exact ⟨h.tracker.open _ hfree hcache, h.readings, h.decisions⟩
    · cases hs
  | resetFails i =>
    obtain ⟨_, _, rfl⟩ := Option.map_eq_some_iff.mp hs
    obtain ⟨⟨hfree, hcache⟩, hzero⟩ := hok
    refine ⟨?_, h.readings, h.decisions⟩
    -- The reset would have made the row zero, and it is zero already.
    have hopen := h.tracker.open (s.resets.eraseIdx i = []) hfree hcache
    rw [← hzero] at hopen
    exact hopen
  | statsRead =>
    cases hs
    exact h.statsRead hok
  | decide i =>
    obtain ⟨basis, hbasis, rfl⟩ := Option.map_eq_some_iff.mp hs
    exact h.decide hbasis

/-- **In every undisturbed run a decision is based only on results recorded since the last mode change**, and
    the stored counters add up, however records, flushes, mode changes, resets and decisions interleave. The
    run starts with the row of some earlier results. -/
theorem clean_window [DecidableEq τ] {past : List (Recorded τ)} {row : Row τ} {mode : Str}
    (hrow : CountsOnly percent row past)
    (h : ReachesUnder (step percent) Undisturbed { tracker := { row := row, recorded := past }, mode := mode } s) :
    (∀ d ∈ s.decisions, CountsOnly percent d.basis d.since) ∧ s.tracker.row.counters.Balanced := by
  have hstart : Inv percent { tracker := { row := row, recorded := past }, mode := mode } := by
    have hpending : pending { row := row, recorded := past } = [] := pending_empty rfl
    refine ⟨⟨hrow.balanced, ?_, ?_, ?_, ?_, Nat.zero_le _, fun _ => ⟨?_, ?_⟩⟩, ?_, ?_⟩
    · intro row' hphase
      cases hphase
    · intro row' new hphase
      cases hphase
    · rw [hpending]
      rfl
    · exact List.nil_sublist _
    · obtain ⟨rs, hrs, hcounts⟩ := hrow
      refine ⟨rs, ?_, hcounts⟩
      rw [hpending, List.append_nil]
      exact hrs
    · intro row' new hphase
      cases hphase
    · intro basis hbasis
      cases hbasis
    · intro d hd
      cases hd
  have hinv := h.invariant hstart fun _ _ _ hinv hok hs => hinv.step hok hs
  exact ⟨hinv.decisions, hinv.tracker.balanced⟩

end

/-! ## Two mode changes -/

/-- A miss is recorded in learning mode and stored, the device is promoted, the reset commits, and a hit is
    recorded and stored before the next decision. -/
def storedMiss : List (Label Nat) :=
  [.tracker (.recordResult ⟨.cloudMiss, 0⟩), .tracker .flushCache, .tracker .select, .tracker .merge,
    .tracker .commit, .modeSelect "production", .modeCommit 0, .resetSelect 0, .resetCommit 0,
    .tracker (.recordResult ⟨.localHit, 1⟩), .tracker .flushCache, .tracker .select, .tracker .merge,
    .tracker .commit, .statsRead, .decide 0]

/-- The state it ends in. -/
def storedMissEnd : State Nat :=
  (exec (step wholePercent) { mode := "learning" } storedMiss).getD { mode := "learning" }

theorem storedMiss_clean :
    (∀ d ∈ storedMissEnd.decisions, CountsOnly wholePercent d.basis d.since) ∧
      storedMissEnd.tracker.row.counters.Balanced := by
  have hrow : CountsOnly wholePercent ({} : Row Nat) [] := ⟨[], List.nil_sublist _, counts_zero⟩
  have hreach : ReachesUnder (step wholePercent) Undisturbed { mode := "learning" } storedMissEnd := by
    refine reachesUnder_of_exec .start storedMiss (by decide) ?_
    refine ⟨trivial, trivial, trivial, trivial, trivial, trivial, fun _ _ _ => rfl, trivial, ?_⟩
    refine ⟨fun row hselected => ⟨⟨rfl, by decide⟩, ?_⟩, ?_⟩
    · cases hselected
      rfl
    · exact ⟨trivial, trivial, trivial, trivial, trivial, .inl rfl, trivial, trivial⟩
  exact clean_window hrow hreach

/-- A miss is recorded in learning mode, and stored only after the reset of the promotion. -/
def cachedMiss : List (Label Nat) :=
  [.tracker (.recordResult ⟨.cloudMiss, 0⟩), .modeSelect "production", .modeCommit 0, .resetSelect 0,
    .resetCommit 0, .tracker .flushCache, .tracker .select, .tracker .merge, .tracker .commit, .statsRead,
    .decide 0]

/-- The state it ends in. -/
def cachedMissEnd : State Nat :=
  (exec (step wholePercent) { mode := "learning" } cachedMiss).getD { mode := "learning" }

/-- The decision is based on the miss of the learning mode, with nothing recorded since the promotion. -/
theorem cachedMiss_judged :
    ¬ ∀ s : State Nat, Reaches (step wholePercent) { mode := "learning" } s →
      ∀ d ∈ s.decisions, CountsOnly wholePercent d.basis d.since := by
  intro h
  have hreach : Reaches (step wholePercent) { mode := "learning" } cachedMissEnd :=
    reaches_of_exec cachedMiss (by decide)
  have hdecision : (⟨⟨⟨1, 0, 1, 0⟩, 0, [⟨.cloudMiss, 0⟩]⟩, []⟩ : Decision Nat) ∈ cachedMissEnd.decisions := by
    decide
  obtain ⟨rs, hrs, hcounters, _⟩ := h cachedMissEnd hreach _ hdecision
  rw [List.sublist_nil.mp hrs] at hcounters
  exact absurd hcounters (by decide)

end RideTheApi.CleanWindow
