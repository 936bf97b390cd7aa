import Mathlib.Data.List.DropRight
import RideTheApi.Lib.Transition

/-!
# `Resilience.MatchTracker` — the match statistics of a device, batched

`record_result` counts in a cache; every fiftieth result, and every reader, moves the batch into the
`match_stats` row, under a lock and in a transaction. A flush selects the row, adds the batch to what it
selected and empties the cache in one go, and then commits. So a commit that fails loses the batch, and a
cache that overflows behind a stored window leaves a gap in it; in every other run the row and the cache
together hold all results (`conserved_of_faultless`).
-/

namespace RideTheApi.MatchTracker

open Transition

/-- Result of a pattern match attempt. -/
inductive MatchResult where
  | localHit
  | cloudMiss
  | error
deriving Repr, DecidableEq

/-- A recorded result with its timestamp. -/
structure Recorded (τ : Type) where
  result : MatchResult
  timestamp : τ
deriving Repr, DecidableEq

/-- The counters of a row, and of a cache, where `total` is `updates_pending`. -/
@[ext] structure Counters where
  total : Nat := 0
  localHits : Nat := 0
  cloudMisses : Nat := 0
  errors : Nat := 0
deriving Repr, DecidableEq

namespace Counters

instance : Add Counters where
  add a b := ⟨a.total + b.total, a.localHits + b.localHits, a.cloudMisses + b.cloudMisses, a.errors + b.errors⟩

/-- Count one result. -/
def count (c : Counters) : MatchResult → Counters
  | .localHit  => { c with total := c.total + 1, localHits := c.localHits + 1 }
  | .cloudMiss => { c with total := c.total + 1, cloudMisses := c.cloudMisses + 1 }
  | .error     => { c with total := c.total + 1, errors := c.errors + 1 }

/-- The counters of a list of results. -/
def tally {τ : Type} (rs : List (Recorded τ)) : Counters := rs.foldl (fun c r => c.count r.result) {}

/-- Requests are hits, misses or errors. -/
def Balanced (c : Counters) : Prop := c.total = c.localHits + c.cloudMisses + c.errors

end Counters

/-- An entry of `_stats_cache`: counters, and the results they end in. -/
structure Cache (τ : Type) where
  counters : Counters := {}
  recent : List (Recorded τ) := []
deriving Repr, DecidableEq

/-- The columns of a `match_stats` row that a flush writes. A row that does not exist yet is all zero. -/
@[ext] structure Row (τ : Type) where
  counters : Counters := {}
  matchRatePct : BitVec 64 := 0
  recent : List (Recorded τ) := []
deriving Repr, DecidableEq

/-- `_rolling_window`. -/
def rollingWindow : Nat := 1000

/-- `_flush_threshold`. -/
def flushThreshold : Nat := 50

/-- `local_hits / total_attempted * 100` in percent, and 0.0 when nothing was attempted; `percent` divides and
    rounds. -/
def Counters.matchRate (percent : Nat → Nat → BitVec 64) (c : Counters) : BitVec 64 :=
  if 0 < c.localHits + c.cloudMisses then percent c.localHits (c.localHits + c.cloudMisses) else 0

/-- The cache after a result. -/
def Cache.record {τ : Type} (cache : Cache τ) (r : Recorded τ) : Cache τ where
  counters := cache.counters.count r.result
  recent :=
    if rollingWindow * 2 < (cache.recent ++ [r]).length then (cache.recent ++ [r]).rtake rollingWindow
    else cache.recent ++ [r]

namespace Row

variable {τ : Type}

/-- The row after a batch. -/
def addBatch (percent : Nat → Nat → BitVec 64) (row : Row τ) (cache : Cache τ) : Row τ where
  counters := row.counters + cache.counters
  matchRatePct := (row.counters + cache.counters).matchRate percent
  recent := (row.recent ++ cache.recent).rtake rollingWindow

/-- An `UPDATE` writes the columns that were changed since the row was selected. -/
def update [DecidableEq τ] (row selected new : Row τ) : Row τ where
  counters :=
    { total := if new.counters.total = selected.counters.total then row.counters.total else new.counters.total
      localHits :=
        if new.counters.localHits = selected.counters.localHits then row.counters.localHits
        else new.counters.localHits
      cloudMisses :=
        if new.counters.cloudMisses = selected.counters.cloudMisses then row.counters.cloudMisses
        else new.counters.cloudMisses
      errors := if new.counters.errors = selected.counters.errors then row.counters.errors else new.counters.errors }
  matchRatePct := if new.matchRatePct = selected.matchRatePct then row.matchRatePct else new.matchRatePct
  recent := if new.recent = selected.recent then row.recent else new.recent

end Row

/-- Where the flush that holds the lock is. -/
inductive Flushing (τ : Type) where
  | free
  /-- The row is selected, the batch not yet added. -/
  | selected (row : Row τ)
  /-- The batch is added to what was selected and the cache is empty; the transaction is open. -/
  | merged (row new : Row τ)
deriving Repr, DecidableEq

/-- The statistics of one device, and all results recorded for it. -/
structure State (τ : Type) where
  cache : Cache τ := {}
  row : Row τ := {}
  flushing : Flushing τ := .free
  /-- Calls of `_flush_cache` that wait for the lock. -/
  waiting : Nat := 0
  recorded : List (Recorded τ) := []
deriving Repr, DecidableEq

/-- What happens at an await point. -/
inductive Label (τ : Type) where
  | recordResult (r : Recorded τ)
  /-- `_flush_cache` is called, also by `get_stats`. -/
  | flushCache
  /-- A waiting call gets the lock and selects the row. -/
  | select
  /-- The selected row is there: the batch is added and the cache emptied. -/
  | merge
  | commit
  /-- The commit raises and is rolled back. -/
  | commitFails
  /-- An exception before the batch is added. -/
  | abort
deriving Repr, DecidableEq

section
variable {τ : Type} [DecidableEq τ] (percent : Nat → Nat → BitVec 64)

/-- One step. -/
def step (s : State τ) : Label τ → Option (State τ)
  | .recordResult r =>
    some { s with
      cache := s.cache.record r
      waiting := if flushThreshold ≤ (s.cache.record r).counters.total then s.waiting + 1 else s.waiting
      recorded := s.recorded ++ [r] }
  | .flushCache     =>
    some { s with waiting := if s.cache.counters.total = 0 then s.waiting else s.waiting + 1 }
  | .select         =>
    match s.flushing with
    | .free =>
      if s.waiting = 0 then none else some { s with flushing := .selected s.row, waiting := s.waiting - 1 }
    | _     => none
  | .merge          =>
    match s.flushing with
    | .selected row => some { s with flushing := .merged row (row.addBatch percent s.cache), cache := {} }
    | _             => none
  | .commit         =>
    match s.flushing with
    | .merged row new => some { s with row := s.row.update row new, flushing := .free }
    | _               => none
  | .commitFails    =>
    match s.flushing with
    | .merged _ _ => some { s with flushing := .free }
    | _           => none
  | .abort          =>
    match s.flushing with
    | .selected _ => some { s with flushing := .free }
    | _           => none

/-- What is stored, the open transaction included. -/
def State.stored (s : State τ) : Row τ :=
  match s.flushing with
  | .merged _ new => new
  | _             => s.row

/-- No result is lost and none is counted twice: the stored and the cached counters are those of all results,
    and the stored and the cached window end the history. -/
def Conserved (s : State τ) : Prop :=
  s.stored.counters + s.cache.counters = Counters.tally s.recorded ∧
    (s.stored.recent ++ s.cache.recent) <:+ s.recorded

/-- No batch is rolled back, and the cache does not overflow behind a stored window. -/
def Faultless (s : State τ) : Label τ → Prop
  | .commitFails    => ∀ row new, s.flushing = .merged row new → new.counters.total = row.counters.total
  | .recordResult _ => s.cache.recent.length < rollingWindow * 2 ∨ s.stored.recent = []
  | _               => True

end

/-! ## Counting -/

namespace Counters

variable {τ : Type}

theorem add_def (a b : Counters) : a + b =
    ⟨a.total + b.total, a.localHits + b.localHits, a.cloudMisses + b.cloudMisses, a.errors + b.errors⟩ := rfl

theorem add_zero (a : Counters) : a + {} = a := rfl

theorem add_count (a b : Counters) (r : MatchResult) : a + b.count r = (a + b).count r := by
  cases r <;> rfl

theorem tally_concat (rs : List (Recorded τ)) (r : Recorded τ) : tally (rs ++ [r]) = (tally rs).count r.result := by
  unfold tally
  rw [List.foldl_append]
  rfl

/-- Counting a list goes through its parts. -/
theorem tally_append (rs cs : List (Recorded τ)) : tally (rs ++ cs) = tally rs + tally cs := by
  induction cs using List.reverseRecOn with
  | nil =>
    rw [List.append_nil]
    rfl
  | append_singleton cs r ih =>
    rw [← List.append_assoc, tally_concat, tally_concat, ih, add_count]

theorem Balanced.add {a b : Counters} (ha : a.Balanced) (hb : b.Balanced) : (a + b).Balanced := by
  unfold Balanced at *
  rw [add_def]
  dsimp only
  omega

theorem Balanced.count {c : Counters} (h : c.Balanced) (r : MatchResult) : (c.count r).Balanced := by
  unfold Balanced at *
  cases r <;> simp only [Counters.count] <;> omega

theorem balanced_tally (rs : List (Recorded τ)) : (tally rs).Balanced := by
  induction rs using List.reverseRecOn with
  | nil => rfl
  | append_singleton rs r ih =>
    rw [tally_concat]
    exact ih.count _

end Counters

theorem length_rtake_le {α : Type} (l : List α) (n : Nat) : (l.rtake n).length ≤ n := by
  unfold List.rtake
  rw [List.length_drop]
  omega

theorem rtake_suffix {α : Type} (l : List α) (n : Nat) : l.rtake n <:+ l := List.drop_suffix _ _

theorem rtake_of_length_le {α : Type} {l : List α} {n : Nat} (h : l.length ≤ n) : l.rtake n = l := by
  unfold List.rtake
  rw [Nat.sub_eq_zero_of_le h, List.drop_zero]

namespace Cache

variable {τ : Type}

theorem total_record (cache : Cache τ) (r : Recorded τ) :
    (cache.record r).counters.total = cache.counters.total + 1 := by
  unfold record Counters.count
  cases r.result <;> rfl

/-- The cache keeps the last results. -/
theorem recent_record_suffix (cache : Cache τ) (r : Recorded τ) :
    (cache.record r).recent <:+ (cache.recent ++ [r]) := by
  unfold record
  dsimp only
  split
  · exact rtake_suffix _ _
  · exact List.suffix_refl _

/-- It keeps all of them while it has room. -/
theorem recent_record {cache : Cache τ} (h : cache.recent.length < rollingWindow * 2) (r : Recorded τ) :
    (cache.record r).recent = cache.recent ++ [r] := by
  unfold record
  dsimp only
  rw [if_neg]
  rw [List.length_append, List.length_singleton]
  omega

end Cache

namespace Row

variable {τ : Type} (percent : Nat → Nat → BitVec 64)

/-- An `UPDATE` of a row nobody else has written since writes what it means to. -/
theorem update_self [DecidableEq τ] (row new : Row τ) : row.update row new = new := by
  have hcolumn : ∀ {α : Type} [DecidableEq α] (x y : α), (if y = x then x else y) = y := by
    intro α _ x y
    split
    · next h => exact h.symm
    · rfl
  unfold update
  simp only [hcolumn]

theorem length_recent_addBatch (row : Row τ) (cache : Cache τ) :
    (row.addBatch percent cache).recent.length ≤ rollingWindow := by
  unfold addBatch
  dsimp only
  exact length_rtake_le _ _

theorem recent_addBatch_suffix (row : Row τ) (cache : Cache τ) :
    (row.addBatch percent cache).recent <:+ (row.recent ++ cache.recent) := by
  unfold addBatch
  dsimp only
  exact rtake_suffix _ _

theorem recent_addBatch_empty {row : Row τ} (h : row.recent.length ≤ rollingWindow) :
    (row.addBatch percent {}).recent = row.recent := by
  unfold addBatch
  dsimp only
  rw [List.append_nil, rtake_of_length_le h]

end Row

/-! ## What a step does -/

section
variable {τ : Type} [DecidableEq τ] {percent : Nat → Nat → BitVec 64}

/-- What a step leads to, with what enables it. -/
inductive Stepped (percent : Nat → Nat → BitVec 64) (s : State τ) : Label τ → State τ → Prop where
  | recordResult (r : Recorded τ) (n : Nat) :
      Stepped percent s (.recordResult r)
        { s with cache := s.cache.record r, waiting := n, recorded := s.recorded ++ [r] }
  | flushCache (n : Nat) : Stepped percent s .flushCache { s with waiting := n }
  | select (n : Nat) (hphase : s.flushing = .free) :
      Stepped percent s .select { s with flushing := .selected s.row, waiting := n }
  | merge (row : Row τ) (hphase : s.flushing = .selected row) :
      Stepped percent s .merge { s with flushing := .merged row (row.addBatch percent s.cache), cache := {} }
  | commit (row new : Row τ) (hphase : s.flushing = .merged row new) :
      Stepped percent s .commit { s with row := s.row.update row new, flushing := .free }
  | commitFails (row new : Row τ) (hphase : s.flushing = .merged row new) :
      Stepped percent s .commitFails { s with flushing := .free }
  | abort (row : Row τ) (hphase : s.flushing = .selected row) :
      Stepped percent s .abort { s with flushing := .free }

theorem stepped_of_step {s s' : State τ} {l : Label τ} (hs : step percent s l = some s') :
    Stepped percent s l s' := by
  cases l with
  | recordResult r =>
    cases hs
    exact .recordResult r _
  | flushCache =>
    cases hs
    exact .flushCache _
  | select =>
    simp only [step] at hs
    split at hs
    · next hphase =>
      split at hs
      · cases hs
      · cases hs
        exact .select _ hphase
    · cases hs
  | merge =>
    simp only [step] at hs
    split at hs
    · next row hphase =>
      cases hs
      exact .merge row hphase
    · cases hs
  | commit =>
    simp only [step] at hs
    split at hs
    · next row new hphase =>
      cases hs
      exact .commit row new hphase
    · cases hs
  | commitFails =>
    simp only [step] at hs
    split at hs
    · next row new hphase =>
      cases hs
      exact .commitFails row new hphase
    · cases hs
  | abort =>
    simp only [step] at hs
    split at hs
    · next row hphase =>
      cases hs
      exact .abort row hphase
    · cases hs

/-- A step forgets nothing that was recorded. -/
theorem recorded_step {s s' : State τ} {l : Label τ} (hs : step percent s l = some s') :
    s.recorded <+: s'.recorded := by
  cases stepped_of_step hs with
  | recordResult r n => exact List.prefix_append _ _
  | flushCache | select | merge | commit | commitFails | abort => exact List.prefix_refl _

end

/-! ## Conservation -/

section
variable {τ : Type} {s s' : State τ} {l : Label τ}

/-- What the flush that holds the lock has in hand: the stored row, and with an empty batch nothing else. -/
def FlushOk (s : State τ) : Prop :=
  match s.flushing with
  | .free           => True
  | .selected row   => row = s.row
  | .merged row new =>
    row = s.row ∧ new.recent.length ≤ rollingWindow ∧
      (new.counters.total = row.counters.total → new.counters = row.counters ∧ new.recent = row.recent)

/-- What holds in a faultless run. -/
structure Inv (s : State τ) : Prop where
  conserved : Conserved s
  empty : s.cache.counters.total = 0 → s.cache = {}
  window : s.row.recent.length ≤ rollingWindow
  flush : FlushOk s

theorem inv_init : Inv ({} : State τ) :=
  ⟨⟨rfl, List.nil_suffix⟩, fun _ => rfl, Nat.zero_le _, trivial⟩

theorem Inv.recordResult (h : Inv s) (r : Recorded τ) (hok : Faultless s (.recordResult r)) {n : Nat} :
    Inv { s with cache := s.cache.record r, waiting := n, recorded := s.recorded ++ [r] } := by
  have hstored : State.stored { s with cache := s.cache.record r, waiting := n, recorded := s.recorded ++ [r] } =
      s.stored := rfl
  obtain ⟨hcounters, before, hbefore⟩ := h.conserved
  refine ⟨⟨?_, ?_⟩, fun hzero => ?_, h.window, h.flush⟩
  · rw [hstored, Counters.tally_concat, ← hcounters, ← Counters.add_count]
    rfl
  · rw [hstored]
    show (s.stored.recent ++ (s.cache.record r).recent) <:+ s.recorded ++ [r]
    have hwhole : (s.stored.recent ++ (s.cache.recent ++ [r])) <:+ s.recorded ++ [r] :=
      ⟨before, by rw [← hbefore]; simp only [List.append_assoc]⟩
    rcases hok with hroom | hnone
    · rw [Cache.recent_record hroom]
      exact hwhole
    · -- A cache that overflows forgets its older half, so nothing may stand before it.
      rw [hnone, List.nil_append] at hwhole ⊢
      exact (Cache.recent_record_suffix _ _).trans hwhole
  · have htotal : (s.cache.record r).counters.total = 0 := hzero
    rw [Cache.total_record] at htotal
    exact absurd htotal (Nat.succ_ne_zero _)

theorem Inv.merge {percent : Nat → Nat → BitVec 64} {row : Row τ} (h : Inv s)
    (hphase : s.flushing = .selected row) :
    Inv { s with flushing := .merged row (row.addBatch percent s.cache), cache := {} } := by
  have hrow : row = s.row := by
    have hflush := h.flush
    unfold FlushOk at hflush
    rwa [hphase] at hflush
  have hstored : s.stored = s.row := by
    unfold State.stored
    rw [hphase]
  obtain ⟨hcounters, hrecent⟩ := h.conserved
  rw [hstored, ← hrow] at hcounters hrecent
  change (row.addBatch percent s.cache).counters = Counters.tally s.recorded at hcounters
  have hlength := Row.length_recent_addBatch percent row s.cache
  have hempty : (row.addBatch percent s.cache).counters.total = row.counters.total →
      (row.addBatch percent s.cache).counters = row.counters ∧
        (row.addBatch percent s.cache).recent = row.recent := by
    intro htotal
    have hzero : s.cache.counters.total = 0 := by
      have hsum : row.counters.total + s.cache.counters.total = row.counters.total := htotal
      omega
    rw [h.empty hzero]
    exact ⟨Counters.add_zero _, Row.recent_addBatch_empty percent (hrow ▸ h.window)⟩
  -- The batch goes from the cache into the row, so the sum of the two stays as it is.
  have hsuffix := (Row.recent_addBatch_suffix percent row s.cache).trans hrecent
  generalize row.addBatch percent s.cache = new at *
  refine ⟨⟨hcounters, ?_⟩, fun _ => rfl, h.window, hrow, hlength, hempty⟩
  show (new.recent ++ []) <:+ s.recorded
  rwa [List.append_nil]

/-- Every faultless step keeps the invariant. -/
theorem Inv.step [DecidableEq τ] {percent : Nat → Nat → BitVec 64} (h : Inv s) (hok : Faultless s l)
    (hs : step percent s l = some s') : Inv s' := by
  have hflush := h.flush
  have hconserved := h.conserved
  cases stepped_of_step hs with
  | recordResult r n => exact h.recordResult r hok
  | flushCache n => exact ⟨h.conserved, h.empty, h.window, h.flush⟩
  | select n hphase =>
    refine ⟨?_, h.empty, h.window, rfl⟩
    unfold Conserved State.stored at hconserved ⊢
    rw [hphase] at hconserved
    exact hconserved
  | merge row hphase => exact h.merge hphase
  | commit row new hphase =>
    unfold FlushOk at hflush
    rw [hphase] at hflush
    -- The lock has kept other flushes from the row, so what is written is what was merged.
    obtain ⟨rfl, hlength, _⟩ := hflush
    rw [Row.update_self]
    refine ⟨?_, h.empty, hlength, trivial⟩
    unfold Conserved State.stored at hconserved ⊢
    rw [hphase] at hconserved
    exact hconserved
  | commitFails row new hphase =>
    unfold FlushOk at hflush
    rw [hphase] at hflush
    -- Only an empty batch was rolled back, so what it leaves is what was stored anyway.
    obtain ⟨hcounters, hrecent⟩ := hflush.2.2 (hok row new hphase)
    refine ⟨?_, h.empty, h.window, trivial⟩
    unfold Conserved State.stored at hconserved ⊢
    rw [hphase] at hconserved
    dsimp only at hconserved ⊢
    rw [hcounters, hrecent, hflush.1] at hconserved
    exact hconserved
  | abort row hphase =>
    refine ⟨?_, h.empty, h.window, trivial⟩
    unfold Conserved State.stored at hconserved ⊢
    rw [hphase] at hconserved
    exact hconserved

/-- **Results are conserved in every run that rolls no batch back and overflows no cache behind a stored
    window**, however records, flushes and readers interleave. -/
theorem conserved_of_faultless [DecidableEq τ] (percent : Nat → Nat → BitVec 64)
    (h : ReachesUnder (step percent) Faultless ({} : State τ) s) : Conserved s :=
  (h.invariant inv_init fun _ _ _ hinv hok hs => hinv.step hok hs).conserved

end

/-! ## Two flushes -/

/-- Whole percents as doubles, for hits among attempts all or none of which hit. -/
def wholePercent (hits total : Nat) : BitVec 64 := if hits = total then 0x4059000000000000 else 0

/-- A hit is recorded, and a reader moves it into the row while a miss arrives. -/
def flushedHit : List (Label Nat) :=
  [.recordResult ⟨.localHit, 0⟩, .flushCache, .select, .merge, .recordResult ⟨.cloudMiss, 1⟩, .commit]

/-- The state it ends in. -/
def flushedHitEnd : State Nat := (exec (step wholePercent) {} flushedHit).getD {}

theorem flushedHit_conserved : Conserved flushedHitEnd := by
  refine conserved_of_faultless wholePercent (reachesUnder_of_exec .start flushedHit (by decide) ?_)
  refine ⟨.inl (by decide), trivial, trivial, trivial, .inl (by decide), trivial, trivial⟩

/-- The commit of the flush raises. -/
def rolledBack : List (Label Nat) :=
  [.recordResult ⟨.localHit, 0⟩, .flushCache, .select, .merge, .commitFails]

/-- The state it ends in. -/
def rolledBackEnd : State Nat := (exec (step wholePercent) {} rolledBack).getD {}

/-- The batch is in neither place. -/
theorem rolledBack_lost : ¬ ∀ s : State Nat, Reaches (step wholePercent) {} s → Conserved s := by
  intro h
  have hreach : Reaches (step wholePercent) {} rolledBackEnd := reaches_of_exec rolledBack (by decide)
  exact absurd (h rolledBackEnd hreach).1 (by decide)

end RideTheApi.MatchTracker
