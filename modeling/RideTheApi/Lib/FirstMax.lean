import Mathlib.Order.Basic
import Mathlib.Order.Lattice
import RideTheApi.Lib.Except

/-!
# `Lib.FirstMax` — the first maximum of a list, by a plain and by a pruned scan

A scan keeps the best score so far and, for it, the candidate and a payload fetched for that candidate.
The **plain** scan scores every candidate. The **pruned** scan may stop early, may skip a candidate on
sight, and may replace a score by a cheaper one, each decision taken from the best score so far. When
every such decision is justified by an upper bound (`Pruning.Sound`), the two scans return the same
value, and what they return is the first maximum above the initial score (`IsFirstMax`). Scoring and
fetching may fail, so both scans live in `Except`.
-/

namespace FirstMax

universe u v

variable {α β R : Type u} {ε : Type v} [LinearOrder R]

/-- A running best: the score, and the candidate with its payload once there is one. -/
structure Best (R α β : Type u) where
  score : R
  found : Option (α × β)
deriving Repr, DecidableEq

/-- Take `a` with score `s` when it beats the best so far, fetching its payload. -/
def Best.offer (fetch : α → Except ε β) (b : Best R α β) (a : α) (s : R) : Except ε (Best R α β) :=
  if b.score < s then (fetch a).map fun p => ⟨s, some (a, p)⟩ else .ok b

/-- The plain scan: score every candidate, keep the first maximum. -/
def scan (score : α → Except ε R) (fetch : α → Except ε β) :
    Best R α β → List α → Except ε (Best R α β)
  | b, []      => .ok b
  | b, a :: as => do
    let s ← score a
    let b' ← b.offer fetch a s
    scan score fetch b' as

/-- The shortcuts of a pruned scan, each a decision taken from the best score so far. -/
structure Pruning (ε : Type v) (R α : Type u) where
  /-- Leave the loop. -/
  stop : R → Bool
  /-- Pass over a candidate without scoring it. -/
  skip : R → α → Bool
  /-- Score a candidate, possibly cutting the computation short. -/
  estimate : R → α → Except ε R

/-- The pruned scan over the candidates that `admits` lets through. -/
def prunedScan (P : Pruning ε R α) (admits : α → Bool) (fetch : α → Except ε β) :
    Best R α β → List α → Except ε (Best R α β)
  | b, []      => .ok b
  | b, a :: as =>
    if P.stop b.score then .ok b
    else if P.skip b.score a then prunedScan P admits fetch b as
    else if !admits a then prunedScan P admits fetch b as
    else do
      let s ← P.estimate b.score a
      let b' ← b.offer fetch a s
      prunedScan P admits fetch b' as

/-- Every shortcut is justified by an upper bound on the true score. -/
structure Pruning.Sound (P : Pruning ε R α) (score : α → Except ε R) : Prop where
  stop : ∀ {r a s}, P.stop r = true → score a = .ok s → s ≤ r
  skip : ∀ {r a s}, P.skip r a = true → score a = .ok s → s ≤ r
  estimate : ∀ r {a s}, score a = .ok s →
    P.estimate r a = .ok s ∨ ∃ s', P.estimate r a = .ok s' ∧ s' ≤ r ∧ s ≤ r

section
variable {score : α → Except ε R} {fetch : α → Except ε β} {b r : Best R α β}

/-- A score that does not beat the best changes nothing. -/
theorem Best.offer_of_le {a : α} {s : R} (h : s ≤ b.score) : b.offer fetch a s = .ok b :=
  if_neg (not_lt.mpr h)

/-- One step of a plain scan that succeeds. -/
theorem scan_cons_ok {a : α} {as : List α} (h : scan score fetch b (a :: as) = .ok r) :
    ∃ s b', score a = .ok s ∧ b.offer fetch a s = .ok b' ∧ scan score fetch b' as = .ok r := by
  obtain ⟨s, hs, h⟩ := Except.bind_ok_iff.mp h
  obtain ⟨b', hb, h⟩ := Except.bind_ok_iff.mp h
  exact ⟨s, b', hs, hb, h⟩

/-- A plain scan no candidate of which beats the best returns it unchanged. -/
theorem scan_of_le {as : List α} (h : scan score fetch b as = .ok r)
    (hle : ∀ a s, score a = .ok s → s ≤ b.score) : r = b := by
  induction as generalizing b with
  | nil => exact (Except.ok.inj h).symm
  | cons a as ih =>
    obtain ⟨s, b', hs, hb, h'⟩ := scan_cons_ok h
    rw [Best.offer_of_le (hle a s hs)] at hb
    cases hb
    exact ih h' hle

/-- **The pruned scan returns what the plain scan returns.** -/
theorem prunedScan_eq {P : Pruning ε R α} (hP : P.Sound score) {admits : α → Bool} {as : List α}
    (h : scan score fetch b (as.filter admits) = .ok r) : prunedScan P admits fetch b as = .ok r := by
  induction as generalizing b with
  | nil => exact h
  | cons a as ih =>
    unfold prunedScan
    split
    case isTrue hstop => rw [scan_of_le h fun a s hs => hP.stop hstop hs]
    case isFalse =>
    by_cases ha : admits a = true
    · rw [List.filter_cons_of_pos ha] at h
      obtain ⟨s, b', hs, hb, h'⟩ := scan_cons_ok h
      split
      case isTrue hskip =>
        -- the plain scan scored the skipped candidate and kept its best
        rw [Best.offer_of_le (hP.skip hskip hs)] at hb
        cases hb
        exact ih h'
      case isFalse =>
      simp only [ha, Bool.not_true, Bool.false_eq_true, if_false]
      rcases hP.estimate b.score hs with he | ⟨s', he, hs'b, hsb⟩
      · simpa [he, hb] using ih h'
      · -- the estimate differs from the score, but neither beats the best
        rw [Best.offer_of_le hsb] at hb
        cases hb
        simpa [he, Best.offer_of_le hs'b] using ih h'
    · rw [List.filter_cons_of_neg ha] at h
      simp only [Bool.not_eq_true] at ha
      simp only [ha, Bool.not_false, if_true, ite_self]
      exact ih h

/-- A pruned scan that admits no candidate keeps what it starts with. -/
theorem prunedScan_of_not_admits {P : Pruning ε R α} {admits : α → Bool} {as : List α}
    (h : ∀ a ∈ as, admits a = false) : prunedScan P admits fetch b as = .ok b := by
  induction as with
  | nil => rfl
  | cons a as ih =>
    have hrest := ih fun a' ha' => h a' (List.mem_cons_of_mem _ ha')
    rw [prunedScan, h a List.mem_cons_self]
    simp only [Bool.not_false, if_true, hrest]
    split
    · rfl
    · split <;> rfl

/-- A pruned scan does not look at the candidates it does not admit. -/
theorem prunedScan_filter (P : Pruning ε R α) (admits : α → Bool) (fetch : α → Except ε β) (b : Best R α β)
    (as : List α) : prunedScan P admits fetch b (as.filter admits) = prunedScan P admits fetch b as := by
  have hstopped : ∀ (b : Best R α β) (as : List α), P.stop b.score = true → prunedScan P admits fetch b as = .ok b := by
    intro b as hstop
    cases as with
    | nil => rfl
    | cons a as => rw [prunedScan, if_pos hstop]
  induction as generalizing b with
  | nil => rfl
  | cons a as ih =>
    by_cases ha : admits a = true
    · rw [List.filter_cons_of_pos ha, prunedScan, prunedScan, ih]
      simp only [ih]
    · rw [List.filter_cons_of_neg ha, ih, prunedScan]
      split
      case isTrue hstop => exact hstopped b as hstop
      case isFalse => simp [ha]

/-- What a pruned scan has found stays found. -/
theorem prunedScan_isSome {P : Pruning ε R α} {admits : α → Bool} {as : List α}
    (h : prunedScan P admits fetch b as = .ok r) (hb : b.found.isSome = true) : r.found.isSome = true := by
  induction as generalizing b with
  | nil =>
    cases h
    exact hb
  | cons a as ih =>
    unfold prunedScan at h
    split at h
    · cases h
      exact hb
    · split at h
      · exact ih h hb
      · split at h
        · exact ih h hb
        · obtain ⟨s, _, h⟩ := Except.bind_ok_iff.mp h
          obtain ⟨b', hoffer, h'⟩ := Except.bind_ok_iff.mp h
          refine ih h' ?_
          unfold Best.offer at hoffer
          split at hoffer
          · obtain ⟨p, _, rfl⟩ := Except.map_ok_iff.mp hoffer
            rfl
          · cases hoffer
            exact hb

/-- What a pruned scan has found is what it started with, or one of its candidates. -/
theorem prunedScan_found {P : Pruning ε R α} {admits : α → Bool} {as : List α}
    (h : prunedScan P admits fetch b as = .ok r) {p : α × β} (hp : r.found = some p) :
    b.found = some p ∨ p.1 ∈ as := by
  induction as generalizing b with
  | nil =>
    cases h
    exact .inl hp
  | cons a as ih =>
    unfold prunedScan at h
    split at h
    · cases h
      exact .inl hp
    · split at h
      · exact (ih h).imp_right (List.mem_cons_of_mem a)
      · split at h
        · exact (ih h).imp_right (List.mem_cons_of_mem a)
        · obtain ⟨s, _, h⟩ := Except.bind_ok_iff.mp h
          obtain ⟨b', hoffer, h'⟩ := Except.bind_ok_iff.mp h
          rcases ih h' with hb' | hmem
          · unfold Best.offer at hoffer
            split at hoffer
            · -- the candidate was taken
              obtain ⟨q, _, rfl⟩ := Except.map_ok_iff.mp hoffer
              cases hb'
              exact .inr List.mem_cons_self
            · cases hoffer
              exact .inl hb'
          · exact .inr (List.mem_cons_of_mem a hmem)

/-- **A pruned scan that finds nothing** has estimated every admitted candidate it did not skip at no more
    than the initial score. -/
theorem prunedScan_none {P : Pruning ε R α} {admits : α → Bool} {as : List α}
    (h : prunedScan P admits fetch b as = .ok r) (hr : r.found = none) (hstop : P.stop b.score = false) {a : α}
    (ha : a ∈ as) (hadmits : admits a = true) (hskip : P.skip b.score a = false) :
    ∃ s, P.estimate b.score a = .ok s ∧ s ≤ b.score := by
  induction as with
  | nil => cases ha
  | cons x as ih =>
    unfold prunedScan at h
    rw [hstop] at h
    simp only [Bool.false_eq_true, if_false] at h
    rcases List.mem_cons.mp ha with rfl | ha
    · rw [hskip, hadmits] at h
      simp only [Bool.false_eq_true, if_false, Bool.not_true] at h
      obtain ⟨s, hs, h⟩ := Except.bind_ok_iff.mp h
      obtain ⟨b', hoffer, h'⟩ := Except.bind_ok_iff.mp h
      refine ⟨s, hs, not_lt.mp fun hlt => ?_⟩
      unfold Best.offer at hoffer
      rw [if_pos hlt] at hoffer
      obtain ⟨p, _, rfl⟩ := Except.map_ok_iff.mp hoffer
      have hsome := prunedScan_isSome h' rfl
      rw [hr] at hsome
      cases hsome
    · split at h
      · exact ih h ha
      · split at h
        · exact ih h ha
        · obtain ⟨s, _, h⟩ := Except.bind_ok_iff.mp h
          obtain ⟨b', hoffer, h'⟩ := Except.bind_ok_iff.mp h
          unfold Best.offer at hoffer
          split at hoffer
          · obtain ⟨p, _, rfl⟩ := Except.map_ok_iff.mp hoffer
            have hsome := prunedScan_isSome h' rfl
            rw [hr] at hsome
            cases hsome
          · cases hoffer
            exact ih h' ha

/-! ## Scans over related candidates -/

section
variable {α' β' : Type u} {P : Pruning ε R α} {P' : Pruning ε R α'} {admits : α → Bool} {admits' : α' → Bool}
  {fetch' : α' → Except ε β'} {C : α → α' → Prop} {T : α → α' → β → β' → Prop}

/-- Two running bests of the same score for related candidates with related payloads. -/
def Best.Rel (C : α → α' → Prop) (T : α → α' → β → β' → Prop) (b : Best R α β) (b' : Best R α' β') : Prop :=
  b.score = b'.score ∧
    Option.Rel (fun p p' => C p.1 p'.1 ∧ T p.1 p'.1 p.2 p'.2) b.found b'.found

/-- Candidates that are pruned, admitted and scored alike. -/
structure Pruning.Alike (P : Pruning ε R α) (P' : Pruning ε R α') (admits : α → Bool)
    (admits' : α' → Bool) (C : α → α' → Prop) : Prop where
  stop : ∀ r, P.stop r = P'.stop r
  skip : ∀ r a a', C a a' → P.skip r a = P'.skip r a'
  admits : ∀ a a', C a a' → admits a = admits' a'
  estimate : ∀ r a a', C a a' → P.estimate r a = P'.estimate r a'

/-- **Scans over related candidates return related bests**, or fail alike. -/
theorem prunedScan_rel (hP : P.Alike P' admits admits' C)
    (hfetch : ∀ a a', C a a' → Except.Rel (T a a') (fetch a) (fetch' a')) {as : List α} {as' : List α'}
    (has : List.Forall₂ C as as') {b : Best R α β} {b' : Best R α' β'} (hb : b.Rel C T b') :
    Except.Rel (Best.Rel C T) (prunedScan P admits fetch b as) (prunedScan P' admits' fetch' b' as') := by
  induction has generalizing b b' with
  | nil => exact .ok hb
  | @cons a a' as as' ha has ih =>
    rw [prunedScan, prunedScan, ← hb.1, hP.stop, hP.skip _ _ _ ha, hP.admits _ _ ha, hP.estimate _ _ _ ha]
    by_cases hstop : P'.stop b.score = true
    · rw [if_pos hstop, if_pos hstop]
      exact .ok hb
    · rw [if_neg hstop, if_neg hstop]
      by_cases hskip : P'.skip b.score a' = true
      · rw [if_pos hskip, if_pos hskip]
        exact ih hb
      · rw [if_neg hskip, if_neg hskip]
        by_cases hadmit : (!admits' a') = true
        · rw [if_pos hadmit, if_pos hadmit]
          exact ih hb
        · rw [if_neg hadmit, if_neg hadmit]
          refine Except.Rel.bind (R := Eq) (.refl (fun _ => rfl) _) fun s s' hs => ?_
          subst hs
          refine Except.Rel.bind (R := Best.Rel C T) ?_ fun _ _ hbest => ih hbest
          unfold Best.offer
          rw [← hb.1]
          by_cases hlt : b.score < s
          · rw [if_pos hlt, if_pos hlt]
            exact (hfetch a a' ha).map fun p p' hp => ⟨rfl, .some ⟨ha, hp⟩⟩
          · rw [if_neg hlt, if_neg hlt]
            exact .ok hb

end

/-! ## What a scan returns -/

/-- `r` is the first maximum of `score` over `as` above the score `r₀`, with its payload: nothing found
    and no score above `r₀`, or the leftmost candidate of the largest score. -/
inductive IsFirstMax (score : α → Except ε R) (fetch : α → Except ε β) (r₀ : R) (as : List α) :
    Best R α β → Prop where
  | none : (∀ a ∈ as, ∃ s, score a = .ok s ∧ s ≤ r₀) → IsFirstMax score fetch r₀ as ⟨r₀, .none⟩
  | some {pre post : List α} {a : α} {p : β} {s : R} : as = pre ++ a :: post → score a = .ok s →
      fetch a = .ok p → r₀ < s → (∀ x ∈ pre, ∃ t, score x = .ok t ∧ t < s) →
      (∀ x ∈ post, ∃ t, score x = .ok t ∧ t ≤ s) → IsFirstMax score fetch r₀ as ⟨s, .some (a, p)⟩

variable {r₀ : R} {as : List α}

/-- A candidate that does not beat the maximum may follow it. -/
theorem IsFirstMax.skip {a : α} {s : R} (h : IsFirstMax score fetch r₀ as b) (hs : score a = .ok s)
    (hle : s ≤ b.score) : IsFirstMax score fetch r₀ (as ++ [a]) b := by
  cases h with
  | none hall =>
    refine .none fun x hx => ?_
    rcases List.mem_append.mp hx with hx | hx
    · exact hall x hx
    · rw [List.mem_singleton.mp hx]
      exact ⟨s, hs, hle⟩
  | @some pre post y p t has hy hp ht hpre hpost =>
    have hsplit : as ++ [a] = pre ++ y :: (post ++ [a]) := by simp [has]
    refine .some hsplit hy hp ht hpre fun x hx => ?_
    rcases List.mem_append.mp hx with hx | hx
    · exact hpost x hx
    · rw [List.mem_singleton.mp hx]
      exact ⟨s, hs, hle⟩

/-- The initial score is a lower bound of the maximum. -/
theorem IsFirstMax.le_score (h : IsFirstMax score fetch r₀ as b) : r₀ ≤ b.score := by
  cases h with
  | none => exact le_rfl
  | some _ _ _ hlt => exact hlt.le

/-- No candidate scores above the maximum. -/
theorem IsFirstMax.upper (h : IsFirstMax score fetch r₀ as b) {a : α} (ha : a ∈ as) :
    ∃ s, score a = .ok s ∧ s ≤ b.score := by
  cases h with
  | none hall => exact hall a ha
  | @some pre post y p t has hy hp ht hpre hpost =>
    subst has
    rcases List.mem_append.mp ha with ha | ha
    · obtain ⟨s, hs, hlt⟩ := hpre a ha
      exact ⟨s, hs, hlt.le⟩
    · rcases List.mem_cons.mp ha with rfl | ha
      · exact ⟨t, hy, le_rfl⟩
      · exact hpost a ha

/-- A candidate that beats the maximum so far is the new first maximum. -/
theorem IsFirstMax.take {a : α} {p : β} {s : R} (h : IsFirstMax score fetch r₀ as b)
    (hs : score a = .ok s) (hp : fetch a = .ok p) (hlt : b.score < s) :
    IsFirstMax score fetch r₀ (as ++ [a]) ⟨s, .some (a, p)⟩ := by
  have hsplit : as ++ [a] = as ++ a :: [] := rfl
  refine .some hsplit hs hp (lt_of_le_of_lt h.le_score hlt) (fun x hx => ?_) (by simp)
  obtain ⟨t, ht, hle⟩ := h.upper hx
  exact ⟨t, ht, lt_of_le_of_lt hle hlt⟩

/-- Offering one more candidate keeps the first maximum. -/
theorem IsFirstMax.offer {a : α} {s : R} {b' : Best R α β} (h : IsFirstMax score fetch r₀ as b)
    (hs : score a = .ok s) (hb : b.offer fetch a s = .ok b') :
    IsFirstMax score fetch r₀ (as ++ [a]) b' := by
  unfold Best.offer at hb
  split at hb
  case isTrue hlt =>
    obtain ⟨p, hp, rfl⟩ := Except.map_ok_iff.mp hb
    exact h.take hs hp hlt
  case isFalse hle =>
    cases hb
    exact h.skip hs (not_lt.mp hle)

/-- A plain scan continues a first maximum. -/
theorem scan_continues {as' : List α} (h : IsFirstMax score fetch r₀ as b)
    (hr : scan score fetch b as' = .ok r) : IsFirstMax score fetch r₀ (as ++ as') r := by
  induction as' generalizing as b with
  | nil =>
    cases hr
    simpa using h
  | cons a as' ih =>
    obtain ⟨s, b', hs, hb, h'⟩ := scan_cons_ok hr
    simpa using ih (h.offer hs hb) h'

/-- **A plain scan returns the first maximum.** -/
theorem scan_isFirstMax (h : scan score fetch ⟨r₀, none⟩ as = .ok r) :
    IsFirstMax score fetch r₀ as r := by
  have hstart : IsFirstMax score fetch r₀ [] (⟨r₀, none⟩ : Best R α β) := .none (by simp)
  exact scan_continues hstart h

end
end FirstMax
