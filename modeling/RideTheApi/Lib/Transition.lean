/-!
# `Lib.Transition` — labelled steps, runs, and the guarded invariant rule

A system is a partial step function `step : σ → ℓ → Option σ`: a label is one scheduling choice, and a
label that is not enabled yields `none`. Interleavings are lists of labels, so "for every interleaving"
is a quantifier over label lists. A **guard** `ok : σ → ℓ → Prop` restricts a run to steps whose state
and label satisfy it; `ReachesUnder` collects the states such runs visit, and `ReachesUnder.invariant`
is the one induction every safety result goes through.
-/

namespace Transition

universe u v

variable {σ : Type u} {ℓ : Type v}

/-- Run a list of labels; `none` as soon as one of them is not enabled. -/
def exec (step : σ → ℓ → Option σ) : σ → List ℓ → Option σ
  | s, []      => some s
  | s, l :: ls => (step s l).bind fun s' => exec step s' ls

/-- The states visited by runs from `s₀` every step of which meets `ok`. -/
inductive ReachesUnder (step : σ → ℓ → Option σ) (ok : σ → ℓ → Prop) (s₀ : σ) : σ → Prop where
  | start : ReachesUnder step ok s₀ s₀
  | next {s s' : σ} {l : ℓ} : ReachesUnder step ok s₀ s → ok s l → step s l = some s' →
      ReachesUnder step ok s₀ s'

/-- The states visited by arbitrary runs. -/
abbrev Reaches (step : σ → ℓ → Option σ) : σ → σ → Prop :=
  ReachesUnder step (fun _ _ => True)

variable {step : σ → ℓ → Option σ} {ok : σ → ℓ → Prop} {s₀ s s' : σ}

/-- **The invariant rule.** What holds at the start and survives every guarded step holds at every state
    a guarded run visits. -/
theorem ReachesUnder.invariant {Inv : σ → Prop} (h : ReachesUnder step ok s₀ s) (h₀ : Inv s₀)
    (hstep : ∀ s l s', Inv s → ok s l → step s l = some s' → Inv s') : Inv s := by
  induction h with
  | start => exact h₀
  | next _ hok hs ih => exact hstep _ _ _ ih hok hs

/-- Every step of the run of `ls` from `s` meets `ok` (a run that gets stuck meets it vacuously from
    there on). -/
def AllOk (step : σ → ℓ → Option σ) (ok : σ → ℓ → Prop) : σ → List ℓ → Prop
  | _, []      => True
  | s, l :: ls => ok s l ∧ match step s l with
      | some s' => AllOk step ok s' ls
      | none    => True

instance AllOk.decidable [∀ s l, Decidable (ok s l)] :
    (s : σ) → (ls : List ℓ) → Decidable (AllOk step ok s ls)
  | _, []      => .isTrue trivial
  | s, l :: ls =>
    have : Decidable (match step s l with
        | some s' => AllOk step ok s' ls
        | none    => True) :=
      match step s l with
      | some s' => AllOk.decidable s' ls
      | none    => .isTrue trivial
    inferInstanceAs (Decidable (_ ∧ _))

/-- A run goes through the state its first part ends in. -/
theorem exec_append (ls ls' : List ℓ) :
    exec step s (ls ++ ls') = (exec step s ls).bind fun s' => exec step s' ls' := by
  induction ls generalizing s with
  | nil => rfl
  | cons l ls ih =>
    rw [List.cons_append, exec, exec, Option.bind_assoc]
    exact congrArg (Option.bind (step s l)) (funext fun t => ih)

/-- The last step of a run is from the state the others end in. -/
theorem exec_snoc {ls : List ℓ} {l : ℓ} (h : exec step s (ls ++ [l]) = some s') :
    ∃ t, exec step s ls = some t ∧ step t l = some s' := by
  rw [exec_append] at h
  obtain ⟨t, ht, h⟩ := Option.bind_eq_some_iff.mp h
  refine ⟨t, ht, ?_⟩
  simpa [exec] using h

/-- A concrete run whose steps all meet the guard ends in a reached state. -/
theorem reachesUnder_of_exec (hs : ReachesUnder step ok s₀ s) (ls : List ℓ)
    (hrun : exec step s ls = some s') (hok : AllOk step ok s ls) : ReachesUnder step ok s₀ s' := by
  induction ls generalizing s with
  | nil =>
    simp only [exec, Option.some.injEq] at hrun
    exact hrun ▸ hs
  | cons l ls ih =>
    obtain ⟨t, ht, hrun'⟩ := Option.bind_eq_some_iff.mp hrun
    simp only [AllOk, ht] at hok
    exact ih (.next hs hok.1 ht) hrun' hok.2

/-- The trivial guard is met by every run. -/
theorem allOk_true (ls : List ℓ) : AllOk step (fun _ _ => True) s ls := by
  induction ls generalizing s with
  | nil => trivial
  | cons l ls ih =>
    refine ⟨trivial, ?_⟩
    cases step s l with
    | some t => exact ih
    | none => trivial

/-- A concrete run ends in a reached state. -/
theorem reaches_of_exec (ls : List ℓ) (hrun : exec step s₀ ls = some s') : Reaches step s₀ s' :=
  reachesUnder_of_exec .start ls hrun (allOk_true ls)

/-- **A property held at every point of a run, by its steps.** Where each step from a state with `P` leads to
    one with `P` iff the guard is met, and every step is enabled, `P` holds after every prefix of a run iff
    all its steps meet the guard. -/
theorem forall_prefix_iff_allOk {P : σ → Prop} (htotal : ∀ s l, ∃ s', step s l = some s')
    (hstep : ∀ s l s', P s → step s l = some s' → (P s' ↔ ok s l)) {ls : List ℓ} (h₀ : P s₀) :
    (∀ pre, pre <+: ls → ∀ s, exec step s₀ pre = some s → P s) ↔ AllOk step ok s₀ ls := by
  induction ls generalizing s₀ with
  | nil =>
    refine ⟨fun _ => trivial, fun _ pre hpre s hrun => ?_⟩
    rw [List.prefix_nil.mp hpre] at hrun
    cases hrun
    exact h₀
  | cons l ls ih =>
    obtain ⟨s₁, hs₁⟩ := htotal s₀ l
    simp only [AllOk, hs₁]
    constructor
    · intro h
      have hfirst : P s₁ := h [l] (by simp) s₁ (by simp [exec, hs₁])
      refine ⟨(hstep s₀ l s₁ h₀ hs₁).mp hfirst, (ih hfirst).mp fun pre hpre s hrun => ?_⟩
      refine h (l :: pre) (List.cons_prefix_cons.mpr ⟨rfl, hpre⟩) s ?_
      rw [exec, hs₁]
      exact hrun
    · rintro ⟨hok, hrest⟩ pre hpre s hrun
      have hfirst : P s₁ := (hstep s₀ l s₁ h₀ hs₁).mpr hok
      cases pre with
      | nil =>
        cases hrun
        exact h₀
      | cons l' pre =>
        obtain ⟨rfl, htail⟩ := List.cons_prefix_cons.mp hpre
        rw [exec, hs₁] at hrun
        exact (ih hfirst).mpr hrest pre htail s hrun

/-- **Two guards met by the same runs.** Where they agree in every state of an invariant that a step under the
    second keeps, every step of a run meets the one iff every step meets the other. -/
theorem allOk_iff_allOk {ok' : σ → ℓ → Prop} {Inv : σ → Prop} (hok : ∀ s l, Inv s → (ok' s l ↔ ok s l))
    (hstep : ∀ s l s', Inv s → ok s l → step s l = some s' → Inv s') {ls : List ℓ} (h₀ : Inv s₀) :
    AllOk step ok' s₀ ls ↔ AllOk step ok s₀ ls := by
  induction ls generalizing s₀ with
  | nil => exact Iff.rfl
  | cons l ls ih =>
    simp only [AllOk]
    rw [hok s₀ l h₀]
    refine and_congr_right fun hl => ?_
    cases hs : step s₀ l with
    | none => exact Iff.rfl
    | some s₁ => exact ih (hstep s₀ l s₁ h₀ hl hs)

/-- **What the guard gives in every state of an invariant**, every step of a guarded run has. -/
theorem AllOk.of_invariant {ok' : σ → ℓ → Prop} (Inv : σ → Prop) (hok : ∀ s l, Inv s → ok s l → ok' s l)
    (hstep : ∀ s l s', Inv s → ok s l → step s l = some s' → Inv s') {ls : List ℓ} (h₀ : Inv s₀)
    (h : AllOk step ok s₀ ls) : AllOk step ok' s₀ ls := by
  have hboth : AllOk step (fun s l => ok s l ∧ ok' s l) s₀ ls :=
    (allOk_iff_allOk (fun s l hi => and_iff_left_of_imp (hok s l hi)) hstep h₀).mpr h
  clear h hok hstep h₀
  induction ls generalizing s₀ with
  | nil => trivial
  | cons l ls ih =>
    simp only [AllOk] at hboth ⊢
    refine ⟨hboth.1.2, ?_⟩
    cases hs : step s₀ l with
    | none => trivial
    | some s₁ =>
      rw [hs] at hboth
      exact ih hboth.2

/-- What every step of a run meets, every step of its first part meets. -/
theorem AllOk.of_append {ls ls' : List ℓ} (h : AllOk step ok s₀ (ls ++ ls')) : AllOk step ok s₀ ls := by
  induction ls generalizing s₀ with
  | nil => trivial
  | cons l ls ih =>
    refine ⟨h.1, ?_⟩
    have hrest := h.2
    cases hs : step s₀ l with
    | none => trivial
    | some s₁ =>
      rw [hs] at hrest
      exact ih hrest

/-- What every step of a run meets, the step after a prefix meets in the state the prefix ends in. -/
theorem AllOk.of_exec {ls ls' : List ℓ} {l : ℓ} (h : AllOk step ok s₀ (ls ++ l :: ls'))
    (hrun : exec step s₀ ls = some s) : ok s l := by
  induction ls generalizing s₀ with
  | nil =>
    cases hrun
    exact h.1
  | cons l₀ ls ih =>
    obtain ⟨s₁, hs₁, hrun⟩ := Option.bind_eq_some_iff.mp hrun
    have hrest := h.2
    rw [hs₁] at hrest
    exact ih hrest hrun

end Transition
