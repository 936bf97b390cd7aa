import Mathlib.Data.List.Forall2

/-!
# `Lib.Except` — peeling apart computations that may fail

From a sequence of `Except` steps that succeeds, the value of each step.
-/

namespace Except

universe u v

variable {ε : Type u} {α β : Type v}

/-- A bind succeeds when both of its steps do. -/
theorem bind_ok_iff {x : Except ε α} {f : α → Except ε β} {b : β} :
    (x >>= f) = .ok b ↔ ∃ a, x = .ok a ∧ f a = .ok b := by
  cases x with
  | error e => simp [bind, Except.bind]
  | ok a => simp [bind, Except.bind]

/-- A bind fails when one of its steps does. -/
theorem bind_error_iff {x : Except ε α} {f : α → Except ε β} {e : ε} :
    (x >>= f) = .error e ↔ x = .error e ∨ ∃ a, x = .ok a ∧ f a = .error e := by
  cases x with
  | error e => simp [bind, Except.bind]
  | ok a => simp [bind, Except.bind]

/-- A map succeeds when its argument does. -/
theorem map_ok_iff {x : Except ε α} {f : α → β} {b : β} :
    x.map f = .ok b ↔ ∃ a, x = .ok a ∧ f a = b := by
  cases x with
  | error e => simp [Except.map]
  | ok a => simp [Except.map]

@[simp] theorem ok_bind (a : α) (f : α → Except ε β) : ((.ok a : Except ε α) >>= f) = f a := rfl

@[simp] theorem error_bind (e : ε) (f : α → Except ε β) :
    ((.error e : Except ε α) >>= f) = .error e := rfl

/-- Two computations that fail alike, or return related values. -/
inductive Rel {α β : Type v} (R : α → β → Prop) : Except ε α → Except ε β → Prop where
  | error (e : ε) : Rel R (.error e) (.error e)
  | ok {a : α} {b : β} : R a b → Rel R (.ok a) (.ok b)

section
variable {α' β' : Type v} {R : α → α' → Prop} {S : β → β' → Prop} {x : Except ε α} {y : Except ε α'}

/-- Related computations followed by related ones are related. -/
theorem Rel.bind {f : α → Except ε β} {g : α' → Except ε β'} (h : Rel R x y)
    (hfg : ∀ a a', R a a' → Rel S (f a) (g a')) : Rel S (x >>= f) (y >>= g) := by
  cases h with
  | error e => exact .error e
  | ok hab => exact hfg _ _ hab

theorem Rel.map {f : α → β} {g : α' → β'} (h : Rel R x y) (hfg : ∀ a a', R a a' → S (f a) (g a')) :
    Rel S (x.map f) (y.map g) := by
  cases h with
  | error e => exact .error e
  | ok hab => exact .ok (hfg _ _ hab)

/-- Loops whose steps are related are. -/
theorem Rel.foldlM {γ : Type v} {R : α → α' → Prop} {f : α → γ → Except ε α} {g : α' → γ → Except ε α'}
    (hstep : ∀ a a' x, R a a' → Rel R (f a x) (g a' x)) (xs : List γ) {a : α} {a' : α'} (h : R a a') :
    Rel R (xs.foldlM f a) (xs.foldlM g a') := by
  induction xs generalizing a a' with
  | nil => exact .ok h
  | cons x xs ih =>
    rw [List.foldlM_cons, List.foldlM_cons]
    exact (hstep a a' x h).bind fun _ _ h => ih h

/-- Computations that fail alike or return the same are equal. -/
theorem Rel.eq {x y : Except ε α} (h : Rel Eq x y) : x = y := by
  cases h with
  | error e => rfl
  | ok hab => rw [hab]

theorem Rel.mono {S : α → α' → Prop} (h : Rel R x y) (hRS : ∀ a a', R a a' → S a a') : Rel S x y := by
  cases h with
  | error e => exact .error e
  | ok hab => exact .ok (hRS _ _ hab)

theorem Rel.refl {R : α → α → Prop} (hR : ∀ a, R a a) (x : Except ε α) : Rel R x x := by
  cases x with
  | error e => exact .error e
  | ok a => exact .ok (hR a)

end

/-- A list of computations that all succeed with related values. -/
theorem mapM_forall₂ {β : Type v} {R : α → β → Prop} {f : α → Except ε β} {as : List α}
    (h : ∀ a ∈ as, ∃ b, f a = .ok b ∧ R a b) : ∃ bs, as.mapM f = .ok bs ∧ List.Forall₂ R as bs := by
  induction as with
  | nil => exact ⟨[], rfl, .nil⟩
  | cons a as ih =>
    obtain ⟨b, hb, hab⟩ := h a List.mem_cons_self
    obtain ⟨bs, hbs, hrest⟩ := ih fun a' ha' => h a' (List.mem_cons_of_mem _ ha')
    refine ⟨b :: bs, ?_, .cons hab hrest⟩
    rw [List.mapM_cons, hb, hbs]
    rfl

/-- A list of computations that all succeed. -/
theorem exists_mapM {β : Type v} {f : α → Except ε β} {as : List α} (h : ∀ a ∈ as, ∃ b, f a = .ok b) :
    ∃ bs, as.mapM f = .ok bs ∧ List.Forall₂ (fun a b => f a = .ok b) as bs :=
  mapM_forall₂ fun a ha => (h a ha).imp fun _ hb => ⟨hb, hb⟩

/-- The values of a list of computations that succeed, each of its own. -/
theorem forall₂_of_mapM {β : Type v} {f : α → Except ε β} {as : List α} {bs : List β} (h : as.mapM f = .ok bs) :
    List.Forall₂ (fun a b => f a = .ok b) as bs := by
  induction as generalizing bs with
  | nil =>
    cases h
    exact .nil
  | cons a as ih =>
    rw [List.mapM_cons] at h
    obtain ⟨b, hb, h⟩ := bind_ok_iff.mp h
    obtain ⟨bs', hbs, h⟩ := bind_ok_iff.mp h
    cases h
    exact .cons hb (ih hbs)

/-- Computations on related lists. -/
theorem mapM_of_forall₂ {α' γ : Type v} {R : α → α' → Prop} {f : α → Except ε γ} {g : α' → γ} {as : List α}
    {bs : List α'} (h : List.Forall₂ R as bs) (hf : ∀ a b, R a b → f a = .ok (g b)) :
    as.mapM f = .ok (bs.map g) := by
  induction h with
  | nil => rfl
  | cons hab _ ih =>
    rw [List.mapM_cons, hf _ _ hab, ih]
    rfl

/-- A list of computations that all return what they were given. -/
theorem mapM_self {f : α → Except ε α} {as : List α} (h : ∀ a ∈ as, f a = .ok a) : as.mapM f = .ok as := by
  induction as with
  | nil => rfl
  | cons a as ih =>
    rw [List.mapM_cons, h a List.mem_cons_self, ih fun a' ha' => h a' (List.mem_cons_of_mem _ ha')]
    rfl

/-- A list of computations seen through a projection, each seen through it. -/
theorem map_mapM {β γ : Type v} {f : α → Except ε β} {g : α → Except ε γ} {p : β → γ} (as : List α)
    (h : ∀ a ∈ as, (f a).map p = g a) : (as.mapM f).map (List.map p) = as.mapM g := by
  induction as with
  | nil => rfl
  | cons a as ih =>
    rw [List.mapM_cons, List.mapM_cons, ← h a List.mem_cons_self, ← ih fun a' ha' => h a' (List.mem_cons_of_mem _ ha')]
    cases f a with
    | error e => rfl
    | ok b =>
      cases as.mapM f with
      | error e => rfl
      | ok bs => rfl

/-- A computation that tests as successful has a value. -/
theorem exists_ok {x : Except ε α} (h : x.toBool = true) : ∃ a, x = .ok a := by
  cases x with
  | error e => cases h
  | ok a => exact ⟨a, rfl⟩

end Except

/-! ## Lists related element by element -/

namespace List.Forall₂

universe u v w

variable {α : Type u} {β : Type v} {γ : Type w} {R : α → β → Prop} {as : List α} {bs : List β}

/-- Every element on the right has its partner on the left. -/
theorem exists_left (h : Forall₂ R as bs) {b : β} (hb : b ∈ bs) : ∃ a ∈ as, R a b := by
  induction h with
  | nil => cases hb
  | cons hab _ ih =>
    rcases mem_cons.mp hb with rfl | hb
    · exact ⟨_, mem_cons_self, hab⟩
    · obtain ⟨a, ha, hR⟩ := ih hb
      exact ⟨a, mem_cons_of_mem _ ha, hR⟩

/-- Every element on the left has its partner on the right. -/
theorem exists_right (h : Forall₂ R as bs) {a : α} (ha : a ∈ as) : ∃ b ∈ bs, R a b := by
  obtain ⟨b, hb, hR⟩ := exists_left h.flip ha
  exact ⟨b, hb, hR⟩

/-- A relation of partners that follows for the elements of the left list. -/
theorem imp_of_mem {S : α → β → Prop} (h : Forall₂ R as bs) (hS : ∀ a ∈ as, ∀ b, R a b → S a b) : Forall₂ S as bs := by
  induction h with
  | nil => exact .nil
  | cons hab _ ih =>
    exact .cons (hS _ mem_cons_self _ hab) (ih fun a ha => hS a (mem_cons_of_mem _ ha))

/-- Two partners of one element are partners. -/
theorem common_left {S : α → γ → Prop} {T : β → γ → Prop} {cs : List γ} (h : Forall₂ R as bs) (h' : Forall₂ S as cs)
    (hT : ∀ a b c, R a b → S a c → T b c) : Forall₂ T bs cs := by
  induction h generalizing cs with
  | nil =>
    cases h'
    exact .nil
  | cons hab _ ih =>
    cases h' with
    | cons hac hrest => exact .cons (hT _ _ _ hab hac) (ih hrest)

/-- The first element with a property, and the first of the partners with the property they share. -/
theorem find?_rel {p : α → Bool} {q : β → Bool} (h : Forall₂ R as bs) (hpq : ∀ a b, R a b → p a = q b) :
    Option.Rel R (as.find? p) (bs.find? q) := by
  induction h with
  | nil => exact .none
  | cons hab _ ih =>
    rw [find?_cons, find?_cons, hpq _ _ hab]
    split
    next => exact .some hab
    next => exact ih

/-- The last elements are partners. -/
theorem getLast?_rel (h : Forall₂ R as bs) : Option.Rel R as.getLast? bs.getLast? := by
  have hreverse := rel_reverse h
  rw [getLast?_eq_head?_reverse, getLast?_eq_head?_reverse]
  generalize as.reverse = xs at hreverse ⊢
  generalize bs.reverse = ys at hreverse ⊢
  cases hreverse with
  | nil => exact .none
  | cons hab _ => exact .some hab

/-- What partners have in common, read off both lists. -/
theorem map_eq_map {f : α → γ} {g : β → γ} (h : Forall₂ R as bs) (hfg : ∀ a b, R a b → f a = g b) :
    as.map f = bs.map g := by
  induction h with
  | nil => rfl
  | cons hab _ ih => rw [map_cons, map_cons, hfg _ _ hab, ih]

end List.Forall₂
