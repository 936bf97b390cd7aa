import Mathlib.Data.List.Forall2
import RideTheApi.Py.Format

/-!
# `Py.PosixPath` — `posixpath.normpath`

The components of a path go onto a stack: `.` and the empty one are left out, `..` takes the last one off. A path with
one slash in front normalises to its stack, so what it becomes can be told from its components alone
(`normpath_absolute`), and two such paths agree just when their stacks do.
-/

namespace Py

/-- The components kept so far, and the next one. -/
def normStep (initialSlashes : Nat) (comps : List Str) (comp : Str) : List Str :=
  if comp = [] ∨ comp = str "." then comps
  else if comp ≠ str ".." ∨ (initialSlashes = 0 ∧ comps = []) ∨ comps.getLast? = some (str "..") then comps ++ [comp]
  else comps.dropLast

/-- `posixpath.normpath`. -/
def normpath (path : Str) : Str :=
  if path = [] then str "."
  else
    -- One slash in front or two stay; three or more become one.
    let initialSlashes :=
      if Str.startsWith path "/" then if Str.startsWith path "//" && !Str.startsWith path "///" then 2 else 1 else 0
    let comps := (Str.split (cp '/') path).foldl (normStep initialSlashes) []
    let path := List.replicate initialSlashes (cp '/') ++ joinWith "/" comps
    if path = [] then str "." else path

/-- The step below a slash. -/
def pushComp (comps : List Str) (comp : Str) : List Str :=
  if comp = [] ∨ comp = str "." then comps else if comp = str ".." then comps.dropLast else comps ++ [comp]

theorem dropLast_subset {α : Type*} {l : List α} {a : α} (h : a ∈ l.dropLast) : a ∈ l :=
  (List.dropLast_sublist l).subset h

theorem dotdot_notMem_pushComp {comps : List Str} (h : str ".." ∉ comps) (comp : Str) :
    str ".." ∉ pushComp comps comp := by
  unfold pushComp
  split_ifs with h1 h2
  · exact h
  · exact fun hmem => h (dropLast_subset hmem)
  · intro hmem
    rcases List.mem_append.mp hmem with hmem | hmem
    · exact h hmem
    · exact h2 (List.mem_singleton.mp hmem).symm

theorem normStep_eq_pushComp {comps : List Str} (h : str ".." ∉ comps) (comp : Str) :
    normStep 1 comps comp = pushComp comps comp := by
  have hlast : comps.getLast? ≠ some (str "..") := fun hsome => h (List.mem_of_getLast? hsome)
  unfold normStep pushComp
  by_cases hskip : comp = [] ∨ comp = str "."
  · rw [if_pos hskip, if_pos hskip]
  · rw [if_neg hskip, if_neg hskip]
    by_cases hup : comp = str ".."
    · rw [if_pos hup, if_neg]
      rintro (hne | ⟨hzero, -⟩ | hsome)
      · exact hne hup
      · exact absurd hzero (by decide)
      · exact hlast hsome
    · rw [if_neg hup, if_pos (.inl hup)]

theorem foldl_normStep {comps : List Str} (h : str ".." ∉ comps) (segments : List Str) :
    segments.foldl (normStep 1) comps = segments.foldl pushComp comps := by
  induction segments generalizing comps with
  | nil => rfl
  | cons segment segments ih =>
    rw [List.foldl_cons, List.foldl_cons, normStep_eq_pushComp h]
    exact ih (dotdot_notMem_pushComp h segment)

theorem joinWith_eq_intercalate (ss : List Str) : joinWith "/" ss = [cp '/'].intercalate ss := by
  induction ss with
  | nil => rfl
  | cons s ss ih =>
    cases ss with
    | nil => simp [joinWith, List.intercalate]
    | cons s' ss =>
      rw [joinWith, ih]
      · simp [List.intercalate, str]
      · simp

theorem notMem_of_mem_splitOn {α : Type*} [BEq α] [LawfulBEq α] {a : α} {xs part : List α}
    (h : part ∈ xs.splitOn a) : a ∉ part := by
  induction xs generalizing part with
  | nil =>
    rw [List.splitOn_nil] at h
    rw [List.mem_singleton.mp h]
    exact List.not_mem_nil
  | cons x xs ih =>
    rw [List.splitOn_cons_eq_if_modifyHead] at h
    by_cases hx : (x == a) = true
    · rw [if_pos hx] at h
      rcases List.mem_cons.mp h with rfl | h
      · exact List.not_mem_nil
      · exact ih h
    · rw [if_neg hx] at h
      cases hparts : xs.splitOn a with
      | nil => simp [hparts] at h
      | cons head parts =>
        rw [hparts] at h ih
        rcases List.mem_cons.mp h with rfl | h
        · intro hmem
          rcases List.mem_cons.mp hmem with rfl | hmem
          · exact hx (BEq.refl _)
          · exact ih List.mem_cons_self hmem
        · exact ih (List.mem_cons_of_mem _ h)

/-- A path with one slash in front, from its components. -/
theorem normpath_absolute {path first : Str} {segments : List Str}
    (h : Str.split (cp '/') path = [] :: first :: segments) (hfirst : first ≠ []) :
    normpath path = cp '/' :: joinWith "/" ((first :: segments).foldl pushComp []) := by
  obtain ⟨c, first, rfl⟩ := List.exists_cons_of_ne_nil hfirst
  have hc : c ≠ cp '/' := by
    have hmem : c :: first ∈ Str.split (cp '/') path := by
      rw [h]
      exact List.mem_cons_of_mem _ List.mem_cons_self
    rintro rfl
    exact notMem_of_mem_splitOn hmem List.mem_cons_self
  obtain ⟨rest, rfl⟩ : ∃ rest, path = cp '/' :: c :: rest := by
    have hjoin : [cp '/'].intercalate (path.splitOn (cp '/')) = path := List.intercalate_splitOn _
    rw [show path.splitOn (cp '/') = [] :: (c :: first) :: segments from h] at hjoin
    cases segments with
    | nil => exact ⟨first, by rw [← hjoin]; simp [List.intercalate]⟩
    | cons next segments =>
      exact ⟨first ++ (cp '/' :: [cp '/'].intercalate (next :: segments)), by rw [← hjoin]; simp [List.intercalate]⟩
  have hslash : Str.startsWith (cp '/' :: c :: rest) "/" = true := by
    simp [Str.startsWith, str]
  have hdouble : Str.startsWith (cp '/' :: c :: rest) "//" = false := by
    show (cp '/' == cp '/' && ((cp '/' == c) && _)) = false
    rw [beq_false_of_ne (Ne.symm hc)]
    rfl
  unfold normpath
  rw [if_neg (List.cons_ne_nil _ _)]
  simp only [hslash, hdouble, Bool.false_and, Bool.false_eq_true, if_true, if_false, h]
  rw [List.foldl_cons, show normStep 1 [] [] = [] from rfl, foldl_normStep List.not_mem_nil]
  exact if_neg (List.cons_ne_nil _ _)

theorem mem_pushComp {comps : List Str} {comp c : Str} (h : c ∈ pushComp comps comp) : c ∈ comps ∨ c = comp := by
  unfold pushComp at h
  split_ifs at h with h1 h2
  · exact .inl h
  · exact .inl (dropLast_subset h)
  · exact (List.mem_append.mp h).imp_right List.mem_singleton.mp

theorem mem_foldl_pushComp {segments comps : List Str} {c : Str} (h : c ∈ segments.foldl pushComp comps) :
    c ∈ comps ∨ c ∈ segments := by
  induction segments generalizing comps with
  | nil => exact .inl h
  | cons segment segments ih =>
    rcases ih h with hmem | hmem
    · rcases mem_pushComp hmem with hmem | rfl
      · exact .inl hmem
      · exact .inr List.mem_cons_self
    · exact .inr (List.mem_cons_of_mem _ hmem)

/-- Components without a slash are told from the text they are joined to. -/
theorem split_joinWith {comps : List Str} (hne : comps ≠ []) (h : ∀ comp ∈ comps, cp '/' ∉ comp) :
    Str.split (cp '/') (joinWith "/" comps) = comps := by
  rw [joinWith_eq_intercalate]
  exact List.splitOn_intercalate _ h hne

end Py
