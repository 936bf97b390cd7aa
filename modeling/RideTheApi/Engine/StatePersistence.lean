import RideTheApi.Engine.StateStore
import RideTheApi.Lib.Transition

/-!
# `Engine.StatePersistence` — saving and restoring the simulated state of a device

`persist_state` takes its snapshot before it waits for the lock and clears the dirty flag when it has
committed; `load_state` copies the stored row over the store and clears the flag too. What is set in between
is taken for saved, or overwritten. In every run in which the flag is cleared only over what is saved, a
value that was set stays until the next set, and a clean store is what is stored (`kept_of_settled`).
-/

namespace RideTheApi.StatePersistence

open Engine Py Transition

/-- A call that waits for the lock. -/
inductive Waiting where
  /-- `persist_state`, with its snapshot. -/
  | persist (snapshot : Dict Str Json)
  | load
deriving Repr, DecidableEq

/-- The call that holds the lock. -/
inductive Holder where
  | free
  /-- `persist_state` has selected the row. -/
  | persisting (snapshot selected : Dict Str Json)
  /-- `persist_state` has committed; its session is still to be closed. -/
  | persisted (snapshot : Dict Str Json)
  /-- `load_state` has selected the row; its session is still to be closed. -/
  | loading (selected : Dict Str Json)
deriving Repr, DecidableEq

/-- The state store of a device, its row, and the calls on their way. A row that does not exist yet is empty. -/
structure State where
  store : DeviceStateStore := {}
  dirty : Bool := false
  row : Dict Str Json := []
  waiting : List Waiting := []
  holder : Holder := .free
  /-- The last value set under each name. -/
  written : Dict Str Json := []
deriving Repr, DecidableEq

/-- What happens at an await point. -/
inductive Label where
  | set (name : Str) (value : Json)
  | persistState
  | loadState
  /-- A waiting call gets the lock and selects the row. -/
  | acquire (i : Nat)
  | commit
  /-- The call that holds the lock raises. -/
  | fail
  /-- The call that holds the lock has closed its session, and returns. -/
  | finish
deriving Repr, DecidableEq

/-- Whether `set` changes the store. -/
def changes (store : DeviceStateStore) (name : Str) (value : Json) : Bool :=
  match store.vars.get? name with
  | some current => !pyEq current value
  | none         => true

/-- The row after an `UPDATE`, which leaves out a column whose new value is equal to the selected one. -/
def updateRow (selected snapshot row : Dict Str Json) : Dict Str Json :=
  if pyEq (.obj snapshot) (.obj selected) then row else snapshot

/-- One step. -/
def step (s : State) : Label → Option State
  | .set name value =>
    some { s with
      store := s.store.set name value
      dirty := s.dirty || changes s.store name value
      written := s.written.set name value }
  | .persistState   =>
    some (if s.dirty then { s with waiting := s.waiting ++ [.persist s.store.vars] } else s)
  | .loadState      => some { s with waiting := s.waiting ++ [.load] }
  | .acquire i      =>
    match s.holder, s.waiting[i]? with
    | .free, some (.persist snapshot) =>
      some { s with waiting := s.waiting.eraseIdx i, holder := .persisting snapshot s.row }
    | .free, some .load => some { s with waiting := s.waiting.eraseIdx i, holder := .loading s.row }
    | _, _ => none
  | .commit         =>
    match s.holder with
    | .persisting snapshot selected =>
      some { s with row := updateRow selected snapshot s.row, holder := .persisted snapshot }
    | _ => none
  | .fail           =>
    match s.holder with
    | .free => none
    | _     => some { s with holder := .free }
  | .finish         =>
    match s.holder with
    | .persisted _      => some { s with dirty := false, holder := .free }
    | .loading selected =>
      some { s with
        store := { s.store with vars := s.store.vars.update selected }
        dirty := false
        holder := .free }
    | _                 => none

/-- Two dictionaries of variables hold the same, types included. -/
def SameVars (a b : Dict Str Json) : Prop := ∀ n, a.get? n = b.get? n

/-- No update is lost: what was set is what is read, and a clean store that no call is about to save or restore
    is what is stored. -/
structure Kept (s : State) : Prop where
  written : ∀ n v, s.written.get? n = some v → ∀ default, s.store.get n default = v
  stored : s.dirty = false → s.waiting = [] → s.holder = .free → SameVars s.row s.store.vars

/-- A set does not replace a value by an equal one of another type, nor does a commit; `persist_state` ends
    when no variable has changed since its snapshot, unless it raises while the store is dirty; and `load_state`
    restores when nothing is unsaved. -/
def Settled (s : State) : Label → Prop
  | .set name value => ∀ current, s.store.vars.get? name = some current → pyEq current value = true →
      current = value
  | .commit         => ∀ snapshot selected, s.holder = .persisting snapshot selected →
      pyEq (.obj snapshot) (.obj selected) = true → SameVars snapshot selected
  | .fail           => ∀ snapshot, s.holder = .persisted snapshot → s.dirty = false →
      SameVars snapshot s.store.vars
  | .finish         =>
    match s.holder with
    | .persisted snapshot => SameVars snapshot s.store.vars
    | .loading selected   => s.dirty = false ∨ SameVars selected s.store.vars
    | _                   => True
  | _               => True

/-! ## The step relation's invariant -/

/-- What the call that holds the lock knows of the row, and what a clean store is worth meanwhile. -/
def HolderOk (s : State) : Prop :=
  match s.holder with
  | .free                  => s.dirty = false → SameVars s.row s.store.vars
  | .persisting _ selected => selected = s.row ∧ (s.dirty = false → SameVars s.row s.store.vars)
  | .persisted snapshot    => SameVars s.row snapshot
  | .loading selected      => selected = s.row ∧ (s.dirty = false → SameVars s.row s.store.vars)

/-- What holds in a settled run. -/
structure Inv (s : State) : Prop where
  written : ∀ n v, s.written.get? n = some v → s.store.vars.get? n = some v
  holder : HolderOk s

section
variable {s s' : State} {l : Label}

theorem SameVars.symm {a b : Dict Str Json} (h : SameVars a b) : SameVars b a := fun n => (h n).symm

theorem SameVars.trans {a b c : Dict Str Json} (h : SameVars a b) (h' : SameVars b c) : SameVars a c :=
  fun n => (h n).trans (h' n)

theorem SameVars.update {a b : Dict Str Json} (h : SameVars a b) : b.update a = b :=
  Dict.update_of_agree fun n _ hn => (h n).symm.trans hn

/-- A set that does not mistake a type leaves what it was given. -/
theorem get?_set_of_settled {name : Str} {value : Json} (hok : Settled s (.set name value)) (n : Str) :
    (s.store.set name value).vars.get? n = if name = n then some value else s.store.vars.get? n := by
  rw [DeviceStateStore.get?_vars_set]
  split
  · cases hcurrent : s.store.vars.get? name with
    | none => rfl
    | some current =>
      dsimp only
      split
      · next heq => rw [hok current hcurrent heq]
      · rfl
  · rfl

/-- A set that leaves the store clean has changed nothing. -/
theorem set_of_not_changes {name : Str} {value : Json} (h : changes s.store name value = false) :
    s.store.set name value = s.store := by
  unfold changes at h
  unfold DeviceStateStore.set
  cases hcurrent : s.store.vars.get? name with
  | none =>
    rw [hcurrent] at h
    cases h
  | some current =>
    rw [hcurrent] at h
    exact if_pos (by simpa using h)

theorem HolderOk.set {name : Str} {value : Json} (h : HolderOk s) :
    HolderOk { s with
      store := s.store.set name value
      dirty := s.dirty || changes s.store name value
      written := s.written.set name value } := by
  have hclean : (s.dirty = false → SameVars s.row s.store.vars) →
      (s.dirty || changes s.store name value) = false → SameVars s.row (s.store.set name value).vars := by
    intro hsame hdirty
    obtain ⟨hdirty, hchanges⟩ := Bool.or_eq_false_iff.mp hdirty
    rw [set_of_not_changes hchanges]
    exact hsame hdirty
  unfold HolderOk at h ⊢
  dsimp only
  split at h
  · exact hclean h
  · exact ⟨h.1, hclean h.2⟩
  · exact h
  · exact ⟨h.1, hclean h.2⟩

theorem Inv.set {name : Str} {value : Json} (h : Inv s) (hok : Settled s (.set name value)) :
    Inv { s with
      store := s.store.set name value
      dirty := s.dirty || changes s.store name value
      written := s.written.set name value } := by
  refine ⟨?_, h.holder.set⟩
  intro n v hn
  have hwritten : (s.written.set name value).get? n = some v := hn
  show (s.store.set name value).vars.get? n = some v
  rw [get?_set_of_settled hok]
  rw [Dict.get?_set] at hwritten
  split at hwritten
  · next hname => rw [if_pos hname, hwritten]
  · next hname =>
    rw [if_neg hname]
    exact h.written n v hwritten

/-- Every settled step keeps the invariant. -/
theorem Inv.step (h : Inv s) (hok : Settled s l) (hs : step s l = some s') : Inv s' := by
  have hholder := h.holder
  cases l with
  | set name value =>
    cases hs
    exact h.set hok
  | persistState =>
    cases hs
    split
    · exact ⟨h.written, h.holder⟩
    · exact h
  | loadState =>
    cases hs
    exact ⟨h.written, h.holder⟩
  | acquire i =>
    simp only [StatePersistence.step] at hs
    unfold HolderOk at hholder
    split at hs
    · next snapshot hfree _ =>
      cases hs
      rw [hfree] at hholder
      exact ⟨h.written, rfl, hholder⟩
    · next hfree _ =>
      cases hs
      rw [hfree] at hholder
      exact ⟨h.written, rfl, hholder⟩
    · cases hs
  | commit =>
    simp only [StatePersistence.step] at hs
    split at hs
    · next snapshot selected hpersisting =>
      cases hs
      unfold HolderOk at hholder
      rw [hpersisting] at hholder
      refine ⟨h.written, ?_⟩
      -- The row is written, or the `UPDATE` had nothing to change.
      show SameVars (updateRow selected snapshot s.row) snapshot
      unfold updateRow
      split
      · next heq =>
        rw [← hholder.1]
        exact (hok snapshot selected hpersisting heq).symm
      · exact fun _ => rfl
    · cases hs
  | fail =>
    simp only [StatePersistence.step] at hs
    unfold HolderOk at hholder
    split at hs
    · cases hs
    · cases hs
      -- Only the end clears the flag, so a call that raises leaves an unsaved store dirty.
      refine ⟨h.written, fun hclean => ?_⟩
      split at hholder
      · exact hholder hclean
      · exact hholder.2 hclean
      · next snapshot hpersisted => exact hholder.trans (hok snapshot hpersisted hclean)
      · exact hholder.2 hclean
  | finish =>
    simp only [StatePersistence.step] at hs
    simp only [Settled] at hok
    unfold HolderOk at hholder
    split at hs
    · next snapshot hpersisted =>
      cases hs
      rw [hpersisted] at hholder hok
      exact ⟨h.written, fun _ => hholder.trans hok⟩
    · next selected hloading =>
      cases hs
      rw [hloading] at hholder hok
      -- What is restored is what the store holds, unless something is unsaved.
      have hsame : SameVars s.row s.store.vars := by
        rcases hok with hclean | hsame
        · exact hholder.2 hclean
        · exact hholder.1 ▸ hsame
      have hupdate : s.store.vars.update selected = s.store.vars := by
        rw [hholder.1]
        exact hsame.update
      rw [hupdate]
      exact ⟨h.written, fun _ => hsame⟩
    · cases hs

/-- **In every settled run no update is lost**, however sets, saves and restores interleave. The run starts with
    a clean store that is what is stored. -/
theorem kept_of_settled {store : DeviceStateStore} {row : Dict Str Json} (hstart : SameVars row store.vars)
    (h : ReachesUnder step Settled { store := store, row := row } s) : Kept s := by
  have hinv : Inv s := by
    refine h.invariant ⟨?_, fun _ => hstart⟩ fun _ _ _ hinv hok hs => hinv.step hok hs
    intro n v hn
    cases hn
  refine ⟨fun n v hn default => ?_, fun hclean _ hfree => ?_⟩
  · have hvalue := hinv.written n v hn
    unfold DeviceStateStore.get Dict.has
    rw [hvalue]
    rfl
  · have hholder := hinv.holder
    unfold HolderOk at hholder
    rw [hfree] at hholder
    exact hholder hclean

end

/-! ## A flush and a learned value -/

/-- A variable is set and saved, and a flush restores it. -/
def savedPower : List Label :=
  [.set "power" (.bool true), .persistState, .acquire 0, .commit, .finish, .loadState, .acquire 0, .finish]

/-- The state it ends in. -/
def savedPowerEnd : State := (exec step {} savedPower).getD {}

theorem savedPower_kept : Kept savedPowerEnd := by
  have hstart : SameVars [] ({} : DeviceStateStore).vars := fun _ => rfl
  have hreach : ReachesUnder step Settled {} savedPowerEnd := by
    refine reachesUnder_of_exec .start savedPower (by decide +kernel) ?_
    refine ⟨fun current hcurrent _ => ?_, trivial, trivial, fun snapshot selected hholder heq => ?_, fun _ => rfl,
      trivial, trivial, .inl rfl, trivial⟩
    · cases hcurrent
    · cases hholder
      exact absurd heq (by decide +kernel)
  exact kept_of_settled hstart hreach

/-- The power is stored as off. It is set to on, and a flush restores the row before it is saved. -/
def restoredPower : List Label := [.set "power" (.bool true), .loadState, .acquire 0, .finish]

/-- A store that holds what is stored: the power is off. -/
def powerOff : State where
  store := { vars := [("power", .bool false)] }
  row := [("power", .bool false)]

/-- The state it ends in. -/
def restoredPowerEnd : State := (exec step powerOff restoredPower).getD {}

/-- The store reads off, and takes it for saved. -/
theorem restoredPower_lost : ¬ ∀ s, Reaches step powerOff s → Kept s := by
  intro h
  have hreach : Reaches step powerOff restoredPowerEnd := reaches_of_exec restoredPower (by decide +kernel)
  have hread := (h _ hreach).written "power" (.bool true) (by decide +kernel) .null
  exact absurd hread (by decide +kernel)

end RideTheApi.StatePersistence
