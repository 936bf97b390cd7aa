import RideTheApi.Lib.Dict
import RideTheApi.Py.Equal

/-!
# `Engine.StateStore` — the simulated state of a device

State variables, and virtual sensors by what they read during the response at hand (a sensor keeps its
reading for its update interval).
-/

namespace RideTheApi.Engine

open Py

/-- The state store of a device. -/
structure DeviceStateStore where
  vars : Dict Str Json := []
  sensors : Dict Str Json := []
deriving Repr, DecidableEq

namespace DeviceStateStore

/-- Get a state variable or sensor value by name. -/
def get (store : DeviceStateStore) (name : Str) (default : Json) : Json :=
  if store.vars.has name then (store.vars.get? name).getD default
  else (store.sensors.get? name).getD default

/-- Set a state variable; an equal value is left in place. -/
def set (store : DeviceStateStore) (name : Str) (value : Json) : DeviceStateStore :=
  match store.vars.get? name with
  | some current =>
    if pyEq current value then store else { store with vars := store.vars.set name value }
  | none => { store with vars := store.vars.set name value }

/-- Two stores hold the same under every name of the list. -/
def AgreeOn (names : List Str) (store store' : DeviceStateStore) : Prop :=
  ∀ n ∈ names, store.vars.get? n = store'.vars.get? n ∧ store.sensors.get? n = store'.sensors.get? n

section
variable {names : List Str} {store store' : DeviceStateStore} {n : Str}

theorem AgreeOn.get (h : AgreeOn names store store') (hn : n ∈ names) (default : Json) :
    store.get n default = store'.get n default := by
  obtain ⟨hv, hs⟩ := h n hn
  unfold DeviceStateStore.get Dict.has
  rw [hv, hs]

theorem set_sensors (store : DeviceStateStore) (n : Str) (v : Json) :
    (store.set n v).sensors = store.sensors := by
  unfold DeviceStateStore.set
  split
  · split <;> rfl
  · rfl

/-- What a variable holds after a write, in terms of what it held before. -/
theorem get?_vars_set (store : DeviceStateStore) (n m : Str) (v : Json) :
    (store.set n v).vars.get? m =
      if n = m then some (match store.vars.get? n with
        | some current => if pyEq current v then current else v
        | none         => v)
      else store.vars.get? m := by
  unfold DeviceStateStore.set
  cases hcur : store.vars.get? n with
  | none => exact Dict.get?_set _ _ _ _
  | some current =>
    dsimp only
    split
    case isTrue =>
      split
      next hnm => rw [← hnm, hcur]
      next => rfl
    case isFalse => exact Dict.get?_set _ _ _ _

/-- A write to a name the stores agree on keeps them in agreement. -/
theorem AgreeOn.set (h : AgreeOn names store store') (hn : n ∈ names) (v : Json) :
    AgreeOn names (store.set n v) (store'.set n v) := by
  intro m hm
  rw [set_sensors, set_sensors, get?_vars_set, get?_vars_set, (h n hn).1]
  exact ⟨by rw [(h m hm).1], (h m hm).2⟩

end

end DeviceStateStore
end RideTheApi.Engine
