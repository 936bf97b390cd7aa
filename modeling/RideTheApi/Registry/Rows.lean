import RideTheApi.Lib.Dict
import RideTheApi.Py.Equal
import RideTheApi.Py.Text

/-!
# `Registry.Rows` — the device registry, and what is read off it

A row carries the columns that the registry's own functions interpret; the others are kept by name.
-/

namespace RideTheApi.Registry

open Py

/-- A `device_registry` row. -/
structure Device where
  ipAddresses : List Str := []
  extraAttributes : Dict Str Json := []
  databaseUrl : Option Str := none
  databaseName : Option Str := none
  lastSeen : Option Int := none
  /-- The other columns, by name. -/
  columns : Dict Str Json := []
deriving Repr, DecidableEq

/-- The rows by device id, in the order of their insertion. -/
abbrev Rows := Dict Str Device

/-- The reverse index of `resolve_device_id`: the first holder of an address has it. -/
def ipIndex (rows : Rows) : Dict Str Str :=
  rows.foldl (fun index row => row.2.ipAddresses.foldl (fun index ip => index.setDefault ip row.1) index) []

/-- The connection of a row, `auto` unless its attributes say otherwise. -/
def Device.connection (device : Device) : Json := (device.extraAttributes.get? "connection").getD (.str "auto")

/-- The addresses of the rows that `bind_ip` changes: the device gains the address, and everyone else loses it.
    Nothing changes when the device does not exist. -/
def bindChanges (rows : Rows) (deviceId ip : Str) : List (Str × List Str) :=
  if rows.has deviceId then
    rows.filterMap fun row =>
      if row.1 = deviceId then
        if ip ∈ row.2.ipAddresses then none else some (row.1, row.2.ipAddresses ++ [ip])
      else if ip ∈ row.2.ipAddresses then some (row.1, row.2.ipAddresses.filter (· ≠ ip))
      else none
  else []

/-- New addresses for some rows. -/
def assignIps (rows : Rows) (changes : List (Str × List Str)) : Rows :=
  changes.foldl (fun rows change => rows.modify change.1 fun device => { device with ipAddresses := change.2 }) rows

section
variable {rows : Rows} {deviceId other : Str} {f : Device → Device}

/-- Rows that keep their addresses keep the index. -/
theorem ipIndex_modify (hips : ∀ device, (f device).ipAddresses = device.ipAddresses) :
    ipIndex (rows.modify deviceId f) = ipIndex rows := by
  unfold ipIndex Dict.modify
  rw [List.foldl_map]
  congr 1
  funext index row
  split
  · rw [hips]
  · rfl

theorem get?_assignIps_of_notMem {changes : List (Str × List Str)} (h : other ∉ changes.map Prod.fst) :
    (assignIps rows changes).get? other = rows.get? other := by
  unfold assignIps
  induction changes generalizing rows with
  | nil => rfl
  | cons change changes ih =>
    rw [List.map_cons, List.mem_cons, not_or] at h
    rw [List.foldl_cons, ih h.2, Dict.get?_modify, if_neg fun hid => h.1 hid.symm]

end

end RideTheApi.Registry
