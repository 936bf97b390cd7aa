import RideTheApi.Lib.Dict
import RideTheApi.Py.Text

/-!
# `PatternDb.Rows` — the pattern tables of a device database

Rows as the ORM models declare them. A JSON column holds whatever value was stored in it, so it is a
`Json`. A table lists its rows in primary-key order, which is the order `SELECT` returns them in.
-/

namespace RideTheApi.PatternDb

open Py

/-- A row of `request_patterns`. -/
structure RequestPattern where
  patternId : Str
  method : Str
  pathPattern : Str
  protocol : Str
  requiredHeaders : Json
  bodySchema : Json
  queryParamKeys : Json
  intent : Str
deriving Repr, DecidableEq

/-- A row of `response_templates`. -/
structure ResponseTemplate where
  templateId : Str
  patternId : Str
  statusCode : Int
  headersTemplate : Json
  bodyTemplate : Json
  fieldMappings : Json
deriving Repr, DecidableEq

/-- A row of `field_mappings`. -/
structure FieldMappingRow where
  mappingId : Str
  requestField : Str
  responseField : Str
  transform : Option Str
  formula : Option Str
  enumValues : Json
  intent : Str
deriving Repr, DecidableEq

/-- The pattern tables of a device database. -/
structure DeviceDb where
  patterns : List RequestPattern := []
  templates : List ResponseTemplate := []
  mappings : List FieldMappingRow := []
deriving Repr, DecidableEq

/-! ## JSON columns -/

/-- A value read as `list[str]`. -/
def toStrList : Json → Result (List Str)
  | .arr xs => xs.mapM fun
    | .str s => .ok s
    | _      => .error .valueError
  | _       => .error .valueError

/-- A value read as `dict[str, Any]`. -/
def toDict : Json → Result (Dict Str Json)
  | .obj kvs => .ok kvs
  | _        => .error .valueError

/-- A value read as `dict[str, Any] | None`. -/
def toOptDict : Json → Result (Option (Dict Str Json))
  | .null => .ok none
  | v     => (toDict v).map some

/-- A value read as `dict[str, str]`. -/
def toStrDict : Json → Result (Dict Str Str)
  | .obj kvs => kvs.mapM fun kv => match kv.2 with
    | .str s => .ok (kv.1, s)
    | _      => .error .valueError
  | _        => .error .valueError

/-- A `list[str]` as a value. -/
def ofStrList (xs : List Str) : Json := .arr (xs.map .str)

/-- A `dict[str, str]` as a value. -/
def ofStrDict (d : Dict Str Str) : Json := .obj (d.map fun kv => (kv.1, .str kv.2))

/-- A `dict[str, Any] | None` as a value. -/
def ofOptDict : Option (Dict Str Json) → Json
  | none   => .null
  | some d => .obj d

@[simp] theorem toStrList_ofStrList (xs : List Str) : toStrList (ofStrList xs) = .ok xs := by
  show (xs.map JsonTree.str).mapM _ = _
  induction xs with
  | nil => rfl
  | cons x xs ih =>
    rw [List.map_cons, List.mapM_cons, ih]
    rfl

@[simp] theorem toStrDict_ofStrDict (d : Dict Str Str) : toStrDict (ofStrDict d) = .ok d := by
  show (d.map fun kv => (kv.1, (JsonTree.str kv.2 : Json))).mapM _ = _
  induction d with
  | nil => rfl
  | cons kv d ih =>
    rw [List.map_cons, List.mapM_cons, ih]
    rfl

@[simp] theorem toOptDict_ofOptDict (d : Option (Dict Str Json)) : toOptDict (ofOptDict d) = .ok d := by
  cases d <;> rfl

/-- An empty list reads as empty whether it is taken or defaulted. -/
@[simp] theorem ofStrList_orElse (xs : List Str) : (ofStrList xs).orElse (.arr []) = ofStrList xs := by
  cases xs <;> rfl

@[simp] theorem ofStrDict_orElse (d : Dict Str Str) : (ofStrDict d).orElse (.obj []) = ofStrDict d := by
  cases d <;> rfl

@[simp] theorem obj_orElse (d : Dict Str Json) : Json.orElse (.obj d) (.obj []) = .obj d := by
  cases d <;> rfl

/-- `Result.scalar_one_or_none()`. -/
def scalarOneOrNone {α : Type} : List α → Result (Option α)
  | []     => .ok none
  | [x]    => .ok (some x)
  | _ :: _ => .error .multipleResultsFound

end RideTheApi.PatternDb
