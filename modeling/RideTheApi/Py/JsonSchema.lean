import RideTheApi.Py.Equal
import RideTheApi.Py.Text

/-!
# `Py.JsonSchema` — JSON Schema validation

A schema is the conjunction of its keywords. A keyword for one type says nothing of values of another type, so
what a valid value looks like is read off the `type` keyword and the others together: `object` and `arrayOf`
are the two combinations that a description of a document is made of (`valid_object_iff`, `valid_arrayOf_iff`).
-/

namespace Py

/-- The values of the `type` keyword. -/
inductive JsonType where
  | object
  | array
  | string
  | integer
  | number
  | boolean
  | null
deriving Repr, DecidableEq

/-- A number without a fraction. -/
def Json.isInteger : Json → Bool
  | .int _   => true
  | .float x => (floatValue x).any Rat.isInt
  | _        => false

/-- A value is of a type: a float without a fraction is an integer too, a boolean is no number. -/
def Json.isType (v : Json) : JsonType → Bool
  | .object  => (v matches .obj _)
  | .array   => (v matches .arr _)
  | .string  => (v matches .str _)
  | .integer => v.isInteger
  | .number  => (v matches .int _ | .float _)
  | .boolean => (v matches .bool _)
  | .null    => (v matches .null)

/-- Equality of the `const` and `enum` keywords: a boolean is no number. -/
def Json.sameConst : Json → Json → Bool
  | .bool a, .bool b => a == b
  | .bool _, _       => false
  | _,       .bool _ => false
  | v,       w       => pyEq v w

/-- `minimum`: only a number is too small. -/
def Json.atLeast (bound : Int) : Json → Bool
  | .int n   => bound ≤ n
  | .float x =>
    match floatValue x with
    | some q => (bound : ℚ) ≤ q
    | none   => isNaN x || !x.msb
  | _        => true

/-- `maximum`: only a number is too large. -/
def Json.atMost (bound : Int) : Json → Bool
  | .int n   => n ≤ bound
  | .float x =>
    match floatValue x with
    | some q => q ≤ (bound : ℚ)
    | none   => isNaN x || x.msb
  | _        => true

/-- A schema: one keyword, or the keywords of two. -/
inductive JsonSchema where
  | any
  | both (s t : JsonSchema)
  | types (ts : List JsonType)
  | const (v : Json)
  | enum (vs : List Json)
  | minLength (n : Nat)
  | minItems (n : Nat)
  | maxItems (n : Nat)
  | minimum (bound : Int)
  | maximum (bound : Int)
  | items (s : JsonSchema)
  | required (keys : List Str)
  | property (key : Str) (s : JsonSchema)
  /-- `additionalProperties`, where no property is described. -/
  | additional (s : JsonSchema)

namespace JsonSchema

/-- A value passes a schema. -/
def valid : JsonSchema → Json → Bool
  | .any,            _        => true
  | .both s t,       v        => s.valid v && t.valid v
  | .types ts,       v        => ts.any fun t => v.isType t
  | .const v,        w        => w.sameConst v
  | .enum vs,        w        => vs.any fun v => w.sameConst v
  | .minLength n,    .str s   => n ≤ s.length
  | .minItems n,     .arr xs  => n ≤ xs.length
  | .maxItems n,     .arr xs  => xs.length ≤ n
  | .minimum bound,  v        => v.atLeast bound
  | .maximum bound,  v        => v.atMost bound
  | .items s,        .arr xs  => xs.all s.valid
  | .required keys,  .obj kvs => keys.all fun key => (kvs.lookup key).isSome
  | .property key s, .obj kvs => (kvs.lookup key).all s.valid
  | .additional s,   .obj kvs => kvs.all fun kv => s.valid kv.2
  | _,               _        => true

/-- Several keywords. -/
def all : List JsonSchema → JsonSchema
  | []      => .any
  | s :: ss => .both s (all ss)

/-- `properties`. -/
def properties (ps : List (Str × JsonSchema)) : JsonSchema := all (ps.map fun p => .property p.1 p.2)

/-- An object with required keys and described properties. -/
def object (keys : List Str) (ps : List (Str × JsonSchema)) : JsonSchema :=
  all [.types [.object], .required keys, properties ps]

/-- An array of described items. -/
def arrayOf (s : JsonSchema) : JsonSchema := all [.types [.array], .items s]

/-- A text. -/
def text : JsonSchema := .types [.string]

/-- A text that is not empty. -/
def name : JsonSchema := all [text, .minLength 1]

/-- A text of a list. -/
def textIn (texts : List String) : JsonSchema := all [text, .enum (texts.map fun s => .str (str s))]

/-! ## What a valid value looks like -/

section
variable {v : Json} {s : JsonSchema} {keys : List Str} {ps : List (Str × JsonSchema)}

@[simp] theorem valid_types (ts : List JsonType) : (types ts).valid v = ts.any fun t => v.isType t := rfl

@[simp] theorem valid_minLength_str (n : Nat) (t : Str) : (minLength n).valid (.str t) = decide (n ≤ t.length) := rfl

@[simp] theorem valid_items_arr (xs : List Json) : (items s).valid (.arr xs) = xs.all s.valid := rfl

@[simp] theorem valid_required_obj (kvs : List (Str × Json)) :
    (required keys).valid (.obj kvs) = keys.all fun key => (kvs.lookup key).isSome := rfl

@[simp] theorem valid_property_obj (key : Str) (kvs : List (Str × Json)) :
    (property key s).valid (.obj kvs) = (kvs.lookup key).all s.valid := rfl

@[simp] theorem valid_all (ss : List JsonSchema) : (all ss).valid v = ss.all fun s => s.valid v := by
  induction ss with
  | nil => rfl
  | cons s ss ih =>
    rw [List.all_cons, ← ih]
    rfl

theorem valid_text_iff : text.valid v = true ↔ ∃ t, v = .str t := by
  unfold text
  cases v <;> simp [Json.isType]

theorem valid_name_iff : name.valid v = true ↔ ∃ t, v = .str t ∧ t ≠ [] := by
  unfold name text
  cases v <;> simp [Json.isType, Nat.one_le_iff_ne_zero]

/-- Only a text is equal to a text. -/
theorem valid_const_str {t : Str} (h : (const (.str t)).valid v = true) : v = .str t := by
  have hsame : v.sameConst (.str t) = true := h
  cases v with
  | str t' =>
    unfold Json.sameConst pyEq at hsame
    rw [beq_iff_eq.mp hsame]
  | _ => simp [Json.sameConst, pyEq, sameInfinity, numValue] at hsame

/-- **A described array is an array of described items.** -/
theorem valid_arrayOf_iff : (arrayOf s).valid v = true ↔ ∃ xs, v = .arr xs ∧ ∀ x ∈ xs, s.valid x = true := by
  unfold arrayOf
  cases v <;> simp [Json.isType]

/-- **A described object has its required keys, and what it has is as described.** -/
theorem valid_object_iff : (object keys ps).valid v = true ↔ ∃ kvs, v = .obj kvs ∧
    (∀ key ∈ keys, ∃ w, kvs.lookup key = some w) ∧
    ∀ p ∈ ps, ∀ w, kvs.lookup p.1 = some w → p.2.valid w = true := by
  unfold object properties
  cases v with
  | obj kvs =>
    have hrequired : (∀ key ∈ keys, (kvs.lookup key).isSome = true) ↔ ∀ key ∈ keys, ∃ w, kvs.lookup key = some w := by
      apply forall₂_congr
      intro key _
      exact Option.isSome_iff_exists
    have hproperties : (∀ p ∈ ps, (kvs.lookup p.1).all p.2.valid = true) ↔
        ∀ p ∈ ps, ∀ w, kvs.lookup p.1 = some w → p.2.valid w = true := by
      apply forall₂_congr
      intro p _
      cases kvs.lookup p.1 <;> simp
    have htype : (types [.object]).valid (.obj kvs) = true := rfl
    rw [valid_all, List.all_cons, htype, List.all_cons, valid_required_obj, List.all_cons, valid_all, List.all_map,
      Bool.true_and, List.all_nil, Bool.and_true, Bool.and_eq_true, List.all_eq_true, List.all_eq_true, hrequired]
    constructor
    · rintro ⟨hkeys, hps⟩
      exact ⟨kvs, rfl, hkeys, hproperties.mp hps⟩
    · rintro ⟨kvs', heq, hkeys, hps⟩
      cases heq
      exact ⟨hkeys, hproperties.mpr hps⟩
  | _ => simp [Json.isType]

/-! ## Reading a valid value -/

theorem getD_obj (kvs : List (Str × Json)) (key : Str) (default : Json) :
    Json.getD (.obj kvs) key default = .ok ((kvs.lookup key).getD default) := rfl

/-- What is read of a described object under a described key, with a default that is as described. -/
theorem getD_valid {key : Str} {default : Json} (h : (object keys ps).valid v = true) (hkey : (key, s) ∈ ps)
    (hdefault : s.valid default = true) : ∃ w, v.getD key default = .ok w ∧ s.valid w = true := by
  obtain ⟨kvs, rfl, _, hproperties⟩ := valid_object_iff.mp h
  cases hget : kvs.lookup key with
  | none => exact ⟨default, by rw [getD_obj, hget]; rfl, hdefault⟩
  | some w => exact ⟨w, by rw [getD_obj, hget]; rfl, hproperties _ hkey w hget⟩

/-- The items that are read of a described object under a key of a described array. -/
theorem items_valid {key : Str} (h : (object keys ps).valid v = true) (hkey : (key, arrayOf s) ∈ ps) :
    ∃ xs, v.items key = .ok xs ∧ ∀ x ∈ xs, s.valid x = true := by
  have hnone : (arrayOf s).valid (.arr []) = true := valid_arrayOf_iff.mpr ⟨[], rfl, by simp⟩
  obtain ⟨w, hw, hvalid⟩ := getD_valid h hkey hnone
  obtain ⟨xs, rfl, hxs⟩ := valid_arrayOf_iff.mp hvalid
  refine ⟨xs, ?_, hxs⟩
  unfold Json.items
  rw [hw]
  rfl

/-- A required name is read whatever the default. -/
theorem name_valid {key : Str} (h : (object keys ps).valid v = true) (hrequired : key ∈ keys)
    (hkey : (key, name) ∈ ps) : ∃ t : Str, t ≠ [] ∧ ∀ default, v.getD key default = .ok (.str t) := by
  obtain ⟨kvs, rfl, hkeys, hproperties⟩ := valid_object_iff.mp h
  obtain ⟨w, hget⟩ := hkeys key hrequired
  obtain ⟨t, rfl, ht⟩ := valid_name_iff.mp (hproperties _ hkey w hget)
  refine ⟨t, ht, fun default => ?_⟩
  rw [getD_obj, hget]
  rfl

end

end JsonSchema
end Py
