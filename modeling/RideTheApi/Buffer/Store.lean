import Mathlib.Algebra.GroupWithZero.Nat
import Mathlib.Data.List.Sort
import Mathlib.Data.Multiset.AddSub

/-!
# `Buffer.Store` — the rows of one buffer backend

A store holds the `llm_context_buffer` rows of its devices. A row is unflushed until a flush marks it;
no operation here removes one. `ids` are row ids, unique among the rows of one device in one store and
meaningless in the other store. What a device still has to learn from is `pending`: the multiset of its
unflushed pairs.
-/

namespace RideTheApi.Buffer

universe u v

/-- A row of `llm_context_buffer`. -/
structure Entry (δ : Type u) (π : Type v) where
  id : Nat
  device : δ
  pair : π
  size : Nat
  sequence : Nat
  flushed : Bool := false
deriving Repr, DecidableEq

/-- A buffered pair with its estimated size, as a reader of the buffer sees it. -/
def Entry.payload {δ : Type u} {π : Type v} (e : Entry δ π) : π × Nat := (e.pair, e.size)

/-- The rows of one backend, in insertion order. -/
structure Store (δ : Type u) (π : Type v) where
  rows : List (Entry δ π) := []
deriving Repr, DecidableEq

namespace Store

variable {δ : Type u} {π : Type v} [DecidableEq δ]

/-- An unflushed row of the device. -/
def unflushed (d : δ) (e : Entry δ π) : Bool := decide (e.device = d) && !e.flushed

/-- `add_pair`: append an unflushed row. -/
def addPair (s : Store δ π) (id sequence : Nat) (d : δ) (pair : π) (size : Nat) : Store δ π :=
  ⟨s.rows ++ [{ id, device := d, pair, size, sequence }]⟩

/-- `get_buffer_pairs`: the unflushed rows of the device, ordered by sequence. -/
def getBufferPairs (s : Store δ π) (d : δ) : List (Entry δ π) :=
  (s.rows.filter (unflushed d)).insertionSort fun a b => a.sequence ≤ b.sequence

/-- The rows a flush marks, marked. -/
def mark (p : Entry δ π → Bool) (s : Store δ π) : Store δ π :=
  ⟨s.rows.map fun e => if p e then { e with flushed := true } else e⟩

/-- `flush`: mark every unflushed row of the device. -/
def flush (s : Store δ π) (d : δ) : Store δ π := s.mark (unflushed d)

/-- `flush_selected`: mark the unflushed rows of the device whose id is listed. -/
def flushSelected (s : Store δ π) (d : δ) (entryIds : List Nat) : Store δ π :=
  s.mark fun e => unflushed d e && entryIds.contains e.id

/-- The unflushed pairs of a device, with their sizes. -/
def pending (s : Store δ π) (d : δ) : Multiset (π × Nat) := ((s.getBufferPairs d).map Entry.payload)

variable {s : Store δ π} {d d' : δ}

/-- The order of `get_buffer_pairs` does not matter to what is pending. -/
theorem pending_eq (s : Store δ π) (d : δ) :
    s.pending d = ((s.rows.filter (unflushed d)).map Entry.payload : Multiset (π × Nat)) :=
  Multiset.coe_eq_coe.mpr ((List.perm_insertionSort _ _).map _)

theorem mem_getBufferPairs {e : Entry δ π} :
    e ∈ s.getBufferPairs d ↔ e ∈ s.rows ∧ e.device = d ∧ e.flushed = false := by
  simp [getBufferPairs, unflushed]

/-- Adding a pair makes it pending for its device and for no other. -/
theorem pending_addPair (id seq : Nat) (pair : π) (size : Nat) :
    (s.addPair id seq d pair size).pending d' =
      s.pending d' + if d = d' then {(pair, size)} else 0 := by
  simp only [pending_eq, addPair, List.filter_append, List.map_append, ← Multiset.coe_add]
  congr 1
  by_cases h : d = d' <;> simp [unflushed, h, Entry.payload]

/-- Marking rows of one device leaves the pending pairs of another alone. -/
theorem pending_mark_of_ne {p : Entry δ π → Bool} (hp : ∀ e, p e = true → e.device = d) (h : d ≠ d') :
    (s.mark p).pending d' = s.pending d' := by
  simp only [pending_eq, mark]
  congr 2
  induction s.rows with
  | nil => rfl
  | cons e es ih =>
    rw [List.map_cons, List.filter_cons, List.filter_cons, ih]
    split
    case isTrue he =>
      -- a marked row belongs to `d`, so neither side lists it
      have hd : e.device ≠ d' := fun hd => h (hp e he ▸ hd)
      simp [unflushed, hd]
    case isFalse => rfl

/-- A flush leaves nothing pending for its device. -/
theorem pending_flush_self : (s.flush d).pending d = 0 := by
  simp only [pending_eq, flush, mark]
  have hnil : ((s.rows.map fun e => if unflushed d e then { e with flushed := true } else e).filter
      (unflushed d)) = [] := by
    refine List.filter_eq_nil_iff.mpr fun e he => ?_
    obtain ⟨e', _, rfl⟩ := List.mem_map.mp he
    split
    case isTrue => simp [unflushed]
    case isFalse h => simpa using h
  rw [hnil]
  rfl

/-- A flush leaves the other devices alone. -/
theorem pending_flush_of_ne (h : d ≠ d') : (s.flush d).pending d' = s.pending d' :=
  pending_mark_of_ne (fun e he => by simp [unflushed] at he; exact he.1) h

end Store
end RideTheApi.Buffer
