import Mathlib.Algebra.BigOperators.Group.Multiset.Basic
import Mathlib.Data.List.MinMax
import Mathlib.Logic.Function.Basic
import RideTheApi.Buffer.Store
import RideTheApi.Lib.Transition

/-!
# `Buffer.Ledger` — the size counter of a buffer, and its sequence numbers

A buffer database holds the rows and, for each device, the counter `current_buffer_size_bytes` that
triggers learning. Any number of store objects write to it; each hands out sequence numbers from a cache of
its own. The counter is kept by hand in five operations: it is exact after every operation of a run iff no
delete hits a flushed row whose size it takes off a second time (`sizesExact_iff`).
-/

namespace RideTheApi.Buffer

open Transition

universe u v

/-- A buffer database with the store objects on it, numbered. -/
structure Buffers (δ : Type u) (π : Type v) where
  store : Store δ π := {}
  /-- `current_buffer_size_bytes`; 0 for a device without a row. -/
  sizes : δ → Nat := fun _ => 0
  /-- `_sequence_cache` of each store object. -/
  cached : Nat → δ → Option Nat := fun _ _ => none

/-- What is done to a buffer, with the store object that does it where that matters. -/
inductive BufferOp (δ : Type u) (π : Type v) where
  | addPair (object : Nat) (d : δ) (pair : π) (size : Nat)
  /-- An `add_pair` that raises: the transaction is rolled back. -/
  | addPairRaises (object : Nat) (d : δ)
  | flush (d : δ)
  | flushSelected (d : δ) (entryIds : List Nat)
  | deleteEntry (d : δ) (entryId : Nat)
  /-- `expired` is the age limit: whether `flushed_at` lies before the cutoff. -/
  | prune (d : δ) (expired : Entry δ π → Bool) (maxPairs : Nat)
  /-- A new store object takes the place of an old one. -/
  | rebuild (object : Nat)

namespace Store

variable {δ : Type u} {π : Type v} [DecidableEq δ]

/-- The id the table gives the next row. -/
def nextId (s : Store δ π) : Nat := (s.rows.map fun e => e.id + 1).foldr max 1

/-- `SELECT MAX(sequence)` of the device. -/
def maxSequence (s : Store δ π) (d : δ) : Option Nat :=
  ((s.rows.filter fun e => e.device = d).map Entry.sequence).max?

/-- A flushed row of the device. -/
def flushedOf (d : δ) (e : Entry δ π) : Bool := decide (e.device = d) && e.flushed

/-- The size of what a device still has to learn from. -/
def unflushedSize (s : Store δ π) (d : δ) : Nat := ((s.rows.filter (unflushed d)).map Entry.size).sum

/-- The size of the rows `flush_selected` is going to mark. -/
def selectedSize (s : Store δ π) (d : δ) (entryIds : List Nat) : Nat :=
  ((s.rows.filter fun e => unflushed d e && entryIds.contains e.id).map Entry.size).sum

/-- The row of the device with this id. -/
def entry? (s : Store δ π) (d : δ) (entryId : Nat) : Option (Entry δ π) :=
  s.rows.find? fun e => e.id == entryId && e.device = d

/-- `session.delete(entry)`. -/
def delete (s : Store δ π) (d : δ) (entryId : Nat) : Store δ π :=
  ⟨s.rows.filter fun e => !(e.id == entryId && decide (e.device = d))⟩

/-- The sequence of the newest flushed row beyond the cap. -/
def oldestKept (rows : List (Entry δ π)) (d : δ) (maxPairs : Nat) : Option Nat :=
  (((rows.filter (flushedOf d)).map Entry.sequence).insertionSort (· ≥ ·))[maxPairs]?

/-- `prune`: drop the flushed rows that are too old, then those beyond the cap. -/
def prune (s : Store δ π) (d : δ) (expired : Entry δ π → Bool) (maxPairs : Nat) : Store δ π :=
  let rows := s.rows.filter fun e => !(flushedOf d e && expired e)
  match oldestKept rows d maxPairs with
  | none        => ⟨rows⟩
  | some oldest => ⟨rows.filter fun e => !(flushedOf d e && decide (e.sequence ≤ oldest))⟩

end Store

namespace Buffers

variable {δ : Type u} {π : Type v} [DecidableEq δ]

/-- `_next_sequence`: from the cache of the object, else from the table. -/
def nextSequence (s : Buffers δ π) (object : Nat) (d : δ) : Nat :=
  match s.cached object d with
  | some n => n + 1
  | none   => match s.store.maxSequence d with
    | none   => 0
    | some n => n + 1

/-- Set the cached number of an object. -/
def setCached (s : Buffers δ π) (object : Nat) (d : δ) (n : Option Nat) : Nat → δ → Option Nat :=
  Function.update s.cached object (Function.update (s.cached object) d n)

/-- `add_pair`. -/
def addPair (s : Buffers δ π) (object : Nat) (d : δ) (pair : π) (size : Nat) : Buffers δ π where
  store := s.store.addPair s.store.nextId (s.nextSequence object d) d pair size
  sizes := Function.update s.sizes d (s.sizes d + size)
  cached := s.setCached object d (some (s.nextSequence object d))

/-- `delete_entry`: the size of the row goes off the counter, whether or not it was flushed. -/
def deleteEntry (s : Buffers δ π) (d : δ) (entryId : Nat) : Buffers δ π :=
  match s.store.entry? d entryId with
  | none   => s
  | some e =>
    { s with store := s.store.delete d entryId
             sizes := Function.update s.sizes d (s.sizes d - e.size) }

/-- `flush_selected`; without ids it does nothing. -/
def flushSelected (s : Buffers δ π) (d : δ) (entryIds : List Nat) : Buffers δ π :=
  if entryIds = [] then s
  else
    { s with store := s.store.flushSelected d entryIds
             sizes := Function.update s.sizes d (s.sizes d - s.store.selectedSize d entryIds) }

/-- One operation. -/
def apply (s : Buffers δ π) : BufferOp δ π → Buffers δ π
  | .addPair object d pair size => s.addPair object d pair size
  | .addPairRaises object d     => { s with cached := s.setCached object d none }
  | .flush d                    => { s with store := s.store.flush d, sizes := Function.update s.sizes d 0 }
  | .flushSelected d entryIds   => s.flushSelected d entryIds
  | .deleteEntry d entryId      => s.deleteEntry d entryId
  | .prune d expired maxPairs   => { s with store := s.store.prune d expired maxPairs }
  | .rebuild object             => { s with cached := Function.update s.cached object fun _ => none }

/-- An operation as a step; every one is always possible. -/
def step (s : Buffers δ π) (op : BufferOp δ π) : Option (Buffers δ π) := some (s.apply op)

/-- The counter of every device is the size of its unflushed rows. -/
def SizesExact (s : Buffers δ π) : Prop := ∀ d, s.sizes d = s.store.unflushedSize d

/-- A delete takes nothing off for a row that is flushed: it has no size, or the counter is 0 already. -/
def DeletesUnflushed (s : Buffers δ π) : BufferOp δ π → Prop
  | .deleteEntry d entryId =>
    ∀ e, s.store.entry? d entryId = some e → e.flushed = true → e.size = 0 ∨ s.sizes d = 0
  | _                      => True

end Buffers

/-! ## Sizes of rows -/

namespace Store

variable {δ : Type u} {π : Type v} [DecidableEq δ] {s : Store δ π} {d d' : δ}

theorem unflushedSize_eq (s : Store δ π) (d : δ) : s.unflushedSize d = (Multiset.map Prod.snd (s.pending d)).sum := by
  rw [pending_eq, Multiset.map_coe, Multiset.sum_coe, List.map_map]
  rfl

theorem unflushedSize_addPair (id seq : Nat) (pair : π) (size : Nat) :
    (s.addPair id seq d pair size).unflushedSize d' = s.unflushedSize d' + if d = d' then size else 0 := by
  rw [unflushedSize_eq, unflushedSize_eq, pending_addPair, Multiset.map_add, Multiset.sum_add]
  split
  · rw [Multiset.map_singleton, Multiset.sum_singleton]
  · rw [Multiset.map_zero, Multiset.sum_zero]

omit [DecidableEq δ] in
/-- The rows with a property, split by another one. -/
theorem sum_filter_split (p q : Entry δ π → Bool) (rows : List (Entry δ π)) :
    ((rows.filter fun e => p e && q e).map Entry.size).sum + ((rows.filter fun e => p e && !q e).map Entry.size).sum =
      ((rows.filter p).map Entry.size).sum := by
  induction rows with
  | nil => rfl
  | cons e rows ih =>
    rw [List.filter_cons, List.filter_cons, List.filter_cons]
    -- The row is in one of the two sums, or in none.
    cases hp : p e <;> cases hq : q e <;> simp <;> omega

/-- Marking rows leaves those that were not marked. -/
theorem filter_mark (p : Entry δ π → Bool) (d : δ) (rows : List (Entry δ π)) :
    (rows.map fun e => if p e then { e with flushed := true } else e).filter (unflushed d) =
      rows.filter fun e => unflushed d e && !p e := by
  induction rows with
  | nil => rfl
  | cons e rows ih =>
    rw [List.map_cons, List.filter_cons, List.filter_cons, ih]
    cases hp : p e with
    | true => simp [unflushed]
    | false => simp

/-- **`flush_selected` takes the selected size off**, each row counted once however often its id is listed. -/
theorem unflushedSize_flushSelected (s : Store δ π) (d : δ) (entryIds : List Nat) :
    s.selectedSize d entryIds + (s.flushSelected d entryIds).unflushedSize d = s.unflushedSize d := by
  have hrows : ((s.flushSelected d entryIds).rows.filter (unflushed d)) =
      s.rows.filter fun e => unflushed d e && !entryIds.contains e.id := by
    refine (filter_mark _ d s.rows).trans (List.filter_congr fun e _ => ?_)
    cases unflushed d e <;> rfl
  unfold unflushedSize selectedSize
  rw [hrows]
  exact sum_filter_split _ _ _

theorem unflushedSize_mark_of_ne {p : Entry δ π → Bool} (hp : ∀ e, p e = true → e.device = d) (h : d ≠ d') :
    (s.mark p).unflushedSize d' = s.unflushedSize d' := by
  rw [unflushedSize_eq, unflushedSize_eq, pending_mark_of_ne hp h]

/-- Dropping rows that no device still has to learn from changes no size. -/
theorem unflushedSize_filter {p : Entry δ π → Bool} (hp : ∀ e ∈ s.rows, unflushed d e = true → p e = true) :
    (⟨s.rows.filter p⟩ : Store δ π).unflushedSize d = s.unflushedSize d := by
  unfold unflushedSize
  rw [List.filter_filter]
  congr 2
  refine List.filter_congr fun e he => ?_
  cases hu : unflushed d e with
  | false => rfl
  | true => rw [hp e he hu, Bool.and_true]

theorem not_flushedOf_of_unflushed {e : Entry δ π} (h : unflushed d' e = true) : flushedOf d e = false := by
  simp only [unflushed, Bool.and_eq_true, Bool.not_eq_true'] at h
  simp [flushedOf, h.2]

/-- Pruning drops flushed rows only. -/
theorem unflushedSize_prune (expired : Entry δ π → Bool) (maxPairs : Nat) :
    (s.prune d expired maxPairs).unflushedSize d' = s.unflushedSize d' := by
  unfold prune
  dsimp only
  have hfirst : (⟨s.rows.filter fun e => !(flushedOf d e && expired e)⟩ : Store δ π).unflushedSize d' =
      s.unflushedSize d' := by
    apply unflushedSize_filter
    intro e _ he
    rw [not_flushedOf_of_unflushed he]
    rfl
  split
  · exact hfirst
  · rw [← hfirst]
    refine unflushedSize_filter (s := ⟨s.rows.filter fun e => !(flushedOf d e && expired e)⟩) fun e _ he => ?_
    rw [not_flushedOf_of_unflushed he]
    rfl

/-! ## Ids -/

/-- Row ids are a primary key. -/
def IdsDistinct (s : Store δ π) : Prop := (s.rows.map Entry.id).Nodup

omit [DecidableEq δ] in
theorem lt_nextId {e : Entry δ π} (h : e ∈ s.rows) : e.id < s.nextId := by
  unfold nextId
  generalize s.rows = rows at h
  induction rows with
  | nil => cases h
  | cons x rows ih =>
    rcases List.mem_cons.mp h with rfl | h
    · exact Nat.lt_of_lt_of_le (Nat.lt_succ_self _) (Nat.le_max_left _ _)
    · exact Nat.lt_of_lt_of_le (ih h) (Nat.le_max_right _ _)

omit [DecidableEq δ] in
theorem IdsDistinct.addPair (h : s.IdsDistinct) (seq : Nat) (pair : π) (size : Nat) :
    (s.addPair s.nextId seq d pair size).IdsDistinct := by
  show ((s.rows ++ _).map Entry.id).Nodup
  rw [List.map_append]
  refine List.Nodup.append h (List.nodup_singleton _) ?_
  intro id hid hnew
  obtain ⟨e, he, rfl⟩ := List.mem_map.mp hid
  rw [List.map_singleton, List.mem_singleton] at hnew
  exact absurd hnew (Nat.ne_of_lt (lt_nextId he))

omit [DecidableEq δ] in
theorem IdsDistinct.mark (h : s.IdsDistinct) (p : Entry δ π → Bool) : (s.mark p).IdsDistinct := by
  have hids : (s.mark p).rows.map Entry.id = s.rows.map Entry.id := by
    show (s.rows.map _).map Entry.id = _
    rw [List.map_map]
    refine List.map_congr_left fun e _ => ?_
    show Entry.id (if p e then _ else e) = e.id
    split <;> rfl
  unfold IdsDistinct
  rw [hids]
  exact h

omit [DecidableEq δ] in
theorem IdsDistinct.filter (h : s.IdsDistinct) (p : Entry δ π → Bool) :
    (⟨s.rows.filter p⟩ : Store δ π).IdsDistinct :=
  List.Nodup.sublist (List.filter_sublist.map _) h

theorem IdsDistinct.prune (h : s.IdsDistinct) (expired : Entry δ π → Bool) (maxPairs : Nat) :
    (s.prune d expired maxPairs).IdsDistinct := by
  have hfirst := h.filter fun e => !(flushedOf d e && expired e)
  unfold Store.prune
  dsimp only
  split
  · exact hfirst
  · exact hfirst.filter _

/-- An id names one row. -/
theorem filter_id_eq {e : Entry δ π} {id : Nat} (h : s.IdsDistinct) (he : s.entry? d id = some e) :
    (s.rows.filter fun e => e.id == id && decide (e.device = d)) = [e] := by
  unfold entry? at he
  unfold IdsDistinct at h
  generalize s.rows = rows at h he
  induction rows with
  | nil => cases he
  | cons x rows ih =>
    rw [List.map_cons, List.nodup_cons] at h
    rw [List.find?_cons] at he
    rw [List.filter_cons]
    cases hx : x.id == id && decide (x.device = d) with
    | true =>
      rw [hx] at he
      cases he
      rw [if_pos rfl]
      -- No later row has the id of this one.
      congr 1
      rw [List.filter_eq_nil_iff]
      intro y hy hyid
      simp only [Bool.and_eq_true, beq_iff_eq, decide_eq_true_eq] at hx hyid
      exact h.1 (List.mem_map.mpr ⟨y, hy, hyid.1.trans hx.1.symm⟩)
    | false =>
      rw [hx] at he
      rw [if_neg Bool.false_ne_true]
      exact ih h.2 he

/-- Deleting a row takes its size off only when it was not flushed. -/
theorem unflushedSize_delete {e : Entry δ π} {id : Nat} (h : s.IdsDistinct) (he : s.entry? d id = some e) :
    (if e.flushed then 0 else e.size) + (s.delete d id).unflushedSize d = s.unflushedSize d := by
  have hq := filter_id_eq h he
  have hdevice : e.device = d := by
    have hmem : e ∈ s.rows.filter fun e => e.id == id && decide (e.device = d) := hq ▸ List.mem_singleton_self e
    have hp := (List.mem_filter.mp hmem).2
    simp only [Bool.and_eq_true, decide_eq_true_eq] at hp
    exact hp.2
  have hsplit := sum_filter_split (unflushed d) (fun e => e.id == id && decide (e.device = d)) s.rows
  have hgone : (s.rows.filter fun x => unflushed d x && (x.id == id && decide (x.device = d))) =
      if e.flushed then [] else [e] := by
    rw [← List.filter_filter, hq]
    cases hf : e.flushed with
    | true => simp [unflushed, hf]
    | false => simp [unflushed, hf, hdevice]
  -- The row itself makes one part of the split, unless it is flushed; the other rows make the other.
  rw [hgone] at hsplit
  have hrest : ((s.delete d id).rows.filter (unflushed d)) =
      s.rows.filter fun x => unflushed d x && !(x.id == id && decide (x.device = d)) := List.filter_filter
  unfold unflushedSize
  rw [hrest, ← hsplit]
  split <;> simp

theorem unflushedSize_delete_of_ne {id : Nat} (h : d ≠ d') :
    (s.delete d id).unflushedSize d' = s.unflushedSize d' := by
  refine unflushedSize_filter fun e _ he => ?_
  simp only [unflushed, Bool.and_eq_true, decide_eq_true_eq] at he
  have hne : e.device ≠ d := fun heq => h (heq.symm.trans he.1)
  simp [hne]

end Store

/-! ## The counter -/

namespace Buffers

variable {δ : Type u} {π : Type v} [DecidableEq δ] {s : Buffers δ π}

/-- A counter that is set keeps the others. -/
theorem sizesExact_update {store : Store δ π} {d : δ} {n : Nat} {cached : Nat → δ → Option Nat} (h : s.SizesExact)
    (hother : ∀ d', d ≠ d' → store.unflushedSize d' = s.store.unflushedSize d') :
    (⟨store, Function.update s.sizes d n, cached⟩ : Buffers δ π).SizesExact ↔ n = store.unflushedSize d := by
  have hself : Function.update s.sizes d n d = n := Function.update_self ..
  constructor
  · intro hexact
    exact hself.symm.trans (hexact d)
  · intro hn d'
    by_cases hd : d = d'
    · subst hd
      exact hself.trans hn
    · show Function.update s.sizes d n d' = store.unflushedSize d'
      rw [Function.update_of_ne (Ne.symm hd), hother d' hd]
      exact h d'

/-- A delete keeps the counter exact iff it takes nothing off for a flushed row. -/
theorem deleteEntry_exact_iff {d : δ} {id : Nat} (hids : s.store.IdsDistinct) (h : s.SizesExact) :
    (s.deleteEntry d id).SizesExact ↔ s.DeletesUnflushed (.deleteEntry d id) := by
  unfold deleteEntry DeletesUnflushed
  cases he : s.store.entry? d id with
  | none =>
    refine iff_of_true h fun e hsome => ?_
    rw [he] at hsome
    cases hsome
  | some e =>
    have hsize := Store.unflushedSize_delete hids he
    have hcounter := h d
    dsimp only
    rw [sizesExact_update h fun d' hd => Store.unflushedSize_delete_of_ne hd]
    constructor
    · intro hexact e' he' hflushed
      cases he.symm.trans he'
      rw [if_pos hflushed] at hsize
      omega
    · intro hok
      cases hflushed : e.flushed with
      | true =>
        rw [hflushed, if_pos rfl] at hsize
        have hnothing := hok e he hflushed
        omega
      | false =>
        rw [hflushed, if_neg Bool.false_ne_true] at hsize
        omega

/-- An operation keeps the counters exact iff it is no delete that takes a size off twice. -/
theorem apply_exact_iff (op : BufferOp δ π) (hids : s.store.IdsDistinct) (h : s.SizesExact) :
    (s.apply op).SizesExact ↔ s.DeletesUnflushed op := by
  cases op with
  | addPair object d pair size =>
    refine iff_of_true ((sizesExact_update h fun d' hd => ?_).mpr ?_) trivial
    · rw [Store.unflushedSize_addPair, if_neg hd, Nat.add_zero]
    · rw [Store.unflushedSize_addPair, if_pos rfl, h d]
  | addPairRaises object d => exact iff_of_true h trivial
  | flush d =>
    refine iff_of_true ((sizesExact_update h fun d' hd => ?_).mpr ?_) trivial
    · rw [Store.unflushedSize_eq, Store.unflushedSize_eq, Store.pending_flush_of_ne hd]
    · rw [Store.unflushedSize_eq, Store.pending_flush_self]
      rfl
  | flushSelected d entryIds =>
    refine iff_of_true ?_ trivial
    show (s.flushSelected d entryIds).SizesExact
    unfold flushSelected
    split
    · exact h
    · refine (sizesExact_update h fun d' hd => ?_).mpr ?_
      · refine Store.unflushedSize_mark_of_ne (fun e he => ?_) hd
        simp only [Store.unflushed, Bool.and_eq_true, decide_eq_true_eq] at he
        exact he.1.1
      · have hsize := Store.unflushedSize_flushSelected s.store d entryIds
        have hcounter := h d
        omega
  | deleteEntry d id => exact deleteEntry_exact_iff hids h
  | prune d expired maxPairs =>
    refine iff_of_true (fun d' => ?_) trivial
    exact (h d').trans (Store.unflushedSize_prune expired maxPairs).symm
  | rebuild object => exact iff_of_true h trivial

theorem apply_idsDistinct (op : BufferOp δ π) (h : s.store.IdsDistinct) : (s.apply op).store.IdsDistinct := by
  cases op with
  | addPair object d pair size => exact h.addPair _ pair size
  | addPairRaises object d => exact h
  | flush d => exact h.mark _
  | flushSelected d entryIds =>
    show (s.flushSelected d entryIds).store.IdsDistinct
    unfold flushSelected
    split
    · exact h
    · exact h.mark _
  | deleteEntry d id =>
    show (s.deleteEntry d id).store.IdsDistinct
    unfold deleteEntry
    split
    · exact h
    · exact h.filter _
  | prune d expired maxPairs => exact h.prune expired maxPairs
  | rebuild object => exact h

/-- **The counter is exact after every operation of a run iff no delete of the run takes the size of a flushed
    row off it**, for every run on a new database with any number of store objects. -/
theorem sizesExact_iff (ops : List (BufferOp δ π)) :
    (∀ pre, pre <+: ops → ∀ s : Buffers δ π, exec step {} pre = some s → s.SizesExact) ↔
      AllOk step DeletesUnflushed ({} : Buffers δ π) ops := by
  have hids : ∀ pre (s s' : Buffers δ π), s.store.IdsDistinct → exec step s pre = some s' → s'.store.IdsDistinct := by
    intro pre
    induction pre with
    | nil =>
      intro s s' h hrun
      cases hrun
      exact h
    | cons op pre ih =>
      intro s s' h hrun
      exact ih _ _ (apply_idsDistinct op h) hrun
  have hstart : ({} : Buffers δ π).SizesExact ∧ ({} : Buffers δ π).store.IdsDistinct :=
    ⟨fun _ => rfl, List.nodup_nil⟩
  have hpre : (∀ pre, pre <+: ops → ∀ s : Buffers δ π, exec step {} pre = some s →
      s.SizesExact ∧ s.store.IdsDistinct) ↔ AllOk step DeletesUnflushed ({} : Buffers δ π) ops := by
    refine forall_prefix_iff_allOk (fun s op => ⟨_, rfl⟩) (fun s op s' h hstep => ?_) hstart
    cases hstep
    rw [apply_exact_iff op h.2 h.1]
    exact and_iff_left (apply_idsDistinct op h.2)
  rw [← hpre]
  exact ⟨fun h pre hpre s hrun => ⟨h pre hpre s hrun, hids pre _ _ hstart.2 hrun⟩,
    fun h pre hpre s hrun => (h pre hpre s hrun).1⟩

/-- Two pairs, the first one flushed and then deleted. -/
def flushedThenDeleted : List (BufferOp String String) :=
  [.addPair 0 "porch" "GET /status" 40, .flush "porch", .addPair 0 "porch" "GET /motion" 30,
   .deleteEntry "porch" 1]

/-- The delete takes the size of the flushed pair off the counter of the other one. -/
theorem flushedThenDeleted_starves : ¬ ∀ (ops pre : List (BufferOp String String)), pre <+: ops →
    ∀ s : Buffers String String, exec step {} pre = some s → s.SizesExact := by
  intro h
  have hexact := h flushedThenDeleted flushedThenDeleted (List.prefix_refl _) _ rfl "porch"
  exact absurd hexact (by decide)

end Buffers

end RideTheApi.Buffer
