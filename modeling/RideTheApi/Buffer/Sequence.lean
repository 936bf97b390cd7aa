import Mathlib.Data.List.DropRight
import RideTheApi.Buffer.Ledger

/-!
# `Buffer.Sequence` — insertion order under several store objects

A row gets its sequence number from the cache of the store object that adds it; the table is asked only when
the cache is empty. While the numbers of a device grow with insertion, readers get the rows in insertion
order and pruning keeps the newest flushed ones (`InOrder`). They do after every operation of a run iff no
object adds a pair from a number that another object has passed (`inOrder_iff`).
-/

namespace RideTheApi.Buffer

open Transition

universe u v

namespace Store

variable {δ : Type u} {π : Type v} [DecidableEq δ]

/-- The numbers of each device are distinct and grow with insertion. -/
def Increasing (s : Store δ π) : Prop :=
  ∀ d, (s.rows.filter fun e => e.device = d).Pairwise fun a b => a.sequence < b.sequence

/-- What a buffer promises about order: numbers grow, readers get insertion order, and pruning leaves the
    newest `min n maxPairs` of the `n` flushed rows that are not too old, and every other row. -/
structure InOrder (s : Store δ π) : Prop where
  increasing : s.Increasing
  reads : ∀ d, s.getBufferPairs d = s.rows.filter (unflushed d)
  prunes : ∀ d expired maxPairs,
    (s.prune d expired maxPairs).rows.filter (flushedOf d) =
      (s.rows.filter fun e => flushedOf d e && !expired e).rtake maxPairs
  spares : ∀ d expired maxPairs,
    ((s.prune d expired maxPairs).rows.filter fun e => !flushedOf d e) = s.rows.filter fun e => !flushedOf d e

end Store

namespace Buffers

variable {δ : Type u} {π : Type v} [DecidableEq δ]

/-- A pair is not numbered from a cache that the table has passed. -/
def NumbersFresh (s : Buffers δ π) : BufferOp δ π → Prop
  | .addPair object d _ _ =>
    ∀ n, s.cached object d = some n → ∀ e ∈ s.store.rows, e.device = d → e.sequence ≤ n
  | _                     => True

end Buffers

/-! ## Increasing numbers -/

namespace Store

variable {δ : Type u} {π : Type v} [DecidableEq δ] {s : Store δ π} {d : δ}

theorem Increasing.filter (h : s.Increasing) (d : δ) (p : Entry δ π → Bool)
    (hp : ∀ e, p e = true → e.device = d) : (s.rows.filter p).Pairwise fun a b => a.sequence < b.sequence := by
  have hsub : (s.rows.filter p).Sublist (s.rows.filter fun e => e.device = d) := by
    have heq : s.rows.filter p = (s.rows.filter fun e => e.device = d).filter p := by
      rw [List.filter_filter]
      refine List.filter_congr fun e _ => ?_
      cases hpe : p e with
      | true => rw [Bool.true_and, decide_eq_true (hp e hpe)]
      | false => rfl
    rw [heq]
    exact List.filter_sublist
  exact (h d).sublist hsub

/-- Readers get the rows in insertion order. -/
theorem Increasing.reads (h : s.Increasing) (d : δ) : s.getBufferPairs d = s.rows.filter (unflushed d) := by
  apply List.Pairwise.insertionSort_eq
  refine (h.filter d _ fun e he => ?_).imp fun hlt => Nat.le_of_lt hlt
  simp only [unflushed, Bool.and_eq_true, decide_eq_true_eq] at he
  exact he.1

omit [DecidableEq δ] in
/-- The rows after a given one are those with a larger number. -/
theorem filter_gt_eq_drop {rows : List (Entry δ π)} (h : rows.Pairwise fun a b => a.sequence < b.sequence) {i : Nat}
    {e : Entry δ π} (hi : rows[i]? = some e) :
    (rows.filter fun x => !decide (x.sequence ≤ e.sequence)) = rows.drop (i + 1) := by
  obtain ⟨hlt, rfl⟩ := List.getElem?_eq_some_iff.mp hi
  rw [List.pairwise_iff_getElem] at h
  -- Up to the row itself the numbers are no larger, and after it they are.
  have hsplit : rows = rows.take (i + 1) ++ rows.drop (i + 1) := (List.take_append_drop _ _).symm
  have htake : ((rows.take (i + 1)).filter fun x => !decide (x.sequence ≤ rows[i].sequence)) = [] := by
    rw [List.filter_eq_nil_iff]
    intro x hx
    obtain ⟨j, hj, rfl⟩ := List.mem_iff_getElem.mp hx
    rw [List.length_take] at hj
    rw [List.getElem_take]
    have hle : rows[j].sequence ≤ rows[i].sequence := by
      rcases Nat.lt_or_ge j i with hji | hji
      · exact Nat.le_of_lt (h j i (by omega) hlt hji)
      · have hij : j = i := by omega
        subst hij
        exact Nat.le_refl _
    simp [hle]
  have hdrop : ((rows.drop (i + 1)).filter fun x => !decide (x.sequence ≤ rows[i].sequence)) = rows.drop (i + 1) := by
    rw [List.filter_eq_self]
    intro x hx
    obtain ⟨j, hj, rfl⟩ := List.mem_iff_getElem.mp hx
    rw [List.length_drop] at hj
    rw [List.getElem_drop]
    have hgt := h i (i + 1 + j) hlt (by omega) (by omega)
    simp [hgt]
  calc (rows.filter fun x => !decide (x.sequence ≤ rows[i].sequence))
      = ((rows.take (i + 1) ++ rows.drop (i + 1)).filter fun x => !decide (x.sequence ≤ rows[i].sequence)) := by
        rw [List.take_append_drop]
    _ = rows.drop (i + 1) := by rw [List.filter_append, htake, hdrop, List.nil_append]

/-- The newest flushed row beyond the cap, counted from the end of the insertion order. -/
theorem oldestKept_eq {rows : List (Entry δ π)} (maxPairs : Nat)
    (h : (rows.filter (flushedOf d)).Pairwise fun a b => a.sequence < b.sequence) :
    oldestKept rows d maxPairs = ((rows.filter (flushedOf d)).map Entry.sequence).reverse[maxPairs]? := by
  -- Numbers grow with insertion, so sorted downwards they are the insertion order reversed.
  have hsorted : ((rows.filter (flushedOf d)).map Entry.sequence).insertionSort (· ≥ ·) =
      ((rows.filter (flushedOf d)).map Entry.sequence).reverse := by
    have hpairs : (((rows.filter (flushedOf d)).map Entry.sequence).reverse).Pairwise (· ≥ ·) := by
      rw [List.pairwise_reverse, List.pairwise_map]
      exact h.imp fun hlt => Nat.le_of_lt hlt
    rw [← hpairs.insertionSort_eq]
    exact List.Perm.eq_of_pairwise' (List.pairwise_insertionSort _ _) (List.pairwise_insertionSort _ _)
      (((List.perm_insertionSort _ _).trans (List.reverse_perm _).symm).trans (List.perm_insertionSort _ _).symm)
  unfold oldestKept
  rw [hsorted]

/-- **Pruning keeps the newest flushed rows** that are not too old, up to the cap. -/
theorem Increasing.prunes (h : s.Increasing) (d : δ) (expired : Entry δ π → Bool) (maxPairs : Nat) :
    (s.prune d expired maxPairs).rows.filter (flushedOf d) =
      (s.rows.filter fun e => flushedOf d e && !expired e).rtake maxPairs := by
  have hkept : (s.rows.filter fun e => !(flushedOf d e && expired e)).filter (flushedOf d) =
      s.rows.filter fun e => flushedOf d e && !expired e := by
    rw [List.filter_filter]
    refine List.filter_congr fun e _ => ?_
    cases flushedOf d e <;> rfl
  have hpairs : (s.rows.filter fun e => flushedOf d e && !expired e).Pairwise fun a b => a.sequence < b.sequence := by
    refine h.filter d _ fun e he => ?_
    simp only [flushedOf, Bool.and_eq_true, decide_eq_true_eq] at he
    exact he.1.1
  have holdest := oldestKept_eq maxPairs (hkept ▸ hpairs)
  rw [hkept] at holdest
  unfold prune
  dsimp only
  rw [holdest]
  generalize hrows : (s.rows.filter fun e => flushedOf d e && !expired e) = rows at hkept hpairs
  unfold List.rtake
  -- Either no row is beyond the cap, or the newest one beyond it and all older ones go.
  cases hnewest : (rows.map Entry.sequence).reverse[maxPairs]? with
  | none =>
    have hlen : rows.length ≤ maxPairs := by
      rw [List.getElem?_eq_none_iff, List.length_reverse, List.length_map] at hnewest
      exact hnewest
    rw [Nat.sub_eq_zero_of_le hlen, List.drop_zero]
    exact hkept
  | some oldest =>
    obtain ⟨hlt, hget⟩ := List.getElem?_eq_some_iff.mp hnewest
    rw [List.length_reverse, List.length_map] at hlt
    rw [List.getElem_reverse, List.getElem_map] at hget
    simp only [List.length_map] at hget
    have hindex : rows[rows.length - 1 - maxPairs]? = some rows[rows.length - 1 - maxPairs] :=
      List.getElem?_eq_getElem (by omega)
    have hdrop := filter_gt_eq_drop hpairs hindex
    rw [hget] at hdrop
    have hfiltered : ((s.rows.filter fun e => !(flushedOf d e && expired e)).filter fun e =>
        !(flushedOf d e && decide (e.sequence ≤ oldest))).filter (flushedOf d) =
        rows.filter fun e => !decide (e.sequence ≤ oldest) := by
      rw [← hkept, List.filter_filter, List.filter_filter, List.filter_filter, List.filter_filter]
      refine List.filter_congr fun e _ => ?_
      cases flushedOf d e <;> simp
    have hcount : rows.length - 1 - maxPairs + 1 = rows.length - maxPairs := by omega
    rw [← hcount, ← hdrop]
    exact hfiltered

/-- Pruning drops nothing else. -/
theorem prune_spares (s : Store δ π) (d : δ) (expired : Entry δ π → Bool) (maxPairs : Nat) :
    ((s.prune d expired maxPairs).rows.filter fun e => !flushedOf d e) = s.rows.filter fun e => !flushedOf d e := by
  have hfirst : ((s.rows.filter fun e => !(flushedOf d e && expired e)).filter fun e => !flushedOf d e) =
      s.rows.filter fun e => !flushedOf d e := by
    rw [List.filter_filter]
    refine List.filter_congr fun e _ => ?_
    cases flushedOf d e <;> rfl
  unfold prune
  dsimp only
  split
  · exact hfirst
  · refine Eq.trans ?_ hfirst
    rw [List.filter_filter]
    refine List.filter_congr fun e _ => ?_
    cases flushedOf d e <;> rfl

theorem inOrder_iff_increasing : s.InOrder ↔ s.Increasing :=
  ⟨InOrder.increasing, fun h => ⟨h, h.reads, h.prunes, s.prune_spares⟩⟩

theorem Increasing.sub (h : s.Increasing) (p : Entry δ π → Bool) : (⟨s.rows.filter p⟩ : Store δ π).Increasing := by
  intro d
  have hcomm : ((s.rows.filter p).filter fun e => e.device = d) = (s.rows.filter fun e => e.device = d).filter p := by
    rw [List.filter_filter, List.filter_filter]
    exact List.filter_congr fun e _ => Bool.and_comm _ _
  rw [hcomm]
  exact (h d).sublist List.filter_sublist

theorem Increasing.mark (h : s.Increasing) (p : Entry δ π → Bool) : (s.mark p).Increasing := by
  intro d
  show ((s.rows.map _).filter _).Pairwise _
  rw [List.filter_map, List.pairwise_map]
  have hkeep : ∀ e : Entry δ π, (if p e then { e with flushed := true } else e).device = e.device ∧
      (if p e then { e with flushed := true } else e).sequence = e.sequence := by
    intro e
    split <;> exact ⟨rfl, rfl⟩
  have hfilter : (s.rows.filter ((fun e : Entry δ π => decide (e.device = d)) ∘ fun e =>
      if p e then { e with flushed := true } else e)) = s.rows.filter fun e => e.device = d := by
    refine List.filter_congr fun e _ => ?_
    show decide ((if p e then { e with flushed := true } else e).device = d) = _
    rw [(hkeep e).1]
  rw [hfilter]
  refine (h d).imp fun {a b} hlt => ?_
  rw [(hkeep a).2, (hkeep b).2]
  exact hlt

/-- A new row keeps the numbers increasing iff its number is larger than every other of the device. -/
theorem increasing_addPair_iff {id seq : Nat} {pair : π} {size : Nat} (h : s.Increasing) :
    (s.addPair id seq d pair size).Increasing ↔ ∀ e ∈ s.rows, e.device = d → e.sequence < seq := by
  have hrows : ∀ d', ((s.addPair id seq d pair size).rows.filter fun e => e.device = d') =
      (s.rows.filter fun e => e.device = d') ++
        if d = d' then [{ id, device := d, pair, size, sequence := seq }] else [] := by
    intro d'
    show (s.rows ++ _).filter _ = _
    rw [List.filter_append]
    congr 1
    by_cases hd : d = d' <;> simp [hd]
  constructor
  · intro hinc e he hdev
    have hd := hinc d
    rw [hrows, if_pos rfl, List.pairwise_append] at hd
    exact hd.2.2 e (List.mem_filter.mpr ⟨he, decide_eq_true hdev⟩) _ (List.mem_singleton_self _)
  · intro hlt d'
    rw [hrows]
    by_cases hd : d = d'
    · subst hd
      rw [if_pos rfl, List.pairwise_append]
      refine ⟨h d, List.pairwise_singleton _ _, fun e he x hx => ?_⟩
      rw [List.mem_singleton.mp hx]
      obtain ⟨hmem, hdev⟩ := List.mem_filter.mp he
      exact hlt e hmem (of_decide_eq_true hdev)
    · rw [if_neg hd, List.append_nil]
      exact h d'

end Store

/-! ## Numbers over a run -/

namespace Buffers

variable {δ : Type u} {π : Type v} [DecidableEq δ] {s : Buffers δ π}

/-- The next number is larger than every other iff it does not come from a cache the table has passed. -/
theorem nextSequence_gt_iff {object : Nat} {d : δ} (pair : π) (size : Nat) :
    (∀ e ∈ s.store.rows, e.device = d → e.sequence < s.nextSequence object d) ↔
      s.NumbersFresh (.addPair object d pair size) := by
  unfold nextSequence NumbersFresh
  cases hcached : s.cached object d with
  | some n =>
    constructor
    · intro h m hm e he hdev
      cases hcached.symm.trans hm
      exact Nat.le_of_lt_succ (h e he hdev)
    · intro h e he hdev
      exact Nat.lt_succ_of_le (h n hcached e he hdev)
  | none =>
    have hvacuous : ∀ n, s.cached object d = some n → ∀ e ∈ s.store.rows, e.device = d → e.sequence ≤ n := by
      intro n hn
      cases hcached.symm.trans hn
    -- A number from the table passes every other, so there is nothing to ask for.
    refine iff_of_true (fun e he hdev => ?_) hvacuous
    have hmem : e.sequence ∈ (s.store.rows.filter fun e => e.device = d).map Entry.sequence :=
      List.mem_map.mpr ⟨e, List.mem_filter.mpr ⟨he, decide_eq_true hdev⟩, rfl⟩
    dsimp only
    cases hmax : s.store.maxSequence d with
    | none =>
      rw [Store.maxSequence, List.max?_eq_none_iff] at hmax
      rw [hmax] at hmem
      cases hmem
    | some n => exact Nat.lt_succ_of_le ((List.max?_eq_some_iff.mp hmax).2 _ hmem)

/-- An operation keeps the order iff it numbers no pair from a cache the table has passed. -/
theorem apply_inOrder_iff (op : BufferOp δ π) (h : s.store.InOrder) :
    (s.apply op).store.InOrder ↔ s.NumbersFresh op := by
  rw [Store.inOrder_iff_increasing] at h ⊢
  cases op with
  | addPair object d pair size => exact (Store.increasing_addPair_iff h).trans (nextSequence_gt_iff pair size)
  | addPairRaises object d => exact iff_of_true h trivial
  | flush d => exact iff_of_true (h.mark _) trivial
  | flushSelected d entryIds =>
    refine iff_of_true ?_ trivial
    show (s.flushSelected d entryIds).store.Increasing
    unfold flushSelected
    split
    · exact h
    · exact h.mark _
  | deleteEntry d id =>
    refine iff_of_true ?_ trivial
    show (s.deleteEntry d id).store.Increasing
    unfold deleteEntry
    split
    · exact h
    · exact h.sub _
  | prune d expired maxPairs =>
    refine iff_of_true ?_ trivial
    show (s.store.prune d expired maxPairs).Increasing
    unfold Store.prune
    dsimp only
    split
    · exact h.sub _
    · exact (h.sub _).sub _
  | rebuild object => exact iff_of_true h trivial

/-- **Buffer order holds after every operation of a run iff no store object of the run numbers a pair from a
    cache that another object has passed**: for every run on a new database with any number of store objects,
    rebuilt at any time. -/
theorem inOrder_iff (ops : List (BufferOp δ π)) :
    (∀ pre, pre <+: ops → ∀ s : Buffers δ π, exec step {} pre = some s → s.store.InOrder) ↔
      AllOk step NumbersFresh ({} : Buffers δ π) ops := by
  have hstart : ({} : Buffers δ π).store.InOrder :=
    Store.inOrder_iff_increasing.mpr fun _ => List.Pairwise.nil
  refine forall_prefix_iff_allOk (fun s op => ⟨_, rfl⟩) (fun s op s' h hstep => ?_) hstart
  cases hstep
  exact apply_inOrder_iff op h

/-- A device's buffer and an import, adding in turn. -/
def importBetween : List (BufferOp String String) :=
  [.addPair 0 "porch" "GET /status" 40, .addPair 1 "porch" "GET /imported" 30, .addPair 0 "porch" "GET /motion" 30]

/-- The buffer numbers its second pair like the imported one. -/
theorem importBetween_repeats : ¬ ∀ (ops pre : List (BufferOp String String)), pre <+: ops →
    ∀ s : Buffers String String, exec step {} pre = some s → s.store.InOrder := by
  intro h
  have hinc := (h importBetween importBetween (List.prefix_refl _) _ rfl).increasing "porch"
  exact absurd hinc (by decide)

end Buffers

end RideTheApi.Buffer
