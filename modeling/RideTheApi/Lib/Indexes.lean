import Mathlib.Data.List.Nodup
import RideTheApi.Lib.Dict

/-!
# `Lib.Indexes` — two indexes of a sequence whose items replace one another

Items come one after the other, and each replaces the item of its owner. A **claim index** keeps for each key the
last item that has it, a **grouped index** keeps them all. Neither forgets what an item replaced had put there, and
the two equivalences say for which sequences that does not show.
-/

/-! ## The two ways to enter a key -/

namespace Dict

variable {κ α β : Type} [DecidableEq κ]

/-- `for k in keys: d[k] = v`. -/
def setAll (d : Dict κ β) (keys : List κ) (v : β) : Dict κ β := keys.foldl (fun d k => d.set k v) d

/-- `d.get(k, [])`. -/
def listed (d : Dict κ (List α)) (k : κ) : List α := (d.get? k).getD []

/-- `d.setdefault(k, []).append(x)`. -/
def appendAt (d : Dict κ (List α)) (k : κ) (x : α) : Dict κ (List α) := d.set k (d.listed k ++ [x])

theorem get?_setAll (d : Dict κ β) (keys : List κ) (v : β) (k : κ) :
    (d.setAll keys v).get? k = if k ∈ keys then some v else d.get? k := by
  induction keys generalizing d with
  | nil => simp [setAll]
  | cons k' keys ih =>
    have hstep : d.setAll (k' :: keys) v = (d.set k' v).setAll keys v := rfl
    rw [hstep, ih, get?_set]
    by_cases hmem : k ∈ keys
    · simp [hmem]
    · by_cases hk : k' = k
      · simp [hk]
      · simp [hmem, hk, Ne.symm hk]

theorem listed_appendAt (d : Dict κ (List α)) (k k' : κ) (x : α) :
    (d.appendAt k x).listed k' = d.listed k' ++ if k = k' then [x] else [] := by
  unfold appendAt
  by_cases hk : k = k'
  · subst hk
    simp [listed, get?_set]
  · simp [listed, get?_set, hk]

/-- Appending at each of some keys appends once for each time the key is listed. -/
theorem listed_foldl_appendAt (d : Dict κ (List α)) (keys : List κ) (x : α) (k : κ) :
    (keys.foldl (fun d k => d.appendAt k x) d).listed k = d.listed k ++ List.replicate (keys.count k) x := by
  induction keys generalizing d with
  | nil => simp
  | cons k' keys ih =>
    rw [List.foldl_cons, ih, listed_appendAt, List.append_assoc, List.count_cons]
    by_cases hk : k' = k
    · simp [hk, List.replicate_succ]
    · simp [hk]

end Dict

namespace Indexes

/-! ## The last item with a property -/

variable {α κ ν : Type}

/-- The last item with a property. -/
def lastWhere (p : α → Bool) (as : List α) : Option α := as.reverse.find? p

variable {p : α → Bool} {as : List α}

@[simp] theorem lastWhere_nil : lastWhere p [] = none := rfl

theorem lastWhere_cons (a : α) :
    lastWhere p (a :: as) = (lastWhere p as).or (if p a then some a else none) := by
  unfold lastWhere
  rw [List.reverse_cons, List.find?_append, List.find?_singleton]

theorem lastWhere_concat (a : α) :
    lastWhere p (as ++ [a]) = if p a then some a else lastWhere p as := by
  unfold lastWhere
  rw [List.reverse_concat, List.find?_cons]
  cases p a with
  | true => rfl
  | false => rfl

theorem mem_of_lastWhere {a : α} (h : lastWhere p as = some a) : a ∈ as :=
  List.mem_reverse.mp (List.mem_of_find?_eq_some h)

theorem prop_of_lastWhere {a : α} (h : lastWhere p as = some a) : p a = true := List.find?_some h

theorem lastWhere_eq_none_iff : lastWhere p as = none ↔ ∀ a ∈ as, p a = false := by
  simp [lastWhere]

/-- A later item with the property hides the earlier ones. -/
theorem lastWhere_cons_of_mem {a b : α} (hb : b ∈ as) (hp : p b = true) :
    lastWhere p (a :: as) = lastWhere p as := by
  rw [lastWhere_cons]
  cases h : lastWhere p as with
  | some c => rfl
  | none => simp [lastWhere_eq_none_iff.mp h b hb] at hp

/-! ## The item of an owner, the claimant of a key, the items of a key -/

variable [DecidableEq κ] [DecidableEq ν] (owner : α → ν) (keysOf : α → List κ)

/-- The item an owner has now. -/
def current (v : ν) (as : List α) : Option α := lastWhere (fun a => owner a = v) as

/-- The last item with a key. -/
def claimant (k : κ) (as : List α) : Option α := lastWhere (fun a => k ∈ keysOf a) as

/-- The items with a key, each as often as it lists the key. -/
def grouped (k : κ) (as : List α) : List α := as.flatMap fun a => List.replicate ((keysOf a).count k) a

variable {owner keysOf} {k : κ} {v : ν} {a b : α}

theorem owner_of_current (h : current owner v as = some a) : owner a = v := by
  have hprop := prop_of_lastWhere (p := fun a => owner a = v) h
  simpa using hprop

theorem mem_grouped : a ∈ grouped keysOf k as ↔ a ∈ as ∧ k ∈ keysOf a := by
  simp only [grouped, List.mem_flatMap, List.mem_replicate, ne_eq, List.count_eq_zero, not_not]
  constructor
  · rintro ⟨b, hb, hk, rfl⟩
    exact ⟨hb, hk⟩
  · rintro ⟨ha, hk⟩
    exact ⟨a, ha, hk, rfl⟩

theorem grouped_cons : grouped keysOf k (a :: as) = List.replicate ((keysOf a).count k) a ++ grouped keysOf k as := rfl

/-- Items in front do not change what an owner of a later item has. -/
theorem current_cons_of_mem (hb : b ∈ as) : current owner (owner b) (a :: as) = current owner (owner b) as :=
  lastWhere_cons_of_mem hb (decide_eq_true rfl)

/-- An item is its owner's unless a later one is. -/
theorem current_cons_self (h : ∀ c ∈ as, owner c ≠ owner a) : current owner (owner a) (a :: as) = some a := by
  have hnone : lastWhere (fun c => decide (owner c = owner a)) as = none :=
    lastWhere_eq_none_iff.mpr fun c hc => decide_eq_false (h c hc)
  rw [current, lastWhere_cons, hnone]
  simp

/-! ## A grouped index lists what is there, once -/

variable (owner keysOf)

/-- An item with keys lists each once, and no later item has its owner. -/
def GroupedOnce : List α → Prop
  | []      => True
  | a :: as => (keysOf a ≠ [] → (keysOf a).Nodup ∧ ∀ c ∈ as, owner c ≠ owner a) ∧ GroupedOnce as

instance GroupedOnce.decidable : (as : List α) → Decidable (GroupedOnce owner keysOf as)
  | []      => .isTrue trivial
  | _ :: as =>
    have := GroupedOnce.decidable as
    inferInstanceAs (Decidable (_ ∧ _))

variable {owner keysOf}

/-- **The grouped index.** Every key lists items that their owners still have, each once, iff no item with keys was
    replaced and none lists a key twice. -/
theorem grouped_current_iff :
    (∀ k, (grouped keysOf k as).Nodup ∧ ∀ a ∈ grouped keysOf k as, current owner (owner a) as = some a) ↔
      GroupedOnce owner keysOf as := by
  induction as with
  | nil => simp [grouped, GroupedOnce]
  | cons a as ih =>
    rw [GroupedOnce, ← ih]
    constructor
    · intro h
      refine ⟨fun hkeys => ⟨?_, ?_⟩, fun k => ⟨?_, ?_⟩⟩
      · -- a key listed twice lists the item twice
        refine List.nodup_iff_count_le_one.mpr fun k => ?_
        have hnodup := (h k).1
        rw [grouped_cons] at hnodup
        exact List.nodup_replicate.mp (List.nodup_append.mp hnodup).1
      · intro c hc howner
        obtain ⟨k, hk⟩ := List.exists_mem_of_ne_nil _ hkeys
        have hcurrent := (h k).2 a (mem_grouped.mpr ⟨List.mem_cons_self, hk⟩)
        -- its owner's item is a later one, and so the item is listed again
        rw [← howner, current_cons_of_mem hc, howner] at hcurrent
        have hlater : a ∈ grouped keysOf k as := mem_grouped.mpr ⟨mem_of_lastWhere hcurrent, hk⟩
        have hfirst : a ∈ List.replicate ((keysOf a).count k) a :=
          List.mem_replicate.mpr ⟨fun h0 => List.count_eq_zero.mp h0 hk, rfl⟩
        have hnodup := (h k).1
        rw [grouped_cons] at hnodup
        exact (List.nodup_append.mp hnodup).2.2 a hfirst a hlater rfl
      · have hnodup := (h k).1
        rw [grouped_cons] at hnodup
        exact (List.nodup_append.mp hnodup).2.1
      · intro b hb
        rw [← current_cons_of_mem (mem_grouped.mp hb).1]
        exact (h k).2 b (by rw [grouped_cons]; exact List.mem_append_right _ hb)
    · rintro ⟨hfirst, hrest⟩ k
      by_cases hk : k ∈ keysOf a
      · obtain ⟨hnodup, hunreplaced⟩ := hfirst (List.ne_nil_of_mem hk)
        have hone : (keysOf a).count k = 1 := List.count_eq_one_of_mem hnodup hk
        have hnew : a ∉ as := fun ha => hunreplaced a ha rfl
        rw [grouped_cons, hone, List.replicate_one, List.singleton_append, List.nodup_cons, List.forall_mem_cons]
        refine ⟨⟨fun ha => hnew (mem_grouped.mp ha).1, (hrest k).1⟩, current_cons_self hunreplaced, ?_⟩
        intro b hb
        rw [current_cons_of_mem (mem_grouped.mp hb).1]
        exact (hrest k).2 b hb
      · rw [grouped_cons, List.count_eq_zero.mpr hk, List.replicate_zero, List.nil_append]
        refine ⟨(hrest k).1, fun b hb => ?_⟩
        rw [current_cons_of_mem (mem_grouped.mp hb).1]
        exact (hrest k).2 b hb

/-! ## A claim index leads to an item with the key -/

variable (owner keysOf) (named : ν → Prop)

/-- An item that is the last with one of its keys is the last of its owner, where the owner has a name. -/
def ClaimsKept : List α → Prop
  | []      => True
  | a :: as => (named (owner a) → ∀ k ∈ keysOf a, (∀ c ∈ as, k ∉ keysOf c) → ∀ c ∈ as, owner c ≠ owner a) ∧ ClaimsKept as

instance ClaimsKept.decidable [DecidablePred named] : (as : List α) → Decidable (ClaimsKept owner keysOf named as)
  | []      => .isTrue trivial
  | _ :: as =>
    have := ClaimsKept.decidable as
    inferInstanceAs (Decidable (_ ∧ _))

variable {owner keysOf named}

/-- What the claim index says of an item and the ones after it. -/
private theorem claimant_cons_iff :
    (∀ k c, claimant keysOf k (a :: as) = some c → named (owner c) →
        ∃ b, current owner (owner c) (a :: as) = some b ∧ k ∈ keysOf b) ↔
      (named (owner a) → ∀ k ∈ keysOf a, claimant keysOf k as = none →
        ∃ b, current owner (owner a) (a :: as) = some b ∧ k ∈ keysOf b) ∧
      ∀ k c, claimant keysOf k as = some c → named (owner c) → ∃ b, current owner (owner c) as = some b ∧ k ∈ keysOf b := by
  have hcons : ∀ k, claimant keysOf k (a :: as) = (claimant keysOf k as).or (if k ∈ keysOf a then some a else none) := by
    intro k
    rw [claimant, lastWhere_cons]
    simp [claimant]
  constructor
  · intro h
    refine ⟨fun hnamed k hk hnone => h k a ?_ hnamed, fun k c hc hnamed => ?_⟩
    · rw [hcons, hnone, if_pos hk]
      rfl
    · rw [← current_cons_of_mem (mem_of_lastWhere hc)]
      exact h k c (by rw [hcons, hc]; rfl) hnamed
  · rintro ⟨hfirst, hrest⟩ k c hc hnamed
    rw [hcons] at hc
    cases hlater : claimant keysOf k as with
    | some d =>
      rw [hlater, Option.some_or, Option.some.injEq] at hc
      subst hc
      rw [current_cons_of_mem (mem_of_lastWhere hlater)]
      exact hrest k d hlater hnamed
    | none =>
      rw [hlater, Option.none_or] at hc
      by_cases hk : k ∈ keysOf a
      · rw [if_pos hk, Option.some.injEq] at hc
        subst hc
        exact hfirst hnamed k hk hlater
      · simp [hk] at hc

/-- **The claim index.** The owner of every key's last item has an item with the key iff no owner lost its claim: an item
    that is the last with a key was not replaced. -/
theorem claimant_current_iff :
    (∀ k c, claimant keysOf k as = some c → named (owner c) → ∃ a, current owner (owner c) as = some a ∧ k ∈ keysOf a) ↔
      ClaimsKept owner keysOf named as := by
  induction as with
  | nil => simp [claimant, ClaimsKept]
  | cons a as ih =>
    rw [claimant_cons_iff, ih, ClaimsKept]
    refine and_congr_left fun _ => forall_congr' fun _ => forall_congr' fun k => forall_congr' fun hk => ?_
    have hnone : claimant keysOf k as = none ↔ ∀ c ∈ as, k ∉ keysOf c := by
      simp [claimant, lastWhere_eq_none_iff]
    rw [hnone]
    refine forall_congr' fun hunclaimed => ⟨?_, fun hunreplaced => ⟨a, current_cons_self hunreplaced, hk⟩⟩
    rintro ⟨b, hb, hkb⟩ c hc howner
    -- what replaced the item comes after it, where nothing has the key
    rw [← howner, current_cons_of_mem hc] at hb
    exact hunclaimed b (mem_of_lastWhere hb) hkb

end Indexes
