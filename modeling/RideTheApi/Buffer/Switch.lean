import Mathlib.Algebra.Order.Group.Multiset
import Mathlib.Tactic.Abel
import RideTheApi.Buffer.Store
import RideTheApi.Lib.Transition

/-!
# `Buffer.Switch` — switching the buffer backend

`switch_backend` lists the devices with pending pairs, then per device reads the pending pairs of the old
store, adds each to the new store, and flushes the device in the old store; only then does it flip the
backend. Every one of these is an await of its own that may raise, and captured pairs keep arriving in
the old store between them. A step here is one await.

A pair that arrives for a device whose pairs were already read is flushed unseen or left behind, and a
failure after the first copy leaves that copy in the new store. Runs without these two (`Orderly`) switch
losslessly or not at all (`switched_of_orderly`).
-/

namespace RideTheApi.Buffer.Switch

open Transition

universe u v

variable {δ : Type u} {π : Type v}

/-- Where `switch_backend` is. -/
inductive Phase (δ : Type u) (π : Type v) where
  | idle
  /-- On disk, `pending_device_ids` reads one candidate after another. -/
  | listing (candidates found : List δ)
  /-- About to read the first of the devices left. -/
  | devices (rest : List δ)
  /-- Copying the pairs read for `dev`; with none left, about to flush it. -/
  | copying (dev : δ) (entries : List (Entry δ π)) (rest : List δ)
  | succeeded
  | failed
deriving Repr, DecidableEq

/-- The two stores and the switch between them. -/
structure State (δ : Type u) (π : Type v) where
  /-- The old backend is the shared in-memory engine (else one database per device). -/
  oldShared : Bool
  old : Store δ π
  new : Store δ π
  phase : Phase δ π := .idle
  /-- `pairs`: how many pairs this attempt has copied. -/
  pairs : Nat := 0
  /-- Every pair added to the old store since the run began. -/
  added : List (δ × π × Nat) := []
deriving Repr, DecidableEq

/-- One await of the switch, or one arriving pair. -/
inductive Label (δ : Type u) (π : Type v) where
  /-- Start an attempt; `ids` are the ids the device listing returns. -/
  | start (ids : List δ)
  /-- The next await succeeds; a copied row gets this id and sequence. -/
  | proceed (id sequence : Nat)
  /-- The next await raises. -/
  | raise
  /-- A flush commits and its durable statistics raise (old backend in memory). -/
  | raiseAfterFlush
  /-- A pair arrives in the still active old store. -/
  | addPair (id sequence : Nat) (dev : δ) (pair : π) (size : Nat)
deriving Repr, DecidableEq

variable [DecidableEq δ]

/-- A row id not in use in the store for this device. -/
def fresh (s : Store δ π) (d : δ) (id : Nat) : Bool := s.rows.all fun e => e.device != d || e.id != id

/-- What the device listing may return: without duplicates, in memory exactly the devices with unflushed
    rows, on disk every device whose database holds rows (and possibly others). -/
def listingOk (s : State δ π) (ids : List δ) : Bool :=
  decide ids.Nodup &&
    if s.oldShared then
      s.old.rows.all (fun e => e.flushed || ids.contains e.device) &&
        ids.all fun d => !(s.old.getBufferPairs d).isEmpty
    else s.old.rows.all fun e => ids.contains e.device

/-- Start an attempt. -/
def start (s : State δ π) (ids : List δ) : Option (State δ π) :=
  if listingOk s ids then
    some { s with phase := if s.oldShared then .devices ids else .listing ids [], pairs := 0 }
  else none

/-- The next await of the attempt succeeds. -/
def proceed (s : State δ π) (id sequence : Nat) : Option (State δ π) :=
  match s.phase with
  | .listing (d :: ds) found =>
    let found := if (s.old.getBufferPairs d).isEmpty then found else found ++ [d]
    some { s with phase := .listing ds found }
  | .listing [] found => some { s with phase := .devices found }
  | .devices (d :: rest) =>
    match s.old.getBufferPairs d with
    | []      => some { s with phase := .devices rest }
    | e :: es => some { s with phase := .copying d (e :: es) rest }
  | .devices [] => some { s with phase := .succeeded }
  | .copying d (e :: es) rest =>
    if fresh s.new d id then
      let new := s.new.addPair id sequence d e.pair e.size
      some { s with new, phase := .copying d es rest, pairs := s.pairs + 1 }
    else none
  | .copying d [] rest => some { s with old := s.old.flush d, phase := .devices rest }
  | _ => none

/-- The next await of the attempt raises; the exception leaves `switch_backend`. -/
def raise (s : State δ π) : Option (State δ π) :=
  match s.phase with
  | .idle | .failed | .listing (_ :: _) _ | .devices (_ :: _) | .copying _ _ _ =>
    some { s with phase := .failed }
  | _ => none

/-- One step. -/
def step (s : State δ π) : Label δ π → Option (State δ π)
  | .start ids =>
    match s.phase with
    | .idle | .failed => start s ids
    | _ => none
  | .proceed id sequence => proceed s id sequence
  | .raise => raise s
  | .raiseAfterFlush =>
    match s.phase with
    | .copying d [] _ =>
      if s.oldShared then some { s with old := s.old.flush d, phase := .failed } else none
    | _ => none
  | .addPair id sequence d pair size =>
    match s.phase with
    | .succeeded => none
    | _ =>
      if fresh s.old d id then
        let old := s.old.addPair id sequence d pair size
        some { s with old, added := s.added ++ [(d, pair, size)] }
      else none

/-- Two stores before the first attempt. -/
def init (oldShared : Bool) (old new : Store δ π) : State δ π := { oldShared, old, new }

/-! ## Lossless and atomic -/

/-- The pairs added to a device since the run began. -/
def addedTo (log : List (δ × π × Nat)) (d : δ) : Multiset (π × Nat) :=
  ((log.filter fun a => decide (a.1 = d)).map Prod.snd : List (π × Nat))

/-- What the old store held for a device before the first attempt, and what was added to it since. -/
def owned (s₀ s : State δ π) (d : δ) : Multiset (π × Nat) := s₀.old.pending d + addedTo s.added d

/-- After a success the new store holds its previous pairs and exactly those of the old store; after a
    failure both stores hold what they held. -/
def Switched (s₀ s : State δ π) : Prop :=
  (s.phase = .succeeded → ∀ d, s.new.pending d = s₀.new.pending d + owned s₀ s d) ∧
  (s.phase = .failed → ∀ d, s.old.pending d = owned s₀ s d ∧ s.new.pending d = s₀.new.pending d)

/-- The pairs of the device are still to be read by the attempt, or none is running. -/
def willRead (s : State δ π) (d : δ) : Prop :=
  match s.phase with
  | .idle | .failed         => True
  | .listing cands found    => d ∈ cands ∨ d ∈ found
  | .devices rest           => d ∈ rest
  | .copying _ _ rest       => d ∈ rest
  | .succeeded              => False

/-- No failure once a pair was copied, and no pair for a device that was already read. -/
def Orderly (s : State δ π) : Label δ π → Prop
  | .raise | .raiseAfterFlush => s.pairs = 0
  | .addPair _ _ d _ _        => willRead s d
  | _                         => True

instance (s : State δ π) (d : δ) : Decidable (willRead s d) := by
  unfold willRead
  split <;> infer_instance

instance (s : State δ π) (l : Label δ π) : Decidable (Orderly s l) := by
  unfold Orderly
  split <;> infer_instance

/-! ## The invariant -/

/-- The attempt has not touched the device. -/
def Untouched (s₀ s : State δ π) (d : δ) : Prop :=
  s.old.pending d = owned s₀ s d ∧ s.new.pending d = s₀.new.pending d

/-- The pairs of the device were carried over (or it had none). -/
def Moved (s₀ s : State δ π) (d : δ) : Prop :=
  s.old.pending d = 0 ∧ s.new.pending d = s₀.new.pending d + owned s₀ s d ∧
    (s.pairs = 0 → owned s₀ s d = 0)

/-- The device whose pairs are being copied: `done` of them are in the new store. -/
def Halfway (s₀ s : State δ π) (d : δ) (entries : List (Entry δ π)) : Prop :=
  ∃ done, s.old.pending d = owned s₀ s d ∧ owned s₀ s d = done + (entries.map Entry.payload : List _) ∧
    s.new.pending d = s₀.new.pending d + done ∧ (s.pairs = 0 → done = 0)

/-- What holds of every device, by phase. -/
def Inv (s₀ s : State δ π) : Prop :=
  match s.phase with
  | .idle | .failed => ∀ d, Untouched s₀ s d
  | .listing cands found =>
    (found ++ cands).Nodup ∧ s.pairs = 0 ∧
      ∀ d, Untouched s₀ s d ∧ (d ∉ found ++ cands → owned s₀ s d = 0)
  | .devices rest => rest.Nodup ∧ ∀ d, (d ∈ rest → Untouched s₀ s d) ∧ (d ∉ rest → Moved s₀ s d)
  | .copying dev entries rest =>
    (dev :: rest).Nodup ∧ Halfway s₀ s dev entries ∧
      ∀ d, (d ∈ rest → Untouched s₀ s d) ∧ (d ∉ dev :: rest → Moved s₀ s d)
  | .succeeded => ∀ d, s.new.pending d = s₀.new.pending d + owned s₀ s d

section
variable {s₀ s s' : State δ π}

theorem addedTo_append (log : List (δ × π × Nat)) (d d' : δ) (pair : π) (size : Nat) :
    addedTo (log ++ [(d, pair, size)]) d' = addedTo log d' + if d = d' then {(pair, size)} else 0 := by
  simp only [addedTo, List.filter_append, List.map_append, ← Multiset.coe_add]
  congr 1
  by_cases h : d = d' <;> simp [h]

/-- A device that no unflushed row belongs to has nothing pending. -/
theorem pending_eq_zero {st : Store δ π} {d : δ} (h : ∀ e ∈ st.rows, e.device = d → e.flushed = true) :
    st.pending d = 0 := by
  have hnil : st.getBufferPairs d = [] := by
    refine List.eq_nil_iff_forall_not_mem.mpr fun e he => ?_
    obtain ⟨hmem, hd, hf⟩ := Store.mem_getBufferPairs.mp he
    exact absurd (h e hmem hd) (by simp [hf])
  rw [Store.pending, hnil]
  rfl

/-- A device that was never touched and has nothing pending counts as moved. -/
theorem Untouched.moved {d : δ} (h : Untouched s₀ s d) (h0 : s.old.pending d = 0) : Moved s₀ s d := by
  have hz : owned s₀ s d = 0 := h.1 ▸ h0
  exact ⟨h0, by rw [h.2, hz, add_zero], fun _ => hz⟩

/-- Before anything was copied, a moved device is an untouched one that had nothing. -/
theorem Moved.untouched {d : δ} (h : Moved s₀ s d) (h0 : s.pairs = 0) : Untouched s₀ s d := by
  obtain ⟨hold, hnew, hz⟩ := h
  exact ⟨by rw [hold, hz h0], by rw [hnew, hz h0, add_zero]⟩

theorem inv_init (oldShared : Bool) (old new : Store δ π) :
    Inv (init oldShared old new) (init oldShared old new) := by
  intro d
  simp [Untouched, owned, init, addedTo]

/-- The device listing covers every device with something pending. -/
theorem pending_of_listingOk {ids : List δ} (h : listingOk s ids = true) :
    ids.Nodup ∧ ∀ d, d ∉ ids → s.old.pending d = 0 := by
  unfold listingOk at h
  simp only [Bool.and_eq_true, decide_eq_true_eq] at h
  refine ⟨h.1, fun d hd => pending_eq_zero fun e he hed => ?_⟩
  have h2 := h.2
  split at h2
  case isTrue =>
    simp only [Bool.and_eq_true, List.all_eq_true, Bool.or_eq_true] at h2
    rcases h2.1 e he with hf | hc
    · exact hf
    · exact absurd (hed ▸ List.contains_iff_mem.mp hc) hd
  case isFalse =>
    simp only [List.all_eq_true] at h2
    exact absurd (hed ▸ List.contains_iff_mem.mp (h2 e he)) hd

theorem inv_start {ids : List δ} (hall : ∀ d, Untouched s₀ s d) (h : start s ids = some s') :
    Inv s₀ s' := by
  unfold start at h
  split at h
  case isFalse => cases h
  case isTrue hok =>
    cases h
    obtain ⟨hnd, hcov⟩ := pending_of_listingOk hok
    have h0 : ∀ d, d ∉ ids → owned s₀ s d = 0 := fun d hd => (hall d).1 ▸ hcov d hd
    cases hsh : s.oldShared with
    | true =>
      refine ⟨hnd, fun d => ⟨fun _ => hall d, fun hd => ?_⟩⟩
      obtain ⟨hold, hnew, _⟩ := (hall d).moved (hcov d hd)
      exact ⟨hold, hnew, fun _ => h0 d hd⟩
    | false => exact ⟨by simpa using hnd, rfl, fun d => ⟨hall d, fun hd => h0 d (by simpa using hd)⟩⟩

theorem pending_of_getBufferPairs_nil {st : Store δ π} {d : δ} (h : st.getBufferPairs d = []) :
    st.pending d = 0 := by
  rw [Store.pending, h]
  rfl

/-- The read of one candidate. -/
theorem inv_listing {d : δ} {ds found found' : List δ} (hphase : s.phase = .listing (d :: ds) found)
    (hfound : found' = if (s.old.getBufferPairs d).isEmpty then found else found ++ [d])
    (h : Inv s₀ s) : Inv s₀ { s with phase := .listing ds found' } := by
  simp only [Inv, hphase] at h
  obtain ⟨hnd, hpairs, hall⟩ := h
  subst hfound
  cases hempty : (s.old.getBufferPairs d).isEmpty with
  | false =>
    refine ⟨by simpa using hnd, hpairs, fun d' => ⟨(hall d').1, fun hd' => ?_⟩⟩
    exact (hall d').2 (by simpa using hd')
  | true =>
    -- nothing pending for `d`, so dropping it from the list loses nothing
    have hz : owned s₀ s d = 0 :=
      (hall d).1.1 ▸ pending_of_getBufferPairs_nil (List.isEmpty_iff.mp hempty)
    refine ⟨hnd.sublist (by simp), hpairs, fun d' => ⟨(hall d').1, fun hd' => ?_⟩⟩
    by_cases hdd : d' = d
    · exact hdd ▸ hz
    · refine (hall d').2 fun hmem => hd' ?_
      simp only [List.mem_append, List.mem_cons] at hmem ⊢
      rcases hmem with hf | heq | hc
      · exact .inl hf
      · exact absurd heq hdd
      · exact .inr hc

/-- The end of the listing. -/
theorem inv_listed {found : List δ} (hphase : s.phase = .listing [] found) (h : Inv s₀ s) :
    Inv s₀ { s with phase := .devices found } := by
  simp only [Inv, hphase, List.append_nil] at h
  obtain ⟨hnd, _, hall⟩ := h
  refine ⟨hnd, fun d => ⟨fun _ => (hall d).1, fun hd => ?_⟩⟩
  obtain ⟨hun, hz⟩ := hall d
  exact hun.moved (hun.1.trans (hz hd))

/-- The read of a device that has nothing pending. -/
theorem inv_readNone {d : δ} {rest : List δ} (hphase : s.phase = .devices (d :: rest))
    (hread : s.old.getBufferPairs d = []) (h : Inv s₀ s) :
    Inv s₀ { s with phase := .devices rest } := by
  simp only [Inv, hphase] at h
  obtain ⟨hnd, hall⟩ := h
  refine ⟨hnd.of_cons, fun d' => ⟨fun hd' => (hall d').1 (List.mem_cons_of_mem _ hd'), fun hd' => ?_⟩⟩
  by_cases hdd : d' = d
  · subst hdd
    exact ((hall d').1 List.mem_cons_self).moved (pending_of_getBufferPairs_nil hread)
  · exact (hall d').2 (by simp [hdd, hd'])

/-- The read of a device that has pending pairs. -/
theorem inv_readSome {d : δ} {rest : List δ} (hphase : s.phase = .devices (d :: rest)) (h : Inv s₀ s) :
    Inv s₀ { s with phase := .copying d (s.old.getBufferPairs d) rest } := by
  simp only [Inv, hphase] at h
  obtain ⟨hnd, hall⟩ := h
  obtain ⟨hold, hnew⟩ := (hall d).1 List.mem_cons_self
  refine ⟨hnd, ⟨0, hold, ?_, by rw [add_zero]; exact hnew, fun _ => rfl⟩, fun d' =>
    ⟨fun hd' => (hall d').1 (List.mem_cons_of_mem _ hd'), (hall d').2⟩⟩
  rw [zero_add]
  exact hold.symm

/-- The copy of one pair. -/
theorem inv_copy {d : δ} {e : Entry δ π} {es : List (Entry δ π)} {rest : List δ} (id sequence : Nat)
    (hphase : s.phase = .copying d (e :: es) rest) (h : Inv s₀ s) :
    Inv s₀ { s with new := s.new.addPair id sequence d e.pair e.size, phase := .copying d es rest,
                    pairs := s.pairs + 1 } := by
  simp only [Inv, hphase] at h
  obtain ⟨hnd, ⟨done, hold, hown, hnew, _⟩, hall⟩ := h
  have hother : ∀ d', d' ≠ d →
      (s.new.addPair id sequence d e.pair e.size).pending d' = s.new.pending d' := by
    intro d' hd'
    rw [Store.pending_addPair, if_neg (Ne.symm hd'), add_zero]
  refine ⟨hnd, ⟨done + {e.payload}, hold, ?_, ?_, fun hp => absurd hp (Nat.succ_ne_zero _)⟩, fun d' => ⟨?_, ?_⟩⟩
  · calc owned s₀ s d = done + (e.payload ::ₘ (es.map Entry.payload : List _)) := hown
      _ = done + {e.payload} + (es.map Entry.payload : List _) := by
        rw [← Multiset.singleton_add, add_assoc]
  · simp only [Store.pending_addPair, if_true, hnew]
    rw [add_assoc]
    rfl
  · intro hd'
    have hne : d' ≠ d := fun heq => (List.nodup_cons.mp hnd).1 (heq ▸ hd')
    obtain ⟨hold', hnew'⟩ := (hall d').1 hd'
    exact ⟨hold', (hother d' hne).trans hnew'⟩
  · intro hd'
    have hne : d' ≠ d := fun heq => hd' (heq ▸ List.mem_cons_self)
    obtain ⟨hold', hnew', _⟩ := (hall d').2 hd'
    exact ⟨hold', (hother d' hne).trans hnew', fun hp => absurd hp (Nat.succ_ne_zero _)⟩

/-- The flush of a device whose pairs are all copied. -/
theorem inv_flush {d : δ} {rest : List δ} (hphase : s.phase = .copying d [] rest) (h : Inv s₀ s) :
    Inv s₀ { s with old := s.old.flush d, phase := .devices rest } := by
  simp only [Inv, hphase] at h
  obtain ⟨hnd, ⟨done, _, hown, hnew, hz⟩, hall⟩ := h
  have hdone : owned s₀ s d = done := hown.trans (add_zero done)
  have hother : ∀ d', d' ≠ d → (s.old.flush d).pending d' = s.old.pending d' :=
    fun d' hd' => Store.pending_flush_of_ne (Ne.symm hd')
  refine ⟨hnd.of_cons, fun d' => ⟨fun hd' => ?_, fun hd' => ?_⟩⟩
  · have hne : d' ≠ d := fun heq => (List.nodup_cons.mp hnd).1 (heq ▸ hd')
    obtain ⟨hold', hnew'⟩ := (hall d').1 hd'
    exact ⟨(hother d' hne).trans hold', hnew'⟩
  · by_cases hdd : d' = d
    · subst hdd
      exact ⟨Store.pending_flush_self, hdone ▸ hnew, fun hp => hdone.trans (hz hp)⟩
    · obtain ⟨hold', hnew', hz'⟩ := (hall d').2 (by simp [hdd, hd'])
      exact ⟨(hother d' hdd).trans hold', hnew', hz'⟩

/-- A successful await keeps the invariant. -/
theorem inv_proceed {id sequence : Nat} (h : Inv s₀ s) (hs : proceed s id sequence = some s') :
    Inv s₀ s' := by
  unfold proceed at hs
  split at hs
  next d ds found hphase =>
    cases hs
    exact inv_listing hphase rfl h
  next found hphase =>
    cases hs
    exact inv_listed hphase h
  next d rest hphase =>
    split at hs
    next hread =>
      cases hs
      exact inv_readNone hphase hread h
    next e es hread =>
      cases hs
      exact hread ▸ inv_readSome hphase h
  next hphase =>
    cases hs
    simp only [Inv, hphase] at h
    exact fun d => ((h.2 d).2 (by simp)).2.1
  next d e es rest hphase =>
    split at hs
    next =>
      cases hs
      exact inv_copy id sequence hphase h
    next => cases hs
  next d rest hphase =>
    cases hs
    exact inv_flush hphase h
  next => cases hs

/-- Before a pair was copied, every device is untouched, whatever the attempt was doing. -/
theorem untouched_of_pairs_zero (h : Inv s₀ s) (h0 : s.pairs = 0) (hns : s.phase ≠ .succeeded) (d : δ) :
    Untouched s₀ s d := by
  unfold Inv at h
  split at h
  next => exact h d
  next => exact h d
  next => exact (h.2.2 d).1
  next rest _ =>
    by_cases hd : d ∈ rest
    · exact (h.2 d).1 hd
    · exact ((h.2 d).2 hd).untouched h0
  next dev entries rest _ =>
    obtain ⟨_, ⟨done, hold, _, hnew, hz⟩, hall⟩ := h
    by_cases hdev : d = dev
    · subst hdev
      exact ⟨hold, by rw [hnew, hz h0, add_zero]⟩
    · by_cases hd : d ∈ rest
      · exact (hall d).1 hd
      · exact ((hall d).2 (by simp [hdev, hd])).untouched h0
  next hphase => exact absurd hphase hns

/-- A failure before the first copy keeps the invariant. -/
theorem inv_raise (h : Inv s₀ s) (h0 : s.pairs = 0) (hs : raise s = some s') : Inv s₀ s' := by
  unfold raise at hs
  split at hs <;> cases hs
  all_goals
    intro d
    exact untouched_of_pairs_zero h h0 (by simp [*]) d

/-! ## Arriving pairs -/

/-- The state after a pair arrived. -/
def arrive (s : State δ π) (id sequence : Nat) (d : δ) (pair : π) (size : Nat) : State δ π :=
  let old := s.old.addPair id sequence d pair size
  { s with old, added := s.added ++ [(d, pair, size)] }

theorem owned_arrive (id sequence : Nat) (d d' : δ) (pair : π) (size : Nat) :
    owned s₀ (arrive s id sequence d pair size) d' =
      owned s₀ s d' + if d = d' then {(pair, size)} else 0 := by
  rw [owned, arrive, addedTo_append, ← add_assoc]
  rfl

/-- An untouched device stays so: a pair that arrives for it is pending and owned. -/
theorem Untouched.arrive {d' : δ} (h : Untouched s₀ s d') (id sequence : Nat) (d : δ) (pair : π)
    (size : Nat) : Untouched s₀ (arrive s id sequence d pair size) d' := by
  refine ⟨?_, h.2⟩
  rw [owned_arrive, ← h.1]
  exact Store.pending_addPair id sequence pair size

/-- A pair that arrives for one device says nothing about another. -/
theorem arrive_of_ne (s₀ s : State δ π) (id sequence : Nat) {d d' : δ} (pair : π) (size : Nat) (hne : d' ≠ d) :
    (arrive s id sequence d pair size).old.pending d' = s.old.pending d' ∧
      owned s₀ (arrive s id sequence d pair size) d' = owned s₀ s d' := by
  constructor
  · refine (Store.pending_addPair id sequence pair size).trans ?_
    rw [if_neg (Ne.symm hne), add_zero]
  · rw [owned_arrive, if_neg (Ne.symm hne), add_zero]

theorem Moved.arrive {d d' : δ} (h : Moved s₀ s d') (hne : d' ≠ d) (id sequence : Nat) (pair : π)
    (size : Nat) : Moved s₀ (arrive s id sequence d pair size) d' := by
  obtain ⟨hold, hown⟩ := arrive_of_ne s₀ s id sequence pair size hne
  obtain ⟨h1, h2, h3⟩ := h
  exact ⟨hold.trans h1, hown ▸ h2, fun hp => hown.trans (h3 hp)⟩

/-- A pair that arrives for a device still to be read keeps the invariant. -/
theorem inv_arrive {d : δ} (id sequence : Nat) (pair : π) (size : Nat) (h : Inv s₀ s)
    (hread : willRead s d) : Inv s₀ (arrive s id sequence d pair size) := by
  have hphase' : (arrive s id sequence d pair size).phase = s.phase := rfl
  unfold Inv at h ⊢
  unfold willRead at hread
  rw [hphase']
  cases hphase : s.phase with
  | idle =>
    simp only [hphase] at h
    exact fun d' => (h d').arrive id sequence d pair size
  | failed =>
    simp only [hphase] at h
    exact fun d' => (h d').arrive id sequence d pair size
  | listing cands found =>
    simp only [hphase] at h hread
    obtain ⟨hnd, hpairs, hall⟩ := h
    refine ⟨hnd, hpairs, fun d' => ⟨(hall d').1.arrive id sequence d pair size, fun hd' => ?_⟩⟩
    have hne : d' ≠ d := by
      rintro rfl
      exact hd' (List.mem_append.mpr hread.symm)
    exact (arrive_of_ne s₀ s id sequence pair size hne).2.trans ((hall d').2 hd')
  | devices rest =>
    simp only [hphase] at h hread
    obtain ⟨hnd, hall⟩ := h
    refine ⟨hnd, fun d' => ⟨fun hd' => ((hall d').1 hd').arrive id sequence d pair size, fun hd' => ?_⟩⟩
    exact ((hall d').2 hd').arrive (fun heq => hd' (heq ▸ hread)) id sequence pair size
  | copying dev entries rest =>
    simp only [hphase] at h hread
    obtain ⟨hnd, ⟨done, hold, hown, hnew, hz⟩, hall⟩ := h
    have hdev : dev ≠ d := fun heq => (List.nodup_cons.mp hnd).1 (heq ▸ hread)
    obtain ⟨holdA, hownA⟩ := arrive_of_ne s₀ s id sequence pair size hdev
    refine ⟨hnd, ⟨done, ?_, hownA.trans hown, hnew, hz⟩, fun d' => ⟨fun hd' => ?_, fun hd' => ?_⟩⟩
    · rw [holdA, hownA, hold]
    · exact ((hall d').1 hd').arrive id sequence d pair size
    · exact ((hall d').2 hd').arrive (fun heq => hd' (heq ▸ List.mem_cons_of_mem _ hread))
        id sequence pair size
  | succeeded =>
    simp only [hphase] at hread

/-! ## The run -/

/-- A device about to be flushed had nothing pending if nothing was copied. -/
theorem pending_zero_of_uncopied {d : δ} {rest : List δ} (h : Inv s₀ s) (hphase : s.phase = .copying d [] rest)
    (h0 : s.pairs = 0) : s.old.pending d = 0 := by
  simp only [Inv, hphase] at h
  obtain ⟨_, ⟨done, hold, hown, _, hz⟩, _⟩ := h
  rw [hold, hown, hz h0]
  rfl

/-- **Every orderly step keeps the invariant.** -/
theorem inv_step {l : Label δ π} (h : Inv s₀ s) (hok : Orderly s l) (hs : step s l = some s') :
    Inv s₀ s' := by
  cases l with
  | start ids =>
    simp only [step] at hs
    split at hs
    next hphase =>
      simp only [Inv, hphase] at h
      exact inv_start h hs
    next hphase =>
      simp only [Inv, hphase] at h
      exact inv_start h hs
    next => cases hs
  | proceed id sequence => exact inv_proceed h hs
  | raise => exact inv_raise h hok hs
  | raiseAfterFlush =>
    simp only [step] at hs
    split at hs
    next d rest hphase =>
      split at hs
      next =>
        cases hs
        intro d'
        have hun := untouched_of_pairs_zero h hok (by simp [hphase]) d'
        by_cases hd : d' = d
        · -- nothing was copied, so the flush had nothing to mark
          subst hd
          have hz := pending_zero_of_uncopied h hphase hok
          exact ⟨Store.pending_flush_self.trans (hun.1 ▸ hz.symm), hun.2⟩
        · exact ⟨(Store.pending_flush_of_ne (Ne.symm hd)).trans hun.1, hun.2⟩
      next => cases hs
    next => cases hs
  | addPair id sequence d pair size =>
    simp only [step] at hs
    split at hs
    next => cases hs
    next =>
      split at hs
      next =>
        cases hs
        exact inv_arrive id sequence pair size h hok
      next => cases hs

end

/-- What the invariant says at the end of an attempt. -/
theorem Inv.switched {s₀ s : State δ π} (h : Inv s₀ s) : Switched s₀ s := by
  constructor
  · intro hphase
    simp only [Inv, hphase] at h
    exact h
  · intro hphase
    simp only [Inv, hphase] at h
    exact h

/-- **An orderly switch is lossless and atomic**: in every run that starts with any two stores and has no
    failure after a copy and no pair for a device that was already read, every state reached after a
    success carried exactly the old store's pairs over, and every state reached after a failure has both
    stores as they were, so a later attempt duplicates none. -/
theorem switched_of_orderly {oldShared : Bool} {old new : Store δ π} {s : State δ π}
    (h : ReachesUnder step Orderly (init oldShared old new) s) :
    Switched (init oldShared old new) s :=
  Inv.switched (h.invariant (inv_init oldShared old new) fun _ _ _ hi hok hs => inv_step hi hok hs)

/-! ## Two devices -/

/-- Two cameras with one pending pair each, on disk. -/
def twoCameras : Store String String where
  rows := [{ id := 1, device := "porch", pair := "GET /status", size := 40, sequence := 0 },
           { id := 1, device := "gate", pair := "GET /snapshot", size := 60, sequence := 0 }]

/-- A failed attempt, a pair that arrives, and a retry that carries everything over. -/
def retriedSwitch : List (Label String String) :=
  [.start ["porch", "gate"], .proceed 0 0, .raise, .start ["porch", "gate"], .proceed 0 0, .proceed 0 0,
   .proceed 0 0, .addPair 2 1 "gate" "GET /motion" 50, .proceed 0 0, .proceed 1 0, .proceed 0 0,
   .proceed 0 0, .proceed 2 0, .proceed 3 1, .proceed 0 0, .proceed 0 0]

/-- The state it ends in. -/
def retriedSwitchEnd : State String String :=
  (exec step (init false twoCameras {}) retriedSwitch).getD (init false twoCameras {})

theorem retriedSwitch_switched : Switched (init false twoCameras {}) retriedSwitchEnd :=
  switched_of_orderly (reachesUnder_of_exec .start retriedSwitch (by decide) (by decide))

/-- The first device is copied and flushed, then the read of the second one raises. -/
def interruptedSwitch : List (Label String String) :=
  [.start ["porch", "gate"], .proceed 0 0, .proceed 0 0, .proceed 0 0, .proceed 0 0, .proceed 1 0,
   .proceed 0 0, .raise]

/-- The state it ends in. -/
def interruptedSwitchEnd : State String String :=
  (exec step (init false twoCameras {}) interruptedSwitch).getD (init false twoCameras {})

/-- A failed switch can leave the still active store without a pair it had. -/
theorem interruptedSwitch_loses :
    ¬ ∀ (oldShared : Bool) (old new : Store String String) (s : State String String),
      Reaches step (init oldShared old new) s → Switched (init oldShared old new) s := by
  intro h
  have hreach : Reaches step (init false twoCameras {}) interruptedSwitchEnd :=
    reaches_of_exec interruptedSwitch (by decide)
  have hold := ((h false twoCameras {} interruptedSwitchEnd hreach).2 (by decide) "porch").1
  exact absurd hold (by decide)

end RideTheApi.Buffer.Switch
