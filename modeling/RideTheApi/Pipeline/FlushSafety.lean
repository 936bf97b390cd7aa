import Mathlib.Data.List.Pairwise
import RideTheApi.Pipeline.Flush

/-!
# `Pipeline.FlushSafety` — a flush marks exactly what it learned

The invariant has two halves. About the stores: an unflushed pair is listed once per store, and by at
most one of the two stores while no copy of its device is under way (`SwitchInv`). About a running call:
among the unflushed rows of its device, the ids it will mark are those of the pairs it sent (`Sent`), and
after the UPDATE none of those pairs is unflushed (`Learnt`).
-/

namespace RideTheApi.Flush

open Buffer Transition

universe u v

variable {δ : Type u} {π : Type v}

/-! ## Stores -/

/-- Two unflushed rows of a device hold different pairs. -/
def Distinct (e e' : Entry δ π) : Prop :=
  e.flushed = false → e'.flushed = false → e.device = e'.device → e.pair ≠ e'.pair

/-- An unflushed pair of a device is listed once. -/
def DistinctPairs (st : Store δ π) : Prop := st.rows.Pairwise Distinct

/-- No pair of the device is unflushed in both stores. -/
def DisjointAt (st st' : Store δ π) (d : δ) : Prop :=
  ∀ e ∈ st.rows, ∀ e' ∈ st'.rows, e.flushed = false → e'.flushed = false → e.device = d →
    e'.device = d → e.pair ≠ e'.pair

/-- `e` has a row in the store, flushed or not. -/
def Stored (st : Store δ π) (d : δ) (e : Entry δ π) : Prop :=
  ∃ e' ∈ st.rows, e'.device = d ∧ e'.id = e.id ∧ e'.pair = e.pair

section
variable {st st' : Store δ π} {d : δ} {e : Entry δ π} {p : Entry δ π → Bool}

theorem distinct_symm : Std.Symm (Distinct : Entry δ π → Entry δ π → Prop) :=
  ⟨fun _ _ h hf hf' hd heq => h hf' hf hd.symm heq.symm⟩

/-- Two unflushed rows of a device with one pair are one row. -/
theorem DistinctPairs.eq {e' : Entry δ π} (h : DistinctPairs st) (he : e ∈ st.rows) (he' : e' ∈ st.rows)
    (hf : e.flushed = false) (hf' : e'.flushed = false) (hd : e.device = e'.device)
    (hpair : e.pair = e'.pair) : e = e' := by
  by_contra hne
  have hsymm : Std.Symm (Distinct : Entry δ π → Entry δ π → Prop) := distinct_symm
  exact h.forall he he' hne hf hf' hd hpair

/-- Marking adds no unflushed row. -/
theorem mem_of_mem_mark (h : e ∈ (st.mark p).rows) (hf : e.flushed = false) : e ∈ st.rows ∧ p e = false := by
  obtain ⟨e', he', rfl⟩ := List.mem_map.mp h
  by_cases hp : p e' = true
  · simp [hp] at hf
  · rw [if_neg hp]
    exact ⟨he', by simpa using hp⟩

theorem DistinctPairs.mark (h : DistinctPairs st) : DistinctPairs (st.mark p) := by
  refine List.pairwise_map.mpr (h.imp fun hR => ?_)
  intro hf hf' hd
  split at hf
  case isTrue => simp at hf
  case isFalse =>
    split at hf'
    case isTrue => simp at hf'
    case isFalse => simpa [*] using hR hf hf' (by simpa [*] using hd)

theorem DisjointAt.mark_left (h : DisjointAt st st' d) : DisjointAt (st.mark p) st' d :=
  fun e he e' he' hf => h e (mem_of_mem_mark he hf).1 e' he' hf

theorem DisjointAt.symm (h : DisjointAt st st' d) : DisjointAt st' st d :=
  fun e he e' he' hf hf' hd hd' heq => h e' he' e he hf' hf hd' hd heq.symm

theorem Stored.mark (h : Stored st d e) : Stored (st.mark p) d e := by
  obtain ⟨e', he', hd, hid, hpair⟩ := h
  refine ⟨_, List.mem_map.mpr ⟨e', he', rfl⟩, ?_⟩
  split <;> exact ⟨hd, hid, hpair⟩

/-- A flushed device has nothing in common with the other store. -/
theorem disjointAt_flush [DecidableEq δ] : DisjointAt (st.flush d) st' d := by
  intro e he e' _ hf _ hd
  have hnot := (mem_of_mem_mark he hf).2
  simp [Store.unflushed, hd, hf] at hnot

variable {id sequence size : Nat} {dev : δ} {pair : π}

theorem mem_addPair : e ∈ (st.addPair id sequence dev pair size).rows ↔
    e ∈ st.rows ∨ e = { id, device := dev, pair, size, sequence } := by
  simp [Store.addPair]

theorem Stored.addPair (h : Stored st d e) : Stored (st.addPair id sequence dev pair size) d e := by
  obtain ⟨e', he', hrest⟩ := h
  exact ⟨e', mem_addPair.mpr (.inl he'), hrest⟩

/-- A pair that is not unflushed for its device yet may be added. -/
theorem DistinctPairs.addPair (h : DistinctPairs st)
    (hnew : ∀ e ∈ st.rows, e.flushed = false → e.device = dev → e.pair ≠ pair) :
    DistinctPairs (st.addPair id sequence dev pair size) := by
  refine List.pairwise_append.mpr ⟨h, List.pairwise_singleton _ _, fun e he e' he' => ?_⟩
  rw [List.mem_singleton.mp he']
  exact fun hf _ hd => hnew e he hf hd

theorem DisjointAt.addPair_left (h : DisjointAt st st' d)
    (hnew : ∀ e ∈ st'.rows, e.flushed = false → e.device = dev → dev = d → e.pair ≠ pair) :
    DisjointAt (st.addPair id sequence dev pair size) st' d := by
  intro e he e' he' hf hf' hd hd'
  rcases mem_addPair.mp he with he | rfl
  · exact h e he e' he' hf hf' hd hd'
  · exact fun heq => hnew e' he' hf' (hd'.trans hd.symm) hd heq.symm

end

/-- The pairs a reader of the buffer sees are distinct. -/
theorem DistinctPairs.nodup_getBufferPairs [DecidableEq δ] {st : Store δ π} (h : DistinctPairs st) (d : δ) :
    ((st.getBufferPairs d).map Entry.pair).Nodup := by
  have hread : ((st.rows.filter (Store.unflushed d)).map Entry.pair).Nodup := by
    refine List.pairwise_map.mpr (List.Pairwise.imp_of_mem ?_ (h.filter _))
    intro e e' he he' hR
    simp only [List.mem_filter, Store.unflushed, Bool.and_eq_true, decide_eq_true_eq,
      Bool.not_eq_true'] at he he'
    exact hR he.2.2 he'.2.2 (he.2.1.trans he'.2.1.symm)
  exact (((List.perm_insertionSort _ _).map Entry.pair).nodup_iff).mpr hread

/-! ## The switch -/

/-- What a switch keeps true of the two stores. While it copies a device, the pairs still to be copied
    are distinct, come from the old store, and are not in the new one. -/
structure SwitchInv (sw : Switch.State δ π) : Prop where
  old : DistinctPairs sw.old
  new : DistinctPairs sw.new
  apart : ∀ d, (∀ entries rest, sw.phase ≠ .copying d entries rest) → DisjointAt sw.old sw.new d
  copying : ∀ d entries rest, sw.phase = .copying d entries rest →
    (entries.map Entry.pair).Nodup ∧ ∀ e ∈ entries, (∃ e' ∈ sw.old.rows, e'.pair = e.pair) ∧
      ∀ e' ∈ sw.new.rows, e'.flushed = false → e'.device = d → e'.pair ≠ e.pair

section
variable {sw sw' : Switch.State δ π}

theorem switchInv_init (memory : Bool) : SwitchInv (Switch.init memory {} {} : Switch.State δ π) := by
  constructor <;> simp [Switch.init, DistinctPairs, DisjointAt]

/-- A phase in which nothing is copied, with the stores as they are. -/
theorem SwitchInv.setPhase (h : SwitchInv sw) (hapart : ∀ d, DisjointAt sw.old sw.new d)
    {phase : Switch.Phase δ π} (hphase : ∀ d entries rest, phase ≠ .copying d entries rest) (pairs : Nat) :
    SwitchInv { sw with phase, pairs } :=
  ⟨h.old, h.new, fun d _ => hapart d, fun d es rest hc => absurd hc (hphase d es rest)⟩

/-- The pairs read for a device: distinct, and not in the new store. -/
theorem SwitchInv.read [DecidableEq δ] (h : SwitchInv sw) {d : δ} {rest rest' : List δ} (hphase : sw.phase = .devices rest') :
    SwitchInv { sw with phase := .copying d (sw.old.getBufferPairs d) rest } := by
  have hapart : ∀ d', DisjointAt sw.old sw.new d' := fun d' => h.apart d' (by simp [hphase])
  refine ⟨h.old, h.new, fun d' _ => hapart d', ?_⟩
  rintro d' es rest'' hc
  cases hc
  refine ⟨h.old.nodup_getBufferPairs d, ?_⟩
  · intro e he
    obtain ⟨hmem, hd, hf⟩ := Store.mem_getBufferPairs.mp he
    exact ⟨⟨e, hmem, rfl⟩, fun e' he' hf' hd' heq => hapart d e hmem e' he' hf hf' hd hd' heq.symm⟩

/-- The copy of one pair. -/
theorem SwitchInv.copy (h : SwitchInv sw) {d : δ} {e : Entry δ π} {es : List (Entry δ π)} {rest : List δ}
    (hphase : sw.phase = .copying d (e :: es) rest) (id sequence pairs : Nat) :
    SwitchInv { sw with new := sw.new.addPair id sequence d e.pair e.size, phase := .copying d es rest,
                        pairs } := by
  obtain ⟨hnd, hes⟩ := h.copying d (e :: es) rest hphase
  have hnew := (hes e List.mem_cons_self).2
  refine ⟨h.old, h.new.addPair fun e' he' hf' hd' => hnew e' he' hf' hd', fun d' hd' => ?_, ?_⟩
  · -- another device's pairs are where they were
    have hne : d ≠ d' := fun heq => hd' es rest (by rw [heq])
    have hap : DisjointAt sw.old sw.new d' := h.apart d' (by
      intro es' rest' hc
      rw [hphase] at hc
      cases hc
      exact hne rfl)
    exact (hap.symm.addPair_left fun _ _ _ _ heq => absurd heq hne).symm
  · rintro d' es' rest' hc
    cases hc
    rw [List.map_cons, List.nodup_cons] at hnd
    refine ⟨hnd.2, fun e₁ he₁ => ⟨(hes e₁ (List.mem_cons_of_mem _ he₁)).1, fun e' he' hf' hd'' => ?_⟩⟩
    rcases mem_addPair.mp he' with he' | rfl
    · exact (hes e₁ (List.mem_cons_of_mem _ he₁)).2 e' he' hf' hd''
    · exact fun heq => hnd.1 (List.mem_map.mpr ⟨e₁, he₁, heq.symm⟩)

/-- The flush of a copied device. -/
theorem SwitchInv.flush [DecidableEq δ] (h : SwitchInv sw) {d : δ} {rest : List δ}
    (hphase : sw.phase = .copying d [] rest) :
    SwitchInv { sw with old := sw.old.flush d, phase := .devices rest } := by
  refine ⟨h.old.mark, h.new, fun d' _ => ?_, fun d' es rest' hc => by cases hc⟩
  by_cases hd : d' = d
  · exact hd ▸ disjointAt_flush
  · refine (h.apart d' fun es rest' hc => ?_).mark_left
    rw [hphase] at hc
    cases hc
    exact hd rfl

/-- **Every step of a switch keeps the stores apart.** -/
theorem SwitchInv.proceed [DecidableEq δ] (h : SwitchInv sw) {id sequence : Nat}
    (hs : Switch.proceed sw id sequence = some sw') : SwitchInv sw' := by
  unfold Switch.proceed at hs
  split at hs
  next hphase =>
    cases hs
    exact h.setPhase (fun d => h.apart d (by simp [hphase])) (by simp) _
  next hphase =>
    cases hs
    exact h.setPhase (fun d => h.apart d (by simp [hphase])) (by simp) _
  next d rest hphase =>
    split at hs
    next =>
      cases hs
      exact h.setPhase (fun d => h.apart d (by simp [hphase])) (by simp) _
    next hread =>
      cases hs
      exact hread ▸ h.read hphase
  next hphase =>
    cases hs
    exact h.setPhase (fun d => h.apart d (by simp [hphase])) (by simp) _
  next d e es rest hphase =>
    split at hs
    next =>
      cases hs
      exact h.copy hphase id sequence _
    next => cases hs
  next d rest hphase =>
    cases hs
    exact h.flush hphase
  next => cases hs

/-- A switch that starts finds the stores apart. -/
theorem SwitchInv.start [DecidableEq δ] (h : SwitchInv sw) {ids : List δ}
    (hs : Switch.step sw (.start ids) = some sw') : SwitchInv sw' ∧ sw'.old = sw.old ∧
      sw'.oldShared = sw.oldShared := by
  have hstart : ∀ {sw'}, (∀ d, DisjointAt sw.old sw.new d) → Switch.start sw ids = some sw' →
      SwitchInv sw' ∧ sw'.old = sw.old ∧ sw'.oldShared = sw.oldShared := by
    intro sw' hap hs
    unfold Switch.start at hs
    split at hs
    case isTrue =>
      cases hs
      refine ⟨h.setPhase hap ?_ 0, rfl, rfl⟩
      split <;> simp
    case isFalse => cases hs
  simp only [Switch.step] at hs
  split at hs
  next hphase => exact hstart (fun d => h.apart d (by simp [hphase])) hs
  next hphase => exact hstart (fun d => h.apart d (by simp [hphase])) hs
  next => cases hs

/-- Once through, the two stores change roles. -/
theorem SwitchInv.rebind (h : SwitchInv sw) : SwitchInv (rebind sw) := by
  unfold Flush.rebind
  split
  next hphase =>
    refine ⟨h.new, h.old, fun d _ => (h.apart d (by simp [hphase])).symm, ?_⟩
    intro d es rest hc
    cases hc
  next => exact h

/-- A pair nobody has seen may arrive in either store. -/
theorem SwitchInv.arrive (h : SwitchInv sw) {pair : π} (hold : ∀ e ∈ sw.old.rows, e.pair ≠ pair)
    (hnew : ∀ e ∈ sw.new.rows, e.pair ≠ pair) (id sequence : Nat) (d : δ) (size : Nat) :
    SwitchInv { sw with old := sw.old.addPair id sequence d pair size } ∧
      SwitchInv { sw with new := sw.new.addPair id sequence d pair size } := by
  constructor
  · refine ⟨h.old.addPair fun e he _ _ => hold e he, h.new,
      fun d' hd' => (h.apart d' hd').addPair_left fun e he _ _ _ => hnew e he, ?_⟩
    intro d' es rest hc
    obtain ⟨hnd, hes⟩ := h.copying d' es rest hc
    refine ⟨hnd, fun e he => ?_⟩
    obtain ⟨⟨e', he', heq⟩, hfresh⟩ := hes e he
    exact ⟨⟨e', mem_addPair.mpr (.inl he'), heq⟩, hfresh⟩
  · refine ⟨h.old, h.new.addPair fun e he _ _ => hnew e he,
      fun d' hd' => ((h.apart d' hd').symm.addPair_left fun e he _ _ _ => hold e he).symm, ?_⟩
    intro d' es rest hc
    obtain ⟨hnd, hes⟩ := h.copying d' es rest hc
    refine ⟨hnd, fun e he => ⟨(hes e he).1, fun e' he' hf' hd' => ?_⟩⟩
    rcases mem_addPair.mp he' with he' | rfl
    · exact (hes e he).2 e' he' hf' hd'
    · -- the pair still to be copied is in the old store, the arriving one is not
      obtain ⟨e₀, he₀, heq⟩ := (hes e he).1
      exact fun h' => hold e₀ he₀ (heq.trans h'.symm)

/-- Marking rows of the active store keeps the stores apart. -/
theorem SwitchInv.mark (h : SwitchInv sw) (p : Entry δ π → Bool) :
    SwitchInv { sw with old := sw.old.mark p } := by
  refine ⟨h.old.mark, h.new, fun d hd => (h.apart d hd).mark_left, ?_⟩
  intro d es rest hc
  obtain ⟨hnd, hes⟩ := h.copying d es rest hc
  refine ⟨hnd, fun e he => ⟨?_, (hes e he).2⟩⟩
  obtain ⟨e', he', heq⟩ := (hes e he).1
  refine ⟨_, List.mem_map.mpr ⟨e', he', rfl⟩, ?_⟩
  split <;> exact heq

end

/-! ## A call -/

/-- A call past its read: its pairs are rows of the active store, and among the unflushed rows of its
    device the ids it will mark are those of its pairs. -/
def Sent (st : Store δ π) (c : Cycle δ π) (context : List (Entry δ π)) : Prop :=
  (∀ e ∈ context, Stored st c.device e) ∧
    ∀ e ∈ st.rows, e.device = c.device → e.flushed = false →
      (e.id ∈ c.analysedIds context ↔ among e context)

/-- A call past its update: none of its pairs is unflushed in the active store. -/
def Learnt (st : Store δ π) (c : Cycle δ π) (context : List (Entry δ π)) : Prop :=
  (∀ e ∈ context, Stored st c.device e) ∧
    ∀ e ∈ st.rows, e.device = c.device → e.flushed = false → ¬ among e context

/-- What holds of a call while `st` is the active store. -/
def CycleInv (st : Store δ π) (memory : Bool) (c : Cycle δ π) : Prop :=
  match c.pc with
  | .queued => True
  | .reading backend => backend = memory
  | .analysing context => Sent st c context
  | .marking context backend => backend = memory ∧ Sent st c context
  | .marked context marked => (∀ e ∈ marked, among e context) ∧ Learnt st c context
  | .learned context marked remaining =>
    (∀ e ∈ marked, among e context) ∧ ∀ e ∈ remaining, ¬ among e context
  | .failed context marked => ∀ e ∈ marked, among e context

section
variable {st : Store δ π} {memory : Bool} {c : Cycle δ π} {context : List (Entry δ π)}

theorem Sent.mark (h : Sent st c context) (p : Entry δ π → Bool) : Sent (st.mark p) c context :=
  ⟨fun e he => (h.1 e he).mark, fun e he hd hf => h.2 e (mem_of_mem_mark he hf).1 hd hf⟩

theorem Learnt.mark (h : Learnt st c context) (p : Entry δ π → Bool) : Learnt (st.mark p) c context :=
  ⟨fun e he => (h.1 e he).mark, fun e he hd hf => h.2 e (mem_of_mem_mark he hf).1 hd hf⟩

/-- Marking rows of the active store keeps what holds of a call. -/
theorem CycleInv.mark (h : CycleInv st memory c) (p : Entry δ π → Bool) : CycleInv (st.mark p) memory c := by
  unfold CycleInv at h ⊢
  split <;> simp only [*] at h
  · trivial
  · exact h
  · exact h.mark p
  · exact ⟨h.1, h.2.mark p⟩
  · exact ⟨h.1, h.2.mark p⟩
  · exact h
  · exact h

/-- A pair nobody has seen is not among the pairs of a call. -/
theorem not_among_new {d : δ} {pair : π} {id sequence size : Nat} {dev : δ}
    (hstored : ∀ e ∈ context, Stored st d e) (hnew : ∀ e ∈ st.rows, e.pair ≠ pair) :
    ¬ among { id, device := dev, pair, size, sequence } context := by
  rintro ⟨e, he, heq⟩
  obtain ⟨e', he', _, _, hpair⟩ := hstored e he
  exact hnew e' he' (hpair.trans heq)

variable {id sequence size : Nat} {dev : δ} {pair : π}

theorem Learnt.addPair (h : Learnt st c context) (hnew : ∀ e ∈ st.rows, e.pair ≠ pair) :
    Learnt (st.addPair id sequence dev pair size) c context := by
  refine ⟨fun e he => (h.1 e he).addPair, fun e he hd hf => ?_⟩
  rcases mem_addPair.mp he with he | rfl
  · exact h.2 e he hd hf
  · exact not_among_new h.1 hnew

/-- A new pair that gets no id the call will mark keeps what the call will mark. -/
theorem Sent.addPair [DecidableEq δ] (h : Sent st c context) (hnew : ∀ e ∈ st.rows, e.pair ≠ pair)
    (hfresh : Switch.fresh st dev id = true)
    (hids : c.device = dev → id ∉ c.pairIds.getD []) :
    Sent (st.addPair id sequence dev pair size) c context := by
  refine ⟨fun e he => (h.1 e he).addPair, fun e he hd hf => ?_⟩
  rcases mem_addPair.mp he with he | rfl
  · exact h.2 e he hd hf
  · refine iff_of_false (fun hmem => ?_) (not_among_new h.1 hnew)
    have hd' : c.device = dev := hd.symm
    cases hp : c.pairIds with
    | some ids =>
      simp only [Cycle.analysedIds, hp, Option.getD_some] at hmem
      exact hids hd' (by simpa [hp] using hmem)
    | none =>
      -- without requested ids the call marks ids of rows, and the new id is no row's
      simp only [Cycle.analysedIds, hp, Option.getD_none, List.mem_map] at hmem
      obtain ⟨e₀, he₀, heq⟩ := hmem
      obtain ⟨e₁, he₁, hd₁, hid₁, _⟩ := h.1 e₀ he₀
      simp only [Switch.fresh, List.all_eq_true, Bool.or_eq_true, bne_iff_ne, ne_eq] at hfresh
      rcases hfresh e₁ he₁ with hne | hne
      · exact hne (hd₁.trans hd')
      · exact hne (hid₁.trans heq)

/-- A pair that arrives in the active store keeps what holds of a call that awaits no such id. -/
theorem CycleInv.addPair [DecidableEq δ] (h : CycleInv st memory c) (hnew : ∀ e ∈ st.rows, e.pair ≠ pair)
    (hfresh : Switch.fresh st dev id = true) (hids : c.awaits dev id = false) :
    CycleInv (st.addPair id sequence dev pair size) memory c := by
  have hids' : (∃ ctx, c.pc = .analysing ctx) ∨ (∃ ctx b, c.pc = .marking ctx b) →
      c.device = dev → id ∉ c.pairIds.getD [] := by
    rintro hpc rfl hmem
    rcases hpc with ⟨ctx, hpc⟩ | ⟨ctx, b, hpc⟩ <;> simp [Cycle.awaits, hpc, hmem] at hids
  unfold CycleInv at h ⊢
  split <;> simp only [*] at h
  · trivial
  · exact h
  next hpc => exact h.addPair hnew hfresh (hids' (.inl ⟨_, hpc⟩))
  next hpc => exact ⟨h.1, h.2.addPair hnew hfresh (hids' (.inr ⟨_, _, hpc⟩))⟩
  · exact ⟨h.1, h.2.addPair hnew⟩
  · exact h
  · exact h

/-- What holds of a call that is not running holds whatever store is active. -/
theorem CycleInv.of_not_running {st' : Store δ π} {memory' : Bool} (h : CycleInv st memory c)
    (hc : c.running = false) : CycleInv st' memory' c := by
  unfold CycleInv at h ⊢
  unfold Cycle.running at hc
  split <;> simp_all

end

/-! ## The system -/

/-- The invariant of the whole system. -/
structure Inv (s : State δ π) : Prop where
  switch : SwitchInv s.switch
  cycles : ∀ c ∈ s.cycles, CycleInv s.switch.old s.switch.oldShared c

section
variable {s s' : State δ π} {i : Nat} {c : Cycle δ π}

theorem inv_start (memory : Bool) : Inv (start memory : State δ π) :=
  ⟨switchInv_init memory, by simp [start]⟩

/-- A call moves on while the stores stay as they are. -/
theorem Inv.setPc (h : Inv s) {pc : Pc δ π}
    (hc : CycleInv s.switch.old s.switch.oldShared { c with pc }) : Inv (s.setPc i c pc) := by
  refine ⟨h.switch, fun c' hc' => ?_⟩
  rcases List.mem_or_eq_of_mem_set hc' with hmem | rfl
  · exact h.cycles c' hmem
  · exact hc

/-- Marking rows of the active store. -/
theorem Inv.mark (h : Inv s) (p : Entry δ π → Bool) :
    Inv { s with switch := { s.switch with old := s.switch.old.mark p } } :=
  ⟨h.switch.mark p, fun c hc => (h.cycles c hc).mark p⟩

variable [DecidableEq δ]

/-- The snapshot a call takes of the active store. -/
theorem sent_select (h : DistinctPairs s.switch.old) :
    Sent s.switch.old c (c.select (s.switch.old.getBufferPairs c.device)) := by
  have hselect : ∀ e ∈ c.select (s.switch.old.getBufferPairs c.device),
      e ∈ s.switch.old.rows ∧ e.device = c.device ∧ e.flushed = false := by
    intro e he
    refine Store.mem_getBufferPairs.mp ?_
    unfold Cycle.select at he
    split at he
    · exact he
    · exact List.mem_of_mem_filter he
  refine ⟨fun e he => ⟨e, (hselect e he).1, (hselect e he).2.1, rfl, rfl⟩, fun e he hd hf => ?_⟩
  have hread : e ∈ s.switch.old.getBufferPairs c.device := Store.mem_getBufferPairs.mpr ⟨he, hd, hf⟩
  cases hp : c.pairIds with
  | none =>
    -- the call marks what it read, and it read every unflushed row
    simp only [Cycle.analysedIds, hp, Option.getD_none, Cycle.select, List.mem_map]
    exact iff_of_true ⟨e, hread, rfl⟩ ⟨e, hread, rfl⟩
  | some ids =>
    simp only [Cycle.analysedIds, hp, Option.getD_some, Cycle.select]
    constructor
    · intro hid
      exact ⟨e, List.mem_filter.mpr ⟨hread, by simpa using hid⟩, rfl⟩
    · rintro ⟨e', he', hpair⟩
      obtain ⟨hread', hid⟩ := List.mem_filter.mp he'
      obtain ⟨hmem, hd', hf'⟩ := Store.mem_getBufferPairs.mp hread'
      have heq : e' = e := h.eq hmem he hf' hf (hd'.trans hd.symm) hpair
      exact heq ▸ (by simpa using hid)

/-- **The UPDATE flushes pairs of the call only, and leaves none of them.** -/
theorem learnt_of_sent {st : Store δ π} {context : List (Entry δ π)} (h : Sent st c context) :
    (∀ e ∈ selectedRows st c.device (c.analysedIds context), among e context) ∧
      Learnt (st.flushSelected c.device (c.analysedIds context)) c context := by
  constructor
  · intro e he
    simp only [selectedRows, List.mem_filter, Store.unflushed, Bool.and_eq_true, decide_eq_true_eq,
      Bool.not_eq_true', List.contains_iff_mem] at he
    exact (h.2 e he.1 he.2.1.1 he.2.1.2).mp he.2.2
  · refine ⟨fun e he => (h.1 e he).mark, fun e he hd hf hamong => ?_⟩
    obtain ⟨hmem, hnot⟩ := mem_of_mem_mark he hf
    have hid := (h.2 e hmem hd hf).mpr hamong
    simp [Store.unflushed, hd, hf, hid] at hnot

/-- What a step of a switch does to the active store, short of replacing it: it marks rows. -/
theorem proceed_old {sw sw' : Switch.State δ π} {id sequence : Nat}
    (hs : Switch.proceed sw id sequence = some sw') :
    sw'.oldShared = sw.oldShared ∧ (∃ p, sw'.old = sw.old.mark p) ∧
      (sw'.phase = .succeeded → sw.phase = .devices []) := by
  have hid : ∃ p, sw.old = sw.old.mark p := ⟨fun _ => false, by simp [Store.mark]⟩
  unfold Switch.proceed at hs
  split at hs
  next =>
    cases hs
    exact ⟨rfl, hid, by simp⟩
  next =>
    cases hs
    exact ⟨rfl, hid, by simp⟩
  next =>
    split at hs <;> cases hs
    · exact ⟨rfl, hid, by simp⟩
    · exact ⟨rfl, hid, by simp⟩
  next hphase =>
    cases hs
    exact ⟨rfl, hid, fun _ => hphase⟩
  next =>
    split at hs <;> cases hs
    exact ⟨rfl, hid, by simp⟩
  next =>
    cases hs
    exact ⟨rfl, ⟨_, rfl⟩, by simp⟩
  next => cases hs

/-- A step of a call keeps the invariant. -/
theorem Inv.cycleStep (h : Inv s) (hc : c ∈ s.cycles) {l : Label δ π}
    (hs : cycleStep s i c l = some s') : Inv s' := by
  have hinv := h.cycles c hc
  unfold Flush.cycleStep at hs
  split at hs
  case h_1 =>
    split at hs
    next =>
      split at hs
      next =>
        cases hs
        exact h.setPc rfl
      next => cases hs
    next => cases hs
  case h_2 =>
    split at hs
    next backend hpc =>
      simp only [CycleInv, hpc] at hinv
      -- the backend the call looked up is the one its rows are read from
      have hstore : s.storeOf backend = s.switch.old := if_pos hinv
      dsimp only at hs
      split at hs <;> cases hs
      · exact h.setPc (by simp [CycleInv])
      · exact h.setPc (hstore ▸ sent_select h.switch.old)
    next => cases hs
  case h_3 =>
    split at hs
    next context hpc =>
      cases hs
      simp only [CycleInv, hpc] at hinv
      exact h.setPc ⟨rfl, hinv⟩
    next => cases hs
  case h_4 =>
    split at hs
    next context hpc =>
      cases hs
      exact h.setPc (by simp [CycleInv])
    next => cases hs
  case h_5 =>
    split at hs
    next context backend hpc =>
      cases hs
      simp only [CycleInv, hpc] at hinv
      obtain ⟨rfl, hsent⟩ := hinv
      -- what was marked is what was sent, so it is learnt
      obtain ⟨hmarked, hlearnt⟩ := learnt_of_sent hsent
      simp only [State.storeOf, State.setStore, if_true]
      exact (h.mark _).setPc ⟨hmarked, hlearnt⟩
    next => cases hs
  case h_6 =>
    split at hs
    next context _ hpc =>
      cases hs
      exact h.setPc (by simp [CycleInv])
    next => cases hs
  case h_7 =>
    split at hs
    next context marked hpc =>
      cases hs
      simp only [CycleInv, hpc] at hinv
      refine h.setPc ⟨hinv.1, fun e he => ?_⟩
      obtain ⟨hmem, hd, hf⟩ := Store.mem_getBufferPairs.mp he
      exact hinv.2.2 e hmem hd hf
    next => cases hs
  case h_8 =>
    split at hs
    next context marked hpc =>
      cases hs
      simp only [CycleInv, hpc] at hinv
      exact h.setPc hinv.1
    next => cases hs
  case h_9 => cases hs

variable [DecidableEq π]

/-- A pair nobody has seen arrives, in either store. -/
theorem Inv.addPair (h : Inv s) {memory : Bool} {id sequence size : Nat} {dev : δ} {pair : π}
    (hok : Orderly s (.addPair memory id sequence dev pair size))
    (hs : step s (.addPair memory id sequence dev pair size) = some s') : Inv s' := by
  simp only [step] at hs
  split at hs
  case isFalse => cases hs
  case isTrue hcond =>
    cases hs
    simp only [Bool.and_eq_true, unseen, List.all_eq_true, bne_iff_ne, ne_eq] at hcond
    obtain ⟨⟨hfresh, hold⟩, hnew⟩ := hcond
    obtain ⟨harrive, harrive'⟩ := h.switch.arrive hold hnew id sequence dev size
    by_cases hm : memory = s.switch.oldShared
    · simp only [State.storeOf, State.setStore, if_pos hm] at hfresh ⊢
      exact ⟨harrive, fun c hc => (h.cycles c hc).addPair hold hfresh (hok hm c hc)⟩
    · simp only [State.storeOf, State.setStore, if_neg hm]
      exact ⟨harrive', h.cycles⟩

/-- A step of a switch keeps the invariant, the replacement of the store included when no call runs. -/
theorem Inv.switchStep (h : Inv s) {id sequence : Nat} (hok : Orderly s (.switchStep id sequence))
    (hs : step s (.switchStep id sequence) = some s') : Inv s' := by
  simp only [step, Switch.step, Option.map_eq_some_iff] at hs
  obtain ⟨sw, hsw, rfl⟩ := hs
  obtain ⟨hshared, ⟨p, hp⟩, hdone⟩ := proceed_old hsw
  refine ⟨(h.switch.proceed hsw).rebind, fun c hc => ?_⟩
  have hmark : CycleInv sw.old sw.oldShared c := by
    rw [hp, hshared]
    exact (h.cycles c hc).mark p
  unfold Flush.rebind
  dsimp only
  split
  next hphase => exact hmark.of_not_running (hok (hdone hphase) c hc)
  next => exact hmark

/-- **Every orderly step keeps the invariant.** -/
theorem inv_step {l : Label δ π} (h : Inv s) (hok : Orderly s l) (hs : step s l = some s') : Inv s' := by
  have hcall : ∀ {i}, (s.cycles[i]?.bind fun c => Flush.cycleStep s i c l) = some s' → Inv s' := by
    intro i hs
    obtain ⟨c, hc, hs⟩ := Option.bind_eq_some_iff.mp hs
    exact h.cycleStep (List.mem_of_getElem? hc) hs
  cases l with
  | flushAndLearn dev pairIds =>
    cases hs
    refine ⟨h.switch, fun c hc => ?_⟩
    rcases List.mem_append.mp hc with hc | hc
    · exact h.cycles c hc
    · rw [List.mem_singleton.mp hc]
      trivial
  | addPair memory id sequence dev pair size => exact h.addPair hok hs
  | startSwitch ids =>
    obtain ⟨sw, hsw, rfl⟩ := Option.map_eq_some_iff.mp hs
    obtain ⟨hinv, hold, hshared⟩ := h.switch.start hsw
    refine ⟨hinv, fun c hc => ?_⟩
    simp only [hold, hshared]
    exact h.cycles c hc
  | switchStep id sequence => exact h.switchStep hok hs
  | acquire i => exact hcall hs
  | read i => exact hcall hs
  | analysed i => exact hcall hs
  | analysisFailed i => exact hcall hs
  | update i => exact hcall hs
  | updateRaised i => exact hcall hs
  | finish i => exact hcall hs
  | finishRaised i => exact hcall hs

end

theorem CycleInv.marks {st : Store δ π} {memory : Bool} {c : Cycle δ π} (h : CycleInv st memory c) :
    c.MarksOnlyContext ∧ c.MarksAllContext := by
  unfold CycleInv at h
  unfold Cycle.MarksOnlyContext Cycle.MarksAllContext
  split at h <;> simp_all

/-- **A flush marks exactly what it learned.** In every run in which no switch replaces the store while a
    cycle runs and no arriving pair gets an id that a cycle past its read was asked to flush, every
    cycle flushed only pairs it had sent to the LLM, and one that succeeded left none of them unflushed
    in the active store. -/
theorem marks_of_orderly [DecidableEq δ] [DecidableEq π] {memory : Bool} {s : State δ π}
    (h : ReachesUnder step Orderly (start memory) s) : s.MarksExactlyContext :=
  fun c hc => ((h.invariant (inv_start memory) fun _ _ _ hi hok hs => inv_step hi hok hs).cycles c hc).marks

/-! ## Runs -/

/-- A flush of one of two pairs, a pair that arrives while the LLM works, a switch, and a second flush. -/
def orderlyFlushes : List (Label String String) :=
  [.addPair false 1 0 "lamp" "p1" 40, .addPair false 2 1 "lamp" "p2" 50, .flushAndLearn "lamp" (some [2]),
   .acquire 0, .read 0, .addPair false 3 2 "lamp" "p3" 60, .analysed 0, .update 0, .finish 0,
   .startSwitch ["lamp"], .switchStep 0 0, .switchStep 0 0, .switchStep 0 0, .switchStep 7 0,
   .switchStep 8 1, .switchStep 0 0, .switchStep 0 0, .flushAndLearn "lamp" none, .acquire 1, .read 1,
   .analysed 1, .update 1, .finish 1]

/-- The state they end in. -/
def orderlyFlushesEnd : State String String :=
  (exec step (start false) orderlyFlushes).getD (start false)

theorem orderlyFlushes_marks : orderlyFlushesEnd.MarksExactlyContext :=
  have hreach : ReachesUnder step Orderly (start false) orderlyFlushesEnd :=
    reachesUnder_of_exec .start orderlyFlushes (by decide) (by decide)
  marks_of_orderly hreach

/-- A flush of ids 1 and 2 while only 1 exists; the pair that gets id 2 arrives during the analysis. -/
def staleIds : List (Label String String) :=
  [.addPair false 1 0 "lamp" "p1" 40, .flushAndLearn "lamp" (some [1, 2]), .acquire 0, .read 0,
   .addPair false 2 1 "lamp" "p2" 50, .analysed 0, .update 0, .finish 0]

/-- The state it ends in. -/
def staleIdsEnd : State String String := (exec step (start false) staleIds).getD (start false)

/-- A switch from disk back to memory, where ids 1 and 2 are taken, between a flush's read and its
    update. -/
def switchUnderFlush : List (Label String String) :=
  [.addPair true 1 0 "porch" "q1" 30, .startSwitch ["porch"], .switchStep 0 0, .switchStep 1 0,
   .switchStep 0 0, .switchStep 0 0, .addPair false 1 0 "lamp" "p1" 40, .flushAndLearn "lamp" none,
   .acquire 0, .read 0, .startSwitch ["porch", "lamp"], .switchStep 0 0, .switchStep 0 0, .switchStep 0 0,
   .switchStep 0 0, .switchStep 2 1, .switchStep 0 0, .switchStep 0 0, .switchStep 3 0, .switchStep 0 0,
   .switchStep 0 0, .analysed 0, .update 0, .finish 0]

/-- The state it ends in. -/
def switchUnderFlushEnd : State String String := (exec step (start true) switchUnderFlush).getD (start true)

/-- A flush can mark a pair it never sent, and can leave one it sent unflushed in the active store. -/
theorem flush_marks_other_pairs :
    (¬ ∀ s : State String String, Reaches step (start false) s → ∀ c ∈ s.cycles, c.MarksOnlyContext) ∧
      ¬ ∀ s : State String String, Reaches step (start true) s → ∀ c ∈ s.cycles, c.MarksAllContext := by
  constructor
  · intro h
    have hreach : Reaches step (start false) staleIdsEnd := reaches_of_exec staleIds (by decide)
    exact absurd (h staleIdsEnd hreach) (by decide)
  · intro h
    have hreach : Reaches step (start true) switchUnderFlushEnd :=
      reaches_of_exec switchUnderFlush (by decide)
    exact absurd (h switchUnderFlushEnd hreach) (by decide)

end RideTheApi.Flush
