import RideTheApi.Pipeline.FlushSafety

/-!
# `Pipeline.LearnedOnce` — what a call has flushed is in no other call's context

A flush waits for the one that runs for its device, and reads the buffer after it has the lock. What a call has flushed
is unflushed nowhere afterwards (`Spent`): not in the store it was read from, not in the other one, and not among the
rows a switch of the backend is about to copy. So no later call finds it, and an earlier call that had it in its context
has failed by then.

A switch copies rows that it read before. Where it starts only when no call runs, and no call takes its lock while it is
on its way (`Calm`), the copies are of rows no call has flushed.
-/

namespace RideTheApi.Flush

open Buffer Transition

universe u v

variable {δ : Type u} {π : Type v}

/-! ## What is claimed -/

/-- The pairs that a call which has not failed has sent to the LLM. -/
def Cycle.sent (c : Cycle δ π) : List (Entry δ π) :=
  match c.pc with
  | .analysing context | .marking context _ | .marked context _ | .learned context _ _ => context
  | _ => []

/-- The pairs that a call has flushed: all it sent, once it came to the UPDATE. -/
def Cycle.consumed (c : Cycle δ π) : List (Entry δ π) :=
  match c.pc with
  | .marked context _ | .learned context _ _ => context
  | _ => []

/-- No switch of the backend is on its way. -/
def State.SwitchIdle (s : State δ π) : Prop :=
  match s.switch.phase with
  | .idle | .failed => True
  | _ => False

instance (s : State δ π) : Decidable s.SwitchIdle := by
  unfold State.SwitchIdle
  split <;> infer_instance

/-- A switch starts when no call runs, and no call gets its lock while a switch is on its way. -/
def Calm (s : State δ π) : Label δ π → Prop
  | .acquire _     => s.SwitchIdle
  | .startSwitch _ => ∀ c ∈ s.cycles, c.running = false
  | _              => True

instance (s : State δ π) : (l : Label δ π) → Decidable (Calm s l)
  | .acquire _ => inferInstanceAs (Decidable s.SwitchIdle)
  | .startSwitch _ => inferInstanceAs (Decidable (∀ c ∈ s.cycles, c.running = false))
  | .flushAndLearn .. | .read _ | .analysed _ | .analysisFailed _ | .update _ | .updateRaised _ | .finish _
  | .finishRaised _ | .addPair .. | .switchStep .. => .isTrue trivial

/-! ## Pairs that were flushed -/

/-- No store lists the pair for the device any more, and no switch is about to copy it; a row still holds it. -/
structure Spent (sw : Switch.State δ π) (d : δ) (pair : π) : Prop where
  held : ∃ e ∈ sw.old.rows ++ sw.new.rows, e.pair = pair
  flushed : ∀ e ∈ sw.old.rows ++ sw.new.rows, e.device = d → e.pair = pair → e.flushed = true
  uncopied : ∀ entries rest, sw.phase = .copying d entries rest → ∀ e ∈ entries, e.pair ≠ pair

/-- A row of the active store holds the pair, the UPDATE that marks `ids` flushes it there, and the other store does not
    list it. -/
structure Covered (sw : Switch.State δ π) (d : δ) (ids : List Nat) (pair : π) : Prop where
  held : ∃ e ∈ sw.old.rows, e.pair = pair
  marks : ∀ e ∈ sw.old.rows, e.device = d → e.flushed = false → e.pair = pair → e.id ∈ ids
  other : ∀ e ∈ sw.new.rows, e.device = d → e.pair = pair → e.flushed = true

section
variable {sw sw' : Switch.State δ π} {d : δ} {pair : π} {ids : List Nat} {p : Entry δ π → Bool}

/-- The rows of a marked store are the rows there were, and some of them flushed. -/
theorem mem_mark {st : Store δ π} {e : Entry δ π} (h : e ∈ (st.mark p).rows) :
    ∃ e' ∈ st.rows, e.pair = e'.pair ∧ e.device = e'.device ∧ e.id = e'.id ∧ (e'.flushed = true → e.flushed = true) := by
  obtain ⟨e', he', rfl⟩ := List.mem_map.mp h
  refine ⟨e', he', ?_⟩
  split <;> simp

theorem exists_mark {st : Store δ π} (h : ∃ e ∈ st.rows, e.pair = pair) : ∃ e ∈ (st.mark p).rows, e.pair = pair := by
  obtain ⟨e, he, heq⟩ := h
  refine ⟨_, List.mem_map.mpr ⟨e, he, rfl⟩, ?_⟩
  split <;> exact heq

/-- Where only rows of the active store are marked. -/
theorem Spent.mark (h : Spent sw d pair) : Spent { sw with old := sw.old.mark p } d pair where
  held := by
    obtain ⟨e, he, heq⟩ := h.held
    rcases List.mem_append.mp he with he | he
    · obtain ⟨e', he', heq'⟩ := exists_mark (p := p) ⟨e, he, heq⟩
      exact ⟨e', List.mem_append_left _ he', heq'⟩
    · exact ⟨e, List.mem_append_right _ he, heq⟩
  flushed := by
    intro e he hd hpair
    rcases List.mem_append.mp he with he | he
    · obtain ⟨e', he', hp, hdev, -, hflushed⟩ := mem_mark he
      exact hflushed (h.flushed e' (List.mem_append_left _ he') (hdev ▸ hd) (hp ▸ hpair))
    · exact h.flushed e (List.mem_append_right _ he) hd hpair
  uncopied := h.uncopied

theorem Covered.mark (h : Covered sw d ids pair) : Covered { sw with old := sw.old.mark p } d ids pair where
  held := exists_mark h.held
  marks := fun e he hd hf hpair => h.marks e (mem_of_mem_mark he hf).1 hd hf hpair
  other := h.other

/-- Another phase in which nothing is copied. -/
theorem Spent.setPhase (h : Spent sw d pair) {phase : Switch.Phase δ π}
    (hphase : ∀ entries rest, phase ≠ .copying d entries rest) (pairs : Nat) :
    Spent { sw with phase, pairs } d pair :=
  ⟨h.held, h.flushed, fun entries rest heq => absurd heq (hphase entries rest)⟩

variable {id sequence size : Nat} {dev : δ} {new : π}

/-- A pair nobody has seen arrives in the active store, -/
theorem Spent.arrive_old (h : Spent sw d pair) (hne : pair ≠ new) :
    Spent { sw with old := sw.old.addPair id sequence dev new size } d pair where
  held := by
    obtain ⟨e, he, heq⟩ := h.held
    rcases List.mem_append.mp he with he | he
    · exact ⟨e, List.mem_append_left _ (mem_addPair.mpr (.inl he)), heq⟩
    · exact ⟨e, List.mem_append_right _ he, heq⟩
  flushed := by
    intro e he hd hpair
    rcases List.mem_append.mp he with he | he
    · rcases mem_addPair.mp he with he | rfl
      · exact h.flushed e (List.mem_append_left _ he) hd hpair
      · exact absurd hpair.symm hne
    · exact h.flushed e (List.mem_append_right _ he) hd hpair
  uncopied := h.uncopied

/-- … or in the other one. -/
theorem Spent.arrive_new (h : Spent sw d pair) (hne : dev = d → pair ≠ new) :
    Spent { sw with new := sw.new.addPair id sequence dev new size } d pair where
  held := by
    obtain ⟨e, he, heq⟩ := h.held
    rcases List.mem_append.mp he with he | he
    · exact ⟨e, List.mem_append_left _ he, heq⟩
    · exact ⟨e, List.mem_append_right _ (mem_addPair.mpr (.inl he)), heq⟩
  flushed := by
    intro e he hd hpair
    rcases List.mem_append.mp he with he | he
    · exact h.flushed e (List.mem_append_left _ he) hd hpair
    · rcases mem_addPair.mp he with he | rfl
      · exact h.flushed e (List.mem_append_right _ he) hd hpair
      · exact absurd hpair.symm (hne hd)
  uncopied := h.uncopied

theorem Covered.arrive_old (h : Covered sw d ids pair) (hne : pair ≠ new) :
    Covered { sw with old := sw.old.addPair id sequence dev new size } d ids pair where
  held := by
    obtain ⟨e, he, heq⟩ := h.held
    exact ⟨e, mem_addPair.mpr (.inl he), heq⟩
  marks := by
    intro e he hd hf hpair
    rcases mem_addPair.mp he with he | rfl
    · exact h.marks e he hd hf hpair
    · exact absurd hpair.symm hne
  other := h.other

theorem Covered.arrive_new (h : Covered sw d ids pair) (hne : pair ≠ new) :
    Covered { sw with new := sw.new.addPair id sequence dev new size } d ids pair where
  held := h.held
  marks := h.marks
  other := by
    intro e he hd hpair
    rcases mem_addPair.mp he with he | rfl
    · exact h.other e he hd hpair
    · exact absurd hpair.symm hne

/-- **The UPDATE spends what it covers.** -/
theorem Covered.spent [DecidableEq δ] (h : Covered sw d ids pair)
    (hidle : ∀ entries rest, sw.phase ≠ .copying d entries rest) :
    Spent { sw with old := sw.old.flushSelected d ids } d pair where
  held := by
    obtain ⟨e, he, heq⟩ := exists_mark (p := fun e => Store.unflushed d e && ids.contains e.id) h.held
    exact ⟨e, List.mem_append_left _ he, heq⟩
  flushed := by
    intro e he hd hpair
    rcases List.mem_append.mp he with he | he
    · by_contra hf
      have hf : e.flushed = false := by simpa using hf
      obtain ⟨hmem, hnot⟩ := mem_of_mem_mark he hf
      have hid := h.marks e hmem hd hf hpair
      simp [Store.unflushed, hd, hf, hid] at hnot
    · exact h.other e he hd hpair
  uncopied := fun entries rest heq => absurd heq (hidle entries rest)

/-- **A step of a switch lists nothing again.** -/
theorem Spent.proceed [DecidableEq δ] (h : Spent sw d pair) (hs : Switch.proceed sw id sequence = some sw') :
    Spent sw' d pair := by
  unfold Switch.proceed at hs
  split at hs
  next =>
    cases hs
    exact h.setPhase (by simp) _
  next =>
    cases hs
    exact h.setPhase (by simp) _
  next d' rest hphase =>
    split at hs
    next =>
      cases hs
      exact h.setPhase (by simp) _
    next e es hread =>
      cases hs
      -- What is read is unflushed, and what is spent is not.
      refine ⟨h.held, h.flushed, fun entries rest' heq e' he' hpair => ?_⟩
      obtain ⟨rfl, rfl, -⟩ := by simpa using heq
      obtain ⟨hmem, hd, hf⟩ := Store.mem_getBufferPairs.mp (hread ▸ he')
      have := h.flushed e' (List.mem_append_left _ hmem) hd hpair
      simp [hf] at this
  next =>
    cases hs
    exact h.setPhase (by simp) _
  next d' e es rest hphase =>
    split at hs
    next =>
      cases hs
      have hne : d' = d → pair ≠ e.pair :=
        fun heq => Ne.symm (h.uncopied (e :: es) rest (heq ▸ hphase) e List.mem_cons_self)
      have hcopy : Spent { sw with new := sw.new.addPair id sequence d' e.pair e.size } d pair := h.arrive_new hne
      refine ⟨hcopy.held, hcopy.flushed, fun entries rest' heq e' he' => ?_⟩
      obtain ⟨rfl, rfl, -⟩ := by simpa using heq
      exact h.uncopied (e :: es) rest hphase e' (List.mem_cons_of_mem _ he')
    next => cases hs
  next d' rest hphase =>
    cases hs
    exact (h.mark (p := Store.unflushed d')).setPhase (by simp) _
  next => cases hs

/-- A switch that starts copies nothing yet. -/
theorem Spent.start [DecidableEq δ] (h : Spent sw d pair) {ids : List δ}
    (hs : Switch.step sw (.start ids) = some sw') : Spent sw' d pair := by
  have hstart : Switch.start sw ids = some sw' → Spent sw' d pair := by
    intro hs
    unfold Switch.start at hs
    split at hs
    case isTrue =>
      cases hs
      refine h.setPhase (fun entries rest => ?_) 0
      split <;> simp
    case isFalse => cases hs
  simp only [Switch.step] at hs
  split at hs
  next => exact hstart hs
  next => exact hstart hs
  next => cases hs

/-- Once through, the stores change roles. -/
theorem Spent.rebind (h : Spent sw d pair) : Spent (rebind sw) d pair := by
  unfold Flush.rebind
  split
  next =>
    refine ⟨?_, fun e he => h.flushed e ?_, fun entries rest heq => by cases heq⟩
    · obtain ⟨e, he, heq⟩ := h.held
      exact ⟨e, List.mem_append.mpr (List.mem_append.mp he).symm, heq⟩
    · exact List.mem_append.mpr (List.mem_append.mp he).symm
  next => exact h

end

/-! ## The system -/

/-- What holds of a call that runs: it reads and marks the active store, and the pairs it sent are covered by what it
    will mark. -/
def Cycle.Covering (sw : Switch.State δ π) (c : Cycle δ π) : Prop :=
  match c.pc with
  | .reading memory => memory = sw.oldShared
  | .analysing context => ∀ e ∈ context, Covered sw c.device (c.analysedIds context) e.pair
  | .marking context memory =>
    memory = sw.oldShared ∧ ∀ e ∈ context, Covered sw c.device (c.analysedIds context) e.pair
  | _ => True

/-- The invariant of the calm system. -/
structure Once (s : State δ π) : Prop where
  switch : SwitchInv s.switch
  calm : ∀ c ∈ s.cycles, c.running = true → s.SwitchIdle
  mutex : ∀ (i j : Nat) (c c' : Cycle δ π), s.cycles[i]? = some c → s.cycles[j]? = some c' → c.running = true → c'.running = true →
    c.device = c'.device → i = j
  covering : ∀ c ∈ s.cycles, c.Covering s.switch
  spent : ∀ c ∈ s.cycles, ∀ e ∈ c.consumed, Spent s.switch c.device e.pair
  once : ∀ (i j : Nat) (c c' : Cycle δ π), i ≠ j → s.cycles[i]? = some c → s.cycles[j]? = some c' → c.device = c'.device →
    ∀ e ∈ c.consumed, ¬ among e c'.sent

section
variable {s s' : State δ π} {i j : Nat} {c c' : Cycle δ π} {sw : Switch.State δ π} {pc : Pc δ π}

theorem once_start (memory : Bool) : Once (start memory : State δ π) :=
  ⟨switchInv_init memory, by simp [start], by simp [start], by simp [start], by simp [start], by simp [start]⟩

/-- While a call runs nothing is copied. -/
theorem State.SwitchIdle.not_copying (h : s.SwitchIdle) (d : δ) (entries : List (Entry δ π)) (rest : List δ) :
    s.switch.phase ≠ .copying d entries rest := by
  intro heq
  simp [State.SwitchIdle, heq] at h

/-- The call at an index after one moved on. -/
theorem getElem?_setPc {k : Nat} {d : Cycle δ π} (hi : s.cycles[i]? = some c)
    (h : (s.setPc i c pc).cycles[k]? = some d) :
    (k = i ∧ d = { c with pc }) ∨ (k ≠ i ∧ s.cycles[k]? = some d) := by
  have hlt : i < s.cycles.length := (List.getElem?_eq_some_iff.mp hi).1
  simp only [State.setPc, List.getElem?_set] at h
  split at h
  case isTrue heq => exact .inl ⟨heq.symm, (Option.some.inj (by simpa [heq ▸ hlt] using h)).symm⟩
  case isFalse hne => exact .inr ⟨Ne.symm hne, h⟩

/-- **A call moves on.** The stores may have changed meanwhile, as long as the other calls keep what holds of them. -/
theorem Once.move (h : Once s) (hi : s.cycles[i]? = some c) (hswitch : SwitchInv sw)
    (hidle : s.SwitchIdle → ({ s with switch := sw } : State δ π).SwitchIdle)
    (hothers : ∀ d ∈ s.cycles, d.Covering sw) (hspent : ∀ d ∈ s.cycles, ∀ e ∈ d.consumed, Spent sw d.device e.pair)
    (hrunning : ({ c with pc } : Cycle δ π).running = true →
      ({ s with switch := sw } : State δ π).SwitchIdle ∧
        (c.running = true ∨ ∀ d ∈ s.cycles, d.device = c.device → d.running = false))
    (hcovering : ({ c with pc } : Cycle δ π).Covering sw)
    (hself : ∀ e ∈ ({ c with pc } : Cycle δ π).consumed, Spent sw c.device e.pair)
    (honce : ∀ j d, j ≠ i → s.cycles[j]? = some d → d.device = c.device →
      (∀ e ∈ ({ c with pc } : Cycle δ π).consumed, ¬ among e d.sent) ∧
        ∀ e ∈ d.consumed, ¬ among e ({ c with pc } : Cycle δ π).sent) :
    Once (({ s with switch := sw } : State δ π).setPc i c pc) := by
  have hget : ∀ {k d}, (({ s with switch := sw } : State δ π).setPc i c pc).cycles[k]? = some d →
      (k = i ∧ d = { c with pc }) ∨ (k ≠ i ∧ s.cycles[k]? = some d) := fun hk => getElem?_setPc (s := { s with switch := sw }) hi hk
  have hmem : ∀ {d}, d ∈ (({ s with switch := sw } : State δ π).setPc i c pc).cycles →
      d = { c with pc } ∨ d ∈ s.cycles := fun hd => (List.mem_or_eq_of_mem_set hd).symm
  refine ⟨hswitch, fun d hd hrun => ?_, fun k l d d' hk hl hrun hrun' hdev => ?_, fun d hd => ?_, fun d hd => ?_,
    fun k l d d' hkl hk hl hdev => ?_⟩
  · rcases hmem hd with rfl | hd
    · exact (hrunning hrun).1
    · exact hidle (h.calm d hd hrun)
  · -- A call that runs has the lock: it had it before, or nobody of its device did.
    have hown : ∀ {l d'}, l ≠ i → s.cycles[l]? = some d' → d'.running = true → c.device = d'.device →
        ({ c with pc } : Cycle δ π).running = true → False := by
      intro l d' hli hl hrun' hdev hrun
      rcases (hrunning hrun).2 with hc | hfree
      · exact hli (h.mutex i l c d' hi hl hc hrun' hdev).symm
      · have := hfree d' (List.mem_of_getElem? hl) hdev.symm
        rw [hrun'] at this
        cases this
    rcases hget hk with ⟨rfl, rfl⟩ | ⟨hki, hkth⟩ <;> rcases hget hl with ⟨rfl, rfl⟩ | ⟨hli, hlth⟩
    · rfl
    · exact (hown hli hlth hrun' hdev hrun).elim
    · exact (hown hki hkth hrun hdev.symm hrun').elim
    · exact h.mutex k l d d' hkth hlth hrun hrun' hdev
  · rcases hmem hd with rfl | hd
    · exact hcovering
    · exact hothers d hd
  · rcases hmem hd with rfl | hd
    · exact hself
    · exact hspent d hd
  · rcases hget hk with ⟨rfl, rfl⟩ | ⟨hki, hkth⟩ <;> rcases hget hl with ⟨rfl, rfl⟩ | ⟨hli, hlth⟩
    · exact absurd rfl hkl
    · exact (honce l d' hli hlth hdev.symm).1
    · exact (honce k d hki hkth hdev).2
    · exact h.once k l d d' hkl hkth hlth hdev

/-- A call moves on while the stores stay as they are, and has sent and flushed no more than before. -/
theorem Once.advance (h : Once s) (hi : s.cycles[i]? = some c)
    (hrunning : ({ c with pc } : Cycle δ π).running = true → c.running = true)
    (hcovering : ({ c with pc } : Cycle δ π).Covering s.switch)
    (hsent : ∀ e ∈ ({ c with pc } : Cycle δ π).sent, e ∈ c.sent)
    (hconsumed : ∀ e ∈ ({ c with pc } : Cycle δ π).consumed, e ∈ c.consumed) : Once (s.setPc i c pc) := by
  have hc : c ∈ s.cycles := List.mem_of_getElem? hi
  refine h.move hi h.switch id h.covering h.spent (fun hrun => ⟨h.calm c hc (hrunning hrun), .inl (hrunning hrun)⟩)
    hcovering (fun e he => h.spent c hc e (hconsumed e he)) fun j d hji hj hdev => ⟨fun e he => ?_, fun e he hamong => ?_⟩
  · exact h.once i j c d (Ne.symm hji) hi hj hdev.symm e (hconsumed e he)
  · obtain ⟨e', he', heq⟩ := hamong
    exact h.once j i d c hji hj hi hdev e he ⟨e', hsent e' he', heq⟩

/-- What a running call reads is covered by what it will mark, and no call has flushed it. -/
theorem Once.covered_select [DecidableEq δ] (h : Once s) (hidle : s.SwitchIdle) :
    ∀ e ∈ c.select (s.switch.old.getBufferPairs c.device),
      Covered s.switch c.device (c.analysedIds (c.select (s.switch.old.getBufferPairs c.device))) e.pair := by
  intro e he
  have hsent := sent_select (c := c) h.switch.old
  have hread : e ∈ s.switch.old.getBufferPairs c.device := by
    unfold Cycle.select at he
    split at he
    · exact he
    · exact List.mem_of_mem_filter he
  obtain ⟨hmem, hd, hf⟩ := Store.mem_getBufferPairs.mp hread
  refine ⟨⟨e, hmem, rfl⟩, fun e' he' hd' hf' hpair => (hsent.2 e' he' hd' hf').mpr ⟨e, he, hpair.symm⟩, ?_⟩
  intro e' he' hd' hpair
  by_contra hf'
  have hf' : e'.flushed = false := by simpa using hf'
  exact h.switch.apart c.device (hidle.not_copying c.device) e hmem e' he' hf hf' hd hd' hpair.symm

/-- A call reads its pairs. -/
theorem Once.read [DecidableEq δ] (h : Once s) (hi : s.cycles[i]? = some c) {memory : Bool}
    (hpc : c.pc = .reading memory) :
    Once (s.setPc i c (.analysing (c.select (s.switch.old.getBufferPairs c.device)))) := by
  have hc : c ∈ s.cycles := List.mem_of_getElem? hi
  have hrun : c.running = true := by simp [Cycle.running, hpc]
  have hidle := h.calm c hc hrun
  refine h.move hi h.switch id h.covering h.spent (fun _ => ⟨hidle, .inl hrun⟩) (h.covered_select hidle)
    (by simp [Cycle.consumed]) fun j d hji hj hdev => ⟨by simp [Cycle.consumed], fun e he hamong => ?_⟩
  -- What a call has flushed is not read.
  obtain ⟨e', he', heq⟩ := hamong
  have hread : e' ∈ s.switch.old.getBufferPairs c.device := by
    change e' ∈ c.select (s.switch.old.getBufferPairs c.device) at he'
    unfold Cycle.select at he'
    split at he'
    · exact he'
    · exact List.mem_of_mem_filter he'
  obtain ⟨hmem, hd, hf⟩ := Store.mem_getBufferPairs.mp hread
  have := (h.spent d (List.mem_of_getElem? hj) e he).flushed e' (List.mem_append_left _ hmem) (hd.trans hdev.symm) heq
  simp [hf] at this

theorem among_comm {es : List (Entry δ π)} {e e' : Entry δ π} (he' : e' ∈ es) (heq : e'.pair = e.pair) : among e es :=
  ⟨e', he', heq⟩

/-- **A call flushes what it learned.** -/
theorem Once.update [DecidableEq δ] (h : Once s) (hi : s.cycles[i]? = some c) {context marked : List (Entry δ π)}
    (hpc : c.pc = .marking context s.switch.oldShared) :
    Once (({ s with switch := { s.switch with old := s.switch.old.flushSelected c.device (c.analysedIds context) } } :
      State δ π).setPc i c (.marked context marked)) := by
  have hc : c ∈ s.cycles := List.mem_of_getElem? hi
  have hrun : c.running = true := by simp [Cycle.running, hpc]
  have hidle := h.calm c hc hrun
  have hcovering := h.covering c hc
  simp only [Cycle.Covering, hpc] at hcovering
  have hsentc : c.sent = context := by simp [Cycle.sent, hpc]
  refine h.move hi (h.switch.mark _) id (fun d hd => ?_) (fun d hd e he => (h.spent d hd e he).mark)
    (fun _ => ⟨hidle, .inl hrun⟩) trivial (fun e he => (hcovering.2 e he).spent (hidle.not_copying c.device))
    fun j d hji hj hdev => ⟨fun e he hamong => ?_, fun e he => ?_⟩
  · have hd := h.covering d hd
    unfold Cycle.Covering at hd ⊢
    split <;> simp only [*] at hd
    · exact hd
    · exact fun e he => (hd e he).mark
    · exact ⟨hd.1, fun e he => (hd.2 e he).mark⟩
    · trivial
  · -- Another call of the device that has sent something has learned from it, or runs at the same time.
    obtain ⟨e', he', heq⟩ := hamong
    by_cases hrun' : d.running = true
    · exact hji (h.mutex j i d c hj hi hrun' hrun hdev)
    · have hsent : d.sent = d.consumed := by
        unfold Cycle.running at hrun'
        unfold Cycle.sent Cycle.consumed
        split <;> simp_all
      exact h.once j i d c hji hj hi hdev e' (hsent ▸ he') (hsentc ▸ ⟨e, he, heq.symm⟩)
  · have := h.once j i d c hji hj hi hdev e he
    rwa [hsentc] at this

/-- A step of a call. -/
theorem Once.cycleStep [DecidableEq δ] (h : Once s) (hi : s.cycles[i]? = some c) {l : Label δ π} (hok : Calm s l)
    (hs : cycleStep s i c l = some s') : Once s' := by
  have hc : c ∈ s.cycles := List.mem_of_getElem? hi
  have hcovering := h.covering c hc
  unfold Flush.cycleStep at hs
  split at hs
  case h_1 =>
    split at hs
    next hpc =>
      split at hs
      next hfree =>
        cases hs
        refine h.move hi h.switch id h.covering h.spent (fun _ => ⟨hok, .inr fun d hd hdev => ?_⟩) rfl
          (by simp [Cycle.consumed]) fun j d _ _ _ => ⟨by simp [Cycle.consumed], fun _ _ hamong => ?_⟩
        · have := List.all_eq_true.mp hfree d hd
          simpa [hdev] using this
        · obtain ⟨_, hmem, -⟩ := hamong
          simp [Cycle.sent] at hmem
      next => cases hs
    next => cases hs
  case h_2 =>
    split at hs
    next backend hpc =>
      simp only [Cycle.Covering, hpc] at hcovering
      have hstore : s.storeOf backend = s.switch.old := if_pos hcovering
      dsimp only at hs
      rw [hstore] at hs
      split at hs <;> cases hs
      · exact h.advance hi (by simp [Cycle.running]) trivial (by simp [Cycle.sent]) (by simp [Cycle.consumed])
      · exact h.read hi hpc
    next => cases hs
  case h_3 =>
    split at hs
    next context hpc =>
      cases hs
      simp only [Cycle.Covering, hpc] at hcovering
      exact h.advance hi (by simp [Cycle.running, hpc]) ⟨rfl, hcovering⟩ (by simp [Cycle.sent, hpc])
        (by simp [Cycle.consumed])
    next => cases hs
  case h_4 =>
    split at hs
    next context hpc =>
      cases hs
      exact h.advance hi (by simp [Cycle.running]) trivial (by simp [Cycle.sent]) (by simp [Cycle.consumed])
    next => cases hs
  case h_5 =>
    split at hs
    next context backend hpc =>
      cases hs
      simp only [Cycle.Covering, hpc] at hcovering
      obtain ⟨rfl, -⟩ := hcovering
      simp only [State.storeOf, State.setStore, if_true]
      exact h.update hi hpc
    next => cases hs
  case h_6 =>
    split at hs
    next context _ hpc =>
      cases hs
      exact h.advance hi (by simp [Cycle.running]) trivial (by simp [Cycle.sent]) (by simp [Cycle.consumed])
    next => cases hs
  case h_7 =>
    split at hs
    next context marked hpc =>
      cases hs
      exact h.advance hi (by simp [Cycle.running]) trivial (by simp [Cycle.sent, hpc]) (by simp [Cycle.consumed, hpc])
    next => cases hs
  case h_8 =>
    split at hs
    next context marked hpc =>
      cases hs
      exact h.advance hi (by simp [Cycle.running]) trivial (by simp [Cycle.sent]) (by simp [Cycle.consumed])
    next => cases hs
  case h_9 => cases hs

variable [DecidableEq δ] [DecidableEq π]

/-- A pair nobody has seen arrives, in either store. -/
theorem Once.addPair (h : Once s) {memory : Bool} {id sequence size : Nat} {dev : δ} {pair : π}
    (hs : step s (.addPair memory id sequence dev pair size) = some s') : Once s' := by
  simp only [step] at hs
  split at hs
  case isFalse => cases hs
  case isTrue hcond =>
    cases hs
    simp only [Bool.and_eq_true, unseen, List.all_eq_true, bne_iff_ne, ne_eq] at hcond
    obtain ⟨⟨-, hold⟩, hnew⟩ := hcond
    obtain ⟨harrive, harrive'⟩ := h.switch.arrive hold hnew id sequence dev size
    have hspent : ∀ {d p}, Spent s.switch d p → p ≠ pair := by
      rintro d p hp rfl
      obtain ⟨e, he, heq⟩ := hp.held
      rcases List.mem_append.mp he with he | he
      · exact hold e he heq
      · exact hnew e he heq
    have hcovered : ∀ {d ids p}, Covered s.switch d ids p → p ≠ pair := by
      rintro d ids p hp rfl
      obtain ⟨e, he, heq⟩ := hp.held
      exact hold e he heq
    by_cases hm : memory = s.switch.oldShared
    · simp only [State.storeOf, State.setStore, if_pos hm]
      refine ⟨harrive, h.calm, h.mutex, fun c hc => ?_, fun c hc e he => ?_, h.once⟩
      · have hcov := h.covering c hc
        unfold Cycle.Covering at hcov ⊢
        split <;> simp only [*] at hcov
        · exact hcov
        · exact fun e he => (hcov e he).arrive_old (hcovered (hcov e he))
        · exact ⟨hcov.1, fun e he => (hcov.2 e he).arrive_old (hcovered (hcov.2 e he))⟩
        · trivial
      · exact (h.spent c hc e he).arrive_old (hspent (h.spent c hc e he))
    · simp only [State.storeOf, State.setStore, if_neg hm]
      refine ⟨harrive', h.calm, h.mutex, fun c hc => ?_, fun c hc e he => ?_, h.once⟩
      · have hcov := h.covering c hc
        unfold Cycle.Covering at hcov ⊢
        split <;> simp only [*] at hcov
        · exact hcov
        · exact fun e he => (hcov e he).arrive_new (hcovered (hcov e he))
        · exact ⟨hcov.1, fun e he => (hcov.2 e he).arrive_new (hcovered (hcov.2 e he))⟩
        · trivial
      · exact (h.spent c hc e he).arrive_new fun _ => hspent (h.spent c hc e he)

omit [DecidableEq δ] [DecidableEq π] in
/-- Where no call runs, nothing is to be covered. -/
theorem Cycle.covering_of_not_running (h : c.running = false) (sw : Switch.State δ π) : c.Covering sw := by
  unfold Cycle.running at h
  unfold Cycle.Covering
  split <;> simp_all

omit [DecidableEq δ] [DecidableEq π] in
/-- A switch goes on while no call runs. -/
theorem Once.switched (h : Once s) (hnone : ∀ c ∈ s.cycles, c.running = false) (hswitch : SwitchInv sw)
    (hspent : ∀ c ∈ s.cycles, ∀ e ∈ c.consumed, Spent sw c.device e.pair) : Once { s with switch := sw } :=
  ⟨hswitch, fun c hc hrun => by simp [hnone c hc] at hrun, h.mutex,
    fun c hc => Cycle.covering_of_not_running (hnone c hc) sw, hspent, h.once⟩

omit [DecidableEq δ] [DecidableEq π] in
/-- A call fails where it is. -/
theorem Once.abort (h : Once s) (hi : s.cycles[i]? = some c) (context marked : List (Entry δ π)) :
    Once (s.setPc i c (.failed context marked)) :=
  h.advance hi (by simp [Cycle.running]) trivial (by simp [Cycle.sent]) (by simp [Cycle.consumed])

/-- **A calm step keeps the invariant.** -/
theorem Once.step (h : Once s) {l : Label δ π} (hok : Calm s l) (hs : step s l = some s') : Once s' := by
  have hcall : ∀ {i}, (s.cycles[i]?.bind fun c => Flush.cycleStep s i c l) = some s' → Once s' := by
    intro i hs
    obtain ⟨c, hi, hs⟩ := Option.bind_eq_some_iff.mp hs
    exact h.cycleStep hi hok hs
  cases l with
  | flushAndLearn dev pairIds =>
    cases hs
    have hget : ∀ {k c}, (s.cycles ++ [{ device := dev, pairIds }])[k]? = some c →
        s.cycles[k]? = some c ∨ (k = s.cycles.length ∧ c = { device := dev, pairIds }) := by
      intro k c hk
      rcases Nat.lt_trichotomy k s.cycles.length with hlt | rfl | hgt
      · rw [List.getElem?_append_left hlt] at hk
        exact .inl hk
      · simp at hk
        exact .inr ⟨rfl, hk.symm⟩
      · rw [List.getElem?_eq_none (by simp; omega)] at hk
        cases hk
    refine ⟨h.switch, fun c hc hrun => ?_, fun k l c c' hk hl hrun hrun' hdev => ?_, fun c hc => ?_,
      fun c hc e he => ?_, fun k l c c' hkl hk hl hdev => ?_⟩
    · rcases List.mem_append.mp hc with hc | hc
      · exact h.calm c hc hrun
      · rw [List.mem_singleton.mp hc] at hrun
        cases hrun
    · rcases hget hk with hk | ⟨-, rfl⟩ <;> rcases hget hl with hl | ⟨-, rfl⟩
      · exact h.mutex k l c c' hk hl hrun hrun' hdev
      · cases hrun'
      · cases hrun
      · cases hrun
    · rcases List.mem_append.mp hc with hc | hc
      · exact h.covering c hc
      · rw [List.mem_singleton.mp hc]
        trivial
    · rcases List.mem_append.mp hc with hc | hc
      · exact h.spent c hc e he
      · rw [List.mem_singleton.mp hc] at he
        cases he
    · rcases hget hk with hk | ⟨hk, rfl⟩
      · rcases hget hl with hl | ⟨-, rfl⟩
        · exact h.once k l c c' hkl hk hl hdev
        · exact fun e _ hamong => by obtain ⟨_, hmem, -⟩ := hamong; cases hmem
      · exact fun e he => by cases he
  | addPair memory id sequence dev pair size => exact h.addPair hs
  | startSwitch ids =>
    obtain ⟨sw, hsw, rfl⟩ := Option.map_eq_some_iff.mp hs
    exact h.switched hok (h.switch.start hsw).1 fun c hc e he => (h.spent c hc e he).start hsw
  | switchStep id sequence =>
    simp only [Flush.step, Switch.step, Option.map_eq_some_iff] at hs
    obtain ⟨sw, hsw, rfl⟩ := hs
    -- A switch that goes on has started, so no call runs.
    have hnone : ∀ c ∈ s.cycles, c.running = false := by
      intro c hc
      by_contra hrun
      have hidle := h.calm c hc (by simpa using hrun)
      unfold State.SwitchIdle at hidle
      unfold Switch.proceed at hsw
      split at hidle <;> simp_all
    exact h.switched hnone (h.switch.proceed hsw).rebind fun c hc e he => ((h.spent c hc e he).proceed hsw).rebind
  | acquire i => exact hcall hs
  | read i => exact hcall hs
  | analysed i => exact hcall hs
  | analysisFailed i => exact hcall hs
  | update i => exact hcall hs
  | updateRaised i => exact hcall hs
  | finish i => exact hcall hs
  | finishRaised i => exact hcall hs

end

end RideTheApi.Flush
