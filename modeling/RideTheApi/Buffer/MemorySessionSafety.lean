import Mathlib.Data.List.Chain
import RideTheApi.Buffer.MemorySession

/-!
# `Buffer.MemorySessionSafety` — one task at a time, and all of a session or nothing

The invariant ties the gate to the sessions: it is free, or one task holds it as deep as it has sessions open. While a
task has the gate nobody else touches the connection, so an outermost session knows what the connection has of it until
it is left.
-/

namespace RideTheApi.Buffer.Memory

open Transition

universe u v

variable {τ : Type u} {β : Type v}

/-! ## The gate -/

section
variable [DecidableEq τ] {g : SessionGate τ} {opened : τ → Nat} {t : τ}

/-- The gate is free and no task has a session open, or one task has the gate, as deep as it has sessions open. -/
def SessionGate.Holds (g : SessionGate τ) (opened : τ → Nat) : Prop :=
  (g = {} ∧ ∀ t, opened t = 0) ∨
    ∃ t, 0 < opened t ∧ g = { locked := true, owner := some t, depth := opened t } ∧ ∀ t', t' ≠ t → opened t' = 0

/-- A task with a session open has the gate, and no other has one open. -/
theorem SessionGate.Holds.of_opened (h : g.Holds opened) (ht : 0 < opened t) :
    g = { locked := true, owner := some t, depth := opened t } ∧ ∀ t', t' ≠ t → opened t' = 0 := by
  rcases h with ⟨-, hnone⟩ | ⟨t₀, -, hg, hothers⟩
  · have := hnone t
    omega
  · by_cases heq : t = t₀
    · subst heq
      exact ⟨hg, hothers⟩
    · have := hothers t heq
      omega

omit [DecidableEq τ] in
/-- The owner has a session open. -/
theorem SessionGate.Holds.of_owner (h : g.Holds opened) (howner : g.owner = some t) : 0 < opened t := by
  rcases h with ⟨rfl, -⟩ | ⟨t₀, hpos, rfl, -⟩
  · cases howner
  · cases howner
    exact hpos

omit [DecidableEq τ] in
/-- Where no task has a session open, the gate is free. -/
theorem SessionGate.Holds.of_none (h : g.Holds opened) (hnone : ∀ t, opened t = 0) : g = {} := by
  rcases h with ⟨hg, -⟩ | ⟨t₀, hpos, -⟩
  · exact hg
  · have := hnone t₀
    omega

omit [DecidableEq τ] in
/-- Behind a lock that is not held no session is open. -/
theorem SessionGate.Holds.of_unlocked (h : g.Holds opened) (hlock : g.locked = false) (t : τ) : opened t = 0 := by
  rcases h with ⟨-, hnone⟩ | ⟨t₀, -, rfl, -⟩
  · exact hnone t
  · cases hlock

/-- The owner opens a session inside. -/
theorem SessionGate.Holds.reenter (h : g.Holds opened) (howner : g.owner = some t) :
    g.reenter.Holds (Function.update opened t (opened t + 1)) := by
  obtain ⟨rfl, hothers⟩ := h.of_opened (h.of_owner howner)
  refine .inr ⟨t, by simp, by simp [SessionGate.reenter], fun t' ht' => ?_⟩
  rw [Function.update_of_ne ht']
  exact hothers t' ht'

/-- The lock is granted. -/
theorem SessionGate.Holds.take (h : g.Holds opened) (hlock : g.locked = false) :
    (SessionGate.take t).Holds (Function.update opened t 1) := by
  refine .inr ⟨t, by simp, by simp [SessionGate.take], fun t' ht' => ?_⟩
  rw [Function.update_of_ne ht']
  exact h.of_unlocked hlock t'

/-- A task with a session open releases: the lock is there to be released, and free after the outermost session. -/
theorem SessionGate.Holds.release (h : g.Holds opened) (ht : 0 < opened t) :
    ∃ g', g.release = some g' ∧ g'.Holds (Function.update opened t (opened t - 1)) := by
  obtain ⟨rfl, hothers⟩ := h.of_opened ht
  unfold SessionGate.release
  by_cases hlast : opened t = 1
  · refine ⟨{}, by simp [hlast], .inl ⟨rfl, fun t' => ?_⟩⟩
    by_cases heq : t' = t
    · subst heq
      simp [hlast]
    · rw [Function.update_of_ne heq]
      exact hothers t' heq
  · have hmore : ¬ ((opened t : Int) - 1 = 0) := by omega
    refine ⟨_, by rw [if_neg hmore], .inr ⟨t, ?_, ?_, fun t' ht' => ?_⟩⟩
    · rw [Function.update_self]
      omega
    · have hdepth : ((opened t - 1 : Nat) : Int) = (opened t : Int) - 1 := by omega
      rw [Function.update_self, hdepth]
    · rw [Function.update_of_ne ht']
      exact hothers t' ht'

end

/-! ## The connection -/

namespace Connection

theorem writesOf_append (id : Nat) (ws vs : List (Nat × β)) : writesOf id (ws ++ vs) = writesOf id ws ++ writesOf id vs := by
  simp [writesOf]

theorem writesOf_self (id : Nat) (w : β) : writesOf id [(id, w)] = [w] := by simp [writesOf]

theorem writesOf_of_ne {id other : Nat} (h : other ≠ id) (w : β) : writesOf id [(other, w)] = [] := by simp [writesOf, h]

theorem writesOf_of_below {id : Nat} {ws : List (Nat × β)} (h : ∀ w ∈ ws, w.1 < id) : writesOf id ws = [] := by
  simp only [writesOf, List.map_eq_nil_iff, List.filter_eq_nil_iff, decide_eq_true_eq]
  intro w hw heq
  have := h w hw
  omega

/-- What a session does to the connection. -/
inductive Touched (c : Connection β) (id : Nat) : Connection β → Prop where
  | same : Touched c id c
  | sent (w : β) : Touched c id (c.send id w)
  | committed : Touched c id c.commit
  | rolledBack : Touched c id c.rollback

variable {c c' : Connection β} {id id' : Nat}

/-- Of a session that has nothing in the transaction, the connection keeps what it has. -/
theorem Touched.others (h : c.Touched id c') (hne : id ≠ id') (hnone : c.pendingOf id' = []) :
    c'.pendingOf id' = [] ∧ c'.committedOf id' = c.committedOf id' := by
  cases h with
  | same => exact ⟨hnone, rfl⟩
  | sent w =>
    refine ⟨?_, rfl⟩
    show writesOf id' (c.uncommitted ++ [(id, w)]) = []
    rw [writesOf_append, writesOf_of_ne hne, List.append_nil]
    exact hnone
  | committed =>
    refine ⟨rfl, ?_⟩
    show writesOf id' (c.committed ++ c.uncommitted) = _
    rw [writesOf_append, show writesOf id' c.uncommitted = [] from hnone, List.append_nil]
    rfl
  | rolledBack => exact ⟨rfl, rfl⟩

/-- Every write the connection has is of a session below. -/
def Below (c : Connection β) (n : Nat) : Prop := ∀ w ∈ c.uncommitted ++ c.committed, w.1 < n

theorem Touched.below {n : Nat} (h : c.Touched id c') (hid : id < n) (hc : c.Below n) : c'.Below n := by
  cases h with
  | same => exact hc
  | sent w =>
    intro v hv
    simp only [send, List.mem_append, List.mem_singleton] at hv
    rcases hv with (hv | rfl) | hv
    · exact hc v (List.mem_append_left _ hv)
    · exact hid
    · exact hc v (List.mem_append_right _ hv)
  | committed =>
    intro v hv
    simp only [commit, List.nil_append] at hv
    exact hc v (List.mem_append.mpr (List.mem_append.mp hv).symm)
  | rolledBack =>
    intro v hv
    exact hc v (List.mem_append_right _ hv)

end Connection

/-! ## One session -/

namespace Session

open Connection

/-- What is known of an outermost session that had none inside it, by where it is. -/
def Tracked (f : Session β) (c : Connection β) : Prop :=
  match f.phase with
  | .starting | .waiting =>
    f.ending = .running ∧ f.writes = [] ∧ f.unflushed = [] ∧ f.begun = false ∧ c.pendingOf f.id = [] ∧
      c.committedOf f.id = []
  | .body =>
    f.ending = .running ∧ c.pendingOf f.id ++ f.unflushed = f.writes ∧ (f.begun = false → c.pendingOf f.id = []) ∧
      c.committedOf f.id = []
  | .committing =>
    f.ending = .ended ∧ c.pendingOf f.id ++ f.unflushed = f.writes ∧ (f.begun = false → c.pendingOf f.id = []) ∧
      c.committedOf f.id = []
  | .committed => f.ending = .ended ∧ f.begun = false ∧ c.pendingOf f.id = [] ∧ c.committedOf f.id = f.writes
  | .rollingBack | .closing =>
    (f.begun = false → c.pendingOf f.id = []) ∧ c.committedOf f.id = if f.ending = .ended then f.writes else []

/-- What the connection has of a session that was left: all of it or nothing. -/
def Settled (r : Session β) (c : Connection β) : Prop :=
  c.pendingOf r.id = [] ∧ c.committedOf r.id = if r.ending = .ended then r.writes else []

variable {f f' : Session β} {c c' : Connection β}

/-- What is known of a session that has not opened: it has done nothing. -/
theorem tracked_of_closed (hf : f.isOpen = false) : f.Tracked c ↔
    f.ending = .running ∧ f.writes = [] ∧ f.unflushed = [] ∧ f.begun = false ∧ c.pendingOf f.id = [] ∧
      c.committedOf f.id = [] := by
  have hphase : f.phase = .starting ∨ f.phase = .waiting := by
    cases hp : f.phase <;> simp [isOpen, hp] at hf ⊢
  rcases hphase with hp | hp <;> simp only [Tracked, hp]

/-- What is known of a session in its body or about to commit: the connection has all it wrote but what is not flushed. -/
theorem Tracked.unfinished (ht : f.Tracked c) (hf : f.phase = .body ∨ f.phase = .committing) :
    c.pendingOf f.id ++ f.unflushed = f.writes ∧ (f.begun = false → c.pendingOf f.id = []) ∧ c.committedOf f.id = [] := by
  rcases hf with hf | hf
  · simp only [Tracked, hf] at ht
    exact ht.2
  · simp only [Tracked, hf] at ht
    exact ht.2

/-- A session that is open stays the session it is, and open. -/
theorem Advanced.same (h : f.Advanced c f' c') (hf : f.isOpen = true) :
    f'.id = f.id ∧ f'.nested = f.nested ∧ f'.isOpen = true := by
  cases h with
  | failed _ hphase _ => rcases hphase with rfl | rfl <;> exact ⟨rfl, rfl, rfl⟩
  | finished _ hphase => rcases hphase with rfl | rfl <;> exact ⟨rfl, rfl, rfl⟩
  | read _ => exact ⟨rfl, rfl, hf⟩
  | wrote _ _ => exact ⟨rfl, rfl, hf⟩
  | sent _ _ => exact ⟨rfl, rfl, hf⟩
  | _ => exact ⟨rfl, rfl, rfl⟩

/-- It touches the connection as a session does. -/
theorem Advanced.touched (h : f.Advanced c f' c') : c.Touched f.id c' := by
  cases h with
  | @sent w ws _ _ => exact .sent w
  | landed _ _ =>
    split
    · exact .committed
    · exact .same
  | rolledBack _ =>
    split
    · exact .rolledBack
    · exact .same
  | _ => exact .same

/-- What is known of it stays known. -/
theorem Advanced.tracked (h : f.Advanced c f' c') (ht : f.Tracked c) : f'.Tracked c' := by
  cases h with
  | read hf =>
    simp only [Tracked, hf] at ht ⊢
    exact ⟨ht.1, ht.2.1, (fun h => by cases h), ht.2.2.2⟩
  | wrote w hf =>
    simp only [Tracked, hf] at ht ⊢
    refine ⟨ht.1, ?_, ht.2.2⟩
    rw [← List.append_assoc, ht.2.1]
  | @sent w ws hf hw =>
    have hsent : (c.send f.id w).pendingOf f.id ++ ws = c.pendingOf f.id ++ f.unflushed := by
      show writesOf f.id (c.uncommitted ++ [(f.id, w)]) ++ ws = _
      rw [writesOf_append, writesOf_self, hw, List.append_assoc]
      rfl
    rcases hf with hf | hf
    · simp only [Tracked, hf] at ht ⊢
      exact ⟨ht.1, hsent.trans ht.2.1, (fun h => by cases h), ht.2.2.2⟩
    · simp only [Tracked, hf] at ht ⊢
      exact ⟨ht.1, hsent.trans ht.2.1, (fun h => by cases h), ht.2.2.2⟩
  | landed hf hw =>
    simp only [Tracked, hf, hw, List.append_nil] at ht ⊢
    obtain ⟨hending, hpending, hbegun, hcommitted⟩ := ht
    refine ⟨hending, trivial, ?_⟩
    cases hb : f.begun with
    | true =>
      refine ⟨rfl, ?_⟩
      show writesOf f.id (c.committed ++ c.uncommitted) = _
      rw [writesOf_append, show writesOf f.id c.committed = [] from hcommitted, List.nil_append]
      exact hpending
    | false =>
      -- nothing was written, and there is no COMMIT to make
      have hnone := hbegun hb
      exact ⟨hnone, by rw [← hpending, hnone]; exact hcommitted⟩
  | ended hf =>
    simp only [Tracked, hf] at ht ⊢
    exact ⟨trivial, ht.2⟩
  | failed hf hphase hending =>
    have hknown : (f.begun = false → c.pendingOf f.id = []) ∧ c.committedOf f.id = [] := (ht.unfinished hf).2
    rcases hphase with rfl | rfl
    · simpa [Tracked, hending] using hknown
    · simpa [Tracked, hending] using hknown
  | finished hf hphase =>
    simp only [Tracked, hf] at ht
    obtain ⟨hending, -, hpending, hcommitted⟩ := ht
    rcases hphase with rfl | rfl
    · simp [Tracked, hending, hpending, hcommitted]
    · simp [Tracked, hending, hpending, hcommitted]
  | rolledBack hf =>
    simp only [Tracked, hf] at ht ⊢
    obtain ⟨hbegun, hcommitted⟩ := ht
    cases hb : f.begun with
    | true => exact ⟨fun _ => rfl, hcommitted⟩
    | false => exact ⟨fun _ => hbegun hb, hcommitted⟩
  | interrupted hf =>
    simp only [Tracked, hf] at ht ⊢
    exact ht

/-- A session that has not opened knows as much after another touched the connection. -/
theorem Tracked.others {id : Nat} (ht : f.Tracked c) (hf : f.isOpen = false) (h : c.Touched id c') (hne : id ≠ f.id) :
    f.Tracked c' := by
  rw [tracked_of_closed hf] at ht ⊢
  obtain ⟨hending, hwrites, hunflushed, hbegun, hpending, hcommitted⟩ := ht
  obtain ⟨hpending', hcommitted'⟩ := h.others hne hpending
  exact ⟨hending, hwrites, hunflushed, hbegun, hpending', hcommitted'.trans hcommitted⟩

/-- A session that was left stays settled. -/
theorem Settled.others {id : Nat} (hs : f.Settled c) (h : c.Touched id c') (hne : id ≠ f.id) : f.Settled c' := by
  obtain ⟨hpending', hcommitted'⟩ := h.others hne hs.1
  exact ⟨hpending', hcommitted'.trans hs.2⟩

theorem touched_close (f : Session β) (c : Connection β) : c.Touched f.id (f.close c) := by
  unfold close
  split
  · exact .rolledBack
  · exact .same

/-- Closing settles. -/
theorem Tracked.close (ht : f.Tracked c) (hf : f.phase = .closing) : f.Settled (f.close c) := by
  simp only [Tracked, hf] at ht
  unfold Session.close
  cases hb : f.begun with
  | true => exact ⟨rfl, ht.2⟩
  | false => exact ⟨ht.1 hb, ht.2⟩

/-! ## The sessions of a task -/

/-- How a session lies on another of its task: in its body, and not behind another task. -/
def Over (f g : Session β) : Prop := g.phase = .body ∧ f.phase ≠ .waiting ∧ (f.isOpen = true → g.nested = true)

/-- Under a session that is open, the outermost one has a session inside it. -/
theorem nested_of_over {rest : List (Session β)} (h : (f :: rest).IsChain Over) (hf : f.isOpen = true) {g : Session β}
    (hg : rest.getLast? = some g) : g.nested = true := by
  induction rest generalizing f with
  | nil => cases hg
  | cons g' rest ih =>
    obtain ⟨hover, hrest⟩ := List.isChain_cons_cons.mp h
    cases rest with
    | nil =>
      cases hg
      exact hover.2.2 hf
    | cons g'' rest => exact ih hrest (by simp [isOpen, hover.1]) (by simpa using hg)

/-- The session on top is replaced by one that is open. -/
theorem Over.top {rest : List (Session β)} (h : (f :: rest).IsChain Over) (hf : f.isOpen = true) (hf' : f'.isOpen = true) :
    (f' :: rest).IsChain Over := by
  cases rest with
  | nil => exact .singleton f'
  | cons g rest =>
    obtain ⟨hover, hrest⟩ := List.isChain_cons_cons.mp h
    refine List.isChain_cons_cons.mpr ⟨⟨hover.1, fun hw => ?_, fun _ => hover.2.2 hf⟩, hrest⟩
    simp [isOpen, hw] at hf'

/-- A session is opened in the body of the one below. -/
theorem Over.opened {rest : List (Session β)} (h : (f :: rest).IsChain Over) (hf' : f'.isOpen = true) :
    (f' :: rest.modifyHead fun g => { g with nested := true }).IsChain Over := by
  have hwait : f'.phase ≠ .waiting := fun hw => by simp [isOpen, hw] at hf'
  cases rest with
  | nil => exact .singleton f'
  | cons g rest =>
    obtain ⟨hover, hrest⟩ := List.isChain_cons_cons.mp h
    refine List.isChain_cons_cons.mpr ⟨⟨hover.1, hwait, fun _ => rfl⟩, ?_⟩
    cases rest with
    | nil => exact .singleton _
    | cons g' rest =>
      obtain ⟨hover', hrest'⟩ := List.isChain_cons_cons.mp hrest
      exact List.isChain_cons_cons.mpr ⟨hover', hrest'⟩

end Session

/-! ## The invariant -/

namespace State

open Session

variable [DecidableEq τ]

/-- How many sessions a task has open. -/
def opened (s : State τ β) (t : τ) : Nat := (s.sessions t).countP Session.isOpen

omit [DecidableEq τ] in
theorem inSession_iff {s : State τ β} {t : τ} : s.InSession t ↔ 0 < s.opened t := List.countP_pos_iff.symm

/-- What holds between the steps of the tasks. -/
structure Inv (s : State τ β) : Prop where
  held : s.gate.Holds s.opened
  stacked : ∀ t, (s.sessions t).IsChain Over
  below : ∀ t, ∀ f ∈ s.sessions t, f.id < s.next
  apart : ∀ t t', t ≠ t' → ∀ f ∈ s.sessions t, ∀ g ∈ s.sessions t', f.id ≠ g.id
  leftBelow : ∀ r ∈ s.left, r.id < s.next
  leftApart : ∀ r ∈ s.left, ∀ t, ∀ f ∈ s.sessions t, f.id ≠ r.id
  known : s.conn.Below s.next
  tracked : ∀ t f, (s.sessions t).getLast? = some f → f.nested = false → f.Tracked s.conn
  settled : ∀ r ∈ s.left, r.nested = false → r.Settled s.conn
  unraised : s.raised = false

variable {s s' : State τ β} {t : τ} {f : Session β} {rest fs : List (Session β)} {gate : SessionGate τ} {conn : Connection β}
  {left : List (Session β)} {next : Nat}

theorem opened_put (s : State τ β) (t : τ) (fs : List (Session β)) :
    (s.put t fs).opened = Function.update s.opened t (fs.countP Session.isOpen) := by
  funext t'
  by_cases h : t' = t
  · subst h
    simp [opened, put]
  · simp [opened, put, h]

/-- Under the gate nobody else has a session open. -/
theorem Inv.not_open (h : s.Inv) (ht : 0 < s.opened t) {t' : τ} (hne : t' ≠ t) {g : Session β} (hg : g ∈ s.sessions t') :
    g.isOpen = false := by
  have hnone := (h.held.of_opened ht).2 t' hne
  simpa using List.countP_eq_zero.mp hnone g hg

omit [DecidableEq τ] in
theorem opened_pos (h : s.sessions t = f :: rest) (hf : f.isOpen = true) : 0 < s.opened t :=
  inSession_iff.mp ⟨f, by rw [h]; exact List.mem_cons_self, hf⟩

/-- **What a step must show.** One task's sessions, the gate and the connection change; the rest of the invariant is
    kept where the sessions keep their names, the connection is touched by an open session only, and what is left is
    settled. -/
theorem Inv.replace (h : s.Inv) (hgate : gate.Holds (Function.update s.opened t (fs.countP Session.isOpen)))
    (hstacked : fs.IsChain Over) (hnext : s.next ≤ next)
    (hnames : ∀ f ∈ fs, f.id < next ∧ ((∃ g ∈ s.sessions t, f.id = g.id) ∨ s.next ≤ f.id))
    (htouched : conn = s.conn ∨ ∃ f ∈ s.sessions t, f.isOpen = true ∧ s.conn.Touched f.id conn)
    (htracked : ∀ f, fs.getLast? = some f → f.nested = false → f.Tracked conn)
    (hleft : ∀ r ∈ left, r ∈ s.left ∨ (∃ g ∈ s.sessions t, r.id = g.id) ∧ fs = [] ∧ (r.nested = false → r.Settled conn)) :
    { s.put t fs with gate, conn, left, next }.Inv := by
  have hself : Function.update s.sessions t fs t = fs := Function.update_self t fs s.sessions
  have helse : ∀ {t'}, t' ≠ t → Function.update s.sessions t fs t' = s.sessions t' := by
    intro t' hne
    exact Function.update_of_ne hne fs s.sessions
  -- the names of the task's sessions are its own
  have hown : ∀ f ∈ fs, ∀ t', t' ≠ t → ∀ g ∈ s.sessions t', f.id ≠ g.id := by
    intro f hf t' hne g hg
    rcases (hnames f hf).2 with ⟨g₀, hg₀, heq⟩ | hnew
    · exact heq ▸ h.apart t t' (Ne.symm hne) g₀ hg₀ g hg
    · have := h.below t' g hg
      omega
  -- elsewhere nothing is known that the connection could have lost
  have helsewhere : ∀ t', t' ≠ t → ∀ g ∈ s.sessions t', g.Tracked s.conn → g.Tracked conn := by
    intro t' hne g hg ht
    rcases htouched with rfl | ⟨f, hf, hopen, htouch⟩
    · exact ht
    · have hpos : 0 < s.opened t := inSession_iff.mp ⟨f, hf, hopen⟩
      exact ht.others (h.not_open hpos hne hg) htouch (h.apart t t' (Ne.symm hne) f hf g hg)
  refine ⟨?_, fun t' => ?_, fun t' => ?_, fun t₁ t₂ hne => ?_, fun r hr => ?_, fun r hr t' f hf => ?_, ?_, fun t' => ?_,
    fun r hr hnested => ?_, h.unraised⟩
  · show gate.Holds (s.put t fs).opened
    rw [opened_put]
    exact hgate
  · show (Function.update s.sessions t fs t').IsChain Over
    by_cases heq : t' = t
    · rw [heq, hself]
      exact hstacked
    · rw [helse heq]
      exact h.stacked t'
  · show ∀ f ∈ Function.update s.sessions t fs t', f.id < next
    by_cases heq : t' = t
    · rw [heq, hself]
      exact fun f hf => (hnames f hf).1
    · rw [helse heq]
      exact fun f hf => (h.below t' f hf).trans_le hnext
  · -- the names of different tasks stay apart
    show ∀ f ∈ Function.update s.sessions t fs t₁, ∀ g ∈ Function.update s.sessions t fs t₂, f.id ≠ g.id
    by_cases h₁ : t₁ = t
    · subst h₁
      rw [hself, helse (Ne.symm hne)]
      exact fun f hf => hown f hf t₂ (Ne.symm hne)
    · rw [helse h₁]
      by_cases h₂ : t₂ = t
      · subst h₂
        rw [hself]
        exact fun f hf g hg => (hown g hg t₁ hne f hf).symm
      · rw [helse h₂]
        exact h.apart t₁ t₂ hne
  · rcases hleft r hr with hold | ⟨⟨g, hg, heq⟩, -⟩
    · exact (h.leftBelow r hold).trans_le hnext
    · show r.id < next
      rw [heq]
      exact (h.below t g hg).trans_le hnext
  · -- a session that was just left is the last of its task, so that nothing there has its name
    change f ∈ Function.update s.sessions t fs t' at hf
    by_cases heq : t' = t
    · rw [heq, hself] at hf
      rcases hleft r hr with hold | ⟨-, hempty, -⟩
      · rcases (hnames f hf).2 with ⟨g, hg, hid⟩ | hnew
        · rw [hid]
          exact h.leftApart r hold t g hg
        · have := h.leftBelow r hold
          omega
      · rw [hempty] at hf
        cases hf
    · rw [helse heq] at hf
      rcases hleft r hr with hold | ⟨⟨g, hg, hid⟩, -⟩
      · exact h.leftApart r hold t' f hf
      · rw [hid]
        exact h.apart t' t heq f hf g hg
  · -- what is on the connection has a name that was given
    have hknown : conn.Below s.next := by
      rcases htouched with rfl | ⟨f, hf, -, htouch⟩
      · exact h.known
      · exact htouch.below (h.below t f hf) h.known
    exact fun w hw => (hknown w hw).trans_le hnext
  · -- the outermost sessions are known
    show ∀ f, (Function.update s.sessions t fs t').getLast? = some f → f.nested = false → f.Tracked conn
    by_cases heq : t' = t
    · rw [heq, hself]
      exact htracked
    · rw [helse heq]
      exact fun f hf hnested => helsewhere t' heq f (List.mem_of_getLast? hf) (h.tracked t' f hf hnested)
  · rcases hleft r hr with hold | ⟨-, -, hsettled⟩
    · rcases htouched with rfl | ⟨f, hf, -, htouch⟩
      · exact h.settled r hold hnested
      · exact (h.settled r hold hnested).others htouch (h.leftApart r hold t f hf)
    · exact hsettled hnested

/-- The gate is as it was, and the task has as many sessions open. -/
theorem Inv.held_same (h : s.Inv) (hsame : fs.countP Session.isOpen = s.opened t) :
    s.gate.Holds (Function.update s.opened t (fs.countP Session.isOpen)) := by
  rw [hsame, Function.update_eq_self]
  exact h.held

omit [DecidableEq τ] in
/-- The names of sessions a task has are not new. -/
theorem Inv.names (h : s.Inv) (hids : ∀ f ∈ fs, ∃ g ∈ s.sessions t, f.id = g.id) :
    ∀ f ∈ fs, f.id < s.next ∧ ((∃ g ∈ s.sessions t, f.id = g.id) ∨ s.next ≤ f.id) := by
  intro f hf
  obtain ⟨g, hg, heq⟩ := hids f hf
  exact ⟨heq ▸ h.below t g hg, .inl ⟨g, hg, heq⟩⟩

/-- A task enters `memory_session`. -/
theorem Inv.entered (h : s.Inv) (hbody : ∀ f ∈ (s.sessions t).head?, f.phase = .body) : (s.enter t).Inv := by
  have hopened : (({ id := s.next } : Session β) :: s.sessions t).countP Session.isOpen = s.opened t :=
    List.countP_cons_of_neg (by simp [isOpen])
  have hstacked : (({ id := s.next } : Session β) :: s.sessions t).IsChain Over := by
    refine List.isChain_cons.mpr ⟨fun g hg => ⟨hbody g hg, by simp, fun hopen => ?_⟩, h.stacked t⟩
    simp [isOpen] at hopen
  refine h.replace (h.held_same hopened) hstacked (Nat.le_succ _) ?_ (.inl rfl) ?_ (fun r hr => .inl hr)
  · intro f hf
    rcases List.mem_cons.mp hf with rfl | hf
    · exact ⟨Nat.lt_succ_self _, .inr le_rfl⟩
    · exact ⟨(h.below t f hf).trans (Nat.lt_succ_self _), .inl ⟨f, hf, rfl⟩⟩
  · intro f hf hnested
    cases hstack : s.sessions t with
    | nil =>
      rw [hstack] at hf
      cases hf
      -- nothing on the connection has the new name yet
      have hnew : ∀ ws : List (Nat × β), (∀ w ∈ ws, w ∈ s.conn.uncommitted ++ s.conn.committed) →
          Connection.writesOf s.next ws = [] := fun ws hws => Connection.writesOf_of_below fun w hw => h.known w (hws w hw)
      exact ⟨rfl, rfl, rfl, rfl, hnew _ fun w hw => List.mem_append_left _ hw, hnew _ fun w hw => List.mem_append_right _ hw⟩
    | cons g rest =>
      rw [hstack, List.getLast?_cons_cons] at hf
      exact h.tracked t f (by rw [hstack]; exact hf) hnested

/-- A task that has not got the gate gives up. -/
theorem Inv.gaveUp (h : s.Inv) (hstack : s.sessions t = f :: rest) (hf : f.isOpen = false) : (s.put t rest).Inv := by
  have hopened : rest.countP Session.isOpen = s.opened t := by simp [opened, hstack, hf]
  have hstacked : rest.IsChain Over := by
    have := (h.stacked t).tail
    rwa [hstack] at this
  refine h.replace (h.held_same hopened) hstacked le_rfl (h.names fun g hg => ⟨g, ?_, rfl⟩) (.inl rfl) ?_ (fun r hr => .inl hr)
  · rw [hstack]
    exact List.mem_cons_of_mem _ hg
  · intro g hg hnested
    refine h.tracked t g ?_ hnested
    rw [hstack]
    cases rest with
    | nil => cases hg
    | cons g' rest => exact hg

/-- A task that does not own the gate has no session below the one it is opening. -/
theorem Inv.rest_nil (h : s.Inv) (hstack : s.sessions t = f :: rest) (howner : s.gate.owner ≠ some t) : rest = [] := by
  cases rest with
  | nil => rfl
  | cons g rest =>
    have hchain := h.stacked t
    rw [hstack] at hchain
    have hbody := (List.isChain_cons_cons.mp hchain).1.1
    have hpos : 0 < s.opened t := inSession_iff.mp ⟨g, by simp [hstack], by simp [isOpen, hbody]⟩
    obtain ⟨hgate, -⟩ := h.held.of_opened hpos
    exact absurd (by rw [hgate]) howner

/-- A task joins the queue of the lock. -/
theorem Inv.queued (h : s.Inv) (hstack : s.sessions t = f :: rest) (hf : f.phase = .starting)
    (howner : s.gate.owner ≠ some t) : (s.put t ({ f with phase := .waiting } :: rest)).Inv := by
  have hrest := h.rest_nil hstack howner
  subst hrest
  have hopened : [{ f with phase := .waiting }].countP Session.isOpen = s.opened t := by
    simp [opened, hstack, isOpen, hf]
  refine h.replace (h.held_same hopened) (.singleton _) le_rfl (h.names fun g hg => ⟨f, ?_, ?_⟩) (.inl rfl) ?_
    (fun r hr => .inl hr)
  · simp [hstack]
  · rw [List.mem_singleton.mp hg]
  · rintro g hg hnested
    cases hg
    have htracked := h.tracked t f (by simp [hstack]) hnested
    rw [tracked_of_closed (by simp [isOpen, hf])] at htracked
    rw [tracked_of_closed (by simp [isOpen])]
    exact htracked

/-- A session whose task got the gate is in its body. -/
theorem tracked_body {c : Connection β} (hf : f.isOpen = false) (ht : f.Tracked c) :
    ({ f with phase := .body } : Session β).Tracked c := by
  rw [tracked_of_closed hf] at ht
  obtain ⟨hending, hwrites, hunflushed, -, hpending, hcommitted⟩ := ht
  simp [Tracked, hending, hwrites, hunflushed, hpending, hcommitted]

/-- The owner opens a session inside its own. -/
theorem Inv.reentered (h : s.Inv) (hstack : s.sessions t = f :: rest) (hf : f.phase = .starting)
    (howner : s.gate.owner = some t) :
    { s.put t ({ f with phase := .body } :: rest.modifyHead fun g => { g with nested := true }) with
      gate := s.gate.reenter }.Inv := by
  have hclosed : f.isOpen = false := by simp [isOpen, hf]
  have hcount : (rest.modifyHead fun g => { g with nested := true }).countP Session.isOpen = rest.countP Session.isOpen := by
    cases rest with
    | nil => rfl
    | cons g rest =>
      rw [List.modifyHead_cons, List.countP_cons, List.countP_cons]
      rfl
  have hopened : ({ f with phase := .body } :: rest.modifyHead fun g => { g with nested := true }).countP Session.isOpen =
      s.opened t + 1 := by
    rw [List.countP_cons_of_pos (by rfl), hcount, opened, hstack, List.countP_cons_of_neg (by simp [hclosed])]
  have hchain := h.stacked t
  rw [hstack] at hchain
  refine h.replace ?_ (Over.opened hchain rfl) le_rfl (h.names fun g hg => ?_) (.inl rfl) (fun g hg hnested => ?_)
    (fun r hr => .inl hr)
  · rw [hopened]
    exact h.held.reenter howner
  · rcases List.mem_cons.mp hg with rfl | hg
    · exact ⟨f, by simp [hstack], rfl⟩
    · cases rest with
      | nil => cases hg
      | cons g₀ rest =>
        rw [List.modifyHead_cons] at hg
        rcases List.mem_cons.mp hg with rfl | hg
        · exact ⟨g₀, by simp [hstack], rfl⟩
        · exact ⟨g, by simp [hstack, hg], rfl⟩
  · cases rest with
    | nil =>
      cases hg
      exact tracked_body hclosed (h.tracked t f (by simp [hstack]) hnested)
    | cons g₀ rest =>
      rw [List.modifyHead_cons, List.getLast?_cons_cons] at hg
      cases rest with
      | nil =>
        -- the outermost session has this one inside
        cases hg
        cases hnested
      | cons g₁ rest =>
        refine h.tracked t g ?_ hnested
        rw [hstack, List.getLast?_cons_cons, List.getLast?_cons_cons]
        rwa [List.getLast?_cons_cons] at hg

/-- A waiting task is granted the lock. -/
theorem Inv.granted (h : s.Inv) (hstack : s.sessions t = f :: rest) (hf : f.phase = .waiting)
    (hlock : s.gate.locked = false) :
    { s.put t ({ f with phase := .body } :: rest) with gate := SessionGate.take t }.Inv := by
  have hclosed : f.isOpen = false := by simp [isOpen, hf]
  have hfree : s.gate = {} := h.held.of_none (h.held.of_unlocked hlock)
  have hrest := h.rest_nil hstack (by simp [hfree])
  subst hrest
  refine h.replace ?_ (.singleton _) le_rfl (h.names fun g hg => ⟨f, ?_, ?_⟩) (.inl rfl) (fun g hg hnested => ?_)
    (fun r hr => .inl hr)
  · have hopened : [{ f with phase := .body }].countP Session.isOpen = 1 := by simp [isOpen]
    rw [hopened]
    exact h.held.take hlock
  · simp [hstack]
  · rw [List.mem_singleton.mp hg]
  · cases hg
    exact tracked_body hclosed (h.tracked t f (by simp [hstack]) hnested)

/-- An open session goes on. -/
theorem Inv.advanced (h : s.Inv) (hstack : s.sessions t = f :: rest) (hf : f.isOpen = true) {f' : Session β}
    (hm : f.Advanced s.conn f' conn) : { s.put t (f' :: rest) with conn }.Inv := by
  obtain ⟨hid, hnest, hopen⟩ := hm.same hf
  have hchain := h.stacked t
  rw [hstack] at hchain
  have hopened : (f' :: rest).countP Session.isOpen = s.opened t := by
    rw [opened, hstack, List.countP_cons_of_pos hopen, List.countP_cons_of_pos hf]
  refine h.replace (h.held_same hopened) (Over.top hchain hf hopen) le_rfl (h.names fun g hg => ?_)
    (.inr ⟨f, by simp [hstack], hf, hm.touched⟩) (fun g hg hnested => ?_) (fun r hr => .inl hr)
  · rcases List.mem_cons.mp hg with rfl | hg
    · exact ⟨f, by simp [hstack], hid⟩
    · exact ⟨g, by simp [hstack, hg], rfl⟩
  · cases rest with
    | nil =>
      cases hg
      exact hm.tracked (h.tracked t f (by simp [hstack]) (hnest ▸ hnested))
    | cons g₀ rest =>
      rw [List.getLast?_cons_cons] at hg
      have := nested_of_over hchain hf hg
      simp [hnested] at this

/-- A session is closed, and the gate released. -/
theorem Inv.departed (h : s.Inv) (hstack : s.sessions t = f :: rest) (hf : f.phase = .closing)
    (hgate : s.gate.release = some gate) :
    { s.put t rest with
      conn := f.close s.conn, left := if rest.isEmpty then f :: s.left else s.left, gate }.Inv := by
  have hopen : f.isOpen = true := by simp [isOpen, hf]
  have hchain := h.stacked t
  rw [hstack] at hchain
  have hopened : rest.countP Session.isOpen = s.opened t - 1 := by
    rw [opened, hstack, List.countP_cons_of_pos hopen, Nat.add_sub_cancel]
  obtain ⟨gate', hgate', hheld⟩ := h.held.release (opened_pos hstack hopen)
  rw [hgate] at hgate'
  cases hgate'
  refine h.replace (by rw [hopened]; exact hheld) hchain.tail le_rfl (h.names fun g hg => ⟨g, by simp [hstack, hg], rfl⟩)
    (.inr ⟨f, by simp [hstack], hopen, touched_close f s.conn⟩) (fun g hg hnested => ?_) (fun r hr => ?_)
  · have := nested_of_over hchain hopen hg
    simp [hnested] at this
  · cases rest with
    | nil =>
      rcases List.mem_cons.mp hr with rfl | hr
      · exact .inr ⟨⟨r, by simp [hstack], rfl⟩, rfl, fun hnested =>
          (h.tracked t r (by simp [hstack]) hnested).close hf⟩
      · exact .inl hr
    | cons g rest => exact .inl hr

/-- **Every step keeps the invariant.** -/
theorem Inv.step (h : s.Inv) {m : Move β} (hs : s.step (t, m) = some s') : s'.Inv := by
  cases stepped hs with
  | entered hbody => exact h.entered hbody
  | gaveUp hstack hf => exact h.gaveUp hstack hf
  | queued hstack hf howner => exact h.queued hstack hf howner
  | reentered hstack hf howner => exact h.reentered hstack hf howner
  | granted hstack hf hlock => exact h.granted hstack hf hlock
  | advanced hstack hf hm => exact h.advanced hstack hf hm
  | departed hstack hf hgate => exact h.departed hstack hf hgate
  | broke hstack hf hgate =>
    -- the task has a session open, so the lock is there to be released
    obtain ⟨gate, hreleased, -⟩ := h.held.release (opened_pos hstack (by simp [isOpen, hf]))
    rw [hgate] at hreleased
    cases hreleased

/-! ## Every interleaving -/

omit [DecidableEq τ] in
/-- Before the first task. -/
theorem inv_init : ({} : State τ β).Inv where
  held := .inl ⟨rfl, fun _ => rfl⟩
  stacked _ := .nil
  below _ _ hf := by cases hf
  apart _ _ _ _ hf := by cases hf
  leftBelow _ hr := by cases hr
  leftApart _ hr := by cases hr
  known _ hw := by cases hw
  tracked _ _ hf := by cases hf
  settled _ hr := by cases hr
  unraised := rfl

/-- What the gate is for. -/
structure Serialized (s : State τ β) : Prop where
  /-- At most one task has a session open. -/
  one : ∀ t t', s.InSession t → s.InSession t' → t = t'
  /-- An outermost session with none inside it left all it wrote, or nothing. -/
  whole : ∀ r ∈ s.left, r.nested = false →
    s.conn.committedOf r.id = (if r.ending = .ended then r.writes else []) ∧ s.conn.pendingOf r.id = []
  /-- The gate is free where no session is open, whoever still waits. -/
  free : (∀ t, ¬ s.InSession t) → s.gate = {}
  /-- Every release found the lock held. -/
  matched : s.raised = false

/-- **The connection is never shared.** Whatever the tasks do, in whatever order. -/
theorem serialized (h : Reaches State.step ({} : State τ β) s) : s.Serialized := by
  have hinv : s.Inv := h.invariant inv_init fun _ _ _ hi _ hs => hi.step hs
  refine ⟨fun t t' ht ht' => ?_, fun r hr hnested => ?_, fun hnone => ?_, hinv.unraised⟩
  · by_contra hne
    have hzero := (hinv.held.of_opened (inSession_iff.mp ht)).2 t' (Ne.symm hne)
    have hpos := inSession_iff.mp ht'
    omega
  · exact (hinv.settled r hr hnested).symm
  · refine hinv.held.of_none fun t => ?_
    have := hnone t
    rw [inSession_iff] at this
    omega

/-- Two tasks: the first commits what it wrote while the second waits, and the second is cancelled in its body. -/
def twoTasks : List (Nat × Move Nat) :=
  [(1, .enter), (2, .enter), (1, .returns), (2, .returns), (1, .returns), (1, .write 7), (1, .returns), (1, .send),
    (1, .lands), (1, .returns), (1, .cancelled), (2, .returns), (2, .write 8), (2, .send), (2, .cancelled), (2, .returns)]

theorem serialized_twoTasks :
    ∃ s : State Nat Nat, exec State.step {} twoTasks = some s ∧ s.Serialized ∧ s.conn.committed = [(0, 7)] ∧
      s.left.length = 2 :=
  ⟨_, rfl, serialized (reaches_of_exec twoTasks rfl), rfl, rfl⟩

/-- A body that ended, and a commit that the database refuses: what it wrote is discarded. -/
theorem ended_discarded :
    ¬ ∀ s : State Nat Nat, Reaches State.step {} s → ∀ r ∈ s.left, r.nested = false →
      r.ending = .ended ∨ r.ending = .refused → s.conn.committedOf r.id = r.writes := by
  intro h
  let run : List (Nat × Move Nat) :=
    [(1, .enter), (1, .returns), (1, .returns), (1, .write 7), (1, .returns), (1, .raises), (1, .returns), (1, .returns)]
  obtain ⟨s, hrun⟩ : ∃ s : State Nat Nat, exec State.step {} run = some s := ⟨_, rfl⟩
  have hleft : ∃ r ∈ s.left, r.nested = false ∧ r.ending = .refused ∧ s.conn.committedOf r.id ≠ r.writes := by
    cases hrun
    exact ⟨_, List.mem_singleton_self _, rfl, rfl, by decide⟩
  obtain ⟨r, hr, hnested, hending, hne⟩ := hleft
  exact hne (h s (reaches_of_exec run hrun) r hr hnested (.inr hending))

end State

end RideTheApi.Buffer.Memory
