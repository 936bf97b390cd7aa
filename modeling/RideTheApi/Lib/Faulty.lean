/-!
# `Lib.Faulty` — computations that may raise, and how they end

A computation over a state `σ` returns a value or raises; either way the state changes made so far stay.
`Ends x s r P` says that from `s` the computation ends with result `r` (`none` when it raises) in a state
that meets `P`; `Leaves x s P` says the latter only. The rules follow the code: a raise skips what comes
after it, and `attempt` catches it.
-/

/-- A computation that may raise. -/
def Faulty (σ α : Type) : Type := σ → Option α × σ

namespace Faulty

variable {σ α β : Type}

/-- What follows a raise is skipped. -/
def bind (x : Faulty σ α) (f : α → Faulty σ β) : Faulty σ β := fun s =>
  match x s with
  | (some a, s') => f a s'
  | (none, s')   => (none, s')

instance : Monad (Faulty σ) where
  pure a := fun s => (some a, s)
  bind := bind

/-- Raise when a fault strikes. -/
def raiseIf (fault : Bool) : Faulty σ Unit := fun s => (if fault then none else some (), s)

/-- The state. -/
def get : Faulty σ σ := fun s => (some s, s)

/-- Replace the state. -/
def set (s : σ) : Faulty σ Unit := fun _ => (some (), s)

/-- Change the state. -/
def modify (f : σ → σ) : Faulty σ Unit := fun s => (some (), f s)

/-- Run a computation and catch what it raises: `none` then. -/
def attempt (x : Faulty σ α) : Faulty σ (Option α) := fun s => (some (x s).1, (x s).2)

/-- Run a computation and drop its result and what it raises. -/
def ignore (x : Faulty σ α) : Faulty σ Unit := fun s => (some (), (x s).2)

variable {x : Faulty σ α} {f : α → Faulty σ β} {s s' : σ} {a : α} {r : Option α} {r' : Option β}
  {P Q : σ → Prop}

theorem bind_returned (h : x s = (some a, s')) : (x >>= f) s = f a s' := by
  show Faulty.bind x f s = f a s'
  rw [Faulty.bind, h]

theorem bind_raised (h : x s = (none, s')) : (x >>= f) s = (none, s') := by
  show Faulty.bind x f s = (none, s')
  rw [Faulty.bind, h]

/-- Where no fault strikes, what follows goes on. -/
theorem raiseIf_false_bind (f : Unit → Faulty σ β) (s : σ) : (raiseIf false >>= f) s = f () s := rfl

theorem get_bind (f : σ → Faulty σ β) (s : σ) : (get >>= f) s = f s s := rfl

/-! ## Ending with a result -/

/-- From `s` the computation ends with `r` in a state that meets `P`. -/
def Ends (x : Faulty σ α) (s : σ) (r : Option α) (P : σ → Prop) : Prop := ∃ s', x s = (r, s') ∧ P s'

theorem ends_pure (h : P s) : Ends (pure a : Faulty σ α) s (some a) P := ⟨s, rfl, h⟩

theorem ends_raise (h : P s) : Ends (raiseIf true) s none P := ⟨s, rfl, h⟩

theorem ends_pass (h : P s) : Ends (raiseIf false) s (some ()) P := ⟨s, rfl, h⟩

theorem ends_raiseIf (fault : Bool) (h : P s) : Ends (raiseIf fault) s (if fault then none else some ()) P :=
  ⟨s, rfl, h⟩

theorem ends_set (h : P s') : Ends (set s') s (some ()) P := ⟨s', rfl, h⟩

theorem ends_modify {g : σ → σ} (h : P (g s)) : Ends (modify g) s (some ()) P := ⟨g s, rfl, h⟩

/-- **Sequencing**: the second part starts where the first returned. -/
theorem Ends.bind (hx : Ends x s (some a) P) (hf : ∀ s', P s' → Ends (f a) s' r' Q) :
    Ends (x >>= f) s r' Q := by
  obtain ⟨s', hs', hp⟩ := hx
  obtain ⟨s'', hs'', hq⟩ := hf s' hp
  exact ⟨s'', (bind_returned hs').trans hs'', hq⟩

/-- **Raising**: the second part is skipped. -/
theorem Ends.bind_raise (hx : Ends x s none P) : Ends (x >>= f) s none P := by
  obtain ⟨s', hs', hp⟩ := hx
  exact ⟨s', bind_raised hs', hp⟩

/-- Reading the state. -/
theorem Ends.get_bind {f : σ → Faulty σ β} (hf : Ends (f s) s r' Q) : Ends (get >>= f) s r' Q := hf

/-- **Catching**: the result is what the computation ended with. -/
theorem Ends.attempt (hx : Ends x s r P) : Ends (attempt x) s (some r) P := by
  obtain ⟨s', hs', hp⟩ := hx
  exact ⟨s', by rw [Faulty.attempt, hs'], hp⟩

/-! ## Leaving a state -/

/-- From `s` the computation ends in a state that meets `P`, whether it returns or raises. -/
def Leaves (x : Faulty σ α) (s : σ) (P : σ → Prop) : Prop := P (x s).2

theorem Ends.leaves (hx : Ends x s r P) : Leaves x s P := by
  obtain ⟨s', hs', hp⟩ := hx
  show P (x s).2
  rw [hs']
  exact hp

theorem leaves_pure (h : P s) : Leaves (pure a : Faulty σ α) s P := h

theorem leaves_raiseIf (fault : Bool) (h : P s) : Leaves (raiseIf fault) s P := h

theorem leaves_set (h : P s') : Leaves (set s') s P := h

theorem leaves_modify {g : σ → σ} (h : P (g s)) : Leaves (modify g) s P := h

/-- **Sequencing**: what the first part leaves, the second keeps, and a raise in between changes nothing. -/
theorem Leaves.bind (hx : Leaves x s P) (hf : ∀ a s', P s' → Leaves (f a) s' P) : Leaves (x >>= f) s P := by
  cases hxs : x s with
  | mk o s' =>
    have hp : P s' := by
      unfold Leaves at hx
      rw [hxs] at hx
      exact hx
    unfold Leaves
    cases o with
    | none => rw [bind_raised hxs]; exact hp
    | some a => rw [bind_returned hxs]; exact hf a s' hp

theorem Leaves.get_bind {f : σ → Faulty σ β} (hf : Leaves (f s) s Q) : Leaves (get >>= f) s Q := hf

/-- A part that returns is followed by the next. -/
theorem Ends.bind_leaves (hx : Ends x s (some a) P) (hf : ∀ s', P s' → Leaves (f a) s' Q) :
    Leaves (x >>= f) s Q := by
  obtain ⟨s', hs', hp⟩ := hx
  unfold Leaves
  rw [bind_returned hs']
  exact hf s' hp

theorem Leaves.attempt (hx : Leaves x s P) : Leaves (attempt x) s P := hx

theorem Leaves.mono (hx : Leaves x s P) (h : ∀ s, P s → Q s) : Leaves x s Q := h _ hx

theorem Leaves.ignore (hx : Leaves x s P) : Leaves (ignore x) s P := hx

/-! ## Ending in any way -/

/-- From `s` the computation ends with a result and a state that meet `Q`; the result is `none` when it raises. -/
def Post (x : Faulty σ α) (s : σ) (Q : Option α → σ → Prop) : Prop := Q (x s).1 (x s).2

theorem post_pure {Q : Option α → σ → Prop} (h : Q (some a) s) : Post (pure a : Faulty σ α) s Q := h

theorem Post.mono {Q R : Option α → σ → Prop} (hx : Post x s Q) (h : ∀ r s', Q r s' → R r s') : Post x s R := h _ _ hx

/-- **Sequencing**: a raise ends the whole, else the second part starts where the first returned. -/
theorem Post.bind {Q : Option α → σ → Prop} {R : Option β → σ → Prop} (hx : Post x s Q)
    (hraised : ∀ s', Q none s' → R none s') (hreturned : ∀ a s', Q (some a) s' → Post (f a) s' R) :
    Post (x >>= f) s R := by
  unfold Post at hx ⊢
  cases hxs : x s with
  | mk o s' =>
    rw [hxs] at hx
    cases o with
    | none =>
      rw [bind_raised hxs]
      exact hraised s' hx
    | some a =>
      rw [bind_returned hxs]
      exact hreturned a s' hx

/-- Reading the state. -/
theorem Post.get_bind {f : σ → Faulty σ β} {R : Option β → σ → Prop} (h : Post (f s) s R) :
    Post (get >>= f) s R := h

/-- Changing the state. -/
theorem Post.modify_bind {g : σ → σ} {f : Unit → Faulty σ β} {R : Option β → σ → Prop} (h : Post (f ()) (g s) R) :
    Post (modify g >>= f) s R := h

/-- A fault raises, and its absence goes on. -/
theorem Post.raiseIf_bind {fault : Bool} {f : Unit → Faulty σ β} {R : Option β → σ → Prop}
    (hraises : fault = true → R none s) (hpasses : fault = false → Post (f ()) s R) :
    Post (raiseIf fault >>= f) s R := by
  cases fault with
  | true => exact hraises rfl
  | false => exact hpasses rfl

end Faulty
