import Mathlib.Logic.Function.Basic
import RideTheApi.Lib.Transition

/-!
# `Buffer.MemorySession` — one connection, and the gate in front of it

Every session on the RAM buffer uses the same connection, and a connection carries one transaction. `memory_session`
takes the gate before its session begins and releases it after the session was closed. A step is what one task does up
to its next await: `returns`, `raises` and `cancelled` say how the await it is at comes out. A task uses the innermost
of its sessions.

The lock is `asyncio.Lock` by what it promises: it is granted to a waiting task when nobody holds it, and a task
cancelled while it waits has not got it. Of the database, a COMMIT either takes effect or does not, and a session that
was closed has no transaction left on the connection.
-/

namespace RideTheApi.Buffer.Memory

universe u v

variable {τ : Type u} {β : Type v}

/-! ## The gate -/

/-- `_SessionGate`. -/
structure SessionGate (τ : Type u) where
  /-- Whether `_lock` is held. -/
  locked : Bool := false
  owner : Option τ := none
  depth : Int := 0

/-- `acquire` by the task that owns the gate. -/
def SessionGate.reenter (g : SessionGate τ) : SessionGate τ := { g with depth := g.depth + 1 }

/-- The rest of `acquire` once the lock was granted. -/
def SessionGate.take (task : τ) : SessionGate τ := { locked := true, owner := some task, depth := 1 }

/-- `release`. A lock that is not held raises. -/
def SessionGate.release (g : SessionGate τ) : Option (SessionGate τ) :=
  if g.depth - 1 = 0 then
    if g.locked then some { locked := false, owner := none, depth := 0 } else none
  else some { g with depth := g.depth - 1 }

/-! ## The connection -/

/-- The one connection: what its transaction holds, and what was committed. A write carries the session it is of. -/
structure Connection (β : Type v) where
  uncommitted : List (Nat × β) := []
  committed : List (Nat × β) := []

namespace Connection

/-- A statement that writes. -/
def send (c : Connection β) (id : Nat) (w : β) : Connection β := { c with uncommitted := c.uncommitted ++ [(id, w)] }

/-- COMMIT. -/
def commit (c : Connection β) : Connection β := { uncommitted := [], committed := c.committed ++ c.uncommitted }

/-- ROLLBACK. -/
def rollback (c : Connection β) : Connection β := { c with uncommitted := [] }

/-- The writes of a session among some. -/
def writesOf (id : Nat) (ws : List (Nat × β)) : List β := (ws.filter fun w => w.1 = id).map Prod.snd

/-- What the transaction holds of a session. -/
def pendingOf (c : Connection β) (id : Nat) : List β := writesOf id c.uncommitted

/-- What was committed of a session. -/
def committedOf (c : Connection β) (id : Nat) : List β := writesOf id c.committed

end Connection

/-! ## Sessions -/

/-- Where a task is in `memory_session`. -/
inductive Phase where
  /-- In `_ensure_initialized`. -/
  | starting
  /-- In `gate.acquire`, behind another task. -/
  | waiting
  | body
  /-- In `session.commit`, before its COMMIT took effect. -/
  | committing
  /-- In `session.commit`, after it did. -/
  | committed
  | rollingBack
  /-- In `session.close`. -/
  | closing
deriving Repr, DecidableEq

/-- How it went with a session's body, and then with the commit. -/
inductive Ending where
  | running
  | ended
  | raised
  | cancelled
  /-- The body ended, and its commit was refused or cancelled before the COMMIT took effect. -/
  | refused
deriving Repr, DecidableEq

/-- A `memory_session` that is open or opening. -/
structure Session (β : Type v) where
  id : Nat
  phase : Phase := .starting
  /-- Written in the body, and not yet sent to the connection. -/
  unflushed : List β := []
  /-- The session has the connection in its transaction. -/
  begun : Bool := false
  /-- All the body wrote. -/
  writes : List β := []
  /-- A session was opened inside its body. -/
  nested : Bool := false
  ending : Ending := .running
deriving DecidableEq

/-- The task has the gate for this session. -/
def Session.isOpen (f : Session β) : Bool :=
  match f.phase with
  | .starting | .waiting => false
  | _                    => true

/-- What a task can do next, or how the await it is at comes out. -/
inductive Move (β : Type v) where
  /-- `async with memory_session(..)`. -/
  | enter
  | read
  | write (w : β)
  /-- A write goes to the connection: a flush, by itself, by a query or in the commit. -/
  | send
  /-- The COMMIT takes effect. -/
  | lands
  | returns
  | raises
  | cancelled
deriving DecidableEq

/-- An open session up to `session.close`: the body, and the `try` around it. -/
def Session.advance (f : Session β) (c : Connection β) : Move β → Option (Session β × Connection β)
  | .enter => none
  | .read =>
    match f.phase with
    | .body => some ({ f with begun := true }, c)
    | _     => none
  | .write w =>
    match f.phase with
    | .body => some ({ f with unflushed := f.unflushed ++ [w], writes := f.writes ++ [w] }, c)
    | _     => none
  | .send =>
    match f.phase, f.unflushed with
    | .body,       w :: ws => some ({ f with unflushed := ws, begun := true }, c.send f.id w)
    | .committing, w :: ws => some ({ f with unflushed := ws, begun := true }, c.send f.id w)
    | _,           _       => none
  | .lands =>
    match f.phase, f.unflushed with
    | .committing, [] => some ({ f with phase := .committed, begun := false }, if f.begun then c.commit else c)
    | _,           _  => none
  | .returns =>
    match f.phase with
    | .body        => some ({ f with phase := .committing, ending := .ended }, c)
    | .committed   => some ({ f with phase := .closing }, c)
    | .rollingBack =>
      some ({ f with phase := .closing, unflushed := [], begun := false }, if f.begun then c.rollback else c)
    | _            => none
  | .raises =>
    match f.phase with
    | .body        => some ({ f with phase := .rollingBack, ending := .raised }, c)
    | .committing  => some ({ f with phase := .rollingBack, ending := .refused }, c)
    | .committed   => some ({ f with phase := .rollingBack }, c)
    | .rollingBack => some ({ f with phase := .closing }, c)
    | _            => none
  | .cancelled =>
    -- `except Exception` does not catch a cancellation, and the session is closed at once
    match f.phase with
    | .body        => some ({ f with phase := .closing, ending := .cancelled }, c)
    | .committing  => some ({ f with phase := .closing, ending := .refused }, c)
    | .committed   => some ({ f with phase := .closing }, c)
    | .rollingBack => some ({ f with phase := .closing }, c)
    | _            => none

/-- `session.close`: what the session has left in its transaction is rolled back. -/
def Session.close (f : Session β) (c : Connection β) : Connection β := if f.begun then c.rollback else c

/-- The steps of an open session, by what they change. -/
inductive Session.Advanced (f : Session β) (c : Connection β) : Session β → Connection β → Prop where
  | read (hf : f.phase = .body) : Advanced f c { f with begun := true } c
  | wrote (w : β) (hf : f.phase = .body) :
      Advanced f c { f with unflushed := f.unflushed ++ [w], writes := f.writes ++ [w] } c
  | sent {w : β} {ws : List β} (hf : f.phase = .body ∨ f.phase = .committing) (hw : f.unflushed = w :: ws) :
      Advanced f c { f with unflushed := ws, begun := true } (c.send f.id w)
  | landed (hf : f.phase = .committing) (hw : f.unflushed = []) :
      Advanced f c { f with phase := .committed, begun := false } (if f.begun then c.commit else c)
  | ended (hf : f.phase = .body) : Advanced f c { f with phase := .committing, ending := .ended } c
  /-- The body, or the commit before its COMMIT took effect, does not end. -/
  | failed {phase : Phase} {ending : Ending} (hf : f.phase = .body ∨ f.phase = .committing)
      (hphase : phase = .rollingBack ∨ phase = .closing) (hending : ending ≠ .ended) :
      Advanced f c { f with phase, ending } c
  | finished {phase : Phase} (hf : f.phase = .committed) (hphase : phase = .rollingBack ∨ phase = .closing) :
      Advanced f c { f with phase } c
  | rolledBack (hf : f.phase = .rollingBack) :
      Advanced f c { f with phase := .closing, unflushed := [], begun := false } (if f.begun then c.rollback else c)
  | interrupted (hf : f.phase = .rollingBack) : Advanced f c { f with phase := .closing } c

theorem Session.advanced {f f' : Session β} {c c' : Connection β} {m : Move β} (h : f.advance c m = some (f', c')) :
    f.Advanced c f' c' := by
  cases m with
  | enter => cases h
  | read =>
    rw [advance] at h
    split at h
    next hf =>
      cases h
      exact .read hf
    next => cases h
  | write w =>
    rw [advance] at h
    split at h
    next hf =>
      cases h
      exact .wrote w hf
    next => cases h
  | send =>
    rw [advance] at h
    split at h
    next hf hw =>
      cases h
      exact .sent (.inl hf) hw
    next hf hw =>
      cases h
      exact .sent (.inr hf) hw
    next => cases h
  | lands =>
    rw [advance] at h
    split at h
    next hf hw =>
      cases h
      exact .landed hf hw
    next => cases h
  | returns =>
    rw [advance] at h
    split at h
    next hf =>
      cases h
      exact .ended hf
    next hf =>
      cases h
      exact .finished hf (.inr rfl)
    next hf =>
      cases h
      exact .rolledBack hf
    next => cases h
  | raises =>
    rw [advance] at h
    split at h
    next hf =>
      cases h
      exact .failed (.inl hf) (.inl rfl) (by decide)
    next hf =>
      cases h
      exact .failed (.inr hf) (.inl rfl) (by decide)
    next hf =>
      cases h
      exact .finished hf (.inl rfl)
    next hf =>
      cases h
      exact .interrupted hf
    next => cases h
  | cancelled =>
    rw [advance] at h
    split at h
    next hf =>
      cases h
      exact .failed (.inl hf) (.inr rfl) (by decide)
    next hf =>
      cases h
      exact .failed (.inr hf) (.inr rfl) (by decide)
    next hf =>
      cases h
      exact .finished hf (.inr rfl)
    next hf =>
      cases h
      exact .interrupted hf
    next => cases h

/-! ## The tasks -/

/-- The gate, the connection, and where each task is. -/
structure State (τ : Type u) (β : Type v) where
  gate : SessionGate τ := {}
  conn : Connection β := {}
  /-- The sessions a task is in, the innermost first. -/
  sessions : τ → List (Session β) := fun _ => []
  next : Nat := 0
  /-- The outermost sessions that were open and are left. -/
  left : List (Session β) := []
  /-- A `release` raised. -/
  raised : Bool := false

namespace State

variable [DecidableEq τ]

/-- A task's sessions replaced. -/
def put (s : State τ β) (t : τ) (fs : List (Session β)) : State τ β := { s with sessions := Function.update s.sessions t fs }

/-- A task enters `memory_session`. -/
def enter (s : State τ β) (t : τ) : State τ β := { s.put t ({ id := s.next } :: s.sessions t) with next := s.next + 1 }

/-- `_ensure_initialized` comes out, and `gate.acquire` begins. -/
def arrive (s : State τ β) (t : τ) (f : Session β) (rest : List (Session β)) : Move β → Option (State τ β)
  | .returns =>
    if s.gate.owner = some t then
      let outer := rest.modifyHead fun g => { g with nested := true }
      some { s.put t ({ f with phase := .body } :: outer) with gate := s.gate.reenter }
    else some (s.put t ({ f with phase := .waiting } :: rest))
  | .raises | .cancelled => some (s.put t rest)
  | _ => none

/-- The lock is granted, or the task is cancelled while it waits. -/
def await (s : State τ β) (t : τ) (f : Session β) (rest : List (Session β)) : Move β → Option (State τ β)
  | .returns =>
    if s.gate.locked then none
    else some { s.put t ({ f with phase := .body } :: rest) with gate := SessionGate.take t }
  | .cancelled => some (s.put t rest)
  | _ => none

/-- `session.close` comes out, whichever way, and the gate is released. -/
def depart (s : State τ β) (t : τ) (f : Session β) (rest : List (Session β)) : Move β → Option (State τ β)
  | .returns | .raises | .cancelled =>
    let left := if rest.isEmpty then f :: s.left else s.left
    let s' := { s.put t rest with conn := f.close s.conn, left }
    match s.gate.release with
    | some gate => some { s' with gate }
    | none      => some { s' with raised := true }
  | _ => none

/-- One step of a task. -/
def step (s : State τ β) : τ × Move β → Option (State τ β)
  | (t, m) =>
    match m, s.sessions t with
    | .enter, []     => some (s.enter t)
    | .enter, f :: _ => if f.phase = .body then some (s.enter t) else none
    | _,      []     => none
    | m,      f :: rest =>
      match f.phase with
      | .starting => s.arrive t f rest m
      | .waiting  => s.await t f rest m
      | .closing  => s.depart t f rest m
      | _         => (f.advance s.conn m).map fun r => { s.put t (r.1 :: rest) with conn := r.2 }

/-- The task has a session open. -/
def InSession (s : State τ β) (t : τ) : Prop := ∃ f ∈ s.sessions t, f.isOpen = true

/-! ## What a step can do -/

/-- The steps of the tasks, by what they change. -/
inductive Stepped (s : State τ β) (t : τ) : State τ β → Prop where
  | entered (h : ∀ f ∈ (s.sessions t).head?, f.phase = .body) : Stepped s t (s.enter t)
  | gaveUp {f : Session β} {rest : List (Session β)} (h : s.sessions t = f :: rest) (hf : f.isOpen = false) :
      Stepped s t (s.put t rest)
  | queued {f : Session β} {rest : List (Session β)} (h : s.sessions t = f :: rest) (hf : f.phase = .starting)
      (howner : s.gate.owner ≠ some t) : Stepped s t (s.put t ({ f with phase := .waiting } :: rest))
  | reentered {f : Session β} {rest : List (Session β)} (h : s.sessions t = f :: rest) (hf : f.phase = .starting)
      (howner : s.gate.owner = some t) :
      Stepped s t
        { s.put t ({ f with phase := .body } :: rest.modifyHead fun g => { g with nested := true }) with
          gate := s.gate.reenter }
  | granted {f : Session β} {rest : List (Session β)} (h : s.sessions t = f :: rest) (hf : f.phase = .waiting)
      (hlock : s.gate.locked = false) :
      Stepped s t { s.put t ({ f with phase := .body } :: rest) with gate := SessionGate.take t }
  | advanced {f f' : Session β} {c' : Connection β} {rest : List (Session β)} (h : s.sessions t = f :: rest)
      (hf : f.isOpen = true) (hm : f.Advanced s.conn f' c') :
      Stepped s t { s.put t (f' :: rest) with conn := c' }
  | departed {f : Session β} {rest : List (Session β)} {gate : SessionGate τ} (h : s.sessions t = f :: rest)
      (hf : f.phase = .closing) (hgate : s.gate.release = some gate) :
      Stepped s t
        { s.put t rest with
          conn := f.close s.conn
          left := if rest.isEmpty then f :: s.left else s.left
          gate }
  | broke {f : Session β} {rest : List (Session β)} {s' : State τ β} (h : s.sessions t = f :: rest)
      (hf : f.phase = .closing) (hgate : s.gate.release = none) : Stepped s t s'

theorem stepped_arrive {s s' : State τ β} {t : τ} {f : Session β} {rest : List (Session β)} {m : Move β}
    (h : s.sessions t = f :: rest) (hf : f.phase = .starting) (hs : s.arrive t f rest m = some s') : Stepped s t s' := by
  have hclosed : f.isOpen = false := by simp [Session.isOpen, hf]
  cases m with
  | returns =>
    unfold arrive at hs
    by_cases howner : s.gate.owner = some t
    · simp only [howner, if_true, Option.some.injEq] at hs
      subst hs
      exact .reentered h hf howner
    · simp only [howner, if_false, Option.some.injEq] at hs
      subst hs
      exact .queued h hf howner
  | raises =>
    cases hs
    exact .gaveUp h hclosed
  | cancelled =>
    cases hs
    exact .gaveUp h hclosed
  | _ => cases hs

theorem stepped_await {s s' : State τ β} {t : τ} {f : Session β} {rest : List (Session β)} {m : Move β}
    (h : s.sessions t = f :: rest) (hf : f.phase = .waiting) (hs : s.await t f rest m = some s') : Stepped s t s' := by
  cases m with
  | returns =>
    unfold await at hs
    cases hlock : s.gate.locked with
    | true => simp [hlock] at hs
    | false =>
      simp only [hlock, Bool.false_eq_true, if_false, Option.some.injEq] at hs
      subst hs
      exact .granted h hf hlock
  | cancelled =>
    cases hs
    exact .gaveUp h (by simp [Session.isOpen, hf])
  | _ => cases hs

theorem stepped_depart {s s' : State τ β} {t : τ} {f : Session β} {rest : List (Session β)} {m : Move β}
    (h : s.sessions t = f :: rest) (hf : f.phase = .closing) (hs : s.depart t f rest m = some s') : Stepped s t s' := by
  have hleaves : ∀ {o}, s.gate.release = o → (match o with
      | some gate => some { s.put t rest with
          conn := f.close s.conn, left := if rest.isEmpty then f :: s.left else s.left, gate }
      | none      => some { s.put t rest with
          conn := f.close s.conn, left := if rest.isEmpty then f :: s.left else s.left, raised := true }) = some s' →
      Stepped s t s' := by
    intro o ho hs
    cases o with
    | some gate =>
      cases hs
      exact .departed h hf ho
    | none => exact .broke h hf ho
  cases m with
  | returns => exact hleaves rfl hs
  | raises => exact hleaves rfl hs
  | cancelled => exact hleaves rfl hs
  | _ => cases hs

/-- Inside `memory_session`, what happens depends on where. -/
theorem step_of_ne_enter {s : State τ β} {t : τ} {m : Move β} {f : Session β} {rest : List (Session β)} (hm : m ≠ .enter)
    (h : s.sessions t = f :: rest) :
    s.step (t, m) = match f.phase with
      | .starting => s.arrive t f rest m
      | .waiting  => s.await t f rest m
      | .closing  => s.depart t f rest m
      | _         => (f.advance s.conn m).map fun r => { s.put t (r.1 :: rest) with conn := r.2 } := by
  cases m with
  | enter => exact absurd rfl hm
  | _ => simp only [step, h]

/-- **What a step can do.** -/
theorem stepped {s s' : State τ β} {t : τ} {m : Move β} (hs : s.step (t, m) = some s') : Stepped s t s' := by
  have hopen : ∀ {f rest}, s.sessions t = f :: rest → f.isOpen = true →
      (f.advance s.conn m).map (fun r => { s.put t (r.1 :: rest) with conn := r.2 }) = some s' → Stepped s t s' := by
    intro f rest h hf hs
    obtain ⟨⟨f', c'⟩, hm, rfl⟩ := Option.map_eq_some_iff.mp hs
    exact .advanced h hf (Session.advanced hm)
  cases h : s.sessions t with
  | nil =>
    cases m with
    | enter =>
      simp only [step, h, Option.some.injEq] at hs
      subst hs
      exact .entered (by simp [h])
    | _ => simp [step, h] at hs
  | cons f rest =>
    by_cases hm : m = .enter
    · subst hm
      simp only [step, h, Option.ite_none_right_eq_some, Option.some.injEq] at hs
      obtain ⟨hf, rfl⟩ := hs
      exact .entered (by simpa [h] using hf)
    · rw [step_of_ne_enter hm h] at hs
      cases hf : f.phase with
      | starting => exact stepped_arrive h hf (by simpa [hf] using hs)
      | waiting => exact stepped_await h hf (by simpa [hf] using hs)
      | closing => exact stepped_depart h hf (by simpa [hf] using hs)
      | body => exact hopen h (by simp [Session.isOpen, hf]) (by simpa only [hf] using hs)
      | committing => exact hopen h (by simp [Session.isOpen, hf]) (by simpa only [hf] using hs)
      | committed => exact hopen h (by simp [Session.isOpen, hf]) (by simpa only [hf] using hs)
      | rollingBack => exact hopen h (by simp [Session.isOpen, hf]) (by simpa only [hf] using hs)

end State

end RideTheApi.Buffer.Memory
