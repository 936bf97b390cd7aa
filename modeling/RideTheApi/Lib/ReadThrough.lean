import Mathlib.Data.List.Basic
import RideTheApi.Lib.Transition

/-!
# `Lib.ReadThrough` — a cache filled on a miss and settled by the writers

Readers look in the cache, select on a miss, and fill. An update selects, runs the segments of its plan, which
write the tables or touch the cache, and settles the cache as it returns. Between any two of these anything
else may happen. Versions of the tables are numbered; a value is **fresh** for a set of returned commits when
some version stores it that none of them has overtaken. Reads are fresh in every run in which no reader fills
with what a returned update has overtaken, and no update returns over an entry that it has overtaken
(`Inv.step`).
-/

namespace ReadThrough

open Transition

universe u v w x

/-- The entries in memory. -/
abbrev Cache (K : Type u) (V : Type v) := K → Option V

/-- A stretch of an update between two awaits. -/
inductive Segment (T : Type w) (K : Type u) (V : Type v) where
  | write (f : T → T)
  | touch (f : Cache K V → Cache K V)

/-- What an update goes on to do once it has selected, and what it does to the cache as it returns. -/
structure Plan (T : Type w) (K : Type u) (V : Type v) where
  segments : List (Segment T K V)
  settle : Cache K V → Cache K V

/-- Tables, what is cached of them, and updates; an update without a plan returns without effect. -/
structure System (T : Type w) (K : Type u) (V : Type v) (U : Type x) where
  value : T → K → V
  plan : U → T → Option (Plan T K V)
  /-- After its fill the reader looks in the cache again. -/
  rereads : K → Bool

/-- Where a reader that missed is. -/
inductive Reading (V : Type v) where
  | missed
  | selected (version : Nat) (value : V)
  | filled (value : V)

/-- A reader, with the commits whose updates had returned when it started. -/
structure Reader (K : Type u) (V : Type v) where
  key : K
  returnedBefore : List Nat
  phase : Reading V

/-- Where an update is. -/
inductive Writing (T : Type w) (K : Type u) (V : Type v) where
  | waiting
  | running (plan : Plan T K V) (rest : List (Segment T K V))

/-- An update, with the numbers of its commits. -/
structure Writer (T : Type w) (K : Type u) (V : Type v) (U : Type x) where
  update : U
  phase : Writing T K V
  commits : List Nat

/-- What a read yielded, with the commits whose updates had returned when it started. -/
structure Read (K : Type u) (V : Type v) where
  key : K
  value : V
  returnedBefore : List Nat

/-- The tables and their earlier versions, the cache, and the calls on their way. -/
structure State (T : Type w) (K : Type u) (V : Type v) (U : Type x) where
  tables : T
  past : List T := []
  cache : Cache K V := fun _ => none
  readers : List (Reader K V) := []
  writers : List (Writer T K V U) := []
  /-- The commits whose updates have returned. -/
  returned : List Nat := []
  reads : List (Read K V) := []

/-- What happens at an await point. -/
inductive Label (K : Type u) (U : Type x) where
  | readStart (k : K)
  | readSelect (i : Nat)
  | readFill (i : Nat)
  | readReturn (i : Nat)
  | readFails (i : Nat)
  | updateStart (u : U)
  | updateSelect (i : Nat)
  | updateStep (i : Nat)
  | updateReturn (i : Nat)
  | updateFails (i : Nat)
  /-- An entry expires or is pushed out. -/
  | evict (k : K)

section
variable {T : Type w} {K : Type u} {V : Type v} {U : Type x}

/-- The versions of the tables, by their numbers. -/
def State.history (s : State T K V U) : List T := s.past ++ [s.tables]

/-- The entry of a key replaced. -/
def Cache.put [DecidableEq K] (cache : Cache K V) (k : K) (entry : Option V) : Cache K V :=
  fun k' => if k' = k then entry else cache k'

/-- Entries dropped. -/
def Cache.drop (cache : Cache K V) (dropped : K → Bool) : Cache K V :=
  fun k => if dropped k then none else cache k

variable [DecidableEq K] (sys : System T K V U)

/-- A segment of an update. -/
def runSegment (s : State T K V U) (i : Nat) (w : Writer T K V U) (plan : Plan T K V)
    (rest : List (Segment T K V)) : Segment T K V → State T K V U
  | .write f =>
    { s with
      tables := f s.tables
      past := s.past ++ [s.tables]
      writers := s.writers.set i
        { w with phase := .running plan rest, commits := w.commits ++ [s.past.length + 1] } }
  | .touch f =>
    { s with cache := f s.cache, writers := s.writers.set i { w with phase := .running plan rest } }

/-- One step. -/
def step (s : State T K V U) : Label K U → Option (State T K V U)
  | .readStart k    =>
    match s.cache k with
    | some v => some { s with reads := s.reads ++ [⟨k, v, s.returned⟩] }
    | none   => some { s with readers := s.readers ++ [⟨k, s.returned, .missed⟩] }
  | .readSelect i   =>
    match s.readers[i]? with
    | some ⟨k, before, .missed⟩ =>
      some { s with
        readers := s.readers.set i ⟨k, before, .selected s.past.length (sys.value s.tables k)⟩ }
    | _ => none
  | .readFill i     =>
    match s.readers[i]? with
    | some ⟨k, before, .selected _ v⟩ =>
      some { s with cache := s.cache.put k (some v), readers := s.readers.set i ⟨k, before, .filled v⟩ }
    | _ => none
  | .readReturn i   =>
    match s.readers[i]? with
    | some ⟨k, before, .filled v⟩ =>
      -- A reader that looks again and finds nothing raises.
      let result := if sys.rereads k then s.cache k else some v
      some { s with
        readers := s.readers.eraseIdx i
        reads := s.reads ++ (result.map fun v => ⟨k, v, before⟩).toList }
    | _ => none
  | .readFails i    => some { s with readers := s.readers.eraseIdx i }
  | .updateStart u  => some { s with writers := s.writers ++ [⟨u, .waiting, []⟩] }
  | .updateSelect i =>
    match s.writers[i]? with
    | some ⟨u, .waiting, commits⟩ =>
      match sys.plan u s.tables with
      | some plan => some { s with writers := s.writers.set i ⟨u, .running plan plan.segments, commits⟩ }
      | none      => some { s with writers := s.writers.eraseIdx i }
    | _ => none
  | .updateStep i   =>
    match s.writers[i]? with
    | some ⟨u, .running plan (segment :: rest), commits⟩ =>
      some (runSegment s i ⟨u, .running plan (segment :: rest), commits⟩ plan rest segment)
    | _ => none
  | .updateReturn i =>
    match s.writers[i]? with
    | some ⟨_, .running plan [], commits⟩ =>
      some { s with
        cache := plan.settle s.cache
        writers := s.writers.eraseIdx i
        returned := s.returned ++ commits }
    | _ => none
  | .updateFails i  => some { s with writers := s.writers.eraseIdx i }
  | .evict k        => some { s with cache := s.cache.put k none }

/-- The commit with number `i` leaves the value of the key as it is. -/
def Unchanged (history : List T) (i : Nat) (k : K) : Prop :=
  ∀ t t', history[i - 1]? = some t → history[i]? = some t' → sys.value t' k = sys.value t k

/-- Some version stores the value, and no later one of the returned commits has changed it. -/
def Fresh (history : List T) (returned : List Nat) (k : K) (v : V) : Prop :=
  ∃ j t, history[j]? = some t ∧ sys.value t k = v ∧ ∀ i ∈ returned, j < i → Unchanged sys history i k

/-- A read yields what was stored since the updates that had returned when it started. -/
def Read.IsFresh (s : State T K V U) (r : Read K V) : Prop := Fresh sys s.history r.returnedBefore r.key r.value

/-- No reader fills with what a returned update has overtaken; a touch of the cache leaves old entries or what is
    stored; and an update returns over entries that are what is stored, or that none of its commits has
    changed. -/
def Sound (s : State T K V U) : Label K U → Prop
  | .readFill i     => ∀ k before n v, s.readers[i]? = some ⟨k, before, .selected n v⟩ →
      ∀ j ∈ s.returned, n < j → Unchanged sys s.history j k
  | .updateStep i   => ∀ u plan f rest commits, s.writers[i]? = some ⟨u, .running plan (.touch f :: rest), commits⟩ →
      ∀ k v, f s.cache k = some v → s.cache k = some v ∨ v = sys.value s.tables k
  | .updateReturn i => ∀ u plan commits, s.writers[i]? = some ⟨u, .running plan [], commits⟩ →
      ∀ k v, plan.settle s.cache k = some v → v = sys.value s.tables k ∨
        s.cache k = some v ∧ ∀ c ∈ commits, Unchanged sys s.history c k
  | _               => True

end

/-! ## Freshness -/

section
variable {T : Type w} {K : Type u} {V : Type v} {U : Type x} {sys : System T K V U}
variable {history extension : List T} {returned returned' : List Nat} {k : K} {v : V} {t : T} {i : Nat}

theorem getElem?_append_of_some (h : history[i]? = some t) : (history ++ extension)[i]? = some t := by
  obtain ⟨hi, _⟩ := List.getElem?_eq_some_iff.mp h
  rw [List.getElem?_append_left hi]
  exact h

theorem Unchanged.extend (h : Unchanged sys history i k) (hi : i < history.length) :
    Unchanged sys (history ++ extension) i k := by
  intro t t' ht ht'
  rw [List.getElem?_append_left (by omega)] at ht
  rw [List.getElem?_append_left hi] at ht'
  exact h t t' ht ht'

/-- A new version overtakes nothing as long as its update has not returned. -/
theorem Fresh.extend (h : Fresh sys history returned k v) (hbound : ∀ i ∈ returned, i < history.length) :
    Fresh sys (history ++ extension) returned k v := by
  obtain ⟨j, t, ht, hv, hunchanged⟩ := h
  refine ⟨j, t, getElem?_append_of_some ht, hv, fun i hi hj => ?_⟩
  exact (hunchanged i hi hj).extend (hbound i hi)

theorem Fresh.subset (h : Fresh sys history returned k v) (hle : returned' ⊆ returned) :
    Fresh sys history returned' k v := by
  obtain ⟨j, t, ht, hv, hunchanged⟩ := h
  exact ⟨j, t, ht, hv, fun i hi hj => hunchanged i (hle hi) hj⟩

/-- What is stored now is fresh. -/
theorem fresh_value {past : List T} (hbound : ∀ i ∈ returned, i < (past ++ [t]).length) :
    Fresh sys (past ++ [t]) returned k (sys.value t k) := by
  refine ⟨past.length, t, List.getElem?_concat_length, rfl, fun i hi hj => ?_⟩
  have hlt := hbound i hi
  rw [List.length_append, List.length_singleton] at hlt
  omega

/-- An update that has not changed a key may return over its entry. -/
theorem Fresh.append (h : Fresh sys history returned k v) (hunchanged : ∀ c ∈ returned', Unchanged sys history c k) :
    Fresh sys history (returned ++ returned') k v := by
  obtain ⟨j, t, ht, hv, hbefore⟩ := h
  refine ⟨j, t, ht, hv, fun i hi hj => ?_⟩
  rcases List.mem_append.mp hi with hi | hi
  · exact hbefore i hi hj
  · exact hunchanged i hi

end

/-! ## The invariant -/

section
variable {T : Type w} {K : Type u} {V : Type v} {U : Type x} (sys : System T K V U)

/-- What a reader has in hand was stored when it selected, after the updates that had returned before it. -/
structure ReaderOk (history : List T) (returned : List Nat) (r : Reader K V) : Prop where
  before : r.returnedBefore ⊆ returned
  selected : ∀ n v, r.phase = .selected n v →
    (∃ t, history[n]? = some t ∧ sys.value t r.key = v) ∧ ∀ i ∈ r.returnedBefore, i ≤ n
  filled : ∀ v, r.phase = .filled v → Fresh sys history r.returnedBefore r.key v

/-- Each commit of an update is the write of a segment of its plan. -/
structure WriterOk (history : List T) (w : Writer T K V U) : Prop where
  waiting : w.phase = .waiting → w.commits = []
  planned : ∀ plan rest, w.phase = .running plan rest → (∃ t, sys.plan w.update t = some plan) ∧
    rest <:+ plan.segments ∧ ∀ c ∈ w.commits, ∃ f, Segment.write f ∈ plan.segments ∧
      ∃ t, 0 < c ∧ history[c - 1]? = some t ∧ history[c]? = some (f t)

/-- What holds in a sound run. -/
structure Inv (s : State T K V U) : Prop where
  bound : ∀ i ∈ s.returned, i < s.history.length
  cache : ∀ k v, s.cache k = some v → Fresh sys s.history s.returned k v
  readers : ∀ r ∈ s.readers, ReaderOk sys s.history s.returned r
  writers : ∀ w ∈ s.writers, WriterOk sys s.history w
  reads : ∀ r ∈ s.reads, r.returnedBefore ⊆ s.returned ∧ r.IsFresh sys s

end

section
variable {T : Type w} {K : Type u} {V : Type v} {U : Type x} {sys : System T K V U}
variable {history extension : List T} {returned returned' : List Nat} {s : State T K V U} {i : Nat}

theorem inv_init (t : T) : Inv sys ({ tables := t } : State T K V U) where
  bound := fun _ hi => by cases hi
  cache := fun _ _ hv => by cases hv
  readers := fun _ hr => by cases hr
  writers := fun _ hw => by cases hw
  reads := fun _ hr => by cases hr

theorem ReaderOk.extend {r : Reader K V} (h : ReaderOk sys history returned r)
    (hbound : ∀ i ∈ returned, i < history.length) : ReaderOk sys (history ++ extension) returned r where
  before := h.before
  selected := by
    intro n v hphase
    obtain ⟨⟨t, ht, hv⟩, hle⟩ := h.selected n v hphase
    exact ⟨⟨t, getElem?_append_of_some ht, hv⟩, hle⟩
  filled := fun v hphase => (h.filled v hphase).extend fun i hi => hbound i (h.before hi)

theorem ReaderOk.mono {r : Reader K V} (h : ReaderOk sys history returned r) (hle : returned ⊆ returned') :
    ReaderOk sys history returned' r :=
  ⟨fun _ hi => hle (h.before hi), h.selected, h.filled⟩

theorem WriterOk.extend {w : Writer T K V U} (h : WriterOk sys history w) :
    WriterOk sys (history ++ extension) w where
  waiting := h.waiting
  planned := by
    intro plan rest hphase
    obtain ⟨hplan, hrest, hcommits⟩ := h.planned plan rest hphase
    refine ⟨hplan, hrest, fun c hc => ?_⟩
    obtain ⟨f, hf, t, hpos, ht, ht'⟩ := hcommits c hc
    exact ⟨f, hf, t, hpos, getElem?_append_of_some ht, getElem?_append_of_some ht'⟩

theorem WriterOk.lt_length {w : Writer T K V U} (h : WriterOk sys history w) {plan : Plan T K V}
    {rest : List (Segment T K V)} (hphase : w.phase = .running plan rest) : ∀ c ∈ w.commits, c < history.length := by
  intro c hc
  obtain ⟨_, _, _, _, _, ht⟩ := (h.planned plan rest hphase).2.2 c hc
  exact (List.getElem?_eq_some_iff.mp ht).1

/-- **A commit changes no key that the writes of the plan leave alone.** -/
theorem WriterOk.unchanged {w : Writer T K V U} (h : WriterOk sys history w) {plan : Plan T K V}
    {rest : List (Segment T K V)} (hphase : w.phase = .running plan rest) {k : K}
    (hleaves : ∀ f, Segment.write f ∈ plan.segments → ∀ t, sys.value (f t) k = sys.value t k) :
    ∀ c ∈ w.commits, Unchanged sys history c k := by
  intro c hc t t' ht ht'
  obtain ⟨f, hf, before, _, hbefore, hafter⟩ := (h.planned plan rest hphase).2.2 c hc
  rw [hbefore] at ht
  rw [hafter] at ht'
  obtain rfl := Option.some.inj ht
  obtain rfl := Option.some.inj ht'
  exact hleaves f hf before

/-- A segment that has run leaves the rest of the plan. -/
theorem suffix_of_cons_suffix {α : Type*} {a : α} {l l' : List α} (h : (a :: l) <:+ l') : l <:+ l' :=
  (List.suffix_cons a l).trans h

theorem forall_mem_append {α : Type*} {p : α → Prop} {l : List α} {a : α} (h : ∀ x ∈ l, p x) (ha : p a) :
    ∀ x ∈ l ++ [a], p x := by
  intro x hx
  rcases List.mem_append.mp hx with hx | hx
  · exact h x hx
  · rw [List.mem_singleton.mp hx]
    exact ha

theorem forall_mem_set {α : Type*} {p : α → Prop} {l : List α} {a : α} (h : ∀ x ∈ l, p x) (ha : p a) (i : Nat) :
    ∀ x ∈ l.set i a, p x := by
  intro x hx
  rcases List.mem_or_eq_of_mem_set hx with hx | rfl
  · exact h x hx
  · exact ha

theorem forall_mem_eraseIdx {α : Type*} {p : α → Prop} {l : List α} (h : ∀ x ∈ l, p x) (i : Nat) :
    ∀ x ∈ l.eraseIdx i, p x :=
  fun x hx => h x (List.mem_of_mem_eraseIdx hx)

/-! ## Readers -/

theorem length_history (s : State T K V U) : s.history.length = s.past.length + 1 := by
  unfold State.history
  rw [List.length_append, List.length_singleton]

theorem Inv.select {k : K} {before : List Nat} (h : Inv sys s) (hr : s.readers[i]? = some ⟨k, before, .missed⟩) :
    Inv sys { s with
      readers := s.readers.set i ⟨k, before, .selected s.past.length (sys.value s.tables k)⟩ } := by
  have hok := h.readers _ (List.mem_of_getElem? hr)
  have hselected : ReaderOk sys s.history s.returned
      ⟨k, before, .selected s.past.length (sys.value s.tables k)⟩ := by
    refine ⟨hok.before, fun n v hphase => ?_, fun v hphase => ?_⟩
    · cases hphase
      -- The reader selects from the last version, so no commit is later.
      refine ⟨⟨s.tables, List.getElem?_concat_length, rfl⟩, fun j hj => ?_⟩
      have hlt := h.bound j (hok.before hj)
      rw [length_history] at hlt
      omega
    · cases hphase
  exact ⟨h.bound, h.cache, forall_mem_set h.readers hselected i, h.writers, h.reads⟩

theorem Inv.fill [DecidableEq K] {k : K} {before : List Nat} {n : Nat} {v : V} (h : Inv sys s)
    (hr : s.readers[i]? = some ⟨k, before, .selected n v⟩)
    (hok : ∀ j ∈ s.returned, n < j → Unchanged sys s.history j k) :
    Inv sys { s with cache := s.cache.put k (some v), readers := s.readers.set i ⟨k, before, .filled v⟩ } := by
  have hreader := h.readers _ (List.mem_of_getElem? hr)
  obtain ⟨⟨t, ht, hv⟩, hle⟩ := hreader.selected n v rfl
  have hfilled : ReaderOk sys s.history s.returned ⟨k, before, .filled v⟩ := by
    refine ⟨hreader.before, fun n v hphase => ?_, fun v' hphase => ?_⟩
    · cases hphase
    · cases hphase
      refine ⟨n, t, ht, hv, fun j hj hn => ?_⟩
      have hle := hle j hj
      omega
  -- Every read to come may be served this entry, whichever updates have returned before it.
  refine ⟨h.bound, ?_, forall_mem_set h.readers hfilled i, h.writers, h.reads⟩
  intro k' v' hentry
  have hput : (if k' = k then some v else s.cache k') = some v' := hentry
  split at hput
  · next hk =>
    obtain rfl := Option.some.inj hput
    rw [hk]
    exact ⟨n, t, ht, hv, hok⟩
  · exact h.cache k' v' hput

theorem Inv.readReturn {k : K} {before : List Nat} {v : V} (h : Inv sys s)
    (hr : s.readers[i]? = some ⟨k, before, .filled v⟩) :
    Inv sys { s with
      readers := s.readers.eraseIdx i
      reads := s.reads ++ ((if sys.rereads k then s.cache k else some v).map fun v => ⟨k, v, before⟩).toList } := by
  have hreader := h.readers _ (List.mem_of_getElem? hr)
  refine ⟨h.bound, h.cache, forall_mem_eraseIdx h.readers i, h.writers, ?_⟩
  cases hresult : (if sys.rereads k then s.cache k else some v) with
  | none =>
    intro r hmem
    exact h.reads r (by simpa using hmem)
  | some result =>
    refine forall_mem_append h.reads ⟨hreader.before, ?_⟩
    split at hresult
    · exact (h.cache k result hresult).subset hreader.before
    · obtain rfl := Option.some.inj hresult
      exact hreader.filled v rfl

/-! ## Updates -/

theorem Inv.write {w : Writer T K V U} {plan : Plan T K V} {f : T → T} {rest : List (Segment T K V)} (h : Inv sys s)
    (hw : s.writers[i]? = some w) (hphase : w.phase = .running plan (.write f :: rest)) :
    Inv sys (runSegment s i w plan rest (.write f)) := by
  have hwriter := h.writers w (List.mem_of_getElem? hw)
  obtain ⟨hplan, hrest, hcommits⟩ := hwriter.planned plan _ hphase
  have hhistory : (runSegment s i w plan rest (.write f)).history = s.history ++ [f s.tables] := rfl
  have hlength := length_history s
  refine ⟨?_, ?_, ?_, ?_, ?_⟩
  · intro j hj
    rw [hhistory, List.length_append]
    exact Nat.lt_add_right _ (h.bound j hj)
  · intro k v hv
    rw [hhistory]
    exact (h.cache k v hv).extend h.bound
  · intro r hr
    rw [hhistory]
    exact (h.readers r hr).extend h.bound
  · rw [hhistory]
    refine forall_mem_set (fun w hw => (h.writers w hw).extend) ⟨fun hwaiting => ?_, ?_⟩ i
    · cases hwaiting
    · intro plan' rest' hphase'
      cases hphase'
      refine ⟨hplan, suffix_of_cons_suffix hrest, forall_mem_append ?_ ?_⟩
      · intro c hc
        obtain ⟨g, hg, t, hpos, ht, ht'⟩ := hcommits c hc
        exact ⟨g, hg, t, hpos, getElem?_append_of_some ht, getElem?_append_of_some ht'⟩
      · refine ⟨f, hrest.subset List.mem_cons_self, s.tables, Nat.succ_pos _, ?_, ?_⟩
        · exact getElem?_append_of_some List.getElem?_concat_length
        · rw [← hlength]
          exact List.getElem?_concat_length
  · intro r hr
    obtain ⟨hbefore, hfresh⟩ := h.reads r hr
    refine ⟨hbefore, ?_⟩
    unfold Read.IsFresh
    rw [hhistory]
    exact hfresh.extend fun j hj => h.bound j (hbefore hj)

theorem Inv.touch {w : Writer T K V U} {plan : Plan T K V} {f : Cache K V → Cache K V} {rest : List (Segment T K V)}
    (h : Inv sys s) (hw : s.writers[i]? = some w) (hphase : w.phase = .running plan (.touch f :: rest))
    (hok : ∀ k v, f s.cache k = some v → s.cache k = some v ∨ v = sys.value s.tables k) :
    Inv sys (runSegment s i w plan rest (.touch f)) := by
  have hwriter := h.writers w (List.mem_of_getElem? hw)
  obtain ⟨hplan, hrest, hcommits⟩ := hwriter.planned plan _ hphase
  refine ⟨h.bound, ?_, h.readers, forall_mem_set h.writers ⟨fun hwaiting => ?_, ?_⟩ i, h.reads⟩
  · intro k v hv
    rcases hok k v hv with hkept | rfl
    · exact h.cache k v hkept
    · exact fresh_value h.bound
  · cases hwaiting
  · intro plan' rest' hphase'
    cases hphase'
    exact ⟨hplan, suffix_of_cons_suffix hrest, hcommits⟩

theorem Inv.updateReturn {u : U} {plan : Plan T K V} {commits : List Nat} (h : Inv sys s)
    (hw : s.writers[i]? = some ⟨u, .running plan [], commits⟩)
    (hok : ∀ k v, plan.settle s.cache k = some v → v = sys.value s.tables k ∨
      s.cache k = some v ∧ ∀ c ∈ commits, Unchanged sys s.history c k) :
    Inv sys { s with
      cache := plan.settle s.cache
      writers := s.writers.eraseIdx i
      returned := s.returned ++ commits } := by
  have hwriter := h.writers _ (List.mem_of_getElem? hw)
  -- From here on the commits of the update count as returned.
  have hbound : ∀ j ∈ s.returned ++ commits, j < s.history.length := by
    intro j hj
    rcases List.mem_append.mp hj with hj | hj
    · exact h.bound j hj
    · exact hwriter.lt_length rfl j hj
  refine ⟨hbound, ?_, ?_, forall_mem_eraseIdx h.writers i, ?_⟩
  · intro k v hv
    rcases hok k v hv with rfl | ⟨hkept, hunchanged⟩
    · exact fresh_value hbound
    · exact (h.cache k v hkept).append hunchanged
  · intro r hr
    exact (h.readers r hr).mono (List.subset_append_left _ _)
  · intro r hr
    obtain ⟨hbefore, hfresh⟩ := h.reads r hr
    exact ⟨fun j hj => List.mem_append_left _ (hbefore hj), hfresh⟩

end

/-! ## Runs -/

section
variable {T : Type w} {K : Type u} {V : Type v} {U : Type x} [DecidableEq K] {sys : System T K V U}
variable {s s' : State T K V U} {l : Label K U}

/-- Every sound step keeps the invariant. -/
theorem Inv.step (h : Inv sys s) (hok : Sound sys s l) (hs : step sys s l = some s') : Inv sys s' := by
  cases l with
  | readStart k =>
    simp only [ReadThrough.step] at hs
    split at hs
    · next v hv =>
      cases hs
      have hread : (⟨k, v, s.returned⟩ : Read K V).returnedBefore ⊆ s.returned := fun _ hi => hi
      exact ⟨h.bound, h.cache, h.readers, h.writers, forall_mem_append h.reads ⟨hread, h.cache k v hv⟩⟩
    · cases hs
      refine ⟨h.bound, h.cache, forall_mem_append h.readers ⟨fun _ hi => hi, ?_, ?_⟩, h.writers, h.reads⟩
      · intro n v hphase
        cases hphase
      · intro v hphase
        cases hphase
  | readSelect i =>
    simp only [ReadThrough.step] at hs
    split at hs
    · next k before hr =>
      cases hs
      exact h.select hr
    · cases hs
  | readFill i =>
    simp only [ReadThrough.step] at hs
    split at hs
    · next k before n v hr =>
      cases hs
      exact h.fill hr (hok k before n v hr)
    · cases hs
  | readReturn i =>
    simp only [ReadThrough.step] at hs
    split at hs
    · next k before v hr =>
      cases hs
      exact h.readReturn hr
    · cases hs
  | readFails i =>
    cases hs
    exact ⟨h.bound, h.cache, forall_mem_eraseIdx h.readers i, h.writers, h.reads⟩
  | updateStart u =>
    cases hs
    refine ⟨h.bound, h.cache, h.readers, forall_mem_append h.writers ⟨fun _ => rfl, ?_⟩, h.reads⟩
    intro plan rest hphase
    cases hphase
  | updateSelect i =>
    simp only [ReadThrough.step] at hs
    split at hs
    · next u commits hw =>
      -- an update that waits has committed nothing
      have hnone : commits = [] := (h.writers _ (List.mem_of_getElem? hw)).waiting rfl
      split at hs
      · next plan hplan =>
        cases hs
        refine ⟨h.bound, h.cache, h.readers, forall_mem_set h.writers ⟨fun _ => hnone, ?_⟩ i, h.reads⟩
        intro plan' rest hphase
        cases hphase
        refine ⟨⟨s.tables, hplan⟩, List.suffix_refl _, fun c hc => ?_⟩
        have hmem : c ∈ commits := hc
        rw [hnone] at hmem
        cases hmem
      · cases hs
        exact ⟨h.bound, h.cache, h.readers, forall_mem_eraseIdx h.writers i, h.reads⟩
    · cases hs
  | updateStep i =>
    simp only [ReadThrough.step] at hs
    split at hs
    · next u plan segment rest commits hw =>
      cases hs
      cases segment with
      | write f => exact h.write hw rfl
      | touch f => exact h.touch hw rfl (hok u plan f rest commits hw)
    · cases hs
  | updateReturn i =>
    simp only [ReadThrough.step] at hs
    split at hs
    · next u plan commits hw =>
      cases hs
      exact h.updateReturn hw (hok u plan commits hw)
    · cases hs
  | updateFails i =>
    cases hs
    exact ⟨h.bound, h.cache, h.readers, forall_mem_eraseIdx h.writers i, h.reads⟩
  | evict k =>
    cases hs
    refine ⟨h.bound, fun k' v hv => ?_, h.readers, h.writers, h.reads⟩
    -- what is still cached was cached before
    have hput : (if k' = k then none else s.cache k') = some v := hv
    split at hput
    · cases hput
    · exact h.cache k' v hput

/-- **In every run whose steps are sound every read is fresh**, and the invariant holds on the way, where a
    guard may rely on it. -/
theorem inv_of_sound {t : T} {ok : State T K V U → Label K U → Prop}
    (hsound : ∀ s l, Inv sys s → ok s l → Sound sys s l) (h : ReachesUnder (step sys) ok { tables := t } s) :
    Inv sys s :=
  h.invariant (inv_init t) fun _ _ _ hinv hok hs => hinv.step (hsound _ _ hinv hok) hs

end

end ReadThrough
