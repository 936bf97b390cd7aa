import RideTheApi.Lib.Slots
import RideTheApi.Pipeline.Correlation

/-!
# `Pipeline.CorrelationSafety` — when a captured request is consumed at most once

The pending set lives twice. Taking a request out of memory and settling its row are separate awaits, so
a second call can find the other copy in between: `match_response` pops an entry and has not marked its
row yet, and a keyless fallback claims that row. `Guard` names the steps that keep the two copies
together; under it the bookkeeping `Inv` is preserved by every step, and `ConsumedAtMostOnce` follows.
-/

namespace RideTheApi
namespace Correlation

open Py Transition

/-! ## What a call holds -/

/-- The key a registration has handed out (or is about to). -/
def Call.issuedKey : Call → Option String
  | .registering entry => some entry.correlationKey
  | .registered key    => some key
  | _                  => none

/-- The key of a registration whose row is not inserted yet. -/
def Call.insertingKey : Call → Option String
  | .registering entry => some entry.correlationKey
  | _                  => none

/-- The request a response has taken, from memory or from the table. -/
def Call.pairedKey : Call → Option String
  | .marking _ entry           => some entry.correlationKey
  | .readingKeyed _ key        => some key
  | .storing key _             => some key
  | .matched (some (key, _))   => some key
  | _                          => none

/-- The request a response has taken from memory and whose row it has not marked yet. -/
def Call.markingKey : Call → Option String
  | .marking _ entry => some entry.correlationKey
  | _                => none

/-- The request a discard has removed from either copy. -/
def Call.droppedKey : Call → Option String
  | .discarding key true => some key
  | .discarded key true  => some key
  | _                    => none

/-- The request a discard has removed from memory and whose row it has not deleted yet. -/
def Call.droppingKey : Call → Option String
  | .discarding key true => some key
  | _                    => none

/-- The correlation keys handed out so far. -/
def State.issued (s : State) : List String := s.calls.filterMap Call.issuedKey

/-- The requests taken by a response, one occurrence per response. -/
def State.paired (s : State) : List String := s.calls.filterMap Call.pairedKey

/-! ## The law and the guard -/

/-- Each request is in at most one returned pair, and a request whose discard returned true is in
    none. -/
def ConsumedAtMostOnce (s : State) : Prop :=
  (∀ (i j : Nat) key p q, s.calls[i]? = some (Call.matched (some (key, p))) →
      s.calls[j]? = some (Call.matched (some (key, q))) → i = j) ∧
  (∀ key p, Call.matched (some (key, p)) ∈ s.calls → Call.discarded key true ∉ s.calls)

/-- The row of the entry a response or a discard takes from memory has been inserted. -/
def RowInserted (s : State) (takes : Entry → Bool) : Prop :=
  ∀ entry ∈ s.pending.find? takes, ∀ c ∈ s.calls, c.insertingKey ≠ some entry.correlationKey

/-- No live copy of the request is left in memory: it is not queued, and no response that popped it
    has its row still to mark. -/
def GoneFromMemory (s : State) (key : String) : Prop :=
  (∀ entry ∈ s.pending, entry.correlationKey ≠ key) ∧ ∀ c ∈ s.calls, c.markingKey ≠ some key

/-- The request whose row the next statement of call `i` claims for a response. -/
def claimedKey (s : State) (i : Nat) : Option String :=
  match s.calls[i]? with
  | some (.claimingKeyed _ key) => if s.table.any (claimable key) then some key else none
  | some (.scanning resp rows) =>
    match rows.dropWhile fun row => row.protocol != resp.protocol with
    | []       => none
    | row :: _ =>
      if s.table.any (claimable row.correlationKey) then some row.correlationKey else none
  | _ => none

/-- The request whose row the next statement of call `i`, a discard that found nothing in memory,
    deletes. -/
def deletedKey (s : State) (i : Nat) : Option String :=
  match s.calls[i]? with
  | some (.discarding key false) =>
    if s.table.any fun row => row.deviceId == s.deviceId && claimable key row then some key else none
  | _ => none

/-- **The steps that keep the two copies of a request together.** A registration draws a key not handed
    out before; memory is popped only once the row is there; the table is claimed (or deleted from)
    only for a request no longer live in memory, and not while a discard that took it from memory has
    its `DELETE` still to run. -/
def Guard (s : State) : Label → Prop
  | .registerRequest _ _ method path _ _ _ _ uuid _ => corrKey s.deviceId method path uuid ∉ s.issued
  | .matchResponse _ protocol _ _ _ correlationKey pairTtlHours now =>
    RowInserted s (qualifies protocol correlationKey (now - correlationMaxAge pairTtlHours))
  | .discardRequest key => RowInserted s fun entry => entry.correlationKey == key
  | .resume i _ _ =>
    (∀ key ∈ claimedKey s i, GoneFromMemory s key ∧ ∀ c ∈ s.calls, c.droppingKey ≠ some key) ∧
    (∀ key ∈ deletedKey s i, GoneFromMemory s key)

instance (s : State) (takes : Entry → Bool) : Decidable (RowInserted s takes) :=
  inferInstanceAs (Decidable (∀ _ ∈ _, _))

instance (s : State) (key : String) : Decidable (GoneFromMemory s key) :=
  inferInstanceAs (Decidable (_ ∧ _))

instance (s : State) : (l : Label) → Decidable (Guard s l)
  | .registerRequest .. => inferInstanceAs (Decidable (_ ∉ _))
  | .matchResponse .. => inferInstanceAs (Decidable (RowInserted _ _))
  | .discardRequest _ => inferInstanceAs (Decidable (RowInserted _ _))
  | .resume .. => inferInstanceAs (Decidable (_ ∧ _))

/-! ## The invariant -/

/-- The bookkeeping that ties the queue, the table and the calls together. -/
structure Inv (s : State) : Prop where
  issuedNodup : s.issued.Nodup
  pairedNodup : s.paired.Nodup
  pendingNodup : (s.pending.map (·.correlationKey)).Nodup
  /-- A queued request was issued, and nobody has taken it. -/
  queued : ∀ entry ∈ s.pending, entry.correlationKey ∈ s.issued ∧
    ∀ c ∈ s.calls, c.pairedKey ≠ some entry.correlationKey ∧
      c.droppedKey ≠ some entry.correlationKey
  /-- What a call has taken was issued, and not both paired and dropped. -/
  taken : ∀ c ∈ s.calls, ∀ key, (c.pairedKey = some key → key ∈ s.issued ∧
      ∀ c' ∈ s.calls, c'.droppedKey ≠ some key) ∧ (c.droppedKey = some key → key ∈ s.issued)
  /-- An unclaimed row of a request already taken belongs to a call that took it from memory and has
      its row statement still to run. -/
  openRow : ∀ row ∈ s.table, row.correlated = false → ∀ c ∈ s.calls,
    (c.pairedKey = some row.correlationKey → c.markingKey = some row.correlationKey) ∧
    (c.droppedKey = some row.correlationKey → c.droppingKey = some row.correlationKey)
  rowIssued : ∀ row ∈ s.table, row.deviceId = s.deviceId ∧ row.correlationKey ∈ s.issued
  /-- A request whose row is not inserted has no row and has not been taken. -/
  inserting : ∀ c ∈ s.calls, ∀ key, c.insertingKey = some key →
    (∀ row ∈ s.table, row.correlationKey ≠ key) ∧
    ∀ c' ∈ s.calls, c'.pairedKey ≠ some key ∧ c'.droppedKey ≠ some key
  device : ∀ entry, Call.registering entry ∈ s.calls → entry.deviceId = s.deviceId

theorem inv_init (deviceId : String) : Inv (init deviceId) := by
  constructor <;> simp [init, State.issued, State.paired]

/-- The law is read off the invariant. -/
theorem Inv.consumedAtMostOnce {s : State} (h : Inv s) : ConsumedAtMostOnce s := by
  refine ⟨?_, ?_⟩
  · intro i j key p q hi hj
    exact Slots.index_unique h.pairedNodup hi hj rfl rfl
  · intro key p hp hd
    exact ((h.taken _ hp key).1 rfl).2 _ hd rfl

/-! ## Taking a request nobody holds -/

/-- A request no call has taken, whose row is inserted and whose entry is not queued. -/
structure Untaken (s : State) (key : String) : Prop where
  issued : key ∈ s.issued
  queued : ∀ entry ∈ s.pending, entry.correlationKey ≠ key
  paired : ∀ c ∈ s.calls, c.pairedKey ≠ some key
  inserting : ∀ c ∈ s.calls, c.insertingKey ≠ some key

theorem any_claimable {s : State} {key : String} (h : s.table.any (claimable key)) :
    ∃ row ∈ s.table, row.correlationKey = key ∧ row.correlated = false := by
  obtain ⟨row, hrow, hc⟩ := List.any_eq_true.mp h
  simp only [claimable, Bool.and_eq_true, beq_iff_eq, Bool.not_eq_true'] at hc
  exact ⟨row, hrow, hc⟩

/-- **An unclaimed row of a request gone from memory is untaken.** Whoever had taken it would still hold
    it in memory (`openRow`). -/
theorem Inv.untaken {s : State} (h : Inv s) {key : String}
    (hrow : ∃ row ∈ s.table, row.correlationKey = key ∧ row.correlated = false)
    (hgone : GoneFromMemory s key) : Untaken s key := by
  obtain ⟨row, hmem, rfl, hopen⟩ := hrow
  refine ⟨(h.rowIssued row hmem).2, hgone.1, ?_, ?_⟩
  · intro c hc hp
    exact hgone.2 c hc ((h.openRow row hmem hopen c hc).1 hp)
  · intro c hc hins
    exact (h.inserting c hc _ hins).1 row hmem rfl

theorem Inv.not_dropped {s : State} (h : Inv s) {key : String}
    (hrow : ∃ row ∈ s.table, row.correlationKey = key ∧ row.correlated = false)
    (hdrop : ∀ c ∈ s.calls, c.droppingKey ≠ some key) : ∀ c ∈ s.calls, c.droppedKey ≠ some key := by
  obtain ⟨row, hmem, rfl, hopen⟩ := hrow
  intro c hc hd
  exact hdrop c hc ((h.openRow row hmem hopen c hc).2 hd)

/-! ## Steps that settle a row -/

/-- `table'` keeps keys and devices and opens no row. -/
def Settles (table' table : List SessionCache) : Prop :=
  ∀ row' ∈ table', ∃ row ∈ table, row.correlationKey = row'.correlationKey ∧
    row.deviceId = row'.deviceId ∧ (row'.correlated = false → row.correlated = false)

theorem settles_refl (table : List SessionCache) : Settles table table :=
  fun row h => ⟨row, h, rfl, rfl, id⟩

theorem settles_updateMatched (table : List SessionCache) (key : String) (resp : Response)
    (now : Int) : Settles (updateMatched table key resp now) table := by
  intro row' h
  obtain ⟨row, hrow, rfl⟩ := List.mem_map.mp h
  refine ⟨row, hrow, ?_⟩
  split <;> simp [SessionCache.mark]

theorem settles_updateClaim (table : List SessionCache) (key : String) (resp : Response)
    (now : Int) : Settles (updateClaim table key resp now) table := by
  intro row' h
  obtain ⟨row, hrow, rfl⟩ := List.mem_map.mp h
  refine ⟨row, hrow, ?_⟩
  split <;> simp [SessionCache.mark]

theorem settles_deleteUncorrelated (table : List SessionCache) (deviceId key : String) :
    Settles (deleteUncorrelated table deviceId key) table :=
  fun row h => ⟨row, (List.mem_filter.mp h).1, rfl, rfl, id⟩

/-- Every row of `key` is correlated. -/
def Settled (table : List SessionCache) (key : String) : Prop :=
  ∀ row ∈ table, row.correlationKey = key → row.correlated = true

theorem settled_updateMatched (table : List SessionCache) (key : String) (resp : Response)
    (now : Int) : Settled (updateMatched table key resp now) key := by
  intro row' h hkey
  obtain ⟨row, -, rfl⟩ := List.mem_map.mp h
  split at hkey
  · simp [SessionCache.mark, *]
  · exact absurd hkey ‹_›

theorem settled_updateClaim (table : List SessionCache) (key : String) (resp : Response)
    (now : Int) : Settled (updateClaim table key resp now) key := by
  intro row' h hkey
  obtain ⟨row, -, rfl⟩ := List.mem_map.mp h
  by_cases hc : claimable key row = true
  · simp [hc, SessionCache.mark]
  · simp only [hc, Bool.false_eq_true, if_false] at hkey ⊢
    simpa [claimable, hkey] using hc

theorem settled_deleteUncorrelated {s : State} (h : Inv s) (key : String) :
    Settled (deleteUncorrelated s.table s.deviceId key) key := by
  intro row hrow hkey
  obtain ⟨hmem, hkeep⟩ := List.mem_filter.mp hrow
  simpa [claimable, hkey, (h.rowIssued row hmem).1] using hkeep

/-- A request a call has taken for good has no open row. -/
theorem Inv.settled {s : State} (h : Inv s) {c : Call} (hc : c ∈ s.calls) {key : String}
    (hp : c.pairedKey = some key) (hm : c.markingKey = none) : Settled s.table key := by
  intro row hrow hkey
  by_contra hopen
  have := (h.openRow row hrow (by simpa using hopen) c hc).1 (by rw [hkey]; exact hp)
  rw [hm] at this
  cases this

/-- **The step rule for a resumed call.** Call `i` moves from `c` to `c'` while the table settles rows.
    What `c'` holds, `c` held already or nobody did; and its rows are settled by now. -/
theorem Inv.setCall {s : State} (h : Inv s) {i : Nat} {c c' : Call} {table' : List SessionCache}
    (hi : s.calls[i]? = some c) (htable : Settles table' s.table)
    (hissued : c'.issuedKey = c.issuedKey) (hins : c'.insertingKey = none)
    (hpaired : ∀ key, c'.pairedKey = some key → Settled table' key ∧ (c.pairedKey = some key ∨
      (Untaken s key ∧ ∀ c ∈ s.calls, c.droppedKey ≠ some key)))
    (hdropped : ∀ key, c'.droppedKey = some key → Settled table' key ∧
      (c.droppedKey = some key ∨ Untaken s key)) :
    Inv ({ s with table := table' }.setCall i c') := by
  have hc : c ∈ s.calls := List.mem_of_getElem? hi
  have hiss : ({ s with table := table' }.setCall i c').issued = s.issued :=
    Slots.filterMap_set_same hi hissued
  have hmem : ∀ {d : Call}, d ∈ s.calls.set i c' → d ∈ s.calls ∨ d = c' :=
    fun hd => List.mem_or_eq_of_mem_set hd
  -- what the new call holds: issued, not queued, not being inserted, not held the other way
  have hp' : ∀ key, c'.pairedKey = some key → key ∈ s.issued ∧
      (∀ entry ∈ s.pending, entry.correlationKey ≠ key) ∧
      (∀ d ∈ s.calls, d.insertingKey ≠ some key) ∧ ∀ d ∈ s.calls, d.droppedKey ≠ some key := by
    intro key hk
    rcases (hpaired key hk).2 with hold | ⟨hun, hnd⟩
    · have htk := (h.taken c hc key).1 hold
      refine ⟨htk.1, ?_, ?_, htk.2⟩
      · intro entry he hkey
        exact ((h.queued entry he).2 c hc).1 (by rw [hkey]; exact hold)
      · intro d hd hdi
        exact ((h.inserting d hd key hdi).2 c hc).1 hold
    · exact ⟨hun.issued, hun.queued, hun.inserting, hnd⟩
  have hd' : ∀ key, c'.droppedKey = some key → key ∈ s.issued ∧
      (∀ entry ∈ s.pending, entry.correlationKey ≠ key) ∧
      (∀ d ∈ s.calls, d.insertingKey ≠ some key) ∧ ∀ d ∈ s.calls, d.pairedKey ≠ some key := by
    intro key hk
    rcases (hdropped key hk).2 with hold | hun
    · refine ⟨(h.taken c hc key).2 hold, ?_, ?_, ?_⟩
      · intro entry he hkey
        exact ((h.queued entry he).2 c hc).2 (by rw [hkey]; exact hold)
      · intro d hd hdi
        exact ((h.inserting d hd key hdi).2 c hc).2 hold
      · intro d hd hdp
        exact ((h.taken d hd key).1 hdp).2 c hc hold
    · exact ⟨hun.issued, hun.queued, hun.inserting, hun.paired⟩
  -- one call holds a key one way only
  have hcross : ∀ key, c'.pairedKey = some key → c'.droppedKey ≠ some key := by
    intro key hk
    cases c' <;> simp_all [Call.pairedKey, Call.droppedKey]
  constructor
  · rw [hiss]; exact h.issuedNodup
  -- a key that is paired now was held by this call, or by none
  · refine Slots.nodup_filterMap_set hi h.pairedNodup ?_
    intro key hk
    rcases (hpaired key hk).2 with hold | ⟨hun, -⟩
    · exact Or.inl hold
    · right
      intro hm
      obtain ⟨d, hd, hdk⟩ := List.mem_filterMap.mp hm
      exact hun.paired d hd hdk
  · exact h.pendingNodup
  · intro entry he
    rw [hiss]
    refine ⟨(h.queued entry he).1, ?_⟩
    intro d hd
    rcases hmem hd with hd₀ | rfl
    · exact (h.queued entry he).2 d hd₀
    · exact ⟨fun hk => (hp' _ hk).2.1 entry he rfl, fun hk => (hd' _ hk).2.1 entry he rfl⟩
  · intro d hd key
    rw [hiss]
    rcases hmem hd with hd₀ | rfl
    · refine ⟨fun hk => ⟨((h.taken d hd₀ key).1 hk).1, ?_⟩, (h.taken d hd₀ key).2⟩
      intro e he
      rcases hmem he with he₀ | rfl
      · exact ((h.taken d hd₀ key).1 hk).2 e he₀
      · exact fun hek => (hd' key hek).2.2.2 d hd₀ hk
    · refine ⟨fun hk => ⟨(hp' key hk).1, ?_⟩, fun hk => (hd' key hk).1⟩
      intro e he
      rcases hmem he with he₀ | rfl
      · exact (hp' key hk).2.2.2 e he₀
      · exact hcross key hk
  -- an open row was open before, and what the call holds is settled
  · intro row' hrow' hopen d hd
    obtain ⟨row, hrow, hkey, -, hle⟩ := htable row' hrow'
    rcases hmem hd with hd₀ | rfl
    · rw [← hkey]
      exact h.openRow row hrow (hle hopen) d hd₀
    · refine ⟨fun hk => ?_, fun hk => ?_⟩
      · rw [(hpaired _ hk).1 row' hrow' rfl] at hopen
        cases hopen
      · rw [(hdropped _ hk).1 row' hrow' rfl] at hopen
        cases hopen
  · intro row' hrow'
    obtain ⟨row, hrow, hkey, hdev, -⟩ := htable row' hrow'
    rw [hiss, ← hkey, ← hdev]
    exact h.rowIssued row hrow
  · intro d hd key hk
    rcases hmem hd with hd₀ | rfl
    · refine ⟨?_, ?_⟩
      · intro row' hrow' hkey'
        obtain ⟨row, hrow, hkey, -⟩ := htable row' hrow'
        exact (h.inserting d hd₀ key hk).1 row hrow (hkey.trans hkey')
      · intro e he
        rcases hmem he with he₀ | rfl
        · exact (h.inserting d hd₀ key hk).2 e he₀
        · exact ⟨fun hek => (hp' key hek).2.2.1 d hd₀ hk, fun hek => (hd' key hek).2.2.1 d hd₀ hk⟩
    · rw [hins] at hk
      cases hk
  · intro entry hm
    rcases hmem hm with hm₀ | rfl
    · exact h.device entry hm₀
    · simp [Call.insertingKey] at hins

/-- `register_request`'s `INSERT`: the request becomes a row nobody has taken. -/
theorem Inv.insert {s : State} (h : Inv s) {i : Nat} {entry : Entry} (now : Int)
    (hi : s.calls[i]? = some (.registering entry)) :
    Inv ({ s with table := s.table ++ [entry.toRow now] }.setCall i
      (.registered entry.correlationKey)) := by
  have hc : Call.registering entry ∈ s.calls := List.mem_of_getElem? hi
  have hfree := h.inserting _ hc _ rfl
  -- the call itself goes through the rule above, over the old table
  have h' : Inv (s.setCall i (.registered entry.correlationKey)) :=
    h.setCall hi (settles_refl s.table) rfl rfl (by intro key hk; cases hk)
      (by intro key hk; cases hk)
  have hsub : ∀ c ∈ s.calls.set i (.registered entry.correlationKey),
      c ∈ s.calls ∨ c = .registered entry.correlationKey := fun c hm => List.mem_or_eq_of_mem_set hm
  refine ⟨h'.issuedNodup, h'.pairedNodup, h'.pendingNodup, h'.queued, h'.taken, ?_, ?_, ?_, h'.device⟩
  · intro row hrow hopen c hm
    rcases List.mem_append.mp hrow with hrow | hrow
    · exact h'.openRow row hrow hopen c hm
    · obtain rfl := List.mem_singleton.mp hrow
      rcases hsub c hm with hm₀ | rfl
      · exact ⟨fun hk => absurd hk (hfree.2 c hm₀).1, fun hk => absurd hk (hfree.2 c hm₀).2⟩
      · simp [Call.pairedKey, Call.droppedKey]
  · intro row hrow
    rcases List.mem_append.mp hrow with hrow | hrow
    · exact h'.rowIssued row hrow
    · obtain rfl := List.mem_singleton.mp hrow
      refine ⟨h.device entry hc, ?_⟩
      have hiss : (s.setCall i (.registered entry.correlationKey)).issued = s.issued :=
        Slots.filterMap_set_same hi rfl
      show entry.correlationKey ∈ (s.setCall i (.registered entry.correlationKey)).issued
      rw [hiss]
      exact List.mem_filterMap.mpr ⟨_, hc, rfl⟩
  · intro c hm key hk
    refine ⟨?_, (h'.inserting c hm key hk).2⟩
    intro row hrow
    rcases List.mem_append.mp hrow with hrow | hrow
    · exact (h'.inserting c hm key hk).1 row hrow
    · obtain rfl := List.mem_singleton.mp hrow
      rintro rfl
      -- another registration of the same key would have been issued the key twice
      have hnew : (s.calls.set i (.registered entry.correlationKey))[i]?
          = some (.registered entry.correlationKey) := by
        obtain ⟨hlt, -⟩ := List.getElem?_eq_some_iff.mp hi
        simp [hlt]
      obtain ⟨j, hj⟩ := List.mem_iff_getElem?.mp hm
      have hck : c.issuedKey = some entry.correlationKey := by
        cases c <;> simp_all [Call.insertingKey, Call.issuedKey, Entry.toRow]
      have hij := Slots.index_unique h'.issuedNodup hnew hj rfl hck
      subst hij
      rw [State.setCall, hnew] at hj
      cases hj
      cases hk

/-! ## Steps that start a call -/

/-- Starting a call that holds nothing. -/
theorem Inv.addCall {s : State} (h : Inv s) {c : Call} (hissued : c.issuedKey = none)
    (hpaired : c.pairedKey = none) (hdropped : c.droppedKey = none) : Inv (s.addCall c) := by
  have hins : c.insertingKey = none := by
    cases c <;> simp_all [Call.insertingKey, Call.issuedKey]
  have hiss : (s.addCall c).issued = s.issued := by
    simp [State.addCall, State.issued, hissued]
  have hmem : ∀ {d : Call}, d ∈ s.calls ++ [c] → d ∈ s.calls ∨ d = c := by
    intro d hd
    rcases List.mem_append.mp hd with hd | hd
    · exact Or.inl hd
    · exact Or.inr (List.mem_singleton.mp hd)
  refine ⟨hiss ▸ h.issuedNodup, ?_, h.pendingNodup, ?_, ?_, ?_, ?_, ?_, ?_⟩
  · exact Slots.nodup_filterMap_append h.pairedNodup (by simp [hpaired])
  · intro entry he
    rw [hiss]
    refine ⟨(h.queued entry he).1, fun d hd => ?_⟩
    rcases hmem hd with hd₀ | rfl
    · exact (h.queued entry he).2 d hd₀
    · simp [hpaired, hdropped]
  · intro d hd key
    rw [hiss]
    rcases hmem hd with hd₀ | rfl
    · refine ⟨fun hk => ⟨((h.taken d hd₀ key).1 hk).1, fun e he => ?_⟩, (h.taken d hd₀ key).2⟩
      rcases hmem he with he₀ | rfl
      · exact ((h.taken d hd₀ key).1 hk).2 e he₀
      · simp [hdropped]
    · simp [hpaired, hdropped]
  · intro row hrow hopen d hd
    rcases hmem hd with hd₀ | rfl
    · exact h.openRow row hrow hopen d hd₀
    · simp [hpaired, hdropped]
  · rw [hiss]; exact h.rowIssued
  · intro d hd key hk
    rcases hmem hd with hd₀ | rfl
    · refine ⟨(h.inserting d hd₀ key hk).1, fun e he => ?_⟩
      rcases hmem he with he₀ | rfl
      · exact (h.inserting d hd₀ key hk).2 e he₀
      · simp [hpaired, hdropped]
    · simp [hins] at hk
  · intro entry hm
    rcases hmem hm with hm₀ | rfl
    · exact h.device entry hm₀
    · simp [Call.issuedKey] at hissued

/-- Queue entries left behind by a response or a discard that takes `entry`. -/
theorem Inv.pending_rest {s : State} (h : Inv s) {takes : Entry → Bool} {entry : Entry}
    (hfind : s.pending.find? takes = some entry) :
    (s.pending.eraseP takes).Sublist s.pending ∧
    ∀ other ∈ s.pending.eraseP takes, other.correlationKey ≠ entry.correlationKey := by
  refine ⟨List.eraseP_sublist, ?_⟩
  obtain ⟨htakes, l₁, l₂, hsplit, hl₁⟩ := List.find?_eq_some_iff_append.mp hfind
  have hrest : s.pending.eraseP takes = l₁ ++ l₂ := by
    rw [hsplit, List.eraseP_append_right _ (by simpa using hl₁), List.eraseP_cons_of_pos htakes]
  have hn := h.pendingNodup
  rw [hsplit, List.map_append, List.map_cons] at hn
  have hnot := (List.nodup_cons.mp (List.nodup_middle.mp hn)).1
  intro other hother hkey
  rw [hrest] at hother
  apply hnot
  rw [← List.map_append, ← hkey]
  exact List.mem_map_of_mem hother

/-- **Taking a queued request.** A response or a discard takes `entry` out of memory; its row is
    inserted, so nobody can slip a fresh copy in behind it. -/
theorem Inv.take {s : State} (h : Inv s) {takes : Entry → Bool} {entry : Entry} {c : Call}
    (hfind : s.pending.find? takes = some entry) (hrow : RowInserted s takes)
    (hissued : c.issuedKey = none)
    (hpaired : ∀ key, c.pairedKey = some key → key = entry.correlationKey ∧
      c.markingKey = some key ∧ c.droppedKey = none)
    (hdropped : ∀ key, c.droppedKey = some key → key = entry.correlationKey ∧
      c.droppingKey = some key) :
    Inv ({ s with pending := s.pending.eraseP takes }.addCall c) := by
  -- the key leaves `pending` for the new call, so no other queued entry, call or row may hold it
  have he : entry ∈ s.pending := List.mem_of_find?_eq_some hfind
  obtain ⟨hsub, hrest⟩ := h.pending_rest hfind
  have hold := h.queued entry he
  have hnotins : ∀ d ∈ s.calls, d.insertingKey ≠ some entry.correlationKey := hrow entry hfind
  have hins : c.insertingKey = none := by
    cases c <;> simp_all [Call.insertingKey, Call.issuedKey]
  have hiss : ({ s with pending := s.pending.eraseP takes }.addCall c).issued = s.issued := by
    simp [State.addCall, State.issued, hissued]
  have hmem : ∀ {d : Call}, d ∈ s.calls ++ [c] → d ∈ s.calls ∨ d = c := by
    intro d hd
    rcases List.mem_append.mp hd with hd | hd
    · exact Or.inl hd
    · exact Or.inr (List.mem_singleton.mp hd)
  refine ⟨hiss ▸ h.issuedNodup, ?_, h.pendingNodup.sublist (hsub.map _), ?_, ?_, ?_, ?_, ?_, ?_⟩
  · -- no other call has paired the key: it was still queued
    refine Slots.nodup_filterMap_append h.pairedNodup ?_
    intro key hk hm
    obtain ⟨d, hd, hdk⟩ := List.mem_filterMap.mp hm
    exact (hold.2 d hd).1 ((hpaired key hk).1 ▸ hdk)
  · intro other hother
    rw [hiss]
    refine ⟨(h.queued other (hsub.subset hother)).1, fun d hd => ?_⟩
    rcases hmem hd with hd₀ | rfl
    · exact (h.queued other (hsub.subset hother)).2 d hd₀
    · exact ⟨fun hk => hrest other hother (hpaired _ hk).1,
        fun hk => hrest other hother (hdropped _ hk).1⟩
  · intro d hd key
    rw [hiss]
    rcases hmem hd with hd₀ | rfl
    · refine ⟨fun hk => ⟨((h.taken d hd₀ key).1 hk).1, fun e he' => ?_⟩, (h.taken d hd₀ key).2⟩
      rcases hmem he' with he₀ | rfl
      · exact ((h.taken d hd₀ key).1 hk).2 e he₀
      · intro hek
        exact (hold.2 d hd₀).1 ((hdropped key hek).1 ▸ hk)
    · refine ⟨fun hk => ?_, fun hk => (hdropped key hk).1 ▸ hold.1⟩
      obtain ⟨rfl, -, hnone⟩ := hpaired key hk
      refine ⟨hold.1, fun e he' => ?_⟩
      rcases hmem he' with he₀ | rfl
      · exact (hold.2 e he₀).2
      · simp [hnone]
  · -- the row is still open: the new call has yet to mark it, or to drop it
    intro row hr hopen d hd
    rcases hmem hd with hd₀ | rfl
    · exact h.openRow row hr hopen d hd₀
    · exact ⟨fun hk => (hpaired _ hk).2.1, fun hk => (hdropped _ hk).2⟩
  · rw [hiss]; exact h.rowIssued
  · intro d hd key hk
    rcases hmem hd with hd₀ | rfl
    · refine ⟨(h.inserting d hd₀ key hk).1, fun e he' => ?_⟩
      rcases hmem he' with he₀ | rfl
      · exact (h.inserting d hd₀ key hk).2 e he₀
      · exact ⟨fun hek => hnotins d hd₀ ((hpaired key hek).1 ▸ hk),
          fun hek => hnotins d hd₀ ((hdropped key hek).1 ▸ hk)⟩
    · simp [hins] at hk
  · intro e hm
    rcases hmem hm with hm₀ | rfl
    · exact h.device e hm₀
    · simp [Call.issuedKey] at hissued

/-- `register_request` up to its await: a fresh key is issued and queued. -/
theorem Inv.register {s : State} (h : Inv s) {entry : Entry} {pending' : List Entry}
    (hdev : entry.deviceId = s.deviceId) (hfresh : entry.correlationKey ∉ s.issued)
    (hsub : pending'.Sublist (s.pending ++ [entry])) :
    Inv ({ s with pending := pending' }.addCall (.registering entry)) := by
  have hiss : ({ s with pending := pending' }.addCall (.registering entry)).issued
      = s.issued ++ [entry.correlationKey] := by
    simp [State.addCall, State.issued, Call.issuedKey]
  have hmem : ∀ {d : Call}, d ∈ s.calls ++ [.registering entry] → d ∈ s.calls ∨
      d = .registering entry := by
    intro d hd
    rcases List.mem_append.mp hd with hd | hd
    · exact Or.inl hd
    · exact Or.inr (List.mem_singleton.mp hd)
  -- nobody can hold a key that was never issued
  have hp : ∀ d ∈ s.calls, d.pairedKey ≠ some entry.correlationKey ∧
      d.droppedKey ≠ some entry.correlationKey := fun d hd =>
    ⟨fun hk => hfresh ((h.taken d hd _).1 hk).1, fun hk => hfresh ((h.taken d hd _).2 hk)⟩
  have hwiden : ∀ {key : String}, key ∈ s.issued → key ∈ s.issued ++ [entry.correlationKey] :=
    fun hk => List.mem_append_left _ hk
  refine ⟨?_, ?_, ?_, ?_, ?_, ?_, ?_, ?_, ?_⟩
  · refine Slots.nodup_filterMap_append h.issuedNodup ?_
    intro key hk
    cases hk
    exact hfresh
  · exact Slots.nodup_filterMap_append h.pairedNodup (by intro key hk; cases hk)
  · refine List.Nodup.sublist (hsub.map _) ?_
    rw [List.map_append]
    refine List.nodup_append.mpr ⟨h.pendingNodup, List.nodup_singleton _, ?_⟩
    intro x hx y hy hxy
    obtain ⟨e, he, rfl⟩ := List.mem_map.mp hx
    rw [List.map_singleton, List.mem_singleton] at hy
    exact hfresh (hy ▸ hxy ▸ (h.queued e he).1)
  · intro e he
    rw [hiss]
    rcases List.mem_append.mp (hsub.subset he) with he | he
    · refine ⟨hwiden (h.queued e he).1, fun d hd => ?_⟩
      rcases hmem hd with hd₀ | rfl
      · exact (h.queued e he).2 d hd₀
      · simp [Call.pairedKey, Call.droppedKey]
    · obtain rfl := List.mem_singleton.mp he
      refine ⟨by simp, fun d hd => ?_⟩
      rcases hmem hd with hd₀ | rfl
      · exact hp d hd₀
      · simp [Call.pairedKey, Call.droppedKey]
  · intro d hd key
    rw [hiss]
    rcases hmem hd with hd₀ | rfl
    · refine ⟨fun hk => ⟨hwiden ((h.taken d hd₀ key).1 hk).1, fun e he => ?_⟩,
        fun hk => hwiden ((h.taken d hd₀ key).2 hk)⟩
      rcases hmem he with he₀ | rfl
      · exact ((h.taken d hd₀ key).1 hk).2 e he₀
      · simp [Call.droppedKey]
    · simp [Call.pairedKey, Call.droppedKey]
  · intro row hr hopen d hd
    rcases hmem hd with hd₀ | rfl
    · exact h.openRow row hr hopen d hd₀
    · simp [Call.pairedKey, Call.droppedKey]
  · intro row hr
    rw [hiss]
    exact ⟨(h.rowIssued row hr).1, hwiden (h.rowIssued row hr).2⟩
  · intro d hd key hk
    have hrow : ∀ row ∈ s.table, row.correlationKey ≠ key := by
      intro row hr
      rcases hmem hd with hd₀ | rfl
      · exact (h.inserting d hd₀ key hk).1 row hr
      · cases hk
        exact fun heq => hfresh (heq ▸ (h.rowIssued row hr).2)
    refine ⟨hrow, fun e he => ?_⟩
    rcases hmem he with he₀ | rfl
    · rcases hmem hd with hd₀ | rfl
      · exact (h.inserting d hd₀ key hk).2 e he₀
      · cases hk
        exact hp e he₀
    · simp [Call.pairedKey, Call.droppedKey]
  · intro e hm
    rcases hmem hm with hm₀ | heq
    · exact h.device e hm₀
    · cases heq
      exact hdev

/-! ## The step lemma and the run -/

/-- A call that holds nothing goes on: nothing is settled by that. -/
theorem Inv.setCall_idle {s : State} (h : Inv s) {i : Nat} {c c' : Call} (hi : s.calls[i]? = some c)
    (hissued : c'.issuedKey = c.issuedKey) (hins : c'.insertingKey = none) (hpaired : c'.pairedKey = none)
    (hdropped : c'.droppedKey = none) : Inv (s.setCall i c') := by
  refine h.setCall hi (settles_refl s.table) hissued hins ?_ ?_
  · intro key hk
    rw [hpaired] at hk
    cases hk
  · intro key hk
    rw [hdropped] at hk
    cases hk

/-- A resumed call keeps the invariant: one case per suspension point. -/
theorem Inv.resume {s s' : State} (h : Inv s) {i : Nat} {uuid : String} {now : Int}
    (hok : Guard s (.resume i uuid now)) (hs : resume s i uuid now = some s') : Inv s' := by
  obtain ⟨hclaim, hdelete⟩ := hok
  unfold Correlation.resume at hs
  split at hs
  case h_1 entry hi =>
    cases hs
    exact h.insert now hi
  case h_2 resp entry hi =>
    cases hs
    refine h.setCall hi (settles_updateMatched _ _ _ _) rfl rfl ?_ (by intro key hk; cases hk)
    intro key hk
    cases hk
    exact ⟨settled_updateMatched _ _ _ _, Or.inl rfl⟩
  case h_3 resp key hi =>
    split at hs
    case isTrue hany =>
      cases hs
      have hrow := any_claimable hany
      have hgone := hclaim key (by simp [claimedKey, hi, hany])
      refine h.setCall hi (settles_updateClaim _ _ _ _) rfl rfl ?_ (by intro key hk; cases hk)
      intro key' hk
      cases hk
      exact ⟨settled_updateClaim _ _ _ _,
        Or.inr ⟨h.untaken hrow hgone.1, h.not_dropped hrow hgone.2⟩⟩
    case isFalse =>
      cases hs
      exact h.setCall_idle hi rfl rfl rfl rfl
  case h_4 resp key hi =>
    have hset : Settled s.table key := h.settled (List.mem_of_getElem? hi) rfl rfl
    split at hs
    · cases hs
      exact h.setCall_idle hi rfl rfl rfl rfl
    · cases hs
      refine h.setCall hi (settles_refl s.table) rfl rfl ?_ (by intro key hk; cases hk)
      intro key' hk
      cases hk
      exact ⟨hset, Or.inl rfl⟩
    · cases hs
      exact h.setCall_idle hi rfl rfl rfl rfl
  case h_5 resp cutoff hi =>
    cases hs
    exact h.setCall_idle hi rfl rfl rfl rfl
  case h_6 resp rows hi =>
    split at hs
    case h_1 =>
      cases hs
      exact h.setCall_idle hi rfl rfl rfl rfl
    case h_2 row rest hdrop =>
      split at hs
      case isTrue hany =>
        cases hs
        have hrow := any_claimable hany
        have hgone := hclaim row.correlationKey (by simp [claimedKey, hi, hdrop, hany])
        refine h.setCall hi (settles_updateClaim _ _ _ _) rfl rfl ?_ (by intro key hk; cases hk)
        intro key' hk
        cases hk
        exact ⟨settled_updateClaim _ _ _ _,
          Or.inr ⟨h.untaken hrow hgone.1, h.not_dropped hrow hgone.2⟩⟩
      case isFalse =>
        cases hs
        exact h.setCall_idle hi rfl rfl rfl rfl
  case h_7 key pair hi =>
    cases hs
    have hset : Settled s.table key := h.settled (List.mem_of_getElem? hi) rfl rfl
    refine h.setCall hi (settles_refl s.table) rfl rfl ?_ (by intro key hk; cases hk)
    intro key' hk
    cases hk
    exact ⟨hset, Or.inl rfl⟩
  case h_8 key removed hi =>
    cases hs
    refine h.setCall hi (settles_deleteUncorrelated _ _ _) rfl rfl (by intro key hk; cases hk) ?_
    intro key' hk
    cases removed with
    | true =>
      cases hk
      exact ⟨settled_deleteUncorrelated h _, Or.inl rfl⟩
    | false =>
      -- the discard found nothing in memory: it takes the request from the table
      cases hany : s.table.any fun row => row.deviceId == s.deviceId && claimable key row with
      | false => simp [Call.droppedKey, hany] at hk
      | true =>
        simp only [Call.droppedKey, hany, Bool.or_true, Option.some.injEq] at hk
        subst hk
        have hgone := hdelete key (by simp only [deletedKey, hi, hany, if_true]; rfl)
        obtain ⟨row, hrow, hc⟩ := List.any_eq_true.mp hany
        have hrow' : s.table.any (claimable key) :=
          List.any_eq_true.mpr ⟨row, hrow, (Bool.and_eq_true _ _ ▸ hc).2⟩
        exact ⟨settled_deleteUncorrelated h _, Or.inr (h.untaken (any_claimable hrow') hgone)⟩
  case h_9 => cases hs

/-- **Every guarded step keeps the invariant.** -/
theorem Inv.step {R : Redactors} {s s' : State} {l : Label} (h : Inv s) (hok : Guard s l)
    (hs : step R s l = some s') : Inv s' := by
  cases l with
  | registerRequest vendor protocol method path headers body queryParams enrichment uuid now =>
    cases hs
    exact h.register rfl hok (List.drop_sublist _ _)
  | matchResponse vendor protocol statusCode headers body correlationKey pairTtlHours now =>
    cases hs
    unfold matchResponse
    dsimp only
    split
    case h_1 entry rest hpop =>
      unfold popPending at hpop
      obtain ⟨found, hfind, hpair⟩ := Option.map_eq_some_iff.mp hpop
      cases hpair
      refine h.take hfind hok rfl ?_ (by intro key hk; cases hk)
      intro key hk
      cases hk
      exact ⟨rfl, rfl, rfl⟩
    case h_2 =>
      split
      · exact h.addCall rfl rfl rfl
      · exact h.addCall rfl rfl rfl
  | discardRequest key =>
    cases hs
    unfold discardRequest
    dsimp only
    cases hany : s.pending.any fun entry => entry.correlationKey == key with
    | false =>
      have hnone : ∀ entry ∈ s.pending, ¬ (entry.correlationKey == key) = true := by
        simpa using hany
      rw [List.eraseP_of_forall_not hnone]
      exact h.addCall rfl rfl rfl
    | true =>
      obtain ⟨entry, hfind⟩ := Option.isSome_iff_exists.mp
        (List.find?_isSome.mpr (List.any_eq_true.mp hany))
      have hkey : entry.correlationKey = key := by simpa using List.find?_some hfind
      refine h.take hfind hok rfl (by intro key hk; cases hk) ?_
      intro key' hk
      cases hk
      exact ⟨hkey.symm, rfl⟩
  | resume i uuid now => exact h.resume hok hs

/-- **At most one consumption per request.** In every interleaving of registrations, keyed and keyless
    responses and discards whose steps keep the two copies together, no request is in two returned
    pairs, and no discarded request is in one. -/
theorem consumedAtMostOnce_of_guarded (R : Redactors) (deviceId : String) (s : State)
    (h : ReachesUnder (step R) Guard (init deviceId) s) : ConsumedAtMostOnce s :=
  (h.invariant (inv_init deviceId) fun _ _ _ hinv hok hs => hinv.step hok hs).consumedAtMostOnce

/-- Redactors for data without secrets. -/
def noSecrets : Redactors := ⟨id, id, id⟩

/-- One request, one keyless response, each run to its end; then a discard of the same request. -/
def orderlyRun : List Label :=
  [.registerRequest "v" "http" "GET" "/a" (.obj []) .null (.obj []) none "0" 0,
   .resume 0 "" 0,
   .matchResponse "v" "http" 200 (.obj []) .null none 1 0,
   .resume 1 "p" 0, .resume 1 "" 0,
   .discardRequest "d:GET:/a:0", .resume 2 "" 0]

theorem orderlyRun_consumedAtMostOnce :
    ∃ s, exec (step noSecrets) (init "d") orderlyRun = some s ∧ ConsumedAtMostOnce s :=
  ⟨_, rfl, consumedAtMostOnce_of_guarded noSecrets "d" _
    (reachesUnder_of_exec .start orderlyRun rfl (by decide))⟩

/-- One request, two keyless responses: the first pops the entry, the second finds the queue empty and
    claims the row before the first has marked it. -/
def keylessRace : List Label :=
  [.registerRequest "v" "http" "GET" "/a" (.obj []) .null (.obj []) none "0" 0,
   .resume 0 "" 0,
   .matchResponse "v" "http" 200 (.obj []) .null none 1 0,
   .matchResponse "v" "http" 200 (.obj []) .null none 1 0,
   .resume 2 "" 0, .resume 2 "q" 0, .resume 2 "" 0,
   .resume 1 "p" 0, .resume 1 "" 0]

/-- **The law fails in general**: both responses of `keylessRace` return a pair of the one request. -/
theorem keylessRace_pairs_twice :
    ¬ ∀ (R : Redactors) (deviceId : String) (s : State),
      Reaches (step R) (init deviceId) s → ConsumedAtMostOnce s := by
  intro h
  obtain ⟨s, hrun, h₁, h₂⟩ : ∃ s, exec (step noSecrets) (init "d") keylessRace = some s ∧
      (∃ p, s.calls[1]? = some (Call.matched (some ("d:GET:/a:0", p)))) ∧
      ∃ q, s.calls[2]? = some (Call.matched (some ("d:GET:/a:0", q))) :=
    ⟨_, rfl, ⟨_, rfl⟩, ⟨_, rfl⟩⟩
  obtain ⟨p, hp⟩ := h₁
  obtain ⟨q, hq⟩ := h₂
  exact absurd ((h noSecrets "d" s (reaches_of_exec _ hrun)).1 1 2 _ p q hp hq) (by decide)

end Correlation
end RideTheApi
