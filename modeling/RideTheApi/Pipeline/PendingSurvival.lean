import RideTheApi.Pipeline.CorrelationSafety
import RideTheApi.Pipeline.KeylessCorrelation

/-!
# `Pipeline.PendingSurvival` — a pending request across flushes and restarts

Besides the calls of `Pipeline.Correlation` two things touch the two copies of a pending request: a learning
flush, which clears the session cache once it has succeeded, and a restart, which empties the queue and ends
every call in flight. A request that nobody takes is paired with the response carrying its key as long as
one copy is left, so what has to be ruled out is the step that removes the last one (`KeepsACopy`).
-/

namespace RideTheApi
namespace Correlation

open Py Transition

/-! ## Flushes and restarts -/

/-- What happens to one device's pipeline. -/
inductive Event where
  | call (l : Label)
  /-- `flush_and_learn` comes to its end. It clears the cache when it `learned`, and then the one of the
      buffer's own database: the device's when the buffer is on disk, another one in RAM mode. -/
  | flushAndLearn (learned onDisk : Bool)
  | restart

/-- `DELETE FROM session_cache WHERE device_id = …`. -/
def clearCache (table : List SessionCache) (deviceId : String) : List SessionCache :=
  table.filter fun row => row.deviceId != deviceId

/-- A call as a restart leaves it: one in flight never returns. -/
def Call.ended : Call → Call
  | .registered key       => .registered key
  | .matched result       => .matched result
  | .discarded key result => .discarded key result
  | _                     => .failed

/-- One event of the pipeline. -/
def lifeStep (R : Redactors) (s : State) : Event → Option State
  | .call l => step R s l
  | .flushAndLearn learned onDisk =>
    some (if learned && onDisk then { s with table := clearCache s.table s.deviceId } else s)
  | .restart => some { s with pending := [], calls := s.calls.map Call.ended }

/-! ## The law and its conditions -/

/-- A keyed response. -/
structure KeyedResponse where
  vendor : String
  protocol : String
  statusCode : Int
  headers : Json
  body : Json
  pairTtlHours : Int
  now : Int
  uuid : String

/-- The response that carries `key`, handled to its end. -/
def keyedAnswer (R : Redactors) (s : State) (key : String) (r : KeyedResponse) : Option Call :=
  let started :=
    matchResponse R s r.vendor r.protocol r.statusCode r.headers r.body (some key) r.pairTtlHours r.now
  (runCall s.calls.length r.uuid r.now 3 started).calls[s.calls.length]?

/-- **Every response that carries the key is paired with its request.** -/
def StillPaired (R : Redactors) (s : State) (key : String) : Prop :=
  ∀ r, ∃ pair, keyedAnswer R s key r = some (.matched (some (key, pair)))

/-- The key a registration has returned. -/
def Call.registeredKey : Call → Option String
  | .registered key => some key
  | _               => none

/-- The registration of the request has returned its key. -/
def Registered (s : State) (key : String) : Prop := ∃ c ∈ s.calls, c.registeredKey = some key

/-- The request is in the queue. -/
def Queued (pending : List Entry) (key : String) : Prop := ∃ entry ∈ pending, entry.correlationKey = key

/-- The rows of a request. -/
def keyRows (table : List SessionCache) (key : String) : List SessionCache :=
  table.filter fun row => row.correlationKey == key

/-- Registrations draw keys not handed out before. -/
def DrawsFresh (s : State) : Event → Prop
  | .call (.registerRequest _ _ method path _ _ _ _ uuid _) => corrKey s.deviceId method path uuid ∉ s.issued
  | _ => True

/-- The event neither consumes nor discards the request: no response takes its entry or claims its row, and
    no keyed response or discard is called for it. -/
def Spares (key : String) (s : State) : Event → Prop
  | .call (.matchResponse _ protocol _ _ _ correlationKey pairTtlHours now) =>
    correlationKey ≠ some key ∧
      ∀ entry ∈ s.pending.find? (qualifies protocol correlationKey (now - correlationMaxAge pairTtlHours)),
        entry.correlationKey ≠ key
  | .call (.discardRequest key') => key' ≠ key
  | .call (.resume i _ _) => claimedKey s i ≠ some key
  | _ => True

/-- **The event leaves the request a copy**: a flush clears the cache while the request is queued, and a
    restart, or a registration that pushes it out of the full queue, comes while it has its row. -/
def KeepsACopy (key : String) (s : State) : Event → Prop
  | .call (.registerRequest ..) => Registered s key → keyRows s.table key ≠ [] ∨
      Queued (s.pending.drop (s.pending.length + 1 - correlationCacheMaxlen)) key
  | .flushAndLearn true true => Registered s key → Queued s.pending key
  | .restart => Registered s key → keyRows s.table key ≠ []
  | _ => True

/-- A request that is spared and keeps a copy. -/
def LifeGuard (key : String) (s : State) (e : Event) : Prop :=
  DrawsFresh s e ∧ Spares key s e ∧ KeepsACopy key s e

instance (s : State) (key : String) : Decidable (Registered s key) :=
  inferInstanceAs (Decidable (∃ _ ∈ _, _))

instance (pending : List Entry) (key : String) : Decidable (Queued pending key) :=
  inferInstanceAs (Decidable (∃ _ ∈ _, _))

instance (s : State) : (e : Event) → Decidable (DrawsFresh s e)
  | .call (.registerRequest ..) => inferInstanceAs (Decidable (_ ∉ _))
  | .call (.matchResponse ..) => inferInstanceAs (Decidable True)
  | .call (.discardRequest _) => inferInstanceAs (Decidable True)
  | .call (.resume ..) => inferInstanceAs (Decidable True)
  | .flushAndLearn .. => inferInstanceAs (Decidable True)
  | .restart => inferInstanceAs (Decidable True)

instance (key : String) (s : State) : (e : Event) → Decidable (Spares key s e)
  | .call (.registerRequest ..) => inferInstanceAs (Decidable True)
  | .call (.matchResponse ..) => inferInstanceAs (Decidable (_ ∧ _))
  | .call (.discardRequest _) => inferInstanceAs (Decidable (_ ≠ _))
  | .call (.resume ..) => inferInstanceAs (Decidable (_ ≠ _))
  | .flushAndLearn .. => inferInstanceAs (Decidable True)
  | .restart => inferInstanceAs (Decidable True)

instance (key : String) (s : State) : (e : Event) → Decidable (KeepsACopy key s e)
  | .call (.registerRequest ..) => inferInstanceAs (Decidable (_ → _))
  | .call (.matchResponse ..) => inferInstanceAs (Decidable True)
  | .call (.discardRequest _) => inferInstanceAs (Decidable True)
  | .call (.resume ..) => inferInstanceAs (Decidable True)
  | .flushAndLearn true true => inferInstanceAs (Decidable (_ → _))
  | .flushAndLearn true false => inferInstanceAs (Decidable True)
  | .flushAndLearn false _ => inferInstanceAs (Decidable True)
  | .restart => inferInstanceAs (Decidable (_ → _))

instance (key : String) (s : State) (e : Event) : Decidable (LifeGuard key s e) :=
  inferInstanceAs (Decidable (_ ∧ _))

/-! ## The rows of one request -/

section
variable {key key' : String} {table : List SessionCache}

theorem mem_keyRows {row : SessionCache} : row ∈ keyRows table key ↔ row ∈ table ∧ row.correlationKey = key := by
  simp [keyRows]

theorem keyRows_updateMatched (resp : Response) (now : Int) (h : key' ≠ key) :
    keyRows (updateMatched table key' resp now) key = keyRows table key := by
  induction table with
  | nil => rfl
  | cons row table ih =>
    unfold keyRows updateMatched at ih ⊢
    rw [List.map_cons, List.filter_cons, List.filter_cons, ih]
    by_cases hrow : row.correlationKey = key'
    · simp [hrow, SessionCache.mark, h]
    · simp [hrow]

theorem keyRows_updateClaim (resp : Response) (now : Int) (h : key' ≠ key) :
    keyRows (updateClaim table key' resp now) key = keyRows table key := by
  induction table with
  | nil => rfl
  | cons row table ih =>
    unfold keyRows updateClaim at ih ⊢
    rw [List.map_cons, List.filter_cons, List.filter_cons, ih]
    cases hc : claimable key' row with
    | false => simp
    | true =>
      have hrow : row.correlationKey = key' := by
        simp only [claimable, Bool.and_eq_true, beq_iff_eq] at hc
        exact hc.1
      simp [SessionCache.mark, hrow, h]

/-- A claim of a request marks its rows. -/
theorem keyRows_updateClaim_self (resp : Response) (now : Int) :
    keyRows (updateClaim table key resp now) key =
      (keyRows table key).map fun row => if claimable key row then row.mark resp now else row := by
  unfold keyRows updateClaim
  rw [List.filter_map]
  refine congrArg (List.map _) (List.filter_congr fun row _ => ?_)
  cases hc : claimable key row <;> simp [hc, SessionCache.mark]

theorem keyRows_deleteUncorrelated (deviceId : String) (h : key' ≠ key) :
    keyRows (deleteUncorrelated table deviceId key') key = keyRows table key := by
  unfold keyRows deleteUncorrelated
  rw [List.filter_filter]
  refine List.filter_congr fun row _ => ?_
  by_cases hrow : row.correlationKey = key
  · simp [claimable, hrow, h.symm]
  · simp [hrow]

end

/-! ## The invariant -/

/-- The request a call has taken, or is about to. -/
def Call.takerKey : Call → Option String
  | .marking _ entry      => some entry.correlationKey
  | .claimingKeyed _ key  => some key
  | .readingKeyed _ key   => some key
  | .storing key _        => some key
  | .discarding key _     => some key
  | _                     => none

/-- What a spared request keeps: nobody takes it, it has one row at most, uncorrelated and inserted by its
    registration, and once registered it has a copy. -/
structure Survives (key : String) (s : State) : Prop where
  spared : ∀ c ∈ s.calls, c.takerKey ≠ some key
  issuedNodup : s.issued.Nodup
  oneRow : (keyRows s.table key).length ≤ 1
  openRow : ∀ row ∈ keyRows s.table key, row.correlated = false
  rowRegistered : keyRows s.table key ≠ [] → Registered s key
  copy : Registered s key → keyRows s.table key ≠ [] ∨ Queued s.pending key

theorem survives_init (deviceId key : String) : Survives key (init deviceId) := by
  constructor <;> simp [init, State.issued, keyRows, Registered]

section
variable {R : Redactors} {s s' : State} {key : String}

theorem registered_addCall {call : Call} (pending : List Entry) (h : call.registeredKey = none) :
    Registered ({ s with pending := pending }.addCall call) key ↔ Registered s key := by
  unfold Registered State.addCall
  simp only [List.mem_append, List.mem_singleton]
  constructor
  · rintro ⟨c, hc | rfl, hkey⟩
    · exact ⟨c, hc, hkey⟩
    · rw [h] at hkey
      cases hkey
  · rintro ⟨c, hc, hkey⟩
    exact ⟨c, .inl hc, hkey⟩

theorem registered_setCall {i : Nat} {call call' : Call} (hi : s.calls[i]? = some call)
    (hcall : call.registeredKey = none) (hcall' : call'.registeredKey = none) :
    Registered (s.setCall i call') key ↔ Registered s key := by
  obtain ⟨l₁, l₂, h₁, h₂⟩ := Slots.exists_split hi call'
  unfold Registered State.setCall
  dsimp only
  rw [h₂, h₁]
  simp only [List.mem_append, List.mem_cons]
  constructor
  · rintro ⟨c, hc | rfl | hc, hkey⟩
    · exact ⟨c, .inl hc, hkey⟩
    · rw [hcall'] at hkey
      cases hkey
    · exact ⟨c, .inr (.inr hc), hkey⟩
  · rintro ⟨c, hc | rfl | hc, hkey⟩
    · exact ⟨c, .inl hc, hkey⟩
    · rw [hcall] at hkey
      cases hkey
    · exact ⟨c, .inr (.inr hc), hkey⟩

/-- Starting a call that does not take the request, while other entries may leave the queue. -/
theorem Survives.addCall {call : Call} {pending : List Entry} (h : Survives key s)
    (hissued : call.issuedKey = none) (htaker : call.takerKey ≠ some key)
    (hpending : Queued s.pending key → Queued pending key) :
    Survives key ({ s with pending := pending }.addCall call) := by
  have hregistered : call.registeredKey = none := by
    cases call <;> simp_all [Call.issuedKey, Call.registeredKey]
  have hreg : Registered ({ s with pending := pending }.addCall call) key ↔ Registered s key :=
    registered_addCall pending hregistered
  refine ⟨fun c hc => ?_, ?_, h.oneRow, h.openRow, fun hrow => hreg.mpr (h.rowRegistered hrow), fun hr => ?_⟩
  · rcases List.mem_append.mp hc with hc | hc
    · exact h.spared c hc
    · rw [List.mem_singleton.mp hc]
      exact htaker
  · exact Slots.nodup_filterMap_append h.issuedNodup (by simp [hissued])
  · exact (h.copy (hreg.mp hr)).imp_right hpending

/-- Starting the registration of a new key, which may push other entries out of the queue. -/
theorem Survives.register {entry : Entry} {pending : List Entry} (h : Survives key s)
    (hfresh : entry.correlationKey ∉ s.issued)
    (hpending : Registered s key → keyRows s.table key ≠ [] ∨ Queued pending key) :
    Survives key ({ s with pending := pending }.addCall (.registering entry)) := by
  have hreg : Registered ({ s with pending := pending }.addCall (.registering entry)) key ↔ Registered s key :=
    registered_addCall pending rfl
  refine ⟨fun c hc => ?_, ?_, h.oneRow, h.openRow, fun hrow => hreg.mpr (h.rowRegistered hrow),
    fun hr => hpending (hreg.mp hr)⟩
  · rcases List.mem_append.mp hc with hc | hc
    · exact h.spared c hc
    · rw [List.mem_singleton.mp hc]
      simp [Call.takerKey]
  · refine Slots.nodup_filterMap_append h.issuedNodup fun key' hkey' => ?_
    cases hkey'
    exact hfresh

/-- **The rule for a resumed call** other than a registration: it does not take the request, and the rows of
    the request stay. -/
theorem Survives.setCall {i : Nat} {call call' : Call} {table : List SessionCache} (h : Survives key s)
    (hi : s.calls[i]? = some call) (hissued : call.issuedKey = none) (hissued' : call'.issuedKey = none)
    (htaker : call'.takerKey ≠ some key) (htable : keyRows table key = keyRows s.table key) :
    Survives key ({ s with table := table }.setCall i call') := by
  have hnone : ∀ {c : Call}, c.issuedKey = none → c.registeredKey = none := by
    intro c hc
    cases c <;> simp_all [Call.issuedKey, Call.registeredKey]
  have hreg : Registered ({ s with table := table }.setCall i call') key ↔ Registered s key :=
    registered_setCall hi (hnone hissued) (hnone hissued')
  constructor
  · intro c hc
    rcases List.mem_or_eq_of_mem_set hc with hc | rfl
    · exact h.spared c hc
    · exact htaker
  · have hiss : ({ s with table := table }.setCall i call').issued = s.issued :=
      Slots.filterMap_set_same hi (hissued'.trans hissued.symm)
    rw [hiss]
    exact h.issuedNodup
  · exact htable.symm ▸ h.oneRow
  · exact htable.symm ▸ h.openRow
  · intro hrow
    exact hreg.mpr (h.rowRegistered (htable ▸ hrow))
  · intro hr
    exact (h.copy (hreg.mp hr)).imp_left fun hrow => htable.symm ▸ hrow

/-- A request that is registered has its registration among the calls. -/
theorem registered_iff : Registered s key ↔ Call.registered key ∈ s.calls := by
  constructor
  · rintro ⟨c, hc, hkey⟩
    cases c <;> simp_all [Call.registeredKey]
  · exact fun hc => ⟨_, hc, rfl⟩

/-- `register_request`'s `INSERT`: a registration in flight has no row yet, and leaves one. -/
theorem Survives.insert {i : Nat} {entry : Entry} (h : Survives key s) (now : Int)
    (hi : s.calls[i]? = some (.registering entry)) :
    Survives key ({ s with table := s.table ++ [entry.toRow now] }.setCall i
      (.registered entry.correlationKey)) := by
  obtain ⟨hlt, -⟩ := List.getElem?_eq_some_iff.mp hi
  have hnew : (s.calls.set i (.registered entry.correlationKey))[i]? = some (.registered entry.correlationKey) := by
    simp [hlt]
  have hiss : ({ s with table := s.table ++ [entry.toRow now] }.setCall i
      (.registered entry.correlationKey)).issued = s.issued := Slots.filterMap_set_same hi rfl
  have hrows : keyRows (s.table ++ [entry.toRow now]) key =
      keyRows s.table key ++ if entry.correlationKey = key then [entry.toRow now] else [] := by
    unfold keyRows
    rw [List.filter_append, List.filter_singleton]
    by_cases hkey : entry.correlationKey = key
    · simp [Entry.toRow, hkey]
    · have hbeq : (entry.correlationKey == key) = false := by simpa using hkey
      simp [Entry.toRow, hkey, hbeq]
  -- a row of the key would come from another registration of it
  have hnone : entry.correlationKey = key → keyRows s.table key = [] := by
    intro hkey
    by_contra hrow
    obtain ⟨j, hj⟩ := List.mem_iff_getElem?.mp (registered_iff.mp (h.rowRegistered hrow))
    have hij := Slots.index_unique h.issuedNodup hi hj (congrArg some hkey) rfl
    subst hij
    rw [hi] at hj
    cases hj
  -- the other registrations are where they were
  have hreg : ∀ {key'}, Registered s key' → Registered ({ s with table := s.table ++ [entry.toRow now] }.setCall i
      (.registered entry.correlationKey)) key' := by
    intro key' hr
    obtain ⟨j, hj⟩ := List.mem_iff_getElem?.mp (registered_iff.mp hr)
    have hne : i ≠ j := by
      rintro rfl
      rw [hi] at hj
      cases hj
    refine registered_iff.mpr (List.mem_iff_getElem?.mpr ⟨j, ?_⟩)
    show (s.calls.set i _)[j]? = _
    rw [List.getElem?_set_ne hne]
    exact hj
  refine ⟨fun c hc => ?_, hiss ▸ h.issuedNodup, ?_, fun row hrow => ?_, fun hrow => ?_, fun hr => ?_⟩
  · rcases List.mem_or_eq_of_mem_set hc with hc | rfl
    · exact h.spared c hc
    · simp [Call.takerKey]
  · -- the key has at most the new row
    show (keyRows (s.table ++ [entry.toRow now]) key).length ≤ 1
    rw [hrows]
    by_cases hkey : entry.correlationKey = key
    · rw [hnone hkey, if_pos hkey]
      exact Nat.le_refl 1
    · rw [if_neg hkey, List.append_nil]
      exact h.oneRow
  · have hrow : row ∈ keyRows (s.table ++ [entry.toRow now]) key := hrow
    rw [hrows] at hrow
    rcases List.mem_append.mp hrow with hrow | hrow
    · exact h.openRow row hrow
    · split at hrow
      · rw [List.mem_singleton.mp hrow]
        rfl
      · cases hrow
  · by_cases hkey : entry.correlationKey = key
    · rw [← hkey]
      exact registered_iff.mpr (List.mem_of_getElem? hnew)
    · have hrow : keyRows (s.table ++ [entry.toRow now]) key ≠ [] := hrow
      rw [hrows, if_neg hkey, List.append_nil] at hrow
      exact hreg (h.rowRegistered hrow)
  · show keyRows (s.table ++ [entry.toRow now]) key ≠ [] ∨ Queued s.pending key
    rw [hrows]
    by_cases hkey : entry.correlationKey = key
    · rw [if_pos hkey]
      exact .inl (by simp)
    · rw [if_neg hkey, List.append_nil]
      refine h.copy ?_
      obtain ⟨j, hj⟩ := List.mem_iff_getElem?.mp (registered_iff.mp hr)
      have hj : (s.calls.set i (.registered entry.correlationKey))[j]? = some (.registered key) := hj
      have hne : i ≠ j := by
        rintro rfl
        rw [hnew] at hj
        cases hj
        exact hkey rfl
      rw [List.getElem?_set_ne hne] at hj
      exact registered_iff.mpr (List.mem_of_getElem? hj)

/-- A queued request stays queued when another entry leaves. -/
theorem queued_eraseP {pending : List Entry} {takes : Entry → Bool}
    (h : ∀ entry ∈ pending.find? takes, entry.correlationKey ≠ key) (hq : Queued pending key) :
    Queued (pending.eraseP takes) key := by
  obtain ⟨entry, hmem, hkey⟩ := hq
  cases hfind : pending.find? takes with
  | none =>
    rw [List.eraseP_of_forall_not fun e he => by simpa using List.find?_eq_none.mp hfind e he]
    exact ⟨entry, hmem, hkey⟩
  | some found =>
    obtain ⟨htakes, l₁, l₂, hsplit, hl₁⟩ := List.find?_eq_some_iff_append.mp hfind
    have hrest : pending.eraseP takes = l₁ ++ l₂ := by
      rw [hsplit, List.eraseP_append_right _ (by simpa using hl₁), List.eraseP_cons_of_pos htakes]
    have hne : entry ≠ found := by
      rintro rfl
      exact h entry hfind hkey
    rw [hsplit] at hmem
    refine ⟨entry, ?_, hkey⟩
    rw [hrest]
    rcases List.mem_append.mp hmem with hmem | hmem
    · exact List.mem_append_left _ hmem
    · exact List.mem_append_right _ ((List.mem_cons.mp hmem).resolve_left hne)

/-- A request that is not pushed out stays queued when another is appended. -/
theorem queued_appendPending {pending : List Entry} (entry : Entry)
    (hq : Queued (pending.drop (pending.length + 1 - correlationCacheMaxlen)) key) :
    Queued (appendPending pending entry) key := by
  obtain ⟨queued, hmem, hkey⟩ := hq
  unfold appendPending
  rw [List.drop_append]
  exact ⟨queued, List.mem_append_left _ hmem, hkey⟩

/-- A resumed call spares the request: one case per suspension point. -/
theorem Survives.resume {i : Nat} {uuid : String} {now : Int} (h : Survives key s)
    (hspares : claimedKey s i ≠ some key) (hs : resume s i uuid now = some s') : Survives key s' := by
  have htaker : ∀ {c : Call}, s.calls[i]? = some c → c.takerKey ≠ some key :=
    fun hi => h.spared _ (List.mem_of_getElem? hi)
  -- a call that holds another key touches only the rows of that key
  have hother : ∀ {key' : String}, (some key' : Option String) ≠ some key → key' ≠ key :=
    fun hne heq => hne (congrArg some heq)
  unfold Correlation.resume at hs
  split at hs
  case h_1 entry hi =>
    cases hs
    exact h.insert now hi
  case h_2 resp entry hi =>
    cases hs
    have hne : entry.correlationKey ≠ key := hother (htaker hi)
    exact h.setCall hi rfl rfl (fun heq => hne (Option.some.inj heq)) (keyRows_updateMatched _ _ hne)
  case h_3 resp key' hi =>
    split at hs
    case isTrue hany =>
      cases hs
      have hne : key' ≠ key := hother (htaker hi)
      exact h.setCall hi rfl rfl (fun heq => hne (Option.some.inj heq)) (keyRows_updateClaim _ _ hne)
    case isFalse =>
      cases hs
      exact h.setCall hi rfl rfl (by simp [Call.takerKey]) rfl
  case h_4 resp key' hi =>
    split at hs
    · cases hs
      exact h.setCall hi rfl rfl (by simp [Call.takerKey]) rfl
    · cases hs
      have hne : key' ≠ key := hother (htaker hi)
      exact h.setCall hi rfl rfl (fun heq => hne (Option.some.inj heq)) rfl
    · cases hs
      exact h.setCall hi rfl rfl (by simp [Call.takerKey]) rfl
  case h_5 resp cutoff hi =>
    cases hs
    exact h.setCall hi rfl rfl (by simp [Call.takerKey]) rfl
  case h_6 resp rows hi =>
    split at hs
    case h_1 =>
      cases hs
      exact h.setCall hi rfl rfl (by simp [Call.takerKey]) rfl
    case h_2 row rest hdrop =>
      split at hs
      case isTrue hany =>
        cases hs
        -- the row that is claimed is not ours: a step that claims ours is left out
        have hkey : row.correlationKey ≠ key := by
          intro heq
          refine hspares ?_
          rw [← heq]
          simp only [claimedKey, hi, hdrop]
          rw [if_pos hany]
        exact h.setCall hi rfl rfl (fun heq => hkey (Option.some.inj heq)) (keyRows_updateClaim _ _ hkey)
      case isFalse =>
        cases hs
        exact h.setCall hi rfl rfl (by simp [Call.takerKey]) rfl
  case h_7 key' pair hi =>
    cases hs
    exact h.setCall hi rfl rfl (by simp [Call.takerKey]) rfl
  case h_8 key' removed hi =>
    cases hs
    exact h.setCall hi rfl rfl (by simp [Call.takerKey]) (keyRows_deleteUncorrelated _ (hother (htaker hi)))
  case h_9 => cases hs

/-- A restart hands out no keys. -/
theorem issued_ended (calls : List Call) :
    ((calls.map Call.ended).filterMap Call.issuedKey).Sublist (calls.filterMap Call.issuedKey) := by
  induction calls with
  | nil => exact List.Sublist.slnil
  | cons c calls ih =>
    have hc : c.ended.issuedKey = none ∨ c.ended.issuedKey = c.issuedKey := by
      cases c <;> simp [Call.ended, Call.issuedKey]
    rw [List.map_cons]
    rcases hc with hnone | hsame
    · rw [List.filterMap_cons_none hnone]
      exact ih.trans ((List.sublist_cons_self c calls).filterMap _)
    · rw [List.filterMap_cons, List.filterMap_cons, hsame]
      cases c.issuedKey with
      | none => exact ih
      | some key => exact ih.cons_cons key

/-- A step of a call spares the request, if the call does. -/
theorem Survives.step {l : Label} (h : Survives key s) (hok : LifeGuard key s (.call l))
    (hs : step R s l = some s') : Survives key s' := by
  obtain ⟨hfresh, hspares, hcopy⟩ := hok
  cases l with
  | registerRequest vendor protocol method path headers body queryParams enrichment uuid now =>
    cases hs
    exact h.register hfresh fun hr => (hcopy hr).imp_right (queued_appendPending _)
  | matchResponse vendor protocol statusCode headers body correlationKey pairTtlHours now =>
    cases hs
    obtain ⟨hkey, hpopped⟩ := hspares
    unfold matchResponse
    dsimp only
    split
    case h_1 entry rest hpop =>
      unfold popPending at hpop
      obtain ⟨found, hfind, hpair⟩ := Option.map_eq_some_iff.mp hpop
      cases hpair
      have hne : entry.correlationKey ≠ key := hpopped entry hfind
      exact h.addCall rfl (fun heq => hne (Option.some.inj heq)) (queued_eraseP hpopped)
    case h_2 =>
      split
      next key' =>
        exact h.addCall rfl (fun heq => hkey heq) id
      next => exact h.addCall rfl (by simp [Call.takerKey]) id
  | discardRequest key' =>
    cases hs
    have hne : key' ≠ key := hspares
    refine h.addCall rfl (fun heq => hne (Option.some.inj heq)) (queued_eraseP fun entry hentry => ?_)
    have hmatch : entry.correlationKey = key' := by simpa using List.find?_some hentry
    exact hmatch ▸ hne
  | resume i uuid now => exact h.resume hspares hs

/-- **Every event that spares the request and leaves it a copy keeps the invariant.** -/
theorem Survives.lifeStep {e : Event} (h : Survives key s) (hok : LifeGuard key s e)
    (hs : lifeStep R s e = some s') : Survives key s' := by
  cases e with
  | call l => exact h.step hok hs
  | flushAndLearn learned onDisk =>
    cases hs
    split
    next hclears =>
      obtain ⟨rfl, rfl⟩ : learned = true ∧ onDisk = true := by simpa using hclears
      have hqueued : Registered s key → Queued s.pending key := hok.2.2
      have hsub : (keyRows (clearCache s.table s.deviceId) key).Sublist (keyRows s.table key) :=
        List.filter_sublist.filter _
      refine ⟨h.spared, h.issuedNodup, hsub.length_le.trans h.oneRow, fun row hrow => h.openRow row (hsub.subset hrow),
        fun hrow => h.rowRegistered ?_, fun hr => .inr (hqueued hr)⟩
      exact fun hnil => hrow (List.sublist_nil.mp (hnil ▸ hsub))
    next => exact h
  | restart =>
    cases hs
    have hrow : Registered s key → keyRows s.table key ≠ [] := hok.2.2
    have hissued : ((s.calls.map Call.ended).filterMap Call.issuedKey).Sublist s.issued := issued_ended s.calls
    have hreg : Registered { s with pending := [], calls := s.calls.map Call.ended } key ↔ Registered s key := by
      unfold Registered
      simp only [List.mem_map, exists_exists_and_eq_and]
      refine exists_congr fun c => and_congr_right fun _ => ?_
      cases c <;> simp [Call.ended, Call.registeredKey]
    refine ⟨fun c hc => ?_, h.issuedNodup.sublist hissued, h.oneRow, h.openRow,
      fun hrow => hreg.mpr (h.rowRegistered hrow), fun hr => .inl (hrow (hreg.mp hr))⟩
    obtain ⟨d, -, rfl⟩ := List.mem_map.mp hc
    cases d <;> simp [Call.ended, Call.takerKey]

/-! ## The response -/

/-- **A request with a copy is paired** with the response that carries its key: the queued entry is popped,
    or the one row is claimed. -/
theorem Survives.stillPaired (h : Survives key s) (hr : Registered s key) : StillPaired R s key := by
  intro r
  unfold keyedAnswer matchResponse popPending
  dsimp only
  set resp : Response := ⟨r.vendor, r.protocol, r.statusCode, R.redactHeaders r.headers, R.redactBody r.body⟩
  set takes := qualifies r.protocol (some key) (r.now - correlationMaxAge r.pairTtlHours)
  cases hfind : s.pending.find? takes with
  | some entry =>
    have hkey : entry.correlationKey = key := by simpa [takes, qualifies] using List.find?_some hfind
    dsimp only [Option.map_some]
    obtain ⟨pair, hpair⟩ := runCall_marking { s with pending := s.pending.eraseP takes } resp entry r.uuid r.now
    exact ⟨pair, hkey ▸ hpair⟩
  | none =>
    -- not queued, so the copy left is its one uncorrelated row
    dsimp only [Option.map_none]
    have hrow : keyRows s.table key ≠ [] := by
      refine (h.copy hr).resolve_right ?_
      rintro ⟨entry, hmem, hkey⟩
      have := List.find?_eq_none.mp hfind entry hmem
      simp [takes, qualifies, hkey] at this
    obtain ⟨row, hrows⟩ : ∃ row, keyRows s.table key = [row] :=
      List.length_eq_one_iff.mp (Nat.le_antisymm h.oneRow (List.length_pos_iff.mpr hrow))
    have hmem : row ∈ keyRows s.table key := hrows ▸ List.mem_singleton.mpr rfl
    have hany : s.table.any (claimable key) = true := by
      obtain ⟨hin, hkey⟩ := mem_keyRows.mp hmem
      exact List.any_eq_true.mpr ⟨row, hin, by simp [claimable, hkey, h.openRow row hmem]⟩
    set claimed := updateClaim s.table key resp r.now with hclaimed
    have hclaim : Correlation.resume (s.addCall (.claimingKeyed resp key)) s.calls.length r.uuid r.now =
        some ({ s with table := claimed }.addCall (.readingKeyed resp key)) := by
      have hany' : (s.addCall (.claimingKeyed resp key)).table.any (claimable key) = true := hany
      rw [Correlation.resume, getElem?_addCall]
      dsimp only
      rw [if_pos hany']
      exact congrArg some (setCall_addCall { s with table := claimed } (.claimingKeyed resp key) _)
    obtain ⟨row', hread⟩ : ∃ row', keyRows claimed key = [row'] := by
      rw [hclaimed, keyRows_updateClaim_self, hrows]
      exact ⟨_, rfl⟩
    have hreading : Correlation.resume ({ s with table := claimed }.addCall (.readingKeyed resp key)) s.calls.length r.uuid
        r.now = some ({ s with table := claimed }.addCall
          (.storing key (claimedPair { s with table := claimed } row' resp r.uuid r.now))) := by
      have hcall := getElem?_addCall { s with table := claimed } (.readingKeyed resp key)
      have hread' : ({ s with table := claimed }.addCall (.readingKeyed resp key)).table.filter
        (fun row => row.correlationKey == key) = [row'] := hread
      dsimp only at hcall
      rw [Correlation.resume, hcall]
      dsimp only
      rw [hread']
      exact congrArg some (setCall_addCall { s with table := claimed } (.readingKeyed resp key) _)
    rw [runCall_succ hclaim, runCall_succ hreading]
    exact ⟨_, (congrArg (fun t : State => t.calls[s.calls.length]?) runCall_storing).trans (getElem?_addCall _ _)⟩

end

/-- **A pending request survives flushes and restarts** in every run that spares it and whose steps leave it
    one of its two copies. -/
theorem stillPaired_of_guarded (R : Redactors) (deviceId key : String) (s : State)
    (h : ReachesUnder (lifeStep R) (LifeGuard key) (init deviceId) s) (hr : Registered s key) :
    StillPaired R s key :=
  (h.invariant (survives_init deviceId key) fun _ _ _ hinv hok hs => hinv.lifeStep hok hs).stillPaired hr

/-- The registration of a request, run to its end. -/
def registeredRun : List Event :=
  [.call (.registerRequest "v" "http" "GET" "/a" (.obj []) .null (.obj []) none "0" 0), .call (.resume 0 "" 0)]

/-- A request registered before a failed flush and a restart. -/
theorem restartRun_stillPaired :
    ∃ s, exec (lifeStep noSecrets) (init "d") (registeredRun ++ [.flushAndLearn false true, .restart]) = some s ∧
      StillPaired noSecrets s "d:GET:/a:0" :=
  ⟨_, rfl, stillPaired_of_guarded noSecrets "d" "d:GET:/a:0" _
    (reachesUnder_of_exec .start (registeredRun ++ [.flushAndLearn false true, .restart]) rfl (by decide))
    (by decide)⟩

/-- **The law fails in general**: a flush clears the row and a restart empties the queue. -/
theorem flushedThenRestarted_lost :
    ¬ ∀ (R : Redactors) (deviceId key : String) (s : State),
      ReachesUnder (lifeStep R) (fun s e => DrawsFresh s e ∧ Spares key s e) (init deviceId) s →
        Registered s key → StillPaired R s key := by
  intro h
  have hreach : ∃ s, exec (lifeStep noSecrets) (init "d") (registeredRun ++ [.flushAndLearn true true, .restart]) =
    some s ∧ Registered s "d:GET:/a:0" ∧
      keyedAnswer noSecrets s "d:GET:/a:0" ⟨"v", "http", 200, .obj [], .null, 1, 0, "p"⟩ = some (.matched none) :=
    ⟨_, rfl, by decide, rfl⟩
  obtain ⟨s, hrun, hr, hlost⟩ := hreach
  obtain ⟨pair, hpair⟩ := h noSecrets "d" "d:GET:/a:0" s
    (reachesUnder_of_exec .start _ hrun (by decide)) hr ⟨"v", "http", 200, .obj [], .null, 1, 0, "p"⟩
  rw [hlost] at hpair
  cases hpair

end Correlation
end RideTheApi
