import Mathlib.Data.List.TakeWhile
import RideTheApi.Lib.StableSort
import RideTheApi.Pipeline.Correlation

/-!
# `Pipeline.KeylessCorrelation` — a keyless response before and after a restart

A keyless response takes the first queued request of its protocol inside the window; after a restart the
queue is empty and it takes a row instead: of the newest ten rows inside the window, the newest of its
protocol. `NewestIsOldest` is the exact condition on the two copies under which both are the same request.
-/

namespace RideTheApi
namespace Correlation

open Py StableSort

deriving instance DecidableEq for SessionCache

/-! ## One response on its own -/

/-- The arguments of a keyless `match_response`. -/
structure KeylessResponse where
  vendor : String
  protocol : String
  statusCode : Int
  headers : Json
  body : Json
  pairTtlHours : Int
  now : Int
  uuid : String

/-- The start of the correlation window. -/
def KeylessResponse.cutoff (r : KeylessResponse) : Int := r.now - correlationMaxAge r.pairTtlHours

/-- Resume a call until it returns, at most `fuel` times. -/
def runCall (i : Nat) (uuid : String) (now : Int) : Nat → State → State
  | 0,        s => s
  | fuel + 1, s => match resume s i uuid now with
    | some s' => runCall i uuid now fuel s'
    | none    => s

/-- A keyless response handled to its end. Nothing else runs, so a call is resumed three times at most: it
    claims the first row it tries. -/
def keylessAnswer (R : Redactors) (s : State) (r : KeylessResponse) : Option Call :=
  let started := matchResponse R s r.vendor r.protocol r.statusCode r.headers r.body none r.pairTtlHours r.now
  (runCall s.calls.length r.uuid r.now 3 started).calls[s.calls.length]?

/-- The pipeline as a restart leaves it: the queue is empty, the table is as it was. -/
def State.emptied (s : State) : State := { s with pending := [] }

/-! ## The law and its condition -/

/-- A set of pending requests: every queued request has an uncorrelated row, and these are all. -/
structure Mirrored (s : State) (createdAt : Entry → Int) : Prop where
  keys : (s.pending.map (·.correlationKey)).Nodup
  device : ∀ entry ∈ s.pending, entry.deviceId = s.deviceId
  rows : (s.table.filter fun row => !row.correlated).Perm (s.pending.map fun entry => entry.toRow (createdAt entry))

/-- The oldest pending request of a protocol that is inside the correlation window. -/
def oldestPending (s : State) (r : KeylessResponse) : Option Entry :=
  s.pending.find? (qualifies r.protocol none r.cutoff)

/-- **The response is paired with the oldest pending request of its protocol in the window, or with none,
    whether the queue is full or emptied.** -/
def PairsTheOldest (R : Redactors) (s : State) (r : KeylessResponse) : Prop :=
  ∃ full emptied, keylessAnswer R s r = some (.matched full) ∧
    keylessAnswer R s.emptied r = some (.matched emptied) ∧
    full.map (·.1) = (oldestPending s r).map (·.correlationKey) ∧ emptied.map (·.1) = full.map (·.1)

/-- The uncorrelated rows inside the window. -/
def windowRows (s : State) (cutoff : Int) : List SessionCache :=
  s.table.filter fun row => row.deviceId == s.deviceId && !row.correlated && decide (cutoff ≤ row.createdAt)

/-- The order of the fallback's `SELECT`. -/
abbrev NewestFirst (a b : SessionCache) : Prop := b.createdAt ≤ a.createdAt

/-- **The oldest pending request of the protocol is also the newest row of it.** Its row is inside the
    window, precedes every other row of the protocol there, and fewer than ten rows precede it; without such
    a request, ten rows precede each row of the protocol. -/
def NewestIsOldest (s : State) (r : KeylessResponse) : Prop :=
  match oldestPending s r with
  | some entry => ∃ row ∈ windowRows s r.cutoff, row.correlationKey = entry.correlationKey ∧
      rank NewestFirst (windowRows s r.cutoff) row < 10 ∧
      ∀ other ∈ windowRows s r.cutoff, other.protocol = r.protocol →
        other = row ∨ Precedes NewestFirst (windowRows s r.cutoff) row other
  | none => ∀ row ∈ windowRows s r.cutoff, row.protocol = r.protocol →
      10 ≤ rank NewestFirst (windowRows s r.cutoff) row

instance (s : State) (r : KeylessResponse) : Decidable (NewestIsOldest s r) := by
  unfold NewestIsOldest
  cases oldestPending s r <;> infer_instance

/-! ## What the response takes -/

section
variable {R : Redactors} {s : State} {r : KeylessResponse}

/-- A started call is the last one. -/
theorem getElem?_addCall (s : State) (call : Call) : (s.addCall call).calls[s.calls.length]? = some call := by
  simp [State.addCall]

theorem setCall_addCall (s : State) (call call' : Call) :
    (s.addCall call).setCall s.calls.length call' = s.addCall call' := by
  simp [State.addCall, State.setCall]

/-- A started call that goes on, and one that has returned. -/
theorem runCall_succ {s s' : State} {i fuel : Nat} {uuid : String} {now : Int}
    (h : resume s i uuid now = some s') : runCall i uuid now (fuel + 1) s = runCall i uuid now fuel s' := by
  rw [runCall, h]

theorem runCall_returned {result : Option (String × CorrelatedPair)} {fuel : Nat} {uuid : String} {now : Int} :
    runCall s.calls.length uuid now fuel (s.addCall (.matched result)) = s.addCall (.matched result) := by
  cases fuel with
  | zero => rfl
  | succ fuel => rw [runCall, resume, getElem?_addCall]

/-- A claimed pair is returned next. -/
theorem runCall_storing {key : String} {pair : CorrelatedPair} {fuel : Nat} {uuid : String} {now : Int} :
    runCall s.calls.length uuid now (fuel + 1) (s.addCall (.storing key pair)) =
      s.addCall (.matched (some (key, pair))) := by
  have hresume : resume (s.addCall (.storing key pair)) s.calls.length uuid now =
      some (s.addCall (.matched (some (key, pair)))) := by
    rw [resume, getElem?_addCall]
    exact congrArg some (setCall_addCall _ _ _)
  rw [runCall_succ hresume, runCall_returned]

/-- A response that has popped an entry marks its row and returns its pair. -/
theorem runCall_marking (s : State) (resp : Response) (entry : Entry) (uuid : String) (now : Int) :
    ∃ pair, (runCall s.calls.length uuid now 3 (s.addCall (.marking resp entry))).calls[s.calls.length]? =
      some (.matched (some (entry.correlationKey, pair))) := by
  have hmark : resume (s.addCall (.marking resp entry)) s.calls.length uuid now =
      some ({ s with table := updateMatched s.table entry.correlationKey resp now }.addCall
        (.storing entry.correlationKey (correlatedPair s.deviceId entry resp uuid now))) := by
    rw [resume, getElem?_addCall]
    exact congrArg some (setCall_addCall { s with
      table := updateMatched s.table entry.correlationKey resp now } (.marking resp entry) _)
  rw [runCall_succ hmark]
  exact ⟨_, (congrArg (fun t : State => t.calls[s.calls.length]?) runCall_storing).trans (getElem?_addCall _ _)⟩

/-- **From memory** the response takes the oldest pending request. -/
theorem keylessAnswer_of_some {entry : Entry} (h : oldestPending s r = some entry) :
    ∃ pair, keylessAnswer R s r = some (.matched (some (entry.correlationKey, pair))) := by
  have hfind : s.pending.find? (qualifies r.protocol none (r.now - correlationMaxAge r.pairTtlHours)) =
    some entry := h
  unfold keylessAnswer matchResponse popPending
  dsimp only
  rw [hfind]
  exact runCall_marking { s with pending := _ } _ entry r.uuid r.now

/-- The row a fallback finds. -/
def fallbackRow (s : State) (r : KeylessResponse) : Option SessionCache :=
  (selectUncorrelated s.table s.deviceId r.cutoff).find? fun row => row.protocol == r.protocol

theorem selectUncorrelated_eq (s : State) (cutoff : Int) :
    selectUncorrelated s.table s.deviceId cutoff = ((windowRows s cutoff).insertionSort NewestFirst).take 10 := rfl

/-- A row the fallback finds is an uncorrelated row of the table. -/
theorem claimable_of_fallbackRow {row : SessionCache} (h : fallbackRow s r = some row) :
    s.table.any (claimable row.correlationKey) = true := by
  have hmem := List.mem_of_find?_eq_some h
  rw [selectUncorrelated_eq] at hmem
  obtain ⟨hrow, hopen⟩ := List.mem_filter.mp ((List.mem_insertionSort _).mp (List.mem_of_mem_take hmem))
  refine List.any_eq_true.mpr ⟨row, hrow, ?_⟩
  simp only [Bool.and_eq_true] at hopen
  simp [claimable, hopen.1.2]

/-- **From the table** the response takes the row the fallback finds, or none. -/
theorem keylessAnswer_of_none (h : oldestPending s r = none) :
    ∃ result, keylessAnswer R s r = some (.matched result) ∧
      result.map (·.1) = (fallbackRow s r).map (·.correlationKey) := by
  have hfind : s.pending.find? (qualifies r.protocol none (r.now - correlationMaxAge r.pairTtlHours)) = none := h
  have hskip : fallbackRow s r =
      ((selectUncorrelated s.table s.deviceId r.cutoff).dropWhile fun row => row.protocol != r.protocol).head? :=
    List.find?_eq_head?_dropWhile_not _ _
  unfold keylessAnswer matchResponse popPending
  dsimp only
  rw [hfind]
  dsimp only [Option.map_none]
  set resp : Response := ⟨r.vendor, r.protocol, r.statusCode, R.redactHeaders r.headers, R.redactBody r.body⟩
  have hselect : resume (s.addCall (.selecting resp (r.now - correlationMaxAge r.pairTtlHours))) s.calls.length
      r.uuid r.now = some (s.addCall (.scanning resp (selectUncorrelated s.table s.deviceId r.cutoff))) := by
    rw [resume, getElem?_addCall]
    exact congrArg some (setCall_addCall _ _ _)
  rw [runCall_succ hselect]
  cases hrows : (selectUncorrelated s.table s.deviceId r.cutoff).dropWhile fun row => row.protocol != r.protocol with
  | nil =>
    have hnone : resume (s.addCall (.scanning resp (selectUncorrelated s.table s.deviceId r.cutoff)))
        s.calls.length r.uuid r.now = some (s.addCall (.matched none)) := by
      rw [resume, getElem?_addCall]
      dsimp only
      rw [hrows]
      exact congrArg some (setCall_addCall _ _ _)
    rw [runCall_succ hnone, runCall_returned, getElem?_addCall]
    refine ⟨none, rfl, ?_⟩
    rw [hskip, hrows]
    rfl
  | cons row rest =>
    have hfound : fallbackRow s r = some row := by rw [hskip, hrows, List.head?_cons]
    have hclaim : resume (s.addCall (.scanning resp (selectUncorrelated s.table s.deviceId r.cutoff)))
        s.calls.length r.uuid r.now =
        some ({ s with table := updateClaim s.table row.correlationKey resp r.now }.addCall
          (.storing row.correlationKey (claimedPair s row resp r.uuid r.now))) := by
      rw [resume, getElem?_addCall]
      dsimp only
      rw [hrows]
      dsimp only
      have hany : (s.addCall (.scanning resp (selectUncorrelated s.table s.deviceId r.cutoff))).table.any
        (claimable row.correlationKey) = true := claimable_of_fallbackRow hfound
      rw [if_pos hany]
      exact congrArg some (setCall_addCall { s with
        table := updateClaim s.table row.correlationKey resp r.now } (.scanning resp _) _)
    rw [runCall_succ hclaim]
    have hreturn : (runCall s.calls.length r.uuid r.now 1
        ({ s with table := updateClaim s.table row.correlationKey resp r.now }.addCall
          (.storing row.correlationKey (claimedPair s row resp r.uuid r.now)))).calls[s.calls.length]? =
        some (.matched (some (row.correlationKey, claimedPair s row resp r.uuid r.now))) :=
      (congrArg (fun t : State => t.calls[s.calls.length]?) runCall_storing).trans (getElem?_addCall _ _)
    exact ⟨_, hreturn, by rw [hfound]; rfl⟩

/-! ## The agreement -/

variable {createdAt : Entry → Int}

/-- The rows of a set of pending requests are pairwise different inside any window. -/
theorem Mirrored.windowRows_keys (h : Mirrored s createdAt) (cutoff : Int) :
    ((windowRows s cutoff).map (·.correlationKey)).Nodup := by
  have hkeys : ((s.table.filter fun row => !row.correlated).map (·.correlationKey)).Nodup := by
    refine (h.rows.map (·.correlationKey)).nodup_iff.mpr ?_
    rw [List.map_map]
    exact h.keys
  refine hkeys.sublist (List.Sublist.map _ ?_)
  have hsub : windowRows s cutoff = (s.table.filter fun row => !row.correlated).filter fun row =>
      row.deviceId == s.deviceId && decide (cutoff ≤ row.createdAt) := by
    rw [List.filter_filter]
    refine List.filter_congr fun row _ => ?_
    cases row.deviceId == s.deviceId <;> cases row.correlated <;> simp
  rw [hsub]
  exact List.filter_sublist

/-- A row with the key of a queued request is that request's row. -/
theorem Mirrored.row_of_key (h : Mirrored s createdAt) {cutoff : Int} {row : SessionCache} {entry : Entry}
    (hrow : row ∈ windowRows s cutoff) (hentry : entry ∈ s.pending)
    (hkey : row.correlationKey = entry.correlationKey) : row = entry.toRow (createdAt entry) := by
  obtain ⟨hmem, hopen⟩ := List.mem_filter.mp hrow
  simp only [Bool.and_eq_true] at hopen
  have hrow' := h.rows.subset (List.mem_filter.mpr ⟨hmem, hopen.1.2⟩)
  obtain ⟨entry', hentry', rfl⟩ := List.mem_map.mp hrow'
  have heq : entry' = entry := List.inj_on_of_nodup_map h.keys hentry' hentry hkey
  rw [heq]

/-- The fallback finds a row exactly when it precedes the others of its protocol, behind fewer than ten. -/
theorem Mirrored.fallbackRow_eq_some (h : Mirrored s createdAt) {row : SessionCache} :
    fallbackRow s r = some row ↔ row ∈ windowRows s r.cutoff ∧ row.protocol = r.protocol ∧
      rank NewestFirst (windowRows s r.cutoff) row < 10 ∧ ∀ other ∈ windowRows s r.cutoff,
        other.protocol = r.protocol → other = row ∨ Precedes NewestFirst (windowRows s r.cutoff) row other := by
  have hn : (windowRows s r.cutoff).Nodup := (h.windowRows_keys r.cutoff).of_map
  unfold fallbackRow
  rw [selectUncorrelated_eq, find?_take_insertionSort hn]
  simp only [beq_iff_eq]

theorem Mirrored.fallbackRow_eq_none (h : Mirrored s createdAt) :
    fallbackRow s r = none ↔ ∀ row ∈ windowRows s r.cutoff, row.protocol = r.protocol →
      10 ≤ rank NewestFirst (windowRows s r.cutoff) row := by
  have hn : (windowRows s r.cutoff).Nodup := (h.windowRows_keys r.cutoff).of_map
  unfold fallbackRow
  rw [selectUncorrelated_eq, List.find?_eq_none]
  constructor
  · intro hnone row hrow hprotocol
    by_contra hlt
    exact hnone row ((mem_take_insertionSort hn).mpr ⟨hrow, by omega⟩) (by simpa using hprotocol)
  · intro hnone row hrow hprotocol
    obtain ⟨hmem, hlt⟩ := (mem_take_insertionSort hn).mp hrow
    have hge := hnone row hmem (by simpa using hprotocol)
    omega

/-- **A keyless response pairs the oldest pending request before and after a restart exactly when that
    request is also the newest row of its protocol**, behind fewer than ten rows of the window. -/
theorem pairsTheOldest_iff (h : Mirrored s createdAt) : PairsTheOldest R s r ↔ NewestIsOldest s r := by
  have hempty : oldestPending s.emptied r = none := rfl
  have hrows : fallbackRow s.emptied r = fallbackRow s r := rfl
  obtain ⟨emptied, hemptied, hkey⟩ := keylessAnswer_of_none (R := R) hempty
  rw [hrows] at hkey
  unfold PairsTheOldest NewestIsOldest
  cases holdest : oldestPending s r with
  | none =>
    obtain ⟨full, hfull, hfullKey⟩ := keylessAnswer_of_none (R := R) holdest
    dsimp only
    rw [← h.fallbackRow_eq_none, Option.map_none]
    constructor
    · rintro ⟨full', emptied', hfull', -, hnone, -⟩
      obtain rfl : full = full' := by
        rw [hfull] at hfull'
        cases hfull'
        rfl
      exact Option.map_eq_none_iff.mp (hfullKey.symm.trans hnone)
    · intro hnone
      rw [hnone, Option.map_none] at hkey hfullKey
      exact ⟨full, emptied, hfull, hemptied, hfullKey, hkey.trans hfullKey.symm⟩
  | some entry =>
    obtain ⟨pair, hfull⟩ := keylessAnswer_of_some (R := R) holdest
    have hentry : entry ∈ s.pending := List.mem_of_find?_eq_some holdest
    have hprotocol : entry.protocol = r.protocol := by
      have hq := List.find?_some holdest
      simp only [qualifies, Bool.and_eq_true, beq_iff_eq] at hq
      exact hq.1
    dsimp only
    constructor
    · rintro ⟨full', emptied', hfull', hemptied', -, hsame⟩
      rw [hfull] at hfull'
      rw [hemptied] at hemptied'
      cases hfull'
      cases hemptied'
      rw [hkey] at hsame
      obtain ⟨row, hrow, hrowKey⟩ := Option.map_eq_some_iff.mp hsame
      obtain ⟨hmem, -, hrank, hfirst⟩ := h.fallbackRow_eq_some.mp hrow
      exact ⟨row, hmem, hrowKey, hrank, hfirst⟩
    · rintro ⟨row, hmem, hrowKey, hrank, hfirst⟩
      have hrowProtocol : row.protocol = r.protocol := by
        rw [h.row_of_key hmem hentry hrowKey]
        exact hprotocol
      have hrow : fallbackRow s r = some row := h.fallbackRow_eq_some.mpr ⟨hmem, hrowProtocol, hrank, hfirst⟩
      refine ⟨_, emptied, hfull, hemptied, rfl, ?_⟩
      rw [hkey, hrow, Option.map_some, hrowKey]
      rfl

end

/-- Redactors for data without secrets. -/
def plainRedactors : Redactors := ⟨id, id, id⟩

/-- A queued request of `device`, captured at `timestamp`. -/
def queuedEntry (key protocol : String) (timestamp : Int) : Entry :=
  ⟨key, "device", "vendor", protocol, "GET", "/", .obj [], .null, .obj [], none, timestamp⟩

/-- A pipeline whose queued requests all have their rows. -/
def mirroredState (entries : List Entry) : State :=
  ⟨"device", entries, entries.map fun entry => entry.toRow entry.timestamp, []⟩

/-- A keyless `http` response at time 10, with a window of an hour. -/
def httpResponse : KeylessResponse := ⟨"vendor", "http", 200, .obj [], .null, 1, 10, "u"⟩

/-- One `http` request behind one of another protocol. -/
theorem soleRequest_pairsTheOldest :
    PairsTheOldest plainRedactors (mirroredState [queuedEntry "a" "mqtt" 1, queuedEntry "b" "http" 2])
      httpResponse := by
  have hmirrored : Mirrored (mirroredState [queuedEntry "a" "mqtt" 1, queuedEntry "b" "http" 2])
    Entry.timestamp := ⟨by decide, by decide, by decide⟩
  exact (pairsTheOldest_iff hmirrored).mpr (by decide)

/-- **The law fails in general**: of two `http` requests the queue gives the first, the table the second. -/
theorem twoRequests_disagree :
    ¬ ∀ (R : Redactors) (s : State) (createdAt : Entry → Int) (r : KeylessResponse), Mirrored s createdAt →
      PairsTheOldest R s r := by
  intro h
  have hpairs := h plainRedactors (mirroredState [queuedEntry "a" "http" 1, queuedEntry "b" "http" 2])
    Entry.timestamp httpResponse ⟨by decide, by decide, by decide⟩
  obtain ⟨full, emptied, hfull, hemptied, -, hsame⟩ := hpairs
  cases hfull
  cases hemptied
  exact absurd hsame (by decide)

end Correlation
end RideTheApi
