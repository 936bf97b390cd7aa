import RideTheApi.Ingress.Handling
import RideTheApi.Pipeline.CorrelationSafety

/-!
# `Ingress.HandlingSafety` — when a handling leaves no orphan capture

`At` follows the two copies of one request through the pipeline: each operation has one lemma that says how it
ends and which copies are left, and the ingresses are composed of them. The condition `settled` reads off the
result: a capture is settled only by a caller that has its key, and the protocol servers never settle one.
-/

namespace RideTheApi.Ingress

open Correlation Faulty

/-! ## The law and its condition -/

/-- **No pending capture is left**: the request is not queued, and it has no uncorrelated row. -/
def NoOrphan (key : String) (s : Copies) : Prop :=
  (∀ entry ∈ s.pending, entry.correlationKey ≠ key) ∧
    ∀ row ∈ s.table, row.correlationKey = key → row.correlated = true

/-- No copy of the request is there yet. -/
def Fresh (key : String) (s : Copies) : Prop :=
  (∀ entry ∈ s.pending, entry.correlationKey ≠ key) ∧ ∀ row ∈ s.table, row.correlationKey ≠ key

section
variable (x : Await → Bool) (a : Answers)

/-- The request is captured: `register_request` is reached. -/
def captures : Bool :=
  !a.refused && !x .prelude && (!x .getDevice && match a.device with
    | some .learning   => !x .ensureBuffer
    | some .hybrid     => !x .findBestMatch && (!a.confident && !x .ensureBuffer)
    | some .production => !x .findBestMatch && (!a.confident && (!x .recordResult && (!a.noFallback &&
        !x .ensureBuffer)))
    | _                => false)

/-- `handle_request` returns the key of its capture: the row is inserted, and no counter update after the
    capture raises. -/
def returnsKey : Bool := !x .insertRow && (a.device == some .production || !x .recordResult)

/-- A discard of a queued request goes through. -/
def discards : Bool := !x .recordError && !x .deleteRow

/-- The caller settles a capture whose key it has. -/
def settles : IngressKind → Bool
  | .proxyRoute =>
    if a.signalForward then !x .deleteRow
    else if x .forward || !a.cloudSuccess || x .readResponse then discards x
    else !x .markRow || !x .deleteRow
  | .tlsListener =>
    if a.cloudSuccess && !x .forward then !x .readResponse && !x .markRow else discards x
  | .protocolServer => false

/-- Nothing is captured, or the caller gets its key and settles it. -/
def settled (ingress : IngressKind) : Bool := !captures x a || (returnsKey x a && settles x a ingress)

end

/-! ## The copies of one request -/

/-- The request has at most one entry, if `queued`, and an uncorrelated row exactly if `isOpen`. -/
structure At (deviceId key : String) (queued isOpen : Bool) (s : Copies) : Prop where
  queue : (s.pending.filter fun entry => entry.correlationKey == key).length = queued.toNat
  row : s.table.any (claimable key) = isOpen
  device : ∀ row ∈ s.table, row.correlationKey = key → row.deviceId = deviceId

section
variable {deviceId key : String} {queued isOpen : Bool} {s : Copies}

theorem Fresh.at (h : Fresh key s) : At deviceId key false false s where
  queue := List.length_eq_zero_iff.mpr (List.filter_eq_nil_iff.mpr fun entry he => by simpa using h.1 entry he)
  row := List.any_eq_false.mpr fun row hr => by simp [claimable, h.2 row hr]
  device := fun row hr hkey => absurd hkey (h.2 row hr)

theorem At.noOrphan_iff (h : At deviceId key queued isOpen s) :
    NoOrphan key s ↔ queued = false ∧ isOpen = false := by
  refine and_congr ?_ ?_
  · rw [← Bool.toNat_eq_zero, ← h.queue, List.length_eq_zero_iff, List.filter_eq_nil_iff]
    simp only [beq_iff_eq]
  · rw [← h.row, List.any_eq_false]
    refine forall_congr' fun row => forall_congr' fun _ => ?_
    simp only [claimable, Bool.and_eq_true, beq_iff_eq, Bool.not_eq_true', not_and, Bool.not_eq_false]

theorem At.queue_eq_nil (h : At deviceId key false isOpen s) :
    s.pending.filter (fun entry => entry.correlationKey == key) = [] := List.length_eq_zero_iff.mp h.queue

theorem correlationCacheMaxlen_pos : 0 < correlationCacheMaxlen := by decide

/-- The appended entry is never pushed out itself. -/
theorem filter_appendPending (pending : List Entry) (entry : Entry) (p : Entry → Bool) :
    (appendPending pending entry).filter p =
      (pending.drop (pending.length + 1 - correlationCacheMaxlen)).filter p ++ [entry].filter p := by
  have hle : pending.length + 1 - correlationCacheMaxlen ≤ pending.length := by
    have := correlationCacheMaxlen_pos
    omega
  unfold appendPending
  rw [List.drop_append_of_le_length hle, List.filter_append]

/-- Erasing the first entry that passes a test leaves the others that do. -/
theorem filter_eraseP (pending : List Entry) (p : Entry → Bool) :
    (pending.eraseP p).filter p = (pending.filter p).tail := by
  induction pending with
  | nil => rfl
  | cons entry pending ih =>
    cases hp : p entry with
    | true => rw [List.eraseP_cons_of_pos hp, List.filter_cons_of_pos hp, List.tail_cons]
    | false => rw [List.eraseP_cons_of_neg (by simp [hp]), List.filter_cons_of_neg (by simp [hp]),
        List.filter_cons_of_neg (by simp [hp]), ih]

/-- Queueing the entry of a request that has none. -/
theorem At.append {entry : Entry} (h : At deviceId key false isOpen s) (hkey : entry.correlationKey = key) :
    At deviceId key true isOpen { s with pending := appendPending s.pending entry } where
  queue := by
    have hpushed : (s.pending.drop (s.pending.length + 1 - correlationCacheMaxlen)).filter
        (fun entry => entry.correlationKey == key) = [] :=
      List.eq_nil_of_sublist_nil (h.queue_eq_nil ▸ (List.drop_sublist _ _).filter _)
    rw [filter_appendPending, hpushed, List.filter_cons_of_pos (by simpa using hkey), List.filter_nil]
    rfl
  row := h.row
  device := h.device

/-- Inserting the row of a request. -/
theorem At.insert {entry : Entry} (h : At deviceId key queued false s) (hkey : entry.correlationKey = key)
    (hdevice : entry.deviceId = deviceId) (now : Int) :
    At deviceId key queued true { s with table := s.table ++ [entry.toRow now] } where
  queue := h.queue
  row := by
    show (s.table ++ [entry.toRow now]).any (claimable key) = true
    rw [List.any_append, h.row]
    simp [claimable, Entry.toRow, hkey]
  device := by
    intro row hrow hrowKey
    rcases List.mem_append.mp hrow with hrow | hrow
    · exact h.device row hrow hrowKey
    · rw [List.mem_singleton.mp hrow]
      exact hdevice

/-- Erasing the entry of a request. -/
theorem At.erase (h : At deviceId key queued isOpen s) :
    At deviceId key false isOpen
      { s with pending := s.pending.eraseP fun entry => entry.correlationKey == key } where
  queue := by
    rw [filter_eraseP, List.length_tail, h.queue]
    cases queued <;> rfl
  row := h.row
  device := h.device

theorem At.any_queued (h : At deviceId key queued isOpen s) :
    (s.pending.any fun entry => entry.correlationKey == key) = queued := by
  cases queued with
  | true =>
    obtain ⟨entry, hentry⟩ := List.length_eq_one_iff.mp h.queue
    have hmem := List.mem_filter.mp (hentry ▸ List.mem_singleton.mpr rfl : entry ∈ _)
    exact List.any_eq_true.mpr ⟨entry, hmem⟩
  | false => exact List.any_eq_false.mpr (List.filter_eq_nil_iff.mp h.queue_eq_nil)

/-- A statement that settles rows, and closes the ones of the request. -/
theorem At.settle {table : List SessionCache} (h : At deviceId key queued isOpen s)
    (htable : Settles table s.table) (hclosed : Settled table key) :
    At deviceId key queued false { s with table := table } where
  queue := h.queue
  row := by
    refine List.any_eq_false.mpr fun row hrow => ?_
    by_cases hkey : row.correlationKey = key
    · simp [claimable, hclosed row hrow hkey]
    · simp [claimable, hkey]
  device := by
    intro row' hrow' hkey
    obtain ⟨row, hrow, hrowKey, hrowDevice, -⟩ := htable row' hrow'
    rw [← hrowDevice]
    exact h.device row hrow (hrowKey.trans hkey)

/-- A request without copies gets none from what other requests do. -/
theorem At.other {pending : List Entry} {table : List SessionCache} (h : At deviceId key false false s)
    (hpending : pending.Sublist s.pending) (htable : Settles table s.table) :
    At deviceId key false false ⟨pending, table⟩ where
  queue := List.length_eq_zero_iff.mpr
    (List.eq_nil_of_sublist_nil (h.queue_eq_nil ▸ hpending.filter _))
  row := by
    refine List.any_eq_false.mpr fun row' hrow' hclaim => ?_
    obtain ⟨row, hrow, hrowKey, -, hopen⟩ := htable row' hrow'
    refine List.any_eq_false.mp h.row row hrow ?_
    simp only [claimable, Bool.and_eq_true, beq_iff_eq, Bool.not_eq_true'] at hclaim ⊢
    exact ⟨hrowKey.trans hclaim.1, hopen hclaim.2⟩
  device := by
    intro row' hrow' hkey
    obtain ⟨row, hrow, hrowKey, hrowDevice, -⟩ := htable row' hrow'
    rw [← hrowDevice]
    exact h.device row hrow (hrowKey.trans hkey)

/-- The keyed deletion leaves the request no uncorrelated row. -/
theorem At.delete (h : At deviceId key queued isOpen s) :
    At deviceId key queued false { s with table := deleteUncorrelated s.table deviceId key } := by
  refine h.settle (settles_deleteUncorrelated _ _ _) fun row hrow hkey => ?_
  obtain ⟨hmem, hkeep⟩ := List.mem_filter.mp hrow
  simpa [claimable, hkey, h.device row hmem hkey] using hkeep

/-! ## The operations -/

variable {x : Await → Bool} {a : Answers} {entry : Entry} {resp : Response} {pairTtlHours now : Int}

/-- A capture that comes to its `INSERT` leaves the entry queued, and its row unless that raises. -/
theorem ends_registerRequest (h : At deviceId key false false s) (hkey : entry.correlationKey = key)
    (hdevice : entry.deviceId = deviceId) (hbuffer : x .ensureBuffer = false) :
    Ends (registerRequest x entry now) s (if x .insertRow then none else some key)
      (At deviceId key true (!x .insertRow)) := by
  unfold registerRequest
  rw [hbuffer]
  refine (ends_pass h).bind fun s h => ?_
  refine (ends_modify (h.append hkey)).bind fun s h => ?_
  cases hinsert : x .insertRow with
  | true => exact (ends_raise h).bind_raise
  | false =>
    refine (ends_pass h).bind fun s h => ?_
    refine (ends_modify (h.insert hkey hdevice now)).bind fun s h => ?_
    rw [hkey]
    exact ends_pure h

/-- A discard erases the entry first, and the row if nothing raises in between. -/
theorem ends_discardRequest (h : At deviceId key queued isOpen s) (countAsError : Bool) :
    Ends (discardRequest x deviceId key countAsError) s
      (if queued && countAsError && x .recordError || x .deleteRow then none else some ())
      (At deviceId key false (isOpen && (queued && countAsError && x .recordError || x .deleteRow))) := by
  unfold discardRequest
  refine Ends.get_bind ?_
  dsimp only
  rw [h.any_queued]
  refine (ends_set h.erase).bind fun s h => ?_
  cases hrecord : queued && countAsError && x .recordError with
  | true =>
    refine Ends.bind_raise (ends_raise ?_)
    simpa using h
  | false =>
    refine (ends_pass h).bind fun s h => ?_
    cases hdelete : x .deleteRow with
    | true =>
      refine Ends.bind_raise (ends_raise ?_)
      simpa using h
    | false =>
      refine (ends_pass h).bind fun s h => ends_modify ?_
      simpa using h.delete

/-- The response with its key takes a queued request: the entry is popped before the row is marked. -/
theorem ends_matchResponse (h : At deviceId key true isOpen s) :
    Ends (matchResponse x deviceId (some key) resp pairTtlHours now) s (if x .markRow then none else some true)
      (At deviceId key false (isOpen && x .markRow)) := by
  unfold matchResponse
  dsimp only
  refine Ends.get_bind ?_
  obtain ⟨entry, hentry⟩ : ∃ entry, s.pending.find? (fun entry => entry.correlationKey == key) = some entry := by
    obtain ⟨entry, hmem, hkey⟩ := List.any_eq_true.mp h.any_queued
    exact Option.isSome_iff_exists.mp (List.find?_isSome.mpr ⟨entry, hmem, hkey⟩)
  have hpop : popPending s.pending resp.protocol (some key) (now - correlationMaxAge pairTtlHours) =
      some (entry, s.pending.eraseP fun entry => entry.correlationKey == key) :=
    Option.map_eq_some_iff.mpr ⟨entry, hentry, rfl⟩
  have hkey : entry.correlationKey = key := by simpa using List.find?_some hentry
  rw [hpop]
  dsimp only
  refine (ends_set h.erase).bind fun s h => ?_
  cases hmark : x .markRow with
  | true =>
    refine Ends.bind_raise (ends_raise ?_)
    simpa using h
  | false =>
    refine (ends_pass h).bind fun s h => ?_
    rw [hkey]
    refine (ends_modify ?_).bind fun s h => ends_pure h
    simpa using h.settle (settles_updateMatched _ _ _ _) (settled_updateMatched _ _ _ _)

/-- Recording the response of a queued request. -/
theorem ends_handleResponse (h : At deviceId key true isOpen s) :
    Ends (handleResponse x deviceId (some key) resp pairTtlHours now) s
      (if x .readResponse || x .markRow || x .learnPair then none else some ())
      (At deviceId key (x .readResponse) (isOpen && (x .readResponse || x .markRow))) := by
  unfold handleResponse
  cases hread : x .readResponse with
  | true =>
    refine Ends.bind_raise (ends_raise ?_)
    simpa using h
  | false =>
    refine (ends_pass h).bind fun s h => ?_
    have hmatch : Ends (matchResponse x deviceId (some key) resp pairTtlHours now) s _ _ := ends_matchResponse h
    cases hmark : x .markRow with
    | true =>
      rw [hmark] at hmatch
      simpa using hmatch.bind_raise
    | false =>
      rw [hmark] at hmatch
      refine hmatch.bind fun s h => ?_
      cases hlearn : x .learnPair with
      | true => simpa using ends_raise h
      | false => simpa using ends_pass h

/-- Recording the response and replying. What stops short of a pair raises. -/
theorem ends_recordAndReply (h : At deviceId key true true s) :
    ∃ r, Ends (do
        handleResponse x deviceId (some key) resp pairTtlHours now
        raiseIf (x .reply)) s r (At deviceId key (x .readResponse) (x .readResponse || x .markRow)) ∧
      ((x .readResponse || x .markRow) = true → r = none) := by
  have hresponse : Ends (handleResponse x deviceId (some key) resp pairTtlHours now) s _ _ := ends_handleResponse h
  rw [Bool.true_and] at hresponse
  cases hraised : x .readResponse || x .markRow || x .learnPair with
  | true =>
    rw [hraised] at hresponse
    exact ⟨none, hresponse.bind_raise, fun _ => rfl⟩
  | false =>
    rw [hraised] at hresponse
    refine ⟨_, hresponse.bind fun s h => ends_raiseIf (x .reply) h, fun hraise => ?_⟩
    rw [(Bool.or_eq_false_iff.mp hraised).1] at hraise
    cases hraise

/-- A response without a key gives a request without copies none. -/
theorem leaves_matchResponse_keyless (h : At deviceId key false false s) :
    Leaves (matchResponse x deviceId none resp pairTtlHours now) s (At deviceId key false false) := by
  unfold matchResponse
  dsimp only
  refine Leaves.get_bind ?_
  cases hpop : popPending s.pending resp.protocol none (now - correlationMaxAge pairTtlHours) with
  | some popped =>
    obtain ⟨entry, rest⟩ := popped
    have hsub : rest.Sublist s.pending := by
      obtain ⟨found, -, hpair⟩ := Option.map_eq_some_iff.mp hpop
      cases hpair
      exact List.eraseP_sublist
    refine (leaves_set (h.other hsub (settles_refl s.table))).bind fun _ s h => ?_
    refine (leaves_raiseIf _ h).bind fun _ s h => ?_
    refine (leaves_modify ?_).bind fun _ s h => leaves_pure h
    exact h.other (List.Sublist.refl _) (settles_updateMatched _ _ _ _)
  | none =>
    refine (leaves_raiseIf _ h).bind fun _ s h => ?_
    split
    · exact leaves_pure h
    · refine (leaves_modify ?_).bind fun _ s h => leaves_pure h
      exact h.other (List.Sublist.refl _) (settles_updateClaim _ _ _ _)

theorem leaves_handleResponse_keyless (h : At deviceId key false false s) :
    Leaves (handleResponse x deviceId none resp pairTtlHours now) s (At deviceId key false false) := by
  unfold handleResponse
  refine (leaves_raiseIf _ h).bind fun _ s h => ?_
  exact (leaves_matchResponse_keyless h).bind fun _ s h => leaves_raiseIf _ h

/-! ## `handle_request` -/

/-- A computation that captures the request and returns its key (or raises), or captures nothing and returns
    no key. -/
def Captured (deviceId key : String) (inserts captured returns : Bool) (m : Faulty Copies Action) (s : Copies) :
    Prop :=
  (captured = true ∧ Ends m s (if returns then some (.forward (some key)) else none) (At deviceId key true inserts)) ∨
  (captured = false ∧ ∃ r, Ends m s r (At deviceId key false false) ∧ ∀ action ∈ r, action.correlationKey = none)

/-- Returning without a capture. -/
theorem captured_pure {inserts returns : Bool} {action : Action} (h : At deviceId key false false s)
    (hkey : action.correlationKey = none) : Captured deviceId key inserts false returns (pure action) s := by
  refine .inr ⟨rfl, some action, ends_pure h, fun action' haction' => ?_⟩
  cases haction'
  exact hkey

/-- Raising before a capture. -/
theorem captured_raise {inserts returns : Bool} {m : Faulty Copies Action}
    (h : Ends m s none (At deviceId key false false)) : Captured deviceId key inserts false returns m s :=
  .inr ⟨rfl, none, h, fun _ haction => by cases haction⟩

/-- A step that may raise before the capture. -/
theorem captured_raiseIf {inserts captured returns : Bool} {m : Faulty Copies Action} (fault : Bool)
    (h : At deviceId key false false s) (hm : Captured deviceId key inserts captured returns m s) :
    Captured deviceId key inserts (!fault && captured) returns (raiseIf fault >>= fun _ => m) s := by
  cases fault with
  | true => exact captured_raise (ends_raise h).bind_raise
  | false => exact hm

/-- **A capture** whose later steps may raise. -/
theorem captured_registerRequest (late : Bool) (h : At deviceId key false false s)
    (hkey : entry.correlationKey = key) (hdevice : entry.deviceId = deviceId) :
    Captured deviceId key (!x .insertRow) (!x .ensureBuffer) (!x .insertRow && !late)
      (do
        let key ← registerRequest x entry now
        raiseIf late
        pure (.forward (some key))) s := by
  cases hbuffer : x .ensureBuffer with
  | true =>
    refine captured_raise (Ends.bind_raise (P := At deviceId key false false) ?_)
    unfold registerRequest
    rw [hbuffer]
    exact (ends_raise h).bind_raise
  | false =>
    have hregister : Ends (registerRequest x entry now) s _ _ := ends_registerRequest h hkey hdevice hbuffer
    refine .inl ⟨rfl, ?_⟩
    cases hinsert : x .insertRow with
    | true =>
      rw [hinsert] at hregister
      exact hregister.bind_raise
    | false =>
      rw [hinsert] at hregister
      refine hregister.bind fun s h => ?_
      cases late with
      | true => exact (ends_raise h).bind_raise
      | false => exact (ends_pass h).bind fun s h => ends_pure h

/-- A local hit captures nothing. -/
theorem captured_serveLocally {inserts returns : Bool} (h : At deviceId key false false s) :
    Captured deviceId key inserts false returns (serveLocally x) s := by
  have hserve : Captured deviceId key inserts (!x .serveLocally && (!x .recordResult && false)) returns
      (serveLocally x) s := captured_raiseIf _ h (captured_raiseIf _ h (captured_pure h rfl))
  rwa [Bool.and_false, Bool.and_false] at hserve

/-- **`handle_request` of a request that is let through.** -/
theorem captured_handleRequest (h : At deviceId key false false s) (hkey : entry.correlationKey = key)
    (hdevice : entry.deviceId = deviceId) (hrefused : a.refused = false) (hprelude : x .prelude = false) :
    Captured deviceId key (!x .insertRow) (captures x a) (returnsKey x a) (handleRequest x a entry now) s := by
  have hforward : Captured deviceId key (!x .insertRow) false (returnsKey x a) (pure (.forward none)) s :=
    captured_pure h rfl
  unfold handleRequest
  cases hdev : a.device with
  | none =>
    have hcap : captures x a = (!x .getDevice && false) := by simp [captures, hdev]
    rw [hcap]
    exact captured_raiseIf _ h hforward
  | some mode =>
    -- each mode awaits its own steps before it registers: `captures` lists the ones that may raise
    cases mode with
    | passthrough =>
      have hcap : captures x a = (!x .getDevice && false) := by simp [captures, hdev]
      rw [hcap]
      exact captured_raiseIf _ h hforward
    | learning =>
      have hcap : captures x a = (!x .getDevice && !x .ensureBuffer) := by
        simp [captures, hdev, hrefused, hprelude]
      have hret : returnsKey x a = (!x .insertRow && !x .recordResult) := by rw [returnsKey, hdev]; rfl
      rw [hcap, hret]
      exact captured_raiseIf _ h (captured_registerRequest _ h hkey hdevice)
    | hybrid =>
      have hret : returnsKey x a = (!x .insertRow && !x .recordResult) := by rw [returnsKey, hdev]; rfl
      cases hconfident : a.confident with
      | true =>
        have hcap : captures x a = (!x .getDevice && (!x .findBestMatch && false)) := by
          simp [captures, hdev, hconfident]
        rw [hcap]
        refine captured_raiseIf _ h (captured_raiseIf _ h ?_)
        rw [hconfident]
        exact captured_serveLocally h
      | false =>
        have hcap : captures x a = (!x .getDevice && (!x .findBestMatch && !x .ensureBuffer)) := by
          simp [captures, hdev, hrefused, hprelude, hconfident]
        rw [hcap, hret]
        refine captured_raiseIf _ h (captured_raiseIf _ h ?_)
        rw [hconfident]
        exact captured_registerRequest _ h hkey hdevice
    | production =>
      have hret : returnsKey x a = (!x .insertRow && !false) := by rw [returnsKey, hdev]; rfl
      cases hconfident : a.confident with
      | true =>
        have hcap : captures x a = (!x .getDevice && (!x .findBestMatch && false)) := by
          simp [captures, hdev, hconfident]
        rw [hcap]
        refine captured_raiseIf _ h (captured_raiseIf _ h ?_)
        rw [hconfident]
        exact captured_serveLocally h
      | false =>
        cases hfallback : a.noFallback with
        | true =>
          have hcap : captures x a = (!x .getDevice && (!x .findBestMatch && (!x .recordResult && false))) := by
            simp [captures, hdev, hfallback]
          rw [hcap]
          refine captured_raiseIf _ h (captured_raiseIf _ h ?_)
          rw [hconfident, hfallback]
          exact captured_raiseIf _ h (captured_pure h rfl)
        | false =>
          have hcap : captures x a =
              (!x .getDevice && (!x .findBestMatch && (!x .recordResult && !x .ensureBuffer))) := by
            simp [captures, hdev, hrefused, hprelude, hconfident, hfallback]
          rw [hcap, hret]
          refine captured_raiseIf _ h (captured_raiseIf _ h ?_)
          rw [hconfident, hfallback]
          refine captured_raiseIf _ h ?_
          exact captured_registerRequest false h hkey hdevice

/-! ## The ingresses -/

/-- The copies left add up to an orphan or to none. -/
def LeavesOrphan (deviceId key : String) (orphan : Bool) (s : Copies) : Prop :=
  ∃ queued isOpen, At deviceId key queued isOpen s ∧ (queued || isOpen) = orphan

theorem LeavesOrphan.noOrphan_iff {orphan : Bool} (h : LeavesOrphan deviceId key orphan s) :
    NoOrphan key s ↔ orphan = false := by
  obtain ⟨queued, isOpen, hat, rfl⟩ := h
  rw [hat.noOrphan_iff, Bool.or_eq_false_iff]

/-- Discarding the pending capture of a result without a key. -/
theorem ends_discardPendingCapture_none (countAsError : Bool) (h : At deviceId key queued isOpen s) :
    Ends (discardPendingCapture x deviceId none countAsError) s (some ()) (At deviceId key queued isOpen) :=
  ends_pure h

/-- Discarding the pending capture of a result with its key. -/
theorem ends_discardPendingCapture_some (countAsError : Bool) (h : At deviceId key queued isOpen s) :
    Ends (discardPendingCapture x deviceId (some key) countAsError) s (some ())
      (At deviceId key false (isOpen && (queued && countAsError && x .recordError || x .deleteRow))) := by
  obtain ⟨s', hs', hat⟩ : Ends (discardRequest x deviceId key countAsError) s _ _ := ends_discardRequest h countAsError
  exact ⟨s', by rw [discardPendingCapture, ignore, hs'], hat⟩

/-- What the proxy route does with a result that has no key. -/
theorem leaves_proxyRouteResult {action : Action} (h : At deviceId key false false s)
    (hkey : action.correlationKey = none) :
    Leaves (proxyRouteResult x a deviceId resp pairTtlHours now action) s (At deviceId key false false) := by
  cases action with
  | localResponse => exact leaves_raiseIf _ h
  | noFallback => exact leaves_pure h
  | forward key' =>
    cases hkey
    simp only [proxyRouteResult]
    split
    · exact (ends_discardPendingCapture_none _ h).leaves
    · refine (leaves_raiseIf _ h).bind fun _ s h => ?_
      split
      · exact (leaves_handleResponse_keyless h).bind fun _ s h => leaves_raiseIf _ h
      · exact (ends_discardPendingCapture_none _ h).leaves

/-- A result that is dealt with leaves what it leaves; one that raises has its capture discarded. -/
theorem leaves_proxyRoute_attempt {m : Faulty Copies Unit} {r : Option Unit}
    (hm : Ends m s r (At deviceId key queued isOpen)) :
    Leaves (do
        let done ← attempt m
        if done.isNone then discardPendingCapture x deviceId (some key) true) s
      (At deviceId key (r.isSome && queued)
        (isOpen && (r.isSome || (queued && x .recordError || x .deleteRow)))) := by
  refine hm.attempt.bind_leaves fun s h => ?_
  cases r with
  | none => simpa using (ends_discardPendingCapture_some (x := x) true h).leaves
  | some _ => simpa using leaves_pure h

/-- **The proxy route settles a capture it has the key of**, as far as its own discards go through. -/
theorem leavesOrphan_proxyRouteResult (h : At deviceId key true true s) :
    Leaves (do
        let done ← attempt (proxyRouteResult x a deviceId resp pairTtlHours now (.forward (some key)))
        if done.isNone then discardPendingCapture x deviceId (some key) true) s
      (LeavesOrphan deviceId key (!settles x a .proxyRoute)) := by
  simp only [proxyRouteResult, settles]
  cases hsignal : a.signalForward with
  | true =>
    refine ⟨_, _, leaves_proxyRoute_attempt (ends_discardPendingCapture_some false h), ?_⟩
    simp
  | false =>
    cases hforward : x .forward with
    | true =>
      refine ⟨_, _, leaves_proxyRoute_attempt (ends_raise h).bind_raise, ?_⟩
      simp [discards, Bool.not_and]
    | false =>
      cases hcloud : a.cloudSuccess with
      | false =>
        refine ⟨_, _, leaves_proxyRoute_attempt ((ends_pass h).bind fun s h => ends_discardPendingCapture_some true h), ?_⟩
        simp [discards, Bool.not_and]
      | true =>
        obtain ⟨r, hr, hraise⟩ : ∃ r, Ends (do
            raiseIf false
            handleResponse x deviceId (some key) resp pairTtlHours now
            raiseIf (x .reply)) s r _ ∧ _ := ends_recordAndReply h
        refine ⟨_, _, leaves_proxyRoute_attempt hr, ?_⟩
        cases hread : x .readResponse with
        | true =>
          rw [hraise (by rw [hread]; rfl)]
          simp [discards, Bool.not_and]
        | false =>
          cases hmark : x .markRow with
          | true =>
            rw [hraise (by rw [hmark]; simp)]
            simp
          | false => simp

/-- Nothing captured is nothing left. -/
theorem leavesOrphan_of_not_captures (ingress : IngressKind) (hcaptures : captures x a = false)
    (h : At deviceId key false false s) : LeavesOrphan deviceId key (!settled x a ingress) s :=
  ⟨false, false, h, by simp [settled, hcaptures]⟩

/-- A capture whose key is not returned stays. -/
theorem leavesOrphan_of_not_returnsKey (ingress : IngressKind) (hcaptures : captures x a = true)
    (hreturns : returnsKey x a = false) (h : At deviceId key true isOpen s) :
    LeavesOrphan deviceId key (!settled x a ingress) s :=
  ⟨true, isOpen, h, by simp [settled, hcaptures, hreturns]⟩

/-- A returned key comes with both copies. -/
theorem insertRow_of_returnsKey (hreturns : returnsKey x a = true) : x .insertRow = false := by
  unfold returnsKey at hreturns
  cases hinsert : x .insertRow with
  | true => simp [hinsert] at hreturns
  | false => rfl

/-- **A request on its way through `handle_request`**, from the caller's prelude on. -/
theorem captured_admit (h : At deviceId key false false s) (hkey : entry.correlationKey = key)
    (hdevice : entry.deviceId = deviceId) :
    Captured deviceId key (!x .insertRow) (captures x a) (returnsKey x a) (do
      raiseIf (x .prelude)
      if a.refused then pure (.forward none) else handleRequest x a entry now) s := by
  cases hprelude : x .prelude with
  | true =>
    have hcaptures : captures x a = false := by simp [captures, hprelude]
    rw [hcaptures]
    exact captured_raise (ends_raise h).bind_raise
  | false =>
    cases hrefused : a.refused with
    | true =>
      have hcaptures : captures x a = (!false && false) := by simp [captures, hrefused]
      rw [hcaptures]
      exact captured_raiseIf _ h (captured_pure h rfl)
    | false => exact captured_handleRequest h hkey hdevice hrefused hprelude

/-- **The plain proxy route.** -/
theorem leavesOrphan_proxyVendorRequest (h : At deviceId key false false s) (hkey : entry.correlationKey = key)
    (hdevice : entry.deviceId = deviceId) :
    Leaves (proxyVendorRequest x a deviceId entry resp pairTtlHours now) s
      (LeavesOrphan deviceId key (!settled x a .proxyRoute)) := by
  have hadmit : Captured deviceId key _ _ _ (do
      raiseIf (x .prelude)
      if a.refused then pure (.forward none) else handleRequest x a entry now) s := captured_admit h hkey hdevice
  unfold proxyVendorRequest
  cases hrefused : a.refused with
  | true => exact leaves_pure (leavesOrphan_of_not_captures _ (by simp [captures, hrefused]) h)
  | false =>
    rw [hrefused] at hadmit
    rcases hadmit with ⟨hcaptures, hends⟩ | ⟨hcaptures, r, hends, hnone⟩
    · cases hreturns : returnsKey x a with
      | true =>
        rw [hreturns, insertRow_of_returnsKey hreturns] at hends
        refine hends.attempt.bind_leaves fun s h => ?_
        refine (leavesOrphan_proxyRouteResult h).mono fun s hleaves => ?_
        simpa [settled, hcaptures, hreturns] using hleaves
      | false =>
        rw [hreturns] at hends
        refine hends.attempt.bind_leaves fun s h => ?_
        exact (ends_discardPendingCapture_none true h).leaves.mono fun s h =>
          leavesOrphan_of_not_returnsKey _ hcaptures hreturns h
    · refine Leaves.mono (P := At deviceId key false false) ?_ fun s h => leavesOrphan_of_not_captures _ hcaptures h
      refine hends.attempt.bind_leaves fun s h => ?_
      cases r with
      | none => exact (ends_discardPendingCapture_none true h).leaves
      | some action =>
        have hkey : action.correlationKey = none := hnone action rfl
        refine (leaves_proxyRouteResult h hkey).attempt.bind fun done s h => ?_
        rw [hkey]
        split
        · exact (ends_discardPendingCapture_none true h).leaves
        · exact leaves_pure h

/-- **The TLS listener settles a capture it has the key of**, unless the recorder of the response or of the
    failure raises. -/
theorem leavesOrphan_tlsListenerResult (h : At deviceId key true true s) :
    Leaves (tlsListenerResult x a deviceId resp pairTtlHours now (some (.forward (some key)))) s
      (LeavesOrphan deviceId key (!settles x a .tlsListener)) := by
  simp only [tlsListenerResult, settles]
  cases hforwarded : a.cloudSuccess && !x .forward with
  | true =>
    have hresponse : Ends (handleResponse x deviceId (some key) resp pairTtlHours now) s _ _ := ends_handleResponse h
    refine ⟨_, _, hresponse.leaves.ignore, ?_⟩
    cases x .readResponse <;> cases x .markRow <;> rfl
  | false =>
    have hdiscard : Ends (discardRequest x deviceId key true) s _ _ := ends_discardRequest h true
    refine ⟨_, _, hdiscard.leaves.ignore, ?_⟩
    simp [discards, Bool.not_and]

/-- **The TLS listener.** -/
theorem leavesOrphan_handleConnection (h : At deviceId key false false s) (hkey : entry.correlationKey = key)
    (hdevice : entry.deviceId = deviceId) :
    Leaves (handleConnection x a deviceId entry resp pairTtlHours now) s
      (LeavesOrphan deviceId key (!settled x a .tlsListener)) := by
  have hadmit : Captured deviceId key _ _ _ (do
      raiseIf (x .prelude)
      if a.refused then pure (.forward none) else handleRequest x a entry now) s := captured_admit h hkey hdevice
  unfold handleConnection handleTlsDecryptedRequest
  rcases hadmit with ⟨hcaptures, hends⟩ | ⟨hcaptures, r, hends, hnone⟩
  · cases hreturns : returnsKey x a with
    | true =>
      rw [hreturns, insertRow_of_returnsKey hreturns] at hends
      refine hends.attempt.bind_leaves fun s h => ?_
      refine Leaves.bind ?_ fun _ s h => leaves_raiseIf _ h
      refine (leavesOrphan_tlsListenerResult h).mono fun s hleaves => ?_
      simpa [settled, hcaptures, hreturns] using hleaves
    | false =>
      rw [hreturns] at hends
      refine hends.attempt.bind_leaves fun s h => ?_
      refine Leaves.bind ?_ fun _ s h => leaves_raiseIf _ h
      exact leaves_pure (leavesOrphan_of_not_returnsKey _ hcaptures hreturns h)
  · refine Leaves.mono (P := At deviceId key false false) ?_ fun s h => leavesOrphan_of_not_captures _ hcaptures h
    refine hends.attempt.bind_leaves fun s h => ?_
    refine Leaves.bind ?_ fun _ s h => leaves_raiseIf _ h
    unfold tlsListenerResult
    split
    next key' => cases hnone _ rfl
    next => exact leaves_pure h

/-- **The handler of the protocol servers.** -/
theorem leavesOrphan_handleProtocolRequest (h : At deviceId key false false s) (hkey : entry.correlationKey = key)
    (hdevice : entry.deviceId = deviceId) :
    Leaves (handleProtocolRequest x a entry now) s (LeavesOrphan deviceId key (!settled x a .protocolServer)) := by
  have hadmit : Captured deviceId key _ _ _ (do
      raiseIf (x .prelude)
      if a.refused then pure (.forward none) else handleRequest x a entry now) s := captured_admit h hkey hdevice
  unfold handleProtocolRequest
  rcases hadmit with ⟨hcaptures, hends⟩ | ⟨hcaptures, r, hends, hnone⟩
  · refine hends.leaves.attempt.mono fun s h => ⟨true, _, h, ?_⟩
    simp [settled, settles, hcaptures]
  · exact hends.leaves.attempt.mono fun s h => leavesOrphan_of_not_captures _ hcaptures h

/-- **What a handling leaves of its capture.** -/
theorem leavesOrphan_handled (ingress : IngressKind) (h : At deviceId key false false s)
    (hkey : entry.correlationKey = key) (hdevice : entry.deviceId = deviceId) :
    LeavesOrphan deviceId key (!settled x a ingress) (handled x a deviceId ingress entry resp pairTtlHours now s) := by
  cases ingress with
  | proxyRoute => exact leavesOrphan_proxyVendorRequest h hkey hdevice
  | tlsListener => exact leavesOrphan_handleConnection h hkey hdevice
  | protocolServer => exact leavesOrphan_handleProtocolRequest h hkey hdevice

end

/-- **A handling leaves no orphan capture exactly when** it captures nothing, or its caller gets the key of
    the capture and settles it. -/
theorem noOrphan_iff_settled (x : Await → Bool) (a : Answers) (ingress : IngressKind) (entry : Entry)
    (resp : Response) (pairTtlHours now : Int) (s : Copies) (hfresh : Fresh entry.correlationKey s) :
    NoOrphan entry.correlationKey (handled x a entry.deviceId ingress entry resp pairTtlHours now s) ↔
      settled x a ingress = true := by
  have hleaves : LeavesOrphan _ _ _ (handled x a entry.deviceId ingress entry resp pairTtlHours now s) :=
    leavesOrphan_handled ingress hfresh.at rfl rfl
  rw [hleaves.noOrphan_iff, Bool.not_eq_false']

/-- Nothing raises. -/
def noFaults : Await → Bool := fun _ => false

/-- A learning device whose requests are let through and answered by the cloud. -/
def learningDevice : Answers := ⟨false, some .learning, false, false, false, true⟩

/-- A request of device `d`. -/
def capturedEntry : Entry :=
  ⟨"d:GET:/a:0", "d", "v", "http", "GET", "/a", .obj [], .null, .obj [], none, 0⟩

/-- The upstream's response. -/
def upstreamResponse : Response := ⟨"v", "http", 200, .obj [], .null⟩

theorem proxyRoute_noOrphan :
    NoOrphan "d:GET:/a:0" (handled noFaults learningDevice "d" .proxyRoute capturedEntry upstreamResponse 1 0 ⟨[], []⟩) :=
  (noOrphan_iff_settled noFaults learningDevice .proxyRoute capturedEntry upstreamResponse 1 0 ⟨[], []⟩
    ⟨by simp, by simp⟩).mpr (by decide)

/-- **The law fails in general**: a protocol server drops the result of a forwarded request, and with it the
    key of the capture. -/
theorem protocolServer_orphan :
    ¬ ∀ (x : Await → Bool) (a : Answers) (ingress : IngressKind) (entry : Entry) (resp : Response)
      (pairTtlHours now : Int) (s : Copies), Fresh entry.correlationKey s →
        NoOrphan entry.correlationKey (handled x a entry.deviceId ingress entry resp pairTtlHours now s) := by
  intro h
  have hclean := h noFaults learningDevice .protocolServer capturedEntry upstreamResponse 1 0 ⟨[], []⟩
    ⟨by simp, by simp⟩
  exact hclean.1 capturedEntry List.mem_cons_self rfl

end RideTheApi.Ingress
