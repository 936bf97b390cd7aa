import RideTheApi.Lib.Backlog
import RideTheApi.Tls.Outgoing

/-!
# `Tls.OutgoingSafety` — when TLS output reaches the client whole

Each drain takes a fixed number of bytes and nothing checks that the BIO is empty after it, so the code waits or
finishes with the rest still queued. The bytes left at an attempt are a backlog, and what the trace hands over is right
exactly when the backlog at every wait and at the end fits the drain.
-/

namespace RideTheApi.Tls

open Py Backlog

/-! ## What a trace hands over -/

def Event.queuedBytes : Event → Bytes
  | .queued bs => bs
  | _          => []

def Event.handedBytes : Event → Bytes
  | .handed bs => bs
  | _          => []

/-- A wait for the client, or the end. -/
def Event.stops : Event → Bool
  | .waits    => true
  | .finishes => true
  | _         => false

def queuedBytes (events : List Event) : Bytes := events.flatMap Event.queuedBytes

def handedBytes (events : List Event) : Bytes := events.flatMap Event.handedBytes

/-- From a BIO that holds `pending`: at every stop all that was queued has been handed over, in order. -/
def DeliversFrom (pending : Bytes) (events : List Event) : Prop :=
  ∀ before stop after, events = before ++ stop :: after → stop.stops = true →
    handedBytes before = pending ++ queuedBytes before

/-- At every stop all that was queued has been handed over, in order. -/
def HandsOver (events : List Event) : Prop :=
  ∀ before stop after, events = before ++ stop :: after → stop.stops = true →
    handedBytes before = queuedBytes before

theorem handsOver_iff {events : List Event} : HandsOver events ↔ DeliversFrom [] events := Iff.rfl

theorem deliversFrom_nil (pending : Bytes) : DeliversFrom pending [] := by
  intro before stop after h
  simp at h

theorem deliversFrom_cons {pending : Bytes} {e : Event} {events : List Event} :
    DeliversFrom pending (e :: events) ↔ (e.stops = true → pending = []) ∧
      ∀ before stop after, events = before ++ stop :: after → stop.stops = true →
        e.handedBytes ++ handedBytes before = pending ++ (e.queuedBytes ++ queuedBytes before) := by
  constructor
  · intro h
    refine ⟨fun hstop => ?_, fun before stop after hevents hstop => ?_⟩
    · simpa [handedBytes, queuedBytes, eq_comm] using h [] e events rfl hstop
    · exact h (e :: before) stop after (by rw [hevents, List.cons_append]) hstop
  · rintro ⟨hhead, htail⟩ before stop after hevents hstop
    cases before with
    | nil =>
      obtain ⟨rfl, rfl⟩ := List.cons.inj hevents
      rw [hhead hstop]
      rfl
    | cons e' before =>
      obtain ⟨rfl, hrest⟩ := List.cons.inj hevents
      exact htail before stop after hrest hstop

theorem deliversFrom_queued {pending bs : Bytes} {events : List Event} :
    DeliversFrom pending (.queued bs :: events) ↔ DeliversFrom (pending ++ bs) events := by
  rw [deliversFrom_cons]
  simp [Event.stops, Event.handedBytes, Event.queuedBytes, DeliversFrom]

theorem deliversFrom_handed {pending : Bytes} {n : Nat} {events : List Event} :
    DeliversFrom pending (.handed (pending.take n) :: events) ↔ DeliversFrom (pending.drop n) events := by
  have hsplit : ∀ xs ys : Bytes, pending.take n ++ xs = pending ++ ys ↔ xs = pending.drop n ++ ys := by
    intro xs ys
    have hpending : pending ++ ys = pending.take n ++ (pending.drop n ++ ys) := by
      rw [← List.append_assoc, List.take_append_drop]
    rw [hpending, List.append_cancel_left_eq]
  rw [deliversFrom_cons]
  simp [Event.stops, Event.handedBytes, Event.queuedBytes, DeliversFrom, hsplit]

theorem deliversFrom_stop {pending : Bytes} {e : Event} (he : e = .waits ∨ e = .finishes) {events : List Event} :
    DeliversFrom pending (e :: events) ↔ pending = [] ∧ DeliversFrom pending events := by
  rw [deliversFrom_cons]
  rcases he with rfl | rfl <;> simp [Event.stops, Event.handedBytes, Event.queuedBytes, DeliversFrom]

theorem deliversFrom_flush {n : Nat} {drains : Bool} {pending : Bytes} {events : List Event} :
    DeliversFrom pending ((flush n drains pending).1 ++ events) ↔ DeliversFrom (pending.drop n) events := by
  unfold flush
  split_ifs with h
  · rw [h, List.drop_nil]
    rfl
  · exact deliversFrom_handed

theorem flush_pending (n : Nat) (drains : Bool) (pending : Bytes) : (flush n drains pending).2.1 = pending.drop n := by
  unfold flush
  split_ifs with h
  · rw [h, List.drop_nil]
  · rfl

theorem flush_returns {n : Nat} {drains : Bool} {pending : Bytes} :
    (flush n drains pending).2.2 = true ↔ drains = true ∨ pending = [] := by
  unfold flush
  split_ifs with h
  · simp [h]
  · simp [h]

/-! ## The condition -/

/-- What the drain after the response takes. -/
def Response.room (response : Response) : Nat := if response.raises then 0 else responseDrain

namespace Connection

variable (c : Connection)

/-- The bytes attempt `i` queues. -/
def size (i : Nat) : Nat := (c.attempts i).queued.length

/-- Up to attempt `k`, no stretch of attempts queues more than the drains before `k` take, and `room`. -/
def Fits (k room : Nat) : Prop :=
  ∀ j ≤ k, ∑ i ∈ Finset.Icc j k, c.size i ≤ handshakeDrain * (k - j) + room

/-- The drain at attempt `k` is called and does not return. -/
def Lost (k : Nat) : Prop := (c.attempts k).drains = false ∧ ¬c.Fits k 0

/-- The loop goes on after attempt `k`. -/
def GoesOn (k : Nat) : Prop :=
  ((c.attempts k).outcome = .wantRead true ∨ (c.attempts k).outcome = .wantWrite) ∧ ¬c.Lost k

/-- The loop comes to attempt `k`. -/
def Reaches (k : Nat) : Prop := k < maxAttempts ∧ ∀ i < k, c.GoesOn i

/-- What is left when the handshake is done at attempt `k` is taken before the code stops: by the drain of the attempt,
    or by the one after the response where the request is there and is answered. -/
def AnswerFits (k : Nat) : Prop :=
  match c.response with
  | none          => c.Fits k handshakeDrain
  | some response =>
    response.queued.length ≤ response.room ∧ (c.requestWaits = true → c.Fits k handshakeDrain) ∧
      c.Fits k (handshakeDrain + (response.room - response.queued.length))

/-- Where the loop waits or ends at attempt `k`, the drains up to `k` take all there is. -/
def AttemptFits (k : Nat) : Prop :=
  match (c.attempts k).outcome with
  | .failed     => c.Fits k 0
  | .wantRead _ => c.Fits k handshakeDrain
  | .wantWrite  => c.Lost k ∨ k + 1 = maxAttempts → c.Fits k handshakeDrain
  | .done       => (c.Lost k → c.Fits k handshakeDrain) ∧ (¬c.Lost k → c.AnswerFits k)

/-- Where the loop waits or ends at an attempt it comes to, the drains take all there is. -/
def OutputFits : Prop := ∀ k, c.Reaches k → c.AttemptFits k

/-! ## A connection from an attempt on -/

theorem fits_iff (k room : Nat) : c.Fits k room ↔ backlog handshakeDrain c.size k ≤ room :=
  (backlog_le_iff k room).symm

/-- The connection from attempt `k` on. -/
def runFrom (left k : Nat) (pending : Bytes) : List Event :=
  match pumpTlsHandshake c.attempts left k pending with
  | (events, none)         => events ++ [.finishes]
  | (events, some pending) => events ++ c.answer pending

/-- What comes after the drain of attempt `k`. -/
def afterDrain (left k : Nat) (returned : Bool) (pending : Bytes) : List Event :=
  match (c.attempts k).outcome, returned with
  | .done, true           => c.answer pending
  | .wantRead true, true  => .waits :: c.runFrom left (k + 1) pending
  | .wantRead false, true => [.waits, .finishes]
  | .wantWrite, true      => c.runFrom left (k + 1) pending
  | _, _                  => [.finishes]

theorem runFrom_zero (k : Nat) (pending : Bytes) : c.runFrom 0 k pending = [.finishes] := rfl

theorem runFrom_failed {left k : Nat} (pending : Bytes) (h : (c.attempts k).outcome = .failed) :
    c.runFrom (left + 1) k pending = [.queued (c.attempts k).queued, .finishes] := by
  simp [runFrom, pumpTlsHandshake, h]

theorem runFrom_succ {left k : Nat} (pending : Bytes) (h : (c.attempts k).outcome ≠ .failed) :
    c.runFrom (left + 1) k pending = .queued (c.attempts k).queued ::
      ((flush handshakeDrain (c.attempts k).drains (pending ++ (c.attempts k).queued)).1 ++
        c.afterDrain left k (flush handshakeDrain (c.attempts k).drains (pending ++ (c.attempts k).queued)).2.2
          ((pending ++ (c.attempts k).queued).drop handshakeDrain)) := by
  have hdrop := flush_pending handshakeDrain (c.attempts k).drains (pending ++ (c.attempts k).queued)
  generalize hflush : flush handshakeDrain (c.attempts k).drains (pending ++ (c.attempts k).queued) = flushed at hdrop
  obtain ⟨events, rest, returned⟩ := flushed
  obtain rfl := hdrop
  unfold runFrom
  rw [pumpTlsHandshake]
  simp only [hflush]
  cases houtcome : (c.attempts k).outcome with
  | failed => exact absurd houtcome h
  | done => cases returned <;> simp [afterDrain, houtcome]
  | wantRead more =>
    cases returned with
    | false => simp [afterDrain, houtcome]
    | true =>
      cases more with
      | false => simp [afterDrain, houtcome]
      | true =>
        simp only [afterDrain, houtcome, runFrom, if_true]
        cases pumpTlsHandshake c.attempts left (k + 1) _ with
        | mk events' result => cases result <;> simp
  | wantWrite =>
    cases returned with
    | false => simp [afterDrain, houtcome]
    | true =>
      simp only [afterDrain, houtcome, runFrom, if_true]
      cases pumpTlsHandshake c.attempts left (k + 1) _ with
      | mk events' result => cases result <;> simp

theorem deliversFrom_finishes (pending : Bytes) : DeliversFrom pending [.finishes] ↔ pending = [] := by
  rw [deliversFrom_stop (.inr rfl)]
  exact and_iff_left (deliversFrom_nil _)

theorem deliversFrom_response (response : Response) (pending : Bytes) :
    DeliversFrom pending (writeHttpResponse response pending ++ [.finishes]) ↔
      pending.length + response.queued.length ≤ response.room := by
  unfold writeHttpResponse Response.room
  rw [List.cons_append, deliversFrom_queued]
  by_cases hraises : response.raises = true
  · rw [if_pos hraises, if_pos hraises, List.nil_append, deliversFrom_finishes, ← List.length_eq_zero_iff,
      List.length_append]
    omega
  · rw [if_neg hraises, if_neg hraises, deliversFrom_flush, deliversFrom_finishes, List.drop_eq_nil_iff,
      List.length_append]

/-- What is left after the drain of attempt `k` is nothing just when the drain takes all there is. -/
theorem drop_eq_nil_iff {k : Nat} {pending : Bytes} (hpending : pending.length = backlog handshakeDrain c.size k) :
    pending.drop handshakeDrain = [] ↔ c.Fits k handshakeDrain := by
  rw [List.drop_eq_nil_iff, hpending, fits_iff]

theorem deliversFrom_answer {k : Nat} {pending : Bytes} (hpending : pending.length = backlog handshakeDrain c.size k) :
    DeliversFrom (pending.drop handshakeDrain) (c.answer (pending.drop handshakeDrain)) ↔ c.AnswerFits k := by
  have hnil := c.drop_eq_nil_iff hpending
  have hlen : (pending.drop handshakeDrain).length = backlog handshakeDrain c.size k - handshakeDrain := by
    rw [List.length_drop, hpending]
  have hwaits : ∀ events, DeliversFrom (pending.drop handshakeDrain)
      ((if c.requestWaits then [Event.waits] else []) ++ events) ↔
        (c.requestWaits = true → c.Fits k handshakeDrain) ∧
          DeliversFrom (pending.drop handshakeDrain) events := by
    intro events
    by_cases hrequest : c.requestWaits = true
    · rw [if_pos hrequest, List.singleton_append, deliversFrom_stop (.inl rfl), hnil]
      simp [hrequest]
    · rw [if_neg hrequest]
      simp [hrequest]
  unfold answer AnswerFits
  cases hresponse : c.response with
  | none =>
    simp only [List.append_nil]
    rw [hwaits, deliversFrom_finishes, hnil]
    exact ⟨fun h => h.2, fun h => ⟨fun _ => h, h⟩⟩
  | some response =>
    simp only
    rw [List.append_assoc, hwaits, deliversFrom_response, fits_iff c k (_ + _), hlen]
    constructor
    · rintro ⟨hrequest, hroom⟩
      exact ⟨by omega, hrequest, by omega⟩
    · rintro ⟨hqueued, hrequest, hroom⟩
      exact ⟨hrequest, by omega⟩

theorem flush_returns_iff {k : Nat} {pending : Bytes} (hpending : pending.length = backlog handshakeDrain c.size k) :
    (flush handshakeDrain (c.attempts k).drains pending).2.2 = true ↔ ¬c.Lost k := by
  rw [flush_returns]
  unfold Lost
  rw [fits_iff, ← hpending, Nat.le_zero, List.length_eq_zero_iff]
  cases (c.attempts k).drains <;> simp

/-- Attempt by attempt: the trace from attempt `k` on delivers just when every attempt the loop comes to fits. -/
theorem deliversFrom_runFrom {left k : Nat} {pending : Bytes} (hleft : left + k = maxAttempts)
    (hpending : pending.length + c.size k = backlog handshakeDrain c.size k) :
    DeliversFrom pending (c.runFrom left k pending) ↔ (left = 0 → pending = []) ∧
      ∀ i, k ≤ i → i < maxAttempts → (∀ j, k ≤ j → j < i → c.GoesOn j) → c.AttemptFits i := by
  induction left generalizing k pending with
  | zero =>
    rw [runFrom_zero, deliversFrom_finishes]
    constructor
    · intro h
      exact ⟨fun _ => h, fun i hi hlt _ => by omega⟩
    · intro h
      exact h.1 rfl
  | succ left ih =>
    have hk : k < maxAttempts := by omega
    -- Attempt `k` comes first; the later ones matter where the loop goes on.
    have hsplit : (∀ i, k ≤ i → i < maxAttempts → (∀ j, k ≤ j → j < i → c.GoesOn j) → c.AttemptFits i) ↔
        c.AttemptFits k ∧ (c.GoesOn k →
          ∀ i, k + 1 ≤ i → i < maxAttempts → (∀ j, k + 1 ≤ j → j < i → c.GoesOn j) → c.AttemptFits i) := by
      constructor
      · intro h
        refine ⟨h k (Nat.le_refl _) hk (fun j hj hlt => by omega), fun hgoes i hi hlt hall => ?_⟩
        refine h i (by omega) hlt (fun j hj hlt' => ?_)
        rcases Nat.eq_or_lt_of_le hj with rfl | hj'
        · exact hgoes
        · exact hall j hj' hlt'
      · rintro ⟨hfits, hrest⟩ i hi hlt hall
        rcases Nat.eq_or_lt_of_le hi with rfl | hi'
        · exact hfits
        · exact hrest (hall k (Nat.le_refl _) hi') i hi' hlt (fun j hj => hall j (by omega))
    have hlength : (pending ++ (c.attempts k).queued).length = backlog handshakeDrain c.size k := by
      rw [List.length_append]
      exact hpending
    have hnil := c.drop_eq_nil_iff hlength
    rw [hsplit]
    simp only [Nat.add_one_ne_zero, false_implies, true_and]
    -- a failed attempt flushes nothing, and ends the connection
    by_cases hfailed : (c.attempts k).outcome = .failed
    · have hstay : ¬c.GoesOn k := by
        rintro ⟨h | h, -⟩ <;> simp [hfailed] at h
      rw [runFrom_failed c pending hfailed, deliversFrom_queued, deliversFrom_finishes]
      simp only [AttemptFits, hfailed, hstay, false_implies, and_true]
      rw [fits_iff, ← hlength, Nat.le_zero, List.length_eq_zero_iff]
    · rw [runFrom_succ c pending hfailed, deliversFrom_queued, deliversFrom_flush]
      have hnext : ((pending ++ (c.attempts k).queued).drop handshakeDrain).length + c.size (k + 1) =
          backlog handshakeDrain c.size (k + 1) := by
        rw [List.length_drop, hlength, backlog_succ]
      have hrest := ih (k := k + 1) (by omega) hnext
      have hlast : left = 0 ↔ k + 1 = maxAttempts := by omega
      -- a flush that is lost ends the connection too
      by_cases hlost : c.Lost k
      · have hreturned : (flush handshakeDrain (c.attempts k).drains (pending ++ (c.attempts k).queued)).2.2 = false := by
          rw [Bool.eq_false_iff]
          exact fun h => (c.flush_returns_iff hlength).mp h hlost
        have hstay : ¬c.GoesOn k := fun h => h.2 hlost
        have hafter : c.afterDrain left k false ((pending ++ (c.attempts k).queued).drop handshakeDrain) =
            [.finishes] := by
          unfold afterDrain
          cases (c.attempts k).outcome with
          | wantRead more => cases more <;> rfl
          | done => rfl
          | wantWrite => rfl
          | failed => rfl
        rw [hreturned, hafter, deliversFrom_finishes, hnil]
        unfold AttemptFits
        cases houtcome : (c.attempts k).outcome with
        | failed => exact absurd houtcome hfailed
        | done => simp [hlost, hstay]
        | wantRead more => simp [hstay]
        | wantWrite => simp [hlost, hstay]
      · have hreturned := (c.flush_returns_iff hlength).mpr hlost
        rw [hreturned]
        unfold AttemptFits afterDrain
        cases houtcome : (c.attempts k).outcome with
        | failed => exact absurd houtcome hfailed
        | done =>
          have hstay : ¬c.GoesOn k := by
            rintro ⟨h | h, -⟩ <;> simp [houtcome] at h
          simp only [hlost, hstay, false_implies, not_false_eq_true, true_implies, true_and, and_true]
          exact c.deliversFrom_answer hlength
        | wantRead more =>
          cases more with
          | false =>
            have hstay : ¬c.GoesOn k := by
              rintro ⟨h | h, -⟩ <;> simp [houtcome] at h
            simp only [hstay, false_implies, and_true]
            rw [deliversFrom_stop (.inl rfl), deliversFrom_finishes, hnil, and_self]
          | true =>
            have hgoes : c.GoesOn k := ⟨.inl houtcome, hlost⟩
            simp only [hgoes, true_implies]
            rw [deliversFrom_stop (.inl rfl), hrest, hnil]
            constructor
            · rintro ⟨hfits, -, hall⟩
              exact ⟨hfits, hall⟩
            · rintro ⟨hfits, hall⟩
              exact ⟨hfits, fun _ => hfits, hall⟩
        | wantWrite =>
          have hgoes : c.GoesOn k := ⟨.inr houtcome, hlost⟩
          simp only [hgoes, hlost, true_implies, false_or]
          rw [hrest, hlast, hnil]
          exact Iff.rfl

/-- From the start. -/
theorem deliversFrom_run : DeliversFrom [] c.run ↔ c.OutputFits := by
  have hstart : ([] : Bytes).length + c.size 0 = backlog handshakeDrain c.size 0 := Nat.zero_add _
  show DeliversFrom [] (c.runFrom maxAttempts 0 []) ↔ _
  rw [deliversFrom_runFrom c (Nat.add_zero _) hstart]
  constructor
  · rintro ⟨-, h⟩ k ⟨hk, hgoes⟩
    exact h k (Nat.zero_le _) hk (fun j _ => hgoes j)
  · intro h
    exact ⟨fun _ => rfl, fun i _ hi hall => h i ⟨hi, fun j hj => hall j (Nat.zero_le _) hj⟩⟩

/-- All TLS output is handed over before every wait and before the end just when, wherever the loop waits or ends, the
    drains so far take what has been queued. -/
theorem run_handsOver_iff : HandsOver c.run ↔ c.OutputFits := c.deliversFrom_run

end Connection

/-- The server's first flight is 5000 bytes, as with a chain of certificates. -/
def longFlight : Connection where
  attempts := fun k =>
    if k = 0 then { queued := List.replicate 5000 0, outcome := .wantRead true, drains := true }
    else { queued := [], outcome := .done, drains := true }
  requestWaits := true
  response := none

/-- The code waits for the client with 904 bytes of the flight still in the BIO. -/
theorem not_handsOver_longFlight : ¬ ∀ c : Connection, HandsOver c.run := by
  intro hall
  have hfits := longFlight.deliversFrom_run.mp (hall longFlight) 0 ⟨by decide, fun i hi => absurd hi (Nat.not_lt_zero i)⟩
  have hflight : longFlight.Fits 0 handshakeDrain := hfits
  have hsize : longFlight.size 0 = 5000 := List.length_replicate
  rw [Connection.fits_iff] at hflight
  change longFlight.size 0 ≤ handshakeDrain at hflight
  rw [hsize] at hflight
  exact absurd hflight (by decide)

end RideTheApi.Tls
