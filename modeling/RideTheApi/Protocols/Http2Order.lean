import RideTheApi.Protocols.Http2

/-!
# `Protocols.Http2Order` — responses in order

What is sent on a stream is a part of its response in order, whatever the client does, and what is queued is the rest
(`Sound`). What `_send_queued` leaves has no room, and its loops end.
-/

namespace RideTheApi.Http2

open Py

variable {H : H2} {c c' c'' : H.Conn} {s t : StreamId} {gone gone' : StreamId → Prop} {frames frames' : List Sent}

/-! ## Operations of the connection -/

theorem call_ok_iff {α : Type} {x : Except H2Error α} {a : α} : call x = .ok a ↔ x = .ok a := by
  unfold call
  cases x <;> simp [Except.mapError]

theorem call_closed_iff {α : Type} {x : Except H2Error α} : call x = .error (.h2 .streamClosed) ↔ x = .error .streamClosed := by
  unfold call
  cases x <;> simp [Except.mapError]

theorem call_ne_diverges {α : Type} {x : Except H2Error α} : call x ≠ .error .diverges := by
  unfold call
  cases x <;> simp [Except.mapError]

theorem Sends.refl (c : H.Conn) : Sends H c [] (fun _ => False) c where
  sent := (List.append_nil _).symm
  opened _ := Iff.rfl
  sendable _ h _ := h
  window _ w h := ⟨w, le_refl w, h⟩
  frameSize := rfl

theorem Sends.trans (h : Sends H c frames gone c') (h' : Sends H c' frames' gone' c'') :
    Sends H c (frames ++ frames') (fun t => gone t ∨ gone' t) c'' where
  sent := by rw [h'.sent, h.sent, List.append_assoc]
  opened t := (h'.opened t).trans (h.opened t)
  sendable t ht hgone := by
    push Not at hgone
    exact h'.sendable t (h.sendable t ht hgone.1) hgone.2
  window t w hw := by
    obtain ⟨w₁, hle₁, hw₁⟩ := h.window t w hw
    obtain ⟨w₂, hle₂, hw₂⟩ := h'.window t w₁ hw₁
    exact ⟨w₂, hle₂.trans hle₁, hw₂⟩
  frameSize := h'.frameSize.trans h.frameSize

theorem Sends.mono (h : Sends H c frames gone c') (hle : ∀ t, gone t → gone' t) : Sends H c frames gone' c' :=
  { h with sendable := fun t ht hgone => h.sendable t ht (mt (hle t) hgone) }

theorem noRoom_iff :
    noRoom H c s = true ↔ ∃ w, H.localFlowControlWindow c s = .ok w ∧ min w (H.maxOutboundFrameSize c) ≤ 0 := by
  unfold noRoom
  cases H.localFlowControlWindow c s <;> simp

/-- A send makes no room. -/
theorem Sends.noRoom (h : Sends H c frames gone c') (hs : noRoom H c s = true) : noRoom H c' s = true := by
  obtain ⟨w, hw, hroom⟩ := noRoom_iff.mp hs
  obtain ⟨w', hle, hw'⟩ := h.window s w hw
  refine noRoom_iff.mpr ⟨w', hw', ?_⟩
  rw [h.frameSize]
  omega

theorem onStream_sends (h : Sends H c frames gone c') (s : StreamId) :
    onStream H s c' = onStream H s c ++ frames.filter (·.stream = s) := by
  unfold onStream
  rw [h.sent, List.filter_append]

/-- On another stream nothing is sent. -/
theorem onStream_other (h : Sends H c frames gone c') (hframes : ∀ f ∈ frames, f.stream = s) (hne : t ≠ s) :
    onStream H t c' = onStream H t c := by
  rw [onStream_sends h, List.filter_eq_nil_iff.mpr, List.append_nil]
  intro f hf
  simp [hframes f hf, hne.symm]

theorem onStream_same (h : Sends H c frames gone c') (hframes : ∀ f ∈ frames, f.stream = s) :
    onStream H s c' = onStream H s c ++ frames := by
  rw [onStream_sends h, List.filter_eq_self.mpr]
  intro f hf
  simp [hframes f hf]

/-! ## Parts of a response -/

@[simp] theorem bytesOf_nil : bytesOf [] = [] := rfl

@[simp] theorem bytesOf_append (fs gs : List Sent) : bytesOf (fs ++ gs) = bytesOf fs ++ bytesOf gs := List.flatMap_append

/-- No frame marks the end. -/
def Open (frames : List Sent) : Prop := ∀ f ∈ frames, f.fin = false

theorem Open.append (h : Open frames) (h' : Open frames') : Open (frames ++ frames') := by
  intro f hf
  rcases List.mem_append.mp hf with hf | hf
  · exact h f hf
  · exact h' f hf

/-- What was sent of a response, and what is left of it. -/
inductive Progress (payload : Bytes) : List Sent → Bytes → Prop where
  | unfinished {frames : List Sent} {rest : Bytes} (hbytes : bytesOf frames ++ rest = payload) (hopen : Open frames) :
      Progress payload frames rest
  | finished {frames : List Sent} {f : Sent} (hbytes : bytesOf (frames ++ [f]) = payload) (hopen : Open frames) :
      Progress payload (frames ++ [f]) []

/-- What was sent is in order. -/
theorem Progress.inOrder {payload rest : Bytes} (h : Progress payload frames rest) : InOrder payload frames := by
  cases h with
  | unfinished hbytes hopen =>
    refine ⟨⟨rest, hbytes⟩, ?_, ?_⟩
    · rw [List.filter_eq_nil_iff.mpr fun f hf => by simp [hopen f hf]]
      exact Nat.zero_le 1
    · rintro before f after rfl hf
      rw [hopen f (by simp)] at hf
      cases hf
  | @finished frames g hbytes hopen =>
    refine ⟨⟨[], by rw [hbytes, List.append_nil]⟩, ?_, ?_⟩
    · rw [List.filter_append, List.filter_eq_nil_iff.mpr fun f hf => by simp [hopen f hf]]
      exact List.length_filter_le _ _
    · intro before f after heq hf
      refine ⟨?_, hbytes⟩
      -- a frame in front of the last one is one of the open ones
      rcases List.eq_nil_or_concat after with rfl | ⟨after, g', rfl⟩
      · rfl
      · have hfront : frames = before ++ f :: after := by
          have heq' : frames ++ [g] = (before ++ f :: after) ++ [g'] := by simpa using heq
          exact (List.append_inj' heq' rfl).1
        rw [hopen f (by simp [hfront])] at hf
        cases hf

/-- While something is left, the end is not marked. -/
theorem Progress.left {payload rest : Bytes} (h : Progress payload frames rest) (hrest : rest ≠ []) :
    bytesOf frames ++ rest = payload ∧ Open frames := by
  cases h with
  | unfinished hbytes hopen => exact ⟨hbytes, hopen⟩
  | finished _ _ => exact absurd rfl hrest

/-! ## The drain loop -/

theorem drain_nil {fuel : Nat} {rest : Bytes} (h : drain H fuel c s [] = .ok (c', rest)) : c' = c ∧ rest = [] := by
  cases fuel with
  | zero => cases h
  | succ fuel =>
    rw [drain, if_pos rfl] at h
    cases h
    exact ⟨rfl, rfl⟩

/-- One turn of the loop that sends. -/
theorem drain_error {fuel : Nat} {data : Bytes} {e : Stop} (h : drain H (fuel + 1) c s data = .error e) :
    call (H.localFlowControlWindow c s) = .error e ∨
    ∃ window, H.localFlowControlWindow c s = .ok window ∧ 0 < min window (H.maxOutboundFrameSize c) ∧
      (call (H.sendData c s (data.take (min window (H.maxOutboundFrameSize c)).toNat)
        (data.drop (min window (H.maxOutboundFrameSize c)).toNat).isEmpty) = .error e ∨
      ∃ c₁, H.sendData c s (data.take (min window (H.maxOutboundFrameSize c)).toNat)
          (data.drop (min window (H.maxOutboundFrameSize c)).toNat).isEmpty = .ok c₁ ∧
        drain H fuel c₁ s (data.drop (min window (H.maxOutboundFrameSize c)).toNat) = .error e) := by
  rw [drain] at h
  split at h
  · cases h
  · rcases Except.bind_error_iff.mp h with h | ⟨window, hwindow, h⟩
    · exact .inl h
    · refine .inr ⟨window, call_ok_iff.mp hwindow, ?_⟩
      dsimp only at h
      split at h
      · cases h
      · rename_i hroom
        refine ⟨by omega, ?_⟩
        rcases Except.bind_error_iff.mp h with h | ⟨c₁, hsend, h⟩
        · exact .inl h
        · exact .inr ⟨c₁, call_ok_iff.mp hsend, h⟩

/-- **The loop ends**: every turn sends something. -/
theorem drain_ends {fuel : Nat} {data : Bytes} (hfuel : data.length < fuel) : drain H fuel c s data ≠ .error .diverges := by
  induction fuel generalizing c data with
  | zero => omega
  | succ fuel ih =>
    intro h
    by_cases hdata : data = []
    · rw [drain, if_pos hdata] at h
      cases h
    · rcases drain_error h with h | ⟨window, -, hroom, h | ⟨c₁, -, h⟩⟩
      · exact call_ne_diverges h
      · exact call_ne_diverges h
      · refine ih ?_ h
        have hpos : 0 < data.length := List.length_pos_iff.mpr hdata
        rw [List.length_drop]
        omega

/-- Where the stream may be sent on, or has no room, nothing is refused. -/
theorem drain_not_closed (hH : Laws H) {fuel : Nat} {data : Bytes} (hs : H.sendable c s ∨ noRoom H c s = true) :
    drain H fuel c s data ≠ .error (.h2 .streamClosed) := by
  induction fuel generalizing c data with
  | zero => exact nofun
  | succ fuel ih =>
    intro h
    rcases drain_error h with h | ⟨window, hwindow, hroom, h⟩
    · rcases hs with hs | hs
      · rw [hH.window hs] at h
        cases h
      · obtain ⟨w, hw, -⟩ := noRoom_iff.mp hs
        rw [hw] at h
        cases h
    · have hsendable : H.sendable c s := by
        rcases hs with hs | hs
        · exact hs
        · obtain ⟨w, hw, hnone⟩ := noRoom_iff.mp hs
          rw [hwindow] at hw
          cases hw
          omega
      rcases h with h | ⟨c₁, hsend, h⟩
      · exact hH.dataClosed (call_closed_iff.mp h) hsendable
      · cases hrest : data.drop (min window (H.maxOutboundFrameSize c)).toNat with
        | nil =>
          rw [hrest] at h
          cases fuel with
          | zero => cases h
          | succ fuel => cases h
        | cons b rest =>
          rw [hrest] at hsend h
          refine ih (.inl ?_) h
          exact (hH.sendData hsend).2.sendable s hsendable (by simp)

/-- What the loop sends: of this stream, within the limits, and what is left has no room. -/
theorem drain_sends (hH : Laws H) {fuel : Nat} {payload data rest : Bytes} (h : drain H fuel c s data = .ok (c', rest))
    {before : List Sent} (hbefore : Open before) (hpayload : bytesOf before ++ data = payload) :
    ∃ frames, Sends H c frames (fun t => t = s ∧ rest = []) c' ∧
      (∀ f ∈ frames, f.stream = s ∧ (f.bytes.length : Int) ≤ f.limit) ∧ Progress payload (before ++ frames) rest ∧
      (rest ≠ [] → noRoom H c' s = true) := by
  induction fuel generalizing c data before with
  | zero => cases h
  | succ fuel ih =>
    have hnone : Progress payload (before ++ []) data := by
      rw [List.append_nil]
      exact .unfinished hpayload hbefore
    rw [drain] at h
    split at h
    · rename_i hdata
      cases h
      exact ⟨[], (Sends.refl _).mono nofun, nofun, hnone, fun hne => absurd hdata hne⟩
    · rename_i hdata
      obtain ⟨window, hwindow, h⟩ := Except.bind_ok_iff.mp h
      rw [call_ok_iff] at hwindow
      dsimp only at h
      split at h
      · rename_i hroom
        cases h
        exact ⟨[], (Sends.refl _).mono nofun, nofun, hnone, fun _ => noRoom_iff.mpr ⟨window, hwindow, hroom⟩⟩
      · rename_i hroom
        obtain ⟨c₁, hsend, h⟩ := Except.bind_ok_iff.mp h
        obtain ⟨hsendable, hsends⟩ := hH.sendData (call_ok_iff.mp hsend)
        rw [hH.window hsendable] at hwindow
        cases hwindow
        generalize hroomdef : min (min (H.window c s) (H.connWindow c)) (H.maxOutboundFrameSize c) = room at h hsends hroom
        have hwithin : ((data.take room.toNat).length : Int) ≤ room := by
          rw [List.length_take]
          omega
        cases hrest : data.drop room.toNat with
        | nil =>
          -- the last frame
          rw [hrest] at h hsends
          obtain ⟨rfl, rfl⟩ := drain_nil h
          have htake : data.take room.toNat = data := List.take_of_length_le (List.drop_eq_nil_iff.mp hrest)
          refine ⟨_, hsends.mono fun t ht => ⟨ht.1, rfl⟩, ?_, ?_, fun hne => absurd rfl hne⟩
          · intro f hf
            rw [List.mem_singleton.mp hf]
            exact ⟨rfl, hwithin⟩
          · refine .finished ?_ hbefore
            rw [bytesOf_append, htake]
            simpa [bytesOf] using hpayload
        | cons b rest₁ =>
          rw [hrest] at h hsends
          -- more is left: the frame does not close the stream, and the bytes so far stay a prefix
          have hopen : Open (before ++ [⟨s, data.take room.toNat, (b :: rest₁).isEmpty, room⟩]) := by
            refine hbefore.append ?_
            intro f hf
            rw [List.mem_singleton.mp hf]
            rfl
          have hbytes : bytesOf (before ++ [⟨s, data.take room.toNat, (b :: rest₁).isEmpty, room⟩]) ++ (b :: rest₁) = payload := by
            rw [bytesOf_append, ← hrest, List.append_assoc, ← hpayload]
            simp [bytesOf]
          obtain ⟨frames, hlater, hframes, hprogress, hleft⟩ := ih h hopen hbytes
          refine ⟨_, (hsends.trans hlater).mono ?_, ?_, ?_, hleft⟩
          · rintro t (⟨-, ht⟩ | ht)
            · cases ht
            · exact ht
          · intro f hf
            rcases List.mem_append.mp hf with hf | hf
            · rw [List.mem_singleton.mp hf]
              exact ⟨rfl, hwithin⟩
            · exact hframes f hf
          · rwa [← List.append_assoc]

/-! ## Responses in order -/

/-- The streams that are opened. -/
def requests (events : List Event) : List StreamId :=
  events.filterMap fun e => match e with | .requestReceived s _ => some s | _ => none

theorem mem_requests {events : List Event} : s ∈ requests events ↔ ∃ fin, .requestReceived s fin ∈ events := by
  unfold requests
  rw [List.mem_filterMap]
  constructor
  · rintro ⟨e, he, h⟩
    cases e with
    | requestReceived s' fin =>
      cases h
      exact ⟨fin, he⟩
    | _ => cases h
  · rintro ⟨fin, h⟩
    exact ⟨_, h, rfl⟩

theorem requests_append (events events' : List Event) : requests (events ++ events') = requests events ++ requests events' :=
  List.filterMap_append

/-- Nothing was sent on the stream, and nothing is queued. -/
structure Untouched (srv : Server H) (s : StreamId) : Prop where
  opened : H.opened srv.conn s
  queued : srv.outbox.get? s = none
  unsent : onStream H s srv.conn = []

/-- What was sent is in order and within the limits; what is queued is what is left of a response. -/
structure Sound (reply : StreamId → Reply) (srv : Server H) (events : List Event) : Prop where
  inOrder  : ∀ s, InOrder (reply s).payload (onStream H s srv.conn)
  within   : ∀ f ∈ H.sent srv.conn, (f.bytes.length : Int) ≤ f.limit
  distinct : (requests events).Nodup
  upcoming : ∀ s ∈ requests events, Untouched srv s ∧ srv.pending.get? s = none
  waiting  : ∀ s body, srv.pending.get? s = some body → Untouched srv s
  unopened : ∀ s, ¬ H.opened srv.conn s → onStream H s srv.conn = []
  queued   : ∀ s data, srv.outbox.get? s = some data → H.opened srv.conn s ∧ data ≠ [] ∧
    bytesOf (onStream H s srv.conn) ++ data = (reply s).payload ∧ Open (onStream H s srv.conn)

variable {reply : StreamId → Reply} {srv srv' : Server H} {events : List Event} {e : Event}

theorem Sound.tail (h : Sound reply srv (e :: events)) : Sound reply srv events := by
  have hsub : (requests events).Sublist (requests (e :: events)) := (List.sublist_cons_self e events).filterMap _
  exact { h with
    distinct := h.distinct.sublist hsub
    upcoming := fun s hs => h.upcoming s (hsub.subset hs) }

/-- An operation that sends nothing. -/
theorem Sound.quiet (h : Sound reply srv events) (hsends : Sends H srv.conn [] gone c') :
    Sound reply { srv with conn := c' } events := by
  have hsame (s : StreamId) : onStream H s c' = onStream H s srv.conn := by
    rw [onStream_sends hsends, List.filter_nil, List.append_nil]
  have htouched {s : StreamId} (hs : Untouched srv s) : Untouched { srv with conn := c' } s :=
    ⟨(hsends.opened s).mpr hs.opened, hs.queued, (hsame s).trans hs.unsent⟩
  exact {
    inOrder := fun s => by
      show InOrder _ (onStream H s c')
      rw [hsame]
      exact h.inOrder s
    within := fun f hf => h.within f (by simpa [hsends.sent] using hf)
    distinct := h.distinct
    upcoming := fun s hs => ⟨htouched (h.upcoming s hs).1, (h.upcoming s hs).2⟩
    waiting := fun s body hs => htouched (h.waiting s body hs)
    unopened := fun s hs => (hsame s).trans (h.unopened s (mt (hsends.opened s).mpr hs))
    queued := fun s data hs => by
      obtain ⟨hopened, hne, hbytes, hopen⟩ := h.queued s data hs
      refine ⟨(hsends.opened s).mpr hopened, hne, ?_⟩
      show bytesOf (onStream H s c') ++ data = _ ∧ Open (onStream H s c')
      rw [hsame]
      exact ⟨hbytes, hopen⟩ }

/-- A part of the response is sent on a stream that waits for no request any more. -/
theorem Sound.sends (h : Sound reply srv events) (hsends : Sends H srv.conn frames gone c') (hopened : H.opened srv.conn s)
    (hframes : ∀ f ∈ frames, f.stream = s ∧ (f.bytes.length : Int) ≤ f.limit) (hupcoming : s ∉ requests events)
    (hwaiting : srv.pending.get? s = none) {rest : Bytes} (hprogress : Progress (reply s).payload (onStream H s srv.conn ++ frames) rest)
    {outbox : Dict StreamId Bytes} (hothers : ∀ t ≠ s, outbox.get? t = srv.outbox.get? t)
    (hqueued : outbox.get? s = if rest = [] then none else some rest) :
    Sound reply { srv with conn := c', outbox } events := by
  have hstream : ∀ f ∈ frames, f.stream = s := fun f hf => (hframes f hf).1
  -- the frames are all on `s`: every other stream is as it was
  have hother {t : StreamId} (ht : t ≠ s) : onStream H t c' = onStream H t srv.conn := onStream_other hsends hstream ht
  have hsame : onStream H s c' = onStream H s srv.conn ++ frames := onStream_same hsends hstream
  have htouched {t : StreamId} (ht : t ≠ s) (hu : Untouched srv t) : Untouched { srv with conn := c', outbox } t :=
    ⟨(hsends.opened t).mpr hu.opened, (hothers t ht).trans hu.queued, (hother ht).trans hu.unsent⟩
  exact {
    inOrder := fun t => by
      show InOrder _ (onStream H t c')
      by_cases ht : t = s
      · subst ht
        rw [hsame]
        exact hprogress.inOrder
      · rw [hother ht]
        exact h.inOrder t
    within := fun f hf => by
      have hf' : f ∈ H.sent srv.conn ++ frames := hsends.sent ▸ hf
      rcases List.mem_append.mp hf' with hf' | hf'
      · exact h.within f hf'
      · exact (hframes f hf').2
    distinct := h.distinct
    upcoming := fun t ht => by
      have hne : t ≠ s := by
        rintro rfl
        exact hupcoming ht
      exact ⟨htouched hne (h.upcoming t ht).1, (h.upcoming t ht).2⟩
    waiting := fun t body ht => by
      have hne : t ≠ s := by
        rintro rfl
        rw [hwaiting] at ht
        cases ht
      exact htouched hne (h.waiting t body ht)
    unopened := fun t ht => by
      have ht' : ¬ H.opened srv.conn t := mt (hsends.opened t).mpr ht
      have hne : t ≠ s := by
        rintro rfl
        exact ht' hopened
      exact (hother hne).trans (h.unopened t ht')
    queued := fun t data ht => by
      show H.opened c' t ∧ data ≠ [] ∧ bytesOf (onStream H t c') ++ data = _ ∧ Open (onStream H t c')
      by_cases hne : t = s
      · subst hne
        have hrest : (if rest = [] then none else some rest) = some data := hqueued.symm.trans ht
        split at hrest
        · cases hrest
        · rename_i hne
          cases hrest
          refine ⟨(hsends.opened t).mpr hopened, hne, ?_⟩
          rw [hsame]
          exact hprogress.left hne
      · obtain ⟨hopened', hdata, hrest⟩ := h.queued t data ((hothers t hne).symm.trans ht)
        refine ⟨(hsends.opened t).mpr hopened', hdata, ?_⟩
        rw [hother hne]
        exact hrest }

/-- What one stream of `_send_queued` does. -/
theorem sendQueuedOn_ok (h : sendQueuedOn H srv s = .ok srv') :
    ∃ data c' rest, srv.outbox.get? s = some data ∧ drain H (data.length + 1) srv.conn s data = .ok (c', rest) ∧
      srv' = { srv with conn := c', outbox := if rest = [] then srv.outbox.erase s else srv.outbox.set s rest } := by
  unfold sendQueuedOn at h
  cases hdata : srv.outbox.get? s with
  | none =>
    rw [hdata] at h
    cases h
  | some data =>
    rw [hdata] at h
    obtain ⟨⟨c', rest⟩, hdrain, h⟩ := Except.bind_ok_iff.mp h
    cases h
    exact ⟨data, c', rest, rfl, hdrain, rfl⟩

theorem get?_sent (outbox : Dict StreamId Bytes) (s t : StreamId) (rest : Bytes) :
    (if rest = [] then outbox.erase s else outbox.set s rest).get? t =
      if s = t then if rest = [] then none else some rest else outbox.get? t := by
  split
  · rw [Dict.get?_erase]
  · rw [Dict.get?_set]

theorem Sound.sendQueuedOn (hH : Laws H) (h : Sound reply srv events) (hsend : sendQueuedOn H srv s = .ok srv') :
    Sound reply srv' events := by
  obtain ⟨data, c', rest, hdata, hdrain, rfl⟩ := sendQueuedOn_ok hsend
  obtain ⟨hopened, -, hbytes, hopen⟩ := h.queued s data hdata
  obtain ⟨frames, hsends, hframes, hprogress, -⟩ := drain_sends hH hdrain hopen hbytes
  refine h.sends hsends hopened hframes ?_ ?_ hprogress ?_ ?_
  · intro hs
    have hnone := (h.upcoming s hs).1.queued
    rw [hdata] at hnone
    cases hnone
  · cases hbody : srv.pending.get? s with
    | none => rfl
    | some body =>
      have hnone := (h.waiting s body hbody).queued
      rw [hdata] at hnone
      cases hnone
  · intro t ht
    rw [get?_sent, if_neg ht.symm]
  · rw [get?_sent, if_pos rfl]

/-- **`_send_queued` keeps the responses in order.** -/
theorem Sound.sendQueued (hH : Laws H) (h : Sound reply srv events) (hsend : sendQueued H srv = .ok srv') :
    Sound reply srv' events := by
  unfold RideTheApi.Http2.sendQueued at hsend
  generalize srv.outbox.keys = streams at hsend
  induction streams generalizing srv with
  | nil =>
    cases hsend
    exact h
  | cons s streams ih =>
    rw [List.foldlM_cons] at hsend
    obtain ⟨srv₁, hs, hrest⟩ := Except.bind_ok_iff.mp hsend
    exact ih (h.sendQueuedOn hH hs) hrest

/-- A completed request is answered. -/
theorem Sound.respond (hH : Laws H) (h : Sound reply srv events) (hs : Untouched srv s) (hupcoming : s ∉ requests events)
    (hwaiting : srv.pending.get? s = none) (hrespond : respond H reply srv s = .ok srv') : Sound reply srv' events := by
  have hheaders {fin : Bool} : ∀ f ∈ [({ stream := s, fin } : Sent)], f.stream = s ∧ (f.bytes.length : Int) ≤ f.limit := by
    intro f hf
    rw [List.mem_singleton.mp hf]
    exact ⟨rfl, le_refl _⟩
  -- headers that mark the end are a response without a body
  have hempty {c' : H.Conn} {headers : Headers} (hpayload : (reply s).payload = [])
      (hsend : H.sendHeaders srv.conn s headers true = .ok c') : Sound reply { srv with conn := c' } events := by
    have hprogress : Progress (reply s).payload (onStream H s srv.conn ++ [{ stream := s, fin := true }]) [] := by
      rw [hs.unsent, hpayload]
      exact .finished rfl nofun
    exact h.sends (hH.sendHeaders hsend).2 hs.opened hheaders hupcoming hwaiting hprogress (fun t _ => rfl) hs.queued
  unfold RideTheApi.Http2.respond at hrespond
  cases hreply : reply s with
  | raises =>
    rw [hreply] at hrespond
    cases hrespond
  | unanswered =>
    rw [hreply] at hrespond
    obtain ⟨c', hsend, hrespond⟩ := Except.bind_ok_iff.mp hrespond
    cases hrespond
    exact hempty (by rw [hreply]; rfl) (call_ok_iff.mp hsend)
  | answer headers payload =>
    rw [hreply] at hrespond
    obtain ⟨c', hsend, hrespond⟩ := Except.bind_ok_iff.mp hrespond
    rw [call_ok_iff] at hsend
    have hpayload : (reply s).payload = payload := by rw [hreply]; rfl
    split at hrespond
    · rename_i hnil
      cases hrespond
      subst hnil
      exact hempty hpayload hsend
    · rename_i hne
      have hfin : payload.isEmpty = false := by simpa using hne
      rw [hfin] at hsend
      have hprogress : Progress (reply s).payload (onStream H s srv.conn ++ [{ stream := s, fin := false }]) payload := by
        rw [hs.unsent, hpayload]
        refine .unfinished rfl ?_
        intro f hf
        rw [List.mem_singleton.mp hf]
      refine Sound.sendQueued hH ?_ hrespond
      refine h.sends (hH.sendHeaders hsend).2 hs.opened hheaders hupcoming hwaiting hprogress ?_ ?_
      · intro t ht
        rw [Dict.get?_set, if_neg ht.symm]
      · rw [Dict.get?_set, if_pos rfl, if_neg hne]

/-- The requests that wait are others, or fewer. -/
theorem Sound.pending (h : Sound reply srv events) {pending : Dict StreamId Bytes}
    (hpending : ∀ s body, pending.get? s = some body → Untouched srv s ∧ s ∉ requests events) :
    Sound reply { srv with pending } events := by
  have htouched {s : StreamId} (hs : Untouched srv s) : Untouched { srv with pending } s := ⟨hs.opened, hs.queued, hs.unsent⟩
  exact { h with
    upcoming := fun s hs => by
      refine ⟨htouched (h.upcoming s hs).1, ?_⟩
      cases hbody : pending.get? s with
      | none => rfl
      | some body => exact absurd hs (hpending s body hbody).2
    waiting := fun s body hs => htouched (hpending s body hs).1 }

/-- A request that waits is not one to come. -/
theorem Sound.apart (h : Sound reply srv events) {body : Bytes} (hs : srv.pending.get? s = some body) :
    Untouched srv s ∧ s ∉ requests events := by
  refine ⟨h.waiting s body hs, ?_⟩
  intro hupcoming
  rw [(h.upcoming s hupcoming).2] at hs
  cases hs

theorem Sound.erase (h : Sound reply srv events) (s : StreamId) :
    Sound reply { srv with pending := srv.pending.erase s } events := by
  apply h.pending
  intro t body ht
  rw [Dict.get?_erase] at ht
  split at ht
  · cases ht
  · exact h.apart ht

theorem Sound.takeData (hH : Laws H) (h : Sound reply srv events) {data : Bytes} (htake : takeData H srv s data = .ok srv') :
    Sound reply srv' events := by
  unfold RideTheApi.Http2.takeData at htake
  cases hbody : srv.pending.get? s with
  | none =>
    rw [hbody] at htake
    cases htake
    exact h
  | some body =>
    rw [hbody] at htake
    dsimp only at htake
    split at htake
    · obtain ⟨c', hreset, htake⟩ := Except.bind_ok_iff.mp htake
      cases htake
      exact (h.quiet (hH.resetStream (call_ok_iff.mp hreset))).erase s
    · cases htake
      apply h.pending
      intro t body' ht
      rw [Dict.get?_set] at ht
      split at ht
      · rename_i hst
        exact hst ▸ h.apart hbody
      · exact h.apart ht

/-- A request is taken out of what is to come. -/
theorem Sound.request {fin : Bool} (h : Sound reply srv (.requestReceived s fin :: events)) :
    Untouched srv s ∧ srv.pending.get? s = none ∧ s ∉ requests events := by
  have hs : s ∈ requests (.requestReceived s fin :: events) := mem_requests.mpr ⟨fin, List.mem_cons_self⟩
  exact ⟨(h.upcoming s hs).1, (h.upcoming s hs).2, (List.nodup_cons.mp h.distinct).1⟩

/-- **An event keeps the responses in order.** -/
theorem Sound.handleEvent (hH : Laws H) (h : Sound reply srv (e :: events)) (hhandle : handleEvent H reply srv e = .ok srv') :
    Sound reply srv' events := by
  cases e with
  | requestReceived s fin =>
    obtain ⟨hs, hwaiting, hupcoming⟩ := h.request
    rw [RideTheApi.Http2.handleEvent] at hhandle
    split at hhandle
    · obtain ⟨c', hreset, hhandle⟩ := Except.bind_ok_iff.mp hhandle
      cases hhandle
      exact h.tail.quiet (hH.resetStream (call_ok_iff.mp hreset))
    · have hset : Sound reply { srv with pending := srv.pending.set s [] } events := by
        apply h.tail.pending
        intro t body ht
        rw [Dict.get?_set] at ht
        split at ht
        · rename_i hst
          exact hst ▸ ⟨hs, hupcoming⟩
        · exact h.tail.apart ht
      split at hhandle
      · refine (hset.erase s).respond hH ⟨hs.opened, hs.queued, hs.unsent⟩ hupcoming ?_ hhandle
        rw [Dict.get?_erase, if_pos rfl]
      · cases hhandle
        exact hset
  | dataReceived s data n =>
    obtain ⟨srv₁, htake, hhandle⟩ := Except.bind_ok_iff.mp hhandle
    obtain ⟨c', hacknowledge, hhandle⟩ := Except.bind_ok_iff.mp hhandle
    cases hhandle
    exact (h.tail.takeData hH htake).quiet (hH.acknowledge (call_ok_iff.mp hacknowledge))
  | streamEnded s =>
    rw [RideTheApi.Http2.handleEvent] at hhandle
    split at hhandle
    · rename_i hhas
      obtain ⟨body, hbody⟩ := Option.isSome_iff_exists.mp hhas
      obtain ⟨hs, hupcoming⟩ := h.tail.apart hbody
      refine (h.tail.erase s).respond hH ⟨hs.opened, hs.queued, hs.unsent⟩ hupcoming ?_ hhandle
      rw [Dict.get?_erase, if_pos rfl]
    · cases hhandle
      exact h.tail
  | streamReset s =>
    cases hhandle
    have herase := h.tail.erase s
    -- a reset drops what the stream had queued, so it stays untouched
    have htouched {t : StreamId} (ht : Untouched { srv with pending := srv.pending.erase s } t) :
        Untouched { srv with pending := srv.pending.erase s, outbox := srv.outbox.erase s } t := by
      refine ⟨ht.opened, ?_, ht.unsent⟩
      show (srv.outbox.erase s).get? t = none
      rw [Dict.get?_erase]
      split
      · rfl
      · exact ht.queued
    exact { herase with
      upcoming := fun t ht => ⟨htouched (herase.upcoming t ht).1, (herase.upcoming t ht).2⟩
      waiting := fun t body ht => htouched (herase.waiting t body ht)
      queued := fun t data ht => by
        have ht' : (srv.outbox.erase s).get? t = some data := ht
        rw [Dict.get?_erase] at ht'
        split at ht'
        · cases ht'
        · exact herase.queued t data ht' }
  | other =>
    cases hhandle
    exact h.tail

/-! ## Reads -/

/-- A read that was received: what is reset behind its request is told apart from what is not. -/
structure ReceivesAll (H : H2) (c : H.Conn) (events : List Event) (c' : H.Conn) : Prop where
  sent     : H.sent c' = H.sent c
  opened   : ∀ t, H.opened c' t ↔ H.opened c t ∨ t ∈ requests events
  fresh    : ∀ t ∈ requests events, ¬ H.opened c t
  distinct : (requests events).Nodup
  sendable : ∀ t, H.sendable c t → H.sendable c' t ∨ .streamReset t ∈ events
  opening  : ∀ t fin, .requestReceived t fin ∈ events →
    H.sendable c' t ∨ [.requestReceived t fin, .streamReset t].Sublist events

/-- A frame opens one stream at most. -/
theorem Reports.requests_nodup {f : ClientFrame} (h : Reports f events) : (requests events).Nodup := by
  cases h with
  | request s fin => cases fin <;> simp [requests]
  | data s bytes n fin => cases fin <;> simp [requests]
  | _ => simp [requests]

theorem receiveData_receives (hH : Laws H) {frames : List ClientFrame} (h : receiveData H c frames = .ok (events, c')) :
    ReceivesAll H c events c' := by
  induction frames generalizing c events with
  | nil =>
    cases h
    exact {
      sent := rfl
      opened := fun t => by simp [requests]
      fresh := nofun
      distinct := List.nodup_nil
      sendable := fun t ht => .inl ht
      opening := nofun }
  | cons f frames ih =>
    obtain ⟨⟨events₁, c₁⟩, hframe, h⟩ := Except.bind_ok_iff.mp h
    obtain ⟨⟨events₂, c₂⟩, hrest, h⟩ := Except.bind_ok_iff.mp h
    cases h
    have hfirst := hH.receives hframe
    have hlater := ih hrest
    have hopened (t : StreamId) : H.opened c₁ t ↔ H.opened c t ∨ t ∈ requests events₁ := by
      rw [hfirst.opened, mem_requests]
    exact {
      sent := hlater.sent.trans hfirst.sent
      opened := fun t => by
        rw [hlater.opened, hopened, requests_append, List.mem_append, or_assoc]
      fresh := fun t ht => by
        rw [requests_append] at ht
        rcases List.mem_append.mp ht with ht | ht
        · obtain ⟨fin, ht⟩ := mem_requests.mp ht
          exact hfirst.fresh t fin ht
        · intro hc
          exact hlater.fresh t ht ((hopened t).mpr (.inl hc))
      distinct := by
        rw [requests_append]
        refine List.nodup_append.mpr ⟨(hH.reports hframe).requests_nodup, hlater.distinct, ?_⟩
        rintro t ht _ ht' rfl
        exact hlater.fresh t ht' ((hopened t).mpr (.inr ht))
      sendable := fun t ht => by
        rcases hfirst.sendable t ht with ht | ht
        · exact (hlater.sendable t ht).imp_right (List.mem_append_right _)
        · exact .inr (List.mem_append_left _ ht)
      opening := fun t fin ht => by
        rcases List.mem_append.mp ht with ht | ht
        · refine (hlater.sendable t (hfirst.opening t fin ht)).imp_right ?_
          intro hreset
          exact (List.singleton_sublist.mpr ht).append (List.singleton_sublist.mpr hreset)
        · exact (hlater.opening t fin ht).imp_right fun hsub => hsub.trans (List.sublist_append_right ..) }

theorem Sound.received (hH : Laws H) (h : Sound reply srv []) {frames : List ClientFrame}
    (hreceive : receiveData H srv.conn frames = .ok (events, c')) : Sound reply { srv with conn := c' } events := by
  have hall := receiveData_receives hH hreceive
  have hsame (s : StreamId) : onStream H s c' = onStream H s srv.conn := by
    unfold onStream
    rw [hall.sent]
  have hkept {s : StreamId} (hs : H.opened srv.conn s) : H.opened c' s := (hall.opened s).mpr (.inl hs)
  have htouched {s : StreamId} (hs : Untouched srv s) : Untouched { srv with conn := c' } s :=
    ⟨hkept hs.opened, hs.queued, (hsame s).trans hs.unsent⟩
  exact {
    inOrder := fun s => by
      show InOrder _ (onStream H s c')
      rw [hsame]
      exact h.inOrder s
    within := fun f hf => h.within f (hall.sent ▸ hf)
    distinct := hall.distinct
    upcoming := fun s hs => by
      have hnew := hall.fresh s hs
      refine ⟨⟨(hall.opened s).mpr (.inr hs), ?_, (hsame s).trans (h.unopened s hnew)⟩, ?_⟩
      · cases hdata : srv.outbox.get? s with
        | none => rfl
        | some data => exact absurd (h.queued s data hdata).1 hnew
      · cases hbody : srv.pending.get? s with
        | none => rfl
        | some body => exact absurd (h.waiting s body hbody).opened hnew
    waiting := fun s body hs => htouched (h.waiting s body hs)
    unopened := fun s hs => (hsame s).trans (h.unopened s (mt hkept hs))
    queued := fun s data hs => by
      obtain ⟨hopened, hne, hrest⟩ := h.queued s data hs
      refine ⟨hkept hopened, hne, ?_⟩
      show bytesOf (onStream H s c') ++ data = _ ∧ Open (onStream H s c')
      rw [hsame]
      exact hrest }

theorem Sound.handleEvents (hH : Laws H) (h : Sound reply srv events)
    (hhandle : events.foldlM (RideTheApi.Http2.handleEvent H reply) srv = .ok srv') : Sound reply srv' [] := by
  induction events generalizing srv with
  | nil =>
    cases hhandle
    exact h
  | cons e events ih =>
    rw [List.foldlM_cons] at hhandle
    obtain ⟨srv₁, he, hrest⟩ := Except.bind_ok_iff.mp hhandle
    exact ih (h.handleEvent hH he) hrest

/-- What one turn of the loop does. -/
theorem handleRead_ok {frames : List ClientFrame} (h : handleRead H reply srv frames = .ok srv') :
    ∃ events c' srv₁, receiveData H srv.conn frames = .ok (events, c') ∧
      events.foldlM (handleEvent H reply) { srv with conn := c' } = .ok srv₁ ∧ sendQueued H srv₁ = .ok srv' := by
  obtain ⟨⟨events, c'⟩, hreceive, h⟩ := Except.bind_ok_iff.mp h
  obtain ⟨srv₁, hhandle, h⟩ := Except.bind_ok_iff.mp h
  exact ⟨events, c', srv₁, call_ok_iff.mp hreceive, hhandle, h⟩

/-- **A read keeps the responses in order.** -/
theorem Sound.handleRead (hH : Laws H) (h : Sound reply srv []) {frames : List ClientFrame}
    (hread : handleRead H reply srv frames = .ok srv') : Sound reply srv' [] := by
  obtain ⟨events, c', srv₁, hreceive, hhandle, hsend⟩ := handleRead_ok hread
  exact ((h.received hH hreceive).handleEvents hH hhandle).sendQueued hH hsend

theorem Sound.start (hH : Laws H) (reply : StreamId → Reply) : Sound reply { conn := H.init } [] := by
  have hnone (s : StreamId) : onStream H s H.init = [] := by
    unfold onStream
    rw [hH.init.1, List.filter_nil]
  exact {
    inOrder := fun s => by
      show InOrder _ (onStream H s H.init)
      rw [hnone]
      have hopen : Open [] := fun f hf => absurd hf List.not_mem_nil
      exact (Progress.unfinished (List.nil_append (reply s).payload) hopen).inOrder
    within := fun f hf => by
      rw [show H.sent H.init = [] from hH.init.1] at hf
      cases hf
    distinct := List.nodup_nil
    upcoming := nofun
    waiting := nofun
    unopened := fun s _ => hnone s
    queued := nofun }

/-! ## What is left has no room -/

/-- What `_send_queued` does to the server, and to the streams that nothing is queued on any more. -/
structure Queue (srv srv' : Server H) : Prop where
  pending : srv'.pending = srv.pending
  outbox  : ∀ t, srv.outbox.get? t = none → srv'.outbox.get? t = none
  sends   : ∃ frames, Sends H srv.conn frames (fun t => srv.outbox.get? t ≠ none ∧ srv'.outbox.get? t = none) srv'.conn

theorem Queue.trans {srv'' : Server H} (h : Queue srv srv') (h' : Queue srv' srv'') : Queue srv srv'' where
  pending := h'.pending.trans h.pending
  outbox t ht := h'.outbox t (h.outbox t ht)
  sends := by
    obtain ⟨frames, hsends⟩ := h.sends
    obtain ⟨frames', hsends'⟩ := h'.sends
    refine ⟨_, (hsends.trans hsends').mono ?_⟩
    rintro t (⟨ht, ht'⟩ | ⟨ht, ht'⟩)
    · exact ⟨ht, h'.outbox t ht'⟩
    · exact ⟨mt (h.outbox t) ht, ht'⟩

/-- One stream is drained, and what is left of it has no room. -/
theorem sendQueuedOn_queue (hH : Laws H) (h : sendQueuedOn H srv s = .ok srv') :
    Queue srv srv' ∧ (∀ t ≠ s, srv'.outbox.get? t = srv.outbox.get? t) ∧
      (srv'.outbox.get? s ≠ none → noRoom H srv'.conn s = true) := by
  obtain ⟨data, c', rest, hdata, hdrain, rfl⟩ := sendQueuedOn_ok h
  have hopen : Open [] := fun f hf => absurd hf List.not_mem_nil
  obtain ⟨frames, hsends, -, -, hleft⟩ := drain_sends hH hdrain hopen (List.nil_append data)
  have hget (t : StreamId) := get?_sent srv.outbox s t rest
  refine ⟨⟨rfl, ?_, frames, hsends.mono ?_⟩, ?_, ?_⟩
  · intro t ht
    have hne : s ≠ t := by
      rintro rfl
      rw [hdata] at ht
      cases ht
    exact (hget t).trans ((if_neg hne).trans ht)
  · rintro t ⟨rfl, hrest⟩
    refine ⟨by simp [hdata], (hget t).trans ?_⟩
    rw [if_pos rfl, if_pos hrest]
  · intro t hne
    exact (hget t).trans (if_neg hne.symm)
  · intro hne
    apply hleft
    intro hrest
    refine hne ((hget s).trans ?_)
    rw [if_pos rfl, if_pos hrest]

theorem Queue.noRoom (h : Queue srv srv') (hs : noRoom H srv.conn s = true) : noRoom H srv'.conn s = true := by
  obtain ⟨frames, hsends⟩ := h.sends
  exact hsends.noRoom hs

theorem foldlM_queue (hH : Laws H) {streams : List StreamId} (h : streams.foldlM (sendQueuedOn H) srv = .ok srv')
    (hstreams : ∀ s, srv.outbox.get? s ≠ none → s ∈ streams ∨ noRoom H srv.conn s = true) :
    Queue srv srv' ∧ ∀ s, srv'.outbox.get? s ≠ none → noRoom H srv'.conn s = true := by
  induction streams generalizing srv with
  | nil =>
    cases h
    refine ⟨⟨rfl, fun t ht => ht, [], (Sends.refl _).mono nofun⟩, ?_⟩
    intro s hs
    exact (hstreams s hs).resolve_left List.not_mem_nil
  | cons s streams ih =>
    rw [List.foldlM_cons] at h
    obtain ⟨srv₁, hs, hrest⟩ := Except.bind_ok_iff.mp h
    obtain ⟨hqueue, hothers, hleft⟩ := sendQueuedOn_queue hH hs
    have hlater := ih hrest ?_
    · exact ⟨hqueue.trans hlater.1, hlater.2⟩
    intro t ht
    by_cases hne : t = s
    · exact .inr (hne ▸ hleft (hne ▸ ht))
    · rw [hothers t hne] at ht
      rcases hstreams t ht with hmem | hroom
      · exact .inl ((List.mem_cons.mp hmem).resolve_left hne)
      · exact .inr (hqueue.noRoom hroom)

/-- **`_send_queued` sends what it can.** -/
theorem sendQueued_queue (hH : Laws H) (h : sendQueued H srv = .ok srv') :
    Queue srv srv' ∧ ∀ s, srv'.outbox.get? s ≠ none → noRoom H srv'.conn s = true := by
  refine foldlM_queue hH h ?_
  intro s hs
  refine .inl ?_
  by_contra hnot
  exact hs (Dict.get?_eq_none.mpr hnot)

/-! ## Loops that end -/

theorem sendQueued_ends : sendQueued H srv ≠ .error .diverges := by
  unfold sendQueued
  generalize srv.outbox.keys = streams
  induction streams generalizing srv with
  | nil => exact nofun
  | cons s streams ih =>
    intro h
    rw [List.foldlM_cons] at h
    rcases Except.bind_error_iff.mp h with h | ⟨srv₁, -, h⟩
    · unfold sendQueuedOn at h
      cases hdata : srv.outbox.get? s with
      | none =>
        rw [hdata] at h
        cases h
      | some data =>
        rw [hdata] at h
        rcases Except.bind_error_iff.mp h with h | ⟨_, -, h⟩
        · exact drain_ends (Nat.lt_succ_self _) h
        · cases h
    · exact ih h

/-- An operation of the connection, and then nothing that fails. -/
theorem call_bind_ends {α β : Type} {x : Except H2Error α} {f : α → β} :
    (call x >>= fun a => (.ok (f a) : Except Stop β)) ≠ .error .diverges := by
  intro h
  rcases Except.bind_error_iff.mp h with h | ⟨_, -, h⟩
  · exact call_ne_diverges h
  · cases h

theorem respond_ends : respond H reply srv s ≠ .error .diverges := by
  unfold respond
  cases reply s with
  | raises => exact nofun
  | unanswered => exact call_bind_ends
  | answer headers payload =>
    intro h
    rcases Except.bind_error_iff.mp h with h | ⟨c₁, -, h⟩
    · exact call_ne_diverges h
    · split at h
      · cases h
      · exact sendQueued_ends h

theorem handleEvent_ends : handleEvent H reply srv e ≠ .error .diverges := by
  cases e with
  | requestReceived s fin =>
    rw [handleEvent]
    split
    · exact call_bind_ends
    · split
      · exact respond_ends
      · simp
  | dataReceived s data n =>
    intro h
    rcases Except.bind_error_iff.mp h with h | ⟨srv₁, -, h⟩
    · unfold takeData at h
      split at h
      · cases h
      · split at h
        · exact call_bind_ends h
        · cases h
    · exact call_bind_ends h
  | streamEnded s =>
    rw [handleEvent]
    split
    · exact respond_ends
    · simp
  | streamReset s => simp [handleEvent]
  | other => simp [handleEvent]

theorem handleEvents_ends : events.foldlM (handleEvent H reply) srv ≠ .error .diverges := by
  induction events generalizing srv with
  | nil => exact nofun
  | cons e events ih =>
    intro h
    rw [List.foldlM_cons] at h
    rcases Except.bind_error_iff.mp h with h | ⟨srv₁, -, h⟩
    · exact handleEvent_ends h
    · exact ih h

theorem handleRead_ends {frames : List ClientFrame} : handleRead H reply srv frames ≠ .error .diverges := by
  intro h
  rcases Except.bind_error_iff.mp h with h | ⟨⟨events, c⟩, -, h⟩
  · exact call_ne_diverges h
  · rcases Except.bind_error_iff.mp h with h | ⟨srv₁, -, h⟩
    · exact handleEvents_ends h
    · exact sendQueued_ends h

end RideTheApi.Http2
