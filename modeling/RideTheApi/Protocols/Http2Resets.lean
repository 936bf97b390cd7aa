import RideTheApi.Protocols.Http2Order

/-!
# `Protocols.Http2Resets` — connections that a reset does not end

A send is refused only on a stream that the same read has reset (`Live`), so that a connection whose resets are timely does
not end with one.
-/

namespace RideTheApi.Http2

open Py

variable {H : H2} {reply : StreamId → Reply} {srv srv' : Server H} {c c' : H.Conn} {s t : StreamId} {events : List Event}
  {e : Event} {frames : List Sent} {gone : StreamId → Prop}

/-! ## Streams that may be sent on -/

/-- A stream that is waited for, to come or queued may be sent on, or is reset in the rest of the read; then what is queued
    on it was so when the read began. -/
structure Live (srv : Server H) (events : List Event) (queued : List StreamId) (c₀ : H.Conn) : Prop where
  waiting : ∀ s body, srv.pending.get? s = some body → H.sendable srv.conn s ∨ .streamReset s ∈ events
  opening : ∀ s fin, .requestReceived s fin ∈ events →
    H.sendable srv.conn s ∨ [.requestReceived s fin, .streamReset s].Sublist events
  queued  : ∀ s, srv.outbox.get? s ≠ none → H.sendable srv.conn s ∨ .streamReset s ∈ events ∧ s ∈ queued
  room    : ∀ s, noRoom H c₀ s = true → noRoom H srv.conn s = true

variable {queued : List StreamId} {c₀ : H.Conn}

/-- The next event, when it resets nothing. -/
theorem Live.tail (h : Live srv (e :: events) queued c₀) (he : ∀ s, e ≠ .streamReset s)
    (hdistinct : (requests (e :: events)).Nodup) : Live srv events queued c₀ where
  waiting s body hs := (h.waiting s body hs).imp_right fun hmem =>
    (List.mem_cons.mp hmem).resolve_left fun heq => he s heq.symm
  opening s fin hs := by
    refine (h.opening s fin (List.mem_cons_of_mem _ hs)).imp_right ?_
    intro hsub
    rcases List.sublist_cons_iff.mp hsub with hsub | ⟨rest, heq, -⟩
    · exact hsub
    · -- the stream is opened once
      obtain ⟨rfl, -⟩ := List.cons.inj heq
      exact absurd (mem_requests.mpr ⟨fin, hs⟩) (List.nodup_cons.mp hdistinct).1
  queued s hs := (h.queued s hs).imp_right fun hmem =>
    ⟨(List.mem_cons.mp hmem.1).resolve_left fun heq => he s heq.symm, hmem.2⟩
  room := h.room

/-- A stream that is sent on and closed is no longer waited for, to come or queued. -/
theorem Live.sends (h : Live srv events queued c₀) (hsends : Sends H srv.conn frames gone srv'.conn)
    (hwaiting : ∀ s body, srv'.pending.get? s = some body → (H.sendable srv.conn s ∨ .streamReset s ∈ events) ∧ ¬ gone s)
    (hopening : ∀ s ∈ requests events, ¬ gone s)
    (hqueued : ∀ s, srv'.outbox.get? s ≠ none → (srv.outbox.get? s ≠ none ∨ H.sendable srv.conn s) ∧ ¬ gone s) :
    Live srv' events queued c₀ where
  waiting s body hs := by
    obtain ⟨hs, hgone⟩ := hwaiting s body hs
    exact hs.imp_left fun hs => hsends.sendable s hs hgone
  opening s fin hs := (h.opening s fin hs).imp_left fun hs' =>
    hsends.sendable s hs' (hopening s (mem_requests.mpr ⟨fin, hs⟩))
  queued s hs := by
    obtain ⟨hs, hgone⟩ := hqueued s hs
    rcases hs with hs | hs
    · exact (h.queued s hs).imp_left fun hs => hsends.sendable s hs hgone
    · exact .inl (hsends.sendable s hs hgone)
  room s hs := hsends.noRoom (h.room s hs)

/-- Where every queued stream may be sent on or has no room, nothing is refused. -/
theorem sendQueued_not_closed (hH : Laws H)
    (h : ∀ s, srv.outbox.get? s ≠ none → H.sendable srv.conn s ∨ noRoom H srv.conn s = true) :
    sendQueued H srv ≠ .error (.h2 .streamClosed) := by
  unfold sendQueued
  generalize srv.outbox.keys = streams
  induction streams generalizing srv with
  | nil => exact nofun
  | cons s streams ih =>
    intro herror
    rw [List.foldlM_cons] at herror
    rcases Except.bind_error_iff.mp herror with herror | ⟨srv₁, hs, herror⟩
    · unfold sendQueuedOn at herror
      cases hdata : srv.outbox.get? s with
      | none =>
        rw [hdata] at herror
        cases herror
      | some data =>
        rw [hdata] at herror
        rcases Except.bind_error_iff.mp herror with herror | ⟨_, -, herror⟩
        · exact drain_not_closed hH (h s (by simp [hdata])) herror
        · cases herror
    · obtain ⟨hqueue, -, -⟩ := sendQueuedOn_queue hH hs
      refine ih ?_ herror
      intro t ht
      have ht' : srv.outbox.get? t ≠ none := mt (hqueue.outbox t) ht
      rcases h t ht' with hsendable | hroom
      · obtain ⟨frames, hsends⟩ := hqueue.sends
        exact .inl (hsends.sendable t hsendable fun hgone => ht hgone.2)
      · exact .inr (hqueue.noRoom hroom)

/-- What `_send_queued` closes is only what was queued. -/
theorem Live.sendQueued (hH : Laws H) (hsound : Sound reply srv events) (h : Live srv events queued c₀)
    (hsend : sendQueued H srv = .ok srv') : Live srv' events queued c₀ := by
  obtain ⟨hqueue, -⟩ := sendQueued_queue hH hsend
  obtain ⟨frames, hsends⟩ := hqueue.sends
  refine h.sends hsends ?_ ?_ ?_
  · intro s body hs
    rw [hqueue.pending] at hs
    exact ⟨h.waiting s body hs, fun hgone => hgone.1 (hsound.waiting s body hs).queued⟩
  · intro s hs hgone
    exact hgone.1 (hsound.upcoming s hs).1.queued
  · intro s hs
    exact ⟨.inl (mt (hqueue.outbox s) hs), fun hgone => hs hgone.2⟩

/-- A request that is completed on a stream that may be sent on is answered, and no stream is closed that is needed. -/
theorem Live.respond (hH : Laws H) (hsound : Sound reply srv events) (h : Live srv events queued c₀) (hs : Untouched srv s)
    (hupcoming : s ∉ requests events) (hwaiting : srv.pending.get? s = none) (hsendable : H.sendable srv.conn s)
    (hspared : (reply s).payload ≠ [] → ∀ t ∈ queued, .streamReset t ∈ events → noRoom H c₀ t = true) :
    respond H reply srv s ≠ .error (.h2 .streamClosed) ∧
      ∀ srv', respond H reply srv s = .ok srv' → Live srv' events queued c₀ := by
  -- headers close no stream but this one, which nobody waits for
  have hheaders {headers : Headers} {fin : Bool} {c' : H.Conn} (hsend : H.sendHeaders srv.conn s headers fin = .ok c') :
      Live { srv with conn := c' } events queued c₀ := by
    refine h.sends (hH.sendHeaders hsend).2 ?_ ?_ ?_
    · intro t body ht
      refine ⟨h.waiting t body ht, ?_⟩
      rintro ⟨rfl, -⟩
      exact Option.some_ne_none _ (ht.symm.trans hwaiting)
    · rintro t ht ⟨rfl, -⟩
      exact hupcoming ht
    · intro t ht
      refine ⟨.inl ht, ?_⟩
      rintro ⟨rfl, -⟩
      exact ht hs.queued
  unfold RideTheApi.Http2.respond
  cases hreply : reply s with
  | raises => exact ⟨nofun, nofun⟩
  | unanswered =>
    constructor
    · intro herror
      rcases Except.bind_error_iff.mp herror with herror | ⟨_, -, herror⟩
      · exact hH.headersClosed (call_closed_iff.mp herror) hsendable
      · cases herror
    · intro srv' hrespond
      obtain ⟨c', hsend, hrespond⟩ := Except.bind_ok_iff.mp hrespond
      cases hrespond
      exact hheaders (call_ok_iff.mp hsend)
  | answer headers payload =>
    have hpayload : (reply s).payload = payload := by rw [hreply]; rfl
    -- the queue with the response, when it has a body
    have hlive {c' : H.Conn} (hsend : H.sendHeaders srv.conn s headers payload.isEmpty = .ok c') (hne : payload ≠ []) :
        Live { srv with conn := c', outbox := srv.outbox.set s payload } events queued c₀ := by
      have hfin : payload.isEmpty = false := by simpa using hne
      have hsends := (hH.sendHeaders hsend).2
      have hopen : H.sendable c' s := hsends.sendable s hsendable (by simp [hfin])
      exact { hheaders hsend with
        queued := fun t ht => by
          have ht' : (srv.outbox.set s payload).get? t ≠ none := ht
          rw [Dict.get?_set] at ht'
          split at ht'
          · rename_i hst
            exact .inl (hst ▸ hopen)
          · exact (hheaders hsend).queued t ht' }
    constructor
    · intro herror
      rcases Except.bind_error_iff.mp herror with herror | ⟨c', hsend, herror⟩
      · exact hH.headersClosed (call_closed_iff.mp herror) hsendable
      · split at herror
        · cases herror
        · rename_i hne
          have hl := hlive (call_ok_iff.mp hsend) hne
          refine sendQueued_not_closed hH ?_ herror
          intro t ht
          refine (hl.queued t ht).imp_right ?_
          rintro ⟨hreset, hqueued⟩
          exact hl.room t (hspared (hpayload ▸ hne) t hqueued hreset)
    · intro srv' hrespond
      obtain ⟨c', hsend, hrespond⟩ := Except.bind_ok_iff.mp hrespond
      split at hrespond
      · cases hrespond
        exact hheaders (call_ok_iff.mp hsend)
      · rename_i hne
        obtain ⟨hqueue, -⟩ := sendQueued_queue hH hrespond
        obtain ⟨frames, hsends⟩ := hqueue.sends
        -- streams that are waited for or to come are not queued
        have hnot {t : StreamId} (ht : Untouched srv t) (hne : t ≠ s) : (srv.outbox.set s payload).get? t = none := by
          rw [Dict.get?_set, if_neg hne.symm]
          exact ht.queued
        have hl := hlive (call_ok_iff.mp hsend) hne
        refine hl.sends hsends ?_ ?_ ?_
        · intro t body ht
          rw [hqueue.pending] at ht
          refine ⟨hl.waiting t body ht, ?_⟩
          rintro ⟨hqueued, -⟩
          refine hqueued (hnot (hsound.waiting t body ht) ?_)
          rintro rfl
          exact Option.some_ne_none _ (ht.symm.trans hwaiting)
        · rintro t ht ⟨hqueued, -⟩
          refine hqueued (hnot (hsound.upcoming t ht).1 ?_)
          rintro rfl
          exact hupcoming ht
        · intro t ht
          exact ⟨.inl (mt (hqueue.outbox t) ht), fun hgone => ht hgone.2⟩

/-- The requests that are not complete after an event. -/
theorem respond_pending (hH : Laws H) (h : respond H reply srv s = .ok srv') : srv'.pending = srv.pending := by
  unfold respond at h
  cases hreply : reply s with
  | raises =>
    rw [hreply] at h
    cases h
  | unanswered =>
    rw [hreply] at h
    obtain ⟨c', -, h⟩ := Except.bind_ok_iff.mp h
    cases h
    rfl
  | answer headers payload =>
    rw [hreply] at h
    obtain ⟨c', -, h⟩ := Except.bind_ok_iff.mp h
    split at h
    · cases h
      rfl
    · exact (sendQueued_queue hH h).1.pending

theorem handleEvent_pending (hH : Laws H) (h : handleEvent H reply srv e = .ok srv') :
    srv'.pending = pendingAfter srv.pending e := by
  cases e with
  | requestReceived s fin =>
    rw [handleEvent] at h
    rw [pendingAfter]
    split at h
    · obtain ⟨c', -, h⟩ := Except.bind_ok_iff.mp h
      cases h
      exact (if_pos ‹_›).symm
    · rw [if_neg ‹_›]
      split at h
      · rw [if_pos ‹_›]
        exact respond_pending hH h
      · cases h
        rw [if_neg ‹_›]
  | dataReceived s data n =>
    obtain ⟨srv₁, htake, h⟩ := Except.bind_ok_iff.mp h
    obtain ⟨c', -, h⟩ := Except.bind_ok_iff.mp h
    cases h
    unfold takeData at htake
    rw [pendingAfter]
    cases hbody : srv.pending.get? s with
    | none =>
      rw [hbody] at htake
      cases htake
      rfl
    | some body =>
      rw [hbody] at htake
      dsimp only at htake ⊢
      split at htake
      · obtain ⟨c'', -, htake⟩ := Except.bind_ok_iff.mp htake
        cases htake
        exact (if_pos ‹_›).symm
      · cases htake
        exact (if_neg ‹_›).symm
  | streamEnded s =>
    rw [handleEvent] at h
    rw [pendingAfter]
    split at h
    · rw [if_pos ‹_›]
      exact respond_pending hH h
    · cases h
      exact (if_neg ‹_›).symm
  | streamReset s =>
    cases h
    rfl
  | other =>
    cases h
    rfl

/-! ## Timely resets -/

theorem mem_resets : s ∈ resets events ↔ .streamReset s ∈ events := by
  unfold resets
  rw [List.mem_filterMap]
  constructor
  · rintro ⟨e, he, h⟩
    cases e with
    | streamReset s' =>
      cases h
      exact he
    | _ => cases h
  · intro h
    exact ⟨_, h, rfl⟩

/-- A stream that the event is answered on, or refused with, is not reset in the rest of the read. -/
theorem sendable_of_spares (hspares : ∀ s ∈ resets events, spares H reply queued c₀ srv.pending e s = true)
    (hs : H.sendable srv.conn s ∨ .streamReset s ∈ events)
    (htouched : completes srv.pending e = some s ∨ refuses srv.pending e = some s) : H.sendable srv.conn s := by
  refine hs.resolve_right ?_
  intro hreset
  have h := hspares s (mem_resets.mpr hreset)
  unfold spares at h
  rw [Bool.and_eq_true, Bool.and_eq_true, decide_eq_true_eq, decide_eq_true_eq] at h
  rcases htouched with ht | ht
  · exact h.1.1 ht
  · exact h.1.2 ht

/-- What is queued on a stream that is reset has no room, when a request is answered with a body. -/
theorem noRoom_of_spares (hspares : ∀ s ∈ resets events, spares H reply queued c₀ srv.pending e s = true)
    (hcompletes : completes srv.pending e = some s) :
    (reply s).payload ≠ [] → ∀ t ∈ queued, .streamReset t ∈ events → noRoom H c₀ t = true := by
  intro hpayload t ht hreset
  have h := hspares t (mem_resets.mpr hreset)
  have hanswers : answersWithBody reply srv.pending e = true := by
    unfold answersWithBody
    rw [hcompletes]
    simpa using hpayload
  have hqueued : queued.contains t = true := by simpa using ht
  unfold spares at h
  rw [hanswers, hqueued] at h
  simpa using (Bool.and_eq_true_iff.mp h).2

/-- The requests that wait are others, or fewer. -/
theorem Live.pending (h : Live srv events queued c₀) {pending : Dict StreamId Bytes}
    (hpending : ∀ s body, pending.get? s = some body → H.sendable srv.conn s ∨ .streamReset s ∈ events) :
    Live { srv with pending } events queued c₀ :=
  { h with waiting := hpending }

theorem Live.erase (h : Live srv events queued c₀) (s : StreamId) :
    Live { srv with pending := srv.pending.erase s } events queued c₀ := by
  apply h.pending
  intro t body ht
  rw [Dict.get?_erase] at ht
  split at ht
  · cases ht
  · exact h.waiting t body ht

/-- A stream that nobody waits for is reset. -/
theorem Live.reset (hH : Laws H) (h : Live srv events queued c₀) (hs : Untouched srv s)
    (hupcoming : s ∉ requests events) (hreset : H.resetStream srv.conn s = .ok c') {pending : Dict StreamId Bytes}
    (hpending : ∀ t body, pending.get? t = some body → srv.pending.get? t = some body ∧ t ≠ s) :
    Live { srv with conn := c', pending } events queued c₀ := by
  refine h.sends (hH.resetStream hreset) ?_ ?_ ?_
  · intro t body ht
    obtain ⟨ht, hne⟩ := hpending t body ht
    exact ⟨h.waiting t body ht, hne⟩
  · rintro t ht rfl
    exact hupcoming ht
  · intro t ht
    refine ⟨.inl ht, ?_⟩
    rintro rfl
    exact ht hs.queued

/-- Nothing is refused for a closed stream, and the streams that are needed are kept. -/
def KeepsLive (events : List Event) (queued : List StreamId) (c₀ : H.Conn) (r : Except Stop (Server H)) : Prop :=
  r ≠ .error (.h2 .streamClosed) ∧ ∀ srv', r = .ok srv' → Live srv' events queued c₀

theorem KeepsLive.ok (h : Live srv events queued c₀) : KeepsLive events queued c₀ (.ok srv) := by
  refine ⟨(fun herror => by cases herror), ?_⟩
  intro srv' hhandle
  cases hhandle
  exact h

theorem KeepsLive.call_bind {x : Except H2Error H.Conn} {f : H.Conn → Except Stop (Server H)}
    (hx : x ≠ .error .streamClosed) (hf : ∀ c', x = .ok c' → KeepsLive events queued c₀ (f c')) :
    KeepsLive events queued c₀ (call x >>= f) := by
  constructor
  · intro herror
    rcases Except.bind_error_iff.mp herror with herror | ⟨c', hc', herror⟩
    · exact hx (call_closed_iff.mp herror)
    · exact (hf c' (call_ok_iff.mp hc')).1 herror
  · intro srv' hhandle
    obtain ⟨c', hc', hhandle⟩ := Except.bind_ok_iff.mp hhandle
    exact (hf c' (call_ok_iff.mp hc')).2 srv' hhandle

/-- A stream that may be sent on and that nothing else needs is reset. -/
theorem Live.refuse (hH : Laws H) (h : Live srv events queued c₀) (hs : Untouched srv s) (hupcoming : s ∉ requests events)
    (hsendable : H.sendable srv.conn s) {pending : Dict StreamId Bytes}
    (hpending : ∀ t body, pending.get? t = some body → srv.pending.get? t = some body ∧ t ≠ s) :
    KeepsLive events queued c₀ (call (H.resetStream srv.conn s) >>= fun c => .ok { srv with conn := c, pending }) := by
  refine KeepsLive.call_bind (fun hclosed => hH.resetClosed hclosed hsendable) ?_
  intro c' hreset
  exact .ok (h.reset hH hs hupcoming hreset hpending)

/-- A request is refused, answered at once or waited for. -/
theorem Live.requestReceived {fin : Bool} (hH : Laws H) (hsound : Sound reply srv (.requestReceived s fin :: events))
    (h : Live srv (.requestReceived s fin :: events) queued c₀)
    (hspares : ∀ t ∈ resets events, spares H reply queued c₀ srv.pending (.requestReceived s fin) t = true) :
    KeepsLive events queued c₀ (handleEvent H reply srv (.requestReceived s fin)) := by
  obtain ⟨hs, hwaiting, hupcoming⟩ := hsound.request
  have htail := h.tail (by simp) hsound.distinct
  have hopening : H.sendable srv.conn s ∨ .streamReset s ∈ events := by
    refine (h.opening s fin List.mem_cons_self).imp_right ?_
    intro hsub
    exact List.singleton_sublist.mp (List.cons_sublist_cons.mp hsub)
  rw [RideTheApi.Http2.handleEvent]
  split
  · rename_i hfull
    have hsendable := sendable_of_spares hspares hopening (.inr (if_pos hfull))
    refine htail.refuse hH hs hupcoming hsendable ?_
    intro t body ht
    refine ⟨ht, ?_⟩
    rintro rfl
    exact Option.some_ne_none _ (ht.symm.trans hwaiting)
  · rename_i hfull
    have hset : Live { srv with pending := srv.pending.set s [] } events queued c₀ := by
      apply htail.pending
      intro t body ht
      rw [Dict.get?_set] at ht
      split at ht
      · rename_i hst
        exact hst ▸ hopening
      · exact htail.waiting t body ht
    split
    · rename_i hfin
      subst hfin
      have hcompletes : completes srv.pending (.requestReceived s true) = some s := if_neg hfull
      have herased : (((srv.pending.set s []).erase s).get? s : Option Bytes) = none := by
        rw [Dict.get?_erase, if_pos rfl]
      have hsound' : Sound reply { srv with pending := (srv.pending.set s []).erase s } events := by
        apply hsound.tail.pending
        intro t body ht
        rw [Dict.get?_erase] at ht
        split at ht
        · cases ht
        · rename_i hne
          rw [Dict.get?_set, if_neg hne] at ht
          exact hsound.tail.apart ht
      have hsendable := sendable_of_spares hspares hopening (.inl hcompletes)
      have hroom := noRoom_of_spares hspares hcompletes
      exact (hset.erase s).respond hH hsound' ⟨hs.opened, hs.queued, hs.unsent⟩ hupcoming herased hsendable hroom
    · exact .ok hset

/-- A body grows, or its stream is refused. -/
theorem Live.takeData {data : Bytes} {n : Nat} (hH : Laws H) (hsound : Sound reply srv (.dataReceived s data n :: events))
    (h : Live srv (.dataReceived s data n :: events) queued c₀)
    (hspares : ∀ t ∈ resets events, spares H reply queued c₀ srv.pending (.dataReceived s data n) t = true) :
    KeepsLive events queued c₀ (takeData H srv s data) := by
  have htail := h.tail (by simp) hsound.distinct
  unfold RideTheApi.Http2.takeData
  cases hbody : srv.pending.get? s with
  | none => exact .ok htail
  | some body =>
    obtain ⟨hs, hupcoming⟩ := hsound.tail.apart hbody
    dsimp only
    split
    · rename_i hlong
      have hrefuses : refuses srv.pending (.dataReceived s data n) = some s := by
        unfold refuses
        simp [hbody, hlong]
      have hsendable := sendable_of_spares hspares (htail.waiting s body hbody) (.inr hrefuses)
      refine htail.refuse hH hs hupcoming hsendable ?_
      intro t body' ht
      rw [Dict.get?_erase] at ht
      split at ht
      · cases ht
      · rename_i hne
        exact ⟨ht, Ne.symm hne⟩
    · refine .ok (htail.pending ?_)
      intro t body' ht
      rw [Dict.get?_set] at ht
      split at ht
      · rename_i hst
        exact hst ▸ htail.waiting s body hbody
      · exact htail.waiting t body' ht

/-- What was received is acknowledged, which closes nothing. -/
theorem Live.dataReceived {data : Bytes} {n : Nat} (hH : Laws H)
    (hsound : Sound reply srv (.dataReceived s data n :: events)) (h : Live srv (.dataReceived s data n :: events) queued c₀)
    (hspares : ∀ t ∈ resets events, spares H reply queued c₀ srv.pending (.dataReceived s data n) t = true) :
    KeepsLive events queued c₀ (handleEvent H reply srv (.dataReceived s data n)) := by
  have htake := h.takeData hH hsound hspares
  have hacknowledges {srv₁ : Server H} (hl : Live srv₁ events queued c₀) :
      KeepsLive events queued c₀ (call (H.acknowledge srv₁.conn n s) >>= fun c => .ok { srv₁ with conn := c }) := by
    refine KeepsLive.call_bind hH.acknowledged ?_
    intro c' hacknowledge
    refine .ok (hl.sends (hH.acknowledge hacknowledge) ?_ ?_ ?_)
    · intro t body ht
      exact ⟨hl.waiting t body ht, not_false⟩
    · intro t _
      exact not_false
    · intro t ht
      exact ⟨.inl ht, not_false⟩
  constructor
  · intro herror
    rcases Except.bind_error_iff.mp herror with herror | ⟨srv₁, htaken, herror⟩
    · exact htake.1 herror
    · exact (hacknowledges (htake.2 srv₁ htaken)).1 herror
  · intro srv' hhandle
    obtain ⟨srv₁, htaken, hhandle⟩ := Except.bind_ok_iff.mp hhandle
    exact (hacknowledges (htake.2 srv₁ htaken)).2 srv' hhandle

/-- A request that has ended is answered. -/
theorem Live.streamEnded (hH : Laws H) (hsound : Sound reply srv (.streamEnded s :: events))
    (h : Live srv (.streamEnded s :: events) queued c₀)
    (hspares : ∀ t ∈ resets events, spares H reply queued c₀ srv.pending (.streamEnded s) t = true) :
    KeepsLive events queued c₀ (handleEvent H reply srv (.streamEnded s)) := by
  have htail := h.tail (by simp) hsound.distinct
  rw [RideTheApi.Http2.handleEvent]
  split
  · rename_i hhas
    obtain ⟨body, hbody⟩ := Option.isSome_iff_exists.mp hhas
    obtain ⟨hs, hupcoming⟩ := hsound.tail.apart hbody
    have hcompletes : completes srv.pending (.streamEnded s) = some s := if_pos hhas
    have herased : ((srv.pending.erase s).get? s : Option Bytes) = none := by
      rw [Dict.get?_erase, if_pos rfl]
    have hsendable := sendable_of_spares hspares (htail.waiting s body hbody) (.inl hcompletes)
    have hroom := noRoom_of_spares hspares hcompletes
    exact (htail.erase s).respond hH (hsound.tail.erase s) ⟨hs.opened, hs.queued, hs.unsent⟩ hupcoming herased hsendable hroom
  · exact .ok htail

/-- The reset is behind the events now, and what was kept of its stream is gone. -/
theorem Live.streamReset (h : Live srv (.streamReset s :: events) queued c₀) :
    Live { srv with pending := srv.pending.erase s, outbox := srv.outbox.erase s } events queued c₀ := by
  have hlater {t : StreamId} (hne : s ≠ t) (ht : .streamReset t ∈ .streamReset s :: events) : .streamReset t ∈ events := by
    refine (List.mem_cons.mp ht).resolve_left ?_
    intro heq
    cases heq
    exact hne rfl
  exact {
    waiting := fun t body ht => by
      have ht' : (srv.pending.erase s).get? t = some body := ht
      rw [Dict.get?_erase] at ht'
      split at ht'
      · cases ht'
      · rename_i hne
        exact (h.waiting t body ht').imp_right (hlater hne)
    opening := fun t fin ht => by
      refine (h.opening t fin (List.mem_cons_of_mem _ ht)).imp_right ?_
      intro hsub
      rcases List.sublist_cons_iff.mp hsub with hsub | ⟨rest, heq, -⟩
      · exact hsub
      · cases heq
    queued := fun t ht => by
      have ht' : (srv.outbox.erase s).get? t ≠ none := ht
      rw [Dict.get?_erase] at ht'
      split at ht'
      · exact absurd rfl ht'
      · rename_i hne
        exact (h.queued t ht').imp_right fun hreset => ⟨hlater hne hreset.1, hreset.2⟩
    room := h.room }

/-- **An event is not refused**, and keeps the streams that are needed. -/
theorem Live.handleEvent (hH : Laws H) (hsound : Sound reply srv (e :: events)) (h : Live srv (e :: events) queued c₀)
    (hspares : ∀ s ∈ resets events, spares H reply queued c₀ srv.pending e s = true) :
    handleEvent H reply srv e ≠ .error (.h2 .streamClosed) ∧
      ∀ srv', handleEvent H reply srv e = .ok srv' → Live srv' events queued c₀ := by
  cases e with
  | requestReceived s fin => exact h.requestReceived hH hsound hspares
  | dataReceived s data n => exact h.dataReceived hH hsound hspares
  | streamEnded s => exact h.streamEnded hH hsound hspares
  | streamReset s => exact KeepsLive.ok h.streamReset
  | other => exact KeepsLive.ok (h.tail (by simp) hsound.distinct)

theorem handleEvents_not_closed (hH : Laws H) (hsound : Sound reply srv events) (h : Live srv events queued c₀)
    (htimely : timely H reply queued c₀ srv.pending events = true) :
    events.foldlM (handleEvent H reply) srv ≠ .error (.h2 .streamClosed) ∧
      ∀ srv', events.foldlM (handleEvent H reply) srv = .ok srv' → Live srv' [] queued c₀ := by
  induction events generalizing srv with
  | nil =>
    refine ⟨(fun herror => by cases herror), ?_⟩
    intro srv' hhandle
    cases hhandle
    exact h
  | cons e events ih =>
    rw [timely, Bool.and_eq_true, List.all_eq_true] at htimely
    obtain ⟨hnot, hlive⟩ := h.handleEvent hH hsound htimely.1
    rw [List.foldlM_cons]
    have hlater {srv₁ : Server H} (he : handleEvent H reply srv e = .ok srv₁) :=
      ih (hsound.handleEvent hH he) (hlive srv₁ he) (by rw [handleEvent_pending hH he]; exact htimely.2)
    constructor
    · intro herror
      rcases Except.bind_error_iff.mp herror with herror | ⟨srv₁, he, herror⟩
      · exact hnot herror
      · exact (hlater he).1 herror
    · intro srv' hhandle
      obtain ⟨srv₁, he, hhandle⟩ := Except.bind_ok_iff.mp hhandle
      exact (hlater he).2 srv' hhandle

theorem receiveData_not_closed (hH : Laws H) {frames : List ClientFrame} : receiveData H c frames ≠ .error .streamClosed := by
  induction frames generalizing c with
  | nil => exact nofun
  | cons f frames ih =>
    intro h
    rcases Except.bind_error_iff.mp h with h | ⟨_, -, h⟩
    · exact hH.received h
    · rcases Except.bind_error_iff.mp h with h | ⟨_, -, h⟩
      · exact ih h
      · cases h

/-- Between reads every stream that is needed may be sent on. -/
structure Ready (srv : Server H) : Prop where
  waiting : ∀ s body, srv.pending.get? s = some body → H.sendable srv.conn s
  queued  : ∀ s, srv.outbox.get? s ≠ none → H.sendable srv.conn s

theorem Live.ready (h : Live srv [] queued c₀) : Ready srv where
  waiting s body hs := (h.waiting s body hs).resolve_right List.not_mem_nil
  queued s hs := (h.queued s hs).resolve_right fun hmem => List.not_mem_nil hmem.1

/-- A read closes a stream that is needed only with a reset. -/
theorem Ready.received (hH : Laws H) (h : Ready srv) {frames : List ClientFrame}
    (hreceive : receiveData H srv.conn frames = .ok (events, c')) :
    Live { srv with conn := c' } events srv.outbox.keys c' := by
  have hall := receiveData_receives hH hreceive
  exact {
    waiting := fun s body hs => hall.sendable s (h.waiting s body hs)
    opening := hall.opening
    queued := fun s hs => by
      refine (hall.sendable s (h.queued s hs)).imp_right fun hreset => ⟨hreset, ?_⟩
      by_contra hnot
      exact hs (Dict.get?_eq_none.mpr hnot)
    room := fun s hs => hs }

/-- **A timely read is not refused.** -/
theorem Ready.handleRead (hH : Laws H) (hsound : Sound reply srv []) (h : Ready srv) {frames : List ClientFrame}
    (htimely : timelyRead H reply srv frames = true) :
    handleRead H reply srv frames ≠ .error (.h2 .streamClosed) ∧
      ∀ srv', handleRead H reply srv frames = .ok srv' → Ready srv' := by
  have hevents {events : List Event} {c' : H.Conn} (hreceive : receiveData H srv.conn frames = .ok (events, c')) :=
    handleEvents_not_closed hH (hsound.received hH hreceive) (h.received hH hreceive) (by
      unfold timelyRead at htimely
      rw [hreceive] at htimely
      exact htimely)
  constructor
  · intro herror
    rcases Except.bind_error_iff.mp herror with herror | ⟨⟨events, c'⟩, hreceive, herror⟩
    · exact receiveData_not_closed hH (call_closed_iff.mp herror)
    · obtain ⟨hnot, hlive⟩ := hevents (call_ok_iff.mp hreceive)
      rcases Except.bind_error_iff.mp herror with herror | ⟨srv₁, hhandle, herror⟩
      · exact hnot herror
      · exact sendQueued_not_closed hH (fun s hs => .inl ((hlive srv₁ hhandle).ready.queued s hs)) herror
  · intro srv' hread
    obtain ⟨events, c', srv₁, hreceive, hhandle, hsend⟩ := handleRead_ok hread
    have hsound₁ := (hsound.received hH hreceive).handleEvents hH hhandle
    exact (((hevents hreceive).2 srv₁ hhandle).sendQueued hH hsound₁ hsend).ready

/-! ## Connections -/

theorem reads_sound (hH : Laws H) {reads : List (List ClientFrame)} (h : Sound reply srv [])
    (hblocked : ∀ s, srv.outbox.get? s ≠ none → noRoom H srv.conn s = true)
    (hreads : reads.foldlM (handleRead H reply) srv = .ok srv') :
    Sound reply srv' [] ∧ ∀ s, srv'.outbox.get? s ≠ none → noRoom H srv'.conn s = true := by
  induction reads generalizing srv with
  | nil =>
    cases hreads
    exact ⟨h, hblocked⟩
  | cons frames reads ih =>
    rw [List.foldlM_cons] at hreads
    obtain ⟨srv₁, hread, hreads⟩ := Except.bind_ok_iff.mp hreads
    obtain ⟨_, _, _, -, -, hsend⟩ := handleRead_ok hread
    exact ih (h.handleRead hH hread) (sendQueued_queue hH hsend).2 hreads

theorem reads_end {reads : List (List ClientFrame)} : reads.foldlM (handleRead H reply) srv ≠ .error .diverges := by
  induction reads generalizing srv with
  | nil => exact nofun
  | cons frames reads ih =>
    intro h
    rw [List.foldlM_cons] at h
    rcases Except.bind_error_iff.mp h with h | ⟨srv₁, -, h⟩
    · exact handleRead_ends h
    · exact ih h

theorem reads_not_closed (hH : Laws H) {reads : List (List ClientFrame)} (hsound : Sound reply srv []) (h : Ready srv)
    (htimely : timelyReads H reply srv reads = true) :
    reads.foldlM (handleRead H reply) srv ≠ .error (.h2 .streamClosed) := by
  induction reads generalizing srv with
  | nil => exact nofun
  | cons frames reads ih =>
    rw [timelyReads, Bool.and_eq_true] at htimely
    obtain ⟨hnot, hready⟩ := h.handleRead hH hsound htimely.1
    intro herror
    rw [List.foldlM_cons] at herror
    rcases Except.bind_error_iff.mp herror with herror | ⟨srv₁, hread, herror⟩
    · exact hnot herror
    · refine ih (hsound.handleRead hH hread) (hready srv₁ hread) ?_ herror
      rw [hread] at htimely
      exact htimely.2

/-- The streams, with whether they may be sent on, the windows, and what was sent. -/
structure Windows where
  streams    : Dict StreamId Bool := []
  initial    : Int := 65535
  windows    : Dict StreamId Int := []
  connWindow : Int := 65535
  sent       : List Sent := []
deriving Repr, DecidableEq

namespace Windows

def window (c : Windows) (s : StreamId) : Int := (c.windows.get? s).getD c.initial

/-- The stream is closed with the frame that marks the end. -/
def close (c : Windows) (s : StreamId) (fin : Bool) : Windows := if fin then { c with streams := c.streams.set s false } else c

def receiveFrame (c : Windows) : ClientFrame → Except H2Error (List Event × Windows)
  | .request s fin =>
    if c.streams.has s then .error .protocol
    else .ok (.requestReceived s fin :: if fin then [.streamEnded s] else [], { c with streams := c.streams.set s true })
  | .data s bytes n fin =>
    match c.streams.get? s with
    | none       => .error .protocol
    | some true  => .ok (.dataReceived s bytes n :: if fin then [.streamEnded s] else [], c)
    | some false => .ok ([], c)
  | .windowUpdate s increment =>
    .ok ([.other], if s = 0 then { c with connWindow := c.connWindow + increment }
      else { c with windows := c.windows.set s (c.window s + increment) })
  | .reset s =>
    match c.streams.get? s with
    | none       => .error .protocol
    | some true  => .ok ([.streamReset s], c.close s true)
    | some false => .ok ([], c)

def sendHeaders (c : Windows) (s : StreamId) (_ : Headers) (fin : Bool) : Except H2Error Windows :=
  if c.streams.get? s = some true then .ok (close { c with sent := c.sent ++ [{ stream := s, fin }] } s fin)
  else .error .streamClosed

/-- The most bytes that may be sent on the stream in a frame. -/
def limit (c : Windows) (s : StreamId) : Int := min (min (c.window s) c.connWindow) 16384

def sendData (c : Windows) (s : StreamId) (bytes : Bytes) (fin : Bool) : Except H2Error Windows :=
  if c.streams.get? s = some true then
    if bytes.length ≤ c.limit s then
      .ok (close { c with
        windows := c.windows.set s (c.window s - bytes.length)
        connWindow := c.connWindow - bytes.length
        sent := c.sent ++ [⟨s, bytes, fin, c.limit s⟩] } s fin)
    else .error .protocol
  else .error .streamClosed

def resetStream (c : Windows) (s : StreamId) : Except H2Error Windows :=
  if c.streams.get? s = some true then .ok (c.close s true) else .error .streamClosed

/-- A connection, whose streams start with this window. -/
def h2 (initial : Int) : H2 where
  Conn := Windows
  init := { initial }
  receiveFrame := receiveFrame
  sendHeaders := sendHeaders
  sendData := sendData
  resetStream := resetStream
  acknowledge c _ _ := .ok c
  localFlowControlWindow c s := if c.streams.has s then .ok (min (c.window s) c.connWindow) else .error .protocol
  maxOutboundFrameSize _ := 16384
  opened c s := c.streams.has s = true
  sendable c s := c.streams.get? s = some true
  window := window
  connWindow := connWindow
  sent := sent

@[simp] theorem close_sent (c : Windows) (s : StreamId) (fin : Bool) : (c.close s fin).sent = c.sent := by
  cases fin <;> rfl

@[simp] theorem close_connWindow (c : Windows) (s : StreamId) (fin : Bool) : (c.close s fin).connWindow = c.connWindow := by
  cases fin <;> rfl

@[simp] theorem close_window (c : Windows) (s t : StreamId) (fin : Bool) : (c.close s fin).window t = c.window t := by
  cases fin <;> rfl

theorem has_of_get? {c : Windows} {b : Bool} (hs : c.streams.get? s = some b) : c.streams.has s = true := by
  unfold Dict.has
  rw [hs]
  rfl

theorem close_has {c : Windows} (hs : c.streams.get? s = some true) (t : StreamId) (fin : Bool) :
    (c.close s fin).streams.has t = c.streams.has t := by
  cases fin with
  | false => rfl
  | true =>
    show ((c.streams.set s false).get? t).isSome = (c.streams.get? t).isSome
    rw [Dict.get?_set]
    split
    · rename_i hst
      rw [← hst, hs]
      rfl
    · rfl

theorem close_get? (c : Windows) (s t : StreamId) (fin : Bool) (ht : c.streams.get? t = some true)
    (hnot : ¬ (t = s ∧ fin = true)) : (c.close s fin).streams.get? t = some true := by
  cases fin with
  | false => exact ht
  | true =>
    have hne : s ≠ t := fun h => hnot ⟨h.symm, rfl⟩
    show (c.streams.set s false).get? t = some true
    rw [Dict.get?_set, if_neg hne, ht]

variable {initial : Int} {a b : Windows} {n : Nat}

/-- Something is sent on an open stream, out of its window and the connection's. -/
theorem sends_close (b : Windows) (hs : a.streams.get? s = some true) (hstreams : b.streams = a.streams) (hsent : b.sent = a.sent ++ frames)
    (hwindow : ∀ t, b.window t ≤ a.window t) (hconn : b.connWindow ≤ a.connWindow) (fin : Bool) :
    Sends (h2 initial) a frames (fun t => t = s ∧ fin = true) (b.close s fin) where
  sent := (close_sent b s fin).trans hsent
  opened t := by
    show (b.close s fin).streams.has t = true ↔ a.streams.has t = true
    rw [close_has (hstreams ▸ hs), hstreams]
  sendable t ht hnot := close_get? b s t fin (hstreams ▸ ht) hnot
  window t w hw := by
    have hw' : (if a.streams.has t then Except.ok (min (a.window t) a.connWindow) else .error H2Error.protocol) = .ok w := hw
    split at hw'
    · rename_i hhas
      cases hw'
      refine ⟨min (b.window t) b.connWindow, min_le_min (hwindow t) hconn, ?_⟩
      show (if (b.close s fin).streams.has t then Except.ok (min ((b.close s fin).window t) (b.close s fin).connWindow)
        else .error H2Error.protocol) = _
      rw [close_has (hstreams ▸ hs), hstreams, if_pos hhas, close_window, close_connWindow]
    · cases hw'
  frameSize := rfl

/-- The stream's state is left, or it is closed by a reset. -/
theorem receives_close (hs : a.streams.get? s = some true) : Receives (h2 initial) a [.streamReset s] (a.close s true) where
  sent := close_sent a s true
  fresh := by simp
  opened t := by
    show (a.close s true).streams.has t = true ↔ a.streams.has t = true ∨ _
    rw [close_has hs]
    simp
  sendable t ht := by
    by_cases hst : t = s
    · exact .inr (by simp [hst])
    · exact .inl (close_get? a s t true ht fun h => hst h.1)
  opening := by simp

/-- What is reported opens and resets nothing. -/
theorem receives_same (hstreams : b.streams = a.streams) (hsent : b.sent = a.sent)
    (hevents : ∀ t fin, .requestReceived t fin ∉ events) : Receives (h2 initial) a events b where
  sent := hsent
  fresh t fin ht := absurd ht (hevents t fin)
  opened t := by
    show b.streams.has t = true ↔ a.streams.has t = true ∨ _
    rw [hstreams]
    exact (or_iff_left fun ⟨fin, ht⟩ => hevents t fin ht).symm
  sendable t ht := by
    refine .inl ?_
    show b.streams.get? t = some true
    rw [hstreams]
    exact ht
  opening t fin ht := absurd ht (hevents t fin)

theorem receives_request {fin : Bool} (hs : a.streams.has s = false) :
    Receives (h2 initial) a (.requestReceived s fin :: if fin then [.streamEnded s] else [])
      { a with streams := a.streams.set s true } := by
  have hmem {t : StreamId} {fin' : Bool}
      (ht : Event.requestReceived t fin' ∈ Event.requestReceived s fin :: if fin then [.streamEnded s] else []) : t = s := by
    cases fin <;> simp at ht <;> exact ht.1
  exact {
    sent := rfl
    fresh := fun t fin' ht hopened => by
      have hopened' : a.streams.has t = true := hopened
      rw [hmem ht, hs] at hopened'
      cases hopened'
    opened := fun t => by
      show ((a.streams.set s true).get? t).isSome = true ↔ (a.streams.get? t).isSome = true ∨ _
      rw [Dict.get?_set]
      split
      · rename_i hst
        subst hst
        exact iff_of_true rfl (.inr ⟨fin, List.mem_cons_self⟩)
      · rename_i hne
        refine (or_iff_left ?_).symm
        rintro ⟨fin', ht⟩
        exact hne (hmem ht).symm
    sendable := fun t ht => by
      refine .inl ?_
      show (a.streams.set s true).get? t = some true
      rw [Dict.get?_set]
      split
      · rfl
      · exact ht
    opening := fun t fin' ht => by
      show (a.streams.set s true).get? t = some true
      rw [hmem ht, Dict.get?_set, if_pos rfl] }

theorem receiveFrame_spec {f : ClientFrame} (h : receiveFrame a f = .ok (events, b)) :
    Reports f events ∧ Receives (h2 initial) a events b := by
  cases f with
  | request s fin =>
    rw [receiveFrame] at h
    split at h
    · cases h
    · rename_i hs
      cases h
      exact ⟨.request s fin, receives_request (Bool.not_eq_true _ ▸ hs)⟩
  | data s bytes n fin =>
    rw [receiveFrame] at h
    cases hs : a.streams.get? s with
    | none =>
      rw [hs] at h
      cases h
    | some sendable =>
      rw [hs] at h
      cases sendable with
      | false =>
        cases h
        exact ⟨.ignored _, receives_same rfl rfl (by simp)⟩
      | true =>
        cases h
        exact ⟨.data s bytes n fin, receives_same rfl rfl (by cases fin <;> simp)⟩
  | windowUpdate s increment =>
    rw [receiveFrame] at h
    cases h
    refine ⟨.windowUpdate s increment, receives_same ?_ ?_ (by simp)⟩
    · split <;> rfl
    · split <;> rfl
  | reset s =>
    rw [receiveFrame] at h
    cases hs : a.streams.get? s with
    | none =>
      rw [hs] at h
      cases h
    | some sendable =>
      rw [hs] at h
      cases sendable with
      | false =>
        cases h
        exact ⟨.ignored _, receives_same rfl rfl (by simp)⟩
      | true =>
        cases h
        exact ⟨.reset s, receives_close hs⟩

theorem receiveFrame_not_closed (f : ClientFrame) : receiveFrame a f ≠ .error .streamClosed := by
  cases f with
  | request s fin =>
    rw [receiveFrame]
    split <;> simp
  | data s bytes n fin =>
    rw [receiveFrame]
    split <;> simp
  | windowUpdate s increment => simp [receiveFrame]
  | reset s =>
    rw [receiveFrame]
    split <;> simp

theorem sendHeaders_spec (headers : Headers) {fin : Bool} (h : sendHeaders a s headers fin = .ok b) :
    a.streams.get? s = some true ∧ Sends (h2 initial) a [{ stream := s, fin }] (fun t => t = s ∧ fin = true) b := by
  unfold sendHeaders at h
  split at h
  · rename_i hs
    cases h
    refine ⟨hs, sends_close _ hs ?_ ?_ ?_ ?_ fin⟩
    · rfl
    · rfl
    · intro t
      exact le_refl _
    · exact le_refl _
  · cases h

theorem sendData_spec {bytes : Bytes} {fin : Bool} (h : sendData a s bytes fin = .ok b) :
    a.streams.get? s = some true ∧ Sends (h2 initial) a [⟨s, bytes, fin, a.limit s⟩] (fun t => t = s ∧ fin = true) b := by
  unfold sendData at h
  split at h
  · rename_i hs
    split at h
    · cases h
      refine ⟨hs, sends_close _ hs ?_ ?_ ?_ ?_ fin⟩
      · rfl
      · rfl
      · intro t
        unfold window
        dsimp only
        rw [Dict.get?_set]
        split
        · rename_i hst
          subst hst
          show (a.windows.get? s).getD a.initial - bytes.length ≤ (a.windows.get? s).getD a.initial
          omega
        · exact le_refl _
      · show a.connWindow - bytes.length ≤ a.connWindow
        omega
    · cases h
  · cases h

theorem resetStream_spec (h : resetStream a s = .ok b) : Sends (h2 initial) a [] (· = s) b := by
  unfold resetStream at h
  split at h
  · rename_i hs
    cases h
    have hsends : Sends (h2 initial) a [] (fun t => t = s ∧ true = true) (a.close s true) :=
      sends_close a hs rfl (List.append_nil _).symm (fun t => le_refl _) (le_refl _) true
    exact hsends.mono fun t ht => ht.1
  · cases h

/-- A send is refused as on a closed stream when it is one. -/
theorem closed_of_refused (headers : Headers) (bytes : Bytes) (fin : Bool)
    (h : sendHeaders a s headers fin = .error .streamClosed ∨ sendData a s bytes fin = .error .streamClosed ∨
      resetStream a s = .error .streamClosed) : a.streams.get? s ≠ some true := by
  intro hs
  unfold sendHeaders sendData resetStream at h
  rw [if_pos hs, if_pos hs, if_pos hs] at h
  rcases h with h | h | h
  · cases h
  · split at h <;> cases h
  · cases h

/-- What is relied on holds of it. -/
theorem laws (initial : Int) : Laws (h2 initial) where
  init := ⟨rfl, fun s => nofun⟩
  reports := by
    intro c f events c' h
    have hspec : Reports f events ∧ Receives (h2 initial) c events c' := receiveFrame_spec h
    exact hspec.1
  receives h := (receiveFrame_spec h).2
  received := receiveFrame_not_closed _
  window h := if_pos (has_of_get? h)
  sendHeaders := by
    intro c s headers fin c' h
    exact sendHeaders_spec headers h
  headersClosed := by
    intro c s headers fin h
    exact closed_of_refused headers [] fin (.inl h)
  sendData h := sendData_spec h
  dataClosed := by
    intro c s bytes fin h
    exact closed_of_refused [] bytes fin (.inr (.inl h))
  resetStream h := resetStream_spec h
  resetClosed h := closed_of_refused [] [] true (.inr (.inr h))
  acknowledge := by
    intro c n s c' h
    cases h
    exact Sends.refl _
  acknowledged := nofun

end Windows

/-- A small response on every stream. -/
def sixBytes (_ : StreamId) : Reply := .answer [(":status", "200")] [1, 2, 3, 4, 5, 6]

end RideTheApi.Http2
