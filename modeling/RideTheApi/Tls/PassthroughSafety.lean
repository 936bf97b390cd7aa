import RideTheApi.Tls.Passthrough

/-!
# `Tls.PassthroughSafety` — a device is relayed once it refused, or wherever a handshake did not complete

Every handshake that comes back without having completed is taken for a refusal. In the runs in which no other ending
switches the relay on, a device that is relayed has refused the certificate or was configured so; and there are no other
such runs.
-/

namespace RideTheApi.Tls.Passthrough

open Py Transition

/-! ## The two models of the handshake -/

/-- A flush of less than it writes at a time leaves the BIO empty. -/
theorem flush_handshakeDrain (drained : Bool) : flush handshakeDrain drained [0] = ([.handed [0]], [], drained) := rfl

/-- The loop completes in both or in neither. -/
theorem completed_iff (turns : List Turn) (left : Nat) (attempts : Nat → Attempt) (k : Nat)
    (hattempts : ∀ i, attempts (k + i) = (turns[i]?.map Turn.attempt).getD ⟨[0], .failed, true⟩) :
    pumpTlsHandshake left turns = some .completed ↔ (Tls.pumpTlsHandshake attempts left k []).2.isSome = true := by
  induction turns generalizing left k with
  | nil =>
    cases left with
    | zero => simp [pumpTlsHandshake, Tls.pumpTlsHandshake]
    | succ left =>
      have hk : attempts k = ⟨[0], .failed, true⟩ := hattempts 0
      simp [pumpTlsHandshake, Tls.pumpTlsHandshake, hk]
  | cons turn turns ih =>
    cases left with
    | zero => simp [pumpTlsHandshake, Tls.pumpTlsHandshake]
    | succ left =>
      have hk : attempts k = turn.attempt := hattempts 0
      have hrest : ∀ i, attempts (k + 1 + i) = (turns[i]?.map Turn.attempt).getD ⟨[0], .failed, true⟩ := by
        intro i
        rw [Nat.add_assoc, Nat.add_comm 1 i, hattempts (i + 1), List.getElem?_cons_succ]
      have ih := ih left (k + 1) hrest
      cases turn with
      | done drained =>
        cases drained <;> simp [pumpTlsHandshake, Tls.pumpTlsHandshake, hk, Turn.attempt, flush_handshakeDrain]
      | wantRead drained read =>
        cases drained <;> cases read <;>
          simp [pumpTlsHandshake, Tls.pumpTlsHandshake, hk, Turn.attempt, flush_handshakeDrain, ih]
      | wantWrite drained =>
        cases drained <;> simp [pumpTlsHandshake, Tls.pumpTlsHandshake, hk, Turn.attempt, flush_handshakeDrain, ih]
      | sslError alert => cases alert <;> simp [pumpTlsHandshake, Tls.pumpTlsHandshake, hk, Turn.attempt]
      | raises => simp [pumpTlsHandshake, Tls.pumpTlsHandshake, hk, Turn.attempt]

/-! ## How a handshake ends -/

/-- The handshake goes on after the turn. -/
def Turn.goesOn : Turn → Bool
  | .wantRead drained read => drained && read = .bytes
  | .wantWrite drained     => drained
  | _                      => false

/-- The peer closes, the read times out, or it is a TLS error that no alert raised. -/
def Turn.fails : Turn → Bool
  | .wantRead drained read => drained && (read = .eof || read = .timeout)
  | .sslError alert        => !alert
  | _                      => false

/-- A turn fails after others that go on, or as many go on as there are attempts. -/
def FailsUnrefused (attempts : Nat) (turns : List Turn) : Prop :=
  (∃ before turn after, turns = before ++ turn :: after ∧ before.length < attempts ∧
    (∀ t ∈ before, t.goesOn = true) ∧ turn.fails = true) ∨
  (attempts ≤ turns.length ∧ ∀ t ∈ turns.take attempts, t.goesOn = true)

/-- The endings of a handshake that is neither completed nor refused, and where nothing was raised. -/
def Ending.unrefused : List Ending := [.closed, .timedOut, .exhausted, .tlsError]

/-- The first turn fails, or it goes on and the others fail. -/
theorem failsUnrefused_cons (left : Nat) (turn : Turn) (turns : List Turn) :
    FailsUnrefused (left + 1) (turn :: turns) ↔
      turn.fails = true ∨ (turn.goesOn = true ∧ FailsUnrefused left turns) := by
  constructor
  · rintro (⟨before, failing, after, heq, hlength, hbefore, hfails⟩ | ⟨hlength, hall⟩)
    · cases before with
      | nil =>
        obtain ⟨rfl, rfl⟩ := List.cons.inj heq
        exact .inl hfails
      | cons first before =>
        obtain ⟨rfl, rfl⟩ := List.cons.inj heq
        refine .inr ⟨hbefore turn List.mem_cons_self, .inl ⟨before, failing, after, rfl, ?_, ?_, hfails⟩⟩
        · exact Nat.lt_of_succ_lt_succ hlength
        · exact fun t ht => hbefore t (List.mem_cons_of_mem _ ht)
    · rw [List.take_succ_cons] at hall
      refine .inr ⟨hall turn List.mem_cons_self, .inr ⟨Nat.le_of_succ_le_succ hlength, ?_⟩⟩
      exact fun t ht => hall t (List.mem_cons_of_mem _ ht)
  · rintro (hfails | ⟨hgoes, ⟨before, failing, after, rfl, hlength, hbefore, hfails⟩ | ⟨hlength, hall⟩⟩)
    · exact .inl ⟨[], turn, turns, rfl, Nat.succ_pos left, by simp, hfails⟩
    · refine .inl ⟨turn :: before, failing, after, rfl, Nat.succ_lt_succ hlength, ?_, hfails⟩
      exact List.forall_mem_cons.mpr ⟨hgoes, hbefore⟩
    · refine .inr ⟨Nat.succ_le_succ hlength, ?_⟩
      rw [List.take_succ_cons]
      exact List.forall_mem_cons.mpr ⟨hgoes, hall⟩

/-- **What the loop makes of the turns**: an ending that is neither a completion nor a refusal, just there. -/
theorem pumpTlsHandshake_unrefused_iff (turns : List Turn) (left : Nat) :
    (∃ ending ∈ Ending.unrefused, pumpTlsHandshake left turns = some ending) ↔ FailsUnrefused left turns := by
  induction turns generalizing left with
  | nil =>
    cases left with
    | zero => simp [pumpTlsHandshake, FailsUnrefused, Ending.unrefused]
    | succ left => simp [pumpTlsHandshake, FailsUnrefused]
  | cons turn turns ih =>
    cases left with
    | zero => simp [pumpTlsHandshake, FailsUnrefused, Ending.unrefused]
    | succ left =>
      rw [failsUnrefused_cons, ← ih left]
      cases turn with
      | done drained => cases drained <;> simp [pumpTlsHandshake, Turn.goesOn, Turn.fails, Ending.unrefused]
      | wantRead drained read =>
        cases drained <;> cases read <;> simp [pumpTlsHandshake, Turn.goesOn, Turn.fails, Ending.unrefused]
      | wantWrite drained => cases drained <;> simp [pumpTlsHandshake, Turn.goesOn, Turn.fails, Ending.unrefused]
      | sslError alert => cases alert <;> simp [pumpTlsHandshake, Turn.goesOn, Turn.fails, Ending.unrefused]
      | raises => simp [pumpTlsHandshake, Turn.goesOn, Turn.fails, Ending.unrefused]

/-! ## What marking leaves -/

section
variable {extra extra' : Attributes} {sni : Option Str} {now key : Str} {value : Json}

theorem passthrough_set_of_ne (h : key ≠ str "tls_passthrough") :
    passthrough (extra.set key value) = passthrough extra := by
  unfold passthrough
  rw [Dict.get?_set, if_neg h]

theorem passthrough_set_self : passthrough (extra.set "tls_passthrough" value) = value.truthy := by
  unfold passthrough
  rw [Dict.get?_set, if_pos rfl, Option.getD_some]

/-- The hostnames seen can be listed. -/
def Listed (extra : Attributes) : Prop :=
  (Json.iter (Json.orElse ((extra.get? "seen_hostnames").getD .null) (.arr []))).toOption.isSome = true

theorem get?_setUnless_of_ne {key' : Str} (h : key ≠ key') : (setUnless extra key value).get? key' = extra.get? key' := by
  unfold setUnless
  split
  · rfl
  · rw [Dict.get?_set, if_neg h]

/-- Marking raises only where the hostnames cannot be listed. -/
theorem markedUntrusted_isSome_iff : (markedUntrusted extra sni now).toOption.isSome = true ↔ Listed extra := by
  have hreason (extra : Attributes) (value : Json) :
      (setUnless extra "tls_untrusted_reason" value).get? "seen_hostnames" = extra.get? "seen_hostnames" :=
    get?_setUnless_of_ne (by decide)
  have hfirst (extra : Attributes) (value : Json) :
      (setUnless extra "tls_first_refusal_at" value).get? "seen_hostnames" = extra.get? "seen_hostnames" :=
    get?_setUnless_of_ne (by decide)
  have hset (extra : Attributes) (value : Json) {key : Str} (hkey : key ≠ str "seen_hostnames") :
      (Dict.set extra key value).get? "seen_hostnames" = extra.get? "seen_hostnames" := by
    rw [Dict.get?_set, if_neg hkey]
  unfold markedUntrusted Listed
  dsimp only
  rw [hreason, hset _ _ (by decide), hfirst, hset _ _ (by decide), hset _ _ (by decide)]
  cases Json.iter (Json.orElse ((extra.get? "seen_hostnames").getD .null) (.arr [])) <;> rfl

end

namespace State

variable {selfConnection : Str → Bool} {s : State}

/-- The device refused the certificate, or the operator switched the relay on for it. -/
def Agreed (s : State) (deviceId : Str) : Prop := deviceId ∈ s.refused ∨ deviceId ∈ s.configured

/-- No device is relayed, or to be relayed, that did not refuse, and nothing else than an alert has switched that on. -/
structure Honest (s : State) : Prop where
  set : s.misset = []
  flagged : ∀ deviceId extra, s.rows.get? deviceId = some extra → passthrough extra = true → s.Agreed deviceId
  relayed : ∀ deviceId ∈ s.relayed, s.Agreed deviceId

/-- A handshake of the device can be recorded: it named a host and is not the proxy's own, and the row is there, was
    selected and can be written. -/
def Recordable (s : State) (selfConnection : Str → Bool) (conn : Connection) (deviceId : Str) (i : Option Nat) : Prop :=
  conn.named = true ∧ selfConnection conn.clientIp = false ∧ s.rows.has deviceId = true ∧
    ∃ extra, i.bind (s.row deviceId) = some extra ∧ Listed extra

/-- The device is relayed, or to be relayed, already. -/
def Relayed (s : State) (deviceId : Str) : Prop := (s.rows.get? deviceId).any passthrough = true

/-- A handshake that failed and was not refused is recorded for no device that is not relayed already. -/
def OnlyAlerts (selfConnection : Str → Bool) (s : State) : Event → Prop
  | .handshake c turns resolved i _ =>
    ∀ conn, s.connections.get? c = some conn → FailsUnrefused maxAttempts turns →
      s.Recordable selfConnection conn (deviceOf conn.clientIp resolved) i → s.Relayed (deviceOf conn.clientIp resolved)
  | _ => True

/-- What vouches for a device anywhere in memory. -/
structure Vouched (s : State) : Prop where
  rows : ∀ deviceId extra, s.rows.get? deviceId = some extra → passthrough extra = true → s.Agreed deviceId
  cache : ∀ deviceId extra, s.cache.get? deviceId = some (some extra) → passthrough extra = true → s.Agreed deviceId
  selected : ∀ r ∈ s.selected, passthrough r.2 = true → s.Agreed r.1
  relayed : ∀ deviceId ∈ s.relayed, s.Agreed deviceId

/-- A selected row of a device was selected. -/
theorem mem_of_row {deviceId : Str} {i : Nat} {extra : Attributes} (h : s.row deviceId i = some extra) :
    (deviceId, extra) ∈ s.selected := by
  obtain ⟨r, hr, hrow⟩ := Option.bind_eq_some_iff.mp h
  by_cases hid : r.1 = deviceId
  · rw [if_pos hid, Option.some.injEq] at hrow
    have heq : r = (deviceId, extra) := Prod.ext hid hrow
    exact heq ▸ List.mem_of_getElem? hr
  · rw [if_neg hid] at hrow
    cases hrow

/-- Nothing is in memory at the start. -/
theorem vouched_start : ({} : State).Vouched := by
  refine ⟨fun _ _ h => ?_, fun _ _ h => ?_, fun _ h => ?_, fun _ h => ?_⟩ <;> cases h

/-- **What a step must show**: what is new in memory is vouched for, and nobody's word is forgotten. -/
theorem Vouched.of {s' : State} (h : s.Vouched) (hagreed : ∀ deviceId, s.Agreed deviceId → s'.Agreed deviceId)
    (hrows : ∀ deviceId extra, s'.rows.get? deviceId = some extra →
      s.rows.get? deviceId = some extra ∨ (passthrough extra = true → s'.Agreed deviceId))
    (hcache : ∀ deviceId extra, s'.cache.get? deviceId = some (some extra) →
      s.cache.get? deviceId = some (some extra) ∨ (passthrough extra = true → s'.Agreed deviceId))
    (hselected : ∀ r ∈ s'.selected, r ∈ s.selected ∨ (passthrough r.2 = true → s'.Agreed r.1))
    (hrelayed : ∀ deviceId ∈ s'.relayed, deviceId ∈ s.relayed ∨ s'.Agreed deviceId) : s'.Vouched := by
  refine ⟨fun deviceId extra hget hflag => ?_, fun deviceId extra hget hflag => ?_, fun r hr hflag => ?_,
    fun deviceId hmem => ?_⟩
  · exact (hrows deviceId extra hget).elim (fun hold => hagreed _ (h.rows _ _ hold hflag)) fun hnew => hnew hflag
  · exact (hcache deviceId extra hget).elim (fun hold => hagreed _ (h.cache _ _ hold hflag)) fun hnew => hnew hflag
  · exact (hselected r hr).elim (fun hold => hagreed _ (h.selected r hold hflag)) fun hnew => hnew hflag
  · exact (hrelayed deviceId hmem).elim (fun hold => hagreed _ (h.relayed _ hold)) id

/-- A row written by a commit: its own, or the one that was there. -/
theorem rows_set {deviceId d : Str} {extra e : Attributes} (h : (s.rows.set deviceId extra).get? d = some e) :
    s.rows.get? d = some e ∨ (d = deviceId ∧ e = extra) := by
  rw [Dict.get?_set] at h
  by_cases hid : deviceId = d
  · rw [if_pos hid, Option.some.injEq] at h
    exact .inr ⟨hid.symm, h.symm⟩
  · rw [if_neg hid] at h
    exact .inl h

/-- A cached row that is left is the one that was there. -/
theorem cache_erase {deviceId d : Str} {e : Option Attributes} (h : (s.cache.erase deviceId).get? d = some e) :
    s.cache.get? d = some e := by
  rw [Dict.get?_erase] at h
  by_cases hid : deviceId = d
  · rw [if_pos hid] at h
    cases h
  · rwa [if_neg hid] at h

/-- A relayed connection is of a device whose row says so. -/
theorem Vouched.shouldRelay (h : s.Vouched) {resolved : Option Str} {lookup : Lookup} {deviceId : Str}
    (hrelay : s.shouldRelayTls resolved lookup = some deviceId) : s.Agreed deviceId := by
  unfold shouldRelayTls at hrelay
  rw [Option.filter_eq_some_iff] at hrelay
  obtain ⟨-, hrelay⟩ := hrelay
  simp only [Bool.and_eq_true, Option.any_eq_true] at hrelay
  obtain ⟨-, extra, hlookup, hflag⟩ := hrelay
  cases lookup with
  | cached =>
    rw [lookUp, Option.join_eq_some_iff] at hlookup
    exact h.cache deviceId extra hlookup hflag
  | row i => exact h.selected (deviceId, extra) (mem_of_row hlookup) hflag
  | fails => cases hlookup

/-! ## A handshake that ended -/

variable {conn : Connection} {deviceId now : Str} {i : Option Nat} {ending : Ending}

/-- A handshake that is not recorded leaves the registry alone. -/
theorem markDeviceUntrusted_none (h : s.recorded selfConnection conn deviceId i now = none) :
    s.markDeviceUntrusted selfConnection conn deviceId i now ending = s := by
  unfold markDeviceUntrusted
  rw [h]

/-- One that is recorded writes the row; what it switches on unduly is the device that was not relayed before. -/
theorem markDeviceUntrusted_some {extra : Attributes} (h : s.recorded selfConnection conn deviceId i now = some extra) :
    s.markDeviceUntrusted selfConnection conn deviceId i now ending =
      { s with
        rows := s.rows.set deviceId extra
        cache := s.cache.erase deviceId
        misset := if ending = .alert || (s.rows.get? deviceId).any passthrough then s.misset
          else (deviceId, ending) :: s.misset } := by
  unfold markDeviceUntrusted
  rw [h]

/-- What is recorded is of a device, and can be. -/
theorem recorded_isSome_iff : (conn.named = true ∧ (s.recorded selfConnection conn deviceId i now).isSome = true) ↔
    s.Recordable selfConnection conn deviceId i := by
  unfold recorded Recordable
  refine and_congr_right fun _ => ?_
  by_cases hrow : (selfConnection conn.clientIp || !s.rows.has deviceId) = true
  · rw [if_pos hrow]
    refine iff_of_false (by simp) ?_
    rintro ⟨hself, hhas, -⟩
    simp [hself, hhas] at hrow
  · rw [if_neg hrow]
    simp only [Bool.or_eq_true, Bool.not_eq_true', not_or, Bool.not_eq_true, Bool.not_eq_false] at hrow
    cases hsel : i.bind (s.row deviceId) with
    | none => simp
    | some extra => simp [hrow, markedUntrusted_isSome_iff]

/-- The endings that the caller takes for a refusal: the peer's alert, and four others. -/
theorem handshakeOk_false_iff : ending.handshakeOk = some false ↔ ending = .alert ∨ ending ∈ Ending.unrefused := by
  cases ending <;> simp [Ending.handshakeOk, Ending.unrefused]

/-- A handshake that fails unrefused and is recorded switches the relay on, unless it was on. -/
theorem misset_handshakeEnded (h : s.misset = []) :
    (s.handshakeEnded selfConnection conn deviceId i now ending).misset = [] ↔
      (ending ∈ Ending.unrefused → s.Recordable selfConnection conn deviceId i → s.Relayed deviceId) := by
  unfold State.handshakeEnded
  generalize hrefused : (if ending = .alert && !selfConnection conn.clientIp then deviceId :: s.refused else s.refused) =
    refused
  by_cases hfail : (decide (ending.handshakeOk = some false) && conn.named) = true
  · rw [if_pos hfail]
    simp only [Bool.and_eq_true, decide_eq_true_eq] at hfail
    have hrecordable : (conn.named = true ∧ (s.recorded selfConnection conn deviceId i now).isSome = true) ↔
        s.Recordable selfConnection conn deviceId i := recorded_isSome_iff
    rw [← hrecordable]
    cases hrecorded : s.recorded selfConnection conn deviceId i now with
    | none =>
      rw [markDeviceUntrusted_none (s := { s with refused }) hrecorded]
      simp [h]
    | some extra =>
      rw [markDeviceUntrusted_some (s := { s with refused }) hrecorded]
      rcases handshakeOk_false_iff.mp hfail.1 with rfl | hending
      · simp [h, Ending.unrefused]
      · have hne : ending ≠ .alert := by
          rintro rfl
          simp [Ending.unrefused] at hending
        simp [h, Relayed, hne, hending, hfail.2]
  · rw [if_neg hfail]
    simp only [Bool.and_eq_true, decide_eq_true_eq, not_and] at hfail
    refine iff_of_true h fun hending hrec => ?_
    exact absurd hrec.1 (hfail (handshakeOk_false_iff.mpr (.inr hending)))

/-- What a handshake leaves is vouched for, if it was refused or the device was relayed. -/
theorem Vouched.handshakeEnded (h : s.Vouched)
    (hduly : ending ∈ Ending.unrefused → s.Recordable selfConnection conn deviceId i → s.Relayed deviceId) :
    (s.handshakeEnded selfConnection conn deviceId i now ending).Vouched := by
  unfold State.handshakeEnded
  have hrefused : s.refused ⊆
      if ending = .alert && !selfConnection conn.clientIp then deviceId :: s.refused else s.refused := by
    split
    · exact List.subset_cons_self _ _
    · exact List.Subset.refl _
  have halert : selfConnection conn.clientIp = false → ending = .alert →
      deviceId ∈ if ending = .alert && !selfConnection conn.clientIp then deviceId :: s.refused else s.refused := by
    intro hself hending
    simp [hself, hending]
  generalize (if ending = .alert && !selfConnection conn.clientIp then deviceId :: s.refused else s.refused) = refused
    at hrefused halert
  have hagreed : ∀ d, s.Agreed d → ({ s with refused } : State).Agreed d :=
    fun d hd => hd.imp_left fun hmem => hrefused hmem
  have hnoted : ({ s with refused } : State).Vouched :=
    h.of hagreed (fun _ _ hget => .inl hget) (fun _ _ hget => .inl hget) (fun _ hr => .inl hr) (fun _ hmem => .inl hmem)
  by_cases hfail : (decide (ending.handshakeOk = some false) && conn.named) = true
  · rw [if_pos hfail]
    simp only [Bool.and_eq_true, decide_eq_true_eq] at hfail
    cases hrecorded : s.recorded selfConnection conn deviceId i now with
    | none =>
      rw [markDeviceUntrusted_none (s := { s with refused }) hrecorded]
      exact hnoted
    | some extra =>
      rw [markDeviceUntrusted_some (s := { s with refused }) hrecorded]
      have hrecordable : s.Recordable selfConnection conn deviceId i :=
        recorded_isSome_iff.mp ⟨hfail.2, Option.isSome_of_eq_some hrecorded⟩
      -- the device that is marked refused just now, or was relayed before
      have hdevice : ({ s with refused } : State).Agreed deviceId := by
        rcases handshakeOk_false_iff.mp hfail.1 with hending | hending
        · exact .inl (halert hrecordable.2.1 hending)
        · have hbefore := hduly hending hrecordable
          simp only [Relayed, Option.any_eq_true] at hbefore
          obtain ⟨before, hget, hflag⟩ := hbefore
          exact hagreed _ (h.rows deviceId before hget hflag)
      refine hnoted.of (fun _ hd => hd) (fun d e hget => ?_) (fun d e hget => .inl (cache_erase hget)) (fun _ hr => .inl hr)
        (fun _ hmem => .inl hmem)
      rcases rows_set hget with hold | ⟨rfl, -⟩
      · exact .inl hold
      · exact .inr fun _ => hdevice
  · rw [if_neg hfail]
    exact hnoted

/-! ## One event -/

/-- **One event** is honest exactly where no handshake switches the relay on unduly. -/
theorem misset_next (h : s.misset = []) (e : Event) :
    (s.next selfConnection e).misset = [] ↔ OnlyAlerts selfConnection s e := by
  cases e with
  | handshake c turns resolved i now =>
    simp only [State.next, OnlyAlerts]
    cases hconn : s.connections.get? c with
    | none => simp [h]
    | some conn =>
      cases hending : pumpTlsHandshake maxAttempts turns with
      | none =>
        refine iff_of_true h fun conn' _ hfails => ?_
        obtain ⟨ending, -, heq⟩ := (pumpTlsHandshake_unrefused_iff turns maxAttempts).mpr hfails
        rw [hending] at heq
        cases heq
      | some ending =>
        rw [misset_handshakeEnded (s := { s with connections := s.connections.erase c }) h]
        constructor
        · rintro hended conn' hc hfails hrec
          cases hc
          obtain ⟨ending', hmem, heq⟩ := (pumpTlsHandshake_unrefused_iff turns maxAttempts).mpr hfails
          rw [hending, Option.some.injEq] at heq
          exact hended (heq ▸ hmem) hrec
        · intro honly hmem hrec
          exact honly conn rfl ((pumpTlsHandshake_unrefused_iff turns maxAttempts).mp ⟨ending, hmem, hending⟩) hrec
  | select deviceId =>
    refine iff_of_true ?_ trivial
    simp only [State.next]
    cases s.rows.get? deviceId <;> exact h
  | rewrite i key value =>
    refine iff_of_true ?_ trivial
    simp only [State.next]
    split
    · split <;> exact h
    · exact h
  | configure i value =>
    refine iff_of_true ?_ trivial
    simp only [State.next]
    split
    · split <;> exact h
    · exact h
  | hello c clientIp sni resolved lookup =>
    refine iff_of_true ?_ trivial
    simp only [State.next]
    split
    · exact h
    · split <;> exact h
  | _ => exact iff_of_true h trivial

/-- A row that is created has no attributes. -/
theorem Vouched.create (h : s.Vouched) (deviceId : Str) : (s.next selfConnection (.create deviceId)).Vouched := by
  refine h.of (fun _ hd => hd) (fun d e hget => ?_) (fun d e hget => .inl (cache_erase hget)) (fun _ hr => .inl hr)
    (fun _ hmem => .inl hmem)
  change (s.rows.setDefault deviceId []).get? d = some e at hget
  unfold Dict.setDefault at hget
  split at hget
  · exact .inl hget
  · rcases rows_set hget with hold | ⟨-, rfl⟩
    · exact .inl hold
    · exact .inr fun hflag => by cases hflag

theorem Vouched.remove (h : s.Vouched) (deviceId : Str) : (s.next selfConnection (.remove deviceId)).Vouched := by
  refine h.of (fun _ hd => hd) (fun d e hget => ?_) (fun d e hget => .inl (cache_erase hget)) (fun _ hr => .inl hr)
    (fun _ hmem => .inl hmem)
  change (s.rows.erase deviceId).get? d = some e at hget
  rw [Dict.get?_erase] at hget
  split at hget
  · cases hget
  · exact .inl hget

/-- What is selected is a row. -/
theorem Vouched.select (h : s.Vouched) (deviceId : Str) : (s.next selfConnection (.select deviceId)).Vouched := by
  simp only [State.next]
  cases hget : s.rows.get? deviceId with
  | none => exact h
  | some extra =>
    refine h.of (fun _ hd => hd) (fun _ _ hget => .inl hget) (fun _ _ hget => .inl hget) (fun r hr => ?_)
      (fun _ hmem => .inl hmem)
    rcases List.mem_append.mp hr with hold | hnew
    · exact .inl hold
    · rw [List.mem_singleton.mp hnew]
      exact .inr fun hflag => h.rows deviceId extra hget hflag

/-- What is cached was selected. -/
theorem Vouched.keep (h : s.Vouched) (deviceId : Str) (i : Option Nat) :
    (s.next selfConnection (.keep deviceId i)).Vouched := by
  refine h.of (fun _ hd => hd) (fun _ _ hget => .inl hget) (fun d e hget => ?_) (fun _ hr => .inl hr)
    (fun _ hmem => .inl hmem)
  change (s.cache.set deviceId (i.bind (s.row deviceId))).get? d = some (some e) at hget
  rw [Dict.get?_set] at hget
  by_cases hid : deviceId = d
  · subst hid
    rw [if_pos rfl, Option.some.injEq] at hget
    obtain ⟨i, -, hrow⟩ := Option.bind_eq_some_iff.mp hget
    exact .inr fun hflag => h.selected (deviceId, e) (mem_of_row hrow) hflag
  · rw [if_neg hid] at hget
    exact .inl hget

/-- A row that is written back says of the relay what was selected, which may be old. -/
theorem Vouched.rewrite (h : s.Vouched) (i : Nat) (key : Str) (value : Json) :
    (s.next selfConnection (.rewrite i key value)).Vouched := by
  simp only [State.next]
  split
  next deviceId extra hselected =>
    split
    next hkey =>
      refine h.of (fun _ hd => hd) (fun d e hget => ?_) (fun _ _ hget => .inl hget) (fun _ hr => .inl hr)
        (fun _ hmem => .inl hmem)
      rcases rows_set hget with hold | ⟨rfl, rfl⟩
      · exact .inl hold
      · refine .inr fun hflag => ?_
        rw [passthrough_set_of_ne hkey.1] at hflag
        exact h.selected (d, extra) (List.mem_of_getElem? hselected) hflag
    next => exact h
  next => exact h

/-- Where the operator switches the relay on, the operator is who vouches. -/
theorem Vouched.configure (h : s.Vouched) (i : Nat) (value : Json) :
    (s.next selfConnection (.configure i value)).Vouched := by
  simp only [State.next]
  split
  next deviceId extra hselected =>
    split
    next =>
      have hagreed : ∀ d, s.Agreed d → d ∈ s.refused ∨
          d ∈ if value.truthy then deviceId :: s.configured else s.configured := by
        rintro d (hd | hd)
        · exact .inl hd
        · refine .inr ?_
          split
          · exact List.mem_cons_of_mem _ hd
          · exact hd
      refine h.of hagreed (fun d e hget => ?_) (fun d e hget => .inl (cache_erase hget)) (fun _ hr => .inl hr)
        (fun _ hmem => .inl hmem)
      rcases rows_set hget with hold | ⟨rfl, rfl⟩
      · exact .inl hold
      · refine .inr fun hflag => .inr ?_
        rw [passthrough_set_self] at hflag
        rw [if_pos hflag]
        exact List.mem_cons_self
    next => exact h
  next => exact h

/-- A connection that is relayed is of a device that is vouched for. -/
theorem Vouched.hello (h : s.Vouched) (c : Nat) (clientIp : Str) (sni resolved : Option Str) (lookup : Lookup) :
    (s.next selfConnection (.hello c clientIp sni resolved lookup)).Vouched := by
  simp only [State.next]
  split
  next deviceId hrelay =>
    refine h.of (fun _ hd => hd) (fun _ _ hget => .inl hget) (fun _ _ hget => .inl hget) (fun _ hr => .inl hr)
      (fun d hmem => ?_)
    rcases List.mem_cons.mp hmem with rfl | hold
    · refine .inr ?_
      split at hrelay
      · exact h.shouldRelay hrelay
      · cases hrelay
    · exact .inl hold
  next =>
    split
    · exact h
    · exact h.of (fun _ hd => hd) (fun _ _ hget => .inl hget) (fun _ _ hget => .inl hget) (fun _ hr => .inl hr)
        (fun _ hmem => .inl hmem)

theorem Vouched.handshake (h : s.Vouched) {c : Nat} {turns : List Turn} {resolved : Option Str}
    (he : OnlyAlerts selfConnection s (.handshake c turns resolved i now)) :
    (s.next selfConnection (.handshake c turns resolved i now)).Vouched := by
  simp only [State.next]
  cases hconn : s.connections.get? c with
  | none => exact h
  | some conn =>
    cases hending : pumpTlsHandshake maxAttempts turns with
    | none => exact h
    | some ending =>
      have hclosed : ({ s with connections := s.connections.erase c } : State).Vouched :=
        h.of (fun _ hd => hd) (fun _ _ hget => .inl hget) (fun _ _ hget => .inl hget) (fun _ hr => .inl hr)
          (fun _ hmem => .inl hmem)
      refine hclosed.handshakeEnded fun hmem hrec => he conn hconn ?_ hrec
      exact (pumpTlsHandshake_unrefused_iff turns maxAttempts).mp ⟨ending, hmem, hending⟩

/-- **One event** keeps what is vouched for. -/
theorem Vouched.next (h : s.Vouched) {e : Event} (he : OnlyAlerts selfConnection s e) :
    (s.next selfConnection e).Vouched := by
  cases e with
  | create deviceId => exact h.create deviceId
  | remove deviceId => exact h.remove deviceId
  | select deviceId => exact h.select deviceId
  | keep deviceId i => exact h.keep deviceId i
  | forget deviceId =>
    exact h.of (fun _ hd => hd) (fun _ _ hget => .inl hget) (fun d e hget => .inl (cache_erase hget)) (fun _ hr => .inl hr)
      (fun _ hmem => .inl hmem)
  | rewrite i key value => exact h.rewrite i key value
  | configure i value => exact h.configure i value
  | hello c clientIp sni resolved lookup => exact h.hello c clientIp sni resolved lookup
  | handshake c turns resolved i now => exact h.handshake he
  | restart =>
    -- the cache and what was selected go, the rows stay
    exact h.of (fun _ hd => hd) (fun _ _ hget => .inl hget) (fun _ _ hget => by cases hget) (fun _ hr => by cases hr)
      (fun _ hmem => .inl hmem)

/-! ## Every run -/

/-- **A device stops being decrypted only after it refused the certificate**, at every point of a run, iff no handshake
    that ends by the peer's close, a time-out, the attempt limit or a TLS error of another kind is recorded for a device
    that is not relayed already. -/
theorem honest_iff (selfConnection : Str → Bool) (es : List Event) :
    (∀ pre, pre <+: es → ∀ s, exec (step selfConnection) {} pre = some s → s.Honest) ↔
      AllOk (step selfConnection) (OnlyAlerts selfConnection) {} es := by
  have htotal : ∀ s l, ∃ s', step selfConnection s l = some s' := fun s l => ⟨_, rfl⟩
  have hset : (∀ pre, pre <+: es → ∀ s, exec (step selfConnection) {} pre = some s → s.misset = []) ↔
      AllOk (step selfConnection) (OnlyAlerts selfConnection) {} es :=
    forall_prefix_iff_allOk htotal (fun s e s' hs hstep => by cases hstep; exact misset_next hs e) rfl
  constructor
  · exact fun h => hset.mp fun pre hpre s hs => (h pre hpre s hs).set
  · intro hok pre hpre s hs
    obtain ⟨rest, rfl⟩ := hpre
    have hreached : ReachesUnder (step selfConnection) (OnlyAlerts selfConnection) {} s :=
      reachesUnder_of_exec .start pre hs hok.of_append
    have hvouched : s.Vouched :=
      hreached.invariant vouched_start fun s e s' hv he hstep => by cases hstep; exact hv.next he
    exact ⟨hset.mpr hok pre (List.prefix_append _ _) s hs, hvouched.rows, hvouched.relayed⟩

/-- A camera whose handshake times out, and which connects again. -/
def slowCamera : List Event :=
  [.create "cam", .select "cam", .hello 0 "192.168.1.9" (some (str "a.example")) (some (str "cam")) (.row 0),
    .handshake 0 [.wantRead true .timeout] (some (str "cam")) (some 0) "2024-01-01", .select "cam",
    .hello 1 "192.168.1.9" (some (str "a.example")) (some (str "cam")) (.row 1)]

/-- It is relayed from then on, and refused nothing. -/
theorem timeout_not_honest :
    ¬ ∀ es pre, pre <+: es → ∀ s, exec (step fun _ => false) {} pre = some s → s.Honest := by
  intro h
  have hrun : ((exec (step fun _ => false) {} slowCamera).map fun s => (s.relayed, s.refused, s.configured)) =
      some ([str "cam"], [], []) := by decide
  obtain ⟨s, hs, hends⟩ := Option.map_eq_some_iff.mp hrun
  simp only [Prod.mk.injEq] at hends
  have hagreed := (h slowCamera slowCamera (List.prefix_refl _) s hs).relayed "cam" (by simp [hends])
  simp [Agreed, hends] at hagreed

end State

end RideTheApi.Tls.Passthrough
