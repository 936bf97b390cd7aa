import RideTheApi.Forward.Cloud

/-!
# `Forward.Delivery` — how many addresses get the whole request

The loop of `forward_intercepted` goes on after a timeout, a reset or a malformed answer, which may come after the
request was sent in full. So the request is delivered once exactly when no delivery that was followed by such a failure
is followed by another delivery.
-/

namespace RideTheApi.Forward

open Py

variable {I : Interp} {F : FloatReader I} {lib : HttpClient} {o : Outgoing}

section
variable (I lib o)

/-- The address gets the whole request: the connection was made, the request is well formed, its bytes arrive. -/
def gets (link : Link) : Bool := link.connects && (requestBytes I lib o).isSome && link.delivered

/-- The events make a response: a status line, a body within the bound, and an end. -/
def answers (events : List Event) : Bool := (readResponse I events none [] []).toBool

/-- The attempt ends in a failure after which the next address is tried. -/
def goesOn (link : Link) : Bool :=
  !link.connects || (requestBytes I lib o).isSome && (!link.drained || !answers I link.events)

end

/-- The network at attempt `k`. -/
def linkAt (links : List Link) (k : Nat) : Link := links.getD k .refused

theorem linkAt_zero (links : List Link) : linkAt links 0 = links.headD .refused := by
  cases links <;> rfl

theorem linkAt_succ (links : List Link) (k : Nat) : linkAt links (k + 1) = linkAt links.tail k := by
  cases links <;> rfl

/-- Whatever goes wrong while the response is read, the next address is tried. -/
theorem readResponse_caught {events : List Event} {status : Option Nat} {headers : Dict Str Str} {body : Bytes}
    {e : ForwardExn} (h : readResponse I events status headers body = .error e) : e.caught = true := by
  have hended : ∀ {status headers body}, readResponse.ended status headers body = .error e → e.caught = true := by
    intro status headers body h
    cases status with
    | none => cases h; rfl
    | some _ => cases h
  induction events generalizing status headers body with
  | nil => cases h; rfl
  | cons event events ih =>
    cases event with
    | needData fails =>
      rw [readResponse] at h
      split at h
      · cases h; rfl
      · exact ih h
    | informational => exact ih h
    | response _ _ => exact ih h
    | data chunk =>
      rw [readResponse] at h
      split at h
      · cases h; rfl
      · exact ih h
    | malformed => cases h; rfl
    | endOfMessage => exact hended h
    | connectionClosed => exact hended h

theorem forward_delivered (link : Link) : (forward I lib o link).delivered = gets I lib o link := by
  unfold forward gets
  cases link.connects with
  | false => rfl
  | true =>
    cases requestBytes I lib o with
    | none => rfl
    | some bytes => cases link.drained <;> rfl

/-- An attempt that goes on ends in an exception that is caught. -/
theorem forward_of_goesOn {link : Link} (h : goesOn I lib o link = true) :
    ∃ e, (forward I lib o link).result = .error e ∧ e.caught = true := by
  unfold forward
  unfold goesOn answers at h
  cases hc : link.connects with
  | false => exact ⟨_, rfl, rfl⟩
  | true =>
    cases hb : requestBytes I lib o with
    | none => simp [hc, hb] at h
    | some bytes =>
      cases hd : link.drained with
      | false => exact ⟨_, rfl, rfl⟩
      | true =>
        cases hr : readResponse I link.events none [] [] with
        | ok response => simp [hc, hb, hd, hr, Except.toBool] at h
        | error e => exact ⟨e, rfl, readResponse_caught hr⟩

/-- Any other attempt is the last one. -/
theorem forward_of_not_goesOn {link : Link} (h : goesOn I lib o link = false) :
    (∃ response, (forward I lib o link).result = .ok response) ∨
      ∃ e, (forward I lib o link).result = .error e ∧ e.caught = false := by
  unfold forward
  unfold goesOn answers at h
  cases hc : link.connects with
  | false => simp [hc] at h
  | true =>
    cases hb : requestBytes I lib o with
    | none => exact .inr ⟨_, rfl, rfl⟩
    | some bytes =>
      cases hd : link.drained with
      | false => simp [hc, hb, hd] at h
      | true =>
        cases hr : readResponse I link.events none [] [] with
        | ok response => exact .inl ⟨response, rfl⟩
        | error e => simp [hc, hb, hd, hr, Except.toBool] at h

/-- What one attempt that goes on adds to the run. -/
theorem tryAddresses_goesOn {ip : Str} {ips : List Str} {links : List Link}
    (h : goesOn I lib o (linkAt links 0) = true) :
    (tryAddresses F lib o (ip :: ips) links).deliveries =
      (if gets I lib o (linkAt links 0) then [ip] else []) ++ (tryAddresses F lib o ips links.tail).deliveries := by
  obtain ⟨e, hresult, hcaught⟩ := forward_of_goesOn h
  rw [linkAt_zero] at hresult
  rw [← forward_delivered, linkAt_zero, tryAddresses]
  simp only [hresult, hcaught, if_true]

/-- The last attempt. -/
theorem tryAddresses_last {ip : Str} {ips : List Str} {links : List Link}
    (h : goesOn I lib o (linkAt links 0) = false) :
    (tryAddresses F lib o (ip :: ips) links).deliveries =
      if gets I lib o (linkAt links 0) then [ip] else [] := by
  rw [← forward_delivered]
  rcases forward_of_not_goesOn h with ⟨response, hresult⟩ | ⟨e, hresult, hcaught⟩
  · rw [linkAt_zero] at hresult ⊢
    rw [tryAddresses]
    simp only [hresult]
  · rw [linkAt_zero] at hresult ⊢
    rw [tryAddresses]
    simp only [hresult, hcaught, Bool.false_eq_true, if_false]

/-- Nothing is delivered iff no attempt that is made delivers. -/
theorem deliveries_eq_nil_iff (ips : List Str) (links : List Link) :
    (tryAddresses F lib o ips links).deliveries = [] ↔
      ∀ j < ips.length, (∀ k < j, goesOn I lib o (linkAt links k) = true) →
        gets I lib o (linkAt links j) = false := by
  induction ips generalizing links with
  | nil => exact ⟨fun _ j hj => absurd hj (Nat.not_lt_zero j), fun _ => rfl⟩
  | cons ip ips ih =>
    cases hon : goesOn I lib o (linkAt links 0) with
    | false =>
      rw [tryAddresses_last hon]
      constructor
      · intro h j hj hbefore
        cases j with
        | zero => simpa using h
        | succ j =>
          rw [hbefore 0 (Nat.succ_pos j)] at hon
          cases hon
      · intro h
        have hfirst := h 0 (Nat.succ_pos _) fun k hk => absurd hk (Nat.not_lt_zero k)
        simp [hfirst]
    | true =>
      rw [tryAddresses_goesOn hon, List.append_eq_nil_iff, ih]
      constructor
      · rintro ⟨hfirst, hrest⟩ j hj hbefore
        cases j with
        | zero => simpa using hfirst
        | succ j =>
          rw [linkAt_succ]
          refine hrest j (Nat.lt_of_succ_lt_succ hj) fun k hk => ?_
          rw [← linkAt_succ]
          exact hbefore (k + 1) (Nat.succ_lt_succ hk)
      · intro h
        have hfirst := h 0 (Nat.succ_pos _) fun k hk => absurd hk (Nat.not_lt_zero k)
        refine ⟨by simp [hfirst], fun j hj hbefore => ?_⟩
        rw [← linkAt_succ]
        refine h (j + 1) (Nat.succ_lt_succ hj) fun k hk => ?_
        cases k with
        | zero => exact hon
        | succ k =>
          rw [linkAt_succ]
          exact hbefore k (Nat.lt_of_succ_lt_succ hk)

section
variable (I lib o)

/-- No address gets the request after one that got it and failed: where attempt `j` delivers and all attempts before it
    went on, none of those delivered. -/
def DeliversOnce (n : Nat) (links : List Link) : Prop :=
  ∀ j < n, gets I lib o (linkAt links j) = true → (∀ k < j, goesOn I lib o (linkAt links k) = true) →
    ∀ i < j, gets I lib o (linkAt links i) = false

end

/-- **At most one delivery, exactly.** -/
theorem deliveries_le_one_iff (ips : List Str) (links : List Link) :
    (tryAddresses F lib o ips links).deliveries.length ≤ 1 ↔ DeliversOnce I lib o ips.length links := by
  induction ips generalizing links with
  | nil => exact ⟨fun _ j hj => absurd hj (Nat.not_lt_zero j), fun _ => Nat.zero_le 1⟩
  | cons ip ips ih =>
    cases hon : goesOn I lib o (linkAt links 0) with
    | false =>
      -- the loop stops at the first address, so there is no second attempt to deliver
      rw [tryAddresses_last hon]
      constructor
      · intro _ j _ _ hbefore i hi
        rw [hbefore 0 (Nat.zero_lt_of_lt hi)] at hon
        cases hon
      · intro _
        split <;> simp
    | true =>
      rw [tryAddresses_goesOn hon]
      cases hget : gets I lib o (linkAt links 0) with
      | true =>
        -- the first attempt delivered: nothing may be delivered after it
        have hlen : ((if true = true then [ip] else []) ++ (tryAddresses F lib o ips links.tail).deliveries).length ≤ 1 ↔
            (tryAddresses F lib o ips links.tail).deliveries = [] := by
          simp
        rw [hlen, deliveries_eq_nil_iff]
        constructor
        · intro h j hj hdelivers hbefore i hi
          cases j with
          | zero => exact absurd hi (Nat.not_lt_zero i)
          | succ j =>
            rw [linkAt_succ, h j (Nat.lt_of_succ_lt_succ hj) fun k hk => by
              rw [← linkAt_succ]
              exact hbefore (k + 1) (Nat.succ_lt_succ hk)] at hdelivers
            cases hdelivers
        · intro h j hj hbefore
          rw [← linkAt_succ]
          by_contra hdelivers
          have hfirst := h (j + 1) (Nat.succ_lt_succ hj) (by simpa using hdelivers) (fun k hk => by
            cases k with
            | zero => exact hon
            | succ k =>
              rw [linkAt_succ]
              exact hbefore k (Nat.lt_of_succ_lt_succ hk)) 0 (Nat.succ_pos j)
          rw [hget] at hfirst
          cases hfirst
      | false =>
        -- nothing was delivered yet: the condition is about the remaining addresses
        have hlen : (if false = true then [ip] else []) ++ (tryAddresses F lib o ips links.tail).deliveries =
            (tryAddresses F lib o ips links.tail).deliveries := by
          simp
        rw [hlen, ih]
        constructor
        · intro h j hj hdelivers hbefore i hi
          cases j with
          | zero => exact absurd hi (Nat.not_lt_zero i)
          | succ j =>
            cases i with
            | zero => exact hget
            | succ i =>
              rw [linkAt_succ] at hdelivers ⊢
              refine h j (Nat.lt_of_succ_lt_succ hj) hdelivers (fun k hk => ?_) i (Nat.lt_of_succ_lt_succ hi)
              rw [← linkAt_succ]
              exact hbefore (k + 1) (Nat.succ_lt_succ hk)
        · intro h j hj hdelivers hbefore i hi
          rw [← linkAt_succ] at hdelivers ⊢
          refine h (j + 1) (Nat.succ_lt_succ hj) hdelivers (fun k hk => ?_) (i + 1) (Nat.succ_lt_succ hi)
          cases k with
          | zero => exact hon
          | succ k =>
            rw [linkAt_succ]
            exact hbefore k (Nat.lt_of_succ_lt_succ hk)

variable {request : InterceptedRequest} {hostname : Str} {port : Nat} {resolved : Option (List Str)}
  {links : List Link}

/-- **A forwarded command is delivered at most once, exactly when** no address gets the whole request after an earlier
    one got it and its attempt failed. -/
theorem forwardIntercepted_once_iff :
    (forwardIntercepted F lib request hostname port resolved links).deliveries.length ≤ 1 ↔
      ∀ o, hostname.isEmpty = false → prepare F request hostname port = some o →
        DeliversOnce I lib o ((resolved.getD []).filter fun ip => !isBlockedIp ip).length links := by
  unfold forwardIntercepted
  cases hhost : hostname.isEmpty with
  | true => simp [Exchange.none]
  | false =>
    simp only [Bool.false_eq_true, if_false]
    split
    · next hsafe =>
      rw [List.isEmpty_iff.mp hsafe]
      exact ⟨fun _ _ _ _ j hj => absurd hj (Nat.not_lt_zero j), fun _ => Nat.zero_le 1⟩
    · cases hprep : prepare F request hostname port with
      | none => simp [Exchange.none]
      | some o =>
        simp only [deliveries_le_one_iff, Option.some_inj, forall_eq', true_implies]

/-- A command of a device. -/
def powerOn : InterceptedRequest where
  method := "POST"
  path := "/switch"
  headers := []
  queryParams := []
  rawTarget := none
  body := .null
  bodyBytes := some [0x31]

/-- A library that takes every request. -/
def anyClient : HttpClient := { send := fun _ _ _ _ => some [] }

/-- The address gets the request and does not answer in time. -/
def silentLink : Link := { connects := true, drained := true, delivered := true, events := [.needData true] }

/-- The address gets the request and answers. -/
def answeringLink : Link :=
  { connects := true, drained := true, delivered := true, events := [.response 200 [], .endOfMessage] }

/-- **A command is delivered twice** when the first address takes it and does not answer in time. -/
theorem delivered_twice :
    powerOn.method = "POST" ∧
      (forwardIntercepted bitsReader anyClient powerOn "cloud.example" 443 (some ["8.8.8.8", "1.1.1.1"])
        [silentLink, answeringLink]).deliveries = [str "8.8.8.8", str "1.1.1.1"] := by
  decide +kernel

end RideTheApi.Forward
