import RideTheApi.Forward.Resolver

/-!
# `Forward.Resolution` — what a resolution keeps of the answers

A query is answered, fails, or runs out of its time; the time-out is not the exception that is caught. The addresses come
in the order of the queries, which is that of the families; those of the system resolver and of the cache come as they are.
-/

namespace RideTheApi.Forward

open Py

/-- The addresses a source gave. -/
def Answer.given : Answer → List Str
  | .addresses ips => ips
  | _              => []

/-- The addresses obtained: those of the queries, or of the system resolver when there are none. -/
def Sources.obtained (sources : Sources) : List Str :=
  if sources.a.given = [] ∧ sources.aaaa.given = [] then sources.system.given else sources.a.given ++ sources.aaaa.given

/-- The system resolver is asked: after both queries, when they gave nothing. -/
def asksSystem (sources : Sources) : Bool :=
  match sources.a.records, sources.aaaa.records with
  | some v4, some v6 => v4.isEmpty && v6.isEmpty
  | _, _             => false

/-- What the cache holds, unless it is skipped. -/
def cacheHit (cache : ResolverCache) (hostname : Str) (skipCache : Bool) : Option (List Str) :=
  if skipCache then none else cache.get? hostname

/-- A query answers with records of its type. -/
structure Sources.Typed (sources : Sources) : Prop where
  a : ∀ ip ∈ sources.a.given, isV6 ip = false
  aaaa : ∀ ip ∈ sources.aaaa.given, isV6 ip = true

/-- There are addresses of both families. -/
def TwoFamilies (ips : List Str) : Prop := (∃ ip ∈ ips, isV6 ip = true) ∧ ∃ ip ∈ ips, isV6 ip = false

/-- IPv6 comes first, exactly when it is asked for; of one family there is no order. -/
def Ordered (preferIpv6 : Bool) (ips : List Str) : Prop := TwoFamilies ips → (preferV6 ips = ips ↔ preferIpv6 = true)

/-- The addresses of the system resolver that may be contacted. -/
def systemResult (sources : Sources) : List Str := (systemAddresses sources.system).filter fun ip => !isBlockedIp ip

/-! ## Order -/

section
variable {v4 v6 ips : List Str}

theorem preferV6_of_families (h4 : ∀ ip ∈ v4, isV6 ip = false) (h6 : ∀ ip ∈ v6, isV6 ip = true) :
    preferV6 (v4 ++ v6) = v6 ++ v4 ∧ preferV6 (v6 ++ v4) = v6 ++ v4 := by
  have hnone4 : v4.filter isV6 = [] := List.filter_eq_nil_iff.mpr fun ip hip => by simp [h4 ip hip]
  have hall6 : v6.filter isV6 = v6 := List.filter_eq_self.mpr h6
  have hall4 : (v4.filter fun ip => !isV6 ip) = v4 := List.filter_eq_self.mpr fun ip hip => by simp [h4 ip hip]
  have hnone6 : (v6.filter fun ip => !isV6 ip) = [] := List.filter_eq_nil_iff.mpr fun ip hip => by simp [h6 ip hip]
  unfold preferV6
  simp [List.filter_append, hnone4, hall6, hall4, hnone6]

theorem preferV6_idem (ips : List Str) : preferV6 (preferV6 ips) = preferV6 ips := by
  have h4 : ∀ ip ∈ ips.filter fun ip => !isV6 ip, isV6 ip = false := by
    intro ip hip
    simpa using (List.mem_filter.mp hip).2
  have h6 : ∀ ip ∈ ips.filter isV6, isV6 ip = true := by
    intro ip hip
    exact (List.mem_filter.mp hip).2
  exact (preferV6_of_families h4 h6).2

theorem mem_preferV6_iff {ip : Str} : ip ∈ preferV6 ips ↔ ip ∈ ips := by
  refine ⟨mem_preferV6, fun h => ?_⟩
  unfold preferV6
  rw [List.mem_append, List.mem_filter, List.mem_filter]
  cases hip : isV6 ip
  · exact .inr ⟨h, by simp⟩
  · exact .inl ⟨h, rfl⟩

/-- The answers of the queries come in the order asked for. -/
theorem ordered_answers (h4 : ∀ ip ∈ v4, isV6 ip = false) (h6 : ∀ ip ∈ v6, isV6 ip = true) (preferIpv6 : Bool) :
    Ordered preferIpv6 (if preferIpv6 then v6 ++ v4 else v4 ++ v6) := by
  obtain ⟨hswap, hkeep⟩ := preferV6_of_families h4 h6
  cases preferIpv6 with
  | true =>
    intro _
    exact ⟨fun _ => rfl, fun _ => hkeep⟩
  | false =>
    rintro ⟨⟨x, hx, hx6⟩, y, hy, hy4⟩
    simp only [Bool.false_eq_true, if_false, iff_false] at hx hy ⊢
    rw [hswap]
    intro heq
    have hmem6 : x ∈ v6 := by
      rcases List.mem_append.mp hx with hx | hx
      · rw [h4 x hx] at hx6
        cases hx6
      · exact hx
    have hmem4 : y ∈ v4 := by
      rcases List.mem_append.mp hy with hy | hy
      · exact hy
      · rw [h6 y hy] at hy4
        cases hy4
    -- The first address is one of each family.
    cases v6 with
    | nil => cases hmem6
    | cons a v6 =>
      cases v4 with
      | nil => cases hmem4
      | cons b v4 =>
        have hab : a = b := (List.cons.inj heq).1
        have ha := h6 a List.mem_cons_self
        rw [hab, h4 b List.mem_cons_self] at ha
        cases ha

end

/-! ## Members -/

section
variable {sources : Sources} {preferIpv6 : Bool} {ips : List Str}

theorem mem_dedup {seen ips : List Str} {ip : Str} :
    ip ∈ ips.foldl (fun seen ip => if seen.contains ip then seen else seen ++ [ip]) seen ↔ ip ∈ seen ∨ ip ∈ ips := by
  induction ips generalizing seen with
  | nil => simp
  | cons x ips ih =>
    rw [List.foldl_cons, ih]
    by_cases hx : seen.contains x = true
    · rw [if_pos hx, List.mem_cons]
      have hmem : x ∈ seen := List.contains_iff_mem.mp hx
      constructor
      · exact fun h => h.imp_right .inr
      · rintro (h | rfl | h)
        · exact .inl h
        · exact .inl hmem
        · exact .inr h
    · rw [if_neg hx, List.mem_append, List.mem_singleton, List.mem_cons, or_assoc]

theorem mem_systemAddresses {answer : Answer} {ip : Str} : ip ∈ systemAddresses answer ↔ ip ∈ answer.given := by
  cases answer with
  | addresses ips => exact mem_dedup.trans (by simp [Answer.given])
  | dnsError => exact Iff.rfl
  | raised => exact Iff.rfl

theorem records_of_ne {answer : Answer} (h : answer ≠ .raised) : answer.records = some answer.given := by
  cases answer with
  | raised => exact absurd rfl h
  | _ => rfl

/-- A resolution that runs out of no time. -/
theorem lookUp_eq (ha : sources.a ≠ .raised) (haaaa : sources.aaaa ≠ .raised) :
    lookUp sources preferIpv6 =
      some (if sources.a.given = [] ∧ sources.aaaa.given = [] then systemResult sources
        else (if preferIpv6 then sources.aaaa.given ++ sources.a.given else sources.a.given ++ sources.aaaa.given).filter
          fun ip => !isBlockedIp ip) := by
  unfold lookUp systemResult
  rw [records_of_ne ha, records_of_ne haaaa]
  by_cases hnone : sources.a.given = [] ∧ sources.aaaa.given = []
  · simp [hnone.1, hnone.2]
  · cases preferIpv6 <;> simp [hnone, and_comm]

theorem lookUp_raised (h : sources.a = .raised ∨ sources.aaaa = .raised) : lookUp sources preferIpv6 = none := by
  unfold lookUp
  rcases h with h | h
  · rw [h]
    rfl
  · rw [h]
    cases sources.a.records <;> rfl

/-- The order of what is filtered. -/
theorem ordered_filter (h : sources.Typed) (preferIpv6 : Bool) (p : Str → Bool) :
    Ordered preferIpv6 ((if preferIpv6 then sources.aaaa.given ++ sources.a.given
      else sources.a.given ++ sources.aaaa.given).filter p) := by
  have h4 : ∀ ip ∈ sources.a.given.filter p, isV6 ip = false := fun ip hip => h.a ip (List.mem_filter.mp hip).1
  have h6 : ∀ ip ∈ sources.aaaa.given.filter p, isV6 ip = true := fun ip hip => h.aaaa ip (List.mem_filter.mp hip).1
  have hordered := ordered_answers h4 h6 preferIpv6
  cases preferIpv6 <;> simpa only [Bool.false_eq_true, if_false, if_true, List.filter_append] using hordered

end

/-! ## The law -/

/-- What a resolution keeps to. It raises nothing. Without a hit it returns the addresses obtained that are not blocked,
    asks the system resolver when the queries gave nothing, and stores what it returns; with one it returns what is
    stored. IPv6 comes first exactly when it is asked for. -/
structure KeepsAnswers (cache : ResolverCache) (hostname : Str) (sources : Sources) (preferIpv6 skipCache : Bool)
    (result : Option (List Str) × ResolverCache) : Prop where
  returns : result.1 ≠ none
  members : cacheHit cache hostname skipCache = none → ∀ ips, result.1 = some ips →
    ∀ ip, ip ∈ ips ↔ ip ∈ sources.obtained ∧ isBlockedIp ip = false
  asks : cacheHit cache hostname skipCache = none →
    (asksSystem sources = true ↔ sources.a.given = [] ∧ sources.aaaa.given = [])
  stored : cacheHit cache hostname skipCache = none → ∀ ips, result.1 = some ips → ips ≠ [] →
    result.2.get? hostname = some ips
  cached : ∀ stored, cacheHit cache hostname skipCache = some stored → ∀ ips, result.1 = some ips →
    ∀ ip, ip ∈ ips ↔ ip ∈ stored
  ordered : ∀ ips, result.1 = some ips → Ordered preferIpv6 ips

/-- No query runs out of its time, and what is not put in order is in order: what the system resolver says when it is
    asked, and what is cached when IPv6 is not asked for first. -/
def InTimeAndOrder (cache : ResolverCache) (hostname : Str) (sources : Sources) (preferIpv6 skipCache : Bool) : Prop :=
  match cacheHit cache hostname skipCache with
  | some stored => preferIpv6 = false → Ordered false stored
  | none        => sources.a ≠ .raised ∧ sources.aaaa ≠ .raised ∧
      (sources.a.given = [] ∧ sources.aaaa.given = [] → Ordered preferIpv6 (systemResult sources))

section
variable {cache : ResolverCache} {hostname : Str} {sources : Sources} {preferIpv6 skipCache : Bool}

theorem asksSystem_iff (ha : sources.a ≠ .raised) (haaaa : sources.aaaa ≠ .raised) :
    asksSystem sources = true ↔ sources.a.given = [] ∧ sources.aaaa.given = [] := by
  unfold asksSystem
  rw [records_of_ne ha, records_of_ne haaaa]
  simp

theorem mem_lookUp {ips : List Str} (ha : sources.a ≠ .raised) (haaaa : sources.aaaa ≠ .raised)
    (h : lookUp sources preferIpv6 = some ips) (ip : Str) : ip ∈ ips ↔ ip ∈ sources.obtained ∧ isBlockedIp ip = false := by
  rw [lookUp_eq ha haaaa] at h
  obtain rfl := Option.some.inj h
  unfold Sources.obtained
  by_cases hnone : sources.a.given = [] ∧ sources.aaaa.given = []
  · rw [if_pos hnone, if_pos hnone]
    unfold systemResult
    rw [List.mem_filter, mem_systemAddresses]
    simp
  · rw [if_neg hnone, if_neg hnone, List.mem_filter]
    cases preferIpv6 <;> simp [or_comm]

theorem resolveUpstream_hit {stored : List Str} (h : cacheHit cache hostname skipCache = some stored) :
    resolveUpstream cache hostname sources preferIpv6 skipCache =
      (some (if preferIpv6 then preferV6 stored else stored), cache) := by
  unfold resolveUpstream
  unfold cacheHit at h
  rw [h]

theorem resolveUpstream_fresh (h : cacheHit cache hostname skipCache = none) :
    resolveUpstream cache hostname sources preferIpv6 skipCache =
      match lookUp sources preferIpv6 with
      | none           => (none, cache)
      | some addresses => (some addresses, if addresses.isEmpty then cache else cache.set hostname addresses) := by
  unfold resolveUpstream
  unfold cacheHit at h
  cases lookUp sources preferIpv6 <;> rw [h]

/-- With a hit, what is left to chance is the order. -/
theorem keepsAnswers_hit {stored : List Str} (h : cacheHit cache hostname skipCache = some stored) :
    KeepsAnswers cache hostname sources preferIpv6 skipCache
      (resolveUpstream cache hostname sources preferIpv6 skipCache) ↔ (preferIpv6 = false → Ordered false stored) := by
  rw [resolveUpstream_hit h]
  constructor
  · rintro hkeeps rfl
    exact hkeeps.ordered stored rfl
  · intro hordered
    constructor
    · simp
    · intro hnone
      rw [h] at hnone
      cases hnone
    · intro hnone
      rw [h] at hnone
      cases hnone
    · intro hnone
      rw [h] at hnone
      cases hnone
    · intro stored' hstored' ips hips ip
      obtain rfl := Option.some.inj (h.symm.trans hstored')
      obtain rfl := Option.some.inj hips
      cases preferIpv6
      · exact Iff.rfl
      · exact mem_preferV6_iff
    · intro ips hips
      obtain rfl := Option.some.inj hips
      cases preferIpv6
      · exact hordered rfl
      · exact fun _ => ⟨fun _ => rfl, fun _ => preferV6_idem stored⟩

/-- Without one, what can go wrong is a time-out, and the order of the system resolver. -/
theorem keepsAnswers_fresh (htyped : sources.Typed) (h : cacheHit cache hostname skipCache = none) :
    KeepsAnswers cache hostname sources preferIpv6 skipCache
      (resolveUpstream cache hostname sources preferIpv6 skipCache) ↔
      sources.a ≠ .raised ∧ sources.aaaa ≠ .raised ∧
        (sources.a.given = [] ∧ sources.aaaa.given = [] → Ordered preferIpv6 (systemResult sources)) := by
  rw [resolveUpstream_fresh h]
  by_cases hraised : sources.a = .raised ∨ sources.aaaa = .raised
  · rw [lookUp_raised hraised]
    constructor
    · intro hkeeps
      exact absurd rfl hkeeps.returns
    · rintro ⟨ha, haaaa, _⟩
      exact absurd hraised (not_or.mpr ⟨ha, haaaa⟩)
  · rw [not_or] at hraised
    obtain ⟨ha, haaaa⟩ := hraised
    obtain ⟨ips, hips⟩ : ∃ ips, lookUp sources preferIpv6 = some ips := ⟨_, lookUp_eq ha haaaa⟩
    -- the order of the lookups is kept; only the system resolver's is not promised
    have hordered : Ordered preferIpv6 ips ↔
        (sources.a.given = [] ∧ sources.aaaa.given = [] → Ordered preferIpv6 (systemResult sources)) := by
      have heq := hips
      rw [lookUp_eq ha haaaa] at heq
      obtain rfl := Option.some.inj heq
      by_cases hnone : sources.a.given = [] ∧ sources.aaaa.given = []
      · rw [if_pos hnone]
        exact ⟨fun hsystem _ => hsystem, fun hsystem => hsystem hnone⟩
      · rw [if_neg hnone]
        exact ⟨fun _ hall => absurd hall hnone, fun _ => ordered_filter htyped preferIpv6 _⟩
    rw [hips]
    dsimp only
    constructor
    · intro hkeeps
      exact ⟨ha, haaaa, hordered.mp (hkeeps.ordered ips rfl)⟩
    · rintro ⟨_, _, hsystem⟩
      constructor
      · simp
      · rintro _ ips' hips' ip
        obtain rfl := Option.some.inj hips'
        exact mem_lookUp ha haaaa hips ip
      · intro _
        exact asksSystem_iff ha haaaa
      · rintro _ ips' hips' hne
        obtain rfl := Option.some.inj hips'
        dsimp only
        rw [if_neg (by simpa using hne), Dict.get?_set, if_pos rfl]
      · intro stored hstored
        rw [h] at hstored
        cases hstored
      · rintro ips' hips'
        obtain rfl := Option.some.inj hips'
        exact hordered.mpr hsystem

end

/-- **Upstream resolution keeps what it got, where nothing times out and what it does not order is in order.** -/
theorem keepsAnswers_iff {sources : Sources} (htyped : sources.Typed) (cache : ResolverCache) (hostname : Str)
    (preferIpv6 skipCache : Bool) :
    KeepsAnswers cache hostname sources preferIpv6 skipCache
      (resolveUpstream cache hostname sources preferIpv6 skipCache) ↔
      InTimeAndOrder cache hostname sources preferIpv6 skipCache := by
  unfold InTimeAndOrder
  cases hhit : cacheHit cache hostname skipCache with
  | some stored => exact keepsAnswers_hit hhit
  | none => exact keepsAnswers_fresh htyped hhit

/-- The second query fails. -/
def oneFamily : Sources where
  a := .addresses ["93.184.216.34"]
  aaaa := .dnsError
  system := .addresses []

/-- The second query runs out of its time. -/
def timedOut : Sources where
  a := .addresses ["93.184.216.34"]
  aaaa := .raised
  system := .addresses []

theorem oneFamily_typed : oneFamily.Typed := ⟨by decide +kernel, by decide +kernel⟩

theorem oneFamily_kept : oneFamily.Typed ∧
    (KeepsAnswers [] "cloud.example" oneFamily false false (resolveUpstream [] "cloud.example" oneFamily false false) ↔
      InTimeAndOrder [] "cloud.example" oneFamily false false) ∧
    (resolveUpstream [] "cloud.example" oneFamily false false).1 = some [str "93.184.216.34"] :=
  ⟨oneFamily_typed, keepsAnswers_iff oneFamily_typed [] "cloud.example" false false, by decide +kernel⟩

/-- The address of the first query is lost with the second. -/
theorem timedOut_lost : ¬ ∀ sources : Sources, sources.Typed → ∀ cache hostname preferIpv6 skipCache,
    KeepsAnswers cache hostname sources preferIpv6 skipCache
      (resolveUpstream cache hostname sources preferIpv6 skipCache) := by
  intro h
  have htyped : timedOut.Typed := ⟨by decide +kernel, by decide +kernel⟩
  have hreturns := (h timedOut htyped [] "cloud.example" false false).returns
  revert hreturns
  decide +kernel

end RideTheApi.Forward
