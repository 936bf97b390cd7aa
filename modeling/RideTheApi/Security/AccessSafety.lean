import RideTheApi.Security.Access

/-!
# `Security.AccessSafety` — who reaches a handler under `/api/`

The check reads the canonical path and the router the raw one. Every path of a route under `/api/` stays under it when it
is normalised, and only two of them are treated apart (`normpath_of_underApi`), so no spelling of a path gets around the
check. What is left is the comparison of the password: characters beyond Latin-1 are compared as question marks.
-/

namespace RideTheApi.Security

open Py

/-! ## What a request carries -/

theorem getHeader_lt {headers : List (Bytes × Bytes)} {name : Bytes} {value : Str}
    (h : getHeader headers name = some value) : ∀ c ∈ value, c.val < 0x100 := by
  unfold getHeader at h
  obtain ⟨header, -, rfl⟩ := Option.map_eq_some_iff.mp h
  exact fun c hc => decodeLatin1_lt hc

/-- The request presents a key: in its first `X-API-Key` header, or as the bearer token of its first `Authorization`
    header, white space around it aside. -/
def Presents (headers : List (Bytes × Bytes)) (key : Bytes) : Prop :=
  (∃ value, getHeader headers (ascii "x-api-key") = some value ∧ encodeLatin1 value = some key) ∨
    ∃ value, getHeader headers (ascii "authorization") = some value ∧
      Str.startsWith (lowerLatin1 value) "bearer " = true ∧ encodeLatin1 (Str.stripSpace (value.drop 7)) = some key

/-- The request carries the configured password, in UTF-8 or in Latin-1. -/
def CarriesPassword (headers : List (Bytes × Bytes)) (password : Str) : Prop :=
  ∃ key, Presents headers key ∧ (encodeUtf8 password = some key ∨ encodeLatin1 password = some key)

/-- The request carries the setup token. -/
def CarriesToken (headers : List (Bytes × Bytes)) (setupToken : Str) : Prop :=
  (getHeader headers (ascii "x-setup-token")).getD [] = setupToken

/-- The origin is one the guard trusts. -/
def TrustedOrigin (origin : Str) : Prop := canonicalOrigin origin ∈ allowedOrigins

/-- The origin is on a host the request is addressed to. -/
def OwnOrigin (headers : List (Bytes × Bytes)) (origin : Str) : Prop :=
  hostname (canonicalOrigin origin) ∈ ownHosts headers

theorem mem_stripSpace {s : Str} {c : CodePoint} (h : c ∈ Str.stripSpace s) : c ∈ s := by
  have hpre : Str.stripSpace s <+: s.dropWhile Str.isSpace := List.rdropWhile_prefix _ _
  exact (List.dropWhile_sublist _).subset (hpre.subset h)

/-- The key the check compares is one the request presents. -/
theorem presents_extractKey {headers : List (Bytes × Bytes)} (h : extractKey headers ≠ []) :
    Presents headers (encodeLatin1Replace (extractKey headers)) := by
  unfold extractKey at h ⊢
  by_cases hkey : (getHeader headers (ascii "x-api-key")).getD [] = []
  · simp only [hkey, ne_eq, not_true_eq_false, if_false] at h ⊢
    by_cases hbearer : Str.startsWith (lowerLatin1 ((getHeader headers (ascii "authorization")).getD [])) "bearer " = true
    · rw [if_pos hbearer] at h ⊢
      cases hvalue : getHeader headers (ascii "authorization") with
      | none =>
        rw [hvalue] at h
        exact absurd rfl h
      | some value =>
        rw [hvalue] at hbearer
        refine .inr ⟨value, hvalue, hbearer, encodeLatin1_of_lt fun c hc => ?_⟩
        exact getHeader_lt hvalue c ((List.drop_sublist _ _).subset (mem_stripSpace hc))
    · rw [if_neg hbearer] at h
      exact absurd rfl h
  · simp only [hkey, ne_eq, not_false_eq_true, if_true]
    cases hvalue : getHeader headers (ascii "x-api-key") with
    | none =>
      rw [hvalue] at hkey
      exact absurd rfl hkey
    | some value => exact .inl ⟨value, hvalue, encodeLatin1_of_lt (getHeader_lt hvalue)⟩

/-- A header can tell the password apart: it is Latin-1 text, or it cannot be encoded and nothing is compared. -/
def Comparable (password : Str) : Prop := encodeUtf8 password = none ∨ ∀ c ∈ password, c.val < 0x100

/-- A key that is accepted carries the password, where the password can be compared. -/
theorem carries_of_matches {headers : List (Bytes × Bytes)} {password : Str} (hne : password ≠ [])
    (hcomparable : Comparable password) (h : passwordMatches (extractKey headers) password = some true) :
    CarriesPassword headers password := by
  obtain ⟨utf8, hutf8, hequal⟩ := Option.map_eq_some_iff.mp h
  have hlatin1 : encodeLatin1 password = some (encodeLatin1Replace password) := by
    rcases hcomparable with hnone | hlt
    · rw [hutf8] at hnone
      cases hnone
    · exact encodeLatin1_of_lt hlt
  have hencoding : encodeUtf8 password = some (encodeLatin1Replace (extractKey headers)) ∨
      encodeLatin1 password = some (encodeLatin1Replace (extractKey headers)) := by
    rcases (Bool.or_eq_true _ _).mp hequal with heq | heq
    · exact .inl (by rw [hutf8, beq_iff_eq.mp heq])
    · exact .inr (by rw [hlatin1, beq_iff_eq.mp heq])
  refine ⟨_, presents_extractKey ?_, hencoding⟩
  intro hempty
  rw [hempty] at hencoding
  rcases hencoding with heq | heq
  · have hlen := (length_encodeUtf8 heq).1
    exact hne (List.length_eq_zero_iff.mp (Nat.le_zero.mp hlen))
  · rw [hlatin1] at heq
    exact hne (List.map_eq_nil_iff.mp (Option.some.inj heq))

theorem verdict_next {equal : Option Bool} {status : Nat} : verdict equal status = .next ↔ equal = some true := by
  cases equal with
  | none => simp [verdict]
  | some b => cases b <;> simp [verdict]

theorem carriesToken_of_safeEq {headers : List (Bytes × Bytes)} {setupToken : Str}
    (h : safeEq ((getHeader headers (ascii "x-setup-token")).getD []) setupToken = some true) :
    CarriesToken headers setupToken := by
  unfold safeEq at h
  obtain ⟨a, ha, h⟩ := Option.bind_eq_some_iff.mp h
  obtain ⟨b, hb, heq⟩ := Option.map_eq_some_iff.mp h
  obtain rfl := beq_iff_eq.mp heq
  exact encodeUtf8_inj ha hb

/-! ## Who gets through -/

variable {cfg : SecurityConfig} {setupToken : Str} {req : Request} {r : Route}

/-- A request for a route under `/api/` other than the certificate gets past the check with the password, or, while there
    is none, to the setup with the token. -/
def AuthHolds (cfg : SecurityConfig) (setupToken : Str) (req : Request) (r : Route) : Prop :=
  req.method ≠ "OPTIONS" → controlPlaneAuth cfg setupToken req = .next →
    cfg.password ≠ [] ∧ CarriesPassword req.headers cfg.password ∨
      cfg.password = [] ∧ r = setupRoute ∧ CarriesToken req.headers setupToken

/-- One that changes state and comes from another site does not get to the router. -/
def OriginHolds (cfg : SecurityConfig) (setupToken : Str) (req : Request) : Prop :=
  req.method ∈ unsafeMethods → ∀ origin, lastHeader req.headers (ascii "origin") = some origin →
    ¬TrustedOrigin origin → ¬OwnOrigin req.headers origin → reachesRouter cfg setupToken req = false

/-- The control plane is closed to every request, however its path is spelled. -/
def Guarded (cfg : SecurityConfig) (setupToken : Str) : Prop :=
  cfg.authEnabled = true → ∀ req r, dispatch req.method req.path = some r → r.underApi = true → r ≠ caCertRoute →
    AuthHolds cfg setupToken req r ∧ OriginHolds cfg setupToken req

theorem mem_of_dispatch {method path : Str} (h : dispatch method path = some r) :
    r ∈ routes ∧ r.accepts method path = true := by
  unfold dispatch at h
  have haccepts := List.find?_some h
  exact ⟨List.mem_of_find?_eq_some h, haccepts⟩

theorem authHolds_of_comparable (hauth : cfg.authEnabled = true) (hcomparable : Comparable cfg.password)
    (hdispatch : dispatch req.method req.path = some r) (hunder : r.underApi = true) (hcert : r ≠ caCertRoute) :
    AuthHolds cfg setupToken req r := by
  obtain ⟨hmem, haccepts⟩ := mem_of_dispatch hdispatch
  obtain ⟨hcanonical, hpublic, hsetup⟩ := normpath_of_underApi hmem hunder haccepts
  intro hmethod hnext
  unfold controlPlaneAuth at hnext
  by_cases hbad : 0 ∈ req.path ∨ cp '\\' ∈ req.path
  · rw [if_pos hbad] at hnext
    cases hnext
  · have hprotected : ¬(normpath req.path ≠ "/api" ∧ Str.startsWith (normpath req.path) "/api/" = false) := by
      rintro ⟨hne, hnot⟩
      rcases hcanonical with heq | hstarts
      · exact hne heq
      · rw [hstarts] at hnot
        cases hnot
    have hprivate : normpath req.path ∉ publicPaths := fun hmem => hcert (hpublic (List.mem_singleton.mp hmem))
    simp only [if_neg hbad, if_neg hprotected, if_neg hmethod, if_neg hprivate, hauth, Bool.true_eq_false,
      if_false] at hnext
    by_cases hpassword : cfg.password = []
    · rw [if_pos hpassword] at hnext
      by_cases hpath : normpath req.path = setupPath
      · rw [if_pos hpath, verdict_next] at hnext
        exact .inr ⟨hpassword, hsetup hpath, carriesToken_of_safeEq hnext⟩
      · rw [if_neg hpath] at hnext
        cases hnext
    · rw [if_neg hpassword, verdict_next] at hnext
      exact .inl ⟨hpassword, carries_of_matches hpassword hcomparable hnext⟩

theorem originHolds (hdispatch : dispatch req.method req.path = some r) (hunder : r.underApi = true) :
    OriginHolds cfg setupToken req := by
  obtain ⟨hmem, haccepts⟩ := mem_of_dispatch hdispatch
  obtain ⟨hcanonical, -, -⟩ := normpath_of_underApi hmem hunder haccepts
  intro hmethod origin horigin htrusted hown
  have hpath : req.path ≠ [] := by
    intro hempty
    rw [hempty] at hcanonical
    exact absurd hcanonical (by decide +kernel)
  have hcontrol : isControlPlane req.path = true := by
    unfold isControlPlane
    simp only [if_neg hpath]
    rcases hcanonical with heq | hstarts
    · rw [heq]
      rfl
    · rw [hstarts, Bool.or_true]
  have hcross : crossSite req.headers = true := by
    unfold crossSite
    rw [horigin]
    simp only [if_neg (show ¬canonicalOrigin origin ∈ allowedOrigins from htrusted)]
    split_ifs with hnull
    · rfl
    · simpa [OwnOrigin] using hown
  have hrefused : crossSiteRequestGuard req = .refused 403 := if_pos ⟨hmethod, hcontrol, hcross⟩
  unfold reachesRouter
  rw [hrefused]
  exact Bool.and_false _

/-! ## Where the password cannot be compared -/

/-- A request for the list of devices with the password in Latin-1, a question mark for what Latin-1 does not have. -/
def replacedKeyRequest (password : Str) : Request where
  method := "GET"
  path := "/api/devices"
  headers := [(ascii "x-api-key", encodeLatin1Replace password)]

/-- The list of devices. -/
def devicesRoute : Route := { method := "GET", template := ["api", "devices"] }

theorem dispatch_devices : dispatch "GET" "/api/devices" = some devicesRoute := by decide +kernel

theorem key_replacedKeyRequest (password : Str) :
    getHeader (replacedKeyRequest password).headers (ascii "x-api-key") =
      some (decodeLatin1 (encodeLatin1Replace password)) := by
  simp [replacedKeyRequest, getHeader]

theorem extractKey_replacedKeyRequest {password : Str} (hne : password ≠ []) :
    extractKey (replacedKeyRequest password).headers = decodeLatin1 (encodeLatin1Replace password) := by
  have hkey : decodeLatin1 (encodeLatin1Replace password) ≠ [] := by
    unfold decodeLatin1 encodeLatin1Replace
    simp [hne]
  unfold extractKey
  rw [key_replacedKeyRequest]
  simp [hkey]

/-- It is let through whenever the password has bytes at all. -/
theorem next_replacedKeyRequest {utf8 : Bytes} (hauth : cfg.authEnabled = true) (hne : cfg.password ≠ [])
    (hutf8 : encodeUtf8 cfg.password = some utf8) :
    controlPlaneAuth cfg setupToken (replacedKeyRequest cfg.password) = .next := by
  have hmatches : passwordMatches (extractKey (replacedKeyRequest cfg.password).headers) cfg.password = some true := by
    unfold passwordMatches
    rw [extractKey_replacedKeyRequest hne, encodeLatin1Replace_decodeLatin1, hutf8]
    simp
  have hbad : ¬(0 ∈ str "/api/devices" ∨ cp '\\' ∈ str "/api/devices") := by decide +kernel
  have hprotected : ¬(normpath "/api/devices" ≠ "/api" ∧
      Str.startsWith (normpath "/api/devices") "/api/" = false) := by decide +kernel
  have hprivate : normpath "/api/devices" ∉ publicPaths := by decide +kernel
  have hmethod : (str "GET" : Str) ≠ "OPTIONS" := by decide +kernel
  unfold controlPlaneAuth
  simp only [replacedKeyRequest] at hmatches ⊢
  simp only [if_neg hbad, if_neg hprotected, if_neg hmethod, if_neg hprivate, hauth, hne, Bool.true_eq_false, if_false,
    hmatches]
  rfl

theorem not_carries_replacedKeyRequest {password : Str} {c : CodePoint} (hmem : c ∈ password) (hc : 0x100 ≤ c.val) :
    ¬CarriesPassword (replacedKeyRequest password).headers password := by
  rintro ⟨key, hpresents, hkey⟩
  rcases hkey with hutf8 | hlatin1
  · have hlong := (length_encodeUtf8 hutf8).2 ⟨c, hmem, by omega⟩
    have hlen : key.length = password.length := by
      rcases hpresents with ⟨value, hvalue, hencode⟩ | ⟨value, hvalue, -⟩
      · rw [key_replacedKeyRequest] at hvalue
        obtain rfl := Option.some.inj hvalue
        rw [encodeLatin1_of_lt fun c hc => decodeLatin1_lt hc, encodeLatin1Replace_decodeLatin1] at hencode
        rw [← Option.some.inj hencode]
        exact List.length_map _
      · have hnone : getHeader (replacedKeyRequest password).headers (ascii "authorization") = none := by
          have hname : (ascii "x-api-key" == ascii "authorization") = false := by decide +kernel
          simp [replacedKeyRequest, getHeader, hname]
        rw [hnone] at hvalue
        cases hvalue
    omega
  · rw [encodeLatin1_eq_none hmem hc] at hlatin1
    cases hlatin1

theorem comparable_of_guarded (hauth : cfg.authEnabled = true) (h : Guarded cfg setupToken) :
    Comparable cfg.password := by
  by_contra hnot
  unfold Comparable at hnot
  push Not at hnot
  obtain ⟨hutf8, c, hmem, hc⟩ := hnot
  obtain ⟨utf8, hutf8⟩ := Option.ne_none_iff_exists'.mp hutf8
  have hne : cfg.password ≠ [] := List.ne_nil_of_mem hmem
  have hcert : devicesRoute ≠ caCertRoute := by decide +kernel
  have hholds := (h hauth (replacedKeyRequest cfg.password) devicesRoute dispatch_devices (by decide +kernel) hcert).1
  rcases hholds (show (str "GET" : Str) ≠ "OPTIONS" by decide +kernel) (next_replacedKeyRequest hauth hne hutf8) with
    ⟨-, hcarries⟩ | ⟨hempty, -⟩
  · exact not_carries_replacedKeyRequest hmem hc hcarries
  · exact hne hempty

/-- With authentication on, no spelling of a path opens the control plane, and the password does so only if it is the
    configured one, just when that is Latin-1 text or cannot be encoded at all. -/
theorem guarded_iff (cfg : SecurityConfig) (setupToken : Str) :
    Guarded cfg setupToken ↔ (cfg.authEnabled = true → Comparable cfg.password) := by
  constructor
  · intro h hauth
    exact comparable_of_guarded hauth h
  · intro hcomparable hauth req r hdispatch hunder hcert
    exact ⟨authHolds_of_comparable hauth (hcomparable hauth) hdispatch hunder hcert, originHolds hdispatch hunder⟩

/-- A password of six Cyrillic letters. -/
def cyrillicConfig : SecurityConfig where
  authEnabled := true
  password := [0x43f, 0x430, 0x440, 0x43e, 0x43b, 0x44c]

/-- Six question marks open the control plane to anyone. -/
theorem not_guarded_cyrillic : ¬ ∀ cfg setupToken, Guarded cfg setupToken := by
  intro hall
  rcases comparable_of_guarded rfl (hall cyrillicConfig []) with hnone | hlt
  · have hsome : (encodeUtf8 cyrillicConfig.password).isSome = true := by decide
    rw [hnone] at hsome
    cases hsome
  · exact absurd (hlt 0x43f List.mem_cons_self) (by decide)

end RideTheApi.Security
