import RideTheApi.Lib.Trim
import RideTheApi.Security.Access

/-!
# `Security.Password` — the bytes that open the control plane

A header value is decoded as Latin-1, so its bytes can be compared with the encodings of the password. The comparison is
exact but for two readings: characters beyond Latin-1 are compared as question marks, and a bearer token is stripped of
what is white space in Latin-1, which the last byte of a character in UTF-8 can be.
-/

namespace RideTheApi.Security.Password

open Py Trim

/-- `password_problem`. -/
def passwordProblem (password : Str) : Option Str :=
  if password.any fun c => c.val < 0x20 || c.val == 0x7f then some (str "password must not contain control characters")
  else if password.any fun c => 0xff < c.val then
    some (str "password may only use Latin-1 characters (a browser cannot send others)")
  else none

/-! ## Keys -/

/-- Where a request carries its key. -/
inductive Channel where
  | apiKey
  | bearer
deriving DecidableEq

def Channel.header : Channel → Bytes → Bytes × Bytes
  | .apiKey, key => (ascii "x-api-key", key)
  | .bearer, key => (ascii "authorization", ascii "Bearer " ++ key)

/-- The headers carry the key in this channel, and nothing in the other. -/
structure Carries (headers : List (Bytes × Bytes)) (channel : Channel) (key : Bytes) : Prop where
  found : headers.find? (fun h => h.1 == (channel.header []).1) = some (channel.header key)
  only : ∀ h ∈ headers, h.1 = ascii "x-api-key" ∨ h.1 = ascii "authorization" → h.1 = (channel.header []).1

/-- White space of `str.strip`, in Latin-1. -/
def isSpaceByte (b : Byte) : Bool := Str.isSpace (Fin.ofNat 0x110000 b.val)

/-- A blank around a header value. -/
def isBlank (b : Byte) : Bool := b == 0x20 || b == 0x09

/-- The key as it is compared. -/
def Channel.read : Channel → Bytes → Bytes
  | .apiKey, key => key
  | .bearer, key => trim isSpaceByte key

/-- The key as a parser of HTTP leaves it; blanks at the end of a bearer token are not read anyway. -/
def Channel.parsed : Channel → Bytes → Bytes
  | .apiKey, key => trim isBlank key
  | .bearer, key => key

/-- The headers of a request that went through a parser of HTTP. -/
def parseHeaders (headers : List (Bytes × Bytes)) : List (Bytes × Bytes) := headers.map fun h => (h.1, trim isBlank h.2)

/-- The key is an encoding of the password. -/
def Encodes (password : Str) (key : Bytes) : Prop := encodeUtf8 password = some key ∨ encodeLatin1 password = some key

/-- The key is a password with characters beyond Latin-1, with question marks in their place. -/
def Replaced (password : Str) (key : Bytes) : Prop :=
  encodeUtf8 password ≠ none ∧ (∃ c ∈ password, 0x100 ≤ c.val) ∧ key = encodeLatin1Replace password

variable {password : Str} {key : Bytes} {channel : Channel} {headers : List (Bytes × Bytes)}

/-! ## What is read of a header -/

theorem stripSpace_decodeLatin1 (bs : Bytes) : Str.stripSpace (decodeLatin1 bs) = decodeLatin1 (trim isSpaceByte bs) :=
  trim_map _ bs

theorem find?_ascii_none {name : Bytes} (h : ∀ h ∈ headers, h.1 ≠ name) : getHeader headers name = none := by
  unfold getHeader
  rw [List.find?_eq_none.mpr, Option.map_none]
  intro x hx
  simpa using h x hx

theorem getHeader_of_find {name value : Bytes} (h : headers.find? (fun h => h.1 == name) = some (name, value)) :
    getHeader headers name = some (decodeLatin1 value) := by
  unfold getHeader
  rw [h]
  rfl

/-- The text after the scheme. -/
theorem startsWith_bearer (key : Bytes) :
    Str.startsWith (lowerLatin1 (decodeLatin1 (ascii "Bearer " ++ key))) "bearer " = true := by
  have hscheme : lowerLatin1 (decodeLatin1 (ascii "Bearer ")) = str "bearer " := by decide +kernel
  unfold Str.startsWith
  rw [List.isPrefixOf_iff_prefix]
  unfold decodeLatin1 lowerLatin1 at hscheme ⊢
  rw [List.map_append, List.map_append, hscheme]
  exact List.prefix_append _ _

theorem drop_bearer (key : Bytes) : (decodeLatin1 (ascii "Bearer " ++ key)).drop 7 = decodeLatin1 key := by
  unfold decodeLatin1
  rw [← List.map_drop]
  rfl

theorem extractKey_bearer (hkey : getHeader headers (ascii "x-api-key") = none)
    (hauth : getHeader headers (ascii "authorization") = some (decodeLatin1 (ascii "Bearer " ++ key))) :
    extractKey headers = decodeLatin1 (trim isSpaceByte key) := by
  unfold extractKey
  rw [hkey, hauth]
  simp only [Option.getD_none, Option.getD_some, ne_eq, not_true_eq_false, if_false]
  rw [if_pos (startsWith_bearer key), drop_bearer, stripSpace_decodeLatin1]

theorem extractKey_apiKey {value : Str} (hkey : getHeader headers (ascii "x-api-key") = some value)
    (hauth : getHeader headers (ascii "authorization") = none) : extractKey headers = value := by
  unfold extractKey
  rw [hkey, hauth]
  by_cases hempty : value = []
  · rw [hempty]
    decide +kernel
  · simp [hempty]

/-- **What is compared is the key as it is read.** -/
theorem extractKey_carries (h : Carries headers channel key) : extractKey headers = decodeLatin1 (channel.read key) := by
  cases channel with
  | apiKey =>
    apply extractKey_apiKey (getHeader_of_find h.found)
    apply find?_ascii_none
    intro x hx hname
    have hother := h.only x hx (.inr hname)
    rw [hname] at hother
    revert hother
    decide +kernel
  | bearer =>
    apply extractKey_bearer _ (getHeader_of_find h.found)
    apply find?_ascii_none
    intro x hx hname
    have hother := h.only x hx (.inl hname)
    rw [hname] at hother
    revert hother
    decide +kernel

theorem find?_parseHeaders {name value : Bytes} (h : headers.find? (fun h => h.1 == name) = some (name, value)) :
    (parseHeaders headers).find? (fun h => h.1 == name) = some (name, trim isBlank value) := by
  unfold parseHeaders
  rw [List.find?_map]
  have hsame : ((fun h : Bytes × Bytes => h.1 == name) ∘ fun h : Bytes × Bytes => (h.1, trim isBlank h.2)) =
      fun h => h.1 == name := rfl
  rw [hsame, h]
  rfl

theorem only_parseHeaders (h : Carries headers channel key) : ∀ x ∈ parseHeaders headers,
    x.1 = ascii "x-api-key" ∨ x.1 = ascii "authorization" → x.1 = (channel.header []).1 := by
  intro x hx
  obtain ⟨y, hy, rfl⟩ := List.mem_map.mp hx
  exact h.only y hy

theorem isSpaceByte_of_isBlank {b : Byte} (h : isBlank b = true) : isSpaceByte b = true := by
  unfold isBlank at h
  rcases (Bool.or_eq_true _ _).mp h with hb | hb
  all_goals
    rw [beq_iff_eq.mp hb]
    decide

/-- A parser cuts blanks off the end of a bearer token, and off the scheme when nothing is left. -/
theorem trim_bearer (key : Bytes) : trim isBlank (ascii "Bearer " ++ key) =
    if ∃ b ∈ key, isBlank b = false then ascii "Bearer " ++ key.rdropWhile isBlank else ascii "Bearer" := by
  have hscheme : (ascii "Bearer " ++ key).dropWhile isBlank = ascii "Bearer " ++ key := by
    have hfirst : ascii "Bearer " ++ key = 0x42 :: (ascii "earer " ++ key) := rfl
    rw [hfirst, List.dropWhile_cons_of_neg (by decide)]
  unfold trim
  rw [hscheme]
  split
  · rename_i hrest
    exact rdropWhile_append_of_not _ hrest
  · rename_i hblank
    rw [rdropWhile_append_of_all]
    · decide +kernel
    · intro b hb
      by_contra hnot
      exact hblank ⟨b, hb, by simpa using hnot⟩

/-- After a parser the key that is compared is that of `Channel.parsed`. -/
theorem extractKey_parsed (h : Carries headers channel key) :
    extractKey (parseHeaders headers) = decodeLatin1 (channel.read (channel.parsed key)) := by
  have honly := only_parseHeaders h
  cases channel with
  | apiKey =>
    have hcarries : Carries (parseHeaders headers) .apiKey (trim isBlank key) := ⟨find?_parseHeaders h.found, honly⟩
    exact extractKey_carries hcarries
  | bearer =>
    have hfound : (parseHeaders headers).find? (fun h => h.1 == ascii "authorization") =
        some (ascii "authorization", trim isBlank (ascii "Bearer " ++ key)) := find?_parseHeaders h.found
    have hnokey : getHeader (parseHeaders headers) (ascii "x-api-key") = none := by
      apply find?_ascii_none
      intro x hx hname
      have hother := honly x hx (.inl hname)
      rw [hname] at hother
      revert hother
      decide +kernel
    have hauth := getHeader_of_find hfound
    rw [trim_bearer] at hauth
    by_cases hrest : ∃ b ∈ key, isBlank b = false
    · rw [if_pos hrest] at hauth
      rw [extractKey_bearer hnokey hauth, trim_rdropWhile fun _ => isSpaceByte_of_isBlank]
      rfl
    · rw [if_neg hrest] at hauth
      have hblank : trim isSpaceByte key = [] := by
        have hall : ∀ b ∈ key, isSpaceByte b = true := by
          intro b hb
          by_contra hnot
          apply hrest
          refine ⟨b, hb, ?_⟩
          by_contra hspace
          exact hnot (isSpaceByte_of_isBlank (by simpa using hspace))
        unfold trim
        rw [List.dropWhile_eq_nil_iff.mpr hall]
        rfl
      show extractKey (parseHeaders headers) = decodeLatin1 (trim isSpaceByte key)
      rw [hblank]
      unfold extractKey
      rw [hnokey, hauth]
      decide +kernel

/-! ## The comparison -/

theorem encodeUtf8_of_lt (h : ∀ c ∈ password, c.val < 0x100) : ∃ bs, encodeUtf8 password = some bs := by
  induction password with
  | nil => exact ⟨[], rfl⟩
  | cons c s ih =>
    obtain ⟨bs, hbs⟩ := ih fun c' hc' => h c' (List.mem_cons_of_mem _ hc')
    have hc := h c List.mem_cons_self
    have hchar : ∃ first, encodeUtf8Char c = some first := by
      unfold encodeUtf8Char
      by_cases hascii : c.val < 0x80
      · exact ⟨_, if_pos hascii⟩
      · exact ⟨_, (if_neg hascii).trans (if_pos (by omega))⟩
    obtain ⟨first, hfirst⟩ := hchar
    unfold encodeUtf8 at hbs ⊢
    rw [List.mapM_cons, hfirst]
    obtain ⟨rest, hrest, _⟩ := Option.map_eq_some_iff.mp hbs
    rw [hrest]
    exact ⟨_, rfl⟩

theorem encodeLatin1_eq_some (h : encodeLatin1 password = some key) :
    (∀ c ∈ password, c.val < 0x100) ∧ key = encodeLatin1Replace password := by
  have hlt : ∀ c ∈ password, c.val < 0x100 := by
    intro c hc
    by_contra hge
    rw [encodeLatin1_eq_none hc (Nat.not_lt.mp hge)] at h
    cases h
  rw [encodeLatin1_of_lt hlt] at h
  exact ⟨hlt, (Option.some.inj h).symm⟩

/-- **A key is accepted if it is an encoding of the password, or the password with question marks.** -/
theorem passwordMatches_iff (password : Str) (key : Bytes) :
    passwordMatches (decodeLatin1 key) password = some true ↔ Encodes password key ∨ Replaced password key := by
  unfold passwordMatches
  rw [encodeLatin1Replace_decodeLatin1]
  constructor
  · intro h
    obtain ⟨utf8, hutf8, hequal⟩ := Option.map_eq_some_iff.mp h
    rcases (Bool.or_eq_true _ _).mp hequal with heq | heq
    · exact .inl (.inl (by rw [hutf8, beq_iff_eq.mp heq]))
    · by_cases hlt : ∀ c ∈ password, c.val < 0x100
      · exact .inl (.inr (by rw [encodeLatin1_of_lt hlt, beq_iff_eq.mp heq]))
      · push Not at hlt
        exact .inr ⟨by rw [hutf8]; simp, hlt, beq_iff_eq.mp heq⟩
  · rintro ((h | h) | ⟨hsome, -, rfl⟩)
    · rw [h]
      simp
    · obtain ⟨hlt, rfl⟩ := encodeLatin1_eq_some h
      obtain ⟨utf8, hutf8⟩ := encodeUtf8_of_lt hlt
      rw [hutf8]
      simp
    · obtain ⟨utf8, hutf8⟩ := Option.ne_none_iff_exists'.mp hsome
      rw [hutf8]
      simp

/-- The question marks of a character in UTF-8. -/
theorem count_encodeUtf8Char {c : CodePoint} {bs : Bytes} (h : encodeUtf8Char c = some bs) :
    bs.count 0x3f = if c.val = 0x3f then 1 else 0 := by
  have hc := c.isLt
  have hbyte : ∀ n, (Fin.ofNat 256 n == (0x3f : Byte)) = decide (n % 256 = 0x3f) := by
    intro n
    rw [Bool.eq_iff_iff, beq_iff_eq, decide_eq_true_iff]
    exact ofNat_byte_inj (m := 0x3f)
  unfold encodeUtf8Char at h
  simp only at h
  split_ifs at h <;> simp only [Option.some.injEq] at h <;> subst h <;>
    simp only [List.count_cons, List.count_nil, hbyte, decide_eq_true_eq] <;> split_ifs <;> omega

theorem count_encodeUtf8 {bs : Bytes} (h : encodeUtf8 password = some bs) :
    bs.count 0x3f = password.countP fun c => c.val == 0x3f := by
  induction password generalizing bs with
  | nil =>
    obtain rfl : bs = [] := by simpa [encodeUtf8, eq_comm] using h
    rfl
  | cons c s ih =>
    obtain ⟨first, rest, hfirst, hrest, rfl⟩ := encodeUtf8_cons h
    rw [List.count_append, count_encodeUtf8Char hfirst, ih hrest, List.countP_cons]
    simp only [beq_iff_eq]
    omega

theorem count_encodeLatin1Replace (password : Str) : (encodeLatin1Replace password).count 0x3f =
    (password.countP fun c => c.val == 0x3f) + password.countP fun c => 0x100 ≤ c.val := by
  induction password with
  | nil => rfl
  | cons c s ih =>
    unfold encodeLatin1Replace at ih ⊢
    rw [List.map_cons, List.count_cons, ih, List.countP_cons, List.countP_cons]
    by_cases hc : c.val < 0x100
    · have hbyte : ((Fin.ofNat 256 c.val : Byte) == 0x3f) = (c.val == 0x3f) := by
        rw [Bool.eq_iff_iff, beq_iff_eq, beq_iff_eq]
        have heq : (Fin.ofNat 256 c.val : Byte) = Fin.ofNat 256 0x3f ↔ c.val % 256 = 0x3f % 256 := ofNat_byte_inj
        rw [Nat.mod_eq_of_lt hc] at heq
        exact heq
      simp only [hc, if_true, hbyte, not_le.mpr hc, decide_false, Bool.false_eq_true, if_false]
      omega
    · have hne : c.val ≠ 0x3f := by omega
      have hge : 0x100 ≤ c.val := by omega
      simp only [hc, if_false, hge, decide_true, if_true, BEq.rfl, beq_iff_eq, hne]
      omega

/-- A password with question marks in it is cut out of none of its encodings: those have fewer. -/
theorem Replaced.not_encodes {key' : Bytes} (h : Replaced password key') (hsub : key'.Sublist key) :
    ¬Encodes password key := by
  obtain ⟨-, ⟨c, hc, hge⟩, rfl⟩ := h
  rintro (hutf8 | hlatin1)
  · have hle := hsub.count_le 0x3f
    rw [count_encodeUtf8 hutf8, count_encodeLatin1Replace] at hle
    have hpos : 0 < password.countP fun c => decide (0x100 ≤ c.val) :=
      List.countP_pos_iff.mpr ⟨c, hc, by simpa using hge⟩
    omega
  · have hlt := (encodeLatin1_eq_some hlatin1).1 c hc
    omega

theorem read_sublist (channel : Channel) (key : Bytes) : (channel.read key).Sublist key := by
  cases channel with
  | apiKey => exact List.Sublist.refl _
  | bearer => exact trim_sublist _ _

/-- A password that is set through the API has no characters beyond Latin-1. -/
theorem not_replaced_of_noProblem (h : passwordProblem password = none) : ¬Replaced password key := by
  rintro ⟨-, ⟨c, hc, hge⟩, -⟩
  unfold passwordProblem at h
  split at h
  · cases h
  · split at h
    · cases h
    · rename_i hbeyond
      apply hbeyond
      rw [List.any_eq_true]
      exact ⟨c, hc, decide_eq_true (by omega)⟩

/-! ## Who gets in -/

variable {cfg : SecurityConfig} {setupToken : Str} {req : Request}

/-- A request that is let through by its password or not at all. -/
structure Checked (cfg : SecurityConfig) (req : Request) : Prop where
  enabled : cfg.authEnabled = true
  password : cfg.password ≠ []
  plain : ¬(0 ∈ req.path ∨ cp '\\' ∈ req.path)
  underApi : ¬(normpath req.path ≠ "/api" ∧ Str.startsWith (normpath req.path) "/api/" = false)
  method : req.method ≠ "OPTIONS"
  notPublic : normpath req.path ∉ publicPaths

/-- The request after a parser of HTTP. -/
def parseRequest (req : Request) : Request := { req with headers := parseHeaders req.headers }

theorem controlPlaneAuth_checked (setupToken : Str) (h : Checked cfg req) :
    controlPlaneAuth cfg setupToken req = .next ↔ passwordMatches (extractKey req.headers) cfg.password = some true := by
  unfold controlPlaneAuth
  rw [if_neg h.plain]
  dsimp only
  rw [if_neg h.underApi, if_neg h.method, if_neg h.notPublic, h.enabled, if_neg (by simp), if_neg h.password]
  generalize passwordMatches (extractKey req.headers) cfg.password = equal
  cases equal with
  | none => simp [verdict]
  | some b => cases b <;> simp [verdict]

/-- The key opens the control plane exactly when it encodes the password; and it still does after a parser of HTTP, when
    the password is one that the API sets. -/
structure ExactlyOpens (cfg : SecurityConfig) (setupToken : Str) (req : Request) (key : Bytes) : Prop where
  accepted : controlPlaneAuth cfg setupToken req = .next ↔ Encodes cfg.password key
  parsed : passwordProblem cfg.password = none → Encodes cfg.password key →
    controlPlaneAuth cfg setupToken (parseRequest req) = .next

/-- What is read of the key tells as much about the password as the key: it is not the password with question marks, it
    encodes the password if the key does, and so it does after a parser of HTTP. -/
def ReadsAlike (password : Str) (channel : Channel) (key : Bytes) : Prop :=
  ¬Replaced password (channel.read key) ∧ (Encodes password (channel.read key) ↔ Encodes password key) ∧
    (passwordProblem password = none → Encodes password key → Encodes password (channel.read (channel.parsed key)))

/-- **Exactly the configured password opens the control plane, where the key reads alike.** -/
theorem exactlyOpens_iff (hchecked : Checked cfg req) (hcarries : Carries req.headers channel key) :
    ExactlyOpens cfg setupToken req key ↔ ReadsAlike cfg.password channel key := by
  have haccepted : controlPlaneAuth cfg setupToken req = .next ↔
      Encodes cfg.password (channel.read key) ∨ Replaced cfg.password (channel.read key) := by
    rw [controlPlaneAuth_checked setupToken hchecked, extractKey_carries hcarries, passwordMatches_iff]
  have hchecked' : Checked cfg (parseRequest req) :=
    ⟨hchecked.enabled, hchecked.password, hchecked.plain, hchecked.underApi, hchecked.method, hchecked.notPublic⟩
  have hparsed : controlPlaneAuth cfg setupToken (parseRequest req) = .next ↔
      Encodes cfg.password (channel.read (channel.parsed key)) ∨
        Replaced cfg.password (channel.read (channel.parsed key)) := by
    rw [controlPlaneAuth_checked setupToken hchecked', ← passwordMatches_iff]
    unfold parseRequest
    rw [extractKey_parsed hcarries]
  constructor
  · intro h
    have hnot : ¬Replaced cfg.password (channel.read key) := by
      intro hreplaced
      have hencodes := h.accepted.mp (haccepted.mpr (.inr hreplaced))
      exact hreplaced.not_encodes (read_sublist channel key) hencodes
    refine ⟨hnot, ?_, ?_⟩
    · constructor
      · intro hread
        exact h.accepted.mp (haccepted.mpr (.inl hread))
      · intro hencodes
        exact (haccepted.mp (h.accepted.mpr hencodes)).resolve_right hnot
    · intro hproblem hencodes
      exact (hparsed.mp (h.parsed hproblem hencodes)).resolve_right (not_replaced_of_noProblem hproblem)
  · rintro ⟨hnot, hread, hblank⟩
    constructor
    · rw [haccepted, ← hread]
      exact or_iff_left hnot
    · intro hproblem hencodes
      exact hparsed.mpr (.inl (hblank hproblem hencodes))

/-! ## A password with an accent -/

def devicesRequest (channel : Channel) (key : Bytes) : Request where
  method := "GET"
  path := "/api/devices"
  headers := [channel.header key]

theorem devicesRequest_carries (channel : Channel) (key : Bytes) :
    Carries (devicesRequest channel key).headers channel key where
  found := by
    have hname : (channel.header key).1 = (channel.header []).1 := by cases channel <;> rfl
    unfold devicesRequest
    rw [List.find?_cons_of_pos (by simp [hname])]
  only := by
    intro h hmem _
    rw [List.mem_singleton.mp hmem]
    cases channel <;> rfl

theorem devicesRequest_checked {password : Str} (h : password ≠ []) (channel : Channel) (key : Bytes) :
    Checked { authEnabled := true, password } (devicesRequest channel key) where
  enabled := rfl
  password := h
  plain := by
    show ¬(0 ∈ str "/api/devices" ∨ cp '\\' ∈ str "/api/devices")
    decide +kernel
  underApi := by
    show ¬(normpath "/api/devices" ≠ "/api" ∧ Str.startsWith (normpath "/api/devices") "/api/" = false)
    decide +kernel
  method := by
    show str "GET" ≠ "OPTIONS"
    decide
  notPublic := by
    show normpath "/api/devices" ∉ publicPaths
    decide +kernel

instance (password : Str) (key : Bytes) : Decidable (Encodes password key) := inferInstanceAs (Decidable (_ ∨ _))

instance (password : Str) (key : Bytes) : Decidable (Replaced password key) :=
  decidable_of_iff (encodeUtf8 password ≠ none ∧ (password.any fun c => decide (0x100 ≤ c.val)) = true ∧
    key = encodeLatin1Replace password) (by simp [Replaced])

instance (password : Str) (channel : Channel) (key : Bytes) : Decidable (ReadsAlike password channel key) :=
  inferInstanceAs (Decidable (_ ∧ _ ∧ _))

/-- `pässwort-123` in UTF-8. -/
def asUtf8 : Bytes := 0x70 :: 0xc3 :: 0xa4 :: ascii "sswort-123"

/-- `café-voilà` in UTF-8: the last byte is a no-break space in Latin-1. -/
def voilaUtf8 : Bytes := ascii "caf" ++ [0xc3, 0xa9] ++ ascii "-voil" ++ [0xc3, 0xa0]

def voila : Str := "café-voilà"

theorem passwort_opens :
    Checked { authEnabled := true, password := "pässwort-123" } (devicesRequest .bearer asUtf8) ∧
      Carries (devicesRequest .bearer asUtf8).headers .bearer asUtf8 ∧
      (ExactlyOpens { authEnabled := true, password := "pässwort-123" } [] (devicesRequest .bearer asUtf8) asUtf8 ↔
        ReadsAlike "pässwort-123" .bearer asUtf8) ∧ ReadsAlike "pässwort-123" .bearer asUtf8 :=
  ⟨devicesRequest_checked (by decide) _ _, devicesRequest_carries _ _,
    exactlyOpens_iff (devicesRequest_checked (by decide) _ _) (devicesRequest_carries _ _), by decide +kernel⟩

/-- As a bearer token the password is cut short. -/
theorem voila_locked : ¬ ∀ cfg setupToken req channel key, Checked cfg req → Carries req.headers channel key →
    ExactlyOpens cfg setupToken req key := by
  intro h
  have hchecked : Checked { authEnabled := true, password := voila } (devicesRequest .bearer voilaUtf8) :=
    devicesRequest_checked (by decide) .bearer voilaUtf8
  have hopens := h _ [] _ _ _ hchecked (devicesRequest_carries .bearer voilaUtf8)
  have hencodes : Encodes voila voilaUtf8 := by decide +kernel
  have hnext := hopens.accepted.mpr hencodes
  revert hnext
  decide +kernel

end RideTheApi.Security.Password
