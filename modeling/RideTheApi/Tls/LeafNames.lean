import RideTheApi.Py.Format
import RideTheApi.Py.IpAddress
import RideTheApi.Tls.CertificateSafety

/-!
# `Tls.LeafNames` — a certificate for every device

The listener asks for a certificate by the server name of the hello, or by the address of the client with `.local` behind
it. The name passes the allowlist of the manager, and a leaf that is signed for it carries it among its alternative names,
as an address or as a host name with a wildcard for its domain.
-/

namespace RideTheApi.Certificates

open Py Faulty
open Isolation (isAlnum isSafe)

/-! ## Names -/

/-- An entry of the `SubjectAlternativeName` extension. -/
inductive AltName where
  | ip (addr : IpAddress)
  | dns (name : Str)
deriving DecidableEq, Repr

/-- The address a hostname is; without a dot and a colon it is not read. -/
def leafAddress (hostname : Str) : Option IpAddress :=
  if hostname ≠ [] ∧ (hostname.contains (cp '.') ∨ hostname.contains (cp ':')) then IpAddress.parse hostname else none

/-- The alternative names of a leaf: the address, or the hostname and a wildcard for its domain. -/
def altNames (hostname : Str) : List AltName :=
  match leafAddress hostname with
  | some addr => [.ip addr]
  | none      =>
    .dns hostname ::
      if hostname.contains (cp '.') then [.dns (str "*." ++ joinWith "." ((Str.split (cp '.') hostname).drop 1))] else []

/-- The alternative names of a certificate that was signed here. -/
def CertPem.altNames : CertPem → List AltName
  | .leaf hostname _ _ _ => Certificates.altNames hostname
  | .text _              => []

/-- The names say the host. -/
def NamesHost (hostname : Str) (names : List AltName) : Prop :=
  .dns hostname ∈ names ∨ ∃ addr, IpAddress.parse hostname = some addr ∧ .ip addr ∈ names

/-- `sni or f"{client_ip}.local"`. -/
def listenerName (sni : Option Str) (clientIp : Str) : Str :=
  match sni with
  | some (c :: name) => c :: name
  | _                => clientIp ++ ".local"

/-- A label of a host name. -/
structure ValidLabel (label : Str) : Prop where
  nonempty : label ≠ []
  short : label.length ≤ 63
  letters : ∀ c ∈ label, isAlnum c = true ∨ c = cp '-' ∨ c = cp '_'

/-- A DNS host name. -/
structure ValidDnsName (name : Str) : Prop where
  labels : ∀ label ∈ Str.split (cp '.') name, ValidLabel label
  short : name.length ≤ 253

/-- An IPv4 address in text form. -/
def IsIpv4 (text : Str) : Prop := IpAddress.parseV4 text ≠ none

/-- An IPv6 address in text form, with a scope or without. -/
def IsIpv6 (text : Str) : Prop := IpAddress.parseV6 (Str.before (cp '%') text) ≠ none

theorem namesHost_altNames (hostname : Str) : NamesHost hostname (altNames hostname) := by
  unfold altNames
  cases haddr : leafAddress hostname with
  | some addr =>
    have hparse : IpAddress.parse hostname = some addr := by
      unfold leafAddress at haddr
      split at haddr
      · exact haddr
      · cases haddr
    exact .inr ⟨addr, hparse, List.mem_singleton_self _⟩
  | none => exact .inl List.mem_cons_self

/-! ## What passes the allowlist -/

section
variable {name text : Str}

theorem mem_joinWith_dot {parts : List Str} {c : CodePoint} (h : c ∈ List.intercalate [cp '.'] parts) :
    c = cp '.' ∨ ∃ part ∈ parts, c ∈ part := by
  induction parts with
  | nil => simp [List.intercalate] at h
  | cons part parts ih =>
    cases parts with
    | nil => exact .inr ⟨part, List.mem_singleton_self _, by simpa [List.intercalate] using h⟩
    | cons next parts =>
      have hsplit : List.intercalate [cp '.'] (part :: next :: parts) =
          part ++ cp '.' :: List.intercalate [cp '.'] (next :: parts) := by
        simp [List.intercalate]
      rw [hsplit, List.mem_append, List.mem_cons] at h
      rcases h with h | rfl | h
      · exact .inr ⟨part, List.mem_cons_self, h⟩
      · exact .inl rfl
      · rcases ih h with h | ⟨part', hpart', h⟩
        · exact .inl h
        · exact .inr ⟨part', List.mem_cons_of_mem _ hpart', h⟩

/-- The characters of a host name are those of the allowlist. -/
theorem ValidDnsName.safe (h : ValidDnsName name) : name.all isSafe = true := by
  rw [List.all_eq_true]
  intro c hc
  have hjoin : name = List.intercalate [cp '.'] (Str.split (cp '.') name) := (List.intercalate_splitOn (cp '.')).symm
  rw [hjoin] at hc
  rcases mem_joinWith_dot hc with rfl | ⟨label, hlabel, hc⟩
  · decide
  · rcases (h.labels label hlabel).letters c hc with halnum | rfl | rfl
    · unfold isSafe
      rw [halnum]
      rfl
    · decide
    · decide

theorem ValidDnsName.ne_nil (h : ValidDnsName name) : name ≠ [] := by
  rintro rfl
  exact (h.labels [] (by decide)).nonempty rfl

/-- Which host names pass: those with a letter or a digit at both ends. -/
theorem ValidDnsName.validHostname_iff (h : ValidDnsName name) :
    validHostname name = true ↔ name.head?.any isAlnum = true ∧ name.getLast?.any isAlnum = true := by
  unfold validHostname
  rw [h.safe, Bool.true_and, Bool.and_eq_true]

theorem parseOctet_spec {s : Str} {n : Nat} (h : IpAddress.parseOctet s = some n) :
    s ≠ [] ∧ s.length ≤ 3 ∧ ∀ c ∈ s, Interp.asciiDigit c = true := by
  unfold IpAddress.parseOctet at h
  split at h
  · cases h
  · rename_i hshape
    simp only [Bool.or_eq_true, List.isEmpty_iff, Bool.not_eq_true', decide_eq_true_eq, not_or, not_lt,
      Bool.not_eq_false, List.all_eq_true] at hshape
    exact ⟨hshape.1.1, hshape.2, hshape.1.2⟩

theorem isAlnum_of_digit {c : CodePoint} (h : Interp.asciiDigit c = true) : isAlnum c = true := by
  unfold Interp.asciiDigit at h
  have h0 : (cp '0').val = 48 := by decide
  have h9 : (cp '9').val = 57 := by decide
  unfold isAlnum
  rw [Bool.or_eq_true]
  right
  simpa [Fin.le_def, h0, h9] using h

/-- An IPv4 address is short, begins with a digit, and has digits and dots. -/
theorem IsIpv4.spec (h : IsIpv4 text) :
    text.length ≤ 15 ∧ (∃ c rest, text = c :: rest ∧ isAlnum c = true) ∧ text.all isSafe = true := by
  unfold IsIpv4 IpAddress.parseV4 at h
  have hjoin : text = List.intercalate [cp '.'] (Str.split (cp '.') text) := (List.intercalate_splitOn (cp '.')).symm
  split at h
  · rename_i a b c d hparts
    rw [hparts] at hjoin
    obtain ⟨n, hn⟩ := Option.ne_none_iff_exists'.mp h
    simp only [Option.bind_eq_bind, Option.bind_eq_some_iff] at hn
    obtain ⟨_, ha, _, hb, _, hc, _, hd, _⟩ := hn
    obtain ⟨hane, halen, hadigit⟩ := parseOctet_spec ha
    obtain ⟨_, hblen, hbdigit⟩ := parseOctet_spec hb
    obtain ⟨_, hclen, hcdigit⟩ := parseOctet_spec hc
    obtain ⟨_, hdlen, hddigit⟩ := parseOctet_spec hd
    have htext : text = a ++ cp '.' :: (b ++ cp '.' :: (c ++ cp '.' :: d)) := by
      rw [hjoin]
      simp [List.intercalate]
    refine ⟨?_, ?_, ?_⟩
    · rw [htext]
      simp only [List.length_append, List.length_cons]
      omega
    · cases a with
      | nil => exact absurd rfl hane
      | cons x a =>
        rw [htext]
        exact ⟨x, _, rfl, isAlnum_of_digit (hadigit x List.mem_cons_self)⟩
    · have hsafe : ∀ x, Interp.asciiDigit x = true → isSafe x = true := by
        intro x hx
        unfold isSafe
        rw [isAlnum_of_digit hx]
        rfl
      rw [List.all_eq_true]
      intro x hx
      rw [hjoin] at hx
      rcases mem_joinWith_dot hx with rfl | ⟨part, hpart, hxpart⟩
      · decide
      · simp only [List.mem_cons, List.not_mem_nil, or_false] at hpart
        rcases hpart with rfl | rfl | rfl | rfl
        · exact hsafe x (hadigit x hxpart)
        · exact hsafe x (hbdigit x hxpart)
        · exact hsafe x (hcdigit x hxpart)
        · exact hsafe x (hddigit x hxpart)
  · exact absurd rfl h

theorem validHostname_ipv4 (h : IsIpv4 text) : validHostname (text ++ ".local") = true := by
  obtain ⟨_, ⟨c, rest, rfl, hc⟩, hsafe⟩ := h.spec
  have hlocal : (str ".local").all isSafe = true := by decide
  have hlast : ((c :: rest) ++ str ".local").getLast? = some (cp 'l') := by
    have hend : str ".local" = str ".loca" ++ [cp 'l'] := by decide
    rw [hend, ← List.append_assoc, List.getLast?_concat]
  unfold validHostname
  rw [List.all_append, hsafe, hlocal, hlast]
  simp only [List.cons_append, List.head?_cons, Option.any_some, hc]
  decide

/-- An IPv6 address has a colon, which does not pass. -/
theorem validHostname_ipv6 (h : IsIpv6 text) : validHostname (text ++ ".local") = false := by
  have hcolon : cp ':' ∈ Str.before (cp '%') text := by
    by_contra hnot
    have hsplit : Str.split (cp ':') (Str.before (cp '%') text) = [Str.before (cp '%') text] :=
      List.splitOn_eq_singleton hnot
    apply h
    unfold IpAddress.parseV6 IpAddress.groups
    dsimp only
    rw [hsplit]
    rfl
  have hmem : cp ':' ∈ text := (List.takeWhile_prefix _).subset hcolon
  unfold validHostname
  have hall : (text ++ str ".local").all isSafe = false := by
    rw [List.all_eq_false]
    exact ⟨cp ':', List.mem_append_left _ hmem, by decide⟩
  rw [hall]
  rfl

end

/-! ## Serving the listener -/

section
variable {H : Host} {s : Manager} {hostname : Str}

theorem ensureCa_returns (s : Manager) : ∃ ca s', ensureCa none s = (some ca, s') := by
  cases hfound : s.foundCa with
  | some ca =>
    refine ⟨ca, { s with ca := some ca }, ?_⟩
    unfold ensureCa
    rw [get_bind, hfound]
    rfl
  | none =>
    refine ⟨⟨s.nextKey, s.nextKey⟩, (generateCa none s).2, ?_⟩
    unfold ensureCa
    rw [get_bind, hfound]
    rfl

/-- A leaf is signed when the common name is not too long. -/
theorem generateLeafCert_returns (hsigns : H.signs hostname = true) (s : Manager) :
    ∃ ca key expires s', generateLeafCert H none hostname s = (some (.leaf hostname ca key expires, .generated key), s') := by
  obtain ⟨ca, s', hca⟩ := ensureCa_returns s
  refine ⟨ca.key, s'.nextKey, s'.now + H.validity, { s' with nextKey := s'.nextKey + 1 }, ?_⟩
  unfold generateLeafCert
  rw [bind_returned hca, hsigns]
  rfl

theorem generateLeafCert_raises (hsigns : H.signs hostname = false) (s : Manager) :
    ∃ s', generateLeafCert H none hostname s = (none, s') := by
  obtain ⟨ca, s', hca⟩ := ensureCa_returns s
  refine ⟨{ s' with nextKey := s'.nextKey + 1 }, ?_⟩
  unfold generateLeafCert
  rw [bind_returned hca, hsigns]
  rfl

theorem get_generates (hvalid : validHostname hostname = true) (hkept : s.kept H hostname = none) :
    (getCertForHostname H none hostname s).1 = (generateLeafCert H none hostname s).1 := by
  unfold getCertForHostname
  rw [hvalid, Bool.not_true, raiseIf_false_bind, get_bind, hkept]
  show (((generateLeafCert H none hostname) >>= _) s).1 = _
  cases hleaf : generateLeafCert H none hostname s with
  | mk pair s' =>
    cases pair with
    | none => exact congrArg Prod.fst (bind_raised hleaf)
    | some pair =>
      rw [bind_returned hleaf]
      rfl

/-- The hostname is served: nothing is raised, and a certificate that is generated names it. -/
def Served (H : Host) (s : Manager) (hostname : Str) : Prop :=
  ∃ pair, (getCertForHostname H none hostname s).1 = some pair ∧
    (s.kept H hostname = none → NamesHost hostname pair.1.altNames)

/-- **Which hostnames are served**: those that pass the allowlist and have a pair or a common name that can be signed. -/
theorem served_iff (H : Host) (s : Manager) (hostname : Str) :
    Served H s hostname ↔ validHostname hostname = true ∧ (s.kept H hostname ≠ none ∨ H.signs hostname = true) := by
  unfold Served
  cases hvalid : validHostname hostname with
  | false =>
    rw [get_refused hvalid]
    simp
  | true =>
    cases hkept : s.kept H hostname with
    | some pair =>
      rw [get_kept hvalid hkept]
      simp
    | none =>
      rw [get_generates hvalid hkept]
      cases hsigns : H.signs hostname with
      | false =>
        obtain ⟨s', hraises⟩ := generateLeafCert_raises hsigns s
        rw [hraises]
        simp
      | true =>
        obtain ⟨ca, key, expires, s', hreturns⟩ := generateLeafCert_returns hsigns s
        rw [hreturns]
        refine ⟨fun _ => ⟨rfl, .inr rfl⟩, fun _ => ⟨_, rfl, fun _ => ?_⟩⟩
        exact namesHost_altNames hostname

/-- A common name of 1 to 64 characters is accepted. -/
def AcceptsCommonNames (H : Host) : Prop := ∀ hostname, H.signs hostname = decide (1 ≤ hostname.length ∧ hostname.length ≤ 64)

/-- A server name begins and ends with a letter or a digit, and is no longer than a common name unless its pair is kept;
    without one the client has an IPv4 address. -/
def Servable (H : Host) (s : Manager) (sni : Option Str) (clientIp : Str) : Prop :=
  match sni with
  | some name =>
    name.head?.any isAlnum = true ∧ name.getLast?.any isAlnum = true ∧ (s.kept H name ≠ none ∨ name.length ≤ 64)
  | none      => IsIpv4 clientIp

end

/-- **Every device gets a certificate, where its name is servable.** -/
theorem served_listenerName_iff {H : Host} {sni : Option Str} {clientIp : Str} (hnames : AcceptsCommonNames H)
    (hsni : ∀ name ∈ sni, ValidDnsName name) (hip : IsIpv4 clientIp ∨ IsIpv6 clientIp) (s : Manager) :
    Served H s (listenerName sni clientIp) ↔ Servable H s sni clientIp := by
  rw [served_iff, hnames]
  cases sni with
  | none =>
    unfold Servable
    dsimp only
    constructor
    · rintro ⟨hvalid, _⟩
      rcases hip with h4 | h6
      · exact h4
      · have hrefused : validHostname (listenerName none clientIp) = false := validHostname_ipv6 h6
        rw [hrefused] at hvalid
        cases hvalid
    · intro h4
      refine ⟨validHostname_ipv4 h4, .inr ?_⟩
      have hshort := h4.spec.1
      have hlength : (listenerName none clientIp).length = clientIp.length + 6 := List.length_append
      rw [decide_eq_true_iff, hlength]
      omega
  | some name =>
    have hname := hsni name rfl
    obtain ⟨c, rest, rfl⟩ := List.exists_cons_of_ne_nil hname.ne_nil
    show validHostname (c :: rest) = true ∧ _ ↔ _
    rw [hname.validHostname_iff, and_assoc]
    unfold Servable
    simp [listenerName]

/-- A host whose certificates have common names of 1 to 64 characters. -/
def namingHost : Host :=
  { hubHost with signs := fun hostname => decide (1 ≤ hostname.length ∧ hostname.length ≤ 64) }

/-- A bridge that says no name gets a certificate for its IPv4 address. -/
theorem served_bridge : Served namingHost {} (listenerName none (str "192.168.1.20")) := by
  have hip : IsIpv4 (str "192.168.1.20") := by
    unfold IsIpv4
    decide +kernel
  have hnames : AcceptsCommonNames namingHost := fun _ => rfl
  have hsni : ∀ name ∈ (none : Option Str), ValidDnsName name := fun _ h => absurd h (Option.not_mem_none _)
  exact (served_listenerName_iff hnames hsni (.inl hip) {}).mpr hip

/-- A client with an IPv6 address that says no name is refused. -/
theorem linkLocal_refused : ¬ ∀ (H : Host) (sni : Option Str) (clientIp : Str), AcceptsCommonNames H →
    (∀ name ∈ sni, ValidDnsName name) → IsIpv4 clientIp ∨ IsIpv6 clientIp →
      ∀ s, Served H s (listenerName sni clientIp) := by
  intro h
  have hip : IsIpv6 (str "fe80::1") := by
    unfold IsIpv6
    decide +kernel
  have hserved : Served namingHost {} (listenerName none (str "fe80::1")) :=
    h namingHost none (str "fe80::1") (fun _ => rfl) (fun _ h => absurd h (Option.not_mem_none _)) (.inr hip) {}
  obtain ⟨hvalid, _⟩ := (served_iff _ _ _).mp hserved
  exact absurd hvalid (by decide +kernel)

end RideTheApi.Certificates
