import RideTheApi.Lib.Trim
import RideTheApi.Py.Fnmatch
import RideTheApi.Py.Interp

/-!
# `Dns.Policy` — which names are answered, and which are forwarded

A name is checked against the exclusions, the names the adapters claim and the names to intercept. Each pattern is trimmed
and lowered where it is used, and read as a domain with what is under it, as a shell pattern, or as a name.
-/

namespace RideTheApi.Dns

open Py

/-! ## Patterns -/

/-- `s.rstrip(".")`. -/
def rstripDots (s : Str) : Str := s.rdropWhile (· == cp '.')

/-- A pattern that was read. -/
inductive Matcher where
  | empty
  | domainWildcard (domain : Str)
  | glob (pattern : Str)
  | exact (name : Str)
deriving Repr, DecidableEq

/-- What the interceptor takes from the interpreter. -/
structure Host extends Interp where
  /-- A character is in the class with this content, in a shell pattern. -/
  inClass : Str → CodePoint → Bool

variable (H : Host)

/-- `candidate.strip().rstrip(".").lower()`. -/
def normalized (candidate : Str) : Str := H.lowerStr (rstripDots candidate.stripSpace)

/-- `_compile_candidate`. -/
def compileCandidate (candidate : Str) : Matcher :=
  let cand := normalized H candidate
  if cand = [] then .empty
  else if cand.startsWith "*." then .domainWildcard (cand.drop 2)
  else if cand.contains (cp '*') || cand.contains (cp '?') then .glob cand
  else .exact cand

/-- Whether a name matches a pattern that was read. -/
def Matcher.accepts (name : Str) : Matcher → Bool
  | .empty                 => false
  | .domainWildcard domain => name == domain || name.endsWith (cp '.' :: domain)
  | .glob pattern          => globMatches H.inClass (translateGlob pattern) name
  | .exact cand            => name == cand

/-- `_name_matches`. -/
def nameMatches (name candidate : Str) : Bool := (compileCandidate H candidate).accepts H name

/-- `DEFAULT_DNS_EXCLUSIONS`. -/
def defaultDnsExclusions : List Str := ["ntp.*", "time.*", "ocsp.*", "crl.*", "*.local", "*.lan", "*.localdomain"]

/-- `pattern.strip().lower().rstrip(".")`. -/
def normalizedExclusion (pattern : Str) : Str := rstripDots (H.lowerStr pattern.stripSpace)

/-- `_DEFAULT_EXCLUSIONS`. -/
def defaultExclusions : List Str := defaultDnsExclusions.map (normalizedExclusion H)

/-- The exclusion is one of the shipped ones. -/
def isDefault (pattern : Str) : Bool := (defaultExclusions H).contains (normalizedExclusion H pattern)

/-! ## Decisions -/

inductive Status where
  | intercepted
  | excluded
  | forwarded
deriving Repr, DecidableEq

/-- The configuration of an interceptor, and the names the registered adapters claim. -/
structure Interceptor where
  patterns : List Str := []
  exclude : List Str := []
  interceptAll : Bool := false
  adapterHostnames : List Str := []
deriving Repr, DecidableEq

/-- `qname.rstrip(".").lower()`. -/
def queryName (qname : Str) : Str := H.lowerStr (rstripDots qname)

variable (P : Interceptor)

/-- `matching_exclusion`. -/
def matchingExclusion (qname : Str) : Option Str := P.exclude.find? (nameMatches H (queryName H qname))

/-- `matching_operator_exclusion`. -/
def matchingOperatorExclusion (qname : Str) : Option Str :=
  P.exclude.find? fun pattern => !isDefault H pattern && nameMatches H (queryName H qname) pattern

/-- `adapter_claim`. -/
def adapterClaim (qname : Str) : Option Str := P.adapterHostnames.find? (nameMatches H (queryName H qname))

/-- `_matches_configured`. -/
def matchesConfigured (name : Str) (fromSelf : Bool) : Status :=
  if P.patterns.any (nameMatches H name) then .intercepted
  else if P.interceptAll && !fromSelf then .intercepted
  else .forwarded

/-- `classify`: every step normalises the name again. -/
def classify (qname : Str) (fromSelf : Bool) : Status :=
  let name := queryName H qname
  if (matchingOperatorExclusion H P name).isSome then .excluded
  else if (adapterClaim H P name).isSome then .intercepted
  else if (matchingExclusion H P name).isSome then .excluded
  else matchesConfigured H P name fromSelf

/-! ## What is documented -/

/-- **The precedence**: the exclusions of the operator, the claims of the adapters, the default exclusions, the names to
    intercept, and everything that does not come from this machine. -/
inductive Decides (name : Str) (fromSelf : Bool) : Status → Prop where
  | operatorExclusion (h : ∃ p ∈ P.exclude, isDefault H p = false ∧ nameMatches H name p = true) :
      Decides name fromSelf .excluded
  | claimed (hoperator : ¬ ∃ p ∈ P.exclude, isDefault H p = false ∧ nameMatches H name p = true)
      (h : ∃ p ∈ P.adapterHostnames, nameMatches H name p = true) : Decides name fromSelf .intercepted
  | defaultExclusion (hoperator : ¬ ∃ p ∈ P.exclude, isDefault H p = false ∧ nameMatches H name p = true)
      (hclaimed : ¬ ∃ p ∈ P.adapterHostnames, nameMatches H name p = true)
      (h : ∃ p ∈ P.exclude, isDefault H p = true ∧ nameMatches H name p = true) : Decides name fromSelf .excluded
  | listed (hexcluded : ¬ ∃ p ∈ P.exclude, nameMatches H name p = true)
      (hclaimed : ¬ ∃ p ∈ P.adapterHostnames, nameMatches H name p = true)
      (h : ∃ p ∈ P.patterns, nameMatches H name p = true) : Decides name fromSelf .intercepted
  | everything (hexcluded : ¬ ∃ p ∈ P.exclude, nameMatches H name p = true)
      (hclaimed : ¬ ∃ p ∈ P.adapterHostnames, nameMatches H name p = true)
      (hlisted : ¬ ∃ p ∈ P.patterns, nameMatches H name p = true) (hall : P.interceptAll = true)
      (hself : fromSelf = false) : Decides name fromSelf .intercepted
  | nothing (hexcluded : ¬ ∃ p ∈ P.exclude, nameMatches H name p = true)
      (hclaimed : ¬ ∃ p ∈ P.adapterHostnames, nameMatches H name p = true)
      (hlisted : ¬ ∃ p ∈ P.patterns, nameMatches H name p = true) (h : ¬ (P.interceptAll = true ∧ fromSelf = false)) :
      Decides name fromSelf .forwarded

/-- Two names of a query that differ in letter case and trailing dots. -/
inductive SameQuery : Str → Str → Prop where
  | case {q q' : Str} (h : H.lowerStr q = H.lowerStr q') : SameQuery q q'
  | dots {q ds : Str} (h : ∀ c ∈ ds, c = cp '.') : SameQuery q (q ++ ds)
  | symm {q q' : Str} (h : SameQuery q q') : SameQuery q' q
  | trans {q q' q'' : Str} (h : SameQuery q q') (h' : SameQuery q' q'') : SameQuery q q''

/-- Two patterns that differ in letter case, trailing dots and surrounding blanks. -/
inductive SamePattern : Str → Str → Prop where
  | case {p p' : Str} (h : H.lowerStr p = H.lowerStr p') : SamePattern p p'
  | dots {p ds : Str} (h : ∀ c ∈ ds, c = cp '.') : SamePattern p (p ++ ds)
  | blanks {p ws ws' : Str} (h : ∀ c ∈ ws, Str.isSpace c = true) (h' : ∀ c ∈ ws', Str.isSpace c = true) :
      SamePattern p (ws ++ p ++ ws')
  | symm {p p' : Str} (h : SamePattern p p') : SamePattern p' p
  | trans {p p' p'' : Str} (h : SamePattern p p') (h' : SamePattern p' p'') : SamePattern p p''

/-- No blank is in front of the trailing dots of the pattern. -/
def NoBlankBeforeDots (p : Str) : Prop := ∀ c ∈ (rstripDots p.stripSpace).getLast?, Str.isSpace c = false

/-- The patterns differ so, and neither has a blank in front of its trailing dots. -/
def SpelledAlike (p p' : Str) : Prop := SamePattern H p p' ∧ NoBlankBeforeDots p ∧ NoBlankBeforeDots p'

/-- Two configurations whose patterns differ so. -/
structure SamePolicy (P P' : Interceptor) : Prop where
  patterns : List.Forall₂ (SpelledAlike H) P.patterns P'.patterns
  exclude : List.Forall₂ (SpelledAlike H) P.exclude P'.exclude
  adapterHostnames : List.Forall₂ (SpelledAlike H) P.adapterHostnames P'.adapterHostnames
  interceptAll : P.interceptAll = P'.interceptAll

/-- The domain that is written in `*.d`. -/
def domainOf (d : Str) : Str := H.lowerStr (rstripDots (d.rdropWhile Str.isSpace))

/-- The name is the domain, or under it. -/
def Under (domain name : Str) : Prop := name = domain ∨ cp '.' :: domain <:+ name

/-- Lowering keeps blanks, makes no blank and no dot of anything else, and is done once. -/
structure LowersLetters (H : Host) : Prop where
  space : ∀ c : CodePoint, 0x80 ≤ c.val → Str.isSpace c = true → H.lower c = [c]
  letter : ∀ c : CodePoint, 0x80 ≤ c.val → Str.isSpace c = false →
    H.lower c ≠ [] ∧ ∀ d ∈ H.lower c, Str.isSpace d = false ∧ d ≠ cp '.'
  again : ∀ c : CodePoint, 0x80 ≤ c.val → H.lowerStr (H.lower c) = H.lower c

end RideTheApi.Dns
