import RideTheApi.Py.Quote
import RideTheApi.Security.Routes

/-!
# `Security.Access` — the checks in front of the router

Header values are text decoded as Latin-1, and `lower` is spelled out for that. The check of the password looks at the
canonical form of the path; the guard against other sites looks at the same form, at the method and at the origin.
-/

namespace RideTheApi.Security

open Py

/-- An ASGI request. -/
structure Request where
  method : Str
  path : Str
  headers : List (Bytes × Bytes)
deriving DecidableEq

structure SecurityConfig where
  authEnabled : Bool
  password : Str
deriving DecidableEq

/-- What a middleware does with a request. -/
inductive Verdict where
  | next
  | refused (status : Nat)
  | raises
deriving DecidableEq

/-- The bytes of an ASCII text. -/
def ascii (s : String) : Bytes := (str s).map fun c => Fin.ofNat 256 c.val

/-- `s.lower()` of Latin-1 text. -/
def lowerLatin1 (s : Str) : Str :=
  s.map fun c =>
    if Interp.asciiUpper c || (0xc0 ≤ c.val && c.val ≤ 0xde && c.val != 0xd7) then Fin.ofNat 0x110000 (c.val + 0x20)
    else c

/-! ## The password -/

def publicPaths : List Str := ["/api/tls/ca-cert"]
def setupPath : Str := "/api/auth/password"

/-- `request.headers.get`: the first header of that name. -/
def getHeader (headers : List (Bytes × Bytes)) (name : Bytes) : Option Str :=
  (headers.find? fun h => h.1 == name).map fun h => decodeLatin1 h.2

/-- `_extract_key`. -/
def extractKey (headers : List (Bytes × Bytes)) : Str :=
  let key := (getHeader headers (ascii "x-api-key")).getD []
  if key ≠ [] then key
  else
    let auth := (getHeader headers (ascii "authorization")).getD []
    if Str.startsWith (lowerLatin1 auth) "bearer " then Str.stripSpace (auth.drop 7) else []

/-- `_password_matches`; `none` is a `UnicodeEncodeError`. -/
def passwordMatches (provided password : Str) : Option Bool :=
  (encodeUtf8 password).map fun utf8 =>
    encodeLatin1Replace provided == utf8 || encodeLatin1Replace provided == encodeLatin1Replace password

/-- `_safe_eq`. -/
def safeEq (a b : Str) : Option Bool := (encodeUtf8 a).bind fun a => (encodeUtf8 b).map fun b => a == b

/-- The verdict of a comparison that may raise. -/
def verdict (equal : Option Bool) (status : Nat) : Verdict :=
  match equal with
  | some true  => .next
  | some false => .refused status
  | none       => .raises

/-- `ControlPlaneAuthMiddleware.dispatch`. -/
def controlPlaneAuth (cfg : SecurityConfig) (setupToken : Str) (req : Request) : Verdict :=
  if 0 ∈ req.path ∨ cp '\\' ∈ req.path then .refused 400
  else
    let path := normpath req.path
    if path ≠ "/api" ∧ Str.startsWith path "/api/" = false then .next
    else if req.method = "OPTIONS" then .next
    else if path ∈ publicPaths then .next
    else if cfg.authEnabled = false then .next
    else if cfg.password = [] then
      if path = setupPath then
        verdict (safeEq ((getHeader req.headers (ascii "x-setup-token")).getD []) setupToken) 403
      else .refused 503
    else verdict (passwordMatches (extractKey req.headers) cfg.password) 401

/-! ## Other sites -/

def unsafeMethods : List Str := ["POST", "PUT", "PATCH", "DELETE"]

/-- `_TRUSTED_ORIGINS`, as the guard keeps them. -/
def allowedOrigins : List Str :=
  (["http://localhost:8911", "http://127.0.0.1:8911"] : List Str).map fun o => lowerLatin1 (o.rdropWhile (· == cp '/'))

/-- The header of that name, whatever its case; the last one counts. -/
def lastHeader (headers : List (Bytes × Bytes)) (name : Bytes) : Option Str :=
  ((headers.filter fun h => h.1.map (fun b => if 0x41 ≤ b.val && b.val ≤ 0x5a then Fin.ofNat 256 (b.val + 0x20) else b)
    == name).getLast?).map fun h => decodeLatin1 h.2

/-- What follows the first occurrence of a separator. -/
def afterFirst (sep : Str) : Str → Option Str
  | []     => none
  | c :: s => if Str.startsWith (c :: s) sep then some ((c :: s).drop sep.length) else afterFirst sep s

/-- `_hostname`. -/
def hostname (value : Str) : Str :=
  let value := lowerLatin1 (Str.stripSpace (Str.before (cp '/') ((afterFirst "://" value).getD value)))
  if Str.startsWith value "[" then Str.before (cp ']') (value.drop 1)
  else if value.count (cp ':') = 1 then Str.before (cp ':') value
  else value

/-- The hosts the request is addressed to. -/
def ownHosts (headers : List (Bytes × Bytes)) : List Str :=
  [ascii "host", ascii "x-forwarded-host"].filterMap fun name =>
    match lastHeader headers name with
    | some (c :: value) => some (hostname (Str.before (cp ',') (c :: value)))
    | _                 => none

/-- An origin as it is compared. -/
def canonicalOrigin (origin : Str) : Str := lowerLatin1 (origin.rdropWhile (· == cp '/'))

/-- `_cross_site`. -/
def crossSite (headers : List (Bytes × Bytes)) : Bool :=
  match lastHeader headers (ascii "origin") with
  | none        => lowerLatin1 ((lastHeader headers (ascii "sec-fetch-site")).getD []) == "cross-site"
  | some origin =>
    let origin := canonicalOrigin origin
    if origin ∈ allowedOrigins then false
    else if origin = "null" then true
    else !(ownHosts headers).contains (hostname origin)

/-- `_is_control_plane`. -/
def isControlPlane (path : Str) : Bool :=
  let path := normpath (if path = [] then "/" else path)
  path == "/api" || Str.startsWith path "/api/"

/-- `CrossSiteRequestGuard`. -/
def crossSiteRequestGuard (req : Request) : Verdict :=
  if req.method ∈ unsafeMethods ∧ isControlPlane req.path = true ∧ crossSite req.headers = true then .refused 403
  else .next

/-- The request gets to the router; the guard comes after the password. -/
def reachesRouter (cfg : SecurityConfig) (setupToken : Str) (req : Request) : Bool :=
  controlPlaneAuth cfg setupToken req == .next && crossSiteRequestGuard req == .next

end RideTheApi.Security
