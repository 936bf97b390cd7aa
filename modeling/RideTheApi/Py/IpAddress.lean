import RideTheApi.Py.Codec
import RideTheApi.Py.JsonText

/-!
# `Py.IpAddress` — `ipaddress.ip_address` and the predicates on addresses

Literals are read as the standard library reads them: four decimal octets without leading zeros, or groups of
hexadecimal digits with at most one `::` and possibly an IPv4 tail. The networks behind `is_private` and `is_reserved`
are the tables of Python 3.12.
-/

namespace Py

/-- `IPv4Address` or `IPv6Address`, by its value. -/
inductive IpAddress where
  | v4 (n : Nat)
  | v6 (n : Nat)
deriving DecidableEq, Repr

namespace IpAddress

/-! ## Literals -/

/-- `IPv4Address._parse_octet`. -/
def parseOctet (s : Str) : Option Nat :=
  if s.isEmpty || !s.all Interp.asciiDigit || 3 < s.length then none
  else if s ≠ ("0" : Str) ∧ s.head? = some (cp '0') then none
  else if 255 < natOf s then none
  else some (natOf s)

/-- The value of an IPv4 literal. -/
def parseV4 (s : Str) : Option Nat :=
  match Str.split (cp '.') s with
  | [a, b, c, d] => do
    let a ← parseOctet a
    let b ← parseOctet b
    let c ← parseOctet c
    let d ← parseOctet d
    pure (((a * 256 + b) * 256 + c) * 256 + d)
  | _            => none

/-- `IPv6Address._parse_hextet`. -/
def parseHextet (s : Str) : Option Nat :=
  if s.isEmpty || 4 < s.length then none
  else s.foldlM (fun n c => (hexValue c).map (16 * n + ·)) 0

/-- The groups of an IPv6 literal, with an IPv4 tail turned into two of them. -/
def groups (s : Str) : Option (List (Option Nat)) :=
  let parts := Str.split (cp ':') s
  -- an empty group is kept as `none`: it is the place of a `::`, or an error
  let hextet : Str → Option (Option Nat) := fun p => if p.isEmpty then some none else (parseHextet p).map some
  if parts.length < 3 then none
  else
    match parts.getLast? with
    | none      => none
    | some tail =>
      if tail.contains (cp '.') then
        match parseV4 tail, parts.dropLast.mapM hextet with
        | some n, some gs => some (gs ++ [some (n / 0x10000), some (n % 0x10000)])
        | _,      _       => none
      else parts.mapM hextet

/-- The value of eight groups. -/
def ofGroups (gs : List Nat) : Nat := gs.foldl (fun n g => 0x10000 * n + g) 0

/-- The value of an IPv6 literal. -/
def parseV6 (s : Str) : Option Nat :=
  (groups s).bind fun gs =>
    if 9 < gs.length then none
    else
      -- `::` leaves one empty group in the middle, and one more at an end it stands at
      match (List.range gs.length).filter fun i => 0 < i && i + 1 < gs.length && gs[i]? == some none with
      | []     => if gs.length = 8 then (gs.mapM id).map ofGroups else none
      | [skip] =>
        let high := gs.take skip
        let low := gs.drop (skip + 1)
        let high := if high = [none] then [] else high
        let low := if low = [none] then [] else low
        if 8 < high.length + low.length + 1 then none
        else do
          let high ← high.mapM id
          let low ← low.mapM id
          pure (ofGroups (high ++ List.replicate (8 - (high.length + low.length)) 0 ++ low))
      | _      => none

/-- `ipaddress.ip_address(s)`: `none` is a `ValueError`. -/
def parse (s : Str) : Option IpAddress :=
  if s.contains (cp '/') then none
  else (parseV4 s).map .v4 <|> (parseV6 s).map .v6

/-! ## Networks -/

/-- `n` is in the network of the first `len` of `width` bits of `base`. -/
def inNetwork (width n : Nat) (net : Nat × Nat) : Bool := n / 2 ^ (width - net.2) == net.1 / 2 ^ (width - net.2)

/-- An IPv4 network. -/
def net4 (a b c d len : Nat) : Nat × Nat := (((a * 256 + b) * 256 + c) * 256 + d, len)

/-- An IPv6 network, by its leading groups. -/
def net6 (gs : List Nat) (len : Nat) : Nat × Nat := (ofGroups (gs ++ List.replicate (8 - gs.length) 0), len)

/-- `_IPv4Constants._private_networks`. -/
def privateNetworks4 : List (Nat × Nat) :=
  [net4 0 0 0 0 8, net4 10 0 0 0 8, net4 127 0 0 0 8, net4 169 254 0 0 16, net4 172 16 0 0 12, net4 192 0 0 0 24,
    net4 192 0 0 170 31, net4 192 0 2 0 24, net4 192 168 0 0 16, net4 198 18 0 0 15, net4 198 51 100 0 24,
    net4 203 0 113 0 24, net4 240 0 0 0 4, net4 255 255 255 255 32]

/-- `_IPv4Constants._private_networks_exceptions`. -/
def privateExceptions4 : List (Nat × Nat) := [net4 192 0 0 9 32, net4 192 0 0 10 32]

/-- `_IPv6Constants._private_networks`. -/
def privateNetworks6 : List (Nat × Nat) :=
  [net6 [0, 0, 0, 0, 0, 0, 0, 1] 128, net6 [] 128, net6 [0, 0, 0, 0, 0, 0xffff] 96, net6 [0x64, 0xff9b, 1] 48,
    net6 [0x100] 64, net6 [0x2001] 23, net6 [0x2001, 0xdb8] 32, net6 [0x2002] 16, net6 [0x3fff] 20,
    net6 [0xfc00] 7, net6 [0xfe80] 10]

/-- `_IPv6Constants._private_networks_exceptions`. -/
def privateExceptions6 : List (Nat × Nat) :=
  [net6 [0x2001, 1, 0, 0, 0, 0, 0, 1] 128, net6 [0x2001, 1, 0, 0, 0, 0, 0, 2] 128, net6 [0x2001, 3] 32,
    net6 [0x2001, 4, 0x112] 48, net6 [0x2001, 0x20] 28, net6 [0x2001, 0x30] 28]

/-- `_IPv6Constants._reserved_networks`. -/
def reservedNetworks6 : List (Nat × Nat) :=
  [net6 [] 8, net6 [0x100] 8, net6 [0x200] 7, net6 [0x400] 6, net6 [0x800] 5, net6 [0x1000] 4, net6 [0x4000] 3,
    net6 [0x6000] 3, net6 [0x8000] 3, net6 [0xa000] 3, net6 [0xc000] 3, net6 [0xe000] 4, net6 [0xf000] 5,
    net6 [0xf800] 6, net6 [0xfe00] 9]

/-- The IPv4 address an IPv6 address maps. -/
def mapped (n : Nat) : Option Nat := if n / 2 ^ 32 = 0xffff then some (n % 2 ^ 32) else none

/-- `is_private` of an IPv4 address. -/
def isPrivate4 (n : Nat) : Bool := privateNetworks4.any (inNetwork 32 n) && !privateExceptions4.any (inNetwork 32 n)

/-- `is_loopback`. -/
def isLoopback : IpAddress → Bool
  | .v4 n => inNetwork 32 n (net4 127 0 0 0 8)
  | .v6 n => n == 1

/-- `is_private`. An IPv6 address that maps an IPv4 one is as private as that one. -/
def isPrivate : IpAddress → Bool
  | .v4 n => isPrivate4 n
  | .v6 n =>
    match mapped n with
    | some m => isPrivate4 m
    | none   => privateNetworks6.any (inNetwork 128 n) && !privateExceptions6.any (inNetwork 128 n)

/-- `is_link_local`. -/
def isLinkLocal : IpAddress → Bool
  | .v4 n => inNetwork 32 n (net4 169 254 0 0 16)
  | .v6 n => inNetwork 128 n (net6 [0xfe80] 10)

/-- `is_unspecified`. -/
def isUnspecified : IpAddress → Bool
  | .v4 n => n == 0
  | .v6 n => n == 0

/-- `is_multicast`. -/
def isMulticast : IpAddress → Bool
  | .v4 n => inNetwork 32 n (net4 224 0 0 0 4)
  | .v6 n => inNetwork 128 n (net6 [0xff00] 8)

/-- `is_reserved`. -/
def isReserved : IpAddress → Bool
  | .v4 n => inNetwork 32 n (net4 240 0 0 0 4)
  | .v6 n => reservedNetworks6.any (inNetwork 128 n)

/-- `is_global`. -/
def isGlobal : IpAddress → Bool
  | .v4 n => !inNetwork 32 n (net4 100 64 0 0 10) && !isPrivate4 n
  | .v6 n => !isPrivate (.v6 n)

end IpAddress
end Py
