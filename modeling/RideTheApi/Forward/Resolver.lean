import RideTheApi.Lib.Dict
import RideTheApi.Py.IpAddress

/-!
# `Forward.Resolver` — cloud host names resolved past the local DNS

`resolve_upstream` asks the configured servers for A and AAAA records and the system resolver when they say nothing,
drops the addresses that must never be contacted, and caches what is left. What the servers answer is an argument.
-/

namespace RideTheApi.Forward

open Py

/-- `is_blocked_ip`: what is no address, and what is not a public one, is never contacted. -/
def isBlockedIp (ip : Str) : Bool :=
  match IpAddress.parse (Str.before (cp '%') ip) with
  | none      => true
  | some addr =>
    addr.isLoopback || addr.isPrivate || addr.isLinkLocal || addr.isUnspecified || addr.isMulticast ||
      addr.isReserved || addr.isGlobal == false

/-- What a resolver does with one query. -/
inductive Answer where
  | addresses (ips : List Str)
  /-- A `DNSException`: logged, and the next source is asked. -/
  | dnsError
  /-- Any other exception, such as the timeout around the query. -/
  | raised
deriving DecidableEq, Repr

/-- What the sources say about one host name. -/
structure Sources where
  a : Answer
  aaaa : Answer
  system : Answer
deriving DecidableEq, Repr

/-- `_resolver_cache`. -/
abbrev ResolverCache := Dict Str (List Str)

/-- `_addr_family(address) == 6`. -/
def isV6 (address : Str) : Bool := address.contains (cp ':')

/-- The addresses with the IPv6 ones first. -/
def preferV6 (ips : List Str) : List Str := ips.filter isV6 ++ ips.filter fun ip => !isV6 ip

/-- The records of an answer: an exception other than a `DNSException` is passed on. -/
def Answer.records : Answer → Option (List Str)
  | .addresses ips => some ips
  | .dnsError      => some []
  | .raised        => none

/-- The addresses of the system resolver, each once; any failure leaves the list empty. -/
def systemAddresses : Answer → List Str
  | .addresses ips => ips.foldl (fun seen ip => if seen.contains ip then seen else seen ++ [ip]) []
  | _              => []

/-- `resolve_upstream` for a name that is not cached: the addresses, or `none` for an exception. -/
def lookUp (sources : Sources) (preferIpv6 : Bool) : Option (List Str) := do
  let v4 ← sources.a.records
  let v6 ← sources.aaaa.records
  let addresses := if preferIpv6 then v6 ++ v4 else v4 ++ v6
  let addresses := if addresses.isEmpty then systemAddresses sources.system else addresses
  pure (addresses.filter fun ip => !isBlockedIp ip)

/-- `resolve_upstream`: the addresses, or `none` for an exception, and the cache afterwards. -/
def resolveUpstream (cache : ResolverCache) (hostname : Str) (sources : Sources) (preferIpv6 skipCache : Bool) :
    Option (List Str) × ResolverCache :=
  match if skipCache then none else cache.get? hostname with
  | some cached => (some (if preferIpv6 then preferV6 cached else cached), cache)
  | none        =>
    match lookUp sources preferIpv6 with
    | none           => (none, cache)
    | some addresses => (some addresses, if addresses.isEmpty then cache else cache.set hostname addresses)

/-! ## What is resolved is safe -/

/-- Every cached address passes the guard. -/
def CacheSafe (cache : ResolverCache) : Prop := ∀ entry ∈ cache, ∀ ip ∈ entry.2, isBlockedIp ip = false

theorem lookUp_safe {sources : Sources} {preferIpv6 : Bool} {ips : List Str}
    (h : lookUp sources preferIpv6 = some ips) : ∀ ip ∈ ips, isBlockedIp ip = false := by
  simp only [lookUp, Option.bind_eq_bind, Option.bind_eq_some_iff, Option.pure_def, Option.some_inj] at h
  obtain ⟨v4, -, v6, -, rfl⟩ := h
  intro ip hip
  simpa using (List.mem_filter.mp hip).2

theorem mem_preferV6 {ips : List Str} {ip : Str} (h : ip ∈ preferV6 ips) : ip ∈ ips := by
  rcases List.mem_append.mp h with h | h
  · exact (List.mem_filter.mp h).1
  · exact (List.mem_filter.mp h).1

/-- **Whatever the sources answer, and whatever was cached safely, what is resolved is safe and so is the cache.** -/
theorem resolveUpstream_safe {cache : ResolverCache} (h : CacheSafe cache) (hostname : Str) (sources : Sources)
    (preferIpv6 skipCache : Bool) :
    (∀ ips, (resolveUpstream cache hostname sources preferIpv6 skipCache).1 = some ips →
      ∀ ip ∈ ips, isBlockedIp ip = false) ∧
    CacheSafe (resolveUpstream cache hostname sources preferIpv6 skipCache).2 := by
  unfold resolveUpstream
  cases hcached : (if skipCache then none else cache.get? hostname) with
  | some cached =>
    refine ⟨fun ips hips ip hip => ?_, h⟩
    have hentry : (hostname, cached) ∈ cache := by
      split at hcached
      · cases hcached
      · exact Dict.mem_of_get? hcached
    have hin : ip ∈ cached := by
      rw [← Option.some_inj.mp hips] at hip
      split at hip
      · exact mem_preferV6 hip
      · exact hip
    exact h _ hentry ip hin
  | none =>
    cases hlook : lookUp sources preferIpv6 with
    | none => exact ⟨fun _ hips => absurd hips (by simp), h⟩
    | some addresses =>
      have hsafe := lookUp_safe hlook
      refine ⟨fun ips hips => Option.some_inj.mp hips ▸ hsafe, ?_⟩
      dsimp only
      split
      · exact h
      · intro entry hentry
        rcases Dict.mem_set hentry with hold | rfl
        · exact h entry hold
        · exact hsafe

end RideTheApi.Forward
