import RideTheApi.Forward.Delivery

/-!
# `Forward.Contact` — the addresses contacted on a device's behalf

A plain request and a decrypted TLS request go through `resolve_upstream` and `forward_intercepted`, which both drop
blocked addresses; a connection that is relayed undecrypted goes to the first A record the configured servers return
for the name the device asked for, which nothing checks.
-/

namespace RideTheApi.Forward

open Py

/-- A record of a DNS reply. -/
inductive Record where
  | a (ip : Str)
  | other
deriving DecidableEq

/-- What the configured servers reply, in their order; `none` is a query that raised. -/
abbrev Replies := List (Option (List Record))

/-- The first A record. -/
def firstA (records : List Record) : Option Str :=
  records.findSome? fun
    | .a ip  => some ip
    | .other => none

/-- The resolver wired into the TLS listener (`resolve_upstream` of the server module): the first A record of the
    first server that returns one. -/
def resolveForRelay : Replies → Option Str
  | []                      => none
  | none :: replies         => resolveForRelay replies
  | some records :: replies => (firstA records).or (resolveForRelay replies)

/-- The address `_relay_to_upstream` opens a connection to. -/
def relayContact (replies : Replies) : Option Str := (resolveForRelay replies).filter fun ip => !ip.isEmpty

/-- What is done for devices, and what happens to the cache meanwhile. -/
inductive Op where
  /-- A request of the proxy route or of the TLS listener is forwarded to `hostname`, a name the device supplies. -/
  | forward (request : InterceptedRequest) (hostname : Str) (port : Nat) (sources : Sources) (links : List Link)
  /-- A connection is relayed without decrypting it. -/
  | relay (replies : Replies)
  /-- Another caller resolves a name. -/
  | resolve (hostname : Str) (sources : Sources) (preferIpv6 skipCache : Bool)
  /-- A cache entry expires or is evicted. -/
  | expire (hostname : Str)

/-- The resolver cache, and the addresses connected to so far. -/
structure Contacts where
  cache : ResolverCache
  contacted : List Str

section
variable {I : Interp} (F : FloatReader I) (lib : HttpClient)

/-- One operation. -/
def perform (s : Contacts) : Op → Contacts
  | .forward request hostname port sources links =>
    -- a forward without a host name ends before anything is resolved
    if hostname.isEmpty then s
    else
      let resolved := resolveUpstream s.cache hostname sources false false
      let exchange := forwardIntercepted F lib request hostname port resolved.1 links
      { cache := resolved.2, contacted := s.contacted ++ exchange.contacted }
  | .relay replies => { s with contacted := s.contacted ++ (relayContact replies).toList }
  | .resolve hostname sources preferIpv6 skipCache =>
    { s with cache := (resolveUpstream s.cache hostname sources preferIpv6 skipCache).2 }
  | .expire hostname => { s with cache := s.cache.erase hostname }

/-- A run, from an empty cache. -/
def performAll (ops : List Op) : Contacts := ops.foldl (perform F lib) { cache := [], contacted := [] }

end

/-- A relayed connection goes to an address that passes the guard: the first A record among the replies does, if there
    is one. -/
def RelaySafe : Op → Prop
  | .relay replies => ∀ ip, firstA (replies.flatMap fun r => r.getD []) = some ip → ip = [] ∨ isBlockedIp ip = false
  | _ => True

variable {I : Interp} {F : FloatReader I} {lib : HttpClient} {o : Outgoing}

theorem resolveForRelay_eq (replies : Replies) :
    resolveForRelay replies = firstA (replies.flatMap fun r => r.getD []) := by
  induction replies with
  | nil => rfl
  | cons reply replies ih =>
    cases reply with
    | none => exact ih
    | some records =>
      show (firstA records).or (resolveForRelay replies) = firstA (records ++ _)
      rw [ih]
      unfold firstA
      rw [List.findSome?_append]
      rfl

theorem relaySafe_iff (replies : Replies) :
    RelaySafe (.relay replies) ↔ ∀ ip ∈ relayContact replies, isBlockedIp ip = false := by
  rw [RelaySafe, ← resolveForRelay_eq]
  unfold relayContact
  constructor
  · intro h ip hip
    obtain ⟨hsome, hne⟩ := Option.filter_eq_some_iff.mp hip
    rcases h ip hsome with rfl | hsafe
    · simp at hne
    · exact hsafe
  · intro h ip hip
    cases ip with
    | nil => exact .inl rfl
    | cons c ip => exact .inr (h (c :: ip) (Option.filter_eq_some_iff.mpr ⟨hip, rfl⟩))

/-- Only addresses of the list are connected to. -/
theorem mem_contacted {ips : List Str} {links : List Link} {ip : Str}
    (h : ip ∈ (tryAddresses F lib o ips links).contacted) : ip ∈ ips := by
  induction ips generalizing links with
  | nil => exact absurd h List.not_mem_nil
  | cons first ips ih =>
    rw [tryAddresses] at h
    dsimp only at h
    split at h
    · exact List.mem_cons.mpr (.inl (List.mem_singleton.mp h))
    · split at h
      · rcases List.mem_cons.mp h with rfl | hrest
        · exact List.mem_cons_self
        · exact List.mem_cons_of_mem _ (ih hrest)
      · exact List.mem_cons.mpr (.inl (List.mem_singleton.mp h))

/-- **A forward connects to no blocked address**, whatever was resolved. -/
theorem forwardIntercepted_safe {request : InterceptedRequest} {hostname : Str} {port : Nat}
    {resolved : Option (List Str)} {links : List Link} {ip : Str}
    (h : ip ∈ (forwardIntercepted F lib request hostname port resolved links).contacted) : isBlockedIp ip = false := by
  unfold forwardIntercepted at h
  split at h
  · exact absurd h List.not_mem_nil
  · dsimp only at h
    split at h
    · exact absurd h List.not_mem_nil
    · split at h
      · exact absurd h List.not_mem_nil
      · simpa using (List.mem_filter.mp (mem_contacted h)).2

/-- What one operation adds is safe iff a relay it makes is. -/
theorem perform_safe_iff (s : Contacts) (op : Op) :
    (∀ ip ∈ (perform F lib s op).contacted, isBlockedIp ip = false) ↔
      (∀ ip ∈ s.contacted, isBlockedIp ip = false) ∧ RelaySafe op := by
  cases op with
  | forward request hostname port sources links =>
    rw [perform]
    split
    · simp [RelaySafe]
    · simp only [List.mem_append]
      constructor
      · exact fun h => ⟨fun ip hip => h ip (.inl hip), trivial⟩
      · rintro ⟨hold, -⟩ ip (hip | hip)
        · exact hold ip hip
        · exact forwardIntercepted_safe hip
  | relay replies =>
    rw [perform, relaySafe_iff]
    simp only [List.mem_append, Option.mem_toList]
    constructor
    · exact fun h => ⟨fun ip hip => h ip (.inl hip), fun ip hip => h ip (.inr hip)⟩
    · rintro ⟨hold, hrelay⟩ ip (hip | hip)
      · exact hold ip hip
      · exact hrelay ip hip
  | resolve hostname sources preferIpv6 skipCache => simp [perform, RelaySafe]
  | expire hostname => simp [perform, RelaySafe]

theorem foldl_perform_safe_iff (ops : List Op) (s : Contacts) :
    (∀ ip ∈ (ops.foldl (perform F lib) s).contacted, isBlockedIp ip = false) ↔
      (∀ ip ∈ s.contacted, isBlockedIp ip = false) ∧ ∀ op ∈ ops, RelaySafe op := by
  induction ops generalizing s with
  | nil => simp
  | cons op ops ih =>
    rw [List.foldl_cons, ih, perform_safe_iff, List.forall_mem_cons, and_assoc]

/-- The cache only ever holds safe addresses. -/
theorem foldl_perform_cacheSafe (ops : List Op) {s : Contacts} (h : CacheSafe s.cache) :
    CacheSafe (ops.foldl (perform F lib) s).cache := by
  induction ops generalizing s with
  | nil => exact h
  | cons op ops ih =>
    refine ih ?_
    cases op with
    | forward request hostname port sources links =>
      rw [perform]
      split
      · exact h
      · exact (resolveUpstream_safe h hostname sources false false).2
    | relay replies => exact h
    | resolve hostname sources preferIpv6 skipCache =>
      exact (resolveUpstream_safe h hostname sources preferIpv6 skipCache).2
    | expire hostname => exact fun entry hentry => h entry (List.mem_filter.mp hentry).1

/-- **In a run, no blocked address is contacted and none is cached, exactly when** no relayed connection is resolved to
    a blocked address. -/
theorem performAll_safe_iff (ops : List Op) :
    ((∀ ip ∈ (performAll F lib ops).contacted, isBlockedIp ip = false) ∧
        CacheSafe (performAll F lib ops).cache) ↔ ∀ op ∈ ops, RelaySafe op := by
  unfold performAll
  rw [foldl_perform_safe_iff]
  constructor
  · exact fun h => h.1.2
  · intro h
    refine ⟨⟨fun _ hip => absurd hip List.not_mem_nil, h⟩, ?_⟩
    exact foldl_perform_cacheSafe ops fun _ hentry => absurd hentry List.not_mem_nil

/-- **A relayed connection reaches the local machine** when the name it asks for resolves to it. -/
theorem relay_contacts_loopback :
    str "127.0.0.1" ∈ (performAll bitsReader anyClient [.relay [some [.a "127.0.0.1"]]]).contacted ∧
      isBlockedIp "127.0.0.1" = true := by
  decide +kernel

end RideTheApi.Forward
