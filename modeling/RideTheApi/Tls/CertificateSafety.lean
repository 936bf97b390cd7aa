import RideTheApi.Tls.Certificates

/-!
# `Tls.CertificateSafety` — whether the certificates served stay the right ones

A hostname is served right if it gets the pair last imported for it and not deleted since, or else a leaf of
its own that the current CA signed and that has not expired, with its key. What is stored is served without
asking for any of that. So every run keeps that what is stored without an import is a leaf under the CA
(`Owned`), and that an imported pair is in its directory and in memory (`Held`), as long as no step is one of
those that break it (`Meets`).
-/

namespace RideTheApi.Certificates

open Py Faulty Transition

/-! ## Runs -/

/-- The manager, and the pairs last imported with success and not since deleted. -/
structure World where
  manager : Manager := {}
  imported : Str → Option Pair := fun _ => none

inductive Event where
  | ensures (fault : Option Fault)
  | gets (hostname : Str) (fault : Option Fault)
  | imports (hostname : Str) (pair : Pair) (fault : Option Fault)
  | deletes (hostname : Str)
  | restarts
  | harmsCa (key cert : Harm)
  | passes (seconds : Nat)

/-- The hostname an event is about. -/
def Event.hostname? : Event → Option Str
  | .gets hostname _      => some hostname
  | .imports hostname _ _ => some hostname
  | .deletes hostname     => some hostname
  | _                     => none

section
variable (H : Host)

/-- One event. A call that raises imports and deletes nothing. -/
def step (w : World) : Event → Option World
  | .ensures fault               => some { w with manager := (ensureCa fault w.manager).2 }
  | .gets hostname fault         => some { w with manager := (getCertForHostname H fault hostname w.manager).2 }
  | .imports hostname pair fault =>
    match importCert H fault hostname pair w.manager with
    | (some _, manager) => some { manager, imported := Function.update w.imported hostname (some pair) }
    | (none, manager)   => some { w with manager }
  | .deletes hostname            =>
    match deleteCert H hostname w.manager with
    | (some _, manager) => some { manager, imported := Function.update w.imported hostname none }
    | (none, manager)   => some { w with manager }
  | .restarts                    => some { w with manager := w.manager.restart }
  | .harmsCa key cert            => some { w with manager := w.manager.harmCa key cert }
  | .passes seconds              =>
    some { w with manager := { w.manager with now := w.manager.now + seconds } }

/-! ## Serving right -/

/-- A leaf of the hostname that the current CA signed and that has not expired. -/
def SignedLeaf (s : Manager) (hostname : Str) : CertPem → Prop
  | .leaf host ca _ expires => host = hostname ∧ s.foundCa.map (·.cert) = some ca ∧ s.now ≤ expires
  | .text _                 => False

/-- What is kept of imported pairs and leaves is the same, now and after a restart. -/
def SameKept (s s' : Manager) : Prop :=
  ∀ hostname, s'.kept H hostname = s.kept H hostname ∧ s'.restart.kept H hostname = s.restart.kept H hostname

/-- A call does what it should: what is returned is the imported pair, or without one a signed leaf, and
    belongs together; an import that fails changes nothing that is kept; and only an imported pair is deleted. -/
def Right (w : World) : Event → Prop
  | .gets hostname fault         => ∀ pair s', getCertForHostname H fault hostname w.manager = (some pair, s') →
      (w.imported hostname = some pair ∨ w.imported hostname = none ∧ SignedLeaf s' hostname pair.1) ∧
        certMatchesKey H pair = some true
  | .imports hostname pair fault => ∀ s', importCert H fault hostname pair w.manager = (none, s') →
      SameKept H w.manager s'
  | .deletes hostname            => ∀ s', deleteCert H hostname w.manager = (some true, s') →
      w.imported hostname ≠ none
  | _                            => True

/-! ## The condition -/

/-- What a failed write leaves of a file. -/
def Left.of {α : Type} (left : Left) (old : Option α) (new : α) (text : Str → α) : Option α :=
  match left with
  | .asBefore => old
  | .torn s   => some (text s)
  | .whole    => some new

/-- The files an import leaves when one of its writes fails. -/
def leftFiles (pair : Pair) (f : Fault) (files : PairFiles) : Option PairFiles :=
  match f.target with
  | .cert     => some { files with cert := f.left.of files.cert pair.1 .text }
  | .key      => some { cert := some pair.1, key := f.left.of files.key pair.2 .text }
  | .metadata => some { cert := some pair.1, key := some pair.2 }
  | _         => none

/-- A pair that is stored without an import: a generated one, or one that memory holds of a hostname for which
    nothing was imported. -/
def World.stores (w : World) (hostname : Str) (pair : Pair) : Prop :=
  (w.manager.deviceCerts (H.certKey hostname)).pair? = some pair ∨
    w.manager.cache hostname = some pair ∧ w.imported hostname = none

/-- No pair of the hostnames is stored without an import. -/
def World.bare (hosts : List Str) (w : World) : Prop := ∀ hostname ∈ hosts, ∀ pair, ¬ w.stores H hostname pair

/-- The next key a leaf gets: a CA that has to be generated takes one first. -/
def Manager.leafKey (s : Manager) : Nat := if s.foundCa.isSome then s.nextKey else s.nextKey + 1

/-- The steps before which what is stored stays right. A leaf is not asked for after it expired, and its key is
    not left torn; an import that fails leaves its directory without a pair, or with the pair it had; a directory
    that is deleted has a pair; and the CA is not lost, or replaced by another one, while leaves of it are
    stored, nor read back from two files of different keys. -/
def Meets (hosts : List Str) (w : World) : Event → Prop
  | .gets hostname fault         => validHostname hostname = true → w.imported hostname = none →
      (∀ host ca key expires k, w.manager.kept H hostname = some (.leaf host ca key expires, k) →
        w.manager.now ≤ expires) ∧
      ∀ text, fault = some ⟨.key, .torn text⟩ → H.keyText text = .ok w.manager.leafKey
  | .imports hostname pair fault => validHostname hostname = true → certMatchesKey H pair = some true →
      ∀ f ∈ fault, ∀ files ∈ leftFiles pair f ((w.manager.externalCerts (H.certKey hostname)).getD {}),
        files.pair? = w.manager.external? (H.certKey hostname)
  | .deletes hostname            => validHostname hostname = true →
      ∀ files ∈ w.manager.externalCerts (H.certKey hostname), files.pair?.isSome = true
  | .restarts                    => w.manager.restart.foundCa = w.manager.foundCa ∨
      (∀ hostname ∈ hosts, (w.manager.deviceCerts (H.certKey hostname)).pair? = none) ∧
        ∀ ca ∈ w.manager.restart.foundCa, ca.cert = ca.key
  | .harmsCa key cert            => (w.manager.harmCa key cert).foundCa = w.manager.foundCa ∨ w.bare H hosts
  | _                            => True

end

/-! ## Writes -/

section
variable {H : Host} {fault : Option Fault} {target : Target} {whole : Manager → Manager}
  {torn : Str → Manager → Manager} {s s' : Manager} {hostname other : Str} {pair : Pair} {ca : Ca}

theorem write_passes (h : ∀ f ∈ fault, f.target ≠ target) :
    write fault target whole torn s = (some (), whole s) := by
  have hnone : fault.filter (fun f => f.target = target) = none := by
    cases fault with
    | none => rfl
    | some f => simp [h f rfl]
  unfold write
  rw [hnone]
  rfl

theorem write_fails {f : Fault} (hf : f ∈ fault) (htarget : f.target = target) :
    write fault target whole torn s = (none, f.left.change whole torn s) := by
  have hsome : fault.filter (fun f => f.target = target) = some f := by
    cases fault with
    | none => cases hf
    | some f' =>
      cases hf
      simp [htarget]
  unfold write
  rw [hsome]
  rfl

/-- A write passes and the call goes on, or it fails and the call ends there. -/
theorem post_write_bind {α : Type} {f : Unit → Faulty Manager α} {Q : Option α → Manager → Prop}
    (hpasses : (∀ f ∈ fault, f.target ≠ target) → Post (f ()) (whole s) Q)
    (hfails : ∀ f ∈ fault, f.target = target → Q none (f.left.change whole torn s)) :
    Post (write fault target whole torn >>= f) s Q := by
  by_cases h : ∃ f ∈ fault, f.target = target
  · obtain ⟨f', hf, htarget⟩ := h
    unfold Post
    rw [bind_raised (write_fails hf htarget)]
    exact hfails f' hf htarget
  · have hpass : ∀ f ∈ fault, f.target ≠ target := fun f hf htarget => h ⟨f, hf, htarget⟩
    unfold Post
    rw [bind_returned (write_passes hpass)]
    exact hpasses hpass

/-- What holds of a state and of its changes holds of what a failed write leaves. -/
theorem Left.change_induct {P : Manager → Prop} (left : Left) (hs : P s) (hwhole : P (whole s))
    (htorn : ∀ text, P (torn text s)) : P (left.change whole torn s) := by
  cases left with
  | asBefore => exact hs
  | torn text => exact htorn text
  | whole => exact hwhole

/-! ## The CA -/

/-- Two states with the same stores of pairs, at the same time. -/
structure SameStores (s s' : Manager) : Prop where
  now : s'.now = s.now
  deviceCerts : s'.deviceCerts = s.deviceCerts
  externalCerts : s'.externalCerts = s.externalCerts
  cache : s'.cache = s.cache

theorem SameStores.trans {s'' : Manager} (h : SameStores s s') (h' : SameStores s' s'') : SameStores s s'' where
  now := h'.now.trans h.now
  deviceCerts := h'.deviceCerts.trans h.deviceCerts
  externalCerts := h'.externalCerts.trans h.externalCerts
  cache := h'.cache.trans h.cache

/-- The CA that signs is the one that was found; one that is generated is whole. -/
def SignsWith (s : Manager) (ca : Ca) : Prop := s.foundCa = some ca ∨ s.foundCa = none ∧ ca.cert = ca.key

theorem foundCa_of_ca (h : s.ca = some ca) : s.foundCa = some ca := by
  unfold Manager.foundCa
  rw [h]

/-- A state that has this CA in memory: the one that was found, or one that is generated. -/
def HasCa (s s' : Manager) (ca : Ca) : Prop := s'.ca = some ca ∧ SignsWith s ca

/-- A state whose CA in memory is new, with the same pairs. -/
structure Generated (s s' : Manager) : Prop extends SameStores s s' where
  ca : s'.ca = some ⟨s.nextKey, s.nextKey⟩
  nextKey : s'.nextKey = s.nextKey + 1

/-- **A CA that is generated is in memory whether or not its files are written**, and touches no pair. -/
theorem generateCa_spec (fault : Option Fault) (s : Manager) :
    Post (generateCa fault) s fun r s' => Generated s s' ∧ ∀ ca ∈ r, ca = ⟨s.nextKey, s.nextKey⟩ := by
  have hsame : ∀ caKeyFile caCertFile, Generated s
      { s with nextKey := s.nextKey + 1, ca := some ⟨s.nextKey, s.nextKey⟩, caKeyFile, caCertFile } :=
    fun _ _ => ⟨⟨rfl, rfl, rfl, rfl⟩, rfl, rfl⟩
  unfold generateCa
  apply Post.get_bind
  apply Post.modify_bind
  apply post_write_bind
  · intro _
    apply post_write_bind
    · intro _
      apply post_pure
      refine ⟨hsame _ _, ?_⟩
      rintro _ ⟨⟩
      rfl
    · intro f _ _
      refine ⟨?_, nofun⟩
      apply Left.change_induct
      · exact hsame _ _
      · exact hsame _ _
      · exact fun _ => hsame _ _
  · intro f _ _
    refine ⟨?_, nofun⟩
    apply Left.change_induct
    · exact hsame _ _
    · exact hsame _ _
    · exact fun _ => hsame _ _

/-- What `ensure_ca` leaves: the pairs as they were, and in memory the CA it returns. -/
theorem ensureCa_spec (fault : Option Fault) (s : Manager) :
    Post (ensureCa fault) s fun r s' => SameStores s s' ∧ s'.nextKey = s.leafKey ∧
      ∃ ca, HasCa s s' ca ∧ ∀ c ∈ r, c = ca := by
  unfold ensureCa
  apply Post.get_bind
  unfold Manager.leafKey
  cases hfound : s.foundCa with
  | some ca =>
    apply Post.modify_bind
    apply post_pure
    refine ⟨⟨rfl, rfl, rfl, rfl⟩, rfl, ca, ⟨rfl, .inl hfound⟩, ?_⟩
    rintro _ ⟨⟩
    rfl
  | none =>
    refine (generateCa_spec fault s).mono fun r s' h => ?_
    exact ⟨h.1.toSameStores, h.1.nextKey, _, ⟨h.1.ca, .inr ⟨hfound, rfl⟩⟩, h.2⟩

/-! ## Leaves -/

/-- A leaf as it is signed in a state: by the CA in memory, at the current time, with its own key. -/
def IssuedLeaf (H : Host) (s : Manager) (hostname : Str) (ca : Ca) (pair : Pair) : Prop :=
  pair = (.leaf hostname ca.key s.leafKey (s.now + H.validity), .generated s.leafKey)

theorem generateLeafCert_spec (fault : Option Fault) (hostname : Str) (s : Manager) :
    Post (generateLeafCert H fault hostname) s fun r s' => SameStores s s' ∧
      ∃ ca, HasCa s s' ca ∧ ∀ pair ∈ r, IssuedLeaf H s hostname ca pair := by
  unfold generateLeafCert
  refine (ensureCa_spec fault s).bind (fun s' h => ?_) fun ca s₁ h => ?_
  · obtain ⟨hsame, _, ca, hca, _⟩ := h
    exact ⟨hsame, ca, hca, nofun⟩
  obtain ⟨hsame, hnext, _, hca, heq⟩ := h
  obtain rfl := heq ca rfl
  apply Post.get_bind
  apply Post.modify_bind
  have hsame' : SameStores s { s₁ with nextKey := s₁.nextKey + 1 } := hsame.trans ⟨rfl, rfl, rfl, rfl⟩
  apply Post.raiseIf_bind
  · exact fun _ => ⟨hsame', ca, hca, nofun⟩
  · intro _
    apply post_pure
    refine ⟨hsame', ca, hca, ?_⟩
    rintro _ ⟨⟩
    unfold IssuedLeaf
    rw [hnext, hsame.now]

/-! ## Serving a hostname -/

theorem cache_remember_self : (s.remember hostname pair).cache hostname = some pair := Function.update_self ..

theorem cache_remember_of_ne (h : other ≠ hostname) : (s.remember hostname pair).cache other = s.cache other :=
  Function.update_of_ne h ..

theorem external?_remember (slot : Str) : (s.remember hostname pair).external? slot = s.external? slot := rfl

theorem deviceCerts_remember : (s.remember hostname pair).deviceCerts = s.deviceCerts := rfl

/-- A hostname that is refused. -/
theorem get_refused (h : validHostname hostname = false) : getCertForHostname H fault hostname s = (none, s) := by
  unfold getCertForHostname
  rw [h]
  exact bind_raised rfl

/-- What is kept is served, and served from memory from then on. -/
theorem get_kept (hvalid : validHostname hostname = true) (hkept : s.kept H hostname = some pair) :
    getCertForHostname H fault hostname s = (some pair, s.remember hostname pair) := by
  unfold getCertForHostname
  rw [hvalid, Bool.not_true, raiseIf_false_bind, get_bind, hkept]
  rfl

/-- A state with the same imported pairs, and the same pairs for every other hostname. -/
structure SameBut (H : Host) (hostname : Str) (s s' : Manager) : Prop where
  now : s'.now = s.now
  externalCerts : s'.externalCerts = s.externalCerts
  cache : ∀ other ≠ hostname, s'.cache other = s.cache other
  deviceCerts : ∀ slot ≠ H.certKey hostname, s'.deviceCerts slot = s.deviceCerts slot

theorem SameBut.setDevice (h : SameBut H hostname s s') (files : PairFiles → PairFiles) :
    SameBut H hostname s (s'.setDevice (H.certKey hostname) files) where
  now := h.now
  externalCerts := h.externalCerts
  cache := h.cache
  deviceCerts slot hne := (Function.update_of_ne hne ..).trans (h.deviceCerts slot hne)

theorem SameBut.remember (h : SameBut H hostname s s') (pair : Pair) :
    SameBut H hostname s (s'.remember hostname pair) where
  now := h.now
  externalCerts := h.externalCerts
  cache other hne := (cache_remember_of_ne hne).trans (h.cache other hne)
  deviceCerts := h.deviceCerts

theorem SameStores.but (h : SameStores s s') : SameBut H hostname s s' where
  now := h.now
  externalCerts := h.externalCerts
  cache other _ := congrFun h.cache other
  deviceCerts slot _ := congrFun h.deviceCerts slot

/-- How a hostname without a pair is served: the call raises with its files as they were, or with another
    certificate, or with the leaf and what is left of its key; or the leaf is stored. -/
inductive Issue (H : Host) (fault : Option Fault) (hostname : Str) (s s' : Manager) (ca : Ca) :
    Option Pair → Prop where
  | raised : s'.cache hostname = s.cache hostname →
      s'.deviceCerts (H.certKey hostname) = s.deviceCerts (H.certKey hostname) → Issue H fault hostname s s' ca none
  | certOnly (cert : CertPem) : s'.cache hostname = s.cache hostname →
      s'.deviceCerts (H.certKey hostname) = { s.deviceCerts (H.certKey hostname) with cert := some cert } →
      Issue H fault hostname s s' ca none
  | keyLeft {f : Fault} {pair : Pair} : f ∈ fault → f.target = .key → IssuedLeaf H s hostname ca pair →
      s'.cache hostname = s.cache hostname →
      s'.deviceCerts (H.certKey hostname) =
        ⟨some pair.1, f.left.of (s.deviceCerts (H.certKey hostname)).key pair.2 .text⟩ →
      Issue H fault hostname s s' ca none
  | issued {pair : Pair} : IssuedLeaf H s hostname ca pair → s'.cache hostname = some pair →
      s'.deviceCerts (H.certKey hostname) = ⟨some pair.1, some pair.2⟩ →
      Issue H fault hostname s s' ca (some pair)

theorem deviceCerts_setDevice (s : Manager) (slot : Str) (files : PairFiles → PairFiles) :
    (s.setDevice slot files).deviceCerts slot = files (s.deviceCerts slot) := Function.update_self ..

/-- What a failed write leaves of the two files of a pair. -/
def Left.files (left : Left) (whole : PairFiles → PairFiles) (torn : Str → PairFiles → PairFiles) :
    PairFiles → PairFiles :=
  match left with
  | .asBefore  => id
  | .torn text => torn text
  | .whole     => whole

theorem change_setDevice (left : Left) (whole : PairFiles → PairFiles) (torn : Str → PairFiles → PairFiles)
    (slot : Str) (s : Manager) :
    left.change (·.setDevice slot whole) (fun text m => m.setDevice slot (torn text)) s =
      s.setDevice slot (left.files whole torn) := by
  cases left with
  | asBefore =>
    show s = { s with deviceCerts := Function.update s.deviceCerts slot (s.deviceCerts slot) }
    rw [Function.update_eq_self]
  | torn text | whole => rfl

/-- **A hostname without a pair gets a leaf**, or the call raises. -/
theorem get_fresh (fault : Option Fault) (hvalid : validHostname hostname = true)
    (hkept : s.kept H hostname = none) :
    Post (getCertForHostname H fault hostname) s fun r s' => SameBut H hostname s s' ∧
      ∃ ca, HasCa s s' ca ∧ Issue H fault hostname s s' ca r := by
  unfold getCertForHostname
  rw [hvalid]
  apply Post.raiseIf_bind
  · exact nofun
  intro _
  apply Post.get_bind
  rw [hkept]
  refine (generateLeafCert_spec fault hostname s).bind (fun s' h => ?_) fun pair s₁ h => ?_
  · obtain ⟨hsame, ca, hca, _⟩ := h
    exact ⟨hsame.but, ca, hca, .raised (congrFun hsame.cache _) (congrFun hsame.deviceCerts _)⟩
  obtain ⟨hsame, ca, hca, hissued⟩ := h
  have hissued := hissued pair rfl
  have hcache : s₁.cache hostname = s.cache hostname := congrFun hsame.cache _
  have hfiles : s₁.deviceCerts (H.certKey hostname) = s.deviceCerts (H.certKey hostname) :=
    congrFun hsame.deviceCerts _
  have hbut : SameBut H hostname s s₁ := hsame.but
  apply post_write_bind
  · intro _
    apply post_write_bind
    · intro _
      apply Post.modify_bind
      apply post_pure
      refine ⟨((hbut.setDevice _).setDevice _).remember pair, ca, hca, .issued hissued cache_remember_self ?_⟩
      rw [deviceCerts_remember, deviceCerts_setDevice, deviceCerts_setDevice]
    · intro f hf htarget
      rw [change_setDevice]
      refine ⟨(hbut.setDevice _).setDevice _, ca, hca, .keyLeft hf htarget hissued hcache ?_⟩
      rw [deviceCerts_setDevice, deviceCerts_setDevice, hfiles]
      cases f.left <;> rfl
  · intro f _ _
    rw [change_setDevice]
    cases f.left with
    | asBefore => exact ⟨hbut.setDevice _, ca, hca, .raised hcache ((deviceCerts_setDevice ..).trans hfiles)⟩
    | torn text =>
      refine ⟨hbut.setDevice _, ca, hca, .certOnly (.text text) hcache ?_⟩
      rw [deviceCerts_setDevice, hfiles]
      rfl
    | whole =>
      refine ⟨hbut.setDevice _, ca, hca, .certOnly pair.1 hcache ?_⟩
      rw [deviceCerts_setDevice, hfiles]
      rfl

/-! ## Imports and deletions -/

variable {slot : Str} {files g : PairFiles → PairFiles}

theorem setExternal_setExternal (s : Manager) (slot : Str) (g files : PairFiles → PairFiles) :
    (s.setExternal slot g).setExternal slot files = s.setExternal slot (files ∘ g) := by
  unfold Manager.setExternal
  simp

/-- Only the files there are matter. -/
theorem setExternal_congr (h : files ((s.externalCerts slot).getD {}) = g ((s.externalCerts slot).getD {})) :
    s.setExternal slot files = s.setExternal slot g := by
  unfold Manager.setExternal
  rw [h]

theorem external?_setExternal_self : (s.setExternal slot files).external? slot =
    (files ((s.externalCerts slot).getD {})).pair? := by
  unfold Manager.external? Manager.setExternal
  simp

theorem external?_setExternal_of_ne (h : other ≠ slot) :
    (s.setExternal slot files).external? other = s.external? other := by
  unfold Manager.external? Manager.setExternal
  simp [h]

/-- Making the directory of a hostname changes no pair. -/
theorem external?_mkdir (s : Manager) (slot : Str) : (s.setExternal slot id).external? slot = s.external? slot := by
  rw [external?_setExternal_self]
  unfold Manager.external?
  cases s.externalCerts slot <;> rfl

/-- What is kept only changes with the imported pairs. -/
theorem sameKept_setExternal (h : (files ((s.externalCerts slot).getD {})).pair? = s.external? slot) :
    SameKept H s (s.setExternal slot files) := by
  have hexternal : ∀ other, (s.setExternal slot files).external? other = s.external? other := by
    intro other
    by_cases hne : other = slot
    · rw [hne, external?_setExternal_self, h]
    · exact external?_setExternal_of_ne hne
  intro hostname
  constructor
  · show (s.cache hostname).or (((s.setExternal slot files).external? _).or _) = _
    rw [hexternal]
    rfl
  · show (none : Option Pair).or (((s.setExternal slot files).external? _).or _) = _
    rw [hexternal]
    rfl

/-- How an import ends: refused; refused once the directory is there; torn by a write; or done. -/
inductive Import (H : Host) (fault : Option Fault) (hostname : Str) (pair : Pair) (s : Manager) :
    Option Unit → Manager → Prop where
  | refused : Import H fault hostname pair s none s
  | mismatched {s' : Manager} : s' = s.setExternal (H.certKey hostname) id → Import H fault hostname pair s none s'
  | torn {s' : Manager} {f : Fault} {left : PairFiles} : validHostname hostname = true →
      certMatchesKey H pair = some true → f ∈ fault →
      leftFiles pair f ((s.externalCerts (H.certKey hostname)).getD {}) = some left →
      s' = s.setExternal (H.certKey hostname) (fun _ => left) → Import H fault hostname pair s none s'
  | done {s' : Manager} : certMatchesKey H pair = some true →
      s' = (s.setExternal (H.certKey hostname) fun _ => ⟨some pair.1, some pair.2⟩).remember hostname pair →
      Import H fault hostname pair s (some ()) s'

theorem importCert_spec (H : Host) (fault : Option Fault) (hostname : Str) (pair : Pair) (s : Manager) :
    Post (importCert H fault hostname pair) s (Import H fault hostname pair s) := by
  unfold importCert
  apply Post.raiseIf_bind
  · exact fun _ => .refused
  intro hvalid
  have hvalid : validHostname hostname = true := by simpa using hvalid
  apply Post.modify_bind
  apply Post.raiseIf_bind
  · exact fun _ => .mismatched rfl
  intro hmatch
  have hmatch : certMatchesKey H pair = some true := by simpa using hmatch
  -- each write that fails leaves the files that `leftFiles` says
  have htorn : ∀ f ∈ fault, ∀ left,
      leftFiles pair f ((s.externalCerts (H.certKey hostname)).getD {}) = some left →
      ∀ s', s' = s.setExternal (H.certKey hostname) (fun _ => left) → Import H fault hostname pair s none s' :=
    fun f hf left hleft s' hs' => .torn hvalid hmatch hf hleft hs'
  apply post_write_bind
  · intro _
    rw [setExternal_setExternal]
    apply post_write_bind
    · intro _
      rw [setExternal_setExternal]
      apply post_write_bind
      · intro _
        exact .done hmatch rfl
      · intro f hf htarget
        refine htorn f hf ⟨some pair.1, some pair.2⟩ (by unfold leftFiles; rw [htarget]) _ ?_
        cases f.left <;> rfl
    · intro f hf htarget
      refine htorn f hf ⟨some pair.1, f.left.of ((s.externalCerts (H.certKey hostname)).getD {}).key pair.2 .text⟩
        (by unfold leftFiles; rw [htarget]) _ ?_
      cases f.left with
      | asBefore => exact setExternal_congr rfl
      | torn text | whole =>
        simp only [Left.change, setExternal_setExternal]
        exact setExternal_congr rfl
  · intro f hf htarget
    refine htorn f hf
      { (s.externalCerts (H.certKey hostname)).getD {} with
        cert := f.left.of ((s.externalCerts (H.certKey hostname)).getD {}).cert pair.1 .text }
      (by unfold leftFiles; rw [htarget]) _ ?_
    cases f.left with
    | asBefore => exact setExternal_congr rfl
    | torn text | whole =>
      simp only [Left.change, setExternal_setExternal]
      exact setExternal_congr rfl

/-! ## What every run keeps -/

/-- The hostnames of a run have directories of their own. -/
def Apart (H : Host) (hosts : List Str) : Prop := ∀ a ∈ hosts, ∀ b ∈ hosts, H.certKey a = H.certKey b → a = b

/-- An imported pair is in its directory, belongs together, and is what is in memory, if anything is; where
    none was imported there is none. -/
structure Held (H : Host) (hosts : List Str) (w : World) : Prop where
  held : ∀ hostname ∈ hosts, ∀ pair, w.imported hostname = some pair →
    w.manager.external? (H.certKey hostname) = some pair ∧ (∀ p ∈ w.manager.cache hostname, p = pair) ∧
      certMatchesKey H pair = some true
  unheld : ∀ hostname ∈ hosts, w.imported hostname = none → w.manager.external? (H.certKey hostname) = none

variable {hosts : List Str} {w w' : World}

theorem held_empty : Held H hosts {} where
  held := nofun
  unheld _ _ _ := rfl

/-- An imported pair is what is kept. -/
theorem Held.kept (h : Held H hosts w) (hhost : hostname ∈ hosts) (himported : w.imported hostname = some pair) :
    w.manager.kept H hostname = some pair := by
  obtain ⟨hexternal, hcache, _⟩ := h.held hostname hhost pair himported
  unfold Manager.kept
  cases hc : w.manager.cache hostname with
  | some p => rw [Option.some_or, hcache p hc]
  | none => rw [hexternal, Option.none_or, Option.some_or]

/-- A step that touches no imported pair, and adds to memory for a hostname only what is kept for it. -/
theorem Held.keep (h : Held H hosts w) {manager : Manager}
    (hexternal : ∀ hostname ∈ hosts,
      manager.external? (H.certKey hostname) = w.manager.external? (H.certKey hostname))
    (hcache : ∀ hostname ∈ hosts, ∀ pair, w.imported hostname = some pair →
      ∀ p ∈ manager.cache hostname, p = pair) :
    Held H hosts { w with manager } where
  held hostname hhost pair himported := by
    refine ⟨?_, hcache hostname hhost pair himported, (h.held hostname hhost pair himported).2.2⟩
    rw [hexternal hostname hhost]
    exact (h.held hostname hhost pair himported).1
  unheld hostname hhost himported := by
    rw [hexternal hostname hhost]
    exact h.unheld hostname hhost himported

/-- A step that leaves the imported pairs and what is in memory. -/
theorem Held.keep_stores (h : Held H hosts w) {manager : Manager}
    (hexternal : manager.externalCerts = w.manager.externalCerts)
    (hcache : ∀ hostname, ∀ p ∈ manager.cache hostname, w.manager.cache hostname = some p) :
    Held H hosts { w with manager } := by
  refine h.keep (fun hostname _ => ?_) fun hostname hhost pair himported p hp => ?_
  · unfold Manager.external?
    rw [hexternal]
  · exact (h.held hostname hhost pair himported).2.1 p (hcache hostname p hp)

/-- A directory is touched without a change of its pair. -/
theorem Held.setExternal (h : Held H hosts w) (hapart : Apart H hosts) (hhost : hostname ∈ hosts)
    (hsame : (w.manager.setExternal (H.certKey hostname) files).external? (H.certKey hostname) =
      w.manager.external? (H.certKey hostname)) :
    Held H hosts { w with manager := w.manager.setExternal (H.certKey hostname) files } := by
  refine h.keep (fun other hother => ?_) fun other hother pair himported => (h.held other hother pair himported).2.1
  by_cases hne : other = hostname
  · rw [hne]
    exact hsame
  · exact external?_setExternal_of_ne fun heq => hne (hapart other hother hostname hhost heq)

/-- Serving a hostname what is kept for it, or a leaf where nothing was imported. -/
theorem Held.gets (h : Held H hosts w) (hhost : hostname ∈ hosts) (fault : Option Fault) :
    Held H hosts { w with manager := (getCertForHostname H fault hostname w.manager).2 } := by
  by_cases hvalid : validHostname hostname = true
  · cases hkept : w.manager.kept H hostname with
    | some p =>
      rw [get_kept hvalid hkept]
      refine h.keep (fun _ _ => rfl) fun other hother pair himported q hq => ?_
      by_cases hne : other = hostname
      · subst hne
        rw [cache_remember_self] at hq
        rw [h.kept hhost himported] at hkept
        cases hq
        exact (Option.some.inj hkept).symm
      · rw [cache_remember_of_ne hne] at hq
        exact (h.held other hother pair himported).2.1 q hq
    | none =>
      obtain ⟨hbut, _⟩ := get_fresh fault hvalid hkept
      refine h.keep (fun other _ => ?_) fun other hother pair himported q hq => ?_
      · unfold Manager.external?
        rw [hbut.externalCerts]
      · by_cases hne : other = hostname
        · subst hne
          rw [h.kept hhost himported] at hkept
          cases hkept
        · rw [hbut.cache other hne] at hq
          exact (h.held other hother pair himported).2.1 q hq
  · rw [get_refused (by simpa using hvalid)]
    exact h

/-- How a deletion ends: refused; without a directory; or with the directory gone. -/
theorem deleteCert_spec (H : Host) (hostname : Str) (s : Manager) :
    deleteCert H hostname s = (none, s) ∨
      deleteCert H hostname s = (some false, s) ∧ s.externalCerts (H.certKey hostname) = none ∨
      deleteCert H hostname s = (some true,
        { s with
          externalCerts := Function.update s.externalCerts (H.certKey hostname) none
          cache := Function.update s.cache hostname none }) ∧
        validHostname hostname = true ∧ (s.externalCerts (H.certKey hostname)).isSome = true := by
  unfold deleteCert
  cases hvalid : validHostname hostname with
  | false => exact .inl (bind_raised rfl)
  | true =>
    rw [Bool.not_true, raiseIf_false_bind, get_bind]
    cases s.externalCerts (H.certKey hostname) with
    | none => exact .inr (.inl ⟨rfl, rfl⟩)
    | some files => exact .inr (.inr ⟨rfl, rfl, rfl⟩)

/-- What an import leaves of the world. -/
theorem imported_cases (hstep : step H w (.imports hostname pair fault) = some w') :
    w' = w ∨ w' = { w with manager := w.manager.setExternal (H.certKey hostname) id } ∨
      (∃ f left, validHostname hostname = true ∧ certMatchesKey H pair = some true ∧ f ∈ fault ∧
        leftFiles pair f ((w.manager.externalCerts (H.certKey hostname)).getD {}) = some left ∧
        w' = { w with manager := w.manager.setExternal (H.certKey hostname) fun _ => left }) ∨
      certMatchesKey H pair = some true ∧
        w' = {
          manager := (w.manager.setExternal (H.certKey hostname) fun _ => ⟨some pair.1, some pair.2⟩).remember hostname pair
          imported := Function.update w.imported hostname (some pair) } := by
  have hspec := importCert_spec H fault hostname pair w.manager
  unfold step at hstep
  unfold Post at hspec
  dsimp only at hstep
  generalize importCert H fault hostname pair w.manager = r at hstep hspec
  obtain ⟨result, manager⟩ := r
  cases hspec with
  | refused => exact .inl (Option.some.inj hstep).symm
  | mismatched hs' =>
    dsimp only at hs'
    rw [hs'] at hstep
    exact .inr (.inl (Option.some.inj hstep).symm)
  | torn hvalid hmatch hf hleft hs' =>
    dsimp only at hs'
    rw [hs'] at hstep
    exact .inr (.inr (.inl ⟨_, _, hvalid, hmatch, hf, hleft, (Option.some.inj hstep).symm⟩))
  | done hmatch hs' =>
    dsimp only at hs'
    rw [hs'] at hstep
    exact .inr (.inr (.inr ⟨hmatch, (Option.some.inj hstep).symm⟩))

/-- What a deletion leaves of the world. -/
theorem deleted_cases (hstep : step H w (.deletes hostname) = some w') :
    w' = w ∨
      w.manager.externalCerts (H.certKey hostname) = none ∧
        w' = { w with imported := Function.update w.imported hostname none } ∨
      w' = {
        manager := { w.manager with
          externalCerts := Function.update w.manager.externalCerts (H.certKey hostname) none
          cache := Function.update w.manager.cache hostname none }
        imported := Function.update w.imported hostname none } := by
  unfold step at hstep
  dsimp only at hstep
  rcases deleteCert_spec H hostname w.manager with hrun | ⟨hrun, hnone⟩ | ⟨hrun, _, _⟩
  · rw [hrun] at hstep
    exact .inl (Option.some.inj hstep).symm
  · rw [hrun] at hstep
    exact .inr (.inl ⟨hnone, (Option.some.inj hstep).symm⟩)
  · rw [hrun] at hstep
    exact .inr (.inr (Option.some.inj hstep).symm)

/-- An import that is done, or that leaves the pair of its directory as it was. -/
theorem Held.imports (h : Held H hosts w) (hapart : Apart H hosts) (hhost : hostname ∈ hosts)
    (hok : Meets H hosts w (.imports hostname pair fault)) (hstep : step H w (.imports hostname pair fault) = some w') :
    Held H hosts w' := by
  rcases imported_cases hstep with rfl | rfl | ⟨f, left, hvalid, hmatch, hf, hleft, rfl⟩ | ⟨hmatch, rfl⟩
  · exact h
  · exact h.setExternal hapart hhost (external?_mkdir ..)
  · refine h.setExternal hapart hhost ?_
    rw [external?_setExternal_self]
    exact hok hvalid hmatch f hf left hleft
  · constructor
    · intro other hother p himported
      by_cases hne : other = hostname
      · subst hne
        have hp : pair = p := by simpa using himported
        subst hp
        refine ⟨?_, fun q hq => ?_, hmatch⟩
        · dsimp only
          rw [external?_remember, external?_setExternal_self]
          rfl
        · rw [cache_remember_self] at hq
          exact (Option.some.inj hq).symm
      · have hslot : H.certKey other ≠ H.certKey hostname := fun heq => hne (hapart other hother hostname hhost heq)
        have himported : w.imported other = some p := by simpa [hne] using himported
        obtain ⟨hexternal, hcache, hp⟩ := h.held other hother p himported
        refine ⟨?_, fun q hq => ?_, hp⟩
        · dsimp only
          rw [external?_remember, external?_setExternal_of_ne hslot]
          exact hexternal
        · rw [cache_remember_of_ne hne] at hq
          exact hcache q hq
    · intro other hother himported
      have hne : other ≠ hostname := by
        rintro rfl
        simp at himported
      have hslot : H.certKey other ≠ H.certKey hostname := fun heq => hne (hapart other hother hostname hhost heq)
      dsimp only
      rw [external?_remember, external?_setExternal_of_ne hslot]
      exact h.unheld other hother (by simpa [hne] using himported)

/-- Without a directory nothing was imported. -/
theorem Held.imported_of_externalCerts (h : Held H hosts w) (hhost : hostname ∈ hosts)
    (hnone : w.manager.externalCerts (H.certKey hostname) = none) : w.imported hostname = none := by
  cases himported : w.imported hostname with
  | none => rfl
  | some pair =>
    have hexternal := (h.held hostname hhost pair himported).1
    unfold Manager.external? at hexternal
    rw [hnone] at hexternal
    cases hexternal

/-- A deletion forgets the pair in memory and its directory together. -/
theorem Held.deletes (h : Held H hosts w) (hapart : Apart H hosts) (hhost : hostname ∈ hosts)
    (hstep : step H w (.deletes hostname) = some w') : Held H hosts w' := by
  rcases deleted_cases hstep with rfl | ⟨hnone, rfl⟩ | rfl
  · exact h
  · rw [← h.imported_of_externalCerts hhost hnone, Function.update_eq_self]
    exact h
  · have hself : ({ w.manager with externalCerts := Function.update w.manager.externalCerts (H.certKey hostname) none }
        : Manager).external? (H.certKey hostname) = none := by simp [Manager.external?]
    have hother : ∀ other ∈ hosts, other ≠ hostname →
        ({ w.manager with externalCerts := Function.update w.manager.externalCerts (H.certKey hostname) none }
          : Manager).external? (H.certKey other) = w.manager.external? (H.certKey other) := by
      intro other hmem hne
      have hslot : H.certKey other ≠ H.certKey hostname := fun heq => hne (hapart other hmem hostname hhost heq)
      simp [Manager.external?, hslot]
    constructor
    · intro other hmem pair himported
      have hne : other ≠ hostname := by
        rintro rfl
        simp at himported
      have himported : w.imported other = some pair := by simpa [hne] using himported
      obtain ⟨hexternal, hcache, hmatch⟩ := h.held other hmem pair himported
      refine ⟨(hother other hmem hne).trans hexternal, fun p hp => ?_, hmatch⟩
      exact hcache p (by simpa [hne] using hp)
    · intro other hmem himported
      by_cases hne : other = hostname
      · rw [hne]
        exact hself
      · exact (hother other hmem hne).trans (h.unheld other hmem (by simpa [hne] using himported))

/-- A leaf of the hostname under the CA of the state, with its key. -/
def OwnLeaf (H : Host) (s : Manager) (hostname : Str) (pair : Pair) : Prop :=
  certMatchesKey H pair = some true ∧
    ∃ ca key expires, pair.1 = .leaf hostname ca key expires ∧ s.foundCa.map (·.cert) = some ca

/-- What is stored without an import is a leaf of its hostname under the CA, with its key; a key is stored after
    its certificate; and the CA is one pair. -/
structure Owned (H : Host) (hosts : List Str) (w : World) : Prop where
  stored : ∀ hostname ∈ hosts, ∀ pair, w.stores H hostname pair → OwnLeaf H w.manager hostname pair
  keyLast : ∀ hostname ∈ hosts, (w.manager.deviceCerts (H.certKey hostname)).cert = none →
    (w.manager.deviceCerts (H.certKey hostname)).key = none
  caWhole : ∀ ca ∈ w.manager.foundCa, ca.cert = ca.key

theorem owned_empty : Owned H hosts {} where
  stored := by
    rintro _ _ _ (h | ⟨h, _⟩)
    · cases h
    · cases h
  keyLast _ _ _ := rfl
  caWhole := nofun

/-- The CA stays, or nothing is stored of it. -/
theorem OwnLeaf.of_foundCa (h : OwnLeaf H s hostname pair) (hca : s'.foundCa = s.foundCa) :
    OwnLeaf H s' hostname pair := by
  unfold OwnLeaf
  rw [hca]
  exact h

/-- A step that stores nothing new, under the same CA. -/
theorem Owned.keep (h : Owned H hosts w) (hca : w'.manager.foundCa = w.manager.foundCa)
    (hdevice : w'.manager.deviceCerts = w.manager.deviceCerts)
    (hstores : ∀ hostname ∈ hosts, ∀ pair, w'.stores H hostname pair → w.stores H hostname pair) :
    Owned H hosts w' where
  stored hostname hhost pair hpair := (h.stored hostname hhost pair (hstores hostname hhost pair hpair)).of_foundCa hca
  keyLast := by
    rw [hdevice]
    exact h.keyLast
  caWhole := by
    rw [hca]
    exact h.caWhole

/-- A step that leaves nothing stored. -/
theorem Owned.of_bare (h : Owned H hosts w) (hdevice : w'.manager.deviceCerts = w.manager.deviceCerts)
    (hbare : w'.bare H hosts) (hca : ∀ ca ∈ w'.manager.foundCa, ca.cert = ca.key) : Owned H hosts w' where
  stored hostname hhost pair hpair := absurd hpair (hbare hostname hhost pair)
  keyLast := by
    rw [hdevice]
    exact h.keyLast
  caWhole := hca

/-- Without a CA nothing is stored. -/
theorem Owned.bare (h : Owned H hosts w) (hca : w.manager.foundCa = none) : w.bare H hosts := by
  intro hostname hhost pair hpair
  obtain ⟨_, _, _, _, _, hfound⟩ := h.stored hostname hhost pair hpair
  rw [hca] at hfound
  cases hfound

/-- The CA that is in memory after a step is one pair. -/
theorem Owned.caWhole_of (h : Owned H hosts w) (hca : HasCa w.manager s' ca) :
    s'.foundCa = some ca ∧ ca.cert = ca.key := by
  refine ⟨foundCa_of_ca hca.1, ?_⟩
  rcases hca.2 with hfound | ⟨_, hown⟩
  · exact h.caWhole ca hfound
  · exact hown

/-- What was stored under the CA of a step is under the CA after it. -/
theorem Owned.still (h : Owned H hosts w) (hca : HasCa w.manager s' ca) (hhost : hostname ∈ hosts)
    (hpair : w.stores H hostname pair) : OwnLeaf H s' hostname pair := by
  rcases hca.2 with hfound | ⟨hnone, _⟩
  · exact (h.stored hostname hhost pair hpair).of_foundCa ((foundCa_of_ca hca.1).trans hfound.symm)
  · exact absurd hpair (h.bare hnone hostname hhost pair)

/-- What is kept for a hostname without an import is stored without one. -/
theorem Held.stores_of_kept (h : Held H hosts w) (hhost : hostname ∈ hosts) (himported : w.imported hostname = none)
    (hkept : w.manager.kept H hostname = some pair) : w.stores H hostname pair := by
  unfold Manager.kept at hkept
  rw [h.unheld hostname hhost himported, Option.none_or] at hkept
  cases hmemory : w.manager.cache hostname with
  | some q =>
    rw [hmemory, Option.some_or] at hkept
    exact .inr ⟨hmemory.trans hkept, himported⟩
  | none =>
    rw [hmemory, Option.none_or] at hkept
    exact .inl hkept

/-- Serving what is kept. -/
theorem Owned.remember (h : Owned H hosts w) (hheld : Held H hosts w) (hhost : hostname ∈ hosts)
    (hkept : w.manager.kept H hostname = some pair) :
    Owned H hosts { w with manager := w.manager.remember hostname pair } := by
  refine h.keep rfl rfl fun other hother p hp => ?_
  rcases hp with hdevice | ⟨hmemory, himported⟩
  · exact .inl hdevice
  dsimp only at hmemory
  by_cases hne : other = hostname
  · subst hne
    rw [cache_remember_self] at hmemory
    obtain rfl := Option.some.inj hmemory
    exact hheld.stores_of_kept hhost himported hkept
  · rw [cache_remember_of_ne hne] at hmemory
    exact .inr ⟨hmemory, himported⟩

/-- A leaf as it is signed is one of its hostname, with its key. -/
theorem IssuedLeaf.own (h : IssuedLeaf H s hostname ca pair) (hfound : s'.foundCa = some ca)
    (hown : ca.cert = ca.key) : OwnLeaf H s' hostname pair := by
  unfold IssuedLeaf at h
  subst h
  refine ⟨?_, ca.key, s.leafKey, s.now + H.validity, rfl, ?_⟩
  · show some (decide (s.leafKey = s.leafKey)) = some true
    rw [decide_eq_true rfl]
  · rw [hfound, Option.map_some, hown]

theorem pair?_of_key (files : PairFiles) (h : files.key = none) : files.pair? = none := by
  unfold PairFiles.pair?
  rw [h]
  split <;> simp_all

/-- The files of a hostname once a leaf was signed for it, however the call ended. -/
theorem Issue.own {r : Option Pair} (h : Issue H fault hostname s s' ca r) (hfound : s'.foundCa = some ca)
    (hown : ca.cert = ca.key) (hkey : (s.deviceCerts (H.certKey hostname)).key = none)
    (htorn : ∀ text, fault = some ⟨.key, .torn text⟩ → H.keyText text = .ok s.leafKey)
    (hpair : (s'.deviceCerts (H.certKey hostname)).pair? = some pair) : OwnLeaf H s' hostname pair := by
  cases h with
  | raised _ hfiles =>
    rw [hfiles, pair?_of_key _ hkey] at hpair
    cases hpair
  | certOnly cert _ hfiles =>
    rw [hfiles] at hpair
    rw [pair?_of_key _ (by exact hkey)] at hpair
    cases hpair
  | @keyLeft f leaf hf htarget hissued _ hfiles =>
    rw [hfiles] at hpair
    cases hleft : f.left with
    | asBefore =>
      rw [hleft] at hpair
      rw [pair?_of_key _ (by exact hkey)] at hpair
      cases hpair
    | whole =>
      rw [hleft] at hpair
      cases hpair
      exact hissued.own hfound hown
    | torn text =>
      rw [hleft] at hpair
      cases hpair
      have hfault : fault = some ⟨.key, .torn text⟩ := by
        rw [← htarget, ← hleft]
        exact hf
      obtain ⟨_, ca', key, expires, hleaf, hca⟩ := hissued.own hfound hown
      refine ⟨?_, ca', key, expires, hleaf, hca⟩
      unfold IssuedLeaf at hissued
      unfold certMatchesKey certPublic keyPublic
      rw [hissued]
      dsimp only
      rw [htorn text hfault]
      simp
  | @issued leaf hissued _ hfiles =>
    rw [hfiles] at hpair
    cases hpair
    exact hissued.own hfound hown

/-- What memory holds of a hostname once a leaf was signed for it. -/
theorem Issue.memory {r : Option Pair} (h : Issue H fault hostname s s' ca r) (hfound : s'.foundCa = some ca)
    (hown : ca.cert = ca.key) (hmemory : s'.cache hostname = some pair) :
    OwnLeaf H s' hostname pair ∨ s.cache hostname = some pair := by
  cases h with
  | raised hsame _ | certOnly _ hsame _ | keyLeft _ _ _ hsame _ => exact .inr (hsame.symm.trans hmemory)
  | issued hissued hsame _ =>
    obtain rfl := Option.some.inj (hsame.symm.trans hmemory)
    exact .inl (hissued.own hfound hown)

/-- A key is stored after its certificate. -/
theorem Issue.keyLast {r : Option Pair} (h : Issue H fault hostname s s' ca r)
    (hlast : (s.deviceCerts (H.certKey hostname)).cert = none → (s.deviceCerts (H.certKey hostname)).key = none)
    (hnone : (s'.deviceCerts (H.certKey hostname)).cert = none) : (s'.deviceCerts (H.certKey hostname)).key = none := by
  cases h with
  | raised _ hfiles =>
    rw [hfiles] at hnone ⊢
    exact hlast hnone
  | certOnly _ _ hfiles | keyLeft _ _ _ _ hfiles | issued _ _ hfiles =>
    rw [hfiles] at hnone
    cases hnone

/-- A hostname without a pair has no key. -/
theorem Owned.key_of_kept (h : Owned H hosts w) (hhost : hostname ∈ hosts)
    (hkept : w.manager.kept H hostname = none) : (w.manager.deviceCerts (H.certKey hostname)).key = none := by
  unfold Manager.kept at hkept
  obtain ⟨_, hkept⟩ := Option.or_eq_none_iff.mp hkept
  obtain ⟨_, hpair⟩ := Option.or_eq_none_iff.mp hkept
  have hlast := h.keyLast hostname hhost
  unfold PairFiles.pair? at hpair
  cases hcert : (w.manager.deviceCerts (H.certKey hostname)).cert with
  | none => exact hlast hcert
  | some cert =>
    cases hkey : (w.manager.deviceCerts (H.certKey hostname)).key with
    | none => rfl
    | some key =>
      rw [hcert, hkey] at hpair
      cases hpair

/-- Signing a leaf for a hostname without a pair. -/
theorem Owned.issue (h : Owned H hosts w) (hapart : Apart H hosts) (hhost : hostname ∈ hosts)
    (hkept : w.manager.kept H hostname = none) {r : Option Pair} (hbut : SameBut H hostname w.manager s')
    (hca : HasCa w.manager s' ca) (hissue : Issue H fault hostname w.manager s' ca r)
    (htorn : ∀ text, fault = some ⟨.key, .torn text⟩ → H.keyText text = .ok w.manager.leafKey) :
    Owned H hosts { w with manager := s' } := by
  obtain ⟨hfound, hown⟩ := h.caWhole_of hca
  have hslot : ∀ other ∈ hosts, other ≠ hostname → H.certKey other ≠ H.certKey hostname :=
    fun other hother hne heq => hne (hapart other hother hostname hhost heq)
  constructor
  · intro other hother pair hpair
    by_cases hne : other = hostname
    · subst hne
      rcases hpair with hdevice | ⟨hmemory, himported⟩
      · exact hissue.own hfound hown (h.key_of_kept hhost hkept) htorn hdevice
      · rcases hissue.memory hfound hown hmemory with hleaf | hcache
        · exact hleaf
        · exact h.still hca hhost (.inr ⟨hcache, himported⟩)
    · refine h.still hca hother ?_
      rcases hpair with hdevice | ⟨hmemory, himported⟩
      · rw [hbut.deviceCerts _ (hslot other hother hne)] at hdevice
        exact .inl hdevice
      · rw [hbut.cache other hne] at hmemory
        exact .inr ⟨hmemory, himported⟩
  · intro other hother hcert
    by_cases hne : other = hostname
    · subst hne
      exact hissue.keyLast (h.keyLast other hother) hcert
    · rw [hbut.deviceCerts _ (hslot other hother hne)] at hcert ⊢
      exact h.keyLast other hother hcert
  · intro c hc
    rw [hfound] at hc
    obtain rfl := Option.some.inj hc
    exact hown

/-! ## One step -/

/-- What every run keeps. -/
structure Inv (H : Host) (hosts : List Str) (w : World) : Prop extends Held H hosts w, Owned H hosts w

theorem Inv.gets (h : Inv H hosts w) (hapart : Apart H hosts) (hhost : hostname ∈ hosts)
    (hok : Meets H hosts w (.gets hostname fault)) :
    Inv H hosts { w with manager := (getCertForHostname H fault hostname w.manager).2 } := by
  refine ⟨h.toHeld.gets hhost fault, ?_⟩
  by_cases hvalid : validHostname hostname = true
  · cases hkept : w.manager.kept H hostname with
    | some p =>
      rw [get_kept hvalid hkept]
      exact h.toOwned.remember h.toHeld hhost hkept
    | none =>
      obtain ⟨hbut, ca, hca, hissue⟩ := get_fresh fault hvalid hkept
      have himported : w.imported hostname = none := by
        cases himported : w.imported hostname with
        | none => rfl
        | some pair =>
          rw [h.toHeld.kept hhost himported] at hkept
          cases hkept
      exact h.toOwned.issue hapart hhost hkept hbut hca hissue (hok hvalid himported).2
  · rw [get_refused (by simpa using hvalid)]
    exact h.toOwned

/-- An import stores a pair of its own only. -/
theorem Owned.imports (h : Owned H hosts w) (hstep : step H w (.imports hostname pair fault) = some w') :
    Owned H hosts w' := by
  rcases imported_cases hstep with rfl | rfl | ⟨f, left, -, -, -, -, rfl⟩ | ⟨-, rfl⟩
  · exact h
  · exact h.keep rfl rfl fun _ _ _ hp => hp
  · exact h.keep rfl rfl fun _ _ _ hp => hp
  · refine h.keep rfl rfl fun other hother p hp => ?_
    rcases hp with hdevice | ⟨hmemory, himported⟩
    · exact .inl hdevice
    have hne : other ≠ hostname := by
      rintro rfl
      simp at himported
    dsimp only at hmemory himported
    rw [cache_remember_of_ne hne] at hmemory
    rw [Function.update_of_ne hne] at himported
    exact .inr ⟨hmemory, himported⟩

/-- A deletion stores nothing. -/
theorem Owned.deletes (h : Owned H hosts w) (hheld : Held H hosts w) (hhost : hostname ∈ hosts)
    (hstep : step H w (.deletes hostname) = some w') : Owned H hosts w' := by
  rcases deleted_cases hstep with rfl | ⟨hnone, rfl⟩ | rfl
  · exact h
  · rw [← hheld.imported_of_externalCerts hhost hnone, Function.update_eq_self]
    exact h
  · refine h.keep rfl rfl fun other hother p hp => ?_
    rcases hp with hdevice | ⟨hmemory, himported⟩
    · exact .inl hdevice
    have hne : other ≠ hostname := by
      rintro rfl
      simp at hmemory
    dsimp only at hmemory himported
    rw [Function.update_of_ne hne] at hmemory himported
    exact .inr ⟨hmemory, himported⟩

/-- A CA that is ensured is the one that was found, or nothing is stored of another. -/
theorem Owned.ensures (h : Owned H hosts w) (fault : Option Fault) :
    Owned H hosts { w with manager := (ensureCa fault w.manager).2 } := by
  obtain ⟨hsame, _, ca, hca, _⟩ := ensureCa_spec fault w.manager
  obtain ⟨hfound, hown⟩ := h.caWhole_of hca
  have hstores : ∀ hostname pair, World.stores H { w with manager := (ensureCa fault w.manager).2 } hostname pair →
      w.stores H hostname pair := by
    rintro hostname pair (hdevice | ⟨hmemory, himported⟩)
    · exact .inl (congrFun hsame.deviceCerts _ ▸ hdevice)
    · exact .inr ⟨congrFun hsame.cache _ ▸ hmemory, himported⟩
  constructor
  · exact fun hostname hhost pair hpair => h.still hca hhost (hstores hostname pair hpair)
  · dsimp only
    rw [hsame.deviceCerts]
    exact h.keyLast
  · intro c hc
    rw [hfound] at hc
    obtain rfl := Option.some.inj hc
    exact hown

/-- Nothing of the CA is in memory after a restart. -/
theorem Owned.restarts (h : Owned H hosts w) (hok : Meets H hosts w .restarts) :
    Owned H hosts { w with manager := w.manager.restart } := by
  have hstores : ∀ hostname pair, World.stores H { w with manager := w.manager.restart } hostname pair →
      (w.manager.deviceCerts (H.certKey hostname)).pair? = some pair := by
    rintro hostname pair (hdevice | ⟨hmemory, _⟩)
    · exact hdevice
    · cases hmemory
  rcases hok with hca | ⟨hbare, hca⟩
  · exact h.keep hca rfl fun hostname _ pair hpair => .inl (hstores hostname pair hpair)
  · refine h.of_bare rfl (fun hostname hhost pair hpair => ?_) hca
    have hdevice := hstores hostname pair hpair
    rw [hbare hostname hhost] at hdevice
    cases hdevice

/-- Files that are harmed hold no other CA. -/
theorem foundCa_harmCa (s : Manager) (key cert : Harm) (h : ca ∈ (s.harmCa key cert).foundCa) :
    s.foundCa = some ca := by
  unfold Manager.foundCa Manager.harmCa at *
  cases hmemory : s.ca with
  | some c =>
    rw [hmemory] at h
    exact h
  | none =>
    rw [hmemory] at h
    cases key with
    | lost => cases h
    | corrupted => cases hkey : s.caKeyFile <;> simp [hkey, Harm.after] at h
    | spared =>
      cases cert with
      | spared => exact h
      | lost => cases hkey : s.caKeyFile <;> simp [hkey, Harm.after] at h
      | corrupted => cases hkey : s.caKeyFile <;> cases hcert : s.caCertFile <;> simp [hkey, hcert, Harm.after] at h

theorem Owned.harmsCa (h : Owned H hosts w) {key cert : Harm} (hok : Meets H hosts w (.harmsCa key cert)) :
    Owned H hosts { w with manager := w.manager.harmCa key cert } := by
  rcases hok with hca | hbare
  · exact h.keep hca rfl fun _ _ _ hp => hp
  · exact h.of_bare rfl hbare fun c hc => h.caWhole c (foundCa_harmCa w.manager key cert hc)

/-- The hostnames an event is about are among these. -/
def Among (hosts : List Str) (event : Event) : Prop := ∀ hostname ∈ event.hostname?, hostname ∈ hosts

/-- **Every step under the condition keeps the invariant.** -/
theorem Inv.step {event : Event} (h : Inv H hosts w) (hapart : Apart H hosts) (hamong : Among hosts event)
    (hok : Meets H hosts w event) (hstep : Certificates.step H w event = some w') : Inv H hosts w' := by
  cases event with
  | ensures fault =>
    obtain rfl := Option.some.inj hstep
    obtain ⟨hsame, _⟩ := ensureCa_spec fault w.manager
    refine ⟨?_, h.toOwned.ensures fault⟩
    exact h.toHeld.keep_stores hsame.externalCerts fun hostname p hp => congrFun hsame.cache hostname ▸ hp
  | gets hostname fault =>
    obtain rfl := Option.some.inj hstep
    exact h.gets hapart (hamong hostname rfl) hok
  | imports hostname pair fault =>
    exact ⟨h.toHeld.imports hapart (hamong hostname rfl) hok hstep, h.toOwned.imports hstep⟩
  | deletes hostname =>
    have hhost : hostname ∈ hosts := hamong hostname rfl
    exact ⟨h.toHeld.deletes hapart hhost hstep, h.toOwned.deletes h.toHeld hhost hstep⟩
  | restarts =>
    obtain rfl := Option.some.inj hstep
    exact ⟨h.toHeld.keep_stores rfl fun _ _ hp => (nomatch hp), h.toOwned.restarts hok⟩
  | harmsCa key cert =>
    obtain rfl := Option.some.inj hstep
    exact ⟨h.toHeld.keep_stores rfl fun _ _ hp => hp, h.toOwned.harmsCa hok⟩
  | passes seconds =>
    obtain rfl := Option.some.inj hstep
    exact ⟨h.toHeld.keep_stores rfl fun _ _ hp => hp, h.toOwned.keep rfl rfl fun _ _ _ hp => hp⟩

/-! ## Every call of a run -/

/-- **A call under the condition does what it should.** -/
theorem Inv.right {event : Event} (h : Inv H hosts w) (hamong : Among hosts event) (hok : Meets H hosts w event) :
    Right H w event := by
  cases event with
  | gets hostname fault =>
    intro pair s' hget
    by_cases hvalid : validHostname hostname = true
    · cases himported : w.imported hostname with
      | some p =>
        rw [get_kept hvalid (h.kept (hamong hostname rfl) himported)] at hget
        cases hget
        exact ⟨.inl rfl, (h.held hostname (hamong hostname rfl) _ himported).2.2⟩
      | none =>
        -- nothing was imported: the leaf is the manager's own, kept or issued now
        obtain ⟨hlasting, _⟩ := hok hvalid himported
        cases hkept : w.manager.kept H hostname with
        | some p =>
          rw [get_kept hvalid hkept] at hget
          cases hget
          obtain ⟨hmatch, ca, key, expires, hleaf, hca⟩ :=
            h.stored hostname (hamong hostname rfl) pair (h.toHeld.stores_of_kept (hamong hostname rfl) himported hkept)
          obtain ⟨cert, k⟩ := pair
          dsimp only at hleaf
          subst hleaf
          exact ⟨.inr ⟨rfl, rfl, hca, hlasting hostname ca key expires k hkept⟩, hmatch⟩
        | none =>
          have hfresh := get_fresh fault hvalid hkept
          unfold Post at hfresh
          rw [hget] at hfresh
          obtain ⟨hbut, ca, hca, hissue⟩ := hfresh
          obtain ⟨hfound, hown⟩ := h.toOwned.caWhole_of hca
          cases hissue with
          | issued hissued _ _ =>
            obtain ⟨hmatch, _⟩ := hissued.own hfound hown
            unfold IssuedLeaf at hissued
            subst hissued
            refine ⟨.inr ⟨rfl, rfl, ?_, ?_⟩, hmatch⟩
            · rw [hfound, Option.map_some, hown]
            · rw [hbut.now]
              exact Nat.le_add_right ..
    · rw [get_refused (by simpa using hvalid)] at hget
      cases hget
  | imports hostname pair fault =>
    intro s' himport
    have hspec := importCert_spec H fault hostname pair w.manager
    unfold Post at hspec
    rw [himport] at hspec
    cases hspec with
    | refused => exact fun _ => ⟨rfl, rfl⟩
    | mismatched hs' =>
      dsimp only at hs'
      rw [hs']
      refine sameKept_setExternal ?_
      rw [← external?_setExternal_self]
      exact external?_mkdir ..
    | torn hvalid hmatch hf hleft hs' =>
      dsimp only at hs'
      rw [hs']
      exact sameKept_setExternal (hok hvalid hmatch _ hf _ hleft)
  | deletes hostname =>
    intro s' hdelete himported
    rcases deleteCert_spec H hostname w.manager with hrun | ⟨hrun, _⟩ | ⟨_, hvalid, hdir⟩
    · rw [hrun] at hdelete
      cases hdelete
    · rw [hrun] at hdelete
      cases hdelete
    · obtain ⟨files, hfiles⟩ := Option.isSome_iff_exists.mp hdir
      -- the condition asks for a whole pair in the directory, and nobody has imported one
      have hpair := hok hvalid files hfiles
      have hnone := h.unheld hostname (hamong hostname rfl) himported
      unfold Manager.external? at hnone
      rw [hfiles, Option.bind_some] at hnone
      rw [hnone] at hpair
      cases hpair
  | _ => trivial

end

/-- **In every run whose steps meet the condition, every call does what it should**: what is served is the
    imported pair or a leaf of the current CA that has not expired, and belongs together; an import that fails
    changes nothing; and a deletion is of an imported pair. -/
theorem right_of_meets (H : Host) (hosts : List Str) (hapart : Apart H hosts) (w : World)
    (h : ReachesUnder (step H) (fun w event => Among hosts event ∧ Meets H hosts w event) {} w) (event : Event)
    (hamong : Among hosts event) (hmeets : Meets H hosts w event) : Right H w event := by
  have hinv : Inv H hosts w :=
    h.invariant ⟨held_empty, owned_empty⟩ fun s event s' hs hok hstep => hs.step hapart hok.1 hok.2 hstep
  exact hinv.right hamong hmeets

/-! ## Two runs of a hub -/

/-- The hostname of both runs. -/
def hub : Str := "hub.example"

/-- Certificates that are valid for two years; the texts that load are those of one pair. -/
def hubHost : Host where
  certKey hostname := if hostname = hub then "beba3f11922d9461833aa7b3" else hostname
  signs _ := true
  validity := 63072000
  certText text := if text = ("hub certificate" : Str) then .ok 7 else .error .malformed
  keyText text := if text = ("hub key" : Str) then .ok 7 else .error .malformed

/-- The hub's own pair is imported and deleted again, a leaf is served in its place, and the proxy restarts. -/
def deletedPair : List Event :=
  [.imports hub (.text "hub certificate", .text "hub key") none, .deletes hub, .gets hub none, .restarts]

/-- The world it ends in. -/
def deletedPairEnd : World := (exec (step hubHost) {} deletedPair).getD {}

theorem among_hub {event : Event} (h : event.hostname?.all (· == hub) = true) : Among [hub] event := by
  intro hostname hmem
  rw [show event.hostname? = some hostname from hmem] at h
  simpa using h

theorem apart_hub (H : Host) : Apart H [hub] := by
  intro a ha b hb _
  rw [List.mem_singleton.mp ha, List.mem_singleton.mp hb]

theorem deletedPair_right : Right hubHost deletedPairEnd (.gets hub none) := by
  refine right_of_meets hubHost [hub] (apart_hub _) deletedPairEnd (reachesUnder_of_exec .start deletedPair rfl ?_) _
    (among_hub (by decide +kernel)) fun _ _ => ⟨?_, nofun⟩
  · refine And.intro ⟨among_hub (by decide +kernel), fun _ _ _ h => (nomatch h)⟩ ?_
    refine And.intro ⟨among_hub (by decide +kernel), fun _ files h => ?_⟩ ?_
    · obtain rfl := Option.some.inj (show some _ = some files from h)
      rfl
    refine And.intro ⟨among_hub (by decide +kernel), fun _ _ => ⟨fun _ _ _ _ _ h => ?_, nofun⟩⟩ ?_
    · exact absurd h nofun
    refine And.intro ⟨among_hub (by decide +kernel), .inl (by decide +kernel)⟩ ?_
    exact trivial
  · have hkept : deletedPairEnd.manager.kept hubHost hub = some (.leaf hub 0 1 63072000, .generated 1) := by
      decide +kernel
    intro host ca key expires k h
    obtain rfl : expires = 63072000 := by
      injection hkept.symm.trans h with hpair
      injection hpair with hleaf _
      injection hleaf with _ _ _ hexpires
      exact hexpires.symm
    decide +kernel

/-- A leaf is served, the files of the CA are lost, and another CA takes its place after a restart. -/
def lostCa : List Event := [.gets hub none, .harmsCa .lost .lost, .restarts, .ensures none]

/-- The world it ends in. -/
def lostCaEnd : World := (exec (step hubHost) {} lostCa).getD {}

/-- The leaf that is served then is one of the CA that was lost. -/
theorem lostCa_stale : ¬ ∀ (H : Host) (hosts : List Str), Apart H hosts →
    ∀ w, ReachesUnder (step H) (fun _ event => Among hosts event) {} w →
      ∀ event, Among hosts event → Right H w event := by
  intro h
  have hreach : ReachesUnder (step hubHost) (fun _ event => Among [hub] event) {} lostCaEnd := by
    refine reachesUnder_of_exec .start lostCa rfl ?_
    refine And.intro (among_hub (by decide +kernel)) (And.intro (among_hub (by decide +kernel)) ?_)
    refine And.intro (among_hub (by decide +kernel)) (And.intro (among_hub (by decide +kernel)) ?_)
    exact trivial
  have hget : getCertForHostname hubHost none hub lostCaEnd.manager =
      (some (.leaf hub 0 1 63072000, .generated 1),
        lostCaEnd.manager.remember hub (.leaf hub 0 1 63072000, .generated 1)) :=
    get_kept (by decide +kernel) (by decide +kernel)
  have hright := h hubHost [hub] (apart_hub _) lostCaEnd hreach (.gets hub none) (among_hub (by decide +kernel))
  obtain ⟨hserved, _⟩ := hright _ _ hget
  rcases hserved with himported | ⟨_, _, hca, _⟩
  · exact absurd himported (by decide +kernel)
  · exact absurd hca (by decide +kernel)

end RideTheApi.Certificates
