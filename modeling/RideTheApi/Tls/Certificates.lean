import Mathlib.Logic.Function.Basic
import RideTheApi.Lib.Faulty
import RideTheApi.Lib.Transition
import RideTheApi.Registry.Isolation

/-!
# `Tls.Certificates` — the certificates the proxy serves

A hostname's pair is looked for in memory, in the directory of imported pairs and in that of generated ones;
without any a leaf is signed by the CA and stored. Every file is written in place: a write that fails leaves
the file as it was, torn, or whole, and raises. Keys are numbers, in the order they are generated, and a
certificate that was signed here records the CA key that signed it, its own key and when it expires.
-/

namespace RideTheApi.Certificates

open Py Faulty
open Isolation (isAlnum isSafe)

/-! ## Certificates and keys -/

/-- A certificate as PEM text: a leaf that was signed here, or any other text. -/
inductive CertPem where
  | leaf (hostname : Str) (ca key expires : Nat)
  | text (s : Str)
deriving Repr, DecidableEq

/-- A private key as PEM text. -/
inductive KeyPem where
  | generated (key : Nat)
  | text (s : Str)
deriving Repr, DecidableEq

/-- A certificate and a key. -/
abbrev Pair := CertPem × KeyPem

/-- Why a PEM text does not load. -/
inductive PemError where
  | encrypted
  | malformed
deriving Repr, DecidableEq

/-- What the manager takes from `cryptography` and `hashlib`. -/
structure Host where
  /-- The first 24 digits of `hashlib.sha256(hostname.encode("utf-8")).hexdigest()`. -/
  certKey : Str → Str
  /-- A certificate can be built for the hostname: its common name is not too long. -/
  signs : Str → Bool
  /-- `cert_validity_days`, in seconds. -/
  validity : Nat
  /-- The public key of a certificate. -/
  certText : Str → Except PemError Nat
  /-- The public key of a private key. -/
  keyText : Str → Except PemError Nat

/-! ## What the manager holds -/

/-- The two files of a pair. -/
structure PairFiles where
  cert : Option CertPem := none
  key : Option KeyPem := none
deriving Repr, DecidableEq

/-- The pair, where both files exist. -/
def PairFiles.pair? (files : PairFiles) : Option Pair :=
  match files.cert, files.key with
  | some cert, some key => some (cert, key)
  | _, _                => none

/-- A file of the CA: it holds the key of this number, or its certificate; or it does not load. -/
inductive CaFile where
  | holds (key : Nat)
  | damaged
deriving Repr, DecidableEq

/-- The CA in memory: the key its certificate is for, and the key that signs. -/
structure Ca where
  cert : Nat
  key : Nat
deriving Repr, DecidableEq

/-- A certificate manager with its directories. A directory of imported pairs exists or not. -/
structure Manager where
  now : Nat := 0
  nextKey : Nat := 0
  caKeyFile : Option CaFile := none
  caCertFile : Option CaFile := none
  deviceCerts : Str → PairFiles := fun _ => {}
  externalCerts : Str → Option PairFiles := fun _ => none
  ca : Option Ca := none
  cache : Str → Option Pair := fun _ => none

/-! ## Writes -/

/-- The file a write goes to. -/
inductive Target where
  | caKey
  | caCert
  | cert
  | key
  | metadata
deriving Repr, DecidableEq

/-- What a failed write leaves of the file. -/
inductive Left where
  | asBefore
  | torn (s : Str)
  | whole
deriving Repr, DecidableEq

/-- The write of a call that fails. -/
structure Fault where
  target : Target
  left : Left
deriving Repr, DecidableEq

/-- What is left of a file that is written, whole or torn. -/
def Left.change (left : Left) (whole : Manager → Manager) (torn : Str → Manager → Manager) : Manager → Manager :=
  match left with
  | .asBefore => id
  | .torn s   => torn s
  | .whole    => whole

/-- Write a file; the write that fails leaves what it leaves, and raises. -/
def write (fault : Option Fault) (target : Target) (whole : Manager → Manager) (torn : Str → Manager → Manager) :
    Faulty Manager Unit :=
  match fault.filter fun f => f.target = target with
  | none   => modify whole
  | some f => do
    modify (f.left.change whole torn)
    raiseIf true

/-- The files of a generated pair. -/
def Manager.setDevice (s : Manager) (slot : Str) (files : PairFiles → PairFiles) : Manager :=
  { s with deviceCerts := Function.update s.deviceCerts slot (files (s.deviceCerts slot)) }

/-- The files of an imported pair, whose directory is made first. -/
def Manager.setExternal (s : Manager) (slot : Str) (files : PairFiles → PairFiles) : Manager :=
  { s with
    externalCerts := Function.update s.externalCerts slot (some (files ((s.externalCerts slot).getD {}))) }

/-- The pair is served from memory from now on. -/
def Manager.remember (s : Manager) (hostname : Str) (pair : Pair) : Manager :=
  { s with cache := Function.update s.cache hostname (some pair) }

/-! ## The CA -/

/-- `_generate_ca`: the CA is in memory before its files are written. -/
def generateCa (fault : Option Fault) : Faulty Manager Ca := do
  let s ← get
  let key := s.nextKey
  modify fun s => { s with nextKey := key + 1, ca := some ⟨key, key⟩ }
  write fault .caKey (fun s => { s with caKeyFile := some (.holds key) })
    fun _ s => { s with caKeyFile := some .damaged }
  write fault .caCert (fun s => { s with caCertFile := some (.holds key) })
    fun _ s => { s with caCertFile := some .damaged }
  pure ⟨key, key⟩

/-- The CA a call finds: in memory, else in the two files. They are not compared. -/
def Manager.foundCa (s : Manager) : Option Ca :=
  match s.ca, s.caKeyFile, s.caCertFile with
  | some ca, _, _                                  => some ca
  | none, some (.holds key), some (.holds cert)    => some ⟨cert, key⟩
  | none, _, _                                     => none

/-- `ensure_ca`: load the CA, or generate one where a file is missing or does not load. -/
def ensureCa (fault : Option Fault) : Faulty Manager Ca := do
  let s ← get
  match s.foundCa with
  | some ca =>
    modify fun s => { s with ca := some ca }
    pure ca
  | none    => generateCa fault

section
variable (H : Host)

/-! ## Leaves -/

/-- `_HOSTNAME_RE`. -/
def validHostname (hostname : Str) : Bool :=
  hostname.all isSafe && hostname.head?.any isAlnum && hostname.getLast?.any isAlnum

/-- `_generate_leaf_cert`. -/
def generateLeafCert (fault : Option Fault) (hostname : Str) : Faulty Manager Pair := do
  let ca ← ensureCa fault
  let s ← get
  modify fun s => { s with nextKey := s.nextKey + 1 }
  raiseIf (!H.signs hostname)
  pure (.leaf hostname ca.key s.nextKey (s.now + H.validity), .generated s.nextKey)

/-- The pair of the imported files, if both exist. -/
def Manager.external? (s : Manager) (slot : Str) : Option Pair := (s.externalCerts slot).bind (·.pair?)

/-- The pair that is kept for a hostname: in memory, else an imported one, else a generated one. -/
def Manager.kept (s : Manager) (hostname : Str) : Option Pair :=
  (s.cache hostname).or ((s.external? (H.certKey hostname)).or (s.deviceCerts (H.certKey hostname)).pair?)

/-- `get_cert_for_hostname`: what is kept is served, else a leaf is signed and stored. -/
def getCertForHostname (fault : Option Fault) (hostname : Str) : Faulty Manager Pair := do
  raiseIf (!validHostname hostname)
  let s ← get
  match s.kept H hostname with
  | some pair =>
    modify (·.remember hostname pair)
    pure pair
  | none      =>
    let pair ← generateLeafCert H fault hostname
    write fault .cert (·.setDevice (H.certKey hostname) fun files => { files with cert := some pair.1 })
      fun s m => m.setDevice (H.certKey hostname) fun files => { files with cert := some (.text s) }
    write fault .key (·.setDevice (H.certKey hostname) fun files => { files with key := some pair.2 })
      fun s m => m.setDevice (H.certKey hostname) fun files => { files with key := some (.text s) }
    modify (·.remember hostname pair)
    pure pair

/-! ## Imported pairs -/

/-- The public key of a certificate. -/
def certPublic : CertPem → Except PemError Nat
  | .leaf _ _ key _ => .ok key
  | .text s         => H.certText s

/-- The public key of a private key. -/
def keyPublic : KeyPem → Except PemError Nat
  | .generated key => .ok key
  | .text s        => H.keyText s

/-- `_cert_matches_key`: an encrypted text raises, any other that does not load matches nothing. -/
def certMatchesKey (pair : Pair) : Option Bool :=
  match certPublic H pair.1, keyPublic H pair.2 with
  | .ok cert, .ok key       => some (cert = key)
  | .error .encrypted, _    => none
  | .error .malformed, _    => some false
  | .ok _, .error .encrypted => none
  | .ok _, .error .malformed => some false

/-- `import_cert`: the directory is made before the pair is compared, and the files are written one by one. -/
def importCert (fault : Option Fault) (hostname : Str) (pair : Pair) : Faulty Manager Unit := do
  raiseIf (!validHostname hostname)
  modify (·.setExternal (H.certKey hostname) id)
  raiseIf (certMatchesKey H pair != some true)
  write fault .cert (·.setExternal (H.certKey hostname) fun files => { files with cert := some pair.1 })
    fun s m => m.setExternal (H.certKey hostname) fun files => { files with cert := some (.text s) }
  write fault .key (·.setExternal (H.certKey hostname) fun files => { files with key := some pair.2 })
    fun s m => m.setExternal (H.certKey hostname) fun files => { files with key := some (.text s) }
  write fault .metadata id fun _ => id
  modify (·.remember hostname pair)

/-- `delete_cert`: whether there was a directory. -/
def deleteCert (hostname : Str) : Faulty Manager Bool := do
  raiseIf (!validHostname hostname)
  let s ← get
  match s.externalCerts (H.certKey hostname) with
  | none   => pure false
  | some _ =>
    modify fun s =>
      { s with
        externalCerts := Function.update s.externalCerts (H.certKey hostname) none
        cache := Function.update s.cache hostname none }
    pure true

end

/-! ## Outside the manager -/

/-- The process ends and another one starts: what was in memory is lost. -/
def Manager.restart (s : Manager) : Manager := { s with ca := none, cache := fun _ => none }

/-- What happens to a file of the CA. -/
inductive Harm where
  | spared
  | lost
  | corrupted
deriving Repr, DecidableEq

/-- A file after it was harmed. -/
def Harm.after : Harm → Option CaFile → Option CaFile
  | .spared, file    => file
  | .lost, _         => none
  | .corrupted, file => file.map fun _ => .damaged

/-- The files of the CA are lost or corrupted. -/
def Manager.harmCa (s : Manager) (key cert : Harm) : Manager :=
  { s with caKeyFile := key.after s.caKeyFile, caCertFile := cert.after s.caCertFile }

end RideTheApi.Certificates
