import RideTheApi.Dns.Server
import RideTheApi.Storage.AtomicIo

/-!
# `Config.Manager` — the configuration in use, and its file

A request makes a candidate of the configuration in use, writes it to the file like `AtomicIo.write_text` does, and only
then takes it into use. Both happen under `_lock`, as does `load`; others may write files meanwhile, the operator this
one too. The process may die and the machine go down at any time.

A file is read and written by PyYAML (`Yaml`), and validated by pydantic; what this model does not look into (`rest`) is
taken as valid. The class of an adapter is written under its name, `class_name`, and read under its alias, `class`.
-/

namespace RideTheApi.ConfigManager

open Py AtomicIo
open Dns.Server (DnsConfig)

/-! ## What is configured -/

/-- `SecurityConfig`. -/
structure SecurityConfig where
  authEnabled : Bool := true
  password : Str := []
deriving Repr, DecidableEq

inductive ConnectionType where
  | auto
  | tls
  | http
  | mqtt
  | coap
  | modbus
deriving Repr, DecidableEq

/-- `IpProfileConfig`. -/
structure IpProfileConfig where
  database : Option Str := none
  connection : ConnectionType := .auto
  bypass : Bool := false
deriving Repr, DecidableEq

/-- `AdapterConfig`. -/
structure AdapterConfig where
  className : Str := []
  extra : List (Str × Json) := []
deriving DecidableEq

/-- The sections of a configuration but for the adapters of the vendors; which protocol servers are `enabled`. -/
structure Sections (ρ : Type) where
  security : SecurityConfig := {}
  dns : DnsConfig := {}
  ipProfiles : Dict Str IpProfileConfig := []
  enabled : Dict Str Bool := []
  rest : ρ
deriving DecidableEq

/-- `Config`. -/
structure Config (ρ : Type) extends Sections ρ where
  adapters : Dict Str AdapterConfig := []
deriving DecidableEq

/-- What a file says. -/
structure Data (ρ : Type) extends Sections ρ where
  adapters : Dict Str Json := []
deriving DecidableEq

variable {ρ : Type}

/-- `model_dump(mode="json", by_alias=False)`. -/
def AdapterConfig.modelDump (a : AdapterConfig) : Json :=
  .obj [(str "class_name", .str a.className), (str "extra", .obj a.extra)]

/-- `AdapterConfig(**data)`; `none` when it is not valid. -/
def AdapterConfig.validate : Json → Option AdapterConfig
  | .obj data => do
    let className ← match Dict.get? data (str "class") with
      | none            => some []
      | some (.str name) => some name
      | some _          => none
    let extra ← match Dict.get? data (str "extra") with
      | none              => some []
      | some (.obj extra) => some extra
      | some _            => none
    some { className, extra }
  | _ => none

def Config.modelDump (c : Config ρ) : Data ρ :=
  { c.toSections with adapters := c.adapters.map fun (vendor, a) => (vendor, a.modelDump) }

/-- `Config(**data)`. -/
def Config.validate (data : Data ρ) : Option (Config ρ) :=
  (data.adapters.mapM fun kv : Str × Json => (AdapterConfig.validate kv.2).map fun a => (kv.1, a)).map fun adapters =>
    { data.toSections with adapters }

/-- `yaml.safe_dump`, and `yaml.safe_load` of a file; `none` when they raise. -/
structure Yaml (ρ : Type) where
  safeDump : Data ρ → Option Str
  safeLoad : Bytes → Option (Data ρ)

/-- What was written is read. -/
def Yaml.Lawful (Y : Yaml ρ) : Prop :=
  ∀ data text bytes, Y.safeDump data = some text → encodeUtf8 text = some bytes → Y.safeLoad bytes = some data

/-- The configuration in a file. -/
def readConfig (Y : Yaml ρ) (file : Option Bytes) : Option (Config ρ) := (file.bind Y.safeLoad).bind Config.validate

/-! ## Requests -/

/-- A security section that is given to `update_config`. -/
structure SecurityData where
  authEnabled : Bool := true
  password : Option Str := none
deriving Repr, DecidableEq

inductive Request (ρ : Type) where
  | setIpProfileBypass (ip : Str) (bypass : Bool)
  | setDnsSettings (intercept : Option (List Str)) (interceptAll : Option Bool) (exclude : Option (List Str))
  | setSecurityPassword (password : Str)
  | setProtocolServerEnabled (name : Str) (enabled : Bool)
  /-- The security section may be missing. -/
  | updateConfig (data : Data ρ) (security : Option SecurityData)

/-- `[str(item).strip() for item in items if str(item).strip()]`. -/
def stripped (items : List Str) : List Str := (items.map Str.stripSpace).filter (· ≠ [])

/-- What is written instead of the configuration in use; `none` when the request returns or raises before. -/
def candidate (c : Config ρ) : Request ρ → Option (Config ρ)
  | .setIpProfileBypass ip bypass =>
    some { c with ipProfiles := c.ipProfiles.set ip { (c.ipProfiles.get? ip).getD {} with bypass } }
  | .setDnsSettings intercept interceptAll exclude =>
    some { c with dns := { c.dns with
      intercept := (intercept.map stripped).getD c.dns.intercept
      interceptAll := interceptAll.getD c.dns.interceptAll
      exclude := (exclude.map stripped).getD c.dns.exclude } }
  | .setSecurityPassword password => some { c with security := { c.security with password } }
  | .setProtocolServerEnabled name enabled =>
    if c.enabled.has name then some { c with enabled := c.enabled.set name enabled } else none
  | .updateConfig data security =>
    Config.validate { data with security := match security with
      | none       => c.security
      | some given =>
        { authEnabled := given.authEnabled
          password := if given.password.getD [] = [] then c.security.password else given.password.getD [] } }

/-! ## Steps -/

/-- The files, the configuration in use, and the candidate that `_write` is at. `stale` says that the file was written
    by someone else since. -/
structure State (ρ : Type) where
  files : AtomicIo.State
  live : Option (Config ρ) := none
  saving : Option (Config ρ) := none
  stale : Bool := false

inductive Label (ρ : Type) where
  | load
  /-- A request up to the open temporary file, for the random characters of its name. -/
  | request (r : Request ρ) (random : Str)
  | encode
  | write (n : Nat)
  | fsync
  /-- The file is replaced, and the candidate in use. -/
  | replace
  /-- An exception in `_write`; whether it could take its temporary file away. -/
  | fails (unlinked : Bool)
  /-- Someone else writes a file. -/
  | other (l : AtomicIo.Label)
  | kill
  | crash (k : Nat) (tails : List Bytes)

/-- The call a label is about. -/
def callOf : AtomicIo.Label → Option Nat
  | .writeText id _ _ _ | .appendAtomic id _ _ | .encode id | .write id _ | .fsync id | .replace id | .fails id _ =>
    some id
  | .kill | .crash _ _ => none

section
variable (Y : Yaml ρ) (cwd : Path) (path : Str) (p : Path)

/-- The label replaces the file. -/
def replaces (files : AtomicIo.State) : AtomicIo.Label → Bool
  | .replace id =>
    match files.calls.get? id with
    | some (.writeText dest _ _ _) => dest == p
    | _                            => false
  | _ => false

/-- One step; `none` when it cannot happen. The calls of `_write` have the number 0. -/
def step (s : State ρ) : Label ρ → Option (State ρ)
  | .load =>
    if s.saving.isSome then none
    else match readConfig Y (s.files.disk.read p) with
      | some c => some { s with live := some c, stale := false }
      | none   => some s
  | .request r random =>
    match s.saving, s.live with
    | none, some c =>
      match candidate c r with
      | none      => some s
      | some next =>
        match Y.safeDump next.modelDump with
        | none      => some s
        | some text =>
          (AtomicIo.step cwd s.files (.writeText 0 path text random)).map fun files =>
            { s with files, saving := some next }
    | _, _ => none
  | .encode => (AtomicIo.step cwd s.files (.encode 0)).map fun files => { s with files }
  | .write n => (AtomicIo.step cwd s.files (.write 0 n)).map fun files => { s with files }
  | .fsync => (AtomicIo.step cwd s.files (.fsync 0)).map fun files => { s with files }
  | .replace =>
    (AtomicIo.step cwd s.files (.replace 0)).map fun files =>
      { files, live := s.saving, saving := none, stale := false }
  | .fails unlinked =>
    (AtomicIo.step cwd s.files (.fails 0 unlinked)).map fun files => { s with files, saving := none }
  | .other l =>
    if (callOf l).all (· ≠ 0) && (callOf l).isSome then
      (AtomicIo.step cwd s.files l).map fun files => { s with files, stale := s.stale || replaces p s.files l }
    else none
  | .kill =>
    (AtomicIo.step cwd s.files .kill).map fun files => { files }
  | .crash k tails => (AtomicIo.step cwd s.files (.crash k tails)).map fun files => { files }

end

end RideTheApi.ConfigManager
