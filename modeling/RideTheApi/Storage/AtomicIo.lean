import RideTheApi.Lib.CrashFs
import RideTheApi.Lib.Transition
import RideTheApi.Py.PosixPath
import RideTheApi.Py.Quote

/-!
# `Storage.AtomicIo` — replacing a file, and appending to one

`write_text` fills a temporary file next to the destination, syncs it and moves it over the destination;
`append_atomic` appends to the destination and syncs it. A step is what one call does up to its next system call, a
fault, the death of the process, or a crash of the machine, so a run is any interleaving of calls with faults in
between. `f.write` hands its bytes to the system in pieces of any size.

Paths lead through no symbolic links here, and parent directories are there.
-/

namespace RideTheApi.AtomicIo

open Py CrashFs

/-! ## Destinations -/

/-- `PurePosixPath`: what it starts with, and its components. -/
structure PurePath where
  root : Str
  parts : List Str
deriving Repr, DecidableEq

namespace PurePath

/-- `PurePosixPath(path)`. -/
def parse (path : Str) : PurePath :=
  { root :=
      if Str.startsWith path "/" then
        if Str.startsWith path "//" && !Str.startsWith path "///" then str "//" else str "/"
      else []
    parts := (Str.split (cp '/') path).filter fun part => part ≠ [] ∧ part ≠ str "." }

/-- `str(path)`. -/
def toStr (path : PurePath) : Str :=
  let raw := path.root ++ joinWith "/" path.parts
  if raw = [] then str "." else raw

/-- `path.name`. -/
def name (path : PurePath) : Str := path.parts.getLast?.getD []

end PurePath

/-- `_validate_destination`; `none` when it raises. -/
def validateDestination (path : PurePath) : Option PurePath :=
  let raw := path.toStr
  if cp '\x00' ∈ raw then none
  else if str ".." ∈ (PurePath.parse (normpath raw)).parts then none
  else
    let safe := path.name
    if safe = [] ∨ safe = str "." ∨ safe = str ".." ∨ cp '/' ∈ safe ∨ cp '\\' ∈ safe then none else some path

/-- Where a file is: the components below the root. -/
abbrev Path := List Str

/-- `path.resolve()`. -/
def resolve (cwd : Path) (path : PurePath) : Path :=
  (if path.root = [] then cwd ++ path.parts else path.parts).foldl pushComp []

/-- The file that a call is about; `none` when it raises before it touches one. -/
def destination (cwd : Path) (path : Str) : Option Path :=
  (validateDestination (PurePath.parse path)).map (resolve cwd)

/-- The name that `mkstemp(dir=dest.parent, prefix=f".{dest.name}.", suffix=".tmp")` makes of its random characters. -/
def tempName (dest : Path) (random : Str) : Path :=
  dest.dropLast ++ [str "." ++ dest.getLast?.getD [] ++ str "." ++ random ++ str ".tmp"]

/-- A path that is not named like a temporary file. -/
def Plain (path : Path) : Prop :=
  ¬ (Str.startsWith (path.getLast?.getD []) "." = true ∧ Str.endsWith (path.getLast?.getD []) ".tmp" = true)

instance (path : Path) : Decidable (Plain path) := inferInstanceAs (Decidable (¬ _))

/-! ## Calls -/

/-- How far the writing of a call is: its text not yet encoded, some bytes handed to the system and the others not, or
    all of them on the medium. -/
inductive Phase where
  | opened (text : Str)
  | writing (done rest : Bytes)
  | synced
deriving Repr, DecidableEq

/-- A call on its way, with the file it writes. -/
inductive Call where
  | writeText (dest tmp : Path) (fd : Nat) (phase : Phase)
  | appendAtomic (path : Path) (fd : Nat) (phase : Phase)
deriving Repr, DecidableEq

namespace Call

def fd : Call → Nat
  | .writeText _ _ fd _  => fd
  | .appendAtomic _ fd _ => fd

def phase : Call → Phase
  | .writeText _ _ _ phase  => phase
  | .appendAtomic _ _ phase => phase

def withPhase (phase : Phase) : Call → Call
  | .writeText dest tmp fd _ => .writeText dest tmp fd phase
  | .appendAtomic path fd _  => .appendAtomic path fd phase

end Call

/-- The disk, the calls on their way, and what the calls of `append_atomic` that returned had appended. -/
structure State where
  disk : Disk Path Byte
  calls : Dict Nat Call := []
  appended : List (Path × Bytes) := []
deriving Repr, DecidableEq

inductive Label where
  /-- `write_text(path, text)` up to its open temporary file, for the random characters of its name. -/
  | writeText (id : Nat) (path text random : Str)
  /-- `append_atomic(path, text)` up to its open file. -/
  | appendAtomic (id : Nat) (path text : Str)
  /-- `f.write` encodes its text. -/
  | encode (id : Nat)
  /-- The system takes up to `n` bytes. -/
  | write (id n : Nat)
  | fsync (id : Nat)
  | replace (id : Nat)
  /-- An exception in the call; whether it could take its temporary file away. -/
  | fails (id : Nat) (unlinked : Bool)
  /-- The process dies. -/
  | kill
  /-- The machine goes down, and comes back. -/
  | crash (k : Nat) (tails : List Bytes)
deriving Repr, DecidableEq

namespace State

variable (s : State) (id : Nat)

/-- The encoding of a call's text; with a character that has no bytes it raises instead. -/
def encode (call : Call) : Option State :=
  match call.phase with
  | .opened text =>
    (encodeUtf8 text).map fun bytes => { s with calls := s.calls.set id (call.withPhase (.writing [] bytes)) }
  | _ => none

def write (n : Nat) (call : Call) : Option State :=
  match call.phase with
  | .writing done rest =>
    some { s with disk := s.disk.append call.fd (rest.take n)
                  calls := s.calls.set id (call.withPhase (.writing (done ++ rest.take n) (rest.drop n))) }
  | _ => none

/-- `os.fsync(f.fileno())` when all is written; `append_atomic` returns then. -/
def fsync : Call → Option State
  | .writeText dest tmp fd (.writing _ []) =>
    some { s with disk := s.disk.sync fd, calls := s.calls.set id (.writeText dest tmp fd .synced) }
  | .appendAtomic path fd (.writing done []) =>
    some { s with disk := s.disk.sync fd, calls := s.calls.erase id, appended := s.appended ++ [(path, done)] }
  | _ => none

/-- `Path(tmp_name).replace(dest)`; `write_text` returns then. -/
def replace : Call → Option State
  | .writeText dest tmp _ .synced =>
    (s.disk.rename tmp dest).map fun disk => { s with disk, calls := s.calls.erase id }
  | _ => none

/-- An exception before that. -/
def fails (unlinked : Bool) : Call → Option State
  | .writeText _ tmp _ _ =>
    some { s with disk := if unlinked then s.disk.unlink tmp else s.disk, calls := s.calls.erase id }
  | .appendAtomic .. => some { s with calls := s.calls.erase id }

end State

/-- One step; `none` when it cannot happen. A call with an unsafe destination raises and leaves nothing. -/
def step (cwd : Path) (s : State) : Label → Option State
  | .writeText id path text random =>
    match destination cwd path with
    | none => some s
    | some dest =>
      let tmp := tempName dest random
      -- `mkstemp` opens with `O_EXCL`, and tries another name when there is a file.
      if s.calls.has id || s.disk.entries.has tmp then none
      else some { s with disk := s.disk.create tmp
                         calls := s.calls.set id (.writeText dest tmp s.disk.inodes.length (.opened text)) }
  | .appendAtomic id path text =>
    match destination cwd path with
    | none => some s
    | some dest =>
      if s.calls.has id then none
      else
        let (fd, disk) := s.disk.openAppend dest
        some { s with disk, calls := s.calls.set id (.appendAtomic dest fd (.opened text)) }
  | .kill => some { s with calls := [] }
  | .crash k tails => some { s with disk := s.disk.crash k tails, calls := [] }
  | .encode id => (s.calls.get? id).bind (s.encode id)
  | .write id n => (s.calls.get? id).bind (s.write id n)
  | .fsync id => (s.calls.get? id).bind (s.fsync id)
  | .replace id => (s.calls.get? id).bind (s.replace id)
  | .fails id unlinked => (s.calls.get? id).bind (s.fails id unlinked)

/-- What a step did. -/
inductive Did (cwd : Path) (s : State) : Label → State → Prop where
  | raised {l : Label} : Did cwd s l s
  | openedTemp {id : Nat} {path text random : Str} {dest : Path} (hdest : destination cwd path = some dest)
      (hid : s.calls.get? id = none) (htmp : s.disk.entries.get? (tempName dest random) = none) :
      Did cwd s (.writeText id path text random)
        { s with disk := s.disk.create (tempName dest random)
                 calls := s.calls.set id
                   (.writeText dest (tempName dest random) s.disk.inodes.length (.opened text)) }
  | openedAppend {id : Nat} {path text : Str} {dest : Path} (hdest : destination cwd path = some dest)
      (hid : s.calls.get? id = none) :
      Did cwd s (.appendAtomic id path text)
        { s with disk := (s.disk.openAppend dest).2
                 calls := s.calls.set id (.appendAtomic dest (s.disk.openAppend dest).1 (.opened text)) }
  | encoded {id : Nat} {call : Call} {text : Str} {bytes : Bytes} (hcall : s.calls.get? id = some call)
      (hphase : call.phase = .opened text) (hbytes : encodeUtf8 text = some bytes) :
      Did cwd s (.encode id) { s with calls := s.calls.set id (call.withPhase (.writing [] bytes)) }
  | wrote {id n : Nat} {call : Call} {done rest : Bytes} (hcall : s.calls.get? id = some call)
      (hphase : call.phase = .writing done rest) :
      Did cwd s (.write id n)
        { s with disk := s.disk.append call.fd (rest.take n)
                 calls := s.calls.set id (call.withPhase (.writing (done ++ rest.take n) (rest.drop n))) }
  | syncedTemp {id : Nat} {dest tmp : Path} {fd : Nat} {done : Bytes}
      (hcall : s.calls.get? id = some (.writeText dest tmp fd (.writing done []))) :
      Did cwd s (.fsync id)
        { s with disk := s.disk.sync fd, calls := s.calls.set id (.writeText dest tmp fd .synced) }
  | syncedAppend {id : Nat} {path : Path} {fd : Nat} {done : Bytes}
      (hcall : s.calls.get? id = some (.appendAtomic path fd (.writing done []))) :
      Did cwd s (.fsync id)
        { s with disk := s.disk.sync fd, calls := s.calls.erase id, appended := s.appended ++ [(path, done)] }
  | replaced {id : Nat} {dest tmp : Path} {fd i : Nat}
      (hcall : s.calls.get? id = some (.writeText dest tmp fd .synced)) (htmp : s.disk.entries.get? tmp = some i) :
      Did cwd s (.replace id)
        { s with disk := s.disk.relink ((s.disk.entries.erase tmp).set dest i), calls := s.calls.erase id }
  | unlinked {id : Nat} {dest tmp : Path} {fd : Nat} {phase : Phase}
      (hcall : s.calls.get? id = some (.writeText dest tmp fd phase)) :
      Did cwd s (.fails id true) { s with disk := s.disk.unlink tmp, calls := s.calls.erase id }
  | failed {id : Nat} {unlinked : Bool} : Did cwd s (.fails id unlinked) { s with calls := s.calls.erase id }
  | killed : Did cwd s .kill { s with calls := [] }
  | crashed {k : Nat} {tails : List Bytes} :
      Did cwd s (.crash k tails) { s with disk := s.disk.crash k tails, calls := [] }

end RideTheApi.AtomicIo
