import RideTheApi.Registry.Caches

/-!
# `Registry.Addresses` — who holds an address

`bind_ip`, `handle_device_seen` and `get_or_create_device` suspended at their awaits, over the registry and the
reverse index that `resolve_device_id` keeps. A call reads in one step and commits what it made of that in
another, so what it read may be old by then. Beside the system runs the operators' book: the device that the
last committed `bind_ip` gave each address to, and what a lookup on its way owes.
-/

namespace RideTheApi.Registry.Addresses

open Py

/-- `device_id_from_ip("ip", client_ip)`. -/
def deviceIdFromIp (clientIp : Str) : Str := str "ip-" ++ Str.replace (cp '.') (cp '-') clientIp

/-- A `handle_device_seen` under way. -/
structure Sighting where
  clientIp : Str
  sni : Option Str
deriving DecidableEq

/-- What a suspended call does next. -/
inductive Task where
  /-- `get_or_create_device`: take the lock and select. A sighting goes on from there. -/
  | creating (deviceId : Str) (columns : Dict Str Json) (sighting : Option Sighting)
  /-- Under the lock: commit the `INSERT`. -/
  | inserting (deviceId : Str) (columns : Dict Str Json) (sighting : Option Sighting)
  /-- Under the lock: forget the index. -/
  | inserted (deviceId : Str) (sighting : Option Sighting)
  /-- Open the device's engine. -/
  | opening (sighting : Option Sighting)
  /-- `handle_device_seen`: select the row. -/
  | sighted (sighting : Sighting)
  /-- Commit the changes to the row as it was selected. -/
  | marking (sighting : Sighting) (row : Device) (now : Int)
  | marked
  /-- `bind_ip`: select all rows. -/
  | binding (deviceId ip : Str)
  /-- Commit the changes to the rows as they were selected. -/
  | bindWriting (deviceId ip : Str) (read : Rows)
  | bound (deviceId ip : Str) (changed : Bool)
  /-- `resolve_device_id`: select all rows. -/
  | resolving (ip : Str)
  /-- Keep the index of the rows that were selected. -/
  | indexing (ip : Str) (index : Dict Str Str)
  /-- Look in the kept index, the session closed. -/
  | closing (ip : Str)
deriving DecidableEq

/-- The registry, the reverse index in memory, and the calls under way. -/
structure System where
  rows : Rows
  ipLookupCache : Option (Dict Str Str) := none
  tasks : Dict Nat Task := []

/-- A call, with the columns of a row to insert. -/
inductive Call where
  | bindIp (deviceId ip : Str)
  | handleDeviceSeen (clientIp : Str) (sni : Option Str) (columns : Dict Str Json)
  | getOrCreateDevice (deviceId : Str) (columns : Dict Str Json)
  | resolveDeviceId (ip : Str)
deriving DecidableEq

/-- A call starts under a number of its own, or the call with a number goes on to its next await. -/
inductive Event where
  | begin (id : Nat) (call : Call)
  | resume (id : Nat) (now : Int)
deriving DecidableEq

/-- Whether a call holds the creation lock of a device. -/
def Task.locks (deviceId : Str) : Task → Bool
  | .inserting id _ _ | .inserted id _ => id == deviceId
  | _ => false

/-- Whether a call is a `bind_ip` of an address. -/
def Task.binds (ip : Str) : Task → Bool
  | .binding _ ip' | .bindWriting _ ip' _ | .bound _ ip' _ => ip' == ip
  | _ => false

variable (selfConnection : Str → Bool)

/-- A call up to its first await; the proxy's own connections are no devices, and a kept index answers at once. -/
def start (s : System) : Call → Option Task
  | .bindIp deviceId ip => some (.binding deviceId ip)
  | .handleDeviceSeen clientIp sni columns =>
    if selfConnection clientIp then none
    else some (.creating (deviceIdFromIp clientIp) columns (some ⟨clientIp, sni⟩))
  | .getOrCreateDevice deviceId columns => some (.creating deviceId columns none)
  | .resolveDeviceId ip => if s.ipLookupCache.isSome then none else some (.resolving ip)

/-- A call from one await to the next: the system it leaves, and what it does then, if it has not returned. -/
def advance (s : System) (now : Int) : Task → System × Option Task
  | .creating deviceId columns sighting =>
    if s.rows.has deviceId then (s, some (.opening sighting)) else (s, some (.inserting deviceId columns sighting))
  | .inserting deviceId columns sighting =>
    ({ s with rows := s.rows.setDefault deviceId { columns := columns } }, some (.inserted deviceId sighting))
  | .inserted _ sighting => ({ s with ipLookupCache := none }, some (.opening sighting))
  | .opening sighting => (s, sighting.map .sighted)
  | .sighted sighting =>
    match s.rows.get? (deviceIdFromIp sighting.clientIp) with
    | none     => (s, none)
    | some row =>
      if (seen row sighting.clientIp sighting.sni now).isSome then (s, some (.marking sighting row now)) else (s, none)
  | .marking sighting row now =>
    match seen row sighting.clientIp sighting.sni now with
    | none   => (s, none)
    | some f => ({ s with rows := s.rows.modify (deviceIdFromIp sighting.clientIp) f }, some .marked)
  | .marked => ({ s with ipLookupCache := none }, none)
  | .binding deviceId ip => if s.rows.has deviceId then (s, some (.bindWriting deviceId ip s.rows)) else (s, none)
  | .bindWriting deviceId ip read =>
    let changes := bindChanges read deviceId ip
    ({ s with rows := assignIps s.rows changes }, some (.bound deviceId ip (!changes.isEmpty)))
  | .bound _ _ changed => (if changed then { s with ipLookupCache := none } else s, none)
  | .resolving ip => (s, some (.indexing ip (ipIndex s.rows)))
  | .indexing ip index => ({ s with ipLookupCache := some index }, some (.closing ip))
  | .closing _ => (s, none)

/-- A call that has not returned is kept under its number. -/
def System.keep (s : System) (id : Nat) : Option Task → System
  | some task => { s with tasks := s.tasks.set id task }
  | none      => { s with tasks := s.tasks.erase id }

/-- One event. A number in use starts nothing, and a creation waits for its device's lock. -/
def System.step (s : System) : Event → Option System
  | .begin id call => if s.tasks.has id then none else some (s.keep id (start selfConnection s call))
  | .resume id now =>
    match s.tasks.get? id with
    | none => none
    | some (.creating deviceId columns sighting) =>
      if s.tasks.any fun entry => entry.2.locks deviceId then none
      else
        let (s', task) := advance s now (.creating deviceId columns sighting)
        some (s'.keep id task)
    | some task =>
      let (s', task') := advance s now task
      some (s'.keep id task')

/-- What a lookup returns at an event, with its address. The index that was kept may be gone again when the
    session has closed; then the lookup raises. -/
def answer (s : System) : Event → Option (Str × Result (Option Str))
  | .begin _ (.resolveDeviceId ip) => s.ipLookupCache.map fun index => (ip, .ok (index.get? ip))
  | .resume id _ =>
    match s.tasks.get? id with
    | some (.closing ip) =>
      match s.ipLookupCache with
      | some index => some (ip, .ok (index.get? ip))
      | none       => some (ip, .error .attributeError)
    | _ => none
  | _ => none

/-! ## The operators' book -/

/-- The system, the device that the last committed `bind_ip` gave each address to, and what each lookup under
    way owes, with its address. -/
structure Watched where
  sys : System
  owner : Dict Str Str := []
  due : Dict Nat (Str × Str) := []

/-- The device a lookup owes for an address: its owner, unless the address is just being bound. -/
def Watched.promised (w : Watched) (ip : Str) : Option Str :=
  if w.sys.tasks.any fun entry => entry.2.binds ip then none else w.owner.get? ip

/-- What the lookup that answers at an event owes. -/
def Watched.owed (w : Watched) : Event → Option Str
  | .begin _ (.resolveDeviceId ip) => w.promised ip
  | .resume id _ => (w.due.get? id).map Prod.snd
  | _ => none

/-- One event, with the book. A `bind_ip` that starts releases the lookups of its address; one that commits
    makes its device the owner. -/
def step (w : Watched) (e : Event) : Option Watched :=
  (w.sys.step selfConnection e).map fun s =>
    match e with
    | .begin id (.resolveDeviceId ip) =>
      match w.promised ip with
      | some deviceId => if s.tasks.has id then { w with sys := s, due := w.due.set id (ip, deviceId) } else { w with sys := s }
      | none          => { w with sys := s }
    | .begin _ (.bindIp _ ip) => { w with sys := s, due := w.due.filter fun entry => entry.2.1 ≠ ip }
    | .begin _ _ => { w with sys := s }
    | .resume id _ =>
      match w.sys.tasks.get? id with
      | some (.bindWriting deviceId ip _) => { w with sys := s, owner := w.owner.set ip deviceId }
      | some (.closing _)                 => { w with sys := s, due := w.due.erase id }
      | _                                 => { w with sys := s }

/-- No address is listed by two devices. -/
def OneHolder (rows : Rows) : Prop :=
  ∀ row ∈ rows, ∀ row' ∈ rows, ∀ ip ∈ row.2.ipAddresses, ip ∈ row'.2.ipAddresses → row.1 = row'.1

/-- A registry to start from: distinct devices, and one holder for each address. -/
structure Registered where
  rows : Rows
  distinct : rows.keys.Nodup
  oneHolder : OneHolder rows

/-- Nothing is under way, and nothing was bound yet. -/
def init (r : Registered) : Watched := { sys := { rows := r.rows } }

/-- What an event owes: it leaves each address with one holder, and the lookup that returns at it names the
    address's owner. -/
def Kept (w : Watched) (e : Event) : Prop :=
  (∀ w', step selfConnection w e = some w' → OneHolder w'.sys.rows) ∧
  ∀ ip result, answer w.sys e = some (ip, result) → ∀ deviceId, w.owed e = some deviceId → result = .ok (some deviceId)

end RideTheApi.Registry.Addresses
