import RideTheApi.Py.Codec

/-!
# `Tls.ClientHello` — the server name out of the first bytes of a TLS connection

The reader collects bytes until they hold a whole ClientHello; the parser puts the handshake message together from its
records and walks it by position. A read past the end raises, and so does a loop that would not end: that neither
happens is proved, not assumed (`Tls.ClientHelloSafety`).
-/

namespace RideTheApi.Tls

open Py

def tlsHandshake : Nat := 0x16
def tlsClientHello : Nat := 0x01
def tlsExtensionSni : Nat := 0x0000
def tlsRecordHeaderSize : Nat := 5
def tlsHandshakeHeaderSize : Nat := 4
def tlsMaxRecordSize : Nat := 18432
def tlsSniListLengthSize : Nat := 2
def maxClientHelloSize : Nat := 64 * 1024

/-! ## Reads -/

/-- How a walk over the bytes goes wrong. -/
inductive ReadError where
  | indexError
  | structError
  /-- The loop takes more steps than there are bytes. -/
  | endless
deriving DecidableEq, Repr

/-- `data[pos]`. -/
def byteAt (data : Bytes) (pos : Nat) : Except ReadError Nat :=
  match data.drop pos with
  | b :: _ => .ok b.val
  | []     => .error .indexError

/-- `struct.unpack("!H", data[pos : pos + 2])[0]`. -/
def u16At (data : Bytes) (pos : Nat) : Except ReadError Nat :=
  match data.drop pos with
  | a :: b :: _ => .ok (0x100 * a.val + b.val)
  | _           => .error .structError

/-- `data[start : stop]`. -/
def slice (data : Bytes) (start stop : Nat) : Bytes := (data.drop start).take (stop - start)

/-! ## The handshake message -/

/-- What the handshake bytes so far settle; `none` while more records are needed. -/
def settled (handshake : Bytes) : Except ReadError (Option (Bool × Option Bytes)) := do
  let other ← if handshake = [] then pure false else (· != tlsClientHello) <$> byteAt handshake 0
  if other then
    return some (true, none)
  else if handshake.length ≥ tlsHandshakeHeaderSize then
    let high ← byteAt handshake 1
    let middle ← byteAt handshake 2
    let low ← byteAt handshake 3
    let messageLen := tlsHandshakeHeaderSize + (0x10000 * high + 0x100 * middle + low)
    if messageLen > maxClientHelloSize then return some (true, none)
    else if handshake.length ≥ messageLen then return some (true, some (handshake.take messageLen))
    else return none
  else return none

/-- The loop of `_client_hello_message` over the records. -/
def recordLoop (data : Bytes) : Nat → Nat → Bytes → Except ReadError (Bool × Option Bytes)
  | 0, _, _                            => .error .endless
  | fuel + 1, recordPos, handshake =>
    if data.length - recordPos < tlsRecordHeaderSize then .ok (false, none)
    else do
      let contentType ← byteAt data recordPos
      if contentType ≠ tlsHandshake then return (true, none)
      else
        let recordLen ← u16At data (recordPos + 3)
        if recordLen = 0 ∨ recordLen > tlsMaxRecordSize then return (true, none)
        else
          let recordEnd := recordPos + tlsRecordHeaderSize + recordLen
          if recordEnd > data.length then return (false, none)
          else
            let handshake := handshake ++ slice data (recordPos + tlsRecordHeaderSize) recordEnd
            match ← settled handshake with
            | some result => return result
            | none        => recordLoop data fuel recordEnd handshake

/-- `_client_hello_message`. -/
def clientHelloMessage (data : Bytes) : Except ReadError (Bool × Option Bytes) :=
  recordLoop data (data.length + 1) 0 []

/-! ## The server name -/

/-- Past a vector with a length of one byte; `none` where the bytes end before the length. -/
def skipVector8 (hello : Bytes) (pos : Nat) : Except ReadError (Option Nat) :=
  if pos ≥ hello.length then .ok none else (fun n => some (pos + 1 + n)) <$> byteAt hello pos

/-- Past a vector with a length of two bytes. -/
def skipVector16 (hello : Bytes) (pos : Nat) : Except ReadError (Option Nat) :=
  if pos + 2 > hello.length then .ok none else (fun n => some (pos + 2 + n)) <$> u16At hello pos

/-- The loop over the names of a `server_name` extension. -/
def nameLoop (hello : Bytes) (nameListEnd : Nat) : Nat → Nat → Except ReadError (Option Str)
  | 0, _             => .error .endless
  | fuel + 1, namePos =>
    if namePos + 3 ≤ nameListEnd then do
      let nameType ← byteAt hello namePos
      let nameLen ← u16At hello (namePos + 1)
      let nameStart := namePos + 3
      if nameStart + nameLen > nameListEnd then return none
      else if nameType = 0x00 ∧ nameLen ≠ 0 then
        return some (decodeUtf8Replace (slice hello nameStart (nameStart + nameLen)))
      else nameLoop hello nameListEnd fuel (nameStart + nameLen)
    else .ok none

/-- The names of a `server_name` extension whose data begins at `pos`. -/
def nameList (hello : Bytes) (pos extensionEnd : Nat) : Except ReadError (Option Str) := do
  let nameListLen ← u16At hello pos
  let nameListEnd := pos + 2 + nameListLen
  if nameListEnd > extensionEnd then return none else nameLoop hello nameListEnd (hello.length + 1) (pos + 2)

/-- The loop over the extensions. -/
def extensionLoop (hello : Bytes) (extensionsEnd : Nat) : Nat → Nat → Except ReadError (Option Str)
  | 0, _         => .error .endless
  | fuel + 1, pos =>
    if pos + 4 ≤ extensionsEnd then do
      let extensionType ← u16At hello pos
      let extensionLen ← u16At hello (pos + 2)
      let extensionEnd := pos + 4 + extensionLen
      if extensionEnd > extensionsEnd then return none
      else if extensionType = tlsExtensionSni ∧ extensionLen ≥ tlsSniListLengthSize then
        nameList hello (pos + 4) extensionEnd
      else extensionLoop hello extensionsEnd fuel extensionEnd
    else .ok none

/-- The extensions, whose length stands at `pos`. -/
def extensionsSni (hello : Bytes) (pos : Nat) : Except ReadError (Option Str) :=
  if pos + 2 > hello.length then .ok none
  else do
    let extensionsLen ← u16At hello pos
    let extensionsEnd := pos + 2 + extensionsLen
    if extensionsEnd > hello.length then return none
    else extensionLoop hello extensionsEnd (hello.length + 1) (pos + 2)

/-- The walk of a ClientHello: version and random are 34 bytes, then come the session id, the cipher suites, the
    compression methods and the extensions. -/
def helloSni (hello : Bytes) : Except ReadError (Option Str) := do
  let some ciphersPos ← skipVector8 hello 34 | return none
  let some compressionsPos ← skipVector16 hello ciphersPos | return none
  let some extensionsPos ← skipVector8 hello compressionsPos | return none
  extensionsSni hello extensionsPos

/-- `extract_sni_from_client_hello`. -/
def extractSniFromClientHello (data : Bytes) : Except ReadError (Option Str) := do
  match ← clientHelloMessage data with
  | (true, some message) => helloSni (message.drop 4)
  | _                    => return none

/-! ## The bytes as they arrive -/

/-- `reader.read(n)`: what has come, up to `n` bytes, and what is still to be read. Nothing is the end. -/
def read (n : Nat) : List Bytes → Bytes × List Bytes
  | []              => ([], [])
  | chunk :: chunks => if chunk.length ≤ n then (chunk, chunks) else (chunk.take n, chunk.drop n :: chunks)

/-- The loop of `_read_complete_client_hello`. -/
def gather : Nat → Bytes → List Bytes → Except ReadError Bytes
  | 0, _, _                  => .error .endless
  | fuel + 1, data, chunks =>
    if data.length < maxClientHelloSize then do
      let (complete, _) ← clientHelloMessage data
      if complete then return data
      else
        let (more, chunks) := read (min 4096 (maxClientHelloSize - data.length)) chunks
        if more = [] then return data else gather fuel (data ++ more) chunks
    else .ok data

/-- `_read_complete_client_hello`. -/
def readCompleteClientHello (chunks : List Bytes) (initialData : Bytes) : Except ReadError Bytes :=
  gather (maxClientHelloSize + 1) (initialData.take maxClientHelloSize) chunks

end RideTheApi.Tls
