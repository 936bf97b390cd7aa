import RideTheApi.Tls.ClientHelloSafety

/-!
# `Tls.HelloExact` — the server name of a well-formed ClientHello

A ClientHello is its fields, with the lengths that make each fit its prefix; its records carry the message cut anywhere.
Walked from the position where an encoding stands, each loop of the parser gives what the encoding says (`At`). So the
server name is found, and what decides is whether the records fit.
-/

namespace RideTheApi.Tls

open Py

/-! ## Encodings -/

def u16 (n : Nat) : Bytes := [Fin.ofNat 256 (n / 0x100), Fin.ofNat 256 n]

def u24 (n : Nat) : Bytes := [Fin.ofNat 256 (n / 0x10000), Fin.ofNat 256 (n / 0x100), Fin.ofNat 256 n]

/-- A name of a `server_name` extension; a host name is of type 0. -/
structure ServerName where
  nameType : Byte
  name : Bytes
  fits : name.length < 2 ^ 16

def ServerName.bytes (n : ServerName) : Bytes := n.nameType :: (u16 n.name.length ++ n.name)

def encodeNames (names : List ServerName) : Bytes := names.flatMap ServerName.bytes

inductive Extension where
  | serverName (names : List ServerName) (fits : (encodeNames names).length + 2 < 2 ^ 16)
  | other (extensionType : Nat) (data : Bytes) (notSni : extensionType ≠ tlsExtensionSni)
      (isType : extensionType < 2 ^ 16) (fits : data.length < 2 ^ 16)

def Extension.extensionType : Extension → Nat
  | .serverName _ _       => tlsExtensionSni
  | .other type _ _ _ _   => type

def Extension.data : Extension → Bytes
  | .serverName names _   => u16 (encodeNames names).length ++ encodeNames names
  | .other _ data _ _ _   => data

def Extension.bytes (e : Extension) : Bytes := u16 e.extensionType ++ (u16 e.data.length ++ e.data)

def encodeExtensions (extensions : List Extension) : Bytes := extensions.flatMap Extension.bytes

/-- A ClientHello. One without extensions ends after the compression methods. -/
structure ClientHello where
  version : Byte × Byte
  random : Bytes
  sessionId : Bytes
  cipherSuites : Bytes
  compressions : Bytes
  extensions : Option (List Extension)
  random_length : random.length = 32
  sessionId_fits : sessionId.length < 2 ^ 8
  cipherSuites_fit : cipherSuites.length < 2 ^ 16
  compressions_fit : compressions.length < 2 ^ 8
  extensions_fit : ∀ es ∈ extensions, (encodeExtensions es).length < 2 ^ 16

namespace ClientHello

def encodedExtensions (hello : ClientHello) : Bytes :=
  match hello.extensions with
  | none    => []
  | some es => u16 (encodeExtensions es).length ++ encodeExtensions es

def bytes (hello : ClientHello) : Bytes :=
  hello.version.1 :: hello.version.2 :: (hello.random ++
    (Fin.ofNat 256 hello.sessionId.length :: (hello.sessionId ++
      (u16 hello.cipherSuites.length ++ (hello.cipherSuites ++
        (Fin.ofNat 256 hello.compressions.length :: (hello.compressions ++ hello.encodedExtensions)))))))

/-- The handshake message. -/
def message (hello : ClientHello) : Bytes := 1 :: (u24 hello.bytes.length ++ hello.bytes)

end ClientHello

/-- The first host name that is not empty. -/
def firstHostName (names : List ServerName) : Option Str :=
  (names.find? fun n => n.nameType.val = 0 ∧ n.name.length ≠ 0).map fun n => decodeUtf8Replace n.name

def Extension.names : Extension → Option (List ServerName)
  | .serverName names _ => some names
  | .other _ _ _ _ _    => none

/-- The host name of the first `server_name` extension. -/
def firstServerName (extensions : List Extension) : Option Str :=
  (extensions.findSome? Extension.names).bind firstHostName

def ClientHello.hostName (hello : ClientHello) : Option Str := firstServerName (hello.extensions.getD [])

/-- A record that carries a part of a handshake message. -/
structure Record where
  version : Byte × Byte
  fragment : Bytes
  nonempty : fragment ≠ []
  fits : fragment.length ≤ tlsMaxRecordSize

def Record.bytes (r : Record) : Bytes :=
  0x16 :: r.version.1 :: r.version.2 :: (u16 r.fragment.length ++ r.fragment)

def fragments (records : List Record) : Bytes := records.flatMap Record.fragment

def wire (records : List Record) : Bytes := records.flatMap Record.bytes

/-- A ClientHello on its way in: its records, then anything, cut into reads. -/
structure Arrival where
  hello : ClientHello
  records : List Record
  after : Bytes
  initialData : Bytes
  chunks : List Bytes
  bounded : hello.message.length ≤ maxClientHelloSize
  recordsCarry : fragments records = hello.message
  readsCarry : initialData ++ chunks.flatten = wire records ++ after
  chunks_nonempty : ∀ chunk ∈ chunks, chunk ≠ []

/-! ## Walking from where an encoding stands -/

/-- What stands at a position. -/
def At (data : Bytes) (pos : Nat) (rest : Bytes) : Prop := pos ≤ data.length ∧ data.drop pos = rest

section
variable {data rest bs : Bytes} {pos n : Nat}

theorem At.length_eq (h : At data pos rest) : data.length = pos + rest.length := by
  obtain ⟨hpos, rfl⟩ := h
  rw [List.length_drop]
  omega

theorem At.byteAt {b : Byte} (h : At data pos (b :: rest)) : byteAt data pos = .ok b.val := by
  unfold Tls.byteAt
  rw [h.2]

theorem At.u16At (hn : n < 2 ^ 16) (h : At data pos (u16 n ++ rest)) : u16At data pos = .ok n := by
  unfold Tls.u16At
  rw [h.2]
  show Except.ok (0x100 * (n / 0x100 % 256) + n % 256) = _
  congr 1
  omega

theorem At.skip (h : At data pos (bs ++ rest)) (hn : n = bs.length) : At data (pos + n) rest := by
  have hlen := h.length_eq
  rw [List.length_append] at hlen
  refine ⟨by omega, ?_⟩
  rw [← List.drop_drop, h.2, hn, List.drop_left]

theorem At.next {b : Byte} (h : At data pos (b :: rest)) : At data (pos + 1) rest :=
  (show At data pos ([b] ++ rest) from h).skip rfl

theorem At.slice (h : At data pos (bs ++ rest)) (hn : n = pos + bs.length) : slice data pos n = bs := by
  unfold Tls.slice
  rw [h.2, hn, Nat.add_sub_cancel_left, List.take_left]

end

/-! ## The extensions -/

theorem ServerName.length_bytes (n : ServerName) : n.bytes.length = n.name.length + 3 := by
  simp [ServerName.bytes, u16]

theorem Extension.length_bytes (e : Extension) : e.bytes.length = e.data.length + 4 := by
  simp [Extension.bytes, u16]

theorem encodeNames_cons (n : ServerName) (names : List ServerName) :
    encodeNames (n :: names) = n.bytes ++ encodeNames names := rfl

theorem encodeExtensions_cons (e : Extension) (es : List Extension) :
    encodeExtensions (e :: es) = e.bytes ++ encodeExtensions es := rfl

theorem length_le_encodeNames (names : List ServerName) : names.length ≤ (encodeNames names).length := by
  induction names with
  | nil => exact Nat.le_refl _
  | cons n names ih =>
    rw [encodeNames_cons, List.length_append, n.length_bytes, List.length_cons]
    omega

theorem length_le_encodeExtensions (es : List Extension) : es.length ≤ (encodeExtensions es).length := by
  induction es with
  | nil => exact Nat.le_refl _
  | cons e es ih =>
    rw [encodeExtensions_cons, List.length_append, e.length_bytes, List.length_cons]
    omega

theorem nameLoop_names {hello rest : Bytes} {pos nameListEnd fuel : Nat} {names : List ServerName}
    (hat : At hello pos (encodeNames names ++ rest)) (hend : nameListEnd = pos + (encodeNames names).length)
    (hfuel : names.length < fuel) : nameLoop hello nameListEnd fuel pos = .ok (firstHostName names) := by
  induction names generalizing pos fuel with
  | nil =>
    obtain ⟨fuel, rfl⟩ : ∃ k, fuel = k + 1 := ⟨fuel - 1, by simp at hfuel; omega⟩
    rw [nameLoop, if_neg (by rw [hend]; simp [encodeNames])]
    rfl
  | cons n names ih =>
    obtain ⟨fuel, rfl⟩ : ∃ k, fuel = k + 1 := ⟨fuel - 1, by simp at hfuel; omega⟩
    have hlen : (encodeNames (n :: names)).length = n.name.length + 3 + (encodeNames names).length := by
      rw [encodeNames_cons, List.length_append, n.length_bytes]
    rw [encodeNames_cons] at hat
    have hbytes : At hello pos (n.nameType :: (u16 n.name.length ++ (n.name ++ (encodeNames names ++ rest)))) := by
      simpa [ServerName.bytes] using hat
    have hname : At hello (pos + 3) (n.name ++ (encodeNames names ++ rest)) :=
      At.skip (n := 2) hbytes.next rfl
    rw [nameLoop, if_pos (by omega)]
    simp only [hbytes.byteAt, hbytes.next.u16At n.fits, bind, Except.bind, pure, Except.pure]
    rw [if_neg (by omega)]
    by_cases hhost : n.nameType.val = 0 ∧ n.name.length ≠ 0
    · rw [if_pos hhost, hname.slice rfl]
      unfold firstHostName
      rw [List.find?_cons_of_pos (by simpa using hhost)]
      rfl
    · rw [if_neg hhost, ih (hname.skip rfl) (by omega) (by simp at hfuel; omega)]
      unfold firstHostName
      rw [List.find?_cons_of_neg (by simpa using hhost)]

theorem nameList_names {hello rest : Bytes} {pos : Nat} {names : List ServerName}
    (fits : (encodeNames names).length + 2 < 2 ^ 16)
    (hat : At hello pos (u16 (encodeNames names).length ++ (encodeNames names ++ rest))) :
    nameList hello pos (pos + 2 + (encodeNames names).length) = .ok (firstHostName names) := by
  have hnames : At hello (pos + 2) (encodeNames names ++ rest) := hat.skip rfl
  have hlen := hnames.length_eq
  have hle := length_le_encodeNames names
  rw [List.length_append] at hlen
  unfold nameList
  simp only [hat.u16At (show (encodeNames names).length < 2 ^ 16 by omega), bind, Except.bind, pure, Except.pure]
  rw [if_neg (by omega), nameLoop_names hnames rfl (by omega)]

theorem Extension.type_lt (e : Extension) : e.extensionType < 2 ^ 16 := by
  cases e with
  | serverName names fits => exact Nat.two_pow_pos 16
  | other type data notSni isType fits => exact isType

theorem Extension.data_lt (e : Extension) : e.data.length < 2 ^ 16 := by
  cases e with
  | serverName names fits =>
    show (u16 _ ++ encodeNames names).length < _
    rw [List.length_append]
    simp only [u16, List.length_cons, List.length_nil]
    omega
  | other type data notSni isType fits => exact fits

theorem extensionLoop_extensions {hello : Bytes} {pos fuel : Nat} {es : List Extension}
    (hat : At hello pos (encodeExtensions es)) (hfuel : es.length < fuel) :
    extensionLoop hello hello.length fuel pos = .ok (firstServerName es) := by
  induction es generalizing pos fuel with
  | nil =>
    obtain ⟨fuel, rfl⟩ : ∃ k, fuel = k + 1 := ⟨fuel - 1, by simp at hfuel; omega⟩
    have hlen := hat.length_eq
    rw [extensionLoop, if_neg (by rw [hlen]; simp [encodeExtensions])]
    rfl
  | cons e es ih =>
    obtain ⟨fuel, rfl⟩ : ∃ k, fuel = k + 1 := ⟨fuel - 1, by simp at hfuel; omega⟩
    have hlen := hat.length_eq
    rw [encodeExtensions_cons, List.length_append, e.length_bytes] at hlen
    have hbytes : At hello pos (u16 e.extensionType ++ (u16 e.data.length ++ (e.data ++ encodeExtensions es))) := by
      simpa [encodeExtensions_cons, Extension.bytes] using hat
    have hlength : At hello (pos + 2) (u16 e.data.length ++ (e.data ++ encodeExtensions es)) := hbytes.skip rfl
    have hdata : At hello (pos + 4) (e.data ++ encodeExtensions es) := At.skip (n := 2) hlength rfl
    rw [extensionLoop, if_pos (by omega)]
    simp only [hbytes.u16At e.type_lt, hlength.u16At e.data_lt, bind, Except.bind, pure, Except.pure]
    rw [if_neg (by omega)]
    cases e with
    | serverName names fits =>
      have hlist : (Extension.serverName names fits).data.length = 2 + (encodeNames names).length := by
        simp [Extension.data, u16]
        omega
      have hnames : At hello (pos + 4)
          (u16 (encodeNames names).length ++ (encodeNames names ++ encodeExtensions es)) := by
        simpa [Extension.data] using hdata
      rw [hlist, if_pos ⟨rfl, Nat.le_add_right _ _⟩, ← Nat.add_assoc, nameList_names fits hnames]
      rfl
    | other type data notSni isType fits =>
      rw [if_neg (fun h => notSni h.1), ih (hdata.skip rfl) (by simp at hfuel; omega)]
      rfl

/-! ## The hello -/

theorem At.skipVector8 {hello bs rest : Bytes} {pos : Nat} (hfits : bs.length < 2 ^ 8)
    (h : At hello pos (Fin.ofNat 256 bs.length :: (bs ++ rest))) :
    skipVector8 hello pos = .ok (some (pos + 1 + bs.length)) ∧ At hello (pos + 1 + bs.length) rest := by
  have hlen := h.length_eq
  rw [List.length_cons] at hlen
  refine ⟨?_, h.next.skip rfl⟩
  have hval : (Fin.ofNat 256 bs.length).val = bs.length := Nat.mod_eq_of_lt hfits
  unfold Tls.skipVector8
  rw [if_neg (by omega), h.byteAt, hval]
  rfl

theorem At.skipVector16 {hello bs rest : Bytes} {pos : Nat} (hfits : bs.length < 2 ^ 16)
    (h : At hello pos (u16 bs.length ++ (bs ++ rest))) :
    skipVector16 hello pos = .ok (some (pos + 2 + bs.length)) ∧ At hello (pos + 2 + bs.length) rest := by
  have hbody : At hello (pos + 2) (bs ++ rest) := h.skip rfl
  have hlen := hbody.length_eq
  refine ⟨?_, hbody.skip rfl⟩
  unfold Tls.skipVector16
  rw [if_neg (by omega), h.u16At hfits]
  rfl

theorem extensionsSni_encoded {hello : ClientHello} {pos : Nat} (h : At hello.bytes pos hello.encodedExtensions) :
    extensionsSni hello.bytes pos = .ok hello.hostName := by
  have hlen := h.length_eq
  unfold extensionsSni ClientHello.hostName
  unfold ClientHello.encodedExtensions at h hlen
  cases hext : hello.extensions with
  | none =>
    simp only [hext, List.length_nil] at hlen
    rw [if_pos (by omega)]
    rfl
  | some es =>
    simp only [hext] at h hlen
    have hfits := hello.extensions_fit es hext
    have hbody : At hello.bytes (pos + 2) (encodeExtensions es) := h.skip rfl
    have hend := hbody.length_eq
    have hle := length_le_encodeExtensions es
    rw [if_neg (by omega)]
    simp only [h.u16At hfits, bind, Except.bind, pure, Except.pure]
    rw [if_neg (by omega), ← hend, extensionLoop_extensions hbody (by omega)]
    rfl

theorem helloSni_bytes (hello : ClientHello) : helloSni hello.bytes = .ok hello.hostName := by
  have hstart : At hello.bytes 0 hello.bytes := ⟨Nat.zero_le _, rfl⟩
  have hsession : At hello.bytes 34 (Fin.ofNat 256 hello.sessionId.length :: (hello.sessionId ++
      (u16 hello.cipherSuites.length ++ (hello.cipherSuites ++
        (Fin.ofNat 256 hello.compressions.length :: (hello.compressions ++ hello.encodedExtensions)))))) :=
    hstart.next.next.skip (n := 32) hello.random_length.symm
  obtain ⟨hskip, hciphers⟩ := hsession.skipVector8 hello.sessionId_fits
  obtain ⟨hskip', hcompressions⟩ := hciphers.skipVector16 hello.cipherSuites_fit
  obtain ⟨hskip'', hextensions⟩ := hcompressions.skipVector8 hello.compressions_fit
  unfold helloSni
  simp only [hskip, hskip', hskip'', bind, Except.bind]
  exact extensionsSni_encoded hextensions

/-! ## The records -/

theorem ClientHello.length_message (hello : ClientHello) : hello.message.length = 4 + hello.bytes.length := by
  simp [ClientHello.message, u24]
  omega

theorem ClientHello.length_bytes (hello : ClientHello) : hello.bytes.length = hello.sessionId.length +
    hello.cipherSuites.length + hello.compressions.length + hello.encodedExtensions.length + 38 := by
  simp [ClientHello.bytes, u16, hello.random_length]
  omega

theorem message_ne_nil (hello : ClientHello) : hello.message ≠ [] := List.cons_ne_nil _ _

/-- What part of a message the records have carried is settled once it is all of it. -/
theorem settled_part {hello : ClientHello} (hfits : hello.message.length ≤ maxClientHelloSize) {part rest : Bytes}
    (h : part ++ rest = hello.message) :
    settled part = .ok (if rest = [] then some (true, some hello.message) else none) := by
  have hlen := hello.length_message
  have hat : ∀ {pos b tail}, At hello.message pos (b :: tail) → pos < part.length → byteAt part pos = .ok b.val := by
    intro pos b tail hat hpos
    rw [← byteAt_append rest hpos, h]
    exact hat.byteAt
  have hstart : At hello.message 0 hello.message := ⟨Nat.zero_le _, rfl⟩
  have hsum : part.length + rest.length = hello.message.length := by rw [← h, List.length_append]
  unfold settled
  by_cases hempty : part = []
  · subst hempty
    have hrest : rest ≠ [] := by
      rintro rfl
      exact message_ne_nil hello h.symm
    rw [if_neg hrest]
    rfl
  · have hpos : 0 < part.length := List.length_pos_of_ne_nil hempty
    by_cases hfour : part.length ≥ tlsHandshakeHeaderSize
    · have hfour' : 4 ≤ part.length := hfour
      have hlength : tlsHandshakeHeaderSize + (0x10000 * (Fin.ofNat 256 (hello.bytes.length / 0x10000)).val +
          0x100 * (Fin.ofNat 256 (hello.bytes.length / 0x100)).val + (Fin.ofNat 256 hello.bytes.length).val) =
          hello.message.length := by
        show 4 + (0x10000 * (hello.bytes.length / 0x10000 % 256) + 0x100 * (hello.bytes.length / 0x100 % 256) +
          hello.bytes.length % 256) = _
        unfold maxClientHelloSize at hfits
        omega
      simp only [hempty, hat hstart hpos, hat hstart.next (show 1 < part.length by omega),
        hat hstart.next.next (show 2 < part.length by omega), hat hstart.next.next.next (show 3 < part.length by omega),
        hfour, hlength, if_false, if_true, bind, Except.bind, pure, Except.pure, Functor.map, Except.map]
      rw [if_neg (show ¬((1 : Byte).val != tlsClientHello) = true by decide), if_neg (Nat.not_lt.mpr hfits)]
      by_cases hrest : rest = []
      · rw [hrest, List.append_nil] at h
        rw [if_pos hrest, h, if_pos (Nat.le_refl _), List.take_length]
      · have hrestPos := List.length_pos_of_ne_nil hrest
        rw [if_neg hrest, if_neg (by omega)]
    · have hrest : rest ≠ [] := by
        rintro rfl
        rw [List.length_nil] at hsum
        unfold tlsHandshakeHeaderSize at hfour
        omega
      simp only [hempty, hat hstart hpos, hfour, hrest, if_false, bind, Except.bind, pure, Except.pure, Functor.map,
        Except.map]
      rw [if_neg (show ¬((1 : Byte).val != tlsClientHello) = true by decide)]

theorem Record.length_bytes (r : Record) : r.bytes.length = r.fragment.length + 5 := by
  simp [Record.bytes, u16]

theorem wire_cons (r : Record) (records : List Record) : wire (r :: records) = r.bytes ++ wire records := rfl

theorem fragments_cons (r : Record) (records : List Record) :
    fragments (r :: records) = r.fragment ++ fragments records := rfl

theorem length_wire (records : List Record) :
    (wire records).length = (fragments records).length + 5 * records.length := by
  induction records with
  | nil => rfl
  | cons r records ih =>
    rw [wire_cons, fragments_cons, List.length_append, List.length_append, r.length_bytes, ih, List.length_cons]
    omega

theorem fragments_eq_nil {records : List Record} : fragments records = [] ↔ records = [] := by
  cases records with
  | nil => simp [fragments]
  | cons r records => simp [fragments_cons, r.nonempty]

/-- One record of a message, as the loop reads it. -/
theorem recordLoop_record {hello : ClientHello} (hfits : hello.message.length ≤ maxClientHelloSize)
    {data handshake rest : Bytes} {r : Record} {records : List Record} {pos fuel : Nat}
    (hat : At data pos (r.bytes ++ rest)) (h : handshake ++ fragments (r :: records) = hello.message) :
    recordLoop data (fuel + 1) pos handshake =
      if records = [] then .ok (true, some hello.message)
      else recordLoop data fuel (pos + (r.fragment.length + 5)) (handshake ++ r.fragment) := by
  have hlen := hat.length_eq
  rw [List.length_append, r.length_bytes] at hlen
  have hbytes : At data pos (0x16 :: r.version.1 :: r.version.2 ::
      (u16 r.fragment.length ++ (r.fragment ++ rest))) := by
    simpa [Record.bytes] using hat
  have hlength := hbytes.next.next.next
  have hfragment : At data (pos + tlsRecordHeaderSize) (r.fragment ++ rest) := At.skip (n := 2) hlength rfl
  have hnonempty := List.length_pos_of_ne_nil r.nonempty
  have hsize : r.fragment.length ≤ 18432 := r.fits
  have hend : pos + tlsRecordHeaderSize + r.fragment.length = pos + (r.fragment.length + 5) := by
    unfold tlsRecordHeaderSize
    omega
  rw [fragments_cons, ← List.append_assoc] at h
  rw [recordLoop, if_neg (show ¬data.length - pos < tlsRecordHeaderSize by unfold tlsRecordHeaderSize; omega)]
  simp only [hbytes.byteAt, hlength.u16At (show r.fragment.length < 2 ^ 16 by omega), bind, Except.bind, pure,
    Except.pure]
  rw [if_neg (show ¬((0x16 : Byte).val ≠ tlsHandshake) by decide),
    if_neg (show ¬(r.fragment.length = 0 ∨ r.fragment.length > tlsMaxRecordSize) by unfold tlsMaxRecordSize; omega),
    if_neg (show ¬pos + tlsRecordHeaderSize + r.fragment.length > data.length by rw [hend]; omega),
    hfragment.slice rfl, settled_part hfits h, hend]
  by_cases hrecords : records = []
  · rw [if_pos (fragments_eq_nil.mpr hrecords), if_pos hrecords]
  · rw [if_neg (fun hnil => hrecords (fragments_eq_nil.mp hnil)), if_neg hrecords]

theorem recordLoop_wire {hello : ClientHello} (hfits : hello.message.length ≤ maxClientHelloSize)
    {data handshake rest : Bytes} {records : List Record} {pos fuel : Nat} (hat : At data pos (wire records ++ rest))
    (h : handshake ++ fragments records = hello.message) (hne : records ≠ []) (hfuel : records.length ≤ fuel) :
    recordLoop data fuel pos handshake = .ok (true, some hello.message) := by
  induction records generalizing pos handshake fuel with
  | nil => exact absurd rfl hne
  | cons r records ih =>
    obtain ⟨fuel, rfl⟩ : ∃ k, fuel = k + 1 := ⟨fuel - 1, by simp at hfuel; omega⟩
    rw [wire_cons, List.append_assoc] at hat
    rw [recordLoop_record hfits hat h]
    by_cases hrecords : records = []
    · rw [if_pos hrecords]
    · rw [if_neg hrecords]
      refine ih (hat.skip r.length_bytes.symm) ?_ hrecords (by simp at hfuel; omega)
      rw [List.append_assoc, ← fragments_cons]
      exact h

theorem At.append (more : Bytes) {data rest : Bytes} {pos : Nat} (h : At data pos rest) :
    At (data ++ more) pos (rest ++ more) := by
  refine ⟨by rw [List.length_append]; exact Nat.le_trans h.1 (Nat.le_add_right _ _), ?_⟩
  rw [List.drop_append_of_le_length h.1, h.2]

/-- A record that is not all there. -/
theorem recordLoop_short {data handshake part rest tail : Bytes} {r : Record} {pos fuel : Nat} (hat : At data pos part)
    (hpart : part ++ rest = r.bytes ++ tail) (hshort : part.length < r.bytes.length) :
    recordLoop data (fuel + 1) pos handshake = .ok (false, none) := by
  have hlen := hat.length_eq
  rw [r.length_bytes] at hshort
  rw [recordLoop]
  by_cases hheader : data.length - pos < tlsRecordHeaderSize
  · rw [if_pos hheader]
  · have hroom : pos + 5 ≤ data.length := by
      unfold tlsRecordHeaderSize at hheader
      omega
    have hbytes : At (data ++ rest) pos (0x16 :: r.version.1 :: r.version.2 ::
        (u16 r.fragment.length ++ (r.fragment ++ tail))) := by
      have hfull := hat.append rest
      rw [hpart] at hfull
      simpa [Record.bytes] using hfull
    have hnonempty := List.length_pos_of_ne_nil r.nonempty
    have hsize : r.fragment.length ≤ 18432 := r.fits
    have htype := hbytes.byteAt
    have hrecordLen := hbytes.next.next.next.u16At (show r.fragment.length < 2 ^ 16 by omega)
    rw [byteAt_append rest (by omega)] at htype
    rw [u16At_append rest (by omega)] at hrecordLen
    simp only [hheader, htype, hrecordLen, if_false, bind, Except.bind, pure, Except.pure]
    rw [if_neg (show ¬((0x16 : Byte).val ≠ tlsHandshake) by decide),
      if_neg (show ¬(r.fragment.length = 0 ∨ r.fragment.length > tlsMaxRecordSize) by unfold tlsMaxRecordSize; omega),
      if_pos (show pos + tlsRecordHeaderSize + r.fragment.length > data.length by unfold tlsRecordHeaderSize; omega)]

/-- While the last record is not all there, more bytes are asked for. -/
theorem recordLoop_part {hello : ClientHello} (hfits : hello.message.length ≤ maxClientHelloSize)
    {data handshake part rest : Bytes} {records : List Record} {pos fuel : Nat} (hat : At data pos part)
    (hpart : part ++ rest = wire records) (hrest : rest ≠ [])
    (h : handshake ++ fragments records = hello.message) (hfuel : part.length < fuel) :
    recordLoop data fuel pos handshake = .ok (false, none) := by
  induction records generalizing pos handshake fuel part with
  | nil => exact absurd (List.append_eq_nil_iff.mp hpart).2 hrest
  | cons r records ih =>
    obtain ⟨fuel, rfl⟩ : ∃ k, fuel = k + 1 := ⟨fuel - 1, by omega⟩
    rw [wire_cons] at hpart
    by_cases hshort : part.length < r.bytes.length
    · exact recordLoop_short hat hpart hshort
    · have hpre : r.bytes <+: part ++ rest := hpart ▸ List.prefix_append _ _
      obtain ⟨part, rfl⟩ := List.prefix_of_prefix_length_le hpre (List.prefix_append _ _) (Nat.le_of_not_lt hshort)
      rw [List.append_assoc] at hpart
      have hpart' : part ++ rest = wire records := List.append_cancel_left hpart
      have hrecords : records ≠ [] := by
        rintro rfl
        exact hrest (List.append_eq_nil_iff.mp hpart').2
      rw [recordLoop_record hfits hat h, if_neg hrecords]
      rw [List.length_append, r.length_bytes] at hfuel
      refine ih (hat.skip r.length_bytes.symm) hpart' ?_ (by omega)
      rw [List.append_assoc, ← fragments_cons]
      exact h

/-! ## Arrivals -/

namespace Arrival

variable (a : Arrival)

theorem records_ne_nil : a.records ≠ [] := by
  intro hnil
  have hcarry := a.recordsCarry
  rw [fragments_eq_nil.mpr hnil] at hcarry
  exact message_ne_nil a.hello hcarry.symm

theorem length_wire : (wire a.records).length = a.hello.message.length + 5 * a.records.length := by
  rw [Tls.length_wire, a.recordsCarry]

theorem clientHelloMessage_wire (more : Bytes) :
    clientHelloMessage (wire a.records ++ more) = .ok (true, some a.hello.message) := by
  have hat : At (wire a.records) 0 (wire a.records ++ []) := ⟨Nat.zero_le _, (List.append_nil _).symm⟩
  refine clientHelloMessage_append more (recordLoop_wire a.bounded hat a.recordsCarry a.records_ne_nil ?_)
  rw [a.length_wire]
  omega

theorem clientHelloMessage_part {part rest : Bytes} (h : part ++ rest = wire a.records) (hrest : rest ≠ []) :
    clientHelloMessage part = .ok (false, none) :=
  recordLoop_part a.bounded ⟨Nat.zero_le _, rfl⟩ h hrest a.recordsCarry (Nat.lt_succ_self _)

theorem extractSni_wire (more : Bytes) : extractSniFromClientHello (wire a.records ++ more) = .ok a.hello.hostName := by
  unfold extractSniFromClientHello
  rw [a.clientHelloMessage_wire more]
  exact helloSni_bytes a.hello

/-- What has been gathered holds all the records, or is a part of them that does not settle anything. -/
theorem whole_or_part {gathered : Bytes} (h : gathered <+: wire a.records ++ a.after) :
    (∃ more, gathered = wire a.records ++ more) ∨ ∃ rest, gathered ++ rest = wire a.records ∧ rest ≠ [] := by
  rcases List.prefix_or_prefix_of_prefix h (List.prefix_append (wire a.records) a.after) with ⟨rest, hpart⟩ | ⟨more, hwhole⟩
  · by_cases hrest : rest = []
    · exact .inl ⟨[], by rw [← hpart, hrest, List.append_nil, List.append_nil]⟩
    · exact .inr ⟨rest, hpart, hrest⟩
  · exact .inl ⟨more, hwhole.symm⟩

/-- What the reader returns for the arrival. -/
theorem readComplete_spec : ∃ gathered, readCompleteClientHello a.chunks a.initialData = .ok gathered ∧
    gathered <+: wire a.records ++ a.after ∧ gathered.length ≤ maxClientHelloSize ∧
      ((∃ message, clientHelloMessage gathered = .ok (true, message)) ∨ gathered.length = maxClientHelloSize ∨
        gathered = wire a.records ++ a.after) := by
  have hlen : (a.initialData.take maxClientHelloSize).length ≤ maxClientHelloSize := by
    rw [List.length_take]
    omega
  by_cases hinitial : a.initialData.length ≤ maxClientHelloSize
  · obtain ⟨gathered, hgather, hspec⟩ := gather_spec (maxClientHelloSize + 1)
      (a.initialData.take maxClientHelloSize) a.chunks (by omega) hlen a.chunks_nonempty
    rw [List.take_of_length_le hinitial, a.readsCarry] at hspec
    exact ⟨gathered, hgather, hspec⟩
  · have hfull : (a.initialData.take maxClientHelloSize).length = maxClientHelloSize := by
      rw [List.length_take]
      omega
    refine ⟨a.initialData.take maxClientHelloSize, ?_, ?_, hlen, .inr (.inl hfull)⟩
    · unfold readCompleteClientHello
      rw [gather, if_neg (by omega)]
    · rw [← a.readsCarry]
      exact ( List.take_prefix _ _).trans (List.prefix_append _ _)

/-- The reader gathers the hello, and the parser finds its message and its server name. -/
def Exact : Prop :=
  ∃ gathered, readCompleteClientHello a.chunks a.initialData = .ok gathered ∧
    clientHelloMessage gathered = .ok (true, some a.hello.message) ∧
      extractSniFromClientHello gathered = .ok a.hello.hostName

theorem exact_iff : a.Exact ↔ a.hello.message.length + 5 * a.records.length ≤ maxClientHelloSize := by
  rw [← a.length_wire]
  obtain ⟨gathered, hgathered, hpre, hle, hwhy⟩ := a.readComplete_spec
  constructor
  · rintro ⟨gathered', hgathered', hmessage, -⟩
    obtain rfl : gathered = gathered' := Except.ok.inj (hgathered.symm.trans hgathered')
    rcases a.whole_or_part hpre with ⟨more, rfl⟩ | ⟨rest, hpart, hrest⟩
    · rw [List.length_append] at hle
      omega
    · rw [a.clientHelloMessage_part hpart hrest] at hmessage
      cases hmessage
  · intro hfits
    obtain ⟨more, rfl⟩ : ∃ more, gathered = wire a.records ++ more := by
      rcases a.whole_or_part hpre with hwhole | ⟨rest, hpart, hrest⟩
      · exact hwhole
      · have hshort := List.length_pos_of_ne_nil hrest
        have hsum := congrArg List.length hpart
        rw [List.length_append] at hsum
        rcases hwhy with ⟨message, hcomplete⟩ | hfull | hall
        · rw [a.clientHelloMessage_part hpart hrest] at hcomplete
          cases hcomplete
        · omega
        · rw [hall, List.length_append] at hsum
          omega
    exact ⟨_, hgathered, a.clientHelloMessage_wire more, a.extractSni_wire more⟩

end Arrival

/-- No bytes make the parser or the reader fail. -/
def Total : Prop :=
  (∀ data, (∃ result, clientHelloMessage data = .ok result) ∧ ∃ sni, extractSniFromClientHello data = .ok sni) ∧
    ∀ chunks initialData, ∃ gathered, readCompleteClientHello chunks initialData = .ok gathered

/-- What has been found in complete bytes stays when more follow. -/
def Stable : Prop :=
  ∀ data message, clientHelloMessage data = .ok (true, message) → ∀ more,
    clientHelloMessage (data ++ more) = .ok (true, message) ∧
      extractSniFromClientHello (data ++ more) = extractSniFromClientHello data

theorem total : Total :=
  ⟨fun data => ⟨clientHelloMessage_total data, extractSni_total data⟩,
    fun chunks _ => gather_total _ _ chunks (by omega)⟩

theorem stable : Stable := fun _ _ h more => ⟨clientHelloMessage_append more h, extractSni_append more h⟩

/-- Records of one byte each. -/
def finelyCut (message : Bytes) : List Record :=
  message.map fun b => { version := (3, 1), fragment := [b], nonempty := List.cons_ne_nil _ _, fits := by simp [tlsMaxRecordSize] }

theorem fragments_finelyCut (message : Bytes) : fragments (finelyCut message) = message := by
  induction message with
  | nil => rfl
  | cons b message ih =>
    show b :: fragments (finelyCut message) = b :: message
    rw [ih]

/-- A hello that offers 5500 cipher suites and names `tv`. -/
def manyCiphers : ClientHello where
  version := (3, 3)
  random := List.replicate 32 0
  sessionId := []
  cipherSuites := List.replicate 11000 0
  compressions := [0]
  extensions := some [.serverName [{ nameType := 0, name := [0x74, 0x76], fits := by decide }] (by decide)]
  random_length := List.length_replicate
  sessionId_fits := by decide
  cipherSuites_fit := by rw [List.length_replicate]; decide
  compressions_fit := by decide
  extensions_fit := by
    intro es hes
    obtain rfl := Option.some.inj hes
    decide

theorem length_manyCiphers : manyCiphers.message.length = 11056 := by
  have hsession : manyCiphers.sessionId.length = 0 := rfl
  have hciphers : manyCiphers.cipherSuites.length = 11000 := List.length_replicate
  have hcompressions : manyCiphers.compressions.length = 1 := rfl
  have hextensions : manyCiphers.encodedExtensions.length = 13 := rfl
  rw [ClientHello.length_message, ClientHello.length_bytes, hsession, hciphers, hcompressions, hextensions]

/-- The same hello, in records of one byte. -/
def finelyCutArrival : Arrival where
  hello := manyCiphers
  records := finelyCut manyCiphers.message
  after := []
  initialData := (wire (finelyCut manyCiphers.message)).take 4096
  chunks := [(wire (finelyCut manyCiphers.message)).drop 4096]
  bounded := by rw [length_manyCiphers]; decide
  recordsCarry := fragments_finelyCut _
  readsCarry := by simp
  chunks_nonempty := by
    intro chunk hchunk hnil
    rw [List.mem_singleton.mp hchunk, List.drop_eq_nil_iff, length_wire, fragments_finelyCut, length_manyCiphers] at hnil
    omega

/-- The parser is total and stable, and a hello that fits the bound on messages is gathered and understood, exactly when
    its records fit the bound on raw bytes. -/
theorem clientHello_exact_iff (a : Arrival) : Total ∧ Stable ∧ a.Exact ↔
    a.hello.message.length + 5 * a.records.length ≤ maxClientHelloSize := by
  constructor
  · rintro ⟨-, -, hexact⟩
    exact a.exact_iff.mp hexact
  · intro hfits
    exact ⟨total, stable, a.exact_iff.mpr hfits⟩

/-- A hello of eleven thousand bytes in records of one byte takes more than the bound, and its name is lost. -/
theorem not_exact_finelyCut : ¬ ∀ a : Arrival, Total ∧ Stable ∧ a.Exact := by
  intro hall
  have hfits := (Arrival.exact_iff finelyCutArrival).mp (hall finelyCutArrival).2.2
  have hmessage : finelyCutArrival.hello.message.length = 11056 := length_manyCiphers
  have hrecords : finelyCutArrival.records.length = 11056 := (List.length_map _).trans length_manyCiphers
  rw [hmessage, hrecords] at hfits
  exact absurd hfits (by decide)

end RideTheApi.Tls
