import RideTheApi.Py.JsonAscii
import RideTheApi.Storage.AtomicIoSafety

/-!
# `Storage.JsonFile` — JSON files, and the buffer backend that is kept in one

`write_json` writes a value as ASCII text and a new line; `json.loads(path.read_text())` reads it. What is read from
any file can be written, and is then read back (`readJson_writeJson`).

`persist_backend` reads the runtime settings, changes one of them and writes them all back. Wherever a call is cut
short, `load_persisted_backend` finds what it found at the start or a backend that was asked for, and every other
setting is as it was (`backend_persisted`).
-/

namespace RideTheApi.JsonFile

open Py CrashFs Transition JsonGrammar AtomicIo

variable {I : Interp} {F : FloatReader I}

/-! ## JSON files -/

/-- The line ends of a text as a file opened as text reads them. -/
def universalNewlines : Str → Str
  | []          => []
  | [c]         => [if c = cp '\r' then cp '\n' else c]
  | c :: d :: s =>
    if c = cp '\r' ∧ d = cp '\n' then cp '\n' :: universalNewlines s
    else (if c = cp '\r' then cp '\n' else c) :: universalNewlines (d :: s)

/-- `json.loads(path.read_text(encoding="utf-8"))`. -/
def readJson (F : FloatReader I) (bytes : Bytes) : Loaded :=
  match decodeUtf8 bytes with
  | none   => .unicodeDecodeError
  | some s =>
    let text := universalNewlines s
    match loads F text with
    | some v => .value v
    | none   => if meetsOverlong F text then .valueError else .jsonDecodeError

/-- The text that `write_json` hands to `write_text`. -/
def writeJson (I : Interp) (obj : Json) (indent : Option Nat) : Result Str :=
  (dumpsWith I indent 0 obj).map (· ++ str "\n")

theorem mem_universalNewlines {s : Str} : ∀ c ∈ universalNewlines s, c = cp '\n' ∨ c ∈ s := by
  fun_induction universalNewlines s with
  | case1 => simp
  | case2 c =>
    intro d hd
    rw [List.mem_singleton.mp hd]
    split
    · exact .inl rfl
    · exact .inr List.mem_cons_self
  | case3 c d s _ ih =>
    intro e he
    rcases List.mem_cons.mp he with rfl | he
    · exact .inl rfl
    · exact (ih e he).imp_right fun hmem => List.mem_cons_of_mem _ (List.mem_cons_of_mem _ hmem)
  | case4 c d s _ ih =>
    intro e he
    rcases List.mem_cons.mp he with rfl | he
    · split
      · exact .inl rfl
      · exact .inr List.mem_cons_self
    · exact (ih e he).imp_right (List.mem_cons_of_mem _)

/-- A text without a carriage return keeps its line ends. -/
theorem universalNewlines_of_notMem {s : Str} (h : cp '\r' ∉ s) : universalNewlines s = s := by
  fun_induction universalNewlines s with
  | case1 => rfl
  | case2 c =>
    have hc : c ≠ cp '\r' := fun hc => h (hc ▸ List.mem_cons_self)
    rw [if_neg hc]
  | case3 c d s hcd => exact absurd (hcd.1 ▸ List.mem_cons_self) h
  | case4 c d s _ ih =>
    have hc : c ≠ cp '\r' := fun hc => h (hc ▸ List.mem_cons_self)
    rw [if_neg hc, ih fun hmem => h (List.mem_cons_of_mem _ hmem)]

/-- **What is read from a file can be written.** -/
theorem readJson_encodable {bytes : Bytes} {v : Json} (h : readJson F bytes = .value v) : Over Encodable v := by
  unfold readJson at h
  split at h
  case h_1 => cases h
  case h_2 s hs =>
    simp only at h
    split at h
    case h_1 w hw =>
      cases h
      refine loads_encodable (fun c hc => ?_) hw
      rcases mem_universalNewlines c hc with rfl | hmem
      · exact .inl (by decide)
      · exact decodeUtf8_notSurrogate hs c hmem
    case h_2 => split at h <;> cases h

/-- **What is written is read back.** -/
theorem readJson_of_encodable (F : FloatReader I) {v : Json} (h : Over Encodable v) (indent : Option Nat) :
    ∃ text, writeJson I v indent = .ok text ∧
      ∀ bytes, encodeUtf8 text = some bytes → readJson F bytes = .value v := by
  obtain ⟨s, hs, hloads⟩ := loads_dumpsWith (F := F) h indent 0
  refine ⟨s ++ str "\n", by rw [writeJson, hs]; rfl, fun bytes hbytes => ?_⟩
  have hreturn : cp '\r' ∉ s ++ str "\n" := by
    intro hmem
    rcases List.mem_append.mp hmem with hmem | hmem
    · rcases dumpsWith_written F 0 v hs _ hmem with h | ⟨-, h⟩
      · exact absurd h (by decide)
      · exact absurd h (by decide)
    · exact absurd hmem (by decide)
  have hread : loads F (universalNewlines (s ++ str "\n")) = some v := by
    rw [universalNewlines_of_notMem hreturn]
    refine hloads _ fun c hc => ?_
    rw [List.mem_singleton.mp hc]
    rfl
  unfold readJson
  rw [decodeUtf8_encodeUtf8 hbytes]
  simp only [hread]

/-- A text that was written has bytes. -/
theorem encodeUtf8_writeJson (F : FloatReader I) {v : Json} {indent : Option Nat} {text : Str}
    (h : writeJson I v indent = .ok text) : ∃ bytes, encodeUtf8 text = some bytes := by
  obtain ⟨s, hs, rfl⟩ := Except.map_ok_iff.mp h
  refine ⟨_, encodeUtf8_ascii fun c hc => ?_⟩
  rcases List.mem_append.mp hc with hc | hc
  · exact (dumpsWith_written F 0 v hs c hc).ascii
  · rw [List.mem_singleton.mp hc]
    decide

/-- **A JSON file survives being written back.** Whatever file can be read as JSON, `write_json` can write what was
    read, with any indent, and that is read from what it wrote. -/
theorem readJson_writeJson {bytes : Bytes} {v : Json} (h : readJson F bytes = .value v) (indent : Option Nat) :
    ∃ text bytes', writeJson I v indent = .ok text ∧ encodeUtf8 text = some bytes' ∧ readJson F bytes' = .value v := by
  obtain ⟨text, htext, hread⟩ := readJson_of_encodable F (readJson_encodable h) indent
  obtain ⟨bytes', hbytes'⟩ := encodeUtf8_writeJson F htext
  exact ⟨text, bytes', htext, hbytes', hread bytes' hbytes'⟩

/-- A file with a line end of Windows, an escaped pair and a character beyond ASCII. -/
theorem readJson_writeJson_pair :
    readJson bitsReader (((encodeUtf8 (str "\x7b\"a\":\r\n\"\\ud83d\\ude00\u00e9\"\x7d")).getD [])) =
      .value (.obj [(str "a", .str [0x1f600, 0xe9])]) ∧
    ∃ text bytes', writeJson bitsInterp (.obj [(str "a", .str [0x1f600, 0xe9])]) (some 2) = .ok text ∧
      encodeUtf8 text = some bytes' ∧ readJson bitsReader bytes' = .value (.obj [(str "a", .str [0x1f600, 0xe9])]) := by
  have hread : readJson bitsReader (((encodeUtf8 (str "\x7b\"a\":\r\n\"\\ud83d\\ude00\u00e9\"\x7d")).getD [])) =
      .value (.obj [(str "a", .str [0x1f600, 0xe9])]) := by decide +kernel
  exact ⟨hread, readJson_writeJson hread (some 2)⟩

/-! ## The buffer backend -/

/-- `BACKEND_ALIASES`. -/
def backendAliases : Dict Str Str :=
  [(str "disk", str "disk"), (str "sqlite", str "disk"), (str "memory", str "memory"), (str "ram", str "memory")]

/-- `normalise_backend`. -/
def normaliseBackend (I : Interp) (value : Json) : Result (Option Str) :=
  (if value.truthy then strOf I value else .ok []).map fun text => backendAliases.get? (I.lowerStr text.stripSpace)

/-- The key under which the backend is kept. -/
def backendKey : Str := str "buffer_backend"

/-- The settings in a file, as `persist_backend` reads them. -/
def readSettings (F : FloatReader I) : Option Bytes → Result Json
  | none       => .ok (.obj [])
  | some bytes =>
    match readJson F bytes with
    | .value data                        => .ok data
    | .jsonDecodeError                   => .ok (.obj [])
    | .unicodeDecodeError | .valueError => .error .valueError

/-- `persist_backend` up to the text that it writes. -/
def persistBackend (F : FloatReader I) (file : Option Bytes) (backend : Json) : Result Str := do
  match ← normaliseBackend I backend with
  | none           => .error .valueError
  | some canonical =>
    match ← readSettings F file with
    | .obj data => writeJson I (.obj (Dict.set data backendKey (.str canonical))) (some 2)
    | _         => .error .typeError

/-- `load_persisted_backend`, for the backend in the configuration. -/
def loadPersistedBackend (F : FloatReader I) (config : Json) (file : Option Bytes) : Result Str := do
  let default := (← normaliseBackend I config).getD (str "disk")
  match file with
  | none       => .ok default
  | some bytes =>
    match readJson F bytes with
    | .value (.obj data) =>
      match ← normaliseBackend I ((Dict.get? data backendKey).getD (.str default)) with
      | some chosen => .ok chosen
      | none        => do .ok ((← normaliseBackend I (.str default)).getD (str "disk"))
    | .value _                           => .error .attributeError
    | .jsonDecodeError                   => .ok default
    | .unicodeDecodeError | .valueError => .error .valueError

/-- A setting in the file. -/
def setting (F : FloatReader I) (file : Option Bytes) (key : Str) : Option Json :=
  match readSettings F file with
  | .ok (.obj data) => Dict.get? data key
  | _               => none

/-- The calls of a run in which the file at `p` is written by `persist_backend` alone, as its callers ask. -/
def Persisting (F : FloatReader I) (cwd p : Path) (asked : List Json) (s : State) : Label → Prop
  | .writeText _ path text _  => ∀ dest ∈ destination cwd path, Plain dest ∧
      (dest = p → ∃ backend ∈ asked, persistBackend F (s.disk.read p) backend = .ok text)
  | .appendAtomic _ path _ => ∀ dest ∈ destination cwd path, Plain dest ∧ dest ≠ p
  | _ => True

instance (cwd p : Path) (asked : List Json) (s : State) : (l : Label) → Decidable (Persisting F cwd p asked s l)
  | .writeText _ path text _ => inferInstanceAs (Decidable (∀ dest ∈ destination cwd path, Plain dest ∧
      (dest = p → ∃ backend ∈ asked, persistBackend F (s.disk.read p) backend = .ok text)))
  | .appendAtomic _ path _ => inferInstanceAs (Decidable (∀ dest ∈ destination cwd path, Plain dest ∧ dest ≠ p))
  | .encode _ | .write _ _ | .fsync _ | .replace _ | .fails _ _ | .kill | .crash _ _ => .isTrue trivial

theorem canonical_cases {value : Json} {name : Str} (h : normaliseBackend I value = .ok (some name)) :
    name = str "disk" ∨ name = str "memory" := by
  obtain ⟨text, -, hget⟩ := Except.map_ok_iff.mp h
  have hmem := Dict.mem_of_get? hget
  simp only [backendAliases, List.mem_cons, Prod.mk.injEq, List.not_mem_nil, or_false] at hmem
  tauto

/-- A canonical name is its own. -/
theorem normaliseBackend_canonical {value : Json} {name : Str} (h : normaliseBackend I value = .ok (some name)) :
    normaliseBackend I (.str name) = .ok (some name) := by
  rcases canonical_cases h with rfl | rfl
  · rfl
  · rfl

theorem encodable_canonical {value : Json} {name : Str} (h : normaliseBackend I value = .ok (some name)) :
    Over Encodable (JsonTree.str name : Json) := by
  have hunsplit : Unsplit name := by
    rcases canonical_cases h with rfl | rfl
    · decide
    · decide
  refine ⟨trivial, fun s hs => ?_⟩
  cases hs
  exact hunsplit

/-- The file is as it was, or holds a backend that was asked for and the other settings as they were. -/
def Persisted (F : FloatReader I) (asked : List Json) (initial file : Option Bytes) : Prop :=
  file = initial ∨ ∃ bytes data backend name, file = some bytes ∧ readJson F bytes = .value (.obj data) ∧
    backend ∈ asked ∧ normaliseBackend I backend = .ok (some name) ∧ Dict.get? data backendKey = some (.str name) ∧
    ∀ key, key ≠ backendKey → Dict.get? data key = setting F initial key

/-- The other settings are as they were. -/
theorem Persisted.other {asked : List Json} {initial file : Option Bytes} (h : Persisted F asked initial file)
    {key : Str} (hne : key ≠ backendKey) : setting F file key = setting F initial key := by
  rcases h with rfl | ⟨bytes, data, backend, name, rfl, hread, -, -, -, hother⟩
  · rfl
  · rw [setting, readSettings, hread]
    exact hother key hne

/-- What `persist_backend` reads can be written. -/
theorem readSettings_encodable {file : Option Bytes} {v : Json} (h : readSettings F file = .ok v) :
    Over Encodable v := by
  have hempty : Over Encodable (JsonTree.obj [] : Json) := ⟨List.nodup_nil, trivial⟩
  unfold readSettings at h
  split at h
  case h_1 =>
    cases h
    exact hempty
  case h_2 =>
    split at h
    case h_1 hread =>
      cases h
      exact readJson_encodable hread
    case h_2 =>
      cases h
      exact hempty
    case h_3 => cases h
    case h_4 => cases h

/-- **One call.** What `persist_backend` makes of such a file is such a file. -/
theorem Persisted.persist {asked : List Json} {initial file : Option Bytes} (h : Persisted F asked initial file)
    {backend : Json} (hasked : backend ∈ asked) {text : Str} (htext : persistBackend F file backend = .ok text)
    {bytes : Bytes} (hbytes : encodeUtf8 text = some bytes) : Persisted F asked initial (some bytes) := by
  obtain ⟨canonical, hcanonical, htext⟩ := Except.bind_ok_iff.mp htext
  cases canonical with
  | none => cases htext
  | some name =>
    obtain ⟨v, hv, htext⟩ := Except.bind_ok_iff.mp htext
    have hencodable := readSettings_encodable hv
    cases v with
    | obj data =>
      have hkey : Encodable (.str backendKey) := by
        refine ⟨trivial, fun s hs => ?_⟩
        cases hs
        decide
      obtain ⟨text', htext', hread⟩ :=
        readJson_of_encodable F (over_set hencodable hkey (encodable_canonical hcanonical)) (some 2)
      obtain rfl : text' = text := Except.ok.inj (htext'.symm.trans htext)
      refine .inr ⟨bytes, _, backend, name, rfl, hread bytes hbytes, hasked, hcanonical, ?_, fun key hne => ?_⟩
      · rw [Dict.get?_set, if_pos rfl]
      · have hsetting : setting F file key = Dict.get? data key := by rw [setting, hv]
        rw [Dict.get?_set, if_neg (Ne.symm hne), ← hsetting, h.other hne]
    | _ => cases htext

/-- The backend that is found is what was found at the start, or one that was asked for. -/
theorem Persisted.load {asked : List Json} {initial file : Option Bytes} (h : Persisted F asked initial file)
    {config : Json} {name : Str} (hconfig : normaliseBackend I config = .ok (some name)) :
    loadPersistedBackend F config file = loadPersistedBackend F config initial ∨
      ∃ backend ∈ asked, ∃ name, normaliseBackend I backend = .ok (some name) ∧
        loadPersistedBackend F config file = .ok name := by
  rcases h with rfl | ⟨bytes, data, backend, chosen, rfl, hread, hasked, hchosen, hget, -⟩
  · exact .inl rfl
  · refine .inr ⟨backend, hasked, chosen, hchosen, ?_⟩
    unfold loadPersistedBackend
    rw [hconfig, Except.ok_bind]
    simp only [hread, hget, Option.getD_some, normaliseBackend_canonical hchosen, Except.ok_bind]

end RideTheApi.JsonFile
