import RideTheApi.Lib.Dict
import RideTheApi.Py.Interp

/-!
# `Config.Secrets` — stored secrets masked for the API, and put back on a save

`mask_secrets` and `restore_masked_secrets` walk a configuration dump. A list is restored by position: item `i` of
what comes in takes its secrets from item `i` of the stored configuration.
-/

namespace RideTheApi.Config

open Py

/-- `SECRET_MASK`. -/
def secretMask : Str := "********"

/-- `_SECRET_CONFIG_NAMES`. -/
def secretConfigNames : List Str := ["password", "passwd", "pass", "mqttpass", "secret", "token"].map str

/-- `_SECRET_CONFIG_SUFFIXES`. -/
def secretConfigSuffixes : List Str :=
  ["password", "passwd", "secret", "token", "apikey", "privatekey", "credential", "credentials"].map str

/-- `is_env_reference`, of a string: `${…}` points to a secret. -/
def isEnvReference (value : Str) : Bool := value.startsWith "$\x7b" && value.endsWith "\x7d"

/-- A non-empty string that is not an environment reference. -/
def isSecretString : Json → Bool
  | .str s => !s.isEmpty && !isEnvReference s
  | _      => false

section
variable (I : Interp)

/-- `_is_secret_config_key`. -/
def isSecretConfigKey (name : Str) : Bool :=
  let norm := (I.lowerStr name).filter fun c => Interp.asciiLower c || Interp.asciiDigit c
  secretConfigNames.contains norm || secretConfigSuffixes.any fun suffix => Str.endsWith norm suffix

/-- The entries whose value is masked. -/
def isMasked (key : Str) (value : Json) : Bool := isSecretConfigKey I key && isSecretString value

mutual
/-- `mask_secrets`. -/
def maskSecrets : Json → Json
  | .obj kvs => .obj (maskFields kvs)
  | .arr xs  => .arr (maskItems xs)
  | data     => data
def maskFields : List (Str × Json) → List (Str × Json)
  | []                  => []
  | (key, value) :: kvs =>
    (key, if isMasked I key value then .str secretMask else maskSecrets value) :: maskFields kvs
def maskItems : List Json → List Json
  | []      => []
  | x :: xs => maskSecrets x :: maskItems xs
end

/-- What an entry is masked to. -/
def maskEntry (key : Str) (value : Json) : Json :=
  if isMasked I key value then .str secretMask else maskSecrets I value

end

/-- `current if isinstance(current, dict) else {}`, read at a key. -/
def fieldOf (current : Json) (key : Str) : Json :=
  match current with
  | .obj kvs => (Dict.get? kvs key).getD .null
  | _        => .null

/-- `current if isinstance(current, list) else []`. -/
def itemsOf : Json → List Json
  | .arr xs => xs
  | _       => []

mutual
/-- `restore_masked_secrets(incoming, current)`. -/
def restoreMaskedSecrets : Json → Json → Json
  | .str s,   current =>
    if s = secretMask then if current = .null then .str [] else current else .str s
  | .obj kvs, current => .obj (restoreFields kvs current)
  | .arr xs,  current => .arr (restoreItems xs (itemsOf current))
  | incoming, _       => incoming
def restoreFields : List (Str × Json) → Json → List (Str × Json)
  | [],                  _    => []
  | (key, value) :: kvs, base => (key, restoreMaskedSecrets value (fieldOf base key)) :: restoreFields kvs base
/-- `base[i] if i < len(base) else None`, item by item. -/
def restoreItems : List Json → List Json → List Json
  | [],      _    => []
  | x :: xs, base => restoreMaskedSecrets x (base.headD .null) :: restoreItems xs base.tail
end

/-! ## Entry by entry, item by item -/

theorem maskFields_eq (I : Interp) (kvs : List (Str × Json)) :
    maskFields I kvs = kvs.map fun kv => (kv.1, maskEntry I kv.1 kv.2) := by
  induction kvs with
  | nil => rfl
  | cons kv kvs ih => rw [maskFields, ih, List.map_cons, maskEntry]

theorem maskItems_eq (I : Interp) (xs : List Json) : maskItems I xs = xs.map (maskSecrets I) := by
  induction xs with
  | nil => rfl
  | cons x xs ih => rw [maskItems, ih, List.map_cons]

theorem restoreFields_eq (kvs : List (Str × Json)) (base : Json) :
    restoreFields kvs base = kvs.map fun kv => (kv.1, restoreMaskedSecrets kv.2 (fieldOf base kv.1)) := by
  induction kvs with
  | nil => rfl
  | cons kv kvs ih => rw [restoreFields, ih, List.map_cons]

theorem getElem?_restoreItems (xs base : List Json) (i : Nat) :
    (restoreItems xs base)[i]? = xs[i]?.map fun x => restoreMaskedSecrets x (base[i]?.getD .null) := by
  induction xs generalizing base i with
  | nil => rfl
  | cons x xs ih =>
    rw [restoreItems]
    cases i with
    | zero => cases base <;> rfl
    | succ i =>
      rw [List.getElem?_cons_succ, List.getElem?_cons_succ, ih, List.getElem?_tail]

theorem isSecretString_mask : isSecretString (.str secretMask) = true := by decide

/-- Only a string is masked to a string, and only under a secret name to another one. -/
theorem maskSecrets_eq_str {I : Interp} {v : Json} {s : Str} (h : maskSecrets I v = .str s) : v = .str s := by
  cases v with
  | str t => exact h
  | obj kvs => simp [maskSecrets] at h
  | arr xs => simp [maskSecrets] at h
  | null => simp [maskSecrets] at h
  | bool b => simp [maskSecrets] at h
  | int n => simp [maskSecrets] at h
  | float x => simp [maskSecrets] at h

end RideTheApi.Config
