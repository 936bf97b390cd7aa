import RideTheApi.Config.Secrets
import RideTheApi.Lib.Except
import RideTheApi.Py.Codec
import RideTheApi.Py.Format

/-!
# `Llm.Settings` — the LLM profiles, saved from the dashboard and loaded again

A profile has its key twice: as it is configured, and with an environment reference resolved. The settings that are shown
and saved are made of the first. An update is validated, written to the settings file, and everything is loaded again.
-/

namespace RideTheApi.LlmSettings

open Py Config

/-- What profiles take from the interpreter and from the models' field types. -/
structure SettingsHost extends Interp where
  /-- A field of type `str`, `bool` and `int`. -/
  text   : Json → Option Str
  flag   : Json → Option Bool
  number : Json → Option Int
  /-- `int(value)`. -/
  toInt  : Json → Result Int

/-- `os.environ`. -/
abbrev Environ := Str → Option Str

/-- `LLMDecipherService.TASKS`. -/
def tasks : List Str := ["correlation", "flush", "learning_context"].map str

/-! ## Profiles -/

/-- The values of a profile as they are configured: a `LLMDecipherProfile`, or what an update was validated to. -/
structure ProfileValues where
  baseUrl        : Str
  apiKey         : Str
  modelId        : Str
  promptTemplate : Str
  enabled        : Bool
  timeout        : Int
  maxRetries     : Int
  maxTokens      : Int
deriving Repr, DecidableEq

/-- What a profile is built from. -/
structure ProfileFields where
  baseUrl        : Json
  apiKey         : Str
  modelId        : Json
  promptTemplate : Json
  enabled        : Json
  timeout        : Json
  maxRetries     : Json
  maxTokens      : Json
deriving Repr, DecidableEq

/-- `LLMProfile`, whose `apiKey` is resolved. -/
structure Profile where
  baseUrl        : Str
  apiKey         : Str
  modelId        : Str
  promptTemplate : Str
  enabled        : Bool
  timeout        : Int
  maxRetries     : Int
  maxTokens      : Int
deriving Repr, DecidableEq

variable (H : SettingsHost) (env : Environ)

/-- A variable's name can be encoded: it has no surrogate but those that stand for a byte. -/
def encodable (name : Str) : Bool := name.all fun c => c.val < 0xd800 || 0xdfff < c.val || (0xdc80 ≤ c.val && c.val ≤ 0xdcff)

/-- `_resolve_env_var`. -/
def resolveEnvVar (v : Str) : Result Str :=
  if isEnvReference v then
    let name := (v.drop 2).dropLast
    if encodable name then .ok ((env name).getD []) else .error .valueError
  else .ok v

/-- `LLMProfile(name=..., ...)`. -/
def newProfile (name : Str) (fields : ProfileFields) : Result Profile := do
  let apiKey ← resolveEnvVar env fields.apiKey
  let profile := do
    let _ ← H.text (.str name)
    some {
      baseUrl := ← H.text fields.baseUrl
      apiKey := ← H.text (.str apiKey)
      modelId := ← H.text fields.modelId
      promptTemplate := ← H.text fields.promptTemplate
      enabled := ← H.flag fields.enabled
      timeout := ← H.number fields.timeout
      maxRetries := ← H.number fields.maxRetries
      maxTokens := ← H.number fields.maxTokens }
  match profile with
  | some profile => .ok profile
  | none         => .error .valueError

/-- The profiles and the keys as configured, so far. -/
abbrev Loaded := Dict Str Profile × Dict Str Str

/-- One profile is added. -/
def addProfile (loaded : Loaded) (name : Str) (fields : ProfileFields) : Result Loaded := do
  let profile ← newProfile H env name fields
  .ok (loaded.1.set name profile, loaded.2.set name fields.apiKey)

/-- The fields of a profile in `config.yaml`. -/
def ProfileValues.fields (p : ProfileValues) : ProfileFields where
  baseUrl := .str p.baseUrl
  apiKey := p.apiKey
  modelId := .str p.modelId
  promptTemplate := .str p.promptTemplate
  enabled := .bool p.enabled
  timeout := .int p.timeout
  maxRetries := .int p.maxRetries
  maxTokens := .int p.maxTokens

/-- `pcfg.get(key, default)`. -/
def field (pcfg : Dict Str Json) (key : String) (default : Json) : Json := (pcfg.get? key).getD default

/-- `_raw_secret`. -/
def rawSecret : Json → Str
  | .str s => s
  | _      => []

/-- The fields of a profile in the settings file. -/
def fileFields (pcfg : Dict Str Json) : Result ProfileFields := do
  let maxTokens ← H.toInt (field pcfg "max_tokens" (.int 2048))
  .ok {
    baseUrl := field pcfg "base_url" (.str "https://api.openai.com/v1")
    apiKey := rawSecret (field pcfg "api_key" (.str []))
    modelId := field pcfg "model_id" (.str "gpt-4o-mini")
    promptTemplate := field pcfg "prompt_template" (.str [])
    enabled := field pcfg "enabled" (.bool true)
    timeout := field pcfg "timeout" (.int 30)
    maxRetries := field pcfg "max_retries" (.int 2)
    maxTokens := .int maxTokens }

/-! ## Loading -/

/-- The `llm_decipher` section of `config.yaml`. -/
structure LlmConfig where
  enabled        : Bool := true
  defaultProfile : Str := "default"
  profiles       : Dict Str ProfileValues := []
  taskProfiles   : Dict Str Str := []
deriving Repr, DecidableEq

/-- The service, without its clients and caches. -/
structure Service where
  enabled        : Bool := true
  defaultProfile : Json := .str "default"
  taskProfiles   : Dict Str Str := []
  profiles       : Dict Str Profile := []
  rawApiKeys     : Dict Str Str := []
deriving DecidableEq

/-- The profiles of `config.yaml`. -/
def configProfiles (profiles : Dict Str ProfileValues) : Result Loaded :=
  profiles.foldlM (fun loaded kv => addProfile H env loaded kv.1 kv.2.fields) ([], [])

/-- A profile of the settings file; one that is no object is skipped. -/
def addFileProfile (loaded : Loaded) : Str × Json → Result Loaded
  | (name, .obj pcfg) => do
    let fields ← fileFields H pcfg
    addProfile H env loaded name fields
  | _                 => .ok loaded

/-- What the file says of profiles replaces those of `config.yaml`. -/
def overrideProfiles (overrides : Dict Str Json) (loaded : Loaded) : Result Loaded :=
  match overrides.get? "profiles" with
  | some (.obj profiles) => profiles.foldlM (addFileProfile H env) ([], [])
  | _                    => .ok loaded

/-- The values of `config.yaml`. -/
def Service.withConfig (svc : Service) (config : LlmConfig) : Service :=
  { svc with
    defaultProfile := .str config.defaultProfile
    enabled := config.enabled
    taskProfiles := config.taskProfiles.filter fun kv => tasks.contains kv.1 && kv.2 ≠ [] }

/-- The values of the settings file that take their place. -/
def Service.withOverrides (svc : Service) (overrides : Dict Str Json) : Service :=
  { svc with
    enabled := ((overrides.get? "enabled").map Json.truthy).getD svc.enabled
    defaultProfile := (overrides.get? "default_profile").getD svc.defaultProfile }

/-- `{task: str(name) ...}` of the settings file. -/
def overrideTasks (overrides : Dict Str Json) (taskProfiles : Dict Str Str) : Result (Dict Str Str) :=
  match overrides.get? "task_profiles" with
  | some (.obj kvs) =>
    (kvs.filter fun kv => tasks.contains kv.1 && Json.truthy kv.2).mapM fun kv => do
      let name ← strOf H.toInterp kv.2
      .ok (kv.1, name)
  | _               => .ok taskProfiles

/-- `load_llm_settings`: what is no object is ignored. -/
def overridesOf : Option Json → Dict Str Json
  | some (.obj kvs) => kvs
  | _               => []

/-- `_load_config`: the service as it is left, and what is raised. -/
def loadConfig (config : LlmConfig) (file : Option Json) (svc : Service) : Service × Result Unit :=
  let svc := svc.withConfig config
  match configProfiles H env config.profiles with
  | .error e   => (svc, .error e)
  | .ok loaded =>
    let overrides := overridesOf file
    let svc := svc.withOverrides overrides
    match overrideTasks H overrides svc.taskProfiles with
    | .error e         => (svc, .error e)
    | .ok taskProfiles =>
      let svc := { svc with taskProfiles }
      match overrideProfiles H env overrides loaded with
      | .error e                 => (svc, .error e)
      | .ok (profiles, rawApiKeys) => ({ svc with profiles, rawApiKeys }, .ok ())

/-! ## The settings as they are shown -/

/-- `_public_api_key`. -/
def publicApiKey (svc : Service) (name : Str) : Str :=
  let raw := (svc.rawApiKeys.get? name).getD (((svc.profiles.get? name).map Profile.apiKey).getD [])
  if isEnvReference raw then raw else if raw = [] then [] else secretMask

/-- The JSON object of a profile. -/
def ProfileValues.object (p : ProfileValues) : Dict Str Json :=
  [("base_url", .str p.baseUrl), ("api_key", .str p.apiKey), ("model_id", .str p.modelId),
    ("prompt_template", .str p.promptTemplate), ("enabled", .bool p.enabled), ("timeout", .int p.timeout),
    ("max_retries", .int p.maxRetries), ("max_tokens", .int p.maxTokens)]

/-- The profile with its key as this text. -/
def Profile.withKey (p : Profile) (apiKey : Str) : ProfileValues :=
  { baseUrl := p.baseUrl, apiKey, modelId := p.modelId, promptTemplate := p.promptTemplate, enabled := p.enabled,
    timeout := p.timeout, maxRetries := p.maxRetries, maxTokens := p.maxTokens }

/-- `get_settings`. -/
def getSettings (svc : Service) (includeSecrets : Bool) : Json :=
  .obj [("enabled", .bool svc.enabled), ("default_profile", svc.defaultProfile),
    ("profiles", .obj (svc.profiles.map fun kv =>
      (kv.1, .obj (kv.2.withKey (if includeSecrets then kv.2.apiKey else publicApiKey svc kv.1)).object))),
    ("task_profiles", .obj (tasks.map fun task => (task, .str ((svc.taskProfiles.get? task).getD []))))]

/-! ## Updates -/

/-- One profile of an update; the mask that comes back unchanged keeps the key as configured. -/
def validateProfile (svc : Service) (name : Str) (pcfg : Dict Str Json) : Result ProfileValues := do
  let apiKey ← strOf H.toInterp (field pcfg "api_key" (.str []))
  .ok {
    baseUrl := ← strOf H.toInterp (field pcfg "base_url" (.str "https://api.openai.com/v1"))
    apiKey := if apiKey = secretMask then (svc.rawApiKeys.get? name).getD [] else apiKey
    modelId := ← strOf H.toInterp (field pcfg "model_id" (.str "gpt-4o-mini"))
    promptTemplate := ← strOf H.toInterp (field pcfg "prompt_template" (.str []))
    enabled := Json.truthy (field pcfg "enabled" (.bool true))
    timeout := ← H.toInt (field pcfg "timeout" (.int 30))
    maxRetries := ← H.toInt (field pcfg "max_retries" (.int 2))
    maxTokens := ← H.toInt (field pcfg "max_tokens" (.int 2048)) }

/-- One round of the loop over the profiles of an update. -/
def addValidated (svc : Service) (validated : Dict Str ProfileValues) : Str × Json → Result (Dict Str ProfileValues)
  | (name, .obj pcfg) => do
    let values ← validateProfile H svc name pcfg
    .ok (validated.set name values)
  | _                 => .error .valueError

/-- `default_profile and default_profile not in validated` raises. -/
def checkDefault (defaultProfile : Json) (validated : Dict Str ProfileValues) : Result Unit :=
  if Json.truthy defaultProfile then
    match defaultProfile with
    | .str name       => if validated.has name then .ok () else .error .valueError
    | .arr _ | .obj _ => .error .typeError
    | _               => .error .valueError
  else .ok ()

/-- One round of the loop of `_validate_task_profiles`. -/
def addBinding (validated : Dict Str ProfileValues) (bindings : Dict Str Str) (kv : Str × Json) : Result (Dict Str Str) :=
  if tasks.contains kv.1 then do
    let name ← if Json.truthy kv.2 then strOf H.toInterp kv.2 else .ok []
    if name = [] then .ok bindings
    else if validated.has name then .ok (bindings.set kv.1 name) else .error .valueError
  else .error .valueError

/-- `_validate_task_profiles`. -/
def validateTaskProfiles (rawTasks : Option Json) (validated : Dict Str ProfileValues) : Result (Dict Str Str) :=
  match rawTasks.getD .null with
  | .null    => .ok []
  | .obj kvs => kvs.foldlM (addBinding H validated) []
  | _        => .error .valueError

/-- What is persisted. -/
structure Payload where
  enabled        : Bool
  defaultProfile : Json
  profiles       : Dict Str ProfileValues
  taskProfiles   : Dict Str Str
deriving DecidableEq

def Payload.toJson (p : Payload) : Json :=
  .obj [("enabled", .bool p.enabled), ("default_profile", p.defaultProfile),
    ("profiles", .obj (p.profiles.map fun kv => (kv.1, .obj kv.2.object))),
    ("task_profiles", .obj (p.taskProfiles.map fun kv => (kv.1, .str kv.2)))]

/-- The checks of `update_settings`, before anything is persisted. -/
def validate (svc : Service) (settings : Json) : Result Payload :=
  match settings with
  | .obj fields =>
    let defaultProfile := (Dict.get? fields "default_profile").getD svc.defaultProfile
    match (Dict.get? fields "profiles").getD (.obj []) with
    | .obj profiles => do
      let validated ← profiles.foldlM (addValidated H svc) []
      checkDefault defaultProfile validated
      let taskProfiles ← validateTaskProfiles H (Dict.get? fields "task_profiles") validated
      .ok {
        enabled := ((Dict.get? fields "enabled").map Json.truthy).getD svc.enabled
        defaultProfile
        profiles := validated
        taskProfiles }
    | _             => .error .valueError
  | _           => .error .valueError

mutual
/-- What is read back of a value that was written as JSON: text with its surrogates joined, and the last entry of a key. -/
def reread : Json → Json
  | .str s   => .str (joinSurrogates (s.map (·.val)))
  | .arr xs  => .arr (rereadItems xs)
  | .obj kvs => .obj (Dict.ofList (rereadEntries kvs))
  | v        => v
def rereadItems : List Json → List Json
  | []      => []
  | x :: xs => reread x :: rereadItems xs
def rereadEntries : List (Str × Json) → List (Str × Json)
  | []            => []
  | (k, v) :: kvs => (joinSurrogates (k.map (·.val)), reread v) :: rereadEntries kvs
end

/-- The service, what a reader of the settings file reads, and `config.yaml`. -/
structure State where
  svc    : Service
  file   : Option Json
  config : LlmConfig
deriving DecidableEq

/-- `_load_config` of the service. -/
def State.load (st : State) : State × Result Unit :=
  let (svc, result) := loadConfig H env st.config st.file st.svc
  ({ st with svc }, result)

/-- `update_settings`; `written` says whether the file could be replaced. -/
def updateSettings (st : State) (settings : Json) (written : Bool) : State × Result Json :=
  match validate H st.svc settings with
  | .error e    => (st, .error e)
  | .ok payload =>
    match dumps H.toInterp payload.toJson with
    | .error e => (st, .error e)
    | .ok _    =>
      if written then
        let (st, result) := State.load H env { st with file := some (reread payload.toJson) }
        (st, result.map fun _ => getSettings st.svc false)
      else (st, .error .other)

/-! ## Runs -/

/-- What happens to a service: an update, a new `config.yaml`, and an edit of the settings file with a reload. -/
inductive Action where
  | update (settings : Json) (written : Bool)
  | configure (config : LlmConfig)
  | edit (file : Option Json)

/-- One action, in the environment of its time. -/
def act (st : State) : Environ × Action → State
  | (env, .update settings written) => (updateSettings H env st settings written).1
  | (env, .configure config)        => (State.load H env { st with config }).1
  | (env, .edit file)               => (State.load H env { st with file }).1

/-- The states of a service: it starts when everything loads, and goes on from there. -/
inductive Reached : State → Prop where
  | start {env : Environ} {st : State} (hsvc : st.svc = {}) (h : (State.load H env st).2 = .ok ()) :
      Reached (State.load H env st).1
  | next {st : State} (h : Reached st) (a : Environ × Action) : Reached (act H st a)

/-- What is relied on: a text field takes text without surrogates as it is, and a field of the right type is kept. -/
structure Coerces (H : SettingsHost) : Prop where
  text   : ∀ {v s}, H.text v = some s → v = .str s ∧ ∀ c ∈ s, c.val < 0xd800 ∨ 0xdfff < c.val
  flag   : ∀ b, H.flag (.bool b) = some b
  number : ∀ n, H.number (.int n) = some n
  toInt  : ∀ n, H.toInt (.int n) = .ok n

end RideTheApi.LlmSettings
