import RideTheApi.Llm.SettingsKept

/-!
# `Llm.SettingsSafety` — keys are not shown, and not written

What is shown of a key is the reference, or whether there is a key. Two runs in different environments write the same
files, and a rejected update is looked at: it leaves everything unless a profile cannot be built.
-/

namespace RideTheApi.LlmSettings

open Py Config

variable {H : SettingsHost} {env env' : Environ} {svc svc' : Service} {loaded loaded' : Loaded} {name raw : Str}
  {fields : ProfileFields} {p : Profile}

/-! ## What is shown of a key -/

/-- A stored key: it is there, and no reference. -/
def Stored (raw : Str) : Prop := raw ≠ [] ∧ isEnvReference raw = false

/-- Keys as configured that are the same, or both stored. -/
def KeyAlike (raw raw' : Str) : Prop := raw = raw' ∨ Stored raw ∧ Stored raw'

/-- Services that differ in resolved and in stored keys. -/
structure ShownAlike (svc svc' : Service) : Prop where
  enabled        : svc.enabled = svc'.enabled
  defaultProfile : svc.defaultProfile = svc'.defaultProfile
  taskProfiles   : svc.taskProfiles = svc'.taskProfiles
  profiles       : svc.profiles.map (fun kv => (kv.1, kv.2.withKey [])) = svc'.profiles.map fun kv => (kv.1, kv.2.withKey [])
  keys           : svc.rawApiKeys.keys = svc'.rawApiKeys.keys
  alike          : ∀ name raw raw', svc.rawApiKeys.get? name = some raw → svc'.rawApiKeys.get? name = some raw' → KeyAlike raw raw'

/-- A key is shown when it is a reference, and otherwise only whether there is one. -/
theorem publicApiKey_eq (h : svc.rawApiKeys.get? name = some raw) :
    publicApiKey svc name = if isEnvReference raw then raw else if raw = [] then [] else secretMask := by
  unfold publicApiKey
  rw [h]
  rfl

theorem publicApiKey_stored (h : svc.rawApiKeys.get? name = some raw) (hraw : Stored raw) :
    publicApiKey svc name = secretMask := by
  rw [publicApiKey_eq h, hraw.2, if_neg Bool.false_ne_true, if_neg hraw.1]

theorem getSettings_profiles (svc : Service) :
    svc.profiles.map (fun kv => (kv.1, JsonTree.obj (kv.2.withKey (publicApiKey svc kv.1)).object)) =
      (svc.profiles.map fun kv => (kv.1, kv.2.withKey [])).map fun kv =>
        (kv.1, JsonTree.obj { kv.2 with apiKey := publicApiKey svc kv.1 }.object) := by
  rw [List.map_map]
  rfl

/-- **A stored key and a resolved key are not shown.** -/
theorem getSettings_alike (hsvc : Consistent svc) (h : ShownAlike svc svc') : getSettings svc false = getSettings svc' false := by
  have hkeys : ∀ name ∈ svc.profiles.keys, publicApiKey svc name = publicApiKey svc' name := by
    intro name hname
    have hnames : svc.profiles.keys = svc.rawApiKeys.keys := hsvc.keys
    rw [hnames] at hname
    obtain ⟨raw, hraw⟩ := Option.isSome_iff_exists.mp (Dict.mem_keys.mp hname)
    obtain ⟨raw', hraw'⟩ := Option.isSome_iff_exists.mp (Dict.mem_keys.mp (h.keys ▸ hname))
    rcases h.alike name raw raw' hraw hraw' with hsame | ⟨hstored, hstored'⟩
    · rw [publicApiKey_eq hraw, publicApiKey_eq hraw', hsame]
    · rw [publicApiKey_stored hraw hstored, publicApiKey_stored hraw' hstored']
  have hprofiles : svc.profiles.map (fun kv => (kv.1, JsonTree.obj (kv.2.withKey (publicApiKey svc kv.1)).object)) =
      svc'.profiles.map fun kv => (kv.1, JsonTree.obj (kv.2.withKey (publicApiKey svc' kv.1)).object) := by
    rw [getSettings_profiles, getSettings_profiles, ← h.profiles]
    refine List.map_congr_left ?_
    intro kv hkv
    obtain ⟨kv', hkv', rfl⟩ := List.mem_map.mp hkv
    rw [hkeys kv'.1 (List.mem_map_of_mem hkv')]
  unfold getSettings
  simp only [Bool.false_eq_true, if_false]
  rw [hprofiles, h.enabled, h.defaultProfile, h.taskProfiles]

/-! ## What depends on the environment -/

/-- Two environments in which the same profiles can be built. -/
def SameAccepted (H : SettingsHost) (env env' : Environ) : Prop :=
  ∀ name fields, (newProfile H env name fields).toBool = (newProfile H env' name fields).toBool

/-- Services that differ in resolved keys. -/
structure SameConfigured (svc svc' : Service) : Prop where
  enabled        : svc.enabled = svc'.enabled
  defaultProfile : svc.defaultProfile = svc'.defaultProfile
  taskProfiles   : svc.taskProfiles = svc'.taskProfiles
  profiles       : svc.profiles.map (fun kv => (kv.1, kv.2.withKey [])) = svc'.profiles.map fun kv => (kv.1, kv.2.withKey [])
  rawApiKeys     : svc.rawApiKeys = svc'.rawApiKeys

theorem SameConfigured.shownAlike (h : SameConfigured svc svc') : ShownAlike svc svc' where
  enabled := h.enabled
  defaultProfile := h.defaultProfile
  taskProfiles := h.taskProfiles
  profiles := h.profiles
  keys := congrArg Dict.keys h.rawApiKeys
  alike name raw raw' hraw hraw' := by
    rw [h.rawApiKeys, hraw'] at hraw
    exact .inl (Option.some.inj hraw).symm

theorem resolveEnvVar_error {e : Exn} (h : resolveEnvVar env raw = .error e) : e = .valueError := by
  unfold resolveEnvVar at h
  split at h
  · dsimp only at h
    split at h <;> cases h
    rfl
  · cases h

theorem newProfile_error {e : Exn} (h : newProfile H env name fields = .error e) : e = .valueError := by
  rcases Except.bind_error_iff.mp h with h | ⟨key, -, h⟩
  · exact resolveEnvVar_error h
  · dsimp only at h
    split at h <;> cases h
    rfl

/-- The values of a profile but for its key are those of the fields. -/
theorem newProfile_values (h : newProfile H env name fields = .ok p) :
    H.text fields.baseUrl = some p.baseUrl ∧ H.text fields.modelId = some p.modelId ∧
      H.text fields.promptTemplate = some p.promptTemplate ∧ H.flag fields.enabled = some p.enabled ∧
      H.number fields.timeout = some p.timeout ∧ H.number fields.maxRetries = some p.maxRetries ∧
      H.number fields.maxTokens = some p.maxTokens := by
  obtain ⟨key, -, h⟩ := Except.bind_ok_iff.mp h
  dsimp only at h
  split at h
  · rename_i profile hprofile
    cases h
    simp only [Option.bind_eq_bind, Option.bind_eq_some_iff] at hprofile
    obtain ⟨_, -, baseUrl, hbase, apiKey, -, modelId, hmodel, template, htemplate, hprofile⟩ := hprofile
    obtain ⟨enabled, henabled, timeout, htimeout, maxRetries, hretries, maxTokens, htokens, hprofile⟩ := hprofile
    cases hprofile
    exact ⟨hbase, hmodel, htemplate, henabled, htimeout, hretries, htokens⟩
  · cases h

theorem newProfile_rel (henv : SameAccepted H env env') (name : Str) (fields : ProfileFields) :
    Except.Rel (fun p p' => Profile.withKey p [] = Profile.withKey p' []) (newProfile H env name fields)
      (newProfile H env' name fields) := by
  have haccepted := henv name fields
  cases hp : newProfile H env name fields with
  | error e =>
    rw [hp] at haccepted
    cases hp' : newProfile H env' name fields with
    | error e' =>
      rw [newProfile_error hp, newProfile_error hp']
      exact .error _
    | ok p' =>
      rw [hp'] at haccepted
      cases haccepted
  | ok p =>
    rw [hp] at haccepted
    cases hp' : newProfile H env' name fields with
    | error e' =>
      rw [hp'] at haccepted
      cases haccepted
    | ok p' =>
      refine .ok ?_
      obtain ⟨hbase, hmodel, htemplate, henabled, htimeout, hretries, htokens⟩ := newProfile_values hp
      obtain ⟨hbase', hmodel', htemplate', henabled', htimeout', hretries', htokens'⟩ := newProfile_values hp'
      unfold Profile.withKey
      rw [Option.some.inj (hbase.symm.trans hbase'), Option.some.inj (hmodel.symm.trans hmodel'),
        Option.some.inj (htemplate.symm.trans htemplate'), Option.some.inj (henabled.symm.trans henabled'),
        Option.some.inj (htimeout.symm.trans htimeout'), Option.some.inj (hretries.symm.trans hretries'),
        Option.some.inj (htokens.symm.trans htokens')]

/-- Loaded profiles that differ in resolved keys. -/
def LoadedAlike (loaded loaded' : Loaded) : Prop :=
  loaded.1.map (fun kv => (kv.1, kv.2.withKey [])) = loaded'.1.map (fun kv => (kv.1, kv.2.withKey [])) ∧ loaded.2 = loaded'.2

theorem addProfile_rel (henv : SameAccepted H env env') (h : LoadedAlike loaded loaded') (name : Str) (fields : ProfileFields) :
    Except.Rel LoadedAlike (addProfile H env loaded name fields) (addProfile H env' loaded' name fields) := by
  refine (newProfile_rel henv name fields).bind ?_
  intro p p' hp
  refine .ok ⟨?_, ?_⟩
  · show (loaded.1.set name p).map _ = (loaded'.1.set name p').map _
    rw [Dict.map_set (fun q => Profile.withKey q []), Dict.map_set (fun q => Profile.withKey q []), h.1, hp]
  · show loaded.2.set name fields.apiKey = loaded'.2.set name fields.apiKey
    rw [h.2]

theorem configProfiles_rel (henv : SameAccepted H env env') (profiles : Dict Str ProfileValues) :
    Except.Rel LoadedAlike (configProfiles H env profiles) (configProfiles H env' profiles) := by
  refine Except.Rel.foldlM ?_ profiles ⟨rfl, rfl⟩
  intro loaded loaded' kv h
  exact addProfile_rel henv h kv.1 kv.2.fields

theorem overrideProfiles_rel (henv : SameAccepted H env env') (h : LoadedAlike loaded loaded') (overrides : Dict Str Json) :
    Except.Rel LoadedAlike (overrideProfiles H env overrides loaded) (overrideProfiles H env' overrides loaded') := by
  unfold overrideProfiles
  split
  · refine Except.Rel.foldlM ?_ _ ⟨rfl, rfl⟩
    intro loaded loaded' kv h
    obtain ⟨name, pcfg⟩ := kv
    cases pcfg with
    | obj pcfg => exact (Except.Rel.refl (fun _ => rfl) _).bind fun fields _ heq => heq ▸ addProfile_rel henv h name fields
    | _ => exact .ok h
  · exact .ok h

/-- **What is loaded does not depend on resolved keys**, nor does what is raised. -/
theorem loadConfig_same (henv : SameAccepted H env env') (h : SameConfigured svc svc') (config : LlmConfig) (file : Option Json) :
    SameConfigured (loadConfig H env config file svc).1 (loadConfig H env' config file svc').1 ∧
      (loadConfig H env config file svc).2 = (loadConfig H env' config file svc').2 := by
  have hconfig := configProfiles_rel henv config.profiles
  unfold loadConfig
  dsimp only
  generalize configProfiles H env config.profiles = x at hconfig
  generalize configProfiles H env' config.profiles = y at hconfig
  cases hconfig with
  | error e => exact ⟨⟨rfl, rfl, rfl, h.profiles, h.rawApiKeys⟩, rfl⟩
  | @ok loaded loaded' hloaded =>
    have hover := overrideProfiles_rel henv hloaded (overridesOf file)
    have hsame : (svc.withConfig config).withOverrides (overridesOf file) =
        { (svc'.withConfig config).withOverrides (overridesOf file) with profiles := svc.profiles, rawApiKeys := svc.rawApiKeys } := rfl
    dsimp only
    rw [hsame]
    dsimp only
    cases overrideTasks H (overridesOf file) ((svc'.withConfig config).withOverrides (overridesOf file)).taskProfiles with
    | error e => exact ⟨⟨rfl, rfl, rfl, h.profiles, h.rawApiKeys⟩, rfl⟩
    | ok taskProfiles =>
      dsimp only
      generalize overrideProfiles H env (overridesOf file) loaded = x at hover
      generalize overrideProfiles H env' (overridesOf file) loaded' = y at hover
      cases hover with
      | error e => exact ⟨⟨rfl, rfl, rfl, h.profiles, h.rawApiKeys⟩, rfl⟩
      | ok hloaded' => exact ⟨⟨rfl, rfl, rfl, hloaded'.1, hloaded'.2⟩, rfl⟩

/-- States that differ in resolved keys. -/
structure SameState (st st' : State) : Prop where
  svc    : SameConfigured st.svc st'.svc
  file   : st.file = st'.file
  config : st.config = st'.config

theorem SameState.load (henv : SameAccepted H env env') {st st' : State} (h : SameState st st') :
    SameState (st.load H env).1 (st'.load H env').1 ∧ (st.load H env).2 = (st'.load H env').2 := by
  obtain ⟨hsvc, hresult⟩ := loadConfig_same henv h.svc st.config st.file
  have hload : loadConfig H env' st.config st.file st'.svc = loadConfig H env' st'.config st'.file st'.svc := by
    rw [h.file, h.config]
  rw [hload] at hsvc hresult
  exact ⟨⟨hsvc, h.file, h.config⟩, hresult⟩

/-- An update is validated by what is configured. -/
theorem validate_same (h : SameConfigured svc svc') (settings : Json) : validate H svc settings = validate H svc' settings := by
  obtain ⟨enabled, defaultProfile, taskProfiles, profiles, rawApiKeys⟩ := svc
  obtain ⟨enabled', defaultProfile', taskProfiles', profiles', rawApiKeys'⟩ := svc'
  obtain ⟨rfl, rfl, rfl, -, rfl⟩ := h
  rfl

theorem updateSettings_same (henv : SameAccepted H env env') {st st' : State} (h : SameState st st') (settings : Json)
    (written : Bool) : SameState (updateSettings H env st settings written).1 (updateSettings H env' st' settings written).1 := by
  unfold updateSettings
  rw [validate_same h.svc]
  cases validate H st'.svc settings with
  | error e => exact h
  | ok payload =>
    dsimp only
    cases dumps H.toInterp payload.toJson with
    | error e => exact h
    | ok text =>
      cases written with
      | false => exact h
      | true =>
        have hwritten : SameState { st with file := some (reread payload.toJson) } { st' with file := some (reread payload.toJson) } :=
          ⟨h.svc, rfl, h.config⟩
        exact (hwritten.load henv).1

/-- **One action, in two environments.** -/
theorem act_same {st st' : State} (h : SameState st st') {a a' : Environ × Action}
    (ha : SameAccepted H a.1 a'.1 ∧ a.2 = a'.2) : SameState (act H st a) (act H st' a') := by
  obtain ⟨env, a⟩ := a
  obtain ⟨env', a'⟩ := a'
  obtain ⟨henv, rfl⟩ := ha
  cases a with
  | update settings written => exact updateSettings_same henv h settings written
  | configure config =>
    have hconfig : SameState { st with config } { st' with config } := ⟨h.svc, h.file, rfl⟩
    exact (hconfig.load henv).1
  | edit file =>
    have hfile : SameState { st with file } { st' with file } := ⟨h.svc, rfl, h.config⟩
    exact (hfile.load henv).1

/-- **A run, in two sequences of environments**: the files are the same, and so is what is shown. -/
theorem run_same {runs runs' : List (Environ × Action)}
    (h : List.Forall₂ (fun a a' => SameAccepted H a.1 a'.1 ∧ a.2 = a'.2) runs runs') {st st' : State} (hst : SameState st st') :
    SameState (runs.foldl (act H) st) (runs'.foldl (act H) st') := by
  induction h generalizing st st' with
  | nil => exact hst
  | cons ha _ ih => exact ih (act_same hst ha)

/-! ## Updates that are rejected -/

/-- The service when a profile cannot be built: what comes in front of the profiles is loaded. -/
def Service.ahead (H : SettingsHost) (env : Environ) (config : LlmConfig) (overrides : Dict Str Json) (svc : Service) : Service :=
  if (configProfiles H env config.profiles).toBool then
    { (svc.withConfig config).withOverrides overrides with
      taskProfiles := (overrideTasks H overrides (svc.withConfig config).taskProfiles).toOption.getD [] }
  else svc.withConfig config

/-- An update would write what is in the file, and load what is in memory. -/
def Unmoved (H : SettingsHost) (env : Environ) (st : State) (file : Json) : Prop :=
  st.file = some file ∧ st.svc.ahead H env st.config (overridesOf (some file)) = st.svc

/-- Every profile of `config.yaml` and every profile of the settings file can be built. -/
def Loadable (H : SettingsHost) (env : Environ) (config : LlmConfig) (file : Json) : Prop :=
  (configProfiles H env config.profiles).toBool = true ∧ (overrideProfiles H env (overridesOf (some file)) ([], [])).toBool = true

theorem overrideProfiles_toBool (overrides : Dict Str Json) (loaded loaded' : Loaded) :
    (overrideProfiles H env overrides loaded).toBool = (overrideProfiles H env overrides loaded').toBool := by
  unfold overrideProfiles
  split <;> rfl

/-- The tasks of an update are bound to text. -/
theorem overrideTasks_payload (payload : Payload) (taskProfiles : Dict Str Str) :
    ∃ bound, overrideTasks H (overridesOf (some (reread payload.toJson))) taskProfiles = .ok bound := by
  have hget : (overridesOf (some (reread payload.toJson))).get? "task_profiles" =
      some (.obj (Dict.ofList (rereadEntries (payload.taskProfiles.map fun kv => (kv.1, .str kv.2))))) := rfl
  unfold overrideTasks
  rw [hget]
  have hall : ∀ kv ∈ (Dict.ofList (rereadEntries (payload.taskProfiles.map fun kv => (kv.1, .str kv.2)))).filter
      (fun kv => tasks.contains kv.1 && Json.truthy kv.2), ∃ bound : Str × Str, (do
        let name ← strOf H.toInterp kv.2
        Except.ok (kv.1, name)) = Except.ok bound := by
    intro kv hkv
    have hmem := Dict.mem_of_mem_ofList (List.mem_of_mem_filter hkv)
    rw [rereadEntries_eq, List.map_map] at hmem
    obtain ⟨kv', -, rfl⟩ := List.mem_map.mp hmem
    exact ⟨_, rfl⟩
  obtain ⟨bound, hbound, -⟩ := Except.exists_mapM hall
  exact ⟨bound, hbound⟩

/-- **Loading fails when a profile cannot be built**, and leaves what comes in front of the profiles. -/
theorem loadConfig_result {file : Json} (htasks : ∀ t, ∃ bound, overrideTasks H (overridesOf (some file)) t = .ok bound)
    (config : LlmConfig) (svc : Service) :
    ((loadConfig H env config (some file) svc).2 = .ok () ∧ Loadable H env config file) ∨
      (∃ e, (loadConfig H env config (some file) svc).2 = .error e) ∧ ¬ Loadable H env config file ∧
        (loadConfig H env config (some file) svc).1 = svc.ahead H env config (overridesOf (some file)) := by
  unfold loadConfig Service.ahead Loadable
  dsimp only
  cases hconfig : configProfiles H env config.profiles with
  | error e => exact .inr ⟨⟨e, rfl⟩, fun h => Bool.false_ne_true h.1, rfl⟩
  | ok loaded =>
    obtain ⟨bound, hbound⟩ := htasks (svc.withConfig config).taskProfiles
    have hbound' : overrideTasks H (overridesOf (some file)) ((svc.withConfig config).withOverrides (overridesOf (some file))).taskProfiles =
        .ok bound := hbound
    dsimp only
    rw [hbound', hbound]
    dsimp only
    rw [overrideProfiles_toBool _ ([], []) loaded]
    cases overrideProfiles H env (overridesOf (some file)) loaded with
    | error e => exact .inr ⟨⟨e, rfl⟩, fun h => Bool.false_ne_true h.2, rfl⟩
    | ok loaded' => exact .inl ⟨rfl, rfl, rfl⟩

/-- A rejected update leaves the file and the settings in memory. -/
def KeepsWhenRejected (H : SettingsHost) (env : Environ) (st : State) (settings : Json) (written : Bool) : Prop :=
  ∀ e, (updateSettings H env st settings written).2 = .error e → (updateSettings H env st settings written).1 = st

/-- **A rejected update leaves everything** when it is rejected before it is written; after that, when nothing is new. -/
theorem keepsWhenRejected_iff (st : State) (settings : Json) (written : Bool) :
    KeepsWhenRejected H env st settings written ↔
      ∀ payload text, validate H st.svc settings = .ok payload → dumps H.toInterp payload.toJson = .ok text → written = true →
        Loadable H env st.config (reread payload.toJson) ∨ Unmoved H env st (reread payload.toJson) := by
  unfold KeepsWhenRejected updateSettings
  cases hvalidate : validate H st.svc settings with
  | error e => exact iff_of_true (fun _ _ => rfl) nofun
  | ok payload =>
    dsimp only
    cases hdumps : dumps H.toInterp payload.toJson with
    | error e =>
      refine iff_of_true (fun _ _ => rfl) ?_
      intro payload' text hpayload hdumps'
      cases hpayload
      rw [hdumps] at hdumps'
      cases hdumps'
    | ok text =>
      dsimp only
      cases written with
      | false => exact iff_of_true (fun _ _ => rfl) fun _ _ _ _ h => absurd h Bool.false_ne_true
      | true =>
        rw [if_pos rfl]
        rcases loadConfig_result (overrideTasks_payload payload) st.config st.svc with ⟨hok, hloadable⟩ | ⟨⟨e, herror⟩, hnot, hleft⟩
        · refine iff_of_true ?_ ?_
          · intro e he
            have he' : (loadConfig H env st.config (some (reread payload.toJson)) st.svc).2.map (fun _ => getSettings
              (loadConfig H env st.config (some (reread payload.toJson)) st.svc).1 false) = .error e := he
            rw [hok] at he'
            cases he'
          · intro payload' _ heq _ _
            cases heq
            exact .inl hloadable
        · have hstate : ((State.load H env { st with file := some (reread payload.toJson) }).1 = st) ↔
              Unmoved H env st (reread payload.toJson) := by
            unfold Unmoved
            rw [← hleft]
            obtain ⟨svc, file, config⟩ := st
            show State.mk _ _ _ = State.mk _ _ _ ↔ _
            rw [State.mk.injEq]
            exact ⟨fun h => ⟨h.2.1.symm, h.1⟩, fun h => ⟨h.2, h.1.symm, rfl⟩⟩
          constructor
          · intro h payload' _ heq _ _
            cases heq
            exact .inr (hstate.mp (h e (congrArg (Except.map _) herror)))
          · intro h _ _
            exact hstate.mpr ((h payload text rfl hdumps rfl).resolve_left hnot)

/-! ## Services -/

theorem Reached.run {st : State} (h : Reached H st) (runs : List (Environ × Action)) : Reached H (runs.foldl (act H) st) := by
  induction runs generalizing st with
  | nil => exact h
  | cons a runs ih => exact ih (h.next a)

/-- **Settings of a service.** Saving what is shown keeps every key as it is configured; what is shown does not depend on a
    stored or resolved key; neither the file nor what is shown depends on what references resolve to, over any run; and a
    rejected update leaves the file and the memory unless it was written and a profile cannot be built. -/
theorem settings_kept (hH : Coerces H) {st : State} (hst : Reached H st) :
    (∀ env written name raw, st.svc.rawApiKeys.get? name = some raw →
      (updateSettings H env st (getSettings st.svc false) written).1.svc.rawApiKeys.get? name = some raw ∧
        ((updateSettings H env st (getSettings st.svc false) written).1.file = st.file ∨
          fileKey (updateSettings H env st (getSettings st.svc false) written).1.file name = some raw)) ∧
    (∀ svc', ShownAlike st.svc svc' → getSettings st.svc false = getSettings svc' false) ∧
    (∀ runs runs', List.Forall₂ (fun a a' => SameAccepted H a.1 a'.1 ∧ a.2 = a'.2) runs runs' →
      (runs.foldl (act H) st).file = (runs'.foldl (act H) st).file ∧
        getSettings (runs.foldl (act H) st).svc false = getSettings (runs'.foldl (act H) st).svc false) ∧
    ∀ env settings written, KeepsWhenRejected H env st settings written ↔
      ∀ payload text, validate H st.svc settings = .ok payload → dumps H.toInterp payload.toJson = .ok text → written = true →
        Loadable H env st.config (reread payload.toJson) ∨ Unmoved H env st (reread payload.toJson) := by
  refine ⟨?_, ?_, ?_, ?_⟩
  · intro env written name raw hraw
    exact update_shown hH (hst.consistent hH) written hraw
  · intro svc' halike
    exact getSettings_alike (hst.consistent hH) halike
  · intro runs runs' hruns
    have hstart : SameState st st := ⟨⟨rfl, rfl, rfl, rfl, rfl⟩, rfl, rfl⟩
    have hsame := run_same hruns hstart
    exact ⟨hsame.file, getSettings_alike ((hst.run runs).consistent hH) hsame.svc.shownAlike⟩
  · intro env settings written
    exact keepsWhenRejected_iff st settings written

/-- An interpreter whose fields take values of their own type, and text without surrogates. -/
def plainHost : SettingsHost :=
  { asciiInterp with
    text := fun v => match v with
      | .str s => if s.all (fun c => c.val < 0xd800 || 0xdfff < c.val) then some s else none
      | _      => none
    flag := fun v => match v with | .bool b => some b | _ => none
    number := fun v => match v with | .int n => some n | _ => none
    toInt := fun v => match v with | .int n => .ok n | _ => .error .typeError }

theorem plainHost_coerces : Coerces plainHost where
  text := by
    intro v s h
    cases v with
    | str t =>
      have h' : (if t.all (fun c => c.val < 0xd800 || 0xdfff < c.val) then some t else none) = some s := h
      split at h'
      · rename_i hall
        cases h'
        refine ⟨rfl, ?_⟩
        intro c hc
        simpa using List.all_eq_true.mp hall c hc
      · cases h'
    | _ => cases h
  flag _ := rfl
  number _ := rfl
  toInt _ := rfl

/-- A service with a stored key and a reference. -/
def twoKeys : State where
  svc := {}
  file := none
  config := { profiles :=
    [("default", ⟨"http://llm/v1", "sk-1", "m", "", true, 30, 2, 2048⟩), ("env", ⟨"http://llm/v1", "$\x7bKEY\x7d", "m", "", true, 30, 2, 2048⟩)] }

theorem twoKeys_reached : Reached plainHost (State.load plainHost (fun _ => none) twoKeys).1 :=
  .start rfl rfl

/-- The stored key is kept. -/
theorem twoKeys_kept :
    (updateSettings plainHost (fun _ => none) (State.load plainHost (fun _ => none) twoKeys).1
      (getSettings (State.load plainHost (fun _ => none) twoKeys).1.svc false) true).1.svc.rawApiKeys.get? "default" =
      some "sk-1" :=
  ((settings_kept plainHost_coerces twoKeys_reached).1 (fun _ => none) true "default" "sk-1" rfl).1

/-- A reference to a variable whose name cannot be encoded. -/
def lostReference : Json :=
  .obj [("default_profile", .str []), ("profiles",
    .obj [("p", .obj [("api_key", .str (str "$\x7b" ++ [Fin.ofNat 0x110000 0xd800] ++ str "\x7d"))])])]

/-- An update is rejected, and is in the file. -/
theorem rejected_written : ¬ ∀ (H : SettingsHost) (st : State), Coerces H → Reached H st → ∀ env settings written,
    KeepsWhenRejected H env st settings written := by
  intro hall
  have hkeeps := hall plainHost _ plainHost_coerces twoKeys_reached (fun _ => none) lostReference true .valueError (by decide +kernel)
  have hfile := congrArg State.file hkeeps
  exact absurd hfile (by decide +kernel)

end RideTheApi.LlmSettings
