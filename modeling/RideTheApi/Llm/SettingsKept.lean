import RideTheApi.Llm.Settings

/-!
# `Llm.SettingsKept` — saving what was shown keeps the keys

The profiles and the keys as configured have the same names in every service (`Reached.consistent`). An update with what was
shown is validated to what is configured, and is read back as it was written.
-/

namespace RideTheApi.LlmSettings

open Py Config

variable {H : SettingsHost} {env env' : Environ} {svc svc' : Service} {loaded loaded' : Loaded} {name key raw s : Str}
  {fields : ProfileFields} {p p' : Profile}

/-! ## Text that is read back as it is -/

/-- No character starts a pair of surrogates. -/
def Plain (s : Str) : Prop := ∀ c ∈ s, ¬ (0xd800 ≤ c.val ∧ c.val ≤ 0xdbff)

theorem joinSurrogates_plain (h : Plain s) : joinSurrogates (s.map (·.val)) = s := by
  induction s with
  | nil => rfl
  | cons c s ih =>
    have hc := h c List.mem_cons_self
    have hrest := ih fun d hd => h d (List.mem_cons_of_mem _ hd)
    have hval : (Fin.ofNat 0x110000 c.val : CodePoint) = c := Fin.ext (Nat.mod_eq_of_lt c.isLt)
    cases s with
    | nil =>
      show [Fin.ofNat 0x110000 c.val] = [c]
      rw [hval]
    | cons d s =>
      rw [List.map_cons, List.map_cons, joinSurrogates, if_neg, hval]
      · exact congrArg (c :: ·) hrest
      · intro hpair
        simp only [Bool.and_eq_true, decide_eq_true_eq] at hpair
        exact hc ⟨hpair.1.1.1, hpair.1.1.2⟩

theorem plain_append {t : Str} (hs : Plain s) (ht : Plain t) : Plain (s ++ t) := by
  intro c hc
  rcases List.mem_append.mp hc with hc | hc
  · exact hs c hc
  · exact ht c hc

/-- A text field takes plain text. -/
theorem Coerces.plain (hH : Coerces H) {v : Json} (h : H.text v = some s) : v = .str s ∧ Plain s := by
  obtain ⟨hv, hs⟩ := hH.text h
  refine ⟨hv, ?_⟩
  intro c hc hhigh
  rcases hs c hc with hlow | hhigh' <;> omega

theorem encodable_plain (h : encodable s = true) : Plain s := by
  intro c hc hhigh
  have hok := List.all_eq_true.mp h c hc
  simp only [Bool.or_eq_true, Bool.and_eq_true, decide_eq_true_eq] at hok
  omega

/-- A reference is `${`, the name of the variable, and `}`. -/
theorem isEnvReference_eq (h : isEnvReference s = true) : s = str "$\x7b" ++ (s.drop 2).dropLast ++ str "\x7d" := by
  unfold isEnvReference at h
  rw [Bool.and_eq_true] at h
  obtain ⟨rest, rfl⟩ := List.isPrefixOf_iff_prefix.mp h.1
  obtain ⟨before, hbefore⟩ := List.isSuffixOf_iff_suffix.mp h.2
  have hdrop : (str "$\x7b" ++ rest).drop 2 = rest := rfl
  have hlast : some (cp '\x7d') = (str "$\x7b" ++ rest).getLast? := by
    rw [← hbefore]
    exact (List.getLast?_concat ..).symm
  rw [hdrop]
  rcases List.eq_nil_or_concat rest with rfl | ⟨name, c, rfl⟩
  · -- `${` does not end in `}`
    exact absurd hlast (by decide)
  · rw [List.concat_eq_append, ← List.append_assoc, List.getLast?_concat] at hlast
    obtain rfl := Option.some.inj hlast
    rw [List.concat_eq_append, List.dropLast_concat, List.append_assoc]
    rfl

/-! ## Profiles that are built -/

theorem resolveEnvVar_plain (h : resolveEnvVar env raw = .ok key) : isEnvReference raw = true → Plain raw := by
  intro href
  unfold resolveEnvVar at h
  rw [if_pos href] at h
  dsimp only at h
  split at h
  · rename_i hencodable
    rw [isEnvReference_eq href]
    refine plain_append (plain_append ?_ (encodable_plain hencodable)) ?_
    · intro c hc
      simp [str, cp] at hc
      rcases hc with rfl | rfl <;> decide
    · intro c hc
      simp [str, cp] at hc
      subst hc
      decide
  · cases h

/-- A profile that was built has the values it was built from, and its key resolved. -/
theorem newProfile_ok (hH : Coerces H) (h : newProfile H env name fields = .ok p) :
    Plain name ∧ Plain fields.apiKey ∧ (Plain p.baseUrl ∧ Plain p.modelId ∧ Plain p.promptTemplate) ∧
      resolveEnvVar env fields.apiKey = .ok p.apiKey := by
  obtain ⟨key, hkey, h⟩ := Except.bind_ok_iff.mp h
  dsimp only at h
  split at h
  · rename_i profile hprofile
    cases h
    simp only [Option.bind_eq_bind, Option.bind_eq_some_iff] at hprofile
    obtain ⟨_, hname, baseUrl, hbase, apiKey, hkey', modelId, hmodel, template, htemplate, hprofile⟩ := hprofile
    obtain ⟨enabled, -, timeout, -, maxRetries, -, maxTokens, -, hprofile⟩ := hprofile
    cases hprofile
    obtain ⟨heq, hplain⟩ := hH.plain hkey'
    cases heq
    refine ⟨?_, ?_, ⟨(hH.plain hbase).2, (hH.plain hmodel).2, (hH.plain htemplate).2⟩, hkey⟩
    · obtain ⟨heq, hplain⟩ := hH.plain hname
      cases heq
      exact hplain
    · by_cases href : isEnvReference fields.apiKey = true
      · exact resolveEnvVar_plain hkey href
      · unfold resolveEnvVar at hkey
        rw [if_neg href] at hkey
        cases hkey
        exact hplain
  · cases h

/-! ## Profiles and keys of the same names -/

/-- The profiles and the keys as configured have the same names; all of it is plain. -/
structure Whole (loaded : Loaded) : Prop where
  keys  : loaded.1.keys = loaded.2.keys
  nodup : loaded.1.keys.Nodup
  names : ∀ name ∈ loaded.1.keys, Plain name
  texts : ∀ kv ∈ loaded.1, Plain kv.2.baseUrl ∧ Plain kv.2.modelId ∧ Plain kv.2.promptTemplate
  raws  : ∀ kv ∈ loaded.2, Plain kv.2

theorem whole_nil : Whole ([], []) := ⟨rfl, List.nodup_nil, nofun, nofun, nofun⟩

theorem Whole.add (hH : Coerces H) (h : Whole loaded) (hadd : addProfile H env loaded name fields = .ok loaded') :
    Whole loaded' := by
  obtain ⟨p, hp, hadd⟩ := Except.bind_ok_iff.mp hadd
  cases hadd
  obtain ⟨hname, hraw, htexts, -⟩ := newProfile_ok hH hp
  exact {
    keys := Dict.keys_set_congr h.keys name p fields.apiKey
    nodup := Dict.nodup_keys_set h.nodup
    names := fun n hn => by
      rcases Dict.mem_keys_set.mp hn with hn | rfl
      · exact h.names n hn
      · exact hname
    texts := fun kv hkv => by
      rcases Dict.mem_set hkv with hkv | rfl
      · exact h.texts kv hkv
      · exact htexts
    raws := fun kv hkv => by
      rcases Dict.mem_set hkv with hkv | rfl
      · exact h.raws kv hkv
      · exact hraw }

theorem Whole.configProfiles (hH : Coerces H) {profiles : Dict Str ProfileValues}
    (h : configProfiles H env profiles = .ok loaded) : Whole loaded := by
  unfold LlmSettings.configProfiles at h
  have hstart := whole_nil
  generalize (([], []) : Loaded) = start at h hstart
  induction profiles generalizing start with
  | nil =>
    cases h
    exact hstart
  | cons kv profiles ih =>
    rw [List.foldlM_cons] at h
    obtain ⟨next, hadd, h⟩ := Except.bind_ok_iff.mp h
    exact ih next h (hstart.add hH hadd)

theorem Whole.addFileProfile (hH : Coerces H) (h : Whole loaded) {kv : Str × Json}
    (hadd : addFileProfile H env loaded kv = .ok loaded') : Whole loaded' := by
  obtain ⟨name, pcfg⟩ := kv
  cases pcfg with
  | obj pcfg =>
    obtain ⟨fields, -, hadd⟩ := Except.bind_ok_iff.mp hadd
    exact h.add hH hadd
  | _ =>
    cases hadd
    exact h

theorem Whole.overrideProfiles (hH : Coerces H) (h : Whole loaded) {overrides : Dict Str Json}
    (hload : overrideProfiles H env overrides loaded = .ok loaded') : Whole loaded' := by
  unfold LlmSettings.overrideProfiles at hload
  split at hload
  · rename_i profiles hget
    clear hget
    have hstart := whole_nil
    generalize (([], []) : Loaded) = start at hload hstart
    induction profiles generalizing start with
    | nil =>
      cases hload
      exact hstart
    | cons kv profiles ih =>
      rw [List.foldlM_cons] at hload
      obtain ⟨next, hadd, hload⟩ := Except.bind_ok_iff.mp hload
      exact ih next hload (hstart.addFileProfile hH hadd)
  · cases hload
    exact h

/-- The profiles and keys of a service. -/
def Consistent (svc : Service) : Prop := Whole (svc.profiles, svc.rawApiKeys)

/-- `_load_config` replaces the profiles and the keys together, or not at all. -/
theorem loadConfig_profiles (config : LlmConfig) (file : Option Json) (svc : Service) :
    (∃ e, (loadConfig H env config file svc).2 = .error e ∧ (loadConfig H env config file svc).1.profiles = svc.profiles ∧
      (loadConfig H env config file svc).1.rawApiKeys = svc.rawApiKeys) ∨
    ∃ loaded loaded', (loadConfig H env config file svc).2 = .ok () ∧ configProfiles H env config.profiles = .ok loaded ∧
      overrideProfiles H env (overridesOf file) loaded = .ok loaded' ∧
      (loadConfig H env config file svc).1.profiles = loaded'.1 ∧ (loadConfig H env config file svc).1.rawApiKeys = loaded'.2 := by
  unfold loadConfig
  dsimp only
  cases hconfig : configProfiles H env config.profiles with
  | error e => exact .inl ⟨e, rfl, rfl, rfl⟩
  | ok loaded =>
    dsimp only
    cases htasks : overrideTasks H (overridesOf file) ((svc.withConfig config).withOverrides (overridesOf file)).taskProfiles with
    | error e => exact .inl ⟨e, rfl, rfl, rfl⟩
    | ok taskProfiles =>
      dsimp only
      cases hprofiles : overrideProfiles H env (overridesOf file) loaded with
      | error e => exact .inl ⟨e, rfl, rfl, rfl⟩
      | ok loaded' => exact .inr ⟨loaded, loaded', rfl, rfl, hprofiles, rfl, rfl⟩

theorem Consistent.load (hH : Coerces H) (h : Consistent svc) (config : LlmConfig) (file : Option Json) :
    Consistent (loadConfig H env config file svc).1 := by
  unfold Consistent
  rcases loadConfig_profiles config file svc with ⟨e, -, hprofiles, hraw⟩ | ⟨loaded, loaded', -, hconfig, hload, hprofiles, hraw⟩
  · rw [hprofiles, hraw]
    exact h
  · rw [hprofiles, hraw]
    exact (Whole.configProfiles hH hconfig).overrideProfiles hH hload

/-- **Every service has profiles and keys of the same names.** -/
theorem Reached.consistent (hH : Coerces H) {st : State} (h : Reached H st) : Consistent st.svc := by
  induction h with
  | start hsvc hload =>
    refine Consistent.load hH ?_ _ _
    rw [hsvc]
    exact whole_nil
  | next h a ih =>
    obtain ⟨env, a⟩ := a
    cases a with
    | update settings written =>
      show Consistent (updateSettings H env _ settings written).1.svc
      unfold updateSettings
      split
      · exact ih
      · split
        · exact ih
        · split
          · exact ih.load hH _ _
          · exact ih
    | configure config => exact ih.load hH _ _
    | edit file => exact ih.load hH _ _

/-! ## Saving what was shown -/

/-- What is shown of a key as configured is read as this key. -/
theorem publicApiKey_restored (h : svc.rawApiKeys.get? name = some raw) :
    (if publicApiKey svc name = secretMask then (svc.rawApiKeys.get? name).getD [] else publicApiKey svc name) = raw := by
  unfold publicApiKey
  rw [h]
  show (if (if isEnvReference raw then raw else if raw = [] then [] else secretMask) = secretMask then raw
    else if isEnvReference raw then raw else if raw = [] then [] else secretMask) = raw
  by_cases href : isEnvReference raw = true
  · rw [if_pos href]
    exact ite_self raw
  · rw [if_neg href]
    by_cases hempty : raw = []
    · subst hempty
      rfl
    · rw [if_neg hempty, if_pos rfl]

/-- Values of the right types are validated to themselves, but for the mask. -/
theorem validateProfile_object (hH : Coerces H) (v : ProfileValues) :
    validateProfile H svc name v.object =
      .ok { v with apiKey := if v.apiKey = secretMask then (svc.rawApiKeys.get? name).getD [] else v.apiKey } := by
  unfold validateProfile
  rw [show field v.object "api_key" (.str []) = .str v.apiKey from rfl,
    show field v.object "base_url" (.str "https://api.openai.com/v1") = .str v.baseUrl from rfl,
    show field v.object "model_id" (.str "gpt-4o-mini") = .str v.modelId from rfl,
    show field v.object "prompt_template" (.str []) = .str v.promptTemplate from rfl,
    show field v.object "enabled" (.bool true) = .bool v.enabled from rfl,
    show field v.object "timeout" (.int 30) = .int v.timeout from rfl,
    show field v.object "max_retries" (.int 2) = .int v.maxRetries from rfl,
    show field v.object "max_tokens" (.int 2048) = .int v.maxTokens from rfl, hH.toInt, hH.toInt, hH.toInt]
  rfl

/-- **A profile that was shown is validated to its values as they are configured.** -/
theorem validateProfile_shown (hH : Coerces H) (h : svc.rawApiKeys.get? name = some raw) (p : Profile) :
    validateProfile H svc name (p.withKey (publicApiKey svc name)).object = .ok (p.withKey raw) := by
  rw [validateProfile_object hH]
  exact congrArg (fun apiKey => Except.ok (p.withKey apiKey)) (publicApiKey_restored h)

/-- The key of a profile as it is configured. -/
def configured (svc : Service) (kv : Str × Profile) : Str × ProfileValues :=
  (kv.1, kv.2.withKey ((svc.rawApiKeys.get? kv.1).getD []))

theorem Consistent.get_raw (h : Consistent svc) {kv : Str × Profile} (hkv : kv ∈ svc.profiles) :
    ∃ raw, svc.rawApiKeys.get? kv.1 = some raw := by
  have hname : kv.1 ∈ svc.rawApiKeys.keys := h.keys ▸ List.mem_map_of_mem hkv
  exact Option.isSome_iff_exists.mp (Dict.mem_keys.mp hname)

theorem foldlM_addValidated (hH : Coerces H) {profiles : Dict Str Profile} {before : Dict Str ProfileValues}
    (hraw : ∀ kv ∈ profiles, ∃ raw, svc.rawApiKeys.get? kv.1 = some raw) (hnodup : (before.keys ++ profiles.keys).Nodup) :
    (profiles.map fun kv => (kv.1, JsonTree.obj (kv.2.withKey (publicApiKey svc kv.1)).object)).foldlM (addValidated H svc) before =
      .ok (before ++ profiles.map (configured svc)) := by
  induction profiles generalizing before with
  | nil =>
    rw [List.map_nil, List.map_nil, List.append_nil]
    rfl
  | cons kv profiles ih =>
    obtain ⟨raw, hkv⟩ := hraw kv List.mem_cons_self
    have hnot : kv.1 ∉ before.keys := by
      intro hmem
      exact (List.nodup_append.mp hnodup).2.2 _ hmem _ (List.mem_cons_self) rfl
    have hadd : addValidated H svc before (kv.1, .obj (kv.2.withKey (publicApiKey svc kv.1)).object) =
        .ok (before ++ [configured svc kv]) := by
      show (do
        let values ← validateProfile H svc kv.1 (kv.2.withKey (publicApiKey svc kv.1)).object
        .ok (before.set kv.1 values)) = _
      rw [validateProfile_shown hH hkv, Except.ok_bind, Dict.set_of_notMem _ hnot]
      unfold configured
      rw [hkv]
      rfl
    rw [List.map_cons, List.foldlM_cons, hadd, Except.ok_bind, ih fun kv' hkv' => hraw kv' (List.mem_cons_of_mem _ hkv')]
    · simp
    · simpa [Dict.keys, configured] using hnodup

/-- **What was shown is validated to what is configured.** -/
theorem validate_shown (hH : Coerces H) (h : Consistent svc) {payload : Payload}
    (hvalidate : validate H svc (getSettings svc false) = .ok payload) : payload.profiles = svc.profiles.map (configured svc) := by
  have hfold : (svc.profiles.map fun kv => (kv.1, JsonTree.obj (kv.2.withKey (publicApiKey svc kv.1)).object)).foldlM (addValidated H svc) [] =
      .ok (svc.profiles.map (configured svc)) :=
    foldlM_addValidated hH (fun kv hkv => Consistent.get_raw h hkv) h.nodup
  have hvalidate' : (do
      let validated ← (svc.profiles.map fun kv => (kv.1, JsonTree.obj (kv.2.withKey (publicApiKey svc kv.1)).object)).foldlM (addValidated H svc) []
      checkDefault svc.defaultProfile validated
      let taskProfiles ← validateTaskProfiles H
        (some (.obj (tasks.map fun task => (task, .str ((svc.taskProfiles.get? task).getD []))))) validated
      .ok { enabled := svc.enabled, defaultProfile := svc.defaultProfile, profiles := validated, taskProfiles }) =
      Except.ok payload := hvalidate
  rw [hfold, Except.ok_bind] at hvalidate'
  obtain ⟨_, -, hvalidate'⟩ := Except.bind_ok_iff.mp hvalidate'
  obtain ⟨taskProfiles, -, hvalidate'⟩ := Except.bind_ok_iff.mp hvalidate'
  cases hvalidate'
  rfl

/-! ## The settings file -/

theorem rereadEntries_eq (kvs : List (Str × Json)) :
    rereadEntries kvs = kvs.map fun kv => (joinSurrogates (kv.1.map (·.val)), reread kv.2) := by
  induction kvs with
  | nil => rfl
  | cons kv kvs ih => rw [rereadEntries, ih, List.map_cons]

/-- Entries of plain keys whose values are read back as they are. -/
theorem reread_obj {kvs : Dict Str Json} (hkeys : ∀ kv ∈ kvs, Plain kv.1) (hnodup : kvs.keys.Nodup)
    (hvalues : ∀ kv ∈ kvs, reread kv.2 = kv.2) : reread (.obj kvs) = .obj kvs := by
  have hsame : rereadEntries kvs = kvs := by
    rw [rereadEntries_eq]
    refine (List.map_congr_left ?_).trans (List.map_id kvs)
    intro kv hkv
    rw [joinSurrogates_plain (hkeys kv hkv), hvalues kv hkv]
    rfl
  rw [reread, hsame]
  exact congrArg JsonTree.obj (Dict.foldl_set_of_nodup kvs [] hnodup)

theorem reread_object {v : ProfileValues} (hbase : Plain v.baseUrl) (hkey : Plain v.apiKey) (hmodel : Plain v.modelId)
    (htemplate : Plain v.promptTemplate) : reread (.obj v.object) = .obj v.object := by
  have hentries : rereadEntries v.object = v.object := by
    unfold ProfileValues.object
    rw [rereadEntries_eq]
    simp only [List.map_cons, List.map_nil, reread, joinSurrogates_plain hbase, joinSurrogates_plain hkey,
      joinSurrogates_plain hmodel, joinSurrogates_plain htemplate]
    rfl
  rw [reread, hentries]
  rfl

/-- The key of a profile in the settings file. -/
def fileKey (file : Option Json) (name : Str) : Option Str :=
  match (overridesOf file).get? "profiles" with
  | some (.obj profiles) =>
    match Dict.get? profiles name with
    | some (.obj pcfg) => some (rawSecret (field pcfg "api_key" (.str [])))
    | _                => none
  | _                    => none

/-- The profiles of a payload in the file that it is written to. -/
theorem overridesOf_payload (payload : Payload) :
    (overridesOf (some (reread payload.toJson))).get? "profiles" =
      some (reread (.obj (payload.profiles.map fun kv => (kv.1, .obj kv.2.object)))) := rfl

/-- The profiles as they are configured, as JSON. -/
def configuredObject (svc : Service) : Dict Str Json :=
  (svc.profiles.map (configured svc)).map fun kv => (kv.1, .obj kv.2.object)

theorem keys_configuredObject (svc : Service) : (configuredObject svc).keys = svc.profiles.keys := by
  unfold configuredObject Dict.keys
  rw [List.map_map, List.map_map]
  rfl

/-- A consistent service is read back as it was written. -/
theorem reread_configured (h : Consistent svc) : reread (.obj (configuredObject svc)) = .obj (configuredObject svc) := by
  have hmem {kv : Str × Json} (hkv : kv ∈ configuredObject svc) :
      ∃ p, (kv.1, p) ∈ svc.profiles ∧ kv.2 = .obj (configured svc (kv.1, p)).2.object := by
    unfold configuredObject at hkv
    rw [List.map_map] at hkv
    obtain ⟨⟨name, p⟩, hp, rfl⟩ := List.mem_map.mp hkv
    exact ⟨p, hp, rfl⟩
  refine reread_obj ?_ ?_ ?_
  · intro kv hkv
    obtain ⟨p, hp, -⟩ := hmem hkv
    exact h.names kv.1 (List.mem_map_of_mem hp)
  · rw [keys_configuredObject]
    exact h.nodup
  · intro kv hkv
    obtain ⟨p, hp, hobject⟩ := hmem hkv
    obtain ⟨raw, hraw⟩ := Consistent.get_raw h hp
    obtain ⟨hbase, hmodel, htemplate⟩ := h.texts _ hp
    rw [hobject]
    refine reread_object hbase ?_ hmodel htemplate
    unfold configured
    rw [hraw]
    exact h.raws _ (Dict.mem_of_get? hraw)

/-- A key as configured is in the object of its profile. -/
theorem mem_configuredObject (h : Consistent svc) (hraw : svc.rawApiKeys.get? name = some raw) :
    ∃ p : Profile, (name, JsonTree.obj (p.withKey raw).object) ∈ configuredObject svc := by
  have hname : name ∈ svc.profiles.keys := by
    have hkeys : svc.profiles.keys = svc.rawApiKeys.keys := h.keys
    rw [hkeys]
    exact Dict.mem_keys.mpr (Option.isSome_iff_exists.mpr ⟨raw, hraw⟩)
  obtain ⟨⟨name', p⟩, hp, rfl⟩ := List.mem_map.mp hname
  refine ⟨p, ?_⟩
  unfold configuredObject
  rw [List.map_map]
  refine List.mem_map.mpr ⟨_, hp, ?_⟩
  show (name', JsonTree.obj (p.withKey ((svc.rawApiKeys.get? name').getD [])).object) = _
  rw [hraw]
  rfl

/-- A profile of the file is loaded with its key as it is there. -/
theorem addFileProfile_raw {kv : Str × Json} (h : addFileProfile H env loaded kv = .ok loaded') :
    (∀ n, n ≠ kv.1 → loaded'.2.get? n = loaded.2.get? n) ∧
      ∀ pcfg, kv.2 = .obj pcfg → loaded'.2.get? kv.1 = some (rawSecret (field pcfg "api_key" (.str []))) := by
  obtain ⟨name, pcfg⟩ := kv
  cases pcfg with
  | obj pcfg =>
    obtain ⟨fields, hfields, h⟩ := Except.bind_ok_iff.mp h
    obtain ⟨p, -, h⟩ := Except.bind_ok_iff.mp h
    cases h
    obtain ⟨maxTokens, -, hfields⟩ := Except.bind_ok_iff.mp hfields
    cases hfields
    constructor
    · intro n hn
      exact (Dict.get?_set ..).trans (if_neg (Ne.symm hn))
    · intro pcfg' heq
      cases heq
      exact (Dict.get?_set ..).trans (if_pos rfl)
  | _ =>
    cases h
    exact ⟨fun _ _ => rfl, nofun⟩

theorem foldlM_file_raw {profiles : Dict Str Json} (hnodup : profiles.keys.Nodup)
    (h : profiles.foldlM (addFileProfile H env) loaded = .ok loaded') :
    (∀ n, n ∉ profiles.keys → loaded'.2.get? n = loaded.2.get? n) ∧
      ∀ n pcfg, (n, .obj pcfg) ∈ profiles → loaded'.2.get? n = some (rawSecret (field pcfg "api_key" (.str []))) := by
  induction profiles generalizing loaded with
  | nil =>
    cases h
    exact ⟨fun _ _ => rfl, nofun⟩
  | cons kv profiles ih =>
    rw [List.foldlM_cons] at h
    obtain ⟨next, hadd, h⟩ := Except.bind_ok_iff.mp h
    obtain ⟨hnot, hrest⟩ := List.nodup_cons.mp hnodup
    obtain ⟨hothers, hset⟩ := addFileProfile_raw hadd
    obtain ⟨hlater, hfound⟩ := ih hrest h
    constructor
    · intro n hn
      obtain ⟨hne, hn⟩ := List.ne_and_not_mem_of_not_mem_cons hn
      exact (hlater n hn).trans (hothers n hne)
    · intro n pcfg hmem
      rcases List.mem_cons.mp hmem with rfl | hmem
      · exact (hlater _ hnot).trans (hset pcfg rfl)
      · exact hfound n pcfg hmem

/-- **Saving what was shown keeps every key**: in memory, and in the file when it is written. -/
theorem update_shown (hH : Coerces H) {st : State} (h : Consistent st.svc) (written : Bool)
    (hraw : st.svc.rawApiKeys.get? name = some raw) :
    (updateSettings H env st (getSettings st.svc false) written).1.svc.rawApiKeys.get? name = some raw ∧
      ((updateSettings H env st (getSettings st.svc false) written).1.file = st.file ∨
        fileKey (updateSettings H env st (getSettings st.svc false) written).1.file name = some raw) := by
  unfold updateSettings
  split
  · exact ⟨hraw, .inl rfl⟩
  · rename_i payload hvalidate
    split
    · exact ⟨hraw, .inl rfl⟩
    · split
      · have hprofiles := validate_shown hH h hvalidate
        have hread : (overridesOf (some (reread payload.toJson))).get? "profiles" = some (.obj (configuredObject st.svc)) := by
          rw [overridesOf_payload, hprofiles]
          exact congrArg some (reread_configured h)
        have hnodup : (configuredObject st.svc).keys.Nodup := by
          rw [keys_configuredObject]
          exact h.nodup
        obtain ⟨p, hmem⟩ := mem_configuredObject h hraw
        constructor
        · rcases loadConfig_profiles st.config (some (reread payload.toJson)) st.svc with
            ⟨e, -, -, hsame⟩ | ⟨loaded, loaded', -, -, hload, -, hsame⟩
          · show (loadConfig H env st.config (some (reread payload.toJson)) st.svc).1.rawApiKeys.get? name = _
            rw [hsame]
            exact hraw
          · show (loadConfig H env st.config (some (reread payload.toJson)) st.svc).1.rawApiKeys.get? name = _
            unfold overrideProfiles at hload
            rw [hread] at hload
            rw [hsame]
            exact (foldlM_file_raw hnodup hload).2 name _ hmem
        · right
          show fileKey (some (reread payload.toJson)) name = _
          unfold fileKey
          rw [hread]
          have hget := Dict.get?_of_mem hnodup hmem
          dsimp only at hget ⊢
          rw [hget]
          rfl
      · exact ⟨hraw, .inl rfl⟩

end RideTheApi.LlmSettings
