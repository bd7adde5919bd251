import Rhythm.Library.Proxies
import Rhythm.Runs.Scopes
import Rhythm.Unmarshal

/-!
# Rhythm.Library.Environments

Environment profiles, from the configuration that `prepareEnvironmentConfig` accepts to the
variables that `ResolveEnvironmentProfile` hands to a run.  The parser of `net/url`, `%q`, the time
format and the secrets of the database are inputs.

* `prepareEnvironmentConfig_ok` — what is stored is in normal form;
* `resolves_iff` — an accepted environment resolves exactly if no sensitive variable is empty and
  no variable has the name of a fixed key with another value.
-/

namespace Rhythm.Library

open Fallible Text Unmarshal

/-! ## Names -/

def sensitiveFragments : List String :=
  ["password", "secret", "token", "credential", "private_key", "apikey", "api_key"]

/-- `sensitiveKeyName`. -/
def sensitiveKeyName (key : String) : Bool := sensitiveFragments.any (contains (toLower key))

/-- `strings.TrimRight` at one character. -/
def trimRight (text : String) (c : Char) : String := String.ofList (text.toList.rdropWhile (· = c))

/-! ## Inputs -/

/-- An environment's base URL as `net/url` parses it. -/
structure ParsedBase where
  scheme : String
  host : String
  hostname : String
  user : Bool

/-- What environment profiles take from their library. -/
structure EnvironmentLibrary where
  service : Service
  /-- `fmt.Sprint` prints a text as it is. -/
  sprint_str : ∀ text, service.sprint (.str text) = text
  parse : String → Option ParsedBase
  /-- `%q`. -/
  quote : String → String
  /-- The format `RFC3339Nano`. -/
  formatTime : Nat → String
  /-- The value that the database has for a secret. -/
  secret : String → Except String String

/-- A variable and its value. -/
abbrev Variable := String × String

/-- The configuration of an environment profile. -/
structure PreparedEnvironment where
  baseURL : String
  host : String
  region : String
  /-- `variables` -/
  values : List Variable
  deriving DecidableEq

/-- `countSecretReferences`. -/
def countSecretReferences (values : List Variable) : Nat :=
  (values.filter fun entry => trimSpace entry.2 ≠ "" &&
    (sensitiveKeyName entry.1 || contains (toLower entry.1) "secretref")).length

/-- What is stored; the variables are listed in the order in which they are visited. -/
def PreparedEnvironment.config (prepared : PreparedEnvironment) (visited : List Variable) :
    Config :=
  [("baseUrl", .str prepared.baseURL), ("host", .str prepared.host),
    ("region", .str prepared.region),
    ("variables", .obj (visited.map fun entry => (entry.1, .str entry.2))),
    ("variableCount", .num prepared.values.length),
    ("secretCount", .num (countSecretReferences prepared.values))]

/-- `EnvironmentMaterial`. -/
structure EnvironmentMaterial where
  id : String
  name : String
  profileType : String
  baseURL : String
  region : String
  updatedAt : String
  /-- `variables` -/
  values : List Variable

namespace EnvironmentLibrary

variable (lib : EnvironmentLibrary)

/-! ## Saving -/

/-- One turn of the loop of `prepareEnvironmentConfig`. -/
def prepareVariable (values : List Variable) (raw : String × Json) :
    Except String (List Variable) :=
  let key := trimSpace raw.1
  let value := trimSpace (lib.service.sprint raw.2)
  if key = "" then .error "environment variable name is required"
  else if sensitiveKeyName key ∧ value ≠ "" then
    match normalizeSecretAlias value with
    | .error message =>
      .error ("sensitive environment variable " ++ lib.quote key ++ ": " ++ message)
    | .ok name => .ok (setKey values key name)
  else .ok (setKey values key value)

def stages : List String := ["PRODUCTION", "STAGING", "DEVELOPMENT", "TEST", "LOCAL", "CUSTOM"]

def environmentStage (profileType : String) : Except String String :=
  let stage := toUpper (trimSpace profileType)
  let stage := if stage = "" then "CUSTOM" else stage
  if stage ∈ stages then .ok stage
  else .error
    "environment type must be PRODUCTION, STAGING, DEVELOPMENT, TEST, LOCAL, or CUSTOM"

def acceptBase (baseURL : String) : Except String ParsedBase :=
  if baseURL = "" then .error "environment base URL is required"
  else
    match lib.parse baseURL with
    | none => .error "environment base URL must be a valid HTTP or HTTPS URL"
    | some parsed =>
      if parsed.host = "" ∨ (parsed.scheme ≠ "http" ∧ parsed.scheme ≠ "https") then
        .error "environment base URL must be a valid HTTP or HTTPS URL"
      else if parsed.user then .error "environment base URL must not contain credentials"
      else .ok parsed

/-- `prepareEnvironmentConfig`. -/
def prepareEnvironmentConfig (profileType : String) (config : Config) :
    Except String (PreparedEnvironment × String) := do
  let stage ← environmentStage profileType
  let baseURL := trimRight (lib.service.firstString config ["baseUrl"]) '/'
  let parsed ← lib.acceptBase baseURL
  let values ← ((member config "variables").fields?.getD []).foldlM lib.prepareVariable []
  return ({
    baseURL
    host := toLower parsed.hostname
    region := trimSpace (lib.service.firstString config ["region"])
    values }, stage)

/-! ## Resolving -/

/-- `ResolveSecret`. -/
def resolveSecret (reference : String) : Except String String :=
  normalizeSecretAlias reference >>= lib.secret

/-- One turn of the loop of `ResolveEnvironmentProfile`. -/
def resolveVariable (entry : String × Json) : Except String Variable :=
  let value := trimSpace (lib.service.sprint entry.2)
  if sensitiveKeyName entry.1 then
    match lib.resolveSecret value with
    | .error message =>
      .error ("resolve environment variable " ++ lib.quote entry.1 ++ ": " ++ message)
    | .ok secret => .ok (entry.1, secret)
  else .ok (entry.1, value)

def setFixed (values : List Variable) (key value : String) : List Variable :=
  if value ≠ "" then setKey values key value else values

/-- What `ResolveEnvironmentProfile` returns, once the variables are resolved. -/
def environmentMaterial (profile : Profile) (values : List Variable) : EnvironmentMaterial :=
  let baseURL := trimSpace (lib.service.sprint (member profile.config "baseUrl"))
  let region := trimSpace (lib.service.sprint (member profile.config "region"))
  { id := profile.id
    name := profile.name
    profileType := profile.profileType
    baseURL
    region
    updatedAt := lib.formatTime profile.updatedAt
    values := setFixed (setFixed values "baseUrl" baseURL) "region" region }

/-- `ResolveEnvironmentProfile`, from what `profileByIdentifier` finds on. -/
def resolveEnvironmentProfile (found : Except String Profile) :
    Except String EnvironmentMaterial := do
  let profile ← found
  let configured := (member profile.config "variables").fields?.getD []
  let values ← configured.mapM lib.resolveVariable
  return lib.environmentMaterial profile values

/-! ## What is stored -/

/-- The variables of a stored environment. -/
structure StoredVariables (values : List Variable) : Prop where
  nodup : (values.map Prod.fst).Nodup
  trimmed : ∀ entry ∈ values, trimSpace entry.2 = entry.2

section Stored

variable {lib : EnvironmentLibrary} {values values' : List Variable}

theorem nodup_setKey {key value : String} (h : (values.map Prod.fst).Nodup) :
    ((setKey values key value).map Prod.fst).Nodup := by
  unfold setKey
  split
  · have hkeys : (values.map fun entry => if entry.1 = key then (key, value) else entry).map
        Prod.fst = values.map Prod.fst := by
      rw [List.map_map]
      refine List.map_congr_left fun entry _ => ?_
      dsimp only [Function.comp_apply]
      split
      · next hkey => exact hkey.symm
      · rfl
    rwa [hkeys]
  · next hnew =>
    rw [Bool.not_eq_true, Option.isSome_eq_false_iff, Option.isNone_iff_eq_none] at hnew
    rw [List.map_append, List.map_singleton]
    rw [← List.concat_eq_append]
    refine h.concat fun hmem => ?_
    obtain ⟨entry, hentry, hkey⟩ := List.mem_map.mp hmem
    obtain rfl := hkey
    exact Runs.Values.lookup_eq_none.mp hnew entry.2 hentry

theorem storedVariables_prepareVariable {raw : String × Json}
    (h : lib.prepareVariable values raw = .ok values') (hstored : StoredVariables values) :
    StoredVariables values' := by
  have hset : ∀ key value, trimSpace value = value →
      StoredVariables (setKey values key value) := by
    intro key value hvalue
    refine ⟨nodup_setKey hstored.nodup, fun entry hentry => ?_⟩
    obtain rfl | hold := mem_setKey hentry
    · exact hvalue
    · exact hstored.trimmed entry hold
  unfold prepareVariable at h
  dsimp only at h
  split at h
  · cases h
  · split at h
    · cases hname : normalizeSecretAlias (trimSpace (lib.service.sprint raw.2)) with
      | error message =>
        rw [hname] at h
        cases h
      | ok name =>
        rw [hname] at h
        obtain rfl := Except.ok.inj h
        rw [normalizeSecretAlias_ok hname]
        exact hset _ _ (trimSpace_trimSpace _)
    · obtain rfl := Except.ok.inj h
      exact hset _ _ (trimSpace_trimSpace _)

theorem storedVariables_foldlM {raw : List (String × Json)}
    (h : raw.foldlM lib.prepareVariable values = .ok values')
    (hstored : StoredVariables values) : StoredVariables values' := by
  induction raw generalizing values with
  | nil =>
    obtain rfl := Except.ok.inj h
    exact hstored
  | cons entry raw ih =>
    grind [bind_eq_ok_iff, storedVariables_prepareVariable]

/-- **What is stored is in normal form.** -/
theorem prepareEnvironmentConfig_ok {profileType stage : String} {config : Config}
    {prepared : PreparedEnvironment}
    (h : lib.prepareEnvironmentConfig profileType config = .ok (prepared, stage)) :
    StoredVariables prepared.values ∧ trimSpace prepared.region = prepared.region := by
  unfold prepareEnvironmentConfig at h
  obtain ⟨stage', -, h⟩ := bind_eq_ok_iff.mp h
  obtain ⟨parsed, -, h⟩ := bind_eq_ok_iff.mp h
  obtain ⟨values, hvalues, h⟩ := bind_eq_ok_iff.mp h
  obtain ⟨rfl, rfl⟩ := Prod.mk.inj (Except.ok.inj h)
  exact ⟨storedVariables_foldlM hvalues ⟨List.nodup_nil, by simp⟩, trimSpace_trimSpace _⟩

end Stored

/-! ## What is resolved -/

/-- What a variable should be resolved to: its value, or the value of its secret. -/
def Shows (entry : Variable) (value : String) : Prop :=
  if sensitiveKeyName entry.1 = true then lib.resolveSecret entry.2 = .ok value
  else value = entry.2

def Resolves (prepared : PreparedEnvironment) (profile : Profile) : Prop :=
  ∃ material, lib.resolveEnvironmentProfile (.ok profile) = .ok material ∧
    ∀ entry ∈ prepared.values, ∃ value, material.values.lookup entry.1 = some value ∧
      lib.Shows entry value

end EnvironmentLibrary

/-- The values that `ResolveEnvironmentProfile` writes under names of its own. -/
def PreparedEnvironment.fixed (prepared : PreparedEnvironment) : List Variable :=
  [("baseUrl", trimSpace prepared.baseURL), ("region", trimSpace prepared.region)].filter
    fun entry => entry.2 ≠ ""

/-- No sensitive variable is empty, and none has a name of `fixed` with another value. -/
structure Resolvable (prepared : PreparedEnvironment) : Prop where
  filled : ∀ entry ∈ prepared.values, sensitiveKeyName entry.1 = true → entry.2 ≠ ""
  agrees : ∀ entry ∈ prepared.values, ∀ fixed ∈ prepared.fixed, entry.1 = fixed.1 →
    entry.2 = fixed.2

namespace EnvironmentLibrary

section Resolved

variable {lib : EnvironmentLibrary} {prepared : PreparedEnvironment} {visited : List Variable}

theorem resolveVariable_stored {entry resolved : Variable}
    (htrimmed : trimSpace entry.2 = entry.2) :
    lib.resolveVariable (entry.1, .str entry.2) = .ok resolved ↔
      entry.1 = resolved.1 ∧ lib.Shows entry resolved.2 := by
  obtain ⟨key, value⟩ := resolved
  simp only [resolveVariable, lib.sprint_str, htrimmed, Shows]
  split
  · cases lib.resolveSecret entry.2 <;> simp
  · rw [Except.ok.injEq, Prod.mk.injEq, @eq_comm _ entry.2]

theorem resolveSecret_empty (value : String) : lib.resolveSecret "" ≠ .ok value := by
  have hname : normalizeSecretAlias "" =
    .error "must refer to a valid encrypted secret name or ID" := by decide
  rw [resolveSecret, hname]
  rintro ⟨⟩

theorem mapM_resolveVariable {resolved : List Variable}
    (htrimmed : ∀ entry ∈ visited, trimSpace entry.2 = entry.2) :
    (visited.map fun entry => (entry.1, Json.str entry.2)).mapM lib.resolveVariable =
        .ok resolved ↔
      List.Forall₂ (fun entry value => entry.1 = value.1 ∧ lib.Shows entry value.2) visited
        resolved := by
  have hmem : ∀ R : Variable → Variable → Prop, List.Forall₂ R visited resolved ↔
      List.Forall₂ (fun entry value => trimSpace entry.2 = entry.2 ∧ R entry value) visited
        resolved := fun R => by
    rw [List.forall₂_and_left]
    exact (and_iff_right htrimmed).symm
  rw [mapM_eq_ok_iff, List.forall₂_map_left_iff, hmem, @hmem fun entry value =>
    entry.1 = value.1 ∧ lib.Shows entry value.2]
  refine iff_of_eq (congrArg (fun R => List.Forall₂ R visited resolved) ?_)
  funext entry value
  exact propext (and_congr_right resolveVariable_stored)

theorem lookup_setFixed (values : List Variable) (key value key' : String) :
    (setFixed values key value).lookup key' =
      if value ≠ "" ∧ key' = key then some value else values.lookup key' := by
  by_cases hvalue : value = ""
  · simp [setFixed, hvalue]
  · simp [setFixed, hvalue, lookup_setKey]

theorem lookup_fixed (values : List Variable) (key : String) :
    (setFixed (setFixed values "baseUrl" (trimSpace prepared.baseURL)) "region"
        (trimSpace prepared.region)).lookup key =
      (prepared.fixed.lookup key).or (values.lookup key) := by
  rw [lookup_setFixed, lookup_setFixed]
  by_cases hfixed : key = "region" ∨ key = "baseUrl"
  · obtain rfl | rfl := hfixed <;> by_cases hr : trimSpace prepared.region = "" <;>
      by_cases hb : trimSpace prepared.baseURL = "" <;>
        simp [PreparedEnvironment.fixed, hr, hb, List.lookup_cons]
  · grind [PreparedEnvironment.fixed]

theorem fixed_not_sensitive {fixed : Variable} (h : fixed ∈ prepared.fixed) :
    sensitiveKeyName fixed.1 = false := by
  have hnames : sensitiveKeyName "baseUrl" = false ∧ sensitiveKeyName "region" = false := by decide
  obtain rfl | rfl : fixed = ("baseUrl", trimSpace prepared.baseURL) ∨
      fixed = ("region", trimSpace prepared.region) := by
    simpa using List.mem_of_mem_filter h
  · exact hnames.1
  · exact hnames.2

theorem nodup_fixed : (prepared.fixed.map Prod.fst).Nodup := by
  refine List.Nodup.sublist (List.filter_sublist.map Prod.fst) ?_
  simp

variable {profile : Profile} {profileType stage : String} {config : Config}

theorem resolves_iff_exists (htrimmed : ∀ entry ∈ visited, trimSpace entry.2 = entry.2)
    (hprofile : profile.config = prepared.config visited) :
    lib.Resolves prepared profile ↔
      ∃ resolved, List.Forall₂
          (fun entry value => entry.1 = value.1 ∧ lib.Shows entry value.2) visited resolved ∧
        ∀ entry ∈ prepared.values, ∃ value,
          (prepared.fixed.lookup entry.1).or (resolved.lookup entry.1) = some value ∧
            lib.Shows entry value := by
  have hconfigured : (member profile.config "variables").fields?.getD [] =
      visited.map fun entry => (entry.1, Json.str entry.2) := by
    rw [hprofile]
    rfl
  have hresolve : ∀ material, lib.resolveEnvironmentProfile (.ok profile) = .ok material ↔
      ∃ resolved, (visited.map fun entry => (entry.1, Json.str entry.2)).mapM
          lib.resolveVariable = .ok resolved ∧
        lib.environmentMaterial profile resolved = material := by
    intro material
    have hsteps : lib.resolveEnvironmentProfile (.ok profile) =
        ((member profile.config "variables").fields?.getD []).mapM lib.resolveVariable >>=
          fun resolved => .ok (lib.environmentMaterial profile resolved) := rfl
    rw [hsteps, hconfigured, bind_eq_ok_iff]
    simp only [Except.ok.injEq]
  have hvalues : ∀ resolved key, (lib.environmentMaterial profile resolved).values.lookup key =
      (prepared.fixed.lookup key).or (resolved.lookup key) := by
    intro resolved key
    have hbase : lib.service.sprint (member profile.config "baseUrl") = prepared.baseURL := by
      rw [hprofile]
      exact lib.sprint_str _
    have hregion : lib.service.sprint (member profile.config "region") = prepared.region := by
      rw [hprofile]
      exact lib.sprint_str _
    rw [← lookup_fixed, environmentMaterial]
    dsimp only
    rw [hbase, hregion]
  unfold Resolves
  simp only [hresolve, mapM_resolveVariable htrimmed]
  constructor
  · rintro ⟨_, ⟨resolved, hresolved, rfl⟩, hshown⟩
    simp only [hvalues] at hshown
    exact ⟨resolved, hresolved, hshown⟩
  · rintro ⟨resolved, hresolved, hshown⟩
    refine ⟨_, ⟨resolved, hresolved, rfl⟩, ?_⟩
    simp only [hvalues]
    exact hshown

/-- **Every accepted environment resolves**, exactly if no sensitive variable is empty and none has
a name that `ResolveEnvironmentProfile` writes itself, with another value. -/
theorem resolves_iff
    (haccepted : lib.prepareEnvironmentConfig profileType config = .ok (prepared, stage))
    (hvisited : visited.Perm prepared.values)
    (hprofile : profile.config = prepared.config visited)
    (hsecrets : ∀ entry ∈ prepared.values, sensitiveKeyName entry.1 = true → entry.2 ≠ "" →
      ∃ secret, lib.resolveSecret entry.2 = .ok secret) :
    lib.Resolves prepared profile ↔ Resolvable prepared := by
  obtain ⟨hstored, -⟩ := prepareEnvironmentConfig_ok haccepted
  have hmem : ∀ entry, entry ∈ visited ↔ entry ∈ prepared.values := fun _ => hvisited.mem_iff
  rw [resolves_iff_exists (fun entry h => hstored.trimmed entry ((hmem entry).mp h)) hprofile]
  constructor
  · rintro ⟨resolved, hresolved, hshown⟩
    refine ⟨fun entry hentry hsensitive hempty => ?_, fun entry hentry fixed hfixed hname => ?_⟩
    · obtain ⟨value, -, -, hshows⟩ :=
        (exists_of_forall₂ hresolved).2 entry ((hmem entry).mpr hentry)
      rw [Shows, if_pos hsensitive, hempty] at hshows
      exact resolveSecret_empty _ hshows
    · obtain ⟨value, hvalue, hshows⟩ := hshown entry hentry
      rw [hname, lookup_of_mem nodup_fixed hfixed, Option.some_or,
        Option.some.injEq] at hvalue
      rw [Shows, hname, fixed_not_sensitive hfixed, if_neg Bool.false_ne_true] at hshows
      exact hshows.symm.trans hvalue.symm
  · intro hresolvable
    have hone : ∀ entry ∈ visited, ∃ value : Variable,
        entry.1 = value.1 ∧ lib.Shows entry value.2 := by
      intro entry hentry
      have hstoredEntry := (hmem entry).mp hentry
      by_cases hsensitive : sensitiveKeyName entry.1 = true
      · obtain ⟨secret, hsecret⟩ := hsecrets entry hstoredEntry hsensitive
          (hresolvable.filled entry hstoredEntry hsensitive)
        exact ⟨(entry.1, secret), rfl, (if_pos hsensitive).mpr hsecret⟩
      · exact ⟨entry, rfl, (if_neg hsensitive).mpr rfl⟩
    obtain ⟨resolved, hresolved⟩ := exists_forall₂_iff.mpr hone
    refine ⟨resolved, hresolved, fun entry hentry => ?_⟩
    cases hfixed : prepared.fixed.lookup entry.1 with
    | some value =>
      have hmemFixed := mem_of_lookup hfixed
      refine ⟨value, rfl, ?_⟩
      rw [Shows, fixed_not_sensitive hmemFixed, if_neg Bool.false_ne_true]
      exact (hresolvable.agrees entry hentry _ hmemFixed rfl).symm
    | none =>
      obtain ⟨value, hvalue, hname, hshows⟩ :=
        (exists_of_forall₂ hresolved).2 entry ((hmem entry).mpr hentry)
      have hkeys : visited.map Prod.fst = resolved.map Prod.fst :=
        map_eq_map_of_forall₂ hresolved fun _ _ h => h.1
      have hnodup : (resolved.map Prod.fst).Nodup :=
        hkeys ▸ (hvisited.map Prod.fst).nodup_iff.mpr hstored.nodup
      exact ⟨value.2, hname ▸ lookup_of_mem hnodup hvalue, hshows⟩

end Resolved

/-! ## A shop -/

def shopLibrary : EnvironmentLibrary where
  service := {
    sprint := Unmarshal.sprint fun _ => "0"
    secretsKey := true
    encrypt := .ok
    prepare := fun _ _ _ _ => .error "configuration profile kind is invalid"
    parseId := .ok }
  sprint_str := fun _ => rfl
  parse := fun _ => some ⟨"https", "shop.example", "shop.example", false⟩
  quote := fun text => "\"" ++ text ++ "\""
  formatTime := fun _ => "2026-01-01T00:00:00Z"
  secret := fun name =>
    if name = "shop-token" then .ok "s3cret" else .error "secret reference was not found"

def shopConfig (values : List Variable) : Config :=
  [("baseUrl", .str "https://shop.example"),
    ("variables", .obj (values.map fun entry => (entry.1, .str entry.2)))]

def shopEnvironment (values : List Variable) : PreparedEnvironment where
  baseURL := "https://shop.example"
  host := "shop.example"
  region := ""
  values := values

def shopProfile (values : List Variable) : Profile where
  id := "e1"
  kind := .environment
  name := "shop"
  description := ""
  profileType := "PRODUCTION"
  config := (shopEnvironment values).config values
  active := true
  createdBy := "editor"
  updatedBy := "editor"
  createdAt := 0
  updatedAt := 0

theorem shop_resolves : shopLibrary.Resolves
    (shopEnvironment [("version", "2"), ("token", "shop-token")])
    (shopProfile [("version", "2"), ("token", "shop-token")]) :=
  (@resolves_iff shopLibrary (shopEnvironment [("version", "2"), ("token", "shop-token")])
    [("version", "2"), ("token", "shop-token")] _ "production" "PRODUCTION"
    (shopConfig [("version", "2"), ("token", "shop-token")]) rfl (.refl _) rfl
    (by
      intro entry hentry hsensitive _
      obtain rfl | rfl : entry = ("version", "2") ∨ entry = ("token", "shop-token") := by
        simpa [shopEnvironment] using hentry
      · exact absurd hsensitive (by decide)
      · exact ⟨"s3cret", rfl⟩)).mpr
    ⟨by decide, by decide⟩

/-- An empty `token` is accepted, and then nothing resolves. -/
theorem empty_token_unresolved :
    ¬ ∀ (lib : EnvironmentLibrary) (profileType stage : String) (config : Config)
      (prepared : PreparedEnvironment) (visited : List Variable) (profile : Profile),
      lib.prepareEnvironmentConfig profileType config = .ok (prepared, stage) →
      visited.Perm prepared.values → profile.config = prepared.config visited →
      (∀ entry ∈ prepared.values, sensitiveKeyName entry.1 = true → entry.2 ≠ "" →
        ∃ secret, lib.resolveSecret entry.2 = .ok secret) →
      lib.Resolves prepared profile := by
  intro h
  obtain ⟨material, hmaterial, -⟩ := h shopLibrary "production" "PRODUCTION"
    (shopConfig [("token", "")]) (shopEnvironment [("token", "")]) [("token", "")]
    (shopProfile [("token", "")]) rfl (.refl _) rfl (by
      intro entry hentry _ hempty
      obtain rfl : entry = ("token", "") := by simpa [shopEnvironment] using hentry
      exact absurd rfl hempty)
  cases hmaterial

end EnvironmentLibrary

end Rhythm.Library
