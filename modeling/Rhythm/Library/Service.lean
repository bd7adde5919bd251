import Rhythm.Json
import Rhythm.Table
import Rhythm.Text

/-!
# Rhythm.Library.Service

The configuration library: profiles of seven kinds, created under a kind named by
the request and afterwards found by their id alone.  The preparation of a secret
is modelled here; that of the other kinds, the cipher, the printing of a value
and the database's reading of an id are parameters.
-/

namespace Rhythm.Library

open Text

/-! ## Profiles -/

/-- The kinds that `configuration_profiles` admits. -/
inductive Kind where
  | environment | secretReference | certificate | proxy | auth | notification | telemetry
  deriving DecidableEq

abbrev Config := List (String × Json)

structure Profile where
  id : String
  kind : Kind
  name : String
  description : String
  profileType : String
  config : Config
  active : Bool
  createdBy : String
  updatedBy : String
  createdAt : Nat
  updatedAt : Nat

abbrev Profiles := Table Profile Profile.id

/-- A decoded `Input`. -/
structure Input where
  name : String
  description : String
  profileType : String
  config : Option Config
  active : Option Bool

/-- `normalizeKind`. -/
def normalizeKind (kind : String) : Except String Kind :=
  let kind := toUpper (String.ofList (kind.toList.map fun c => if c = '-' then '_' else c))
  if kind ∈ ["ENVIRONMENTS", "ENVIRONMENT"] then .ok .environment
  else if kind ∈ ["SECRETS", "SECRET_REFERENCE", "SECRET_REFERENCES"] then .ok .secretReference
  else if kind ∈ ["CERTIFICATES", "CERTIFICATE"] then .ok .certificate
  else if kind ∈ ["PROXIES", "PROXY"] then .ok .proxy
  else if kind ∈ ["AUTH", "AUTH_PROFILES"] then .ok .auth
  else if kind ∈ ["NOTIFICATIONS", "NOTIFICATION", "NOTIFICATION_CHANNELS"] then
    .ok .notification
  else if kind ∈ ["TELEMETRY", "DYNATRACE", "TELEMETRY_PROFILES"] then .ok .telemetry
  else .error "configuration profile kind is invalid"

/-! ## The service -/

/-- What `secretscrypto.Encrypt` returns. -/
structure Ciphertext where
  text : String
  version : hasPrefix text "v1:" = true
  trimmed : trimSpace text = text

/-- What the service works with. -/
structure Service where
  /-- `fmt.Sprint`. -/
  sprint : Json → String
  /-- A secrets key is configured. -/
  secretsKey : Bool
  /-- `secretscrypto.Encrypt` under that key. -/
  encrypt : String → Except String String
  /-- The preparation of a profile that is no secret, from its type, its new
  configuration and the stored one. -/
  prepare : Kind → String → Option Config → Option Config → Except String (Config × String)
  /-- The database's reading of a text as an id. -/
  parseId : String → Except String String

namespace Service

variable (s : Service)

/-- `firstString`. -/
def firstString (config : Config) (keys : List String) : String :=
  let texts := keys.filterMap fun key =>
    (config.lookup key).bind fun value =>
      let text := trimSpace (s.sprint value)
      if text ≠ "" ∧ text ≠ "<nil>" then some text else none
  texts.headD ""

/-- `prepareSecretConfig`.  A missing `provider` is printed as `<nil>`, which is no provider. -/
def prepareSecretConfig (config : Option Config) : Except String (Config × String) :=
  match config with
  | none => .error "secret configuration is required"
  | some config =>
    let provider := toUpper (trimSpace (s.sprint ((config.lookup "provider").getD .null)))
    let provider := if provider = "" then "LOCAL" else provider
    if provider ∈ ["LOCAL", "STORED", "RHYTHM", "INLINE"] then
      let plaintext := s.firstString config ["value", "secret", "password", "token"]
      if plaintext = "" then .error "stored secrets require a value"
      else if ¬ s.secretsKey then
        .error "stored secrets require RHYTHM_SECRETS_ENCRYPTION_KEY"
      else
        match s.encrypt plaintext with
        | .error message => .error ("encrypt secret value: " ++ message)
        | .ok ciphertext =>
          .ok ([("provider", .str "LOCAL"), ("cipher", .str "AES-GCM"),
            ("encryptedValue", .str ciphertext)], "LOCAL")
    else .error "only encrypted database secrets are supported"

def prepareConfig (kind : Kind) (profileType : String) (config existing : Option Config) :
    Except String (Config × String) :=
  match kind with
  | .secretReference => s.prepareSecretConfig config
  | kind => s.prepare kind profileType config existing

def nameTaken (profiles : Profiles) (id : String) (kind : Kind) (name : String) : Bool :=
  profiles.any fun profile => profile.id ≠ id ∧ profile.kind = kind ∧ profile.name = name

/-- `Create`, with the fresh id it draws. -/
def create (kind : String) (input : Input) (actor profileId : String) (now : Nat)
    (profiles : Profiles) : Except String Profiles := do
  let kind ← normalizeKind kind
  let name := trimSpace input.name
  let profileType := trimSpace input.profileType
  if name = "" then throw "name is required"
  if kind ≠ .secretReference ∧ profileType = "" then throw "name and profileType are required"
  let (config, profileType) ← s.prepareConfig kind profileType input.config none
  if nameTaken profiles profileId kind name then throw "a profile with this name already exists"
  match profiles.insert
    { id := profileId, kind, name, description := trimSpace input.description, profileType, config,
      active := input.active.getD true, createdBy := actor, updatedBy := actor,
      createdAt := now, updatedAt := now } with
  | none => throw "a profile with this name already exists"
  | some profiles => return profiles

/-- `ErrNotFound`. -/
def errNotFound : String := "configuration profile not found"

/-- `Update`: the kind is that of the stored profile. -/
def update (profileId : String) (input : Input) (actor : String) (now : Nat)
    (profiles : Profiles) : Except String Profiles := do
  let profileId ← s.parseId profileId
  match profiles.get? profileId with
  | none => throw errNotFound
  | some existing =>
    if ¬ existing.active then throw errNotFound
    let name := if trimSpace input.name = "" then existing.name else trimSpace input.name
    let profileType :=
      if trimSpace input.profileType = "" then existing.profileType else trimSpace input.profileType
    let (config, profileType) ←
      match input.config with
      | none => pure (existing.config, profileType)
      | some config => s.prepareConfig existing.kind profileType config existing.config
    if nameTaken profiles profileId existing.kind name then
      throw "a profile with this name already exists"
    return profiles.update (fun profile => profile.id = profileId) fun profile =>
      { profile with
        name, description := trimSpace input.description, profileType, config
        active := input.active.getD existing.active, updatedBy := actor, updatedAt := now }

/-- `Delete`: the profile is made inactive. -/
def delete (profileId actor : String) (now : Nat) (profiles : Profiles) :
    Except String Profiles := do
  let profileId ← s.parseId profileId
  if profiles.any fun profile => profile.id = profileId ∧ profile.active then
    return profiles.update (fun profile => profile.id = profileId ∧ profile.active) fun profile =>
      { profile with active := false, updatedBy := actor, updatedAt := now }
  else throw errNotFound

theorem create_ok {kind : String} {input : Input} {actor profileId : String} {now : Nat}
    {profiles profiles' : Profiles}
    (h : s.create kind input actor profileId now profiles = .ok profiles') :
    ∃ profile : Profile, normalizeKind kind = .ok profile.kind ∧
      profiles'.rows = profiles.rows ++ [profile] := by
  unfold create at h
  cases hkind : normalizeKind kind with
  | error message =>
    rw [hkind] at h
    cases h
  | ok k =>
    rw [hkind] at h
    simp only [bind, Except.bind, throw, throwThe, MonadExceptOf.throw, pure, Except.pure] at h
    split at h
    · cases h
    · split at h
      · cases h
      · split at h
        · cases h
        · split at h
          · cases h
          · split at h
            · cases h
            · rename_i hinsert
              cases h
              exact ⟨_, rfl, (Table.insert_eq_some_iff.mp hinsert).2⟩

end Service

/-! ## Secrets -/

def secretProfiles (profiles : Profiles) : List Profile :=
  profiles.rows.filter fun profile => profile.kind = .secretReference

theorem secretProfiles_create {s : Service} {kind : String} {input : Input}
    {actor profileId : String} {now : Nat} {profiles profiles' : Profiles}
    (hkind : normalizeKind kind ≠ .ok .secretReference)
    (h : s.create kind input actor profileId now profiles = .ok profiles') :
    secretProfiles profiles' = secretProfiles profiles := by
  obtain ⟨profile, hprofile, hrows⟩ := s.create_ok h
  have hother : profile.kind ≠ .secretReference := fun hsecret => hkind (hsecret ▸ hprofile)
  simp [secretProfiles, hrows, hother]

end Rhythm.Library
