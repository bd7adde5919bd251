import Rhythm.Library.Proxies
import Rhythm.Transition
import Rhythm.Unmarshal

/-!
# Rhythm.Library.Channels

Notification channels and their three credentials.  A request names a credential by its plain text,
by a secret reference or by a clear flag; `prepareNotificationConfig` stores a ciphertext or a
reference.  The two preparations, for webhooks and for e-mail, differ in their credentials only.

* `held_save` — what one save makes of a credential, and what it keeps;
* `exactUpdates_along` — in every sequence of saves in which the names of the credential are spelled
  as the code spells them, no clear flag is given and the credential belongs to the channel's type,
  each save is exact, and nothing in plain text is stored or shown.
-/

namespace Rhythm.Library

open Fallible Text Unmarshal

/-! ## Credentials -/

/-- The credentials of a channel. -/
inductive Credential where
  | url | username | password
  deriving DecidableEq

namespace Credential

def key : Credential → String
  | url => "url"
  | username => "username"
  | password => "password"

def encryptedKey : Credential → String
  | url => "encryptedUrl"
  | username => "encryptedUsername"
  | password => "encryptedPassword"

def refKey : Credential → String
  | url => "urlSecretRef"
  | username => "usernameSecretRef"
  | password => "passwordSecretRef"

def clearKey : Credential → String
  | url => "clearUrl"
  | username => "clearUsername"
  | password => "clearPassword"

def hasKey : Credential → String
  | url => "hasUrl"
  | username => "hasUsername"
  | password => "hasPassword"

/-- The keys that a preparation does not copy, in lower case. -/
def stripped : Credential → List String
  | url => ["url", "encryptedurl", "hasurl"]
  | username => ["username", "encryptedusername", "hasusername"]
  | password => ["password", "encryptedpassword", "haspassword"]

def all : List Credential := [url, username, password]

end Credential

/-- `strings.ToLower(strings.TrimSpace(key))`. -/
def lowerKey (key : String) : String := toLower (trimSpace key)

/-- A key is a name, up to case and surrounding white space. -/
def sameName (key name : String) : Bool := lowerKey key = lowerKey name

def ownCredentials (profileType : String) : List Credential :=
  let kind := toUpper (trimSpace profileType)
  if kind ∈ ["SLACK", "WEBHOOK"] then [.url]
  else if kind = "EMAIL" then [.username, .password]
  else []

/-- What channels take from the service. -/
structure ChannelLibrary where
  service : Service
  /-- `fmt.Sprint` prints a text as it is, and `nil` as `<nil>`. -/
  sprint_str : ∀ text, service.sprint (.str text) = text
  sprint_null : service.sprint .null = "<nil>"

/-- A save: `Input`, and the encryption with the nonces it draws. -/
structure ChannelInput where
  profileType : String
  config : Option { fields : Config // (fields.map Prod.fst).Nodup }
  encrypt : Credential → String → Except String Ciphertext

structure Channel where
  profileType : String
  config : Config

def ChannelInput.fields (input : ChannelInput) : Config := (input.config.map Subtype.val).getD []

/-- The stored configuration before a save; a new channel has none. -/
def before (stored : Option Channel) : Config := (stored.map Channel.config).getD []

def nextType (stored : Option Channel) (input : ChannelInput) : String :=
  if trimSpace input.profileType = "" then (stored.map Channel.profileType).getD ""
  else trimSpace input.profileType

namespace ChannelLibrary

variable (lib : ChannelLibrary)

/-- A trimmed text of a value; nothing for `nil`. -/
def text (value : Json) : String :=
  let text := trimSpace (lib.service.sprint value)
  if text = "<nil>" then "" else text

/-- `truthy`. -/
def truthy : Json → Bool
  | .bool value => value
  | .str value => lowerKey value ∈ ["true", "1", "yes"]
  | _ => false

/-! ## Preparing -/

section Preparing

variable (encrypt : Credential → String → Except String Ciphertext) (config : Config)
  (existing : Option Config)

def copied (credentials : List Credential) : Config :=
  config.filter fun entry => !credentials.any fun c => lowerKey entry.1 ∈ c.stripped

def checkConflict (c : Credential) : Except String Unit :=
  if lib.service.firstString config [c.key] ≠ "" ∧ lib.text (member config c.refKey) ≠ "" then
    .error ("provide either " ++ c.key ++ " or " ++ c.refKey ++ ", not both")
  else .ok ()

/-- `encryptInlineCredential`. -/
def encryptInlineCredential (c : Credential) (plaintext : String) : Except String Ciphertext :=
  if ¬ lib.service.secretsKey then
    .error "inline credentials require RHYTHM_SECRETS_ENCRYPTION_KEY"
  else (encrypt c plaintext).mapError ("encrypt credential: " ++ ·)

def keepCredential (stored : Config) (existing : Config) (c : Credential) : Config :=
  let cipher := lib.text (member existing c.encryptedKey)
  let reference := lib.text (member existing c.refKey)
  if cipher ≠ "" then setKey stored c.encryptedKey (.str cipher)
  else if reference ≠ "" then
    setKey stored c.refKey (.str ((normalizeSecretAlias reference).toOption.getD ""))
  else stored

/-- The `switch` over one credential. -/
def storeCredential (stored : Config) (c : Credential) : Except String Config :=
  let plain := lib.service.firstString config [c.key]
  let reference := lib.text (member config c.refKey)
  if truthy (member config c.clearKey) then .ok stored
  else if plain ≠ "" then
    (lib.encryptInlineCredential encrypt c plain).map fun cipher =>
      setKey stored c.encryptedKey (.str cipher.text)
  else if reference ≠ "" then
    (normalizeSecretAlias reference).map fun name => setKey stored c.refKey (.str name)
  else
    match existing with
    | none => .ok stored
    | some existing => .ok (lib.keepCredential stored existing c)

/-- The preparation of a configuration with these credentials. -/
def prepareCredentials (credentials : List Credential) : Except String Config := do
  credentials.forM (lib.checkConflict config)
  credentials.foldlM (lib.storeCredential encrypt config existing) (copied config credentials)

/-- `prepareWebhookNotificationConfig`. -/
def prepareWebhookNotificationConfig : Except String Config :=
  lib.prepareCredentials encrypt config existing [.url]

/-- `prepareEmailNotificationConfig`. -/
def prepareEmailNotificationConfig : Except String Config :=
  lib.prepareCredentials encrypt config existing [.username, .password]

/-- `prepareNotificationConfig`. -/
def prepareNotificationConfig (profileType : String) : Except String Config :=
  let kind := toUpper (trimSpace profileType)
  if kind ∈ ["SLACK", "WEBHOOK"] then
    lib.prepareWebhookNotificationConfig encrypt config existing
  else if kind = "EMAIL" then lib.prepareEmailNotificationConfig encrypt config existing
  else .ok config

end Preparing

def checkReference (config : Config) (c : Credential) : Except String Unit :=
  if lib.text (member config c.refKey) = "" then .ok ()
  else
    ((normalizeSecretAlias (lib.text (member config c.refKey))).map fun _ => ()).mapError
      (c.refKey ++ ": " ++ ·)

/-- `validateNotification`. -/
def validateNotification (profileType : String) (config : Config) : Except String Unit :=
  let kind := toUpper (trimSpace profileType)
  if kind ∈ ["SLACK", "WEBHOOK"] then do
    lib.checkReference config .url
    if lib.text (member config "urlSecretRef") = "" ∧
        lib.text (member config "encryptedUrl") = "" then
      throw "webhook channels require a URL secret or encrypted URL"
    if lib.service.firstString config ["url"] ≠ "" then
      throw "raw notification endpoint URLs must be encrypted before storage"
  else if kind = "EMAIL" then do
    if trimSpace (lib.service.sprint (member config "smtpHost")) = "" ∨
        trimSpace (lib.service.sprint (member config "from")) = "" then
      throw "email channels require smtpHost and from"
    if lib.service.firstString config ["username", "password"] ≠ "" then
      throw "raw SMTP credentials must be encrypted before storage"
    lib.checkReference config .username
    lib.checkReference config .password
  else .error "notification profileType must be SLACK, WEBHOOK, or EMAIL"

/-- `Create` and `Update`, for a channel.  An update without a configuration keeps the stored
one. -/
def save (stored : Option Channel) (input : ChannelInput) : Except String Channel :=
  let profileType := nextType stored input
  if stored.isSome ∧ input.config = none then
    .ok { profileType, config := before stored }
  else if profileType = "" then .error "name and profileType are required"
  else do
    let prepared ← lib.prepareNotificationConfig input.encrypt input.fields
      (stored.map Channel.config) profileType
    lib.validateNotification profileType prepared
    return { profileType, config := prepared }

def markCredential (config redacted : Config) (c : Credential) : Config :=
  if (config.any fun entry => lowerKey entry.1 ∈ [c.key, toLower c.encryptedKey]) ∨
      lib.text (member config c.refKey) ≠ "" then
    setKey redacted c.hasKey (.bool true)
  else redacted

/-- `redactNotificationConfig`. -/
def redactNotificationConfig (config : Config) : Config :=
  Credential.all.foldl (lib.markCredential config) (copied config Credential.all)

/-! ## What a save should do -/

/-- The text that a request gives by a value; blank texts and `null` give nothing. -/
def given (value : Json) : String :=
  if value = .null ∨ trimSpace (lib.service.sprint value) = "" then ""
  else lib.service.sprint value

/-- The text that a request gives under a name, however that is spelled. -/
def givenUnder (config : Config) (name : String) : String :=
  ((config.find? fun entry => sameName entry.1 name && lib.given entry.2 ≠ "").map
    fun entry => lib.given entry.2).getD ""

def cleared (config : Config) (c : Credential) : Bool :=
  config.any fun entry => sameName entry.1 c.clearKey && truthy entry.2

def cipherOf (config : Config) (c : Credential) : String := lib.text (member config c.encryptedKey)

def refOf (config : Config) (c : Credential) : String := lib.text (member config c.refKey)

/-- The credential is stored as a save should store it: the encryption of the new text, or the new
reference, or nothing once it is cleared, or what it was. -/
def Updated (encrypt : Credential → String → Except String Ciphertext)
    (config before after : Config) (c : Credential) : Prop :=
  if lib.givenUnder config c.key ≠ "" then
    ∃ cipher, encrypt c (lib.givenUnder config c.key) = .ok cipher ∧
      lib.cipherOf after c = cipher.text ∧ lib.refOf after c = ""
  else if lib.givenUnder config c.refKey ≠ "" then
    lib.cipherOf after c = "" ∧ lib.refOf after c = lib.givenUnder config c.refKey
  else if cleared config c then lib.cipherOf after c = "" ∧ lib.refOf after c = ""
  else lib.cipherOf after c = lib.cipherOf before c ∧ lib.refOf after c = lib.refOf before c

/-- What holds of one credential in a stored configuration. -/
structure Sealed (config : Config) (c : Credential) : Prop where
  plain : ∀ entry ∈ config, sameName entry.1 c.key = false
  flag : ∀ entry ∈ config, sameName entry.1 c.clearKey = false
  single : lib.cipherOf config c = "" ∨ lib.refOf config c = ""
  redacted : ∀ entry ∈ lib.redactNotificationConfig config,
    sameName entry.1 c.key = false ∧ sameName entry.1 c.encryptedKey = false

def step (stored : Option Channel) (input : ChannelInput) : Option (Option Channel) :=
  match lib.save stored input with
  | .ok channel => some (some channel)
  | .error _ => some stored

/-- A save is exact for a credential. -/
structure ExactUpdate (c : Credential) (stored : Option Channel) (input : ChannelInput)
    (stored' : Option Channel) : Prop where
  sealed : ∀ channel, stored' = some channel → lib.Sealed channel.config c
  refused : ∀ message, lib.save stored input = .error message → stored' = stored
  updated : ∀ channel, lib.save stored input = .ok channel → stored' = some channel ∧
    lib.Updated input.encrypt input.fields (before stored) channel.config c

/-! ## When it does -/

def Settled (value : Json) : Prop :=
  trimSpace (lib.given value) = lib.given value ∧ lib.given value ≠ "<nil>"

/-- The request for one credential: its names are spelled as in the code, no clear flag is given,
and the texts are taken as they are. -/
structure Plain (config : Config) (c : Credential) : Prop where
  spelled : ∀ entry ∈ config, sameName entry.1 c.key = true ∨ sameName entry.1 c.refKey = true →
    entry.1 = c.key ∨ entry.1 = c.refKey
  unflagged : ∀ entry ∈ config, sameName entry.1 c.clearKey = false
  settled : ∀ entry ∈ config, entry.1 = c.key ∨ entry.1 = c.refKey → lib.Settled entry.2

/-- A credential that the channel's type does not have: neither a plain text nor a ciphertext is
given, and a reference that is stored is given again. -/
structure Foreign (config old : Config) (c : Credential) : Prop where
  plain : ∀ entry ∈ config, sameName entry.1 c.key = false
  cipher : ∀ entry ∈ config, sameName entry.1 c.encryptedKey = false
  reference : lib.refOf config c ≠ "" →
    normalizeSecretAlias (lib.refOf config c) = .ok (lib.refOf config c)
  kept : lib.refOf config c = "" → lib.cipherOf old c = "" ∧ lib.refOf old c = ""

/-- An accepted save is plain for a credential, and it belongs to the type of the channel or is
handled as a foreign one. -/
def Manages (c : Credential) (stored : Option Channel) (input : ChannelInput)
    (_ : Option Channel) : Prop :=
  (∃ channel, lib.save stored input = .ok channel) → lib.Plain input.fields c ∧
    (c ∈ ownCredentials (nextType stored input) ∨ input.config = none ∨
      lib.Foreign input.fields (before stored) c)

/-! ## Texts -/

section Texts

variable {lib} {config : Config} {c c' : Credential} {value : Json} {name : String}

theorem text_null : lib.text .null = "" := by
  have htrim : trimSpace "<nil>" = "<nil>" := by decide
  rw [text, lib.sprint_null, htrim]
  rfl

theorem trimSpace_text :
    trimSpace (lib.text value) = lib.text value ∧ lib.text value ≠ "<nil>" := by
  have hempty : trimSpace "" = "" ∧ "" ≠ "<nil>" := by decide
  unfold text
  dsimp only
  split
  · exact hempty
  · next hnil => exact ⟨trimSpace_trimSpace _, hnil⟩

theorem text_str {text : String} (htrim : trimSpace text = text) (hnil : text ≠ "<nil>") :
    lib.text (.str text) = text := by
  rw [ChannelLibrary.text, lib.sprint_str, htrim]
  exact if_neg hnil

theorem text_text : lib.text (.str (lib.text value)) = lib.text value :=
  text_str trimSpace_text.1 trimSpace_text.2

theorem text_cipher (cipher : Ciphertext) : lib.text (.str cipher.text) = cipher.text := by
  refine text_str cipher.trimmed fun hnil => ?_
  have hversion := cipher.version
  rw [hnil] at hversion
  exact absurd hversion (by decide)

theorem firstString_singleton : lib.service.firstString config [name] =
    lib.text (member config name) := by
  unfold Service.firstString member text
  cases hlookup : config.lookup name with
  | none =>
    have htrim : trimSpace "<nil>" = "<nil>" := by decide
    simp [hlookup, lib.sprint_null, htrim]
  | some value =>
    by_cases hnil : trimSpace (lib.service.sprint value) = "<nil>"
    · simp [hlookup, hnil]
    · by_cases hempty : trimSpace (lib.service.sprint value) = ""
      · simp [hlookup, hempty]
      · simp [hlookup, hnil, hempty]

theorem text_of_settled (h : lib.Settled value) : lib.text value = lib.given value := by
  obtain ⟨htrim, hnil⟩ := h
  unfold given at htrim hnil ⊢
  split
  · next hnone =>
    obtain rfl | hempty := hnone
    · exact text_null
    · rw [text, hempty]
      rfl
  · next hsome =>
    rw [if_neg hsome] at htrim hnil
    rw [text, htrim]
    exact if_neg hnil

theorem settled_str {text : String} (htrim : trimSpace text = text) (hnil : text ≠ "<nil>") :
    lib.Settled (.str text) := by
  unfold Settled given
  rw [lib.sprint_str]
  split
  · exact ⟨by decide, by decide⟩
  · exact ⟨htrim, hnil⟩

end Texts

/-! ## Names -/

namespace Names

variable {c c' : Credential} {key : String}

theorem encryptedKey_ne (h : c ≠ c') : c.encryptedKey ≠ c'.encryptedKey ∧
    c.refKey ≠ c'.refKey := by
  cases c <;> cases c' <;> simp_all [Credential.encryptedKey, Credential.refKey]

theorem encryptedKey_ne_refKey : c.encryptedKey ≠ c'.refKey := by
  cases c <;> cases c' <;> decide

theorem sameName_written (h : key = c'.encryptedKey ∨ key = c'.refKey) :
    sameName key c.key = false ∧ sameName key c.clearKey = false := by
  obtain rfl | rfl := h <;> cases c <;> cases c' <;> decide

theorem sameName_hasKey : sameName c'.hasKey c.key = false ∧
    sameName c'.hasKey c.encryptedKey = false := by
  cases c <;> cases c' <;> decide

theorem key_ne_refKey : sameName c.refKey c.key = false ∧ sameName c.key c.refKey = false := by
  cases c <;> decide

theorem stripped_of_sameName (h : sameName key c.key = true ∨ sameName key c.encryptedKey = true) :
    lowerKey key ∈ c.stripped := by
  have hnames : lowerKey c.key ∈ c.stripped ∧ lowerKey c.encryptedKey ∈ c.stripped := by
    cases c <;> decide
  obtain hkey | hkey := h
  · rw [of_decide_eq_true hkey]
    exact hnames.1
  · rw [of_decide_eq_true hkey]
    exact hnames.2

theorem not_stripped_refKey : lowerKey c'.refKey ∉ c.stripped := by
  cases c <;> cases c' <;> decide

theorem stripped_encryptedKey : lowerKey c'.encryptedKey ∈ c.stripped ↔ c' = c := by
  cases c <;> cases c' <;> decide

end Names

/-! ## What is copied -/

section Copied

variable {config : Config} {credentials : List Credential} {c : Credential} {entry : String × Json}

theorem mem_copied : entry ∈ copied config credentials ↔
    entry ∈ config ∧ ∀ c ∈ credentials, lowerKey entry.1 ∉ c.stripped := by
  simp [copied]

theorem member_copied (key : String) : member (copied config credentials) key =
    if ∀ c ∈ credentials, lowerKey key ∉ c.stripped then member config key else .null := by
  have hlookup := lookup_filter_key config
    (fun key => !credentials.any fun c => lowerKey key ∈ c.stripped) key
  rw [member, copied, hlookup]
  by_cases hkey : ∀ c ∈ credentials, lowerKey key ∉ c.stripped
  · rw [if_pos hkey, if_pos (by simpa using hkey)]
    rfl
  · rw [if_neg hkey, if_neg (by simpa using hkey)]
    rfl

theorem member_copied_refKey :
    member (copied config credentials) c.refKey = member config c.refKey := by
  rw [member_copied, if_pos fun _ _ => Names.not_stripped_refKey]

theorem member_copied_encryptedKey : member (copied config credentials) c.encryptedKey =
    if c ∈ credentials then .null else member config c.encryptedKey := by
  rw [member_copied]
  by_cases hc : c ∈ credentials
  · rw [if_pos hc, if_neg fun h => h c hc (Names.stripped_encryptedKey.mpr rfl)]
  · refine (if_pos fun c' hc' hstripped => ?_).trans (if_neg hc).symm
    exact hc (Names.stripped_encryptedKey.mp hstripped ▸ hc')

end Copied

/-! ## One credential -/

section Stored

variable {lib} {encrypt : Credential → String → Except String Ciphertext} {config : Config}
  {existing : Option Config} {stored stored' : Config} {c c' : Credential}
  {credentials : List Credential}

theorem member_setKey (key key' : String) (value : Json) :
    member (setKey stored key value) key' = if key' = key then value else member stored key' := by
  rw [member, lookup_setKey]
  split <;> rfl

def SameReads (config config' : Config) (c : Credential) : Prop :=
  member config c.encryptedKey = member config' c.encryptedKey ∧
    member config c.refKey = member config' c.refKey

theorem storeCredential_eq
    (h : lib.storeCredential encrypt config existing stored c = .ok stored') :
    stored' = stored ∨ ∃ key value, (key = c.encryptedKey ∨ key = c.refKey) ∧
      stored' = setKey stored key value := by
  have hset : ∀ key value, (key = c.encryptedKey ∨ key = c.refKey) →
      setKey stored key value = stored' → stored' = stored ∨ ∃ key value,
        (key = c.encryptedKey ∨ key = c.refKey) ∧ stored' = setKey stored key value :=
    fun key value hkey heq => .inr ⟨key, value, hkey, heq.symm⟩
  unfold storeCredential at h
  dsimp only at h
  split at h
  · exact .inl (Except.ok.inj h).symm
  · split at h
    · obtain ⟨cipher, -, heq⟩ := map_eq_ok_iff.mp h
      exact hset _ _ (.inl rfl) heq
    · split at h
      · obtain ⟨name, -, heq⟩ := map_eq_ok_iff.mp h
        exact hset _ _ (.inr rfl) heq
      · grind [Except.ok.inj, keepCredential]

theorem sameReads_storeCredential (hne : c ≠ c')
    (h : lib.storeCredential encrypt config existing stored c' = .ok stored') :
    SameReads stored stored' c := by
  obtain rfl | ⟨key, value, hkey, rfl⟩ := storeCredential_eq h
  · exact ⟨rfl, rfl⟩
  · obtain ⟨hencrypted, href⟩ := Names.encryptedKey_ne hne
    refine ⟨?_, ?_⟩
    · grind [member_setKey, Names.encryptedKey_ne_refKey]
    · grind [member_setKey, Names.encryptedKey_ne_refKey]

theorem foldlM_storeCredential (hnodup : credentials.Nodup)
    (h : credentials.foldlM (lib.storeCredential encrypt config existing) stored = .ok stored') :
    (c ∉ credentials → SameReads stored stored' c) ∧
      (c ∈ credentials → ∃ start result, SameReads stored start c ∧
        lib.storeCredential encrypt config existing start c = .ok result ∧
          SameReads result stored' c) := by
  induction credentials generalizing stored with
  | nil =>
    obtain rfl := Except.ok.inj h
    exact ⟨fun _ => ⟨rfl, rfl⟩, fun hmem => absurd hmem List.not_mem_nil⟩
  | cons first rest ih =>
    rw [List.foldlM_cons, bind_eq_ok_iff] at h
    obtain ⟨next, hnext, hrest⟩ := h
    obtain ⟨hother, hown⟩ := ih (List.nodup_cons.mp hnodup).2 hrest
    by_cases hfirst : c = first
    · subst hfirst
      refine ⟨fun hmem => absurd List.mem_cons_self hmem, fun _ => ?_⟩
      exact ⟨stored, next, ⟨rfl, rfl⟩, hnext, hother (List.nodup_cons.mp hnodup).1⟩
    · have hsame := sameReads_storeCredential hfirst hnext
      refine ⟨fun hmem => ?_, fun hmem => ?_⟩
      · have hlater := hother fun hrest => hmem (List.mem_cons_of_mem _ hrest)
        exact ⟨hsame.1.trans hlater.1, hsame.2.trans hlater.2⟩
      · obtain ⟨start, result, hstart, hstore, hresult⟩ :=
          hown ((List.mem_cons.mp hmem).resolve_left hfirst)
        exact ⟨start, result, ⟨hsame.1.trans hstart.1, hsame.2.trans hstart.2⟩, hstore, hresult⟩

variable {entry : String × Json}

theorem mem_foldlM_storeCredential
    (h : credentials.foldlM (lib.storeCredential encrypt config existing) stored = .ok stored')
    (hentry : entry ∈ stored') :
    entry ∈ stored ∨ ∃ c : Credential, entry.1 = c.encryptedKey ∨ entry.1 = c.refKey := by
  induction credentials generalizing stored with
  | nil =>
    obtain rfl := Except.ok.inj h
    exact .inl hentry
  | cons first rest ih =>
    rw [List.foldlM_cons, bind_eq_ok_iff] at h
    obtain ⟨next, hnext, hrest⟩ := h
    obtain hin | hwritten := ih hrest
    · obtain rfl | ⟨key, value, hkey, rfl⟩ := storeCredential_eq hnext
      · exact .inl hin
      · obtain rfl | hold := mem_setKey hin
        · exact .inr ⟨first, hkey⟩
        · exact .inl hold
    · exact .inr hwritten

theorem cipherOf_setKey (key : String) (value : Json) : lib.cipherOf (setKey stored key value) c =
    if c.encryptedKey = key then lib.text value else lib.cipherOf stored c := by
  rw [cipherOf, member_setKey]
  split <;> rfl

theorem refOf_setKey (key : String) (value : Json) : lib.refOf (setKey stored key value) c =
    if c.refKey = key then lib.text value else lib.refOf stored c := by
  rw [refOf, member_setKey]
  split <;> rfl

theorem cipherOf_nil : lib.cipherOf [] c = "" := text_null

theorem refOf_nil : lib.refOf [] c = "" := text_null

def Keepable (reference : String) : Prop :=
  reference ≠ "" → normalizeSecretAlias reference = .ok reference

variable (lib encrypt) in
/-- What is stored for a credential, in the terms of the code, when no clear flag is given. -/
@[irreducible] def Stores (config old after : Config) (c : Credential) : Prop :=
  if lib.text (member config c.key) ≠ "" then
    ∃ cipher, encrypt c (lib.text (member config c.key)) = .ok cipher ∧
      lib.cipherOf after c = cipher.text ∧ lib.refOf after c = ""
  else if lib.refOf config c ≠ "" then
    lib.cipherOf after c = "" ∧ lib.refOf after c = lib.refOf config c ∧
      Keepable (lib.refOf config c)
  else lib.cipherOf after c = lib.cipherOf old c ∧ lib.refOf after c = lib.refOf old c

theorem reads_keepCredential {old : Config} (hcipher : lib.cipherOf stored c = "")
    (href : lib.refOf stored c = "") (hsingle : lib.cipherOf old c = "" ∨ lib.refOf old c = "")
    (hnames : Keepable (lib.refOf old c)) :
    lib.cipherOf (lib.keepCredential stored old c) c = lib.cipherOf old c ∧
      lib.refOf (lib.keepCredential stored old c) c = lib.refOf old c := by
  unfold keepCredential
  dsimp only
  split
  · next hold =>
    rw [cipherOf_setKey, refOf_setKey, if_pos rfl, if_neg Names.encryptedKey_ne_refKey.symm, href,
      text_text, hsingle.resolve_left hold]
    exact ⟨rfl, rfl⟩
  · next hold =>
    rw [not_not] at hold
    split
    · next hreference =>
      have hname := hnames hreference
      rw [refOf] at hname
      rw [cipherOf_setKey, refOf_setKey, if_neg Names.encryptedKey_ne_refKey, if_pos rfl, hcipher,
        hname]
      exact ⟨hold.symm, text_text⟩
    · next hreference =>
      rw [not_not] at hreference
      exact ⟨hcipher.trans hold.symm, href.trans hreference.symm⟩

theorem encryptInlineCredential_ok {plaintext : String} {cipher : Ciphertext}
    (h : lib.encryptInlineCredential encrypt c plaintext = .ok cipher) :
    encrypt c plaintext = .ok cipher := by
  unfold encryptInlineCredential at h
  split at h
  · cases h
  · cases hencrypt : encrypt c plaintext with
    | error message =>
      rw [hencrypt] at h
      cases h
    | ok sealed =>
      rw [hencrypt] at h
      obtain rfl := Except.ok.inj h
      rfl

theorem reads_storeCredential (hclear : truthy (member config c.clearKey) = false)
    (hcipher : lib.cipherOf stored c = "") (href : lib.refOf stored c = lib.refOf config c)
    (hconflict : lib.text (member config c.key) = "" ∨ lib.refOf config c = "")
    (hsingle : lib.cipherOf (existing.getD []) c = "" ∨ lib.refOf (existing.getD []) c = "")
    (hnames : Keepable (lib.refOf (existing.getD []) c))
    (h : lib.storeCredential encrypt config existing stored c = .ok stored') :
    lib.Stores encrypt config (existing.getD []) stored' c := by
  unfold storeCredential at h
  have hreads : lib.text (member config c.refKey) = lib.refOf config c := rfl
  rw [firstString_singleton, hclear, hreads] at h
  simp only [Bool.false_eq_true, if_false] at h
  unfold Stores
  split
  · next hplain =>
    rw [if_pos hplain] at h
    obtain ⟨cipher, hencrypt, rfl⟩ := map_eq_ok_iff.mp h
    refine ⟨cipher, encryptInlineCredential_ok hencrypt, ?_, ?_⟩
    · rw [cipherOf_setKey, if_pos rfl, text_cipher]
    · rw [refOf_setKey, if_neg Names.encryptedKey_ne_refKey.symm, href]
      exact hconflict.resolve_left hplain
  · next hplain =>
    rw [if_neg hplain] at h
    split
    · next hreference =>
      rw [if_pos hreference] at h
      obtain ⟨name, hname, rfl⟩ := map_eq_ok_iff.mp h
      obtain rfl : name = lib.refOf config c :=
        (normalizeSecretAlias_ok hname).trans trimSpace_text.1
      rw [cipherOf_setKey, refOf_setKey, if_neg Names.encryptedKey_ne_refKey, if_pos rfl]
      exact ⟨hcipher, text_text, fun _ => hname⟩
    · next hreference =>
      rw [if_neg hreference] at h
      rw [not_not] at hreference
      rw [hreference] at href
      cases existing with
      | none =>
        obtain rfl := Except.ok.inj h
        exact ⟨hcipher.trans cipherOf_nil.symm, href.trans refOf_nil.symm⟩
      | some old =>
        obtain rfl := Except.ok.inj h
        exact reads_keepCredential hcipher href hsingle hnames

theorem conflict_of_forM (h : credentials.forM (lib.checkConflict config) = .ok ())
    (hc : c ∈ credentials) :
    lib.text (member config c.key) = "" ∨ lib.refOf config c = "" := by
  induction credentials with
  | nil => exact absurd hc List.not_mem_nil
  | cons first rest ih =>
    have hsteps : (lib.checkConflict config first >>= fun _ =>
        rest.forM (lib.checkConflict config)) = .ok () := h
    obtain ⟨⟨⟩, hfirst, hrest⟩ := bind_eq_ok_iff.mp hsteps
    obtain rfl | hlater := List.mem_cons.mp hc
    · unfold checkConflict at hfirst
      split at hfirst
      · cases hfirst
      · next hnot =>
        rw [firstString_singleton] at hnot
        by_cases hplain : lib.text (member config c.key) = ""
        · exact .inl hplain
        · exact .inr (not_not.mp fun href => hnot ⟨hplain, href⟩)
    · exact ih hrest hlater

/-! ## A preparation -/

theorem cipherOf_congr (h : SameReads stored stored' c) :
    lib.cipherOf stored c = lib.cipherOf stored' c ∧ lib.refOf stored c = lib.refOf stored' c :=
  ⟨congrArg lib.text h.1, congrArg lib.text h.2⟩

theorem reads_copied : lib.cipherOf (copied config credentials) c =
      (if c ∈ credentials then "" else lib.cipherOf config c) ∧
    lib.refOf (copied config credentials) c = lib.refOf config c := by
  rw [cipherOf, refOf, member_copied_encryptedKey, member_copied_refKey]
  refine ⟨?_, rfl⟩
  split
  · exact text_null
  · rfl

theorem reads_prepare_foreign (hnodup : credentials.Nodup) (hc : c ∉ credentials)
    (h : lib.prepareCredentials encrypt config existing credentials = .ok stored') :
    lib.cipherOf stored' c = lib.cipherOf config c ∧ lib.refOf stored' c = lib.refOf config c := by
  obtain ⟨-, -, hfold⟩ := bind_eq_ok_iff.mp h
  obtain ⟨hcipher, href⟩ := @cipherOf_congr lib _ _ _ ((foldlM_storeCredential hnodup hfold).1 hc)
  obtain ⟨hcopied, hcopiedRef⟩ := @reads_copied lib config c credentials
  rw [if_neg hc] at hcopied
  exact ⟨hcipher.symm.trans hcopied, href.symm.trans hcopiedRef⟩

/-- **A credential of the channel's type**, when no clear flag is given. -/
theorem reads_prepare_own (hnodup : credentials.Nodup) (hc : c ∈ credentials)
    (hclear : truthy (member config c.clearKey) = false)
    (hsingle : lib.cipherOf (existing.getD []) c = "" ∨ lib.refOf (existing.getD []) c = "")
    (hkeepable : Keepable (lib.refOf (existing.getD []) c))
    (h : lib.prepareCredentials encrypt config existing credentials = .ok stored') :
    lib.Stores encrypt config (existing.getD []) stored' c := by
  obtain ⟨⟨⟩, hforM, hfold⟩ := bind_eq_ok_iff.mp h
  obtain ⟨start, result, hstart, hstore, hresult⟩ := (foldlM_storeCredential hnodup hfold).2 hc
  obtain ⟨hcopied, hcopiedRef⟩ := @reads_copied lib config c credentials
  obtain ⟨hstartCipher, hstartRef⟩ := @cipherOf_congr lib _ _ _ hstart
  obtain ⟨hresultCipher, hresultRef⟩ := @cipherOf_congr lib _ _ _ hresult
  rw [if_pos hc] at hcopied
  have hread := reads_storeCredential hclear (hstartCipher.symm.trans hcopied)
    (hstartRef.symm.trans hcopiedRef) (conflict_of_forM hforM hc) hsingle hkeepable hstore
  rw [Stores, hresultCipher, hresultRef] at hread
  rwa [Stores]

theorem givenUnder_eq {name : String} (hnodup : (config.map Prod.fst).Nodup)
    (hspelled : ∀ entry ∈ config, sameName entry.1 name = true → entry.1 = name)
    (hsettled : ∀ entry ∈ config, entry.1 = name → lib.Settled entry.2) :
    lib.givenUnder config name = lib.text (member config name) := by
  unfold givenUnder
  cases hfind : config.find? fun entry => sameName entry.1 name && lib.given entry.2 ≠ "" with
  | some entry =>
    have hentry := List.mem_of_find?_eq_some hfind
    have hfound := List.find?_some hfind
    have hname : sameName entry.1 name = true := by
      simp only [Bool.and_eq_true] at hfound
      exact hfound.1
    obtain ⟨key, value⟩ := entry
    obtain rfl := hspelled _ hentry hname
    rw [member, lookup_of_mem hnodup hentry]
    exact (text_of_settled (hsettled _ hentry rfl)).symm
  | none =>
    cases hlookup : config.lookup name with
    | none =>
      rw [member, hlookup]
      exact text_null.symm
    | some value =>
      have hentry := mem_of_lookup hlookup
      have hnot := List.find?_eq_none.mp hfind _ hentry
      have hempty : lib.given value = "" := by simpa [sameName] using hnot
      rw [member, hlookup]
      exact hempty.symm.trans (text_of_settled (hsettled _ hentry rfl)).symm

theorem given_of_plain (hnodup : (config.map Prod.fst).Nodup) (h : lib.Plain config c) :
    lib.givenUnder config c.key = lib.text (member config c.key) ∧
      lib.givenUnder config c.refKey = lib.refOf config c ∧
      truthy (member config c.clearKey) = false ∧ cleared config c = false := by
  obtain ⟨hkey, href⟩ := @Names.key_ne_refKey c
  refine ⟨givenUnder_eq hnodup (fun entry hentry hname => ?_)
      (fun entry hentry hname => h.settled entry hentry (.inl hname)),
    givenUnder_eq hnodup (fun entry hentry hname => ?_)
      (fun entry hentry hname => h.settled entry hentry (.inr hname)), ?_, ?_⟩
  · refine (h.spelled entry hentry (.inl hname)).resolve_right fun hother => ?_
    rw [hother, hkey] at hname
    cases hname
  · refine (h.spelled entry hentry (.inr hname)).resolve_left fun hother => ?_
    rw [hother, href] at hname
    cases hname
  · cases hlookup : config.lookup c.clearKey with
    | none =>
      rw [member, hlookup]
      rfl
    | some value =>
      have hflag := h.unflagged _ (mem_of_lookup hlookup)
      simp [sameName] at hflag
  · rw [cleared, List.any_eq_false]
    intro entry hentry
    simp [h.unflagged entry hentry]

/-! ## Redaction -/

theorem mem_redactNotificationConfig (h : entry ∈ lib.redactNotificationConfig config) :
    entry ∈ copied config Credential.all ∨ ∃ c : Credential, entry.1 = c.hasKey := by
  have hmark : ∀ (marked : List Credential) (start : Config),
      entry ∈ marked.foldl (lib.markCredential config) start →
        entry ∈ start ∨ ∃ c : Credential, entry.1 = c.hasKey := by
    intro marked
    induction marked with
    | nil => exact fun start hentry => .inl hentry
    | cons first rest ih =>
      intro start hentry
      obtain hin | hmarked := ih _ hentry
      · unfold markCredential at hin
        split at hin
        · obtain rfl | hold := mem_setKey hin
          · exact .inr ⟨first, rfl⟩
          · exact .inl hold
        · exact .inl hin
      · exact .inr hmarked
  exact hmark Credential.all _ h

/-- **Nothing secret is shown**, whatever is stored. -/
theorem redacted_sealed (h : entry ∈ lib.redactNotificationConfig config) :
    sameName entry.1 c.key = false ∧ sameName entry.1 c.encryptedKey = false := by
  obtain hcopied | ⟨c', hmark⟩ := mem_redactNotificationConfig h
  · have hall : c ∈ Credential.all := by cases c <;> decide
    have hkept := (mem_copied.mp hcopied).2 c hall
    rw [← Bool.not_eq_true, ← Bool.not_eq_true]
    exact ⟨fun hname => hkept (Names.stripped_of_sameName (.inl hname)),
      fun hname => hkept (Names.stripped_of_sameName (.inr hname))⟩
  · rw [hmark]
    exact Names.sameName_hasKey

end Stored

/-! ## One save -/

section Saved

variable {lib} {c : Credential} {stored : Option Channel} {input : ChannelInput}
  {channel : Channel}

theorem nodup_ownCredentials (profileType : String) : (ownCredentials profileType).Nodup := by
  unfold ownCredentials
  dsimp only
  split
  · decide
  · split <;> decide

theorem save_ok (h : lib.save stored input = .ok channel) :
    (stored.isSome = true ∧ input.config = none ∧ channel.config = before stored) ∨
      (stored = none ∨ input.config ≠ none) ∧
        lib.prepareCredentials input.encrypt input.fields (stored.map Channel.config)
          (ownCredentials (nextType stored input)) = .ok channel.config := by
  unfold save at h
  dsimp only at h
  split at h
  · next hkept =>
    obtain rfl := Except.ok.inj h
    exact .inl ⟨hkept.1, hkept.2, rfl⟩
  · next hchanged =>
    split at h
    · cases h
    · obtain ⟨prepared, hprepared, hrest⟩ := bind_eq_ok_iff.mp h
      obtain ⟨⟨⟩, hvalid, hchannel⟩ := bind_eq_ok_iff.mp hrest
      obtain rfl := Except.ok.inj hchannel
      refine .inr ⟨?_, ?_⟩
      · cases stored with
        | none => exact .inl rfl
        | some old => exact .inr fun hnone => hchanged ⟨rfl, hnone⟩
      unfold prepareNotificationConfig at hprepared
      unfold validateNotification at hvalid
      unfold ownCredentials
      dsimp only at hprepared hvalid ⊢
      split at hprepared
      · next hkind => rwa [if_pos hkind]
      · next hkind =>
        rw [if_neg hkind] at hvalid ⊢
        split at hprepared
        · next hemail => rwa [if_pos hemail]
        · next hemail =>
          rw [if_neg hemail] at hvalid
          cases hvalid

theorem nodup_fields : (input.fields.map Prod.fst).Nodup := by
  unfold ChannelInput.fields
  cases input.config with
  | none => exact List.nodup_nil
  | some config => exact config.property

/-- A credential of a channel, as it is kept from save to save. -/
structure Held (lib : ChannelLibrary) (c : Credential) (stored : Option Channel) : Prop where
  sealed : lib.Sealed (before stored) c
  keepable : Keepable (lib.refOf (before stored) c)

theorem held_none : Held lib c none where
  sealed := ⟨by simp [before], by simp [before], .inl cipherOf_nil, fun _ h => redacted_sealed h⟩
  keepable := fun h => absurd refOf_nil h

theorem names_prepare {credentials : List Credential} {prepared : Config}
    (hplain : lib.Plain input.fields c)
    (hforeign : c ∈ credentials ∨ ∀ entry ∈ input.fields, sameName entry.1 c.key = false)
    (h : lib.prepareCredentials input.encrypt input.fields (stored.map Channel.config)
      credentials = .ok prepared) :
    ∀ entry ∈ prepared, sameName entry.1 c.key = false ∧ sameName entry.1 c.clearKey = false := by
  intro entry hentry
  obtain ⟨-, -, hfold⟩ := bind_eq_ok_iff.mp h
  obtain hcopied | ⟨c', hwritten⟩ := mem_foldlM_storeCredential hfold hentry
  · obtain ⟨hgiven, hkept⟩ := mem_copied.mp hcopied
    refine ⟨?_, hplain.unflagged entry hgiven⟩
    obtain hown | hnone := hforeign
    · rw [← Bool.not_eq_true]
      exact fun hname => hkept c hown (Names.stripped_of_sameName (.inl hname))
    · exact hnone entry hgiven
  · exact Names.sameName_written hwritten

variable {after old : Config}

theorem updated_of_stores (hplain : lib.Plain input.fields c)
    (h : lib.Stores input.encrypt input.fields old after c) :
    lib.Updated input.encrypt input.fields old after c := by
  grind [given_of_plain, nodup_fields, Stores, Updated]

theorem single_of_stores
    (hsingle : lib.cipherOf old c = "" ∨ lib.refOf old c = "") (hold : Keepable (lib.refOf old c))
    (h : lib.Stores input.encrypt input.fields old after c) :
    (lib.cipherOf after c = "" ∨ lib.refOf after c = "") ∧ Keepable (lib.refOf after c) := by
  unfold Stores at h
  split at h
  · obtain ⟨cipher, -, -, href⟩ := h
    exact ⟨.inr href, fun hne => absurd href hne⟩
  · grind

theorem stores_foreign (hforeign : lib.Foreign input.fields old c)
    (hcipher : lib.cipherOf after c = lib.cipherOf input.fields c)
    (href : lib.refOf after c = lib.refOf input.fields c) :
    lib.Stores input.encrypt input.fields old after c := by
  have hnone : ∀ name, (∀ entry ∈ input.fields, sameName entry.1 name = false) →
      lib.text (member input.fields name) = "" := by
    intro name hname
    cases hlookup : input.fields.lookup name with
    | none =>
      rw [member, hlookup]
      exact text_null
    | some value =>
      have hself := hname _ (mem_of_lookup hlookup)
      simp [sameName] at hself
  have hempty : lib.cipherOf input.fields c = "" := hnone _ hforeign.cipher
  unfold Stores
  rw [if_neg (not_not.mpr (hnone _ hforeign.plain)), hcipher, hempty, href]
  split
  · exact ⟨rfl, rfl, hforeign.reference⟩
  · next hreference =>
    rw [not_not] at hreference
    obtain ⟨hold, holdRef⟩ := hforeign.kept hreference
    exact ⟨hold.symm, hreference.trans holdRef.symm⟩

theorem stores_nil {old : Config} (hnone : input.fields = []) :
    lib.Stores input.encrypt input.fields old old c := by
  grind [member, text_null, Stores, refOf_nil]

theorem foreign_nil : lib.Foreign [] [] c where
  plain := by simp
  cipher := by simp
  reference := fun hne => absurd refOf_nil hne
  kept := fun _ => ⟨cipherOf_nil, refOf_nil⟩

/-- **One save.** -/
theorem held_save (hheld : Held lib c stored) (hplain : lib.Plain input.fields c)
    (hforeign : c ∈ ownCredentials (nextType stored input) ∨ input.config = none ∨
      lib.Foreign input.fields (before stored) c) (h : lib.save stored input = .ok channel) :
    lib.Updated input.encrypt input.fields (before stored) channel.config c ∧
      Held lib c (some channel) := by
  have hfields : input.config = none → input.fields = [] := by
    intro hnone
    rw [ChannelInput.fields, hnone]
    rfl
  obtain ⟨-, hnone, hkept⟩ | ⟨hchanged, hprepare⟩ := save_ok h
  · refine ⟨?_, ?_⟩
    · rw [hkept]
      exact updated_of_stores hplain (stores_nil (hfields hnone))
    · have hsame : before (some channel) = before stored := hkept
      exact ⟨hsame ▸ hheld.sealed, hsame ▸ hheld.keepable⟩
  · have hnodup := nodup_ownCredentials (nextType stored input)
    obtain ⟨hstores, hgiven⟩ : lib.Stores input.encrypt input.fields (before stored)
        channel.config c ∧ (c ∈ ownCredentials (nextType stored input) ∨
          ∀ entry ∈ input.fields, sameName entry.1 c.key = false) := by
      by_cases hown : c ∈ ownCredentials (nextType stored input)
      · have hclear := (given_of_plain nodup_fields hplain).2.2.1
        exact ⟨reads_prepare_own hnodup hown hclear hheld.sealed.single hheld.keepable hprepare,
          .inl hown⟩
      · obtain ⟨hcipher, href⟩ := reads_prepare_foreign hnodup hown hprepare
        have hother : lib.Foreign input.fields (before stored) c := by
          obtain hown' | hnone | hforeign := hforeign
          · exact absurd hown' hown
          · obtain rfl := hchanged.resolve_right (not_not.mpr hnone)
            rw [hfields hnone]
            exact foreign_nil
          · exact hforeign
        exact ⟨stores_foreign hother hcipher href, .inr hother.plain⟩
    obtain ⟨hsingle, hkeepable⟩ :=
      single_of_stores hheld.sealed.single hheld.keepable hstores
    have hnames := names_prepare hplain hgiven hprepare
    exact ⟨updated_of_stores hplain hstores,
      ⟨fun entry hentry => (hnames entry hentry).1, fun entry hentry => (hnames entry hentry).2,
        hsingle, fun _ hentry => redacted_sealed hentry⟩, hkeepable⟩

theorem exactUpdate_step (hheld : Held lib c stored) {stored' : Option Channel}
    (h : step lib stored input = some stored') (hmanages : lib.Manages c stored input stored') :
    Held lib c stored' ∧ lib.ExactUpdate c stored input stored' := by
  unfold step at h
  cases hsave : lib.save stored input with
  | error message =>
    rw [hsave] at h
    obtain rfl := Option.some.inj h
    refine ⟨hheld, ⟨?_, fun _ _ => rfl, ?_⟩⟩
    · rintro channel rfl
      exact hheld.sealed
    · intro channel hok
      rw [hsave] at hok
      cases hok
  | ok channel =>
    rw [hsave] at h
    obtain rfl := Option.some.inj h
    obtain ⟨hplain, hforeign⟩ := hmanages ⟨channel, hsave⟩
    obtain ⟨hupdated, hnext⟩ := held_save hheld hplain hforeign hsave
    refine ⟨hnext, ⟨?_, ?_, ?_⟩⟩
    · rintro other heq
      obtain rfl := Option.some.inj heq
      exact hnext.sealed
    · intro message herror
      rw [hsave] at herror
      cases herror
    · intro other hok
      rw [hsave] at hok
      obtain rfl := Except.ok.inj hok
      exact ⟨rfl, hupdated⟩

end Saved

/-- **Credential updates are exact** for a credential in every sequence of saves that manage it. -/
theorem exactUpdates_along (lib : ChannelLibrary) (c : Credential) (inputs : List ChannelInput)
    (h : Along (step lib) (lib.Manages c) none inputs) :
    Along (step lib) (lib.ExactUpdate c) none inputs :=
  Along.of_guard (fun _ _ _ hheld hstep hguard => exactUpdate_step hheld hstep hguard) held_none h

/-! ## Two channels -/

def printed : Json → String
  | .null => "<nil>"
  | .str text => text
  | .bool true => "true"
  | _ => ""

def channelService : Service := ⟨printed, true, fun text => .ok ("v1:" ++ text),
  fun _ _ _ _ => .error "no channel", .ok⟩

def channelLibrary : ChannelLibrary := ⟨channelService, fun _ => rfl, rfl⟩

def sealing : Credential → String → Except String Ciphertext :=
  fun _ _ => .ok ⟨"v1:n:c", by decide, by decide⟩

def webhookSave (key text : String) : ChannelInput :=
  ⟨"WEBHOOK", some ⟨[(key, .str text)], List.nodup_singleton _⟩, sealing⟩

theorem manages_webhook {stored stored' : Option Channel} {key text : String}
    (hkey : key = "url" ∨ key = "urlSecretRef") (htrim : trimSpace text = text)
    (hnil : text ≠ "<nil>") :
    channelLibrary.Manages .url stored (webhookSave key text) stored' := by
  have hkind : nextType stored (webhookSave key text) = "WEBHOOK" := by
    have htype : trimSpace "WEBHOOK" = "WEBHOOK" := by decide
    rw [nextType, webhookSave, htype, if_neg (by decide)]
  have hmem : ∀ entry ∈ (webhookSave key text).fields, entry = (key, .str text) :=
    fun entry hentry => List.mem_singleton.mp hentry
  refine fun _ => ⟨⟨?_, ?_, ?_⟩, .inl (by rw [hkind]; decide)⟩
  · intro entry hentry _
    rw [hmem entry hentry]
    exact hkey
  · intro entry hentry
    rw [hmem entry hentry]
    have hflag : ∀ name ∈ ["url", "urlSecretRef"], sameName name "clearUrl" = false := by decide
    exact hflag key (by simpa using hkey)
  · intro entry hentry _
    rw [hmem entry hentry]
    exact settled_str htrim hnil

/-- A webhook is created with a URL, and then given a reference. -/
theorem exactUpdates_webhook : Along (step channelLibrary) (channelLibrary.ExactUpdate .url) none
    [webhookSave "url" "https://hooks.example/one", webhookSave "urlSecretRef" "hook"] := by
  refine exactUpdates_along channelLibrary .url _ (along_cons.mpr fun _ _ => ⟨?_, ?_⟩)
  · exact manages_webhook (.inl rfl) (by decide) (by decide)
  · refine along_cons.mpr fun _ _ => ⟨?_, along_nil⟩
    exact manages_webhook (.inr rfl) (by decide) (by decide)

/-- An e-mail channel is created, and the password is cleared. -/
def clearing : ChannelInput :=
  ⟨"EMAIL", some ⟨[("smtpHost", .str "mail"), ("from", .str "a@b"), ("clearPassword", .bool true)],
    by decide⟩, sealing⟩

/-- **The clear flag is stored.** -/
theorem clear_flag_stored :
    ¬ Along (step channelLibrary) (channelLibrary.ExactUpdate .password) none [clearing] := by
  intro h
  obtain ⟨hexact, -⟩ := h _ rfl
  have hflag := (hexact.sealed _ rfl).flag ("clearPassword", .bool true) (by decide)
  exact absurd hflag (by decide)

end ChannelLibrary

end Rhythm.Library
