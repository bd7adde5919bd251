import Mathlib.Algebra.GroupWithZero.Nat
import Rhythm.Library.Proxies
import Rhythm.Unmarshal

/-!
# Rhythm.Library.Certificates

Certificate profiles, from the uploaded files to the TLS material of a run.  The packages for X.509,
PEM, PKCS#7, PKCS#12 and Java keystores, base 64 and the cipher are inputs.

* `opened_prepare` — what is stored of an upload opens to what was parsed;
* `resolveTLSProfile_uploads` — two uploaded profiles are laid one over the other;
* `keepsBundle_iff` — a trust bundle keeps its certificates exactly if it has one only.
-/

namespace Rhythm.Library

open Fallible Text Unmarshal

/-! ## Packages -/

abbrev Bytes := List UInt8

/-- A certificate, with what its profile tells about it. -/
structure Certificate where
  raw : Bytes
  subject : String
  issuer : String
  serialNumber : String
  dnsNames : List String
  notBefore : String
  notAfter : String
  daysUntilExpiry : Int
  fingerprintSHA256 : String
  keyAlgorithm : String

structure PemBlock where
  type : String
  bytes : Bytes

/-- An opened Java keystore: under each alias a private key with its chain, to be unlocked by a
password, or a trusted certificate. -/
structure Keystore where
  aliases : List String
  privateKeyEntry : String → Option (String → Except String (Bytes × List Bytes))
  trustedCertificateEntry : String → Option (Except String Bytes)

/-- What certificate profiles take from their library. -/
structure CertificateLibrary (Key : Type) where
  service : Service
  /-- `fmt.Sprint` prints a text as it is. -/
  sprint_str : ∀ text, service.sprint (.str text) = text
  /-- `%q`. -/
  quote : String → String
  decodeBase64 : String → Except String Bytes
  /-- The blocks that `pem.Decode` finds one after the other. -/
  pem : Bytes → List PemBlock
  /-- `pem.EncodeToMemory`, from the type and the bytes of a block. -/
  encodePem : String → Bytes → String
  encodePem_ne : ∀ type bytes, encodePem type bytes ≠ ""
  parseCertificate : Bytes → Except String Certificate
  /-- The certificates of a PKCS#7 container. -/
  parseContainer : Bytes → Except String (List Certificate)
  parsePKCS8PrivateKey : Bytes → Option Key
  parsePKCS1PrivateKey : Bytes → Option Key
  parseECPrivateKey : Bytes → Option Key
  marshalPKCS8PrivateKey : Key → Option Bytes
  /-- `pkcs12.DecodeChain`: key, leaf and chain. -/
  decodeChain : Bytes → String → Option (Key × Certificate × List Certificate)
  decodeTrustStore : Bytes → String → Option (List Certificate)
  loadKeystore : Bytes → String → Option Keystore
  /-- `tls.X509KeyPair`. -/
  keyPair : String → String → Except String Unit
  /-- `secretscrypto.Encrypt`, with a nonce. -/
  encrypt : Nat → String → Except String Ciphertext
  decrypt : String → Except String String
  decrypt_encrypt : ∀ nonce plaintext cipher, encrypt nonce plaintext = .ok cipher →
    decrypt cipher.text = .ok plaintext
  /-- The value that the database has for a secret. -/
  secret : String → Except String String

/-! ## Material -/

/-- The three texts of a certificate profile. -/
inductive Field where
  | clientCertificate | clientKey | caBundle
  deriving DecidableEq

namespace Field

def all : List Field := [clientCertificate, clientKey, caBundle]

def key : Field → String
  | clientCertificate => "encryptedClientCertificatePEM"
  | clientKey => "encryptedClientKeyPEM"
  | caBundle => "encryptedCABundlePEM"

def references : Field → List String
  | clientCertificate => ["clientCertSecretRef", "certificateSecretRef"]
  | clientKey => ["clientKeySecretRef", "privateKeySecretRef"]
  | caBundle => ["caBundleSecretRef", "caSecretRef"]

/-- An order in which a map of the three is ranged over. -/
abbrev Order := { order : List Field // order.Perm all }

end Field

/-- `TLSMaterial`. -/
structure TLSMaterial where
  clientCertificatePEM : String := ""
  clientKeyPEM : String := ""
  caBundlePEM : String := ""
  deriving DecidableEq

namespace TLSMaterial

def get (material : TLSMaterial) : Field → String
  | .clientCertificate => material.clientCertificatePEM
  | .clientKey => material.clientKeyPEM
  | .caBundle => material.caBundlePEM

def set (material : TLSMaterial) (field : Field) (value : String) : TLSMaterial :=
  match field with
  | .clientCertificate => { material with clientCertificatePEM := value }
  | .clientKey => { material with clientKeyPEM := value }
  | .caBundle => { material with caBundlePEM := value }

theorem get_set (material : TLSMaterial) (field other : Field) (value : String) :
    (material.set field value).get other = if other = field then value else material.get other := by
  cases field <;> cases other <;> rfl

theorem eq_of_get {a b : TLSMaterial} (h : ∀ field, a.get field = b.get field) : a = b := by
  have hcertificate := h .clientCertificate
  have hkey := h .clientKey
  have hbundle := h .caBundle
  simp only [get] at hcertificate hkey hbundle
  cases a
  cases b
  simp_all

/-- One material over another: the texts of the upper, where it has them. -/
def overlay (upper lower : TLSMaterial) : TLSMaterial :=
  let text (field : Field) := if upper.get field = "" then lower.get field else upper.get field
  ⟨text .clientCertificate, text .clientKey, text .caBundle⟩

theorem get_overlay (upper lower : TLSMaterial) (field : Field) : (upper.overlay lower).get field =
    if upper.get field = "" then lower.get field else upper.get field := by
  cases field <;> rfl

end TLSMaterial

/-- `certificateMaterial`. -/
structure CertificateMaterial extends TLSMaterial where
  certificates : List Certificate := []
  sourceFormat : String := ""
  sourceNames : List String := []
  keyAlias : String := ""

structure CertificateFile where
  name : String
  data : Bytes

/-- `filepath.Ext`. -/
def extension (path : String) : String :=
  let tail := path.toList.reverse.takeWhile fun c => c ≠ '.' && c ≠ '/'
  if (path.toList.reverse.drop tail.length).head? = some '.' then
    String.ofList ('.' :: tail.reverse)
  else ""

namespace CertificateLibrary

variable {Key : Type} (lib : CertificateLibrary Key)

/-! ## Parsing -/

def encodeCertificate (certificate : Certificate) : String :=
  lib.encodePem "CERTIFICATE" certificate.raw

def bundle (certificates : List Certificate) : String :=
  (certificates.map lib.encodeCertificate).foldr (· ++ ·) ""

/-- The bytes of the first block, or else the data themselves. -/
def unwrapped (data : Bytes) : Bytes := ((lib.pem data).head?.map PemBlock.bytes).getD data

/-- `normalizePrivateKey`. -/
def normalizePrivateKey (data : Bytes) : Except String String :=
  let data := lib.unwrapped data
  match ((lib.parsePKCS8PrivateKey data).or (lib.parsePKCS1PrivateKey data)).or
      (lib.parseECPrivateKey data) with
  | none => .error "private key must be PKCS#1, PKCS#8, or EC"
  | some key =>
    match lib.marshalPKCS8PrivateKey key with
    | none => .error "private key type is unsupported"
    | some der => .ok (lib.encodePem "PRIVATE KEY" der)

/-- The first certificate is the client's, the others are its chain. -/
def addCertificate (result : CertificateMaterial) (certificate : Certificate) :
    CertificateMaterial :=
  let encoded := lib.encodeCertificate certificate
  if result.clientCertificatePEM = "" then
    { result with
      clientCertificatePEM := encoded, certificates := result.certificates ++ [certificate] }
  else
    { result with
      caBundlePEM := result.caBundlePEM ++ encoded
      certificates := result.certificates ++ [certificate] }

/-- One turn of the loop of `parsePEMorDER`. -/
def addBlock (result : CertificateMaterial) (block : PemBlock) :
    Except String CertificateMaterial :=
  if block.type = "CERTIFICATE" then
    match lib.parseCertificate block.bytes with
    | .error _ => .error "PEM contains an invalid X.509 certificate"
    | .ok certificate => .ok (lib.addCertificate result certificate)
  else if contains block.type "PRIVATE KEY" then
    (lib.normalizePrivateKey block.bytes).map fun keyPEM => { result with clientKeyPEM := keyPEM }
  else .ok result

/-- `parsePEMorDER`. -/
def parsePEMorDER (data : Bytes) : Except String CertificateMaterial := do
  let result ← (lib.pem data).foldlM lib.addBlock {}
  if result.certificates ≠ [] then return result
  else
    match lib.parseCertificate data with
    | .error _ => .error "file is neither valid PEM nor a DER X.509 certificate"
    | .ok certificate =>
      return { result with
        clientCertificatePEM := lib.encodeCertificate certificate, certificates := [certificate] }

/-- `parsePKCS7`. -/
def parsePKCS7 (data : Bytes) : Except String CertificateMaterial :=
  match lib.parseContainer (lib.unwrapped data) with
  | .ok (first :: chain) =>
    .ok {
      clientCertificatePEM := lib.encodeCertificate first
      caBundlePEM := lib.bundle chain
      certificates := first :: chain }
  | _ => .error "PKCS#7 bundle does not contain a usable certificate"

/-- `parsePKCS12`. -/
def parsePKCS12 (data : Bytes) (password : String) : Except String CertificateMaterial :=
  match lib.decodeChain data password with
  | none =>
    match lib.decodeTrustStore data password with
    | none | some [] => .error "unable to open PKCS#12 container; check its password"
    | some trusted => .ok { caBundlePEM := lib.bundle trusted, certificates := trusted }
  | some (privateKey, leaf, chain) =>
    match lib.marshalPKCS8PrivateKey privateKey with
    | none => .error "PKCS#12 private key is unsupported"
    | some keyDER =>
      .ok {
        clientCertificatePEM := lib.encodeCertificate leaf
        clientKeyPEM := lib.encodePem "PRIVATE KEY" keyDER
        caBundlePEM := lib.bundle chain
        certificates := leaf :: chain }

def addPrivateKeyEntry (result : CertificateMaterial) (keyAlias keyPassword : String)
    (unlock : String → Except String (Bytes × List Bytes)) : Except String CertificateMaterial :=
  match unlock keyPassword with
  | .error _ =>
    .error ("unable to unlock JKS alias " ++ lib.quote keyAlias ++ "; check its key password")
  | .ok (privateKey, chain) =>
    match lib.normalizePrivateKey privateKey with
    | .error message => .error ("JKS alias " ++ lib.quote keyAlias ++ ": " ++ message)
    | .ok keyPEM =>
      match chain.mapM lib.parseCertificate with
      | .error _ =>
        .error ("JKS alias " ++ lib.quote keyAlias ++ " contains an invalid certificate")
      | .ok [] => .ok { result with clientKeyPEM := keyPEM, keyAlias }
      | .ok (first :: rest) =>
        .ok { result with
          clientKeyPEM := keyPEM
          clientCertificatePEM := lib.encodeCertificate first
          caBundlePEM := result.caBundlePEM ++ lib.bundle rest
          certificates := result.certificates ++ first :: rest
          keyAlias }

/-- The trusted certificate under an alias, if there is one. -/
def addTrustedEntry (store : Keystore) (result : CertificateMaterial) (keyAlias : String) :
    Except String CertificateMaterial :=
  match store.trustedCertificateEntry keyAlias with
  | none => .ok result
  | some (.error _) => .error ("unable to read JKS alias " ++ lib.quote keyAlias)
  | some (.ok content) =>
    match lib.parseCertificate content with
    | .error _ => .error ("JKS alias " ++ lib.quote keyAlias ++ " contains an invalid certificate")
    | .ok certificate =>
      .ok { result with
        caBundlePEM := result.caBundlePEM ++ lib.encodeCertificate certificate
        certificates := result.certificates ++ [certificate] }

/-- One turn of the loop of `parseJKS`. -/
def addEntry (store : Keystore) (keyPassword : String) (result : CertificateMaterial)
    (keyAlias : String) : Except String CertificateMaterial :=
  match store.privateKeyEntry keyAlias with
  | none => lib.addTrustedEntry store result keyAlias
  | some unlock =>
    if result.clientKeyPEM = "" then lib.addPrivateKeyEntry result keyAlias keyPassword unlock
    else lib.addTrustedEntry store result keyAlias

/-- `parseJKS`. -/
def parseJKS (data : Bytes) (password keyPassword requestedAlias : String) :
    Except String CertificateMaterial :=
  match lib.loadKeystore data password with
  | none => .error "unable to open JKS keystore; check its password"
  | some store => do
    let aliases :=
      if requestedAlias ≠ "" then [requestedAlias]
      else store.aliases.insertionSort fun a b => a ≤ b
    let result ← aliases.foldlM (lib.addEntry store keyPassword) { keyAlias := requestedAlias }
    if result.certificates = [] then .error "JKS keystore does not contain a usable certificate"
    else .ok result

/-- `detectCertificateFormat`. -/
def detectCertificateFormat (data : Bytes) (ext : String) : String :=
  if lib.pem data ≠ [] then "PEM" else if ext ∈ [".crt", ".cer"] then "X509" else "DER"

/-! ## Uploads -/

/-- `decodeCertificateFile`. -/
def decodeCertificateFile (value : Json) : Except String (Option CertificateFile) :=
  match value with
  | .obj entry =>
    let name := trimSpace (lib.service.sprint (member entry "name"))
    let encoded := trimSpace (lib.service.sprint (member entry "contentBase64"))
    if name = "" ∨ encoded = "" ∨ encoded = "<nil>" then
      .error "uploaded file name and content are required"
    else
      match lib.decodeBase64 encoded with
      | .error _ => .error "uploaded file is not valid base64"
      | .ok data =>
        if data.length = 0 ∨ 10 * 2 ^ 20 < data.length then
          .error "uploaded file must be between 1 byte and 10 MB"
        else .ok (some ⟨name, data⟩)
  | _ => .ok none

def pkcs12Extensions : List String := [".p12", ".pfx"]

def pkcs7Extensions : List String := [".p7b", ".p7c"]

def jksExtensions : List String := [".jks", ".keystore"]

def parseSource (source : CertificateFile) (password keyPassword keyAlias : String) :
    Except String CertificateMaterial :=
  let ext := toLower (extension source.name)
  if ext ∈ pkcs12Extensions then
    (lib.parsePKCS12 source.data password).map ({ · with sourceFormat := "PKCS12" })
  else if ext ∈ pkcs7Extensions then
    (lib.parsePKCS7 source.data).map ({ · with sourceFormat := "PKCS7" })
  else if ext ∈ jksExtensions then
    (lib.parseJKS source.data password keyPassword keyAlias).map ({ · with sourceFormat := "JKS" })
  else
    (lib.parsePEMorDER source.data).map
      ({ · with sourceFormat := lib.detectCertificateFormat source.data ext })

def addFile (add : CertificateMaterial → CertificateFile → Except String CertificateMaterial)
    (file : Option CertificateFile) (result : CertificateMaterial) :
    Except String CertificateMaterial :=
  match file with
  | none => .ok result
  | some file =>
    match add result file with
    | .error message => .error (file.name ++ ": " ++ message)
    | .ok result => .ok { result with sourceNames := result.sourceNames ++ [file.name] }

def addPrivateKey (result : CertificateMaterial) (file : CertificateFile) :
    Except String CertificateMaterial :=
  (lib.normalizePrivateKey file.data).map fun keyPEM => { result with clientKeyPEM := keyPEM }

def addBundle (result : CertificateMaterial) (file : CertificateFile) :
    Except String CertificateMaterial :=
  (lib.parsePEMorDER file.data).map fun material =>
    { result with
      caBundlePEM :=
        result.caBundlePEM ++ (material.clientCertificatePEM ++ material.caBundlePEM)
      certificates := result.certificates ++ material.certificates }

/-- `parseCertificateUpload`; nothing when no file is given. -/
def parseCertificateUpload (config : Config) : Except String (Option CertificateMaterial) := do
  let password := lib.service.firstString config ["password"]
  let keyPassword := lib.service.firstString config ["keyPassword"]
  let keyPassword := if keyPassword = "" then password else keyPassword
  let keyAlias := lib.service.firstString config ["alias"]
  let source ← lib.decodeCertificateFile (member config "source")
  let privateKey ← lib.decodeCertificateFile (member config "privateKey")
  let caBundle ← lib.decodeCertificateFile (member config "caBundle")
  if source.isNone ∧ privateKey.isNone ∧ caBundle.isNone then return none
  else do
    let result ← addFile (fun _ file => lib.parseSource file password keyPassword keyAlias)
      source {}
    let result ← addFile lib.addPrivateKey privateKey result
    let result ← addFile lib.addBundle caBundle result
    return some { result with keyAlias }

/-! ## Storing -/

def purposeOf (config : Config) : String :=
  let purpose := toUpper (lib.service.firstString config ["purpose"])
  if purpose = "" then "CLIENT_IDENTITY" else purpose

/-- `normalizeLegacyCertificateReferences`. -/
def normalizeLegacyCertificateReferences (config : Config) : Config :=
  Field.all.filterMap fun field =>
    match field.references with
    | [] => none
    | target :: _ =>
      let value := lib.service.firstString config field.references
      if value = "" then none else some (target, .str value)

/-- `mergeCertificateMetadata`. -/
def mergeCertificateMetadata (existing input : Config) (purpose : String) : Config :=
  let merged := setKey existing "purpose" (.str purpose)
  let keyAlias := lib.service.firstString input ["alias"]
  if keyAlias = "" then merged else setKey merged "alias" (.str keyAlias)

/-- `certificateMetadata`, of the leaf. -/
def certificateMetadata (material : CertificateMaterial) (leaf : Certificate) (purpose : String) :
    Config :=
  let names := material.sourceNames.insertionSort fun a b => a ≤ b
  [("purpose", .str purpose), ("sourceFormat", .str material.sourceFormat),
    ("sourceNames", .arr (names.map .str)), ("alias", .str material.keyAlias),
    ("certificateCount", .num material.certificates.length), ("subject", .str leaf.subject),
    ("issuer", .str leaf.issuer), ("serialNumber", .str leaf.serialNumber),
    ("dnsNames", .arr (leaf.dnsNames.map .str)), ("notBefore", .str leaf.notBefore),
    ("notAfter", .str leaf.notAfter), ("daysUntilExpiry", .num leaf.daysUntilExpiry),
    ("fingerprintSHA256", .str leaf.fingerprintSHA256), ("keyAlgorithm", .str leaf.keyAlgorithm),
    ("hasClientIdentity",
      .bool (material.clientCertificatePEM ≠ "" && material.clientKeyPEM ≠ "")),
    ("hasTrustBundle", .bool (material.caBundlePEM ≠ "")), ("encryptedAtRest", .bool true)]

/-- The material as its purpose has it: a certificate alone is a valid trust anchor. -/
def forPurpose (material : CertificateMaterial) (purpose : String) : CertificateMaterial :=
  if purpose = "TRUST_BUNDLE" ∧ material.caBundlePEM = "" then
    { material with caBundlePEM := material.clientCertificatePEM, clientCertificatePEM := "" }
  else material

def checkClientKey (material : CertificateMaterial) : Except String Unit :=
  if material.clientKeyPEM = "" then .ok ()
  else if material.clientCertificatePEM = "" then
    .error "a private key was supplied without a client certificate"
  else
    (lib.keyPair material.clientCertificatePEM material.clientKeyPEM).mapError
      ("private key does not match the client certificate: " ++ ·)

def sealField (nonces : Field → Nat) (material : TLSMaterial) (prepared : Config)
    (field : Field) : Except String Config :=
  if material.get field = "" then .ok prepared
  else
    match lib.encrypt (nonces field) (material.get field) with
    | .error message => .error ("encrypt certificate material: " ++ message)
    | .ok cipher => .ok (setKey prepared field.key (.str cipher.text))

def storeUpload (nonces : Field → Nat) (order : Field.Order) (purpose : String)
    (material : CertificateMaterial) : Except String Config :=
  if ¬ lib.service.secretsKey then
    .error "certificate uploads require RHYTHM_SECRETS_ENCRYPTION_KEY"
  else
    match material.certificates with
    | [] => .error "the uploaded files do not contain an X.509 certificate"
    | leaf :: _ =>
      if purpose = "CLIENT_IDENTITY" ∧
          (material.clientCertificatePEM = "" ∨ material.clientKeyPEM = "") then
        .error "client identity profiles require both a certificate and its private key"
      else do
        let material := forPurpose material purpose
        lib.checkClientKey material
        order.val.foldlM (lib.sealField nonces material.toTLSMaterial)
          (certificateMetadata material leaf purpose)

/-- `prepareCertificateConfig`. -/
def prepareCertificateConfig (nonces : Field → Nat) (order : Field.Order) (config : Config)
    (existing : Option Config) : Except String Config :=
  let purpose := lib.purposeOf config
  if purpose ∉ ["CLIENT_IDENTITY", "TRUST_BUNDLE", "COMBINED"] then
    .error "certificate purpose must be CLIENT_IDENTITY, TRUST_BUNDLE, or COMBINED"
  else
    match lib.parseCertificateUpload config with
    | .error message => .error message
    | .ok (some material) => lib.storeUpload nonces order purpose material
    | .ok none =>
      match existing with
      | some existing => .ok (lib.mergeCertificateMetadata existing config purpose)
      | none =>
        let legacy := lib.normalizeLegacyCertificateReferences config
        if legacy = [] then
          .error "select a PEM, CRT, CER, DER, P7B, P7C, P12, PFX, or JKS file"
        else .ok (setKey legacy "purpose" (.str purpose))

/-! ## Resolving -/

/-- `ResolveSecret`. -/
def resolveSecret (reference : String) : Except String String :=
  normalizeSecretAlias reference >>= lib.secret

def openField (profile : Profile) (result : TLSMaterial) (field : Field) :
    Except String TLSMaterial :=
  let ciphertext := lib.service.firstString profile.config [field.key]
  if ciphertext = "" then .ok result
  else if ¬ lib.service.secretsKey then
    .error ("certificate material cannot be decrypted because " ++
      "RHYTHM_SECRETS_ENCRYPTION_KEY is not configured")
  else
    match lib.decrypt ciphertext with
    | .error message =>
      .error ("decrypt certificate profile " ++ lib.quote profile.name ++ ": " ++ message)
    | .ok value => .ok (result.set field value)

def referField (profile : Profile) (result : TLSMaterial) (field : Field) :
    Except String TLSMaterial :=
  if result.get field ≠ "" then .ok result
  else
    let reference := lib.service.firstString profile.config field.references
    if reference = "" then .ok result
    else (lib.resolveSecret reference).map (result.set field)

/-- What a profile, if one is named, adds to the material. -/
def resolveProfile (profileByIdentifier : String → Except String Profile) (order : Field.Order)
    (result : TLSMaterial) (identifier : String) : Except String TLSMaterial :=
  if identifier = "" then .ok result
  else do
    let profile ← profileByIdentifier identifier
    let result ← order.val.foldlM (lib.openField profile) result
    Field.all.foldlM (lib.referField profile) result

/-- `ResolveTLSProfile`. -/
def resolveTLSProfile (profileByIdentifier : String → Except String Profile)
    (orders : Field.Order × Field.Order) (certificateProfileID caProfileID : String) :
    Except String TLSMaterial := do
  let result ← lib.resolveProfile profileByIdentifier orders.1 {} certificateProfileID
  lib.resolveProfile profileByIdentifier orders.2 result caProfileID

/-! ## What is stored of an upload -/

section Stored

variable {lib} {nonces : Field → Nat} {material : TLSMaterial} {prepared stored config : Config}
  {order : List Field} {field : Field}

theorem key_injective {field other : Field} (h : field.key = other.key) : field = other := by
  cases field <;> cases other <;> first | rfl | exact absurd h (by decide)

variable (lib) in
/-- A field holds the encryption of a text; an empty text is not stored. -/
def Seals (config : Config) (field : Field) (text : String) : Prop :=
  if text = "" then config.lookup field.key = none
  else ∃ cipher : Ciphertext, config.lookup field.key = some (.str cipher.text) ∧
    lib.decrypt cipher.text = .ok text

theorem sealField_ok (h : lib.sealField nonces material prepared field = .ok stored) :
    (prepared.lookup field.key = none → lib.Seals stored field (material.get field)) ∧
      ∀ key, key ≠ field.key → stored.lookup key = prepared.lookup key := by
  unfold sealField at h
  unfold Seals
  split at h
  · next hempty =>
    obtain rfl := Except.ok.inj h
    exact ⟨fun hnone => by rwa [if_pos hempty], fun _ _ => rfl⟩
  · next htext =>
    rw [if_neg htext]
    cases hcipher : lib.encrypt (nonces field) (material.get field) with
    | error message =>
      rw [hcipher] at h
      cases h
    | ok cipher =>
      rw [hcipher] at h
      obtain rfl := Except.ok.inj h
      refine ⟨fun _ => ⟨cipher, ?_, lib.decrypt_encrypt _ _ _ hcipher⟩, fun key hne => ?_⟩
      · rw [lookup_setKey, if_pos rfl]
      · rw [lookup_setKey, if_neg hne]

theorem foldlM_sealField (hnodup : order.Nodup)
    (hfresh : ∀ field : Field, prepared.lookup field.key = none)
    (h : order.foldlM (lib.sealField nonces material) prepared = .ok stored) :
    (∀ field ∈ order, lib.Seals stored field (material.get field)) ∧
      ∀ key, (∀ field ∈ order, key ≠ field.key) → stored.lookup key = prepared.lookup key := by
  induction order using List.reverseRecOn generalizing stored with
  | nil =>
    obtain rfl := Except.ok.inj h
    exact ⟨fun field hmem => absurd hmem List.not_mem_nil, fun _ _ => rfl⟩
  | append_singleton earlier last ih =>
    rw [List.foldlM_append, bind_eq_ok_iff] at h
    obtain ⟨middle, hmiddle, hlast⟩ := h
    rw [List.foldlM_cons, bind_eq_ok_iff] at hlast
    obtain ⟨result, hseal, hdone⟩ := hlast
    obtain rfl := Except.ok.inj hdone
    obtain ⟨hearlier, hothers⟩ := ih (List.nodup_append.mp hnodup).1 hmiddle
    have hlastNew : last ∉ earlier := fun hmem =>
      (List.nodup_append.mp hnodup).2.2 _ hmem _ (List.mem_singleton_self last) rfl
    obtain ⟨hsealed, hkept⟩ := sealField_ok hseal
    refine ⟨fun field hmem => ?_, fun key hkey => ?_⟩
    · obtain hold | hnew := List.mem_append.mp hmem
      · have hne : field.key ≠ last.key := fun heq => hlastNew (key_injective heq ▸ hold)
        have hseals := hearlier field hold
        unfold Seals at hseals ⊢
        rwa [hkept _ hne]
      · obtain rfl := List.mem_singleton.mp hnew
        refine hsealed ((hothers _ fun other hother heq => ?_).trans (hfresh _))
        exact hlastNew (key_injective heq ▸ hother)
    · rw [hkept key (hkey last (List.mem_append_right _ (List.mem_singleton_self last)))]
      exact hothers key fun field hmem => hkey field (List.mem_append_left _ hmem)

/-- What an upload stores, for the material that was parsed. -/
structure Stores (lib : CertificateLibrary Key) (config : Config) (material : TLSMaterial) :
    Prop where
  seals : ∀ field, lib.Seals config field (material.get field)
  unreferred : ∀ field : Field, ∀ key ∈ field.references, config.lookup key = none

theorem reference_ne_key {key : String} (h : key ∈ field.references) (other : Field) :
    key ≠ other.key := by
  have hall : ∀ name ∈ field.references, name ≠ other.key := by
    cases field <;> cases other <;> decide
  exact hall key h

theorem lookup_certificateMetadata_reference {material : CertificateMaterial} {leaf : Certificate}
    {purpose key : String} (h : key ∈ field.references) :
    (certificateMetadata material leaf purpose).lookup key = none := by
  cases field <;> obtain rfl | hkey := List.mem_cons.mp h <;> try rfl
  all_goals
    obtain rfl := List.mem_singleton.mp hkey
    rfl

theorem stores_storeUpload {order : Field.Order} {purpose : String}
    {material : CertificateMaterial}
    (h : lib.storeUpload nonces order purpose material = .ok stored) :
    lib.service.secretsKey = true ∧
      lib.Stores stored (forPurpose material purpose).toTLSMaterial := by
  unfold storeUpload at h
  split at h
  · cases h
  · next hkey =>
    cases hcertificates : material.certificates with
    | nil =>
      rw [hcertificates] at h
      cases h
    | cons leaf chain =>
      rw [hcertificates] at h
      dsimp only at h
      split at h
      · cases h
      · obtain ⟨⟨⟩, -, hfold⟩ := bind_eq_ok_iff.mp h
        have hmem : ∀ field, field ∈ order.val := fun field =>
          order.property.mem_iff.mpr (by cases field <;> decide)
        have hnodup : order.val.Nodup := order.property.nodup_iff.mpr (by decide)
        obtain ⟨hseals, hothers⟩ :=
          foldlM_sealField hnodup (fun field => by cases field <;> rfl) hfold
        refine ⟨not_not.mp hkey, fun field => hseals field (hmem field),
          fun field key hreference => ?_⟩
        rw [hothers key fun other _ => reference_ne_key hreference other]
        exact lookup_certificateMetadata_reference hreference

end Stored

/-! ## What a profile resolves to -/

section Resolved

variable {lib} {config : Config} {material result result' : TLSMaterial} {order : List Field}
  {profile : Profile}

theorem firstString_eq_empty {keys : List String}
    (h : ∀ key ∈ keys, config.lookup key = none) : lib.service.firstString config keys = "" := by
  grind [trimSpace, List.filterMap_eq_nil_iff, Service.firstString]

theorem firstString_cipher {key : String} {cipher : Ciphertext}
    (h : config.lookup key = some (.str cipher.text)) :
    lib.service.firstString config [key] = cipher.text ∧ cipher.text ≠ "" := by
  have hne : ∀ text, hasPrefix text "v1:" = false → cipher.text ≠ text := by
    intro text hother heq
    have hversion := cipher.version
    rw [heq, hother] at hversion
    cases hversion
  have hempty := hne "" (by decide)
  have hnil := hne "<nil>" (by decide)
  refine ⟨?_, hempty⟩
  unfold Service.firstString
  simp [h, lib.sprint_str, cipher.trimmed, hempty, hnil]

theorem openField_eq (hsecrets : lib.service.secretsKey = true)
    (hstores : lib.Stores profile.config material) (field : Field) :
    lib.openField profile result field = .ok
      (if material.get field = "" then result else result.set field (material.get field)) := by
  have hseals := hstores.seals field
  unfold Seals at hseals
  unfold openField
  split at hseals
  · next hempty =>
    have hread : lib.service.firstString profile.config [field.key] = "" :=
      firstString_eq_empty fun key hkey => by rwa [List.mem_singleton.mp hkey]
    rw [hread, if_pos hempty]
    rfl
  · next htext =>
    obtain ⟨cipher, hlookup, hdecrypt⟩ := hseals
    obtain ⟨hread, hne⟩ := @firstString_cipher Key lib _ _ _ hlookup
    rw [hread, if_neg htext]
    dsimp only
    rw [if_neg hne, hdecrypt, hsecrets]
    rfl

theorem foldlM_openField (hsecrets : lib.service.secretsKey = true)
    (hstores : lib.Stores profile.config material) (order : List Field) :
    ∃ opened, order.foldlM (lib.openField profile) result = .ok opened ∧
      ∀ field, opened.get field =
        if field ∈ order ∧ material.get field ≠ "" then material.get field
        else result.get field := by
  induction order generalizing result with
  | nil => exact ⟨result, rfl, fun field => by simp⟩
  | cons first rest ih =>
    obtain ⟨opened, hopened, hget⟩ := @ih
      (if material.get first = "" then result else result.set first (material.get first))
    refine ⟨opened, ?_, fun field => ?_⟩
    · rw [List.foldlM_cons, openField_eq hsecrets hstores]
      exact hopened
    · grind [field, TLSMaterial.get_set]

theorem foldlM_referField (hstores : lib.Stores profile.config material) (order : List Field) :
    order.foldlM (lib.referField profile) result = .ok result := by
  induction order with
  | nil => rfl
  | cons first rest ih =>
    have hnone : lib.service.firstString profile.config first.references = "" :=
      firstString_eq_empty (hstores.unreferred first)
    have hstep : lib.referField profile result first = .ok result := by
      unfold referField
      rw [hnone]
      split <;> rfl
    rw [List.foldlM_cons, hstep]
    exact ih

variable {find : String → Except String Profile}

/-- **A profile that holds an upload** is laid over the material so far. -/
theorem resolveProfile_eq {order : Field.Order}
    {identifier : String} (hsecrets : lib.service.secretsKey = true)
    (hstores : lib.Stores profile.config material) (hidentifier : identifier ≠ "")
    (hfind : find identifier = .ok profile) :
    lib.resolveProfile find order result identifier = .ok (material.overlay result) := by
  obtain ⟨opened, hopened, hget⟩ :=
    @foldlM_openField Key lib material result profile hsecrets hstores order.val
  have hoverlay : opened = material.overlay result := by
    refine TLSMaterial.eq_of_get fun field => ?_
    have hmem : field ∈ order.val := order.property.mem_iff.mpr (by cases field <;> decide)
    rw [hget, TLSMaterial.get_overlay]
    by_cases hempty : material.get field = ""
    · simp [hempty]
    · simp [hempty, hmem]
  unfold resolveProfile
  rw [if_neg hidentifier, hfind]
  refine bind_eq_ok_iff.mpr ⟨profile, rfl, ?_⟩
  exact bind_eq_ok_iff.mpr ⟨opened, hopened, hoverlay ▸ foldlM_referField hstores Field.all⟩

/-- **Two uploaded profiles.** -/
theorem resolveTLSProfile_uploads {orders : Field.Order × Field.Order} {certificateID caID : String}
    {certificateProfile caProfile : Profile} {upper : TLSMaterial}
    (hsecrets : lib.service.secretsKey = true)
    (hcertificate : lib.Stores certificateProfile.config material)
    (hca : lib.Stores caProfile.config upper) (hcertificateID : certificateID ≠ "")
    (hcaID : caID ≠ "") (hfind : find certificateID = .ok certificateProfile)
    (hfindCA : find caID = .ok caProfile) :
    lib.resolveTLSProfile find orders certificateID caID =
      .ok (upper.overlay (material.overlay {})) :=
  bind_eq_ok_iff.mpr ⟨_, resolveProfile_eq hsecrets hcertificate hcertificateID hfind,
    resolveProfile_eq hsecrets hca hcaID hfindCA⟩

end Resolved

/-! ## Trust bundles -/

/-- A PKCS#7 or PEM file holds these certificates, and no key. -/
inductive Holds (file : CertificateFile) (certificates : List Certificate) : Prop where
  | pkcs7 (named : toLower (extension file.name) ∈ pkcs7Extensions)
    (container : lib.parseContainer (lib.unwrapped file.data) = .ok certificates)
  | pem
    (named : toLower (extension file.name) ∉ pkcs7Extensions ++ pkcs12Extensions ++ jksExtensions)
    (keyless : ∀ block ∈ lib.pem file.data, contains block.type "PRIVATE KEY" = false)
    (blocks : ((lib.pem file.data).filter fun block => block.type = "CERTIFICATE").mapM
      (fun block => lib.parseCertificate block.bytes) = .ok certificates)

/-- The upload of a trust bundle in one file. -/
structure BundleUpload (config : Config) (certificates : List Certificate) : Prop where
  purpose : lib.purposeOf config = "TRUST_BUNDLE"
  source : ∃ file, lib.decodeCertificateFile (member config "source") = .ok (some file) ∧
    lib.Holds file certificates
  privateKey : lib.decodeCertificateFile (member config "privateKey") = .ok none
  caBundle : lib.decodeCertificateFile (member config "caBundle") = .ok none
  some : certificates ≠ []

def opened (config : Config) (field : Field) : Except String String :=
  if lib.service.firstString config [field.key] = "" then .ok ""
  else lib.decrypt (lib.service.firstString config [field.key])

/-- A client identity that was uploaded. -/
structure IdentityUpload (stored : Config) : Prop where
  accepted : ∃ nonces order config existing material,
    lib.purposeOf config = "CLIENT_IDENTITY" ∧
      lib.parseCertificateUpload config = .ok (some material) ∧
      lib.prepareCertificateConfig nonces order config existing = .ok stored

/-- The stored profile keeps a bundle: it is stored whole and without a client certificate, and
resolved whole, next to the client pair of any identity. -/
structure KeepsBundle (stored : Config) (certificates : List Certificate) : Prop where
  whole : lib.opened stored .caBundle = .ok (lib.bundle certificates)
  alone : stored.lookup Field.clientCertificate.key = none
  resolved : ∀ find orders certificateID caID certificateProfile caProfile,
    lib.IdentityUpload certificateProfile.config → caProfile.config = stored →
    certificateID ≠ "" → caID ≠ "" → find certificateID = .ok certificateProfile →
    find caID = .ok caProfile →
    ∃ certificatePEM keyPEM, certificatePEM ≠ "" ∧ keyPEM ≠ "" ∧
      lib.opened certificateProfile.config .clientCertificate = .ok certificatePEM ∧
      lib.opened certificateProfile.config .clientKey = .ok keyPEM ∧
      lib.resolveTLSProfile find orders certificateID caID =
        .ok ⟨certificatePEM, keyPEM, lib.bundle certificates⟩

section Bundles

variable {lib} {config stored : Config} {certificates chain : List Certificate}
  {first : Certificate} {nonces : Field → Nat} {order : Field.Order}

theorem bundle_eq_empty_iff : lib.bundle certificates = "" ↔ certificates = [] := by
  cases certificates with
  | nil => exact iff_of_true rfl rfl
  | cons certificate rest =>
    refine iff_of_false (fun hempty => ?_) (List.cons_ne_nil _ _)
    have happend : lib.encodeCertificate certificate ++ lib.bundle rest = "" := hempty
    exact lib.encodePem_ne _ _ (String.append_eq_empty_iff.mp happend).1

variable {result : CertificateMaterial}

theorem foldlM_addBlock {blocks : List PemBlock}
    (hkeys : ∀ block ∈ blocks, contains block.type "PRIVATE KEY" = false)
    (hparse : (blocks.filter fun block => block.type = "CERTIFICATE").mapM
      (fun block => lib.parseCertificate block.bytes) = .ok certificates) :
    blocks.foldlM lib.addBlock result = .ok (certificates.foldl lib.addCertificate result) := by
  induction blocks generalizing certificates result with
  | nil =>
    obtain rfl := Except.ok.inj hparse
    rfl
  | cons block blocks ih =>
    have hrest := fun other hother => hkeys other (List.mem_cons_of_mem block hother)
    rw [List.foldlM_cons]
    by_cases hcertificate : block.type = "CERTIFICATE"
    · rw [List.filter_cons_of_pos (by simpa using hcertificate), List.mapM_cons] at hparse
      obtain ⟨certificate, hone, hothers⟩ := bind_eq_ok_iff.mp hparse
      obtain ⟨rest, hmany, hall⟩ := bind_eq_ok_iff.mp hothers
      obtain rfl := Except.ok.inj hall
      have hstep : lib.addBlock result block = .ok (lib.addCertificate result certificate) := by
        unfold addBlock
        rw [if_pos hcertificate, hone]
      rw [hstep]
      exact ih hrest hmany
    · rw [List.filter_cons_of_neg (by simpa using hcertificate)] at hparse
      have hstep : lib.addBlock result block = .ok result := by
        unfold addBlock
        rw [if_neg hcertificate, hkeys block List.mem_cons_self]
        rfl
      rw [hstep]
      exact ih hrest hparse

theorem foldl_addCertificate
    (h : result.clientCertificatePEM ≠ "") : chain.foldl lib.addCertificate result =
      { result with
        caBundlePEM := result.caBundlePEM ++ lib.bundle chain
        certificates := result.certificates ++ chain } := by
  induction chain generalizing result with
  | nil => simp [bundle]
  | cons certificate chain ih =>
    grind [addCertificate, bundle, String.append_assoc]

variable (lib) in
/-- What the parsers make of a file with certificates alone. -/
def split (first : Certificate) (chain : List Certificate) : CertificateMaterial where
  clientCertificatePEM := lib.encodeCertificate first
  caBundlePEM := lib.bundle chain
  certificates := first :: chain

theorem parsePEMorDER_of_certificates {data : Bytes}
    (hkeys : ∀ block ∈ lib.pem data, contains block.type "PRIVATE KEY" = false)
    (hparse : ((lib.pem data).filter fun block => block.type = "CERTIFICATE").mapM
      (fun block => lib.parseCertificate block.bytes) = .ok (first :: chain)) :
    lib.parsePEMorDER data = .ok (lib.split first chain) := by
  have hstart : lib.addCertificate {} first = { ({} : CertificateMaterial) with
      clientCertificatePEM := lib.encodeCertificate first, certificates := [first] } := rfl
  have hfold : (first :: chain).foldl lib.addCertificate {} = lib.split first chain := by
    rw [List.foldl_cons, hstart, foldl_addCertificate (lib.encodePem_ne _ _)]
    simp [split]
  refine bind_eq_ok_iff.mpr ⟨_, foldlM_addBlock hkeys hparse, ?_⟩
  rw [hfold]
  exact if_pos (List.cons_ne_nil _ _)

theorem parseSource_of_holds {file : CertificateFile} {password keyPassword keyAlias : String}
    (h : lib.Holds file (first :: chain)) : ∃ format,
      lib.parseSource file password keyPassword keyAlias =
        .ok { lib.split first chain with sourceFormat := format } := by
  unfold parseSource
  dsimp only
  cases h with
  | pkcs7 named container =>
    have hother : toLower (extension file.name) ∉ pkcs12Extensions := by
      have hall : ∀ ext ∈ pkcs7Extensions, ext ∉ pkcs12Extensions := by decide
      exact hall _ named
    have hparse : lib.parsePKCS7 file.data = .ok (lib.split first chain) := by
      unfold parsePKCS7
      rw [container]
      rfl
    rw [if_neg hother, if_pos named, hparse]
    exact ⟨_, rfl⟩
  | pem named keyless blocks =>
    rw [List.mem_append, List.mem_append, not_or, not_or] at named
    obtain ⟨⟨hpkcs7, hpkcs12⟩, hjks⟩ := named
    rw [if_neg hpkcs12, if_neg hpkcs7, if_neg hjks, parsePEMorDER_of_certificates keyless blocks]
    exact ⟨_, rfl⟩

theorem parseCertificateUpload_of_source {file : CertificateFile}
    (hfile : lib.decodeCertificateFile (member config "source") = .ok (some file))
    (hprivateKey : lib.decodeCertificateFile (member config "privateKey") = .ok none)
    (hcaBundle : lib.decodeCertificateFile (member config "caBundle") = .ok none)
    (hholds : lib.Holds file (first :: chain)) : ∃ material : CertificateMaterial,
      lib.parseCertificateUpload config = .ok (some material) ∧
        material.toTLSMaterial = (lib.split first chain).toTLSMaterial := by
  unfold parseCertificateUpload
  dsimp only
  generalize (if lib.service.firstString config ["keyPassword"] = "" then
    lib.service.firstString config ["password"]
    else lib.service.firstString config ["keyPassword"]) = keyPassword
  generalize lib.service.firstString config ["password"] = password
  generalize lib.service.firstString config ["alias"] = keyAlias
  obtain ⟨format, hsource⟩ := @parseSource_of_holds Key lib chain first file password keyPassword
    keyAlias hholds
  have hadd : addFile (fun _ file => lib.parseSource file password keyPassword keyAlias)
      (some file) {} = .ok { lib.split first chain with
        sourceFormat := format, sourceNames := [file.name] } := by
    rw [addFile, hsource]
    rfl
  rw [hfile, hprivateKey, hcaBundle]
  refine ⟨{ lib.split first chain with
    sourceFormat := format, sourceNames := [file.name], keyAlias }, ?_, rfl⟩
  exact bind_eq_ok_iff.mpr ⟨_, rfl, bind_eq_ok_iff.mpr ⟨_, rfl, bind_eq_ok_iff.mpr ⟨_, rfl,
    bind_eq_ok_iff.mpr ⟨_, hadd, rfl⟩⟩⟩⟩

/-- What is stored of a bundle: a certificate alone is the bundle, but of several the first one is
stored as the client's. -/
theorem stores_bundle (hupload : lib.BundleUpload config (first :: chain))
    {existing : Option Config}
    (h : lib.prepareCertificateConfig nonces order config existing = .ok stored) :
    lib.service.secretsKey = true ∧ lib.Stores stored
      (if chain = [] then ⟨"", "", lib.bundle [first]⟩
        else ⟨lib.encodeCertificate first, "", lib.bundle chain⟩) := by
  obtain ⟨hpurpose, ⟨file, hfile, hholds⟩, hprivateKey, hcaBundle, -⟩ := hupload
  obtain ⟨material, hmaterial, htexts⟩ :=
    parseCertificateUpload_of_source hfile hprivateKey hcaBundle hholds
  unfold prepareCertificateConfig at h
  dsimp only at h
  rw [hpurpose, hmaterial, if_neg (by decide)] at h
  obtain ⟨hsecrets, hstores⟩ := stores_storeUpload h
  refine ⟨hsecrets, ?_⟩
  have hbundle : material.caBundlePEM = lib.bundle chain := congrArg (·.caBundlePEM) htexts
  have hkey : material.clientKeyPEM = "" := congrArg (·.clientKeyPEM) htexts
  have hcertificate : material.clientCertificatePEM = lib.encodeCertificate first :=
    congrArg (·.clientCertificatePEM) htexts
  unfold forPurpose at hstores
  rw [hbundle] at hstores
  by_cases hchain : chain = []
  · grind [bundle, List.map_singleton, String.append_empty]
  · rw [if_neg hchain]
    rw [if_neg fun h => hchain (bundle_eq_empty_iff.mp h.2)] at hstores
    rwa [htexts] at hstores

theorem opened_of_stores {material : TLSMaterial} (hstores : lib.Stores stored material)
    (field : Field) : lib.opened stored field = .ok (material.get field) := by
  have hseals := hstores.seals field
  unfold Seals at hseals
  unfold opened
  split at hseals
  · next hempty =>
    rw [firstString_eq_empty fun key hkey => by rwa [List.mem_singleton.mp hkey], hempty]
    rfl
  · grind [firstString_cipher]

theorem pair_of_storeUpload {material : CertificateMaterial}
    (h : lib.storeUpload nonces order "CLIENT_IDENTITY" material = .ok stored) :
    material.clientCertificatePEM ≠ "" ∧ material.clientKeyPEM ≠ "" := by
  grind [storeUpload]

theorem stores_identity (h : lib.IdentityUpload stored) : ∃ material : TLSMaterial,
    lib.Stores stored material ∧ material.clientCertificatePEM ≠ "" ∧
      material.clientKeyPEM ≠ "" := by
  obtain ⟨nonces, order, config, existing, material, hpurpose, hmaterial, hprepare⟩ := h.accepted
  unfold prepareCertificateConfig at hprepare
  dsimp only at hprepare
  rw [hpurpose, hmaterial, if_neg (by decide)] at hprepare
  obtain ⟨-, hstores⟩ := stores_storeUpload hprepare
  have hsame : forPurpose material "CLIENT_IDENTITY" = material :=
    if_neg fun h => absurd h.1 (by decide)
  rw [hsame] at hstores
  exact ⟨material.toTLSMaterial, hstores, pair_of_storeUpload hprepare⟩

/-- **A trust bundle is kept** exactly if it has one certificate: of several, the first is stored as
a client certificate, and lost to the bundle. -/
theorem keepsBundle_iff (lib : CertificateLibrary Key) {config stored : Config}
    {certificates : List Certificate} {nonces : Field → Nat} {order : Field.Order}
    {existing : Option Config} (hupload : lib.BundleUpload config certificates)
    (h : lib.prepareCertificateConfig nonces order config existing = .ok stored) :
    lib.KeepsBundle stored certificates ↔ certificates.length = 1 := by
  obtain ⟨first, chain, rfl⟩ := List.exists_cons_of_ne_nil hupload.some
  obtain ⟨hsecrets, hstores⟩ := stores_bundle hupload h
  by_cases hchain : chain = []
  · subst hchain
    rw [if_pos rfl] at hstores
    refine iff_of_true ⟨opened_of_stores hstores .caBundle, ?_, ?_⟩ rfl
    · have hseals := hstores.seals .clientCertificate
      unfold Seals at hseals
      exact (if_pos rfl).mp hseals
    · rintro find orders certificateID caID certificateProfile caProfile hidentity rfl
        hcertificateID hcaID hfind hfindCA
      obtain ⟨material, hmaterial, hcertificate, hkey⟩ := stores_identity hidentity
      refine ⟨material.clientCertificatePEM, material.clientKeyPEM, hcertificate, hkey,
        opened_of_stores hmaterial .clientCertificate, opened_of_stores hmaterial .clientKey, ?_⟩
      rw [resolveTLSProfile_uploads hsecrets hmaterial hstores hcertificateID hcaID hfind hfindCA]
      refine congrArg Except.ok (TLSMaterial.eq_of_get fun field => ?_)
      have hbundle : lib.bundle [first] ≠ "" := mt bundle_eq_empty_iff.mp (List.cons_ne_nil _ _)
      rw [TLSMaterial.get_overlay, TLSMaterial.get_overlay]
      cases field with
      | clientCertificate => exact (if_pos rfl).trans (if_neg hcertificate)
      | clientKey => exact (if_pos rfl).trans (if_neg hkey)
      | caBundle => exact if_neg hbundle
  · rw [if_neg hchain] at hstores
    refine iff_of_false (fun hkeeps => ?_) fun hone => hchain ?_
    · have hseals := hstores.seals .clientCertificate
      unfold Seals at hseals
      obtain ⟨cipher, hlookup, -⟩ := (if_neg (lib.encodePem_ne _ _)).mp hseals
      rw [hkeeps.alone] at hlookup
      cases hlookup
    · exact List.length_eq_zero_iff.mp (Nat.succ.inj hone)

end Bundles

end CertificateLibrary

/-! ## One root and two -/

def namedCertificate (raw : Bytes) : Certificate :=
  ⟨raw, "CN=root", "CN=root", "1", [], "", "", 365, "", "RSA"⟩

def marked (text : String) : Except String Ciphertext :=
  if h : hasPrefix ("v1:" ++ text) "v1:" = true ∧ trimSpace ("v1:" ++ text) = "v1:" ++ text then
    .ok ⟨"v1:" ++ text, h.1, h.2⟩
  else .error "no cipher"

def unmarked (text : String) : Except String String := .ok (String.ofList (text.toList.drop 3))

theorem unmarked_marked (text : String) (cipher : Ciphertext) (h : marked text = .ok cipher) :
    unmarked cipher.text = .ok text := by
  unfold marked at h
  split at h
  · obtain rfl := Except.ok.inj h
    have hmark : "v1:".toList = ['v', '1', ':'] := by decide
    simp [unmarked, String.toList_append, hmark]
  · cases h

/-- Packages for which each byte of a file is a certificate. -/
def rootLibrary : CertificateLibrary Unit where
  service := ⟨fun value => match value with | .str text => text | _ => "<nil>", true, .ok,
    fun _ _ _ _ => .error "no certificate", .ok⟩
  sprint_str _ := rfl
  quote text := text
  decodeBase64 text := .ok (if text = "AQ==" then [1] else [1, 2])
  pem data := data.map fun byte => ⟨"CERTIFICATE", [byte]⟩
  encodePem type bytes := String.ofList
    ('-' :: (type.toList ++ bytes.map (fun byte => Char.ofNat (48 + byte.toNat)) ++ ['-']))
  encodePem_ne type bytes h := by simp at h
  parseCertificate bytes := .ok (namedCertificate bytes)
  parseContainer _ := .error "no container"
  parsePKCS8PrivateKey _ := none
  parsePKCS1PrivateKey _ := none
  parseECPrivateKey _ := none
  marshalPKCS8PrivateKey _ := none
  decodeChain _ _ := none
  decodeTrustStore _ _ := none
  loadKeystore _ _ := none
  keyPair _ _ := .ok ()
  encrypt _ := marked
  decrypt := unmarked
  decrypt_encrypt _ := unmarked_marked
  secret _ := .error "no secret"

/-- The upload of `roots.pem`, with this content in base 64. -/
def rootsUpload (content : String) : Config :=
  [("purpose", .str "TRUST_BUNDLE"),
    ("source", .obj [("name", .str "roots.pem"), ("contentBase64", .str content)])]

def storedRoots (content : String) : Except String Config :=
  rootLibrary.prepareCertificateConfig (fun _ => 0) ⟨Field.all, .rfl⟩ (rootsUpload content) none

theorem rootsUpload_bundle {content : String} {data : Bytes} (hne : data ≠ [])
    (h : rootLibrary.decodeCertificateFile (member (rootsUpload content) "source") =
      .ok (some ⟨"roots.pem", data⟩)) :
    rootLibrary.BundleUpload (rootsUpload content)
      (data.map fun byte => namedCertificate [byte]) where
  purpose := by
    have htrim : trimSpace "TRUST_BUNDLE" = "TRUST_BUNDLE" := by decide
    have hupper : toUpper "TRUST_BUNDLE" = "TRUST_BUNDLE" := by decide
    simp [CertificateLibrary.purposeOf, Service.firstString, rootsUpload, rootLibrary, htrim,
      hupper]
  source := by
    have hname : toLower (extension "roots.pem") ∉ CertificateLibrary.pkcs7Extensions ++
        CertificateLibrary.pkcs12Extensions ++ CertificateLibrary.jksExtensions := by
      decide +kernel
    have hkind : contains "CERTIFICATE" "PRIVATE KEY" = false := by decide
    refine ⟨_, h, .pem hname ?_ ?_⟩
    · intro block hblock
      obtain ⟨byte, -, rfl⟩ := List.mem_map.mp hblock
      exact hkind
    · have hall : (rootLibrary.pem data).filter (fun block => block.type = "CERTIFICATE") =
          data.map fun byte => ⟨"CERTIFICATE", [byte]⟩ := by
        refine List.filter_eq_self.mpr fun block hblock => ?_
        obtain ⟨byte, -, rfl⟩ := List.mem_map.mp hblock
        exact decide_eq_true rfl
      rw [mapM_eq_ok_iff, hall, List.forall₂_map_left_iff, List.forall₂_map_right_iff]
      exact List.forall₂_same.mpr fun byte _ => rfl
  privateKey := rfl
  caBundle := rfl
  some := by simpa using hne

/-- One root is kept. -/
theorem keepsBundle_one : ∃ stored, storedRoots "AQ==" = .ok stored ∧
    rootLibrary.KeepsBundle stored [namedCertificate [1]] := by
  have hok : (storedRoots "AQ==").isOk = true := by decide +kernel
  cases h : storedRoots "AQ==" with
  | error message =>
    rw [h] at hok
    cases hok
  | ok stored =>
    have hupload : rootLibrary.BundleUpload _ _ := @rootsUpload_bundle "AQ==" [1] (by decide) rfl
    exact ⟨stored, rfl, (CertificateLibrary.keepsBundle_iff rootLibrary hupload h).mpr rfl⟩

/-- **Of two roots the first is lost.** -/
theorem first_root_lost : ∃ stored,
    rootLibrary.BundleUpload (rootsUpload "AQI=") [namedCertificate [1], namedCertificate [2]] ∧
      storedRoots "AQI=" = .ok stored ∧
      ¬ rootLibrary.KeepsBundle stored [namedCertificate [1], namedCertificate [2]] := by
  have hok : (storedRoots "AQI=").isOk = true := by decide +kernel
  cases h : storedRoots "AQI=" with
  | error message =>
    rw [h] at hok
    cases hok
  | ok stored =>
    refine ⟨stored, @rootsUpload_bundle "AQI=" [1, 2] (by decide) rfl, rfl, fun hkeeps => ?_⟩
    have hclient : (storedRoots "AQI=").toOption.all
        (fun stored => (stored.lookup Field.clientCertificate.key).isSome) = true := by
      decide +kernel
    rw [h] at hclient
    have hsome : (stored.lookup Field.clientCertificate.key).isSome = true := hclient
    rw [hkeeps.alone] at hsome
    cases hsome

end Rhythm.Library
