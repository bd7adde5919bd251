import Rhythm.Authz
import Rhythm.Library.Service

/-!
# Rhythm.Api.Server

The routes of the configuration library.  A request path is the list of its
segments, each percent-decoded: `authorize` reads their concatenation, the router
matches them one by one, and a decoded segment may itself contain a slash.  The
router redirects a path that is not clean, so no segment it matches is empty
except the one after a trailing slash, which no wildcard matches.
-/

namespace Rhythm.Api

open Text Library

/-- The fields of a certificate upload. -/
structure Form where
  purpose : String
  password : String
  keyPassword : String
  keyAlias : String
  name : String
  description : String
  /-- The uploaded files: field, file name and content in base 64. -/
  files : List (String × String × String)

/-- A request, with its body decoded as JSON and as a form. -/
structure Request where
  method : String
  segments : List String
  json : Option Input
  form : Option Form

/-- `r.URL.Path`. -/
def Request.path (r : Request) : String :=
  (r.segments.map fun segment => "/" ++ segment).foldr (· ++ ·) ""

/-! ## Routing -/

/-- The handlers that write profiles. -/
inductive Route where
  | createConfigurationProfile (kind : String)
  | updateConfigurationProfile (profileId : String)
  | deleteConfigurationProfile (profileId : String)
  /-- `uploadCertificateProfile`; on creation the path value is empty. -/
  | uploadCertificateProfile (profileId : String)
  deriving DecidableEq

def route (r : Request) : Option Route :=
  match r.method, r.segments with
  | "POST", ["api", "v1", "config", "certificates", "upload"] =>
    some (.uploadCertificateProfile "")
  | "PUT", ["api", "v1", "config", "certificates", profileId, "upload"] =>
    if profileId = "" then none else some (.uploadCertificateProfile profileId)
  | "POST", ["api", "v1", "config", kind] =>
    if kind = "" then none else some (.createConfigurationProfile kind)
  | "PUT", ["api", "v1", "config", kind, profileId] =>
    if kind = "" ∨ profileId = "" then none else some (.updateConfigurationProfile profileId)
  | "DELETE", ["api", "v1", "config", kind, profileId] =>
    if kind = "" ∨ profileId = "" then none else some (.deleteConfigurationProfile profileId)
  | _, _ => none

/-! ## Handlers -/

/-- The input that `uploadCertificateProfile` makes of a form. -/
def uploadInput (form : Form) : Input where
  name := trimSpace form.name
  description := trimSpace form.description
  profileType := trimSpace form.purpose
  config := some
    ([("purpose", .str (trimSpace form.purpose)), ("password", .str form.password),
        ("keyPassword", .str form.keyPassword), ("alias", .str (trimSpace form.keyAlias))] ++
      form.files.map fun file =>
        (file.1, .obj [("name", .str file.2.1), ("contentBase64", .str file.2.2)]))
  active := none

/-- What a handler makes of the profiles; `profileId` is the id a creation draws. -/
def dispatch (s : Service) (r : Request) (actor profileId : String) (now : Nat)
    (profiles : Profiles) : Route → Except String Profiles
  | .createConfigurationProfile kind =>
    match r.json with
    | none => .error "Request body is invalid."
    | some input => s.create kind input actor profileId now profiles
  | .updateConfigurationProfile target =>
    match r.json with
    | none => .error "Request body is invalid."
    | some input => s.update target input actor now profiles
  | .deleteConfigurationProfile target => s.delete target actor now profiles
  | .uploadCertificateProfile target =>
    match r.form with
    | none => .error "Certificate upload is invalid or exceeds 32 MB."
    | some form =>
      if trimSpace target = "" then
        s.create "certificates" (uploadInput form) actor profileId now profiles
      else s.update (trimSpace target) (uploadInput form) actor now profiles

/-- The profiles after a request; a refused one leaves them as they are. -/
def serve (s : Service) (r : Request) (actor profileId : String) (now : Nat)
    (profiles : Profiles) : Profiles :=
  match route r with
  | none => profiles
  | some target =>
    match dispatch s r actor profileId now profiles target with
    | .error _ => profiles
    | .ok profiles => profiles

end Rhythm.Api
