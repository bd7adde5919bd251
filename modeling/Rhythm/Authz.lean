import Rhythm.Text

/-!
# Rhythm.Authz

Roles, principals and `Can`, which decides from the method and the path of a
request, before it is routed, whether its principal may make it.
-/

namespace Rhythm.Authz

open Text

/-- `Role`. -/
inductive Role where
  | administrator | editor | operator | viewer
  deriving DecidableEq

structure Principal where
  id : String
  roles : List Role
  deriving DecidableEq

/-- `HasRole`. -/
def hasRole (principal : Principal) (role : Role) : Bool := role ∈ principal.roles

def hasReadRole (principal : Principal) : Bool :=
  hasRole principal .editor || hasRole principal .operator || hasRole principal .viewer

/-! ## Path tables -/

def assistantPrefixes : List String :=
  ["/api/v1/ai/conversations", "/api/v1/ai/messages/", "/api/v1/ai/deployment-runs"]

def editorDenied : List String := ["/api/v1/agents", "/api/v1/alerts/", "/api/v1/config/secrets"]

def editorPrefixes : List String :=
  ["/api/v1/monitors", "/api/v1/browser-monitors", "/api/v1/browser-baselines", "/api/v1/suites",
    "/api/v1/suite-runs", "/api/v1/deployment-runs", "/api/v1/config/", "/api/v1/applications",
    "/api/v1/opensearch-alert-receivers"]

def operatorParts : List String := ["/runs", "/investigation/"]

def operatorSuffixes : List String :=
  ["/cancel", "/acknowledge", "/resolve", "/probe", "/preview", "/test", "/validate", "/renew",
    "/reconcile", "/query", "/resources/preview", "/resources/discover"]

/-! ## The decision -/

def editorMayWrite (path : String) : Bool :=
  if editorDenied.any (hasPrefix path) then false
  else
    editorPrefixes.any (hasPrefix path) ||
      (hasPrefix path "/api/v1/elf/queries" && !contains path "/probe" && !contains path "/test")

def operatorMayPost (path : String) : Bool :=
  operatorParts.any (contains path) || hasPrefix path "/api/v1/internal/test-notifications" ||
    operatorSuffixes.any (hasSuffix path)

/-- `Can`. -/
def can (principal : Principal) (method path : String) : Bool :=
  if hasRole principal .administrator then true
  else if method = "GET" then
    if hasPrefix path "/api/v1/config/" then hasRole principal .editor else hasReadRole principal
  else if assistantPrefixes.any (hasPrefix path) then hasReadRole principal
  else if hasRole principal .editor then editorMayWrite path
  else if hasRole principal .operator then method = "POST" && operatorMayPost path
  else false

/-! ## Granting a role -/

/-- `p` posts as an operator what `q`, who is an editor as well, may not write. -/
def losesPosting (p q : Principal) (method path : String) : Bool :=
  !hasRole q .administrator && !hasRole p .editor && hasRole q .editor && hasRole p .operator &&
    method = "POST" && !assistantPrefixes.any (hasPrefix path) && operatorMayPost path &&
    !editorMayWrite path

section Granting

variable {p q : Principal} {method path : String}

theorem hasRole_mono (hroles : p.roles ⊆ q.roles) {role : Role} (h : hasRole p role = true) :
    hasRole q role = true :=
  decide_eq_true (hroles (of_decide_eq_true h))

theorem hasReadRole_mono (hroles : p.roles ⊆ q.roles) (h : hasReadRole p = true) :
    hasReadRole q = true := by
  rw [hasReadRole, Bool.or_eq_true, Bool.or_eq_true] at h ⊢
  exact h.imp (Or.imp (hasRole_mono hroles) (hasRole_mono hroles)) (hasRole_mono hroles)

theorem can_of_administrator (h : hasRole p .administrator = true) : can p method path = true := by
  rw [can, if_pos h]

theorem can_write (hadmin : ¬ hasRole p .administrator = true) (hmethod : method ≠ "GET")
    (hpath : ¬ assistantPrefixes.any (hasPrefix path) = true) :
    can p method path =
      if hasRole p .editor then editorMayWrite path
      else hasRole p .operator && (method = "POST" && operatorMayPost path) := by
  rw [can, if_neg hadmin, if_neg hmethod, if_neg hpath]
  cases hasRole p .operator <;> rfl

theorem can_mono_of_read (hroles : p.roles ⊆ q.roles)
    (hread : method = "GET" ∨ assistantPrefixes.any (hasPrefix path) = true)
    (h : can p method path = true) : can q method path = true := by
  by_cases hq : hasRole q .administrator = true
  · exact can_of_administrator hq
  · have hp : ¬ hasRole p .administrator = true := fun hp => hq (hasRole_mono hroles hp)
    rw [can, if_neg hp] at h
    rw [can, if_neg hq]
    by_cases hget : method = "GET"
    · rw [if_pos hget] at h ⊢
      split at h
      · next hconfig => exact (if_pos hconfig).trans (hasRole_mono hroles h)
      · next hconfig => exact (if_neg hconfig).trans (hasReadRole_mono hroles h)
    · have hassistant := hread.resolve_left hget
      rw [if_neg hget, if_pos hassistant] at h ⊢
      exact hasReadRole_mono hroles h

/-- **Granting a role.**  More roles permit what fewer do, except to an operator who becomes an
editor: `Can` then asks the editor's table only. -/
theorem can_mono_iff (hroles : p.roles ⊆ q.roles) (method path : String) :
    (can p method path = true → can q method path = true) ↔
      losesPosting p q method path = false := by
  by_cases hq : hasRole q .administrator = true
  · simp [losesPosting, hq, can_of_administrator hq]
  by_cases hread : method = "GET" ∨ assistantPrefixes.any (hasPrefix path) = true
  · have hkeeps : losesPosting p q method path = false := by
      obtain rfl | hpath := hread
      · simp [losesPosting]
      · simp [losesPosting, hpath]
    exact iff_of_true (can_mono_of_read hroles hread) hkeeps
  · obtain ⟨hmethod, hpath⟩ := not_or.mp hread
    have hp : ¬ hasRole p .administrator = true := fun hp => hq (hasRole_mono hroles hp)
    rw [can_write hp hmethod hpath, can_write hq hmethod hpath]
    by_cases hpEditor : hasRole p .editor = true
    · have hqEditor := hasRole_mono hroles hpEditor
      simp [losesPosting, hpEditor, hqEditor]
    rw [if_neg hpEditor]
    by_cases hqEditor : hasRole q .editor = true
    · rw [if_pos hqEditor]
      simp only [losesPosting, hq, hpEditor, hqEditor, hpath]
      cases hasRole p .operator <;> cases operatorMayPost path <;> cases editorMayWrite path <;>
        simp
    · rw [if_neg hqEditor]
      have hoperator := @hasRole_mono p q hroles .operator
      simp only [losesPosting, hqEditor, Bool.and_eq_true]
      simpa using fun hrole hpost hpath => ⟨hoperator hrole, hpost, hpath⟩

end Granting

/-- An operator acknowledges an alert, and stops doing so as an editor. -/
theorem editor_cannot_acknowledge :
    ¬ ∀ (p q : Principal) (method path : String), p.roles ⊆ q.roles →
      can p method path = true → can q method path = true := by
  intro h
  have hlost := h ⟨"user", [.operator]⟩ ⟨"user", [.operator, .editor]⟩ "POST"
    "/api/v1/alerts/one/acknowledge" (by simp) (by decide)
  exact absurd hlost (by decide)

/-- A viewer keeps reading as an editor. -/
theorem viewer_keeps_reading :
    can ⟨"user", [.viewer, .editor]⟩ "GET" "/api/v1/monitors" = true :=
  (@can_mono_iff ⟨"user", [.viewer]⟩ ⟨"user", [.viewer, .editor]⟩ (by simp) "GET"
    "/api/v1/monitors").mpr (by decide) (by decide)

end Rhythm.Authz
