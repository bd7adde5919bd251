import Rhythm.Api.Server

/-!
# Rhythm.Api.SecretWrites

Which requests write a secret, and who may make them.  `Can` reads the kind off
the path as it is spelled, the handlers normalise it or find the profile by its
id; so for an editor the spelling of the kind decides.
-/

namespace Rhythm.Api

open Text Library Authz

/-! ## Paths of the configuration library -/

theorem prefix_segment_iff {part segment rest : List Char} (hpart : '/' ∉ part)
    (hrest : ∀ c ∈ rest.head?, c = '/') : part <+: segment ++ rest ↔ part <+: segment := by
  constructor
  · intro h
    by_cases hlength : part.length ≤ segment.length
    · exact List.prefix_of_prefix_length_le h (List.prefix_append _ _) hlength
    · have hsegment : segment <+: part :=
        List.prefix_of_prefix_length_le (List.prefix_append _ _) h (by omega)
      obtain ⟨beyond, rfl⟩ := hsegment
      rw [List.prefix_append_right_inj] at h
      cases beyond with
      | nil => simp at hlength
      | cons c beyond =>
        obtain ⟨after, rfl⟩ := h
        have hslash : c = '/' := hrest c (by simp)
        exact absurd (by simp [hslash]) hpart
  · intro h
    exact h.trans (List.prefix_append _ _)

def restPath (rest : List String) : String :=
  (rest.map fun segment => "/" ++ segment).foldr (· ++ ·) ""

theorem restPath_head (rest : List String) : ∀ c ∈ (restPath rest).toList.head?, c = '/' := by
  cases rest with
  | nil => simp [restPath]
  | cons segment rest =>
    intro c hc
    rw [restPath, List.map_cons, List.foldr_cons, String.toList_append, String.toList_append] at hc
    simpa using hc.symm

variable {kind : String}

theorem path_config {r : Request} {rest : List String}
    (h : r.segments = "api" :: "v1" :: "config" :: kind :: rest) :
    r.path = "/api/v1/config/" ++ (kind ++ restPath rest) := by
  rw [Request.path, h]
  simp only [List.map_cons, List.foldr_cons, restPath, ← String.append_assoc]
  rfl

/-! ## What `Can` makes of them -/

variable {tail : String}

theorem assistant_config :
    assistantPrefixes.any (hasPrefix ("/api/v1/config/" ++ tail)) = false := by
  simp only [assistantPrefixes, List.any_cons, hasPrefix, String.toList_append]
  rfl

theorem editorMayWrite_config :
    editorMayWrite ("/api/v1/config/" ++ tail) = !hasPrefix tail "secrets" := by
  have hdenied : editorDenied.any (hasPrefix ("/api/v1/config/" ++ tail)) =
      hasPrefix tail "secrets" := by
    simp only [editorDenied, List.any_cons, List.any_nil, hasPrefix, String.toList_append,
      Bool.or_false]
    rfl
  have hallowed : editorPrefixes.any (hasPrefix ("/api/v1/config/" ++ tail)) = true := by
    simp only [editorPrefixes, List.any_cons, hasPrefix, String.toList_append]
    rfl
  rw [editorMayWrite, hdenied, hallowed]
  cases hasPrefix tail "secrets" <;> rfl

/-- The second and third letter of a text are those of no segment of `/api/v1/config/`, and the
second begins no spelling of `secrets`. -/
def foreignMark : List Char → Bool
  | '/' :: c :: d :: _ =>
    (c, d) ∉ [('a', 'p'), ('v', '1'), ('c', 'o')] && c ∉ ['s', 'S', Char.ofNat 0x17F]
  | _ => false

theorem not_infix_of_foreignMark {mark kind : List Char} {k : Char}
    (hmark : foreignMark mark = true) (hk : k ∈ ['s', 'S', Char.ofNat 0x17F])
    (hkind : '/' ∉ kind) : ¬ mark <:+: "/api/v1/config/".toList ++ k :: kind := by
  unfold foreignMark at hmark
  split at hmark
  · rename_i c d mark
    have hconfig : "/api/v1/config/".toList =
        ['/', 'a', 'p', 'i', '/', 'v', '1', '/', 'c', 'o', 'n', 'f', 'i', 'g', '/'] := rfl
    have hslash : ∀ text, '/' ∉ text → ¬ ('/' :: c :: d :: mark) <:+: text :=
      fun text htext hpart => htext (hpart.subset List.mem_cons_self)
    simp only [Bool.and_eq_true, decide_eq_true_eq] at hmark
    rw [hconfig]
    intro hpart
    simp only [List.cons_append, List.nil_append, List.infix_cons_iff, List.cons_prefix_cons,
      Char.reduceEq, true_and, false_and, false_or] at hpart
    obtain ⟨rfl, rfl, -⟩ | ⟨rfl, rfl, -⟩ | ⟨rfl, rfl, -⟩ | ⟨rfl, -⟩ | ⟨rfl, -⟩ | hpart := hpart
    · simp at hmark
    · simp at hmark
    · simp at hmark
    · exact hmark.2 hk
    · revert hk
      decide
    · exact hslash _ hkind hpart
  · simp at hmark

theorem operatorMayPost_config {k : Char} {rest : List Char}
    (hkind : kind.toList = k :: rest) (hk : k ∈ ['s', 'S', Char.ofNat 0x17F]) (hrest : '/' ∉ rest) :
    operatorMayPost ("/api/v1/config/" ++ kind) = false := by
  have hmark : ∀ mark : String, foreignMark mark.toList = true →
      ¬ mark.toList <:+: ("/api/v1/config/" ++ kind).toList := by
    intro mark hmark
    rw [String.toList_append, hkind]
    exact not_infix_of_foreignMark hmark hk hrest
  have hparts : operatorParts.any (contains ("/api/v1/config/" ++ kind)) = false := by
    rw [List.any_eq_false]
    intro mark hmem hcontains
    have hforeign : ∀ mark ∈ operatorParts, foreignMark mark.toList = true := by decide
    exact hmark mark (hforeign mark hmem) (contains_iff.mp hcontains)
  have hsuffixes : operatorSuffixes.any (hasSuffix ("/api/v1/config/" ++ kind)) = false := by
    rw [List.any_eq_false]
    intro mark hmem hsuffix
    have hforeign : ∀ mark ∈ operatorSuffixes, foreignMark mark.toList = true := by decide
    exact hmark mark (hforeign mark hmem) (List.isSuffixOf_iff_suffix.mp hsuffix).isInfix
  have hinternal : hasPrefix ("/api/v1/config/" ++ kind) "/api/v1/internal/test-notifications" =
      false := by
    rw [hasPrefix, String.toList_append]
    rfl
  rw [operatorMayPost, hparts, hsuffixes, hinternal]
  rfl

/-! ## The kind of a secret -/

theorem mem_of_upperRune_eq_S {c : Char} (h : upperRune c = 'S') :
    c ∈ ['s', 'S', Char.ofNat 0x17F] := by
  unfold upperRune at h
  split at h
  · exact absurd h (by decide)
  · split at h
    · rename_i hlong
      have hc : c = Char.ofNat 0x17F := Char.ext hlong
      simp [hc]
    · unfold Char.toUpper at h
      split at h
      · have hval := congrArg Char.val h
        have hc : c = 's' := Char.ext (by
          grind)
        simp [hc]
      · simp [h]

theorem toUpper_kind (kind : String) :
    (toUpper (String.ofList (kind.toList.map fun c => if c = '-' then '_' else c))).toList =
      kind.toList.map fun c => upperRune (if c = '-' then '_' else c) := by
  rw [toUpper, String.toList_ofList, String.toList_ofList, List.map_map]
  rfl

/-- The spellings under which `normalizeKind` knows secrets, letter by letter. -/
def secretSpellings : List (List Char) :=
  ["SECRETS", "SECRET_REFERENCE", "SECRET_REFERENCES"].map String.toList

theorem mem_secretSpellings (h : normalizeKind kind = .ok .secretReference) :
    kind.toList.map (fun c => upperRune (if c = '-' then '_' else c)) ∈ secretSpellings := by
  simp only [normalizeKind] at h
  split at h
  · cases h
  · split at h
    · rename_i hsecret
      rw [← toUpper_kind]
      exact List.mem_map_of_mem hsecret
    · revert h
      split_ifs <;> simp

theorem normalizeKind_secret (h : normalizeKind kind = .ok .secretReference) :
    ∃ k rest, kind.toList = k :: rest ∧ k ∈ ['s', 'S', Char.ofNat 0x17F] ∧ '/' ∉ rest := by
  have hspelling := mem_secretSpellings h
  cases hletters : kind.toList with
  | nil =>
    rw [hletters] at hspelling
    exact absurd hspelling (by decide)
  | cons k rest =>
    rw [hletters, List.map_cons] at hspelling
    have hhead : ∀ spelling ∈ secretSpellings, spelling.head? = some 'S' := by decide
    have hslash : ∀ spelling ∈ secretSpellings, '/' ∉ spelling := by decide
    refine ⟨k, rest, rfl, ?_, fun hmem => ?_⟩
    · have hk := hhead _ hspelling
      rw [List.head?_cons, Option.some.injEq] at hk
      have hmem := mem_of_upperRune_eq_S hk
      split at hmem
      · exact absurd hmem (by decide)
      · exact hmem
    · refine hslash _ hspelling (List.mem_cons_of_mem _ ?_)
      exact List.mem_map.mpr ⟨'/', hmem, by decide⟩

/-! ## Requests that write a secret -/

def WritesSecret (s : Service) (r : Request) (actor profileId : String) (now : Nat)
    (profiles : Profiles) : Prop :=
  secretProfiles (serve s r actor profileId now profiles) ≠ secretProfiles profiles

variable {s : Service} {r : Request} {principal : Principal} {actor profileId : String} {now : Nat}
  {profiles : Profiles}

def Request.kindSegment (r : Request) : String := r.segments.getD 3 ""

/-- A request that writes a secret goes to the configuration library; if it is a `POST`, it
creates the secret under a kind that names secrets. -/
theorem WritesSecret.segments (h : WritesSecret s r actor profileId now profiles) :
    ∃ kind rest, r.segments = "api" :: "v1" :: "config" :: kind :: rest ∧ r.method ≠ "GET" ∧
      (r.method = "POST" → rest = [] ∧ normalizeKind kind = .ok .secretReference) := by
  unfold WritesSecret serve at h
  cases hroute : route r with
  | none => simp [hroute] at h
  | some target =>
    rw [hroute] at h
    simp only at h
    cases hdispatch : dispatch s r actor profileId now profiles target with
    | error message => simp [hdispatch] at h
    | ok profiles' =>
      rw [hdispatch] at h
      unfold route at hroute
      split at hroute
      · -- `POST /api/v1/config/certificates/upload`
        rename_i hmethod hsegments
        cases hroute
        refine absurd ?_ h
        unfold dispatch at hdispatch
        cases hform : r.form with
        | none => simp [hform] at hdispatch
        | some form =>
          rw [hform] at hdispatch
          exact secretProfiles_create (by decide) hdispatch
      · -- `PUT /api/v1/config/certificates/{profileId}/upload`
        rename_i target hmethod hsegments
        exact ⟨"certificates", [target, "upload"], hsegments, by simp [hmethod], by simp [hmethod]⟩
      · -- `POST /api/v1/config/{kind}`
        rename_i kind hmethod hsegments
        refine ⟨kind, [], hsegments, by simp [hmethod], fun _ => ⟨rfl, ?_⟩⟩
        by_contra hkind
        split at hroute
        · cases hroute
        · grind [dispatch, secretProfiles_create]
      · -- `PUT /api/v1/config/{kind}/{profileId}`
        rename_i kind target hmethod hsegments
        exact ⟨kind, [target], hsegments, by simp [hmethod], by simp [hmethod]⟩
      · -- `DELETE /api/v1/config/{kind}/{profileId}`
        rename_i kind target hmethod hsegments
        exact ⟨kind, [target], hsegments, by simp [hmethod], by simp [hmethod]⟩
      · cases hroute

/-- **Who writes secrets.**  For every principal without the administrator role and every request
that creates, changes or deletes a secret: the permission check refuses it exactly
when the principal is no editor or the kind in the path is spelled with `secrets`
at its beginning. -/
theorem can_eq_false_iff (s : Service) (r : Request) (principal : Principal) (profileId : String)
    (now : Nat) (profiles : Profiles) (hadmin : hasRole principal .administrator = false)
    (hwrite : WritesSecret s r principal.id profileId now profiles) :
    can principal r.method r.path = false ↔
      hasRole principal .editor = false ∨ hasPrefix r.kindSegment "secrets" = true := by
  obtain ⟨kind, rest, hsegments, hget, hpost⟩ := hwrite.segments
  have hkind : r.kindSegment = kind := by rw [Request.kindSegment, hsegments]; rfl
  have hprefix : hasPrefix (kind ++ restPath rest) "secrets" = hasPrefix kind "secrets" := by
    have hiff := @prefix_segment_iff "secrets".toList kind.toList (restPath rest).toList
      (by decide) (restPath_head rest)
    rw [Bool.eq_iff_iff, hasPrefix, hasPrefix, List.isPrefixOf_iff_prefix,
      List.isPrefixOf_iff_prefix, String.toList_append]
    exact hiff
  rw [can, hadmin, path_config hsegments, hkind]
  simp only [Bool.false_eq_true, if_false, if_neg hget, assistant_config]
  cases heditor : hasRole principal .editor with
  | true => simp [editorMayWrite_config, hprefix]
  | false =>
    cases hoperator : hasRole principal .operator with
    | false => simp
    | true =>
      by_cases hmethod : r.method = "POST"
      · obtain ⟨rfl, hsecret⟩ := hpost hmethod
        obtain ⟨k, letters, hletters, hk, hslash⟩ := normalizeKind_secret hsecret
        have htail : kind ++ restPath [] = kind := String.append_empty
        simp [htail, operatorMayPost_config hletters hk hslash]
      · simp [hmethod]

def keyedService : Service where
  sprint
    | .str text => text
    | _ => "<nil>"
  secretsKey := true
  encrypt := fun _ => .ok "c2VhbGVk"
  prepare := fun _ profileType config _ => .ok (config.getD [], profileType)
  parseId := .ok

/-- The creation of a secret under a spelling of its kind. -/
def secretRequest (kind : String) : Request where
  method := "POST"
  segments := ["api", "v1", "config", kind]
  json := some ⟨"token", "", "", some [("provider", .str "LOCAL"), ("value", .str "s3cret")], none⟩
  form := none

theorem writesSecret_of_created
    (h : (secretProfiles (serve keyedService (secretRequest kind) "editor"
      "11111111-1111-1111-1111-111111111111" 0 .empty)).length = 1) :
    WritesSecret keyedService (secretRequest kind) "editor"
      "11111111-1111-1111-1111-111111111111" 0 .empty := by
  intro hsame
  rw [hsame] at h
  exact absurd h (by decide)

/-- An editor is refused under `secrets`. -/
theorem editor_refused_under_secrets :
    can ⟨"editor", [.editor]⟩ "POST" (secretRequest "secrets").path = false ↔
      hasRole ⟨"editor", [.editor]⟩ .editor = false ∨
        hasPrefix (secretRequest "secrets").kindSegment "secrets" = true :=
  can_eq_false_iff keyedService (secretRequest "secrets") ⟨"editor", [.editor]⟩
    "11111111-1111-1111-1111-111111111111" 0 .empty (by decide)
    (writesSecret_of_created (by decide))

/-- An editor creates a secret under `SECRETS`. -/
theorem editor_creates_secret :
    ¬ ∀ (s : Service) (r : Request) (principal : Principal) (profileId : String) (now : Nat)
      (profiles : Profiles), hasRole principal .administrator = false → r.method ≠ "GET" →
        WritesSecret s r principal.id profileId now profiles →
          can principal r.method r.path = false := by
  intro h
  have hrefused := h keyedService (secretRequest "SECRETS") ⟨"editor", [.editor]⟩
    "11111111-1111-1111-1111-111111111111" 0 .empty (by decide) (by decide)
    (writesSecret_of_created (by decide))
  revert hrefused
  decide

end Rhythm.Api
