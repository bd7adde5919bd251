import Rhythm.Elf.Run

/-!
# Rhythm.Elf.RawEvidence

Is the raw evidence of a run masked like its samples?  A sample is the masked source
of a hit, walked from its own root; the raw response is walked from the root of the
response, where the source of a hit lies at `hits.hits._source`.  Rules are matched
against whole paths, so the two agree when the rules do not tell the roots apart.
-/

namespace Rhythm.Elf

open Text Unmarshal

/-! ## The sources of a response -/

def objectAt (fields : List (String × Json)) (key : String) : Option (List (String × Json)) :=
  (fields.lookup key).bind Json.fields?

def arrayAt (fields : List (String × Json)) (key : String) : Option (List Json) :=
  (fields.lookup key).bind Json.items?

def sourceAt (document : List (String × Json)) (i : Nat) : Option (List (String × Json)) := do
  let hits ← arrayAt (← objectAt document "hits") "hits"
  objectAt (← hits[i]?.bind Json.fields?) "_source"

/-- Every source of a hit that is kept is masked like a sample. -/
def SourcesMasked (matchString : String → String → Bool) (maskingRules : List String)
    (document kept : List (String × Json)) : Prop :=
  ∀ i source source', sourceAt document i = some source → sourceAt kept i = some source' →
    source' = maskDocument matchString maskingRules source

def sourceRoot : String := "hits.hits._source"

def RootMasked (matchString : String → String → Bool) (maskingRules : List String) : Prop :=
  ruleMatches matchString maskingRules "hits" = true ∨
    ruleMatches matchString maskingRules "hits.hits" = true ∨
      ruleMatches matchString maskingRules sourceRoot = true

/-- The rules do not tell the roots apart: at every member of the source that the masking of a
sample reaches, they match the path below the root of the response exactly when they match the
path in the source, or the member is masked for its name or looks masked already. -/
def RootBlind (matchString : String → String → Bool) (maskingRules : List String)
    (source : List (String × Json)) : Prop :=
  ∀ keys value, Reaches matchString maskingRules "" (.obj source) keys value →
    SameMask matchString maskingRules sourceRoot "" keys value

/-! ## Masking and reading -/

variable {matchString : String → String → Bool} {maskingRules : List String} {path : String}

variable {fields : List (String × Json)} {start key : String}

theorem bind_lookup_maskDocumentAt {α : Type} {part? : Json → Option α} {maskPart : α → α}
    (hmasked : part? (.str "MASKED") = none)
    (hvalue : ∀ value, part? (maskValue matchString maskingRules (joinPath start key) value) =
      (part? value).map maskPart) :
    ((maskDocumentAt matchString maskingRules start fields).lookup key).bind part? =
      if masked matchString maskingRules key (joinPath start key) then none
      else ((fields.lookup key).bind part?).map maskPart := by
  rw [lookup_maskDocumentAt]
  cases fields.lookup key with
  | none => split <;> rfl
  | some value =>
    rw [Option.map_some, Option.bind_some, Option.bind_some]
    split
    · exact hmasked
    · exact hvalue value

theorem objectAt_maskDocumentAt :
    objectAt (maskDocumentAt matchString maskingRules start fields) key =
      if masked matchString maskingRules key (joinPath start key) then none
      else (objectAt fields key).map
        (maskDocumentAt matchString maskingRules (joinPath start key)) := by
  refine bind_lookup_maskDocumentAt rfl fun value => ?_
  cases value <;> rfl

theorem arrayAt_maskDocumentAt :
    arrayAt (maskDocumentAt matchString maskingRules start fields) key =
      if masked matchString maskingRules key (joinPath start key) then none
      else (arrayAt fields key).map (maskItems matchString maskingRules (joinPath start key)) := by
  refine bind_lookup_maskDocumentAt rfl fun value => ?_
  cases value <;> rfl

theorem getElem?_maskItems {items : List Json} {i : Nat} :
    (maskItems matchString maskingRules path items)[i]?.bind Json.fields? =
      (items[i]?.bind Json.fields?).map (maskDocumentAt matchString maskingRules path) := by
  induction items generalizing i with
  | nil => rfl
  | cons item items ih =>
    cases i with
    | zero => cases item <;> rfl
    | succ i => cases item <;> exact ih

theorem not_rootMasked_iff : ¬ RootMasked matchString maskingRules ↔
    masked matchString maskingRules "hits" "hits" = false ∧
      masked matchString maskingRules "hits" "hits.hits" = false ∧
        masked matchString maskingRules "_source" sourceRoot = false := by
  have hnames : sensitiveKey "hits" = false ∧ sensitiveKey "hits.hits" = false ∧
      sensitiveKey "_source" = false ∧ sensitiveKey sourceRoot = false := by decide
  obtain ⟨hhits, hhitsHits, hsource, hroot⟩ := hnames
  simp only [RootMasked, masked, hhits, hhitsHits, hsource, hroot, Bool.false_or, not_or,
    Bool.not_eq_true]

variable {document : List (String × Json)}

theorem sourceAt_maskDocument {i : Nat} {source' : List (String × Json)} :
    sourceAt (maskDocument matchString maskingRules document) i = some source' ↔
      ¬ RootMasked matchString maskingRules ∧ ∃ source, sourceAt document i = some source ∧
        source' = maskDocumentAt matchString maskingRules sourceRoot source := by
  have houter : joinPath "" "hits" = "hits" := rfl
  have hhits : joinPath "hits" "hits" = "hits.hits" := rfl
  have hsource : joinPath "hits.hits" "_source" = sourceRoot := rfl
  rw [not_rootMasked_iff]
  simp only [sourceAt, maskDocument, Option.bind_eq_bind, Option.bind_eq_some_iff]
  constructor
  · rintro ⟨outer', h, hits', hhits', hit', hhit', h'⟩
    rw [objectAt_maskDocumentAt, houter, Option.ite_none_left_eq_some, Option.map_eq_some_iff] at h
    obtain ⟨hclear, outer, h, rfl⟩ := h
    rw [arrayAt_maskDocumentAt, hhits, Option.ite_none_left_eq_some,
      Option.map_eq_some_iff] at hhits'
    obtain ⟨hclearHits, hits, hhits', rfl⟩ := hhits'
    rw [← Option.bind_eq_some_iff, getElem?_maskItems, Option.map_eq_some_iff] at hhit'
    obtain ⟨hit, hhit, rfl⟩ := hhit'
    rw [objectAt_maskDocumentAt, hsource, Option.ite_none_left_eq_some,
      Option.map_eq_some_iff] at h'
    obtain ⟨hclearSource, source, h', rfl⟩ := h'
    exact ⟨⟨Bool.eq_false_iff.mpr hclear, Bool.eq_false_iff.mpr hclearHits,
      Bool.eq_false_iff.mpr hclearSource⟩, source,
        ⟨outer, h, hits, hhits', hit, Option.bind_eq_some_iff.mp hhit, h'⟩, rfl⟩
  · rintro ⟨⟨hclear, hclearHits, hclearSource⟩, source,
      ⟨outer, h, hits, hhits', hit, hhit', h'⟩, rfl⟩
    refine ⟨maskDocumentAt matchString maskingRules "hits" outer, ?_,
      maskItems matchString maskingRules "hits.hits" hits, ?_,
      maskDocumentAt matchString maskingRules "hits.hits" hit, ?_, ?_⟩
    · rw [objectAt_maskDocumentAt, houter, hclear, h]
      rfl
    · rw [arrayAt_maskDocumentAt, hhits, hclearHits, hhits']
      rfl
    · rw [← Option.bind_eq_some_iff, getElem?_maskItems, Option.bind_eq_some_iff.mpr hhit']
      rfl
    · rw [objectAt_maskDocumentAt, hsource, hclearSource, h']
      rfl

theorem rawResponse_eq {lib : Library} {query : Query} {gte lte : String} {size : Int}
    {upstream : Upstream} {evaluate : Bool} {body : ByteArray} {response : Response}
    (hsearch : search upstream = .ok body)
    (hdecode : decodeBody lib body = some (response, document))
    (hrun : (run lib query gte lte size upstream evaluate).status = "SUCCESS") :
    (run lib query gte lte size upstream evaluate).rawResponse =
      maskDocument lib.matchString query.maskingRules document := by
  have hfailed : ∀ category reason, (saveFailure query category reason).status ≠ "SUCCESS" := by
    intro category reason
    exact of_decide_eq_false rfl
  unfold run at hrun ⊢
  rw [hsearch] at hrun ⊢
  simp only [hdecode] at hrun ⊢
  split at hrun
  · exact absurd hrun (hfailed _ _)
  · split at hrun
    · exact absurd hrun (hfailed _ _)
    · split at hrun
      · exact absurd hrun (hfailed _ _)
      · rename_i hindex _ _
        rw [if_neg hindex]
        rfl

theorem rootBlind_iff {source : List (String × Json)} :
    RootBlind matchString maskingRules source ↔
      maskDocumentAt matchString maskingRules sourceRoot source =
        maskDocument matchString maskingRules source :=
  (maskDocumentAt_eq_iff (by decide) (by decide) fun field _ hroot hroot' =>
    maskValue_eq_iff field.2 _ _ hroot hroot').symm

/-- **Raw evidence.**  For every response and every list of rules: each source that a run keeps in
its raw response is masked like a sample exactly when the rules mask the sources as a whole, or do
not tell the roots apart in any of them. -/
theorem sourcesMasked_iff (lib : Library) (query : Query) (gte lte : String) (size : Int)
    (upstream : Upstream) (evaluate : Bool) (body : ByteArray) (response : Response)
    (document : List (String × Json)) (hsearch : search upstream = .ok body)
    (hdecode : decodeBody lib body = some (response, document))
    (hrun : (run lib query gte lte size upstream evaluate).status = "SUCCESS") :
    SourcesMasked lib.matchString query.maskingRules document
        (run lib query gte lte size upstream evaluate).rawResponse ↔
      RootMasked lib.matchString query.maskingRules ∨
        ∀ i source, sourceAt document i = some source →
          RootBlind lib.matchString query.maskingRules source := by
  rw [rawResponse_eq hsearch hdecode hrun]
  constructor
  · intro h
    refine or_iff_not_imp_left.mpr fun hclear i source hsource => ?_
    rw [rootBlind_iff]
    exact h i source _ hsource (sourceAt_maskDocument.mpr ⟨hclear, source, hsource, rfl⟩)
  · rintro hcondition i source source' hsource hkept
    obtain ⟨hclear, other, hother, rfl⟩ := sourceAt_maskDocument.mp hkept
    rw [hsource, Option.some.injEq] at hother
    subst hother
    obtain hmasked | hall := hcondition
    · exact absurd hmasked hclear
    · exact rootBlind_iff.mp (hall i source hsource)

/-! ## An email in a response -/

/-- The two regular expressions of this section, made from `customer.email` and `*email`. -/
def emailMatch (regex value : String) : Bool :=
  if regex = "(?i)^customer\\.email$" then equalFold "customer.email" value
  else if regex = "(?i)^.*email$" then hasSuffix (foldText value) "email"
  else false

/-- A library in which a search for everything is authored and this text comes back. -/
def answering (text : String) (tree : JsonText) : Library where
  unmarshal := fun _ => .ok [("query", .obj [("match_all", .obj [])])]
  parse := fun body => if body.data = text.toUTF8.data then some tree else none
  parseFloat := fun literal => (parseInt64 literal).map Rat.ofInt
  formatFloat := fun x => toString x.num
  matchString := emailMatch
  matchPath := fun pattern index => pattern = index
  hashID := fun id => "doc-" ++ id

/-- A saved search for everything, under these criteria and rules. -/
def searchAll (criteria : List (String × Json)) (maskingRules : List String) : Query where
  criteria := criteria
  gateMode := "BLOCKING"
  searchBody := "\x7b\"query\":\x7b\"match_all\":\x7b\x7d\x7d\x7d".toUTF8
  timeField := "@timestamp"
  index := "logs"
  allowedIndexPatterns := ["logs"]
  maskingRules := maskingRules

def emailText : String :=
  "\x7b\"hits\":\x7b\"hits\":[\x7b\"_source\":" ++
    "\x7b\"customer\":\x7b\"email\":\"a@b.c\"\x7d\x7d\x7d]\x7d\x7d"

def emailTree : JsonText :=
  .obj [("hits", .obj [("hits", .arr
    [.obj [("_source", .obj [("customer", .obj [("email", .str "a@b.c")])])]])])]

def emailSource : List (String × Json) := [("customer", .obj [("email", .str "a@b.c")])]

def emailDocument : List (String × Json) :=
  [("hits", .obj [("hits", .arr [.obj [("_source", .obj emailSource)]])])]

def emailResponse : Response :=
  { Response.zero with hits := ⟨⟨0, ""⟩, [⟨"", "", some emailSource, []⟩]⟩ }

theorem decode_email : decodeBody (answering emailText emailTree) emailText.toUTF8 =
    some (emailResponse, emailDocument) := by
  have hparse : (answering emailText emailTree).parse emailText.toUTF8 = some emailTree := by
    simp [answering]
  rw [decodeBody, hparse]
  rfl

/-- A rule for every path that ends in `email` masks the raw evidence like the samples. -/
theorem sourcesMasked_any_email :
    SourcesMasked emailMatch ["*email"] emailDocument
      (run (answering emailText emailTree) (searchAll [] ["*email"]) "a" "b" 10
        (.answered 200 emailText.toUTF8) true).rawResponse := by
  refine (sourcesMasked_iff (answering emailText emailTree) (searchAll [] ["*email"]) "a" "b" 10
    (.answered 200 emailText.toUTF8) true emailText.toUTF8 emailResponse emailDocument
    rfl decode_email (by decide +kernel)).mpr (.inr fun i source hsource => ?_)
  have hemail : source = emailSource := by
    cases i with
    | zero =>
      cases hsource
      rfl
    | succ i => cases hsource
  subst hemail
  intro keys value h
  cases h with
  | member hmem =>
    cases List.mem_singleton.mp hmem
    exact .inr (.inl (by decide))
  | child hmem _ h =>
    cases List.mem_singleton.mp hmem
    cases h with
    | member hmem =>
      cases List.mem_singleton.mp hmem
      exact .inr (.inl (by decide))
    | child hmem _ h =>
      cases List.mem_singleton.mp hmem
      cases h

/-- A rule for the path `customer.email` leaves the email in the raw evidence. -/
theorem email_kept_in_clear :
    ¬ ∀ (lib : Library) (query : Query) (gte lte : String) (size : Int) (upstream : Upstream)
      (evaluate : Bool) (body : ByteArray) (response : Response)
      (document : List (String × Json)), search upstream = .ok body →
        decodeBody lib body = some (response, document) →
          SourcesMasked lib.matchString query.maskingRules document
            (run lib query gte lte size upstream evaluate).rawResponse := by
  intro h
  have hmasked := h (answering emailText emailTree) (searchAll [] ["customer.email"]) "a" "b" 10
    (.answered 200 emailText.toUTF8) true emailText.toUTF8 emailResponse emailDocument rfl
    decode_email
  rw [rawResponse_eq rfl decode_email (by decide +kernel)] at hmasked
  have hclear : ¬ RootMasked emailMatch ["customer.email"] := by
    unfold RootMasked
    decide
  have hkept := hmasked 0 emailSource _ rfl
    (sourceAt_maskDocument.mpr ⟨hclear, emailSource, rfl, rfl⟩)
  have hreaches : Reaches emailMatch ["customer.email"] "" (.obj emailSource)
      ["customer", "email"] (.str "a@b.c") :=
    .child List.mem_cons_self (by decide) (.member List.mem_cons_self)
  obtain hsensitive | hrules | hvalue := rootBlind_iff.mpr hkept _ _ hreaches
  · exact absurd hsensitive (by decide)
  · exact absurd hrules (by decide)
  · rw [Json.str.injEq] at hvalue
    exact absurd hvalue (by decide)

end Rhythm.Elf
