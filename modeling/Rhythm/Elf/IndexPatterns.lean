import Rhythm.Elf.Run
import Rhythm.Glob

/-!
# Rhythm.Elf.IndexPatterns

Which indices does an accepted index expression reach?  `IndexAllowed` matches the expression with
the allowed patterns as one text, and OpenSearch takes it for a list of names and wildcards.

`covered` decides whether the indices that an expression stands for lie under the patterns, and
`indexAllowed_sound_iff` says that exactly then `IndexAllowed` keeps its promise.
-/

namespace Rhythm.Elf

open Text Glob

/-! ## filepath.Match -/

/-- `getEsc`: a rune of a class, which something follows. -/
def getEsc : List Char → Option (Char × List Char)
  | [] => none
  | c :: chunk =>
    if c = '-' ∨ c = ']' then none
    else
      match if c = '\\' then chunk else c :: chunk with
      | d :: e :: rest => some (d, e :: rest)
      | _ => none

/-- The ranges of a class, to its bracket.  The fuel is the length of the pattern. -/
def classRanges (first : Bool) : Nat → List Char → Option (List (Char × Char) × List Char)
  | 0, _ => none
  | fuel + 1, chunk =>
    if ¬ first ∧ chunk.head? = some ']' then some ([], chunk.tail)
    else do
      let (low, rest) ← getEsc chunk
      let (high, rest) ← if rest.head? = some '-' then getEsc rest.tail else some (low, rest)
      let (ranges, rest) ← classRanges false fuel rest
      return ((low, high) :: ranges, rest)

def notSeparator : RuneSet := .except ['/']

/-- The parts of a pattern, when it is well formed.  The fuel is its length. -/
def parsePattern : Nat → List Char → Option (List Term)
  | _, [] => some []
  | 0, _ => none
  | fuel + 1, c :: rest =>
    if c = '*' then (parsePattern fuel rest).map (.star notSeparator :: ·)
    else if c = '?' then (parsePattern fuel rest).map (.one notSeparator :: ·)
    else if c = '[' then do
      let negated := rest.head? = some '^'
      let (ranges, rest) ← classRanges true fuel (if negated then rest.tail else rest)
      return .one ⟨negated, ranges⟩ :: (← parsePattern fuel rest)
    else if c = '\\' then
      match rest with
      | [] => none
      | d :: rest => (parsePattern fuel rest).map (.one (.single d) :: ·)
    else (parsePattern fuel rest).map (.one (.single c) :: ·)

/-- The parts of a pattern of `filepath.Match`; `none` is `ErrBadPattern`. -/
def pathTerms (pattern : String) : Option (List Term) :=
  parsePattern pattern.toList.length pattern.toList

/-- `filepath.Match`, where the error is dropped. -/
def matchPattern (pattern name : String) : Bool :=
  match pathTerms pattern with
  | none => false
  | some terms => matchTerms terms name.toList

/-! ## What OpenSearch resolves -/

/-- The runes of an index name: no upper case, and none of these. -/
def indexRunes : RuneSet :=
  ⟨true, ('A', 'Z') ::
    ['\\', '/', '*', '?', '"', '<', '>', '|', ' ', ',', '#', ':'].map fun c => (c, c)⟩

def firstRunes : RuneSet :=
  ⟨true, indexRunes.ranges ++ ['-', '_', '+'].map fun c => (c, c)⟩

def nameTerms : List Term := [.one firstRunes, .star indexRunes]

def indexName (name : String) : Bool := matchTerms nameTerms name.toList

/-- A part of an index expression. -/
structure ExpressionPart where
  excludes : Bool
  terms : List Term

/-- A leading `-` excludes, and `*` is expanded. -/
def expressionPart (part : String) : ExpressionPart where
  excludes := hasPrefix part "-"
  terms := (trimPrefix part "-").toList.map fun c =>
    if c = '*' then .star (.except []) else .one (.single c)

def expressionParts (expression : String) : List ExpressionPart :=
  (Text.split expression ',').map expressionPart

/-- The indices of a cluster that an expression stands for. -/
def resolveIndices (cluster : List String) (expression : String) : List String :=
  (expressionParts expression).foldl
    (fun indices part =>
      if part.excludes then indices.filter fun name => !matchTerms part.terms name.toList
      else indices ++ cluster.filter fun name => matchTerms part.terms name.toList) []

/-- **The law of the allow-list.**  When `IndexAllowed` accepts an expression, each index that it
stands for, in any cluster, matches one of the allowed patterns. -/
def IndexAllowedSound (lib : Library) (index : String) (allowed : List String) : Prop :=
  indexAllowed lib index allowed = true →
    ∀ cluster : List String, (∀ name ∈ cluster, indexName name = true) →
      ∀ name ∈ resolveIndices cluster index, ∃ pattern ∈ allowed, lib.matchPath pattern name = true

def selects (parts : List ExpressionPart) (verdict : List Term → Bool) : Bool :=
  parts.foldl
    (fun selected part =>
      if part.excludes then selected && !verdict part.terms else selected || verdict part.terms)
    false

/-- **The condition on an expression and the patterns.**  Where the patterns are read side by side,
no state is reached in which an index name is selected by the parts, and by none of the patterns. -/
def covered (index : String) (allowed : List String) : Bool :=
  let parts := expressionParts index
  let patterns := allowed.filterMap pathTerms
  always (nameTerms :: parts.map ExpressionPart.terms ++ patterns) fun verdict =>
    !(verdict nameTerms && selects parts verdict) || patterns.any verdict

theorem mem_resolveIndices {cluster : List String} {expression name : String} :
    name ∈ resolveIndices cluster expression ↔ name ∈ cluster ∧
      selects (expressionParts expression) (fun terms => matchTerms terms name.toList) = true := by
  have hfold : ∀ (parts : List ExpressionPart) (indices : List String) (selected : Bool),
      (name ∈ indices ↔ name ∈ cluster ∧ selected = true) →
      (name ∈ parts.foldl
          (fun indices part =>
            if part.excludes then indices.filter fun name => !matchTerms part.terms name.toList
            else indices ++ cluster.filter fun name => matchTerms part.terms name.toList) indices ↔
        name ∈ cluster ∧ parts.foldl
          (fun selected part =>
            if part.excludes then selected && !matchTerms part.terms name.toList
            else selected || matchTerms part.terms name.toList) selected = true) := by
    intro parts
    induction parts with
    | nil => exact fun _ _ h => h
    | cons part parts ih =>
      intro indices selected h
      rw [List.foldl_cons, List.foldl_cons]
      apply ih
      split
      · rw [List.mem_filter, h, Bool.and_eq_true, and_assoc]
      · rw [List.mem_append, List.mem_filter, h, Bool.or_eq_true, and_or_left]
  exact hfold _ [] false (by simp)

theorem selects_congr {parts : List ExpressionPart} {f f' : List Term → Bool}
    (h : ∀ part ∈ parts, f part.terms = f' part.terms) : selects parts f = selects parts f' := by
  have hfold : ∀ selected : Bool,
      parts.foldl
        (fun selected part =>
          if part.excludes then selected && !f part.terms else selected || f part.terms) selected =
      parts.foldl
        (fun selected part =>
          if part.excludes then selected && !f' part.terms else selected || f' part.terms)
        selected := by
    induction parts with
    | nil => exact fun _ => rfl
    | cons part parts ih =>
      grind
  exact hfold false

theorem exists_matchPattern {allowed : List String} {name : String} :
    (∃ pattern ∈ allowed, matchPattern pattern name = true) ↔
      ((allowed.filterMap pathTerms).any fun terms => matchTerms terms name.toList) = true := by
  grind [List.any_eq_true, matchPattern]

theorem covered_iff (index : String) (allowed : List String) :
    covered index allowed = true ↔ ∀ name : String, indexName name = true →
      selects (expressionParts index) (fun terms => matchTerms terms name.toList) = true →
        ∃ pattern ∈ allowed, matchPattern pattern name = true := by
  rw [covered, always_iff]
  · constructor
    · intro h name hname hselects
      have htext := h name.toList
      rw [indexName] at hname
      dsimp only at htext
      rw [hname, hselects] at htext
      exact exists_matchPattern.mpr (by simpa using htext)
    · intro h text
      rw [Bool.or_eq_true, Bool.not_eq_true', Bool.and_eq_false_iff]
      by_cases hname : matchTerms nameTerms text = true
      · by_cases hselects :
          selects (expressionParts index) (fun terms => matchTerms terms text) = true
        · have hmatch := h (String.ofList text) (by simpa [indexName] using hname)
            (by simpa using hselects)
          rw [exists_matchPattern, String.toList_ofList] at hmatch
          exact .inr hmatch
        · exact .inl (.inr (Bool.eq_false_iff.mpr hselects))
      · exact .inl (.inl (Bool.eq_false_iff.mpr hname))
  · intro f f' hsame
    have hname := hsame nameTerms (by simp)
    have hselects : selects (expressionParts index) f = selects (expressionParts index) f' :=
      selects_congr fun part hpart =>
        hsame part.terms (by simp only [List.mem_append, List.mem_cons, List.mem_map]; grind)
    have hany : (allowed.filterMap pathTerms).any f = (allowed.filterMap pathTerms).any f' := by
      grind
    rw [hname, hselects, hany]

/-- **Accepted indices.**  For every expression and every list of allowed patterns: whatever the
cluster, the indices that an accepted expression stands for match the patterns, exactly when the
patterns cover the expression. -/
theorem indexAllowed_sound_iff (lib : Library) (index : String) (allowed : List String) :
    IndexAllowedSound { lib with matchPath := matchPattern } index allowed ↔
      (indexAllowed { lib with matchPath := matchPattern } index allowed = true →
        covered index allowed = true) := by
  rw [covered_iff]
  constructor
  · intro h hallowed name hname hselects
    exact h hallowed [name] (by simpa using hname) name
      (mem_resolveIndices.mpr ⟨List.mem_singleton_self name, hselects⟩)
  · intro h hallowed cluster hcluster name hresolved
    obtain ⟨hmem, hselects⟩ := mem_resolveIndices.mp hresolved
    exact h hallowed name (hcluster name hmem) hselects

def plainLibrary : Library where
  unmarshal := fun _ => .error "unexpected end of JSON input"
  parse := fun _ => none
  parseFloat := fun _ => none
  formatFloat := fun _ => ""
  matchString := fun _ _ => false
  matchPath := matchPattern
  hashID := id

/-- **A list of indices passes under the pattern of the first.** -/
theorem listed_index_accepted : ¬ ∀ (lib : Library) (index : String) (allowed : List String),
    IndexAllowedSound { lib with matchPath := matchPattern } index allowed := by
  intro h
  have hsound := h plainLibrary "checkout-logs-1,security-audit" ["checkout-logs-*"] (by decide)
    ["checkout-logs-1", "security-audit"] (by decide) "security-audit" (by decide)
  revert hsound
  decide

end Rhythm.Elf
