import Rhythm.Text
import Rhythm.Unmarshal

/-!
# Rhythm.Runs.Templates

Variables and templates: `render` replaces each `{{name}}` of a text by the value that the name
resolves to.  Names without a dot are looked up in every scope.

Generated values — identifiers, times, random numbers — are an input; each may depend on
the place where it is asked for.
-/

namespace Rhythm.Runs

open Text

/-- A `map[string]string`. -/
abbrev Values := List (String × String)

namespace Values

/-- `values[key] = value`. -/
def write (values : Values) (key value : String) : Values := Unmarshal.setKey values key value

def writeAll (values : Values) (writes : List (String × String)) : Values :=
  writes.foldl (fun values entry => values.write entry.1 entry.2) values

end Values

/-- What `$guid` and its like give at a place of a template, which is told by what follows. -/
abbrev Generator := List Char → String → Option String

/-- `resolveTemplateValue`. -/
def resolveTemplateValue (generate : Generator) (values : Values) (following : List Char)
    (key : String) : Option String :=
  if key ∈ ["$guid", "$uuid", "$timestamp", "$isoTimestamp", "$randomInt"] then
    generate following key
  else if contains key "." then values.lookup key
  else
    (values.lookup ("variables." ++ key)).or <| (values.lookup key).or <|
      ["service.", "application.", "environment.", "collection.", "globals."].findSome? fun scope =>
        values.lookup (scope ++ key)

def isBrace (c : Char) : Bool := c = '{' || c = '}'

/-- The name and the length of a match of `templatePattern` at the start of a text. -/
def templateAt? : List Char → Option (String × Nat)
  | '{' :: '{' :: rest =>
    let name := rest.takeWhile fun c => !isBrace c
    match rest.dropWhile fun c => !isBrace c with
    | '}' :: '}' :: _ =>
      if name = [] then none else some (trimSpace (String.ofList name), name.length + 4)
    | _ => none
  | _ => none

/-- The loop of `render`, after a match that still covers `skip` letters: the text, and the last
name that is unresolved. -/
def renderFrom (resolve : List Char → String → Option String) :
    Nat → List Char → List Char × Option String
  | _, [] => ([], none)
  | skip + 1, _ :: cs => renderFrom resolve skip cs
  | 0, c :: cs =>
    match templateAt? (c :: cs) with
    | none => ((renderFrom resolve 0 cs).map (c :: ·) id)
    | some (key, width) =>
      let rest := renderFrom resolve (width - 1) cs
      match resolve cs key with
      | some value => (value.toList ++ rest.1, rest.2)
      | none => ((c :: cs).take width ++ rest.1, rest.2.or (some key))

/-- `render`; the error has the name that is unresolved. -/
def render (generate : Generator) (value : String) (values : Values) : Except String String :=
  match renderFrom (resolveTemplateValue generate values) 0 value.toList with
  | (_, some key) => .error key
  | (rendered, none) => .ok (String.ofList rendered)

/-- A variable, and braces that do not match. -/
example : (render (fun _ _ => none) "a=\x7b\x7b k \x7d\x7d&\x7b\x7bb\x7d" [("k", "v")]).toOption =
    some "a=v&\x7b\x7bb\x7d" := by
  decide +kernel

/-! ## The names of a template -/

def BetweenBraces (inner : List Char) : Prop := inner ≠ [] ∧ ∀ c ∈ inner, isBrace c = false

def Asked (name : String) : Prop :=
  ∃ inner, BetweenBraces inner ∧ trimSpace (String.ofList inner) = name

def braced (inner : List Char) : List Char := '{' :: '{' :: (inner ++ ['}', '}'])

section Asked

variable {resolve resolve' : List Char → String → Option String} {inner letters : List Char}
  {name : String} {width : Nat}

theorem templateAt?_braced (h : BetweenBraces inner) :
    templateAt? (braced inner) = some (trimSpace (String.ofList inner), inner.length + 4) := by
  have hbrace : ∀ c ∈ inner, (!isBrace c) = true := by
    intro c hc
    rw [h.2 c hc]
    rfl
  have htake : (inner ++ ['}', '}']).takeWhile (fun c => !isBrace c) = inner := by
    rw [List.takeWhile_append_of_pos hbrace]
    simp [isBrace]
  have hdrop : (inner ++ ['}', '}']).dropWhile (fun c => !isBrace c) = ['}', '}'] := by
    rw [List.dropWhile_append_of_pos hbrace]
    simp [isBrace]
  simp only [braced, templateAt?, htake, hdrop]
  rw [if_neg h.1]

theorem asked_of_templateAt? (h : templateAt? letters = some (name, width)) : Asked name := by
  unfold templateAt? at h
  split at h
  · rename_i rest
    dsimp only at h
    split at h
    · split at h
      · cases h
      · rename_i hinner
        obtain ⟨rfl, -⟩ := Prod.mk.inj (Option.some.inj h)
        refine ⟨_, ⟨hinner, fun c hc => ?_⟩, rfl⟩
        simpa using List.mem_takeWhile_imp hc
    · cases h
  · cases h

theorem renderFrom_skip (skip : Nat) (letters : List Char) (h : letters.length ≤ skip) :
    renderFrom resolve skip letters = ([], none) := by
  induction letters generalizing skip with
  | nil => cases skip <;> rfl
  | cons c cs ih =>
    cases skip with
    | zero => simp at h
    | succ skip =>
      rw [renderFrom]
      exact ih skip (by simpa using h)

theorem renderFrom_braced (h : BetweenBraces inner)
    (resolve : List Char → String → Option String) :
    ∃ following, renderFrom resolve 0 (braced inner) =
      match resolve following (trimSpace (String.ofList inner)) with
      | some value => (value.toList, none)
      | none => (braced inner, some (trimSpace (String.ofList inner))) := by
  have hmatch := templateAt?_braced h
  have hlength : ('{' :: (inner ++ ['}', '}'])).length = inner.length + 4 - 1 := by simp
  have htake : (braced inner).take (inner.length + 4) = braced inner :=
    List.take_of_length_le (by simp [braced])
  refine ⟨'{' :: (inner ++ ['}', '}']), ?_⟩
  rw [braced] at hmatch htake ⊢
  rw [renderFrom, hmatch]
  dsimp only
  rw [renderFrom_skip _ _ hlength.le, htake]
  cases resolve _ (trimSpace (String.ofList inner)) with
  | some value | none => simp

/-- **A text is rendered by the names that it asks for.** -/
theorem renderFrom_congr
    (h : ∀ following name, Asked name → resolve following name = resolve' following name)
    (skip : Nat) (letters : List Char) :
    renderFrom resolve skip letters = renderFrom resolve' skip letters := by
  induction letters generalizing skip with
  | nil => cases skip <;> rfl
  | cons c cs ih =>
    cases skip with
    | succ skip => exact ih skip
    | zero =>
      rw [renderFrom, renderFrom]
      cases hmatch : templateAt? (c :: cs) with
      | none =>
        dsimp only
        rw [ih 0]
      | some found =>
        obtain ⟨name, width⟩ := found
        dsimp only
        rw [ih (width - 1), h cs name (asked_of_templateAt? hmatch)]

end Asked

end Rhythm.Runs
