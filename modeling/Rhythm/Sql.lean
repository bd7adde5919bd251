import Rhythm.Json

/-!
# Rhythm.Sql

Statements of a PostgreSQL transaction, as far as they can fail: a value that its column does not
take, and a constraint that does not hold.  After an error every further statement of the
transaction is refused, and so is its commit, whether or not the program looked at the
error.  This module names nothing of the component.

`commits_iff` says what that comes to: a program commits exactly when all its statements
are accepted, those whose errors it ignores included.
-/

namespace Rhythm

/-! ## Texts without the NUL character -/

/-- PostgreSQL stores no NUL character, neither in a text nor in a `JSONB` document. -/
def NulFree (s : String) : Prop := Char.ofNat 0 ∉ s.toList

instance : DecidablePred NulFree := fun _ => inferInstanceAs (Decidable (_ ∉ _))

theorem nulFree_append {s t : String} : NulFree (s ++ t) ↔ NulFree s ∧ NulFree t := by
  rw [NulFree, NulFree, NulFree, String.toList_append, List.mem_append, not_or]

namespace Json

mutual
def texts : Json → List String
  | .str value => [value]
  | .arr items => textsItems items
  | .obj fields => textsFields fields
  | _ => []

def textsItems : List Json → List String
  | [] => []
  | v :: items => texts v ++ textsItems items

def textsFields : List (String × Json) → List String
  | [] => []
  | (key, v) :: fields => key :: (texts v ++ textsFields fields)
end

theorem mem_textsItems {items : List Json} {s : String} :
    s ∈ textsItems items ↔ ∃ v ∈ items, s ∈ v.texts := by
  induction items with
  | nil => simp [textsItems]
  | cons v items ih => simp [textsItems, ih]

variable {fields : List (String × Json)}

theorem mem_textsFields {s : String} :
    s ∈ textsFields fields ↔ ∃ field ∈ fields, s = field.1 ∨ s ∈ field.2.texts := by
  induction fields with
  | nil => simp [textsFields]
  | cons field fields ih => simp [textsFields, ih, or_assoc]

def NulFree (v : Json) : Prop := ∀ s ∈ v.texts, Rhythm.NulFree s

instance : DecidablePred NulFree := fun v => inferInstanceAs (Decidable (∀ s ∈ v.texts, _))

@[simp] theorem nulFree_null : NulFree .null := by simp [NulFree, texts]

@[simp] theorem nulFree_bool (b : Bool) : NulFree (.bool b) := by simp [NulFree, texts]

@[simp] theorem nulFree_num (n : Rat) : NulFree (.num n) := by simp [NulFree, texts]

@[simp] theorem nulFree_str {s : String} : NulFree (.str s) ↔ Rhythm.NulFree s := by
  simp [NulFree, texts]

@[simp] theorem nulFree_arr {items : List Json} :
    NulFree (.arr items) ↔ ∀ v ∈ items, v.NulFree := by
  grind [NulFree, texts, mem_textsItems]

@[simp] theorem nulFree_obj :
    NulFree (.obj fields) ↔ ∀ field ∈ fields, Rhythm.NulFree field.1 ∧ field.2.NulFree := by
  simp only [NulFree, texts, mem_textsFields]
  constructor
  · intro h field hfield
    exact ⟨h field.1 ⟨field, hfield, .inl rfl⟩, fun s hs => h s ⟨field, hfield, .inr hs⟩⟩
  · rintro h s ⟨field, hfield, rfl | hs⟩
    · exact (h field hfield).1
    · exact (h field hfield).2 s hs

end Json

namespace Sql

/-! ## Columns -/

/-- The types of columns that do not take every value. -/
inductive ColumnType where
  | varchar (limit : Nat)
  | text
  | jsonb
  deriving DecidableEq

inductive Value where
  | null
  | text (value : String)
  | json (value : Json)

/-- The text is at most `limit` characters long, spaces at its end aside. -/
def WithinLimit (limit : Nat) (s : String) : Prop := ∀ c ∈ s.toList.drop limit, c = ' '

instance (limit : Nat) : DecidablePred (WithinLimit limit) :=
  fun s => List.decidableBAll (fun c => c = ' ') (s.toList.drop limit)

theorem withinLimit_of_length_le {limit : Nat} {s : String} (h : s.length ≤ limit) :
    WithinLimit limit s := by
  rw [WithinLimit, List.drop_of_length_le (by rw [String.length_toList]; exact h)]
  exact List.forall_mem_nil _

def ColumnType.Takes : ColumnType → Value → Prop
  | _, .null => True
  | .varchar limit, .text value => WithinLimit limit value ∧ NulFree value
  | .text, .text value => NulFree value
  | .jsonb, .json value => value.NulFree
  | _, _ => False

instance (type : ColumnType) (value : Value) : Decidable (type.Takes value) :=
  match type, value with
  | .varchar _, .null | .text, .null | .jsonb, .null => isTrue trivial
  | .varchar _, .text _ => inferInstanceAs (Decidable (_ ∧ _))
  | .text, .text value => inferInstanceAs (Decidable (NulFree value))
  | .jsonb, .json value => inferInstanceAs (Decidable value.NulFree)
  | .varchar _, .json _ | .text, .json _ | .jsonb, .text _ => isFalse id

/-- A value written to a column. -/
structure Column where
  type : ColumnType
  value : Value

abbrev varchar (limit : Nat) (value : String) : Column := ⟨.varchar limit, .text value⟩

abbrev text (value : String) : Column := ⟨.text, .text value⟩

abbrev jsonb (value : Json) : Column := ⟨.jsonb, .json value⟩

/-- `NULLIF(value,'')`. -/
def nullIfEmpty (column : Column) : Column :=
  match column.value with
  | .text "" => { column with value := .null }
  | _ => column

/-! ## Programs -/

/-- A statement: the columns it writes, and whether its other constraints hold. -/
structure Statement where
  columns : List Column
  constraint : Bool

def Statement.plain : Statement := ⟨[], true⟩

def Statement.Accepted (statement : Statement) : Prop :=
  statement.constraint = true ∧ ∀ column ∈ statement.columns, column.type.Takes column.value

instance : DecidablePred Statement.Accepted := fun _ => inferInstanceAs (Decidable (_ ∧ _))

/-- A statement of a program: its error ends the program, or is ignored. -/
inductive Call where
  | checked (statement : Statement)
  | ignored (statement : Statement)

def Call.statement : Call → Statement
  | .checked statement => statement
  | .ignored statement => statement

/-- Does the program commit?  `aborted` says that a statement of the transaction has failed. -/
def commitsFrom (aborted : Bool) : List Call → Bool
  | [] => !aborted
  | .checked statement :: calls =>
    if aborted = false ∧ statement.Accepted then commitsFrom false calls else false
  | .ignored statement :: calls =>
    commitsFrom (aborted || !decide statement.Accepted) calls

/-- A transaction with the statements of the program commits. -/
def commits (calls : List Call) : Bool := commitsFrom false calls

theorem commitsFrom_aborted (calls : List Call) : commitsFrom true calls = false := by
  induction calls with
  | nil => rfl
  | cons call calls ih =>
    cases call with
    | checked statement => rfl
    | ignored statement => exact ih

/-- **Programs that commit.** -/
theorem commits_iff {calls : List Call} :
    commits calls = true ↔ ∀ call ∈ calls, call.statement.Accepted := by
  rw [commits]
  induction calls with
  | nil => simp [commitsFrom]
  | cons call calls ih =>
    rw [List.forall_mem_cons, ← ih]
    cases call with
    | checked statement =>
      by_cases haccepted : statement.Accepted <;> simp [commitsFrom, Call.statement, haccepted]
    | ignored statement =>
      by_cases haccepted : statement.Accepted
      · simp [commitsFrom, Call.statement, haccepted]
      · simp [commitsFrom, Call.statement, haccepted, commitsFrom_aborted]

end Sql

end Rhythm
