import Rhythm.Runs.Scopes

/-!
# Rhythm.Runs.Conditions

The condition of a step: a name, or a comparison of a name with an operand.  The name is
looked up in the variables of the run as it stands; an operand that is no name may be a
quoted text, a truth value or a number.

The floating-point numbers are a parameter.
-/

namespace Rhythm.Runs

open Text

/-- The operators. -/
inductive Comparison where
  | eq | ne | ge | le | gt | lt
  deriving DecidableEq

def Comparison.text : Comparison → String
  | eq => "=="
  | ne => "!="
  | ge => ">="
  | le => "<="
  | gt => ">"
  | lt => "<"

def Comparison.all : List Comparison := [eq, ne, ge, le, gt, lt]

/-- `strconv.ParseFloat` and the comparisons of its results. -/
structure FloatLibrary where
  Value : Type
  parse : String → Option Value
  compare : Comparison → Value → Value → Bool

def Comparison.holds (comparison : Comparison) (left right : String) : Bool :=
  match comparison with
  | eq => left = right
  | ne => left ≠ right
  | ge => right ≤ left
  | le => left ≤ right
  | gt => right < left
  | lt => left < right

/-- `\\s` of a pattern. -/
def isPatternSpace (c : Char) : Bool :=
  c = ' ' || c = '\t' || c = '\n' || c = '\x0c' || c = '\r'

def isNameChar (c : Char) : Bool := c.isAlphanum || c = '_' || c = '.' || c = '-'

/-- `conditionPattern`: the name, the operator and the operand.  An operator that nothing
follows is read as a shorter one. -/
def conditionParts (expression : List Char) : Option (String × Comparison × String) :=
  let name := expression.takeWhile isNameChar
  let rest := (expression.dropWhile isNameChar).dropWhile isPatternSpace
  if name = [] then none
  else
    Comparison.all.findSome? fun comparison =>
      if comparison.text.toList.isPrefixOf rest then
        let operand := (rest.drop comparison.text.toList.length).dropWhile isPatternSpace
        if operand = [] ∨ '\n' ∈ operand then none
        else some (String.ofList name, comparison, String.ofList operand)
      else none

def isQuoted (operand : String) : Bool :=
  2 ≤ operand.toList.length &&
    ((operand.toList.head? = some '"' && operand.toList.getLast? = some '"') ||
      (operand.toList.head? = some '\'' && operand.toList.getLast? = some '\''))

/-- `conditionOperand`. -/
def conditionOperand (floats : FloatLibrary) (operand : String) (values : Values)
    (requireVariable : Bool) : Option String :=
  let operand := trimSpace operand
  match values.lookup operand with
  | some value => some value
  | none =>
    if requireVariable then none
    else if isQuoted operand then some (String.ofList operand.toList.tail.dropLast)
    else if equalFold operand "true" || equalFold operand "false" then some (toLower operand)
    else if (floats.parse operand).isSome then some operand
    else none

/-- The errors of `evaluateCondition`. -/
inductive ConditionError where
  /-- `condition variable %q is unresolved` -/
  | unresolved (name : String)
  /-- `condition operand is unresolved` -/
  | operandUnresolved
  deriving DecidableEq

def conditionExpression (expression : String) : String :=
  let expression := trimSpace expression
  if hasPrefix expression "\x7b\x7b" && hasSuffix expression "\x7d\x7d" then
    trimSpace (trimSuffix (trimPrefix expression "\x7b\x7b") "\x7d\x7d")
  else expression

/-- `evaluateCondition`. -/
def evaluateCondition (floats : FloatLibrary) (expression : String) (values : Values) :
    Except ConditionError Bool :=
  if trimSpace expression = "" then .ok true
  else
    let expression := conditionExpression expression
    match conditionParts expression.toList with
    | none =>
      match conditionOperand floats expression values true with
      | none => .error (.unresolved expression)
      | some value => .ok (equalFold value "true" || value = "1")
    | some (name, comparison, operand) =>
      match values.lookup name with
      | none => .error (.unresolved name)
      | some left =>
        match conditionOperand floats (trimSpace operand) values false with
        | none => .error .operandUnresolved
        | some right =>
          match floats.parse left, floats.parse right with
          | some leftNumber, some rightNumber =>
            .ok (floats.compare comparison leftNumber rightNumber)
          | _, _ => .ok (comparison.holds left right)

/-! ## Names in a condition -/

def Identifier (key : String) : Prop :=
  key ≠ "" ∧ ∀ c ∈ key.toList, isNameChar c = true ∧ c ≠ '.'

instance : DecidablePred Identifier := fun key =>
  have : Decidable (∀ c ∈ key.toList, isNameChar c = true ∧ c ≠ '.') := List.decidableBAll _ _
  inferInstanceAs (Decidable (_ ∧ _))

section Identifier

variable {key : String} {c : Char}

theorem ne_of_isNameChar {d : Char} (hd : isNameChar d = false) (hc : isNameChar c = true) :
    c ≠ d := by
  rintro rfl
  rw [hd] at hc
  contradiction

theorem isSpace_of_isNameChar (hc : isNameChar c = true) : isSpace c = false := by
  rw [Bool.eq_false_iff]
  intro hspace
  have hval := of_decide_eq_true hspace
  have hchar : ∀ n : UInt32, c.val = n → ∀ hn : n.isValidChar, c = ⟨n, hn⟩ := fun _ h _ =>
    Char.ext h
  simp only [List.mem_cons, List.not_mem_nil, or_false] at hval
  rcases hval with h | h | h | h | h | h | h | h | h | h | h | h | h | h | h | h | h | h | h | h |
    h | h | h | h | h <;>
    (rw [hchar _ h (by decide)] at hc; revert hc; decide)

theorem Identifier.bare (h : Identifier key) : Bare key :=
  bare_iff.mpr fun hdot => (h.2 '.' hdot).2 rfl

theorem Identifier.ne_nil (h : Identifier key) : key.toList ≠ [] := fun hnil =>
  h.1 (String.toList_injective hnil)

theorem Identifier.trimSpace_eq (h : Identifier key) : trimSpace key = key :=
  trimSpace_of_forall fun c hc => isSpace_of_isNameChar (h.2 c hc).1

end Identifier

end Rhythm.Runs
