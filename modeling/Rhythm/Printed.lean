import Mathlib.Algebra.Field.Rat
import Mathlib.Algebra.Order.Ring.Cast
import Mathlib.Algebra.Order.Ring.NNRat
import Mathlib.Algebra.Order.Ring.Rat
import Mathlib.Data.NNRat.Defs
import Rhythm.Unmarshal

/-!
# Rhythm.Printed

Decoded values as they are printed: `fmt.Sprint` of what `json.Unmarshal` leaves in an `any`.
Numbers are floating-point numbers, which know a negative zero and are printed with as few
digits as tell them apart, with an exponent when they are large.  `format_iff`: a whole number
is printed in its decimal digits exactly when it has at most six and is not the negative zero.
-/

namespace Rhythm.Printed

/-! ## Numbers -/

/-- A finite `float64`: zero has a sign too. -/
structure Float64 where
  negative : Bool
  magnitude : ℚ≥0
deriving DecidableEq

namespace Float64

def value (v : Float64) : Rat := if v.negative then -v.magnitude else v.magnitude

/-- The absolute value, when it is a whole number that has all smaller ones as neighbours. -/
def whole (v : Float64) : Option Nat :=
  if v.magnitude.den = 1 ∧ v.magnitude.num < 2 ^ 53 then some v.magnitude.num else none

def exponentDigits (exponent : Nat) : List Char :=
  let digits := Nat.toDigits 10 exponent
  List.replicate (2 - digits.length) '0' ++ digits

/-- `%e` of the digits of a whole number, with none that its last zeros do not need. -/
def withExponent (digits : List Char) : List Char :=
  match digits.rdropWhile (· = '0') with
  | [] => digits
  | first :: [] => first :: 'e' :: '+' :: exponentDigits (digits.length - 1)
  | first :: rest => first :: '.' :: rest ++ 'e' :: '+' :: exponentDigits (digits.length - 1)

/-- A whole number under `%v`: with an exponent from `10^6` on. -/
def wholeText (n : Nat) : List Char :=
  let digits := Nat.toDigits 10 n
  if digits.length ≤ 6 then digits else withExponent digits

/-- A number under `%v`; `other` prints those that are not whole, or too large. -/
def format (other : Float64 → String) (v : Float64) : String :=
  match v.whole with
  | some n => (if v.negative then "-" else "") ++ String.ofList (wholeText n)
  | none => other v

/-- A million. -/
example : String.ofList (wholeText 1000000) = "1e+06" := by decide +kernel

example : String.ofList (wholeText 1234567) = "1.234567e+06" := by decide +kernel

variable {other : Float64 → String} {v : Float64} {n : Int}

theorem magnitude_eq (hvalue : v.value = n) : v.magnitude = n.natAbs := by
  have habs : ((v.magnitude : ℚ≥0) : Rat) = (n.natAbs : Rat) := by
    have hnonneg : (0 : Rat) ≤ v.magnitude := v.magnitude.2
    have hcast : ((n.natAbs : Int) : Rat) = |(n : Rat)| := by
      rw [Int.natCast_natAbs, Int.cast_abs]
    rw [← Int.cast_natCast, hcast, ← hvalue, value]
    split <;> simp [abs_of_nonneg hnonneg]
  exact_mod_cast habs

theorem negative_eq (hvalue : v.value = n) (hn : n ≠ 0) : v.negative = decide (n < 0) := by
  have hnonneg : (0 : Rat) ≤ v.magnitude := v.magnitude.2
  have hne : (n : Rat) ≠ 0 := by exact_mod_cast hn
  rw [value] at hvalue
  cases hnegative : v.negative with
  | true =>
    rw [hnegative, if_pos rfl] at hvalue
    have hlt : (n : Rat) < 0 := lt_of_le_of_ne (by simp [← hvalue]) hne
    have hint : n < 0 := by exact_mod_cast hlt
    simp [hint]
  | false =>
    rw [hnegative, if_neg Bool.false_ne_true] at hvalue
    have hle : (0 : Rat) ≤ n := hvalue ▸ hnonneg
    have hint : 0 ≤ n := by exact_mod_cast hle
    simp [hint]

theorem whole_eq (hvalue : v.value = n) (hn : n.natAbs < 2 ^ 53) : v.whole = some n.natAbs := by
  rw [whole, magnitude_eq hvalue, if_pos ⟨by simp, by simpa using hn⟩]
  simp

theorem mem_withExponent {digits : List Char} (h : digits.rdropWhile (· = '0') ≠ []) :
    'e' ∈ withExponent digits := by
  unfold withExponent
  split
  · contradiction
  · simp
  · simp

theorem toList_toString (n : Int) :
    (toString n).toList = (if n < 0 then ['-'] else []) ++ Nat.toDigits 10 n.natAbs := by
  cases n with
  | ofNat n =>
    have hlist : (toString (Int.ofNat n)).toList = Nat.toDigits 10 n := Nat.toList_repr
    rw [hlist, if_neg (by simp)]
    rfl
  | negSucc n =>
    have hlist : (toString (Int.negSucc n)).toList = '-' :: Nat.toDigits 10 (n + 1) := by
      change ("-" ++ Nat.repr (n + 1)).toList = _
      rw [String.toList_append, Nat.toList_repr]
      rfl
    rw [hlist, if_pos (Int.negSucc_lt_zero n)]
    rfl

theorem not_mem_toString (n : Int) : 'e' ∉ (toString n).toList := by
  rw [toList_toString, List.mem_append, not_or]
  constructor
  · split <;> decide
  · intro h
    exact absurd (Nat.isDigit_of_mem_toDigits (by decide) (by decide) h) (by decide)

theorem rdropWhile_toDigits {n : Nat} (hn : n ≠ 0) :
    (Nat.toDigits 10 n).rdropWhile (· = '0') ≠ [] := by
  rw [ne_eq, List.rdropWhile_eq_nil_iff]
  intro h
  have hzeros : Nat.toDigits 10 n = List.replicate (Nat.toDigits 10 n).length '0' :=
    List.eq_replicate_of_mem fun c hc => by simpa using h c hc
  have hvalue := Nat.ofDigitChars_toDigits (b := 10) (n := n) (by decide) (by decide)
  rw [hzeros, Nat.ofDigitChars_replicate_zero, Nat.mul_zero] at hvalue
  exact hn hvalue.symm

/-- **Whole numbers as they are printed.** -/
theorem format_iff (hvalue : v.value = n) (hn : n.natAbs < 2 ^ 53) :
    v.format other = toString n ↔ n.natAbs < 10 ^ 6 ∧ (n = 0 → v.negative = false) := by
  have hformat : (v.format other).toList =
      (if v.negative then ['-'] else []) ++ wholeText n.natAbs := by
    rw [format, whole_eq hvalue hn, String.toList_append, String.toList_ofList]
    cases v.negative <;> rfl
  rw [← String.toList_inj, hformat]
  by_cases hsmall : n.natAbs < 10 ^ 6
  · have htext : wholeText n.natAbs = Nat.toDigits 10 n.natAbs :=
      if_pos ((Nat.length_toDigits_le_iff (by decide) (by decide)).mpr hsmall)
    rw [htext, toList_toString, List.append_left_inj]
    by_cases hzero : n = 0
    · cases v.negative <;> simp [hzero]
    · rw [negative_eq hvalue hzero]
      exact iff_of_true (by simp) ⟨hsmall, fun h => absurd h hzero⟩
  · refine iff_of_false (fun h => ?_) fun h => hsmall h.1
    have hlong : ¬ (Nat.toDigits 10 n.natAbs).length ≤ 6 := fun h =>
      hsmall ((Nat.length_toDigits_le_iff (by decide) (by decide)).mp h)
    have hletter : 'e' ∈ wholeText n.natAbs := by
      rw [wholeText, if_neg hlong]
      exact mem_withExponent (rdropWhile_toDigits (by omega))
    exact not_mem_toString n (h ▸ List.mem_append_right _ hletter)

end Float64

/-! ## Values -/

/-- A value that was decoded into an `any`. -/
inductive Value where
  | null
  | bool (value : Bool)
  | num (value : Float64)
  | str (value : String)
  | arr (items : List Value)
  | obj (fields : List (String × Value))

namespace Value

section Decode

variable (parseFloat : String → Option Float64)

mutual
/-- `json.Unmarshal` into an `any`; `parseFloat` is `strconv.ParseFloat`. -/
def decode : JsonText → Option Value
  | .null => some .null
  | .bool value => some (.bool value)
  | .num literal => (parseFloat literal).map .num
  | .str value => some (.str value)
  | .arr items => (decodeItems items).map .arr
  | .obj members => (decodeMembers members []).map .obj

def decodeItems : List JsonText → Option (List Value)
  | [] => some []
  | item :: items => do return (← decode item) :: (← decodeItems items)

def decodeMembers : List (String × JsonText) → List (String × Value) →
    Option (List (String × Value))
  | [], fields => some fields
  | (key, member) :: members, fields => do
    decodeMembers members (Unmarshal.setKey fields key (← decode member))
end

end Decode

section Sprint

variable (other : Float64 → String)

mutual
/-- `fmt.Sprint`. -/
def sprint : Value → String
  | .null => "<nil>"
  | .bool true => "true"
  | .bool false => "false"
  | .num value => value.format other
  | .str value => value
  | .arr items => "[" ++ Text.join ' ' (sprintItems items) ++ "]"
  | .obj fields =>
    let sorted := (sprintFields fields).insertionSort fun a b => a.1 ≤ b.1
    "map[" ++ Text.join ' ' (sorted.map fun field => field.1 ++ ":" ++ field.2) ++ "]"

def sprintItems : List Value → List String
  | [] => []
  | item :: items => sprint item :: sprintItems items

def sprintFields : List (String × Value) → List (String × String)
  | [] => []
  | (key, value) :: fields => (key, sprint value) :: sprintFields fields
end

end Sprint

/-- The value is given exactly by this text: a string, a truth value, or an integer that every
smaller one can be told from. -/
inductive Denotes : Value → String → Prop where
  | str (s : String) : Denotes (.str s) s
  | bool (b : Bool) : Denotes (.bool b) (if b then "true" else "false")
  | integer {v : Float64} {n : Int} (hvalue : v.value = n) (hn : n.natAbs < 2 ^ 53) :
    Denotes (.num v) (toString n)

def Plain : Value → Prop
  | .num v => v.magnitude < 10 ^ 6 ∧ (v.magnitude = 0 → v.negative = false)
  | _ => True

/-- **Values as they are printed**: by their texts, exactly when they are plain. -/
theorem sprint_eq_iff (other : Float64 → String) {value : Value} {text : String}
    (h : value.Denotes text) : value.sprint other = text ↔ value.Plain := by
  cases h with
  | str s => simp [sprint, Plain]
  | bool b => cases b <;> simp [sprint, Plain]
  | @integer v n hvalue hn =>
    have hmagnitude := Float64.magnitude_eq hvalue
    rw [sprint, Float64.format_iff hvalue hn, Plain, hmagnitude]
    refine and_congr ?_ (imp_congr ?_ Iff.rfl)
    · have hcast : ((10 ^ 6 : Nat) : ℚ≥0) = 10 ^ 6 := by push_cast; rfl
      rw [← hcast, Nat.cast_lt]
    · simp

end Value

end Rhythm.Printed
