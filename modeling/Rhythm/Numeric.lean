import Mathlib.Data.Rat.Floor
import Mathlib.Tactic.Linarith

/-!
# Rhythm.Numeric

Go's floating-point arithmetic as exact rational arithmetic: rounding, ranks and
fixed-point texts.  This module names nothing of the component.
-/

namespace Rhythm.Numeric

/-- `math.Round`: to the nearest integer, halves away from zero. -/
def round (x : Rat) : Int := if 0 ≤ x then ⌊x + 1 / 2⌋ else -⌊-x + 1 / 2⌋

/-- `math.Round(x*10)/10`. -/
def roundTenths (x : Rat) : Rat := round (x * 10) / 10

theorem round_mono {x y : Rat} (h : x ≤ y) : round x ≤ round y := by
  unfold round
  split
  · next hx =>
    rw [if_pos (hx.trans h)]
    exact Int.floor_le_floor (by linarith)
  · next hx =>
    have hx' : 0 ≤ ⌊-x + 1 / 2⌋ := Int.floor_nonneg.mpr (by linarith)
    split
    · next hy =>
      have hy' : 0 ≤ ⌊y + 1 / 2⌋ := Int.floor_nonneg.mpr (by linarith)
      omega
    · exact neg_le_neg (Int.floor_le_floor (by linarith))

theorem roundTenths_mono {x y : Rat} (h : x ≤ y) : roundTenths x ≤ roundTenths y := by
  have hround : ((round (x * 10) : Int) : Rat) ≤ round (y * 10) :=
    Int.cast_le.mpr (round_mono (by linarith))
  unfold roundTenths
  linarith

/-- `math.Round(math.Sqrt(a/n)*10)/10`: the square root of `a / n` to tenths. -/
def sqrtTenths (a n : Nat) : Rat := ((Nat.sqrt (400 * a / n) + 1) / 2 : Nat) / 10

/-- `math.Ceil(percent/100 * n)`. -/
def ceilPercent (percent n : Nat) : Nat := (percent * n + 99) / 100

/-- `math.Trunc`: towards zero. -/
def truncate (x : Rat) : Int := if 0 ≤ x then ⌊x⌋ else -⌊-x⌋

def roundEven (x : Rat) : Int :=
  let rest := x - ⌊x⌋
  if rest < 1 / 2 then ⌊x⌋
  else if rest > 1 / 2 then ⌊x⌋ + 1
  else if ⌊x⌋ % 2 = 0 then ⌊x⌋ else ⌊x⌋ + 1

/-- `float64(n)`: to 53 binary digits. -/
def float64 (n : Int) : Rat :=
  let unit : Rat := 2 ^ (Nat.log2 n.natAbs - 52)
  roundEven (n / unit) * unit

/-- `%.nf`. -/
def formatFixed (digits : Nat) (x : Rat) : String :=
  let scaled := (roundEven (|x| * 10 ^ digits)).toNat
  let fraction := toString (scaled % 10 ^ digits)
  (if x < 0 then "-" else "") ++ toString (scaled / 10 ^ digits) ++ "." ++
    String.ofList (List.replicate (digits - fraction.length) '0') ++ fraction

end Rhythm.Numeric
