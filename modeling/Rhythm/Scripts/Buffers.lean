import Mathlib.Algebra.GroupWithZero.Nat
import Rhythm.Fallible
import Rhythm.Unicode

/-!
# Rhythm.Scripts.Buffers

The buffer helpers of the script runtime: `__isUtf8`, `__decodeBuffer` and `__encodeBuffer`.  A text
of a script is the list of its code units.  `escape`, `unescape`, `encodeURIComponent` and
`decodeURIComponent` are written as the language defines them.

* `isUtf8_iff` — the validator accepts well-formed UTF-8 and nothing else;
* `decode_encode` — texts come back from UTF-8 when no surrogate is alone, and from UTF-16 always.
-/

namespace Rhythm.Scripts.Buffers

open Fallible Unicode

abbrev Text := List UInt16

/-- What a helper throws. -/
inductive Thrown where
  | typeError (message : String)
  | uriError
  deriving DecidableEq

/-! ## `__isUtf8` -/

/-- The classes of lead bytes: how many bytes follow, the least code point, and the bits of the lead
byte. -/
def leadByte (first : Nat) : Option (Nat × Nat × Nat) :=
  if 0xc2 ≤ first ∧ first ≤ 0xdf then some (1, 0x80, first &&& 0x1f)
  else if 0xe0 ≤ first ∧ first ≤ 0xef then some (2, 0x800, first &&& 0x0f)
  else if 0xf0 ≤ first ∧ first ≤ 0xf4 then some (3, 0x10000, first &&& 0x07)
  else none

def continued : Nat → List UInt8 → Option Nat
  | codePoint, [] => some codePoint
  | codePoint, next :: rest =>
    if next.toNat &&& 0xc0 ≠ 0x80 then none
    else continued ((codePoint <<< 6) ||| (next.toNat &&& 0x3f)) rest

/-- One turn of the loop: the bytes that are left after it. -/
def turn (first : UInt8) (rest : List UInt8) : Option (List UInt8) :=
  if first.toNat ≤ 0x7f then some rest
  else
    match leadByte first.toNat with
    | none => none
    | some (continuation, minimum, bits) =>
      if rest.length < continuation then none
      else
        match continued bits (rest.take continuation) with
        | none => none
        | some codePoint =>
          if codePoint < minimum ∨ 0x10ffff < codePoint ∨
              (0xd800 ≤ codePoint ∧ codePoint ≤ 0xdfff) then none
          else some (rest.drop continuation)

theorem length_turn {first : UInt8} {rest left : List UInt8} (h : turn first rest = some left) :
    left.length ≤ rest.length := by
  grind [turn, Option.some.inj, List.length_drop, Nat.sub_le]

/-- `__isUtf8`. -/
def isUtf8 : List UInt8 → Bool
  | [] => true
  | first :: rest =>
    match _h : turn first rest with
    | none => false
    | some left => isUtf8 left
termination_by bytes => bytes.length
decreasing_by exact Nat.lt_succ_of_le (length_turn _h)

/-! ## Encodings -/

inductive Encoding where
  | utf8 | utf16le | latin1 | ascii
  deriving DecidableEq

/-- `__normalizeEncoding`.  The names are ASCII, and so are the letters whose lower case is. -/
def normalizeEncoding (encoding : String) : Except Thrown Encoding :=
  let text := if encoding = "" then "utf8" else encoding
  let normalized :=
    String.ofList ((text.toList.map Char.toLower).filter fun c => c ≠ '-' && c ≠ '_')
  if normalized ∈ ["utf8", "utf"] then .ok .utf8
  else if normalized ∈ ["utf16le", "ucs2", "ucs2le"] then .ok .utf16le
  else if normalized ∈ ["latin1", "binary"] then .ok .latin1
  else if normalized = "ascii" then .ok .ascii
  else .error (.typeError ("Unsupported buffer encoding '" ++ encoding ++ "'."))

def unit (c : Char) : UInt16 := UInt16.ofNat c.toNat

/-! ## Percent forms -/

/-- A digit as `escape` and `encodeURIComponent` write it. -/
def hexUnit (n : Nat) : UInt16 := unit (if n < 10 then Char.ofNat (48 + n) else Char.ofNat (55 + n))

def hexValue (u : UInt16) : Option Nat :=
  if 48 ≤ u.toNat ∧ u.toNat ≤ 57 then some (u.toNat - 48)
  else if 65 ≤ u.toNat ∧ u.toNat ≤ 70 then some (u.toNat - 55)
  else if 97 ≤ u.toNat ∧ u.toNat ≤ 102 then some (u.toNat - 87)
  else none

/-- `%` and two digits. -/
def percent (n : Nat) : Text := [unit '%', hexUnit (n / 16), hexUnit (n % 16)]

def hexPair (a b : UInt16) : Option Nat :=
  (hexValue a).bind fun x => (hexValue b).map fun y => 16 * x + y

def isAlphanumeric (u : UInt16) : Bool :=
  48 ≤ u.toNat && u.toNat ≤ 57 || 65 ≤ u.toNat && u.toNat ≤ 90 || 97 ≤ u.toNat && u.toNat ≤ 122

/-- What `escape` leaves as it is. -/
def plainInEscape (u : UInt16) : Bool :=
  isAlphanumeric u || "@*_+-./".toList.any fun c => unit c = u

/-- `escape`. -/
def escape (text : Text) : Text :=
  text.flatMap fun u =>
    if plainInEscape u then [u]
    else if u.toNat < 256 then percent u.toNat
    else
      [unit '%', unit 'u', hexUnit (u.toNat / 4096), hexUnit (u.toNat / 256 % 16),
        hexUnit (u.toNat / 16 % 16), hexUnit (u.toNat % 16)]

def unescapeAt : Text → Option (UInt16 × Text)
  | sign :: rest =>
    if sign ≠ unit '%' then none
    else
      match rest with
      | a :: b :: rest =>
        if a ≠ unit 'u' then (hexPair a b).map fun n => (UInt16.ofNat n, rest)
        else
          match rest with
          | c :: d :: e :: rest =>
            (hexPair b c).bind fun high => (hexPair d e).map fun low =>
              (UInt16.ofNat (256 * high + low), rest)
          | _ => none
      | _ => none
  | [] => none

variable {text left : Text}

theorem length_unescapeAt {u : UInt16} (h : unescapeAt text = some (u, left)) :
    left.length < text.length := by
  unfold unescapeAt at h
  repeat' split at h
  all_goals first | cases h | skip
  · obtain ⟨n, -, heq⟩ := Option.map_eq_some_iff.mp h
    obtain ⟨-, rfl⟩ := Prod.mk.inj heq
    simp only [List.length_cons]
    omega
  · obtain ⟨high, -, hlow⟩ := Option.bind_eq_some_iff.mp h
    obtain ⟨n, -, heq⟩ := Option.map_eq_some_iff.mp hlow
    obtain ⟨-, rfl⟩ := Prod.mk.inj heq
    simp only [List.length_cons]
    omega

/-- `unescape`. -/
def unescape : Text → Text
  | [] => []
  | u :: rest =>
    match _h : unescapeAt (u :: rest) with
    | none => u :: unescape rest
    | some (v, left) => v :: unescape left
termination_by text => text.length
decreasing_by
  · exact Nat.lt_succ_self _
  · exact length_unescapeAt _h

/-- What `encodeURIComponent` leaves as it is. -/
def unreserved (c : Char) : Bool :=
  c.toNat < 128 && isAlphanumeric (unit c) || "-_.!~*'()".toList.contains c

/-- `encodeURIComponent`; a lone surrogate is an error. -/
def encodeURIComponent (text : Text) : Except Thrown Text :=
  match codePoints text with
  | none => .error .uriError
  | some cs =>
    .ok (cs.flatMap fun c =>
      if unreserved c then utf16 c
      else (String.utf8EncodeChar c).flatMap fun byte => percent byte.toNat)

def octetAt : Text → Option (UInt8 × Text)
  | sign :: a :: b :: rest =>
    if sign = unit '%' then (hexPair a b).map fun n => (UInt8.ofNat n, rest) else none
  | _ => none

def octets : Nat → Text → Option (List UInt8 × Text)
  | 0, text => some ([], text)
  | n + 1, text =>
    (octetAt text).bind fun (octet, rest) =>
      (octets n rest).map fun (others, left) => (octet :: others, left)

/-- The number of octets after one with this value, by its leading ones. -/
def following (octet : UInt8) : Option Nat :=
  if octet.toNat < 0x80 then some 0
  else if octet.toNat < 0xc0 then none
  else if octet.toNat < 0xe0 then some 1
  else if octet.toNat < 0xf0 then some 2
  else if octet.toNat < 0xf8 then some 3
  else none

def componentAt (text : Text) : Option (Char × Text) :=
  (octetAt text).bind fun (octet, rest) =>
    (following octet).bind fun n =>
      (octets n rest).bind fun (others, left) =>
        (scalar (octet :: others)).map fun c => (c, left)

theorem length_octetAt {octet : UInt8} (h : octetAt text = some (octet, left)) :
    left.length < text.length := by
  unfold octetAt at h
  split at h
  · split at h
    · obtain ⟨n, -, heq⟩ := Option.map_eq_some_iff.mp h
      obtain ⟨-, rfl⟩ := Prod.mk.inj heq
      simp only [List.length_cons]
      omega
    · cases h
  · cases h

theorem length_octets {n : Nat} {others : List UInt8}
    (h : octets n text = some (others, left)) : left.length ≤ text.length := by
  induction n generalizing text others with
  | zero =>
    obtain ⟨-, rfl⟩ := Prod.mk.inj (Option.some.inj h)
    exact Nat.le_refl _
  | succ n ih =>
    obtain ⟨⟨octet, rest⟩, hoctet, hrest⟩ := Option.bind_eq_some_iff.mp h
    obtain ⟨⟨others, left⟩, hothers, heq⟩ := Option.map_eq_some_iff.mp hrest
    obtain ⟨-, rfl⟩ := Prod.mk.inj heq
    exact Nat.le_trans (ih hothers) (Nat.le_of_lt (length_octetAt hoctet))

theorem length_componentAt {c : Char} (h : componentAt text = some (c, left)) :
    left.length < text.length := by
  obtain ⟨⟨octet, rest⟩, hoctet, h⟩ := Option.bind_eq_some_iff.mp h
  obtain ⟨n, -, h⟩ := Option.bind_eq_some_iff.mp h
  obtain ⟨⟨others, left⟩, hothers, h⟩ := Option.bind_eq_some_iff.mp h
  obtain ⟨c, -, heq⟩ := Option.map_eq_some_iff.mp h
  obtain ⟨-, rfl⟩ := Prod.mk.inj heq
  exact Nat.lt_of_le_of_lt (length_octets hothers) (length_octetAt hoctet)

/-- `decodeURIComponent`. -/
def decodeURIComponent : Text → Except Thrown Text
  | [] => .ok []
  | u :: rest =>
    if u ≠ unit '%' then (decodeURIComponent rest).map (u :: ·)
    else
      match _h : componentAt (u :: rest) with
      | none => .error .uriError
      | some (c, left) => (decodeURIComponent left).map (utf16 c ++ ·)
termination_by text => text.length
decreasing_by
  · exact Nat.lt_succ_self _
  · exact length_componentAt _h

/-! ## Buffers -/

/-- The first code unit of each character of a text, where a surrogate pair is one character. -/
def firstUnits : Text → List UInt16
  | [] => []
  | [u] => [u]
  | u :: v :: rest => u :: (if isHigh u && isLow v then firstUnits rest else firstUnits (v :: rest))

def byteUnit (byte : UInt8) : UInt16 := UInt16.ofNat byte.toNat

def unitByte (u : UInt16) : UInt8 := UInt8.ofNat (u.toNat &&& 0xff)

def decodePairs : List UInt8 → Text
  | low :: high :: rest => UInt16.ofNat (low.toNat ||| (high.toNat <<< 8)) :: decodePairs rest
  | _ => []

/-- `__decodeBuffer`. -/
def decodeBuffer (bytes : List UInt8) (encoding : String) : Except Thrown Text :=
  match normalizeEncoding encoding with
  | .error thrown => .error thrown
  | .ok .utf8 =>
    if isUtf8 bytes then decodeURIComponent (escape (bytes.map byteUnit))
    else .error (.typeError "Input is not valid UTF-8.")
  | .ok .utf16le => .ok (decodePairs bytes)
  | .ok .latin1 => .ok (bytes.map byteUnit)
  | .ok .ascii => .ok (bytes.map fun byte => byteUnit (byte &&& 0x7f))

/-- `__encodeBuffer`. -/
def encodeBuffer (text : Text) (encoding : String) : Except Thrown (List UInt8) :=
  match normalizeEncoding encoding with
  | .error thrown => .error thrown
  | .ok .utf8 =>
    (encodeURIComponent text).map fun component => (firstUnits (unescape component)).map unitByte
  | .ok .utf16le =>
    .ok (text.flatMap fun u => [UInt8.ofNat (u.toNat &&& 0xff), UInt8.ofNat (u.toNat >>> 8)])
  | .ok .latin1 => .ok ((firstUnits text).map unitByte)
  | .ok .ascii => .ok ((firstUnits text).map fun u => UInt8.ofNat (u.toNat &&& 0x7f))

/-! ## The validator -/

section Validator

variable {first : UInt8} {rest left bytes : List UInt8}

theorem and_c0 {n : Nat} (h : n < 256) : n &&& 0xc0 = 0x80 ↔ 0x80 ≤ n ∧ n < 0xc0 := by
  have hall : ∀ i : Fin 256, (i.val &&& 0xc0 = 0x80) = (0x80 ≤ i.val ∧ i.val < 0xc0) := by
    decide +kernel
  exact iff_of_eq (hall ⟨n, h⟩)

theorem and_mask (n width : Nat) : n &&& (2 ^ width - 1) = n % 2 ^ width :=
  Nat.and_two_pow_sub_one_eq_mod n width

theorem shift_or (codePoint next : Nat) :
    (codePoint <<< 6) ||| (next &&& 0x3f) = codePoint * 0x40 + next % 0x40 := by
  have hmask : next &&& 0x3f = next % 0x40 := and_mask next 6
  have hsmall : next % 0x40 < 2 ^ 6 := Nat.mod_lt _ (by decide)
  rw [hmask, ← Nat.shiftLeft_add_eq_or_of_lt hsmall, Nat.shiftLeft_eq]

theorem continued_cons {codePoint : Nat} {next : UInt8}
    (h : 0x80 ≤ next.toNat ∧ next.toNat < 0xc0) :
    continued codePoint (next :: rest) =
      continued (codePoint * 0x40 + next.toNat % 0x40) rest := by
  rw [continued, if_neg (not_not.mpr ((and_c0 next.toNat_lt).mpr h)), shift_or]

theorem of_continued_cons {codePoint : Nat} {next : UInt8} {result : Nat}
    (h : continued codePoint (next :: rest) = some result) :
    0x80 ≤ next.toNat ∧ next.toNat < 0xc0 ∧
      continued (codePoint * 0x40 + next.toNat % 0x40) rest = some result := by
  by_cases hnext : 0x80 ≤ next.toNat ∧ next.toNat < 0xc0
  · rw [continued_cons hnext] at h
    exact ⟨hnext.1, hnext.2, h⟩
  · rw [continued, if_pos fun heq => hnext ((and_c0 next.toNat_lt).mp heq)] at h
    cases h

theorem leadByte_iff {n continuation minimum bits : Nat} :
    leadByte n = some (continuation, minimum, bits) ↔
      0xc2 ≤ n ∧ n ≤ 0xdf ∧ continuation = 1 ∧ minimum = 0x80 ∧ bits = n % 0x20 ∨
      0xe0 ≤ n ∧ n ≤ 0xef ∧ continuation = 2 ∧ minimum = 0x800 ∧ bits = n % 0x10 ∨
      0xf0 ≤ n ∧ n ≤ 0xf4 ∧ continuation = 3 ∧ minimum = 0x10000 ∧ bits = n % 0x08 := by
  have htwo : n &&& 0x1f = n % 0x20 := and_mask n 5
  have hthree : n &&& 0x0f = n % 0x10 := and_mask n 4
  have hfour : n &&& 0x07 = n % 0x08 := and_mask n 3
  unfold leadByte
  rw [htwo, hthree, hfour]
  split
  · simp only [Option.some.injEq, Prod.mk.injEq]
    omega
  · grind

theorem turn_iff_of_lead {continuation minimum bits : Nat} (hlarge : ¬ first.toNat ≤ 0x7f)
    (hlead : leadByte first.toNat = some (continuation, minimum, bits)) :
    turn first rest = some left ↔ ∃ others codePoint, rest = others ++ left ∧
      others.length = continuation ∧ continued bits others = some codePoint ∧
      minimum ≤ codePoint ∧ codePoint.isValidChar := by
  grind [turn, codePoint, Option.some.inj, List.take_append_drop, List.length_take]

theorem utf8_ofNat {v : Nat} (hvalid : v.isValidChar) (h : bytes.map UInt8.toNat =
    if v ≤ 0x7f then [v]
    else if v ≤ 0x7ff then [v / 0x40 + 0xc0, v % 0x40 + 0x80]
    else if v ≤ 0xffff then [v / 0x1000 + 0xe0, v / 0x40 % 0x40 + 0x80, v % 0x40 + 0x80]
    else
      [v / 0x40000 + 0xf0, v / 0x1000 % 0x40 + 0x80, v / 0x40 % 0x40 + 0x80, v % 0x40 + 0x80]) :
    String.utf8EncodeChar (Char.ofNat v) = bytes := by
  refine map_toNat_injective ((utf8_toNat _).trans ?_)
  rw [toNat_ofNat hvalid, h]

theorem exists_of_turn (h : turn first rest = some left) :
    ∃ c, first :: rest = String.utf8EncodeChar c ++ left := by
  by_cases hsmall : first.toNat ≤ 0x7f
  · rw [turn, if_pos hsmall] at h
    obtain rfl := Option.some.inj h
    have hvalid : first.toNat.isValidChar := by
      unfold Nat.isValidChar
      omega
    refine ⟨Char.ofNat first.toNat, ?_⟩
    rw [@utf8_ofNat [first] _ hvalid (by rw [if_pos hsmall]; rfl)]
    rfl
  · cases hlead : leadByte first.toNat with
    | none =>
      rw [turn, if_neg hsmall, hlead] at h
      cases h
    | some lead =>
      obtain ⟨continuation, minimum, bits⟩ := lead
      obtain ⟨others, codePoint, rfl, hlength, hcontinued, hminimum, hvalid⟩ :=
        (turn_iff_of_lead hsmall hlead).mp h
      refine ⟨Char.ofNat codePoint, ?_⟩
      rw [@utf8_ofNat (first :: others) _ hvalid ?_]
      · rfl
      unfold Nat.isValidChar at hvalid
      obtain ⟨hlow, hhigh, rfl, rfl, rfl⟩ | ⟨hlow, hhigh, rfl, rfl, rfl⟩ |
        ⟨hlow, hhigh, rfl, rfl, rfl⟩ := leadByte_iff.mp hlead
      · match others, hlength with
        | [a], _ =>
          obtain ⟨ha, ha', hvalue⟩ := of_continued_cons hcontinued
          obtain rfl := Option.some.inj hvalue
          rw [if_neg (by omega), if_pos (by omega)]
          simp only [List.map_cons, List.map_nil, List.cons.injEq, and_true]
          omega
      · match others, hlength with
        | [a, b], _ =>
          obtain ⟨ha, ha', hcontinued⟩ := of_continued_cons hcontinued
          obtain ⟨hb, hb', hvalue⟩ := of_continued_cons hcontinued
          obtain rfl := Option.some.inj hvalue
          rw [if_neg (by omega), if_neg (by omega), if_pos (by omega)]
          simp only [List.map_cons, List.map_nil, List.cons.injEq, and_true]
          omega
      · match others, hlength with
        | [a, b, d], _ =>
          obtain ⟨ha, ha', hcontinued⟩ := of_continued_cons hcontinued
          obtain ⟨hb, hb', hcontinued⟩ := of_continued_cons hcontinued
          obtain ⟨hd, hd', hvalue⟩ := of_continued_cons hcontinued
          obtain rfl := Option.some.inj hvalue
          rw [if_neg (by omega), if_neg (by omega), if_neg (by omega)]
          simp only [List.map_cons, List.map_nil, List.cons.injEq, and_true]
          omega

theorem turn_of_utf8 {c : Char} (h : first :: rest = String.utf8EncodeChar c ++ left) :
    turn first rest = some left := by
  have hvalid := isValidChar_toNat c
  obtain ⟨a, heq, hone, ha⟩ | ⟨a, b, heq, hbig, hsmall, ha, hb⟩ |
    ⟨a, b, d, heq, hbig, hsmall, ha, hb, hd⟩ | ⟨a, b, d, e, heq, hbig, ha, hb, hd, he⟩ :=
      utf8_cases c
  · rw [heq] at h
    obtain ⟨rfl, rfl⟩ := List.cons.inj h
    exact if_pos (by omega)
  · rw [heq] at h
    obtain ⟨rfl, rfl⟩ := List.cons.inj h
    have hlead : leadByte first.toNat = some (1, 0x80, first.toNat % 0x20) :=
      leadByte_iff.mpr (by omega)
    refine (turn_iff_of_lead (by omega) hlead).mpr ⟨[b], c.toNat, rfl, rfl, ?_, by omega, hvalid⟩
    rw [continued_cons (by omega), continued]
    congr 1
    omega
  · rw [heq] at h
    obtain ⟨rfl, rfl⟩ := List.cons.inj h
    have hlead : leadByte first.toNat = some (2, 0x800, first.toNat % 0x10) :=
      leadByte_iff.mpr (by omega)
    refine (turn_iff_of_lead (by omega) hlead).mpr
      ⟨[b, d], c.toNat, rfl, rfl, ?_, by omega, hvalid⟩
    rw [continued_cons (by omega), continued_cons (by omega), continued]
    congr 1
    omega
  · rw [heq] at h
    obtain ⟨rfl, rfl⟩ := List.cons.inj h
    have hbound : c.toNat < 0x110000 := by
      unfold Nat.isValidChar at hvalid
      omega
    have hlead : leadByte first.toNat = some (3, 0x10000, first.toNat % 0x08) :=
      leadByte_iff.mpr (by omega)
    refine (turn_iff_of_lead (by omega) hlead).mpr
      ⟨[b, d, e], c.toNat, rfl, rfl, ?_, by omega, hvalid⟩
    rw [continued_cons (by omega), continued_cons (by omega), continued_cons (by omega), continued]
    congr 1
    omega

theorem turn_iff : turn first rest = some left ↔
    ∃ c, first :: rest = String.utf8EncodeChar c ++ left :=
  ⟨exists_of_turn, fun ⟨_, h⟩ => turn_of_utf8 h⟩

/-- **The validator** accepts well-formed UTF-8 and nothing else. -/
theorem isUtf8_iff (bytes : List UInt8) : isUtf8 bytes = true ↔ WellFormed bytes := by
  induction bytes using isUtf8.induct with
  | case1 => exact iff_of_true (by rw [isUtf8]) wellFormed_nil
  | case2 first rest hturn =>
    rw [isUtf8, hturn, wellFormed_iff (List.cons_ne_nil _ _)]
    refine iff_of_false Bool.false_ne_true ?_
    rintro ⟨c, left, heq, -⟩
    rw [turn_iff.mpr ⟨c, heq⟩] at hturn
    cases hturn
  | case3 first rest left hturn ih =>
    rw [isUtf8, hturn, wellFormed_iff (List.cons_ne_nil _ _)]
    dsimp only
    rw [ih]
    constructor
    · intro hleft
      obtain ⟨c, heq⟩ := turn_iff.mp hturn
      exact ⟨c, left, heq, hleft⟩
    · rintro ⟨c, other, heq, hother⟩
      have hsame := turn_iff.mpr ⟨c, heq⟩
      rw [hturn] at hsame
      obtain rfl := Option.some.inj hsame
      exact hother

end Validator

/-! ## Percent forms read back -/

section Percent

variable {n : Nat} {u : UInt16} {c : Char} {rest text : Text} {bytes : List UInt8}

theorem toNat_byteUnit (byte : UInt8) : (byteUnit byte).toNat = byte.toNat := by
  have hbound := byte.toNat_lt
  rw [byteUnit, UInt16.toNat_ofNat']
  omega

theorem unitByte_byteUnit (byte : UInt8) : unitByte (byteUnit byte) = byte := by
  have hmask : byte.toNat &&& 0xff = byte.toNat % 0x100 := and_mask byte.toNat 8
  have hbound := byte.toNat_lt
  rw [unitByte, toNat_byteUnit, hmask, Nat.mod_eq_of_lt (by omega), UInt8.ofNat_toNat]

theorem hexPair_percent (h : n < 256) :
    hexPair (hexUnit (n / 16)) (hexUnit (n % 16)) = some n ∧ hexUnit (n / 16) ≠ unit 'u' := by
  have hdigit : ∀ i : Fin 16, hexValue (hexUnit i.val) = some i.val ∧ hexUnit i.val ≠ unit 'u' := by
    decide
  obtain ⟨hhigh, hne⟩ := hdigit ⟨n / 16, by omega⟩
  obtain ⟨hlow, -⟩ := hdigit ⟨n % 16, by omega⟩
  have hsum : 16 * (n / 16) + n % 16 = n := by omega
  dsimp only at hhigh hlow hne
  refine ⟨?_, hne⟩
  rw [hexPair, hhigh, hlow, Option.bind_some, Option.map_some, hsum]

theorem unescape_percent (h : n < 256) :
    unescape (percent n ++ rest) = UInt16.ofNat n :: unescape rest := by
  obtain ⟨hpair, hne⟩ := hexPair_percent h
  have hat : unescapeAt (unit '%' :: hexUnit (n / 16) :: hexUnit (n % 16) :: rest) =
      some (UInt16.ofNat n, rest) := by
    simp [unescapeAt, hne, hpair]
  rw [percent, List.cons_append, List.cons_append, List.cons_append, List.nil_append, unescape, hat]

theorem unescape_unit (h : u ≠ unit '%') : unescape (u :: rest) = u :: unescape rest := by
  have hat : unescapeAt (u :: rest) = none := by simp [unescapeAt, h]
  rw [unescape, hat]

theorem octetAt_percent (h : n < 256) :
    octetAt (percent n ++ rest) = some (UInt8.ofNat n, rest) := by
  obtain ⟨hpair, -⟩ := hexPair_percent h
  simp [percent, octetAt, hpair]

theorem octets_percent : octets bytes.length ((bytes.flatMap fun b => percent b.toNat) ++ rest) =
    some (bytes, rest) := by
  induction bytes with
  | nil => rfl
  | cons byte bytes ih =>
    rw [List.flatMap_cons, List.append_assoc, List.length_cons, octets,
      octetAt_percent byte.toNat_lt, Option.bind_some]
    dsimp only
    rw [ih, UInt8.ofNat_toNat]
    rfl

/-! ## UTF-8 -/

theorem of_unreserved (h : unreserved c = true) : c.toNat < 128 ∧ unit c ≠ unit '%' := by
  unfold unreserved at h
  rw [Bool.or_eq_true, Bool.and_eq_true, decide_eq_true_eq] at h
  obtain ⟨hascii, hletter⟩ | hmark := h
  · refine ⟨hascii, fun heq => ?_⟩
    have hsign : isAlphanumeric (unit '%') = false := by decide
    rw [heq, hsign] at hletter
    cases hletter
  · have hall : ("-_.!~*'()".toList.all fun mark =>
        decide (mark.toNat < 128 ∧ unit mark ≠ unit '%')) = true := by
      decide
    exact of_decide_eq_true (List.all_eq_true.mp hall c (by simpa using hmark))

theorem utf8_of_ascii (h : c.toNat < 128) :
    (String.utf8EncodeChar c).map byteUnit = [unit c] ∧ utf16 c = [unit c] := by
  refine ⟨?_, if_pos (by omega)⟩
  obtain ⟨a, heq, -, ha⟩ | ⟨a, b, -, hbig, -⟩ | ⟨a, b, d, -, hbig, -⟩ | ⟨a, b, d, e, -, hbig, -⟩ :=
    utf8_cases c
  · rw [heq, List.map_singleton, byteUnit, unit, ha]
  all_goals omega

theorem unescape_component (cs : List Char) : unescape (cs.flatMap fun c =>
      if unreserved c then utf16 c
      else (String.utf8EncodeChar c).flatMap fun byte => percent byte.toNat) =
    (cs.flatMap String.utf8EncodeChar).map byteUnit := by
  have hpercent : ∀ (bytes : List UInt8) (rest : Text),
      unescape ((bytes.flatMap fun byte => percent byte.toNat) ++ rest) =
        bytes.map byteUnit ++ unescape rest := by
    intro bytes rest
    induction bytes with
    | nil => rfl
    | cons byte bytes ih =>
      rw [List.flatMap_cons, List.append_assoc, unescape_percent byte.toNat_lt, ih]
      rfl
  induction cs with
  | nil => rw [List.flatMap_nil, unescape]; rfl
  | cons c cs ih =>
    rw [List.flatMap_cons, List.flatMap_cons, List.map_append]
    split
    · next hplain =>
      obtain ⟨hascii, hsign⟩ := of_unreserved hplain
      obtain ⟨hbytes, hunits⟩ := utf8_of_ascii hascii
      rw [hunits, hbytes, List.singleton_append, unescape_unit hsign, ih]
      rfl
    · rw [hpercent, ih]

theorem firstUnits_bytes (bytes : List UInt8) :
    firstUnits (bytes.map byteUnit) = bytes.map byteUnit := by
  induction bytes with
  | nil => rfl
  | cons byte bytes ih =>
    cases bytes with
    | nil => rfl
    | cons next bytes =>
      have hplain : isHigh (byteUnit byte) = false := by
        have hbound := byte.toNat_lt
        rw [← Bool.not_eq_true, isHigh_iff, toNat_byteUnit]
        omega
      rw [List.map_cons] at ih ⊢
      rw [List.map_cons, firstUnits, hplain, Bool.false_and, if_neg Bool.false_ne_true, ih]

theorem encodeBuffer_utf8 {encoding : String} (hutf8 : normalizeEncoding encoding = .ok .utf8)
    (cs : List Char) :
    encodeBuffer (cs.flatMap utf16) encoding = .ok (cs.flatMap String.utf8EncodeChar) := by
  have hbytes : ∀ bytes : List UInt8, (bytes.map byteUnit).map unitByte = bytes := by
    intro bytes
    rw [List.map_map]
    exact (List.map_congr_left fun byte _ => unitByte_byteUnit byte).trans (List.map_id bytes)
  rw [encodeBuffer, hutf8]
  dsimp only
  rw [encodeURIComponent, codePoints_flatMap]
  refine congrArg Except.ok ?_
  dsimp only
  rw [unescape_component, firstUnits_bytes, hbytes]

theorem following_head {a : UInt8} {others : List UInt8}
    (h : String.utf8EncodeChar c = a :: others) : following a = some others.length := by
  have hvalid := isValidChar_toNat c
  unfold Nat.isValidChar at hvalid
  unfold following
  obtain ⟨a', heq, hone, ha⟩ | ⟨a', b, heq, hbig, hsmall, ha, hb⟩ |
    ⟨a', b, d, heq, hbig, hsmall, ha, hb, hd⟩ | ⟨a', b, d, e, heq, hbig, ha, hb, hd, he⟩ :=
      utf8_cases c
  · obtain ⟨rfl, rfl⟩ := List.cons.inj (h.symm.trans heq)
    exact if_pos (by omega)
  · obtain ⟨rfl, rfl⟩ := List.cons.inj (h.symm.trans heq)
    rw [if_neg (by omega), if_neg (by omega), if_pos (by omega)]
    rfl
  · obtain ⟨rfl, rfl⟩ := List.cons.inj (h.symm.trans heq)
    rw [if_neg (by omega), if_neg (by omega), if_neg (by omega), if_pos (by omega)]
    rfl
  · grind

theorem decodeURIComponent_percent :
    decodeURIComponent (((String.utf8EncodeChar c).flatMap fun b => percent b.toNat) ++ rest) =
      (decodeURIComponent rest).map (utf16 c ++ ·) := by
  have hhead : ∃ a others, String.utf8EncodeChar c = a :: others := by
    obtain ⟨a, heq, -⟩ | ⟨a, b, heq, -⟩ | ⟨a, b, d, heq, -⟩ | ⟨a, b, d, e, heq, -⟩ := utf8_cases c
    all_goals exact ⟨_, _, heq⟩
  obtain ⟨a, others, hbytes⟩ := hhead
  have hat : componentAt (percent a.toNat ++
      ((others.flatMap fun b => percent b.toNat) ++ rest)) = some (c, rest) := by
    rw [componentAt, octetAt_percent a.toNat_lt, Option.bind_some, UInt8.ofNat_toNat]
    dsimp only
    rw [following_head hbytes, Option.bind_some, octets_percent, Option.bind_some]
    dsimp only
    rw [scalar_iff.mpr hbytes]
    rfl
  rw [hbytes, List.flatMap_cons, List.append_assoc]
  rw [percent, List.cons_append] at hat ⊢
  rw [decodeURIComponent, if_neg (not_not.mpr rfl), hat]

theorem decodeURIComponent_unit (h : u ≠ unit '%') :
    decodeURIComponent (u :: rest) = (decodeURIComponent rest).map (u :: ·) := by
  rw [decodeURIComponent, if_pos h]

theorem of_plainInEscape (h : plainInEscape u = true) : u.toNat < 128 ∧ u ≠ unit '%' := by
  unfold plainInEscape at h
  rw [Bool.or_eq_true] at h
  obtain hletter | hmark := h
  · have hsign : isAlphanumeric (unit '%') = false := by decide
    refine ⟨?_, fun heq => ?_⟩
    · simp only [isAlphanumeric, Bool.or_eq_true, Bool.and_eq_true, decide_eq_true_eq] at hletter
      omega
    · rw [heq, hsign] at hletter
      cases hletter
  · have hall : ("@*_+-./".toList.all fun mark =>
        decide ((unit mark).toNat < 128 ∧ unit mark ≠ unit '%')) = true := by
      decide
    obtain ⟨mark, hmem, heq⟩ := List.any_eq_true.mp hmark
    obtain rfl := of_decide_eq_true heq
    exact of_decide_eq_true (List.all_eq_true.mp hall mark hmem)

theorem escape_bytes (bytes : List UInt8) : escape (bytes.map byteUnit) =
    bytes.flatMap fun b =>
      if plainInEscape (byteUnit b) then [byteUnit b] else percent b.toNat := by
  unfold escape
  rw [List.flatMap_map]
  refine List.flatMap_congr fun byte _ => ?_
  rw [toNat_byteUnit, if_pos byte.toNat_lt]

theorem decodeURIComponent_escape_char :
    decodeURIComponent (escape ((String.utf8EncodeChar c).map byteUnit) ++ rest) =
      (decodeURIComponent rest).map (utf16 c ++ ·) := by
  rw [escape_bytes]
  by_cases hascii : c.toNat < 128
  · obtain ⟨hbytes, hunits⟩ := utf8_of_ascii hascii
    obtain ⟨a, heq, hunit⟩ := List.map_eq_singleton_iff.mp hbytes
    by_cases hplain : plainInEscape (byteUnit a) = true
    · rw [heq, List.flatMap_singleton, if_pos hplain, List.singleton_append,
        decodeURIComponent_unit (of_plainInEscape hplain).2, hunits, hunit]
      rfl
    · have hpercent := @decodeURIComponent_percent c rest
      rw [heq, List.flatMap_singleton] at hpercent ⊢
      rwa [if_neg hplain]
  · have hlarge : ∀ byte ∈ String.utf8EncodeChar c, 0x80 ≤ byte.toNat := by
      intro byte hbyte
      obtain ⟨a, heq, hone, ha⟩ | ⟨a, b, heq, hbig, hsmall, ha, hb⟩ |
        ⟨a, b, d, heq, hbig, hsmall, ha, hb, hd⟩ | ⟨a, b, d, e, heq, hbig, ha, hb, hd, he⟩ :=
          utf8_cases c
      all_goals
        rw [heq] at hbyte
        simp only [List.mem_cons, List.not_mem_nil, or_false] at hbyte
      · omega
      · obtain rfl | rfl := hbyte <;> omega
      · obtain rfl | rfl | rfl := hbyte <;> omega
      · obtain rfl | rfl | rfl | rfl := hbyte <;> omega
    have hnone : (String.utf8EncodeChar c).flatMap (fun b =>
          if plainInEscape (byteUnit b) then [byteUnit b] else percent b.toNat) =
        (String.utf8EncodeChar c).flatMap fun b => percent b.toNat := by
      refine List.flatMap_congr fun byte hbyte => if_neg fun hplain => ?_
      have hsmall := (of_plainInEscape hplain).1
      rw [toNat_byteUnit] at hsmall
      exact absurd (hlarge byte hbyte) (Nat.not_le.mpr hsmall)
    rw [hnone, decodeURIComponent_percent]

theorem decodeBuffer_utf8 {encoding : String} (hutf8 : normalizeEncoding encoding = .ok .utf8)
    (cs : List Char) :
    decodeBuffer (cs.flatMap String.utf8EncodeChar) encoding = .ok (cs.flatMap utf16) := by
  have hdecode : ∀ cs : List Char,
      decodeURIComponent (escape ((cs.flatMap String.utf8EncodeChar).map byteUnit)) =
        .ok (cs.flatMap utf16) := by
    intro cs
    induction cs with
    | nil =>
      show decodeURIComponent [] = _
      rw [decodeURIComponent]
      rfl
    | cons c cs ih =>
      have happend : ∀ a b : Text, escape (a ++ b) = escape a ++ escape b :=
        fun _ _ => List.flatMap_append
      rw [List.flatMap_cons, List.map_append, happend, decodeURIComponent_escape_char, ih]
      rfl
  rw [decodeBuffer, hutf8]
  dsimp only
  rw [if_pos ((isUtf8_iff _).mpr ⟨cs, rfl⟩), hdecode]

end Percent

/-! ## UTF-16 -/

theorem decodePairs_encode (text : Text) : decodePairs (text.flatMap fun u =>
    [UInt8.ofNat (u.toNat &&& 0xff), UInt8.ofNat (u.toNat >>> 8)]) = text := by
  induction text with
  | nil => rfl
  | cons u text ih =>
    have hbound := u.toNat_lt
    have hmask : u.toNat &&& 0xff = u.toNat % 0x100 := and_mask u.toNat 8
    have hshift : u.toNat >>> 8 = u.toNat / 0x100 := Nat.shiftRight_eq_div_pow _ _
    have hlow : (UInt8.ofNat (u.toNat % 0x100)).toNat = u.toNat % 0x100 := by
      rw [UInt8.toNat_ofNat']
      omega
    have hhigh : (UInt8.ofNat (u.toNat / 0x100)).toNat = u.toNat / 0x100 := by
      rw [UInt8.toNat_ofNat']
      omega
    have hvalue : u.toNat % 0x100 ||| ((u.toNat / 0x100) <<< 8) = u.toNat := by
      grind [Nat.mod_lt, Nat.shiftLeft_add_eq_or_of_lt, Nat.shiftLeft_eq]
    rw [List.flatMap_cons, hmask, hshift, List.cons_append, List.cons_append, List.nil_append,
      decodePairs, ih, hlow, hhigh, hvalue, UInt16.ofNat_toNat]

/-- **Buffers.**  The validator accepts exactly the well-formed UTF-8; a text without a lone
surrogate comes back from UTF-8, and every text from UTF-16. -/
theorem buffers_roundTrip :
    (∀ bytes, isUtf8 bytes = true ↔ WellFormed bytes) ∧
    (∀ encoding text, normalizeEncoding encoding = .ok .utf8 → paired text = true →
      (encodeBuffer text encoding >>= (decodeBuffer · encoding)) = .ok text) ∧
    (∀ encoding text, normalizeEncoding encoding = .ok .utf16le →
      (encodeBuffer text encoding >>= (decodeBuffer · encoding)) = .ok text) := by
  refine ⟨isUtf8_iff, fun encoding text hutf8 hpaired => ?_, fun encoding text hutf16 => ?_⟩
  · obtain ⟨cs, rfl⟩ := exists_of_paired hpaired
    exact bind_eq_ok_iff.mpr ⟨_, encodeBuffer_utf8 hutf8 cs, decodeBuffer_utf8 hutf8 cs⟩
  · have hencode : encodeBuffer text encoding = .ok (text.flatMap fun u =>
        [UInt8.ofNat (u.toNat &&& 0xff), UInt8.ofNat (u.toNat >>> 8)]) := by
      rw [encodeBuffer, hutf16]
    refine bind_eq_ok_iff.mpr ⟨_, hencode, ?_⟩
    rw [decodeBuffer, hutf16]
    exact congrArg Except.ok (decodePairs_encode text)

/-- A letter and an emoji come back from UTF-8. -/
theorem roundTrip_emoji :
    (encodeBuffer [0x61, 0xd83d, 0xde00] "UTF-8" >>= (decodeBuffer · "UTF-8")) =
      .ok [0x61, 0xd83d, 0xde00] :=
  buffers_roundTrip.2.1 "UTF-8" _ (by decide) (by decide)

end Rhythm.Scripts.Buffers
