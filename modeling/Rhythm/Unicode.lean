import Mathlib.Data.List.Basic

/-!
# Rhythm.Unicode

The encodings of texts as UTF-16 code units and as UTF-8 bytes, beside the characters that Lean
has.  This module names nothing of the component.

* `codePoints_flatMap` and `flatMap_of_codePoints` — UTF-16 is read back, and nothing else is read;
* `isSome_codePoints` — a text can be read exactly if it has no lone surrogate;
* `scalar_iff` — the bytes of one character, from its bits.
-/

namespace Rhythm.Unicode

theorem toNat_ofNat {v : Nat} (h : v.isValidChar) : (Char.ofNat v).toNat = v := by
  rw [Char.ofNat, dif_pos h]
  rfl

theorem isValidChar_toNat (c : Char) : c.toNat.isValidChar := c.valid

/-! ## UTF-16 -/

def isHigh (u : UInt16) : Bool := 0xd800 ≤ u.toNat && u.toNat < 0xdc00

def isLow (u : UInt16) : Bool := 0xdc00 ≤ u.toNat && u.toNat < 0xe000

def utf16 (c : Char) : List UInt16 :=
  if c.toNat < 0x10000 then [UInt16.ofNat c.toNat]
  else
    [UInt16.ofNat (0xd800 + (c.toNat - 0x10000) / 0x400),
      UInt16.ofNat (0xdc00 + (c.toNat - 0x10000) % 0x400)]

def joined (high low : UInt16) : Char :=
  Char.ofNat (0x10000 + (high.toNat - 0xd800) * 0x400 + (low.toNat - 0xdc00))

/-- The characters of a text; none if there is a lone surrogate. -/
def codePoints : List UInt16 → Option (List Char)
  | [] => some []
  | [u] => if isHigh u || isLow u then none else some [Char.ofNat u.toNat]
  | u :: v :: rest =>
    if isHigh u then
      if isLow v then (codePoints rest).map (joined u v :: ·) else none
    else if isLow u then none
    else (codePoints (v :: rest)).map (Char.ofNat u.toNat :: ·)

def paired : List UInt16 → Bool
  | [] => true
  | [u] => !(isHigh u || isLow u)
  | u :: v :: rest =>
    if isHigh u then isLow v && paired rest else !isLow u && paired (v :: rest)

section Utf16

variable {u v : UInt16} {rest text : List UInt16} {cs : List Char} {c : Char}

theorem isHigh_iff : isHigh u = true ↔ 0xd800 ≤ u.toNat ∧ u.toNat < 0xdc00 := by simp [isHigh]

theorem isLow_iff : isLow u = true ↔ 0xdc00 ≤ u.toNat ∧ u.toNat < 0xe000 := by simp [isLow]

theorem isSome_codePoints : (codePoints text).isSome = paired text := by
  induction text using codePoints.induct with
  | case1 => rfl
  | case2 u h | case3 u h => simp [codePoints, paired, h]
  | case4 u v rest hu hv ih => simp [codePoints, paired, hu, hv, ih]
  | case5 u v rest hu hv => simp [codePoints, paired, hu, hv]
  | case6 u v rest hu hlow => simp [codePoints, paired, hu, hlow]
  | case7 u v rest hu hlow ih => simp [codePoints, paired, hu, hlow, ih]

theorem codePoints_unit (hhigh : isHigh u = false) (hlow : isLow u = false) :
    codePoints (u :: rest) = (codePoints rest).map (Char.ofNat u.toNat :: ·) := by
  cases rest with
  | nil | cons v rest => simp [codePoints, hhigh, hlow]

theorem codePoints_pair (hhigh : isHigh u = true) (hlow : isLow v = true) :
    codePoints (u :: v :: rest) = (codePoints rest).map (joined u v :: ·) := by
  simp [codePoints, hhigh, hlow]

theorem codePoints_utf16 : codePoints (utf16 c ++ rest) = (codePoints rest).map (c :: ·) := by
  have hvalid := isValidChar_toNat c
  unfold Nat.isValidChar at hvalid
  unfold utf16
  split
  · next hsmall =>
    have hnat : (UInt16.ofNat c.toNat).toNat = c.toNat := by
      rw [UInt16.toNat_ofNat']
      omega
    have hhigh : isHigh (UInt16.ofNat c.toNat) = false := by
      rw [← Bool.not_eq_true, isHigh_iff, hnat]
      omega
    have hlow : isLow (UInt16.ofNat c.toNat) = false := by
      rw [← Bool.not_eq_true, isLow_iff, hnat]
      omega
    rw [List.singleton_append, codePoints_unit hhigh hlow, hnat, Char.ofNat_toNat]
  · next hlarge =>
    have hfirst : (UInt16.ofNat (0xd800 + (c.toNat - 0x10000) / 0x400)).toNat =
        0xd800 + (c.toNat - 0x10000) / 0x400 := by
      rw [UInt16.toNat_ofNat']
      omega
    have hsecond : (UInt16.ofNat (0xdc00 + (c.toNat - 0x10000) % 0x400)).toNat =
        0xdc00 + (c.toNat - 0x10000) % 0x400 := by
      rw [UInt16.toNat_ofNat']
      omega
    have hjoined : joined (UInt16.ofNat (0xd800 + (c.toNat - 0x10000) / 0x400))
        (UInt16.ofNat (0xdc00 + (c.toNat - 0x10000) % 0x400)) = c := by
      have hvalue : 0x10000 + (0xd800 + (c.toNat - 0x10000) / 0x400 - 0xd800) * 0x400 +
          (0xdc00 + (c.toNat - 0x10000) % 0x400 - 0xdc00) = c.toNat := by
        omega
      rw [joined, hfirst, hsecond, hvalue, Char.ofNat_toNat]
    have hhigh : isHigh (UInt16.ofNat (0xd800 + (c.toNat - 0x10000) / 0x400)) = true := by
      rw [isHigh_iff, hfirst]
      omega
    have hlow : isLow (UInt16.ofNat (0xdc00 + (c.toNat - 0x10000) % 0x400)) = true := by
      rw [isLow_iff, hsecond]
      omega
    rw [List.cons_append, List.singleton_append, codePoints_pair hhigh hlow, hjoined]

/-- **UTF-16 is read back.** -/
theorem codePoints_flatMap : codePoints (cs.flatMap utf16) = some cs := by
  induction cs with
  | nil => rfl
  | cons c cs ih => rw [List.flatMap_cons, codePoints_utf16, ih, Option.map_some]

theorem utf16_ofNat (hhigh : isHigh u = false) (hlow : isLow u = false) :
    utf16 (Char.ofNat u.toNat) = [u] := by
  rw [← Bool.not_eq_true, isHigh_iff] at hhigh
  rw [← Bool.not_eq_true, isLow_iff] at hlow
  have hbound := u.toNat_lt
  have hvalid : u.toNat.isValidChar := by
    unfold Nat.isValidChar
    omega
  rw [utf16, toNat_ofNat hvalid, if_pos (by omega), UInt16.ofNat_toNat]

theorem utf16_joined (hhigh : isHigh u = true) (hlow : isLow v = true) :
    utf16 (joined u v) = [u, v] := by
  rw [isHigh_iff] at hhigh
  rw [isLow_iff] at hlow
  have hvalid : (0x10000 + (u.toNat - 0xd800) * 0x400 + (v.toNat - 0xdc00)).isValidChar := by
    unfold Nat.isValidChar
    omega
  have hfirst : 0xd800 + (0x10000 + (u.toNat - 0xd800) * 0x400 + (v.toNat - 0xdc00) - 0x10000) /
      0x400 = u.toNat := by
    omega
  have hsecond : 0xdc00 + (0x10000 + (u.toNat - 0xd800) * 0x400 + (v.toNat - 0xdc00) - 0x10000) %
      0x400 = v.toNat := by
    omega
  rw [utf16, joined, toNat_ofNat hvalid, if_neg (by omega), hfirst, hsecond, UInt16.ofNat_toNat,
    UInt16.ofNat_toNat]

/-- **Nothing else is read.** -/
theorem flatMap_of_codePoints (h : codePoints text = some cs) : cs.flatMap utf16 = text := by
  induction text using codePoints.induct generalizing cs with
  | case1 =>
    obtain rfl := Option.some.inj h
    rfl
  | case2 u hsurrogate => simp [codePoints, hsurrogate] at h
  | case3 u hplain =>
    rw [Bool.not_eq_true, Bool.or_eq_false_iff] at hplain
    rw [codePoints_unit hplain.1 hplain.2] at h
    obtain rfl := Option.some.inj h
    rw [List.flatMap_singleton, utf16_ofNat hplain.1 hplain.2]
  | case4 u v rest hu hv ih =>
    rw [codePoints_pair hu hv] at h
    obtain ⟨others, hothers, rfl⟩ := Option.map_eq_some_iff.mp h
    rw [List.flatMap_cons, utf16_joined hu hv, ih hothers]
    rfl
  | case5 u v rest hu hv => simp [codePoints, hu, hv] at h
  | case6 u v rest hu hlow => simp [codePoints, hu, hlow] at h
  | case7 u v rest hu hlow ih =>
    rw [Bool.not_eq_true] at hu hlow
    rw [codePoints_unit hu hlow] at h
    obtain ⟨others, hothers, rfl⟩ := Option.map_eq_some_iff.mp h
    rw [List.flatMap_cons, utf16_ofNat hu hlow, ih hothers]
    rfl

theorem exists_of_paired (h : paired text = true) : ∃ cs : List Char, text = cs.flatMap utf16 := by
  rw [← isSome_codePoints, Option.isSome_iff_exists] at h
  obtain ⟨cs, hcs⟩ := h
  exact ⟨cs, (flatMap_of_codePoints hcs).symm⟩

end Utf16

/-! ## UTF-8 -/

/-- Bytes that are the encoding of some characters: no overlong form, no surrogate, nothing above
the last code point and nothing cut off. -/
def WellFormed (bytes : List UInt8) : Prop :=
  ∃ cs : List Char, bytes = cs.flatMap String.utf8EncodeChar

def codePoint : List Nat → Nat
  | [a] => a
  | [a, b] => a % 0x20 * 0x40 + b % 0x40
  | [a, b, c] => (a % 0x10 * 0x40 + b % 0x40) * 0x40 + c % 0x40
  | [a, b, c, d] => ((a % 0x08 * 0x40 + b % 0x40) * 0x40 + c % 0x40) * 0x40 + d % 0x40
  | _ => 0

def scalar (bytes : List UInt8) : Option Char :=
  let c := Char.ofNat (codePoint (bytes.map UInt8.toNat))
  if String.utf8EncodeChar c = bytes then some c else none

section Utf8

variable {bytes rest : List UInt8} {c : Char}

theorem map_toNat_injective {a b : List UInt8} (h : a.map UInt8.toNat = b.map UInt8.toNat) :
    a = b :=
  List.map_injective_iff.mpr (fun _ _ => UInt8.toNat_inj.mp) h

theorem utf8_toNat (c : Char) : (String.utf8EncodeChar c).map UInt8.toNat =
    if c.toNat ≤ 0x7f then [c.toNat]
    else if c.toNat ≤ 0x7ff then [c.toNat / 0x40 + 0xc0, c.toNat % 0x40 + 0x80]
    else if c.toNat ≤ 0xffff then
      [c.toNat / 0x1000 + 0xe0, c.toNat / 0x40 % 0x40 + 0x80, c.toNat % 0x40 + 0x80]
    else
      [c.toNat / 0x40000 + 0xf0, c.toNat / 0x1000 % 0x40 + 0x80, c.toNat / 0x40 % 0x40 + 0x80,
        c.toNat % 0x40 + 0x80] := by
  have hvalid := isValidChar_toNat c
  unfold Nat.isValidChar at hvalid
  have hval : c.val.toNat = c.toNat := rfl
  unfold String.utf8EncodeChar
  dsimp only
  rw [hval]
  split
  · simp only [List.map_cons, List.map_nil, UInt8.toNat_ofNat', List.cons.injEq, and_true]
    omega
  · split
    · simp only [List.map_cons, List.map_nil, UInt8.toNat_ofNat', List.cons.injEq, and_true]
      omega
    · split
      · simp only [List.map_cons, List.map_nil, UInt8.toNat_ofNat', List.cons.injEq, and_true]
        omega
      · simp only [List.map_cons, List.map_nil, UInt8.toNat_ofNat', List.cons.injEq, and_true]
        omega

theorem utf8_cases (c : Char) :
    (∃ a, String.utf8EncodeChar c = [a] ∧ c.toNat ≤ 0x7f ∧ a.toNat = c.toNat) ∨
    (∃ a b, String.utf8EncodeChar c = [a, b] ∧ 0x7f < c.toNat ∧ c.toNat ≤ 0x7ff ∧
      a.toNat = c.toNat / 0x40 + 0xc0 ∧ b.toNat = c.toNat % 0x40 + 0x80) ∨
    (∃ a b d, String.utf8EncodeChar c = [a, b, d] ∧ 0x7ff < c.toNat ∧ c.toNat ≤ 0xffff ∧
      a.toNat = c.toNat / 0x1000 + 0xe0 ∧ b.toNat = c.toNat / 0x40 % 0x40 + 0x80 ∧
      d.toNat = c.toNat % 0x40 + 0x80) ∨
    ∃ a b d e, String.utf8EncodeChar c = [a, b, d, e] ∧ 0xffff < c.toNat ∧
      a.toNat = c.toNat / 0x40000 + 0xf0 ∧ b.toNat = c.toNat / 0x1000 % 0x40 + 0x80 ∧
      d.toNat = c.toNat / 0x40 % 0x40 + 0x80 ∧ e.toNat = c.toNat % 0x40 + 0x80 := by
  have hbytes := utf8_toNat c
  split at hbytes
  · next hone =>
    obtain ⟨a, _, heq, ha, hnil⟩ := List.map_eq_cons_iff.mp hbytes
    obtain rfl := List.map_eq_nil_iff.mp hnil
    exact .inl ⟨a, heq, hone, ha⟩
  · next hone =>
    split at hbytes
    · next htwo =>
      obtain ⟨a, _, heq, ha, hrest⟩ := List.map_eq_cons_iff.mp hbytes
      obtain ⟨b, _, rfl, hb, hnil⟩ := List.map_eq_cons_iff.mp hrest
      obtain rfl := List.map_eq_nil_iff.mp hnil
      exact .inr (.inl ⟨a, b, heq, Nat.not_le.mp hone, htwo, ha, hb⟩)
    · next htwo =>
      split at hbytes
      · next hthree =>
        obtain ⟨a, _, heq, ha, hrest⟩ := List.map_eq_cons_iff.mp hbytes
        obtain ⟨b, _, rfl, hb, hrest⟩ := List.map_eq_cons_iff.mp hrest
        obtain ⟨d, _, rfl, hd, hnil⟩ := List.map_eq_cons_iff.mp hrest
        obtain rfl := List.map_eq_nil_iff.mp hnil
        exact .inr (.inr (.inl ⟨a, b, d, heq, Nat.not_le.mp htwo, hthree, ha, hb, hd⟩))
      · next hthree =>
        obtain ⟨a, _, heq, ha, hrest⟩ := List.map_eq_cons_iff.mp hbytes
        obtain ⟨b, _, rfl, hb, hrest⟩ := List.map_eq_cons_iff.mp hrest
        obtain ⟨d, _, rfl, hd, hrest⟩ := List.map_eq_cons_iff.mp hrest
        obtain ⟨e, _, rfl, he, hnil⟩ := List.map_eq_cons_iff.mp hrest
        obtain rfl := List.map_eq_nil_iff.mp hnil
        exact .inr (.inr (.inr ⟨a, b, d, e, heq, Nat.not_le.mp hthree, ha, hb, hd, he⟩))

theorem codePoint_utf8 : codePoint ((String.utf8EncodeChar c).map UInt8.toNat) = c.toNat := by
  have hvalid := isValidChar_toNat c
  unfold Nat.isValidChar at hvalid
  rw [utf8_toNat]
  split
  · rfl
  · split
    · simp only [codePoint]
      omega
    · split
      · simp only [codePoint]
        omega
      · simp only [codePoint]
        omega

/-- **The bytes of one character.** -/
theorem scalar_iff : scalar bytes = some c ↔ String.utf8EncodeChar c = bytes := by
  grind [scalar, Option.some.inj, codePoint_utf8, Char.ofNat_toNat]

theorem wellFormed_nil : WellFormed [] := ⟨[], rfl⟩

/-- Some bytes are well-formed exactly if those of a character come first, and well-formed bytes
after them. -/
theorem wellFormed_iff (hne : bytes ≠ []) : WellFormed bytes ↔
    ∃ c rest, bytes = String.utf8EncodeChar c ++ rest ∧ WellFormed rest := by
  constructor
  · rintro ⟨cs, rfl⟩
    cases cs with
    | nil => exact absurd rfl hne
    | cons c cs => exact ⟨c, _, List.flatMap_cons, cs, rfl⟩
  · rintro ⟨c, _, rfl, cs, rfl⟩
    exact ⟨c :: cs, List.flatMap_cons.symm⟩

end Utf8

end Rhythm.Unicode
