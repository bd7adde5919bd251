import Mathlib.Data.List.TakeWhile

/-!
# Rhythm.Pdf

How a reader takes a PDF file apart: the cross-reference table is found from the end of the file,
its entries lead to the objects, and a stream is as long as its dictionary says.  A text operand is
a literal string: it ends with the parenthesis that closes it, and backslashes escape.
-/

namespace Rhythm.Pdf

abbrev Bytes := List UInt8

def ascii (s : String) : Bytes := s.toList.map Char.toUInt8

/-! ## Numbers -/

def isDigit (b : UInt8) : Bool := 48 ≤ b && b ≤ 57

def decimal (n : Nat) : Bytes := (Nat.toDigits 10 n).map Char.toUInt8

def padded (width n : Nat) : Bytes :=
  List.replicate (width - (decimal n).length) 48 ++ decimal n

def digitsValue (digits : Bytes) : Nat := digits.foldl (fun n b => 10 * n + (b.toNat - 48)) 0

def readNat (s : Bytes) : Option (Nat × Bytes) :=
  if s.takeWhile isDigit = [] then none
  else some (digitsValue (s.takeWhile isDigit), s.dropWhile isDigit)

def expect : Bytes → Bytes → Option Bytes
  | [], s => some s
  | _ :: _, [] => none
  | b :: bs, c :: s => if b = c then expect bs s else none

@[simp] theorem expect_append (bs s : Bytes) : expect bs (bs ++ s) = some s := by
  induction bs with
  | nil => cases s <;> rfl
  | cons b bs ih => simpa [expect] using ih

@[simp] theorem expect_self (bs : Bytes) : expect bs bs = some [] := by
  simpa using expect_append bs []

theorem isDigit_toUInt8 {c : Char} (h : c.isDigit = true) :
    isDigit c.toUInt8 = true ∧ c.toUInt8.toNat = c.toNat := by
  obtain ⟨hlow, hhigh⟩ := Char.isDigit_iff_toNat.mp h
  have hlow : 48 ≤ c.toNat := hlow
  have hhigh : c.toNat ≤ 57 := hhigh
  have hvalue : c.toUInt8.toNat = c.toNat := Nat.mod_eq_of_lt (by omega : c.toNat < 256)
  refine ⟨?_, hvalue⟩
  rw [isDigit, Bool.and_eq_true, decide_eq_true_eq, decide_eq_true_eq, UInt8.le_iff_toNat_le,
    UInt8.le_iff_toNat_le, hvalue]
  exact ⟨hlow, hhigh⟩

variable {b : UInt8}

theorem isDigit_of_mem_decimal {n : Nat} (h : b ∈ decimal n) : isDigit b = true := by
  obtain ⟨c, hc, rfl⟩ := List.mem_map.mp h
  exact (isDigit_toUInt8 (Nat.isDigit_of_mem_toDigits (by decide) (by decide) hc)).1

theorem isDigit_of_mem_padded {width n : Nat} (h : b ∈ padded width n) :
    isDigit b = true := by
  obtain h | h := List.mem_append.mp h
  · rw [List.eq_of_mem_replicate h]
    rfl
  · exact isDigit_of_mem_decimal h

theorem decimal_ne_nil (n : Nat) : decimal n ≠ [] := by
  simp [decimal]

@[simp] theorem digitsValue_decimal (n : Nat) : digitsValue (decimal n) = n := by
  have hfold : ∀ (cs : List Char) (m : Nat), (∀ c ∈ cs, c.isDigit = true) →
      (cs.map Char.toUInt8).foldl (fun n b => 10 * n + (b.toNat - 48)) m =
        Nat.ofDigitChars 10 cs m := by
    intro cs
    induction cs with
    | nil => simp
    | cons c cs ih =>
      intro m hdigits
      rw [List.map_cons, List.foldl_cons, Nat.ofDigitChars_cons,
        (isDigit_toUInt8 (hdigits c List.mem_cons_self)).2]
      exact ih _ fun d hd => hdigits d (List.mem_cons_of_mem _ hd)
  rw [digitsValue, decimal,
    hfold _ 0 fun c hc => Nat.isDigit_of_mem_toDigits (by decide) (by decide) hc]
  exact Nat.ofDigitChars_toDigits (by decide) (by decide)

@[simp] theorem digitsValue_padded (width n : Nat) : digitsValue (padded width n) = n := by
  have hzeros : ∀ k, (List.replicate k (48 : UInt8)).foldl
      (fun n b => 10 * n + (b.toNat - 48)) 0 = 0 := by
    intro k
    induction k with
    | zero => rfl
    | succ k ih => simpa [List.replicate_succ] using ih
  rw [padded, digitsValue, List.foldl_append, hzeros]
  exact digitsValue_decimal n

theorem readNat_append {digits rest : Bytes} (hdigits : ∀ b ∈ digits, isDigit b = true)
    (hne : digits ≠ []) (hrest : ∀ b ∈ rest.head?, isDigit b = false) :
    readNat (digits ++ rest) = some (digitsValue digits, rest) := by
  have htake : (digits ++ rest).takeWhile isDigit = digits := by
    rw [List.takeWhile_append_of_pos hdigits]
    cases rest with
    | nil => simp
    | cons b rest => simp [hrest b (by simp)]
  have hdrop : (digits ++ rest).dropWhile isDigit = rest := by
    rw [List.dropWhile_append_of_pos hdigits]
    cases rest with
    | nil => rfl
    | cons b rest => simp [hrest b (by simp)]
  rw [readNat, htake, hdrop, if_neg hne]

theorem readNat_decimal (n : Nat) {rest : Bytes} (hrest : ∀ b ∈ rest.head?, isDigit b = false) :
    readNat (decimal n ++ rest) = some (n, rest) := by
  rw [readNat_append (fun _ => isDigit_of_mem_decimal) (decimal_ne_nil n) hrest,
    digitsValue_decimal]

theorem readNat_padded (width n : Nat) {rest : Bytes}
    (hrest : ∀ b ∈ rest.head?, isDigit b = false) :
    readNat (padded width n ++ rest) = some (n, rest) := by
  rw [readNat_append (fun _ => isDigit_of_mem_padded)
    (List.append_ne_nil_of_right_ne_nil _ (decimal_ne_nil n)) hrest, digitsValue_padded]

/-! ## Objects and the table -/

/-- The header of an object, `n 0 obj`: its number, and what follows. -/
def readHeader (s : Bytes) : Option (Nat × Bytes) :=
  (readNat s).bind fun p => (expect (ascii " 0 obj\n") p.2).map fun rest => (p.1, rest)

/-- The entry of an object in use: its offset, and what follows. -/
def readEntry (s : Bytes) : Option (Nat × Bytes) :=
  (readNat s).bind fun p => (expect (ascii " 00000 n \n") p.2).map fun rest => (p.1, rest)

def readEntries : Nat → Bytes → Option (List Nat × Bytes)
  | 0, s => some ([], s)
  | count + 1, s =>
    (readEntry s).bind fun p => (readEntries count p.2).map fun q => (p.1 :: q.1, q.2)

/-- The offsets of the objects from the first on, and what follows the table; entry 0 is free. -/
def readXref (s : Bytes) : Option (List Nat × Bytes) :=
  (expect (ascii "xref\n0 ") s).bind fun s =>
    (readNat s).bind fun p =>
      (expect (ascii "\n0000000000 65535 f \n") p.2).bind fun rest => readEntries (p.1 - 1) rest

def startxref (s : Bytes) : Option Nat :=
  (expect (ascii "\n%%EOF").reverse s.reverse).bind fun s =>
    (expect (ascii "startxref\n").reverse (s.dropWhile isDigit)).bind fun _ =>
      if s.takeWhile isDigit = [] then none
      else some (digitsValue (s.takeWhile isDigit).reverse)

/-- The stream of an object: between its keywords, as many bytes as its dictionary says. -/
def readStream (object : Bytes) : Option Bytes :=
  (expect (ascii "<< /Length ") object).bind fun s =>
    (readNat s).bind fun p =>
      (expect (ascii " >>\nstream\n") p.2).bind fun s =>
        if s.drop p.1 = ascii "\nendstream" then some (s.take p.1) else none

def reference (n : Nat) : Bytes := decimal n ++ ascii " 0 R"

/-- **The structure of a file**: its end leads to the table, the table to each object in turn, and
the trailer to the catalog. -/
def Holds (pdf : Bytes) (objects : List Bytes) : Prop :=
  ∃ xref offsets rest, startxref pdf = some xref ∧
    readXref (pdf.drop xref) = some (offsets, ascii "trailer << /Size " ++
      decimal (objects.length + 1) ++ ascii " /Root " ++ reference 1 ++ ascii " >>\n" ++ rest) ∧
    offsets.length = objects.length ∧
    ∀ k offset object, offsets[k]? = some offset → objects[k]? = some object →
      ∃ rest, readHeader (pdf.drop offset) = some (k + 1, object ++ ascii "\nendobj\n" ++ rest)

theorem readHeader_append (n : Nat) (rest : Bytes) :
    readHeader (decimal n ++ (ascii " 0 obj\n" ++ rest)) = some (n, rest) := by
  rw [readHeader, readNat_decimal n (by rintro b ⟨⟩; rfl)]
  simp

theorem readEntries_append (offsets : List Nat) (rest : Bytes) :
    readEntries offsets.length
      (offsets.flatMap (fun offset => padded 10 offset ++ ascii " 00000 n \n") ++ rest) =
        some (offsets, rest) := by
  induction offsets with
  | nil => rfl
  | cons offset offsets ih =>
    rw [List.length_cons, readEntries, List.flatMap_cons, List.append_assoc, List.append_assoc,
      readEntry, readNat_padded 10 offset (by rintro b ⟨⟩; rfl)]
    simp [ih]

theorem readXref_append (offsets : List Nat) (rest : Bytes) :
    readXref (ascii "xref\n0 " ++ (decimal (offsets.length + 1) ++
      (ascii "\n0000000000 65535 f \n" ++
        (offsets.flatMap (fun offset => padded 10 offset ++ ascii " 00000 n \n") ++ rest)))) =
      some (offsets, rest) := by
  rw [readXref, expect_append, Option.bind_some, readNat_decimal _ (by rintro b ⟨⟩; rfl),
    Option.bind_some, expect_append, Option.bind_some, Nat.add_sub_cancel, readEntries_append]

theorem startxref_append (front : Bytes) (n : Nat) :
    startxref (front ++ (ascii "startxref\n" ++ (decimal n ++ ascii "\n%%EOF"))) = some n := by
  have hreverse : (front ++ (ascii "startxref\n" ++ (decimal n ++ ascii "\n%%EOF"))).reverse =
      (ascii "\n%%EOF").reverse ++
        ((decimal n).reverse ++ ((ascii "startxref\n").reverse ++ front.reverse)) := by simp
  have hdigits : ∀ b ∈ (decimal n).reverse, isDigit b = true := fun b hb =>
    isDigit_of_mem_decimal (List.mem_reverse.mp hb)
  have htail : ((ascii "startxref\n").reverse ++ front.reverse).takeWhile isDigit = [] ∧
      ((ascii "startxref\n").reverse ++ front.reverse).dropWhile isDigit =
        (ascii "startxref\n").reverse ++ front.reverse := ⟨rfl, rfl⟩
  rw [startxref, hreverse, expect_append, Option.bind_some,
    List.takeWhile_append_of_pos hdigits, List.dropWhile_append_of_pos hdigits, htail.1, htail.2,
    expect_append, Option.bind_some, List.append_nil, List.reverse_reverse,
    if_neg (by simpa using decimal_ne_nil n), digitsValue_decimal]

theorem readStream_append (stream : Bytes) :
    readStream (ascii "<< /Length " ++ (decimal stream.length ++ (ascii " >>\nstream\n" ++
      (stream ++ ascii "\nendstream")))) = some stream := by
  rw [readStream, expect_append, Option.bind_some, readNat_decimal _ (by rintro b ⟨⟩; rfl),
    Option.bind_some, expect_append, Option.bind_some, List.drop_left, if_pos rfl, List.take_left]

/-! ## Strings -/

def backslash : UInt8 := '\\'.toUInt8

def opening : UInt8 := '('.toUInt8

def closing : UInt8 := ')'.toUInt8

/-- The body of a literal string, inside so many parentheses, and what follows: an escaped byte
neither opens nor closes. -/
def literal : Nat → Bytes → Option (Bytes × Bytes)
  | _, [] => none
  | depth, b :: s =>
    if b = backslash then
      match s with
      | [] => none
      | c :: s => (literal depth s).map fun p => (b :: c :: p.1, p.2)
    else if b = opening then (literal (depth + 1) s).map fun p => (b :: p.1, p.2)
    else if b = closing then
      match depth with
      | 0 => some ([], s)
      | depth + 1 => (literal depth s).map fun p => (b :: p.1, p.2)
    else (literal depth s).map fun p => (b :: p.1, p.2)

def isOctal (b : UInt8) : Bool := 48 ≤ b && b ≤ 55

/-- The byte that a backslash and this byte stand for; none at the end of a line. -/
def escaped (c : UInt8) : Bytes :=
  if c = 'n'.toUInt8 then [10]
  else if c = 'r'.toUInt8 then [13]
  else if c = 't'.toUInt8 then [9]
  else if c = 'b'.toUInt8 then [8]
  else if c = 'f'.toUInt8 then [12]
  else if c = 10 ∨ c = 13 then []
  else [c]

/-- The bytes of a literal string: what its backslashes stand for, up to three octal digits of a
byte among them. -/
def unescape : Bytes → Bytes
  | [] => []
  | b :: s =>
    if b ≠ backslash then b :: unescape s
    else
      match s with
      | [] => []
      | c :: s =>
        if isOctal c then
          match s with
          | [] => [c - 48]
          | d :: s =>
            if isOctal d then
              match s with
              | [] => [(c - 48) * 8 + (d - 48)]
              | e :: s =>
                if isOctal e then ((c - 48) * 64 + (d - 48) * 8 + (e - 48)) :: unescape s
                else ((c - 48) * 8 + (d - 48)) :: unescape (e :: s)
            else (c - 48) :: unescape (d :: s)
        else if c = 13 then
          match s with
          | [] => []
          | d :: s => if d = 10 then unescape s else unescape (d :: s)
        else escaped c ++ unescape s

theorem literal_length {depth : Nat} {s : Bytes} {p : Bytes × Bytes}
    (h : literal depth s = some p) : p.2.length < s.length := by
  fun_induction literal depth s generalizing p with
  | case1 => simp at h
  | case2 => simp at h
  | case3 depth c s ih =>
    obtain ⟨q, hq, rfl⟩ := Option.map_eq_some_iff.mp h
    have := ih hq
    simp only [List.length_cons]
    omega
  | case5 s =>
    cases h
    simp
  | case4 | case6 | case7 =>
    rename_i ih
    obtain ⟨q, hq, rfl⟩ := Option.map_eq_some_iff.mp h
    have := ih hq
    simp only [List.length_cons]
    omega

def strings : Bytes → List Bytes
  | [] => []
  | b :: s =>
    if b = opening then
      match _h : literal 0 s with
      | none => []
      | some p => unescape p.1 :: strings p.2
    else strings s
termination_by s => s.length
decreasing_by
  · have := literal_length _h
    simp only [List.length_cons]
    omega
  · simp

/-- A text as a literal string's body: backslashes before backslashes and parentheses. -/
def escape (s : Bytes) : Bytes :=
  s.flatMap fun b => if b = backslash ∨ b = opening ∨ b = closing then [backslash, b] else [b]

theorem escape_cons (b : UInt8) (s : Bytes) :
    escape (b :: s) =
      (if b = backslash ∨ b = opening ∨ b = closing then [backslash, b] else [b]) ++ escape s :=
  List.flatMap_cons

theorem literal_closing (s : Bytes) : literal 0 (closing :: s) = some ([], s) := by
  rw [literal.eq_def]
  rfl

theorem literal_plain (h : ¬ (b = backslash ∨ b = opening ∨ b = closing)) (depth : Nat)
    (s : Bytes) : literal depth (b :: s) = (literal depth s).map fun p => (b :: p.1, p.2) := by
  obtain ⟨hb, ho, hc⟩ := not_or.mp h |>.imp_right not_or.mp
  rw [literal.eq_def]
  simp [hb, ho, hc]

theorem unescape_plain (h : b ≠ backslash) (s : Bytes) :
    unescape (b :: s) = b :: unescape s := by
  rw [unescape.eq_def]
  simp [h]

theorem unescape_escaped (h : b = backslash ∨ b = opening ∨ b = closing) (s : Bytes) :
    unescape (backslash :: b :: s) = b :: unescape s := by
  have hplain : isOctal b = false ∧ b ≠ 13 ∧ escaped b = [b] := by
    obtain rfl | rfl | rfl := h <;> decide
  obtain ⟨hoctal, hreturn, hescaped⟩ := hplain
  rw [unescape.eq_def]
  simp [hoctal, hreturn, hescaped]

theorem literal_escape (s rest : Bytes) :
    literal 0 (escape s ++ closing :: rest) = some (escape s, rest) := by
  induction s with
  | nil => exact literal_closing rest
  | cons b s ih =>
    rw [escape_cons]
    split
    · simp [literal, ih]
    · next h =>
      rw [List.singleton_append, List.cons_append, literal_plain h, ih]
      rfl

/-- **Round trip**: what was escaped is read as it was. -/
theorem unescape_escape (s : Bytes) : unescape (escape s) = s := by
  induction s with
  | nil => simp [escape, unescape]
  | cons b s ih =>
    rw [escape_cons]
    split
    · next h => rw [List.cons_append, List.singleton_append, unescape_escaped h, ih]
    · next h => rw [List.singleton_append, unescape_plain (not_or.mp h).1, ih]

theorem strings_skip {t : Bytes} (ht : ∀ b ∈ t, b ≠ opening) (s : Bytes) :
    strings (t ++ s) = strings s := by
  induction t with
  | nil => rfl
  | cons b t ih =>
    rw [List.cons_append, strings, if_neg (ht b List.mem_cons_self)]
    exact ih fun c hc => ht c (List.mem_cons_of_mem _ hc)

theorem strings_literal (s rest : Bytes) :
    strings (opening :: (escape s ++ closing :: rest)) = s :: strings rest := by
  grind [strings, literal_escape, Option.some.injEq, unescape_escape]

end Rhythm.Pdf
