import Mathlib.Data.List.Perm.Basic
import Rhythm.Text

/-!
# Rhythm.Overlap

Several parts of a text replaced by one and the same text, one part after the other.
Does the order matter, and is a piece of some occurrence left?  Neither, when no two
occurrences ever overlap and what is inserted forms no new ones.  This module names
nothing of the component.

Letters carry marks, so that a letter that is left can be told from one that was
inserted: `marked` marks the letters inside occurrences, `replaceMarked` replaces as
`replaceFrom` does, and `scan` replaces all parts at once.

* `replaceAllMarked_eq_scan` — one part after the other is all at once;
* `unmarked_scan` — nothing marked is left;
* `noOverlap_of_clean` — conversely, for parts without letters of what is inserted.
-/

namespace Rhythm.Text

/-! ## Marks -/

/-- The letter at position `i` lies in an occurrence of one of the parts. -/
def coveredAt (parts : List (List Char)) (l : List Char) (i : Nat) : Bool :=
  (List.range (i + 1)).any fun start => parts.any fun part =>
    decide (i < start + part.length) && part.isPrefixOf (l.drop start)

def marked (parts : List (List Char)) (l : List Char) : List (Char × Bool) :=
  l.mapIdx fun i c => (c, coveredAt parts l i)

def plain (l : List Char) : List (Char × Bool) := l.map fun c => (c, false)

/-- `replaceFrom` on letters with marks; what is inserted has none. -/
def replaceMarked (old new : List Char) : Nat → List (Char × Bool) → List (Char × Bool)
  | _, [] => []
  | skip + 1, _ :: cs => replaceMarked old new skip cs
  | 0, c :: cs =>
    if old.isPrefixOf ((c :: cs).map Prod.fst) then
      plain new ++ replaceMarked old new (old.length - 1) cs
    else c :: replaceMarked old new 0 cs

def replaceAllFrom (new : List Char) (parts : List (List Char)) (text : List Char) : List Char :=
  parts.foldl (fun text part => replaceFrom part new 0 text) text

def replaceAllMarked (new : List Char) (parts : List (List Char)) (l : List (Char × Bool)) :
    List (Char × Bool) :=
  parts.foldl (fun l part => replaceMarked part new 0 l) l

/-- All parts at once, at each position the first that is found there. -/
def scan (new : List Char) (parts : List (List Char)) :
    Nat → List (Char × Bool) → List (Char × Bool)
  | _, [] => []
  | skip + 1, _ :: cs => scan new parts skip cs
  | 0, c :: cs =>
    match parts.find? fun part => part.isPrefixOf ((c :: cs).map Prod.fst) with
    | some part => plain new ++ scan new parts (part.length - 1) cs
    | none => c :: scan new parts 0 cs

/-- Two occurrences of parts in one text never overlap, unless they are the same. -/
def NoOverlap (parts : List (List Char)) : Prop :=
  ∀ s ∈ parts, ∀ t ∈ parts, ∀ k < s.length, s.drop k <+: t ∨ t <+: s.drop k → k = 0 ∧ s = t

instance (parts : List (List Char)) : Decidable (NoOverlap parts) :=
  inferInstanceAs (Decidable (∀ s ∈ parts, ∀ t ∈ parts, ∀ k < s.length, _ → _))

section Replace

variable {old new part s t : List Char} {parts parts' : List (List Char)}
  {l rest : List (Char × Bool)} {c : Char × Bool} {text : List Char} {skip k i : Nat}

@[simp] theorem map_fst_plain : (plain new).map Prod.fst = new := by
  rw [plain, List.map_map]
  exact List.map_id' new

theorem map_fst_mapIdx {f : Nat → Char → Bool} :
    (text.mapIdx fun i c => (c, f i c)).map Prod.fst = text := by
  induction text generalizing f with
  | nil => rfl
  | cons c cs ih => rw [List.mapIdx_cons, List.map_cons, ih]

theorem map_fst_marked : (marked parts text).map Prod.fst = text := map_fst_mapIdx

theorem map_fst_replaceMarked : (replaceMarked old new skip l).map Prod.fst =
    replaceFrom old new skip (l.map Prod.fst) := by
  induction l generalizing skip with
  | nil => cases skip <;> rfl
  | cons c cs ih =>
    cases skip with
    | succ skip => exact ih
    | zero =>
      grind [replaceMarked, replaceFrom, map_fst_plain]

theorem map_fst_replaceAllMarked : (replaceAllMarked new parts l).map Prod.fst =
    replaceAllFrom new parts (l.map Prod.fst) := by
  induction parts generalizing l with
  | nil => rfl
  | cons part parts ih =>
    rw [replaceAllMarked, replaceAllFrom, List.foldl_cons, List.foldl_cons,
      ← map_fst_replaceMarked]
    exact ih

theorem replaceMarked_eq_drop : replaceMarked old new skip l =
    replaceMarked old new 0 (l.drop skip) := by
  induction skip generalizing l with
  | zero => rfl
  | succ skip ih =>
    cases l with
    | nil => rfl
    | cons c cs => exact ih

theorem scan_eq_drop : scan new parts skip l = scan new parts 0 (l.drop skip) := by
  induction skip generalizing l with
  | zero => rfl
  | succ skip ih =>
    cases l with
    | nil => rfl
    | cons c cs => exact ih

theorem replaceMarked_of_start (hold : old ≠ []) (h : old <+: l.map Prod.fst) :
    replaceMarked old new 0 l = plain new ++ replaceMarked old new 0 (l.drop old.length) := by
  cases l with
  | nil => exact absurd (List.prefix_nil.mp h) hold
  | cons c cs =>
    obtain ⟨n, hn⟩ := Nat.exists_eq_succ_of_ne_zero (List.length_pos_iff.mpr hold).ne'
    rw [replaceMarked, if_pos (List.isPrefixOf_iff_prefix.mpr h), replaceMarked_eq_drop, hn]
    rfl

theorem replaceMarked_cons (h : ¬ old <+: (c :: rest).map Prod.fst) :
    replaceMarked old new 0 (c :: rest) = c :: replaceMarked old new 0 rest := by
  rw [replaceMarked, if_neg (mt List.isPrefixOf_iff_prefix.mp h)]

theorem replaceMarked_of_not_infix (h : ¬ old <:+: l.map Prod.fst) :
    replaceMarked old new 0 l = l := by
  induction l with
  | nil => rfl
  | cons c cs ih =>
    rw [List.map_cons, List.infix_cons_iff, not_or, ← List.map_cons] at h
    rw [replaceMarked_cons h.1, ih h.2]

/-! ## All parts at once -/

theorem NoOverlap.eq_of_prefix (h : NoOverlap parts) (hs : s ∈ parts) (ht : t ∈ parts)
    (hk : k < s.length) (hfirst : s <+: text) (hsecond : t <+: text.drop k) : k = 0 ∧ s = t := by
  obtain ⟨after, rfl⟩ := hfirst
  rw [List.drop_append_of_le_length hk.le] at hsecond
  exact h s hs t ht k hk (List.prefix_or_prefix_of_prefix (List.prefix_append _ _) hsecond)

theorem scan_nil (skip : Nat) : scan new [] skip l = l.drop skip := by
  induction l generalizing skip with
  | nil => cases skip <;> rfl
  | cons c cs ih =>
    cases skip with
    | zero => rw [scan, List.find?_nil, ih, List.drop_zero, List.drop_zero]
    | succ skip => exact ih skip

theorem scan_cons (h : ∀ part ∈ parts, ¬ part <+: (c :: rest).map Prod.fst) :
    scan new parts 0 (c :: rest) = c :: scan new parts 0 rest := by
  grind [scan]

theorem scan_of_start (h : NoOverlap parts) (hpart : part ∈ parts) (hempty : part ≠ [])
    (hfound : part <+: l.map Prod.fst) :
    scan new parts 0 l = plain new ++ scan new parts 0 (l.drop part.length) := by
  cases l with
  | nil => exact absurd (List.prefix_nil.mp hfound) hempty
  | cons c cs =>
    obtain ⟨other, hother⟩ : ∃ other, (parts.find? fun part =>
        part.isPrefixOf ((c :: cs).map Prod.fst)) = some other := by
      rw [← Option.isSome_iff_exists, List.find?_isSome]
      exact ⟨part, hpart, List.isPrefixOf_iff_prefix.mpr hfound⟩
    have hmem : other ∈ parts := List.mem_of_find?_eq_some hother
    have hprefix := List.find?_some hother
    rw [List.isPrefixOf_iff_prefix] at hprefix
    have heq := h.eq_of_prefix hpart hmem (List.length_pos_iff.mpr hempty) hfound
      (by rwa [List.drop_zero])
    obtain ⟨n, hn⟩ := Nat.exists_eq_succ_of_ne_zero (List.length_pos_iff.mpr hempty).ne'
    rw [scan, hother, ← heq.2]
    show plain new ++ scan new parts (part.length - 1) cs = _
    rw [scan_eq_drop, hn]
    rfl

theorem Detached.not_prefix_append (hdetached : Detached part new) {tail : List Char}
    (htail : tail <:+ new) (hempty : tail ≠ []) : ¬ part <+: tail ++ text := by
  intro h
  obtain hinside | hacross := List.prefix_or_prefix_of_prefix h (List.prefix_append tail text)
  · exact hdetached.1 (hinside.isInfix.trans htail.isInfix)
  · exact hdetached.2.2.1 tail ((List.mem_tails _ _).mpr htail) hempty hacross

theorem scan_plain_append (hdetached : ∀ part ∈ parts, Detached part new) :
    scan new parts 0 (plain new ++ l) = plain new ++ scan new parts 0 l := by
  suffices hsuffix : ∀ tail, tail <:+ new →
      scan new parts 0 (plain tail ++ l) = plain tail ++ scan new parts 0 l from
    hsuffix new List.suffix_rfl
  intro tail htail
  induction tail with
  | nil => rfl
  | cons c tail ih =>
    have hnone : ∀ part ∈ parts, ¬ part <+: ((c, false) :: (plain tail ++ l)).map Prod.fst := by
      intro part hpart
      rw [List.map_cons, List.map_append, map_fst_plain]
      exact (hdetached part hpart).not_prefix_append htail (List.cons_ne_nil _ _)
    show scan new parts 0 ((c, false) :: (plain tail ++ l)) = _
    rw [scan_cons hnone, ih ((List.suffix_cons c tail).trans htail)]
    rfl

theorem replaceMarked_append (h : NoOverlap parts) (hold : old ∈ parts) (hpart : part ∈ parts)
    (hne : part ≠ old) (hfound : part <+: l.map Prod.fst) :
    replaceMarked old new 0 l =
      l.take part.length ++ replaceMarked old new 0 (l.drop part.length) := by
  suffices hstep : ∀ n ≤ part.length, replaceMarked old new 0 l =
      l.take n ++ replaceMarked old new 0 (l.drop n) from hstep part.length le_rfl
  intro n
  induction n with
  | zero => intro _; rfl
  | succ n ih =>
    intro hn
    have hlength : n < l.length := by
      have hle := hfound.length_le
      rw [List.length_map] at hle
      omega
    have hnot : ¬ old <+: (l.drop n).map Prod.fst := by
      intro hprefix
      rw [List.map_drop] at hprefix
      exact hne (h.eq_of_prefix hpart hold hn hfound hprefix).2
    rw [List.drop_eq_getElem_cons hlength] at hnot
    rw [ih (by omega), List.drop_eq_getElem_cons hlength, replaceMarked_cons hnot,
      List.take_succ_eq_append_getElem hlength, List.append_assoc]
    rfl

theorem scan_replaceMarked (h : NoOverlap (old :: parts))
    (hempty : ∀ part ∈ old :: parts, part ≠ [])
    (hdetached : ∀ part ∈ old :: parts, Detached part new) (l : List (Char × Bool)) :
    scan new parts 0 (replaceMarked old new 0 l) = scan new (old :: parts) 0 l := by
  have hold : old ∈ old :: parts := List.mem_cons_self
  have hrest : NoOverlap parts := fun s hs t ht =>
    h s (List.mem_cons_of_mem _ hs) t (List.mem_cons_of_mem _ ht)
  have hplain : ∀ part ∈ parts, Detached part new := fun part hpart =>
    hdetached part (List.mem_cons_of_mem _ hpart)
  induction hlength : l.length using Nat.strongRecOn generalizing l with
  | ind n ih =>
    by_cases hfound : old <+: l.map Prod.fst
    · -- the part itself is found here
      have hne := hempty old hold
      have hshorter : (l.drop old.length).length < n := by
        have hle := hfound.length_le
        rw [List.length_map] at hle
        have hpos := List.length_pos_iff.mpr hne
        rw [List.length_drop]
        omega
      rw [replaceMarked_of_start hne hfound, scan_plain_append hplain, ih _ hshorter _ rfl,
        scan_of_start h hold hne hfound]
    · by_cases hother : ∃ part ∈ parts, part <+: l.map Prod.fst
      · -- another one is: it is still there after the replacement
        obtain ⟨part, hpart, hprefix⟩ := hother
        have hmem : part ∈ old :: parts := List.mem_cons_of_mem _ hpart
        have hne := hempty part hmem
        have hle := hprefix.length_le
        rw [List.length_map] at hle
        have hshorter : (l.drop part.length).length < n := by
          have hpos := List.length_pos_iff.mpr hne
          rw [List.length_drop]
          omega
        have hdistinct : part ≠ old := by
          rintro rfl
          exact hfound hprefix
        have htake : (l.take part.length).map Prod.fst = part := by
          rw [List.map_take]
          exact (List.prefix_iff_eq_take.mp hprefix).symm
        have hstays : part <+: (l.take part.length ++
            replaceMarked old new 0 (l.drop part.length)).map Prod.fst := by
          rw [List.map_append, htake]
          exact List.prefix_append _ _
        have hdrop : (l.take part.length ++
            replaceMarked old new 0 (l.drop part.length)).drop part.length =
            replaceMarked old new 0 (l.drop part.length) :=
          List.drop_left' (by rw [List.length_take, Nat.min_eq_left hle])
        rw [replaceMarked_append h hold hmem hdistinct hprefix,
          scan_of_start hrest hpart hne hstays, hdrop, ih _ hshorter _ rfl,
          scan_of_start h hmem hne hprefix]
      · -- none is, and none comes to be
        cases l with
        | nil => rfl
        | cons c cs =>
          have hnone : ∀ part ∈ old :: parts, ¬ part <+: (c :: cs).map Prod.fst := by
            rw [List.forall_mem_cons]
            exact ⟨hfound, fun part hpart hprefix => hother ⟨part, hpart, hprefix⟩⟩
          have hlater : ∀ part ∈ parts,
              ¬ part <+: (c :: replaceMarked old new 0 cs).map Prod.fst := by
            intro part hpart hprefix
            rw [← replaceMarked_cons hfound, map_fst_replaceMarked] at hprefix
            exact hnone part (List.mem_cons_of_mem _ hpart)
              ((hplain part hpart).prefix_of_replaceFrom hprefix)
          have hshorter : cs.length < n := by
            rw [← hlength, List.length_cons]
            omega
          rw [replaceMarked_cons hfound, scan_cons hlater, ih _ hshorter cs rfl, scan_cons hnone]

/-- **One part after the other is all at once.** -/
theorem replaceAllMarked_eq_scan (h : NoOverlap parts) (hempty : ∀ part ∈ parts, part ≠ [])
    (hdetached : ∀ part ∈ parts, Detached part new) :
    replaceAllMarked new parts l = scan new parts 0 l := by
  induction parts generalizing l with
  | nil => rw [scan_nil, List.drop_zero]; rfl
  | cons part parts ih =>
    rw [replaceAllMarked, List.foldl_cons, ← scan_replaceMarked h hempty hdetached]
    exact ih (fun s hs t ht => h s (List.mem_cons_of_mem _ hs) t (List.mem_cons_of_mem _ ht))
      (fun part hpart => hempty part (List.mem_cons_of_mem _ hpart))
      fun part hpart => hdetached part (List.mem_cons_of_mem _ hpart)

/-! ## Nothing marked is left -/

theorem coveredAt_iff : coveredAt parts text i = true ↔
    ∃ start ≤ i, ∃ part ∈ parts, i < start + part.length ∧ part <+: text.drop start := by
  simp only [coveredAt, List.any_eq_true, List.mem_range, Bool.and_eq_true, decide_eq_true_eq,
    List.isPrefixOf_iff_prefix, Nat.lt_succ_iff]

/-- No occurrence reaches across position `i`. -/
def Boundary (parts : List (List Char)) (text : List Char) (i : Nat) : Prop :=
  ∀ start < i, ∀ part ∈ parts, part <+: text.drop start → start + part.length ≤ i

theorem boundary_zero : Boundary parts text 0 := fun _ h => absurd h (Nat.not_lt_zero _)

theorem Boundary.succ (h : Boundary parts text i)
    (hnone : ∀ part ∈ parts, ¬ part <+: text.drop i) : Boundary parts text (i + 1) := by
  intro start hstart part hpart hfound
  obtain hlt | rfl := Nat.lt_succ_iff_lt_or_eq.mp hstart
  · exact (h start hlt part hpart hfound).trans (Nat.le_succ i)
  · exact absurd hfound (hnone part hpart)

theorem Boundary.add (h : Boundary parts text i) (hno : NoOverlap parts) (hpart : part ∈ parts)
    (hfound : part <+: text.drop i) : Boundary parts text (i + part.length) := by
  intro start hstart other hother hprefix
  by_cases hbefore : start < i
  · exact (h start hbefore other hother hprefix).trans (Nat.le_add_right _ _)
  · have hdrop : other <+: (text.drop i).drop (start - i) := by
      rw [List.drop_drop, Nat.add_sub_cancel' (Nat.not_lt.mp hbefore)]
      exact hprefix
    have heq := hno.eq_of_prefix hpart hother (by omega) hfound hdrop
    rw [← heq.2]
    omega

theorem length_marked : (marked parts text).length = text.length := List.length_mapIdx

theorem drop_marked (hi : i < text.length) : (marked parts text).drop i =
    (text[i], coveredAt parts text i) :: (marked parts text).drop (i + 1) := by
  rw [List.drop_eq_getElem_cons (by rw [length_marked]; exact hi)]
  simp only [marked, List.getElem_mapIdx]

theorem unmarked_plain : ∀ x ∈ plain new, x.2 = false := by
  intro x hx
  obtain ⟨c, -, rfl⟩ := List.mem_map.mp hx
  rfl

theorem unmarked_scan_drop (hno : NoOverlap parts) (hempty : ∀ part ∈ parts, part ≠ [])
    (hboundary : Boundary parts text i) :
    ∀ x ∈ scan new parts 0 ((marked parts text).drop i), x.2 = false := by
  induction hlength : text.length - i using Nat.strongRecOn generalizing i with
  | ind n ih =>
    by_cases hi : i < text.length
    · have hrest : ((marked parts text).drop i).map Prod.fst = text.drop i := by
        rw [List.map_drop, map_fst_marked]
      by_cases hfound : ∃ part ∈ parts, part <+: text.drop i
      · obtain ⟨part, hpart, hprefix⟩ := hfound
        have hpos := List.length_pos_iff.mpr (hempty part hpart)
        rw [scan_of_start hno hpart (hempty part hpart) (by rwa [hrest]), List.drop_drop]
        intro x hx
        obtain hnew | hlater := List.mem_append.mp hx
        · exact unmarked_plain x hnew
        · exact ih _ (by omega) (hboundary.add hno hpart hprefix) rfl x hlater
      · have hnone : ∀ part ∈ parts, ¬ part <+: text.drop i := fun part hpart hprefix =>
          hfound ⟨part, hpart, hprefix⟩
        have hclear : coveredAt parts text i = false := by
          rw [Bool.eq_false_iff, Ne, coveredAt_iff]
          rintro ⟨start, hstart, part, hpart, hinside, hprefix⟩
          obtain hlt | rfl := Nat.lt_or_eq_of_le hstart
          · have hend := hboundary start hlt part hpart hprefix
            omega
          · exact hnone part hpart hprefix
        have hhere : ∀ part ∈ parts, ¬ part <+: ((text[i], coveredAt parts text i) ::
            (marked parts text).drop (i + 1)).map Prod.fst := by
          rw [← drop_marked hi, hrest]
          exact hnone
        rw [drop_marked hi, scan_cons hhere]
        intro x hx
        obtain rfl | hlater := List.mem_cons.mp hx
        · exact hclear
        · exact ih _ (by omega) (hboundary.succ hnone) rfl x hlater
    · rw [List.drop_eq_nil_of_le (by rw [length_marked]; omega)]
      intro x hx
      cases hx

/-- **Nothing marked is left.** -/
theorem unmarked_scan (hno : NoOverlap parts) (hempty : ∀ part ∈ parts, part ≠ []) :
    ∀ x ∈ scan new parts 0 (marked parts text), x.2 = false := by
  have h : ∀ x ∈ scan new parts 0 ((marked parts text).drop 0), x.2 = false :=
    unmarked_scan_drop hno hempty boundary_zero
  rwa [List.drop_zero] at h

/-! ## The order of the parts -/

theorem scan_congr (hno : NoOverlap parts) (hempty : ∀ part ∈ parts, part ≠ [])
    (hmem : ∀ part, part ∈ parts' ↔ part ∈ parts) (l : List (Char × Bool)) :
    scan new parts' 0 l = scan new parts 0 l := by
  have hno' : NoOverlap parts' := fun s hs t ht => hno s ((hmem s).mp hs) t ((hmem t).mp ht)
  induction hlength : l.length using Nat.strongRecOn generalizing l with
  | ind n ih =>
    by_cases hfound : ∃ part ∈ parts, part <+: l.map Prod.fst
    · obtain ⟨part, hpart, hprefix⟩ := hfound
      have hne := hempty part hpart
      have hle := hprefix.length_le
      rw [List.length_map] at hle
      have hpos := List.length_pos_iff.mpr hne
      have hshorter : (l.drop part.length).length < n := by
        rw [List.length_drop]
        omega
      rw [scan_of_start hno hpart hne hprefix,
        scan_of_start hno' ((hmem part).mpr hpart) hne hprefix, ih _ hshorter _ rfl]
    · cases l with
      | nil => rfl
      | cons c cs =>
        have hnone : ∀ part ∈ parts, ¬ part <+: (c :: cs).map Prod.fst := fun part hpart hprefix =>
          hfound ⟨part, hpart, hprefix⟩
        have hshorter : cs.length < n := by
          rw [← hlength, List.length_cons]
          omega
        rw [scan_cons hnone, scan_cons fun part hpart => hnone part ((hmem part).mp hpart),
          ih _ hshorter cs rfl]

theorem replaceMarked_eq_scan : replaceMarked old new skip l = scan new [old] skip l := by
  induction l generalizing skip with
  | nil => cases skip <;> rfl
  | cons c cs ih =>
    cases skip with
    | succ skip => exact ih
    | zero =>
      grind [replaceMarked, scan, plain]

theorem unmarked_replaceMarked (h : ∀ x ∈ l, x.2 = false) :
    ∀ x ∈ replaceMarked old new skip l, x.2 = false := by
  induction l generalizing skip with
  | nil => cases skip <;> exact h
  | cons c cs ih =>
    rw [List.forall_mem_cons] at h
    cases skip with
    | succ skip => exact ih h.2
    | zero =>
      rw [replaceMarked]
      split
      · exact List.forall_mem_append.mpr ⟨unmarked_plain, ih h.2⟩
      · exact List.forall_mem_cons.mpr ⟨h.1, ih h.2⟩

theorem unmarked_replaceAllMarked (h : ∀ x ∈ l, x.2 = false) :
    ∀ x ∈ replaceAllMarked new parts l, x.2 = false := by
  induction parts generalizing l with
  | nil => exact h
  | cons part parts ih => exact ih (unmarked_replaceMarked h)

/-! ## Counting what was inserted -/

theorem replaceFrom_of_start (hold : old ≠ []) :
    replaceFrom old new 0 (old ++ text) = new ++ replaceFrom old new 0 text := by
  obtain ⟨c, cs, rfl⟩ := List.exists_cons_of_ne_nil hold
  have hfound : (c :: cs).isPrefixOf (c :: (cs ++ text)) = true :=
    List.isPrefixOf_iff_prefix.mpr (List.prefix_append (c :: cs) text)
  rw [List.cons_append, replaceFrom, if_pos hfound, replaceFrom_eq_drop, List.length_cons,
    Nat.add_sub_cancel, List.drop_left]

/-- Where a part without letters of `new` is replaced `n` times: the length, and the letters of
`new` that there are. -/
theorem exists_replacements (hold : old ≠ []) (hforeign : ∀ c ∈ old, c ∉ new)
    (text : List Char) : ∃ n, (replaceFrom old new 0 text).length + n * old.length =
        text.length + n * new.length ∧
      (replaceFrom old new 0 text).countP (· ∈ new) =
        text.countP (· ∈ new) + n * new.length ∧
      (n = 0 → replaceFrom old new 0 text = text) := by
  have hnone : old.countP (· ∈ new) = 0 := by
    rw [List.countP_eq_zero]
    simpa using hforeign
  have hall : new.countP (· ∈ new) = new.length := by
    rw [List.countP_eq_length]
    simp
  induction hlength : text.length using Nat.strongRecOn generalizing text with
  | ind n ih =>
    by_cases hfound : old <+: text
    · obtain ⟨after, rfl⟩ := hfound
      have hpos := List.length_pos_iff.mpr hold
      rw [List.length_append] at hlength
      obtain ⟨m, hm, hcount, -⟩ := ih after.length (by omega) after rfl
      refine ⟨m + 1, ?_, ?_, nofun⟩
      · rw [replaceFrom_of_start hold, List.length_append, Nat.succ_mul, Nat.succ_mul]
        omega
      · rw [replaceFrom_of_start hold, List.countP_append, List.countP_append, hcount, hnone, hall,
          Nat.succ_mul]
        omega
    · cases text with
      | nil => exact ⟨0, by simp [replaceFrom, ← hlength], by simp [replaceFrom], fun _ => rfl⟩
      | cons c cs =>
        have hstep : replaceFrom old new 0 (c :: cs) = c :: replaceFrom old new 0 cs := by
          rw [replaceFrom, if_neg (mt List.isPrefixOf_iff_prefix.mp hfound)]
        rw [List.length_cons] at hlength
        obtain ⟨m, hm, hcount, hzero⟩ := ih cs.length (by omega) cs rfl
        refine ⟨m, ?_, ?_, ?_⟩
        · rw [hstep, List.length_cons]
          omega
        · rw [hstep, List.countP_cons, List.countP_cons, hcount]
          omega
        · intro hm0
          rw [hstep, hzero hm0]

theorem exists_all_replacements (hempty : ∀ part ∈ parts, part ≠ [])
    (hforeign : ∀ part ∈ parts, ∀ c ∈ part, c ∉ new) (text : List Char) :
    ∃ n, (replaceAllFrom new parts text).countP (· ∈ new) =
        text.countP (· ∈ new) + n * new.length ∧
      (n = 0 → replaceAllFrom new parts text = text) := by
  induction parts generalizing text with
  | nil => exact ⟨0, by simp [replaceAllFrom], fun _ => rfl⟩
  | cons part parts ih =>
    rw [List.forall_mem_cons] at hempty hforeign
    obtain ⟨n, -, hcount, hzero⟩ := exists_replacements hempty.1 hforeign.1 text
    obtain ⟨m, hlater, hzero'⟩ := ih hempty.2 hforeign.2 (replaceFrom part new 0 text)
    refine ⟨n + m, ?_, fun hnone => ?_⟩
    · rw [replaceAllFrom, List.foldl_cons, ← replaceAllFrom, hlater, hcount, Nat.add_mul,
        Nat.add_assoc]
    · rw [replaceAllFrom, List.foldl_cons, ← replaceAllFrom, hzero' (by omega), hzero (by omega)]

theorem not_infix_append_of_foreign (hempty : part ≠ []) (hforeign : ∀ c ∈ part, c ∉ new)
    (h : ¬ part <:+: text) : ¬ part <:+: new ++ text := by
  by_cases hnew : new = []
  · rwa [hnew, List.nil_append]
  · exact fun hfound => h ((detached_of_disjoint hempty hnew hforeign).infix_of_append hfound)

theorem replaceAllMarked_of_not_infix (h : ∀ part ∈ parts, ¬ part <:+: l.map Prod.fst) :
    replaceAllMarked new parts l = l := by
  induction parts with
  | nil => rfl
  | cons part parts ih =>
    rw [List.forall_mem_cons] at h
    rw [replaceAllMarked, List.foldl_cons, replaceMarked_of_not_infix h.1]
    exact ih h.2

/-! ## What the laws require -/

/-- The parts are replaced alike in any order, and nothing marked is left. -/
structure Clean (new : List Char) (parts : List (List Char)) : Prop where
  same : ∀ text walk walk', walk.Perm parts → walk'.Perm parts →
    replaceAllFrom new walk text = replaceAllFrom new walk' text
  unmarked : ∀ text walk, walk.Perm parts →
    ∀ x ∈ replaceAllMarked new walk (marked parts text), x.2 = false

section Clean

variable (hclean : Clean new parts) (hempty : ∀ part ∈ parts, part ≠ [])
  (hforeign : ∀ part ∈ parts, ∀ c ∈ part, c ∉ new) (hnew : new ≠ [])

include hclean hempty hforeign hnew

theorem Clean.eq_of_infix (hs : s ∈ parts) (ht : t ∈ parts) (h : t <:+: s) : t = s := by
  have hforeign' : ∀ part ∈ parts, ¬ part <:+: new := fun part hpart hinside => by
    obtain ⟨c, hc⟩ := List.exists_mem_of_ne_nil part (hempty part hpart)
    exact hforeign part hpart c hc (hinside.subset hc)
  have hpos := List.length_pos_iff.mpr hnew
  have hnone : s.countP (· ∈ new) = 0 := by
    rw [List.countP_eq_zero]
    simpa using hforeign s hs
  -- with `s` first, one replacement is made
  have hfirst : replaceAllFrom new (s :: parts.erase s) s = new := by
    have hone : replaceFrom s new 0 s = new := by
      have hstep : replaceFrom s new 0 (s ++ []) = new ++ replaceFrom s new 0 [] :=
        replaceFrom_of_start (hempty s hs)
      rwa [List.append_nil, replaceFrom, List.append_nil] at hstep
    have hrest : replaceAllMarked new (parts.erase s) (plain new) = plain new :=
      replaceAllMarked_of_not_infix fun part hpart => by
        rw [map_fst_plain]
        exact hforeign' part (List.mem_of_mem_erase hpart)
    have hfst := congrArg (List.map Prod.fst) hrest
    rw [map_fst_replaceAllMarked, map_fst_plain] at hfst
    rw [replaceAllFrom, List.foldl_cons, hone]
    exact hfst
  have hsame := hclean.same s _ _ (List.perm_cons_erase ht).symm (List.perm_cons_erase hs).symm
  rw [hfirst, replaceAllFrom, List.foldl_cons, ← replaceAllFrom] at hsame
  -- with `t` first, it is made by `t`, and nothing of `s` is left
  obtain ⟨n, hlength, hcount, hzero⟩ := exists_replacements (hempty t ht) (hforeign t ht) s
  have hempty' : ∀ part ∈ parts.erase t, part ≠ [] := fun part hpart =>
    hempty part (List.mem_of_mem_erase hpart)
  obtain ⟨m, hlater, hzero'⟩ := exists_all_replacements hempty'
    (fun part hpart => hforeign part (List.mem_of_mem_erase hpart)) (replaceFrom t new 0 s)
  have hall : new.countP (· ∈ new) = new.length := by
    rw [List.countP_eq_length]
    simp
  rw [hsame, hall, hcount, hnone, Nat.zero_add, ← Nat.add_mul] at hlater
  have hsum : n + m = 1 := Nat.eq_of_mul_eq_mul_right hpos (by rw [← hlater, Nat.one_mul])
  have hn : n ≠ 0 := by
    intro hn
    have hgone : ¬ t <:+: replaceFrom t new 0 s :=
      (detached_of_disjoint (hempty t ht) hnew (hforeign t ht)).not_infix_replaceFrom
    rw [hzero hn] at hgone
    exact hgone h
  obtain rfl : n = 1 := by omega
  have hresult : replaceFrom t new 0 s = new := (hzero' (by omega)).symm.trans hsame
  rw [hresult] at hlength
  exact h.eq_of_length (by omega)

/-- **Parts that are replaced cleanly never overlap.** -/
theorem Clean.noOverlap : NoOverlap parts := by
  intro s hs t ht k hk h
  by_cases hinside : t <+: s.drop k
  · have heq := hclean.eq_of_infix hempty hforeign hnew hs ht
      (hinside.isInfix.trans (List.drop_suffix k s).isInfix)
    subst heq
    have hle := hinside.length_le
    rw [List.length_drop] at hle
    exact ⟨by omega, rfl⟩
  · -- `t` starts in `s` and ends behind it, with `v`: replacing `s` first leaves `v`
    have hcross := h.resolve_right hinside
    obtain ⟨v, hv⟩ := hcross
    have hvempty : v ≠ [] := by
      rintro rfl
      rw [List.append_nil] at hv
      exact hinside (hv ▸ List.prefix_rfl)
    have hgone : ∀ part ∈ parts, ¬ part <:+: v := by
      intro part hpart hlies
      have hsuffix : v <:+: t := hv ▸ (List.suffix_append _ v).isInfix
      have heq := hclean.eq_of_infix hempty hforeign hnew ht hpart (hlies.trans hsuffix)
      subst heq
      have hle := hlies.length_le
      rw [← hv, List.length_append, List.length_drop] at hle
      omega
    have hmarks : (marked parts (s ++ v)).map Prod.fst = s ++ v := map_fst_marked
    have hrest : ((marked parts (s ++ v)).drop s.length).map Prod.fst = v := by
      rw [List.map_drop, hmarks, List.drop_left]
    have hfirst : replaceMarked s new 0 (marked parts (s ++ v)) =
        plain new ++ (marked parts (s ++ v)).drop s.length := by
      rw [replaceMarked_of_start (hempty s hs) (by rw [hmarks]; exact List.prefix_append s v),
        replaceMarked_of_not_infix (by rw [hrest]; exact hgone s hs)]
    have hlater : replaceAllMarked new (parts.erase s)
        (plain new ++ (marked parts (s ++ v)).drop s.length) =
          plain new ++ (marked parts (s ++ v)).drop s.length := by
      refine replaceAllMarked_of_not_infix fun part hpart => ?_
      have hmem := List.mem_of_mem_erase hpart
      rw [List.map_append, map_fst_plain, hrest]
      exact not_infix_append_of_foreign (hempty part hmem) (hforeign part hmem) (hgone part hmem)
    have hunmarked := hclean.unmarked (s ++ v) _ (List.perm_cons_erase hs).symm
    rw [replaceAllMarked, List.foldl_cons, hfirst, ← replaceAllMarked, hlater] at hunmarked
    have hvpos := List.length_pos_iff.mpr hvempty
    have hi : s.length < (s ++ v).length := by
      rw [List.length_append]
      omega
    have hmark := hunmarked _ (List.mem_append_right _ (by
      rw [drop_marked hi]
      exact List.mem_cons_self))
    have hcovered : coveredAt parts (s ++ v) s.length = true := by
      rw [coveredAt_iff]
      refine ⟨k, hk.le, t, ht, ?_, ?_⟩
      · rw [← hv, List.length_append, List.length_drop]
        omega
      · rw [List.drop_append_of_le_length hk.le, hv]
    rw [hcovered] at hmark
    cases hmark

end Clean

/-- **Parts that never overlap are replaced cleanly**, when what is inserted forms no new
occurrences. -/
theorem clean_of_detached (hno : NoOverlap parts) (hempty : ∀ part ∈ parts, part ≠ [])
    (hdetached : ∀ part ∈ parts, Detached part new) : Clean new parts := by
  have hscan : ∀ walk, walk.Perm parts → ∀ l,
      replaceAllMarked new walk l = scan new parts 0 l := by
    intro walk hwalk l
    rw [replaceAllMarked_eq_scan
      (fun s hs t ht => hno s (hwalk.mem_iff.mp hs) t (hwalk.mem_iff.mp ht))
      (fun part hpart => hempty part (hwalk.mem_iff.mp hpart))
      fun part hpart => hdetached part (hwalk.mem_iff.mp hpart),
    scan_congr hno hempty fun _ => hwalk.mem_iff]
  constructor
  · intro text walk walk' hwalk hwalk'
    rw [← @map_fst_plain text, ← map_fst_replaceAllMarked, ← map_fst_replaceAllMarked,
      hscan walk hwalk, hscan walk' hwalk']
  · intro text walk hwalk
    rw [hscan walk hwalk]
    exact unmarked_scan hno hempty

theorem clean_of_eq (hno : NoOverlap parts) (hempty : ∀ part ∈ parts, part ≠ [])
    (heq : ∀ s ∈ parts, ∀ t ∈ parts, s = t) : Clean new parts := by
  constructor
  · intro text walk walk' hwalk hwalk'
    have hperm : walk.Perm walk' := hwalk.trans hwalk'.symm
    cases walk with
    | nil => rw [List.nil_perm.mp hperm]
    | cons part walk =>
      have hall : ∀ other ∈ parts, other = part := fun other hother =>
        heq other hother part (hwalk.mem_iff.mp List.mem_cons_self)
      have hleft := List.eq_replicate_iff.mpr
        ⟨rfl, fun other hother => hall other (hwalk.mem_iff.mp hother)⟩
      have hright := List.eq_replicate_iff.mpr
        ⟨rfl, fun other hother => hall other (hwalk'.mem_iff.mp hother)⟩
      rw [hleft, hright, hperm.length_eq]
  · intro text walk hwalk
    have hscan : ∀ x ∈ scan new parts 0 (marked parts text), x.2 = false :=
      unmarked_scan hno hempty
    cases walk with
    | nil =>
      obtain rfl := List.nil_perm.mp hwalk
      rwa [scan_nil, List.drop_zero] at hscan
    | cons part walk =>
      have hpart : part ∈ parts := hwalk.mem_iff.mp List.mem_cons_self
      have hone : ∀ other, other ∈ [part] ↔ other ∈ parts := by
        grind
      rw [← scan_congr hno hempty hone, ← replaceMarked_eq_scan] at hscan
      rw [replaceAllMarked, List.foldl_cons, ← replaceAllMarked]
      exact unmarked_replaceAllMarked hscan

end Replace

end Rhythm.Text
