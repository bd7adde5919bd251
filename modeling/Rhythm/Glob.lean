import Mathlib.Data.Char
import Mathlib.Data.Finset.Max
import Mathlib.Data.Finset.Powerset
import Mathlib.Data.Finset.Union

/-!
# Rhythm.Glob

Patterns with wildcards.  A pattern is read rune by rune, which leaves suffixes of it, so that the
patterns of a list have finitely many states together.  `always` goes through these states, and
decides whether every text meets a condition on which of the patterns match it.
-/

namespace Rhythm.Glob

/-! ## What is reached in a finite graph -/

section Explore

variable {σ : Type*} [DecidableEq σ] (next : σ → Finset σ)

/-- The states that are reached from those seen, when the fuel lasts. -/
def explore : Nat → Finset σ → Finset σ
  | 0, seen => seen
  | fuel + 1, seen =>
    let seen' := seen ∪ seen.biUnion next
    if seen' = seen then seen else explore fuel seen'

variable {next}

theorem subset_explore (fuel : Nat) (seen : Finset σ) : seen ⊆ explore next fuel seen := by
  induction fuel generalizing seen with
  | zero => exact Finset.Subset.refl seen
  | succ fuel ih =>
    rw [explore]
    split
    · exact Finset.Subset.refl seen
    · exact Finset.Subset.trans Finset.subset_union_left (ih _)

theorem explore_induction {P : σ → Prop} (hnext : ∀ s, P s → ∀ t ∈ next s, P t) (fuel : Nat)
    (seen : Finset σ) (hseen : ∀ s ∈ seen, P s) : ∀ s ∈ explore next fuel seen, P s := by
  induction fuel generalizing seen with
  | zero => exact hseen
  | succ fuel ih =>
    grind [explore]

theorem next_subset_explore (states : Finset σ) (hstates : ∀ s ∈ states, next s ⊆ states)
    (fuel : Nat) (seen : Finset σ) (hseen : seen ⊆ states)
    (hfuel : states.card < seen.card + fuel) :
    ∀ s ∈ explore next fuel seen, next s ⊆ explore next fuel seen := by
  induction fuel generalizing seen with
  | zero =>
    have hcard := Finset.card_le_card hseen
    omega
  | succ fuel ih =>
    rw [explore]
    split
    · grind
    · rename_i hgrows
      have hsub : seen ⊆ seen ∪ seen.biUnion next := Finset.subset_union_left
      have hcard := Finset.card_lt_card (hsub.ssubset_of_ne (Ne.symm hgrows))
      apply ih
      · refine Finset.union_subset hseen (Finset.biUnion_subset.mpr fun s hs => ?_)
        exact hstates s (hseen hs)
      · omega

end Explore

/-! ## Patterns -/

/-- A set of runes: some ranges, or what is in none of them. -/
structure RuneSet where
  negated : Bool
  ranges : List (Char × Char)
  deriving DecidableEq

namespace RuneSet

def mem (s : RuneSet) (c : Char) : Bool :=
  (s.ranges.any fun range => range.1 ≤ c && c ≤ range.2) != s.negated

def single (c : Char) : RuneSet := ⟨false, [(c, c)]⟩

def except (runes : List Char) : RuneSet := ⟨true, runes.map fun c => (c, c)⟩

end RuneSet

/-- A part of a pattern: one rune of a set, or any number of them. -/
inductive Term where
  | one (set : RuneSet)
  | star (set : RuneSet)
  deriving DecidableEq

def Term.set : Term → RuneSet
  | one set => set
  | star set => set

def nullable : List Term → Bool
  | [] => true
  | .one _ :: _ => false
  | .star _ :: terms => nullable terms

def derive (c : Char) : List Term → List (List Term)
  | [] => []
  | .one set :: terms => if set.mem c then [terms] else []
  | .star set :: terms => (if set.mem c then [.star set :: terms] else []) ++ derive c terms

def matchTerms : List Term → List Char → Bool
  | terms, [] => nullable terms
  | terms, c :: text => (derive c terms).any fun rest => matchTerms rest text

theorem suffix_of_mem_derive {c : Char} {terms rest : List Term} (h : rest ∈ derive c terms) :
    rest <:+ terms := by
  induction terms with
  | nil => simp [derive] at h
  | cons term terms ih =>
    cases term with
    | one set =>
      rw [derive] at h
      split at h
      · rw [List.mem_singleton] at h
        exact h ▸ List.suffix_cons _ terms
      · contradiction
    | star set =>
      grind [derive, List.mem_singleton, List.suffix_refl, List.suffix_cons]

theorem derive_congr {c d : Char} {terms : List Term}
    (h : ∀ term ∈ terms, term.set.mem c = term.set.mem d) : derive c terms = derive d terms := by
  induction terms with
  | nil => rfl
  | cons term terms ih =>
    obtain ⟨hterm, hterms⟩ := List.forall_mem_cons.mp h
    cases term with
    | one set => rw [derive, derive, show set.mem c = set.mem d from hterm]
    | star set => rw [derive, derive, show set.mem c = set.mem d from hterm, ih hterms]

/-! ## Patterns side by side -/

/-- Patterns, each with what may be left of it. -/
abbrev State := Finset (List Term × List Term)

def start (globs : List (List Term)) : State := (globs.map fun terms => (terms, terms)).toFinset

def step (state : State) (c : Char) : State :=
  state.biUnion fun p => ((derive c p.2).map fun rest => (p.1, rest)).toFinset

def accepts (state : State) (terms : List Term) : Bool :=
  decide (∃ p ∈ state, p.1 = terms ∧ nullable p.2 = true)

def suffixes (globs : List (List Term)) : State :=
  (globs.flatMap fun terms => terms.tails.map fun rest => (terms, rest)).toFinset

section State

variable {globs : List (List Term)} {state : State} {terms rest : List Term} {c : Char}

theorem mem_start : (terms, rest) ∈ start globs ↔ terms ∈ globs ∧ rest = terms := by
  grind [start, List.mem_toFinset, Prod.mk.injEq]

theorem mem_step :
    (terms, rest) ∈ step state c ↔ ∃ left, (terms, left) ∈ state ∧ rest ∈ derive c left := by
  grind [step, List.mem_toFinset, Prod.mk.injEq]

theorem mem_suffixes : (terms, rest) ∈ suffixes globs ↔ terms ∈ globs ∧ rest <:+ terms := by
  grind [suffixes, List.mem_toFinset, List.mem_tails, Prod.mk.injEq]

theorem start_subset : start globs ⊆ suffixes globs := by
  rintro ⟨terms, rest⟩ h
  obtain ⟨hterms, rfl⟩ := mem_start.mp h
  exact mem_suffixes.mpr ⟨hterms, List.suffix_refl rest⟩

theorem step_subset (h : state ⊆ suffixes globs) : step state c ⊆ suffixes globs := by
  rintro ⟨terms, rest⟩ hrest
  obtain ⟨left, hleft, hrest⟩ := mem_step.mp hrest
  obtain ⟨hterms, hsuffix⟩ := mem_suffixes.mp (h hleft)
  exact mem_suffixes.mpr ⟨hterms, (suffix_of_mem_derive hrest).trans hsuffix⟩

theorem accepts_foldl (text : List Char) (state : State) (terms : List Term) :
    accepts (text.foldl step state) terms = true ↔
      ∃ left, (terms, left) ∈ state ∧ matchTerms left text = true := by
  induction text generalizing state with
  | nil =>
    rw [List.foldl_nil, accepts, decide_eq_true_iff]
    constructor
    · rintro ⟨⟨terms, left⟩, hstate, rfl, hnullable⟩
      exact ⟨left, hstate, hnullable⟩
    · rintro ⟨left, hstate, hnullable⟩
      exact ⟨(terms, left), hstate, rfl, hnullable⟩
  | cons c text ih =>
    grind [mem_step, matchTerms, List.any_eq_true]

theorem accepts_start (text : List Char) (h : terms ∈ globs) :
    accepts (text.foldl step (start globs)) terms = matchTerms terms text := by
  rw [Bool.eq_iff_iff, accepts_foldl]
  constructor
  · rintro ⟨left, hleft, hmatch⟩
    obtain ⟨-, rfl⟩ := mem_start.mp hleft
    exact hmatch
  · intro hmatch
    exact ⟨terms, mem_start.mpr ⟨h, rfl⟩, hmatch⟩

end State

/-! ## Letters -/

def RuneSet.boundaries (s : RuneSet) : List Char :=
  s.ranges.flatMap fun range => range.1 :: range.2.succ?.toList

/-- Every rune lies in the same sets of the patterns as one of these. -/
def letters (globs : List (List Term)) : List Char :=
  Char.ofNat 0 :: globs.flatMap fun terms => terms.flatMap fun term => term.set.boundaries

theorem lt_iff_succ (c d : Char) : c < d ↔ ∃ e, c.succ? = some e ∧ e ≤ d := by
  rw [Char.lt_iff_ordinal_lt, Char.succ?_eq]
  constructor
  · intro hlt
    have hbound : c.ordinal.val + 1 < Char.numCodePoints := by
      have := d.ordinal.isLt
      omega
    refine ⟨Char.ofOrdinal ⟨c.ordinal + 1, hbound⟩, ?_, ?_⟩
    · rw [Fin.addNat?_eq_some hbound, Option.map_some]
    · rw [Char.le_iff_ordinal_le, Char.ordinal_ofOrdinal]
      exact hlt
  · rintro ⟨e, he, hle⟩
    rw [Option.map_eq_some_iff] at he
    obtain ⟨i, hi, rfl⟩ := he
    obtain ⟨-, hi⟩ := Fin.addNat?_eq_some_iff.mp hi
    rw [Char.le_iff_ordinal_le, Char.ordinal_ofOrdinal, Fin.le_def] at hle
    rw [Fin.lt_def]
    omega

theorem RuneSet.mem_congr {s : RuneSet} {c d : Char} (hle : d ≤ c)
    (h : ∀ e ∈ s.boundaries, e ≤ c → e ≤ d) : s.mem c = s.mem d := by
  have hranges : ∀ range ∈ s.ranges,
      (range.1 ≤ c && c ≤ range.2) = (range.1 ≤ d && d ≤ range.2) := by
    intro range hrange
    have hlow : range.1 ≤ c ↔ range.1 ≤ d :=
      ⟨h range.1 (List.mem_flatMap.mpr ⟨range, hrange, List.mem_cons_self⟩), fun hd => hd.trans hle⟩
    have hhigh : c ≤ range.2 ↔ d ≤ range.2 := by
      refine ⟨hle.trans, fun hd => ?_⟩
      by_contra hc
      obtain ⟨e, he, hec⟩ := (lt_iff_succ range.2 c).mp (not_le.mp hc)
      have hmem : e ∈ s.boundaries :=
        List.mem_flatMap.mpr ⟨range, hrange, List.mem_cons_of_mem _ (by simp [he])⟩
      exact absurd hd (not_le.mpr ((lt_iff_succ range.2 d).mpr ⟨e, he, h e hmem hec⟩))
    rw [Bool.eq_iff_iff]
    simp [hlow, hhigh]
  have hany : (s.ranges.any fun range => range.1 ≤ c && c ≤ range.2) =
      s.ranges.any fun range => range.1 ≤ d && d ≤ range.2 := by
    rw [Bool.eq_iff_iff, List.any_eq_true, List.any_eq_true]
    exact exists_congr fun range => and_congr_right fun hrange => by rw [hranges range hrange]
  rw [mem, mem, hany]

theorem exists_letter (globs : List (List Term)) (c : Char) :
    ∃ d ∈ letters globs, ∀ terms ∈ globs, ∀ term ∈ terms, term.set.mem c = term.set.mem d := by
  have hnonempty : ((letters globs).toFinset.filter (· ≤ c)).Nonempty := by
    refine ⟨Char.ofNat 0, Finset.mem_filter.mpr ⟨?_, ?_⟩⟩
    · exact List.mem_toFinset.mpr List.mem_cons_self
    · exact Nat.zero_le _
  obtain ⟨d, hd, hmax⟩ := Finset.exists_max_image _ id hnonempty
  obtain ⟨hletter, hle⟩ := Finset.mem_filter.mp hd
  refine ⟨d, List.mem_toFinset.mp hletter, fun terms hterms term hterm => ?_⟩
  refine RuneSet.mem_congr hle fun e he hec => hmax e (Finset.mem_filter.mpr ⟨?_, hec⟩)
  refine List.mem_toFinset.mpr (List.mem_cons_of_mem _ ?_)
  exact List.mem_flatMap.mpr ⟨terms, hterms, List.mem_flatMap.mpr ⟨term, hterm, he⟩⟩

/-! ## The test -/

def nextStates (globs : List (List Term)) (state : State) : Finset State :=
  ((letters globs).map (step state)).toFinset

def explored (globs : List (List Term)) : Finset State :=
  explore (nextStates globs) (2 ^ (suffixes globs).card) {start globs}

/-- The condition holds of the matching patterns in every state. -/
def always (globs : List (List Term)) (condition : (List Term → Bool) → Bool) : Bool :=
  decide (∀ state ∈ explored globs, condition (accepts state) = true)

section Always

variable {globs : List (List Term)} {condition : (List Term → Bool) → Bool}

theorem step_mem_nextStates {state : State} (h : state ⊆ suffixes globs) (c : Char) :
    step state c ∈ nextStates globs state := by
  obtain ⟨d, hd, hsame⟩ := exists_letter globs c
  refine List.mem_toFinset.mpr (List.mem_map.mpr ⟨d, hd, ?_⟩)
  refine Finset.biUnion_congr rfl fun p hp => ?_
  obtain ⟨hterms, hsuffix⟩ := mem_suffixes.mp (h hp)
  rw [derive_congr fun term hterm => hsame p.1 hterms term (hsuffix.subset hterm)]

theorem foldl_mem_explored (text : List Char) :
    text.foldl step (start globs) ∈ explored globs := by
  have hclosed : ∀ state ∈ explored globs, nextStates globs state ⊆ explored globs := by
    apply next_subset_explore (suffixes globs).powerset
    · intro state hstate next hnext
      obtain ⟨c, -, rfl⟩ := List.mem_map.mp (List.mem_toFinset.mp hnext)
      exact Finset.mem_powerset.mpr (step_subset (Finset.mem_powerset.mp hstate))
    · exact Finset.singleton_subset_iff.mpr (Finset.mem_powerset.mpr start_subset)
    · rw [Finset.card_powerset, Finset.card_singleton]
      omega
  have hall : ∀ state ⊆ suffixes globs, state ∈ explored globs →
      text.foldl step state ∈ explored globs := by
    induction text with
    | nil => exact fun state _ hmem => hmem
    | cons c text ih =>
      intro state hstate hmem
      exact ih _ (step_subset hstate) (hclosed state hmem (step_mem_nextStates hstate c))
  exact hall _ start_subset (subset_explore _ _ (Finset.mem_singleton_self _))

/-- **The test decides.**  For a condition on whether these patterns match. -/
theorem always_iff
    (hcondition : ∀ f f', (∀ terms ∈ globs, f terms = f' terms) → condition f = condition f') :
    always globs condition = true ↔
      ∀ text : List Char, condition (fun terms => matchTerms terms text) = true := by
  have hread : ∀ text : List Char, condition (accepts (text.foldl step (start globs))) =
      condition fun terms => matchTerms terms text :=
    fun text => hcondition _ _ fun terms hterms => accepts_start text hterms
  rw [always, decide_eq_true_iff]
  constructor
  · intro h text
    rw [← hread]
    exact h _ (foldl_mem_explored text)
  · intro h state hstate
    have hreached : ∃ text : List Char, state = text.foldl step (start globs) := by
      revert state
      apply explore_induction
      · rintro state ⟨text, rfl⟩ next hnext
        obtain ⟨c, -, rfl⟩ := List.mem_map.mp (List.mem_toFinset.mp hnext)
        exact ⟨text ++ [c], by simp⟩
      · intro state hstate
        exact ⟨[], Finset.mem_singleton.mp hstate⟩
    obtain ⟨text, rfl⟩ := hreached
    rw [hread]
    exact h text

end Always

end Rhythm.Glob
