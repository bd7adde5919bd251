import Rhythm.Overlap
import Rhythm.Runs.RequestSummary

/-!
# Rhythm.Runs.KnownValues

`maskKnownValue` replaces the known secrets one after the other, in the order in which Go
walks the map.  When does the order not matter, and is no letter left of what was a
secret in the text?

Letters of the text carry a mark where a secret stands, so that "a fragment of an
original occurrence" is a marked letter of the result.
-/

namespace Rhythm.Runs

open Text

/-! ## The secrets of a walk -/

def secretOf (entry : String × String) : Option (List Char) :=
  if entry.2 = "" ∨ ¬ knownKey entry.1 then none else some entry.2.toList

/-- The values that are replaced, in the order of the walk. -/
def secretsOf (known : Values) : List (List Char) := known.filterMap secretOf

/-- No occurrence of a secret overlaps another one, and no secret touches the mask, unless there is
only one. -/
def SecretsApart (known : Values) : Prop :=
  NoOverlap (secretsOf known) ∧
    ((∀ s ∈ secretsOf known, ∀ t ∈ secretsOf known, s = t) ∨
      ∀ secret ∈ secretsOf known, Detached secret mask.toList)

instance (known : Values) : Decidable (SecretsApart known) :=
  inferInstanceAs (Decidable (_ ∧ ((∀ _ ∈ _, ∀ _ ∈ _, _) ∨ ∀ _ ∈ _, _)))

/-- The text as it is masked, with the letters marked that stood in an occurrence of a secret. -/
def maskMarked (text : String) (known walk : Values) : List (Char × Bool) :=
  replaceAllMarked mask.toList (secretsOf walk) (marked (secretsOf known) text.toList)

/-- Every walk over the map masks every text alike, and leaves no letter of any occurrence of a
secret. -/
structure MasksCleanly (known : Values) : Prop where
  same : ∀ text walk walk', walk.Perm known → walk'.Perm known →
    maskKnownValue text walk = maskKnownValue text walk'
  gone : ∀ text walk, walk.Perm known → ∀ x ∈ maskMarked text known walk, x.2 = false

variable {known walk : Values} {text : String} {entry : String × String}

theorem ne_nil_of_secret : ∀ secret ∈ secretsOf known, secret ≠ [] := by
  intro secret hsecret
  obtain ⟨entry, -, hentry⟩ := List.mem_filterMap.mp hsecret
  rw [secretOf] at hentry
  split at hentry
  · cases hentry
  · next hused =>
    obtain rfl := Option.some.inj hentry
    intro hempty
    exact hused (.inl (String.toList_eq_nil_iff.mp hempty))

theorem toList_maskKnownValue : (maskKnownValue text walk).toList =
    replaceAllFrom mask.toList (secretsOf walk) text.toList := by
  induction walk generalizing text with
  | nil => rfl
  | cons entry walk ih =>
    rw [maskKnownValue, List.foldl_cons, ← maskKnownValue, ih, secretsOf, secretsOf,
      List.filterMap_cons]
    by_cases hskip : entry.2 = "" ∨ ¬ knownKey entry.1
    · rw [secretOf, if_pos hskip, if_pos hskip]
    · have hempty : entry.2 ≠ "" := fun hempty => hskip (.inl hempty)
      rw [secretOf, if_neg hskip, if_neg hskip, replaceAll, if_neg hempty, String.toList_ofList]
      rfl

theorem exists_walk (known : Values) (secrets : List (List Char))
    (h : secrets.Perm (secretsOf known)) : ∃ walk, walk.Perm known ∧ secretsOf walk = secrets := by
  induction secrets generalizing known with
  | nil => exact ⟨known, .refl known, (List.nil_perm.mp h)⟩
  | cons secret secrets ih =>
    obtain ⟨entry, hentry, hsecret⟩ :=
      List.mem_filterMap.mp (h.mem_iff.mp List.mem_cons_self)
    have hfirst := List.perm_cons_erase hentry
    have hrest := h.trans (hfirst.filterMap secretOf)
    rw [List.filterMap_cons_some hsecret] at hrest
    obtain ⟨walk, hwalk, rfl⟩ := ih (known.erase entry) hrest.cons_inv
    exact ⟨entry :: walk, (hwalk.cons entry).trans hfirst.symm,
      List.filterMap_cons_some hsecret⟩

theorem masksCleanly_iff_clean :
    MasksCleanly known ↔ Clean mask.toList (secretsOf known) := by
  constructor
  · intro h
    constructor
    · intro text order order' horder horder'
      obtain ⟨walk, hwalk, rfl⟩ := exists_walk known order horder
      obtain ⟨walk', hwalk', rfl⟩ := exists_walk known order' horder'
      have hsame := congrArg String.toList (h.same (String.ofList text) walk walk' hwalk hwalk')
      rwa [toList_maskKnownValue, toList_maskKnownValue, String.toList_ofList] at hsame
    · intro text order horder
      obtain ⟨walk, hwalk, rfl⟩ := exists_walk known order horder
      have hgone := h.gone (String.ofList text) walk hwalk
      rwa [maskMarked, String.toList_ofList] at hgone
  · intro h
    constructor
    · intro text walk walk' hwalk hwalk'
      apply String.toList_inj.mp
      rw [toList_maskKnownValue, toList_maskKnownValue]
      exact h.same _ _ _ (hwalk.filterMap secretOf) (hwalk'.filterMap secretOf)
    · intro text walk hwalk
      exact h.unmarked _ _ (hwalk.filterMap secretOf)

/-- **Secrets that stand apart are masked cleanly.**  Among secrets without a letter of the mask, no
others are. -/
theorem masksCleanly_of_apart (known : Values) :
    (SecretsApart known → MasksCleanly known) ∧
      ((∀ secret ∈ secretsOf known, ∀ c ∈ secret, c ∉ mask.toList) →
        (MasksCleanly known ↔ SecretsApart known)) := by
  have hmask : mask.toList ≠ [] := by decide
  have hclean : SecretsApart known → MasksCleanly known := by
    rintro ⟨hno, heq | hdetached⟩
    · exact masksCleanly_iff_clean.mpr (clean_of_eq hno ne_nil_of_secret heq)
    · exact masksCleanly_iff_clean.mpr (clean_of_detached hno ne_nil_of_secret hdetached)
  refine ⟨hclean, fun hforeign => ⟨fun h => ?_, hclean⟩⟩
  have hno := (masksCleanly_iff_clean.mp h).noOverlap ne_nil_of_secret hforeign hmask
  exact ⟨hno, .inr fun secret hsecret =>
    detached_of_disjoint (ne_nil_of_secret secret hsecret) hmask (hforeign secret hsecret)⟩

/-- Two secrets that share no letter. -/
theorem masksCleanly_of_apart_pair :
    MasksCleanly [("secrets.a", "ab"), ("secrets.b", "cd")] :=
  (masksCleanly_of_apart [("secrets.a", "ab"), ("secrets.b", "cd")]).1 (by decide)

/-- Two secrets that overlap: what is left depends on the walk. -/
theorem overlapping_secrets :
    ¬ MasksCleanly [("secrets.a", "ab"), ("secrets.b", "bc")] := by
  intro h
  have hsame := h.same "abc" _ _ (.refl _) (.swap ("secrets.a", "ab") ("secrets.b", "bc") [])
  exact absurd hsame (by decide)

end Rhythm.Runs
