import Mathlib.Data.List.Sort
import Rhythm.Numeric

/-!
# Rhythm.Ranks

Percentiles of sorted lists by nearest rank, over any linear order.  This module
names nothing of the component that uses it.

* `nearestRank_le_iff` — a percentile is at most a bound exactly if that share of the
  values is;
* `nearestRank_mono` — higher percentiles are larger;
* `insertionSort_eq_of_perm` — sorting forgets the order.
-/

namespace Rhythm

open Numeric

variable {α : Type}

/-! ## Sorted lists -/

section Sorted

variable [LinearOrder α] {sorted : List α} {bound : α} {i : Nat}

theorem getElem_le_iff_lt_countP (h : sorted.Pairwise (· ≤ ·)) (hi : i < sorted.length) :
    sorted[i] ≤ bound ↔ i < sorted.countP (· ≤ bound) := by
  induction sorted generalizing i with
  | nil => simp at hi
  | cons first rest ih =>
    rw [List.pairwise_cons] at h
    by_cases hfirst : first ≤ bound
    · grind
    · -- No value is within the bound when the first is not.
      grind [List.countP_eq_zero, List.getElem_mem]

theorem getElem_le_getElem_of_pairwise (h : sorted.Pairwise (· ≤ ·)) {j : Nat} (hij : i ≤ j)
    (hj : j < sorted.length) : sorted[i] ≤ sorted[j] := by
  rcases Nat.eq_or_lt_of_le hij with rfl | hlt
  · exact le_rfl
  · exact List.pairwise_iff_getElem.mp h i j (by omega) hj hlt

theorem le_getLast_of_pairwise (h : sorted.Pairwise (· ≤ ·)) {value last : α}
    (hvalue : value ∈ sorted) (hlast : sorted.getLast? = some last) : value ≤ last := by
  obtain ⟨i, hi, rfl⟩ := List.mem_iff_getElem.mp hvalue
  rw [List.getLast?_eq_getElem?, List.getElem?_eq_some_iff] at hlast
  obtain ⟨hlength, rfl⟩ := hlast
  exact getElem_le_getElem_of_pairwise h (by omega) hlength

theorem insertionSort_ne_nil {values : List α} (h : values ≠ []) :
    values.insertionSort (· ≤ ·) ≠ [] := by
  rw [← List.length_pos_iff, List.length_insertionSort]
  exact List.length_pos_iff.mpr h

theorem insertionSort_eq_of_perm {values values' : List α} (h : values.Perm values') :
    values.insertionSort (· ≤ ·) = values'.insertionSort (· ≤ ·) :=
  List.Perm.eq_of_pairwise' (List.pairwise_insertionSort _ _) (List.pairwise_insertionSort _ _)
    (((List.perm_insertionSort _ _).trans h).trans (List.perm_insertionSort _ _).symm)

end Sorted

/-! ## Nearest ranks -/

/-- The index of the nearest rank in a list of `n` values. -/
def rankIndex (percent n : Nat) : Nat := min (ceilPercent percent n - 1) (n - 1)

def nearestRank (sorted : List α) (percent : Nat) : Option α :=
  sorted[rankIndex percent sorted.length]?

section Ranks

variable {sorted : List α} {value value' bound : α} {percent percent' n : Nat}

theorem rankIndex_lt (hn : 0 < n) : rankIndex percent n < n := by
  unfold rankIndex
  omega

theorem rankIndex_mono (h : percent ≤ percent') : rankIndex percent n ≤ rankIndex percent' n := by
  have hproduct : percent * n ≤ percent' * n := Nat.mul_le_mul_right n h
  have hceil : ceilPercent percent n ≤ ceilPercent percent' n :=
    Nat.div_le_div_right (by omega)
  unfold rankIndex
  omega

theorem nearestRank_eq_some_iff : nearestRank sorted percent = some value ↔
    ∃ h : rankIndex percent sorted.length < sorted.length,
      sorted[rankIndex percent sorted.length] = value :=
  List.getElem?_eq_some_iff

theorem exists_nearestRank (h : sorted ≠ []) (percent : Nat) :
    ∃ value ∈ sorted, nearestRank sorted percent = some value :=
  have hindex := rankIndex_lt (List.length_pos_iff.mpr h)
  ⟨_, List.getElem_mem hindex, nearestRank_eq_some_iff.mpr ⟨hindex, rfl⟩⟩

theorem mem_of_nearestRank (h : nearestRank sorted percent = some value) : value ∈ sorted :=
  List.mem_of_getElem? h

variable [LinearOrder α]

/-- **A percentile is within a bound** exactly if its share of the values is. -/
theorem nearestRank_le_iff (hsorted : sorted.Pairwise (· ≤ ·)) (hpos : 0 < percent)
    (hle : percent ≤ 100) (h : nearestRank sorted percent = some value) :
    value ≤ bound ↔ percent * sorted.length ≤ 100 * sorted.countP (· ≤ bound) := by
  obtain ⟨hindex, rfl⟩ := nearestRank_eq_some_iff.mp h
  have hlength : 0 < sorted.length := by omega
  have hshare : percent * sorted.length ≤ 100 * sorted.length := Nat.mul_le_mul_right _ hle
  have hproduct : 0 < percent * sorted.length := Nat.mul_pos hpos hlength
  rw [getElem_le_iff_lt_countP hsorted hindex]
  unfold rankIndex ceilPercent
  omega

theorem nearestRank_mono (hsorted : sorted.Pairwise (· ≤ ·)) (hle : percent ≤ percent')
    (h : nearestRank sorted percent = some value)
    (h' : nearestRank sorted percent' = some value') : value ≤ value' := by
  obtain ⟨hindex, rfl⟩ := nearestRank_eq_some_iff.mp h
  obtain ⟨hindex', rfl⟩ := nearestRank_eq_some_iff.mp h'
  exact getElem_le_getElem_of_pairwise hsorted (rankIndex_mono hle) hindex'

theorem head_le_nearestRank (hsorted : sorted.Pairwise (· ≤ ·))
    (h : nearestRank sorted percent = some value) {first : α} (hfirst : sorted.head? = some first) :
    first ≤ value := by
  obtain ⟨hindex, rfl⟩ := nearestRank_eq_some_iff.mp h
  rw [List.head?_eq_getElem?, List.getElem?_eq_some_iff] at hfirst
  obtain ⟨-, rfl⟩ := hfirst
  exact getElem_le_getElem_of_pairwise hsorted (Nat.zero_le _) hindex

theorem nearestRank_le_getLast (hsorted : sorted.Pairwise (· ≤ ·))
    (h : nearestRank sorted percent = some value) {last : α} (hlast : sorted.getLast? = some last) :
    value ≤ last :=
  le_getLast_of_pairwise hsorted (mem_of_nearestRank h) hlast

end Ranks

end Rhythm
