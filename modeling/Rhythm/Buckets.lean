import Mathlib.Algebra.Order.BigOperators.Group.List
import Mathlib.Algebra.Order.Group.Nat
import Mathlib.Data.Int.Interval
import Rhythm.Grouping

/-!
# Rhythm.Buckets

Rows in numbered buckets: a series has one point for each bucket that some row is in, with a count
of its rows.  This module names nothing of the component that uses it.

* `Covers.sum_map` — nothing is lost and nothing counted twice;
* `Covers.length_le_iff` — when a window of `n + 1` buckets gives no more than `n` points.
-/

namespace Rhythm

variable {ρ κ : Type} [DecidableEq κ]

/-- Each bucket that some row is in is listed once. -/
structure Covers (key : ρ → κ) (rows : List ρ) (keys : List κ) : Prop where
  nodup : keys.Nodup
  mem_iff : ∀ k, k ∈ keys ↔ ∃ row ∈ rows, key row = k

namespace Covers

variable {key : ρ → κ} {rows : List ρ} {keys : List κ}

theorem map_firsts (key : ρ → κ) (rows : List ρ) :
    Covers key rows ((firsts key rows).map key) where
  nodup := nodup_map_firsts key rows
  mem_iff k := by rw [mem_map_firsts, List.mem_map]

omit [DecidableEq κ] in
theorem of_perm {keys' : List κ} (h : Covers key rows keys) (hperm : keys'.Perm keys) :
    Covers key rows keys' where
  nodup := hperm.nodup_iff.mpr h.nodup
  mem_iff k := hperm.mem_iff.trans (h.mem_iff k)

theorem sum_indicator (hnodup : keys.Nodup) {k : κ} (hk : k ∈ keys) (n : Nat) :
    (keys.map fun other => if k = other then n else 0).sum = n := by
  induction keys with
  | nil => cases hk
  | cons first rest ih =>
    obtain ⟨hfirst, hrest⟩ := List.nodup_cons.mp hnodup
    obtain rfl | hmem := List.mem_cons.mp hk
    · have hnone : (rest.map fun other => if k = other then n else 0).sum = 0 := by
        refine List.sum_eq_zero fun value hvalue => ?_
        obtain ⟨other, hother, rfl⟩ := List.mem_map.mp hvalue
        refine if_neg ?_
        rintro rfl
        exact hfirst hother
      rw [List.map_cons, List.sum_cons, if_pos rfl, hnone, Nat.add_zero]
    · have hne : k ≠ first := fun heq => hfirst (heq ▸ hmem)
      rw [List.map_cons, List.sum_cons, if_neg hne, ih hrest hmem, Nat.zero_add]

/-- **What buckets hold adds up.** -/
theorem sum_map (h : Covers key rows keys) (weight : ρ → Nat) :
    (keys.map fun k => ((rows.filter fun row => key row = k).map weight).sum).sum =
      (rows.map weight).sum := by
  have hcovered : ∀ row ∈ rows, key row ∈ keys := fun row hrow => (h.mem_iff _).mpr ⟨row, hrow, rfl⟩
  have hnodup := h.nodup
  clear h
  induction rows with
  | nil => simp
  | cons row rows ih =>
    have hstep : ∀ k, (((row :: rows).filter fun row => key row = k).map weight).sum =
        (if key row = k then weight row else 0) +
          ((rows.filter fun row => key row = k).map weight).sum := by
      grind
    have hrest := ih fun other hother => hcovered other (List.mem_cons_of_mem _ hother)
    have hfirst := sum_indicator hnodup (hcovered row List.mem_cons_self) (weight row)
    rw [List.map_congr_left fun k _ => hstep k, List.sum_map_add, hrest, hfirst, List.map_cons,
      List.sum_cons]

end Covers

theorem sum_map_eq_iff {f g : ρ → Nat} {rows : List ρ} (hle : ∀ row ∈ rows, f row ≤ g row) :
    (rows.map f).sum = (rows.map g).sum ↔ ∀ row ∈ rows, f row = g row := by
  refine ⟨fun hsum => ?_, fun hall => congrArg List.sum (List.map_congr_left hall)⟩
  induction rows with
  | nil => exact fun row hrow => absurd hrow List.not_mem_nil
  | cons first rest ih =>
    have hrest := fun row hrow => hle row (List.mem_cons_of_mem first hrow)
    have hbound : (rest.map f).sum ≤ (rest.map g).sum := List.sum_le_sum hrest
    have hfirst := hle first List.mem_cons_self
    rw [List.map_cons, List.map_cons, List.sum_cons, List.sum_cons] at hsum
    intro row hrow
    obtain rfl | hmem := List.mem_cons.mp hrow
    · omega
    · exact ih hrest (by omega) row hmem

/-- **How many buckets there are** in a window of `n + 1`: no more than `n` exactly if one is
empty. -/
theorem Covers.length_le_iff {key : ρ → Int} {rows : List ρ} {keys : List Int} {first : Int}
    {n : Nat} (h : Covers key rows keys)
    (hwindow : ∀ row ∈ rows, first ≤ key row ∧ key row ≤ first + n) :
    keys.length ≤ n ↔ ∃ k : Nat, k ≤ n ∧ ∀ row ∈ rows, key row ≠ first + k := by
  have hlength : keys.length = keys.toFinset.card := (List.toFinset_card_of_nodup h.nodup).symm
  have hcard : (Finset.Icc first (first + n)).card = n + 1 := by
    rw [Int.card_Icc]
    omega
  have hsubset : keys.toFinset ⊆ Finset.Icc first (first + n) := by
    intro k hk
    obtain ⟨row, hrow, rfl⟩ := (h.mem_iff k).mp (List.mem_toFinset.mp hk)
    exact Finset.mem_Icc.mpr (hwindow row hrow)
  constructor
  · intro hle
    by_contra hall
    have hfull : Finset.Icc first (first + n) ⊆ keys.toFinset := by
      intro k hk
      obtain ⟨hlow, hhigh⟩ := Finset.mem_Icc.mp hk
      by_contra hmissing
      refine hall ⟨(k - first).toNat, by omega, fun row hrow heq => hmissing ?_⟩
      have hkey : key row = k := by omega
      exact List.mem_toFinset.mpr ((h.mem_iff k).mpr ⟨row, hrow, hkey⟩)
    have hmany := Finset.card_le_card hfull
    omega
  · rintro ⟨k, hk, hmissing⟩
    have hin : first + k ∈ Finset.Icc first (first + n) := Finset.mem_Icc.mpr (by omega)
    have hfewer : keys.toFinset ⊆ (Finset.Icc first (first + n)).erase (first + k) := by
      intro other hother
      obtain ⟨row, hrow, rfl⟩ := (h.mem_iff other).mp (List.mem_toFinset.mp hother)
      exact Finset.mem_erase.mpr ⟨hmissing row hrow, hsubset hother⟩
    have hfew := Finset.card_le_card hfewer
    rw [Finset.card_erase_of_mem hin, hcard] at hfew
    omega

end Rhythm
