import Mathlib.Data.List.Sort

/-!
# Rhythm.Page

`ORDER BY … LIMIT n`: the first rows of a sorted list, and which rows these
are without sorting — those that fewer than `n` others come before.  This
module names nothing of the component that uses it.
-/

namespace Rhythm

variable {α : Type} (before : α → α → Prop) [DecidableRel before] [DecidableEq α]

/-- `ORDER BY … LIMIT n`. -/
def page (n : Nat) (rows : List α) : List α := (rows.insertionSort before).take n

/-- How many of the rows come before `a`. -/
def rank (rows : List α) (a : α) : Nat := rows.countP fun b => b ≠ a ∧ before b a

variable {before} {rows : List α} {a : α} {n : Nat}

omit [DecidableEq α] in
theorem mem_of_mem_page (h : a ∈ page before n rows) : a ∈ rows :=
  (List.mem_insertionSort before).mp (List.mem_of_mem_take h)

theorem mem_take_iff_rank_lt (hsorted : rows.Pairwise before) (hnodup : rows.Nodup)
    (hantisymm : ∀ b ∈ rows, ∀ c ∈ rows, before b c → before c b → b = c) (ha : a ∈ rows) :
    a ∈ rows.take n ↔ rank before rows a < n := by
  induction rows generalizing n with
  | nil => cases ha
  | cons b rows ih =>
    obtain ⟨hfirst, hrest⟩ := List.pairwise_cons.mp hsorted
    obtain ⟨hfresh, hnodup⟩ := List.nodup_cons.mp hnodup
    cases n with
    | zero => simp
    | succ n =>
      rw [List.take_succ_cons, List.mem_cons]
      rcases List.mem_cons.mp ha with rfl | hmem
      · have hzero : rank before (a :: rows) a = 0 := by
          grind [rank]
        simp [hzero]
      · have hne : a ≠ b := fun heq => hfresh (heq ▸ hmem)
        have hrank : rank before (b :: rows) a = rank before rows a + 1 := by
          rw [rank, List.countP_cons_of_pos]
          · rfl
          · simpa using ⟨hne.symm, hfirst a hmem⟩
        rw [hrank, Nat.add_lt_add_iff_right, ← ih hrest hnodup
          (fun c hc d hd => hantisymm c (List.mem_cons_of_mem b hc) d (List.mem_cons_of_mem b hd))
          hmem]
        simp [hne]

/-- **The rows of a page** are those that fewer than `n` rows come before. -/
theorem mem_page_iff [Std.Total before] [IsTrans α before] (hnodup : rows.Nodup)
    (hantisymm : ∀ b ∈ rows, ∀ c ∈ rows, before b c → before c b → b = c) :
    a ∈ page before n rows ↔ a ∈ rows ∧ rank before rows a < n := by
  have hperm := rows.perm_insertionSort before
  have hrank : rank before (rows.insertionSort before) a = rank before rows a :=
    hperm.countP_eq _
  have hposition : a ∈ rows → (a ∈ page before n rows ↔ rank before rows a < n) := by
    intro ha
    rw [page, ← hrank]
    refine mem_take_iff_rank_lt (List.pairwise_insertionSort before rows)
      (hperm.nodup_iff.mpr hnodup) (fun b hb c hc => ?_) (hperm.mem_iff.mpr ha)
    exact hantisymm b (hperm.mem_iff.mp hb) c (hperm.mem_iff.mp hc)
  constructor
  · intro h
    exact ⟨mem_of_mem_page h, (hposition (mem_of_mem_page h)).mp h⟩
  · rintro ⟨ha, hlt⟩
    exact (hposition ha).mpr hlt

end Rhythm
