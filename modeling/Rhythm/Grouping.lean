import Mathlib.Data.List.Induction
import Mathlib.Data.List.Sort

/-!
# Rhythm.Grouping

Rows that a loop reads one by one into groups, one group for each key, in the
order in which the keys first appear; and what is left of the groups when only
the first rows are read.  This module names nothing of the component that uses
it.
-/

namespace Rhythm

variable {ρ γ κ : Type} [DecidableEq κ]

/-! ## First rows -/

section Firsts

variable (key : ρ → κ)

def firsts : List ρ → List ρ
  | [] => []
  | row :: rows => row :: (firsts rows).filter fun other => key other ≠ key row

theorem firsts_sublist (rows : List ρ) : (firsts key rows).Sublist rows := by
  induction rows with
  | nil => exact .slnil
  | cons row rows ih => exact (List.filter_sublist.trans ih).cons_cons row

theorem mem_map_firsts {rows : List ρ} {k : κ} :
    k ∈ (firsts key rows).map key ↔ k ∈ rows.map key := by
  induction rows with
  | nil => rfl
  | cons row rows ih =>
    grind [firsts]

theorem nodup_map_firsts (rows : List ρ) : ((firsts key rows).map key).Nodup := by
  induction rows with
  | nil => exact List.nodup_nil
  | cons row rows ih =>
    rw [firsts, List.map_cons, List.nodup_cons]
    exact ⟨by simp, ih.sublist (List.filter_sublist.map key)⟩

theorem firsts_append (rows others : List ρ) :
    firsts key (rows ++ others) =
      firsts key rows ++ (firsts key others).filter fun other => key other ∉ rows.map key := by
  induction rows with
  | nil => simp [firsts]
  | cons row rows ih =>
    rw [List.cons_append, firsts, firsts, ih, List.filter_append, List.filter_filter,
      List.cons_append]
    congr 2
    apply List.filter_congr
    intro other _
    simp

end Firsts

/-! ## Groups -/

section Collect

variable (key : ρ → κ) (name : γ → κ) (start : ρ → γ) (add : γ → ρ → γ)

/-- One more row: it joins the group of its key, or starts it. -/
def collectRow (groups : List γ) (row : ρ) : List γ :=
  if ∃ group ∈ groups, name group = key row then
    groups.map fun group => if name group = key row then add group row else group
  else groups ++ [add (start row) row]

def groupOf (rows : List ρ) (first : ρ) : γ :=
  (rows.filter fun row => key row = key first).foldl add (start first)

variable {add}

omit [DecidableEq κ] in
theorem name_foldl (hadd : ∀ group row, name (add group row) = name group) (rows : List ρ)
    (group : γ) : name (rows.foldl add group) = name group := by
  induction rows generalizing group with
  | nil => rfl
  | cons row rows ih => rw [List.foldl_cons, ih, hadd]

/-- **Groups.**  The loop gives for each key the rows that have it, by first appearance. -/
theorem foldl_collectRow (hstart : ∀ row, name (start row) = key row)
    (hadd : ∀ group row, name (add group row) = name group) (rows : List ρ) :
    rows.foldl (collectRow key name start add) [] =
      (firsts key rows).map (groupOf key start add rows) := by
  have hname : ∀ rows first, name (groupOf key start add rows first) = key first := by
    intro rows first
    rw [groupOf, name_foldl name hadd, hstart]
  induction rows using List.reverseRecOn with
  | nil => rfl
  | append_singleton rows row ih =>
    have hgroup : ∀ first, groupOf key start add (rows ++ [row]) first =
        if key first = key row then add (groupOf key start add rows first) row
        else groupOf key start add rows first := by
      intro first
      by_cases hkey : key first = key row
      · simp [groupOf, hkey]
      · simp [groupOf, hkey, Ne.symm hkey]
    have hknown : (∃ group ∈ (firsts key rows).map (groupOf key start add rows),
        name group = key row) ↔ key row ∈ rows.map key := by
      rw [← mem_map_firsts]
      simp [hname]
    rw [List.foldl_append, ih, List.foldl_cons, List.foldl_nil, collectRow, firsts_append,
      List.map_append]
    by_cases hmem : key row ∈ rows.map key
    · rw [if_pos (hknown.mpr hmem), List.map_map]
      have hnone : (firsts key [row]).filter (fun other => key other ∉ rows.map key) = [] := by
        simpa [firsts] using hmem
      rw [hnone, List.map_nil, List.append_nil]
      apply List.map_congr_left
      intro first _
      rw [hgroup, Function.comp_apply, hname]
    · rw [if_neg (mt hknown.mp hmem)]
      have hnew : (firsts key [row]).filter (fun other => key other ∉ rows.map key) = [row] := by
        simpa [firsts] using hmem
      rw [hnew]
      congr 1
      · grind [List.map_congr_left, mem_map_firsts, List.mem_map_of_mem]
      · have hempty : rows.filter (fun other => key other = key row) = [] := by
          grind [List.filter_eq_nil_iff, List.mem_map_of_mem]
        rw [List.map_singleton, hgroup, if_pos rfl, groupOf, hempty, List.foldl_nil]

end Collect

/-! ## Sorted rows -/

omit [DecidableEq κ] in
theorem filter_insertionSort {before : ρ → ρ → Prop} [DecidableRel before] [Std.Total before]
    [IsTrans ρ before] (p : ρ → Prop) [DecidablePred p] (rows : List ρ) :
    (rows.insertionSort before).filter p = (rows.filter p).insertionSort before := by
  have hinsert : ∀ (row : ρ) (sorted : List ρ), sorted.Pairwise before →
      (sorted.orderedInsert before row).filter p =
        if p row then (sorted.filter p).orderedInsert before row else sorted.filter p := by
    intro row sorted hsorted
    induction sorted with
    | nil => by_cases hp : p row <;> simp [hp]
    | cons first sorted ih =>
      obtain ⟨hfirst, hrest⟩ := List.pairwise_cons.mp hsorted
      by_cases hbefore : before row first
      · rw [List.orderedInsert, if_pos hbefore]
        by_cases hp : p row
        · have hall : ∀ other ∈ (first :: sorted).filter p, before row other := by
            intro other hother
            rcases List.mem_cons.mp (List.mem_of_mem_filter hother) with rfl | hmem
            · exact hbefore
            · exact IsTrans.trans _ _ _ hbefore (hfirst other hmem)
          have hhead : ((first :: sorted).filter p).orderedInsert before row =
              row :: (first :: sorted).filter p := by
            cases hrows : (first :: sorted).filter p with
            | nil => rfl
            | cons other others =>
              rw [List.orderedInsert, if_pos (hall other (hrows ▸ List.mem_cons_self))]
          rw [List.filter_cons_of_pos (by simpa using hp), if_pos hp, hhead]
        · rw [List.filter_cons_of_neg (by simpa using hp), if_neg hp]
      · rw [List.orderedInsert, if_neg hbefore]
        by_cases hp : p first
        · rw [List.filter_cons_of_pos (by simpa using hp), ih hrest,
            List.filter_cons_of_pos (by simpa using hp), List.orderedInsert, if_neg hbefore]
          split <;> rfl
        · rw [List.filter_cons_of_neg (by simpa using hp), ih hrest,
            List.filter_cons_of_neg (by simpa using hp)]
  induction rows with
  | nil => rfl
  | cons row rows ih =>
    rw [List.insertionSort_cons, hinsert row _ (List.pairwise_insertionSort before rows), ih]
    by_cases hp : p row
    · rw [if_pos hp, List.filter_cons_of_pos (by simpa using hp), List.insertionSort_cons]
    · rw [if_neg hp, List.filter_cons_of_neg (by simpa using hp)]

omit [DecidableEq κ] in
theorem forall_mem_drop_of_le_countP {p : ρ → Prop} [DecidablePred p] {rows : List ρ} {n : Nat}
    (hup : rows.Pairwise fun a b => p a → p b)
    (hcount : (rows.drop n).length ≤ rows.countP p) : ∀ row ∈ rows.drop n, p row := by
  induction rows generalizing n with
  | nil => simp
  | cons first rows ih =>
    obtain ⟨hfirst, hrest⟩ := List.pairwise_cons.mp hup
    by_cases hp : p first
    · intro row hrow
      rcases List.mem_cons.mp (List.mem_of_mem_drop hrow) with rfl | hmem
      · exact hp
      · exact hfirst row hmem hp
    · rw [List.countP_cons_of_neg (by simpa using hp)] at hcount
      cases n with
      | zero =>
        have hle := List.countP_le_length (p := fun row => decide (p row)) (l := rows)
        rw [List.drop_zero, List.length_cons] at hcount
        omega
      | succ n => exact ih hrest hcount

end Rhythm
