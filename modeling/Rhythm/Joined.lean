import Mathlib.Data.List.Basic

/-!
# Rhythm.Joined

Lists joined with a separator that they may contain themselves.  This module names nothing
of the component that uses it.

* `intercalate_eq_iff` — two joins are equal exactly if the pieces between their
  separators are;
* `eq_iff_pieces_and_counts` — lists are equal exactly if their pieces are and each has as
  many separators;
* `join_determines_iff` — when a join gives its lists back.
-/

namespace Rhythm

variable {α : Type} [DecidableEq α] {separator : α} {list : List α} {lists lists' : List (List α)}

/-- The pieces between the separators, of all lists in order. -/
def piecesOf (separator : α) (lists : List (List α)) : List (List α) :=
  lists.flatMap (·.splitOn separator)

@[simp] theorem piecesOf_cons : piecesOf separator (list :: lists) =
    list.splitOn separator ++ piecesOf separator lists := rfl

theorem splitOn_intercalate_eq (h : lists ≠ []) :
    ([separator].intercalate lists).splitOn separator = piecesOf separator lists := by
  induction lists with
  | nil => exact absurd rfl h
  | cons list lists ih =>
    cases lists with
    | nil => simp [piecesOf]
    | cons next rest =>
      rw [List.intercalate_cons_cons, List.append_assoc, List.singleton_append,
        List.splitOn_append_cons_self, ih (List.cons_ne_nil _ _)]
      rfl

theorem splitOn_inj {list list' : List α}
    (h : list.splitOn separator = list'.splitOn separator) : list = list' := by
  have hjoin := congrArg [separator].intercalate h
  rwa [List.intercalate_splitOn, List.intercalate_splitOn] at hjoin

/-- **Two joins are equal** exactly if their pieces are. -/
theorem intercalate_eq_iff (h : lists ≠ []) (h' : lists' ≠ []) :
    [separator].intercalate lists = [separator].intercalate lists' ↔
      piecesOf separator lists = piecesOf separator lists' := by
  rw [← splitOn_intercalate_eq h, ← splitOn_intercalate_eq h']
  exact ⟨congrArg _, splitOn_inj⟩

theorem length_splitOn (list : List α) :
    (list.splitOn separator).length = list.count separator + 1 := by
  induction list with
  | nil => rfl
  | cons first rest ih =>
    rw [List.splitOn_cons_eq_if_modifyHead]
    by_cases hfirst : first = separator
    · simp [hfirst, ih]
    · have hne : (first == separator) = false := beq_eq_false_iff_ne.mpr hfirst
      simp [hne, ih, hfirst]

/-- **Lists are equal** exactly if their pieces are and each has as many separators. -/
theorem eq_iff_pieces_and_counts (hlength : lists.length = lists'.length) :
    lists = lists' ↔ piecesOf separator lists = piecesOf separator lists' ∧
      lists.map (·.count separator) = lists'.map (·.count separator) := by
  refine ⟨fun h => h ▸ ⟨rfl, rfl⟩, ?_⟩
  rintro ⟨hpieces, hcounts⟩
  induction lists generalizing lists' with
  | nil => exact (List.eq_nil_of_length_eq_zero hlength.symm).symm
  | cons list lists ih =>
    cases lists' with
    | nil => cases hlength
    | cons list' lists' =>
      rw [List.map_cons, List.map_cons, List.cons.injEq] at hcounts
      have hsame : (list.splitOn separator).length = (list'.splitOn separator).length := by
        rw [length_splitOn, length_splitOn, hcounts.1]
      obtain ⟨hfirst, hrest⟩ := List.append_inj hpieces hsame
      rw [splitOn_inj hfirst, ih (Nat.succ.inj hlength) hrest hcounts.2]

/-- **A join gives its lists back** exactly if equal pieces come with equal counts. -/
theorem join_determines_iff (hlength : lists.length = lists'.length) (h : lists ≠ []) :
    ([separator].intercalate lists = [separator].intercalate lists' → lists = lists') ↔
      (piecesOf separator lists = piecesOf separator lists' →
        lists.map (·.count separator) = lists'.map (·.count separator)) := by
  have h' : lists' ≠ [] := by
    rintro rfl
    exact h (List.eq_nil_of_length_eq_zero hlength)
  rw [intercalate_eq_iff h h', eq_iff_pieces_and_counts hlength]
  exact ⟨fun hboth hpieces => (hboth hpieces).2, fun hcounts hpieces => ⟨hpieces, hcounts hpieces⟩⟩

end Rhythm
