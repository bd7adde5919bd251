import Mathlib.Algebra.BigOperators.Group.List.Basic
import Rhythm.Table

/-!
# Rhythm.Totals

Sums over the rows of a table, with values in any commutative monoid, and
what a statement on one row adds to them.  This module names nothing of the
component that uses it.

* `sum_insert` — an inserted row adds its own value;
* `sum_update_key` — a rewritten row trades its old value for its new one;
* `sum_upsert` — an upsert adds the value of its row, when the rewriting does;
* `sum_delete_key` — a deleted row takes its value away.
-/

namespace Rhythm.Table

variable {ρ κ M : Type} {key : ρ → κ} [AddCommMonoid M] {t t' : Table ρ key} {f : ρ → M} {r : ρ}

/-- `SUM(f)` over the rows. -/
def sum (f : ρ → M) (t : Table ρ key) : M := (t.rows.map f).sum

@[simp] theorem sum_empty : (empty : Table ρ key).sum f = 0 := rfl

variable [DecidableEq κ] {g : ρ → ρ} {hg : KeepsKey key g} {k : κ}

theorem sum_insert (h : t.insert r = some t') : t'.sum f = t.sum f + f r := by
  rw [sum, (insert_eq_some_iff.mp h).2]
  simp [sum]

theorem rows_eq_of_get? (h : t.get? k = some r) :
    ∃ before after, t.rows = before ++ r :: after ∧ key r = k ∧
      (∀ row ∈ before, key row ≠ k) ∧ ∀ row ∈ after, key row ≠ k := by
  obtain ⟨hmem, hk⟩ := get?_eq_some_iff.mp h
  obtain ⟨before, after, hrows⟩ := List.append_of_mem hmem
  have hnodup := t.nodup
  rw [hrows, List.map_append, List.map_cons, hk, List.nodup_middle, List.nodup_cons,
    List.mem_append, not_or] at hnodup
  obtain ⟨⟨hbefore, hafter⟩, -⟩ := hnodup
  refine ⟨before, after, hrows, hk, fun row hrow hkey => ?_, fun row hrow hkey => ?_⟩
  · exact hbefore (List.mem_map.mpr ⟨row, hrow, hkey⟩)
  · exact hafter (List.mem_map.mpr ⟨row, hrow, hkey⟩)

theorem exists_sum_update_key (h : t.get? k = some r) :
    ∃ rest, t.sum f = rest + f r ∧
      (t.update (fun row => key row = k) g hg).sum f = rest + f (g r) := by
  obtain ⟨before, after, hrows, hk, hbefore, hafter⟩ := rows_eq_of_get? h
  have hkeep : ∀ rows : List ρ, (∀ row ∈ rows, key row ≠ k) →
      rows.map (fun row => if key row = k then g row else row) = rows := by
    intro rows hother
    refine (List.map_congr_left fun row hrow => ?_).trans (List.map_id rows)
    rw [if_neg (hother row hrow), id_eq]
  refine ⟨(before.map f).sum + (after.map f).sum, ?_, ?_⟩
  · simp [sum, hrows, add_comm, add_left_comm]
  · simp [sum, update, hrows, hkeep before hbefore, hkeep after hafter, hk, add_comm,
      add_left_comm]

/-- **A rewritten row** trades its old value for its new one. -/
theorem sum_update_key (hg : KeepsKey key g) (h : t.get? k = some r) :
    (t.update (fun row => key row = k) g hg).sum f + f r = t.sum f + f (g r) := by
  obtain ⟨rest, hbefore, hafter⟩ : ∃ rest, t.sum f = rest + f r ∧
      (t.update (fun row => key row = k) g hg).sum f = rest + f (g r) := exists_sum_update_key h
  rw [hbefore, hafter, add_right_comm]

theorem sum_update_key_of_eq (hg : KeepsKey key g)
    (h : ∀ row, t.get? k = some row → f (g row) = f row) :
    (t.update (fun row => key row = k) g hg).sum f = t.sum f := by
  rw [sum, sum, update, List.map_map]
  refine congrArg List.sum (List.map_congr_left fun row hrow => ?_)
  rw [Function.comp_apply]
  by_cases hk : key row = k
  · rw [if_pos hk]
    exact h row (get?_eq_some_iff.mpr ⟨hrow, hk⟩)
  · rw [if_neg hk]

/-- **An upsert** adds the value of its row, when the rewriting of a row with that key does. -/
theorem sum_upsert {set : ρ → ρ → ρ} {hset : ∀ r, KeepsKey key (set r)}
    (hadd : ∀ old ∈ t, key old = key r → f (set r old) = f old + f r) :
    (t.upsert set hset r).sum f = t.sum f + f r := by
  unfold upsert
  cases hinsert : t.insert r with
  | some t' => exact sum_insert hinsert
  | none =>
    obtain ⟨old, hold⟩ := insert_eq_none_iff.mp hinsert
    obtain ⟨rest, hbefore, hafter⟩ : ∃ rest, t.sum f = rest + f old ∧
        (t.update (fun row => key row = key r) (set r) (hset r)).sum f = rest + f (set r old) :=
      exists_sum_update_key hold
    rw [Option.getD_none, hbefore, hafter, hadd old (mem_of_get? hold) (key_of_get? hold),
      add_assoc]

/-- **A deleted row** takes its value away. -/
theorem sum_delete_key (h : t.get? k = some r) :
    (t.deleteWhere fun row => key row = k).sum f + f r = t.sum f := by
  obtain ⟨before, after, hrows, hk, hbefore, hafter⟩ := rows_eq_of_get? h
  have hkeep : ∀ rows : List ρ, (∀ row ∈ rows, key row ≠ k) →
      (rows.filter fun row => ¬ key row = k) = rows := by
    intro rows hother
    rw [List.filter_eq_self]
    intro row hrow
    simpa using hother row hrow
  simp only [sum, deleteWhere, hrows, List.filter_append, List.filter_cons, hk,
    hkeep before hbefore, hkeep after hafter]
  simp [add_comm, add_left_comm]

end Rhythm.Table
