import Mathlib

/-!
# Rhythm.Leaders

The first of the largest items of a list that lie above a bound, as a loop finds it that keeps the
best item so far and takes another one only if it is larger.  This module names nothing of the
component that uses it.

* `leader_eq_some_iff` — what the loop finds;
* `topValue_leader_eq_foldl` — its value is the largest one;
* `topValue_leader_congr` — the largest value does not depend on the order of the items;
* `leader_congr` — and neither does the leader, when it is the only one with that value.
-/

namespace Rhythm

variable {α β : Type} [LinearOrder β] {bound : β} {value : α → β} {items : List α}

def topValue (bound : β) (value : α → β) (best : Option α) : β := best.elim bound value

def lead (bound : β) (value : α → β) (best : Option α) (item : α) : Option α :=
  if topValue bound value best < value item then some item else best

def leader (bound : β) (value : α → β) (items : List α) : Option α :=
  items.foldl (lead bound value) none

theorem leader_append (items : List α) (item : α) :
    leader bound value (items ++ [item]) = lead bound value (leader bound value items) item := by
  rw [leader, List.foldl_append]
  rfl

/-- An item is above the bound, above all items before it and not below those after it. -/
structure Leads (bound : β) (value : α → β) (items : List α) (item : α) : Prop where
  above : bound < value item
  split : ∃ before after, items = before ++ item :: after ∧
    (∀ other ∈ before, value other < value item) ∧ ∀ other ∈ after, value other ≤ value item

variable {item : α}

theorem Leads.mem (h : Leads bound value items item) : item ∈ items := by
  obtain ⟨before, after, rfl, -⟩ := h.split
  exact List.mem_append_right before List.mem_cons_self

theorem Leads.le {item other : α} (h : Leads bound value items item) (hother : other ∈ items) :
    value other ≤ value item := by
  obtain ⟨before, after, rfl, hbefore, hafter⟩ := h.split
  obtain hmem | hmem := List.mem_append.mp hother
  · exact le_of_lt (hbefore other hmem)
  · obtain rfl | hmem := List.mem_cons.mp hmem
    · exact le_rfl
    · exact hafter other hmem

theorem Leads.unique {item item' : α} (h : Leads bound value items item)
    (h' : Leads bound value items item') : item = item' := by
  have hsame : value item = value item' := le_antisymm (h'.le h.mem) (h.le h'.mem)
  obtain ⟨before, after, hsplit, hbefore, -⟩ := h.split
  obtain ⟨before', after', hsplit', hbefore', -⟩ := h'.split
  rw [hsplit] at hsplit'
  obtain ⟨middle, hmiddle, hrest⟩ | ⟨middle, hmiddle, hrest⟩ :=
    List.append_eq_append_iff.mp hsplit'
  · cases middle with
    | nil => exact (List.cons_eq_cons.mp hrest).1
    | cons first middle =>
      grind
  · cases middle with
    | nil => exact (List.cons_eq_cons.mp hrest).1.symm
    | cons first middle =>
      grind

theorem le_topValue_leader (hitem : item ∈ items) :
    value item ≤ topValue bound value (leader bound value items) := by
  induction items using List.reverseRecOn with
  | nil => cases hitem
  | append_singleton items last ih =>
    rw [leader_append, lead]
    split
    · next hlarger =>
      obtain hmem | hmem := List.mem_append.mp hitem
      · exact le_trans (ih hmem) (le_of_lt hlarger)
      · rw [List.mem_singleton.mp hmem]
        exact le_rfl
    · grind

theorem leads_of_leader (h : leader bound value items = some item) :
    Leads bound value items item := by
  induction items using List.reverseRecOn generalizing item with
  | nil => cases h
  | append_singleton items last ih =>
    rw [leader_append, lead] at h
    split at h
    · next hlarger =>
      obtain rfl := Option.some.inj h
      have hall : ∀ other ∈ items, value other < value last := fun other hother =>
        lt_of_le_of_lt (le_topValue_leader hother) hlarger
      refine ⟨?_, items, [], rfl, hall, fun _ hother => absurd hother List.not_mem_nil⟩
      cases hbest : leader bound value items with
      | none => simpa [hbest, topValue] using hlarger
      | some best =>
        have habove := (ih hbest).above
        rw [hbest] at hlarger
        exact lt_trans habove hlarger
    · next hnot =>
      obtain ⟨habove, before, after, rfl, hbefore, hafter⟩ := ih h
      refine ⟨habove, before, after ++ [last], by simp, hbefore, fun other hother => ?_⟩
      obtain hmem | hmem := List.mem_append.mp hother
      · exact hafter other hmem
      · rw [List.mem_singleton.mp hmem]
        rw [h] at hnot
        exact not_lt.mp hnot

/-- **The leader.** -/
theorem leader_eq_some_iff :
    leader bound value items = some item ↔ Leads bound value items item := by
  refine ⟨leads_of_leader, fun h => ?_⟩
  cases hbest : leader bound value items with
  | none =>
    have hle := @le_topValue_leader _ _ _ bound value _ _ h.mem
    rw [hbest] at hle
    exact absurd hle (not_le.mpr h.above)
  | some best => rw [(leads_of_leader hbest).unique h]

theorem leader_eq_none_iff :
    leader bound value items = none ↔ ∀ item ∈ items, value item ≤ bound := by
  constructor
  · intro h item hitem
    have hle := @le_topValue_leader _ _ _ bound value _ _ hitem
    rwa [h] at hle
  · intro h
    cases hbest : leader bound value items with
    | none => rfl
    | some best =>
      have hleads := leads_of_leader hbest
      exact absurd (h best hleads.mem) (not_le.mpr hleads.above)

theorem topValue_leader_eq_foldl (items : List α) :
    topValue bound value (leader bound value items) = (items.map value).foldl max bound := by
  induction items using List.reverseRecOn with
  | nil => rfl
  | append_singleton items last ih =>
    rw [leader_append, List.map_append, List.foldl_append, ← ih, lead]
    split
    · next hlarger => exact (max_eq_right (le_of_lt hlarger)).symm
    · next hnot => exact (max_eq_left (not_lt.mp hnot)).symm

theorem leader_congr_value {value' : α → β} (h : ∀ item ∈ items, value item = value' item) :
    leader bound value items = leader bound value' items := by
  induction items using List.reverseRecOn with
  | nil => rfl
  | append_singleton items last ih =>
    have hrest := ih fun item hitem => h item (List.mem_append_left _ hitem)
    have htop : topValue bound value (leader bound value' items) =
        topValue bound value' (leader bound value' items) := by
      cases hbest : leader bound value' items with
      | none => rfl
      | some best =>
        exact h best (List.mem_append_left _ (leads_of_leader hbest).mem)
    rw [leader_append, leader_append, lead, lead, hrest, htop,
      h last (List.mem_append_right _ (List.mem_singleton_self last))]

/-! ## Other lists -/

section Congruence

variable {items' : List α}

theorem topValue_leader_le
    (hsubset : ∀ item ∈ items, bound < value item → item ∈ items') :
    topValue bound value (leader bound value items) ≤
      topValue bound value (leader bound value items') := by
  cases hbest : leader bound value items with
  | none =>
    cases hbest' : leader bound value items' with
    | none => exact le_rfl
    | some best' => exact le_of_lt (leads_of_leader hbest').above
  | some best =>
    have hleads := leads_of_leader hbest
    exact le_topValue_leader (hsubset best hleads.mem hleads.above)

/-- **The largest value** is the same in lists that have the same items above the bound. -/
theorem topValue_leader_congr
    (hsame : ∀ item, bound < value item → (item ∈ items ↔ item ∈ items')) :
    topValue bound value (leader bound value items) =
      topValue bound value (leader bound value items') :=
  le_antisymm (topValue_leader_le fun item hitem habove => (hsame item habove).mp hitem)
    (topValue_leader_le fun item hitem habove => (hsame item habove).mpr hitem)

/-- **The leader** is the same in lists that have the same items above the bound, when no other one
reaches its value. -/
theorem leader_congr (hsame : ∀ item, bound < value item → (item ∈ items ↔ item ∈ items'))
    (honly : ∀ item, Leads bound value items item → ∀ other ∈ items', value other = value item →
      other = item) :
    leader bound value items' = leader bound value items := by
  have htop := topValue_leader_congr hsame
  cases hbest : leader bound value items with
  | none =>
    grind [leader_eq_none_iff, not_le]
  | some best =>
    have hleads := leads_of_leader hbest
    cases hbest' : leader bound value items' with
    | none =>
      rw [hbest, hbest'] at htop
      exact absurd htop.symm (ne_of_lt hleads.above)
    | some best' =>
      rw [hbest, hbest'] at htop
      rw [honly best hleads best' (leads_of_leader hbest').mem htop.symm]

theorem leader_cons {item : α} (habove : bound < value item)
    (hle : ∀ other ∈ items, value other ≤ value item) :
    leader bound value (item :: items) = some item :=
  leader_eq_some_iff.mpr ⟨habove, [], items, rfl, fun _ hother => absurd hother List.not_mem_nil,
    hle⟩

end Congruence

end Rhythm
