import Mathlib.Data.List.Basic

/-!
# Rhythm.Streak

The leading streak of a list — the loop that counts entries until the first one
of the other kind — and how it relates to the leading streak among those
entries that *count*.  This module names nothing of the component.

* `le_streak_iff` — a streak of `n` is `n` leading entries with the property;
* `firstAll_append` — a full window of `n` entries decides the first `n`
  counted entries only together with as many counted entries below the window
  as it has uncounted ones.
-/

namespace Rhythm

variable {α : Type}

/-! ## Streaks -/

/-- How many leading entries satisfy `p`: count, and break at the first that
does not. -/
def streak (p : α → Prop) [DecidablePred p] : List α → Nat
  | [] => 0
  | x :: xs => if p x then streak p xs + 1 else 0

variable {p c : α → Prop} [DecidablePred p] [DecidablePred c]

theorem le_streak_iff {n : Nat} {l : List α} :
    n ≤ streak p l ↔ n ≤ l.length ∧ ∀ x ∈ l.take n, p x := by
  induction l generalizing n with
  | nil => simp [streak]
  | cons x xs ih =>
    cases n with
    | zero => simp
    | succ n =>
      by_cases hx : p x
      · simp [streak, hx, ih]
      · simp [streak, hx]

theorem le_streak_take_iff {n limit : Nat} (hlimit : n ≤ limit) {l : List α} :
    n ≤ streak p (l.take limit) ↔ n ≤ streak p l := by
  rw [le_streak_iff, le_streak_iff, List.take_take, Nat.min_eq_left hlimit, List.length_take]
  have hmin : n ≤ min limit l.length ↔ n ≤ l.length := by omega
  rw [hmin]

theorem streak_map {β : Type} {q : β → Prop} [DecidablePred q] (f : α → β) (l : List α) :
    streak q (l.map f) = streak (fun x => q (f x)) l := by
  induction l with
  | nil => rfl
  | cons x xs ih => simp only [List.map_cons, streak, ih]

theorem streak_append_cons_le {x : α} (hx : ¬ p x) (before after : List α) :
    streak p (before ++ x :: after) ≤ streak p (before ++ after) := by
  induction before with
  | nil => simp [streak, hx]
  | cons y before ih =>
    simp only [List.cons_append, streak]
    split
    · exact Nat.succ_le_succ ih
    · exact Nat.le_refl 0

/-! ## The first entries that count -/

/-- The first `n` entries that count exist and satisfy `p`. -/
def FirstAll (c p : α → Prop) [DecidablePred c] (n : Nat) (l : List α) : Prop :=
  n ≤ (l.filter c).length ∧ ∀ x ∈ (l.filter c).take n, p x

instance (n : Nat) (l : List α) : Decidable (FirstAll c p n l) :=
  inferInstanceAs (Decidable (_ ∧ _))

omit [DecidablePred p] in
@[simp] theorem firstAll_zero (l : List α) : FirstAll c p 0 l := by
  simp [FirstAll]

omit [DecidablePred p] in
/-- **Windows.**  The first `n` counted entries are those of a window of length `n`,
followed by one entry below the window for each uncounted one in it. -/
theorem firstAll_append {n : Nat} {window below : List α} (hlen : window.length = n) :
    FirstAll c p n (window ++ below) ↔
      (∀ x ∈ window, c x → p x) ∧ FirstAll c p (window.countP fun x => ¬ c x) below := by
  have hsplit : window.length =
      (window.filter c).length + window.countP fun x => ¬ c x := by
    have hcount := List.length_eq_countP_add_countP (fun x => decide (c x)) (l := window)
    simpa [List.countP_eq_length_filter] using hcount
  have htake : n - (window.filter c).length = window.countP fun x => ¬ c x := by omega
  have hle : (window.filter c).length ≤ n := by omega
  have hlength : n ≤ (window.filter c).length + (below.filter c).length ↔
      (window.countP fun x => ¬ c x) ≤ (below.filter c).length := by omega
  unfold FirstAll
  rw [List.filter_append, List.length_append, List.take_append, htake,
    List.take_of_length_le hle, hlength]
  constructor
  · rintro ⟨hexist, hall⟩
    refine ⟨fun x hx hc => hall x ?_, hexist, fun x hx => hall x ?_⟩
    · exact List.mem_append_left _ (List.mem_filter.mpr ⟨hx, by simpa using hc⟩)
    · exact List.mem_append_right _ hx
  · rintro ⟨hwindow, hexist, hbelow⟩
    refine ⟨hexist, fun x hx => ?_⟩
    cases List.mem_append.mp hx with
    | inl hx =>
      obtain ⟨hmem, hc⟩ := List.mem_filter.mp hx
      exact hwindow x hmem (by simpa using hc)
    | inr hx => exact hbelow x hx

theorem firstAll_of_le_streak {n : Nat} {l : List α} (hpc : ∀ x, p x → c x)
    (h : n ≤ streak p l) : FirstAll c p n l := by
  obtain ⟨hlen, hall⟩ := le_streak_iff.mp h
  have hcounted : (l.take n).countP (fun x => ¬ c x) = 0 := by
    rw [List.countP_eq_zero]
    intro x hx
    simpa using hpc x (hall x hx)
  rw [← List.take_append_drop n l, firstAll_append (List.length_take_of_le hlen), hcounted]
  exact ⟨fun x hx _ => hall x hx, firstAll_zero _⟩

end Rhythm
