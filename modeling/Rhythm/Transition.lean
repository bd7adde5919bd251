import Mathlib.Logic.Relation
import Mathlib.Data.List.Basic

/-!
# Rhythm.Transition

Runs of a partial step function.  A component whose transactions are atomic
is a function `step : σ → α → Option σ`: the action `a` is either refused in
`s` (`none`) or leads to one state.  This module names nothing of the
component; it fixes what a property *along* a run means and the rules by
which such properties are proved:

* `Reachable.invariant` — what every step keeps holds of every reachable state;
* `runActions_history` — the same for what relates a state to the steps before it;
* `along_iff_along` — under an invariant, a step property holds along a run
  exactly when its step-wise guard does;
* `along_state_iff_along` — the same for a property of states, each step being
  judged from a state that has it;
* `occurrences_le_one` — an event that ends the states in which it can happen
  happens at most once in a run;
* `not_possible` — what every step keeps and no event leaves rules the event out
  for good.
-/

namespace Rhythm

/-! ## Runs -/

variable {σ α : Type} (step : σ → α → Option σ)

/-- The state after the actions `as`, when none of them is refused. -/
def runActions : σ → List α → Option σ
  | s, [] => some s
  | s, a :: as => (step s a).bind fun s' => runActions s' as

/-- `R s a s'` holds of every step that the actions take, from `s` on.  The
run ends early at a refused action. -/
def Along (R : σ → α → σ → Prop) : σ → List α → Prop
  | _, [] => True
  | s, a :: as => ∀ s', step s a = some s' → R s a s' ∧ Along R s' as

/-- Some run leads from `s` to `s'`. -/
def Reachable (s s' : σ) : Prop := ∃ as, runActions step s as = some s'

variable {step} {R R' G : σ → α → σ → Prop} {I : σ → Prop} {s s' : σ} {a : α} {as : List α}

@[simp] theorem runActions_nil : runActions step s [] = some s := rfl

@[simp] theorem runActions_cons :
    runActions step s (a :: as) = (step s a).bind fun s' => runActions step s' as := rfl

instance decidableAlong [∀ s a s', Decidable (R s a s')] :
    ∀ (s : σ) (as : List α), Decidable (Along step R s as)
  | _, [] => isTrue trivial
  | s, a :: as =>
    match h : step s a with
    | none => isTrue fun s' hs' => by rw [h] at hs'; contradiction
    | some s' =>
      have := decidableAlong s' as
      decidable_of_iff (R s a s' ∧ Along step R s' as)
        ⟨fun hR t ht => by rw [h] at ht; cases ht; exact hR, fun hR => hR s' h⟩

@[simp] theorem along_nil : Along step R s [] := trivial

theorem along_cons :
    Along step R s (a :: as) ↔ ∀ s', step s a = some s' → R s a s' ∧ Along step R s' as :=
  Iff.rfl

theorem Reachable.head {t : σ} (h : step s a = some s') (hreach : Reachable step s' t) :
    Reachable step s t := by
  obtain ⟨as, has⟩ := hreach
  refine ⟨a :: as, ?_⟩
  rw [runActions_cons, h, Option.bind_some, has]

theorem guarded_eq_some_iff {p : Prop} [Decidable p] {t : σ} :
    (if p then some s else none) = some t ↔ p ∧ s = t := by
  rw [Option.ite_none_right_eq_some, Option.some.injEq]

theorem refused_eq_some_iff {p : Prop} [Decidable p] {t : σ} :
    (if p then none else some s) = some t ↔ ¬ p ∧ s = t := by
  rw [Option.ite_none_left_eq_some, Option.some.injEq]

/-! ## Rules for properties along a run -/

/-- **Invariant rule.**  What the initial state satisfies and every step keeps
holds of every reachable state. -/
theorem Reachable.invariant (hI : ∀ s a s', I s → step s a = some s' → I s')
    (h : Reachable step s s') (hs : I s) : I s' := by
  obtain ⟨as, has⟩ := h
  induction as generalizing s with
  | nil =>
    rw [runActions_nil, Option.some.injEq] at has
    exact has ▸ hs
  | cons a as ih =>
    rw [runActions_cons, Option.bind_eq_some_iff] at has
    obtain ⟨t, hstep, hrest⟩ := has
    exact ih (hI s a t hs hstep) hrest

/-- **History rule.**  What holds of the initial state and no steps, and is kept when a step is
appended to the steps before it, holds of the steps of a run and its last state. -/
theorem runActions_history {P : List α → σ → Prop} (hs : P [] s)
    (hP : ∀ as s a s', P as s → step s a = some s' → P (as ++ [a]) s')
    (h : runActions step s as = some s') : P as s' := by
  have hafter : ∀ before s, P before s → runActions step s as = some s' → P (before ++ as) s' := by
    clear h hs
    induction as with
    | nil =>
      intro before s hs h
      rw [runActions_nil, Option.some.injEq] at h
      rw [List.append_nil]
      exact h ▸ hs
    | cons a as ih =>
      intro before s hs h
      rw [runActions_cons, Option.bind_eq_some_iff] at h
      obtain ⟨t, hstep, hrest⟩ := h
      have hnext := ih (before ++ [a]) t (hP before s a t hs hstep) hrest
      rwa [List.append_assoc] at hnext
  exact hafter [] s hs h

/-- **Guarded equivalence.**  If, in every state that satisfies the invariant,
a step has the property `R` exactly when its guard `G` holds, then the
property holds along a run exactly when the guard does. -/
theorem along_iff_along (hI : ∀ s a s', I s → step s a = some s' → I s')
    (hRG : ∀ s a s', I s → step s a = some s' → (R s a s' ↔ G s a s')) (hs : I s) :
    Along step R s as ↔ Along step G s as := by
  induction as generalizing s with
  | nil => exact Iff.rfl
  | cons a as ih =>
    rw [along_cons, along_cons]
    refine forall_congr' fun s' => forall_congr' fun hstep => ?_
    exact and_congr (hRG s a s' hs hstep) (ih (hI s a s' hs hstep))

/-- **Guarded equivalence for a state property.**  Here the property `P` is
itself the hypothesis under which the next step is judged: a step from a
state with `I` and `P` reaches `P` exactly when its guard holds. -/
theorem along_state_iff_along {P : σ → Prop} (hI : ∀ s a s', I s → step s a = some s' → I s')
    (hPG : ∀ s a s', I s → P s → step s a = some s' → (P s' ↔ G s a s'))
    (hs : I s) (hP : P s) :
    Along step (fun _ _ s' => P s') s as ↔ Along step G s as := by
  induction as generalizing s with
  | nil => exact Iff.rfl
  | cons a as ih =>
    rw [along_cons, along_cons]
    refine forall_congr' fun s' => forall_congr' fun hstep => ?_
    have hstepIff := hPG s a s' hs hP hstep
    constructor
    · rintro ⟨hP', hrest⟩
      exact ⟨hstepIff.mp hP', (ih (hI s a s' hs hstep) hP').mp hrest⟩
    · rintro ⟨hG, hrest⟩
      have hP' := hstepIff.mpr hG
      exact ⟨hP', (ih (hI s a s' hs hstep) hP').mpr hrest⟩

/-- **Guarded invariant rule.**  If every guarded step from a state with the invariant keeps it and
has the property, then the property holds along every run whose steps all meet
the guard. -/
theorem Along.of_guard (h : ∀ s a s', I s → step s a = some s' → G s a s' → I s' ∧ R s a s')
    (hs : I s) (hG : Along step G s as) : Along step R s as := by
  induction as generalizing s with
  | nil => exact along_nil
  | cons a as ih =>
    intro s' hstep
    obtain ⟨hguard, hrest⟩ := hG s' hstep
    obtain ⟨hI', hR⟩ := h s a s' hs hstep hguard
    exact ⟨hR, ih hI' hrest⟩

theorem Along.of_invariant (h : ∀ s a s', I s → step s a = some s' → I s' ∧ R s a s')
    (hs : I s) : Along step R s as := by
  induction as generalizing s with
  | nil => exact along_nil
  | cons a as ih =>
    intro s' hstep
    obtain ⟨hI', hR⟩ := h s a s' hs hstep
    exact ⟨hR, ih hI'⟩

theorem Along.mono (h : ∀ s a s', step s a = some s' → R s a s' → R' s a s')
    (hR : Along step R s as) : Along step R' s as := by
  induction as generalizing s with
  | nil => exact along_nil
  | cons a as ih =>
    intro s' hstep
    obtain ⟨hhead, hrest⟩ := hR s' hstep
    exact ⟨h s a s' hstep hhead, ih hrest⟩

/-! ## Recorded runs -/

section Recording

variable {η : Type} {record : σ → α → σ → η → η}

/-- The step together with a record of the steps before it. -/
def recording (step : σ → α → Option σ) (record : σ → α → σ → η → η) (x : σ × η) (a : α) :
    Option (σ × η) :=
  (step x.1 a).map fun s' => (s', record x.1 a s' x.2)

theorem recording_eq_some_iff {x x' : σ × η} :
    recording step record x a = some x' ↔
      step x.1 a = some x'.1 ∧ x'.2 = record x.1 a x'.1 x.2 := by
  grind [recording, Option.map_eq_some_iff]

end Recording

/-! ## Counted events -/

section Counting

variable {E : σ → α → σ → Prop} [∀ s a s', Decidable (E s a s')] {P : σ → Prop}

/-- How many steps of the run are events `E`. -/
def occurrences (step : σ → α → Option σ) (E : σ → α → σ → Prop)
    [∀ s a s', Decidable (E s a s')] : σ → List α → Nat
  | _, [] => 0
  | s, a :: as =>
    match step s a with
    | none => 0
    | some s' => (if E s a s' then 1 else 0) + occurrences step E s' as

theorem occurrences_eq_zero (hkeep : ∀ s a s', P s → step s a = some s' → P s')
    (hno : ∀ s a s', P s → step s a = some s' → ¬ E s a s') (hs : P s) :
    occurrences step E s as = 0 := by
  induction as generalizing s with
  | nil => rfl
  | cons a as ih =>
    rw [occurrences]
    cases hstep : step s a with
    | none => rfl
    | some s' => simp [hno s a s' hs hstep, ih (hkeep s a s' hs hstep)]

/-- **An event that rules itself out happens at most once.** -/
theorem occurrences_le_one (hspent : ∀ s a s', step s a = some s' → E s a s' → P s')
    (hkeep : ∀ s a s', P s → step s a = some s' → P s')
    (hno : ∀ s a s', P s → step s a = some s' → ¬ E s a s') :
    occurrences step E s as ≤ 1 := by
  induction as generalizing s with
  | nil => exact Nat.zero_le 1
  | cons a as ih =>
    rw [occurrences]
    cases hstep : step s a with
    | none => exact Nat.zero_le 1
    | some s' =>
      by_cases hE : E s a s'
      · simp [hE, occurrences_eq_zero hkeep hno (hspent s a s' hstep hE)]
      · simpa [hE] using ih

end Counting

/-! ## Possible events -/

section Possible

variable {E : σ → α → σ → Prop} {P : σ → Prop}

/-- Some run from `s` ends with a step that is an event `E`. -/
def Possible (step : σ → α → Option σ) (E : σ → α → σ → Prop) (s : σ) : Prop :=
  ∃ t a t', Reachable step s t ∧ step t a = some t' ∧ E t a t'

theorem Possible.of_step (h : step s a = some s') (hE : E s a s') : Possible step E s :=
  ⟨s, a, s', ⟨[], rfl⟩, h, hE⟩

theorem Possible.later (h : step s a = some s') (hE : Possible step E s') : Possible step E s := by
  obtain ⟨t, b, t', hreach, hstep, hE⟩ := hE
  exact ⟨t, b, t', hreach.head h, hstep, hE⟩

/-- **A state that rules the event out for good** leads to none. -/
theorem not_possible (hkeep : ∀ s a s', P s → step s a = some s' → P s')
    (hno : ∀ s a s', P s → step s a = some s' → ¬ E s a s') (hs : P s) :
    ¬ Possible step E s := by
  rintro ⟨t, a, t', hreach, hstep, hE⟩
  exact hno t a t' (hreach.invariant hkeep hs) hstep hE

end Possible

end Rhythm
