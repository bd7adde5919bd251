import Mathlib.Data.List.Forall2

/-!
# Rhythm.Fallible

Fallible steps and loops of them.  A loop over a list goes through exactly when each step
does, and its results and its items then correspond one by one.  This module names nothing
of the component.
-/

namespace Rhythm.Fallible

variable {α β ε : Type} {R : α → β → Prop} {l : List α} {l' : List β}

/-! ## Lists that correspond -/

theorem exists_of_forall₂ (h : List.Forall₂ R l l') :
    (∀ b ∈ l', ∃ a ∈ l, R a b) ∧ ∀ a ∈ l, ∃ b ∈ l', R a b := by
  induction h with
  | nil => simp
  | cons hhead _ ih =>
    grind

theorem exists_forall₂_iff : (∃ l', List.Forall₂ R l l') ↔ ∀ a ∈ l, ∃ b, R a b := by
  constructor
  · rintro ⟨l', h⟩ a ha
    obtain ⟨b, -, hR⟩ := (exists_of_forall₂ h).2 a ha
    exact ⟨b, hR⟩
  · intro h
    induction l with
    | nil => exact ⟨[], .nil⟩
    | cons a l ih =>
      obtain ⟨b, hR⟩ := h a List.mem_cons_self
      obtain ⟨l', hrest⟩ := ih fun a' ha' => h a' (List.mem_cons_of_mem a ha')
      exact ⟨b :: l', .cons hR hrest⟩

theorem exists_forall₂_map_iff {γ : Type} {g : β → γ} {l'' : List γ} :
    (∃ l', List.Forall₂ R l l' ∧ l'.map g = l'') ↔
      List.Forall₂ (fun a c => ∃ b, R a b ∧ g b = c) l l'' := by
  induction l generalizing l'' with
  | nil => simp [List.forall₂_nil_left_iff, eq_comm]
  | cons a l ih =>
    constructor
    · rintro ⟨_, hR, rfl⟩
      cases hR with
      | cons hfirst hrest => exact .cons ⟨_, hfirst, rfl⟩ (ih.mp ⟨_, hrest, rfl⟩)
    · intro h
      cases h with
      | cons hfirst hrest =>
        obtain ⟨b, hb, rfl⟩ := hfirst
        obtain ⟨l', hl', rfl⟩ := ih.mpr hrest
        exact ⟨b :: l', .cons hb hl', rfl⟩

theorem map_eq_map_of_forall₂ {γ : Type} {f : α → γ} {g : β → γ} (h : List.Forall₂ R l l')
    (hfg : ∀ a b, R a b → f a = g b) : l.map f = l'.map g := by
  induction h with
  | nil => rfl
  | cons hab _ ih => rw [List.map_cons, List.map_cons, hfg _ _ hab, ih]

/-- What holds of an item exactly when it holds of its result holds of some item exactly when
it holds of some result. -/
theorem exists_mem_iff_of_forall₂ {P : α → Prop} {Q : β → Prop} (h : List.Forall₂ R l l')
    (hPQ : ∀ a b, R a b → (P a ↔ Q b)) : (∃ a ∈ l, P a) ↔ ∃ b ∈ l', Q b := by
  induction h with
  | nil => simp
  | cons hab _ ih => simp [hPQ _ _ hab, ih]

theorem find?_of_forall₂ {p : α → Bool} {q : β → Bool} {a : α} (hR : List.Forall₂ R l l')
    (hpq : ∀ a b, R a b → p a = q b) (ha : l.find? p = some a) :
    ∃ b, l'.find? q = some b ∧ R a b := by
  induction hR with
  | nil => cases ha
  | @cons first result l l' hfirst _ ih =>
    grind

section Steps

variable {x : Except ε α} {k : α → Except ε β}

theorem bind_eq_ok_iff {b : β} : x >>= k = .ok b ↔ ∃ a, x = .ok a ∧ k a = .ok b := by
  cases x with
  | error e | ok a => simp [bind, Except.bind]

theorem map_eq_ok_iff {g : α → β} {b : β} : x.map g = .ok b ↔ ∃ a, x = .ok a ∧ g a = b := by
  cases x with
  | error e | ok a => simp [Except.map]

theorem bind_eq_error_iff {e : ε} :
    x >>= k = .error e ↔ x = .error e ∨ ∃ a, x = .ok a ∧ k a = .error e := by
  cases x with
  | error e | ok a => simp [bind, Except.bind]

end Steps

/-! ## Loops -/

variable {f : α → Except ε β}

theorem mapM_eq_ok_iff : l.mapM f = .ok l' ↔ List.Forall₂ (fun a b => f a = .ok b) l l' := by
  induction l generalizing l' with
  | nil =>
    rw [List.mapM_nil, List.forall₂_nil_left_iff]
    exact ⟨fun h => (Except.ok.inj h).symm, fun h => h ▸ rfl⟩
  | cons a l ih =>
    rw [List.mapM_cons, List.forall₂_cons_left_iff, bind_eq_ok_iff]
    constructor
    · rintro ⟨b, hb, h⟩
      obtain ⟨bs, hbs, hcons⟩ := bind_eq_ok_iff.mp h
      exact ⟨b, bs, hb, ih.mp hbs, (Except.ok.inj hcons).symm⟩
    · rintro ⟨b, bs, hb, hbs, rfl⟩
      exact ⟨b, hb, bind_eq_ok_iff.mpr ⟨bs, ih.mpr hbs, rfl⟩⟩

theorem exists_of_mapM_eq_error {e : ε} (h : l.mapM f = .error e) : ∃ a ∈ l, f a = .error e := by
  induction l with
  | nil => cases h
  | cons a l ih =>
    rw [List.mapM_cons] at h
    obtain ha | ⟨b, -, hrest⟩ := bind_eq_error_iff.mp h
    · exact ⟨a, List.mem_cons_self, ha⟩
    · obtain hl | ⟨bs, -, hpure⟩ := bind_eq_error_iff.mp hrest
      · obtain ⟨a', ha', herror⟩ := ih hl
        exact ⟨a', List.mem_cons_of_mem a ha', herror⟩
      · cases hpure

end Rhythm.Fallible
