import Mathlib.Data.List.Infix
import Mathlib.Logic.Relation

/-!
# Rhythm.Striking

Lists of letters in which stretches are replaced by one and the same list.  A letter may carry a
mark beside its character; what is found outside the replacements is found, with its
marks, where nothing had been replaced.  This module names nothing of the component.

`Struck` is one replacement of any stretches, `Struck.isInfix` what it leaves; `StruckAll` is a
sequence of them, as when a text is searched for several parts one after the other.
-/

namespace Rhythm

section Detached

variable {part new : List Char}

/-- Wherever `new` stands in a text, an occurrence of `part` does not touch it: neither lies in the
other, and neither ends with what the other starts with. -/
def Text.Detached (part new : List Char) : Prop :=
  ¬ part <:+: new ∧ ¬ new <:+: part ∧ (∀ t ∈ new.tails, t ≠ [] → ¬ t <+: part) ∧
    ∀ t ∈ new.inits, t ≠ [] → ¬ t <:+ part

instance : Decidable (Text.Detached part new) :=
  inferInstanceAs (Decidable (¬ _ ∧ ¬ _ ∧ (∀ _ ∈ _, _) ∧ ∀ _ ∈ _, _))

end Detached

section Struck

variable {α : Type} {new s s' t t' : List α}

/-- `t` is `s` with some stretches replaced by `new`. -/
inductive Struck (new : List α) : List α → List α → Prop
  | nil : Struck new [] []
  | keep {s t : List α} (c : α) (h : Struck new s t) : Struck new (c :: s) (c :: t)
  | strike {s t : List α} (gone : List α) (h : Struck new s t) : Struck new (gone ++ s) (new ++ t)

namespace Struck

theorem refl : ∀ s : List α, Struck new s s
  | [] => .nil
  | c :: s => .keep c (refl s)

theorem append (h : Struck new s t) (h' : Struck new s' t') : Struck new (s ++ s') (t ++ t') := by
  induction h with
  | nil => exact h'
  | keep c _ ih => exact .keep c ih
  | strike gone _ ih =>
    rw [List.append_assoc, List.append_assoc]
    exact .strike gone ih

theorem whole (s : List α) : Struck new s new := by
  have h : Struck new (s ++ []) (new ++ []) := .strike s .nil
  rwa [List.append_nil, List.append_nil] at h

variable {f : α → Char} {part : List Char} {u w : List α}

theorem infix_of_append (hdetached : Text.Detached part (new.map f)) (hu : u.map f = part)
    {end' : List α} (hend : end' <:+ new) (h : u <:+: end' ++ t) : u <:+: t := by
  induction end' with
  | nil => exact h
  | cons c end' ih =>
    rw [List.cons_append, List.infix_cons_iff, ← List.cons_append] at h
    obtain hhere | hlater := h
    · obtain hpart | hwhole :=
        List.prefix_or_prefix_of_prefix hhere (List.prefix_append (c :: end') t)
      · have hinside : part <:+: new.map f := hu ▸ (hpart.isInfix.trans hend.isInfix).map f
        exact absurd hinside hdetached.1
      · have hstart : (c :: end').map f <+: part := hu ▸ hwhole.map f
        have htail : (c :: end').map f ∈ (new.map f).tails :=
          (List.mem_tails _ _).mpr (hend.map f)
        exact absurd hstart (hdetached.2.2.1 _ htail (List.cons_ne_nil _ _))
    · exact ih ((List.suffix_cons c end').trans hend) hlater

theorem isPrefix (hdetached : Text.Detached part (new.map f)) (h : Struck new s t)
    (hw : w.map f <:+ part) (hstarts : w <+: t) : w <+: s := by
  induction h generalizing w with
  | nil => exact hstarts
  | keep c _ ih =>
    cases w with
    | nil => exact List.nil_prefix
    | cons d w =>
      rw [List.cons_prefix_cons] at hstarts ⊢
      exact ⟨hstarts.1, ih ((List.suffix_cons (f d) (w.map f)).trans hw) hstarts.2⟩
  | strike gone _ _ =>
    cases w with
    | nil => exact List.nil_prefix
    | cons d w =>
      obtain hinside | haround :=
        List.prefix_or_prefix_of_prefix hstarts (List.prefix_append new _)
      · have hinit : (d :: w).map f ∈ (new.map f).inits :=
          (List.mem_inits _ _).mpr (hinside.map f)
        exact absurd hw (hdetached.2.2.2 _ hinit (List.cons_ne_nil _ _))
      · have hpart : new.map f <:+: part := ((haround.map f).isInfix).trans hw.isInfix
        exact absurd hpart hdetached.2.1

/-- **Striking uncovers nothing.**  A part detached from what is inserted was there before, with the
same marks. -/
theorem isInfix (h : Struck new s t) (hdetached : Text.Detached part (new.map f))
    (hu : u.map f = part) (hfound : u <:+: t) : u <:+: s := by
  induction h with
  | nil => exact hfound
  | keep c hrest ih =>
    obtain hhere | hlater := List.infix_cons_iff.mp hfound
    · exact (isPrefix hdetached (.keep c hrest) (hu ▸ List.suffix_rfl) hhere).isInfix
    · exact (ih hlater).trans (List.suffix_cons c _).isInfix
  | strike gone _ ih =>
    exact (ih (infix_of_append hdetached hu List.suffix_rfl hfound)).trans
      (List.suffix_append gone _).isInfix

end Struck

/-- Several replacements, one after the other. -/
abbrev StruckAll (new : List α) : List α → List α → Prop := Relation.ReflTransGen (Struck new)

namespace StruckAll

theorem append (h : StruckAll new s t) (h' : StruckAll new s' t') :
    StruckAll new (s ++ s') (t ++ t') := by
  have hleft : StruckAll new (s ++ s') (t ++ s') :=
    Relation.ReflTransGen.lift (· ++ s') (fun _ _ hone => Struck.append hone (Struck.refl s')) _ _ h
  have hright : StruckAll new (t ++ s') (t ++ t') :=
    Relation.ReflTransGen.lift (t ++ ·) (fun _ _ hone => (Struck.refl t).append hone) _ _ h'
  exact hleft.trans hright

theorem isInfix {f : α → Char} {part : List Char} {u : List α} (h : StruckAll new s t)
    (hdetached : Text.Detached part (new.map f)) (hu : u.map f = part) (hfound : u <:+: t) :
    u <:+: s := by
  induction h with
  | refl => exact hfound
  | tail _ hstruck ih => exact ih (hstruck.isInfix hdetached hu hfound)

end StruckAll

end Struck

end Rhythm
