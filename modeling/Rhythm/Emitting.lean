import Mathlib.Data.List.Basic

/-!
# Rhythm.Emitting

Computations that may fail, and that emit something on their way: what was emitted before a failure
stays emitted.  This module names nothing of the component.

`all_bind` and `all_foldlM` say what all that is emitted has in common, one step at a time.
-/

namespace Rhythm

/-- What a computation has emitted, and its result, if there is one. -/
structure Emitting (ω α : Type) where
  emitted : List ω
  result : Option α

namespace Emitting

variable {ω α β : Type} {p : ω → Prop}

instance : Monad (Emitting ω) where
  pure a := ⟨[], some a⟩
  bind x f :=
    match x.result with
    | none => ⟨x.emitted, none⟩
    | some a => ⟨x.emitted ++ (f a).emitted, (f a).result⟩

def ofOption (result : Option α) : Emitting ω α := ⟨[], result⟩

def check (passes : Bool) : Emitting ω Unit := ofOption (if passes then some () else none)

def emit (w : ω) : Emitting ω Unit := ⟨[w], some ()⟩

@[simp] theorem result_pure (a : α) : (pure a : Emitting ω α).result = some a := rfl

@[simp] theorem result_ofOption (result : Option α) :
    (ofOption result : Emitting ω α).result = result := rfl

@[simp] theorem result_emit (w : ω) : (emit w).result = some () := rfl

@[simp] theorem result_check {passes : Bool} {u : Unit} :
    (check passes : Emitting ω Unit).result = some u ↔ passes = true := by
  cases passes <;> simp [check]

@[simp] theorem result_bind (x : Emitting ω α) (f : α → Emitting ω β) :
    (x >>= f).result = x.result.bind fun a => (f a).result := by
  cases hresult : x.result <;> simp [bind, hresult]

@[simp] theorem ofOption_some_bind (a : α) (f : α → Emitting ω β) :
    (ofOption (some a) >>= f) = f a := rfl

def All (p : ω → Prop) (x : Emitting ω α) : Prop := ∀ w ∈ x.emitted, p w

@[simp] theorem all_pure (a : α) : (pure a : Emitting ω α).All p := by simp [All, pure]

@[simp] theorem all_ofOption (result : Option α) : (ofOption result : Emitting ω α).All p := by
  simp [All, ofOption]

@[simp] theorem all_check (passes : Bool) : (check passes : Emitting ω Unit).All p :=
  all_ofOption _

@[simp] theorem all_emit {w : ω} : (emit w).All p ↔ p w := by simp [All, emit]

/-- **Two steps.** -/
theorem all_bind {x : Emitting ω α} {f : α → Emitting ω β} :
    (x >>= f).All p ↔ x.All p ∧ ∀ a, x.result = some a → (f a).All p := by
  cases hresult : x.result with
  | none => simp [All, bind, hresult]
  | some a => simp [All, bind, hresult, or_imp, forall_and]

/-- **A loop**: each item is met with what the items before it lead to. -/
theorem all_foldlM {f : β → α → Emitting ω β} {items : List α} {start : β} :
    (items.foldlM f start).All p ↔
      ∀ before item after, items = before ++ item :: after →
        ∀ b, (before.foldlM f start).result = some b → (f b item).All p := by
  induction items generalizing start with
  | nil => simp
  | cons first rest ih =>
    rw [List.foldlM_cons, all_bind]
    simp only [ih]
    constructor
    · rintro ⟨hfirst, hrest⟩ before item after hsplit b hb
      cases before with
      | nil =>
        obtain ⟨rfl, rfl⟩ := List.cons.inj hsplit
        obtain rfl : start = b := by simpa using hb
        exact hfirst
      | cons head before =>
        grind [List.cons.inj, result_bind, Option.bind_eq_some_iff]
    · intro h
      refine ⟨h [] first rest rfl start rfl, fun next hnext before item after hsplit b hb => ?_⟩
      refine h (first :: before) item after (by rw [hsplit, List.cons_append]) b ?_
      rw [List.foldlM_cons, result_bind, hnext]
      exact hb

end Emitting

end Rhythm
