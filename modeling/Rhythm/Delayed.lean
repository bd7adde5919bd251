import Mathlib

/-!
# Rhythm.Delayed

Walks over a set of integers, in which the next point is looked for from a delayed one: each value
of the walk is a point plus a delay, and the next point is the least one after that value.

`visits_iff`: the walk visits every point after the start exactly when any two of them are more
than the delay apart.
-/

namespace Rhythm

/-- `u` is the least point after `t`. -/
def NextPoint (points : Set Int) (t u : Int) : Prop := IsLeast {point ∈ points | t < point} u

/-- A walk from `start`. -/
structure DelayedWalk (points : Set Int) (start delay : Int) (walk : Nat → Int) : Prop where
  first : NextPoint points start (walk 0 - delay)
  next : ∀ k, NextPoint points (walk k) (walk (k + 1) - delay)

namespace DelayedWalk

variable {points : Set Int} {start delay : Int} {walk : Nat → Int}

theorem lt_succ (h : DelayedWalk points start delay walk) (hdelay : 0 ≤ delay) (k : Nat) :
    walk k < walk (k + 1) := by
  have hlater : walk k < walk (k + 1) - delay := (h.next k).1.2
  omega

theorem strictMono (h : DelayedWalk points start delay walk) (hdelay : 0 ≤ delay) :
    StrictMono walk :=
  strictMono_nat_of_lt_succ (h.lt_succ hdelay)

theorem isPoint (h : DelayedWalk points start delay walk) (hdelay : 0 ≤ delay) (k : Nat) :
    walk k - delay ∈ points ∧ start < walk k - delay := by
  cases k with
  | zero => exact h.first.1
  | succ k =>
    obtain ⟨hpoint, hlater⟩ := (h.next k).1
    have hstart : start < walk 0 - delay := h.first.1.2
    have hfrom : walk 0 ≤ walk k := (h.strictMono hdelay).monotone (Nat.zero_le k)
    exact ⟨hpoint, by omega⟩

theorem exists_ge (h : DelayedWalk points start delay walk) (hdelay : 0 ≤ delay) (t : Int) :
    ∃ k, t ≤ walk k := by
  have hgrows : ∀ k : Nat, walk 0 + k ≤ walk k := by
    intro k
    induction k with
    | zero => simp
    | succ k ih =>
      have hlater := h.lt_succ hdelay k
      push_cast
      omega
  refine ⟨(t - walk 0).toNat, ?_⟩
  have hle := hgrows (t - walk 0).toNat
  have hself := Int.self_le_toNat (t - walk 0)
  omega

theorem visits (h : DelayedWalk points start delay walk) (hdelay : 0 ≤ delay) {p : Int}
    (hp : p ∈ points) (hstart : start < p)
    (hapart : ∀ q ∈ points, start < q → q < p → q + delay < p) : ∃ k, walk k = p + delay := by
  classical
  obtain ⟨k, hk, hleast⟩ : ∃ k, p + delay ≤ walk k ∧ ∀ l < k, walk l < p + delay := by
    have hex := h.exists_ge hdelay (p + delay)
    exact ⟨Nat.find hex, Nat.find_spec hex, fun l hl => not_le.mp (Nat.find_min hex hl)⟩
  refine ⟨k, le_antisymm ?_ hk⟩
  cases k with
  | zero =>
    have hle : walk 0 - delay ≤ p := h.first.2 ⟨hp, hstart⟩
    omega
  | succ k =>
    obtain ⟨hq, hqstart⟩ := h.isPoint hdelay k
    have hbefore := hleast k (Nat.lt_succ_self k)
    have hfar := hapart _ hq hqstart (by omega)
    have hle : walk (k + 1) - delay ≤ p := (h.next k).2 ⟨hp, by omega⟩
    omega

theorem skips (h : DelayedWalk points start delay walk) (hdelay : 0 ≤ delay) {p q : Int} {k : Nat}
    (hk : walk k = p + delay) (hlt : p < q) (hnear : q ≤ p + delay) (l : Nat) :
    walk l ≠ q + delay := by
  intro hl
  have hmono := h.strictMono hdelay
  have hkl : k < l := hmono.lt_iff_lt.mp (by omega)
  have hpast : walk (k + 1) ≤ walk l := hmono.monotone hkl
  have hlater : walk k < walk (k + 1) - delay := (h.next k).1.2
  omega

/-- **Every point is visited** exactly when any two are more than the delay apart. -/
theorem visits_iff (h : DelayedWalk points start delay walk) (hdelay : 0 ≤ delay) :
    (∀ p ∈ points, start < p → ∃ k, walk k = p + delay) ↔
      ∀ p ∈ points, start < p → ∀ q ∈ points, p < q → p + delay < q := by
  constructor
  · intro hall p hp hstart q hq hlt
    obtain ⟨k, hk⟩ := hall p hp hstart
    obtain ⟨l, hl⟩ := hall q hq (hstart.trans hlt)
    by_contra hnear
    exact h.skips hdelay hk hlt (not_lt.mp hnear) l hl
  · intro hapart p hp hstart
    exact h.visits hdelay hp hstart fun q hq hqstart hlt => hapart q hq hqstart p hp hlt

end DelayedWalk

end Rhythm
