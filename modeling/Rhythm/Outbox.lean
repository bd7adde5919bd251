import Mathlib.Data.List.MinMax
import Mathlib.Data.Set.Finite.Basic
import Rhythm.Totals
import Rhythm.Transition

/-!
# Rhythm.Outbox

Outgoing messages that are stored before they are sent.  A dispatcher claims
the oldest row that is due, sends what it says, and writes the result: the row
is done, or it waits for another attempt.  Between the claim and the result
the row belongs to the dispatcher, and no query finds it.  This module names
nothing of the component that uses it.

`nothing_lost_iff_emptyHanded` is the main result: no unfinished row is ever
lost, and none is attempted more often than the limit, exactly in the runs in
which every dispatcher that goes down is empty-handed.
-/

namespace Rhythm

/-! ## Outboxes -/

/-- Where a row stands: it waits, it was given to a dispatcher, or it is done. -/
inductive Outbox.Phase where
  | pending | sending | final
  deriving DecidableEq

/-- A kind of stored messages, with rows `ρ` under keys `κ`.  Whether a row is
due depends on an environment `ε` that changes while the dispatchers run; `ω`
is the result of an attempt, and `ι` what is put in. -/
structure Outbox (ρ κ ε ω ι : Type) where
  key : ρ → κ
  phase : ρ → Outbox.Phase
  attempts : ρ → Nat
  createdAt : ρ → Nat
  limit : Nat
  /-- What a claim looks for. -/
  due : ε → Nat → ρ → Bool
  take : ρ → ρ
  /-- The result of an attempt, from the attempts that the claim has read and a clock. -/
  settle : ω → Nat → Nat → ρ → ρ
  queued : ι → ε → List ρ
  changes : ε → ε → Bool
  /-- The rows under this key will be due. -/
  Served : ε → κ → Prop
  /-- A result that ends the row. -/
  done : ω
  key_take : Table.KeepsKey key take
  key_settle : ∀ outcome read now, Table.KeepsKey key (settle outcome read now)
  phase_of_due : ∀ env now row, due env now row = true → phase row = .pending
  phase_take : ∀ row, phase (take row) = .sending
  attempts_take : ∀ row, attempts (take row) = attempts row
  settle_cases : ∀ outcome read now row,
    phase (settle outcome read now row) = .final ∨
      phase (settle outcome read now row) = .pending ∧
        attempts (settle outcome read now row) = read + 1 ∧ read + 1 < limit
  phase_settle_done : ∀ read now row, phase (settle done read now row) = .final
  queued_new : ∀ input env, ∀ row ∈ queued input env,
    phase row = .pending ∧ attempts row = 0 ∧ Served env (key row)
  served_of_changes : ∀ env env' k, changes env env' = true → Served env k → Served env' k
  exists_due : ∀ env row, Served env (key row) → phase row = .pending →
    ∃ env', changes env env' = true ∧ ∃ since, ∀ now, since ≤ now → due env' now row = true
  limit_pos : 0 < limit

namespace Outbox

abbrev DispatcherId := Nat

/-- A dispatcher and the row it has claimed, with the attempts it has read. -/
structure Held (κ : Type) where
  dispatcher : DispatcherId
  row : κ
  attempts : Nat
  deriving DecidableEq

variable {ρ κ ε ω ι : Type}

/-- The stored rows, and what the dispatchers have in memory. -/
structure State (O : Outbox ρ κ ε ω ι) where
  now : Nat
  env : ε
  rows : Table ρ O.key
  held : Table (Held κ) Held.dispatcher

def initial (O : Outbox ρ κ ε ω ι) (now : Nat) (env : ε) : State O := ⟨now, env, .empty, .empty⟩

inductive Action (κ ε ω ι : Type) where
  | tick (now : Nat)
  | change (env : ε)
  | enqueue (input : ι)
  /-- A dispatcher takes a row; other transactions hold the `locked` ones. -/
  | claim (dispatcher : DispatcherId) (locked : List κ) (row : κ)
  /-- A dispatcher writes the result of its attempt. -/
  | settle (dispatcher : DispatcherId) (outcome : ω) (now : Nat)
  /-- A dispatcher goes down, or fails to write the result. -/
  | crash (dispatcher : DispatcherId)

variable [DecidableEq κ] {O : Outbox ρ κ ε ω ι}

/-- The row is due, no other transaction holds it, and no such row is older. -/
def Oldest (s : State O) (locked : List κ) (row : ρ) : Prop :=
  O.due s.env s.now row = true ∧ O.key row ∉ locked ∧
    ∀ other ∈ s.rows, O.due s.env s.now other = true → O.key other ∉ locked →
      O.createdAt row ≤ O.createdAt other

instance (s : State O) (locked : List κ) (row : ρ) : Decidable (Oldest s locked row) :=
  inferInstanceAs (Decidable (_ ∧ _))

variable (O) in
def step (s : State O) : Action κ ε ω ι → Option (State O)
  | .tick now => if s.now ≤ now then some { s with now } else none
  | .change env => if O.changes s.env env = true then some { s with env } else none
  | .enqueue input =>
    some { s with
      rows := (O.queued input s.env).foldl (fun rows row => rows.insertIgnore row) s.rows }
  | .claim dispatcher locked k =>
    match s.rows.get? k with
    | none => none
    | some row =>
      if Oldest s locked row then
        (s.held.insert ⟨dispatcher, k, O.attempts row⟩).map fun held =>
          { s with rows := s.rows.update (fun row => O.key row = k) O.take O.key_take, held }
      else none
  | .settle dispatcher outcome now =>
    match s.held.get? dispatcher with
    | none => none
    | some held =>
      some { s with
        rows := s.rows.update (fun row => O.key row = held.row)
          (O.settle outcome held.attempts now) (O.key_settle outcome held.attempts now)
        held := s.held.deleteWhere fun held => held.dispatcher = dispatcher }
  | .crash dispatcher =>
    some { s with held := s.held.deleteWhere fun held => held.dispatcher = dispatcher }

/-! ## What a transaction does -/

/-- **What a transaction does**: it moves on the clock or the environment, adds new rows, gives a
due row to a free dispatcher, or takes a row from its dispatcher. -/
inductive Moves (s : State O) : Action κ ε ω ι → State O → Prop
  | tick {now} (hnow : s.now ≤ now) : Moves s (.tick now) { s with now }
  | change {env} (hchanges : O.changes s.env env = true) : Moves s (.change env) { s with env }
  | enqueue {input rows}
      (hrows : ∀ k, rows.get? k = (s.rows.get? k).or
        ((O.queued input s.env).find? fun row => O.key row = k)) :
      Moves s (.enqueue input) { s with rows }
  | claim {dispatcher locked k row held} (hrow : s.rows.get? k = some row)
      (holdest : Oldest s locked row)
      (hinsert : s.held.insert ⟨dispatcher, k, O.attempts row⟩ = some held) :
      Moves s (.claim dispatcher locked k)
        { s with rows := s.rows.update (fun row => O.key row = k) O.take O.key_take, held }
  | settle {dispatcher outcome now held} (hheld : s.held.get? dispatcher = some held) :
      Moves s (.settle dispatcher outcome now)
        { s with
          rows := s.rows.update (fun row => O.key row = held.row)
            (O.settle outcome held.attempts now) (O.key_settle outcome held.attempts now)
          held := s.held.deleteWhere fun held => held.dispatcher = dispatcher }
  | crash {dispatcher} :
      Moves s (.crash dispatcher)
        { s with held := s.held.deleteWhere fun held => held.dispatcher = dispatcher }

variable {s s' : State O} {a : Action κ ε ω ι}

theorem step_moves (h : step O s a = some s') : Moves s a s' := by
  cases a with
  | tick now =>
    simp only [step] at h
    split at h
    · rename_i hnow
      cases h
      exact .tick hnow
    · contradiction
  | change env =>
    simp only [step] at h
    split at h
    · rename_i hchanges
      cases h
      exact .change hchanges
    · contradiction
  | enqueue input =>
    cases h
    refine .enqueue fun k => ?_
    have hrows : ((O.queued input s.env).foldl Table.insertIgnore s.rows).get? k =
        (s.rows.get? k).or (((O.queued input s.env).find? fun row => O.key row = k).map id) :=
      Table.get?_foldl_insertIgnore (O.queued input s.env)
    rw [Option.map_id_fun, id_eq] at hrows
    exact hrows
  | claim dispatcher locked k =>
    simp only [step] at h
    split at h
    · contradiction
    · rename_i row hrow
      split at h
      · rename_i holdest
        obtain ⟨held, hinsert, rfl⟩ := Option.map_eq_some_iff.mp h
        exact .claim hrow holdest hinsert
      · contradiction
  | settle dispatcher outcome now =>
    simp only [step] at h
    split at h
    · contradiction
    · rename_i held hheld
      cases h
      exact .settle hheld
  | crash dispatcher =>
    cases h
    exact .crash

/-! ## Attempts stay within the limit -/

variable (O) in
/-- How often the row under a key was attempted, as its own columns say. -/
def Counted (n : Nat) : Option ρ → Prop
  | none => n = 0
  | some row =>
    match O.phase row with
    | .pending => n = O.attempts row ∧ n < O.limit
    | .sending => n = O.attempts row + 1 ∧ n ≤ O.limit
    | .final => n ≤ O.limit

variable {row : ρ} {n : Nat}

omit [DecidableEq κ] in
theorem counted_pending (hphase : O.phase row = .pending) :
    Counted O n (some row) ↔ n = O.attempts row ∧ n < O.limit := by
  simp only [Counted, hphase]

omit [DecidableEq κ] in
theorem counted_sending (hphase : O.phase row = .sending) :
    Counted O n (some row) ↔ n = O.attempts row + 1 ∧ n ≤ O.limit := by
  simp only [Counted, hphase]

omit [DecidableEq κ] in
theorem counted_final (hphase : O.phase row = .final) :
    Counted O n (some row) ↔ n ≤ O.limit := by
  simp only [Counted, hphase]

omit [DecidableEq κ] in
theorem Counted.le {row : Option ρ} (h : Counted O n row) : n ≤ O.limit := by
  cases row with
  | none => exact h ▸ Nat.zero_le _
  | some row =>
    cases hphase : O.phase row with
    | pending => exact Nat.le_of_lt ((counted_pending hphase).mp h).2
    | sending => exact ((counted_sending hphase).mp h).2
    | final => exact (counted_final hphase).mp h

def record (_ : State O) (a : Action κ ε ω ι) (_ : State O) (attempted : κ → Nat) : κ → Nat :=
  match a with
  | .claim _ _ k => Function.update attempted k (attempted k + 1)
  | _ => attempted

/-- What every run keeps: the dispatchers hold different rows, each as they have read it; every row
will be due while it waits; and its columns count its attempts. -/
structure Inv (x : State O × (κ → Nat)) : Prop where
  holds : ∀ held ∈ x.1.held, ∃ row, x.1.rows.get? held.row = some row ∧
    O.phase row = .sending ∧ O.attempts row = held.attempts
  apart : ∀ held ∈ x.1.held, ∀ other ∈ x.1.held, held.row = other.row → held = other
  served : ∀ row ∈ x.1.rows, O.Served x.1.env (O.key row)
  counted : ∀ k, Counted O (x.2 k) (x.1.rows.get? k)

theorem inv_initial (now : Nat) (env : ε) : Inv (initial O now env, fun _ => 0) where
  holds held hheld := absurd hheld (Table.not_mem_empty held)
  apart held hheld := absurd hheld (Table.not_mem_empty held)
  served row hrow := absurd hrow (Table.not_mem_empty row)
  counted _ := rfl

variable {k : κ} {x : State O × (κ → Nat)}

theorem Inv.ne_of_pending (hx : Inv x) {held : Held κ}
    (hheld : held ∈ x.1.held) (hrow : x.1.rows.get? k = some row)
    (hphase : O.phase row = .pending) : held.row ≠ k := by
  rintro rfl
  obtain ⟨row', hrow', hsending, -⟩ := hx.holds held hheld
  rw [hrow, Option.some.injEq] at hrow'
  rw [← hrow', hphase] at hsending
  contradiction

theorem served_update {s : State O} {f : ρ → ρ} (hf : Table.KeepsKey O.key f)
    (hserved : ∀ row ∈ s.rows, O.Served s.env (O.key row)) :
    ∀ row ∈ s.rows.update (fun row => O.key row = k) f hf, O.Served s.env (O.key row) := by
  intro row hrow
  obtain ⟨old, hold, rfl⟩ := Table.mem_update.mp hrow
  split
  · rw [hf.key_eq]
    exact hserved old hold
  · exact hserved old hold

section Steps

variable {attempted : κ → Nat}

theorem Inv.enqueue {input : ι} {rows : Table ρ O.key} (hx : Inv (s, attempted))
    (hrows : ∀ k, rows.get? k = (s.rows.get? k).or
      ((O.queued input s.env).find? fun row => O.key row = k)) :
    Inv (({ s with rows } : State O), attempted) := by
  refine ⟨fun held hheld => ?_, hx.apart, fun row hrow => ?_, fun k => ?_⟩
  · obtain ⟨row, hrow, hsending⟩ := hx.holds held hheld
    refine ⟨row, ?_, hsending⟩
    rw [hrows, hrow, Option.some_or]
  · have hget := Table.get?_of_mem hrow
    rw [hrows, Option.or_eq_some_iff] at hget
    rcases hget with hold | ⟨-, hnew⟩
    · exact hx.served row (Table.mem_of_get? hold)
    · exact (O.queued_new _ _ row (List.mem_of_find?_eq_some hnew)).2.2
  · have hk : Counted O (attempted k) (s.rows.get? k) := hx.counted k
    simp only [hrows]
    cases hold : s.rows.get? k with
    | some row =>
      rw [hold] at hk
      rwa [Option.some_or]
    | none =>
      rw [hold] at hk
      have hzero : attempted k = 0 := hk
      rw [Option.none_or]
      cases hnew : (O.queued _ s.env).find? fun row => O.key row = k with
      | none => exact hk
      | some row =>
        obtain ⟨hphase, hnone, -⟩ := O.queued_new _ _ row (List.mem_of_find?_eq_some hnew)
        rw [counted_pending hphase]
        exact ⟨hzero.trans hnone.symm, (congrArg (· < O.limit) hzero).mpr O.limit_pos⟩

theorem Inv.claim {dispatcher : Nat} {k₀ : κ} {row : ρ} {held : Table (Held κ) Held.dispatcher}
    (hx : Inv (s, attempted)) (hrow : s.rows.get? k₀ = some row)
    (hphase : O.phase row = .pending)
    (hinsert : s.held.insert ⟨dispatcher, k₀, O.attempts row⟩ = some held) :
    Inv (({ s with
        rows := s.rows.update (fun row => O.key row = k₀) O.take O.key_take, held } : State O),
      Function.update attempted k₀ (attempted k₀ + 1)) := by
  have hother : ∀ held ∈ s.held, held.row ≠ k₀ :=
    fun held hheld => hx.ne_of_pending hheld hrow hphase
  refine ⟨fun given hgiven => ?_, fun given hgiven other hother' hsame => ?_,
    served_update O.key_take hx.served, fun k => ?_⟩
  · rcases Table.mem_insert hinsert hgiven with hold | rfl
    · obtain ⟨row', hrow', hsending⟩ := hx.holds given hold
      refine ⟨row', ?_, hsending⟩
      rwa [Table.get?_update_key, if_neg (hother given hold)]
    · refine ⟨O.take row, ?_, O.phase_take row, O.attempts_take row⟩
      rw [Table.get?_update_key, if_pos rfl, hrow, Option.map_some]
  · rcases Table.mem_insert hinsert hgiven with hold | rfl
    · rcases Table.mem_insert hinsert hother' with hold' | rfl
      · exact hx.apart given hold other hold' hsame
      · exact absurd hsame (hother given hold)
    · rcases Table.mem_insert hinsert hother' with hold' | rfl
      · exact absurd hsame.symm (hother other hold')
      · rfl
  · have hk : Counted O (attempted k) (s.rows.get? k) := hx.counted k
    rw [Table.get?_update_key]
    by_cases hsame : k = k₀
    · subst hsame
      rw [hrow, counted_pending hphase] at hk
      rw [if_pos rfl, hrow, Option.map_some, counted_sending (O.phase_take row), O.attempts_take]
      simp only [Function.update_self]
      omega
    · rw [if_neg hsame]
      simpa only [Function.update_of_ne hsame] using hk

theorem Inv.settle {dispatcher : Nat} {outcome : ω} {now : Nat} {held : Held κ}
    (hx : Inv (s, attempted)) (hheld : s.held.get? dispatcher = some held) :
    Inv (({ s with
        rows := s.rows.update (fun row => O.key row = held.row)
          (O.settle outcome held.attempts now) (O.key_settle outcome held.attempts now)
        held := s.held.deleteWhere fun held => held.dispatcher = dispatcher } : State O),
      attempted) := by
  have hmem := Table.mem_of_get? hheld
  have hdispatcher := Table.key_of_get? hheld
  obtain ⟨row, hrow, hsending, hread⟩ := hx.holds held hmem
  have hleft : ∀ other, other ∈ s.held.deleteWhere (fun held => held.dispatcher = dispatcher) →
      other ∈ s.held ∧ other.row ≠ held.row := by
    intro other hmem'
    obtain ⟨hother, hne⟩ := Table.mem_deleteWhere.mp hmem'
    refine ⟨hother, fun hsame => hne ?_⟩
    rw [hx.apart other hother held hmem hsame]
    exact hdispatcher
  refine ⟨fun other hother => ?_, fun other hother another hanother => ?_,
    served_update (O.key_settle ..) hx.served, fun k => ?_⟩
  · obtain ⟨hold, hne⟩ := hleft other hother
    obtain ⟨row', hrow', hsending'⟩ := hx.holds other hold
    refine ⟨row', ?_, hsending'⟩
    rwa [Table.get?_update_key, if_neg hne]
  · exact hx.apart other (hleft other hother).1 another (hleft another hanother).1
  · have hk : Counted O (attempted k) (s.rows.get? k) := hx.counted k
    rw [Table.get?_update_key]
    by_cases hsame : k = held.row
    · subst hsame
      simp only at hrow
      rw [hrow, counted_sending hsending] at hk
      rw [if_pos rfl, hrow, Option.map_some]
      rcases O.settle_cases outcome held.attempts now row with hfinal | ⟨hpending, hnext, hlt⟩
      · rw [counted_final hfinal]
        exact hk.2
      · rw [counted_pending hpending, hnext]
        simp only
        omega
    · rwa [if_neg hsame]

end Steps

theorem Inv.step {x x' : State O × (κ → Nat)} (hx : Inv x)
    (h : recording (step O) record x a = some x') : Inv x' := by
  obtain ⟨s, attempted⟩ := x
  obtain ⟨s', attempted'⟩ := x'
  obtain ⟨hstep, hrecord⟩ := recording_eq_some_iff.mp h
  simp only at hstep hrecord
  subst hrecord
  cases step_moves hstep with
  | tick => exact ⟨hx.holds, hx.apart, hx.served, hx.counted⟩
  | change hchanges =>
    refine ⟨hx.holds, hx.apart, fun row hrow => ?_, hx.counted⟩
    exact O.served_of_changes _ _ _ hchanges (hx.served row hrow)
  | enqueue hrows => exact hx.enqueue hrows
  | claim hrow holdest hinsert =>
    exact hx.claim hrow (O.phase_of_due _ _ _ holdest.1) hinsert
  | settle hheld => exact hx.settle hheld
  | crash =>
    refine ⟨fun held hheld => ?_, fun held hheld other hother => ?_, hx.served, hx.counted⟩
    · exact hx.holds held (Table.mem_deleteWhere.mp hheld).1
    · exact hx.apart held (Table.mem_deleteWhere.mp hheld).1 other
        (Table.mem_deleteWhere.mp hother).1

/-! ## Rows that are lost -/

/-- A dispatcher claims the row under `k`, or writes the result of its attempt at it. -/
def PickedUp (k : κ) (s : State O) (a : Action κ ε ω ι) (_ : State O) : Prop :=
  match a with
  | .claim _ _ row => row = k
  | .settle dispatcher _ _ => ∃ held, s.held.get? dispatcher = some held ∧ held.row = k
  | _ => False

/-- Some later transaction of a dispatcher picks up the row. -/
def Deliverable (s : State O) (k : κ) : Prop := Possible (step O) (PickedUp k) s

def Lost (k : κ) (s : State O) : Prop :=
  (∃ row, s.rows.get? k = some row ∧ O.phase row = .sending) ∧ ∀ held ∈ s.held, held.row ≠ k

theorem Lost.step (hlost : Lost k s) (h : step O s a = some s') : Lost k s' := by
  obtain ⟨⟨row, hrow, hsending⟩, hnobody⟩ := hlost
  cases step_moves h with
  | tick | change => exact ⟨⟨row, hrow, hsending⟩, hnobody⟩
  | enqueue hrows =>
    refine ⟨⟨row, ?_, hsending⟩, hnobody⟩
    rw [hrows, hrow, Option.some_or]
  | @claim dispatcher locked k₀ row₀ held hrow₀ holdest hinsert =>
    have hne : k₀ ≠ k := by
      rintro rfl
      have hpending := O.phase_of_due _ _ row₀ holdest.1
      rw [hrow, Option.some.injEq] at hrow₀
      rw [← hrow₀, hsending] at hpending
      contradiction
    refine ⟨⟨row, ?_, hsending⟩, fun given hgiven => ?_⟩
    · rwa [Table.get?_update_key, if_neg hne.symm]
    · rcases Table.mem_insert hinsert hgiven with hold | rfl
      · exact hnobody given hold
      · exact hne
  | settle hheld =>
    refine ⟨⟨row, ?_, hsending⟩, fun given hgiven => ?_⟩
    · rwa [Table.get?_update_key, if_neg (hnobody _ (Table.mem_of_get? hheld)).symm]
    · exact hnobody given (Table.mem_deleteWhere.mp hgiven).1
  | crash =>
    exact ⟨⟨row, hrow, hsending⟩,
      fun given hgiven => hnobody given (Table.mem_deleteWhere.mp hgiven).1⟩

/-- **A lost row is lost for good.** -/
theorem Lost.not_deliverable (hlost : Lost k s) : ¬ Deliverable s k := by
  refine not_possible (P := Lost k) (fun s a s' hs hstep => hs.step hstep) ?_ hlost
  rintro s a s' ⟨⟨row, hrow, hsending⟩, hnobody⟩ hstep hpicked
  cases step_moves hstep with
  | @claim dispatcher locked k₀ row₀ held hrow₀ holdest hinsert =>
    have hpending := O.phase_of_due _ _ row₀ holdest.1
    have hsame : k₀ = k := hpicked
    rw [hsame, hrow, Option.some.injEq] at hrow₀
    rw [← hrow₀, hsending] at hpending
    contradiction
  | settle hheld =>
    obtain ⟨held, hget, hk⟩ := hpicked
    exact hnobody held (Table.mem_of_get? hget) hk
  | _ => exact hpicked

/-! ## Rows that wait -/

/-- `1` for a row that waits. -/
def waits (row : ρ) : Nat := if O.phase row = .pending then 1 else 0

def waiting (s : State O) : Nat := s.rows.sum (waits (O := O))

omit [DecidableEq κ] in
theorem exists_free (s : State O) : ∃ dispatcher, s.held.get? dispatcher = none := by
  obtain ⟨dispatcher, hfree⟩ :=
    Infinite.exists_notMem_finset (s.held.rows.map Held.dispatcher).toFinset
  refine ⟨dispatcher, Table.get?_eq_none_iff.mpr fun held hheld hsame => hfree ?_⟩
  rw [List.mem_toFinset]
  exact List.mem_map.mpr ⟨held, hheld, hsame⟩

omit [DecidableEq κ] in
theorem exists_oldest (hrow : row ∈ s.rows) (hdue : O.due s.env s.now row = true) :
    ∃ oldest ∈ s.rows, Oldest s [] oldest := by
  have hmem : row ∈ s.rows.rows.filter fun row => O.due s.env s.now row :=
    List.mem_filter.mpr ⟨hrow, hdue⟩
  cases hmin : (s.rows.rows.filter fun row => O.due s.env s.now row).argmin O.createdAt with
  | none =>
    rw [List.argmin_eq_none] at hmin
    rw [hmin] at hmem
    exact absurd hmem List.not_mem_nil
  | some oldest =>
    obtain ⟨hold, hdue'⟩ := List.mem_filter.mp (List.argmin_mem hmin)
    refine ⟨oldest, hold, hdue', List.not_mem_nil, fun other hother hother' _ => ?_⟩
    exact List.le_of_mem_argmin (List.mem_filter.mpr ⟨hother, hother'⟩) hmin

/-- **A row that is due is reached**: the rows before it are claimed and sent first. -/
theorem deliverable_of_due (hrow : s.rows.get? k = some row)
    (hdue : O.due s.env s.now row = true) : Deliverable s k := by
  induction hn : waiting s using Nat.strong_induction_on generalizing s with
  | _ n ih =>
    subst hn
    obtain ⟨oldest, hold, holdest⟩ := exists_oldest (Table.mem_of_get? hrow) hdue
    obtain ⟨dispatcher, hfree⟩ := exists_free s
    have hget := Table.get?_of_mem hold
    cases hinsert : s.held.insert ⟨dispatcher, O.key oldest, O.attempts oldest⟩ with
    | none =>
      obtain ⟨held, hheld⟩ := Table.insert_eq_none_iff.mp hinsert
      rw [hfree] at hheld
      contradiction
    | some held =>
      have hclaim : step O s (.claim dispatcher [] (O.key oldest)) =
          some { s with
            rows := s.rows.update (fun row => O.key row = O.key oldest) O.take O.key_take
            held } := by
        simp only [step, hget, if_pos holdest, hinsert, Option.map_some]
      by_cases hk : O.key oldest = k
      · exact .of_step hclaim hk
      · -- the older row is sent, and the rows that wait are one less
        refine .later hclaim ?_
        have hheld := Table.get?_of_mem (Table.mem_of_insert hinsert)
        refine .later (a := .settle dispatcher O.done s.now) (by simp only [step, hheld]; rfl) ?_
        refine ih _ ?_ ?_ hdue rfl
        · have htaken := Table.sum_update_key (f := waits (O := O)) O.key_take hget
          have hsent := Table.sum_update_key (f := waits (O := O))
            (t := s.rows.update (fun row => O.key row = O.key oldest) O.take O.key_take)
            (O.key_settle O.done (O.attempts oldest) s.now) (k := O.key oldest)
            (r := O.take oldest) (by rw [Table.get?_update_key, if_pos rfl, hget, Option.map_some])
          have hpending := O.phase_of_due _ _ _ holdest.1
          simp only [waits, hpending, O.phase_take, O.phase_settle_done, if_true, reduceCtorEq,
            if_false] at htaken hsent
          simp only [waiting]
          omega
        · rw [Table.get?_update_key, if_neg (Ne.symm hk), Table.get?_update_key,
            if_neg (Ne.symm hk), hrow]

/-! ## Nothing is lost -/

/-- Every row that is being sent is in the hands of a dispatcher. -/
def InHand (s : State O) : Prop :=
  ∀ row ∈ s.rows, O.phase row = .sending → ∃ held ∈ s.held, held.row = O.key row

theorem deliverable_of_pending (hrow : row ∈ s.rows) (hphase : O.phase row = .pending)
    (hserved : O.Served s.env (O.key row)) : Deliverable s (O.key row) := by
  obtain ⟨env, hchanges, since, hdue⟩ := O.exists_due s.env row hserved hphase
  have hchange : step O s (.change env) = some { s with env } := by
    simp only [step, if_pos hchanges]
  have htick : step O { s with env } (.tick (max s.now since)) =
      some { s with env, now := max s.now since } := by
    simp only [step, if_pos (Nat.le_max_left s.now since)]
  have hlater : O.due env (max s.now since) row = true := hdue _ (Nat.le_max_right s.now since)
  exact .later hchange (.later htick (deliverable_of_due (Table.get?_of_mem hrow) hlater))

/-- **The unfinished rows that can be picked up** are all, exactly when those being sent are in
somebody's hands. -/
theorem deliverable_iff_inHand {attempted : κ → Nat} (hx : Inv (s, attempted)) :
    (∀ row ∈ s.rows, O.phase row ≠ .final → Deliverable s (O.key row)) ↔ InHand s := by
  constructor
  · intro hall row hrow hsending
    by_contra hnobody
    push Not at hnobody
    have hlost : Lost (O.key row) s := ⟨⟨row, Table.get?_of_mem hrow, hsending⟩, hnobody⟩
    exact hlost.not_deliverable (hall row hrow (by rw [hsending]; decide))
  · intro hinHand row hrow hunfinished
    cases hphase : O.phase row with
    | pending => exact deliverable_of_pending hrow hphase (hx.served row hrow)
    | sending =>
      obtain ⟨held, hheld, hk⟩ := hinHand row hrow hphase
      have hget := Table.get?_of_mem hheld
      have hsettle : (step O s (.settle held.dispatcher O.done s.now)).isSome = true := by
        simp only [step, hget, Option.isSome_some]
      obtain ⟨s', hs'⟩ := Option.isSome_iff_exists.mp hsettle
      have hpicked : PickedUp (O.key row) s (.settle held.dispatcher O.done s.now) s' :=
        ⟨held, hget, hk⟩
      exact .of_step hs' hpicked
    | final => exact absurd hphase hunfinished

def EmptyHanded (s : State O) : Action κ ε ω ι → Prop
  | .crash dispatcher => s.held.get? dispatcher = none
  | _ => True

theorem inHand_step_iff {attempted : κ → Nat} (hx : Inv (s, attempted)) (hinHand : InHand s)
    (h : step O s a = some s') : InHand s' ↔ EmptyHanded s a := by
  cases step_moves h with
  | tick | change => exact iff_of_true hinHand trivial
  | enqueue hrows =>
    refine iff_of_true (fun row hrow hsending => ?_) trivial
    have hget := Table.get?_of_mem hrow
    rw [hrows, Option.or_eq_some_iff] at hget
    rcases hget with hold | ⟨-, hnew⟩
    · exact hinHand row (Table.mem_of_get? hold) hsending
    · have hpending := (O.queued_new _ _ row (List.mem_of_find?_eq_some hnew)).1
      rw [hsending] at hpending
      contradiction
  | @claim dispatcher locked k₀ row₀ held hrow₀ holdest hinsert =>
    refine iff_of_true (fun row hrow hsending => ?_) trivial
    have hrow : row ∈ s.rows.update (fun row => O.key row = k₀) O.take O.key_take := hrow
    obtain ⟨old, hold, rfl⟩ := Table.mem_update.mp hrow
    by_cases hk : O.key old = k₀
    · refine ⟨_, Table.mem_of_insert hinsert, ?_⟩
      rw [if_pos hk, O.key_take.key_eq, hk]
    · rw [if_neg hk] at hsending ⊢
      obtain ⟨given, hgiven, hsame⟩ := hinHand old hold hsending
      refine ⟨given, ?_, hsame⟩
      rw [Table.mem_def, (Table.insert_eq_some_iff.mp hinsert).2]
      exact List.mem_append_left _ hgiven
  | @settle dispatcher outcome now held hheld =>
    refine iff_of_true (fun row hrow hsending => ?_) trivial
    have hkey := O.key_settle outcome held.attempts now
    have hrow : row ∈ s.rows.update (fun row => O.key row = held.row)
        (O.settle outcome held.attempts now) hkey := hrow
    obtain ⟨old, hold, rfl⟩ := Table.mem_update.mp hrow
    by_cases hk : O.key old = held.row
    · rw [if_pos hk] at hsending
      rcases O.settle_cases outcome held.attempts now old with hfinal | ⟨hpending, -⟩
      · rw [hsending] at hfinal
        contradiction
      · rw [hsending] at hpending
        contradiction
    · rw [if_neg hk] at hsending ⊢
      obtain ⟨given, hgiven, hsame⟩ := hinHand old hold hsending
      refine ⟨given, Table.mem_deleteWhere.mpr ⟨hgiven, fun hdispatcher => hk ?_⟩, hsame⟩
      have hget := Table.get?_of_mem hgiven
      rw [hdispatcher, hheld, Option.some.injEq] at hget
      rw [← hsame, hget]
  | @crash dispatcher =>
    constructor
    · intro hinHand'
      cases hget : s.held.get? dispatcher with
      | none => exact hget
      | some held =>
        -- the row of the dispatcher that goes down is in no other hands
        obtain ⟨hheld, hdispatcher⟩ := Table.get?_eq_some_iff.mp hget
        obtain ⟨row, hrow, hsending, -⟩ := hx.holds held hheld
        obtain ⟨hmem, hk⟩ := Table.get?_eq_some_iff.mp hrow
        obtain ⟨other, hother, hsame⟩ := hinHand' row hmem hsending
        obtain ⟨hother, hne⟩ := Table.mem_deleteWhere.mp hother
        have heq := hx.apart held hheld other hother (hk.symm.trans hsame.symm)
        exact absurd (heq ▸ hdispatcher) hne
    · intro hempty row hrow hsending
      have hfree := Table.get?_eq_none_iff.mp hempty
      obtain ⟨held, hheld, hk⟩ := hinHand row hrow hsending
      exact ⟨held, Table.mem_deleteWhere.mpr ⟨hheld, hfree held hheld⟩, hk⟩

/-- Every unfinished row can still be picked up, and none was attempted more often than the
limit. -/
def NothingLost (x : State O × (κ → Nat)) : Prop :=
  (∀ row ∈ x.1.rows, O.phase row ≠ .final → Deliverable x.1 (O.key row)) ∧ ∀ k, x.2 k ≤ O.limit

theorem nothingLost_iff_inHand (hx : Inv x) :
    NothingLost x ↔ InHand x.1 := by
  have hcounted : ∀ k, x.2 k ≤ O.limit := fun k => (hx.counted k).le
  rw [NothingLost, and_iff_left hcounted]
  exact deliverable_iff_inHand hx

/-- **No stored message is lost**, and none is attempted beyond the limit, exactly in the runs in
which every dispatcher that goes down is empty-handed. -/
theorem nothing_lost_iff_emptyHanded {now : Nat} {env : ε} {as : List (Action κ ε ω ι)} :
    Along (recording (step O) record) (fun _ _ x' => NothingLost x') (initial O now env, fun _ => 0)
        as ↔
      Along (recording (step O) record) (fun x a _ => EmptyHanded x.1 a)
        (initial O now env, fun _ => 0) as := by
  have hI : ∀ x a x', Inv x → recording (step O) record x a = some x' → Inv x' :=
    fun x a x' hx h => hx.step h
  have hinHand : InHand (initial O now env) := fun row hrow => absurd hrow (Table.not_mem_empty row)
  rw [along_iff_along (G := fun _ _ x' => InHand x'.1) hI
    (fun x a x' hx h => nothingLost_iff_inHand (hx.step h)) (inv_initial now env)]
  refine along_state_iff_along (P := fun x => InHand x.1) hI ?_ (inv_initial now env) hinHand
  intro x a x' hx hP h
  exact inHand_step_iff hx hP (recording_eq_some_iff.mp h).1

end Outbox

end Rhythm
