import Mathlib.Data.List.Nodup

/-!
# Rhythm.Table

Database tables as keyed row lists, with the four statements a transaction is
made of: `get?` (a read by primary key), `any` (`EXISTS`), `update`
(`UPDATE … WHERE`) and `insert` (refused on a duplicate primary key).  The
table carries the uniqueness of its primary key, so a row list that breaks it
cannot be built.  This module names nothing of the component that uses it.

A statement is reasoned about by the row it leaves under each key —
`get?_update` and `get?_insert` — never by the list.
-/

namespace Rhythm

/-- Rows with a primary key, in insertion order. -/
structure Table (ρ : Type) {κ : Type} (key : ρ → κ) where
  rows : List ρ
  nodup : (rows.map key).Nodup

namespace Table

variable {ρ κ : Type} {key : ρ → κ}

def empty : Table ρ key := ⟨[], List.nodup_nil⟩

instance : Membership ρ (Table ρ key) := ⟨fun t r => r ∈ t.rows⟩

theorem mem_def {t : Table ρ key} {r : ρ} : r ∈ t ↔ r ∈ t.rows := Iff.rfl

instance (t : Table ρ key) (p : ρ → Prop) [DecidablePred p] : Decidable (∀ r ∈ t, p r) :=
  inferInstanceAs (Decidable (∀ r ∈ t.rows, p r))

instance (t : Table ρ key) (p : ρ → Prop) [DecidablePred p] : Decidable (∃ r ∈ t, p r) :=
  inferInstanceAs (Decidable (∃ r ∈ t.rows, p r))

@[simp] theorem not_mem_empty (r : ρ) : r ∉ (empty : Table ρ key) := List.not_mem_nil

theorem eq_of_key_eq {t : Table ρ key} {r r' : ρ} (hr : r ∈ t) (hr' : r' ∈ t)
    (h : key r = key r') : r = r' :=
  List.inj_on_of_nodup_map t.nodup hr hr' h

/-! ## Reads -/

/-- Some row satisfies `p`. -/
def any (t : Table ρ key) (p : ρ → Prop) [DecidablePred p] : Bool := t.rows.any fun r => p r

@[simp] theorem any_eq_true {t : Table ρ key} {p : ρ → Prop} [DecidablePred p] :
    t.any p = true ↔ ∃ r ∈ t, p r := by
  simp [any, mem_def]

variable [DecidableEq κ]

/-- The row with primary key `k`. -/
def get? (t : Table ρ key) (k : κ) : Option ρ := t.rows.find? fun r => key r = k

@[simp] theorem get?_empty (k : κ) : (empty : Table ρ key).get? k = none := rfl

theorem key_of_get? {t : Table ρ key} {k : κ} {r : ρ} (h : t.get? k = some r) : key r = k := by
  simpa using List.find?_some h

theorem mem_of_get? {t : Table ρ key} {k : κ} {r : ρ} (h : t.get? k = some r) : r ∈ t :=
  List.mem_of_find?_eq_some h

theorem get?_of_mem {t : Table ρ key} {r : ρ} (h : r ∈ t) : t.get? (key r) = some r := by
  cases hget : t.get? (key r) with
  | none =>
    have habsent := List.find?_eq_none.mp hget r h
    simp at habsent
  | some r' =>
    rw [eq_of_key_eq (mem_of_get? hget) h (key_of_get? hget)]

theorem mem_iff_get? {t : Table ρ key} {r : ρ} : r ∈ t ↔ t.get? (key r) = some r :=
  ⟨get?_of_mem, mem_of_get?⟩

theorem get?_eq_some_iff {t : Table ρ key} {k : κ} {r : ρ} :
    t.get? k = some r ↔ r ∈ t ∧ key r = k :=
  ⟨fun h => ⟨mem_of_get? h, key_of_get? h⟩, fun ⟨hmem, hk⟩ => hk ▸ get?_of_mem hmem⟩

theorem get?_eq_none_iff {t : Table ρ key} {k : κ} : t.get? k = none ↔ ∀ r ∈ t, key r ≠ k := by
  simp [get?, List.find?_eq_none, mem_def]

theorem map_get?_congr {t : Table ρ key} {k : κ} {f g : ρ → ρ}
    (h : ∀ r, t.get? k = some r → f r = g r) : (t.get? k).map f = (t.get? k).map g := by
  cases hget : t.get? k with
  | none => rfl
  | some r => rw [Option.map_some, Option.map_some, h r hget]

theorem map_get?_eq_self {t : Table ρ key} {k : κ} {f : ρ → ρ}
    (h : ∀ r, t.get? k = some r → f r = r) : (t.get? k).map f = t.get? k :=
  (map_get?_congr h).trans (congrFun Option.map_id_fun _)

theorem map_get?_ite_key {t : Table ρ key} {k k₀ : κ} {f : ρ → ρ} :
    ((t.get? k).map fun r => if key r = k₀ then f r else r) =
      if k = k₀ then (t.get? k).map f else t.get? k := by
  by_cases hk : k = k₀
  · rw [if_pos hk]
    exact map_get?_congr fun r hr => if_pos ((key_of_get? hr).trans hk)
  · rw [if_neg hk]
    exact map_get?_eq_self fun r hr => if_neg fun h => hk ((key_of_get? hr).symm.trans h)

theorem filter_key (t : Table ρ key) (k : κ) :
    (t.rows.filter fun r => key r = k) = (t.get? k).toList := by
  obtain ⟨rows, nodup⟩ := t
  simp only [get?]
  induction rows with
  | nil => rfl
  | cons r rows ih =>
    rw [List.map_cons, List.nodup_cons] at nodup
    rw [List.filter_cons, List.find?_cons]
    by_cases hk : key r = k
    · have hrest : (rows.filter fun r => key r = k) = [] := by
        rw [List.filter_eq_nil_iff]
        intro r' hr' hk'
        exact nodup.1 (List.mem_map.mpr ⟨r', hr', (decide_eq_true_eq.mp hk').trans hk.symm⟩)
      simp [hk, hrest]
    · simp [hk, ih nodup.2]

/-! ## Writes -/

/-- A row update that leaves the primary key alone. -/
structure KeepsKey (key : ρ → κ) (f : ρ → ρ) : Prop where
  key_eq : ∀ r, key (f r) = key r

omit [DecidableEq κ] in
private theorem map_key_update {p : ρ → Prop} [DecidablePred p] {f : ρ → ρ}
    (hf : KeepsKey key f) (rows : List ρ) :
    (rows.map fun r => if p r then f r else r).map key = rows.map key := by
  rw [List.map_map]
  refine List.map_congr_left fun r _ => ?_
  by_cases hp : p r
  · simp [hp, hf.key_eq]
  · simp [hp]

/-- `UPDATE … WHERE p`: every row with `p` is rewritten by `f`, which keeps
the primary key. -/
def update (t : Table ρ key) (p : ρ → Prop) [DecidablePred p] (f : ρ → ρ)
    (hf : KeepsKey key f := by exact ⟨fun _ => rfl⟩) : Table ρ key where
  rows := t.rows.map fun r => if p r then f r else r
  nodup := by rw [map_key_update hf]; exact t.nodup

/-- `INSERT`: refused when the primary key is taken. -/
def insert (t : Table ρ key) (r : ρ) : Option (Table ρ key) :=
  if h : key r ∈ t.rows.map key then none
  else some ⟨t.rows ++ [r], by
    rw [List.map_append, List.map_singleton]
    exact List.nodup_append'.mpr ⟨t.nodup, List.nodup_singleton _, by simpa using h⟩⟩

/-- A batch of `INSERT`s, refused as a whole when one of them is. -/
def insertAll (t : Table ρ key) : List ρ → Option (Table ρ key)
  | [] => some t
  | r :: rs => (t.insert r).bind fun t' => t'.insertAll rs

/-- `INSERT … ON CONFLICT DO NOTHING`. -/
def insertIgnore (t : Table ρ key) (r : ρ) : Table ρ key := (t.insert r).getD t

/-- `INSERT … ON CONFLICT DO UPDATE`: `set` rewrites the row that has the key with the new one. -/
def upsert (t : Table ρ key) (set : ρ → ρ → ρ) (hset : ∀ r, KeepsKey key (set r)) (r : ρ) :
    Table ρ key :=
  (t.insert r).getD (t.update (fun old => key old = key r) (set r) (hset r))

def upsertAll (t : Table ρ key) (set : ρ → ρ → ρ) (hset : ∀ r, KeepsKey key (set r))
    (rs : List ρ) : Table ρ key :=
  rs.foldl (fun t r => t.upsert set hset r) t

/-- `DELETE … WHERE p`. -/
def deleteWhere (t : Table ρ key) (p : ρ → Prop) [DecidablePred p] : Table ρ key where
  rows := t.rows.filter fun r => ¬ p r
  nodup := t.nodup.sublist (List.filter_sublist.map key)

omit [DecidableEq κ] in
theorem mem_update {t : Table ρ key} {p : ρ → Prop} [DecidablePred p] {f : ρ → ρ}
    {hf : KeepsKey key f} {r' : ρ} :
    r' ∈ t.update p f hf ↔ ∃ r ∈ t, (if p r then f r else r) = r' := by
  simp [update, mem_def]

/-- **`UPDATE` row by row.**  What a key reads afterwards is the row it read
before, rewritten when the row satisfies the condition. -/
theorem get?_update {t : Table ρ key} {p : ρ → Prop} [DecidablePred p] {f : ρ → ρ}
    {hf : KeepsKey key f} {k : κ} :
    (t.update p f hf).get? k = (t.get? k).map fun r => if p r then f r else r := by
  have hkey : ∀ r, key (if p r then f r else r) = key r := fun r => by
    by_cases hp : p r
    · simp [hp, hf.key_eq]
    · simp [hp]
  simp only [get?, update, List.find?_map]
  congr 2
  funext r
  simp only [Function.comp, hkey]

@[simp] theorem get?_update_eq_none {t : Table ρ key} {p : ρ → Prop} [DecidablePred p] {f : ρ → ρ}
    {hf : KeepsKey key f} {k : κ} : (t.update p f hf).get? k = none ↔ t.get? k = none := by
  rw [get?_update, Option.map_eq_none_iff]

/-- **`UPDATE … WHERE id=$1` row by row.** -/
theorem get?_update_key {f : ρ → ρ} {hf : KeepsKey key f} {t : Table ρ key} {k k₀ : κ} :
    (t.update (fun r => key r = k₀) f hf).get? k =
      if k = k₀ then (t.get? k).map f else t.get? k := by
  rw [get?_update, map_get?_ite_key]

theorem mem_update_key {f : ρ → ρ} (hf : KeepsKey key f) {t : Table ρ key} {k : κ} {r r' : ρ}
    (h : t.get? k = some r) :
    r' ∈ t.update (fun r => key r = k) f hf ↔ r' = f r ∨ r' ∈ t ∧ key r' ≠ k := by
  obtain ⟨hmem, hk⟩ := get?_eq_some_iff.mp h
  rw [mem_update]
  constructor
  · grind [eq_of_key_eq]
  · rintro (rfl | ⟨hold, hkey⟩)
    · exact ⟨r, hmem, if_pos hk⟩
    · exact ⟨r', hold, if_neg hkey⟩

theorem insert_eq_some_iff {t t' : Table ρ key} {r : ρ} :
    t.insert r = some t' ↔ t.get? (key r) = none ∧ t'.rows = t.rows ++ [r] := by
  unfold insert
  by_cases h : key r ∈ t.rows.map key
  · rw [dif_pos h]
    obtain ⟨r', hr', hk⟩ := List.mem_map.mp h
    have hne : t.get? (key r) ≠ none := fun hnone => get?_eq_none_iff.mp hnone r' hr' hk
    simp [hne]
  · rw [dif_neg h]
    have hnone : t.get? (key r) = none :=
      get?_eq_none_iff.mpr fun r' hr' hk => h (List.mem_map.mpr ⟨r', hr', hk⟩)
    rw [Option.some.injEq]
    constructor
    · rintro rfl
      exact ⟨hnone, rfl⟩
    · rintro ⟨-, hrows⟩
      cases t'
      simpa using hrows.symm

theorem mem_of_insert {t t' : Table ρ key} {r : ρ} (h : t.insert r = some t') : r ∈ t' := by
  obtain ⟨-, hrows⟩ := insert_eq_some_iff.mp h
  rw [mem_def, hrows]
  exact List.mem_append_right _ (List.mem_singleton_self r)

theorem mem_insert {t t' : Table ρ key} {r r' : ρ} (h : t.insert r = some t') (hr' : r' ∈ t') :
    r' ∈ t ∨ r' = r := by
  rw [mem_def, (insert_eq_some_iff.mp h).2, List.mem_append, List.mem_singleton] at hr'
  exact hr'

theorem get?_of_insert_eq_none {t t' : Table ρ key} {r : ρ} (h : t.insert r = some t') :
    t.get? (key r) = none :=
  (insert_eq_some_iff.mp h).1

/-- **A loop of `UPDATE`s row by row**, when a round that meets a rewritten row
leaves it as it is. -/
theorem get?_foldl_update_of_stable {ι : Type} {q : ι → ρ → Prop} [∀ i, DecidablePred (q i)]
    {f : ρ → ρ} {hf : KeepsKey key f} (hstable : ∀ i r, q i (f r) → f (f r) = f r)
    (items : List ι) {t : Table ρ key} {k : κ} :
    (items.foldl (fun t i => t.update (q i) f hf) t).get? k =
      (t.get? k).map fun r => if ∃ i ∈ items, q i r then f r else r := by
  induction items generalizing t with
  | nil => simp
  | cons i items ih =>
    rw [List.foldl_cons, ih, get?_update, Option.map_map]
    refine map_get?_congr fun r _ => ?_
    by_cases hi : q i r
    · have hlater : (if ∃ j ∈ items, q j (f r) then f (f r) else f r) = f r := by
        split
        · rename_i hmet
          obtain ⟨j, -, hj⟩ := hmet
          exact hstable j r hj
        · rfl
      simp [hi, hlater]
    · simp [hi]

/-- **A loop of `UPDATE`s row by row**, when a rewritten row no longer satisfies
the condition of any round. -/
theorem get?_foldl_update {ι : Type} {q : ι → ρ → Prop} [∀ i, DecidablePred (q i)] {f : ρ → ρ}
    {hf : KeepsKey key f} (hdone : ∀ i r, ¬ q i (f r)) (items : List ι) {t : Table ρ key} {k : κ} :
    (items.foldl (fun t i => t.update (q i) f hf) t).get? k =
      (t.get? k).map fun r => if ∃ i ∈ items, q i r then f r else r :=
  get?_foldl_update_of_stable (fun i r hi => absurd hi (hdone i r)) items

/-- **`INSERT` row by row.**  What a key reads afterwards is the row it read
before, or else the new row under its own key. -/
theorem get?_insert {t t' : Table ρ key} {r : ρ} (h : t.insert r = some t') (k : κ) :
    t'.get? k = (t.get? k).or (if key r = k then some r else none) := by
  obtain ⟨-, hrows⟩ := insert_eq_some_iff.mp h
  simp only [get?, hrows, List.find?_append, List.find?_singleton, decide_eq_true_eq]

theorem insert_eq_none_iff {t : Table ρ key} {r : ρ} :
    t.insert r = none ↔ ∃ r', t.get? (key r) = some r' := by
  simp [insert, get?_eq_some_iff, mem_def]

/-- **A batch of `INSERT`s.**  It goes through exactly when its keys are new and differ. -/
theorem insertAll_eq_some_iff {t t' : Table ρ key} {rs : List ρ} :
    t.insertAll rs = some t' ↔
      (rs.map key).Nodup ∧ (∀ r ∈ rs, t.get? (key r) = none) ∧ t'.rows = t.rows ++ rs := by
  induction rs generalizing t with
  | nil =>
    rw [insertAll, Option.some.injEq, List.append_nil]
    constructor
    · rintro rfl
      simp
    · rintro ⟨-, -, hrows⟩
      cases t
      cases t'
      simpa using hrows.symm
  | cons r rs ih =>
    rw [insertAll, Option.bind_eq_some_iff, List.map_cons, List.nodup_cons]
    constructor
    · rintro ⟨t₁, hinsert, hrest⟩
      obtain ⟨hnew, hrows₁⟩ := insert_eq_some_iff.mp hinsert
      obtain ⟨hnodup, hfree, hrows⟩ := ih.mp hrest
      have hfree₁ : ∀ r' ∈ rs, t.get? (key r') = none ∧ key r ≠ key r' := by
        intro r' hr'
        have hnone := hfree r' hr'
        rw [get?_insert hinsert, Option.or_eq_none_iff] at hnone
        refine ⟨hnone.1, fun hkey => ?_⟩
        rw [if_pos hkey] at hnone
        cases hnone.2
      refine ⟨⟨fun hmem => ?_, hnodup⟩, ?_, by rw [hrows, hrows₁, List.append_assoc]; rfl⟩
      · obtain ⟨r', hr', hkey⟩ := List.mem_map.mp hmem
        exact (hfree₁ r' hr').2 hkey.symm
      · intro r' hr'
        obtain rfl | hr' := List.mem_cons.mp hr'
        · exact hnew
        · exact (hfree₁ r' hr').1
    · rintro ⟨⟨hhead, hnodup⟩, hfree, hrows⟩
      cases hinsert : t.insert r with
      | none =>
        obtain ⟨r', hr'⟩ := insert_eq_none_iff.mp hinsert
        rw [hfree r List.mem_cons_self] at hr'
        cases hr'
      | some t₁ =>
        refine ⟨t₁, rfl, ih.mpr ⟨hnodup, fun r' hr' => ?_, ?_⟩⟩
        · have hkey : key r ≠ key r' := fun h => hhead (List.mem_map.mpr ⟨r', hr', h.symm⟩)
          rw [get?_insert hinsert, hfree r' (List.mem_cons_of_mem _ hr'), if_neg hkey]
          rfl
        · rw [hrows, (insert_eq_some_iff.mp hinsert).2, List.append_assoc]
          rfl

theorem insertAll_eq_none_iff {t : Table ρ key} {rs : List ρ} :
    t.insertAll rs = none ↔ ¬ ((rs.map key).Nodup ∧ ∀ r ∈ rs, t.get? (key r) = none) := by
  cases hinsert : t.insertAll rs with
  | some t' =>
    obtain ⟨hnodup, hfree, -⟩ := insertAll_eq_some_iff.mp hinsert
    exact iff_of_false (Option.some_ne_none t') (not_not_intro ⟨hnodup, hfree⟩)
  | none =>
    refine iff_of_true rfl ?_
    rintro ⟨hnodup, hfree⟩
    have hdisjoint : (t.rows.map key).Disjoint (rs.map key) := by
      intro k hk hk'
      obtain ⟨r, hr, rfl⟩ := List.mem_map.mp hk
      obtain ⟨r', hr', hkey⟩ := List.mem_map.mp hk'
      exact get?_eq_none_iff.mp (hfree r' hr') r hr hkey.symm
    have hall : ((t.rows ++ rs).map key).Nodup := by
      rw [List.map_append]
      exact List.nodup_append'.mpr ⟨t.nodup, hnodup, hdisjoint⟩
    have hsome : t.insertAll rs = some ⟨t.rows ++ rs, hall⟩ :=
      insertAll_eq_some_iff.mpr ⟨hnodup, hfree, rfl⟩
    rw [hsome] at hinsert
    cases hinsert

theorem get?_insertIgnore {t : Table ρ key} {r : ρ} (k : κ) :
    (t.insertIgnore r).get? k = (t.get? k).or (if key r = k then some r else none) := by
  unfold insertIgnore
  cases h : t.insert r with
  | some t' => exact get?_insert h k
  | none =>
    obtain ⟨r', hr'⟩ := insert_eq_none_iff.mp h
    rw [Option.getD_none]
    by_cases hk : key r = k
    · rw [← hk, hr', Option.some_or]
    · rw [if_neg hk, Option.or_none]

theorem mem_insertIgnore {t : Table ρ key} {r r' : ρ} :
    r' ∈ t.insertIgnore r ↔ r' ∈ t ∨ t.get? (key r) = none ∧ r' = r := by
  grind [mem_iff_get?, get?_insertIgnore, Option.or_eq_some_iff, Option.some.inj]

/-- **A loop of `INSERT … ON CONFLICT DO NOTHING`s row by row.** -/
theorem get?_foldl_insertIgnore {ι : Type} {row : ι → ρ} (items : List ι) {t : Table ρ key}
    {k : κ} :
    (items.foldl (fun t i => t.insertIgnore (row i)) t).get? k =
      (t.get? k).or ((items.find? fun i => key (row i) = k).map row) := by
  induction items generalizing t with
  | nil => simp
  | cons i items ih =>
    rw [List.foldl_cons, ih, get?_insertIgnore, Option.or_assoc, List.find?_cons]
    by_cases hi : key (row i) = k <;> simp [hi]

/-- **A property of every row survives an upsert** of a row that has it, when a row that is met
keeps it. -/
theorem forall_mem_upsert {t : Table ρ key} {set : ρ → ρ → ρ} {hset : ∀ r, KeepsKey key (set r)}
    {r : ρ} {P : ρ → Prop} (ht : ∀ old ∈ t, P old) (hr : P r)
    (hmet : ∀ old ∈ t, key old = key r → P old → P (set r old)) :
    ∀ r' ∈ t.upsert set hset r, P r' := by
  intro r' hr'
  unfold upsert at hr'
  cases hinsert : t.insert r with
  | some t' =>
    rw [hinsert, Option.getD_some] at hr'
    rcases mem_insert hinsert hr' with hold | rfl
    · exact ht r' hold
    · exact hr
  | none =>
    rw [hinsert, Option.getD_none, mem_update] at hr'
    obtain ⟨old, hold, rfl⟩ := hr'
    by_cases hk : key old = key r
    · rw [if_pos hk]
      exact hmet old hold hk (ht old hold)
    · rw [if_neg hk]
      exact ht old hold

theorem exists_key_of_upsert {t : Table ρ key} {set : ρ → ρ → ρ} {hset : ∀ r, KeepsKey key (set r)}
    {r old : ρ} (hold : old ∈ t) : ∃ r' ∈ t.upsert set hset r, key r' = key old := by
  unfold upsert
  cases hinsert : t.insert r with
  | some t' =>
    refine ⟨old, ?_, rfl⟩
    rw [Option.getD_some, mem_def, (insert_eq_some_iff.mp hinsert).2]
    exact List.mem_append_left _ hold
  | none =>
    refine ⟨if key old = key r then set r old else old, ?_, ?_⟩
    · rw [Option.getD_none, mem_update]
      exact ⟨old, hold, rfl⟩
    · split
      · exact (hset r).key_eq old
      · rfl

/-- **The rows after an upsert**, when a row that it meets becomes the new one. -/
theorem mem_upsert {t : Table ρ key} {set : ρ → ρ → ρ} {hset : ∀ r, KeepsKey key (set r)} {r r' : ρ}
    (hmet : ∀ old ∈ t, key old = key r → set r old = r) :
    r' ∈ t.upsert set hset r ↔ r' = r ∨ r' ∈ t ∧ key r' ≠ key r := by
  unfold upsert
  cases hinsert : t.insert r with
  | some t' =>
    obtain ⟨hfree, hrows⟩ := insert_eq_some_iff.mp hinsert
    have hother : r' ∈ t → key r' ≠ key r := fun hr' => get?_eq_none_iff.mp hfree r' hr'
    rw [Option.getD_some, mem_def, hrows, List.mem_append, List.mem_singleton, ← mem_def]
    constructor
    · rintro (hold | hnew)
      · exact .inr ⟨hold, hother hold⟩
      · exact .inl hnew
    · rintro (hnew | ⟨hold, -⟩)
      · exact .inr hnew
      · exact .inl hold
  | none =>
    obtain ⟨old, hold⟩ := insert_eq_none_iff.mp hinsert
    rw [Option.getD_none, mem_update]
    constructor
    · grind
    · grind [mem_of_get?, key_of_get?]

/-- **The rows after a batch of upserts** under different keys. -/
theorem mem_upsertAll {t : Table ρ key} {set : ρ → ρ → ρ} {hset : ∀ r, KeepsKey key (set r)}
    {rs : List ρ} {r' : ρ} (hnodup : (rs.map key).Nodup)
    (hmet : ∀ r ∈ rs, ∀ old ∈ t, key old = key r → set r old = r) :
    r' ∈ t.upsertAll set hset rs ↔ r' ∈ rs ∨ r' ∈ t ∧ key r' ∉ rs.map key := by
  induction rs generalizing t with
  | nil => simp [upsertAll]
  | cons r rs ih =>
    rw [List.map_cons, List.nodup_cons] at hnodup
    have hfirst : ∀ r', r' ∈ t.upsert set hset r ↔ r' = r ∨ r' ∈ t ∧ key r' ≠ key r :=
      fun r' => mem_upsert (hmet r List.mem_cons_self)
    have hlater : ∀ r₂ ∈ rs, ∀ old ∈ t.upsert set hset r, key old = key r₂ → set r₂ old = r₂ := by
      grind
    have hrest := ih hnodup.2 hlater
    rw [upsertAll, List.foldl_cons, ← upsertAll, hrest, hfirst, List.mem_cons, List.map_cons,
      List.mem_cons, not_or]
    constructor
    · grind
    · rintro ((rfl | hr') | ⟨hr', hk, hkeys⟩)
      · exact .inr ⟨.inl rfl, hnodup.1⟩
      · exact .inl hr'
      · exact .inr ⟨.inr ⟨hr', hk⟩, hkeys⟩

theorem mem_upsertAll_of_fresh {t : Table ρ key} {set : ρ → ρ → ρ}
    {hset : ∀ r, KeepsKey key (set r)} {rs : List ρ} {r' : ρ} (hnodup : (rs.map key).Nodup)
    (hfresh : ∀ r ∈ rs, ∀ old ∈ t, key old ≠ key r) :
    r' ∈ t.upsertAll set hset rs ↔ r' ∈ t ∨ r' ∈ rs := by
  rw [mem_upsertAll hnodup fun r hr old hold hk => absurd hk (hfresh r hr old hold)]
  constructor
  · rintro (hnew | ⟨hold, -⟩)
    · exact .inr hnew
    · exact .inl hold
  · rintro (hold | hnew)
    · refine .inr ⟨hold, fun hk => ?_⟩
      obtain ⟨r, hr, hk⟩ := List.mem_map.mp hk
      exact hfresh r hr r' hold hk.symm
    · exact .inl hnew

omit [DecidableEq κ] in
theorem mem_deleteWhere {t : Table ρ key} {p : ρ → Prop} [DecidablePred p] {r : ρ} :
    r ∈ t.deleteWhere p ↔ r ∈ t ∧ ¬ p r := by
  simp [mem_def, deleteWhere]

/-- **`DELETE` row by row.** -/
theorem get?_deleteWhere {t : Table ρ key} {p : ρ → Prop} [DecidablePred p] {k : κ} :
    (t.deleteWhere p).get? k = (t.get? k).bind fun r => if p r then none else some r := by
  cases hget : t.get? k with
  | none =>
    rw [Option.bind_none, get?_eq_none_iff]
    exact fun r hr => get?_eq_none_iff.mp hget r (List.mem_of_mem_filter hr)
  | some r =>
    obtain ⟨hmem, hk⟩ := get?_eq_some_iff.mp hget
    rw [Option.bind_some]
    by_cases hp : p r
    · rw [if_pos hp, get?_eq_none_iff]
      intro r' hr' hk'
      obtain ⟨hmem', hp'⟩ := List.mem_filter.mp hr'
      have hsame : r' = r := eq_of_key_eq hmem' hmem (hk'.trans hk.symm)
      simp [hsame, hp] at hp'
    · rw [if_neg hp, get?_eq_some_iff]
      exact ⟨List.mem_filter.mpr ⟨hmem, by simpa using hp⟩, hk⟩

/-! ## Tables before and after -/

/-- What a transaction leaves of `t`: each row is rewritten or deleted by `f`, and `added` is
inserted. -/
def Becomes (t t' : Table ρ key) (f : ρ → Option ρ) (added : Option ρ) : Prop :=
  ∀ k, t'.get? k = ((t.get? k).bind f).or (added.filter fun r => key r = k)

section Becomes

variable {t t' : Table ρ key} {f g : ρ → Option ρ} {added : Option ρ} {r r' : ρ}

theorem Becomes.mem (h : Becomes t t' f added) (hr : r ∈ t) (hf : f r = some r') : r' ∈ t' := by
  have hget := h (key r)
  rw [get?_of_mem hr, Option.bind_some, hf, Option.some_or] at hget
  exact mem_of_get? hget

theorem Becomes.cases (h : Becomes t t' f added) (hr' : r' ∈ t') :
    (∃ r ∈ t, f r = some r') ∨ added = some r' := by
  have hget := h (key r')
  rw [get?_of_mem hr', eq_comm, Option.or_eq_some_iff] at hget
  rcases hget with hold | ⟨-, hnew⟩
  · obtain ⟨r, hr, hf⟩ := Option.bind_eq_some_iff.mp hold
    exact .inl ⟨r, mem_of_get? hr, hf⟩
  · exact .inr (Option.filter_eq_some_iff.mp hnew).1

theorem becomes_self (t : Table ρ key) : Becomes t t some none := by
  intro k
  simp

theorem becomes_insert (h : t.insert r = some t') : Becomes t t' some (some r) := by
  intro k
  rw [get?_insert h, Option.bind_fun_some, Option.filter_some]
  simp

theorem becomes_of_map {u : ρ → ρ} (h : ∀ k, t'.get? k = (t.get? k).map u) :
    Becomes t t' (fun r => some (u r)) none := by
  intro k
  rw [h k, Option.filter_none, Option.or_none]
  exact Option.map_eq_bind ..

theorem becomes_deleteWhere {p : ρ → Prop} [DecidablePred p] :
    Becomes t (t.deleteWhere p) (fun r => if p r then none else some r) none := by
  intro k
  rw [get?_deleteWhere, Option.filter_none, Option.or_none]

theorem Becomes.congr (h : Becomes t t' f added) (hfg : ∀ r ∈ t, f r = g r) :
    Becomes t t' g added := by
  intro k
  rw [h k]
  cases hget : t.get? k with
  | none => rfl
  | some r => rw [Option.bind_some, Option.bind_some, hfg r (mem_of_get? hget)]

end Becomes

end Table

end Rhythm
