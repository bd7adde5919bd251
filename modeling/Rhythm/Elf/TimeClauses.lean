import Rhythm.Elf.Counting
import Rhythm.JsonPath

/-!
# Rhythm.Elf.TimeClauses

What becomes of the clauses on `@timestamp` and `timestamp` when a search body is
rewritten to one time field?  An object keeps one value under the time field: its own,
else that of `@timestamp`, else that of `timestamp`.  The clauses that are not kept
are lost, unless the kept one says the same.
-/

namespace Rhythm.Elf

open Text Json

/-! ## Reading aliases as the time field -/

/-- The names that `rewriteTimeFieldNodes` takes for the time field. -/
def timeAliases : List String := ["@timestamp", "timestamp"]

section Reading

variable (timeField : String)

def renamedName (name : String) : String := if name ∈ timeAliases then timeField else name

def renamedStep : Step → Step
  | .key name => .key (renamedName timeField name)
  | .index i => .index i

/-- A way into an authored body, as it leads into the rewritten one. -/
def renamed (steps : List Step) : List Step := steps.map (renamedStep timeField)

/-- The value at the end of a renamed way: under `field`, a name is read as well. -/
def namedAt (steps : List Step) (value : Json) : Json :=
  match steps.getLast?, value with
  | some (.key "field"), .str name => .str (renamedName timeField name)
  | _, value => value

/-- The clause that stands at the end of the renamed way `start` has this leaf at the end of
`steps`, all names read. -/
def Reads (start : List Step) (clause : Json) (steps : List Step) (leaf : Json) : Prop :=
  ∃ before inner, clause.get? before = some inner ∧ inner.isLeaf = true ∧
    renamed timeField before = steps ∧ leaf = namedAt timeField (start ++ steps) inner

/-- A member that is a constraint on an alias: its key is one, or it names one as a field. -/
def OnAlias (name : String) (clause : Json) : Prop :=
  name ∈ timeAliases ∨ name = "field" ∧ ∃ named ∈ timeAliases, clause = .str named

/-- Every constraint on an alias is, word for word, a constraint on the time field; no other alias
is left; and there is nothing more to rewrite. -/
structure TimeFieldRewritten (authored result : Json) : Prop where
  kept : ∀ steps name clause, authored.get? (steps ++ [.key name]) = some clause →
    OnAlias name clause →
    ∃ clause', result.get? (renamed timeField (steps ++ [.key name])) = some clause' ∧
      ∀ inside leaf, Reads timeField (renamed timeField (steps ++ [.key name])) clause inside leaf ↔
        clause'.get? inside = some leaf ∧ leaf.isLeaf = true
  keys : ∀ steps name clause, result.get? (steps ++ [.key name]) = some clause →
    name ∈ timeAliases → name = timeField
  names : ∀ steps name, result.get? (steps ++ [.key "field"]) = some (.str name) →
    name ∈ timeAliases → name = timeField
  settled : rewriteTimeFieldNodes timeField result = result

/-! ## What an object keeps -/

/-- The member of an authored object that is kept under this name. -/
def standing (fields : List (String × Json)) (name : String) : Option Json :=
  if name = timeField then (fields.lookup timeField).or (movedAlias fields)
  else if name ∈ timeAliases then none
  else fields.lookup name

/-- The part of an authored value that is kept at the end of a renamed way. -/
def standingAt : Json → List Step → Option Json
  | v, [] => some v
  | .obj fields, .key name :: steps =>
    (standing timeField fields name).bind fun w => standingAt w steps
  | .arr items, .index i :: steps => items[i]?.bind fun w => standingAt w steps
  | _, _ => none

/-- Whatever an authored body says under an alias, the members that are kept in its place say word
for word. -/
def AliasesRepeated (authored : Json) : Prop :=
  ∀ steps name clause, authored.get? (steps ++ [.key name]) = some clause → OnAlias name clause →
    ∀ inside leaf,
      Reads timeField (renamed timeField (steps ++ [.key name])) clause inside leaf ↔
        ∃ inner, standingAt timeField authored
            (renamed timeField (steps ++ [.key name]) ++ inside) = some inner ∧
          inner.isLeaf = true ∧
          leaf = namedAt timeField (renamed timeField (steps ++ [.key name]) ++ inside) inner

end Reading

/-! ## One object -/

variable {timeField name : String} {fields : List (String × Json)} {items : List Json}
  {value leaf w : Json} {step : Step} {steps inside : List Step}

theorem lookup_renameAlias_self (hname : name ≠ timeField) :
    (renameAlias timeField name fields).lookup name = none := by
  grind [renameAlias, child, lookup_append]

theorem lookup_renameAliases :
    (renameAlias timeField "timestamp" (renameAlias timeField "@timestamp" fields)).lookup name =
      standing timeField fields name := by
  by_cases htime : name = timeField
  · subst htime
    rw [standing, if_pos rfl, movedAlias]
    by_cases hplain : name = "timestamp"
    · subst hplain
      rw [renameAlias, if_pos rfl, lookup_renameAlias (by decide) (by decide), if_pos rfl]
      cases fields.lookup "timestamp" <;> simp
    · rw [lookup_renameAlias (Ne.symm hplain) hplain, if_pos rfl]
      by_cases hat : name = "@timestamp"
      · subst hat
        rw [renameAlias, if_pos rfl]
        cases fields.lookup "@timestamp" <;> simp
      · rw [lookup_renameAlias (Ne.symm hat) hat, if_pos rfl,
          lookup_renameAlias_of_ne (by decide) (Ne.symm hplain), Option.or_assoc]
  · grind [standing, lookup_renameAlias_self, lookup_renameAlias_of_ne, timeAliases]

theorem namedAt_key :
    namedAt timeField [.key name] value = (renameField timeField (name, value)).2 := by
  by_cases hname : name = "field"
  · subst hname
    cases value <;> simp [namedAt, renameField, renamedName, timeAliases]
  · rw [renameField_of_ne hname]
    unfold namedAt
    split
    · next heq => simp_all
    · rfl

theorem rewriteItems_eq_map : rewriteItems timeField items =
    items.map (rewriteTimeFieldNodes timeField) := by
  induction items with
  | nil => rfl
  | cons item items ih => rw [rewriteItems, ih, List.map_cons]

theorem lookup_rewritten :
    (renameTimeFields timeField (rewriteFields timeField fields)).lookup name =
      (standing timeField fields name).map fun w =>
        namedAt timeField [.key name] (rewriteTimeFieldNodes timeField w) := by
  have hstanding : standing timeField (rewriteFields timeField fields) name =
      (standing timeField fields name).map (rewriteTimeFieldNodes timeField) := by
    simp only [standing, lookup_rewriteFields, movedAlias_rewriteFields]
    split
    · rw [Option.map_or]
    · split <;> rfl
  rw [renameTimeFields, lookup_map (g := fun w => namedAt timeField [.key name] w)
    (fun field _ => renameField_fst field) (fun value => namedAt_key.symm), lookup_renameAliases,
    hstanding, Option.map_map]
  rfl

/-! ## At a position -/

theorem namedAt_cons_cons {step' : Step} :
    namedAt timeField (step :: step' :: steps) value =
      namedAt timeField (step' :: steps) value := by
  simp only [namedAt, List.getLast?_cons_cons]

theorem get?_namedAt {before : List Step} :
    (namedAt timeField before value).get? (step :: steps) = value.get? (step :: steps) := by
  unfold namedAt
  split
  · rw [get?_str, get?_str]
  · rfl

/-- **What stands at a position of a rewritten body**: the value that is kept there, rewritten. -/
theorem get?_rewritten : (rewriteTimeFieldNodes timeField value).get? steps =
    (standingAt timeField value steps).map fun w =>
      namedAt timeField steps (rewriteTimeFieldNodes timeField w) := by
  induction steps generalizing value with
  | nil =>
    rw [get?_nil, standingAt]
    rfl
  | cons step steps ih =>
    -- the name of a member matters where the way ends with it
    have hnext : ∀ w, (namedAt timeField [step] (rewriteTimeFieldNodes timeField w)).get? steps =
        (standingAt timeField w steps).map fun w' =>
          namedAt timeField (step :: steps) (rewriteTimeFieldNodes timeField w') := by
      intro w
      cases steps with
      | nil => rw [get?_nil, standingAt, Option.map_some]
      | cons step' steps =>
        rw [get?_namedAt, ih]
        simp only [namedAt_cons_cons]
    cases step with
    | key name =>
      cases value with
      | obj fields =>
        rw [rewriteTimeFieldNodes, get?_key, lookup_rewritten, standingAt, Option.bind_map,
          Option.map_bind]
        exact congrArg _ (funext hnext)
      | _ => rfl
    | index i =>
      cases value with
      | arr items =>
        rw [rewriteTimeFieldNodes, get?_index, rewriteItems_eq_map, List.getElem?_map, standingAt,
          Option.bind_map, Option.map_bind]
        exact congrArg _ (funext hnext)
      | _ => rfl

/-! ## Leaves -/

theorem renameAlias_ne_nil (h : fields ≠ []) : renameAlias timeField name fields ≠ [] := by
  simp only [renameAlias]
  split
  · exact h
  · next hname =>
    cases hlookup : fields.lookup name with
    | none => exact h
    | some child =>
      simp only
      split
      · next htime =>
        obtain ⟨own, hown⟩ := Option.isSome_iff_exists.mp htime
        obtain ⟨before, after, rfl, -⟩ := List.lookup_eq_some_iff.mp hown
        have hmem : (timeField, own) ∈ before ++ (timeField, own) :: after :=
          List.mem_append_right _ List.mem_cons_self
        intro hnil
        have hkept := List.mem_filter (p := fun field => field.1 ≠ name) |>.mpr
          ⟨hmem, by simpa using Ne.symm hname⟩
        rw [hnil] at hkept
        cases hkept
      · exact List.append_ne_nil_of_right_ne_nil _ (List.cons_ne_nil _ _)

theorem renameTimeFields_nil : renameTimeFields timeField [] = [] := by
  simp [renameTimeFields, renameAlias]

theorem isLeaf_rewritten : (rewriteTimeFieldNodes timeField value).isLeaf = value.isLeaf := by
  cases value with
  | arr items => cases items <;> rfl
  | obj fields =>
    rw [rewriteTimeFieldNodes]
    cases fields with
    | nil => rw [rewriteFields, renameTimeFields_nil]
    | cons field fields =>
      have hmembers : rewriteFields timeField (field :: fields) ≠ [] := by
        rw [rewriteFields_eq_map]
        exact List.cons_ne_nil _ _
      have hkept : renameTimeFields timeField (rewriteFields timeField (field :: fields)) ≠ [] :=
        List.map_eq_nil_iff.not.mpr (renameAlias_ne_nil (renameAlias_ne_nil hmembers))
      exact List.isEmpty_eq_false_iff.mpr hkept
  | _ => rfl

theorem isLeaf_namedAt : (namedAt timeField steps value).isLeaf = value.isLeaf := by
  unfold namedAt
  split <;> rfl

/-! ## Nothing more to rewrite -/

theorem rewrite_namedAt (h : rewriteTimeFieldNodes timeField value = value) :
    rewriteTimeFieldNodes timeField (namedAt timeField steps value) =
      namedAt timeField steps value := by
  unfold namedAt
  split
  · rfl
  · exact h

theorem renamedName_renamedName :
    renamedName timeField (renamedName timeField name) = renamedName timeField name := by
  grind [timeAliases, renamedName]

theorem namedAt_namedAt : namedAt timeField steps (namedAt timeField steps value) =
    namedAt timeField steps value := by
  by_cases hlast : steps.getLast? = some (.key "field")
  · cases value <;> simp [namedAt, hlast, renamedName_renamedName]
  · have hkeep : ∀ w, namedAt timeField steps w = w := by
      intro w
      unfold namedAt
      split
      · next heq => exact absurd heq hlast
      · rfl
    rw [hkeep]

theorem renameField_eq (field : String × Json) :
    renameField timeField field = (field.1, namedAt timeField [.key field.1] field.2) :=
  Prod.ext (renameField_fst field) namedAt_key.symm

variable {field : String × Json}

theorem exists_of_mem_renameAlias
    (h : field ∈ renameAlias timeField name fields) : ∃ key, (key, field.2) ∈ fields := by
  simp only [renameAlias] at h
  split at h
  · exact ⟨field.1, h⟩
  · cases hlookup : fields.lookup name with
    | none =>
      rw [hlookup] at h
      exact ⟨field.1, h⟩
    | some child =>
      rw [hlookup] at h
      simp only at h
      split at h
      · exact ⟨field.1, (List.mem_filter.mp h).1⟩
      · obtain hkept | hmoved := List.mem_append.mp h
        · exact ⟨field.1, (List.mem_filter.mp hkept).1⟩
        · rw [List.mem_singleton.mp hmoved]
          obtain ⟨before, after, rfl, -⟩ := List.lookup_eq_some_iff.mp hlookup
          exact ⟨name, List.mem_append_right _ List.mem_cons_self⟩

theorem renameAlias_of_none (h : name ≠ timeField → fields.lookup name = none) :
    renameAlias timeField name fields = fields := by
  simp only [renameAlias]
  split
  · rfl
  · next hname => rw [h hname]

theorem standing_of_alias (halias : name ∈ timeAliases) (hname : name ≠ timeField) :
    standing timeField fields name = none := by
  rw [standing, if_neg hname, if_pos halias]

theorem renameField_renameField :
    (renameField timeField ∘ renameField timeField) field = renameField timeField field := by
  rw [Function.comp_apply, renameField_eq, renameField_eq, namedAt_namedAt]

theorem rewrite_member
    (hfields : ∀ field ∈ fields, rewriteTimeFieldNodes timeField
      (rewriteTimeFieldNodes timeField field.2) = rewriteTimeFieldNodes timeField field.2)
    (h : field ∈ renameTimeFields timeField (rewriteFields timeField fields)) :
    rewriteTimeFieldNodes timeField field.2 = field.2 := by
  obtain ⟨inner, hinner, rfl⟩ := List.mem_map.mp h
  obtain ⟨key, hkey⟩ := exists_of_mem_renameAlias hinner
  obtain ⟨key', hkey'⟩ := exists_of_mem_renameAlias hkey
  rw [rewriteFields_eq_map] at hkey'
  obtain ⟨authored, hauthored, heq⟩ := List.mem_map.mp hkey'
  have hvalue : inner.2 = rewriteTimeFieldNodes timeField authored.2 :=
    (congrArg Prod.snd heq).symm
  rw [renameField_eq]
  refine rewrite_namedAt ?_
  rw [hvalue]
  exact hfields authored hauthored

/-- **A rewritten body is rewritten to itself.** -/
theorem rewrite_rewrite (value : Json) :
    rewriteTimeFieldNodes timeField (rewriteTimeFieldNodes timeField value) =
      rewriteTimeFieldNodes timeField value := by
  induction value using Json.induction with
  | leaf value harr hobj =>
    cases value with
    | arr items => exact absurd rfl (harr items)
    | obj fields => exact absurd rfl (hobj fields)
    | _ => rfl
  | arr items ih =>
    grind [rewriteTimeFieldNodes, rewriteItems_eq_map, List.map_map, List.map_congr_left]
  | obj fields ih =>
    rw [rewriteTimeFieldNodes, rewriteTimeFieldNodes]
    refine congrArg Json.obj ?_
    have hgone : ∀ name ∈ timeAliases, name ≠ timeField →
        (renameTimeFields timeField (rewriteFields timeField fields)).lookup name = none := by
      intro name halias hname
      rw [lookup_rewritten, standing_of_alias halias hname, Option.map_none]
    have hmembers : rewriteFields timeField
        (renameTimeFields timeField (rewriteFields timeField fields)) =
          renameTimeFields timeField (rewriteFields timeField fields) := by
      rw [rewriteFields_eq_map]
      refine (List.map_congr_left fun field hfield => ?_).trans (List.map_id _)
      exact Prod.ext rfl (rewrite_member ih hfield)
    rw [hmembers, renameTimeFields,
      renameAlias_of_none (hgone "@timestamp" (by decide)),
      renameAlias_of_none (hgone "timestamp" (by decide)), renameTimeFields, List.map_map]
    exact List.map_congr_left fun field _ => renameField_renameField

/-! ## No alias is left -/

theorem standingAt_alias (halias : name ∈ timeAliases) (hname : name ≠ timeField) :
    standingAt timeField value (steps ++ [.key name]) = none := by
  induction steps generalizing value with
  | nil =>
    cases value with
    | obj fields =>
      rw [List.nil_append, standingAt, standing_of_alias halias hname, Option.bind_none]
    | _ => rfl
  | cons step steps ih =>
    rw [List.cons_append]
    cases value with
    | obj fields =>
      cases step with
      | key first =>
        rw [standingAt]
        cases standing timeField fields first with
        | none => rfl
        | some w => exact ih
      | index i => rfl
    | arr items =>
      cases step with
      | key first => rfl
      | index i =>
        rw [standingAt]
        cases items[i]? with
        | none => rfl
        | some w => exact ih
    | _ => cases step <;> rfl

theorem rewritten_names
    (h : (rewriteTimeFieldNodes timeField value).get? (steps ++ [.key "field"]) = some (.str name))
    (halias : name ∈ timeAliases) : name = timeField := by
  rw [get?_rewritten] at h
  obtain ⟨w, -, hw⟩ := Option.map_eq_some_iff.mp h
  have hagain := congrArg (namedAt timeField (steps ++ [.key "field"])) hw
  rw [namedAt_namedAt, hw] at hagain
  have hread : namedAt timeField (steps ++ [.key "field"]) (.str name) = .str timeField := by
    simp [namedAt, renamedName, halias]
  rw [hread] at hagain
  exact Json.str.inj hagain

/-! ## Clauses -/

theorem leaf_rewritten_iff :
    (rewriteTimeFieldNodes timeField value).get? steps = some leaf ∧ leaf.isLeaf = true ↔
      ∃ inner, standingAt timeField value steps = some inner ∧ inner.isLeaf = true ∧
        leaf = namedAt timeField steps inner := by
  have hsame : ∀ inner : Json, inner.isLeaf = true →
      rewriteTimeFieldNodes timeField inner = inner := by
    intro inner hleaf
    cases inner with
    | arr items =>
      rw [List.isEmpty_iff.mp hleaf]
      rfl
    | obj fields =>
      rw [List.isEmpty_iff.mp hleaf, rewriteTimeFieldNodes, rewriteFields, renameTimeFields_nil]
    | _ => rfl
  rw [get?_rewritten, Option.map_eq_some_iff]
  constructor
  · rintro ⟨⟨inner, hstanding, rfl⟩, hleaf⟩
    rw [isLeaf_namedAt, isLeaf_rewritten] at hleaf
    exact ⟨inner, hstanding, hleaf, by rw [hsame inner hleaf]⟩
  · rintro ⟨inner, hstanding, hleaf, rfl⟩
    exact ⟨⟨inner, hstanding, by rw [hsame inner hleaf]⟩, by rw [isLeaf_namedAt, hleaf]⟩

theorem exists_reads (start : List Step) (clause : Json) :
    ∃ inside leaf, Reads timeField start clause inside leaf := by
  obtain ⟨before, inner, hget, hleaf⟩ := exists_leaf clause
  exact ⟨_, _, before, inner, hget, hleaf, rfl, rfl⟩

end Rhythm.Elf
