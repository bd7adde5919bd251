import Rhythm.Sql
import Rhythm.Unmarshal

/-!
# Rhythm.Alerts.Investigation

The rows that are queued with a new alert: `investigation.Enqueue` reads the checks of the
published definition and inserts a pending row for each, ignoring the errors of the
transaction that it is part of.

A definition that was stored has no NUL character, so none of these rows is refused
(`accepted_enqueue`).
-/

namespace Rhythm.Alerts.Investigation

open Text Unmarshal Sql

/-! ## Texts of a stored definition -/

/-- `%v` of a `float64`. -/
structure FloatFormat where
  format : Rat → String
  nulFree : ∀ n, NulFree (format n)

section NulFree

variable {s t : String}

theorem nulFree_trimSpace (h : NulFree s) : NulFree (trimSpace s) := by
  intro hmem
  rw [trimSpace, String.toList_ofList] at hmem
  exact h ((List.dropWhile_sublist _).subset ((List.rdropWhile_prefix _ _).subset hmem))

theorem nulFree_join {separator : Char} (hseparator : separator ≠ Char.ofNat 0) :
    ∀ {parts : List String}, (∀ part ∈ parts, NulFree part) → NulFree (join separator parts)
  | [], _ => by simp [join, NulFree]
  | [part], h => h part List.mem_cons_self
  | part :: next :: rest, h => by
    rw [join, nulFree_append, nulFree_append]
    refine ⟨⟨h part List.mem_cons_self, ?_⟩, ?_⟩
    · simpa [NulFree] using hseparator.symm
    · exact nulFree_join hseparator fun other hother => h other (List.mem_cons_of_mem _ hother)

theorem nulFree_sprint (floats : FloatFormat) (v : Json) (h : v.NulFree) :
    NulFree (sprint floats.format v) := by
  induction v using Json.induction with
  | leaf v harr hobj =>
    cases v with
    | null =>
      rw [sprint]
      decide
    | bool b => cases b <;> rw [sprint] <;> decide
    | num n => exact floats.nulFree n
    | str s => simpa [sprint] using h
    | arr items => exact absurd rfl (harr items)
    | obj fields => exact absurd rfl (hobj fields)
  | arr items ih =>
    rw [Json.nulFree_arr] at h
    have hitems : ∀ {items : List Json}, (∀ v ∈ items, NulFree (sprint floats.format v)) →
        ∀ s ∈ sprintItems floats.format items, NulFree s := by
      intro items
      induction items with
      | nil => simp [sprintItems]
      | cons v items ihItems =>
        intro hall
        rw [sprintItems, List.forall_mem_cons]
        rw [List.forall_mem_cons] at hall
        exact ⟨hall.1, ihItems hall.2⟩
    rw [sprint, nulFree_append, nulFree_append]
    refine ⟨⟨by decide, nulFree_join (by decide) (hitems fun v hv => ih v hv (h v hv))⟩, by decide⟩
  | obj fields ih =>
    rw [Json.nulFree_obj] at h
    have hfields : ∀ {fields : List (String × Json)},
        (∀ field ∈ fields, NulFree field.1 ∧ NulFree (sprint floats.format field.2)) →
        ∀ field ∈ sprintFields floats.format fields, NulFree field.1 ∧ NulFree field.2 := by
      intro fields
      induction fields with
      | nil => simp [sprintFields]
      | cons field fields ihFields =>
        intro hall
        rw [sprintFields, List.forall_mem_cons]
        rw [List.forall_mem_cons] at hall
        exact ⟨hall.1, ihFields hall.2⟩
    have hall := hfields fun field hfield =>
      ⟨(h field hfield).1, ih field hfield (h field hfield).2⟩
    rw [sprint, nulFree_append, nulFree_append]
    refine ⟨⟨by decide, nulFree_join (by decide) fun part hpart => ?_⟩, by decide⟩
    obtain ⟨field, hfield, rfl⟩ := List.mem_map.mp hpart
    obtain ⟨hkey, hvalue⟩ := hall field ((List.mem_insertionSort _).mp hfield)
    rw [nulFree_append, nulFree_append]
    exact ⟨⟨hkey, by decide⟩, hvalue⟩

theorem nulFree_member {fields : List (String × Json)} (h : (Json.obj fields).NulFree)
    (key : String) : (member fields key).NulFree := by
  rw [member]
  cases hlookup : fields.lookup key with
  | none => exact Json.nulFree_null
  | some v =>
    obtain ⟨before, after, rfl, -⟩ := List.lookup_eq_some_iff.mp hlookup
    exact ((Json.nulFree_obj.mp h) (key, v) (by simp)).2

end NulFree

/-! ## Checks -/

/-- A check of the playbook; whether it blocks decides nothing here. -/
structure Check where
  id : String
  kind : String
  label : String
  queryID : String
  applicationID : String
  environmentBindingID : String
  serviceIDs : List String

def kindELFQuery : String := "ELF_QUERY"

def kindDynatrace : String := "DYNATRACE"

def maxPlaybookLen : Nat := 20

/-- `first`: the first member that is there and not `nil`. -/
def first (fields : List (String × Json)) (keys : List String) : Json :=
  ((keys.map (member fields)).find? fun v => v ≠ .null).getD .null

/-- `asString`. -/
def asString (floats : FloatFormat) : Json → String
  | .str value => value
  | .null => ""
  | v => trimSpace (sprint floats.format v)

/-- `strings.TrimSpace(asString(first(value, keys...)))`. -/
def textOf (floats : FloatFormat) (fields : List (String × Json)) (keys : List String) : String :=
  trimSpace (asString floats (first fields keys))

/-- `stringSlice`. -/
def stringSlice (floats : FloatFormat) : Json → List String
  | .arr items =>
    (items.map fun item => trimSpace (asString floats item)).filter fun text => text ≠ ""
  | _ => []

/-- `normalizeCheck`, of texts that are trimmed already; `generated` stands for an identifier that
is missing. -/
def normalizeCheck (generated : String) (check : Check) : Option Check :=
  let kind := toUpper check.kind
  if kind ≠ kindELFQuery ∧ kind ≠ kindDynatrace then none
  else
    some
      { check with
        kind := kind
        id := if check.id = "" then generated else check.id
        label :=
          if check.label ≠ "" then check.label
          else if kind = kindELFQuery then "ELF query" else "Dynatrace" }

/-- `parseCheck`; no value but an object has a kind. -/
def parseCheck (floats : FloatFormat) (generated : String) : Json → Option Check
  | .obj value =>
    normalizeCheck generated
      { id := textOf floats value ["id"]
        kind := textOf floats value ["kind"]
        label := textOf floats value ["label"]
        queryID := textOf floats value ["queryId", "query_id"]
        applicationID := textOf floats value ["applicationId", "application_id"]
        environmentBindingID :=
          textOf floats value ["environmentBindingId", "environment_binding_id"]
        serviceIDs := stringSlice floats (first value ["serviceIds", "service_ids"]) }
  | _ => none

/-- The loop of `ParseChecks`, over the items that are left, with as many generated identifiers. -/
def parseItems (floats : FloatFormat) : List (Json × String) → List Check → List Check
  | [], checks => checks
  | (item, generated) :: items, checks =>
    if maxPlaybookLen ≤ checks.length then checks
    else
      match parseCheck floats generated item with
      | none => parseItems floats items checks
      | some check =>
        if check.id ∈ checks.map Check.id then parseItems floats items checks
        else parseItems floats items (checks ++ [check])

/-- `ParseChecks`. -/
def parseChecks (floats : FloatFormat) (generated : List String)
    (definition : List (String × Json)) : List Check :=
  let raw :=
    if (definition.lookup "investigationChecks").isSome then member definition "investigationChecks"
    else member definition "investigation_checks"
  parseItems floats ((raw.items?.getD []).zip generated) []

/-! ## Pending rows -/

/-- `insertPending`, of a row of `pendingFromPlaybook`. -/
def insertPending (applicationID : String) (check : Check) : Statement where
  columns :=
    [text check.id, text check.kind, text check.label, nullIfEmpty (text check.queryID),
      nullIfEmpty
        (text (if check.applicationID = "" then applicationID else check.applicationID)),
      nullIfEmpty (text check.environmentBindingID),
      jsonb (.arr (check.serviceIDs.map .str)), text "PENDING", text "", jsonb (.obj [])]
  constraint := check.kind = kindELFQuery ∨ check.kind = kindDynatrace

/-- **`investigation.enqueue`**, for the published definition and the application that is linked to
the monitor; the statements are two queries and the inserts. -/
def enqueue (floats : FloatFormat) (generated : List String)
    (definition : Option (List (String × Json))) (applicationID : String) : List Call :=
  .ignored .plain ::
    match definition with
    | none => []
    | some definition =>
      match parseChecks floats generated definition with
      | [] => []
      | checks =>
        .ignored .plain ::
          checks.map fun check => .ignored (insertPending (trimSpace applicationID) check)

/-! ## No row is refused -/

/-- The texts of the check have no NUL character, and its kind is one of the two. -/
structure Check.Sound (check : Check) : Prop where
  id : NulFree check.id
  kind : check.kind = kindELFQuery ∨ check.kind = kindDynatrace
  label : NulFree check.label
  queryID : NulFree check.queryID
  applicationID : NulFree check.applicationID
  environmentBindingID : NulFree check.environmentBindingID
  serviceIDs : ∀ serviceID ∈ check.serviceIDs, NulFree serviceID

section Sound

variable {floats : FloatFormat} {fields : List (String × Json)} {generated : String}

theorem nulFree_first (h : (Json.obj fields).NulFree) (keys : List String) :
    (first fields keys).NulFree := by
  rw [first]
  cases hfind : (keys.map (member fields)).find? fun v => v ≠ .null with
  | none => exact Json.nulFree_null
  | some v =>
    obtain ⟨key, -, rfl⟩ := List.mem_map.mp (List.mem_of_find?_eq_some hfind)
    exact nulFree_member h key

theorem nulFree_asString {v : Json} (h : v.NulFree) : NulFree (asString floats v) := by
  unfold asString
  split
  · exact Json.nulFree_str.mp h
  · decide
  · exact nulFree_trimSpace (nulFree_sprint floats _ h)

theorem nulFree_textOf (h : (Json.obj fields).NulFree) (keys : List String) :
    NulFree (textOf floats fields keys) :=
  nulFree_trimSpace (nulFree_asString (nulFree_first h keys))

theorem nulFree_stringSlice {v : Json} (h : v.NulFree) :
    ∀ text ∈ stringSlice floats v, NulFree text := by
  unfold stringSlice
  split
  · intro text htext
    obtain ⟨item, hitem, rfl⟩ := List.mem_map.mp (List.mem_of_mem_filter htext)
    exact nulFree_trimSpace (nulFree_asString (Json.nulFree_arr.mp h item hitem))
  · exact List.forall_mem_nil _

theorem sound_parseCheck {item : Json} {check : Check} (hitem : item.NulFree)
    (hgenerated : NulFree generated) (h : parseCheck floats generated item = some check) :
    check.Sound := by
  unfold parseCheck at h
  split at h
  · rw [normalizeCheck] at h
    dsimp only at h
    split at h
    · contradiction
    · rename_i hkind
      rw [Option.some.injEq] at h
      subst h
      constructor
      · dsimp only
        split
        · exact hgenerated
        · exact nulFree_textOf hitem _
      · dsimp only
        rw [not_and_or, not_not, not_not] at hkind
        exact hkind
      · dsimp only
        split
        · exact nulFree_textOf hitem _
        · split <;> decide
      · exact nulFree_textOf hitem _
      · exact nulFree_textOf hitem _
      · exact nulFree_textOf hitem _
      · exact nulFree_stringSlice (nulFree_first hitem _)
  · contradiction

theorem sound_parseItems {items : List (Json × String)} {checks : List Check}
    (hitems : ∀ item ∈ items, item.1.NulFree ∧ NulFree item.2)
    (hchecks : ∀ check ∈ checks, check.Sound) :
    ∀ check ∈ parseItems floats items checks, check.Sound := by
  induction items generalizing checks with
  | nil => exact hchecks
  | cons item items ih =>
    obtain ⟨item, generated⟩ := item
    rw [List.forall_mem_cons] at hitems
    rw [parseItems]
    split
    · exact hchecks
    · grind [sound_parseCheck]

theorem sound_parseChecks {generated : List String} (hgenerated : ∀ id ∈ generated, NulFree id)
    (h : (Json.obj fields).NulFree) :
    ∀ check ∈ parseChecks floats generated fields, check.Sound := by
  rw [parseChecks]
  refine sound_parseItems (fun item hitem => ?_) (List.forall_mem_nil _)
  have hraw : ∀ v : Json, v.NulFree → ∀ w ∈ v.items?.getD [], w.NulFree := by
    intro v hv w hw
    cases v with
    | arr items => exact Json.nulFree_arr.mp hv w hw
    | _ => contradiction
  refine ⟨?_, hgenerated item.2 (List.of_mem_zip hitem).2⟩
  refine hraw _ ?_ item.1 (List.of_mem_zip hitem).1
  split <;> exact nulFree_member h _

theorem takes_nullIfEmpty {column : Column} (h : column.type.Takes column.value) :
    (nullIfEmpty column).type.Takes (nullIfEmpty column).value := by
  unfold nullIfEmpty
  split
  · cases column.type <;> trivial
  · exact h

theorem accepted_insertPending {applicationID : String} {check : Check} (hcheck : check.Sound)
    (happlication : NulFree applicationID) : (insertPending applicationID check).Accepted := by
  refine ⟨decide_eq_true hcheck.kind, ?_⟩
  have hkind : NulFree check.kind := by
    obtain hkind | hkind := hcheck.kind
    · rw [hkind]
      decide
    · rw [hkind]
      decide
  have hservices : (Json.arr (check.serviceIDs.map .str)).NulFree := by
    rw [Json.nulFree_arr]
    intro v hv
    obtain ⟨serviceID, hserviceID, rfl⟩ := List.mem_map.mp hv
    exact Json.nulFree_str.mpr (hcheck.serviceIDs serviceID hserviceID)
  have happ : NulFree (if check.applicationID = "" then applicationID
      else check.applicationID) := by
    split
    · exact happlication
    · exact hcheck.applicationID
  have hempty : (Json.obj []).NulFree := by simp
  simp only [insertPending, List.forall_mem_cons]
  exact ⟨hcheck.id, hkind, hcheck.label, takes_nullIfEmpty hcheck.queryID, takes_nullIfEmpty happ,
    takes_nullIfEmpty hcheck.environmentBindingID, hservices, (by decide : NulFree "PENDING"),
    (by decide : NulFree ""), hempty, List.forall_mem_nil _⟩

/-- **The ignored errors never happen.** -/
theorem accepted_enqueue {generated : List String} {definition : Option (List (String × Json))}
    {applicationID : String} (hgenerated : ∀ id ∈ generated, NulFree id)
    (hdefinition : ∀ fields ∈ definition, (Json.obj fields).NulFree)
    (happlication : NulFree applicationID) :
    ∀ call ∈ enqueue floats generated definition applicationID, call.statement.Accepted := by
  have hplain : Statement.plain.Accepted := ⟨rfl, List.forall_mem_nil _⟩
  unfold enqueue
  rw [List.forall_mem_cons]
  refine ⟨hplain, ?_⟩
  cases definition with
  | none => exact List.forall_mem_nil _
  | some definition =>
    have hsound : ∀ check ∈ parseChecks floats generated definition, check.Sound :=
      sound_parseChecks hgenerated (hdefinition definition rfl)
    dsimp only
    split
    · exact List.forall_mem_nil _
    · rw [List.forall_mem_cons]
      refine ⟨hplain, fun call hcall => ?_⟩
      obtain ⟨check, hcheck, rfl⟩ := List.mem_map.mp hcall
      exact accepted_insertPending (hsound check hcheck) (nulFree_trimSpace happlication)

end Sound

end Rhythm.Alerts.Investigation
