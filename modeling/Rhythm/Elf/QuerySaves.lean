import Rhythm.Elf.Run
import Rhythm.Table
import Rhythm.Transition

/-!
# Rhythm.Elf.QuerySaves

`SaveQuery`, statement by statement: the calls run without a transaction, so every
statement takes effect by itself, others may come in between, and one that fails ends the
call where it stands.

A call carries whether it has changed the name, the activity, the scope or the current
revision of its query.  The fresh UUIDs and the failures of the connection are inputs of
the steps; who saved, and when, is left out.
-/

namespace Rhythm.Elf

open Text

/-! ## Rows -/

/-- The columns of `elf_queries` that the first statement writes. -/
structure QueryMetadata where
  name : String
  description : String
  applicationID : String
  serviceID : String
  indexOverride : String
  active : Bool
  deriving DecidableEq

/-- The columns of a revision that are the author's. -/
structure QuerySettings where
  searchBody : ByteArray
  defaultWindowSeconds : Int
  checkKind : String
  criteria : List (String × Json)
  gateMode : String
  semanticMapping : Option (List (String × String))

/-- A row of `elf_queries`. -/
structure QueryRow where
  id : String
  metadata : QueryMetadata
  currentRevisionID : Option String
  deriving DecidableEq

/-- A row of `elf_query_revisions`. -/
structure RevisionRow where
  id : String
  queryID : String
  revisionNumber : Nat
  settings : QuerySettings

/-! ## Inputs -/

/-- `QueryInput`. -/
structure QueryInput where
  name : String
  description : String
  applicationID : String
  serviceID : String
  indexOverride : String
  active : Option Bool
  searchBody : ByteArray
  defaultWindowSeconds : Int
  criteria : List (String × Json)
  gateMode : String
  semanticMapping : Option (List (String × String))

/-- The library of the service, and `json.Unmarshal` of a search body into `any`, the members of
its objects in the order of their keys. -/
structure SaveLibrary extends Library where
  decode : ByteArray → Option Json

/-- `jsonEquivalent`. -/
def jsonEquivalent (lib : SaveLibrary) (left right : ByteArray) : Bool :=
  match lib.decode left, lib.decode right with
  | some a, some b => a = b
  | _, _ => false

/-- What `SaveQuery` makes of its input before the first statement. -/
def prepareQuery (lib : SaveLibrary) (input : QueryInput) :
    Except String (QueryMetadata × QuerySettings) := do
  let name := trimSpace input.name
  if name = "" ∨ input.applicationID = "" then
    .error "name and applicationId are required"
  let criteria ← saveCriteria lib.toLibrary input.criteria
  let gateMode := toUpper (defaultString input.gateMode "BLOCKING")
  if gateMode ≠ "BLOCKING" ∧ gateMode ≠ "ADVISORY" then
    .error "gateMode must be BLOCKING or ADVISORY"
  let searchBody :=
    if input.searchBody.size = 0 then "\x7b\"query\":\x7b\"match_all\":\x7b\x7d\x7d\x7d".toUTF8
    else input.searchBody
  -- neither the window nor the time field decides whether a body is valid
  match (compileSearch lib.unmarshal searchBody "@timestamp" "" "" 10).problems with
  | problem :: _ => .error ("search body violates ELF policy: " ++ problem.message)
  | [] =>
    .ok (
      { name := name
        description := trimSpace input.description
        applicationID := input.applicationID
        serviceID := input.serviceID
        indexOverride := trimSpace input.indexOverride
        active := input.active.getD true },
      { searchBody := searchBody
        defaultWindowSeconds :=
          if input.defaultWindowSeconds = 0 then 900 else input.defaultWindowSeconds
        checkKind := "HIT_COUNT"
        criteria := criteria
        gateMode := gateMode
        semanticMapping := input.semanticMapping })

/-! ## Calls -/

/-- The statement that a call runs next. -/
inductive SaveStage where
  /-- `GetQuery`, for a query that is there. -/
  | loading
  /-- `INSERT INTO elf_queries` or `UPDATE elf_queries`. -/
  | writing
  /-- `SELECT MAX(revision_number)`. -/
  | numbering
  /-- `INSERT INTO elf_query_revisions`, with this number. -/
  | inserting (revisionNumber : Nat)
  /-- `UPDATE elf_queries SET current_revision_id`, to this revision. -/
  | selecting (revisionID : String)
  /-- The last `GetQuery`. -/
  | answering
  | returned (result : Except String Unit)

/-- A call of `SaveQuery`. -/
structure SaveCall where
  id : Nat
  queryID : String
  creates : Bool
  metadata : QueryMetadata
  settings : QuerySettings
  stage : SaveStage
  /-- It has changed the name, the activity, the scope or the current revision. -/
  changed : Bool

structure SaveState where
  queries : Table QueryRow QueryRow.id
  revisions : Table RevisionRow RevisionRow.id
  calls : Table SaveCall SaveCall.id

def SaveState.initial : SaveState := ⟨.empty, .empty, .empty⟩

def SaveState.move (s : SaveState) (callID : Nat) (stage : SaveStage) (changed : Bool) :
    SaveState :=
  { s with
    calls := s.calls.update (fun call => call.id = callID)
      (fun call => { call with stage := stage, changed := changed }) ⟨fun _ => rfl⟩ }

/-! ## Statements -/

/-- `GetQuery`: the row joined with its current revision. -/
def getQuery (s : SaveState) (queryID : String) : Option (QueryRow × RevisionRow) := do
  let row ← s.queries.get? queryID
  let revisionID ← row.currentRevisionID
  let revision ← s.revisions.get? revisionID
  return (row, revision)

def unchanged (lib : SaveLibrary) (row : QueryRow) (revision : RevisionRow) (call : SaveCall) :
    Bool :=
  row.metadata = call.metadata &&
    revision.settings.defaultWindowSeconds = call.settings.defaultWindowSeconds &&
    revision.settings.checkKind = call.settings.checkKind &&
    revision.settings.gateMode = call.settings.gateMode &&
    jsonEquivalent lib revision.settings.searchBody call.settings.searchBody &&
    revision.settings.criteria = call.settings.criteria &&
    -- a mapping that is not there is stored as `null` and read as an empty one
    some (revision.settings.semanticMapping.getD []) = call.settings.semanticMapping

/-- `SELECT COALESCE(MAX(revision_number),0)+1`. -/
def nextRevisionNumber (s : SaveState) (queryID : String) : Nat :=
  ((s.revisions.rows.filter fun revision => revision.queryID = queryID).map
    RevisionRow.revisionNumber).foldl max 0 + 1

/-- The `CHECK` of the window. -/
def windowAllowed (settings : QuerySettings) : Bool :=
  60 ≤ settings.defaultWindowSeconds && settings.defaultWindowSeconds ≤ 2592000

/-- The `UNIQUE` of the revision numbers of a query. -/
def numberTaken (s : SaveState) (queryID : String) (revisionNumber : Nat) : Bool :=
  s.revisions.any fun revision =>
    revision.queryID = queryID ∧ revision.revisionNumber = revisionNumber

/-- The two agree on the name, the activity and the scope. -/
def sameScope (metadata metadata' : QueryMetadata) : Bool :=
  { metadata with description := "" } = { metadata' with description := "" }

/-- The next statement of a call, when the connection holds. -/
def runStatement (lib : SaveLibrary) (s : SaveState) (call : SaveCall) (freshID : String) :
    Except String SaveState :=
  match call.stage with
  | .loading =>
    match getQuery s call.queryID with
    | none => .error "ELF resource not found"
    | some (row, revision) =>
      if unchanged lib row revision call then .ok (s.move call.id (.returned (.ok ())) false)
      else .ok (s.move call.id .writing false)
  | .writing =>
    if call.creates then
      match s.queries.insert ⟨call.queryID, call.metadata, none⟩ with
      | none => .error "duplicate key value violates unique constraint"
      | some queries => .ok ({ s with queries }.move call.id .numbering true)
    else
      let queries := s.queries.update (fun row => row.id = call.queryID)
        (fun row => { row with metadata := call.metadata }) ⟨fun _ => rfl⟩
      let changed := s.queries.any fun row =>
        row.id = call.queryID ∧ sameScope row.metadata call.metadata = false
      .ok ({ s with queries }.move call.id .numbering changed)
  | .numbering =>
    .ok (s.move call.id (.inserting (nextRevisionNumber s call.queryID)) call.changed)
  | .inserting revisionNumber =>
    if windowAllowed call.settings = false then .error "new row violates check constraint"
    else if numberTaken s call.queryID revisionNumber then
      .error "duplicate key value violates unique constraint"
    else
      match s.revisions.insert ⟨freshID, call.queryID, revisionNumber, call.settings⟩ with
      | none => .error "duplicate key value violates unique constraint"
      | some revisions => .ok ({ s with revisions }.move call.id (.selecting freshID) call.changed)
  | .selecting revisionID =>
    let queries := s.queries.update (fun row => row.id = call.queryID)
      (fun row => { row with currentRevisionID := some revisionID }) ⟨fun _ => rfl⟩
    .ok ({ s with queries }.move call.id .answering true)
  | .answering =>
    match getQuery s call.queryID with
    | none => .error "ELF resource not found"
    | some _ => .ok (s.move call.id (.returned (.ok ())) call.changed)
  | .returned result => .ok (s.move call.id (.returned result) call.changed)

inductive SaveAction where
  /-- `SaveQuery` is called; `freshID` is the UUID of a new query. -/
  | call (callID : Nat) (queryID freshID : String) (input : QueryInput)
  /-- The next statement of a call; `freshID` is the UUID of a new revision. -/
  | statement (callID : Nat) (fails : Bool) (freshID : String)

def SaveState.fresh (s : SaveState) (freshID : String) : Bool :=
  freshID ≠ "" && !(s.queries.any fun row => row.id = freshID) &&
    !(s.revisions.any fun revision => revision.id = freshID) &&
    !(s.calls.any fun call => call.queryID = freshID)

def beginSave (lib : SaveLibrary) (callID : Nat) (queryID freshID : String) (input : QueryInput) :
    SaveCall :=
  let target := if queryID = "" then freshID else queryID
  match prepareQuery lib input with
  | .error message =>
    ⟨callID, target, decide (queryID = ""), ⟨"", "", "", "", "", true⟩,
      ⟨.empty, 0, "", [], "", none⟩, .returned (.error message), false⟩
  | .ok (metadata, settings) =>
    ⟨callID, target, decide (queryID = ""), metadata, settings,
      if queryID = "" then .writing else .loading, false⟩

/-- **One step of the calls.** -/
def saveStep (lib : SaveLibrary) (s : SaveState) : SaveAction → Option SaveState
  | .call callID queryID freshID input =>
    if s.fresh freshID then
      (s.calls.insert (beginSave lib callID queryID freshID input)).map fun calls =>
        { s with calls }
    else none
  | .statement callID fails freshID =>
    match s.calls.get? callID with
    | none => none
    | some call =>
      match call.stage with
      | .returned _ => none
      | _ =>
        if s.fresh freshID then
          if fails then some (s.move callID (.returned (.error "connection error")) call.changed)
          else
            match runStatement lib s call freshID with
            | .error message => some (s.move callID (.returned (.error message)) call.changed)
            | .ok s' => some s'
        else none

/-! ## Atomic saves -/

def SaveState.Quiet (s : SaveState) (queryID : String) : Prop :=
  ∀ call ∈ s.calls, call.queryID = queryID → ∃ result, call.stage = .returned result

/-- The current revision is the one with the highest number. -/
def SaveState.CurrentIsHighest (s : SaveState) (row : QueryRow) : Prop :=
  ∃ revision ∈ s.revisions, row.currentRevisionID = some revision.id ∧
    revision.queryID = row.id ∧
    ∀ other ∈ s.revisions, other.queryID = row.id →
      other.revisionNumber ≤ revision.revisionNumber

/-- A call that has returned an error has changed nothing; and a query on which no call is in
progress has a current revision, the one with the highest number. -/
structure SavesAtomically (s : SaveState) : Prop where
  errors : ∀ call ∈ s.calls, ∀ message, call.stage = .returned (.error message) →
    call.changed = false
  current : ∀ row ∈ s.queries, s.Quiet row.id → s.CurrentIsHighest row

def SaveCall.wrote (call : SaveCall) : Bool :=
  match call.stage with
  | .selecting _ | .answering => true
  | _ => call.changed

/-- The statement goes well, unless its call has written nothing so far; and a revision is not made
current over one with a higher number. -/
def Undisturbed (s : SaveState) (call : SaveCall) (fails : Bool) : Prop :=
  (fails = true → call.wrote = false) ∧
    match call.stage with
    | .inserting revisionNumber => call.changed = true →
      windowAllowed call.settings = true ∧ numberTaken s call.queryID revisionNumber = false
    | .selecting revisionID => ∀ revision ∈ s.revisions, revision.id = revisionID →
      ∀ row ∈ s.queries, row.id = call.queryID → ∀ current ∈ s.revisions,
        row.currentRevisionID = some current.id →
          current.revisionNumber ≤ revision.revisionNumber
    | _ => True

instance (s : SaveState) (call : SaveCall) (fails : Bool) :
    Decidable (Undisturbed s call fails) := by
  unfold Undisturbed
  cases call.stage <;> infer_instance

def Undisturbing (s : SaveState) : SaveAction → SaveState → Prop
  | .statement callID fails _, _ => ∀ call ∈ s.calls.get? callID, Undisturbed s call fails
  | .call .., _ => True

instance (s : SaveState) (a : SaveAction) (s' : SaveState) : Decidable (Undisturbing s a s') :=
  match a with
  | .statement callID fails _ =>
    inferInstanceAs (Decidable (∀ call ∈ s.calls.get? callID, Undisturbed s call fails))
  | .call .. => isTrue trivial

/-- A call that will set the current revision of a query that has none. -/
def SaveCall.completes (call : SaveCall) : Prop :=
  call.changed = true ∧
    (call.stage = .numbering ∨ (∃ n, call.stage = .inserting n) ∨ ∃ id, call.stage = .selecting id)

def SaveCall.found (call : SaveCall) : Prop :=
  call.stage = .writing ∧ call.creates = false ∨ call.stage = .numbering ∨
    (∃ n, call.stage = .inserting n) ∨ ∃ id, call.stage = .selecting id

/-- What undisturbed saves keep. -/
structure SavesInvariant (s : SaveState) : Prop where
  errors : ∀ call ∈ s.calls, ∀ message, call.stage = .returned (.error message) →
    call.changed = false
  early : ∀ call ∈ s.calls, call.stage = .loading ∨ call.stage = .writing → call.changed = false
  owned : ∀ row ∈ s.queries, ∀ revisionID, row.currentRevisionID = some revisionID →
    ∃ revision ∈ s.revisions, revision.id = revisionID ∧ revision.queryID = row.id
  stored : ∀ call ∈ s.calls, ∀ revisionID, call.stage = .selecting revisionID →
    ∃ revision ∈ s.revisions, revision.id = revisionID ∧ revision.queryID = call.queryID
  pending : ∀ row ∈ s.queries, row.currentRevisionID = none →
    ∃ call ∈ s.calls, call.queryID = row.id ∧ call.completes
  answered : ∀ call ∈ s.calls, call.stage = .answering →
    ∃ row ∈ s.queries, row.id = call.queryID ∧ row.currentRevisionID ≠ none
  numbered : ∀ revision ∈ s.revisions,
    (∃ call ∈ s.calls, call.queryID = revision.queryID ∧ call.stage = .selecting revision.id) ∨
      ∀ row ∈ s.queries, row.id = revision.queryID → ∃ current ∈ s.revisions,
        row.currentRevisionID = some current.id ∧
          revision.revisionNumber ≤ current.revisionNumber
  present : ∀ call ∈ s.calls, call.found → ∃ row ∈ s.queries, row.id = call.queryID
  rooted : ∀ revision ∈ s.revisions, ∃ row ∈ s.queries, row.id = revision.queryID

theorem SavesInvariant.atomically {s : SaveState} (h : SavesInvariant s) : SavesAtomically s where
  errors := h.errors
  current row hrow hquiet := by
    cases hcurrent : row.currentRevisionID with
    | none =>
      obtain ⟨call, hcall, hquery, -, hstage⟩ := h.pending row hrow hcurrent
      obtain ⟨result, hresult⟩ := hquiet call hcall hquery
      rw [hresult] at hstage
      obtain hstage | ⟨_, hstage⟩ | ⟨_, hstage⟩ := hstage <;> cases hstage
    | some revisionID =>
      obtain ⟨revision, hrevision, rfl, howner⟩ := h.owned row hrow revisionID hcurrent
      refine ⟨revision, hrevision, hcurrent, howner, fun other hother hquery => ?_⟩
      obtain ⟨call, hcall, hcallQuery, hstage⟩ | hsettled := h.numbered other hother
      · obtain ⟨result, hresult⟩ := hquiet call hcall (hcallQuery.trans hquery)
        rw [hresult] at hstage
        cases hstage
      · grind [Table.eq_of_key_eq, Option.some.inj]

theorem savesInvariant_initial : SavesInvariant .initial where
  errors _ h := absurd h (Table.not_mem_empty _)
  early _ h := absurd h (Table.not_mem_empty _)
  owned _ h := absurd h (Table.not_mem_empty _)
  stored _ h := absurd h (Table.not_mem_empty _)
  pending _ h := absurd h (Table.not_mem_empty _)
  answered _ h := absurd h (Table.not_mem_empty _)
  numbered _ h := absurd h (Table.not_mem_empty _)
  present _ h := absurd h (Table.not_mem_empty _)
  rooted _ h := absurd h (Table.not_mem_empty _)

/-! ## What a statement leaves -/

section

variable {lib : SaveLibrary} {s s' : SaveState} {call : SaveCall} {callID : Nat}
  {stage : SaveStage} {changed fails : Bool} {freshID : String}

theorem mem_move {other : SaveCall} (hget : s.calls.get? callID = some call) :
    other ∈ (s.move callID stage changed).calls ↔
      other = { call with stage := stage, changed := changed } ∨
        other ∈ s.calls ∧ other.id ≠ callID :=
  Table.mem_update_key
    (f := fun call => { call with stage := stage, changed := changed }) ⟨fun _ => rfl⟩ hget

theorem SavesInvariant.move (h : SavesInvariant s) (hget : s.calls.get? callID = some call)
    (herrors : ∀ message, stage = .returned (.error message) → changed = false)
    (hearly : stage = .loading ∨ stage = .writing → changed = false)
    (hselecting : ∀ revisionID, stage ≠ .selecting revisionID)
    (hleft : ∀ revision ∈ s.revisions, call.stage = .selecting revision.id →
      ∀ row ∈ s.queries, row.id = revision.queryID → ∃ current ∈ s.revisions,
        row.currentRevisionID = some current.id ∧
          revision.revisionNumber ≤ current.revisionNumber)
    (hanswering : stage = .answering →
      ∃ row ∈ s.queries, row.id = call.queryID ∧ row.currentRevisionID ≠ none)
    (hcompletes : call.completes → (∃ row ∈ s.queries, row.id = call.queryID ∧
      row.currentRevisionID = none) → ({ call with stage, changed } : SaveCall).completes)
    (hfound : ({ call with stage, changed } : SaveCall).found →
      ∃ row ∈ s.queries, row.id = call.queryID) :
    SavesInvariant (s.move callID stage changed) where
  errors other hother message hstage := by
    obtain rfl | ⟨hmem, -⟩ := (mem_move hget).mp hother
    · exact herrors message hstage
    · exact h.errors other hmem message hstage
  early other hother hstage := by
    obtain rfl | ⟨hmem, -⟩ := (mem_move hget).mp hother
    · exact hearly hstage
    · exact h.early other hmem hstage
  owned := h.owned
  stored other hother revisionID hstage := by
    obtain rfl | ⟨hmem, -⟩ := (mem_move hget).mp hother
    · exact absurd hstage (hselecting revisionID)
    · exact h.stored other hmem revisionID hstage
  pending row hrow hnone := by
    obtain ⟨other, hother, hquery, hother'⟩ := h.pending row hrow hnone
    by_cases hid : other.id = callID
    · have heq : other = call := by
        have hsame := Table.get?_of_mem hother
        rw [hid, hget] at hsame
        exact (Option.some.inj hsame).symm
      subst heq
      exact ⟨_, (mem_move hget).mpr (.inl rfl), hquery,
        hcompletes hother' ⟨row, hrow, hquery.symm, hnone⟩⟩
    · exact ⟨other, (mem_move hget).mpr (.inr ⟨hother, hid⟩), hquery, hother'⟩
  answered other hother hstage := by
    obtain rfl | ⟨hmem, -⟩ := (mem_move hget).mp hother
    · exact hanswering hstage
    · exact h.answered other hmem hstage
  numbered revision hrevision := by
    obtain ⟨other, hother, hquery, hstage⟩ | hsettled := h.numbered revision hrevision
    · by_cases hid : other.id = callID
      · have heq : other = call := by
          have hsame := Table.get?_of_mem hother
          rw [hid, hget] at hsame
          exact (Option.some.inj hsame).symm
        subst heq
        exact .inr (hleft revision hrevision hstage)
      · exact .inl ⟨other, (mem_move hget).mpr (.inr ⟨hother, hid⟩), hquery, hstage⟩
    · exact .inr hsettled
  present other hother hother' := by
    obtain rfl | ⟨hmem, -⟩ := (mem_move hget).mp hother
    · exact hfound hother'
    · exact h.present other hmem hother'
  rooted := h.rooted

theorem SavesInvariant.fail (h : SavesInvariant s) (hget : s.calls.get? callID = some call)
    (hwrote : call.wrote = false) (message : String) :
    SavesInvariant (s.move callID (.returned (.error message)) call.changed) := by
  have hchanged : call.changed = false := by
    unfold SaveCall.wrote at hwrote
    split at hwrote
    · cases hwrote
    · cases hwrote
    · exact hwrote
  have hstage : ∀ revisionID, call.stage ≠ .selecting revisionID := by
    intro revisionID hstage
    rw [SaveCall.wrote, hstage] at hwrote
    cases hwrote
  refine h.move hget (fun _ _ => hchanged) (fun _ => hchanged) (by simp)
    (fun revision _ hselecting => absurd hselecting (hstage _)) (by simp) ?_ ?_
  · intro hcompletes
    rw [hcompletes.1] at hchanged
    cases hchanged
  · rintro (⟨hstage, -⟩ | hstage | ⟨_, hstage⟩ | ⟨_, hstage⟩) <;> cases hstage

theorem SavesInvariant.rewrite (h : SavesInvariant s) (queryID : String)
    (metadata : QueryMetadata) :
    SavesInvariant { s with
      queries := s.queries.update (fun row => row.id = queryID)
        (fun row => { row with metadata := metadata }) ⟨fun _ => rfl⟩ } := by
  have hrows : ∀ row ∈ s.queries.update (fun row => row.id = queryID)
      (fun row => { row with metadata := metadata }) ⟨fun _ => rfl⟩,
      ∃ old ∈ s.queries, old.id = row.id ∧ old.currentRevisionID = row.currentRevisionID := by
    intro row hrow
    obtain ⟨old, hold, rfl⟩ := Table.mem_update.mp hrow
    refine ⟨old, hold, ?_⟩
    split <;> exact ⟨rfl, rfl⟩
  have hold : ∀ old ∈ s.queries, ∃ row ∈ s.queries.update (fun row => row.id = queryID)
      (fun row => { row with metadata := metadata }) ⟨fun _ => rfl⟩,
      row.id = old.id ∧ row.currentRevisionID = old.currentRevisionID := by
    intro old hold
    refine ⟨_, Table.mem_update.mpr ⟨old, hold, rfl⟩, ?_⟩
    split <;> exact ⟨rfl, rfl⟩
  refine ⟨h.errors, h.early, ?_, h.stored, ?_, ?_, ?_, ?_, ?_⟩
  · intro row hrow revisionID hcurrent
    obtain ⟨old, hmem, hid, hsame⟩ := hrows row hrow
    rw [← hid]
    exact h.owned old hmem revisionID (hsame.trans hcurrent)
  · intro row hrow hnone
    obtain ⟨old, hmem, hid, hsame⟩ := hrows row hrow
    rw [← hid]
    exact h.pending old hmem (hsame.trans hnone)
  · intro other hother hstage
    obtain ⟨old, hmem, hid, hne⟩ := h.answered other hother hstage
    obtain ⟨row, hrow, hrowID, hsame⟩ := hold old hmem
    exact ⟨row, hrow, hrowID.trans hid, hsame ▸ hne⟩
  · intro revision hrevision
    refine (h.numbered revision hrevision).imp_right fun hsettled row hrow hquery => ?_
    obtain ⟨old, hmem, hid, hsame⟩ := hrows row hrow
    rw [← hsame]
    exact hsettled old hmem (hid.trans hquery)
  · intro other hother hfound
    obtain ⟨old, hmem, hid⟩ := h.present other hother hfound
    obtain ⟨row, hrow, hrowID, -⟩ := hold old hmem
    exact ⟨row, hrow, hrowID.trans hid⟩
  · intro revision hrevision
    obtain ⟨old, hmem, hid⟩ := h.rooted revision hrevision
    obtain ⟨row, hrow, hrowID, -⟩ := hold old hmem
    exact ⟨row, hrow, hrowID.trans hid⟩

theorem eq_of_id_eq {other : SaveCall} (hget : s.calls.get? callID = some call)
    (hother : other ∈ s.calls) (hid : other.id = callID) : other = call := by
  have hsame := Table.get?_of_mem hother
  rw [hid, hget] at hsame
  exact (Option.some.inj hsame).symm

theorem SavesInvariant.create (h : SavesInvariant s) (hget : s.calls.get? callID = some call)
    (hwriting : call.stage = .writing) {queries : Table QueryRow QueryRow.id}
    {metadata : QueryMetadata}
    (hinsert : s.queries.insert ⟨call.queryID, metadata, none⟩ = some queries) :
    SavesInvariant ({ s with queries }.move callID .numbering true) := by
  have hget' : ({ s with queries } : SaveState).calls.get? callID = some call := hget
  have hrows : ∀ row, row ∈ queries ↔ row ∈ s.queries ∨ row = ⟨call.queryID, metadata, none⟩ := by
    intro row
    rw [Table.mem_def, (Table.insert_eq_some_iff.mp hinsert).2, List.mem_append,
      List.mem_singleton, Table.mem_def]
  have hmoved : ∀ {other : SaveCall}, other ∈ s.calls → other.id = callID →
      other.stage = .writing := by
    intro other hother hid
    rw [eq_of_id_eq hget hother hid]
    exact hwriting
  constructor
  case errors =>
    intro other hother message hstage
    obtain rfl | ⟨hmem, -⟩ := (mem_move hget').mp hother
    · cases hstage
    · exact h.errors other hmem message hstage
  case early =>
    intro other hother hstage
    obtain rfl | ⟨hmem, -⟩ := (mem_move hget').mp hother
    · obtain hstage | hstage := hstage <;> cases hstage
    · exact h.early other hmem hstage
  case owned =>
    intro row hrow revisionID hcurrent
    obtain hrow | rfl := (hrows row).mp hrow
    · exact h.owned row hrow revisionID hcurrent
    · cases hcurrent
  case stored =>
    intro other hother revisionID hstage
    obtain rfl | ⟨hmem, -⟩ := (mem_move hget').mp hother
    · cases hstage
    · exact h.stored other hmem revisionID hstage
  case pending =>
    intro row hrow hnone
    obtain hrow | rfl := (hrows row).mp hrow
    · obtain ⟨other, hother, hquery, hcompletes⟩ := h.pending row hrow hnone
      have hid : other.id ≠ callID := by
        intro hid
        obtain ⟨-, hstage⟩ := hcompletes
        rw [hmoved hother hid] at hstage
        obtain hstage | ⟨_, hstage⟩ | ⟨_, hstage⟩ := hstage <;> cases hstage
      exact ⟨other, (mem_move hget').mpr (.inr ⟨hother, hid⟩), hquery, hcompletes⟩
    · exact ⟨_, (mem_move hget').mpr (.inl rfl), rfl, rfl, .inl rfl⟩
  case answered =>
    intro other hother hstage
    obtain rfl | ⟨hmem, -⟩ := (mem_move hget').mp hother
    · cases hstage
    · obtain ⟨row, hrow, hid⟩ := h.answered other hmem hstage
      exact ⟨row, (hrows row).mpr (.inl hrow), hid⟩
  case numbered =>
    intro revision hrevision
    obtain ⟨other, hother, hquery, hstage⟩ | hsettled := h.numbered revision hrevision
    · have hid : other.id ≠ callID := by
        intro hid
        rw [hmoved hother hid] at hstage
        cases hstage
      exact .inl ⟨other, (mem_move hget').mpr (.inr ⟨hother, hid⟩), hquery, hstage⟩
    · -- a query that has just been created has no revision
      refine .inr fun row hrow hquery => ?_
      obtain hrow | rfl := (hrows row).mp hrow
      · exact hsettled row hrow hquery
      · obtain ⟨old, hold, hid⟩ := h.rooted revision hrevision
        have hnew := Table.get?_eq_none_iff.mp (Table.get?_of_insert_eq_none hinsert)
        exact absurd (hid.trans hquery.symm) (hnew old hold)
  case present =>
    intro other hother hfound
    obtain rfl | ⟨hmem, -⟩ := (mem_move hget').mp hother
    · exact ⟨_, (hrows _).mpr (.inr rfl), rfl⟩
    · obtain ⟨row, hrow, hid⟩ := h.present other hmem hfound
      exact ⟨row, (hrows row).mpr (.inl hrow), hid⟩

  case rooted =>
    intro revision hrevision
    obtain ⟨row, hrow, hid⟩ := h.rooted revision hrevision
    exact ⟨row, (hrows row).mpr (.inl hrow), hid⟩

theorem SavesInvariant.store (h : SavesInvariant s) (hget : s.calls.get? callID = some call)
    {revisionNumber : Nat} (hstage : call.stage = .inserting revisionNumber)
    {revisions : Table RevisionRow RevisionRow.id} {settings : QuerySettings}
    (hinsert : s.revisions.insert ⟨freshID, call.queryID, revisionNumber, settings⟩ =
      some revisions) :
    SavesInvariant ({ s with revisions }.move callID (.selecting freshID) call.changed) := by
  have hget' : ({ s with revisions } : SaveState).calls.get? callID = some call := hget
  have hcall := Table.mem_of_get? hget
  have hstored : ∀ revision, revision ∈ revisions ↔ revision ∈ s.revisions ∨
      revision = ⟨freshID, call.queryID, revisionNumber, settings⟩ := by
    intro revision
    rw [Table.mem_def, (Table.insert_eq_some_iff.mp hinsert).2, List.mem_append,
      List.mem_singleton, Table.mem_def]
  have hmoved : ∀ {other : SaveCall}, other ∈ s.calls → other.id = callID →
      other.stage = .inserting revisionNumber := by
    intro other hother hid
    rw [eq_of_id_eq hget hother hid]
    exact hstage
  constructor
  case errors =>
    intro other hother message hreturned
    obtain rfl | ⟨hmem, -⟩ := (mem_move hget').mp hother
    · cases hreturned
    · exact h.errors other hmem message hreturned
  case early =>
    intro other hother hearly
    obtain rfl | ⟨hmem, -⟩ := (mem_move hget').mp hother
    · obtain hearly | hearly := hearly <;> cases hearly
    · exact h.early other hmem hearly
  case owned =>
    intro row hrow revisionID hcurrent
    obtain ⟨revision, hrevision, hid⟩ := h.owned row hrow revisionID hcurrent
    exact ⟨revision, (hstored revision).mpr (.inl hrevision), hid⟩
  case stored =>
    intro other hother revisionID hselecting
    obtain rfl | ⟨hmem, -⟩ := (mem_move hget').mp hother
    · cases hselecting
      exact ⟨_, (hstored _).mpr (.inr rfl), rfl, rfl⟩
    · obtain ⟨revision, hrevision, hid⟩ := h.stored other hmem revisionID hselecting
      exact ⟨revision, (hstored revision).mpr (.inl hrevision), hid⟩
  case pending =>
    intro row hrow hnone
    obtain ⟨other, hother, hquery, hcompletes⟩ := h.pending row hrow hnone
    by_cases hid : other.id = callID
    · rw [eq_of_id_eq hget hother hid] at hquery hcompletes
      exact ⟨_, (mem_move hget').mpr (.inl rfl), hquery, hcompletes.1, .inr (.inr ⟨_, rfl⟩)⟩
    · exact ⟨other, (mem_move hget').mpr (.inr ⟨hother, hid⟩), hquery, hcompletes⟩
  case answered =>
    intro other hother hanswering
    obtain rfl | ⟨hmem, -⟩ := (mem_move hget').mp hother
    · cases hanswering
    · exact h.answered other hmem hanswering
  case numbered =>
    intro revision hrevision
    obtain hrevision | rfl := (hstored revision).mp hrevision
    · obtain ⟨other, hother, hquery, hselecting⟩ | hsettled := h.numbered revision hrevision
      · have hid : other.id ≠ callID := by
          intro hid
          rw [hmoved hother hid] at hselecting
          cases hselecting
        exact .inl ⟨other, (mem_move hget').mpr (.inr ⟨hother, hid⟩), hquery, hselecting⟩
      · refine .inr fun row hrow hquery => ?_
        obtain ⟨current, hcurrent, hrest⟩ := hsettled row hrow hquery
        exact ⟨current, (hstored current).mpr (.inl hcurrent), hrest⟩
    · exact .inl ⟨_, (mem_move hget').mpr (.inl rfl), rfl, rfl⟩
  case present =>
    intro other hother hfound
    obtain rfl | ⟨hmem, -⟩ := (mem_move hget').mp hother
    · exact h.present call hcall (.inr (.inr (.inl ⟨_, hstage⟩)))
    · exact h.present other hmem hfound
  case rooted =>
    intro revision hrevision
    obtain hrevision | rfl := (hstored revision).mp hrevision
    · exact h.rooted revision hrevision
    · exact h.present call hcall (.inr (.inr (.inl ⟨_, hstage⟩)))

theorem mem_setCurrent {queryID revisionID : String} {row : QueryRow}
    (hrow : row ∈ s.queries.update (fun row => row.id = queryID)
      (fun row => { row with currentRevisionID := some revisionID }) ⟨fun _ => rfl⟩) :
    (row.id = queryID ∧ row.currentRevisionID = some revisionID ∧
      ∃ old ∈ s.queries, old.id = row.id) ∨ row ∈ s.queries ∧ row.id ≠ queryID := by
  obtain ⟨old, hold, rfl⟩ := Table.mem_update.mp hrow
  by_cases hid : old.id = queryID
  · rw [if_pos hid]
    exact .inl ⟨hid, rfl, old, hold, rfl⟩
  · rw [if_neg hid]
    exact .inr ⟨hold, hid⟩

theorem SavesInvariant.select (h : SavesInvariant s) (hget : s.calls.get? callID = some call)
    {revisionID : String} (hstage : call.stage = .selecting revisionID)
    (hnewest : ∀ revision ∈ s.revisions, revision.id = revisionID →
      ∀ row ∈ s.queries, row.id = call.queryID → ∀ current ∈ s.revisions,
        row.currentRevisionID = some current.id →
          current.revisionNumber ≤ revision.revisionNumber) :
    SavesInvariant ({ s with
      queries := s.queries.update (fun row => row.id = call.queryID)
        (fun row => { row with currentRevisionID := some revisionID }) ⟨fun _ => rfl⟩ }.move
          callID .answering true) := by
  have hcall := Table.mem_of_get? hget
  obtain ⟨chosen, hchosen, rfl, howner⟩ := h.stored call hcall revisionID hstage
  have hold : ∀ old ∈ s.queries, ∃ row ∈ s.queries.update (fun row => row.id = call.queryID)
      (fun row => { row with currentRevisionID := some chosen.id }) ⟨fun _ => rfl⟩,
      row.id = old.id ∧ (old.currentRevisionID ≠ none → row.currentRevisionID ≠ none) := by
    intro old hold
    refine ⟨_, Table.mem_update.mpr ⟨old, hold, rfl⟩, ?_⟩
    split
    · exact ⟨rfl, fun _ => by simp⟩
    · exact ⟨rfl, id⟩
  have hset : SavesInvariant { s with
      queries := s.queries.update (fun row => row.id = call.queryID)
        (fun row => { row with currentRevisionID := some chosen.id }) ⟨fun _ => rfl⟩ } := by
    refine ⟨h.errors, h.early, ?_, h.stored, ?_, ?_, ?_, ?_, ?_⟩
    · intro row hrow revisionID hcurrent
      obtain ⟨hid, hsome, -⟩ | ⟨hmem, -⟩ := mem_setCurrent hrow
      · exact ⟨chosen, hchosen, Option.some.inj (hsome.symm.trans hcurrent),
          howner.trans hid.symm⟩
      · exact h.owned row hmem revisionID hcurrent
    · intro row hrow hnone
      obtain ⟨-, hsome, -⟩ | ⟨hmem, -⟩ := mem_setCurrent hrow
      · rw [hsome] at hnone
        cases hnone
      · exact h.pending row hmem hnone
    · intro other hother hanswering
      obtain ⟨old, hmem, hid, hne⟩ := h.answered other hother hanswering
      obtain ⟨row, hrow, hrowID, hsome⟩ := hold old hmem
      exact ⟨row, hrow, hrowID.trans hid, hsome hne⟩
    · intro revision hrevision
      refine (h.numbered revision hrevision).imp_right fun hsettled row hrow hquery => ?_
      obtain ⟨hid, hsome, old, hmem, holdID⟩ | ⟨hmem, -⟩ := mem_setCurrent hrow
      · obtain ⟨current, hcurrent, holdCurrent, hle⟩ :=
          hsettled old hmem (holdID.trans hquery)
        exact ⟨chosen, hchosen, hsome, hle.trans (hnewest chosen hchosen rfl old hmem
          (holdID.trans hid) current hcurrent holdCurrent)⟩
      · exact hsettled row hmem hquery
    · intro other hother hfound
      obtain ⟨old, hmem, hid⟩ := h.present other hother hfound
      obtain ⟨row, hrow, hrowID, -⟩ := hold old hmem
      exact ⟨row, hrow, hrowID.trans hid⟩
    · intro revision hrevision
      obtain ⟨old, hmem, hid⟩ := h.rooted revision hrevision
      obtain ⟨row, hrow, hrowID, -⟩ := hold old hmem
      exact ⟨row, hrow, hrowID.trans hid⟩
  have hcurrent : ∀ row ∈ s.queries.update (fun row => row.id = call.queryID)
      (fun row => { row with currentRevisionID := some chosen.id }) ⟨fun _ => rfl⟩,
      row.id = call.queryID → row.currentRevisionID = some chosen.id := by
    intro row hrow hid
    obtain ⟨-, hsome, -⟩ | ⟨-, hne⟩ := mem_setCurrent hrow
    · exact hsome
    · exact absurd hid hne
  refine hset.move hget (by simp) (by rintro (h | h) <;> cases h) (by simp) ?_ ?_ ?_ ?_
  · grind [Table.eq_of_key_eq, SaveStage.selecting.inj, le_rfl]
  · intro _
    obtain ⟨old, hmem, hid⟩ := h.present call hcall (.inr (.inr (.inr ⟨_, hstage⟩)))
    obtain ⟨row, hrow, hrowID, -⟩ := hold old hmem
    have hquery := hrowID.trans hid
    exact ⟨row, hrow, hquery, by simp [hcurrent row hrow hquery]⟩
  · rintro - ⟨row, hrow, hquery, hnone⟩
    rw [hcurrent row hrow hquery] at hnone
    cases hnone
  · rintro (⟨hwriting, -⟩ | hwriting | ⟨_, hwriting⟩ | ⟨_, hwriting⟩) <;> cases hwriting

theorem SavesInvariant.begin (h : SavesInvariant s) {queryID : String} {input : QueryInput}
    {calls : Table SaveCall SaveCall.id}
    (hinsert : s.calls.insert (beginSave lib callID queryID freshID input) = some calls) :
    SavesInvariant { s with calls } := by
  have hcalls : ∀ other, other ∈ calls ↔
      other ∈ s.calls ∨ other = beginSave lib callID queryID freshID input := by
    intro other
    rw [Table.mem_def, (Table.insert_eq_some_iff.mp hinsert).2, List.mem_append,
      List.mem_singleton, Table.mem_def]
  have hnew : (beginSave lib callID queryID freshID input).changed = false ∧
      ((∃ result, (beginSave lib callID queryID freshID input).stage = .returned result) ∨
        (beginSave lib callID queryID freshID input).stage = .loading ∨
        (beginSave lib callID queryID freshID input).stage = .writing ∧
          (beginSave lib callID queryID freshID input).creates = true) := by
    grind [beginSave, prepareQuery]
  obtain ⟨hchanged, hstage⟩ := hnew
  constructor
  case errors =>
    intro other hother message hreturned
    obtain hmem | rfl := (hcalls other).mp hother
    · exact h.errors other hmem message hreturned
    · exact hchanged
  case early =>
    intro other hother hearly
    obtain hmem | rfl := (hcalls other).mp hother
    · exact h.early other hmem hearly
    · exact hchanged
  case owned => exact h.owned
  case stored =>
    intro other hother revisionID hselecting
    obtain hmem | rfl := (hcalls other).mp hother
    · exact h.stored other hmem revisionID hselecting
    · rw [hselecting] at hstage
      obtain ⟨_, hstage⟩ | hstage | ⟨hstage, -⟩ := hstage <;> cases hstage
  case pending =>
    intro row hrow hnone
    obtain ⟨other, hother, hrest⟩ := h.pending row hrow hnone
    exact ⟨other, (hcalls other).mpr (.inl hother), hrest⟩
  case answered =>
    intro other hother hanswering
    obtain hmem | rfl := (hcalls other).mp hother
    · exact h.answered other hmem hanswering
    · rw [hanswering] at hstage
      obtain ⟨_, hstage⟩ | hstage | ⟨hstage, -⟩ := hstage <;> cases hstage
  case numbered =>
    intro revision hrevision
    refine (h.numbered revision hrevision).imp_left ?_
    rintro ⟨other, hother, hrest⟩
    exact ⟨other, (hcalls other).mpr (.inl hother), hrest⟩
  case present =>
    intro other hother hfound
    obtain hmem | rfl := (hcalls other).mp hother
    · exact h.present other hmem hfound
    · obtain ⟨hwriting, hcreates⟩ | hnumbering | ⟨_, hinserting⟩ | ⟨_, hselecting⟩ := hfound
      · grind
      · rw [hnumbering] at hstage
        obtain ⟨_, hstage⟩ | hstage | ⟨hstage, -⟩ := hstage <;> cases hstage
      · rw [hinserting] at hstage
        obtain ⟨_, hstage⟩ | hstage | ⟨hstage, -⟩ := hstage <;> cases hstage
      · rw [hselecting] at hstage
        obtain ⟨_, hstage⟩ | hstage | ⟨hstage, -⟩ := hstage <;> cases hstage
  case rooted => exact h.rooted

/-! ## Undisturbed runs -/

theorem SavesInvariant.exists_getQuery (h : SavesInvariant s) (hcall : call ∈ s.calls)
    (hstage : call.stage = .answering) : ∃ answer, getQuery s call.queryID = some answer := by
  obtain ⟨row, hrow, hid, hne⟩ := h.answered call hcall hstage
  obtain ⟨revisionID, hcurrent⟩ := Option.ne_none_iff_exists'.mp hne
  obtain ⟨revision, hrevision, hrevisionID, -⟩ := h.owned row hrow revisionID hcurrent
  have hget : s.queries.get? call.queryID = some row := hid ▸ Table.get?_of_mem hrow
  have hstored : s.revisions.get? revisionID = some revision :=
    hrevisionID ▸ Table.get?_of_mem hrevision
  exact ⟨(row, revision), by simp [getQuery, hget, hcurrent, hstored]⟩

theorem SavesInvariant.rest (h : SavesInvariant s) (hget : s.calls.get? callID = some call)
    (hselecting : ∀ revisionID, call.stage ≠ .selecting revisionID)
    (hcompletes : ¬ call.completes) (result : Except String Unit)
    (herror : ∀ message, result = .error message → changed = false) :
    SavesInvariant (s.move callID (.returned result) changed) := by
  refine h.move hget (fun message hreturned => herror message (SaveStage.returned.inj hreturned))
    (by rintro (h | h) <;> cases h) (by simp)
    (fun revision _ hstage => absurd hstage (hselecting _)) (by simp)
    (fun h => absurd h hcompletes) ?_
  rintro (⟨hstage, -⟩ | hstage | ⟨_, hstage⟩ | ⟨_, hstage⟩) <;> cases hstage

/-- **An undisturbed statement keeps the invariant.** -/
theorem SavesInvariant.statement (h : SavesInvariant s) (hget : s.calls.get? callID = some call)
    (hprogress : ∀ result, call.stage ≠ .returned result)
    (hundisturbed : Undisturbed s call false) (hfresh : s.fresh freshID = true) :
    (∀ s', runStatement lib s call freshID = .ok s' → SavesInvariant s') ∧
      ∀ message, runStatement lib s call freshID = .error message → call.wrote = false := by
  have hcall := Table.mem_of_get? hget
  have hid : call.id = callID := Table.key_of_get? hget
  cases hstage : call.stage with
  | loading =>
    have hchanged := h.early call hcall (.inl hstage)
    have hselecting : ∀ revisionID, call.stage ≠ .selecting revisionID := by simp [hstage]
    have hcompletes : ¬ call.completes := by
      rintro ⟨hcompletes, -⟩
      rw [hchanged] at hcompletes
      cases hcompletes
    simp only [runStatement, hstage, hid]
    cases hquery : getQuery s call.queryID with
    | none => exact ⟨by simp, fun _ _ => by rw [SaveCall.wrote, hstage]; exact hchanged⟩
    | some answer =>
      obtain ⟨row, revision⟩ := answer
      dsimp only
      refine ⟨fun s' hs' => ?_, fun message hmessage => by split at hmessage <;> cases hmessage⟩
      split at hs'
      · cases hs'
        exact h.rest hget hselecting hcompletes _ (by simp)
      · cases hs'
        refine h.move hget (by simp) (fun _ => rfl) (by simp)
          (fun revision _ hstage => absurd hstage (hselecting _)) (by simp)
          (fun h => absurd h hcompletes) fun _ => ?_
        rw [getQuery, Option.bind_eq_bind, Option.bind_eq_some_iff] at hquery
        obtain ⟨found, hfound, -⟩ := hquery
        exact ⟨found, Table.mem_of_get? hfound, Table.key_of_get? hfound⟩
  | writing =>
    have hchanged := h.early call hcall (.inr hstage)
    have hcompletes : ¬ call.completes := by
      rintro ⟨hcompletes, -⟩
      rw [hchanged] at hcompletes
      cases hcompletes
    have hwrote : call.wrote = false := by
      rw [SaveCall.wrote, hstage]
      exact hchanged
    refine ⟨fun s' hs' => ?_, fun _ _ => hwrote⟩
    simp only [runStatement, hstage, hid] at hs'
    split at hs'
    · cases hinsert : s.queries.insert ⟨call.queryID, call.metadata, none⟩ with
      | none =>
        rw [hinsert] at hs'
        cases hs'
      | some queries =>
        rw [hinsert] at hs'
        cases hs'
        exact h.create hget hstage hinsert
    · next hcreates =>
      cases hs'
      have hwritten := h.rewrite call.queryID call.metadata
      refine hwritten.move hget (by simp) (by rintro (h | h) <;> cases h) (by simp)
        (fun revision _ hselecting => ?_) (by simp) (fun h => absurd h hcompletes) fun _ => ?_
      · rw [hstage] at hselecting
        cases hselecting
      · exact hwritten.present call hcall (.inl ⟨hstage, Bool.eq_false_iff.mpr hcreates⟩)
  | numbering =>
    simp only [runStatement, hstage, hid]
    refine ⟨fun s' hs' => ?_, by simp⟩
    cases hs'
    refine h.move hget (by simp) (by rintro (h | h) <;> cases h) (by simp)
      (fun revision _ hselecting => ?_) (by simp)
      (fun hcompletes _ => ⟨hcompletes.1, .inr (.inl ⟨_, rfl⟩)⟩) fun _ => ?_
    · rw [hstage] at hselecting
      cases hselecting
    · exact h.present call hcall (.inr (.inl hstage))
  | inserting revisionNumber =>
    -- the row is refused only for a call that has changed nothing
    have hwrote : call.wrote = call.changed := by rw [SaveCall.wrote, hstage]
    have hstored : call.changed = true → windowAllowed call.settings = true ∧
        numberTaken s call.queryID revisionNumber = false := by
      have h := hundisturbed.2
      rwa [hstage] at h
    simp only [runStatement, hstage, hid]
    by_cases hwindow : windowAllowed call.settings = false
    · rw [if_pos hwindow]
      refine ⟨by simp, fun _ _ => ?_⟩
      rw [hwrote, Bool.eq_false_iff]
      intro hchanged
      rw [(hstored hchanged).1] at hwindow
      cases hwindow
    · rw [if_neg hwindow]
      by_cases htaken : numberTaken s call.queryID revisionNumber = true
      · rw [if_pos htaken]
        refine ⟨by simp, fun _ _ => ?_⟩
        rw [hwrote, Bool.eq_false_iff]
        intro hchanged
        rw [(hstored hchanged).2] at htaken
        cases htaken
      · rw [if_neg htaken]
        cases hinsert : s.revisions.insert
            ⟨freshID, call.queryID, revisionNumber, call.settings⟩ with
        | none =>
          obtain ⟨revision, hrevision⟩ := Table.insert_eq_none_iff.mp hinsert
          have hused : (s.revisions.any fun revision => revision.id = freshID) = true :=
            Table.any_eq_true.mpr
              ⟨revision, Table.mem_of_get? hrevision, Table.key_of_get? hrevision⟩
          rw [SaveState.fresh, hused] at hfresh
          simp at hfresh
        | some revisions =>
          refine ⟨fun s' hs' => ?_, by simp⟩
          cases hs'
          exact h.store hget hstage hinsert
  | selecting revisionID =>
    simp only [runStatement, hstage, hid]
    refine ⟨fun s' hs' => ?_, by simp⟩
    cases hs'
    have hnewest := hundisturbed.2
    rw [hstage] at hnewest
    exact h.select hget hstage hnewest
  | answering =>
    obtain ⟨answer, hanswer⟩ := h.exists_getQuery hcall hstage
    simp only [runStatement, hstage, hid, hanswer]
    refine ⟨fun s' hs' => ?_, by simp⟩
    cases hs'
    refine h.rest hget (by simp [hstage]) ?_ _ (by simp)
    rintro ⟨-, hcompletes⟩
    rw [hstage] at hcompletes
    obtain hcompletes | ⟨_, hcompletes⟩ | ⟨_, hcompletes⟩ := hcompletes <;> cases hcompletes
  | returned result => exact absurd hstage (hprogress result)

/-- **An undisturbed step keeps the invariant.** -/
theorem SavesInvariant.step {a : SaveAction} (h : SavesInvariant s)
    (hstep : saveStep lib s a = some s') (hundisturbing : Undisturbing s a s') :
    SavesInvariant s' := by
  cases a with
  | call callID queryID freshID input =>
    simp only [saveStep] at hstep
    split at hstep
    · obtain ⟨calls, hinsert, rfl⟩ := Option.map_eq_some_iff.mp hstep
      exact h.begin hinsert
    · cases hstep
  | statement callID fails freshID =>
    simp only [saveStep] at hstep
    cases hget : s.calls.get? callID with
    | none =>
      rw [hget] at hstep
      cases hstep
    | some call =>
      have hundisturbed := hundisturbing call hget
      simp only [hget] at hstep
      split at hstep
      · cases hstep
      · next hprogress =>
        split at hstep
        · next hfresh =>
          cases fails with
          | true =>
            rw [if_pos rfl] at hstep
            cases hstep
            exact h.fail hget (hundisturbed.1 rfl) _
          | false =>
            rw [if_neg Bool.false_ne_true] at hstep
            cases hrun : runStatement lib s call freshID with
            | error message =>
              rw [hrun] at hstep
              cases hstep
              have hwrote := (h.statement hget hprogress hundisturbed hfresh).2 message hrun
              exact h.fail hget hwrote message
            | ok next =>
              rw [hrun] at hstep
              cases hstep
              exact (h.statement hget hprogress hundisturbed hfresh).1 _ hrun
        · cases hstep

end

/-! ## One query, saved and renamed -/

def matchAllLibrary : SaveLibrary where
  unmarshal := fun _ => .ok [("query", .obj [("match_all", .obj [])])]
  parse := fun _ => none
  parseFloat := fun _ => none
  formatFloat := fun _ => "0"
  matchString := fun _ _ => false
  matchPath := fun _ _ => false
  hashID := fun value => value
  decode := fun _ => some (.obj [("query", .obj [("match_all", .obj [])])])

def errorsQuery : QueryInput where
  name := "errors"
  description := ""
  applicationID := "checkout"
  serviceID := ""
  indexOverride := ""
  active := none
  searchBody := .empty
  defaultWindowSeconds := 0
  criteria := [("operator", .str "EQ"), ("value", .num 0)]
  gateMode := ""
  semanticMapping := none

def savedOnce : List SaveAction :=
  [.call 1 "" "query" errorsQuery, .statement 1 false "a", .statement 1 false "a",
    .statement 1 false "revision", .statement 1 false "b", .statement 1 false "b"]

def SaveCall.failed (call : SaveCall) : Bool :=
  match call.stage with
  | .returned (.error _) => true
  | _ => false

end Rhythm.Elf
