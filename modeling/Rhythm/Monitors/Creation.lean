import Rhythm.Transition
import Rhythm.Runs.Domain
import Rhythm.Monitors.Definition

/-!
# Rhythm.Monitors.Creation

Monitors and their revisions, and the calls that write them: `createMonitor`
with its `Idempotency-Key`, `SaveDraft`, `Publish`, `Clone` and
`RestoreRevision`.  A create call with a key holds the lock of its process while
it lists the monitors and reads their drafts one by one, looking for the record
of an earlier creation; the record is a member of the draft definition like any
other.  The calls of several processes, and the reads and the transaction of one
call, interleave.

`json.Marshal` and SHA-256 of a create request are one parameter, its digest.
The order in which monitors are listed is an input of each list: the query sorts
them by name alone.  Schedules, health and the other columns that these calls do
not read are left out.
-/

namespace Rhythm.Monitors

open Text Unmarshal

abbrev ProcessId := Nat
abbrev CallId := Nat

/-! ## Monitors and revisions -/

/-- The columns of `monitors` that these calls read. -/
structure Monitor where
  id : MonitorId
  name : String
  slug : String
  description : String
  ownerId : String
  tags : List String
  environmentId : String
  currentDraftRevisionId : RevisionId
  deriving DecidableEq

inductive RevisionStatus where
  | draft | published
  deriving DecidableEq

/-- A row of `monitor_revisions`. -/
structure Revision where
  id : RevisionId
  monitorId : MonitorId
  revisionNumber : Nat
  status : RevisionStatus
  definition : Definition
  deriving DecidableEq

abbrev MonitorTable := Table Monitor Monitor.id
abbrev RevisionTable := Table Revision Revision.id

/-- `CreateInput`; the definition of a body without one is `nil`. -/
structure CreateInput where
  name : String
  slug : String
  description : String
  ownerId : String
  tags : List String
  environmentId : String
  definition : Option Definition
  deriving DecidableEq

/-- What creation is computed with. -/
structure CreationLibrary extends Library where
  /-- `sha256.Sum256` of the encoded input, digit by digit. -/
  digest : CreateInput → List (Fin 16)

/-! ## The record of a creation -/

def hexDigit (d : Fin 16) : Char := "0123456789abcdef".toList.getD d '0'

/-- `fmt.Sprintf("%x", …)` of the digest. -/
def fingerprint (lib : CreationLibrary) (input : CreateInput) : String :=
  String.ofList ((lib.digest input).map hexDigit)

/-- The definition that a create call with a key stores: the record replaces a
member of that name. -/
def recordCreation (key fingerprint : String) (definition : Option Definition) : Definition :=
  setKey (definition.getD []) "_rhythmCreation"
    (.obj [("idempotencyKey", .str key), ("fingerprint", .str fingerprint)])

/-- The key and the fingerprint that a definition carries, as
`findIdempotentMonitor` reads them. -/
def creationRecord (lib : Library) (definition : Definition) : Option (String × String) :=
  match member definition "_rhythmCreation" with
  | .obj metadata =>
    some (sprintMember lib metadata "idempotencyKey", sprintMember lib metadata "fingerprint")
  | _ => none

/-! ## Writing monitors -/

/-- The input that `Create` checks. -/
def CreateInput.trimmed (input : CreateInput) : CreateInput :=
  { input with
    name := trimSpace input.name
    slug := trimSpace input.slug
    description := trimSpace input.description
    ownerId := trimSpace input.ownerId
    tags := input.tags.map trimSpace }

def CreateInput.errors (input : CreateInput) : List FieldError :=
  let input := input.trimmed
  validateMetadata input.name input.slug input.description input.ownerId input.tags

/-- The definition of a monitor that is created without one. -/
def emptyDefinition : Definition := [("steps", .arr [])]

def createdMonitor (monitorID : MonitorId) (revisionID : RevisionId) (input : CreateInput) :
    Monitor where
  id := monitorID
  name := input.trimmed.name
  slug := input.trimmed.slug
  description := input.trimmed.description
  ownerId := input.trimmed.ownerId
  tags := input.trimmed.tags
  environmentId := input.environmentId
  currentDraftRevisionId := revisionID

def createdRevision (monitorID : MonitorId) (revisionID : RevisionId) (input : CreateInput) :
    Revision where
  id := revisionID
  monitorId := monitorID
  revisionNumber := 1
  status := .draft
  definition := normalizeScriptEnabledFlags (input.definition.getD emptyDefinition)

def slugTaken (input : CreateInput) (monitors : MonitorTable) : Bool :=
  monitors.any fun row => row.slug = input.trimmed.slug

/-- `Create` of a request without faults whose slug is free: nothing when an
identifier is taken. -/
def create (monitorID : MonitorId) (revisionID : RevisionId) (input : CreateInput)
    (monitors : MonitorTable) (revisions : RevisionTable) :
    Option (MonitorTable × RevisionTable) :=
  match monitors.insert (createdMonitor monitorID revisionID input),
      revisions.insert (createdRevision monitorID revisionID input) with
  | some monitors, some revisions => some (monitors, revisions)
  | _, _ => none

/-- `UpdateDraft`: the definition of the current draft is replaced. -/
def updateDraft (monitorID : MonitorId) (definition : Definition) (monitors : MonitorTable)
    (revisions : RevisionTable) : Option RevisionTable :=
  match monitors.get? monitorID with
  | none => none
  | some monitor =>
    if revisions.any (fun row => row.id = monitor.currentDraftRevisionId ∧ row.status = .draft) then
      some (revisions.update
        (fun row => row.id = monitor.currentDraftRevisionId ∧ row.status = .draft)
        fun row => { row with definition := definition })
    else none

/-- `GetRevision`. -/
def getRevision (monitorID : MonitorId) (revisionID : RevisionId) (revisions : RevisionTable) :
    Option Revision :=
  (revisions.get? revisionID).filter fun row => row.monitorId = monitorID

/-! ## Calls -/

/-- How a create call was answered. -/
inductive Result where
  /-- 201 -/
  | created (monitorID : MonitorId)
  /-- 200, `Idempotency-Replayed` -/
  | replayed (monitorID : MonitorId)
  /-- 409, `IDEMPOTENCY_KEY_REUSED` -/
  | keyReused
  /-- 422, `MONITOR_VALIDATION_FAILED` -/
  | invalid (fields : List FieldError)
  /-- 500 -/
  | failed
  deriving DecidableEq

def Result.monitor? : Result → Option MonitorId
  | .created monitorID | .replayed monitorID => some monitorID
  | _ => none

/-- An answered create call. -/
structure Answer where
  key : String
  input : CreateInput
  result : Result
  deriving DecidableEq

/-- Where a create call stands. -/
inductive CreateStage where
  /-- With the lock of its process, about to list the monitors. -/
  | listing
  /-- The listed monitors whose drafts are still to be read. -/
  | searching (rest : List Monitor)
  /-- Nothing was found, or there is no key. -/
  | creating
  deriving DecidableEq

/-- A create call in flight; the key is trimmed, and empty when there is none. -/
structure CreateCall where
  id : CallId
  process : ProcessId
  key : String
  input : CreateInput
  stage : CreateStage
  deriving DecidableEq

/-- The calls that read a revision first and write a definition later. -/
inductive Operation where
  | publish
  | clone (name slug : String)
  | restoreRevision (revisionID : RevisionId)
  deriving DecidableEq

/-- Such a call in flight, with what it has read. -/
structure Edit where
  id : CallId
  monitorId : MonitorId
  operation : Operation
  source : Option Monitor
  revision : Option Revision
  deriving DecidableEq

/-! ## The system -/

structure State where
  monitors : MonitorTable
  revisions : RevisionTable
  creates : Table CreateCall CreateCall.id
  edits : Table Edit Edit.id
  answers : List Answer

def initial : State where
  monitors := .empty
  revisions := .empty
  creates := .empty
  edits := .empty
  answers := []

/-- One transaction, or one read of a call. -/
inductive Action where
  | createMonitor (callID : CallId) (process : ProcessId) (header : String) (input : CreateInput)
  /-- `List`, which answers with the monitors in some order, or fails. -/
  | listMonitors (callID : CallId) (listed : Option (List Monitor))
  /-- The draft of the next listed monitor is read, or cannot be. -/
  | readDraft (callID : CallId) (fails : Bool)
  | create (callID : CallId) (monitorID : MonitorId) (revisionID : RevisionId) (fails : Bool)
  | saveDraft (monitorID : MonitorId) (definition : Definition)
  | beginEdit (editID : CallId) (monitorID : MonitorId) (operation : Operation)
  | getMonitor (editID : CallId)
  | readRevision (editID : CallId)
  /-- The transaction of the call, with the identifiers it draws. -/
  | commitEdit (editID : CallId) (monitorID : MonitorId) (revisionID : RevisionId)
  /-- The call ends without a transaction. -/
  | endEdit (editID : CallId)
  deriving DecidableEq

def State.setStage (s : State) (callID : CallId) (stage : CreateStage) : State :=
  { s with creates := s.creates.update (fun c => c.id = callID) fun c => { c with stage := stage } }

def State.answer (s : State) (call : CreateCall) (result : Result) : State :=
  { s with
    creates := s.creates.deleteWhere fun c => c.id = call.id
    answers := s.answers ++ [⟨call.key, call.input, result⟩] }

def State.setEdit (s : State) (editID : CallId) (f : Edit → Edit)
    (hf : Table.KeepsKey Edit.id f := by exact ⟨fun _ => rfl⟩) : State :=
  { s with edits := s.edits.update (fun e => e.id = editID) f hf }

/-- What a create call sends to `Create`. -/
def CreateCall.request (lib : CreationLibrary) (call : CreateCall) : CreateInput :=
  if call.key = "" then call.input
  else
    { call.input with
      definition :=
        some (recordCreation call.key (fingerprint lib call.input) call.input.definition) }

def cloneInput (name slug : String) (source : Monitor) (revision : Revision) : CreateInput where
  name := name
  slug := slug
  description := source.description
  ownerId := source.ownerId
  tags := source.tags
  environmentId := source.environmentId
  definition := some revision.definition

/-- The stage of a search after the draft of the first listed monitor was read,
or the answer it led to. -/
def afterDraft (lib : CreationLibrary) (call : CreateCall) (candidate : Monitor)
    (revision : Option Revision) (rest : List Monitor) : CreateStage ⊕ Result :=
  match revision.bind fun row => creationRecord lib.toLibrary row.definition with
  | none => .inl (.searching rest)
  | some (key, found) =>
    if key ≠ call.key then .inl (.searching rest)
    else if found ≠ fingerprint lib call.input then .inr .keyReused
    else .inr (.replayed candidate.id)

/-- The tables after the transaction of an edit, or nothing when it is refused. -/
def editTransaction (edit : Edit) (monitorID : MonitorId) (revisionID : RevisionId)
    (lib : Library) (monitors : MonitorTable) (revisions : RevisionTable) :
    Option (MonitorTable × RevisionTable) :=
  match edit.operation, edit.source, edit.revision with
  | .publish, _, some published =>
    match monitors.get? edit.monitorId with
    | none => none
    | some monitor =>
      if monitor.currentDraftRevisionId = published.id ∧
          revisions.any (fun row => row.id = published.id ∧ row.status = .draft) ∧
          validateDefinition lib published.definition = [] then
        let frozen := revisions.update (fun row => row.id = published.id ∧ row.status = .draft)
          fun row => { row with status := .published }
        (frozen.insert ⟨revisionID, edit.monitorId, published.revisionNumber + 1, .draft,
          published.definition⟩).map fun revisions =>
            (monitors.update (fun row => row.id = edit.monitorId)
              fun row => { row with currentDraftRevisionId := revisionID }, revisions)
      else none
  | .clone name slug, some source, some revision =>
    let input := cloneInput name slug source revision
    if input.errors = [] ∧ slugTaken input monitors = false then
      create monitorID revisionID input monitors revisions
    else none
  | .restoreRevision _, _, some revision =>
    (updateDraft edit.monitorId revision.definition monitors revisions).map fun revisions =>
      (monitors, revisions)
  | _, _, _ => none

/-- The revision that an edit reads: the one it names, or the current draft of
the monitor it has read. -/
def Edit.revisionID (edit : Edit) : Option RevisionId :=
  match edit.operation with
  | .restoreRevision revisionID => some revisionID
  | _ => edit.source.map Monitor.currentDraftRevisionId

/-- **One step of the monitor API.** -/
def step (lib : CreationLibrary) (s : State) : Action → Option State
  | .createMonitor callID process header input =>
    let key := trimSpace header
    if key.utf8ByteSize ≤ 128 ∧
        (key = "" ∨ s.creates.any (fun c => c.process = process ∧ c.key ≠ "") = false) then
      (s.creates.insert ⟨callID, process, key, input,
        if key = "" then .creating else .listing⟩).map fun creates => { s with creates }
    else none
  | .listMonitors callID listed =>
    match s.creates.get? callID with
    | none => none
    | some call =>
      if call.stage = .listing then
        match listed with
        | none => some (s.setStage callID .creating)
        | some rows =>
          if rows.Perm s.monitors.rows then some (s.setStage callID (.searching rows)) else none
      else none
  | .readDraft callID fails =>
    match s.creates.get? callID with
    | none => none
    | some call =>
      match call.stage with
      | .searching [] => some (s.setStage callID .creating)
      | .searching (candidate :: rest) =>
        let revision := if fails then none
          else getRevision candidate.id candidate.currentDraftRevisionId s.revisions
        match afterDraft lib call candidate revision rest with
        | .inl stage => some (s.setStage callID stage)
        | .inr result => some (s.answer call result)
      | _ => none
  | .create callID monitorID revisionID fails =>
    match s.creates.get? callID with
    | none => none
    | some call =>
      if call.stage = .creating then
        let request := call.request lib
        if request.errors ≠ [] then some (s.answer call (.invalid request.errors))
        else if fails then some (s.answer call .failed)
        else if slugTaken request s.monitors then
          some (s.answer call (.invalid [⟨"slug", "A monitor with this slug already exists."⟩]))
        else
          (create monitorID revisionID request s.monitors s.revisions).map
            fun (monitors, revisions) =>
              { s.answer call (.created monitorID) with monitors, revisions }
      else none
  | .saveDraft monitorID definition =>
    if validateDefinition lib.toLibrary definition = [] then
      (updateDraft monitorID (normalizeScriptEnabledFlags definition) s.monitors s.revisions).map
        fun revisions => { s with revisions }
    else none
  | .beginEdit editID monitorID operation =>
    (s.edits.insert ⟨editID, monitorID, operation, none, none⟩).map fun edits => { s with edits }
  | .getMonitor editID =>
    match s.edits.get? editID with
    | none => none
    | some edit =>
      match edit.source, s.monitors.get? edit.monitorId with
      | none, some monitor => some (s.setEdit editID fun e => { e with source := some monitor })
      | _, _ => none
  | .readRevision editID =>
    match s.edits.get? editID with
    | none => none
    | some edit =>
      match edit.revision, edit.revisionID.bind fun revisionID =>
          getRevision edit.monitorId revisionID s.revisions with
      | none, some revision =>
        some (s.setEdit editID fun e => { e with revision := some revision })
      | _, _ => none
  | .commitEdit editID monitorID revisionID =>
    match s.edits.get? editID with
    | none => none
    | some edit =>
      (editTransaction edit monitorID revisionID lib.toLibrary s.monitors s.revisions).map
        fun (monitors, revisions) =>
          { s with
            monitors, revisions
            edits := s.edits.deleteWhere fun e => e.id = editID }
  | .endEdit editID => some { s with edits := s.edits.deleteWhere fun e => e.id = editID }

end Rhythm.Monitors
