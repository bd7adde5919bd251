import Rhythm.Fallible
import Rhythm.Runs.Domain
import Rhythm.Text
import Rhythm.Transition

/-!
# Rhythm.BrowserMonitors.Artifacts

The images of browser runs: objects in a store, a `browser_artifacts` row for
each, and the visual baselines that refer to a row (`ON DELETE RESTRICT`).  The
store and the database are changed by separate statements, and the calls that
make them are open side by side: a run that stores its artifacts, an approval,
and the purge of expired artifacts, which deletes the object first and the row
after it.

* `images_kept` — while no call is open, every row has its object and every
  approved baseline its image, as long as each row follows its object.
-/

namespace Rhythm.BrowserMonitors.Artifacts

open Text

abbrev ArtifactId := Nat
abbrev BaselineId := Nat
abbrev CallId := Nat

/-! ## Objects, rows and baselines -/

/-- `browser/<monitor>/<run>/<artifact>.artifact` -/
structure ObjectKey where
  monitorId : MonitorId
  runId : RunId
  artifactId : ArtifactId
  deriving DecidableEq

/-- `ArtifactObjectInfo`, what `Stat` says of a stored object. -/
structure StoredObject where
  key : ObjectKey
  size : Int
  contentType : String
  eTag : String
  deriving DecidableEq

abbrev ObjectTable := Table StoredObject StoredObject.key

/-- A row of `browser_artifacts`. -/
structure Artifact where
  id : ArtifactId
  runId : RunId
  monitorId : MonitorId
  kind : String
  objectKey : ObjectKey
  contentType : String
  byteSize : Int
  masked : Bool
  checkpointId : String
  revisionId : RevisionId
  expiresAt : Time
  createdAt : Time
  deriving DecidableEq

abbrev ArtifactTable := Table Artifact Artifact.id

inductive BaselineStatus where
  | proposed | approved | superseded
  deriving DecidableEq

/-- A row of `browser_visual_baselines`. -/
structure Baseline where
  id : BaselineId
  monitorId : MonitorId
  revisionId : RevisionId
  checkpointId : String
  fingerprint : String
  artifactId : ArtifactId
  status : BaselineStatus
  browserVersion : String
  agentImageVersion : String
  viewport : String
  approvedBy : String
  approvedAt : Option Time
  deriving DecidableEq

abbrev BaselineTable := Table Baseline Baseline.id

/-! ## Storing the artifacts of a run -/

/-- `maxBrowserArtifactBytes` -/
def maxBrowserArtifactBytes : Int := 10 * 1024 * 1024

/-- `allowedArtifactContentType` -/
def allowedArtifactContentType (contentType : String) : Bool :=
  toLower (trimSpace contentType) ∈ ["image/png", "application/zip", "application/json"]

/-- What the browser agent reports of an upload. -/
structure ArtifactPayload where
  uploadID : ArtifactId
  kind : String
  checkpointID : String
  contentType : String
  byteSize : Int
  eTag : String
  masked : Bool
  deriving DecidableEq

/-- The run that stores its artifacts, with the artifact policy of its revision. -/
structure RunContext where
  runId : RunId
  monitorId : MonitorId
  revisionId : RevisionId
  successScreenshotHours : Int
  failureEvidenceDays : Int
  deriving DecidableEq

def RunContext.objectKey (run : RunContext) (id : ArtifactId) : ObjectKey :=
  ⟨run.monitorId, run.runId, id⟩

def RunContext.retention (run : RunContext) (success : Bool) : Time :=
  if success then
    (if run.successScreenshotHours < 1 then 24 else run.successScreenshotHours).toNat * 3600000
  else (if run.failureEvidenceDays < 1 then 7 else run.failureEvidenceDays).toNat * 86400000

/-- `strings.Trim` of quotation marks. -/
def trimQuotes (s : String) : String :=
  String.ofList ((s.toList.dropWhile (· = '"')).rdropWhile (· = '"'))

/-- The content type that an uploaded object is stored under. -/
def storedContentType (payload : ArtifactPayload) (info : StoredObject) : String :=
  if toLower (trimSpace info.contentType) = "" then toLower (trimSpace payload.contentType)
  else toLower (trimSpace info.contentType)

/-- One round of `persistArtifacts`: the row of an upload that is what the agent says it is. -/
def capturedArtifact (now : Time) (run : RunContext) (success : Bool) (payload : ArtifactPayload)
    (info : StoredObject) : Option Artifact :=
  if payload.byteSize ≤ 0 ∨ maxBrowserArtifactBytes < payload.byteSize ∨
      allowedArtifactContentType payload.contentType = false then none
  else if info.size ≠ payload.byteSize ∨ info.size ≤ 0 ∨ maxBrowserArtifactBytes < info.size then
    none
  else if payload.eTag ≠ "" ∧ info.eTag ≠ "" ∧
      equalFold (trimQuotes payload.eTag) (trimQuotes info.eTag) = false then none
  else if storedContentType payload info ≠ toLower (trimSpace payload.contentType) ∨
      allowedArtifactContentType (storedContentType payload info) = false then none
  else
    some {
      id := payload.uploadID
      runId := run.runId
      monitorId := run.monitorId
      kind := payload.kind
      objectKey := run.objectKey payload.uploadID
      contentType := storedContentType payload info
      byteSize := info.size
      masked := payload.masked
      checkpointId := payload.checkpointID
      revisionId := run.revisionId
      expiresAt := now + run.retention success
      createdAt := now }

/-! ## Baselines -/

/-- What `GetRun` reads of the run that a baseline is proposed from. -/
structure BaselineRun where
  id : RunId
  monitorId : MonitorId
  revisionId : RevisionId
  browserVersion : String
  agentImageVersion : String
  viewport : String
  deriving DecidableEq

/-- The row that `ProposeBaseline` inserts. -/
def proposedBaseline (fingerprint : BaselineRun → String → String) (baselineID : BaselineId)
    (run : BaselineRun) (artifactID : ArtifactId) (checkpointID : String) : Baseline where
  id := baselineID
  monitorId := run.monitorId
  revisionId := run.revisionId
  checkpointId := checkpointID
  fingerprint := fingerprint run checkpointID
  artifactId := artifactID
  status := .proposed
  browserVersion := run.browserVersion
  agentImageVersion := run.agentImageVersion
  viewport := run.viewport
  approvedBy := ""
  approvedAt := none

/-- The transaction of `ApproveBaseline`: the approved baseline of this fingerprint is superseded,
and the baseline, if it is still there, takes its place. -/
def approveBaseline (baselineID : BaselineId) (monitorID : MonitorId) (fingerprint actor : String)
    (now : Time) (baselines : BaselineTable) : BaselineTable :=
  (baselines.update
      (fun b => b.monitorId = monitorID ∧ b.fingerprint = fingerprint ∧ b.status = .approved)
      fun b => { b with status := .superseded }).update
    (fun b => b.id = baselineID)
    fun b => { b with status := .approved, approvedBy := actor, approvedAt := some now }

/-- Why `runnerBaselines` fails. -/
inductive BaselineError where
  /-- `Stat` finds no object. -/
  | objectMissing
  /-- "approved visual baseline artifact violates the capture policy" -/
  | capturePolicy
  deriving DecidableEq

/-- A baseline as the browser agent gets it, with the object that its content URL is signed for. -/
structure RunnerBaseline where
  checkpointID : String
  fingerprint : String
  contentKey : ObjectKey
  maxBytes : Int
  deriving DecidableEq

/-- One row of `runnerBaselines`. -/
def runnerBaseline (objects : ObjectTable) (b : Baseline) (artifact : Artifact) :
    Except BaselineError RunnerBaseline :=
  match objects.get? artifact.objectKey with
  | none => .error .objectMissing
  | some info =>
    if info.size ≤ 0 ∨ maxBrowserArtifactBytes < info.size ∨
        allowedArtifactContentType info.contentType = false then .error .capturePolicy
    else .ok ⟨b.checkpointId, b.fingerprint, artifact.objectKey, info.size⟩

/-- `runnerBaselines`: the approved baselines of a revision, joined with their artifacts. -/
def runnerBaselines (monitorID : MonitorId) (revisionID : RevisionId) (objects : ObjectTable)
    (artifacts : ArtifactTable) (baselines : BaselineTable) :
    Except BaselineError (List RunnerBaseline) :=
  let rows := baselines.rows.filterMap fun b =>
    if b.monitorId = monitorID ∧ b.revisionId = revisionID ∧ b.status = .approved then
      (artifacts.get? b.artifactId).map fun artifact => (b, artifact)
    else none
  rows.mapM fun row => runnerBaseline objects row.1 row.2

/-! ## The system -/

/-- An expired artifact, as the purge has selected it. -/
structure Expired where
  id : ArtifactId
  key : ObjectKey
  deriving DecidableEq

/-- Where an open call stands. -/
inductive Progress where
  /-- A run with its upload slots, and the ones whose rows are inserted. -/
  | storing (run : RunContext) (slots persisted : List ArtifactId)
  /-- `ApproveBaseline` has read the baseline. -/
  | approving (baselineID : BaselineId) (monitorID : MonitorId) (fingerprint : String)
  /-- The items that `purgeExpiredArtifacts` has left, and whether the object of the first is
  deleted. -/
  | purging (items : List Expired) (deleted : Bool)
  deriving DecidableEq

namespace Progress

def slots : Progress → List ArtifactId
  | .storing _ slots _ => slots
  | _ => []

def persisted : Progress → List ArtifactId
  | .storing _ _ persisted => persisted
  | _ => []

def items : Progress → List Expired
  | .purging items _ => items
  | _ => []

/-- The item whose object a purge has deleted, and whose row is next. -/
def emptied : Progress → Option Expired
  | .purging (item :: _) true => some item
  | _ => none

end Progress

structure Call where
  id : CallId
  progress : Progress
  deriving DecidableEq

abbrev CallTable := Table Call Call.id

structure State where
  now : Time
  objects : ObjectTable
  artifacts : ArtifactTable
  baselines : BaselineTable
  calls : CallTable

def initial (now : Time) : State := ⟨now, .empty, .empty, .empty, .empty⟩

inductive Action where
  | tick (elapsed : Nat)
  /-- `runnerArtifactUploads` -/
  | startRun (call : CallId) (run : RunContext) (slots : List ArtifactId)
  /-- The browser agent puts an object into a slot. -/
  | upload (call : CallId) (slot : ArtifactId) (size : Int) (contentType eTag : String)
  | persist (call : CallId) (payload : ArtifactPayload) (success : Bool)
  /-- `cleanupArtifactUploads`, whose deletions fail for the `kept` slots. -/
  | finishRun (call : CallId) (kept : List ArtifactId)
  | proposeBaseline (baselineID : BaselineId) (monitorID : MonitorId) (run : BaselineRun)
      (artifactID : ArtifactId) (checkpointID : String)
  | readBaseline (call : CallId) (baselineID : BaselineId)
  | approveBaseline (call : CallId) (actor : String)
  | deleteBaseline (baselineID : BaselineId)
  /-- The `SELECT` of `purgeExpiredArtifacts`. -/
  | startPurge (call : CallId) (ids : List ArtifactId)
  | deleteObject (call : CallId) (fails : Bool)
  | deleteRow (call : CallId) (fails : Bool)
  | finishPurge (call : CallId)
  /-- The call ends where it stands: a statement fails, or its process is lost. -/
  | crash (call : CallId)
  deriving DecidableEq

def State.progress (s : State) (call : CallId) : Option Progress :=
  (s.calls.get? call).map Call.progress

def State.setProgress (s : State) (call : CallId) (progress : Progress) : State :=
  { s with calls := s.calls.update (fun c => c.id = call) fun c => { c with progress } }

def State.endCall (s : State) (call : CallId) : State :=
  { s with calls := s.calls.deleteWhere fun c => c.id = call }

/-- The identifier is new: no row has it, and no open run has a slot for it. -/
def FreshArtifact (s : State) (id : ArtifactId) : Prop :=
  s.artifacts.get? id = none ∧ ∀ c ∈ s.calls, id ∉ c.progress.slots

instance (s : State) (id : ArtifactId) : Decidable (FreshArtifact s id) :=
  inferInstanceAs (Decidable (_ ∧ _))

/-- `SELECT … WHERE expires_at<NOW() LIMIT 100`, in no order. -/
def SelectsExpired (s : State) (ids : List ArtifactId) : Prop :=
  ids.Nodup ∧
    (∀ id ∈ ids, (s.artifacts.get? id).any (fun artifact => artifact.expiresAt < s.now) = true) ∧
    ids.length = min 100 (s.artifacts.rows.filter fun artifact => artifact.expiresAt < s.now).length

instance (s : State) (ids : List ArtifactId) : Decidable (SelectsExpired s ids) :=
  inferInstanceAs (Decidable (_ ∧ _))

def replaceObject (new old : StoredObject) : StoredObject :=
  { old with size := new.size, contentType := new.contentType, eTag := new.eTag }

variable (fingerprint : BaselineRun → String → String)

/-- **One statement, of the store or of the database.**  `none` when it is refused. -/
def step (s : State) : Action → Option State
  | .tick elapsed => some { s with now := s.now + elapsed }
  | .startRun call run slots =>
    if slots.Nodup ∧ ∀ id ∈ slots, FreshArtifact s id then
      (s.calls.insert ⟨call, .storing run slots []⟩).map fun calls => { s with calls }
    else none
  | .upload call slot size contentType eTag =>
    match s.progress call with
    | some (.storing run slots _) =>
      if slot ∈ slots then
        some { s with
          objects := s.objects.upsert replaceObject (fun _ => ⟨fun _ => rfl⟩)
            ⟨run.objectKey slot, size, contentType, eTag⟩ }
      else none
    | _ => none
  | .persist call payload success =>
    match s.progress call with
    | some (.storing run slots persisted) =>
      if payload.uploadID ∈ slots ∧ payload.uploadID ∉ persisted then
        (s.objects.get? (run.objectKey payload.uploadID)).bind fun info =>
          (capturedArtifact s.now run success payload info).bind fun artifact =>
            (s.artifacts.insert artifact).map fun artifacts =>
              { s.setProgress call (.storing run slots (payload.uploadID :: persisted)) with
                artifacts }
      else none
    | _ => none
  | .finishRun call kept =>
    match s.progress call with
    | some (.storing run slots persisted) =>
      some { s.endCall call with
        objects := s.objects.deleteWhere fun object =>
          ∃ id ∈ slots, object.key = run.objectKey id ∧ id ∉ persisted ∧ id ∉ kept }
    | _ => none
  | .proposeBaseline baselineID monitorID run artifactID checkpointID =>
    match s.artifacts.get? artifactID with
    | none => none
    | some artifact =>
      if run.monitorId = monitorID ∧ artifact.runId = run.id ∧ artifact.monitorId = monitorID then
        (s.baselines.insert
          (proposedBaseline fingerprint baselineID run artifactID checkpointID)).map
            fun baselines => { s with baselines }
      else none
  | .readBaseline call baselineID =>
    match s.baselines.get? baselineID with
    | none => none
    | some b =>
      (s.calls.insert ⟨call, .approving baselineID b.monitorId b.fingerprint⟩).map fun calls =>
        { s with calls }
  | .approveBaseline call actor =>
    match s.progress call with
    | some (.approving baselineID monitorID fingerprint) =>
      some { s.endCall call with
        baselines := approveBaseline baselineID monitorID fingerprint actor s.now s.baselines }
    | _ => none
  | .deleteBaseline baselineID =>
    some { s with baselines := s.baselines.deleteWhere fun b => b.id = baselineID }
  | .startPurge call ids =>
    if SelectsExpired s ids then
      let items := ids.filterMap fun id =>
        (s.artifacts.get? id).map fun artifact => ⟨artifact.id, artifact.objectKey⟩
      (s.calls.insert ⟨call, .purging items false⟩).map fun calls => { s with calls }
    else none
  | .deleteObject call fails =>
    match s.progress call with
    | some (.purging (item :: items) false) =>
      if fails then some (s.setProgress call (.purging items false))
      else
        some { s.setProgress call (.purging (item :: items) true) with
          objects := s.objects.deleteWhere fun object => object.key = item.key }
    | _ => none
  | .deleteRow call fails =>
    match s.progress call with
    | some (.purging (item :: items) true) =>
      let moved := s.setProgress call (.purging items false)
      -- `ON DELETE RESTRICT`
      if fails = true ∨ s.baselines.any (fun b => b.artifactId = item.id) = true then some moved
      else
        some { moved with
          artifacts := s.artifacts.deleteWhere fun artifact => artifact.id = item.id }
    | _ => none
  | .finishPurge call =>
    match s.progress call with
    | some (.purging [] false) => some (s.endCall call)
    | _ => none
  | .crash call =>
    match s.progress call with
    | some _ => some (s.endCall call)
    | none => none

/-! ## What a statement does -/

def Stored (s : State) (key : ObjectKey) : Prop := ∃ object ∈ s.objects, object.key = key

/-- **What a statement does.**  Most of them open, move or close a call; the others put an object,
insert a row, change the baselines, or are the two deletions of a purge. -/
inductive Moves (s : State) : Action → State → Prop
  | tick {a now} : Moves s a { s with now }
  | open {a c calls} (hinsert : s.calls.insert c = some calls)
      (hslots : ∀ id ∈ c.progress.slots, FreshArtifact s id)
      (hitems : ∀ item ∈ c.progress.items, ∃ row ∈ s.artifacts, item = ⟨row.id, row.objectKey⟩) :
      Moves s a { s with calls }
  | upload {a objects}
      (hkept : ∀ object ∈ s.objects, ∃ object' ∈ objects, object'.key = object.key) :
      Moves s a { s with objects }
  | persist {a call run slots persisted artifact artifacts}
      (hcall : s.calls.get? call = some ⟨call, .storing run slots persisted⟩)
      (hslot : artifact.id ∈ slots) (hstored : Stored s artifact.objectKey)
      (hkey : artifact.objectKey.artifactId = artifact.id)
      (hinsert : s.artifacts.insert artifact = some artifacts) :
      Moves s a
        { s.setProgress call (.storing run slots (artifact.id :: persisted)) with artifacts }
  | finishRun {a call run slots persisted objects}
      (hcall : s.calls.get? call = some ⟨call, .storing run slots persisted⟩)
      (hkept : ∀ object ∈ s.objects,
        object ∈ objects ∨ ∃ id ∈ slots, object.key.artifactId = id ∧ id ∉ persisted) :
      Moves s a { s.endCall call with objects }
  | refer {a calls baselines} (hclosed : ∀ c ∈ s.calls, c ∈ calls ∨ c.progress.emptied = none)
      (hopen : ∀ c ∈ calls, c ∈ s.calls)
      (hrefs : ∀ b ∈ baselines, (∃ old ∈ s.baselines, old.artifactId = b.artifactId) ∨
        ∃ row, s.artifacts.get? b.artifactId = some row) :
      Moves s a { s with calls, baselines }
  | skip {a call item items}
      (hcall : s.calls.get? call = some ⟨call, .purging (item :: items) false⟩) :
      Moves s a (s.setProgress call (.purging items false))
  | deleteObject {a call item items}
      (hcall : s.calls.get? call = some ⟨call, .purging (item :: items) false⟩) :
      Moves s a
        { s.setProgress call (.purging (item :: items) true) with
          objects := s.objects.deleteWhere fun object => object.key = item.key }
  | keepRow {call fails item items}
      (hcall : s.calls.get? call = some ⟨call, .purging (item :: items) true⟩)
      (hkeeps : fails = true ∨ ∃ b ∈ s.baselines, b.artifactId = item.id) :
      Moves s (.deleteRow call fails) (s.setProgress call (.purging items false))
  | deleteRow {call fails item items}
      (hcall : s.calls.get? call = some ⟨call, .purging (item :: items) true⟩)
      (hfree : ∀ b ∈ s.baselines, b.artifactId ≠ item.id) :
      Moves s (.deleteRow call fails)
        { s.setProgress call (.purging items false) with
          artifacts := s.artifacts.deleteWhere fun artifact => artifact.id = item.id }
  | close {a call progress} (hcall : s.calls.get? call = some ⟨call, progress⟩)
      (hnone : progress.emptied = none) : Moves s a (s.endCall call)
  | crash {call progress} (hcall : s.calls.get? call = some ⟨call, progress⟩) :
      Moves s (.crash call) (s.endCall call)

variable {fingerprint} {s s' : State} {a : Action}

variable {call : CallId}

theorem get?_of_progress {progress : Progress}
    (h : s.progress call = some progress) : s.calls.get? call = some ⟨call, progress⟩ := by
  obtain ⟨c, hc, rfl⟩ := Option.map_eq_some_iff.mp h
  rw [hc]
  obtain rfl := Table.key_of_get? hc
  rfl

theorem capturedArtifact_eq_some {now : Time} {run : RunContext} {success : Bool}
    {payload : ArtifactPayload} {info : StoredObject} {artifact : Artifact}
    (h : capturedArtifact now run success payload info = some artifact) :
    artifact.id = payload.uploadID ∧ artifact.objectKey = run.objectKey payload.uploadID := by
  grind [capturedArtifact, Option.some.inj]

theorem persist_moves {payload : ArtifactPayload} {success : Bool}
    (h : step fingerprint s (.persist call payload success) = some s') :
    Moves s (.persist call payload success) s' := by
  simp only [step] at h
  split at h
  · rename_i run slots persisted hprogress
    split at h
    · rename_i hslot
      obtain ⟨info, hinfo, h⟩ := Option.bind_eq_some_iff.mp h
      obtain ⟨artifact, hartifact, h⟩ := Option.bind_eq_some_iff.mp h
      obtain ⟨artifacts, hinsert, rfl⟩ := Option.map_eq_some_iff.mp h
      obtain ⟨hid, hkey⟩ := capturedArtifact_eq_some hartifact
      obtain ⟨hobject, hobjectKey⟩ := Table.get?_eq_some_iff.mp hinfo
      rw [← hid] at hslot ⊢
      refine .persist (get?_of_progress hprogress) hslot.1 ⟨info, hobject, ?_⟩ ?_ hinsert
      · rw [hobjectKey, hkey]
      · rw [hkey, hid]
        rfl
    · contradiction
  · contradiction

theorem finishRun_moves {kept : List ArtifactId}
    (h : step fingerprint s (.finishRun call kept) = some s') :
    Moves s (.finishRun call kept) s' := by
  simp only [step] at h
  split at h
  · rename_i run slots persisted hprogress
    cases h
    refine .finishRun (get?_of_progress hprogress) fun object hobject => ?_
    by_cases hcleaned : ∃ id ∈ slots, object.key = run.objectKey id ∧ id ∉ persisted ∧ id ∉ kept
    · obtain ⟨id, hslot, hkey, hnot, -⟩ := hcleaned
      exact .inr ⟨id, hslot, congrArg ObjectKey.artifactId hkey, hnot⟩
    · exact .inl (Table.mem_deleteWhere.mpr ⟨hobject, hcleaned⟩)
  · contradiction

theorem proposeBaseline_moves {baselineID : BaselineId} {monitorID : MonitorId} {run : BaselineRun}
    {artifactID : ArtifactId} {checkpointID : String}
    (h : step fingerprint s
      (.proposeBaseline baselineID monitorID run artifactID checkpointID) = some s') :
    Moves s (.proposeBaseline baselineID monitorID run artifactID checkpointID) s' := by
  simp only [step] at h
  split at h
  · contradiction
  · rename_i artifact hartifact
    split at h
    · obtain ⟨baselines, hinsert, rfl⟩ := Option.map_eq_some_iff.mp h
      refine .refer (fun c hc => .inl hc) (fun c hc => hc) fun b hb => ?_
      rcases Table.mem_insert hinsert hb with hold | rfl
      · exact .inl ⟨b, hold, rfl⟩
      · exact .inr ⟨artifact, hartifact⟩
    · contradiction

theorem approveBaseline_moves {actor : String}
    (h : step fingerprint s (.approveBaseline call actor) = some s') :
    Moves s (.approveBaseline call actor) s' := by
  simp only [step] at h
  split at h
  · rename_i baselineID monitorID print hprogress
    cases h
    have hcall := get?_of_progress hprogress
    refine .refer (fun c hc => ?_) (fun c hc => (Table.mem_deleteWhere.mp hc).1) fun b hb => ?_
    · by_cases hid : c.id = call
      · rw [← hid, Table.get?_of_mem hc, Option.some.injEq] at hcall
        rw [hcall]
        exact .inr rfl
      · exact .inl (Table.mem_deleteWhere.mpr ⟨hc, hid⟩)
    · grind [approveBaseline, Table.mem_update]
  · contradiction

theorem startPurge_moves {ids : List ArtifactId}
    (h : step fingerprint s (.startPurge call ids) = some s') :
    Moves s (.startPurge call ids) s' := by
  simp only [step] at h
  split at h
  · obtain ⟨calls, hinsert, rfl⟩ := Option.map_eq_some_iff.mp h
    refine .open hinsert (fun id hid => absurd hid List.not_mem_nil) fun item hitem => ?_
    obtain ⟨id, hid, hitem⟩ := List.mem_filterMap.mp hitem
    obtain ⟨artifact, hartifact, rfl⟩ := Option.map_eq_some_iff.mp hitem
    exact ⟨artifact, Table.mem_of_get? hartifact, rfl⟩
  · contradiction

theorem deleteRow_moves {fails : Bool} (h : step fingerprint s (.deleteRow call fails) = some s') :
    Moves s (.deleteRow call fails) s' := by
  simp only [step] at h
  split at h
  · rename_i item items hprogress
    have hcall := get?_of_progress hprogress
    split at h
    · rename_i hkeeps
      cases h
      rw [Table.any_eq_true] at hkeeps
      exact .keepRow hcall hkeeps
    · rename_i hgoes
      cases h
      rw [not_or, Table.any_eq_true] at hgoes
      exact .deleteRow hcall fun b hb hid => hgoes.2 ⟨b, hb, hid⟩
  · contradiction

theorem step_moves (h : step fingerprint s a = some s') : Moves s a s' := by
  cases a with
  | tick elapsed =>
    cases h
    exact .tick
  | startRun call run slots =>
    simp only [step] at h
    split at h
    · rename_i hfresh
      obtain ⟨calls, hinsert, rfl⟩ := Option.map_eq_some_iff.mp h
      exact .open hinsert hfresh.2 fun item hitem => absurd hitem List.not_mem_nil
    · contradiction
  | upload call slot size contentType eTag =>
    simp only [step] at h
    split at h
    · split at h
      · cases h
        refine .upload fun object hobject => ?_
        exact Table.exists_key_of_upsert hobject
      · contradiction
    · contradiction
  | persist => exact persist_moves h
  | finishRun => exact finishRun_moves h
  | proposeBaseline => exact proposeBaseline_moves h
  | readBaseline call baselineID =>
    simp only [step] at h
    split at h
    · contradiction
    · obtain ⟨calls, hinsert, rfl⟩ := Option.map_eq_some_iff.mp h
      exact .open hinsert (fun id hid => absurd hid List.not_mem_nil)
        fun item hitem => absurd hitem List.not_mem_nil
  | approveBaseline => exact approveBaseline_moves h
  | deleteBaseline baselineID =>
    cases h
    refine .refer (fun c hc => .inl hc) (fun c hc => hc) fun b hb => ?_
    exact .inl ⟨b, (Table.mem_deleteWhere.mp hb).1, rfl⟩
  | startPurge => exact startPurge_moves h
  | deleteObject call fails =>
    simp only [step] at h
    split at h
    · rename_i item items hprogress
      have hcall := get?_of_progress hprogress
      split at h
      · cases h
        exact .skip hcall
      · cases h
        exact .deleteObject hcall
    · contradiction
  | deleteRow => exact deleteRow_moves h
  | finishPurge call =>
    simp only [step] at h
    split at h
    · rename_i hprogress
      cases h
      exact .close (get?_of_progress hprogress) rfl
    · contradiction
  | crash call =>
    simp only [step] at h
    split at h
    · rename_i progress hprogress
      cases h
      exact .crash (get?_of_progress hprogress)
    · contradiction

/-! ## Keys, slots and references -/

/-- What every run keeps: a key names its artifact, the row of an open run's slot is one that the
run has inserted, no two open runs have one slot, and a baseline refers to a row. -/
structure Inv (s : State) : Prop where
  keys : ∀ row ∈ s.artifacts, row.objectKey.artifactId = row.id
  items : ∀ c ∈ s.calls, ∀ item ∈ c.progress.items, item.key.artifactId = item.id
  slots : ∀ c ∈ s.calls, ∀ row ∈ s.artifacts, row.id ∈ c.progress.slots →
    row.id ∈ c.progress.persisted
  apart : ∀ c ∈ s.calls, ∀ other ∈ s.calls, ∀ id ∈ c.progress.slots,
    id ∈ other.progress.slots → c = other
  refs : ∀ b ∈ s.baselines, ∃ row, s.artifacts.get? b.artifactId = some row

theorem inv_initial (now : Time) : Inv (initial now) where
  keys row hrow := absurd hrow (Table.not_mem_empty row)
  items c hc := absurd hc (Table.not_mem_empty c)
  slots c hc := absurd hc (Table.not_mem_empty c)
  apart c hc := absurd hc (Table.not_mem_empty c)
  refs b hb := absurd hb (Table.not_mem_empty b)

variable {progress progress' : Progress} {c : Call}

theorem mem_setProgress (hcall : s.calls.get? call = some ⟨call, progress⟩) :
    c ∈ (s.setProgress call progress').calls ↔
      c = ⟨call, progress'⟩ ∨ c ∈ s.calls ∧ c.id ≠ call :=
  Table.mem_update_key (f := fun c => { c with progress := progress' }) ⟨fun _ => rfl⟩ hcall

theorem mem_endCall :
    c ∈ (s.endCall call).calls ↔ c ∈ s.calls ∧ c.id ≠ call :=
  Table.mem_deleteWhere

theorem Inv.setProgress (hs : Inv s)
    (hcall : s.calls.get? call = some ⟨call, progress⟩) (hslots : progress'.slots = progress.slots)
    (hpersisted : ∀ id ∈ progress.persisted, id ∈ progress'.persisted)
    (hitems : ∀ item ∈ progress'.items, item ∈ progress.items) :
    Inv (s.setProgress call progress') := by
  obtain ⟨hkeys, hitems', hslots', hapart, hrefs⟩ := hs
  have hc := Table.mem_of_get? hcall
  refine ⟨hkeys, fun c hc' item hitem => ?_, fun c hc' row hrow hslot => ?_,
    fun c hc' other hother id hid hid' => ?_, hrefs⟩
  · rcases (mem_setProgress hcall).mp hc' with rfl | ⟨hc', -⟩
    · exact hitems' _ hc item (hitems item hitem)
    · exact hitems' c hc' item hitem
  · rcases (mem_setProgress hcall).mp hc' with rfl | ⟨hc', -⟩
    · rw [hslots] at hslot
      exact hpersisted _ (hslots' _ hc row hrow hslot)
    · exact hslots' c hc' row hrow hslot
  · grind [mem_setProgress]

theorem Inv.endCall (hs : Inv s) (call : CallId) : Inv (s.endCall call) where
  keys := hs.keys
  items c hc := hs.items c (mem_endCall.mp hc).1
  slots c hc := hs.slots c (mem_endCall.mp hc).1
  apart c hc other hother := hs.apart c (mem_endCall.mp hc).1 other (mem_endCall.mp hother).1
  refs := hs.refs

theorem Inv.step (hs : Inv s) (h : Moves s a s') : Inv s' := by
  obtain ⟨hkeys, hitems, hslots, hapart, hrefs⟩ := id hs
  cases h with
  | tick | upload => exact ⟨hkeys, hitems, hslots, hapart, hrefs⟩
  | @«open» a c calls hinsert hfresh hselected =>
    refine ⟨hkeys, fun d hd item hitem => ?_, fun d hd row hrow hslot => ?_,
      fun d hd other hother id hid hid' => ?_, hrefs⟩
    · rcases Table.mem_insert hinsert hd with hd | rfl
      · exact hitems d hd item hitem
      · obtain ⟨row, hrow, rfl⟩ := hselected item hitem
        exact hkeys row hrow
    · rcases Table.mem_insert hinsert hd with hd | rfl
      · exact hslots d hd row hrow hslot
      · have hget := (hfresh _ hslot).1
        rw [Table.get?_of_mem hrow] at hget
        contradiction
    · rcases Table.mem_insert hinsert hd with hd | rfl
      · rcases Table.mem_insert hinsert hother with hother | rfl
        · exact hapart d hd other hother id hid hid'
        · exact absurd hid ((hfresh id hid').2 d hd)
      · rcases Table.mem_insert hinsert hother with hother | rfl
        · exact absurd hid' ((hfresh id hid).2 other hother)
        · rfl
  | @persist a call run slots persisted artifact artifacts hcall hslot hstored hkey hinsert =>
    have hmoved : Inv (s.setProgress call (.storing run slots (artifact.id :: persisted))) :=
      hs.setProgress hcall rfl (fun id hid => List.mem_cons_of_mem _ hid) fun item hitem => hitem
    refine ⟨fun row hrow => ?_, hmoved.items, fun c hc row hrow hin => ?_, hmoved.apart,
      fun b hb => ?_⟩
    · rcases Table.mem_insert hinsert hrow with hrow | rfl
      · exact hkeys row hrow
      · exact hkey
    · rcases Table.mem_insert hinsert hrow with hrow | rfl
      · exact hmoved.slots c hc row hrow hin
      · rcases (mem_setProgress hcall).mp hc with rfl | ⟨hc, hne⟩
        · exact List.mem_cons_self
        · -- the slot belongs to the run that inserts its row
          have hsame := hapart c hc _ (Table.mem_of_get? hcall) _ hin hslot
          exact absurd (hsame ▸ rfl) hne
    · obtain ⟨row, hrow⟩ := hrefs b hb
      refine ⟨row, ?_⟩
      rw [Table.get?_insert hinsert, hrow, Option.some_or]
  | @finishRun a call run slots persisted objects hcall hkept =>
    have hended := hs.endCall call
    exact ⟨hended.keys, hended.items, hended.slots, hended.apart, hended.refs⟩
  | refer hclosed hopen hnew =>
    refine ⟨hkeys, fun c hc => hitems c (hopen c hc), fun c hc => hslots c (hopen c hc),
      fun c hc other hother => hapart c (hopen c hc) other (hopen other hother), fun b hb => ?_⟩
    rcases hnew b hb with ⟨old, hold, hsame⟩ | hrow
    · rw [← hsame]
      exact hrefs old hold
    · exact hrow
  | skip hcall | keepRow hcall =>
    exact hs.setProgress hcall rfl (fun id hid => hid) fun item => List.mem_cons_of_mem _
  | deleteObject hcall =>
    have hmoved : Inv (s.setProgress _ (.purging _ true)) :=
      hs.setProgress hcall rfl (fun id hid => hid) fun item hitem => hitem
    exact ⟨hmoved.keys, hmoved.items, hmoved.slots, hmoved.apart, hmoved.refs⟩
  | @deleteRow call fails item items hcall hfree =>
    have hmoved : Inv (s.setProgress call (.purging items false)) :=
      hs.setProgress hcall rfl (fun id hid => hid) fun item hitem => List.mem_cons_of_mem _ hitem
    refine ⟨fun row hrow => hkeys row (Table.mem_deleteWhere.mp hrow).1, hmoved.items,
      fun c hc row hrow => hmoved.slots c hc row (Table.mem_deleteWhere.mp hrow).1, hmoved.apart,
      fun b hb => ?_⟩
    obtain ⟨row, hrow⟩ := hrefs b hb
    refine ⟨row, ?_⟩
    have hid := Table.key_of_get? hrow
    rw [Table.get?_deleteWhere, hrow, Option.bind_some, if_neg]
    rw [hid]
    exact hfree b hb
  | close | crash => exact hs.endCall _

/-! ## The row follows its object -/

/-- Every row has its object, or a purge is about to delete the row. -/
def Covered (s : State) : Prop :=
  ∀ row ∈ s.artifacts, Stored s row.objectKey ∨
    ∃ c ∈ s.calls, ∃ item, c.progress.emptied = some item ∧ item.id = row.id

/-- Once a purge has deleted the object of a row, the row follows: its `DELETE` does not fail, no
baseline refers to the row then, and the call is not interrupted before. -/
def RowFollowsObject (s : State) : Action → Prop
  | .deleteRow call fails =>
    ∀ item ∈ (s.progress call).bind Progress.emptied, ∀ row ∈ s.artifacts, row.id = item.id →
      ¬ Stored s row.objectKey → fails = false ∧ ∀ b ∈ s.baselines, b.artifactId ≠ item.id
  | .crash call =>
    ∀ item ∈ (s.progress call).bind Progress.emptied, ∀ row ∈ s.artifacts,
      ¬ Stored s row.objectKey → row.id ≠ item.id
  | _ => True

instance (s : State) (key : ObjectKey) : Decidable (Stored s key) :=
  inferInstanceAs (Decidable (∃ object ∈ s.objects, object.key = key))

instance (s : State) (a : Action) : Decidable (RowFollowsObject s a) := by
  unfold RowFollowsObject
  split <;> infer_instance

variable {item : Expired}

theorem emptied_of_get? {progress : Progress}
    (hcall : s.calls.get? call = some ⟨call, progress⟩) (h : progress.emptied = some item) :
    item ∈ (s.progress call).bind Progress.emptied := by
  rw [State.progress, hcall]
  exact h

theorem Covered.mono (hcovered : Covered s) (hartifacts : ∀ row ∈ s'.artifacts, row ∈ s.artifacts)
    (hobjects : ∀ row ∈ s'.artifacts, Stored s row.objectKey → Stored s' row.objectKey)
    (hcalls : ∀ row ∈ s'.artifacts, ¬ Stored s row.objectKey → ∀ c ∈ s.calls, ∀ item,
      c.progress.emptied = some item → item.id = row.id → c ∈ s'.calls) : Covered s' := by
  intro row hrow
  by_cases hstored : Stored s row.objectKey
  · exact .inl (hobjects row hrow hstored)
  · rcases hcovered row (hartifacts row hrow) with hstored' | ⟨c, hc, item, hitem, hid⟩
    · exact absurd hstored' hstored
    · exact .inr ⟨c, hcalls row hrow hstored c hc item hitem hid, item, hitem, hid⟩

theorem mem_setProgress_of_emptied (hcall : s.calls.get? call = some ⟨call, progress⟩)
    (hnone : progress.emptied = none) (hc : c ∈ s.calls) (hitem : c.progress.emptied = some item) :
    c ∈ (s.setProgress call progress').calls := by
  refine (mem_setProgress hcall).mpr (.inr ⟨hc, fun hid => ?_⟩)
  rw [← hid, Table.get?_of_mem hc, Option.some.injEq] at hcall
  rw [hcall, hnone] at hitem
  contradiction

theorem mem_endCall_of_emptied {progress : Progress}
    (hcall : s.calls.get? call = some ⟨call, progress⟩)
    (hnone : progress.emptied = none) (hc : c ∈ s.calls) (hitem : c.progress.emptied = some item) :
    c ∈ (s.endCall call).calls := by
  refine mem_endCall.mpr ⟨hc, fun hid => ?_⟩
  rw [← hid, Table.get?_of_mem hc, Option.some.injEq] at hcall
  rw [hcall, hnone] at hitem
  contradiction

/-- **One statement keeps the rows covered**, when the row follows its object. -/
theorem Covered.step (hcovered : Covered s) (hs : Inv s) (h : Moves s a s')
    (hfollows : RowFollowsObject s a) : Covered s' := by
  cases h with
  | tick => exact hcovered
  | @«open» a c calls hinsert hfresh hselected =>
    refine hcovered.mono (fun row hrow => hrow) (fun row hrow hstored => hstored)
      fun row hrow _ d hd item hitem hid => ?_
    rw [Table.mem_def, (Table.insert_eq_some_iff.mp hinsert).2]
    exact List.mem_append_left _ hd
  | upload hkept =>
    refine hcovered.mono (fun row hrow => hrow) (fun row hrow hstored => ?_)
      fun row hrow _ c hc item hitem hid => hc
    obtain ⟨object, hobject, hkey⟩ := hstored
    obtain ⟨object', hobject', hkey'⟩ := hkept object hobject
    exact ⟨object', hobject', hkey'.trans hkey⟩
  | @persist a call run slots persisted artifact artifacts hcall hslot hstored hkey hinsert =>
    intro row hrow
    rcases Table.mem_insert hinsert hrow with hrow | rfl
    · rcases hcovered row hrow with hstored | ⟨c, hc, item, hitem, hid⟩
      · exact .inl hstored
      · exact .inr ⟨c, mem_setProgress_of_emptied hcall rfl hc hitem, item, hitem, hid⟩
    · exact .inl hstored
  | @finishRun a call run slots persisted objects hcall hkept =>
    refine hcovered.mono (fun row hrow => hrow) (fun row hrow hstored => ?_)
      fun row hrow _ c hc item hitem hid => mem_endCall_of_emptied hcall rfl hc hitem
    obtain ⟨object, hobject, hkey⟩ := hstored
    rcases hkept object hobject with hstays | ⟨id, hslot, hid, hnot⟩
    · exact ⟨object, hstays, hkey⟩
    · -- a slot whose object is cleaned up has no row
      rw [hkey, hs.keys row hrow] at hid
      subst hid
      exact absurd (hs.slots _ (Table.mem_of_get? hcall) row hrow hslot) hnot
  | refer hclosed hopen hrefs =>
    refine hcovered.mono (fun row hrow => hrow) (fun row hrow hstored => hstored)
      fun row hrow _ c hc item hitem hid => ?_
    rcases hclosed c hc with hstays | hnone
    · exact hstays
    · rw [hnone] at hitem
      contradiction
  | skip hcall =>
    exact hcovered.mono (fun row hrow => hrow) (fun row hrow hstored => hstored)
      fun row hrow _ c hc item hitem hid => mem_setProgress_of_emptied hcall rfl hc hitem
  | @deleteObject a call item items hcall =>
    have hitem : item.key.artifactId = item.id :=
      hs.items _ (Table.mem_of_get? hcall) item List.mem_cons_self
    intro row hrow
    by_cases hid : row.id = item.id
    · exact .inr ⟨_, (mem_setProgress hcall).mpr (.inl rfl), item, rfl, hid.symm⟩
    · rcases hcovered row hrow with ⟨object, hobject, hkey⟩ | ⟨c, hc, other, hother, hsame⟩
      · refine .inl ⟨object, Table.mem_deleteWhere.mpr ⟨hobject, fun hgone => hid ?_⟩, hkey⟩
        rw [← hs.keys row hrow, ← hkey, hgone, hitem]
      · exact .inr ⟨c, mem_setProgress_of_emptied hcall rfl hc hother, other, hother, hsame⟩
  | @keepRow call fails item items hcall hkeeps =>
    have hgone : ∀ row ∈ s.artifacts, ¬ Stored s row.objectKey → row.id ≠ item.id := by
      intro row hrow hlost hid
      obtain ⟨hsucceeds, hfree⟩ := hfollows item (emptied_of_get? hcall rfl) row hrow hid hlost
      rcases hkeeps with hfails | ⟨b, hb, hrefers⟩
      · rw [hsucceeds] at hfails
        contradiction
      · exact hfree b hb hrefers
    refine hcovered.mono (fun row hrow => hrow) (fun row hrow hstored => hstored)
      fun row hrow hlost c hc other hother hid =>
        (mem_setProgress hcall).mpr (.inr ⟨hc, fun hsame => ?_⟩)
    rw [← hsame, Table.get?_of_mem hc, Option.some.injEq] at hcall
    rw [hcall] at hother
    obtain rfl := Option.some.inj hother
    exact hgone row hrow hlost hid.symm
  | @deleteRow call fails item items hcall hfree =>
    refine hcovered.mono (fun row hrow => (Table.mem_deleteWhere.mp hrow).1)
      (fun row hrow hstored => hstored)
      fun row hrow _ c hc other hother hid =>
        (mem_setProgress hcall).mpr (.inr ⟨hc, fun hsame => ?_⟩)
    rw [← hsame, Table.get?_of_mem hc, Option.some.injEq] at hcall
    rw [hcall] at hother
    obtain rfl := Option.some.inj hother
    exact (Table.mem_deleteWhere.mp hrow).2 hid.symm
  | close hcall hnone =>
    exact hcovered.mono (fun row hrow => hrow) (fun row hrow hstored => hstored)
      fun row hrow _ c hc item hitem hid => mem_endCall_of_emptied hcall hnone hc hitem
  | @crash call progress hcall =>
    refine hcovered.mono (fun row hrow => hrow) (fun row hrow hstored => hstored)
      fun row hrow hlost c hc item hitem hid => mem_endCall.mpr ⟨hc, fun hsame => ?_⟩
    have hcall' := hcall
    rw [← hsame, Table.get?_of_mem hc, Option.some.injEq] at hcall'
    rw [hcall'] at hitem
    exact hfollows item (emptied_of_get? hcall hitem) row hrow hlost hid.symm

/-! ## An approved baseline keeps its image -/

def Idle (s : State) : Prop := s.calls.rows = []

instance (s : State) : Decidable (Idle s) := inferInstanceAs (Decidable (_ = _))

/-- Every row has its object, every approved baseline its image, and no run misses one. -/
structure Kept (s : State) : Prop where
  rows : ∀ row ∈ s.artifacts, Stored s row.objectKey
  approved : ∀ b ∈ s.baselines, b.status = .approved →
    ∃ row, s.artifacts.get? b.artifactId = some row ∧ Stored s row.objectKey
  runner : ∀ monitorID revisionID,
    runnerBaselines monitorID revisionID s.objects s.artifacts s.baselines ≠ .error .objectMissing

theorem runnerBaseline_ne_missing {b : Baseline} {row : Artifact}
    (hstored : Stored s row.objectKey) :
    runnerBaseline s.objects b row ≠ .error .objectMissing := by
  obtain ⟨object, hobject, hkey⟩ := hstored
  have hget : s.objects.get? row.objectKey = some object := hkey ▸ Table.get?_of_mem hobject
  rw [runnerBaseline, hget]
  simp only
  split <;> simp

theorem kept_of_covered (hs : Inv s) (hcovered : Covered s) (hidle : Idle s) : Kept s := by
  have hrows : ∀ row ∈ s.artifacts, Stored s row.objectKey := by
    intro row hrow
    rcases hcovered row hrow with hstored | ⟨c, hc, -⟩
    · exact hstored
    · rw [Table.mem_def, hidle] at hc
      exact absurd hc List.not_mem_nil
  refine ⟨hrows, fun b hb _ => ?_, fun monitorID revisionID hmissing => ?_⟩
  · obtain ⟨row, hrow⟩ := hs.refs b hb
    exact ⟨row, hrow, hrows row (Table.mem_of_get? hrow)⟩
  · obtain ⟨⟨b, row⟩, hjoined, hfails⟩ := Fallible.exists_of_mapM_eq_error hmissing
    obtain ⟨b', -, hjoin⟩ := List.mem_filterMap.mp hjoined
    split at hjoin
    · obtain ⟨row', hrow', heq⟩ := Option.map_eq_some_iff.mp hjoin
      cases heq
      exact runnerBaseline_ne_missing (hrows _ (Table.mem_of_get? hrow')) hfails
    · contradiction

/-- **An approved baseline keeps its image.**  In a run in which every row follows its object, each
state without an open call has the object of every row and the image of every approved baseline,
and `runnerBaselines` misses none. -/
theorem images_kept (fingerprint : BaselineRun → String → String) (now : Time) (as : List Action)
    (h : Along (step fingerprint) (fun s a _ => RowFollowsObject s a) (initial now) as) :
    Along (step fingerprint) (fun _ _ s' => Idle s' → Kept s') (initial now) as := by
  refine Along.of_guard (I := fun s => Inv s ∧ Covered s) ?_
    ⟨inv_initial now, fun row hrow => absurd hrow (Table.not_mem_empty row)⟩ h
  rintro s a s' ⟨hs, hcovered⟩ hstep hfollows
  have hmoves := step_moves hstep
  have hs' := hs.step hmoves
  have hcovered' := hcovered.step hs hmoves hfollows
  exact ⟨⟨hs', hcovered'⟩, kept_of_covered hs' hcovered'⟩

def sampleRun (id : RunId) : RunContext := ⟨id, 1, 1, 24, 7⟩

def samplePayload (slot : ArtifactId) : ArtifactPayload :=
  ⟨slot, "SCREENSHOT", "home", "image/png", 3, "", true⟩

/-- A run stores its image, which is proposed and approved as a baseline. -/
def approvedImage (run : RunId) (slot : ArtifactId) : List Action :=
  [.startRun 0 (sampleRun run) [slot], .upload 0 slot 3 "image/png" "",
    .persist 0 (samplePayload slot) true, .finishRun 0 [],
    .proposeBaseline run 1 ⟨run, 1, 1, "140", "7", ""⟩ slot "home",
    .readBaseline 0 run, .approveBaseline 0 "operator"]

def purgeOne (slot : ArtifactId) : List Action :=
  [.startPurge 0 [slot], .deleteObject 0 false, .deleteRow 0 false, .finishPurge 0]

/-- A day later another image takes the place of the first, whose baseline is deleted before the
purge. -/
theorem images_kept_replaced :
    (runActions (step fun _ checkpoint => checkpoint) (initial 0)
        (approvedImage 1 10 ++ [.tick 90000000] ++ approvedImage 2 20 ++ [.deleteBaseline 1] ++
          purgeOne 10)).isSome = true ∧
      Along (step fun _ checkpoint => checkpoint) (fun _ _ s' => Idle s' → Kept s') (initial 0)
        (approvedImage 1 10 ++ [.tick 90000000] ++ approvedImage 2 20 ++ [.deleteBaseline 1] ++
          purgeOne 10) :=
  ⟨by decide +kernel, images_kept _ _ _ (by decide +kernel)⟩

/-- The image of an approved baseline expires and is purged. -/
theorem approved_image_purged :
    ∃ s, runActions (step fun _ checkpoint => checkpoint) (initial 0)
        (approvedImage 1 10 ++ [.tick 90000000] ++ purgeOne 10) = some s ∧ Idle s ∧ ¬ Kept s := by
  have hpurged : ((runActions (step fun _ checkpoint => checkpoint) (initial 0)
      (approvedImage 1 10 ++ [.tick 90000000] ++ purgeOne 10)).any fun s =>
        Idle s ∧ runnerBaselines 1 1 s.objects s.artifacts s.baselines =
          .error .objectMissing) = true := by
    decide +kernel
  obtain ⟨s, hrun, hstate⟩ := (Option.any_eq_true _ _).mp hpurged
  obtain ⟨hidle, hmissing⟩ := of_decide_eq_true hstate
  exact ⟨s, hrun, hidle, fun hkept => hkept.runner 1 1 hmissing⟩

end Rhythm.BrowserMonitors.Artifacts
