import Rhythm.Monitors.Lifecycle

/-!
# Rhythm.Monitors.Updates

Concurrent changes of the metadata of one monitor.  `Update` reads the monitor
with `Get`, merges its input into what it has read, and then writes all
metadata, if the row still has the update time that the caller expects.
`SaveDraft`, `SetState` and `Publish` write in one transaction each.

Every write is a version of the monitor; the versions are kept in a history,
newest first, in which it is said what an `Update` must leave as it was.
-/

namespace Rhythm.Monitors.Updates

open Text
open Lifecycle (Repository)

/-! ## Metadata -/

/-- The columns that `Update` writes. -/
structure Metadata where
  name : String
  slug : String
  description : String
  ownerId : String
  tags : List String
  environmentId : String
  deriving DecidableEq

def Metadata.errors (metadata : Metadata) : List FieldError :=
  validateMetadata metadata.name metadata.slug metadata.description metadata.ownerId metadata.tags

/-- `UpdateInput`; a field that is not in the body is `nil`. -/
structure UpdateInput where
  name : Option String
  slug : Option String
  description : Option String
  ownerId : Option String
  tags : Option (List String)
  environmentId : Option String
  deriving DecidableEq

def UpdateInput.merge (input : UpdateInput) (metadata : Metadata) : Metadata where
  name := (input.name.map trimSpace).getD metadata.name
  slug := (input.slug.map trimSpace).getD metadata.slug
  description := (input.description.map trimSpace).getD metadata.description
  ownerId := (input.ownerId.map trimSpace).getD metadata.ownerId
  tags := (input.tags.map fun tags => tags.map trimSpace).getD metadata.tags
  environmentId := (input.environmentId.map trimSpace).getD metadata.environmentId

/-- The two agree on every field that is not in the input. -/
structure AgreeOutside (input : UpdateInput) (a b : Metadata) : Prop where
  name : input.name = none → a.name = b.name
  slug : input.slug = none → a.slug = b.slug
  description : input.description = none → a.description = b.description
  ownerId : input.ownerId = none → a.ownerId = b.ownerId
  tags : input.tags = none → a.tags = b.tags
  environmentId : input.environmentId = none → a.environmentId = b.environmentId

theorem AgreeOutside.refl (input : UpdateInput) (a : Metadata) : AgreeOutside input a a :=
  ⟨fun _ => rfl, fun _ => rfl, fun _ => rfl, fun _ => rfl, fun _ => rfl, fun _ => rfl⟩

variable {input : UpdateInput}

theorem agreeOutside_merge (a : Metadata) :
    AgreeOutside input (input.merge a) a where
  name h := by simp [UpdateInput.merge, h]
  slug h := by simp [UpdateInput.merge, h]
  description h := by simp [UpdateInput.merge, h]
  ownerId h := by simp [UpdateInput.merge, h]
  tags h := by simp [UpdateInput.merge, h]
  environmentId h := by simp [UpdateInput.merge, h]

theorem AgreeOutside.trans {a b c : Metadata} (hab : AgreeOutside input a b)
    (hbc : AgreeOutside input b c) : AgreeOutside input a c where
  name h := (hab.name h).trans (hbc.name h)
  slug h := (hab.slug h).trans (hbc.slug h)
  description h := (hab.description h).trans (hbc.description h)
  ownerId h := (hab.ownerId h).trans (hbc.ownerId h)
  tags h := (hab.tags h).trans (hbc.tags h)
  environmentId h := (hab.environmentId h).trans (hbc.environmentId h)

theorem AgreeOutside.symm {a b : Metadata} (h : AgreeOutside input a b) :
    AgreeOutside input b a where
  name hnone := (h.name hnone).symm
  slug hnone := (h.slug hnone).symm
  description hnone := (h.description hnone).symm
  ownerId hnone := (h.ownerId hnone).symm
  tags hnone := (h.tags hnone).symm
  environmentId hnone := (h.environmentId hnone).symm

theorem agreeOutside_merge_iff {a b : Metadata} :
    AgreeOutside input (input.merge a) b ↔ AgreeOutside input a b :=
  ⟨(agreeOutside_merge a).symm.trans, (agreeOutside_merge a).trans⟩

/-! ## The monitor and its versions -/

/-- A row of `monitors`. -/
structure MonitorRow where
  metadata : Metadata
  monitor : Lifecycle.Monitor
  updatedBy : String
  updatedAt : Int
  deriving DecidableEq

/-- What an `Update` is called with. -/
structure Update where
  input : UpdateInput
  actorID : String
  expectedUpdatedAt : Int
  deriving DecidableEq

/-- The row after one write, and the `Update` that wrote it, if it was one. -/
structure Version where
  row : MonitorRow
  update : Option Update
  deriving DecidableEq

/-- A call of `Update`, with the monitor that its `Get` has answered. -/
structure Call where
  id : CallId
  update : Update
  read : Option MonitorRow
  deriving DecidableEq

theorem keepsKey_read (read : MonitorRow) :
    Table.KeepsKey Call.id fun call : Call => { call with read := some read } :=
  ⟨fun _ => rfl⟩

/-- The monitor with its earlier versions, its revisions, and the calls of `Update`. -/
structure State where
  latest : Version
  older : List Version
  revisions : List Revision
  calls : Table Call Call.id

def State.row (s : State) : MonitorRow := s.latest.row

def State.history (s : State) : List Version := s.latest :: s.older

def loaded (row : MonitorRow) (revisions : List Revision) : State where
  latest := ⟨row, none⟩
  older := []
  revisions := revisions
  calls := .empty

def State.push (s : State) (version : Version) : State :=
  { s with latest := version, older := s.history }

def State.finish (s : State) (callID : CallId) : State :=
  { s with calls := s.calls.deleteWhere fun call => call.id = callID }

/-! ## Writes -/

inductive UpdateError where
  | preconditionFailed
  | validation (fields : List FieldError)
  deriving DecidableEq

/-- The monitor that `Update` hands to the repository. -/
def Update.merged (update : Update) (read : MonitorRow) (now : Int) : MonitorRow :=
  { read with
    metadata := update.input.merge read.metadata
    updatedBy := update.actorID
    updatedAt := now }

/-- `Update` of a repository.  `taken` are the slugs of the other monitors.  PostgreSQL writes the
metadata; the memory repository replaces the whole monitor. -/
def updateRow (repository : Repository) (taken : List String) (merged : MonitorRow)
    (expectedUpdatedAt : Int) (row : MonitorRow) : Except UpdateError MonitorRow :=
  if row.updatedAt ≠ expectedUpdatedAt then .error .preconditionFailed
  else if merged.metadata.slug ∈ taken then
    .error (.validation [⟨"slug", "A monitor with this slug already exists."⟩])
  else
    match repository with
    | .postgres =>
      .ok { row with
        metadata := merged.metadata
        updatedBy := merged.updatedBy
        updatedAt := merged.updatedAt }
    | .memory => .ok merged

/-- The monitor and its revisions, for the transactions on them. -/
def State.lifecycle (s : State) : Lifecycle.State := ⟨s.row.monitor, s.revisions, .empty, .empty⟩

def State.touch (s : State) (actorID : String) (now : Int) (next : Lifecycle.State) : State :=
  { s with revisions := next.revisions }.push
    ⟨{ s.row with monitor := next.monitor, updatedBy := actorID, updatedAt := now }, none⟩

inductive Action where
  | beginUpdate (callID : CallId) (update : Update)
  /-- `Get`, and the check of the merged metadata. -/
  | get (callID : CallId)
  /-- `Update` of the repository. -/
  | write (callID : CallId) (now : Int) (taken : List String)
  | saveDraft (definition : Definition) (actorID : String) (now : Int)
  | setState (state : Scheduler.MonitorState) (enabled : Bool) (actorID : String) (now : Int)
  | publish (published : Revision) (nextID : RevisionId) (actorID : String) (now : Int)

/-- **One step of the calls on a monitor.** -/
def step (repository : Repository) (s : State) : Action → Option State
  | .beginUpdate callID update =>
    (s.calls.insert ⟨callID, update, none⟩).map fun calls => { s with calls }
  | .get callID =>
    match s.calls.get? callID with
    | some ⟨_, update, none⟩ =>
      if (update.input.merge s.row.metadata).errors = [] then
        some { s with
          calls := s.calls.update (fun call => call.id = callID)
            (fun call => { call with read := some s.row }) (keepsKey_read s.row) }
      else some (s.finish callID)
    | _ => none
  | .write callID now taken =>
    match s.calls.get? callID with
    | some ⟨_, update, some read⟩ =>
      match updateRow repository taken (update.merged read now) update.expectedUpdatedAt s.row with
      | .error _ => some (s.finish callID)
      | .ok row => some ((s.finish callID).push ⟨row, some update⟩)
    | _ => none
  | .saveDraft definition actorID now =>
    (Lifecycle.updateDraft definition s.lifecycle).map (s.touch actorID now)
  | .setState state enabled actorID now =>
    some (s.touch actorID now { s.lifecycle with monitor := { s.row.monitor with state, enabled } })
  | .publish published nextID actorID now =>
    (Lifecycle.publish repository published nextID s.lifecycle).map (s.touch actorID now)

/-! ## Kept metadata -/

/-- What a version has to do with the versions before it.  An `Update` follows a version with the
time that it expects; it leaves all metadata outside its input as that version has it, and no
other `Update` took effect in between. -/
def Version.Keeps (older : List Version) (version : Version) : Prop :=
  ∀ update, version.update = some update →
    (∃ base ∈ older, base.row.updatedAt = update.expectedUpdatedAt) ∧
    ∀ between base earlier, older = between ++ base :: earlier →
      base.row.updatedAt = update.expectedUpdatedAt →
      AgreeOutside update.input version.row.metadata base.row.metadata ∧
        ∀ other ∈ between, other.update = none

def Kept : List Version → Prop
  | [] => True
  | version :: older => version.Keeps older ∧ Kept older

def DistinctTimes (history : List Version) : Prop :=
  (history.map fun version => version.row.updatedAt).Nodup

/-- When an `Update` is about to take effect, the metadata that it has read is, outside its input,
that of the row. -/
def ReadsCurrent (s : State) : Action → State → Prop
  | .write callID _ taken, _ => ∀ update read,
      s.calls.get? callID = some ⟨callID, update, some read⟩ →
      s.row.updatedAt = update.expectedUpdatedAt →
      (update.input.merge read.metadata).slug ∉ taken →
      AgreeOutside update.input read.metadata s.row.metadata
  | _, _ => True

/-- A call that reads the monitor expects the time of a version that is there. -/
def ExpectsVersion (s : State) : Action → State → Prop
  | .get callID, _ => ∀ call, s.calls.get? callID = some call →
      ∃ version ∈ s.history, version.row.updatedAt = call.update.expectedUpdatedAt
  | _, _ => True

section

variable {repository : Repository} {s s' t : State} {a : Action} {as : List Action}

theorem updateRow_eq_ok {taken : List String} {merged row written : MonitorRow} {expected : Int}
    (h : updateRow repository taken merged expected row = .ok written) :
    row.updatedAt = expected ∧ merged.metadata.slug ∉ taken ∧
      written.metadata = merged.metadata := by
  unfold updateRow at h
  by_cases htime : row.updatedAt = expected
  · grind
  · rw [if_pos htime] at h
    cases h

theorem updateRow_eq_error {taken : List String} {merged row : MonitorRow} {expected : Int}
    {error : UpdateError} (h : updateRow repository taken merged expected row = .error error) :
    row.updatedAt ≠ expected ∨ merged.metadata.slug ∈ taken := by
  unfold updateRow at h
  by_cases htime : row.updatedAt = expected
  · grind
  · exact Or.inl htime

/-- **A step.**  It writes nothing, or a version that is no `Update`, or that of an `Update` whose
time is the row's. -/
theorem step_cases (h : step repository s a = some s') :
    (s'.history = s.history ∧ ReadsCurrent s a s') ∨
    (∃ version, s'.history = version :: s.history ∧ version.update = none ∧
      ReadsCurrent s a s') ∨
    ∃ callID now taken update read version, a = .write callID now taken ∧
      s.calls.get? callID = some ⟨callID, update, some read⟩ ∧
      s.row.updatedAt = update.expectedUpdatedAt ∧
      (update.input.merge read.metadata).slug ∉ taken ∧
      s'.history = version :: s.history ∧ version.update = some update ∧
      version.row.metadata = update.input.merge read.metadata := by
  cases a with
  | beginUpdate callID update =>
    obtain ⟨calls, -, rfl⟩ := Option.map_eq_some_iff.mp h
    exact Or.inl ⟨rfl, trivial⟩
  | get callID =>
    simp only [step] at h
    split at h
    · split at h <;> cases h <;> exact Or.inl ⟨rfl, trivial⟩
    · cases h
  | write callID now taken =>
    simp only [step] at h
    split at h
    · next found update read hcall =>
      have hid : found = callID := Table.key_of_get? hcall
      subst hid
      split at h
      · next error hrefused =>
        cases h
        refine Or.inl ⟨rfl, ?_⟩
        intro update' read' hcall' htime hslug
        rw [hcall] at hcall'
        cases hcall'
        cases updateRow_eq_error hrefused with
        | inl hne => exact absurd htime hne
        | inr hmem => exact absurd hmem hslug
      · next row hwritten =>
        cases h
        obtain ⟨htime, hslug, hmetadata⟩ := updateRow_eq_ok hwritten
        exact Or.inr (Or.inr ⟨found, now, taken, update, read, ⟨row, some update⟩, rfl, hcall,
          htime, hslug, rfl, rfl, hmetadata⟩)
    · cases h
  | saveDraft definition actorID now | publish published nextID actorID now =>
    obtain ⟨next, -, rfl⟩ := Option.map_eq_some_iff.mp h
    exact Or.inr (Or.inl ⟨_, rfl, rfl, trivial⟩)
  | setState state enabled actorID now =>
    cases h
    exact Or.inr (Or.inl ⟨_, rfl, rfl, trivial⟩)

theorem history_suffix_of_step (h : step repository s a = some s') :
    s.history <:+ s'.history := by
  obtain ⟨heq, -⟩ | ⟨version, heq, -, -⟩ | ⟨_, _, _, _, _, version, -, -, -, -, heq, -, -⟩ :=
    step_cases h
  · exact heq ▸ List.suffix_rfl
  · exact heq ▸ List.suffix_cons version s.history
  · exact heq ▸ List.suffix_cons version s.history

theorem history_suffix (h : runActions (step repository) s as = some t) :
    s.history <:+ t.history := by
  induction as generalizing s with
  | nil =>
    rw [runActions_nil, Option.some.injEq] at h
    exact h ▸ List.suffix_rfl
  | cons a as ih =>
    rw [runActions_cons, Option.bind_eq_some_iff] at h
    obtain ⟨s', hstep, hrest⟩ := h
    exact (history_suffix_of_step hstep).trans (ih hrest)

variable {history longer : List Version}

theorem DistinctTimes.suffix (h : DistinctTimes longer)
    (hsuffix : history <:+ longer) : DistinctTimes history :=
  h.sublist (hsuffix.sublist.map _)

theorem Kept.suffix (h : Kept longer) (hsuffix : history <:+ longer) : Kept history := by
  obtain ⟨newer, rfl⟩ := hsuffix
  induction newer with
  | nil => exact h
  | cons version newer ih => exact ih h.2

/-! ## Kept metadata along a run -/

theorem keeps_iff {update : Update} {version latest : Version} {older : List Version}
    (hupdate : version.update = some update) (hdistinct : DistinctTimes (latest :: older))
    (htime : latest.row.updatedAt = update.expectedUpdatedAt) :
    version.Keeps (latest :: older) ↔
      AgreeOutside update.input version.row.metadata latest.row.metadata := by
  constructor
  · intro hkeeps
    exact ((hkeeps update hupdate).2 [] latest older rfl htime).1
  · intro hagree update' hupdate'
    rw [hupdate, Option.some.injEq] at hupdate'
    subst hupdate'
    refine ⟨⟨latest, List.mem_cons_self, htime⟩, fun between base earlier heq hbase => ?_⟩
    cases between with
    | nil =>
      rw [List.nil_append, List.cons.injEq] at heq
      rw [← heq.1]
      exact ⟨hagree, fun _ hother => absurd hother List.not_mem_nil⟩
    | cons first between =>
      -- a version with the expected time further down would have the time of the latest one
      rw [List.cons_append, List.cons.injEq] at heq
      have hmem : base ∈ older := heq.2 ▸ List.mem_append_right between List.mem_cons_self
      have hfresh := (List.nodup_cons.mp hdistinct).1
      have hsame : latest.row.updatedAt = base.row.updatedAt := htime.trans hbase.symm
      exact absurd (List.mem_map.mpr ⟨base, hmem, hsame.symm⟩) hfresh

theorem keeps_of_no_update {version : Version} {older : List Version}
    (h : version.update = none) : version.Keeps older := by
  intro update hupdate
  rw [h] at hupdate
  cases hupdate

/-- **One step** keeps the metadata exactly when an `Update` that takes effect has read what it
leaves. -/
theorem kept_step_iff (h : step repository s a = some s') (hdistinct : DistinctTimes s.history)
    (hkept : Kept s.history) : Kept s'.history ↔ ReadsCurrent s a s' := by
  obtain ⟨heq, hreads⟩ | ⟨version, heq, hnone, hreads⟩ |
    ⟨callID, now, taken, update, read, version, rfl, hcall, htime, hslug, heq, hupdate, hrow⟩ :=
      step_cases h
  · exact iff_of_true (heq ▸ hkept) hreads
  · exact iff_of_true (heq ▸ ⟨keeps_of_no_update hnone, hkept⟩) hreads
  · have hkeeps : version.Keeps s.history ↔
        AgreeOutside update.input read.metadata s.row.metadata := by
      rw [State.history, keeps_iff hupdate hdistinct htime, hrow, agreeOutside_merge_iff]
      rfl
    rw [heq, Kept, hkeeps]
    constructor
    · rintro ⟨hagree, -⟩ update' read' hcall' - -
      rw [hcall] at hcall'
      cases hcall'
      exact hagree
    · exact fun hreads => ⟨hreads update read hcall htime hslug, hkept⟩

/-- **A run** keeps the metadata exactly when each of its `Update`s that take effect has read what
it leaves. -/
theorem kept_iff_along (hrun : runActions (step repository) s as = some t)
    (hdistinct : DistinctTimes t.history) (hkept : Kept s.history) :
    Kept t.history ↔ Along (step repository) ReadsCurrent s as := by
  induction as generalizing s with
  | nil =>
    rw [runActions_nil, Option.some.injEq] at hrun
    exact iff_of_true (hrun ▸ hkept) trivial
  | cons a as ih =>
    have hsuffix := history_suffix hrun
    rw [runActions_cons, Option.bind_eq_some_iff] at hrun
    obtain ⟨s', hstep, hrest⟩ := hrun
    have hiff := kept_step_iff hstep (hdistinct.suffix hsuffix) hkept
    rw [along_cons]
    constructor
    · intro ht s'' hstep''
      rw [hstep, Option.some.injEq] at hstep''
      subst hstep''
      have hkept' : Kept s'.history := ht.suffix (history_suffix hrest)
      exact ⟨hiff.mp hkept', (ih hrest hkept').mp ht⟩
    · intro hall
      obtain ⟨hreads, hlater⟩ := hall s' hstep
      exact (ih hrest (hiff.mpr hreads)).mpr hlater

theorem kept_loaded (row : MonitorRow) (revisions : List Revision) :
    Kept (loaded row revisions).history :=
  ⟨keeps_of_no_update rfl, trivial⟩

/-- **Metadata updates.**  In every run of the calls on a monitor whose writes have different
times, each `Update` that takes effect leaves the metadata outside its input as the version with
its expected time has it, with no other `Update` in between, if and only if the metadata that each
of them has read is, outside its input, that of the row when it writes. -/
theorem updates_kept_iff {row : MonitorRow} {revisions : List Revision}
    (hrun : runActions (step repository) (loaded row revisions) as = some t)
    (hdistinct : DistinctTimes t.history) :
    Kept t.history ↔ Along (step repository) ReadsCurrent (loaded row revisions) as :=
  kept_iff_along hrun hdistinct (kept_loaded row revisions)

/-! ## Expected times that a response has named -/

/-- What a call has read is a version, and the version that it expects is no later one. -/
def ExpectedRead (s : State) (call : Call) : Prop :=
  ∀ read, call.read = some read → ∃ newer base earlier, s.history = newer ++ base :: earlier ∧
    base.row = read ∧
    ∃ version ∈ base :: earlier, version.row.updatedAt = call.update.expectedUpdatedAt

theorem ExpectedRead.mono {call : Call} (h : ExpectedRead s call)
    (hsuffix : s.history <:+ s'.history) : ExpectedRead s' call := by
  intro read hread
  obtain ⟨newer, base, earlier, heq, hbase⟩ := h read hread
  obtain ⟨newest, hnewest⟩ := hsuffix
  refine ⟨newest ++ newer, base, earlier, ?_, hbase⟩
  rw [← hnewest, heq, List.append_assoc]

theorem mem_calls_step {call : Call} (h : step repository s a = some s') (hcall : call ∈ s'.calls) :
    call ∈ s.calls ∨ call.read = none ∨
      ∃ callID before, a = .get callID ∧ s.calls.get? callID = some before ∧
        call = { before with read := some s.row } := by
  cases a with
  | beginUpdate callID update =>
    obtain ⟨calls, hinsert, rfl⟩ := Option.map_eq_some_iff.mp h
    rcases Table.mem_insert hinsert hcall with hmem | rfl
    · exact Or.inl hmem
    · exact Or.inr (Or.inl rfl)
  | get callID =>
    simp only [step] at h
    split at h
    · next found update hfound =>
      split at h
      · grind [Table.mem_update_key]
      · cases h
        exact Or.inl (Table.mem_deleteWhere.mp hcall).1
    · cases h
  | write callID now taken =>
    simp only [step] at h
    split at h
    · split at h <;> cases h <;> exact Or.inl (Table.mem_deleteWhere.mp hcall).1
    · cases h
  | saveDraft definition actorID now | publish published nextID actorID now =>
    obtain ⟨next, -, rfl⟩ := Option.map_eq_some_iff.mp h
    exact Or.inl hcall
  | setState state enabled actorID now =>
    cases h
    exact Or.inl hcall

theorem expectedRead_step (h : step repository s a = some s')
    (hexpected : ∀ call ∈ s.calls, ExpectedRead s call) (hversion : ExpectsVersion s a s') :
    ∀ call ∈ s'.calls, ExpectedRead s' call := by
  have hsuffix := history_suffix_of_step h
  intro call hcall
  obtain hmem | hnone | ⟨callID, before, rfl, hbefore, rfl⟩ := mem_calls_step h hcall
  · exact (hexpected call hmem).mono hsuffix
  · intro read hread
    rw [hnone] at hread
    cases hread
  · have hread : ExpectedRead s { before with read := some s.row } := by
      intro read hread
      rw [Option.some.injEq] at hread
      exact ⟨[], s.latest, s.older, rfl, hread, hversion before hbefore⟩
    exact hread.mono hsuffix

/-- A call whose expected version was there when it read has read that very version, if it takes
effect. -/
theorem ExpectedRead.readsCurrent (hexpected : ∀ call ∈ s.calls, ExpectedRead s call)
    (hdistinct : DistinctTimes s.history) : ReadsCurrent s a s' := by
  cases a with
  | write callID now taken =>
    intro update read hcall htime _
    obtain ⟨newer, base, earlier, heq, rfl, version, hversion, hupdated⟩ :=
      hexpected _ (Table.mem_of_get? hcall) read rfl
    have hsame : version.row.updatedAt = s.row.updatedAt := hupdated.trans htime.symm
    cases newer with
    | nil =>
      rw [List.nil_append, State.history, List.cons.injEq] at heq
      rw [State.row, heq.1]
      exact AgreeOutside.refl _ _
    | cons first newer =>
      rw [State.history, List.cons_append, List.cons.injEq] at heq
      rw [State.history, heq.2, DistinctTimes, List.map_cons, List.nodup_cons] at hdistinct
      refine absurd (List.mem_map.mpr ⟨version, ?_, hsame⟩) hdistinct.1
      exact List.mem_append_right newer hversion
  | _ => trivial

/-- **Expected times from responses.**  No metadata is lost in a run whose `Update`s read the
monitor when the version that they expect is there already. -/
theorem kept_of_expectsVersion {row : MonitorRow} {revisions : List Revision}
    (hrun : runActions (step repository) (loaded row revisions) as = some t)
    (hdistinct : DistinctTimes t.history)
    (hversions : Along (step repository) ExpectsVersion (loaded row revisions) as) :
    Kept t.history := by
  have hcurrent : ∀ s, runActions (step repository) s as = some t →
      (∀ call ∈ s.calls, ExpectedRead s call) → Along (step repository) ExpectsVersion s as →
      Along (step repository) ReadsCurrent s as := by
    clear hrun hversions
    induction as with
    | nil => exact fun _ _ _ _ => trivial
    | cons a as ih =>
      intro s hrun hexpected hversions s' hstep
      have hsuffix := history_suffix hrun
      rw [runActions_cons, hstep, Option.bind_some] at hrun
      obtain ⟨hversion, hlater⟩ := hversions s' hstep
      exact ⟨ExpectedRead.readsCurrent hexpected (hdistinct.suffix hsuffix),
        ih s' hrun (expectedRead_step hstep hexpected hversion) hlater⟩
  rw [kept_iff_along hrun hdistinct (kept_loaded row revisions)]
  exact hcurrent _ hrun (fun call hcall => absurd hcall (Table.not_mem_empty call)) hversions

end

/-! ### Two updates of a monitor -/

def checkoutMetadata : Metadata := ⟨"Checkout", "checkout", "", "", [], ""⟩

def checkoutRow : MonitorRow where
  metadata := checkoutMetadata
  monitor := ⟨.draft, false, 1, none⟩
  updatedBy := "creator"
  updatedAt := 0

def rename (expectedUpdatedAt : Int) : Update :=
  ⟨⟨some "Payment", none, none, none, none, none⟩, "first", expectedUpdatedAt⟩

/-- An update of the owner of the monitor as it was created. -/
def assignOwner : Update := ⟨⟨none, none, none, some "payments", none, none⟩, "second", 0⟩

/-- The name is updated after the owner, and expects the time of that update. -/
def renamedLater : List Action :=
  [.beginUpdate 1 assignOwner, .get 1, .write 1 20 [], .beginUpdate 2 (rename 20), .get 2,
    .write 2 30 []]

theorem updates_kept_iff_renamedLater :
    ∃ t, runActions (step .postgres) (loaded checkoutRow []) renamedLater = some t ∧
      (Kept t.history ↔
        Along (step .postgres) ReadsCurrent (loaded checkoutRow []) renamedLater) := by
  have hsome :
      (runActions (step .postgres) (loaded checkoutRow []) renamedLater).isSome = true := by
    decide +kernel
  obtain ⟨t, hrun⟩ := Option.isSome_iff_exists.mp hsome
  have hdistinct : ((runActions (step .postgres) (loaded checkoutRow []) renamedLater).map
      fun t => t.history.map fun version => version.row.updatedAt) = some [30, 20, 0] := by
    decide +kernel
  rw [hrun, Option.map_some, Option.some.injEq] at hdistinct
  have htimes : DistinctTimes t.history := by
    rw [DistinctTimes, hdistinct]
    decide
  exact ⟨t, hrun, updates_kept_iff hrun htimes⟩

/-- The update of the name expects the time of the update of the owner, but reads before it. -/
def renamedAcross : List Action :=
  [.beginUpdate 2 (rename 20), .get 2, .beginUpdate 1 assignOwner, .get 1, .write 1 20 [],
    .write 2 30 []]

/-- The owner is lost: the update of the name writes the owner that it has read. -/
theorem updates_lose_owner :
    ¬ ∀ (repository : Repository) (row : MonitorRow) (revisions : List Revision)
        (as : List Action) (t : State),
        runActions (step repository) (loaded row revisions) as = some t →
        DistinctTimes t.history → Kept t.history := by
  intro h
  have hhistory : ((runActions (step .postgres) (loaded checkoutRow []) renamedAcross).map
      fun t => t.history) = some
        [⟨{ checkoutRow with
            metadata := { checkoutMetadata with name := "Payment" }
            updatedBy := "first", updatedAt := 30 }, some (rename 20)⟩,
          ⟨{ checkoutRow with
            metadata := { checkoutMetadata with ownerId := "payments" }
            updatedBy := "second", updatedAt := 20 }, some assignOwner⟩,
          ⟨checkoutRow, none⟩] := by
    decide +kernel
  obtain ⟨t, hrun, hversions⟩ := Option.map_eq_some_iff.mp hhistory
  have hdistinct : DistinctTimes t.history := by
    rw [hversions]
    unfold DistinctTimes
    decide
  have hkept := h .postgres checkoutRow [] renamedAcross t hrun hdistinct
  rw [hversions] at hkept
  have howner := ((hkept.1 (rename 20) rfl).2 [] _ _ rfl rfl).1.ownerId rfl
  exact absurd howner (by decide)

end Rhythm.Monitors.Updates
