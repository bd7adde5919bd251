import Rhythm.Monitors.Creation

/-!
# Rhythm.Monitors.Idempotency

Creation under an `Idempotency-Key`.  Two requests with one key and one body
should create one monitor, which both return, and a request with the key and
another body should be refused.  The key is a member of the draft: `SaveDraft`
replaces the draft and `Clone` copies it, a list or a read that fails finds
nothing, and the lock of a process does not keep another process out.
Without these, every answer to a key agrees with every other
(`idempotent_along`).

`Marked` is the invariant: a revision carries the record of the creation of its
monitor, and no other.
-/

namespace Rhythm.Monitors

open Text Unmarshal

/-- The answers to one key agree, those aside that a failing repository left
without an outcome: requests with one body return the same monitor or none, and
of two requests with different bodies one returns no monitor. -/
def Idempotent (s : State) : Prop :=
  ∀ a ∈ s.answers, ∀ b ∈ s.answers, a.key = b.key → a.key ≠ "" →
    a.result ≠ .failed → b.result ≠ .failed →
    (a.input = b.input → a.result.monitor? = b.result.monitor?) ∧
      (a.input ≠ b.input → a.result.monitor? = none ∨ b.result.monitor? = none)

instance (s : State) : Decidable (Idempotent s) :=
  inferInstanceAs (Decidable (∀ a ∈ s.answers, ∀ b ∈ s.answers, _))

/-- A request with the key and the body created the monitor. -/
def State.CreatedUnder (s : State) (key : String) (input : CreateInput)
    (monitorID : MonitorId) : Prop :=
  ⟨key, input, .created monitorID⟩ ∈ s.answers

def State.requests (s : State) : List (String × CreateInput) :=
  (s.answers.map fun a => (a.key, a.input)) ++ s.creates.rows.map fun c => (c.key, c.input)

def State.draft? (s : State) (monitorID : MonitorId) : Option Revision :=
  (s.monitors.get? monitorID).bind fun row => s.revisions.get? row.currentDraftRevisionId

def Result.created? : Result → Option MonitorId
  | .created monitorID => some monitorID
  | _ => none

def CreateStage.candidate? : CreateStage → Option Monitor
  | .searching (candidate :: _) => some candidate
  | _ => none

def Operation.clones : Operation → Bool
  | .clone _ _ => true
  | _ => false

/-- No action loses or copies the record of a creation, and no search is blind:
* two bodies sent with one key have different digests;
* a body without a key brings no record;
* a list fails, and the read of a draft fails, only when it hides no monitor
  of the key;
* a creation finds no other process past its list with the same key;
* a saved draft keeps the record of the draft it replaces;
* a monitor that is cloned carries no record. -/
def KeepsRecords (lib : CreationLibrary) (s : State) (a : Action) : Prop :=
  match a with
  | .createMonitor _ _ header input =>
    if trimSpace header = "" then
      creationRecord lib.toLibrary (input.definition.getD emptyDefinition) = none
    else ∀ r ∈ s.requests, r.1 = trimSpace header →
      fingerprint lib r.2 = fingerprint lib input → r.2 = input
  | .listMonitors callID none => ∀ call ∈ s.creates, call.id = callID →
      ∀ b ∈ s.answers, b.key = call.key → b.result.created? = none
  | .readDraft callID true => ∀ call ∈ s.creates, call.id = callID →
      ∀ candidate ∈ call.stage.candidate?, ∀ b ∈ s.answers, b.key = call.key →
        b.result.created? ≠ some candidate.id
  | .create callID _ _ _ => ∀ call ∈ s.creates, call.id = callID → call.key ≠ "" →
      ∀ other ∈ s.creates, other.process ≠ call.process → other.key = call.key →
        other.stage = .listing
  | .saveDraft monitorID definition => ∀ row ∈ s.draft? monitorID,
      creationRecord lib.toLibrary definition = creationRecord lib.toLibrary row.definition
  | .commitEdit editID _ _ => ∀ edit ∈ s.edits, edit.id = editID → edit.operation.clones = true →
      ∀ revision ∈ edit.revision, creationRecord lib.toLibrary revision.definition = none
  | _ => True

instance (lib : CreationLibrary) (s : State) : DecidablePred (KeepsRecords lib s)
  | .createMonitor _ _ header input => inferInstanceAs (Decidable (if trimSpace header = "" then
      creationRecord lib.toLibrary (input.definition.getD emptyDefinition) = none
    else ∀ r ∈ s.requests, r.1 = trimSpace header →
      fingerprint lib r.2 = fingerprint lib input → r.2 = input))
  | .listMonitors _ none | .readDraft _ true | .create _ _ _ _ =>
    inferInstanceAs (Decidable (∀ call ∈ s.creates, _))
  | .saveDraft monitorID _ => inferInstanceAs (Decidable (∀ row ∈ s.draft? monitorID, _))
  | .commitEdit _ _ _ => inferInstanceAs (Decidable (∀ edit ∈ s.edits, _))
  | .listMonitors _ (some _) | .readDraft _ false | .beginEdit _ _ _ | .getMonitor _
  | .readRevision _ | .endEdit _ => isTrue trivial

/-! ## The record of a creation -/

section Record

variable {lib : CreationLibrary}

theorem hexDigit_ne_space (d : Fin 16) : isSpace (hexDigit d) = false := by
  revert d
  decide

theorem trimSpace_fingerprint (input : CreateInput) :
    trimSpace (fingerprint lib input) = fingerprint lib input := by
  grind [trimSpace_of_forall, fingerprint, String.toList_ofList, hexDigit_ne_space]

theorem creationRecord_recordCreation {key : String} (hkey : trimSpace key = key)
    (input : CreateInput) :
    creationRecord lib.toLibrary
        (normalizeScriptEnabledFlags
          (recordCreation key (fingerprint lib input) input.definition)) =
      some (key, fingerprint lib input) := by
  rw [creationRecord, member_normalizeScriptEnabledFlags (by decide) (by decide)]
  simp only [member, recordCreation, lookup_setKey, if_true, Option.getD_some]
  have hname : ("fingerprint" == "idempotencyKey") = false := by decide
  simp [sprintMember, member, sprint, hkey, List.lookup_cons, hname, trimSpace_fingerprint]

theorem creationRecord_normalize (definition : Definition) :
    creationRecord lib.toLibrary (normalizeScriptEnabledFlags definition) =
      creationRecord lib.toLibrary definition := by
  rw [creationRecord, member_normalizeScriptEnabledFlags (by decide) (by decide), creationRecord]

theorem errors_request (call : CreateCall) : (call.request lib).errors = call.input.errors := by
  unfold CreateCall.request
  split <;> rfl

theorem slug_request (call : CreateCall) :
    (call.request lib).trimmed.slug = call.input.trimmed.slug := by
  unfold CreateCall.request
  split <;> rfl

theorem creationRecord_createdRevision {call : CreateCall} (hkey : call.key ≠ "")
    (htrim : trimSpace call.key = call.key) (monitorID : MonitorId) (revisionID : RevisionId) :
    creationRecord lib.toLibrary
        (createdRevision monitorID revisionID (call.request lib)).definition =
      some (call.key, fingerprint lib call.input) := by
  simp only [createdRevision, CreateCall.request, if_neg hkey, Option.getD_some]
  exact creationRecord_recordCreation htrim call.input

end Record

/-- The definition may stand in a revision of the monitor: it carries the record
of the creation of the monitor, or of no creation. -/
structure Marked (lib : CreationLibrary) (s : State) (monitorID : MonitorId)
    (definition : Definition) : Prop where
  record_of_created : ∀ key input, key ≠ "" → s.CreatedUnder key input monitorID →
    creationRecord lib.toLibrary definition = some (key, fingerprint lib input)
  created_of_record : ∀ key found, creationRecord lib.toLibrary definition = some (key, found) →
    ∃ input, s.CreatedUnder key input monitorID

/-- What holds of the stored monitors and revisions. -/
structure Catalog (lib : CreationLibrary) (s : State) : Prop where
  stored : ∀ key input m, key ≠ "" → s.CreatedUnder key input m →
    ∃ row ∈ s.monitors, row.id = m ∧ row.slug = input.trimmed.slug
  drafts : ∀ row ∈ s.monitors, ∃ rev ∈ s.revisions,
    rev.id = row.currentDraftRevisionId ∧ rev.monitorId = row.id
  owners : ∀ rev ∈ s.revisions, ∃ row ∈ s.monitors, row.id = rev.monitorId
  marked : ∀ rev ∈ s.revisions, Marked lib s rev.monitorId rev.definition
  held : ∀ e ∈ s.edits, ∀ rev, e.revision = some rev →
    (∃ row ∈ s.monitors, row.id = e.monitorId) ∧ Marked lib s e.monitorId rev.definition

def Finds (s : State) (m : MonitorId) : CreateStage → Prop
  | .listing => True
  | .searching rest => ∃ row ∈ rest, row.id = m ∧
      ∃ rev ∈ s.revisions, rev.id = row.currentDraftRevisionId ∧ rev.monitorId = m
  | .creating => False

/-- What holds of the requests with a key. -/
structure Requests (lib : CreationLibrary) (s : State) : Prop where
  one : ∀ key input m input' m', key ≠ "" → s.CreatedUnder key input m →
    s.CreatedUnder key input' m' → input = input' ∧ m = m'
  keys : ∀ c ∈ s.creates, trimSpace c.key = c.key
  plain : ∀ c ∈ s.creates, c.key = "" →
    creationRecord lib.toLibrary (c.input.definition.getD emptyDefinition) = none
  keyed : ∀ c ∈ s.creates, c.stage ≠ .creating → c.key ≠ ""
  locks : ∀ c ∈ s.creates, ∀ c' ∈ s.creates, c.key ≠ "" → c'.key ≠ "" →
    c.process = c'.process → c = c'
  searches : ∀ c ∈ s.creates, c.key ≠ "" → ∀ input m, s.CreatedUnder c.key input m →
    Finds s m c.stage
  digests : ∀ r ∈ s.requests, ∀ r' ∈ s.requests, r.1 = r'.1 → r.1 ≠ "" →
    fingerprint lib r.2 = fingerprint lib r'.2 → r.2 = r'.2
  replays : ∀ key input m, ⟨key, input, .replayed m⟩ ∈ s.answers →
    ∃ input', s.CreatedUnder key input' m ∧ fingerprint lib input' = fingerprint lib input
  reuses : ∀ key input, ⟨key, input, .keyReused⟩ ∈ s.answers →
    ∃ input' m, s.CreatedUnder key input' m ∧ fingerprint lib input' ≠ fingerprint lib input
  refusals : ∀ key input fields, key ≠ "" → ⟨key, input, .invalid fields⟩ ∈ s.answers →
    (input.errors ≠ [] ∨ slugTaken input s.monitors = true) ∧
      ∀ m, ¬ s.CreatedUnder key input m

section Law

variable {lib : CreationLibrary} {s : State} {a b : Answer} {m : MonitorId}

theorem Requests.created_of_returns (hR : Requests lib s) (ha : a ∈ s.answers) (hkey : a.key ≠ "")
    (hreturns : a.result.monitor? = some m) : s.CreatedUnder a.key a.input m := by
  obtain ⟨key, input, result⟩ := a
  cases result with
  | created monitorID =>
    cases hreturns
    exact ha
  | replayed monitorID =>
    cases hreturns
    obtain ⟨input', hcreated, hdigest⟩ := hR.replays key input m ha
    have hmem : ∀ b ∈ s.answers, (b.key, b.input) ∈ s.requests := fun b hb =>
      List.mem_append_left _ (List.mem_map_of_mem hb)
    have hsame : input' = input := hR.digests _ (hmem _ hcreated) _ (hmem _ ha) rfl hkey hdigest
    exact hsame ▸ hcreated
  | keyReused | invalid fields | failed => contradiction

theorem Requests.returns_of_created (hR : Requests lib s) (hb : b ∈ s.answers) (hkey : b.key ≠ "")
    (hanswered : b.result ≠ .failed) (hcreated : s.CreatedUnder b.key b.input m) :
    b.result.monitor? = some m := by
  obtain ⟨key, input, result⟩ := b
  cases result with
  | created monitorID | replayed monitorID =>
    have hown := hR.created_of_returns hb hkey rfl
    exact congrArg some (hR.one key input monitorID input m hkey hown hcreated).2
  | keyReused =>
    obtain ⟨input', m', hother, hdigest⟩ := hR.reuses key input hb
    exact absurd (by rw [(hR.one key input' m' input m hkey hother hcreated).1]) hdigest
  | invalid fields => exact absurd hcreated ((hR.refusals key input fields hkey hb).2 m)
  | failed => exact absurd rfl hanswered

/-- **The law follows from what holds of the requests.** -/
theorem Requests.idempotent (hR : Requests lib s) : Idempotent s := by
  intro a ha b hb hkey hne hfailed hfailed'
  have hne' : b.key ≠ "" := hkey ▸ hne
  constructor
  · intro hinput
    cases hreturns : a.result.monitor? with
    | some m =>
      have hcreated := hR.created_of_returns ha hne hreturns
      rw [hkey, hinput] at hcreated
      exact (hR.returns_of_created hb hne' hfailed' hcreated).symm
    | none =>
      cases hreturns' : b.result.monitor? with
      | none => rfl
      | some m =>
        have hcreated := hR.created_of_returns hb hne' hreturns'
        rw [← hkey, ← hinput] at hcreated
        rw [hR.returns_of_created ha hne hfailed hcreated] at hreturns
        contradiction
  · intro hinput
    cases hreturns : a.result.monitor? with
    | none => exact .inl rfl
    | some m =>
      cases hreturns' : b.result.monitor? with
      | none => exact .inr rfl
      | some m' =>
        have hcreated := hR.created_of_returns ha hne hreturns
        have hcreated' := hR.created_of_returns hb hne' hreturns'
        rw [← hkey] at hcreated'
        exact absurd (hR.one a.key a.input m b.input m' hne hcreated hcreated').1 hinput

end Law

/-! ## Rows that stay -/

/-- The monitors and the revisions of `s` are still there in `s'`. -/
structure Extends (s s' : State) : Prop where
  monitors : ∀ row ∈ s.monitors, ∃ row' ∈ s'.monitors, row'.id = row.id ∧ row'.slug = row.slug
  revisions : ∀ rev ∈ s.revisions, ∃ rev' ∈ s'.revisions,
    rev'.id = rev.id ∧ rev'.monitorId = rev.monitorId

section Frame

variable {lib : CreationLibrary} {s s' : State}

theorem Extends.of_eq (hmonitors : s'.monitors = s.monitors)
    (hrevisions : s'.revisions = s.revisions) : Extends s s' where
  monitors := fun row hrow => ⟨row, hmonitors ▸ hrow, rfl, rfl⟩
  revisions := fun rev hrev => ⟨rev, hrevisions ▸ hrev, rfl, rfl⟩

theorem Extends.finds (h : Extends s s') {m : MonitorId} {stage : CreateStage}
    (hfinds : Finds s m stage) : Finds s' m stage := by
  cases stage with
  | listing => trivial
  | creating => exact hfinds
  | searching rest =>
    obtain ⟨row, hrow, hid, rev, hrev, hdraft, howner⟩ := hfinds
    obtain ⟨rev', hrev', hid', howner'⟩ := h.revisions rev hrev
    exact ⟨row, hrow, hid, rev', hrev', hid'.trans hdraft, howner'.trans howner⟩

theorem Extends.slugTaken (h : Extends s s') {input : CreateInput}
    (htaken : slugTaken input s.monitors = true) : slugTaken input s'.monitors = true := by
  unfold Monitors.slugTaken at htaken ⊢
  rw [Table.any_eq_true] at htaken ⊢
  obtain ⟨row, hrow, hslug⟩ := htaken
  obtain ⟨row', hrow', -, hslug'⟩ := h.monitors row hrow
  exact ⟨row', hrow', hslug'.trans hslug⟩

theorem Requests.of_extends (hR : Requests lib s) (h : Extends s s')
    (hcreates : s'.creates = s.creates) (hanswers : s'.answers = s.answers) :
    Requests lib s' := by
  have hcreated : ∀ {key input m}, s'.CreatedUnder key input m ↔ s.CreatedUnder key input m := by
    intro key input m
    rw [State.CreatedUnder, hanswers, State.CreatedUnder]
  have hrequests : s'.requests = s.requests := by
    rw [State.requests, hanswers, hcreates, State.requests]
  constructor
  case one =>
    intro key input m input' m' hkey hc hc'
    exact hR.one key input m input' m' hkey (hcreated.mp hc) (hcreated.mp hc')
  case keys => rw [hcreates]; exact hR.keys
  case plain => rw [hcreates]; exact hR.plain
  case keyed => rw [hcreates]; exact hR.keyed
  case locks => rw [hcreates]; exact hR.locks
  case searches =>
    rw [hcreates]
    intro c hc hkey input m hm
    exact h.finds (hR.searches c hc hkey input m (hcreated.mp hm))
  case digests => rw [hrequests]; exact hR.digests
  case replays =>
    rw [hanswers]
    intro key input m hmem
    obtain ⟨input', hc, hdigest⟩ := hR.replays key input m hmem
    exact ⟨input', hcreated.mpr hc, hdigest⟩
  case reuses =>
    rw [hanswers]
    intro key input hmem
    obtain ⟨input', m, hc, hdigest⟩ := hR.reuses key input hmem
    exact ⟨input', m, hcreated.mpr hc, hdigest⟩
  case refusals =>
    rw [hanswers]
    intro key input fields hkey hmem
    obtain ⟨hrefused, hnone⟩ := hR.refusals key input fields hkey hmem
    exact ⟨hrefused.imp id h.slugTaken, fun m hm => hnone m (hcreated.mp hm)⟩

theorem Marked.congr {m : MonitorId} {definition : Definition} (h : Marked lib s m definition)
    (hcreated : ∀ key input, s'.CreatedUnder key input m ↔ s.CreatedUnder key input m) :
    Marked lib s' m definition where
  record_of_created := fun key input hkey hc => h.record_of_created key input hkey
    ((hcreated key input).mp hc)
  created_of_record := fun key found hrecord => by
    obtain ⟨input, hc⟩ := h.created_of_record key found hrecord
    exact ⟨input, (hcreated key input).mpr hc⟩

theorem Catalog.congr (hC : Catalog lib s) (hmonitors : s'.monitors = s.monitors)
    (hrevisions : s'.revisions = s.revisions) (hedits : s'.edits = s.edits)
    (hcreated : ∀ key input m, s'.CreatedUnder key input m ↔ s.CreatedUnder key input m) :
    Catalog lib s' := by
  constructor
  case stored =>
    rw [hmonitors]
    exact fun key input m hkey hc => hC.stored key input m hkey ((hcreated key input m).mp hc)
  case drafts => rw [hmonitors, hrevisions]; exact hC.drafts
  case owners => rw [hmonitors, hrevisions]; exact hC.owners
  case marked =>
    rw [hrevisions]
    exact fun rev hrev => (hC.marked rev hrev).congr fun key input => hcreated key input _
  case held =>
    rw [hedits, hmonitors]
    intro e he rev hrev
    obtain ⟨howner, hmarked⟩ := hC.held e he rev hrev
    exact ⟨howner, hmarked.congr fun key input => hcreated key input _⟩

end Frame

/-! ## Create calls -/

section Calls

variable {lib : CreationLibrary} {s s' : State}

/-- Moving a call on keeps what holds of the requests, when its search goes on
finding what is there. -/
theorem Requests.setStage (hR : Requests lib s) {callID : CallId} {stage : CreateStage}
    (hkeyed : ∀ c ∈ s.creates, c.id = callID → c.key ≠ "")
    (hfinds : ∀ c ∈ s.creates, c.id = callID → c.key ≠ "" → ∀ input m,
      s.CreatedUnder c.key input m → Finds s m stage) :
    Requests lib (s.setStage callID stage) := by
  have hcall : ∀ c' ∈ (s.setStage callID stage).creates, ∃ c ∈ s.creates,
      c'.key = c.key ∧ c'.input = c.input ∧ c'.process = c.process ∧ c'.id = c.id ∧
        c'.stage = if c.id = callID then stage else c.stage := by
    grind [State.setStage, Table.mem_update]
  have hrequests : (s.setStage callID stage).requests = s.requests := by
    simp only [State.requests, State.setStage, Table.update, List.map_map]
    congr 2
    funext c
    by_cases hid : c.id = callID <;> simp [hid]
  constructor
  case one => exact hR.one
  case keys =>
    intro c' hc'
    obtain ⟨c, hc, hkey, -⟩ := hcall c' hc'
    rw [hkey, hR.keys c hc]
  case plain =>
    intro c' hc' hempty
    obtain ⟨c, hc, hkey, hinput, -⟩ := hcall c' hc'
    rw [hinput]
    exact hR.plain c hc (hkey ▸ hempty)
  case keyed =>
    intro c' hc' hmoved
    obtain ⟨c, hc, hkey, -, -, -, hstage⟩ := hcall c' hc'
    rw [hkey]
    by_cases hid : c.id = callID
    · exact hkeyed c hc hid
    · rw [hstage, if_neg hid] at hmoved
      exact hR.keyed c hc hmoved
  case locks =>
    intro c₁ hc₁ c₂ hc₂ hkey₁ hkey₂ hprocess
    obtain ⟨c, hc, hk, -, hp, hi, -⟩ := hcall c₁ hc₁
    obtain ⟨c', hc', hk', -, hp', hi', -⟩ := hcall c₂ hc₂
    have hsame := hR.locks c hc c' hc' (hk ▸ hkey₁) (hk' ▸ hkey₂)
      (hp.symm.trans (hprocess.trans hp'))
    exact Table.eq_of_key_eq hc₁ hc₂ (by rw [hi, hi', hsame])
  case searches =>
    intro c' hc' hkey input m hcreated
    obtain ⟨c, hc, hk, -, -, hi, hstage⟩ := hcall c' hc'
    rw [hk] at hkey hcreated
    rw [hstage]
    by_cases hid : c.id = callID
    · rw [if_pos hid]
      exact hfinds c hc hid hkey input m hcreated
    · rw [if_neg hid]
      exact hR.searches c hc hkey input m hcreated
  case digests => rw [hrequests]; exact hR.digests
  case replays => exact hR.replays
  case reuses => exact hR.reuses
  case refusals => exact hR.refusals

def Answerable (lib : CreationLibrary) (s : State) (call : CreateCall) : Result → Prop
  | .created _ => False
  | .replayed m => ∃ input', s.CreatedUnder call.key input' m ∧
      fingerprint lib input' = fingerprint lib call.input
  | .keyReused => ∃ input' m, s.CreatedUnder call.key input' m ∧
      fingerprint lib input' ≠ fingerprint lib call.input
  | .invalid _ => (call.input.errors ≠ [] ∨ slugTaken call.input s.monitors = true) ∧
      (call.key ≠ "" → ∀ m, ¬ s.CreatedUnder call.key call.input m)
  | .failed => True

theorem createdUnder_answer {call : CreateCall} {result : Result} {key : String}
    {input : CreateInput} {m : MonitorId} :
    (s.answer call result).CreatedUnder key input m ↔
      s.CreatedUnder key input m ∨
        (call.key = key ∧ call.input = input ∧ result = .created m) := by
  grind [State.CreatedUnder, State.answer, List.mem_singleton, Answer.mk.injEq]

theorem createdUnder_answer_of_ne {call : CreateCall} {result : Result} {key : String}
    {input : CreateInput} {m : MonitorId} (hresult : ∀ m, result ≠ .created m) :
    (s.answer call result).CreatedUnder key input m ↔ s.CreatedUnder key input m := by
  rw [createdUnder_answer]
  exact or_iff_left fun h => hresult m h.2.2

theorem mem_creates_answer {call c : CreateCall} {result : Result}
    (hc : c ∈ (s.answer call result).creates) : c ∈ s.creates ∧ c.id ≠ call.id := by
  have hmem := List.mem_filter.mp hc
  exact ⟨hmem.1, by simpa using hmem.2⟩

theorem mem_requests_answer {call : CreateCall} {result : Result} (hcall : call ∈ s.creates)
    {r : String × CreateInput} (hr : r ∈ (s.answer call result).requests) : r ∈ s.requests := by
  simp only [State.requests, State.answer, List.map_append, List.map_cons, List.map_nil,
    List.mem_append, List.mem_singleton] at hr
  rcases hr with (hanswer | rfl) | hcreate
  · exact List.mem_append_left _ hanswer
  · exact List.mem_append_right _ (List.mem_map_of_mem (f := fun c => (c.key, c.input)) hcall)
  · obtain ⟨c, hc, rfl⟩ := List.mem_map.mp hcreate
    exact List.mem_append_right _ (List.mem_map_of_mem (f := fun c => (c.key, c.input))
      (List.mem_of_mem_filter hc))

/-- **An answer that creates no monitor.** -/
theorem Requests.answer (hR : Requests lib s) {call : CreateCall} {result : Result}
    (hcall : call ∈ s.creates) (hanswer : Answerable lib s call result) :
    Requests lib (s.answer call result) := by
  have hresult : ∀ m, result ≠ .created m := by
    rintro m rfl
    exact hanswer
  have hcreated : ∀ {key input m}, (s.answer call result).CreatedUnder key input m ↔
      s.CreatedUnder key input m := createdUnder_answer_of_ne hresult
  have hold : ∀ {a : Answer}, a ∈ (s.answer call result).answers →
      a ∈ s.answers ∨ a = ⟨call.key, call.input, result⟩ := fun ha => by
    simpa [State.answer] using ha
  constructor
  case one =>
    intro key input m input' m' hkey hc hc'
    exact hR.one key input m input' m' hkey (hcreated.mp hc) (hcreated.mp hc')
  case keys => exact fun c hc => hR.keys c (mem_creates_answer hc).1
  case plain => exact fun c hc => hR.plain c (mem_creates_answer hc).1
  case keyed => exact fun c hc => hR.keyed c (mem_creates_answer hc).1
  case locks =>
    exact fun c hc c' hc' => hR.locks c (mem_creates_answer hc).1 c' (mem_creates_answer hc').1
  case searches =>
    intro c hc hkey input m hm
    have hfinds := hR.searches c (mem_creates_answer hc).1 hkey input m (hcreated.mp hm)
    exact (Extends.of_eq rfl rfl : Extends s (s.answer call result)).finds hfinds
  case digests =>
    exact fun r hr r' hr' => hR.digests r (mem_requests_answer hcall hr) r'
      (mem_requests_answer hcall hr')
  case replays =>
    intro key input m hmem
    rcases hold hmem with hmem | hnew
    · obtain ⟨input', hc, hdigest⟩ := hR.replays key input m hmem
      exact ⟨input', hcreated.mpr hc, hdigest⟩
    · cases hnew
      obtain ⟨input', hc, hdigest⟩ := hanswer
      exact ⟨input', hcreated.mpr hc, hdigest⟩
  case reuses =>
    intro key input hmem
    rcases hold hmem with hmem | hnew
    · obtain ⟨input', m, hc, hdigest⟩ := hR.reuses key input hmem
      exact ⟨input', m, hcreated.mpr hc, hdigest⟩
    · cases hnew
      obtain ⟨input', m, hc, hdigest⟩ := hanswer
      exact ⟨input', m, hcreated.mpr hc, hdigest⟩
  case refusals =>
    intro key input fields hkey hmem
    rcases hold hmem with hmem | hnew
    · obtain ⟨hrefused, hnone⟩ := hR.refusals key input fields hkey hmem
      exact ⟨hrefused, fun m hm => hnone m (hcreated.mp hm)⟩
    · cases hnew
      exact ⟨hanswer.1, fun m hm => hanswer.2 hkey m (hcreated.mp hm)⟩

theorem Catalog.answer (hC : Catalog lib s) {call : CreateCall} {result : Result}
    (hresult : ∀ m, result ≠ .created m) : Catalog lib (s.answer call result) :=
  hC.congr rfl rfl rfl fun _ _ _ => createdUnder_answer_of_ne hresult

theorem create_eq_some {monitorID : MonitorId} {revisionID : RevisionId} {input : CreateInput}
    {monitors : MonitorTable} {revisions : RevisionTable}
    (h : create monitorID revisionID input s.monitors s.revisions = some (monitors, revisions)) :
    s.monitors.insert (createdMonitor monitorID revisionID input) = some monitors ∧
      s.revisions.insert (createdRevision monitorID revisionID input) = some revisions := by
  grind [create]

/-- **A creation keeps the catalog**, when the new revision may stand under the
new monitor. -/
theorem Catalog.create (hC : Catalog lib s) {monitorID : MonitorId} {revisionID : RevisionId}
    {input : CreateInput}
    (h : create monitorID revisionID input s.monitors s.revisions =
      some (s'.monitors, s'.revisions))
    (hedits : ∀ e ∈ s'.edits, e ∈ s.edits)
    (hcreated : ∀ key request m, m ≠ monitorID →
      (s'.CreatedUnder key request m ↔ s.CreatedUnder key request m))
    (hslug : ∀ key request, key ≠ "" → s'.CreatedUnder key request monitorID →
      request.trimmed.slug = input.trimmed.slug)
    (hmarked : Marked lib s' monitorID (createdRevision monitorID revisionID input).definition) :
    Catalog lib s' := by
  obtain ⟨hmonitors, hrevisions⟩ := create_eq_some h
  obtain ⟨hfresh, hrows⟩ := Table.insert_eq_some_iff.mp hmonitors
  obtain ⟨-, hrevs⟩ := Table.insert_eq_some_iff.mp hrevisions
  have hrow : ∀ row, row ∈ s'.monitors ↔
      row ∈ s.monitors ∨ row = createdMonitor monitorID revisionID input := fun row => by
    rw [Table.mem_def, hrows, List.mem_append, List.mem_singleton, Table.mem_def]
  have hrev : ∀ rev, rev ∈ s'.revisions ↔
      rev ∈ s.revisions ∨ rev = createdRevision monitorID revisionID input := fun rev => by
    rw [Table.mem_def, hrevs, List.mem_append, List.mem_singleton, Table.mem_def]
  have hold : ∀ row ∈ s.monitors, row.id ≠ monitorID := Table.get?_eq_none_iff.mp hfresh
  have hkeep : ∀ {m definition}, (∃ row ∈ s.monitors, row.id = m) → Marked lib s m definition →
      Marked lib s' m definition := by
    rintro m definition ⟨row, hmem, rfl⟩ hm
    exact hm.congr fun key request => hcreated key request _ (hold row hmem)
  constructor
  case stored =>
    intro key request m hkey hm
    by_cases hid : m = monitorID
    · subst hid
      exact ⟨_, (hrow _).mpr (.inr rfl), rfl, (hslug key request hkey hm).symm⟩
    · obtain ⟨row, hmem, hrowId, hrowSlug⟩ :=
        hC.stored key request m hkey ((hcreated key request m hid).mp hm)
      exact ⟨row, (hrow row).mpr (.inl hmem), hrowId, hrowSlug⟩
  case drafts =>
    intro row hmem
    rcases (hrow row).mp hmem with hmem | rfl
    · obtain ⟨rev, hr, hdraft, howner⟩ := hC.drafts row hmem
      exact ⟨rev, (hrev rev).mpr (.inl hr), hdraft, howner⟩
    · exact ⟨_, (hrev _).mpr (.inr rfl), rfl, rfl⟩
  case owners =>
    intro rev hr
    rcases (hrev rev).mp hr with hr | rfl
    · obtain ⟨row, hmem, hid⟩ := hC.owners rev hr
      exact ⟨row, (hrow row).mpr (.inl hmem), hid⟩
    · exact ⟨_, (hrow _).mpr (.inr rfl), rfl⟩
  case marked =>
    intro rev hr
    rcases (hrev rev).mp hr with hr | rfl
    · exact hkeep (hC.owners rev hr) (hC.marked rev hr)
    · exact hmarked
  case held =>
    intro e he rev hr
    obtain ⟨howner, hm⟩ := hC.held e (hedits e he) rev hr
    refine ⟨?_, hkeep howner hm⟩
    obtain ⟨row, hmem, hid⟩ := howner
    exact ⟨row, (hrow row).mpr (.inl hmem), hid⟩

theorem Extends.create {monitorID : MonitorId} {revisionID : RevisionId} {input : CreateInput}
    (h : create monitorID revisionID input s.monitors s.revisions =
      some (s'.monitors, s'.revisions)) : Extends s s' := by
  obtain ⟨hmonitors, hrevisions⟩ := create_eq_some h
  have hrows := (Table.insert_eq_some_iff.mp hmonitors).2
  have hrevs := (Table.insert_eq_some_iff.mp hrevisions).2
  constructor
  · intro row hrow
    refine ⟨row, ?_, rfl, rfl⟩
    rw [Table.mem_def, hrows]
    exact List.mem_append_left _ hrow
  · intro rev hrev
    refine ⟨rev, ?_, rfl, rfl⟩
    rw [Table.mem_def, hrevs]
    exact List.mem_append_left _ hrev

/-- **A create call that creates its monitor.** -/
theorem created_step (hC : Catalog lib s) (hR : Requests lib s) {call : CreateCall}
    (hcall : call ∈ s.creates) (hstage : call.stage = .creating)
    (hvalid : call.input.errors = []) (hfree : slugTaken call.input s.monitors = false)
    (hothers : call.key ≠ "" → ∀ other ∈ s.creates, other.process ≠ call.process →
      other.key = call.key → other.stage = .listing)
    {monitorID : MonitorId} {revisionID : RevisionId} {monitors : MonitorTable}
    {revisions : RevisionTable}
    (h : create monitorID revisionID (call.request lib) s.monitors s.revisions =
      some (monitors, revisions)) :
    Catalog lib { s.answer call (.created monitorID) with monitors, revisions } ∧
      Requests lib { s.answer call (.created monitorID) with monitors, revisions } := by
  have hfresh : ∀ row ∈ s.monitors, row.id ≠ monitorID :=
    Table.get?_eq_none_iff.mp (Table.get?_of_insert_eq_none (create_eq_some h).1)
  have hnone : call.key ≠ "" → ∀ input m, ¬ s.CreatedUnder call.key input m := by
    intro hkey input m hm
    have hfinds := hR.searches call hcall hkey input m hm
    rw [hstage] at hfinds
    exact hfinds
  have hcreated : ∀ {key input m},
      State.CreatedUnder { s.answer call (.created monitorID) with monitors, revisions }
          key input m ↔
        s.CreatedUnder key input m ∨ (call.key = key ∧ call.input = input ∧ monitorID = m) := by
    intro key input m
    rw [← Result.created.injEq]
    exact createdUnder_answer
  have hext : Extends s { s.answer call (.created monitorID) with monitors, revisions } :=
    .create h
  constructor
  · refine hC.create h (fun e he => he) ?_ ?_ ?_
    · intro key request m hm
      rw [hcreated]
      exact or_iff_left fun hnew => hm hnew.2.2.symm
    · intro key request hkey hm
      rcases hcreated.mp hm with hm | ⟨-, rfl, -⟩
      · obtain ⟨row, hrow, hid, -⟩ := hC.stored key request monitorID hkey hm
        exact absurd hid (hfresh row hrow)
      · exact (slug_request call).symm
    · constructor
      · intro key input hkey hm
        rcases hcreated.mp hm with hm | ⟨rfl, rfl, -⟩
        · obtain ⟨row, hrow, hid, -⟩ := hC.stored key input monitorID hkey hm
          exact absurd hid (hfresh row hrow)
        · exact creationRecord_createdRevision hkey (hR.keys call hcall) ..
      · intro key found hrecord
        by_cases hkey : call.key = ""
        · have hplain := hR.plain call hcall hkey
          rw [createdRevision, creationRecord_normalize, CreateCall.request, if_pos hkey,
            hplain] at hrecord
          exact absurd hrecord.symm (Option.some_ne_none _)
        · rw [creationRecord_createdRevision hkey (hR.keys call hcall), Option.some.injEq,
            Prod.mk.injEq] at hrecord
          exact ⟨call.input, hcreated.mpr (.inr ⟨hrecord.1, rfl, rfl⟩)⟩
  · have hleft : ∀ c ∈ (s.answer call (.created monitorID)).creates,
        c ∈ s.creates ∧ c.id ≠ call.id := fun c hc => mem_creates_answer hc
    have hold : ∀ {a : Answer}, a ∈ (s.answer call (.created monitorID)).answers →
        (∀ m, a.result ≠ .created m) → a ∈ s.answers := by
      intro a ha hne
      rcases List.mem_append.mp ha with ha | ha
      · exact ha
      · rw [List.mem_singleton] at ha
        exact absurd (by rw [ha]) (hne monitorID)
    constructor
    case one =>
      intro key input m input' m' hkey hm hm'
      rcases hcreated.mp hm with hm | ⟨rfl, rfl, rfl⟩
      · rcases hcreated.mp hm' with hm' | ⟨rfl, rfl, rfl⟩
        · exact hR.one key input m input' m' hkey hm hm'
        · exact absurd hm (hnone hkey input m)
      · rcases hcreated.mp hm' with hm' | ⟨-, rfl, rfl⟩
        · exact absurd hm' (hnone hkey input' m')
        · exact ⟨rfl, rfl⟩
    case keys => exact fun c hc => hR.keys c (hleft c hc).1
    case plain => exact fun c hc => hR.plain c (hleft c hc).1
    case keyed => exact fun c hc => hR.keyed c (hleft c hc).1
    case locks => exact fun c hc c' hc' => hR.locks c (hleft c hc).1 c' (hleft c' hc').1
    case searches =>
      intro c hc hkey input m hm
      obtain ⟨hmem, hother⟩ := hleft c hc
      rcases hcreated.mp hm with hm | ⟨hsame, -, -⟩
      · exact hext.finds (hR.searches c hmem hkey input m hm)
      · have hne : c.process ≠ call.process := by
          intro hprocess
          have heq := hR.locks c hmem call hcall hkey (hsame ▸ hkey) hprocess
          exact hother (by rw [heq])
        rw [hothers (hsame ▸ hkey) c hmem hne hsame.symm]
        trivial
    case digests =>
      exact fun r hr r' hr' => hR.digests r (mem_requests_answer hcall hr) r'
        (mem_requests_answer hcall hr')
    case replays =>
      intro key input m hmem
      obtain ⟨input', hc, hdigest⟩ := hR.replays key input m (hold hmem (by simp))
      exact ⟨input', hcreated.mpr (.inl hc), hdigest⟩
    case reuses =>
      intro key input hmem
      obtain ⟨input', m, hc, hdigest⟩ := hR.reuses key input (hold hmem (by simp))
      exact ⟨input', m, hcreated.mpr (.inl hc), hdigest⟩
    case refusals =>
      intro key input fields hkey hmem
      obtain ⟨hrefused, hnever⟩ := hR.refusals key input fields hkey (hold hmem (by simp))
      refine ⟨hrefused.imp id hext.slugTaken, fun m hm => ?_⟩
      rcases hcreated.mp hm with hm | ⟨-, rfl, -⟩
      · exact hnever m hm
      · rcases hrefused with hinvalid | htaken
        · exact hinvalid hvalid
        · rw [hfree] at htaken
          exact Bool.false_ne_true htaken

/-- **A request that is taken up.** -/
theorem Requests.enter (hR : Requests lib s) {call : CreateCall}
    (hinsert : s.creates.insert call = some s'.creates) (hanswers : s'.answers = s.answers)
    (htables : Extends s s') (hmonitors : s'.monitors = s.monitors)
    (htrim : trimSpace call.key = call.key)
    (hplain : call.key = "" →
      creationRecord lib.toLibrary (call.input.definition.getD emptyDefinition) = none)
    (hlock : call.key ≠ "" → ∀ c ∈ s.creates, c.process = call.process → c.key = "")
    (hstage : call.key ≠ "" → call.stage = .listing)
    (hentry : call.stage ≠ .creating → call.key ≠ "")
    (hdigest : call.key ≠ "" → ∀ r ∈ s.requests, r.1 = call.key →
      fingerprint lib r.2 = fingerprint lib call.input → r.2 = call.input) :
    Requests lib s' := by
  have hcreated : ∀ {key input m}, s'.CreatedUnder key input m ↔ s.CreatedUnder key input m := by
    intro key input m
    rw [State.CreatedUnder, hanswers, State.CreatedUnder]
  have hrows := (Table.insert_eq_some_iff.mp hinsert).2
  have hmem : ∀ c ∈ s'.creates, c ∈ s.creates ∨ c = call := by
    intro c hc
    rw [Table.mem_def, hrows, List.mem_append, List.mem_singleton] at hc
    exact hc
  have hrequest : ∀ r ∈ s'.requests, r ∈ s.requests ∨ r = (call.key, call.input) := by
    grind [State.requests, List.append_assoc]
  constructor
  case one =>
    intro key input m input' m' hkey hm hm'
    exact hR.one key input m input' m' hkey (hcreated.mp hm) (hcreated.mp hm')
  case keys =>
    intro c hc
    rcases hmem c hc with hc | rfl
    · exact hR.keys c hc
    · exact htrim
  case plain =>
    intro c hc
    rcases hmem c hc with hc | rfl
    · exact hR.plain c hc
    · exact hplain
  case keyed =>
    intro c hc hmoved
    rcases hmem c hc with hc | rfl
    · exact hR.keyed c hc hmoved
    · exact hentry hmoved
  case locks =>
    intro c hc c' hc' hkey hkey' hprocess
    rcases hmem c hc with hc | rfl
    · rcases hmem c' hc' with hc' | rfl
      · exact hR.locks c hc c' hc' hkey hkey' hprocess
      · exact absurd (hlock hkey' c hc hprocess) hkey
    · rcases hmem c' hc' with hc' | rfl
      · exact absurd (hlock hkey c' hc' hprocess.symm) hkey'
      · rfl
  case searches =>
    intro c hc hkey input m hm
    rcases hmem c hc with hc | rfl
    · exact htables.finds (hR.searches c hc hkey input m (hcreated.mp hm))
    · rw [hstage hkey]
      trivial
  case digests =>
    intro r hr r' hr' hkey hne hsame
    rcases hrequest r hr with hr | rfl
    · rcases hrequest r' hr' with hr' | rfl
      · exact hR.digests r hr r' hr' hkey hne hsame
      · exact hdigest (fun hempty => hne (hkey.trans hempty)) r hr hkey hsame
    · rcases hrequest r' hr' with hr' | rfl
      · exact (hdigest hne r' hr' hkey.symm hsame.symm).symm
      · rfl
  case replays =>
    rw [hanswers]
    intro key input m hmem
    obtain ⟨input', hc, hsame⟩ := hR.replays key input m hmem
    exact ⟨input', hcreated.mpr hc, hsame⟩
  case reuses =>
    rw [hanswers]
    intro key input hmem
    obtain ⟨input', m, hc, hother⟩ := hR.reuses key input hmem
    exact ⟨input', m, hcreated.mpr hc, hother⟩
  case refusals =>
    rw [hanswers, hmonitors]
    intro key input fields hkey hmem
    obtain ⟨hrefused, hnone⟩ := hR.refusals key input fields hkey hmem
    exact ⟨hrefused, fun m hm => hnone m (hcreated.mp hm)⟩

end Calls

/-! ## Drafts and edits -/

section Edits

variable {lib : CreationLibrary} {s s' : State}

theorem Catalog.monitorId_of_draft (hC : Catalog lib s) {row : Monitor} (hrow : row ∈ s.monitors)
    {rev : Revision} (hrev : rev ∈ s.revisions) (hid : rev.id = row.currentDraftRevisionId) :
    rev.monitorId = row.id := by
  obtain ⟨draft, hdraft, hdraftId, howner⟩ := hC.drafts row hrow
  rw [Table.eq_of_key_eq hrev hdraft (hid.trans hdraftId.symm), howner]

theorem updateDraft_eq_some {monitorID : MonitorId} {definition : Definition}
    {revisions : RevisionTable}
    (h : updateDraft monitorID definition s.monitors s.revisions = some revisions) :
    ∃ row ∈ s.monitors, row.id = monitorID ∧
      revisions = s.revisions.update
        (fun rev => rev.id = row.currentDraftRevisionId ∧ rev.status = .draft)
        fun rev => { rev with definition := definition } := by
  unfold updateDraft at h
  split at h
  · contradiction
  · rename_i row hrow
    split at h
    · cases h
      exact ⟨row, Table.mem_of_get? hrow, Table.key_of_get? hrow, rfl⟩
    · contradiction

/-- A step that creates nothing and changes neither calls nor answers. -/
structure Quiet (s s' : State) : Prop where
  creates : s'.creates = s.creates
  answers : s'.answers = s.answers

theorem Quiet.createdUnder (h : Quiet s s') {key : String} {input : CreateInput} {m : MonitorId} :
    s'.CreatedUnder key input m ↔ s.CreatedUnder key input m := by
  rw [State.CreatedUnder, h.answers, State.CreatedUnder]

theorem Quiet.marked (h : Quiet s s') {m : MonitorId} {definition : Definition}
    (hm : Marked lib s m definition) : Marked lib s' m definition :=
  hm.congr fun _ _ => h.createdUnder

/-- **A draft is replaced** by a definition that may stand under its monitor. -/
theorem Catalog.updateDraft (hC : Catalog lib s) (hquiet : Quiet s s') {monitorID : MonitorId}
    {definition : Definition}
    (h : updateDraft monitorID definition s.monitors s.revisions = some s'.revisions)
    (hmonitors : s'.monitors = s.monitors) (hedits : ∀ e ∈ s'.edits, e ∈ s.edits)
    (hmarked : Marked lib s monitorID definition) : Catalog lib s' ∧ Extends s s' := by
  obtain ⟨row, hrow, hid, hrevisions⟩ := updateDraft_eq_some h
  have hrev : ∀ rev' ∈ s'.revisions, ∃ rev ∈ s.revisions, rev'.id = rev.id ∧
      rev'.monitorId = rev.monitorId ∧ Marked lib s rev.monitorId rev'.definition := by
    intro rev' hrev'
    rw [hrevisions, Table.mem_update] at hrev'
    obtain ⟨rev, hmem, rfl⟩ := hrev'
    refine ⟨rev, hmem, ?_⟩
    split
    · rename_i hdraft
      refine ⟨rfl, rfl, ?_⟩
      rw [hC.monitorId_of_draft hrow hmem hdraft.1, hid]
      exact hmarked
    · exact ⟨rfl, rfl, hC.marked rev hmem⟩
  have hext : Extends s s' := by
    refine ⟨fun row hrow => ⟨row, hmonitors ▸ hrow, rfl, rfl⟩, fun rev hmem => ?_⟩
    rw [hrevisions]
    refine ⟨_, Table.mem_update.mpr ⟨rev, hmem, rfl⟩, ?_⟩
    split <;> exact ⟨rfl, rfl⟩
  refine ⟨?_, hext⟩
  constructor
  case stored =>
    rw [hmonitors]
    exact fun key input m hkey hm => hC.stored key input m hkey (hquiet.createdUnder.mp hm)
  case drafts =>
    rw [hmonitors]
    intro row hrow
    obtain ⟨rev, hmem, hdraft, howner⟩ := hC.drafts row hrow
    obtain ⟨rev', hmem', hid', howner'⟩ := hext.revisions rev hmem
    exact ⟨rev', hmem', hid'.trans hdraft, howner'.trans howner⟩
  case owners =>
    rw [hmonitors]
    intro rev' hrev'
    obtain ⟨rev, hmem, -, howner, -⟩ := hrev rev' hrev'
    rw [howner]
    exact hC.owners rev hmem
  case marked =>
    intro rev' hrev'
    obtain ⟨rev, hmem, -, howner, hm⟩ := hrev rev' hrev'
    rw [howner]
    exact hquiet.marked hm
  case held =>
    rw [hmonitors]
    intro e he rev hrev
    obtain ⟨howner, hm⟩ := hC.held e (hedits e he) rev hrev
    exact ⟨howner, hquiet.marked hm⟩

/-- **A draft is published**, and its definition goes on as the next draft. -/
theorem Catalog.publish (hC : Catalog lib s) (hquiet : Quiet s s') {monitorID : MonitorId}
    {publishedID revisionID : RevisionId} {number : Nat} {definition : Definition}
    (hrevisions : (s.revisions.update (fun rev => rev.id = publishedID ∧ rev.status = .draft)
        fun rev => { rev with status := .published }).insert
      ⟨revisionID, monitorID, number, .draft, definition⟩ = some s'.revisions)
    (hmonitors : s'.monitors = s.monitors.update (fun row => row.id = monitorID)
      fun row => { row with currentDraftRevisionId := revisionID })
    (hedits : ∀ e ∈ s'.edits, e ∈ s.edits) (howner : ∃ row ∈ s.monitors, row.id = monitorID)
    (hmarked : Marked lib s monitorID definition) : Catalog lib s' ∧ Extends s s' := by
  have hrevs := (Table.insert_eq_some_iff.mp hrevisions).2
  have hrev : ∀ rev' ∈ s'.revisions, rev' = ⟨revisionID, monitorID, number, .draft, definition⟩ ∨
      ∃ rev ∈ s.revisions, rev'.id = rev.id ∧ rev'.monitorId = rev.monitorId ∧
        rev'.definition = rev.definition := by
    intro rev' hrev'
    rw [Table.mem_def, hrevs, List.mem_append, List.mem_singleton] at hrev'
    rcases hrev' with hold | hnew
    · right
      obtain ⟨rev, hmem, rfl⟩ := Table.mem_update.mp hold
      refine ⟨rev, hmem, ?_⟩
      split <;> exact ⟨rfl, rfl, rfl⟩
    · exact .inl hnew
  have hrow : ∀ row ∈ s.monitors,
      ∃ row' ∈ s'.monitors, row'.id = row.id ∧ row'.slug = row.slug := by
    intro row hrow
    rw [hmonitors]
    refine ⟨_, Table.mem_update.mpr ⟨row, hrow, rfl⟩, ?_⟩
    split <;> exact ⟨rfl, rfl⟩
  have hkept : ∀ rev ∈ s.revisions, ∃ rev' ∈ s'.revisions,
      rev'.id = rev.id ∧ rev'.monitorId = rev.monitorId := by
    intro rev hmem
    have hfrozen : (if rev.id = publishedID ∧ rev.status = .draft then
        { rev with status := .published } else rev) ∈ s'.revisions := by
      rw [Table.mem_def, hrevs]
      exact List.mem_append_left _ (Table.mem_update.mpr ⟨rev, hmem, rfl⟩)
    refine ⟨_, hfrozen, ?_⟩
    split <;> exact ⟨rfl, rfl⟩
  have hnew : (⟨revisionID, monitorID, number, .draft, definition⟩ : Revision) ∈ s'.revisions := by
    rw [Table.mem_def, hrevs]
    exact List.mem_append_right _ (List.mem_singleton_self _)
  refine ⟨?_, ⟨hrow, hkept⟩⟩
  constructor
  case stored =>
    intro key input m hkey hm
    obtain ⟨row, hmem, hid, hslug⟩ := hC.stored key input m hkey (hquiet.createdUnder.mp hm)
    obtain ⟨row', hmem', hid', hslug'⟩ := hrow row hmem
    exact ⟨row', hmem', hid'.trans hid, hslug'.trans hslug⟩
  case drafts =>
    intro row' hrow'
    rw [hmonitors] at hrow'
    obtain ⟨row, hmem, rfl⟩ := Table.mem_update.mp hrow'
    split
    · rename_i hid
      exact ⟨_, hnew, rfl, hid.symm⟩
    · obtain ⟨rev, hr, hdraft, hown⟩ := hC.drafts row hmem
      obtain ⟨rev', hr', hid', hown'⟩ := hkept rev hr
      exact ⟨rev', hr', hid'.trans hdraft, hown'.trans hown⟩
  case owners =>
    have hfind : ∀ m, (∃ row ∈ s.monitors, row.id = m) → ∃ row ∈ s'.monitors, row.id = m := by
      rintro m ⟨row, hmem, rfl⟩
      obtain ⟨row', hmem', hid', -⟩ := hrow row hmem
      exact ⟨row', hmem', hid'⟩
    intro rev' hrev'
    rcases hrev rev' hrev' with rfl | ⟨rev, hmem, -, hown, -⟩
    · exact hfind _ howner
    · rw [hown]
      exact hfind _ (hC.owners rev hmem)
  case marked =>
    intro rev' hrev'
    rcases hrev rev' hrev' with rfl | ⟨rev, hmem, -, hown, hdefinition⟩
    · exact hquiet.marked hmarked
    · rw [hown, hdefinition]
      exact hquiet.marked (hC.marked rev hmem)
  case held =>
    intro e he rev hr
    obtain ⟨⟨row, hmem, hid⟩, hm⟩ := hC.held e (hedits e he) rev hr
    obtain ⟨row', hmem', hid', -⟩ := hrow row hmem
    exact ⟨⟨row', hmem', hid'.trans hid⟩, hquiet.marked hm⟩

theorem Marked.of_record_eq {m : MonitorId} {definition definition' : Definition}
    (h : Marked lib s m definition)
    (hrecord : creationRecord lib.toLibrary definition' = creationRecord lib.toLibrary definition) :
    Marked lib s m definition' where
  record_of_created := fun key input hkey hm => by
    rw [hrecord]
    exact h.record_of_created key input hkey hm
  created_of_record := fun key found hsome => h.created_of_record key found (hrecord ▸ hsome)

theorem edit_step (hC : Catalog lib s) {edit : Edit} (hedit : edit ∈ s.edits)
    {monitorID : MonitorId} {revisionID : RevisionId}
    (hplain : ∀ name slug revision, edit.operation = .clone name slug →
      edit.revision = some revision → creationRecord lib.toLibrary revision.definition = none)
    (h : editTransaction edit monitorID revisionID lib.toLibrary s.monitors s.revisions =
      some (s'.monitors, s'.revisions))
    (hquiet : Quiet s s') (hedits : ∀ e ∈ s'.edits, e ∈ s.edits) :
    Catalog lib s' ∧ Extends s s' := by
  unfold editTransaction at h
  split at h
  · rename_i published hoperation hrevision
    obtain ⟨howner, hmarked⟩ := hC.held edit hedit published hrevision
    split at h
    · contradiction
    · split at h
      · simp only [Option.map_eq_some_iff, Prod.mk.injEq] at h
        obtain ⟨revisions, hinsert, hmonitors, rfl⟩ := h
        exact hC.publish hquiet hinsert hmonitors.symm hedits howner hmarked
      · contradiction
  · rename_i name slug source revision hoperation hsource hrevision
    dsimp only at h
    split at h
    · have hrecord : creationRecord lib.toLibrary (createdRevision monitorID revisionID
          (cloneInput name slug source revision)).definition = none := by
        rw [createdRevision, creationRecord_normalize, cloneInput, Option.getD_some]
        exact hplain name slug revision hoperation hrevision
      have hfresh : ∀ row ∈ s.monitors, row.id ≠ monitorID :=
        Table.get?_eq_none_iff.mp (Table.get?_of_insert_eq_none (create_eq_some h).1)
      have hunknown : ∀ key request, key ≠ "" → ¬ s'.CreatedUnder key request monitorID := by
        intro key request hkey hm
        obtain ⟨row, hrow, hid, -⟩ := hC.stored key request monitorID hkey
          (hquiet.createdUnder.mp hm)
        exact hfresh row hrow hid
      refine ⟨hC.create h hedits (fun _ _ _ _ => hquiet.createdUnder) ?_ ⟨?_, ?_⟩, .create h⟩
      · exact fun key request hkey hm => absurd hm (hunknown key request hkey)
      · exact fun key request hkey hm => absurd hm (hunknown key request hkey)
      · intro key found hsome
        rw [hrecord] at hsome
        exact absurd hsome.symm (Option.some_ne_none _)
    · contradiction
  · rename_i restoredID revision hoperation hrevision
    simp only [Option.map_eq_some_iff, Prod.mk.injEq] at h
    obtain ⟨revisions, hupdate, hmonitors, rfl⟩ := h
    exact hC.updateDraft hquiet hupdate hmonitors.symm hedits
      (hC.held edit hedit revision hrevision).2
  · contradiction

theorem Catalog.setEdits (hC : Catalog lib s) (hquiet : Quiet s s')
    (hmonitors : s'.monitors = s.monitors) (hrevisions : s'.revisions = s.revisions)
    (hheld : ∀ e ∈ s'.edits, ∀ rev, e.revision = some rev →
      (∃ row ∈ s.monitors, row.id = e.monitorId) ∧ Marked lib s e.monitorId rev.definition) :
    Catalog lib s' := by
  constructor
  case stored =>
    rw [hmonitors]
    exact fun key input m hkey hm => hC.stored key input m hkey (hquiet.createdUnder.mp hm)
  case drafts => rw [hmonitors, hrevisions]; exact hC.drafts
  case owners => rw [hmonitors, hrevisions]; exact hC.owners
  case marked =>
    rw [hrevisions]
    exact fun rev hrev => hquiet.marked (hC.marked rev hrev)
  case held =>
    rw [hmonitors]
    intro e he rev hrev
    obtain ⟨howner, hm⟩ := hheld e he rev hrev
    exact ⟨howner, hquiet.marked hm⟩

end Edits

/-! ## Searching -/

section Search

variable {lib : CreationLibrary} {s : State}

theorem getRevision_eq_some_iff {monitorID : MonitorId} {revisionID : RevisionId}
    {revisions : RevisionTable} {rev : Revision} :
    getRevision monitorID revisionID revisions = some rev ↔
      rev ∈ revisions ∧ rev.id = revisionID ∧ rev.monitorId = monitorID := by
  rw [getRevision, Option.filter_eq_some_iff, Table.get?_eq_some_iff, decide_eq_true_eq, and_assoc]

theorem finds_afterDraft (hC : Catalog lib s) {call : CreateCall} (hkey : call.key ≠ "")
    {candidate : Monitor} {rest : List Monitor} {fails : Bool} {stage : CreateStage}
    (hnext : afterDraft lib call candidate
      (if fails then none
        else getRevision candidate.id candidate.currentDraftRevisionId s.revisions) rest =
      .inl stage)
    {input : CreateInput} {m : MonitorId} (hcreated : s.CreatedUnder call.key input m)
    (hhidden : fails = true → candidate.id ≠ m)
    (hfinds : Finds s m (.searching (candidate :: rest))) : Finds s m stage := by
  have hstage : stage = .searching rest := by
    unfold afterDraft at hnext
    split at hnext
    · exact (Sum.inl.inj hnext).symm
    · split at hnext
      · exact (Sum.inl.inj hnext).symm
      · split at hnext <;> cases hnext
  subst hstage
  obtain ⟨row, hrow, hid, rev, hrev, hdraft, howner⟩ := hfinds
  rcases List.mem_cons.mp hrow with rfl | hrow
  · -- the draft that was read carries the record, and the search would have ended
    have hread : fails = false := by
      by_contra hfails
      exact hhidden (by simpa using hfails) hid
    subst hid
    have hget : getRevision row.id row.currentDraftRevisionId s.revisions = some rev :=
      getRevision_eq_some_iff.mpr ⟨hrev, hdraft, howner⟩
    have hrecord := (hC.marked rev hrev).record_of_created call.key input hkey (howner ▸ hcreated)
    have hthis : (getRevision row.id row.currentDraftRevisionId s.revisions).bind
        (fun row => creationRecord lib.toLibrary row.definition) =
          some (call.key, fingerprint lib input) := by
      rw [hget, Option.bind_some, hrecord]
    simp only [afterDraft, hread, Bool.false_eq_true, if_false, hthis, ne_eq, not_true_eq_false]
      at hnext
    split at hnext <;> cases hnext
  · exact ⟨row, hrow, hid, rev, hrev, hdraft, howner⟩

theorem answerable_afterDraft (hC : Catalog lib s) {call : CreateCall} (hkey : call.key ≠ "")
    {candidate : Monitor} {rest : List Monitor} {fails : Bool} {result : Result}
    (hnext : afterDraft lib call candidate
      (if fails then none
        else getRevision candidate.id candidate.currentDraftRevisionId s.revisions) rest =
      .inr result) : Answerable lib s call result := by
  unfold afterDraft at hnext
  split at hnext
  · contradiction
  · rename_i key found hrecord
    obtain ⟨rev, hread, hrecord⟩ := Option.bind_eq_some_iff.mp hrecord
    have hget : getRevision candidate.id candidate.currentDraftRevisionId s.revisions =
        some rev := by
      split at hread
      · contradiction
      · exact hread
    obtain ⟨hrev, -, howner⟩ := getRevision_eq_some_iff.mp hget
    split at hnext
    · contradiction
    · rename_i hsame
      rw [ne_eq, not_not] at hsame
      subst hsame
      obtain ⟨input', hcreated⟩ := (hC.marked rev hrev).created_of_record _ _ hrecord
      have hfound := (hC.marked rev hrev).record_of_created _ input' hkey hcreated
      rw [hrecord, Option.some.injEq, Prod.mk.injEq] at hfound
      split at hnext
      · rename_i hother
        cases hnext
        exact ⟨input', rev.monitorId, hcreated, hfound.2 ▸ hother⟩
      · rename_i hequal
        rw [ne_eq, not_not] at hequal
        cases hnext
        exact ⟨input', howner ▸ hcreated, hfound.2.symm.trans hequal⟩

end Search

/-! ## Every step keeps the invariants -/

section Step

variable {lib : CreationLibrary} {s s' : State} {a : Action}

/-- A search that goes on finding what is there may move on. -/
theorem search_step (hC : Catalog lib s) (hR : Requests lib s) {callID : CallId} {call : CreateCall}
    (hcall : s.creates.get? callID = some call) (hkey : call.key ≠ "") {stage : CreateStage}
    (hfinds : ∀ input m, s.CreatedUnder call.key input m → Finds s m stage) :
    Catalog lib (s.setStage callID stage) ∧ Requests lib (s.setStage callID stage) := by
  obtain ⟨hmem, hid⟩ := Table.get?_eq_some_iff.mp hcall
  have honly : ∀ c ∈ s.creates, c.id = callID → c = call := fun c hc hc' =>
    Table.eq_of_key_eq hc hmem (hc'.trans hid.symm)
  refine ⟨hC.congr rfl rfl rfl fun _ _ _ => Iff.rfl, hR.setStage ?_ ?_⟩
  · exact fun c hc hc' => honly c hc hc' ▸ hkey
  · exact fun c hc hc' _ input m hm => hfinds input m (honly c hc hc' ▸ hm)

/-- **One step keeps the invariants.** -/
theorem invariant_step (hC : Catalog lib s) (hR : Requests lib s) (h : step lib s a = some s')
    (hG : KeepsRecords lib s a) : Catalog lib s' ∧ Requests lib s' := by
  cases a with
  | createMonitor callID process header input =>
    simp only [step] at h
    split at h
    · rename_i hentry
      simp only [Option.map_eq_some_iff] at h
      obtain ⟨creates, hinsert, rfl⟩ := h
      refine ⟨hC.congr rfl rfl rfl fun _ _ _ => Iff.rfl, ?_⟩
      refine @Requests.enter lib s { s with creates } hR _ hinsert rfl (.of_eq rfl rfl) rfl
        (trimSpace_trimSpace header) ?_ ?_ ?_ ?_ ?_
      · intro hempty
        have hempty : trimSpace header = "" := hempty
        simp only [KeepsRecords, if_pos hempty] at hG
        exact hG
      · intro hkey c hc hprocess
        have hfree := hentry.2.resolve_left hkey
        by_contra hlocked
        have htaken : s.creates.any (fun c => c.process = process ∧ c.key ≠ "") = true :=
          Table.any_eq_true.mpr ⟨c, hc, hprocess, hlocked⟩
        rw [hfree] at htaken
        exact Bool.false_ne_true htaken
      · intro hkey
        have hkey : trimSpace header ≠ "" := hkey
        simp only [if_neg hkey]
      · intro hstage hempty
        have hempty : trimSpace header = "" := hempty
        simp only [if_pos hempty] at hstage
        exact hstage rfl
      · grind [trimSpace, KeepsRecords]
    · exact absurd h.symm (Option.some_ne_none _)
  | listMonitors callID listed =>
    simp only [step] at h
    split at h
    · contradiction
    · rename_i call hcall
      obtain ⟨hmem, hid⟩ := Table.get?_eq_some_iff.mp hcall
      split at h
      · rename_i hstage
        have hkey : call.key ≠ "" := hR.keyed call hmem (by simp [hstage])
        split at h
        · cases h
          refine search_step hC hR hcall hkey fun input m hm => ?_
          exact absurd (hG call hmem hid _ hm rfl) (Option.some_ne_none m)
        · rename_i rows
          split at h
          · rename_i hperm
            cases h
            refine search_step hC hR hcall hkey fun input m hm => ?_
            obtain ⟨row, hrow, hrowId, -⟩ := hC.stored call.key input m hkey hm
            obtain ⟨rev, hrev, hdraft, howner⟩ := hC.drafts row hrow
            exact ⟨row, hperm.mem_iff.mpr hrow, hrowId, rev, hrev, hdraft, howner.trans hrowId⟩
          · contradiction
      · exact absurd h.symm (Option.some_ne_none _)
  | readDraft callID fails =>
    simp only [step] at h
    split at h
    · exact absurd h.symm (Option.some_ne_none _)
    · rename_i call hcall
      obtain ⟨hmem, hid⟩ := Table.get?_eq_some_iff.mp hcall
      split at h
      · rename_i hstage
        have hkey : call.key ≠ "" := hR.keyed call hmem (by simp [hstage])
        cases h
        refine search_step hC hR hcall hkey fun input m hm => ?_
        have hfinds := hR.searches call hmem hkey input m hm
        rw [hstage] at hfinds
        obtain ⟨row, hrow, -⟩ := hfinds
        exact absurd hrow List.not_mem_nil
      · rename_i candidate rest hstage
        have hkey : call.key ≠ "" := hR.keyed call hmem (by simp [hstage])
        split at h
        · rename_i stage hnext
          cases h
          refine search_step hC hR hcall hkey fun input m hm => ?_
          have hfinds := hR.searches call hmem hkey input m hm
          rw [hstage] at hfinds
          refine finds_afterDraft hC hkey hnext hm (fun hfails hhidden => ?_) hfinds
          subst hfails hhidden
          exact hG call hmem hid candidate (by rw [hstage]; rfl) _ hm rfl rfl
        · rename_i result hnext
          cases h
          have hanswer := answerable_afterDraft hC hkey hnext
          refine ⟨hC.answer ?_, hR.answer hmem hanswer⟩
          rintro m rfl
          exact hanswer
      · contradiction
  | create callID monitorID revisionID fails =>
    simp only [step] at h
    split at h
    · exact absurd h.symm (Option.some_ne_none _)
    · rename_i call hcall
      obtain ⟨hmem, hid⟩ := Table.get?_eq_some_iff.mp hcall
      split at h
      · rename_i hstage
        have hnone : call.key ≠ "" → ∀ m, ¬ s.CreatedUnder call.key call.input m := by
          intro hkey m hm
          have hfinds := hR.searches call hmem hkey call.input m hm
          rw [hstage] at hfinds
          exact hfinds
        rw [errors_request] at h
        split at h
        · rename_i herrors
          cases h
          exact ⟨hC.answer (by simp), hR.answer hmem ⟨.inl herrors, hnone⟩⟩
        · rename_i hvalid
          rw [ne_eq, not_not] at hvalid
          have hslug : slugTaken (call.request lib) s.monitors =
              slugTaken call.input s.monitors := by
            rw [slugTaken, slug_request, slugTaken]
          split at h
          · cases h
            exact ⟨hC.answer (by simp), hR.answer hmem trivial⟩
          · split at h
            · rename_i htaken
              cases h
              exact ⟨hC.answer (by simp), hR.answer hmem ⟨.inr (hslug ▸ htaken), hnone⟩⟩
            · rename_i hfree
              simp only [Option.map_eq_some_iff] at h
              obtain ⟨⟨monitors, revisions⟩, hcreate, rfl⟩ := h
              refine created_step hC hR hmem hstage hvalid ?_ ?_ hcreate
              · rw [← hslug]
                simpa using hfree
              · exact fun hkey => hG call hmem hid hkey
      · contradiction
  | saveDraft monitorID definition =>
    simp only [step] at h
    split at h
    · simp only [Option.map_eq_some_iff] at h
      obtain ⟨revisions, hupdate, rfl⟩ := h
      obtain ⟨row, hrow, hid, -⟩ := updateDraft_eq_some hupdate
      obtain ⟨rev, hrev, hdraft, howner⟩ := hC.drafts row hrow
      have hread : s.draft? monitorID = some rev := by
        rw [State.draft?, ← hid, Table.get?_of_mem hrow, Option.bind_some, ← hdraft,
          Table.get?_of_mem hrev]
      have hmarked : Marked lib s monitorID (normalizeScriptEnabledFlags definition) := by
        refine (hid ▸ howner ▸ hC.marked rev hrev : Marked lib s monitorID rev.definition)
          |>.of_record_eq ?_
        rw [creationRecord_normalize, hG rev hread]
      have hquiet : Quiet s { s with revisions } := ⟨rfl, rfl⟩
      obtain ⟨hC', hext⟩ := hC.updateDraft hquiet hupdate rfl (fun e he => he) hmarked
      exact ⟨hC', hR.of_extends hext rfl rfl⟩
    · exact absurd h.symm (Option.some_ne_none _)
  | beginEdit editID monitorID operation =>
    simp only [step, Option.map_eq_some_iff] at h
    obtain ⟨edits, hinsert, rfl⟩ := h
    refine ⟨hC.setEdits ⟨rfl, rfl⟩ rfl rfl fun e he rev hrev => ?_,
      hR.of_extends (.of_eq rfl rfl) rfl rfl⟩
    rw [Table.mem_def, (Table.insert_eq_some_iff.mp hinsert).2, List.mem_append,
      List.mem_singleton] at he
    rcases he with he | rfl
    · exact hC.held e he rev hrev
    · contradiction
  | getMonitor editID =>
    simp only [step] at h
    split at h
    · contradiction
    · split at h
      · cases h
        refine ⟨hC.setEdits ⟨rfl, rfl⟩ rfl rfl fun e he rev hrev => ?_,
          hR.of_extends (.of_eq rfl rfl) rfl rfl⟩
        simp only [State.setEdit, Table.mem_update] at he
        obtain ⟨e₀, he₀, rfl⟩ := he
        split at hrev
        · rename_i hid
          rw [if_pos hid]
          exact hC.held e₀ he₀ rev hrev
        · rename_i hid
          rw [if_neg hid]
          exact hC.held e₀ he₀ rev hrev
      · contradiction
  | readRevision editID =>
    simp only [step] at h
    split at h
    · contradiction
    · rename_i edit hedit
      obtain ⟨hmem, hid⟩ := Table.get?_eq_some_iff.mp hedit
      split at h
      · rename_i revision _ hread
        cases h
        obtain ⟨revisionID, -, hget⟩ := Option.bind_eq_some_iff.mp hread
        obtain ⟨hrev, -, howner⟩ := getRevision_eq_some_iff.mp hget
        refine ⟨hC.setEdits ⟨rfl, rfl⟩ rfl rfl fun e he rev hheld => ?_,
          hR.of_extends (.of_eq rfl rfl) rfl rfl⟩
        simp only [State.setEdit, Table.mem_update] at he
        obtain ⟨e₀, he₀, rfl⟩ := he
        split at hheld
        · rename_i hthis
          have hsame : e₀ = edit := Table.eq_of_key_eq he₀ hmem (hthis.trans hid.symm)
          subst hsame
          cases hheld
          rw [if_pos hthis]
          exact ⟨howner ▸ hC.owners revision hrev, howner ▸ hC.marked revision hrev⟩
        · rename_i hother
          rw [if_neg hother]
          exact hC.held e₀ he₀ rev hheld
      · contradiction
  | commitEdit editID monitorID revisionID =>
    simp only [step] at h
    split at h
    · contradiction
    · rename_i edit hedit
      obtain ⟨hmem, hid⟩ := Table.get?_eq_some_iff.mp hedit
      simp only [Option.map_eq_some_iff] at h
      obtain ⟨⟨monitors, revisions⟩, htransaction, rfl⟩ := h
      have hplain : ∀ name slug revision, edit.operation = .clone name slug →
          edit.revision = some revision →
          creationRecord lib.toLibrary revision.definition = none := by
        intro name slug revision hoperation hrevision
        exact hG edit hmem hid (by rw [hoperation]; rfl) revision hrevision
      have hquiet : Quiet s { s with
          monitors, revisions
          edits := s.edits.deleteWhere fun e => e.id = editID } := ⟨rfl, rfl⟩
      have hstep := edit_step hC hmem hplain htransaction hquiet
        fun e he => List.mem_of_mem_filter he
      exact ⟨hstep.1, hR.of_extends hstep.2 rfl rfl⟩
  | endEdit editID =>
    cases h
    exact ⟨hC.setEdits ⟨rfl, rfl⟩ rfl rfl fun e he => hC.held e (List.mem_of_mem_filter he),
      hR.of_extends (.of_eq rfl rfl) rfl rfl⟩

end Step

theorem catalog_initial (lib : CreationLibrary) : Catalog lib initial := by
  constructor <;> simp [initial, State.CreatedUnder]

theorem requests_initial (lib : CreationLibrary) : Requests lib initial := by
  constructor <;> simp [initial, State.CreatedUnder, State.requests, show
    (Table.empty : Table CreateCall CreateCall.id).rows = [] from rfl]

/-- **Creation under a key, along a run of the API.**  Whatever is created, saved,
published, cloned and restored, by however many processes and in whatever
order: as long as no action loses or copies the record of a creation and no
search is blind to it, the answers to each key agree in every state reached. -/
theorem idempotent_along (lib : CreationLibrary) (actions : List Action)
    (hkeeps : Along (step lib) (fun s a _ => KeepsRecords lib s a) initial actions) :
    Along (step lib) (fun _ _ s' => Idempotent s') initial actions := by
  refine Along.of_guard (I := fun s => Catalog lib s ∧ Requests lib s) ?_
    ⟨catalog_initial lib, requests_initial lib⟩ hkeeps
  intro s a s' ⟨hC, hR⟩ h hG
  have hafter := invariant_step hC hR h hG
  exact ⟨hafter, hafter.2.idempotent⟩

/-! ## Two requests with one key -/

/-- `{"name":"Checkout","slug":"checkout","definition":{"steps":[]}}`. -/
def checkoutInput : CreateInput where
  name := "Checkout"
  slug := "checkout"
  description := ""
  ownerId := ""
  tags := []
  environmentId := ""
  definition := some [("steps", .arr [])]

def checkoutApiInput : CreateInput :=
  { checkoutInput with name := "Checkout API", slug := "checkout-api" }

def hexDigits (text : String) : List (Fin 16) :=
  text.toList.map fun c => Fin.ofNat 16 (if c.isDigit then c.toNat - 48 else c.toNat - 87)

def checkoutLibrary : CreationLibrary where
  compile := fun _ => none
  formatFloat := fun _ => ""
  digest := fun input =>
    if input = checkoutInput then
      hexDigits "a466d1e2651401dc150563413a8d2080bd476f1106053dfecbac2c7323f9b6b7"
    else if input = checkoutApiInput then
      hexDigits "f2c00274d669f7048f6696326d100f2c6483dbc62076eb21edd378e54153a356"
    else []

/-- A definition with one step, and the record of the first request. -/
def checkoutDraft : Definition :=
  recordCreation "k1" (fingerprint checkoutLibrary checkoutInput)
    (some [("steps", .arr [.obj [("id", .str "s1"), ("type", .str "ACTION"),
      ("actions", .arr [.null])]])])

/-- The request is repeated by another process after its draft was saved and
published, and then sent with another body. -/
theorem idempotent_along_checkout :
    Along (step checkoutLibrary) (fun _ _ s' => Idempotent s') initial
      [.createMonitor 1 1 "k1" checkoutInput, .listMonitors 1 (some []), .readDraft 1 false,
        .create 1 10 100 false, .saveDraft 10 checkoutDraft, .beginEdit 1 10 .publish,
        .getMonitor 1, .readRevision 1, .commitEdit 1 10 101,
        .createMonitor 2 2 " k1" checkoutInput,
        .listMonitors 2 (some [createdMonitor 10 101 checkoutInput]), .readDraft 2 false,
        .createMonitor 3 1 "k1" checkoutApiInput,
        .listMonitors 3 (some [createdMonitor 10 101 checkoutInput]), .readDraft 3 false] :=
  idempotent_along checkoutLibrary _ (by decide +kernel)

/-- A draft is saved without the record: the repeated request does not find its
monitor and fails on the slug that it has taken itself. -/
theorem repeated_request_refused :
    ¬ ∀ lib actions, Along (step lib) (fun _ _ s' => Idempotent s') initial actions := by
  intro h
  have hrun := h checkoutLibrary
    [.createMonitor 1 1 "k1" checkoutInput, .listMonitors 1 (some []), .readDraft 1 false,
      .create 1 10 100 false,
      .saveDraft 10 [("steps", .arr [.obj [("id", .str "s1"), ("type", .str "ACTION"),
        ("actions", .arr [.null])]])],
      .createMonitor 2 1 "k1" checkoutInput,
      .listMonitors 2 (some [createdMonitor 10 100 checkoutInput]), .readDraft 2 false,
      .readDraft 2 false, .create 2 11 110 false]
  revert hrun
  decide +kernel

end Rhythm.Monitors
