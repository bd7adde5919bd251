import Rhythm.Alerts.Ingest
import Rhythm.Joined

/-!
# Rhythm.Alerts.Identity

Whose row is it?  An alert's row is found by a key that joins the receiver, the monitor, the
trigger, the alert and the bucket with colons, and all five may contain colons themselves.
A row keeps its key for good, so two events are written to one row exactly if their keys are
equal, in whatever order the events arrive and whatever happens in between.

`alertIdentity_iff`: that makes them events of one alert exactly if their parts, cut at every
colon, do not give the same pieces with the colons in different places.
-/

namespace Rhythm.Alerts.OpenSearch

open Notifications

/-! ## Keys -/

def identity (receiverID : String) (event : ExternalEvent) : List (List Char) :=
  [receiverID.toList, event.monitorId.toList, event.triggerId.toList, event.alertId.toList,
    event.bucketKey.toList]

def SameAlert (receiverID receiverID' : String) (event event' : ExternalEvent) : Prop :=
  receiverID = receiverID' ∧ event.monitorId = event'.monitorId ∧
    event.triggerId = event'.triggerId ∧ event.alertId = event'.alertId ∧
    event.bucketKey = event'.bucketKey

instance (receiverID receiverID' : String) (event event' : ExternalEvent) :
    Decidable (SameAlert receiverID receiverID' event event') :=
  inferInstanceAs (Decidable (_ ∧ _))

section Keys

variable {receiverID receiverID' : String} {event event' : ExternalEvent}

theorem identity_eq_iff : identity receiverID event = identity receiverID' event' ↔
    SameAlert receiverID receiverID' event event' := by
  simp [identity, SameAlert, String.toList_inj]

theorem toList_deduplicationKey (receiverID : String) (event : ExternalEvent) :
    (deduplicationKey receiverID event).toList =
      "opensearch:".toList ++ [':'].intercalate (identity receiverID event) := by
  have hjoin : ∀ first colon a b c d e : String, colon.toList = [':'] →
      (first ++ a ++ colon ++ b ++ colon ++ c ++ colon ++ d ++ colon ++ e).toList =
        first.toList ++ [':'].intercalate [a.toList, b.toList, c.toList, d.toList, e.toList] := by
    intro first colon a b c d e hcolon
    simp only [String.toList_append, hcolon, List.intercalate_cons_cons,
      List.intercalate_singleton, List.append_assoc]
  exact hjoin _ _ _ _ _ _ _ rfl

theorem deduplicationKey_eq_iff :
    deduplicationKey receiverID event = deduplicationKey receiverID' event' ↔
      [':'].intercalate (identity receiverID event) =
        [':'].intercalate (identity receiverID' event') := by
  rw [← String.toList_inj, toList_deduplicationKey, toList_deduplicationKey,
    List.append_cancel_left_eq]

end Keys

/-! ## Rows keep their keys -/

def State.key? (s : State) (alertID : AlertId) : Option String :=
  (s.alerts.get? alertID).map Alert.deduplicationKey

section Rows

variable {receiverID receiverID' : String} {event event' : ExternalEvent} {reconciled : Bool}
  {newID alertID : AlertId} {failing : Option Statement} {s s' : State} {alerts : AlertTable}

theorem key_writeAlert (k : AlertId)
    (h : writeAlert receiverID event reconciled newID s = some alerts) :
    (alerts.get? k).map Alert.deduplicationKey =
      if k = (eventTarget receiverID event newID s).alertId then
        some (deduplicationKey receiverID event)
      else s.key? k := by
  rw [get?_writeAlert h, ← @deduplicationKey_writtenAlert receiverID event reconciled newID s,
    apply_ite (Option.map _)]
  rfl

variable {key : String}

theorem key_eventTarget (h : writeAlert receiverID event reconciled newID s = some alerts)
    (hkey : s.key? (eventTarget receiverID event newID s).alertId = some key) :
    key = deduplicationKey receiverID event := by
  unfold writeAlert at h
  unfold eventTarget State.key? at hkey
  cases hlatest : latestAlert? (deduplicationKey receiverID event) s.alerts with
  | none =>
    simp only [hlatest] at h hkey
    have hfresh : s.alerts.get? newID = none := Table.get?_of_insert_eq_none h
    rw [hfresh] at hkey
    cases hkey
  | some existing =>
    simp only [hlatest, get?_of_latestAlert? hlatest, Option.map_some,
      Option.some.injEq] at hkey
    rw [← hkey, key_of_latestAlert? hlatest]

theorem exists_writeAlert (hwrites : failing.any Statement.precedesWrite = false)
    (h : applyEvent receiverID event reconciled newID failing s = some s') :
    writeAlert receiverID event reconciled newID s = some s'.alerts := by
  rw [applyEvent, if_neg (by simp [hwrites]), Option.map_eq_some_iff] at h
  obtain ⟨alerts, halerts, rfl⟩ := h
  exact halerts

theorem key_update {p : Alert → Prop} [DecidablePred p] {f : Alert → Alert}
    (hf : Table.KeepsKey Alert.id f)
    (hkey : ∀ alert, (f alert).deduplicationKey = alert.deduplicationKey) (k : AlertId) :
    ((alerts.update p f hf).get? k).map Alert.deduplicationKey =
      (alerts.get? k).map Alert.deduplicationKey := by
  rw [Table.get?_update, Option.map_map]
  congr 1
  funext alert
  rw [Function.comp_apply]
  split
  · exact hkey alert
  · rfl

theorem key_acknowledge (now : Time) (k : AlertId) :
    ((acknowledge alertID now alerts).get? k).map Alert.deduplicationKey =
      (alerts.get? k).map Alert.deduplicationKey := by
  rw [acknowledge, key_update]
  intro alert
  rfl

theorem key_resolve (now : Time) (k : AlertId) :
    ((resolve alertID now alerts).get? k).map Alert.deduplicationKey =
      (alerts.get? k).map Alert.deduplicationKey := by
  rw [resolve, key_update]
  intro alert
  rfl

/-- **One step** keeps the key of every row. -/
theorem key_step {action : Action} (h : step s action = some s')
    (hkey : s.key? alertID = some key) : s'.key? alertID = some key := by
  cases action with
  | tick elapsed | setChannelActive channelID active => cases h; exact hkey
  | createChannel channel =>
    obtain ⟨channels, -, rfl⟩ := Option.map_eq_some_iff.mp h
    exact hkey
  | applyEvent receiverID event reconciled newID failing =>
    have happly : applyEvent receiverID event reconciled newID failing s = some s' := h
    by_cases hwrites : failing.any Statement.precedesWrite = true
    · rw [applyEvent, if_pos hwrites] at happly
      cases happly
      exact hkey
    · have halerts := exists_writeAlert (Bool.not_eq_true _ ▸ hwrites) happly
      rw [State.key?, key_writeAlert alertID halerts]
      split
      · next hk =>
        rw [hk] at hkey
        rw [key_eventTarget halerts hkey]
      · exact hkey
  | acknowledge alertID' =>
    cases h
    exact (key_acknowledge s.now alertID).trans hkey
  | resolve alertID' =>
    cases h
    exact (key_resolve s.now alertID).trans hkey
  | claim delivery | finish delivery delivered =>
    simp only [step] at h
    split at h <;> cases h
    exact hkey

theorem key_reachable (h : Reachable step s s')
    (hkey : s.key? alertID = some key) : s'.key? alertID = some key :=
  h.invariant (I := fun s => s.key? alertID = some key) (fun _ _ _ hkey hstep =>
    key_step hstep hkey) hkey

end Rows

/-! ## Shared rows -/

/-- `applyEvent` writes the row of the event, new or old. -/
def WritesRow (receiverID : String) (event : ExternalEvent) (alertID : AlertId) (s s' : State) :
    Prop :=
  ∃ reconciled newID failing, failing.any Statement.precedesWrite = false ∧
    step s (.applyEvent receiverID event reconciled newID failing) = some s' ∧
    (eventTarget receiverID event newID s).alertId = alertID

/-- In some run the second event is written to the row of the first. -/
def ShareRow (receiverID receiverID' : String) (event event' : ExternalEvent) : Prop :=
  ∃ now s t s' t' alertID, Reachable step (initial now) s ∧
    WritesRow receiverID event alertID s t ∧ Reachable step t s' ∧
    WritesRow receiverID' event' alertID s' t'

section Shared

variable {receiverID receiverID' : String} {event event' : ExternalEvent} {alertID : AlertId}
  {s s' : State}

theorem WritesRow.key (h : WritesRow receiverID event alertID s s') :
    s'.key? alertID = some (deduplicationKey receiverID event) := by
  obtain ⟨reconciled, newID, failing, hwrites, hstep, rfl⟩ := h
  rw [State.key?, key_writeAlert _ (exists_writeAlert hwrites hstep), if_pos rfl]

theorem WritesRow.key_before (h : WritesRow receiverID event alertID s s') {key : String}
    (hkey : s.key? alertID = some key) : key = deduplicationKey receiverID event := by
  obtain ⟨reconciled, newID, failing, hwrites, hstep, rfl⟩ := h
  exact key_eventTarget (exists_writeAlert hwrites hstep) hkey

theorem exists_step_applyEvent {reconciled : Bool} {newID : AlertId}
    (h : (writeAlert receiverID event reconciled newID s).isSome = true) :
    ∃ s', step s (.applyEvent receiverID event reconciled newID none) = some s' := by
  rw [← Option.isSome_iff_exists]
  have happly : (applyEvent receiverID event reconciled newID none s).isSome = true := by
    rw [applyEvent, if_neg (by simp), Option.isSome_map]
    exact h
  exact happly

theorem exists_writesRow_of_latest {existing : Alert}
    (h : latestAlert? (deduplicationKey receiverID event) s.alerts = some existing) :
    ∃ s', WritesRow receiverID event existing.id s s' := by
  have hwrite : (writeAlert receiverID event false 0 s).isSome = true := by
    simp only [writeAlert, h]
    rfl
  obtain ⟨s', hstep⟩ := exists_step_applyEvent hwrite
  exact ⟨s', false, 0, none, rfl, hstep, by simp only [eventTarget, h]⟩

theorem exists_writesRow_initial (receiverID : String) (event : ExternalEvent) :
    ∃ s', WritesRow receiverID event 1 (initial 0) s' := by
  have hnone : latestAlert? (deduplicationKey receiverID event) (initial 0).alerts = none := rfl
  have hwrite : (writeAlert receiverID event false 1 (initial 0)).isSome = true := by
    simp only [writeAlert, hnone]
    rfl
  obtain ⟨s', hstep⟩ := exists_step_applyEvent hwrite
  exact ⟨s', false, 1, none, rfl, hstep, by simp only [eventTarget, hnone]⟩

/-- **Events share a row** exactly if their keys are equal. -/
theorem shareRow_iff : ShareRow receiverID receiverID' event event' ↔
    deduplicationKey receiverID event = deduplicationKey receiverID' event' := by
  constructor
  · rintro ⟨now, s, t, s', t', alertID, -, hfirst, hbetween, hsecond⟩
    exact hsecond.key_before (key_reachable hbetween hfirst.key)
  · intro hkey
    obtain ⟨t, hfirst⟩ := exists_writesRow_initial receiverID event
    -- The second event reads the row that the first one has inserted.
    obtain ⟨reconciled, newID, failing, hwrites, hstep, hid⟩ := id hfirst
    have hread := latestAlert?_writeAlert (deduplicationKey receiverID' event')
      (exists_writeAlert hwrites hstep)
    rw [if_pos hkey.symm, hid] at hread
    obtain ⟨existing, hlatest, hexisting⟩ := Option.map_eq_some_iff.mp hread
    have hexistingId : existing.id = 1 := congrArg Prod.fst hexisting
    obtain ⟨t', hsecond⟩ := exists_writesRow_of_latest hlatest
    exact ⟨0, initial 0, t, t, t', 1, ⟨[], rfl⟩, hfirst, ⟨[], rfl⟩, hexistingId ▸ hsecond⟩

end Shared

/-! ## Identity -/

/-- **Alert identity.**  In no run two normalised events of different alerts are written to one
row, exactly if the parts of their identities have different pieces between the colons, or as
many colons each. -/
theorem alertIdentity_iff (unescape : String → String) (receiverID receiverID' : String)
    (sent sent' : ExternalEvent) :
    let event := normalizeEvent unescape sent
    let event' := normalizeEvent unescape sent'
    (ShareRow receiverID receiverID' event event' →
        SameAlert receiverID receiverID' event event') ↔
      (piecesOf ':' (identity receiverID event) = piecesOf ':' (identity receiverID' event') →
        (identity receiverID event).map (·.count ':') =
          (identity receiverID' event').map (·.count ':')) := by
  intro event event'
  rw [shareRow_iff, deduplicationKey_eq_iff, ← identity_eq_iff]
  exact join_determines_iff rfl (List.cons_ne_nil _ _)

def bucketEvent (alertID bucketKey : String) : ExternalEvent :=
  { ExternalEvent.zero with
    monitorId := "errors"
    monitorType := "BUCKET"
    triggerId := "high"
    alertId := alertID
    bucketKey := bucketKey
    state := "ACTIVE" }

/-- Alert `a` of bucket `b:c` and alert `a:b` of bucket `c` share a row. -/
theorem bucket_alerts_share_row :
    ¬∀ (unescape : String → String) (receiverID receiverID' : String) (expected : List String)
      (sent sent' : ExternalEvent),
      validateEvent (normalizeEvent unescape sent) expected = none →
      validateEvent (normalizeEvent unescape sent') expected = none →
      ShareRow receiverID receiverID' (normalizeEvent unescape sent)
        (normalizeEvent unescape sent') →
      SameAlert receiverID receiverID' (normalizeEvent unescape sent)
        (normalizeEvent unescape sent') := by
  intro h
  have hsame := h id "r" "r" ["BUCKET"] (bucketEvent "a" "b:c") (bucketEvent "a:b" "c")
    (by decide +kernel) (by decide +kernel) (shareRow_iff.mpr (by decide +kernel))
  revert hsame
  decide +kernel

end Rhythm.Alerts.OpenSearch
