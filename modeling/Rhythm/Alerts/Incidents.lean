import Rhythm.Alerts.OpenSearch
import Rhythm.Storage.AlertState

/-!
# Rhythm.Alerts.Incidents

All that is written to `alerts`: by the save of a finished run, by received
events, and by the requests to acknowledge and to resolve.  In any order of
these, a deduplication key has at most one active alert, as the unique index
`alerts_active_dedup_idx` demands, the key of a received alert has one row, and
an alert of a monitor that is resolved is never written again
(`incidents_along`).
-/

namespace Rhythm.Alerts.Incidents

open Runs OpenSearch

/-! ## The writers -/

/-- A step of the alert store, or the save of a finished run that evaluates its monitor. -/
inductive Action where
  | store (a : OpenSearch.Action)
  | save (policy? : Option AlertPolicy) (monitorName : String) {runs : RunTable} (run : MonitorRun)
      (history : RunHistory runs run.monitorId) (newID : AlertId)

def step (s : State) : Action → Option State
  | .store a => OpenSearch.step s a
  | .save policy? monitorName run history newID =>
    if hfresh : s.alerts.get? newID = none then
      let store := (evaluateAlertState policy? monitorName s.channels run history
        ⟨s.alerts, s.deliveries⟩ ⟨newID, hfresh⟩).2
      some { s with alerts := store.alerts, deliveries := store.deliveries }
    else none

/-! ## What a step writes -/

/-- The alert is one of a monitor of this component. -/
def Own (alert : Alert) : Prop := alert.source = .rhythmMonitor

/-- An alert of a monitor has the key of a monitor and is never an error; any other was received. -/
def Sound (a : Alert) : Prop :=
  (Own a → (∃ monitorID, a.deduplicationKey = monitorKey monitorID) ∧ a.state ≠ .error) ∧
    (¬ Own a → ∃ receiverID event, a.deduplicationKey = deduplicationKey receiverID event)

/-- Two alerts of one key are both of its monitor, and one of them is over. -/
def Apart (a b : Alert) : Prop :=
  a.deduplicationKey = b.deduplicationKey →
    a.id = b.id ∨ Own a ∧ Own b ∧ ¬ (a.IsActive ∧ b.IsActive)

theorem Apart.symm {a b : Alert} (h : Apart a b) : Apart b a := fun hkey =>
  (h hkey.symm).imp Eq.symm fun ⟨ha, hb, hactive⟩ => ⟨hb, ha, fun hboth => hactive hboth.symm⟩

/-- What every step keeps. -/
structure Indexed (alerts : AlertTable) : Prop where
  sound : ∀ a ∈ alerts, Sound a
  apart : ∀ a ∈ alerts, ∀ b ∈ alerts, Apart a b

/-- **What a step writes.**  It updates rows, none of them a resolved one of a monitor, or inserts
a row that the index admits. -/
inductive Writes (alerts : AlertTable) : AlertTable → Prop
  | nothing : Writes alerts alerts
  | update {p : Alert → Prop} [DecidablePred p] {f : Alert → Alert}
      (hf : Table.KeepsKey Alert.id f)
      (hsame : ∀ a, (f a).deduplicationKey = a.deduplicationKey ∧ (f a).source = a.source)
      (hown : ∀ a ∈ alerts, p a → Own a → a.IsActive ∧ (f a).state ≠ .error) :
      Writes alerts (alerts.update p f hf)
  | insert (row : Alert) {alerts' : AlertTable} (hmem : ∀ a, a ∈ alerts' ↔ a ∈ alerts ∨ a = row)
      (hsound : Sound row) (hapart : ∀ a ∈ alerts, Apart a row) : Writes alerts alerts'

section Steps

variable {alerts alerts' : AlertTable} {s s' : State}

theorem deduplicationKey_ne_monitorKey (receiverID : String) (event : ExternalEvent)
    (monitorID : MonitorId) : deduplicationKey receiverID event ≠ monitorKey monitorID := by
  have hfirst : ∀ x y : List Char, "opensearch:".toList ++ x ≠ "monitor:".toList ++ y := by
    intro x y h
    have hhead := congrArg List.head? h
    simp at hhead
  intro h
  have hlist := congrArg String.toList h
  unfold deduplicationKey monitorKey at hlist
  simp only [String.toList_append, List.append_assoc] at hlist
  exact hfirst _ _ hlist

theorem Sound.not_own {a : Alert} (h : Sound a) {receiverID : String} {event : ExternalEvent}
    (hkey : a.deduplicationKey = deduplicationKey receiverID event) : ¬ Own a := by
  intro hown
  obtain ⟨⟨monitorID, hmonitor⟩, -⟩ := h.1 hown
  exact deduplicationKey_ne_monitorKey receiverID event monitorID (hkey.symm.trans hmonitor)

theorem Sound.own {a : Alert} (h : Sound a) {monitorID : MonitorId}
    (hkey : a.deduplicationKey = monitorKey monitorID) : Own a := by
  by_contra hown
  obtain ⟨receiverID, event, hreceived⟩ := h.2 hown
  exact deduplicationKey_ne_monitorKey receiverID event monitorID (hreceived.symm.trans hkey)

theorem Indexed.of_writes (h : Indexed alerts) (hwrites : Writes alerts alerts') :
    Indexed alerts' := by
  cases hwrites with
  | nothing => exact h
  | @update p _ f hf hsame hown =>
    -- A row stays the same but for its state, and none of a monitor becomes active again.
    have hrow : ∀ a ∈ alerts, (if p a then f a else a).id = a.id ∧
        (if p a then f a else a).deduplicationKey = a.deduplicationKey ∧
        (if p a then f a else a).source = a.source ∧
        (Own a → (if p a then f a else a).IsActive → a.IsActive) ∧
        (Own a → a.state ≠ .error → (if p a then f a else a).state ≠ .error) := by
      intro a ha
      split
      · rename_i hp
        exact ⟨hf.key_eq a, (hsame a).1, (hsame a).2, fun hsource _ => (hown a ha hp hsource).1,
          fun hsource _ => (hown a ha hp hsource).2⟩
      · exact ⟨rfl, rfl, rfl, fun _ => id, fun _ => id⟩
    refine ⟨fun a' ha' => ?_, fun a' ha' b' hb' hkey => ?_⟩
    all_goals
      obtain ⟨a, ha, rfl⟩ := Table.mem_update.mp ha'
      obtain ⟨hid, hkeys, hsource, hactive, herror⟩ := hrow a ha
    · unfold Sound Own
      rw [hkeys, hsource]
      exact (h.sound a ha).imp_left fun hsound howner =>
        ⟨(hsound howner).1, herror howner (hsound howner).2⟩
    · obtain ⟨b, hb, rfl⟩ := Table.mem_update.mp hb'
      obtain ⟨hid', hkeys', hsource', hactive', -⟩ := hrow b hb
      rw [hkeys, hkeys'] at hkey
      unfold Own
      rw [hid, hid', hsource, hsource']
      exact (h.apart a ha b hb hkey).imp_right fun ⟨howner, howner', hboth⟩ =>
        ⟨howner, howner', fun hnow => hboth ⟨hactive howner hnow.1, hactive' howner' hnow.2⟩⟩
  | @insert row _ hmem hsound hapart =>
    refine ⟨fun a ha => ?_, fun a ha b hb => ?_⟩
    · obtain ha | rfl := (hmem a).mp ha
      · exact h.sound a ha
      · exact hsound
    · obtain ha | rfl := (hmem a).mp ha
      · obtain hb | rfl := (hmem b).mp hb
        · exact h.apart a ha b hb
        · exact hapart a ha
      · obtain hb | rfl := (hmem b).mp hb
        · exact (hapart b hb).symm
        · exact fun _ => .inl rfl

/-- A resolved alert of a monitor is left as it is. -/
theorem mem_of_writes (hwrites : Writes alerts alerts') {a : Alert} (ha : a ∈ alerts)
    (hown : Own a) (hresolved : a.state = .resolved) : a ∈ alerts' := by
  cases hwrites with
  | nothing => exact ha
  | @update p _ f hf _ hrows =>
    refine Table.mem_update.mpr ⟨a, ha, if_neg fun hp => ?_⟩
    have hactive := (hrows a ha hp hown).1
    simp [Alert.IsActive, hresolved] at hactive
  | insert _ hmem => exact (hmem a).mpr (.inl ha)

/-! ## What each writer does -/

section Save

variable {monitorName : String} {channels : Notifications.ChannelTable} {run : MonitorRun}
  {store : AlertStore} {newID : FreshAlertId store.alerts}

theorem writes_raiseAlert (h : Indexed store.alerts) {policy : AlertPolicy}
    {consecutiveFailures : Nat} : Writes store.alerts
      (raiseAlert policy monitorName channels run consecutiveFailures store newID).2.alerts := by
  unfold raiseAlert
  cases hfind : activeAlert? (monitorKey run.monitorId) store.alerts with
  | some active =>
    have hmem : active ∈ store.alerts := List.mem_of_find?_eq_some hfind
    have hactive : active.IsActive := by
      have hfound := List.find?_some hfind
      simp only [decide_eq_true_eq] at hfound
      exact hfound.2
    dsimp only
    apply Writes.update
    · exact fun _ => ⟨rfl, rfl⟩
    intro a ha hid _
    obtain rfl := Table.eq_of_key_eq ha hmem hid
    refine ⟨hactive, fun herror => ?_⟩
    simp [Alert.IsActive, show a.state = .error from herror] at hactive
  | none =>
    refine .insert (openedAlert newID policy monitorName run consecutiveFailures) (fun a => ?_)
      ⟨fun _ => ⟨⟨run.monitorId, rfl⟩, nofun⟩, fun hown => (hown rfl).elim⟩
      fun a ha hkey => .inr ⟨(h.sound a ha).own hkey, rfl, fun hactive => ?_⟩
    · rw [Table.mem_insertIgnore, and_iff_right]
      exact newID.2
    · have hkey' : a.deduplicationKey = monitorKey run.monitorId := hkey
      simpa [hkey', hactive.1] using List.find?_eq_none.mp hfind a ha

theorem writes_evaluateAlertState (h : Indexed store.alerts) {policy? : Option AlertPolicy}
    {runs : RunTable} {history : RunHistory runs run.monitorId} :
    Writes store.alerts
      (evaluateAlertState policy? monitorName channels run history store newID).2.alerts := by
  unfold evaluateAlertState resolveAlerts
  dsimp only
  split
  · exact writes_raiseAlert h
  · split
    · apply Writes.update
      · exact ⟨fun _ => rfl⟩
      · exact fun _ => ⟨rfl, rfl⟩
      · exact fun a _ hp _ => ⟨hp.2, fun herror => by cases herror⟩
    · exact .nothing

end Save

theorem writes_writeAlert (h : Indexed s.alerts) {receiverID : String} {event : ExternalEvent}
    {reconciled : Bool} {newID : AlertId}
    (hwrite : writeAlert receiverID event reconciled newID s = some alerts') :
    Writes s.alerts alerts' := by
  unfold writeAlert at hwrite
  cases hlatest : latestAlert? (deduplicationKey receiverID event) s.alerts with
  | none =>
    simp only [hlatest] at hwrite
    refine .insert (insertedAlert newID receiverID event reconciled (event.occurredAt.getD s.now))
      (fun a => ?_) ⟨nofun, fun _ => ⟨receiverID, event, rfl⟩⟩ fun a ha hkey => ?_
    · rw [Table.mem_def, (Table.insert_eq_some_iff.mp hwrite).2, List.mem_append,
        List.mem_singleton, Table.mem_def]
    · unfold latestAlert? at hlatest
      have hnone := List.argmax_eq_none.mp hlatest
      exact absurd hnone (List.ne_nil_of_mem (List.mem_filter.mpr ⟨ha, decide_eq_true hkey⟩))
  | some existing =>
    simp only [hlatest, Option.some.injEq] at hwrite
    subst hwrite
    apply Writes.update
    · exact fun _ => ⟨rfl, rfl⟩
    intro a ha hid hown
    unfold latestAlert? at hlatest
    obtain ⟨hmem, hkey⟩ := List.mem_filter.mp (List.argmax_mem hlatest)
    obtain rfl := Table.eq_of_key_eq ha hmem hid
    exact absurd hown ((h.sound a ha).not_own (of_decide_eq_true hkey))

theorem writes_step (h : Indexed s.alerts) {a : Action} (hstep : step s a = some s') :
    Writes s.alerts s'.alerts := by
  cases a with
  | save policy? monitorName run history newID =>
    simp only [step] at hstep
    split at hstep
    · cases hstep
      exact @writes_evaluateAlertState _ _ _ ⟨s.alerts, s.deliveries⟩ ⟨newID, _⟩ h _ _ _
    · contradiction
  | store a =>
    cases a with
    | tick _ | setChannelActive _ _ =>
      cases hstep
      exact .nothing
    | createChannel channel =>
      obtain ⟨channels, -, rfl⟩ := Option.map_eq_some_iff.mp hstep
      exact .nothing
    | claim _ | finish _ _ =>
      simp only [step, OpenSearch.step, guarded_eq_some_iff] at hstep
      obtain ⟨-, rfl⟩ := hstep
      exact .nothing
    | applyEvent receiverID event reconciled newID failing =>
      simp only [step, OpenSearch.step, applyEvent] at hstep
      split at hstep
      · cases hstep
        exact .nothing
      · obtain ⟨alerts', hwrite, rfl⟩ := Option.map_eq_some_iff.mp hstep
        exact writes_writeAlert h hwrite
    | acknowledge alertID =>
      cases hstep
      apply Writes.update
      · exact ⟨fun _ => rfl⟩
      · exact fun _ => ⟨rfl, rfl⟩
      · exact fun a ha hp hown => ⟨.inl (hp.2.resolve_right ((h.sound a ha).1 hown).2),
          fun herror => by cases herror⟩
    | resolve alertID =>
      cases hstep
      apply Writes.update
      · exact ⟨fun _ => rfl⟩
      · exact fun _ => ⟨rfl, rfl⟩
      intro a ha hp hown
      refine ⟨?_, fun herror => by cases herror⟩
      obtain ⟨-, -, hopen | hacknowledged | herror⟩ := hp
      · exact .inl hopen
      · exact .inr hacknowledged
      · exact absurd herror ((h.sound a ha).1 hown).2

end Steps

theorem indexed_initial (now : Time) : Indexed (initial now).alerts where
  sound a ha := absurd ha (Table.not_mem_empty a)
  apart a ha := absurd ha (Table.not_mem_empty a)

/-- **One active alert, and no second life.**  Whatever is saved, received, acknowledged and
resolved, and in whatever order: no two active alerts share a deduplication key, no alert shares
that of a received one, and every step leaves the resolved alerts of monitors as they are. -/
theorem incidents_along (now : Time) (as : List Action) :
    Along step (fun s _ s' => OneActive s'.alerts ∧
      (∀ a ∈ s'.alerts, a.source = .openSearchAlerting →
        ∀ b ∈ s'.alerts, b.deduplicationKey = a.deduplicationKey → b.id = a.id) ∧
      ∀ a ∈ s.alerts, a.source = .rhythmMonitor → a.state = .resolved → a ∈ s'.alerts)
      (initial now) as := by
  refine Along.of_invariant (I := fun s => Indexed s.alerts) (fun s a s' h hstep => ?_)
    (indexed_initial now)
  have hwrites := writes_step h hstep
  have h' := h.of_writes hwrites
  refine ⟨h', fun a ha b hb hactive hactive' hkey => ?_, fun a ha hsource b hb hkey => ?_,
    fun _ => mem_of_writes hwrites⟩
  · exact (h'.apart a ha b hb hkey).resolve_right fun hapart => hapart.2.2 ⟨hactive, hactive'⟩
  · refine (h'.apart b hb a ha hkey).resolve_right fun hapart => ?_
    have hown : a.source = .rhythmMonitor := hapart.2.1
    rw [hsource] at hown
    contradiction

end Rhythm.Alerts.Incidents
