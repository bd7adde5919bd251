import Rhythm.Scheduler.Poll

/-!
# Rhythm.Scheduler.Isolation

Does one due schedule keep another from being enqueued?  All due schedules share
one transaction, so a poll enqueues every one of them or none.
-/

namespace Rhythm.Scheduler

open Fallible

variable {δ Δ : Type} {d : Service δ Δ} {s : State δ Δ} {locked : List String} {delay : Nat}
  {item : DueSchedule δ}

/-! ## One schedule -/

def State.only (s : State δ Δ) (scheduleId : String) : State δ Δ :=
  { s with schedules := s.schedules.deleteWhere fun config => config.id ≠ scheduleId }

def Enqueues (d : Service δ Δ) (locked : List String) (delay : Nat) (s : State δ Δ)
    (item : DueSchedule δ) : Prop :=
  ∃ s', d.enqueueDue locked delay s = .ok s' ∧
    s.jobs.get? (deduplication item.config.id item.nextRunAt) = none ∧
      ∃ job, s'.jobs.get? (deduplication item.config.id item.nextRunAt) = some job

/-- Nothing about the schedule itself keeps it from being enqueued: its definition decodes, its next
run can be computed and its key is free. -/
structure Enqueueable (d : Service δ Δ) (delay : Nat) (s : State δ Δ) (item : DueSchedule δ) :
    Prop where
  decodes : ∃ definition, d.decode item.revision.definition = .ok definition
  continues : ∃ next, d.nextRun item (s.now + delay) = .ok next
  free : s.jobs.get? (deduplication item.config.id item.nextRunAt) = none

/-! ## All or nothing -/

theorem exists_queuedFor_iff {now : Int} {due : List (DueSchedule δ)} :
    (∃ queued, List.Forall₂ (QueuedFor d now) due queued) ↔
      ∀ item ∈ due, (∃ definition, d.decode item.revision.definition = .ok definition) ∧
        ∃ next, d.nextRun item now = .ok next := by
  rw [exists_forall₂_iff]
  refine forall₂_congr fun item _ => ?_
  constructor
  · rintro ⟨_, definition, next, hdecode, hnext, -⟩
    exact ⟨⟨definition, hdecode⟩, next, hnext⟩
  · rintro ⟨⟨definition, hdecode⟩, next, hnext⟩
    exact ⟨_, definition, next, hdecode, hnext, rfl⟩

theorem enqueues_iff (hitem : item ∈ d.dueSchedules locked s) :
    Enqueues d locked delay s item ↔
      ∀ other ∈ d.dueSchedules locked s, Enqueueable d delay s other := by
  constructor
  · rintro ⟨s', hpoll, -, -⟩ other hother
    obtain ⟨queued, jobs, hqueued, hjobs, -⟩ := enqueueDue_eq_ok_iff.mp hpoll
    obtain ⟨hdecodes, hcontinues⟩ := exists_queuedFor_iff.mp ⟨queued, hqueued⟩ other hother
    refine ⟨hdecodes, hcontinues, ?_⟩
    obtain ⟨-, hfree, -⟩ := Table.insertAll_eq_some_iff.mp hjobs
    have hkey : deduplication other.config.id other.nextRunAt ∈
        (queued.map Queued.job).map Job.deduplicationKey := by
      rw [keys_of_queuedFor hqueued]
      exact List.mem_map.mpr ⟨other, hother, rfl⟩
    obtain ⟨job, hjob, hjobKey⟩ := List.mem_map.mp hkey
    rw [← hjobKey]
    exact hfree job hjob
  · intro h
    obtain ⟨queued, hqueued⟩ := exists_queuedFor_iff.mpr fun other hother =>
      ⟨(h other hother).decodes, (h other hother).continues⟩
    have hkeys := keys_of_queuedFor hqueued
    cases hjobs : s.jobs.insertAll (queued.map Queued.job) with
    | none =>
      refine absurd ⟨?_, fun job hjob => ?_⟩ (Table.insertAll_eq_none_iff.mp hjobs)
      · rw [hkeys]
        exact nodup_keys
      · have hkey := List.mem_map_of_mem (f := Job.deduplicationKey) hjob
        rw [hkeys] at hkey
        obtain ⟨other, hother, hotherKey⟩ := List.mem_map.mp hkey
        rw [← hotherKey]
        exact (h other hother).free
    | some jobs =>
      refine ⟨_, enqueueDue_eq_ok_iff.mpr ⟨queued, jobs, hqueued, hjobs, rfl⟩,
        (h item hitem).free, ?_⟩
      obtain ⟨-, -, hrows⟩ := Table.insertAll_eq_some_iff.mp hjobs
      have hkey : deduplication item.config.id item.nextRunAt ∈
          (queued.map Queued.job).map Job.deduplicationKey := by
        rw [hkeys]
        exact List.mem_map.mpr ⟨item, hitem, rfl⟩
      obtain ⟨job, hjob, hjobKey⟩ := List.mem_map.mp hkey
      refine ⟨job, hjobKey ▸ Table.get?_of_mem ?_⟩
      rw [Table.mem_def, hrows]
      exact List.mem_append_right _ hjob

theorem dueSchedules_only (hitem : item ∈ d.dueSchedules locked s) :
    d.dueSchedules locked (s.only item.config.id) = [item] := by
  obtain ⟨config, hconfig, hrow⟩ :=
    List.mem_filterMap.mp ((List.mem_insertionSort _).mp (List.mem_of_mem_take hitem))
  obtain ⟨hmem, hlocked⟩ := List.mem_filter.mp hconfig
  obtain ⟨rfl, -⟩ := dueRow_eq_some hrow
  have hrows : (s.only item.config.id).schedules.rows = [item.config] := by
    have hkey := s.schedules.filter_key item.config.id
    rw [Table.get?_of_mem hmem] at hkey
    simpa [State.only, Table.deleteWhere] using hkey
  have honly : dueRow (s.only item.config.id) item.config = some item := hrow
  have hunlocked : ([item.config].filter fun config => config.id ∉ locked) = [item.config] :=
    List.filter_cons_of_pos hlocked
  rw [Service.dueSchedules, hrows, hunlocked, List.filterMap_cons_some honly, List.filterMap_nil]
  exact List.take_of_length_le d.batchSize_pos

theorem enqueues_only_iff (hitem : item ∈ d.dueSchedules locked s) :
    Enqueues d locked delay (s.only item.config.id) item ↔ Enqueueable d delay s item := by
  have honly := dueSchedules_only hitem
  have hself : item ∈ d.dueSchedules locked (s.only item.config.id) := by
    rw [honly]
    exact List.mem_cons_self
  rw [enqueues_iff hself, honly, List.forall_mem_singleton]
  constructor
  · rintro ⟨hdecodes, hcontinues, hfree⟩
    exact ⟨hdecodes, hcontinues, hfree⟩
  · rintro ⟨hdecodes, hcontinues, hfree⟩
    exact ⟨hdecodes, hcontinues, hfree⟩

/-- **Isolation.**  For every state and every poll: each schedule that would be enqueued by itself
is enqueued with the others exactly when all the schedules that the poll takes are
enqueueable, or none is. -/
theorem isolated_iff (d : Service δ Δ) (locked : List String) (delay : Nat) (s : State δ Δ) :
    (∀ item ∈ d.dueSchedules locked s,
      Enqueues d locked delay (s.only item.config.id) item → Enqueues d locked delay s item) ↔
      (∀ item ∈ d.dueSchedules locked s, Enqueueable d delay s item) ∨
        ∀ item ∈ d.dueSchedules locked s, ¬ Enqueueable d delay s item := by
  constructor
  · intro h
    by_cases hany : ∃ item ∈ d.dueSchedules locked s, Enqueueable d delay s item
    · obtain ⟨item, hitem, henqueueable⟩ := hany
      have halone := (enqueues_only_iff hitem).mpr henqueueable
      exact .inl ((enqueues_iff hitem).mp (h item hitem halone))
    · exact .inr fun item hitem henqueueable => hany ⟨item, hitem, henqueueable⟩
  · rintro (hall | hnone) item hitem halone
    · exact (enqueues_iff hitem).mpr hall
    · exact absurd ((enqueues_only_iff hitem).mp halone) (hnone item hitem)

/-! ## A definition that does not decode -/

theorem mem_dueSchedules_of_dueRow {config : Config} (hconfig : config ∈ s.schedules)
    (hlocked : config.id ∉ locked) (hrow : dueRow s config = some item)
    (hbatch : s.schedules.rows.length ≤ d.batchSize) : item ∈ d.dueSchedules locked s := by
  have hlength : (((s.schedules.rows.filter fun config => config.id ∉ locked).filterMap
      (dueRow s)).insertionSort fun a b => a.nextRunAt ≤ b.nextRunAt).length ≤ d.batchSize := by
    rw [List.length_insertionSort]
    exact ((List.length_filterMap_le _ _).trans (List.length_filter_le _ _)).trans hbatch
  rw [Service.dueSchedules, List.take_of_length_le hlength, List.mem_insertionSort,
    List.mem_filterMap]
  exact ⟨config, List.mem_filter.mpr ⟨hconfig, by simpa using hlocked⟩, hrow⟩

/-- A published definition in which the timeout of a step is a text: it passes the validation of
definitions, and does not decode. -/
def textTimeout : String := "\x7b\"steps\":[\x7b\"id\":\"a\",\"type\":\"ACTION\"," ++
  "\"actions\":[\x7b\x7d],\"timeoutMs\":\"slow\"\x7d]\x7d"

def plainDefinition : String := "\x7b\"steps\":[\x7b\"id\":\"a\",\"type\":\"ACTION\"," ++
  "\"actions\":[\x7b\x7d]\x7d]\x7d"

def intervalService : Service String String where
  cron := ⟨fun _ => false, fun _ _ _ => none, fun name => name = "UTC"⟩
  decode := fun text =>
    if text = textTimeout then .error "cannot unmarshal string into timeoutMs" else .ok text
  batchSize := 1000
  batchSize_pos := by decide
  pollInterval := 500000

def minutely (id : String) : Config where
  id := id
  monitorId := id
  type := .interval
  expression := ""
  intervalSeconds := 60
  timezone := "UTC"
  jitterSeconds := 0
  concurrencyPolicy := .skipIfRunning
  missedRunPolicy := .skip
  active := true
  nextRunAt := some 0
  updatedAt := 0

def enabledMonitor (id definition : String) : Monitor String where
  id := id
  name := id
  environmentId := ""
  state := .enabled
  enabled := true
  deleted := false
  latestPublished := some ⟨"r", 1, definition⟩

/-- Two due schedules, one of a definition that does not decode. -/
def mixedState : State String String where
  now := 0
  monitors :=
    ⟨[enabledMonitor "good" plainDefinition, enabledMonitor "bad" textTimeout], by decide⟩
  schedules := ⟨[minutely "good", minutely "bad"], by decide⟩
  jobs := .empty

def mixedItem (id definition : String) : DueSchedule String :=
  ⟨minutely id, 0, id, "", ⟨"r", 1, definition⟩⟩

/-- A definition that does not decode keeps another schedule from being enqueued. -/
theorem text_timeout_blocks_others :
    ¬ ∀ (δ Δ : Type) (d : Service δ Δ) (locked : List String) (delay : Nat) (s : State δ Δ),
      ∀ item ∈ d.dueSchedules locked s,
        Enqueues d locked delay (s.only item.config.id) item → Enqueues d locked delay s item := by
  intro h
  have hgood : mixedItem "good" plainDefinition ∈ intervalService.dueSchedules [] mixedState :=
    mem_dueSchedules_of_dueRow (show minutely "good" ∈ mixedState.schedules from
      List.mem_cons_self) (by decide) rfl (by decide)
  have hbad : mixedItem "bad" textTimeout ∈ intervalService.dueSchedules [] mixedState :=
    mem_dueSchedules_of_dueRow (show minutely "bad" ∈ mixedState.schedules from
      List.mem_cons_of_mem _ List.mem_cons_self) (by decide) rfl (by decide)
  have henqueueable : Enqueueable intervalService 0 mixedState (mixedItem "good" plainDefinition) :=
    ⟨⟨plainDefinition, rfl⟩, ⟨60000000, rfl⟩, rfl⟩
  have halone := (enqueues_only_iff hgood).mpr henqueueable
  have hboth := h _ _ intervalService [] 0 mixedState _ hgood halone
  obtain ⟨definition, hdecode⟩ := ((enqueues_iff hgood).mp hboth _ hbad).decodes
  cases hdecode

end Rhythm.Scheduler
