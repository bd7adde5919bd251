import Rhythm.Scheduler.Isolation

/-!
# Rhythm.Scheduler.Keys

Do deduplication keys repeat?  A key names the second of `next_run_at`, so they do
not as long as every write of `next_run_at` moves it into a later second than all
runs enqueued before.  `Configure` and the poll count from now or from the last
run, which does that, unless the cron library finds no activation and answers
with the zero time; `Enable` writes the current time, whose second may be one in
which the schedule ran.
-/

namespace Rhythm.Scheduler

open Text Fallible

/-! ## Progress of the next run -/

/-- The documented behaviour of `schedule.Next`: an activation is a whole second, later than the
given time. -/
def Cron.Lawful (cron : Cron) : Prop :=
  ∀ expression zone after t, cron.activation expression zone after = some t →
    after < t ∧ t % second = 0

variable {cron : Cron} {config : Config} {after t : Int} {initial : Bool}

theorem unix_lt_unix_next (hcron : cron.Lawful) (h : cron.next config after initial = .ok t)
    (hinterval : config.type = .interval → 10 ≤ config.intervalSeconds)
    (hfires : config.type = .cron → (cron.nextActivation config after).isSome) :
    unix after < unix t := by
  unfold Cron.next at h
  cases htype : config.type with
  | manual => simp [htype] at h
  | interval =>
    have hspaced := hinterval htype
    rw [htype] at h
    simp only [Except.ok.injEq] at h
    unfold unix second at *
    split at h <;> omega
  | cron =>
    rw [htype] at h
    simp only at h
    split at h
    · obtain ⟨activation, hactivation⟩ := Option.isSome_iff_exists.mp (hfires htype)
      obtain ⟨hlater, hwhole⟩ := hcron _ _ _ _ hactivation
      rw [hactivation, Option.getD_some, Except.ok.injEq] at h
      unfold unix second at *
      omega
    · cases h

variable {δ Δ : Type} {d : Service δ Δ} {s s' : State δ Δ}

/-- A job of the schedule has the key of a run at this time. -/
def Used (s : State δ Δ) (scheduleId : String) (t : Int) : Prop :=
  ∃ job ∈ s.jobs, job.deduplicationKey = deduplication scheduleId t

/-- Every job ran for a stored schedule, at a time that has come; every next run is in a later
second than all runs before. -/
structure Inv (s : State δ Δ) : Prop where
  known : ∀ job ∈ s.jobs, ∃ config ∈ s.schedules, ∃ t,
    job.deduplicationKey = deduplication config.id t ∧ t ≤ s.now
  ahead : ∀ config ∈ s.schedules, ∀ next, config.nextRunAt = some next →
    ∀ t, Used s config.id t → unix t < unix next
  spaced : ∀ config ∈ s.schedules, config.type = .interval → 10 ≤ config.intervalSeconds

theorem Inv.used_le (hs : Inv s) {scheduleId : String} {t : Int} (h : Used s scheduleId t) :
    unix t ≤ unix s.now := by
  obtain ⟨job, hjob, hkey⟩ := h
  obtain ⟨config, -, t', hkey', hle⟩ := hs.known job hjob
  rw [hkey, deduplication_inj] at hkey'
  rw [hkey'.2]
  unfold unix second
  omega

theorem Inv.known_id (hs : Inv s) {scheduleId : String} {t : Int} (h : Used s scheduleId t) :
    ∃ config ∈ s.schedules, config.id = scheduleId := by
  obtain ⟨job, hjob, hkey⟩ := h
  obtain ⟨config, hconfig, t', hkey', -⟩ := hs.known job hjob
  rw [hkey, deduplication_inj] at hkey'
  exact ⟨config, hconfig, hkey'.1.symm⟩

/-! ## Configure -/

variable {input : Input}

theorem validateType_eq_ok {type : ScheduleType} (h : cron.validateType input = .ok type) :
    (type = .interval → 10 ≤ input.intervalSeconds) ∧ (type = .cron → input.type = "CRON") := by
  grind [Cron.validateType]

theorem validate_eq_ok {checked : ScheduleType × ConcurrencyPolicy × MissedRunPolicy}
    (h : cron.validate input = .ok checked) :
    (checked.1 = .interval → 10 ≤ input.intervalSeconds) ∧
      (checked.1 = .cron → input.type = "CRON") := by
  simp only [Cron.validate, bind, Except.bind, pure, Except.pure, throw, throwThe,
    MonadExceptOf.throw] at h
  split at h
  · cases h
  · split at h
    · cases h
    · split at h
      · cases h
      · split at h
        · cases h
        · rename_i htype
          cases h
          exact validateType_eq_ok htype

/-- The cron library finds an activation for a request of type `CRON`. -/
def InputFires (cron : Cron) (input : Input) (now : Int) : Prop :=
  (cron.normalize input).type = "CRON" →
    (cron.activation (cron.normalize input).expression
      (cron.timezoneLocation (cron.normalize input).timezone) now).isSome

theorem applyRuntimeState_eq_ok {config' : Config} {enabled : Bool} {now : Int}
    (h : cron.applyRuntimeState config enabled now = .ok config') :
    config'.id = config.id ∧ config'.type = config.type ∧
      config'.intervalSeconds = config.intervalSeconds ∧
      ∀ next, config'.nextRunAt = some next →
        enabled = true ∧ cron.next config now true = .ok next := by
  grind [Cron.applyRuntimeState]

theorem configured_eq_ok {monitor : Monitor δ} {id : String} {now : Int}
    (hcron : d.cron.Lawful) (hfires : monitor.enabled = true → InputFires d.cron input now)
    (h : d.configured monitor input id now = .ok config) :
    config.id = id ∧ (config.type = .interval → 10 ≤ config.intervalSeconds) ∧
      ∀ next, config.nextRunAt = some next → unix now < unix next := by
  unfold InputFires at hfires
  unfold Service.configured at h
  generalize d.cron.normalize input = input at h hfires
  obtain ⟨checked, hchecked, h⟩ := bind_eq_ok_iff.mp h
  obtain ⟨hspaced, htype⟩ := validate_eq_ok hchecked
  obtain ⟨hid, hsame, hinterval, hnext⟩ := applyRuntimeState_eq_ok h
  refine ⟨hid, ?_, fun next hsome => ?_⟩
  · rw [hsame, hinterval]
    exact hspaced
  · obtain ⟨henabled, hnext⟩ := hnext next hsome
    exact unix_lt_unix_next hcron hnext hspaced fun hcronType =>
      hfires henabled (htype hcronType)

variable {schedules : Schedules}

/-- What a write of schedules needs for the invariant: every schedule is spaced, keeps its id, and
has its old next run or one ahead of all its runs. -/
theorem Inv.of_schedules (hs : Inv s)
    (hkeep : ∀ config ∈ s.schedules, ∃ config' ∈ schedules, config'.id = config.id)
    (hspaced : ∀ config ∈ schedules, config.type = .interval → 10 ≤ config.intervalSeconds)
    (hahead : ∀ config ∈ schedules, ∀ next, config.nextRunAt = some next →
      (∃ old ∈ s.schedules, old.id = config.id ∧ old.nextRunAt = some next) ∨
        ∀ t, Used s config.id t → unix t < unix next) :
    Inv { s with schedules } where
  known := by
    intro job hjob
    obtain ⟨config, hconfig, t, hkey, hle⟩ := hs.known job hjob
    obtain ⟨config', hconfig', hid⟩ := hkeep config hconfig
    exact ⟨config', hconfig', t, by rw [hkey, hid], hle⟩
  ahead := by
    intro config hconfig next hnext t hused
    obtain ⟨old, hold, hid, hnext'⟩ | hfresh := hahead config hconfig next hnext
    · exact hs.ahead old hold next hnext' t (hid ▸ hused)
    · exact hfresh t hused
  spaced := hspaced

theorem Inv.of_update (hs : Inv s) {p : Config → Prop} [DecidablePred p] {f : Config → Config}
    {hf : Table.KeepsKey Config.id f}
    (hspaced : ∀ config ∈ s.schedules, p config → (f config).type = .interval →
      10 ≤ (f config).intervalSeconds)
    (hahead : ∀ config ∈ s.schedules, p config → ∀ next, (f config).nextRunAt = some next →
      config.nextRunAt = some next ∨ ∀ t, Used s config.id t → unix t < unix next) :
    Inv { s with schedules := s.schedules.update p f hf } := by
  refine hs.of_schedules (fun config hconfig => ?_) ?_ ?_
  · refine ⟨if p config then f config else config, Table.mem_update.mpr ⟨config, hconfig, rfl⟩, ?_⟩
    split
    · exact hf.key_eq config
    · rfl
  · intro config' hconfig'
    obtain ⟨config, hconfig, rfl⟩ := Table.mem_update.mp hconfig'
    split
    · exact hspaced config hconfig ‹_›
    · exact hs.spaced config hconfig
  · intro config' hconfig' next hnext
    obtain ⟨config, hconfig, rfl⟩ := Table.mem_update.mp hconfig'
    split at hnext
    · rename_i hp
      rw [if_pos hp, hf.key_eq]
      obtain hold | hfresh := hahead config hconfig hp next hnext
      · exact .inl ⟨config, hconfig, rfl, hold⟩
      · exact .inr hfresh
    · rename_i hp
      rw [if_neg hp]
      exact .inl ⟨config, hconfig, rfl, hnext⟩

theorem inv_configure (hcron : d.cron.Lawful) (hs : Inv s) {monitorId freshId : String}
    (hfires : ∀ monitor, s.monitors.get? monitorId = some monitor → monitor.enabled = true →
      InputFires d.cron input s.now)
    (h : d.configure monitorId input freshId s = some s') : Inv s' := by
  simp only [Service.configure, Option.bind_eq_bind, Option.bind_eq_some_iff] at h
  obtain ⟨monitor, hmonitor, config, hconfigured, h⟩ := h
  cases hok : d.configured monitor input
      (((scheduleOf s.schedules monitorId).map Config.id).getD freshId) s.now with
  | error message => simp [hok, Except.toOption] at hconfigured
  | ok config' =>
    simp only [hok, Except.toOption, Option.some.injEq] at hconfigured
    subst hconfigured
    obtain ⟨hid, hspaced, hlater⟩ := configured_eq_ok hcron (hfires monitor hmonitor) hok
    split at h
    · cases h
    · split at h
      · cases h
        refine hs.of_update (fun _ _ _ => hspaced) fun row _ _ next hnext => .inr fun t hused => ?_
        exact (hs.used_le hused).trans_lt (hlater next hnext)
      · rename_i hnone
        rw [hnone, Option.map_none, Option.getD_none] at hid
        cases hinsert : s.schedules.insert config' with
        | none => simp [hinsert] at h
        | some schedules =>
          simp only [hinsert, Option.bind_some, Option.pure_def, Option.some.injEq] at h
          subst h
          obtain ⟨hfree, hrows⟩ := Table.insert_eq_some_iff.mp hinsert
          have hmem : ∀ row, row ∈ schedules ↔ row ∈ s.schedules ∨ row = config' := by
            intro row
            rw [Table.mem_def, hrows, List.mem_append, List.mem_singleton, Table.mem_def]
          refine hs.of_schedules (fun row hrow => ⟨row, (hmem row).mpr (.inl hrow), rfl⟩) ?_ ?_
          · intro row hrow
            obtain hold | rfl := (hmem row).mp hrow
            · exact hs.spaced row hold
            · exact hspaced
          · intro row hrow next hnext
            obtain hold | rfl := (hmem row).mp hrow
            · exact .inl ⟨row, hold, rfl, hnext⟩
            · refine .inr fun t hused => ?_
              obtain ⟨old, hold, hsame⟩ := hs.known_id hused
              exact absurd hsame (Table.get?_eq_none_iff.mp hfree old hold)

/-! ## Enable and disable -/

theorem inv_setState (hs : Inv s) {monitorId : String} {state : MonitorState} {enabled : Bool}
    (hfresh : enabled = true → ∀ config ∈ s.schedules, config.monitorId = monitorId →
      config.type ≠ .manual → ¬ Used s config.id s.now)
    (h : setState monitorId state enabled s = some s') : Inv s' := by
  unfold setState at h
  split at h
  · cases h
    cases enabled with
    | false =>
      have hdeactivated : Inv { s with schedules := deactivate monitorId s.now s.schedules } :=
        hs.of_update (fun config hconfig _ => hs.spaced config hconfig)
          fun _ _ _ next hnext => .inl hnext
      exact ⟨hdeactivated.known, hdeactivated.ahead, hdeactivated.spaced⟩
    | true =>
      have hactivated : Inv { s with schedules := activate monitorId s.now s.schedules } := by
        refine hs.of_update (fun config hconfig _ => hs.spaced config hconfig)
          fun config hconfig hmonitor next hnext => .inr fun t hused => ?_
        simp only at hnext
        split at hnext
        · cases hnext
        · rename_i hmanual
          cases hnext
          refine lt_of_le_of_ne (hs.used_le hused) fun hsecond => ?_
          obtain ⟨job, hjob, hkey⟩ := hused
          refine hfresh rfl config hconfig hmonitor hmanual ⟨job, hjob, ?_⟩
          rw [hkey, deduplication_inj]
          exact ⟨rfl, hsecond⟩
      exact ⟨hactivated.known, hactivated.ahead, hactivated.spaced⟩
  · cases h

/-! ## The poll -/

theorem mem_advance {queuedAt : Int} {queued : List (Queued Δ)}
    {config' : Config} (h : config' ∈ advance queuedAt schedules queued) :
    ∃ config ∈ schedules, config'.id = config.id ∧ config'.type = config.type ∧
      config'.intervalSeconds = config.intervalSeconds ∧
        ((∀ item ∈ queued, item.scheduleId ≠ config.id) ∧ config'.nextRunAt = config.nextRunAt ∨
          ∃ item ∈ queued, item.scheduleId = config.id ∧ config'.nextRunAt = some item.next) := by
  induction queued generalizing schedules with
  | nil => exact ⟨config', h, rfl, rfl, rfl, .inl ⟨by simp, rfl⟩⟩
  | cons item queued ih =>
    obtain ⟨middle, hmiddle, hid, htype, hinterval, hnext⟩ := ih h
    obtain ⟨config, hconfig, rfl⟩ := Table.mem_update.mp hmiddle
    refine ⟨config, hconfig, ?_⟩
    by_cases hitem : config.id = item.scheduleId
    · grind [List.mem_cons_self, List.mem_cons_of_mem]
    · grind

theorem exists_mem_advance {queuedAt : Int} {queued : List (Queued Δ)} (h : config ∈ schedules) :
    ∃ config' ∈ advance queuedAt schedules queued, config'.id = config.id := by
  induction queued generalizing schedules config with
  | nil => exact ⟨config, h, rfl⟩
  | cons item queued ih =>
    have hupdated : (if config.id = item.scheduleId then
        { config with nextRunAt := some item.next, updatedAt := queuedAt } else config) ∈
          schedules.update (fun config => config.id = item.scheduleId) fun config =>
            { config with nextRunAt := some item.next, updatedAt := queuedAt } :=
      Table.mem_update.mpr ⟨config, h, rfl⟩
    obtain ⟨config', hconfig', hid⟩ := ih hupdated
    refine ⟨config', hconfig', hid.trans ?_⟩
    split <;> rfl

theorem unix_lt_unix_nextRun (hcron : d.cron.Lawful) {item : DueSchedule δ} {now next : Int}
    (hspaced : item.config.type = .interval → 10 ≤ item.config.intervalSeconds)
    (hfires : item.config.type = .cron →
      (d.cron.nextActivation item.config (d.nextFrom item now)).isSome)
    (hdue : item.nextRunAt ≤ now) (h : d.nextRun item now = .ok next) :
    unix item.nextRunAt < unix next := by
  have hlater := unix_lt_unix_next hcron h hspaced hfires
  have hfrom : item.nextRunAt ≤ d.nextFrom item now := by
    unfold Service.nextFrom
    split <;> omega
  unfold unix second at *
  omega

/-- The cron library finds an activation for every cron schedule that the poll takes. -/
def PollFires (d : Service δ Δ) (locked : List String) (delay : Nat) (s : State δ Δ) : Prop :=
  ∀ item ∈ d.dueSchedules locked s, item.config.type = .cron →
    (d.cron.nextActivation item.config (d.nextFrom item (s.now + delay))).isSome

variable {locked : List String} {delay : Nat}

theorem Inv.no_conflict (hs : Inv s) : d.enqueueDue locked delay s ≠ .error .conflict := by
  intro h
  obtain ⟨queued, hqueued, hnone⟩ := conflict_of_enqueueDue h
  refine Table.insertAll_eq_none_iff.mp hnone ⟨?_, fun job hjob => ?_⟩
  · rw [keys_of_queuedFor hqueued]
    exact nodup_keys
  · obtain ⟨item, hitem, rfl⟩ := List.mem_map.mp hjob
    obtain ⟨due, hdue, definition, next, -, -, rfl⟩ := (exists_of_forall₂ hqueued).1 item hitem
    obtain ⟨hconfig, hnextRun, -⟩ := mem_dueSchedules hdue
    rw [Table.get?_eq_none_iff]
    intro job hjob hkey
    exact lt_irrefl _ (hs.ahead _ hconfig _ hnextRun _ ⟨job, hjob, hkey⟩)

section Enqueued

variable {queued : List (Queued Δ)} {jobs : Jobs Δ}
  (hqueued : List.Forall₂ (QueuedFor d (s.now + delay)) (d.dueSchedules locked s) queued)
  (hjobs : s.jobs.insertAll (queued.map Queued.job) = some jobs)

include hqueued hjobs

theorem mem_jobs_of_enqueued {job : Job Δ} (h : job ∈ jobs) :
    job ∈ s.jobs ∨ ∃ item ∈ d.dueSchedules locked s,
      job.deduplicationKey = deduplication item.config.id item.nextRunAt := by
  obtain ⟨-, -, hrows⟩ := Table.insertAll_eq_some_iff.mp hjobs
  rw [Table.mem_def, hrows, List.mem_append] at h
  refine h.imp_right fun hnew => ?_
  obtain ⟨item, hitem, rfl⟩ := List.mem_map.mp hnew
  obtain ⟨due, hdue, definition, next, -, -, rfl⟩ := (exists_of_forall₂ hqueued).1 item hitem
  exact ⟨due, hdue, rfl⟩

theorem known_of_enqueued (hs : Inv s) {job : Job Δ} (h : job ∈ jobs) :
    ∃ config ∈ s.schedules, ∃ t, job.deduplicationKey = deduplication config.id t ∧ t ≤ s.now := by
  obtain hold | ⟨item, hitem, hkey⟩ := mem_jobs_of_enqueued hqueued hjobs h
  · exact hs.known job hold
  · obtain ⟨hconfig, -, hdue⟩ := mem_dueSchedules hitem
    exact ⟨item.config, hconfig, item.nextRunAt, hkey, hdue⟩

/-- A run of a schedule that is there after a poll is an old one, or the one that the poll took
the schedule for. -/
theorem used_of_enqueued {config : Config} (hconfig : config ∈ s.schedules) {t : Int}
    (h : ∃ job ∈ jobs, job.deduplicationKey = deduplication config.id t) :
    Used s config.id t ∨ ∃ item ∈ d.dueSchedules locked s,
      item.config = config ∧ unix t = unix item.nextRunAt := by
  obtain ⟨job, hjob, hkey⟩ := h
  obtain hold | ⟨item, hitem, hkey'⟩ := mem_jobs_of_enqueued hqueued hjobs hjob
  · exact .inl ⟨job, hold, hkey⟩
  · rw [hkey, deduplication_inj] at hkey'
    have hsame := Table.eq_of_key_eq (mem_dueSchedules hitem).1 hconfig hkey'.1.symm
    exact .inr ⟨item, hitem, hsame, hkey'.2⟩

end Enqueued

theorem inv_enqueueDue (hcron : d.cron.Lawful) (hs : Inv s) (hfires : PollFires d locked delay s)
    (h : d.enqueueDue locked delay s = .ok s') : Inv s' := by
  obtain ⟨queued, jobs, hqueued, hjobs, rfl⟩ := enqueueDue_eq_ok_iff.mp h
  constructor
  · intro job hjob
    obtain ⟨config, hconfig, t, hkey, hle⟩ := known_of_enqueued hqueued hjobs hs hjob
    obtain ⟨config', hconfig', hid⟩ := exists_mem_advance hconfig
    refine ⟨config', hconfig', t, by rw [hkey, hid], ?_⟩
    show t ≤ s.now + delay
    omega
  · intro config' hconfig' next hnext t hrun
    obtain ⟨config, hconfig, hid, -, -, hnextRun⟩ := mem_advance hconfig'
    rw [hid] at hrun
    have hbefore := used_of_enqueued hqueued hjobs hconfig hrun
    obtain ⟨hnone, hsame⟩ | ⟨taken, htaken, htakenId, hsome⟩ := hnextRun
    · rw [hsame] at hnext
      obtain hold | ⟨item, hitem, hitemConfig, -⟩ := hbefore
      · exact hs.ahead config hconfig next hnext t hold
      · obtain ⟨taken, htaken, _, _, -, -, rfl⟩ := (exists_of_forall₂ hqueued).2 item hitem
        exact absurd (congrArg Config.id hitemConfig) (hnone _ htaken)
    · obtain ⟨item, hitem, definition, later, -, hlater, rfl⟩ :=
        (exists_of_forall₂ hqueued).1 taken htaken
      obtain ⟨hitemMem, hitemNext, hdue⟩ := mem_dueSchedules hitem
      have hitemConfig : item.config = config := Table.eq_of_key_eq hitemMem hconfig htakenId
      have hforward : unix item.nextRunAt < unix next := by
        rw [hsome, Option.some.injEq] at hnext
        subst hnext
        exact unix_lt_unix_nextRun hcron (hs.spaced _ hitemMem) (hfires item hitem) (by omega)
          hlater
      obtain hold | ⟨other, hother, hotherConfig, hsecond⟩ := hbefore
      · have hrunBefore := hs.ahead _ hitemMem _ hitemNext t (hitemConfig ▸ hold)
        omega
      · grind [mem_dueSchedules, Option.some.injEq]
  · intro config' hconfig'
    obtain ⟨config, hconfig, -, htype, hinterval, -⟩ := mem_advance hconfig'
    rw [htype, hinterval]
    exact hs.spaced config hconfig

/-! ## Runs -/

def fresh (now : Int) (monitors : Monitors δ) : State δ Δ := ⟨now, monitors, .empty, .empty⟩

theorem inv_fresh {now : Int} {monitors : Monitors δ} : Inv (fresh now monitors : State δ Δ) where
  known := by
    intro job hjob
    exact absurd hjob (Table.not_mem_empty job)
  ahead := by
    intro config hconfig
    exact absurd hconfig (Table.not_mem_empty config)
  spaced := by
    intro config hconfig
    exact absurd hconfig (Table.not_mem_empty config)

/-- When a step keeps the next runs ahead: `Enable` meets no run of the schedule in its second, and
every cron evaluation finds an activation. -/
def Progresses (d : Service δ Δ) (s : State δ Δ) (a : Action) (_s' : State δ Δ) : Prop :=
  match a with
  | .elapse _ | .disable _ => True
  | .configure monitorId input _ =>
    ∀ monitor ∈ s.monitors, monitor.id = monitorId → monitor.enabled = true →
      InputFires d.cron input s.now
  | .enable monitorId =>
    ∀ config ∈ s.schedules, config.monitorId = monitorId → config.type ≠ .manual →
      ¬ Used s config.id s.now
  | .enqueueDue locked delay => PollFires d locked delay s

instance {input : Input} {now : Int} : Decidable (InputFires cron input now) :=
  inferInstanceAs (Decidable (_ → _))

instance {scheduleId : String} {t : Int} : Decidable (Used s scheduleId t) :=
  inferInstanceAs (Decidable (∃ job ∈ s.jobs, _))

instance : Decidable (PollFires d locked delay s) :=
  inferInstanceAs (Decidable (∀ item ∈ d.dueSchedules locked s, _))

instance : ∀ a, Decidable (Progresses d s a s')
  | .elapse _ | .disable _ => isTrue trivial
  | .configure monitorId _ _ =>
    inferInstanceAs (Decidable (∀ monitor ∈ s.monitors, monitor.id = monitorId → _))
  | .enable monitorId =>
    inferInstanceAs (Decidable (∀ config ∈ s.schedules, config.monitorId = monitorId → _))
  | .enqueueDue locked delay => inferInstanceAs (Decidable (PollFires d locked delay s))

def NoRepeat (d : Service δ Δ) (s : State δ Δ) (a : Action) (_s' : State δ Δ) : Prop :=
  ∀ locked delay, a = .enqueueDue locked delay → d.enqueueDue locked delay s ≠ .error .conflict

theorem Inv.elapse (hs : Inv s) (duration : Nat) : Inv { s with now := s.now + duration } where
  known := by
    intro job hjob
    obtain ⟨config, hconfig, t, hkey, hle⟩ := hs.known job hjob
    refine ⟨config, hconfig, t, hkey, ?_⟩
    show t ≤ s.now + duration
    omega
  ahead := hs.ahead
  spaced := hs.spaced

theorem inv_step (hcron : d.cron.Lawful) {a : Action} (hs : Inv s) (h : step d s a = some s')
    (hprogress : Progresses d s a s') : Inv s' := by
  cases a with
  | elapse duration =>
    simp only [step, Option.some.injEq] at h
    subst h
    exact hs.elapse duration
  | configure monitorId input freshId =>
    refine inv_configure hcron hs (fun monitor hmonitor => ?_) h
    exact hprogress monitor (Table.mem_of_get? hmonitor) (Table.key_of_get? hmonitor)
  | enable monitorId =>
    simp only [step, enable, Option.bind_eq_bind, Option.bind_eq_some_iff] at h
    obtain ⟨monitor, -, h⟩ := h
    split at h
    · cases h
    · exact inv_setState hs (fun _ => hprogress) h
  | disable monitorId =>
    grind [step, disable, Option.bind_eq_bind, Option.bind_eq_some_iff, inv_setState]
  | enqueueDue locked delay =>
    simp only [step] at h
    split at h
    · cases h
      exact hs.elapse delay
    · rename_i hpoll
      cases h
      exact inv_enqueueDue hcron hs hprogress hpoll

/-- **Keys do not repeat.**  In every run from a start without schedules, of any service and cron
library, no poll meets a taken key, provided that no `Enable` falls into a second in which a
schedule of the monitor ran and that every cron evaluation finds an activation. -/
theorem keys_never_repeat (d : Service δ Δ) (hcron : d.cron.Lawful) (now : Int)
    (monitors : Monitors δ) (as : List Action)
    (hprogress : Along (step d) (Progresses d) (fresh now monitors) as) :
    Along (step d) (NoRepeat d) (fresh now monitors) as := by
  refine Along.of_guard (I := Inv) (fun s a s' hs hstep hguard => ?_) inv_fresh hprogress
  refine ⟨inv_step hcron hs hstep hguard, ?_⟩
  rintro locked delay rfl
  exact hs.no_conflict

/-! ## Enabled twice in one second -/

def everyMinute : Input := ⟨"INTERVAL", "", 60, "UTC", 0, "", ""⟩

def publishedMonitors : Monitors String := ⟨[enabledMonitor "m" plainDefinition], by decide⟩

theorem intervalService_lawful : intervalService.cron.Lawful := by
  intro expression zone after t h
  cases h

/-- A schedule that is enabled and polled, and polled again a minute later. -/
theorem no_repeat_each_minute :
    Along (step intervalService) (NoRepeat intervalService) (fresh 0 publishedMonitors)
      [.configure "m" everyMinute "s", .enable "m", .enqueueDue [] 0, .elapse 60000000,
        .enqueueDue [] 0] :=
  keys_never_repeat intervalService intervalService_lawful 0 publishedMonitors _
    (by decide +kernel)

/-- Enabled, polled, and within the second disabled and enabled again, a schedule keeps its key,
and the poll fails. -/
theorem enabled_twice_repeats :
    ¬ ∀ (δ Δ : Type) (d : Service δ Δ), d.cron.Lawful → ∀ (now : Int) (monitors : Monitors δ)
      (as : List Action), Along (step d) (NoRepeat d) (fresh now monitors) as := by
  intro h
  have hrun := h _ _ intervalService intervalService_lawful 0 publishedMonitors
    [.configure "m" everyMinute "s", .enable "m", .enqueueDue [] 0, .disable "m", .enable "m",
      .enqueueDue [] 0]
  obtain ⟨-, hrun⟩ := hrun _ rfl
  obtain ⟨-, hrun⟩ := hrun _ rfl
  obtain ⟨-, hrun⟩ := hrun _ rfl
  obtain ⟨-, hrun⟩ := hrun _ rfl
  obtain ⟨-, hrun⟩ := hrun _ rfl
  obtain ⟨hpoll, -⟩ := hrun _ rfl
  exact hpoll [] 0 rfl rfl

end Rhythm.Scheduler
