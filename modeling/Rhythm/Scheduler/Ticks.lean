import Rhythm.Delayed
import Rhythm.Scheduler.Keys

/-!
# Rhythm.Scheduler.Ticks

Does a cron schedule run at each of its ticks?  A poll looks for the next tick from the due time of
the run it enqueues, and a due time has the jitter in it.  So a tick that comes before the jitter of
the tick before it is over gets no run.

`eachTickOnce_iff`: each tick after the configuration has its due time exactly once, and in order,
exactly when any two of them are further apart than the jitter.
-/

namespace Rhythm.Scheduler

open Fallible

/-! ## The due times of a configuration -/

def jitter (config : Config) : Int :=
  deterministicJitter config.id config.jitterSeconds * second

theorem jitter_nonneg (config : Config) : 0 ≤ jitter config := by
  unfold jitter second
  omega

/-- `schedule.Next` answers with the least tick after a time, and with none only when there is no
tick at all. -/
structure Cron.Ticking (cron : Cron) (ticks : String → String → Set Int) : Prop where
  least : ∀ expression zone after t, cron.activation expression zone after = some t →
    NextPoint (ticks expression zone) after t
  none : ∀ expression zone after, cron.activation expression zone after = none →
    ticks expression zone = ∅

variable {δ Δ : Type}

def Service.ticksOf (d : Service δ Δ) (ticks : String → String → Set Int) (config : Config) :
    Set Int :=
  ticks config.expression (d.cron.timezoneLocation config.timezone)

/-- The values of `next_run_at`, one after the other: the first is written at `now` by
`applyRuntimeState`, and each of the others by the poll, at `polled k`, that enqueues the run at the
one before. -/
def Service.produced (d : Service δ Δ) (item : DueSchedule δ) (now : Int) (polled : Nat → Int) :
    Nat → Except String Int
  | 0 => d.cron.next item.config now true
  | k + 1 =>
    match d.produced item now polled k with
    | .error message => .error message
    | .ok nextRunAt => d.nextRun { item with nextRunAt } (polled k)

/-- Each tick after `start` has its due time exactly once, and in increasing order. -/
def EachTickOnce (ticks : Set Int) (jitter start : Int) (due : Nat → Except String Int) : Prop :=
  (∀ tick ∈ ticks, start < tick → ∃! k, due k = .ok (tick + jitter)) ∧
    ∀ tick ∈ ticks, ∀ tick' ∈ ticks, tick < tick' → ∀ k k', due k = .ok (tick + jitter) →
      due k' = .ok (tick' + jitter) → k < k'

section DueTimes

variable {d : Service δ Δ} {ticks : String → String → Set Int} {item : DueSchedule δ}

theorem next_cron {cron : Cron} {config : Config} {after t : Int} {initial : Bool}
    (htype : config.type = .cron) (hparses : cron.parses config.expression = true)
    (h : cron.nextActivation config after = some t) :
    cron.next config after initial = .ok (t + jitter config) := by
  rw [Cron.next, htype]
  simp only [hparses, if_true, h, Option.getD_some, jitter]

theorem nextRun_of_runOnce (d : Service δ Δ) (item : DueSchedule δ)
    (hpolicy : item.config.missedRunPolicy = .runOnce) (time : Int) :
    d.nextRun item time = d.cron.next item.config item.nextRunAt false := by
  simp [Service.nextRun, Service.nextFrom, hpolicy]

/-- **The due times are a delayed walk over the ticks**, when there is a tick. -/
theorem exists_walk (now : Int) (polled : Nat → Int) (hcron : d.cron.Ticking ticks)
    (htype : item.config.type = .cron)
    (hparses : d.cron.parses item.config.expression = true)
    (hpolicy : item.config.missedRunPolicy = .runOnce)
    (hticks : (d.ticksOf ticks item.config).Nonempty) :
    ∃ walk, (∀ k, d.produced item now polled k = .ok (walk k)) ∧
      DelayedWalk (d.ticksOf ticks item.config) now (jitter item.config) walk := by
  have hnext : ∀ after, ∃ t, d.cron.nextActivation item.config after = some t ∧
      NextPoint (d.ticksOf ticks item.config) after t := by
    intro after
    cases hactivation : d.cron.nextActivation item.config after with
    | none => exact absurd (hcron.none _ _ _ hactivation) hticks.ne_empty
    | some t => exact ⟨t, rfl, hcron.least _ _ _ _ hactivation⟩
  have hpoll : ∀ due time, d.nextRun { item with nextRunAt := due } time =
      d.cron.next item.config due false :=
    fun due => nextRun_of_runOnce d { item with nextRunAt := due } hpolicy
  have hproduced : ∀ k, ∃ t, d.produced item now polled k = .ok t := by
    intro k
    induction k with
    | zero =>
      obtain ⟨t, hactivation, -⟩ := hnext now
      exact ⟨_, next_cron htype hparses hactivation⟩
    | succ k ih =>
      obtain ⟨due, hdue⟩ := ih
      obtain ⟨t, hactivation, -⟩ := hnext due
      refine ⟨t + jitter item.config, ?_⟩
      rw [Service.produced, hdue]
      exact (hpoll due _).trans (next_cron htype hparses hactivation)
  choose walk hwalk using hproduced
  refine ⟨walk, hwalk, ?_, fun k => ?_⟩
  · obtain ⟨t, hactivation, ht⟩ := hnext now
    have hfirst := (hwalk 0).symm.trans (next_cron htype hparses hactivation)
    rw [Except.ok.inj hfirst, Int.add_sub_cancel]
    exact ht
  · obtain ⟨t, hactivation, ht⟩ := hnext (walk k)
    have hlater := hwalk (k + 1)
    rw [Service.produced, hwalk k] at hlater
    have hsame := hlater.symm.trans ((hpoll _ _).trans (next_cron htype hparses hactivation))
    rw [Except.ok.inj hsame, Int.add_sub_cancel]
    exact ht

theorem eachTickOnce_iff_visits {start delay : Int} {points : Set Int} {walk : Nat → Int}
    {due : Nat → Except String Int} (hdue : ∀ k, due k = .ok (walk k))
    (h : DelayedWalk points start delay walk) (hdelay : 0 ≤ delay) :
    EachTickOnce points delay start due ↔
      ∀ tick ∈ points, start < tick → ∃ k, walk k = tick + delay := by
  have hmono := h.strictMono hdelay
  have hok : ∀ k t, due k = .ok t ↔ walk k = t := by
    intro k t
    rw [hdue, Except.ok.injEq]
  simp only [EachTickOnce, hok]
  constructor
  · intro hlaw tick htick hstart
    exact (hlaw.1 tick htick hstart).exists
  · intro hvisits
    refine ⟨fun tick htick hstart => ?_, fun tick _ tick' _ hlt k k' hk hk' => ?_⟩
    · obtain ⟨k, hk⟩ := hvisits tick htick hstart
      exact ⟨k, hk, fun l hl => hmono.injective (hl.trans hk.symm)⟩
    · exact hmono.lt_iff_lt.mp (by omega)

end DueTimes

/-- **Each tick has one due time** exactly when any two ticks after the configuration are further
apart than the jitter. -/
theorem eachTickOnce_iff (d : Service δ Δ) {ticks : String → String → Set Int}
    (hcron : d.cron.Ticking ticks) (item : DueSchedule δ) (htype : item.config.type = .cron)
    (hparses : d.cron.parses item.config.expression = true)
    (hpolicy : item.config.missedRunPolicy = .runOnce) (now : Int) (polled : Nat → Int) :
    EachTickOnce (d.ticksOf ticks item.config) (jitter item.config) now
        (d.produced item now polled) ↔
      ∀ tick ∈ d.ticksOf ticks item.config, now < tick →
        ∀ tick' ∈ d.ticksOf ticks item.config, tick < tick' →
          tick + jitter item.config < tick' := by
  obtain hnone | hticks := (d.ticksOf ticks item.config).eq_empty_or_nonempty
  · simp [hnone, EachTickOnce]
  · obtain ⟨walk, hdue, hwalk⟩ :=
      exists_walk now polled hcron htype hparses hpolicy hticks
    have hdelay := jitter_nonneg item.config
    exact (eachTickOnce_iff_visits hdue hwalk hdelay).trans (hwalk.visits_iff hdelay)

/-! ## Every minute -/

def minuteCron : Cron where
  parses := fun expression => expression = "* * * * *"
  activation := fun _ _ after => some ((after / (60 * second) + 1) * (60 * second))
  knowsZone := fun name => name = "UTC"

def minuteTicks (_expression _zone : String) : Set Int := {t | t % (60 * second) = 0}

theorem minuteCron_ticking : minuteCron.Ticking minuteTicks where
  least := by
    rintro expression zone after t ⟨⟩
    simp only [NextPoint, minuteTicks, second, IsLeast, Set.mem_ofPred_eq, lowerBounds]
    refine ⟨⟨by omega, by omega⟩, fun t ht => by omega⟩
  none := by
    intro expression zone after h
    cases h

def minuteService : Service String String where
  cron := minuteCron
  decode := .ok
  batchSize := 1000
  batchSize_pos := intervalService.batchSize_pos
  pollInterval := 500000

/-- A schedule for every minute, with a jitter of up to so many seconds. -/
def minuteItem (jitterSeconds : Int) : DueSchedule String where
  config :=
    { minutely "s" with
      type := .cron, expression := "* * * * *", intervalSeconds := 0, jitterSeconds,
      missedRunPolicy := .runOnce }
  nextRunAt := 0
  monitorName := "s"
  environmentId := ""
  revision := ⟨"r", 1, plainDefinition⟩

/-- Without a jitter every minute has its due time. -/
theorem eachTickOnce_iff_minutely :
    EachTickOnce (minuteService.ticksOf minuteTicks (minuteItem 0).config) 0 0
      (minuteService.produced (minuteItem 0) 0 fun _ => 0) := by
  have hapart : ∀ tick ∈ minuteService.ticksOf minuteTicks (minuteItem 0).config, 0 < tick →
      ∀ tick' ∈ minuteService.ticksOf minuteTicks (minuteItem 0).config, tick < tick' →
        tick + jitter (minuteItem 0).config < tick' := by
    intro tick _ _ tick' _ hlt
    rw [show jitter (minuteItem 0).config = 0 from rfl, Int.add_zero]
    exact hlt
  exact (eachTickOnce_iff minuteService minuteCron_ticking (minuteItem 0) rfl rfl rfl 0 _).mpr
    hapart

/-- With a jitter of an hour, this schedule skips ticks. -/
theorem jitter_skips_ticks :
    ¬ ∀ (δ Δ : Type) (d : Service δ Δ) (ticks : String → String → Set Int),
      d.cron.Ticking ticks → ∀ item : DueSchedule δ, item.config.type = .cron →
        d.cron.parses item.config.expression = true → item.config.missedRunPolicy = .runOnce →
          ∀ (now : Int) (polled : Nat → Int),
            EachTickOnce (d.ticksOf ticks item.config) (jitter item.config) now
              (d.produced item now polled) := by
  intro h
  have hlaw := h _ _ minuteService minuteTicks minuteCron_ticking (minuteItem 3600) rfl rfl rfl 0
    fun _ => 0
  have hjitter : jitter (minuteItem 3600).config = 214000000 := by decide
  rw [hjitter] at hlaw
  have hticks : (minuteService.ticksOf minuteTicks (minuteItem 3600).config).Nonempty := ⟨0, rfl⟩
  obtain ⟨walk, hdue, hwalk⟩ : ∃ walk, (∀ k, minuteService.produced (minuteItem 3600) 0
      (fun _ => 0) k = .ok (walk k)) ∧ DelayedWalk (minuteService.ticksOf minuteTicks
        (minuteItem 3600).config) 0 (jitter (minuteItem 3600).config) walk :=
    exists_walk 0 _ minuteCron_ticking rfl rfl rfl hticks
  rw [hjitter] at hwalk
  have hvisits := (eachTickOnce_iff_visits hdue hwalk (by decide)).mp hlaw
  have hnear := (hwalk.visits_iff (by decide)).mp hvisits 60000000 rfl (by decide) 120000000 rfl
    (by decide)
  contradiction

end Rhythm.Scheduler
