import Rhythm.Fallible
import Rhythm.Scheduler.Service

/-!
# Rhythm.Scheduler.Poll

What one poll does.  The due schedules it takes have different ids, so their
deduplication keys differ; the poll goes through exactly when every definition
decodes, every next run can be computed and no key is taken.
-/

namespace Rhythm.Scheduler

open Fallible

/-! ## Deduplication keys -/

theorem colon_notMem_toString (n : Int) : ':' ∉ (toString n).toList := by
  have hdigits : ∀ m : Nat, ':' ∉ (Nat.repr m).toList := by
    intro m hmem
    rw [Nat.toList_repr] at hmem
    have hdigit := Nat.isDigit_of_mem_toDigits (by omega) (by omega) hmem
    exact absurd hdigit (by decide)
  cases n with
  | ofNat m => exact hdigits m
  | negSucc m =>
    show ':' ∉ ("-" ++ Nat.repr (m + 1)).toList
    rw [String.toList_append, List.mem_append, not_or]
    exact ⟨by decide, hdigits (m + 1)⟩

theorem append_colon_inj {a a' b b' : List Char} (hb : ':' ∉ b) (hb' : ':' ∉ b')
    (h : a ++ ':' :: b = a' ++ ':' :: b') : a = a' ∧ b = b' := by
  rw [List.append_eq_append_iff] at h
  obtain ⟨c, ha, hc⟩ | ⟨c, ha, hc⟩ := h
  · cases c with
    | nil =>
      rw [List.nil_append, List.cons.injEq] at hc
      exact ⟨by rw [ha, List.append_nil], hc.2⟩
    | cons d c =>
      rw [List.cons_append, List.cons.injEq] at hc
      exact absurd (by rw [hc.2]; simp) hb
  · cases c with
    | nil =>
      rw [List.nil_append, List.cons.injEq] at hc
      exact ⟨by rw [ha, List.append_nil], hc.2.symm⟩
    | cons d c =>
      rw [List.cons_append, List.cons.injEq] at hc
      exact absurd (by rw [hc.2]; simp) hb'

theorem deduplication_inj {id id' : String} {t t' : Int} :
    deduplication id t = deduplication id' t' ↔ id = id' ∧ unix t = unix t' := by
  constructor
  · intro h
    rw [deduplication, deduplication, ← String.toList_inj] at h
    simp only [String.toList_append] at h
    have hrest := List.append_cancel_left h
    have hcolon : ":".toList = [':'] := rfl
    rw [hcolon, List.append_assoc, List.append_assoc, List.singleton_append,
      List.singleton_append] at hrest
    obtain ⟨hid, hsecond⟩ :=
      append_colon_inj (colon_notMem_toString _) (colon_notMem_toString _) hrest
    exact ⟨String.toList_inj.mp hid, Int.repr_inj.mp (String.toList_inj.mp hsecond)⟩
  · rintro ⟨rfl, hsecond⟩
    rw [deduplication, deduplication, hsecond]

/-! ## The schedules that a poll takes -/

variable {δ Δ : Type} {d : Service δ Δ} {s : State δ Δ} {locked : List String} {delay : Nat}
  {item : DueSchedule δ}

theorem dueRow_eq_some {config : Config} (h : dueRow s config = some item) :
    item.config = config ∧ config.nextRunAt = some item.nextRunAt ∧ item.nextRunAt ≤ s.now := by
  simp only [dueRow, Option.bind_eq_bind, Option.bind_eq_some_iff] at h
  obtain ⟨monitor, -, revision, -, nextRunAt, hnext, h⟩ := h
  split at h
  · rename_i hdue
    cases h
    exact ⟨rfl, hnext, hdue.2.1⟩
  · cases h

theorem mem_dueSchedules (h : item ∈ d.dueSchedules locked s) :
    item.config ∈ s.schedules ∧ item.config.nextRunAt = some item.nextRunAt ∧
      item.nextRunAt ≤ s.now := by
  have hrows := (List.mem_insertionSort _).mp (List.mem_of_mem_take h)
  obtain ⟨config, hconfig, hrow⟩ := List.mem_filterMap.mp hrows
  obtain ⟨rfl, hdue⟩ := dueRow_eq_some hrow
  exact ⟨List.mem_of_mem_filter hconfig, hdue⟩

theorem nodup_dueSchedules : ((d.dueSchedules locked s).map fun item => item.config.id).Nodup := by
  have hids : ∀ configs : List Config,
      ((configs.filterMap (dueRow s)).map fun item => item.config.id).Sublist
        (configs.map Config.id) := by
    intro configs
    induction configs with
    | nil => simp
    | cons config configs ih =>
      cases hrow : dueRow s config with
      | none =>
        rw [List.filterMap_cons_none hrow, List.map_cons]
        exact ih.cons _
      | some item =>
        rw [List.filterMap_cons_some hrow, List.map_cons, List.map_cons,
          (dueRow_eq_some hrow).1]
        exact ih.cons_cons _
  have hfilter : ((s.schedules.rows.filter fun config => config.id ∉ locked).map Config.id).Nodup :=
    s.schedules.nodup.sublist (List.filter_sublist.map _)
  refine List.Nodup.sublist ((List.take_sublist _ _).map _) ?_
  rw [((List.perm_insertionSort _ _).map _).nodup_iff]
  exact hfilter.sublist (hids _)

theorem nodup_keys : ((d.dueSchedules locked s).map fun item =>
    deduplication item.config.id item.nextRunAt).Nodup := by
  have hids : ((d.dueSchedules locked s).map fun item => item.config.id).Nodup :=
    nodup_dueSchedules
  rw [List.Nodup, List.pairwise_map] at hids ⊢
  exact hids.imp fun hne hkey => hne (deduplication_inj.mp hkey).1

/-! ## The loops -/

def QueuedFor (d : Service δ Δ) (now : Int) (item : DueSchedule δ) (queued : Queued Δ) : Prop :=
  ∃ definition next, d.decode item.revision.definition = .ok definition ∧
    d.nextRun item now = .ok next ∧
      queued = ⟨item.config.id, Service.job item definition now, next⟩

variable {decoded : DueSchedule δ × Δ}

theorem decodeItem_eq_ok (h : d.decodeItem item = .ok decoded) :
    decoded.1 = item ∧ d.decode item.revision.definition = .ok decoded.2 := by
  unfold Service.decodeItem at h
  split at h
  · cases h
  · cases h
    exact ⟨rfl, ‹_›⟩

variable {now : Int}

theorem queueItem_eq_ok {queued : Queued Δ} (h : d.queueItem now decoded = .ok queued) :
    ∃ next, d.nextRun decoded.1 now = .ok next ∧
      queued = ⟨decoded.1.config.id, Service.job decoded.1 decoded.2 now, next⟩ := by
  unfold Service.queueItem at h
  split at h
  · cases h
  · cases h
    exact ⟨_, ‹_›, rfl⟩

theorem queuedFor_iff {queued : Queued Δ} : QueuedFor d now item queued ↔
    ∃ decoded, d.decodeItem item = .ok decoded ∧ d.queueItem now decoded = .ok queued := by
  constructor
  · rintro ⟨definition, next, hdecode, hnext, rfl⟩
    exact ⟨(item, definition), by rw [Service.decodeItem, hdecode],
      by rw [Service.queueItem, hnext]⟩
  · rintro ⟨⟨item', definition⟩, hdecoded, hqueued⟩
    obtain ⟨rfl, hdecode⟩ := decodeItem_eq_ok hdecoded
    obtain ⟨next, hnext, rfl⟩ := queueItem_eq_ok hqueued
    exact ⟨definition, next, hdecode, hnext, rfl⟩

variable {due : List (DueSchedule δ)}

theorem loops_iff {queued : List (Queued Δ)} :
    (∃ decoded, due.mapM d.decodeItem = .ok decoded ∧
      decoded.mapM (d.queueItem now) = .ok queued) ↔
      List.Forall₂ (QueuedFor d now) due queued := by
  simp only [mapM_eq_ok_iff]
  induction due generalizing queued with
  | nil => simp
  | cons item due ih =>
    simp only [List.forall₂_cons_left_iff, queuedFor_iff]
    constructor
    · rintro ⟨_, ⟨decoded, rest, hdecoded, hrest, rfl⟩, hqueued⟩
      obtain ⟨head, tail, hhead, htail, rfl⟩ := List.forall₂_cons_left_iff.mp hqueued
      exact ⟨head, tail, ⟨decoded, hdecoded, hhead⟩, ih.mp ⟨rest, hrest, htail⟩, rfl⟩
    · rintro ⟨head, tail, ⟨decoded, hdecoded, hhead⟩, htail, rfl⟩
      obtain ⟨rest, hrest, hqueued⟩ := ih.mpr htail
      exact ⟨decoded :: rest, ⟨decoded, rest, hdecoded, hrest, rfl⟩, .cons hhead hqueued⟩

theorem enqueueDue_eq_ok_iff {s' : State δ Δ} : d.enqueueDue locked delay s = .ok s' ↔
    ∃ queued jobs, List.Forall₂ (QueuedFor d (s.now + delay)) (d.dueSchedules locked s) queued ∧
      s.jobs.insertAll (queued.map Queued.job) = some jobs ∧
        s' = { s with
          now := s.now + delay, jobs,
          schedules := advance (s.now + delay) s.schedules queued } := by
  simp only [← loops_iff]
  unfold Service.enqueueDue
  constructor
  · intro h
    obtain ⟨decoded, hdecoded, h⟩ := bind_eq_ok_iff.mp h
    obtain ⟨queued, hqueued, h⟩ := bind_eq_ok_iff.mp h
    split at h
    · cases h
    · cases h
      exact ⟨queued, _, ⟨decoded, hdecoded, hqueued⟩, ‹_›, rfl⟩
  · rintro ⟨queued, jobs, ⟨decoded, hdecoded, hqueued⟩, hjobs, rfl⟩
    refine bind_eq_ok_iff.mpr ⟨decoded, hdecoded, bind_eq_ok_iff.mpr ⟨queued, hqueued, ?_⟩⟩
    rw [hjobs]

theorem conflict_of_enqueueDue (h : d.enqueueDue locked delay s = .error .conflict) :
    ∃ queued, List.Forall₂ (QueuedFor d (s.now + delay)) (d.dueSchedules locked s) queued ∧
      s.jobs.insertAll (queued.map Queued.job) = none := by
  simp only [← loops_iff]
  unfold Service.enqueueDue at h
  obtain hdecode | ⟨decoded, hdecoded, h⟩ := bind_eq_error_iff.mp h
  · obtain ⟨item, -, hitem⟩ := exists_of_mapM_eq_error hdecode
    unfold Service.decodeItem at hitem
    split at hitem <;> cases hitem
  obtain hqueue | ⟨queued, hqueued, h⟩ := bind_eq_error_iff.mp h
  · obtain ⟨item, -, hitem⟩ := exists_of_mapM_eq_error hqueue
    unfold Service.queueItem at hitem
    split at hitem <;> cases hitem
  split at h
  · exact ⟨queued, ⟨decoded, hdecoded, hqueued⟩, ‹_›⟩
  · cases h

theorem keys_of_queuedFor {queued : List (Queued Δ)}
    (h : List.Forall₂ (QueuedFor d now) due queued) :
    (queued.map Queued.job).map Job.deduplicationKey =
      due.map fun item => deduplication item.config.id item.nextRunAt := by
  induction h with
  | nil => rfl
  | cons hhead _ ih =>
    obtain ⟨definition, next, -, -, rfl⟩ := hhead
    rw [List.map_cons, List.map_cons, List.map_cons, ih]
    rfl

end Rhythm.Scheduler
