import Mathlib.Data.String.Basic
import Rhythm.Paging
import Rhythm.Text

/-!
# Rhythm.Suites.DeploymentPages

The pages of deployment runs, on a repository that has no pages of its own: the service lists the
selected runs, by time of creation, and a page begins with the first run behind the cursor.  The
list is read from a map and `sort.Slice` keeps no order of equal times, so each call may have
another order.  `listsOnce_iff`: following the cursors gives each selected run once exactly when
pages end with runs that are alone at their time.
-/

namespace Rhythm.Suites.DeploymentPages

open Text Paging

/-! ## Runs -/

/-- The part of `DeploymentDetails` that a filter reads. -/
structure DeploymentDetails where
  applicationId : String := ""
  environment : String := ""
deriving DecidableEq

structure DeploymentRun where
  id : String
  suiteId : String := ""
  status : String := ""
  phase : String := ""
  gateDecision : String := ""
  deployment : DeploymentDetails := {}
  suiteName : String := ""
  failureReason : String := ""
  startedAt : Option Int := none
  endedAt : Option Int := none
  createdAt : Int
  updatedAt : Int := 0
deriving DecidableEq

structure DeploymentRunSummary where
  id : String
  suiteId : String
  status : String
  phase : String
  gateDecision : String
  deployment : DeploymentDetails
  suiteName : String
  failureReason : String
  startedAt : Option Int
  endedAt : Option Int
  createdAt : Int
  updatedAt : Int
deriving DecidableEq

def normalizeDeploymentCancellation (run : DeploymentRun) : DeploymentRun :=
  if run.status ≠ "CANCELLED" then run
  else
    { run with
      gateDecision :=
        if run.gateDecision = "" ∨ run.gateDecision = "PENDING" then "BLOCK" else run.gateDecision
      failureReason :=
        if trimSpace run.failureReason = "" then "Validation was cancelled before completion."
        else run.failureReason }

def deploymentRunSummary (run : DeploymentRun) : DeploymentRunSummary :=
  let run := normalizeDeploymentCancellation run
  { id := run.id, suiteId := run.suiteId, status := run.status, phase := run.phase,
    gateDecision := run.gateDecision, deployment := run.deployment, suiteName := run.suiteName,
    failureReason := run.failureReason, startedAt := run.startedAt, endedAt := run.endedAt,
    createdAt := run.createdAt, updatedAt := run.updatedAt }

@[simp] theorem deploymentRunSummary_id (run : DeploymentRun) :
    (deploymentRunSummary run).id = run.id := by
  unfold deploymentRunSummary normalizeDeploymentCancellation
  split <;> rfl

@[simp] theorem deploymentRunSummary_createdAt (run : DeploymentRun) :
    (deploymentRunSummary run).createdAt = run.createdAt := by
  unfold deploymentRunSummary normalizeDeploymentCancellation
  split <;> rfl

/-! ## The repository -/

structure DeploymentFilter where
  suiteId : String := ""
  applicationId : String := ""
  environment : String := ""
  status : String := ""
  decision : String := ""
deriving DecidableEq

/-- The test that makes `ListDeploymentRuns` pass over a run. -/
def DeploymentFilter.excludes (filter : DeploymentFilter) (v : DeploymentRun) : Bool :=
  filter.suiteId ≠ "" && v.suiteId ≠ filter.suiteId ||
  filter.status ≠ "" && v.status ≠ filter.status ||
  filter.decision ≠ "" && v.gateDecision ≠ filter.decision ||
  filter.applicationId ≠ "" && v.deployment.applicationId ≠ filter.applicationId ||
  filter.environment ≠ "" && v.deployment.environment ≠ filter.environment

/-- The deployment runs of `MemoryRepository`: a map by their ids. -/
structure MemoryRepository where
  deployments : List DeploymentRun
  keys : (deployments.map DeploymentRun.id).Nodup

def MemoryRepository.matching (r : MemoryRepository) (filter : DeploymentFilter) :
    List DeploymentRun :=
  r.deployments.filter fun v => !filter.excludes v

/-- What `ListDeploymentRuns` may return: the map is read in any order, and sorted by the time of
creation alone. -/
def MemoryRepository.ListDeploymentRuns (r : MemoryRepository) (filter : DeploymentFilter)
    (out : List DeploymentRun) : Prop :=
  Listing DeploymentRun.createdAt (r.matching filter) out

/-! ## Pages -/

structure DeploymentPage where
  items : List DeploymentRunSummary
  total : Nat
  hasMore : Bool
deriving DecidableEq

/-- `ListDeploymentRunsPage`, of what `ListDeploymentRuns` returned. -/
def listDeploymentRunsPage (items : List DeploymentRun) (limit : Nat) (afterCreatedAt : Int)
    (afterId : String) : DeploymentPage :=
  let total := items.length
  let start :=
    if afterCreatedAt ≠ 0 ∧ afterId ≠ "" then
      items.findIdx fun item =>
        item.createdAt < afterCreatedAt ∨ item.createdAt = afterCreatedAt ∧ item.id < afterId
    else 0
  let stop := min total (start + limit)
  { items := ((items.take stop).drop start).map deploymentRunSummary
    total
    hasMore := stop < total }

/-- The pages one after another, the calls being numbered: each starts at the cursor of the last
item of the page before. -/
def followPages (fetch : Nat → Int → String → DeploymentPage) :
    Nat → Nat → Int → String → Option (List DeploymentRunSummary)
  | 0, _, _, _ => none
  | fuel + 1, n, afterCreatedAt, afterId =>
    let page := fetch n afterCreatedAt afterId
    if page.hasMore then
      match page.items.getLast? with
      | none => none
      | some last =>
        (followPages fetch fuel (n + 1) last.createdAt last.id).map (page.items ++ ·)
    else some page.items

/-- **The law**: whatever orders the calls see, the pages end, and list each matching run once. -/
def ListsOnce (r : MemoryRepository) (filter : DeploymentFilter) (limit : Nat) : Prop :=
  ∀ calls : Nat → List DeploymentRun, (∀ n, r.ListDeploymentRuns filter (calls n)) →
    ∃ fuel summaries,
      followPages (fun n => listDeploymentRunsPage (calls n) limit) fuel 0 0 "" = some summaries ∧
        summaries.Perm ((r.matching filter).map deploymentRunSummary)

def IsCursor (run : DeploymentRun) : Prop := run.createdAt ≠ 0 ∧ run.id ≠ ""

instance : DecidablePred IsCursor := fun _ => inferInstanceAs (Decidable (_ ∧ _))

/-- Wherever a page other than the last may end, it ends with a run that no other was created at
the same time as, and that is a cursor. -/
abbrev EndsAlone (r : MemoryRepository) (filter : DeploymentFilter) (limit : Nat) : Prop :=
  PageEndsAlone DeploymentRun.createdAt IsCursor limit (r.matching filter)

/-! ## The pages are those of a cursor -/

def cursorTime (c : Option DeploymentRun) : Int := c.elim 0 DeploymentRun.createdAt

def cursorId (c : Option DeploymentRun) : String := c.elim "" DeploymentRun.id

theorem listDeploymentRunsPage_eq (items : List DeploymentRun) (limit : Nat)
    (c : Option DeploymentRun) :
    let listed := Paging.page DeploymentRun.createdAt DeploymentRun.id IsCursor limit items c
    listDeploymentRunsPage items limit (cursorTime c) (cursorId c) =
      ⟨listed.1.map deploymentRunSummary, items.length, listed.2⟩ := by
  have hpage : ∀ start ≤ items.length,
      (items.take (min items.length (start + limit))).drop start = (items.drop start).take limit ∧
        (min items.length (start + limit) < items.length ↔ limit < (items.drop start).length) := by
    intro start hstart
    refine ⟨?_, by rw [List.length_drop]; omega⟩
    rw [List.drop_take]
    obtain h | h := Nat.le_total (start + limit) items.length
    · rw [min_eq_right h, Nat.add_sub_cancel_left]
    · rw [min_eq_left h, List.take_of_length_le (by simp), List.take_of_length_le (by simp; omega)]
  have hrest : ∃ start ≤ items.length,
      (if cursorTime c ≠ 0 ∧ cursorId c ≠ "" then
        items.findIdx fun item => item.createdAt < cursorTime c ∨
          item.createdAt = cursorTime c ∧ item.id < cursorId c
      else 0) = start ∧
        rest DeploymentRun.createdAt DeploymentRun.id IsCursor items c = items.drop start := by
    cases c with
    | none => exact ⟨0, Nat.zero_le _, by simp [cursorTime], by simp [rest]⟩
    | some run =>
      by_cases hcursor : IsCursor run
      · refine ⟨_, List.findIdx_le_length, if_pos hcursor, ?_⟩
        rw [rest, if_pos hcursor, List.dropWhile_eq_drop_findIdx_not]
        simp only [decide_not, Bool.not_not]
        rfl
      · exact ⟨0, Nat.zero_le _, if_neg hcursor, by rw [rest, if_neg hcursor, List.drop_zero]⟩
  obtain ⟨start, hstart, hif, hrest⟩ := hrest
  obtain ⟨hitems, hmore⟩ := hpage start hstart
  simp only [listDeploymentRunsPage, hif, Paging.page, hrest, hitems, hmore]

theorem followPages_eq (calls : Nat → List DeploymentRun) (limit fuel : Nat) :
    ∀ n c, followPages (fun n => listDeploymentRunsPage (calls n) limit) fuel n (cursorTime c)
        (cursorId c) =
      (follow
        (fun n => Paging.page DeploymentRun.createdAt DeploymentRun.id IsCursor limit (calls n))
        fuel n c).map (List.map deploymentRunSummary) := by
  induction fuel with
  | zero => simp [followPages, follow]
  | succ fuel ih =>
    intro n c
    rw [followPages, follow, listDeploymentRunsPage_eq]
    simp only [List.getLast?_map]
    split
    · cases hlast : (Paging.page DeploymentRun.createdAt DeploymentRun.id IsCursor limit (calls n)
          c).1.getLast? with
      | none => rfl
      | some last =>
        have hnext := ih (n + 1) (some last)
        simp only [cursorTime, cursorId, Option.elim_some] at hnext
        simp only [Option.map_some, deploymentRunSummary_createdAt, deploymentRunSummary_id, hnext,
          Option.map_map, Function.comp_def, List.map_append]
    · rfl

/-! ## Each run once -/

section Law

variable {r : MemoryRepository} {filter : DeploymentFilter} {limit : Nat}

theorem MemoryRepository.id_injOn (r : MemoryRepository) (filter : DeploymentFilter) :
    ∀ b ∈ r.matching filter, ∀ c ∈ r.matching filter, b.id = c.id → b = c := fun _ hb _ hc =>
  List.inj_on_of_nodup_map r.keys (List.mem_of_mem_filter hb) (List.mem_of_mem_filter hc)

theorem MemoryRepository.matching_nodup (r : MemoryRepository) (filter : DeploymentFilter) :
    (r.matching filter).Nodup :=
  r.keys.of_map.filter _

theorem perm_of_summaries {found : List DeploymentRun}
    (h : (found.map deploymentRunSummary).Perm ((r.matching filter).map deploymentRunSummary))
    (hmem : ∀ run ∈ found, run ∈ r.matching filter) : found.Perm (r.matching filter) := by
  classical
  have hids : (found.map DeploymentRun.id).Perm ((r.matching filter).map DeploymentRun.id) := by
    simpa [List.map_map, Function.comp_def] using h.map DeploymentRunSummary.id
  have hsource : ((r.matching filter).map DeploymentRun.id).Nodup :=
    r.keys.sublist (List.filter_sublist.map _)
  have hfound : found.Nodup := (hids.nodup_iff.mpr hsource).of_map
  refine (List.perm_ext_iff_of_nodup hfound (r.matching_nodup filter)).mpr fun run => ⟨hmem run, ?_⟩
  intro hrun
  obtain ⟨other, hother, hid⟩ := List.mem_map.mp (hids.mem_iff.mpr (List.mem_map_of_mem hrun))
  rwa [← r.id_injOn filter other (hmem other hother) run hrun hid]

theorem listsOnce_iff_listsAll :
    ListsOnce r filter limit ↔
      ListsAll DeploymentRun.createdAt DeploymentRun.id IsCursor limit (r.matching filter) := by
  refine forall₂_congr fun calls hcalls => exists_congr fun fuel => ?_
  have hstart := followPages_eq calls limit fuel 0 none
  simp only [cursorTime, cursorId, Option.elim_none] at hstart
  simp only [hstart, Option.map_eq_some_iff]
  constructor
  · rintro ⟨_, ⟨found, hfound, rfl⟩, hperm⟩
    refine ⟨found, hfound, perm_of_summaries hperm ?_⟩
    exact found_of_pages
      (fun n _ b hb => (hcalls n).perm.mem_iff.mp (Paging.mem_of_mem_page hb)) fuel 0
      none found hfound
  · rintro ⟨found, hfound, hperm⟩
    exact ⟨_, ⟨found, hfound, rfl⟩, hperm.map _⟩

theorem listsOnce_iff_endsAlone (hlimit : 0 < limit) :
    ListsOnce r filter limit ↔ EndsAlone r filter limit :=
  listsOnce_iff_listsAll.trans
    (listsAll_iff hlimit (r.matching_nodup filter) (r.id_injOn filter))

theorem listsOnce_of_distinct (hlimit : 0 < limit)
    (hdistinct : (r.deployments.map DeploymentRun.createdAt).Nodup)
    (hcursor : ∀ run ∈ r.deployments, IsCursor run) : ListsOnce r filter limit := by
  refine (listsOnce_iff_endsAlone hlimit).mpr fun run hrun k _ => ⟨?_, ?_⟩
  · have htimes : ((r.matching filter).map DeploymentRun.createdAt).Nodup :=
      hdistinct.sublist (List.filter_sublist.map _)
    have hcount := List.count_eq_one_of_mem htimes (List.mem_map_of_mem hrun)
    rw [List.count, List.countP_map] at hcount
    simpa [same, Function.comp_def, beq_eq_decide] using hcount
  · exact hcursor run (List.mem_of_mem_filter hrun)

end Law

/-- **Paging lists every deployment run once** exactly when every page but the last ends with a run
that is alone at its time of creation. -/
theorem listsOnce_iff (r : MemoryRepository) (filter : DeploymentFilter) (limit : Nat)
    (hlimit : 0 < limit) : ListsOnce r filter limit ↔ EndsAlone r filter limit :=
  listsOnce_iff_endsAlone hlimit

def apart : MemoryRepository :=
  ⟨[{ id := "b", createdAt := 2 }, { id := "a", createdAt := 1 }], by decide⟩

theorem listsOnce_iff_apart : 0 < 1 ∧ ListsOnce apart {} 1 := by
  refine ⟨by decide, (listsOnce_iff apart {} 1 (by decide)).mpr fun run hrun k hend => ?_⟩
  clear hend
  revert run
  decide

def together : MemoryRepository :=
  ⟨[{ id := "a", createdAt := 1 }, { id := "b", createdAt := 1 }], by decide⟩

/-- One to a page, in the order of `together` the second run is on no page. -/
theorem second_run_missing : ¬ ListsOnce together {} 1 := by
  intro h
  obtain ⟨fuel, summaries, hpages, hperm⟩ := h (fun _ => together.deployments)
    fun _ => ⟨List.Perm.refl _, by decide⟩
  have hfirst : listDeploymentRunsPage together.deployments 1 0 "" =
      ⟨[deploymentRunSummary { id := "a", createdAt := 1 }], 2, true⟩ := by decide
  have hsecond : listDeploymentRunsPage together.deployments 1 1 "a" = ⟨[], 2, false⟩ := by decide
  have hlength : summaries.length = 2 := hperm.length_eq
  match fuel with
  | 0 => simp [followPages] at hpages
  | 1 => simp [followPages, hfirst] at hpages
  | fuel + 2 =>
    simp only [followPages, hfirst, hsecond, if_true, List.getLast?_singleton,
      deploymentRunSummary_createdAt, deploymentRunSummary_id, Bool.false_eq_true, if_false,
      Option.map_some, List.append_nil, Option.some.injEq] at hpages
    simp [← hpages] at hlength

end Rhythm.Suites.DeploymentPages
