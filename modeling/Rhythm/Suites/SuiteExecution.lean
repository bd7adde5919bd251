import Rhythm.Suites.CheckRun
import Rhythm.Suites.SuiteQueue

/-!
# Rhythm.Suites.SuiteExecution

`executeSuiteRun`: the stages of a suite run one after the other, the checks of
a stage on the workers of `runStage`, and the decision at the end.  The workers
take the indices of the checks from an unbuffered channel; the feeder waits for
a free worker or for the end of the context, whichever comes first, and the
context may be cancelled or reach its deadline at any point.

* `suite_run_sound` — whose result each result is, what starts at most once and
  what does not start, and what an ALLOW and a BLOCK say;
* `suite_run_can_end` — no run gets stuck.
-/

namespace Rhythm.Suites.SuiteExecution

open SuiteQueue (ContextEnd Status suiteVerdict)

/-! ## Runs -/

/-- A call of `runStage`: the index of its feeder, the indices its workers are at, and the results,
`none` for the zero value. -/
structure StageRun where
  stage : Stage
  next : Nat
  running : List Nat
  results : List (Option CheckResult)
  deriving DecidableEq

def startStage (stage : Stage) : StageRun where
  stage := stage
  next := 0
  running := []
  results := List.replicate stage.checks.length none

/-- Where a call of `executeSuiteRun` stands. -/
inductive Phase where
  | stage (current : StageRun) (later : List Stage)
  /-- The loop is left; the context is about to be asked for its deadline. -/
  | finished
  /-- The deadline was not exceeded; the context is about to be asked for a cancellation. -/
  | inTime
  | ended (status : Status) (decision : GateDecision)
  deriving DecidableEq

structure State where
  /-- `runContext.Err()` -/
  context : Option ContextEnd
  /-- How many stages have added their results. -/
  completed : Nat
  results : List CheckResult
  requiredFailure : Bool
  optionalFailure : Bool
  phase : Phase
  deriving DecidableEq

/-- The loop goes on with the first of the stages that are left. -/
def nextPhase : List Stage → Phase
  | [] => .finished
  | stage :: later => .stage (startStage stage) later

def initial (suite : Suite) : State where
  context := none
  completed := 0
  results := []
  requiredFailure := false
  optionalFailure := false
  phase := nextPhase suite.stages

def Suite.workers (suite : Suite) (stage : Stage) : Nat :=
  (min suite.parallelism stage.checks.length).toNat

/-- `results[index]` after the workers have ended: a result without a check was not filled in. -/
def fillResult (stage : Stage) (check : Check) : Option CheckResult → CheckResult
  | some result => if result.checkId = "" then notStarted stage check else result
  | none => notStarted stage check

/-- What `runStage` returns. -/
def StageRun.returned (current : StageRun) : List CheckResult :=
  List.zipWith (fillResult current.stage) current.stage.checks current.results

def isRequiredFailure (result : CheckResult) : Bool :=
  result.status ≠ "SUCCESS" ∧ result.required

def isOptionalFailure (result : CheckResult) : Bool :=
  result.status ≠ "SUCCESS" ∧ ¬ result.required

/-- The body of the loop once `runStage` has returned. -/
def endStage (suite : Suite) (stageResults : List CheckResult) (later : List Stage) (s : State) :
    State :=
  let requiredFailure := s.requiredFailure || stageResults.any isRequiredFailure
  { s with
    completed := s.completed + 1
    results := s.results ++ stageResults
    requiredFailure := requiredFailure
    optionalFailure := s.optionalFailure || stageResults.any isOptionalFailure
    phase :=
      if s.context ≠ none ∨ suite.failFast ∧ requiredFailure then .finished else nextPhase later }

def resultsPhase (s : State) : Phase :=
  if s.requiredFailure then .ended .failed .block
  else if s.optionalFailure then .ended .passedWithWarnings .allowWithWarnings
  else .ended .passed .allow

inductive Action where
  /-- `Cancel`, or the end of the caller's context -/
  | cancel
  | expire
  /-- A worker takes the index that the feeder is at. -/
  | start (stageIndex index : Nat)
  /-- The feeder sees the end of the context. -/
  | skip
  | finish (stageIndex index : Nat) (answers : Answers)
  | endStage
  | readDeadline
  | readCanceled

def step (call : Call) (s : State) : Action → Option State
  | .cancel => some { s with context := s.context.or (some .canceled) }
  | .expire => some { s with context := s.context.or (some .deadlineExceeded) }
  | .start stageIndex index =>
    match s.phase with
    | .stage current later =>
      if stageIndex = s.completed ∧ index = current.next ∧
          current.next < current.stage.checks.length ∧
          current.running.length < call.suite.workers current.stage then
        some { s with
          phase := .stage
            { current with next := current.next + 1, running := index :: current.running } later }
      else none
    | _ => none
  | .skip =>
    match s.phase with
    | .stage current later =>
      if current.next < current.stage.checks.length ∧ s.context ≠ none then
        some { s with phase := .stage { current with next := current.next + 1 } later }
      else none
    | _ => none
  | .finish stageIndex index answers =>
    match s.phase with
    | .stage current later =>
      match current.stage.checks[index]? with
      | some check =>
        if stageIndex = s.completed ∧ index ∈ current.running then
          some { s with
            phase := .stage
              { current with
                running := current.running.erase index
                results :=
                  current.results.set index (some (runCheck call current.stage check answers)) }
              later }
        else none
      | none => none
    | _ => none
  | .endStage =>
    match s.phase with
    | .stage current later =>
      if current.next = current.stage.checks.length ∧ current.running = [] then
        some (endStage call.suite current.returned later s)
      else none
    | _ => none
  | .readDeadline =>
    match s.phase with
    | .finished =>
      some { s with
        phase := if s.context = some .deadlineExceeded then .ended .timedOut .block else .inTime }
    | _ => none
  | .readCanceled =>
    match s.phase with
    | .inTime =>
      some { s with
        phase := if s.context = some .canceled then .ended .cancelled .block else resultsPhase s }
    | _ => none

/-! ## What a run gives -/

/-- A check of a run: the check at `index` of the stage at `stageIndex`. -/
structure CheckRef where
  stageIndex : Nat
  stage : Stage
  index : Nat
  check : Check
  deriving DecidableEq

def Stage.refs (stageIndex : Nat) (stage : Stage) : List CheckRef :=
  stage.checks.mapIdx fun index check => ⟨stageIndex, stage, index, check⟩

/-- The checks of the first `n` stages, in their order. -/
def Suite.refs (suite : Suite) (n : Nat) : List CheckRef :=
  ((suite.stages.take n).mapIdx Stage.refs).flatten

/-- The result is that of the check: made of the answers to it, or the filler of a check that was
never started. -/
def GivenResult (call : Call) (as : List Action) (ref : CheckRef) (result : CheckResult) : Prop :=
  (∃ answers, .finish ref.stageIndex ref.index answers ∈ as ∧
      result = fillResult ref.stage ref.check (some (runCheck call ref.stage ref.check answers))) ∨
    .start ref.stageIndex ref.index ∉ as ∧ result = notStarted ref.stage ref.check

def State.InStage (s : State) : Prop := ∃ current later, s.phase = .stage current later

def State.decision? (s : State) : Option GateDecision :=
  match s.phase with
  | .ended _ decision => some decision
  | _ => none

/-- The step hands check `index` of stage `stageIndex` to a worker. -/
def Action.starts (stageIndex index : Nat) : Action → Bool
  | .start k i => k = stageIndex ∧ i = index
  | _ => false

/-- The run was cancelled or its deadline passed before the decision began to read the context. -/
def EndedBeforeDecision (as : List Action) : Prop :=
  ∃ before after, as = before ++ .readDeadline :: after ∧ (.cancel ∈ before ∨ .expire ∈ before)

/-! ## What a step can do -/

/-- The steps. -/
inductive Moves (call : Call) (s : State) : Action → State → Prop where
  | endContext {a : Action} {context : Option ContextEnd} (ha : a = .cancel ∨ a = .expire)
      (hended : context ≠ none) (hkept : s.context ≠ none → context = s.context) :
      Moves call s a { s with context := context }
  | start {current : StageRun} {later : List Stage} (hphase : s.phase = .stage current later)
      (hnext : current.next < current.stage.checks.length)
      (hfree : current.running.length < call.suite.workers current.stage) :
      Moves call s (.start s.completed current.next)
        { s with
          phase := .stage { current with
            next := current.next + 1, running := current.next :: current.running } later }
  | skip {current : StageRun} {later : List Stage} (hphase : s.phase = .stage current later)
      (hnext : current.next < current.stage.checks.length) (hended : s.context ≠ none) :
      Moves call s .skip { s with phase := .stage { current with next := current.next + 1 } later }
  | finish {current : StageRun} {later : List Stage} {index : Nat} {check : Check}
      {answers : Answers} (hphase : s.phase = .stage current later)
      (hcheck : current.stage.checks[index]? = some check) (hrunning : index ∈ current.running) :
      Moves call s (.finish s.completed index answers)
        { s with
          phase := .stage { current with
            running := current.running.erase index
            results :=
              current.results.set index (some (runCheck call current.stage check answers)) } later }
  | endStage {current : StageRun} {later : List Stage} (hphase : s.phase = .stage current later)
      (hnext : current.next = current.stage.checks.length) (hrunning : current.running = []) :
      Moves call s .endStage (endStage call.suite current.returned later s)
  | readDeadline (hphase : s.phase = .finished) :
      Moves call s .readDeadline
        { s with
          phase := if s.context = some .deadlineExceeded then .ended .timedOut .block else .inTime }
  | readCanceled (hphase : s.phase = .inTime) :
      Moves call s .readCanceled
        { s with
          phase := if s.context = some .canceled then .ended .cancelled .block else resultsPhase s }

section Steps

variable {call : Call} {s s' : State} {a : Action} {as : List Action}

theorem moves_endContext (e : ContextEnd) (ha : a = .cancel ∨ a = .expire) :
    Moves call s a { s with context := s.context.or (some e) } := by
  refine .endContext ha ?_ fun hended => ?_
  · cases s.context <;> simp
  · cases hcontext : s.context with
    | none => exact absurd hcontext hended
    | some _ => rfl

theorem step_moves (h : step call s a = some s') : Moves call s a s' := by
  cases a with
  | cancel =>
    cases h
    exact moves_endContext .canceled (.inl rfl)
  | expire =>
    cases h
    exact moves_endContext .deadlineExceeded (.inr rfl)
  | start stageIndex index =>
    simp only [step] at h
    split at h
    · rename_i current later hphase
      split at h
      · rename_i hguard
        obtain ⟨rfl, rfl, hnext, hfree⟩ := hguard
        cases h
        exact .start hphase hnext hfree
      · contradiction
    · contradiction
  | skip =>
    simp only [step] at h
    split at h
    · rename_i current later hphase
      split at h
      · rename_i hguard
        cases h
        exact .skip hphase hguard.1 hguard.2
      · contradiction
    · contradiction
  | finish stageIndex index answers =>
    simp only [step] at h
    split at h
    · rename_i current later hphase
      split at h
      · rename_i check hcheck
        split at h
        · rename_i hguard
          obtain ⟨rfl, hrunning⟩ := hguard
          cases h
          exact .finish hphase hcheck hrunning
        · contradiction
      · contradiction
    · contradiction
  | endStage =>
    simp only [step] at h
    split at h
    · rename_i current later hphase
      split at h
      · rename_i hguard
        cases h
        exact .endStage hphase hguard.1 hguard.2
      · contradiction
    · contradiction
  | readDeadline =>
    simp only [step] at h
    split at h
    · rename_i hphase
      cases h
      exact .readDeadline hphase
    · contradiction
  | readCanceled =>
    simp only [step] at h
    split at h
    · rename_i hphase
      cases h
      exact .readCanceled hphase
    · contradiction

variable {k i : Nat}

theorem Moves.start_eq (h : Moves call s (.start k i) s') : k = s.completed := by
  cases h with
  | endContext ha => cases ha <;> contradiction
  | start => rfl

/-! ## Each check starts at most once -/

/-- The feeder is past check `i` of stage `k`. -/
def Past (k i : Nat) (s : State) : Prop :=
  k < s.completed ∨
    k = s.completed ∧ ∀ current later, s.phase = .stage current later → i < current.next

theorem resultsPhase_ended (s : State) :
    ∃ status decision, resultsPhase s = .ended status decision := by
  rw [resultsPhase]
  split
  · exact ⟨_, _, rfl⟩
  · split <;> exact ⟨_, _, rfl⟩

theorem Moves.not_inStage (h : Moves call s a s') (ha : a = .readDeadline ∨ a = .readCanceled) :
    ¬ s'.InStage := by
  rintro ⟨current, later, hphase⟩
  cases h with
  | readDeadline =>
    simp only at hphase
    split at hphase <;> contradiction
  | readCanceled =>
    obtain ⟨status, decision, hended⟩ := resultsPhase_ended s
    simp only [hended] at hphase
    split at hphase <;> contradiction
  | endContext ha' => rcases ha with rfl | rfl <;> rcases ha' with ha' | ha' <;> contradiction
  | _ => rcases ha with ha | ha <;> contradiction

theorem Past.step (hs : Past k i s) (h : Moves call s a s') : Past k i s' := by
  rcases hs with hlt | ⟨rfl, hpast⟩
  · left
    cases h with
    | endStage => exact Nat.lt_succ_of_lt hlt
    | _ => exact hlt
  · have hmoves := h
    cases h with
    | endContext => exact .inr ⟨rfl, hpast⟩
    | start hphase | skip hphase =>
      refine .inr ⟨rfl, fun current' later' hphase' => ?_⟩
      cases hphase'
      exact Nat.lt_succ_of_lt (hpast _ _ hphase)
    | finish hphase =>
      refine .inr ⟨rfl, fun current' later' hphase' => ?_⟩
      cases hphase'
      have hnext := hpast _ _ hphase
      exact hnext
    | endStage => exact .inl (Nat.lt_succ_self _)
    | readDeadline | readCanceled =>
      refine .inr ⟨rfl, fun current' later' hphase' => ?_⟩
      exact absurd ⟨current', later', hphase'⟩ (hmoves.not_inStage (by simp))

theorem past_of_start (h : Moves call s (.start k i) s') : Past k i s' := by
  cases h with
  | endContext ha => rcases ha with ha | ha <;> contradiction
  | start hphase =>
    refine .inr ⟨rfl, fun current' later' hphase' => ?_⟩
    cases hphase'
    exact Nat.lt_succ_self _

theorem not_start_of_past (hs : Past k i s) : ¬ Moves call s (.start k i) s' := by
  intro h
  cases h with
  | endContext ha => rcases ha with ha | ha <;> contradiction
  | start hphase =>
    rcases hs with hlt | ⟨-, hpast⟩
    · exact Nat.lt_irrefl _ hlt
    · exact Nat.lt_irrefl _ (hpast _ _ hphase)

theorem eq_start_of_starts (h : a.starts k i = true) : a = .start k i := by
  cases a with
  | start k' i' =>
    obtain ⟨rfl, rfl⟩ := of_decide_eq_true h
    rfl
  | _ => contradiction

/-- **Each check starts at most once.** -/
theorem starts_le_one (k i : Nat) :
    occurrences (step call) (fun _ a _ => a.starts k i = true) s as ≤ 1 := by
  refine occurrences_le_one (P := Past k i) ?_ ?_ ?_
  · intro s a s' h hstarts
    rw [eq_start_of_starts hstarts] at h
    exact past_of_start (step_moves h)
  · intro s a s' hs h
    exact hs.step (step_moves h)
  · intro s a s' hs h hstarts
    rw [eq_start_of_starts hstarts] at h
    exact not_start_of_past hs (step_moves h)

end Steps

/-! ## Results -/

section Refs

variable {suite : Suite} {stage : Stage} {later : List Stage} {n : Nat}

@[simp] theorem length_stage_refs (k : Nat) : (stage.refs k).length = stage.checks.length :=
  List.length_mapIdx

theorem stageIndex_of_mem_stage_refs {k : Nat} {ref : CheckRef} (h : ref ∈ stage.refs k) :
    ref.stageIndex = k := by
  obtain ⟨i, hi, rfl⟩ := List.mem_mapIdx.mp h
  rfl

theorem stageIndex_lt_of_mem_refs {ref : CheckRef} (h : ref ∈ suite.refs n) :
    ref.stageIndex < n := by
  obtain ⟨refs, hrefs, href⟩ := List.mem_flatten.mp h
  obtain ⟨k, hk, rfl⟩ := List.mem_mapIdx.mp hrefs
  rw [stageIndex_of_mem_stage_refs href]
  exact Nat.lt_of_lt_of_le hk (List.length_take_le n suite.stages)

theorem length_of_drop (h : suite.stages.drop n = stage :: later) :
    suite.stages.length = n + 1 + later.length := by
  have hlength := congrArg List.length h
  rw [List.length_drop, List.length_cons] at hlength
  omega

theorem refs_succ (h : suite.stages.drop n = stage :: later) :
    suite.refs (n + 1) = suite.refs n ++ stage.refs n := by
  have hstage : suite.stages[n]? = some stage := by
    rw [← Nat.add_zero n, ← List.getElem?_drop, h, List.getElem?_cons_zero]
  have hlength : (suite.stages.take n).length = n := by
    rw [List.length_take, length_of_drop h]
    omega
  rw [Suite.refs, Suite.refs, List.take_add_one, hstage, Option.toList_some, List.mapIdx_append,
    hlength, List.flatten_append]
  simp

end Refs

/-- What the current stage has done: a check without a result is not started or still running. -/
structure Progress (call : Call) (as : List Action) (stageIndex : Nat) (current : StageRun) :
    Prop where
  next_le : current.next ≤ current.stage.checks.length
  running : ∀ i ∈ current.running, i < current.stage.checks.length
  length : current.results.length = current.stage.checks.length
  result : ∀ i check, current.stage.checks[i]? = some check →
    current.results[i]? = some none ∧ (.start stageIndex i ∈ as → i ∈ current.running) ∨
      ∃ answers, .finish stageIndex i answers ∈ as ∧
        current.results[i]? = some (some (runCheck call current.stage check answers))

/-- The loop was left after its last stage or after a required failure. -/
def LoopOver (suite : Suite) (s : State) : Prop :=
  s.completed = suite.stages.length ∨ suite.failFast = true ∧ s.requiredFailure = true

/-- What `SuiteQueue` keeps of a result. -/
def CheckResult.stored (result : CheckResult) : SuiteQueue.CheckResult where
  kind := match result.kind with
    | .monitor => "MONITOR"
    | .browserMonitor => "BROWSER_MONITOR"
    | .elfQuery => "ELF_QUERY"
    | .openSearchAlert => "OPENSEARCH_ALERT"
    | .dynatraceInfrastructure => "DYNATRACE_INFRASTRUCTURE"
  required := result.required
  status := result.status
  failureCategory := result.failureCategory
  failureReason := result.failureReason

def PhaseInv (call : Call) (as : List Action) (s : State) : Prop :=
  match s.phase with
  | .stage current later =>
    call.suite.stages.drop s.completed = current.stage :: later ∧
      (call.suite.failFast = true → s.requiredFailure = false) ∧
      Progress call as s.completed current
  | .finished => LoopOver call.suite s ∨ s.context ≠ none
  | .inTime => LoopOver call.suite s ∨ s.context = some .canceled
  | .ended status decision =>
    ∃ contextEnd, suiteVerdict contextEnd (s.results.map (·.stored)) = (status, decision) ∧
      (contextEnd = none → LoopOver call.suite s)

def Blocked (s : State) : Prop :=
  (∃ status, s.phase = .ended status .block) ∨ s.phase = .inTime ∧ s.context = some .canceled

structure Inv (call : Call) (as : List Action) (s : State) : Prop where
  results : List.Forall₂ (GivenResult call as) (call.suite.refs s.completed) s.results
  required : s.requiredFailure = s.results.any isRequiredFailure
  optional : s.optionalFailure = s.results.any isOptionalFailure
  started : ∀ k i, .start k i ∈ as → k ≤ s.completed
  context : .cancel ∈ as ∨ .expire ∈ as → s.context ≠ none
  blocked : EndedBeforeDecision as → Blocked s
  phase : PhaseInv call as s

section Invariant

variable {call : Call} {s s' : State} {a : Action} {as : List Action}

theorem GivenResult.append {ref : CheckRef} {result : CheckResult}
    (h : GivenResult call as ref result) (hmoves : Moves call s a s')
    (hlt : ref.stageIndex < s.completed) : GivenResult call (as ++ [a]) ref result := by
  rcases h with ⟨answers, hfinish, hresult⟩ | ⟨hstart, hresult⟩
  · exact .inl ⟨answers, List.mem_append_left [a] hfinish, hresult⟩
  · refine .inr ⟨fun hmem => ?_, hresult⟩
    rcases List.mem_append.mp hmem with hmem | hmem
    · exact hstart hmem
    · have ha := List.mem_singleton.mp hmem
      have hstage := Moves.start_eq (ha ▸ hmoves)
      omega

theorem Inv.results_append (hs : Inv call as s) (hmoves : Moves call s a s') :
    List.Forall₂ (GivenResult call (as ++ [a])) (call.suite.refs s.completed) s.results := by
  have hlt : ∀ ref ∈ call.suite.refs s.completed, ref.stageIndex < s.completed :=
    fun _ => stageIndex_lt_of_mem_refs
  have hboth := (List.forall₂_and_left _ _).mpr ⟨hlt, hs.results⟩
  exact hboth.imp fun ref result h => h.2.append hmoves h.1

theorem Inv.started_append (hs : Inv call as s) (hmoves : Moves call s a s') (k i : Nat)
    (hmem : .start k i ∈ as ++ [a]) : k ≤ s.completed := by
  rcases List.mem_append.mp hmem with hmem | hmem
  · exact hs.started k i hmem
  · have ha := List.mem_singleton.mp hmem
    exact Nat.le_of_eq (Moves.start_eq (ha ▸ hmoves))

variable {k : Nat}

theorem progress_startStage {stage : Stage} (hnew : ∀ i, .start k i ∉ as) :
    Progress call as k (startStage stage) := by
  refine ⟨Nat.zero_le _, fun i hi => absurd hi List.not_mem_nil, List.length_replicate, ?_⟩
  intro i check hcheck
  obtain ⟨hi, -⟩ := List.getElem?_eq_some_iff.mp hcheck
  refine .inl ⟨?_, fun hmem => absurd hmem (hnew i)⟩
  exact List.getElem?_replicate.trans (if_pos hi)

variable {current : StageRun}

theorem Progress.returned (h : Progress call as k current) (hrunning : current.running = []) :
    List.Forall₂ (GivenResult call as) (current.stage.refs k) current.returned := by
  have hlength : current.returned.length = current.stage.checks.length := by
    rw [StageRun.returned, List.length_zipWith, h.length, Nat.min_self]
  refine List.forall₂_iff_get.mpr ⟨by rw [length_stage_refs, hlength], fun i hrefs hi => ?_⟩
  have hcheck : i < current.stage.checks.length := hlength ▸ hi
  have hslot : i < current.results.length := h.length ▸ hcheck
  have href : (current.stage.refs k).get ⟨i, hrefs⟩ =
      ⟨k, current.stage, i, current.stage.checks[i]⟩ := List.getElem_mapIdx
  have hfilled : current.returned.get ⟨i, hi⟩ =
      fillResult current.stage current.stage.checks[i] current.results[i] := List.getElem_zipWith
  rw [href, hfilled]
  rcases h.result i _ (List.getElem?_eq_getElem hcheck) with
    ⟨hnone, hstart⟩ | ⟨answers, hfinish, hsome⟩
  · obtain ⟨_, hvalue⟩ := List.getElem?_eq_some_iff.mp hnone
    rw [hrunning] at hstart
    refine .inr ⟨fun hmem => absurd (hstart hmem) List.not_mem_nil, ?_⟩
    rw [hvalue, fillResult]
  · obtain ⟨_, hvalue⟩ := List.getElem?_eq_some_iff.mp hsome
    exact .inl ⟨answers, hfinish, by rw [hvalue]⟩

theorem Progress.append (h : Progress call as k current)
    (hother : ∀ i, a ≠ .start k i) : Progress call (as ++ [a]) k current := by
  refine ⟨h.next_le, h.running, h.length, fun i check hcheck => ?_⟩
  rcases h.result i check hcheck with ⟨hnone, hstart⟩ | ⟨answers, hfinish, hsome⟩
  · refine .inl ⟨hnone, fun hmem => ?_⟩
    rcases List.mem_append.mp hmem with hmem | hmem
    · exact hstart hmem
    · exact absurd (List.mem_singleton.mp hmem).symm (hother i)
  · exact .inr ⟨answers, List.mem_append_left [a] hfinish, hsome⟩

theorem Progress.start (h : Progress call as k current)
    (hnext : current.next < current.stage.checks.length) :
    Progress call (as ++ [.start k current.next]) k
      { current with next := current.next + 1, running := current.next :: current.running } := by
  refine ⟨hnext, fun i hi => ?_, h.length, fun i check hcheck => ?_⟩
  · rcases List.mem_cons.mp hi with rfl | hi
    · exact hnext
    · exact h.running i hi
  · rcases h.result i check hcheck with ⟨hnone, hstart⟩ | ⟨answers, hfinish, hsome⟩
    · grind
    · exact .inr ⟨answers, List.mem_append_left _ hfinish, hsome⟩

theorem Progress.finish {k index : Nat} {check : Check} {answers : Answers}
    (h : Progress call as k current) (hcheck : current.stage.checks[index]? = some check) :
    Progress call (as ++ [.finish k index answers]) k
      { current with
        running := current.running.erase index
        results :=
          current.results.set index (some (runCheck call current.stage check answers)) } := by
  refine ⟨h.next_le, fun i hi => h.running i (List.mem_of_mem_erase hi), ?_,
    fun i check' hcheck' => ?_⟩
  · simp only [List.length_set, h.length]
  · by_cases hi : index = i
    · subst hi
      have hslot : index < current.results.length := by
        obtain ⟨hlt, -⟩ := List.getElem?_eq_some_iff.mp hcheck
        exact h.length ▸ hlt
      rw [hcheck, Option.some.injEq] at hcheck'
      subst hcheck'
      refine .inr ⟨answers, List.mem_append_right as (List.mem_singleton.mpr rfl), ?_⟩
      exact List.getElem?_set_self hslot
    · simp only [List.getElem?_set_ne hi]
      rcases h.result i check' hcheck' with ⟨hnone, hstart⟩ | ⟨answers', hfinish, hsome⟩
      · grind
      · exact .inr ⟨answers', List.mem_append_left _ hfinish, hsome⟩

/-! ### The decision -/

theorem endedBeforeDecision_append (h : EndedBeforeDecision (as ++ [a])) :
    EndedBeforeDecision as ∨ a = .readDeadline ∧ (.cancel ∈ as ∨ .expire ∈ as) := by
  obtain ⟨before, after, hsplit, hmem⟩ := h
  rcases List.eq_nil_or_concat after with rfl | ⟨rest, b, rfl⟩
  · obtain ⟨rfl, ha⟩ := List.append_inj' hsplit rfl
    exact .inr ⟨List.singleton_inj.mp ha, hmem⟩
  · rw [List.concat_eq_append, ← List.cons_append, ← List.append_assoc] at hsplit
    obtain ⟨rfl, -⟩ := List.append_inj' hsplit rfl
    exact .inl ⟨before, rest, rfl, hmem⟩

theorem Blocked.step (hs : Blocked s) (h : Moves call s a s') : Blocked s' := by
  rcases hs with ⟨status, hended⟩ | ⟨hinTime, hcanceled⟩
  · cases h with
    | endContext => exact .inl ⟨status, hended⟩
    | _ hphase => rw [hphase] at hended; contradiction
  · cases h with
    | endContext _ _ hkept =>
      refine .inr ⟨hinTime, ?_⟩
      have hcontext := hkept (by rw [hcanceled]; exact Option.some_ne_none _)
      exact hcontext.trans hcanceled
    | readCanceled => exact .inl ⟨.cancelled, if_pos hcanceled⟩
    | _ hphase => rw [hphase] at hinTime; contradiction

theorem blocked_of_readDeadline (h : Moves call s .readDeadline s') (hended : s.context ≠ none) :
    Blocked s' := by
  cases h with
  | endContext ha => rcases ha with ha | ha <;> contradiction
  | readDeadline =>
    cases hcontext : s.context with
    | none => exact absurd hcontext hended
    | some e =>
      cases e with
      | deadlineExceeded => exact .inl ⟨.timedOut, rfl⟩
      | canceled => exact .inr ⟨rfl, rfl⟩

theorem any_stored_required (results : List CheckResult) :
    ((results.map (·.stored)).any fun result => result.status ≠ "SUCCESS" ∧ result.required) =
      results.any isRequiredFailure := by
  rw [List.any_map]
  rfl

theorem any_stored_optional (results : List CheckResult) :
    ((results.map (·.stored)).any fun result => result.status ≠ "SUCCESS" ∧ ¬ result.required) =
      results.any isOptionalFailure := by
  rw [List.any_map]
  rfl

theorem Inv.resultsPhase_eq (hs : Inv call as s) :
    resultsPhase s = .ended (suiteVerdict none (s.results.map (·.stored))).1
      (suiteVerdict none (s.results.map (·.stored))).2 := by
  rw [suiteVerdict, any_stored_required, any_stored_optional, ← hs.required, ← hs.optional,
    resultsPhase]
  split
  · rfl
  · split <;> rfl

/-! ### One step -/

theorem PhaseInv.endContext {context : Option ContextEnd} (h : PhaseInv call as s)
    (ha : a = .cancel ∨ a = .expire) (hended : context ≠ none)
    (hkept : s.context ≠ none → context = s.context) :
    PhaseInv call (as ++ [a]) { s with context := context } := by
  have hother : ∀ k i, a ≠ .start k i := by rcases ha with rfl | rfl <;> simp
  rw [PhaseInv] at h ⊢
  simp only
  split at h
  · exact ⟨h.1, h.2.1, h.2.2.append (hother _)⟩
  · exact .inr hended
  · rcases h with hover | hcanceled
    · exact .inl hover
    · have hcontext := hkept (by rw [hcanceled]; exact Option.some_ne_none _)
      exact .inr (hcontext.trans hcanceled)
  · exact h

theorem Inv.phase_endStage {later : List Stage} (hs : Inv call as s)
    (hphase : s.phase = .stage current later) :
    PhaseInv call (as ++ [.endStage]) (endStage call.suite current.returned later s) := by
  have hinv := hs.phase
  rw [PhaseInv, hphase] at hinv
  obtain ⟨hdrop, hfailFast, -⟩ := hinv
  have hlength := length_of_drop hdrop
  rw [PhaseInv, endStage]
  simp only
  by_cases hleft : s.context ≠ none ∨
      call.suite.failFast = true ∧
        (s.requiredFailure || current.returned.any isRequiredFailure) = true
  · rw [if_pos hleft]
    rcases hleft with hended | hfailure
    · exact .inr hended
    · exact .inl (.inr hfailure)
  · rw [if_neg hleft]
    rw [not_or, not_and, Bool.not_eq_true] at hleft
    cases later with
    | nil => exact .inl (.inl hlength.symm)
    | cons stage later =>
      refine ⟨?_, hleft.2, progress_startStage fun i hmem => ?_⟩
      · rw [← List.drop_drop, hdrop]
        rfl
      · have hstage : s.completed + 1 ≤ s.completed := by
          refine hs.started _ i ?_
          rcases List.mem_append.mp hmem with hmem | hmem
          · exact hmem
          · cases List.mem_singleton.mp hmem
        exact absurd hstage (Nat.not_succ_le_self _)

theorem Inv.phase_step (hs : Inv call as s) (h : Moves call s a s') :
    PhaseInv call (as ++ [a]) s' := by
  have hinv := hs.phase
  cases h with
  | endContext ha hended hkept => exact hinv.endContext ha hended hkept
  | start hphase hnext =>
    rw [PhaseInv, hphase] at hinv
    exact ⟨hinv.1, hinv.2.1, hinv.2.2.start hnext⟩
  | skip hphase hnext =>
    rw [PhaseInv, hphase] at hinv
    have hprogress := hinv.2.2.append (a := .skip) fun i => Action.noConfusion
    exact ⟨hinv.1, hinv.2.1, hnext, hprogress.running, hprogress.length, hprogress.result⟩
  | finish hphase hcheck =>
    rw [PhaseInv, hphase] at hinv
    exact ⟨hinv.1, hinv.2.1, hinv.2.2.finish hcheck⟩
  | endStage hphase => exact hs.phase_endStage hphase
  | readDeadline hphase =>
    rw [PhaseInv, hphase] at hinv
    rw [PhaseInv]
    cases hcontext : s.context with
    | none => exact .inl (hinv.resolve_right fun hended => hended hcontext)
    | some e =>
      cases e with
      | deadlineExceeded => exact ⟨some .deadlineExceeded, rfl, fun h => by contradiction⟩
      | canceled => exact .inr rfl
  | readCanceled hphase =>
    rw [PhaseInv, hphase] at hinv
    rw [PhaseInv]
    simp only
    by_cases hcanceled : s.context = some .canceled
    · rw [if_pos hcanceled]
      exact ⟨some .canceled, rfl, fun h => by contradiction⟩
    · rw [if_neg hcanceled, hs.resultsPhase_eq]
      exact ⟨none, rfl, fun _ => hinv.resolve_right hcanceled⟩

theorem Inv.results_step (hs : Inv call as s) (h : Moves call s a s') :
    List.Forall₂ (GivenResult call (as ++ [a])) (call.suite.refs s'.completed) s'.results := by
  have hkept := hs.results_append h
  cases h with
  | endStage hphase _ hrunning =>
    have hinv := hs.phase
    rw [PhaseInv, hphase] at hinv
    obtain ⟨hdrop, -, hprogress⟩ := hinv
    have hstage := (hprogress.append (a := .endStage) fun i => Action.noConfusion).returned hrunning
    rw [endStage, refs_succ hdrop]
    exact List.rel_append hkept hstage
  | _ => exact hkept

theorem Inv.flags_step (hs : Inv call as s) (h : Moves call s a s') :
    s'.requiredFailure = s'.results.any isRequiredFailure ∧
      s'.optionalFailure = s'.results.any isOptionalFailure := by
  cases h with
  | endStage => simp only [endStage, List.any_append, hs.required, hs.optional, and_self]
  | _ => exact ⟨hs.required, hs.optional⟩

theorem Inv.started_step (hs : Inv call as s) (h : Moves call s a s') (k i : Nat)
    (hmem : .start k i ∈ as ++ [a]) : k ≤ s'.completed := by
  have hle := hs.started_append h k i hmem
  cases h with
  | endStage => exact Nat.le_succ_of_le hle
  | _ => exact hle

theorem Inv.context_step (hs : Inv call as s) (h : Moves call s a s')
    (hmem : .cancel ∈ as ++ [a] ∨ .expire ∈ as ++ [a]) : s'.context ≠ none := by
  have hbefore : (.cancel ∈ as ∨ .expire ∈ as) ∨ a = .cancel ∨ a = .expire := by
    grind
  cases h with
  | endContext _ hended => exact hended
  | _ =>
    rcases hbefore with hmem | ha | ha
    · exact hs.context hmem
    · contradiction
    · contradiction

/-- **One step keeps the invariant.** -/
theorem Inv.step (hs : Inv call as s) (h : Moves call s a s') : Inv call (as ++ [a]) s' where
  results := hs.results_step h
  required := (hs.flags_step h).1
  optional := (hs.flags_step h).2
  started := hs.started_step h
  context := hs.context_step h
  blocked := by
    intro hended
    rcases endedBeforeDecision_append hended with hended | ⟨rfl, hmem⟩
    · exact (hs.blocked hended).step h
    · exact blocked_of_readDeadline h (hs.context hmem)
  phase := hs.phase_step h

theorem inv_initial (call : Call) : Inv call [] (initial call.suite) where
  results := .nil
  required := rfl
  optional := rfl
  started := by simp
  context := by simp
  blocked := by
    rintro ⟨before, after, hsplit, -⟩
    exact absurd hsplit (by simp)
  phase := by
    rw [PhaseInv, initial]
    simp only
    cases hstages : call.suite.stages with
    | nil => exact .inl (.inl (by rw [hstages]; rfl))
    | cons stage later =>
      exact ⟨rfl, fun _ => trivial, progress_startStage fun i => List.not_mem_nil⟩

theorem inv_of_run (h : runActions (SuiteExecution.step call) (initial call.suite) as = some s) :
    Inv call as s :=
  runActions_history (inv_initial call) (fun _ _ _ _ hs hstep => hs.step (step_moves hstep)) h

end Invariant

/-! ## The decision of a run -/

section Decision

variable {call : Call} {s : State} {as : List Action} {decision : GateDecision}

theorem phase_of_decision? (h : s.decision? = some decision) :
    ∃ status, s.phase = .ended status decision := by
  rw [State.decision?] at h
  split at h
  · rename_i status decision' hphase
    cases h
    exact ⟨status, hphase⟩
  · contradiction

theorem required_failure_iff :
    s.results.any isRequiredFailure = true ↔
      ∃ result ∈ s.results, result.required = true ∧ result.status ≠ "SUCCESS" := by
  simp only [List.any_eq_true, isRequiredFailure, decide_eq_true_eq, and_comm]

theorem Inv.running (hs : Inv call as s) (hstage : s.InStage)
    (hfailFast : call.suite.failFast = true) {result : CheckResult} (hresult : result ∈ s.results)
    (hrequired : result.required = true) :
    result.status = "SUCCESS" := by
  obtain ⟨current, later, hphase⟩ := hstage
  have hinv := hs.phase
  rw [PhaseInv, hphase] at hinv
  have hnone := hinv.2.1 hfailFast
  by_contra hstatus
  have hsome := required_failure_iff.mpr ⟨result, hresult, hrequired, hstatus⟩
  rw [← hs.required, hnone] at hsome
  contradiction

theorem Inv.allow (hs : Inv call as s) (h : s.decision? = some .allow) :
    s.completed = call.suite.stages.length ∧ ∀ result ∈ s.results, result.status = "SUCCESS" := by
  obtain ⟨status, hphase⟩ := phase_of_decision? h
  have hinv := hs.phase
  rw [PhaseInv, hphase] at hinv
  obtain ⟨contextEnd, hverdict, hover⟩ := hinv
  cases contextEnd with
  | some e => cases e <;> cases hverdict
  | none =>
    rw [suiteVerdict, any_stored_required, any_stored_optional] at hverdict
    split at hverdict
    · cases hverdict
    · rename_i hrequired
      split at hverdict
      · cases hverdict
      · rename_i hoptional
        refine ⟨?_, fun result hresult => ?_⟩
        · refine (hover rfl).resolve_right fun hfailure => hrequired ?_
          rw [← hs.required]
          exact hfailure.2
        · by_contra hstatus
          cases hflag : result.required with
          | true => exact hrequired (required_failure_iff.mpr ⟨result, hresult, hflag, hstatus⟩)
          | false =>
            refine hoptional (List.any_eq_true.mpr ⟨result, hresult, ?_⟩)
            simp [isOptionalFailure, hflag, hstatus]

theorem Inv.block_of_failure (hs : Inv call as s) (h : s.decision? = some decision)
    (hfailure : ∃ result ∈ s.results, result.required = true ∧ result.status ≠ "SUCCESS") :
    decision = .block := by
  obtain ⟨status, hphase⟩ := phase_of_decision? h
  have hinv := hs.phase
  rw [PhaseInv, hphase] at hinv
  obtain ⟨contextEnd, hverdict, -⟩ := hinv
  cases contextEnd with
  | some e => cases e <;> (cases hverdict; rfl)
  | none =>
    rw [suiteVerdict, any_stored_required, required_failure_iff.mpr hfailure] at hverdict
    cases hverdict
    rfl

theorem Inv.block_of_ended (hs : Inv call as s) (h : s.decision? = some decision)
    (hended : EndedBeforeDecision as) : decision = .block := by
  obtain ⟨status, hphase⟩ := phase_of_decision? h
  rcases hs.blocked hended with ⟨status', hblock⟩ | ⟨hinTime, -⟩
  · rw [hphase] at hblock
    cases hblock
    rfl
  · rw [hphase] at hinTime
    contradiction

/-- **A suite run is sound.**  Each result of a stage that ran is the result of its check, each
check starts at most once, and with fail-fast no stage runs after a required failure.  The run ends
with ALLOW only if every stage ran and every result is a success, and with BLOCK whenever a result
that counts as required is none, or the context had ended before the decision began to read it. -/
theorem suite_run_sound (h : runActions (step call) (initial call.suite) as = some s) :
    List.Forall₂ (GivenResult call as) (call.suite.refs s.completed) s.results ∧
      (∀ stageIndex index,
        occurrences (step call) (fun _ a _ => a.starts stageIndex index = true)
          (initial call.suite) as ≤ 1) ∧
      (s.InStage → call.suite.failFast = true →
        ∀ result ∈ s.results, result.required = true → result.status = "SUCCESS") ∧
      (s.decision? = some .allow →
        s.completed = call.suite.stages.length ∧
          ∀ result ∈ s.results, result.status = "SUCCESS") ∧
      ∀ decision, s.decision? = some decision →
        (∃ result ∈ s.results, result.required = true ∧ result.status ≠ "SUCCESS") ∨
          EndedBeforeDecision as →
        decision = .block := by
  have hs := inv_of_run h
  refine ⟨hs.results, starts_le_one, ?_, hs.allow, ?_⟩
  · intro hstage hfailFast result hresult hrequired
    exact hs.running hstage hfailFast hresult hrequired
  · rintro decision hdecision (hfailure | hended)
    · exact hs.block_of_failure hdecision hfailure
    · exact hs.block_of_ended hdecision hended

end Decision

/-! ## Runs end -/

section Ends

variable {call : Call} {s : State} {as : List Action}

/-- The steps that a run without a context has to take at least. -/
def State.remaining (s : State) : Nat :=
  match s.phase with
  | .stage current _ => 3 + current.running.length + (current.stage.checks.length - current.next)
  | .finished => 2
  | .inTime => 1
  | .ended _ _ => 0

theorem exists_step (hs : Inv call as s) (answers : Answers) (hended : s.context ≠ none)
    (hopen : s.decision? = none) :
    ∃ a s', step call s a = some s' ∧ s'.context ≠ none ∧ s'.remaining < s.remaining := by
  have hinv := hs.phase
  cases hphase : s.phase with
  | stage current later =>
    rw [PhaseInv, hphase] at hinv
    obtain ⟨-, -, hprogress⟩ := hinv
    cases hrunning : current.running with
    | nil =>
      by_cases hnext : current.next < current.stage.checks.length
      · have hstep : step call s .skip = some { s with
            phase := .stage { current with next := current.next + 1 } later } := by
          simp only [step, hphase, if_pos (And.intro hnext hended)]
        refine ⟨.skip, _, hstep, hended, ?_⟩
        simp only [State.remaining, hphase]
        omega
      · have hlast : current.next = current.stage.checks.length :=
          Nat.le_antisymm hprogress.next_le (Nat.le_of_not_lt hnext)
        have hstep : step call s .endStage =
            some (endStage call.suite current.returned later s) := by
          simp only [step, hphase, if_pos (And.intro hlast hrunning)]
        refine ⟨.endStage, _, hstep, hended, ?_⟩
        simp only [State.remaining, hphase, endStage, if_pos (Or.inl hended)]
        omega
    | cons index rest =>
      have hmem : index ∈ current.running := by
        rw [hrunning]
        exact List.mem_cons_self
      have hlt := hprogress.running index hmem
      have hcheck := List.getElem?_eq_getElem hlt
      have hstep : step call s (.finish s.completed index answers) = some { s with
          phase := .stage { current with
            running := current.running.erase index
            results :=
              current.results.set index
                (some (runCheck call current.stage current.stage.checks[index] answers)) }
            later } := by
        simp only [step, hphase, hcheck, if_pos (And.intro trivial hmem)]
      refine ⟨_, _, hstep, hended, ?_⟩
      have hpos := List.length_pos_of_mem hmem
      simp only [State.remaining, hphase, List.length_erase_of_mem hmem]
      omega
  | finished =>
    have hstep : step call s .readDeadline = some { s with
        phase := if s.context = some .deadlineExceeded then .ended .timedOut .block
          else .inTime } := by
      simp only [step, hphase]
    refine ⟨.readDeadline, _, hstep, hended, ?_⟩
    by_cases hdeadline : s.context = some .deadlineExceeded
    · simp [State.remaining, hphase, hdeadline]
    · simp [State.remaining, hphase, hdeadline]
  | inTime =>
    have hstep : step call s .readCanceled = some { s with
        phase := if s.context = some .canceled then .ended .cancelled .block
          else resultsPhase s } := by
      simp only [step, hphase]
    refine ⟨.readCanceled, _, hstep, hended, ?_⟩
    obtain ⟨status, decision, hresults⟩ := resultsPhase_ended s
    by_cases hcanceled : s.context = some .canceled
    · simp [State.remaining, hphase, hcanceled]
    · simp [State.remaining, hphase, hcanceled, hresults]
  | ended status decision =>
    rw [State.decision?, hphase] at hopen
    contradiction

/-- **No run gets stuck**: whatever the services answer, it can end from every state. -/
theorem suite_run_can_end (answers : Answers)
    (h : runActions (step call) (initial call.suite) as = some s) :
    ∃ t decision, Reachable (step call) s t ∧ t.decision? = some decision := by
  have hclose : ∀ n as s, s.remaining = n → Inv call as s → s.context ≠ none →
      ∃ t decision, Reachable (step call) s t ∧ t.decision? = some decision := by
    intro n
    induction n using Nat.strong_induction_on with
    | _ n ih =>
      rintro as s rfl hs hended
      cases hdecision : s.decision? with
      | some decision => exact ⟨s, decision, ⟨[], rfl⟩, hdecision⟩
      | none =>
        obtain ⟨a, s', hstep, hended', hlt⟩ := exists_step hs answers hended hdecision
        obtain ⟨t, decision, hreach, ht⟩ :=
          ih _ hlt (as ++ [a]) s' rfl (hs.step (step_moves hstep)) hended'
        exact ⟨t, decision, hreach.head hstep, ht⟩
  have hexpire : step call s .expire =
      some { s with context := s.context.or (some .deadlineExceeded) } := rfl
  obtain ⟨t, decision, hreach, ht⟩ := hclose _ (as ++ [.expire]) _ rfl
    ((inv_of_run h).step (step_moves hexpire)) (by cases s.context <;> simp)
  exact ⟨t, decision, hreach.head hexpire, ht⟩

end Ends

/-! ## Runs of one check -/

def sampleCheck (kind : CheckKind) : Check where
  id := "check-1"
  kind := kind
  monitorId := "monitor-1"
  browserMonitorId := ""
  queryId := "query-1"
  receiverId := ""
  externalMonitorId := ""
  externalTriggerId := ""
  externalMonitorName := ""
  externalTriggerName := ""
  name := "Checkout"
  required := true
  applicationId := ""
  gateMode := ""

def sampleCall (kind : CheckKind) : Call where
  suite := ⟨[⟨"stage-1", "Smoke", [sampleCheck kind]⟩], 1, true⟩
  deploymentStart := none
  quote := id
  lower := id
  position := .refl Nat

def failedQuery : ElfRun where
  id := "run-1"
  revisionId := "revision-1"
  applicationId := ""
  serviceId := ""
  resolvedIndex := "logs"
  gateMode := "ADVISORY"
  decision := "FAIL"
  hitCount := 12
  timeFrom := 0
  timeTo := 900
  status := "SUCCESS"
  failureCategory := ""
  failureReason := ""

def sampleAnswers : Answers where
  monitor := .ended "run-1" .success "" ""
  browser := .unavailable
  elf := .ran failedQuery
  alerts := ⟨false, Table.empty, false, Table.empty, none⟩
  dynatrace := .unavailable
  durationMs := 40

/-- The steps of a run with one check, up to its decision. -/
def oneCheck : List Action := [.start 0 0, .finish 0 0 sampleAnswers, .endStage, .readDeadline]

theorem suite_run_sound_sample : ∃ s,
    runActions (step (sampleCall .monitor)) (initial (sampleCall .monitor).suite)
        (oneCheck ++ [.readCanceled]) = some s ∧
      s.decision? = some .allow ∧ s.completed = 1 ∧
      ∀ result ∈ s.results, result.status = "SUCCESS" := by
  have hrun : ∃ s, runActions (step (sampleCall .monitor)) (initial (sampleCall .monitor).suite)
      (oneCheck ++ [.readCanceled]) = some s ∧ s.decision? = some .allow := ⟨_, rfl, rfl⟩
  obtain ⟨s, hs, hallow⟩ := hrun
  exact ⟨s, hs, hallow, (suite_run_sound hs).2.2.2.1 hallow⟩

theorem suite_run_can_end_started : ∃ s,
    runActions (step (sampleCall .monitor)) (initial (sampleCall .monitor).suite) [.start 0 0] =
        some s ∧
      ∃ t decision, Reachable (step (sampleCall .monitor)) s t ∧ t.decision? = some decision := by
  obtain ⟨s, hrun⟩ : ∃ s, runActions (step (sampleCall .monitor))
      (initial (sampleCall .monitor).suite) [.start 0 0] = some s := ⟨_, rfl⟩
  exact ⟨s, hrun, suite_run_can_end sampleAnswers hrun⟩

/-- A check that is marked as required fails, and the run is allowed with warnings: its query is
advisory.  And a run is allowed whose deadline passes while the decision reads the context. -/
theorem required_check_allows :
    (∃ s, runActions (step (sampleCall .elfQuery)) (initial (sampleCall .elfQuery).suite)
          (oneCheck ++ [.readCanceled]) = some s ∧
        (sampleCheck .elfQuery).required = true ∧
        s.results.map (·.status) = ["FAILED"] ∧ s.decision? = some .allowWithWarnings) ∧
      ∃ s, runActions (step (sampleCall .monitor)) (initial (sampleCall .monitor).suite)
          (oneCheck ++ [.expire, .readCanceled]) = some s ∧
        s.context = some .deadlineExceeded ∧ s.decision? = some .allow :=
  ⟨⟨_, rfl, rfl, rfl, rfl⟩, ⟨_, rfl, rfl, rfl⟩⟩

end Rhythm.Suites.SuiteExecution
