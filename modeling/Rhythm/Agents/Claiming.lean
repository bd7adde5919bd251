import Rhythm.Agents.Capacity

/-!
# Rhythm.Agents.Claiming

Concurrent calls on the agents, and when `Claim` finds none.  A PostgreSQL call
is a transaction: its statement takes row locks, and they are held until the
transaction ends.  The statement of `Claim` locks every available agent that no
other transaction has locked (`FOR UPDATE SKIP LOCKED`), whatever the
requirement, which is looked at afterwards.  A call of the memory repository
holds its mutex, so it is one step.
-/

namespace Rhythm.Agents.Claiming

/-! ## Calls -/

abbrev CallId := Nat

/-- Where agents are kept. -/
inductive Repository where
  | postgres | memory
  deriving DecidableEq

/-- What a call was made for. -/
inductive Work where
  | claim (requirements : AgentRequirements) (now : Time)
  | heartbeat (agentID : AgentId) (now : Time) (input : HeartbeatInput)
  | setStatus (agentID : AgentId) (status : String) (now : Time)
  | release (agentID : AgentId) (now : Time)

/-- How far a call is. -/
inductive Stage where
  | begun
  /-- The statement has run: the rows that it holds, and the agent that `Claim` has selected. -/
  | held (locked : List AgentId) (selected : Option Agent)

structure Call where
  id : CallId
  work : Work
  stage : Stage

def Call.locked (call : Call) : List AgentId :=
  match call.stage with
  | .begun => []
  | .held locked _ => locked

/-- The agents, and the calls that have not returned. -/
structure State where
  agents : AgentTable
  calls : Table Call Call.id

def initial : State := ⟨.empty, .empty⟩

def State.lockedByOthers (s : State) (callID : CallId) : List AgentId :=
  (s.calls.rows.filter fun call => call.id ≠ callID).flatMap Call.locked

theorem keepsKey_stage (stage : Stage) :
    Table.KeepsKey Call.id fun call : Call => { call with stage := stage } :=
  ⟨fun _ => rfl⟩

def State.hold (s : State) (callID : CallId) (locked : List AgentId) (selected : Option Agent) :
    State :=
  { s with
    calls := s.calls.update (fun call => call.id = callID)
      (fun call => { call with stage := .held locked selected })
      (keepsKey_stage (.held locked selected)) }

def State.close (s : State) (callID : CallId) : State :=
  { s with calls := s.calls.deleteWhere fun call => call.id = callID }

section Calls

variable (toLower : String → String)

/-- What a call other than `Claim` writes, and the row that it writes. -/
def write (work : Work) (agents : AgentTable) : Except String (AgentId × AgentTable) :=
  match work with
  | .claim _ _ => .error "claim"
  | .heartbeat agentID now input =>
    (heartbeat toLower agentID now input agents).map fun agents => (agentID, agents)
  | .setStatus agentID status now =>
    (setStatus agentID status now agents).map fun agents => (agentID, agents)
  | .release agentID now => (release agentID now agents).map fun agents => (agentID, agents)

/-- The tables after the write, or as they were if it failed. -/
def written (work : Work) (agents : AgentTable) : AgentTable :=
  match write toLower work agents with
  | .error _ => agents
  | .ok (_, agents) => agents

/-- The agents that `matches` accepts. -/
def candidates (requirements : AgentRequirements) (now : Time) (agents : AgentTable) :
    List Agent :=
  agents.rows.filter fun agent => matchesRequirements toLower agent requirements now

/-- One more agent of the loop of `MemoryRepository.Claim`: the less loaded one is kept. -/
def lessLoaded (selected : Option Agent) (agent : Agent) : Option Agent :=
  match selected with
  | none => some agent
  | some best =>
    if agent.activeRuns * best.maxConcurrency < best.activeRuns * agent.maxConcurrency then
      some agent
    else some best

/-- The agent that `MemoryRepository.Claim` selects.  The order of the loop decides between agents
that are equally loaded. -/
def memorySelect (requirements : AgentRequirements) (now : Time) (agents : AgentTable) :
    Option Agent :=
  (candidates toLower requirements now agents).foldl lessLoaded none

theorem keepsKey_claimAgent (now : Time) : Table.KeepsKey Agent.id (claimAgent now) :=
  ⟨fun _ => rfl⟩

def claimed (now : Time) (selected : Option Agent) (agents : AgentTable) : AgentTable :=
  match selected with
  | none => agents
  | some selected =>
    agents.update (fun agent => agent.id = selected.id) (claimAgent now) (keepsKey_claimAgent now)

inductive Action where
  | register (id : AgentId) (now : Time) (input : RegisterInput)
  | beginCall (callID : CallId) (work : Work)
  /-- The statement that reads or writes the agents. -/
  | statement (callID : CallId)
  /-- `COMMIT` or `ROLLBACK`, and the return of the call. -/
  | finish (callID : CallId)

/-- The statement of a PostgreSQL transaction.  `SKIP LOCKED` passes over the rows that others hold;
a write waits for its row. -/
def postgresStatement (s : State) (call : Call) : Option State :=
  match call.work with
  | .claim requirements now =>
    let others := s.lockedByOthers call.id
    let free := s.agents.rows.filter fun agent => Available now agent ∧ agent.id ∉ others
    some (s.hold call.id (free.map Agent.id) (selectAgent toLower requirements now others s.agents))
  | work =>
    match write toLower work s.agents with
    | .error _ => some (s.hold call.id [] none)
    | .ok (agentID, _) =>
      if agentID ∈ s.lockedByOthers call.id then none else some (s.hold call.id [agentID] none)

/-- The end of a PostgreSQL transaction, which makes its write visible. -/
def postgresFinish (s : State) (call : Call) (selected : Option Agent) : State :=
  match call.work with
  | .claim _ now => { s with agents := claimed now selected s.agents }.close call.id
  | work => { s with agents := written toLower work s.agents }.close call.id

def memoryStatement (s : State) (call : Call) : State :=
  match call.work with
  | .claim requirements now =>
    let selected := memorySelect toLower requirements now s.agents
    { s with agents := claimed now selected s.agents }.hold call.id [] selected
  | work => { s with agents := written toLower work s.agents }.hold call.id [] none

/-- **One step of the calls on the agents.** -/
def step (repository : Repository) (s : State) : Action → Option State
  | .register id now input =>
    (register toLower id now input s.agents).toOption.map fun agents => { s with agents }
  | .beginCall callID work =>
    (s.calls.insert ⟨callID, work, .begun⟩).map fun calls => { s with calls }
  | .statement callID =>
    match s.calls.get? callID with
    | some ⟨id, work, .begun⟩ =>
      match repository with
      | .postgres => postgresStatement toLower s ⟨id, work, .begun⟩
      | .memory => some (memoryStatement toLower s ⟨id, work, .begun⟩)
    | _ => none
  | .finish callID =>
    match s.calls.get? callID with
    | some ⟨id, work, .held locked selected⟩ =>
      match repository with
      | .postgres => some (postgresFinish toLower s ⟨id, work, .held locked selected⟩ selected)
      | .memory => some (s.close callID)
    | _ => none

/-! ## Moments of a call -/

def Unmatched (s : State) (call : Call) : Prop :=
  match call.work with
  | .claim requirements now =>
    ∀ agent ∈ s.agents, matchesRequirements toLower agent requirements now = false
  | _ => False

instance (s : State) : DecidablePred (Unmatched toLower s)
  | ⟨_, .claim requirements now, _⟩ => inferInstanceAs (Decidable (∀ agent ∈ s.agents,
    matchesRequirements toLower agent requirements now = false))
  | ⟨_, .heartbeat _ _ _, _⟩ | ⟨_, .setStatus _ _ _, _⟩ | ⟨_, .release _ _, _⟩ => .isFalse id

/-- The calls that have not returned and have had a moment without a matching agent. -/
def observe (_ : State) (_ : Action) (s' : State) (seen : List CallId) : List CallId :=
  (s'.calls.rows.filter fun call => call.id ∈ seen ∨ Unmatched toLower s' call).map Call.id

/-- A claim that has selected no agent: it returns `ErrNoCapacity`. -/
def Call.failing (call : Call) : Bool :=
  match call.work, call.stage with
  | .claim _ _, .held _ none => true
  | _, _ => false

/-- What a claim that has not run its statement yet asks for. -/
def Call.wanted? (call : Call) : Option (AgentRequirements × Time) :=
  match call.work, call.stage with
  | .claim requirements now, .begun => some (requirements, now)
  | _, _ => none

/-- The call is one of `Claim` that returns `ErrNoCapacity`. -/
def Fails (s : State) (callID : CallId) : Prop := (s.calls.get? callID).any Call.failing = true

instance (s : State) : DecidablePred (Fails s) := fun callID =>
  inferInstanceAs (Decidable ((s.calls.get? callID).any Call.failing = true))

/-- When `Claim` fails, there was a moment of the call without a matching agent. -/
def Complete (x : State × List CallId) : Action → State × List CallId → Prop
  | .finish callID, _ => Fails x.1 callID → callID ∈ x.2
  | _, _ => True

instance (x : State × List CallId) : ∀ a x', Decidable (Complete x a x')
  | .finish callID, _ => inferInstanceAs (Decidable (Fails x.1 callID → callID ∈ x.2))
  | .register _ _ _, _ | .beginCall _ _, _ | .statement _, _ => .isTrue trivial

/-- A matching agent that the statement of a PostgreSQL claim can select. -/
def Findable (s : State) (callID : CallId) (requirements : AgentRequirements) (now : Time)
    (agent : Agent) : Prop :=
  matchesRequirements toLower agent requirements now = true ∧
    (agent.lastHeartbeatAt.all fun heardAt => now < heardAt + 90000) = true ∧
    agent.id ∉ s.lockedByOthers callID

instance (s : State) (callID : CallId) (requirements : AgentRequirements) (now : Time) :
    DecidablePred (Findable toLower s callID requirements now) :=
  fun _ => inferInstanceAs (Decidable (_ ∧ _ ∧ _))

/-- When the statement of a PostgreSQL claim runs while an agent matches, and one has matched at
each moment of the call, then a matching agent was heard from less than ninety seconds before and
is not locked by another transaction. -/
def FindsMatching (repository : Repository) (x : State × List CallId) :
    Action → State × List CallId → Prop
  | .statement callID, _ => repository = .postgres →
    ∀ wanted ∈ (x.1.calls.get? callID).bind Call.wanted?, callID ∉ x.2 →
    (∃ agent ∈ x.1.agents, matchesRequirements toLower agent wanted.1 wanted.2 = true) →
    ∃ agent ∈ x.1.agents, Findable toLower x.1 callID wanted.1 wanted.2 agent
  | _, _ => True

instance (repository : Repository) (x : State × List CallId) :
    ∀ a x', Decidable (FindsMatching toLower repository x a x')
  | .statement callID, _ => inferInstanceAs (Decidable (repository = .postgres →
    ∀ wanted ∈ (x.1.calls.get? callID).bind Call.wanted?, callID ∉ x.2 →
    (∃ agent ∈ x.1.agents, matchesRequirements toLower agent wanted.1 wanted.2 = true) →
    ∃ agent ∈ x.1.agents, Findable toLower x.1 callID wanted.1 wanted.2 agent))
  | .register _ _ _, _ | .beginCall _ _, _ | .finish _, _ => .isTrue trivial

/-- A step with the calls that have seen such a moment. -/
abbrev observed (repository : Repository) :
    State × List CallId → Action → Option (State × List CallId) :=
  recording (step toLower repository) (observe toLower)

end Calls

/-! ## Selection -/

section Selection

variable {toLower : String → String} {requirements : AgentRequirements} {now : Time}
  {agents : AgentTable} {locked : List AgentId}

theorem locked_of_selectAgent_eq_none
    (hnone : selectAgent toLower requirements now locked agents = none) {agent : Agent}
    (hagent : agent ∈ agents)
    (hmatches : matchesRequirements toLower agent requirements now = true)
    (hheard : (agent.lastHeartbeatAt.all fun heardAt => now < heardAt + 90000) = true) :
    agent.id ∈ locked := by
  by_contra hfree
  have havailable : Available now agent := by
    simp only [matchesRequirements, Bool.and_eq_true, decide_eq_true_eq] at hmatches
    obtain ⟨⟨⟨⟨⟨⟨hactive, hany⟩, hruns⟩, -⟩, -⟩, -⟩, -⟩ := hmatches
    refine ⟨hactive, ?_, hruns⟩
    cases hlast : agent.lastHeartbeatAt with
    | none => simp [hlast] at hany
    | some heardAt => simpa [hlast] using hheard
  have hall := List.find?_eq_none.mp hnone agent
    ((List.mem_insertionSort LoadedBefore).mpr
      (List.mem_filter.mpr ⟨hagent, decide_eq_true ⟨havailable, hfree⟩⟩))
  exact hall hmatches

theorem foldl_lessLoaded_ne_none (agents : List Agent) (best : Agent) :
    agents.foldl lessLoaded (some best) ≠ none := by
  induction agents generalizing best with
  | nil => exact Option.some_ne_none best
  | cons agent agents ih =>
    rw [List.foldl_cons, lessLoaded]
    split <;> exact ih _

theorem memorySelect_eq_none (hnone : memorySelect toLower requirements now agents = none) :
    ∀ agent ∈ agents, matchesRequirements toLower agent requirements now = false := by
  intro agent hagent
  by_contra hmatches
  have hmem : agent ∈ candidates toLower requirements now agents :=
    List.mem_filter.mpr ⟨hagent, by simpa using hmatches⟩
  unfold memorySelect at hnone
  cases hlist : candidates toLower requirements now agents with
  | nil =>
    rw [hlist] at hmem
    exact absurd hmem List.not_mem_nil
  | cons first rest =>
    rw [hlist, List.foldl_cons] at hnone
    exact foldl_lessLoaded_ne_none rest first hnone

end Selection

section Steps

variable {toLower : String → String} {repository : Repository} {s s' : State} {a : Action}
  {call : Call} {callID : CallId}

theorem mem_hold {found : Call} {locked : List AgentId} {selected : Option Agent}
    (hfound : s.calls.get? callID = some found) :
    call ∈ (s.hold callID locked selected).calls ↔
      call = { found with stage := .held locked selected } ∨ call ∈ s.calls ∧ call.id ≠ callID :=
  Table.mem_update_key (keepsKey_stage (.held locked selected)) hfound

theorem mem_close (hcall : call ∈ (s.close callID).calls) : call ∈ s.calls :=
  (Table.mem_deleteWhere.mp hcall).1

/-- A claim whose statement has selected no agent has found no matching one: none at all in the
memory repository, and none that it could lock in PostgreSQL. -/
def FoundNone (toLower : String → String) (repository : Repository) (s : State)
    (callID : CallId) (requirements : AgentRequirements) (now : Time) : Prop :=
  match repository with
  | .postgres =>
    selectAgent toLower requirements now (s.lockedByOthers callID) s.agents = none
  | .memory => memorySelect toLower requirements now s.agents = none

/-- A statement that has run leaves the call with the rows that it holds. -/
def statementOf (toLower : String → String) (repository : Repository) (s : State) (call : Call) :
    Option State :=
  match repository with
  | .postgres => postgresStatement toLower s call
  | .memory => some (memoryStatement toLower s call)

/-- **A statement** leaves its call with the rows that it holds; if it is that of a claim and has
selected no agent, it has changed none and found none. -/
theorem statementOf_eq_some (h : statementOf toLower repository s call = some s') :
    ∃ agents locked selected, s' = { s with agents := agents }.hold call.id locked selected ∧
      ∀ requirements now, call.work = .claim requirements now → selected = none →
        agents = s.agents ∧ FoundNone toLower repository s call.id requirements now := by
  obtain ⟨id, work, stage⟩ := call
  cases repository with
  | postgres =>
    have hwrite : (∀ requirements now, work ≠ .claim requirements now) →
        (match write toLower work s.agents with
        | .error _ => some (s.hold id [] none)
        | .ok (agentID, _) =>
          if agentID ∈ s.lockedByOthers id then none else some (s.hold id [agentID] none)) =
            some s' →
        ∃ agents locked selected, s' = { s with agents := agents }.hold id locked selected ∧
          ∀ requirements now, work = .claim requirements now → selected = none →
            agents = s.agents ∧ FoundNone toLower .postgres s id requirements now := by
      intro hwork hsome
      split at hsome
      · cases hsome
        exact ⟨s.agents, _, _, rfl, fun requirements now heq => absurd heq (hwork requirements now)⟩
      · split at hsome
        · cases hsome
        · cases hsome
          exact ⟨s.agents, _, _, rfl,
            fun requirements now heq => absurd heq (hwork requirements now)⟩
    cases work with
    | claim requirements now =>
      cases h
      refine ⟨s.agents, _, _, rfl, fun found foundNow heq hnone => ⟨rfl, ?_⟩⟩
      cases heq
      exact hnone
    | heartbeat agentID now input | setStatus agentID status now | release agentID now =>
      exact hwrite (fun _ _ => Work.noConfusion) h
  | memory =>
    cases work with
    | claim requirements now =>
      cases h
      refine ⟨_, _, _, rfl, fun found foundNow heq hnone => ?_⟩
      cases heq
      exact ⟨by rw [hnone, claimed], hnone⟩
    | heartbeat agentID now input | setStatus agentID status now | release agentID now =>
      cases h
      exact ⟨_, _, _, rfl, fun _ _ heq => Work.noConfusion heq⟩

theorem mem_calls_finish (h : step toLower repository s (.finish callID) = some s')
    (hcall : call ∈ s'.calls) : call ∈ s.calls := by
  simp only [step] at h
  split at h
  · next id work locked selected hfound =>
    cases repository with
    | postgres =>
      cases h
      cases work <;> exact mem_close hcall
    | memory =>
      cases h
      exact mem_close hcall
  · cases h

/-- **A failing claim** after a step was failing before it, or its statement has just run and has
found no agent. -/
theorem fails_step {requirements : AgentRequirements} {now : Time} {locked : List AgentId}
    (h : step toLower repository s a = some s')
    (hcall : ⟨callID, .claim requirements now, .held locked none⟩ ∈ s'.calls) :
    ⟨callID, .claim requirements now, .held locked none⟩ ∈ s.calls ∨
      a = .statement callID ∧
        s.calls.get? callID = some ⟨callID, .claim requirements now, .begun⟩ ∧
        s'.agents = s.agents ∧ FoundNone toLower repository s callID requirements now := by
  cases a with
  | register id now input =>
    obtain ⟨agents, -, rfl⟩ := Option.map_eq_some_iff.mp h
    exact Or.inl hcall
  | beginCall begunID work =>
    obtain ⟨calls, hinsert, rfl⟩ := Option.map_eq_some_iff.mp h
    rcases Table.mem_insert hinsert hcall with hmem | heq
    · exact Or.inl hmem
    · cases heq
  | statement runID =>
    simp only [step] at h
    split at h
    · next id work hfound =>
      have hid : id = runID := Table.key_of_get? hfound
      subst hid
      have hstatement : statementOf toLower repository s ⟨id, work, .begun⟩ = some s' := by
        cases repository <;> exact h
      obtain ⟨agents, held, selected, rfl, hnone⟩ := statementOf_eq_some hstatement
      rcases (mem_hold hfound).mp hcall with heq | ⟨hmem, -⟩
      · simp only [Call.mk.injEq, Stage.held.injEq] at heq
        obtain ⟨rfl, rfl, -, rfl⟩ := heq
        obtain ⟨hagents, hfoundNone⟩ := hnone requirements now rfl rfl
        exact Or.inr ⟨rfl, hfound, hagents, hfoundNone⟩
      · exact Or.inl hmem
    · cases h
  | finish runID => exact Or.inl (mem_calls_finish h hcall)

end Steps

/-! ## Completeness along a run -/

section Completeness

variable {toLower : String → String} {repository : Repository}

/-- Every failing claim has had a moment without a matching agent. -/
def FailuresSeen (x : State × List CallId) : Prop :=
  ∀ callID requirements now locked,
    ⟨callID, .claim requirements now, .held locked none⟩ ∈ x.1.calls → callID ∈ x.2

theorem mem_observe {s s' : State} {a : Action} {seen : List CallId} {call : Call}
    (hcall : call ∈ s'.calls) (hseen : call.id ∈ seen ∨ Unmatched toLower s' call) :
    call.id ∈ observe toLower s a s' seen :=
  List.mem_map_of_mem (List.mem_filter.mpr ⟨hcall, decide_eq_true hseen⟩)

variable {x x' : State × List CallId}

/-- The statement of a claim that finds none runs at a moment without a matching agent, or after
one. -/
theorem seen_or_unmatched {callID : CallId} {requirements : AgentRequirements} {now : Time}
    (hguard : FindsMatching toLower repository x (.statement callID) x')
    (hcall : x.1.calls.get? callID = some ⟨callID, .claim requirements now, .begun⟩)
    (hnone : FoundNone toLower repository x.1 callID requirements now) :
    callID ∈ x.2 ∨ ∀ agent ∈ x.1.agents,
      matchesRequirements toLower agent requirements now = false := by
  cases repository with
  | memory => exact Or.inr (memorySelect_eq_none hnone)
  | postgres =>
    by_contra hneither
    simp only [not_or, not_forall, Bool.not_eq_false] at hneither
    obtain ⟨hseen, agent, hagent, hmatches⟩ := hneither
    have hwanted : (requirements, now) ∈ (x.1.calls.get? callID).bind Call.wanted? := by
      rw [hcall]
      rfl
    obtain ⟨free, hfree, hfreeMatches, hheard, hunlocked⟩ :=
      hguard rfl (requirements, now) hwanted hseen ⟨agent, hagent, hmatches⟩
    exact hunlocked (locked_of_selectAgent_eq_none hnone hfree hfreeMatches hheard)

theorem failuresSeen_step {a : Action} (hseen : FailuresSeen x)
    (hstep : observed toLower repository x a = some x')
    (hguard : FindsMatching toLower repository x a x') : FailuresSeen x' := by
  obtain ⟨hnext, hrecord⟩ := recording_eq_some_iff.mp hstep
  intro callID requirements now locked hcall
  rw [hrecord]
  refine mem_observe hcall ?_
  rcases fails_step hnext hcall with hbefore | ⟨rfl, hbegun, hagents, hnone⟩
  · exact Or.inl (hseen callID requirements now locked hbefore)
  · refine (seen_or_unmatched hguard hbegun hnone).imp_right fun hall => ?_
    rw [Unmatched, hagents]
    exact hall

theorem exists_of_fails {s : State} {callID : CallId} (h : Fails s callID) :
    ∃ requirements now locked,
      s.calls.get? callID = some ⟨callID, .claim requirements now, .held locked none⟩ := by
  unfold Fails at h
  cases hcall : s.calls.get? callID with
  | none => simp [hcall] at h
  | some call =>
    rw [hcall, Option.any_some] at h
    obtain ⟨id, work, stage⟩ := call
    have hid : id = callID := Table.key_of_get? hcall
    subst hid
    cases work with
    | claim requirements now =>
      cases stage with
      | begun => cases h
      | held locked selected =>
        cases selected with
        | none => exact ⟨requirements, now, locked, rfl⟩
        | some agent => cases h
    | heartbeat | setStatus | release => cases h

/-- **Agent selection.**  In every run of the calls on the agents, from no agents on, a `Claim`
that returns `ErrNoCapacity` has had a moment at which no agent matched, provided that, whenever
the statement of a PostgreSQL claim has a matching agent to find, one of them is not locked by
another transaction and was heard from less than ninety seconds before. -/
theorem complete_along (toLower : String → String) (repository : Repository) (as : List Action)
    (h : Along (observed toLower repository) (FindsMatching toLower repository) (initial, []) as) :
    Along (observed toLower repository) Complete (initial, []) as := by
  have hinitial : FailuresSeen (initial, []) := fun _ _ _ _ hcall =>
    absurd hcall (Table.not_mem_empty _)
  refine Along.of_guard (fun x a x' hseen hstep hguard => ?_) hinitial h
  refine ⟨failuresSeen_step hseen hstep hguard, ?_⟩
  cases a with
  | finish callID =>
    intro hfails
    obtain ⟨requirements, now, locked, hcall⟩ := exists_of_fails hfails
    exact hseen callID requirements now locked (Table.mem_of_get? hcall)
  | _ => trivial

end Completeness

/-! ### Two claims of one agent -/

def anyAgent : AgentRequirements := ⟨none, "", [], []⟩

def twoAtATime : RegisterInput := ⟨"worker", "", "1", [], [], 2⟩

def claimedInTurn : List Action :=
  [.register 1 0 twoAtATime, .beginCall 1 (.claim anyAgent 10), .statement 1, .finish 1,
    .beginCall 2 (.claim anyAgent 20), .statement 2, .finish 2,
    .beginCall 3 (.claim anyAgent 30), .statement 3, .finish 3]

/-- The second claim runs while the first holds the agent. -/
def claimedTogether : List Action :=
  [.register 1 0 twoAtATime, .beginCall 1 (.claim anyAgent 10), .statement 1,
    .beginCall 2 (.claim anyAgent 20), .statement 2, .finish 2]

theorem complete_along_inTurn :
    Along (observed id .postgres) Complete (initial, []) claimedInTurn :=
  complete_along id .postgres claimedInTurn (by decide +kernel)

/-- A claim fails though the agent has a place for it all the time: another claim has locked it. -/
theorem incomplete_together :
    ¬ ∀ (toLower : String → String) (repository : Repository) (as : List Action),
        Along (observed toLower repository) Complete (initial, []) as := by
  intro h
  have hrun : ¬ Along (observed id .postgres) Complete (initial, []) claimedTogether := by
    decide +kernel
  exact hrun (h id .postgres claimedTogether)

end Rhythm.Agents.Claiming
