import Mathlib.Data.List.Sort
import Rhythm.Json
import Rhythm.Runs.Domain
import Rhythm.Text
import Rhythm.Totals
import Rhythm.Transition

/-!
# Rhythm.Agents.Capacity

Execution agents and the runs they are claimed for.  A claim takes the least
loaded healthy agent and counts it up (`active_runs`), a release counts it
down, and a heartbeat overwrites the count with what the agent reports.  The
claims that are not released yet are in the memory of the executions; no
query reads them.

`activeRuns_within_capacity`: the count never leaves `0 … max_concurrency`.
`claims_within_capacity`: neither do the claims, as long as no heartbeat
reports fewer runs than are claimed.
-/

namespace Rhythm.Agents

open Text

abbrev AgentId := Nat
abbrev ClaimId := Nat

/-! ## Agents -/

/-- The statuses `SetStatus` admits. -/
inductive AgentStatus where
  | active | draining | revoked
  deriving DecidableEq

/-- A row of `agents`. -/
structure Agent where
  id : AgentId
  name : String
  groupId : String
  version : String
  status : AgentStatus
  tags : List String
  capabilities : List (String × Json)
  maxConcurrency : Int
  activeRuns : Int
  lastHeartbeatAt : Option Time
  revokedAt : Option Time
  createdAt : Time
  updatedAt : Time

/-- `agents`. -/
abbrev AgentTable := Table Agent Agent.id

structure RegisterInput where
  name : String
  groupId : String
  version : String
  tags : List String
  capabilities : List (String × Json)
  maxConcurrency : Int

structure HeartbeatInput where
  version : String
  tags : List String
  capabilities : List (String × Json)
  maxConcurrency : Int
  activeRuns : Int

/-- The agent that a definition asks for.  An empty identifier or group asks for none. -/
structure AgentRequirements where
  agentId : Option AgentId
  groupId : String
  requiredTags : List String
  requiredCapabilities : List String

/-! ## The calls -/

section Calls

variable (toLower : String → String)

/-- `normalizeTags`: trimmed, in lower case, without empty and repeated ones, sorted. -/
def normalizeTags (values : List String) : List String :=
  ((values.map fun value => toLower (trimSpace value)).filter fun value => value ≠ "").dedup
    |>.insertionSort (· ≤ ·)

/-- The maximum a new agent is registered with: `1` when it is left out. -/
def RegisterInput.capacity (input : RegisterInput) : Int :=
  if input.maxConcurrency = 0 then 1 else input.maxConcurrency

/-- `Register`. -/
def register (id : AgentId) (now : Time) (input : RegisterInput) (agents : AgentTable) :
    Except String AgentTable :=
  if trimSpace input.name = "" then .error "agent name is required"
  else if input.capacity < 1 ∨ 1000 < input.capacity then
    .error "maxConcurrency must be between 1 and 1000"
  else
    let agent : Agent :=
      { id
        name := trimSpace input.name
        groupId := trimSpace input.groupId
        version := trimSpace input.version
        status := .active
        tags := normalizeTags toLower input.tags
        capabilities := input.capabilities
        maxConcurrency := input.capacity
        activeRuns := 0
        lastHeartbeatAt := some now
        revokedAt := none
        createdAt := now
        updatedAt := now }
    match agents.insert agent with
    | none => .error "duplicate key value violates unique constraint"
    | some agents => .ok agents

def heartbeatAgent (now : Time) (input : HeartbeatInput) (agent : Agent) : Agent :=
  { agent with
    version := input.version
    tags := normalizeTags toLower input.tags
    capabilities := input.capabilities
    maxConcurrency := input.maxConcurrency
    activeRuns := input.activeRuns
    lastHeartbeatAt := some now
    updatedAt := now }

/-- `Heartbeat`: the counts are what the agent reports, once they are checked against each other. -/
def heartbeat (id : AgentId) (now : Time) (input : HeartbeatInput) (agents : AgentTable) :
    Except String AgentTable :=
  if input.maxConcurrency < 1 ∨ 1000 < input.maxConcurrency then
    .error "maxConcurrency must be between 1 and 1000"
  else if input.activeRuns < 0 ∨ input.maxConcurrency < input.activeRuns then
    .error "activeRuns must be within agent capacity"
  else if agents.any (fun agent => agent.id = id ∧ agent.status ≠ .revoked) = true then
    .ok (agents.update (fun agent => agent.id = id) (heartbeatAgent toLower now input))
  else .error "execution agent not found"

def parseStatus : String → Option AgentStatus
  | "ACTIVE" => some .active
  | "DRAINING" => some .draining
  | "REVOKED" => some .revoked
  | _ => none

/-- The row `SetStatus` leaves. -/
def setAgentStatus (status : AgentStatus) (now : Time) (agent : Agent) : Agent :=
  { agent with
    status := status
    revokedAt := if status = .revoked then some now else agent.revokedAt
    updatedAt := now }

/-- `SetStatus`. -/
def setStatus (id : AgentId) (status : String) (now : Time) (agents : AgentTable) :
    Except String AgentTable :=
  match parseStatus status with
  | none => .error "invalid agent status"
  | some status =>
    if agents.any (fun agent => agent.id = id) = true then
      .ok (agents.update (fun agent => agent.id = id) (setAgentStatus status now))
    else .error "execution agent not found"

/-- `matches`. -/
def matchesRequirements (agent : Agent) (requirements : AgentRequirements) (now : Time) : Bool :=
  agent.status = .active &&
    (agent.lastHeartbeatAt.any fun heardAt => now ≤ heardAt + 90000) &&
    agent.activeRuns < agent.maxConcurrency &&
    (requirements.agentId.all fun id => id = agent.id) &&
    (requirements.groupId = "" || requirements.groupId = agent.groupId) &&
    (requirements.requiredTags.all fun tag => toLower tag ∈ agent.tags) &&
    requirements.requiredCapabilities.all fun capability =>
      match agent.capabilities.lookup capability with
      | none | some (.bool false) => false
      | some _ => true

/-- The `WHERE` clause of `Claim`. -/
def Available (now : Time) (agent : Agent) : Prop :=
  agent.status = .active ∧ (agent.lastHeartbeatAt.any fun heardAt => now < heardAt + 90000) = true ∧
    agent.activeRuns < agent.maxConcurrency

instance (now : Time) : DecidablePred (Available now) :=
  fun _ => inferInstanceAs (Decidable (_ ∧ _))

/-- `ORDER BY (active_runs::float/max_concurrency),last_heartbeat_at DESC`. -/
def LoadedBefore (a b : Agent) : Prop :=
  a.activeRuns * b.maxConcurrency < b.activeRuns * a.maxConcurrency ∨
    a.activeRuns * b.maxConcurrency = b.activeRuns * a.maxConcurrency ∧
      b.lastHeartbeatAt.getD 0 ≤ a.lastHeartbeatAt.getD 0

instance : DecidableRel LoadedBefore := fun _ _ => inferInstanceAs (Decidable (_ ∨ _))

/-- The agent that `Claim` selects among the rows no other transaction holds (`SKIP LOCKED`). -/
def selectAgent (requirements : AgentRequirements) (now : Time) (locked : List AgentId)
    (agents : AgentTable) : Option Agent :=
  ((agents.rows.filter fun agent => Available now agent ∧ agent.id ∉ locked).insertionSort
    LoadedBefore).find? fun agent => matchesRequirements toLower agent requirements now

def claimAgent (now : Time) (agent : Agent) : Agent :=
  { agent with activeRuns := agent.activeRuns + 1, updatedAt := now }

/-- `Claim`: the selected agent, counted up. -/
def claim (requirements : AgentRequirements) (now : Time) (locked : List AgentId)
    (agents : AgentTable) : Except String (Agent × AgentTable) :=
  match selectAgent toLower requirements now locked agents with
  | none => .error "no healthy execution agent matches the requested capabilities"
  | some selected =>
    .ok (claimAgent now selected,
      agents.update (fun agent => agent.id = selected.id) (claimAgent now))

def releaseAgent (now : Time) (agent : Agent) : Agent :=
  { agent with activeRuns := max 0 (agent.activeRuns - 1), updatedAt := now }

/-- `Release`. -/
def release (id : AgentId) (now : Time) (agents : AgentTable) : Except String AgentTable :=
  if agents.any (fun agent => agent.id = id) = true then
    .ok (agents.update (fun agent => agent.id = id) (releaseAgent now))
  else .error ("execution agent not found: " ++ toString id)

end Calls

/-! ## The system -/

/-- An execution that was given an agent and has not released it. -/
structure AgentClaim where
  id : ClaimId
  agentId : AgentId
  deriving DecidableEq

abbrev ClaimTable := Table AgentClaim AgentClaim.id

structure State where
  agents : AgentTable
  claims : ClaimTable

def initial : State := ⟨.empty, .empty⟩

inductive Action where
  | register (id : AgentId) (now : Time) (input : RegisterInput)
  | heartbeat (id : AgentId) (now : Time) (input : HeartbeatInput)
  | setStatus (id : AgentId) (status : String) (now : Time)
  /-- An execution selects an agent; other transactions hold the `locked` ones. -/
  | claim (id : ClaimId) (requirements : AgentRequirements) (now : Time) (locked : List AgentId)
  /-- The execution is over. -/
  | release (id : ClaimId) (now : Time)

variable (toLower : String → String)

/-- One call.  `none` when it fails. -/
def step (s : State) : Action → Option State
  | .register id now input =>
    (register toLower id now input s.agents).toOption.map fun agents => { s with agents }
  | .heartbeat id now input =>
    (heartbeat toLower id now input s.agents).toOption.map fun agents => { s with agents }
  | .setStatus id status now =>
    (setStatus id status now s.agents).toOption.map fun agents => { s with agents }
  | .claim id requirements now locked =>
    match claim toLower requirements now locked s.agents with
    | .error _ => none
    | .ok (agent, agents) =>
      (s.claims.insert ⟨id, agent.id⟩).map fun claims => { agents, claims }
  | .release id now =>
    match s.claims.get? id with
    | none => none
    | some claimed =>
      (release claimed.agentId now s.agents).toOption.map fun agents =>
        { agents, claims := s.claims.deleteWhere fun claimed => claimed.id = id }

def claimedRuns (id : AgentId) (claims : ClaimTable) : Nat :=
  claims.sum fun claimed => if claimed.agentId = id then 1 else 0

/-! ## What a call does -/

/-- **What a call does**: it adds an agent without runs, rewrites one agent, or moves one claim
together with the count of its agent. -/
inductive Moves (s : State) : Action → State → Prop
  | register {id now input agents agent} (hinsert : s.agents.insert agent = some agents)
      (hid : agent.id = id) (hruns : agent.activeRuns = 0) (hmax : 1 ≤ agent.maxConcurrency) :
      Moves s (.register id now input) { s with agents }
  | heartbeat {id now input} (hlow : 0 ≤ input.activeRuns)
      (hhigh : input.activeRuns ≤ input.maxConcurrency) :
      Moves s (.heartbeat id now input)
        { s with
          agents := s.agents.update (fun agent => agent.id = id)
            (heartbeatAgent toLower now input) }
  | setStatus {id text now status} :
      Moves s (.setStatus id text now)
        { s with
          agents := s.agents.update (fun agent => agent.id = id) (setAgentStatus status now) }
  | claim {id requirements now locked agent claims} (hagent : agent ∈ s.agents)
      (hfree : agent.activeRuns < agent.maxConcurrency)
      (hinsert : s.claims.insert ⟨id, agent.id⟩ = some claims) :
      Moves s (.claim id requirements now locked)
        { agents := s.agents.update (fun row => row.id = agent.id) (claimAgent now), claims }
  | release {id now claimed} (hclaimed : s.claims.get? id = some claimed) :
      Moves s (.release id now)
        { agents := s.agents.update (fun agent => agent.id = claimed.agentId) (releaseAgent now)
          claims := s.claims.deleteWhere fun claimed => claimed.id = id }

variable {toLower} {s s' : State} {a : Action}

private theorem toOption_eq_some {ε α : Type} {e : Except ε α} {x : α} (h : e.toOption = some x) :
    e = .ok x := by
  cases e with
  | error => contradiction
  | ok y => exact congrArg _ (Option.some.inj h)

variable {agents : AgentTable}

theorem mem_of_selectAgent {requirements : AgentRequirements} {now : Time} {locked : List AgentId}
    {agent : Agent} (h : selectAgent toLower requirements now locked agents = some agent) :
    agent ∈ agents ∧ Available now agent := by
  have hmem := List.mem_of_find?_eq_some h
  rw [List.mem_insertionSort, List.mem_filter, decide_eq_true_eq] at hmem
  exact ⟨hmem.1, hmem.2.1⟩

theorem step_moves (h : step toLower s a = some s') : Moves toLower s a s' := by
  cases a with
  | register id now input =>
    obtain ⟨agents, hregister, rfl⟩ := Option.map_eq_some_iff.mp h
    have hregister := toOption_eq_some hregister
    simp only [register] at hregister
    split at hregister
    · cases hregister
    · split at hregister
      · cases hregister
      · rename_i hmax
        split at hregister
        · cases hregister
        · rename_i agents' hinsert
          cases hregister
          exact .register hinsert rfl rfl (Int.not_lt.mp fun hlt => hmax (.inl hlt))
  | heartbeat id now input =>
    obtain ⟨agents, hheartbeat, rfl⟩ := Option.map_eq_some_iff.mp h
    have hheartbeat := toOption_eq_some hheartbeat
    simp only [heartbeat] at hheartbeat
    split at hheartbeat
    · cases hheartbeat
    · split at hheartbeat
      · cases hheartbeat
      · rename_i hruns
        rw [not_or, Int.not_lt, Int.not_lt] at hruns
        split at hheartbeat
        · cases hheartbeat
          exact .heartbeat hruns.1 hruns.2
        · cases hheartbeat
  | setStatus id text now =>
    obtain ⟨agents, hset, rfl⟩ := Option.map_eq_some_iff.mp h
    have hset := toOption_eq_some hset
    unfold setStatus at hset
    split at hset
    · cases hset
    · split at hset
      · cases hset
        exact .setStatus
      · cases hset
  | claim id requirements now locked =>
    simp only [step] at h
    split at h
    · contradiction
    · rename_i agent agents hclaim
      obtain ⟨claims, hinsert, rfl⟩ := Option.map_eq_some_iff.mp h
      unfold claim at hclaim
      split at hclaim
      · contradiction
      · rename_i selected hselected
        cases hclaim
        obtain ⟨hmem, -, -, hfree⟩ := mem_of_selectAgent hselected
        exact .claim hmem hfree hinsert
  | release id now =>
    simp only [step] at h
    split at h
    · contradiction
    · rename_i claimed hclaimed
      obtain ⟨agents, hrelease, rfl⟩ := Option.map_eq_some_iff.mp h
      have hrelease := toOption_eq_some hrelease
      unfold release at hrelease
      split at hrelease
      · cases hrelease
        exact .release hclaimed
      · contradiction

/-! ## The count stays within capacity -/

/-- Every agent's count is between `0` and its maximum. -/
def CountsWithinCapacity (s : State) : Prop :=
  ∀ agent ∈ s.agents, 0 ≤ agent.activeRuns ∧ agent.activeRuns ≤ agent.maxConcurrency

theorem forall_mem_update {id : AgentId} {f : Agent → Agent}
    (hf : Table.KeepsKey Agent.id f) {P : Agent → Prop}
    (hother : ∀ agent ∈ agents, agent.id ≠ id → P agent)
    (hone : ∀ agent ∈ agents, agent.id = id → P (f agent)) :
    ∀ agent ∈ agents.update (fun agent => agent.id = id) f hf, P agent := by
  intro agent hagent
  obtain ⟨old, hold, rfl⟩ := Table.mem_update.mp hagent
  by_cases hid : old.id = id
  · rw [if_pos hid]
    exact hone old hold hid
  · rw [if_neg hid]
    exact hother old hold hid

/-- **The step.**  No call leaves a count outside its capacity. -/
theorem countsWithinCapacity_step (h : CountsWithinCapacity s)
    (hstep : step toLower s a = some s') : CountsWithinCapacity s' := by
  have hother : ∀ {id : AgentId}, ∀ agent ∈ s.agents, agent.id ≠ id →
      0 ≤ agent.activeRuns ∧ agent.activeRuns ≤ agent.maxConcurrency :=
    fun agent hagent _ => h agent hagent
  cases step_moves hstep with
  | register hinsert _ hruns hmax =>
    intro agent hagent
    rcases Table.mem_insert hinsert hagent with hold | rfl
    · exact h agent hold
    · omega
  | heartbeat hlow hhigh =>
    exact forall_mem_update (f := heartbeatAgent toLower _ _) ⟨fun _ => rfl⟩ hother
      fun agent _ _ => ⟨hlow, hhigh⟩
  | setStatus =>
    exact forall_mem_update (f := setAgentStatus _ _) ⟨fun _ => rfl⟩ hother
      fun agent hagent _ => h agent hagent
  | claim hagent hfree _ =>
    refine forall_mem_update (f := claimAgent _) ⟨fun _ => rfl⟩ hother fun agent hmem hid => ?_
    rw [Table.eq_of_key_eq hmem hagent hid]
    have hcount := (h _ hagent).1
    simp only [claimAgent]
    omega
  | release _ =>
    refine forall_mem_update (f := releaseAgent _) ⟨fun _ => rfl⟩ hother fun agent hagent _ => ?_
    have hcount := h agent hagent
    simp only [releaseAgent]
    omega

/-- **ActiveRuns stays between 0 and MaxConcurrency**, whatever is called in whatever order. -/
theorem activeRuns_within_capacity (h : Reachable (step toLower) initial s) :
    CountsWithinCapacity s :=
  h.invariant (fun _ _ _ hs hstep => countsWithinCapacity_step hs hstep)
    fun agent hagent => absurd hagent (Table.not_mem_empty agent)

/-! ## The claims stay within capacity -/

/-- Every agent counts at least the runs it is claimed for, and every claim is of an agent. -/
structure Accounted (s : State) : Prop where
  counted : ∀ agent ∈ s.agents, (claimedRuns agent.id s.claims : Int) ≤ agent.activeRuns
  known : ∀ claimed ∈ s.claims, ∃ agent ∈ s.agents, agent.id = claimed.agentId

/-- A heartbeat reports at least the runs that the agent is claimed for. -/
def ReportsClaims (s : State) : Action → Prop
  | .heartbeat id _ input => (claimedRuns id s.claims : Int) ≤ input.activeRuns
  | _ => True

instance (s : State) (a : Action) : Decidable (ReportsClaims s a) := by
  cases a <;> unfold ReportsClaims <;> infer_instance

theorem claimedRuns_insert {claims claims' : ClaimTable} {claimed : AgentClaim}
    (h : claims.insert claimed = some claims') (id : AgentId) :
    claimedRuns id claims' = claimedRuns id claims + if claimed.agentId = id then 1 else 0 :=
  Table.sum_insert h

theorem claimedRuns_delete {claims : ClaimTable} {claimed : AgentClaim} {k : ClaimId}
    (h : claims.get? k = some claimed) (id : AgentId) :
    claimedRuns id (claims.deleteWhere fun claimed => claimed.id = k) +
      (if claimed.agentId = id then 1 else 0) = claimedRuns id claims :=
  Table.sum_delete_key h

theorem claimedRuns_eq_zero {claims : ClaimTable} {id : AgentId}
    (h : ∀ claimed ∈ claims, claimed.agentId ≠ id) : claimedRuns id claims = 0 := by
  refine List.sum_eq_zero fun x hx => ?_
  obtain ⟨claimed, hmem, rfl⟩ := List.mem_map.mp hx
  exact if_neg (h claimed hmem)

theorem exists_mem_update {id id' : AgentId} {f : Agent → Agent}
    (hf : Table.KeepsKey Agent.id f) (h : ∃ agent ∈ agents, agent.id = id') :
    ∃ agent ∈ agents.update (fun agent => agent.id = id) f hf, agent.id = id' := by
  obtain ⟨agent, hmem, rfl⟩ := h
  refine ⟨_, Table.mem_update.mpr ⟨agent, hmem, rfl⟩, ?_⟩
  split
  · exact hf.key_eq agent
  · rfl

/-- **The step.**  The claims stay accounted for when a heartbeat reports them. -/
theorem accounted_step (h : Accounted s) (hstep : step toLower s a = some s')
    (hreports : ReportsClaims s a) : Accounted s' := by
  cases step_moves hstep with
  | @register id now input agents agent hinsert hid hruns hmax =>
    have hfresh := Table.get?_eq_none_iff.mp (Table.get?_of_insert_eq_none hinsert)
    constructor
    · intro other hother
      rcases Table.mem_insert hinsert hother with hold | rfl
      · exact h.counted other hold
      · have hnone : claimedRuns other.id s.claims = 0 :=
          claimedRuns_eq_zero fun claimed hclaimed heq => by
            obtain ⟨agent, hmem, hagent⟩ := h.known claimed hclaimed
            exact hfresh agent hmem (hagent.trans heq)
        simp only [hnone, hruns]
        omega
    · intro claimed hclaimed
      obtain ⟨old, hold, heq⟩ := h.known claimed hclaimed
      refine ⟨old, ?_, heq⟩
      rw [Table.mem_def, (Table.insert_eq_some_iff.mp hinsert).2]
      exact List.mem_append_left _ hold
  | heartbeat =>
    constructor
    · refine forall_mem_update (f := heartbeatAgent toLower _ _) ⟨fun _ => rfl⟩
        (fun agent hagent _ => h.counted agent hagent) fun agent _ hid => ?_
      rw [← hid] at hreports
      exact hreports
    · exact fun claimed hclaimed =>
        exists_mem_update (f := heartbeatAgent toLower _ _) ⟨fun _ => rfl⟩
          (h.known claimed hclaimed)
  | setStatus =>
    constructor
    · exact forall_mem_update (f := setAgentStatus _ _) ⟨fun _ => rfl⟩
        (fun agent hagent _ => h.counted agent hagent) fun agent hagent _ => h.counted agent hagent
    · exact fun claimed hclaimed =>
        exists_mem_update (f := setAgentStatus _ _) ⟨fun _ => rfl⟩ (h.known claimed hclaimed)
  | @claim id requirements now locked agent claims hagent hfree hinsert =>
    constructor
    · refine forall_mem_update (f := claimAgent now) ⟨fun _ => rfl⟩ ?_ ?_
      · intro other hother hne
        rw [claimedRuns_insert hinsert, if_neg fun heq => hne heq.symm]
        exact h.counted other hother
      · intro other hother heq
        have hcounted := h.counted other hother
        simp only [claimAgent, claimedRuns_insert hinsert, heq, if_true] at *
        omega
    · intro claimed hclaimed
      refine exists_mem_update (f := claimAgent now) ⟨fun _ => rfl⟩ ?_
      rcases Table.mem_insert hinsert hclaimed with hold | rfl
      · exact h.known claimed hold
      · exact ⟨agent, hagent, rfl⟩
  | @release id now claimed hclaimed =>
    constructor
    · refine forall_mem_update (f := releaseAgent now) ⟨fun _ => rfl⟩ ?_ ?_
      · intro other hother hne
        have hcounted := h.counted other hother
        rw [← claimedRuns_delete hclaimed, if_neg fun heq => hne heq.symm] at hcounted
        exact hcounted
      · intro other hother heq
        have hcounted := h.counted other hother
        rw [← claimedRuns_delete hclaimed, if_pos heq.symm] at hcounted
        simp only [releaseAgent]
        omega
    · exact fun other hother => exists_mem_update (f := releaseAgent now) ⟨fun _ => rfl⟩
        (h.known other (List.mem_of_mem_filter hother))

/-- No agent is claimed for more runs than its maximum, and its count is within `0` and that. -/
def WithinCapacity (s : State) : Prop :=
  ∀ agent ∈ s.agents, (claimedRuns agent.id s.claims : Int) ≤ agent.maxConcurrency ∧
    0 ≤ agent.activeRuns ∧ agent.activeRuns ≤ agent.maxConcurrency

theorem withinCapacity_of_accounted (hcounts : CountsWithinCapacity s) (h : Accounted s) :
    WithinCapacity s :=
  fun agent hagent =>
    ⟨Int.le_trans (h.counted agent hagent) (hcounts agent hagent).2, hcounts agent hagent⟩

/-- **Agent concurrency limit.**  In every state of a run whose heartbeats all report the claimed
runs, no agent is claimed for more runs than its maximum, and its count stays between `0` and
that. -/
theorem claims_within_capacity (actions : List Action)
    (hreports : Along (step toLower) (fun s a _ => ReportsClaims s a) initial actions) :
    Along (step toLower) (fun _ _ s' => WithinCapacity s') initial actions := by
  refine Along.of_guard (I := fun s => CountsWithinCapacity s ∧ Accounted s) ?_ ?_ hreports
  · rintro s a s' ⟨hcounts, haccounted⟩ hstep hguard
    have hcounts' := countsWithinCapacity_step hcounts hstep
    have haccounted' := accounted_step haccounted hstep hguard
    exact ⟨⟨hcounts', haccounted'⟩, withinCapacity_of_accounted hcounts' haccounted'⟩
  · have hnone : ∀ agent, agent ∉ initial.agents := Table.not_mem_empty
    have hfree : ∀ claimed, claimed ∉ initial.claims := Table.not_mem_empty
    exact ⟨fun agent hagent => absurd hagent (hnone agent),
      fun agent hagent => absurd hagent (hnone agent),
      fun claimed hclaimed => absurd hclaimed (hfree claimed)⟩

def smallAgent : RegisterInput := ⟨"agent", "", "1", [], [], 1⟩

def idleReport : HeartbeatInput := ⟨"1", [], [], 1, 0⟩

def busyReport : HeartbeatInput := ⟨"1", [], [], 1, 1⟩

def anyAgent : AgentRequirements := ⟨none, "", [], []⟩

theorem activeRuns_within_capacity_claimed : ∃ s, runActions (step id) initial
    [.register 1 0 smallAgent, .claim 1 anyAgent 10 []] = some s ∧ CountsWithinCapacity s := by
  obtain ⟨s, hrun⟩ : ∃ s, runActions (step id) initial
      [.register 1 0 smallAgent, .claim 1 anyAgent 10 []] = some s := ⟨_, rfl⟩
  exact ⟨s, hrun, activeRuns_within_capacity ⟨_, hrun⟩⟩

/-- A heartbeat that reports the claimed run keeps it the only one. -/
theorem claims_within_capacity_reported :
    Along (step id) (fun _ _ s' => WithinCapacity s') initial
      [.register 1 0 smallAgent, .claim 1 anyAgent 10 [], .heartbeat 1 20 busyReport,
        .claim 2 anyAgent 30 [], .release 1 40, .claim 2 anyAgent 50 []] :=
  claims_within_capacity _ (by decide +kernel)

/-- An agent with room for one run is claimed, reports no run, and is claimed again. -/
theorem claimed_beyond_capacity :
    ∃ s, runActions (step id) initial
        [.register 1 0 smallAgent, .claim 1 anyAgent 10 [], .heartbeat 1 20 idleReport,
          .claim 2 anyAgent 30 []] = some s ∧
      ∃ agent ∈ s.agents, agent.maxConcurrency = 1 ∧ claimedRuns agent.id s.claims = 2 := by
  refine ⟨_, rfl, ?_⟩
  decide +kernel

end Rhythm.Agents
