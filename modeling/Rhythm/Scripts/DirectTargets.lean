import Rhythm.Scripts.Requests

/-!
# Rhythm.Scripts.DirectTargets

Does every direct connection of a run go to a permitted address?  The executor dials an
address that it has checked.  `pm.sendRequest` checks less: its policy knows no
multicast beyond the local link, and under an inherited HTTP or HTTPS proxy the hosts
that bypass the proxy are dialled without a check.
-/

namespace Rhythm.Scripts

open Text Network Runs

/-! ## Requests of a run -/

/-- The requests of a run.  An OAuth token request of a step's authentication uses the client of
the step; a token action has its own.  Only a pre-request script inherits a transport. -/
inductive Request where
  | step (config : RequestConfig) (hops : List Hop)
  | tokenAction (hops : List Hop)
  | preRequestScript (config : RequestConfig) (hops : List Hop)
  | otherScript (hops : List Hop)

def policyOf (e : HTTPExecutor) : AuxiliaryNetworkPolicy := ⟨e.allowPrivate, e.allowList⟩

/-- The direct connections that a request may open, by host and address. -/
def Request.opened (e : HTTPExecutor) (environment : String → Bool) :
    Request → List (String × IP)
  | .step config hops => e.opened environment config hops
  | .tokenAction hops => e.opened environment .tokenAction hops
  | .preRequestScript config hops =>
    match scriptTransport config.proxy with
    | .error _ => []
    | .ok inherited => Scripts.opened (policyOf e) environment (some inherited) hops
  | .otherScript hops => Scripts.opened (policyOf e) environment none hops

/-! ## Permitted addresses -/

/-- Loopback, private, unspecified, multicast and link-local addresses. -/
def Reserved (ip : IP) : Prop :=
  ip.isLoopback = true ∨ ip.isPrivate = true ∨ ip.isUnspecified = true ∨ ip.isMulticast = true ∨
    ip.isLinkLocalUnicast = true ∨ ip.isLinkLocalMulticast = true

/-- The address is not reserved, or it or its host is allow-listed. -/
def Permitted (list : AllowList) (host : String) (ip : IP) : Prop :=
  Reserved ip → list.lists host ip = true

/-- What `pm.sendRequest` leaves unchecked at a hop: every address of the answer, where the
transport keeps its own dialer, and else whether the address it dials is multicast. -/
def HopPermitted (policy : AuxiliaryNetworkPolicy) (inherited : Option TransportConfig)
    (hop : Hop) : Prop :=
  if keepsDialer inherited then
    ∀ ip ∈ hop.dialled.getD [], Permitted policy.allowList hop.target.host ip
  else
    ∀ ip, policy.dialContext hop.target.host hop.dialled = some ip → ip.isMulticast = true →
      policy.allowList.lists hop.target.host ip = true

/-- Every hop of a `pm.sendRequest` that is dialled directly is permitted. -/
def HopsPermitted (policy : AuxiliaryNetworkPolicy) (environment : String → Bool)
    (inherited : Option TransportConfig) (hops : List Hop) : Prop :=
  ∀ proxied, auxiliaryTransport environment inherited = .ok proxied →
    ∀ hop ∈ reached (fun hop => (policy.validate hop.target hop.checked).isOk) proxied
        (dialled policy inherited) (hops.take 5),
      proxied hop.target.host = false → HopPermitted policy inherited hop

/-- The requests that go to permitted addresses: those of the executor, and those of a script whose
direct hops are permitted. -/
def Request.Checked (e : HTTPExecutor) (environment : String → Bool) : Request → Prop
  | .step _ _ | .tokenAction _ => True
  | .preRequestScript config hops =>
    ∀ inherited, scriptTransport config.proxy = .ok inherited →
      HopsPermitted (policyOf e) environment (some inherited) hops
  | .otherScript hops => HopsPermitted (policyOf e) environment none hops

/-! ## Connections -/

variable {valid : Hop → Bool} {proxied : String → Bool} {dial : Hop → List IP} {hops : List Hop}
  {list : AllowList} {environment : String → Bool}

theorem forall_opened_iff :
    (∀ connection ∈ Runs.opened valid proxied dial hops,
        Permitted list connection.1 connection.2) ↔
      ∀ hop ∈ reached valid proxied dial hops, proxied hop.target.host = false →
        ∀ ip ∈ dial hop, Permitted list hop.target.host ip := by
  simp only [Runs.opened, List.mem_flatMap]
  constructor
  · intro h hop hhop hdirect ip hip
    refine h (hop.target.host, ip) ⟨hop, hhop, ?_⟩
    rw [hdirect, if_neg Bool.false_ne_true]
    exact List.mem_map.mpr ⟨ip, hip, rfl⟩
  · rintro h connection ⟨hop, hhop, hconnection⟩
    split at hconnection
    · cases hconnection
    · rename_i hdirect
      obtain ⟨ip, hip, rfl⟩ := List.mem_map.mp hconnection
      exact h hop hhop (Bool.eq_false_iff.mpr hdirect) ip hip

theorem permitted_of_safeDialContext {host : String} {answer : Answer} {ip : IP}
    (h : (HTTPExecutor.mk false list).safeDialContext host answer = some ip) :
    Permitted list host ip := by
  have hdialled := List.find?_some h
  intro hreserved
  have hforbidden : forbiddenIP ip = true := by
    simp only [forbiddenIP, Bool.or_eq_true]
    unfold Reserved at hreserved
    tauto
  simpa [hforbidden, HTTPExecutor.privateTargetAllowed] using hdialled

theorem permitted_of_opened {config : RequestConfig} :
    ∀ connection ∈ (HTTPExecutor.mk false list).opened environment config hops,
      Permitted list connection.1 connection.2 := by
  unfold HTTPExecutor.opened
  split
  · simp
  · rw [forall_opened_iff]
    intro hop _ _ ip hip
    exact permitted_of_safeDialContext (Option.mem_toList.mp hip)

theorem permitted_iff_of_allowed {host : String} {ip : IP}
    (h : (AuxiliaryNetworkPolicy.mk false list).allowed host ip = true) :
    Permitted list host ip ↔ (ip.isMulticast = true → list.lists host ip = true) := by
  constructor
  · intro hpermitted hmulticast
    exact hpermitted (.inr (.inr (.inr (.inl hmulticast))))
  · intro hmulticast hreserved
    simp only [AuxiliaryNetworkPolicy.allowed, privateIP, Bool.false_or, Bool.or_eq_true,
      Bool.not_eq_true', Bool.or_eq_false_iff] at h
    obtain ⟨⟨⟨⟨hprivate, hloopback⟩, hlinkLocal⟩, -⟩, hunspecified⟩ | hlisted := h
    · unfold Reserved at hreserved
      have hlinkLocalMulticast := @IP.isMulticast_of_isLinkLocalMulticast ip
      rw [hprivate, hloopback, hlinkLocal, hunspecified] at hreserved
      simp only [Bool.false_eq_true, false_or] at hreserved
      exact hmulticast (hreserved.elim id hlinkLocalMulticast)
    · exact hlisted

variable {inherited : Option TransportConfig}

theorem hopPermitted_iff {hop : Hop} :
    (∀ ip ∈ dialled ⟨false, list⟩ inherited hop, Permitted list hop.target.host ip) ↔
      HopPermitted ⟨false, list⟩ inherited hop := by
  unfold dialled HopPermitted
  split
  · exact Iff.rfl
  · simp only [Option.mem_toList]
    refine forall_congr' fun ip => forall_congr' fun hip => ?_
    exact permitted_iff_of_allowed (List.find?_some hip)

theorem permitted_iff_hopsPermitted :
    (∀ connection ∈ Scripts.opened ⟨false, list⟩ environment inherited hops,
        Permitted list connection.1 connection.2) ↔
      HopsPermitted ⟨false, list⟩ environment inherited hops := by
  unfold Scripts.opened HopsPermitted
  cases hroute : auxiliaryTransport environment inherited with
  | error message => simp
  | ok proxied =>
    simp only [Except.ok.injEq, forall_eq']
    rw [forall_opened_iff]
    refine forall_congr' fun hop => forall_congr' fun _ => forall_congr' fun _ => ?_
    exact hopPermitted_iff

/-- **Direct targets.**  For every allow-list, proxy of the environment and request of a run, with
any redirects and any answers of the lookups: the direct connections of the request go to permitted
addresses exactly when it is a request of the executor, or a `pm.sendRequest` whose direct hops
are permitted. -/
theorem permitted_iff_checked (list : AllowList) (environment : String → Bool)
    (request : Request) :
    (∀ connection ∈ request.opened ⟨false, list⟩ environment,
        Permitted list connection.1 connection.2) ↔
      request.Checked ⟨false, list⟩ environment := by
  cases request with
  | step config hops =>
    simp only [Request.opened, Request.Checked]
    exact iff_of_true permitted_of_opened trivial
  | tokenAction hops =>
    simp only [Request.opened, Request.Checked]
    exact iff_of_true permitted_of_opened trivial
  | preRequestScript config hops =>
    simp only [Request.opened, Request.Checked]
    cases hinherited : scriptTransport config.proxy with
    | error message => simp
    | ok inherited =>
      simp only [Except.ok.injEq, forall_eq']
      exact permitted_iff_hopsPermitted
  | otherScript hops =>
    simp only [Request.opened, Request.Checked]
    exact permitted_iff_hopsPermitted

/-! ## A name that is bound again -/

/-- A name that is looked up at a public address first and at the loopback address then. -/
def reboundHop : Hop where
  target := ⟨"http", "rebound.example", false⟩
  checked := some [.v4 93 184 216 34]
  dialled := some [.v4 127 0 0 1]

def bypassedProxy : RequestConfig where
  settings := ⟨true, 5⟩
  proxy := ⟨"http", ⟨"http", "proxy.example:3128", "rebound.example"⟩, none⟩

/-- Under a proxy that the host bypasses, a pre-request script connects to the loopback address. -/
theorem rebound_script_reaches_loopback :
    ¬ ∀ (list : AllowList) (environment : String → Bool) (request : Request),
      ∀ connection ∈ request.opened ⟨false, list⟩ environment,
        Permitted list connection.1 connection.2 := by
  intro h
  have hpermitted := h ⟨[], []⟩ (fun _ => false) (.preRequestScript bypassedProxy [reboundHop])
    ("rebound.example", .v4 127 0 0 1) (by decide +kernel)
  exact absurd (hpermitted (.inl (by decide))) (by decide)

end Rhythm.Scripts
