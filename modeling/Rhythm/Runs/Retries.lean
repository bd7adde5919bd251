import Rhythm.Network.Header
import Rhythm.Runs.Domain

/-!
# Rhythm.Runs.Retries

`doWithRetries`: a request is sent until an attempt has an answer that is final, at most six times.
What comes back, and which cookies the client's jar has, is a parameter, attempt by attempt.

The client adds the cookies of its jar to the request that it is given, and the first attempt is
given the request itself: `http.Request.WithContext` is a shallow copy.  The later attempts are
clones of that request, cookies included, and get those of the jar once more.

`retryLaw_iff` says when every attempt sends the same: when no retry finds a cookie in the jar.
-/

namespace Rhythm.Runs.Retries

open Network (Header)
open Network.Header (Cookie)

/-! ## Requests and answers -/

/-- `http.Request`, as far as it is sent: its body is what is left to read, and `getBody` makes a
new one. -/
structure Request where
  method : String
  header : Header
  body : String
  getBody : Option (Except String String)

/-- `http.NewRequest` with a body that is a text, and with its headers. -/
def newRequest (method : String) (header : Header) (body : String) : Request :=
  ⟨method, header, body, some (.ok body)⟩

/-- `retrySafe`. -/
def retrySafe (request : Request) : Bool :=
  request.method ∈ ["GET", "HEAD", "OPTIONS", "PUT", "DELETE"] ||
    Text.trimSpace (request.header.get "Idempotency-Key") ≠ ""

/-- What `client.Do` comes back with.  A failure may have a response, whose body is closed. -/
inductive Answer where
  | response (status : Nat)
  | failure (message : String) (status : Option Nat)
  deriving DecidableEq

def Answer.retryable : Answer → Bool
  | .response status => status ≥ 500 || status = 429
  | .failure _ _ => true

def Answer.status? : Answer → Option Nat
  | .response status => some status
  | .failure _ status => status

/-- `AttemptRun`. -/
structure AttemptRun where
  attemptNumber : Nat
  status : Status
  responseStatus : Nat
  failureCategory : String
  errorMessage : String
  deriving DecidableEq

/-- What an attempt has sent. -/
structure Sent where
  header : Header
  body : String
  deriving DecidableEq

/-- The client and what is behind it; attempts are numbered from 0. -/
structure Client where
  answer : Nat → Answer
  /-- The cookies that the jar has for the URL, if the client has a jar. -/
  cookies : Nat → List Cookie
  /-- The error of `waitRetry` before an attempt. -/
  wait : Nat → Option String
  networkFailureCategory : String → String

/-- The attempts so far.  `header` and `body` are those of the request itself. -/
structure State where
  header : Header
  body : String
  sent : List Sent
  attempts : List AttemptRun
  /-- The attempts whose responses were read and closed. -/
  discarded : List Nat

/-- The answer that is returned, or the error that there is none. -/
structure Result where
  answer : Except String Answer
  state : State

/-! ## The loop -/

def Client.record (c : Client) (attempt : Nat) : AttemptRun :=
  match c.answer attempt with
  | .failure message status =>
    ⟨attempt + 1, .failed, status.getD 0, c.networkFailureCategory message, Text.safeError message⟩
  | .response status =>
    if (c.answer attempt).retryable then
      ⟨attempt + 1, .failed, status, "RETRYABLE_HTTP_STATUS", ""⟩
    else ⟨attempt + 1, .success, status, "", ""⟩

/-- The request of an attempt is the request itself, or a clone with a new body. -/
def attemptRequest (request : Request) (attempt : Nat) : Option (Except String String) :=
  if attempt = 0 then none else request.getBody

/-- `client.Do` with the request itself: its headers are written and its body is read. -/
def Client.doOwn (c : Client) (attempt : Nat) (s : State) : State :=
  let header := s.header.addCookies (c.cookies attempt)
  { s with
    header := header
    body := ""
    sent := s.sent ++ [⟨header, s.body⟩]
    attempts := s.attempts ++ [c.record attempt] }

/-- `client.Do` with a clone. -/
def Client.doClone (c : Client) (attempt : Nat) (body : String) (s : State) : State :=
  { s with
    sent := s.sent ++ [⟨s.header.addCookies (c.cookies attempt), body⟩]
    attempts := s.attempts ++ [c.record attempt] }

def Client.send (c : Client) (request : Request) (attempt : Nat) (s : State) :
    Except String State :=
  match attemptRequest request attempt with
  | some (.error _) => .error "unable to replay request body"
  | body? =>
    match if attempt = 0 then none else c.wait attempt with
    | some error => .error error
    | none =>
      match body? with
      | some (.ok body) => .ok (c.doClone attempt body s)
      | _ => .ok (c.doOwn attempt s)

def Client.discard (c : Client) (attempt : Nat) (s : State) : State :=
  if (c.answer attempt).status?.isSome then { s with discarded := s.discarded ++ [attempt] } else s

/-- **The loop**, with what is left of the retries. -/
def attemptLoop (c : Client) (request : Request) : Nat → Nat → State → Result
  | remaining, attempt, s =>
    match c.send request attempt s with
    | .error error => ⟨.error error, s⟩
    | .ok s =>
      if (c.answer attempt).retryable = false then ⟨.ok (c.answer attempt), s⟩
      else
        match remaining with
        | 0 => ⟨.ok (c.answer attempt), s⟩
        | remaining + 1 => attemptLoop c request remaining (attempt + 1) (c.discard attempt s)

def clampRetries (retries : Int) : Nat := if retries > 5 then 5 else retries.toNat

/-- **`doWithRetries`.** -/
def doWithRetries (c : Client) (request : Request) (retries : Int) : Result :=
  let start : State := ⟨request.header, request.body, [], [], []⟩
  if clampRetries retries > 0 ∧ retrySafe request = false then
    ⟨.error "retries for non-idempotent requests require an Idempotency-Key header", start⟩
  else attemptLoop c request (clampRetries retries) 0 start

/-! ## What a run of the loop does -/

/-- The last attempt: the first whose answer is final, or the one after all retries. -/
def Client.lastAttempt (c : Client) (retries : Nat) : Nat :=
  ((List.range retries).find? fun i => !(c.answer i).retryable).getD retries

def Client.headerAt (c : Client) (header : Header) (attempt : Nat) : Header :=
  if attempt = 0 then header.addCookies (c.cookies 0)
  else (header.addCookies (c.cookies 0)).addCookies (c.cookies attempt)

/-- The attempts from 0 to `attempt` were made. -/
structure Client.Made (c : Client) (header : Header) (body : String) (attempt : Nat) (s : State) :
    Prop where
  header_eq : s.header = header.addCookies (c.cookies 0)
  sent_eq : s.sent = (List.range (attempt + 1)).map fun i => ⟨c.headerAt header i, body⟩
  attempts_eq : s.attempts = (List.range (attempt + 1)).map c.record
  discarded_lt : ∀ i ∈ s.discarded, i < attempt

variable {c : Client} {method body : String} {header : Header} {s s' : State}

theorem attemptNumber_record (c : Client) (attempt : Nat) :
    (c.record attempt).attemptNumber = attempt + 1 := by
  unfold Client.record
  split
  · rfl
  · split <;> rfl

theorem made_first (c : Client) (method : String) (header : Header) (body : String) :
    ∃ s, c.send (newRequest method header body) 0 ⟨header, body, [], [], []⟩ = .ok s ∧
      c.Made header body 0 s :=
  ⟨_, rfl, rfl, rfl, rfl, by simp [Client.doOwn]⟩

@[simp] theorem header_discard (attempt : Nat) : (c.discard attempt s).header = s.header := by
  unfold Client.discard
  split <;> rfl

@[simp] theorem sent_discard (attempt : Nat) : (c.discard attempt s).sent = s.sent := by
  unfold Client.discard
  split <;> rfl

@[simp] theorem attempts_discard (attempt : Nat) : (c.discard attempt s).attempts = s.attempts := by
  unfold Client.discard
  split <;> rfl

theorem mem_discard {i attempt : Nat} (hi : i ∈ (c.discard attempt s).discarded) :
    i ∈ s.discarded ∨ i = attempt := by
  unfold Client.discard at hi
  split at hi
  · simpa using hi
  · exact .inl hi

variable {attempt : Nat}

/-- **Another attempt.** -/
theorem made_next (method : String) (hwait : ∀ n, c.wait n = none)
    (hmade : c.Made header body attempt s) :
    ∃ s', c.send (newRequest method header body) (attempt + 1) (c.discard attempt s) = .ok s' ∧
      c.Made header body (attempt + 1) s' := by
  refine ⟨c.doClone (attempt + 1) body (c.discard attempt s), ?_, ?_, ?_, ?_, ?_⟩
  · simp [Client.send, attemptRequest, newRequest, hwait]
  · simpa [Client.doClone] using hmade.header_eq
  · rw [List.range_succ, List.map_append, ← hmade.sent_eq]
    simp [Client.doClone, Client.headerAt, hmade.header_eq]
  · rw [List.range_succ, List.map_append, ← hmade.attempts_eq]
    simp [Client.doClone]
  · intro i hi
    rcases mem_discard hi with hbefore | rfl
    · exact Nat.lt_succ_of_lt (hmade.discarded_lt i hbefore)
    · exact Nat.lt_succ_self i

theorem attemptLoop_ends (hwait : ∀ n, c.wait n = none) {last : Nat} (remaining : Nat) :
    ∀ {attempt : Nat} {s : State},
      c.send (newRequest method header body) attempt s = .ok s' →
      c.Made header body attempt s' → attempt ≤ last → last ≤ attempt + remaining →
      (∀ i < last, (c.answer i).retryable = true) →
      ((c.answer last).retryable = false ∨ last = attempt + remaining) →
      ∃ s', attemptLoop c (newRequest method header body) remaining attempt s =
        ⟨.ok (c.answer last), s'⟩ ∧ c.Made header body last s' := by
  induction remaining generalizing s' with
  | zero =>
    grind [attemptLoop]
  | succ remaining ih =>
    intro attempt s hsend hmade hfrom hto hbefore hlast
    rcases Nat.eq_or_lt_of_le hfrom with rfl | hlater
    · refine ⟨s', ?_, hmade⟩
      have hfinal : (c.answer attempt).retryable = false := hlast.resolve_right (by omega)
      unfold attemptLoop
      simp [hsend, hfinal]
    · obtain ⟨next, hnext, hmade'⟩ := made_next method hwait hmade
      obtain ⟨final, hfinal, hmade''⟩ :=
        ih hnext hmade' hlater (by omega) hbefore (hlast.imp_right (by omega))
      refine ⟨final, ?_, hmade''⟩
      unfold attemptLoop
      simpa [hsend, hbefore attempt hlater] using hfinal

theorem lastAttempt_le (c : Client) (retries : Nat) : c.lastAttempt retries ≤ retries := by
  unfold Client.lastAttempt
  cases hfind : (List.range retries).find? fun i => !(c.answer i).retryable with
  | none => exact le_rfl
  | some i => exact (List.mem_range.mp (List.mem_of_find?_eq_some hfind)).le

theorem retryable_of_lt_lastAttempt {i retries : Nat} (hi : i < c.lastAttempt retries) :
    (c.answer i).retryable = true := by
  have hrange := hi.trans_le (lastAttempt_le c retries)
  unfold Client.lastAttempt at hi
  cases hfind : (List.range retries).find? fun i => !(c.answer i).retryable with
  | none => simpa using List.find?_eq_none.mp hfind i (List.mem_range.mpr hrange)
  | some last =>
    rw [hfind, Option.getD_some] at hi
    rw [List.find?_range_eq_some] at hfind
    simpa using hfind.2.2 i hi

theorem final_lastAttempt (c : Client) (retries : Nat) :
    (c.answer (c.lastAttempt retries)).retryable = false ∨ c.lastAttempt retries = retries := by
  unfold Client.lastAttempt
  cases hfind : (List.range retries).find? fun i => !(c.answer i).retryable with
  | none => exact .inr rfl
  | some last => exact .inl (by simpa using List.find?_some hfind)

/-! ## The law of retries -/

/-- **The law of retries**: the attempts are numbered up to the first final answer, which is
returned and not read; what is not safe to repeat is sent once; all attempts send the same. -/
structure RetryLaw (c : Client) (request : Request) (retries : Int) : Prop where
  numbered : retrySafe request = true ∨ clampRetries retries = 0 →
    ((doWithRetries c request retries).state.attempts.map fun run => run.attemptNumber) =
      List.range' 1 (c.lastAttempt (clampRetries retries) + 1) ∧
    (doWithRetries c request retries).state.sent.length =
      c.lastAttempt (clampRetries retries) + 1
  returned : retrySafe request = true ∨ clampRetries retries = 0 →
    (doWithRetries c request retries).answer =
      .ok (c.answer (c.lastAttempt (clampRetries retries))) ∧
    c.lastAttempt (clampRetries retries) ∉ (doWithRetries c request retries).state.discarded
  once : retrySafe request = false → (doWithRetries c request retries).state.sent.length ≤ 1
  same_body : ∀ sent ∈ (doWithRetries c request retries).state.sent, sent.body = request.body
  same_header : ∀ sent ∈ (doWithRetries c request retries).state.sent,
    ∀ sent' ∈ (doWithRetries c request retries).state.sent, sent.header = sent'.header

theorem doWithRetries_refused {request : Request} {retries : Int}
    (hrefused : clampRetries retries > 0 ∧ retrySafe request = false) :
    (doWithRetries c request retries).state.sent = [] := by
  unfold doWithRetries
  rw [if_pos hrefused]

theorem doWithRetries_made (method : String) (hwait : ∀ n, c.wait n = none) {retries : Int}
    (hallowed : ¬(clampRetries retries > 0 ∧ retrySafe (newRequest method header body) = false)) :
    ∃ s, doWithRetries c (newRequest method header body) retries =
        ⟨.ok (c.answer (c.lastAttempt (clampRetries retries))), s⟩ ∧
      c.Made header body (c.lastAttempt (clampRetries retries)) s := by
  obtain ⟨first, hfirst, hmade⟩ := made_first c method header body
  unfold doWithRetries
  rw [if_neg hallowed]
  refine attemptLoop_ends hwait _ hfirst hmade (Nat.zero_le _) ?_ ?_ ?_
  · rw [Nat.zero_add]
    exact lastAttempt_le c _
  · exact fun i hi => retryable_of_lt_lastAttempt hi
  · rw [Nat.zero_add]
    exact final_lastAttempt c _

theorem headerAt_eq_first_iff (attempt : Nat) :
    c.headerAt header attempt = c.headerAt header 0 ↔ attempt = 0 ∨ c.cookies attempt = [] := by
  unfold Client.headerAt
  by_cases hzero : attempt = 0
  · simp [hzero]
  · simp [hzero, Header.addCookies_eq_self_iff]

theorem Client.Made.same_header_iff (hmade : c.Made header body attempt s) :
    (∀ sent ∈ s.sent, ∀ sent' ∈ s.sent, sent.header = sent'.header) ↔
      ∀ i, 0 < i → i ≤ attempt → c.cookies i = [] := by
  have hmem : ∀ i ≤ attempt, (⟨c.headerAt header i, body⟩ : Sent) ∈ s.sent := by
    intro i hi
    rw [hmade.sent_eq]
    exact List.mem_map.mpr ⟨i, List.mem_range.mpr (Nat.lt_succ_of_le hi), rfl⟩
  constructor
  · grind [headerAt_eq_first_iff]
  · intro hnone
    have hfirst : ∀ sent ∈ s.sent, sent.header = c.headerAt header 0 := by
      intro sent hsent
      rw [hmade.sent_eq] at hsent
      obtain ⟨i, hi, rfl⟩ := List.mem_map.mp hsent
      refine (headerAt_eq_first_iff i).mpr ?_
      rcases Nat.eq_zero_or_pos i with rfl | hpos
      · exact .inl rfl
      · exact .inr (hnone i hpos (Nat.le_of_lt_succ (List.mem_range.mp hi)))
    intro sent hsent sent' hsent'
    rw [hfirst sent hsent, hfirst sent' hsent']

theorem Client.Made.numbers (hmade : c.Made header body attempt s) :
    (s.attempts.map fun run => run.attemptNumber) = List.range' 1 (attempt + 1) := by
  rw [hmade.attempts_eq, List.map_map, List.range'_eq_map_range]
  refine List.map_congr_left fun i _ => ?_
  rw [Function.comp_apply, attemptNumber_record, Nat.add_comm]

/-- **The law holds exactly when no retry finds a cookie in the jar**, or nothing is sent. -/
theorem retryLaw_iff (c : Client) (method : String) (header : Header) (body : String)
    (retries : Int) (hwait : ∀ n, c.wait n = none) :
    RetryLaw c (newRequest method header body) retries ↔
      (clampRetries retries > 0 ∧ retrySafe (newRequest method header body) = false) ∨
        ∀ i, 0 < i → i ≤ c.lastAttempt (clampRetries retries) → c.cookies i = [] := by
  by_cases hrefused :
    clampRetries retries > 0 ∧ retrySafe (newRequest method header body) = false
  · have hsent := doWithRetries_refused (c := c) hrefused
    refine iff_of_true ⟨?_, ?_, ?_, ?_, ?_⟩ (.inl hrefused)
    · exact fun hallowed => absurd hrefused (by rcases hallowed with h | h <;> simp [h])
    · exact fun hallowed => absurd hrefused (by rcases hallowed with h | h <;> simp [h])
    all_goals simp [hsent]
  · obtain ⟨s, hresult, hmade⟩ := doWithRetries_made method hwait hrefused
    have hlength : s.sent.length = c.lastAttempt (clampRetries retries) + 1 := by
      simp [hmade.sent_eq]
    rw [or_iff_right hrefused, ← hmade.same_header_iff]
    constructor
    · intro hlaw
      simpa only [hresult] using hlaw.same_header
    · intro hsame
      refine ⟨?_, ?_, ?_, ?_, ?_⟩ <;> simp only [hresult]
      · exact fun _ => ⟨hmade.numbers, hlength⟩
      · exact fun _ => ⟨trivial, fun hmem => Nat.lt_irrefl _ (hmade.discarded_lt _ hmem)⟩
      · intro hunsafe
        have hzero : clampRetries retries = 0 := by
          by_contra hsome
          exact hrefused ⟨Nat.pos_of_ne_zero hsome, hunsafe⟩
        have hlast := lastAttempt_le c (clampRetries retries)
        omega
      · intro sent hsent
        rw [hmade.sent_eq] at hsent
        obtain ⟨i, _, rfl⟩ := List.mem_map.mp hsent
        rfl
      · exact hsame

def downOnce (cookies : List Cookie) : Client where
  answer attempt := .response (if attempt = 0 then 503 else 200)
  cookies _ := cookies
  wait _ := none
  networkFailureCategory _ := "NETWORK_ERROR"

/-- Without cookies the law holds. -/
theorem retryLaw_iff_downOnce : RetryLaw (downOnce []) (newRequest "GET" ⟨[]⟩ "") 2 :=
  (retryLaw_iff (downOnce []) "GET" ⟨[]⟩ "" 2 fun _ => rfl).mpr (.inr fun _ _ _ => rfl)

/-- **The retry sends the cookie of the jar twice.** -/
theorem cookie_sent_twice :
    (∀ n, (downOnce [⟨"session", "x"⟩]).wait n = none) ∧
      retrySafe (newRequest "GET" ⟨[]⟩ "") = true ∧
      ((doWithRetries (downOnce [⟨"session", "x"⟩]) (newRequest "GET" ⟨[]⟩ "") 1).state.sent.map
          fun sent => sent.header.get "Cookie") = ["session=x", "session=x; session=x"] ∧
      ¬RetryLaw (downOnce [⟨"session", "x"⟩]) (newRequest "GET" ⟨[]⟩ "") 1 := by
  have hsent : ((doWithRetries (downOnce [⟨"session", "x"⟩])
      (newRequest "GET" ⟨[]⟩ "") 1).state.sent.map fun sent => sent.header.get "Cookie") =
        ["session=x", "session=x; session=x"] := by decide
  refine ⟨fun _ => rfl, by decide, hsent, fun hlaw => ?_⟩
  obtain ⟨first, rest, hfirst, hget, hrest⟩ := List.map_eq_cons_iff.mp hsent
  obtain ⟨second, _, rfl, hget', _⟩ := List.map_eq_cons_iff.mp hrest
  have hsame := hlaw.same_header first (by simp [hfirst]) second (by simp [hfirst])
  rw [hsame] at hget
  exact absurd (hget'.symm.trans hget) (by decide)

end Rhythm.Runs.Retries
