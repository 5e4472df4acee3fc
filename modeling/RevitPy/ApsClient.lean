import Mathlib.Algebra.Group.Int.Defs
import RevitPy.Json
import RevitPy.Retry

/-!
# Requests to the platform services

A request takes a token, which is issued anew a minute before it expires, and is then
sent at most three times. The services answer each attempt, or the transport fails.
Every call of the services is a function of the world, and times are microseconds.
-/

namespace RevitPy.Aps

/-- OAuth2 access token issued by the authentication service. -/
structure ApsToken where
  access_token : String
  token_type : String := "Bearer"
  expires_in : Int := 3600
  scope : String := ""
  issued_at : Int
  deriving DecidableEq

/-- Check whether the token has expired (with 60s buffer). -/
def ApsToken.is_expired (token : ApsToken) (now : Int) : Bool := token.issued_at + (token.expires_in - 60) * 1000000 ≤ now

/-- An exception of the transport, which the errors name as their cause. -/
inductive HttpError
  | HTTPStatusError (status_code : Nat)
  | HTTPError (message : String)
  deriving DecidableEq

structure ApsApiError where
  message : String
  endpoint : String
  status_code : Option Nat := none
  response_body : Option String := none
  cause : Option HttpError := none
  deriving DecidableEq

/-- What a request raises: its own errors, and what is not caught on the way. -/
inductive RequestError
  | ApsApiError (error : ApsApiError)
  | AuthenticationError (message cause : String)
  | other (message : String)
  deriving DecidableEq

/-- A response, with its body where that is JSON. -/
structure HttpResponse where
  status_code : Nat
  text : String
  json : Except String Json

/-- How an attempt to send a request ends: the transport fails by an `HTTPError`, or
    something else is raised. -/
inductive HttpReply
  | response (response : HttpResponse)
  | HTTPError (message : String)
  | raised (message : String)

/-- How a request for a token ends. Its body has the members that the client reads. -/
inductive TokenReply
  | body (access_token token_type : Option String) (expires_in : Option Int) (scope : Option String)
  | HTTPStatusError (status_code : Nat) (message : String)
  | HTTPError (message : String)
  | raised (message : String)

/-- The calls that a client makes of the world. -/
structure World (σ : Type) where
  authenticate : σ → TokenReply × σ
  send : String → String → String → σ → HttpReply × σ
  time : σ → Int × σ
  monotonic : σ → Int × σ
  sleep : Int → σ → σ

/-- The client and its authenticator. -/
structure ApsClient where
  token : Option ApsToken := none
  request_times : List Int := []

variable {σ : Type}

/-! ## The token -/

/-- Perform a fresh OAuth2 client-credentials authentication. -/
def authenticate (w : World σ) (c : ApsClient) (s : σ) : Except RequestError ApsToken × ApsClient × σ :=
  let (reply, s) := w.authenticate s
  match reply with
  | .HTTPStatusError status_code message =>
    (.error (.AuthenticationError s!"APS authentication failed with status {status_code}" message), c, s)
  | .HTTPError message => (.error (.AuthenticationError s!"APS authentication request failed: {message}" message), c, s)
  | .raised message => (.error (.other message), c, s)
  | .body none _ _ _ => (.error (.other "'access_token'"), c, s)
  | .body (some access_token) token_type expires_in scope =>
    let (issued_at, s) := w.time s
    let token : ApsToken :=
      { access_token := access_token
        token_type := token_type.getD "Bearer"
        expires_in := expires_in.getD 3600
        scope := scope.getD ""
        issued_at := issued_at }
    (.ok token, { c with token := some token }, s)

/-- Return a cached token, refreshing it if expired. -/
def get_token (w : World σ) (c : ApsClient) (s : σ) : Except RequestError ApsToken × ApsClient × σ :=
  match c.token with
  | none => authenticate w c s
  | some token =>
    let (now, s) := w.time s
    if token.is_expired now then authenticate w c s else (.ok token, c, s)

/-! ## Attempts -/

def MAX_REQUESTS_PER_SECOND : Nat := 20
def RETRYABLE_STATUS_CODES : List Nat := [429, 500, 502, 503]
def MAX_RETRIES : Nat := 3
def INITIAL_BACKOFF : Int := 1000000

/-- Sleep until the first of a full window is a second ago. -/
def wait_for_window (w : World σ) (request_times : List Int) (now : Int) (s : σ) : σ :=
  match request_times with
  | [] => s
  | first :: _ =>
    let sleep_time := 1000000 - (now - first)
    if MAX_REQUESTS_PER_SECOND ≤ request_times.length ∧ 0 < sleep_time then w.sleep sleep_time s else s

/-- Sliding-window rate limiter: max 20 requests per second. -/
def enforce_rate_limit (w : World σ) (c : ApsClient) (s : σ) : ApsClient × σ :=
  let (now, s) := w.monotonic s
  let request_times := c.request_times.dropWhile fun t => 1000000 < now - t
  let s := wait_for_window w request_times now s
  let (after, s) := w.monotonic s
  ({ c with request_times := request_times ++ [after] }, s)

def HttpResponse.is_success (r : HttpResponse) : Bool := 200 ≤ r.status_code && r.status_code < 300

/-- What an attempt makes of its reply: the request ends, or goes on after a pause, with
    the exception of the transport as the last one. -/
inductive Verdict
  | ends (result : Except RequestError Json)
  | retries (backoff : Option Int) (last_exc : Option String)

/-- The reply of an attempt, by its number. -/
def verdict (method endpoint : String) (attempt : Nat) : HttpReply → Verdict
  | .response r =>
    if r.status_code ∈ RETRYABLE_STATUS_CODES then .retries (some (INITIAL_BACKOFF * 2 ^ attempt)) none
    else if !r.is_success then
      .ends (.error (.ApsApiError
        { message := s!"APS API error: {r.status_code} on {method} {endpoint}"
          endpoint := endpoint
          status_code := some r.status_code
          response_body := some r.text
          cause := some (.HTTPStatusError r.status_code) }))
    else if r.status_code = 204 then .ends (.ok (.obj []))
    else match r.json with
      | .ok body => .ends (.ok body)
      | .error message => .ends (.error (.other message))
  | .HTTPError message =>
    .retries (if attempt < MAX_RETRIES - 1 then some (INITIAL_BACKOFF * 2 ^ attempt) else none) (some message)
  | .raised message => .ends (.error (.other message))

/-- One attempt. -/
def attempt_send (w : World σ) (method endpoint authorization : String) (attempt : Nat) (state : Option String × ApsClient × σ) :
    Option (Except RequestError Json) × Option String × ApsClient × σ :=
  let (last_exc, c, s) := state
  let (c, s) := enforce_rate_limit w c s
  let (reply, s) := w.send method endpoint authorization s
  match verdict method endpoint attempt reply with
  | .ends result => (some result, last_exc, c, s)
  | .retries backoff failure =>
    (none, failure.or last_exc, c, match backoff with
      | some backoff => w.sleep backoff s
      | none => s)

/-- What is raised once all attempts have failed. -/
def exhausted (method endpoint : String) (last_exc : Option String) : RequestError :=
  .ApsApiError
    { message := s!"APS request failed after {MAX_RETRIES} retries: {method} {endpoint}"
      endpoint := endpoint
      cause := last_exc.map .HTTPError }

/-- Make an authenticated HTTP request with retry and rate limiting. -/
def request (w : World σ) (method endpoint : String) (c : ApsClient) (s : σ) : Except RequestError Json × ApsClient × σ :=
  match get_token w c s with
  | (.error e, c, s) => (.error e, c, s)
  | (.ok token, c, s) =>
    match Retry.run (attempt_send w method endpoint (token.token_type ++ " " ++ token.access_token)) 0 MAX_RETRIES (none, c, s) with
    | (some result, _, c, s) => (result, c, s)
    | (none, last_exc, c, s) => (.error (exhausted method endpoint last_exc), c, s)

def get (w : World σ) (endpoint : String) := request w "GET" endpoint
def post (w : World σ) (endpoint : String) := request w "POST" endpoint
def delete (w : World σ) (endpoint : String) := request w "DELETE" endpoint

/-! ## What is observed -/

inductive Note
  | authenticated (reply : TokenReply)
  | sent (method endpoint authorization : String) (reply : HttpReply)
  | slept (microseconds : Int)

/-- The same world, with the calls that change something noted. -/
def World.observed (w : World σ) : World (σ × List Note) where
  authenticate s := let (reply, t) := w.authenticate s.1; (reply, t, s.2 ++ [.authenticated reply])
  send method endpoint authorization s :=
    let (reply, t) := w.send method endpoint authorization s.1
    (reply, t, s.2 ++ [.sent method endpoint authorization reply])
  time s := let (now, t) := w.time s.1; (now, t, s.2)
  monotonic s := let (now, t) := w.monotonic s.1; (now, t, s.2)
  sleep microseconds s := (w.sleep microseconds s.1, s.2 ++ [.slept microseconds])

/-- What follows an attempt: a pause that doubles each time, or none. -/
def pause (method endpoint : String) (attempt : Nat) (reply : HttpReply) : List Note :=
  match verdict method endpoint attempt reply with
  | .retries (some backoff) _ => [.slept backoff]
  | _ => []

/-- The notes of a limiter that may have waited for its window. -/
def Waited (notes : List Note) : Prop := notes = [] ∨ ∃ microseconds, 0 < microseconds ∧ notes = [.slept microseconds]

/-- The notes of attempts that were answered by the replies, in order. -/
inductive Attempts (method endpoint authorization : String) : List Note → List HttpReply → Prop
  | none : Attempts method endpoint authorization [] []
  | more {notes : List Note} {replies : List HttpReply} (before : Attempts method endpoint authorization notes replies)
      {limited : List Note} (waited : Waited limited) (reply : HttpReply) :
      Attempts method endpoint authorization
        (notes ++ (limited ++ .sent method endpoint authorization reply :: pause method endpoint replies.length reply))
        (replies ++ [reply])

/-- An attempt after which the request goes on. -/
def HttpReply.Transient : HttpReply → Prop
  | .response r => r.status_code ∈ RETRYABLE_STATUS_CODES
  | .HTTPError _ => True
  | .raised _ => False

instance (reply : HttpReply) : Decidable reply.Transient := match reply with
  | .response r => inferInstanceAs (Decidable (r.status_code ∈ RETRYABLE_STATUS_CODES))
  | .HTTPError _ => .isTrue trivial
  | .raised _ => .isFalse id

def HttpReply.transport_error : HttpReply → Option String
  | .HTTPError message => some message
  | _ => none

/-- What the replies of a request make of it: the last one ends it, or they all failed and
    the last transport error is the cause. -/
def conclusion (method endpoint : String) (replies : List HttpReply) : Except RequestError Json :=
  match replies.getLast?.map (verdict method endpoint (replies.length - 1)) with
  | some (.ends result) => result
  | _ => .error (exhausted method endpoint (replies.reverse.findSome? HttpReply.transport_error))

/-- A token that was issued for the request, or was held and does not expire within a minute. -/
def Usable (w : World σ) (c : ApsClient) (s : σ) (token : ApsToken) (notes : List Note) : Prop :=
  (notes = [] ∧ c.token = some token ∧ token.is_expired (w.time s).1 = false) ∨
    ∃ access_token token_type expires_in scope, notes = [.authenticated (.body (some access_token) token_type expires_in scope)] ∧
      token.access_token = access_token ∧ token.token_type = token_type.getD "Bearer"

/-! ## Requests conclude -/

variable {w : World σ} {c : ApsClient} {s : σ × List Note} {method endpoint authorization : String}

theorem verdict_ends {attempt : Nat} {reply : HttpReply} {result : Except RequestError Json}
    (ends : verdict method endpoint attempt reply = .ends result) : ¬reply.Transient := by
  cases reply with
  | response r =>
    intro transient
    have retryable : r.status_code ∈ RETRYABLE_STATUS_CODES := transient
    rw [verdict, if_pos retryable] at ends
    cases ends
  | HTTPError message => cases ends
  | raised message => exact id

theorem verdict_retries {attempt : Nat} {reply : HttpReply} {backoff : Option Int} {failure : Option String}
    (retries : verdict method endpoint attempt reply = .retries backoff failure) :
    reply.Transient ∧ failure = reply.transport_error := by
  cases reply with
  | response r =>
    by_cases retryable : r.status_code ∈ RETRYABLE_STATUS_CODES
    · rw [verdict, if_pos retryable] at retries
      injection retries with _ none
      exact ⟨retryable, none.symm⟩
    · rw [verdict, if_neg retryable] at retries
      split at retries
      · cases retries
      · split at retries
        · cases retries
        · split at retries <;> cases retries
  | HTTPError message =>
    injection retries with _ known
    exact ⟨trivial, known.symm⟩
  | raised message => cases retries

/-- The limiter waits at most once. -/
theorem wait_for_window_notes (w : World σ) (request_times : List Int) (now : Int) (s : σ × List Note) :
    ∃ limited, (wait_for_window w.observed request_times now s).2 = s.2 ++ limited ∧ Waited limited := by
  unfold wait_for_window
  split
  · exact ⟨[], (List.append_nil _).symm, .inl rfl⟩
  · simp only
    split
    · next full => exact ⟨[.slept _], rfl, .inr ⟨_, full.2, rfl⟩⟩
    · exact ⟨[], (List.append_nil _).symm, .inl rfl⟩

theorem enforce_rate_limit_notes (w : World σ) (c : ApsClient) (s : σ × List Note) :
    ∃ limited, (enforce_rate_limit w.observed c s).2.2 = s.2 ++ limited ∧ Waited limited :=
  wait_for_window_notes w (c.request_times.dropWhile fun t => 1000000 < (w.monotonic s.1).1 - t) (w.monotonic s.1).1
    ((w.monotonic s.1).2, s.2)

/-- The attempts so far: all were answered by something transient. -/
structure Pending (method endpoint authorization : String) (before : List Note) (k : Nat)
    (state : Option String × ApsClient × σ × List Note) (replies : List HttpReply) (notes : List Note) : Prop where
  noted : state.2.2.2 = before ++ notes
  attempts : Attempts method endpoint authorization notes replies
  length : replies.length = k
  transient : ∀ reply ∈ replies, reply.Transient
  last_exc : state.1 = replies.reverse.findSome? HttpReply.transport_error

/-- A request is over after its last attempt. -/
structure Concluded (method endpoint authorization : String) (before after : List Note) (answer : Except RequestError Json)
    (replies : List HttpReply) (notes : List Note) : Prop where
  noted : after = before ++ notes
  attempts : Attempts method endpoint authorization notes replies
  sent : replies ≠ []
  bounded : replies.length ≤ MAX_RETRIES
  transient : ∀ reply ∈ replies.dropLast, reply.Transient
  gives_up : (∀ reply ∈ replies, reply.Transient) → replies.length = MAX_RETRIES
  answer : answer = conclusion method endpoint replies

/-- What one attempt does, by the reply to it. -/
theorem attempt_send_cases (w : World σ) (method endpoint authorization : String) (attempt : Nat)
    (state : Option String × ApsClient × σ × List Note) :
    ∃ limited reply, Waited limited ∧
      (attempt_send w.observed method endpoint authorization attempt state).2.2.2.2 =
        state.2.2.2 ++ (limited ++ .sent method endpoint authorization reply :: pause method endpoint attempt reply) ∧
      ((∃ result, verdict method endpoint attempt reply = .ends result ∧
          (attempt_send w.observed method endpoint authorization attempt state).1 = some result) ∨
        ((∃ backoff, verdict method endpoint attempt reply = .retries backoff reply.transport_error) ∧ reply.Transient ∧
          (attempt_send w.observed method endpoint authorization attempt state).1 = none ∧
          (attempt_send w.observed method endpoint authorization attempt state).2.1 = reply.transport_error.or state.1)) := by
  obtain ⟨last_exc, c, s⟩ := state
  obtain ⟨limited, noted, waited⟩ := enforce_rate_limit_notes w c s
  obtain ⟨c', s', limit⟩ : ∃ c' s', enforce_rate_limit w.observed c s = (c', s') := ⟨_, _, rfl⟩
  obtain ⟨reply, t, replied⟩ : ∃ reply t, w.send method endpoint authorization s'.1 = (reply, t) := ⟨_, _, rfl⟩
  have sent : w.observed.send method endpoint authorization s' = (reply, t, s'.2 ++ [.sent method endpoint authorization reply]) := by
    simp only [World.observed, replied]
  have noted : s'.2 = s.2 ++ limited := by rwa [limit] at noted
  refine ⟨limited, reply, waited, ?_⟩
  unfold attempt_send pause
  simp only [limit, sent]
  cases judged : verdict method endpoint attempt reply with
  | ends result => exact ⟨by simp [noted], .inl ⟨result, rfl, rfl⟩⟩
  | retries backoff failure =>
    obtain ⟨transient, rfl⟩ := verdict_retries judged
    refine ⟨?_, .inr ⟨⟨backoff, rfl⟩, transient, rfl, rfl⟩⟩
    cases backoff with
    | none => simp [noted]
    | some backoff => simp [noted, World.observed]

theorem request_attempts (w : World σ) (method endpoint authorization : String) (c : ApsClient) (s : σ × List Note) :
    let answer := Retry.run (attempt_send w.observed method endpoint authorization) 0 MAX_RETRIES (none, c, s)
    (∀ result, answer.1 = some result → ∃ replies notes,
      Concluded method endpoint authorization s.2 answer.2.2.2.2 result replies notes) ∧
      (answer.1 = none → ∃ replies notes, Pending method endpoint authorization s.2 MAX_RETRIES answer.2 replies notes) := by
  refine Retry.run_rule (P := fun k state => ∃ replies notes, Pending method endpoint authorization s.2 k state replies notes)
    (Q := fun answer state => (∀ result, answer = some result → ∃ replies notes,
        Concluded method endpoint authorization s.2 state.2.2.2 result replies notes) ∧
      (answer = none → ∃ replies notes, Pending method endpoint authorization s.2 MAX_RETRIES state replies notes)) ?_ ?_ ?_ ?_
  · rintro k state next few ⟨replies, notes, pending⟩ answered
    obtain ⟨limited, reply, waited, noted, ⟨result, -, some⟩ | ⟨-, transient, -, last⟩⟩ :=
      attempt_send_cases w method endpoint authorization k state
    · rw [answered] at some
      cases some
    · rw [answered] at noted last
      refine ⟨replies ++ [reply], _, ?_, pending.attempts.more waited reply, ?_, ?_, ?_⟩
      · rw [pending.length]
        exact noted.trans (by rw [pending.noted, List.append_assoc])
      · rw [List.length_append, pending.length, List.length_singleton]
      · intro other member
        rcases List.mem_append.mp member with earlier | here
        · exact pending.transient other earlier
        · rw [List.mem_singleton.mp here]
          exact transient
      · rw [List.reverse_append, List.reverse_singleton, List.singleton_append, List.findSome?_cons]
        refine last.trans ?_
        rw [pending.last_exc]
        cases reply.transport_error <;> rfl
  · rintro k state next result few ⟨replies, notes, pending⟩ answered
    refine ⟨fun other same => ?_, fun none => absurd none nofun⟩
    rw [← Option.some.inj same]
    obtain ⟨limited, reply, waited, noted, ⟨ended, ends, some⟩ | ⟨-, -, none, -⟩⟩ :=
      attempt_send_cases w method endpoint authorization k state
    · rw [answered] at noted some
      obtain rfl := Option.some.inj some
      refine ⟨replies ++ [reply], _, ?_, pending.attempts.more waited reply, by simp, ?_, ?_, ?_, ?_⟩
      · rw [pending.length]
        exact noted.trans (by rw [pending.noted, List.append_assoc])
      · rw [List.length_append, pending.length, List.length_singleton]
        omega
      · rw [List.dropLast_concat]
        exact pending.transient
      · intro all
        exact absurd (all reply (by simp)) (verdict_ends ends)
      · rw [conclusion, List.getLast?_concat, List.length_append, pending.length]
        simp [ends]
    · rw [answered] at none
      cases none
  · rintro state ⟨replies, notes, pending⟩
    rw [Nat.zero_add] at pending
    exact ⟨fun result same => absurd same nofun, fun _ => ⟨replies, notes, pending⟩⟩
  · exact ⟨[], [], (List.append_nil _).symm, .none, rfl, fun _ member => absurd member List.not_mem_nil, rfl⟩

theorem authenticate_cases (w : World σ) (c : ApsClient) (s : σ × List Note) :
    ∃ reply, (authenticate w.observed c s).2.2.2 = s.2 ++ [.authenticated reply] ∧
      ∀ token, (authenticate w.observed c s).1 = .ok token →
        ∃ access_token token_type expires_in scope, reply = .body (some access_token) token_type expires_in scope ∧
          token.access_token = access_token ∧ token.token_type = token_type.getD "Bearer" := by
  obtain ⟨reply, t, replied⟩ : ∃ reply t, w.authenticate s.1 = (reply, t) := ⟨_, _, rfl⟩
  have asked : w.observed.authenticate s = (reply, t, s.2 ++ [.authenticated reply]) := by simp only [World.observed, replied]
  refine ⟨reply, ?_⟩
  unfold authenticate
  simp only [asked]
  cases reply with
  | HTTPStatusError status_code message => exact ⟨rfl, fun token ok => by cases ok⟩
  | HTTPError message => exact ⟨rfl, fun token ok => by cases ok⟩
  | raised message => exact ⟨rfl, fun token ok => by cases ok⟩
  | body access_token token_type expires_in scope =>
    cases access_token with
    | none => exact ⟨rfl, fun token ok => by cases ok⟩
    | some access_token =>
      refine ⟨rfl, fun token ok => ⟨access_token, token_type, expires_in, scope, rfl, ?_⟩⟩
      injection ok with same
      rw [← same]
      exact ⟨rfl, rfl⟩

/-- The token of a request is held, or the authentication issues it or raises. -/
theorem get_token_cases (w : World σ) (c : ApsClient) (s : σ × List Note) :
    ∃ issued, (get_token w.observed c s).2.2.2 = s.2 ++ issued ∧
      (∀ token, (get_token w.observed c s).1 = .ok token → Usable w c s.1 token issued) ∧
      ∀ e, (get_token w.observed c s).1 = .error e → ∃ reply, issued = [.authenticated reply] := by
  have asked (t : σ × List Note) (same : t.2 = s.2) : ∃ issued, (authenticate w.observed c t).2.2.2 = s.2 ++ issued ∧
      (∀ token, (authenticate w.observed c t).1 = .ok token → Usable w c s.1 token issued) ∧
      ∀ e, (authenticate w.observed c t).1 = .error e → ∃ reply, issued = [.authenticated reply] := by
    obtain ⟨reply, noted, usable⟩ := authenticate_cases w c t
    refine ⟨_, same ▸ noted, fun token ok => .inr ?_, fun _ _ => ⟨reply, rfl⟩⟩
    obtain ⟨access_token, token_type, expires_in, scope, rfl, issued⟩ := usable token ok
    exact ⟨access_token, token_type, expires_in, scope, rfl, issued⟩
  unfold get_token
  split
  · exact asked s rfl
  · next held known =>
    simp only
    by_cases expired : held.is_expired (w.observed.time s).1 = true
    · rw [if_pos expired]
      exact asked _ rfl
    · rw [if_neg expired]
      refine ⟨[], (List.append_nil _).symm, fun token ok => .inl ⟨rfl, ?_⟩, fun e error => by cases error⟩
      injection ok with same
      rw [← same]
      exact ⟨known, Bool.eq_false_iff.mpr expired⟩

/-- A request authenticates at most once, before anything is sent. Without a token nothing
    is sent. With one, the request is sent at most three times, each time with that token:
    again only after a transient reply, with pauses of one, two and four seconds, and
    the last reply decides what is answered. -/
theorem request_concludes (w : World σ) (method endpoint : String) (c : ApsClient) (s : σ) :
    let answer := request w.observed method endpoint c (s, [])
    (∃ e reply, answer.1 = .error e ∧ answer.2.2.2 = [.authenticated reply]) ∨
      ∃ token issued replies notes, Usable w c s token issued ∧
        Concluded method endpoint (token.token_type ++ " " ++ token.access_token) issued answer.2.2.2 answer.1 replies notes := by
  obtain ⟨issued, noted, usable, fails⟩ := get_token_cases w c (s, [])
  obtain ⟨got, c', s', token_got⟩ : ∃ got c' s', get_token w.observed c (s, []) = (got, c', s') := ⟨_, _, _, rfl⟩
  rw [token_got] at noted usable fails
  have began : s'.2 = issued := noted
  unfold request
  rw [token_got]
  cases got with
  | error e =>
    obtain ⟨reply, rfl⟩ := fails e rfl
    exact .inl ⟨e, reply, rfl, began⟩
  | ok token =>
    obtain ⟨ends, gives_up⟩ := request_attempts w method endpoint (token.token_type ++ " " ++ token.access_token) c' s'
    rw [began] at ends gives_up
    refine .inr ⟨token, issued, ?_⟩
    simp only
    generalize Retry.run (attempt_send w.observed method endpoint (token.token_type ++ " " ++ token.access_token)) 0 MAX_RETRIES
      (none, c', s') = answer at ends gives_up
    obtain ⟨result, last_exc, c'', s''⟩ := answer
    cases result with
    | some result =>
      obtain ⟨replies, notes, concluded⟩ := ends result rfl
      exact ⟨replies, notes, usable token rfl, concluded⟩
    | none =>
      obtain ⟨replies, notes, pending⟩ := gives_up rfl
      have sent : replies ≠ [] := List.ne_nil_of_length_pos (by rw [pending.length]; decide)
      refine ⟨replies, notes, usable token rfl, pending.noted, pending.attempts, sent, Nat.le_of_eq pending.length,
        fun reply member => pending.transient reply (List.mem_of_mem_dropLast member), fun _ => pending.length, ?_⟩
      -- The last reply was transient, so it ends nothing.
      obtain ⟨last, known⟩ : ∃ last, replies.getLast? = some last := ⟨_, List.getLast?_eq_some_getLast sent⟩
      have transient := pending.transient last (List.mem_of_getLast? known)
      rw [conclusion, known, Option.map_some]
      cases judged : verdict method endpoint (replies.length - 1) last with
      | ends result => exact absurd transient (verdict_ends judged)
      | retries backoff failure => exact congrArg (fun e => Except.error (exhausted method endpoint e)) pending.last_exc

end RevitPy.Aps
