import Mathlib.Data.Set.Basic
import Sumurai.Frontend.ApiClient

/-!
# How many requests a call sends

An attempt is retried a bounded number of times, and a refresh is a request that does not refresh,
so both are bounded by the number of retries. What is not is the number of times that the original
request is issued again: each time its attempts start over at zero, where a 401 leads to the next
refresh.

`RefusedAfterRefresh k` says that the answers begin with `k` rounds of a 401 and a refresh that
succeeds. A call that is not refused `k + 1` times sends at most `k + 1` times as many requests as
an attempt and a refresh take (`endsWithin_of_not_refused`), and one that is refused `k` times sends
at least `k` (`refused_le_of_endsWithin`); so the number of requests is bounded exactly where the
number of rounds is (`bounded_iff`). The server bounds neither.
-/

namespace Sumurai

/-! ### What the arrivals say -/

/-- A 401. -/
def Arrival.isUnauthorized (arrival : Arrival) : Bool :=
  match arrival.answer with
  | .ok response => response.status = 401
  | .error _ => false

/-- An error that is retried as long as there are retries. -/
def Arrival.isRetryable (config : RetryConfig) (arrival : Arrival) : Bool :=
  match arrival.result with
  | .ok _ => false
  | .error error => isRetryableStatus config error || isRetryableError config error

/-- The `r`-th retry from the `i`-th arrival on is the first attempt that does not fail, and it
succeeds with a body. -/
structure RefreshedBy (config : RetryConfig) (arrivals : ℕ → Arrival) (i r : ℕ) (body : JsonBody) :
    Prop where
  bounded : r ≤ config.maxRetries
  retried : ∀ k < r, (arrivals (i + k)).isRetryable config = true
  authorized : 0 < r → (arrivals i).isUnauthorized = false
  success : (arrivals (i + r)).result = .ok (some body)

/-- From the `i`-th arrival on, a request is refused and the refresh succeeds, `k` times in a row.
The refresh is the one that is under way, or the call's own, for which there has to be a token. -/
inductive RefusedAfterRefresh (config : RetryConfig) (arrivals : ℕ → Arrival) : ℕ → ℕ → Prop
  | none (i : ℕ) : RefusedAfterRefresh config arrivals 0 i
  | joined {k i : ℕ} {body : JsonBody} (hrefused : (arrivals i).isUnauthorized = true)
      (hjoined : (arrivals i).session.refreshPromise = some (.ok body))
      (hlater : RefusedAfterRefresh config arrivals k (i + 1)) :
      RefusedAfterRefresh config arrivals (k + 1) i
  | own {k i r : ℕ} {body : JsonBody} (hrefused : (arrivals i).isUnauthorized = true)
      (hfree : (arrivals i).session.refreshPromise = Option.none)
      (htoken : (arrivals i).session.getToken.isSome = true)
      (hrefreshed : RefreshedBy config arrivals (i + 1) r body)
      (hlater : RefusedAfterRefresh config arrivals k (i + 1 + r + 1)) :
      RefusedAfterRefresh config arrivals (k + 1) i

/-- A call of the client, the session it starts in, and what it will find. -/
structure ApiCall where
  endpoint : String
  options : RequestInit
  session : ClientSession
  arrivals : ℕ → Arrival

namespace ApiCall

/-- `makeRequest`. -/
def run (x : ApiCall) (config : RetryConfig) (fuel : ℕ) : Settles (Option JsonBody) :=
  makeRequestWithRetry config x.arrivals fuel x.endpoint x.options 0
    { sent := [], session := x.session }

/-- The call returns or throws, after at most `n` requests. -/
def EndsWithin (x : ApiCall) (config : RetryConfig) (n : ℕ) : Prop :=
  ∃ fuel result c, x.run config fuel = some (result, c) ∧ c.sent.length ≤ n

/-- The request is refused `k` times with a refresh that succeeds after each. The refresh itself is
not refreshed. -/
def Refused (x : ApiCall) (config : RetryConfig) (k : ℕ) : Prop :=
  x.endpoint ≠ "/auth/refresh" ∧ RefusedAfterRefresh config x.arrivals k 0

end ApiCall

/-! ### One attempt -/

section Attempts

variable {config : RetryConfig} {arrivals : ℕ → Arrival} {endpoint : String} {options : RequestInit}
  {c : CallState} {fuel attempt : ℕ}

/-- The call after the next request. -/
def CallState.next (arrivals : ℕ → Arrival) (endpoint : String) (options : RequestInit)
    (c : CallState) : CallState :=
  (makeRawRequest arrivals endpoint options c).2

@[simp]
theorem length_next : (c.next arrivals endpoint options).sent.length = c.sent.length + 1 :=
  List.length_append

@[simp]
theorem length_clearToken : c.clearToken.sent.length = c.sent.length :=
  rfl

@[simp]
theorem length_storeToken {token : String} : (c.storeToken token).sent.length = c.sent.length :=
  rfl

theorem session_next : (c.next arrivals endpoint options).session =
    (arrivals c.sent.length).session :=
  rfl

/-- A response of status 401 is what an authentication error comes from. -/
theorem cls_createApiError (response : Response) :
    (createApiError response).cls = .authentication ↔ response.status = 401 := by
  unfold createApiError
  dsimp only
  split <;> simp_all

theorem isAuthenticationError_eq {arrival : Arrival} {error : Thrown}
    (h : arrival.result = .error error) : error.isAuthenticationError = arrival.isUnauthorized := by
  rw [Arrival.result] at h
  rw [Arrival.isUnauthorized]
  rcases hanswer : arrival.answer with message | response
  · rw [hanswer] at h
    obtain rfl := Except.error.inj h
    rfl
  · rw [hanswer] at h
    change handleResponse response = .error error at h
    show error.isAuthenticationError = decide (response.status = 401)
    rw [handleResponse] at h
    split at h
    · rename_i hok
      -- what a successful response throws is the parser's error
      have hstatus : ¬ response.status = 401 := by omega
      rw [decide_eq_false hstatus]
      split at h
      · exact absurd h nofun
      · rcases hjson : response.json with message | json
        · rw [hjson] at h
          obtain rfl := Except.error.inj h
          rfl
        · rw [hjson] at h
          exact absurd h nofun
    · obtain rfl := Except.error.inj h
      exact decide_eq_decide.2 (cls_createApiError response)

theorem error_of_isUnauthorized {arrival : Arrival} (h : arrival.isUnauthorized = true) :
    ∃ error, arrival.result = .error error := by
  rw [Arrival.isUnauthorized] at h
  rcases hanswer : arrival.answer with message | response
  · rw [hanswer] at h
    exact absurd h nofun
  · rw [hanswer] at h
    have hstatus : response.status = 401 := of_decide_eq_true h
    refine ⟨.api (createApiError response), ?_⟩
    rw [Arrival.result, hanswer]
    show handleResponse response = _
    rw [handleResponse, if_neg (by omega)]

variable (config arrivals fuel endpoint options attempt c)

/-- **One attempt**: its answer is returned, or refreshes, or is retried, or is thrown. -/
theorem makeRequestWithRetry_cases :
    (∃ response, (arrivals c.sent.length).result = .ok response ∧
      makeRequestWithRetry config arrivals (fuel + 1) endpoint options attempt c =
        some (.ok response, c.next arrivals endpoint options)) ∨
    ((arrivals c.sent.length).isUnauthorized = true ∧ attempt = 0 ∧
      makeRequestWithRetry config arrivals (fuel + 1) endpoint options attempt c =
        handleAuthenticationError (makeRequestWithRetry config arrivals fuel) endpoint options
          (c.next arrivals endpoint options)) ∨
    ((attempt = 0 → (arrivals c.sent.length).isUnauthorized = false) ∧
      (arrivals c.sent.length).isRetryable config = true ∧ attempt < config.maxRetries ∧
      makeRequestWithRetry config arrivals (fuel + 1) endpoint options attempt c =
        makeRequestWithRetry config arrivals fuel endpoint options (attempt + 1)
          (c.next arrivals endpoint options)) ∨
    (∃ thrown error, (attempt = 0 → (arrivals c.sent.length).isUnauthorized = false) ∧
      (arrivals c.sent.length).result = .error thrown ∧
      ((arrivals c.sent.length).isRetryable config = true → config.maxRetries ≤ attempt) ∧
      makeRequestWithRetry config arrivals (fuel + 1) endpoint options attempt c =
        some (.error error, c.next arrivals endpoint options)) := by
  rw [makeRequestWithRetry]
  have hraw : makeRawRequest arrivals endpoint options c =
      ((arrivals c.sent.length).result, c.next arrivals endpoint options) := rfl
  rw [hraw]
  rcases hresult : (arrivals c.sent.length).result with error | response
  · have hauth := isAuthenticationError_eq hresult
    have hretryable : (arrivals c.sent.length).isRetryable config =
        (isRetryableStatus config error || isRetryableError config error) := by
      rw [Arrival.isRetryable, hresult]
    dsimp only
    rw [hauth]
    split
    · rename_i h
      exact Or.inr (Or.inl ⟨h.1, h.2, rfl⟩)
    · rename_i hattempt
      have hfirst : attempt = 0 → (arrivals c.sent.length).isUnauthorized = false :=
        fun hzero ↦ Bool.eq_false_iff.2 fun h ↦ hattempt ⟨h, hzero⟩
      split
      · rename_i h
        exact Or.inr (Or.inr (Or.inl ⟨hfirst, by rw [hretryable, h.1]; rfl, h.2, rfl⟩))
      · rename_i hstatus
        split
        · rename_i h
          exact Or.inr (Or.inr (Or.inl ⟨hfirst, by rw [hretryable, h.1, Bool.or_true], h.2, rfl⟩))
        · rename_i herror
          have hspent : (arrivals c.sent.length).isRetryable config = true →
              config.maxRetries ≤ attempt := by
            intro h
            rw [hretryable, Bool.or_eq_true] at h
            by_contra hlt
            exact h.elim (fun h ↦ hstatus ⟨h, not_le.1 hlt⟩) fun h ↦ herror ⟨h, not_le.1 hlt⟩
          refine Or.inr (Or.inr (Or.inr ?_))
          split
          · exact ⟨_, _, hfirst, rfl, hspent, rfl⟩
          · split
            · exact ⟨_, _, hfirst, rfl, hspent, rfl⟩
            · exact ⟨_, _, hfirst, rfl, hspent, rfl⟩
  · exact Or.inl ⟨response, rfl, rfl⟩

end Attempts

/-! ### Attempts that do not refresh -/

section Retries

variable {config : RetryConfig} {arrivals : ℕ → Arrival} {endpoint : String}

/-- A retryable arrival is an error. -/
theorem error_of_isRetryable {arrival : Arrival} (h : arrival.isRetryable config = true) :
    ∃ error, arrival.result = .error error := by
  rw [Arrival.isRetryable] at h
  rcases hresult : arrival.result with error | response
  · exact ⟨error, rfl⟩
  · rw [hresult] at h
    exact absurd h nofun

/-- The attempts of a request that does not refresh end when the retries are used up, at the latest.
A response they return is that of the first attempt that was not retried. -/
theorem retries_settle (options : RequestInit) (fuel attempt : ℕ) (c : CallState)
    (hend : endpoint = "/auth/refresh" ∨ 1 ≤ attempt) (hattempt : attempt ≤ config.maxRetries)
    (hfuel : config.maxRetries < attempt + fuel) :
    ∃ r result c', makeRequestWithRetry config arrivals fuel endpoint options attempt c =
        some (result, c') ∧ attempt + r ≤ config.maxRetries ∧
      c'.sent.length = c.sent.length + r + 1 ∧
      (∀ k < r, (arrivals (c.sent.length + k)).isRetryable config = true) ∧
      (attempt = 0 → 0 < r → (arrivals c.sent.length).isUnauthorized = false) ∧
      ∀ response, result = .ok response →
        (arrivals (c.sent.length + r)).result = .ok response := by
  induction fuel generalizing attempt c with
  | zero => exact absurd hattempt (by omega)
  | succ fuel ih =>
    rcases makeRequestWithRetry_cases config arrivals endpoint options c fuel attempt with
      ⟨response, hresult, hrun⟩ | ⟨-, rfl, hrun⟩ | ⟨hfirst, hretryable, hlt, hrun⟩ |
      ⟨-, error, -, -, -, hrun⟩
    · refine ⟨0, _, _, hrun, hattempt, length_next, by simp, by simp, ?_⟩
      intro response' heq
      rw [← Except.ok.inj heq]
      exact hresult
    · -- the refresh itself is not refreshed
      obtain rfl := hend.resolve_right (by omega)
      rw [handleAuthenticationError, if_pos rfl] at hrun
      exact ⟨0, _, _, hrun, hattempt, by rw [length_clearToken, length_next], by simp,
        by simp, nofun⟩
    · obtain ⟨r, result, c', hrest, hr, hlength, hretried, -, hresponse⟩ :=
        ih (attempt + 1) (c.next arrivals endpoint options) (Or.inr (by omega)) hlt (by omega)
      rw [length_next] at hlength hretried hresponse
      refine ⟨r + 1, result, c', hrun.trans hrest, by omega, by omega, ?_, fun h _ ↦ hfirst h, ?_⟩
      · intro k hk
        rcases k with - | k
        · exact hretryable
        · rw [← Nat.add_assoc, Nat.add_right_comm]
          exact hretried k (by omega)
      · intro response heq
        rw [← Nat.add_assoc, Nat.add_right_comm]
        exact hresponse response heq
    · exact ⟨0, _, _, hrun, hattempt, length_next, by simp, by simp, nofun⟩

/-- Attempts that are retried until one succeeds return its response, if they have ended. -/
theorem retries_succeed {options : RequestInit} (r fuel attempt : ℕ) (c : CallState)
    {body : Option JsonBody}
    (hr : attempt + r ≤ config.maxRetries)
    (hretried : ∀ k < r, (arrivals (c.sent.length + k)).isRetryable config = true)
    (hfirst : attempt = 0 → 0 < r → (arrivals c.sent.length).isUnauthorized = false)
    (hsuccess : (arrivals (c.sent.length + r)).result = .ok body)
    {result : Except Thrown (Option JsonBody)} {c' : CallState}
    (hrun : makeRequestWithRetry config arrivals fuel endpoint options attempt c =
      some (result, c')) :
    result = .ok body ∧ c'.sent.length = c.sent.length + r + 1 := by
  induction r generalizing fuel attempt c with
  | zero =>
    rcases fuel with - | fuel
    · exact absurd hrun nofun
    · rcases makeRequestWithRetry_cases config arrivals endpoint options c fuel attempt with
        ⟨response, hresult, heq⟩ | ⟨hrefused, -, -⟩ | ⟨-, hretryable, -⟩ | ⟨thrown, -, -, herror, -⟩
      · rw [heq] at hrun
        obtain ⟨rfl, rfl⟩ := Prod.mk.inj (Option.some.inj hrun)
        rw [Nat.add_zero, hresult] at hsuccess
        exact ⟨hsuccess, length_next⟩
      · obtain ⟨error, herror⟩ := error_of_isUnauthorized hrefused
        rw [Nat.add_zero, herror] at hsuccess
        exact absurd hsuccess nofun
      · obtain ⟨error, herror⟩ := error_of_isRetryable hretryable
        rw [Nat.add_zero, herror] at hsuccess
        exact absurd hsuccess nofun
      · rw [Nat.add_zero, herror] at hsuccess
        exact absurd hsuccess nofun
  | succ r ih =>
    have hretryable := hretried 0 (by omega)
    rw [Nat.add_zero] at hretryable
    rcases fuel with - | fuel
    · exact absurd hrun nofun
    · rcases makeRequestWithRetry_cases config arrivals endpoint options c fuel attempt with
        ⟨response, hresult, -⟩ | ⟨hrefused, hzero, -⟩ | ⟨-, -, -, heq⟩ | ⟨-, -, -, -, hspent, -⟩
      · obtain ⟨error, herror⟩ := error_of_isRetryable hretryable
        rw [hresult] at herror
        exact absurd herror nofun
      · rw [hfirst hzero (by omega)] at hrefused
        exact absurd hrefused nofun
      · rw [heq] at hrun
        have hlater : ∀ k, (c.next arrivals endpoint options).sent.length + k =
            c.sent.length + (k + 1) := fun k ↦ by
          rw [length_next, Nat.add_right_comm, Nat.add_assoc]
        obtain ⟨hresult, hlength⟩ := ih fuel (attempt + 1) (c.next arrivals endpoint options)
          (by omega) (fun k hk ↦ by rw [hlater]; exact hretried (k + 1) (by omega))
          (fun h ↦ absurd h (by omega)) (by rw [hlater]; exact hsuccess) hrun
        exact ⟨hresult, by rw [hlength, length_next]; omega⟩
      · exact absurd (hspent hretryable) (by omega)

end Retries

/-! ### The refresh -/

section Refresh

variable {config : RetryConfig} {arrivals : ℕ → Arrival} {fuel : ℕ} {c c' : CallState}
  {request : String → RequestInit → ℕ → CallState → Settles (Option JsonBody)}

/-- The request that a refresh makes. -/
def refreshRequest : RequestInit where
  method := .post
  body := none
  authorization := none

/-- A refresh ends where its request does, and succeeds with the body of its response. -/
theorem performRefresh_eq_some_iff {outcome : Except Thrown JsonBody} :
    performRefresh request c = some (outcome, c') ↔
      ∃ result, request "/auth/refresh" refreshRequest 0 c = some (result, c') ∧
        outcome = result.bind fun response ↦
          response.elim (.error (.error "Cannot read properties of null")) .ok := by
  rw [performRefresh]
  rcases hrequest : request "/auth/refresh" refreshRequest 0 c with - | ⟨error | - | body, c₁⟩
  all_goals
    rw [refreshRequest] at hrequest
    rw [hrequest]
  · exact iff_of_false nofun nofun
  all_goals
    constructor
    · intro h
      obtain ⟨rfl, rfl⟩ := Prod.mk.inj (Option.some.inj h)
      exact ⟨_, rfl, rfl⟩
    · rintro ⟨result, h, rfl⟩
      obtain ⟨rfl, rfl⟩ := Prod.mk.inj (Option.some.inj h)
      rfl

theorem refreshToken_joined {outcome : Except Thrown JsonBody}
    (h : c.session.refreshPromise = some outcome) :
    refreshToken request c = some (outcome, c) := by
  rw [refreshToken, h]

theorem refreshToken_signedOut (hfree : c.session.refreshPromise = none)
    (htoken : c.session.getToken.isNone = true) :
    refreshToken request c = some (.error (.error "No token"), c) := by
  rw [refreshToken, hfree]
  exact if_pos htoken

/-- With a token and no refresh under way, the call makes its own. -/
theorem refreshToken_own {outcome : Except Thrown JsonBody}
    (hfree : c.session.refreshPromise = none) (htoken : c.session.getToken.isSome = true) :
    refreshToken request c = some (outcome, c') ↔
      ∃ c₁, performRefresh request c = some (outcome, c₁) ∧
        c' = { c₁ with session := { c₁.session with refreshPromise := none } } := by
  have hnone : c.session.getToken.isNone = false := by
    rw [← Option.not_isSome, htoken]
    rfl
  rw [refreshToken, hfree]
  dsimp only
  rw [hnone, if_neg Bool.false_ne_true]
  rcases performRefresh request c with - | ⟨result, c₁⟩
  · exact iff_of_false nofun nofun
  · constructor
    · intro h
      obtain ⟨rfl, rfl⟩ := Prod.mk.inj (Option.some.inj h)
      exact ⟨c₁, rfl, rfl⟩
    · rintro ⟨c₂, h, rfl⟩
      obtain ⟨rfl, rfl⟩ := Prod.mk.inj (Option.some.inj h)
      rfl

/-- A refresh ends, after as many requests as there are attempts. What it succeeds with is what the
arrivals say. -/
theorem refreshToken_settles (hfuel : config.maxRetries < fuel) :
    ∃ outcome c', refreshToken (makeRequestWithRetry config arrivals fuel) c =
        some (outcome, c') ∧ c'.sent.length ≤ c.sent.length + config.maxRetries + 1 ∧
      ∀ body, outcome = .ok body →
        (c.session.refreshPromise = some (.ok body) ∧ c'.sent.length = c.sent.length) ∨
        (c.session.refreshPromise = none ∧ c.session.getToken.isSome = true ∧
          ∃ r, RefreshedBy config arrivals c.sent.length r body ∧
            c'.sent.length = c.sent.length + r + 1) := by
  rcases hpromise : c.session.refreshPromise with - | outcome
  · rcases htoken : c.session.getToken.isSome
    · refine ⟨_, _, refreshToken_signedOut hpromise ?_, by omega, nofun⟩
      rw [← Option.not_isSome, htoken]
      rfl
    · obtain ⟨r, result, c', hrun, hr, hlength, hretried, hfirst, hresponse⟩ :=
        retries_settle refreshRequest fuel 0 c (Or.inl rfl) (Nat.zero_le config.maxRetries)
          (by omega)
      refine ⟨_, _, (refreshToken_own hpromise htoken).2
        ⟨c', performRefresh_eq_some_iff.2 ⟨result, hrun, rfl⟩, rfl⟩, by dsimp only; omega, ?_⟩
      intro body hbody
      refine Or.inr ⟨rfl, rfl, r, ⟨by omega, hretried, hfirst rfl, ?_⟩, hlength⟩
      rcases result with error | - | body'
      · exact absurd hbody nofun
      · exact absurd hbody nofun
      · obtain rfl := Except.ok.inj hbody
        exact hresponse _ rfl
  · refine ⟨outcome, c, refreshToken_joined hpromise, by omega, fun body hbody ↦ ?_⟩
    rw [hbody]
    exact Or.inl ⟨rfl, rfl⟩

end Refresh

/-! ### The whole call -/

section Calls

variable {config : RetryConfig} {arrivals : ℕ → Arrival} {endpoint : String}

/-- A refresh takes back no request, as its request does not. -/
theorem length_le_of_refreshToken
    {request : String → RequestInit → ℕ → CallState → Settles (Option JsonBody)}
    {c c' : CallState} {outcome : Except Thrown JsonBody}
    (hrequest : ∀ result c', request "/auth/refresh" refreshRequest 0 c = some (result, c') →
      c.sent.length < c'.sent.length)
    (hrun : refreshToken request c = some (outcome, c')) : c.sent.length ≤ c'.sent.length := by
  rcases hpromise : c.session.refreshPromise with - | promised
  · rcases htoken : c.session.getToken.isSome
    · rw [refreshToken_signedOut hpromise (by rw [← Option.not_isSome, htoken]; rfl)] at hrun
      obtain ⟨-, rfl⟩ := Prod.mk.inj (Option.some.inj hrun)
      rfl
    · obtain ⟨c₁, hown, rfl⟩ := (refreshToken_own hpromise htoken).1 hrun
      obtain ⟨result, hsent, -⟩ := performRefresh_eq_some_iff.1 hown
      exact (hrequest result c₁ hsent).le
  · rw [refreshToken_joined hpromise] at hrun
    obtain ⟨-, rfl⟩ := Prod.mk.inj (Option.some.inj hrun)
    rfl

/-- A call that has ended has sent something. -/
theorem length_lt_of_settles (options : RequestInit) (fuel attempt : ℕ) (c : CallState)
    {c' : CallState} {result : Except Thrown (Option JsonBody)}
    (hrun : makeRequestWithRetry config arrivals fuel endpoint options attempt c =
      some (result, c')) : c.sent.length < c'.sent.length := by
  induction fuel generalizing endpoint options attempt c result c' with
  | zero => exact absurd hrun nofun
  | succ fuel ih =>
    rcases makeRequestWithRetry_cases config arrivals endpoint options c fuel attempt with
      ⟨response, -, heq⟩ | ⟨-, -, heq⟩ | ⟨-, -, -, heq⟩ | ⟨-, error, -, -, -, heq⟩
    · rw [heq] at hrun
      obtain ⟨-, rfl⟩ := Prod.mk.inj (Option.some.inj hrun)
      rw [length_next]
      omega
    · rw [heq, handleAuthenticationError] at hrun
      have hnext : c.sent.length < (c.next arrivals endpoint options).sent.length := by
        rw [length_next]
        omega
      split at hrun
      · obtain ⟨-, rfl⟩ := Prod.mk.inj (Option.some.inj hrun)
        exact hnext
      · have hrefresh : ∀ outcome c₁,
            refreshToken (makeRequestWithRetry config arrivals fuel)
              (c.next arrivals endpoint options) = some (outcome, c₁) →
            c.sent.length < c₁.sent.length := fun outcome c₁ h ↦
          hnext.trans_le (length_le_of_refreshToken (fun _ _ ↦ ih _ _ _) h)
        split at hrun
        · exact absurd hrun nofun
        · rename_i body c₁ hbody
          have hlt := ih _ _ _ hrun
          rw [length_storeToken] at hlt
          exact (hrefresh _ _ hbody).trans hlt
        · rename_i error c₁ herror
          obtain ⟨-, rfl⟩ := Prod.mk.inj (Option.some.inj hrun)
          rw [length_clearToken]
          exact hrefresh _ _ herror
    · have hlt := ih _ _ _ (heq ▸ hrun)
      rw [length_next] at hlt
      omega
    · rw [heq] at hrun
      obtain ⟨-, rfl⟩ := Prod.mk.inj (Option.some.inj hrun)
      rw [length_next]
      omega

/-- **The upper bound.** A call that is not refused `k` times ends, after at most `k` times as many
requests as an attempt and a refresh take. -/
theorem settles_of_not_refused (hendpoint : endpoint ≠ "/auth/refresh") (k : ℕ)
    (options : RequestInit) (fuel : ℕ) (c : CallState)
    (hrefused : ¬ RefusedAfterRefresh config arrivals k c.sent.length)
    (hfuel : k * (config.maxRetries + 2) ≤ fuel) :
    ∃ result c', makeRequestWithRetry config arrivals fuel endpoint options 0 c =
        some (result, c') ∧
      c'.sent.length ≤ c.sent.length + k * (config.maxRetries + 2) := by
  induction k generalizing options fuel c with
  | zero => exact absurd (.none _) hrefused
  | succ k ih =>
    rw [Nat.succ_mul] at hfuel ⊢
    obtain ⟨fuel, rfl⟩ : ∃ n, fuel = n + 1 := ⟨fuel - 1, by omega⟩
    rcases makeRequestWithRetry_cases config arrivals endpoint options c fuel 0 with
      ⟨response, -, heq⟩ | ⟨hunauthorized, -, heq⟩ | ⟨-, -, hlt, heq⟩ | ⟨-, error, -, -, -, heq⟩
    · exact ⟨_, _, heq, by rw [length_next]; omega⟩
    · obtain ⟨outcome, c₁, hrefresh, hlength, hbody⟩ := refreshToken_settles
        (c := c.next arrivals endpoint options) (show config.maxRetries < fuel by omega)
      rw [length_next] at hlength hbody
      rw [heq, handleAuthenticationError, if_neg hendpoint, hrefresh]
      rcases outcome with error | body
      · exact ⟨_, _, rfl, by rw [length_clearToken]; omega⟩
      · -- a round is over, and what is left of the answers has one round less to begin with
        have hlater : ¬ RefusedAfterRefresh config arrivals k c₁.sent.length := by
          intro hmore
          refine hrefused ?_
          rcases hbody body rfl with ⟨hjoined, hsame⟩ | ⟨hfree, htoken, r, hrefreshed, hsame⟩
          · exact .joined hunauthorized hjoined (hsame ▸ hmore)
          · exact .own hunauthorized hfree htoken hrefreshed (hsame ▸ hmore)
        obtain ⟨result, c', hrun, hbound⟩ := ih
          { options with authorization := some (bearer body.tokenText) } fuel
          (c₁.storeToken body.tokenText) hlater (by omega)
        rw [length_storeToken] at hbound
        exact ⟨result, c', hrun, by omega⟩
    · obtain ⟨r, result, c', hrun, hr, hlength, -⟩ := retries_settle options fuel (0 + 1)
        (c.next arrivals endpoint options) (Or.inr le_rfl) hlt (by omega)
      rw [length_next] at hlength
      exact ⟨result, c', heq.trans hrun, by omega⟩
    · exact ⟨_, _, heq, by rw [length_next]; omega⟩

/-- A refused request that has ended has issued the request again, once the refresh succeeded. -/
theorem reissued_of_settles (hendpoint : endpoint ≠ "/auth/refresh") {options : RequestInit}
    {fuel : ℕ} {c : CallState} (hrefused : (arrivals c.sent.length).isUnauthorized = true)
    {n : ℕ} {body : JsonBody}
    (hrefresh : ∀ fuel outcome c₁,
      refreshToken (makeRequestWithRetry config arrivals fuel) (c.next arrivals endpoint options) =
        some (outcome, c₁) → outcome = .ok body ∧ c₁.sent.length = n)
    {result : Except Thrown (Option JsonBody)} {c' : CallState}
    (hrun : makeRequestWithRetry config arrivals fuel endpoint options 0 c = some (result, c')) :
    ∃ options fuel c₁, c₁.sent.length = n ∧
      makeRequestWithRetry config arrivals fuel endpoint options 0 c₁ = some (result, c') := by
  rcases fuel with - | fuel
  · exact absurd hrun nofun
  · rcases makeRequestWithRetry_cases config arrivals endpoint options c fuel 0 with
      ⟨response, hresult, -⟩ | ⟨-, -, heq⟩ | ⟨hfirst, -⟩ | ⟨-, -, hfirst, -⟩
    · obtain ⟨error, herror⟩ := error_of_isUnauthorized hrefused
      rw [hresult] at herror
      exact absurd herror nofun
    · rw [heq, handleAuthenticationError, if_neg hendpoint] at hrun
      split at hrun
      · exact absurd hrun nofun
      · rename_i body' c₁ hbody
        obtain ⟨-, hlength⟩ := hrefresh _ _ _ hbody
        exact ⟨_, _, _, by rw [length_storeToken, hlength], hrun⟩
      · rename_i error c₁ herror
        exact absurd (hrefresh _ _ _ herror).1 nofun
    · exact absurd (hfirst rfl) (by rw [hrefused]; exact nofun)
    · exact absurd (hfirst rfl) (by rw [hrefused]; exact nofun)

/-- **The lower bound.** A call that is refused `k` times sends at least `k` requests before it
ends. -/
theorem le_length_of_refused (hendpoint : endpoint ≠ "/auth/refresh") {k i : ℕ}
    (hrefused : RefusedAfterRefresh config arrivals k i) {options : RequestInit} {fuel : ℕ}
    {c : CallState} (hi : c.sent.length = i) {result : Except Thrown (Option JsonBody)}
    {c' : CallState} (hrun : makeRequestWithRetry config arrivals fuel endpoint options 0 c =
      some (result, c')) : i + k ≤ c'.sent.length := by
  induction hrefused generalizing options fuel c with
  | none i =>
    have hlt := length_lt_of_settles _ _ _ _ hrun
    omega
  | joined hunauthorized hjoined _ ih =>
    subst hi
    obtain ⟨options', fuel', c₁, hlength, hagain⟩ := reissued_of_settles hendpoint hunauthorized
      (fun fuel outcome c₁ h ↦ by
        rw [refreshToken_joined (by rw [session_next]; exact hjoined)] at h
        obtain ⟨rfl, rfl⟩ := Prod.mk.inj (Option.some.inj h)
        exact ⟨rfl, length_next⟩) hrun
    have hle := ih hlength hagain
    omega
  | @own k i r body hunauthorized hfree htoken hrefreshed _ ih =>
    subst hi
    obtain ⟨options', fuel', c₁, hlength, hagain⟩ := reissued_of_settles hendpoint hunauthorized
      (fun fuel outcome c₁ h ↦ by
        obtain ⟨c₂, hown, rfl⟩ := (refreshToken_own (by rw [session_next]; exact hfree)
          (by rw [session_next]; exact htoken)).1 h
        obtain ⟨result, hsent, rfl⟩ := performRefresh_eq_some_iff.1 hown
        have hnext : (c.next arrivals endpoint options).sent.length = c.sent.length + 1 :=
          length_next
        obtain ⟨rfl, hlength⟩ := retries_succeed r _ 0 (c.next arrivals endpoint options)
          (by rw [Nat.zero_add]; exact hrefreshed.bounded) (by rw [hnext]; exact hrefreshed.retried)
          (fun _ ↦ by rw [hnext]; exact hrefreshed.authorized)
          (by rw [hnext]; exact hrefreshed.success) hsent
        exact ⟨rfl, by rw [hlength, hnext]⟩) hrun
    have hle := ih hlength hagain
    omega

end Calls

namespace ApiCall

theorem EndsWithin.mono {x : ApiCall} {config : RetryConfig} {m n : ℕ} (h : x.EndsWithin config m)
    (hle : m ≤ n) : x.EndsWithin config n := by
  obtain ⟨fuel, result, c, hrun, hsent⟩ := h
  exact ⟨fuel, result, c, hrun, hsent.trans hle⟩

theorem endsWithin_of_not_refused {x : ApiCall} {config : RetryConfig} {k : ℕ}
    (h : ¬ x.Refused config k) : x.EndsWithin config ((k + 1) * (config.maxRetries + 2)) := by
  rcases eq_or_ne x.endpoint "/auth/refresh" with hendpoint | hendpoint
  · obtain ⟨r, result, c, hrun, hr, hlength, -⟩ := retries_settle x.options
      (config.maxRetries + 1) 0 { sent := [], session := x.session } (Or.inl hendpoint)
      (Nat.zero_le config.maxRetries) (by omega)
    refine ⟨_, result, c, hrun, ?_⟩
    rw [hlength, List.length_nil, Nat.succ_mul]
    omega
  · obtain ⟨result, c, hrun, hbound⟩ := settles_of_not_refused hendpoint k x.options
      (k * (config.maxRetries + 2)) { sent := [], session := x.session }
      (fun hk ↦ h ⟨hendpoint, hk⟩) le_rfl
    refine ⟨_, result, c, hrun, hbound.trans ?_⟩
    rw [List.length_nil, Nat.succ_mul]
    omega

theorem refused_le_of_endsWithin {x : ApiCall} {config : RetryConfig} {k n : ℕ}
    (hrefused : x.Refused config k) (h : x.EndsWithin config n) : k ≤ n := by
  obtain ⟨fuel, result, c, hrun, hsent⟩ := h
  have hle := le_length_of_refused hrefused.1 hrefused.2 List.length_nil hrun
  omega

/-- **When a call is bounded.** Of any kind of calls and answers: all of them end within some number
of requests if and only if there is a bound on how many times in a row a request is refused after a
refresh that succeeded. -/
theorem bounded_iff (config : RetryConfig) (calls : Set ApiCall) :
    (∃ n, ∀ x ∈ calls, x.EndsWithin config n) ↔ ∃ k, ∀ x ∈ calls, ¬ x.Refused config k := by
  constructor
  · rintro ⟨n, hends⟩
    refine ⟨n + 1, fun x hx hrefused ↦ ?_⟩
    have hle := refused_le_of_endsWithin hrefused (hends x hx)
    omega
  · rintro ⟨k, hrefused⟩
    exact ⟨_, fun x hx ↦ endsWithin_of_not_refused (hrefused x hx)⟩

/-! ### A server that refuses every token -/

/-- A 401. -/
def unauthorizedResponse : Response where
  status := 401
  statusText := "Unauthorized"
  json := .ok none

/-- A refresh that succeeds. -/
def refreshResponse : Response where
  status := 200
  statusText := "OK"
  json := .ok (some { JsonBody.empty with token := some "t" })

/-- A request of the client alone, whose server refuses it each time and grants each refresh. -/
def refusedForever : ApiCall where
  endpoint := "/budgets"
  options := { method := .get, body := none, authorization := none }
  session := { authToken := some "t", refreshPromise := none }
  arrivals i :=
    { answer := .ok (if i % 2 = 0 then unauthorizedResponse else refreshResponse)
      session := { authToken := some "t", refreshPromise := none } }

theorem refusedForever_refused (k : ℕ) : refusedForever.Refused retryConfig k := by
  refine ⟨by decide, ?_⟩
  -- from every even position on, there are as many rounds as one likes
  suffices h : ∀ i, RefusedAfterRefresh retryConfig refusedForever.arrivals k (2 * i) from h 0
  induction k with
  | zero => exact fun i ↦ .none _
  | succ k ih =>
    intro i
    have heven : (refusedForever.arrivals (2 * i)).answer = .ok unauthorizedResponse := by
      show Except.ok (if 2 * i % 2 = 0 then _ else _) = _
      rw [if_pos (by omega)]
    have hodd : (refusedForever.arrivals (2 * i + 1)).answer = .ok refreshResponse := by
      show Except.ok (if (2 * i + 1) % 2 = 0 then _ else _) = _
      rw [if_neg (by omega)]
    have hrefreshed : RefreshedBy retryConfig refusedForever.arrivals (2 * i + 1) 0
        { JsonBody.empty with token := some "t" } := by
      refine ⟨Nat.zero_le _, nofun, nofun, ?_⟩
      rw [Nat.add_zero, Arrival.result, hodd]
      rfl
    refine .own ?_ rfl ?_ hrefreshed (ih (i + 1))
    · rw [Arrival.isUnauthorized, heven]
      decide
    · show (ClientSession.getToken { authToken := some "t", refreshPromise := none }).isSome = true
      decide

/-- **A call that does not end.** A request that is refused each time, with refreshes that succeed,
ends within no number of requests. -/
theorem refusedForever_not_endsWithin :
    ¬ ∃ n, refusedForever.EndsWithin retryConfig n := by
  rintro ⟨n, hends⟩
  have hle := refused_le_of_endsWithin (refusedForever_refused (n + 1)) hends
  omega

end ApiCall

end Sumurai
