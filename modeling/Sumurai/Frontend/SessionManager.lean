import Sumurai.Foundations.Runs
import Sumurai.Frontend.RequestBounds

/-!
# The warning before a session ends

`SessionManager` (`SessionManager.tsx`) looks at the token in the storage every second. When it has
expired, the storage is cleared and the user is logged out. In its last two minutes a warning is
shown, which counts down seconds of its own by timers and logs the user out at zero.

The countdown and the token are two clocks. As long as nobody else stores a token under the warning,
the countdown is never ahead: what it logs out has expired (`countdown_expired`). Under a token that
another part of the application stores, which is what a refused request does after a refresh, the
warning stays and counts on, and at zero it clears a token that may be good for hours
(`countdown_unstoppable`).

The events are what the browser calls back for, in any order: time passes, the interval or the timer
fires, buttons are pressed, refreshes end, and other code changes the storage. A timer fires no
earlier than asked for.
-/

open LabelledSystem

namespace Sumurai.Frontend

/-! ### Tokens -/

/-- `SESSION_WARNING_THRESHOLD`, in seconds. -/
def sessionWarningThreshold : ℕ := 120

/-- `SESSION_CHECK_INTERVAL`, in milliseconds. -/
def sessionCheckInterval : ℕ := 1000

section Tokens

/- `parseJWT(token)?.exp`. -/
variable (parseExp : String → Option ℕ)

/-- `getTokenExpiryTime`, where a missing time and zero are the same. -/
def getTokenExpiryTime (token : String) : Option ℕ :=
  (parseExp token).filter (· ≠ 0)

/-- `isTokenExpired`, at a time in milliseconds. -/
def isTokenExpired (now : ℕ) (token : String) : Bool :=
  match getTokenExpiryTime parseExp token with
  | none => true
  | some expiry => expiry ≤ now / 1000

/-- `getTimeUntilExpiry`, in seconds. -/
def getTimeUntilExpiry (now : ℕ) (token : String) : ℕ :=
  match getTokenExpiryTime parseExp token with
  | none => 0
  | some expiry => expiry - now / 1000

end Tokens

/-! ### The page -/

/-- Why the user is logged out. -/
inductive LogoutCause where
  /-- There is no token in the storage. -/
  | missing
  /-- The token in the storage has expired. -/
  | expired
  /-- The countdown is at zero. -/
  | countdown
  /-- The refresh that the user asked for has failed. -/
  | refused
  /-- The user has asked for it. -/
  | asked
deriving DecidableEq, Repr

/-- A call of `onLogout`, with the token that the storage had before it was cleared. -/
structure LogoutCall where
  now : ℕ
  cause : LogoutCause
  authToken : Option String
deriving DecidableEq, Repr

/-- The page under `SessionManager`. -/
structure SessionPage where
  /-- `Date.now()`. -/
  now : ℕ
  /-- `auth_token` in the storage. -/
  authToken : Option String
  showExpiryModal : Bool
  timeRemaining : ℕ
  /-- When the timer of the countdown is due, if one is set. -/
  timer : Option ℕ
  /-- The refreshes that have been asked for and have not ended. -/
  refreshes : ℕ
  logouts : List LogoutCall
deriving DecidableEq, Repr

/-- What happens to the page. -/
inductive SessionEvent where
  | elapse (milliseconds : ℕ)
  /-- The interval fires. -/
  | check
  /-- The timer fires. -/
  | timeout
  | stayLoggedIn
  /-- A refresh ends, with a token or without. -/
  | refreshed (token : Option String)
  /-- The button, or the closing of the dialog. -/
  | logoutNow
  /-- Other code stores a token. -/
  | stored (token : String)
  /-- Other code removes the token. -/
  | removed
deriving DecidableEq, Repr

namespace SessionPage

/-- `onLogout()`, after the storage has been cleared. -/
def logout (cause : LogoutCause) (s : SessionPage) : SessionPage :=
  { s with
    authToken := none
    logouts := s.logouts ++ [{ now := s.now, cause := cause, authToken := s.authToken }] }

section Events

variable (parseExp : String → Option ℕ)

/-- `checkSessionExpiry`. An empty token is none. -/
def checkSessionExpiry (s : SessionPage) : SessionPage :=
  match s.authToken.filter (· ≠ "") with
  | none =>
    { s with
      logouts := s.logouts ++ [{ now := s.now, cause := .missing, authToken := s.authToken }] }
  | some token =>
    if isTokenExpired parseExp s.now token then s.logout .expired
    else
      let timeUntilExpiry := getTimeUntilExpiry parseExp s.now token
      if timeUntilExpiry ≤ sessionWarningThreshold ∧ 0 < timeUntilExpiry then
        { s with timeRemaining := timeUntilExpiry, showExpiryModal := true }
      else s

/-- The callback of the timer. -/
def countDown (s : SessionPage) : SessionPage :=
  let newTime := s.timeRemaining - 1
  if newTime ≤ 0 then { s.logout .countdown with timeRemaining := 0, timer := none }
  else { s with timeRemaining := newTime, timer := none }

/-- What an event does, up to the next rendering. A timer that is not due does not fire, and the
dialog is not there when it is not shown. -/
def handle (s : SessionPage) : SessionEvent → SessionPage
  | .elapse milliseconds => { s with now := s.now + milliseconds }
  | .check => s.checkSessionExpiry parseExp
  | .timeout => if s.timer.any (· ≤ s.now) then s.countDown else s
  | .stayLoggedIn => if s.showExpiryModal then { s with refreshes := s.refreshes + 1 } else s
  | .refreshed token =>
    if s.refreshes = 0 then s
    else
      let s := { s with refreshes := s.refreshes - 1, showExpiryModal := false }
      match token.filter (· ≠ "") with
      | some token => { s with authToken := some token, timeRemaining := 0 }
      | none => s.logout .refused
  | .logoutNow =>
    if s.showExpiryModal then { s.logout .asked with showExpiryModal := false } else s
  | .stored token => { s with authToken := some token }
  | .removed => { s with authToken := none }

/-- The effect of the countdown, which is run when what it depends on has changed: the timer that
was set is cleared, and set anew while the dialog is shown and there is time. -/
def runEffect (before after : SessionPage) : SessionPage :=
  if after.timeRemaining = before.timeRemaining ∧
      after.showExpiryModal = before.showExpiryModal then
    after
  else
    { after with
      timer := if after.showExpiryModal ∧ 0 < after.timeRemaining then
        some (after.now + sessionCheckInterval) else none }

/-- An event, with the rendering and the effects after it. -/
def step (s : SessionPage) (event : SessionEvent) : SessionPage :=
  runEffect s (s.handle parseExp event)

/-- The page when it is mounted, which checks the session at once. -/
def mount (now : ℕ) (authToken : Option String) : SessionPage :=
  step parseExp
    { now := now
      authToken := authToken
      showExpiryModal := false
      timeRemaining := 0
      timer := none
      refreshes := 0
      logouts := [] } .check

end Events

/-- Two tokens, of which the second is good for an hour longer. -/
def twoTokens (token : String) : Option ℕ :=
  if token = "second" then some 4600 else some 1000

/-! ### The countdown and the token -/

section Countdown

variable (parseExp : String → Option ℕ)

/-- No token is stored by other code while the warning is shown. -/
def Undisturbed (s : SessionPage) (event : SessionEvent) : Prop :=
  ∀ token, event = .stored token → s.showExpiryModal = false

/-- The countdown is not ahead of the token: when the timer has fired as often as there are seconds
left on the display, the token has expired. -/
structure Counts (s : SessionPage) : Prop where
  shown : ∀ due, s.timer = some due → s.showExpiryModal = true ∧ 0 < s.timeRemaining
  behind : ∀ due token expiry, s.timer = some due → s.authToken = some token →
    getTokenExpiryTime parseExp token = some expiry →
      1000 * expiry + 1000 ≤ due + 1000 * s.timeRemaining
  logouts : ∀ l ∈ s.logouts, l.cause = .countdown → ∀ token, l.authToken = some token →
    isTokenExpired parseExp l.now token = true

variable {parseExp} {s : SessionPage}

/-- An event that does not touch the display leaves the timer alone. -/
theorem runEffect_same {before after : SessionPage}
    (htime : after.timeRemaining = before.timeRemaining)
    (hshown : after.showExpiryModal = before.showExpiryModal) : runEffect before after = after :=
  if_pos ⟨htime, hshown⟩

theorem Counts.same {before after : SessionPage} (h : Counts parseExp after)
    (htime : after.timeRemaining = before.timeRemaining)
    (hshown : after.showExpiryModal = before.showExpiryModal) :
    Counts parseExp (runEffect before after) := by
  rwa [runEffect_same htime hshown]

/-- An event that closes the dialog, or leaves no time, also clears the timer. -/
theorem Counts.closed {before after : SessionPage}
    (hold : after.timeRemaining = before.timeRemaining →
      after.showExpiryModal = before.showExpiryModal → Counts parseExp after)
    (hclosed : ¬(after.showExpiryModal = true ∧ 0 < after.timeRemaining))
    (hlogouts : ∀ l ∈ after.logouts, l.cause = .countdown → ∀ token, l.authToken = some token →
      isTokenExpired parseExp l.now token = true) : Counts parseExp (runEffect before after) := by
  unfold runEffect
  by_cases hsame : after.timeRemaining = before.timeRemaining ∧
      after.showExpiryModal = before.showExpiryModal
  · rw [if_pos hsame]
    exact hold hsame.1 hsame.2
  · rw [if_neg hsame, if_neg hclosed]
    exact ⟨fun _ hdue ↦ (by cases hdue), fun _ _ _ hdue ↦ (by cases hdue), hlogouts⟩

/-- An event that sets the time leaves the countdown behind the token if the time is. -/
theorem Counts.opened {before after : SessionPage}
    (hold : after.timeRemaining = before.timeRemaining →
      after.showExpiryModal = before.showExpiryModal → Counts parseExp after)
    (htime : ∀ token expiry, after.authToken = some token →
      getTokenExpiryTime parseExp token = some expiry →
        1000 * expiry ≤ after.now + 1000 * after.timeRemaining)
    (hopen : after.showExpiryModal = true ∧ 0 < after.timeRemaining)
    (hlogouts : ∀ l ∈ after.logouts, l.cause = .countdown → ∀ token, l.authToken = some token →
      isTokenExpired parseExp l.now token = true) : Counts parseExp (runEffect before after) := by
  unfold runEffect
  by_cases hsame : after.timeRemaining = before.timeRemaining ∧
      after.showExpiryModal = before.showExpiryModal
  · rw [if_pos hsame]
    exact hold hsame.1 hsame.2
  · rw [if_neg hsame, if_pos hopen]
    refine ⟨fun _ _ ↦ hopen, fun due token expiry hdue htoken hexpiry ↦ ?_, hlogouts⟩
    obtain rfl := Option.some.inj hdue
    have := htime token expiry htoken hexpiry
    simp only [sessionCheckInterval]
    omega

theorem isTokenExpired_eq {now expiry : ℕ} {token : String}
    (h : getTokenExpiryTime parseExp token = some expiry) :
    isTokenExpired parseExp now token = decide (expiry ≤ now / 1000) := by
  rw [isTokenExpired, h]

theorem getTimeUntilExpiry_eq {now expiry : ℕ} {token : String}
    (h : getTokenExpiryTime parseExp token = some expiry) :
    getTimeUntilExpiry parseExp now token = expiry - now / 1000 := by
  rw [getTimeUntilExpiry, h]

/-- The log after a logout of another cause than the countdown. -/
theorem logouts_append {calls : List LogoutCall} (call : LogoutCall)
    (h : ∀ l ∈ calls, l.cause = .countdown → ∀ token, l.authToken = some token →
      isTokenExpired parseExp l.now token = true)
    (hcall : call.cause = .countdown → ∀ token, call.authToken = some token →
      isTokenExpired parseExp call.now token = true) :
    ∀ l ∈ calls ++ [call], l.cause = .countdown → ∀ token, l.authToken = some token →
      isTokenExpired parseExp l.now token = true := by
  intro l hl
  obtain hl | hl := List.mem_append.1 hl
  · exact h l hl
  · rw [List.mem_singleton.1 hl]
    exact hcall

/-- Clearing the storage leaves nothing to be ahead of. -/
theorem Counts.logout (h : Counts parseExp s) {cause : LogoutCause} (hcause : cause ≠ .countdown) :
    Counts parseExp (s.logout cause) :=
  ⟨h.shown, fun _ _ _ _ htoken ↦ (by cases htoken),
    logouts_append _ h.logouts fun heq ↦ absurd heq hcause⟩

/-- Without a dialog there is no timer, and the token does not matter. -/
theorem Counts.of_closed (h : Counts parseExp s) {after : SessionPage}
    (hclosed : s.showExpiryModal = false) (htimer : after.timer = s.timer)
    (hlogouts : ∀ l ∈ after.logouts, l.cause = .countdown → ∀ token, l.authToken = some token →
      isTokenExpired parseExp l.now token = true) : Counts parseExp after := by
  have hnone : ∀ due, after.timer ≠ some due := fun due hdue ↦ by
    have hshown := (h.shown due (htimer ▸ hdue)).1
    rw [hclosed] at hshown
    cases hshown
  exact ⟨fun due hdue ↦ absurd hdue (hnone due), fun due _ _ hdue ↦ absurd hdue (hnone due),
    hlogouts⟩

theorem Counts.check (h : Counts parseExp s) :
    Counts parseExp (runEffect s (s.checkSessionExpiry parseExp)) := by
  unfold checkSessionExpiry
  split
  · refine Counts.same ?_ rfl rfl
    exact ⟨h.shown, h.behind, logouts_append _ h.logouts fun heq ↦ (by cases heq)⟩
  · rename_i token hstored
    have htoken : s.authToken = some token := (Option.filter_eq_some_iff.1 hstored).1
    split
    · exact (h.logout (by decide)).same rfl rfl
    · simp only
      split
      · -- the display is set to the time that the token has left
        rename_i hwarn
        refine Counts.opened (fun htime hshown ↦ ?_) (fun other expiry hother hexpiry ↦ ?_)
          ⟨rfl, hwarn.2⟩ h.logouts
        · exact ⟨fun due hdue ↦ ⟨rfl, hwarn.2⟩, fun due other expiry hdue hother hexpiry ↦
            htime ▸ h.behind due other expiry hdue hother hexpiry, h.logouts⟩
        · obtain rfl := Option.some.inj (htoken.symm.trans hother)
          have hleft := hwarn.2
          rw [getTimeUntilExpiry_eq hexpiry] at hleft ⊢
          simp only
          omega
      · exact h.same rfl rfl

/-- Where the timer has fired, it was due. -/
theorem Counts.countDown (h : Counts parseExp s) {due : ℕ} (htimer : s.timer = some due)
    (hdue : due ≤ s.now) : Counts parseExp (runEffect s s.countDown) := by
  obtain ⟨hshown, hleft⟩ := h.shown due htimer
  unfold SessionPage.countDown
  simp only
  split
  · -- at zero, the token has expired
    rename_i hzero
    have hlogouts : ∀ l ∈ s.logouts ++ [⟨s.now, .countdown, s.authToken⟩],
        l.cause = .countdown → ∀ token, l.authToken = some token →
          isTokenExpired parseExp l.now token = true := by
      refine logouts_append _ h.logouts fun _ token htoken ↦ ?_
      simp only at htoken ⊢
      cases hexpiry : getTokenExpiryTime parseExp token with
      | none => rw [isTokenExpired, hexpiry]
      | some expiry =>
        have := h.behind due token expiry htimer htoken hexpiry
        rw [isTokenExpired_eq hexpiry, decide_eq_true_eq]
        omega
    refine Counts.closed (fun htime _ ↦ ?_) (fun hopen ↦ absurd hopen.2 (Nat.lt_irrefl 0)) hlogouts
    simp only at htime
    omega
  · rename_i hpositive
    refine Counts.opened (fun htime _ ↦ ?_) (fun token expiry htoken hexpiry ↦ ?_)
      ⟨hshown, Nat.not_le.1 hpositive⟩ h.logouts
    · simp only at htime
      omega
    · have := h.behind due token expiry htimer htoken hexpiry
      simp only
      omega

/-- **Every event keeps the countdown behind the token**, unless it stores one under the warning. -/
theorem Counts.step (h : Counts parseExp s) {event : SessionEvent} (hquiet : Undisturbed s event) :
    Counts parseExp (s.step parseExp event) := by
  unfold SessionPage.step
  cases event with
  | elapse milliseconds =>
    exact Counts.same ⟨h.shown, h.behind, h.logouts⟩ rfl rfl
  | check => exact h.check
  | timeout =>
    simp only [handle]
    split
    · rename_i hfires
      obtain ⟨due, htimer, hdue⟩ := (Option.any_eq_true _ _).1 hfires
      exact h.countDown htimer (of_decide_eq_true hdue)
    · exact h.same rfl rfl
  | stayLoggedIn =>
    simp only [handle]
    split
    · exact Counts.same ⟨h.shown, h.behind, h.logouts⟩ rfl rfl
    · exact h.same rfl rfl
  | refreshed token =>
    simp only [handle]
    split
    · exact h.same rfl rfl
    · split
      · exact Counts.closed (fun _ hshown ↦ h.of_closed hshown.symm rfl h.logouts)
          (fun hopen ↦ by cases hopen.1) h.logouts
      · have hlogouts := logouts_append ⟨s.now, .refused, s.authToken⟩ h.logouts
          fun heq ↦ (by cases heq)
        exact Counts.closed (fun _ hshown ↦ h.of_closed hshown.symm rfl hlogouts)
          (fun hopen ↦ by cases hopen.1) hlogouts
  | logoutNow =>
    simp only [handle]
    split
    · have hlogouts := logouts_append ⟨s.now, .asked, s.authToken⟩ h.logouts
        fun heq ↦ (by cases heq)
      exact Counts.closed (fun _ hshown ↦ h.of_closed hshown.symm rfl hlogouts)
        (fun hopen ↦ by cases hopen.1) hlogouts
    · exact h.same rfl rfl
  | stored token =>
    have hclosed := hquiet token rfl
    refine Counts.same ⟨h.shown, fun due _ _ hdue ↦ ?_, h.logouts⟩ rfl rfl
    rw [(h.shown due hdue).1] at hclosed
    cases hclosed
  | removed =>
    exact Counts.same ⟨h.shown, fun _ _ _ _ htoken ↦ (by cases htoken), h.logouts⟩ rfl rfl

/-- The page starts behind the token. -/
theorem counts_mount (now : ℕ) (authToken : Option String) :
    Counts parseExp (mount parseExp now authToken) :=
  Counts.check ⟨fun _ hdue ↦ (by cases hdue), fun _ _ _ hdue ↦ (by cases hdue),
    fun _ hl ↦ absurd hl List.not_mem_nil⟩

end Countdown

/-! ### A token stored under the warning -/

section Unstoppable

variable (parseExp : String → Option ℕ)

/-- The user does nothing, nobody removes the token, and a check finds one that is good for more
than the time of the warning. -/
def Quiet (s : SessionPage) : SessionEvent → Prop
  | .elapse _ | .timeout | .stored _ => True
  | .check => ∃ token, s.authToken = some token ∧ token ≠ "" ∧
    sessionWarningThreshold < getTimeUntilExpiry parseExp s.now token
  | .stayLoggedIn | .refreshed _ | .logoutNow | .removed => False

/-- What the storage has when the timer fires. -/
def tick (s : SessionPage) : SessionEvent → Option (Option String)
  | .timeout => if s.timer.any (· ≤ s.now) then some s.authToken else none
  | _ => none

variable {parseExp} {s : SessionPage} {event : SessionEvent}

/-- A token that has not expired has time left, and one with time left has not expired. -/
theorem checkSessionExpiry_good {token : String} (htoken : s.authToken = some token)
    (hnonempty : token ≠ "")
    (hleft : sessionWarningThreshold < getTimeUntilExpiry parseExp s.now token) :
    s.checkSessionExpiry parseExp = s := by
  have hstored : s.authToken.filter (· ≠ "") = some token := by
    rw [htoken]
    exact if_pos (decide_eq_true hnonempty)
  have hlive : isTokenExpired parseExp s.now token = false := by
    unfold getTimeUntilExpiry at hleft
    unfold isTokenExpired
    cases hexpiry : getTokenExpiryTime parseExp token with
    | none => rw [hexpiry] at hleft; exact absurd hleft (Nat.not_lt_zero _)
    | some expiry =>
      rw [hexpiry] at hleft
      simp only [decide_eq_false_iff_not] at hleft ⊢
      omega
  rw [checkSessionExpiry, hstored]
  simp only [hlive]
  rw [if_neg Bool.false_ne_true, if_neg (by omega)]

/-- A quiet event at which the timer does not fire leaves the warning as it is. -/
theorem step_quiet (hquiet : Quiet parseExp s event) (htick : tick s event = none) :
    (s.step parseExp event).showExpiryModal = s.showExpiryModal ∧
      (s.step parseExp event).timeRemaining = s.timeRemaining ∧
      (s.step parseExp event).timer = s.timer ∧
      (s.step parseExp event).logouts = s.logouts := by
  cases event with
  | elapse _ | stored _ =>
    rw [step, runEffect_same (by rfl) (by rfl)]
    exact ⟨rfl, rfl, rfl, rfl⟩
  | check =>
    obtain ⟨token, htoken, hnonempty, hleft⟩ := hquiet
    have hsame : s.handle parseExp .check = s := checkSessionExpiry_good htoken hnonempty hleft
    rw [step, hsame, runEffect_same rfl rfl]
    exact ⟨rfl, rfl, rfl, rfl⟩
  | timeout =>
    have hsame : s.handle parseExp .timeout = s := by
      simp only [tick, ite_eq_right_iff, reduceCtorEq, imp_false] at htick
      exact if_neg htick
    rw [step, hsame, runEffect_same rfl rfl]
    exact ⟨rfl, rfl, rfl, rfl⟩
  | stayLoggedIn | refreshed _ | logoutNow | removed => exact hquiet.elim

/-- When the timer fires, the display counts down by one and the timer is set anew, or the display
is at zero and the user is logged out with the token that the storage has. -/
theorem step_tick {authToken : Option String} (hshown : s.showExpiryModal = true)
    (htick : tick s event = some authToken) :
    (1 < s.timeRemaining → (s.step parseExp event).showExpiryModal = true ∧
      (s.step parseExp event).timeRemaining = s.timeRemaining - 1 ∧
      (s.step parseExp event).timer ≠ none ∧ (s.step parseExp event).logouts = s.logouts) ∧
    (s.timeRemaining = 1 → (s.step parseExp event).timer = none ∧
      (s.step parseExp event).logouts = s.logouts ++ [⟨s.now, .countdown, authToken⟩]) := by
  cases event with
  | timeout =>
    simp only [tick, Option.ite_none_right_eq_some, Option.some.injEq] at htick
    obtain ⟨hfires, rfl⟩ := htick
    have hhandle : s.handle parseExp .timeout = s.countDown := if_pos hfires
    constructor
    · intro hleft
      have hcount : s.countDown = { s with timeRemaining := s.timeRemaining - 1, timer := none } :=
        if_neg (by omega)
      have hchanged : s.timeRemaining - 1 ≠ s.timeRemaining := by omega
      have hgoing : 0 < s.timeRemaining - 1 := by omega
      rw [step, hhandle, hcount, runEffect, if_neg fun h ↦ hchanged h.1, if_pos ⟨hshown, hgoing⟩]
      exact ⟨hshown, rfl, by simp, rfl⟩
    · intro hlast
      have hcount : s.countDown =
          { s.logout .countdown with timeRemaining := 0, timer := none } :=
        if_pos (by omega)
      have hchanged : 0 ≠ s.timeRemaining := by omega
      rw [step, hhandle, hcount, runEffect, if_neg fun h ↦ hchanged h.1,
        if_neg fun h ↦ Nat.lt_irrefl 0 h.2]
      exact ⟨rfl, rfl⟩
  | elapse _ | check | stayLoggedIn | refreshed _ | logoutNow | stored _ | removed => cases htick

/-- Without a timer nothing counts. -/
theorem run_stopped {events : List SessionEvent} (htimer : s.timer = none)
    (hquiet : Guarded (step parseExp) (Quiet parseExp) s events) :
    outputs (step parseExp) tick s events = [] ∧
      (events.foldl (step parseExp) s).logouts = s.logouts := by
  induction events generalizing s with
  | nil => exact ⟨rfl, rfl⟩
  | cons event events ih =>
    have htick : tick s event = none := by
      unfold tick
      split
      · rw [htimer]
        rfl
      · rfl
    obtain ⟨-, -, hsame, hlogouts⟩ := step_quiet hquiet.1 htick
    obtain ⟨hticks, hlater⟩ := ih (hsame.trans htimer) hquiet.2
    rw [outputs, htick, hticks]
    exact ⟨rfl, hlater.trans hlogouts⟩

/-- **The countdown cannot be stopped by a token**: once the warning is shown, whatever tokens are
stored, it counts with every timer, and the one that takes it to zero logs the user out with the
token that the storage has then. -/
theorem countdown_unstoppable {events : List SessionEvent} (hshown : s.showExpiryModal = true)
    (hleft : 0 < s.timeRemaining) (htimer : s.timer ≠ none)
    (hquiet : Guarded (step parseExp) (Quiet parseExp) s events) :
    let ticks := outputs (step parseExp) tick s events
    let after := events.foldl (step parseExp) s
    (ticks.length < s.timeRemaining → after.showExpiryModal = true ∧
      after.timeRemaining = s.timeRemaining - ticks.length ∧ after.timer ≠ none ∧
      after.logouts = s.logouts) ∧
    (s.timeRemaining ≤ ticks.length → ∃ call, after.logouts = s.logouts ++ [call] ∧
      call.cause = .countdown ∧ ticks[s.timeRemaining - 1]? = some call.authToken) := by
  induction events generalizing s with
  | nil => exact ⟨fun _ ↦ ⟨hshown, rfl, htimer, rfl⟩, fun h ↦ absurd h (Nat.not_le.2 hleft)⟩
  | cons event events ih =>
    simp only [outputs, List.foldl_cons]
    rcases htick : tick s event with - | authToken
    · obtain ⟨hshown', htime', htimer', hlogouts'⟩ := step_quiet hquiet.1 htick
      have hrest := ih (hshown'.trans hshown) (by rwa [htime']) (by rwa [htimer']) hquiet.2
      rwa [htime', hlogouts'] at hrest
    · rw [Option.toList_some, List.singleton_append, List.length_cons]
      obtain ⟨hcount, hlast⟩ := @step_tick parseExp s event authToken hshown htick
      obtain hone | hmore := Nat.eq_or_lt_of_le (Nat.one_le_iff_ne_zero.2 hleft.ne')
      · -- the last tick, after which there is no timer
        obtain ⟨hstopped, hlogouts⟩ := hlast hone.symm
        obtain ⟨hticks, hlater⟩ := run_stopped hstopped hquiet.2
        rw [hticks, hlater, hlogouts, ← hone]
        exact ⟨fun h ↦ absurd h (by simp), fun _ ↦ ⟨_, rfl, rfl, rfl⟩⟩
      · obtain ⟨hshown', htime', htimer', hlogouts'⟩ := hcount hmore
        obtain ⟨hgoing, hdone⟩ := ih hshown' (by rw [htime']; omega) htimer' hquiet.2
        rw [htime', hlogouts'] at hgoing hdone
        constructor
        · intro h
          obtain ⟨hshown'', htime'', hrest⟩ := hgoing (by omega)
          exact ⟨hshown'', by rw [htime'']; omega, hrest⟩
        · intro h
          obtain ⟨call, hlogouts'', hcause, htoken⟩ := hdone (by omega)
          refine ⟨call, hlogouts'', hcause, ?_⟩
          obtain ⟨k, hk⟩ : ∃ k, s.timeRemaining - 1 = k + 1 := ⟨s.timeRemaining - 2, by omega⟩
          rw [hk, List.getElem?_cons_succ]
          rwa [hk, Nat.add_sub_cancel] at htoken

/-- A refused request stores a token that is good for an hour, and two seconds later the countdown
clears it. -/
theorem countdown_unstoppable_refreshedElsewhere :
    let page := mount twoTokens 998000 (some "first")
    let events := [.stored "second", .elapse 1000, .check, .timeout, .elapse 1000, .timeout]
    isTokenExpired twoTokens 1000000 "second" = false ∧
      ∃ call, (events.foldl (step twoTokens) page).logouts = page.logouts ++ [call] ∧
        call.cause = .countdown ∧ some (some "second") = some call.authToken :=
  ⟨by decide, (@countdown_unstoppable twoTokens (mount twoTokens 998000 (some "first"))
    [.stored "second", .elapse 1000, .check, .timeout, .elapse 1000, .timeout]
    (by decide) (by decide) (by decide)
    ⟨trivial, trivial, ⟨"second", by decide, by decide, by decide⟩, trivial, trivial, trivial,
      trivial⟩).2 (by decide)⟩

end Unstoppable

end SessionPage

end Sumurai.Frontend
