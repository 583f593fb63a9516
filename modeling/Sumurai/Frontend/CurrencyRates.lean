import Mathlib.Algebra.Order.Field.Rat
import Sumurai.Foundations.Runs

/-!
# Rates of the display currency

`CurrencyProvider` shows amounts in a currency, converted at a rate. Choosing a currency shows it at
once and begins to load its rate; when the accounts change the rate is loaded again. A reply sets
the rate whatever the currency is by then, and a failure leaves it as it was.

So the rate in use is that of the last load that succeeded (`rate_foldl`), whichever currency that
was for.

## Main result

`convertsAt_iff`: after which runs amounts are converted at a rate of the currency that is shown.
-/

namespace Sumurai.Frontend

/-! ### The provider -/

/-- `DisplayCurrency`. -/
inductive DisplayCurrency where
  | usd | eur | gbp | cad | aud | jpy | inr
deriving DecidableEq, Repr

/-- `CurrencyRateResponse`. The rate is none if it is no finite number. -/
structure CurrencyRateResponse where
  rate : Option ℚ
  date : Option String
deriving DecidableEq

/-- `getUsdRate`, unless it throws. Dollars need no reply, and a failed request has none. -/
def getUsdRate (today : String) (currency : DisplayCurrency)
    (reply : Option CurrencyRateResponse) : Option (ℚ × Option String) :=
  if currency = .usd then some (1, some today)
  else do
    let data ← reply
    let rate ← data.rate
    if rate ≤ 0 then none else some (rate, data.date)

/-- The state of `CurrencyProvider`. -/
structure CurrencyProvider where
  currency : DisplayCurrency
  rate : ℚ
  rateDate : Option String
  loading : Bool
  error : Option String
  /-- The calls of `refreshRate` that wait for their rate, by the currency they close over. -/
  inFlight : List DisplayCurrency
deriving DecidableEq

/-- What happens to it. -/
inductive CurrencyEvent where
  | setCurrency (next : DisplayCurrency)
  | accountsChanged
  /-- The reply for the `i`-th call in flight arrives. -/
  | settle (i : ℕ) (today : String) (reply : Option CurrencyRateResponse)
deriving DecidableEq

namespace CurrencyProvider

/-- `refreshRate`, up to its request. -/
def refreshRate (s : CurrencyProvider) : CurrencyProvider :=
  { s with loading := true, error := none, inFlight := s.inFlight ++ [s.currency] }

/-- The provider after its first effects, with the currency that was stored. -/
def mounted (stored : DisplayCurrency) : CurrencyProvider :=
  refreshRate
    { currency := stored, rate := 1, rateDate := none, loading := false, error := none,
      inFlight := [] }

/-- The rest of `refreshRate`, in the call that closes over `currency`. -/
def settle (s : CurrencyProvider) (currency : DisplayCurrency) (today : String)
    (reply : Option CurrencyRateResponse) : CurrencyProvider :=
  match getUsdRate today currency reply with
  | some (rate, date) => { s with rate := rate, rateDate := date, loading := false }
  | none =>
    { s with
      error := some "Could not refresh currency rate"
      rate := if currency = .usd then 1 else s.rate
      loading := false }

/-- One event. Only a new currency changes `refreshRate`, and the effect on it calls it. -/
def step (s : CurrencyProvider) : CurrencyEvent → CurrencyProvider
  | .setCurrency next =>
    if next = s.currency then s else refreshRate { s with currency := next }
  | .accountsChanged => s.refreshRate
  | .settle i today reply =>
    match s.inFlight[i]? with
    | none => s
    | some currency => { s with inFlight := s.inFlight.eraseIdx i }.settle currency today reply

/-- `convert`, of a number if it is finite. -/
def convert (s : CurrencyProvider) (value : Option ℚ) : ℚ :=
  (value.map (· * s.rate)).getD 0

/-- `format`, where `numberFormat` formats an amount in a currency. -/
def format (numberFormat : DisplayCurrency → ℚ → String) (s : CurrencyProvider)
    (value : Option ℚ) : String :=
  numberFormat s.currency (s.convert value)

/-! ### Loads that succeed -/

/-- The load that succeeds with an event: its currency and its rate. -/
def loads (s : CurrencyProvider) : CurrencyEvent → Option (DisplayCurrency × ℚ)
  | .settle i today reply => do
    let currency ← s.inFlight[i]?
    let next ← getUsdRate today currency reply
    return (currency, next.1)
  | _ => none

/-- The loads that succeed in a run. -/
def allLoads (s : CurrencyProvider) (events : List CurrencyEvent) : List (DisplayCurrency × ℚ) :=
  LabelledSystem.outputs step loads s events

/-- The rate that the provider converts at is one that was loaded for the currency shown, or `1` for
dollars. -/
def ConvertsAt (s : CurrencyProvider) (rates : List (DisplayCurrency × ℚ)) : Prop :=
  ∃ rate, ((s.currency, rate) ∈ rates ∨ s.currency = .usd ∧ rate = 1) ∧
    ∀ value : Option ℚ, s.convert value = (value.map (· * rate)).getD 0

variable {s : CurrencyProvider}

theorem convertsAt_iff_rate {rates : List (DisplayCurrency × ℚ)} :
    s.ConvertsAt rates ↔ (s.currency, s.rate) ∈ rates ∨ s.currency = .usd ∧ s.rate = 1 := by
  constructor
  · rintro ⟨rate, hrate, hconvert⟩
    have hone : 1 * s.rate = 1 * rate := hconvert (some 1)
    rw [one_mul, one_mul] at hone
    rwa [hone]
  · exact fun h ↦ ⟨s.rate, h, fun _ ↦ rfl⟩

/-- Dollars need no reply, so a load that fails leaves the rate alone. -/
theorem rate_settle (s : CurrencyProvider) (currency : DisplayCurrency) (today : String)
    (reply : Option CurrencyRateResponse) :
    (s.settle currency today reply).rate =
      ((getUsdRate today currency reply).map Prod.fst).getD s.rate := by
  rw [settle]
  cases hnext : getUsdRate today currency reply with
  | none =>
    have hcurrency : currency ≠ .usd := fun h ↦ by
      rw [getUsdRate, if_pos h] at hnext
      exact absurd hnext (by simp)
    exact if_neg hcurrency
  | some next => rfl

/-- **A step changes the rate only to one that it loads.** -/
theorem rate_step (s : CurrencyProvider) (e : CurrencyEvent) :
    (s.step e).rate = ((s.loads e).map Prod.snd).getD s.rate := by
  cases e with
  | setCurrency next =>
    rw [step]
    split <;> rfl
  | accountsChanged => rfl
  | settle i today reply =>
    rw [step, loads]
    cases s.inFlight[i]? with
    | none => rfl
    | some currency =>
      simp only [rate_settle, Option.bind_eq_bind, Option.bind_some]
      cases getUsdRate today currency reply <;> rfl

/-- **The rate in use is that of the last load that succeeded.** -/
theorem rate_foldl (s : CurrencyProvider) (events : List CurrencyEvent) :
    (events.foldl step s).rate = ((s.allLoads events).getLast?.map Prod.snd).getD s.rate :=
  LabelledSystem.observe_foldl rate_step s events

/-- **The rate of the currency.** After every run amounts are converted at a rate that was loaded
for the currency shown exactly if the last load that succeeded was for that currency, or loaded a
number that is a rate of it as well. Before the first load the rate is that of dollars. -/
theorem convertsAt_iff (stored : DisplayCurrency) (events : List CurrencyEvent) :
    let s := events.foldl step (mounted stored)
    let rates := (mounted stored).allLoads events
    s.ConvertsAt rates ↔ (rates.getLastD (.usd, 1)).1 = s.currency ∨
      (s.currency, (rates.getLastD (.usd, 1)).2) ∈ (DisplayCurrency.usd, 1) :: rates := by
  intro s rates
  have hrate : s.rate = (rates.getLastD (.usd, 1)).2 := by
    rw [List.getLastD_eq_getLast?, rate_foldl]
    show (rates.getLast?.map Prod.snd).getD 1 = _
    cases rates.getLast? <;> rfl
  rw [convertsAt_iff_rate, hrate, List.mem_cons, Prod.mk.injEq, or_comm (a := _ ∈ rates)]
  refine (or_iff_right_of_imp fun hcurrency ↦ ?_).symm
  rw [← Prod.mk.injEq, ← List.mem_cons, ← hcurrency]
  exact List.getLastD_mem_cons

end CurrencyProvider

/-- Yen and then rupees are chosen, and the reply for yen is the later one. -/
def lateYen : List CurrencyEvent :=
  [.settle 0 "2025-06-01" none, .setCurrency .jpy, .setCurrency .inr,
    .settle 1 "2025-06-01" (some ⟨some 83, none⟩), .settle 0 "2025-06-01" (some ⟨some 150, none⟩)]

/-- Amounts in rupees are converted at the rate of the yen. -/
theorem rupees_at_yen :
    let s := lateYen.foldl CurrencyProvider.step (.mounted .usd)
    s.inFlight = [] ∧ s.currency = .inr ∧ s.convert (some 2) = 300 ∧
      ¬s.ConvertsAt ((CurrencyProvider.mounted .usd).allLoads lateYen) := by
  refine ⟨rfl, rfl, by decide +kernel, ?_⟩
  rw [CurrencyProvider.convertsAt_iff_rate]
  decide +kernel

end Sumurai.Frontend
