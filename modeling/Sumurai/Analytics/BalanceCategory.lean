import Mathlib.Algebra.Order.Group.Unbundled.Int
import Sumurai.Models.Basic

/-!
# Balance categories

The classification of accounts that the balances overview and the net-worth series share
(`AnalyticsService::map_account_to_balance_category`), and the totals of an overview
(`models::analytics::finalize_totals`).

The sign convention is that of `signedBalance`: an asset counts as stored and a liability as minus
the absolute value of what is stored. Both endpoints apply it account by account, so that a sum of
category totals is a sum of signed balances (`CategoryTotals.net_add`).
-/

namespace Sumurai

/-- `BalanceCategory`. -/
inductive BalanceCategory where
  | cash
  | credit
  | loan
  | investments
  | property
deriving DecidableEq, Repr

/-- `str::contains` for an ASCII literal. -/
def contains (s : List Char) (word : String) : Bool :=
  word.toList <:+: s

/-- `AnalyticsService::map_account_to_balance_category`. The second round of the subtype tests
that the source repeats cannot be reached. -/
def mapAccountToBalanceCategory (accountType : String) (accountSubtype : Option String) :
    BalanceCategory :=
  let t := toLowercase accountType
  if t = "depository".toList then .cash
  else if t = "credit".toList then .credit
  else if t = "loan".toList then .loan
  else if t = "investment".toList then .investments
  else if t = "property".toList ∨ t = "real_estate".toList ∨ t = "real-estate".toList ∨
      t = "home".toList then .property
  else
    match accountSubtype with
    | none => .investments
    | some subtype =>
      let st := toLowercase subtype
      if contains st "credit" then .credit
      else if contains st "loan" then .loan
      else if contains st "checking" ∨ contains st "savings" then .cash
      else if contains st "property" ∨ contains st "real estate" ∨ contains st "home" then
        .property
      else .investments

/-- A balance as it counts towards the net worth: a liability is negative whatever sign it is
stored with. -/
def BalanceCategory.signedBalance (c : BalanceCategory) (balance : Decimal) : Decimal :=
  match c with
  | .cash | .investments | .property => balance
  | .credit | .loan => -|balance|

/-! ### Totals -/

/-- The five running sums of `get_authenticated_balances_overview`. -/
structure CategoryTotals where
  cash : Decimal
  credit : Decimal
  loan : Decimal
  investments : Decimal
  property : Decimal
deriving DecidableEq, Repr

namespace CategoryTotals

/-- The sums before any account is counted. -/
def zero : CategoryTotals where
  cash := 0
  credit := 0
  loan := 0
  investments := 0
  property := 0

/-- Count one account. -/
def add (s : CategoryTotals) (c : BalanceCategory) (balance : Decimal) : CategoryTotals :=
  match c with
  | .cash => { s with cash := s.cash + balance }
  | .investments => { s with investments := s.investments + balance }
  | .property => { s with property := s.property + balance }
  | .credit => { s with credit := s.credit + -|balance| }
  | .loan => { s with loan := s.loan + -|balance| }

/-- Add one bank's sums to the overall ones. -/
def plus (s t : CategoryTotals) : CategoryTotals where
  cash := s.cash + t.cash
  credit := s.credit + t.credit
  loan := s.loan + t.loan
  investments := s.investments + t.investments
  property := s.property + t.property

/-- Assets plus (negative) liabilities. -/
def net (s : CategoryTotals) : Decimal :=
  (s.cash + s.investments + s.property) + (s.credit + s.loan)

@[simp]
theorem net_zero : zero.net = 0 :=
  rfl

/-- Counting an account adds its signed balance to the net. -/
theorem net_add (s : CategoryTotals) (c : BalanceCategory) (balance : Decimal) :
    (s.add c balance).net = s.net + c.signedBalance balance := by
  cases c <;> simp only [net, add, BalanceCategory.signedBalance] <;> lia

theorem net_plus (s t : CategoryTotals) : (s.plus t).net = s.net + t.net := by
  simp only [net, plus]
  lia

/-- Counting a list of accounts adds up their signed balances. -/
theorem net_foldl_add {α : Type*} (category : α → BalanceCategory) (balance : α → Decimal)
    (l : List α) (s : CategoryTotals) :
    (l.foldl (fun s a ↦ s.add (category a) (balance a)) s).net =
      s.net + (l.map fun a ↦ (category a).signedBalance (balance a)).sum := by
  induction l generalizing s with
  | nil => simp
  | cons a l ih => rw [List.foldl_cons, ih, net_add, List.map_cons, List.sum_cons, add_assoc]

end CategoryTotals

/-- `Totals`. -/
structure Totals where
  cash : Decimal
  credit : Decimal
  loan : Decimal
  investments : Decimal
  property : Decimal
  positivesTotal : Decimal
  negativesTotal : Decimal
  net : Decimal
  ratio : Option Decimal
deriving DecidableEq, Repr

/-- `round_dp(2)` of the quotient of two amounts, as a number of hundredths: to the nearest, and
to the even one when two are equally near. -/
def round2Quotient (n d : ℤ) : ℤ :=
  let q := 100 * n / d
  let r := 100 * n % d
  if 2 * r < d then q else if d < 2 * r then q + 1 else if q % 2 = 0 then q else q + 1

/-- `models::analytics::finalize_totals`. A sum of two-decimal amounts has two decimals, so
`round2` changes none of the sums and shows only in the ratio. -/
def finalizeTotals (s : CategoryTotals) : Totals :=
  let positives := s.cash + s.investments + s.property
  let negatives := s.credit + s.loan
  { cash := s.cash
    credit := s.credit
    loan := s.loan
    investments := s.investments
    property := s.property
    positivesTotal := positives
    negativesTotal := negatives
    net := positives + negatives
    -- `Decimal::ONE` is 100 cents
    ratio :=
      if negatives = 0 then none else some (round2Quotient positives (max (-negatives) 100)) }

theorem finalizeTotals_net (s : CategoryTotals) : (finalizeTotals s).net = s.net :=
  rfl

end Sumurai
