import Sumurai.Frontend.Transactions

/-!
# Budgets in the frontend

The calculations of `domain/BudgetCalculator.ts` that go over transactions: what is spent in a
category between two days (`calculateSpent`), the state of one budget in a month or in a year
(`computeRolloverBudget`), which adds up the month, the year to date, and the months before this one
from which the budget carries over, and the state of the budgets of a major category together
(`computeCompositeMajorBudget`).

All throw on a transaction in the category whose date is none (`isoDay`). Amounts are exact.
-/

namespace Sumurai.Frontend

variable (M : CaseMapping)

/-! ### What is spent -/

/-- The first filter of `calculateSpent`: a transaction in the category, or in the subcategory of it
if there is one. -/
def isInCategory (categoryId : String) (subcategoryId : Option String) (t : Transaction) : Bool :=
  let lower s := M.lowerCase (String.toList s)
  let primary := t.category.primary
  let detailed := M.lowerCase
    ((((t.category.detailed.filter (· ≠ "")).or (t.customSubcategory.filter (· ≠ ""))).or
      t.ruleSubcategory).getD "").toList
  let primaryMatches : Bool := lower primary = lower categoryId
  let primaryFriendlyMatches : Bool :=
    lower (formatCategoryName M primary) = lower (formatCategoryName M categoryId)
  let sameMajor : Bool :=
    lower (resolveMajorCategory M primary []) = lower (resolveMajorCategory M categoryId [])
  if isSpendingExcludedCategory M primary then false
  else
    match subcategoryId.filter (· ≠ "") with
    | some targetSub =>
      (primaryMatches || primaryFriendlyMatches || sameMajor) && detailed = lower targetSub
    | none =>
      if detailed ≠ [] ∧ (detailed = lower categoryId ∨
          lower (formatCategoryName M (String.ofList detailed)) =
            lower (formatCategoryName M categoryId)) then true
      else
        let isTargetCatMajor : Bool :=
          lower (resolveMajorCategory M categoryId []) = lower categoryId
        primaryMatches || primaryFriendlyMatches || (isTargetCatMajor && sameMajor)

/-- The second filter of `calculateSpent`, unless it throws. -/
def filterDays (start stop : List Char) : List Transaction → Option (List Transaction)
  | [] => some []
  | t :: transactions => do
    let day ← isoDay t.date
    let rest ← filterDays start stop transactions
    return if isBetween start stop day then t :: rest else rest

/-- `calculateSpent`, unless it throws. -/
def calculateSpent (transactions : List Transaction) (categoryId : String)
    (start stop : List Char) (subcategoryId : Option String) : Option Decimal := do
  let inRange ← filterDays start stop
    (transactions.filter (isInCategory M categoryId subcategoryId))
  return (inRange.map (getNetSpendingAmount M)).sum

/-! ### One budget -/

/-- `MonthYearSelection`. Months count from zero, and no month is the whole year. -/
structure MonthYearSelection where
  year : ℤ
  month : Option ℕ
deriving DecidableEq, Repr

/-- `RolloverBudgetResult`. -/
structure RolloverBudgetResult where
  monthlyAmount : Decimal
  frequency : BudgetFrequency
  rollover : Bool
  periodMultiplier : ℤ
  periodAmount : Decimal
  monthSpent : Decimal
  ytdSpent : Decimal
  priorMonthsSpent : Decimal
  priorMonthsAllocated : Decimal
  priorCarryover : Decimal
  availableThisMonth : Decimal
  remainingThisMonth : Decimal
  isOverBudget : Bool
  percentageUsed : ℤ
deriving DecidableEq, Repr

/-- `parseInt(s, 10)`, unless it is `NaN`. -/
def parseInt (s : List Char) : Option ℤ :=
  let digits (s : List Char) : Option ℤ :=
    if s.takeWhile Char.isDigit = [] then none
    else some (Nat.ofDigitChars 10 (s.takeWhile Char.isDigit) 0)
  match s.dropWhile isSpace with
  | '-' :: s => (digits s).map Neg.neg
  | '+' :: s => digits s
  | s => digits s

/-- `startYear` and `startMonth`, the month that a budget carries over from; `NaN` is `none`.
`localMonth` is the year and the month that `new Date` reads from an instant in the time zone of the
browser. -/
def rolloverStart (localMonth : String → Option (ℤ × ℤ)) (budget : Budget) (year : ℤ) :
    Option ℤ × Option ℤ :=
  match budget.rolloverStartMonth.filter (· ≠ "") with
  | some start =>
    match start.toList.splitOn '-' with
    | [y, m] => (parseInt y, (parseInt m).map (· - 1))
    | _ => (some year, some 0)
  | none =>
    match (budget.createdAt.filter (· ≠ "")).bind localMonth with
    | some (y, m) => (some y, some m)
    | none => (some year, some 0)

/-- `periodMultiplier`. -/
def periodMultiplier (isFullYear : Bool) : BudgetFrequency → ℤ
  | .quarterly => if isFullYear then 4 else 3
  | .semiAnnual => if isFullYear then 2 else 6
  | .annual => if isFullYear then 1 else 12
  | .monthly => if isFullYear then 12 else 1

/-- `priorMonthsCount` and `priorMonthsSpent`, where `spent` is what is spent between two days. -/
def priorMonths (spent : List Char → List Char → Option Decimal) (period : MonthYearSelection)
    (start : Option ℤ × Option ℤ) : Option (ℤ × Decimal) :=
  match period.month with
  | none => some (0, 0)
  | some month =>
    let priorEndDate := dayTemplate period.year month (lastDayBefore period.year month)
    if start.1.any (· < period.year) then
      if 0 < month then
        (spent (dayTemplate period.year 1 1) priorEndDate).map fun spent ↦ ((month : ℤ), spent)
      else some (0, 0)
    else if start.1 = some period.year then
      match start.2.filter (· < (month : ℤ)) with
      | some startMonth =>
        (spent (dayTemplate period.year (startMonth + 1) 1) priorEndDate).map fun spent ↦
          ((month : ℤ) - startMonth, spent)
      | none => some (0, 0)
    else some (0, 0)

/-- `computeRolloverBudget`, unless it throws. -/
def computeRolloverBudget (localMonth : String → Option (ℤ × ℤ)) (budget : Budget)
    (allYtdTransactions : List Transaction) (period : MonthYearSelection)
    (selectedSubcategory : Option String) : Option RolloverBudgetResult := do
  let isFullYear := period.month.isNone
  let monthlyAmount := budget.amount
  let frequency := budget.frequency.getD .monthly
  let rollover := budget.rollover.getD false
  let periodMultiplier := periodMultiplier isFullYear frequency
  let periodAmount := monthlyAmount * periodMultiplier
  let month := period.month.getD 0
  let monthStart :=
    if isFullYear then dayTemplate period.year 1 1
    else dayTemplate period.year (month + 1) 1
  let monthEnd :=
    if isFullYear then dayTemplate period.year 12 31
    else dayTemplate period.year (month + 1) (lastDayBefore period.year (month + 1))
  let spent start stop :=
    calculateSpent M allYtdTransactions budget.category start stop selectedSubcategory
  let monthSpent ← spent monthStart monthEnd
  let ytdSpent ← spent (dayTemplate period.year 1 1) monthEnd
  let (priorMonthsCount, priorMonthsSpent) ←
    priorMonths spent period (rolloverStart localMonth budget period.year)
  let priorMonthsAllocated := priorMonthsCount * monthlyAmount
  let priorCarryover :=
    if rollover ∧ 0 < priorMonthsCount then max 0 (priorMonthsAllocated - priorMonthsSpent) else 0
  let availableThisMonth :=
    if isFullYear then if rollover then periodAmount + priorCarryover else periodAmount
    else if rollover then monthlyAmount + priorCarryover else monthlyAmount
  let remainingThisMonth := availableThisMonth - monthSpent
  return {
    monthlyAmount, frequency, rollover, periodMultiplier, periodAmount, monthSpent, ytdSpent,
    priorMonthsSpent, priorMonthsAllocated, priorCarryover, availableThisMonth,
    remainingThisMonth
    isOverBudget := remainingThisMonth < 0
    -- `Math.round` of a number of hundredths, halves up
    percentageUsed :=
      if 0 < availableThisMonth then
        (200 * monthSpent + availableThisMonth) / (2 * availableThisMonth)
      else 0 }

/-! ### The budgets of a major category -/

/-- `CompositeBudgetResult`. -/
structure CompositeBudgetResult where
  monthlyAmount : Decimal
  availableThisMonth : Decimal
  monthSpent : Decimal
  ytdSpent : Decimal
  remainingThisMonth : Decimal
  isOverBudget : Bool
  percentageUsed : ℤ
  hasRollover : Bool
  totalPriorCarryover : Decimal
  directBudgetResult : Option RolloverBudgetResult
  subcategoryResults : List (String × RolloverBudgetResult)
deriving DecidableEq, Repr

/-- `computeCompositeMajorBudget`, unless it throws. -/
def computeCompositeMajorBudget (localMonth : String → Option (ℤ × ℤ)) (majorCategory : String)
    (directBudget : Option Budget) (subcategoryBudgets : List (String × Budget))
    (allYtdTransactions : List Transaction) (period : MonthYearSelection) :
    Option CompositeBudgetResult := do
  let directBudgetResult ← directBudget.mapM fun budget ↦
    computeRolloverBudget M localMonth budget allYtdTransactions period none
  let subcategoryResults ← subcategoryBudgets.mapM fun (subcategory, budget) ↦
    (computeRolloverBudget M localMonth budget allYtdTransactions period (some subcategory)).map
      fun result ↦ (subcategory, result)
  let isFullYear := period.month.isNone
  let directMonthly := (directBudget.map (·.amount)).getD 0
  let subcategoriesMonthly := (subcategoryBudgets.map fun sb ↦ sb.2.amount).sum
  let monthlyAmount :=
    if isFullYear then (directMonthly + subcategoriesMonthly) * 12
    else directMonthly + subcategoriesMonthly
  let directAvailable := (directBudgetResult.map (·.availableThisMonth)).getD
    (if isFullYear then directMonthly * 12 else directMonthly)
  let subcategoriesAvailable := (subcategoryResults.map fun sr ↦ sr.2.availableThisMonth).sum
  let availableThisMonth := directAvailable + subcategoriesAvailable
  let totalPriorCarryover := (directBudgetResult.map (·.priorCarryover)).getD 0 +
    (subcategoryResults.map fun sr ↦ sr.2.priorCarryover).sum
  let hasRollover := directBudget.any (·.rollover.getD false) ||
    subcategoryBudgets.any fun sb ↦ sb.2.rollover.getD false
  let month := period.month.getD 0
  let monthStart :=
    if isFullYear then dayTemplate period.year 1 1
    else dayTemplate period.year (month + 1) 1
  let monthEnd :=
    if isFullYear then dayTemplate period.year 12 31
    else dayTemplate period.year (month + 1) (lastDayBefore period.year (month + 1))
  let monthSpent ← calculateSpent M allYtdTransactions majorCategory monthStart monthEnd none
  let ytdSpent ←
    calculateSpent M allYtdTransactions majorCategory (dayTemplate period.year 1 1) monthEnd none
  let remainingThisMonth := availableThisMonth - monthSpent
  return {
    monthlyAmount, availableThisMonth, monthSpent, ytdSpent, remainingThisMonth
    isOverBudget := remainingThisMonth < 0
    percentageUsed :=
      if 0 < availableThisMonth then
        (200 * monthSpent + availableThisMonth) / (2 * availableThisMonth)
      else 0
    hasRollover, totalPriorCarryover, directBudgetResult, subcategoryResults }

end Sumurai.Frontend
