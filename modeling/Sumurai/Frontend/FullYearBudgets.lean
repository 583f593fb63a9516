import Mathlib.Algebra.BigOperators.Ring.List
import Sumurai.Frontend.RolloverWindows

/-!
# Budgets of a whole year

A budget is entered with an amount and a frequency. In the view of one month the amount itself is
what is available, whatever the frequency; in the view of the year it is multiplied by the number of
its periods in the year (`periodMultiplier`), and in the view of the year of a major category the
amounts of all its budgets are multiplied by twelve. The three agree on monthly budgets only.

No view is shown if a transaction in the category is dated with no day, and then none of the others
is (`computeRolloverBudget_isSome_iff`): the same transactions are read for every period.

## Main result

`fullYear_iff`: for which budgets the year has what its twelve months have, and for which composites
the year's budget is what is available in it.
-/

namespace Sumurai.Frontend

variable (M : CaseMapping) (localMonth : String → Option (ℤ × ℤ))

/-! ### When there is a result -/

theorem filterDays_isSome_iff (start stop : List Char) (transactions : List Transaction) :
    (filterDays start stop transactions).isSome ↔ ∀ t ∈ transactions, (isoDay t.date).isSome := by
  induction transactions with
  | nil => simp [filterDays]
  | cons t transactions ih =>
    rw [List.forall_mem_cons, ← ih, filterDays]
    cases isoDay t.date <;> cases filterDays start stop transactions <;> simp

theorem calculateSpent_isSome_iff (transactions : List Transaction) (categoryId : String)
    (start stop : List Char) (subcategoryId : Option String) :
    (calculateSpent M transactions categoryId start stop subcategoryId).isSome ↔
      ∀ t ∈ transactions, isInCategory M categoryId subcategoryId t →
        (isoDay t.date).isSome := by
  have hfilter := filterDays_isSome_iff start stop
    (transactions.filter (isInCategory M categoryId subcategoryId))
  simp only [List.mem_filter, and_imp] at hfilter
  rw [← hfilter, calculateSpent]
  cases filterDays start stop (transactions.filter (isInCategory M categoryId subcategoryId)) <;>
    simp

theorem priorMonths_isSome {spent : List Char → List Char → Option Decimal}
    (hspent : ∀ start stop, (spent start stop).isSome) (period : MonthYearSelection)
    (start : Option ℤ × Option ℤ) : (priorMonths spent period start).isSome := by
  rw [priorMonths]
  split
  · rfl
  · simp only
    split_ifs
    · rw [Option.isSome_map]
      exact hspent _ _
    · rfl
    · split
      · rw [Option.isSome_map]
        exact hspent _ _
      · rfl
    · rfl

/-- There is a result unless a transaction in the category has no day, whatever the period. -/
theorem computeRolloverBudget_isSome_iff (budget : Budget) (transactions : List Transaction)
    (period : MonthYearSelection) (subcategory : Option String) :
    (computeRolloverBudget M localMonth budget transactions period subcategory).isSome ↔
      ∀ t ∈ transactions, isInCategory M budget.category subcategory t →
        (isoDay t.date).isSome := by
  constructor
  · intro h
    obtain ⟨result, hresult⟩ := Option.isSome_iff_exists.1 h
    obtain ⟨monthSpent, hmonthSpent, -⟩ := Option.bind_eq_some_iff.1 hresult
    exact (calculateSpent_isSome_iff M transactions budget.category _ _ subcategory).1
      (Option.isSome_iff_exists.2 ⟨monthSpent, hmonthSpent⟩)
  · intro h
    choose spent hspent using fun start stop ↦ Option.isSome_iff_exists.1
      ((calculateSpent_isSome_iff M transactions budget.category start stop subcategory).2 h)
    obtain ⟨prior, hprior⟩ := Option.isSome_iff_exists.1 (priorMonths_isSome
      (fun start stop ↦ Option.isSome_iff_exists.2 ⟨_, hspent start stop⟩) period
        (rolloverStart localMonth budget period.year))
    simp only [hspent] at hprior
    simp only [computeRolloverBudget, hspent, hprior, Option.bind_eq_bind, Option.bind_some]
    rfl

/-! ### What is available -/

/-- The frequency of a budget is monthly if it has none. -/
def yearMultiplier (budget : Budget) : ℤ :=
  periodMultiplier true (budget.frequency.getD .monthly)

section Available

variable {M localMonth}
variable {budget : Budget} {transactions : List Transaction} {subcategory : Option String}
variable {result : RolloverBudgetResult}

/-- No month is before the year, so nothing is carried over into it. -/
theorem available_year {year : ℤ}
    (h : computeRolloverBudget M localMonth budget transactions ⟨year, none⟩ subcategory =
      some result) :
    result.availableThisMonth = budget.amount * yearMultiplier budget := by
  obtain ⟨monthSpent, -, h⟩ := Option.bind_eq_some_iff.1 h
  obtain ⟨ytdSpent, -, h⟩ := Option.bind_eq_some_iff.1 h
  obtain ⟨prior, hprior, h⟩ := Option.bind_eq_some_iff.1 h
  obtain rfl := Option.some.inj hprior
  obtain rfl := Option.some.inj h
  simp [yearMultiplier]

theorem available_month {year : ℤ} {month : ℕ} (hrollover : budget.rollover.getD false = false)
    (h : computeRolloverBudget M localMonth budget transactions ⟨year, some month⟩ subcategory =
      some result) :
    result.availableThisMonth = budget.amount := by
  obtain ⟨monthSpent, -, h⟩ := Option.bind_eq_some_iff.1 h
  obtain ⟨ytdSpent, -, h⟩ := Option.bind_eq_some_iff.1 h
  obtain ⟨prior, -, h⟩ := Option.bind_eq_some_iff.1 h
  obtain rfl := Option.some.inj h
  simp [hrollover]

theorem yearMultiplier_eq_twelve_iff :
    yearMultiplier budget = 12 ↔ budget.frequency.getD .monthly = .monthly := by
  rw [yearMultiplier]
  cases budget.frequency.getD .monthly <;> decide

end Available

/-- **One budget**: the year has what its months have together if the budget is monthly. -/
theorem available_year_iff {budget : Budget} (hrollover : budget.rollover.getD false = false)
    (transactions : List Transaction) (year : ℤ) (subcategory : Option String)
    {result : RolloverBudgetResult}
    (h : computeRolloverBudget M localMonth budget transactions ⟨year, none⟩ subcategory =
      some result) :
    ∃ months : ℕ → RolloverBudgetResult,
      (∀ month < 12, computeRolloverBudget M localMonth budget transactions ⟨year, some month⟩
        subcategory = some (months month)) ∧
      (result.availableThisMonth =
          ((List.range 12).map fun month ↦ (months month).availableThisMonth).sum ↔
        budget.frequency.getD .monthly = .monthly ∨ budget.amount = 0) := by
  have hdays := (computeRolloverBudget_isSome_iff M localMonth budget transactions _ subcategory).1
    (Option.isSome_iff_exists.2 ⟨result, h⟩)
  choose months hmonths using fun month ↦ Option.isSome_iff_exists.1
    ((computeRolloverBudget_isSome_iff M localMonth budget transactions ⟨year, some month⟩
      subcategory).2 hdays)
  refine ⟨months, fun month _ ↦ hmonths month, ?_⟩
  have hsum : ((List.range 12).map fun month ↦ (months month).availableThisMonth).sum =
      budget.amount * 12 := by
    rw [List.map_congr_left fun month _ ↦ available_month hrollover (hmonths month),
      List.map_const', List.length_range, List.sum_replicate, nsmul_eq_mul, Nat.cast_ofNat,
      mul_comm]
  rw [hsum, available_year h, ← yearMultiplier_eq_twelve_iff, or_comm, mul_eq_mul_left_iff]
  exact or_comm

/-! ### Composites -/

/-- The budgets of a composite, the direct one first. -/
def compositeBudgets (directBudget : Option Budget) (subcategoryBudgets : List (String × Budget)) :
    List Budget :=
  directBudget.toList ++ subcategoryBudgets.map Prod.snd

section Composite

variable {M localMonth} {transactions : List Transaction} {year : ℤ}

/-- What is available in the year for the subcategories, one budget after the other. -/
theorem sum_available_year {subcategoryBudgets : List (String × Budget)}
    {results : List (String × RolloverBudgetResult)}
    (h : (subcategoryBudgets.mapM fun sb ↦
      (computeRolloverBudget M localMonth sb.2 transactions ⟨year, none⟩ (some sb.1)).map
        fun result ↦ (sb.1, result)) = some results) :
    (results.map fun sr ↦ sr.2.availableThisMonth).sum =
      (subcategoryBudgets.map fun sb ↦ sb.2.amount * yearMultiplier sb.2).sum := by
  induction subcategoryBudgets generalizing results with
  | nil =>
    obtain rfl := Option.some.inj h
    rfl
  | cons sb subcategoryBudgets ih =>
    rw [List.mapM_cons] at h
    obtain ⟨named, hnamed, h⟩ := Option.bind_eq_some_iff.1 h
    obtain ⟨rest, hrest, h⟩ := Option.bind_eq_some_iff.1 h
    obtain ⟨result, hresult, rfl⟩ := Option.map_eq_some_iff.1 hnamed
    obtain rfl := Option.some.inj h
    rw [List.map_cons, List.sum_cons, List.map_cons, List.sum_cons, ih hrest,
      available_year hresult]

/-- What a composite shows for the year. -/
theorem composite_year {majorCategory : String} {directBudget : Option Budget}
    {subcategoryBudgets : List (String × Budget)} {result : CompositeBudgetResult}
    (h : computeCompositeMajorBudget M localMonth majorCategory directBudget subcategoryBudgets
      transactions ⟨year, none⟩ = some result) :
    result.monthlyAmount =
        ((compositeBudgets directBudget subcategoryBudgets).map (·.amount)).sum * 12 ∧
      result.availableThisMonth = ((compositeBudgets directBudget subcategoryBudgets).map
        fun budget ↦ budget.amount * yearMultiplier budget).sum := by
  obtain ⟨direct, hdirect, h⟩ := Option.bind_eq_some_iff.1 h
  obtain ⟨results, hresults, h⟩ := Option.bind_eq_some_iff.1 h
  obtain ⟨monthSpent, -, h⟩ := Option.bind_eq_some_iff.1 h
  obtain ⟨ytdSpent, -, h⟩ := Option.bind_eq_some_iff.1 h
  obtain rfl := Option.some.inj h
  have hsum := sum_available_year hresults
  cases directBudget with
  | none =>
    obtain rfl := Option.some.inj hdirect
    simp [compositeBudgets, hsum, Function.comp_def]
  | some budget =>
    obtain ⟨own, hown, rfl⟩ := Option.map_eq_some_iff.1 hdirect
    simp [compositeBudgets, hsum, available_year hown, Function.comp_def]

end Composite

/-- **A full-year budget.** A budget that does not roll over has in the year what it has in its
twelve months, and a composite has in the year what it is budgeted for the year, exactly where the
number of its periods in the year does not matter. -/
theorem fullYear_iff :
    (∀ (budget : Budget) (transactions : List Transaction) (year : ℤ)
        (subcategory : Option String) (result : RolloverBudgetResult),
      budget.rollover.getD false = false →
      computeRolloverBudget M localMonth budget transactions ⟨year, none⟩ subcategory =
        some result →
      ∃ months : ℕ → RolloverBudgetResult,
        (∀ month < 12, computeRolloverBudget M localMonth budget transactions ⟨year, some month⟩
          subcategory = some (months month)) ∧
        (result.availableThisMonth =
            ((List.range 12).map fun month ↦ (months month).availableThisMonth).sum ↔
          budget.frequency.getD .monthly = .monthly ∨ budget.amount = 0)) ∧
    (∀ (majorCategory : String) (directBudget : Option Budget)
        (subcategoryBudgets : List (String × Budget)) (transactions : List Transaction) (year : ℤ)
        (result : CompositeBudgetResult),
      computeCompositeMajorBudget M localMonth majorCategory directBudget subcategoryBudgets
        transactions ⟨year, none⟩ = some result →
      (result.monthlyAmount = result.availableThisMonth ↔
        ((compositeBudgets directBudget subcategoryBudgets).map
          fun budget ↦ budget.amount * (12 - yearMultiplier budget)).sum = 0)) := by
  refine ⟨fun budget transactions year subcategory result hrollover h ↦
    available_year_iff M localMonth hrollover transactions year subcategory h,
    fun majorCategory directBudget subcategoryBudgets transactions year result h ↦ ?_⟩
  obtain ⟨hmonthly, havailable⟩ := composite_year h
  have hadd : result.availableThisMonth +
      ((compositeBudgets directBudget subcategoryBudgets).map
        fun budget ↦ budget.amount * (12 - yearMultiplier budget)).sum = result.monthlyAmount := by
    rw [hmonthly, havailable, ← List.sum_map_add, ← List.sum_map_mul_right]
    simp only [← mul_add, add_sub_cancel]
  rw [← hadd, add_eq_left]

/-- A bill of 50.00 that comes every three months. -/
def waterBudget : Budget where
  id := "1"
  category := "Water"
  amount := 5000
  frequency := some .quarterly
  rollover := some false
  rolloverStartMonth := none
  createdAt := none

theorem fullYear_iff_waterBudget :
    (∃ result, computeRolloverBudget simpleCase (fun _ ↦ none) waterBudget [] ⟨2024, none⟩
        (some "Water") = some result ∧
      ∃ months : ℕ → RolloverBudgetResult,
        (∀ month < 12, computeRolloverBudget simpleCase (fun _ ↦ none) waterBudget []
          ⟨2024, some month⟩ (some "Water") = some (months month)) ∧
        (result.availableThisMonth =
            ((List.range 12).map fun month ↦ (months month).availableThisMonth).sum ↔
          BudgetFrequency.quarterly = .monthly ∨ (5000 : Decimal) = 0)) ∧
    ∃ result, computeCompositeMajorBudget simpleCase (fun _ ↦ none) "Bills & Utilities" none
        [("Water", waterBudget)] [] ⟨2024, none⟩ = some result ∧
      (result.monthlyAmount = result.availableThisMonth ↔
        (5000 : Decimal) * (12 - 4) + 0 = 0) :=
  ⟨⟨_, rfl, (fullYear_iff simpleCase fun _ ↦ none).1 waterBudget [] 2024 (some "Water") _ rfl rfl⟩,
    _, rfl, (fullYear_iff simpleCase fun _ ↦ none).2 "Bills & Utilities" none
      [("Water", waterBudget)] [] 2024 _ rfl⟩

/-- Neither law holds of a quarterly budget: its year has 200.00 where its months and the composite
have 600.00. -/
theorem quarterly_year_short :
    (¬∀ (budget : Budget) (transactions : List Transaction) (year : ℤ)
        (subcategory : Option String) (result : RolloverBudgetResult),
      budget.rollover.getD false = false →
      computeRolloverBudget simpleCase (fun _ ↦ none) budget transactions ⟨year, none⟩
        subcategory = some result →
      ∃ months : ℕ → RolloverBudgetResult,
        (∀ month < 12, computeRolloverBudget simpleCase (fun _ ↦ none) budget transactions
          ⟨year, some month⟩ subcategory = some (months month)) ∧
        result.availableThisMonth =
          ((List.range 12).map fun month ↦ (months month).availableThisMonth).sum) ∧
    ¬∀ (majorCategory : String) (directBudget : Option Budget)
        (subcategoryBudgets : List (String × Budget)) (transactions : List Transaction) (year : ℤ)
        (result : CompositeBudgetResult),
      computeCompositeMajorBudget simpleCase (fun _ ↦ none) majorCategory directBudget
        subcategoryBudgets transactions ⟨year, none⟩ = some result →
      result.monthlyAmount = result.availableThisMonth := by
  constructor
  · intro h
    obtain ⟨months, hmonths, hyear⟩ := h waterBudget [] 2024 (some "Water") _ rfl rfl
    rw [List.map_congr_left fun month hmonth ↦
      available_month rfl (hmonths month (List.mem_range.1 hmonth))] at hyear
    exact absurd hyear (by decide)
  · intro h
    exact absurd (h "Bills & Utilities" none [("Water", waterBudget)] [] 2024 _ rfl) (by decide)

end Sumurai.Frontend
