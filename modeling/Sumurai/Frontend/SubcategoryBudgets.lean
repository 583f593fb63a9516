import Sumurai.Foundations.Loops
import Sumurai.Frontend.CategoryMembership

/-!
# Budgets of subcategories

The page of a major category shows the budgets of its subcategories with it (`compositeMajorData`).
It places a budget by the parent that the user has given its category, or by the taxonomy; what is
spent of the budget is then looked up by the name alone, without the categories of the user.

`subcategoryBudgets_iff` says for which budgets the amount shown is what is spent in the subcategory
under the major category: where the name resolves to that category by itself, and nothing is counted
that has the name as its category as well.
-/

namespace Sumurai.Frontend

open PartialSums

variable (M : CaseMapping) (localMonth : String → Option (ℤ × ℤ))

/-! ### The page -/

/-- The major category that the page places a budget under. -/
def budgetParent (category : String) (userCategories : List UserCategory) : String :=
  ((getMajorCategoryForSubcategory M category.toList userCategories).filter (· ≠ "")).getD
    (resolveMajorCategory M category [])

/-- `subcategoryBudgets`, the budgets that are placed under the category selected. -/
def subcategoryBudgets (selectedCategory : String) (userCategories : List UserCategory)
    (budgets : List Budget) : List Budget :=
  budgets.filter fun b ↦
    trimLower M b.category ≠ trimLower M selectedCategory ∧
      budgetParent M b.category userCategories ≠ "" ∧
        M.lowerCase (budgetParent M b.category userCategories).toList = trimLower M selectedCategory

/-- `compositeMajorData`, unless it throws. -/
def compositeMajorData (budgets : List Budget)
    (selectedCategory selectedSubcategory : Option String) (userCategories : List UserCategory)
    (effectiveYtdTransactions : List Transaction) (period : MonthYearSelection) :
    Option (Option CompositeBudgetResult) :=
  match selectedCategory.filter (· ≠ "") with
  | none => some none
  | some selectedCategory =>
    if isTruthy selectedSubcategory then some none
    else
      let directBudget := budgets.find? fun b ↦
        trimLower M b.category = trimLower M selectedCategory
      let subcategoryBudgets := subcategoryBudgets M selectedCategory userCategories budgets
      if directBudget.isNone ∧ subcategoryBudgets = [] then some none
      else
        (computeCompositeMajorBudget M localMonth selectedCategory directBudget
          (subcategoryBudgets.map fun b ↦ (b.category, b)) effectiveYtdTransactions period).map some

/-! ### The condition -/

/-- A transaction with the subcategory as its detailed category. -/
def HasDetailed (subcategory : String) (t : Transaction) : Prop :=
  detailedName M t = M.lowerCase subcategory.toList

/-- A transaction under a major category. -/
def IsUnder (selectedCategory : String) (t : Transaction) : Prop :=
  majorName M t.category.primary = trimLower M selectedCategory

instance (subcategory : String) (t : Transaction) : Decidable (HasDetailed M subcategory t) :=
  inferInstanceAs (Decidable (_ = _))

instance (selectedCategory : String) (t : Transaction) : Decidable (IsUnder M selectedCategory t) :=
  inferInstanceAs (Decidable (_ = _))

/-- What is spent in a subcategory under a major category in a month. -/
def subcategorySpending (transactions : List Transaction) (selectedCategory subcategory : String)
    (year : ℤ) (month : ℕ) : Decimal :=
  sumOf (getNetSpendingAmount M) (fun t ↦ monthIn year t = some month ∧
    HasDetailed M subcategory t ∧ IsUnder M selectedCategory t) transactions

/-- When a budget counts what is spent in its subcategory. If the name resolves to the major
category without the categories of the user, what has it as its category as well and is not under
the major category must come to nothing. If not, what is under the major category, and has not the
name as its category as well, must come to the same as what is counted elsewhere. -/
def CountsSubcategory (transactions : List Transaction) (selectedCategory subcategory : String)
    (year : ℤ) (month : ℕ) : Prop :=
  if majorName M subcategory = trimLower M selectedCategory then
    sumOf (getNetSpendingAmount M) (fun t ↦ monthIn year t = some month ∧
      HasDetailed M subcategory t ∧ WrittenAs M subcategory t ∧
        ¬IsUnder M selectedCategory t) transactions = 0
  else
    sumOf (getNetSpendingAmount M) (fun t ↦ monthIn year t = some month ∧
      HasDetailed M subcategory t ∧ IsUnder M selectedCategory t ∧
        ¬WrittenAs M subcategory t) transactions =
    sumOf (getNetSpendingAmount M) (fun t ↦ monthIn year t = some month ∧
      HasDetailed M subcategory t ∧ ¬IsUnder M selectedCategory t ∧
        (WrittenAs M subcategory t ∨ majorName M t.category.primary = majorName M subcategory))
      transactions

instance (transactions : List Transaction) (selectedCategory subcategory : String) (year : ℤ)
    (month : ℕ) :
    Decidable (CountsSubcategory M transactions selectedCategory subcategory year month) :=
  inferInstanceAs (Decidable (ite _ _ _))

/-! ### One budget -/

section Budget

variable {M localMonth}
variable {transactions : List Transaction} {subcategory : String} {year : ℤ} {month : ℕ}

/-- What is counted in a subcategory. -/
theorem spentIn_subcategory (hsub : subcategory ≠ "") :
    spentIn M transactions subcategory (some subcategory) year month =
      sumOf (getNetSpendingAmount M) (fun t ↦ monthIn year t = some month ∧
        HasDetailed M subcategory t ∧ (WrittenAs M subcategory t ∨
          majorName M t.category.primary = majorName M subcategory)) transactions := by
  rw [spentIn, ← sumOf_not_excluded M fun t ↦ monthIn year t = some month ∧
    HasDetailed M subcategory t ∧ (WrittenAs M subcategory t ∨
      majorName M t.category.primary = majorName M subcategory)]
  refine sumOf_congr fun t _ ↦ ?_
  rw [isInCategory_some_iff M hsub, and_assoc, and_assoc]
  exact and_congr_right fun _ ↦ ⟨fun h ↦ ⟨h.2.2, h.2.1, h.1⟩, fun h ↦ ⟨h.2.2, h.2.1, h.1⟩⟩

/-- **One budget** counts what is spent in its subcategory, or not. -/
theorem spentIn_eq_subcategorySpending_iff (hsub : subcategory ≠ "") (selectedCategory : String) :
    spentIn M transactions subcategory (some subcategory) year month =
        subcategorySpending M transactions selectedCategory subcategory year month ↔
      CountsSubcategory M transactions selectedCategory subcategory year month := by
  rw [spentIn_subcategory hsub, subcategorySpending, CountsSubcategory, sumOf_eq_iff]
  by_cases hresolved : majorName M subcategory = trimLower M selectedCategory
  · -- what resolves like the name is under the major category
    have hsame (t : Transaction) : majorName M t.category.primary = majorName M subcategory ↔
        IsUnder M selectedCategory t := by
      rw [hresolved, IsUnder]
    have hnone : sumOf (getNetSpendingAmount M) (fun t ↦ (monthIn year t = some month ∧
        HasDetailed M subcategory t ∧ IsUnder M selectedCategory t) ∧
          ¬(monthIn year t = some month ∧ HasDetailed M subcategory t ∧ (WrittenAs M subcategory t ∨
            majorName M t.category.primary = majorName M subcategory))) transactions = 0 :=
      sumOf_eq_zero fun t _ h ↦ h.2 ⟨h.1.1, h.1.2.1, Or.inr ((hsame t).2 h.1.2.2)⟩
    rw [if_pos hresolved, hnone]
    refine Iff.of_eq (congrArg (· = 0) (sumOf_congr fun t _ ↦ ?_))
    rw [hsame]
    constructor
    · rintro ⟨⟨hmonth, hdetailed, hcounted⟩, helsewhere⟩
      have hunder : ¬IsUnder M selectedCategory t := fun h ↦ helsewhere ⟨hmonth, hdetailed, h⟩
      exact ⟨hmonth, hdetailed, hcounted.resolve_right hunder, hunder⟩
    · rintro ⟨hmonth, hdetailed, hwritten, hunder⟩
      exact ⟨⟨hmonth, hdetailed, Or.inl hwritten⟩, fun h ↦ hunder h.2.2⟩
  · -- nothing under the major category resolves like the name
    have hapart {t : Transaction} (h : IsUnder M selectedCategory t) :
        majorName M t.category.primary ≠ majorName M subcategory :=
      fun heq ↦ hresolved (heq.symm.trans h)
    rw [if_neg hresolved, eq_comm]
    refine Iff.of_eq (congrArg₂ Eq (sumOf_congr fun t _ ↦ ?_) (sumOf_congr fun t _ ↦ ?_))
    · constructor
      · rintro ⟨⟨hmonth, hdetailed, hunder⟩, hnot⟩
        exact ⟨hmonth, hdetailed, hunder, fun h ↦ hnot ⟨hmonth, hdetailed, Or.inl h⟩⟩
      · rintro ⟨hmonth, hdetailed, hunder, hwritten⟩
        exact ⟨⟨hmonth, hdetailed, hunder⟩, fun h ↦ h.2.2.elim hwritten (hapart hunder)⟩
    · constructor
      · rintro ⟨⟨hmonth, hdetailed, hcounted⟩, hnot⟩
        exact ⟨hmonth, hdetailed, fun h ↦ hnot ⟨hmonth, hdetailed, h⟩, hcounted⟩
      · rintro ⟨hmonth, hdetailed, hunder, hcounted⟩
        exact ⟨⟨hmonth, hdetailed, hcounted⟩, fun h ↦ hunder h.2.2⟩

end Budget

/-! ### The budgets of the page -/

section Page

variable {M localMonth}
variable {transactions : List Transaction} {year : ℤ} {month : ℕ}

/-- What a budget shows for a month is what is spent in the month. -/
theorem monthSpent_eq {budget : Budget} {subcategory : Option String}
    {result : RolloverBudgetResult} (hmonth : month < 12)
    (h : computeRolloverBudget M localMonth budget transactions ⟨year, some month⟩ subcategory =
      some result) :
    result.monthSpent = spentIn M transactions budget.category subcategory year month := by
  obtain ⟨monthSpent, hspent, h⟩ := Option.bind_eq_some_iff.1 h
  obtain ⟨ytdSpent, -, h⟩ := Option.bind_eq_some_iff.1 h
  obtain ⟨prior, -, h⟩ := Option.bind_eq_some_iff.1 h
  obtain rfl := Option.some.inj h
  exact calculateSpent_month hmonth hspent

/-- The results of the subcategories are those of their budgets, in their order. -/
theorem subcategoryResults_forall₂ {majorCategory : String} {directBudget : Option Budget}
    {budgets : List Budget} {period : MonthYearSelection} {result : CompositeBudgetResult}
    (h : computeCompositeMajorBudget M localMonth majorCategory directBudget
      (budgets.map fun b ↦ (b.category, b)) transactions period = some result) :
    List.Forall₂ (fun b named ↦ named.1 = b.category ∧
      computeRolloverBudget M localMonth b transactions period (some b.category) = some named.2)
        budgets result.subcategoryResults := by
  obtain ⟨direct, -, h⟩ := Option.bind_eq_some_iff.1 h
  obtain ⟨results, hresults, h⟩ := Option.bind_eq_some_iff.1 h
  obtain ⟨monthSpent, -, h⟩ := Option.bind_eq_some_iff.1 h
  obtain ⟨ytdSpent, -, h⟩ := Option.bind_eq_some_iff.1 h
  obtain rfl := Option.some.inj h
  refine (List.forall₂_map_left_iff.1 (Loops.forall₂_of_mapM hresults)).imp fun b named hnamed ↦ ?_
  obtain ⟨own, hown, rfl⟩ := Option.map_eq_some_iff.1 hnamed
  exact ⟨rfl, hown⟩

/-- What the page shows is computed of the budgets that it places under the category. -/
theorem compositeMajorData_eq_some {budgets : List Budget} {selectedCategory : String}
    {selectedSubcategory : Option String} {userCategories : List UserCategory}
    {period : MonthYearSelection} {result : CompositeBudgetResult}
    (h : compositeMajorData M localMonth budgets (some selectedCategory) selectedSubcategory
      userCategories transactions period = some (some result)) :
    ∃ directBudget, computeCompositeMajorBudget M localMonth selectedCategory directBudget
      ((subcategoryBudgets M selectedCategory userCategories budgets).map
        fun b ↦ (b.category, b)) transactions period = some result := by
  rw [compositeMajorData] at h
  split at h
  · exact absurd h nofun
  · rename_i selected hselected
    obtain rfl := Option.some.inj (Option.filter_eq_some_iff.1 hselected).1
    split at h
    · exact absurd h nofun
    · simp only at h
      split at h
      · exact absurd h nofun
      · obtain ⟨composite, hcomposite, heq⟩ := Option.map_eq_some_iff.1 h
        obtain rfl := Option.some.inj heq
        exact ⟨_, hcomposite⟩

end Page

/-- **Which budgets of subcategories count what is spent in them.** The page of a major category
shows the budgets that it places under it. For each of them, what is shown for the month is what is
spent in the subcategory under the major category, if and only if

* the name of the subcategory resolves to the major category without the categories of the user, and
  what has the name as its category too, but is not under the major category, comes to nothing;
* or it does not, and what is under the major category, but has not the name as its category too,
  comes to the same as what is counted elsewhere.
-/
theorem subcategoryBudgets_iff (budgets : List Budget) (selectedCategory : String)
    (selectedSubcategory : Option String) (userCategories : List UserCategory)
    (transactions : List Transaction) (year : ℤ) (month : ℕ) (hmonth : month < 12)
    (result : CompositeBudgetResult)
    (h : compositeMajorData M localMonth budgets (some selectedCategory) selectedSubcategory
      userCategories transactions ⟨year, some month⟩ = some (some result)) :
    List.Forall₂ (fun b named ↦ named.1 = b.category ∧ (b.category ≠ "" →
        (named.2.monthSpent =
            subcategorySpending M transactions selectedCategory b.category year month ↔
          CountsSubcategory M transactions selectedCategory b.category year month)))
      (subcategoryBudgets M selectedCategory userCategories budgets) result.subcategoryResults := by
  obtain ⟨directBudget, hcomposite⟩ := compositeMajorData_eq_some h
  refine (subcategoryResults_forall₂ hcomposite).imp fun b named ⟨hname, hresult⟩ ↦
    ⟨hname, fun hne ↦ ?_⟩
  rw [monthSpent_eq hmonth hresult]
  exact spentIn_eq_subcategorySpending_iff hne selectedCategory

/-- A monthly budget of 50.00. -/
def fiftyBudget (category : String) : Budget where
  id := "1"
  category := category
  amount := 5000
  frequency := none
  rollover := none
  rolloverStartMonth := none
  createdAt := none

/-- A purchase of 25.00. -/
def mayPurchase (primary detailed : String) : Transaction where
  accountId := some "1"
  date := "2024-05-10"
  amount := 2500
  pending := some false
  category := { primary := primary, detailed := some detailed }
  accountType := "checking"
  provider := some "plaid"
  customCategory := none
  customSubcategory := none
  ruleCategory := none
  ruleSubcategory := none

/-- What the page shows of the budgets of subcategories. -/
def shownSpending (shown : Option (Option CompositeBudgetResult)) :
    Option (Option (List (String × Decimal))) :=
  shown.map (·.map fun result ↦ result.subcategoryResults.map fun named ↦
    (named.1, named.2.monthSpent))

/-- The budget of a subcategory of the taxonomy counts a purchase in it. -/
theorem subcategoryBudgets_iff_coffeeShops :
    ∃ result, compositeMajorData simpleCase (fun _ ↦ none) [fiftyBudget "Coffee Shops"]
        (some "Food & Dining") none [] [mayPurchase "Food & Dining" "Coffee Shops"]
        ⟨2024, some 4⟩ = some (some result) ∧
      List.Forall₂ (fun b named ↦ named.1 = b.category ∧ named.2.monthSpent = 2500)
        [fiftyBudget "Coffee Shops"] result.subcategoryResults := by
  have hsome : ((compositeMajorData simpleCase (fun _ ↦ none) [fiftyBudget "Coffee Shops"]
      (some "Food & Dining") none [] [mayPurchase "Food & Dining" "Coffee Shops"]
        ⟨2024, some 4⟩).bind id).isSome = true := by decide +kernel
  obtain ⟨result, hresult⟩ := Option.isSome_iff_exists.1 hsome
  rw [Option.bind_eq_some_iff] at hresult
  obtain ⟨shown, hshown, rfl⟩ := hresult
  refine ⟨result, hshown, ?_⟩
  have hplaced : subcategoryBudgets simpleCase "Food & Dining" [] [fiftyBudget "Coffee Shops"] =
      [fiftyBudget "Coffee Shops"] := by decide +kernel
  have hiff := subcategoryBudgets_iff simpleCase (fun _ ↦ none) [fiftyBudget "Coffee Shops"]
    "Food & Dining" none [] [mayPurchase "Food & Dining" "Coffee Shops"] 2024 4 (by decide) result
    hshown
  rw [hplaced] at hiff
  obtain ⟨named, rest, ⟨hname, hspent⟩, hrest, heq⟩ := List.forall₂_cons_left_iff.1 hiff
  rw [heq, List.forall₂_nil_left_iff.1 hrest]
  refine .cons ⟨hname, ?_⟩ .nil
  rw [(hspent (by decide)).2 (by decide +kernel)]
  decide +kernel

/-- **Dog food that is not counted.** A subcategory that the user has added under `Pets` is placed
there by the page. Nothing is counted in it: without the categories of the user the name is a major
category of its own. -/
theorem dogFood_not_counted :
    shownSpending (compositeMajorData simpleCase (fun _ ↦ none) [fiftyBudget "Dog Food"]
        (some "Pets") none [⟨"Dog Food", some "Pets"⟩] [mayPurchase "Pets" "Dog Food"]
        ⟨2024, some 4⟩) = some (some [("Dog Food", 0)]) ∧
      subcategorySpending simpleCase [mayPurchase "Pets" "Dog Food"] "Pets" "Dog Food" 2024 4 =
        2500 := by
  decide +kernel

end Sumurai.Frontend
