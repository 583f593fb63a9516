import Sumurai.Frontend.BudgetAgreement

/-!
# What counts in a category

The rules by which `calculateSpent` takes a transaction for one in a category, or in a subcategory
of it: the spelling of its primary and of its detailed category, and the major category that the
primary one resolves to. In a category that is not a major one, it goes by the spelling alone.
-/

namespace Sumurai.Frontend

open PartialSums

variable (M : CaseMapping)

/-- The name of the subcategory that a transaction is filed under, in lower case. -/
def detailedName (t : Transaction) : List Char :=
  M.lowerCase
    ((((t.category.detailed.filter (· ≠ "")).or (t.customSubcategory.filter (· ≠ ""))).or
      t.ruleSubcategory).getD "").toList

/-- The primary category of a transaction is a category by its spelling. -/
def WrittenAs (category : String) (t : Transaction) : Prop :=
  Spells M category (M.lowerCase t.category.primary.toList) t.category.primary

/-- The lower case of the major category that a name resolves to. -/
def majorName (category : String) : List Char :=
  M.lowerCase (resolveMajorCategory M category []).toList

instance (category : String) (t : Transaction) : Decidable (WrittenAs M category t) :=
  inferInstanceAs (Decidable (Spells _ _ _ _))

/-- What is in a subcategory of a category. -/
theorem isInCategory_some_iff {category subcategory : String} (hsub : subcategory ≠ "")
    (t : Transaction) : isInCategory M category (some subcategory) t ↔
      isSpendingExcludedCategory M t.category.primary = false ∧
        (WrittenAs M category t ∨ majorName M t.category.primary = majorName M category) ∧
          detailedName M t = M.lowerCase subcategory.toList := by
  have hfilter : (some subcategory).filter (· ≠ "") = some subcategory :=
    Option.filter_some_pos (decide_eq_true hsub)
  unfold isInCategory WrittenAs Spells majorName detailedName
  simp only [hfilter]
  cases isSpendingExcludedCategory M t.category.primary with
  | true => simp
  | false => simp [or_assoc]

/-- What is in a category. -/
theorem isInCategory_none_iff (category : String) (t : Transaction) :
    isInCategory M category none t ↔ isSpendingExcludedCategory M t.category.primary = false ∧
      (detailedName M t ≠ [] ∧
          Spells M category (detailedName M t) (String.ofList (detailedName M t)) ∨
        WrittenAs M category t ∨
          majorName M category = M.lowerCase category.toList ∧
            majorName M t.category.primary = majorName M category) := by
  unfold isInCategory WrittenAs Spells majorName
  have hdetailed : M.lowerCase
      ((((t.category.detailed.filter (· ≠ "")).or (t.customSubcategory.filter (· ≠ ""))).or
        t.ruleSubcategory).getD "").toList = detailedName M t := rfl
  simp only [Option.filter_none, hdetailed]
  cases isSpendingExcludedCategory M t.category.primary with
  | true => simp
  | false =>
    rw [if_neg (by decide)]
    split
    · rename_i hspelled
      exact iff_of_true rfl ⟨rfl, Or.inl hspelled⟩
    · rename_i hspelled
      simp only [Bool.or_eq_true, Bool.and_eq_true, decide_eq_true_eq, true_and,
        or_iff_right hspelled, or_assoc]

/-- A transaction in an excluded category counts nothing. -/
theorem getNetSpendingAmount_of_excluded {t : Transaction}
    (h : isSpendingExcludedCategory M t.category.primary = true) :
    getNetSpendingAmount M t = 0 := by
  refine if_pos ?_
  rw [isTransactionCategoryExcluded, hasExcludedCategory, h]
  rfl

/-- Excluded categories make no difference to what is spent. -/
theorem sumOf_not_excluded (p : Transaction → Prop) [DecidablePred p] (l : List Transaction) :
    sumOf (getNetSpendingAmount M)
        (fun t ↦ p t ∧ isSpendingExcludedCategory M t.category.primary = false) l =
      sumOf (getNetSpendingAmount M) p l := by
  rw [sumOf_split (p := p) fun t ↦ isSpendingExcludedCategory M t.category.primary = false,
    left_eq_add]
  have hzero : sumOf (getNetSpendingAmount M) (fun t ↦ p t ∧
      ¬isSpendingExcludedCategory M t.category.primary = false) l = sumOf (fun _ ↦ 0) _ l :=
    sumOf_congr_val fun t _ ht ↦ getNetSpendingAmount_of_excluded M (Bool.not_eq_false _ ▸ ht.2)
  rw [hzero, sumOf, List.map_const', List.sum_replicate, nsmul_zero]

/-! ### What is spent -/

section Spent

variable {M} {transactions : List Transaction} {category : String} {subcategory : Option String}
variable {start stop : List Char} {spent : Decimal}

/-- What is counted is dated, or there is no result. -/
theorem isDated_of_calculateSpent
    (h : calculateSpent M transactions category start stop subcategory = some spent) :
    ∀ t ∈ transactions.filter (isInCategory M category subcategory), IsDated t := by
  intro t ht
  by_contra hdated
  rw [calculateSpent, filterDays_eq_none ht hdated] at h
  cases h

/-- What is spent between two days, where what is counted is dated. -/
theorem calculateSpent_of_dated
    (hdated : ∀ t ∈ transactions.filter (isInCategory M category subcategory), IsDated t) :
    calculateSpent M transactions category start stop subcategory =
      some (sumOf (getNetSpendingAmount M)
        (fun t ↦ isBetween start stop t.date.toList ∧ isInCategory M category subcategory t)
        transactions) := by
  rw [calculateSpent, filterDays_eq hdated, sumOf]
  refine congrArg some ?_
  rw [List.filter_filter]
  simp only [Bool.decide_and, Bool.decide_eq_true]

/-- What is spent between two days. -/
theorem calculateSpent_eq
    (h : calculateSpent M transactions category start stop subcategory = some spent) :
    spent = sumOf (getNetSpendingAmount M)
      (fun t ↦ isBetween start stop t.date.toList ∧ isInCategory M category subcategory t)
      transactions :=
  Option.some.inj (h.symm.trans (calculateSpent_of_dated (isDated_of_calculateSpent h)))

/-- What is spent in a month. -/
theorem calculateSpent_month {year : ℤ} {month : ℕ} (hmonth : month < 12)
    (h : calculateSpent M transactions category (dayTemplate year ((month : ℤ) + 1) 1)
      (dayTemplate year ((month : ℤ) + 1) (lastDayBefore year (month + 1))) subcategory =
        some spent) :
    spent = spentIn M transactions category subcategory year month := by
  have hdated := isDated_of_calculateSpent h
  rw [calculateSpent_eq h, spentIn]
  refine sumOf_congr fun t ht ↦ and_congr_left fun hin ↦ ?_
  rw [isBetween_iff_monthIn (hdated t (List.mem_filter.2 ⟨ht, hin⟩)) year hmonth hmonth]
  constructor
  · rintro ⟨i, hi, hfirst, hlast⟩
    rwa [Nat.le_antisymm hlast hfirst] at hi
  · exact fun hi ↦ ⟨month, hi, le_rfl, le_rfl⟩

end Spent

end Sumurai.Frontend
