import Sumurai.Frontend.CategoryMembership
import Sumurai.Frontend.SpelledMajors

/-!
# Budget categories as a partition

A budget counts the transactions in its category, and a list of transactions is counted once for
each major category that it has. A transaction is counted under the category that it resolves to,
and under the one that its detailed category is written like, which need not be the same:
`Insurance` is a major category and a subcategory of `Pets`.

`partition_iff` says which lists are parted by their major categories.
-/

namespace Sumurai.Frontend

open Text PartialSums

variable (M : CaseMapping)

/-- The distinct major categories of a list. -/
def resolvedMajors (transactions : List Transaction) : List String :=
  (transactions.map fun t ↦ resolveMajorCategory M t.category.primary []).dedup

/-- The sum of `calculateSpent` over the distinct major categories of a list. -/
def spentByMajor (transactions : List Transaction) (start stop : List Char) : Option Decimal :=
  ((resolvedMajors M transactions).mapM fun major ↦
    calculateSpent M transactions major start stop none).map List.sum

/-- `calculateSpent` counts a transaction. -/
def CountedUnder (start stop : List Char) (category : String) (t : Transaction) : Prop :=
  isBetween start stop t.date.toList ∧ isInCategory M category none t

instance (start stop : List Char) (category : String) (t : Transaction) :
    Decidable (CountedUnder M start stop category t) :=
  inferInstanceAs (Decidable (_ ∧ _))

/-- The major categories part what is spent between two days. -/
structure Partitioned (transactions : List Transaction) (start stop : List Char) : Prop where
  apart : ∀ t ∈ transactions, ∀ cat ∈ CATEGORIES_TAXONOMY, ∀ other ∈ CATEGORIES_TAXONOMY,
    CountedUnder M start stop cat.name t → CountedUnder M start stop other.name t →
      cat.name = other.name
  total : spentByMajor M transactions start stop = some (sumOf (getNetSpendingAmount M)
    (fun t ↦ isBetween start stop t.date.toList ∧
      isSpendingExcludedCategory M t.category.primary = false) transactions)

/-! ### The condition -/

/-- A transaction has a detailed category that is written like a category. -/
def DetailedAs (category : String) (t : Transaction) : Prop :=
  detailedName M t ≠ [] ∧ Spells M category (detailedName M t) (String.ofList (detailedName M t))

instance (category : String) (t : Transaction) : Decidable (DetailedAs M category t) :=
  inferInstanceAs (Decidable (_ ∧ _))

/-- No transaction between the two days has a detailed category that is written like a major
category, if it resolves to another one. -/
def DetailedApart (transactions : List Transaction) (start stop : List Char) : Prop :=
  ∀ t ∈ transactions, isBetween start stop t.date.toList →
    isSpendingExcludedCategory M t.category.primary = false →
      ∀ cat ∈ CATEGORIES_TAXONOMY, DetailedAs M cat.name t →
        resolveMajorCategory M t.category.primary [] = cat.name ∨
          resolveMajorCategory M t.category.primary [] ∉ CATEGORIES_TAXONOMY.map fun cat ↦ cat.name

/-- What is counted under another category than the one it resolves to comes to the same as what is
not counted under the one it resolves to. -/
def CountedElsewhere (transactions : List Transaction) (start stop : List Char) : Prop :=
  ((resolvedMajors M transactions).map fun major ↦ sumOf (getNetSpendingAmount M)
      (fun t ↦ CountedUnder M start stop major t ∧
        resolveMajorCategory M t.category.primary [] ≠ major) transactions).sum =
    sumOf (getNetSpendingAmount M) (fun t ↦ isBetween start stop t.date.toList ∧
      ¬CountedUnder M start stop (resolveMajorCategory M t.category.primary []) t) transactions

instance (transactions : List Transaction) (start stop : List Char) :
    Decidable (DetailedApart M transactions start stop) :=
  inferInstanceAs (Decidable (∀ t ∈ transactions, _))

instance (transactions : List Transaction) (start stop : List Char) :
    Decidable (CountedElsewhere M transactions start stop) :=
  inferInstanceAs (Decidable (_ = _))

/-! ### One transaction -/

section Major

variable {M} {cat other : CategoryDefinition} {t : Transaction} {start stop : List Char}

/-- A text in lower case that is written like a major category resolves to it. -/
theorem resolveMajorCategory_of_lowered (hcat : cat ∈ CATEGORIES_TAXONOMY) {text : List Char}
    (h : Spells M cat.name text (String.ofList text)) :
    resolveMajorCategory M (String.ofList text) [] = cat.name := by
  obtain htext | hformat := h
  · obtain ⟨hascii, -, -⟩ := taxonomy_apart cat hcat cat.name List.mem_cons_self
    obtain ⟨-, -, htrim, -⟩ := majors_shown cat hcat
    rw [lowerCase_eq_lowered M (taxonomy_isAscii cat hcat).1,
      lowered_eq (taxonomy_isAscii cat hcat).1] at htext
    refine resolveMajorCategory_of_format hcat (lowerCase_formatCategoryName hcat ?_)
    rw [String.toList_ofList, htext, htrim, M.lowerCase_of_isAscii hascii, majors_lowered cat hcat]
  · rw [lowerCase_formatCategoryName_major hcat] at hformat
    exact resolveMajorCategory_of_format hcat hformat

/-- What is in a major category: what resolves to it, and what is written like it in detail. -/
theorem isInCategory_major_iff (hcat : cat ∈ CATEGORIES_TAXONOMY) :
    isInCategory M cat.name none t ↔ isSpendingExcludedCategory M t.category.primary = false ∧
      (DetailedAs M cat.name t ∨ resolveMajorCategory M t.category.primary [] = cat.name) := by
  have hmajor : majorName M cat.name = M.lowerCase cat.name.toList := by
    rw [majorName, resolveMajorCategory_major M hcat]
  rw [isInCategory_none_iff, hmajor, eq_self_iff_true, true_and]
  refine and_congr_right fun _ ↦ or_congr_right ⟨?_, fun h ↦ Or.inr ?_⟩
  · rintro (hwritten | hresolved)
    · exact resolveMajorCategory_of_spells hcat hwritten
    · exact (lowerCase_resolveMajorCategory_iff M hcat _).1 hresolved
  · rw [majorName, h]

/-- Nothing is written like two major categories. -/
theorem eq_of_detailedAs (hcat : cat ∈ CATEGORIES_TAXONOMY) (hother : other ∈ CATEGORIES_TAXONOMY)
    (h : DetailedAs M cat.name t) (h' : DetailedAs M other.name t) : cat.name = other.name :=
  (resolveMajorCategory_of_lowered hcat h.2).symm.trans
    (resolveMajorCategory_of_lowered hother h'.2)

/-- **One transaction** is counted under one major category at most, or not. -/
theorem countedApart_iff (hrange : isBetween start stop t.date.toList)
    (hprimary : isSpendingExcludedCategory M t.category.primary = false) :
    (∀ cat ∈ CATEGORIES_TAXONOMY, ∀ other ∈ CATEGORIES_TAXONOMY,
        CountedUnder M start stop cat.name t → CountedUnder M start stop other.name t →
          cat.name = other.name) ↔
      ∀ cat ∈ CATEGORIES_TAXONOMY, DetailedAs M cat.name t →
        resolveMajorCategory M t.category.primary [] = cat.name ∨
          resolveMajorCategory M t.category.primary [] ∉
            CATEGORIES_TAXONOMY.map fun cat ↦ cat.name := by
  constructor
  · intro h cat hcat hdetailed
    rw [or_iff_not_imp_right, not_not]
    intro hmem
    obtain ⟨other, hother, hname⟩ := List.mem_map.1 hmem
    have hsame := h cat hcat other hother
      ⟨hrange, (isInCategory_major_iff hcat).2 ⟨hprimary, Or.inl hdetailed⟩⟩
      ⟨hrange, (isInCategory_major_iff hother).2 ⟨hprimary, Or.inr hname.symm⟩⟩
    exact hname.symm.trans hsame.symm
  · intro h cat hcat other hother hcounted hcounted'
    obtain ⟨-, hdetailed | hresolved⟩ := (isInCategory_major_iff hcat).1 hcounted.2
    · obtain ⟨-, hdetailed' | hresolved'⟩ := (isInCategory_major_iff hother).1 hcounted'.2
      · exact eq_of_detailedAs hcat hother hdetailed hdetailed'
      · obtain hsame | hnot := h cat hcat hdetailed
        · exact hsame.symm.trans hresolved'
        · exact absurd (hresolved' ▸ List.mem_map_of_mem hother) hnot
    · obtain ⟨-, hdetailed' | hresolved'⟩ := (isInCategory_major_iff hother).1 hcounted'.2
      · obtain hsame | hnot := h other hother hdetailed'
        · exact hresolved.symm.trans hsame
        · exact absurd (hresolved ▸ List.mem_map_of_mem hcat) hnot
      · exact hresolved.symm.trans hresolved'

end Major

/-! ### The sum -/

section Total

variable {M} {transactions : List Transaction} {start stop : List Char}

theorem spentByMajor_eq (hdated : ∀ t ∈ transactions, IsDated t) :
    spentByMajor M transactions start stop =
      some (((resolvedMajors M transactions).map fun major ↦ sumOf (getNetSpendingAmount M)
        (CountedUnder M start stop major) transactions).sum) := by
  have hspent (major : String) : calculateSpent M transactions major start stop none =
      some (sumOf (getNetSpendingAmount M) (CountedUnder M start stop major) transactions) :=
    calculateSpent_of_dated fun t ht ↦ hdated t (List.mem_filter.1 ht).1
  rw [spentByMajor, funext hspent]
  exact congrArg (Option.map List.sum) (List.mapM_pure (m := Option))

/-- What is counted under the major categories together, each transaction under its own and then
under the others. -/
theorem sum_countedUnder :
    ((resolvedMajors M transactions).map fun major ↦ sumOf (getNetSpendingAmount M)
        (CountedUnder M start stop major) transactions).sum =
      sumOf (getNetSpendingAmount M) (fun t ↦
        CountedUnder M start stop (resolveMajorCategory M t.category.primary []) t) transactions +
      ((resolvedMajors M transactions).map fun major ↦ sumOf (getNetSpendingAmount M)
        (fun t ↦ CountedUnder M start stop major t ∧
          resolveMajorCategory M t.category.primary [] ≠ major) transactions).sum := by
  have hown : sumOf (getNetSpendingAmount M) (fun t ↦
        CountedUnder M start stop (resolveMajorCategory M t.category.primary []) t) transactions =
      ((resolvedMajors M transactions).map fun major ↦ sumOf (getNetSpendingAmount M)
        (fun t ↦ CountedUnder M start stop major t ∧
          resolveMajorCategory M t.category.primary [] = major) transactions).sum := by
    rw [← sum_sumOf_key (fun t ↦ resolveMajorCategory M t.category.primary [])
      (List.nodup_dedup _) fun t ht _ ↦ List.mem_dedup.2 (List.mem_map_of_mem ht)]
    refine congrArg List.sum (List.map_congr_left fun major _ ↦ sumOf_congr fun t _ ↦ ?_)
    rw [and_comm]
    exact and_congr_left fun hmajor ↦ by rw [hmajor]
  rw [hown, ← List.sum_map_add]
  exact congrArg List.sum (List.map_congr_left fun major _ ↦ sumOf_split _ transactions)

/-- The sums under the major categories come to what is spent, or not. -/
theorem total_iff :
    ((resolvedMajors M transactions).map fun major ↦ sumOf (getNetSpendingAmount M)
        (CountedUnder M start stop major) transactions).sum =
      sumOf (getNetSpendingAmount M) (fun t ↦ isBetween start stop t.date.toList ∧
        isSpendingExcludedCategory M t.category.primary = false) transactions ↔
    CountedElsewhere M transactions start stop := by
  have hspent : sumOf (getNetSpendingAmount M)
        (fun t ↦ isBetween start stop t.date.toList = true) transactions =
      sumOf (getNetSpendingAmount M) (fun t ↦
        CountedUnder M start stop (resolveMajorCategory M t.category.primary []) t) transactions +
      sumOf (getNetSpendingAmount M) (fun t ↦ isBetween start stop t.date.toList ∧
        ¬CountedUnder M start stop (resolveMajorCategory M t.category.primary []) t)
          transactions := by
    rw [sumOf_split (fun t ↦
      CountedUnder M start stop (resolveMajorCategory M t.category.primary []) t)]
    exact congrArg₂ (· + ·) (sumOf_congr fun t _ ↦ and_iff_right_of_imp And.left) rfl
  rw [sumOf_not_excluded M fun t ↦ isBetween start stop t.date.toList = true, hspent,
    sum_countedUnder, add_right_inj, CountedElsewhere]

/-- Where all transactions resolve to major categories of the taxonomy, nothing is counted elsewhere
if their detailed categories are apart. -/
theorem countedElsewhere_of_taxonomy (hapart : DetailedApart M transactions start stop)
    (hmajor : ∀ t ∈ transactions, resolveMajorCategory M t.category.primary [] ∈
      CATEGORIES_TAXONOMY.map fun cat ↦ cat.name) :
    CountedElsewhere M transactions start stop := by
  have hother : ∀ major ∈ resolvedMajors M transactions, sumOf (getNetSpendingAmount M)
      (fun t ↦ CountedUnder M start stop major t ∧
        resolveMajorCategory M t.category.primary [] ≠ major) transactions = 0 := by
    intro major hmem
    obtain ⟨u, hu, rfl⟩ := List.mem_map.1 (List.mem_dedup.1 hmem)
    obtain ⟨cat, hcat, hname⟩ := List.mem_map.1 (hmajor u hu)
    rw [← hname]
    refine sumOf_eq_zero fun t ht ⟨⟨hrange, hin⟩, hne⟩ ↦ ?_
    obtain ⟨hprimary, hdetailed | hresolved⟩ := (isInCategory_major_iff hcat).1 hin
    · obtain hsame | hnot := hapart t ht hrange hprimary cat hcat hdetailed
      · exact hne hsame
      · exact hnot (hmajor t ht)
    · exact hne hresolved
  have hown : sumOf (getNetSpendingAmount M) (fun t ↦ isBetween start stop t.date.toList ∧
      ¬CountedUnder M start stop (resolveMajorCategory M t.category.primary []) t)
        transactions = 0 := by
    rw [← sumOf_not_excluded]
    refine sumOf_eq_zero fun t ht ⟨⟨hrange, hnot⟩, hprimary⟩ ↦ hnot ⟨hrange, ?_⟩
    obtain ⟨cat, hcat, hname⟩ := List.mem_map.1 (hmajor t ht)
    rw [← hname]
    exact (isInCategory_major_iff hcat).2 ⟨hprimary, Or.inr hname.symm⟩
  rw [CountedElsewhere, hown, List.map_congr_left hother, List.map_const', List.sum_replicate,
    nsmul_zero]

end Total

/-- **Which lists are parted by their major categories.** Between two days no transaction is counted
under two major categories, and the sums under all the major categories of the list come to what is
spent, if and only if

* no transaction has a detailed category that is written like a major category, if it resolves to
  another one,
* and what is counted under another category than the one it resolves to comes to the same as what
  is not counted under the one it resolves to.
-/
theorem partition_iff (transactions : List Transaction) (start stop : List Char)
    (hdated : ∀ t ∈ transactions, IsDated t) :
    Partitioned M transactions start stop ↔
      DetailedApart M transactions start stop ∧ CountedElsewhere M transactions start stop := by
  constructor
  · rintro ⟨hapart, htotal⟩
    refine ⟨fun t ht hrange hprimary ↦ (countedApart_iff hrange hprimary).1 (hapart t ht), ?_⟩
    rw [spentByMajor_eq hdated] at htotal
    exact total_iff.1 (Option.some.inj htotal)
  · rintro ⟨hapart, helsewhere⟩
    refine ⟨fun t ht cat hcat other hother hcounted hcounted' ↦ ?_, ?_⟩
    · have hprimary := ((isInCategory_major_iff hcat).1 hcounted.2).1
      exact (countedApart_iff hcounted.1 hprimary).2 (hapart t ht hcounted.1 hprimary) cat hcat
        other hother hcounted hcounted'
    · rw [spentByMajor_eq hdated, total_iff.2 helsewhere]

/-- A purchase of 25.00 in February. -/
def februaryPurchase (primary : String) (detailed : Option String) : Transaction :=
  { leapDayPurchase with category := { primary := primary, detailed := detailed } }

theorem partition_iff_groceries :
    Partitioned simpleCase [februaryPurchase "Groceries" none,
      februaryPurchase "FOOD_AND_DRINK" (some "Coffee Shops")] "2024-02-01".toList
        "2024-02-29".toList := by
  refine (partition_iff simpleCase _ _ _ fun t ht ↦ ⟨2024, 2, 29, by decide, ?_⟩).2
    ⟨by decide +kernel, by decide +kernel⟩
  obtain rfl | ht := List.mem_cons.1 ht
  · rfl
  · obtain rfl := List.mem_singleton.1 ht
    rfl

/-- **Insurance for a pet** is counted under `Pets` and under `Insurance`, so where there is another
insurance 75.00 are counted of 50.00. -/
theorem petInsurance_countedTwice :
    CountedUnder simpleCase "2024-02-01".toList "2024-02-29".toList "Pets"
        (februaryPurchase "Pets" (some "Insurance")) ∧
      CountedUnder simpleCase "2024-02-01".toList "2024-02-29".toList "Insurance"
        (februaryPurchase "Pets" (some "Insurance")) ∧
      spentByMajor simpleCase [februaryPurchase "Pets" (some "Insurance"),
        februaryPurchase "Insurance" none] "2024-02-01".toList "2024-02-29".toList = some 7500 ∧
      sumOf (getNetSpendingAmount simpleCase) (fun t ↦
        isBetween "2024-02-01".toList "2024-02-29".toList t.date.toList ∧
          isSpendingExcludedCategory simpleCase t.category.primary = false)
        [februaryPurchase "Pets" (some "Insurance"), februaryPurchase "Insurance" none] = 5000 := by
  decide +kernel

end Sumurai.Frontend
