import Sumurai.Foundations.OrderBy
import Sumurai.Frontend.CategoryMembership
import Sumurai.Frontend.SpelledMajors

/-!
# The category filter

The list of transactions offers the major categories of what it shows, and is narrowed to one of
them when it is selected. The categories offered are those that the primary categories resolve to;
the filter compares how the primary category is written with the label.

`categoryFilter_iff` says for which lists every label shows the transactions that it stands for.
-/

namespace Sumurai.Frontend

variable (M : CaseMapping) (parsed : String → Option (ℤ × ℕ × ℕ))

/-! ### The filter -/

/-- `Transaction`, with what the search reads of it. -/
structure ListedTransaction extends Transaction where
  name : String
  merchant : Option String
deriving DecidableEq, Repr

/-- `FilterCriteria`. -/
structure FilterCriteria where
  search : Option String
  category : Option String
  subcategory : Option String
  dateRange : Option (List Char × List Char)

/-- `toDateOnlyKey`. `parsed` is the year, the month and the day that `new Date` reads of a text
that does not start with a date, in the time zone of the browser. -/
def toDateOnlyKey (value : String) : List Char :=
  let key := value.toList.take 10
  if key.length = 10 ∧ key[4]? = some '-' ∧ key[7]? = some '-' ∧
      ∀ i ∈ [0, 1, 2, 3, 5, 6, 8, 9], key[i]?.any Char.isDigit then key
  else
    match parsed value with
    | some (year, month, day) => dayTemplate year month day
    | none => []

/-- `filterBySearch`. -/
def filterBySearch (transactions : List ListedTransaction) (search : String) :
    List ListedTransaction :=
  let s := trimLower M search
  if s = [] then transactions
  else transactions.filter fun t ↦
    s <:+: M.lowerCase t.name.toList ∨ s <:+: M.lowerCase (t.merchant.getD "").toList ∨
      t.pending.getD false ∧
        (s = "pending".toList ∨ 4 ≤ s.length ∧ s <+: "pending".toList)

/-- `filterByCategory`. -/
def filterByCategory (transactions : List ListedTransaction) (category : String) :
    List ListedTransaction :=
  transactions.filter fun t ↦
    M.lowerCase t.category.primary.toList = M.lowerCase category.toList ∨
      M.lowerCase (formatCategoryName M t.category.primary).toList =
        M.lowerCase (formatCategoryName M category).toList

/-- `filterBySubcategory`. -/
def filterBySubcategory (transactions : List ListedTransaction) (subcategory : String) :
    List ListedTransaction :=
  transactions.filter fun t ↦ detailedName M t.toTransaction = M.lowerCase subcategory.toList

/-- `filterByDateRange`. -/
def filterByDateRange (transactions : List ListedTransaction) (start stop : List Char) :
    List ListedTransaction :=
  transactions.filter fun t ↦ isBetween start stop (toDateOnlyKey parsed t.date)

/-- `sortByDate`. -/
def sortByDate (transactions : List ListedTransaction) : List ListedTransaction :=
  transactions.insertionSort (OrderBy.desc fun t ↦ toDateOnlyKey parsed t.date)

/-- `TransactionFilter.filter`. -/
def TransactionFilter.filter (transactions : List ListedTransaction) (criteria : FilterCriteria) :
    List ListedTransaction :=
  let result := ((criteria.search.filter (· ≠ "")).map (filterBySearch M transactions)).getD
    transactions
  let result := ((criteria.category.filter (· ≠ "")).map (filterByCategory M result)).getD result
  let result :=
    ((criteria.subcategory.filter (· ≠ "")).map (filterBySubcategory M result)).getD result
  let result := (criteria.dateRange.map fun range ↦
    filterByDateRange parsed result range.1 range.2).getD result
  sortByDate parsed result

/-! ### The list -/

/-- `resolveCategoryLabel`. -/
def resolveCategoryLabel (t : ListedTransaction) : String :=
  if t.category.primary = "" then "Shopping" else resolveMajorCategory M t.category.primary []

section List

variable (all : List ListedTransaction) (search : String) (start stop : List Char)

/-- `categoryOptionItems`. -/
def categoryOptionItems : List ListedTransaction :=
  (TransactionFilter.filter M parsed all
    { search := some (String.ofList (trim search.toList))
      category := none
      subcategory := none
      dateRange := some (start, stop) }).filter fun t ↦ getNetSpendingAmount M t.toTransaction ≠ 0

/-- `filtered`. -/
def filtered (selectedCategory selectedSubcategory : Option String) : List ListedTransaction :=
  let result := TransactionFilter.filter M parsed all
    { search := some (String.ofList (trim search.toList))
      category := selectedCategory
      subcategory := selectedSubcategory
      dateRange := some (start, stop) }
  if ¬isTruthy selectedCategory ∧ ¬isTruthy selectedSubcategory then result
  else result.filter fun t ↦ getNetSpendingAmount M t.toTransaction ≠ 0

/-- The label that a transaction is listed under. -/
def offeredLabel (t : ListedTransaction) : String :=
  if resolveCategoryLabel M t = "" then "Shopping" else resolveCategoryLabel M t

/-- `availableCategories`, before they are sorted by name. -/
def availableCategories : List String :=
  ((categoryOptionItems M parsed all search start stop).map (offeredLabel M)).dedup

end List

/-! ### The condition -/

/-- Every transaction is written like the label that it is listed under, and like no other label
that is not in the taxonomy. -/
def WrittenAsLabelled (items : List ListedTransaction) : Prop :=
  ∀ t ∈ items, WrittenAs M (offeredLabel M t) t.toTransaction ∧
    ∀ u ∈ items, offeredLabel M u ∉ CATEGORIES_TAXONOMY.map (fun cat ↦ cat.name) →
      WrittenAs M (offeredLabel M u) t.toTransaction → offeredLabel M t = offeredLabel M u

instance (items : List ListedTransaction) : Decidable (WrittenAsLabelled M items) :=
  inferInstanceAs (Decidable (∀ t ∈ items, _))

/-! ### One label -/

theorem offeredLabel_eq_of_resolve {t : ListedTransaction} {major : String} (hne : major ≠ "")
    (h : resolveMajorCategory M t.category.primary [] = major) : offeredLabel M t = major := by
  have hlabel : resolveCategoryLabel M t = major := by
    rw [resolveCategoryLabel]
    split
    · rename_i hempty
      rw [hempty] at h
      exact h
    · exact h
  rw [offeredLabel, hlabel, if_neg hne]

/-- A transaction that is written like a label of the taxonomy is listed under it. -/
theorem offeredLabel_of_writtenAs {cat : CategoryDefinition} (hcat : cat ∈ CATEGORIES_TAXONOMY)
    {t : ListedTransaction} (h : WrittenAs M cat.name t.toTransaction) :
    offeredLabel M t = cat.name := by
  refine offeredLabel_eq_of_resolve M (fun hempty ↦ ?_) (resolveMajorCategory_of_spells hcat h)
  refine (majors_checked cat hcat).2.1 ?_
  rw [hempty]
  rfl

theorem offeredLabel_ne_empty (t : ListedTransaction) : offeredLabel M t ≠ "" := by
  rw [offeredLabel]
  split
  · decide
  · assumption

variable {M parsed}

/-- The steps of the filter do not depend on their order. -/
theorem filter_category {all : List ListedTransaction} {search : Option String}
    {range : List Char × List Char} {label : String} (hlabel : label ≠ "") :
    TransactionFilter.filter M parsed all ⟨search, some label, none, some range⟩ =
      (TransactionFilter.filter M parsed all ⟨search, none, none, some range⟩).filter fun t ↦
        WrittenAs M label t.toTransaction := by
  have hsome : (some label).filter (· ≠ "") = some label :=
    Option.filter_some_pos (decide_eq_true hlabel)
  unfold TransactionFilter.filter
  simp only [hsome, Option.filter_none, Option.map_some, Option.map_none, Option.getD_some,
    Option.getD_none]
  generalize ((search.filter (· ≠ "")).map (filterBySearch M all)).getD all = found
  rw [sortByDate, sortByDate, OrderBy.filter_orderBy, filterByDateRange, filterByDateRange,
    filterByCategory, List.filter_filter, List.filter_filter]
  refine congrArg _ (List.filter_congr fun t _ ↦ ?_)
  rw [Bool.and_comm]
  rfl

/-- A selected category narrows the list to what is written like it. -/
theorem filtered_eq {all : List ListedTransaction} {search : String} {start stop : List Char}
    {label : String} (hlabel : label ≠ "") :
    filtered M parsed all search start stop (some label) none =
      (categoryOptionItems M parsed all search start stop).filter fun t ↦
        WrittenAs M label t.toTransaction := by
  have htruthy : isTruthy (some label) = true := decide_eq_true hlabel
  rw [filtered, categoryOptionItems]
  simp only [htruthy, not_true, false_and, if_false]
  rw [filter_category hlabel, List.filter_comm]

/-- The labels of a list that is narrowed to one of them. -/
theorem filter_writtenAs_eq_iff {items : List ListedTransaction} {label : String} :
    (items.filter fun t ↦ WrittenAs M label t.toTransaction) =
        (items.filter fun t ↦ offeredLabel M t = label) ↔
      ∀ t ∈ items, WrittenAs M label t.toTransaction ↔ offeredLabel M t = label := by
  constructor
  · intro h t ht
    have hmem := congrArg (t ∈ ·) h
    simpa [ht] using hmem
  · exact fun h ↦ List.filter_congr fun t ht ↦ decide_eq_decide.2 (h t ht)

/-- **Which lists show what their labels stand for.** Each label that is offered shows exactly the
transactions of money spent that are listed under it, if and only if each of these transactions is
written like its own label, and like none of the others that is not in the taxonomy. -/
theorem categoryFilter_iff (all : List ListedTransaction) (search : String)
    (start stop : List Char) :
    (∀ label ∈ availableCategories M parsed all search start stop,
      filtered M parsed all search start stop (some label) none =
        (categoryOptionItems M parsed all search start stop).filter fun t ↦
          offeredLabel M t = label) ↔
      WrittenAsLabelled M (categoryOptionItems M parsed all search start stop) := by
  have hshown (t : ListedTransaction) :
      filtered M parsed all search start stop (some (offeredLabel M t)) none =
          ((categoryOptionItems M parsed all search start stop).filter fun u ↦
            offeredLabel M u = offeredLabel M t) ↔
        ∀ u ∈ categoryOptionItems M parsed all search start stop,
          WrittenAs M (offeredLabel M t) u.toTransaction ↔ offeredLabel M u = offeredLabel M t := by
    rw [filtered_eq (offeredLabel_ne_empty M t), filter_writtenAs_eq_iff]
  simp only [availableCategories, List.mem_dedup, List.forall_mem_map, hshown]
  constructor
  · exact fun h t ht ↦ ⟨(h t ht t ht).2 rfl, fun u hu _ hwritten ↦ (h u hu t ht).1 hwritten⟩
  · intro h u hu t ht
    refine ⟨fun hwritten ↦ ?_, fun hsame ↦ hsame ▸ (h t ht).1⟩
    -- a label of the taxonomy is written like by what is listed under it alone
    by_cases hmem : offeredLabel M u ∈ CATEGORIES_TAXONOMY.map fun cat ↦ cat.name
    · obtain ⟨cat, hcat, hname⟩ := List.mem_map.1 hmem
      rw [← hname] at hwritten ⊢
      exact offeredLabel_of_writtenAs M hcat hwritten
    · exact (h t ht).2 u hu hmem hwritten

/-- No label shows an empty list then. -/
theorem filtered_ne_nil {all : List ListedTransaction} {search : String} {start stop : List Char}
    (h : WrittenAsLabelled M (categoryOptionItems M parsed all search start stop)) {label : String}
    (hlabel : label ∈ availableCategories M parsed all search start stop) :
    filtered M parsed all search start stop (some label) none ≠ [] := by
  rw [(categoryFilter_iff all search start stop).2 h label hlabel]
  obtain ⟨t, ht, rfl⟩ := List.mem_map.1 (List.mem_dedup.1 hlabel)
  exact List.ne_nil_of_mem (List.mem_filter.2 ⟨ht, decide_eq_true rfl⟩)

/-- Lunch, in the category that the provider has for it. -/
def listedLunch (primary : String) : ListedTransaction where
  toTransaction := { leapDayPurchase with category := { primary := primary, detailed := none } }
  name := "Lunch"
  merchant := none

/-- **A label that shows nothing.** `FOOD_AND_DRINK` is offered as `Food & Dining`, but neither
written nor shown like it. -/
theorem foodAndDining_empty :
    availableCategories simpleCase (fun _ ↦ none) [listedLunch "FOOD_AND_DRINK"] ""
        "2024-02-01".toList "2024-02-29".toList = ["Food & Dining"] ∧
      filtered simpleCase (fun _ ↦ none) [listedLunch "FOOD_AND_DRINK"] "" "2024-02-01".toList
        "2024-02-29".toList (some "Food & Dining") none = [] := by
  decide +kernel

end Sumurai.Frontend
