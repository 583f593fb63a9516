import Sumurai.Categories.StoredOverrides
import Sumurai.Frontend.SpendingAgreement

/-!
# Filing a transaction in place

When a user files a transaction, `updateTransactionCategory` sends the names to the server and then
changes the record on display, so that nothing has to be loaded again. The next time the list is
loaded, the record is made of what the server has stored.

The two records differ in what the change in place leaves as it was: a subcategory of the provider's
when none is given, and the category of a rule, which can still exclude the transaction from what is
counted (`updateTransactionCategory_iff`).
-/

namespace Sumurai.Frontend

variable (M : CaseMapping)

/-- `updateTransactionCategory`, for the record of the transaction that is filed. -/
def updateTransactionCategory (t : Transaction) (categoryName : String)
    (subcategoryName : Option String) : Transaction :=
  { t with
    customCategory := some categoryName
    customSubcategory := subcategoryName
    category :=
      { primary := categoryName
        detailed := if isTruthy subcategoryName then subcategoryName else t.category.detailed } }

/-- The subcategory in the request of `CategoryService.setTransactionCategory`, which leaves an
empty one out. -/
def requestedSubcategory (subcategoryName : Option String) : Option String :=
  subcategoryName.filter (· ≠ "")

/-- A record on display and the row that the server has of the transaction: what the record counts
by, its categories apart. -/
structure Displays (t : Transaction) (row : TransactionWithAccount) : Prop where
  amount : t.amount = row.amount
  accountType : t.accountType = row.accountType
  provider : t.provider = row.provider

/-- Both records are shown in the same category, and count the same. -/
structure ShownAlike (t t' : Transaction) : Prop where
  category : t.category = t'.category
  spending : getNetSpendingAmount M t = getNetSpendingAmount M t'

/-! ### The condition -/

/-- A subcategory that the transformer shows under a category. -/
def ShowsDetailed (primary detailed : String) : Prop :=
  detailed ≠ "" ∧ trimLower M detailed ≠ "other".toList ∧
    ¬"other ".toList <+: trimLower M detailed ∧
      (trimLower M primary = "groceries".toList ∨ trimLower M detailed ≠ trimLower M primary)

instance (primary detailed : String) : Decidable (ShowsDetailed M primary detailed) :=
  inferInstanceAs (Decidable (_ ∧ _))

/-- Nothing is counted under a category: it is an excluded one, a loan payment on a credit account,
or no money has been spent. -/
def NotCounted (t : Transaction) (primary : String) (detailed : Option String) : Prop :=
  isSpendingExcludedCategory M primary ∨ isSpendingExcludedCategory M (detailed.getD "") ∨
    if isCreditAccount M t then
      Text.asciiKey (trimLower M primary) = "loanpayments".toList ∨ t.amount = 0
    else t.amount ≤ 0

/-- The subcategory on display is the one that is stored, and it is shown. Where none is given, it
is that of a hidden duplicate, if it has one. -/
def DetailedStored (t : Transaction) (categoryName : String) (subcategoryName duplicate :
    Option String) : Prop :=
  match requestedSubcategory subcategoryName with
  | some s =>
    (if trimmed s = "" then duplicate = some s else trimmed s = s) ∧ ShowsDetailed M categoryName s
  | none => t.category.detailed = duplicate.filter fun s ↦ ShowsDetailed M categoryName s

/-- When a transaction is filed in place as on the server. -/
structure FiledAlike (t : Transaction) (categoryName : String) (subcategoryName duplicate :
    Option String) : Prop where
  primary : trimmed categoryName = categoryName
  detailed : DetailedStored M t categoryName subcategoryName duplicate
  counted : isSpendingExcludedCategory M (t.ruleCategory.getD "") →
    NotCounted M t categoryName ((requestedSubcategory subcategoryName).or t.category.detailed)

/-! ### The category -/

section Category

variable {t : Transaction} {row : TransactionWithAccount} {categoryName : String}
variable {subcategoryName duplicate : Option String}

/-- The category of a record made of a row that is filed. -/
theorem category_received_filedUnder (row : TransactionWithAccount) (hname : categoryName ≠ "")
    (stored : Option String) :
    (received M (row.filedUnder categoryName stored)).category =
      ⟨categoryName, stored.filter fun s ↦ ShowsDetailed M categoryName s⟩ := by
  have htruthy : isTruthy (some categoryName) = true := decide_eq_true hname
  have hdetailed : (if isTruthy (some categoryName) || isTruthy none then stored.or none
      else (stored.or none).or (some row.categoryDetailed)) = stored := by
    rw [htruthy, Bool.true_or, if_pos rfl, Option.or_none]
  exact congrArg (fun detailed : Option String ↦
    TransactionCategory.mk categoryName (detailed.filter fun s ↦ ShowsDetailed M categoryName s))
    hdetailed

/-- The category of the record that is changed in place. -/
theorem category_updateTransactionCategory (t : Transaction) (categoryName : String)
    (subcategoryName : Option String) :
    (updateTransactionCategory t categoryName subcategoryName).category =
      ⟨categoryName, (requestedSubcategory subcategoryName).or t.category.detailed⟩ := by
  rcases subcategoryName with - | s
  · rfl
  · by_cases hs : s = ""
    · rw [hs]
      rfl
    · have htruthy : isTruthy (some s) = true := decide_eq_true hs
      have hsent : requestedSubcategory (some s) = some s :=
        Option.filter_some_pos (by simpa using hs)
      rw [hsent, updateTransactionCategory]
      simp only [htruthy, if_true, Option.some_or]

/-- A given subcategory is shown as it is stored. -/
theorem detailedStored_iff :
    (requestedSubcategory subcategoryName).or t.category.detailed =
        (((trimmedOrNone (requestedSubcategory subcategoryName)).or duplicate).filter fun s ↦
          ShowsDetailed M categoryName s) ↔
      DetailedStored M t categoryName subcategoryName duplicate := by
  rw [DetailedStored]
  rcases requestedSubcategory subcategoryName with - | s
  · rfl
  · rw [Option.some_or, eq_comm, Option.filter_eq_some_iff, decide_eq_true_iff, trimmedOrNone,
      Option.map_some]
    refine and_congr_left fun _ ↦ ?_
    by_cases hs : trimmed s = ""
    · rw [hs, if_pos rfl]
      rfl
    · rw [if_neg hs, Option.filter_some_pos (by simpa using hs), Option.some_or, Option.some_inj]

theorem category_eq_iff (row : TransactionWithAccount) (hname : trimmed categoryName ≠ "") :
    (updateTransactionCategory t categoryName subcategoryName).category =
        (received M (row.filedUnder (trimmed categoryName)
          ((trimmedOrNone (requestedSubcategory subcategoryName)).or duplicate))).category ↔
      trimmed categoryName = categoryName ∧
        DetailedStored M t categoryName subcategoryName duplicate := by
  rw [category_updateTransactionCategory, category_received_filedUnder M row hname,
    TransactionCategory.mk.injEq]
  constructor
  · rintro ⟨hprimary, hdetailed⟩
    rw [← hprimary] at hdetailed
    exact ⟨hprimary.symm, (detailedStored_iff M).1 hdetailed⟩
  · rintro ⟨hprimary, hdetailed⟩
    rw [hprimary]
    exact ⟨rfl, (detailedStored_iff M).2 hdetailed⟩

end Category

/-! ### The spending -/

section Counted

variable {t t' : Transaction}

/-- The category of a rule can only exclude a transaction. -/
theorem getNetSpendingAmount_ruleCategory (hcategory : t.category = t'.category)
    (hcustom : t.customCategory = t'.customCategory) (hrule : t'.ruleCategory = none)
    (hamount : t.amount = t'.amount) (htype : t.accountType = t'.accountType)
    (hprovider : t.provider = t'.provider) :
    getNetSpendingAmount M t =
      if isSpendingExcludedCategory M (t.ruleCategory.getD "") then 0
      else getNetSpendingAmount M t' := by
  have hnone : isSpendingExcludedCategory M (t'.ruleCategory.getD "") = false := by
    rw [hrule]
    rfl
  have hcredit : isCreditAccount M t = isCreditAccount M t' := by
    rw [isCreditAccount, htype, isCreditAccount]
  have hdisplay : getDisplayAmount M t = getDisplayAmount M t' := by
    rw [getDisplayAmount, hprovider, hcredit, hamount, getDisplayAmount]
  have hexcluded : isTransactionCategoryExcluded M t =
      (isSpendingExcludedCategory M (t.ruleCategory.getD "") ||
        isTransactionCategoryExcluded M t') := by
    rw [isTransactionCategoryExcluded, isTransactionCategoryExcluded, hasExcludedCategory,
      hasExcludedCategory, hnone, hcategory, hcustom, hcredit, Bool.or_false, Bool.or_right_comm,
      Bool.or_comm _ (isSpendingExcludedCategory M (t.ruleCategory.getD ""))]
  rw [getNetSpendingAmount, getNetSpendingAmount, hexcluded, hcredit, hdisplay]
  cases isSpendingExcludedCategory M (t.ruleCategory.getD "") with
  | true => rfl
  | false => rfl

/-- What excludes a transaction, where the category on display is the user's own. -/
theorem isTransactionCategoryExcluded_iff (hcustom : t.customCategory = some t.category.primary)
    (hrule : t.ruleCategory = none) :
    isTransactionCategoryExcluded M t = true ↔
      isSpendingExcludedCategory M t.category.primary ∨
        isSpendingExcludedCategory M (t.category.detailed.getD "") ∨
          isCreditAccount M t ∧
            Text.asciiKey (trimLower M t.category.primary) = "loanpayments".toList := by
  have hempty : isSpendingExcludedCategory M (Option.getD none "") = false := rfl
  have htwice : ∀ a b : Bool, (a || b || a) = (a || b) := by decide
  rw [isTransactionCategoryExcluded, hasExcludedCategory, hcustom, hrule, hempty, Bool.or_false,
    Option.getD_some, htwice, Bool.or_eq_true, Bool.or_eq_true, Bool.and_eq_true,
    decide_eq_true_iff, or_assoc]

/-- What counts nothing. -/
theorem getNetSpendingAmount_eq_zero_iff (hcustom : t.customCategory = some t.category.primary)
    (hrule : t.ruleCategory = none) :
    getNetSpendingAmount M t = 0 ↔ NotCounted M t t.category.primary t.category.detailed := by
  have hexcluded := isTransactionCategoryExcluded_iff M hcustom hrule
  rw [getNetSpendingAmount, NotCounted]
  by_cases hcredit : isCreditAccount M t = true
  · have hzero : -getDisplayAmount M t = 0 ↔ t.amount = 0 := by
      rw [getDisplayAmount]
      split <;> lia
    rw [if_neg (not_not.2 hcredit), if_pos hcredit, ite_eq_left_iff, hzero, ← or_iff_not_imp_left,
      hexcluded]
    simp only [hcredit, true_and, or_assoc]
  · have hzero : (if 0 ≤ getDisplayAmount M t then (0 : Decimal) else -getDisplayAmount M t) = 0 ↔
        t.amount ≤ 0 := by
      rw [getDisplayAmount, if_neg (not_and_of_not_right _ hcredit)]
      split <;> lia
    rw [if_pos hcredit, if_neg hcredit, ite_eq_left_iff, hzero, ← or_iff_not_imp_left, hexcluded]
    simp only [hcredit, Bool.false_eq_true, false_and, or_false, or_assoc]

end Counted

/-! ### Filing -/

section Filed

variable {t : Transaction} {row : TransactionWithAccount} {categoryName : String}
variable {subcategoryName duplicate : Option String}

/-- The spending of both records, where the categories agree. -/
theorem spending_eq_iff (hshown : Displays t row) {stored : Option String}
    (hcategory : (updateTransactionCategory t categoryName subcategoryName).category =
      (received M (row.filedUnder categoryName stored)).category) :
    getNetSpendingAmount M (updateTransactionCategory t categoryName subcategoryName) =
        getNetSpendingAmount M (received M (row.filedUnder categoryName stored)) ↔
      (isSpendingExcludedCategory M (t.ruleCategory.getD "") →
        NotCounted M t categoryName
          ((requestedSubcategory subcategoryName).or t.category.detailed)) := by
  have hzero : getNetSpendingAmount M (received M (row.filedUnder categoryName stored)) = 0 ↔
      NotCounted M (received M (row.filedUnder categoryName stored)) categoryName
        ((requestedSubcategory subcategoryName).or t.category.detailed) := by
    have hupdated := category_updateTransactionCategory t categoryName subcategoryName
    rw [hcategory] at hupdated
    have hspec := getNetSpendingAmount_eq_zero_iff M
      (t := received M (row.filedUnder categoryName stored)) (by rw [hupdated]; rfl) rfl
    rwa [hupdated] at hspec
  have hcounted : NotCounted M (received M (row.filedUnder categoryName stored)) =
      NotCounted M t := by
    have hcredit : isCreditAccount M (received M (row.filedUnder categoryName stored)) =
        isCreditAccount M t := by
      rw [isCreditAccount, isCreditAccount, hshown.accountType]
      rfl
    have hamount : (received M (row.filedUnder categoryName stored)).amount = t.amount :=
      hshown.amount.symm
    funext primary detailed
    rw [NotCounted, NotCounted, hcredit, hamount]
  rw [← hcounted, ← hzero, getNetSpendingAmount_ruleCategory M hcategory rfl rfl hshown.amount
    hshown.accountType hshown.provider]
  show (if isSpendingExcludedCategory M (t.ruleCategory.getD "") = true then (0 : Decimal) else _) =
    _ ↔ _
  rw [ite_eq_right_iff]
  exact imp_congr_right fun _ ↦ eq_comm

/-- The record changed in place, and the one made of the row that is filed. -/
theorem shownAlike_iff (hshown : Displays t row) (hname : trimmed categoryName ≠ "") :
    ShownAlike M (updateTransactionCategory t categoryName subcategoryName)
        (received M (row.filedUnder (trimmed categoryName)
          ((trimmedOrNone (requestedSubcategory subcategoryName)).or duplicate))) ↔
      FiledAlike M t categoryName subcategoryName duplicate := by
  constructor
  · rintro ⟨hcategory, hspending⟩
    obtain ⟨hprimary, hdetailed⟩ := (category_eq_iff M row hname).1 hcategory
    rw [hprimary] at hcategory hspending
    exact ⟨hprimary, hdetailed, (spending_eq_iff M hshown hcategory).1 hspending⟩
  · rintro ⟨hprimary, hdetailed, hcounted⟩
    have hcategory := (category_eq_iff M row hname).2 ⟨hprimary, hdetailed⟩
    rw [hprimary] at hcategory ⊢
    exact ⟨hcategory, (spending_eq_iff M hshown hcategory).2 hcounted⟩

/-- **When filing in place is what a reload shows.** A user files a transaction on display. The
record that is changed in place and the one made of the server's row afterwards show the same
category and count the same, if and only if

* the category has no spaces at its ends,
* the subcategory that is given has none either and is one that the transformer shows, or, where
  none is given, the subcategory on display is that of a hidden duplicate,
* and no rule had filed the transaction under an excluded category, unless it does not count anyway.
-/
theorem updateTransactionCategory_iff (db db' : CategoryStore) (now : Timestamp) (userId : Uuid)
    (rules rules' : List CategoryRule) (t : Transaction) (row row' : TransactionWithAccount)
    (categoryName : String) (subcategoryName : Option String)
    (hkey : (db.transactions.map TransactionRow.id).Nodup)
    (hrow : row ∈ servedTransactions db.toStore userId rules) (hshown : Displays t row)
    (hset : setAuthenticatedTransactionCategory db now row.id userId categoryName
      (requestedSubcategory subcategoryName) = .ok db')
    (hrow' : row' ∈ servedTransactions db'.toStore userId rules') (hid : row'.id = row.id) :
    ShownAlike M (updateTransactionCategory t categoryName subcategoryName) (received M row') ↔
      FiledAlike M t categoryName subcategoryName
        (duplicateSubcategory db.toStore userId row.id) := by
  obtain ⟨hname, hstored⟩ := setAuthenticatedTransactionCategory_stores hset
  rw [(mem_servedTransactions_iff hkey hrow hstored hid).1 hrow']
  exact shownAlike_iff M hshown hname

end Filed

/-- A lunch, in the category that the provider has given it. -/
def lunchStore : CategoryStore where
  toStore := { Store.empty with
    accounts := [⟨1, some 7, none, none, "Checking", "checking", none, none, none, none⟩]
    transactions := [{ checkingTransaction 5 100 20 with
      categoryPrimary := "Food & Dining", categoryDetailed := "Fast Food" }] }
  userCategories := []

/-- The store after the lunch is filed. -/
def lunchFiled (categoryName : String) (subcategoryName : Option String) : CategoryStore :=
  { lunchStore with
    transactionCategoryOverrides := [⟨5, 7, categoryName, subcategoryName, some 0⟩] }

/-- The row of the lunch. -/
def lunch : TransactionWithAccount where
  toTransaction := { checkingTransaction 5 100 20 with
    categoryPrimary := "Food & Dining", categoryDetailed := "Fast Food" }.toTransaction
  accountName := "Checking"
  accountType := "checking"
  accountMask := none
  provider := none
  customCategory := none
  customSubcategory := none
  ruleCategory := none
  ruleSubcategory := none

/-- A lunch that is filed under another category and a subcategory of it. -/
theorem updateTransactionCategory_iff_clothing :
    ShownAlike simpleCase
      (updateTransactionCategory (received simpleCase lunch) "Shopping" (some "Clothing"))
      (received simpleCase (lunch.filedUnder "Shopping" (some "Clothing"))) := by
  refine (updateTransactionCategory_iff simpleCase lunchStore
    (lunchFiled "Shopping" (some "Clothing")) 0 7 [] [] (received simpleCase lunch) lunch
    (lunch.filedUnder "Shopping" (some "Clothing")) "Shopping" (some "Clothing")
    (List.nodup_singleton _) (by decide +kernel) ⟨rfl, rfl, rfl⟩ (by decide +kernel)
    (by decide +kernel) rfl).2 ⟨by decide +kernel, ?_, ?_⟩
  · show (if trimmed "Clothing" = "" then _ else _) ∧ _
    decide +kernel
  · exact fun h ↦ absurd h (by decide +kernel)

/-- **A lunch that is still fast food.** A lunch is filed under `Shopping` alone. In place it keeps
the subcategory of the provider, which a reload does not show. -/
theorem fastFood_kept :
    setAuthenticatedTransactionCategory lunchStore 0 lunch.id 7 "Shopping"
        (requestedSubcategory none) = .ok (lunchFiled "Shopping" none) ∧
      servedTransactions lunchStore.toStore 7 [] = [lunch] ∧
      servedTransactions (lunchFiled "Shopping" none).toStore 7 [] =
        [lunch.filedUnder "Shopping" none] ∧
      (updateTransactionCategory (received simpleCase lunch) "Shopping" none).category =
        ⟨"Shopping", some "Fast Food"⟩ ∧
      (received simpleCase (lunch.filedUnder "Shopping" none)).category = ⟨"Shopping", none⟩ := by
  decide +kernel

end Sumurai.Frontend
