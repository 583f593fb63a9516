import Sumurai.Analytics.SpendingCategory

/-!
# Spending after a recategorisation

A user who gives a transaction another category means it to count as one of that category. The
amount that counts is decided by the effective category, which is the user's where there is one, but
also by the provider's detailed category: `get_spending_amount_with_account` leaves a transaction
out if either of the two is excluded from spending.

`spendingAmount_eq_iff` is the comparison of two runs: of two transactions that differ in nothing
but the provider's categories and carry the same category of the user, the same amount counts unless
exactly one of the detailed categories is excluded, and something would count at all.
-/

namespace Sumurai

/-- A payment of the loan that a credit account is, by the provider's category. -/
def IsLoanPayment (t : TransactionWithAccount) : Prop :=
  (toLowercase t.accountType = "credit".toList ∨
    toLowercase t.accountType = "credit card".toList) ∧
      normalizeCategoryKey t.categoryPrimary = "loanpayments".toList

instance (t : TransactionWithAccount) : Decidable (IsLoanPayment t) :=
  inferInstanceAs (Decidable (_ ∧ _))

/-- What a transaction counts for by its provider, its account and its amount alone. -/
def amountByAccount (t : TransactionWithAccount) : Decimal :=
  let accountType := toLowercase t.accountType
  if t.provider.getD "plaid" = "teller" ∧ accountType = "credit".toList then -t.amount
  else if t.provider.getD "plaid" = "teller" ∧
      accountType ∈ ["depository".toList, "checking".toList, "savings".toList] then max t.amount 0
  else if accountType = "credit".toList ∨ accountType = "credit card".toList then t.amount
  else max t.amount 0

/-- Two transactions that differ in nothing but the provider's categories. -/
def DifferInProviderCategories (t t' : TransactionWithAccount) : Prop :=
  t' = { t with categoryPrimary := t'.categoryPrimary, categoryDetailed := t'.categoryDetailed }

instance (t t' : TransactionWithAccount) : Decidable (DifferInProviderCategories t t') :=
  inferInstanceAs (Decidable (_ = _))

section TwoRuns

variable {t t' : TransactionWithAccount} {category : String}

/-- What a posted transaction counts for: the amount of its account, unless a category leaves it
out. -/
theorem getSpendingAmount_eq_ite (hposted : t.pending = false) (hloan : ¬IsLoanPayment t) :
    getSpendingAmountWithAccount t =
      if isSpendingExcludedCategory (getEffectiveCategoryName t) ∨
        isSpendingExcludedCategory t.categoryDetailed then 0 else amountByAccount t := by
  have hpending : ¬t.pending = true := by
    rw [hposted]
    exact Bool.false_ne_true
  unfold getSpendingAmountWithAccount
  rw [if_neg hpending]
  -- the test for a loan payment is the only other one in between
  exact if_congr Iff.rfl rfl (if_neg hloan)

/-- The effective category is the user's, where there is one. -/
theorem getEffectiveCategoryName_of_custom (hcustom : t.customCategory = some category)
    (hnonempty : category ≠ "") : getEffectiveCategoryName t = resolveMajorCategory category := by
  rw [getEffectiveCategoryName, hcustom, Option.some_or, Option.filter_some,
    if_pos (decide_eq_true hnonempty), Option.getD_some]

theorem amountByAccount_of_differ (h : DifferInProviderCategories t t') :
    amountByAccount t' = amountByAccount t := by
  rw [h]
  rfl

/-- **When the user's category decides what counts.** Two posted transactions that differ in nothing
but the provider's categories, neither of them the loan payment of a credit account, carry the same
category of the user. They count for the same amount if and only if both or neither of their
detailed categories are excluded from spending, or the user's own category is, or the account lets
nothing of the amount count. -/
theorem spendingAmount_eq_iff (t t' : TransactionWithAccount) (category : String)
    (h : DifferInProviderCategories t t') (hposted : t.pending = false)
    (hcustom : t.customCategory = some category) (hnonempty : category ≠ "")
    (hloan : ¬IsLoanPayment t) (hloan' : ¬IsLoanPayment t') :
    getSpendingAmountWithAccount t = getSpendingAmountWithAccount t' ↔
      isSpendingExcludedCategory t.categoryDetailed =
          isSpendingExcludedCategory t'.categoryDetailed ∨
        isSpendingExcludedCategory (resolveMajorCategory category) ∨ amountByAccount t = 0 := by
  have hposted' : t'.pending = false := by
    rw [h]
    exact hposted
  have hcustom' : t'.customCategory = some category := by
    rw [h]
    exact hcustom
  rw [getSpendingAmount_eq_ite hposted hloan, getSpendingAmount_eq_ite hposted' hloan',
    amountByAccount_of_differ h, getEffectiveCategoryName_of_custom hcustom hnonempty,
    getEffectiveCategoryName_of_custom hcustom' hnonempty]
  -- what is left is a table of three truth values
  cases isSpendingExcludedCategory (resolveMajorCategory category) <;>
    cases isSpendingExcludedCategory t.categoryDetailed <;>
      cases isSpendingExcludedCategory t'.categoryDetailed <;> simp [eq_comm]

end TwoRuns

/-! ### Groceries that the bank calls a transfer -/

/-- A payment of 50.00 from a checking account, which the user has filed under Groceries. The
provider's detailed category is given. -/
def filedUnderGroceries (categoryDetailed : String) : TransactionWithAccount where
  id := 1
  accountId := 1
  userId := some 7
  providerAccountId := none
  providerTransactionId := some "txn-1"
  amount := 5000
  date := 0
  merchantName := some "Corner Store"
  categoryPrimary := "TRANSFER_OUT"
  categoryDetailed := categoryDetailed
  categoryConfidence := "HIGH"
  paymentChannel := none
  pending := false
  createdAt := none
  accountName := "Checking"
  accountType := "depository"
  accountMask := none
  provider := some "plaid"
  customCategory := some "Groceries"
  customSubcategory := none
  ruleCategory := none
  ruleSubcategory := none

theorem spendingAmount_eq_iff_transfer :
    getSpendingAmountWithAccount (filedUnderGroceries "SUPERMARKETS") =
        getSpendingAmountWithAccount (filedUnderGroceries "TRANSFER_OUT") ↔
      isSpendingExcludedCategory "SUPERMARKETS" = isSpendingExcludedCategory "TRANSFER_OUT" ∨
        isSpendingExcludedCategory (resolveMajorCategory "Groceries") ∨
          amountByAccount (filedUnderGroceries "SUPERMARKETS") = 0 :=
  spendingAmount_eq_iff (filedUnderGroceries "SUPERMARKETS") (filedUnderGroceries "TRANSFER_OUT")
    "Groceries" rfl rfl rfl (by decide) (by decide) (by decide)

/-- **Groceries that do not count.** The same payment, filed under Groceries by the user, counts for
50.00 or for nothing, by what the provider calls it. -/
theorem groceries_not_counted :
    DifferInProviderCategories (filedUnderGroceries "SUPERMARKETS")
        (filedUnderGroceries "TRANSFER_OUT") ∧
      getSpendingAmountWithAccount (filedUnderGroceries "SUPERMARKETS") = 5000 ∧
      getSpendingAmountWithAccount (filedUnderGroceries "TRANSFER_OUT") = 0 := by
  decide +kernel

end Sumurai
