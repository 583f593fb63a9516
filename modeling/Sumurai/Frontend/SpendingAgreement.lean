import Sumurai.Analytics.SpendingCategory
import Sumurai.Frontend.Transactions

/-!
# What a transaction counts for on either side

The server counts a posted transaction by `get_spending_amount_with_account`, the client by
`getNetSpendingAmount` of the record it makes of it. Where no category is left out, both go by the
provider and the kind of account, and `getNetSpendingAmount_eq_iff` says when they come to the same
amount.
-/

namespace Sumurai.Frontend

open Text

variable (M : CaseMapping)

/-- The client's record of a transaction. -/
def received (t : TransactionWithAccount) : Transaction :=
  backendToFrontend M (serialize t)

/-- A credit account, by either spelling. -/
def IsCredit (t : TransactionWithAccount) : Prop :=
  toLowercase t.accountType = "credit".toList ∨ toLowercase t.accountType = "credit card".toList

/-- The client's category of a transaction is a loan payment. -/
def ClientLoan (t : TransactionWithAccount) : Prop :=
  asciiKey (trimLower M ((t.customCategory.or t.ruleCategory).getD t.categoryPrimary)) =
    "loanpayments".toList

/-- The provider's category of a transaction is a loan payment. -/
def ServerLoan (t : TransactionWithAccount) : Prop :=
  normalizeCategoryKey t.categoryPrimary = "loanpayments".toList

/-- A transaction of a Teller account of the kind that the server takes for another provider's. -/
def TellerCreditCard (t : TransactionWithAccount) : Prop :=
  t.provider = some "teller" ∧ toLowercase t.accountType = "credit card".toList

instance (t : TransactionWithAccount) : Decidable (IsCredit t) :=
  inferInstanceAs (Decidable (_ ∨ _))

instance (t : TransactionWithAccount) : Decidable (ClientLoan M t) :=
  inferInstanceAs (Decidable (_ = _))

instance (t : TransactionWithAccount) : Decidable (ServerLoan t) :=
  inferInstanceAs (Decidable (_ = _))

instance (t : TransactionWithAccount) : Decidable (TellerCreditCard t) :=
  inferInstanceAs (Decidable (_ ∧ _))

/-- When the client and the server count the same: on a credit account, either side or none must
take the transaction for a loan payment, and one that is not must not be of a Teller account of type
`credit card`. -/
def SpendingAgrees (t : TransactionWithAccount) : Prop :=
  IsCredit t → t.amount ≠ 0 →
    (ClientLoan M t ↔ ServerLoan t) ∧ (TellerCreditCard t → ServerLoan t)

/-! ### The client's record -/

theorem received_primary (t : TransactionWithAccount) :
    (received M t).category.primary =
      (t.customCategory.or t.ruleCategory).getD t.categoryPrimary := by
  show ((t.customCategory.or t.ruleCategory).or (some t.categoryPrimary)).getD "OTHER" = _
  cases t.customCategory.or t.ruleCategory with
  | some category => rfl
  | none => rfl

theorem isCreditAccount_received (t : TransactionWithAccount) :
    isCreditAccount M (received M t) = true ↔ IsCredit t := by
  have hcredit : IsAscii "credit".toList := by decide
  have hcard : IsAscii "credit card".toList := by decide
  show decide (_ ∨ _) = true ↔ _
  rw [decide_eq_true_eq, M.lowerCase_eq_iff simpleCase hcredit,
    M.lowerCase_eq_iff simpleCase hcard]
  rfl

theorem provider_getD_iff (provider : Option String) :
    provider.getD "plaid" = "teller" ↔ provider = some "teller" := by
  cases provider with
  | some name => exact Option.some_inj.symm
  | none => exact iff_of_false (by decide) (by decide)

/-- What the client counts, where no category is left out. -/
theorem getNetSpendingAmount_received {t : TransactionWithAccount}
    (h : hasExcludedCategory M (received M t) = false) :
    getNetSpendingAmount M (received M t) =
      if IsCredit t then
        if ClientLoan M t then 0 else if t.provider = some "teller" then -t.amount else t.amount
      else max t.amount 0 := by
  have hloan : asciiKey (trimLower M (received M t).category.primary) = "loanpayments".toList ↔
      ClientLoan M t := by
    rw [received_primary]
    rfl
  have hamount : (received M t).amount = t.amount := rfl
  have hprovider : (received M t).provider = t.provider := rfl
  unfold getNetSpendingAmount isTransactionCategoryExcluded getDisplayAmount
  rw [h, Bool.false_or]
  by_cases hcredit : IsCredit t
  · have hisCredit := (isCreditAccount_received M t).2 hcredit
    simp only [hisCredit, hloan, hamount, hprovider, if_pos hcredit]
    by_cases hclient : ClientLoan M t
    · simp [hclient]
    · by_cases hteller : t.provider = some "teller"
      · simp [hclient, hteller]
      · simp [hclient, hteller]
  · have hisCredit : isCreditAccount M (received M t) = false :=
      Bool.eq_false_iff.2 fun h ↦ hcredit ((isCreditAccount_received M t).1 h)
    simp only [hisCredit, hamount, if_neg hcredit]
    -- money coming in is shown as positive, and does not count
    rcases lt_or_ge 0 t.amount with hpos | hnonpos
    · simp [not_le.2 hpos, hpos.le]
    · simp [hnonpos]

/-- What the server counts, where no category is left out. -/
theorem getSpendingAmountWithAccount_posted {t : TransactionWithAccount}
    (hposted : t.pending = false)
    (heffective : Sumurai.isSpendingExcludedCategory (getEffectiveCategoryName t) = false)
    (hdetailed : Sumurai.isSpendingExcludedCategory t.categoryDetailed = false) :
    getSpendingAmountWithAccount t =
      if IsCredit t then
        if ServerLoan t then 0
        else if t.provider = some "teller" ∧ ¬TellerCreditCard t then -t.amount else t.amount
      else max t.amount 0 := by
  have hrules : getSpendingAmountWithAccount t =
      if IsCredit t ∧ ServerLoan t then 0
      else if t.provider = some "teller" ∧ toLowercase t.accountType = "credit".toList then
        -t.amount
      else if t.provider = some "teller" ∧ toLowercase t.accountType ∈
          ["depository".toList, "checking".toList, "savings".toList] then max t.amount 0
      else if IsCredit t then t.amount
      else max t.amount 0 := by
    unfold getSpendingAmountWithAccount
    simp only [hposted, heffective, hdetailed, provider_getD_iff, Bool.false_eq_true, or_self,
      if_false]
    rfl
  rw [hrules]
  by_cases hcredit : IsCredit t
  · have hspelled : toLowercase t.accountType = "credit".toList ↔
        ¬toLowercase t.accountType = "credit card".toList := by
      refine ⟨fun h hcard ↦ absurd (h.symm.trans hcard) (by decide), fun h ↦ ?_⟩
      exact hcredit.resolve_right h
    have hbank : toLowercase t.accountType ∉
        ["depository".toList, "checking".toList, "savings".toList] := by
      intro hmem
      obtain h | h := hcredit
      · exact absurd (h ▸ hmem) (by decide)
      · exact absurd (h ▸ hmem) (by decide)
    rw [if_pos hcredit, if_pos hcredit, if_neg (not_and_of_not_right _ hbank)]
    by_cases hloan : ServerLoan t
    · rw [if_pos ⟨hcredit, hloan⟩, if_pos hloan]
    · rw [if_neg (not_and_of_not_right _ hloan), if_neg hloan]
      refine if_congr (and_congr_right fun hteller ↦ ?_) rfl rfl
      rw [hspelled, TellerCreditCard, and_iff_right hteller]
  · have hspelled : ¬toLowercase t.accountType = "credit".toList := fun h ↦ hcredit (Or.inl h)
    rw [if_neg (not_and_of_not_left _ hcredit), if_neg (not_and_of_not_right _ hspelled),
      if_neg hcredit, if_neg hcredit, ite_self]

/-- **When both sides count the same.** -/
theorem getNetSpendingAmount_eq_iff (t : TransactionWithAccount) (hposted : t.pending = false)
    (hclient : hasExcludedCategory M (received M t) = false)
    (heffective : Sumurai.isSpendingExcludedCategory (getEffectiveCategoryName t) = false)
    (hdetailed : Sumurai.isSpendingExcludedCategory t.categoryDetailed = false) :
    getNetSpendingAmount M (received M t) = getSpendingAmountWithAccount t ↔
      SpendingAgrees M t := by
  rw [getNetSpendingAmount_received M hclient,
    getSpendingAmountWithAccount_posted hposted heffective hdetailed]
  unfold SpendingAgrees
  by_cases hcredit : IsCredit t
  · simp only [hcredit, forall_const, if_true]
    by_cases hzero : t.amount = 0
    · simp [hzero]
    have hne : ¬-t.amount = t.amount := by lia
    by_cases hclientLoan : ClientLoan M t
    · by_cases hserverLoan : ServerLoan t
      · simp [hclientLoan, hserverLoan]
      · -- the client leaves out what the server counts
        have hcount : (0 : Decimal) ≠
            if t.provider = some "teller" ∧ ¬TellerCreditCard t then -t.amount else t.amount := by
          split <;> lia
        simp [hclientLoan, hserverLoan, hcount, hzero]
    · by_cases hserverLoan : ServerLoan t
      · have hcount : (if t.provider = some "teller" then -t.amount else t.amount) ≠ 0 := by
          split <;> lia
        simp [hclientLoan, hserverLoan, hcount, hzero]
      · by_cases hcard : TellerCreditCard t
        · simp [hclientLoan, hserverLoan, hcard, hcard.1, hzero, hne]
        · simp [hclientLoan, hserverLoan, hcard]
  · simp only [if_neg hcredit]
    exact iff_of_true trivial fun h ↦ absurd h hcredit

/-- A purchase on a Teller account, which stores it as a negative amount. -/
def tellerPurchase (accountType : String) : TransactionWithAccount where
  id := 1
  accountId := 1
  userId := some 1
  providerAccountId := none
  providerTransactionId := none
  amount := -2500
  date := 20000
  merchantName := none
  categoryPrimary := "Bills & Utilities"
  categoryDetailed := "Internet"
  categoryConfidence := ""
  paymentChannel := none
  pending := false
  createdAt := none
  accountName := "Card"
  accountType := accountType
  accountMask := none
  provider := some "teller"
  customCategory := none
  customSubcategory := none
  ruleCategory := none
  ruleSubcategory := none

/-- The server takes the purchase on a `credit card` for a refund. -/
theorem creditCard_counted_apart :
    ((tellerPurchase "credit card").pending = false ∧
      hasExcludedCategory simpleCase (received simpleCase (tellerPurchase "credit card")) = false ∧
      Sumurai.isSpendingExcludedCategory
        (getEffectiveCategoryName (tellerPurchase "credit card")) = false ∧
      Sumurai.isSpendingExcludedCategory (tellerPurchase "credit card").categoryDetailed = false) ∧
    getNetSpendingAmount simpleCase (received simpleCase (tellerPurchase "credit card")) = 2500 ∧
      getSpendingAmountWithAccount (tellerPurchase "credit card") = -2500 := by
  decide +kernel

/-- On a `credit` account both count it. -/
theorem credit_counted_alike :
    getNetSpendingAmount simpleCase (received simpleCase (tellerPurchase "credit")) =
      getSpendingAmountWithAccount (tellerPurchase "credit") := by
  refine (getNetSpendingAmount_eq_iff simpleCase (tellerPurchase "credit") rfl (by decide +kernel)
    (by decide +kernel) (by decide +kernel)).2 fun _ _ ↦ ?_
  exact ⟨by decide +kernel, fun h ↦ absurd h (by decide +kernel)⟩

end Sumurai.Frontend
