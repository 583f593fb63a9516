import Sumurai.Frontend.Categories
import Sumurai.Frontend.Dates
import Sumurai.Frontend.Types
import Sumurai.Models.Rows

/-!
# Transactions in the frontend

`domain/TransactionTransformer.ts` makes the frontend's record of a transaction from the one that
the backend sends, and `utils/transactionAmounts.ts` says what a transaction counts for: the amount
it is shown with, which is negative for money spent, and the spending it adds to a budget.
-/

namespace Sumurai.Frontend

/-! ### From the backend -/

/-- `BackendTransaction`, as far as the calculations read it. A `null` and an absent member are
both `none`. -/
structure BackendTransaction where
  accountId : Option String
  date : String
  amount : Decimal
  pending : Option Bool
  categoryPrimary : Option String
  categoryDetailed : Option String
  accountType : String
  provider : Option String
  customCategory : Option String
  customSubcategory : Option String
  ruleCategory : Option String
  ruleSubcategory : Option String
deriving DecidableEq, Repr

/-- The text of a `NaiveDate`: years that have not four digits have a sign. -/
def serializeDate (d : NaiveDate) : String :=
  let year := NaiveDate.year d
  let yearText :=
    if 0 ≤ year ∧ year ≤ 9999 then Text.padded 4 year.toNat
    else (if year < 0 then '-' else '+') ::
      (if year.natAbs ≤ 9999 then Text.padded 4 year.natAbs else (toString year.natAbs).toList)
  String.ofList (windowText yearText (NaiveDate.month d) (NaiveDate.day d))

/-- A transaction as the backend sends it. The text of an id is its numeral. -/
def serialize (t : TransactionWithAccount) : BackendTransaction where
  accountId := some (toString t.accountId)
  date := serializeDate t.date
  amount := t.amount
  pending := some t.pending
  categoryPrimary := some t.categoryPrimary
  categoryDetailed := some t.categoryDetailed
  accountType := t.accountType
  provider := t.provider
  customCategory := t.customCategory
  customSubcategory := t.customSubcategory
  ruleCategory := t.ruleCategory
  ruleSubcategory := t.ruleSubcategory

/-- Whether an optional text is there and not empty. -/
def isTruthy (s : Option String) : Bool :=
  s.any fun s ↦ s ≠ ""

variable (M : CaseMapping)

/-- `s.trim().toLowerCase()`. -/
def trimLower (s : String) : List Char :=
  M.lowerCase (trim s.toList)

/-- `TransactionTransformer.backendToFrontend`. -/
def backendToFrontend (bt : BackendTransaction) : Transaction :=
  let primary := ((bt.customCategory.or bt.ruleCategory).or bt.categoryPrimary).getD "OTHER"
  let detailed :=
    if isTruthy bt.customCategory || isTruthy bt.ruleCategory then
      bt.customSubcategory.or bt.ruleSubcategory
    else (bt.customSubcategory.or bt.ruleSubcategory).or bt.categoryDetailed
  { accountId := bt.accountId
    date := bt.date
    amount := bt.amount
    pending := bt.pending
    category :=
      { primary := primary
        detailed := detailed.filter fun detailed ↦
          detailed ≠ "" ∧ trimLower M detailed ≠ "other".toList ∧
            ¬"other ".toList <+: trimLower M detailed ∧
              (trimLower M primary = "groceries".toList ∨
                trimLower M detailed ≠ trimLower M primary) }
    accountType := bt.accountType
    provider := bt.provider
    customCategory := bt.customCategory
    customSubcategory := bt.customSubcategory
    ruleCategory := bt.ruleCategory
    ruleSubcategory := bt.ruleSubcategory }

/-! ### Amounts -/

/-- `isCreditAccount`. -/
def isCreditAccount (t : Transaction) : Bool :=
  M.lowerCase t.accountType.toList = "credit".toList ∨
    M.lowerCase t.accountType.toList = "credit card".toList

/-- `getDisplayAmount`. -/
def getDisplayAmount (t : Transaction) : Decimal :=
  if t.provider = some "teller" ∧ isCreditAccount M t then t.amount else -t.amount

/-- The categories that `isTransactionCategoryExcluded` looks at. -/
def hasExcludedCategory (t : Transaction) : Bool :=
  isSpendingExcludedCategory M t.category.primary ||
    isSpendingExcludedCategory M (t.category.detailed.getD "") ||
      isSpendingExcludedCategory M (t.customCategory.getD "") ||
        isSpendingExcludedCategory M (t.ruleCategory.getD "")

/-- `isTransactionCategoryExcluded`. -/
def isTransactionCategoryExcluded (t : Transaction) : Bool :=
  hasExcludedCategory M t ||
    (isCreditAccount M t &&
      Text.asciiKey (trimLower M t.category.primary) = "loanpayments".toList)

/-- `getNetSpendingAmount`. -/
def getNetSpendingAmount (t : Transaction) : Decimal :=
  if isTransactionCategoryExcluded M t then 0
  else if ¬isCreditAccount M t then
    -- deposits are never negative spending
    if 0 ≤ getDisplayAmount M t then 0 else -getDisplayAmount M t
  else -getDisplayAmount M t

/-- `isSpendingTransaction`. -/
def isSpendingTransaction (t : Transaction) : Bool :=
  getDisplayAmount M t < 0 && !isTransactionCategoryExcluded M t

end Sumurai.Frontend
