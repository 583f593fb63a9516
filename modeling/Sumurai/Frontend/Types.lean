import Sumurai.Models.Basic

/-!
# The records of the frontend

The parts of `types/api.ts` that the calculations and the hooks of the frontend read. An optional
member is an `Option`; the number of an amount is an exact number of cents, as it comes from the
backend.
-/

namespace Sumurai.Frontend

/-- `TransactionCategory`. -/
structure TransactionCategory where
  primary : String
  detailed : Option String
deriving DecidableEq, Repr

/-- `Transaction`. The provider is the text that the backend has sent, whether or not it is one of
`FinancialProvider`. -/
structure Transaction where
  accountId : Option String
  date : String
  amount : Decimal
  pending : Option Bool
  category : TransactionCategory
  accountType : String
  provider : Option String
  customCategory : Option String
  customSubcategory : Option String
  ruleCategory : Option String
  ruleSubcategory : Option String
deriving DecidableEq, Repr

/-- `BudgetFrequency`. -/
inductive BudgetFrequency where
  | monthly | quarterly | semiAnnual | annual
deriving DecidableEq, Repr

/-- `Budget`. -/
structure Budget where
  id : String
  category : String
  amount : Decimal
  frequency : Option BudgetFrequency
  rollover : Option Bool
  rolloverStartMonth : Option String
  createdAt : Option String
deriving DecidableEq, Repr

end Sumurai.Frontend
