import Sumurai.Models.Rows

/-!
# What counts as spending

The classification of `analytics_service.rs`: the major category of a transaction, and the amount it
counts for. The rules on the amount are those of the provider and the account: a Teller credit
account stores purchases as negative amounts and other credit accounts as positive ones, refunds on
a credit account count as negative spending, and on the remaining accounts only money leaving
counts.

A transaction is spending if its amount under these rules is not zero, so the loops that ask
`isSpendingTransactionWithAccount` first leave out nothing but zeros.
-/

namespace Sumurai

/-! ### Categories -/

/-- `normalize_category_key`: the ASCII letters and digits, in lower case. -/
def normalizeCategoryKey (category : String) : List Char :=
  (category.toList.filter Char.isAlphanum).map Char.toLower

/-- The arms of `resolve_major_category`: a major category and the keys that resolve to it. -/
def majorCategories : List (String × List String) :=
  [("Bills & Utilities",
      ["billsutilities", "billsandutilities", "billsutilitiesexpense", "ai", "internet",
        "otherbillsutilities", "otherbillsandutilities", "phone", "television", "utilities",
        "water", "rentutilities", "rentandutilities", "rentutilitieswater"]),
    ("Childcare",
      ["childcare", "childcareexpense", "babysupplies", "babysitterdaycare",
        "babysitteranddaycare", "childsupport", "kidsactivities", "otherchildcare"]),
    ("Earned Income", ["earnedincome", "earnedincomeincome", "bonus", "paycheck", "income"]),
    ("Education",
      ["education", "educationexpense", "bookssupplies", "booksandsupplies", "othereducation",
        "studentloans", "tuition"]),
    ("Entertainment",
      ["entertainment", "entertainmentexpense", "amusement", "arts", "moviesdvds",
        "moviesanddvds", "music", "newspapermagazines", "newspaperandmagazines",
        "otherentertainment", "subscription", "subscriptions"]),
    ("Food & Dining",
      ["fooddining", "foodanddining", "fooddiningexpense", "foodanddiningexpense",
        "foodanddrink", "fooddrink", "alcoholbars", "alcoholandbars", "coffeeshops", "fastfood",
        "otherfooddining", "otherfoodanddining", "restaurants", "restaurant"]),
    ("Gifts & Donations",
      ["giftsdonations", "giftsanddonations", "giftsdonationsexpense",
        "giftsanddonationsexpense", "charity", "childrenallowance", "gifts",
        "othergiftsdonations", "othergiftsanddonations"]),
    ("Groceries", ["groceries", "groceriesexpense"]),
    ("Home Improvement",
      ["homeimprovement", "homeimprovementexpense", "furnishings", "homeimprovements",
        "homesupplies", "householdsupplies", "lawngarden", "lawnandgarden", "otherhome",
        "plantsneeds", "plantsandneeds"]),
    ("Home Management",
      ["homemanagement", "homemanagementexpense", "homeservices", "mortgagerent",
        "mortgageandrent"]),
    ("Insurance",
      ["insurance", "insuranceexpense", "autoinsurance", "healthinsurance", "homeinsurance",
        "lifeinsurance"]),
    ("Medical",
      ["medical", "medicalexpense", "dentist", "doctor", "eyecare", "labs", "mentalhealth",
        "othermedical", "pharmacy"]),
    ("Pets", ["pets", "petsexpense", "boarding", "otherpets"]),
    ("Shopping",
      ["shopping", "shoppingexpense", "books", "clothing", "decor", "electronics", "hobbies",
        "home", "kitchen", "othershopping", "toys", "personalcare", "personalcareexpense", "hair",
        "laundry", "otherpersonalcare", "spamassage", "spaandmassage", "generalmerchandise",
        "generalmerchandiseexpense", "other", "otherexpense", "uncategorized"]),
    ("Taxes",
      ["taxes", "taxesexpense", "taxfiling", "propertytax", "salestax", "statetax", "localtax",
        "federaltax", "othertaxes"]),
    ("Tax Refund", ["taxrefund", "taxrefundincome"]),
    ("Transportation",
      ["transportation", "transportationexpense", "autopayment", "carinsurance",
        "carmaintainance", "carmaintenance", "carregistration", "gas", "otherautotransport",
        "otherautoandtransport", "othertransportation", "parking", "publictransport", "toll",
        "trafficticket"]),
    ("Transfer",
      ["transfer", "transferexcludefrombudget", "cashspendingtransfer", "creditcardbill",
        "creditcardbills", "creditcardpayment", "creditcardpayments", "cryptodeposit",
        "cryptoother", "cryptowithdrawal", "investment", "investments", "investmentdeposit",
        "investmentwithdrawal", "mortgagepayment", "othertransfer", "transferin", "transferout",
        "loanpaymentscreditcardpayment"]),
    ("Travel",
      ["travel", "travelexpense", "airtravel", "hotel", "othertravel", "rentalcartransportation",
        "rentalcarandtransportation"])]

/-- `resolve_major_category`. -/
def resolveMajorCategory (cat : String) : String :=
  let norm := normalizeCategoryKey cat
  match majorCategories.find? fun arm ↦ arm.2.any fun key ↦ key.toList = norm with
  | some arm => arm.1
  | none => "Shopping"

/-- `is_spending_excluded_category`. -/
def isSpendingExcludedCategory (category : String) : Bool :=
  resolveMajorCategory category ∈ ["Transfer", "Tax Refund", "Earned Income"]

/-- `get_effective_category_name`. An empty custom category hides the category of a rule, too. -/
def getEffectiveCategoryName (t : TransactionWithAccount) : String :=
  resolveMajorCategory
    (((t.customCategory.or t.ruleCategory).filter fun category ↦ category ≠ "").getD
      (if t.categoryPrimary = "" then "Shopping" else t.categoryPrimary))

/-! ### Amounts -/

/-- `get_spending_amount_with_account`. -/
def getSpendingAmountWithAccount (t : TransactionWithAccount) : Decimal :=
  let accountType := toLowercase t.accountType
  let isCredit := accountType = "credit".toList ∨ accountType = "credit card".toList
  if t.pending then 0
  else if isSpendingExcludedCategory (getEffectiveCategoryName t) ∨
      isSpendingExcludedCategory t.categoryDetailed then 0
  else if isCredit ∧ normalizeCategoryKey t.categoryPrimary = "loanpayments".toList then 0
  else if t.provider.getD "plaid" = "teller" ∧ accountType = "credit".toList then -t.amount
  else if t.provider.getD "plaid" = "teller" ∧
      accountType ∈ ["depository".toList, "checking".toList, "savings".toList] then max t.amount 0
  else if isCredit then t.amount
  else max t.amount 0

/-- `is_spending_transaction_with_account`. -/
def isSpendingTransactionWithAccount (t : TransactionWithAccount) : Bool :=
  getSpendingAmountWithAccount t ≠ 0

/-! ### A purchase that counts -/

/-- A phone bill, paid from a checking account. -/
def phoneBill (date : NaiveDate) (merchantName : Option String) (amount : Decimal) :
    TransactionWithAccount where
  id := 1
  accountId := 1
  userId := some 7
  providerAccountId := none
  providerTransactionId := some "txn-1"
  amount := amount
  date := date
  merchantName := merchantName
  categoryPrimary := "Phone"
  categoryDetailed := "Phone"
  categoryConfidence := "HIGH"
  paymentChannel := none
  pending := false
  createdAt := none
  accountName := "Checking"
  accountType := "depository"
  accountMask := none
  provider := some "plaid"
  customCategory := none
  customSubcategory := none
  ruleCategory := none
  ruleSubcategory := none

end Sumurai
