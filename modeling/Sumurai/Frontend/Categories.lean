import Sumurai.Foundations.CaseMapping
import Sumurai.Models.Basic

/-!
# Categories in the frontend

`utils/categories.ts`: how a category is shown (`formatCategoryName`), the taxonomy, and the major
category of a name (`resolveMajorCategory`), which is looked up by several keys of the name in turn.

Text is worked on as a list of characters. An absent name is the empty one, which every function
here treats alike, and absent user categories are an empty list. `toLowerCase` and `toUpperCase` are
those of a `CaseMapping`; what JavaScript does beyond one character at a time (the sigma at the end
of a word) is outside of ASCII, as every category name of the taxonomy is not.
-/

namespace Sumurai.Frontend

/-! ### Text -/

/-- What `trim` removes and `\s` matches. -/
def isSpace (c : Char) : Bool :=
  c ∈ ['\t', '\n', '\u000B', '\u000C', '\r', ' ', '\u00A0', '\u1680', '\u2000', '\u2001',
    '\u2002', '\u2003', '\u2004', '\u2005', '\u2006', '\u2007', '\u2008', '\u2009', '\u200A',
    '\u2028', '\u2029', '\u202F', '\u205F', '\u3000', '\uFEFF']

theorem not_isAlphanum_of_isSpace : ∀ c : Char, isSpace c → c.isAlphanum = false := by
  have hall : ∀ c ∈ ['\t', '\n', '\u000B', '\u000C', '\r', ' ', '\u00A0', '\u1680', '\u2000',
      '\u2001', '\u2002', '\u2003', '\u2004', '\u2005', '\u2006', '\u2007', '\u2008', '\u2009',
      '\u200A', '\u2028', '\u2029', '\u202F', '\u205F', '\u3000', '\uFEFF'],
      c.isAlphanum = false := by decide
  exact fun c hc ↦ hall c (of_decide_eq_true hc)

/-- `trim`. -/
def trim (s : List Char) : List Char :=
  Text.strip isSpace s

theorem trim_trim (s : List Char) : trim (trim s) = trim s :=
  Text.strip_strip isSpace s

/-- `split(/[_\s]+/).filter(Boolean)`. -/
def words (s : List Char) : List (List Char) :=
  (s.splitOnP fun c ↦ c = '_' || isSpace c).filter fun word ↦ word ≠ []

/-- `word.charAt(0).toUpperCase() + word.slice(1).toLowerCase()`. -/
def capitalize (M : CaseMapping) : List Char → List Char
  | [] => []
  | c :: word => M.upper c ++ M.lowerCase word

theorem le_of_mem_lowercaseChar {c : Char} (hc : 128 ≤ c.toNat) (hkelvin : c ≠ '\u212A')
    (hdotted : c ≠ '\u0130') : ∀ d ∈ lowercaseChar c, 128 ≤ d.toNat := by
  intro d hd
  rw [lowercaseChar, if_neg hkelvin, if_neg hdotted, List.mem_singleton] at hd
  subst hd
  rw [Char.toLower]
  split
  · rename_i h
    have hle : c.toNat ≤ 90 := h.2
    lia
  · exact hc

theorem lowercaseChar_ne_nil (c : Char) : lowercaseChar c ≠ [] := by
  rw [lowercaseChar]
  split
  · exact List.cons_ne_nil _ _
  · split
    · exact List.cons_ne_nil _ _
    · exact List.cons_ne_nil _ _

theorem le_or_isUpper_of_mem_toUpper {c : Char} (hc : 128 ≤ c.toNat) :
    ∀ d ∈ [c.toUpper], 128 ≤ d.toNat ∨ d.isUpper := by
  intro d hd
  rw [List.mem_singleton] at hd
  subst hd
  rw [Char.toUpper]
  split
  · rename_i h
    have hle : c.toNat ≤ 122 := h.2
    lia
  · exact Or.inl hc

/-- The case mapping of the backend, and the capital letters of ASCII. -/
def simpleCase : CaseMapping where
  lower := lowercaseChar
  upper c := [c.toUpper]
  lower_ascii _ h := Text.forall_ascii (P := fun c ↦ lowercaseChar c = [c.toLower]) (by decide) h
  lower_kelvin := rfl
  lower_dotted := rfl
  lower_other _ := le_of_mem_lowercaseChar
  lower_ne_nil := lowercaseChar_ne_nil
  upper_ascii _ _ := rfl
  upper_other _ := le_or_isUpper_of_mem_toUpper

variable (M : CaseMapping)

/-- `formatCategoryName`. -/
def formatCategoryName (categoryPrimary : String) : String :=
  if categoryPrimary = "" then "Shopping"
  else
    let norm := M.lowerCase (trim categoryPrimary.toList)
    if norm ∈ ["other".toList, "uncategorized".toList, "unknown".toList,
        "general merchandise".toList, "general_merchandise".toList, "general".toList] then
      "Shopping"
    else
      let formatted := [' '].intercalate ((words (trim categoryPrimary.toList)).map (capitalize M))
      if M.lowerCase formatted = "general merchandise".toList ∨
          M.lowerCase formatted = "other".toList then "Shopping"
      else String.ofList formatted

/-! ### The taxonomy -/

/-- `CategoryDefinition`. -/
structure CategoryDefinition where
  name : String
  subcategories : List String
deriving DecidableEq, Repr

/-- `CATEGORIES_TAXONOMY`. -/
def CATEGORIES_TAXONOMY : List CategoryDefinition :=
  [{ name := "Bills & Utilities"
     subcategories := ["AI", "Internet", "Phone", "Television", "Utilities", "Water"] },
    { name := "Childcare"
      subcategories :=
        ["Baby Supplies", "Babysitter & Daycare", "Child Support", "Kids Activities", "Toys"] },
    { name := "Earned Income", subcategories := ["Bonus", "Paycheck"] },
    { name := "Education", subcategories := ["Books & Supplies", "Tuition"] },
    { name := "Entertainment"
      subcategories :=
        ["Amusement", "Arts", "Movies & DVDs", "Music", "Newspaper & Magazines",
          "Subscription"] },
    { name := "Food & Dining"
      subcategories := ["Alcohol & Bars", "Coffee Shops", "Fast Food", "Restaurants"] },
    { name := "Gifts & Donations", subcategories := ["Charity", "Children Allowance", "Gifts"] },
    { name := "Groceries", subcategories := ["Groceries"] },
    { name := "Home Improvement"
      subcategories := ["Furnishings", "Household Supplies", "Lawn & Garden", "Plants & Needs"] },
    { name := "Home Management"
      subcategories := ["Home Insurance", "Home Services", "Mortgage"] },
    { name := "Insurance"
      subcategories := ["Auto Insurance", "Car Insurance", "Health Insurance", "Life Insurance"] },
    { name := "Medical"
      subcategories := ["Dentist", "Doctor", "Eyecare", "Labs", "Mental Health", "Pharmacy"] },
    { name := "Pets", subcategories := ["Boarding", "Insurance"] },
    { name := "Shopping"
      subcategories :=
        ["Books", "Clothing", "Decor", "Electronics", "Hair", "Hobbies", "Home", "Kitchen",
          "Laundry", "Personal Care", "Spa & Massage", "Toys"] },
    { name := "Taxes"
      subcategories :=
        ["Federal Tax", "Local Tax", "Property Tax", "Sales Tax", "State Tax", "Tax Filing"] },
    { name := "Tax Refund"
      subcategories := ["Federal Tax", "Local Tax", "Property Tax", "Sales Tax", "State Tax"] },
    { name := "Transportation"
      subcategories :=
        ["Auto Payment", "Car Insurance", "Car Maintainance", "Car Registration", "Gas",
          "Parking", "Public Transport", "Toll", "Traffic Ticket"] },
    { name := "Transfer"
      subcategories :=
        ["Cash Spending Transfer", "Credit Card Payment", "Crypto Deposit", "Crypto Withdrawal",
          "Investment Deposit", "Investment Withdrawal", "Mortgage Payment"] },
    { name := "Travel"
      subcategories := ["Air Travel", "Hotel", "Rental Car & Transportation"] }]

/-- A category that a user has added. -/
structure UserCategory where
  name : String
  parentCategory : Option String
deriving DecidableEq, Repr

/-- `CATEGORIES_TAXONOMY.find((c) => c.name.toLowerCase() === text)`. -/
def findMajor (text : List Char) : Option CategoryDefinition :=
  CATEGORIES_TAXONOMY.find? fun cat ↦ M.lowerCase cat.name.toList = text

/-- `parent_category`, unless it is empty. -/
def UserCategory.parent (uc : UserCategory) : Option String :=
  uc.parentCategory.filter fun parent ↦ parent ≠ ""

/-! ### The major category of a name -/

/-- `getMajorCategoryForSubcategory`. -/
def getMajorCategoryForSubcategory (subcategoryName : List Char)
    (userCategories : List UserCategory) : Option String :=
  let norm := M.lowerCase (trim subcategoryName)
  if norm ∈ ["general merchandise".toList, "general_merchandise".toList, "other".toList,
      "uncategorized".toList, "general".toList] then some "Shopping"
  else
    match (userCategories.find? fun uc ↦ M.lowerCase uc.name.toList = norm).bind
        UserCategory.parent with
    | some parent => some parent
    | none =>
      match CATEGORIES_TAXONOMY.find? fun cat ↦
          cat.subcategories.any fun sub ↦ M.lowerCase sub.toList = norm with
      | some cat => some cat.name
      | none =>
        if "other ".toList <+: norm then
          some (((findMajor M (trim (norm.drop 6))).map fun cat ↦ cat.name).getD "Shopping")
        else if norm = "water".toList ∨ "water".toList <:+: norm ∨
            "rent_and_utilities".toList <:+: norm ∨ "rent & utilities".toList <:+: norm then
          some "Bills & Utilities"
        else if norm ∈ ["home supplies".toList, "home_supplies".toList, "homesupplies".toList] then
          some "Home Improvement"
        else none

/-- `resolveMajorCategory`. -/
def resolveMajorCategory (categoryOrSubcategory : String) (userCategories : List UserCategory) :
    String :=
  let clean := trim categoryOrSubcategory.toList
  if clean = [] then "Shopping"
  else
    let normKey := Text.asciiKey (M.lowerCase clean)
    if normKey ∈ ["rentandutilities".toList, "rentutilities".toList,
        "rentandutilitieswater".toList, "rentutilitieswater".toList] then "Bills & Utilities"
    else if normKey ∈ ["homesupplies".toList, "householdsupplies".toList] then "Home Improvement"
    else if normKey ∈ ["personalcare".toList, "generalmerchandise".toList, "other".toList,
        "uncategorized".toList, "unknown".toList] then "Shopping"
    else if normKey ∈ ["foodanddrink".toList, "fooddrink".toList] then "Food & Dining"
    else
      match findMajor M (M.lowerCase clean) with
      | some directMatch => directMatch.name
      | none =>
        match getMajorCategoryForSubcategory M clean userCategories with
        | some fromSub => fromSub
        | none =>
          if "other ".toList <+: M.lowerCase clean then
            ((findMajor M (M.lowerCase (trim (clean.drop 6)))).map fun cat ↦ cat.name).getD
              "Shopping"
          else
            match userCategories.find? fun uc ↦
                M.lowerCase uc.name.toList = M.lowerCase clean with
            | some uc => uc.parent.getD uc.name
            | none =>
              let formatted := formatCategoryName M (String.ofList clean)
              if formatted = "Shopping" then "Shopping"
              else
                match findMajor M (M.lowerCase formatted.toList) with
                | some matchFormatted => matchFormatted.name
                | none => formatted

/-- `isSpendingExcludedCategory`. -/
def isSpendingExcludedCategory (category : String) : Bool :=
  category ≠ "" &&
    (resolveMajorCategory M category [] ∈ ["Transfer", "Tax Refund", "Earned Income"] ||
      Text.asciiKey (M.lowerCase (trim category.toList)) ∈
        ["creditcardbill".toList, "creditcardbills".toList, "creditcardpayment".toList,
          "creditcardpayments".toList, "investment".toList, "investments".toList,
          "transferin".toList, "transferout".toList, "loanpaymentscreditcardpayment".toList,
          "income".toList, "transfer".toList, "transferexcludefrombudget".toList,
          "cashspendingtransfer".toList, "cryptodeposit".toList, "cryptoother".toList,
          "cryptowithdrawal".toList, "investmentdeposit".toList, "investmentwithdrawal".toList,
          "mortgagepayment".toList, "othertransfer".toList, "paycheck".toList, "bonus".toList])

end Sumurai.Frontend
