import Sumurai.Budgets.Migrations

/-!
# The clean-up of the categories

Migrations 036, 038 and 039 retire categories of the application: Personal Care, General
Merchandise, Other, Uncategorized and Home Supplies. They go through the tables in which users name
categories and select the rows by patterns.

The patterns match more than the retired names and their spellings. `cleanUp_spares_iff` says what a
database must be free of for all other names to be left as they are.
-/

open UniqueUpdate

namespace Sumurai

/-! ### Tables -/

/-- A row of `category_rules`. -/
structure CategoryRuleRow where
  id : Uuid
  userId : Uuid
  pattern : String
  categoryName : String
  subcategoryName : Option String
  createdAt : Option Timestamp
  updatedAt : Option Timestamp
deriving DecidableEq, Repr

/-- The tables in which users name categories. -/
structure CategoryRows extends CategoryTables where
  overrides : List TransactionCategoryOverride
  rules : List CategoryRuleRow
deriving DecidableEq, Repr

/-- The two names under which an override or a rule files a transaction. -/
structure Filing where
  categoryName : String
  subcategoryName : Option String
deriving DecidableEq, Repr

/-- The names of an override. -/
def TransactionCategoryOverride.filing (o : TransactionCategoryOverride) : Filing where
  categoryName := o.categoryName
  subcategoryName := o.subcategoryName

/-- An override under new names. -/
def TransactionCategoryOverride.refile (update : Filing → Filing)
    (o : TransactionCategoryOverride) : TransactionCategoryOverride :=
  { o with
    categoryName := (update o.filing).categoryName
    subcategoryName := (update o.filing).subcategoryName }

/-- The names of a rule. -/
def CategoryRuleRow.filing (r : CategoryRuleRow) : Filing where
  categoryName := r.categoryName
  subcategoryName := r.subcategoryName

/-- A rule under new names. -/
def CategoryRuleRow.refile (update : Filing → Filing) (r : CategoryRuleRow) : CategoryRuleRow :=
  { r with
    categoryName := (update r.filing).categoryName
    subcategoryName := (update r.filing).subcategoryName }

/-! ### The statements -/

/-- `SET category_name = 'Shopping', subcategory_name = .. WHERE category_name ..`. -/
def Filing.recategorize (matched : String → Bool) (subcategory : Option String → Option String)
    (f : Filing) : Filing :=
  if matched f.categoryName then ⟨"Shopping", subcategory f.subcategoryName⟩ else f

/-- `SET subcategory_name = target WHERE subcategory_name ..`. -/
def Filing.resubcategorize (matched : String → Bool) (target : Option String) (f : Filing) :
    Filing :=
  if f.subcategoryName.any matched then { f with subcategoryName := target } else f

/-- The pattern of migration 039. -/
def homeSupplies : String :=
  "%home%supplies%"

/-- `036_remove_personal_care_category.sql`. -/
def removePersonalCareCategory (L : Locale) (now : Timestamp) (rows : CategoryRows) :
    Except DbError CategoryRows := do
  let overrides := rows.overrides.map <| TransactionCategoryOverride.refile <|
    Filing.recategorize (ilikeAny L personalCare) fun _ ↦ some "Personal Care"
  let rules := rows.rules.map <| CategoryRuleRow.refile <|
    Filing.recategorize (ilikeAny L personalCare) fun subcategory ↦
      some (subcategory.getD "Personal Care")
  let tables ← runStatements now (migration036 L) rows.toCategoryTables
  return { toCategoryTables := tables, overrides := overrides, rules := rules }

/-- `038_remove_general_merchandise_and_other.sql`. -/
def removeGeneralMerchandiseAndOther (L : Locale) (now : Timestamp) (rows : CategoryRows) :
    Except DbError CategoryRows := do
  let update : Filing → Filing := fun f ↦
    (f.recategorize (ilikeAny L generalMerchandiseAndOther) id).resubcategorize
      (ilikeAny L generalMerchandiseAndOther) none
  let tables ← runStatements now (migration038 L) rows.toCategoryTables
  return {
    toCategoryTables := tables
    overrides := rows.overrides.map (TransactionCategoryOverride.refile update)
    rules := rows.rules.map (CategoryRuleRow.refile update) }

/-- `039_merge_home_supplies_into_household_supplies.sql`. -/
def mergeHomeSupplies (L : Locale) (rows : CategoryRows) : CategoryRows :=
  let update : Filing → Filing :=
    Filing.resubcategorize (ilike L homeSupplies) (some "Household Supplies")
  { rows with
    overrides := rows.overrides.map (TransactionCategoryOverride.refile update)
    rules := rows.rules.map (CategoryRuleRow.refile update)
    userCategories := rows.userCategories.filter fun c ↦ !ilike L homeSupplies c.name }

/-- The three migrations. Each is a transaction, and none is tried after one that fails. -/
def cleanUp (L : Locale) (now : ℕ → Timestamp) (rows : CategoryRows) : CategoryRows :=
  match removePersonalCareCategory L (now 36) rows with
  | .error _ => rows
  | .ok rows =>
    match removeGeneralMerchandiseAndOther L (now 38) rows with
    | .error _ => rows
    | .ok rows => mergeHomeSupplies L rows

/-! ### The retired names -/

/-- The names that the migrations retire. -/
def retiredNames : List String :=
  ["Personal Care", "General Merchandise", "Other", "Uncategorized", "Home Supplies"]

/-- A space, an underscore or an ampersand. -/
def isJoint (c : Char) : Bool :=
  c = ' ' || c = '_' || c = '&'

/-- A name up to case, spaces, underscores and ampersands. -/
def squeezed (L : Locale) (name : String) : List Char :=
  (L.lowerString name).filter fun c ↦ !isJoint c

/-- A name `Other X`. -/
def isOtherX (L : Locale) (name : String) : Bool :=
  (L.lowerString "Other").isPrefixOf (L.lowerString name) &&
    (((L.lowerString name).drop (L.lowerString "Other").length).head?.any isJoint)

/-- One of the retired names, or another `Other`. -/
def isRetired (L : Locale) (name : String) : Bool :=
  (retiredNames.any fun retired ↦ squeezed L retired = squeezed L name) || isOtherX L name

example : isRetired Locale.c "PERSONAL_CARE" = true := by decide

example : isRetired Locale.c "Other Income" = true := by decide

example : isRetired Locale.c "Personal Healthcare" = false := by decide

/-- The names that are not retired are the same. -/
structure Filing.Spared (L : Locale) (f f' : Filing) : Prop where
  category : isRetired L f.categoryName = false → f'.categoryName = f.categoryName
  subcategory : ∀ s ∈ f.subcategoryName, isRetired L s = false →
    f'.subcategoryName = some s

/-- Every name that is not retired is left as it was. -/
structure CleanUpSpares (L : Locale) (rows rows' : CategoryRows) : Prop where
  budgets : List.Forall₂ (fun b b' ↦ isRetired L b.category = false → b' = b) rows.budgets
    rows'.budgets
  overrides : List.Forall₂ (fun o o' ↦ o' = o.refile (fun _ ↦ o'.filing) ∧
    o.filing.Spared L o'.filing) rows.overrides rows'.overrides
  rules : List.Forall₂ (fun r r' ↦ r' = r.refile (fun _ ↦ r'.filing) ∧
    r.filing.Spared L r'.filing) rows.rules rows'.rules
  names : ∀ c ∈ rows.userCategories, isRetired L c.name = false →
    ∃ c' ∈ rows'.userCategories, c'.key = c.key
  parents : ∀ c ∈ rows.userCategories, ∀ c' ∈ rows'.userCategories, c'.key = c.key →
    ∀ p ∈ c.parentCategory, isRetired L p = false → c'.parentCategory = some p

/-! ### What is matched -/

/-- A category after a migration that retires those that are matched. -/
def toShopping (matched : String → Bool) (category : String) : String :=
  if matched category then "Shopping" else category

/-- No two budgets of a user get one category. -/
abbrev StayApart (budgets : List Budget) (rename : String → String) : Prop :=
  (budgets.map fun b ↦ (b.userId, rename b.category)).Nodup

/-- What the migrations match, of the categories of migration 036, of its top-level categories, of
the categories of migration 038, and of the subcategories of migration 039. -/
structure CleanUpMatchers where
  personalCare : String → Bool
  topLevelPersonalCare : String → Bool
  generalMerchandiseAndOther : String → Bool
  homeSupplies : String → Bool

/-- Migration 036 brings no two budgets of a user together. -/
abbrev CareApplies (L : Locale) (budgets : List Budget) : Prop :=
  StayApart budgets (toShopping (ilikeAny L personalCare))

/-- Nor does migration 038 after it. -/
abbrev GeneralApplies (L : Locale) (budgets : List Budget) : Prop :=
  StayApart budgets
    (toShopping (ilikeAny L generalMerchandiseAndOther) ∘ toShopping (ilikeAny L personalCare))

/-- What they match in a database, where one that fails matches nothing. -/
def cleanUpMatchers (L : Locale) (budgets : List Budget) : CleanUpMatchers where
  personalCare name := CareApplies L budgets && ilikeAny L Sumurai.personalCare name
  topLevelPersonalCare name := CareApplies L budgets && ilike L "%personal%care%" name
  generalMerchandiseAndOther name :=
    GeneralApplies L budgets && ilikeAny L Sumurai.generalMerchandiseAndOther name
  homeSupplies name := GeneralApplies L budgets && ilike L Sumurai.homeSupplies name

/-- A category of a budget, an override or a rule, or of a parent, that is matched. -/
def CleanUpMatchers.category (m : CleanUpMatchers) (name : String) : Bool :=
  m.personalCare name || m.generalMerchandiseAndOther name

/-- A subcategory of an override or a rule that is matched. -/
def CleanUpMatchers.subcategory (m : CleanUpMatchers) (name : String) : Bool :=
  m.generalMerchandiseAndOther name || m.homeSupplies name

/-- A user category that is deleted. -/
def CleanUpMatchers.deletes (m : CleanUpMatchers) (c : UserCategoryRow) : Bool :=
  c.isTopLevel m.topLevelPersonalCare || c.isTopLevel m.generalMerchandiseAndOther ||
    m.homeSupplies c.name

/-- Every name that is matched is retired, and so is every subcategory of an override whose category
migration 036 matches. The parent of a category that is deleted does not count. -/
structure MatchesRetired (L : Locale) (m : CleanUpMatchers) (rows : CategoryRows) : Prop where
  budgets : ∀ b ∈ rows.budgets, m.category b.category → isRetired L b.category
  overrides : ∀ o ∈ rows.overrides, (m.category o.categoryName → isRetired L o.categoryName) ∧
    ∀ s ∈ o.subcategoryName, m.personalCare o.categoryName || m.subcategory s →
      isRetired L s
  rules : ∀ r ∈ rows.rules, (m.category r.categoryName → isRetired L r.categoryName) ∧
    ∀ s ∈ r.subcategoryName, m.subcategory s → isRetired L s
  names : ∀ c ∈ rows.userCategories, m.deletes c → isRetired L c.name
  parents : ∀ c ∈ rows.userCategories, m.deletes c = false → ∀ p ∈ c.parentCategory,
    m.category p → isRetired L p

/-! ### What the migrations do -/

/-- The tables after migration 036, where it applies. -/
def imagePersonalCare (now : Timestamp) (matched topLevel : String → Bool) (rows : CategoryRows) :
    CategoryRows where
  budgets := rows.budgets.map
    (updated (fun b ↦ matched b.category) (Budget.rename now "Shopping"))
  userCategories := (rows.userCategories.map (UserCategoryRow.move matched "Shopping")).filter
    fun c ↦ !c.isTopLevel topLevel
  overrides := rows.overrides.map <| TransactionCategoryOverride.refile <|
    Filing.recategorize matched fun _ ↦ some "Personal Care"
  rules := rows.rules.map <| CategoryRuleRow.refile <|
    Filing.recategorize matched fun subcategory ↦ some (subcategory.getD "Personal Care")

/-- The names of an override or a rule after migration 038. -/
def Filing.removeGeneral (matched : String → Bool) (f : Filing) : Filing :=
  (f.recategorize matched id).resubcategorize matched none

/-- The tables after migration 038, where it applies. -/
def imageGeneral (now : Timestamp) (matched : String → Bool) (rows : CategoryRows) :
    CategoryRows where
  budgets := rows.budgets.map
    (updated (fun b ↦ matched b.category) (Budget.rename now "Shopping"))
  userCategories := (rows.userCategories.map (UserCategoryRow.move matched "Shopping")).filter
    fun c ↦ !c.isTopLevel matched
  overrides := rows.overrides.map <| TransactionCategoryOverride.refile <|
    Filing.removeGeneral matched
  rules := rows.rules.map <| CategoryRuleRow.refile <| Filing.removeGeneral matched

/-- The tables after migration 039. -/
def imageHome (matched : String → Bool) (rows : CategoryRows) : CategoryRows where
  budgets := rows.budgets
  userCategories := rows.userCategories.filter fun c ↦ !matched c.name
  overrides := rows.overrides.map <| TransactionCategoryOverride.refile <|
    Filing.resubcategorize matched (some "Household Supplies")
  rules := rows.rules.map <| CategoryRuleRow.refile <|
    Filing.resubcategorize matched (some "Household Supplies")

/-- The tables after the three migrations. -/
def CleanUpMatchers.image (m : CleanUpMatchers) (now : ℕ → Timestamp) (rows : CategoryRows) :
    CategoryRows :=
  imageHome m.homeSupplies <| imageGeneral (now 38) m.generalMerchandiseAndOther <|
    imagePersonalCare (now 36) m.personalCare m.topLevelPersonalCare rows

section Images

variable {L : Locale} {now : Timestamp} {rows : CategoryRows} {tables : CategoryTables}

/-- A migration on the tables with keys succeeds exactly if the budgets stay apart. -/
theorem runStatements_spec (now : Timestamp) {statements : List CategoryStatement}
    (h : tables.Unique) (hkeeps : ∀ s ∈ statements, s.keepsNames) :
    if StayApart tables.budgets (categoryAfter (statements.map (now, ·))) then
      runStatements now statements tables = .ok (imageOf (statements.map (now, ·)) tables)
    else ∃ e, runStatements now statements tables = .error e := by
  have hok : ∀ tables', runScript (statements.map (now, ·)) tables = .ok tables' ↔ _ :=
    fun tables' ↦ runScript_eq_ok_iff h
  have hnames : UserCategoriesStayUnique (statements.map (now, ·)) tables := by
    refine userCategoriesStayUnique_of_keepsNames (fun s hs ↦ ?_) h.userCategories
    obtain ⟨statement, hstatement, rfl⟩ := List.mem_map.1 hs
    exact hkeeps statement hstatement
  rw [budgetsStayUnique_iff h.budgets, budgets_imageOf] at hok
  rw [runStatements_eq]
  split
  · rename_i hapart
    exact (hok _).2 ⟨rfl, hapart, hnames⟩
  · rename_i hapart
    rcases hrun : runScript (statements.map (now, ·)) tables with e | tables'
    · exact ⟨e, rfl⟩
    · exact absurd ((hok tables').1 hrun).2.1 hapart

theorem keepsNames_migration036 : ∀ s ∈ migration036 L, s.keepsNames := by
  simp [migration036, CategoryStatement.keepsNames]

theorem keepsNames_migration038 : ∀ s ∈ migration038 L, s.keepsNames := by
  simp [migration038, CategoryStatement.keepsNames]

/-- What is said of the tables with keys is said of all. -/
theorem spec_bind {α β ε : Type} {p : Prop} [Decidable p] {result : Except ε α} {a : α} (f : α → β)
    (h : if p then result = .ok a else ∃ e, result = .error e) :
    if p then (result >>= fun a ↦ .ok (f a)) = .ok (f a)
    else ∃ e, (result >>= fun a ↦ .ok (f a)) = .error e := by
  split at h
  · rename_i hp
    rw [if_pos hp, h]
    rfl
  · rename_i hp
    obtain ⟨e, rfl⟩ := h
    rw [if_neg hp]
    exact ⟨e, rfl⟩

theorem removePersonalCareCategory_spec (now : Timestamp) (h : rows.Unique) :
    if StayApart rows.budgets (toShopping (ilikeAny L personalCare)) then
      removePersonalCareCategory L now rows =
        .ok (imagePersonalCare now (ilikeAny L personalCare) (ilike L "%personal%care%") rows)
    else ∃ e, removePersonalCareCategory L now rows = .error e :=
  spec_bind _ (runStatements_spec now h keepsNames_migration036)

theorem removeGeneralMerchandiseAndOther_spec (now : Timestamp) (h : rows.Unique) :
    if StayApart rows.budgets (toShopping (ilikeAny L generalMerchandiseAndOther)) then
      removeGeneralMerchandiseAndOther L now rows =
        .ok (imageGeneral now (ilikeAny L generalMerchandiseAndOther) rows)
    else ∃ e, removeGeneralMerchandiseAndOther L now rows = .error e :=
  spec_bind _ (runStatements_spec now h keepsNames_migration038)

/-- The keys of the budgets after migration 036. -/
theorem budgets_imagePersonalCare (now : Timestamp) (matched topLevel : String → Bool)
    (rows : CategoryRows) :
    (imagePersonalCare now matched topLevel rows).budgets.map Budget.key =
      rows.budgets.map fun b ↦ (b.userId, toShopping matched b.category) := by
  show (rows.budgets.map _).map Budget.key = _
  rw [List.map_map]
  refine List.map_congr_left fun b _ ↦ ?_
  show (updated _ _ b).key = _
  rw [updated, toShopping]
  split <;> rfl

theorem unique_imagePersonalCare (now : Timestamp) {matched : String → Bool}
    (topLevel : String → Bool) (h : rows.Unique)
    (hapart : StayApart rows.budgets (toShopping matched)) :
    (imagePersonalCare now matched topLevel rows).Unique where
  budgets := by
    rw [budgets_imagePersonalCare]
    exact hapart
  userCategories := by
    let moved := (CategoryStatement.moveUserCategories matched "Shopping").image now
      rows.toCategoryTables
    have hmove : (moved.userCategories.map UserCategoryRow.key).Sublist
        (rows.userCategories.map UserCategoryRow.key) := userCategories_sublist trivial
    have hdelete : (((CategoryStatement.deleteTopLevel topLevel).image now
        moved).userCategories.map UserCategoryRow.key).Sublist
          (moved.userCategories.map UserCategoryRow.key) := userCategories_sublist trivial
    exact h.userCategories.sublist (hdelete.trans hmove)

/-! A migration that matches nothing leaves everything as it is. -/

theorem budgets_none (budgets : List Budget) (target : String) :
    budgets.map (updated (fun _ ↦ false) (Budget.rename now target)) = budgets :=
  List.map_id budgets

theorem userCategories_none (userCategories : List UserCategoryRow) (target : String) :
    (userCategories.map (UserCategoryRow.move (fun _ ↦ false) target)).filter
      (fun c ↦ !c.isTopLevel fun _ ↦ false) = userCategories := by
  have hmove : UserCategoryRow.move (fun _ ↦ false) target = id := by
    funext c
    rw [UserCategoryRow.move, Option.any_false]
    rfl
  rw [hmove, List.map_id]
  exact List.filter_eq_self.2 fun c _ ↦ rfl

theorem recategorize_none (subcategory : Option String → Option String) :
    Filing.recategorize (fun _ ↦ false) subcategory = id :=
  rfl

theorem resubcategorize_none (target : Option String) :
    Filing.resubcategorize (fun _ ↦ false) target = id := by
  funext f
  rw [Filing.resubcategorize, Option.any_false]
  rfl

theorem imagePersonalCare_none :
    imagePersonalCare now (fun _ ↦ false) (fun _ ↦ false) rows = rows := by
  rw [imagePersonalCare, budgets_none, userCategories_none, recategorize_none, recategorize_none]
  exact congrArg₂ (CategoryRows.mk rows.toCategoryTables) (List.map_id _) (List.map_id _)

theorem imageGeneral_none : imageGeneral now (fun _ ↦ false) rows = rows := by
  have hnames : Filing.removeGeneral (fun _ ↦ false) = id := by
    funext f
    rw [Filing.removeGeneral, resubcategorize_none]
    rfl
  rw [imageGeneral, budgets_none, userCategories_none, hnames]
  exact congrArg₂ (CategoryRows.mk rows.toCategoryTables) (List.map_id _) (List.map_id _)

theorem imageHome_none : imageHome (fun _ ↦ false) rows = rows := by
  have hkept : (rows.userCategories.filter fun _ ↦ !false) = rows.userCategories :=
    List.filter_eq_self.2 fun _ _ ↦ rfl
  rw [imageHome, hkept, resubcategorize_none]
  exact congrArg₂ (CategoryRows.mk rows.toCategoryTables) (List.map_id _) (List.map_id _)

theorem stayApart_imagePersonalCare {matched topLevel : String → Bool}
    (rename : String → String) :
    StayApart (imagePersonalCare now matched topLevel rows).budgets rename ↔
      StayApart rows.budgets (rename ∘ toShopping matched) := by
  have hkeys := congrArg (List.map fun k : Uuid × String ↦ (k.1, rename k.2))
    (budgets_imagePersonalCare now matched topLevel rows)
  rw [List.map_map, List.map_map] at hkeys
  exact iff_of_eq (congrArg List.Nodup hkeys)

/-- Budgets that end apart have not been together on the way. -/
theorem careApplies_of_generalApplies {budgets : List Budget} (h : GeneralApplies L budgets) :
    CareApplies L budgets := by
  have hkeys : (budgets.map fun b ↦ (b.userId, toShopping (ilikeAny L personalCare) b.category)).map
      (fun k ↦ (k.1, toShopping (ilikeAny L generalMerchandiseAndOther) k.2)) =
        budgets.map fun b ↦ (b.userId, (toShopping (ilikeAny L generalMerchandiseAndOther) ∘
          toShopping (ilikeAny L personalCare)) b.category) := List.map_map
  rw [GeneralApplies, StayApart, ← hkeys] at h
  exact List.Nodup.of_map _ h

/-- **The three migrations in one formula.** -/
theorem cleanUp_eq (L : Locale) (now : ℕ → Timestamp) (rows : CategoryRows) (h : rows.Unique) :
    cleanUp L now rows = (cleanUpMatchers L rows.budgets).image now rows := by
  have hcare : if CareApplies L rows.budgets then _ else _ :=
    removePersonalCareCategory_spec (now 36) h
  rw [cleanUp]
  split at hcare
  · rename_i hcareApplies
    have hgeneral := removeGeneralMerchandiseAndOther_spec (L := L) (now 38)
      (unique_imagePersonalCare (now 36) (ilike L "%personal%care%") h hcareApplies)
    simp only [stayApart_imagePersonalCare] at hgeneral
    rw [hcare]
    dsimp only
    split at hgeneral
    · rename_i hgeneralApplies
      have hmatchers : cleanUpMatchers L rows.budgets = ⟨ilikeAny L personalCare,
          ilike L "%personal%care%", ilikeAny L generalMerchandiseAndOther,
            ilike L homeSupplies⟩ := by
        simp only [cleanUpMatchers, hcareApplies, hgeneralApplies, decide_true, Bool.true_and]
      rw [hgeneral, hmatchers]
      rfl
    · rename_i hgeneralApplies
      have hmatchers : cleanUpMatchers L rows.budgets = ⟨ilikeAny L personalCare,
          ilike L "%personal%care%", fun _ ↦ false, fun _ ↦ false⟩ := by
        simp only [cleanUpMatchers, hcareApplies, hgeneralApplies, decide_true, decide_false,
          Bool.true_and, Bool.false_and]
      obtain ⟨e, he⟩ := hgeneral
      rw [he, hmatchers, CleanUpMatchers.image, imageGeneral_none, imageHome_none]
  · rename_i hcareApplies
    have hgeneralApplies : ¬GeneralApplies L rows.budgets :=
      fun hboth ↦ hcareApplies (careApplies_of_generalApplies hboth)
    have hmatchers : cleanUpMatchers L rows.budgets = ⟨fun _ ↦ false, fun _ ↦ false,
        fun _ ↦ false, fun _ ↦ false⟩ := by
      simp only [cleanUpMatchers, hcareApplies, hgeneralApplies, decide_false, Bool.false_and]
    obtain ⟨e, he⟩ := hcare
    rw [he, hmatchers, CleanUpMatchers.image, imagePersonalCare_none, imageGeneral_none,
      imageHome_none]

end Images

/-! ### What they spare -/

/-- What the migrations set, none of them matches where it is set. -/
structure CleanUpMatchers.SparesTargets (m : CleanUpMatchers) : Prop where
  personalCare_shopping : m.personalCare "Shopping" = false
  general_shopping : m.generalMerchandiseAndOther "Shopping" = false
  homeSupplies_personalCare : m.homeSupplies "Personal Care" = false
  homeSupplies_householdSupplies : m.homeSupplies "Household Supplies" = false

/-- The names of an override or a rule after the three migrations. -/
def CleanUpMatchers.file (m : CleanUpMatchers) (subcategory : Option String → Option String)
    (f : Filing) : Filing :=
  ((f.recategorize m.personalCare subcategory).removeGeneral
    m.generalMerchandiseAndOther).resubcategorize m.homeSupplies (some "Household Supplies")

/-- A subcategory after migrations 038 and 039. -/
def CleanUpMatchers.subcategoryAfter (m : CleanUpMatchers) (subcategory : Option String) :
    Option String :=
  let kept := subcategory.filter fun s ↦ !m.generalMerchandiseAndOther s
  if kept.any m.homeSupplies then some "Household Supplies" else kept

section Spares

variable {L : Locale} {m : CleanUpMatchers} {matched : String → Bool} {f : Filing}
  {subcategory : Option String → Option String} {target : Option String}

theorem categoryName_recategorize :
    (f.recategorize matched subcategory).categoryName = toShopping matched f.categoryName := by
  rw [Filing.recategorize, toShopping]
  split <;> rfl

theorem subcategoryName_recategorize :
    (f.recategorize matched subcategory).subcategoryName =
      if matched f.categoryName then subcategory f.subcategoryName else f.subcategoryName := by
  rw [Filing.recategorize]
  split <;> rfl

theorem categoryName_resubcategorize :
    (f.resubcategorize matched target).categoryName = f.categoryName := by
  rw [Filing.resubcategorize]
  split <;> rfl

theorem subcategoryName_resubcategorize :
    (f.resubcategorize matched target).subcategoryName =
      if f.subcategoryName.any matched then target else f.subcategoryName := by
  rw [Filing.resubcategorize]
  split <;> rfl

theorem categoryName_file :
    (m.file subcategory f).categoryName =
      toShopping m.generalMerchandiseAndOther (toShopping m.personalCare f.categoryName) := by
  rw [CleanUpMatchers.file, categoryName_resubcategorize, Filing.removeGeneral,
    categoryName_resubcategorize, categoryName_recategorize, categoryName_recategorize]

theorem subcategoryName_file :
    (m.file subcategory f).subcategoryName =
      m.subcategoryAfter (if m.personalCare f.categoryName then subcategory f.subcategoryName
        else f.subcategoryName) := by
  have hgeneral : ∀ f : Filing, (f.removeGeneral m.generalMerchandiseAndOther).subcategoryName =
      f.subcategoryName.filter fun s ↦ !m.generalMerchandiseAndOther s := by
    intro f
    rw [Filing.removeGeneral, subcategoryName_resubcategorize, subcategoryName_recategorize, id,
      ite_self]
    cases f.subcategoryName with
    | none => rfl
    | some s => cases h : m.generalMerchandiseAndOther s <;> simp [Option.filter, h]
  rw [CleanUpMatchers.file, subcategoryName_resubcategorize, hgeneral, subcategoryName_recategorize]
  rfl

theorem ne_shopping (h : matched "Shopping" = false) {name : String} (hname : matched name = true) :
    "Shopping" ≠ name := by
  rintro rfl
  exact absurd (hname.symm.trans h) (by decide)

theorem toShopping_eq_iff (h : matched "Shopping" = false) (name : String) :
    toShopping matched name = name ↔ matched name = false := by
  cases hname : matched name
  · simp [toShopping, hname]
  · simp [toShopping, hname, ne_shopping h hname]

/-- A category is left as it is exactly if neither migration matches it. -/
theorem toShopping_toShopping_eq_iff (h : m.SparesTargets) (name : String) :
    toShopping m.generalMerchandiseAndOther (toShopping m.personalCare name) = name ↔
      m.category name = false := by
  have hgeneral := toShopping_eq_iff h.general_shopping
  rw [CleanUpMatchers.category, Bool.or_eq_false_iff]
  cases hcare : m.personalCare name
  · rw [(toShopping_eq_iff h.personalCare_shopping name).2 hcare, and_iff_right rfl]
    exact hgeneral name
  · -- it is `Shopping`, and stays it
    rw [show toShopping m.personalCare name = "Shopping" from if_pos hcare,
      (hgeneral "Shopping").2 h.general_shopping]
    exact iff_of_false (ne_shopping h.personalCare_shopping hcare) fun hboth ↦
      absurd hboth.1 (by decide)

/-- A subcategory is left as it is exactly if neither migration matches it. -/
theorem subcategoryAfter_eq_iff (h : m.SparesTargets) (s : String) :
    m.subcategoryAfter (some s) = some s ↔ m.subcategory s = false := by
  rw [CleanUpMatchers.subcategoryAfter, CleanUpMatchers.subcategory, Bool.or_eq_false_iff]
  cases hgeneral : m.generalMerchandiseAndOther s
  · cases hhome : m.homeSupplies s
    · simp [Option.filter, hgeneral, hhome]
    · have hne : "Household Supplies" ≠ s := by
        rintro rfl
        exact absurd (hhome.symm.trans h.homeSupplies_householdSupplies) (by decide)
      simp [Option.filter, hgeneral, hhome, hne]
  · simp [Option.filter, hgeneral]

theorem eq_of_subcategoryAfter_personalCare (h : m.SparesTargets) {s : String}
    (hs : m.subcategoryAfter (some "Personal Care") = some s) : s = "Personal Care" := by
  rw [CleanUpMatchers.subcategoryAfter] at hs
  cases hgeneral : m.generalMerchandiseAndOther "Personal Care"
  · simpa [Option.filter, hgeneral, h.homeSupplies_personalCare, eq_comm] using hs
  · simp [Option.filter, hgeneral] at hs

theorem isRetired_personalCare : isRetired L "Personal Care" = true := by
  simp [isRetired, retiredNames]

/-- What is kept where nothing is matched, of the names that are not retired. -/
theorem kept_iff {retired matched : Bool} {P : Prop}
    (h : retired = false → (P ↔ matched = false)) :
    (retired = false → P) ↔ (matched → retired) := by
  cases retired <;> cases matched <;> simp_all

theorem spared_iff {f' : Filing} {category : Bool} {subcategory : String → Bool}
    (hcategory : isRetired L f.categoryName = false →
      (f'.categoryName = f.categoryName ↔ category = false))
    (hsubcategory : ∀ s ∈ f.subcategoryName, isRetired L s = false →
      (f'.subcategoryName = some s ↔ subcategory s = false)) :
    f.Spared L f' ↔ (category → isRetired L f.categoryName) ∧
      ∀ s ∈ f.subcategoryName, subcategory s → isRetired L s := by
  rw [← kept_iff hcategory]
  constructor
  · intro h
    exact ⟨h.category, fun s hs ↦ (kept_iff (hsubcategory s hs)).1 (h.subcategory s hs)⟩
  · intro h
    exact ⟨h.1, fun s hs ↦ (kept_iff (hsubcategory s hs)).2 (h.2 s hs)⟩

/-- When the names of an override are spared. -/
theorem spared_override_iff (h : m.SparesTargets) (f : Filing) :
    f.Spared L (m.file (fun _ ↦ some "Personal Care") f) ↔
      (m.category f.categoryName → isRetired L f.categoryName) ∧
        ∀ s ∈ f.subcategoryName, m.personalCare f.categoryName || m.subcategory s →
          isRetired L s := by
  refine spared_iff (fun _ ↦ ?_) fun s hs hretired ↦ ?_
  · rw [categoryName_file]
    exact toShopping_toShopping_eq_iff h f.categoryName
  · rw [subcategoryName_file, hs]
    cases m.personalCare f.categoryName
    · exact subcategoryAfter_eq_iff h s
    · -- the user's subcategory is overwritten
      refine iff_of_false (fun hkept ↦ ?_) nofun
      rw [eq_of_subcategoryAfter_personalCare h hkept, isRetired_personalCare] at hretired
      exact absurd hretired (by decide)

/-- When the names of a rule are spared, where migration 036 keeps the subcategory. -/
theorem spared_rule_iff (h : m.SparesTargets) (f : Filing) :
    f.Spared L (m.file (fun subcategory ↦ some (subcategory.getD "Personal Care")) f) ↔
      (m.category f.categoryName → isRetired L f.categoryName) ∧
        ∀ s ∈ f.subcategoryName, m.subcategory s → isRetired L s := by
  refine spared_iff (fun _ ↦ ?_) fun s hs _ ↦ ?_
  · rw [categoryName_file]
    exact toShopping_toShopping_eq_iff h f.categoryName
  · rw [subcategoryName_file, hs, Option.getD_some, ite_self]
    exact subcategoryAfter_eq_iff h s

theorem category_updated (now : Timestamp) (b : Budget) :
    (updated (fun b ↦ matched b.category) (Budget.rename now "Shopping") b).category =
      toShopping matched b.category := by
  rw [updated, toShopping]
  split <;> rfl

/-- When a budget is spared. -/
theorem spared_budget_iff (h : m.SparesTargets) (now : ℕ → Timestamp) (b : Budget) :
    (isRetired L b.category = false →
      updated (fun b ↦ m.generalMerchandiseAndOther b.category) (Budget.rename (now 38) "Shopping")
        (updated (fun b ↦ m.personalCare b.category) (Budget.rename (now 36) "Shopping") b) = b) ↔
      (m.category b.category → isRetired L b.category) := by
  refine kept_iff fun _ ↦ ?_
  constructor
  · intro hkept
    have hcategory := congrArg Budget.category hkept
    rw [category_updated, category_updated] at hcategory
    exact (toShopping_toShopping_eq_iff h b.category).1 hcategory
  · intro hunmatched
    obtain ⟨hcare, hgeneral⟩ := Bool.or_eq_false_iff.1 hunmatched
    have hfirst : updated (fun b ↦ m.personalCare b.category)
        (Budget.rename (now 36) "Shopping") b = b := if_neg (Bool.eq_false_iff.1 hcare)
    rw [hfirst]
    exact if_neg (Bool.eq_false_iff.1 hgeneral)

theorem name_move (c : UserCategoryRow) : (c.move matched "Shopping").name = c.name := by
  rw [UserCategoryRow.move]
  split <;> rfl

theorem key_move (c : UserCategoryRow) : (c.move matched "Shopping").key = c.key := by
  rw [UserCategoryRow.move]
  split <;> rfl

theorem parentCategory_move (c : UserCategoryRow) :
    (c.move matched "Shopping").parentCategory = c.parentCategory.map (toShopping matched) := by
  rw [UserCategoryRow.move]
  cases hparent : c.parentCategory with
  | none => simp [hparent]
  | some p => cases hp : matched p <;> simp [hparent, hp, toShopping]

theorem isTopLevel_move {topLevel : String → Bool} (c : UserCategoryRow) :
    (c.move matched "Shopping").isTopLevel topLevel = c.isTopLevel topLevel := by
  rw [UserCategoryRow.isTopLevel, name_move, parentCategory_move, Option.isNone_map]
  rfl

/-- The user categories after the migrations. -/
theorem userCategories_image (now : ℕ → Timestamp) (rows : CategoryRows) :
    (m.image now rows).userCategories = (rows.userCategories.filter fun c ↦ !m.deletes c).map
      fun c ↦ (c.move m.personalCare "Shopping").move m.generalMerchandiseAndOther "Shopping" := by
  show ((((rows.userCategories.map _).filter _).map _).filter _).filter _ = _
  simp only [List.filter_map, List.map_map, List.filter_filter]
  refine congrArg (List.map _) (List.filter_congr fun c _ ↦ ?_)
  simp only [Function.comp_apply, isTopLevel_move, name_move, CleanUpMatchers.deletes, Bool.not_or]
  rw [Bool.and_comm, Bool.and_comm (!c.isTopLevel m.generalMerchandiseAndOther)]

/-- What becomes of a user category. -/
theorem mem_userCategories_image_iff {rows : CategoryRows} {c c' : UserCategoryRow}
    (now : ℕ → Timestamp) (hunique : rows.Unique) (hc : c ∈ rows.userCategories) :
    c' ∈ (m.image now rows).userCategories ∧ c'.key = c.key ↔ m.deletes c = false ∧
      c' = (c.move m.personalCare "Shopping").move m.generalMerchandiseAndOther "Shopping" := by
  rw [userCategories_image, List.mem_map]
  constructor
  · rintro ⟨⟨r, hr, rfl⟩, hkey⟩
    obtain ⟨hr, hkept⟩ := List.mem_filter.1 hr
    rw [key_move, key_move] at hkey
    obtain rfl := List.inj_on_of_nodup_map hunique.userCategories hr hc hkey
    exact ⟨by simpa using hkept, rfl⟩
  · rintro ⟨hkept, rfl⟩
    refine ⟨⟨c, List.mem_filter.2 ⟨hc, by simpa using hkept⟩, rfl⟩, ?_⟩
    rw [key_move, key_move]

/-- When the budgets are spared. -/
theorem forall₂_budgets_iff (h : m.SparesTargets) (now : ℕ → Timestamp) (rows : CategoryRows) :
    List.Forall₂ (fun b b' ↦ isRetired L b.category = false → b' = b) rows.budgets
        (m.image now rows).budgets ↔
      ∀ b ∈ rows.budgets, m.category b.category → isRetired L b.category := by
  show List.Forall₂ _ _ ((rows.budgets.map _).map _) ↔ _
  rw [List.map_map, List.forall₂_map_right_iff, List.forall₂_same]
  exact forall₂_congr fun b _ ↦ spared_budget_iff h now b

/-- When the overrides are spared. -/
theorem forall₂_overrides_iff (h : m.SparesTargets) (now : ℕ → Timestamp) (rows : CategoryRows) :
    List.Forall₂ (fun o o' ↦ o' = o.refile (fun _ ↦ o'.filing) ∧ o.filing.Spared L o'.filing)
        rows.overrides (m.image now rows).overrides ↔
      ∀ o ∈ rows.overrides, (m.category o.categoryName → isRetired L o.categoryName) ∧
        ∀ s ∈ o.subcategoryName, m.personalCare o.categoryName || m.subcategory s →
          isRetired L s := by
  show List.Forall₂ _ _ (((rows.overrides.map _).map _).map _) ↔ _
  rw [List.map_map, List.map_map, List.forall₂_map_right_iff, List.forall₂_same]
  exact forall₂_congr fun o _ ↦ (and_iff_right rfl).trans (spared_override_iff h o.filing)

/-- When the rules are spared. -/
theorem forall₂_rules_iff (h : m.SparesTargets) (now : ℕ → Timestamp) (rows : CategoryRows) :
    List.Forall₂ (fun r r' ↦ r' = r.refile (fun _ ↦ r'.filing) ∧ r.filing.Spared L r'.filing)
        rows.rules (m.image now rows).rules ↔
      ∀ r ∈ rows.rules, (m.category r.categoryName → isRetired L r.categoryName) ∧
        ∀ s ∈ r.subcategoryName, m.subcategory s → isRetired L s := by
  show List.Forall₂ _ _ (((rows.rules.map _).map _).map _) ↔ _
  rw [List.map_map, List.map_map, List.forall₂_map_right_iff, List.forall₂_same]
  exact forall₂_congr fun r _ ↦ (and_iff_right rfl).trans (spared_rule_iff h r.filing)

/-- **When the migrations spare the other names**, as far as they match any. -/
theorem image_spares_iff (h : m.SparesTargets) (now : ℕ → Timestamp) (rows : CategoryRows)
    (hunique : rows.Unique) :
    CleanUpSpares L rows (m.image now rows) ↔ MatchesRetired L m rows := by
  have hnames : ∀ c ∈ rows.userCategories,
      ((∃ c' ∈ (m.image now rows).userCategories, c'.key = c.key) ↔ m.deletes c = false) := by
    intro c hc
    simp only [mem_userCategories_image_iff now hunique hc]
    exact ⟨fun ⟨_, hkept, _⟩ ↦ hkept, fun hkept ↦ ⟨_, hkept, rfl⟩⟩
  have hparents : ∀ c : UserCategoryRow, ∀ p ∈ c.parentCategory,
      (((c.move m.personalCare "Shopping").move m.generalMerchandiseAndOther
        "Shopping").parentCategory = some p ↔ m.category p = false) := by
    intro c p hp
    rw [parentCategory_move, parentCategory_move, hp, Option.map_some, Option.map_some,
      Option.some.injEq]
    exact toShopping_toShopping_eq_iff h p
  constructor
  · intro hspares
    refine ⟨(forall₂_budgets_iff h now rows).1 hspares.budgets,
      (forall₂_overrides_iff h now rows).1 hspares.overrides,
      (forall₂_rules_iff h now rows).1 hspares.rules,
      fun c hc ↦ (kept_iff fun _ ↦ hnames c hc).1 (hspares.names c hc), fun c hc hkept p hp ↦ ?_⟩
    obtain ⟨hmem, hkey⟩ := (mem_userCategories_image_iff now hunique hc).2 ⟨hkept, rfl⟩
    exact (kept_iff fun _ ↦ hparents c p hp).1 (hspares.parents c hc _ hmem hkey p hp)
  · intro hretired
    refine ⟨(forall₂_budgets_iff h now rows).2 hretired.budgets,
      (forall₂_overrides_iff h now rows).2 hretired.overrides,
      (forall₂_rules_iff h now rows).2 hretired.rules,
      fun c hc ↦ (kept_iff fun _ ↦ hnames c hc).2 (hretired.names c hc),
      fun c hc c' hc' hkey p hp ↦ ?_⟩
    obtain ⟨hkept, rfl⟩ := (mem_userCategories_image_iff now hunique hc).1 ⟨hc', hkey⟩
    exact (kept_iff fun _ ↦ hparents c p hp).2 (hretired.parents c hc hkept p hp)

end Spares

/-! ### The guarantee -/

section Guarantee

variable {L : Locale}

/-- Where `LOWER` is the usual one on ASCII, so is the lower case of an ASCII text. -/
theorem lowerString_eq (hascii : ∀ c : Char, c.toNat < 128 → L.lower c = c.toLower) {s : String}
    (hs : s.toList.all (·.toNat < 128)) : L.lowerString s = Locale.c.lowerString s :=
  List.map_congr_left fun c hc ↦ hascii c (of_decide_eq_true (List.all_eq_true.1 hs c hc))

theorem ilike_eq (hascii : ∀ c : Char, c.toNat < 128 → L.lower c = c.toLower) {p s : String}
    (hp : p.toList.all (·.toNat < 128)) (hs : s.toList.all (·.toNat < 128)) :
    ilike L p s = ilike Locale.c p s := by
  rw [ilike, ilike, lowerString_eq hascii hp, lowerString_eq hascii hs]

theorem ilikeAny_eq (hascii : ∀ c : Char, c.toNat < 128 → L.lower c = c.toLower)
    {ps : List String} {s : String} (hps : ps.all fun p ↦ p.toList.all (·.toNat < 128))
    (hs : s.toList.all (·.toNat < 128)) : ilikeAny L ps s = ilikeAny Locale.c ps s := by
  rw [ilikeAny, ilikeAny, List.any_eq, List.any_eq]
  refine decide_eq_decide.2 (exists_congr fun p ↦ and_congr_right fun hp ↦ ?_)
  rw [ilike_eq hascii (List.all_eq_true.1 hps p hp) hs]

theorem sparesTargets_cleanUpMatchers
    (hascii : ∀ c : Char, c.toNat < 128 → L.lower c = c.toLower) (budgets : List Budget) :
    (cleanUpMatchers L budgets).SparesTargets where
  personalCare_shopping := by
    have hfree : ilikeAny L personalCare "Shopping" = false :=
      (ilikeAny_eq hascii (by decide) (by decide)).trans (by decide)
    show (_ && ilikeAny L personalCare "Shopping") = false
    rw [hfree, Bool.and_false]
  general_shopping := by
    have hfree : ilikeAny L generalMerchandiseAndOther "Shopping" = false :=
      (ilikeAny_eq hascii (by decide) (by decide)).trans (by decide)
    show (_ && ilikeAny L generalMerchandiseAndOther "Shopping") = false
    rw [hfree, Bool.and_false]
  homeSupplies_personalCare := by
    have hfree : ilike L homeSupplies "Personal Care" = false :=
      (ilike_eq hascii (by decide) (by decide)).trans (by decide)
    show (_ && ilike L homeSupplies "Personal Care") = false
    rw [hfree, Bool.and_false]
  homeSupplies_householdSupplies := by
    have hfree : ilike L homeSupplies "Household Supplies" = false :=
      (ilike_eq hascii (by decide) (by decide)).trans (by decide)
    show (_ && ilike L homeSupplies "Household Supplies") = false
    rw [hfree, Bool.and_false]

end Guarantee

/-- **When the clean-up spares the users' own names.** In a locale whose `LOWER` is the usual one on
ASCII, every name that is not retired is left as it was if and only if the migrations that apply
match retired names alone, and no override that migration 036 matches has a subcategory of its
user's own. -/
theorem cleanUp_spares_iff (L : Locale) (hascii : ∀ c : Char, c.toNat < 128 → L.lower c = c.toLower)
    (now : ℕ → Timestamp) (rows : CategoryRows) (h : rows.Unique) :
    CleanUpSpares L rows (cleanUp L now rows) ↔
      MatchesRetired L (cleanUpMatchers L rows.budgets) rows := by
  rw [cleanUp_eq L now rows h]
  exact image_spares_iff (sparesTargets_cleanUpMatchers hascii rows.budgets) now rows h

/-- A user with a category of their own. -/
def homeOffice : CategoryRows where
  budgets := []
  userCategories := [⟨1, 7, "Home Office Supplies", some "Shopping", some 0⟩]
  overrides := []
  rules := []

/-- **A category of a user's own that is deleted.** -/
theorem not_cleanUpSpares_homeOffice :
    homeOffice.Unique ∧
      ¬CleanUpSpares Locale.c homeOffice (cleanUp Locale.c (fun _ ↦ 0) homeOffice) := by
  refine ⟨⟨by decide, by decide⟩, fun h ↦ ?_⟩
  obtain ⟨c', hc', -⟩ := h.names ⟨1, 7, "Home Office Supplies", some "Shopping", some 0⟩
    (List.mem_singleton_self _) (by decide)
  have hgone : (cleanUp Locale.c (fun _ ↦ 0) homeOffice).userCategories = [] := by rfl
  rw [hgone] at hc'
  exact absurd hc' List.not_mem_nil

/-- A user with retired names, and with names of their own that no migration matches. -/
def groceriesAndCare : CategoryRows where
  budgets := [monthlyBudget 1 "Groceries", monthlyBudget 2 "Personal Care"]
  userCategories := [⟨1, 7, "Bakery", some "Groceries", some 0⟩]
  overrides := [⟨5, 7, "OTHER", some "Gardening", some 0⟩]
  rules := [⟨1, 7, "*SHOP*", "Personal Care", some "Haircuts", some 0, some 0⟩]

/-- Rows whose other names are spared. -/
theorem cleanUpSpares_groceriesAndCare :
    CleanUpSpares Locale.c groceriesAndCare (cleanUp Locale.c (fun _ ↦ 0) groceriesAndCare) := by
  exact (cleanUp_spares_iff Locale.c (fun _ _ ↦ rfl) (fun _ ↦ 0) groceriesAndCare
    ⟨by decide, by decide⟩).2 ⟨by decide, by decide, by decide, by decide, by decide⟩

end Sumurai
