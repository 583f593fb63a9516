import Sumurai.Analytics.CategoryRules
import Sumurai.Categories.CleanUp
import Sumurai.Categories.StoredOverrides

/-!
# The requests about categories

Ten requests are about categories: a user lists, creates and deletes categories, files a transaction
under one and takes that back, lists, creates, edits and deletes rules, and lists the transactions,
which is where all of this shows. `CategoryRequest.serve` is the server that answers them, from the
tables that all users share.

A rule is written by its pattern: a creation with the pattern of a rule that is there writes over
it, and an edit may not take the pattern of another.
-/

namespace Sumurai

/-- The store with the tables `user_categories` and `category_rules`. -/
structure RuleStore extends CategoryStore where
  categoryRules : List CategoryRuleRow
deriving DecidableEq, Repr

/-! ### The statements -/

/-- `get_user_categories`. -/
def getUserCategories (L : Locale) (db : CategoryStore) (userId : Uuid) : List UserCategoryRow :=
  (db.userCategories.filter fun c ↦ c.userId = userId).insertionSort
    (OrderBy.asc fun c ↦ L.collationKey c.name)

/-- `remove_transaction_category_override`. -/
def removeTransactionCategoryOverride (overrides : List TransactionCategoryOverride)
    (transactionId userId : Uuid) : List TransactionCategoryOverride :=
  overrides.filter fun o ↦ ¬(o.transactionId = transactionId ∧ o.userId = userId)

/-- `ORDER BY length(pattern) DESC, updated_at DESC, created_at DESC`. -/
def rulesFirst : CategoryRuleRow → CategoryRuleRow → Prop :=
  OrderBy.thenBy (OrderBy.desc fun r ↦ r.pattern.length)
    (OrderBy.thenBy (OrderBy.desc fun r ↦ OrderBy.nullable r.updatedAt)
      (OrderBy.desc fun r ↦ OrderBy.nullable r.createdAt))

instance rulesFirstDecidable : DecidableRel rulesFirst :=
  inferInstanceAs (DecidableRel (OrderBy.thenBy _ _))

instance rulesFirstTotal : Std.Total rulesFirst :=
  inferInstanceAs (Std.Total (OrderBy.thenBy _ _))

instance rulesFirstTrans : IsTrans CategoryRuleRow rulesFirst :=
  inferInstanceAs (IsTrans _ (OrderBy.thenBy _ _))

/-- `get_category_rules`. -/
def getCategoryRules (rules : List CategoryRuleRow) (userId : Uuid) : List CategoryRuleRow :=
  (rules.filter fun r ↦ r.userId = userId).insertionSort rulesFirst

/-- A rule as it is applied. -/
def CategoryRuleRow.toRule (r : CategoryRuleRow) : CategoryRule where
  pattern := r.pattern
  categoryName := r.categoryName
  subcategoryName := r.subcategoryName

/-- The columns have room for the texts: `VARCHAR(500)` for the pattern, `VARCHAR(255)` for the
names. -/
def CategoryRuleRow.fits (r : CategoryRuleRow) : Bool :=
  r.pattern.length ≤ 500 && r.categoryName.length ≤ 255 &&
    r.subcategoryName.all fun s ↦ s.length ≤ 255

/-- `INSERT INTO category_rules .. ON CONFLICT (user_id, pattern) DO UPDATE .. RETURNING`. -/
def createCategoryRule (rules : List CategoryRuleRow) (now : Timestamp) (newId userId : Uuid)
    (pattern categoryName : String) (subcategoryName : Option String) :
    Except String (List CategoryRuleRow × CategoryRuleRow) :=
  let row : CategoryRuleRow :=
    { id := newV4 (rules.map CategoryRuleRow.id) newId
      userId := userId
      pattern := pattern
      categoryName := categoryName
      subcategoryName := subcategoryName
      createdAt := some now
      updatedAt := some now }
  let update (r : CategoryRuleRow) : CategoryRuleRow :=
    { r with
      categoryName := categoryName
      subcategoryName := subcategoryName
      updatedAt := some now }
  if row.fits then
    match rules.find? fun r ↦ r.userId = userId ∧ r.pattern = pattern with
    | some r =>
      .ok (rules.map fun r ↦ if r.userId = userId ∧ r.pattern = pattern then update r else r,
        update r)
    | none => .ok (rules ++ [row], row)
  else .error "value too long for type character varying"

/-- What `update_category_rule` makes of a row. -/
def CategoryRuleRow.edit (now : Timestamp) (pattern categoryName subcategoryName : Option String)
    (r : CategoryRuleRow) : CategoryRuleRow :=
  { r with
    pattern := pattern.getD r.pattern
    categoryName := categoryName.getD r.categoryName
    subcategoryName := subcategoryName.or r.subcategoryName
    updatedAt := some now }

/-- `update_category_rule`, from the statement to the commit. -/
def updateCategoryRule (rules : List CategoryRuleRow) (now : Timestamp) (ruleId userId : Uuid)
    (pattern categoryName subcategoryName : Option String) :
    Except String (List CategoryRuleRow × CategoryRuleRow) :=
  match rules.find? fun r ↦ r.id = ruleId ∧ r.userId = userId with
  | none => .error "Rule not found"
  | some r =>
    let row := r.edit now pattern categoryName subcategoryName
    if row.fits then
      if rules.any fun r' ↦ r'.id ≠ ruleId ∧ r'.userId = userId ∧ r'.pattern = row.pattern then
        .error "duplicate key value violates unique constraint \"category_rules_unique\""
      else
        .ok (rules.map fun r' ↦ if r'.id = ruleId ∧ r'.userId = userId then row else r', row)
    else .error "value too long for type character varying"

/-- `delete_category_rule`. -/
def deleteCategoryRule (rules : List CategoryRuleRow) (ruleId userId : Uuid) :
    List CategoryRuleRow :=
  rules.filter fun r ↦ ¬(r.id = ruleId ∧ r.userId = userId)

/-! ### The requests -/

/-- `TransactionsQuery`, with the account filter that has been validated and the dates that have
been read. -/
structure TransactionsQuery where
  search : Option String
  accountIds : Option (List Uuid)
  startDate : Option NaiveDate
  endDate : Option NaiveDate
deriving DecidableEq, Repr

/-- A request about categories. -/
inductive CategoryCall where
  | getUserCategories
  | createUserCategory (newId : Uuid) (name : String) (parentCategory : Option String)
  | deleteUserCategory (categoryId : Uuid)
  | setTransactionCategory (transactionId : Uuid) (categoryName : String)
      (subcategoryName : Option String)
  | removeTransactionCategory (transactionId : Uuid)
  | getCategoryRules
  | createCategoryRule (newId : Uuid) (pattern categoryName : String)
      (subcategoryName : Option String)
  | updateCategoryRule (ruleId : Uuid) (pattern categoryName subcategoryName : Option String)
  | deleteCategoryRule (ruleId : Uuid)
  | getTransactions (query : TransactionsQuery)
deriving DecidableEq, Repr

/-- A request with its user, and what the environment chooses for it. -/
structure CategoryRequest where
  userId : Uuid
  now : Timestamp
  call : CategoryCall
  /-- The database answers. -/
  up : Bool
  /-- The database answers the query for the rules that a list of transactions makes first. -/
  rulesUp : Bool
deriving DecidableEq, Repr

/-- What a request is answered. -/
inductive CategoryReply where
  | categories (categories : List UserCategoryRow)
  | category (category : UserCategoryRow)
  /-- `DeleteCategoryResponse` and `DeleteCategoryRuleResponse`. -/
  | deleted (id : Uuid)
  | noContent
  | rules (rules : List CategoryRuleRow)
  | rule (rule : CategoryRuleRow)
  | transactions (transactions : List TransactionWithAccount)
deriving DecidableEq, Repr

/-- `ApiErrorResponse::internal_server_error`. -/
def CategoryFailure.internalServerError (message : String) : CategoryFailure :=
  ⟨500, "INTERNAL_SERVER_ERROR", message⟩

/-- `create_authenticated_category_rule`. -/
def createAuthenticatedCategoryRule (rules : List CategoryRuleRow) (now : Timestamp)
    (newId userId : Uuid) (pattern categoryName : String) (subcategoryName : Option String) :
    Except CategoryFailure (List CategoryRuleRow × CategoryRuleRow) :=
  if trimmed pattern = "" ∨ trimmed categoryName = "" then
    .error ⟨400, "BAD_REQUEST", "Pattern and category name must not be empty"⟩
  else
    match createCategoryRule rules now newId userId (trimmed pattern) (trimmed categoryName)
      (trimmedOrNone subcategoryName) with
    | .ok created => .ok created
    | .error e =>
      if messageContains e "already exists" then
        .error ⟨409, "CONFLICT", "Rule pattern already exists"⟩
      else .error (.internalServerError "Failed to create category rule")

/-- `update_authenticated_category_rule`. -/
def updateAuthenticatedCategoryRule (rules : List CategoryRuleRow) (now : Timestamp)
    (ruleId userId : Uuid) (pattern categoryName subcategoryName : Option String) :
    Except CategoryFailure (List CategoryRuleRow × CategoryRuleRow) :=
  match updateCategoryRule rules now ruleId userId (trimmedOrNone pattern)
    (trimmedOrNone categoryName) (trimmedOrNone subcategoryName) with
  | .ok updated => .ok updated
  | .error e =>
    if messageContains e "not found" then .error ⟨404, "NOT_FOUND", "Rule not found"⟩
    else .error (.internalServerError "Failed to update category rule")

/-- The search of `get_authenticated_transactions`, for one transaction. -/
def matchesSearch (U : UnicodeCase) (needle : List Char) (t : TransactionWithAccount) : Bool :=
  [t.merchantName.getD "", t.categoryPrimary, t.categoryDetailed, t.accountName].any fun text ↦
    needle <:+: U.toLowercase text

/-- `get_authenticated_transactions`, from the query on. What fails shows as no rules, or as no
transactions. -/
def getAuthenticatedTransactions (U : UnicodeCase) (db : RuleStore) (up rulesUp : Bool)
    (userId : Uuid) (query : TransactionsQuery) : List TransactionWithAccount :=
  let rules := if rulesUp then
    (getCategoryRules db.categoryRules userId).map CategoryRuleRow.toRule else []
  if up then
    let transactions := (getTransactionsWithAccountForUser db.toStore userId).filter fun t ↦
      isSelected query.accountIds t.accountId && query.startDate.all (· ≤ t.date) &&
        query.endDate.all (t.date ≤ ·)
    let ruled := CategoryRules.applyCategoryRules U transactions rules
    match trimmedOrNone query.search with
    | some search => ruled.filter (matchesSearch U (U.toLowercase search))
    | none => ruled
  else []

namespace CategoryRequest

variable (L : Locale) (U : UnicodeCase)

/-- What the handler of a request comes to when the database answers. -/
def handle (db : RuleStore) (r : CategoryRequest) :
    Except CategoryFailure (RuleStore × CategoryReply) :=
  match r.call with
  | .getUserCategories => .ok (db, .categories (getUserCategories L db.toCategoryStore r.userId))
  | .createUserCategory newId name parentCategory =>
    (createAuthenticatedUserCategory db.toCategoryStore r.now newId r.userId name
      parentCategory).map fun created ↦ ({ db with toCategoryStore := created.1 },
        .category created.2)
  | .deleteUserCategory categoryId =>
    .ok ({ db with toCategoryStore := deleteUserCategory db.toCategoryStore categoryId r.userId },
      .deleted categoryId)
  | .setTransactionCategory transactionId categoryName subcategoryName =>
    (setAuthenticatedTransactionCategory db.toCategoryStore r.now transactionId r.userId
      categoryName subcategoryName).map fun stored ↦ ({ db with toCategoryStore := stored },
        .noContent)
  | .removeTransactionCategory transactionId =>
    .ok ({ db with
      transactionCategoryOverrides := removeTransactionCategoryOverride
        db.transactionCategoryOverrides transactionId r.userId }, .noContent)
  | .getCategoryRules => .ok (db, .rules (getCategoryRules db.categoryRules r.userId))
  | .createCategoryRule newId pattern categoryName subcategoryName =>
    (createAuthenticatedCategoryRule db.categoryRules r.now newId r.userId pattern categoryName
      subcategoryName).map fun created ↦ ({ db with categoryRules := created.1 },
        .rule created.2)
  | .updateCategoryRule ruleId pattern categoryName subcategoryName =>
    (updateAuthenticatedCategoryRule db.categoryRules r.now ruleId r.userId pattern categoryName
      subcategoryName).map fun updated ↦ ({ db with categoryRules := updated.1 },
        .rule updated.2)
  | .deleteCategoryRule ruleId =>
    .ok ({ db with categoryRules := deleteCategoryRule db.categoryRules ruleId r.userId },
      .deleted ruleId)
  | .getTransactions query =>
    .ok (db, .transactions (getAuthenticatedTransactions U db r.up r.rulesUp r.userId query))

/-- What a request says when its database call fails; a list of transactions does not. -/
def failure : CategoryCall → Option String
  | .getUserCategories => some "Failed to fetch categories"
  | .createUserCategory .. => some "Failed to create category"
  | .deleteUserCategory _ => some "Failed to delete category"
  | .setTransactionCategory .. => some "Failed to set category override"
  | .removeTransactionCategory _ => some "Failed to remove category override"
  | .getCategoryRules => some "Failed to fetch category rules"
  | .createCategoryRule .. => some "Failed to create category rule"
  | .updateCategoryRule .. => some "Failed to update category rule"
  | .deleteCategoryRule _ => some "Failed to delete category rule"
  | .getTransactions _ => none

/-- The answer to a request, and the store after it. A request that is invalid is refused before the
database is asked. -/
def serve (db : RuleStore) (r : CategoryRequest) :
    RuleStore × Except CategoryFailure CategoryReply :=
  match r.handle L U db with
  | .ok (db', reply) =>
    match if r.up then none else failure r.call with
    | some message => (db, .error (.internalServerError message))
    | none => (db', .ok reply)
  | .error e =>
    match if r.up ∨ e.status = 400 then none else failure r.call with
    | some message => (db, .error (.internalServerError message))
    | none => (db, .error e)

/-- The store after a request. -/
def step (db : RuleStore) (r : CategoryRequest) : RuleStore :=
  (r.serve L U db).1

/-- The answer to a request. -/
def answer (db : RuleStore) (r : CategoryRequest) : Except CategoryFailure CategoryReply :=
  (r.serve L U db).2

end CategoryRequest

section Handlers

variable {now : Timestamp} {newId userId : Uuid}

theorem createAuthenticatedUserCategory_ok {db : CategoryStore} {name : String}
    {parentCategory : Option String} {created : CategoryStore × UserCategoryRow}
    (h : createAuthenticatedUserCategory db now newId userId name parentCategory = .ok created) :
    createUserCategory db now newId userId (trimmed name) (trimmedOrNone parentCategory) =
      .ok created := by
  unfold createAuthenticatedUserCategory at h
  split at h
  · cases h
  · split at h
    · rename_i hcreate
      rw [hcreate, Except.ok.inj h]
    · split at h <;> cases h

theorem createAuthenticatedCategoryRule_ok {rules : List CategoryRuleRow}
    {pattern categoryName : String} {subcategoryName : Option String}
    {created : List CategoryRuleRow × CategoryRuleRow}
    (h : createAuthenticatedCategoryRule rules now newId userId pattern categoryName
      subcategoryName = .ok created) :
    createCategoryRule rules now newId userId (trimmed pattern) (trimmed categoryName)
      (trimmedOrNone subcategoryName) = .ok created := by
  unfold createAuthenticatedCategoryRule at h
  split at h
  · cases h
  · split at h
    · rename_i hcreate
      rw [hcreate, Except.ok.inj h]
    · split at h <;> cases h

theorem updateAuthenticatedCategoryRule_ok {rules : List CategoryRuleRow} {ruleId : Uuid}
    {pattern categoryName subcategoryName : Option String}
    {updated : List CategoryRuleRow × CategoryRuleRow}
    (h : updateAuthenticatedCategoryRule rules now ruleId userId pattern categoryName
      subcategoryName = .ok updated) :
    updateCategoryRule rules now ruleId userId (trimmedOrNone pattern)
      (trimmedOrNone categoryName) (trimmedOrNone subcategoryName) = .ok updated := by
  unfold updateAuthenticatedCategoryRule at h
  split at h
  · rename_i hupdate
    rw [hupdate, Except.ok.inj h]
  · split at h <;> cases h

end Handlers

/-- An update of some rows keeps a column that it does not set. -/
theorem map_update {α β : Type} {f : α → β} {named : α → Prop} [DecidablePred named] {g : α → α}
    {l : List α} (h : ∀ a, named a → f (g a) = f a) :
    (l.map fun a ↦ if named a then g a else a).map f = l.map f := by
  rw [List.map_map]
  refine List.map_congr_left fun a _ ↦ ?_
  rw [Function.comp_apply]
  split
  · exact h a ‹_›
  · rfl

theorem exists_of_map_eq_ok {ε α β : Type} {x : Except ε α} {f : α → β} {b : β}
    (h : x.map f = .ok b) : ∃ a, x = .ok a ∧ f a = b := by
  cases x with
  | error => cases h
  | ok a => exact ⟨a, rfl, Except.ok.inj h⟩

namespace CategoryRequest

variable (L : Locale) (U : UnicodeCase)

/-- The store after a request is the one it found, or the one its handler makes. -/
theorem step_eq_or (db : RuleStore) (r : CategoryRequest) :
    r.step L U db = db ∨ ∃ reply, r.handle L U db = .ok (r.step L U db, reply) := by
  unfold step serve
  cases r.handle L U db with
  | error e =>
    simp only
    split <;> exact .inl rfl
  | ok handled =>
    simp only
    split
    · exact .inl rfl
    · exact .inr ⟨handled.2, rfl⟩

end CategoryRequest

end Sumurai
