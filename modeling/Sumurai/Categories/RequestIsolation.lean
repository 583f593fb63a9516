import Sumurai.Categories.Requests
import Sumurai.Foundations.HiddenRows
import Sumurai.Foundations.Unwinding
import Sumurai.Frontend.RuleMatching

/-!
# The requests of one user and those of others

The tables about categories keep the users apart by a condition of each statement.
`categoryRequests_isolated` is what the conditions are worth: what a user has in the tables and what
the user is answered are the same as if nobody else had made a request. It rests on two facts about
each statement: that it may as well be executed on the rows of its user (`serve_restrict`), and that
it leaves those of others as they are (`step_hidden`). A new row has an id of its own, so the ids
that are drawn must be new.
-/

open LabelledSystem

namespace Sumurai

/-! ### The rows of some users -/

/-- The store with the rows of some users alone, as far as rows about categories go. -/
def CategoryStore.restrict (p : Uuid → Bool) (db : CategoryStore) : CategoryStore :=
  { db with
    userCategories := db.userCategories.filter fun c ↦ p c.userId
    transactionCategoryOverrides := db.transactionCategoryOverrides.filter fun o ↦ p o.userId }

/-- The same with the rules. -/
def RuleStore.restrict (p : Uuid → Bool) (db : RuleStore) : RuleStore where
  toCategoryStore := db.toCategoryStore.restrict p
  categoryRules := db.categoryRules.filter fun r ↦ p r.userId

/-- The id that a request draws for a new row. -/
def CategoryCall.draw : CategoryCall → Option Uuid
  | .createUserCategory newId _ _ => some newId
  | .createCategoryRule newId _ _ _ => some newId
  | _ => none

/-- An id that no category and no rule has. -/
def RuleStore.IsNewId (db : RuleStore) (id : Uuid) : Prop :=
  id ∉ db.userCategories.map UserCategoryRow.id ∧ id ∉ db.categoryRules.map CategoryRuleRow.id

section Statements

variable {p : Uuid → Bool} {userId : Uuid} {now : Timestamp} {newId : Uuid}

theorem newV4_filter {α : Type} (id : α → Uuid) {l : List α} (q : α → Bool)
    (hnew : newId ∉ l.map id) : newV4 ((l.filter q).map id) newId = newV4 (l.map id) newId := by
  have hfewer : newId ∉ (l.filter q).map id := fun hmem ↦
    hnew ((List.filter_sublist.map _).subset hmem)
  rw [newV4, newV4, if_neg hnew, if_neg hfewer]

/-- A deletion of rows of one user leaves those of others. -/
theorem filter_of_others {α : Type} {owner : α → Uuid} {q : α → Bool} {l : List α}
    (hp : p userId = false) (h : ∀ a, q a = false → owner a = userId) :
    (l.filter q).filter (fun a ↦ p (owner a)) = l.filter fun a ↦ p (owner a) := by
  have hhidden := HiddenRows.filter_filter_hidden (p := fun a ↦ !p (owner a)) (q := q) (l := l)
    fun a _ ha ↦ by rw [h a ha, hp]; rfl
  simpa only [Bool.not_not] using hhidden

/-- An update of rows of one user leaves those of others. -/
theorem filter_map_of_others {α : Type} (owner : α → Uuid) {named : α → Prop}
    [DecidablePred named] {f : α → α} {l : List α} (hp : p userId = false)
    (h : ∀ a, named a → owner a = userId ∧ owner (f a) = userId) :
    (l.map fun a ↦ if named a then f a else a).filter (fun a ↦ p (owner a)) =
      l.filter fun a ↦ p (owner a) := by
  have hhidden := HiddenRows.filter_update_hidden (p := fun a ↦ !p (owner a)) (l := l) (f := f)
    (fun a _ ha ↦ by rw [(h a ha).1, (h a ha).2]) fun a _ ha ↦ by rw [(h a ha).1, hp]; rfl
  simpa only [Bool.not_not] using hhidden

/-! #### Categories -/

section Categories

variable (db : CategoryStore)

theorem getUserCategories_restrict (L : Locale) (hp : p userId = true) :
    getUserCategories L (db.restrict p) userId = getUserCategories L db userId :=
  congrArg (List.insertionSort _) (HiddenRows.filter_visible fun c _ hc ↦ by
    rwa [of_decide_eq_true hc])

theorem createUserCategory_restrict (hp : p userId = true)
    (hnew : newId ∉ db.userCategories.map UserCategoryRow.id) (name : String)
    (parentCategory : Option String) :
    createUserCategory (db.restrict p) now newId userId name parentCategory =
      (createUserCategory db now newId userId name parentCategory).map
        fun created ↦ (created.1.restrict p, created.2) := by
  have hkey : (userId, name) ∈ (db.restrict p).userCategories.map UserCategoryRow.key ↔
      (userId, name) ∈ db.userCategories.map UserCategoryRow.key :=
    HiddenRows.mem_map_visible fun c _ hc ↦ by rwa [(Prod.mk.inj hc).1]
  have hid := newV4_filter UserCategoryRow.id (fun c ↦ p c.userId) hnew
  unfold createUserCategory
  simp only [UserCategoryRow.key]
  by_cases htaken : (userId, name) ∈ db.userCategories.map UserCategoryRow.key
  · simp only [hkey, htaken, if_true, Except.map]
  · simp only [hkey, htaken, if_false, Except.map]
    simp only [CategoryStore.restrict, hid, List.filter_append, List.filter_singleton, hp,
      cond_true]

theorem createUserCategory_hidden (hp : p userId = false) {name : String}
    {parentCategory : Option String} {created : CategoryStore × UserCategoryRow}
    (h : createUserCategory db now newId userId name parentCategory = .ok created) :
    created.1.restrict p = db.restrict p := by
  unfold createUserCategory at h
  simp only at h
  split at h
  · cases h
  · obtain rfl := Except.ok.inj h
    simp [CategoryStore.restrict, hp]

theorem createAuthenticatedUserCategory_restrict (hp : p userId = true)
    (hnew : newId ∉ db.userCategories.map UserCategoryRow.id) (name : String)
    (parentCategory : Option String) :
    createAuthenticatedUserCategory (db.restrict p) now newId userId name parentCategory =
      (createAuthenticatedUserCategory db now newId userId name parentCategory).map
        fun created ↦ (created.1.restrict p, created.2) := by
  unfold createAuthenticatedUserCategory
  rw [createUserCategory_restrict db hp hnew]
  split
  · rfl
  · cases createUserCategory db now newId userId (trimmed name) (trimmedOrNone parentCategory) with
    | ok => rfl
    | error e => cases hmessage : messageContains e "already exists" <;> simp [Except.map, hmessage]

theorem createAuthenticatedUserCategory_hidden (hp : p userId = false) {name : String}
    {parentCategory : Option String} {created : CategoryStore × UserCategoryRow}
    (h : createAuthenticatedUserCategory db now newId userId name parentCategory = .ok created) :
    created.1.restrict p = db.restrict p :=
  createUserCategory_hidden db hp (createAuthenticatedUserCategory_ok h)

theorem deleteUserCategory_restrict (categoryId : Uuid) (hp : p userId = true) :
    deleteUserCategory (db.restrict p) categoryId userId =
      (deleteUserCategory db categoryId userId).restrict p := by
  have hfind : ((db.restrict p).userCategories.find? fun c ↦ c.id = categoryId ∧ c.userId = userId)
      = db.userCategories.find? fun c ↦ c.id = categoryId ∧ c.userId = userId :=
    HiddenRows.find?_visible fun c _ hc ↦ by rwa [(of_decide_eq_true hc).2]
  unfold deleteUserCategory
  simp only [hfind]
  cases (db.userCategories.find? fun c ↦ c.id = categoryId ∧ c.userId = userId).map
    UserCategoryRow.name with
  | none => simp only [CategoryStore.restrict, List.filter_filter, Bool.and_comm]
  | some => simp only [CategoryStore.restrict, List.filter_filter, Bool.and_comm]

theorem deleteUserCategory_hidden (categoryId : Uuid) (hp : p userId = false) :
    (deleteUserCategory db categoryId userId).restrict p = db.restrict p := by
  have hcategories : (db.userCategories.filter fun c ↦
      ¬(c.id = categoryId ∧ c.userId = userId)).filter (fun c ↦ p c.userId) =
        db.userCategories.filter fun c ↦ p c.userId :=
    filter_of_others hp fun c hc ↦ (not_not.1 (of_decide_eq_false hc)).2
  unfold deleteUserCategory
  cases (db.userCategories.find? fun c ↦ c.id = categoryId ∧ c.userId = userId).map
    UserCategoryRow.name with
  | none => simp only [CategoryStore.restrict, hcategories]
  | some catName =>
    have hoverrides : (db.transactionCategoryOverrides.filter fun o ↦
        ¬(o.userId = userId ∧ o.categoryName = catName)).filter (fun o ↦ p o.userId) =
          db.transactionCategoryOverrides.filter fun o ↦ p o.userId :=
      filter_of_others hp fun o ho ↦ (not_not.1 (of_decide_eq_false ho)).1
    simp only [CategoryStore.restrict, hcategories, hoverrides]

/-! #### Overrides -/

theorem findOverride_restrict (transactionId : Uuid) (hp : p userId = true) :
    findOverride (db.restrict p).transactionCategoryOverrides transactionId userId =
      findOverride db.transactionCategoryOverrides transactionId userId :=
  HiddenRows.find?_visible fun o _ ho ↦ by rwa [(of_decide_eq_true ho).2]

theorem setTransactionCategoryOverride_restrict (transactionId : Uuid) (hp : p userId = true)
    (categoryName : String) (subcategoryName : Option String) :
    setTransactionCategoryOverride (db.restrict p).toStore now transactionId userId categoryName
        subcategoryName =
      (setTransactionCategoryOverride db.toStore now transactionId userId categoryName
        subcategoryName).map fun stored ↦ (CategoryStore.restrict p { db with toStore := stored }
          |>.toStore) := by
  unfold setTransactionCategoryOverride
  rw [findOverride_restrict db transactionId hp]
  split
  · refine congrArg (fun overrides ↦ Except.ok { db.toStore with
      transactionCategoryOverrides := overrides }) ?_
    refine Eq.symm (HiddenRows.filter_update_visible ?_)
    exact fun o _ _ ↦ rfl
  · by_cases hmem : transactionId ∈ db.transactions.map TransactionRow.id
    · simp only [CategoryStore.restrict, hmem, not_true, if_false, Except.map, List.filter_append,
        List.filter_singleton, hp, cond_true]
    · simp only [CategoryStore.restrict, hmem, not_false_eq_true, if_true, Except.map]

theorem setTransactionCategoryOverride_hidden {transactionId : Uuid} (hp : p userId = false)
    {categoryName : String} {subcategoryName : Option String} {stored : Store}
    (h : setTransactionCategoryOverride db.toStore now transactionId userId categoryName
      subcategoryName = .ok stored) :
    CategoryStore.restrict p { db with toStore := stored } = db.restrict p := by
  unfold setTransactionCategoryOverride at h
  split at h
  · obtain rfl := Except.ok.inj h
    simp only [CategoryStore.restrict]
    rw [filter_map_of_others TransactionCategoryOverride.userId hp fun o ho ↦
      ⟨ho.2, ho.2⟩]
  · split at h
    · cases h
    · obtain rfl := Except.ok.inj h
      simp [CategoryStore.restrict, hp]

theorem setAuthenticatedTransactionCategory_restrict (transactionId : Uuid) (hp : p userId = true)
    (categoryName : String) (subcategoryName : Option String) :
    setAuthenticatedTransactionCategory (db.restrict p) now transactionId userId categoryName
        subcategoryName =
      (setAuthenticatedTransactionCategory db now transactionId userId categoryName
        subcategoryName).map (CategoryStore.restrict p) := by
  unfold setAuthenticatedTransactionCategory
  rw [setTransactionCategoryOverride_restrict db transactionId hp]
  split
  · rfl
  · cases setTransactionCategoryOverride db.toStore now transactionId userId (trimmed categoryName)
      (trimmedOrNone subcategoryName) <;> rfl

theorem setAuthenticatedTransactionCategory_hidden {transactionId : Uuid} (hp : p userId = false)
    {categoryName : String} {subcategoryName : Option String} {stored : CategoryStore}
    (h : setAuthenticatedTransactionCategory db now transactionId userId categoryName
      subcategoryName = .ok stored) : stored.restrict p = db.restrict p := by
  unfold setAuthenticatedTransactionCategory at h
  split at h
  · cases h
  · split at h
    · rename_i hset
      obtain rfl := Except.ok.inj h
      exact setTransactionCategoryOverride_hidden db hp hset
    · cases h

/-- The list of transactions reads the overrides of its user. -/
theorem getTransactionsWithAccountForUser_restrict (hp : p userId = true) :
    getTransactionsWithAccountForUser (db.restrict p).toStore userId =
      getTransactionsWithAccountForUser db.toStore userId := by
  have hhidden (canonicalId : Uuid) : hiddenOverrides (db.restrict p).toStore userId canonicalId =
      hiddenOverrides db.toStore userId canonicalId :=
    List.flatMap_congr fun t _ ↦ congrArg (List.map _) (HiddenRows.filter_visible fun o _ ho ↦ by
      rwa [(of_decide_eq_true ho).2])
  have hduplicate (canonicalId : Uuid) : duplicateOverride (db.restrict p).toStore userId
      canonicalId = duplicateOverride db.toStore userId canonicalId := by
    rw [duplicateOverride, duplicateOverride, hhidden]
  have hrow : withAccount (db.restrict p).toStore userId = withAccount db.toStore userId := by
    funext t a
    simp only [withAccount, customCategory, customSubcategory, hduplicate,
      findOverride_restrict db t.id hp]
    rfl
  rw [getTransactionsWithAccountForUser, getTransactionsWithAccountForUser, hrow]
  rfl

end Categories

/-! #### Rules -/

section Rules

variable (rules : List CategoryRuleRow)

theorem getCategoryRules_filter (hp : p userId = true) :
    getCategoryRules (rules.filter fun r ↦ p r.userId) userId = getCategoryRules rules userId :=
  congrArg (List.insertionSort _) (HiddenRows.filter_visible fun r _ hr ↦ by
    rwa [of_decide_eq_true hr])

theorem createCategoryRule_filter (hp : p userId = true)
    (hnew : newId ∉ rules.map CategoryRuleRow.id) (pattern categoryName : String)
    (subcategoryName : Option String) :
    createCategoryRule (rules.filter fun r ↦ p r.userId) now newId userId pattern categoryName
        subcategoryName =
      (createCategoryRule rules now newId userId pattern categoryName subcategoryName).map
        fun created ↦ (created.1.filter fun r ↦ p r.userId, created.2) := by
  have hfind : ((rules.filter fun r ↦ p r.userId).find? fun r ↦
      r.userId = userId ∧ r.pattern = pattern) =
        rules.find? fun r ↦ r.userId = userId ∧ r.pattern = pattern :=
    HiddenRows.find?_visible fun r _ hr ↦ by rwa [(of_decide_eq_true hr).1]
  unfold createCategoryRule
  simp only [newV4_filter CategoryRuleRow.id (fun r ↦ p r.userId) hnew, hfind]
  split
  · split
    · refine congrArg (fun stored ↦ Except.ok (stored, _)) ?_
      refine Eq.symm (HiddenRows.filter_update_visible ?_)
      exact fun r _ _ ↦ rfl
    · simp only [Except.map, List.filter_append, List.filter_singleton, hp, cond_true]
  · rfl

theorem createCategoryRule_hidden (hp : p userId = false) {pattern categoryName : String}
    {subcategoryName : Option String} {created : List CategoryRuleRow × CategoryRuleRow}
    (h : createCategoryRule rules now newId userId pattern categoryName subcategoryName =
      .ok created) :
    (created.1.filter fun r ↦ p r.userId) = rules.filter fun r ↦ p r.userId := by
  unfold createCategoryRule at h
  simp only at h
  split at h
  · split at h
    · obtain rfl := Except.ok.inj h
      exact filter_map_of_others CategoryRuleRow.userId hp fun r hr ↦ ⟨hr.1, hr.1⟩
    · obtain rfl := Except.ok.inj h
      simp [hp]
  · cases h

theorem createAuthenticatedCategoryRule_filter (hp : p userId = true)
    (hnew : newId ∉ rules.map CategoryRuleRow.id) (pattern categoryName : String)
    (subcategoryName : Option String) :
    createAuthenticatedCategoryRule (rules.filter fun r ↦ p r.userId) now newId userId pattern
        categoryName subcategoryName =
      (createAuthenticatedCategoryRule rules now newId userId pattern categoryName
        subcategoryName).map fun created ↦ (created.1.filter fun r ↦ p r.userId, created.2) := by
  unfold createAuthenticatedCategoryRule
  rw [createCategoryRule_filter rules hp hnew]
  split
  · rfl
  · cases createCategoryRule rules now newId userId (trimmed pattern) (trimmed categoryName)
      (trimmedOrNone subcategoryName) with
    | ok => rfl
    | error e => cases hmessage : messageContains e "already exists" <;> simp [Except.map, hmessage]

theorem createAuthenticatedCategoryRule_hidden (hp : p userId = false)
    {pattern categoryName : String} {subcategoryName : Option String}
    {created : List CategoryRuleRow × CategoryRuleRow}
    (h : createAuthenticatedCategoryRule rules now newId userId pattern categoryName
      subcategoryName = .ok created) :
    (created.1.filter fun r ↦ p r.userId) = rules.filter fun r ↦ p r.userId :=
  createCategoryRule_hidden rules hp (createAuthenticatedCategoryRule_ok h)

variable {rules} in
/-- The rule of an update is its user's. -/
theorem userId_of_find?_rule {ruleId : Uuid} {row : CategoryRuleRow}
    (h : (rules.find? fun r ↦ r.id = ruleId ∧ r.userId = userId) = some row) :
    row.userId = userId := by
  have hfound := List.find?_some h
  simp only [decide_eq_true_eq] at hfound
  exact hfound.2

theorem updateCategoryRule_filter (ruleId : Uuid) (hp : p userId = true)
    (pattern categoryName subcategoryName : Option String) :
    updateCategoryRule (rules.filter fun r ↦ p r.userId) now ruleId userId pattern categoryName
        subcategoryName =
      (updateCategoryRule rules now ruleId userId pattern categoryName subcategoryName).map
        fun updated ↦ (updated.1.filter fun r ↦ p r.userId, updated.2) := by
  have hfind : ((rules.filter fun r ↦ p r.userId).find? fun r ↦
      r.id = ruleId ∧ r.userId = userId) = rules.find? fun r ↦ r.id = ruleId ∧ r.userId = userId :=
    HiddenRows.find?_visible fun r _ hr ↦ by rwa [(of_decide_eq_true hr).2]
  have hany (text : String) : ((rules.filter fun r ↦ p r.userId).any fun r ↦
      r.id ≠ ruleId ∧ r.userId = userId ∧ r.pattern = text) =
        rules.any fun r ↦ r.id ≠ ruleId ∧ r.userId = userId ∧ r.pattern = text :=
    HiddenRows.any_visible fun r _ hr ↦ by rwa [(of_decide_eq_true hr).2.1]
  unfold updateCategoryRule
  rw [hfind]
  split
  · rfl
  · rename_i row hrow
    have howner := userId_of_find?_rule hrow
    simp only [hany]
    split
    · split
      · rfl
      · refine congrArg (fun stored ↦ Except.ok (stored, _)) ?_
        refine Eq.symm (HiddenRows.filter_update_visible ?_)
        exact fun r _ hr ↦ congrArg p (howner.trans hr.2.symm)
    · rfl

theorem updateCategoryRule_hidden {ruleId : Uuid} (hp : p userId = false)
    {pattern categoryName subcategoryName : Option String}
    {updated : List CategoryRuleRow × CategoryRuleRow}
    (h : updateCategoryRule rules now ruleId userId pattern categoryName subcategoryName =
      .ok updated) :
    (updated.1.filter fun r ↦ p r.userId) = rules.filter fun r ↦ p r.userId := by
  unfold updateCategoryRule at h
  split at h
  · cases h
  · rename_i row hrow
    have howner := userId_of_find?_rule hrow
    simp only at h
    split at h
    · split at h
      · cases h
      · obtain rfl := Except.ok.inj h
        exact filter_map_of_others CategoryRuleRow.userId hp fun r hr ↦ ⟨hr.2, howner⟩
    · cases h

theorem updateAuthenticatedCategoryRule_filter (ruleId : Uuid) (hp : p userId = true)
    (pattern categoryName subcategoryName : Option String) :
    updateAuthenticatedCategoryRule (rules.filter fun r ↦ p r.userId) now ruleId userId pattern
        categoryName subcategoryName =
      (updateAuthenticatedCategoryRule rules now ruleId userId pattern categoryName
        subcategoryName).map fun updated ↦ (updated.1.filter fun r ↦ p r.userId, updated.2) := by
  unfold updateAuthenticatedCategoryRule
  rw [updateCategoryRule_filter rules ruleId hp]
  cases updateCategoryRule rules now ruleId userId (trimmedOrNone pattern)
    (trimmedOrNone categoryName) (trimmedOrNone subcategoryName) with
  | ok => rfl
  | error e => cases hmessage : messageContains e "not found" <;> simp [Except.map, hmessage]

theorem updateAuthenticatedCategoryRule_hidden {ruleId : Uuid} (hp : p userId = false)
    {pattern categoryName subcategoryName : Option String}
    {updated : List CategoryRuleRow × CategoryRuleRow}
    (h : updateAuthenticatedCategoryRule rules now ruleId userId pattern categoryName
      subcategoryName = .ok updated) :
    (updated.1.filter fun r ↦ p r.userId) = rules.filter fun r ↦ p r.userId :=
  updateCategoryRule_hidden rules hp (updateAuthenticatedCategoryRule_ok h)

end Rules

end Statements

namespace CategoryRequest

variable {L : Locale} {U : UnicodeCase} {p : Uuid → Bool} {db : RuleStore} {r : CategoryRequest}

theorem map_map_except {ε α β γ : Type} (x : Except ε α) (f : α → β) (g : β → γ) :
    (x.map f).map g = x.map fun a ↦ g (f a) := by
  cases x <;> rfl

/-- A request may as well be handled on the rows of its user. -/
theorem handle_restrict (hp : p r.userId = true) (hnew : ∀ id ∈ r.call.draw, db.IsNewId id) :
    r.handle L U (db.restrict p) =
      (r.handle L U db).map fun handled ↦ (handled.1.restrict p, handled.2) := by
  unfold handle
  cases hcall : r.call with
  | getUserCategories =>
    simp only [RuleStore.restrict, getUserCategories_restrict _ L hp, Except.map]
  | createUserCategory newId name parentCategory =>
    have hid := (hnew newId (by rw [hcall]; rfl)).1
    simp only [RuleStore.restrict, createAuthenticatedUserCategory_restrict _ hp hid,
      map_map_except]
  | deleteUserCategory categoryId =>
    simp only [RuleStore.restrict, deleteUserCategory_restrict _ categoryId hp, Except.map]
  | setTransactionCategory transactionId categoryName subcategoryName =>
    simp only [RuleStore.restrict, setAuthenticatedTransactionCategory_restrict _ transactionId hp,
      map_map_except]
  | removeTransactionCategory transactionId =>
    simp only [RuleStore.restrict, CategoryStore.restrict, removeTransactionCategoryOverride,
      List.filter_filter, Bool.and_comm, Except.map]
  | getCategoryRules =>
    simp only [RuleStore.restrict, getCategoryRules_filter _ hp, Except.map]
  | createCategoryRule newId pattern categoryName subcategoryName =>
    have hid := (hnew newId (by rw [hcall]; rfl)).2
    simp only [RuleStore.restrict, createAuthenticatedCategoryRule_filter _ hp hid, map_map_except]
  | updateCategoryRule ruleId pattern categoryName subcategoryName =>
    simp only [RuleStore.restrict, updateAuthenticatedCategoryRule_filter _ ruleId hp,
      map_map_except]
  | deleteCategoryRule ruleId =>
    simp only [RuleStore.restrict, deleteCategoryRule, List.filter_filter, Bool.and_comm,
      Except.map]
  | getTransactions query =>
    simp only [getAuthenticatedTransactions, RuleStore.restrict, getCategoryRules_filter _ hp,
      getTransactionsWithAccountForUser_restrict _ hp, Except.map]

/-- A request leaves the rows of others as they are. -/
theorem handle_hidden (hp : p r.userId = false) {handled : RuleStore × CategoryReply}
    (h : r.handle L U db = .ok handled) : handled.1.restrict p = db.restrict p := by
  unfold handle at h
  cases hcall : r.call <;> rw [hcall] at h
  case getUserCategories | getCategoryRules | getTransactions =>
    obtain rfl := Except.ok.inj h
    rfl
  case createUserCategory =>
    obtain ⟨created, hcreated, rfl⟩ := exists_of_map_eq_ok h
    simp only [RuleStore.restrict, createAuthenticatedUserCategory_hidden _ hp hcreated]
  case deleteUserCategory categoryId =>
    obtain rfl := Except.ok.inj h
    simp only [RuleStore.restrict, deleteUserCategory_hidden _ categoryId hp]
  case setTransactionCategory =>
    obtain ⟨stored, hstored, rfl⟩ := exists_of_map_eq_ok h
    simp only [RuleStore.restrict, setAuthenticatedTransactionCategory_hidden _ hp hstored]
  case removeTransactionCategory =>
    obtain rfl := Except.ok.inj h
    simp only [RuleStore.restrict, CategoryStore.restrict, removeTransactionCategoryOverride]
    rw [filter_of_others hp fun o ho ↦ (not_not.1 (of_decide_eq_false ho)).2]
  case createCategoryRule =>
    obtain ⟨created, hcreated, rfl⟩ := exists_of_map_eq_ok h
    simp only [RuleStore.restrict, createAuthenticatedCategoryRule_hidden _ hp hcreated]
  case updateCategoryRule =>
    obtain ⟨updated, hupdated, rfl⟩ := exists_of_map_eq_ok h
    simp only [RuleStore.restrict, updateAuthenticatedCategoryRule_hidden _ hp hupdated]
  case deleteCategoryRule =>
    obtain rfl := Except.ok.inj h
    simp only [RuleStore.restrict, deleteCategoryRule]
    rw [filter_of_others hp fun r ho ↦ (not_not.1 (of_decide_eq_false ho)).2]

variable (L U)

/-- **A request is served from the rows of its user.** -/
theorem serve_restrict (hp : p r.userId = true) (hnew : ∀ id ∈ r.call.draw, db.IsNewId id) :
    r.serve L U (db.restrict p) = ((r.serve L U db).1.restrict p, (r.serve L U db).2) := by
  unfold serve
  rw [handle_restrict hp hnew]
  cases r.handle L U db with
  | ok handled =>
    simp only [Except.map]
    split <;> rfl
  | error e =>
    simp only [Except.map]
    split <;> rfl

theorem step_hidden (hp : p r.userId = false) : (r.step L U db).restrict p = db.restrict p := by
  obtain hsame | ⟨reply, hhandle⟩ := step_eq_or L U db r
  · rw [hsame]
  · exact handle_hidden hp hhandle

/-! ### Ids -/

/-- The ids that requests draw. -/
def draws (requests : List CategoryRequest) : List Uuid :=
  requests.filterMap fun r ↦ r.call.draw

/-- No id is drawn twice, or one that a row has. -/
structure FreshIds (db : RuleStore) (requests : List CategoryRequest) : Prop where
  nodup : (draws requests).Nodup
  new : ∀ id ∈ draws requests, db.IsNewId id

instance freshIdsDecidable (db : RuleStore) (requests : List CategoryRequest) :
    Decidable (FreshIds db requests) :=
  decidable_of_iff ((draws requests).Nodup ∧ ∀ id ∈ draws requests,
    id ∉ db.userCategories.map UserCategoryRow.id ∧ id ∉ db.categoryRules.map CategoryRuleRow.id)
    ⟨fun h ↦ ⟨h.1, h.2⟩, fun h ↦ ⟨h.nodup, h.new⟩⟩

section Ids

variable {id : Uuid}

theorem notMem_append_newV4 {taken : List Uuid} {newId : Uuid} (hid : id ∉ taken)
    (hnew : newId ∉ taken) (hne : id ≠ newId) : id ∉ taken ++ [newV4 taken newId] := by
  rw [newV4, if_neg hnew, List.mem_append, List.mem_singleton]
  exact fun hmem ↦ hmem.elim hid hne

theorem notMem_createUserCategory {categories : CategoryStore} {now : Timestamp}
    {newId userId : Uuid} {name : String} {parentCategory : Option String}
    {created : CategoryStore × UserCategoryRow}
    (hid : id ∉ categories.userCategories.map UserCategoryRow.id)
    (hnew : newId ∉ categories.userCategories.map UserCategoryRow.id) (hne : id ≠ newId)
    (h : createUserCategory categories now newId userId name parentCategory = .ok created) :
    id ∉ created.1.userCategories.map UserCategoryRow.id := by
  unfold createUserCategory at h
  simp only at h
  split at h
  · cases h
  · obtain rfl := Except.ok.inj h
    rw [List.map_append]
    exact notMem_append_newV4 hid hnew hne

theorem notMem_deleteUserCategory {categories : CategoryStore} (categoryId userId : Uuid)
    (hid : id ∉ categories.userCategories.map UserCategoryRow.id) :
    id ∉ (deleteUserCategory categories categoryId userId).userCategories.map
      UserCategoryRow.id := by
  have hfewer : (deleteUserCategory categories categoryId userId).userCategories.Sublist
      categories.userCategories := by
    unfold deleteUserCategory
    cases (categories.userCategories.find? fun c ↦ c.id = categoryId ∧ c.userId = userId).map
      UserCategoryRow.name <;> exact List.filter_sublist
  exact fun hmem ↦ hid ((hfewer.map _).subset hmem)

theorem notMem_createCategoryRule {rules : List CategoryRuleRow} {now : Timestamp}
    {newId userId : Uuid} {pattern categoryName : String} {subcategoryName : Option String}
    {created : List CategoryRuleRow × CategoryRuleRow}
    (hid : id ∉ rules.map CategoryRuleRow.id) (hnew : newId ∉ rules.map CategoryRuleRow.id)
    (hne : id ≠ newId)
    (h : createCategoryRule rules now newId userId pattern categoryName subcategoryName =
      .ok created) : id ∉ created.1.map CategoryRuleRow.id := by
  unfold createCategoryRule at h
  simp only at h
  split at h
  · split at h
    · obtain rfl := Except.ok.inj h
      refine (congrArg (id ∉ ·) (map_update ?_)).mpr hid
      exact fun _ _ ↦ rfl
    · obtain rfl := Except.ok.inj h
      rw [List.map_append]
      exact notMem_append_newV4 hid hnew hne
  · cases h

theorem ids_updateCategoryRule {rules : List CategoryRuleRow} {now : Timestamp}
    {ruleId userId : Uuid} {pattern categoryName subcategoryName : Option String}
    {updated : List CategoryRuleRow × CategoryRuleRow}
    (h : updateCategoryRule rules now ruleId userId pattern categoryName subcategoryName =
      .ok updated) : updated.1.map CategoryRuleRow.id = rules.map CategoryRuleRow.id := by
  unfold updateCategoryRule at h
  split at h
  · cases h
  · rename_i row hrow
    have hfound := List.find?_some hrow
    simp only [decide_eq_true_eq] at hfound
    simp only at h
    split at h
    · split at h
      · cases h
      · obtain rfl := Except.ok.inj h
        refine map_update ?_
        exact fun r hr ↦ hfound.1.trans hr.1.symm
    · cases h

/-- An id stays new unless it is drawn. -/
theorem isNewId_step (hid : db.IsNewId id) (hdrawn : id ∉ r.call.draw)
    (hnew : ∀ d ∈ r.call.draw, db.IsNewId d) : (r.step L U db).IsNewId id := by
  obtain hsame | ⟨reply, h⟩ := step_eq_or L U db r
  · rwa [hsame]
  · generalize r.step L U db = db' at h ⊢
    unfold handle at h
    cases hcall : r.call <;> rw [hcall] at h hdrawn hnew
    case getUserCategories | getCategoryRules | getTransactions =>
      obtain ⟨rfl, -⟩ := Prod.mk.inj (Except.ok.inj h)
      exact hid
    case createUserCategory newId name parentCategory =>
      obtain ⟨created, hcreated, heq⟩ := exists_of_map_eq_ok h
      obtain ⟨rfl, -⟩ := Prod.mk.inj heq
      exact ⟨notMem_createUserCategory hid.1 (hnew newId rfl).1
        (fun heq ↦ hdrawn (congrArg some heq.symm)) (createAuthenticatedUserCategory_ok hcreated),
          hid.2⟩
    case deleteUserCategory categoryId =>
      obtain ⟨rfl, -⟩ := Prod.mk.inj (Except.ok.inj h)
      exact ⟨notMem_deleteUserCategory categoryId r.userId hid.1, hid.2⟩
    case setTransactionCategory =>
      obtain ⟨stored, hstored, heq⟩ := exists_of_map_eq_ok h
      obtain ⟨rfl, -⟩ := Prod.mk.inj heq
      refine ⟨?_, hid.2⟩
      rw [(setAuthenticatedTransactionCategory_spec hstored).1]
      exact hid.1
    case removeTransactionCategory =>
      obtain ⟨rfl, -⟩ := Prod.mk.inj (Except.ok.inj h)
      exact hid
    case createCategoryRule newId pattern categoryName subcategoryName =>
      obtain ⟨created, hcreated, heq⟩ := exists_of_map_eq_ok h
      obtain ⟨rfl, -⟩ := Prod.mk.inj heq
      exact ⟨hid.1, notMem_createCategoryRule hid.2 (hnew newId rfl).2
        (fun heq ↦ hdrawn (congrArg some heq.symm)) (createAuthenticatedCategoryRule_ok hcreated)⟩
    case updateCategoryRule =>
      obtain ⟨updated, hupdated, heq⟩ := exists_of_map_eq_ok h
      obtain ⟨rfl, -⟩ := Prod.mk.inj heq
      refine ⟨hid.1, ?_⟩
      rw [ids_updateCategoryRule (updateAuthenticatedCategoryRule_ok hupdated)]
      exact hid.2
    case deleteCategoryRule =>
      obtain ⟨rfl, -⟩ := Prod.mk.inj (Except.ok.inj h)
      exact ⟨hid.1, fun hmem ↦ hid.2 ((List.filter_sublist.map _).subset hmem)⟩

end Ids

/-! ### Isolation -/

/-- The rows of one user. -/
def ownedBy (userId : Uuid) (db : RuleStore) : RuleStore :=
  db.restrict fun owner ↦ owner = userId

theorem new_of_mem_draw {requests : List CategoryRequest} (h : FreshIds db (r :: requests)) :
    ∀ id ∈ r.call.draw, db.IsNewId id := fun id hid ↦
  h.new id (List.mem_filterMap.2 ⟨r, List.mem_cons_self, hid⟩)

/-- The users are isolated as long as the ids are new. -/
theorem isolating : Isolating (step L U) CategoryRequest.userId ownedBy (answer L U) FreshIds where
  sublist hsub h := ⟨h.nodup.sublist (hsub.filterMap _),
    fun id hid ↦ h.new id ((hsub.filterMap _).subset hid)⟩
  after := by
    intro db r requests h
    have hnodup : (draws (r :: requests)).Nodup := h.nodup
    have hdraws : draws (r :: requests) = r.call.draw.toList ++ draws requests := by
      rw [draws, List.filterMap_cons]
      cases r.call.draw <;> rfl
    rw [hdraws] at hnodup
    obtain ⟨-, hrest, hdisjoint⟩ := List.nodup_append.1 hnodup
    refine ⟨hrest, fun id hid ↦ isNewId_step L U (h.new id ?_) ?_
      (new_of_mem_draw h)⟩
    · rw [hdraws]
      exact List.mem_append_right _ hid
    · exact fun hdrawn ↦ hdisjoint id (Option.mem_toList.2 hdrawn) id hid rfl
  elsewhere := by
    intro db r requests userId _ hother
    exact step_hidden L U (by simpa using hother)
  alike := by
    intro db db' r requests requests' h h' hview
    have hown {s : RuleStore} (hs : ∀ id ∈ r.call.draw, s.IsNewId id) :
        r.serve L U (ownedBy r.userId s) =
          (ownedBy r.userId (r.serve L U s).1, (r.serve L U s).2) :=
      serve_restrict L U (by simp) hs
    have hserve := (hown (new_of_mem_draw h)).symm.trans
      ((congrArg (r.serve L U) hview).trans (hown (new_of_mem_draw h')))
    exact Prod.mk.inj hserve

end CategoryRequest

/-- **Every user is as if alone.** Over any run of requests about categories, by any users in any
order, what a user has in the tables in the end and every answer on the way are the same as if only
this user had made requests. -/
theorem categoryRequests_isolated (L : Locale) (U : UnicodeCase) (db : RuleStore)
    (requests : List CategoryRequest) (hfresh : CategoryRequest.FreshIds db requests)
    (userId : Uuid) :
    let own := requests.filter fun r ↦ r.userId = userId
    CategoryRequest.ownedBy userId (requests.foldl (CategoryRequest.step L U) db) =
        CategoryRequest.ownedBy userId (own.foldl (CategoryRequest.step L U) db) ∧
      outputs (CategoryRequest.step L U)
          (replyTo CategoryRequest.userId (CategoryRequest.answer L U) userId) db requests =
        outputs (CategoryRequest.step L U)
          (replyTo CategoryRequest.userId (CategoryRequest.answer L U) userId) db own :=
  (CategoryRequest.isolating L U).alone hfresh
    ((CategoryRequest.isolating L U).sublist List.filter_sublist hfresh) rfl

/-- A rule of user 7, and what user 8 tries on it. -/
def coffeeRules : List CategoryRequest :=
  [⟨7, 10, .createCategoryRule 1 " COFFEE* " "Dining" none, true, true⟩,
    ⟨8, 20, .createCategoryRule 2 "COFFEE*" "Groceries" none, true, true⟩,
    ⟨8, 30, .updateCategoryRule 1 none (some "Groceries") none, true, true⟩,
    ⟨8, 40, .deleteCategoryRule 1, true, true⟩, ⟨7, 50, .getCategoryRules, true, true⟩]

theorem categoryRequests_isolated_coffee :
    outputs (CategoryRequest.step Locale.c Frontend.greekCase)
        (replyTo CategoryRequest.userId (CategoryRequest.answer Locale.c Frontend.greekCase) 7)
        ⟨⟨Store.empty, []⟩, []⟩ coffeeRules =
      [.ok (.rule ⟨1, 7, "COFFEE*", "Dining", none, some 10, some 10⟩),
        .ok (.rules [⟨1, 7, "COFFEE*", "Dining", none, some 10, some 10⟩])] :=
  (categoryRequests_isolated Locale.c Frontend.greekCase ⟨⟨Store.empty, []⟩, []⟩ coffeeRules
    (by decide) 7).2.trans (by rfl)

end Sumurai
