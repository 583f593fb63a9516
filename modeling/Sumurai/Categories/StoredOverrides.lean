import Sumurai.Analytics.QueryLimits
import Sumurai.Categories.UserCategories

/-!
# What the server sends after an override

The transactions that the server sends are those of one query, with the category rules applied. When
a user files a transaction under a category, only its own row changes: it has the new category, and
no rule applies to it any more (`mem_servedTransactions_iff`). If it is filed under no subcategory,
the query falls back on that of a hidden duplicate.
-/

namespace Sumurai

/-- The transactions that the server sends to a user, of which a request may ask for those of some
accounts or dates alone. -/
def servedTransactions (db : Store) (userId : Uuid) (rules : List CategoryRule) :
    List TransactionWithAccount :=
  (getTransactionsWithAccountForUser db userId).map (applyCategoryRules rules)

/-- The subcategory of the newest hidden duplicate. -/
def duplicateSubcategory (db : Store) (userId transactionId : Uuid) : Option String :=
  (duplicateOverride db userId transactionId).bind TransactionCategoryOverride.subcategoryName

/-- The rows of the query: transactions with their accounts. -/
def joinedRows (db : Store) (userId : Uuid) : List (TransactionRow × Account) :=
  (((visibleTransactions db userId).insertionSort newestFirst).filterMap fun t ↦
    (db.accounts.find? fun a ↦ a.id = t.accountId).map fun a ↦ (t, a)).take 1000

theorem getTransactionsWithAccountForUser_eq (db : Store) (userId : Uuid) :
    getTransactionsWithAccountForUser db userId =
      (joinedRows db userId).map fun p ↦ withAccount db userId p.1 p.2 := by
  rw [getTransactionsWithAccountForUser, joinedRows, List.map_take, List.map_filterMap]
  simp only [Option.map_map]
  rfl

theorem mem_of_mem_joinedRows {db : Store} {userId : Uuid} {t : TransactionRow} {a : Account}
    (h : (t, a) ∈ joinedRows db userId) :
    t ∈ db.transactions ∧ t.duplicateOfTransactionId = none ∧
      db.accounts.find? (fun a ↦ a.id = t.accountId) = some a := by
  obtain ⟨t', ht', hjoin⟩ := List.mem_filterMap.1 (List.mem_of_mem_take h)
  obtain ⟨a', ha', hpair⟩ := Option.map_eq_some_iff.1 hjoin
  obtain ⟨rfl, rfl⟩ := Prod.mk.inj hpair
  obtain ⟨hmem, hvisible⟩ := List.mem_filter.1 ((List.mem_insertionSort _).1 ht')
  exact ⟨hmem, Option.isNone_iff_eq_none.1 (of_decide_eq_true hvisible).2, ha'⟩

/-! ### Storing an override -/

section Stored

variable {db db' : Store} {now : Timestamp} {transactionId userId : Uuid} {categoryName : String}
variable {subcategoryName : Option String}

/-- Only the table of the overrides is written. -/
theorem setTransactionCategoryOverride_frame
    (h : setTransactionCategoryOverride db now transactionId userId categoryName subcategoryName =
      .ok db') :
    db' = { db with transactionCategoryOverrides := db'.transactionCategoryOverrides } := by
  rw [setTransactionCategoryOverride] at h
  split at h
  · obtain rfl := Except.ok.inj h
    rfl
  · split at h
    · cases h
    · obtain rfl := Except.ok.inj h
      rfl

/-- The key of an override stays when its names are replaced. -/
theorem key_replaced (o : TransactionCategoryOverride) (t u : Uuid) :
    ((if o.transactionId = transactionId ∧ o.userId = userId then
        { o with categoryName := categoryName, subcategoryName := subcategoryName }
      else o).transactionId = t ∧
      (if o.transactionId = transactionId ∧ o.userId = userId then
        { o with categoryName := categoryName, subcategoryName := subcategoryName }
      else o).userId = u) ↔ o.transactionId = t ∧ o.userId = u := by
  split <;> rfl

/-- The override is stored. -/
theorem findOverride_setTransactionCategoryOverride
    (h : setTransactionCategoryOverride db now transactionId userId categoryName subcategoryName =
      .ok db') :
    ∃ o, findOverride db'.transactionCategoryOverrides transactionId userId = some o ∧
      o.categoryName = categoryName ∧ o.subcategoryName = subcategoryName := by
  rw [setTransactionCategoryOverride] at h
  split at h
  · rename_i hfound
    obtain ⟨o, ho⟩ := Option.isSome_iff_exists.1 hfound
    have hkey := of_decide_eq_true (List.find?_some
      (p := fun o : TransactionCategoryOverride ↦
        decide (o.transactionId = transactionId ∧ o.userId = userId)) ho)
    obtain rfl := Except.ok.inj h
    refine ⟨{ o with categoryName := categoryName, subcategoryName := subcategoryName }, ?_, rfl,
      rfl⟩
    simp only [findOverride, List.find?_map, Function.comp_def, key_replaced]
    rw [findOverride] at ho
    rw [ho, Option.map_some, if_pos hkey]
  · rename_i hfound
    split at h
    · cases h
    · obtain rfl := Except.ok.inj h
      rw [Bool.not_eq_true, Option.isSome_eq_false_iff, Option.isNone_iff_eq_none] at hfound
      refine ⟨⟨transactionId, userId, categoryName, subcategoryName, some now⟩, ?_, rfl, rfl⟩
      rw [findOverride] at hfound
      rw [findOverride, List.find?_append, hfound, Option.none_or]
      simp

/-- The overrides of the other transactions stay. -/
theorem filter_setTransactionCategoryOverride
    (h : setTransactionCategoryOverride db now transactionId userId categoryName subcategoryName =
      .ok db') {t : Uuid} (ht : t ≠ transactionId) (u : Uuid) :
    (db'.transactionCategoryOverrides.filter fun o ↦ o.transactionId = t ∧ o.userId = u) =
      db.transactionCategoryOverrides.filter fun o ↦ o.transactionId = t ∧ o.userId = u := by
  rw [setTransactionCategoryOverride] at h
  split at h
  · obtain rfl := Except.ok.inj h
    simp only [List.filter_map, Function.comp_def, key_replaced]
    refine (List.map_congr_left fun o ho ↦ if_neg fun hkey ↦ ?_).trans (List.map_id _)
    exact ht ((of_decide_eq_true (List.mem_filter.1 ho).2).1.symm.trans hkey.1)
  · split at h
    · cases h
    · obtain rfl := Except.ok.inj h
      simp [List.filter_append, ht.symm]

/-- The hidden duplicates of a transaction keep their overrides when it is not one of them. -/
theorem duplicateOverride_setTransactionCategoryOverride
    (h : setTransactionCategoryOverride db now transactionId userId categoryName subcategoryName =
      .ok db') (canonicalId : Uuid)
    (hvisible : ∀ t ∈ db.transactions, t.duplicateOfTransactionId = some canonicalId →
      t.id ≠ transactionId) (u : Uuid) :
    duplicateOverride db' u canonicalId = duplicateOverride db u canonicalId := by
  have htransactions : db'.transactions = db.transactions := by
    rw [setTransactionCategoryOverride_frame h]
  rw [duplicateOverride, duplicateOverride, hiddenOverrides, hiddenOverrides, htransactions]
  refine congrArg (fun l ↦ (List.head? (List.insertionSort _ l)).map Prod.snd)
    (List.flatMap_congr fun t ht ↦ ?_)
  obtain ⟨hmem, hhidden⟩ := List.mem_filter.1 ht
  rw [filter_setTransactionCategoryOverride h (hvisible t hmem (of_decide_eq_true hhidden)) u]

end Stored

/-! ### Sending it -/

/-- A transaction with the category that a user has given it. The rules that applied to it before do
not apply any more. -/
def TransactionWithAccount.filedUnder (row : TransactionWithAccount) (categoryName : String)
    (subcategoryName : Option String) : TransactionWithAccount :=
  { row with
    customCategory := some categoryName
    customSubcategory := subcategoryName
    ruleCategory := none
    ruleSubcategory := none }

section Served

variable {db db' : CategoryStore} {now : Timestamp} {transactionId userId : Uuid}
variable {categoryName : String} {subcategoryName : Option String}
variable {rules rules' : List CategoryRule}

theorem id_applyCategoryRules (rules : List CategoryRule) (t : TransactionWithAccount) :
    (applyCategoryRules rules t).id = t.id := by
  rw [applyCategoryRules]
  split
  · split <;> rfl
  · rfl

theorem filedUnder_applyCategoryRules (rules : List CategoryRule) (t : TransactionWithAccount)
    (categoryName : String) (subcategoryName : Option String) :
    (applyCategoryRules rules t).filedUnder categoryName subcategoryName =
      t.filedUnder categoryName subcategoryName := by
  rw [applyCategoryRules]
  split
  · split <;> rfl
  · rfl

theorem mem_servedTransactions {db : Store} {row : TransactionWithAccount} :
    row ∈ servedTransactions db userId rules ↔ ∃ t a, (t, a) ∈ joinedRows db userId ∧
      applyCategoryRules rules (withAccount db userId t a) = row := by
  rw [servedTransactions, getTransactionsWithAccountForUser_eq, List.map_map]
  simp only [List.mem_map, Prod.exists, Function.comp_apply]

/-- What the server stores when a request to file a transaction succeeds. -/
theorem setAuthenticatedTransactionCategory_stores
    (h : setAuthenticatedTransactionCategory db now transactionId userId categoryName
      subcategoryName = .ok db') :
    trimmed categoryName ≠ "" ∧ setTransactionCategoryOverride db.toStore now transactionId userId
      (trimmed categoryName) (trimmedOrNone subcategoryName) = .ok db'.toStore := by
  rw [setAuthenticatedTransactionCategory] at h
  split at h
  · cases h
  · rename_i hname
    split at h
    · rename_i hset
      obtain rfl := Except.ok.inj h
      exact ⟨hname, hset⟩
    · cases h

/-- **The row after an override** is the row before, filed under the names that are stored. -/
theorem withAccount_filedUnder {db db' : Store} {t : TransactionRow} {a : Account}
    (hkey : (db.transactions.map TransactionRow.id).Nodup) (ht : (t, a) ∈ joinedRows db userId)
    (hset : setTransactionCategoryOverride db now t.id userId categoryName subcategoryName =
      .ok db') :
    applyCategoryRules rules (withAccount db' userId t a) =
      (withAccount db userId t a).filedUnder categoryName
        (subcategoryName.or (duplicateSubcategory db userId t.id)) := by
  obtain ⟨hmem, hcanonical, -⟩ := mem_of_mem_joinedRows ht
  obtain ⟨o, ho, hcategory, hsubcategory⟩ := findOverride_setTransactionCategoryOverride hset
  have hduplicate := duplicateOverride_setTransactionCategoryOverride hset t.id
    (fun t' ht' hhidden hsame ↦ by
      rw [List.inj_on_of_nodup_map hkey ht' hmem hsame, hcanonical] at hhidden
      exact absurd hhidden nofun) userId
  have hconnections : db'.providerConnections = db.providerConnections := by
    rw [setTransactionCategoryOverride_frame hset]
  have hcustom : customCategory db' userId t.id = some categoryName := by
    rw [customCategory, ho, Option.map_some, hcategory, Option.some_or]
  have hsub : customSubcategory db' userId t.id =
      subcategoryName.or (duplicateSubcategory db userId t.id) := by
    rw [customSubcategory, ho, Option.bind_some, hsubcategory, hduplicate, duplicateSubcategory]
  -- a row with a category of the user's own is left alone by the rules
  have hrules : applyCategoryRules rules (withAccount db' userId t a) =
      withAccount db' userId t a := by
    refine if_neg ?_
    show ¬(customCategory db' userId t.id).isNone = true
    rw [hcustom]
    exact Bool.false_ne_true
  rw [hrules, withAccount, withAccount, hconnections, hcustom, hsub]
  rfl

/-- The same transactions are listed after an override. -/
theorem joinedRows_setTransactionCategoryOverride {db db' : Store} {transactionId : Uuid}
    (hset : setTransactionCategoryOverride db now transactionId userId categoryName
      subcategoryName = .ok db') (u : Uuid) :
    joinedRows db' u = joinedRows db u := by
  rw [setTransactionCategoryOverride_frame hset]
  rfl

theorem id_withAccount (db : Store) (t : TransactionRow) (a : Account) :
    (withAccount db userId t a).id = t.id :=
  rfl

/-- A listed transaction is known by its id. -/
theorem eq_of_mem_joinedRows {db : Store} {p q : TransactionRow × Account}
    (hkey : (db.transactions.map TransactionRow.id).Nodup) (hp : p ∈ joinedRows db userId)
    (hq : q ∈ joinedRows db userId) (hid : p.1.id = q.1.id) : p = q := by
  obtain ⟨hpmem, -, hpaccount⟩ := mem_of_mem_joinedRows hp
  obtain ⟨hqmem, -, hqaccount⟩ := mem_of_mem_joinedRows hq
  have hrow : p.1 = q.1 := List.inj_on_of_nodup_map hkey hpmem hqmem hid
  rw [hrow] at hpaccount
  exact Prod.ext hrow (Option.some.inj (hpaccount.symm.trans hqaccount))

/-- **What is sent after an override.** A transaction that is listed before a user files it is
listed afterwards, and it is the row before, filed under the names that are stored, whichever rules
there are by then. -/
theorem mem_servedTransactions_iff {db db' : Store} {row row' : TransactionWithAccount}
    (hkey : (db.transactions.map TransactionRow.id).Nodup)
    (hrow : row ∈ servedTransactions db userId rules)
    (hset : setTransactionCategoryOverride db now row.id userId categoryName subcategoryName =
      .ok db') (hid : row'.id = row.id) :
    row' ∈ servedTransactions db' userId rules' ↔
      row' = row.filedUnder categoryName
        (subcategoryName.or (duplicateSubcategory db userId row.id)) := by
  obtain ⟨t, a, hlisted, rfl⟩ := mem_servedTransactions.1 hrow
  rw [id_applyCategoryRules, id_withAccount] at hset hid ⊢
  rw [filedUnder_applyCategoryRules, mem_servedTransactions,
    joinedRows_setTransactionCategoryOverride hset]
  constructor
  · rintro ⟨t', a', hlisted', rfl⟩
    rw [id_applyCategoryRules, id_withAccount] at hid
    obtain ⟨rfl, rfl⟩ := Prod.mk.inj (eq_of_mem_joinedRows hkey hlisted' hlisted hid)
    exact withAccount_filedUnder hkey hlisted hset
  · rintro rfl
    exact ⟨t, a, hlisted, withAccount_filedUnder hkey hlisted hset⟩

end Served

end Sumurai
