import Sumurai.Budgets.Handlers
import Sumurai.Budgets.Migrations
import Sumurai.Repository.Transactions

/-!
# User categories

A user makes a category of their own, files transactions under it, and may delete it again. The
filing is an override of the transaction, and has two names: of a category, and of a subcategory
within it. The client files a transaction under a new category by the name of its parent, with the
new name as the subcategory.

`delete_user_category` clears the overrides that have the deleted name as their category.
`deleteUserCategory_iff` says that nothing of the category is left exactly if no override has it as
the subcategory alone, which is how the client files (`trace_of_createCategoryAndAssign`).
-/

namespace Sumurai

/-- The store with the table `user_categories`. -/
structure CategoryStore extends Store where
  userCategories : List UserCategoryRow
deriving DecidableEq, Repr

/-! ### The statements -/

/-- `create_user_category`. -/
def createUserCategory (db : CategoryStore) (now : Timestamp) (newId userId : Uuid) (name : String)
    (parentCategory : Option String) : Except String (CategoryStore × UserCategoryRow) :=
  let row : UserCategoryRow :=
    { id := newV4 (db.userCategories.map UserCategoryRow.id) newId
      userId := userId
      name := name
      parentCategory := parentCategory
      createdAt := some now }
  if row.key ∈ db.userCategories.map UserCategoryRow.key then .error "Category name already exists"
  else .ok ({ db with userCategories := db.userCategories ++ [row] }, row)

/-- `delete_user_category`, from the query for the name to the commit. -/
def deleteUserCategory (db : CategoryStore) (categoryId userId : Uuid) : CategoryStore :=
  let name := (db.userCategories.find? fun c ↦ c.id = categoryId ∧ c.userId = userId).map
    UserCategoryRow.name
  let userCategories := db.userCategories.filter fun c ↦
    ¬(c.id = categoryId ∧ c.userId = userId)
  match name with
  | some catName =>
    { db with
      userCategories := userCategories
      transactionCategoryOverrides := db.transactionCategoryOverrides.filter fun o ↦
        ¬(o.userId = userId ∧ o.categoryName = catName) }
  | none => { db with userCategories := userCategories }

/-! ### The requests -/

/-- An `ApiErrorResponse`, with its status code. -/
structure CategoryFailure where
  status : ℕ
  error : String
  message : String
deriving DecidableEq, Repr

/-- `str::trim`, to an owned string. -/
def trimmed (s : String) : String :=
  String.ofList (trim s)

/-- `.map(|s| s.trim().to_string()).filter(|s| !s.is_empty())`. -/
def trimmedOrNone (s : Option String) : Option String :=
  (s.map trimmed).filter (· ≠ "")

/-- `create_authenticated_user_category`. -/
def createAuthenticatedUserCategory (db : CategoryStore) (now : Timestamp) (newId userId : Uuid)
    (name : String) (parentCategory : Option String) :
    Except CategoryFailure (CategoryStore × UserCategoryRow) :=
  if trimmed name = "" then .error ⟨400, "BAD_REQUEST", "Category name must not be empty"⟩
  else
    match createUserCategory db now newId userId (trimmed name) (trimmedOrNone parentCategory) with
    | .ok created => .ok created
    | .error e =>
      if messageContains e "already exists" then
        .error ⟨409, "CONFLICT", "Category name already exists"⟩
      else .error ⟨500, "INTERNAL_SERVER_ERROR", "Failed to create category"⟩

/-- `set_authenticated_transaction_category`. -/
def setAuthenticatedTransactionCategory (db : CategoryStore) (now : Timestamp)
    (transactionId userId : Uuid) (categoryName : String) (subcategoryName : Option String) :
    Except CategoryFailure CategoryStore :=
  if trimmed categoryName = "" then .error ⟨400, "BAD_REQUEST", "Category name must not be empty"⟩
  else
    match setTransactionCategoryOverride db.toStore now transactionId userId (trimmed categoryName)
      (trimmedOrNone subcategoryName) with
    | .ok store => .ok { db with toStore := store }
    | .error _ => .error ⟨500, "INTERNAL_SERVER_ERROR", "Failed to set category override"⟩

/-- `createCategoryAndAssign`: one request after the other. An empty text is left out of a
request. -/
def createCategoryAndAssign (db : CategoryStore) (now : Timestamp)
    (newId userId transactionId : Uuid) (name : String) (parentCategory : Option String) :
    Except CategoryFailure (CategoryStore × UserCategoryRow) := do
  let (db, created) ← createAuthenticatedUserCategory db now newId userId name
    (parentCategory.filter (· ≠ ""))
  let majorCat := (parentCategory.filter (· ≠ "")).getD "Shopping"
  let db ← setAuthenticatedTransactionCategory db now transactionId userId majorCat
    ((some name).filter (· ≠ ""))
  return (db, created)

/-! ### What is left of a category -/

/-- An override of a user that refers to a category, at either level. -/
def TransactionCategoryOverride.refersTo (userId : Uuid) (name : String)
    (o : TransactionCategoryOverride) : Bool :=
  o.userId = userId && (o.categoryName = name || o.subcategoryName = some name)

/-- Nothing refers to a category any more, and what did not refer to it is as it was. -/
structure CategoryRemoved (userId : Uuid) (name : String) (db db' : CategoryStore) : Prop where
  noTrace : ∀ o ∈ db'.transactionCategoryOverrides, o.refersTo userId name = false
  others : (db'.transactionCategoryOverrides.filter fun o ↦ !o.refersTo userId name) =
    db.transactionCategoryOverrides.filter fun o ↦ !o.refersTo userId name

section Delete

variable {db : CategoryStore} {c : UserCategoryRow}

/-- The query finds the category, since its id is unique. -/
theorem find?_userCategory (hc : c ∈ db.userCategories)
    (hkey : (db.userCategories.map UserCategoryRow.id).Nodup) :
    (db.userCategories.find? fun r ↦ r.id = c.id ∧ r.userId = c.userId) = some c := by
  rcases hfind : db.userCategories.find? fun r ↦ decide (r.id = c.id ∧ r.userId = c.userId)
    with - | r
  · have hnone := List.find?_eq_none.1 hfind c hc
    exact absurd (decide_eq_true ⟨rfl, rfl⟩) hnone
  · have hr := of_decide_eq_true
      (List.find?_some (p := fun r : UserCategoryRow ↦ decide (r.id = c.id ∧ r.userId = c.userId))
        hfind)
    have hrow : r = c :=
      List.inj_on_of_nodup_map hkey (List.mem_of_find?_eq_some hfind) hc hr.1
    exact hfind.trans (congrArg some hrow)

/-- The overrides after the deletion of a category. -/
theorem overrides_deleteUserCategory (hc : c ∈ db.userCategories)
    (hkey : (db.userCategories.map UserCategoryRow.id).Nodup) :
    (deleteUserCategory db c.id c.userId).transactionCategoryOverrides =
      db.transactionCategoryOverrides.filter fun o ↦
        ¬(o.userId = c.userId ∧ o.categoryName = c.name) := by
  rw [deleteUserCategory, find?_userCategory hc hkey]
  rfl

/-- An override with the name as its subcategory alone is a trace of the category. -/
theorem not_categoryRemoved_of_override (hc : c ∈ db.userCategories)
    (hkey : (db.userCategories.map UserCategoryRow.id).Nodup) {o : TransactionCategoryOverride}
    (ho : o ∈ db.transactionCategoryOverrides) (huser : o.userId = c.userId)
    (hname : o.categoryName ≠ c.name) (hsub : o.subcategoryName = some c.name) :
    ¬CategoryRemoved c.userId c.name db (deleteUserCategory db c.id c.userId) := by
  intro h
  have hmem : o ∈ (deleteUserCategory db c.id c.userId).transactionCategoryOverrides := by
    rw [overrides_deleteUserCategory hc hkey]
    exact List.mem_filter.2 ⟨ho, decide_eq_true fun hboth ↦ hname hboth.2⟩
  have hclear := h.noTrace o hmem
  rw [TransactionCategoryOverride.refersTo, huser, hsub] at hclear
  simp at hclear

/-- **When a deleted category leaves no trace.** After a category of a user is deleted, nothing
refers to it, and everything else is as it was, if and only if no override of the user has its name
as the subcategory under a category of another name. -/
theorem deleteUserCategory_iff (db : CategoryStore) (c : UserCategoryRow)
    (hc : c ∈ db.userCategories) (hkey : (db.userCategories.map UserCategoryRow.id).Nodup) :
    CategoryRemoved c.userId c.name db (deleteUserCategory db c.id c.userId) ↔
      ∀ o ∈ db.transactionCategoryOverrides, o.userId = c.userId →
        o.subcategoryName = some c.name → o.categoryName = c.name := by
  have hoverrides := overrides_deleteUserCategory hc hkey
  constructor
  · intro h o ho huser hsub
    by_contra hname
    exact not_categoryRemoved_of_override hc hkey ho huser hname hsub h
  · intro h
    refine ⟨fun o ho ↦ ?_, ?_⟩
    · rw [hoverrides] at ho
      obtain ⟨ho, hkept⟩ := List.mem_filter.1 ho
      by_contra hrefers
      rw [Bool.not_eq_false, TransactionCategoryOverride.refersTo, Bool.and_eq_true,
        Bool.or_eq_true, decide_eq_true_iff, decide_eq_true_iff, decide_eq_true_iff] at hrefers
      obtain ⟨huser, hname | hsub⟩ := hrefers
      · exact of_decide_eq_true hkept ⟨huser, hname⟩
      · exact of_decide_eq_true hkept ⟨huser, h o ho huser hsub⟩
    · -- what does not refer to the category is not deleted
      rw [hoverrides, List.filter_filter]
      refine List.filter_congr fun o _ ↦ ?_
      rw [TransactionCategoryOverride.refersTo]
      by_cases huser : o.userId = c.userId <;> by_cases hname : o.categoryName = c.name <;>
        simp [huser, hname]

end Delete

/-! ### What the client files -/

section Assign

variable {db db' : CategoryStore} {now : Timestamp} {newId userId transactionId : Uuid}
  {name : String} {parentCategory : Option String} {created : UserCategoryRow}

/-- A category that is created is there, under the name asked for, and has an id of its own. -/
theorem createAuthenticatedUserCategory_spec
    (h : createAuthenticatedUserCategory db now newId userId name parentCategory =
      .ok (db', created)) :
    trimmed name ≠ "" ∧ created.userId = userId ∧ created.name = trimmed name ∧
      created.id ∉ db.userCategories.map UserCategoryRow.id ∧
        db' = { db with userCategories := db.userCategories ++ [created] } := by
  rw [createAuthenticatedUserCategory] at h
  split at h
  · exact absurd h nofun
  · rename_i hname
    split at h
    · rename_i stored hcreate
      rw [createUserCategory] at hcreate
      split at hcreate
      · exact absurd hcreate nofun
      · obtain rfl := Except.ok.inj hcreate
        obtain ⟨rfl, rfl⟩ := Prod.mk.inj (Except.ok.inj h)
        exact ⟨hname, rfl, rfl, newV4_notMem _ _, rfl⟩
    · split at h <;> exact absurd h nofun

/-- The override of the transaction is there, with the names that were set. -/
theorem exists_setTransactionCategoryOverride {store store' : Store} {categoryName : String}
    {subcategoryName : Option String}
    (h : setTransactionCategoryOverride store now transactionId userId categoryName
      subcategoryName = .ok store') :
    ∃ o ∈ store'.transactionCategoryOverrides, o.userId = userId ∧
      o.categoryName = categoryName ∧ o.subcategoryName = subcategoryName := by
  rw [setTransactionCategoryOverride] at h
  split at h
  · rename_i hfound
    obtain ⟨o, ho⟩ := Option.isSome_iff_exists.1 hfound
    have hmatch := of_decide_eq_true (List.find?_some
      (p := fun o : TransactionCategoryOverride ↦
        decide (o.transactionId = transactionId ∧ o.userId = userId)) ho)
    obtain rfl := Except.ok.inj h
    exact ⟨_, List.mem_map.2 ⟨o, List.mem_of_find?_eq_some ho, if_pos hmatch⟩, hmatch.2, rfl, rfl⟩
  · split at h
    · exact absurd h nofun
    · obtain rfl := Except.ok.inj h
      exact ⟨_, List.mem_append_right _ (List.mem_singleton_self _), rfl, rfl, rfl⟩

theorem setAuthenticatedTransactionCategory_spec {categoryName : String}
    {subcategoryName : Option String}
    (h : setAuthenticatedTransactionCategory db now transactionId userId categoryName
      subcategoryName = .ok db') :
    db'.userCategories = db.userCategories ∧
      ∃ o ∈ db'.transactionCategoryOverrides, o.userId = userId ∧
        o.categoryName = trimmed categoryName ∧
          o.subcategoryName = trimmedOrNone subcategoryName := by
  rw [setAuthenticatedTransactionCategory] at h
  split at h
  · exact absurd h nofun
  · split at h
    · rename_i store hset
      obtain rfl := Except.ok.inj h
      exact ⟨rfl, exists_setTransactionCategoryOverride hset⟩
    · exact absurd h nofun

/-- **What the client files stays.** A category that is created for a transaction, under a parent of
another name, is still referred to after it is deleted. -/
theorem trace_of_createCategoryAndAssign
    (hkey : (db.userCategories.map UserCategoryRow.id).Nodup)
    (h : createCategoryAndAssign db now newId userId transactionId name parentCategory =
      .ok (db', created))
    (hparent : trimmed ((parentCategory.filter (· ≠ "")).getD "Shopping") ≠ trimmed name) :
    ¬CategoryRemoved userId (trimmed name) db' (deleteUserCategory db' created.id userId) := by
  obtain ⟨⟨stored, category⟩, hcreate, hrest⟩ := Except.exists_of_bind_eq_ok h
  obtain ⟨filed, hset, hend⟩ := Except.exists_of_bind_eq_ok hrest
  obtain ⟨rfl, rfl⟩ := Prod.mk.inj (Except.ok.inj hend)
  obtain ⟨hname, rfl, hcategory, hfresh, rfl⟩ := createAuthenticatedUserCategory_spec hcreate
  obtain ⟨hcategories, o, ho, howner, hmajor, hsub⟩ := setAuthenticatedTransactionCategory_spec hset
  have hgiven : name ≠ "" := by
    rintro rfl
    exact hname rfl
  rw [← hcategory] at hparent hname ⊢
  refine not_categoryRemoved_of_override ?_ ?_ ho howner (hmajor ▸ hparent) ?_
  · rw [hcategories]
    exact List.mem_append_right _ (List.mem_singleton_self _)
  · rw [hcategories, List.map_append]
    exact hkey.append (List.nodup_singleton _) (List.disjoint_singleton.2 hfresh)
  · rw [hsub, trimmedOrNone]
    simp [hgiven, ← hcategory, hname]

end Assign

/-- A user's category, with a transaction that was filed under it by its name, and one that was not
filed. -/
def petCare : CategoryStore where
  toStore := { Store.empty with
    transactions := [checkingTransaction 5 100 20, checkingTransaction 6 101 45]
    transactionCategoryOverrides := [⟨5, 7, "Pet Care", none, some 0⟩] }
  userCategories := [⟨1, 7, "Pet Care", none, some 0⟩]

/-- A category whose deletion leaves no trace. -/
theorem categoryRemoved_petCare :
    CategoryRemoved 7 "Pet Care" petCare (deleteUserCategory petCare 1 7) :=
  (deleteUserCategory_iff petCare ⟨1, 7, "Pet Care", none, some 0⟩ (List.mem_singleton_self _)
    (List.nodup_singleton _)).2 (by decide)

/-- A category that is made for a transaction. -/
def dogFood : UserCategoryRow :=
  ⟨2, 7, "Dog Food", some "Pets", some 0⟩

/-- The store after the client has filed the transaction under it. -/
def petCareAndDogFood : CategoryStore :=
  { petCare with
    userCategories := petCare.userCategories ++ [dogFood]
    transactionCategoryOverrides := petCare.transactionCategoryOverrides ++
      [⟨6, 7, "Pets", some "Dog Food", some 0⟩] }

/-- **Dog food under pets.** The client files a transaction under a new category of the parent
`Pets`. When the category is deleted the transaction is still in it. -/
theorem not_categoryRemoved_dogFood :
    createCategoryAndAssign petCare 0 2 7 6 "Dog Food" (some "Pets") =
        .ok (petCareAndDogFood, dogFood) ∧
      ¬CategoryRemoved 7 "Dog Food" petCareAndDogFood
        (deleteUserCategory petCareAndDogFood dogFood.id 7) := by
  refine ⟨by rfl, fun h ↦ ?_⟩
  have htrace : ⟨6, 7, "Pets", some "Dog Food", some 0⟩ ∈
      (deleteUserCategory petCareAndDogFood dogFood.id 7).transactionCategoryOverrides := by decide
  exact absurd (h.noTrace _ htrace) (by decide)

end Sumurai
