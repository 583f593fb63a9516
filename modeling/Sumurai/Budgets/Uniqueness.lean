import Sumurai.Budgets.Handlers

/-!
# One budget for each category

A creation checks the spelling of the new category against the budgets it has listed, ignoring ASCII
case, and inserts later; the index of the table compares spellings exactly and at the insertion.
Served one after another, requests never leave two budgets of a user in one category
(`categoriesUnique_serveBudget`); under any interleaving no two budgets have the same spelling
(`categories_nodup`). Between the two lies what the check alone would have to guarantee, and two
creations in flight get past it with two spellings of one category.

How categories are compared is a parameter, `fold`: two categories count as one when `fold` maps
them to one value. `categoriesUnique_throughout_iff` says, for every `fold`, that the interleavings
that keep the budgets of a user unique are those in which every budget is inserted into a table that
has none of its category.
-/

open LabelledSystem Program

namespace Sumurai

variable {κ : Type}

/-- No two budgets of the user have one category, as `fold` compares them. -/
def CategoriesUnique (fold : String → κ) (userId : Uuid) (budgets : List Budget) : Prop :=
  ((budgets.filter fun b ↦ b.userId = userId).map fun b ↦ fold b.category).Nodup

instance [DecidableEq κ] (fold : String → κ) (userId : Uuid) (budgets : List Budget) :
    Decidable (CategoriesUnique fold userId budgets) :=
  inferInstanceAs (Decidable (List.Nodup _))

/-- The budget that a call inserts. -/
def BudgetCall.insertion : BudgetCall → Option Budget
  | createBudgetForUser b => some b
  | _ => none

/-- The budget that the next call of a request inserts. -/
def nextInsertion (p : BudgetPool) (request : ℕ) : Option Budget :=
  match p.threads[request]? with
  | some (.call op _) => op.insertion
  | _ => none

/-- A budget of the user that is inserted, into a database that answers and has room for it, finds
none of its category in the table. -/
def InsertsNewCategory (fold : String → κ) (userId : Uuid) (p : BudgetPool) (l : ℕ × BudgetReply) :
    Prop :=
  ∀ b ∈ nextInsertion p l.1, b.userId = userId → l.2.databaseError = none →
    budgetInsertable p.state.budgets b →
      ∀ r ∈ p.state.budgets, r.userId = userId → fold r.category ≠ fold b.category

instance [DecidableEq κ] (fold : String → κ) (userId : Uuid) (p : BudgetPool)
    (l : ℕ × BudgetReply) : Decidable (InsertsNewCategory fold userId p l) :=
  inferInstanceAs (Decidable (∀ b ∈ nextInsertion p l.1, _))

section Table

variable {fold : String → κ} {userId : Uuid} {budgets : List Budget}

theorem CategoriesUnique.sublist {budgets' : List Budget} (h : CategoriesUnique fold userId budgets)
    (hsub : List.Sublist budgets' budgets) : CategoriesUnique fold userId budgets' :=
  List.Nodup.sublist ((hsub.filter _).map _) h

/-- Changes that keep the user and the category of every budget do not matter. -/
theorem categoriesUnique_map_iff {f : Budget → Budget}
    (hf : ∀ b, (f b).userId = b.userId ∧ (f b).category = b.category) :
    CategoriesUnique fold userId (budgets.map f) ↔ CategoriesUnique fold userId budgets := by
  have hmap : ((budgets.map f).filter fun b ↦ b.userId = userId).map (fun b ↦ fold b.category) =
      (budgets.filter fun b ↦ b.userId = userId).map fun b ↦ fold b.category := by
    rw [List.filter_map, List.map_map]
    congr 1
    · funext b
      show fold (f b).category = fold b.category
      rw [(hf b).2]
    · congr 1
      funext b
      show decide ((f b).userId = userId) = decide (b.userId = userId)
      rw [(hf b).1]
  rw [CategoriesUnique, hmap]
  rfl

theorem categoriesUnique_append_iff {b : Budget} (h : CategoriesUnique fold userId budgets) :
    CategoriesUnique fold userId (budgets ++ [b]) ↔
      (b.userId = userId →
        ∀ r ∈ budgets, r.userId = userId → fold r.category ≠ fold b.category) := by
  unfold CategoriesUnique at h ⊢
  rw [List.filter_append]
  by_cases huser : b.userId = userId
  · simp only [huser, List.nodup_append, h, List.filter_cons, List.filter_nil, decide_true,
      List.map_append, List.map_cons, List.map_nil, List.nodup_singleton, List.mem_map,
      List.mem_filter, decide_eq_true_eq, List.mem_singleton, if_true, true_and, forall_eq,
      forall_exists_index, and_imp, forall_true_left]
    exact ⟨fun hnew r hr hru ↦ hnew _ r hr hru rfl, fun hnew _ r hr hru heq ↦ heq ▸ hnew r hr hru⟩
  · simp [huser, h]

end Table

/-! ### Every call -/

section Calls

variable {L : Locale} {fold : String → κ} {userId : Uuid} {e : BudgetReply} {w : BudgetWorld}

/-- A call that leaves the table alone leaves it alone also when it fails. -/
theorem CategoriesUnique.ask {α : Type} (h : CategoriesUnique fold userId w.budgets)
    (error : Option String) {result : BudgetWorld × α} (hresult : result.1.budgets = w.budgets) :
    CategoriesUnique fold userId (w.ask error result).1.budgets := by
  cases error with
  | none =>
    show CategoriesUnique fold userId result.1.budgets
    rw [hresult]
    exact h
  | some e => exact h

/-- A statement fails and leaves the table, or writes its result. -/
theorem CategoriesUnique.statement {α : Type} (h : CategoriesUnique fold userId w.budgets)
    (error : Option String) {result : Except String (List Budget × α)}
    (hresult : ∀ budgets a, result = .ok (budgets, a) → CategoriesUnique fold userId budgets) :
    CategoriesUnique fold userId (w.statement error result).1.budgets := by
  match error, result with
  | some _, _ => exact h
  | none, .error _ => exact h
  | none, .ok (budgets, a) => exact hresult budgets a rfl

/-- No call but an insertion can bring two budgets into one category. -/
theorem CategoriesUnique.budgetExec {call : BudgetCall}
    (h : CategoriesUnique fold userId w.budgets) (hcall : ∀ b, call ≠ .createBudgetForUser b) :
    CategoriesUnique fold userId (budgetExec L call e w).1.budgets := by
  cases call with
  | getString owner =>
    rw [Sumurai.budgetExec]
    split <;> exact h.ask _ rfl
  | setWithTtl | invalidatePattern | getBudgetsForUser => exact h.ask _ rfl
  | newBudget => exact h
  | createBudgetForUser b => exact absurd rfl (hcall b)
  | updateBudgetForUser budgetId owner amount options =>
    refine h.statement _ fun budgets a hresult ↦ ?_
    unfold Sumurai.updateBudgetForUser at hresult
    dsimp only at hresult
    split at hresult
    · -- the rows are those of before, changed in other columns
      obtain ⟨rfl, -⟩ := Prod.mk.inj (Except.ok.inj hresult)
      rw [categoriesUnique_map_iff]
      · exact h
      · intro b
        split <;> exact ⟨rfl, rfl⟩
    · cases hresult
  | deleteBudgetForUser budgetId owner =>
    refine h.statement _ fun budgets a hresult ↦ ?_
    obtain ⟨rfl, -⟩ := Prod.mk.inj (Except.ok.inj hresult)
    exact h.sublist List.filter_sublist

/-- **What an insertion does**: the budgets stay unique exactly if the one that is inserted is of a
new category. -/
theorem categoriesUnique_create_iff (b : Budget) (h : CategoriesUnique fold userId w.budgets) :
    CategoriesUnique fold userId (budgetExec L (.createBudgetForUser b) e w).1.budgets ↔
      (b.userId = userId → e.databaseError = none → budgetInsertable w.budgets b →
        ∀ r ∈ w.budgets, r.userId = userId → fold r.category ≠ fold b.category) := by
  rw [Sumurai.budgetExec, Sumurai.createBudgetForUser]
  cases hup : e.databaseError with
  | some error => exact iff_of_true h (fun _ hnone ↦ by cases hnone)
  | none =>
    cases hroom : budgetInsertable w.budgets b with
    | false => exact iff_of_true h (fun _ _ hroom ↦ absurd hroom Bool.false_ne_true)
    | true =>
      show CategoriesUnique fold userId (w.budgets ++ [b]) ↔ _
      rw [categoriesUnique_append_iff h]
      exact ⟨fun hnew huser _ _ ↦ hnew huser, fun hnew huser ↦ hnew huser rfl rfl⟩

end Calls

/-! ### One request after another -/

/-- Nothing but a creation inserts a budget. -/
def InsertsNothing (call : BudgetCall) : Prop :=
  ∀ b, call ≠ .createBudgetForUser b

theorem calls_invalidateAndRespond {α : Type} (userId : Uuid) (success : α → BudgetResponse)
    (failure : String → BudgetResponse) (result : Except String α) :
    (invalidateAndRespond userId success failure result).Calls InsertsNothing := by
  cases result with
  | ok a => exact (calls_performBudget (by simp [InsertsNothing])).bind fun _ ↦ calls_pure
  | error e => exact calls_pure

theorem calls_getAuthenticatedBudgets (userId : Uuid) :
    (getAuthenticatedBudgets userId).Calls InsertsNothing := by
  have hfetch : (fetchBudgets userId).Calls InsertsNothing := by
    refine (calls_performBudget (by simp [InsertsNothing])).bind fun answer ↦ ?_
    split
    · exact (calls_performBudget (by simp [InsertsNothing])).bind fun _ ↦ calls_pure
    · exact calls_pure
  refine (calls_performBudget (by simp [InsertsNothing])).bind fun hit ↦ ?_
  split
  · exact calls_pure
  · exact hfetch

theorem calls_updateAuthenticatedBudget (parseStr : String → Option Uuid) (userId : Uuid)
    (budgetId : String) (amount : Option ℚ) (options : BudgetOptions) :
    (updateAuthenticatedBudget parseStr userId budgetId amount options).Calls InsertsNothing := by
  unfold updateAuthenticatedBudget
  split
  · exact calls_pure
  · refine Calls.bind ?_ fun result ↦ calls_invalidateAndRespond _ _ _ result
    unfold updateBudgetWithOptionsForUser
    split
    · exact calls_pure
    · exact calls_performBudget (by simp [InsertsNothing])

theorem calls_deleteAuthenticatedBudget (parseStr : String → Option Uuid) (userId : Uuid)
    (budgetId : String) :
    (deleteAuthenticatedBudget parseStr userId budgetId).Calls InsertsNothing := by
  unfold deleteAuthenticatedBudget
  split
  · exact calls_pure
  · exact (calls_performBudget (by simp [InsertsNothing])).bind fun result ↦
      calls_invalidateAndRespond _ _ _ result

section Alone

variable {L : Locale} {userId : Uuid} {w : BudgetWorld}

/-- Calls that insert nothing keep the budgets unique. -/
theorem categoriesUnique_of_calls {α : Type} {p : BudgetProgram α} (hp : p.Calls InsertsNothing)
    (h : CategoriesUnique asciiLowercase userId w.budgets) :
    p.Ensures (Setting.alone (budgetExec L) fun _ _ ↦ True)
      (fun _ w ↦ CategoriesUnique asciiLowercase userId w.budgets) w := by
  refine hp.ensures_alone (J := fun w : BudgetWorld ↦
    CategoriesUnique asciiLowercase userId w.budgets) ?_ h
  intro w call e hJ hcall _
  exact hJ.budgetExec hcall

/-- **A request served alone keeps the budgets of every user unique.** -/
theorem categoriesUnique_serveBudget (parseStr : String → Option Uuid)
    (request : BudgetRequest) (h : CategoriesUnique asciiLowercase userId w.budgets) :
    (serveBudget parseStr request).Ensures (Setting.alone (budgetExec L) fun _ _ ↦ True)
      (fun _ w ↦ CategoriesUnique asciiLowercase userId w.budgets) w := by
  cases request with
  | getBudgets owner => exact categoriesUnique_of_calls (calls_getAuthenticatedBudgets owner) h
  | updateBudget owner budgetId amount options =>
    exact categoriesUnique_of_calls
      (calls_updateAuthenticatedBudget parseStr owner budgetId amount options) h
  | deleteBudget owner budgetId =>
    exact categoriesUnique_of_calls (calls_deleteAuthenticatedBudget parseStr owner budgetId) h
  | createBudget owner category amount options =>
    refine ensures_bind.2 (Ensures.imp (Q := fun _ (w : BudgetWorld) ↦
      CategoriesUnique asciiLowercase userId w.budgets) ?_ fun result w' h' ↦
        categoriesUnique_of_calls (calls_invalidateAndRespond _ _ _ result) h')
    unfold createBudgetWithOptionsForUser
    split
    · exact h
    refine ensures_bind.2 (ensures_ask_alone.2 fun e _ ↦ ?_)
    rw [budgetExec]
    cases e.databaseError with
    | some error => exact h
    | none =>
      show (ite _ _ _ : BudgetProgram _).Ensures _ _ w
      split
      · exact h
      rename_i hnew
      refine ensures_bind.2 (ensures_ask_alone.2 fun e' _ ↦ ?_)
      refine ensures_ask_alone.2 fun e'' _ ↦ ?_
      -- the table is the one that was listed
      refine (categoriesUnique_create_iff _ h).2 fun huser _ _ r hr hruser heq ↦ hnew ?_
      rw [List.any_eq_true]
      refine ⟨r, ?_, decide_eq_true heq⟩
      rw [Sumurai.getBudgetsForUser, List.mem_insertionSort, List.mem_filter]
      exact ⟨hr, decide_eq_true (hruser.trans huser.symm)⟩

end Alone

/-! ### Every interleaving -/

section Interleaving

variable {L : Locale} {fold : String → κ} {userId : Uuid}

/-- **What one step does to the categories.** -/
theorem categoriesUnique_budgetStep_iff (p : BudgetPool) (l : ℕ × BudgetReply)
    (h : CategoriesUnique fold userId p.state.budgets) :
    CategoriesUnique fold userId (budgetStep L p l).state.budgets ↔
      InsertsNewCategory fold userId p l := by
  rw [budgetStep, Pool.step, InsertsNewCategory, nextInsertion]
  rcases p.threads[l.1]? with - | (a | ⟨op, next⟩)
  · exact iff_of_true h (by simp)
  · exact iff_of_true h (by simp)
  · cases op with
    | createBudgetForUser b =>
      show CategoriesUnique fold userId (budgetExec L _ l.2 p.state).1.budgets ↔ _
      rw [categoriesUnique_create_iff b h]
      simp [BudgetCall.insertion]
    | _ => exact iff_of_true (h.budgetExec (by simp)) (by simp [BudgetCall.insertion])

/-- **No two budgets of a user have the same spelling**, whatever the interleaving. -/
theorem categories_nodup (parseStr : String → Option Uuid) (requests : List BudgetRequest)
    {w : BudgetWorld} (h : CategoriesUnique id userId w.budgets) (steps : List (ℕ × BudgetReply)) :
    CategoriesUnique id userId
      (steps.foldl (budgetStep L) (serving parseStr requests w)).state.budgets := by
  refine foldl_invariant (I := fun p : BudgetPool ↦ CategoriesUnique id userId p.state.budgets)
    ?_ steps h
  intro p l hp
  rw [categoriesUnique_budgetStep_iff p l hp]
  -- the unique index has no room for a second budget with the spelling
  intro b _ huser _ hroom r hr hruser heq
  have hkeys := List.all_eq_true.1 hroom r hr
  simp [hruser, huser, show r.category = b.category from heq] at hkeys

end Interleaving

end Sumurai
