import Sumurai.Budgets.Calls
import Sumurai.Foundations.Runs

/-!
# The budget endpoints

The four budget handlers of `main.rs` with the methods of `budget_service.rs` they call, as programs
over the calls of the budget endpoints.

The list goes through the cache: a hit is the answer, a miss reads the table and fills the entry.
The three writes go to the table and then remove the entry of the user; like the fill, the removal
is made with its error dropped. A creation lists the budgets first and compares the spellings of
their categories without regard to ASCII case.

The requests being served are the threads of a pool (`serving`), of any users and in any number.
-/

open Program

namespace Sumurai

/-! ### Requests and responses -/

/-- A request to a budget endpoint, by an authenticated user. -/
inductive BudgetRequest where
  | getBudgets (userId : Uuid)
  /-- `CreateBudgetRequest`. -/
  | createBudget (userId : Uuid) (category : String) (amount : ℚ) (options : BudgetOptions)
  /-- `UpdateBudgetRequest`, for the id in the path. -/
  | updateBudget (userId : Uuid) (budgetId : String) (amount : Option ℚ) (options : BudgetOptions)
  | deleteBudget (userId : Uuid) (budgetId : String)
deriving DecidableEq, Repr

/-- The answer to a request. -/
inductive BudgetResponse where
  | budgets (budgets : List Budget)
  | budget (b : Budget)
  /-- `DeleteBudgetResponse`. -/
  | deleted (budgetId : String)
  /-- `ApiErrorResponse`, with its status code. -/
  | failed (status : ℕ) (error message : String)
deriving DecidableEq, Repr

/-- `ApiErrorResponse::internal_server_error`. -/
def BudgetResponse.internalServerError (message : String) : BudgetResponse :=
  .failed 500 "INTERNAL_SERVER_ERROR" message

/-- `str::contains`. -/
def messageContains (s pattern : String) : Bool :=
  decide (pattern.toList <:+: s.toList)

/-- `str::eq_ignore_ascii_case` compares these. -/
def asciiLowercase (s : String) : List Char :=
  s.toList.map Char.toLower

/-! ### The service -/

/-- `create_budget_with_options_for_user`. -/
def createBudgetWithOptionsForUser (userId : Uuid) (category : String) (amount : ℚ)
    (options : BudgetOptions) : BudgetProgram (Except String Budget) := do
  if amount ≤ 0 then
    return .error "Budget amount must be greater than zero"
  match ← performBudget (.getBudgetsForUser userId) with
  | .error e => return .error e
  | .ok existing =>
    if existing.any fun b ↦ asciiLowercase b.category = asciiLowercase category then
      return .error "Category already exists"
    let fresh ← performBudget .newBudget
    performBudget (.createBudgetForUser
      (Budget.newWithOptions fresh.1 fresh.2 userId category amount options))

/-- `update_budget_with_options_for_user`. -/
def updateBudgetWithOptionsForUser (budgetId userId : Uuid) (amount : Option ℚ)
    (options : BudgetOptions) : BudgetProgram (Except String Budget) := do
  if ∃ a ∈ amount, a ≤ 0 then
    return .error "Budget amount must be greater than zero"
  performBudget (.updateBudgetForUser budgetId userId amount options)

/-! ### The handlers -/

/-- `get_authenticated_budgets` after a miss: the table is read and the entry filled. -/
def fetchBudgets (userId : Uuid) : BudgetProgram BudgetResponse := do
  match ← performBudget (.getBudgetsForUser userId) with
  | .ok budgets =>
    let _ ← performBudget (.setWithTtl userId budgets)
    return .budgets budgets
  | .error _ => return .internalServerError "Failed to fetch budgets"

/-- `get_authenticated_budgets`. -/
def getAuthenticatedBudgets (userId : Uuid) : BudgetProgram BudgetResponse := do
  match ← performBudget (.getString userId) with
  | .ok (some cached) => return .budgets cached
  | _ => fetchBudgets userId

/-- How the three writes end: a success removes the cached list, a failure becomes a response. -/
def invalidateAndRespond {α : Type} (userId : Uuid) (success : α → BudgetResponse)
    (failure : String → BudgetResponse) (result : Except String α) :
    BudgetProgram BudgetResponse :=
  match result with
  | .ok a => do
    let _ ← performBudget (.invalidatePattern userId)
    return success a
  | .error e => return failure e

/-- The response of a creation that failed. -/
def createFailure (e : String) : BudgetResponse :=
  if messageContains e "greater than zero" then
    .failed 400 "BAD_REQUEST" "Budget amount must be greater than zero"
  else if messageContains e "already exists" then
    .failed 409 "CONFLICT" "Budget category already exists"
  else .internalServerError "Failed to create budget"

/-- `create_authenticated_budget`. -/
def createAuthenticatedBudget (userId : Uuid) (category : String) (amount : ℚ)
    (options : BudgetOptions) : BudgetProgram BudgetResponse :=
  createBudgetWithOptionsForUser userId category amount options >>=
    invalidateAndRespond userId .budget createFailure

/-- The response of an update that failed. -/
def updateFailure (e : String) : BudgetResponse :=
  if messageContains e "greater than zero" then
    .failed 400 "BAD_REQUEST" "Budget amount must be greater than zero"
  else if messageContains e "not found" || messageContains e "access denied" then
    .failed 404 "NOT_FOUND" "Budget not found"
  else .internalServerError "Failed to update budget"

/-- `update_authenticated_budget`. -/
def updateAuthenticatedBudget (parseStr : String → Option Uuid) (userId : Uuid)
    (budgetId : String) (amount : Option ℚ) (options : BudgetOptions) :
    BudgetProgram BudgetResponse :=
  match parseStr budgetId with
  | none => return .failed 400 "BAD_REQUEST" "Invalid budget id"
  | some budgetUuid =>
    updateBudgetWithOptionsForUser budgetUuid userId amount options >>=
      invalidateAndRespond userId .budget updateFailure

/-- The response of a deletion that failed. -/
def deleteFailure (e : String) : BudgetResponse :=
  if messageContains e "not found" || messageContains e "access denied" then
    .failed 404 "NOT_FOUND" "Budget not found"
  else .internalServerError "Failed to delete budget"

/-- `delete_authenticated_budget`. -/
def deleteAuthenticatedBudget (parseStr : String → Option Uuid) (userId : Uuid)
    (budgetId : String) : BudgetProgram BudgetResponse :=
  match parseStr budgetId with
  | none => return .failed 400 "BAD_REQUEST" "Invalid budget id"
  | some budgetUuid => do
    let result ← performBudget (.deleteBudgetForUser budgetUuid userId)
    invalidateAndRespond userId (fun _ ↦ .deleted budgetId) deleteFailure result

/-- The program that serves a request. `parseStr` is `Uuid::parse_str`. -/
def serveBudget (parseStr : String → Option Uuid) : BudgetRequest → BudgetProgram BudgetResponse
  | .getBudgets userId => getAuthenticatedBudgets userId
  | .createBudget userId category amount options =>
    createAuthenticatedBudget userId category amount options
  | .updateBudget userId budgetId amount options =>
    updateAuthenticatedBudget parseStr userId budgetId amount options
  | .deleteBudget userId budgetId => deleteAuthenticatedBudget parseStr userId budgetId

/-! ### Requests in flight -/

/-- The table and the cache, and the requests that are being served. -/
abbrev BudgetPool := Pool BudgetCall BudgetCall.Answer BudgetWorld BudgetResponse

/-- The requests at their first call. -/
def serving (parseStr : String → Option Uuid) (requests : List BudgetRequest) (w : BudgetWorld) :
    BudgetPool where
  state := w
  threads := requests.map (serveBudget parseStr)

/-- One of the requests makes its next call. -/
def budgetStep (L : Locale) : BudgetPool → ℕ × BudgetReply → BudgetPool :=
  Pool.step (budgetExec L)

end Sumurai
