import Mathlib.Data.Rat.Defs
import Mathlib.Data.List.Lex
import Sumurai.Foundations.AssocMap
import Sumurai.Foundations.OrderBy
import Sumurai.Foundations.Programs
import Sumurai.Models.Basic

/-!
# The calls of the budget endpoints

The table `budgets`, its statements in `repository_service.rs`, and the calls that the budget
endpoints make: to the database, to the cache, and for the id and the time of a new budget.

The cache holds one entry for each user, `budgets:user:{id}`, written by the endpoint that lists the
budgets. The environment of a call (`BudgetReply`) chooses whether the database and the cache
answer, and whether the entry has outlived its 300 seconds when it is looked up.
-/

namespace Sumurai

/-- `models::budget::Budget`, and a row of `budgets`. The amount column has no scale. -/
structure Budget where
  id : Uuid
  userId : Uuid
  category : String
  amount : ℚ
  frequency : String
  rollover : Bool
  rolloverStartMonth : Option String
  createdAt : Timestamp
  updatedAt : Timestamp
deriving DecidableEq, Repr

/-- The options of a budget request. -/
structure BudgetOptions where
  frequency : Option String
  rollover : Option Bool
  rolloverStartMonth : Option String
deriving DecidableEq, Repr

/-- `Budget::new_with_options`. -/
def Budget.newWithOptions (id : Uuid) (now : Timestamp) (userId : Uuid) (category : String)
    (amount : ℚ) (options : BudgetOptions) : Budget where
  id := id
  userId := userId
  category := category
  amount := amount
  frequency := options.frequency.getD "monthly"
  rollover := options.rollover.getD false
  rolloverStartMonth := options.rolloverStartMonth
  createdAt := now
  updatedAt := now

/-! ### The statements -/

/-- `get_budgets_for_user`: `WHERE user_id = $1 ORDER BY category ASC`. -/
def getBudgetsForUser (L : Locale) (budgets : List Budget) (userId : Uuid) : List Budget :=
  (budgets.filter fun b ↦ b.userId = userId).insertionSort
    (OrderBy.asc fun b ↦ L.collationKey b.category)

/-- The keys of `budgets` have room for a row: `id`, and `(user_id, category)`. -/
def budgetInsertable (budgets : List Budget) (b : Budget) : Bool :=
  budgets.all fun r ↦ r.id ≠ b.id && !(r.userId = b.userId && r.category = b.category)

/-- `create_budget_for_user`. -/
def createBudgetForUser (budgets : List Budget) (b : Budget) :
    Except String (List Budget × Budget) :=
  if budgetInsertable budgets b then .ok (budgets ++ [b], b)
  else .error "Budget category already exists"

/-- What an update does to a row. -/
def Budget.update (now : Timestamp) (amount : Option ℚ) (options : BudgetOptions) (b : Budget) :
    Budget :=
  { b with
    amount := amount.getD b.amount
    frequency := options.frequency.getD b.frequency
    rollover := options.rollover.getD b.rollover
    rolloverStartMonth := options.rolloverStartMonth.or b.rolloverStartMonth
    updatedAt := now }

/-- `update_budget_for_user`: the update, and the row read back. -/
def updateBudgetForUser (budgets : List Budget) (now : Timestamp) (budgetId userId : Uuid)
    (amount : Option ℚ) (options : BudgetOptions) : Except String (List Budget × Budget) :=
  let budgets' := budgets.map fun b ↦
    if b.id = budgetId ∧ b.userId = userId then b.update now amount options else b
  match budgets'.find? fun b ↦ b.id = budgetId ∧ b.userId = userId with
  | some b => .ok (budgets', b)
  | none => .error "no rows returned by a query that expected to return at least one row"

/-- `delete_budget_for_user`. A budget that is not there is no error. -/
def deleteBudgetForUser (budgets : List Budget) (budgetId userId : Uuid) : List Budget :=
  budgets.filter fun b ↦ ¬ (b.id = budgetId ∧ b.userId = userId)

/-! ### The calls -/

/-- A call of the budget endpoints. -/
inductive BudgetCall where
  /-- `CacheService::get_string` of `budgets:user:{id}`. -/
  | getString (userId : Uuid)
  /-- `CacheService::set_with_ttl` of `budgets:user:{id}`. -/
  | setWithTtl (userId : Uuid) (budgets : List Budget)
  /-- `CacheService::invalidate_pattern` of `budgets:user:{id}`. -/
  | invalidatePattern (userId : Uuid)
  /-- `Uuid::new_v4` and `Utc::now`. -/
  | newBudget
  | getBudgetsForUser (userId : Uuid)
  | createBudgetForUser (b : Budget)
  | updateBudgetForUser (budgetId userId : Uuid) (amount : Option ℚ) (options : BudgetOptions)
  | deleteBudgetForUser (budgetId userId : Uuid)
deriving DecidableEq, Repr

/-- What a call is answered with. -/
abbrev BudgetCall.Answer : BudgetCall → Type
  | getString _ => Except String (Option (List Budget))
  | setWithTtl _ _ => Except String Unit
  | invalidatePattern _ => Except String Unit
  | newBudget => Uuid × Timestamp
  | getBudgetsForUser _ => Except String (List Budget)
  | createBudgetForUser _ => Except String Budget
  | updateBudgetForUser _ _ _ _ => Except String Budget
  | deleteBudgetForUser _ _ => Except String Unit

/-- What the environment chooses at a call. -/
structure BudgetReply where
  newId : Uuid
  now : Timestamp
  /-- The error of a database that does not answer. -/
  databaseError : Option String
  /-- The error of a cache that does not answer. -/
  cacheError : Option String
  /-- The entry looked up has outlived its time. -/
  expired : Bool

/-- The table, and the cached lists. -/
structure BudgetWorld where
  budgets : List Budget
  cache : List (Uuid × List Budget)
deriving DecidableEq, Repr

/-- A call to a service that answers or does not. -/
def BudgetWorld.ask {α : Type} (w : BudgetWorld) (error : Option String)
    (result : BudgetWorld × α) :
    BudgetWorld × Except String α :=
  match error with
  | some e => (w, .error e)
  | none => (result.1, .ok result.2)

/-- A statement that may fail. -/
def BudgetWorld.statement {α : Type} (w : BudgetWorld) (error : Option String)
    (result : Except String (List Budget × α)) : BudgetWorld × Except String α :=
  match error, result with
  | some e, _ => (w, .error e)
  | none, .error e => (w, .error e)
  | none, .ok (budgets, a) => ({ w with budgets := budgets }, .ok a)

/-- What a call does, and what it answers. -/
def budgetExec (L : Locale) : (call : BudgetCall) → BudgetReply → BudgetWorld →
    BudgetWorld × call.Answer
  | .getString userId, e, w =>
    if e.expired then
      w.ask e.cacheError ({ w with cache := w.cache.filter fun entry ↦ entry.1 ≠ userId }, none)
    else w.ask e.cacheError (w, w.cache.lookup userId)
  | .setWithTtl userId budgets, e, w =>
    w.ask e.cacheError ({ w with cache := AssocMap.insert userId budgets w.cache }, ())
  | .invalidatePattern userId, e, w =>
    w.ask e.cacheError ({ w with cache := w.cache.filter fun entry ↦ entry.1 ≠ userId }, ())
  | .newBudget, e, w => (w, e.newId, e.now)
  | .getBudgetsForUser userId, e, w =>
    w.ask e.databaseError (w, Sumurai.getBudgetsForUser L w.budgets userId)
  | .createBudgetForUser b, e, w =>
    w.statement e.databaseError (Sumurai.createBudgetForUser w.budgets b)
  | .updateBudgetForUser budgetId userId amount options, e, w =>
    w.statement e.databaseError
      (Sumurai.updateBudgetForUser w.budgets e.now budgetId userId amount options)
  | .deleteBudgetForUser budgetId userId, e, w =>
    w.statement e.databaseError
      (.ok (Sumurai.deleteBudgetForUser w.budgets budgetId userId, ()))

/-- A program of the budget endpoints. -/
abbrev BudgetProgram := Program BudgetCall BudgetCall.Answer

/-- A single call of a budget endpoint. -/
def performBudget (call : BudgetCall) : BudgetProgram call.Answer :=
  Program.ask call

theorem calls_performBudget {P : BudgetCall → Prop} {call : BudgetCall} (h : P call) :
    (performBudget call).Calls P :=
  Program.calls_ask h

/-- The answers of an environment in which nothing fails. -/
def answeringBudgetReply : BudgetReply where
  newId := 1
  now := 0
  databaseError := none
  cacheError := none
  expired := false

end Sumurai
