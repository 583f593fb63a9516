import Sumurai.Foundations.Runs
import Sumurai.Frontend.Types

/-!
# Loading the transactions of a selection

Two hooks load transactions whenever the selected month or the selected accounts change:
`useTransactions` (`features/transactions/hooks/useTransactions.ts`) and `useBudgets`
(`features/budgets/hooks/useBudgets.ts`), whose `load` is called by its page on every change and
reads the budgets first. A load that has begun is neither cancelled nor compared with the selection
when its reply arrives; each reply replaces the list that is shown.

So a change of selection always sees to it that the transactions of the new selection are loaded or
awaited, and replies take it from there: what is shown when all of them have arrived is right if and
only if the last one fitted (`shows_iff`).
-/

namespace Sumurai.Frontend

/-! ### What is asked and what is shown -/

/-- The filters of `TransactionService.getTransactions` that the hooks use. -/
structure TransactionQuery where
  startDate : String
  endDate : String
  accountIds : Option (List String)
deriving DecidableEq, Repr

/-- What a selection asks for: no transactions, without a request, or those of a request. -/
inductive Asked where
  | nothing
  | request (query : TransactionQuery)
deriving DecidableEq, Repr

/-- The reply to a request: its transactions, or an error. -/
inductive Reply where
  | items (transactions : List Transaction)
  | error
deriving DecidableEq, Repr

/-- The list that is shown, and the requests that wait for a reply. -/
structure Board where
  transactions : List Transaction
  /-- What the list is the answer to; no code reads it. An error is the answer to nothing. -/
  answers : Option Asked
  inFlight : List TransactionQuery
deriving DecidableEq, Repr

/-- Before the first load. -/
def Board.empty : Board where
  transactions := []
  answers := none
  inFlight := []

/-- A load begins, if anything is asked for. -/
def Board.start (b : Board) : Option Asked → Board
  | none => b
  | some .nothing => { b with transactions := [], answers := some .nothing }
  | some (.request query) => { b with inFlight := b.inFlight ++ [query] }

/-- The reply to the `i`-th request in flight arrives. -/
def Board.settle (b : Board) (i : ℕ) (reply : Reply) : Board :=
  match b.inFlight[i]?, reply with
  | none, _ => b
  | some query, .items transactions =>
    { transactions := transactions, answers := some (.request query),
      inFlight := b.inFlight.eraseIdx i }
  | some _, .error => { transactions := [], answers := none, inFlight := b.inFlight.eraseIdx i }

/-- The request for this is in flight. -/
def Board.Awaits (b : Board) (a : Asked) : Prop :=
  ∃ query ∈ b.inFlight, a = .request query

/-- The answer to this is shown, or its request is in flight. -/
def Board.Covers (b : Board) (a : Asked) : Prop :=
  b.answers = some a ∨ b.Awaits a

/-- The account filter of `useAccountFilter`. -/
structure AccountFilter where
  selectedAccountIds : List String
  allAccountIds : List String
  loading : Bool
deriving DecidableEq, Repr

/-- `isAllAccountsSelected`. -/
def AccountFilter.isAllAccountsSelected (f : AccountFilter) : Bool :=
  0 < f.allAccountIds.length ∧ f.selectedAccountIds.length = f.allAccountIds.length

/-- There are accounts, and none is selected. -/
def AccountFilter.selectsNone (f : AccountFilter) : Bool :=
  0 < f.allAccountIds.length ∧ f.selectedAccountIds.length = 0

/-- `shouldFilter`. -/
def AccountFilter.shouldFilter (f : AccountFilter) : Bool :=
  0 < f.selectedAccountIds.length ∧ ¬ f.isAllAccountsSelected

/-! ### `useTransactions` -/

/-- What `load` of `useTransactions` depends on. -/
structure TransactionsSelection where
  start : String
  «end» : String
  selectedAccountId : Option String
  filter : AccountFilter
deriving DecidableEq, Repr

/-- What `load` asks for. Nothing is loaded while the accounts are. -/
def TransactionsSelection.asks (sel : TransactionsSelection) : Option Asked :=
  if sel.filter.loading then none
  else if sel.filter.selectsNone then some .nothing
  else
    some (.request
      { startDate := sel.start
        endDate := sel.end
        accountIds :=
          match sel.selectedAccountId.filter (· ≠ "") with
          | some id => some [id]
          | none =>
            if sel.filter.shouldFilter then some sel.filter.selectedAccountIds else none })

/-- The hook `useTransactions`. -/
structure TransactionsHook where
  selection : TransactionsSelection
  board : Board
deriving DecidableEq, Repr

/-- What happens to it. -/
inductive TransactionsEvent where
  | select (sel : TransactionsSelection)
  | settle (i : ℕ) (reply : Reply)
deriving DecidableEq, Repr

namespace TransactionsHook

/-- One event. A change of selection changes `load`, and the effect on `load` calls it. -/
def step (s : TransactionsHook) : TransactionsEvent → TransactionsHook
  | .select sel => { selection := sel, board := s.board.start sel.asks }
  | .settle i reply => { s with board := s.board.settle i reply }

/-- The hook after its first effects. -/
def mounted (sel : TransactionsSelection) : TransactionsHook where
  selection := sel
  board := Board.empty.start sel.asks

end TransactionsHook

/-! ### `useBudgets` -/

/-- What `loadTransactions` of `useBudgets` depends on. -/
structure BudgetsSelection where
  start : String
  «end» : String
  filter : AccountFilter
deriving DecidableEq, Repr

/-- The key of a selection. -/
def BudgetsSelection.key (sel : BudgetsSelection) : String :=
  let keySuffix :=
    if sel.filter.selectsNone then "none"
    else if sel.filter.shouldFilter then String.intercalate "," sel.filter.selectedAccountIds
    else "all"
  sel.start ++ ":" ++ sel.end ++ ":" ++ keySuffix

/-- What `loadTransactions` asks for. -/
def BudgetsSelection.asks (sel : BudgetsSelection) : Option Asked :=
  if sel.filter.loading then none
  else if sel.filter.selectsNone then some .nothing
  else
    some (.request
      { startDate := sel.start
        endDate := sel.end
        accountIds :=
          if sel.filter.shouldFilter then some sel.filter.selectedAccountIds else none })

/-- The hook `useBudgets`, as far as it loads, on its page. -/
structure BudgetsHook where
  selection : BudgetsSelection
  board : Board
  budgetsReady : Bool
  /-- `loadedRef.current`. -/
  loaded : Bool
  /-- `lastRangeRef.current`. -/
  lastRange : Option String
  /-- The calls of `load` that wait for the budgets, by the selection they close over. -/
  budgetLoads : List BudgetsSelection
deriving DecidableEq, Repr

/-- What happens to it. -/
inductive BudgetsEvent where
  | select (sel : BudgetsSelection)
  /-- The budgets arrive for the `i`-th call of `load` that waits for them, or an error does. -/
  | budgets (i : ℕ) (ok : Bool)
  | settle (i : ℕ) (reply : Reply)
deriving DecidableEq, Repr

namespace BudgetsHook

/-- `loadTransactions`. -/
def loadTransactions (s : BudgetsHook) (sel : BudgetsSelection) : BudgetsHook :=
  { s with lastRange := some sel.key, board := s.board.start sel.asks }

/-- The effect of the hook: load the transactions of a new key. -/
def effect (s : BudgetsHook) : BudgetsHook :=
  if s.budgetsReady ∧ s.lastRange ≠ some s.selection.key then s.loadTransactions s.selection else s

/-- `load`, which the page calls whenever it changes. -/
def load (s : BudgetsHook) (sel : BudgetsSelection) : BudgetsHook :=
  if s.loaded then { s with budgetsReady := true }.loadTransactions sel
  else { s with budgetLoads := s.budgetLoads ++ [sel] }

/-- The budgets have arrived for the `i`-th call of `load`. -/
def ready (s : BudgetsHook) (i : ℕ) : BudgetsHook :=
  { s with
    budgetLoads := s.budgetLoads.eraseIdx i
    loaded := true
    budgetsReady := true }

/-- The rest of that call. The effect runs again if the hook was not ready before. -/
def budgetsArrived (s : BudgetsHook) (i : ℕ) (sel : BudgetsSelection) : BudgetsHook :=
  if s.budgetsReady then (s.ready i).loadTransactions sel
  else ((s.ready i).loadTransactions sel).effect

/-- One event. On a change of selection the effect of the hook runs, and then that of the page. -/
def step (s : BudgetsHook) : BudgetsEvent → BudgetsHook
  | .select sel => ({ s with selection := sel }.effect).load sel
  | .budgets i ok =>
    match s.budgetLoads[i]? with
    | none => s
    | some sel =>
      if ok then s.budgetsArrived i sel
      else { s with budgetLoads := s.budgetLoads.eraseIdx i, loaded := false }
  | .settle i reply => { s with board := s.board.settle i reply }

/-- The hook after its first effects. -/
def mounted (sel : BudgetsSelection) : BudgetsHook where
  selection := sel
  board := Board.empty
  budgetsReady := false
  loaded := false
  lastRange := none
  budgetLoads := [sel]

end BudgetsHook

/-! ### The board -/

namespace Board

variable {b : Board} {a : Asked}

theorem covers_start {asked : Option Asked} :
    (b.start asked).Covers a ↔ asked = some a ∨ (asked ≠ some .nothing ∧ b.answers = some a) ∨
      b.Awaits a := by
  rcases asked with - | - | query
  · simp [start, Covers]
  · show some Asked.nothing = some a ∨ b.Awaits a ↔ _
    simp
  · show b.answers = some a ∨ (∃ q ∈ b.inFlight ++ [query], a = .request q) ↔ _
    simp only [List.mem_append, List.mem_singleton, or_and_right, exists_or, exists_eq_left]
    simp only [Option.some.injEq, ne_eq, reduceCtorEq, not_false_eq_true, true_and, Awaits,
      eq_comm (a := Asked.request query)]
    exact or_rotate.symm

/-- What a load asks for is covered when it has begun. -/
theorem covers_start_self : (b.start (some a)).Covers a :=
  covers_start.2 (Or.inl rfl)

/-- The reply to a request: what is covered after it is what it answers, and what is still
awaited. -/
theorem covers_settle {i : ℕ} {reply : Reply} {query : TransactionQuery}
    (h : b.inFlight[i]? = some query) :
    (b.settle i reply).Covers a ↔ (reply ≠ .error ∧ a = .request query) ∨
      ∃ q ∈ b.inFlight.eraseIdx i, a = .request q := by
  rcases reply with transactions | -
  · unfold settle
    rw [h]
    show some (Asked.request query) = some a ∨ (∃ q ∈ b.inFlight.eraseIdx i, a = .request q) ↔ _
    simp [eq_comm]
  · unfold settle
    rw [h]
    show (none : Option Asked) = some a ∨ (∃ q ∈ b.inFlight.eraseIdx i, a = .request q) ↔ _
    simp

theorem covers_iff_of_quiet (h : b.inFlight = []) : b.Covers a ↔ b.answers = some a := by
  refine or_iff_left ?_
  rintro ⟨query, hquery, -⟩
  rw [h] at hquery
  exact absurd hquery List.not_mem_nil

theorem settle_of_none {i : ℕ} {reply : Reply} (h : b.inFlight[i]? = none) :
    b.settle i reply = b := by
  unfold settle
  rw [h]

end Board

/-! ### Whether the last reply fitted -/

namespace TransactionsHook

/-- What the selection asks for is shown or awaited. -/
def Right (s : TransactionsHook) : Prop :=
  ∀ a, s.selection.asks = some a → s.board.Covers a

/-- Whether the last reply fitted, after one more event: it was what the selection asks for, or
another request for that is in flight. A change of selection forgets the replies before it. -/
def fits (s : TransactionsHook) (before : Prop) : TransactionsEvent → Prop
  | .select _ => True
  | .settle i reply =>
    match s.board.inFlight[i]? with
    | none => before
    | some query => ∀ a, s.selection.asks = some a →
      (reply ≠ .error ∧ a = .request query) ∨ ∃ q ∈ s.board.inFlight.eraseIdx i, a = .request q

/-- The last reply of a run, since the last change of selection, fitted. -/
def LastFits (s : TransactionsHook) (events : List TransactionsEvent) : Prop :=
  LabelledSystem.lastVerdict step fits s True events

variable {s : TransactionsHook}

theorem right_step (e : TransactionsEvent) : (s.step e).Right ↔ s.fits s.Right e := by
  rcases e with sel | ⟨i, reply⟩
  · refine iff_of_true (fun a ha ↦ ?_) trivial
    change sel.asks = some a at ha
    show (s.board.start sel.asks).Covers a
    rw [ha]
    exact Board.covers_start_self
  · rw [fits]
    rcases hquery : s.board.inFlight[i]? with - | query
    · rw [step, Board.settle_of_none hquery]
    · exact forall_congr' fun a ↦ imp_congr_right fun _ ↦ Board.covers_settle hquery

theorem right_mounted (sel : TransactionsSelection) : (mounted sel).Right := by
  intro a ha
  change sel.asks = some a at ha
  show (Board.empty.start sel.asks).Covers a
  rw [ha]
  exact Board.covers_start_self

/-- With nothing in flight and the accounts there, it is right to show what the selection asks
for. -/
theorem right_iff_answers (hquiet : s.board.inFlight = [])
    (hloaded : s.selection.filter.loading = false) :
    s.Right ↔ s.board.answers = s.selection.asks := by
  have hasks : ∃ a, s.selection.asks = some a := by
    rw [TransactionsSelection.asks, hloaded, if_neg Bool.false_ne_true]
    split
    · exact ⟨_, rfl⟩
    · exact ⟨_, rfl⟩
  obtain ⟨a, ha⟩ := hasks
  rw [Right, ha]
  simp only [Option.some.injEq, forall_eq', Board.covers_iff_of_quiet hquiet]

end TransactionsHook

namespace BudgetsHook

variable {s : BudgetsHook}

/-- A call of `load` that waits for the budgets will ask for this. -/
def Asking (loads : List BudgetsSelection) (a : Asked) : Prop :=
  ∃ sel ∈ loads, sel.asks = some a

/-- What the selection asks for is shown or awaited, or will be asked for. -/
def Right (s : BudgetsHook) : Prop :=
  ∀ a, s.selection.asks = some a → s.board.Covers a ∨ Asking s.budgetLoads a

/-- Whether the last reply fitted, after one more event. For the reply to a request it is as in
`useTransactions`. Budgets that arrive ask for what their call of `load` closed over: that fits if
the selection asks for the same, or if the hook becomes ready and then loads the selection's own
key. -/
def fits (s : BudgetsHook) (before : Prop) : BudgetsEvent → Prop
  | .select _ => True
  | .budgets i ok =>
    match s.budgetLoads[i]? with
    | none => before
    | some sel =>
      if ok then
        (s.budgetsReady = false ∧ sel.key ≠ s.selection.key) ∨
          ∀ a, s.selection.asks = some a → sel.asks = some a ∨
            (sel.asks ≠ some .nothing ∧ s.board.answers = some a) ∨ s.board.Awaits a ∨
              Asking (s.budgetLoads.eraseIdx i) a
      else
        ∀ a, s.selection.asks = some a → s.board.Covers a ∨ Asking (s.budgetLoads.eraseIdx i) a
  | .settle i reply =>
    match s.board.inFlight[i]? with
    | none => before
    | some query => ∀ a, s.selection.asks = some a →
      ((reply ≠ .error ∧ a = .request query) ∨
        ∃ q ∈ s.board.inFlight.eraseIdx i, a = .request q) ∨ Asking s.budgetLoads a

/-- The last reply of a run, since the last change of selection, fitted. -/
def LastFits (s : BudgetsHook) (events : List BudgetsEvent) : Prop :=
  LabelledSystem.lastVerdict step fits s True events

/-- Loading the transactions of the selection covers what it asks for. -/
theorem right_loadTransactions : (s.loadTransactions s.selection).Right := by
  intro a ha
  change s.selection.asks = some a at ha
  refine Or.inl ?_
  show (s.board.start s.selection.asks).Covers a
  rw [ha]
  exact Board.covers_start_self

theorem selection_effect : s.effect.selection = s.selection := by
  rw [effect]
  split <;> rfl

/-- After a change of selection, its transactions are awaited, or will be asked for. -/
theorem right_load : (s.load s.selection).Right := by
  rw [load]
  split
  · exact right_loadTransactions (s := { s with budgetsReady := true })
  · intro a ha
    exact Or.inr ⟨s.selection, List.mem_append_right _ (List.mem_singleton_self _), ha⟩

/-- When budgets arrive, the transactions that their call closed over are loaded. The effect loads
those of the selection, if the hook was not ready and the keys differ. -/
theorem right_budgetsArrived {i : ℕ} {sel : BudgetsSelection} :
    (s.budgetsArrived i sel).Right ↔ (s.budgetsReady = false ∧ sel.key ≠ s.selection.key) ∨
      ∀ a, s.selection.asks = some a → sel.asks = some a ∨
        (sel.asks ≠ some .nothing ∧ s.board.answers = some a) ∨ s.board.Awaits a ∨
          Asking (s.budgetLoads.eraseIdx i) a := by
  have hloaded : ((s.ready i).loadTransactions sel).Right ↔
      ∀ a, s.selection.asks = some a → sel.asks = some a ∨
        (sel.asks ≠ some .nothing ∧ s.board.answers = some a) ∨ s.board.Awaits a ∨
          Asking (s.budgetLoads.eraseIdx i) a := by
    refine forall_congr' fun a ↦ imp_congr_right fun _ ↦ ?_
    show (s.board.start sel.asks).Covers a ∨ Asking (s.budgetLoads.eraseIdx i) a ↔ _
    rw [Board.covers_start]
    simp only [or_assoc]
  rw [budgetsArrived]
  split
  · rename_i hready
    rw [hloaded, or_iff_right fun h ↦ absurd h.1 (by rw [hready]; exact nofun)]
  · rename_i hready
    rw [Bool.not_eq_true] at hready
    rw [effect]
    split
    · rename_i hkey
      exact iff_of_true right_loadTransactions
        (Or.inl ⟨hready, fun heq ↦ hkey.2 (congrArg some heq)⟩)
    · rename_i hkey
      have hsame : sel.key = s.selection.key := by
        by_contra hne
        exact hkey ⟨rfl, fun heq ↦ hne (Option.some.inj heq)⟩
      rw [hloaded, or_iff_right fun h ↦ absurd hsame h.2]

theorem right_step (e : BudgetsEvent) : (s.step e).Right ↔ s.fits s.Right e := by
  rcases e with sel | ⟨i, ok⟩ | ⟨i, reply⟩
  · refine iff_of_true ?_ trivial
    have hsel : ({ s with selection := sel } : BudgetsHook).effect.selection = sel :=
      selection_effect
    have hright := right_load (s := ({ s with selection := sel } : BudgetsHook).effect)
    rw [hsel] at hright
    exact hright
  · rw [step, fits]
    rcases s.budgetLoads[i]? with - | sel
    · exact Iff.rfl
    · rcases ok with - | -
      · exact Iff.rfl
      · exact right_budgetsArrived
  · rw [step, fits]
    rcases hquery : s.board.inFlight[i]? with - | query
    · rw [Board.settle_of_none hquery]
    · refine forall_congr' fun a ↦ imp_congr_right fun _ ↦ ?_
      exact or_congr_left (Board.covers_settle hquery)

theorem right_mounted (sel : BudgetsSelection) : (mounted sel).Right := by
  intro a ha
  exact Or.inr ⟨sel, List.mem_singleton_self _, ha⟩

theorem right_iff_answers (hquiet : s.board.inFlight = []) (hbudgets : s.budgetLoads = [])
    (hloaded : s.selection.filter.loading = false) :
    s.Right ↔ s.board.answers = s.selection.asks := by
  have hasks : ∃ a, s.selection.asks = some a := by
    rw [BudgetsSelection.asks, hloaded, if_neg Bool.false_ne_true]
    split
    · exact ⟨_, rfl⟩
    · exact ⟨_, rfl⟩
  obtain ⟨a, ha⟩ := hasks
  rw [Right, ha, hbudgets]
  simp only [Option.some.injEq, forall_eq', Board.covers_iff_of_quiet hquiet, Asking,
    List.not_mem_nil, false_and, exists_false, or_false]

end BudgetsHook

/-! ### What is shown in the end -/

/-- **When what is shown matches the selection.** For both hooks, from their first selection,
through every sequence of changes of selection and of replies in any order: once nothing is in
flight and the accounts are there, what is shown answers the last selection if and only if the last
reply since the last change of selection fitted. -/
theorem shows_iff (sel : TransactionsSelection) (events : List TransactionsEvent)
    (sel' : BudgetsSelection) (events' : List BudgetsEvent) :
    (∀ s, events.foldl TransactionsHook.step (TransactionsHook.mounted sel) = s →
      s.board.inFlight = [] → s.selection.filter.loading = false →
      (s.board.answers = s.selection.asks ↔ (TransactionsHook.mounted sel).LastFits events)) ∧
    ∀ s, events'.foldl BudgetsHook.step (BudgetsHook.mounted sel') = s →
      s.board.inFlight = [] → s.budgetLoads = [] → s.selection.filter.loading = false →
      (s.board.answers = s.selection.asks ↔ (BudgetsHook.mounted sel').LastFits events') := by
  constructor
  · rintro s rfl hquiet hloaded
    rw [← TransactionsHook.right_iff_answers hquiet hloaded]
    exact LabelledSystem.foldl_iff_lastVerdict (I := fun _ ↦ True) (fun _ _ _ ↦ trivial)
      (fun _ e _ ↦ TransactionsHook.right_step e) trivial
      (iff_of_true (TransactionsHook.right_mounted sel) trivial) events
  · rintro s rfl hquiet hbudgets hloaded
    rw [← BudgetsHook.right_iff_answers hquiet hbudgets hloaded]
    exact LabelledSystem.foldl_iff_lastVerdict (I := fun _ ↦ True) (fun _ _ _ ↦ trivial)
      (fun _ e _ ↦ BudgetsHook.right_step e) trivial
      (iff_of_true (BudgetsHook.right_mounted sel') trivial) events'

/-! ### January after February -/

/-- All accounts are selected, and there. -/
def oneAccount : AccountFilter where
  selectedAccountIds := ["a"]
  allAccountIds := ["a"]
  loading := false

/-- A month of `useTransactions`. -/
def transactionsOf (start «end» : String) : TransactionsSelection where
  start := start
  «end» := «end»
  selectedAccountId := none
  filter := oneAccount

/-- A month of `useBudgets`. -/
def budgetsOf (start «end» : String) : BudgetsSelection where
  start := start
  «end» := «end»
  filter := oneAccount

/-- A purchase on a day. -/
def purchaseOn (date : String) : Transaction where
  accountId := some "a"
  date := date
  amount := 500
  pending := some false
  category := { primary := "GROCERIES", detailed := none }
  accountType := "checking"
  provider := some "plaid"
  customCategory := none
  customSubcategory := none
  ruleCategory := none
  ruleSubcategory := none

/-- From January to February; the reply for January is the later one. -/
def lateTransactions : List TransactionsEvent :=
  [.select (transactionsOf "2025-02-01" "2025-02-28"), .settle 1 (.items [purchaseOn "2025-02-03"]),
    .settle 0 (.items [purchaseOn "2025-01-02"])]

/-- The same in `useBudgets`, where the change loads February twice. -/
def lateBudgets : List BudgetsEvent :=
  [.budgets 0 true, .select (budgetsOf "2025-02-01" "2025-02-28"),
    .settle 2 (.items [purchaseOn "2025-02-03"]), .settle 1 (.items [purchaseOn "2025-02-03"]),
    .settle 0 (.items [purchaseOn "2025-01-02"])]

/-- The hooks after these events. -/
def lateTransactionsHook : TransactionsHook :=
  lateTransactions.foldl TransactionsHook.step
    (TransactionsHook.mounted (transactionsOf "2025-01-01" "2025-01-31"))

def lateBudgetsHook : BudgetsHook :=
  lateBudgets.foldl BudgetsHook.step
    (BudgetsHook.mounted (budgetsOf "2025-01-01" "2025-01-31"))

theorem shows_iff_late :
    (lateTransactionsHook.board.answers = lateTransactionsHook.selection.asks ↔
      (TransactionsHook.mounted (transactionsOf "2025-01-01" "2025-01-31")).LastFits
        lateTransactions) ∧
    (lateBudgetsHook.board.answers = lateBudgetsHook.selection.asks ↔
      (BudgetsHook.mounted (budgetsOf "2025-01-01" "2025-01-31")).LastFits lateBudgets) :=
  have hshows := shows_iff (transactionsOf "2025-01-01" "2025-01-31") lateTransactions
    (budgetsOf "2025-01-01" "2025-01-31") lateBudgets
  ⟨hshows.1 _ rfl (by decide) (by decide), hshows.2 _ rfl (by decide) (by decide) (by decide)⟩

/-- **January is shown for February.** Nothing is in flight, February is selected, and the purchase
that is shown is January's. -/
theorem late_shows_january :
    (lateTransactionsHook.board.inFlight = [] ∧
      lateTransactionsHook.selection = transactionsOf "2025-02-01" "2025-02-28" ∧
      lateTransactionsHook.board.transactions = [purchaseOn "2025-01-02"] ∧
      lateTransactionsHook.board.answers ≠ lateTransactionsHook.selection.asks) ∧
    lateBudgetsHook.board.inFlight = [] ∧ lateBudgetsHook.budgetLoads = [] ∧
      lateBudgetsHook.selection = budgetsOf "2025-02-01" "2025-02-28" ∧
      lateBudgetsHook.board.transactions = [purchaseOn "2025-01-02"] ∧
      lateBudgetsHook.board.answers ≠ lateBudgetsHook.selection.asks := by
  decide

end Sumurai.Frontend
