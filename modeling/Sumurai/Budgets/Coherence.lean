import Sumurai.Budgets.Handlers

/-!
# Lists that reflect the writes

The list of budgets is cached for the user, and a write removes the entry after it has changed the
table. Between the two steps of a write, and between the read and the fill of a list, other requests
make theirs, so a list that was read before a write can be put into the cache after the write has
returned. A removal that the cache does not answer is passed over.

A run is a history of the pool of requests. A write has *returned* when its thread is done with
success, and is *written* from the moment its next call is the removal of the entry. A list
*reflects* a write when it was the list of the user at some moment at which the write was written.
`readsReflectWrites_of_guarded` says what is enough for every list request that starts after a write
has returned to answer with a list that reflects it: the entry is filled only with a list that
reflects the writes that have returned, and a removal that fails leaves only such an entry behind.
-/

open LabelledSystem Program

namespace Sumurai

/-! ### What the requests see -/

/-- The request writes budgets of the user. -/
def BudgetRequest.WritesOf (userId : Uuid) : BudgetRequest → Prop
  | getBudgets _ => False
  | createBudget owner _ _ _ | updateBudget owner _ _ _ | deleteBudget owner _ => owner = userId

/-- The `i`-th request writes budgets of the user. -/
def IsWrite (requests : List BudgetRequest) (userId : Uuid) (i : ℕ) : Prop :=
  ∃ request ∈ requests[i]?, request.WritesOf userId

/-- The `j`-th request lists the budgets of the user. -/
def IsList (requests : List BudgetRequest) (userId : Uuid) (j : ℕ) : Prop :=
  requests[j]? = some (.getBudgets userId)

/-- The answer of a write that succeeds. -/
def BudgetResponse.wrote : BudgetResponse → Bool
  | budget _ | deleted _ => true
  | budgets _ | failed _ _ _ => false

/-- The call removes the entry of a user. -/
def BudgetCall.invalidates : BudgetCall → Bool
  | invalidatePattern _ => true
  | _ => false

/-- The request has returned success. -/
def Returned (p : BudgetPool) (i : ℕ) : Prop :=
  ∃ response ∈ p.result i, response.wrote

/-- The request has changed the table: it has returned success, or its next call removes the entry
of the cache. -/
def Written (p : BudgetPool) (i : ℕ) : Prop :=
  Returned p i ∨ ∃ op ∈ p.nextCall i, op.invalidates

/-- A history of the pool. -/
abbrev BudgetHistory := History BudgetPool

/-- **A list reflects a write**: it was the list of the user at a moment at which the write was
written. -/
def Reflects (L : Locale) (userId : Uuid) (h : BudgetHistory) (i : ℕ) (budgets : List Budget) :
    Prop :=
  ∃ p ∈ h.moments, Written p i ∧ budgets = getBudgetsForUser L p.state.budgets userId

/-- **Reads reflect writes**: when a list request of the user had not started at a moment at which a
write of the user had returned, the list it answers with reflects the write. -/
def ReadsReflectWrites (L : Locale) (requests : List BudgetRequest) (userId : Uuid)
    (h : BudgetHistory) : Prop :=
  ∀ i j : ℕ, IsWrite requests userId i →
    IsList requests userId j →
    (∃ p ∈ h.moments, Returned p i ∧ p.threads[j]? = some (getAuthenticatedBudgets userId)) →
    ∀ budgets, h.now.result j = some (.budgets budgets) → Reflects L userId h i budgets

/-- The next call of a request keeps the entry of the user fresh: a fill that the cache answers
stores a list that reflects every write that has returned, and a removal that the cache does not
answer leaves a list that reflects the write it belongs to. -/
def KeepsEntryFresh (L : Locale) (requests : List BudgetRequest) (userId : Uuid)
    (h : BudgetHistory) (l : ℕ × BudgetReply) : Prop :=
  match h.now.nextCall l.1 with
  | some (.setWithTtl owner budgets) =>
    owner = userId → l.2.cacheError = none → ∀ i < requests.length, IsWrite requests userId i →
      Returned h.now i → Reflects L userId h i budgets
  | some (.invalidatePattern owner) =>
    owner = userId → l.2.cacheError ≠ none →
      ∀ budgets ∈ h.now.state.cache.lookup userId, Reflects L userId h l.1 budgets
  | _ => True

section Decidable

variable {L : Locale} {requests : List BudgetRequest} {userId : Uuid} {h : BudgetHistory} {i : ℕ}

instance : DecidablePred (BudgetRequest.WritesOf userId)
  | .getBudgets _ => inferInstanceAs (Decidable False)
  | .createBudget owner _ _ _ | .updateBudget owner _ _ _ | .deleteBudget owner _ =>
    inferInstanceAs (Decidable (owner = userId))

instance : Decidable (IsWrite requests userId i) :=
  inferInstanceAs (Decidable (∃ request ∈ requests[i]?, request.WritesOf userId))

instance {p : BudgetPool} : Decidable (Returned p i) :=
  inferInstanceAs (Decidable (∃ response ∈ p.result i, response.wrote))

instance {p : BudgetPool} : Decidable (Written p i) :=
  inferInstanceAs (Decidable (Returned p i ∨ ∃ op ∈ p.nextCall i, op.invalidates))

instance {budgets : List Budget} : Decidable (Reflects L userId h i budgets) :=
  inferInstanceAs (Decidable (∃ p ∈ h.moments,
    Written p i ∧ budgets = getBudgetsForUser L p.state.budgets userId))

instance {l : ℕ × BudgetReply} : Decidable (KeepsEntryFresh L requests userId h l) := by
  unfold KeepsEntryFresh
  split <;> infer_instance

end Decidable

/-! ### The threads of a user -/

/-- Success is reached only by way of the removal of the entry. -/
def InvalidatesBeforeSuccess (userId : Uuid) (p : BudgetProgram BudgetResponse) : Prop :=
  p.Through (fun op ↦ op = .invalidatePattern userId) fun response ↦ response.wrote

/-- The fill of the entry, with the list that is then returned. -/
def fillAndReturn (userId : Uuid) (budgets : List Budget) : BudgetProgram BudgetResponse := do
  let _ ← performBudget (.setWithTtl userId budgets)
  return .budgets budgets

/-- Where a list request can be. -/
inductive ListThread (userId : Uuid) : BudgetProgram BudgetResponse → Prop
  | start : ListThread userId (getAuthenticatedBudgets userId)
  | miss : ListThread userId (fetchBudgets userId)
  | fill (budgets : List Budget) : ListThread userId (fillAndReturn userId budgets)
  | finished (response : BudgetResponse) : ListThread userId (.done response)

section Threads

variable {parseStr : String → Option Uuid} {userId : Uuid}

theorem invalidatesBeforeSuccess_respond {α : Type} {success : α → BudgetResponse}
    {failure : String → BudgetResponse} (hfailure : ∀ e, (failure e).wrote = false)
    (result : Except String α) :
    InvalidatesBeforeSuccess userId (invalidateAndRespond userId success failure result) := by
  cases result with
  | ok a => exact Or.inl ⟨rfl, fun _ ↦ ⟨_, rfl⟩⟩
  | error e =>
    show ¬ (failure e).wrote
    simp [hfailure]

theorem createFailure_wrote (e : String) : (createFailure e).wrote = false := by
  unfold createFailure
  split_ifs <;> rfl

theorem updateFailure_wrote (e : String) : (updateFailure e).wrote = false := by
  unfold updateFailure
  split_ifs <;> rfl

theorem deleteFailure_wrote (e : String) : (deleteFailure e).wrote = false := by
  unfold deleteFailure
  split_ifs <;> rfl

/-- A write reaches success only by way of the removal of the entry of its user. -/
theorem invalidatesBeforeSuccess_serveBudget {request : BudgetRequest}
    (h : request.WritesOf userId) :
    InvalidatesBeforeSuccess userId (serveBudget parseStr request) := by
  cases request with
  | getBudgets owner => exact h.elim
  | createBudget owner category amount options =>
    obtain rfl : owner = userId := h
    exact Through.bind fun result ↦
      invalidatesBeforeSuccess_respond createFailure_wrote result
  | updateBudget owner budgetId amount options =>
    obtain rfl : owner = userId := h
    show InvalidatesBeforeSuccess owner (updateAuthenticatedBudget parseStr owner budgetId _ _)
    unfold updateAuthenticatedBudget
    split
    · exact Bool.false_ne_true
    · exact Through.bind fun result ↦
        invalidatesBeforeSuccess_respond updateFailure_wrote result
  | deleteBudget owner budgetId =>
    obtain rfl : owner = userId := h
    show InvalidatesBeforeSuccess owner (deleteAuthenticatedBudget parseStr owner budgetId)
    unfold deleteAuthenticatedBudget
    split
    · exact Bool.false_ne_true
    · exact Through.bind fun result ↦
        invalidatesBeforeSuccess_respond deleteFailure_wrote result

end Threads

/-! ### What every guarded step keeps -/

/-- The invariant of a guarded run. -/
structure FreshHistory (L : Locale) (requests : List BudgetRequest) (userId : Uuid)
    (h : BudgetHistory) : Prop where
  /-- A write that has not returned gets to success by way of the removal of the entry. -/
  writes : ∀ (i : ℕ) p, IsWrite requests userId i →
    h.now.threads[i]? = some p → InvalidatesBeforeSuccess userId p ∨ ∃ response, p = .done response
  lists : ∀ (j : ℕ) p, IsList requests userId j → h.now.threads[j]? = some p →
    ListThread userId p
  /-- What has returned stays returned. -/
  returned : ∀ p ∈ h.moments, ∀ i, Returned p i → Returned h.now i
  /-- The entry reflects every write that has returned. -/
  entry : ∀ i, IsWrite requests userId i → Returned h.now i →
    ∀ budgets, h.now.state.cache.lookup userId = some budgets → Reflects L userId h i budgets
  /-- So does every list that was read after the write had returned. -/
  reads : ∀ i j : ℕ, IsWrite requests userId i →
    IsList requests userId j →
    (∃ p ∈ h.moments, Returned p i ∧ p.threads[j]? = some (getAuthenticatedBudgets userId)) →
    ∀ budgets, h.now.threads[j]? = some (.done (.budgets budgets)) ∨
      h.now.threads[j]? = some (fillAndReturn userId budgets) → Reflects L userId h i budgets

section Step

variable {L : Locale} {parseStr : String → Option Uuid} {requests : List BudgetRequest}
  {userId : Uuid} {h : BudgetHistory} {l : ℕ × BudgetReply} {i : ℕ} {budgets : List Budget}

theorem returned_iff {p : BudgetPool} :
    Returned p i ↔ ∃ response, p.threads[i]? = some (.done response) ∧ response.wrote := by
  simp only [Returned, Option.mem_def, Pool.result_eq_some_iff]

theorem IsWrite.lt_length (hi : IsWrite requests userId i) : i < requests.length := by
  obtain ⟨request, hrequest, -⟩ := hi
  exact (List.getElem?_eq_some_iff.1 hrequest).1

theorem Reflects.step (hr : Reflects L userId h i budgets) :
    Reflects L userId (h.step (budgetStep L) l) i budgets := by
  obtain ⟨p, hp, hwritten, hbudgets⟩ := hr
  exact ⟨p, History.mem_moments_step hp, hwritten, hbudgets⟩

theorem Returned.step {p : BudgetPool} (hr : Returned p i) : Returned (budgetStep L p l) i := by
  obtain ⟨response, hdone, hwrote⟩ := returned_iff.1 hr
  exact returned_iff.2 ⟨response, Pool.done_step (budgetExec L) hdone, hwrote⟩

/-- The threads of a history at its beginning are the programs of the requests. -/
theorem thread_serving {w : BudgetWorld} {q : BudgetProgram BudgetResponse}
    (h : (serving parseStr requests w).threads[i]? = some q) :
    ∃ request ∈ requests[i]?, q = serveBudget parseStr request := by
  rw [serving, List.getElem?_map, Option.map_eq_some_iff] at h
  obtain ⟨request, hrequest, rfl⟩ := h
  exact ⟨request, hrequest, rfl⟩

/-- No write has returned at the beginning. -/
theorem not_returned_serving {w : BudgetWorld} (hi : IsWrite requests userId i) :
    ¬ Returned (serving parseStr requests w) i := by
  intro hreturned
  obtain ⟨response, hdone, hwrote⟩ := returned_iff.1 hreturned
  obtain ⟨request, hrequest, hserve⟩ := thread_serving hdone
  obtain ⟨request', hrequest', hwrites⟩ := hi
  obtain rfl := Option.mem_unique hrequest hrequest'
  have hfailed : InvalidatesBeforeSuccess userId (.done response) := by
    rw [hserve]
    exact invalidatesBeforeSuccess_serveBudget hwrites
  exact hfailed hwrote

theorem FreshHistory.begin (L : Locale) (parseStr : String → Option Uuid)
    (requests : List BudgetRequest) (userId : Uuid) (w : BudgetWorld) :
    FreshHistory L requests userId (History.start (serving parseStr requests w)) where
  writes i q hi hq := by
    obtain ⟨request, hrequest, rfl⟩ := thread_serving hq
    obtain ⟨request', hrequest', hwrites⟩ := hi
    obtain rfl := Option.mem_unique hrequest hrequest'
    exact Or.inl (invalidatesBeforeSuccess_serveBudget hwrites)
  lists j q hj hq := by
    obtain ⟨request, hrequest, rfl⟩ := thread_serving hq
    rw [IsList, hrequest] at hj
    obtain rfl := Option.some.inj hj
    exact ListThread.start
  returned p hp i hi := by
    rw [History.moments_start, List.mem_singleton] at hp
    rw [History.now_start, ← hp]
    exact hi
  entry i hi hreturned := absurd hreturned (not_returned_serving hi)
  reads i j hi hj hbefore := by
    obtain ⟨p, hp, hreturned, -⟩ := hbefore
    rw [History.moments_start, List.mem_singleton] at hp
    rw [hp] at hreturned
    exact absurd hreturned (not_returned_serving hi)

/-- A call that the cache does not answer changes nothing. -/
theorem BudgetWorld.ask_cases {α : Type} (w : BudgetWorld) (error : Option String)
    (result : BudgetWorld × α) :
    error = none ∧ (w.ask error result).1 = result.1 ∨
      error ≠ none ∧ (w.ask error result).1 = w := by
  cases error with
  | none => exact Or.inl ⟨rfl, rfl⟩
  | some e => exact Or.inr ⟨by simp, rfl⟩

theorem BudgetWorld.statement_cache {α : Type} (w : BudgetWorld) (error : Option String)
    (result : Except String (List Budget × α)) : (w.statement error result).1.cache = w.cache := by
  match error, result with
  | some _, _ | none, .error _ | none, .ok _ => rfl

/-- What a call can leave in the entry of the user: what was there, unless it removes the entry, or
the list that it fills in. -/
theorem lookup_budgetExec {op : BudgetCall} {e : BudgetReply} {w : BudgetWorld}
    (h : (budgetExec L op e w).1.cache.lookup userId = some budgets) :
    (w.cache.lookup userId = some budgets ∧
      (op = .invalidatePattern userId → e.cacheError ≠ none)) ∨
      op = .setWithTtl userId budgets ∧ e.cacheError = none := by
  cases op with
  | getString owner =>
    refine Or.inl ⟨?_, by simp⟩
    rw [budgetExec] at h
    split at h
    · rcases w.ask_cases e.cacheError
        ({ w with cache := w.cache.filter fun entry ↦ entry.1 ≠ owner },
          (none : Option (List Budget))) with ⟨-, hw⟩ | ⟨-, hw⟩
      · rw [hw, AssocMap.lookup_filter_ne] at h
        split at h
        · cases h
        · exact h
      · rwa [hw] at h
    · rcases w.ask_cases e.cacheError (w, w.cache.lookup owner) with ⟨-, hw⟩ | ⟨-, hw⟩ <;>
        rwa [hw] at h
  | setWithTtl owner filled =>
    rcases w.ask_cases e.cacheError
      ({ w with cache := AssocMap.insert owner filled w.cache }, ()) with ⟨hup, hw⟩ | ⟨-, hw⟩
    · rw [budgetExec, hw, AssocMap.lookup_insert] at h
      split at h
      · rename_i huser
        rw [huser, Option.some.inj h]
        exact Or.inr ⟨rfl, hup⟩
      · exact Or.inl ⟨h, by simp⟩
    · rw [budgetExec, hw] at h
      exact Or.inl ⟨h, by simp⟩
  | invalidatePattern owner =>
    rcases w.ask_cases e.cacheError
      ({ w with cache := w.cache.filter fun entry ↦ entry.1 ≠ owner }, ()) with
      ⟨-, hw⟩ | ⟨hdown, hw⟩
    · rw [budgetExec, hw, AssocMap.lookup_filter_ne] at h
      split at h
      · cases h
      · rename_i huser
        refine Or.inl ⟨h, fun heq ↦ absurd ?_ huser⟩
        exact (BudgetCall.invalidatePattern.inj heq).symm
    · rw [budgetExec, hw] at h
      exact Or.inl ⟨h, fun _ ↦ hdown⟩
  | newBudget => exact Or.inl ⟨h, by simp⟩
  | getBudgetsForUser owner =>
    rw [budgetExec] at h
    rcases w.ask_cases e.databaseError (w, Sumurai.getBudgetsForUser L w.budgets owner) with
      ⟨-, hw⟩ | ⟨-, hw⟩ <;>
    · rw [hw] at h
      exact Or.inl ⟨h, by simp⟩
  | createBudgetForUser | updateBudgetForUser | deleteBudgetForUser =>
    rw [budgetExec, BudgetWorld.statement_cache] at h
    exact Or.inl ⟨h, by simp⟩

theorem getString_answer {e : BudgetReply} {w : BudgetWorld} {cached : List Budget}
    (h : (budgetExec L (.getString userId) e w).2 = .ok (some cached)) :
    w.cache.lookup userId = some cached := by
  rw [budgetExec] at h
  cases hup : e.cacheError with
  | some error =>
    rw [hup] at h
    split at h <;> cases h
  | none =>
    rw [hup] at h
    split at h
    · cases Except.ok.inj h
    · exact Except.ok.inj h

/-- **Where a list request gets its list from**: from the entry, from the table, or from the read it
has made before. -/
theorem ListThread.next {op : BudgetCall} {next : op.Answer → BudgetProgram BudgetResponse}
    (hlist : ListThread userId (.call op next)) (e : BudgetReply) (w : BudgetWorld) :
    ListThread userId (next (budgetExec L op e w).2) ∧
      ∀ budgets, next (budgetExec L op e w).2 = .done (.budgets budgets) ∨
        next (budgetExec L op e w).2 = fillAndReturn userId budgets →
          w.cache.lookup userId = some budgets ∨
          budgets = getBudgetsForUser L w.budgets userId ∨
          (.call op next : BudgetProgram _) = fillAndReturn userId budgets := by
  generalize hq : (.call op next : BudgetProgram BudgetResponse) = q at hlist
  cases hlist with
  | start =>
    cases hq
    have hhit : ∀ cached, (budgetExec L (.getString userId) e w).2 = .ok (some cached) →
        w.cache.lookup userId = some cached := by
      intro cached hr
      exact getString_answer hr
    match (budgetExec L (.getString userId) e w).2, hhit with
    | .ok (some cached), hhit =>
      exact ⟨ListThread.finished _, by
        rintro _ (hdone | hdone) <;> cases hdone
        exact Or.inl (hhit _ rfl)⟩
    | .ok none, _ | .error _, _ =>
      exact ⟨ListThread.miss, by
        rintro _ (hdone | hdone) <;> cases hdone⟩
  | miss =>
    cases hq
    rw [budgetExec]
    rcases e.databaseError with - | error
    · exact ⟨ListThread.fill _, by
        rintro _ (hdone | hdone) <;> cases hdone
        exact Or.inr (Or.inl rfl)⟩
    · exact ⟨ListThread.finished _, by
        rintro _ (hdone | hdone) <;> cases hdone⟩
  | fill filled =>
    cases hq
    exact ⟨ListThread.finished _, by
      rintro _ (hdone | hdone) <;> cases hdone
      exact Or.inr (Or.inr rfl)⟩
  | finished response => cases hq

/-- How a write comes to have returned: it had returned, or it has made the removal. -/
theorem FreshHistory.returned_step (hfresh : FreshHistory L requests userId h)
    (hi : IsWrite requests userId i) (hreturned : Returned (budgetStep L h.now l) i) :
    Returned h.now i ∨ i = l.1 ∧
      ∃ next, h.now.threads[i]? = some (.call (.invalidatePattern userId) next) := by
  obtain ⟨response, hdone, hwrote⟩ := returned_iff.1 hreturned
  rcases (Pool.through_step (budgetExec L) fun q ↦ hfresh.writes i q hi).2 response hdone hwrote
    with hsame | ⟨hil, op, next, rfl, hthread⟩
  · exact Or.inl (returned_iff.2 ⟨response, hsame, hwrote⟩)
  · exact Or.inr ⟨hil, next, hthread⟩

/-- The entry after a guarded step. -/
theorem FreshHistory.entry_step (hfresh : FreshHistory L requests userId h)
    (hl : KeepsEntryFresh L requests userId h l) (hi : IsWrite requests userId i)
    (hreturned : Returned (budgetStep L h.now l) i)
    (hentry : (budgetStep L h.now l).state.cache.lookup userId = some budgets) :
    Reflects L userId h i budgets := by
  have hbefore := hfresh.returned_step hi hreturned
  rcases h.now.step_cases (budgetExec L) l with hsame | ⟨op, next, hthread, hcall⟩
  · rw [budgetStep, hsame] at hentry hreturned
    exact hfresh.entry i hi hreturned budgets hentry
  · rw [budgetStep, hcall] at hentry
    rw [KeepsEntryFresh, Pool.nextCall_eq_some_iff.2 ⟨next, hthread⟩] at hl
    rcases lookup_budgetExec hentry with ⟨hentry', hinvalidate⟩ | ⟨rfl, hanswered⟩
    · rcases hbefore with hreturned' | ⟨rfl, next', hthread'⟩
      · exact hfresh.entry i hi hreturned' budgets hentry'
      · -- the write has just made its removal, and the cache did not answer
        rw [hthread] at hthread'
        cases hthread'
        exact hl rfl (hinvalidate rfl) budgets hentry'
    · rcases hbefore with hreturned' | ⟨rfl, next', hthread'⟩
      · exact hl rfl hanswered i hi.lt_length hi hreturned'
      · rw [hthread] at hthread'
        cases hthread'

/-- **Every guarded step keeps the invariant.** -/
theorem FreshHistory.step (hfresh : FreshHistory L requests userId h)
    (hl : KeepsEntryFresh L requests userId h l) :
    FreshHistory L requests userId (h.step (budgetStep L) l) where
  writes i q hi hq := (Pool.through_step (budgetExec L) fun q ↦ hfresh.writes i q hi).1 q hq
  lists j q hj hq := by
    rcases Pool.thread_of_step (budgetExec L) hq with hsame | ⟨op, next, -, hthread, rfl⟩
    · exact hfresh.lists j q hj hsame
    · exact ((hfresh.lists j _ hj hthread).next _ _).1
  returned p hp i hi := by
    rcases List.mem_cons.1 hp with rfl | hp
    · exact hi
    · exact (hfresh.returned p hp i hi).step
  entry i hi hreturned budgets hentry := (hfresh.entry_step hl hi hreturned hentry).step
  reads i j hi hj hbefore budgets hread := by
    obtain ⟨p, hp, hreturned, hstart⟩ := hbefore
    rcases List.mem_cons.1 hp with rfl | hp
    · -- a request that has not started has no list
      rw [hstart] at hread
      rcases hread with hread | hread <;> cases Option.some.inj hread
    have hnow : Returned h.now i := hfresh.returned p hp i hreturned
    refine Reflects.step ?_
    have hold := hfresh.reads i j hi hj ⟨p, hp, hreturned, hstart⟩ budgets
    obtain ⟨q, hq, hlist⟩ : ∃ q, (budgetStep L h.now l).threads[j]? = some q ∧
        (q = .done (.budgets budgets) ∨ q = fillAndReturn userId budgets) := by
      rcases hread with hread | hread
      · exact ⟨_, hread, Or.inl rfl⟩
      · exact ⟨_, hread, Or.inr rfl⟩
    rcases Pool.thread_of_step (budgetExec L) hq with hsame | ⟨op, next, -, hthread, rfl⟩
    · refine hold ?_
      rw [hsame]
      rcases hlist with rfl | rfl
      · exact Or.inl rfl
      · exact Or.inr rfl
    · rcases ((hfresh.lists j _ hj hthread).next l.2 h.now.state).2 budgets hlist with
        hentry | htable | hfill
      · exact hfresh.entry i hi hnow budgets hentry
      · exact ⟨h.now, History.now_mem_moments, Or.inl hnow, htable⟩
      · exact hold (Or.inr (by rw [hthread, hfill]))

end Step

/-- **Reads reflect writes where the entry is kept fresh.** Let any requests of any users interleave
on any table and any cache. When every step keeps the entry of the user fresh, then in every state
every list request of the user that started after a write of the user had returned has answered, if
it has answered with a list, with one that reflects the write. -/
theorem readsReflectWrites_of_guarded (L : Locale) (parseStr : String → Option Uuid)
    (requests : List BudgetRequest) (userId : Uuid) (w : BudgetWorld)
    (steps : List (ℕ × BudgetReply))
    (hsteps : Guarded (History.step (budgetStep L)) (KeepsEntryFresh L requests userId)
      (History.start (serving parseStr requests w)) steps) :
    Throughout (History.step (budgetStep L)) (ReadsReflectWrites L requests userId)
      (History.start (serving parseStr requests w)) steps := by
  refine hsteps.throughout (I := FreshHistory L requests userId) (fun h l ↦ FreshHistory.step)
    (fun h hfresh ↦ ?_) (FreshHistory.begin L parseStr requests userId w)
  intro i j hi hj hbefore budgets hdone
  exact hfresh.reads i j hi hj hbefore budgets (Or.inl (Pool.result_eq_some_iff.1 hdone))

/-- A list after a creation. -/
theorem readsReflectWrites_in_sequence :
    Throughout (History.step (budgetStep Locale.c))
      (ReadsReflectWrites Locale.c
        [.createBudget 7 "Food" 100 ⟨none, none, none⟩, .getBudgets 7] 7)
      (History.start (serving (fun _ ↦ none)
        [.createBudget 7 "Food" 100 ⟨none, none, none⟩, .getBudgets 7] ⟨[], [(7, [])]⟩))
      [(0, answeringBudgetReply), (0, answeringBudgetReply), (0, answeringBudgetReply),
        (0, answeringBudgetReply), (1, answeringBudgetReply), (1, answeringBudgetReply),
        (1, answeringBudgetReply)] :=
  readsReflectWrites_of_guarded Locale.c (fun _ ↦ none) _ 7 _ _ (by decide)

/-- **A list that has lost the write.** A list request reads the table; a creation inserts, removes
the entry and returns; the list request fills the entry with what it had read. The next list request
finds the entry and answers that there are no budgets. -/
theorem slow_reader_hides_creation :
    let requests : List BudgetRequest :=
      [.getBudgets 7, .createBudget 7 "Food" 100 ⟨none, none, none⟩, .getBudgets 7]
    let last := [(0, answeringBudgetReply), (0, answeringBudgetReply), (1, answeringBudgetReply),
        (1, answeringBudgetReply), (1, answeringBudgetReply), (1, answeringBudgetReply),
        (0, answeringBudgetReply), (2, answeringBudgetReply)].foldl
      (History.step (budgetStep Locale.c))
      (History.start (serving (fun _ ↦ none) requests ⟨[], []⟩))
    last.now.result 2 = some (.budgets []) ∧
      ¬ ReadsReflectWrites Locale.c requests 7 last := by
  intro requests last
  have hanswer : last.now.result 2 = some (.budgets []) := by decide
  refine ⟨hanswer, fun hreflect ↦ ?_⟩
  have hlist : Reflects Locale.c 7 last 1 [] := by
    refine hreflect 1 2 (by decide) rfl ?_ [] hanswer
    -- the moment before the late fill
    exact ⟨_, List.mem_cons_of_mem _ (List.mem_cons_of_mem _ List.mem_cons_self), by decide, rfl⟩
  revert hlist
  decide

end Sumurai
