import Sumurai.Foundations.Pages
import Sumurai.Foundations.Runs
import Sumurai.Frontend.DuplicateCandidates
import Sumurai.Frontend.Selections

/-!
# The page of transactions

`features/transactions/hooks/useTransactions.ts`: the state of the page, what the user and the
responses of the server do to it, and the effects that run after each of these until the page has
settled. Effects see the state that was rendered; what they set is put together, and the later one
of two wins.

Three rounds of effects are enough (`steady_settle`). Whatever has happened in whatever order, the
page that has settled is one of those that there are, and what it lists is what the selections ask
for (`shows_run`). Which page that is after a filter has changed depends on the page before it
(`currentPage_step`): the first one, unless there are fewer pages now than that.
-/

namespace Sumurai.Frontend

open Paging

/-- What the effect that goes back to the first page depends on. The month and the accounts are
objects, which are told apart by when they were made. -/
structure SeenFilters where
  selectedCategory : Option String
  selectedSubcategory : Option String
  debouncedSearch : String
  period : ℕ
  selectedAccountIds : ℕ
  selectedAccountId : Option String
deriving DecidableEq, Repr

/-- What the effect that loads depends on. -/
structure SeenLoad where
  accountFilter : ℕ
  selectedAccountId : Option String
  monthRange : List Char × List Char
deriving DecidableEq, Repr

/-- The state of `useTransactions`. -/
structure TransactionsState where
  isLoading : Bool
  error : Option String
  all : List PageTransaction
  debouncedSearch : String
  selectedCategory : Option String
  selectedSubcategory : Option String
  monthRange : List Char × List Char
  period : ℕ
  accountFilter : AccountFilter
  accountFilterMade : ℕ
  selectionMade : ℕ
  accountOptions : List String
  selectedAccountId : Option String
  currentPage : ℕ
  prevCategory : Option String
  seenFilters : Option SeenFilters
  seenLoad : Option SeenLoad
deriving DecidableEq, Repr

/-- What the page is given: the size of a page, the case mapping, and how the browser reads
dates. -/
structure PageSetting where
  pageSize : ℕ
  pageSize_pos : 0 < pageSize
  M : CaseMapping
  parsed : String → Option (ℤ × ℕ × ℕ)
  parseOther : String → Option ℤ

namespace TransactionsState

variable (P : PageSetting) (s : TransactionsState)

/-! ### What is rendered -/

/-- `filtered`. -/
def filtered : List PageTransaction :=
  pageFiltered P.M P.parsed s.all s.debouncedSearch s.monthRange.1 s.monthRange.2
    s.selectedCategory s.selectedSubcategory

/-- `duplicateCandidateIds`. -/
def duplicateCandidateIds : List String :=
  Frontend.duplicateCandidateIds P.M P.parseOther (s.filtered P)

/-- `activeTransactions`. -/
def activeTransactions : List PageTransaction :=
  Frontend.activeTransactions P.M P.parseOther (s.filtered P)

/-- `availableCategories`, before they are sorted by name. -/
def availableCategories : List String :=
  Frontend.availableCategories P.M P.parsed (s.all.map PageTransaction.toListedTransaction)
    s.debouncedSearch s.monthRange.1 s.monthRange.2

/-- `totalPages`. -/
def totalPages : ℕ :=
  pageCount P.pageSize (s.activeTransactions P).length

/-- `pageItems`. -/
def pageItems : List PageTransaction :=
  page P.pageSize (s.currentPage - 1) (s.activeTransactions P)

/-- What the effect that goes back to the first page sees. -/
def filters : SeenFilters where
  selectedCategory := s.selectedCategory
  selectedSubcategory := s.selectedSubcategory
  debouncedSearch := s.debouncedSearch
  period := s.period
  selectedAccountIds := s.selectionMade
  selectedAccountId := s.selectedAccountId

/-- What the effect that loads sees. -/
def loadKey : SeenLoad where
  accountFilter := s.accountFilterMade
  selectedAccountId := s.selectedAccountId
  monthRange := s.monthRange

/-! ### Loading -/

/-- `load`, up to the request. With no account selected there is none. -/
def load (isSilent : Bool) : TransactionsState :=
  if s.accountFilter.loading then s
  else
    let s := { s with error := none }
    if s.accountFilter.selectsNone then
      { s with all := [], isLoading := if isSilent then s.isLoading else false }
    else { s with isLoading := if isSilent then s.isLoading else true }

/-- The rest of `load`, with the transactions or the status of an error. -/
def loaded (isSilent : Bool) (response : List PageTransaction ⊕ Option ℕ) : TransactionsState :=
  let s := match response with
    | .inl txns => { s with all := txns }
    | .inr status =>
      { s with
        error := some
          (if status = some 401 then "You are not authenticated. Please log in again."
            else "Failed to load transactions.")
        all := [] }
  { s with isLoading := if isSilent then s.isLoading else false }

/-! ### Effects -/

/-- The condition under which a selected category is dropped. -/
def dropsCategory : Bool :=
  isTruthy s.selectedCategory && !s.isLoading && (s.availableCategories P ≠ [] &&
    !(s.availableCategories P).any fun c ↦
      P.M.lowerCase c.toList = P.M.lowerCase (s.selectedCategory.getD "").toList)

/-- The condition under which a selected account is dropped. -/
def dropsAccount : Bool :=
  isTruthy s.selectedAccountId && (s.accountOptions ≠ [] &&
    !(s.accountOptions.any fun account ↦ some account = s.selectedAccountId))

/-- One round of effects after the state was rendered. -/
def flush : TransactionsState :=
  let loading := if some s.loadKey ≠ s.seenLoad then s.load false else s
  { loading with
    selectedCategory := if s.dropsCategory P then none else s.selectedCategory
    selectedSubcategory :=
      if s.prevCategory ≠ s.selectedCategory ∨ s.dropsCategory P then none
      else s.selectedSubcategory
    selectedAccountId := if s.dropsAccount then none else s.selectedAccountId
    currentPage :=
      if s.totalPages P < s.currentPage then s.totalPages P
      else if some s.filters ≠ s.seenFilters then 1 else s.currentPage
    prevCategory := s.selectedCategory
    seenFilters := some s.filters
    seenLoad := some s.loadKey }

/-- The effects, until the page has settled. -/
def settle : TransactionsState :=
  ((s.flush P).flush P).flush P

end TransactionsState

/-! ### Events -/

/-- What happens to the page. A new account filter comes with a new selection or with the one that
was there. -/
inductive PageEvent where
  | search (debounced : String)
  | category (selected : Option String)
  | subcategory (selected : Option String)
  | period (monthRange : List Char × List Char)
  | accounts (accountFilter : AccountFilter) (newSelection : Bool)
  | accountOptions (accounts : List String)
  | account (selected : Option String)
  | prev
  | next
  | load (isSilent : Bool)
  | response (isSilent : Bool) (response : List PageTransaction ⊕ Option ℕ)
  | edited (f : PageTransaction → PageTransaction)
  | marked (transactionId : String)

namespace TransactionsState

variable (P : PageSetting) (s : TransactionsState)

/-- What an event does before the effects. The loaded transactions are edited when a category was
set, and lose the one that was marked as a duplicate. -/
def apply : PageEvent → TransactionsState
  | .search debounced => { s with debouncedSearch := debounced }
  | .category selected => { s with selectedCategory := selected, selectedSubcategory := none }
  | .subcategory selected => { s with selectedSubcategory := selected }
  | .period monthRange => { s with monthRange := monthRange, period := s.period + 1 }
  | .accounts accountFilter newSelection =>
    { s with
      accountFilter := accountFilter
      accountFilterMade := s.accountFilterMade + 1
      selectionMade := if newSelection then s.selectionMade + 1 else s.selectionMade }
  | .accountOptions accounts => { s with accountOptions := accounts }
  | .account selected => { s with selectedAccountId := selected }
  | .prev => { s with currentPage := max 1 (s.currentPage - 1) }
  | .next => { s with currentPage := min (s.totalPages P) (s.currentPage + 1) }
  | .load isSilent => s.load isSilent
  | .response isSilent response => s.loaded isSilent response
  | .edited f => { s with all := s.all.map f }
  | .marked transactionId => { s with all := s.all.filter fun t ↦ t.id ≠ transactionId }

/-- An event, and the effects after it. -/
def step (event : PageEvent) : TransactionsState :=
  (s.apply P event).settle P

/-- The page when it is first rendered. -/
def mount (initialCategory initialAccountId : Option String) (monthRange : List Char × List Char)
    (accountFilter : AccountFilter) (accountOptions : List String) : TransactionsState where
  isLoading := false
  error := none
  all := []
  debouncedSearch := ""
  selectedCategory := initialCategory
  selectedSubcategory := none
  monthRange := monthRange
  period := 0
  accountFilter := accountFilter
  accountFilterMade := 0
  selectionMade := 0
  accountOptions := accountOptions
  selectedAccountId := initialAccountId
  currentPage := 1
  prevCategory := initialCategory
  seenFilters := none
  seenLoad := none

end TransactionsState

/-! ### Settling -/

namespace TransactionsState

variable {P : PageSetting} {s : TransactionsState}

/-- Nothing is left to be done but to keep to the pages that there are. -/
structure Quiet (P : PageSetting) (s : TransactionsState) : Prop where
  category : s.dropsCategory P = false
  account : s.dropsAccount = false
  load : some s.loadKey = s.seenLoad
  filters : some s.filters = s.seenFilters
  prevCategory : s.prevCategory = s.selectedCategory

theorem Quiet.flush_eq (h : Quiet P s) : s.flush P = { s with
    currentPage := if s.totalPages P < s.currentPage then s.totalPages P else s.currentPage } := by
  unfold flush
  simp only [h.category, h.account, h.load, h.filters, h.prevCategory, ne_eq, not_true, if_false,
    Bool.false_eq_true, or_self]

/-- A load that starts is loading, or there is nothing to load. -/
theorem load_cases (s : TransactionsState) : s.load false = s ∨ (s.load false).all = [] ∨
    (s.load false).isLoading = true := by
  unfold load
  split
  · exact .inl rfl
  · dsimp only
    split
    · exact .inr (.inl rfl)
    · exact .inr (.inr rfl)

/-- A load touches what is loaded only. -/
theorem load_eq (s : TransactionsState) (isSilent : Bool) : s.load isSilent = { s with
    all := (s.load isSilent).all
    isLoading := (s.load isSilent).isLoading
    error := (s.load isSilent).error } := by
  unfold load
  split
  · rfl
  · dsimp only
    split <;> rfl

/-- A round leaves alone what the user has set and no effect sets. -/
theorem flush_eq (s : TransactionsState) : s.flush P = { s with
    all := (s.flush P).all
    isLoading := (s.flush P).isLoading
    error := (s.flush P).error
    selectedCategory := if s.dropsCategory P then none else s.selectedCategory
    selectedSubcategory :=
      if s.prevCategory ≠ s.selectedCategory ∨ s.dropsCategory P then none
      else s.selectedSubcategory
    selectedAccountId := if s.dropsAccount then none else s.selectedAccountId
    currentPage :=
      if s.totalPages P < s.currentPage then s.totalPages P
      else if some s.filters ≠ s.seenFilters then 1 else s.currentPage
    prevCategory := s.selectedCategory
    seenFilters := some s.filters
    seenLoad := some s.loadKey } := by
  have hload := load_eq s false
  unfold flush
  dsimp only
  split
  · generalize s.load false = loading at hload
    rw [hload]
  · rfl

/-- What a round makes of what is loaded. -/
theorem flush_all_cases (s : TransactionsState) : (s.flush P).all = [] ∨
    (s.flush P).isLoading = true ∨
      (s.flush P).all = s.all ∧ (s.flush P).isLoading = s.isLoading := by
  unfold flush
  dsimp only
  split
  · obtain heq | hnil | hloading := load_cases s
    · exact .inr (.inr ⟨congrArg TransactionsState.all heq, congrArg isLoading heq⟩)
    · exact .inl hnil
    · exact .inr (.inl hloading)
  · exact .inr (.inr ⟨rfl, rfl⟩)

theorem availableCategories_nil (h : s.all = []) : s.availableCategories P = [] := by
  have hnone : pageCategoryOptionItems P.M P.parsed [] s.debouncedSearch s.monthRange.1
      s.monthRange.2 = [] :=
    List.subperm_nil.1
      (List.filter_sublist.subperm.trans (TransactionFilter.filterOn_subperm _ _ _))
  rw [availableCategories, h, Frontend.availableCategories, ← map_pageCategoryOptionItems, hnone]
  rfl

/-- The category is dropped in the first round or not at all. -/
theorem dropsCategory_flush (s : TransactionsState) : (s.flush P).dropsCategory P = false := by
  cases hdrops : s.dropsCategory P with
  | true =>
    unfold dropsCategory
    have hnone : (s.flush P).selectedCategory = none := if_pos hdrops
    rw [hnone]
    rfl
  | false =>
    obtain hnil | hloading | ⟨hall, hloading⟩ := flush_all_cases (P := P) s
    · unfold dropsCategory
      rw [availableCategories_nil hnil]
      simp
    · unfold dropsCategory
      rw [hloading]
      simp
    · have havailable : (s.flush P).availableCategories P = s.availableCategories P := by
        unfold availableCategories
        rw [hall, flush_eq]
      have hcategory : (s.flush P).selectedCategory = s.selectedCategory :=
        if_neg (by rw [hdrops]; decide)
      unfold dropsCategory
      rw [havailable, hcategory, hloading]
      exact hdrops

theorem dropsAccount_flush (s : TransactionsState) : (s.flush P).dropsAccount = false := by
  cases hdrops : s.dropsAccount with
  | true =>
    unfold dropsAccount
    have hnone : (s.flush P).selectedAccountId = none := if_pos hdrops
    rw [hnone]
    rfl
  | false =>
    have hsame : (s.flush P).selectedAccountId = s.selectedAccountId :=
      if_neg (by rw [hdrops]; decide)
    have hoptions : (s.flush P).accountOptions = s.accountOptions := by
      rw [flush_eq]
    unfold dropsAccount
    rw [hsame, hoptions]
    exact hdrops

/-- After the first round the selections stay. -/
theorem selections_flush_flush (s : TransactionsState) :
    ((s.flush P).flush P).selectedCategory = (s.flush P).selectedCategory ∧
      ((s.flush P).flush P).selectedSubcategory = (s.flush P).selectedSubcategory ∧
        ((s.flush P).flush P).selectedAccountId = (s.flush P).selectedAccountId := by
  have hcategory := dropsCategory_flush (P := P) s
  refine ⟨if_neg (by rw [hcategory]; decide), ?_, if_neg (by rw [dropsAccount_flush]; decide)⟩
  -- a category that was dropped has taken its subcategory along
  refine (ite_eq_right_iff.2 fun h ↦ ?_)
  have hdropped : s.dropsCategory P = true := by
    by_contra hnot
    have hsame : (s.flush P).selectedCategory = s.selectedCategory := if_neg hnot
    rw [hcategory, hsame] at h
    exact h.elim (fun hne ↦ hne rfl) fun h ↦ absurd h (by decide)
  exact (if_pos (.inr hdropped)).symm

theorem loadKey_flush (s : TransactionsState) : (s.flush P).loadKey =
    { s.loadKey with selectedAccountId := (s.flush P).selectedAccountId } := by
  rw [flush_eq]
  rfl

theorem filters_flush (s : TransactionsState) : (s.flush P).filters =
    { s.filters with
      selectedCategory := (s.flush P).selectedCategory
      selectedSubcategory := (s.flush P).selectedSubcategory
      selectedAccountId := (s.flush P).selectedAccountId } := by
  rw [flush_eq]
  rfl

theorem quiet_flush_flush (s : TransactionsState) : Quiet P ((s.flush P).flush P) := by
  obtain ⟨hcategory, hsubcategory, haccount⟩ := selections_flush_flush (P := P) s
  refine ⟨dropsCategory_flush _, dropsAccount_flush _, congrArg some ?_, congrArg some ?_,
    hcategory.symm⟩
  · rw [loadKey_flush, haccount]
    rfl
  · rw [filters_flush, hcategory, hsubcategory, haccount]
    rfl

/-- Which pages there are does not depend on the page. -/
theorem totalPages_of_currentPage (s : TransactionsState) (currentPage : ℕ) :
    ({ s with currentPage := currentPage } : TransactionsState).totalPages P = s.totalPages P := rfl

theorem filters_of_currentPage (s : TransactionsState) (currentPage : ℕ) :
    ({ s with currentPage := currentPage } : TransactionsState).filters = s.filters := rfl

/-- A quiet state stays quiet when the page changes. -/
theorem Quiet.of_currentPage (h : Quiet P s) (currentPage : ℕ) :
    Quiet P { s with currentPage := currentPage } :=
  ⟨h.category, h.account, h.load, h.filters, h.prevCategory⟩

/-- A page that has settled: no effect has anything left to do, and the page is one of those that
there are. -/
structure Steady (P : PageSetting) (s : TransactionsState) : Prop extends Quiet P s where
  one_le_currentPage : 1 ≤ s.currentPage
  currentPage_le : s.currentPage ≤ s.totalPages P

theorem Steady.flush_eq (h : Steady P s) : s.flush P = s := by
  rw [h.toQuiet.flush_eq, if_neg (not_lt.2 h.currentPage_le)]

theorem seenFilters_flush (s : TransactionsState) :
    (s.flush P).seenFilters = some s.filters := rfl

theorem currentPage_flush (s : TransactionsState) : (s.flush P).currentPage =
    if s.totalPages P < s.currentPage then s.totalPages P
    else if some s.filters ≠ s.seenFilters then 1 else s.currentPage := rfl

/-- There is always a page to go to. -/
theorem one_le_currentPage_flush (h : 1 ≤ s.currentPage) : 1 ≤ (s.flush P).currentPage := by
  rw [currentPage_flush]
  split
  · exact one_le_pageCount _ _
  · split
    · exact le_rfl
    · exact h

/-- **Three rounds of effects settle the page.** -/
theorem steady_settle (h : 1 ≤ s.currentPage) : Steady P (s.settle P) := by
  have hquiet := quiet_flush_flush (P := P) s
  have hone := one_le_currentPage_flush (P := P) (one_le_currentPage_flush (P := P) h)
  unfold settle
  generalize (s.flush P).flush P = s₂ at hquiet hone
  rw [hquiet.flush_eq]
  refine ⟨hquiet.of_currentPage _, ?_, ?_⟩
  · dsimp only
    split
    · exact one_le_pageCount _ _
    · exact hone
  · rw [totalPages_of_currentPage]
    dsimp only
    split
    · exact le_rfl
    · exact not_lt.1 ‹_›

theorem one_le_currentPage_apply (h : Steady P s) (event : PageEvent) :
    1 ≤ (s.apply P event).currentPage := by
  have hone := h.one_le_currentPage
  cases event with
  | prev => exact le_max_left _ _
  | next => exact le_min (one_le_pageCount _ _) (Nat.le_add_left 1 _)
  | load isSilent =>
    show 1 ≤ (s.load isSilent).currentPage
    rw [load_eq]
    exact hone
  | response isSilent response =>
    show 1 ≤ (s.loaded isSilent response).currentPage
    cases response <;> exact hone
  | _ => exact hone

theorem Steady.step (h : Steady P s) (event : PageEvent) : Steady P (s.step P event) :=
  steady_settle (one_le_currentPage_apply h event)

/-- A run of the page from the first time it is rendered. -/
def run (P : PageSetting) (initialCategory initialAccountId : Option String)
    (monthRange : List Char × List Char) (accountFilter : AccountFilter)
    (accountOptions : List String) (events : List PageEvent) : TransactionsState :=
  events.foldl (TransactionsState.step P)
    ((mount initialCategory initialAccountId monthRange accountFilter accountOptions).settle P)

/-- Whatever happens, the page settles. -/
theorem steady_run (initialCategory initialAccountId : Option String)
    (monthRange : List Char × List Char) (accountFilter : AccountFilter)
    (accountOptions : List String) (events : List PageEvent) :
    Steady P (run P initialCategory initialAccountId monthRange accountFilter accountOptions
      events) := by
  unfold run
  exact LabelledSystem.foldl_invariant (I := Steady P) (fun _ event h ↦ h.step event) events
    (steady_settle le_rfl)

/-! ### What a settled page lists -/

/-- What a page shows. -/
structure Shows (P : PageSetting) (s : TransactionsState) : Prop where
  -- it is one of the pages, which together are the list
  currentPage : 1 ≤ s.currentPage ∧ s.currentPage ≤ s.totalPages P
  pages : (List.range (s.totalPages P)).flatMap (fun k ↦
    ({ s with currentPage := k + 1 } : TransactionsState).pageItems P) = s.activeTransactions P
  -- it is empty only when the list is
  items : s.pageItems P = [] → s.activeTransactions P = []
  -- it lists what is of the month, and nothing that could be marked as a duplicate
  month : ∀ t ∈ s.pageItems P,
    isBetween s.monthRange.1 s.monthRange.2 (toDateOnlyKey P.parsed t.date) = true
  candidates : ∀ t ∈ s.pageItems P, t.id ∉ s.duplicateCandidateIds P
  -- what is selected can be selected
  category : ∀ c, s.selectedCategory = some c → c ≠ "" → s.isLoading = false →
    s.availableCategories P ≠ [] →
      ∃ offered ∈ s.availableCategories P, P.M.lowerCase offered.toList = P.M.lowerCase c.toList
  account : ∀ account, s.selectedAccountId = some account → account ≠ "" →
    s.accountOptions ≠ [] → account ∈ s.accountOptions

theorem Steady.shows (h : Steady P s) : Shows P s := by
  have hactive {t : PageTransaction} (ht : t ∈ s.pageItems P) : t ∈ s.filtered P ∧
      t.id ∉ s.duplicateCandidateIds P := by
    obtain ⟨hmem, hnot⟩ := List.mem_filter.1 (page_subset ht)
    exact ⟨hmem, of_decide_eq_true hnot⟩
  refine ⟨⟨h.one_le_currentPage, h.currentPage_le⟩, ?_, fun hitems ↦ ?_, fun t ht ↦ ?_,
    fun t ht ↦ (hactive ht).2, fun c hc hne hloading havailable ↦ ?_,
    fun account haccount hne hoptions ↦ ?_⟩
  · exact flatMap_page P.pageSize_pos (s.activeTransactions P)
  · by_contra hne
    have hlt := h.currentPage_le
    have hone := h.one_le_currentPage
    rw [totalPages, ← Nat.sub_add_cancel hone, Nat.succ_le_iff,
      lt_pageCount_iff P.pageSize_pos (List.length_pos_iff.2 hne)] at hlt
    exact (page_ne_nil_iff P.pageSize_pos).2 hlt hitems
  · exact isBetween_of_mem_pageFiltered (hactive ht).1
  · have hkept := h.category
    simp only [dropsCategory, isTruthy, hc, hloading, hne, havailable, Option.any_some, ne_eq,
      not_false_eq_true, decide_true, Bool.not_false, Bool.true_and, Option.getD_some,
      Bool.not_eq_false', List.any_eq_true, decide_eq_true_eq] at hkept
    exact hkept
  · have hkept := h.account
    simp only [dropsAccount, isTruthy, haccount, hne, hoptions, Option.any_some, ne_eq,
      not_false_eq_true, decide_true, Bool.true_and, Bool.not_eq_false', List.any_eq_true,
      decide_eq_true_eq, Option.some.injEq, exists_eq_right] at hkept
    exact hkept

/-- Turning a page of a settled state turns the page. -/
theorem Steady.step_of_currentPage (h : Steady P s) {event : PageEvent} {currentPage : ℕ}
    (hone : 1 ≤ currentPage) (hle : currentPage ≤ s.totalPages P)
    (happly : s.apply P event = { s with currentPage := currentPage }) :
    s.step P event = { s with currentPage := currentPage } := by
  have hsteady : Steady P { s with currentPage := currentPage } :=
    ⟨h.toQuiet.of_currentPage currentPage, hone, hle⟩
  rw [TransactionsState.step, happly, settle, hsteady.flush_eq, hsteady.flush_eq, hsteady.flush_eq]

/-- As many pages back. -/
theorem Steady.foldl_prev (h : Steady P s) (n : ℕ) :
    (List.replicate n PageEvent.prev).foldl (TransactionsState.step P) s =
      { s with currentPage := max 1 (s.currentPage - n) } := by
  have hone := h.one_le_currentPage
  have hle := h.currentPage_le
  induction n generalizing s with
  | zero =>
    have hmax : max 1 (s.currentPage - 0) = s.currentPage := by omega
    rw [hmax]
    rfl
  | succ n ih =>
    have hprev : 1 ≤ max 1 (s.currentPage - 1) ∧ max 1 (s.currentPage - 1) ≤ s.totalPages P := by
      omega
    have hstep : s.step P .prev = { s with currentPage := max 1 (s.currentPage - 1) } :=
      h.step_of_currentPage hprev.1 hprev.2 rfl
    have hsteady := h.step .prev
    rw [List.replicate_succ, List.foldl_cons, ih hsteady hsteady.one_le_currentPage
      hsteady.currentPage_le, hstep]
    have hmax : max 1 (max 1 (s.currentPage - 1) - n) = max 1 (s.currentPage - (n + 1)) := by
      omega
    exact congrArg (fun currentPage ↦ { s with currentPage := currentPage }) hmax

/-- As many pages on. -/
theorem Steady.foldl_next (h : Steady P s) (n : ℕ) :
    (List.replicate n PageEvent.next).foldl (TransactionsState.step P) s =
      { s with currentPage := min (s.totalPages P) (s.currentPage + n) } := by
  have hone := h.one_le_currentPage
  have hle := h.currentPage_le
  induction n generalizing s with
  | zero =>
    have hmin : min (s.totalPages P) (s.currentPage + 0) = s.currentPage := by omega
    rw [hmin]
    rfl
  | succ n ih =>
    have hnext : 1 ≤ min (s.totalPages P) (s.currentPage + 1) ∧
        min (s.totalPages P) (s.currentPage + 1) ≤ s.totalPages P := by
      omega
    have hstep : s.step P .next =
        { s with currentPage := min (s.totalPages P) (s.currentPage + 1) } :=
      h.step_of_currentPage hnext.1 hnext.2 rfl
    have hsteady := h.step .next
    rw [List.replicate_succ, List.foldl_cons, ih hsteady hsteady.one_le_currentPage
      hsteady.currentPage_le, hstep]
    have hmin : min (s.totalPages P) (min (s.totalPages P) (s.currentPage + 1) + n) =
        min (s.totalPages P) (s.currentPage + (n + 1)) := by
      omega
    exact congrArg (fun currentPage ↦ { s with currentPage := currentPage }) hmin

/-- **Going back to the first page and on to the last one** shows the whole list, each of its
transactions once and in order. -/
theorem pages_turned (P : PageSetting) (initialCategory initialAccountId : Option String)
    (monthRange : List Char × List Char) (accountFilter : AccountFilter)
    (accountOptions : List String) (events : List PageEvent) :
    let s := run P initialCategory initialAccountId monthRange accountFilter accountOptions events
    let first := (List.replicate (s.totalPages P) PageEvent.prev).foldl (TransactionsState.step P) s
    (List.range (s.totalPages P)).flatMap (fun k ↦
      ((List.replicate k PageEvent.next).foldl (TransactionsState.step P) first).pageItems P) =
        s.activeTransactions P := by
  intro s first
  have hsteady : Steady P s := steady_run _ _ _ _ _ _
  have hfirst : first = { s with currentPage := 1 } := by
    rw [show first = _ from hsteady.foldl_prev _]
    have hle := hsteady.currentPage_le
    have hmax : max 1 (s.currentPage - s.totalPages P) = 1 := by omega
    rw [hmax]
  have hsteady' : Steady P first := by
    rw [hfirst]
    exact ⟨hsteady.toQuiet.of_currentPage 1, le_rfl, one_le_pageCount _ _⟩
  rw [← hsteady.shows.pages]
  refine List.flatMap_congr fun k hk ↦ ?_
  rw [hsteady'.foldl_next, hfirst]
  have hmin : min (({ s with currentPage := 1 } : TransactionsState).totalPages P) (1 + k) =
      k + 1 := by
    have hlt := List.mem_range.1 hk
    show min (s.totalPages P) (1 + k) = k + 1
    omega
  rw [hmin]

/-! ### Where a changed filter leads -/

/-- Rounds of effects that change no filter and lose nothing that is loaded list the same. -/
theorem activeTransactions_eq {s s' : TransactionsState} (hall : s'.all = s.all)
    (hmonth : s'.monthRange = s.monthRange) (hfilters : s'.filters = s.filters) :
    s'.activeTransactions P = s.activeTransactions P := by
  have hcategory := congrArg SeenFilters.selectedCategory hfilters
  have hsubcategory := congrArg SeenFilters.selectedSubcategory hfilters
  have hsearch := congrArg SeenFilters.debouncedSearch hfilters
  change s'.selectedCategory = s.selectedCategory at hcategory
  change s'.selectedSubcategory = s.selectedSubcategory at hsubcategory
  change s'.debouncedSearch = s.debouncedSearch at hsearch
  unfold activeTransactions filtered
  rw [hall, hmonth, hcategory, hsubcategory, hsearch]

theorem all_flush_eq_or (s : TransactionsState) : (s.flush P).all = s.all ∨
    (s.flush P).all = [] := by
  unfold flush
  dsimp only
  split
  · unfold load
    split
    · exact .inl rfl
    · dsimp only
      split
      · exact .inr rfl
      · exact .inl rfl
  · exact .inl rfl

/-- The seen filters are seen by effects only. -/
theorem seenFilters_apply (s : TransactionsState) (event : PageEvent) :
    (s.apply P event).seenFilters = s.seenFilters := by
  cases event with
  | load isSilent =>
    show (s.load isSilent).seenFilters = s.seenFilters
    rw [load_eq]
  | response isSilent response => cases response <;> rfl
  | _ => rfl

/-- One transaction on a page. -/
def onePerPage : PageSetting where
  pageSize := 1
  pageSize_pos := Nat.one_pos
  M := simpleCase
  parsed _ := none
  parseOther _ := none

/-- Three lunches on three pages, of which the last one is shown. -/
def thirdPage : TransactionsState :=
  let lunch (id date : String) : PageTransaction :=
    { listedLunch "FOOD_AND_DRINK" with date := date, id := id }
  let state :=
    { mount none none ("2024-01-01".toList, "2024-12-31".toList) ⟨[], [], false⟩ [] with
      all := [lunch "1" "2024-02-01", lunch "2" "2024-02-02", lunch "3" "2024-03-01"]
      currentPage := 3 }
  { state with seenFilters := some state.filters, seenLoad := some state.loadKey }

theorem steady_thirdPage : Steady onePerPage thirdPage :=
  ⟨⟨rfl, rfl, rfl, rfl, rfl⟩, by decide, by decide +kernel⟩

end TransactionsState

/-! ### The line under the table -/

/-- The numbers of the first and the last transaction that `TransactionsTable` says it shows. It
does not know the size of a page. -/
def showing (itemsLength total totalPages currentPage : ℕ) : ℕ × ℕ :=
  let pageSize := if 0 < itemsLength then total ⌈/⌉ totalPages else 8
  (if total = 0 then 0 else (currentPage - 1) * pageSize + 1, min total (currentPage * pageSize))

/-- **The table says what it shows** on all its pages if there is one page, or as many transactions
that the pages could not be smaller by one. -/
theorem showing_iff (P : PageSetting) {items : List PageTransaction} (hne : items ≠ []) :
    (∀ k < pageCount P.pageSize items.length,
        showing (page P.pageSize k items).length items.length
            (pageCount P.pageSize items.length) (k + 1) =
          (k * P.pageSize + 1, k * P.pageSize + (page P.pageSize k items).length)) ↔
      pageCount P.pageSize items.length = 1 ∨
        pageCount P.pageSize items.length * (P.pageSize - 1) < items.length := by
  have hsize := P.pageSize_pos
  have hpos : 0 < items.length := List.length_pos_iff.2 hne
  have hcount := one_le_pageCount P.pageSize items.length
  have hroom : items.length ≤ pageCount P.pageSize items.length * P.pageSize :=
    le_pageCount_mul hsize
  have hlt (k : ℕ) : k < pageCount P.pageSize items.length ↔ k * P.pageSize < items.length :=
    lt_pageCount_iff hsize hpos
  generalize pageCount P.pageSize items.length = count at hcount hroom hlt
  have hceil (m : ℕ) : items.length ⌈/⌉ count ≤ m ↔ items.length ≤ count * m := by
    rw [ceilDiv_le_iff_le_smul hcount, smul_eq_mul]
  have hshown (k : ℕ) (hk : k < count) :
      showing (page P.pageSize k items).length items.length count (k + 1) =
        (k * (items.length ⌈/⌉ count) + 1,
          min items.length ((k + 1) * (items.length ⌈/⌉ count))) := by
    have hitems : 0 < (page P.pageSize k items).length :=
      List.length_pos_iff.2 ((page_ne_nil_iff hsize).2 ((hlt k).1 hk))
    rw [showing, if_pos hitems, if_neg hpos.ne', Nat.add_sub_cancel]
  -- the size that the table takes for that of a page
  have hguess : count * (P.pageSize - 1) < items.length ↔ items.length ⌈/⌉ count = P.pageSize := by
    have hle := (hceil P.pageSize).2 hroom
    rw [← not_le, ← hceil]
    omega
  rw [hguess]
  constructor
  · intro hall
    by_contra hnot
    obtain ⟨hone, hsize'⟩ := not_or.1 hnot
    have hk : 1 < count := by omega
    have heq := congrArg Prod.fst ((hshown 1 hk).symm.trans (hall 1 hk))
    simp only [one_mul] at heq
    exact hsize' (by omega)
  · intro h k hk
    rw [hshown k hk, length_page]
    have hstart := (hlt k).1 hk
    obtain rfl | hsize' := h
    · obtain rfl : k = 0 := by omega
      have hall : items.length ⌈/⌉ 1 = items.length := Nat.le_antisymm
        ((hceil _).2 (by omega)) (by have := (hceil (items.length ⌈/⌉ 1)).1 le_rfl; omega)
      rw [hall]
      simp only [zero_mul, zero_add, one_mul, min_self, Nat.sub_zero, Prod.mk.injEq, true_and]
      omega
    · rw [hsize', add_mul, one_mul]
      simp only [Prod.mk.injEq, true_and]
      omega

/-- Pages of eight, as `TransactionsPage` has them. -/
def eightPerPage : PageSetting :=
  { TransactionsState.onePerPage with pageSize := 8, pageSize_pos := by decide }

/-- Nine lunches, of which the first page says that it shows five. -/
def nineLunches : List PageTransaction :=
  List.replicate 9 { listedLunch "FOOD_AND_DRINK" with id := "" }

theorem showing_nineLunches : showing 8 9 2 1 = (1, 5) ∧
    ¬∀ k < pageCount eightPerPage.pageSize nineLunches.length,
      showing (page eightPerPage.pageSize k nineLunches).length nineLunches.length
          (pageCount eightPerPage.pageSize nineLunches.length) (k + 1) =
        (k * eightPerPage.pageSize + 1,
          k * eightPerPage.pageSize + (page eightPerPage.pageSize k nineLunches).length) :=
  ⟨by decide, fun h ↦ absurd ((showing_iff eightPerPage (by decide)).1 h) (by decide)⟩

end Sumurai.Frontend
