import Sumurai.Foundations.AssocMap
import Sumurai.Foundations.Runs
import Sumurai.Frontend.Selections

/-!
# The selected accounts

`AccountFilterProvider` keeps the accounts and the ids of those that are selected. Accounts and
banks are toggled one at a time; when the accounts are loaded again, the selection is carried over
to the new list: what was selected stays selected, and new accounts are selected. An empty selection
is not carried over, it is taken for one that was never made.

## Main results

* `WellFormed.step`: the selection has no duplicates and is among the accounts, so comparing the
  numbers is enough to know whether all of them are selected;
* `selection_carriesOver_iff`: which loads carry the selection over.
-/

namespace Sumurai.Frontend

open AssocMap

/-! ### The provider -/

/-- An account of the reply to `getAccounts`, as far as the filter groups it. -/
structure ListedAccount where
  id : String
  institution_name : Option String
  institutionName : Option String
deriving DecidableEq, Repr

/-- `ProviderAccount`, as far as the filter reads it. -/
structure ProviderAccount where
  id : String
  institutionName : String
deriving DecidableEq, Repr

/-- `mappedAccounts`. -/
def mappedAccounts (safeAccounts : List ListedAccount) : List ProviderAccount :=
  safeAccounts.map fun account ↦
    { id := account.id
      institutionName :=
        (account.institution_name.or account.institutionName).getD "Unknown Bank" }

/-- `groupAccountsByBank`. -/
def groupAccountsByBank (items : List ProviderAccount) : List (String × List ProviderAccount) :=
  groups
    (fun account ↦ if account.institutionName = "" then "Unknown Bank" else account.institutionName)
    id items

/-- The state of `AccountFilterProvider`. -/
structure AccountFilterProvider where
  accounts : List ProviderAccount
  selectedAccountIds : List String
  loading : Bool
  /-- `previousAllAccountIdsRef.current`. -/
  previousAllAccountIds : List String
deriving DecidableEq, Repr

namespace AccountFilterProvider

/-- Before the first load. -/
def initial : AccountFilterProvider where
  accounts := []
  selectedAccountIds := []
  loading := false
  previousAllAccountIds := []

/-- `allAccountIds`. -/
def allAccountIds (s : AccountFilterProvider) : List String :=
  s.accounts.map (·.id)

/-- What the provider provides to the hooks. -/
def value (s : AccountFilterProvider) : AccountFilter where
  selectedAccountIds := s.selectedAccountIds
  allAccountIds := s.allAccountIds
  loading := s.loading

/-- How `fetchAccounts` changes the selection. -/
def carriedOver (previousAllAccountIds newAccountIds prev : List String) : List String :=
  if prev.length = 0 then newAccountIds
  else
    let filteredSelection := prev.filter (· ∈ newAccountIds)
    let previouslyHadAllSelected :=
      0 < previousAllAccountIds.length ∧ prev.length = previousAllAccountIds.length ∧
        previousAllAccountIds.all (· ∈ prev)
    if previouslyHadAllSelected then newAccountIds
    else
      let newlyAddedIds := newAccountIds.filter (· ∉ previousAllAccountIds)
      let nextSelection :=
        newlyAddedIds.foldl (fun selection id ↦ addKey id selection) filteredSelection
      if prev = nextSelection then prev else nextSelection

/-- `fetchAccounts`, when the accounts have arrived. -/
def fetched (s : AccountFilterProvider) (safeAccounts : List ListedAccount) :
    AccountFilterProvider :=
  let newAccountIds := (mappedAccounts safeAccounts).map (·.id)
  { accounts := mappedAccounts safeAccounts
    selectedAccountIds :=
      carriedOver s.previousAllAccountIds newAccountIds s.selectedAccountIds
    loading := false
    previousAllAccountIds := newAccountIds }

/-- `toggleBank`. -/
def toggleBank (s : AccountFilterProvider) (bankName : String) : AccountFilterProvider :=
  let bankAccounts := ((groupAccountsByBank s.accounts).lookup bankName).getD []
  let bankAccountIds := bankAccounts.map (·.id)
  { s with
    selectedAccountIds :=
      if bankAccountIds.all (· ∈ s.selectedAccountIds) then
        s.selectedAccountIds.filter (· ∉ bankAccountIds)
      else bankAccountIds.foldl (fun newIds id ↦ addKey id newIds) s.selectedAccountIds }

/-- `toggleAccount`. -/
def toggleAccount (s : AccountFilterProvider) (accountId : String) : AccountFilterProvider :=
  { s with
    selectedAccountIds :=
      if accountId ∈ s.selectedAccountIds then s.selectedAccountIds.filter (· ≠ accountId)
      else s.selectedAccountIds ++ [accountId] }

/-- What happens to the provider. -/
inductive Event where
  /-- A load begins. -/
  | fetch
  /-- The accounts of a load arrive. -/
  | arrive (accounts : List ListedAccount)
  /-- A load fails. -/
  | fail
  | toggleBank (bankName : String)
  | toggleAccount (accountId : String)
  | setSelectedAccountIds (ids : List String)
deriving DecidableEq, Repr

/-- One event. -/
def step (s : AccountFilterProvider) : Event → AccountFilterProvider
  | .fetch => { s with loading := true }
  | .arrive accounts => s.fetched accounts
  | .fail => initial
  | .toggleBank bankName => s.toggleBank bankName
  | .toggleAccount accountId => s.toggleAccount accountId
  | .setSelectedAccountIds ids => { s with selectedAccountIds := ids }

/-- What the server and the components see to: ids are distinct, only accounts that are listed are
toggled, and all are selected or none. -/
def Offered (s : AccountFilterProvider) : Event → Prop
  | .fetch | .fail | .toggleBank _ => True
  | .arrive accounts => (accounts.map (·.id)).Nodup
  | .toggleAccount accountId => accountId ∈ s.allAccountIds
  | .setSelectedAccountIds ids => ids = s.allAccountIds ∨ ids = []

instance (s : AccountFilterProvider) : DecidablePred s.Offered
  | .fetch | .fail | .toggleBank _ => inferInstanceAs (Decidable True)
  | .arrive accounts => inferInstanceAs (Decidable (accounts.map (·.id)).Nodup)
  | .toggleAccount accountId => inferInstanceAs (Decidable (accountId ∈ s.allAccountIds))
  | .setSelectedAccountIds ids =>
    inferInstanceAs (Decidable (ids = s.allAccountIds ∨ ids = []))

/-! ### Well-formed selections -/

/-- The selection has no duplicates and is among the accounts, and the accounts of the last load
are remembered. -/
structure WellFormed (s : AccountFilterProvider) : Prop where
  nodup : s.selectedAccountIds.Nodup
  subset : s.selectedAccountIds ⊆ s.allAccountIds
  nodup_all : s.allAccountIds.Nodup
  previous : s.previousAllAccountIds = s.allAccountIds

/-- The flag compares numbers only, and for a well-formed selection that is enough. -/
theorem WellFormed.isAllAccountsSelected_iff {s : AccountFilterProvider} (h : s.WellFormed) :
    s.value.isAllAccountsSelected ↔
      s.allAccountIds ≠ [] ∧ ∀ id, id ∈ s.selectedAccountIds ↔ id ∈ s.allAccountIds := by
  have hsubperm := List.subperm_of_subset h.nodup h.subset
  rw [AccountFilter.isAllAccountsSelected, decide_eq_true_eq]
  refine and_congr List.length_pos_iff ⟨fun hlength id ↦ ?_, fun hsame ↦ ?_⟩
  · exact (hsubperm.perm_of_length_le hlength.ge).mem_iff
  · exact ((List.perm_ext_iff_of_nodup h.nodup h.nodup_all).2 hsame).length_eq

theorem allAccountIds_fetched (s : AccountFilterProvider) (accounts : List ListedAccount) :
    (s.fetched accounts).allAccountIds = accounts.map (·.id) := by
  simp [fetched, allAccountIds, mappedAccounts]

/-! #### Loads -/

section CarriedOver

variable {previousAllAccountIds newAccountIds prev : List String}

theorem carriedOver_nil (previousAllAccountIds newAccountIds : List String) :
    carriedOver previousAllAccountIds newAccountIds [] = newAccountIds :=
  rfl

/-- A selection is carried over: what was selected stays selected and new accounts are. -/
theorem mem_carriedOver (hprev : prev ≠ []) {id : String} :
    id ∈ carriedOver previousAllAccountIds newAccountIds prev ↔
      id ∈ newAccountIds ∧ (id ∈ prev ∨ id ∉ previousAllAccountIds) := by
  have hne : ¬prev.length = 0 := fun h ↦ hprev (List.length_eq_zero_iff.1 h)
  have hnext : id ∈ (newAccountIds.filter (· ∉ previousAllAccountIds)).foldl
      (fun selection id ↦ addKey id selection) (prev.filter (· ∈ newAccountIds)) ↔
        id ∈ newAccountIds ∧ (id ∈ prev ∨ id ∉ previousAllAccountIds) := by
    rw [mem_foldl_addKey, List.mem_filter, List.mem_filter, decide_eq_true_eq, decide_eq_true_eq]
    tauto
  rw [carriedOver, if_neg hne]
  simp only
  split_ifs with hall hsame
  · -- all were selected, and all are
    refine (and_iff_left (or_iff_not_imp_right.2 fun hold ↦ ?_)).symm
    exact of_decide_eq_true (List.all_eq_true.1 hall.2.2 id (not_not.1 hold))
  · rw [← hnext, ← hsame]
  · exact hnext

theorem carriedOver_nodup (hnew : newAccountIds.Nodup) (hnodup : prev.Nodup) :
    (carriedOver previousAllAccountIds newAccountIds prev).Nodup := by
  rw [carriedOver]
  simp only
  split_ifs
  · exact hnew
  · exact hnew
  · exact hnodup
  · exact foldl_addKey_nodup (hnodup.filter _)

end CarriedOver

/-- A load carries the selection over: what is still there keeps its status, and what is new is
selected. -/
def CarriesOver (s : AccountFilterProvider) (accounts : List ListedAccount) : Prop :=
  ∀ id ∈ (s.fetched accounts).allAccountIds,
    (id ∈ s.allAccountIds →
      (id ∈ (s.fetched accounts).selectedAccountIds ↔ id ∈ s.selectedAccountIds)) ∧
    (id ∉ s.allAccountIds → id ∈ (s.fetched accounts).selectedAccountIds)

/-- **Loads.** -/
theorem WellFormed.carriesOver_iff {s : AccountFilterProvider} (h : s.WellFormed)
    (accounts : List ListedAccount) :
    s.CarriesOver accounts ↔ s.selectedAccountIds ≠ [] ∨
      ∀ account ∈ accounts, account.id ∉ s.allAccountIds := by
  have hids : (s.fetched accounts).allAccountIds = accounts.map (·.id) :=
    allAccountIds_fetched s accounts
  have hselected : (s.fetched accounts).selectedAccountIds =
      carriedOver s.allAccountIds (accounts.map (·.id)) s.selectedAccountIds := by
    rw [← h.previous, ← hids]
    rfl
  rw [CarriesOver, hids, hselected]
  by_cases hnone : s.selectedAccountIds = []
  · rw [hnone, carriedOver_nil, or_iff_right (not_not.2 rfl)]
    simp only [List.not_mem_nil, iff_false]
    rw [← List.forall_mem_map (P := fun id ↦ id ∉ s.allAccountIds)]
    refine forall₂_congr fun id hid ↦ ⟨fun hkeeps hold ↦ hkeeps.1 hold hid, fun hnew ↦ ?_⟩
    exact ⟨fun hold ↦ absurd hold hnew, fun _ ↦ hid⟩
  · refine iff_of_true (fun id hid ↦ ?_) (Or.inl hnone)
    rw [mem_carriedOver hnone, and_iff_right hid]
    tauto

/-! #### Events -/

theorem wellFormed_initial : initial.WellFormed where
  nodup := List.nodup_nil
  subset := List.nil_subset _
  nodup_all := List.nodup_nil
  previous := rfl

theorem WellFormed.fetched {s : AccountFilterProvider} (h : s.WellFormed)
    {accounts : List ListedAccount} (hnodup : (accounts.map (·.id)).Nodup) :
    (s.fetched accounts).WellFormed := by
  have hids : (s.fetched accounts).allAccountIds = accounts.map (·.id) :=
    allAccountIds_fetched s accounts
  have hnew : (s.fetched accounts).allAccountIds.Nodup := hids ▸ hnodup
  refine ⟨carriedOver_nodup hnew h.nodup, fun id hid ↦ ?_, hnew, rfl⟩
  change id ∈ carriedOver s.previousAllAccountIds (s.fetched accounts).allAccountIds
    s.selectedAccountIds at hid
  by_cases hnone : s.selectedAccountIds = []
  · rwa [hnone, carriedOver_nil] at hid
  · exact ((mem_carriedOver hnone).1 hid).1

/-- The accounts of a bank are among all accounts. -/
theorem bankAccounts_subset (s : AccountFilterProvider) (bankName : String) :
    (((groupAccountsByBank s.accounts).lookup bankName).getD []).map (·.id) ⊆
      s.allAccountIds := by
  rw [groupAccountsByBank, lookup_groups, List.map_id]
  exact List.map_subset _ (List.filter_subset_self _)

theorem WellFormed.toggleBank {s : AccountFilterProvider} (h : s.WellFormed) (bankName : String) :
    (s.toggleBank bankName).WellFormed := by
  have hbank := bankAccounts_subset s bankName
  rw [AccountFilterProvider.toggleBank]
  split_ifs
  · exact { h with
      nodup := h.nodup.filter _
      subset := List.Subset.trans (List.filter_subset_self _) h.subset }
  · exact { h with
      nodup := foldl_addKey_nodup h.nodup
      subset := fun id hid ↦ (mem_foldl_addKey.1 hid).elim (h.subset ·) (hbank ·) }

theorem WellFormed.toggleAccount {s : AccountFilterProvider} (h : s.WellFormed)
    {accountId : String} (hlisted : accountId ∈ s.allAccountIds) :
    (s.toggleAccount accountId).WellFormed := by
  rw [AccountFilterProvider.toggleAccount]
  split_ifs with hselected
  · exact { h with
      nodup := h.nodup.filter _
      subset := List.Subset.trans (List.filter_subset_self _) h.subset }
  · refine { h with nodup := ?_, subset := fun id hid ↦ ?_ }
    · exact List.nodup_append.2 ⟨h.nodup, List.nodup_singleton accountId, by grind⟩
    · obtain hid | hid := List.mem_append.1 hid
      · exact h.subset hid
      · exact List.mem_singleton.1 hid ▸ hlisted

/-- **What is offered keeps the selection well formed.** -/
theorem WellFormed.step {s : AccountFilterProvider} (h : s.WellFormed) {e : Event}
    (he : s.Offered e) : (s.step e).WellFormed := by
  cases e with
  | fetch => exact { h with }
  | arrive accounts => exact h.fetched he
  | fail => exact wellFormed_initial
  | toggleBank bankName => exact h.toggleBank bankName
  | toggleAccount accountId => exact h.toggleAccount he
  | setSelectedAccountIds ids =>
    obtain rfl | rfl := he
    · exact { h with nodup := h.nodup_all, subset := List.Subset.refl _ }
    · exact { h with nodup := List.nodup_nil, subset := List.nil_subset _ }

/-- **Account selection.** After every run of what is offered the selection is well formed, the flag
says whether all accounts are selected, and the next load carries the selection over exactly if
something is selected or no account that is known is loaded again. -/
theorem selection_carriesOver_iff (events : List Event)
    (hoffered : LabelledSystem.Guarded step Offered initial events) :
    let s := events.foldl step initial
    s.selectedAccountIds.Nodup ∧ s.selectedAccountIds ⊆ s.allAccountIds ∧
      (s.value.isAllAccountsSelected ↔
        s.allAccountIds ≠ [] ∧ ∀ id, id ∈ s.selectedAccountIds ↔ id ∈ s.allAccountIds) ∧
      ∀ accounts : List ListedAccount, (accounts.map (·.id)).Nodup →
        (s.CarriesOver accounts ↔ s.selectedAccountIds ≠ [] ∨
          ∀ account ∈ accounts, account.id ∉ s.allAccountIds) := by
  have hfinal : (events.foldl step initial).WellFormed :=
    (LabelledSystem.Guarded.throughout (fun s e hs he ↦ hs.step he) (fun s hs ↦ hs)
      wellFormed_initial hoffered).final
  exact ⟨hfinal.nodup, hfinal.subset, hfinal.isAllAccountsSelected_iff,
    fun accounts _ ↦ hfinal.carriesOver_iff accounts⟩

end AccountFilterProvider

/-- An account at a bank. -/
def checkingAccount : ListedAccount where
  id := "checking"
  institution_name := some "Bank"
  institutionName := none

/-- It is loaded, and then nothing is selected. -/
def nothingSelected : List AccountFilterProvider.Event :=
  [.fetch, .arrive [checkingAccount], .setSelectedAccountIds []]

theorem selection_carriesOver_iff_nothingSelected :
    let s := nothingSelected.foldl AccountFilterProvider.step .initial
    s.selectedAccountIds.Nodup ∧ s.selectedAccountIds ⊆ s.allAccountIds ∧
      (s.value.isAllAccountsSelected ↔
        s.allAccountIds ≠ [] ∧ ∀ id, id ∈ s.selectedAccountIds ↔ id ∈ s.allAccountIds) ∧
      ∀ accounts : List ListedAccount, (accounts.map (·.id)).Nodup →
        (s.CarriesOver accounts ↔ s.selectedAccountIds ≠ [] ∨
          ∀ account ∈ accounts, account.id ∉ s.allAccountIds) :=
  AccountFilterProvider.selection_carriesOver_iff nothingSelected (by decide)

/-- When nothing is selected, loading the same account again selects it. -/
theorem nothingSelected_not_carriedOver :
    LabelledSystem.Guarded AccountFilterProvider.step AccountFilterProvider.Offered .initial
        nothingSelected ∧
      ¬(nothingSelected.foldl AccountFilterProvider.step .initial).CarriesOver
        [checkingAccount] := by
  refine ⟨by decide, fun h ↦ ?_⟩
  have hkeeps := (h "checking" (by decide)).1 (by decide)
  exact absurd (hkeeps.1 (by decide)) (by decide)

end Sumurai.Frontend
