import Sumurai.Analytics.BalanceCategory
import Sumurai.Foundations.AssocMap
import Sumurai.Repository.Accounts

/-!
# The balances overview

`get_authenticated_balances_overview` (`main.rs`), from the account filter to the response. The
handler groups the latest balances by institution, totals each group, and adds the groups up. The
response cache is not modelled: this is the response computed on a cache miss.

## Main result

`overview_net_eq_sum` — the overall net of the response is the sum of the signed balances of the
selected accounts, however the accounts are spread over institutions.
-/

namespace Sumurai

/-- `BankTotals`. -/
structure BankTotals where
  bankId : String
  bankName : String
  totals : Totals
deriving DecidableEq, Repr

/-- `BalancesOverviewResponse`. -/
structure BalancesOverviewResponse where
  asOf : String
  overall : Totals
  banks : List BankTotals
  mixedCurrency : Bool
deriving DecidableEq, Repr

/-- The account filter of a request: no filter, or the validated account ids. -/
def isSelected (filteredAccountIds : Option (List Uuid)) (id : Uuid) : Bool :=
  match filteredAccountIds with
  | none => true
  | some allowedIds => id ∈ allowedIds

/-- The accounts a request is about. -/
def selectedAccounts (L : Locale) (db : Store) (userId : Uuid)
    (filteredAccountIds : Option (List Uuid)) : List Account :=
  (getAccountsForUser L db userId).filter fun a ↦ isSelected filteredAccountIds a.id

/-- `LatestMapValue`: type, subtype, currency and balance of an account. -/
structure LatestMapValue where
  accountType : String
  accountSubtype : Option String
  currency : String
  balance : Decimal
deriving DecidableEq, Repr

/-- `row.currency.to_uppercase() != "USD"`, for the ASCII currency codes. -/
def isForeignCurrency (currency : String) : Bool :=
  currency.toList.map Char.toUpper ≠ "USD".toList

/-- The rows the overview keeps: selected, and in dollars. -/
def overviewRows (L : Locale) (db : Store) (userId : Uuid)
    (filteredAccountIds : Option (List Uuid)) : List LatestAccountBalance :=
  ((getLatestAccountBalancesForUser L db userId).filter fun row ↦
    isSelected filteredAccountIds row.accountId).filter fun row ↦ !isForeignCurrency row.currency

/-- `latest_map`: the balances by institution, or the fallback to the accounts when there are
none. -/
def latestMap (L : Locale) (db : Store) (userId : Uuid) (filteredAccountIds : Option (List Uuid)) :
    List (String × List LatestMapValue) :=
  let m := AssocMap.groups LatestAccountBalance.institutionId
    (fun row ↦ LatestMapValue.mk row.accountType row.accountSubtype row.currency row.currentBalance)
    (overviewRows L db userId filteredAccountIds)
  if m = [] then
    AssocMap.groups (fun _ ↦ "unknown_institution")
      (fun acc ↦ LatestMapValue.mk acc.accountType none "USD" (acc.balanceCurrent.getD 0))
      (selectedAccounts L db userId filteredAccountIds)
  else m

/-- `name_map`: the name of an institution is the first one a row gives. -/
def nameMap (rows : List LatestAccountBalance) : List (String × String) :=
  rows.foldl
    (fun m row ↦
      match row.institutionName with
      | some name => AssocMap.orInsert row.institutionId name m
      | none => m)
    []

/-- The category sums of one institution. -/
def bankSums (accounts : List LatestMapValue) : CategoryTotals :=
  accounts.foldl
    (fun s v ↦ s.add (mapAccountToBalanceCategory v.accountType v.accountSubtype) v.balance)
    CategoryTotals.zero

/-- `get_authenticated_balances_overview`. -/
def getAuthenticatedBalancesOverview (L : Locale) (db : Store) (userId : Uuid)
    (filteredAccountIds : Option (List Uuid)) : BalancesOverviewResponse :=
  let rows := overviewRows L db userId filteredAccountIds
  let banks := latestMap L db userId filteredAccountIds
  { asOf := "latest"
    overall := finalizeTotals
      (banks.foldl (fun s bank ↦ s.plus (bankSums bank.2)) CategoryTotals.zero)
    banks := banks.map fun bank ↦
      { bankId := bank.1
        bankName := ((nameMap rows).lookup bank.1).getD bank.1
        totals := finalizeTotals (bankSums bank.2) }
    mixedCurrency := ((getLatestAccountBalancesForUser L db userId).filter fun row ↦
      isSelected filteredAccountIds row.accountId).any fun row ↦ isForeignCurrency row.currency }

/-! ### The overall net -/

/-- The category of an account as both analytics endpoints determine it: by its type alone. -/
def Account.balanceCategory (a : Account) : BalanceCategory :=
  mapAccountToBalanceCategory a.accountType none

/-- What an account contributes to the net worth today. -/
def Account.signedBalance (a : Account) : Decimal :=
  a.balanceCategory.signedBalance (a.balanceCurrent.getD 0)

/-- What an entry of `latest_map` contributes. -/
def LatestMapValue.signedBalance (v : LatestMapValue) : Decimal :=
  (mapAccountToBalanceCategory v.accountType v.accountSubtype).signedBalance v.balance

theorem bankSums_net (accounts : List LatestMapValue) :
    (bankSums accounts).net = (accounts.map LatestMapValue.signedBalance).sum := by
  rw [bankSums, CategoryTotals.net_foldl_add, CategoryTotals.net_zero, zero_add]
  rfl

/-- The nets of the institutions add up to the net of all their accounts. -/
theorem net_foldl_plus (banks : List (String × List LatestMapValue)) (s : CategoryTotals) :
    (banks.foldl (fun s bank ↦ s.plus (bankSums bank.2)) s).net =
      s.net + ((banks.flatMap Prod.snd).map LatestMapValue.signedBalance).sum := by
  induction banks generalizing s with
  | nil => simp
  | cons bank banks ih =>
    rw [List.foldl_cons, ih, CategoryTotals.net_plus, bankSums_net, List.flatMap_cons,
      List.map_append, List.sum_append, add_assoc]

variable (L : Locale) (db : Store) (userId : Uuid) (filteredAccountIds : Option (List Uuid))

/-- Every selected account is among the rows, whose currency is always the dollar. -/
theorem overviewRows_map_signedBalance :
    (overviewRows L db userId filteredAccountIds).map (fun row ↦
        LatestMapValue.signedBalance
          ⟨row.accountType, row.accountSubtype, row.currency, row.currentBalance⟩) =
      (selectedAccounts L db userId filteredAccountIds).map Account.signedBalance := by
  rw [overviewRows, getLatestAccountBalancesForUser_eq_map, List.filter_map, List.filter_map,
    List.map_map, selectedAccounts]
  have husd : (!isForeignCurrency "USD") = true := by decide
  have hdollar : ∀ l : List Account,
      l.filter ((fun row : LatestAccountBalance ↦ !isForeignCurrency row.currency) ∘ fun a ↦
        { accountId := a.id
          institutionId := a.institutionName.getD "unknown_institution"
          accountType := a.accountType
          accountSubtype := none
          currency := "USD"
          currentBalance := a.balanceCurrent.getD 0
          providerConnectionId := a.providerConnectionId
          institutionName := a.institutionName }) = l :=
    fun l ↦ List.filter_eq_self.2 fun a _ ↦ by
      rw [Function.comp_apply]
      exact husd
  rw [hdollar]
  rfl

/-- **The overall net of the overview is the sum of the signed balances of the selected
accounts.** -/
theorem overview_net_eq_sum :
    (getAuthenticatedBalancesOverview L db userId filteredAccountIds).overall.net =
      ((selectedAccounts L db userId filteredAccountIds).map Account.signedBalance).sum := by
  show (finalizeTotals _).net = _
  rw [finalizeTotals_net, net_foldl_plus, CategoryTotals.net_zero, zero_add, latestMap]
  split
  · -- no institution at all: the fallback totals the accounts themselves
    have hperm := AssocMap.flatMap_groups_perm (fun _ : Account ↦ "unknown_institution")
      (fun acc ↦ LatestMapValue.mk acc.accountType none "USD" (acc.balanceCurrent.getD 0))
      (selectedAccounts L db userId filteredAccountIds)
    rw [(hperm.map LatestMapValue.signedBalance).sum_eq, List.map_map]
    rfl
  · have hperm := AssocMap.flatMap_groups_perm LatestAccountBalance.institutionId
      (fun row ↦
        LatestMapValue.mk row.accountType row.accountSubtype row.currency row.currentBalance)
      (overviewRows L db userId filteredAccountIds)
    rw [(hperm.map LatestMapValue.signedBalance).sum_eq, List.map_map,
      ← overviewRows_map_signedBalance]
    rfl

end Sumurai
