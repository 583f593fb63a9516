import Sumurai.Foundations.Json
import Sumurai.Connection.Calls

/-!
# The balances of Teller accounts

`TellerProvider::get_accounts` of `teller_provider.rs`. It lists the account objects, asks for the
balances of each id among them, and puts the answers together with the objects by position. An
object without an id has no answer of its own: from the first such object on the answers are those
of later objects, and as many objects at the end of the list go without.

`balancesGoRight_iff` says exactly when this does no harm: when no object without an id stands
before one that has an id.
-/

namespace Sumurai

/-- What `TellerProvider` uses: the HTTP client, fresh ids for the accounts it makes, and
`Decimal::from_str`. -/
structure TellerEnvironment where
  baseUrl : String
  /-- `get_json_array`, of a URL with an access token. -/
  getJsonArray : String → String → Except String (List Json)
  /-- `get_json_value`, of a URL with an access token. -/
  getJsonValue : String → String → Except String Json
  /-- `Decimal::from_str`. -/
  fromStr : String → Option Decimal
  /-- `Uuid::new_v4`, for the `n`-th account. -/
  newId : ℕ → Uuid

/-- `TellerBalances`. -/
structure TellerBalances where
  ledger : Option Decimal
  current : Option Decimal
  available : Option Decimal
  statement : Option Decimal
deriving DecidableEq, Repr

/-! ### Reading balances -/

/-- The number in a text: its digits, points and signs, or the trimmed text if it has none of
them. -/
def balanceText (s : String) : String :=
  let sanitized := s.toList.filter fun c ↦ c.isDigit || c = '.' || c = '-'
  String.ofList (if sanitized = [] then trim s else sanitized)

mutual

/-- `parse_balance_decimal`. -/
def parseBalanceDecimal (fromStr : String → Option Decimal) : Json → Option Decimal
  | .null => none
  | .bool _ => none
  | .number text => fromStr text
  | .string s => fromStr (balanceText s)
  | .array values => parseFirst fromStr values
  | .object members =>
    match parseMember fromStr "value" members with
    | some balance => balance
    | none =>
      match parseMember fromStr "amount" members with
      | some balance => balance
      | none =>
        match parseMember fromStr "current" members with
        | some balance => balance
        | none => none

/-- `find_map` over the elements of an array. -/
def parseFirst (fromStr : String → Option Decimal) : List Json → Option Decimal
  | [] => none
  | v :: values => (parseBalanceDecimal fromStr v).or (parseFirst fromStr values)

/-- The balance of the member with a name, if there is one. -/
def parseMember (fromStr : String → Option Decimal) (name : String) :
    List (String × Json) → Option (Option Decimal)
  | [] => none
  | (n, v) :: members =>
    if n = name then some (parseBalanceDecimal fromStr v) else parseMember fromStr name members

end

/-! ### The accounts -/

namespace TellerProvider

/-- `get_account_balances`. -/
def getAccountBalances (env : TellerEnvironment) (credentials : ProviderCredentials)
    (accountId : String) : Except String TellerBalances :=
  match env.getJsonValue (env.baseUrl ++ "/accounts/" ++ accountId ++ "/balances")
      credentials.accessToken with
  | .error message => .error message
  | .ok balances => .ok {
      ledger := parseBalanceDecimal env.fromStr (balances.index "ledger")
      current := parseBalanceDecimal env.fromStr (balances.index "current")
      available := parseBalanceDecimal env.fromStr (balances.index "available")
      statement := parseBalanceDecimal env.fromStr (balances.index "statement") }

/-- The id of an account object, if it has one. -/
def accountId (acc : Json) : Option String :=
  (acc.index "id").asStr

/-- `Account::from_teller`, for the `n`-th account. -/
def fromTeller (env : TellerEnvironment) (n : ℕ) (acc : Json) : Account where
  id := env.newId n
  userId := none
  providerAccountId := accountId acc
  providerConnectionId := none
  name := ((acc.index "name").asStr).getD "Unknown"
  accountType := ((acc.index "type").asStr).getD "other"
  balanceCurrent := none
  mask := (acc.index "last_four").asStr
  institutionName := ((acc.index "institution").index "name").asStr
  updatedAt := none

/-- The account of an object and of the balances that were put to it. -/
def accountWith (env : TellerEnvironment) (n : ℕ) (acc : Json)
    (balances : Except String TellerBalances) : Account :=
  match balances with
  | .error _ => fromTeller env n acc
  | .ok bal => { fromTeller env n acc with
      balanceCurrent := ((((bal.ledger.or bal.current).or bal.available).or bal.statement).or
        (parseBalanceDecimal env.fromStr (acc.index "balance"))).or
          ((acc.index "balance").asStr.bind env.fromStr) }

/-- The accounts of objects, with the answers put to them by position. -/
def accountsWith (env : TellerEnvironment) (tellerAccounts : List Json)
    (balances : List (Except String TellerBalances)) : List Account :=
  (tellerAccounts.zip balances).mapIdx fun n p ↦ accountWith env n p.1 p.2

/-- `get_accounts`. -/
def getAccounts (env : TellerEnvironment) (credentials : ProviderCredentials) :
    Except String (List Account) :=
  match env.getJsonArray (env.baseUrl ++ "/accounts") credentials.accessToken with
  | .error message => .error message
  | .ok tellerAccounts =>
    let accountIds := tellerAccounts.filterMap accountId
    .ok (accountsWith env tellerAccounts (accountIds.map (getAccountBalances env credentials)))

/-! ### Answers by position -/

section Positions

variable {α β γ : Type} {f : α → Option β}

/-- The elements are in step with what is taken from them exactly if nothing is taken only at the
end of the list. -/
theorem pairwise_iff_zip {l : List α} :
    l.Pairwise (fun a b ↦ (f b).isSome = true → (f a).isSome = true) ↔
      ∀ p ∈ l.zip (l.filterMap f), (f p.1).isSome = true := by
  induction l with
  | nil => simp
  | cons a l ih =>
    rw [List.pairwise_cons, ih]
    rcases ha : f a with - | b
    · rw [List.filterMap_cons_none ha]
      -- the first element takes what is of a later one
      rcases htaken : l.filterMap f with - | ⟨b, taken⟩
      · refine iff_of_true ⟨fun a' ha' hsome ↦ ?_, by simp⟩ (by simp)
        rw [List.filterMap_eq_nil_iff.1 htaken a' ha'] at hsome
        exact hsome
      · refine iff_of_false (fun h ↦ ?_) (fun h ↦ ?_)
        · obtain ⟨a', ha', hb⟩ := List.mem_filterMap.1
            (show b ∈ l.filterMap f from htaken ▸ List.mem_cons_self)
          exact absurd (h.1 a' ha' (by rw [hb]; rfl)) Bool.false_ne_true
        · have hfirst := h (a, b) (by rw [List.zip_cons_cons]; exact List.mem_cons_self)
          rw [ha] at hfirst
          exact Bool.false_ne_true hfirst
    · rw [List.filterMap_cons_some ha, List.zip_cons_cons, List.forall_mem_cons]
      exact and_congr_left fun _ ↦ iff_of_true (fun _ _ _ ↦ rfl) (by rw [ha]; rfl)

/-- In step, every element has its own. -/
theorem zip_filterMap {l : List α}
    (h : l.Pairwise fun a b ↦ (f b).isSome = true → (f a).isSome = true) (g : β → γ) :
    l.zip ((l.filterMap f).map g) = l.filterMap fun a ↦ (f a).map fun b ↦ (a, g b) := by
  induction l with
  | nil => rfl
  | cons a l ih =>
    obtain ⟨hfirst, hrest⟩ := List.pairwise_cons.1 h
    rcases ha : f a with - | b
    · have hnone : ∀ a' ∈ l, f a' = none := by
        intro a' ha'
        rcases hb : f a' with - | b
        · rfl
        · have hsome := hfirst a' ha' (by rw [hb]; rfl)
          rw [ha] at hsome
          exact absurd hsome Bool.false_ne_true
      rw [List.filterMap_cons_none ha, List.filterMap_eq_nil_iff.2 hnone, List.map_nil,
        List.zip_nil_right]
      refine (List.filterMap_eq_nil_iff.2 fun a' ha' ↦ ?_).symm
      rcases List.mem_cons.1 ha' with rfl | ha'
      · rw [ha, Option.map_none]
      · rw [hnone a' ha', Option.map_none]
    · rw [List.filterMap_cons_some ha, List.map_cons, List.zip_cons_cons, ih hrest,
        List.filterMap_cons_some (by rw [ha]; rfl)]

end Positions

/-! ### The guarantee -/

/-- The account is that of an object with an id, and carries the balance fetched for this id. -/
def CarriesOwn (env : TellerEnvironment) (credentials : ProviderCredentials) (acc : Json)
    (account : Account) : Prop :=
  ∃ id n, accountId acc = some id ∧
    account = accountWith env n acc (getAccountBalances env credentials id)

/-- Every account of the result carries the balance fetched for its own id, and so does one for each
object with an id. -/
def BalancesGoRight (env : TellerEnvironment) (credentials : ProviderCredentials) : Prop :=
  ∀ tellerAccounts accounts,
    env.getJsonArray (env.baseUrl ++ "/accounts") credentials.accessToken = .ok tellerAccounts →
      getAccounts env credentials = .ok accounts →
        (∀ account ∈ accounts, ∃ acc ∈ tellerAccounts, CarriesOwn env credentials acc account) ∧
          ∀ acc ∈ tellerAccounts, (accountId acc).isSome = true →
            ∃ account ∈ accounts, CarriesOwn env credentials acc account

/-- No object without an id stands before one with an id. -/
def IdsComeFirst (tellerAccounts : List Json) : Prop :=
  tellerAccounts.Pairwise fun a b ↦ (accountId b).isSome = true → (accountId a).isSome = true

section Guarantee

variable {env : TellerEnvironment} {credentials : ProviderCredentials}

theorem accountWith_providerAccountId (n : ℕ) (acc : Json)
    (balances : Except String TellerBalances) :
    (accountWith env n acc balances).providerAccountId = accountId acc := by
  cases balances <;> rfl

/-- A pair makes an account. -/
theorem exists_mem_accountsWith (env : TellerEnvironment) {tellerAccounts : List Json}
    {balances : List (Except String TellerBalances)} {p : Json × Except String TellerBalances}
    (hp : p ∈ tellerAccounts.zip balances) :
    ∃ n, accountWith env n p.1 p.2 ∈ accountsWith env tellerAccounts balances := by
  obtain ⟨n, hn, rfl⟩ := List.mem_iff_getElem.1 hp
  exact ⟨n, List.mem_mapIdx.2 ⟨n, hn, rfl⟩⟩

/-- An account comes from a pair. -/
theorem exists_pair_of_mem {tellerAccounts : List Json}
    {balances : List (Except String TellerBalances)} {account : Account}
    (h : account ∈ accountsWith env tellerAccounts balances) :
    ∃ p ∈ tellerAccounts.zip balances, ∃ n, account = accountWith env n p.1 p.2 := by
  obtain ⟨n, hn, rfl⟩ := List.mem_mapIdx.1 h
  exact ⟨_, List.getElem_mem hn, n, rfl⟩

/-- **When Teller balances go to the right accounts.** -/
theorem balancesGoRight_iff (env : TellerEnvironment) (credentials : ProviderCredentials) :
    BalancesGoRight env credentials ↔ ∀ tellerAccounts,
      env.getJsonArray (env.baseUrl ++ "/accounts") credentials.accessToken = .ok tellerAccounts →
        IdsComeFirst tellerAccounts := by
  have haccounts : ∀ tellerAccounts,
      env.getJsonArray (env.baseUrl ++ "/accounts") credentials.accessToken = .ok tellerAccounts →
        getAccounts env credentials = .ok (accountsWith env tellerAccounts
          ((tellerAccounts.filterMap accountId).map (getAccountBalances env credentials))) := by
    intro tellerAccounts hlisted
    rw [getAccounts, hlisted]
  constructor
  · intro hright tellerAccounts hlisted
    obtain ⟨hown, -⟩ := hright tellerAccounts _ hlisted (haccounts tellerAccounts hlisted)
    refine pairwise_iff_zip.2 fun p hp ↦ ?_
    have hpair : (p.1, getAccountBalances env credentials p.2) ∈ tellerAccounts.zip
        ((tellerAccounts.filterMap accountId).map (getAccountBalances env credentials)) := by
      rw [List.zip_map_right]
      exact List.mem_map.2 ⟨p, hp, rfl⟩
    obtain ⟨n, hmem⟩ := exists_mem_accountsWith env hpair
    -- the account of the pair has the id of an object, which is that of its own
    obtain ⟨acc, -, id, n', hid, heq⟩ := hown _ hmem
    have hsame := congrArg Account.providerAccountId heq
    rw [accountWith_providerAccountId, accountWith_providerAccountId, hid] at hsame
    exact hsame ▸ rfl
  · intro hfirst tellerAccounts accounts hlisted hresult
    obtain rfl := Except.ok.inj ((haccounts tellerAccounts hlisted).symm.trans hresult)
    have hzip := zip_filterMap (hfirst tellerAccounts hlisted) (getAccountBalances env credentials)
    have hpair : ∀ p, p ∈ tellerAccounts.zip ((tellerAccounts.filterMap accountId).map
        (getAccountBalances env credentials)) ↔ ∃ acc ∈ tellerAccounts, ∃ id,
          accountId acc = some id ∧ (acc, getAccountBalances env credentials id) = p := by
      intro p
      rw [hzip, List.mem_filterMap]
      simp only [Option.map_eq_some_iff]
    constructor
    · intro account haccount
      obtain ⟨p, hp, n, rfl⟩ := exists_pair_of_mem haccount
      obtain ⟨acc, hacc, id, hid, rfl⟩ := (hpair p).1 hp
      exact ⟨acc, hacc, id, n, hid, rfl⟩
    · intro acc hacc hsome
      obtain ⟨id, hid⟩ := Option.isSome_iff_exists.1 hsome
      obtain ⟨n, hmem⟩ := exists_mem_accountsWith env
        ((hpair _).2 ⟨acc, hacc, id, hid, rfl⟩)
      exact ⟨_, hmem, id, n, hid, rfl⟩

end Guarantee

/-- A bank that lists a closed account without an id before the checking account, whose balance it
knows. -/
def closedAccountFirst : TellerEnvironment where
  baseUrl := "https://api.teller.io"
  getJsonArray _ _ := .ok [
    .object [("name", .string "Closed")],
    .object [("id", .string "acc-1"), ("name", .string "Checking")]]
  getJsonValue _ _ := .ok (.object [("ledger", .string "12.00")])
  fromStr s := if s = "12.00" then some 1200 else none
  newId n := n

/-- The closed account gets the balance of the checking account. -/
example : (getAccounts closedAccountFirst ⟨"teller", "token-1", "teller_enr_1"⟩).map
    (fun accounts ↦ accounts.map fun a ↦ (a.name, a.balanceCurrent)) =
      .ok [("Closed", some 1200)] := by decide

/-- **An account that is dropped.** The checking account is not in the result. -/
theorem not_balancesGoRight_closedAccountFirst :
    ¬BalancesGoRight closedAccountFirst ⟨"teller", "token-1", "teller_enr_1"⟩ := by
  intro h
  obtain ⟨hown, -⟩ := h _ _ rfl rfl
  obtain ⟨acc, -, id, n, hid, heq⟩ := hown _ List.mem_cons_self
  -- the one account of the result has no id
  have hnone := congrArg Account.providerAccountId heq
  rw [accountWith_providerAccountId, accountWith_providerAccountId, hid] at hnone
  exact absurd hnone nofun

end TellerProvider

end Sumurai
