import Sumurai.Foundations.Json
import Sumurai.Models.Rows

/-!
# Transactions by the page

`RealPlaidClient::get_transactions` of `plaid_service.rs`. It asks for page after page, each from
the number of transactions it has received so far, until that number has reached the total that the
last answer states, or a page comes back empty.

The loop takes fuel; a call that has used it up is still asking. What it does not determine is the
`PlaidEnvironment`: the answers to its requests, the ids and the time of each transaction it makes,
and the conversions of numbers and dates, which belong to `rust_decimal` and `chrono`.

`getTransactions_exact` is the result: of a server that serves a list, whatever the sizes of its
pages, the call returns every transaction of the list once and in order, after at most one request
more than the list is long.
-/

namespace Sumurai

/-- A response of the provider: whether its status is a success, its text, if it can be read, and
what it parses to. -/
structure ProviderResponse where
  success : Bool
  text : Option String
  json : Except String Json

/-- The ids and the time of a new transaction. -/
structure FreshValues where
  id : Uuid
  accountId : Uuid
  now : Timestamp

/-- What a call of the client meets. -/
structure PlaidEnvironment where
  /-- The answer to the `n`-th request of the call. -/
  post : ℕ → String → Json → Except String ProviderResponse
  /-- `Uuid::new_v4`, twice, and `Utc::now` for the `n`-th transaction. -/
  fresh : ℕ → FreshValues
  /-- `as_f64` of a number, and `Decimal::from_f64` of the result. -/
  fromF64 : String → Option Decimal
  /-- `NaiveDate::parse_from_str` with `%Y-%m-%d`. -/
  parseFromStr : String → Option NaiveDate
  /-- `NaiveDate::format` with `%Y-%m-%d`. -/
  format : NaiveDate → String

/-- `RealPlaidClient`, as far as this call uses it. -/
structure RealPlaidClient where
  clientId : String
  secret : String
  baseUrl : String

/-! ### One transaction -/

/-- The category of a transaction, from those of the provider. -/
def plaidCategory (primary detailed : String) : String × String :=
  if eqIgnoreAsciiCase primary "RENT_AND_UTILITIES" then
    ("Bills & Utilities",
      if "WATER".toList <:+: toUppercase detailed then "Water"
      else if "TELEPHONE".toList <:+: toUppercase detailed ∨
          "PHONE".toList <:+: toUppercase detailed then "Phone"
      else if "INTERNET".toList <:+: toUppercase detailed then "Internet"
      else "Utilities")
  else if eqIgnoreAsciiCase primary "GENERAL_MERCHANDISE" ∨ eqIgnoreAsciiCase primary "OTHER" ∨
      trim primary = [] ∨ eqIgnoreAsciiCase primary "uncategorized" then
    ("Shopping",
      if "ELECTRONICS".toList <:+: toUppercase detailed then "Electronics"
      else if "CLOTHING".toList <:+: toUppercase detailed then "Clothing"
      else "Shopping")
  else (primary, detailed)

/-- The amount of a transaction. -/
def plaidAmount (env : PlaidEnvironment) (t : Json) : Decimal :=
  match t.get "amount" with
  | some (.number text) => (env.fromF64 text).getD 0
  | _ => 0

/-- The transaction of an entry, the `n`-th that the call makes. -/
def plaidTransaction (env : PlaidEnvironment) (n : ℕ) (t : Json) : Transaction :=
  let name := ((t.get "name").bind Json.asStr).getD "Unknown"
  let date := ((t.get "date").bind Json.asStr).getD "1970-01-01"
  let category := t.get "personal_finance_category"
  let primary := ((category.bind fun pfc ↦ pfc.get "primary").bind Json.asStr).getD "Shopping"
  let detailed := ((category.bind fun pfc ↦ pfc.get "detailed").bind Json.asStr).getD primary
  { id := (env.fresh n).id
    accountId := (env.fresh n).accountId
    userId := none
    providerAccountId := (t.get "account_id").bind Json.asStr
    providerTransactionId := (t.get "transaction_id").bind Json.asStr
    amount := plaidAmount env t
    date := (env.parseFromStr date).getD 0
    merchantName := some name
    categoryPrimary := (plaidCategory primary detailed).1
    categoryDetailed := (plaidCategory primary detailed).2
    categoryConfidence :=
      ((category.bind fun pfc ↦ pfc.get "confidence_level").bind Json.asStr).getD "MEDIUM"
    paymentChannel := (t.get "payment_channel").bind Json.asStr
    pending := ((t.get "pending").bind Json.asBool).getD false
    createdAt := some (env.fresh n).now }

/-- The transactions of entries, of which the first is the `n`-th that the call makes. -/
def plaidTransactions (env : PlaidEnvironment) (n : ℕ) (ts : List Json) : List Transaction :=
  ts.mapIdx fun i t ↦ plaidTransaction env (n + i) t

/-! ### The loop -/

/-- `PAGE_SIZE`. -/
def pageSize : ℕ := 500

/-- A request of the client: the access token and the range it asks about. -/
structure TransactionsRequest where
  accessToken : String
  startDate : NaiveDate
  endDate : NaiveDate

/-- The body of a request. -/
def requestBody (client : RealPlaidClient) (env : PlaidEnvironment) (request : TransactionsRequest)
    (offset : ℕ) : Json :=
  .object [
    ("client_id", .string client.clientId),
    ("secret", .string client.secret),
    ("access_token", .string request.accessToken),
    ("start_date", .string (env.format request.startDate)),
    ("end_date", .string (env.format request.endDate)),
    ("options", .object [
      ("count", .number (toString pageSize)),
      ("offset", .number (toString offset))])]

/-- The `n`-th request, and what the client reads of its answer: the total and the entries. -/
def requestPage (client : RealPlaidClient) (env : PlaidEnvironment) (request : TransactionsRequest)
    (n offset : ℕ) : Except String (ℕ × List Json) :=
  match env.post n (client.baseUrl ++ "/transactions/get")
    (requestBody client env request offset) with
  | .error message => .error message
  | .ok response =>
    if response.success then
      match response.json with
      | .error message => .error message
      | .ok data =>
        .ok (((data.get "total_transactions").bind Json.asU64).getD 0,
          ((data.get "transactions").bind Json.asArray).getD [])
    else .error ("Plaid API error: " ++ response.text.getD "Unknown error")

/-- The rounds of `get_transactions`, from the `n`-th request on. -/
def transactionPages (client : RealPlaidClient) (env : PlaidEnvironment)
    (request : TransactionsRequest) :
    ℕ → ℕ → ℕ → List Transaction → Option (Except String (List Transaction))
  | 0, _, _, _ => none
  | fuel + 1, n, offset, transactions =>
    match requestPage client env request n offset with
    | .error message => some (.error message)
    | .ok (totalTransactions, page) =>
      let transactions := transactions ++ plaidTransactions env transactions.length page
      let offset := offset + page.length
      if totalTransactions ≤ offset ∨ page.length = 0 then some (.ok transactions)
      else transactionPages client env request fuel (n + 1) offset transactions

/-- `get_transactions`. -/
def getTransactions (client : RealPlaidClient) (env : PlaidEnvironment)
    (request : TransactionsRequest) (fuel : ℕ) : Option (Except String (List Transaction)) :=
  transactionPages client env request fuel 0 0 []

/-! ### The guarantee -/

/-- The server serves a list: whatever the number of the request, it answers with the true total and
with a page that goes on with the list at the offset, which is of the requested size at most, and
empty only at the end. -/
def ServesList (client : RealPlaidClient) (env : PlaidEnvironment) (request : TransactionsRequest)
    (list : List Json) : Prop :=
  ∀ n, ∀ offset ≤ list.length, ∃ response data page,
    env.post n (client.baseUrl ++ "/transactions/get") (requestBody client env request offset) =
        .ok response ∧
      response.success = true ∧ response.json = .ok data ∧
      (data.get "total_transactions").bind Json.asU64 = some list.length ∧
      (data.get "transactions").bind Json.asArray = some page ∧
      page <+: list.drop offset ∧ page.length ≤ pageSize ∧ (page = [] → offset = list.length)

section Pages

variable {client : RealPlaidClient} {env : PlaidEnvironment} {request : TransactionsRequest}
  {list : List Json}

theorem plaidTransactions_append (n : ℕ) (ts ts' : List Json) :
    plaidTransactions env n (ts ++ ts') =
      plaidTransactions env n ts ++ plaidTransactions env (n + ts.length) ts' := by
  rw [plaidTransactions, List.mapIdx_append]
  refine congrArg (plaidTransactions env n ts ++ ·) (List.mapIdx_eq_mapIdx_iff.2 fun i hi ↦ ?_)
  rw [Nat.add_comm i, Nat.add_assoc]

/-- What the client reads of an answer of such a server. -/
theorem ServesList.requestPage_eq (h : ServesList client env request list) (n : ℕ) {offset : ℕ}
    (hoffset : offset ≤ list.length) : ∃ page,
      requestPage client env request n offset = .ok (list.length, page) ∧
        page <+: list.drop offset ∧ (page = [] → offset = list.length) := by
  obtain ⟨response, data, page, hpost, hsuccess, hjson, htotal, hentries, hprefix, -, hempty⟩ :=
    h n offset hoffset
  refine ⟨page, ?_, hprefix, hempty⟩
  rw [requestPage, hpost]
  show (if response.success then _ else _) = _
  rw [if_pos hsuccess, hjson]
  show Except.ok _ = _
  rw [htotal, hentries]
  rfl

/-- The rounds that are left, with the list received up to the offset: they return the transactions
of the whole list. The induction is on the fuel, and every round but the last takes the offset
on. -/
theorem transactionPages_eq (h : ServesList client env request list) :
    ∀ fuel n offset, offset ≤ list.length → list.length - offset < fuel →
      transactionPages client env request fuel n offset
        (plaidTransactions env 0 (list.take offset)) =
          some (.ok (plaidTransactions env 0 list)) := by
  intro fuel
  induction fuel with
  | zero => exact fun n offset _ hfuel ↦ absurd hfuel (Nat.not_lt_zero _)
  | succ fuel ih =>
    intro n offset hoffset hfuel
    obtain ⟨page, hpage, ⟨rest, hrest⟩, hempty⟩ := h.requestPage_eq n hoffset
    have htake : list.take (offset + page.length) = list.take offset ++ page := by
      rw [List.take_add, ← hrest, List.take_left]
    have hlength : offset + page.length + rest.length = list.length := by
      have hdrop := congrArg List.length hrest
      rw [List.length_append, List.length_drop] at hdrop
      omega
    have hsofar : (plaidTransactions env 0 (list.take offset)).length = offset := by
      rw [plaidTransactions, List.length_mapIdx, List.length_take_of_le hoffset]
    have hreceived : plaidTransactions env 0 (list.take offset) ++
        plaidTransactions env (plaidTransactions env 0 (list.take offset)).length page =
          plaidTransactions env 0 (list.take (offset + page.length)) := by
      rw [htake, plaidTransactions_append, hsofar, List.length_take_of_le hoffset, Nat.zero_add]
    rw [transactionPages, hpage]
    show (if _ then _ else _) = _
    rw [hreceived]
    split
    · -- the last round: the whole list has been received
      rename_i hlast
      have hend : list.length ≤ offset + page.length := by
        rcases hlast with hlast | hnone
        · exact hlast
        · have hoffset' := hempty (List.length_eq_zero_iff.1 hnone)
          omega
      rw [List.take_of_length_le hend]
    · rename_i hmore
      rw [not_or] at hmore
      exact ih (n + 1) (offset + page.length) (by omega) (by omega)

/-- **Plaid paging is exact.** A server that serves a list is asked at most once more than the list
is long, and the call returns the transactions of the list, each once and in order. -/
theorem getTransactions_exact (h : ServesList client env request list) {fuel : ℕ}
    (hfuel : list.length < fuel) :
    getTransactions client env request fuel =
      some (.ok (list.mapIdx fun i t ↦ plaidTransaction env i t)) := by
  have hall : getTransactions client env request fuel = some (.ok (plaidTransactions env 0 list)) :=
    transactionPages_eq h fuel 0 0 (Nat.zero_le _) hfuel
  rw [hall, plaidTransactions]
  simp only [Nat.zero_add]

end Pages

/-- Three entries. -/
def threeEntries : List Json :=
  [.object [("transaction_id", .string "txn-1")], .object [("transaction_id", .string "txn-2")],
    .object [("transaction_id", .string "txn-3")]]

/-- A server that serves the three entries in pages of two. -/
def pagesOfTwo : PlaidEnvironment where
  post _ _ body :=
    let offset := (((body.get "options").bind fun o ↦ o.get "offset").bind Json.asU64).getD 0
    .ok {
      success := true
      text := none
      json := .ok (.object [
        ("total_transactions", .number "3"),
        ("transactions", .array ((threeEntries.drop offset).take 2))]) }
  fresh n := ⟨2 * n + 1, 2 * n + 2, 0⟩
  fromF64 _ := none
  parseFromStr _ := none
  format _ := ""

/-- The three entries, received in two pages. -/
theorem getTransactions_pagesOfTwo :
    getTransactions ⟨"client", "secret", "https://production.plaid.com"⟩ pagesOfTwo
        ⟨"access-1", 0, 100⟩ 4 =
      some (.ok (threeEntries.mapIdx fun i t ↦ plaidTransaction pagesOfTwo i t)) := by
  refine getTransactions_exact (fun n offset hoffset ↦ ?_) (by decide)
  have hcases : offset = 0 ∨ offset = 1 ∨ offset = 2 ∨ offset = 3 := by
    have hthree : threeEntries.length = 3 := rfl
    omega
  refine ⟨_, _, (threeEntries.drop offset).take 2, rfl, rfl, rfl, rfl, ?_, List.take_prefix _ _, ?_⟩
  · rcases hcases with rfl | rfl | rfl | rfl <;> rfl
  · rcases hcases with rfl | rfl | rfl | rfl <;> exact ⟨by decide, by decide⟩

end Sumurai
