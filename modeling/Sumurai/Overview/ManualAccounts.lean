import Sumurai.Repository.Accounts

/-!
# Manual accounts

The accounts that a user enters by hand: the statements of `repository_service.rs` that create,
update and delete them and record their balance of the day, and the six handlers of `main.rs`.

The handlers of investments and of assets differ in where the account type comes from. A handler
that succeeds goes on to remove the cached overviews of its session; that is modelled with the
cache, and what it depends on is `ManualResponse.succeeded`.
-/

namespace Sumurai

/-! ### The statements -/

/-- `create_manual_account`: the row, and the account with its time. -/
def createManualAccount (db : Store) (now : Timestamp) (a : Account) :
    Except DbError (Store × Account) :=
  let row := { a with
    providerAccountId := none
    providerConnectionId := none
    updatedAt := some now }
  if a.id ∈ db.accounts.map Account.id then .error .uniqueViolation
  else .ok ({ db with accounts := db.accounts ++ [row] }, { a with updatedAt := some now })

/-- The row that an update of a manual account is about. -/
def isManualRow (a r : Account) : Bool :=
  r.id = a.id && r.userId = a.userId && r.userId.isSome && r.providerConnectionId.isNone &&
    r.accountType = a.accountType

/-- `update_manual_account`. -/
def updateManualAccount (db : Store) (now : Timestamp) (a : Account) :
    Except DbError (Store × Account) :=
  if db.accounts.any (isManualRow a) then
    .ok ({ db with
      accounts := db.accounts.map fun r ↦
        if isManualRow a r then
          { r with
            name := a.name
            balanceCurrent := a.balanceCurrent
            mask := a.mask
            institutionName := a.institutionName
            updatedAt := some now }
        else r }, { a with updatedAt := some now })
  else .error .notFound

/-- `delete_manual_account`. -/
def deleteManualAccount (db : Store) (accountId userId : Uuid) : Except DbError Store :=
  let doomed := fun r : Account ↦
    decide (r.id = accountId) && decide (r.userId = some userId) && r.providerConnectionId.isNone
  if db.accounts.any doomed then deleteAccounts db doomed else .error .notFound

/-- `record_manual_account_balance`: the balance of the day, in the place of an earlier one. -/
def recordManualAccountBalance (db : Store) (accountId userId : Uuid) (asOfDate : NaiveDate)
    (balanceCurrent : Decimal) : Except DbError Store :=
  if db.manualAccountBalanceHistory.any fun h ↦ h.accountId = accountId ∧ h.asOfDate = asOfDate then
    .ok { db with
      manualAccountBalanceHistory := db.manualAccountBalanceHistory.map fun h ↦
        if h.accountId = accountId ∧ h.asOfDate = asOfDate then
          { h with balanceCurrent := balanceCurrent }
        else h }
  else if accountId ∈ db.accounts.map Account.id then
    .ok { db with
      manualAccountBalanceHistory := db.manualAccountBalanceHistory ++
        [⟨accountId, userId, asOfDate, balanceCurrent⟩] }
  else .error .foreignKeyViolation

/-! ### Requests and responses -/

/-- What the requests to create or update a manual account have in common. -/
structure ManualAccountRequest where
  institutionName : String
  name : String
  balanceCurrent : Decimal
  mask : Option String
deriving DecidableEq, Repr

/-- A request about manual accounts. -/
inductive ManualRequest where
  | createInvestment (request : ManualAccountRequest)
  | updateInvestment (accountId : Uuid) (request : ManualAccountRequest)
  | createAsset (accountType : String) (request : ManualAccountRequest)
  | updateAsset (accountId : Uuid) (accountType : String) (request : ManualAccountRequest)
  | deleteInvestment (accountId : Uuid)
  | deleteAsset (accountId : Uuid)
deriving DecidableEq, Repr

/-- `AccountResponse`. -/
structure AccountResponse where
  id : Uuid
  userId : Option Uuid
  providerAccountId : Option String
  providerConnectionId : Option Uuid
  name : String
  accountType : String
  balanceCurrent : Option Decimal
  mask : Option String
  transactionCount : ℤ
  institutionName : Option String
  updatedAt : Option Timestamp
deriving DecidableEq, Repr

/-- The answer to a request. -/
inductive ManualResponse where
  | account (response : AccountResponse)
  | deleted
  /-- A bare status code. -/
  | failed (status : ℕ)
deriving DecidableEq, Repr

/-- The request has been carried out. -/
def ManualResponse.succeeded : ManualResponse → Bool
  | account _ | deleted => true
  | failed _ => false

/-! ### The handlers -/

/-- `clean_manual_account_mask`. -/
def cleanManualAccountMask (mask : Option String) : Option String :=
  (mask.map fun value ↦ String.ofList ((trim value).take 24)).filter (· ≠ "")

/-- `normalize_manual_account_type`. -/
def normalizeManualAccountType (accountType : String) : Option String :=
  let lowered := (trim accountType).flatMap lowercaseChar
  let normalized := String.ofList (lowered.map fun c ↦ if c = '-' then '_' else c)
  if normalized ∈ ["investment", "property", "real_estate", "loan"] then some normalized else none

/-- `manual_account_response`. -/
def manualAccountResponse (a : Account) (userId : Uuid) : AccountResponse where
  id := a.id
  userId := some userId
  providerAccountId := none
  providerConnectionId := none
  name := a.name
  accountType := a.accountType
  balanceCurrent := a.balanceCurrent
  mask := a.mask
  transactionCount := 0
  institutionName := a.institutionName
  updatedAt := a.updatedAt

/-- What the environment chooses when a request is served. -/
structure ManualReply where
  newId : Uuid
  /-- `NOW()` of the database. -/
  now : Timestamp
  /-- `Utc::now` of the handler. -/
  today : NaiveDate
  databaseUp : Bool
  /-- The database still answers when the balance of the day is recorded. -/
  snapshotUp : Bool
deriving DecidableEq, Repr

/-- The account of a request that is valid. -/
def manualAccount (id userId : Uuid) (accountType : String) (request : ManualAccountRequest) :
    Option Account :=
  let institutionName := trim request.institutionName
  let name := trim request.name
  if institutionName = [] ∨ name = [] ∨ request.balanceCurrent < 0 then none
  else some
    { id := id
      userId := some userId
      providerAccountId := none
      providerConnectionId := none
      name := String.ofList name
      accountType := accountType
      balanceCurrent := some request.balanceCurrent
      mask := cleanManualAccountMask request.mask
      institutionName := some (String.ofList institutionName)
      updatedAt := none }

/-- `record_manual_account_balance_snapshot`. A failure is logged. -/
def recordManualAccountBalanceSnapshot (db : Store) (e : ManualReply) (a : Account)
    (userId : Uuid) : Store :=
  match a.balanceCurrent with
  | some balance =>
    if e.snapshotUp then
      match recordManualAccountBalance db a.id userId e.today balance with
      | .ok db => db
      | .error _ => db
    else db
  | none => db

/-- The status of an update or a deletion that failed. -/
def manualFailure : DbError → ℕ
  | .notFound => 404
  | _ => 500

/-- How a creation or an update goes on, and what it answers. -/
def finishManualAccount (db : Store) (e : ManualReply) (userId : Uuid) (failure : DbError → ℕ)
    (result : Except DbError (Store × Account)) : Store × ManualResponse :=
  if e.databaseUp then
    match result with
    | .ok (db, a) =>
      (recordManualAccountBalanceSnapshot db e a userId,
        .account (manualAccountResponse a userId))
    | .error err => (db, .failed (failure err))
  else (db, .failed (failure .unavailable))

/-- The creation of an account of a type. -/
def createManual (db : Store) (e : ManualReply) (userId : Uuid) (accountType : String)
    (request : ManualAccountRequest) : Store × ManualResponse :=
  let id := newV4 (db.accounts.map Account.id) e.newId
  match manualAccount id userId accountType request with
  | none => (db, .failed 400)
  | some a => finishManualAccount db e userId (fun _ ↦ 500) (createManualAccount db e.now a)

/-- The update of an account of a type. -/
def updateManual (db : Store) (e : ManualReply) (userId accountId : Uuid) (accountType : String)
    (request : ManualAccountRequest) : Store × ManualResponse :=
  match manualAccount accountId userId accountType request with
  | none => (db, .failed 400)
  | some a => finishManualAccount db e userId manualFailure (updateManualAccount db e.now a)

/-- `delete_authenticated_manual_asset_account`, and that of an investment. -/
def deleteManual (db : Store) (e : ManualReply) (userId accountId : Uuid) :
    Store × ManualResponse :=
  if e.databaseUp then
    match deleteManualAccount db accountId userId with
    | .ok db => (db, .deleted)
    | .error err => (db, .failed (manualFailure err))
  else (db, .failed (manualFailure .unavailable))

/-- The handlers of the manual accounts. -/
def serveManual (db : Store) (e : ManualReply) (userId : Uuid) :
    ManualRequest → Store × ManualResponse
  | .createInvestment request => createManual db e userId "investment" request
  | .updateInvestment accountId request =>
    updateManual db e userId accountId "investment" request
  | .createAsset accountType request =>
    match normalizeManualAccountType accountType with
    | some accountType => createManual db e userId accountType request
    | none => (db, .failed 400)
  | .updateAsset accountId accountType request =>
    match normalizeManualAccountType accountType with
    | some accountType => updateManual db e userId accountId accountType request
    | none => (db, .failed 400)
  | .deleteInvestment accountId => deleteManual db e userId accountId
  | .deleteAsset accountId => deleteManual db e userId accountId

/-! ### A request that fails changes nothing -/

section Failure

variable {db : Store} {e : ManualReply} {userId accountId : Uuid} {accountType : String}
  {request : ManualAccountRequest}

/-- The answer is a success, or the store is as it was. -/
def SucceedsOrKeeps (db : Store) (served : Store × ManualResponse) : Prop :=
  served.2.succeeded = true ∨ served.1 = db

theorem succeedsOrKeeps_failed {status : ℕ} : SucceedsOrKeeps db (db, .failed status) :=
  Or.inr rfl

theorem succeedsOrKeeps_finishManualAccount {failure : DbError → ℕ}
    {result : Except DbError (Store × Account)} :
    SucceedsOrKeeps db (finishManualAccount db e userId failure result) := by
  unfold finishManualAccount
  split
  · split
    · exact Or.inl rfl
    · exact succeedsOrKeeps_failed
  · exact succeedsOrKeeps_failed

theorem succeedsOrKeeps_createManual :
    SucceedsOrKeeps db (createManual db e userId accountType request) := by
  unfold createManual
  dsimp only
  split
  · exact succeedsOrKeeps_failed
  · exact succeedsOrKeeps_finishManualAccount

theorem succeedsOrKeeps_updateManual :
    SucceedsOrKeeps db (updateManual db e userId accountId accountType request) := by
  unfold updateManual
  split
  · exact succeedsOrKeeps_failed
  · exact succeedsOrKeeps_finishManualAccount

theorem succeedsOrKeeps_deleteManual : SucceedsOrKeeps db (deleteManual db e userId accountId) := by
  unfold deleteManual
  split
  · split
    · exact Or.inl rfl
    · exact succeedsOrKeeps_failed
  · exact succeedsOrKeeps_failed

/-- **A request that fails leaves the store as it was.** -/
theorem succeedsOrKeeps_serveManual (request : ManualRequest) :
    SucceedsOrKeeps db (serveManual db e userId request) := by
  cases request with
  | createInvestment request => exact succeedsOrKeeps_createManual
  | updateInvestment accountId request => exact succeedsOrKeeps_updateManual
  | createAsset accountType request =>
    rw [serveManual]
    split
    · exact succeedsOrKeeps_createManual
    · exact succeedsOrKeeps_failed
  | updateAsset accountId accountType request =>
    rw [serveManual]
    split
    · exact succeedsOrKeeps_updateManual
    · exact succeedsOrKeeps_failed
  | deleteInvestment accountId => exact succeedsOrKeeps_deleteManual
  | deleteAsset accountId => exact succeedsOrKeeps_deleteManual

end Failure

end Sumurai
