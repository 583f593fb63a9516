import Sumurai.Analytics.NetWorthLaws
import Sumurai.Foundations.Runs
import Sumurai.Overview.ManualAccounts

/-!
# Manual balances and their history

A request that creates or updates a manual account makes two transactions. The first writes the row
of the account, the second the snapshot of the day, with the balance that the first has written.
Between the two the handler reads the clock, and a failure of the second is only logged.

The requests in flight take turns (`ManualPool.step`). What the history says of an account when all
of them are answered depends on the last snapshot of that account alone: it must be written, on a
day that no snapshot is after, with the balance that the row has (`RecordsLastBalance`).
-/

open LabelledSystem

namespace Sumurai

/-! ### The transactions of a request -/

/-- A request to create or to update a manual account. -/
inductive ManualEdit where
  | createInvestment (request : ManualAccountRequest)
  | updateInvestment (accountId : Uuid) (request : ManualAccountRequest)
  | createAsset (accountType : String) (request : ManualAccountRequest)
  | updateAsset (accountId : Uuid) (accountType : String) (request : ManualAccountRequest)
deriving DecidableEq, Repr

/-- The request to the endpoints. -/
def ManualEdit.toRequest : ManualEdit → ManualRequest
  | createInvestment request => .createInvestment request
  | updateInvestment accountId request => .updateInvestment accountId request
  | createAsset accountType request => .createAsset accountType request
  | updateAsset accountId accountType request => .updateAsset accountId accountType request

/-- The result of the first transaction: the account, or the status of the answer. -/
def storedOrStatus (e : ManualReply) (failure : DbError → ℕ)
    (result : Except DbError (Store × Account)) : Except ℕ (Store × Account) :=
  if e.databaseUp then result.mapError failure else .error (failure .unavailable)

/-- A creation up to the row. -/
def storeCreation (db : Store) (e : ManualReply) (userId : Uuid) (accountType : String)
    (request : ManualAccountRequest) : Except ℕ (Store × Account) :=
  match manualAccount (newV4 (db.accounts.map Account.id) e.newId) userId accountType request with
  | none => .error 400
  | some a => storedOrStatus e (fun _ ↦ 500) (createManualAccount db e.now a)

/-- An update up to the row. -/
def storeUpdate (db : Store) (e : ManualReply) (userId accountId : Uuid) (accountType : String)
    (request : ManualAccountRequest) : Except ℕ (Store × Account) :=
  match manualAccount accountId userId accountType request with
  | none => .error 400
  | some a => storedOrStatus e manualFailure (updateManualAccount db e.now a)

/-- A request up to the row. -/
def ManualEdit.store (db : Store) (e : ManualReply) (userId : Uuid) :
    ManualEdit → Except ℕ (Store × Account)
  | createInvestment request => storeCreation db e userId "investment" request
  | updateInvestment accountId request => storeUpdate db e userId accountId "investment" request
  | createAsset accountType request =>
    match normalizeManualAccountType accountType with
    | some accountType => storeCreation db e userId accountType request
    | none => .error 400
  | updateAsset accountId accountType request =>
    match normalizeManualAccountType accountType with
    | some accountType => storeUpdate db e userId accountId accountType request
    | none => .error 400

/-! ### Requests that take turns -/

/-- A request that is served. -/
inductive ManualThread where
  | waiting (userId : Uuid) (edit : ManualEdit)
  /-- The row of the account is written. -/
  | stored (userId : Uuid) (a : Account)
  /-- The handler has read the clock. -/
  | dated (userId : Uuid) (a : Account) (today : NaiveDate)
  | returned (response : ManualResponse)
deriving DecidableEq, Repr

/-- The next move of a request. The balance of the day is the last that touches the store. -/
def ManualThread.turn (db : Store) (e : ManualReply) : ManualThread → Store × ManualThread
  | waiting userId edit =>
    match edit.store db e userId with
    | .ok (db, a) => (db, .stored userId a)
    | .error status => (db, .returned (.failed status))
  | stored userId a => (db, .dated userId a e.today)
  | dated userId a today =>
    (recordManualAccountBalanceSnapshot db { e with today := today } a userId,
      .returned (.account (manualAccountResponse a userId)))
  | returned response => (db, .returned response)

/-- The store and the requests that it serves. -/
structure ManualPool where
  db : Store
  threads : List ManualThread
deriving DecidableEq, Repr

/-- A step: a request arrives, or one takes its turn. -/
inductive ManualStep where
  | arrive (userId : Uuid) (edit : ManualEdit)
  | turn (i : ℕ) (e : ManualReply)
deriving DecidableEq, Repr

/-- A step of the requests. -/
def ManualPool.step (p : ManualPool) : ManualStep → ManualPool
  | .arrive userId edit => { p with threads := p.threads ++ [.waiting userId edit] }
  | .turn i e =>
    match p.threads[i]? with
    | some t => ⟨(t.turn p.db e).1, p.threads.set i (t.turn p.db e).2⟩
    | none => p

section Alone

variable {db : Store} {e : ManualReply} {userId accountId : Uuid} {accountType : String}
  {request : ManualAccountRequest}

/-- How a request goes on from its row. -/
def finishStored (db : Store) (e : ManualReply) (userId : Uuid) :
    Except ℕ (Store × Account) → Store × ManualResponse
  | .ok (db, a) =>
    (recordManualAccountBalanceSnapshot db e a userId, .account (manualAccountResponse a userId))
  | .error status => (db, .failed status)

theorem finishStored_storedOrStatus {failure : DbError → ℕ}
    {result : Except DbError (Store × Account)} :
    finishStored db e userId (storedOrStatus e failure result) =
      finishManualAccount db e userId failure result := by
  unfold storedOrStatus finishManualAccount
  cases e.databaseUp with
  | false => rfl
  | true => rcases result with err | ⟨db', a⟩ <;> rfl

theorem finishStored_storeCreation :
    finishStored db e userId (storeCreation db e userId accountType request) =
      createManual db e userId accountType request := by
  unfold storeCreation createManual
  dsimp only
  cases manualAccount (newV4 (db.accounts.map Account.id) e.newId) userId accountType request with
  | none => rfl
  | some a => exact finishStored_storedOrStatus

theorem finishStored_storeUpdate :
    finishStored db e userId (storeUpdate db e userId accountId accountType request) =
      updateManual db e userId accountId accountType request := by
  unfold storeUpdate updateManual
  cases manualAccount accountId userId accountType request with
  | none => rfl
  | some a => exact finishStored_storedOrStatus

/-- The two transactions of a request, one after the other, are the request. -/
theorem finishStored_store (edit : ManualEdit) :
    finishStored db e userId (edit.store db e userId) =
      serveManual db e userId edit.toRequest := by
  cases edit with
  | createInvestment request => exact finishStored_storeCreation
  | updateInvestment accountId request => exact finishStored_storeUpdate
  | createAsset accountType request =>
    rw [ManualEdit.store, ManualEdit.toRequest, serveManual]
    cases normalizeManualAccountType accountType with
    | none => rfl
    | some accountType => exact finishStored_storeCreation
  | updateAsset accountId accountType request =>
    rw [ManualEdit.store, ManualEdit.toRequest, serveManual]
    cases normalizeManualAccountType accountType with
    | none => rfl
    | some accountType => exact finishStored_storeUpdate

/-- **A request that is served alone** is served as by its handler. -/
theorem foldl_step_alone (db : Store) (e : ManualReply) (userId : Uuid) (edit : ManualEdit) :
    [.turn 0 e, .turn 0 e, .turn 0 e].foldl ManualPool.step ⟨db, [.waiting userId edit]⟩ =
      ⟨(serveManual db e userId edit.toRequest).1,
        [.returned (serveManual db e userId edit.toRequest).2]⟩ := by
  rw [← finishStored_store]
  rcases hstore : edit.store db e userId with status | ⟨db', a⟩
  · have hfirst : ManualPool.step ⟨db, [.waiting userId edit]⟩ (.turn 0 e) =
        ⟨db, [.returned (.failed status)]⟩ := by
      simp [ManualPool.step, ManualThread.turn, hstore]
    rw [List.foldl_cons, hfirst]
    rfl
  · have hfirst : ManualPool.step ⟨db, [.waiting userId edit]⟩ (.turn 0 e) =
        ⟨db', [.stored userId a]⟩ := by
      simp [ManualPool.step, ManualThread.turn, hstore]
    rw [List.foldl_cons, hfirst]
    rfl

end Alone

/-! ### The history of an account -/

/-- The stored snapshots of an account. -/
def manualSnapshots (db : Store) (accountId : Uuid) : List (NaiveDate × Decimal) :=
  (db.manualAccountBalanceHistory.filter fun h ↦ h.accountId = accountId).map fun h ↦
    (h.asOfDate, h.balanceCurrent)

/-- The snapshot of an account in force on a day. -/
def manualSnapshotInForce (db : Store) (accountId : Uuid) (day : NaiveDate) : Option Decimal :=
  (AssocMap.lastUpTo day (manualSnapshots db accountId)).map Prod.snd

/-- The request is not answered yet. -/
def ManualThread.inFlight : ManualThread → Bool
  | returned _ => false
  | _ => true

/-- The account that a request has stored and not yet recorded. -/
def ManualThread.pending : ManualThread → Option Account
  | stored _ a | dated _ a _ => some a
  | _ => none

/-- The account that a request has answered with success for. -/
def ManualThread.succeeded : ManualThread → Option Uuid
  | returned (.account response) => some response.id
  | _ => none

/-- The net-worth series counts an account on a day as the balances overview does, where its
snapshots are those of its user. -/
def SameFigure (db : Store) (a : Account) (day : NaiveDate) : Prop :=
  ∀ q : NetWorthRequest, q.db.toStore = db → a ∈ q.carried → a.isManual →
    (∀ h ∈ db.manualAccountBalanceHistory, h.accountId = a.id → h.userId = q.userId) →
      day ≤ q.endDate → q.carriedValue day a = a.signedBalance

/-- When no request is in flight, the history says of every account for which one has returned
success what its row says, on every day that no snapshot is after. -/
def ManualPool.HistoryAgrees (p : ManualPool) : Prop :=
  (∀ t ∈ p.threads, t.inFlight = false) → ∀ t ∈ p.threads, ∀ x ∈ t.succeeded,
    ∃ a ∈ p.db.accounts, a.id = x ∧ ∀ day, (∀ s ∈ manualSnapshots p.db x, s.1 ≤ day) →
      manualSnapshotInForce p.db x day = a.balanceCurrent ∧ SameFigure p.db a day

/-- A request other than one has stored a row of the account and not yet recorded its balance. -/
def ManualPool.OthersPending (p : ManualPool) (i : ℕ) (accountId : Uuid) : Prop :=
  ∃ t ∈ p.threads.eraseIdx i, ∃ a ∈ t.pending, a.id = accountId

/-- A request that records a balance, with no other to record one of that account, does record it,
on a day that no snapshot is after, and no other balance has been stored since. -/
def RecordsLastBalance (p : ManualPool) : ManualStep → Prop
  | .arrive _ _ => True
  | .turn i e =>
    match p.threads[i]? with
    | some (.dated _ a today) =>
      p.OthersPending i a.id ∨
        (e.snapshotUp = true ∧ (∀ s ∈ manualSnapshots p.db a.id, s.1 ≤ today) ∧
          ∀ r ∈ p.db.accounts, r.id = a.id → r.balanceCurrent = a.balanceCurrent)
    | _ => True

instance {p : ManualPool} {i : ℕ} {accountId : Uuid} : Decidable (p.OthersPending i accountId) :=
  inferInstanceAs (Decidable (∃ t ∈ p.threads.eraseIdx i, ∃ a ∈ t.pending, a.id = accountId))

instance {p : ManualPool} {l : ManualStep} : Decidable (RecordsLastBalance p l) := by
  unfold RecordsLastBalance
  split
  · infer_instance
  · split <;> infer_instance

/-! ### What the transactions do -/

/-- A store after the row of an account has been written. -/
structure StoresAccount (db db' : Store) (a : Account) : Prop where
  history : db'.manualAccountBalanceHistory = db.manualAccountBalanceHistory
  mem : a.id ∈ db'.accounts.map Account.id
  ids : ∀ x ∈ db.accounts.map Account.id, x ∈ db'.accounts.map Account.id
  others : ∀ r ∈ db'.accounts, r.id ≠ a.id → r ∈ db.accounts
  balance : a.balanceCurrent.isSome

section Transactions

variable {db db' : Store} {e : ManualReply} {userId accountId : Uuid} {accountType : String}
  {request : ManualAccountRequest} {a a' : Account} {now : Timestamp}

theorem storesAccount_createManualAccount (hbalance : a.balanceCurrent.isSome)
    (h : createManualAccount db now a = .ok (db', a')) : StoresAccount db db' a' := by
  rw [createManualAccount] at h
  split at h
  · exact absurd h nofun
  · obtain ⟨rfl, rfl⟩ := Prod.mk.inj (Except.ok.inj h)
    refine ⟨rfl, ?_, fun x hx ↦ ?_, fun r hr hid ↦ ?_, hbalance⟩
    · rw [List.map_append]
      exact List.mem_append_right _ (List.mem_singleton_self _)
    · rw [List.map_append]
      exact List.mem_append_left _ hx
    · rcases List.mem_append.1 hr with hr | hr
      · exact hr
      · rw [List.mem_singleton.1 hr] at hid
        exact absurd rfl hid

theorem id_eq_of_isManualRow {r : Account} (h : isManualRow a r = true) : r.id = a.id := by
  simp only [isManualRow, Bool.and_eq_true, decide_eq_true_eq] at h
  exact h.1.1.1.1

theorem storesAccount_updateManualAccount (hbalance : a.balanceCurrent.isSome)
    (h : updateManualAccount db now a = .ok (db', a')) : StoresAccount db db' a' := by
  rw [updateManualAccount] at h
  split at h
  · rename_i hany
    obtain ⟨rfl, rfl⟩ := Prod.mk.inj (Except.ok.inj h)
    have hids : (db.accounts.map fun r ↦ if isManualRow a r then
        { r with
          name := a.name
          balanceCurrent := a.balanceCurrent
          mask := a.mask
          institutionName := a.institutionName
          updatedAt := some now }
        else r).map Account.id = db.accounts.map Account.id := by
      rw [List.map_map]
      refine List.map_congr_left fun r _ ↦ ?_
      show (if isManualRow a r then _ else r : Account).id = r.id
      split <;> rfl
    refine ⟨rfl, ?_, fun x hx ↦ hids ▸ hx, fun r hr hid ↦ ?_, hbalance⟩
    · obtain ⟨r, hr, hmatch⟩ := List.any_eq_true.1 hany
      exact hids ▸ List.mem_map.2 ⟨r, hr, id_eq_of_isManualRow hmatch⟩
    · obtain ⟨row, hrow, rfl⟩ := List.mem_map.1 hr
      split at hid
      · rename_i hmatch
        exact absurd (id_eq_of_isManualRow hmatch) hid
      · rename_i hmatch
        rw [if_neg hmatch]
        exact hrow
  · exact absurd h nofun

theorem balanceCurrent_manualAccount {id : Uuid}
    (h : manualAccount id userId accountType request = some a) : a.balanceCurrent.isSome := by
  rw [manualAccount] at h
  split at h
  · exact absurd h nofun
  · obtain rfl := Option.some.inj h
    rfl

theorem eq_ok_of_storedOrStatus {failure : DbError → ℕ} {result : Except DbError (Store × Account)}
    {stored : Store × Account} (h : storedOrStatus e failure result = .ok stored) :
    result = .ok stored := by
  rw [storedOrStatus] at h
  split at h
  · rcases result with err | ok
    · exact absurd h nofun
    · exact congrArg Except.ok (Except.ok.inj h)
  · exact absurd h nofun

/-- **The first transaction of a request** writes one row. -/
theorem storesAccount_store {edit : ManualEdit} (h : edit.store db e userId = .ok (db', a)) :
    StoresAccount db db' a := by
  have hcreate : ∀ {accountType request},
      storeCreation db e userId accountType request = .ok (db', a) → StoresAccount db db' a := by
    intro accountType request hstore
    rw [storeCreation] at hstore
    split at hstore
    · exact absurd hstore nofun
    · rename_i account haccount
      exact storesAccount_createManualAccount (balanceCurrent_manualAccount haccount)
        (eq_ok_of_storedOrStatus hstore)
  have hupdate : ∀ {accountId accountType request},
      storeUpdate db e userId accountId accountType request = .ok (db', a) →
        StoresAccount db db' a := by
    intro accountId accountType request hstore
    rw [storeUpdate] at hstore
    split at hstore
    · exact absurd hstore nofun
    · rename_i account haccount
      exact storesAccount_updateManualAccount (balanceCurrent_manualAccount haccount)
        (eq_ok_of_storedOrStatus hstore)
  cases edit with
  | createInvestment request => exact hcreate h
  | updateInvestment accountId request => exact hupdate h
  | createAsset accountType request =>
    rw [ManualEdit.store] at h
    split at h
    · exact hcreate h
    · exact absurd h nofun
  | updateAsset accountId accountType request =>
    rw [ManualEdit.store] at h
    split at h
    · exact hupdate h
    · exact absurd h nofun

/-! The second transaction. -/

/-- A row of an account with a day and a balance. -/
def HasSnapshot (rows : List ManualAccountBalanceHistoryRow) (accountId : Uuid)
    (s : NaiveDate × Decimal) : Prop :=
  ∃ h ∈ rows, h.accountId = accountId ∧ h.asOfDate = s.1 ∧ h.balanceCurrent = s.2

theorem mem_manualSnapshots {s : NaiveDate × Decimal} :
    s ∈ manualSnapshots db accountId ↔
      HasSnapshot db.manualAccountBalanceHistory accountId s := by
  rw [manualSnapshots, List.mem_map]
  constructor
  · rintro ⟨h, hh, rfl⟩
    obtain ⟨hh, hid⟩ := List.mem_filter.1 hh
    exact ⟨h, hh, of_decide_eq_true hid, rfl, rfl⟩
  · rintro ⟨h, hh, hid, hday, hbalance⟩
    exact ⟨h, List.mem_filter.2 ⟨hh, decide_eq_true hid⟩, Prod.ext hday hbalance⟩

section Rows

variable {rows : List ManualAccountBalanceHistoryRow} {day : NaiveDate} {balance : Decimal}
  {x : Uuid} {s : NaiveDate × Decimal}

/-- The balance of a day in the place of an earlier one. -/
theorem hasSnapshot_update (hrow : ∃ r ∈ rows, r.accountId = accountId ∧ r.asOfDate = day) :
    HasSnapshot (rows.map fun h ↦ if h.accountId = accountId ∧ h.asOfDate = day then
        { h with balanceCurrent := balance } else h) x s ↔
      if x = accountId ∧ s.1 = day then s.2 = balance else HasSnapshot rows x s := by
  simp only [HasSnapshot, List.mem_map, exists_exists_and_eq_and]
  split
  · rename_i hat
    obtain ⟨rfl, hsday⟩ := hat
    constructor
    · rintro ⟨g, -, hgid, hgday, hgbalance⟩
      by_cases hg : g.accountId = x ∧ g.asOfDate = day
      · rw [if_pos hg] at hgbalance
        exact hgbalance.symm
      · rw [if_neg hg] at hgid hgday
        exact absurd ⟨hgid, hgday.trans hsday⟩ hg
    · intro hbalance
      obtain ⟨r, hr, hid, hday⟩ := hrow
      refine ⟨r, hr, ?_⟩
      rw [if_pos ⟨hid, hday⟩]
      exact ⟨hid, hday.trans hsday.symm, hbalance.symm⟩
  · rename_i hother
    refine exists_congr fun g ↦ and_congr_right fun _ ↦ ?_
    split
    · rename_i hg
      -- an updated row is at the day of the balance, before and after
      refine iff_of_false ?_ ?_ <;> exact fun hrow ↦ hother ⟨hrow.1 ▸ hg.1, hrow.2.1 ▸ hg.2⟩
    · exact Iff.rfl

/-- The first balance of a day. -/
theorem hasSnapshot_insert {userId : Uuid}
    (hnone : ¬∃ r ∈ rows, r.accountId = accountId ∧ r.asOfDate = day) :
    HasSnapshot (rows ++ [⟨accountId, userId, day, balance⟩]) x s ↔
      if x = accountId ∧ s.1 = day then s.2 = balance else HasSnapshot rows x s := by
  split
  · rename_i hat
    obtain ⟨rfl, hsday⟩ := hat
    constructor
    · rintro ⟨g, hg, hgid, hgday, hgbalance⟩
      rcases List.mem_append.1 hg with hg | hg
      · exact absurd ⟨g, hg, hgid, hgday.trans hsday⟩ hnone
      · rw [List.mem_singleton.1 hg] at hgbalance
        exact hgbalance.symm
    · intro hbalance
      exact ⟨_, List.mem_append_right _ (List.mem_singleton_self _), rfl, hsday.symm,
        hbalance.symm⟩
  · rename_i hother
    constructor
    · rintro ⟨g, hg, hgid, hgday, hgbalance⟩
      rcases List.mem_append.1 hg with hg | hg
      · exact ⟨g, hg, hgid, hgday, hgbalance⟩
      · rw [List.mem_singleton.1 hg] at hgid hgday
        exact absurd ⟨hgid.symm, hgday.symm⟩ hother
    · rintro ⟨g, hg, hrow⟩
      exact ⟨g, List.mem_append_left _ hg, hrow⟩

/-- The snapshots of an account after the balance of a day has been recorded for one. -/
theorem mem_manualSnapshots_record
    (h : recordManualAccountBalance db accountId userId day balance = .ok db') :
    s ∈ manualSnapshots db' x ↔
      if x = accountId ∧ s.1 = day then s.2 = balance else s ∈ manualSnapshots db x := by
  rw [mem_manualSnapshots, mem_manualSnapshots]
  rw [recordManualAccountBalance] at h
  split at h
  · rename_i hany
    obtain ⟨r, hr, hkey⟩ := List.any_eq_true.1 hany
    obtain rfl := Except.ok.inj h
    exact hasSnapshot_update ⟨r, hr, of_decide_eq_true hkey⟩
  · rename_i hnone
    split at h
    · obtain rfl := Except.ok.inj h
      refine hasSnapshot_insert fun ⟨r, hr, hkey⟩ ↦ hnone ?_
      exact List.any_eq_true.2 ⟨r, hr, decide_eq_true hkey⟩
    · exact absurd h nofun

end Rows

theorem accounts_record {day : NaiveDate} {balance : Decimal}
    (h : recordManualAccountBalance db accountId userId day balance = .ok db') :
    db'.accounts = db.accounts := by
  rw [recordManualAccountBalance] at h
  split at h
  · obtain rfl := Except.ok.inj h
    rfl
  · split at h
    · obtain rfl := Except.ok.inj h
      rfl
    · exact absurd h nofun

/-- The balance of an account that is there can be recorded. -/
theorem exists_record (userId : Uuid) (day : NaiveDate) (balance : Decimal)
    (h : accountId ∈ db.accounts.map Account.id) :
    ∃ db', recordManualAccountBalance db accountId userId day balance = .ok db' := by
  rw [recordManualAccountBalance]
  split
  · exact ⟨_, rfl⟩
  · exact ⟨_, rfl⟩

/-- **The second transaction of a request** leaves the accounts, and the history of the others, as
they are. -/
theorem snapshot_spec (db : Store) (e : ManualReply) (a : Account) (userId : Uuid) :
    (recordManualAccountBalanceSnapshot db e a userId).accounts = db.accounts ∧
      ∀ x, x ≠ a.id → ∀ s,
        s ∈ manualSnapshots (recordManualAccountBalanceSnapshot db e a userId) x ↔
          s ∈ manualSnapshots db x := by
  rw [recordManualAccountBalanceSnapshot]
  split
  · split
    · split
      · rename_i db' hrecord
        refine ⟨accounts_record hrecord, fun x hx s ↦ ?_⟩
        rw [mem_manualSnapshots_record hrecord, if_neg fun hat ↦ hx hat.1]
      · exact ⟨rfl, fun _ _ _ ↦ Iff.rfl⟩
    · exact ⟨rfl, fun _ _ _ ↦ Iff.rfl⟩
  · exact ⟨rfl, fun _ _ _ ↦ Iff.rfl⟩

/-- Where the database answers, the balance is in the history. -/
theorem mem_manualSnapshots_snapshot {balance : Decimal} (userId : Uuid) (hup : e.snapshotUp = true)
    (haccount : a.id ∈ db.accounts.map Account.id) (hbalance : a.balanceCurrent = some balance)
    (s : NaiveDate × Decimal) :
    s ∈ manualSnapshots (recordManualAccountBalanceSnapshot db e a userId) a.id ↔
      if s.1 = e.today then s.2 = balance else s ∈ manualSnapshots db a.id := by
  obtain ⟨db', hrecord⟩ := exists_record userId e.today balance haccount
  rw [recordManualAccountBalanceSnapshot, hbalance]
  dsimp only
  rw [if_pos hup, hrecord]
  dsimp only
  rw [mem_manualSnapshots_record hrecord]
  simp only [true_and]

end Transactions

/-! ### What the net worth reads -/

section NetWorth

variable {a : Account}

/-- What the net worth counts as the snapshots of a manual account. -/
theorem storedSnapshots_eq (q : NetWorthRequest) (hmanual : a.isManual)
    (howner : ∀ h ∈ q.db.manualAccountBalanceHistory, h.accountId = a.id → h.userId = q.userId) :
    q.storedSnapshots a = (manualSnapshots q.db.toStore a.id).map fun s ↦
      (s.1, a.balanceCategory.signedBalance s.2) := by
  rw [NetWorthRequest.storedSnapshots, if_pos hmanual, manualSnapshots, List.map_map]
  refine congrArg (List.map _) (List.filter_congr fun h hh ↦ ?_)
  exact decide_eq_decide.2 (and_iff_left_of_imp (howner h hh))

/-- An account that its history agrees with counts in the net worth of a day as it does in the
overview. -/
theorem sameFigure {db : Store} {day : NaiveDate}
    (hlast : ∀ s ∈ manualSnapshots db a.id, s.1 ≤ day)
    (hagrees : manualSnapshotInForce db a.id day = a.balanceCurrent) : SameFigure db a day := by
  rintro q rfl ha hmanual howner hend
  have hstored := storedSnapshots_eq q hmanual howner
  have hforce : q.snapshotInForce day a =
      (a.balanceCurrent.map a.balanceCategory.signedBalance).getD 0 := by
    rw [NetWorthRequest.snapshotInForce, hstored, AssocMap.lastUpTo_map, Option.map_map, ← hagrees,
      manualSnapshotInForce, Option.map_map]
    rfl
  rw [q.carriedValue_eq ha hend, hforce, Account.signedBalance]
  rw [manualSnapshotInForce] at hagrees
  rcases hbalance : a.balanceCurrent with - | balance
  · -- there is no snapshot, so the current balance counts
    rw [hbalance, Option.map_eq_none_iff, AssocMap.lastUpTo_eq_none_iff] at hagrees
    have hnone : q.visibleSnapshots a = [] := by
      refine List.eq_nil_iff_forall_not_mem.2 fun s hs ↦ ?_
      have hmem := ((q.mem_visibleSnapshots ha).1 hs).1
      rw [hstored] at hmem
      obtain ⟨s, hs, -⟩ := List.mem_map.1 hmem
      exact hagrees s hs (hlast s hs)
    rw [if_pos hnone]
    exact add_zero _
  · rw [hbalance] at hagrees
    obtain ⟨s, hfound, -⟩ := Option.map_eq_some_iff.1 hagrees
    obtain ⟨hs, hday, -⟩ := AssocMap.lastUpTo_spec hfound
    have hvisible : (s.1, a.balanceCategory.signedBalance s.2) ∈ q.visibleSnapshots a := by
      rw [q.mem_visibleSnapshots ha, hstored]
      exact ⟨List.mem_map_of_mem hs, hday.trans hend⟩
    rw [if_neg (List.ne_nil_of_mem hvisible)]
    exact zero_add _

end NetWorth

/-! ### The invariant -/

/-- The last snapshot of an account has the balance of its row. -/
def BalanceRecorded (db : Store) (accountId : Uuid) : Prop :=
  ∀ a ∈ db.accounts, a.id = accountId → ∃ day balance, a.balanceCurrent = some balance ∧
    (day, balance) ∈ manualSnapshots db accountId ∧
      ∀ s ∈ manualSnapshots db accountId, s.1 ≤ day ∧ (s.1 = day → s.2 = balance)

/-- A request has a balance of the account to record. -/
def ManualPool.Pending (p : ManualPool) (accountId : Uuid) : Prop :=
  ∃ t ∈ p.threads, ∃ a ∈ t.pending, a.id = accountId

/-- Between the steps, every account with a success has a request that is yet to record a balance,
or its last snapshot is right. -/
structure ManualPool.Consistent (p : ManualPool) : Prop where
  balance : ∀ t ∈ p.threads, ∀ a ∈ t.pending, a.balanceCurrent.isSome
  stored : ∀ t ∈ p.threads, ∀ a ∈ t.pending, a.id ∈ p.db.accounts.map Account.id
  answered : ∀ t ∈ p.threads, ∀ x ∈ t.succeeded, x ∈ p.db.accounts.map Account.id
  recorded : ∀ t ∈ p.threads, ∀ x ∈ t.succeeded, p.Pending x ∨ BalanceRecorded p.db x

section Invariant

variable {p : ManualPool} {e : ManualReply} {i : ℕ} {t u : ManualThread} {x : Uuid}

/-- The balance of the row is in force where the last snapshot has it. -/
theorem manualSnapshotInForce_eq {db : Store} (h : BalanceRecorded db x) {a : Account}
    (ha : a ∈ db.accounts) (hid : a.id = x) {day : NaiveDate}
    (hday : ∀ s ∈ manualSnapshots db x, s.1 ≤ day) :
    manualSnapshotInForce db x day = a.balanceCurrent := by
  obtain ⟨last, balance, hbalance, hmem, hlast⟩ := h a ha hid
  rw [hbalance]
  exact AssocMap.map_lastUpTo_eq hmem hlast hday

/-- An account that no request answers for any more is as its history says. -/
theorem ManualPool.Consistent.historyAgrees (h : p.Consistent) : p.HistoryAgrees := by
  intro hquiet t ht x hx
  obtain ⟨a, ha, hid⟩ := List.mem_map.1 (h.answered t ht x hx)
  have hrecorded : BalanceRecorded p.db x := by
    rcases h.recorded t ht x hx with ⟨t', ht', a', ha', -⟩ | hrecorded
    · have hstill := hquiet t' ht'
      cases t' with
      | returned response => exact absurd ha' (Option.not_mem_none a')
      | _ => exact absurd hstill (by simp [ManualThread.inFlight])
    · exact hrecorded
  refine ⟨a, ha, hid, fun day hday ↦ ?_⟩
  have hagrees := manualSnapshotInForce_eq hrecorded ha hid hday
  rw [← hid] at hday hagrees ⊢
  exact ⟨hagrees, sameFigure hday hagrees⟩

/-- The balance stays recorded where neither the rows of the account nor its history change. -/
theorem BalanceRecorded.of_same {db db' : Store} (h : BalanceRecorded db x)
    (haccounts : ∀ a ∈ db'.accounts, a.id = x → a ∈ db.accounts)
    (hsnapshots : ∀ s, s ∈ manualSnapshots db' x ↔ s ∈ manualSnapshots db x) :
    BalanceRecorded db' x := by
  intro a ha hid
  obtain ⟨day, balance, hbalance, hmem, hlast⟩ := h a (haccounts a ha hid) hid
  exact ⟨day, balance, hbalance, (hsnapshots _).2 hmem, fun s hs ↦ hlast s ((hsnapshots s).1 hs)⟩

theorem mem_set_of_getElem? (hi : p.threads[i]? = some t) : u ∈ p.threads.set i u :=
  List.mem_set ((List.getElem?_eq_some_iff.1 hi).1) u

/-- The requests that do not take the turn stay as they are. -/
theorem mem_set_of_ne {j : ℕ} (hj : j ≠ i) (ht : p.threads[j]? = some t) :
    t ∈ p.threads.set i u := by
  refine List.mem_iff_getElem?.2 ⟨j, ?_⟩
  rw [List.getElem?_set_ne hj.symm]
  exact ht

theorem forall_mem_none {α : Type} {P : α → Prop} : ∀ a ∈ (none : Option α), P a :=
  fun a ha ↦ absurd ha (Option.not_mem_none a)

/-- A balance stays pending where the turn leaves it so. -/
theorem pending_set {db : Store} (hi : p.threads[i]? = some t) (hx : p.Pending x)
    (hkept : (∃ a ∈ t.pending, a.id = x) → ∃ a ∈ u.pending, a.id = x) :
    ManualPool.Pending ⟨db, p.threads.set i u⟩ x := by
  obtain ⟨t', ht', hpending⟩ := hx
  obtain ⟨j, hj⟩ := List.mem_iff_getElem?.1 ht'
  by_cases hji : j = i
  · rw [hji, hi] at hj
    rw [← Option.some.inj hj] at hpending
    exact ⟨u, mem_set_of_getElem? hi, hkept hpending⟩
  · exact ⟨t', mem_set_of_ne hji hj, hpending⟩

/-- **What a turn keeps**, from what it does to the store and to its request. -/
theorem ManualPool.Consistent.set {db : Store} (h : p.Consistent)
    (hids : ∀ x ∈ p.db.accounts.map Account.id, x ∈ db.accounts.map Account.id)
    (hbalance : ∀ a ∈ u.pending, a.balanceCurrent.isSome)
    (hstored : ∀ a ∈ u.pending, a.id ∈ db.accounts.map Account.id)
    (hanswered : ∀ x ∈ u.succeeded, x ∈ db.accounts.map Account.id)
    (hrecorded : ∀ x, (x ∈ u.succeeded ∨ p.Pending x ∨ BalanceRecorded p.db x) →
      ManualPool.Pending ⟨db, p.threads.set i u⟩ x ∨ BalanceRecorded db x) :
    ManualPool.Consistent ⟨db, p.threads.set i u⟩ := by
  have hmem : ∀ t' ∈ p.threads.set i u, t' = u ∨ t' ∈ p.threads := by
    intro t' ht'
    exact (List.mem_or_eq_of_mem_set ht').symm
  refine ⟨fun t' ht' a ha ↦ ?_, fun t' ht' a ha ↦ ?_, fun t' ht' x hx ↦ ?_, fun t' ht' x hx ↦ ?_⟩
  · rcases hmem t' ht' with rfl | ht'
    · exact hbalance a ha
    · exact h.balance t' ht' a ha
  · rcases hmem t' ht' with rfl | ht'
    · exact hstored a ha
    · exact hids _ (h.stored t' ht' a ha)
  · rcases hmem t' ht' with rfl | ht'
    · exact hanswered x hx
    · exact hids _ (h.answered t' ht' x hx)
  · rcases hmem t' ht' with rfl | ht'
    · exact hrecorded x (Or.inl hx)
    · exact hrecorded x (Or.inr (h.recorded t' ht' x hx))

/-- A turn that leaves the store, and what its request has to record, as they are. -/
theorem ManualPool.Consistent.set_same (h : p.Consistent) (hi : p.threads[i]? = some t)
    (hpending : u.pending = t.pending) (hsucceeded : ∀ x ∈ u.succeeded, x ∈ t.succeeded) :
    ManualPool.Consistent ⟨p.db, p.threads.set i u⟩ := by
  have ht := List.mem_of_getElem? hi
  refine h.set (fun _ hx ↦ hx) (hpending ▸ h.balance t ht) (hpending ▸ h.stored t ht)
    (fun x hx ↦ h.answered t ht x (hsucceeded x hx)) fun x hx ↦ ?_
  have hrecorded : p.Pending x ∨ BalanceRecorded p.db x :=
    hx.elim (fun hx ↦ h.recorded t ht x (hsucceeded x hx)) id
  refine hrecorded.imp_left fun hx ↦ pending_set hi hx ?_
  rw [hpending]
  exact id

theorem consistent_arrive (h : p.Consistent) (userId : Uuid) (edit : ManualEdit) :
    ManualPool.Consistent ⟨p.db, p.threads ++ [.waiting userId edit]⟩ := by
  have hold : ∀ {P : ManualThread → Prop}, P (.waiting userId edit) → (∀ t ∈ p.threads, P t) →
      ∀ t ∈ p.threads ++ [.waiting userId edit], P t := by
    intro P hnew hall t ht
    rcases List.mem_append.1 ht with ht | ht
    · exact hall t ht
    · rw [List.mem_singleton.1 ht]
      exact hnew
  refine ⟨hold forall_mem_none h.balance, hold forall_mem_none h.stored,
    hold forall_mem_none h.answered, hold forall_mem_none fun t ht x hx ↦ ?_⟩
  exact (h.recorded t ht x hx).imp_left fun ⟨t', ht', hpending⟩ ↦
    ⟨t', List.mem_append_left _ ht', hpending⟩

/-- The row of an account is written. -/
theorem consistent_stored {userId : Uuid} {edit : ManualEdit} {db : Store} {a : Account}
    (h : p.Consistent) (hi : p.threads[i]? = some (.waiting userId edit))
    (hstore : edit.store p.db e userId = .ok (db, a)) :
    ManualPool.Consistent ⟨db, p.threads.set i (.stored userId a)⟩ := by
  have hspec := storesAccount_store hstore
  refine h.set hspec.ids ?_ ?_ forall_mem_none fun x hx ↦ ?_
  · rintro a' ⟨⟩
    exact hspec.balance
  · rintro a' ⟨⟩
    exact hspec.mem
  · by_cases hid : a.id = x
    · exact Or.inl ⟨_, mem_set_of_getElem? hi, a, rfl, hid⟩
    · rcases hx with hx | hx | hx
      · exact absurd hx (Option.not_mem_none x)
      · exact Or.inl (pending_set hi hx fun ⟨a', ha', _⟩ ↦ absurd ha' (Option.not_mem_none a'))
      · refine Or.inr (hx.of_same (fun r hr hrid ↦ hspec.others r hr ?_) fun s ↦ ?_)
        · exact fun hra ↦ hid (hra.symm.trans hrid)
        · rw [manualSnapshots, manualSnapshots, hspec.history]

/-- The balance of the day is recorded, or is not. -/
theorem consistent_recorded {userId : Uuid} {a : Account} {today : NaiveDate} (h : p.Consistent)
    (hi : p.threads[i]? = some (.dated userId a today))
    (hl : RecordsLastBalance p (.turn i e)) :
    ManualPool.Consistent
      ⟨recordManualAccountBalanceSnapshot p.db { e with today := today } a userId,
        p.threads.set i (.returned (.account (manualAccountResponse a userId)))⟩ := by
  obtain ⟨haccounts, hsnapshots⟩ :=
    snapshot_spec p.db { e with today := today } a userId
  have hthread := List.mem_of_getElem? hi
  have hmem : a.id ∈ p.db.accounts.map Account.id := h.stored _ hthread a rfl
  refine h.set (fun x hx ↦ by rwa [haccounts]) forall_mem_none forall_mem_none ?_ fun x hx ↦ ?_
  · rintro x ⟨⟩
    rwa [haccounts]
  · by_cases hid : a.id = x
    · obtain rfl := hid
      rw [RecordsLastBalance, hi] at hl
      rcases hl with ⟨t', ht', hpending⟩ | ⟨hup, hlast, hrow⟩
      · obtain ⟨j, hj, ht'⟩ := List.mem_eraseIdx_iff_getElem?.1 ht'
        exact Or.inl ⟨t', mem_set_of_ne hj ht', hpending⟩
      · -- no other request is to record a balance, so this one is the last
        refine Or.inr fun r hr hrid ↦ ?_
        rw [haccounts] at hr
        obtain ⟨balance, hbalance⟩ := Option.isSome_iff_exists.1 (h.balance _ hthread a rfl)
        have hnow := mem_manualSnapshots_snapshot (e := { e with today := today }) userId hup hmem
          hbalance
        refine ⟨today, balance, (hrow r hr hrid).trans hbalance, ?_, fun s hs ↦ ?_⟩
        · rw [hnow, if_pos rfl]
        · rw [hnow] at hs
          split at hs
          · rename_i hday
            exact ⟨hday.le, fun _ ↦ hs⟩
          · rename_i hday
            exact ⟨hlast s hs, fun hsame ↦ absurd hsame hday⟩
    · rcases hx with hx | hx | hx
      · exact absurd (Option.some.inj hx) hid
      · refine Or.inl (pending_set hi hx ?_)
        rintro ⟨a', ⟨⟩, hid'⟩
        exact absurd hid' hid
      · refine Or.inr (hx.of_same (fun r hr _ ↦ haccounts ▸ hr) fun s ↦ ?_)
        exact hsnapshots x (Ne.symm hid) s

/-- **Every step that meets the condition keeps the invariant.** -/
theorem consistent_step (h : p.Consistent) {l : ManualStep} (hl : RecordsLastBalance p l) :
    (p.step l).Consistent := by
  cases l with
  | arrive userId edit => exact consistent_arrive h userId edit
  | turn i e =>
    rcases hi : p.threads[i]? with - | t
    · simp only [ManualPool.step, hi]
      exact h
    · simp only [ManualPool.step, hi]
      cases t with
      | waiting userId edit =>
        rcases hstore : edit.store p.db e userId with status | ⟨db, a⟩
        · simp only [ManualThread.turn, hstore]
          exact h.set_same hi rfl forall_mem_none
        · simp only [ManualThread.turn, hstore]
          exact consistent_stored h hi hstore
      | stored userId a => exact h.set_same hi rfl forall_mem_none
      | dated userId a today => exact consistent_recorded h hi hl
      | returned response => exact h.set_same hi rfl fun _ hx ↦ hx

end Invariant

/-! ### The guarantee -/

/-- **Balance and history agree.** In every run in which a request that records a balance, with no
other to record one of that account, does record it, on a day that no snapshot is after and with the
balance of the row, the history agrees with the accounts in every state. -/
theorem historyAgrees_throughout (db : Store) (steps : List ManualStep)
    (h : Guarded ManualPool.step RecordsLastBalance ⟨db, []⟩ steps) :
    Throughout ManualPool.step ManualPool.HistoryAgrees ⟨db, []⟩ steps := by
  have hnone : ∀ {P : ManualThread → Prop}, ∀ t ∈ ([] : List ManualThread), P t :=
    fun _ ht ↦ absurd ht List.not_mem_nil
  have hstart : ManualPool.Consistent ⟨db, []⟩ := ⟨hnone, hnone, hnone, hnone⟩
  exact Guarded.throughout (I := ManualPool.Consistent) (fun _ _ hp hl ↦ consistent_step hp hl)
    (fun _ hp ↦ hp.historyAgrees) hstart h

/-- Where the history of an account does not agree on a day. -/
theorem not_historyAgrees {p : ManualPool} (x : Uuid) (day : NaiveDate)
    (hquiet : ∀ t ∈ p.threads, t.inFlight = false) (hsucceeded : ∃ t ∈ p.threads, x ∈ t.succeeded)
    (hday : ∀ s ∈ manualSnapshots p.db x, s.1 ≤ day)
    (hdiffers : ∀ a ∈ p.db.accounts, a.id = x →
      manualSnapshotInForce p.db x day ≠ a.balanceCurrent) : ¬p.HistoryAgrees := by
  intro h
  obtain ⟨t, ht, hx⟩ := hsucceeded
  obtain ⟨a, ha, hid, hagrees⟩ := h hquiet t ht x hx
  exact hdiffers a ha hid (hagrees day hday).1

/-- A store with the house of a user. -/
def houseStore : Store :=
  { Store.empty with
    accounts := [
      { id := 1
        userId := some 7
        providerAccountId := none
        providerConnectionId := none
        name := "House"
        accountType := "property"
        balanceCurrent := some 300
        mask := none
        institutionName := some "Home"
        updatedAt := none }] }

/-- The house is worth something else. -/
def houseUpdate (balance : Decimal) : ManualStep :=
  .arrive 7 (.updateAsset 1 "property" ⟨"Home", "House", balance, none⟩)

/-- A day on which all goes well. -/
def onDay (today : NaiveDate) : ManualReply where
  newId := 2
  now := 0
  today := today
  databaseUp := true
  snapshotUp := true

/-- Two updates, in order, with the balance of the first not recorded. -/
theorem historyAgrees_house :
    Throughout ManualPool.step ManualPool.HistoryAgrees ⟨houseStore, []⟩
      [houseUpdate 310, .turn 0 (onDay 100), houseUpdate 320, .turn 0 (onDay 100),
        .turn 1 (onDay 100), .turn 0 { onDay 100 with snapshotUp := false }, .turn 1 (onDay 100),
        .turn 1 (onDay 100)] :=
  historyAgrees_throughout houseStore _ (by decide)

/-- **Three runs after which the history does not agree**: the snapshot is not written; two updates
write their rows in one order and their snapshots in the other; the update that is last to write
both has read the clock before midnight, and the other after. -/
theorem not_historyAgrees_house :
    ¬ManualPool.HistoryAgrees ([houseUpdate 310, .turn 0 (onDay 100), .turn 0 (onDay 100),
        .turn 0 { onDay 100 with snapshotUp := false }].foldl ManualPool.step ⟨houseStore, []⟩) ∧
      ¬ManualPool.HistoryAgrees ([houseUpdate 310, houseUpdate 320, .turn 0 (onDay 100),
        .turn 1 (onDay 100), .turn 1 (onDay 100), .turn 1 (onDay 100), .turn 0 (onDay 100),
        .turn 0 (onDay 100)].foldl ManualPool.step ⟨houseStore, []⟩) ∧
      ¬ManualPool.HistoryAgrees ([houseUpdate 310, houseUpdate 320, .turn 0 (onDay 100),
        .turn 1 (onDay 100), .turn 1 (onDay 100), .turn 0 (onDay 101), .turn 0 (onDay 101),
        .turn 1 (onDay 101)].foldl ManualPool.step ⟨houseStore, []⟩) :=
  ⟨not_historyAgrees 1 101 (by decide) (by decide) (by decide) (by decide),
    not_historyAgrees 1 101 (by decide) (by decide) (by decide) (by decide),
    not_historyAgrees 1 101 (by decide) (by decide) (by decide) (by decide)⟩

end Sumurai
