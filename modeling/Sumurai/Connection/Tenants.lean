import Sumurai.Foundations.HiddenRows
import Sumurai.Connection.Connect
import Sumurai.Connection.Records

/-!
# The rows of one user

The tables of provider data are shared by all users. `ownRows u` is the store without the rows of
the other users, `othersRows u` has these rows alone. A statement of the repository names rows: by a
key in its `WHERE`, by the key of an `ON CONFLICT`, by a foreign key, by a join or by a cascade.
`Within u` says that no row that the statement names is another user's.

`answer_within` is the result: a call within a user is answered as if the other users were not
there, does to the user's rows what it would do then, and leaves the rows of the others as they are.
The policies of the database play no part in it.
-/

open HiddenRows

namespace Sumurai

/-- The owner of a row is not another user. -/
def isOwn (u : Uuid) (owner : Option Uuid) : Bool :=
  owner.all fun v ↦ v = u

@[simp]
theorem isOwn_some (u v : Uuid) : isOwn u (some v) = decide (v = u) :=
  rfl

theorem isOwn_of_eq {u : Uuid} {owner : Option Uuid} (h : owner = some u) :
    isOwn u owner = true := by
  rw [h, isOwn_some, decide_eq_true_iff]

/-- The store without the rows of other users. -/
def ownRows (u : Uuid) (db : Store) : Store :=
  { db with
    accounts := db.accounts.filter fun a ↦ isOwn u a.userId
    transactions := db.transactions.filter fun t ↦ isOwn u t.userId
    plaidCredentials := db.plaidCredentials.filter fun c ↦ isOwn u c.userId
    providerConnections := db.providerConnections.filter fun c ↦ isOwn u (some c.userId) }

/-- The rows of other users. -/
def othersRows (u : Uuid) (db : Store) : Store :=
  { Store.empty with
    accounts := db.accounts.filter fun a ↦ !isOwn u a.userId
    transactions := db.transactions.filter fun t ↦ !isOwn u t.userId
    plaidCredentials := db.plaidCredentials.filter fun c ↦ !isOwn u c.userId
    providerConnections := db.providerConnections.filter fun c ↦ !isOwn u (some c.userId) }

/-! ### The rows that a statement names -/

/-- The connections that satisfy a condition are the user's. -/
abbrev OwnConnections (u : Uuid) (db : Store) (named : ProviderConnection → Prop) : Prop :=
  ∀ c ∈ db.providerConnections, named c → isOwn u (some c.userId) = true

/-- The credentials that satisfy a condition are not another user's. -/
abbrev OwnCredentials (u : Uuid) (db : Store) (named : PlaidCredentials → Prop) : Prop :=
  ∀ c ∈ db.plaidCredentials, named c → isOwn u c.userId = true

/-- The accounts that satisfy a condition are not another user's. -/
abbrev OwnAccounts (u : Uuid) (db : Store) (named : Account → Prop) : Prop :=
  ∀ a ∈ db.accounts, named a → isOwn u a.userId = true

/-- The transactions that satisfy a condition are not another user's. -/
abbrev OwnTransactions (u : Uuid) (db : Store) (named : TransactionRow → Prop) : Prop :=
  ∀ t ∈ db.transactions, named t → isOwn u t.userId = true

/-- The provider transaction id of a row is that of a transaction. -/
def sameProviderTransaction (t : Transaction) (r : TransactionRow) : Bool :=
  r.providerTransactionId.isSome && r.providerTransactionId == t.providerTransactionId

/-- The join of the user's transactions with the accounts of a connection. -/
abbrev JoinsOwnAccounts (u : Uuid) (db : Store) (connectionId : Uuid) : Prop :=
  ∀ t ∈ db.transactions, t.userId = some u →
    OwnAccounts u db fun a ↦ a.id = t.accountId ∧ a.providerConnectionId = some connectionId

/-- The accounts of a connection, and the transactions on them. -/
abbrev OwnOnConnection (u : Uuid) (db : Store) (connectionId : Uuid) : Prop :=
  OwnAccounts u db (fun a ↦ a.providerConnectionId = some connectionId) ∧
    OwnTransactions u db fun t ↦ onConnection db connectionId t = true

/-- No row that a call names is another user's. -/
def Within (L : Locale) (u : Uuid) (db : Store) : ServiceCall → Prop
  | .now => True
  | .getAccounts _ => True
  | .getTransactions _ _ _ => True
  | .clearBankConnectionCache => True
  | .getProviderConnectionById connectionId => OwnConnections u db fun c ↦ c.id = connectionId
  | .getAllProviderConnectionsByUser userId => userId = u
  | .connectionIdOfItem itemId => OwnConnections u db fun c ↦ c.itemId = itemId
  | .getProviderCredentialsForUser _ itemId => OwnCredentials u db fun c ↦ c.itemId = itemId
  | .upsertAccount a =>
    -- the row to be inserted, the rows of its two keys, and the row of its foreign key
    isOwn u a.userId = true ∧ OwnAccounts u db (fun r ↦ conflictsWith a r = true ∨ r.id = a.id) ∧
      OwnConnections u db fun c ↦ a.providerConnectionId = some c.id
  | .mergeDuplicateProviderAccounts userId connectionId =>
    userId = u ∧
      OwnAccounts u db (fun a ↦ a.id ∈ (duplicateAccounts L db userId connectionId).map Prod.fst) ∧
      OwnTransactions u db fun t ↦
        t.accountId ∈ (duplicateAccounts L db userId connectionId).map Prod.fst
  | .getAccountsForUser userId =>
    userId = u ∧ ∀ a ∈ db.accounts, a.userId = some u →
      OwnConnections u db fun c ↦ a.providerConnectionId = some c.id
  | .upsertTransaction t =>
    isOwn u t.userId = true ∧
      OwnTransactions u db (fun r ↦ sameProviderTransaction t r = true ∨ r.id = t.id) ∧
      OwnAccounts u db fun a ↦ a.id = t.accountId
  | .mergeDuplicateProviderTransactions userId connectionId =>
    userId = u ∧ JoinsOwnAccounts u db connectionId ∧
      OwnTransactions u db fun t ↦ ∃ d ∈ t.duplicateOfTransactionId,
        d ∈ (duplicatePairs (transactionCandidates L db userId connectionId)).map Prod.snd
  | .autoResolvePendingDuplicates userId connectionId =>
    userId = u ∧ ∀ c ∈ connectionId, JoinsOwnAccounts u db c
  | .getTransactionsForUser userId => userId = u
  | .saveProviderConnection c =>
    c.userId = u ∧ OwnConnections u db fun r ↦ r.itemId = c.itemId ∨ r.id = c.id
  | .deleteTransactionsOfConnection connectionId =>
    OwnOnConnection u db connectionId ∧
      OwnTransactions u db fun t ↦ ∃ d ∈ t.duplicateOfTransactionId,
        d ∈ (db.transactions.filter (onConnection db connectionId)).map TransactionRow.id
  | .deleteAccountsOfConnection connectionId => OwnOnConnection u db connectionId
  | .deleteProviderCredentials itemId => OwnCredentials u db fun c ↦ c.itemId = itemId
  | .deleteProviderConnection userId itemId =>
    userId = u ∧ ∀ c ∈ db.providerConnections, c.userId = u → c.itemId = itemId →
      OwnOnConnection u db c.id

/-! ### Statements within a user -/

/-- A statement is answered as if the other users were not there, does to the user's rows what it
would do then, and leaves the rows of the others as they are. -/
structure Isolated {α : Type} (u : Uuid) (S : Store → Except DbError (Store × α)) (db : Store) :
    Prop where
  own : S (ownRows u db) = (S db).map fun r ↦ (ownRows u r.1, r.2)
  others : ∀ r, S db = .ok r → othersRows u r.1 = othersRows u db

section Rules

variable {α : Type} {u : Uuid} {db : Store}

theorem writeStatement_within {e : Reply} {S : Store → Except DbError (Store × α)}
    (h : e.databaseUp = true → Isolated u S db) :
    writeStatement e (ownRows u db) (S (ownRows u db)) =
        (ownRows u (writeStatement e db (S db)).1, (writeStatement e db (S db)).2) ∧
      othersRows u (writeStatement e db (S db)).1 = othersRows u db := by
  unfold writeStatement
  split
  · rename_i hup
    rw [(h hup).own]
    rcases hS : S db with err | r
    · exact ⟨rfl, rfl⟩
    · exact ⟨rfl, (h hup).others r hS⟩
  · exact ⟨rfl, rfl⟩

theorem readStatement_within {e : Reply} {a a' : α} (h : e.databaseUp = true → a' = a) :
    readStatement e (ownRows u db) a' =
        (ownRows u (readStatement e db a).1, (readStatement e db a).2) ∧
      othersRows u (readStatement e db a).1 = othersRows u db := by
  unfold readStatement
  split
  · rename_i hup
    rw [h hup]
    exact ⟨rfl, rfl⟩
  · exact ⟨rfl, rfl⟩

/-- A statement that fails alike. -/
theorem isolated_error {S : Store → Except DbError (Store × α)} {err : DbError}
    (hown : S (ownRows u db) = .error err) (hall : S db = .error err) : Isolated u S db := by
  constructor
  · rw [hown, hall]
    rfl
  · intro r hr
    rw [hall] at hr
    cases hr

/-- A statement that is carried out alike. -/
theorem isolated_ok {S : Store → Except DbError (Store × α)} {r r' : Store × α}
    (hown : S (ownRows u db) = .ok r') (hall : S db = .ok r) (hrows : r' = (ownRows u r.1, r.2))
    (hothers : othersRows u r.1 = othersRows u db) : Isolated u S db := by
  constructor
  · rw [hown, hall, hrows]
    rfl
  · intro r₁ hr₁
    rw [← Except.ok.inj (hall.symm.trans hr₁)]
    exact hothers

theorem isolated_withUnit_error {S : Store → Except DbError Store} {err : DbError}
    (hown : S (ownRows u db) = .error err) (hall : S db = .error err) :
    Isolated u (fun db ↦ withUnit (S db)) db :=
  isolated_error (congrArg withUnit hown) (congrArg withUnit hall)

theorem isolated_withUnit_ok {S : Store → Except DbError Store} {r r' : Store}
    (hown : S (ownRows u db) = .ok r') (hall : S db = .ok r) (hrows : r' = ownRows u r)
    (hothers : othersRows u r = othersRows u db) : Isolated u (fun db ↦ withUnit (S db)) db :=
  isolated_ok (congrArg withUnit hown) (congrArg withUnit hall) (congrArg (·, ()) hrows) hothers

end Rules

/-! ### Accounts -/

section Accounts

variable {L : Locale} {u : Uuid} {db : Store} {now : Timestamp}

theorem hasConnection_ownRows {a : Account}
    (h : OwnConnections u db fun c ↦ a.providerConnectionId = some c.id) :
    hasConnection (ownRows u db) a = hasConnection db a := by
  rcases hconn : a.providerConnectionId with - | connectionId
  · rw [hasConnection, hasConnection, hconn]
    rfl
  · have hmem : connectionId ∈ (ownRows u db).providerConnections.map ProviderConnection.id ↔
        connectionId ∈ db.providerConnections.map ProviderConnection.id :=
      mem_map_visible fun c hc hid ↦ h c hc (hconn.trans (congrArg some hid.symm))
    rw [hasConnection, hasConnection, hconn, Option.all_some, Option.all_some,
      decide_eq_decide.2 hmem]

theorem isolated_upsertAccount {a : Account} (ha : isOwn u a.userId = true)
    (hrows : OwnAccounts u db fun r ↦ conflictsWith a r = true ∨ r.id = a.id)
    (hconn : OwnConnections u db fun c ↦ a.providerConnectionId = some c.id) :
    Isolated u (fun db ↦ withUnit (upsertAccount db now a)) db := by
  have hany : (ownRows u db).accounts.any (conflictsWith a) = db.accounts.any (conflictsWith a) :=
    any_visible fun r hr hconflict ↦ hrows r hr (Or.inl hconflict)
  have hid : a.id ∈ (ownRows u db).accounts.map Account.id ↔ a.id ∈ db.accounts.map Account.id :=
    mem_map_visible fun r hr hid ↦ hrows r hr (Or.inr hid)
  have hfk := hasConnection_ownRows hconn
  by_cases hconflict : db.accounts.any (conflictsWith a) = true
  · by_cases hfk' : hasConnection db a = true
    · refine isolated_withUnit_ok ((if_pos (hany.trans hconflict)).trans (if_pos (hfk.trans hfk')))
        ((if_pos hconflict).trans (if_pos hfk')) ?_ ?_
      · refine congrArg (fun l ↦ { ownRows u db with accounts := l }) (Eq.symm ?_)
        exact filter_update_visible fun r _ _ ↦ rfl
      · -- a hidden row is not the one of the key
        refine congrArg (fun l ↦ { othersRows u db with accounts := l }) ?_
        exact filter_update_hidden (fun r _ _ ↦ rfl) fun r hr hrow ↦ hrows r hr (Or.inl hrow)
    · exact isolated_withUnit_error
        ((if_pos (hany.trans hconflict)).trans (if_neg fun h ↦ hfk' (hfk.symm.trans h)))
        ((if_pos hconflict).trans (if_neg hfk'))
  · have hconflict' : ¬ (ownRows u db).accounts.any (conflictsWith a) = true :=
      fun h ↦ hconflict (hany.symm.trans h)
    by_cases hid' : a.id ∈ db.accounts.map Account.id
    · exact isolated_withUnit_error ((if_neg hconflict').trans (if_pos (hid.2 hid')))
        ((if_neg hconflict).trans (if_pos hid'))
    · have hid'' : a.id ∉ (ownRows u db).accounts.map Account.id := fun h ↦ hid' (hid.1 h)
      by_cases hfk' : hasConnection db a = true
      · refine isolated_withUnit_ok
          ((if_neg hconflict').trans ((if_neg hid'').trans (if_pos (hfk.trans hfk'))))
          ((if_neg hconflict).trans ((if_neg hid').trans (if_pos hfk'))) ?_ ?_
        · refine congrArg (fun l ↦ { ownRows u db with accounts := l }) (Eq.symm ?_)
          exact filter_insert_visible ha
        · refine congrArg (fun l ↦ { othersRows u db with accounts := l }) ?_
          exact filter_insert_hidden ha
      · exact isolated_withUnit_error
          ((if_neg hconflict').trans ((if_neg hid'').trans
            (if_neg fun h ↦ hfk' (hfk.symm.trans h))))
          ((if_neg hconflict).trans ((if_neg hid').trans (if_neg hfk')))

/-- A deletion of accounts, on the user's rows and on all. -/
theorem deleteAccounts_ownRows (db : Store) (doomed : Account → Bool)
    (haccounts : OwnAccounts u db (doomed ·))
    (htransactions : OwnTransactions u db fun t ↦
      t.accountId ∈ (db.accounts.filter doomed).map Account.id) :
    (∃ err, deleteAccounts (ownRows u db) doomed = .error err ∧
      deleteAccounts db doomed = .error err) ∨
      ∃ db', deleteAccounts db doomed = .ok db' ∧
        deleteAccounts (ownRows u db) doomed = .ok (ownRows u db') ∧
          othersRows u db' = othersRows u db := by
  have hgone : (ownRows u db).accounts.filter doomed = db.accounts.filter doomed :=
    filter_visible haccounts
  have hany : (ownRows u db).transactions.any
        (fun t ↦ decide (t.accountId ∈ (db.accounts.filter doomed).map Account.id)) =
      db.transactions.any
        fun t ↦ decide (t.accountId ∈ (db.accounts.filter doomed).map Account.id) :=
    any_visible fun t ht hmem ↦ htransactions t ht (of_decide_eq_true hmem)
  unfold deleteAccounts
  rw [hgone]
  dsimp only
  rw [hany]
  split
  · exact Or.inl ⟨_, rfl, rfl⟩
  · refine Or.inr ⟨_, rfl, ?_, ?_⟩
    · have hcomm : (ownRows u db).accounts.filter (fun a ↦ !doomed a) =
          (db.accounts.filter fun a ↦ !doomed a).filter fun a ↦ isOwn u a.userId :=
        List.filter_comm _ _ _
      rw [hcomm]
      rfl
    · refine congrArg (fun l ↦ { othersRows u db with accounts := l }) (filter_filter_hidden ?_)
      intro a ha hdoomed
      exact haccounts a ha (by simpa using hdoomed)

theorem rankedAccounts_ownRows (connectionId : Uuid) :
    rankedAccounts (ownRows u db) u connectionId = rankedAccounts db u connectionId := by
  refine filter_visible fun a _ ha ↦ ?_
  simp only [Bool.and_eq_true, decide_eq_true_eq] at ha
  exact isOwn_of_eq ha.1.1

theorem duplicateAccounts_ownRows (connectionId : Uuid) :
    duplicateAccounts L (ownRows u db) u connectionId = duplicateAccounts L db u connectionId := by
  have hcanonical : canonicalAccount L (ownRows u db) u connectionId =
      canonicalAccount L db u connectionId := by
    funext a
    rw [canonicalAccount, canonicalAccount, rankedAccounts_ownRows]
  rw [duplicateAccounts, duplicateAccounts, rankedAccounts_ownRows, hcanonical]

/-- The move of transactions keeps their users, and moves only the user's. -/
theorem moveTransactions_ownRows (u : Uuid) (db : Store) (duplicates : List (Uuid × Uuid)) :
    moveTransactions (ownRows u db) u duplicates = ownRows u (moveTransactions db u duplicates) ∧
      othersRows u (moveTransactions db u duplicates) = othersRows u db := by
  constructor
  · refine congrArg (fun l ↦ { ownRows u db with transactions := l }) (filter_map_visible ?_).symm
    intro t _
    split
    · split <;> rfl
    · rfl
  · refine congrArg (fun l ↦ { othersRows u db with transactions := l }) (filter_map_hidden ?_ ?_)
    · intro t _
      split
      · split <;> rfl
      · rfl
    · intro t _ hother
      split
      · refine if_neg fun howner ↦ ?_
        rw [isOwn_of_eq howner] at hother
        cases hother
      · rfl

theorem isolated_mergeDuplicateProviderAccounts {connectionId : Uuid}
    (haccounts : OwnAccounts u db fun a ↦
      a.id ∈ (duplicateAccounts L db u connectionId).map Prod.fst)
    (htransactions : OwnTransactions u db fun t ↦
      t.accountId ∈ (duplicateAccounts L db u connectionId).map Prod.fst) :
    Isolated u (fun db ↦ mergeDuplicateProviderAccounts L db u connectionId) db := by
  obtain ⟨hmoved, hmovedOthers⟩ :=
    moveTransactions_ownRows u db (duplicateAccounts L db u connectionId)
  have hdelete := deleteAccounts_ownRows (u := u)
    (moveTransactions db u (duplicateAccounts L db u connectionId))
    (fun a ↦ decide (a.id ∈ (duplicateAccounts L db u connectionId).map Prod.fst))
    (fun a ha hdoomed ↦ haccounts a ha (of_decide_eq_true hdoomed)) ?_
  · rw [← hmoved] at hdelete
    rcases hdelete with ⟨err, hown, hall⟩ | ⟨db', hall, hown, hothers⟩
    · have hmerge : mergeDuplicateProviderAccounts L db u connectionId = .error err := by
        rw [mergeDuplicateProviderAccounts, hall]
        rfl
      have hmergeOwn : mergeDuplicateProviderAccounts L (ownRows u db) u connectionId =
          .error err := by
        rw [mergeDuplicateProviderAccounts, duplicateAccounts_ownRows, hown]
        rfl
      exact isolated_error hmergeOwn hmerge
    · have hmerge : mergeDuplicateProviderAccounts L db u connectionId =
          .ok (db', (duplicateAccounts L db u connectionId).length) := by
        rw [mergeDuplicateProviderAccounts, hall]
        rfl
      have hmergeOwn : mergeDuplicateProviderAccounts L (ownRows u db) u connectionId =
          .ok (ownRows u db', (duplicateAccounts L db u connectionId).length) := by
        rw [mergeDuplicateProviderAccounts, duplicateAccounts_ownRows, hown]
        rfl
      exact isolated_ok hmergeOwn hmerge rfl (hothers.trans hmovedOthers)
  · -- a transaction that was moved is the user's, and one that was not is where it was
    intro t ht hgone
    obtain ⟨s, hs, rfl⟩ := List.mem_map.1 ht
    obtain ⟨a, ha, haccount⟩ := List.mem_map.1 hgone
    have hdoomed := of_decide_eq_true (List.mem_filter.1 ha).2
    rw [haccount] at hdoomed
    split at hdoomed
    · split at hdoomed
      · rename_i howner
        simp only [howner, if_true]
        exact isOwn_of_eq rfl
      · rename_i howner
        simp only [howner, if_false]
        exact htransactions s hs hdoomed
    · exact htransactions s hs hdoomed

theorem mem_accountIds_onConnection {doomed : Account → Bool} {t : TransactionRow}
    (h : t.accountId ∈ (db.accounts.filter doomed).map Account.id) :
    ∃ a ∈ db.accounts, doomed a = true ∧ a.id = t.accountId := by
  obtain ⟨a, ha, hid⟩ := List.mem_map.1 h
  obtain ⟨hmem, hdoomed⟩ := List.mem_filter.1 ha
  exact ⟨a, hmem, hdoomed, hid⟩

theorem onConnection_of_mem {connectionId : Uuid} {t : TransactionRow} {a : Account}
    (ha : a ∈ db.accounts) (hid : a.id = t.accountId)
    (hconn : a.providerConnectionId = some connectionId) : onConnection db connectionId t = true :=
  List.any_eq_true.2 ⟨a, ha, by simp [hid, hconn]⟩

theorem isolated_deleteAccountsOfConnection {connectionId : Uuid}
    (h : OwnOnConnection u db connectionId) :
    Isolated u (fun db ↦ deleteAccountsOfConnection db connectionId) db := by
  obtain ⟨haccounts, htransactions⟩ := h
  have hdoomed : OwnAccounts u db fun a ↦
      decide (a.providerConnectionId = some connectionId) = true :=
    fun a ha hconn ↦ haccounts a ha (of_decide_eq_true hconn)
  have hcount : (ownRows u db).accounts.filter
        (fun a ↦ decide (a.providerConnectionId = some connectionId)) =
      db.accounts.filter fun a ↦ decide (a.providerConnectionId = some connectionId) :=
    filter_visible hdoomed
  have hdelete := deleteAccounts_ownRows db _ hdoomed fun t ht hgone ↦ by
    obtain ⟨a, ha, hconn, hid⟩ := mem_accountIds_onConnection hgone
    exact htransactions t ht (onConnection_of_mem ha hid (of_decide_eq_true hconn))
  rcases hdelete with ⟨err, hown, hall⟩ | ⟨db', hall, hown, hothers⟩
  · have hall' : deleteAccountsOfConnection db connectionId = .error err := by
      rw [deleteAccountsOfConnection, hall]
      rfl
    have hown' : deleteAccountsOfConnection (ownRows u db) connectionId = .error err := by
      rw [deleteAccountsOfConnection, hown]
      rfl
    exact isolated_error hown' hall'
  · have hall' : deleteAccountsOfConnection db connectionId = .ok (db', (db.accounts.filter
        fun a ↦ decide (a.providerConnectionId = some connectionId)).length) := by
      rw [deleteAccountsOfConnection, hall]
      rfl
    have hown' : deleteAccountsOfConnection (ownRows u db) connectionId =
        .ok (ownRows u db', (db.accounts.filter
          fun a ↦ decide (a.providerConnectionId = some connectionId)).length) := by
      rw [deleteAccountsOfConnection, hown, hcount]
      rfl
    exact isolated_ok hown' hall' rfl hothers

theorem isolated_deleteProviderConnection {itemId : String}
    (h : ∀ c ∈ db.providerConnections, c.userId = u → c.itemId = itemId →
      OwnOnConnection u db c.id) :
    Isolated u (fun db ↦ withUnit (deleteProviderConnection db u itemId)) db := by
  have hgone : (ownRows u db).providerConnections.filter
        (fun c ↦ decide (c.userId = u ∧ c.itemId = itemId)) =
      db.providerConnections.filter fun c ↦ decide (c.userId = u ∧ c.itemId = itemId) :=
    filter_visible fun c _ hc ↦ decide_eq_true (of_decide_eq_true hc).1
  -- the accounts that go are on a connection of the user and the item
  have honConnection : ∀ a : Account, (a.providerConnectionId.any fun c ↦ decide (c ∈
      (db.providerConnections.filter fun c ↦ decide (c.userId = u ∧ c.itemId = itemId)).map
        ProviderConnection.id)) = true → ∃ c ∈ db.providerConnections,
          a.providerConnectionId = some c.id ∧ OwnOnConnection u db c.id := by
    intro a ha
    obtain ⟨connectionId, hconn, hmem⟩ := (Option.any_eq_true _ _).1 ha
    obtain ⟨c, hc, rfl⟩ := List.mem_map.1 (of_decide_eq_true hmem)
    obtain ⟨hcmem, hproperty⟩ := List.mem_filter.1 hc
    obtain ⟨huser, hitem⟩ := of_decide_eq_true hproperty
    exact ⟨c, hcmem, hconn, h c hcmem huser hitem⟩
  have hdelete := deleteAccounts_ownRows (u := u) db (fun a ↦
      a.providerConnectionId.any fun c ↦ decide (c ∈
        (db.providerConnections.filter fun c ↦ decide (c.userId = u ∧ c.itemId = itemId)).map
          ProviderConnection.id))
    (fun a ha hdoomed ↦ by
      obtain ⟨c, -, hconn, haccounts, -⟩ := honConnection a hdoomed
      exact haccounts a ha hconn)
    fun t ht hmem ↦ by
      obtain ⟨a, ha, hdoomed, hid⟩ := mem_accountIds_onConnection hmem
      obtain ⟨c, -, hconn, -, htransactions⟩ := honConnection a hdoomed
      exact htransactions t ht (onConnection_of_mem ha hid hconn)
  rcases hdelete with ⟨err, hown, hall⟩ | ⟨db', hall, hown, hothers⟩
  · have hall' : deleteProviderConnection db u itemId = .error err := by
      rw [deleteProviderConnection, hall]
      rfl
    have hown' : deleteProviderConnection (ownRows u db) u itemId = .error err := by
      rw [deleteProviderConnection, hgone, hown]
      rfl
    exact isolated_withUnit_error hown' hall'
  · have hall' : deleteProviderConnection db u itemId = .ok { db' with
        providerConnections := db.providerConnections.filter fun c ↦
          !decide (c.userId = u ∧ c.itemId = itemId) } := by
      rw [deleteProviderConnection, hall]
      rfl
    have hown' : deleteProviderConnection (ownRows u db) u itemId = .ok { ownRows u db' with
        providerConnections := (ownRows u db).providerConnections.filter fun c ↦
          !decide (c.userId = u ∧ c.itemId = itemId) } := by
      rw [deleteProviderConnection, hgone, hown]
      rfl
    refine isolated_withUnit_ok hown' hall' ?_ ?_
    · exact congrArg (fun l ↦ { ownRows u db' with providerConnections := l })
        (List.filter_comm _ _ _)
    · have hkept : (db.providerConnections.filter fun c ↦
            !decide (c.userId = u ∧ c.itemId = itemId)).filter (fun c ↦ !isOwn u (some c.userId)) =
          db.providerConnections.filter fun c ↦ !isOwn u (some c.userId) :=
        filter_filter_hidden fun c _ hc ↦ by
          have hdoomed : c.userId = u ∧ c.itemId = itemId := by simpa using hc
          exact decide_eq_true hdoomed.1
      refine Eq.trans ?_ (congrArg (fun s : Store ↦ { s with
        providerConnections := db.providerConnections.filter fun c ↦ !isOwn u (some c.userId) })
        hothers)
      exact congrArg (fun l ↦ { othersRows u db' with providerConnections := l }) hkept

theorem getAccountsForUser_ownRows (h : ∀ a ∈ db.accounts, a.userId = some u →
      OwnConnections u db fun c ↦ a.providerConnectionId = some c.id) :
    getAccountsForUser L (ownRows u db) u = getAccountsForUser L db u := by
  have hrows : accountRowsForUser L (ownRows u db) u = accountRowsForUser L db u := by
    rw [accountRowsForUser, accountRowsForUser]
    exact congrArg _ (filter_visible fun a _ ha ↦ isOwn_of_eq (of_decide_eq_true ha))
  rw [getAccountsForUser, getAccountsForUser, hrows]
  refine List.map_congr_left fun a ha ↦ ?_
  obtain ⟨hmem, huser⟩ := (mem_accountRowsForUser L db u).1 ha
  have hposted : postedCreditBalance (ownRows u db) a = postedCreditBalance db a := by
    have hfilter : (ownRows u db).transactions.filter (fun t ↦ decide
          (t.accountId = a.id ∧ t.userId.isSome = true ∧ t.userId = a.userId ∧ t.pending = false)) =
        db.transactions.filter fun t ↦ decide
          (t.accountId = a.id ∧ t.userId.isSome = true ∧ t.userId = a.userId ∧ t.pending = false) :=
      filter_visible fun t _ ht ↦ isOwn_of_eq ((of_decide_eq_true ht).2.2.1.trans huser)
    rw [postedCreditBalance, postedCreditBalance, hfilter]
  have hinstitution : connectionInstitutionName (ownRows u db) a =
      connectionInstitutionName db a := by
    rw [connectionInstitutionName, connectionInstitutionName]
    rcases hconn : a.providerConnectionId with - | connectionId
    · rfl
    · have hfind : (ownRows u db).providerConnections.find? (fun c ↦ decide (c.id = connectionId)) =
          db.providerConnections.find? fun c ↦ decide (c.id = connectionId) :=
        find?_visible fun c hc hid ↦ h a hmem huser c hc
          (hconn.trans (congrArg some (of_decide_eq_true hid).symm))
      rw [Option.bind_some, Option.bind_some, hfind]
  rw [shownBalance, shownBalance, hposted, hinstitution]

end Accounts

/-! ### Transactions -/

section Transactions

variable {L : Locale} {u : Uuid} {db : Store} {now : Timestamp}

theorem isolated_upsertTransaction {t : Transaction} (ht : isOwn u t.userId = true)
    (hrows : OwnTransactions u db fun r ↦ sameProviderTransaction t r = true ∨ r.id = t.id)
    (haccount : OwnAccounts u db fun a ↦ a.id = t.accountId) :
    Isolated u (fun db ↦ withUnit (upsertTransaction db now t)) db := by
  have hany : (ownRows u db).transactions.any (sameProviderTransaction t) =
      db.transactions.any (sameProviderTransaction t) :=
    any_visible fun r hr hsame ↦ hrows r hr (Or.inl hsame)
  have hid : t.id ∈ (ownRows u db).transactions.map TransactionRow.id ↔
      t.id ∈ db.transactions.map TransactionRow.id :=
    mem_map_visible fun r hr hid ↦ hrows r hr (Or.inr hid)
  have hfk : t.accountId ∈ (ownRows u db).accounts.map Account.id ↔
      t.accountId ∈ db.accounts.map Account.id :=
    mem_map_visible fun a ha hid ↦ haccount a ha hid
  by_cases hconflict : db.transactions.any (sameProviderTransaction t) = true
  · refine isolated_withUnit_ok (if_pos (hany.trans hconflict)) (if_pos hconflict) ?_ ?_
    · refine congrArg (fun l ↦ { ownRows u db with transactions := l }) (Eq.symm ?_)
      exact filter_update_visible fun r _ _ ↦ rfl
    · refine congrArg (fun l ↦ { othersRows u db with transactions := l }) ?_
      exact filter_update_hidden (fun r _ _ ↦ rfl) fun r hr hrow ↦ hrows r hr (Or.inl hrow)
  · have hconflict' : ¬ (ownRows u db).transactions.any (sameProviderTransaction t) = true :=
      fun h ↦ hconflict (hany.symm.trans h)
    by_cases hid' : t.id ∈ db.transactions.map TransactionRow.id
    · exact isolated_withUnit_error ((if_neg hconflict').trans (if_pos (hid.2 hid')))
        ((if_neg hconflict).trans (if_pos hid'))
    · have hid'' : t.id ∉ (ownRows u db).transactions.map TransactionRow.id :=
        fun h ↦ hid' (hid.1 h)
      by_cases hfk' : t.accountId ∉ db.accounts.map Account.id
      · have hfk'' : t.accountId ∉ (ownRows u db).accounts.map Account.id := fun h ↦ hfk' (hfk.1 h)
        exact isolated_withUnit_error
          ((if_neg hconflict').trans ((if_neg hid'').trans (if_pos hfk'')))
          ((if_neg hconflict).trans ((if_neg hid').trans (if_pos hfk')))
      · have hfk'' : ¬ t.accountId ∉ (ownRows u db).accounts.map Account.id :=
          fun h ↦ hfk' fun hmem ↦ h (hfk.2 hmem)
        refine isolated_withUnit_ok ((if_neg hconflict').trans
          ((if_neg hid'').trans (if_neg hfk'')))
          ((if_neg hconflict).trans ((if_neg hid').trans (if_neg hfk'))) ?_ ?_
        · refine congrArg (fun l ↦ { ownRows u db with transactions := l }) (Eq.symm ?_)
          exact filter_insert_visible ht
        · refine congrArg (fun l ↦ { othersRows u db with transactions := l }) ?_
          exact filter_insert_hidden ht

/-- A deletion of transactions, on the user's rows and on all. -/
theorem deleteTransactions_ownRows (db : Store) {doomed : TransactionRow → Bool}
    (htransactions : OwnTransactions u db (doomed ·))
    (hlinks : OwnTransactions u db fun t ↦ ∃ d ∈ t.duplicateOfTransactionId,
      d ∈ (db.transactions.filter doomed).map TransactionRow.id) :
    deleteTransactions (ownRows u db) doomed = ownRows u (deleteTransactions db doomed) ∧
      othersRows u (deleteTransactions db doomed) = othersRows u db := by
  have hgone : (ownRows u db).transactions.filter doomed = db.transactions.filter doomed :=
    filter_visible htransactions
  constructor
  · unfold deleteTransactions
    rw [hgone]
    refine congrArg (fun l ↦ ({ ownRows u (deleteTransactions db doomed) with
      transactions := l } : Store)) ?_
    have hcomm : (ownRows u db).transactions.filter (fun t ↦ !doomed t) =
        (db.transactions.filter fun t ↦ !doomed t).filter fun t ↦ isOwn u t.userId :=
      List.filter_comm _ _ _
    rw [hcomm]
    refine Eq.symm (filter_map_visible ?_)
    intro t _
    rfl
  · refine congrArg (fun l ↦ { othersRows u db with transactions := l }) ?_
    have hrest : (db.transactions.filter fun t ↦ !doomed t).filter (fun t ↦ !isOwn u t.userId) =
        db.transactions.filter fun t ↦ !isOwn u t.userId :=
      filter_filter_hidden fun t ht hdoomed ↦ htransactions t ht (by simpa using hdoomed)
    refine (filter_map_hidden ?_ ?_).trans hrest
    · intro t _
      rfl
    · -- the link of a hidden row is to none of the rows that go
      intro t ht hother
      have hkept : t.duplicateOfTransactionId.filter (fun d ↦ decide
          (d ∉ (db.transactions.filter doomed).map TransactionRow.id)) =
            t.duplicateOfTransactionId := by
        rcases hlink : t.duplicateOfTransactionId with - | d
        · rfl
        · refine Option.filter_some_pos (decide_eq_true fun hgone ↦ ?_)
          rw [hlinks t (List.mem_of_mem_filter ht) ⟨d, hlink, hgone⟩] at hother
          cases hother
      rw [hkept]

theorem onConnection_ownRows {connectionId : Uuid} {t : TransactionRow}
    (h : OwnAccounts u db fun a ↦
      a.id = t.accountId ∧ a.providerConnectionId = some connectionId) :
    onConnection (ownRows u db) connectionId t = onConnection db connectionId t := by
  refine any_visible fun a ha hjoin ↦ h a ha ?_
  simpa using hjoin

theorem transactionCandidates_ownRows {connectionId : Uuid}
    (h : JoinsOwnAccounts u db connectionId) :
    transactionCandidates L (ownRows u db) u connectionId =
      transactionCandidates L db u connectionId := by
  rw [transactionCandidates, transactionCandidates]
  refine congrArg (List.map _) (Eq.trans (List.filter_congr fun t ht ↦ ?_) (filter_visible ?_))
  · have hmem : t ∈ db.transactions := List.mem_of_mem_filter ht
    by_cases huser : t.userId = some u
    · rw [onConnection_ownRows (h t hmem huser)]
    · simp [huser]
  · intro t _ ht
    simp only [Bool.and_eq_true, decide_eq_true_eq] at ht
    exact isOwn_of_eq ht.1.1

theorem isolated_mergeDuplicateProviderTransactions {connectionId : Uuid}
    (hjoin : JoinsOwnAccounts u db connectionId)
    (hlinks : OwnTransactions u db fun t ↦ ∃ d ∈ t.duplicateOfTransactionId,
      d ∈ (duplicatePairs (transactionCandidates L db u connectionId)).map Prod.snd) :
    Isolated u (fun db ↦ .ok (mergeDuplicateProviderTransactions L db u connectionId)) db := by
  -- what is deleted is the user's, and the overrides are no part of what is split
  have hcandidates := transactionCandidates_ownRows (L := L) hjoin
  obtain ⟨doomed, hdoomed⟩ : ∃ doomed : TransactionRow → Bool, doomed = fun t ↦
      decide (t.id ∈ (duplicatePairs (transactionCandidates L db u connectionId)).map Prod.snd) &&
        decide (t.userId = some u) := ⟨_, rfl⟩
  have hown : OwnTransactions u db (doomed ·) := by
    intro t _ ht
    rw [hdoomed, Bool.and_eq_true, decide_eq_true_eq, decide_eq_true_eq] at ht
    exact isOwn_of_eq ht.2
  have hlinks' : OwnTransactions u db fun t ↦ ∃ d ∈ t.duplicateOfTransactionId,
      d ∈ (db.transactions.filter doomed).map TransactionRow.id := by
    rintro t ht ⟨d, hd, hmem⟩
    obtain ⟨s, hs, rfl⟩ := List.mem_map.1 hmem
    have hsd := (List.mem_filter.1 hs).2
    rw [hdoomed, Bool.and_eq_true, decide_eq_true_eq] at hsd
    exact hlinks t ht ⟨s.id, hd, hsd.1⟩
  have hcount : (ownRows u db).transactions.filter doomed = db.transactions.filter doomed :=
    filter_visible hown
  have hmerge : ∀ s : Store, transactionCandidates L s u connectionId =
      transactionCandidates L db u connectionId →
        mergeDuplicateProviderTransactions L s u connectionId =
          (deleteTransactions { s with
            transactionCategoryOverrides := (s.transactionCategoryOverrides.flatMap fun tco ↦
              if tco.userId = u then
                ((duplicatePairs (transactionCandidates L db u connectionId)).filter
                  fun d ↦ d.2 = tco.transactionId).map fun d ↦
                    { transactionId := d.1
                      userId := tco.userId
                      categoryName := tco.categoryName
                      subcategoryName := none
                      createdAt := tco.createdAt }
              else []).foldl insertOverrideOrIgnore s.transactionCategoryOverrides } doomed,
            (s.transactions.filter doomed).length) := by
    intro s hs
    rw [mergeDuplicateProviderTransactions, hs, hdoomed]
  obtain ⟨overrides, hall, hmine⟩ :
    ∃ overrides, mergeDuplicateProviderTransactions L db u connectionId =
      (deleteTransactions { db with transactionCategoryOverrides := overrides } doomed,
        (db.transactions.filter doomed).length) ∧
      mergeDuplicateProviderTransactions L (ownRows u db) u connectionId =
        (deleteTransactions { ownRows u db with transactionCategoryOverrides := overrides } doomed,
          ((ownRows u db).transactions.filter doomed).length) :=
    ⟨_, hmerge db rfl, hmerge (ownRows u db) hcandidates⟩
  obtain ⟨hdelete, hothers⟩ := deleteTransactions_ownRows (u := u)
    { db with transactionCategoryOverrides := overrides } hown hlinks'
  refine isolated_ok (congrArg Except.ok hmine) (congrArg Except.ok hall) ?_ hothers
  rw [hcount]
  exact congrArg (·, (db.transactions.filter doomed).length) hdelete

theorem isolated_deleteTransactionsOfConnection {connectionId : Uuid}
    (h : OwnOnConnection u db connectionId)
    (hlinks : OwnTransactions u db fun t ↦ ∃ d ∈ t.duplicateOfTransactionId,
      d ∈ (db.transactions.filter (onConnection db connectionId)).map TransactionRow.id) :
    Isolated u (fun db ↦ .ok (deleteTransactionsOfConnection db connectionId)) db := by
  obtain ⟨haccounts, htransactions⟩ := h
  have hdoomed : onConnection (ownRows u db) connectionId = onConnection db connectionId :=
    funext fun t ↦ onConnection_ownRows fun a ha hjoin ↦ haccounts a ha hjoin.2
  have hcount : (ownRows u db).transactions.filter (onConnection db connectionId) =
      db.transactions.filter (onConnection db connectionId) :=
    filter_visible htransactions
  obtain ⟨hown, hothers⟩ := deleteTransactions_ownRows db htransactions hlinks
  refine isolated_ok rfl rfl ?_ hothers
  rw [deleteTransactionsOfConnection, hdoomed, hcount, hown]
  rfl

/-! ### Links -/

theorem isResolvable_ownRows {connectionId : Option Uuid}
    (h : ∀ c ∈ connectionId, JoinsOwnAccounts u db c) {t : TransactionRow}
    (ht : t ∈ db.transactions) :
    isResolvable (ownRows u db) u connectionId t = isResolvable db u connectionId t := by
  by_cases huser : t.userId = some u
  · rcases connectionId with - | c
    · rfl
    · unfold isResolvable
      dsimp only
      rw [onConnection_ownRows (h c rfl t ht huser)]
  · simp [isResolvable, huser]

theorem isOwn_of_isResolvable {connectionId : Option Uuid} {t : TransactionRow}
    (h : isResolvable db u connectionId t = true) : isOwn u t.userId = true := by
  unfold isResolvable at h
  simp only [Bool.and_eq_true, decide_eq_true_eq] at h
  exact isOwn_of_eq h.1.1.1

theorem matchedPairs_ownRows {connectionId : Option Uuid}
    (h : ∀ c ∈ connectionId, JoinsOwnAccounts u db c) :
    matchedPairs L (ownRows u db) u connectionId = matchedPairs L db u connectionId := by
  have hpending : pendingTx (ownRows u db) u connectionId = pendingTx db u connectionId := by
    refine Eq.trans (List.filter_congr fun t ht ↦ ?_) (filter_visible fun t _ ht ↦ ?_)
    · rw [isResolvable_ownRows h (List.mem_of_mem_filter ht)]
    · exact isOwn_of_isResolvable (Bool.and_eq_true_iff.1 ht).2
  have hposted : postedTx (ownRows u db) u connectionId = postedTx db u connectionId := by
    refine Eq.trans (List.filter_congr fun t ht ↦ ?_) (filter_visible fun t _ ht ↦ ?_)
    · rw [isResolvable_ownRows h (List.mem_of_mem_filter ht)]
    · exact isOwn_of_isResolvable (Bool.and_eq_true_iff.1 ht).2
  have hmatch : postedMatch L (ownRows u db) u connectionId = postedMatch L db u connectionId := by
    funext p
    rw [postedMatch, postedMatch, hposted]
  rw [matchedPairs, matchedPairs, hpending, hmatch]

/-- The links of a plan are set on the user's rows only. -/
theorem apply_ownRows (db : Store) (now : Timestamp) {plan : LinkPlan} (huser : plan.userId = u) :
    plan.apply now (ownRows u db) = ownRows u (plan.apply now db) ∧
      othersRows u (plan.apply now db) = othersRows u db := by
  constructor
  · refine congrArg (fun l ↦ { ownRows u (plan.apply now db) with transactions := l })
      (filter_map_visible ?_).symm
    intro t _
    split
    · split <;> rfl
    · rfl
  · refine congrArg (fun l ↦ { othersRows u db with transactions := l }) (filter_map_hidden ?_ ?_)
    · intro t _
      split
      · split <;> rfl
      · rfl
    · intro t _ hother
      split
      · refine if_neg fun howner ↦ ?_
        rw [isOwn_of_eq (howner.trans (congrArg some huser))] at hother
        cases hother
      · rfl

theorem isolated_autoResolvePendingDuplicates {connectionId : Option Uuid}
    (h : ∀ c ∈ connectionId, JoinsOwnAccounts u db c) :
    Isolated u (fun db ↦ .ok (autoResolvePendingDuplicates L db now u connectionId)) db := by
  obtain ⟨hown, hothers⟩ := apply_ownRows db now
    (show (LinkPlan.ofLinks db u (matchedPairs L db u connectionId)).userId = u from rfl)
  refine isolated_ok rfl rfl ?_ hothers
  rw [autoResolvePendingDuplicates, matchedPairs_ownRows h]
  exact Prod.ext hown rfl

theorem getTransactionsForUser_ownRows :
    getTransactionsForUser (ownRows u db) u = getTransactionsForUser db u := by
  have hvisible : visibleTransactions (ownRows u db) u = visibleTransactions db u :=
    filter_visible fun t _ ht ↦ isOwn_of_eq (of_decide_eq_true ht).1
  rw [getTransactionsForUser, getTransactionsForUser, hvisible]

end Transactions

/-! ### Connections and credentials -/

section Connections

variable {u : Uuid} {db : Store}

theorem getProviderConnectionById_ownRows {connectionId : Uuid}
    (h : OwnConnections u db fun c ↦ c.id = connectionId) :
    getProviderConnectionById (ownRows u db) connectionId =
      getProviderConnectionById db connectionId :=
  find?_visible fun c hc hid ↦ h c hc (of_decide_eq_true hid)

theorem getAllProviderConnectionsByUser_ownRows :
    getAllProviderConnectionsByUser (ownRows u db) u = getAllProviderConnectionsByUser db u :=
  congrArg _ (filter_visible fun _ _ hc ↦ hc)

theorem connectionIdOfItem_ownRows {itemId : String}
    (h : OwnConnections u db fun c ↦ c.itemId = itemId) :
    connectionIdOfItem (ownRows u db) itemId = connectionIdOfItem db itemId :=
  congrArg _ (find?_visible fun c hc hitem ↦ h c hc (of_decide_eq_true hitem))

theorem getProviderCredentialsForUser_ownRows {userId : Uuid} {itemId : String}
    (h : OwnCredentials u db fun c ↦ c.itemId = itemId) :
    getProviderCredentialsForUser (ownRows u db) userId itemId =
      getProviderCredentialsForUser db userId itemId :=
  congrArg _ (find?_visible fun c hc hitem ↦ h c hc (of_decide_eq_true hitem))

theorem isolated_saveProviderConnection {c : ProviderConnection} (huser : c.userId = u)
    (h : OwnConnections u db fun r ↦ r.itemId = c.itemId ∨ r.id = c.id) :
    Isolated u (fun db ↦ withUnit (saveProviderConnection db c)) db := by
  have hany : (ownRows u db).providerConnections.any (fun r ↦ decide (r.itemId = c.itemId)) =
      db.providerConnections.any fun r ↦ decide (r.itemId = c.itemId) :=
    any_visible fun r hr hitem ↦ h r hr (Or.inl (of_decide_eq_true hitem))
  have hid : c.id ∈ (ownRows u db).providerConnections.map ProviderConnection.id ↔
      c.id ∈ db.providerConnections.map ProviderConnection.id :=
    mem_map_visible fun r hr hid ↦ h r hr (Or.inr hid)
  have hown : isOwn u (some c.userId) = true := isOwn_of_eq (congrArg some huser)
  by_cases hitem : (db.providerConnections.any fun r ↦ decide (r.itemId = c.itemId)) = true
  · refine isolated_withUnit_ok (if_pos (hany.trans hitem)) (if_pos hitem) ?_ ?_
    · refine congrArg (fun l ↦ { ownRows u db with providerConnections := l }) (Eq.symm ?_)
      exact filter_update_visible fun r _ _ ↦ rfl
    · refine congrArg (fun l ↦ { othersRows u db with providerConnections := l }) ?_
      exact filter_update_hidden (fun r _ _ ↦ rfl) fun r hr hrow ↦ h r hr (Or.inl hrow)
  · have hitem' : ¬ ((ownRows u db).providerConnections.any
        fun r ↦ decide (r.itemId = c.itemId)) = true := fun h ↦ hitem (hany.symm.trans h)
    by_cases hid' : c.id ∈ db.providerConnections.map ProviderConnection.id
    · exact isolated_withUnit_error ((if_neg hitem').trans (if_pos (hid.2 hid')))
        ((if_neg hitem).trans (if_pos hid'))
    · have hid'' : c.id ∉ (ownRows u db).providerConnections.map ProviderConnection.id :=
        fun h ↦ hid' (hid.1 h)
      refine isolated_withUnit_ok ((if_neg hitem').trans (if_neg hid''))
        ((if_neg hitem).trans (if_neg hid')) ?_ ?_
      · refine congrArg (fun l ↦ { ownRows u db with providerConnections := l }) (Eq.symm ?_)
        exact filter_insert_visible hown
      · refine congrArg (fun l ↦ { othersRows u db with providerConnections := l }) ?_
        exact filter_insert_hidden hown

theorem isolated_deleteProviderCredentials {itemId : String}
    (h : OwnCredentials u db fun c ↦ c.itemId = itemId) :
    Isolated u (fun db ↦ .ok (deleteProviderCredentials db itemId, ())) db := by
  refine isolated_ok rfl rfl (congrArg (·, ()) ?_) ?_
  · exact congrArg (fun l ↦ { ownRows u db with plaidCredentials := l }) (List.filter_comm _ _ _)
  · refine congrArg (fun l ↦ { othersRows u db with plaidCredentials := l })
      (filter_filter_hidden ?_)
    intro c hc hitem
    exact h c hc (by simpa using hitem)

end Connections

/-! ### Calls within a user -/

/-- **A call within a user.** It is answered as if the other users were not there, does to the
user's rows what it would do then, and leaves the rows of the others as they are. -/
theorem answer_within {L : Locale} {e : Reply} {u : Uuid} {db : Store} {call : ServiceCall}
    (h : e.databaseUp = true → Within L u db call) :
    answer L e (ownRows u db) call = (ownRows u (answer L e db call).1, (answer L e db call).2) ∧
      othersRows u (answer L e db call).1 = othersRows u db := by
  cases call with
  | now => exact ⟨rfl, rfl⟩
  | getAccounts credentials => exact ⟨rfl, rfl⟩
  | getTransactions credentials startDate endDate => exact ⟨rfl, rfl⟩
  | clearBankConnectionCache => exact ⟨rfl, rfl⟩
  | getProviderConnectionById connectionId =>
    exact readStatement_within fun hup ↦ getProviderConnectionById_ownRows (h hup)
  | getAllProviderConnectionsByUser userId =>
    refine readStatement_within fun hup ↦ ?_
    obtain rfl : userId = u := h hup
    exact getAllProviderConnectionsByUser_ownRows
  | connectionIdOfItem itemId =>
    exact readStatement_within fun hup ↦ connectionIdOfItem_ownRows (h hup)
  | getProviderCredentialsForUser userId itemId =>
    exact readStatement_within fun hup ↦ getProviderCredentialsForUser_ownRows (h hup)
  | upsertAccount a =>
    refine writeStatement_within (S := fun db ↦ withUnit (upsertAccount db e.now a)) fun hup ↦ ?_
    obtain ⟨ha, hrows, hconn⟩ := h hup
    exact isolated_upsertAccount ha hrows hconn
  | mergeDuplicateProviderAccounts userId connectionId =>
    refine writeStatement_within
      (S := fun db ↦ mergeDuplicateProviderAccounts L db userId connectionId) fun hup ↦ ?_
    obtain ⟨rfl, haccounts, htransactions⟩ := h hup
    exact isolated_mergeDuplicateProviderAccounts haccounts htransactions
  | getAccountsForUser userId =>
    refine readStatement_within fun hup ↦ ?_
    obtain ⟨rfl, hconn⟩ := h hup
    exact getAccountsForUser_ownRows hconn
  | upsertTransaction t =>
    refine writeStatement_within (S := fun db ↦ withUnit (upsertTransaction db e.now t))
      fun hup ↦ ?_
    obtain ⟨ht, hrows, haccount⟩ := h hup
    exact isolated_upsertTransaction ht hrows haccount
  | mergeDuplicateProviderTransactions userId connectionId =>
    refine writeStatement_within
      (S := fun db ↦ .ok (mergeDuplicateProviderTransactions L db userId connectionId)) fun hup ↦ ?_
    obtain ⟨rfl, hjoin, hlinks⟩ := h hup
    exact isolated_mergeDuplicateProviderTransactions hjoin hlinks
  | autoResolvePendingDuplicates userId connectionId =>
    refine writeStatement_within
      (S := fun db ↦ .ok (autoResolvePendingDuplicates L db e.now userId connectionId)) fun hup ↦ ?_
    obtain ⟨rfl, hjoin⟩ := h hup
    exact isolated_autoResolvePendingDuplicates hjoin
  | getTransactionsForUser userId =>
    refine readStatement_within fun hup ↦ ?_
    obtain rfl : userId = u := h hup
    exact getTransactionsForUser_ownRows
  | saveProviderConnection c =>
    refine writeStatement_within (S := fun db ↦ withUnit (saveProviderConnection db c)) fun hup ↦ ?_
    obtain ⟨huser, hrows⟩ := h hup
    exact isolated_saveProviderConnection huser hrows
  | deleteTransactionsOfConnection connectionId =>
    refine writeStatement_within
      (S := fun db ↦ .ok (deleteTransactionsOfConnection db connectionId)) fun hup ↦ ?_
    obtain ⟨hrows, hlinks⟩ := h hup
    exact isolated_deleteTransactionsOfConnection hrows hlinks
  | deleteAccountsOfConnection connectionId =>
    exact writeStatement_within (S := fun db ↦ deleteAccountsOfConnection db connectionId)
      fun hup ↦ isolated_deleteAccountsOfConnection (h hup)
  | deleteProviderCredentials itemId =>
    exact writeStatement_within (S := fun db ↦ .ok (deleteProviderCredentials db itemId, ()))
      fun hup ↦ isolated_deleteProviderCredentials (h hup)
  | deleteProviderConnection userId itemId =>
    refine writeStatement_within (S := fun db ↦
      withUnit (deleteProviderConnection db userId itemId))
      fun hup ↦ ?_
    obtain ⟨rfl, hrows⟩ := h hup
    exact isolated_deleteProviderConnection hrows

end Sumurai
