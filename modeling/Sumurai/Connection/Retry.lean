import Sumurai.Connection.Disconnect

/-!
# Disconnecting again

A disconnect commits its four deletions one by one, so one that fails leaves a part of them done.
This file says that this does no harm: the user can ask again, as often as it takes.

What a disconnect is after is a function of the store, `withoutConnection`: the tables without the
rows of the connection. None of the deletions changes it, whichever of the others have been made
(`Towards.statement`): the accounts go only once nothing refers to them, because the foreign key
sees to it. So however far the runs before it came, the run that gets through ends with the store
that the first one was after. And one gets through as soon as nothing fails, since the record is
deleted last and all the others find their rows by it.

The rows of other connections stay, but not always as they were: a transaction marked as a duplicate
of one that goes is not marked any more.
-/

open Program LabelledSystem

namespace Sumurai

/-! ### What a disconnect is after -/

/-- The transactions of a connection's accounts, by their ids. -/
def transactionsGone (connection : ProviderConnection) (db : Store) : List Uuid :=
  (db.transactions.filter (onConnection db connection.id)).map TransactionRow.id

/-- The accounts of a connection, by their ids. -/
def accountsGone (connection : ProviderConnection) (db : Store) : List Uuid :=
  (db.accounts.filter fun a ↦ a.providerConnectionId = some connection.id).map Account.id

/-- The store without a connection: without its record, its credentials, its accounts with their
history, and their transactions with their overrides. What refers to one of these transactions
refers to nothing any more. -/
def withoutConnection (connection : ProviderConnection) (db : Store) : Store where
  accounts := db.accounts.filter fun a ↦ a.providerConnectionId ≠ some connection.id
  transactions := (db.transactions.filter fun t ↦ !onConnection db connection.id t).map fun t ↦
    { t with
      duplicateOfTransactionId :=
        t.duplicateOfTransactionId.filter (· ∉ transactionsGone connection db) }
  transactionCategoryOverrides := db.transactionCategoryOverrides.filter fun o ↦
    o.transactionId ∉ transactionsGone connection db
  manualAccountBalanceHistory := db.manualAccountBalanceHistory.filter fun h ↦
    h.accountId ∉ accountsGone connection db
  plaidCredentials := db.plaidCredentials.filter fun c ↦ c.itemId ≠ connection.itemId
  providerConnections := db.providerConnections.filter fun r ↦ r.itemId ≠ connection.itemId
  amazonReceipts := db.amazonReceipts.map fun r ↦
    { r with
      matchedTransactionId := r.matchedTransactionId.filter (· ∉ transactionsGone connection db) }

/-- No account belongs to the connection. -/
def NoAccounts (connection : ProviderConnection) (db : Store) : Prop :=
  ∀ a ∈ db.accounts, a.providerConnectionId ≠ some connection.id

/-- No transaction is one of the connection's accounts. -/
def NoTransactions (connection : ProviderConnection) (db : Store) : Prop :=
  ∀ t ∈ db.transactions, onConnection db connection.id t = false

section Stores

variable {connection : ProviderConnection} {db db' : Store}

theorem onConnection_eq_true_iff {t : TransactionRow} :
    onConnection db connection.id t = true ↔ t.accountId ∈ accountsGone connection db := by
  simp only [onConnection, accountsGone, List.any_eq_true, List.mem_map, List.mem_filter,
    Bool.and_eq_true, decide_eq_true_eq]
  constructor
  · rintro ⟨a, ha, hid, hconn⟩
    exact ⟨a, ⟨ha, hconn⟩, hid⟩
  · rintro ⟨a, ⟨ha, hconn⟩, hid⟩
    exact ⟨a, ha, hid, hconn⟩

theorem NoTransactions.gone (h : NoTransactions connection db) :
    transactionsGone connection db = [] := by
  rw [transactionsGone, List.filter_eq_nil_iff.2 fun t ht ↦
    by rw [h t ht]; exact Bool.false_ne_true, List.map_nil]

theorem NoAccounts.gone (h : NoAccounts connection db) : accountsGone connection db = [] := by
  rw [accountsGone, List.filter_eq_nil_iff.2 fun a ha ↦ by simpa using h a ha, List.map_nil]

theorem NoAccounts.noTransactions (h : NoAccounts connection db) :
    NoTransactions connection db := by
  intro t _
  rw [← Bool.not_eq_true, onConnection_eq_true_iff, h.gone]
  exact List.not_mem_nil

/-- The accounts of a connection go only when no transaction is left on them. -/
theorem noTransactions_of_deleteAccounts {doomed : Account → Bool}
    (h : deleteAccounts db doomed = .ok db')
    (hdoomed : ∀ a ∈ db.accounts, a.providerConnectionId = some connection.id → doomed a = true) :
    NoTransactions connection db := by
  rw [deleteAccounts] at h
  split at h
  · cases h
  · rename_i hfree
    intro t ht
    rw [← Bool.not_eq_true, onConnection_eq_true_iff]
    intro hmem
    obtain ⟨a, ha, hid⟩ := List.mem_map.1 hmem
    obtain ⟨ha, hconn⟩ := List.mem_filter.1 ha
    refine hfree (List.any_eq_true.2 ⟨t, ht, decide_eq_true ?_⟩)
    rw [← hid]
    exact List.mem_map_of_mem (List.mem_filter.2 ⟨ha, hdoomed a ha (of_decide_eq_true hconn)⟩)

/-- A store without transactions of the connection keeps all it has of them. -/
theorem NoTransactions.withoutConnection (h : NoTransactions connection db) :
    withoutConnection connection db =
      { db with
        accounts := db.accounts.filter fun a ↦ a.providerConnectionId ≠ some connection.id
        manualAccountBalanceHistory := db.manualAccountBalanceHistory.filter fun p ↦
          p.accountId ∉ accountsGone connection db
        plaidCredentials := db.plaidCredentials.filter fun c ↦ c.itemId ≠ connection.itemId
        providerConnections := db.providerConnections.filter fun r ↦
          r.itemId ≠ connection.itemId } := by
  have hrows : db.transactions.filter (fun t ↦ !onConnection db connection.id t) =
      db.transactions :=
    List.filter_eq_self.2 fun t ht ↦ by rw [h t ht]; rfl
  have hlink : ∀ d : Option Uuid, d.filter (fun _ ↦ true) = d := by
    rintro (- | d) <;> rfl
  rw [Sumurai.withoutConnection, h.gone, hrows]
  simp only [List.not_mem_nil, not_false_eq_true, decide_true, List.filter_true, hlink,
    List.map_id']

/-- **Nothing is left to delete** of a cleared connection. -/
theorem Cleared.withoutConnection (h : Cleared connection db) :
    withoutConnection connection db = db := by
  have haccounts : NoAccounts connection db := h.accounts
  rw [haccounts.noTransactions.withoutConnection, haccounts.gone,
    List.filter_eq_self.2 fun a ha ↦ decide_eq_true (h.accounts a ha),
    List.filter_eq_self.2 fun c hc ↦ decide_eq_true (h.credentials c hc),
    List.filter_eq_self.2 fun r hr ↦ decide_eq_true (h.records r hr)]
  simp

/-! ### The deletions -/

theorem noTransactions_deleteTransactionsOfConnection :
    NoTransactions connection (deleteTransactionsOfConnection db connection.id).1 := by
  intro t ht
  obtain ⟨t, hmem, rfl⟩ := List.mem_map.1 ht
  show onConnection db connection.id t = false
  simpa using (List.mem_filter.1 hmem).2

theorem withoutConnection_deleteTransactionsOfConnection :
    withoutConnection connection (deleteTransactionsOfConnection db connection.id).1 =
      withoutConnection connection db := by
  rw [noTransactions_deleteTransactionsOfConnection.withoutConnection]
  rfl

/-- The deletion of a connection's accounts. -/
theorem noAccounts_of_deleteAccounts {doomed : Account → Bool}
    (h : deleteAccounts db doomed = .ok db')
    (hdoomed : ∀ a ∈ db.accounts, a.providerConnectionId = some connection.id → doomed a = true) :
    NoAccounts connection db' := by
  rw [deleteAccounts_eq_ok h]
  intro a ha hconn
  obtain ⟨ha, hkept⟩ := List.mem_filter.1 ha
  rw [hdoomed a ha hconn] at hkept
  exact Bool.false_ne_true hkept

theorem withoutConnection_deleteAccounts {doomed : Account → Bool}
    (h : deleteAccounts db doomed = .ok db')
    (hdoomed : ∀ a ∈ db.accounts, doomed a = decide (a.providerConnectionId = some connection.id)) :
    withoutConnection connection db' = withoutConnection connection db := by
  have hall : ∀ a ∈ db.accounts, a.providerConnectionId = some connection.id → doomed a = true :=
    fun a ha hconn ↦ by rw [hdoomed a ha, decide_eq_true hconn]
  have hnone : NoAccounts connection db' := noAccounts_of_deleteAccounts h hall
  rw [hnone.noTransactions.withoutConnection, hnone.gone,
    (noTransactions_of_deleteAccounts h hall).withoutConnection,
    List.filter_eq_self.2 fun a ha ↦ decide_eq_true (hnone a ha), deleteAccounts_eq_ok h]
  have hgone : db.accounts.filter doomed =
      db.accounts.filter fun a ↦ decide (a.providerConnectionId = some connection.id) :=
    List.filter_congr hdoomed
  have hkept : db.accounts.filter (fun a ↦ !doomed a) =
      db.accounts.filter fun a ↦ decide (a.providerConnectionId ≠ some connection.id) :=
    List.filter_congr fun a ha ↦ by rw [hdoomed a ha, decide_not]
  rw [accountsGone, hgone, hkept]
  simp

/-- The records that a user and the item of the connection find are its own. -/
theorem Known.eq_of_mem_recordsGone (hknown : Known connection db) {userId c : Uuid}
    (hc : c ∈ (db.providerConnections.filter fun r ↦
      decide (r.userId = userId ∧ r.itemId = connection.itemId)).map ProviderConnection.id) :
    c = connection.id := by
  obtain ⟨r, hr, rfl⟩ := List.mem_map.1 hc
  obtain ⟨hr, hmatch⟩ := List.mem_filter.1 hr
  exact (hknown.records r hr (Or.inr (of_decide_eq_true hmatch).2)).1

theorem Known.mem_recordsGone_iff (hknown : Known connection db) {userId : Uuid}
    (hgone : ∃ r ∈ db.providerConnections, r.userId = userId ∧ r.itemId = connection.itemId)
    {c : Uuid} :
    c ∈ (db.providerConnections.filter fun r ↦
      decide (r.userId = userId ∧ r.itemId = connection.itemId)).map ProviderConnection.id ↔
        c = connection.id := by
  refine ⟨hknown.eq_of_mem_recordsGone, ?_⟩
  rintro rfl
  obtain ⟨r, hr, hmatch⟩ := hgone
  rw [← (hknown.records r hr (Or.inr hmatch.2)).1]
  exact List.mem_map_of_mem (List.mem_filter.2 ⟨hr, decide_eq_true hmatch⟩)

theorem withoutConnection_deleteProviderConnection (hknown : Known connection db) {userId : Uuid}
    (h : deleteProviderConnection db userId connection.itemId = .ok db') :
    withoutConnection connection db' = withoutConnection connection db := by
  obtain ⟨db₁, hdel, rfl⟩ := deleteProviderConnection_eq_ok h
  have hrecords : (db.providerConnections.filter fun r ↦
      !decide (r.userId = userId ∧ r.itemId = connection.itemId)).filter
        (fun r ↦ decide (r.itemId ≠ connection.itemId)) =
      db.providerConnections.filter fun r ↦ decide (r.itemId ≠ connection.itemId) := by
    rw [List.filter_filter]
    refine List.filter_congr fun r _ ↦ ?_
    rcases eq_or_ne r.itemId connection.itemId with hitem | hitem <;> simp [hitem]
  have hsame : db₁.providerConnections = db.providerConnections := by rw [deleteAccounts_eq_ok hdel]
  have hgoal : withoutConnection connection db₁ = withoutConnection connection db := by
    rcases em (∃ r ∈ db.providerConnections, r.userId = userId ∧ r.itemId = connection.itemId)
      with hgone | hnone
    · refine withoutConnection_deleteAccounts hdel fun a _ ↦ ?_
      simp only [hknown.mem_recordsGone_iff hgone]
      rcases a.providerConnectionId with - | c <;> simp
    · -- without a record to delete, no account goes either
      have hempty : (db.providerConnections.filter fun r ↦
          decide (r.userId = userId ∧ r.itemId = connection.itemId)) = [] :=
        List.filter_eq_nil_iff.2 fun r hr hmatch ↦ hnone ⟨r, hr, of_decide_eq_true hmatch⟩
      rw [hempty] at hdel
      rw [deleteAccounts_eq_ok hdel]
      simp
  rw [← hgoal, withoutConnection, withoutConnection]
  congr 1
  rw [hrecords, hsame]

end Stores

/-! ### One disconnect -/

/-- The call reads, or deletes what belongs to the connection. -/
def DeletesOf (connection : ProviderConnection) : ServiceCall → Prop
  | .getProviderConnectionById _ => True
  | .clearBankConnectionCache => True
  | .connectionIdOfItem _ => True
  | .deleteTransactionsOfConnection connectionId => connectionId = connection.id
  | .deleteAccountsOfConnection connectionId => connectionId = connection.id
  | .deleteProviderCredentials itemId => itemId = connection.itemId
  | .deleteProviderConnection _ itemId => itemId = connection.itemId
  | _ => False

/-- What every call of a disconnect keeps: the store that it is after is that of the first store. -/
structure Towards (connection : ProviderConnection) (db₀ db : Store) : Prop where
  known : Known connection db
  goal : withoutConnection connection db = withoutConnection connection db₀

/-- A disconnect that has not come to the end: the record is there. -/
structure Unfinished (connection : ProviderConnection) (db₀ db : Store) : Prop extends
    Towards connection db₀ db where
  present : connection ∈ db.providerConnections

/-- The database answers, and so does the cache. -/
structure Reply.Fine (e : Reply) : Prop where
  databaseUp : e.databaseUp = true
  cache : e.cache = .ok ()

/-- A disconnect alone; if it is to be `fine`, then nothing fails. -/
def undisturbed (L : Locale) (fine : Prop) : Setting ServiceCall ServiceCall.Answer World Reply :=
  Setting.alone (exec L) fun _ e ↦ fine → e.Fine

/-- What a disconnect ends with: success and a cleared connection, or an error, with the record
still there, which it does not if nothing fails. -/
def DisconnectLeaves (fine : Prop) (connection : ProviderConnection) (db₀ : Store)
    (result : Except DisconnectError DisconnectResult) (w : World) : Prop :=
  Towards connection db₀ w.db ∧
    match result with
    | .ok r => r.success = true ∧ Cleared connection w.db
    | .error _ => connection ∈ w.db.providerConnections ∧ ¬ fine

section Disconnect

variable {L : Locale} {fine : Prop} {connection : ProviderConnection} {db₀ db db' : Store}
    {w : World}

/-- **No deletion moves the goal.** -/
theorem Towards.statement {now : Timestamp} {call : ServiceCall} (h : Towards connection db₀ db)
    (hcall : DeletesOf connection call) (hok : Sumurai.statement L now db call = .ok db') :
    Towards connection db₀ db' := by
  have hknown : Known connection db' :=
    h.known.statement (fun c hc ↦ by subst hc; exact hcall.elim) hok
  refine ⟨hknown, Eq.trans ?_ h.goal⟩
  cases call with
  | deleteTransactionsOfConnection connectionId =>
    obtain rfl : connectionId = connection.id := hcall
    obtain rfl := Except.ok.inj hok
    exact withoutConnection_deleteTransactionsOfConnection
  | deleteAccountsOfConnection connectionId =>
    obtain rfl : connectionId = connection.id := hcall
    obtain ⟨n, hn⟩ := exists_of_map_fst_eq_ok hok
    exact withoutConnection_deleteAccounts (deleteAccountsOfConnection_eq_ok hn) fun _ _ ↦ rfl
  | deleteProviderCredentials itemId =>
    obtain rfl : itemId = connection.itemId := hcall
    obtain rfl := Except.ok.inj hok
    rw [withoutConnection, withoutConnection]
    congr 1
    show (db.plaidCredentials.filter _).filter _ = _
    rw [List.filter_filter]
    simp
  | deleteProviderConnection userId itemId =>
    obtain rfl : itemId = connection.itemId := hcall
    exact withoutConnection_deleteProviderConnection h.known hok
  | getProviderConnectionById connectionId => rw [← Except.ok.inj hok]
  | clearBankConnectionCache => rw [← Except.ok.inj hok]
  | connectionIdOfItem itemId => rw [← Except.ok.inj hok]
  | _ => exact hcall.elim

theorem Towards.answer {e : Reply} {call : ServiceCall} (h : Towards connection db₀ db)
    (hcall : DeletesOf connection call) : Towards connection db₀ (answer L e db call).1 := by
  rcases answer_cases L e db call with heq | ⟨-, hok⟩
  · rwa [heq]
  · exact h.statement hcall hok

/-- Only the last deletion deletes the record. -/
theorem Unfinished.answer {e : Reply} {call : ServiceCall} (h : Unfinished connection db₀ db)
    (hcall : DeletesOf connection call)
    (hrecord : ∀ userId itemId, call ≠ .deleteProviderConnection userId itemId) :
    Unfinished connection db₀ (answer L e db call).1 := by
  refine ⟨h.toTowards.answer hcall, ?_⟩
  rcases answer_cases L e db call with heq | ⟨-, hok⟩
  · rw [heq]
    exact h.present
  · cases call with
    | deleteProviderConnection userId itemId => exact absurd rfl (hrecord userId itemId)
    | deleteProviderCredentials itemId =>
      rw [← Except.ok.inj hok]
      exact h.present
    | upsertAccount a => exact hcall.elim
    | saveProviderConnection c => exact hcall.elim
    | _ =>
      rw [(frame_of_statement hok (by simp) (by simp) (by simp) (by simp)).connections]
      exact h.present

/-- A call of a disconnect, before its last. -/
theorem ensures_deletes {call : ServiceCall} {Q : call.Answer → World → Prop}
    (h : Unfinished connection db₀ w.db) (hcall : DeletesOf connection call)
    (hrecord : ∀ userId itemId, call ≠ .deleteProviderConnection userId itemId)
    (hQ : ∀ e, (fine → e.Fine) → Unfinished connection db₀ (exec L call e w).1.db →
      Q (answer L e w.db call).2 (exec L call e w).1) :
    (perform call).Ensures (undisturbed L fine) Q w :=
  ensures_ask_alone.2 fun e he ↦ hQ e he (h.answer hcall hrecord)

/-- A reading statement fails only on a database that does not answer. -/
theorem not_fine_of_readStatement {α : Type} {e : Reply} {a : α} {err : DbError}
    (h : (readStatement e db a).2 = .error err) : ¬ e.Fine := by
  intro hfine
  rw [readStatement, if_pos hfine.databaseUp] at h
  cases h

/-- A writing statement that can be carried out fails only on a database that does not answer. -/
theorem not_fine_of_writeStatement {α : Type} {e : Reply} {result : Except DbError (Store × α)}
    {err : DbError} (hresult : ∃ r, result = .ok r)
    (h : (writeStatement e db result).2 = .error err) : ¬ e.Fine := by
  intro hfine
  obtain ⟨r, rfl⟩ := hresult
  unfold writeStatement at h
  rw [if_pos hfine.databaseUp] at h
  exact absurd h nofun

/-- A writing statement that succeeds has been carried out. -/
theorem eq_ok_of_writeStatement {α : Type} {e : Reply} {result : Except DbError (Store × α)} {a : α}
    (h : (writeStatement e db result).2 = .ok a) :
    result = .ok ((writeStatement e db result).1, a) := by
  unfold writeStatement at h ⊢
  split at h
  · rename_i hup
    rcases result with err | ⟨db₁, b⟩
    · exact absurd h nofun
    · rw [if_pos hup, ← Except.ok.inj h]
  · exact absurd h nofun

/-- The lookup by item finds the connection. -/
theorem Unfinished.connectionIdOfItem (h : Unfinished connection db₀ db) :
    connectionIdOfItem db connection.itemId = some connection.id := by
  rw [Sumurai.connectionIdOfItem]
  rcases hfind : db.providerConnections.find? fun c ↦ c.itemId = connection.itemId with - | r
  · exact absurd (decide_eq_true rfl) (List.find?_eq_none.1 hfind connection h.present)
  · have hitem : r.itemId = connection.itemId := by simpa using List.find?_some hfind
    rw [hfind, Option.map_some, (h.known.records r (List.mem_of_find?_eq_some hfind)
      (Or.inr hitem)).1]

/-- The lookup by item, as a call: it finds the connection and leaves the store as it is, or the
database does not answer. -/
theorem ensures_connectionIdOfItem {α : Type}
    {next : Except DbError (Option Uuid) → ServiceProgram α} {Q : α → World → Prop}
    (h : Unfinished connection db₀ w.db)
    (herror : ∀ err w', Unfinished connection db₀ w'.db → ¬ fine →
      (next (.error err)).Ensures (undisturbed L fine) Q w')
    (hfound : ∀ w', w'.db = w.db →
      (next (.ok (some connection.id))).Ensures (undisturbed L fine) Q w') :
    (perform (.connectionIdOfItem connection.itemId) >>= next).Ensures (undisturbed L fine) Q
      w := by
  refine ensures_bind.2 (ensures_deletes h trivial (by simp) fun e he hkept ↦ ?_)
  rcases hload : (answer L e w.db (.connectionIdOfItem connection.itemId)).2 with err | found
  · exact herror err _ hkept fun hfine ↦ not_fine_of_readStatement hload (he hfine)
  · obtain rfl : found = some connection.id :=
      (eq_of_readStatement hload).trans h.connectionIdOfItem
    exact hfound _ (readStatement_fst ..)

/-- `delete_provider_transactions` deletes the transactions of the connection's accounts. -/
theorem ensures_deleteProviderTransactions (h : Unfinished connection db₀ w.db) :
    (deleteProviderTransactions connection.itemId).Ensures (undisturbed L fine)
      (fun result w ↦ Unfinished connection db₀ w.db ∧
        match result with
        | .ok _ => NoTransactions connection w.db
        | .error _ => ¬ fine) w := by
  refine ensures_connectionIdOfItem h (fun _ _ hkept hdown ↦ ⟨hkept, hdown⟩) fun w' hsame ↦ ?_
  rw [← hsame] at h
  refine ensures_deletes h rfl (by simp) fun e he hkept ↦ ⟨hkept, ?_⟩
  split
  · rename_i n hdel
    have hstore := congrArg Prod.fst (Except.ok.inj (eq_ok_of_writeStatement hdel))
    show NoTransactions connection (writeStatement _ _ _).1
    exact hstore.symm ▸ noTransactions_deleteTransactionsOfConnection
  · rename_i err herr
    exact fun hfine ↦ not_fine_of_writeStatement ⟨_, rfl⟩ herr (he hfine)

/-- Accounts without transactions can go. -/
theorem NoTransactions.exists_deleteAccounts (h : NoTransactions connection db)
    {doomed : Account → Bool}
    (hdoomed : ∀ a ∈ db.accounts, doomed a = true → a.providerConnectionId = some connection.id) :
    ∃ db', deleteAccounts db doomed = .ok db' := by
  rw [deleteAccounts, if_neg]
  · exact ⟨_, rfl⟩
  · rw [List.any_eq_true]
    rintro ⟨t, ht, hgone⟩
    obtain ⟨a, ha, hid⟩ := List.mem_map.1 (of_decide_eq_true hgone)
    obtain ⟨ha, hdoom⟩ := List.mem_filter.1 ha
    have hon : onConnection db connection.id t = true :=
      onConnection_eq_true_iff.2 (List.mem_map.2
        ⟨a, List.mem_filter.2 ⟨ha, decide_eq_true (hdoomed a ha hdoom)⟩, hid⟩)
    exact Bool.false_ne_true ((h t ht).symm.trans hon)

theorem NoTransactions.exists_deleteAccountsOfConnection (h : NoTransactions connection db) :
    ∃ r, deleteAccountsOfConnection db connection.id = .ok r := by
  obtain ⟨db₁, hdel⟩ := h.exists_deleteAccounts fun a _ hconn ↦ of_decide_eq_true hconn
  rw [deleteAccountsOfConnection, hdel]
  exact ⟨_, rfl⟩

/-- A record without accounts can go. -/
theorem NoAccounts.exists_deleteProviderConnection (h : NoAccounts connection db)
    (hknown : Known connection db) {userId : Uuid} :
    ∃ db', deleteProviderConnection db userId connection.itemId = .ok db' := by
  have hok : ∃ db', (deleteAccounts db fun a ↦ a.providerConnectionId.any fun c ↦
      decide (c ∈ (db.providerConnections.filter fun r ↦
        decide (r.userId = userId ∧ r.itemId = connection.itemId)).map ProviderConnection.id)) =
          .ok db' := by
    refine h.noTransactions.exists_deleteAccounts fun a _ hgone ↦ ?_
    obtain ⟨c, hc, hmem⟩ := (Option.any_eq_true _ _).1 hgone
    rw [hc, hknown.eq_of_mem_recordsGone (of_decide_eq_true hmem)]
  obtain ⟨db₁, hdel⟩ := hok
  rw [deleteProviderConnection]
  dsimp only
  rw [hdel]
  exact ⟨_, rfl⟩

/-- `delete_provider_accounts` deletes the connection's accounts, once their transactions are
gone. -/
theorem ensures_deleteProviderAccounts (h : Unfinished connection db₀ w.db)
    (hnone : NoTransactions connection w.db) :
    (deleteProviderAccounts connection.itemId).Ensures (undisturbed L fine)
      (fun result w ↦ Unfinished connection db₀ w.db ∧
        match result with
        | .ok _ => NoAccounts connection w.db
        | .error _ => ¬ fine) w := by
  refine ensures_connectionIdOfItem h (fun _ _ hkept hdown ↦ ⟨hkept, hdown⟩) fun w' hsame ↦ ?_
  rw [← hsame] at h hnone
  refine ensures_deletes h rfl (by simp) fun e he hkept ↦ ⟨hkept, ?_⟩
  split
  · rename_i n hdel
    have hok := deleteAccountsOfConnection_eq_ok (eq_ok_of_writeStatement hdel)
    exact noAccounts_of_deleteAccounts hok fun a _ hconn ↦ decide_eq_true hconn
  · rename_i err herr
    -- the foreign key does not stand in the way
    exact fun hfine ↦ not_fine_of_writeStatement hnone.exists_deleteAccountsOfConnection herr
      (he hfine)

/-- The deletion of the record, once nothing else is left: it clears the connection, or leaves all
as it is. -/
theorem ensures_deleteProviderConnection (h : Unfinished connection db₀ w.db)
    (haccounts : NoAccounts connection w.db) (hcredentials : NoCredentials connection w.db) :
    (perform (.deleteProviderConnection connection.userId connection.itemId)).Ensures
      (undisturbed L fine)
      (fun result w ↦
        match result with
        | .ok () => Towards connection db₀ w.db ∧ Cleared connection w.db
        | .error _ => Unfinished connection db₀ w.db ∧ ¬ fine) w := by
  have hdeletes : DeletesOf connection
      (.deleteProviderConnection connection.userId connection.itemId) := rfl
  refine ensures_ask_alone.2 fun e he ↦ ?_
  have hlast := h.toTowards.answer (L := L) (e := e) hdeletes
  rcases unitStatement_cases e w.db
    (deleteProviderConnection w.db connection.userId connection.itemId) with
      ⟨err, hanswer⟩ | ⟨db', hok, hanswer⟩
  · rw [exec_of_answer (show answer L e w.db
      (.deleteProviderConnection connection.userId connection.itemId) = _ from hanswer)]
    refine ⟨h, fun hfine ↦ ?_⟩
    obtain ⟨db₁, hok⟩ := haccounts.exists_deleteProviderConnection h.known
    exact not_fine_of_writeStatement ⟨(db₁, ()), by rw [hok]; rfl⟩ (congrArg Prod.snd hanswer)
      (he hfine)
  · have hexec : answer L e w.db
        (.deleteProviderConnection connection.userId connection.itemId) = (db', .ok ()) := hanswer
    rw [hexec] at hlast
    rw [exec_of_answer hexec]
    obtain ⟨hsame, hrows, hkept⟩ := deleteProviderConnection_spec hok
    refine ⟨hlast, fun r hr hitem ↦ ?_, fun a ha ↦ haccounts a (hkept a ha).1, ?_⟩
    · obtain ⟨hmem, hnot⟩ := (hrows r).1 hr
      exact hnot ⟨(h.known.records r hmem (Or.inr hitem)).2.2, hitem⟩
    · show NoCredentials connection db'
      rw [NoCredentials, hsame]
      exact hcredentials

/-- The last two deletions: the record goes last. -/
theorem ensures_deleteCredentialsAndRecord_alone (h : Unfinished connection db₀ w.db)
    (hnone : NoAccounts connection w.db) {m n : ℕ} :
    (deleteCredentialsAndRecord connection.userId connection.itemId m n).Ensures
      (undisturbed L fine) (DisconnectLeaves fine connection db₀) w := by
  refine ensures_bind.2 (ensures_deletes h rfl (by simp) fun e he hkept ↦ ?_)
  split
  · rename_i err herr
    exact ⟨hkept.toTowards, hkept.present, fun hfine ↦
      not_fine_of_writeStatement ⟨_, rfl⟩ herr (he hfine)⟩
  · rename_i hdel
    have hstore : deleteProviderCredentials w.db connection.itemId =
        (exec L (.deleteProviderCredentials connection.itemId) e w).1.db :=
      congrArg Prod.fst (Except.ok.inj (eq_ok_of_writeStatement hdel))
    have haccounts : NoAccounts connection
        (exec L (.deleteProviderCredentials connection.itemId) e w).1.db := hstore ▸ hnone
    have hcredentials : NoCredentials connection
        (exec L (.deleteProviderCredentials connection.itemId) e w).1.db := by
      rw [← hstore]
      exact fun c hc ↦ of_decide_eq_true (List.mem_filter.1 hc).2
    refine ensures_bind.2 ((ensures_deleteProviderConnection hkept haccounts hcredentials).imp
      fun result w' hlast ↦ ?_)
    split
    · exact ⟨hlast.1.toTowards, hlast.1.present, hlast.2⟩
    · exact ⟨hlast.1, rfl, hlast.2⟩

/-- **One disconnect**, of a connection whose record is there: whatever it gets done, the goal
stays. -/
theorem ensures_disconnectConnectionById_alone (h : Unfinished connection db₀ w.db) :
    (disconnectConnectionById connection.userId connection.id).Ensures (undisturbed L fine)
      (DisconnectLeaves fine connection db₀) w := by
  refine ensures_bind.2 (ensures_deletes h trivial (by simp) fun e he hkept ↦ ?_)
  split
  · rename_i err herr
    exact ⟨hkept.toTowards, hkept.present, fun hfine ↦ not_fine_of_readStatement herr (he hfine)⟩
  · rename_i hload
    have hnone : getProviderConnectionById w.db connection.id = none :=
      (eq_of_readStatement hload).symm
    exact absurd (decide_eq_true rfl) (List.find?_eq_none.1 hnone connection h.present)
  · rename_i c hload
    have hc : getProviderConnectionById w.db connection.id = some c :=
      (eq_of_readStatement hload).symm
    have hid : c.id = connection.id := by simpa using List.find?_some hc
    obtain ⟨-, hitem, huser⟩ := h.known.records c (List.mem_of_find?_eq_some hc) (Or.inl hid)
    rw [if_neg (not_not.2 huser), hitem]
    refine ensures_bind.2 (ensures_deletes hkept trivial (by simp) fun e he hkept ↦ ?_)
    split
    · rename_i message hcache
      refine ⟨hkept.toTowards, hkept.present, fun hfine ↦ ?_⟩
      exact absurd (hcache.symm.trans (he hfine).cache) nofun
    · refine ensures_bind.2 ((ensures_deleteProviderTransactions hkept).imp fun result w₁ hfirst ↦
        ?_)
      split
      · exact ⟨hfirst.1.toTowards, hfirst.1.present, hfirst.2⟩
      · refine ensures_bind.2 ((ensures_deleteProviderAccounts hfirst.1 hfirst.2).imp
          fun result w₂ hsecond ↦ ?_)
        split
        · exact ⟨hsecond.1.toTowards, hsecond.1.present, hsecond.2⟩
        · exact ensures_deleteCredentialsAndRecord_alone hsecond.1 hsecond.2

end Disconnect

/-! ### Any number of disconnects -/

section Runs

variable (L : Locale) (connection : ProviderConnection)

/-- A run of `disconnect_connection_by_id` for the owner of the connection. -/
def disconnectRun (w : World) (env : ℕ → Reply) :
    World × Except DisconnectError DisconnectResult × (ℕ → Reply) :=
  (disconnectConnectionById connection.userId connection.id).run (exec L) env w

/-- The run fails. -/
def DisconnectFails (w : World) (env : ℕ → Reply) : Prop :=
  ∃ e, (disconnectRun L connection w env).2.1 = .error e

/-- The run returns success. -/
def DisconnectSucceeds (w : World) (env : ℕ → Reply) : Prop :=
  ∃ r, (disconnectRun L connection w env).2.1 = .ok r ∧ r.success = true

/-- Disconnects of one connection, one after the other. -/
def disconnects : LabelledSystem World (ℕ → Reply) :=
  ofFun fun w env ↦ (disconnectRun L connection w env).1

variable {L} {connection} {db₀ : Store} {w w' : World} {env : ℕ → Reply}

theorem disconnectRun_leaves {fine : Prop} (h : Unfinished connection db₀ w.db)
    (henv : fine → ∀ n, (env n).Fine) :
    DisconnectLeaves fine connection db₀ (disconnectRun L connection w env).2.1
      (disconnectRun L connection w env).1 :=
  run_of_ensures (fun _ env ↦ ∀ n, fine → (env n).Fine)
    (fun _ _ hfits ↦ ⟨hfits 0, fun _ n ↦ hfits (n + 1)⟩) (ensures_disconnectConnectionById_alone h)
    fun n hfine ↦ henv hfine n

/-- **A run that fails leaves the next one all it needs.** -/
theorem Unfinished.step (h : Unfinished connection db₀ w.db)
    (hfails : DisconnectFails L connection w env) :
    Unfinished connection db₀ (disconnectRun L connection w env).1.db := by
  obtain ⟨e, he⟩ := hfails
  have hleaves : DisconnectLeaves False connection db₀ (disconnectRun L connection w env).2.1
      (disconnectRun L connection w env).1 := disconnectRun_leaves h False.elim
  rw [he] at hleaves
  exact ⟨hleaves.1, hleaves.2.1⟩

/-- **A run that gets through** reaches what the first was after. -/
theorem Unfinished.db_of_succeeds (h : Unfinished connection db₀ w.db)
    (hsucceeds : DisconnectSucceeds L connection w env) :
    (disconnectRun L connection w env).1.db = withoutConnection connection db₀ := by
  obtain ⟨r, hr, -⟩ := hsucceeds
  have hleaves : DisconnectLeaves False connection db₀ (disconnectRun L connection w env).2.1
      (disconnectRun L connection w env).1 := disconnectRun_leaves h False.elim
  rw [hr] at hleaves
  exact hleaves.2.2.withoutConnection.symm.trans hleaves.1.goal

/-- Where nothing fails, the run gets through. -/
theorem Unfinished.succeeds (h : Unfinished connection db₀ w.db) (henv : ∀ n, (env n).Fine) :
    DisconnectSucceeds L connection w env := by
  have hleaves : DisconnectLeaves True connection db₀ (disconnectRun L connection w env).2.1
      (disconnectRun L connection w env).1 := disconnectRun_leaves h fun _ ↦ henv
  obtain ⟨-, hresult⟩ := hleaves
  split at hresult
  · exact ⟨_, ‹_›, hresult.1⟩
  · exact absurd trivial hresult.2

end Runs

/-! ### The other rows -/

/-- Every row that is not of the connection is there as it was. -/
structure OthersUnchanged (connection : ProviderConnection) (db db' : Store) : Prop where
  connections : ∀ r ∈ db.providerConnections, r.itemId ≠ connection.itemId →
    r ∈ db'.providerConnections
  credentials : ∀ c ∈ db.plaidCredentials, c.itemId ≠ connection.itemId → c ∈ db'.plaidCredentials
  accounts : ∀ a ∈ db.accounts, a.providerConnectionId ≠ some connection.id → a ∈ db'.accounts
  transactions : ∀ t ∈ db.transactions, onConnection db connection.id t = false →
    t ∈ db'.transactions
  history : ∀ h ∈ db.manualAccountBalanceHistory, h.accountId ∉ accountsGone connection db →
    h ∈ db'.manualAccountBalanceHistory

/-- No other transaction is marked as a duplicate of one of the connection's. -/
def NoLinksInto (connection : ProviderConnection) (db : Store) : Prop :=
  ∀ t ∈ db.transactions, onConnection db connection.id t = false →
    ∀ d ∈ t.duplicateOfTransactionId, d ∉ transactionsGone connection db

/-- **The other rows are unchanged exactly if nothing links to those that go.** -/
theorem othersUnchanged_withoutConnection_iff {connection : ProviderConnection} {db : Store} :
    OthersUnchanged connection db (withoutConnection connection db) ↔
    NoLinksInto connection db := by
  constructor
  · intro h t ht hother d hd
    obtain ⟨t', -, rfl⟩ := List.mem_map.1 (h.transactions t ht hother)
    exact of_decide_eq_true (Option.mem_filter_iff.1 hd).2
  · intro h
    refine ⟨fun r hr hne ↦ List.mem_filter.2 ⟨hr, decide_eq_true hne⟩,
      fun c hc hne ↦ List.mem_filter.2 ⟨hc, decide_eq_true hne⟩,
      fun a ha hne ↦ List.mem_filter.2 ⟨ha, decide_eq_true hne⟩, fun t ht hother ↦ ?_,
      fun p hp hne ↦ List.mem_filter.2 ⟨hp, decide_eq_true hne⟩⟩
    refine List.mem_map.2 ⟨t, List.mem_filter.2 ⟨ht, by rw [hother]; rfl⟩, ?_⟩
    have hlink : t.duplicateOfTransactionId.filter
        (fun d ↦ decide (d ∉ transactionsGone connection db)) =
        t.duplicateOfTransactionId := by
      ext d
      rw [Option.filter_eq_some_iff]
      exact and_iff_left_of_imp fun hd ↦ decide_eq_true (h t ht hother d hd)
    rw [hlink]

/-- **A disconnect can be retried.** Let any number of disconnects of a connection by its owner
fail, each at any call, on any database that has the connection. One in which nothing fails then
returns success, and one that returns success leaves the store that a single run in which nothing
fails leaves: the one without the connection. All other rows are as they were, exactly if no other
transaction was marked as a duplicate of one of the connection's. -/
theorem disconnect_retryable (L : Locale) (db : Database) {connection : ProviderConnection}
    (hconn : connection ∈ db.providerConnections) {w w' : World} (hw : w.db = db.toStore)
    (hfailed : (disconnects L connection).GuardedRun (DisconnectFails L connection) w w')
    {single : ℕ → Reply} (hsingle : ∀ n, (single n).Fine) :
    (∀ env, (∀ n, (env n).Fine) → DisconnectSucceeds L connection w' env) ∧
      ∀ last, DisconnectSucceeds L connection w' last →
        (disconnectRun L connection w' last).1.db = (disconnectRun L connection w single).1.db ∧
        (disconnectRun L connection w' last).1.db = withoutConnection connection db.toStore ∧
        (OthersUnchanged connection db.toStore (disconnectRun L connection w' last).1.db ↔
          NoLinksInto connection db.toStore) := by
  have hstart : Unfinished connection db.toStore w.db := by
    rw [hw]
    exact ⟨⟨known_of_mem hconn, rfl⟩, hconn⟩
  have hnow : Unfinished connection db.toStore w'.db := by
    refine GuardedRun.invariant (I := fun w ↦ Unfinished connection db.toStore w.db) ?_
      hfailed hstart
    rintro v env _ hv hfails rfl
    exact hv.step hfails
  refine ⟨fun env henv ↦ hnow.succeeds henv, fun last hlast ↦ ?_⟩
  have hdb := hnow.db_of_succeeds hlast
  refine ⟨hdb.trans (hstart.db_of_succeeds (hstart.succeeds hsingle)).symm, hdb, ?_⟩
  rw [hdb]
  exact othersUnchanged_withoutConnection_iff

/-- The connected checking account with two transactions, a manual account with its history, and the
savings account of another connection, with a transaction that is marked as a duplicate of one of
those. -/
def linkedDatabase : Database where
  toStore := { Store.empty with
    accounts := [checkingAccount, { checkingAccount with
      id := 2, providerAccountId := some "acc-2", providerConnectionId := some 8,
      name := "Savings" },
      { checkingAccount with
        id := 3, providerAccountId := none, providerConnectionId := none, name := "Cash" }]
    transactions := [checkingTransaction 10 100 500, checkingTransaction 11 101 700,
      { checkingTransaction 20 101 500 with accountId := 2, duplicateOfTransactionId := some 10 }]
    manualAccountBalanceHistory := [⟨3, 7, 90, 4000⟩]
    plaidCredentials := [⟨6, some 7, "item-1", "access-1"⟩, ⟨9, some 7, "item-2", "access-2"⟩]
    providerConnections := [checkingConnection,
      { checkingConnection with id := 8, itemId := "item-2" }] }
  keyed := by decide
  referential := by decide

/-- A database that stops answering after a number of calls. -/
def downAfter (calls : ℕ) (n : ℕ) : Reply :=
  { quietReply with databaseUp := n < calls }

/-- The disconnect fails after it has deleted the transactions, then after it has deleted the
accounts, and then gets through. -/
theorem disconnect_retryable_linked :
    let w : World := ⟨linkedDatabase.toStore, 0, []⟩
    let w₁ := (disconnectRun Locale.c checkingConnection w (downAfter 4)).1
    let w₂ := (disconnectRun Locale.c checkingConnection w₁ (downAfter 6)).1
    w₁.db.transactions.length = 1 ∧ w₁.db.accounts.length = 3 ∧ w₂.db.accounts.length = 2 ∧
      (disconnectRun Locale.c checkingConnection w₂ fun _ ↦ quietReply).1.db =
        withoutConnection checkingConnection linkedDatabase.toStore := by
  intro w w₁ w₂
  have hfine : ∀ _ : ℕ, quietReply.Fine := fun _ ↦ ⟨rfl, rfl⟩
  have hrun : (disconnects Locale.c checkingConnection).GuardedRun
      (DisconnectFails Locale.c checkingConnection) w w₂ :=
    ((GuardedRun.refl w).tail (l := downAfter 4) ⟨_, rfl⟩ rfl).tail (l := downAfter 6) ⟨_, rfl⟩ rfl
  obtain ⟨hretry, hlast⟩ := disconnect_retryable Locale.c linkedDatabase List.mem_cons_self rfl
    hrun hfine
  exact ⟨by decide, by decide, by decide, (hlast _ (hretry _ hfine)).2.1⟩

/-- **A disconnect unmarks a duplicate.** The transaction of the savings account is not as it
was. -/
theorem not_othersUnchanged_linked :
    let run := disconnectRun Locale.c checkingConnection ⟨linkedDatabase.toStore, 0, []⟩
      fun _ ↦ quietReply
    checkingConnection ∈ linkedDatabase.providerConnections ∧
      (∃ r, run.2.1 = .ok r ∧ r.success = true) ∧
        ¬ OthersUnchanged checkingConnection linkedDatabase.toStore run.1.db := by
  intro run
  refine ⟨List.mem_cons_self, ⟨_, rfl, rfl⟩, fun h ↦ ?_⟩
  have hrow := h.transactions
    { checkingTransaction 20 101 500 with accountId := 2, duplicateOfTransactionId := some 10 }
    (by decide) (by decide)
  exact absurd hrow (by decide)

end Sumurai
