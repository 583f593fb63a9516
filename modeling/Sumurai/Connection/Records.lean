import Sumurai.Connection.Calls

/-!
# What calls do to the record of a connection

The sync programs and the disconnect share three tables: the connections, the accounts that belong
to them, and the credentials. This file says what each call does to them.

`Known connection db` is what every call keeps: no row takes the id or the item of the connection
without being its record, and no account belongs to it without the record being there. The second
half is the foreign key of `accounts`. It is what makes an account write fail once the record is
gone, and what makes a save that inserts the record again the only way back.
-/

namespace Sumurai

/-- A row is a record of a connection. -/
def IsRecordOf (connection r : ProviderConnection) : Prop :=
  r.id = connection.id ∧ r.itemId = connection.itemId ∧ r.userId = connection.userId

/-- A connection that shares the id or the item of another is a record of it. -/
def NotConfused (connection r : ProviderConnection) : Prop :=
  r.id = connection.id ∨ r.itemId = connection.itemId → IsRecordOf connection r

/-- What every call keeps about a connection. -/
structure Known (connection : ProviderConnection) (db : Store) : Prop where
  records : ∀ r ∈ db.providerConnections, NotConfused connection r
  accounts : ∀ a ∈ db.accounts, a.providerConnectionId = some connection.id →
    ∃ r ∈ db.providerConnections, r.id = connection.id

theorem known_of_mem {db : Database} {connection : ProviderConnection}
    (h : connection ∈ db.providerConnections) : Known connection db.toStore where
  records := by
    rintro r hr (hid | hitem)
    · obtain rfl := List.inj_on_of_nodup_map db.keyed.providerConnections_pkey hr h hid
      exact ⟨rfl, rfl, rfl⟩
    · obtain rfl := List.inj_on_of_nodup_map db.keyed.providerConnections_itemId_key hr h hitem
      exact ⟨rfl, rfl, rfl⟩
  accounts := fun _ _ _ ↦ ⟨connection, h, rfl⟩

/-! ### The statements -/

/-- The store of a statement that also returns a value. -/
theorem exists_of_map_fst_eq_ok {α : Type} {db' : Store} {result : Except DbError (Store × α)}
    (h : result.map Prod.fst = .ok db') : ∃ a, result = .ok (db', a) := by
  rcases result with err | ⟨db₁, a⟩
  · exact absurd h nofun
  · exact ⟨a, by rw [← Except.ok.inj h]⟩

section Statements

variable {db db' : Store}

theorem upsertAccount_frame {now : Timestamp} {a : Account}
    (h : upsertAccount db now a = .ok db') :
    db'.providerConnections = db.providerConnections ∧
    db'.plaidCredentials = db.plaidCredentials := by
  rw [upsertAccount] at h
  split at h
  · split at h
    · obtain rfl := Except.ok.inj h
      exact ⟨rfl, rfl⟩
    · exact absurd h (by simp)
  · split at h
    · exact absurd h (by simp)
    · split at h
      · obtain rfl := Except.ok.inj h
        exact ⟨rfl, rfl⟩
      · exact absurd h (by simp)

/-- An account after an upsert was there with the same connection, or has that of the upsert, which
exists. -/
theorem upsertAccount_accounts {now : Timestamp} {a x : Account}
    (h : upsertAccount db now a = .ok db') (hx : x ∈ db'.accounts) :
    x ∈ db.accounts ∨ (hasConnection db a = true ∧
      x.providerConnectionId = a.providerConnectionId) := by
  rw [upsertAccount] at h
  split at h
  · split at h
    · rename_i hconn
      obtain rfl := Except.ok.inj h
      obtain ⟨r, hr, rfl⟩ := List.mem_map.1 hx
      split
      · exact Or.inr ⟨hconn, rfl⟩
      · exact Or.inl hr
    · exact absurd h (by simp)
  · split at h
    · exact absurd h (by simp)
    · split at h
      · rename_i hconn
        obtain rfl := Except.ok.inj h
        rcases List.mem_append.1 hx with hx | hx
        · exact Or.inl hx
        · obtain rfl := List.mem_singleton.1 hx
          exact Or.inr ⟨hconn, rfl⟩
      · exact absurd h (by simp)

theorem exists_of_hasConnection {a : Account} {c : Uuid} (h : hasConnection db a = true)
    (hc : a.providerConnectionId = some c) : ∃ r ∈ db.providerConnections, r.id = c := by
  rw [hasConnection, hc, Option.all_some, decide_eq_true_iff] at h
  exact List.mem_map.1 h

theorem deleteAccounts_eq_ok {doomed : Account → Bool} (h : deleteAccounts db doomed = .ok db') :
    db' = { db with
      accounts := db.accounts.filter fun a ↦ !doomed a
      manualAccountBalanceHistory := db.manualAccountBalanceHistory.filter fun h ↦
        h.accountId ∉ (db.accounts.filter doomed).map Account.id } := by
  rw [deleteAccounts] at h
  split at h
  · exact absurd h (by simp)
  · exact (Except.ok.inj h).symm

theorem mergeDuplicateProviderAccounts_frame {L : Locale} {userId connectionId : Uuid} {n : ℕ}
    (h : mergeDuplicateProviderAccounts L db userId connectionId = .ok (db', n)) :
    db'.providerConnections = db.providerConnections ∧
      db'.plaidCredentials = db.plaidCredentials ∧ db'.accounts ⊆ db.accounts := by
  rw [mergeDuplicateProviderAccounts] at h
  obtain ⟨db₁, hdel, hrest⟩ := Except.exists_of_bind_eq_ok h
  obtain ⟨rfl, -⟩ := Prod.mk.inj (Except.ok.inj hrest)
  rw [deleteAccounts_eq_ok hdel]
  exact ⟨rfl, rfl, List.filter_sublist.subset⟩

theorem deleteAccountsOfConnection_eq_ok {connectionId : Uuid} {n : ℕ}
    (h : deleteAccountsOfConnection db connectionId = .ok (db', n)) :
    deleteAccounts db (fun a ↦ decide (a.providerConnectionId = some connectionId)) = .ok db' := by
  rw [deleteAccountsOfConnection] at h
  obtain ⟨db₁, hdel, hrest⟩ := Except.exists_of_bind_eq_ok h
  obtain ⟨rfl, -⟩ := Prod.mk.inj (Except.ok.inj hrest)
  exact hdel

theorem deleteAccountsOfConnection_frame {connectionId : Uuid} {n : ℕ}
    (h : deleteAccountsOfConnection db connectionId = .ok (db', n)) :
    db'.providerConnections = db.providerConnections ∧
      db'.plaidCredentials = db.plaidCredentials ∧ db'.accounts ⊆ db.accounts := by
  rw [deleteAccounts_eq_ok (deleteAccountsOfConnection_eq_ok h)]
  exact ⟨rfl, rfl, List.filter_sublist.subset⟩

/-- The deletion of a record deletes the accounts of the connections it finds, and then these. -/
theorem deleteProviderConnection_eq_ok {userId : Uuid} {itemId : String}
    (h : deleteProviderConnection db userId itemId = .ok db') :
    ∃ db₁, (deleteAccounts db fun a ↦ a.providerConnectionId.any fun c ↦
        decide (c ∈ (db.providerConnections.filter fun r ↦
          decide (r.userId = userId ∧ r.itemId = itemId)).map ProviderConnection.id)) = .ok db₁ ∧
      db' = { db₁ with
        providerConnections := db.providerConnections.filter fun r ↦
          !decide (r.userId = userId ∧ r.itemId = itemId) } := by
  rw [deleteProviderConnection] at h
  obtain ⟨db₁, hdel, hrest⟩ := Except.exists_of_bind_eq_ok h
  exact ⟨db₁, hdel, (Except.ok.inj hrest).symm⟩

/-- A deleted connection takes its accounts with it. -/
theorem deleteProviderConnection_spec {userId : Uuid} {itemId : String}
    (h : deleteProviderConnection db userId itemId = .ok db') :
    db'.plaidCredentials = db.plaidCredentials ∧
      (∀ r, r ∈ db'.providerConnections ↔
        r ∈ db.providerConnections ∧ ¬ (r.userId = userId ∧ r.itemId = itemId)) ∧
      ∀ a ∈ db'.accounts, a ∈ db.accounts ∧ ∀ r ∈ db.providerConnections,
        a.providerConnectionId = some r.id → ¬ (r.userId = userId ∧ r.itemId = itemId) := by
  obtain ⟨db₁, hdel, rfl⟩ := deleteProviderConnection_eq_ok h
  rw [deleteAccounts_eq_ok hdel]
  refine ⟨rfl, fun r ↦ ?_, fun a ha ↦ ?_⟩
  · show r ∈ db.providerConnections.filter _ ↔ _
    rw [List.mem_filter, Bool.not_eq_true', decide_eq_false_iff_not]
  · obtain ⟨hmem, hkept⟩ := List.mem_filter.1 ha
    refine ⟨hmem, fun r hr hconn hgone ↦ ?_⟩
    rw [hconn, Option.any_some, Bool.not_eq_true', decide_eq_false_iff_not] at hkept
    exact hkept (List.mem_map_of_mem (List.mem_filter.2 ⟨hr, decide_eq_true hgone⟩))

/-- What a save does: it updates the rows of the item, or inserts one. -/
theorem saveProviderConnection_cases {c : ProviderConnection}
    (h : saveProviderConnection db c = .ok db') :
    ((∃ r ∈ db.providerConnections, r.itemId = c.itemId) ∧
        db' = { db with
          providerConnections := db.providerConnections.map fun r ↦
            if r.itemId = c.itemId then
              { c with id := r.id, userId := r.userId, createdAt := r.createdAt }
            else r }) ∨
      ((∀ r ∈ db.providerConnections, r.itemId ≠ c.itemId) ∧
        db' = { db with providerConnections := db.providerConnections ++ [c] }) := by
  rw [saveProviderConnection] at h
  split at h
  · rename_i hany
    obtain ⟨r, hr, hitem⟩ := List.any_eq_true.1 hany
    exact Or.inl ⟨⟨r, hr, of_decide_eq_true hitem⟩, (Except.ok.inj h).symm⟩
  · rename_i hany
    split at h
    · exact absurd h (by simp)
    · refine Or.inr ⟨fun r hr hitem ↦ hany (List.any_eq_true.2 ⟨r, hr, ?_⟩), (Except.ok.inj h).symm⟩
      exact decide_eq_true hitem

theorem upsertTransaction_frame {now : Timestamp} {t : Transaction}
    (h : upsertTransaction db now t = .ok db') :
    db'.providerConnections = db.providerConnections ∧
      db'.plaidCredentials = db.plaidCredentials ∧ db'.accounts = db.accounts := by
  rw [upsertTransaction] at h
  split at h
  · obtain rfl := Except.ok.inj h
    exact ⟨rfl, rfl, rfl⟩
  · split at h
    · exact absurd h (by simp)
    · split at h
      · exact absurd h (by simp)
      · obtain rfl := Except.ok.inj h
        exact ⟨rfl, rfl, rfl⟩

end Statements

/-! ### The calls -/

/-- The store after a call that the database answers; a call that does not write leaves it as it
is. -/
def statement (L : Locale) (now : Timestamp) (db : Store) : ServiceCall → Except DbError Store
  | .upsertAccount a => upsertAccount db now a
  | .mergeDuplicateProviderAccounts userId connectionId =>
    (mergeDuplicateProviderAccounts L db userId connectionId).map Prod.fst
  | .upsertTransaction t => upsertTransaction db now t
  | .mergeDuplicateProviderTransactions userId connectionId =>
    .ok (mergeDuplicateProviderTransactions L db userId connectionId).1
  | .autoResolvePendingDuplicates userId connectionId =>
    .ok (autoResolvePendingDuplicates L db now userId connectionId).1
  | .saveProviderConnection c => saveProviderConnection db c
  | .deleteTransactionsOfConnection connectionId =>
    .ok (deleteTransactionsOfConnection db connectionId).1
  | .deleteAccountsOfConnection connectionId =>
    (deleteAccountsOfConnection db connectionId).map Prod.fst
  | .deleteProviderCredentials itemId => .ok (deleteProviderCredentials db itemId)
  | .deleteProviderConnection userId itemId => deleteProviderConnection db userId itemId
  | _ => .ok db

section Calls

variable {L : Locale} {db db' : Store} {connection : ProviderConnection}

theorem readStatement_fst {α : Type} (e : Reply) (db : Store) (a : α) :
    (readStatement e db a).1 = db := by
  rw [readStatement]
  split <;> rfl

/-- What a reading statement answers. -/
theorem eq_of_readStatement {α : Type} {e : Reply} {a b : α}
    (h : (readStatement e db a).2 = .ok b) : b = a := by
  rw [readStatement] at h
  split at h
  · exact (Except.ok.inj h).symm
  · exact absurd h nofun

theorem writeStatement_cases {α : Type} (e : Reply) (db : Store)
    (result : Except DbError (Store × α)) :
    (writeStatement e db result).1 = db ∨
      (e.databaseUp = true ∧ result.map Prod.fst = .ok (writeStatement e db result).1) := by
  unfold writeStatement
  split
  · rename_i hup
    rcases result with err | ⟨db', a⟩
    · exact Or.inl rfl
    · exact Or.inr ⟨hup, rfl⟩
  · exact Or.inl rfl

/-- A statement with a value: it fails and changes nothing, or it is carried out. -/
theorem valueStatement_cases {α : Type} (e : Reply) (db : Store)
    (result : Except DbError (Store × α)) :
    (∃ err, writeStatement e db result = (db, .error err)) ∨
      ∃ db' a, result = .ok (db', a) ∧ writeStatement e db result = (db', .ok a) := by
  unfold writeStatement
  split
  · rcases result with err | ⟨db', a⟩
    · exact Or.inl ⟨err, rfl⟩
    · exact Or.inr ⟨db', a, rfl, rfl⟩
  · exact Or.inl ⟨_, rfl⟩

/-- A statement without a value: it fails and changes nothing, or it is carried out. -/
theorem unitStatement_cases (e : Reply) (db : Store) (result : Except DbError Store) :
    (∃ err, writeStatement e db (withUnit result) = (db, .error err)) ∨
      ∃ db', result = .ok db' ∧ writeStatement e db (withUnit result) = (db', .ok ()) := by
  unfold writeStatement
  split
  · rcases result with err | db'
    · exact Or.inl ⟨err, rfl⟩
    · exact Or.inr ⟨db', rfl, rfl⟩
  · exact Or.inl ⟨_, rfl⟩

theorem map_withUnit (result : Except DbError Store) :
    (withUnit result).map Prod.fst = result := by
  cases result <;> rfl

/-- **What a call does to the store**: nothing, or its statement, on a database that answers. -/
theorem answer_cases (L : Locale) (e : Reply) (db : Store) (call : ServiceCall) :
    (answer L e db call).1 = db ∨
      (e.databaseUp = true ∧ statement L e.now db call = .ok (answer L e db call).1) := by
  cases call with
  | upsertAccount a =>
    have h := writeStatement_cases e db (withUnit (upsertAccount db e.now a))
    rwa [map_withUnit] at h
  | upsertTransaction t =>
    have h := writeStatement_cases e db (withUnit (upsertTransaction db e.now t))
    rwa [map_withUnit] at h
  | saveProviderConnection c =>
    have h := writeStatement_cases e db (withUnit (saveProviderConnection db c))
    rwa [map_withUnit] at h
  | deleteProviderConnection userId itemId =>
    have h := writeStatement_cases e db (withUnit (deleteProviderConnection db userId itemId))
    rwa [map_withUnit] at h
  | mergeDuplicateProviderAccounts userId connectionId => exact writeStatement_cases _ _ _
  | mergeDuplicateProviderTransactions userId connectionId => exact writeStatement_cases _ _ _
  | autoResolvePendingDuplicates userId connectionId => exact writeStatement_cases _ _ _
  | deleteTransactionsOfConnection connectionId => exact writeStatement_cases _ _ _
  | deleteAccountsOfConnection connectionId => exact writeStatement_cases _ _ _
  | deleteProviderCredentials itemId => exact writeStatement_cases _ _ _
  | _ => exact Or.inl (by first | rfl | exact readStatement_fst _ _ _)

/-- A statement leaves the three tables alone, up to accounts that go. -/
structure Frame (db db' : Store) : Prop where
  connections : db'.providerConnections = db.providerConnections
  credentials : db'.plaidCredentials = db.plaidCredentials
  accounts : db'.accounts ⊆ db.accounts

theorem Frame.refl (db : Store) : Frame db db :=
  ⟨rfl, rfl, fun _ h ↦ h⟩

/-- **The calls that write none of the three tables**, except for accounts that go. -/
theorem frame_of_statement {now : Timestamp} {call : ServiceCall}
    (h : statement L now db call = .ok db') (haccount : ∀ a, call ≠ .upsertAccount a)
    (hsave : ∀ c, call ≠ .saveProviderConnection c)
    (hcredentials : ∀ itemId, call ≠ .deleteProviderCredentials itemId)
    (hdelete : ∀ userId itemId, call ≠ .deleteProviderConnection userId itemId) :
    Frame db db' := by
  cases call with
  | upsertAccount a => exact absurd rfl (haccount a)
  | saveProviderConnection c => exact absurd rfl (hsave c)
  | deleteProviderCredentials itemId => exact absurd rfl (hcredentials itemId)
  | deleteProviderConnection userId itemId => exact absurd rfl (hdelete userId itemId)
  | mergeDuplicateProviderAccounts userId connectionId =>
    obtain ⟨n, hn⟩ := exists_of_map_fst_eq_ok h
    obtain ⟨hconn, hcred, hacc⟩ := mergeDuplicateProviderAccounts_frame hn
    exact ⟨hconn, hcred, hacc⟩
  | deleteAccountsOfConnection connectionId =>
    obtain ⟨n, hn⟩ := exists_of_map_fst_eq_ok h
    obtain ⟨hconn, hcred, hacc⟩ := deleteAccountsOfConnection_frame hn
    exact ⟨hconn, hcred, hacc⟩
  | upsertTransaction t =>
    obtain ⟨hconn, hcred, hacc⟩ := upsertTransaction_frame h
    exact ⟨hconn, hcred, hacc ▸ fun _ h ↦ h⟩
  | mergeDuplicateProviderTransactions userId connectionId =>
    obtain rfl := Except.ok.inj h
    exact ⟨rfl, rfl, fun _ h ↦ h⟩
  | autoResolvePendingDuplicates userId connectionId =>
    obtain rfl := Except.ok.inj h
    exact ⟨rfl, rfl, fun _ h ↦ h⟩
  | deleteTransactionsOfConnection connectionId =>
    obtain rfl := Except.ok.inj h
    exact ⟨rfl, rfl, fun _ h ↦ h⟩
  | _ =>
    obtain rfl := Except.ok.inj h
    exact Frame.refl db

/-- The call leaves the connections alone. -/
def ServiceCall.keepsConnections : ServiceCall → Bool
  | .saveProviderConnection _ => false
  | .deleteProviderConnection _ _ => false
  | _ => true

theorem providerConnections_answer {e : Reply} {call : ServiceCall}
    (hkeeps : call.keepsConnections = true) :
    (answer L e db call).1.providerConnections = db.providerConnections := by
  rcases answer_cases L e db call with heq | ⟨-, hok⟩
  · rw [heq]
  · cases call with
    | saveProviderConnection c => exact absurd hkeeps Bool.false_ne_true
    | deleteProviderConnection userId itemId => exact absurd hkeeps Bool.false_ne_true
    | upsertAccount a => exact (upsertAccount_frame hok).1
    | deleteProviderCredentials itemId => rw [← Except.ok.inj hok]; rfl
    | _ => exact (frame_of_statement hok (by simp) (by simp) (by simp) (by simp)).connections

/-- The saves of a call are of records of the connection, unless they have nothing to do with it. -/
def SavesRecordOf (connection : ProviderConnection) (call : ServiceCall) : Prop :=
  ∀ c, call = .saveProviderConnection c → NotConfused connection c

/-- **Every call keeps what is known about a connection.** -/
theorem Known.statement {now : Timestamp} {call : ServiceCall} (h : Known connection db)
    (hcall : SavesRecordOf connection call) (hok : statement L now db call = .ok db') :
    Known connection db' := by
  cases call with
  | upsertAccount a =>
    obtain ⟨hconn, -⟩ := upsertAccount_frame hok
    refine ⟨hconn ▸ h.records, fun x hx hid ↦ ?_⟩
    rw [hconn]
    rcases upsertAccount_accounts hok hx with hold | ⟨hhas, heq⟩
    · exact h.accounts x hold hid
    · exact exists_of_hasConnection hhas (heq.symm.trans hid)
  | saveProviderConnection c =>
    rcases saveProviderConnection_cases hok with ⟨-, rfl⟩ | ⟨-, rfl⟩
    · constructor
      · intro r' hr'
        obtain ⟨r, hr, rfl⟩ := List.mem_map.1 hr'
        split
        · rename_i hitem
          have hrecord := h.records r hr
          rw [NotConfused, IsRecordOf, hitem] at hrecord
          exact hrecord
        · exact h.records r hr
      · intro a ha hid
        obtain ⟨r, hr, hrid⟩ := h.accounts a ha hid
        refine ⟨_, List.mem_map_of_mem hr, ?_⟩
        split <;> exact hrid
    · refine ⟨fun r hr ↦ ?_, fun a ha hid ↦ ?_⟩
      · rcases List.mem_append.1 hr with hr | hr
        · exact h.records r hr
        · obtain rfl := List.mem_singleton.1 hr
          exact hcall r rfl
      · obtain ⟨r, hr, hrid⟩ := h.accounts a ha hid
        exact ⟨r, List.mem_append_left _ hr, hrid⟩
  | deleteProviderCredentials itemId =>
    obtain rfl := Except.ok.inj hok
    exact ⟨h.records, h.accounts⟩
  | deleteProviderConnection userId itemId =>
    obtain ⟨-, hrows, haccounts⟩ := deleteProviderConnection_spec hok
    refine ⟨fun r hr ↦ h.records r ((hrows r).1 hr).1, fun a ha hid ↦ ?_⟩
    obtain ⟨hmem, hkept⟩ := haccounts a ha
    obtain ⟨r, hr, hrid⟩ := h.accounts a hmem hid
    exact ⟨r, (hrows r).2 ⟨hr, hkept r hr (by rw [hid, hrid])⟩, hrid⟩
  | _ =>
    have hframe := frame_of_statement hok (by simp) (by simp) (by simp) (by simp)
    refine ⟨hframe.connections ▸ h.records, fun a ha hid ↦ ?_⟩
    rw [hframe.connections]
    exact h.accounts a (hframe.accounts ha) hid

theorem Known.answer {e : Reply} {call : ServiceCall} (h : Known connection db)
    (hcall : SavesRecordOf connection call) : Known connection (answer L e db call).1 := by
  rcases answer_cases L e db call with heq | ⟨-, hok⟩
  · rwa [heq]
  · exact h.statement hcall hok

end Calls

end Sumurai
