import Sumurai.Connection.Records
import Sumurai.Connection.Sync
import Sumurai.Foundations.Runs

/-!
# Disconnecting a connection

`disconnect_connection_by_id` of `connection_service.rs` deletes the transactions, the accounts, the
credentials and the record of a connection, each in a transaction of its own. It runs among syncs
that were started before it, and these keep the connection they loaded in memory.

After the disconnect has returned, a sync in flight cannot bring an account back: the foreign key
needs the record. It can bring the record back, because `save_provider_connection` is an upsert and
inserts what it does not find; and then the next accounts come with it. `disconnect_final_iff` says
that this is the one way: in every interleaving of any number of syncs and disconnects, what a
successful disconnect has cleared stays cleared exactly if no save of the connection reaches the
database after it.
-/

open Program LabelledSystem

namespace Sumurai

/-- `DisconnectResult`, with the counts of `data_cleared`. -/
structure DisconnectResult where
  success : Bool
  message : String
  transactions : ℕ
  accounts : ℕ
deriving DecidableEq, Repr

/-- How a disconnect fails. -/
inductive DisconnectError where
  | database (e : DbError)
  | cache (message : String)
  /-- "Connection does not belong to user". -/
  | notOwner
deriving DecidableEq, Repr

/-- `delete_provider_transactions`: look the connection up, and delete the transactions of its
accounts. -/
def deleteProviderTransactions (itemId : String) : ServiceProgram (Except DbError ℕ) := do
  match ← perform (.connectionIdOfItem itemId) with
  | .error e => return .error e
  | .ok none => return .ok 0
  | .ok (some connectionId) => perform (.deleteTransactionsOfConnection connectionId)

/-- `delete_provider_accounts`: look the connection up, and delete its accounts. -/
def deleteProviderAccounts (itemId : String) : ServiceProgram (Except DbError ℕ) := do
  match ← perform (.connectionIdOfItem itemId) with
  | .error e => return .error e
  | .ok none => return .ok 0
  | .ok (some connectionId) => perform (.deleteAccountsOfConnection connectionId)

/-- The last two deletions of a disconnect: the credentials, and the record. -/
def deleteCredentialsAndRecord (userId : Uuid) (itemId : String) (transactions accounts : ℕ) :
    ServiceProgram (Except DisconnectError DisconnectResult) := do
  match ← perform (.deleteProviderCredentials itemId) with
  | .error e => return .error (.database e)
  | .ok () =>
    match ← perform (.deleteProviderConnection userId itemId) with
    | .error e => return .error (.database e)
    | .ok () =>
      return .ok
        { success := true
          message := "Successfully disconnected bank connection"
          transactions := transactions
          accounts := accounts }

/-- The deletions of a disconnect. -/
def deleteConnectionData (userId : Uuid) (itemId : String) :
    ServiceProgram (Except DisconnectError DisconnectResult) := do
  match ← deleteProviderTransactions itemId with
  | .error e => return .error (.database e)
  | .ok transactions =>
    match ← deleteProviderAccounts itemId with
    | .error e => return .error (.database e)
    | .ok accounts => deleteCredentialsAndRecord userId itemId transactions accounts

/-- `disconnect_connection_by_id`. -/
def disconnectConnectionById (userId connectionId : Uuid) :
    ServiceProgram (Except DisconnectError DisconnectResult) := do
  match ← perform (.getProviderConnectionById connectionId) with
  | .error e => return .error (.database e)
  | .ok none =>
    return .ok
      { success := false
        message := "Connection not found"
        transactions := 0
        accounts := 0 }
  | .ok (some connection) =>
    if connection.userId ≠ userId then return .error .notOwner
    else
      match ← perform .clearBankConnectionCache with
      | .error message => return .error (.cache message)
      | .ok () => deleteConnectionData userId connection.itemId

/-! ### Tasks -/

/-- A request or a background job on connections. -/
inductive Task where
  | syncConnectionById (userId connectionId : Uuid)
  | syncAllUserConnections (userId : Uuid)
  | disconnectConnectionById (userId connectionId : Uuid)
deriving DecidableEq, Repr

/-- What a task ends with. -/
inductive TaskResult where
  | synced (result : Except ConnectionSyncError SyncTransactionsResponse)
  | syncedAll (result : Except DbError ℕ)
  | disconnected (result : Except DisconnectError DisconnectResult)

/-- The program of a task. -/
def Task.program (registered : String → Bool) : Task → ServiceProgram TaskResult
  | .syncConnectionById userId connectionId => do
    let result ← Sumurai.syncConnectionById registered userId connectionId
    return .synced result
  | .syncAllUserConnections userId => do
    let result ← Sumurai.syncAllUserConnections registered userId
    return .syncedAll result
  | .disconnectConnectionById userId connectionId => do
    let result ← Sumurai.disconnectConnectionById userId connectionId
    return .disconnected result

/-- The state of a server: the world, and the tasks that run on it. -/
abbrev ServerState := Program.Pool ServiceCall ServiceCall.Answer World TaskResult

/-- The state in which no task has made a call. -/
def startTasks (registered : String → Bool) (db : Store) (tasks : List Task) : ServerState where
  state := ⟨db, 0, []⟩
  threads := tasks.map (Task.program registered)

/-- One task makes its next call. -/
def serverStep (L : Locale) (s : ServerState) (l : ℕ × Reply) : ServerState :=
  s.step (exec L) l

/-! ### The property -/

/-- Nothing of a connection is left: no record of its item, no account, and no credentials. -/
structure Cleared (connection : ProviderConnection) (db : Store) : Prop where
  records : ∀ r ∈ db.providerConnections, r.itemId ≠ connection.itemId
  accounts : ∀ a ∈ db.accounts, a.providerConnectionId ≠ some connection.id
  credentials : ∀ c ∈ db.plaidCredentials, c.itemId ≠ connection.itemId

/-- The program of a disconnect that has returned success. -/
def returnedSuccess : ServiceProgram TaskResult → Bool
  | .done (.disconnected (.ok result)) => result.success
  | _ => false

/-- A thread is a disconnect of the connection that has returned success. -/
def DisconnectReturned (connection : ProviderConnection) (tasks : List Task) (s : ServerState)
    (i : ℕ) : Prop :=
  ∃ userId, tasks[i]? = some (.disconnectConnectionById userId connection.id) ∧
    s.threads[i]?.any returnedSuccess = true

/-- Once a disconnect of the connection has returned success, nothing of it is left. -/
def DisconnectFinal (connection : ProviderConnection) (tasks : List Task) (s : ServerState) :
    Prop :=
  (∃ i, DisconnectReturned connection tasks s i) → Cleared connection s.state.db

/-- After a disconnect of the connection has returned success, the step is not a save of the
connection on a database that answers. -/
def NoLateSave (connection : ProviderConnection) (tasks : List Task) (s : ServerState)
    (l : ℕ × Reply) : Prop :=
  (∃ i, DisconnectReturned connection tasks s i) →
    ∀ c next, s.threads[l.1]? = some (.call (.saveProviderConnection c) next) →
      c.itemId = connection.itemId → l.2.databaseUp = false

/-! ### Cleared connections -/

section Cleared

variable {L : Locale} {connection : ProviderConnection} {db db' : Store}

/-- There are no credentials of the connection. -/
def NoCredentials (connection : ProviderConnection) (db : Store) : Prop :=
  ∀ c ∈ db.plaidCredentials, c.itemId ≠ connection.itemId

/-- **No call brings credentials back.** -/
theorem NoCredentials.statement {now : Timestamp} {call : ServiceCall}
    (h : NoCredentials connection db) (hok : statement L now db call = .ok db') :
    NoCredentials connection db' := by
  cases call with
  | upsertAccount a => rw [NoCredentials, (upsertAccount_frame hok).2]; exact h
  | saveProviderConnection c =>
    rcases saveProviderConnection_cases hok with ⟨-, rfl⟩ | ⟨-, rfl⟩ <;> exact h
  | deleteProviderCredentials itemId =>
    obtain rfl := Except.ok.inj hok
    exact fun c hc ↦ h c (List.mem_of_mem_filter hc)
  | deleteProviderConnection userId itemId =>
    rw [NoCredentials, (deleteProviderConnection_spec hok).1]
    exact h
  | _ =>
    rw [NoCredentials, (frame_of_statement hok (by simp) (by simp) (by simp) (by simp)).credentials]
    exact h

/-- Without a record of the item, there is none of the id either. -/
theorem Known.id_ne_of_item_ne (h : Known connection db)
    (hitems : ∀ r ∈ db.providerConnections, r.itemId ≠ connection.itemId) :
    ∀ r ∈ db.providerConnections, r.id ≠ connection.id :=
  fun r hr hid ↦ hitems r hr (h.records r hr (Or.inl hid)).2.1

/-- **What is cleared stays cleared**, unless the connection is saved. -/
theorem Cleared.statement {now : Timestamp} {call : ServiceCall} (h : Cleared connection db)
    (hknown : Known connection db) (hok : Sumurai.statement L now db call = .ok db')
    (hsave : ∀ c, call = .saveProviderConnection c → c.itemId ≠ connection.itemId) :
    Cleared connection db' := by
  have hcredentials : NoCredentials connection db' := NoCredentials.statement h.credentials hok
  cases call with
  | upsertAccount a =>
    refine ⟨(upsertAccount_frame hok).1 ▸ h.records, fun x hx hid ↦ ?_, hcredentials⟩
    rcases upsertAccount_accounts hok hx with hold | ⟨hhas, heq⟩
    · exact h.accounts x hold hid
    · -- the foreign key needs the record, which is gone
      obtain ⟨r, hr, hrid⟩ := exists_of_hasConnection hhas (heq.symm.trans hid)
      exact hknown.id_ne_of_item_ne h.records r hr hrid
  | saveProviderConnection c =>
    have hne := hsave c rfl
    rcases saveProviderConnection_cases hok with ⟨-, rfl⟩ | ⟨-, rfl⟩
    · refine ⟨fun r' hr' ↦ ?_, h.accounts, hcredentials⟩
      obtain ⟨r, hr, rfl⟩ := List.mem_map.1 hr'
      split
      · exact hne
      · exact h.records r hr
    · refine ⟨fun r hr ↦ ?_, h.accounts, hcredentials⟩
      rcases List.mem_append.1 hr with hr | hr
      · exact h.records r hr
      · rw [List.mem_singleton.1 hr]
        exact hne
  | deleteProviderCredentials itemId =>
    obtain rfl := Except.ok.inj hok
    exact ⟨h.records, h.accounts, hcredentials⟩
  | deleteProviderConnection userId itemId =>
    obtain ⟨-, hrows, haccounts⟩ := deleteProviderConnection_spec hok
    exact ⟨fun r hr ↦ h.records r ((hrows r).1 hr).1, fun a ha ↦ h.accounts a (haccounts a ha).1,
      hcredentials⟩
  | _ =>
    have hframe := frame_of_statement hok (by simp) (by simp) (by simp) (by simp)
    exact ⟨hframe.connections ▸ h.records, fun a ha ↦ h.accounts a (hframe.accounts ha),
      hcredentials⟩

/-- **A save of a cleared connection inserts its record.** -/
theorem Cleared.not_of_save {e : Reply} {c : ProviderConnection} (h : Cleared connection db)
    (hknown : Known connection db) (hc : NotConfused connection c)
    (hitem : c.itemId = connection.itemId) (hup : e.databaseUp = true) :
    ¬ Cleared connection (answer L e db (.saveProviderConnection c)).1 := by
  intro hcleared
  have hnew : ¬ (db.providerConnections.any fun r ↦ r.itemId = c.itemId) = true := by
    rw [List.any_eq_true]
    rintro ⟨r, hr, hritem⟩
    exact h.records r hr ((of_decide_eq_true hritem).trans hitem)
  have hfree : c.id ∉ db.providerConnections.map ProviderConnection.id := by
    intro hmem
    obtain ⟨r, hr, hrid⟩ := List.mem_map.1 hmem
    exact hknown.id_ne_of_item_ne h.records r hr (hrid.trans (hc (Or.inr hitem)).1)
  have hok : saveProviderConnection db c =
      .ok { db with providerConnections := db.providerConnections ++ [c] } := by
    rw [saveProviderConnection, if_neg hnew, if_neg hfree]
  have hstore : (answer L e db (.saveProviderConnection c)).1 =
      { db with providerConnections := db.providerConnections ++ [c] } := by
    simp [answer, writeStatement, hup, hok, withUnit, Except.map]
  rw [hstore] at hcleared
  exact hcleared.records c (List.mem_append_right _ (List.mem_singleton.2 rfl)) hitem

end Cleared

/-! ### What a disconnect calls -/

/-- The call is not a save of a connection. -/
def NeverSaves (call : ServiceCall) : Prop :=
  ∀ c, call ≠ .saveProviderConnection c

section Calls

theorem calls_deleteProviderTransactions (itemId : String) :
    (deleteProviderTransactions itemId).Calls NeverSaves := by
  refine (calls_perform (by simp [NeverSaves])).bind fun answer ↦ ?_
  split
  · exact calls_pure
  · exact calls_pure
  · exact calls_perform (by simp [NeverSaves])

theorem calls_deleteProviderAccounts (itemId : String) :
    (deleteProviderAccounts itemId).Calls NeverSaves := by
  refine (calls_perform (by simp [NeverSaves])).bind fun answer ↦ ?_
  split
  · exact calls_pure
  · exact calls_pure
  · exact calls_perform (by simp [NeverSaves])

/-- **A disconnect saves nothing.** -/
theorem calls_disconnectConnectionById (userId connectionId : Uuid) :
    (disconnectConnectionById userId connectionId).Calls NeverSaves := by
  refine (calls_perform (by simp [NeverSaves])).bind fun answer ↦ ?_
  split
  · exact calls_pure
  · exact calls_pure
  · split
    · exact calls_pure
    · refine (calls_perform (by simp [NeverSaves])).bind fun answer ↦ ?_
      split
      · exact calls_pure
      · refine (calls_deleteProviderTransactions _).bind fun answer ↦ ?_
        split
        · exact calls_pure
        · refine (calls_deleteProviderAccounts _).bind fun answer ↦ ?_
          split
          · exact calls_pure
          · refine (calls_perform (by simp [NeverSaves])).bind fun answer ↦ ?_
            split
            · exact calls_pure
            · refine (calls_perform (by simp [NeverSaves])).bind fun answer ↦ ?_
              split <;> exact calls_pure

end Calls

/-! ### What each task ensures among the others -/

section Tasks

variable (L : Locale) (connection : ProviderConnection)

/-- A task among the others: it saves no other connection as this one, and can rely on the others
keeping what is known about the connection and bringing no credentials back. -/
def amongTasks : Setting ServiceCall ServiceCall.Answer World Reply where
  exec := exec L
  allows _ _ := True
  permits _ call := SavesRecordOf connection call
  rely w w' := Known connection w'.db ∧
    (NoCredentials connection w.db → NoCredentials connection w'.db)

/-- What a task leaves behind: after a successful disconnect of the connection, nothing of it. -/
def TaskLeaves (task : Option Task) (result : TaskResult) (w : World) : Prop :=
  ∀ userId, task = some (.disconnectConnectionById userId connection.id) →
    returnedSuccess (.done result) = true → Cleared connection w.db

variable {L connection}

/-- A call in the setting. -/
theorem ensures_perform {call : ServiceCall} {Q : call.Answer → World → Prop} {w : World}
    (hcall : SavesRecordOf connection call)
    (h : ∀ w', Known connection w'.db →
      (NoCredentials connection w.db → NoCredentials connection w'.db) →
        ∀ e, Q (answer L e w'.db call).2 (exec L call e w').1) :
    (perform call).Ensures (amongTasks L connection) Q w :=
  fun w' hw' ↦ ⟨hcall, fun e _ ↦ h w' hw'.1 hw'.2 e⟩

theorem savesRecordOf_of_ne {call : ServiceCall} (h : NeverSaves call) :
    SavesRecordOf connection call :=
  fun c hc ↦ absurd hc (h c)

/-- The sync of a connection that is not confused with this one is a permitted program. -/
theorem ensures_syncConnection {registered : String → Bool} {userId : Uuid}
    {c : ProviderConnection} (hc : NotConfused connection c) {w : World} :
    (syncConnection registered userId c).Ensures (amongTasks L connection) (fun _ _ ↦ True) w := by
  refine (calls_syncConnection registered).ensures (J := fun _ ↦ True) (fun _ _ _ _ ↦ trivial)
    (fun _ call _ hcall c' hc' ↦ ?_) (fun _ _ _ _ _ _ ↦ trivial) trivial
  obtain ⟨hid, hitem, huser⟩ := hcall c' hc'
  rw [NotConfused, IsRecordOf, hid, hitem, huser]
  exact hc

/-- Programs without a save are permitted. -/
theorem ensures_of_calls {α : Type} {p : ServiceProgram α}
    (h : p.Calls NeverSaves) {w : World} :
    p.Ensures (amongTasks L connection) (fun _ _ ↦ True) w :=
  h.ensures (J := fun _ ↦ True) (fun _ _ _ _ ↦ trivial)
    (fun _ _ _ hcall ↦ savesRecordOf_of_ne hcall) (fun _ _ _ _ _ _ ↦ trivial) trivial

theorem ensures_syncConnectionById {registered : String → Bool} {userId connectionId : Uuid}
    {w : World} :
    (syncConnectionById registered userId connectionId).Ensures (amongTasks L connection)
      (fun _ _ ↦ True) w := by
  refine ensures_bind.2 (ensures_perform (savesRecordOf_of_ne (by simp [NeverSaves]))
    fun w' hknown _ e ↦ ?_)
  split
  · trivial
  · trivial
  · rename_i c hload
    have hc : getProviderConnectionById w'.db connectionId = some c :=
      (eq_of_readStatement hload).symm
    exact ensures_syncConnection (hknown.records c (List.mem_of_find?_eq_some hc))

theorem ensures_syncAllUserConnections {registered : String → Bool} {userId : Uuid} {w : World} :
    (syncAllUserConnections registered userId).Ensures (amongTasks L connection)
      (fun _ _ ↦ True) w := by
  refine ensures_bind.2 (ensures_perform (savesRecordOf_of_ne (by simp [NeverSaves]))
    fun w' hknown _ e ↦ ?_)
  split
  · trivial
  · rename_i connections hload
    have hrows : connections = getAllProviderConnectionsByUser w'.db userId :=
      eq_of_readStatement hload
    refine ensures_bind.2 ((Ensures.forEach (I := fun _ _ _ ↦ True) ?_ trivial).imp
      fun _ _ _ ↦ trivial)
    intro before c after _ _ hmem _
    have hc : c ∈ w'.db.providerConnections := by
      have hin : c ∈ getAllProviderConnectionsByUser w'.db userId := by
        rw [← hrows, hmem]
        exact List.mem_append_right _ List.mem_cons_self
      exact (List.mem_filter.1 ((List.mem_insertionSort _).1 hin)).1
    split
    · refine ensures_bind.2 ((ensures_syncConnection (hknown.records c hc)).imp fun r _ _ ↦ ?_)
      split <;> trivial
    · trivial

/-- The last two deletions clear the connection: the credentials go and do not come back, and the
record takes its accounts with it. -/
theorem ensures_deleteCredentialsAndRecord {m n : ℕ} {w : World} :
    (deleteCredentialsAndRecord connection.userId connection.itemId m n).Ensures
      (amongTasks L connection) (fun result w ↦ ∀ r, result = .ok r → Cleared connection w.db)
      w := by
  refine ensures_bind.2 (ensures_perform (savesRecordOf_of_ne (by simp [NeverSaves]))
    fun w₁ _ _ e₁ ↦ ?_)
  split
  · exact fun r hr ↦ absurd hr (by simp)
  · rename_i hcreds
    have hgone : NoCredentials connection
        (exec L (.deleteProviderCredentials connection.itemId) e₁ w₁).1.db := by
      have hup : e₁.databaseUp = true := by
        by_contra hdown
        simp [answer, writeStatement, hdown] at hcreds
      intro c hc
      simp only [exec, answer, writeStatement, hup, if_true] at hc
      exact of_decide_eq_true (List.mem_filter.1 hc).2
    refine ensures_bind.2 (ensures_perform (savesRecordOf_of_ne (by simp [NeverSaves]))
      fun w₂ hknown hcredentials e₂ ↦ ?_)
    split
    · exact fun r hr ↦ absurd hr (by simp)
    · rename_i hdel
      intro r _
      have hup : e₂.databaseUp = true := by
        by_contra hdown
        simp [answer, writeStatement, hdown] at hdel
      rcases hok : deleteProviderConnection w₂.db connection.userId connection.itemId with err | db'
      · simp [answer, writeStatement, hup, hok, withUnit, Except.map] at hdel
      · have hstore : (exec L (.deleteProviderConnection connection.userId connection.itemId)
            e₂ w₂).1.db = db' := by
          simp [exec, answer, writeStatement, hup, hok, withUnit, Except.map]
        obtain ⟨hsame, hrows, haccounts⟩ := deleteProviderConnection_spec hok
        rw [hstore]
        refine ⟨fun r hr hitem ↦ ?_, fun a ha hid ↦ ?_, ?_⟩
        · obtain ⟨hmem, hkept⟩ := (hrows r).1 hr
          exact hkept ⟨(hknown.records r hmem (Or.inr hitem)).2.2, hitem⟩
        · obtain ⟨hmem, hkept⟩ := haccounts a ha
          obtain ⟨r, hr, hrid⟩ := hknown.accounts a hmem hid
          obtain ⟨-, hitem, huser⟩ := hknown.records r hr (Or.inl hrid)
          exact hkept r hr (by rw [hid, hrid]) ⟨huser, hitem⟩
        · rw [hsame]
          exact hcredentials hgone

/-- A disconnect of the connection that succeeds leaves nothing of it. -/
theorem ensures_disconnectConnectionById {userId : Uuid} {w : World} :
    (disconnectConnectionById userId connection.id).Ensures (amongTasks L connection)
      (fun result w ↦ ∀ r, result = .ok r → r.success = true → Cleared connection w.db) w := by
  refine ensures_bind.2 (ensures_perform (savesRecordOf_of_ne (by simp [NeverSaves]))
    fun w₁ hknown _ e ↦ ?_)
  split
  · exact fun r hr ↦ absurd hr (by simp)
  · rintro r hr hsuccess
    obtain rfl := Except.ok.inj hr
    exact absurd hsuccess (by simp)
  · rename_i c hload
    have hc : getProviderConnectionById w₁.db connection.id = some c :=
      (eq_of_readStatement hload).symm
    have hid : c.id = connection.id := by simpa using List.find?_some hc
    obtain ⟨-, hitem, huser⟩ := hknown.records c (List.mem_of_find?_eq_some hc) (Or.inl hid)
    split
    · exact fun r hr ↦ absurd hr (by simp)
    · rename_i howner
      obtain rfl : c.userId = userId := not_not.1 howner
      rw [hitem, huser]
      refine ensures_bind.2 (ensures_perform (savesRecordOf_of_ne (by simp [NeverSaves]))
        fun w₂ _ _ _ ↦ ?_)
      split
      · exact fun r hr ↦ absurd hr (by simp)
      · refine ensures_bind.2 ((ensures_of_calls (calls_deleteProviderTransactions _)).imp
          fun m w₃ _ ↦ ?_)
        split
        · exact fun r hr ↦ absurd hr (by simp)
        · refine ensures_bind.2 ((ensures_of_calls (calls_deleteProviderAccounts _)).imp
            fun n w₄ _ ↦ ?_)
          split
          · exact fun r hr ↦ absurd hr (by simp)
          · exact ensures_deleteCredentialsAndRecord.imp fun result w h r hr _ ↦ h r hr

/-- **Every task ensures what it leaves behind**, among any others. -/
theorem ensures_task (registered : String → Bool) (task : Task) (w : World) :
    (task.program registered).Ensures (amongTasks L connection) (TaskLeaves connection (some task))
      w := by
  cases task with
  | syncConnectionById userId connectionId =>
    refine ensures_bind.2 (ensures_syncConnectionById.imp fun result w' _ ↦ ?_)
    exact fun u hu ↦ absurd hu (by simp)
  | syncAllUserConnections userId =>
    refine ensures_bind.2 (ensures_syncAllUserConnections.imp fun result w' _ ↦ ?_)
    exact fun u hu ↦ absurd hu (by simp)
  | disconnectConnectionById userId connectionId =>
    rcases eq_or_ne connectionId connection.id with rfl | hne
    · refine ensures_bind.2 (ensures_disconnectConnectionById.imp fun result w' h ↦ ?_)
      intro u _ hreturned
      cases result with
      | error e => exact absurd hreturned (by simp [returnedSuccess])
      | ok r => exact h r rfl hreturned
    · -- the disconnect of another connection
      refine ensures_bind.2 ((ensures_of_calls (calls_disconnectConnectionById _ _)).imp
        fun result w' _ ↦ ?_)
      intro u hu
      simp only [Option.some.injEq, Task.disconnectConnectionById.injEq] at hu
      exact absurd hu.2 hne

end Tasks

/-! ### Every interleaving -/

section Interleavings

variable {L : Locale} {connection : ProviderConnection} {tasks : List Task} {s : ServerState}

/-- What every step of a server keeps. -/
structure ServerSound (L : Locale) (connection : ProviderConnection) (tasks : List Task)
    (s : ServerState) : Prop where
  known : Known connection s.state.db
  ensured : s.Ensured (amongTasks L connection) fun i ↦ TaskLeaves connection tasks[i]?

theorem serverSound_start (L : Locale) (registered : String → Bool) {db : Database}
    (h : connection ∈ db.providerConnections) (tasks : List Task) :
    ServerSound L connection tasks (startTasks registered db.toStore tasks) where
  known := known_of_mem h
  ensured := by
    intro i op next hi
    rw [startTasks, List.getElem?_map] at hi
    obtain ⟨task, htask, hprogram⟩ := Option.map_eq_some_iff.1 hi
    show Program.Ensures (amongTasks L connection) (TaskLeaves connection tasks[i]?) _ _
    rw [htask, ← hprogram]
    exact ensures_task registered task _

/-- **One step**: the invariant is kept, and a disconnect that returns in the step has cleared its
connection. -/
theorem ServerSound.step (h : ServerSound L connection tasks s) (l : ℕ × Reply) :
    ServerSound L connection tasks (serverStep L s l) ∧
      ∀ i, DisconnectReturned connection tasks (serverStep L s l) i →
        DisconnectReturned connection tasks s i ∨
          Cleared connection (serverStep L s l).state.db := by
  have hguarantee : ∀ call e, SavesRecordOf connection call → True →
      Known connection (exec L call e s.state).1.db ∧
        (NoCredentials connection s.state.db →
          NoCredentials connection (exec L call e s.state).1.db) := by
    intro call e hcall _
    refine ⟨h.known.answer hcall, fun hnone ↦ ?_⟩
    rcases answer_cases L e s.state.db call with heq | ⟨-, hok⟩
    · show NoCredentials connection (answer L e s.state.db call).1
      rwa [heq]
    · exact hnone.statement hok
  obtain ⟨hensured, hrely, hdone⟩ := h.ensured.step (S := amongTasks L connection)
    (fun _ _ _ hst htu ↦ ⟨htu.1, fun hnone ↦ htu.2 (hst.2 hnone)⟩) hguarantee
    ⟨h.known, id⟩ (l := l) trivial
  refine ⟨⟨hrely.1, hensured⟩, ?_⟩
  rintro i ⟨userId, htask, hreturned⟩
  rcases hp : (serverStep L s l).threads[i]? with - | p
  · exact absurd hreturned (by simp [hp])
  have hsuccess : returnedSuccess p = true := by simpa [hp] using hreturned
  cases p with
  | call op next => exact absurd hsuccess (by simp [returnedSuccess])
  | done result =>
    rcases hdone i result hp with hold | hleaves
    · exact Or.inl ⟨userId, htask, by rw [hold]; exact hsuccess⟩
    · exact Or.inr (hleaves userId htask hsuccess)

/-- A disconnect that has returned stays so. -/
theorem DisconnectReturned.step {i : ℕ} (h : DisconnectReturned connection tasks s i)
    (l : ℕ × Reply) : DisconnectReturned connection tasks (serverStep L s l) i := by
  obtain ⟨userId, htask, hreturned⟩ := h
  refine ⟨userId, htask, ?_⟩
  rcases s.step_cases (exec L) l with hsame | ⟨op, next, hthread, hcall⟩
  · rw [serverStep, hsame]
    exact hreturned
  · rw [serverStep, hcall]
    dsimp only
    rw [List.getElem?_set]
    split
    · -- the thread that makes the call is not done
      rename_i heq
      rw [← heq, hthread] at hreturned
      exact absurd hreturned (by simp [returnedSuccess])
    · exact hreturned

/-- **What one step does to a cleared connection.** -/
theorem disconnectFinal_step_iff (h : ServerSound L connection tasks s)
    (hfinal : DisconnectFinal connection tasks s) (l : ℕ × Reply) :
    DisconnectFinal connection tasks (serverStep L s l) ↔ NoLateSave connection tasks s l := by
  constructor
  · rintro hnext ⟨i, hreturned⟩ c next hthread hitem
    by_contra hup
    rw [Bool.not_eq_false] at hup
    have hconfused : NotConfused connection c :=
      ((h.ensured l.1 _ next hthread) s.state ⟨h.known, id⟩).1 c rfl
    have hcleared := hnext ⟨i, hreturned.step l⟩
    rw [serverStep, Pool.step, hthread] at hcleared
    exact (hfinal ⟨i, hreturned⟩).not_of_save h.known hconfused hitem hup hcleared
  · rintro hguard ⟨i, hreturned⟩
    rcases (h.step l).2 i hreturned with hbefore | hcleared
    · have hcleared := hfinal ⟨i, hbefore⟩
      rcases s.step_cases (exec L) l with hsame | ⟨op, next, hthread, hcall⟩
      · rw [serverStep, hsame]
        exact hcleared
      · rw [serverStep, hcall]
        show Cleared connection (answer L l.2 s.state.db op).1
        rcases answer_cases L l.2 s.state.db op with heq | ⟨hup, hok⟩
        · rwa [heq]
        · refine hcleared.statement h.known hok fun c hc hitem ↦ ?_
          subst hc
          rw [hguard ⟨i, hbefore⟩ c next hthread hitem] at hup
          exact Bool.false_ne_true hup
    · exact hcleared

end Interleavings

/-- **When a disconnect is final.** Let any number of syncs, background syncs and disconnects of any
users and connections interleave, call by call, on a database that has the connection. In every
state after a disconnect of the connection has returned success nothing of the connection is left,
if and only if no save of the connection gets through to the database after that. -/
theorem disconnect_final_iff (L : Locale) (registered : String → Bool) (db : Database)
    {connection : ProviderConnection} (hconn : connection ∈ db.providerConnections)
    (tasks : List Task) (schedule : List (ℕ × Reply)) :
    Throughout (serverStep L) (DisconnectFinal connection tasks)
        (startTasks registered db.toStore tasks) schedule ↔
      Guarded (serverStep L) (NoLateSave connection tasks)
        (startTasks registered db.toStore tasks) schedule := by
  have hstart : DisconnectFinal connection tasks (startTasks registered db.toStore tasks) := by
    rintro ⟨i, userId, htask, hreturned⟩
    -- a disconnect starts with a call
    rw [startTasks, List.getElem?_map, htask] at hreturned
    exact absurd hreturned Bool.false_ne_true
  exact throughout_iff_guarded (I := ServerSound L connection tasks) (fun _ l h ↦ (h.step l).1)
    (fun _ l h hfinal ↦ disconnectFinal_step_iff h hfinal l)
    (serverSound_start L registered hconn tasks) hstart schedule

/-- The next call of a thread is a save. -/
def savesNext (s : ServerState) (i : ℕ) : Bool :=
  match s.threads[i]? with
  | some (.call (.saveProviderConnection _) _) => true
  | _ => false

theorem noLateSave_of_savesNext {connection : ProviderConnection} {tasks : List Task}
    {s : ServerState} {l : ℕ × Reply} (h : savesNext s l.1 = false) :
    NoLateSave connection tasks s l := by
  rintro - c next hthread -
  rw [savesNext, hthread] at h
  exact absurd h (by simp)

/-- A sync of the checking account, and its disconnect. -/
def syncAndDisconnect : List Task :=
  [.syncConnectionById 7 5, .disconnectConnectionById 7 5]

/-- The disconnect runs after the sync has loaded the connection. The sync then finds no
credentials. -/
theorem disconnect_final_before_credentials :
    checkingConnection ∈ connectedDatabase.providerConnections ∧
      Throughout (serverStep Locale.c) (DisconnectFinal checkingConnection syncAndDisconnect)
        (startTasks (fun _ ↦ true) connectedDatabase.toStore syncAndDisconnect)
        ([0, 1, 1, 1, 1, 1, 1, 1, 1, 0, 0, 0].map fun i ↦ (i, quietReply)) :=
  ⟨List.mem_singleton.2 rfl,
    (disconnect_final_iff Locale.c (fun _ ↦ true) connectedDatabase (List.mem_singleton.2 rfl) _
      _).2 <|
      Guarded.imp (G := fun s l ↦ savesNext s l.1 = false) (fun _ _ ↦ noLateSave_of_savesNext)
        (by decide)⟩

/-- **A disconnected connection comes back.** The disconnect runs after the sync has fetched its
transactions. The sync then saves the connection it loaded. -/
theorem sync_restores_disconnected :
    let schedule := ([0, 0, 0, 0, 0, 0, 0, 0, 0, 0, 0, 1, 1, 1, 1, 1, 1, 1, 1, 0].map fun i ↦
      ((i, quietReply) : ℕ × Reply))
    ¬ Throughout (serverStep Locale.c) (DisconnectFinal checkingConnection syncAndDisconnect)
      (startTasks (fun _ ↦ true) connectedDatabase.toStore syncAndDisconnect) schedule := by
  intro schedule h
  have hcleared := h.final ⟨1, 7, rfl, by decide⟩
  have hitems : ∃ r ∈ (schedule.foldl (serverStep Locale.c) (startTasks (fun _ ↦ true)
      connectedDatabase.toStore syncAndDisconnect)).state.db.providerConnections,
        r.itemId = "item-1" := by decide
  obtain ⟨r, hr, hitem⟩ := hitems
  exact hcleared.records r hr hitem

end Sumurai
