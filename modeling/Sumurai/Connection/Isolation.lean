import Sumurai.Connection.Disconnect
import Sumurai.Connection.Tenants

/-!
# Isolation of the users

The operations on provider data that a user can ask for: the two connects, the syncs, the
disconnect, and the storing of credentials. An operation is isolated if it leaves the rows of all
other users as they are, and ends as it would if these rows were not there.

`isolation_of_within` says what keeps an operation isolated, whatever the policies of the database
let it do: that no statement of its run names a row of another user. `isolation_first` says that the
first statement of an operation must not, for the operations that start from an id or an item they
are given: nothing that comes after makes up for it. What the first kind of statement names beyond
the second are keys that come with the answers of the provider.
-/

open Program

namespace Sumurai

/-- A program of the service, among those that connect. -/
def liftService {α : Type} : ServiceProgram α → ConnectProgram α
  | .done a => .done a
  | .call op next => .call (.service op) fun r ↦ liftService (next r)

theorem run_liftService {α : Type} (L : Locale) (p : ServiceProgram α) (env : ℕ → ConnectReply)
    (w : World) : ((liftService p).run (connectExec L) env w).1 =
        (p.run (exec L) (fun n ↦ (env n).toReply) w).1 ∧
      ((liftService p).run (connectExec L) env w).2.1 =
        (p.run (exec L) (fun n ↦ (env n).toReply) w).2.1 := by
  induction p generalizing env w with
  | done a => exact ⟨rfl, rfl⟩
  | call op next ih => exact ih _ (fun n ↦ env (n + 1)) _

/-- What a user can ask for. -/
inductive ProviderOperation where
  | connectTellerProvider (request : ProviderConnectRequest)
  | exchangePublicToken (provider publicToken : String)
  | syncConnectionById (connectionId : Uuid)
  | syncAllUserConnections
  | disconnectConnectionById (connectionId : Uuid)
  | storeProviderCredentials (itemId accessToken : String)
deriving DecidableEq, Repr

/-- What an operation ends with. -/
inductive ProviderOutcome where
  | connected (result : Except TellerConnectError ProviderConnectResponse)
  | exchanged (result : Except ExchangeTokenError ExchangeTokenResponse)
  | synced (result : Except ConnectionSyncError SyncTransactionsResponse)
  | syncedAll (result : Except DbError ℕ)
  | disconnected (result : Except DisconnectError DisconnectResult)
  | stored (result : Except DbError Unit)

/-- The program of an operation. -/
def ProviderOperation.program (registered : String → Bool) (parseStr : String → Option Uuid)
    (u : Uuid) : ProviderOperation → ConnectProgram ProviderOutcome
  | .connectTellerProvider request => do
    let result ← Sumurai.connectTellerProvider registered parseStr u request
    return .connected result
  | .exchangePublicToken provider publicToken => do
    let result ← Sumurai.exchangePublicToken registered provider u publicToken
    return .exchanged result
  | .syncConnectionById connectionId => do
    let result ← liftService (Sumurai.syncConnectionById registered u connectionId)
    return .synced result
  | .syncAllUserConnections => do
    let result ← liftService (Sumurai.syncAllUserConnections registered u)
    return .syncedAll result
  | .disconnectConnectionById connectionId => do
    let result ← liftService (Sumurai.disconnectConnectionById u connectionId)
    return .disconnected result
  | .storeProviderCredentials itemId accessToken => do
    let result ← performConnect (.storeProviderCredentialsForUser u itemId accessToken)
    return .stored result

/-- No row that a call names on a database that answers is another user's, and an id that is made is
new. -/
def WithinCall (L : Locale) (u : Uuid) (w : World) : ConnectCall → ConnectReply → Prop
  | .service op, e => e.databaseUp = true → Within L u w.db op
  | .newV4, e => e.newId ∉ w.db.providerConnections.map ProviderConnection.id
  | .storeProviderCredentialsForUser userId itemId _, e => e.databaseUp = true →
      userId = u ∧ OwnCredentials u w.db (fun c ↦ c.itemId = itemId) ∧
        e.newId ∉ w.db.plaidCredentials.map PlaidCredentials.id
  | .exchangePublicToken _, _ => True
  | .getInstitutionInfo _, _ => True

/-- An operation is isolated: it leaves the rows of the others as they are, and ends as it would
without them. -/
def Isolation (L : Locale) (registered : String → Bool) (parseStr : String → Option Uuid) (u : Uuid)
    (op : ProviderOperation) (db : Store) (env : ℕ → ConnectReply) : Prop :=
  let run := (op.program registered parseStr u).run (connectExec L) env ⟨db, 0, []⟩
  let alone := (op.program registered parseStr u).run (connectExec L) env ⟨ownRows u db, 0, []⟩
  othersRows u run.1.db = othersRows u db ∧ alone.2.1 = run.2.1

/-! ### Two runs -/

section Runs

variable {L : Locale} {u : Uuid} {w w' : World} {e : ConnectReply} {others : Store}

/-- The second run has the user's rows, and the others have theirs. -/
structure Alone (u : Uuid) (others : Store) (w w' : World) : Prop where
  own : w'.db = ownRows u w.db
  others : othersRows u w.db = others

theorem newV4_of_notMem {taken : List Uuid} {proposed : Uuid} (h : proposed ∉ taken) :
    newV4 taken proposed = proposed :=
  if_neg h

theorem storeProviderCredentialsForUser_ownRows {db : Store} (id : Uuid) {itemId : String}
    (accessToken : String) (h : OwnCredentials u db fun c ↦ c.itemId = itemId) :
    storeProviderCredentialsForUser (ownRows u db) id u itemId accessToken =
        ownRows u (storeProviderCredentialsForUser db id u itemId accessToken) ∧
      othersRows u (storeProviderCredentialsForUser db id u itemId accessToken) =
        othersRows u db := by
  have hany : (ownRows u db).plaidCredentials.any (fun r ↦ decide (r.itemId = itemId)) =
      db.plaidCredentials.any fun r ↦ decide (r.itemId = itemId) :=
    HiddenRows.any_visible fun r hr hitem ↦ h r hr (of_decide_eq_true hitem)
  have hself : isOwn u (some u) = true := isOwn_of_eq rfl
  unfold storeProviderCredentialsForUser
  rw [hany]
  split
  · have howner : ∀ r ∈ db.plaidCredentials, r.itemId = itemId →
        isOwn u (some u) = isOwn u r.userId :=
      fun r hr hitem ↦ hself.trans (h r hr hitem).symm
    constructor
    · refine congrArg (fun l ↦ { ownRows u db with plaidCredentials := l }) (Eq.symm ?_)
      exact HiddenRows.filter_update_visible howner
    · refine congrArg (fun l ↦ { othersRows u db with plaidCredentials := l }) ?_
      exact HiddenRows.filter_update_hidden howner h
  · constructor
    · refine congrArg (fun l ↦ { ownRows u db with plaidCredentials := l }) (Eq.symm ?_)
      exact HiddenRows.filter_insert_visible hself
    · refine congrArg (fun l ↦ { othersRows u db with plaidCredentials := l }) ?_
      exact HiddenRows.filter_insert_hidden hself

/-- **The step lemma.** A call that stays within the user is answered alike in the two runs. -/
theorem Alone.step {op : ConnectCall} (hcall : WithinCall L u w op e) (h : Alone u others w w') :
    (connectExec L op e w').2 = (connectExec L op e w).2 ∧
      Alone u others (connectExec L op e w).1 (connectExec L op e w').1 := by
  cases op with
  | service op =>
    obtain ⟨hown, hothers⟩ := answer_within hcall
    rw [← h.own] at hown
    refine ⟨?_, ?_, hothers.trans h.others⟩
    · show (answer L e.toReply w'.db op).2 = (answer L e.toReply w.db op).2
      rw [hown]
    · show (answer L e.toReply w'.db op).1 = ownRows u (answer L e.toReply w.db op).1
      rw [hown]
  | newV4 =>
    have hnew : e.newId ∉ w'.db.providerConnections.map ProviderConnection.id := by
      rw [h.own]
      exact fun hmem ↦ hcall ((List.filter_sublist.map _).subset hmem)
    exact ⟨(newV4_of_notMem hnew).trans (newV4_of_notMem hcall).symm, h⟩
  | storeProviderCredentialsForUser userId itemId accessToken =>
    by_cases hup : e.databaseUp = true
    · obtain ⟨rfl, hrows, hnew⟩ := hcall hup
      have hnew' : e.newId ∉ w'.db.plaidCredentials.map PlaidCredentials.id := by
        rw [h.own]
        exact fun hmem ↦ hnew ((List.filter_sublist.map _).subset hmem)
      obtain ⟨hown, hothers⟩ := storeProviderCredentialsForUser_ownRows e.newId accessToken
        hrows
      rw [← h.own] at hown
      rw [connectExec, connectExec, if_pos hup, if_pos hup, newV4_of_notMem hnew,
        newV4_of_notMem hnew']
      exact ⟨rfl, hown, hothers.trans h.others⟩
    · rw [connectExec, connectExec, if_neg hup, if_neg hup]
      exact ⟨rfl, h⟩
  | exchangePublicToken publicToken => exact ⟨rfl, h⟩
  | getInstitutionInfo credentials => exact ⟨rfl, h⟩

/-- **What keeps an operation isolated.** No statement of its run names a row of another user. -/
theorem isolation_of_within {registered : String → Bool} {parseStr : String → Option Uuid}
    {op : ProviderOperation} {db : Store} {env : ℕ → ConnectReply}
    (h : (op.program registered parseStr u).Along (connectExec L) (WithinCall L u) env
      ⟨db, 0, []⟩) : Isolation L registered parseStr u op db env := by
  have hstart : Alone u (othersRows u db) ⟨db, 0, []⟩ ⟨ownRows u db, 0, []⟩ := ⟨rfl, rfl⟩
  have hstep : ∀ op e w w', WithinCall L u w op e → Alone u (othersRows u db) w w' →
      (connectExec L op e w').2 = (connectExec L op e w).2 ∧
        Alone u (othersRows u db) (connectExec L op e w).1 (connectExec L op e w').1 :=
    fun _ _ _ _ hcall halone ↦ halone.step hcall
  obtain ⟨hresult, hend⟩ := run_related hstep h hstart
  exact ⟨hend.others, hresult⟩

end Runs

/-! ### First statements -/

/-- No row that the first statement of an operation names is another user's, where the operation
starts from an id or an item that it is given. -/
def FirstWithin (registered : String → Bool) (parseStr : String → Option Uuid) (u : Uuid)
    (db : Store) : ProviderOperation → Prop
  | .connectTellerProvider request => request.provider = "teller" → registered "teller" = true →
      ∀ connectionId ∈ request.connectionId.bind parseStr,
        OwnConnections u db fun c ↦ c.id = connectionId
  | .exchangePublicToken _ _ => True
  | .syncConnectionById connectionId => OwnConnections u db fun c ↦ c.id = connectionId
  | .syncAllUserConnections => True
  | .disconnectConnectionById connectionId => OwnConnections u db fun c ↦ c.id = connectionId
  | .storeProviderCredentials itemId _ => OwnCredentials u db fun c ↦ c.itemId = itemId

section First

variable {L : Locale} {registered : String → Bool} {parseStr : String → Option Uuid} {u : Uuid}
  {db : Database} {env : ℕ → ConnectReply} {connectionId : Uuid} {c : ProviderConnection}

/-- The connection of another user is found among all rows, and not among the user's. -/
theorem getProviderConnectionById_of_other (hc : c ∈ db.providerConnections)
    (hid : c.id = connectionId) (hother : isOwn u (some c.userId) = false) :
    getProviderConnectionById db.toStore connectionId = some c ∧
      getProviderConnectionById (ownRows u db.toStore) connectionId = none := by
  have honly : ∀ r ∈ db.providerConnections, r.id = connectionId → r = c := fun r hr hrid ↦
    List.inj_on_of_nodup_map db.keyed.providerConnections_pkey hr hc (hrid.trans hid.symm)
  constructor
  · rcases hfind : getProviderConnectionById db.toStore connectionId with - | r
    · exact absurd hid (by simpa using List.find?_eq_none.1 hfind c hc)
    · rw [honly r (List.mem_of_find?_eq_some hfind) (by simpa using List.find?_some hfind)]
  · refine List.find?_eq_none.2 fun r hr hrid ↦ ?_
    obtain ⟨hmem, hown⟩ := List.mem_filter.1 hr
    rw [honly r hmem (of_decide_eq_true hrid), hother] at hown
    cases hown

theorem answer_getProviderConnectionById {e : Reply} {db : Store} (hup : e.databaseUp = true) :
    answer L e db (.getProviderConnectionById connectionId) =
      (db, .ok (getProviderConnectionById db connectionId)) :=
  if_pos hup

/-- The run of a lookup that is answered. -/
theorem run_getProviderConnectionById {env : ℕ → Reply} {w : World}
    (hup : (env 0).databaseUp = true) :
    (perform (.getProviderConnectionById connectionId)).run (exec L) env w =
      ((exec L (.getProviderConnectionById connectionId) (env 0) w).1,
        .ok (getProviderConnectionById w.db connectionId), fun n ↦ env (n + 1)) :=
  Prod.ext rfl (Prod.ext (congrArg Prod.snd (answer_getProviderConnectionById hup)) rfl)

/-- The sync of a connection does not end as if there were none. -/
theorem ensures_syncConnection_found {w : World} : (syncConnection registered u c).Ensures
    (Setting.alone (exec L) fun _ _ ↦ True)
      (fun result _ ↦ result ≠ .error .connectionNotFound) w := by
  rw [syncConnection]
  split
  · refine ensures_bind.2 ((ensures_alone_trivial _).imp fun result _ _ ↦ ?_)
    cases result <;> simp
  · refine ensures_bind.2 ((ensures_alone_trivial _).imp fun result _ _ ↦ ?_)
    cases result <;> simp

/-- A connect on a connection does not end as if there were none. -/
theorem ensures_connectTo_found {request : ProviderConnectRequest} {w : World} :
    (connectTo u request c).Ensures (Setting.alone (connectExec L) fun _ _ ↦ True)
      (fun result _ ↦ result ≠ .error .invalidConnection) w := by
  refine ensures_bind.2 ((ensures_alone_trivial _).imp fun stored _ _ ↦ ?_)
  split
  · simp
  · refine ensures_bind.2 ((ensures_alone_trivial _).imp fun connection _ _ ↦ ?_)
    refine ensures_bind.2 ((ensures_alone_trivial _).imp fun saved _ _ ↦ ?_)
    split
    · simp
    · refine ensures_bind.2 ((ensures_alone_trivial _).imp fun _ _ _ ↦ ?_)
      simp

theorem ownConnections_of_isolation_sync (hup : (env 0).databaseUp = true)
    (h : Isolation L registered parseStr u (.syncConnectionById connectionId) db.toStore env) :
    OwnConnections u db.toStore fun c ↦ c.id = connectionId := by
  intro c hc hid
  by_contra hnot
  obtain ⟨hall, hown⟩ := getProviderConnectionById_of_other (u := u) hc hid (by simpa using hnot)
  have hresult := h.2
  dsimp only [ProviderOperation.program] at hresult
  rw [result_map, result_map, (run_liftService L _ _ _).2, (run_liftService L _ _ _).2,
    syncConnectionById,
    run_bind (run_getProviderConnectionById hup), run_bind (run_getProviderConnectionById hup),
    hall, hown] at hresult
  exact run_of_ensures_always ensures_syncConnection_found (ProviderOutcome.synced.inj hresult).symm

theorem ownConnections_of_isolation_disconnect (hup : (env 0).databaseUp = true)
    (h : Isolation L registered parseStr u (.disconnectConnectionById connectionId)
      db.toStore env) :
    OwnConnections u db.toStore fun c ↦ c.id = connectionId := by
  intro c hc hid
  by_contra hnot
  obtain ⟨hall, hown⟩ := getProviderConnectionById_of_other (u := u) hc hid (by simpa using hnot)
  have huser : c.userId ≠ u := by simpa using hnot
  have hresult := h.2
  dsimp only [ProviderOperation.program] at hresult
  rw [result_map, result_map, (run_liftService L _ _ _).2, (run_liftService L _ _ _).2,
    disconnectConnectionById,
    run_bind (run_getProviderConnectionById hup), run_bind (run_getProviderConnectionById hup),
    hall, hown] at hresult
  dsimp only at hresult
  rw [if_pos huser] at hresult
  cases hresult

theorem run_getConnection {w : World} (hup : (env 0).databaseUp = true) :
    (callService (.getProviderConnectionById connectionId)).run (connectExec L) env w =
      ((exec L (.getProviderConnectionById connectionId) (env 0).toReply w).1,
        .ok (getProviderConnectionById w.db connectionId), fun n ↦ env (n + 1)) :=
  Prod.ext rfl (Prod.ext (congrArg Prod.snd (answer_getProviderConnectionById hup)) rfl)

/-- The choice of a connection by its id. -/
theorem run_chosenConnection {request : ProviderConnectRequest} {given : String} {w : World}
    (hup : (env 0).databaseUp = true) (hgiven : request.connectionId = some given)
    (hparse : parseStr given = some connectionId) :
    ∃ w', (chosenConnection parseStr u request).run (connectExec L) env w =
      (w', (getProviderConnectionById w.db connectionId).elim (.error .invalidConnection) .ok,
        fun n ↦ env (n + 1)) := by
  refine ⟨(exec L (.getProviderConnectionById connectionId) (env 0).toReply w).1, ?_⟩
  rw [chosenConnection, hgiven]
  dsimp only
  rw [hparse]
  dsimp only
  rw [run_bind (run_getConnection hup)]
  cases getProviderConnectionById w.db connectionId <;> rfl

theorem ownConnections_of_isolation_connect {request : ProviderConnectRequest} {given : String}
    (hup : (env 0).databaseUp = true) (hprovider : request.provider = "teller")
    (hregistered : registered "teller" = true) (hgiven : request.connectionId = some given)
    (hparse : parseStr given = some connectionId)
    (h : Isolation L registered parseStr u (.connectTellerProvider request) db.toStore env) :
    OwnConnections u db.toStore fun c ↦ c.id = connectionId := by
  intro c hc hid
  by_contra hnot
  obtain ⟨hall, hown⟩ := getProviderConnectionById_of_other (u := u) hc hid (by simpa using hnot)
  obtain ⟨w, hchosen⟩ := run_chosenConnection (L := L) (u := u) (w := ⟨db.toStore, 0, []⟩)
    hup hgiven
    hparse
  obtain ⟨w', hchosen'⟩ := run_chosenConnection (L := L) (u := u)
    (w := ⟨ownRows u db.toStore, 0, []⟩) hup hgiven hparse
  rw [hall] at hchosen
  rw [hown] at hchosen'
  have hresult := h.2
  dsimp only [ProviderOperation.program] at hresult
  rw [result_map, result_map, connectTellerProvider, if_neg (not_not.2 hprovider),
    if_pos hregistered, run_bind hchosen, run_bind hchosen'] at hresult
  exact run_of_ensures_always ensures_connectTo_found (ProviderOutcome.connected.inj hresult).symm

theorem ownCredentials_of_isolation_store {itemId accessToken : String}
    (hup : (env 0).databaseUp = true)
    (h : Isolation L registered parseStr u (.storeProviderCredentials itemId accessToken) db.toStore
      env) : OwnCredentials u db.toStore fun c ↦ c.itemId = itemId := by
  intro c hc hitem
  by_contra hnot
  have hothers : c ∈ (othersRows u db.toStore).plaidCredentials :=
    List.mem_filter.2 ⟨hc, by simpa using hnot⟩
  have hany : (db.plaidCredentials.any fun r ↦ decide (r.itemId = itemId)) = true :=
    List.any_eq_true.2 ⟨c, hc, decide_eq_true hitem⟩
  have hstored : (((ProviderOperation.storeProviderCredentials itemId accessToken).program
      registered parseStr u).run (connectExec L) env ⟨db.toStore, 0, []⟩).1.db.plaidCredentials =
        db.plaidCredentials.map fun r ↦ if r.itemId = itemId then
          { r with userId := some u, accessToken := accessToken } else r := by
    show (connectExec L (.storeProviderCredentialsForUser u itemId accessToken) (env 0)
      ⟨db.toStore, 0, []⟩).1.db.plaidCredentials = _
    rw [connectExec, if_pos hup]
    exact congrArg Store.plaidCredentials (if_pos hany)
  -- the row of the item is the user's now
  rw [← h.1] at hothers
  obtain ⟨hmem, hother⟩ := List.mem_filter.1 hothers
  rw [hstored] at hmem
  obtain ⟨r, hr, hrc⟩ := List.mem_map.1 hmem
  by_cases hritem : r.itemId = itemId
  · rw [if_pos hritem] at hrc
    rw [← hrc] at hother
    simp at hother
  · rw [if_neg hritem] at hrc
    exact hritem (hrc ▸ hitem)

/-- **The first statement.** An isolated operation on a database that answers does not start from a
row of another user. -/
theorem firstWithin_of_isolation {op : ProviderOperation} (hup : (env 0).databaseUp = true)
    (h : Isolation L registered parseStr u op db.toStore env) :
    FirstWithin registered parseStr u db.toStore op := by
  cases op with
  | connectTellerProvider request =>
    intro hprovider hregistered connectionId hgiven
    obtain ⟨given, hgiven, hparse⟩ := Option.bind_eq_some_iff.1 hgiven
    exact ownConnections_of_isolation_connect hup hprovider hregistered hgiven hparse h
  | syncConnectionById connectionId => exact ownConnections_of_isolation_sync hup h
  | disconnectConnectionById connectionId => exact ownConnections_of_isolation_disconnect hup h
  | storeProviderCredentials itemId accessToken => exact ownCredentials_of_isolation_store hup h
  | _ => trivial

end First

/-- **Isolation.** On any database of any number of users, whatever the clock, the provider and the
database answer: an operation whose run stays within its user is isolated, and one that is isolated
does not start from a row of another user. -/
theorem tenant_isolation (L : Locale) (registered : String → Bool)
    (parseStr : String → Option Uuid) (u : Uuid) (op : ProviderOperation) (db : Database)
    (env : ℕ → ConnectReply) :
    ((op.program registered parseStr u).Along (connectExec L) (WithinCall L u) env
        ⟨db.toStore, 0, []⟩ → Isolation L registered parseStr u op db.toStore env) ∧
      (Isolation L registered parseStr u op db.toStore env → (env 0).databaseUp = true →
        FirstWithin registered parseStr u db.toStore op) :=
  ⟨isolation_of_within, fun h hup ↦ firstWithin_of_isolation hup h⟩

instance (L : Locale) (u : Uuid) (db : Store) :
    (call : ServiceCall) → Decidable (Within L u db call)
  | .now => inferInstanceAs (Decidable True)
  | .getAccounts _ => inferInstanceAs (Decidable True)
  | .getTransactions _ _ _ => inferInstanceAs (Decidable True)
  | .clearBankConnectionCache => inferInstanceAs (Decidable True)
  | .getProviderConnectionById connectionId =>
    inferInstanceAs (Decidable (OwnConnections u db fun c ↦ c.id = connectionId))
  | .getAllProviderConnectionsByUser userId => inferInstanceAs (Decidable (userId = u))
  | .connectionIdOfItem itemId =>
    inferInstanceAs (Decidable (OwnConnections u db fun c ↦ c.itemId = itemId))
  | .getProviderCredentialsForUser _ itemId =>
    inferInstanceAs (Decidable (OwnCredentials u db fun c ↦ c.itemId = itemId))
  | .upsertAccount a => inferInstanceAs (Decidable (isOwn u a.userId = true ∧
      OwnAccounts u db (fun r ↦ conflictsWith a r = true ∨ r.id = a.id) ∧
        OwnConnections u db fun c ↦ a.providerConnectionId = some c.id))
  | .mergeDuplicateProviderAccounts userId connectionId => inferInstanceAs (Decidable (userId = u ∧
      OwnAccounts u db (fun a ↦ a.id ∈ (duplicateAccounts L db userId connectionId).map Prod.fst) ∧
        OwnTransactions u db fun t ↦
          t.accountId ∈ (duplicateAccounts L db userId connectionId).map Prod.fst))
  | .getAccountsForUser userId => inferInstanceAs (Decidable (userId = u ∧
      ∀ a ∈ db.accounts, a.userId = some u →
        OwnConnections u db fun c ↦ a.providerConnectionId = some c.id))
  | .upsertTransaction t => inferInstanceAs (Decidable (isOwn u t.userId = true ∧
      OwnTransactions u db (fun r ↦ sameProviderTransaction t r = true ∨ r.id = t.id) ∧
        OwnAccounts u db fun a ↦ a.id = t.accountId))
  | .mergeDuplicateProviderTransactions userId connectionId => inferInstanceAs (Decidable
      (userId = u ∧ JoinsOwnAccounts u db connectionId ∧
        OwnTransactions u db fun t ↦ ∃ d ∈ t.duplicateOfTransactionId,
          d ∈ (duplicatePairs (transactionCandidates L db userId connectionId)).map Prod.snd))
  | .autoResolvePendingDuplicates userId connectionId => inferInstanceAs (Decidable
      (userId = u ∧ ∀ c ∈ connectionId, JoinsOwnAccounts u db c))
  | .getTransactionsForUser userId => inferInstanceAs (Decidable (userId = u))
  | .saveProviderConnection c => inferInstanceAs (Decidable
      (c.userId = u ∧ OwnConnections u db fun r ↦ r.itemId = c.itemId ∨ r.id = c.id))
  | .deleteTransactionsOfConnection connectionId => inferInstanceAs (Decidable
      (OwnOnConnection u db connectionId ∧
        OwnTransactions u db fun t ↦ ∃ d ∈ t.duplicateOfTransactionId,
          d ∈ (db.transactions.filter (onConnection db connectionId)).map TransactionRow.id))
  | .deleteAccountsOfConnection connectionId =>
    inferInstanceAs (Decidable (OwnOnConnection u db connectionId))
  | .deleteProviderCredentials itemId =>
    inferInstanceAs (Decidable (OwnCredentials u db fun c ↦ c.itemId = itemId))
  | .deleteProviderConnection userId itemId => inferInstanceAs (Decidable (userId = u ∧
      ∀ c ∈ db.providerConnections, c.userId = u → c.itemId = itemId → OwnOnConnection u db c.id))

instance (L : Locale) (u : Uuid) (w : World) :
    (op : ConnectCall) → (e : ConnectReply) → Decidable (WithinCall L u w op e)
  | .service op, e => inferInstanceAs (Decidable (e.databaseUp = true → Within L u w.db op))
  | .newV4, e => inferInstanceAs
      (Decidable (e.newId ∉ w.db.providerConnections.map ProviderConnection.id))
  | .storeProviderCredentialsForUser userId itemId _, e => inferInstanceAs
      (Decidable (e.databaseUp = true → userId = u ∧
        OwnCredentials u w.db (fun c ↦ c.itemId = itemId) ∧
          e.newId ∉ w.db.plaidCredentials.map PlaidCredentials.id))
  | .exchangePublicToken _, _ => inferInstanceAs (Decidable True)
  | .getInstitutionInfo _, _ => inferInstanceAs (Decidable True)

/-- Two users, each with a connected account. -/
def sharedDatabase : Database where
  toStore := { connectedDatabase.toStore with
    accounts := [checkingAccount, { checkingAccount with
      id := 2
      userId := some 8
      providerAccountId := some "acc-2"
      providerConnectionId := some 6 }]
    plaidCredentials := [⟨6, some 7, "item-1", "access-1"⟩, ⟨7, some 8, "item-2", "access-2"⟩]
    providerConnections := [checkingConnection,
      { checkingConnection with id := 6, userId := 8, itemId := "item-2" }] }
  keyed := by decide
  referential := by decide

/-- A sync by the user of a connection. -/
theorem tenant_isolation_own :
    Isolation Locale.c (fun _ ↦ true) (fun _ ↦ none) 7 (.syncConnectionById 5)
    sharedDatabase.toStore
        (fun _ ↦ connectReply) ∧
      FirstWithin (fun _ ↦ true) (fun _ ↦ none) 7 sharedDatabase.toStore
      (.syncConnectionById 5) := by
  obtain ⟨hwithin, hfirst⟩ := tenant_isolation Locale.c (fun _ ↦ true) (fun _ ↦ none) 7
    (.syncConnectionById 5) sharedDatabase fun _ ↦ connectReply
  have hisolated := hwithin (by decide)
  exact ⟨hisolated, hfirst hisolated rfl⟩

/-- **A sync of another user's connection.** User 8 asks for a sync of the connection of user 7. It
is carried out with the credentials of user 7, changes the connection, and takes the account
over. -/
theorem sync_of_another_user :
    let run := ((ProviderOperation.syncConnectionById 5).program (fun _ ↦ true)
      (fun _ ↦ none) 8).run
      (connectExec Locale.c) (fun _ ↦ connectReply) ⟨sharedDatabase.toStore, 0, []⟩
    run.1.db.providerConnections.map ProviderConnection.lastSyncAt = [some 0, none] ∧
      ¬ Isolation Locale.c (fun _ ↦ true) (fun _ ↦ none) 8 (.syncConnectionById 5)
        sharedDatabase.toStore fun _ ↦ connectReply := by
  refine ⟨by decide, fun h ↦ ?_⟩
  have hothers := h.1
  revert hothers
  decide

end Sumurai
