import Sumurai.Connection.AccountCache
import Sumurai.Connection.Identity
import Sumurai.Foundations.KeyedLists

/-!
# Which accounts a sync counts

The Plaid sync counts and caches all the accounts of the user for the one connection that it syncs,
the Teller sync those of the user that are on the connection. Which of the two is right is a matter
of the store that the lookup of the accounts finds: the first needs the user's accounts to be those
of the connection, the second needs those of the connection to be the user's. The accounts stay as
they are from the lookup to the end, so this decides what is cached, and what is counted too, unless
the database refuses the save of the connection.
-/

open Program

namespace Sumurai

/-! ### The condition -/

/-- The user's accounts are the accounts of the connection. -/
def HasAccountsOfOnly (userId connectionId : Uuid) (db : Store) : Prop :=
  ∀ a ∈ db.accounts, a.userId = some userId ↔ a.providerConnectionId = some connectionId

/-- The accounts of the connection are the user's. -/
def HasAccountsOf (userId connectionId : Uuid) (db : Store) : Prop :=
  ∀ a ∈ db.accounts, a.providerConnectionId = some connectionId → a.userId = some userId

/-- A lookup of the accounts of a user is made on a store with the property. -/
def LooksUp (own : Store → Prop) : CallMade → Prop
  | ⟨.getAccountsForUser _, db, _⟩ => own db
  | _ => True

/-- A save that the database refuses finds a count that is right. -/
def CountsAnyway (connectionId : Uuid) : CallMade → Prop
  | ⟨.saveProviderConnection _, db, .error _⟩ => CountsAccountsOf db connectionId
  | _ => True

instance (userId connectionId : Uuid) : DecidablePred (HasAccountsOfOnly userId connectionId) :=
  fun db ↦ inferInstanceAs (Decidable (∀ a ∈ db.accounts,
    a.userId = some userId ↔ a.providerConnectionId = some connectionId))

instance (userId connectionId : Uuid) : DecidablePred (HasAccountsOf userId connectionId) :=
  fun db ↦ inferInstanceAs (Decidable (∀ a ∈ db.accounts,
    a.providerConnectionId = some connectionId → a.userId = some userId))

instance (own : Store → Prop) [DecidablePred own] : DecidablePred (LooksUp own) := fun m ↦ by
  obtain ⟨call, db, answer⟩ := m
  cases call with
  | getAccountsForUser userId => exact inferInstanceAs (Decidable (own db))
  | _ => exact isTrue trivial

instance (db : Store) (connectionId : Uuid) : Decidable (CountsAccountsOf db connectionId) :=
  inferInstanceAs (Decidable (∀ r ∈ db.providerConnections, r.id = connectionId →
    r.accountCount = (accountsOf db connectionId).length))

instance (connectionId : Uuid) : DecidablePred (CountsAnyway connectionId) := fun m ↦ by
  obtain ⟨call, db, answer⟩ := m
  cases call with
  | saveProviderConnection c =>
    exact match answer with
      | .error _ => inferInstanceAs (Decidable (CountsAccountsOf db connectionId))
      | .ok () => isTrue trivial
  | _ => exact isTrue trivial

/-- **When a sync keeps to the accounts of its connection**, as a condition on the stores that its
calls find. -/
structure SyncKeepsToOwn (own : Store → Prop) (connectionId : Uuid) (calls : List CallMade) :
    Prop where
  listed : ∀ m ∈ calls, LooksUp own m
  counted : ∀ m ∈ calls, CountsAnyway connectionId m

instance (own : Store → Prop) [DecidablePred own] (connectionId : Uuid) (calls : List CallMade) :
    Decidable (SyncKeepsToOwn own connectionId calls) :=
  decidable_of_iff ((∀ m ∈ calls, LooksUp own m) ∧ ∀ m ∈ calls, CountsAnyway connectionId m)
    ⟨fun ⟨h, h'⟩ ↦ ⟨h, h'⟩, fun h ↦ ⟨h.listed, h.counted⟩⟩

/-! ### Lists of accounts -/

section Lists

variable {L : Locale} {db db' : Store} {userId connectionId : Uuid}

theorem nodup_ids (h : (db.accounts.map Account.id).Nodup) :
    (db.accounts.map Account.ids).Nodup := by
  refine List.Nodup.of_map Prod.fst ?_
  rw [List.map_map]
  exact h

theorem accountsOf_congr (h : db'.accounts = db.accounts) :
    accountsOf db' connectionId = accountsOf db connectionId := by
  rw [accountsOf, accountsOf, h]

/-- **The user's accounts** are those of the connection exactly if the user has only these. -/
theorem listsAccountsOf_iff_only (h : (db.accounts.map Account.id).Nodup) :
    ListsAccountsOf db connectionId (getAccountsForUser L db userId) ↔
      HasAccountsOfOnly userId connectionId db := by
  have hids : (getAccountsForUser L db userId).map Account.ids =
      (accountRowsForUser L db userId).map Account.ids := by
    rw [getAccountsForUser, List.map_map]
    rfl
  have hperm : ((accountRowsForUser L db userId).map Account.ids).Perm
      ((db.accounts.filter fun a ↦ a.userId = some userId).map Account.ids) :=
    (List.perm_insertionSort _ _).map _
  rw [ListsAccountsOf, hids, hperm.congr_left, accountsOf, filter_map_perm_iff (nodup_ids h)]
  simp only [decide_eq_true_eq]
  exact Iff.rfl

/-- **The user's accounts on the connection** are its accounts exactly if all of them are the
user's. -/
theorem listsAccountsOf_iff_all (h : (db.accounts.map Account.id).Nodup) :
    ListsAccountsOf db connectionId ((getAccountsForUser L db userId).filter fun a ↦
        a.providerConnectionId = some connectionId) ↔ HasAccountsOf userId connectionId db := by
  have hids : ((getAccountsForUser L db userId).filter fun a ↦
      decide (a.providerConnectionId = some connectionId)).map Account.ids =
        ((accountRowsForUser L db userId).filter fun a ↦
          decide (a.providerConnectionId = some connectionId)).map Account.ids := by
    rw [getAccountsForUser, List.filter_map, List.map_map]
    rfl
  have hperm : (((accountRowsForUser L db userId).filter fun a ↦
      decide (a.providerConnectionId = some connectionId)).map Account.ids).Perm
        ((db.accounts.filter fun a ↦ decide (a.providerConnectionId = some connectionId) &&
          decide (a.userId = some userId)).map Account.ids) := by
    rw [← List.filter_filter]
    exact ((List.perm_insertionSort _ _).filter _).map _
  rw [ListsAccountsOf, hids, hperm.congr_left, accountsOf, filter_map_perm_iff (nodup_ids h)]
  refine forall_congr' fun a ↦ forall_congr' fun _ ↦ ?_
  rw [Bool.and_eq_true, decide_eq_true_eq, decide_eq_true_eq]
  exact ⟨fun hall hconn ↦ (hall.2 hconn).2,
    fun hall ↦ ⟨fun h ↦ h.1, fun hconn ↦ ⟨hconn, hall hconn⟩⟩⟩

end Lists

/-! ### Before the lookup and after it -/

/-- A call of a sync that neither looks up accounts nor saves a connection. -/
def ServiceCall.silent : ServiceCall → Bool
  | .getAccountsForUser _ => false
  | .saveProviderConnection _ => false
  | .deleteAccountsOfConnection _ => false
  | .deleteProviderConnection _ _ => false
  | _ => true

/-- A sync before it has looked up the accounts. -/
structure Unlisted (own : Store → Prop) (connectionId : Uuid) (db : Store) (w : World) : Prop where
  connections : w.db.providerConnections = db.providerConnections
  ids : (w.db.accounts.map Account.id).Nodup
  keeps : SyncKeepsToOwn own connectionId w.calls

/-- A sync that has looked up the accounts on a store, and has not saved its connection. -/
structure Listed (own : Store → Prop) (connectionId : Uuid) (db found : Store) (w : World) :
    Prop where
  connections : w.db.providerConnections = db.providerConnections
  accounts : w.db.accounts = found.accounts
  keeps : SyncKeepsToOwn own connectionId w.calls ↔ own found

section Steps

variable {L : Locale} {own : Store → Prop} {connectionId : Uuid} {db found : Store} {w : World}
  {call : ServiceCall} {e : Reply}

theorem forall_mem_calls_exec {P : CallMade → Prop} :
    (∀ m ∈ (exec L call e w).1.calls, P m) ↔
      (∀ m ∈ w.calls, P m) ∧ P ⟨call, w.db, (answer L e w.db call).2⟩ := by
  rw [exec, List.forall_mem_append, List.forall_mem_singleton]

/-- **One more call.** -/
theorem syncKeepsToOwn_exec :
    SyncKeepsToOwn own connectionId (exec L call e w).1.calls ↔
      SyncKeepsToOwn own connectionId w.calls ∧
        LooksUp own ⟨call, w.db, (answer L e w.db call).2⟩ ∧
        CountsAnyway connectionId ⟨call, w.db, (answer L e w.db call).2⟩ := by
  constructor
  · intro h
    obtain ⟨hlisted, hlookup⟩ := forall_mem_calls_exec.1 h.listed
    obtain ⟨hcounted, hsave⟩ := forall_mem_calls_exec.1 h.counted
    exact ⟨⟨hlisted, hcounted⟩, hlookup, hsave⟩
  · intro ⟨h, hlookup, hsave⟩
    exact ⟨forall_mem_calls_exec.2 ⟨h.listed, hlookup⟩, forall_mem_calls_exec.2 ⟨h.counted, hsave⟩⟩

theorem syncKeepsToOwn_exec_silent (hsilent : call.silent = true) :
    SyncKeepsToOwn own connectionId (exec L call e w).1.calls ↔
      SyncKeepsToOwn own connectionId w.calls := by
  rw [syncKeepsToOwn_exec]
  cases call <;> first
    | exact absurd hsilent Bool.false_ne_true
    | exact and_iff_left ⟨trivial, trivial⟩

theorem ServiceCall.keepsConnections_of_silent (hsilent : call.silent = true) :
    call.keepsConnections = true := by
  cases call <;> first | rfl | exact absurd hsilent Bool.false_ne_true

/-- Account ids stay unique. -/
theorem nodup_accountIds_answer (call : ServiceCall) (e : Reply) (hsilent : call.silent = true)
    (hids : (db.accounts.map Account.id).Nodup) :
    ((answer L e db call).1.accounts.map Account.id).Nodup := by
  by_cases hkeeps : call.keepsAccounts = true
  · rw [accounts_answer hkeeps]
    exact hids
  · rcases answer_cases L e db call with heq | ⟨-, hok⟩
    · rw [heq]
      exact hids
    · cases call with
      | upsertAccount a => exact nodup_accountIds_upsertAccount hok hids
      | mergeDuplicateProviderAccounts userId connectionId =>
        obtain ⟨n, hn⟩ := exists_of_map_fst_eq_ok hok
        rw [mergeDuplicateProviderAccounts] at hn
        obtain ⟨db₁, hdel, hrest⟩ := Except.exists_of_bind_eq_ok hn
        obtain ⟨heq, -⟩ := Prod.mk.inj (Except.ok.inj hrest)
        rw [← heq, deleteAccounts_eq_ok hdel]
        exact hids.sublist (List.filter_sublist.map _)
      | deleteAccountsOfConnection c => exact absurd hsilent Bool.false_ne_true
      | deleteProviderConnection u item => exact absurd hsilent Bool.false_ne_true
      | _ => exact absurd rfl hkeeps

theorem Unlisted.exec (h : Unlisted own connectionId db w) (call : ServiceCall) (e : Reply)
    (hsilent : call.silent = true) :
    Unlisted own connectionId db (exec L call e w).1 where
  connections :=
    (providerConnections_answer (ServiceCall.keepsConnections_of_silent hsilent)).trans
      h.connections
  ids := nodup_accountIds_answer call e hsilent h.ids
  keeps := (syncKeepsToOwn_exec_silent hsilent).2 h.keeps

/-- **The lookup.** -/
theorem Unlisted.lookup (h : Unlisted own connectionId db w) (userId : Uuid) (e : Reply) :
    Listed own connectionId db w.db (Sumurai.exec L (.getAccountsForUser userId) e w).1 where
  connections := (providerConnections_answer rfl).trans h.connections
  accounts := accounts_answer rfl
  keeps := syncKeepsToOwn_exec.trans
    ⟨fun hkeeps ↦ hkeeps.2.1, fun hown ↦ ⟨h.keeps, hown, trivial⟩⟩

theorem Listed.exec (h : Listed own connectionId db found w) (call : ServiceCall) (e : Reply)
    (hsilent : call.silent = true) (hkeeps : call.keepsAccounts = true) :
    Listed own connectionId db found (exec L call e w).1 where
  connections :=
    (providerConnections_answer (ServiceCall.keepsConnections_of_silent hsilent)).trans
      h.connections
  accounts := (accounts_answer hkeeps).trans h.accounts
  keeps := (syncKeepsToOwn_exec_silent hsilent).trans h.keeps

theorem accountsAgree_single {accounts : List Account} :
    AccountsAgree connectionId ⟨w, [(connectionId, accounts)]⟩ ↔
      ListsAccountsOf w.db connectionId accounts ∧ CountsAccountsOf w.db connectionId := by
  have hlookup : ([(connectionId, accounts)] : AccountCache).lookup connectionId = some accounts :=
    List.lookup_cons_self
  constructor
  · intro h
    exact ⟨h.cached accounts hlookup, h.counted⟩
  · intro ⟨hlists, hcounts⟩
    refine ⟨fun cached hcached ↦ ?_, hcounts⟩
    rw [← Option.some.inj (hlookup.symm.trans hcached)]
    exact hlists

/-- A list with the keys of the accounts has as many of them. -/
theorem ListsAccountsOf.length {accounts : List Account}
    (h : ListsAccountsOf db connectionId accounts) :
    accounts.length = (accountsOf db connectionId).length := by
  have hlength := h.length_eq
  rwa [List.length_map, List.length_map] at hlength

/-- **The save of a count that is right** leaves one, unless the database refuses it. -/
theorem countsAccountsOf_exec_save {c : ProviderConnection}
    (hrows : ∀ r ∈ w.db.providerConnections, r.id = c.id → r.itemId = c.itemId)
    (hcount : c.accountCount = (accountsOf w.db c.id).length) :
    CountsAccountsOf (exec L (.saveProviderConnection c) e w).1.db c.id ↔
      CountsAnyway c.id ⟨.saveProviderConnection c, w.db,
        (answer L e w.db (.saveProviderConnection c)).2⟩ := by
  have haccounts : (exec L (.saveProviderConnection c) e w).1.db.accounts = w.db.accounts :=
    accounts_answer rfl
  rcases unitStatement_cases e w.db (saveProviderConnection w.db c) with
    ⟨err, hanswer⟩ | ⟨db', hok, hanswer⟩
  · -- a refused save leaves the count that it found
    have hanswer : answer L e w.db (.saveProviderConnection c) = (w.db, .error err) := hanswer
    rw [exec_of_answer hanswer, hanswer]
    exact Iff.rfl
  · have hanswer : answer L e w.db (.saveProviderConnection c) = (db', .ok ()) := hanswer
    rw [hanswer]
    refine iff_of_true ?_ trivial
    rw [CountsAccountsOf, accountsOf_congr haccounts, exec_of_answer hanswer]
    rcases saveProviderConnection_cases hok with ⟨-, rfl⟩ | ⟨hnone, rfl⟩
    · intro r' hr' hid
      obtain ⟨r, hr, rfl⟩ := List.mem_map.1 hr'
      by_cases hsame : r.itemId = c.itemId
      · rw [if_pos hsame]
        exact hcount
      · rw [if_neg hsame] at hid
        exact absurd (hrows r hr hid) hsame
    · intro r hr hid
      rcases List.mem_append.1 hr with hr | hr
      · exact absurd (hrows r hr hid) (hnone r hr)
      · rw [List.mem_singleton.1 hr]
        exact hcount

/-- **The save of a sync.** -/
theorem Listed.save {connection : ProviderConnection} {accounts : List Account}
    (h : Listed own connection.id db found w) (c : ProviderConnection) (e : Reply)
    (hmem : connection ∈ db.providerConnections)
    (hkey : (db.providerConnections.map ProviderConnection.id).Nodup)
    (hlists : ListsAccountsOf found connection.id accounts ↔ own found)
    (hid : c.id = connection.id) (hitem : c.itemId = connection.itemId)
    (hcount : c.accountCount = accounts.length) :
    AccountsAgree connection.id
        ⟨(Sumurai.exec L (.saveProviderConnection c) e w).1, [(connection.id, accounts)]⟩ ↔
      SyncKeepsToOwn own connection.id
        (Sumurai.exec L (.saveProviderConnection c) e w).1.calls := by
  have haccounts : (Sumurai.exec L (.saveProviderConnection c) e w).1.db.accounts =
      found.accounts := (accounts_answer rfl).trans h.accounts
  rw [accountsAgree_single, syncKeepsToOwn_exec, h.keeps, ListsAccountsOf,
    accountsOf_congr haccounts, ← ListsAccountsOf, hlists]
  refine and_congr_right fun hown ↦ ?_
  have hrows : ∀ r ∈ w.db.providerConnections, r.id = c.id → r.itemId = c.itemId := by
    intro r hr hrid
    rw [h.connections] at hr
    rw [List.inj_on_of_nodup_map hkey hr hmem (hrid.trans hid), hitem]
  have hright : c.accountCount = (accountsOf w.db c.id).length := by
    rw [hcount, (hlists.2 hown).length, accountsOf_congr h.accounts, hid]
  rw [← hid, countsAccountsOf_exec_save hrows hright]
  exact (and_iff_right trivial).symm

end Steps

/-! ### The two syncs -/

/-- A program of the service, alone. -/
abbrev serviceAlone (L : Locale) : Setting ServiceCall ServiceCall.Answer World Reply :=
  Setting.alone (exec L) fun _ _ ↦ True

/-- What a sync counts, and what it hands to the cache, is right if it keeps to the accounts of its
connection, and only then. -/
def AgreesIffOwn {ε α : Type} (own : Store → Prop) (connectionId : Uuid)
    (result : Except ε (α × List Account)) (w : World) : Prop :=
  ∀ response accounts, result = .ok (response, accounts) →
    (AccountsAgree connectionId ⟨w, [(connectionId, accounts)]⟩ ↔
      SyncKeepsToOwn own connectionId w.calls)

section Programs

variable {L : Locale} {own : Store → Prop} {connectionId : Uuid} {db found : Store} {w : World}
  {ε α : Type}

theorem agreesIffOwn_error (error : ε) :
    AgreesIffOwn own connectionId (.error error : Except ε (α × List Account)) w := by
  rintro response accounts ⟨⟩

theorem ensures_unlisted {p : ServiceProgram α} (hp : p.Calls fun call ↦ call.silent = true)
    (h : Unlisted own connectionId db w) :
    p.Ensures (serviceAlone L) (fun _ w' ↦ Unlisted own connectionId db w') w :=
  hp.ensures_alone (fun _ call e hs hsilent _ ↦ hs.exec call e hsilent) h

theorem ensures_listed {p : ServiceProgram α}
    (hp : p.Calls fun call ↦ call.silent = true ∧ call.keepsAccounts = true)
    (h : Listed own connectionId db found w) :
    p.Ensures (serviceAlone L) (fun _ w' ↦ Listed own connectionId db found w') w :=
  hp.ensures_alone (fun _ call e hs hcall _ ↦ hs.exec call e hcall.1 hcall.2) h

end Programs

section Syncs

variable {L : Locale} {registered : String → Bool} {provider : String} {own : Store → Prop}
  {userId : Uuid} {connection : ProviderConnection} {credentials : ProviderCredentials}
  {syncTimestamp : Timestamp} {window : NaiveDate × NaiveDate} {accounts : List Account}
  {transactions : List Transaction} {db found : Store} {w : World}

/-- The end of a Plaid sync. -/
theorem Listed.ensures_finishProviderSync (h : Listed own connection.id db found w)
    (hmem : connection ∈ db.providerConnections)
    (hkey : (db.providerConnections.map ProviderConnection.id).Nodup)
    (hlists : ListsAccountsOf found connection.id accounts ↔ own found) :
    (finishProviderSync userId connection syncTimestamp window accounts.length
        transactions).Ensures (serviceAlone L) (fun _ w' ↦
      AccountsAgree connection.id ⟨w', [(connection.id, accounts)]⟩ ↔
        SyncKeepsToOwn own connection.id w'.calls) w := by
  refine ensures_bind.2 (ensures_ask_alone.2 fun e _ ↦ ?_)
  have h₁ := h.exec (L := L) (.autoResolvePendingDuplicates userId (some connection.id)) e rfl rfl
  have htotal : (totalTransactions userId).Calls fun call ↦
      call.silent = true ∧ call.keepsAccounts = true := calls_totalTransactions ⟨rfl, rfl⟩
  refine ensures_bind.2 ((ensures_listed htotal h₁).imp fun transactionCount w₂ h₂ ↦ ?_)
  refine ensures_bind.2 (ensures_ask_alone.2 fun e _ ↦ ?_)
  have h₃ := h₂.exec (L := L) .now e rfl rfl
  exact ensures_bind.2 (ensures_ask_alone.2 fun e _ ↦ h₃.save _ e hmem hkey hlists rfl rfl rfl)

theorem ensures_syncProviderTransactionsAndAccounts
    (h : Unlisted (HasAccountsOfOnly userId connection.id) connection.id db w)
    (hmem : connection ∈ db.providerConnections)
    (hkey : (db.providerConnections.map ProviderConnection.id).Nodup) :
    (syncProviderTransactionsAndAccounts registered userId credentials connection syncTimestamp
      window).Ensures (serviceAlone L)
        (AgreesIffOwn (HasAccountsOfOnly userId connection.id) connection.id) w := by
  refine ensures_bind.2 (ensures_ask_alone.2 fun e _ ↦ ?_)
  have hlisted := h.lookup (L := L) userId e
  split
  · exact agreesIffOwn_error _
  · rename_i dbAccounts hfound
    have hread : (readStatement e w.db (getAccountsForUser L w.db userId)).2 = .ok dbAccounts :=
      hfound
    have hlists : ListsAccountsOf w.db connection.id dbAccounts ↔
        HasAccountsOfOnly userId connection.id w.db := by
      rw [eq_of_readStatement hread]
      exact listsAccountsOf_iff_only h.ids
    have hfetch : (syncBankConnectionTransactions registered credentials connection
        dbAccounts).Calls fun call ↦ call.silent = true ∧ call.keepsAccounts = true := by
      refine (calls_perform ⟨rfl, rfl⟩).bind fun now ↦ ?_
      dsimp only
      split
      · refine (calls_perform ⟨rfl, rfl⟩).bind fun answer ↦ ?_
        split <;> exact calls_pure
      · exact calls_pure
    refine ensures_bind.2 ((ensures_listed hfetch hlisted).imp fun result w₁ h₁ ↦ ?_)
    split
    · exact ensures_bind.2 ((ensures_alone_trivial _).imp fun _ _ _ ↦ agreesIffOwn_error _)
    · rename_i transactions
      have hpersist : (persistTransactions (transactions.map fun t ↦
          { t with userId := some userId })).Calls fun call ↦
            call.silent = true ∧ call.keepsAccounts = true :=
        calls_persistTransactions (fun t ↦ ⟨rfl, rfl⟩) _
      refine ensures_bind.2 ((ensures_listed hpersist h₁).imp fun persisted w₂ h₂ ↦ ?_)
      refine ensures_bind.2 ((h₂.ensures_finishProviderSync hmem hkey hlists).imp
        fun response w₃ h₃ ↦ ?_)
      rintro _ _ ⟨⟩
      exact h₃

/-- **The Plaid sync.** -/
theorem ensures_syncProviderConnectionAndAccounts
    (h : Unlisted (HasAccountsOfOnly userId connection.id) connection.id db w)
    (hmem : connection ∈ db.providerConnections)
    (hkey : (db.providerConnections.map ProviderConnection.id).Nodup) :
    (syncProviderConnectionAndAccounts registered provider userId connection).Ensures
      (serviceAlone L) (AgreesIffOwn (HasAccountsOfOnly userId connection.id) connection.id) w := by
  refine ensures_bind.2 (ensures_ask_alone.2 fun e _ ↦ ?_)
  have h₁ := h.exec (L := L) .now e rfl
  refine ensures_bind.2 (ensures_ask_alone.2 fun e _ ↦ ?_)
  have h₂ := h₁.exec (L := L) .now e rfl
  refine ensures_bind.2 (ensures_ask_alone.2 fun e _ ↦ ?_)
  have h₃ := h₂.exec (L := L) (.getProviderCredentialsForUser userId connection.itemId) e rfl
  split
  · exact agreesIffOwn_error _
  · exact agreesIffOwn_error _
  · rename_i record _
    split
    · refine ensures_bind.2 (ensures_ask_alone.2 fun e _ ↦ ?_)
      have h₄ := h₃.exec (L := L)
        (.getAccounts ⟨provider, record.accessToken, connection.itemId⟩) e rfl
      split
      · exact ensures_bind.2 ((ensures_alone_trivial _).imp fun _ _ _ ↦ agreesIffOwn_error _)
      · rename_i fetched _
        have hpersist : (persistAccounts userId connection fetched).Calls fun call ↦
            call.silent = true := calls_persistAccounts (fun a ↦ rfl) fetched
        refine ensures_bind.2 ((ensures_unlisted hpersist h₄).imp fun _ w₅ h₅ ↦ ?_)
        exact ensures_syncProviderTransactionsAndAccounts h₅ hmem hkey
    · exact agreesIffOwn_error _

/-- The end of a Teller sync. -/
theorem Listed.ensures_finishTellerSync (h : Listed own connection.id db found w)
    (hmem : connection ∈ db.providerConnections)
    (hkey : (db.providerConnections.map ProviderConnection.id).Nodup)
    (hlists : ListsAccountsOf found connection.id accounts ↔ own found) :
    (finishTellerSync userId connection syncTimestamp window accounts.length
        transactions).Ensures (serviceAlone L) (fun _ w' ↦
      AccountsAgree connection.id ⟨w', [(connection.id, accounts)]⟩ ↔
        SyncKeepsToOwn own connection.id w'.calls) w := by
  refine ensures_bind.2 (ensures_ask_alone.2 fun e _ ↦ ?_)
  have h₁ := h.exec (L := L) (.mergeDuplicateProviderTransactions userId connection.id) e rfl rfl
  refine ensures_bind.2 (ensures_ask_alone.2 fun e _ ↦ ?_)
  have h₂ := h₁.exec (L := L) (.autoResolvePendingDuplicates userId (some connection.id)) e rfl rfl
  have htotal : (totalTransactions userId).Calls fun call ↦
      call.silent = true ∧ call.keepsAccounts = true := calls_totalTransactions ⟨rfl, rfl⟩
  refine ensures_bind.2 ((ensures_listed htotal h₂).imp fun transactionCount w₃ h₃ ↦ ?_)
  refine ensures_bind.2 (ensures_ask_alone.2 fun e _ ↦ ?_)
  have h₄ := h₃.exec (L := L) .now e rfl rfl
  refine ensures_bind.2 (ensures_ask_alone.2 fun e' _ ↦ ?_)
  have hsaved := h₄.save (L := L) (syncedConnection connection syncTimestamp e.now transactionCount
    accounts.length) e' hmem hkey hlists rfl rfl rfl
  split <;> exact hsaved

theorem ensures_syncTellerTransactionsAndAccounts
    (h : Unlisted (HasAccountsOf userId connection.id) connection.id db w)
    (hmem : connection ∈ db.providerConnections)
    (hkey : (db.providerConnections.map ProviderConnection.id).Nodup) :
    (syncTellerTransactionsAndAccounts userId credentials connection syncTimestamp window).Ensures
      (serviceAlone L) (AgreesIffOwn (HasAccountsOf userId connection.id) connection.id) w := by
  refine ensures_bind.2 (ensures_ask_alone.2 fun e _ ↦ ?_)
  have hlisted := h.lookup (L := L) userId e
  split
  · exact agreesIffOwn_error _
  · rename_i dbAccounts hfound
    have hread : (readStatement e w.db (getAccountsForUser L w.db userId)).2 = .ok dbAccounts :=
      hfound
    have hlists : ListsAccountsOf w.db connection.id (dbAccounts.filter fun a ↦
        a.providerConnectionId = some connection.id) ↔ HasAccountsOf userId connection.id w.db := by
      rw [eq_of_readStatement hread]
      exact listsAccountsOf_iff_all h.ids
    refine ensures_bind.2 (ensures_ask_alone.2 fun e _ ↦ ?_)
    have h₁ := hlisted.exec (L := L) (.getTransactions credentials window.1 window.2) e rfl rfl
    split
    · exact ensures_bind.2 ((ensures_alone_trivial _).imp fun _ _ _ ↦ agreesIffOwn_error _)
    · rename_i transactions _
      have hpersist : (persistTellerTransactions userId (dbAccounts.filter fun a ↦
          a.providerConnectionId = some connection.id) transactions).Calls fun call ↦
            call.silent = true ∧ call.keepsAccounts = true :=
        calls_persistTellerTransactions (fun t ↦ ⟨rfl, rfl⟩) _ transactions
      refine ensures_bind.2 ((ensures_listed hpersist h₁).imp fun synced w₂ h₂ ↦ ?_)
      refine ensures_bind.2 ((h₂.ensures_finishTellerSync hmem hkey hlists).imp
        fun result w₃ h₃ ↦ ?_)
      split
      · exact agreesIffOwn_error _
      · rintro _ _ ⟨⟩
        exact h₃

/-- **The Teller sync.** -/
theorem ensures_syncTellerConnectionAndAccounts
    (h : Unlisted (HasAccountsOf userId connection.id) connection.id db w)
    (hmem : connection ∈ db.providerConnections)
    (hkey : (db.providerConnections.map ProviderConnection.id).Nodup) :
    (syncTellerConnectionAndAccounts registered userId connection).Ensures
      (serviceAlone L) (AgreesIffOwn (HasAccountsOf userId connection.id) connection.id) w := by
  refine ensures_bind.2 (ensures_ask_alone.2 fun e _ ↦ ?_)
  have h₁ := h.exec (L := L) .now e rfl
  refine ensures_bind.2 (ensures_ask_alone.2 fun e _ ↦ ?_)
  have h₂ := h₁.exec (L := L) .now e rfl
  refine ensures_bind.2 (ensures_ask_alone.2 fun e _ ↦ ?_)
  have h₃ := h₂.exec (L := L) (.getProviderCredentialsForUser userId connection.itemId) e rfl
  split
  · exact agreesIffOwn_error _
  · exact agreesIffOwn_error _
  · rename_i record _
    split
    · refine ensures_bind.2 (ensures_ask_alone.2 fun e _ ↦ ?_)
      have h₄ := h₃.exec (L := L)
        (.getAccounts ⟨"teller", record.accessToken, connection.itemId⟩) e rfl
      split
      · exact ensures_bind.2 ((ensures_alone_trivial _).imp fun _ _ _ ↦ agreesIffOwn_error _)
      · rename_i fetched _
        have hpersist : (persistAccounts userId connection fetched).Calls fun call ↦
            call.silent = true := calls_persistAccounts (fun a ↦ rfl) fetched
        refine ensures_bind.2 ((ensures_unlisted hpersist h₄).imp fun _ w₅ h₅ ↦ ?_)
        refine ensures_bind.2 (ensures_ask_alone.2 fun e _ ↦ ?_)
        have h₆ := h₅.exec (L := L) (.mergeDuplicateProviderAccounts userId connection.id) e rfl
        exact ensures_syncTellerTransactionsAndAccounts h₆ hmem hkey
    · exact agreesIffOwn_error _

end Syncs

end Sumurai
