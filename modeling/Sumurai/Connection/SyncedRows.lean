import Sumurai.Connection.Records
import Sumurai.Duplicates.Links

/-!
# The accounts and the transactions that a sync writes

What the calls of a sync do to rows, told from the log of the calls that were made.

The first half is about accounts. A provider account id is *settled* once the database has accepted
an account with it: from then on there is a row with the id, and every such row belongs to the
connection. Other account writes of the same sync keep that, and so does the merge of duplicate
accounts if it spares the rows of the id (`AccountsSettled`).

The second half is about transactions, after the accounts have been read back. An accepted upsert
leaves a row of its transaction, and no later call of the sync takes the row away but the merge of
duplicate transactions, which has then judged it a duplicate (`Kept`).
-/

namespace Sumurai

/-! ### The log -/

/-- The transactions that the provider answered with. -/
def reportedTransactions (calls : List CallMade) : List (List Transaction) :=
  calls.filterMap fun
    | ⟨.getTransactions _ _ _, _, .ok transactions⟩ => some transactions
    | _ => none

/-- The accounts whose upserts the database accepted. -/
def writtenAccounts (calls : List CallMade) : List Account :=
  calls.filterMap fun
    | ⟨.upsertAccount a, _, .ok ()⟩ => some a
    | _ => none

theorem reportedTransactions_append (calls calls' : List CallMade) :
    reportedTransactions (calls ++ calls') =
      reportedTransactions calls ++ reportedTransactions calls' :=
  List.filterMap_append

theorem writtenAccounts_append (calls calls' : List CallMade) :
    writtenAccounts (calls ++ calls') = writtenAccounts calls ++ writtenAccounts calls' :=
  List.filterMap_append

/-- The merges of duplicate accounts spare the rows of a provider account id. -/
def Spared (L : Locale) (providerAccountId : String) (calls : List CallMade) : Prop :=
  ∀ m ∈ calls, ∀ userId connectionId, m.call = .mergeDuplicateProviderAccounts userId connectionId →
    ∀ r ∈ m.db.accounts, r.providerAccountId = some providerAccountId →
      r.id ∉ (duplicateAccounts L m.db userId connectionId).map Prod.fst

/-- The rows of a provider account id are the user's. The nil id is the id of none of them. -/
def OwnRows (userId : Uuid) (providerAccountId : String) (accounts : List Account) : Prop :=
  ∀ r ∈ accounts, r.providerAccountId = some providerAccountId → r.userId = some userId ∧ r.id ≠ 0

/-- There are rows of a provider account id, and all of them belong to a connection. -/
def OnlyOn (connectionId : Uuid) (providerAccountId : String) (accounts : List Account) : Prop :=
  (∃ r ∈ accounts, r.providerAccountId = some providerAccountId) ∧
    ∀ r ∈ accounts, r.providerAccountId = some providerAccountId →
      r.providerConnectionId = some connectionId

/-! ### Accounts -/

section Accounts

variable {L : Locale} {userId connectionId : Uuid} {p : String} {db db' : Store} {a : Account}
  {now : Timestamp}

/-- An account write, told row by row. -/
theorem upsertAccount_cases (h : upsertAccount db now a = .ok db') :
    (∃ f : Account → Account, db'.accounts = db.accounts.map f ∧
        (∃ r ∈ db.accounts, conflictsWith a r = true) ∧
        ∀ r, (f r).id = r.id ∧ (f r).userId = r.userId ∧
          (f r).providerAccountId = r.providerAccountId ∧
          (f r).providerConnectionId =
            if conflictsWith a r then a.providerConnectionId else r.providerConnectionId) ∨
      (db'.accounts = db.accounts ++ [{ a with updatedAt := some now }] ∧
        ∀ r ∈ db.accounts, conflictsWith a r = false) := by
  rw [upsertAccount] at h
  split at h
  · rename_i hany
    split at h
    · obtain rfl := Except.ok.inj h
      refine Or.inl ⟨_, rfl, List.any_eq_true.1 hany, fun r ↦ ?_⟩
      split <;> exact ⟨rfl, rfl, rfl, rfl⟩
    · exact absurd h (by simp)
  · rename_i hany
    have hfree : ∀ r ∈ db.accounts, conflictsWith a r = false := by simpa using hany
    split at h
    · exact absurd h (by simp)
    · split at h
      · obtain rfl := Except.ok.inj h
        exact Or.inr ⟨rfl, hfree⟩
      · exact absurd h (by simp)

theorem conflictsWith_iff {r : Account} (hr : r.providerAccountId = some p) :
    conflictsWith a r = true ↔ a.providerAccountId = some p := by
  rw [conflictsWith, hr, Option.isSome_some, Bool.true_and, beq_iff_eq, eq_comm]

theorem OwnRows.upsertAccount (h : OwnRows userId p db.accounts)
    (hok : upsertAccount db now a = .ok db') (huser : a.userId = some userId)
    (hnil : a.providerAccountId = some p → a.id ≠ 0) : OwnRows userId p db'.accounts := by
  intro r' hr' hp
  rcases upsertAccount_cases hok with ⟨f, hdb, -, hf⟩ | ⟨hdb, -⟩
  · rw [hdb] at hr'
    obtain ⟨r, hr, rfl⟩ := List.mem_map.1 hr'
    obtain ⟨hid, hruser, hrp, -⟩ := hf r
    rw [hid, hruser]
    exact h r hr (hrp.symm.trans hp)
  · rw [hdb] at hr'
    rcases List.mem_append.1 hr' with hr | hr
    · exact h r' hr hp
    · obtain rfl := List.mem_singleton.1 hr
      exact ⟨huser, hnil hp⟩

/-- An accepted write settles its provider account id. -/
theorem onlyOn_of_upsertAccount (hok : upsertAccount db now a = .ok db')
    (hconn : a.providerConnectionId = some connectionId) (hp : a.providerAccountId = some p) :
    OnlyOn connectionId p db'.accounts := by
  rcases upsertAccount_cases hok with ⟨f, hdb, ⟨r₀, hr₀, hconflict⟩, hf⟩ | ⟨hdb, hfree⟩
  · rw [OnlyOn, hdb]
    refine ⟨⟨f r₀, List.mem_map_of_mem hr₀, ?_⟩, fun r' hr' hrp ↦ ?_⟩
    · obtain ⟨-, -, hrp, -⟩ := hf r₀
      rw [conflictsWith, Bool.and_eq_true, beq_iff_eq] at hconflict
      rw [hrp, hconflict.2, hp]
    · obtain ⟨r, hr, rfl⟩ := List.mem_map.1 hr'
      obtain ⟨-, -, hsame, hrconn⟩ := hf r
      rw [hrconn, if_pos ((conflictsWith_iff (hsame.symm.trans hrp)).2 hp), hconn]
  · rw [OnlyOn, hdb]
    refine ⟨⟨_, List.mem_append_right _ (List.mem_singleton.2 rfl), hp⟩, fun r hr hrp ↦ ?_⟩
    rcases List.mem_append.1 hr with hr | hr
    · exact absurd ((conflictsWith_iff hrp).2 hp) (by simp [hfree r hr])
    · obtain rfl := List.mem_singleton.1 hr
      exact hconn

/-- Writes of accounts of the connection keep a settled id settled. -/
theorem OnlyOn.upsertAccount (h : OnlyOn connectionId p db.accounts)
    (hok : upsertAccount db now a = .ok db') (hconn : a.providerConnectionId = some connectionId) :
    OnlyOn connectionId p db'.accounts := by
  by_cases hp : a.providerAccountId = some p
  · exact onlyOn_of_upsertAccount hok hconn hp
  · obtain ⟨⟨r₀, hr₀, hr₀p⟩, hall⟩ := h
    rcases upsertAccount_cases hok with ⟨f, hdb, -, hf⟩ | ⟨hdb, -⟩
    · rw [OnlyOn, hdb]
      refine ⟨⟨f r₀, List.mem_map_of_mem hr₀, (hf r₀).2.2.1.trans hr₀p⟩, fun r' hr' hrp ↦ ?_⟩
      obtain ⟨r, hr, rfl⟩ := List.mem_map.1 hr'
      obtain ⟨-, -, hsame, hrconn⟩ := hf r
      have hrp := hsame.symm.trans hrp
      rw [hrconn, if_neg (mt (conflictsWith_iff hrp).1 hp)]
      exact hall r hr hrp
    · rw [OnlyOn, hdb]
      refine ⟨⟨r₀, List.mem_append_left _ hr₀, hr₀p⟩, fun r hr hrp ↦ ?_⟩
      rcases List.mem_append.1 hr with hr | hr
      · exact hall r hr hrp
      · obtain rfl := List.mem_singleton.1 hr
        exact absurd hrp hp

/-- A merge of accounts keeps the accounts that are no duplicates. -/
theorem mem_accounts_mergeDuplicateProviderAccounts {n : ℕ}
    (hok : mergeDuplicateProviderAccounts L db userId connectionId = .ok (db', n)) {r : Account} :
    r ∈ db'.accounts ↔
      r ∈ db.accounts ∧ r.id ∉ (duplicateAccounts L db userId connectionId).map Prod.fst := by
  rw [mergeDuplicateProviderAccounts] at hok
  obtain ⟨db₁, hdel, hrest⟩ := Except.exists_of_bind_eq_ok hok
  obtain ⟨rfl, -⟩ := Prod.mk.inj (Except.ok.inj hrest)
  rw [deleteAccounts_eq_ok hdel]
  dsimp only
  rw [List.mem_filter, Bool.not_eq_true', decide_eq_false_iff_not]
  exact Iff.rfl

end Accounts

/-- The call leaves the accounts alone. -/
def ServiceCall.keepsAccounts : ServiceCall → Bool
  | .upsertAccount _ => false
  | .mergeDuplicateProviderAccounts _ _ => false
  | .deleteAccountsOfConnection _ => false
  | .deleteProviderConnection _ _ => false
  | _ => true

theorem accounts_answer {L : Locale} {e : Reply} {db : Store} {call : ServiceCall}
    (hkeeps : call.keepsAccounts = true) : (answer L e db call).1.accounts = db.accounts := by
  rcases answer_cases L e db call with heq | ⟨-, hok⟩
  · rw [heq]
  · cases call with
    | upsertAccount a => exact absurd hkeeps Bool.false_ne_true
    | mergeDuplicateProviderAccounts userId connectionId => exact absurd hkeeps Bool.false_ne_true
    | deleteAccountsOfConnection connectionId => exact absurd hkeeps Bool.false_ne_true
    | deleteProviderConnection userId itemId => exact absurd hkeeps Bool.false_ne_true
    | upsertTransaction t => exact (upsertTransaction_frame hok).2.2
    | saveProviderConnection c =>
      rcases saveProviderConnection_cases hok with ⟨-, hdb⟩ | ⟨-, hdb⟩ <;> rw [hdb]
    | _ => exact (congrArg Store.accounts (Except.ok.inj hok)).symm

/-! ### Settled accounts -/

/-- The account writes of a call are of accounts of the user on the connection, and it deletes no
accounts as such. -/
def WritesOnto (userId connectionId : Uuid) : ServiceCall → Prop
  | .upsertAccount a => a.userId = some userId ∧ a.providerConnectionId = some connectionId
  | .deleteAccountsOfConnection _ => False
  | .deleteProviderConnection _ _ => False
  | _ => True

/-- The accounts that a sync has written are settled, as far as its merges spare them. -/
def AccountsSettled (L : Locale) (userId connectionId : Uuid) (accounts : List Account)
    (w : World) : Prop :=
  ∀ p, OwnRows userId p accounts →
    (∀ a ∈ writtenAccounts w.calls, a.providerAccountId = some p → a.id ≠ 0) →
      Spared L p w.calls → OwnRows userId p w.db.accounts ∧
        ((∃ a ∈ writtenAccounts w.calls, a.providerAccountId = some p) →
          OnlyOn connectionId p w.db.accounts)

section AccountsSettled

variable {L : Locale} {userId connectionId : Uuid} {accounts : List Account} {w : World}

theorem exec_upsertAccount_cases (L : Locale) (a : Account) (e : Reply) (w : World) :
    ((exec L (.upsertAccount a) e w).1.db = w.db ∧
        writtenAccounts (exec L (.upsertAccount a) e w).1.calls = writtenAccounts w.calls) ∨
      (upsertAccount w.db e.now a = .ok (exec L (.upsertAccount a) e w).1.db ∧
        writtenAccounts (exec L (.upsertAccount a) e w).1.calls =
          writtenAccounts w.calls ++ [a]) := by
  rcases unitStatement_cases e w.db (upsertAccount w.db e.now a) with
    ⟨err, hanswer⟩ | ⟨db', hok, hanswer⟩
  · rw [exec_of_answer (show answer L e w.db (.upsertAccount a) = _ from hanswer)]
    refine Or.inl ⟨rfl, ?_⟩
    rw [writtenAccounts_append]
    exact List.append_nil _
  · rw [exec_of_answer (show answer L e w.db (.upsertAccount a) = _ from hanswer)]
    refine Or.inr ⟨hok, ?_⟩
    rw [writtenAccounts_append]
    rfl

theorem writtenAccounts_exec {call : ServiceCall} {e : Reply}
    (h : ∀ a, call ≠ .upsertAccount a) :
    writtenAccounts (exec L call e w).1.calls = writtenAccounts w.calls := by
  rw [exec, writtenAccounts_append]
  cases call <;> first | exact List.append_nil _ | exact absurd rfl (h _)

theorem Spared.of_exec {p : String} {call : ServiceCall} {e : Reply}
    (h : Spared L p (exec L call e w).1.calls) : Spared L p w.calls :=
  fun m hm ↦ h m (List.mem_append_left _ hm)

theorem accountsSettled_start (db : Store) (clock : Timestamp) :
    AccountsSettled L userId connectionId db.accounts ⟨db, clock, []⟩ :=
  fun _ hown _ _ ↦ ⟨hown, fun ⟨_, ha, _⟩ ↦ absurd ha List.not_mem_nil⟩

/-- **Every call of a sync keeps the accounts settled.** -/
theorem AccountsSettled.exec (h : AccountsSettled L userId connectionId accounts w)
    {call : ServiceCall} (hcall : WritesOnto userId connectionId call) (e : Reply) :
    AccountsSettled L userId connectionId accounts (exec L call e w).1 := by
  intro p hown hnil hspared
  cases call with
  | upsertAccount a =>
    obtain ⟨huser, hconn⟩ := hcall
    rcases exec_upsertAccount_cases L a e w with ⟨hdb, hwritten⟩ | ⟨hok, hwritten⟩
    · rw [hwritten] at hnil ⊢
      rw [hdb]
      exact h p hown hnil hspared.of_exec
    · rw [hwritten] at hnil ⊢
      obtain ⟨hrows, honly⟩ := h p hown
        (fun b hb ↦ hnil b (List.mem_append_left _ hb)) hspared.of_exec
      have hanil := hnil a (List.mem_append_right _ (List.mem_singleton.2 rfl))
      refine ⟨hrows.upsertAccount hok huser hanil, ?_⟩
      rintro ⟨b, hb, hp⟩
      rcases List.mem_append.1 hb with hb | hb
      · exact (honly ⟨b, hb, hp⟩).upsertAccount hok hconn
      · obtain rfl := List.mem_singleton.1 hb
        exact onlyOn_of_upsertAccount hok hconn hp
  | mergeDuplicateProviderAccounts u c =>
    rw [writtenAccounts_exec (by simp)] at hnil ⊢
    obtain ⟨hrows, honly⟩ := h p hown hnil hspared.of_exec
    rcases valueStatement_cases e w.db (mergeDuplicateProviderAccounts L w.db u c) with
      ⟨err, hanswer⟩ | ⟨db', n, hok, hanswer⟩
    · rw [exec_of_answer (show answer L e w.db (.mergeDuplicateProviderAccounts u c) = _
        from hanswer)]
      exact ⟨hrows, honly⟩
    · rw [exec_of_answer (show answer L e w.db (.mergeDuplicateProviderAccounts u c) = _
        from hanswer)]
      have hmem : ∀ r : Account, r ∈ db'.accounts ↔ r ∈ w.db.accounts ∧
          r.id ∉ (duplicateAccounts L w.db u c).map Prod.fst :=
        fun _ ↦ mem_accounts_mergeDuplicateProviderAccounts hok
      refine ⟨fun r hr ↦ hrows r ((hmem r).1 hr).1, fun hwritten ↦ ?_⟩
      obtain ⟨⟨r, hr, hp⟩, hall⟩ := honly hwritten
      have hkept := hspared _ (List.mem_append_right _ (List.mem_singleton.2 rfl)) u c rfl r hr hp
      exact ⟨⟨r, (hmem r).2 ⟨hr, hkept⟩, hp⟩, fun r hr ↦ hall r ((hmem r).1 hr).1⟩
  | deleteAccountsOfConnection c => exact hcall.elim
  | deleteProviderConnection u item => exact hcall.elim
  | _ =>
    rw [writtenAccounts_exec (by simp)] at hnil ⊢
    rw [Sumurai.exec, accounts_answer rfl]
    exact h p hown hnil hspared.of_exec

end AccountsSettled

/-! ### Transactions -/

/-- A row with the id, the account and the provider transaction id of another. -/
structure SameRow (r r' : TransactionRow) : Prop where
  id : r'.id = r.id
  accountId : r'.accountId = r.accountId
  providerTransactionId : r'.providerTransactionId = r.providerTransactionId

/-- A row stores a transaction: it has its provider transaction id or, without one, its id. -/
structure IsRowOf (t : Transaction) (r : TransactionRow) : Prop where
  providerTransactionId : r.providerTransactionId = t.providerTransactionId
  id : t.providerTransactionId = none → r.id = t.id

theorem SameRow.refl (r : TransactionRow) : SameRow r r :=
  ⟨rfl, rfl, rfl⟩

theorem IsRowOf.sameRow {t : Transaction} {r r' : TransactionRow} (h : IsRowOf t r)
    (hsame : SameRow r r') : IsRowOf t r' :=
  ⟨hsame.providerTransactionId.trans h.providerTransactionId,
    fun hnone ↦ hsame.id.trans (h.id hnone)⟩

theorem onConnection_congr {db db' : Store} {connectionId : Uuid} {r r' : TransactionRow}
    (haccounts : db'.accounts = db.accounts) (hsame : SameRow r r') :
    onConnection db' connectionId r' = onConnection db connectionId r := by
  rw [onConnection, onConnection, haccounts, hsame.accountId]

/-- The call takes no transaction away, unless it merges duplicates, and leaves the accounts
alone. -/
def ServiceCall.keepsRows : ServiceCall → Bool
  | .deleteTransactionsOfConnection _ => false
  | call => call.keepsAccounts

theorem ServiceCall.keepsAccounts_of_keepsRows {call : ServiceCall} (h : call.keepsRows = true) :
    call.keepsAccounts = true := by
  cases call with
  | deleteTransactionsOfConnection connectionId => rfl
  | _ => exact h

/-- A merge of transactions has judged a transaction a duplicate. -/
def JudgedDuplicate (L : Locale) (t : Transaction) (calls : List CallMade) : Prop :=
  ∃ m ∈ calls, ∃ userId connectionId,
    m.call = .mergeDuplicateProviderTransactions userId connectionId ∧
      ∃ r ∈ m.db.transactions, IsRowOf t r ∧
        r.id ∈ (duplicatePairs (transactionCandidates L m.db userId connectionId)).map Prod.snd

/-- A transaction is stored under an account of a connection, or was judged a duplicate. -/
def Kept (L : Locale) (connectionId : Uuid) (t : Transaction) (w : World) : Prop :=
  (∃ r ∈ w.db.transactions, IsRowOf t r ∧ onConnection w.db connectionId r = true) ∨
    JudgedDuplicate L t w.calls

/-- The provider transaction id of a transaction is not stored outside a connection. -/
def NotElsewhere (connectionId : Uuid) (t : Transaction) (db : Store) : Prop :=
  t.providerTransactionId.isSome = true → ∀ r ∈ db.transactions,
    r.providerTransactionId = t.providerTransactionId → onConnection db connectionId r = true

/-- A transaction was handed to the database and, if it accepted it, is kept. -/
def Handed (L : Locale) (connectionId : Uuid) (t : Transaction) (w : World) : Prop :=
  ∃ db result, (⟨.upsertTransaction t, db, result⟩ : CallMade) ∈ w.calls ∧
    (result = .ok () → NotElsewhere connectionId t db → Kept L connectionId t w)

/-- An account of a connection. -/
def IsAccountOf (connectionId accountId : Uuid) (accounts : List Account) : Prop :=
  ∃ a ∈ accounts, a.id = accountId ∧ a.providerConnectionId = some connectionId

section Transactions

variable {L : Locale} {connectionId : Uuid} {db db' : Store} {t : Transaction} {w : World}

/-- An upsert takes no row away. -/
theorem exists_sameRow_upsertTransaction {now : Timestamp}
    (hok : upsertTransaction db now t = .ok db') {r : TransactionRow} (hr : r ∈ db.transactions) :
    ∃ r' ∈ db'.transactions, SameRow r r' := by
  rw [upsertTransaction] at hok
  split at hok
  · obtain rfl := Except.ok.inj hok
    refine ⟨_, List.mem_map_of_mem hr, ?_⟩
    split <;> exact ⟨rfl, rfl, rfl⟩
  · split at hok
    · exact absurd hok (by simp)
    · split at hok
      · exact absurd hok (by simp)
      · obtain rfl := Except.ok.inj hok
        exact ⟨r, List.mem_append_left _ hr, SameRow.refl r⟩

theorem exists_sameRow_deleteTransactions {doomed : TransactionRow → Bool} {r : TransactionRow}
    (hr : r ∈ db.transactions) (hkept : doomed r = false) :
    ∃ r' ∈ (deleteTransactions db doomed).transactions, SameRow r r' :=
  ⟨_, List.mem_map_of_mem (List.mem_filter.2 ⟨hr, by rw [hkept]; rfl⟩), rfl, rfl, rfl⟩

/-- **An accepted upsert leaves a row of its transaction** under its account, or under the account
that had the provider transaction id before. -/
theorem exists_isRowOf_upsertTransaction {now : Timestamp}
    (hok : upsertTransaction db now t = .ok db') :
    ∃ r' ∈ db'.transactions, IsRowOf t r' ∧
      (r'.accountId = t.accountId ∨ t.providerTransactionId.isSome = true ∧
        ∃ r ∈ db.transactions, r.providerTransactionId = t.providerTransactionId ∧
        SameRow r r') := by
  rw [upsertTransaction] at hok
  split at hok
  · rename_i hany
    obtain rfl := Except.ok.inj hok
    obtain ⟨r, hr, hknown⟩ := List.any_eq_true.1 hany
    obtain ⟨hsome, hsame⟩ := (Bool.and_eq_true _ _).mp hknown
    rw [beq_iff_eq] at hsame
    rw [hsame] at hsome
    refine ⟨_, List.mem_map_of_mem hr, ?_⟩
    rw [if_pos hknown]
    refine ⟨⟨hsame, fun hnone ↦ ?_⟩, Or.inr ⟨hsome, r, hr, hsame, ⟨rfl, rfl, rfl⟩⟩⟩
    rw [hnone] at hsome
    exact absurd hsome Bool.false_ne_true
  · split at hok
    · exact absurd hok (by simp)
    · split at hok
      · exact absurd hok (by simp)
      · obtain rfl := Except.ok.inj hok
        exact ⟨_, List.mem_append_right _ (List.mem_singleton.2 rfl), ⟨rfl, fun _ ↦ rfl⟩,
          Or.inl rfl⟩

/-- What a call does to a row: it stays, or a merge judges it a duplicate. -/
theorem sameRow_answer {e : Reply} {call : ServiceCall} (hkeeps : call.keepsRows = true)
    {r : TransactionRow} (hr : r ∈ db.transactions) :
    (∃ r' ∈ (answer L e db call).1.transactions, SameRow r r') ∨
      ∃ userId connectionId, call = .mergeDuplicateProviderTransactions userId connectionId ∧
        r.id ∈ (duplicatePairs (transactionCandidates L db userId connectionId)).map Prod.snd := by
  rcases answer_cases L e db call with heq | ⟨-, hok⟩
  · rw [heq]
    exact Or.inl ⟨r, hr, SameRow.refl r⟩
  · cases call with
    | upsertTransaction t => exact Or.inl (exists_sameRow_upsertTransaction hok hr)
    | mergeDuplicateProviderTransactions userId connectionId =>
      by_cases hdup : r.id ∈
          (duplicatePairs (transactionCandidates L db userId connectionId)).map Prod.snd
      · exact Or.inr ⟨userId, connectionId, rfl, hdup⟩
      · left
        rw [← Except.ok.inj hok, mergeDuplicateProviderTransactions]
        exact exists_sameRow_deleteTransactions hr (by simp [hdup])
    | autoResolvePendingDuplicates userId connectionId =>
      left
      rw [← Except.ok.inj hok]
      obtain ⟨plan, hplan⟩ : ∃ plan : LinkPlan, (autoResolvePendingDuplicates L db e.now userId
        connectionId).1.transactions = db.transactions.map (plan.relinkRow e.now) := ⟨_, rfl⟩
      rw [hplan]
      refine ⟨_, List.mem_map_of_mem hr, ?_⟩
      rw [LinkPlan.relinkRow]
      split
      · split <;> exact ⟨rfl, rfl, rfl⟩
      · exact SameRow.refl r
    | saveProviderConnection c =>
      left
      rcases saveProviderConnection_cases hok with ⟨-, hdb⟩ | ⟨-, hdb⟩ <;> rw [hdb] <;>
        exact ⟨r, hr, SameRow.refl r⟩
    | upsertAccount a => exact absurd hkeeps Bool.false_ne_true
    | mergeDuplicateProviderAccounts userId connectionId =>
      exact absurd hkeeps Bool.false_ne_true
    | deleteTransactionsOfConnection connectionId => exact absurd hkeeps Bool.false_ne_true
    | deleteAccountsOfConnection connectionId => exact absurd hkeeps Bool.false_ne_true
    | deleteProviderConnection userId itemId => exact absurd hkeeps Bool.false_ne_true
    | _ =>
      rw [← Except.ok.inj hok]
      exact Or.inl ⟨r, hr, SameRow.refl r⟩

/-- **No call takes a kept transaction away.** -/
theorem Kept.exec (h : Kept L connectionId t w) {call : ServiceCall}
    (hkeeps : call.keepsRows = true) (e : Reply) :
    Kept L connectionId t (exec L call e w).1 := by
  have haccounts : (Sumurai.exec L call e w).1.db.accounts = w.db.accounts :=
    accounts_answer (ServiceCall.keepsAccounts_of_keepsRows hkeeps)
  rcases h with ⟨r, hr, hrow, hon⟩ | ⟨m, hm, hjudged⟩
  · rcases sameRow_answer hkeeps hr with ⟨r', hr', hsame⟩ | ⟨userId, c, hcall, hdup⟩
    · refine Or.inl ⟨r', hr', hrow.sameRow hsame, ?_⟩
      rw [onConnection_congr haccounts hsame]
      exact hon
    · refine Or.inr ⟨_, List.mem_append_right _ (List.mem_singleton.2 rfl), userId, c, hcall, ?_⟩
      exact ⟨r, hr, hrow, hdup⟩
  · exact Or.inr ⟨m, List.mem_append_left _ hm, hjudged⟩

theorem Handed.exec (h : Handed L connectionId t w) {call : ServiceCall}
    (hkeeps : call.keepsRows = true) (e : Reply) :
    Handed L connectionId t (exec L call e w).1 := by
  obtain ⟨db, result, hmem, hkept⟩ := h
  exact ⟨db, result, List.mem_append_left _ hmem,
    fun hok hnot ↦ (hkept hok hnot).exec hkeeps e⟩

/-- **An upsert under an account of the connection** hands its transaction over. -/
theorem handed_of_upsertTransaction (haccount : IsAccountOf connectionId t.accountId w.db.accounts)
    (e : Reply) : Handed L connectionId t (exec L (.upsertTransaction t) e w).1 := by
  refine ⟨w.db, _, List.mem_append_right _ (List.mem_singleton.2 rfl), fun hresult hnot ↦ ?_⟩
  have haccounts : (Sumurai.exec L (.upsertTransaction t) e w).1.db.accounts = w.db.accounts :=
    accounts_answer rfl
  rcases unitStatement_cases e w.db (upsertTransaction w.db e.now t) with
    ⟨err, hanswer⟩ | ⟨db', hok, hanswer⟩
  · rw [show (answer L e w.db (.upsertTransaction t)).2 = .error err from
      congrArg Prod.snd hanswer] at hresult
    exact absurd hresult (by simp)
  · rw [exec_of_answer (show answer L e w.db (.upsertTransaction t) = _ from hanswer)]
      at haccounts ⊢
    obtain ⟨r', hr', hrow, hwhere⟩ := exists_isRowOf_upsertTransaction hok
    refine Or.inl ⟨r', hr', hrow, ?_⟩
    rcases hwhere with haccountId | ⟨hsome, r, hr, hprovider, hsame⟩
    · obtain ⟨a, ha, hid, hconn⟩ := haccount
      rw [onConnection, haccounts, List.any_eq_true]
      exact ⟨a, ha, by simp [hid, hconn, haccountId]⟩
    · rw [onConnection_congr haccounts hsame]
      exact hnot hsome r hr hprovider

end Transactions

end Sumurai
