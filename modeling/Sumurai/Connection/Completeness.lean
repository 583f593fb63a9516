import Sumurai.Connection.LastSync
import Sumurai.Connection.SyncedRows

/-!
# What a sync stores of what the provider reports

A sync is not all or nothing: it logs the failure of a row and goes on, and its `last_sync_at` moves
all the same. `sync_complete` says what can be relied on. Every reported transaction of a reported
account that the database has taken up is handed to the database, and the ones it accepts are stored
at the end under an account of the connection, or were judged duplicates of others by the sync
itself. And `last_sync_at` moves only if the sync returns.

The proof follows a sync in three phases, with an invariant for each: before the accounts are read
back (`Unread`), with them read back (`ReadBack`), and in the loop over the transactions, in which
those behind are handed over (`Handed`).
-/

open Program

namespace Sumurai

/-- A provider account id whose accounts a sync has written: its rows are the user's, the database
has accepted a write, and no merge of accounts has taken a row of it. -/
structure Usable (L : Locale) (userId : Uuid) (accounts : List Account) (calls : List CallMade)
    (providerAccountId : String) : Prop where
  own : OwnRows userId providerAccountId accounts
  written : ∃ a ∈ writtenAccounts calls, a.providerAccountId = some providerAccountId
  notNil : ∀ a ∈ writtenAccounts calls, a.providerAccountId = some providerAccountId → a.id ≠ 0
  spared : Spared L providerAccountId calls

/-- A reported transaction of a usable account is handed over, under an account of the
connection. -/
def Delivered (L : Locale) (userId connectionId : Uuid) (accounts : List Account) (t : Transaction)
    (w : World) : Prop :=
  ∀ p, t.providerAccountId = some p → Usable L userId accounts w.calls p →
    ∃ accountId, IsAccountOf connectionId accountId w.db.accounts ∧
      Handed L connectionId { t with userId := some userId, accountId := accountId } w

/-- The provider was asked once, and everything it reported is delivered. -/
def AllDelivered (L : Locale) (userId connectionId : Uuid) (accounts : List Account) (w : World) :
    Prop :=
  ∃ reported, reportedTransactions w.calls = [reported] ∧
    ∀ t ∈ reported, Delivered L userId connectionId accounts t w

/-! ### Accounts read back -/

section ReadBack

variable {L : Locale} {R : Timestamp → Timestamp → Prop} {userId connectionId : Uuid}
  {accounts : List Account} {accountOf : String → Option Uuid} {reported : List (List Transaction)}
  {w : World}

/-- Before the accounts are read back. -/
structure Unread (L : Locale) (userId connectionId : Uuid) (accounts : List Account) (w : World) :
    Prop where
  settled : AccountsSettled L userId connectionId accounts w
  reported_eq : reportedTransactions w.calls = []

/-- The accounts have been read back, and give the account of every usable provider account id. -/
structure ReadBack (L : Locale) (userId connectionId : Uuid) (accounts : List Account)
    (accountOf : String → Option Uuid) (reported : List (List Transaction)) (w : World) : Prop where
  mapped : ∀ p, Usable L userId accounts w.calls p → ∃ accountId, accountOf p = some accountId ∧
    accountId ≠ 0 ∧ IsAccountOf connectionId accountId w.db.accounts
  reported_eq : reportedTransactions w.calls = reported

theorem reportedTransactions_exec {call : ServiceCall} {e : Reply}
    (h : ∀ c startDate endDate, call ≠ .getTransactions c startDate endDate) :
    reportedTransactions (exec L call e w).1.calls = reportedTransactions w.calls := by
  rw [exec, reportedTransactions_append]
  cases call <;> first | exact List.append_nil _ | exact absurd rfl (h _ _ _)

/-- A call before the accounts are read back. -/
def EarlyCall (userId connectionId : Uuid) (call : ServiceCall) : Prop :=
  WritesOnto userId connectionId call ∧
    ∀ c startDate endDate, call ≠ .getTransactions c startDate endDate

/-- A call after the accounts have been read back, other than the request for transactions. -/
def LateCall (call : ServiceCall) : Prop :=
  call.keepsRows = true ∧ ∀ c startDate endDate, call ≠ .getTransactions c startDate endDate

theorem Unread.exec (h : Unread L userId connectionId accounts w) {call : ServiceCall}
    (hcall : EarlyCall userId connectionId call) (e : Reply) :
    Unread L userId connectionId accounts (exec L call e w).1 :=
  ⟨h.settled.exec hcall.1 e, (reportedTransactions_exec hcall.2).trans h.reported_eq⟩

theorem ensures_unread {call : ServiceCall} {Q : call.Answer → World → Prop}
    (h : Unread L userId connectionId accounts w) (hcall : EarlyCall userId connectionId call)
    (hQ : ∀ a w', Unread L userId connectionId accounts w' → Q a w') :
    (perform call).Ensures (inTime L R) Q w :=
  ensures_ask_alone.2 fun e _ ↦ hQ _ _ (h.exec hcall e)

theorem ensures_of_early {α : Type} {p : ServiceProgram α}
    (hp : p.Calls (EarlyCall userId connectionId)) (h : Unread L userId connectionId accounts w) :
    p.Ensures (inTime L R) (fun _ w' ↦ Unread L userId connectionId accounts w') w :=
  hp.ensures_alone (fun _ _ e hs hcall _ ↦ hs.exec hcall e) h

theorem Usable.of_exec {call : ServiceCall} {e : Reply} {p : String}
    (hkeeps : call.keepsRows = true) (h : Usable L userId accounts (exec L call e w).1.calls p) :
    Usable L userId accounts w.calls p := by
  have hwritten : writtenAccounts (Sumurai.exec L call e w).1.calls = writtenAccounts w.calls := by
    refine writtenAccounts_exec fun a ha ↦ ?_
    rw [ha] at hkeeps
    exact Bool.false_ne_true hkeeps
  exact ⟨h.own, hwritten ▸ h.written, hwritten ▸ h.notNil, h.spared.of_exec⟩

theorem IsAccountOf.exec {call : ServiceCall} {accountId : Uuid} (hkeeps : call.keepsRows = true)
    (e : Reply) : IsAccountOf connectionId accountId (exec L call e w).1.db.accounts ↔
      IsAccountOf connectionId accountId w.db.accounts := by
  rw [Sumurai.exec, accounts_answer (ServiceCall.keepsAccounts_of_keepsRows hkeeps)]

theorem ReadBack.exec (h : ReadBack L userId connectionId accounts accountOf reported w)
    {call : ServiceCall} (hcall : LateCall call) (e : Reply) :
    ReadBack L userId connectionId accounts accountOf reported (exec L call e w).1 := by
  refine ⟨fun p hp ↦ ?_, (reportedTransactions_exec hcall.2).trans h.reported_eq⟩
  obtain ⟨accountId, hmapped, hnil, haccount⟩ := h.mapped p (hp.of_exec hcall.1)
  exact ⟨accountId, hmapped, hnil, (IsAccountOf.exec hcall.1 e).2 haccount⟩

theorem ensures_readBack {call : ServiceCall} {Q : call.Answer → World → Prop}
    (h : ReadBack L userId connectionId accounts accountOf reported w) (hcall : LateCall call)
    (hQ : ∀ a w', ReadBack L userId connectionId accounts accountOf reported w' → Q a w') :
    (perform call).Ensures (inTime L R) Q w :=
  ensures_ask_alone.2 fun e _ ↦ hQ _ _ (h.exec hcall e)

/-- The request for transactions. -/
theorem ensures_getTransactions_reported {credentials : ProviderCredentials}
    {window : NaiveDate × NaiveDate} {Q : Except String (List Transaction) → World → Prop}
    (h : ReadBack L userId connectionId accounts accountOf [] w)
    (herror : ∀ message w', Q (.error message) w')
    (hok : ∀ transactions w',
      ReadBack L userId connectionId accounts accountOf [transactions] w' →
      Q (.ok transactions) w') :
    (perform (.getTransactions credentials window.1 window.2)).Ensures (inTime L R) Q w := by
  refine ensures_ask_alone.2 fun e _ ↦ ?_
  have hmapped : ∀ p, Usable L userId accounts
      (exec L (.getTransactions credentials window.1 window.2) e w).1.calls p →
        ∃ accountId, accountOf p = some accountId ∧ accountId ≠ 0 ∧
          IsAccountOf connectionId accountId w.db.accounts :=
    fun p hp ↦ h.mapped p (hp.of_exec rfl)
  rcases htransactions : e.transactions with message | transactions
  · have hanswer : answer L e w.db (.getTransactions credentials window.1 window.2) =
        (w.db, .error message) := Prod.ext rfl htransactions
    rw [exec_of_answer hanswer]
    exact herror message _
  · have hanswer : answer L e w.db (.getTransactions credentials window.1 window.2) =
        (w.db, .ok transactions) := Prod.ext rfl htransactions
    rw [exec_of_answer hanswer] at hmapped ⊢
    refine hok transactions _ ⟨hmapped, ?_⟩
    rw [reportedTransactions_append, h.reported_eq]
    rfl

/-- Among accounts with a provider account id, the mapping gives the id of one. -/
theorem exists_accountMapping {p : String} {l : List Account}
    (h : ∃ a ∈ l, a.providerAccountId = some p) :
    ∃ a ∈ l, a.providerAccountId = some p ∧ accountMapping l p = some a.id := by
  obtain ⟨a₀, ha₀, hp₀⟩ := h
  have hne : (l.filter fun a ↦ a.providerAccountId = some p) ≠ [] :=
    List.ne_nil_of_mem (List.mem_filter.2 ⟨ha₀, decide_eq_true hp₀⟩)
  obtain ⟨hmem, hp⟩ := List.mem_filter.1 (List.getLast_mem hne)
  refine ⟨_, hmem, of_decide_eq_true hp, ?_⟩
  rw [accountMapping, List.getLast?_eq_some_getLast hne, Option.map_some]

/-- The accounts that a user reads, with those of the connection among the ones looked at, map a
settled provider account id to an account of the connection. -/
theorem accountMapping_of_settled {db : Store} {p : String} {keep : Account → Bool}
    (hkeep : ∀ a, a.providerConnectionId = some connectionId → keep a = true)
    (hown : OwnRows userId p db.accounts) (honly : OnlyOn connectionId p db.accounts) :
    ∃ accountId, accountMapping ((getAccountsForUser L db userId).filter keep) p = some accountId ∧
      accountId ≠ 0 ∧ IsAccountOf connectionId accountId db.accounts := by
  obtain ⟨⟨r, hr, hrp⟩, hall⟩ := honly
  have hread : ∃ a ∈ (getAccountsForUser L db userId).filter keep,
      a.providerAccountId = some p := by
    have hrow : r ∈ accountRowsForUser L db userId :=
      (mem_accountRowsForUser L db userId).2 ⟨hr, (hown r hr hrp).1⟩
    exact ⟨_, List.mem_filter.2 ⟨List.mem_map_of_mem hrow, hkeep _ (hall r hr hrp)⟩, hrp⟩
  obtain ⟨a, ha, hp, hmapping⟩ := exists_accountMapping hread
  obtain ⟨r', hr', rfl⟩ := List.mem_map.1 (List.mem_filter.1 ha).1
  have hmem : r' ∈ db.accounts := ((mem_accountRowsForUser L db userId).1 hr').1
  exact ⟨r'.id, hmapping, (hown r' hmem hp).2, r', hmem, rfl, hall r' hmem hp⟩

/-- **Reading the accounts back.** -/
theorem ensures_getAccountsForUser {Q : Except DbError (List Account) → World → Prop}
    (h : Unread L userId connectionId accounts w) (herror : ∀ err w', Q (.error err) w')
    (hok : ∀ dbAccounts w', (∀ keep : Account → Bool,
      (∀ a, a.providerConnectionId = some connectionId → keep a = true) →
        ReadBack L userId connectionId accounts (accountMapping (dbAccounts.filter keep)) [] w') →
          Q (.ok dbAccounts) w') :
    (perform (.getAccountsForUser userId)).Ensures (inTime L R) Q w := by
  refine ensures_ask_alone.2 fun e _ ↦ ?_
  have hnext : Unread L userId connectionId accounts (exec L (.getAccountsForUser userId) e w).1 :=
    h.exec (show EarlyCall userId connectionId (.getAccountsForUser userId) from
      ⟨trivial, by simp⟩) e
  by_cases hup : e.databaseUp = true
  · have hanswer : answer L e w.db (.getAccountsForUser userId) =
        (w.db, .ok (getAccountsForUser L w.db userId)) := if_pos hup
    rw [exec_of_answer hanswer] at hnext ⊢
    refine hok _ _ fun keep hkeep ↦ ⟨fun p hp ↦ ?_, hnext.reported_eq⟩
    obtain ⟨hown, honly⟩ := hnext.settled p hp.own hp.notNil hp.spared
    exact accountMapping_of_settled hkeep hown (honly hp.written)
  · have hanswer : answer L e w.db (.getAccountsForUser userId) =
        (w.db, .error .unavailable) := if_neg hup
    rw [exec_of_answer hanswer]
    exact herror _ _

end ReadBack

/-! ### The loops over the transactions -/

section Loops

variable {L : Locale} {R : Timestamp → Timestamp → Prop} {userId connectionId : Uuid}
  {accounts : List Account} {accountOf : String → Option Uuid} {reported : List (List Transaction)}
  {w : World}

/-- The transactions of a list that are under an account of the connection are handed over. -/
def AllHanded (L : Locale) (connectionId : Uuid) (transactions : List Transaction) (w : World) :
    Prop :=
  ∀ t ∈ transactions, IsAccountOf connectionId t.accountId w.db.accounts →
    Handed L connectionId t w

theorem AllHanded.exec {transactions : List Transaction}
    (h : AllHanded L connectionId transactions w)
    {call : ServiceCall} (hkeeps : call.keepsRows = true) (e : Reply) :
    AllHanded L connectionId transactions (exec L call e w).1 :=
  fun t ht haccount ↦ (h t ht ((IsAccountOf.exec hkeeps e).1 haccount)).exec hkeeps e

/-- An upsert hands one more transaction over. -/
theorem AllHanded.upsertTransaction {transactions : List Transaction}
    (h : AllHanded L connectionId transactions w) (t : Transaction) (e : Reply) :
    AllHanded L connectionId (transactions ++ [t])
      (Sumurai.exec L (.upsertTransaction t) e w).1 := by
  have hbefore : AllHanded L connectionId transactions
      (Sumurai.exec L (.upsertTransaction t) e w).1 := h.exec rfl e
  intro u hu haccount
  rcases List.mem_append.1 hu with hu | hu
  · exact hbefore u hu haccount
  · obtain rfl := List.mem_singleton.1 hu
    exact handed_of_upsertTransaction ((IsAccountOf.exec rfl e).1 haccount) e

theorem ensures_persistTransactions {transactions : List Transaction}
    (h : ReadBack L userId connectionId accounts accountOf reported w) :
    (persistTransactions transactions).Ensures (inTime L R)
      (fun _ w' ↦ ReadBack L userId connectionId accounts accountOf reported w' ∧
        AllHanded L connectionId (transactions.filter fun t ↦ t.accountId ≠ 0) w') w := by
  refine Ensures.forEach (I := fun before _ w' ↦
    ReadBack L userId connectionId accounts accountOf reported w' ∧
      AllHanded L connectionId (before.filter fun t ↦ t.accountId ≠ 0) w') ?_
    ⟨h, fun _ ht ↦ absurd ht (by simp)⟩
  rintro before t after persisted w' - ⟨hread, hhanded⟩
  rw [List.filter_append]
  by_cases hnil : t.accountId = 0
  · have hskipped : [t].filter (fun t ↦ t.accountId ≠ 0) = [] := by simp [hnil]
    rw [if_pos hnil, hskipped, List.append_nil]
    exact ⟨hread, hhanded⟩
  · have hstored : [t].filter (fun t ↦ t.accountId ≠ 0) = [t] := by simp [hnil]
    rw [if_neg hnil, hstored]
    exact ensures_bind.2 (ensures_ask_alone.2 fun e _ ↦
      ⟨hread.exec ⟨rfl, by simp⟩ e, hhanded.upsertTransaction t e⟩)

/-- A transaction as it is stored under the account that is mapped to it. -/
def underAccount (userId : Uuid) (accounts : List Account) (t : Transaction) :
    Option Transaction :=
  (t.providerAccountId.bind (accountMapping accounts)).map fun accountId ↦
    { t with userId := some userId, accountId := accountId }

theorem ensures_persistTellerTransactions {dbAccounts : List Account}
    {transactions : List Transaction}
    (h : ReadBack L userId connectionId accounts accountOf reported w) :
    (persistTellerTransactions userId dbAccounts transactions).Ensures (inTime L R)
      (fun _ w' ↦ ReadBack L userId connectionId accounts accountOf reported w' ∧
        AllHanded L connectionId (transactions.filterMap (underAccount userId dbAccounts)) w')
      w := by
  refine Ensures.forEach (I := fun before _ w' ↦
    ReadBack L userId connectionId accounts accountOf reported w' ∧
      AllHanded L connectionId (before.filterMap (underAccount userId dbAccounts)) w') ?_
    ⟨h, fun _ ht ↦ absurd ht (by simp)⟩
  rintro before t after synced w' - ⟨hread, hhanded⟩
  rw [List.filterMap_append]
  split
  · rename_i hunknown
    have hnone : [t].filterMap (underAccount userId dbAccounts) = [] := by
      simp [underAccount, hunknown]
    rw [hnone, List.append_nil]
    exact ⟨hread, hhanded⟩
  · rename_i accountId hmapped
    have hsome : [t].filterMap (underAccount userId dbAccounts) =
        [{ t with userId := some userId, accountId := accountId }] := by
      simp [underAccount, hmapped]
    rw [hsome]
    refine ensures_bind.2 (ensures_ask_alone.2 fun e _ ↦ ?_)
    have hnext := hhanded.upsertTransaction
      { t with userId := some userId, accountId := accountId } e
    split <;> exact ⟨hread.exec ⟨rfl, by simp⟩ e, hnext⟩

end Loops

/-! ### A whole sync -/

section Sync

variable {L : Locale} {R : Timestamp → Timestamp → Prop} {userId : Uuid}
  {connection : ProviderConnection} {accounts dbAccounts : List Account}
  {registered : String → Bool} {w : World}

/-- The calls after the loops take nothing back. -/
theorem AllDelivered.exec (h : AllDelivered L userId connection.id accounts w) {call : ServiceCall}
    (hcall : LateCall call) (e : Reply) :
    AllDelivered L userId connection.id accounts (exec L call e w).1 := by
  obtain ⟨reported, hreported, hall⟩ := h
  refine ⟨reported, (reportedTransactions_exec hcall.2).trans hreported, fun t ht p hp husable ↦ ?_⟩
  obtain ⟨accountId, haccount, hhanded⟩ := hall t ht p hp (husable.of_exec hcall.1)
  exact ⟨accountId, (IsAccountOf.exec hcall.1 e).2 haccount, hhanded.exec hcall.1 e⟩

theorem ensures_of_late {α : Type} {p : ServiceProgram α} (hp : p.Calls LateCall)
    (h : AllDelivered L userId connection.id accounts w) :
    p.Ensures (inTime L R) (fun _ w' ↦ AllDelivered L userId connection.id accounts w') w :=
  hp.ensures_alone (fun _ _ e hs hcall _ ↦ hs.exec hcall e) h

/-- A program that ends in an error promises nothing. -/
theorem ensures_error {α ε β : Type} {p : ServiceProgram α} {err : ε} {Q : World → Prop} :
    (do let _ ← p; return .error err : ServiceProgram (Except ε β)).Ensures (inTime L R)
      (fun result w' ↦ result.isOk = true → Q w') w :=
  ensures_bind.2 ((ensures_alone_trivial p).imp fun _ _ _ hok ↦ absurd hok Bool.false_ne_true)

/-- Everything that the loop of a Plaid sync has handed over is delivered. -/
theorem allDelivered_of_mapToAccount {reported : List Transaction}
    (h : ReadBack L userId connection.id accounts (accountMapping dbAccounts) [reported] w)
    (hhanded : AllHanded L connection.id (((reported.map (mapToAccount dbAccounts)).map
      fun t ↦ { t with userId := some userId }).filter fun t ↦ t.accountId ≠ 0) w) :
    AllDelivered L userId connection.id accounts w := by
  refine ⟨reported, h.reported_eq, fun t ht p hp husable ↦ ?_⟩
  obtain ⟨accountId, hmapped, hnil, haccount⟩ := h.mapped p husable
  have hmap : mapToAccount dbAccounts t = { t with accountId := accountId } := by
    rw [mapToAccount, hp, Option.bind_some, hmapped]
  refine ⟨accountId, haccount, hhanded _ (List.mem_filter.2 ⟨?_, decide_eq_true hnil⟩) haccount⟩
  exact List.mem_map.2 ⟨_, List.mem_map_of_mem ht, by rw [hmap]⟩

/-- Everything that the loop of a Teller sync has handed over is delivered. -/
theorem allDelivered_of_underAccount {reported : List Transaction}
    (h : ReadBack L userId connection.id accounts (accountMapping dbAccounts) [reported] w)
    (hhanded : AllHanded L connection.id (reported.filterMap (underAccount userId dbAccounts)) w) :
    AllDelivered L userId connection.id accounts w := by
  refine ⟨reported, h.reported_eq, fun t ht p hp husable ↦ ?_⟩
  obtain ⟨accountId, hmapped, -, haccount⟩ := h.mapped p husable
  have hunder : underAccount userId dbAccounts t =
      some { t with userId := some userId, accountId := accountId } := by
    rw [underAccount, hp, Option.bind_some, hmapped, Option.map_some]
  exact ⟨accountId, haccount, hhanded _ (List.mem_filterMap.2 ⟨t, ht, hunder⟩) haccount⟩

theorem ensures_syncProviderTransactions_delivered {credentials : ProviderCredentials}
    {syncTimestamp : Timestamp} {window : NaiveDate × NaiveDate}
    (h : Unread L userId connection.id accounts w) :
    (syncProviderTransactions registered userId credentials connection syncTimestamp window).Ensures
      (inTime L R) (fun result w' ↦ result.isOk = true →
        AllDelivered L userId connection.id accounts w') w := by
  refine ensures_bind.2 (ensures_getAccountsForUser h
    (fun _ _ hok ↦ absurd hok Bool.false_ne_true) fun dbAccounts w₁ hread ↦ ?_)
  have h₁ := hread (fun _ ↦ true) fun _ _ ↦ rfl
  rw [List.filter_true] at h₁
  refine ensures_bind.2 (ensures_bind.2 (ensures_readBack h₁ ⟨rfl, by simp⟩ fun now w₂ h₂ ↦ ?_))
  dsimp only
  split
  · refine ensures_bind.2 (ensures_getTransactions_reported h₂ (fun _ _ ↦ ensures_error)
      fun transactions w₃ h₃ ↦ ?_)
    refine ensures_bind.2 ((ensures_persistTransactions h₃).imp fun persisted w₄ h₄ ↦ ?_)
    have hdelivered := allDelivered_of_mapToAccount h₄.1 h₄.2
    refine ensures_bind.2 ((ensures_of_late (calls_finishProviderSync ⟨rfl, by simp⟩ ⟨rfl, by simp⟩
      ⟨rfl, by simp⟩ fun _ _ ↦ ⟨rfl, by simp⟩) hdelivered).imp fun _ w₅ h₅ ↦ ?_)
    exact fun _ ↦ h₅
  · exact ensures_error

theorem ensures_syncProviderConnection_delivered {provider : String}
    (h : Unread L userId connection.id accounts w) :
    (syncProviderConnection registered provider userId connection).Ensures (inTime L R)
      (fun result w' ↦ result.isOk = true → AllDelivered L userId connection.id accounts w') w := by
  refine ensures_bind.2 (ensures_unread h ⟨trivial, by simp⟩ fun _ w₁ h₁ ↦ ?_)
  refine ensures_bind.2 (ensures_unread h₁ ⟨trivial, by simp⟩ fun _ w₂ h₂ ↦ ?_)
  refine ensures_bind.2 (ensures_unread h₂ ⟨trivial, by simp⟩ fun answer w₃ h₃ ↦ ?_)
  split
  · exact fun hok ↦ absurd hok Bool.false_ne_true
  · exact fun hok ↦ absurd hok Bool.false_ne_true
  · split
    · refine ensures_bind.2 (ensures_unread h₃ ⟨trivial, by simp⟩ fun answer w₄ h₄ ↦ ?_)
      split
      · exact ensures_error
      · refine ensures_bind.2 ((ensures_of_early (calls_persistAccounts
          (fun _ ↦ ⟨⟨rfl, rfl⟩, by simp⟩) _) h₄).imp fun _ w₅ h₅ ↦ ?_)
        exact ensures_syncProviderTransactions_delivered h₅
    · exact fun hok ↦ absurd hok Bool.false_ne_true

theorem ensures_syncTellerConnection_delivered (h : Unread L userId connection.id accounts w) :
    (syncTellerConnection registered userId connection).Ensures (inTime L R)
      (fun result w' ↦ result.isOk = true → AllDelivered L userId connection.id accounts w') w := by
  refine ensures_bind.2 (ensures_unread h ⟨trivial, by simp⟩ fun _ w₁ h₁ ↦ ?_)
  refine ensures_bind.2 (ensures_unread h₁ ⟨trivial, by simp⟩ fun _ w₂ h₂ ↦ ?_)
  refine ensures_bind.2 (ensures_unread h₂ ⟨trivial, by simp⟩ fun answer w₃ h₃ ↦ ?_)
  split
  · exact fun hok ↦ absurd hok Bool.false_ne_true
  · exact fun hok ↦ absurd hok Bool.false_ne_true
  · split
    · refine ensures_bind.2 (ensures_unread h₃ ⟨trivial, by simp⟩ fun answer w₄ h₄ ↦ ?_)
      split
      · exact ensures_error
      · refine ensures_bind.2 ((ensures_of_early (calls_persistAccounts
          (fun _ ↦ ⟨⟨rfl, rfl⟩, by simp⟩) _) h₄).imp fun _ w₅ h₅ ↦ ?_)
        refine ensures_bind.2 (ensures_unread h₅ ⟨trivial, by simp⟩ fun _ w₆ h₆ ↦ ?_)
        refine ensures_bind.2 (ensures_getAccountsForUser h₆
          (fun _ _ hok ↦ absurd hok Bool.false_ne_true) fun dbAccounts w₇ hread ↦ ?_)
        have h₇ := hread (fun a ↦ a.providerConnectionId = some connection.id)
          fun _ ha ↦ decide_eq_true ha
        refine ensures_bind.2 (ensures_getTransactions_reported h₇ (fun _ _ ↦ ensures_error)
          fun transactions w₈ h₈ ↦ ?_)
        refine ensures_bind.2 ((ensures_persistTellerTransactions h₈).imp fun synced w₉ h₉ ↦ ?_)
        have hdelivered := allDelivered_of_underAccount h₉.1 h₉.2
        refine (ensures_of_late (calls_finishTellerSync ⟨rfl, by simp⟩ ⟨rfl, by simp⟩
          ⟨rfl, by simp⟩ ⟨rfl, by simp⟩ fun _ _ ↦ ⟨rfl, by simp⟩) hdelivered).imp fun _ w₁₀ h₁₀ ↦ ?_
        exact fun _ ↦ h₁₀
    · exact fun hok ↦ absurd hok Bool.false_ne_true

/-- **What a sync delivers**, of either kind. -/
theorem ensures_syncConnection_delivered (h : Unread L userId connection.id accounts w) :
    (syncConnection registered userId connection).Ensures (inTime L R)
      (fun result w' ↦ result.isOk = true → AllDelivered L userId connection.id accounts w') w := by
  rw [syncConnection]
  split
  · refine ensures_bind.2 ((ensures_syncTellerConnection_delivered h).imp fun result w' h' ↦ ?_)
    cases result <;> exact h'
  · refine ensures_bind.2 ((ensures_syncProviderConnection_delivered h).imp fun result w' h' ↦ ?_)
    cases result <;> exact h'

end Sync

/-- A clock of which nothing is known. -/
def AnyTime : Timestamp → Timestamp → Prop :=
  fun _ _ ↦ True

instance : IsPreorder Timestamp AnyTime where
  refl _ := trivial
  trans _ _ _ _ _ := trivial

/-- **What a sync stores.** Let a stored connection be synced on any database, whatever the clock,
the provider and the database answer. If the sync fails, `last_sync_at` is as it was. If it returns,
the provider was asked for transactions once, and every reported transaction of a usable account was
handed to the database under an account of the connection; if the database accepted it, and did not
have its provider transaction id elsewhere, it is stored under an account of the connection at the
end, or the sync has judged it a duplicate. -/
theorem sync_complete (L : Locale) (registered : String → Bool) (userId : Uuid) (db : Database)
    {connection : ProviderConnection} (hconn : connection ∈ db.providerConnections)
    (env : ℕ → Reply) :
    let run := (syncConnection registered userId connection).run (exec L) env ⟨db.toStore, 0, []⟩
    (run.2.1.isOk = false → lastSyncOf connection.id run.1.db = connection.lastSyncAt) ∧
      (run.2.1.isOk = true → AllDelivered L userId connection.id db.accounts run.1) := by
  intro run
  constructor
  · intro hfailed
    have hstart : Underway AnyTime connection connection.lastSyncAt [] 0 ⟨db.toStore, 0, []⟩ :=
      ⟨stored_of_mem hconn, rfl, trivial⟩
    have hleaves : ∃ syncTimestamp, AnyTime 0 syncTimestamp ∧
        SyncLeaves AnyTime connection syncTimestamp run.2.1.isOk run.1 :=
      run_of_ensures_always (ensures_syncConnection_leaves hstart)
    rw [hfailed] at hleaves
    obtain ⟨_, -, _, hunder⟩ := hleaves
    exact hunder.stored.lastSyncOf_eq
  · have hstart : Unread L userId connection.id db.accounts ⟨db.toStore, 0, []⟩ :=
      ⟨accountsSettled_start db.toStore 0, rfl⟩
    have hdelivered : (syncConnection registered userId connection).Ensures
        (inTime L AnyTime) _ _ :=
      ensures_syncConnection_delivered hstart
    exact run_of_ensures_always hdelivered

/-- A purchase of 5.00 on the checking account, as a provider reports it. -/
def reportedPurchase : Transaction :=
  { (checkingTransaction 1 (-1) 500).toTransaction with
    providerAccountId := some "acc-1"
    providerTransactionId := some "txn-1" }

/-- The answers of an environment that reports the checking account and the purchase, and whose
database is up for the calls that a condition picks. -/
def purchaseReply (up : ℕ → Bool) (n : ℕ) : Reply :=
  { quietReply with
    databaseUp := up n
    accounts := .ok [checkingAccount]
    transactions := .ok [reportedPurchase] }

/-- A sync that brings the purchase in. -/
theorem sync_complete_purchase :
    AllDelivered Locale.c 7 5 connectedDatabase.accounts
      ((syncConnection (fun _ ↦ true) 7 checkingConnection).run (exec Locale.c)
        (purchaseReply fun _ ↦ true) ⟨connectedDatabase.toStore, 0, []⟩).1 :=
  (sync_complete Locale.c (fun _ ↦ true) 7 connectedDatabase (List.mem_singleton.2 rfl)
    (purchaseReply fun _ ↦ true)).2 (by decide)

/-- **A lost purchase.** The database is down for the one call that stores the purchase. The sync
returns and moves `last_sync_at`, and the purchase, on an account that it has written, is not
stored. -/
theorem sync_loses_purchase :
    let run := (syncConnection (fun _ ↦ true) 7 checkingConnection).run (exec Locale.c)
      (purchaseReply fun n ↦ n ≠ 8) ⟨connectedDatabase.toStore, 0, []⟩
    run.2.1.isOk = true ∧ lastSyncOf 5 run.1.db = some 0 ∧
      (writtenAccounts run.1.calls).map Account.providerAccountId = [some "acc-1"] ∧
      reportedTransactions run.1.calls = [[reportedPurchase]] ∧ run.1.db.transactions = [] := by
  decide

end Sumurai
