import Sumurai.Connection.Records
import Sumurai.Connection.Sync

/-!
# What a sync does to the last sync of its connection

A sync touches the `last_sync_at` of its connection at its end only. `Underway` is the invariant of
a sync that is under way: the record is stored with the `last_sync_at` it had at the start, and the
windows that were asked for are known. Every call but a save and a request for transactions keeps it
(`ServiceCall.quiet`), which leaves four steps to follow through the two programs: a reading of
the clock, a request, the save of an error and the save at the end.

`SyncLeaves` is the outcome. A sync that fails leaves `last_sync_at` as it was. One that returns has
asked for one window, reckoned from the old `last_sync_at`, and leaves either the old one, if the
save failed, or the time it took at the start.

Where the order of the readings of the clock matters it is a relation `R` that the readings follow:
`≤` for a clock that does not go back, and the relation that always holds for any clock.
-/

open Program

namespace Sumurai

/-- The record of a connection is stored, with a `last_sync_at`. -/
structure Stored (connection : ProviderConnection) (lastSyncAt : Option Timestamp) (db : Store) :
    Prop where
  exists_record : ∃ r ∈ db.providerConnections, r.id = connection.id
  record : ∀ r ∈ db.providerConnections, r.id = connection.id →
    r.itemId = connection.itemId ∧ r.lastSyncAt = lastSyncAt

/-- The `last_sync_at` of the record of a connection. -/
def lastSyncOf (connectionId : Uuid) (db : Store) : Option Timestamp :=
  (getProviderConnectionById db connectionId).bind ProviderConnection.lastSyncAt

/-- The windows that the provider was asked for. -/
def requestedWindows (calls : List CallMade) : List (NaiveDate × NaiveDate) :=
  calls.filterMap fun m ↦
    match m.call with
    | .getTransactions _ startDate endDate => some (startDate, endDate)
    | _ => none

/-- A call that leaves the connections alone and asks for no transactions. -/
def ServiceCall.quiet : ServiceCall → Bool
  | .saveProviderConnection _ => false
  | .deleteProviderConnection _ _ => false
  | .getTransactions _ _ _ => false
  | _ => true

section Stored

variable {L : Locale} {connection : ProviderConnection} {lastSyncAt : Option Timestamp}
  {db db' : Store}

theorem stored_of_mem {db : Database} (h : connection ∈ db.providerConnections) :
    Stored connection connection.lastSyncAt db.toStore := by
  refine ⟨⟨connection, h, rfl⟩, fun r hr hid ↦ ?_⟩
  obtain rfl := List.inj_on_of_nodup_map db.keyed.providerConnections_pkey hr h hid
  exact ⟨rfl, rfl⟩

theorem Stored.load (h : Stored connection lastSyncAt db) :
    ∃ r, getProviderConnectionById db connection.id = some r ∧ r.id = connection.id ∧
      r.itemId = connection.itemId ∧ r.lastSyncAt = lastSyncAt := by
  obtain ⟨r₀, hr₀, hid₀⟩ := h.exists_record
  rcases hfind : getProviderConnectionById db connection.id with - | r
  · exact absurd hid₀ (by simpa using List.find?_eq_none.1 hfind r₀ hr₀)
  · have hid : r.id = connection.id := by simpa using List.find?_some hfind
    exact ⟨r, rfl, hid, h.record r (List.mem_of_find?_eq_some hfind) hid⟩

theorem Stored.lastSyncOf_eq (h : Stored connection lastSyncAt db) :
    lastSyncOf connection.id db = lastSyncAt := by
  obtain ⟨r, hload, -, -, hlast⟩ := h.load
  rw [lastSyncOf, hload, Option.bind_some, hlast]

theorem Stored.congr (h : Stored connection lastSyncAt db)
    (heq : db'.providerConnections = db.providerConnections) :
    Stored connection lastSyncAt db' := by
  refine ⟨?_, ?_⟩ <;> rw [heq]
  · exact h.exists_record
  · exact h.record

/-- A save of the connection updates its record. -/
theorem Stored.save {c : ProviderConnection} (h : Stored connection lastSyncAt db)
    (hitem : c.itemId = connection.itemId) :
    ∃ db', saveProviderConnection db c = .ok db' ∧ Stored connection c.lastSyncAt db' := by
  obtain ⟨r₀, hr₀, hid₀⟩ := h.exists_record
  have hany : (db.providerConnections.any fun r ↦ r.itemId = c.itemId) = true :=
    List.any_eq_true.2 ⟨r₀, hr₀, decide_eq_true ((h.record r₀ hr₀ hid₀).1.trans hitem.symm)⟩
  refine ⟨_, by rw [saveProviderConnection, if_pos hany], ⟨?_, fun r' hr' hid ↦ ?_⟩⟩
  · refine ⟨_, List.mem_map_of_mem hr₀, ?_⟩
    split <;> exact hid₀
  · obtain ⟨r, hr, rfl⟩ := List.mem_map.1 hr'
    by_cases hsame : r.itemId = c.itemId
    · rw [if_pos hsame]
      exact ⟨hitem, rfl⟩
    · rw [if_neg hsame] at hid
      exact absurd ((h.record r hr hid).1.trans hitem.symm) hsame

theorem ServiceCall.keepsConnections_of_quiet {call : ServiceCall} (hquiet : call.quiet = true) :
    call.keepsConnections = true := by
  cases call <;> first | rfl | exact absurd hquiet Bool.false_ne_true

theorem requestedWindows_append (calls calls' : List CallMade) :
    requestedWindows (calls ++ calls') = requestedWindows calls ++ requestedWindows calls' :=
  List.filterMap_append

end Stored

/-! ### A sync under way -/

/-- A program alone, on a clock whose readings follow `R`. -/
def inTime (L : Locale) (R : Timestamp → Timestamp → Prop) :
    Setting ServiceCall ServiceCall.Answer World Reply :=
  Setting.alone (exec L) fun w e ↦ R w.clock e.now

/-- What holds of a sync that is under way: the record, the windows that were asked for, and an
instant that has passed. -/
structure Underway (R : Timestamp → Timestamp → Prop) (connection : ProviderConnection)
    (lastSyncAt : Option Timestamp) (windows : List (NaiveDate × NaiveDate)) (since : Timestamp)
    (w : World) : Prop where
  stored : Stored connection lastSyncAt w.db
  windows_eq : requestedWindows w.calls = windows
  passed : R since w.clock

section Underway

variable {L : Locale} {R : Timestamp → Timestamp → Prop} [IsPreorder Timestamp R]
  {connection : ProviderConnection} {lastSyncAt : Option Timestamp}
  {windows : List (NaiveDate × NaiveDate)} {since : Timestamp} {w : World}

theorem Underway.exec {call : ServiceCall} {e : Reply}
    (h : Underway R connection lastSyncAt windows since w) (hquiet : call.quiet = true)
    (he : R w.clock e.now) :
    Underway R connection lastSyncAt windows since (exec L call e w).1 where
  stored := h.stored.congr (providerConnections_answer
    (ServiceCall.keepsConnections_of_quiet hquiet))
  windows_eq := by
    rw [Sumurai.exec, requestedWindows_append, h.windows_eq]
    cases call <;> first | exact List.append_nil _ | exact absurd hquiet Bool.false_ne_true
  passed := trans_of R h.passed he

/-- A quiet call. -/
theorem ensures_quiet {call : ServiceCall} {Q : call.Answer → World → Prop}
    (h : Underway R connection lastSyncAt windows since w) (hquiet : call.quiet = true)
    (hQ : ∀ a w', Underway R connection lastSyncAt windows since w' → Q a w') :
    (perform call).Ensures (inTime L R) Q w :=
  ensures_ask_alone.2 fun _ he ↦ hQ _ _ (h.exec hquiet he)

/-- A program of quiet calls. -/
theorem ensures_of_quiet {α : Type} {p : ServiceProgram α} (hp : p.Calls fun c ↦ c.quiet = true)
    (h : Underway R connection lastSyncAt windows since w) :
    p.Ensures (inTime L R) (fun _ w' ↦ Underway R connection lastSyncAt windows since w') w :=
  hp.ensures_alone (fun _ _ _ hs hquiet he ↦ hs.exec hquiet he) h

/-- A reading of the clock is an instant that has passed. -/
theorem ensures_now {Q : Timestamp → World → Prop}
    (h : Underway R connection lastSyncAt windows since w)
    (hQ : ∀ t w', R since t → Underway R connection lastSyncAt windows t w' → Q t w') :
    (perform .now).Ensures (inTime L R) Q w := by
  refine ensures_ask_alone.2 fun e he ↦ hQ _ _ (trans_of R h.passed he) ?_
  have hnext : Underway R connection lastSyncAt windows since (exec L .now e w).1 := h.exec rfl he
  exact ⟨hnext.stored, hnext.windows_eq, refl_of R e.now⟩

/-- A request for transactions. -/
theorem ensures_getTransactions {credentials : ProviderCredentials} {window : NaiveDate × NaiveDate}
    {Q : Except String (List Transaction) → World → Prop}
    (h : Underway R connection lastSyncAt windows since w)
    (hQ : ∀ a w', Underway R connection lastSyncAt (windows ++ [window]) since w' → Q a w') :
    (perform (.getTransactions credentials window.1 window.2)).Ensures (inTime L R) Q w := by
  refine ensures_ask_alone.2 fun e he ↦ hQ _ _ ⟨h.stored, ?_, trans_of R h.passed he⟩
  rw [Sumurai.exec, requestedWindows_append, h.windows_eq]
  rfl

/-- A save of the connection: it fails and changes nothing, or its `last_sync_at` is stored. -/
theorem ensures_save {c : ProviderConnection} {Q : Except DbError Unit → World → Prop}
    (h : Underway R connection lastSyncAt windows since w) (hitem : c.itemId = connection.itemId)
    (herror : ∀ err w', Underway R connection lastSyncAt windows since w' → Q (.error err) w')
    (hok : ∀ w', Underway R connection c.lastSyncAt windows since w' → Q (.ok ()) w') :
    (perform (.saveProviderConnection c)).Ensures (inTime L R) Q w := by
  refine ensures_ask_alone.2 fun e he ↦ ?_
  have hwindows : ∀ r : Except DbError Unit,
      requestedWindows (w.calls ++ [⟨.saveProviderConnection c, w.db, r⟩]) = windows := by
    intro r
    rw [requestedWindows_append, h.windows_eq]
    exact List.append_nil _
  have hpassed : R since e.now := trans_of R h.passed he
  rcases unitStatement_cases e w.db (saveProviderConnection w.db c) with
    ⟨err, hanswer⟩ | ⟨db₁, hsave₁, hanswer⟩
  · rw [exec_of_answer (show answer L e w.db (.saveProviderConnection c) = _ from hanswer)]
    exact herror err _ ⟨h.stored, hwindows _, hpassed⟩
  · obtain ⟨db', hsave, hstored⟩ := h.stored.save hitem
    obtain rfl : db' = db₁ := Except.ok.inj (hsave.symm.trans hsave₁)
    rw [exec_of_answer (show answer L e w.db (.saveProviderConnection c) = _ from hanswer)]
    exact hok _ ⟨hstored, hwindows _, hpassed⟩

end Underway

/-! ### The outcome -/

/-- What a sync leaves that took `syncTimestamp` at its start. -/
def SyncLeaves (R : Timestamp → Timestamp → Prop) (connection : ProviderConnection)
    (syncTimestamp : Timestamp) (ok : Bool) (w : World) : Prop :=
  if ok then
    ∃ now, R syncTimestamp now ∧ ∃ lastSyncAt,
      (lastSyncAt = connection.lastSyncAt ∨ lastSyncAt = some syncTimestamp) ∧
        Underway R connection lastSyncAt [calculateSyncDateRange now connection.lastSyncAt] now w
  else ∃ windows, Underway R connection connection.lastSyncAt windows syncTimestamp w

section Outcome

variable {L : Locale} {R : Timestamp → Timestamp → Prop} [IsPreorder Timestamp R]
  {connection : ProviderConnection} {windows : List (NaiveDate × NaiveDate)}
  {since syncTimestamp : Timestamp} {w : World} {registered : String → Bool} {userId : Uuid}

/-- Recording an error saves `last_sync_at` as it was. -/
theorem ensures_recordConnectionError {message status : String}
    (h : Underway R connection connection.lastSyncAt windows since w) :
    (recordConnectionError connection message status).Ensures (inTime L R)
      (fun _ w' ↦ Underway R connection connection.lastSyncAt windows since w') w :=
  ensures_bind.2 (ensures_save h rfl (fun _ _ h' ↦ h') fun _ h' ↦ h')

theorem ensures_finishProviderSync {window : NaiveDate × NaiveDate} {accountCount : ℤ}
    {transactions : List Transaction}
    (h : Underway R connection connection.lastSyncAt windows since w) :
    (finishProviderSync userId connection syncTimestamp window accountCount transactions).Ensures
      (inTime L R) (fun _ w' ↦ ∃ lastSyncAt,
        (lastSyncAt = connection.lastSyncAt ∨ lastSyncAt = some syncTimestamp) ∧
          Underway R connection lastSyncAt windows since w') w := by
  refine ensures_bind.2 (ensures_quiet h rfl fun _ w₁ h₁ ↦ ?_)
  refine ensures_bind.2 ((ensures_of_quiet (calls_totalTransactions rfl) h₁).imp fun _ w₂ h₂ ↦ ?_)
  refine ensures_bind.2 (ensures_quiet h₂ rfl fun _ w₃ h₃ ↦ ?_)
  exact ensures_bind.2 (ensures_save h₃ rfl (fun _ _ h₄ ↦ ⟨_, Or.inl rfl, h₄⟩)
    fun _ h₄ ↦ ⟨_, Or.inr rfl, h₄⟩)

theorem ensures_syncProviderTransactions {credentials : ProviderCredentials}
    {window : NaiveDate × NaiveDate}
    (h : Underway R connection connection.lastSyncAt [] syncTimestamp w) :
    (syncProviderTransactions registered userId credentials connection syncTimestamp window).Ensures
      (inTime L R) (fun result ↦ SyncLeaves R connection syncTimestamp result.isOk) w := by
  refine ensures_bind.2 (ensures_quiet h rfl fun answer w₁ h₁ ↦ ?_)
  split
  · exact ⟨_, h₁⟩
  · -- the window is reckoned when the transactions are asked for
    refine ensures_bind.2 (ensures_bind.2 (ensures_now h₁ fun now w₂ hnow h₂ ↦ ?_))
    have hfailed : ∀ message windows w',
        Underway R connection connection.lastSyncAt windows now w' →
        (do
          recordConnectionError connection message (providerErrorStatus message)
          return .error (ProviderSyncError.syncFailure message) :
          ServiceProgram (Except ProviderSyncError SyncTransactionsResponse)).Ensures (inTime L R)
            (fun result ↦ SyncLeaves R connection syncTimestamp result.isOk) w' :=
      fun message windows w' h' ↦ ensures_bind.2 ((ensures_recordConnectionError h').imp
        fun _ w'' h'' ↦ ⟨windows, h''.stored, h''.windows_eq,
          trans_of R hnow h''.passed⟩)
    dsimp only
    split
    · refine ensures_bind.2 (ensures_getTransactions h₂ fun answer w₃ h₃ ↦ ?_)
      split
      · refine ensures_bind.2 ((ensures_of_quiet (calls_persistTransactions (fun _ ↦ rfl) _)
          h₃).imp fun _ w₄ h₄ ↦ ?_)
        refine ensures_bind.2 ((ensures_finishProviderSync h₄).imp fun _ w₅ h₅ ↦ ?_)
        exact ⟨now, hnow, h₅⟩
      · exact hfailed _ _ _ h₃
    · exact hfailed _ _ _ h₂

theorem ensures_syncProviderConnection {provider : String}
    (h : Underway R connection connection.lastSyncAt [] since w) :
    (syncProviderConnection registered provider userId connection).Ensures (inTime L R)
      (fun result w' ↦ ∃ syncTimestamp, R since syncTimestamp ∧
        SyncLeaves R connection syncTimestamp result.isOk w') w := by
  refine ensures_bind.2 (ensures_now h fun syncTimestamp w₁ hsync h₁ ↦ ?_)
  refine ensures_bind.2 (ensures_quiet h₁ rfl fun _ w₂ h₂ ↦ ?_)
  refine ensures_bind.2 (ensures_quiet h₂ rfl fun answer w₃ h₃ ↦ ?_)
  split
  · exact ⟨syncTimestamp, hsync, _, h₃⟩
  · exact ⟨syncTimestamp, hsync, _, h₃⟩
  · split
    · refine ensures_bind.2 (ensures_quiet h₃ rfl fun answer w₄ h₄ ↦ ?_)
      split
      · refine ensures_bind.2 ((ensures_recordConnectionError h₄).imp fun _ w₅ h₅ ↦ ?_)
        exact ⟨syncTimestamp, hsync, _, h₅⟩
      · refine ensures_bind.2 ((ensures_of_quiet (calls_persistAccounts (fun _ ↦ rfl) _) h₄).imp
          fun _ w₅ h₅ ↦ ?_)
        exact (ensures_syncProviderTransactions h₅).imp
          fun _ _ hleaves ↦ ⟨syncTimestamp, hsync, hleaves⟩
    · exact ⟨syncTimestamp, hsync, _, h₃⟩

theorem ensures_finishTellerSync {window : NaiveDate × NaiveDate} {accountCount : ℤ}
    {transactions : List Transaction} {now : Timestamp} (hnow : R syncTimestamp now)
    (h : Underway R connection connection.lastSyncAt
      [calculateSyncDateRange now connection.lastSyncAt] now w) :
    (finishTellerSync userId connection syncTimestamp window accountCount transactions).Ensures
      (inTime L R) (fun result ↦ SyncLeaves R connection syncTimestamp result.isOk) w := by
  refine ensures_bind.2 (ensures_quiet h rfl fun _ w₁ h₁ ↦ ?_)
  refine ensures_bind.2 (ensures_quiet h₁ rfl fun _ w₂ h₂ ↦ ?_)
  refine ensures_bind.2 ((ensures_of_quiet (calls_totalTransactions rfl) h₂).imp fun _ w₃ h₃ ↦ ?_)
  refine ensures_bind.2 (ensures_quiet h₃ rfl fun _ w₄ h₄ ↦ ?_)
  refine ensures_bind.2 (ensures_save h₄ rfl (fun _ w₅ h₅ ↦ ?_) fun w₅ h₅ ↦ ?_)
  · exact ⟨_, h₅.stored, h₅.windows_eq, trans_of R hnow h₅.passed⟩
  · exact ⟨now, hnow, _, Or.inr rfl, h₅⟩

theorem ensures_syncTellerConnection
    (h : Underway R connection connection.lastSyncAt [] since w) :
    (syncTellerConnection registered userId connection).Ensures (inTime L R)
      (fun result w' ↦ ∃ syncTimestamp, R since syncTimestamp ∧
        SyncLeaves R connection syncTimestamp result.isOk w') w := by
  refine ensures_bind.2 (ensures_now h fun syncTimestamp w₁ hsync h₁ ↦ ?_)
  refine ensures_bind.2 (ensures_now h₁ fun now w₂ hnow h₂ ↦ ?_)
  have hfailed : ∀ {windows : List (NaiveDate × NaiveDate)} {e : TellerSyncError} {w' : World},
      Underway R connection connection.lastSyncAt windows now w' →
        ∃ t, R since t ∧ SyncLeaves R connection t
          (Except.error e : Except TellerSyncError SyncTransactionsResponse).isOk w' :=
    fun h' ↦ ⟨syncTimestamp, hsync, _, h'.stored, h'.windows_eq,
      trans_of R hnow h'.passed⟩
  refine ensures_bind.2 (ensures_quiet h₂ rfl fun answer w₃ h₃ ↦ ?_)
  split
  · exact hfailed h₃
  · exact hfailed h₃
  · split
    · refine ensures_bind.2 (ensures_quiet h₃ rfl fun answer w₄ h₄ ↦ ?_)
      split
      · exact ensures_bind.2 ((ensures_recordConnectionError h₄).imp fun _ w₅ h₅ ↦ hfailed h₅)
      · refine ensures_bind.2 ((ensures_of_quiet (calls_persistAccounts (fun _ ↦ rfl) _) h₄).imp
          fun _ w₅ h₅ ↦ ?_)
        refine ensures_bind.2 (ensures_quiet h₅ rfl fun _ w₆ h₆ ↦ ?_)
        refine ensures_bind.2 (ensures_quiet h₆ rfl fun answer w₇ h₇ ↦ ?_)
        split
        · exact hfailed h₇
        · refine ensures_bind.2 (ensures_getTransactions h₇ fun answer w₈ h₈ ↦ ?_)
          split
          · exact ensures_bind.2 ((ensures_recordConnectionError h₈).imp fun _ w₉ h₉ ↦ hfailed h₉)
          · refine ensures_bind.2 ((ensures_of_quiet (calls_persistTellerTransactions
              (fun _ ↦ rfl) _ _) h₈).imp fun _ w₉ h₉ ↦ ?_)
            exact (ensures_finishTellerSync hnow h₉).imp
              fun _ _ hleaves ↦ ⟨syncTimestamp, hsync, hleaves⟩
    · exact hfailed h₃

/-- **What a sync leaves**, of either kind. -/
theorem ensures_syncConnection_leaves
    (h : Underway R connection connection.lastSyncAt [] since w) :
    (syncConnection registered userId connection).Ensures (inTime L R)
      (fun result w' ↦ ∃ syncTimestamp, R since syncTimestamp ∧
        SyncLeaves R connection syncTimestamp result.isOk w') w := by
  rw [syncConnection]
  split
  · refine ensures_bind.2 ((ensures_syncTellerConnection h).imp fun result w' hleaves ↦ ?_)
    cases result <;> exact hleaves
  · refine ensures_bind.2 ((ensures_syncProviderConnection h).imp fun result w' hleaves ↦ ?_)
    cases result <;> exact hleaves

end Outcome

end Sumurai
