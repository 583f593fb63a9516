import Mathlib.Data.List.Forall2
import Sumurai.Connection.Completeness

/-!
# Which transactions a sync reports

A sync returns the transactions that it has stored, or so its response says. The Teller sync passes
over a transaction whose write fails; the Plaid sync logs the failure and reports the transaction
all the same. Both write with an upsert on the provider transaction id, which leaves a row that is
there under the account it has, whoever's that is.

`Truthful` asks of a response that each of its transactions, in order, has a call of the run that
has written it under an account of the user. `truthful_iff` says for each of the two syncs which
runs answer truthfully, as a condition on the writes they make and the store each one finds.

Both proofs read the response off the log: what the Plaid sync reports is what it has tried to write
(`attempted`), what the Teller sync reports is what the database has accepted (`accepted`).
-/

open Program

namespace Sumurai

/-! ### Reports -/

section Reports

variable {α β : Type} {R : α → β → Prop} {f : β → Option α}

theorem sublist_filterMap_of_sublistForall₂ (hf : ∀ a b, R a b → f b = some a) {l : List α}
    {l' : List β} (h : List.SublistForall₂ R l l') : l.Sublist (l'.filterMap f) := by
  induction h with
  | nil => exact List.nil_sublist _
  | cons hab _ ih =>
    rw [List.filterMap_cons_some (hf _ _ hab)]
    exact ih.cons_cons _
  | @cons_right b _ l' _ ih =>
    rcases hb : f b with - | a
    · rw [List.filterMap_cons_none hb]
      exact ih
    · rw [List.filterMap_cons_some hb]
      exact ih.cons a

/-- A list of reports, one from each entry of a log that has one, is backed by the log exactly if
every entry backs its own. -/
theorem sublistForall₂_filterMap_iff (hf : ∀ a b, R a b → f b = some a) {l : List β} :
    List.SublistForall₂ R (l.filterMap f) l ↔ ∀ b ∈ l, ∀ a, f b = some a → R a b := by
  induction l with
  | nil => exact iff_of_true .nil (by simp)
  | cons b l ih =>
    rw [List.forall_mem_cons, ← ih]
    rcases hb : f b with - | a
    · rw [List.filterMap_cons_none hb]
      constructor
      · intro h
        refine ⟨nofun, ?_⟩
        generalize hl : l.filterMap f = reports at h ⊢
        cases h with
        | nil => exact .nil
        | cons hab _ => exact absurd (hf _ _ hab) (by simp [hb])
        | cons_right h => exact h
      · exact fun h ↦ h.2.cons_right
    · rw [List.filterMap_cons_some hb]
      constructor
      · intro h
        cases h with
        | cons hab h =>
          refine ⟨fun a' ha' ↦ ?_, h⟩
          obtain rfl := Option.some.inj ha'
          exact hab
        | cons_right h =>
          -- the entries that are left have too few reports
          have hlength := (sublist_filterMap_of_sublistForall₂ hf h).length_le
          rw [List.length_cons] at hlength
          omega
      · exact fun h ↦ .cons (h.1 a rfl) h.2

end Reports

/-! ### Where a transaction is stored -/

/-- The row has the provider transaction id of the transaction. -/
def HasProviderIdOf (t : Transaction) (r : TransactionRow) : Prop :=
  (r.providerTransactionId.isSome && r.providerTransactionId == t.providerTransactionId) = true

instance (t : Transaction) : DecidablePred (HasProviderIdOf t) := fun r ↦
  inferInstanceAs (Decidable ((r.providerTransactionId.isSome &&
    r.providerTransactionId == t.providerTransactionId) = true))

/-- An account of a user. -/
def IsAccountOfUser (userId accountId : Uuid) (accounts : List Account) : Prop :=
  ∃ a ∈ accounts, a.id = accountId ∧ a.userId = some userId

instance (userId accountId : Uuid) (accounts : List Account) :
    Decidable (IsAccountOfUser userId accountId accounts) :=
  inferInstanceAs (Decidable (∃ a ∈ accounts, a.id = accountId ∧ a.userId = some userId))

/-- The rows with the provider transaction id of a transaction are under accounts of the user. -/
def KnownToUser (userId : Uuid) (db : Store) (t : Transaction) : Prop :=
  ∀ r ∈ db.transactions, HasProviderIdOf t r → IsAccountOfUser userId r.accountId db.accounts

/-- The store takes up a transaction under an account of the user: in a row that has its provider
transaction id, or else in a new one, if its id is free. -/
def TakesUp (userId : Uuid) (db : Store) (t : Transaction) : Prop :=
  KnownToUser userId db t ∧ ((∃ r ∈ db.transactions, HasProviderIdOf t r) ∨
    t.id ∉ db.transactions.map TransactionRow.id ∧ IsAccountOfUser userId t.accountId db.accounts)

instance (userId : Uuid) (db : Store) (t : Transaction) : Decidable (KnownToUser userId db t) :=
  inferInstanceAs (Decidable (∀ r ∈ db.transactions, HasProviderIdOf t r → _))

instance (userId : Uuid) (db : Store) (t : Transaction) : Decidable (TakesUp userId db t) :=
  inferInstanceAs (Decidable (_ ∧ _))

/-- A transaction is stored, and only under accounts of the user. -/
def StoredFor (userId : Uuid) (db : Store) (t : Transaction) : Prop :=
  (∃ r ∈ db.transactions, IsRowOf t r) ∧
    ∀ r ∈ db.transactions, IsRowOf t r → IsAccountOfUser userId r.accountId db.accounts

section Upsert

variable {userId : Uuid} {db db' : Store} {now : Timestamp} {t : Transaction}

theorem hasProviderIdOf_iff {r : TransactionRow} :
    HasProviderIdOf t r ↔
      t.providerTransactionId.isSome = true ∧
      r.providerTransactionId = t.providerTransactionId := by
  rw [HasProviderIdOf, Bool.and_eq_true, beq_iff_eq]
  constructor
  · rintro ⟨hsome, heq⟩
    exact ⟨heq ▸ hsome, heq⟩
  · rintro ⟨hsome, heq⟩
    exact ⟨heq ▸ hsome, heq⟩

/-- **What an accepted upsert does**, for a known and for a new provider transaction id. -/
theorem upsertTransaction_ok_cases (hok : upsertTransaction db now t = .ok db') :
    (∃ f : TransactionRow → TransactionRow, (∃ r ∈ db.transactions, HasProviderIdOf t r) ∧
        db'.transactions = db.transactions.map f ∧ ∀ r, SameRow r (f r)) ∨
      (¬∃ r ∈ db.transactions, HasProviderIdOf t r) ∧
        t.id ∉ db.transactions.map TransactionRow.id ∧
          t.accountId ∈ db.accounts.map Account.id ∧
            ∃ r, db'.transactions = db.transactions ++ [r] ∧ IsRowOf t r ∧
              r.accountId = t.accountId := by
  rw [upsertTransaction] at hok
  split at hok
  · rename_i hany
    obtain rfl := Except.ok.inj hok
    refine Or.inl ⟨_, List.any_eq_true.1 hany, rfl, fun r ↦ ?_⟩
    split <;> exact ⟨rfl, rfl, rfl⟩
  · rename_i hany
    have hnew : ¬∃ r ∈ db.transactions, HasProviderIdOf t r := fun h ↦ hany (List.any_eq_true.2 h)
    split at hok
    · exact absurd hok (by simp)
    · rename_i hid
      split at hok
      · exact absurd hok (by simp)
      · rename_i haccount
        obtain rfl := Except.ok.inj hok
        exact Or.inr ⟨hnew, hid, not_not.1 haccount, _, rfl, ⟨rfl, fun _ ↦ rfl⟩, rfl⟩

/-- A transaction whose provider transaction id a row has is accepted. -/
theorem HasProviderIdOf.exists_ok {r : TransactionRow} (h : HasProviderIdOf t r)
    (hr : r ∈ db.transactions) (now : Timestamp) :
    ∃ db', upsertTransaction db now t = .ok db' := by
  have hany : (db.transactions.any fun r ↦ r.providerTransactionId.isSome &&
      r.providerTransactionId == t.providerTransactionId) = true :=
    List.any_eq_true.2 ⟨r, hr, h⟩
  rw [upsertTransaction, if_pos hany]
  exact ⟨_, rfl⟩

/-- A store that takes a transaction up accepts it. -/
theorem TakesUp.exists_ok (h : TakesUp userId db t) (now : Timestamp) :
    ∃ db', upsertTransaction db now t = .ok db' := by
  obtain ⟨-, ⟨r, hr, hknown⟩ | ⟨hid, a, ha, haid, -⟩⟩ := h
  · exact hknown.exists_ok hr now
  · have haccount : ¬t.accountId ∉ db.accounts.map Account.id :=
      not_not.2 (List.mem_map.2 ⟨a, ha, haid⟩)
    rw [upsertTransaction, if_neg hid, if_neg haccount]
    split
    · exact ⟨_, rfl⟩
    · exact ⟨_, rfl⟩

/-- **An accepted transaction is stored under the user's accounts** exactly if the store took it up
so. -/
theorem storedFor_iff (hok : upsertTransaction db now t = .ok db') :
    StoredFor userId db' t ↔ TakesUp userId db t := by
  have haccounts : db'.accounts = db.accounts := (upsertTransaction_frame hok).2.2
  rw [StoredFor, TakesUp, haccounts]
  rcases upsertTransaction_ok_cases hok with ⟨f, ⟨r₀, hr₀, hknown⟩, hdb, hf⟩ |
    ⟨hnew, hid, -, r', hdb, hrow, haccount⟩
  · obtain ⟨hsome, hid₀⟩ := hasProviderIdOf_iff.1 hknown
    -- the rows of the transaction are those with its provider transaction id
    have hrows : ∀ r, IsRowOf t (f r) ↔ HasProviderIdOf t r := by
      intro r
      rw [hasProviderIdOf_iff, and_iff_right hsome, ← (hf r).providerTransactionId]
      refine ⟨fun h ↦ h.providerTransactionId, fun h ↦ ⟨h, fun hnone ↦ ?_⟩⟩
      rw [hnone] at hsome
      exact absurd hsome Bool.false_ne_true
    rw [hdb, KnownToUser]
    constructor
    · rintro ⟨-, hall⟩
      refine ⟨fun r hr hr' ↦ ?_, Or.inl ⟨r₀, hr₀, hknown⟩⟩
      rw [← (hf r).accountId]
      exact hall _ (List.mem_map_of_mem hr) ((hrows r).2 hr')
    · rintro ⟨hall, -⟩
      refine ⟨⟨_, List.mem_map_of_mem hr₀, (hrows r₀).2 hknown⟩, fun r' hr' hrow ↦ ?_⟩
      obtain ⟨r, hr, rfl⟩ := List.mem_map.1 hr'
      rw [(hf r).accountId]
      exact hall r hr ((hrows r).1 hrow)
  · -- only the new row is one of the transaction
    have hold : ∀ r ∈ db.transactions, ¬IsRowOf t r := by
      intro r hr hrow
      rcases hp : t.providerTransactionId with - | p
      · exact hid (List.mem_map.2 ⟨r, hr, hrow.id hp⟩)
      · exact hnew ⟨r, hr, hasProviderIdOf_iff.2 ⟨by rw [hp]; rfl, hrow.providerTransactionId⟩⟩
    have hhome : KnownToUser userId db t := fun r hr hr' ↦ absurd ⟨r, hr, hr'⟩ hnew
    rw [hdb, or_iff_right hnew, and_iff_right hid, and_iff_right hhome, ← haccount]
    constructor
    · rintro ⟨-, hall⟩
      exact hall r' (List.mem_append_right _ (List.mem_singleton.2 rfl)) hrow
    · intro hown
      refine ⟨⟨r', List.mem_append_right _ (List.mem_singleton.2 rfl), hrow⟩, fun r hr hr' ↦ ?_⟩
      rcases List.mem_append.1 hr with hr | hr
      · exact absurd hr' (hold r hr)
      · rw [List.mem_singleton.1 hr]
        exact hown

end Upsert

/-! ### The log -/

/-- A call that writes no transaction. -/
def WritesNone (call : ServiceCall) : Prop :=
  ∀ t, call ≠ .upsertTransaction t

/-- The transaction that a call tries to write. -/
def attempted (m : CallMade) : Option Transaction :=
  match m.call with
  | .upsertTransaction t => some t
  | _ => none

/-- The transaction that a call writes, if the database accepts it. -/
def accepted : CallMade → Option Transaction
  | ⟨.upsertTransaction t, _, .ok ()⟩ => some t
  | _ => none

/-- The call has written the transaction, under an account of the user. -/
def WroteFor (userId : Uuid) (t : Transaction) (m : CallMade) : Prop :=
  accepted m = some t ∧ ∃ now db', upsertTransaction m.db now t = .ok db' ∧ StoredFor userId db' t

/-- Each transaction of a response, in order, has a call of the run that has written it under an
account of the user. -/
def Truthful (userId : Uuid) (response : SyncTransactionsResponse) (calls : List CallMade) : Prop :=
  List.SublistForall₂ (WroteFor userId) response.transactions calls

/-- A write of a transaction is made on a database that answers, and the store takes the transaction
up under an account of the user. -/
def Lands (userId : Uuid) (w : World) : ServiceCall → Reply → Prop
  | .upsertTransaction t, e => e.databaseUp = true ∧ TakesUp userId w.db t
  | _, _ => True

/-- A write of a transaction that is made on a database that answers meets no row with its provider
transaction id under an account that is not the user's. -/
def StaysHome (userId : Uuid) (w : World) : ServiceCall → Reply → Prop
  | .upsertTransaction t, e => e.databaseUp = true → KnownToUser userId w.db t
  | _, _ => True

instance (userId : Uuid) (w : World) (call : ServiceCall) (e : Reply) :
    Decidable (Lands userId w call e) := by
  induction call using ServiceCall.casesOn <;> unfold Lands <;> infer_instance

instance (userId : Uuid) (w : World) (call : ServiceCall) (e : Reply) :
    Decidable (StaysHome userId w call e) := by
  induction call using ServiceCall.casesOn <;> unfold StaysHome <;> infer_instance

section Log

variable {L : Locale} {userId : Uuid} {w : World} {t : Transaction} {m : CallMade}

theorem wroteFor_iff : WroteFor userId t m ↔ accepted m = some t ∧ TakesUp userId m.db t := by
  refine and_congr_right fun _ ↦ ⟨?_, fun h ↦ ?_⟩
  · rintro ⟨now, db', hok, hstored⟩
    exact (storedFor_iff hok).1 hstored
  · obtain ⟨db', hok⟩ := h.exists_ok 0
    exact ⟨0, db', hok, (storedFor_iff hok).2 h⟩

theorem attempted_of_writesNone (h : WritesNone m.call) : attempted m = none := by
  obtain ⟨call, db, result⟩ := m
  cases call <;> first | rfl | exact absurd rfl (h _)

theorem accepted_of_writesNone (h : WritesNone m.call) : accepted m = none := by
  obtain ⟨call, db, result⟩ := m
  cases call <;> first | rfl | exact absurd rfl (h _)

/-- What a write leaves in the log. -/
theorem upsertTransaction_entry (e : Reply) (db : Store) (t : Transaction) :
    (accepted ⟨.upsertTransaction t, db, (answer L e db (.upsertTransaction t)).2⟩ = none ∧
        ((e.databaseUp = true) → ∀ db', upsertTransaction db e.now t ≠ .ok db')) ∨
      accepted ⟨.upsertTransaction t, db, (answer L e db (.upsertTransaction t)).2⟩ = some t ∧
        e.databaseUp = true ∧ ∃ db', upsertTransaction db e.now t = .ok db' := by
  rcases hup : e.databaseUp with - | -
  · have hanswer : answer L e db (.upsertTransaction t) = (db, .error .unavailable) :=
      if_neg (by rw [hup]; exact Bool.false_ne_true)
    rw [hanswer]
    exact Or.inl ⟨rfl, nofun⟩
  · have hanswer : answer L e db (.upsertTransaction t) = _ := if_pos hup
    rw [hanswer]
    rcases upsertTransaction db e.now t with err | db'
    · exact Or.inl ⟨rfl, nofun⟩
    · exact Or.inr ⟨rfl, rfl, db', rfl⟩

/-- A write lands exactly if the log shows it to have been carried out for the user. -/
theorem lands_iff (call : ServiceCall) (e : Reply) :
    Lands userId w call e ↔ ∀ t, attempted ⟨call, w.db, (answer L e w.db call).2⟩ = some t →
      WroteFor userId t ⟨call, w.db, (answer L e w.db call).2⟩ := by
  cases call with
  | upsertTransaction t =>
    rw [show (∀ t', attempted _ = some t' → WroteFor userId t' _) ↔ WroteFor userId t _ from
      ⟨fun h ↦ h t rfl, fun h t' ht' ↦ Option.some.inj ht' ▸ h⟩, wroteFor_iff]
    rcases upsertTransaction_entry (L := L) e w.db t with ⟨hnone, hfails⟩ | ⟨hsome, hup, -⟩
    · rw [hnone]
      refine iff_of_false (fun h ↦ ?_) (fun h ↦ absurd h.1 nofun)
      obtain ⟨db', hok⟩ := h.2.exists_ok e.now
      exact hfails h.1 db' hok
    · exact ⟨fun h ↦ ⟨hsome, h.2⟩, fun h ↦ ⟨hup, h.2⟩⟩
  | _ =>
    rw [attempted_of_writesNone (by simp [WritesNone])]
    exact iff_of_true trivial fun _ h ↦ absurd h nofun

/-- The same for a write that is accepted. -/
theorem staysHome_iff (call : ServiceCall) (e : Reply) :
    StaysHome userId w call e ↔ ∀ t, accepted ⟨call, w.db, (answer L e w.db call).2⟩ = some t →
      KnownToUser userId w.db t := by
  cases call with
  | upsertTransaction t =>
    rcases upsertTransaction_entry (L := L) e w.db t with ⟨hnone, hfails⟩ | ⟨hsome, hup, -⟩
    · rw [hnone]
      -- a write that is refused on a database that answers is of a new provider transaction id
      refine iff_of_true (fun hup r hr (hknown : HasProviderIdOf t r) ↦ ?_)
        fun _ hsome ↦ absurd hsome nofun
      obtain ⟨db', hok⟩ := hknown.exists_ok hr e.now
      exact absurd hok (hfails hup db')
    · rw [hsome]
      exact ⟨fun h t' ht' ↦ Option.some.inj ht' ▸ h hup, fun h _ ↦ h t rfl⟩
  | _ =>
    rw [accepted_of_writesNone (by simp [WritesNone])]
    exact iff_of_true trivial fun _ h ↦ absurd h nofun

end Log

/-! ### What the two syncs report -/

section Report

variable {L : Locale} {R : Timestamp → Timestamp → Prop} {userId : Uuid}
  {connection : ProviderConnection} {registered : String → Bool} {J : World → Prop} {w : World}

/-- Calls that write no transaction keep a property of the world. -/
def KeptByOthers (L : Locale) (J : World → Prop) : Prop :=
  ∀ w call e, WritesNone call → J w → J (exec L call e w).1

theorem ensures_perform_kept (hJ : KeptByOthers L J) {call : ServiceCall} (hcall : WritesNone call)
    (h : J w) {Q : call.Answer → World → Prop} (hQ : ∀ a w', J w' → Q a w') :
    (perform call).Ensures (inTime L R) Q w :=
  ensures_ask_alone.2 fun e _ ↦ hQ _ _ (hJ w call e hcall h)

theorem ensures_kept (hJ : KeptByOthers L J) {α : Type} {p : ServiceProgram α}
    (hp : p.Calls WritesNone) (h : J w) : p.Ensures (inTime L R) (fun _ w' ↦ J w') w :=
  hp.ensures_alone (fun w call e hs hcall _ ↦ hJ w call e hcall hs) h

theorem ensures_finishProviderSync_report (hJ : KeptByOthers L J) (h : J w)
    {syncTimestamp : Timestamp}
    {window : NaiveDate × NaiveDate} {accountCount : ℤ} {transactions : List Transaction} :
    (finishProviderSync userId connection syncTimestamp window accountCount transactions).Ensures
      (inTime L R) (fun response w' ↦ response.transactions = transactions ∧ J w') w := by
  refine ensures_bind.2 (ensures_perform_kept hJ (by simp [WritesNone]) h fun _ w h ↦ ?_)
  refine ensures_bind.2 ((ensures_kept hJ (calls_totalTransactions (by simp [WritesNone])) h).imp
    fun _ w h ↦ ?_)
  refine ensures_bind.2 (ensures_perform_kept hJ (by simp [WritesNone]) h fun _ w h ↦ ?_)
  exact ensures_bind.2 (ensures_perform_kept hJ (by simp [WritesNone]) h fun _ w h ↦ ⟨rfl, h⟩)

theorem ensures_finishTellerSync_report (hJ : KeptByOthers L J) (h : J w)
    {syncTimestamp : Timestamp}
    {window : NaiveDate × NaiveDate} {accountCount : ℤ} {transactions : List Transaction} :
    (finishTellerSync userId connection syncTimestamp window accountCount transactions).Ensures
      (inTime L R) (fun result w' ↦ ∀ response, result = .ok response →
        response.transactions = transactions ∧ J w') w := by
  refine ensures_bind.2 (ensures_perform_kept hJ (by simp [WritesNone]) h fun _ w h ↦ ?_)
  refine ensures_bind.2 (ensures_perform_kept hJ (by simp [WritesNone]) h fun _ w h ↦ ?_)
  refine ensures_bind.2 ((ensures_kept hJ (calls_totalTransactions (by simp [WritesNone])) h).imp
    fun _ w h ↦ ?_)
  refine ensures_bind.2 (ensures_perform_kept hJ (by simp [WritesNone]) h fun _ w h ↦ ?_)
  refine ensures_bind.2 (ensures_perform_kept hJ (by simp [WritesNone]) h fun answer w h ↦ ?_)
  split
  · exact fun response hresponse ↦ absurd hresponse nofun
  · intro response hresponse
    obtain rfl := Except.ok.inj hresponse
    exact ⟨rfl, h⟩

/-! The Plaid sync -/

/-- What a run has tried to write so far. -/
def Attempted (transactions : List Transaction) (w : World) : Prop :=
  w.calls.filterMap attempted = transactions

theorem attempted_keptByOthers (transactions : List Transaction) :
    KeptByOthers L (Attempted transactions) := by
  intro w call e hcall h
  have hnone := attempted_of_writesNone (m := ⟨call, w.db, (answer L e w.db call).2⟩) hcall
  rw [Attempted, exec, List.filterMap_append, h, List.filterMap_cons_none hnone]
  exact List.append_nil _

theorem Attempted.upsertTransaction {transactions : List Transaction}
    (h : Attempted transactions w) (t : Transaction) (e : Reply) :
    Attempted (transactions ++ [t]) (exec L (.upsertTransaction t) e w).1 := by
  rw [Attempted, exec, List.filterMap_append, h]
  rfl

/-- The loop reports what it has tried to write. -/
theorem ensures_persistTransactions_report {transactions : List Transaction} (h : Attempted [] w) :
    (persistTransactions transactions).Ensures (inTime L R) Attempted w := by
  refine Ensures.forEach (I := fun _ persisted w' ↦ Attempted persisted w') ?_ h
  rintro before t after persisted w' - hpersisted
  split
  · exact hpersisted
  · exact ensures_bind.2 (ensures_ask_alone.2 fun e _ ↦ hpersisted.upsertTransaction t e)

/-- A program that ends in an error reports nothing. -/
theorem ensures_error_report {α ε : Type} {p : ServiceProgram α} {err : ε}
    {Q : SyncTransactionsResponse → World → Prop} :
    (do let _ ← p; return .error err : ServiceProgram (Except ε SyncTransactionsResponse)).Ensures
      (inTime L R) (fun result w' ↦ ∀ response, result = .ok response → Q response w') w :=
  ensures_bind.2 ((ensures_alone_trivial p).imp fun _ _ _ _ h ↦ absurd h nofun)

/-- The fetching of transactions writes none. -/
theorem calls_syncBankConnectionTransactions (credentials : ProviderCredentials)
    (dbAccounts : List Account) :
    (syncBankConnectionTransactions registered credentials connection dbAccounts).Calls
      WritesNone := by
  refine (calls_perform (by simp [WritesNone])).bind fun now ↦ ?_
  dsimp only
  split
  · refine (calls_perform (by simp [WritesNone])).bind fun answer ↦ ?_
    split <;> exact calls_pure
  · exact calls_pure

/-- **A Plaid sync reports what it has tried to write.** -/
theorem ensures_syncProviderConnection_report {provider : String} (h : Attempted [] w) :
    (syncProviderConnection registered provider userId connection).Ensures (inTime L R)
      (fun result w' ↦ ∀ response, result = .ok response → Attempted response.transactions w')
      w := by
  have hkept := attempted_keptByOthers (L := L) []
  refine ensures_bind.2 (ensures_perform_kept hkept (by simp [WritesNone]) h fun _ w h ↦ ?_)
  refine ensures_bind.2 (ensures_perform_kept hkept (by simp [WritesNone]) h fun _ w h ↦ ?_)
  refine ensures_bind.2 (ensures_perform_kept hkept (by simp [WritesNone]) h fun found w h ↦ ?_)
  split
  · exact fun _ hresponse ↦ absurd hresponse nofun
  · exact fun _ hresponse ↦ absurd hresponse nofun
  split
  · refine ensures_bind.2 (ensures_perform_kept hkept (by simp [WritesNone]) h fun fetched w h ↦ ?_)
    split
    · exact ensures_error_report
    refine ensures_bind.2 ((ensures_kept hkept (calls_persistAccounts (by simp [WritesNone]) _)
      h).imp fun _ w h ↦ ?_)
    refine ensures_bind.2 (ensures_perform_kept hkept (by simp [WritesNone]) h fun read w h ↦ ?_)
    split
    · exact fun _ hresponse ↦ absurd hresponse nofun
    refine ensures_bind.2 ((ensures_kept hkept (calls_syncBankConnectionTransactions _ _) h).imp
      fun synced w h ↦ ?_)
    split
    · exact ensures_error_report
    refine ensures_bind.2 ((ensures_persistTransactions_report h).imp fun persisted w h ↦ ?_)
    refine ensures_bind.2 ((ensures_finishProviderSync_report (attempted_keptByOthers persisted)
      h).imp fun response w h ↦ ?_)
    intro response' hresponse
    obtain rfl := Except.ok.inj hresponse
    rw [h.1]
    exact h.2
  · exact fun _ hresponse ↦ absurd hresponse nofun

/-! The Teller sync -/

/-- What the database has accepted so far. Each write that met no row outside the user's accounts
was taken up under an account of the user. -/
structure Accepted (userId : Uuid) (transactions : List Transaction) (w : World) : Prop where
  accepted_eq : w.calls.filterMap accepted = transactions
  takesUp : ∀ m ∈ w.calls, ∀ t, accepted m = some t → KnownToUser userId m.db t →
    TakesUp userId m.db t

/-- The accounts of a mapping are the user's. -/
def MapsToUser (userId : Uuid) (accounts mapped : List Account) : Prop :=
  ∀ p accountId, accountMapping mapped p = some accountId →
    IsAccountOfUser userId accountId accounts

theorem accepted_keptByOthers (transactions : List Transaction) :
    KeptByOthers L (Accepted userId transactions) := by
  intro w call e hcall h
  have hnone := accepted_of_writesNone (m := ⟨call, w.db, (answer L e w.db call).2⟩) hcall
  constructor
  · rw [exec, List.filterMap_append, h.accepted_eq, List.filterMap_cons_none hnone]
    exact List.append_nil _
  · intro m hm t ht
    rcases List.mem_append.1 hm with hm | hm
    · exact h.takesUp m hm t ht
    · rw [List.mem_singleton.1 hm, hnone] at ht
      cases ht

/-- A write under an account of the user. -/
theorem Accepted.upsertTransaction {transactions : List Transaction}
    (h : Accepted userId transactions w) {t : Transaction}
    (haccount : IsAccountOfUser userId t.accountId w.db.accounts) (e : Reply) :
    Accepted userId (transactions ++
      (accepted ⟨.upsertTransaction t, w.db, (answer L e w.db (.upsertTransaction t)).2⟩).toList)
        (exec L (.upsertTransaction t) e w).1 := by
  constructor
  · rw [exec, List.filterMap_append, h.accepted_eq]
    rcases hentry : accepted ⟨.upsertTransaction t, w.db,
        (answer L e w.db (.upsertTransaction t)).2⟩ with - | t'
    · rw [List.filterMap_cons_none hentry]
      rfl
    · rw [List.filterMap_cons_some hentry]
      rfl
  · intro m hm t' ht' hhome
    rcases List.mem_append.1 hm with hm | hm
    · exact h.takesUp m hm t' ht' hhome
    · obtain rfl := List.mem_singleton.1 hm
      rcases upsertTransaction_entry (L := L) e w.db t with ⟨hnone, -⟩ | ⟨hsome, -, db', hok⟩
      · rw [hnone] at ht'
        cases ht'
      · obtain rfl := Option.some.inj (hsome.symm.trans ht')
        rcases upsertTransaction_ok_cases hok with ⟨-, hknown, -⟩ | ⟨-, hid, -⟩
        · exact ⟨hhome, Or.inl hknown⟩
        · exact ⟨hhome, Or.inr ⟨hid, haccount⟩⟩

/-- The accounts that a user reads are the user's. -/
theorem mapsToUser_getAccountsForUser (db : Store) (keep : Account → Bool) :
    MapsToUser userId db.accounts ((getAccountsForUser L db userId).filter keep) := by
  intro p accountId hmapped
  obtain ⟨a, ha, rfl⟩ := Option.map_eq_some_iff.1 hmapped
  have hread := (List.mem_filter.1 (List.mem_filter.1 (List.mem_of_getLast? ha)).1).1
  obtain ⟨r, hr, rfl⟩ := List.mem_map.1 hread
  obtain ⟨hmem, huser⟩ := (mem_accountRowsForUser L db userId).1 hr
  exact ⟨r, hmem, rfl, huser⟩

/-- Reading the accounts back, for what is mapped to them. -/
theorem ensures_getAccountsForUser_mapped {Q : Except DbError (List Account) → World → Prop}
    (h : Accepted userId [] w) (herror : ∀ err w', Q (.error err) w')
    (hok : ∀ dbAccounts w', Accepted userId [] w' →
      (∀ keep, MapsToUser userId w'.db.accounts (dbAccounts.filter keep)) →
        Q (.ok dbAccounts) w') :
    (perform (.getAccountsForUser userId)).Ensures (inTime L R) Q w := by
  refine ensures_ask_alone.2 fun e _ ↦ ?_
  have hnext := accepted_keptByOthers (L := L) [] w (.getAccountsForUser userId) e
    (by simp [WritesNone]) h
  rcases hup : e.databaseUp with - | -
  · have hanswer : answer L e w.db (.getAccountsForUser userId) = (w.db, .error .unavailable) :=
      if_neg (by rw [hup]; exact Bool.false_ne_true)
    rw [exec_of_answer hanswer]
    exact herror _ _
  · have hanswer : answer L e w.db (.getAccountsForUser userId) =
        (w.db, .ok (getAccountsForUser L w.db userId)) := if_pos hup
    rw [exec_of_answer hanswer] at hnext ⊢
    exact hok _ _ hnext fun keep ↦ mapsToUser_getAccountsForUser w.db keep

/-- The request for transactions leaves the accounts alone. -/
theorem ensures_getTransactions_mapped {credentials : ProviderCredentials}
    {window : NaiveDate × NaiveDate} {mapped : List Account}
    {Q : Except String (List Transaction) → World → Prop} (h : Accepted userId [] w)
    (hmapped : MapsToUser userId w.db.accounts mapped)
    (hQ : ∀ a w', Accepted userId [] w' → MapsToUser userId w'.db.accounts mapped → Q a w') :
    (perform (.getTransactions credentials window.1 window.2)).Ensures (inTime L R) Q w :=
  ensures_ask_alone.2 fun e _ ↦
    hQ _ _ (accepted_keptByOthers (L := L) [] w _ e (by simp [WritesNone]) h) hmapped

/-- The loop reports what the database has accepted. -/
theorem ensures_persistTellerTransactions_report {mapped : List Account}
    {transactions : List Transaction} (h : Accepted userId [] w)
    (hmapped : MapsToUser userId w.db.accounts mapped) :
    (persistTellerTransactions userId mapped transactions).Ensures (inTime L R)
      (Accepted userId) w := by
  have hloop : (persistTellerTransactions userId mapped transactions).Ensures (inTime L R)
      (fun synced w' ↦ Accepted userId synced w' ∧ MapsToUser userId w'.db.accounts mapped) w := by
    refine Ensures.forEach (I := fun _ synced w' ↦
      Accepted userId synced w' ∧ MapsToUser userId w'.db.accounts mapped) ?_ ⟨h, hmapped⟩
    rintro before t after synced w' - ⟨hsynced, hmapped'⟩
    split
    · exact ⟨hsynced, hmapped'⟩
    · rename_i accountId hfound
      obtain ⟨p, -, hp⟩ := Option.bind_eq_some_iff.1 hfound
      refine ensures_bind.2 (ensures_ask_alone.2 fun e _ ↦ ?_)
      have hnext := hsynced.upsertTransaction (L := L)
        (t := { t with userId := some userId, accountId := accountId }) (hmapped' p accountId hp) e
      have haccounts : MapsToUser userId (exec L (.upsertTransaction
          { t with userId := some userId, accountId := accountId }) e w').1.db.accounts mapped := by
        rw [exec, accounts_answer rfl]
        exact hmapped'
      -- the entry of the log is that of the answer
      split
      · rename_i err herror
        rw [show (answer L e w'.db (.upsertTransaction _)).2 = _ from herror] at hnext
        exact ⟨by simpa [accepted] using hnext, haccounts⟩
      · rename_i hok
        rw [show (answer L e w'.db (.upsertTransaction _)).2 = _ from hok] at hnext
        exact ⟨hnext, haccounts⟩
  exact hloop.imp fun _ _ h ↦ h.1

/-- **A Teller sync reports what the database has accepted.** -/
theorem ensures_syncTellerConnection_report (h : Accepted userId [] w) :
    (syncTellerConnection registered userId connection).Ensures (inTime L R)
      (fun result w' ↦ ∀ response, result = .ok response →
        Accepted userId response.transactions w') w := by
  have hkept : KeptByOthers L (Accepted userId []) := accepted_keptByOthers []
  refine ensures_bind.2 (ensures_perform_kept hkept (by simp [WritesNone]) h fun _ w h ↦ ?_)
  refine ensures_bind.2 (ensures_perform_kept hkept (by simp [WritesNone]) h fun _ w h ↦ ?_)
  refine ensures_bind.2 (ensures_perform_kept hkept (by simp [WritesNone]) h fun found w h ↦ ?_)
  split
  · exact fun _ hresponse ↦ absurd hresponse nofun
  · exact fun _ hresponse ↦ absurd hresponse nofun
  split
  · refine ensures_bind.2 (ensures_perform_kept hkept (by simp [WritesNone]) h fun fetched w h ↦ ?_)
    split
    · exact ensures_error_report
    refine ensures_bind.2 ((ensures_kept hkept (calls_persistAccounts (by simp [WritesNone]) _)
      h).imp fun _ w h ↦ ?_)
    refine ensures_bind.2 (ensures_perform_kept hkept (by simp [WritesNone]) h fun _ w h ↦ ?_)
    refine ensures_bind.2 (ensures_getAccountsForUser_mapped h (fun err w ↦ ?_)
      fun dbAccounts w h hmapped ↦ ?_)
    · exact fun _ hresponse ↦ absurd hresponse nofun
    have hown := hmapped fun a ↦ a.providerConnectionId = some connection.id
    refine ensures_bind.2 (ensures_getTransactions_mapped h hown fun answer w h hmapped ↦ ?_)
    split
    · exact ensures_error_report
    refine ensures_bind.2 ((ensures_persistTellerTransactions_report h hmapped).imp
      fun synced w h ↦ ?_)
    exact ensures_finishTellerSync_report (accepted_keptByOthers synced) h |>.imp
      fun result w h response hresponse ↦ by
        rw [(h response hresponse).1]
        exact (h response hresponse).2
  · exact fun _ hresponse ↦ absurd hresponse nofun

end Report

/-! ### The guarantee -/

section Guarantee

variable {L : Locale} {userId : Uuid} {db : Store} {env : ℕ → Reply} {ε : Type}
  {sync : ServiceProgram (Except ε SyncTransactionsResponse)}

/-- The run of a program of the service from a store, with an empty log. -/
abbrev runFrom (L : Locale) {α : Type} (p : ServiceProgram α) (env : ℕ → Reply) (db : Store) :
    World × α × (ℕ → Reply) :=
  p.run (exec L) env ⟨db, 0, []⟩

/-- If the sync returns, then with a truthful response. -/
def AnswersTruthfully (L : Locale) (userId : Uuid)
    (sync : ServiceProgram (Except ε SyncTransactionsResponse)) (env : ℕ → Reply) (db : Store) :
    Prop :=
  ∀ response, (runFrom L sync env db).2.1 = .ok response →
    Truthful userId response (runFrom L sync env db).1.calls

/-- A sync that reports what its log shows answers truthfully exactly if each report is backed by
its entry. -/
theorem answersTruthfully_iff {f : CallMade → Option Transaction}
    {G : World → ServiceCall → Reply → Prop} (hf : ∀ t m, WroteFor userId t m → f m = some t)
    (hreport : ∀ response, (runFrom L sync env db).2.1 = .ok response →
      (runFrom L sync env db).1.calls.filterMap f = response.transactions)
    (hG : ∀ response, (runFrom L sync env db).2.1 = .ok response →
      (sync.Along (exec L) G env ⟨db, 0, []⟩ ↔ ∀ m ∈ (runFrom L sync env db).1.calls, ∀ t,
        f m = some t → WroteFor userId t m)) :
    AnswersTruthfully L userId sync env db ↔
      ((runFrom L sync env db).2.1.isOk = true → sync.Along (exec L) G env ⟨db, 0, []⟩) := by
  have htruthful : ∀ response, (runFrom L sync env db).2.1 = .ok response →
      (Truthful userId response (runFrom L sync env db).1.calls ↔
        sync.Along (exec L) G env ⟨db, 0, []⟩) := by
    intro response hresponse
    rw [Truthful, ← hreport response hresponse, hG response hresponse]
    exact sublistForall₂_filterMap_iff hf
  constructor
  · intro h hok
    rcases hresult : (runFrom L sync env db).2.1 with err | response
    · rw [hresult] at hok
      exact absurd hok Bool.false_ne_true
    · exact (htruthful response hresult).1 (h response hresult)
  · intro h response hresponse
    exact (htruthful response hresponse).2 (h (by rw [hresponse]; rfl))

/-- A condition on the calls of a run, read off its log. -/
theorem along_iff_calls {α : Type} {p : ServiceProgram α} {G : World → ServiceCall → Reply → Prop}
    {C : CallMade → Prop}
    (hG : ∀ w call e, G w call e ↔ C ⟨call, w.db, (answer L e w.db call).2⟩) :
    p.Along (exec L) G env ⟨db, 0, []⟩ ↔ ∀ m ∈ (runFrom L p env db).1.calls, C m := by
  have hlog : ∀ (w : World) (call : ServiceCall) (e : Reply), (exec L call e w).1.calls =
      w.calls ++ [⟨call, w.db, (answer L e w.db call).2⟩] := fun _ _ _ ↦ rfl
  exact (along_congr hG).trans (along_iff_log hlog rfl)

theorem attempted_of_accepted {m : CallMade} {t : Transaction} (h : accepted m = some t) :
    attempted m = some t := by
  obtain ⟨call, db, result⟩ := m
  cases call with
  | upsertTransaction t' =>
    rcases result with err | ⟨⟩
    · exact absurd h nofun
    · exact h
  | _ =>
    rw [accepted_of_writesNone (by simp [WritesNone])] at h
    exact absurd h nofun

end Guarantee

/-- **When a sync answers truthfully.** A Plaid sync that returns, exactly if each of its writes
lands; a Teller sync that returns, exactly if none of its writes meets a row of someone else. -/
theorem truthful_iff (L : Locale) (registered : String → Bool) (provider : String) (userId : Uuid)
    (connection : ProviderConnection) (env : ℕ → Reply) (db : Store) :
    (AnswersTruthfully L userId (syncProviderConnection registered provider userId connection) env
        db ↔
      ((runFrom L (syncProviderConnection registered provider userId connection) env
          db).2.1.isOk = true →
        (syncProviderConnection registered provider userId connection).Along (exec L)
          (Lands userId) env ⟨db, 0, []⟩)) ∧
      (AnswersTruthfully L userId (syncTellerConnection registered userId connection) env db ↔
        ((runFrom L (syncTellerConnection registered userId connection) env db).2.1.isOk = true →
          (syncTellerConnection registered userId connection).Along (exec L) (StaysHome userId) env
            ⟨db, 0, []⟩)) := by
  constructor
  · have hreport : (syncProviderConnection registered provider userId connection).Ensures
        (inTime L AnyTime) _ ⟨db, 0, []⟩ := ensures_syncProviderConnection_report rfl
    have hattempted : ∀ response, (runFrom L (syncProviderConnection registered provider userId
        connection) env db).2.1 = .ok response → Attempted response.transactions _ :=
      run_of_ensures_always hreport
    refine answersTruthfully_iff (f := attempted) (fun t m h ↦ attempted_of_accepted h.1) hattempted
      fun response hresponse ↦ ?_
    exact along_iff_calls fun w call e ↦ lands_iff call e
  · have hstart : Accepted userId [] ⟨db, 0, []⟩ := ⟨rfl, by simp⟩
    have hreport : (syncTellerConnection registered userId connection).Ensures
        (inTime L AnyTime) _ ⟨db, 0, []⟩ := ensures_syncTellerConnection_report hstart
    have haccepted : ∀ response, (runFrom L (syncTellerConnection registered userId connection) env
        db).2.1 = .ok response → Accepted userId response.transactions _ :=
      run_of_ensures_always hreport
    refine answersTruthfully_iff (f := accepted) (fun t m h ↦ h.1)
      (fun response hresponse ↦ (haccepted response hresponse).accepted_eq)
      fun response hresponse ↦ ?_
    rw [along_iff_calls (C := fun m ↦ ∀ t, accepted m = some t → KnownToUser userId m.db t)
      fun w call e ↦ staysHome_iff call e]
    refine forall₂_congr fun m hm ↦ forall₂_congr fun t ht ↦ ?_
    rw [wroteFor_iff, and_iff_right ht]
    exact ⟨(haccepted response hresponse).takesUp m hm t ht, fun h ↦ h.1⟩

/-- **A purchase that is reported and not stored.** The database is down for the one call that
stores it. -/
theorem sync_reports_lostPurchase :
    ¬AnswersTruthfully Locale.c 7 (syncProviderConnection (fun _ ↦ true) "plaid" 7
      checkingConnection)
      (purchaseReply fun n ↦ n ≠ 8) connectedDatabase.toStore := by
  intro h
  have hresult : ((runFrom Locale.c (syncProviderConnection (fun _ ↦ true) "plaid" 7
      checkingConnection) (purchaseReply fun n ↦ n ≠ 8) connectedDatabase.toStore).2.1.map
        fun response ↦ response.transactions.length) = .ok 1 := by decide
  have hlog : (runFrom Locale.c (syncProviderConnection (fun _ ↦ true) "plaid" 7 checkingConnection)
      (purchaseReply fun n ↦ n ≠ 8) connectedDatabase.toStore).1.calls.filterMap accepted = [] := by
    decide
  rcases hresponse : (runFrom Locale.c (syncProviderConnection (fun _ ↦ true) "plaid" 7
      checkingConnection) (purchaseReply fun n ↦ n ≠ 8) connectedDatabase.toStore).2.1 with
    err | response
  · rw [hresponse] at hresult
    exact absurd hresult nofun
  · -- the report would need a write that the log does not have
    have hbacked := sublist_filterMap_of_sublistForall₂ (f := accepted) (fun t m h ↦ h.1)
      (h response hresponse)
    rw [hlog, List.sublist_nil] at hbacked
    rw [hresponse] at hresult
    have hlength : response.transactions.length = 1 := Except.ok.inj hresult
    rw [hbacked] at hlength
    exact absurd hlength (by decide)

end Sumurai
