import Sumurai.Connection.Connect
import Sumurai.Connection.SyncedRows

/-!
# The row that a connect leaves

A connect makes a connection with a fresh id and saves it. The save is an upsert by item that keeps
the id and the user of a row that is there, and nothing reads the row back: the accounts are
written, and the response is given, under the fresh id. `Recorded connection id user` says what
becomes of the item: from the save on its row has the id and the user of the row that was there, or
those of the connection. Everything else follows from whether the two agree.

* If they do, each fetched account is stored under the connection (`Attached`), unless the database
  fails on it. The merge of duplicate accounts may then fold it into another account of the
  connection.
* If they do not, the id that was used is the id of no row of the user and the item.

`connectIdentity_iff` is the result: the first connect of an item keeps to it, a connect of an item
that has a row does not, and a reconnect does exactly for a connection of the user.
-/

open Program

namespace Sumurai

/-! ### The log -/

/-- The connections that were saved, whatever the answer. -/
def savedConnections (calls : List CallMade) : List ProviderConnection :=
  calls.filterMap fun
    | ⟨.saveProviderConnection c, _, _⟩ => some c
    | _ => none

/-- The accounts that the provider answered with. -/
def fetchedAccounts (calls : List CallMade) : List Account :=
  calls.flatMap fun
    | ⟨.getAccounts _, _, .ok accounts⟩ => accounts
    | _ => []

/-- The accounts on whose rows the database failed: it did not answer, or the key of the row was
taken. -/
def refusedAccounts (calls : List CallMade) : List Account :=
  calls.filterMap fun
    | ⟨.upsertAccount a, _, .error .unavailable⟩ => some a
    | ⟨.upsertAccount a, _, .error .uniqueViolation⟩ => some a
    | _ => none

/-- A row of an account: it has its provider account id or, without one, its id. -/
structure IsAccountRowOf (a r : Account) : Prop where
  providerAccountId : r.providerAccountId = a.providerAccountId
  id : a.providerAccountId = none → r.id = a.id

/-- The merge of duplicate accounts has folded one row into another. -/
def MergedInto (L : Locale) (userId connectionId : Uuid) (calls : List CallMade) (r r' : Account) :
    Prop :=
  ∃ m ∈ calls, m.call = .mergeDuplicateProviderAccounts userId connectionId ∧ r ∈ m.db.accounts ∧
    (r.id, r'.id) ∈ duplicateAccounts L m.db userId connectionId

/-- The fetched account as it is written. -/
def attachedTo (userId connectionId : Uuid) (a : Account) : Account :=
  { a with userId := some userId, providerConnectionId := some connectionId }

/-- A fetched account is stored under the connection, as a row of its own or folded into one, or the
database failed on its row. -/
def Attached (L : Locale) (userId connectionId : Uuid) (w : World) (a : Account) : Prop :=
  attachedTo userId connectionId a ∈ refusedAccounts w.calls ∨
    ∃ r, IsAccountRowOf a r ∧ r.providerConnectionId = some connectionId ∧
      (r ∈ w.db.accounts ∨ ∃ r' ∈ w.db.accounts, r'.providerConnectionId = some connectionId ∧
        MergedInto L userId connectionId w.calls r r')

/-- **Connect identity**: the item has a row of the user, whose id is the one that the operation
used, and returned if it returns one, and the fetched accounts are attached to it. -/
structure ConnectIdentity (L : Locale) (userId : Uuid) (returned : Option Uuid) (w : World) :
    Prop where
  saved : savedConnections w.calls ≠ []
  returned : ∀ c ∈ savedConnections w.calls, ∀ id ∈ returned, id = c.id
  row : ∀ c ∈ savedConnections w.calls, ∃ r ∈ w.db.providerConnections,
    r.userId = userId ∧ r.itemId = c.itemId ∧ r.id = c.id
  accounts : ∀ c ∈ savedConnections w.calls, ∀ a ∈ fetchedAccounts w.calls,
    Attached L userId c.id w a

section Log

variable {L : Locale} {w : World} {e : Reply}

theorem savedConnections_exec {op : ServiceCall} (h : ∀ c, op ≠ .saveProviderConnection c) :
    savedConnections (exec L op e w).1.calls = savedConnections w.calls := by
  rw [exec, savedConnections, List.filterMap_append]
  cases op <;> first | exact List.append_nil _ | exact absurd rfl (h _)

theorem savedConnections_exec_save (c : ProviderConnection) :
    savedConnections (exec L (.saveProviderConnection c) e w).1.calls =
      savedConnections w.calls ++ [c] := by
  rw [exec, savedConnections, List.filterMap_append]
  rfl

theorem fetchedAccounts_exec {op : ServiceCall} (h : ∀ credentials, op ≠ .getAccounts credentials) :
    fetchedAccounts (exec L op e w).1.calls = fetchedAccounts w.calls := by
  rw [exec, fetchedAccounts, List.flatMap_append]
  cases op <;> first | exact List.append_nil _ | exact absurd rfl (h _)

/-- What was refused stays refused. -/
theorem mem_refusedAccounts_exec {a : Account} {op : ServiceCall}
    (h : a ∈ refusedAccounts w.calls) :
    a ∈ refusedAccounts (exec L op e w).1.calls := by
  rw [exec, refusedAccounts, List.filterMap_append]
  exact List.mem_append_left _ h

end Log

/-! ### The row of the item -/

/-- The row of an item after a connection of the item is saved: its id and its user. -/
def rowAfterSave (db : Store) (connection : ProviderConnection) : Uuid × Uuid :=
  match db.providerConnections.find? fun r ↦ r.itemId = connection.itemId with
  | some r => (r.id, r.userId)
  | none => (connection.id, connection.userId)

/-- The connection was saved, and from then on the row of its item has the id and the user. -/
structure Recorded (connection : ProviderConnection) (row : Uuid × Uuid) (w : World) : Prop where
  saved : savedConnections w.calls ≠ []
  same : ∀ c ∈ savedConnections w.calls, c.id = connection.id ∧ c.itemId = connection.itemId
  exists_row : ∃ r ∈ w.db.providerConnections, r.itemId = connection.itemId
  only : ∀ r ∈ w.db.providerConnections, r.itemId = connection.itemId → (r.id, r.userId) = row

/-- What a connect does to connections: it saves its own, and deletes none. -/
def ConnectsOnly (connection : ProviderConnection) : ServiceCall → Prop
  | .saveProviderConnection c => c.id = connection.id ∧ c.itemId = connection.itemId
  | .deleteProviderConnection _ _ => False
  | _ => True

section Recorded

variable {L : Locale} {connection : ProviderConnection} {row : Uuid × Uuid} {w : World} {e : Reply}

/-- The lookup of an item finds its row. -/
theorem find?_item {rows : List ProviderConnection}
    (hkey : (rows.map ProviderConnection.itemId).Nodup) {r : ProviderConnection} (hr : r ∈ rows)
    {itemId : String} (hitem : r.itemId = itemId) :
    rows.find? (fun r ↦ decide (r.itemId = itemId)) = some r := by
  rcases h : rows.find? fun r ↦ decide (r.itemId = itemId) with - | s
  · exact absurd hitem (by simpa using List.find?_eq_none.1 h r hr)
  · have hs : s.itemId = itemId := by simpa using List.find?_some h
    have hsame : s = r :=
      List.inj_on_of_nodup_map hkey (List.mem_of_find?_eq_some h) hr (hs.trans hitem.symm)
    exact h.trans (congrArg some hsame)

/-- **A save keeps the row of the item**, or makes it. -/
theorem recorded_save {db' : Store} (hlog : savedConnections w.calls = [])
    (hkey : (w.db.providerConnections.map ProviderConnection.itemId).Nodup)
    (hok : saveProviderConnection w.db connection = .ok db')
    (hcalls : (exec L (.saveProviderConnection connection) e w).1.db = db') :
    Recorded connection (rowAfterSave w.db connection)
      (exec L (.saveProviderConnection connection) e w).1 := by
  have hsaved : savedConnections (exec L (.saveProviderConnection connection) e w).1.calls =
      [connection] := by
    rw [savedConnections_exec_save, hlog]
    rfl
  refine ⟨by simp [hsaved], by simp [hsaved], ?_, ?_⟩ <;> rw [hcalls]
  · rcases saveProviderConnection_cases hok with ⟨⟨r, hr, hitem⟩, rfl⟩ | ⟨-, rfl⟩
    · refine ⟨_, List.mem_map_of_mem hr, ?_⟩
      rw [if_pos hitem]
    · exact ⟨connection, by simp, rfl⟩
  · rcases saveProviderConnection_cases hok with ⟨⟨r, hr, hitem⟩, rfl⟩ | ⟨hnone, rfl⟩
    · -- the row that the lookup finds is the only one of the item
      intro s' hs' hs'item
      obtain ⟨s, hs, rfl⟩ := List.mem_map.1 hs'
      have hsitem : s.itemId = connection.itemId := by
        by_contra hne
        rw [if_neg hne] at hs'item
        exact hne hs'item
      rw [if_pos hsitem, rowAfterSave, find?_item hkey hr hitem,
        List.inj_on_of_nodup_map hkey hs hr (hsitem.trans hitem.symm)]
    · have hfind : w.db.providerConnections.find? (fun r ↦ decide (r.itemId = connection.itemId)) =
          none := by
        simpa using hnone
      intro r hr hitem
      rcases List.mem_append.1 hr with hr | hr
      · exact absurd hitem (hnone r hr)
      · rw [List.mem_singleton.1 hr, rowAfterSave, hfind]

/-- **The row of the item stays what it is.** -/
theorem Recorded.exec (h : Recorded connection row w) {op : ServiceCall}
    (hop : ConnectsOnly connection op) : Recorded connection row (exec L op e w).1 := by
  have hlog : savedConnections (Sumurai.exec L op e w).1.calls ≠ [] ∧
      ∀ c ∈ savedConnections (Sumurai.exec L op e w).1.calls,
        c.id = connection.id ∧ c.itemId = connection.itemId := by
    by_cases hsave : ∃ c, op = .saveProviderConnection c
    · obtain ⟨c, rfl⟩ := hsave
      rw [savedConnections_exec_save]
      refine ⟨by simp, fun s hs ↦ ?_⟩
      rcases List.mem_append.1 hs with hs | hs
      · exact h.same s hs
      · rw [List.mem_singleton.1 hs]
        exact hop
    · rw [savedConnections_exec fun c hc ↦ hsave ⟨c, hc⟩]
      exact ⟨h.saved, h.same⟩
  suffices hrows : (∃ r ∈ (answer L e w.db op).1.providerConnections,
      r.itemId = connection.itemId) ∧ ∀ r ∈ (answer L e w.db op).1.providerConnections,
        r.itemId = connection.itemId → (r.id, r.userId) = row from
    ⟨hlog.1, hlog.2, hrows.1, hrows.2⟩
  rcases answer_cases L e w.db op with heq | ⟨-, hok⟩
  · rw [heq]
    exact ⟨h.exists_row, h.only⟩
  · cases op with
    | upsertAccount a =>
      rw [(upsertAccount_frame hok).1]
      exact ⟨h.exists_row, h.only⟩
    | saveProviderConnection c =>
      obtain ⟨r, hr, hitem⟩ := h.exists_row
      rcases saveProviderConnection_cases hok with ⟨-, hdb⟩ | ⟨hnone, -⟩
      · rw [hdb]
        constructor
        · refine ⟨_, List.mem_map_of_mem hr, ?_⟩
          rw [if_pos (hitem.trans hop.2.symm)]
          exact hop.2
        · intro s' hs' hs'item
          obtain ⟨s, hs, rfl⟩ := List.mem_map.1 hs'
          by_cases hsitem : s.itemId = c.itemId
          · rw [if_pos hsitem]
            exact h.only s hs (hsitem.trans hop.2)
          · rw [if_neg hsitem] at hs'item ⊢
            exact h.only s hs hs'item
      · exact absurd (hitem.trans hop.2.symm) (hnone r hr)
    | deleteProviderConnection u item => exact hop.elim
    | deleteProviderCredentials item =>
      rw [← Except.ok.inj hok]
      exact ⟨h.exists_row, h.only⟩
    | _ =>
      rw [(frame_of_statement hok (by simp) (by simp) (by simp) (by simp)).connections]
      exact ⟨h.exists_row, h.only⟩

/-- The foreign key of an account of the connection holds if the row of the item is its own. -/
theorem Recorded.hasConnection (h : Recorded connection row w) (hid : row.1 = connection.id)
    {a : Account} (ha : a.providerConnectionId = some connection.id) :
    hasConnection w.db a = true := by
  obtain ⟨r, hr, hitem⟩ := h.exists_row
  rw [Sumurai.hasConnection, ha, Option.all_some, decide_eq_true_iff, ← hid, ← h.only r hr hitem]
  exact List.mem_map_of_mem hr

/-- **When the row is the connection's own.** -/
theorem Recorded.row_iff (h : Recorded connection row w) (userId : Uuid) :
    (∀ c ∈ savedConnections w.calls, ∃ r ∈ w.db.providerConnections,
        r.userId = userId ∧ r.itemId = c.itemId ∧ r.id = c.id) ↔
      row = (connection.id, userId) := by
  constructor
  · intro hall
    obtain ⟨c, hc⟩ := List.exists_mem_of_ne_nil _ h.saved
    obtain ⟨hid, hitem⟩ := h.same c hc
    obtain ⟨r, hr, hruser, hritem, hrid⟩ := hall c hc
    rw [← h.only r hr (hritem.trans hitem), hrid, hid, hruser]
  · intro hrow c hc
    obtain ⟨hid, hitem⟩ := h.same c hc
    obtain ⟨r, hr, hritem⟩ := h.exists_row
    obtain ⟨hrid, hruser⟩ := Prod.mk.inj ((h.only r hr hritem).trans hrow)
    exact ⟨r, hr, hruser, hritem.trans hitem.symm, hrid.trans hid.symm⟩

end Recorded

/-! ### The accounts -/

section Accounts

variable {L : Locale} {userId connectionId : Uuid} {db db' : Store} {a b : Account} {w : World}

/-- With the connection there, only the key of the row can be in the way of an account. -/
theorem upsertAccount_error {now : Timestamp} {err : DbError} (hconn : hasConnection db a = true)
    (h : upsertAccount db now a = .error err) : err = .uniqueViolation := by
  rw [upsertAccount, hconn] at h
  split at h
  · cases h
  · split at h
    · exact (Except.error.inj h).symm
    · cases h

/-- Account ids stay unique. -/
theorem nodup_accountIds_upsertAccount {now : Timestamp} (h : upsertAccount db now a = .ok db')
    (hids : (db.accounts.map Account.id).Nodup) : (db'.accounts.map Account.id).Nodup := by
  rw [upsertAccount] at h
  split at h
  · split at h
    · obtain rfl := Except.ok.inj h
      have hmap : ∀ f : Account → Account, (∀ r, (f r).id = r.id) →
          (db.accounts.map f).map Account.id = db.accounts.map Account.id := by
        intro f hf
        rw [List.map_map]
        exact List.map_congr_left fun r _ ↦ hf r
      dsimp only
      rw [hmap _ fun r ↦ by split <;> rfl]
      exact hids
    · cases h
  · split at h
    · cases h
    · rename_i hid
      split at h
      · obtain rfl := Except.ok.inj h
        rw [List.map_append]
        exact hids.append (List.nodup_singleton _) (by simpa using hid)
      · cases h

/-- The row of an account after another account write of the connection. -/
theorem exists_accountRow_upsertAccount {now : Timestamp} {r : Account}
    (h : upsertAccount db now b = .ok db') (hb : b.providerConnectionId = some connectionId)
    (hr : r ∈ db.accounts) (hrow : IsAccountRowOf a r)
    (hconn : r.providerConnectionId = some connectionId) :
    ∃ r' ∈ db'.accounts, IsAccountRowOf a r' ∧ r'.providerConnectionId = some connectionId := by
  rcases upsertAccount_cases h with ⟨f, hdb, -, hf⟩ | ⟨hdb, -⟩
  · obtain ⟨hid, -, hprovider, hfconn⟩ := hf r
    refine ⟨f r, hdb ▸ List.mem_map_of_mem hr,
      ⟨hprovider.trans hrow.providerAccountId, fun hnone ↦ hid.trans (hrow.id hnone)⟩, ?_⟩
    rw [hfconn]
    split
    · exact hb
    · exact hconn
  · exact ⟨r, hdb ▸ List.mem_append_left _ hr, hrow, hconn⟩

/-- **An accepted account write leaves a row of its account.** -/
theorem exists_accountRow_of_upsertAccount {now : Timestamp}
    (h : upsertAccount db now (attachedTo userId connectionId a) = .ok db') :
    ∃ r ∈ db'.accounts, IsAccountRowOf a r ∧ r.providerConnectionId = some connectionId := by
  rcases upsertAccount_cases h with ⟨f, hdb, ⟨r, hr, hconflict⟩, hf⟩ | ⟨hdb, -⟩
  · obtain ⟨-, -, hprovider, hfconn⟩ := hf r
    have hsame := hconflict
    rw [conflictsWith, Bool.and_eq_true, beq_iff_eq] at hsame
    refine ⟨f r, hdb ▸ List.mem_map_of_mem hr, ⟨hprovider.trans hsame.2, fun hnone ↦ ?_⟩, ?_⟩
    · -- a row that conflicts has a provider account id
      have hsome := hsame.1
      rw [hsame.2, show (attachedTo userId connectionId a).providerAccountId =
        none from hnone] at hsome
      cases hsome
    · rw [hfconn, if_pos hconflict]
      rfl
  · refine ⟨{ attachedTo userId connectionId a with updatedAt := some now }, ?_,
      ⟨rfl, fun _ ↦ rfl⟩, rfl⟩
    rw [hdb]
    exact List.mem_append_right _ (List.mem_singleton.2 rfl)

theorem mem_duplicateAccounts {p : Uuid × Uuid} :
    p ∈ duplicateAccounts L db userId connectionId ↔
      ∃ r ∈ rankedAccounts db userId connectionId, ∃ c,
        canonicalAccount L db userId connectionId r = some c ∧ c.id ≠ r.id ∧ p = (r.id, c.id) := by
  rw [duplicateAccounts, List.mem_filterMap]
  constructor
  · rintro ⟨r, hr, hp⟩
    cases hc : canonicalAccount L db userId connectionId r with
    | none =>
      rw [hc] at hp
      cases hp
    | some c =>
      rw [hc] at hp
      dsimp only at hp
      split at hp
      · cases hp
      · rename_i hne
        exact ⟨r, hr, c, hc, hne, (Option.some.inj hp).symm⟩
  · rintro ⟨r, hr, c, hc, hne, rfl⟩
    refine ⟨r, hr, ?_⟩
    rw [hc]
    exact if_neg hne

theorem samePartition_iff {r s : Account} :
    samePartition L r s = true ↔ r.providerConnectionId = s.providerConnectionId ∧
      L.lowerString r.name = L.lowerString s.name ∧ r.mask.getD "" = s.mask.getD "" ∧
        r.accountType = s.accountType := by
  simp only [samePartition, Bool.and_eq_true, decide_eq_true_eq, and_assoc]

/-- The canonical account of a partition is its own canonical account. -/
theorem canonicalAccount_canonical {r c : Account}
    (h : canonicalAccount L db userId connectionId r = some c) :
    c ∈ rankedAccounts db userId connectionId ∧
      canonicalAccount L db userId connectionId c = some c := by
  obtain ⟨hc, hsame⟩ := List.mem_filter.1 (OrderBy.mem_of_head?_orderBy _ h)
  rw [samePartition_iff] at hsame
  have hpartition : samePartition L c = samePartition L r := by
    funext s
    rw [Bool.eq_iff_iff, samePartition_iff, samePartition_iff]
    obtain ⟨h₁, h₂, h₃, h₄⟩ := hsame
    rw [h₁, h₂, h₃, h₄]
  refine ⟨hc, ?_⟩
  rw [canonicalAccount, hpartition]
  exact h

/-- **A merge folds an account into one that stays.** -/
theorem exists_of_mergeDuplicateProviderAccounts {n : ℕ} {r : Account}
    (hids : (db.accounts.map Account.id).Nodup)
    (h : mergeDuplicateProviderAccounts L db userId connectionId = .ok (db', n))
    (hr : r ∈ db.accounts) :
    r ∈ db'.accounts ∨ ∃ r' ∈ db'.accounts, r'.providerConnectionId = some connectionId ∧
      (r.id, r'.id) ∈ duplicateAccounts L db userId connectionId := by
  by_cases hgone : r.id ∈ (duplicateAccounts L db userId connectionId).map Prod.fst
  · right
    obtain ⟨p, hp, hpr⟩ := List.mem_map.1 hgone
    obtain ⟨s, -, c, hc, -, rfl⟩ := mem_duplicateAccounts.1 hp
    obtain ⟨hranked, hself⟩ := canonicalAccount_canonical hc
    obtain ⟨hmem, hproperty⟩ := List.mem_filter.1 hranked
    simp only [Bool.and_eq_true, decide_eq_true_eq] at hproperty
    refine ⟨c, (mem_accounts_mergeDuplicateProviderAccounts h).2 ⟨hmem, ?_⟩, hproperty.1.2,
      hpr ▸ hp⟩
    -- a canonical account is no duplicate
    intro hcgone
    obtain ⟨q, hq, hqc⟩ := List.mem_map.1 hcgone
    obtain ⟨s', hs', c', hc', hne, rfl⟩ := mem_duplicateAccounts.1 hq
    have hsame : s' = c := List.inj_on_of_nodup_map hids (List.mem_filter.1 hs').1 hmem hqc
    rw [hsame, hself] at hc'
    rw [← Option.some.inj hc', hsame] at hne
    exact hne rfl
  · exact Or.inl ((mem_accounts_mergeDuplicateProviderAccounts h).2 ⟨hr, hgone⟩)

end Accounts

/-! ### The loop over the accounts -/

section Loop

variable {L : Locale} {userId connectionId : Uuid} {a : Account} {w : World}

/-- A fetched account is stored under the connection, or the database failed on its row. -/
def StoredUnder (userId connectionId : Uuid) (w : World) (a : Account) : Prop :=
  attachedTo userId connectionId a ∈ refusedAccounts w.calls ∨
    ∃ r ∈ w.db.accounts, IsAccountRowOf a r ∧ r.providerConnectionId = some connectionId

theorem StoredUnder.attached (h : StoredUnder userId connectionId w a) :
    Attached L userId connectionId w a :=
  h.imp_right fun ⟨r, hr, hrow, hconn⟩ ↦ ⟨r, hrow, hconn, Or.inl hr⟩

/-- The write of another account of the connection leaves a stored account stored. -/
theorem StoredUnder.upsertAccount (h : StoredUnder userId connectionId w a) (b : Account)
    (e : Reply) : StoredUnder userId connectionId
      (exec L (.upsertAccount (attachedTo userId connectionId b)) e w).1 a := by
  rcases h with hrefused | ⟨r, hr, hrow, hconn⟩
  · exact Or.inl (mem_refusedAccounts_exec hrefused)
  · right
    rcases unitStatement_cases e w.db
      (Sumurai.upsertAccount w.db e.now (attachedTo userId connectionId b)) with
      ⟨err, hanswer⟩ | ⟨db', hok, hanswer⟩
    · rw [exec_of_answer (show answer L e w.db (.upsertAccount _) = _ from hanswer)]
      exact ⟨r, hr, hrow, hconn⟩
    · rw [exec_of_answer (show answer L e w.db (.upsertAccount _) = _ from hanswer)]
      exact exists_accountRow_upsertAccount hok rfl hr hrow hconn

/-- **The write of an account whose connection is there** stores it, or the database failed on
it. -/
theorem storedUnder_upsertAccount
    (hconn : hasConnection w.db (attachedTo userId connectionId a) = true) (e : Reply) :
    StoredUnder userId connectionId
      (exec L (.upsertAccount (attachedTo userId connectionId a)) e w).1 a := by
  have hrefused : ∀ err, (err = .unavailable ∨ err = .uniqueViolation) →
      answer L e w.db (.upsertAccount (attachedTo userId connectionId a)) = (w.db, .error err) →
        StoredUnder userId connectionId
          (exec L (.upsertAccount (attachedTo userId connectionId a)) e w).1 a := by
    intro err herr hanswer
    left
    rw [exec_of_answer hanswer, refusedAccounts, List.filterMap_append]
    rcases herr with rfl | rfl <;> exact List.mem_append_right _ (List.mem_singleton.2 rfl)
  by_cases hup : e.databaseUp = true
  · rcases hok : upsertAccount w.db e.now (attachedTo userId connectionId a) with err | db'
    · refine hrefused err (Or.inr (upsertAccount_error hconn hok)) ((if_pos hup).trans ?_)
      rw [hok]
      rfl
    · have hanswer : answer L e w.db (.upsertAccount (attachedTo userId connectionId a)) =
          (db', .ok ()) := by
        refine (if_pos hup).trans ?_
        rw [hok]
        rfl
      rw [exec_of_answer hanswer]
      exact Or.inr (exists_accountRow_of_upsertAccount hok)
  · exact hrefused .unavailable (Or.inl rfl) (if_neg hup)

/-- **The merge of duplicate accounts** leaves a stored account attached. -/
theorem StoredUnder.merge (h : StoredUnder userId connectionId w a)
    (hids : (w.db.accounts.map Account.id).Nodup) (e : Reply) :
    Attached L userId connectionId
      (exec L (.mergeDuplicateProviderAccounts userId connectionId) e w).1 a := by
  rcases h with hrefused | ⟨r, hr, hrow, hconn⟩
  · exact Or.inl (mem_refusedAccounts_exec hrefused)
  · refine Or.inr ⟨r, hrow, hconn, ?_⟩
    rcases answer_cases L e w.db (.mergeDuplicateProviderAccounts userId connectionId) with
      heq | ⟨-, hok⟩
    · left
      rw [exec, heq]
      exact hr
    · obtain ⟨n, hmerge⟩ : ∃ n, mergeDuplicateProviderAccounts L w.db userId connectionId =
          .ok ((answer L e w.db (.mergeDuplicateProviderAccounts userId connectionId)).1, n) := by
        rcases hresult : mergeDuplicateProviderAccounts L w.db userId connectionId with
          err | ⟨db', n⟩
        · rw [statement, hresult] at hok
          cases hok
        · rw [statement, hresult] at hok
          exact ⟨n, by rw [← Except.ok.inj hok]⟩
      refine (exists_of_mergeDuplicateProviderAccounts hids hmerge hr).imp_right ?_
      rintro ⟨r', hr', hrconn, hpair⟩
      exact ⟨r', hr', hrconn, _, List.mem_append_right _ (List.mem_singleton.2 rfl), rfl, hr, hpair⟩

/-- A call that leaves the accounts alone leaves an account attached. -/
theorem Attached.exec (h : Attached L userId connectionId w a) {op : ServiceCall}
    (hkeeps : op.keepsAccounts = true) (e : Reply) :
    Attached L userId connectionId (exec L op e w).1 a := by
  have haccounts : (Sumurai.exec L op e w).1.db.accounts = w.db.accounts := accounts_answer hkeeps
  rcases h with hrefused | ⟨r, hrow, hconn, hr | ⟨r', hr', hr'conn, m, hm, hmerged⟩⟩
  · exact Or.inl (mem_refusedAccounts_exec hrefused)
  · exact Or.inr ⟨r, hrow, hconn, Or.inl (haccounts ▸ hr)⟩
  · exact Or.inr ⟨r, hrow, hconn, Or.inr ⟨r', haccounts ▸ hr', hr'conn, m,
      List.mem_append_left _ hm, hmerged⟩⟩

end Loop

/-! ### A whole connect -/

/-- A program that connects, alone. -/
abbrev connecting (L : Locale) : Setting ConnectCall ConnectCall.Answer World ConnectReply :=
  Setting.alone (connectExec L) fun _ _ ↦ True

/-- What a connect leaves: the row of the item is what it was or what was made of it and, if the id
that was used is its own, the fetched accounts are attached to it. -/
structure Leaves (L : Locale) (userId : Uuid) (connection : ProviderConnection) (row : Uuid × Uuid)
    (w : World) : Prop where
  recorded : Recorded connection row w
  attached : row.1 = connection.id → ∀ a ∈ fetchedAccounts w.calls,
    Attached L userId connection.id w a

/-- The loop over the fetched accounts, with some of them behind. -/
structure Storing (userId : Uuid) (connection : ProviderConnection) (row : Uuid × Uuid)
    (accounts before : List Account) (w : World) : Prop where
  recorded : Recorded connection row w
  ids : (w.db.accounts.map Account.id).Nodup
  fetched : fetchedAccounts w.calls = accounts
  stored : row.1 = connection.id → ∀ a ∈ before, StoredUnder userId connection.id w a

section Connect

variable {L : Locale} {userId : Uuid} {connection : ProviderConnection} {row : Uuid × Uuid}
  {accounts before : List Account} {w : World}

/-- **Connect identity is a matter of the row.** -/
theorem Leaves.identity_iff (h : Leaves L userId connection row w) {returned : Option Uuid}
    (hreturned : ∀ id ∈ returned, id = connection.id) :
    ConnectIdentity L userId returned w ↔ row = (connection.id, userId) := by
  constructor
  · intro hidentity
    exact (h.recorded.row_iff userId).1 hidentity.row
  · intro hrow
    refine ⟨h.recorded.saved, ?_, (h.recorded.row_iff userId).2 hrow, ?_⟩
    · intro c hc id hid
      rw [hreturned id hid, (h.recorded.same c hc).1]
    · intro c hc
      rw [(h.recorded.same c hc).1]
      exact h.attached (congrArg Prod.fst hrow)

theorem nodup_accountIds_exec {a : Account} (hids : (w.db.accounts.map Account.id).Nodup)
    (e : Reply) : ((exec L (.upsertAccount a) e w).1.db.accounts.map Account.id).Nodup := by
  rcases answer_cases L e w.db (.upsertAccount a) with heq | ⟨-, hok⟩
  · rw [exec, heq]
    exact hids
  · exact nodup_accountIds_upsertAccount hok hids

/-- One more account. -/
theorem Storing.upsertAccount (h : Storing userId connection row accounts before w) (a : Account)
    (e : Reply) : Storing userId connection row accounts (before ++ [a])
      (exec L (.upsertAccount (attachedTo userId connection.id a)) e w).1 := by
  refine ⟨h.recorded.exec trivial, nodup_accountIds_exec h.ids e,
    (fetchedAccounts_exec (by simp)).trans h.fetched, fun hid b hb ↦ ?_⟩
  rcases List.mem_append.1 hb with hb | hb
  · exact (h.stored hid b hb).upsertAccount a e
  · rw [List.mem_singleton.1 hb]
    exact storedUnder_upsertAccount (h.recorded.hasConnection hid rfl) e

theorem ensures_persistConnectAccounts (h : Storing userId connection row accounts [] w) :
    (persistConnectAccounts userId connection accounts).Ensures (connecting L)
      (fun _ w' ↦ Storing userId connection row accounts accounts w') w := by
  refine Ensures.forEach (I := fun before _ w' ↦
    Storing userId connection row accounts before w') ?_ h
  rintro before a after persisted w' - hbefore
  refine ensures_bind.2 (ensures_ask_alone.2 fun e _ ↦ ?_)
  have hnext := hbefore.upsertAccount (L := L) a e.toReply
  split <;> exact hnext

theorem Leaves.exec (h : Leaves L userId connection row w) {op : ServiceCall}
    (hop : ConnectsOnly connection op) (hfetch : ∀ credentials, op ≠ .getAccounts credentials)
    (hkeeps : op.keepsAccounts = true) (e : Reply) :
    Leaves L userId connection row (exec L op e w).1 := by
  refine ⟨h.recorded.exec hop, fun hid a ha ↦ ?_⟩
  rw [fetchedAccounts_exec hfetch] at ha
  exact (h.attached hid a ha).exec hkeeps e

theorem Storing.leaves (h : Storing userId connection row accounts accounts w) :
    Leaves L userId connection row w :=
  ⟨h.recorded, fun hid a ha ↦ (h.stored hid a (h.fetched ▸ ha)).attached⟩

/-- The merge of duplicate accounts and the last save. -/
theorem ensures_finishConnect (h : Storing userId connection row accounts accounts w)
    (persisted : List Account) : (finishConnect userId connection persisted).Ensures (connecting L)
      (fun _ w' ↦ Leaves L userId connection row w') w := by
  rw [finishConnect]
  split
  · exact h.leaves
  · refine ensures_bind.2 (ensures_ask_alone.2 fun e _ ↦ ?_)
    have hmerged : Leaves L userId connection row
        (exec L (.mergeDuplicateProviderAccounts userId connection.id) e.toReply w).1 := by
      refine ⟨h.recorded.exec trivial, fun hid a ha ↦ ?_⟩
      rw [fetchedAccounts_exec (by simp), h.fetched] at ha
      exact (h.stored hid a ha).merge h.ids e.toReply
    refine ensures_bind.2 (ensures_ask_alone.2 fun e' _ ↦ ?_)
    have hsave : ConnectsOnly connection
        (.saveProviderConnection { connection with accountCount := persisted.length }) := ⟨rfl, rfl⟩
    exact hmerged.exec hsave (by simp) rfl e'.toReply

theorem ensures_connectAccounts (hrecorded : Recorded connection row w)
    (hids : (w.db.accounts.map Account.id).Nodup) (hfetched : fetchedAccounts w.calls = [])
    (credentials : ProviderCredentials) :
    (connectAccounts userId connection credentials).Ensures (connecting L)
      (fun _ w' ↦ Leaves L userId connection row w') w := by
  refine ensures_bind.2 (ensures_ask_alone.2 fun e _ ↦ ?_)
  have hnext : Recorded connection row (exec L (.getAccounts credentials) e.toReply w).1 :=
    hrecorded.exec trivial
  have hlog : fetchedAccounts (exec L (.getAccounts credentials) e.toReply w).1.calls =
      fetchedAccounts [⟨.getAccounts credentials, w.db, e.accounts⟩] := by
    rw [exec, fetchedAccounts, List.flatMap_append]
    show fetchedAccounts w.calls ++ _ = _
    rw [hfetched]
    rfl
  split
  · rename_i message herror
    have hnone : e.accounts = .error message := herror
    rw [hnone] at hlog
    exact ensures_finishConnect ⟨hnext, hids, hlog, fun _ _ ha ↦ (List.not_mem_nil ha).elim⟩ []
  · rename_i fetched hok
    have hsome : e.accounts = .ok fetched := hok
    rw [hsome] at hlog
    have hstart : Storing userId connection row fetched []
        (exec L (.getAccounts credentials) e.toReply w).1 :=
      ⟨hnext, hids, hlog.trans (List.append_nil _), fun _ _ ha ↦ (List.not_mem_nil ha).elim⟩
    refine ensures_bind.2 ((ensures_persistConnectAccounts hstart).imp fun persisted w₁ h₁ ↦ ?_)
    exact ensures_finishConnect h₁ persisted

end Connect

/-! ### Before the save -/

/-- Nothing has been saved or fetched yet, and the connections are what they were. -/
structure Unsaved (db : Store) (w : World) : Prop where
  connections : w.db.providerConnections = db.providerConnections
  ids : (w.db.accounts.map Account.id).Nodup
  saved : savedConnections w.calls = []
  fetched : fetchedAccounts w.calls = []

/-- The calls before the save. -/
def BeforeSave : ConnectCall → Prop
  | .service .now => True
  | .service (.getProviderConnectionById _) => True
  | .service _ => False
  | _ => True

section BeforeSave

variable {L : Locale} {db : Store} {userId : Uuid} {connection : ProviderConnection}
  {request : ProviderConnectRequest} {w : World}

theorem Unsaved.exec (h : Unsaved db w) {op : ConnectCall} (hop : BeforeSave op)
    (e : ConnectReply) : Unsaved db (connectExec L op e w).1 := by
  cases op with
  | service op =>
    have hlogged : (∀ c, op ≠ .saveProviderConnection c) ∧
        (∀ credentials, op ≠ .getAccounts credentials) ∧ (answer L e.toReply w.db op).1 = w.db := by
      cases op with
      | now => exact ⟨by simp, by simp, rfl⟩
      | getProviderConnectionById connectionId =>
        exact ⟨by simp, by simp, readStatement_fst _ _ _⟩
      | _ => exact hop.elim
    obtain ⟨hsave, hfetch, hdb⟩ := hlogged
    refine ⟨?_, ?_, (savedConnections_exec hsave).trans h.saved,
      (fetchedAccounts_exec hfetch).trans h.fetched⟩
    · show (answer L e.toReply w.db op).1.providerConnections = db.providerConnections
      rw [hdb]
      exact h.connections
    · show ((answer L e.toReply w.db op).1.accounts.map Account.id).Nodup
      rw [hdb]
      exact h.ids
  | storeProviderCredentialsForUser userId itemId accessToken =>
    rw [connectExec]
    split
    · unfold storeProviderCredentialsForUser
      split <;> exact ⟨h.connections, h.ids, h.saved, h.fetched⟩
    · exact h
  | _ => exact h

theorem ensures_newProviderConnection {itemId : String} {Q : ProviderConnection → World → Prop}
    (h : Unsaved db w) (hQ : ∀ c w', Unsaved db w' → c.userId = userId → c.itemId = itemId →
      c.id ∉ db.providerConnections.map ProviderConnection.id → Q c w') :
    (newProviderConnection userId itemId).Ensures (connecting L) Q w := by
  refine ensures_bind.2 (ensures_ask_alone.2 fun e _ ↦ ?_)
  have h₁ := h.exec (L := L) (show BeforeSave (.service .now) from trivial) e
  refine ensures_bind.2 (ensures_ask_alone.2 fun e' _ ↦ ?_)
  refine hQ _ _ (h₁.exec (show BeforeSave .newV4 from trivial) e') rfl rfl ?_
  rw [← h₁.connections]
  exact newV4_notMem _ _

theorem ensures_markConnected {institutionName : String} {Q : ProviderConnection → World → Prop}
    (h : Unsaved db w) (hQ : ∀ c w', Unsaved db w' → c.id = connection.id →
      c.userId = connection.userId → c.itemId = connection.itemId → Q c w') :
    (markConnected connection institutionName).Ensures (connecting L) Q w := by
  refine ensures_bind.2 (ensures_ask_alone.2 fun e _ ↦ ?_)
  have h₁ := h.exec (L := L) (show BeforeSave (.service .now) from trivial) e
  refine ensures_bind.2 (ensures_ask_alone.2 fun e' _ ↦ ?_)
  exact hQ _ _ (h₁.exec (show BeforeSave (.service .now) from trivial) e') rfl rfl rfl

/-- A connection that is loaded has its row. -/
theorem rowAfterSave_of_mem (hkey : (db.providerConnections.map ProviderConnection.itemId).Nodup)
    (hmem : connection ∈ db.providerConnections) :
    rowAfterSave db connection = (connection.id, connection.userId) := by
  rw [rowAfterSave, find?_item hkey hmem rfl]

/-- A connection with a fresh id has its row if its item has none yet. -/
theorem rowAfterSave_of_notMem
    (hid : connection.id ∉ db.providerConnections.map ProviderConnection.id) :
    rowAfterSave db connection = (connection.id, connection.userId) ↔
      ∀ r ∈ db.providerConnections, r.itemId ≠ connection.itemId := by
  rw [rowAfterSave]
  constructor
  · intro hrow r hr hitem
    rcases hfind : db.providerConnections.find? fun r ↦ decide (r.itemId = connection.itemId) with
      - | s
    · exact absurd hitem (by simpa using List.find?_eq_none.1 hfind r hr)
    · rw [hfind] at hrow
      -- the row that is there would have the fresh id
      have hsid : s.id = connection.id := congrArg Prod.fst hrow
      exact hid (hsid ▸ List.mem_map_of_mem (List.mem_of_find?_eq_some hfind))
  · intro hnone
    have hfind : db.providerConnections.find? (fun r ↦ decide (r.itemId = connection.itemId)) =
        none := by
      simpa using hnone
    rw [hfind]

end BeforeSave

/-! ### The two operations -/

/-- The save of a connection either fails, or makes the row of the item or keeps it. -/
theorem ensures_saveProviderConnection {L : Locale} {db : Database}
    {connection : ProviderConnection}
    {w : World} {Q : Except DbError Unit → World → Prop} (h : Unsaved db.toStore w)
    (herror : ∀ err w', Q (.error err) w')
    (hok : ∀ w', Recorded connection (rowAfterSave db.toStore connection) w' →
      (w'.db.accounts.map Account.id).Nodup → fetchedAccounts w'.calls = [] → Q (.ok ()) w') :
    (callService (.saveProviderConnection connection)).Ensures (connecting L) Q w := by
  refine ensures_ask_alone.2 fun e _ ↦ ?_
  rcases unitStatement_cases e.toReply w.db (saveProviderConnection w.db connection) with
    ⟨err, hanswer⟩ | ⟨db', hsave, hanswer⟩
  · have hexec := exec_of_answer (show answer L e.toReply w.db
      (.saveProviderConnection connection) = _ from hanswer)
    show Q (exec L (.saveProviderConnection connection) e.toReply w).2 _
    rw [hexec]
    exact herror _ _
  · have hexec := exec_of_answer (show answer L e.toReply w.db
      (.saveProviderConnection connection) = _ from hanswer)
    have hkey : (w.db.providerConnections.map ProviderConnection.itemId).Nodup := by
      rw [h.connections]
      exact db.keyed.providerConnections_itemId_key
    have hrecorded := recorded_save (L := L) (e := e.toReply) h.saved hkey hsave
      (congrArg (fun result ↦ result.1.db) hexec)
    have hrow : rowAfterSave w.db connection = rowAfterSave db.toStore connection := by
      rw [rowAfterSave, rowAfterSave, h.connections]
    have haccounts : (exec L (.saveProviderConnection connection) e.toReply w).1.db.accounts =
        w.db.accounts := accounts_answer rfl
    have hids := h.ids
    rw [← haccounts] at hids
    have hfetched := (fetchedAccounts_exec (L := L) (e := e.toReply) (w := w)
      (show ∀ credentials, ServiceCall.saveProviderConnection connection ≠ .getAccounts credentials
        by simp)).trans h.fetched
    show Q (exec L (.saveProviderConnection connection) e.toReply w).2 _
    have hanswered : (exec L (.saveProviderConnection connection) e.toReply w).2 = .ok () :=
      congrArg Prod.snd hexec
    rw [hanswered]
    exact hok _ (hrow ▸ hrecorded) hids hfetched

/-- Only the ids and the user of a connection matter for what becomes of the row. -/
theorem rowAfterSave_congr {db : Store} {c c' : ProviderConnection} (hid : c'.id = c.id)
    (huser : c'.userId = c.userId) (hitem : c'.itemId = c.itemId) :
    rowAfterSave db c' = rowAfterSave db c := by
  rw [rowAfterSave, rowAfterSave, hid, huser, hitem]

/-- When a Teller connect keeps to connect identity: without a connection id, if the item has no row
yet; with one, if the connection is the user's. -/
def ConnectsOwn (parseStr : String → Option Uuid) (userId : Uuid) (request : ProviderConnectRequest)
    (db : Store) : Prop :=
  match request.connectionId with
  | none => ∀ r ∈ db.providerConnections, r.itemId ≠ "teller_" ++ request.enrollmentId
  | some connectionId => ∀ r ∈ db.providerConnections,
      parseStr connectionId = some r.id → r.userId = userId

section Operations

variable {L : Locale} {registered : String → Bool} {parseStr : String → Option Uuid} {userId : Uuid}
  {request : ProviderConnectRequest} {db : Database} {connection : ProviderConnection} {w : World}

/-- **The chosen connection.** Its row is its own and the user's exactly when the request keeps to
connect identity. -/
theorem ensures_chosenConnection (h : Unsaved db.toStore w) :
    (chosenConnection parseStr userId request).Ensures (connecting L) (fun result w' ↦
      ∀ connection, result = .ok connection → Unsaved db.toStore w' ∧
        (rowAfterSave db.toStore connection = (connection.id, userId) ↔
          ConnectsOwn parseStr userId request db.toStore)) w := by
  rw [chosenConnection, ConnectsOwn]
  rcases request.connectionId with - | given
  · refine ensures_bind.2 (ensures_newProviderConnection h fun c w₁ h₁ huser hitem hid ↦ ?_)
    rintro connection ⟨⟩
    refine ⟨h₁, ?_⟩
    rw [← hitem, ← huser]
    exact rowAfterSave_of_notMem hid
  · dsimp only
    rcases hparse : parseStr given with - | connectionId
    · rintro connection ⟨⟩
    · refine ensures_bind.2 (ensures_ask_alone.2 fun e _ ↦ ?_)
      have h₁ := h.exec (L := L)
        (show BeforeSave (.service (.getProviderConnectionById connectionId)) from trivial) e
      split
      · rintro connection ⟨⟩
      · rintro connection ⟨⟩
      · rename_i loaded hloaded
        rintro _ ⟨⟩
        refine ⟨h₁, ?_⟩
        have hread : (readStatement e.toReply w.db
          (getProviderConnectionById w.db connectionId)).2 = .ok (some loaded) := hloaded
        have hfind : getProviderConnectionById w.db connectionId = some loaded :=
          (eq_of_readStatement hread).symm
        rw [getProviderConnectionById, h.connections] at hfind
        have hmem := List.mem_of_find?_eq_some hfind
        have hid : loaded.id = connectionId := by simpa using List.find?_some hfind
        rw [rowAfterSave_of_mem db.keyed.providerConnections_itemId_key hmem, Prod.mk.injEq]
        constructor
        · rintro ⟨-, huser⟩ r hr hrid
          have hsame : r = loaded :=
            List.inj_on_of_nodup_map db.keyed.providerConnections_pkey hr hmem
              ((Option.some.inj hrid).symm.trans hid.symm)
          rw [hsame, huser]
        · intro hown
          exact ⟨rfl, hown loaded hmem (congrArg some hid.symm)⟩

/-- **A connect on its connection.** -/
theorem ensures_connectTo (h : Unsaved db.toStore w) :
    (connectTo userId request connection).Ensures (connecting L) (fun result w' ↦
      ∀ response, result = .ok response →
        (ConnectIdentity L userId (some response.connectionId) w' ↔
          rowAfterSave db.toStore connection = (connection.id, userId))) w := by
  refine ensures_bind.2 (ensures_ask_alone.2 fun e _ ↦ ?_)
  have h₁ := h.exec (L := L) (show BeforeSave
    (.storeProviderCredentialsForUser userId connection.itemId request.accessToken) from trivial) e
  split
  · rintro response ⟨⟩
  · refine ensures_bind.2 (ensures_markConnected h₁ fun c w₂ h₂ hid huser hitem ↦ ?_)
    -- what is set on the connection besides does not touch its ids
    obtain ⟨c', hc', hid', huser', hitem'⟩ : ∃ c', resetCounts request
        { c with institutionId := some "teller" } = c' ∧ c'.id = connection.id ∧
          c'.userId = connection.userId ∧ c'.itemId = connection.itemId := by
      refine ⟨_, rfl, ?_⟩
      rw [resetCounts]
      split <;> exact ⟨hid, huser, hitem⟩
    dsimp only
    rw [hc']
    refine ensures_bind.2 (ensures_saveProviderConnection h₂ ?_ fun w₃ hrecorded hids hfetched ↦ ?_)
    · rintro err w₃ response ⟨⟩
    · refine ensures_bind.2 ((ensures_connectAccounts hrecorded hids hfetched _).imp
        fun _ w₄ h₄ ↦ ?_)
      rintro response ⟨⟩
      have hreturned : ∀ id ∈ some c'.id, id = c'.id := fun id hid ↦ (Option.some.inj hid).symm
      rw [h₄.identity_iff hreturned, rowAfterSave_congr hid' huser' hitem', hid']

theorem ensures_connectTellerProvider (h : Unsaved db.toStore w) :
    (connectTellerProvider registered parseStr userId request).Ensures (connecting L)
      (fun result w' ↦ ∀ response, result = .ok response →
        (ConnectIdentity L userId (some response.connectionId) w' ↔
          ConnectsOwn parseStr userId request db.toStore)) w := by
  rw [connectTellerProvider]
  split
  · rintro response ⟨⟩
  · split
    · refine ensures_bind.2 ((ensures_chosenConnection h).imp fun result w₁ h₁ ↦ ?_)
      split
      · rintro response ⟨⟩
      · rename_i chosen
        obtain ⟨hunsaved, hrow⟩ := h₁ chosen rfl
        refine (ensures_connectTo hunsaved).imp fun result w₂ h₂ response hok ↦ ?_
        rw [h₂ response hok, hrow]
    · rintro response ⟨⟩

end Operations

section Exchange

variable {L : Locale} {registered : String → Bool} {provider : String} (userId : Uuid) {db : Store}
  {credentials : ProviderCredentials} (env : ℕ → ConnectReply) {w : World}

theorem run_institutionOf (credentials : ProviderCredentials) (w : World) :
    ∃ info, (institutionOf credentials).run (connectExec L) env w =
      (w, info, fun n ↦ env (n + 1)) := by
  have hask : (performConnect (.getInstitutionInfo credentials)).run (connectExec L) env w =
      (w, (env 0).institution, fun n ↦ env (n + 1)) := rfl
  rw [institutionOf, run_bind hask]
  split <;> exact ⟨_, rfl⟩

theorem run_newProviderConnection (itemId : String) (h : Unsaved db w) :
    ∃ c w', (newProviderConnection userId itemId).run (connectExec L) env w =
        (w', c, fun n ↦ env (n + 2)) ∧ Unsaved db w' ∧ c.userId = userId ∧ c.itemId = itemId ∧
      c.id ∉ db.providerConnections.map ProviderConnection.id := by
  have h₁ := h.exec (L := L) (show BeforeSave (.service .now) from trivial) (env 0)
  have h₂ := h₁.exec (L := L) (show BeforeSave .newV4 from trivial) (env 1)
  refine ⟨_, _, rfl, h₂, rfl, rfl, ?_⟩
  rw [← h₁.connections]
  exact newV4_notMem _ _

theorem run_markConnected (connection : ProviderConnection) (institutionName : String)
    (h : Unsaved db w) : ∃ c w', (markConnected connection institutionName).run (connectExec L) env
        w = (w', c, fun n ↦ env (n + 2)) ∧ Unsaved db w' ∧ c.id = connection.id ∧
      c.userId = connection.userId ∧ c.itemId = connection.itemId := by
  have h₁ := h.exec (L := L) (show BeforeSave (.service .now) from trivial) (env 0)
  have h₂ := h₁.exec (L := L) (show BeforeSave (.service .now) from trivial) (env 1)
  exact ⟨_, _, rfl, h₂, rfl, rfl, rfl⟩

/-- The run of an exchange up to its save, the eighth call. -/
theorem run_exchangePublicToken (publicToken : String) (hprovider : registered provider = true)
    (hcredentials : (env 0).credentials = .ok credentials) (h : Unsaved db w) :
    ∃ c w', Unsaved db w' ∧ c.userId = userId ∧ c.itemId = credentials.itemId ∧
      c.id ∉ db.providerConnections.map ProviderConnection.id ∧
      ((exchangePublicToken registered provider userId publicToken).run (connectExec L) env w).1 =
        (exec L (.saveProviderConnection c) (env 7).toReply w').1 := by
  have hexchange : (performConnect (.exchangePublicToken publicToken)).run (connectExec L) env w =
      (w, .ok credentials, fun n ↦ env (n + 1)) := by
    rw [← hcredentials]
    rfl
  obtain ⟨info, hinfo⟩ := run_institutionOf (L := L) (fun n ↦ env (n + 1)) credentials w
  have h₁ := h.exec (L := L) (show BeforeSave (.storeProviderCredentialsForUser userId
    credentials.itemId credentials.accessToken) from trivial) (env 2)
  have hstore : (performConnect (.storeProviderCredentialsForUser userId credentials.itemId
      credentials.accessToken)).run (connectExec L) (fun n ↦ env (n + 2)) w =
      (_, _, fun n ↦ env (n + 3)) := rfl
  obtain ⟨c₂, w₂, hnew, h₂, huser, hitem, hid⟩ := run_newProviderConnection (L := L) userId
    (fun n ↦ env (n + 3)) credentials.itemId h₁
  obtain ⟨c₃, w₃, hmark, h₃, hid₃, huser₃, hitem₃⟩ := run_markConnected (L := L)
    (fun n ↦ env (n + 5)) c₂ info.name h₂
  refine ⟨{ c₃ with institutionId := some info.institutionId }, w₃, h₃, huser₃.trans huser,
    hitem₃.trans hitem, hid₃ ▸ hid, ?_⟩
  rw [exchangePublicToken, if_pos hprovider, run_bind hexchange]
  dsimp only
  rw [run_bind hinfo, run_bind hstore, run_bind hnew, run_bind hmark]
  rfl

/-- A connection with a fresh id is saved if the database answers. -/
theorem exists_saveProviderConnection {db : Store} {c : ProviderConnection}
    (hid : c.id ∉ db.providerConnections.map ProviderConnection.id) :
    ∃ db', saveProviderConnection db c = .ok db' := by
  rw [saveProviderConnection, if_neg hid]
  split <;> exact ⟨_, rfl⟩

/-- When an exchange keeps to connect identity: its item has no row yet, and the database answers
the save. -/
def ExchangesNew (db : Store) (env : ℕ → ConnectReply) : Prop :=
  (env 7).databaseUp = true ∧ ∀ credentials, (env 0).credentials = .ok credentials →
    ∀ r ∈ db.providerConnections, r.itemId ≠ credentials.itemId

/-- **An exchange.** -/
theorem exchangePublicToken_identity_iff {db : Database} (publicToken : String)
    (h : Unsaved db.toStore w)
    (hprovider : registered provider = true)
    (hcredentials : (env 0).credentials = .ok credentials) :
    ConnectIdentity L userId none
        ((exchangePublicToken registered provider userId publicToken).run (connectExec L) env w).1 ↔
      ExchangesNew db.toStore env := by
  obtain ⟨c, w', h', huser, hitem, hid, hrun⟩ := run_exchangePublicToken (L := L) userId env
    publicToken hprovider hcredentials h
  rw [hrun]
  have hid' := hid
  rw [← h'.connections] at hid'
  by_cases hup : (env 7).databaseUp = true
  · obtain ⟨db', hsave⟩ := exists_saveProviderConnection hid'
    have hanswer : answer L (env 7).toReply w'.db (.saveProviderConnection c) = (db', .ok ()) := by
      refine (if_pos hup).trans ?_
      rw [hsave]
      rfl
    have hkey : (w'.db.providerConnections.map ProviderConnection.itemId).Nodup := by
      rw [h'.connections]
      exact db.keyed.providerConnections_itemId_key
    have hrecorded := recorded_save (L := L) (e := (env 7).toReply) h'.saved hkey hsave
      (congrArg Prod.fst hanswer)
    have hleaves : Leaves L userId c (rowAfterSave w'.db c)
        (exec L (.saveProviderConnection c) (env 7).toReply w').1 := by
      refine ⟨hrecorded, fun _ a ha ↦ ?_⟩
      rw [fetchedAccounts_exec (by simp), h'.fetched] at ha
      exact (List.not_mem_nil ha).elim
    rw [hleaves.identity_iff (by simp), ← huser, rowAfterSave_of_notMem hid', h'.connections, hitem]
    constructor
    · intro hnone
      refine ⟨hup, fun credentials' hcredentials' ↦ ?_⟩
      rw [← Except.ok.inj (hcredentials.symm.trans hcredentials')]
      exact hnone
    · intro hnew
      exact hnew.2 credentials hcredentials
  · refine iff_of_false (fun hidentity ↦ ?_) fun hnew ↦ hup hnew.1
    -- nothing was saved, and the fresh id is no row's
    have hanswer : answer L (env 7).toReply w'.db (.saveProviderConnection c) =
        (w'.db, .error .unavailable) := if_neg hup
    have hlogged : c ∈ savedConnections
        (exec L (.saveProviderConnection c) (env 7).toReply w').1.calls := by
      rw [savedConnections_exec_save]
      exact List.mem_append_right _ (List.mem_singleton.2 rfl)
    obtain ⟨r, hr, -, -, hrid⟩ := hidentity.row c hlogged
    rw [exec_of_answer hanswer] at hr
    exact hid' (hrid ▸ List.mem_map_of_mem hr)

end Exchange

/-- The start of a connect. -/
theorem unsaved_start (db : Database) : Unsaved db.toStore ⟨db.toStore, 0, []⟩ :=
  ⟨rfl, db.keyed.accounts_pkey, rfl, rfl⟩

/-- **When a connect keeps to connect identity.** On any database, whatever the clock, the provider
and the database answer: a Teller connect that returns does exactly if its item has no row yet or,
where it is given a connection, if that is the user's; an exchange that returns does exactly if its
item has no row yet and the database answers the save. -/
theorem connectIdentity_iff (L : Locale) (registered : String → Bool)
    (parseStr : String → Option Uuid) (userId : Uuid) (request : ProviderConnectRequest)
    (provider publicToken : String) (db : Database) (env : ℕ → ConnectReply) :
    (let run := (connectTellerProvider registered parseStr userId request).run (connectExec L) env
        ⟨db.toStore, 0, []⟩
      ∀ response, run.2.1 = .ok response →
        (ConnectIdentity L userId (some response.connectionId) run.1 ↔
          ConnectsOwn parseStr userId request db.toStore)) ∧
    (let run := (exchangePublicToken registered provider userId publicToken).run (connectExec L) env
        ⟨db.toStore, 0, []⟩
      ∀ response, run.2.1 = .ok response →
        (ConnectIdentity L userId none run.1 ↔ ExchangesNew db.toStore env)) := by
  constructor
  · exact run_of_ensures_always (ensures_connectTellerProvider (unsaved_start db))
  · intro run response hok
    have hprovider : registered provider = true := by
      by_contra hnot
      have hrun : run.2.1 = .error (.providerUnavailable provider) := by
        dsimp only [run]
        rw [exchangePublicToken, if_neg hnot]
        rfl
      rw [hrun] at hok
      cases hok
    rcases hcredentials : (env 0).credentials with message | credentials
    · have hask : (performConnect (.exchangePublicToken publicToken)).run (connectExec L) env
          ⟨db.toStore, 0, []⟩ =
            (⟨db.toStore, 0, []⟩, .error message, fun n ↦ env (n + 1)) := by
        rw [← hcredentials]
        rfl
      have hrun : run.2.1 = .error (.exchangeFailed message) := by
        dsimp only [run]
        rw [exchangePublicToken, if_pos hprovider, run_bind hask]
        rfl
      rw [hrun] at hok
      cases hok
    · exact exchangePublicToken_identity_iff userId env publicToken (unsaved_start db) hprovider
        hcredentials

/-- A request to connect an enrollment. -/
def enrollmentRequest : ProviderConnectRequest where
  provider := "teller"
  accessToken := "access-2"
  enrollmentId := "enr_1"
  institutionName := some "First Bank"
  connectionId := none

/-- The first connects of two items. -/
theorem connectIdentity_first :
    ConnectIdentity Locale.c 7 (some 9)
        ((connectTellerProvider (fun _ ↦ true) (fun _ ↦ none) 7 enrollmentRequest).run
          (connectExec Locale.c) (fun _ ↦ connectReply) ⟨Database.empty.toStore, 0, []⟩).1 ∧
      ConnectIdentity Locale.c 7 none
        ((exchangePublicToken (fun _ ↦ true) "plaid" 7 "public-1").run
          (connectExec Locale.c) (fun _ ↦ connectReply) ⟨Database.empty.toStore, 0, []⟩).1 := by
  obtain ⟨hteller, hexchange⟩ := connectIdentity_iff Locale.c (fun _ ↦ true) (fun _ ↦ none) 7
    enrollmentRequest "plaid" "public-1" Database.empty fun _ ↦ connectReply
  constructor
  · refine (hteller ⟨9, "First Bank"⟩ (by decide)).2 fun r hr ↦ ?_
    exact (List.not_mem_nil hr).elim
  · refine (hexchange ⟨"access-1", "item-1", some "ins_1", "First Bank"⟩ (by decide)).2
      ⟨rfl, fun _ _ r hr ↦ ?_⟩
    exact (List.not_mem_nil hr).elim

/-- The enrollment, connected before. -/
def enrolledDatabase : Database where
  toStore := { Store.empty with
    providerConnections := [{ checkingConnection with itemId := "teller_enr_1" }] }
  keyed := by decide
  referential := by decide

/-- **A reconnect without its row.** The enrollment is connected again, by its user. The row keeps
its id, the response carries another, and the fetched account is not stored. -/
theorem reconnect_loses_accounts :
    let run := (connectTellerProvider (fun _ ↦ true) (fun _ ↦ none) 7 enrollmentRequest).run
      (connectExec Locale.c) (fun _ ↦ connectReply) ⟨enrolledDatabase.toStore, 0, []⟩
    run.2.1 = .ok ⟨9, "First Bank"⟩ ∧ run.1.db.providerConnections.map ProviderConnection.id = [5] ∧
      fetchedAccounts run.1.calls = [checkingAccount] ∧ run.1.db.accounts = [] ∧
      ¬ ConnectIdentity Locale.c 7 (some 9) run.1 := by
  refine ⟨by decide, by decide, by decide, by decide, fun h ↦ ?_⟩
  obtain ⟨c, hc⟩ := List.exists_mem_of_ne_nil _ h.saved
  obtain ⟨r, hr, -, -, hrid⟩ := h.row c hc
  have hids := List.mem_map_of_mem (f := ProviderConnection.id) hr
  rw [hrid, ← h.returned c hc 9 rfl] at hids
  revert hids
  decide

end Sumurai
