import Sumurai.Connection.CountedAccounts

/-!
# Which accounts a connect counts

The Teller connect counts and caches the accounts whose upserts the database has accepted, as they
were fetched, and does so after the merge of duplicate accounts. A row that is there already keeps
its id, so the id that was fetched may be the id of no account (`TakesOwnId`). The merge deletes
rows, and the rows that the connection had before stay (`MergesOthers`).

`Taking` is the invariant of the loop: what has been accepted has its row, and has it under the
fetched id exactly if no accepted account has taken the row of another id. `perm_written_iff` then
compares the two lists after the merge.
-/

open Program

namespace Sumurai

/-! ### The condition -/

/-- An account that the database accepts takes no row of another id. -/
def TakesOwnId : CallMade → Prop
  | ⟨.upsertAccount a, db, .ok ()⟩ => ∀ r ∈ db.accounts, conflictsWith a r = true → r.id = a.id
  | _ => True

/-- Of the accounts of the connection, a merge removes those that were not just written, and no
others.
-/
def MergesOthers (L : Locale) (written : List Account) : CallMade → Prop
  | ⟨.mergeDuplicateProviderAccounts userId connectionId, db, .ok _⟩ =>
    ∀ r ∈ accountsOf db connectionId,
      r.id ∈ (duplicateAccounts L db userId connectionId).map Prod.fst ↔
        r.id ∉ written.map Account.id
  | ⟨.mergeDuplicateProviderAccounts _ connectionId, db, .error _⟩ =>
    ∀ r ∈ accountsOf db connectionId, r.id ∈ written.map Account.id
  | _ => True

instance : DecidablePred TakesOwnId := fun m ↦ by
  obtain ⟨call, db, answer⟩ := m
  induction call using ServiceCall.casesOn with
  | upsertAccount a =>
    exact match answer with
      | .error _ => isTrue trivial
      | .ok () => inferInstanceAs (Decidable (∀ r ∈ db.accounts,
          conflictsWith a r = true → r.id = a.id))
  | _ => exact isTrue trivial

instance (L : Locale) (written : List Account) : DecidablePred (MergesOthers L written) :=
    fun m ↦ by
  obtain ⟨call, db, answer⟩ := m
  induction call using ServiceCall.casesOn with
  | mergeDuplicateProviderAccounts userId connectionId =>
    exact match answer with
      | .error _ => inferInstanceAs (Decidable (∀ r ∈ accountsOf db connectionId,
          r.id ∈ written.map Account.id))
      | .ok _ => inferInstanceAs (Decidable (∀ r ∈ accountsOf db connectionId,
          r.id ∈ (duplicateAccounts L db userId connectionId).map Prod.fst ↔
            r.id ∉ written.map Account.id))
  | _ => exact isTrue trivial

/-- **When a connect keeps to the accounts of its connection**, as a condition on the world that it
starts in and on the stores that its calls find. A connect that stores nothing leaves everything as
it was. -/
structure ConnectKeepsToOwn (L : Locale) (connectionId : Uuid) (start : CachingWorld)
    (calls : List CallMade) : Prop where
  stored : ∀ m ∈ calls, TakesOwnId m
  once : ((writtenAccounts calls).map Account.id).Nodup
  merged : ∀ m ∈ calls, MergesOthers L (writtenAccounts calls) m
  counted : ∀ m ∈ calls, CountsAnyway connectionId m
  before : writtenAccounts calls = [] → AccountsAgree connectionId start

/-! ### Accounts and their ids -/

section Ids

variable {db db' : Store} {now : Timestamp} {a b : Account} {connectionId : Uuid}

theorem conflictsWith_iff_exists {r : Account} :
    conflictsWith a r = true ↔
      ∃ p, a.providerAccountId = some p ∧ r.providerAccountId = some p := by
  constructor
  · intro h
    rw [conflictsWith, Bool.and_eq_true, beq_iff_eq] at h
    obtain ⟨p, hp⟩ := Option.isSome_iff_exists.1 h.1
    exact ⟨p, h.2.symm.trans hp, hp⟩
  · rintro ⟨p, hap, hrp⟩
    exact (conflictsWith_iff hrp).2 hap

/-- An accepted account takes a row that is there, or gets a row of its own. -/
theorem ids_upsertAccount (h : upsertAccount db now a = .ok db') :
    (db'.accounts.map Account.ids = db.accounts.map Account.ids ∧
        ∃ r ∈ db.accounts, conflictsWith a r = true) ∨
      (db'.accounts.map Account.ids = db.accounts.map Account.ids ++ [a.ids] ∧
        ∀ r ∈ db.accounts, conflictsWith a r = false) := by
  rcases upsertAccount_cases h with ⟨f, hdb, htaken, hf⟩ | ⟨hdb, hfree⟩
  · refine Or.inl ⟨?_, htaken⟩
    rw [hdb, List.map_map]
    refine List.map_congr_left fun r _ ↦ ?_
    obtain ⟨hid, -, hprovider, -⟩ := hf r
    exact Prod.ext hid hprovider
  · refine Or.inr ⟨?_, hfree⟩
    rw [hdb, List.map_append]
    rfl

theorem filterMap_providerAccountId (accounts : List Account) :
    accounts.filterMap Account.providerAccountId =
      (accounts.map Account.ids).filterMap Prod.snd := by
  rw [List.filterMap_map]
  rfl

/-- Provider account ids stay unique. -/
theorem nodup_providerAccountIds_upsertAccount (h : upsertAccount db now a = .ok db')
    (hkey : (db.accounts.filterMap Account.providerAccountId).Nodup) :
    (db'.accounts.filterMap Account.providerAccountId).Nodup := by
  rcases ids_upsertAccount h with ⟨hids, -⟩ | ⟨hids, hfree⟩
  · rw [filterMap_providerAccountId, hids, ← filterMap_providerAccountId]
    exact hkey
  · rw [filterMap_providerAccountId, hids, List.filterMap_append, ← filterMap_providerAccountId]
    refine hkey.append ?_ ?_
    · rcases hp : a.providerAccountId with - | p <;> simp [Account.ids, hp]
    · intro p hp hpa
      obtain ⟨r, hr, hrp⟩ := List.mem_filterMap.1 hp
      obtain ⟨k, hk, hkp⟩ := List.mem_filterMap.1 hpa
      rw [List.mem_singleton.1 hk] at hkp
      have hconflict := (conflictsWith_iff hrp).2 hkp
      rw [hfree r hr] at hconflict
      exact Bool.false_ne_true hconflict

/-- **Whether an account takes its own id** shows in the ids after it. -/
theorem takesOwnId_iff (hkey : (db.accounts.filterMap Account.providerAccountId).Nodup)
    (h : upsertAccount db now a = .ok db') :
    (∀ r ∈ db.accounts, conflictsWith a r = true → r.id = a.id) ↔
      a.ids ∈ db'.accounts.map Account.ids := by
  rcases ids_upsertAccount h with ⟨hids, taken, htaken, hconflict⟩ | ⟨hids, hfree⟩
  · rw [hids]
    constructor
    · intro hown
      obtain ⟨p, hap, htakenp⟩ := conflictsWith_iff_exists.1 hconflict
      refine List.mem_map.2 ⟨taken, htaken, Prod.ext (hown taken htaken hconflict) ?_⟩
      exact htakenp.trans hap.symm
    · intro hmem r hr hrconflict
      -- the row with these ids is the only one with the provider account id
      obtain ⟨s, hs, hsids⟩ := List.mem_map.1 hmem
      obtain ⟨hsid, hsp⟩ := Prod.mk.inj hsids
      obtain ⟨p, hap, hrp⟩ := conflictsWith_iff_exists.1 hrconflict
      rw [eq_of_nodup_filterMap hkey hr hs hrp (hsp.trans hap)]
      exact hsid
  · refine iff_of_true (fun r hr hconflict ↦ ?_) ?_
    · rw [hfree r hr] at hconflict
      exact absurd hconflict Bool.false_ne_true
    · rw [hids]
      exact List.mem_append_right _ (List.mem_singleton.2 rfl)

/-- The ids of an account that has its row are there after another write exactly if they were
before. -/
theorem ids_mem_upsertAccount {r : Account} (hids : (db.accounts.map Account.id).Nodup)
    (h : upsertAccount db now a = .ok db') (hr : r ∈ db.accounts) (hrow : IsAccountRowOf b r) :
    b.ids ∈ db'.accounts.map Account.ids ↔ b.ids ∈ db.accounts.map Account.ids := by
  rcases ids_upsertAccount h with ⟨hsame, -⟩ | ⟨hmore, hfree⟩
  · rw [hsame]
  · rw [hmore]
    refine ⟨fun hmem ↦ ?_, List.mem_append_left _⟩
    rcases List.mem_append.1 hmem with hmem | hmem
    · exact hmem
    · -- the new row would be that of the account
      obtain ⟨hid, hprovider⟩ := Prod.mk.inj (List.mem_singleton.1 hmem)
      exfalso
      rcases hp : b.providerAccountId with - | p
      · have hnew := nodup_accountIds_upsertAccount h hids
        have hfst : ∀ accounts : List Account,
            accounts.map Account.id = (accounts.map Account.ids).map Prod.fst := by
          intro accounts
          rw [List.map_map]
          rfl
        rw [hfst, hmore, List.map_append, List.nodup_append, ← hfst] at hnew
        exact hnew.2.2 _ (List.mem_map_of_mem hr) _ (List.mem_singleton.2 rfl)
          ((hrow.id hp).trans hid)
      · have hconflict := conflictsWith_iff_exists.2 ⟨p, hprovider.symm.trans hp,
          hrow.providerAccountId.trans hp⟩
        rw [hfree r hr] at hconflict
        exact Bool.false_ne_true hconflict

end Ids

/-! ### The merge -/

section Merge

variable {L : Locale} {db : Store} {userId connectionId : Uuid} {written : List Account} {e : Reply}

/-- What a merge leaves, and when it removes the others. -/
theorem merge_cases (L : Locale) (e : Reply) (db : Store) (userId connectionId : Uuid)
    (written : List Account) :
    (answer L e db (.mergeDuplicateProviderAccounts userId connectionId)).1.accounts ⊆ db.accounts ∧
      (MergesOthers L written ⟨.mergeDuplicateProviderAccounts userId connectionId, db,
          (answer L e db (.mergeDuplicateProviderAccounts userId connectionId)).2⟩ ↔
        ∀ r ∈ accountsOf db connectionId,
          r ∈ (answer L e db (.mergeDuplicateProviderAccounts userId connectionId)).1.accounts ↔
            r.id ∈ written.map Account.id) := by
  rcases valueStatement_cases e db (mergeDuplicateProviderAccounts L db userId connectionId) with
    ⟨err, hanswer⟩ | ⟨db', n, hok, hanswer⟩
  · have hanswer : answer L e db (.mergeDuplicateProviderAccounts userId connectionId) =
      (db, .error err) := hanswer
    rw [hanswer]
    refine ⟨fun _ h ↦ h, forall_congr' fun r ↦ forall_congr' fun hr ↦ ?_⟩
    exact (iff_true_left (List.mem_of_mem_filter hr)).symm
  · have hanswer : answer L e db (.mergeDuplicateProviderAccounts userId connectionId) =
      (db', .ok n) := hanswer
    have hmem := fun r ↦ mem_accounts_mergeDuplicateProviderAccounts (r := r) hok
    rw [hanswer]
    refine ⟨fun r hr ↦ ((hmem r).1 hr).1, forall_congr' fun r ↦ forall_congr' fun hr ↦ ?_⟩
    rw [hmem, and_iff_right (List.mem_of_mem_filter hr)]
    exact iff_not_comm.trans Iff.comm

end Merge

/-! ### The loop -/

/-- The loop over the fetched accounts: what has been accepted has its row, and has it under its own
id exactly if no account has taken the row of another. -/
structure Taking (L : Locale) (connectionId : Uuid) (db saved : Store) (w : World) : Prop where
  connections : w.db.providerConnections = saved.providerConnections
  ids : (w.db.accounts.map Account.id).Nodup
  providerIds : (w.db.accounts.filterMap Account.providerAccountId).Nodup
  taken : ∀ a ∈ writtenAccounts w.calls, ∃ r ∈ w.db.accounts,
    IsAccountRowOf a r ∧ r.providerConnectionId = some connectionId
  stored : (∀ m ∈ w.calls, TakesOwnId m) ↔
    ∀ a ∈ writtenAccounts w.calls, a.ids ∈ w.db.accounts.map Account.ids
  merged : ∀ m ∈ w.calls, ∀ written, MergesOthers L written m
  counted : ∀ m ∈ w.calls, CountsAnyway connectionId m
  untouched : writtenAccounts w.calls = [] → w.db.accounts = db.accounts

section Loop

variable {L : Locale} {userId connectionId : Uuid} {db saved : Store} {w : World}

theorem writtenAccounts_refused {a : Account} {e : Reply} {err : DbError}
    (hanswer : answer L e w.db (.upsertAccount a) = (w.db, .error err)) :
    writtenAccounts (exec L (.upsertAccount a) e w).1.calls = writtenAccounts w.calls := by
  rw [exec_of_answer hanswer, writtenAccounts_append]
  exact List.append_nil _

theorem writtenAccounts_accepted {a : Account} {e : Reply} {db' : Store}
    (hanswer : answer L e w.db (.upsertAccount a) = (db', .ok ())) :
    writtenAccounts (exec L (.upsertAccount a) e w).1.calls = writtenAccounts w.calls ++ [a] := by
  rw [exec_of_answer hanswer, writtenAccounts_append]
  rfl

/-- An account that the database refuses changes nothing. -/
theorem Taking.refused (h : Taking L connectionId db saved w) {a : Account} {e : Reply}
    {err : DbError} (hanswer : answer L e w.db (.upsertAccount a) = (w.db, .error err)) :
    Taking L connectionId db saved (exec L (.upsertAccount a) e w).1 := by
  have hdb : (exec L (.upsertAccount a) e w).1.db = w.db := congrArg Prod.fst hanswer
  constructor
  · rw [hdb]
    exact h.connections
  · rw [hdb]
    exact h.ids
  · rw [hdb]
    exact h.providerIds
  · rw [hdb, writtenAccounts_refused hanswer]
    exact h.taken
  · rw [hdb, writtenAccounts_refused hanswer, forall_mem_calls_exec, hanswer]
    exact (and_iff_left trivial).trans h.stored
  · exact forall_mem_calls_exec.2 ⟨h.merged, fun _ ↦ trivial⟩
  · exact forall_mem_calls_exec.2 ⟨h.counted, trivial⟩
  · rw [hdb, writtenAccounts_refused hanswer]
    exact h.untouched

/-- **An account that the database accepts** has its row, as those before it have theirs. -/
theorem Taking.accepted (h : Taking L connectionId db saved w) {a : Account} {e : Reply}
    {db' : Store}
    (hok : upsertAccount w.db e.now (attachedTo userId connectionId a) = .ok db')
    (hanswer : answer L e w.db (.upsertAccount (attachedTo userId connectionId a)) =
      (db', .ok ())) :
    Taking L connectionId db saved
      (exec L (.upsertAccount (attachedTo userId connectionId a)) e w).1 := by
  have hdb : (exec L (.upsertAccount (attachedTo userId connectionId a)) e w).1.db = db' :=
    congrArg Prod.fst hanswer
  constructor
  · rw [hdb]
    exact (upsertAccount_frame hok).1.trans h.connections
  · rw [hdb]
    exact nodup_accountIds_upsertAccount hok h.ids
  · rw [hdb]
    exact nodup_providerAccountIds_upsertAccount hok h.providerIds
  · rw [hdb, writtenAccounts_accepted hanswer, List.forall_mem_append, List.forall_mem_singleton]
    constructor
    · intro b hb
      obtain ⟨r, hr, hrow, hconn⟩ := h.taken b hb
      exact exists_accountRow_upsertAccount hok rfl hr hrow hconn
    · obtain ⟨r, hr, hrow, hconn⟩ := exists_accountRow_of_upsertAccount hok
      exact ⟨r, hr, ⟨hrow.providerAccountId, hrow.id⟩, hconn⟩
  · rw [hdb, writtenAccounts_accepted hanswer, forall_mem_calls_exec, hanswer,
      List.forall_mem_append, List.forall_mem_singleton, h.stored]
    refine and_congr (forall_congr' fun b ↦ forall_congr' fun hb ↦ ?_)
      (takesOwnId_iff h.providerIds hok)
    obtain ⟨r, hr, hrow, -⟩ := h.taken b hb
    exact (ids_mem_upsertAccount h.ids hok hr hrow).symm
  · exact forall_mem_calls_exec.2 ⟨h.merged, fun _ ↦ trivial⟩
  · exact forall_mem_calls_exec.2 ⟨h.counted, trivial⟩
  · rw [writtenAccounts_accepted hanswer]
    intro hnone
    exact absurd hnone (List.append_ne_nil_of_right_ne_nil _ (List.cons_ne_nil _ _))

theorem ensures_persistConnectAccounts_taking {connection : ProviderConnection}
    (h : Taking L connection.id db saved w) (hnone : writtenAccounts w.calls = [])
    (accounts : List Account) :
    (persistConnectAccounts userId connection accounts).Ensures (connecting L)
      (fun persisted w' ↦ persisted = writtenAccounts w'.calls ∧
        Taking L connection.id db saved w') w := by
  refine Ensures.forEach (I := fun _ persisted w' ↦ persisted = writtenAccounts w'.calls ∧
    Taking L connection.id db saved w') ?_ ⟨hnone.symm, h⟩
  rintro before a after persisted w' - ⟨hpersisted, hw'⟩
  refine ensures_bind.2 (ensures_ask_alone.2 fun e _ ↦ ?_)
  rcases unitStatement_cases e.toReply w'.db (upsertAccount w'.db e.now
    (attachedTo userId connection.id a)) with ⟨err, hanswer⟩ | ⟨db', hok, hanswer⟩
  · have hanswer : answer L e.toReply w'.db (.upsertAccount (attachedTo userId connection.id a)) =
      (w'.db, .error err) := hanswer
    split
    · rename_i haccepted
      exact absurd ((congrArg Prod.snd hanswer).symm.trans haccepted) nofun
    · exact ⟨hpersisted.trans (writtenAccounts_refused hanswer).symm, hw'.refused hanswer⟩
  · have hanswer : answer L e.toReply w'.db (.upsertAccount (attachedTo userId connection.id a)) =
      (db', .ok ()) := hanswer
    split
    · refine ⟨?_, hw'.accepted hok hanswer⟩
      rw [hpersisted]
      exact (writtenAccounts_accepted hanswer).symm
    · rename_i hrefused
      exact absurd ((congrArg Prod.snd hanswer).symm.trans hrefused) nofun

end Loop

/-! ### The end -/

/-- The account lists that are left in the cache by a connect. -/
def cacheAfterConnect (start : CachingWorld) (connectionId : Uuid) (persisted : List Account) :
    AccountCache :=
  if persisted = [] then start.cache else [(connectionId, persisted)]

section Finish

variable {L : Locale} {userId connectionId : Uuid} {db saved : Store} {w : World}

/-- **The accepted accounts and the stored ones.** -/
theorem Taking.listsAccountsOf_iff (h : Taking L connectionId db saved w) (userId : Uuid)
    (e : Reply) :
    ListsAccountsOf (answer L e w.db (.mergeDuplicateProviderAccounts userId connectionId)).1
        connectionId (writtenAccounts w.calls) ↔
      (∀ m ∈ w.calls, TakesOwnId m) ∧ ((writtenAccounts w.calls).map Account.id).Nodup ∧
        MergesOthers L (writtenAccounts w.calls)
          ⟨.mergeDuplicateProviderAccounts userId connectionId, w.db,
            (answer L e w.db (.mergeDuplicateProviderAccounts userId connectionId)).2⟩ := by
  obtain ⟨hsub, hmerges⟩ := merge_cases L e w.db userId connectionId (writtenAccounts w.calls)
  have hleft := nodup_accountIds_answer (L := L)
    (.mergeDuplicateProviderAccounts userId connectionId) e rfl h.ids
  rw [hmerges, h.stored]
  generalize (answer L e w.db (.mergeDuplicateProviderAccounts userId connectionId)).1 = left at *
  have hparts : ((accountsOf left connectionId).map (Prod.fst ∘ Account.ids)).Nodup :=
    hleft.sublist (List.filter_sublist.map _)
  rw [ListsAccountsOf, map_perm_iff_of_part hparts]
  have hmem : ∀ r, r ∈ accountsOf left connectionId ↔
      r ∈ accountsOf w.db connectionId ∧ r ∈ left.accounts := by
    intro r
    rw [accountsOf, accountsOf, List.mem_filter, List.mem_filter]
    exact ⟨fun h ↦ ⟨⟨hsub h.1, h.2⟩, h.1⟩, fun h ↦ ⟨h.2, h.1.2⟩⟩
  constructor
  · rintro ⟨hlisted, honce, hall⟩
    refine ⟨fun a ha ↦ ?_, honce, fun r hr ↦ ⟨fun hrleft ↦ hall r ((hmem r).2 ⟨hr, hrleft⟩),
      fun hwritten ↦ ?_⟩⟩
    · obtain ⟨r, hr, hids⟩ := List.mem_map.1 (hlisted a ha)
      exact hids ▸ List.mem_map_of_mem (hsub (List.mem_of_mem_filter hr))
    · -- the account that was written with the id has a row, which has the id
      obtain ⟨a, ha, haid⟩ := List.mem_map.1 hwritten
      obtain ⟨s, hs, hids⟩ := List.mem_map.1 (hlisted a ha)
      have hid : s.id = r.id := (congrArg Prod.fst hids).trans haid
      rw [← List.inj_on_of_nodup_map h.ids (hsub (List.mem_of_mem_filter hs))
        (List.mem_of_mem_filter hr) hid]
      exact List.mem_of_mem_filter hs
  · rintro ⟨hstored, honce, hstay⟩
    refine ⟨fun a ha ↦ ?_, honce, fun r hr ↦ ?_⟩
    · obtain ⟨r, hr, hids⟩ := List.mem_map.1 (hstored a ha)
      obtain ⟨hid, hprovider⟩ := Prod.mk.inj hids
      obtain ⟨s, hs, hrow, hconn⟩ := h.taken a ha
      -- the row of the account on the connection is the one that has its ids
      have hrs : r = s := by
        rcases hp : a.providerAccountId with - | p
        · exact List.inj_on_of_nodup_map h.ids hr hs (hid.trans (hrow.id hp).symm)
        · exact eq_of_nodup_filterMap h.providerIds hr hs (hprovider.trans hp)
            (hrow.providerAccountId.trans hp)
      have hron : r ∈ accountsOf w.db connectionId := by
        rw [accountsOf, List.mem_filter, hrs]
        exact ⟨hs, decide_eq_true hconn⟩
      rw [← hids]
      refine List.mem_map_of_mem ((hmem r).2 ⟨hron, (hstay r hron).2 ?_⟩)
      exact hid ▸ List.mem_map_of_mem ha
    · obtain ⟨hron, hrleft⟩ := (hmem r).1 hr
      exact (hstay r hron).1 hrleft

theorem connectKeepsToOwn_of_none {start : CachingWorld} (hnone : writtenAccounts w.calls = [])
    (h : Taking L connectionId db saved w) :
    ConnectKeepsToOwn L connectionId start w.calls ↔ AccountsAgree connectionId start := by
  constructor
  · intro hkeeps
    exact hkeeps.before hnone
  · intro hagree
    refine ⟨h.stored.2 ?_, ?_, fun m hm ↦ h.merged m hm _, h.counted, fun _ ↦ hagree⟩
    · rw [hnone]
      exact fun a ha ↦ (List.not_mem_nil ha).elim
    · rw [hnone]
      exact List.nodup_nil

/-- A connect that stores nothing leaves what it found. -/
theorem Taking.unwritten {start : CachingWorld} (h : Taking L connectionId start.world.db saved w)
    (hnone : writtenAccounts w.calls = []) (hsaved : saved.accounts = start.world.db.accounts)
    (hcounts : CountsAccountsOf saved connectionId ↔
      CountsAccountsOf start.world.db connectionId) :
    AccountsAgree connectionId ⟨w, start.cache⟩ ↔
      ConnectKeepsToOwn L connectionId start w.calls := by
  have haccounts := h.untouched hnone
  rw [connectKeepsToOwn_of_none hnone h]
  have hlists : ∀ accounts, ListsAccountsOf w.db connectionId accounts ↔
      ListsAccountsOf start.world.db connectionId accounts := by
    intro accounts
    rw [ListsAccountsOf, accountsOf_congr haccounts, ListsAccountsOf]
  have hcounts : CountsAccountsOf w.db connectionId ↔
      CountsAccountsOf start.world.db connectionId := by
    rw [← hcounts, CountsAccountsOf, CountsAccountsOf, h.connections,
      accountsOf_congr (haccounts.trans hsaved.symm)]
  constructor
  · intro hagree
    exact ⟨fun accounts hcached ↦ (hlists accounts).1 (hagree.cached accounts hcached),
      hcounts.1 hagree.counted⟩
  · intro hagree
    exact ⟨fun accounts hcached ↦ (hlists accounts).2 (hagree.cached accounts hcached),
      hcounts.2 hagree.counted⟩

/-- The condition after the merge and the last save. -/
theorem connectKeepsToOwn_iff {start : CachingWorld} {c : ProviderConnection}
    (h : Taking L c.id db saved w) (hsome : writtenAccounts w.calls ≠ []) (userId : Uuid)
    (e e' : Reply) :
    let w₁ := (exec L (.mergeDuplicateProviderAccounts userId c.id) e w).1
    ConnectKeepsToOwn L c.id start (exec L (.saveProviderConnection c) e' w₁).1.calls ↔
      ((∀ m ∈ w.calls, TakesOwnId m) ∧ ((writtenAccounts w.calls).map Account.id).Nodup ∧
        MergesOthers L (writtenAccounts w.calls) ⟨.mergeDuplicateProviderAccounts userId c.id, w.db,
          (answer L e w.db (.mergeDuplicateProviderAccounts userId c.id)).2⟩) ∧
      CountsAnyway c.id
        ⟨.saveProviderConnection c, w₁.db, (answer L e' w₁.db (.saveProviderConnection c)).2⟩ := by
  intro w₁
  have hwritten : writtenAccounts (exec L (.saveProviderConnection c) e' w₁).1.calls =
      writtenAccounts w.calls :=
    (writtenAccounts_exec (by simp)).trans (writtenAccounts_exec (by simp))
  constructor
  · intro ⟨hstored, honce, hmerged, hcounted, _⟩
    rw [hwritten] at honce hmerged
    obtain ⟨hstored, -⟩ := forall_mem_calls_exec.1 hstored
    obtain ⟨hmerged, -⟩ := forall_mem_calls_exec.1 hmerged
    exact ⟨⟨(forall_mem_calls_exec.1 hstored).1, honce, (forall_mem_calls_exec.1 hmerged).2⟩,
      (forall_mem_calls_exec.1 hcounted).2⟩
  · intro ⟨⟨hstored, honce, hmerged⟩, hcounted⟩
    constructor
    · exact forall_mem_calls_exec.2 ⟨forall_mem_calls_exec.2 ⟨hstored, trivial⟩, trivial⟩
    · rw [hwritten]
      exact honce
    · rw [hwritten]
      exact forall_mem_calls_exec.2
        ⟨forall_mem_calls_exec.2 ⟨fun m hm ↦ h.merged m hm _, hmerged⟩, trivial⟩
    · exact forall_mem_calls_exec.2
        ⟨forall_mem_calls_exec.2 ⟨h.counted, trivial⟩, hcounted⟩
    · rw [hwritten]
      exact fun hnone ↦ absurd hnone hsome

/-- **The end of a connect that has stored accounts.** -/
theorem Taking.finish {start : CachingWorld} {c : ProviderConnection}
    (h : Taking L c.id db saved w) (hsome : writtenAccounts w.calls ≠ [])
    (hrows : ∀ r ∈ saved.providerConnections, r.id = c.id → r.itemId = c.itemId)
    (hcount : c.accountCount = (writtenAccounts w.calls).length) (userId : Uuid) (e e' : Reply) :
    let w₁ := (exec L (.mergeDuplicateProviderAccounts userId c.id) e w).1
    let w₂ := (exec L (.saveProviderConnection c) e' w₁).1
    AccountsAgree c.id ⟨w₂, [(c.id, writtenAccounts w.calls)]⟩ ↔
      ConnectKeepsToOwn L c.id start w₂.calls := by
  intro w₁ w₂
  have hlists := h.listsAccountsOf_iff userId e
  have haccounts : w₂.db.accounts = w₁.db.accounts := accounts_answer rfl
  have hkeeps : ConnectKeepsToOwn L c.id start w₂.calls ↔ _ :=
    connectKeepsToOwn_iff h hsome userId e e'
  rw [hkeeps, accountsAgree_single, ← hlists, ListsAccountsOf, accountsOf_congr haccounts,
    ← ListsAccountsOf]
  refine and_congr_right fun hlisted ↦ countsAccountsOf_exec_save ?_ ?_
  · have hconnections : w₁.db.providerConnections = w.db.providerConnections :=
      providerConnections_answer rfl
    rw [hconnections, h.connections]
    exact hrows
  · rw [hcount, hlisted.length]

/-- The merge of duplicate accounts, the last save and the cache. -/
theorem Taking.ensures_finishConnect {start : CachingWorld} {connection : ProviderConnection}
    (h : Taking L connection.id start.world.db saved w) (userId : Uuid)
    (hrows : ∀ r ∈ saved.providerConnections, r.id = connection.id → r.itemId = connection.itemId)
    (hsaved : saved.accounts = start.world.db.accounts)
    (hcounts : CountsAccountsOf saved connection.id ↔
      CountsAccountsOf start.world.db connection.id) :
    (finishConnect userId connection (writtenAccounts w.calls)).Ensures (connecting L)
      (fun _ w' ↦ AccountsAgree connection.id
          ⟨w', cacheAfterConnect start connection.id (writtenAccounts w.calls)⟩ ↔
        ConnectKeepsToOwn L connection.id start w'.calls) w := by
  rw [finishConnect, cacheAfterConnect]
  split
  · rename_i hnone
    exact h.unwritten hnone hsaved hcounts
  · rename_i hsome
    refine ensures_bind.2 (ensures_ask_alone.2 fun e _ ↦ ?_)
    refine ensures_bind.2 (ensures_ask_alone.2 fun e' _ ↦ ?_)
    exact Taking.finish
      (c := { connection with accountCount := (writtenAccounts w.calls).length }) h hsome hrows rfl
      userId e.toReply e'.toReply

end Finish

/-! ### Before the accounts -/

/-- A call that neither writes accounts nor fails to save a connection. -/
def Uneventful : CallMade → Prop
  | ⟨.upsertAccount _, _, _⟩ => False
  | ⟨.mergeDuplicateProviderAccounts _ _, _, _⟩ => False
  | ⟨.saveProviderConnection _, _, .error _⟩ => False
  | _ => True

/-- A connect that has written no account yet. The connections are those of `store`. -/
structure Unstored (db store : Store) (w : World) : Prop where
  connections : w.db.providerConnections = store.providerConnections
  accounts : w.db.accounts = db.accounts
  uneventful : ∀ m ∈ w.calls, Uneventful m

/-- A connection that is counted as its row is or, if it has none, as empty. -/
structure CountedAsStored (db : Store) (c : ProviderConnection) : Prop where
  row : ∀ r ∈ db.providerConnections, r.id = c.id →
    r.itemId = c.itemId ∧ r.accountCount = c.accountCount
  fresh : c.id ∉ db.providerConnections.map ProviderConnection.id → c.accountCount = 0

section Unstored

variable {L : Locale} {userId connectionId : Uuid} {db store saved : Store} {w : World}
  {m : CallMade} {c : ProviderConnection}

theorem Uneventful.takesOwnId (h : Uneventful m) : TakesOwnId m := by
  obtain ⟨call, db, answer⟩ := m
  cases call <;> trivial

theorem Uneventful.mergesOthers (h : Uneventful m) (written : List Account) :
    MergesOthers L written m := by
  obtain ⟨call, db, answer⟩ := m
  cases call <;> trivial

theorem Uneventful.countsAnyway (h : Uneventful m) : CountsAnyway connectionId m := by
  obtain ⟨call, db, answer⟩ := m
  cases call with
  | saveProviderConnection c =>
    rcases answer with err | ⟨⟩
    · exact h.elim
    · trivial
  | _ => trivial

theorem writtenAccounts_eq_nil {calls : List CallMade} (h : ∀ m ∈ calls, Uneventful m) :
    writtenAccounts calls = [] := by
  refine List.filterMap_eq_nil_iff.2 fun m hm ↦ ?_
  have hm := h m hm
  obtain ⟨call, db, answer⟩ := m
  cases call <;> first | rfl | exact hm.elim

/-- The loop starts where nothing is written. -/
theorem Unstored.taking (h : Unstored db saved w) (hids : (db.accounts.map Account.id).Nodup)
    (hkey : (db.accounts.filterMap Account.providerAccountId).Nodup) :
    Taking L connectionId db saved w where
  connections := h.connections
  ids := h.accounts ▸ hids
  providerIds := h.accounts ▸ hkey
  taken := by
    rw [writtenAccounts_eq_nil h.uneventful]
    exact fun a ha ↦ (List.not_mem_nil ha).elim
  stored := by
    rw [writtenAccounts_eq_nil h.uneventful]
    exact iff_of_true (fun m hm ↦ (h.uneventful m hm).takesOwnId)
      fun a ha ↦ (List.not_mem_nil ha).elim
  merged m hm := (h.uneventful m hm).mergesOthers
  counted m hm := (h.uneventful m hm).countsAnyway
  untouched _ := h.accounts

theorem Unstored.exec (h : Unstored db store w) (call : ServiceCall) (e : Reply)
    (hconnections : call.keepsConnections = true) (haccounts : call.keepsAccounts = true)
    (hlog : Uneventful ⟨call, w.db, (answer L e w.db call).2⟩) :
    Unstored db store (exec L call e w).1 where
  connections := (providerConnections_answer hconnections).trans h.connections
  accounts := (accounts_answer haccounts).trans h.accounts
  uneventful := forall_mem_calls_exec.2 ⟨h.uneventful, hlog⟩

theorem Unstored.connectExec (h : Unstored db store w) {op : ConnectCall} (hop : BeforeSave op)
    (e : ConnectReply) : Unstored db store (connectExec L op e w).1 := by
  cases op with
  | service op =>
    cases op with
    | now => exact h.exec .now e.toReply rfl rfl trivial
    | getProviderConnectionById connectionId =>
      exact h.exec (.getProviderConnectionById connectionId) e.toReply rfl rfl trivial
    | _ => exact hop.elim
  | storeProviderCredentialsForUser userId itemId accessToken =>
    rw [Sumurai.connectExec]
    split
    · unfold storeProviderCredentialsForUser
      split <;> exact ⟨h.connections, h.accounts, h.uneventful⟩
    · exact h
  | _ => exact h

/-- The first save. -/
theorem Unstored.save (h : Unstored db store w) {e : Reply}
    (hanswer : answer L e w.db (.saveProviderConnection c) = (saved, .ok ())) :
    Unstored db saved (Sumurai.exec L (.saveProviderConnection c) e w).1 ∧
      saved.accounts = db.accounts := by
  have hdb : (Sumurai.exec L (.saveProviderConnection c) e w).1.db = saved :=
    congrArg Prod.fst hanswer
  have haccounts : (Sumurai.exec L (.saveProviderConnection c) e w).1.db.accounts = db.accounts :=
    (accounts_answer rfl).trans h.accounts
  refine ⟨⟨congrArg Store.providerConnections hdb, haccounts, ?_⟩, hdb ▸ haccounts⟩
  refine forall_mem_calls_exec.2 ⟨h.uneventful, ?_⟩
  rw [hanswer]
  trivial

/-- Where the rows of an id have one count, it is right or it is not. -/
theorem countsAccountsOf_iff {k : ℤ}
    (hall : ∀ r ∈ db.providerConnections, r.id = connectionId → r.accountCount = k)
    (hexists : connectionId ∈ db.providerConnections.map ProviderConnection.id) :
    CountsAccountsOf db connectionId ↔ k = (accountsOf db connectionId).length := by
  constructor
  · intro hcounts
    obtain ⟨r, hr, hid⟩ := List.mem_map.1 hexists
    rw [← hall r hr hid]
    exact hcounts r hr hid
  · intro hk r hr hid
    rw [hall r hr hid]
    exact hk

/-- The rows with the id of a connection, after its save. -/
theorem CountedAsStored.rowsAfterSave (h : CountedAsStored db c)
    (hok : saveProviderConnection store c = .ok saved)
    (hconnections : store.providerConnections = db.providerConnections) :
    (∀ r ∈ saved.providerConnections, r.id = c.id →
        r.itemId = c.itemId ∧ r.accountCount = c.accountCount) ∧
      (c.id ∈ db.providerConnections.map ProviderConnection.id →
        c.id ∈ saved.providerConnections.map ProviderConnection.id) := by
  rcases saveProviderConnection_cases hok with ⟨-, rfl⟩ | ⟨hnone, rfl⟩
  · constructor
    · intro r' hr' hid
      obtain ⟨r, hr, rfl⟩ := List.mem_map.1 hr'
      rw [hconnections] at hr
      by_cases hsame : r.itemId = c.itemId
      · rw [if_pos hsame]
        exact ⟨rfl, rfl⟩
      · rw [if_neg hsame] at hid ⊢
        exact h.row r hr hid
    · intro hid
      rw [← hconnections] at hid
      obtain ⟨r, hr, hrid⟩ := List.mem_map.1 hid
      refine List.mem_map.2 ⟨_, List.mem_map_of_mem hr, ?_⟩
      split <;> exact hrid
  · constructor
    · intro r hr hid
      rcases List.mem_append.1 hr with hr | hr
      · exact h.row r (hconnections ▸ hr) hid
      · rw [List.mem_singleton.1 hr]
        exact ⟨rfl, rfl⟩
    · intro _
      rw [List.map_append]
      exact List.mem_append_right _ (List.mem_singleton.2 rfl)

/-- **The first save leaves the count** as right as it was. -/
theorem CountedAsStored.countsAccountsOf_iff {db : Database} (h : CountedAsStored db.toStore c)
    (hok : saveProviderConnection store c = .ok saved)
    (hconnections : store.providerConnections = db.providerConnections)
    (haccounts : saved.accounts = db.accounts) :
    CountsAccountsOf saved c.id ↔ CountsAccountsOf db.toStore c.id := by
  obtain ⟨hrows, hthere⟩ := h.rowsAfterSave hok hconnections
  by_cases hid : c.id ∈ db.providerConnections.map ProviderConnection.id
  · rw [Sumurai.countsAccountsOf_iff (fun r hr hrid ↦ (hrows r hr hrid).2) (hthere hid),
      Sumurai.countsAccountsOf_iff (fun r hr hrid ↦ (h.row r hr hrid).2) hid,
      accountsOf_congr haccounts]
  · have hnone : accountsOf db.toStore c.id = [] := by
      refine List.filter_eq_nil_iff.2 fun a ha hconn ↦ hid ?_
      exact db.referential.accounts_providerConnectionId_fkey a ha c.id (of_decide_eq_true hconn)
    refine iff_of_true (fun r hr hrid ↦ ?_) fun r hr hrid ↦ ?_
    · rw [(hrows r hr hrid).2, h.fresh hid, accountsOf_congr haccounts, hnone]
      rfl
    · exact absurd (hrid ▸ List.mem_map_of_mem hr) hid

end Unstored

/-! ### The connect -/

/-- What a connect counts, and the cache has after it, is right if it keeps to the accounts of its
connection, and only then. -/
def ConnectAgreesIffOwn (L : Locale) (start : CachingWorld)
    (result : Except TellerConnectError (ProviderConnectResponse × List Account)) (w : World) :
    Prop :=
  ∀ response persisted, result = .ok (response, persisted) →
    (AccountsAgree response.connectionId
        ⟨w, cacheAfterConnect start response.connectionId persisted⟩ ↔
      ConnectKeepsToOwn L response.connectionId start w.calls)

section Connecting

variable {L : Locale} {registered : String → Bool} {parseStr : String → Option Uuid} {userId : Uuid}
  {request : ProviderConnectRequest} {connection : ProviderConnection} {db : Database}
    {saved : Store}
  {start : CachingWorld} {w : World}

/-- The accounts of a saved connection. -/
theorem ensures_connectAndListAccounts (hstart : start.world.db = db.toStore)
    (h : Unstored db.toStore saved w)
    (hrows : ∀ r ∈ saved.providerConnections, r.id = connection.id → r.itemId = connection.itemId)
    (hsaved : saved.accounts = db.accounts)
    (hcounts : CountsAccountsOf saved connection.id ↔ CountsAccountsOf db.toStore connection.id)
    (credentials : ProviderCredentials) :
    (connectAndListAccounts userId connection credentials).Ensures (connecting L)
      (fun persisted w' ↦ AccountsAgree connection.id
          ⟨w', cacheAfterConnect start connection.id persisted⟩ ↔
        ConnectKeepsToOwn L connection.id start w'.calls) w := by
  rw [← hstart] at hcounts
  refine ensures_bind.2 (ensures_ask_alone.2 fun e _ ↦ ?_)
  have h₁ := h.exec (L := L) (.getAccounts credentials) e.toReply rfl rfl trivial
  have hnone := writtenAccounts_eq_nil h₁.uneventful
  have htaking : Taking L connection.id start.world.db saved
      (exec L (.getAccounts credentials) e.toReply w).1 := by
    rw [hstart]
    exact h₁.taking db.keyed.accounts_pkey db.keyed.accounts_providerAccountId_key
  split
  · have hfinish := htaking.ensures_finishConnect userId hrows
      (hsaved.trans (congrArg Store.accounts hstart.symm)) hcounts
    rw [hnone] at hfinish
    exact ensures_bind.2 (hfinish.imp fun _ _ hend ↦ hend)
  · rename_i accounts _
    refine ensures_bind.2 ((ensures_persistConnectAccounts_taking htaking hnone accounts).imp ?_)
    rintro persisted w₂ ⟨rfl, h₂⟩
    have hfinish := h₂.ensures_finishConnect userId hrows
      (hsaved.trans (congrArg Store.accounts hstart.symm)) hcounts
    exact ensures_bind.2 (hfinish.imp fun _ _ hend ↦ hend)

theorem CountedAsStored.congr {db : Store} {c c' : ProviderConnection} (h : CountedAsStored db c)
    (hid : c'.id = c.id) (hitem : c'.itemId = c.itemId)
    (hcount : c'.accountCount = c.accountCount) :
    CountedAsStored db c' := by
  refine ⟨fun r hr hrid ↦ ?_, fun hfresh ↦ ?_⟩
  · rw [hitem, hcount]
    exact h.row r hr (hrid.trans hid)
  · rw [hcount]
    exact h.fresh (hid ▸ hfresh)

/-- A connect has written no account when its connection is marked. -/
theorem ensures_markConnected_unstored {institutionName : String} {store : Store}
    (h : Unstored db.toStore store w) :
    (markConnected connection institutionName).Ensures (connecting L) (fun c w' ↦
      Unstored db.toStore store w' ∧ c.id = connection.id ∧ c.itemId = connection.itemId ∧
        c.accountCount = connection.accountCount) w := by
  refine ensures_bind.2 (ensures_ask_alone.2 fun e _ ↦ ?_)
  have h₁ := h.connectExec (L := L) (show BeforeSave (.service .now) from trivial) e
  refine ensures_bind.2 (ensures_ask_alone.2 fun e' _ ↦ ?_)
  exact ⟨h₁.connectExec (show BeforeSave (.service .now) from trivial) e', rfl, rfl, rfl⟩

/-- **A connect on its connection.** -/
theorem ensures_connectToAndAccounts (hstart : start.world.db = db.toStore)
    (h : Unstored db.toStore db.toStore w)
    (hcounted : CountedAsStored db.toStore (resetCounts request connection)) :
    (connectToAndAccounts userId request connection).Ensures (connecting L)
      (ConnectAgreesIffOwn L start) w := by
  refine ensures_bind.2 (ensures_ask_alone.2 fun e _ ↦ ?_)
  have h₁ := h.connectExec (L := L) (show BeforeSave
    (.storeProviderCredentialsForUser userId connection.itemId request.accessToken) from trivial) e
  split
  · rintro response persisted ⟨⟩
  · refine ensures_bind.2 ((ensures_markConnected_unstored h₁).imp ?_)
    rintro c w₂ ⟨h₂, hid, hitem, hcount⟩
    -- what is set on the connection besides does not touch its ids
    obtain ⟨c', hc', hid', hitem', hcount'⟩ : ∃ c', resetCounts request
        { c with institutionId := some "teller" } = c' ∧
          c'.id = (resetCounts request connection).id ∧
          c'.itemId = (resetCounts request connection).itemId ∧
          c'.accountCount = (resetCounts request connection).accountCount := by
      refine ⟨_, rfl, ?_⟩
      rw [resetCounts, resetCounts]
      split
      · exact ⟨hid, hitem, rfl⟩
      · exact ⟨hid, hitem, hcount⟩
    have hcounted' := hcounted.congr hid' hitem' hcount'
    dsimp only
    rw [hc']
    refine ensures_bind.2 (ensures_ask_alone.2 fun e _ ↦ ?_)
    rcases unitStatement_cases e.toReply w₂.db (saveProviderConnection w₂.db c') with
      ⟨err, hanswer⟩ | ⟨saved, hok, hanswer⟩
    · have hanswer : answer L e.toReply w₂.db (.saveProviderConnection c') = (w₂.db, .error err) :=
        hanswer
      split
      · rintro response persisted ⟨⟩
      · rename_i haccepted
        cases (congrArg Prod.snd hanswer).symm.trans haccepted
    · have hanswer : answer L e.toReply w₂.db (.saveProviderConnection c') = (saved, .ok ()) :=
        hanswer
      obtain ⟨h₃, hsaved⟩ := h₂.save hanswer
      split
      · rintro response persisted ⟨⟩
      · refine ensures_bind.2 ((ensures_connectAndListAccounts hstart h₃
          (fun r hr hrid ↦ ((hcounted'.rowsAfterSave hok h₂.connections).1 r hr hrid).1) hsaved
          (hcounted'.countsAccountsOf_iff hok h₂.connections hsaved) _).imp fun persisted w₄ h₄ ↦
            ?_)
        rintro _ _ ⟨⟩
        exact h₄

/-- **The chosen connection** is counted as it is stored. -/
theorem ensures_chosenConnection_unstored (h : Unstored db.toStore db.toStore w) :
    (chosenConnection parseStr userId request).Ensures (connecting L) (fun result w' ↦
      ∀ connection, result = .ok connection → Unstored db.toStore db.toStore w' ∧
        CountedAsStored db.toStore (resetCounts request connection)) w := by
  rw [chosenConnection]
  rcases hgiven : request.connectionId with - | given
  · -- a new connection has a fresh id and starts from zero
    refine ensures_bind.2 (ensures_bind.2 (ensures_ask_alone.2 fun e _ ↦ ?_))
    have h₁ := h.connectExec (L := L) (show BeforeSave (.service .now) from trivial) e
    refine ensures_bind.2 (ensures_ask_alone.2 fun e' _ ↦ ?_)
    rintro connection ⟨⟩
    refine ⟨h₁.connectExec (show BeforeSave .newV4 from trivial) e', ?_⟩
    rw [resetCounts, hgiven, if_pos Option.isNone_none]
    have hfree : (connectExec L .newV4 e' (connectExec L (.service .now) e w).1).2 ∉
        db.providerConnections.map ProviderConnection.id := by
      rw [← h₁.connections]
      exact newV4_notMem _ _
    exact ⟨fun r hr hid ↦ absurd (List.mem_map.2 ⟨r, hr, hid⟩) hfree, fun _ ↦ rfl⟩
  · dsimp only
    rcases hparse : parseStr given with - | connectionId
    · rintro connection ⟨⟩
    · refine ensures_bind.2 (ensures_ask_alone.2 fun e _ ↦ ?_)
      have h₁ := h.connectExec (L := L)
        (show BeforeSave (.service (.getProviderConnectionById connectionId)) from trivial) e
      split
      · rintro connection ⟨⟩
      · rintro connection ⟨⟩
      · rename_i loaded hloaded
        rintro _ ⟨⟩
        refine ⟨h₁, ?_⟩
        have hread : (readStatement e.toReply w.db
          (getProviderConnectionById w.db connectionId)).2 = .ok (some loaded) := hloaded
        have hfind : w.db.providerConnections.find? (fun r ↦ decide (r.id = connectionId)) =
            some loaded := (eq_of_readStatement hread).symm
        rw [h.connections] at hfind
        have hmem := List.mem_of_find?_eq_some hfind
        rw [resetCounts, hgiven]
        show CountedAsStored db.toStore loaded
        refine ⟨fun r hr hid ↦ ?_, fun hfresh ↦ absurd (List.mem_map_of_mem hmem) hfresh⟩
        rw [List.inj_on_of_nodup_map db.keyed.providerConnections_pkey hr hmem hid]
        exact ⟨rfl, rfl⟩

/-- **The Teller connect.** -/
theorem ensures_connectTellerProviderAndAccounts (hstart : start.world.db = db.toStore)
    (h : Unstored db.toStore db.toStore w) :
    (connectTellerProviderAndAccounts registered parseStr userId request).Ensures (connecting L)
      (ConnectAgreesIffOwn L start) w := by
  rw [connectTellerProviderAndAccounts]
  split
  · rintro response persisted ⟨⟩
  · split
    · refine ensures_bind.2 ((ensures_chosenConnection_unstored h).imp fun result w₁ h₁ ↦ ?_)
      split
      · rintro response persisted ⟨⟩
      · rename_i connection
        obtain ⟨hunstored, hcounted⟩ := h₁ connection rfl
        exact ensures_connectToAndAccounts hstart hunstored hcounted
    · rintro response persisted ⟨⟩

end Connecting

/-! ### The operations with their cache -/

section Caching

variable {L : Locale} {registered : String → Bool} {parseStr : String → Option Uuid} {userId : Uuid}
  {request : ProviderConnectRequest} {provider : String} {connection : ProviderConnection}
  {db : Database} {cache : AccountCache}

/-- A program that ends with the cache, alone, on a cache that takes what it is given. -/
abbrev caching (L : Locale) : Setting CachingCall CachingCall.Answer CachingWorld ConnectReply :=
  Setting.alone (cachingExec L) fun _ e ↦ e.cache = .ok ()

/-- The start of an operation of a session. -/
def sessionStart (db : Store) (cache : AccountCache) : CachingWorld :=
  ⟨⟨db, 0, []⟩, cache⟩

/-- What a sync leaves with its cache written. -/
def CachedIffOwn {ε : Type} (own : Store → Prop) (connectionId : Uuid)
    (result : Except ε SyncTransactionsResponse) (s : CachingWorld) : Prop :=
  ∀ response, result = .ok response →
    (AccountsAgree connectionId s ↔ SyncKeepsToOwn own connectionId s.world.calls)

section Sync

variable {ε : Type} {own : Store → Prop} {s : CachingWorld}

theorem ensures_embed_sync
    {p : ServiceProgram (Except ε (SyncTransactionsResponse × List Account))}
    (h : p.Ensures (serviceAlone L) (AgreesIffOwn own connection.id) s.world) :
    (p.embed serviceCalls).Ensures (caching L)
      (fun result s' ↦ AgreesIffOwn own connection.id result s'.world) s := by
  have hembed : (p.embed serviceCalls).Ensures (caching L)
      (fun result s' ↦ AgreesIffOwn own connection.id result s'.world ∧ True) s :=
    h.embed (serviceCalls_runs L) (fun _ _ _ ↦ trivial) (fun _ _ _ _ ↦ trivial) trivial
  exact hembed.imp fun _ _ h ↦ h.1

/-- The list that a sync hands to the cache is the one that the cache has. -/
theorem AgreesIffOwn.thenCache {response : SyncTransactionsResponse} {accounts : List Account}
    (h : AgreesIffOwn own connection.id
      (.ok (response, accounts) : Except ε (SyncTransactionsResponse × List Account)) s.world) :
    (completeSyncWithJwtCacheUpdate connection.id accounts >>= fun _ ↦
        pure (.ok response : Except ε SyncTransactionsResponse)).Ensures (caching L)
      (CachedIffOwn own connection.id) s := by
  refine ensures_bind.2 (ensures_completeSync.imp ?_)
  rintro _ s₂ rfl _ ⟨⟩
  exact h response accounts rfl

end Sync

/-- A sync starts with nothing looked up. -/
theorem unlisted_start (own : Store → Prop) (db : Database) :
    Unlisted own connection.id db.toStore ⟨db.toStore, 0, []⟩ :=
  ⟨rfl, db.keyed.accounts_pkey,
    ⟨fun _ hm ↦ (List.not_mem_nil hm).elim, fun _ hm ↦ (List.not_mem_nil hm).elim⟩⟩

theorem ensures_syncProviderConnectionAndCache (hmem : connection ∈ db.providerConnections) :
    (syncProviderConnectionAndCache registered provider userId connection).Ensures (caching L)
      (CachedIffOwn (HasAccountsOfOnly userId connection.id) connection.id)
      (sessionStart db.toStore cache) := by
  have hsync : (syncProviderConnectionAndAccounts registered provider userId connection).Ensures
      (serviceAlone L) (AgreesIffOwn (HasAccountsOfOnly userId connection.id) connection.id)
      (sessionStart db.toStore cache).world :=
    ensures_syncProviderConnectionAndAccounts (unlisted_start _ db) hmem
      db.keyed.providerConnections_pkey
  refine ensures_bind.2 ((ensures_embed_sync hsync).imp fun result s₁ h₁ ↦ ?_)
  split
  · rintro response ⟨⟩
  · exact h₁.thenCache

theorem ensures_syncTellerConnectionAndCache (hmem : connection ∈ db.providerConnections) :
    (syncTellerConnectionAndCache registered userId connection).Ensures (caching L)
      (CachedIffOwn (HasAccountsOf userId connection.id) connection.id)
      (sessionStart db.toStore cache) := by
  have hsync : (syncTellerConnectionAndAccounts registered userId connection).Ensures
      (serviceAlone L) (AgreesIffOwn (HasAccountsOf userId connection.id) connection.id)
      (sessionStart db.toStore cache).world :=
    ensures_syncTellerConnectionAndAccounts (unlisted_start _ db) hmem
      db.keyed.providerConnections_pkey
  refine ensures_bind.2 ((ensures_embed_sync hsync).imp fun result s₁ h₁ ↦ ?_)
  split
  · rintro response ⟨⟩
  · exact h₁.thenCache

theorem ensures_connectTellerProviderAndCache :
    (connectTellerProviderAndCache registered parseStr userId request).Ensures (caching L)
      (fun result s ↦ ∀ response, result = .ok response →
        (AccountsAgree response.connectionId s ↔
          ConnectKeepsToOwn L response.connectionId (sessionStart db.toStore cache) s.world.calls))
      (sessionStart db.toStore cache) := by
  have hstart : Unstored db.toStore db.toStore (sessionStart db.toStore cache).world :=
    ⟨rfl, rfl, fun m hm ↦ (List.not_mem_nil hm).elim⟩
  have hconnect : (connectTellerProviderAndAccounts registered parseStr userId request).Ensures
      (connecting L) (ConnectAgreesIffOwn L (sessionStart db.toStore cache))
      (sessionStart db.toStore cache).world := ensures_connectTellerProviderAndAccounts rfl hstart
  -- the calls of the connect leave the cache alone
  have hembed : ((connectTellerProviderAndAccounts registered parseStr userId request).embed
      connectCalls).Ensures (caching L) (fun result s ↦
        ConnectAgreesIffOwn L (sessionStart db.toStore cache) result s.world ∧ s.cache = cache)
      (sessionStart db.toStore cache) :=
    hconnect.embed (connectCalls_runs L) (fun _ _ _ ↦ trivial) (fun _ _ _ h ↦ h) rfl
  refine ensures_bind.2 (hembed.imp fun result s₁ ⟨h₁, hcache⟩ ↦ ?_)
  rcases result with error | ⟨response, persisted⟩
  · rintro response ⟨⟩
  · have hend := h₁ response persisted rfl
    rw [cacheAfterConnect] at hend
    dsimp only
    split
    · rename_i hnone
      rw [if_pos hnone] at hend
      rintro _ ⟨⟩
      obtain ⟨world, left⟩ := s₁
      obtain rfl : left = cache := hcache
      exact hend
    · rename_i hsome
      rw [if_neg hsome] at hend
      refine ensures_bind.2 (ensures_completeSync.imp ?_)
      rintro _ s₂ rfl _ ⟨⟩
      exact hend

/-- **What an operation ensures of its cache** holds of its run, on a cache that takes what it is
given. -/
theorem run_of_ensures_caching {α : Type} {p : CachingProgram α} {Q : α → CachingWorld → Prop}
    {env : ℕ → ConnectReply} {s : CachingWorld} (hcache : ∀ n, (env n).cache = .ok ())
    (h : p.Ensures (caching L) Q s) :
    Q (p.run (cachingExec L) env s).2.1 (p.run (cachingExec L) env s).1 :=
  run_of_ensures (fun _ env ↦ ∀ n, (env n).cache = .ok ())
    (fun _ _ henv ↦ ⟨henv 0, fun _ n ↦ henv (n + 1)⟩) h hcache

end Caching

/-- Two connections of a user, with an account each. -/
def twoBanksDatabase : Database where
  toStore := { connectedDatabase.toStore with
    accounts := [checkingAccount, { checkingAccount with
      id := 2, providerAccountId := some "acc-2", providerConnectionId := some 8 }]
    providerConnections := [checkingConnection,
      { checkingConnection with id := 8, itemId := "item-2" }] }
  keyed := by decide
  referential := by decide

end Sumurai
