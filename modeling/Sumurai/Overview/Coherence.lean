import Sumurai.Foundations.Runs
import Sumurai.Overview.Dependencies

/-!
# Coherence of the cached overviews

A cached response is *fresh* for a read when every operation since it was computed left alone what
the read depends on. A session is *coherent* when whatever a read would be served from the cache is
fresh.

Each operation removes the keys of its own patterns. `removes_iff` says which reads these are: all
of them for the manual accounts; the balances only for a sync that succeeds and for a Teller connect
that stores an account; the net worth, and the balances without a filter, for a disconnect that
finds its connection; none for the exchange of a public token and for the marking of a duplicate.
`coherent_throughout_iff` is the result: a session stays coherent exactly if every operation that
changes what a cached response depends on is one that removes it. The manual accounts always do
(`keepsUp_manual`), a sync never does for the net worth (`sync_leaves_net_worth`).
-/

open LabelledSystem

namespace Sumurai

/-! ### The property -/

/-- Every operation since a response was computed left alone what a read depends on. -/
def CachedOverview.Fresh (S : SessionContext) (today : NaiveDate) (r : OverviewRead) (db : Store)
    (cached : CachedOverview) : Prop :=
  (db :: cached.before).IsChain fun after before ↦
    r.dependsOn S today before = r.dependsOn S today after

/-- **Coherence**: what a read is served from the cache, on whatever day, is fresh. -/
def Coherent (S : SessionContext) (s : OverviewSession) : Prop :=
  ∀ r cached, r.Admitted S s.db → s.lookup S r = some cached →
    ∀ today, cached.Fresh S today r s.db

/-- The reads whose keys an operation removes. -/
def OverviewRead.removedBy (S : SessionContext) (db : Store) (r : OverviewRead) :
    SessionOperation → Bool
  | .connectTellerProvider request env => r.isBalances && S.connectStores db request env
  | .exchangePublicToken _ _ _ => false
  | .syncConnectionById connectionId env => r.isBalances && S.syncSucceeds db connectionId env
  | .disconnectConnectionById connectionId env =>
    (!r.isBalances || r = .balancesOverview none) && S.disconnectFinds db connectionId env
  | .markTransactionDuplicate _ _ _ => false
  | .manual request e => (serveManual db e S.userId request).2.succeeded

/-- A step keeps up with what it changes: the response cached for a read that is still admitted does
not depend on it, or its key is removed. -/
def KeepsUp (S : SessionContext) (s : OverviewSession) : OverviewStep → Prop
  | .operate op answers => ∀ r cached, r.Admitted S (S.perform s.db op).db →
      s.lookup S r = some cached →
      (∀ today, r.dependsOn S today s.db = r.dependsOn S today (S.perform s.db op).db) ∨
        (r.removedBy S s.db op = true ∧ answers (r.key S.hash S.jwtId) = true)
  | .read _ _ => True

/-! ### What an operation removes -/

section Removals

variable {S : SessionContext} {db : Store} {r : OverviewRead}

theorem any_completeSyncPatterns :
    (completeSyncPatterns S.jwtId).any (Glob.isMatch · (r.key S.hash S.jwtId)) = r.isBalances := by
  have hbalances : Glob.isMatch (balancesOverviewPattern S.jwtId) (r.key S.hash S.jwtId) = true ↔
      r.isBalances = true := OverviewRead.key_matches_balancesOverviewPattern
  rw [Bool.eq_iff_iff, ← hbalances]
  simp [completeSyncPatterns, OverviewRead.key_matches_bankAccountsPattern]

theorem any_disconnectPatterns (connectionId : Uuid) :
    (disconnectPatterns S.jwtId connectionId).any (Glob.isMatch · (r.key S.hash S.jwtId)) =
      (!r.isBalances || r = .balancesOverview none) := by
  have hconnection : Glob.isMatch (bankConnectionKey S.jwtId connectionId)
      (r.key S.hash S.jwtId) = false :=
    OverviewRead.key_matches_bankKey (by decide) (by decide)
  have haccounts : Glob.isMatch (bankAccountsKey S.jwtId connectionId)
      (r.key S.hash S.jwtId) = false :=
    OverviewRead.key_matches_bankKey (by decide) (by decide)
  rw [Bool.eq_iff_iff]
  simp only [disconnectPatterns, List.any_cons, List.any_nil, hconnection, haccounts,
    Bool.or_false, Bool.or_eq_true, OverviewRead.key_matches_balancesOverviewKey,
    OverviewRead.key_matches_netWorthPattern, Bool.not_eq_true', decide_eq_true_eq]
  exact or_comm

theorem any_accountOverviewPatterns :
    (accountOverviewPatterns S.jwtId).any (Glob.isMatch · (r.key S.hash S.jwtId)) = true := by
  simp only [accountOverviewPatterns, List.any_cons, List.any_nil, Bool.or_false, Bool.or_eq_true,
    OverviewRead.key_matches_balancesOverviewPattern, OverviewRead.key_matches_netWorthPattern]
  exact Bool.eq_false_or_eq_true _

/-- What is removed under a condition. -/
theorem any_ite {condition b : Bool} {patterns : List (List Char)} {matched : List Char → Bool}
    (h : patterns.any matched = b) :
    (if condition then patterns else []).any matched = (b && condition) := by
  cases condition with
  | true => rw [if_pos rfl, h, Bool.and_true]
  | false => rw [if_neg Bool.false_ne_true, List.any_nil, Bool.and_false]

/-- **The keys that an operation removes** are those of the reads it is listed with. -/
theorem removes_iff (op : SessionOperation) (answers : OverviewKey → Bool) :
    (S.perform db op).removes answers (r.key S.hash S.jwtId) =
      (r.removedBy S db op && answers (r.key S.hash S.jwtId)) := by
  rw [Performed.removes]
  refine congrArg (· && answers (r.key S.hash S.jwtId)) ?_
  cases op with
  | connectTellerProvider request env => exact any_ite any_completeSyncPatterns
  | exchangePublicToken provider publicToken env => rfl
  | syncConnectionById connectionId env => exact any_ite any_completeSyncPatterns
  | disconnectConnectionById connectionId env => exact any_ite (any_disconnectPatterns connectionId)
  | markTransactionDuplicate transactionId now databaseUp => rfl
  | manual request e => exact (any_ite any_accountOverviewPatterns).trans (Bool.true_and _)

end Removals

/-! ### What a step does to the cache -/

section Steps

variable {S : SessionContext} {s : OverviewSession} {r : OverviewRead} {cached : CachedOverview}

/-- What an operation leaves a read to find: nothing, or what was there, with one more database
behind it. -/
theorem lookup_operate (op : SessionOperation) (answers : OverviewKey → Bool) :
    (overviewStep S s (.operate op answers)).lookup S r =
      if r.removedBy S s.db op && answers (r.key S.hash S.jwtId) then none
      else (s.lookup S r).map fun cached ↦ { cached with before := s.db :: cached.before } := by
  rw [OverviewSession.lookup, ← removes_iff]
  show Option.filter _ (if _ then none else _) = _
  split
  · rfl
  · rw [OverviewSession.lookup]
    cases s.cache (r.key S.hash S.jwtId) with
    | none => rfl
    | some cached =>
      rw [Option.map_some, Option.filter_some, Option.filter_some]
      split <;> rfl

/-- **An operation keeps a coherent session coherent exactly if it keeps up.** -/
theorem coherent_operate_iff (h : Coherent S s) (op : SessionOperation)
    (answers : OverviewKey → Bool) :
    Coherent S (overviewStep S s (.operate op answers)) ↔ KeepsUp S s (.operate op answers) := by
  constructor
  · intro hnext r cached hadmitted hfound
    by_contra hnot
    obtain ⟨hchanged, hkept⟩ := not_or.1 hnot
    refine hchanged fun today ↦ ?_
    have hlookup := lookup_operate (S := S) (s := s) (r := r) op answers
    rw [if_neg (by simpa using hkept), hfound] at hlookup
    exact (List.isChain_cons_cons.1 (hnext r _ hadmitted hlookup today)).1
  · intro hkeeps r cached hadmitted hfound today
    rw [lookup_operate] at hfound
    split at hfound
    · cases hfound
    · rename_i hkept
      obtain ⟨before, hbefore, rfl⟩ := Option.map_eq_some_iff.1 hfound
      rcases hkeeps r before hadmitted hbefore with hsame | hremoved
      · -- a read that depends on the same data was admitted before
        have hadmitted' : r.Admitted S s.db := hadmitted.congr (hsame today).symm
        exact List.isChain_cons_cons.2 ⟨hsame today, h r before hadmitted' hbefore today⟩
      · exact absurd hremoved (by simpa using hkept)

/-- An entry that has gone is not found. -/
theorem lookup_of_update_none {key : OverviewKey}
    (h : OverviewSession.lookup S { s with cache := Function.update s.cache key none } r =
      some cached) : s.lookup S r = some cached := by
  change Option.filter _ (Function.update s.cache key none (r.key S.hash S.jwtId)) = _ at h
  rw [Function.update_apply] at h
  split at h
  · cases h
  · exact h

/-- What is found after a response was stored is that, or was there before. -/
theorem lookup_of_update_some {key : OverviewKey} {new : CachedOverview}
    (h : OverviewSession.lookup S { s with cache := Function.update s.cache key (some new) } r =
      some cached) : s.lookup S r = some cached ∨ cached = new := by
  change Option.filter _ (Function.update s.cache key (some new) (r.key S.hash S.jwtId)) = _ at h
  rw [Function.update_apply] at h
  split at h
  · exact Or.inr (Option.some.inj (Option.filter_eq_some_iff.1 h).1).symm
  · exact Or.inl h

/-- What a read leaves in the cache was there before, or has just been computed. -/
theorem lookup_readValid {e : ReadReply} {r' : OverviewRead}
    (h : (s.readValid S e r').1.lookup S r = some cached) :
    s.lookup S r = some cached ∨ cached.before = [] := by
  obtain ⟨s', hs', hread⟩ : ∃ s' : OverviewSession,
      (s'.lookup S r = some cached → s.lookup S r = some cached) ∧
        (s'.lookup S r = some cached ∨ cached.before = []) := by
    unfold OverviewSession.readValid at h
    dsimp only at h
    refine ⟨if e.expired then
      { s with cache := Function.update s.cache (r'.key S.hash S.jwtId) none } else s, ?_, ?_⟩
    · split
      · exact lookup_of_update_none
      · exact id
    · split at h
      · exact Or.inl h
      · split at h
        · exact Or.inl h
        · split at h
          · rcases lookup_of_update_some h with hbefore | rfl
            · exact Or.inl hbefore
            · exact Or.inr rfl
          · exact Or.inl h
  exact hread.imp_left hs'

/-- The database is not changed by a read. -/
theorem db_readValid {e : ReadReply} : (s.readValid S e r).1.db = s.db := by
  have hexpire : (if e.expired then
      { s with cache := Function.update s.cache (r.key S.hash S.jwtId) none } else s).db =
        s.db := by
    split <;> rfl
  unfold OverviewSession.readValid
  dsimp only
  split
  · exact hexpire
  · split
    · exact hexpire
    · split
      · exact hexpire
      · exact hexpire

/-- **A read keeps a coherent session coherent.** -/
theorem coherent_read (h : Coherent S s) (request : OverviewRequest) (e : ReadReply) :
    Coherent S (overviewStep S s (.read request e)) := by
  show Coherent S (s.read S request e).1
  unfold OverviewSession.read
  split
  · exact h
  · rename_i r' hvalid
    intro r cached hadmitted hfound today
    rw [db_readValid] at hadmitted ⊢
    rcases lookup_readValid hfound with hbefore | hnew
    · exact h r cached hadmitted hbefore today
    · rw [CachedOverview.Fresh, hnew]
      exact List.IsChain.singleton _

/-- A step keeps a coherent session coherent exactly if it keeps up. -/
theorem coherent_step_iff (h : Coherent S s) (step : OverviewStep) :
    Coherent S (overviewStep S s step) ↔ KeepsUp S s step := by
  cases step with
  | operate op answers => exact coherent_operate_iff h op answers
  | read request e => exact iff_of_true (coherent_read h request e) trivial

/-- **What a coherent session answers**: a response computed from the database of the moment, or a
cached one that is fresh. -/
theorem read_of_coherent (h : Coherent S s) {request : OverviewRequest} {e : ReadReply}
    {response : OverviewResponse} (hread : (s.read S request e).2 = .ok response) :
    ∃ r, S.validate s.db e request = .ok r ∧
      ((∃ stored, S.compute s.db e r = .ok (response, stored)) ∨
        ∃ cached : CachedOverview, cached.response = response ∧
          ∀ today, cached.Fresh S today r s.db) := by
  rw [OverviewSession.read] at hread
  split at hread
  · cases hread
  · rename_i r hvalid
    have hexpire : (if e.expired then
        { s with cache := Function.update s.cache (r.key S.hash S.jwtId) none } else s).db =
          s.db := by
      split <;> rfl
    refine ⟨r, hvalid, ?_⟩
    unfold OverviewSession.readValid at hread
    dsimp only at hread
    split at hread
    · rename_i cached hfound
      refine Or.inr ⟨cached, Except.ok.inj hread, h r cached (r.admitted_of_validate hvalid) ?_⟩
      split at hfound
      · split at hfound
        · exact lookup_of_update_none hfound
        · exact hfound
      · cases hfound
    · rw [hexpire] at hread
      split at hread
      · cases hread
      · rename_i response' stored hcompute
        refine Or.inl ⟨stored, hcompute.trans ?_⟩
        split at hread
        · rw [Except.ok.inj hread]
        · rw [Except.ok.inj hread]

/-- **The manual accounts keep up**, when the cache answers: a request that changes anything removes
the keys of all reads. -/
theorem keepsUp_manual (request : ManualRequest) (e : ManualReply) {answers : OverviewKey → Bool}
    (hanswers : ∀ key, answers key = true) :
    KeepsUp S s (.operate (.manual request e) answers) := by
  intro r cached _ _
  have hserved : SucceedsOrKeeps s.db (serveManual s.db e S.userId request) :=
    succeedsOrKeeps_serveManual request
  rcases hserved with hsucceeded | hkept
  · exact Or.inr ⟨hsucceeded, hanswers _⟩
  · refine Or.inl fun today ↦ ?_
    show _ = r.dependsOn S today (serveManual s.db e S.userId request).1
    rw [hkept]

end Steps

/-! ### Runs -/

/-- **A session is coherent throughout exactly if every step keeps up.** Let a session that has
cached nothing take any steps on any store: connects, syncs, disconnects, markings of duplicates,
changes of manual accounts, and reads with any filter and any dates, in an environment that answers
as it likes. What a read would be served from the cache is fresh in every state, if and only if
every operation that changes what a cached response depends on removes the key of the response. -/
theorem coherent_throughout_iff (S : SessionContext) (db : Store) (steps : List OverviewStep) :
    Throughout (overviewStep S) (Coherent S) (OverviewSession.start db) steps ↔
      Guarded (overviewStep S) (KeepsUp S) (OverviewSession.start db) steps := by
  refine throughout_iff_guarded (I := fun _ ↦ True) (fun _ _ _ ↦ trivial)
    (fun s step _ h ↦ coherent_step_iff h step) trivial ?_ steps
  intro r cached _ hfound
  cases hfound

/-! ### A stale series -/

/-- A session of user 7. The hash of its filters is constant. -/
def checkingSession : SessionContext where
  locale := Locale.c
  registered _ := true
  parseStr _ := none
  hash _ := 0
  userId := 7
  jwtId := 1

/-- The answers of an environment in which a deposit of 5.00 on the checking account arrives. -/
def depositReply : Reply :=
  { quietReply with
    transactions := .ok [
      { (checkingTransaction 9 1 500).toTransaction with
        providerAccountId := some "acc-1"
        providerTransactionId := some "txn-9" }] }

/-- The answers of an environment in which nothing fails, on the third day. -/
def thirdDayReply : ReadReply where
  now := 2 * microsPerDay
  fuel := 3
  ownershipUp := true
  databaseUp := true
  lookupUp := true
  storeUp := true
  expired := false

/-- **A sync leaves the net worth.** The net worth of three days is read, and cached. A sync then
brings a deposit in, succeeds, and removes the cached balances; the next read of the same three days
is answered from the cache, with the series of before the deposit. -/
theorem sync_leaves_net_worth :
    let request := OverviewRequest.netWorthOverTime 0 2 []
    let s := [.read request thirdDayReply,
        .operate (.syncConnectionById 5 fun _ ↦ depositReply) fun _ ↦ true].foldl
      (overviewStep checkingSession) (OverviewSession.start connectedDatabase.toStore)
    (s.read checkingSession request thirdDayReply).2 =
        .ok (.netWorthOverTime [⟨0, 10000⟩, ⟨1, 10000⟩, ⟨2, 10000⟩]) ∧
      (checkingSession.compute s.db thirdDayReply (.netWorthOverTime 0 2 none)).map Prod.fst =
        .ok (.netWorthOverTime [⟨1, 10500⟩, ⟨2, 10500⟩]) ∧
      ¬ Coherent checkingSession s := by
  intro request s
  refine ⟨by decide, by decide, fun hcoherent ↦ ?_⟩
  have hfound : s.lookup checkingSession (.netWorthOverTime 0 2 none) =
      some ⟨.netWorthOverTime [⟨0, 10000⟩, ⟨1, 10000⟩, ⟨2, 10000⟩], [connectedDatabase.toStore]⟩ :=
    rfl
  have hfresh := hcoherent (.netWorthOverTime 0 2 none) _ (fun _ hfilter ↦ by cases hfilter)
    hfound 2
  exact absurd (List.isChain_cons_cons.1 hfresh).1 (by decide)

end Sumurai
