import Mathlib.Algebra.Order.SuccPred
import Mathlib.Data.Int.SuccPred
import Sumurai.Connection.LastSync
import Sumurai.Foundations.Windows

/-!
# The coverage of a connection's history

A connection is synced again and again, and its history is complete if the windows of the syncs that
succeeded leave no day out. `syncAttempts` runs any number of attempts one after another, on a clock
that does not go back.

Each attempt reckons its window from the `last_sync_at` that the attempts before it have left.
That alone leaves no gap: a `last_sync_at` is never later than the window it comes from, and a
failed attempt does not move it. What can leave a gap is the look-back, to which every window is
cut. `coverage_iff` says that nothing else does.
-/

open Program Windows

namespace Sumurai

/-- An attempt to sync a connection: its first reading of the clock, the store it found, how it
ended and what it left, with its own calls. -/
structure SyncAttempt where
  startedAt : Timestamp
  before : Store
  result : Except ConnectionSyncError SyncTransactionsResponse
  after : World

/-- The attempts of some users to sync a connection, one after another. -/
def syncAttempts (L : Locale) (registered : String → Bool) (connectionId : Uuid) :
    List Uuid → (ℕ → Reply) → Store → List SyncAttempt
  | [], _, _ => []
  | userId :: users, env, db =>
    let run := (syncConnectionById registered userId connectionId).run (exec L) env
      ⟨db, (env 0).now, []⟩
    { startedAt := (env 0).now, before := db, result := run.2.1, after := run.1 } ::
      syncAttempts L registered connectionId users run.2.2 run.1.db

namespace SyncAttempt

/-- The attempt returned a response. -/
def succeeded (a : SyncAttempt) : Bool :=
  a.result.isOk

/-- The windows that the attempt asked for. -/
def windows (a : SyncAttempt) : List (NaiveDate × NaiveDate) :=
  requestedWindows a.after.calls

/-- What the readings of the clock and the `last_sync_at` of a connection have to do with an attempt
to sync it. -/
structure Sound (connectionId : Uuid) (a : SyncAttempt) : Prop where
  started_le : a.startedAt ≤ a.after.clock
  of_failed : a.succeeded = false →
    lastSyncOf connectionId a.after.db = lastSyncOf connectionId a.before
  of_succeeded : a.succeeded = true → ∃ syncTimestamp now, a.startedAt ≤ syncTimestamp ∧
    syncTimestamp ≤ now ∧ now ≤ a.after.clock ∧
    a.windows = [calculateSyncDateRange now (lastSyncOf connectionId a.before)] ∧
    (lastSyncOf connectionId a.after.db = lastSyncOf connectionId a.before ∨
      lastSyncOf connectionId a.after.db = some syncTimestamp)

/-- One attempt after another. -/
def Then (a b : SyncAttempt) : Prop :=
  a.after.db = b.before ∧ a.after.clock ≤ b.startedAt

/-- The windows of two attempts end no further apart than the look-back of the second allows. -/
def InLookback (connectionId : Uuid) (a b : SyncAttempt) : Prop :=
  ∀ v ∈ a.windows, ∀ w ∈ b.windows,
    w.2 - v.2 ≤ lookbackDays (lastSyncOf connectionId b.before) + 1

/-- The attempt did not last so long that the two years of a first window are over. -/
def Short (a : SyncAttempt) : Prop :=
  Timestamp.dateNaive a.after.clock ≤
    Timestamp.dateNaive a.startedAt + (defaultFirstSyncDays - safetyMarginDays)

instance (connectionId : Uuid) (a b : SyncAttempt) : Decidable (InLookback connectionId a b) :=
  inferInstanceAs (Decidable (∀ v ∈ a.windows, ∀ w ∈ b.windows,
    w.2 - v.2 ≤ lookbackDays (lastSyncOf connectionId b.before) + 1))

instance (a : SyncAttempt) : Decidable a.Short :=
  inferInstanceAs (Decidable (_ ≤ _))

end SyncAttempt

/-! ### The attempts of a run -/

section Run

variable {L : Locale} {registered : String → Bool} {connection : ProviderConnection}
  {lastSyncAt : Option Timestamp}

theorem Underway.of_record {R : Timestamp → Timestamp → Prop} {c : ProviderConnection}
    {windows : List (NaiveDate × NaiveDate)} {since : Timestamp} {w : World}
    (h : Underway R connection lastSyncAt windows since w) (hid : c.id = connection.id)
    (hitem : c.itemId = connection.itemId) : Underway R c lastSyncAt windows since w := by
  refine ⟨⟨?_, ?_⟩, h.windows_eq, h.passed⟩ <;> rw [hid]
  · exact h.stored.exists_record
  · rw [hitem]
    exact h.stored.record

/-- The world after an attempt, told by its result. -/
structure AttemptLeaves (connection : ProviderConnection) (lastSyncAt : Option Timestamp)
    (since : Timestamp) (ok : Bool) (w : World) : Prop where
  passed : since ≤ w.clock
  stored : ∃ last, Stored connection last w.db
  of_failed : ok = false → Stored connection lastSyncAt w.db
  of_succeeded : ok = true → ∃ syncTimestamp now, since ≤ syncTimestamp ∧ syncTimestamp ≤ now ∧
    now ≤ w.clock ∧ requestedWindows w.calls = [calculateSyncDateRange now lastSyncAt] ∧
    (Stored connection lastSyncAt w.db ∨ Stored connection (some syncTimestamp) w.db)

theorem AttemptLeaves.of_underway {windows : List (NaiveDate × NaiveDate)} {since : Timestamp}
    {w : World} (h : Underway (· ≤ ·) connection lastSyncAt windows since w) :
    AttemptLeaves connection lastSyncAt since false w :=
  ⟨h.passed, ⟨_, h.stored⟩, fun _ ↦ h.stored, fun hok ↦ absurd hok Bool.false_ne_true⟩

theorem SyncLeaves.attemptLeaves {c : ProviderConnection} {since syncTimestamp : Timestamp}
    {ok : Bool} {w : World} (h : SyncLeaves (· ≤ ·) c syncTimestamp ok w)
    (hsince : since ≤ syncTimestamp) (hid : connection.id = c.id)
    (hitem : connection.itemId = c.itemId) :
    AttemptLeaves connection c.lastSyncAt since ok w := by
  cases ok with
  | false =>
    obtain ⟨windows, hunder⟩ := h
    have hunder := hunder.of_record hid hitem
    exact AttemptLeaves.of_underway
      ⟨hunder.stored, hunder.windows_eq, hsince.trans hunder.passed⟩
  | true =>
    obtain ⟨now, hnow, last, hlast, hunder⟩ := h
    have hunder := hunder.of_record hid hitem
    refine ⟨(hsince.trans hnow).trans hunder.passed, ⟨_, hunder.stored⟩,
      fun hfailed ↦ absurd hfailed.symm Bool.false_ne_true, fun _ ↦ ?_⟩
    refine ⟨syncTimestamp, now, hsince, hnow, hunder.passed, hunder.windows_eq, ?_⟩
    rcases hlast with rfl | rfl
    · exact Or.inl hunder.stored
    · exact Or.inr hunder.stored

/-- **What an attempt leaves.** -/
theorem ensures_syncConnectionById_leaves {userId : Uuid} {since : Timestamp} {w : World}
    (h : Underway (· ≤ ·) connection lastSyncAt [] since w) :
    (syncConnectionById registered userId connection.id).Ensures (inTime L (· ≤ ·))
      (fun result ↦ AttemptLeaves connection lastSyncAt since result.isOk) w := by
  obtain ⟨c, hload, hid, hitem, hlast⟩ := h.stored.load
  refine ensures_bind.2 (ensures_ask_alone.2 fun e he ↦ ?_)
  have hnext : Underway (· ≤ ·) connection lastSyncAt [] since
      (exec L (.getProviderConnectionById connection.id) e w).1 := h.exec rfl he
  by_cases hup : e.databaseUp = true
  · have hanswer : answer L e w.db (.getProviderConnectionById connection.id) =
        (w.db, .ok (some c)) := hload ▸ if_pos hup
    rw [exec_of_answer hanswer] at hnext ⊢
    have hstart := hnext.of_record hid hitem
    rw [← hlast] at hstart
    refine (ensures_syncConnection_leaves hstart).imp fun result w' hleaves ↦ ?_
    obtain ⟨syncTimestamp, hsince, hleaves⟩ := hleaves
    rw [← hlast]
    exact hleaves.attemptLeaves hsince hid.symm hitem.symm
  · have hanswer : answer L e w.db (.getProviderConnectionById connection.id) =
        (w.db, .error .unavailable) := if_neg hup
    rw [exec_of_answer hanswer] at hnext ⊢
    exact AttemptLeaves.of_underway hnext

/-- Choices whose clock does not go back, from an instant on. -/
def ClockFrom (w : World) (env : ℕ → Reply) : Prop :=
  w.clock ≤ (env 0).now ∧ Monotone fun n ↦ (env n).now

theorem ClockFrom.next {w : World} {env : ℕ → Reply} (h : ClockFrom w env) (call : ServiceCall) :
    ClockFrom (exec L call (env 0) w).1 fun n ↦ env (n + 1) :=
  ⟨h.2 (Nat.zero_le 1), fun _ _ hmn ↦ h.2 (Nat.succ_le_succ hmn)⟩

/-- **The attempts of a run** are sound, and each starts where the one before has ended. -/
theorem sound_syncAttempts (users : List Uuid) {env : ℕ → Reply}
    (hclock : Monotone fun n ↦ (env n).now) {db : Store}
    (hstored : Stored connection lastSyncAt db) :
    let attempts := syncAttempts L registered connection.id users env db
    (∀ a ∈ attempts, a.Sound connection.id) ∧ attempts.IsChain SyncAttempt.Then ∧
      ∀ a ∈ attempts.head?, a.before = db ∧ a.startedAt = (env 0).now := by
  induction users generalizing env db lastSyncAt with
  | nil => exact ⟨by simp [syncAttempts], List.isChain_nil, by simp [syncAttempts]⟩
  | cons userId users ih =>
    intro attempts
    let start : World := ⟨db, (env 0).now, []⟩
    have hfits : ClockFrom start env := ⟨le_rfl, hclock⟩
    have hstart : Underway (· ≤ ·) connection lastSyncAt [] (env 0).now start :=
      ⟨hstored, rfl, le_rfl⟩
    let run := (syncConnectionById registered userId connection.id).run (exec L) env start
    have hleaves : AttemptLeaves connection lastSyncAt (env 0).now run.2.1.isOk run.1 :=
      run_of_ensures ClockFrom (fun _ _ h ↦ ⟨h.1, h.next⟩)
        (ensures_syncConnectionById_leaves hstart)
        hfits
    have hrest : ClockFrom run.1 run.2.2 := run_fits ClockFrom (fun _ _ h ↦ h.next) _ hfits
    obtain ⟨last, hlast⟩ := hleaves.stored
    obtain ⟨hsound, hchain, hhead⟩ := ih hrest.2 hlast
    refine ⟨?_, ?_, ?_⟩
    · intro a ha
      rcases List.mem_cons.1 ha with rfl | ha
      · refine ⟨hleaves.passed, fun hfailed ↦ ?_, fun hok ↦ ?_⟩
        · exact (hleaves.of_failed hfailed).lastSyncOf_eq.trans hstored.lastSyncOf_eq.symm
        · obtain ⟨syncTimestamp, now, hsince, hnow, hended, hwindows, hsaved⟩ :=
            hleaves.of_succeeded hok
          refine ⟨syncTimestamp, now, hsince, hnow, hended, ?_, ?_⟩
          · rw [hstored.lastSyncOf_eq]
            exact hwindows
          · rw [hstored.lastSyncOf_eq]
            exact hsaved.imp Stored.lastSyncOf_eq Stored.lastSyncOf_eq
      · exact hsound a ha
    · refine List.isChain_cons.2 ⟨fun b hb ↦ ?_, hchain⟩
      obtain ⟨hbefore, hstarted⟩ := hhead b hb
      refine ⟨hbefore.symm, ?_⟩
      rw [hstarted]
      exact hrest.1
    · rintro a ha
      obtain rfl := Option.some.inj ha
      exact ⟨rfl, rfl⟩

end Run

/-! ### The windows of a run -/

section Windows

variable {connectionId : Uuid} {a z : SyncAttempt} {v w : NaiveDate × NaiveDate}
  {lastSyncAt : Option Timestamp} {clock : Timestamp}

/-- What an instant and a `last_sync_at` have to do with an earlier window. -/
structure Follows (v : NaiveDate × NaiveDate) (lastSyncAt : Option Timestamp) (clock : Timestamp) :
    Prop where
  fresh : ∀ x ∈ lastSyncAt, x ≤ clock
  ended : v.2 ≤ Timestamp.dateNaive clock
  synced : ∀ x ∈ lastSyncAt, Timestamp.dateNaive x ≤ v.2
  starts : ∀ now, clock ≤ now → v.1 ≤ (calculateSyncDateRange now lastSyncAt).1

theorem Follows.mono (h : Follows v lastSyncAt clock) {clock' : Timestamp} (hle : clock ≤ clock') :
    Follows v lastSyncAt clock' where
  fresh x hx := (h.fresh x hx).trans hle
  ended := h.ended.trans (Timestamp.dateNaive_mono hle)
  synced := h.synced
  starts now hnow := h.starts now (hle.trans hnow)

/-- The window of an attempt that succeeded follows the ones before, and leaves no gap if it is in
the look-back. -/
theorem Follows.window (h : Follows v (lastSyncOf connectionId a.before) a.startedAt)
    (hsound : a.Sound connectionId) (hok : a.succeeded = true) (hw : a.windows = [w]) :
    Advances v w ∧ (Reaches v w ↔
      w.2 - v.2 ≤ lookbackDays (lastSyncOf connectionId a.before) + 1) := by
  obtain ⟨syncTimestamp, now, hsync, hnow, -, hwindows, -⟩ := hsound.of_succeeded hok
  obtain rfl : w = calculateSyncDateRange now (lastSyncOf connectionId a.before) :=
    List.singleton_inj.1 (hw.symm.trans hwindows)
  have hstarted : a.startedAt ≤ now := hsync.trans hnow
  refine ⟨⟨h.starts now hstarted, h.ended.trans (Timestamp.dateNaive_mono hstarted)⟩, ?_⟩
  rw [Reaches, Order.succ_eq_add_one]
  exact start_le_succ_iff h.synced

/-- What comes after an attempt that succeeded follows its window. -/
theorem SyncAttempt.Sound.follows (hsound : a.Sound connectionId) (hshort : a.Short)
    (hfresh : ∀ x ∈ lastSyncOf connectionId a.before, x ≤ a.startedAt) (hok : a.succeeded = true) :
    ∃ w, a.windows = [w] ∧ w.1 ≤ w.2 ∧
      Follows w (lastSyncOf connectionId a.after.db) a.after.clock := by
  obtain ⟨syncTimestamp, now, hsync, hnow, hended, hwindows, hsaved⟩ := hsound.of_succeeded hok
  have hlast : ∀ x ∈ lastSyncOf connectionId a.before, x ≤ syncTimestamp :=
    fun x hx ↦ (hfresh x hx).trans hsync
  refine ⟨_, hwindows, start_le_end, ?_⟩
  rcases hsaved with hkept | hsaved
  · -- the save failed
    rw [hkept]
    exact
      { fresh x hx := ((hlast x hx).trans hnow).trans hended
        ended := Timestamp.dateNaive_mono hended
        synced x hx := Timestamp.dateNaive_mono ((hlast x hx).trans hnow)
        starts now' hnow' := start_mono (hended.trans hnow') }
  · rw [hsaved]
    have hlong : Timestamp.dateNaive now ≤
        Timestamp.dateNaive syncTimestamp + (defaultFirstSyncDays - safetyMarginDays) :=
      (Timestamp.dateNaive_mono hended).trans
        (hshort.trans (by gcongr; exact Timestamp.dateNaive_mono hsync))
    refine ⟨?_, Timestamp.dateNaive_mono hended, ?_, fun now' hnow' ↦ ?_⟩
    · rintro x hx
      rw [← Option.some.inj hx]
      exact hnow.trans hended
    · rintro x hx
      rw [← Option.some.inj hx]
      exact Timestamp.dateNaive_mono hnow
    · exact start_le_of_synced (hended.trans hnow') hnow hlast hlong

/-- The windows of the attempts that succeeded. -/
def successfulWindows (attempts : List SyncAttempt) : List (NaiveDate × NaiveDate) :=
  (attempts.filter SyncAttempt.succeeded).flatMap SyncAttempt.windows

theorem successfulWindows_of_failed (h : a.succeeded = false) (attempts : List SyncAttempt) :
    successfulWindows (a :: attempts) = successfulWindows attempts := by
  rw [successfulWindows, List.filter_cons_of_neg (by simp [h])]
  rfl

theorem successfulWindows_of_succeeded (h : a.succeeded = true) (hw : a.windows = [w])
    (attempts : List SyncAttempt) :
    successfulWindows (a :: attempts) = w :: successfulWindows attempts := by
  rw [successfulWindows, List.filter_cons_of_pos h, List.flatMap_cons, hw]
  rfl

/-- What an attempt leaves is what the next one finds. -/
theorem Follows.next (h : Follows v (lastSyncOf connectionId a.after.db) a.after.clock)
    {attempts : List SyncAttempt} (hhead : ∀ b ∈ attempts.head?, a.Then b) :
    ∀ b ∈ attempts.head?, Follows v (lastSyncOf connectionId b.before) b.startedAt := by
  intro b hb
  obtain ⟨hbefore, hstarted⟩ := hhead b hb
  rw [← hbefore]
  exact h.mono hstarted

/-- The windows of a run, after an attempt that succeeded. -/
theorem windows_after (hz : z.windows = [v]) (attempts : List SyncAttempt)
    (hsound : ∀ a ∈ attempts, a.Sound connectionId ∧ a.Short)
    (hthen : attempts.IsChain SyncAttempt.Then)
    (hfollows : ∀ a ∈ attempts.head?, Follows v (lastSyncOf connectionId a.before) a.startedAt) :
    (v :: successfulWindows attempts).IsChain Advances ∧
      (∀ w ∈ successfulWindows attempts, w.1 ≤ w.2) ∧
      ((v :: successfulWindows attempts).IsChain Reaches ↔
        (z :: attempts.filter SyncAttempt.succeeded).IsChain
          (SyncAttempt.InLookback connectionId)) := by
  induction attempts generalizing v z with
  | nil => simp [successfulWindows]
  | cons a attempts ih =>
    obtain ⟨ha, hshort⟩ := hsound a List.mem_cons_self
    have hrest : ∀ b ∈ attempts, b.Sound connectionId ∧ b.Short :=
      fun b hb ↦ hsound b (List.mem_cons_of_mem a hb)
    have hfollow := hfollows a rfl
    obtain ⟨hhead, hchain⟩ := List.isChain_cons.1 hthen
    cases hok : a.succeeded with
    | false =>
      -- a failed attempt leaves `last_sync_at`, so `v` is still the window to follow
      have hafter : Follows v (lastSyncOf connectionId a.after.db) a.after.clock := by
        rw [ha.of_failed hok]
        exact hfollow.mono ha.started_le
      have htail := ih hz hrest hchain (hafter.next hhead)
      rwa [successfulWindows_of_failed hok, List.filter_cons_of_neg (by simp [hok])]
    | true =>
      obtain ⟨w, hw, hwf, hafter⟩ := ha.follows hshort hfollow.fresh hok
      obtain ⟨hadv, hreach⟩ := hfollow.window ha hok hw
      obtain ⟨hadvs, hwfs, hreaches⟩ := ih hw hrest hchain (hafter.next hhead)
      have hpair : Reaches v w ↔ SyncAttempt.InLookback connectionId z a := by
        rw [SyncAttempt.InLookback, hz, hw, hreach]
        simp
      rw [successfulWindows_of_succeeded hok hw, List.filter_cons_of_pos hok]
      refine ⟨List.isChain_cons_cons.2 ⟨hadv, hadvs⟩, ?_, ?_⟩
      · exact List.forall_mem_cons.2 ⟨hwf, hwfs⟩
      · rw [List.isChain_cons_cons, List.isChain_cons_cons, hpair, hreaches]

/-- The windows of a run. -/
theorem windows_of_run (attempts : List SyncAttempt)
    (hsound : ∀ a ∈ attempts, a.Sound connectionId ∧ a.Short)
    (hthen : attempts.IsChain SyncAttempt.Then)
    (hfresh : ∀ a ∈ attempts.head?, ∀ x ∈ lastSyncOf connectionId a.before, x ≤ a.startedAt) :
    (successfulWindows attempts).IsChain Advances ∧
      (∀ w ∈ successfulWindows attempts, w.1 ≤ w.2) ∧
      ((successfulWindows attempts).IsChain Reaches ↔
        (attempts.filter SyncAttempt.succeeded).IsChain
          (SyncAttempt.InLookback connectionId)) := by
  induction attempts with
  | nil => simp [successfulWindows]
  | cons a attempts ih =>
    obtain ⟨ha, hshort⟩ := hsound a List.mem_cons_self
    have hrest : ∀ b ∈ attempts, b.Sound connectionId ∧ b.Short :=
      fun b hb ↦ hsound b (List.mem_cons_of_mem a hb)
    obtain ⟨hhead, hchain⟩ := List.isChain_cons.1 hthen
    cases hok : a.succeeded with
    | false =>
      have htail := ih hrest hchain fun b hb x hx ↦ by
        obtain ⟨hbefore, hstarted⟩ := hhead b hb
        rw [← hbefore, ha.of_failed hok] at hx
        exact ((hfresh a rfl x hx).trans ha.started_le).trans hstarted
      rwa [successfulWindows_of_failed hok, List.filter_cons_of_neg (by simp [hok])]
    | true =>
      obtain ⟨w, hw, hwf, hafter⟩ := ha.follows hshort (hfresh a rfl) hok
      obtain ⟨hadvs, hwfs, hreaches⟩ := windows_after hw attempts hrest hchain (hafter.next hhead)
      rw [successfulWindows_of_succeeded hok hw, List.filter_cons_of_pos hok]
      exact ⟨hadvs, List.forall_mem_cons.2 ⟨hwf, hwfs⟩, hreaches⟩

end Windows

/-- **When the history of a connection has no gap.** Let a connection be synced any number of times,
one attempt after another, on a clock that does not go back and that its `last_sync_at` is not ahead
of, whatever the provider and the database answer, and let no attempt last for two years. An attempt
that fails leaves `last_sync_at` as it is; one that succeeds asks for one window; and the windows of
those that succeed cover the whole range from the first start to the last end if and only if each
ends in the look-back of the next. -/
theorem coverage_iff (L : Locale) (registered : String → Bool) (db : Database)
    {connection : ProviderConnection} (hconn : connection ∈ db.providerConnections)
    (users : List Uuid) {env : ℕ → Reply} (hclock : Monotone fun n ↦ (env n).now)
    (hlast : ∀ x ∈ connection.lastSyncAt, x ≤ (env 0).now)
    (hshort : ∀ a ∈ syncAttempts L registered connection.id users env db.toStore, a.Short) :
    let attempts := syncAttempts L registered connection.id users env db.toStore
    (∀ a ∈ attempts, a.succeeded = false →
        lastSyncOf connection.id a.after.db = lastSyncOf connection.id a.before) ∧
      (∀ a ∈ attempts, a.succeeded = true → a.windows.length = 1) ∧
      ∀ first ∈ (successfulWindows attempts).head?, ∀ last ∈ (successfulWindows attempts).getLast?,
        covered (successfulWindows attempts) = Set.Icc first.1 last.2 ↔
          (attempts.filter SyncAttempt.succeeded).IsChain
            (SyncAttempt.InLookback connection.id) := by
  intro attempts
  have hstored := stored_of_mem hconn
  obtain ⟨hsound, hthen, hhead⟩ := sound_syncAttempts users hclock hstored
  refine ⟨fun a ha ↦ (hsound a ha).of_failed, fun a ha hok ↦ ?_, ?_⟩
  · obtain ⟨_, _, -, -, -, hwindows, -⟩ := (hsound a ha).of_succeeded hok
    rw [hwindows]
    rfl
  · obtain ⟨hadv, hwf, hreach⟩ := windows_of_run attempts
      (fun a ha ↦ ⟨hsound a ha, hshort a ha⟩) hthen fun a ha x hx ↦ by
        obtain ⟨hbefore, hstarted⟩ := hhead a ha
        rw [hbefore, hstored.lastSyncOf_eq] at hx
        rw [hstarted]
        exact hlast x hx
    intro first hfirst last hend
    rw [← hreach]
    rcases hwindows : successfulWindows attempts with - | ⟨w, ws⟩
    · rw [hwindows] at hfirst
      exact absurd hfirst (by simp)
    · rw [hwindows] at hfirst hend hadv hwf
      rw [List.getLast?_eq_some_getLast (List.cons_ne_nil w ws)] at hend
      obtain rfl := Option.some.inj hfirst
      obtain rfl := Option.some.inj hend
      exact covered_eq_Icc_iff hwf hadv

/-- The answers of an environment in which the first twelve calls, one sync, are made on day 0 and
the others on a later day. -/
def twoSyncs (later : NaiveDate) (n : ℕ) : Reply :=
  { quietReply with now := if n < 12 then 0 else later * microsPerDay }

theorem monotone_twoSyncs {later : NaiveDate} (h : 0 ≤ later) :
    Monotone fun n ↦ (twoSyncs later n).now := by
  intro m n hmn
  have hlater : 0 ≤ later * microsPerDay := mul_nonneg h (by decide)
  simp only [twoSyncs]
  split <;> split
  · exact le_rfl
  · exact hlater
  · lia
  · exact le_rfl

/-- Two syncs, on day 0 and on day 1000. -/
theorem coverage_twoSyncs :
    covered (successfulWindows
      (syncAttempts Locale.c (fun _ ↦ true) 5 [7, 7] (twoSyncs 1000) connectedDatabase.toStore)) =
        Set.Icc (-730) 1000 :=
  ((coverage_iff Locale.c (fun _ ↦ true) connectedDatabase (List.mem_singleton.2 rfl) [7, 7]
    (monotone_twoSyncs (by decide)) (fun _ hx ↦ nomatch hx) (by decide)).2.2 (-730, 0) (by decide)
      (-2, 1000) (by decide)).2 (by decide)

/-- The answers of an environment in which a sync on day 0 succeeds, one on day 1800 gets no
accounts from the provider, and the calls after that are made on day 3600. -/
def failedSync (n : ℕ) : Reply :=
  if n < 12 then quietReply
  else if n < 18 then
    { quietReply with now := 1800 * microsPerDay, accounts := .error "INTERNAL_SERVER_ERROR" }
  else { quietReply with now := 3600 * microsPerDay }

/-- **A gap in the history.** Three attempts, each 1800 days after the one before, of which the
second fails: the third window is cut to the look-back, and day 1000 is in no window. -/
theorem failedSync_leaves_gap :
    let attempts := syncAttempts Locale.c (fun _ ↦ true) 5 [7, 7, 7] failedSync
      connectedDatabase.toStore
    attempts.map (fun a ↦ (Timestamp.dateNaive a.startedAt, a.succeeded)) =
        [(0, true), (1800, false), (3600, true)] ∧
      successfulWindows attempts = [(-730, 0), (1775, 3600)] ∧
      covered (successfulWindows attempts) ≠ Set.Icc (-730) 3600 := by
  intro attempts
  have hwindows : successfulWindows attempts = [(-730, 0), (1775, 3600)] := by decide
  refine ⟨by decide, hwindows, fun hcovered ↦ ?_⟩
  have hday : (1000 : NaiveDate) ∈ covered (successfulWindows attempts) := by
    rw [hcovered]
    exact ⟨by decide, by decide⟩
  obtain ⟨w, hw, hstart, hend⟩ := hday
  rw [hwindows] at hw
  rcases List.mem_pair.1 hw with rfl | rfl
  · exact absurd hend (by decide)
  · exact absurd hstart (by decide)

end Sumurai
