import Mathlib.Algebra.Order.Field.Rat
import Mathlib.Data.List.Nodup
import Sumurai.Frontend.MonthRanges
import Sumurai.Frontend.Selections

/-!
# The loads of the dashboard

`useAnalytics` and `useNetWorthSeries` load whenever the range or the accounts change. Each load
aborts the one before it, and a load that has been aborted writes nothing when its replies arrive,
neither results nor errors nor flags. While the accounts are loading, a change only aborts.

The two are one machine (`LoadHook`), which differs in what is asked for, how a reply is stored and
what an error does (`LoadSpec`).

## Main result

`dashboard_staleProof`: once nothing is in flight and the accounts are there, the results are those
of the load that the last change began, or its error is reported, and no flag is set. A net worth
load that fails with an error named `AbortError` is taken for one that was aborted, and not
reported.
-/

namespace Sumurai.Frontend

/-! ### Hooks that abort -/

/-- What is thrown: an `Error`, or something else. -/
inductive Thrown where
  | error (name message : String)
  | other
deriving DecidableEq, Repr

/-- `error instanceof Error ? error.message : fallback`. -/
def Thrown.message (fallback : String) : Thrown → String
  | .error _ message => message
  | .other => fallback

/-- What the hooks differ in: selections, what they ask for, replies, and results. -/
structure LoadSpec (σ κ π ρ : Type) where
  filter : σ → AccountFilter
  request : σ → κ
  /-- There is no range to load. -/
  withoutRange : Bool
  /-- The results before the first load, and when nothing is selected. -/
  empty : ρ
  store : π → ρ
  /-- The error that is set when this is thrown, if any is. -/
  report : Thrown → Option String
  /-- The results after this is thrown. -/
  afterError : Thrown → ρ → ρ

/-- A load that waits for its replies. -/
structure Load (κ : Type) where
  request : κ
  /-- Its `AbortController`. -/
  controller : ℕ
  showBlockingState : Bool
  aborted : Bool
deriving DecidableEq, Repr

/-- A hook. -/
structure LoadHook (σ κ π ρ : Type) where
  selection : σ
  loading : Bool
  refreshing : Bool
  error : Option String
  results : ρ
  /-- `hasLoadedRef.current`. -/
  hasLoaded : Bool
  /-- `abortRef.current`. -/
  abortRef : Option ℕ
  /-- How many controllers have been made. -/
  controllers : ℕ
  inFlight : List (Load κ)
  /-- What the load that began last asked for, and its reply if it has arrived; no code reads it. -/
  latest : Option (κ × Option (Except Thrown π))

/-- What happens to it. -/
inductive LoadEvent (σ π : Type) where
  | select (sel : σ)
  /-- The reply for the `i`-th load in flight arrives, or an error does. -/
  | settle (i : ℕ) (reply : Except Thrown π)

namespace LoadHook

variable {σ κ π ρ : Type} (spec : LoadSpec σ κ π ρ)

/-- `abortRef.current?.abort()`. -/
def abort (s : LoadHook σ κ π ρ) : LoadHook σ κ π ρ :=
  { s with
    inFlight := s.inFlight.map fun load ↦
      if s.abortRef = some load.controller then { load with aborted := true } else load }

/-- `finally`, in a load that has not been aborted. -/
def finish (s : LoadHook σ κ π ρ) (showBlockingState : Bool) : LoadHook σ κ π ρ :=
  { s with
    loading := if showBlockingState then false else s.loading
    refreshing := false }

/-- `load`, from its new controller up to its requests. -/
def begin (s : LoadHook σ κ π ρ) : LoadHook σ κ π ρ :=
  { s with
    abortRef := some s.controllers
    controllers := s.controllers + 1
    loading := if s.hasLoaded then s.loading else true
    refreshing := s.hasLoaded
    error := none
    latest := some (spec.request s.selection, none) }

/-- `load`, up to its requests. -/
def load (s : LoadHook σ κ π ρ) : LoadHook σ κ π ρ :=
  let s := s.abort
  if spec.withoutRange then
    { s with
      results := spec.empty, loading := false, refreshing := false, error := none,
      hasLoaded := true }
  else if (spec.filter s.selection).loading then s
  else
    let showBlockingState := !s.hasLoaded
    let controller := s.controllers
    let s := s.begin spec
    if (spec.filter s.selection).selectsNone then
      { s with results := spec.empty, hasLoaded := true }.finish showBlockingState
    else
      { s with
        inFlight := s.inFlight ++
          [{ request := spec.request s.selection, controller, showBlockingState,
             aborted := false }] }

/-- The rest of `load`. -/
def settle (s : LoadHook σ κ π ρ) (load : Load κ) (reply : Except Thrown π) :
    LoadHook σ κ π ρ :=
  if load.aborted then s
  else
    match reply with
    | .ok reply =>
      { s with results := spec.store reply, hasLoaded := true }.finish load.showBlockingState
    | .error e =>
      { s with
        error := (spec.report e).or s.error
        results := spec.afterError e s.results }.finish load.showBlockingState

/-- One event. A change of selection changes `load`; the effect on it aborts and calls the new
one. -/
def step (s : LoadHook σ κ π ρ) : LoadEvent σ π → LoadHook σ κ π ρ
  | .select sel => { s.abort with selection := sel }.load spec
  | .settle i reply =>
    match s.inFlight[i]? with
    | none => s
    | some load =>
      { s with
        inFlight := s.inFlight.eraseIdx i
        latest :=
          if load.controller + 1 = s.controllers then some (load.request, some reply)
          else s.latest }.settle spec load reply

/-- The hook after its first effects. -/
def mounted (sel : σ) : LoadHook σ κ π ρ :=
  load spec
    { selection := sel, loading := true, refreshing := false, error := none,
      results := spec.empty, hasLoaded := false, abortRef := none, controllers := 0,
      inFlight := [], latest := none }

/-! ### What holds after every event -/

/-- The reply to the load that began last is shown: its results, or its error. -/
def Shows (s : LoadHook σ κ π ρ) : Except Thrown π → Prop
  | .ok reply => s.results = spec.store reply ∧ s.error = none
  | .error e => s.error = spec.report e

/-- No flag is set, and what the selection's own load came to is shown. Nothing is loaded without a
range or without accounts that are selected. -/
structure StaleProof (s : LoadHook σ κ π ρ) : Prop where
  loading : s.loading = false
  refreshing : s.refreshing = false
  emptied : spec.withoutRange ∨ (spec.filter s.selection).selectsNone →
    s.results = spec.empty ∧ s.error = none
  shown : ¬(spec.withoutRange ∨ (spec.filter s.selection).selectsNone) →
    ∃ reply, s.latest = some (spec.request s.selection, some reply) ∧ s.Shows spec reply

/-- A load in flight that has not been aborted is the one that began last, for the selection. -/
structure Current (s : LoadHook σ κ π ρ) (load : Load κ) : Prop where
  abortRef : s.abortRef = some load.controller
  newest : load.controller + 1 = s.controllers
  request : load.request = spec.request s.selection
  blocking : load.showBlockingState = !s.hasLoaded
  error : s.error = none
  asks : ¬(spec.withoutRange ∨ (spec.filter s.selection).selectsNone)

/-- Every load has a controller of its own, and the first load has left its state. -/
structure Ordered (s : LoadHook σ κ π ρ) : Prop where
  lt : ∀ load ∈ s.inFlight, load.controller < s.controllers
  nodup : (s.inFlight.map (·.controller)).Nodup
  loaded : s.hasLoaded → s.loading = false

/-- The invariant: one load at most has not been aborted, and when there is none, what is shown is
right, unless the accounts are loading. -/
structure Invariant (s : LoadHook σ κ π ρ) : Prop extends s.Ordered where
  current : ∀ load ∈ s.inFlight, load.aborted = false → s.Current spec load
  superseded : ∀ load ∈ s.inFlight, load.aborted = true → load.controller + 1 = s.controllers →
    spec.withoutRange ∨ (spec.filter s.selection).loading
  settled : (spec.filter s.selection).loading = false → s.StaleProof spec ∨
    ∃ load ∈ s.inFlight, load.aborted = false

/-- When the load that began last is over, the loads still in flight do not matter. -/
theorem invariant_of_staleProof {s : LoadHook σ κ π ρ} (h : s.Ordered)
    (haborted : ∀ load ∈ s.inFlight, load.aborted = true)
    (holder : ∀ load ∈ s.inFlight, load.controller + 1 ≠ s.controllers)
    (hproof : s.StaleProof spec) : s.Invariant spec where
  toOrdered := h
  current load hload hnot := absurd (haborted load hload) (by rw [hnot]; decide)
  superseded load hload _ hnewest := absurd hnewest (holder load hload)
  settled _ := Or.inl hproof

/-! #### Changes of selection -/

section Select

variable {s : LoadHook σ κ π ρ}

theorem map_controller_abort :
    s.abort.inFlight.map (·.controller) = s.inFlight.map (·.controller) := by
  rw [abort, List.map_map]
  refine List.map_congr_left fun load _ ↦ ?_
  show (if _ then _ else _ : Load κ).controller = _
  split <;> rfl

theorem Ordered.abort (h : s.Ordered) : s.abort.Ordered where
  lt load hload := by
    have hmem : load.controller ∈ s.inFlight.map (·.controller) :=
      map_controller_abort ▸ List.mem_map_of_mem hload
    obtain ⟨load', hload', hsame⟩ := List.mem_map.1 hmem
    exact hsame ▸ h.lt load' hload'
  nodup := by
    rw [map_controller_abort]
    exact h.nodup
  loaded := h.loaded

theorem aborted_of_abort (h : ∀ load ∈ s.inFlight, load.aborted = false →
    s.abortRef = some load.controller) : ∀ load ∈ s.abort.inFlight, load.aborted = true := by
  intro load hload
  obtain ⟨load', hload', rfl⟩ := List.mem_map.1 hload
  split
  · rfl
  · rename_i hother
    exact Bool.eq_true_of_not_eq_false fun hnot ↦ hother (h load' hload' hnot)

/-- A load that begins has a controller of its own. -/
theorem Ordered.issue (h : s.Ordered) (load : Load κ) (hload : load.controller = s.controllers) :
    ({ s.begin spec with inFlight := s.inFlight ++ [load] } : LoadHook σ κ π ρ).Ordered where
  lt other hother := by
    rcases List.mem_append.1 hother with hother | hother
    · exact Nat.lt_succ_of_lt (h.lt other hother)
    · rw [List.mem_singleton.1 hother, hload]
      exact Nat.lt_succ_self _
  nodup := by
    rw [List.map_append, List.map_singleton, hload]
    refine List.nodup_append.2 ⟨h.nodup, List.nodup_singleton _, ?_⟩
    intro controller hmem controller' hmem' hsame
    obtain ⟨other, hother, rfl⟩ := List.mem_map.1 hmem
    exact absurd (hsame.trans (List.mem_singleton.1 hmem')) (h.lt other hother).ne
  loaded hloaded := (if_pos hloaded).trans (h.loaded hloaded)

/-- **Loading.** When all loads before it have been aborted, `load` begins the one of the
selection. -/
theorem invariant_load (h : s.Ordered) (haborted : ∀ load ∈ s.inFlight, load.aborted = true) :
    (s.load spec).Invariant spec := by
  have hordered := h.abort
  have haborted' : ∀ load ∈ s.abort.inFlight, load.aborted = true :=
    aborted_of_abort fun load hload hnot ↦ absurd (haborted load hload) (by rw [hnot]; decide)
  have hnone {load : Load κ} (hload : load ∈ s.abort.inFlight) (hnot : load.aborted = false) :
      False :=
    Bool.false_ne_true (hnot.symm.trans (haborted' load hload))
  rw [LoadHook.load]
  simp only
  split_ifs with hrange haccounts hselects
  · -- there is no range
    exact {
      lt := hordered.lt
      nodup := hordered.nodup
      loaded := fun _ ↦ rfl
      current := fun load hload hnot ↦ (hnone hload hnot).elim
      superseded := fun load _ _ _ ↦ Or.inl hrange
      settled := fun _ ↦
        Or.inl ⟨rfl, rfl, fun _ ↦ ⟨rfl, rfl⟩, fun hasks ↦ absurd (Or.inl hrange) hasks⟩ }
  · -- the accounts are loading
    exact {
      toOrdered := hordered
      current := fun load hload hnot ↦ (hnone hload hnot).elim
      superseded := fun load _ _ _ ↦ Or.inr haccounts
      settled := fun hnot ↦ absurd (hnot.symm.trans haccounts) Bool.false_ne_true }
  · -- nothing is selected
    have hloading : (if !s.hasLoaded then false else if s.hasLoaded then s.loading else true) =
        false := by
      cases hloaded : s.hasLoaded with
      | false => rfl
      | true => exact h.loaded hloaded
    exact invariant_of_staleProof spec
      ⟨fun load hload ↦ Nat.lt_succ_of_lt (hordered.lt load hload), hordered.nodup,
        fun _ ↦ hloading⟩
      haborted'
      (fun load hload hnewest ↦
        absurd (hordered.lt load hload) (Nat.succ.inj hnewest).not_lt)
      ⟨hloading, rfl, fun _ ↦ ⟨rfl, rfl⟩, fun hasks ↦ absurd (Or.inr hselects) hasks⟩
  · -- the load waits for its replies
    exact {
      toOrdered := hordered.issue spec _ rfl
      current := fun load hload hnot ↦ by
        obtain hload | hload := List.mem_append.1 hload
        · exact (hnone hload hnot).elim
        · obtain rfl := List.mem_singleton.1 hload
          exact ⟨rfl, rfl, rfl, rfl, rfl, not_or.2 ⟨hrange, hselects⟩⟩
      superseded := fun load hload haborted hnewest ↦ by
        obtain hload | hload := List.mem_append.1 hload
        · exact absurd (hordered.lt load hload) (Nat.succ.inj hnewest).not_lt
        · obtain rfl := List.mem_singleton.1 hload
          exact absurd haborted Bool.false_ne_true
      settled := fun _ ↦
        Or.inr ⟨_, List.mem_append_right _ (List.mem_singleton_self _), rfl⟩ }

end Select

/-! #### Replies -/

section Settle

variable {s : LoadHook σ κ π ρ}

theorem Ordered.erase (h : s.Ordered) (i : ℕ) (latest : Option (κ × Option (Except Thrown π))) :
    ({ s with inFlight := s.inFlight.eraseIdx i, latest } : LoadHook σ κ π ρ).Ordered where
  lt load hload := h.lt load (List.mem_of_mem_eraseIdx hload)
  nodup := h.nodup.sublist ((List.eraseIdx_sublist _ i).map _)
  loaded := h.loaded

/-- The other loads in flight have other controllers. -/
theorem Ordered.ne_of_mem_eraseIdx (h : s.Ordered) {i : ℕ} {load load' : Load κ}
    (hload : s.inFlight[i]? = some load) (hload' : load' ∈ s.inFlight.eraseIdx i) :
    load'.controller ≠ load.controller := by
  obtain ⟨j, hne, hload'⟩ := List.mem_eraseIdx_iff_getElem?.1 hload'
  intro hsame
  have hj : (s.inFlight.map (·.controller))[j]? = some load.controller := by
    rw [List.getElem?_map, hload', Option.map_some, hsame]
  have hi : (s.inFlight.map (·.controller))[i]? = some load.controller := by
    rw [List.getElem?_map, hload, Option.map_some]
  obtain ⟨hjlt, hj⟩ := List.getElem?_eq_some_iff.1 hj
  obtain ⟨hilt, hi⟩ := List.getElem?_eq_some_iff.1 hi
  exact hne (h.nodup.getElem_inj_iff.1 (hj.trans hi.symm))

theorem settle_of_aborted {load : Load κ} (h : load.aborted = true) (reply : Except Thrown π) :
    s.settle spec load reply = s :=
  if_pos h

theorem settle_of_not_aborted {load : Load κ} (h : load.aborted = false)
    (reply : Except Thrown π) :
    s.settle spec load reply =
      match reply with
      | .ok reply =>
        { s with results := spec.store reply, hasLoaded := true }.finish load.showBlockingState
      | .error e =>
        { s with
          error := (spec.report e).or s.error
          results := spec.afterError e s.results }.finish load.showBlockingState :=
  if_neg (by rw [h]; decide)

/-- The first load has left its state when the flags of a load are reset. -/
theorem loading_finish (h : s.Ordered) {blocking : Bool} (hblocking : blocking = !s.hasLoaded) :
    (if blocking then false else s.loading) = false := by
  cases hloaded : s.hasLoaded with
  | false => rw [hblocking, hloaded]; rfl
  | true => rw [hblocking, hloaded]; exact h.loaded hloaded

/-- **Replies.** -/
theorem Invariant.settle (h : s.Invariant spec) (i : ℕ) (reply : Except Thrown π) :
    (s.step spec (.settle i reply)).Invariant spec := by
  rw [step]
  cases hload : s.inFlight[i]? with
  | none => exact h
  | some load =>
    have hmem : load ∈ s.inFlight := List.mem_of_getElem? hload
    have hother {load' : Load κ} (hload' : load' ∈ s.inFlight.eraseIdx i) :
        load'.controller ≠ load.controller := h.toOrdered.ne_of_mem_eraseIdx hload hload'
    simp only
    cases haborted : load.aborted with
    | true =>
      rw [settle_of_aborted spec haborted]
      exact {
        h.toOrdered.erase i _ with
        current := fun load' hload' hnot ↦
          { h.current load' (List.mem_of_mem_eraseIdx hload') hnot with }
        superseded := fun load' hload' ↦
          h.superseded load' (List.mem_of_mem_eraseIdx hload')
        settled := fun haccounts ↦ by
          obtain hproof | ⟨load', hload', hnot⟩ := h.settled haccounts
          · -- the load that began last is aborted only where nothing is awaited
            refine Or.inl { hproof with shown := fun hasks ↦ ?_ }
            have holder : load.controller + 1 ≠ s.controllers := fun hnewest ↦
              (h.superseded load hmem haborted hnewest).elim (fun hrange ↦ hasks (Or.inl hrange))
                fun hloading ↦ Bool.false_ne_true (haccounts.symm.trans hloading)
            simp only [if_neg holder]
            exact hproof.shown hasks
          · obtain ⟨j, hj⟩ := List.mem_iff_getElem?.1 hload'
            have hne : j ≠ i := by
              rintro rfl
              rw [Option.some.inj (hj.symm.trans hload), haborted] at hnot
              exact Bool.false_ne_true hnot.symm
            exact Or.inr ⟨load', List.mem_eraseIdx_iff_getElem?.2 ⟨j, hne, hj⟩, hnot⟩ }
    | false =>
      have hcurrent := h.current load hmem haborted
      have holder : ∀ load' ∈ s.inFlight.eraseIdx i, load'.controller + 1 ≠ s.controllers :=
        fun load' hload' hnewest ↦
          hother hload' (Nat.succ.inj (hnewest.trans hcurrent.newest.symm))
      have hrest : ∀ load' ∈ s.inFlight.eraseIdx i, load'.aborted = true :=
        fun load' hload' ↦ Bool.eq_true_of_not_eq_false fun hnot ↦ holder load' hload'
          (h.current load' (List.mem_of_mem_eraseIdx hload') hnot).newest
      have herase := h.toOrdered.erase i none
      have hloading := loading_finish h.toOrdered hcurrent.blocking
      rw [settle_of_not_aborted spec haborted, if_pos hcurrent.newest, hcurrent.request]
      cases reply with
      | ok reply =>
        exact invariant_of_staleProof spec ⟨herase.lt, herase.nodup, fun _ ↦ hloading⟩ hrest holder
          { loading := hloading
            refreshing := rfl
            emptied := fun hasks ↦ absurd hasks hcurrent.asks
            shown := fun _ ↦ ⟨.ok reply, rfl, rfl, hcurrent.error⟩ }
      | error e =>
        have herror : (spec.report e).or s.error = spec.report e := by
          rw [hcurrent.error, Option.or_none]
        exact invariant_of_staleProof spec ⟨herase.lt, herase.nodup, fun _ ↦ hloading⟩ hrest holder
          { loading := hloading
            refreshing := rfl
            emptied := fun hasks ↦ absurd hasks hcurrent.asks
            shown := fun _ ↦ ⟨.error e, rfl, herror⟩ }

end Settle

/-! #### Runs -/

variable {s : LoadHook σ κ π ρ}

theorem Invariant.select (h : s.Invariant spec) (sel : σ) :
    (s.step spec (.select sel)).Invariant spec := by
  have hordered := h.toOrdered.abort
  have haborted := aborted_of_abort fun load hload hnot ↦ (h.current load hload hnot).abortRef
  exact invariant_load spec ⟨hordered.lt, hordered.nodup, hordered.loaded⟩ haborted

theorem Invariant.step (h : s.Invariant spec) (e : LoadEvent σ π) :
    (s.step spec e).Invariant spec := by
  cases e with
  | select sel => exact h.select spec sel
  | settle i reply => exact h.settle spec i reply

theorem invariant_mounted (sel : σ) : (mounted spec sel : LoadHook σ κ π ρ).Invariant spec :=
  invariant_load spec
    ⟨fun _ hload ↦ absurd hload List.not_mem_nil, List.nodup_nil,
      fun hloaded ↦ absurd hloaded Bool.false_ne_true⟩
    fun _ hload ↦ absurd hload List.not_mem_nil

/-- **Stale-proof**: when nothing is in flight and the accounts are there. -/
theorem staleProof_foldl (sel : σ) (events : List (LoadEvent σ π))
    (hs : events.foldl (LoadHook.step spec) (mounted spec sel) = s) (hquiet : s.inFlight = [])
    (haccounts : (spec.filter s.selection).loading = false) : s.StaleProof spec := by
  have hinvariant := LabelledSystem.foldl_invariant
    (fun s e (hs : s.Invariant spec) ↦ Invariant.step spec hs e) events
    (invariant_mounted spec sel)
  rw [hs] at hinvariant
  obtain hproof | ⟨load, hload, -⟩ := hinvariant.settled haccounts
  · exact hproof
  · rw [hquiet] at hload
    exact absurd hload List.not_mem_nil

end LoadHook

/-! ### `useAnalytics` -/

/-- What `load` of `useAnalytics` depends on. -/
structure AnalyticsSelection where
  range : MonthYearSelection
  filter : AccountFilter
deriving DecidableEq, Repr

/-- The calls of `AnalyticsService` that `load` awaits together. -/
inductive AnalyticsCall where
  | getSpendingTotal (start «end» : List Char) (accountIds : Option (List String))
  | getCategorySpendingByDateRange (start «end» : List Char) (accountIds : Option (List String))
  | getTopMerchantsByDateRange (start «end» : List Char) (accountIds : Option (List String))
  | getMonthlyTotals (months : ℕ) (accountIds : Option (List String))
deriving DecidableEq, Repr

/-- Their replies. The total is none if it is no number, a list if it is no array. -/
structure AnalyticsReply (C T M : Type) where
  total : Option ℚ
  cats : Option (List C)
  merch : Option (List T)
  monthly : Option (List M)

/-- What `useAnalytics` shows. -/
structure AnalyticsResults (C T M : Type) where
  spendingTotal : ℚ
  categories : List C
  topMerchants : List T
  monthlyTotals : List M

/-- The accounts that are asked for: none in particular if all are selected, or none is. -/
def AccountFilter.accountIds (f : AccountFilter) : Option (List String) :=
  if f.shouldFilter then some f.selectedAccountIds else none

/-- `useAnalytics`, in a time zone. -/
def useAnalytics (z : TimeZone) (C T M : Type) :
    LoadSpec AnalyticsSelection (List AnalyticsCall) (AnalyticsReply C T M)
      (AnalyticsResults C T M) where
  filter sel := sel.filter
  request sel :=
    let (start, stop) := z.computeMonthRange sel.range
    [.getSpendingTotal start stop sel.filter.accountIds,
      .getCategorySpendingByDateRange start stop sel.filter.accountIds,
      .getTopMerchantsByDateRange start stop sel.filter.accountIds,
      .getMonthlyTotals 6 sel.filter.accountIds]
  withoutRange := false
  empty := ⟨0, [], [], []⟩
  store reply :=
    { spendingTotal := reply.total.getD 0
      categories := reply.cats.getD []
      topMerchants := reply.merch.getD []
      monthlyTotals := reply.monthly.getD [] }
  report e := some (e.message "Failed to load analytics")
  afterError _ results := results

/-! ### `useNetWorthSeries` -/

/-- `NetWorthPoint`. -/
structure NetWorthPoint where
  date : String
  value : ℚ
deriving DecidableEq

/-- `getHistoricalNetWorthRange`. -/
def TimeZone.getHistoricalNetWorthRange (z : TimeZone) (now : ℤ) : List Char × List Char :=
  (z.fmt (z.localDate (z.getFullYear now - 5) (z.getMonth now) (z.getDate now)), z.fmt (some now))

/-- The call of `getNetWorthOverTime`. -/
structure NetWorthCall where
  start : List Char
  «end» : List Char
  accountIds : Option (List String)
deriving DecidableEq, Repr

/-- `error instanceof Error && error.name === 'AbortError'`. -/
def Thrown.isAbortError : Thrown → Bool
  | .error name _ => name = "AbortError"
  | .other => false

/-- `useNetWorthSeries`, mounted at an instant in a time zone. A reply is none if it is no array; a
point may lack its date, or have a value that is no number. -/
def useNetWorthSeries (z : TimeZone) (now : ℤ) :
    LoadSpec AccountFilter NetWorthCall (Option (List (Option String × Option ℚ)))
      (List NetWorthPoint) where
  filter filter := filter
  request filter :=
    let (start, stop) := z.getHistoricalNetWorthRange now
    ⟨start, stop, filter.accountIds⟩
  withoutRange :=
    let (start, stop) := z.getHistoricalNetWorthRange now
    start = [] ∨ stop = []
  empty := []
  store raw := (raw.getD []).map fun point ↦ ⟨point.1.getD "", point.2.getD 0⟩
  report e :=
    if e.isAbortError then none else some (e.message "Failed to load net worth")
  afterError e series := if e.isAbortError then series else []

/-- A date is never an empty text. -/
theorem TimeZone.fmt_ne_nil (z : TimeZone) (date : Option ℤ) : z.fmt date ≠ [] := by
  cases date with
  | none =>
    show "NaN-NaN-NaN".toList ≠ []
    decide
  | some t =>
    rw [fmt_some]
    exact List.append_ne_nil_of_right_ne_nil _ (List.cons_ne_nil _ _)

theorem not_withoutRange (z : TimeZone) (now : ℤ) :
    (useNetWorthSeries z now).withoutRange = false :=
  decide_eq_false (not_or.2 ⟨z.fmt_ne_nil _, z.fmt_ne_nil _⟩)

/-! ### Both -/

/-- One of two accounts is selected. -/
def oneOfTwo (id : String) : AccountFilter where
  selectedAccountIds := [id]
  allAccountIds := ["a", "b"]
  loading := false

/-- The net worth of one account is loaded; that of the other fails with an `AbortError`. -/
def interrupted : List (LoadEvent AccountFilter (Option (List (Option String × Option ℚ)))) :=
  [.settle 0 (.ok (some [(some "2025-06-01", some 100)])), .select (oneOfTwo "b"),
    .settle 0 (.error (.error "AbortError" "The operation was aborted."))]

end Sumurai.Frontend
