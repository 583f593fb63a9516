import Sumurai.Foundations.Runs
import Sumurai.Frontend.Types

/-!
# Optimistic edits of the budgets

`update` and `remove` of `useBudgets` (`features/budgets/hooks/useBudgets.ts`), each for the call
and for its reply. A call changes the local list at once. It also keeps the list of the render that
it was made from, and puts that list back as a whole when the reply is an error; the edits that
other calls made in the meantime are then gone from it, and edits of theirs that have failed since
can come back.

What a budget ought to be in the local list follows from the server and from the edit under way: the
budget is as the server has it, unless an edit of it waits for its reply. `agrees_iff` says when the
local list is right in the end: when the last reply that was an error put back a list that was
right, but for its own budget.
-/

namespace Sumurai.Frontend

/-! ### The state -/

/-- The edits. -/
inductive EditKind where
  | update | remove
deriving DecidableEq, Repr

/-- A call of `update` or `remove`. -/
structure EditCall where
  id : String
  kind : EditKind
  /-- `const snapshot = budgets`. -/
  snapshot : List Budget
  /-- The reply has not arrived. -/
  pending : Bool
deriving DecidableEq, Repr

/-- The hook and the server. -/
structure BudgetEdits where
  /-- The list, with the updates that are queued for the next render. -/
  budgets : List Budget
  /-- The list of the last render, over which the callbacks close. -/
  rendered : List Budget
  /-- The budgets of the server. -/
  server : List Budget
  /-- The calls so far. -/
  calls : List EditCall
deriving DecidableEq, Repr

/-- The hook, after it has loaded the budgets. -/
def BudgetEdits.loaded (list : List Budget) : BudgetEdits where
  budgets := list
  rendered := list
  server := list
  calls := []

/-- The call on a budget that waits for its reply. -/
def BudgetEdits.pendingOn (s : BudgetEdits) (id : String) : Option EditCall :=
  s.calls.find? fun c ↦ c.id = id ∧ c.pending

/-- No reply is outstanding. -/
def BudgetEdits.Quiet (s : BudgetEdits) : Prop :=
  ∀ c ∈ s.calls, c.pending = false

/-! ### The events -/

/-- What happens. -/
inductive EditEvent where
  | render
  | update (id : String) (amount : Decimal) (frequency : Option BudgetFrequency)
      (rollover : Option Bool)
  | remove (id : String)
  /-- The reply to an update, with the budget as the server then has it. -/
  | updated (reply : Budget)
  /-- The reply to a removal. -/
  | removed (id : String)
  /-- The error that is the reply to the call on a budget. -/
  | failed (id : String)
deriving DecidableEq, Repr

/-- The optimistic change of `update`. -/
def applyUpdate (amount : Decimal) (frequency : Option BudgetFrequency) (rollover : Option Bool)
    (b : Budget) : Budget :=
  { b with
    amount := amount
    frequency := frequency.or b.frequency
    rollover := rollover.or b.rollover }

/-- `prev.map((b) => (b.id === id ? f(b) : b))`. -/
def mapBudget (id : String) (f : Budget → Budget) (list : List Budget) : List Budget :=
  list.map fun b ↦ if b.id = id then f b else b

/-- `prev.filter((b) => b.id !== id)`. -/
def dropBudget (id : String) (list : List Budget) : List Budget :=
  list.filter fun b ↦ b.id ≠ id

/-- A new call, which waits for its reply. -/
def BudgetEdits.call (s : BudgetEdits) (id : String) (kind : EditKind) : List EditCall :=
  s.calls ++ [{ id := id, kind := kind, snapshot := s.rendered, pending := true }]

/-- The calls when the reply on a budget has arrived. -/
def BudgetEdits.answered (s : BudgetEdits) (id : String) : List EditCall :=
  s.calls.map fun c ↦ if c.id = id then { c with pending := false } else c

/-- One event. Each budget is edited once; replies come to calls that wait for one, and the budget
that an update is answered with is the server's. -/
def BudgetEdits.step (s : BudgetEdits) : EditEvent → BudgetEdits
  | .render => { s with rendered := s.budgets }
  | .update id amount frequency rollover =>
    if id ∈ s.calls.map EditCall.id then s
    else
      { s with
        budgets := mapBudget id (applyUpdate amount frequency rollover) s.budgets
        calls := s.call id .update }
  | .remove id =>
    if id ∈ s.calls.map EditCall.id then s
    else { s with budgets := dropBudget id s.budgets, calls := s.call id .remove }
  | .updated reply =>
    match s.pendingOn reply.id with
    | some { kind := .update, .. } =>
      if reply.id ∈ s.server.map Budget.id then
        { s with
          budgets := mapBudget reply.id (fun _ ↦ reply) s.budgets
          server := mapBudget reply.id (fun _ ↦ reply) s.server
          calls := s.answered reply.id }
      else s
    | _ => s
  | .removed id =>
    match s.pendingOn id with
    | some { kind := .remove, .. } =>
      { s with server := dropBudget id s.server, calls := s.answered id }
    | _ => s
  | .failed id =>
    match s.pendingOn id with
    | some c => { s with budgets := c.snapshot, calls := s.answered id }
    | none => s

/-! ### What a list ought to have -/

/-- A list's budget with an id. -/
def entry (list : List Budget) (id : String) : Option Budget :=
  list.find? fun b ↦ b.id = id

/-- A list is right about a budget: it has the server's, unless an edit waits for its reply. A
budget that waits for an update is in the list if the server has it; one that waits for its removal
is not in the list. -/
def BudgetEdits.RightAt (s : BudgetEdits) (list : List Budget) (id : String) : Prop :=
  match s.pendingOn id with
  | none => entry list id = entry s.server id
  | some { kind := .update, .. } => (entry list id).isSome = (entry s.server id).isSome
  | some { kind := .remove, .. } => entry list id = none

/-- The local list is right about every budget. -/
def BudgetEdits.Right (s : BudgetEdits) : Prop :=
  ∀ id, s.RightAt s.budgets id

/-- The list that a call would put back is right about every other budget. -/
def BudgetEdits.RestoresItsOwn (s : BudgetEdits) (c : EditCall) : Prop :=
  ∀ id, id ≠ c.id → s.RightAt c.snapshot id

/-- What is known of the last reply that was an error, after one more event. -/
def BudgetEdits.lastRollback (s : BudgetEdits) (before : Prop) : EditEvent → Prop
  | .failed id =>
    match s.pendingOn id with
    | some c => s.RestoresItsOwn c
    | none => before
  | _ => before

/-- The last reply of a run that was an error put back a list that was right about every other
budget; without such a reply, `before` holds. -/
def BudgetEdits.LastRollbackRestores (s : BudgetEdits) (before : Prop) (events : List EditEvent) :
    Prop :=
  LabelledSystem.lastVerdict step lastRollback s before events

/-! ### Lists and calls, by id -/

section Lists

variable {list : List Budget} {id other : String} {f : Budget → Budget}

theorem id_of_entry {b : Budget} (h : entry list id = some b) : b.id = id := by
  rw [entry] at h
  exact of_decide_eq_true (List.find?_some h :)

theorem exists_entry_of_mem (h : id ∈ list.map Budget.id) : ∃ b, entry list id = some b := by
  obtain ⟨b, hb, rfl⟩ := List.mem_map.1 h
  rcases hentry : entry list b.id with - | b'
  · exact absurd (decide_eq_true rfl) (List.find?_eq_none.1 hentry b hb)
  · exact ⟨b', rfl⟩

theorem entry_mapBudget (hf : ∀ b, b.id = id → (f b).id = id) :
    entry (mapBudget id f list) other =
      if other = id then (entry list id).map f else entry list other := by
  have hid : ∀ b : Budget, (if b.id = id then f b else b).id = b.id := by
    intro b
    split
    · rename_i h
      rw [hf b h, h]
    · rfl
  have hfind : entry (mapBudget id f list) other =
      (entry list other).map fun b ↦ if b.id = id then f b else b := by
    rw [entry, mapBudget, List.find?_map]
    simp only [Function.comp_def, hid]
    rfl
  rw [hfind]
  rcases hentry : entry list other with - | b
  · split
    · rename_i h
      rw [← h, hentry]
      rfl
    · rfl
  · have hb := id_of_entry hentry
    split
    · rename_i h
      rw [← h, hentry]
      exact congrArg some (if_pos hb)
    · rename_i h
      exact congrArg some (if_neg fun heq ↦ h (hb.symm.trans heq))

theorem entry_dropBudget :
    entry (dropBudget id list) other = if other = id then none else entry list other := by
  rw [entry, dropBudget, List.find?_filter]
  split
  · rename_i h
    refine List.find?_eq_none.2 fun b _ ↦ ?_
    simp [h]
  · rename_i h
    refine congrArg (List.find? · list) (funext fun b ↦ ?_)
    by_cases hb : b.id = other <;> simp [hb, h]

end Lists

section Calls

variable {s : BudgetEdits} {id other : String} {kind : EditKind} {c : EditCall}

theorem pendingOn_some (h : s.pendingOn id = some c) :
    c ∈ s.calls ∧ c.id = id ∧ c.pending = true := by
  rw [BudgetEdits.pendingOn] at h
  exact ⟨List.mem_of_find?_eq_some h, of_decide_eq_true (List.find?_some h :)⟩

theorem pendingOn_of_notMem (h : id ∉ s.calls.map EditCall.id) : s.pendingOn id = none := by
  refine List.find?_eq_none.2 fun c hc hpending ↦ h ?_
  exact List.mem_map.2 ⟨c, hc, (of_decide_eq_true hpending).1⟩

/-- A new call is the one that waits. -/
theorem pendingOn_call {t : BudgetEdits} (ht : t.calls = s.call id kind)
    (hid : id ∉ s.calls.map EditCall.id) :
    t.pendingOn other =
      if other = id then some { id := id, kind := kind, snapshot := s.rendered, pending := true }
      else s.pendingOn other := by
  have hold := pendingOn_of_notMem hid
  rw [BudgetEdits.pendingOn, ht, BudgetEdits.call, List.find?_append]
  change (s.pendingOn other).or _ = _
  split
  · rename_i h
    rw [h, hold, List.find?_cons_of_pos (by simp)]
    rfl
  · rename_i h
    rw [List.find?_cons_of_neg (by simpa using fun heq ↦ absurd heq.symm h), List.find?_nil,
      Option.or_none]

/-- An answered call no longer waits. -/
theorem pendingOn_answered {t : BudgetEdits} (ht : t.calls = s.answered id) :
    t.pendingOn other = if other = id then none else s.pendingOn other := by
  rw [BudgetEdits.pendingOn, ht, BudgetEdits.answered, List.find?_map]
  split
  · rename_i h
    rw [Option.map_eq_none_iff, List.find?_eq_none]
    intro c _
    rw [Function.comp_apply]
    split <;> simp_all
  · rename_i h
    have hsame : (s.calls.find? ((fun c ↦ decide (c.id = other ∧ c.pending)) ∘ fun c ↦
        if c.id = id then { c with pending := false } else c)) = s.pendingOn other := by
      refine congrArg (List.find? · s.calls) (funext fun c ↦ ?_)
      rw [Function.comp_apply]
      split
      · rename_i hc
        simp [hc, Ne.symm h]
      · rfl
    rw [hsame]
    rcases hpending : s.pendingOn other with - | c
    · rfl
    · obtain ⟨-, hc, -⟩ := pendingOn_some hpending
      exact congrArg some (if_neg fun heq ↦ h (hc.symm.trans heq))

end Calls

/-! ### The invariant -/

/-- The lists that are, or may become, the local one. -/
def BudgetEdits.lists (s : BudgetEdits) : List (List Budget) :=
  s.budgets :: s.rendered :: s.calls.map EditCall.snapshot

/-- Every list has the server's budget where there has been no call, and so has the snapshot of a
call that waits for its reply, for the call's own budget. -/
structure BudgetEdits.Inv (s : BudgetEdits) : Prop where
  untouched : ∀ id, id ∉ s.calls.map EditCall.id → ∀ list ∈ s.lists,
    entry list id = entry s.server id
  own : ∀ c ∈ s.calls, c.pending = true → entry c.snapshot c.id = entry s.server c.id

namespace BudgetEdits

variable {s t : BudgetEdits} {id : String}

/-- An event is about one budget. What it leaves to show is that a call on that budget, if it waits,
would put back what the server has. -/
theorem Inv.of_about (h : s.Inv)
    (hlists : ∀ l ∈ t.lists, ∃ l₀ ∈ s.lists, ∀ other, other ≠ id → entry l other = entry l₀ other)
    (hserver : ∀ other, other ≠ id → entry t.server other = entry s.server other)
    (hcalls : ∀ c ∈ t.calls, c.id ≠ id → c.pending = true → c ∈ s.calls)
    (hids : ∀ other, other ∉ t.calls.map EditCall.id →
      other ≠ id ∧ other ∉ s.calls.map EditCall.id)
    (hown : ∀ c ∈ t.calls, c.id = id → c.pending = true →
      entry c.snapshot id = entry t.server id) : t.Inv where
  untouched := by
    intro other hother l hl
    obtain ⟨hne, hs⟩ := hids other hother
    obtain ⟨l₀, hl₀, hsame⟩ := hlists l hl
    rw [hsame other hne, hserver other hne, h.untouched other hs l₀ hl₀]
  own := by
    intro c hc hpending
    rcases eq_or_ne c.id id with heq | hne
    · rw [heq]
      exact hown c hc heq hpending
    · rw [hserver _ hne]
      exact h.own c (hcalls c hc hne hpending) hpending

theorem mem_answered {c : EditCall} (hc : c ∈ s.answered id) :
    (∃ c₀ ∈ s.calls, c₀.id = id ∧ c = { c₀ with pending := false }) ∨
      (c ∈ s.calls ∧ c.id ≠ id) := by
  obtain ⟨c₀, hc₀, rfl⟩ := List.mem_map.1 hc
  split
  · rename_i h
    exact Or.inl ⟨c₀, hc₀, h, rfl⟩
  · rename_i h
    exact Or.inr ⟨hc₀, h⟩

theorem map_id_answered : (s.answered id).map EditCall.id = s.calls.map EditCall.id := by
  rw [answered, List.map_map]
  refine List.map_congr_left fun c _ ↦ ?_
  rw [Function.comp_apply]
  split <;> rfl

theorem map_snapshot_answered :
    (s.answered id).map EditCall.snapshot = s.calls.map EditCall.snapshot := by
  rw [answered, List.map_map]
  refine List.map_congr_left fun c _ ↦ ?_
  rw [Function.comp_apply]
  split <;> rfl

/-- A reply, whatever it does to the lists: the invariant is left with the lists to look at. -/
theorem Inv.answer (h : s.Inv) {c : EditCall} (hpending : s.pendingOn id = some c)
    (hcalls : t.calls = s.answered id) (hrendered : t.rendered = s.rendered)
    (hbudgets : ∃ l₀ ∈ s.lists, ∀ other, other ≠ id → entry t.budgets other = entry l₀ other)
    (hserver : ∀ other, other ≠ id → entry t.server other = entry s.server other) : t.Inv := by
  obtain ⟨hc, hid, -⟩ := pendingOn_some hpending
  refine h.of_about ?_ hserver ?_ ?_ ?_
  · intro l hl
    rw [lists, hcalls, hrendered, map_snapshot_answered] at hl
    rcases List.mem_cons.1 hl with rfl | hl
    · exact hbudgets
    · exact ⟨l, List.mem_cons_of_mem _ hl, fun _ _ ↦ rfl⟩
  · intro c' hc' hne _
    rw [hcalls] at hc'
    rcases mem_answered hc' with ⟨c₀, -, heq, rfl⟩ | ⟨hmem, -⟩
    · exact absurd heq hne
    · exact hmem
  · intro other hother
    rw [hcalls, map_id_answered] at hother
    refine ⟨?_, hother⟩
    rintro rfl
    exact hother (List.mem_map.2 ⟨c, hc, hid⟩)
  · intro c' hc' heq hwaits
    rw [hcalls] at hc'
    rcases mem_answered hc' with ⟨c₀, -, -, rfl⟩ | ⟨-, hne⟩
    · exact absurd hwaits nofun
    · exact absurd heq hne

/-- A new call, whatever it does to the local list's own budget. -/
theorem Inv.call (h : s.Inv) {kind : EditKind} (hid : id ∉ s.calls.map EditCall.id)
    (hcalls : t.calls = s.call id kind) (hrendered : t.rendered = s.rendered)
    (hbudgets : ∀ other, other ≠ id → entry t.budgets other = entry s.budgets other)
    (hserver : t.server = s.server) : t.Inv := by
  have hsame : ∀ other, other ≠ id → entry t.server other = entry s.server other := by
    intro other _
    rw [hserver]
  refine h.of_about ?_ hsame ?_ ?_ ?_
  · intro l hl
    rw [lists, hcalls, hrendered, BudgetEdits.call, List.map_append] at hl
    rcases List.mem_cons.1 hl with rfl | hl
    · exact ⟨s.budgets, List.mem_cons_self, hbudgets⟩
    · refine ⟨l, ?_, fun _ _ ↦ rfl⟩
      rcases List.mem_cons.1 hl with rfl | hl
      · exact List.mem_cons_of_mem _ List.mem_cons_self
      · rcases List.mem_append.1 hl with hl | hl
        · exact List.mem_cons_of_mem _ (List.mem_cons_of_mem _ hl)
        · rw [List.mem_singleton.1 hl]
          exact List.mem_cons_of_mem _ List.mem_cons_self
  · intro c hc hne _
    rw [hcalls] at hc
    rcases List.mem_append.1 hc with hc | hc
    · exact hc
    · rw [List.mem_singleton.1 hc] at hne
      exact absurd rfl hne
  · intro other hother
    rw [hcalls, BudgetEdits.call, List.map_append, List.mem_append, not_or] at hother
    exact ⟨fun heq ↦ hother.2 (List.mem_singleton.2 heq), hother.1⟩
  · intro c hc heq _
    rw [hcalls] at hc
    rcases List.mem_append.1 hc with hc | hc
    · exact absurd (List.mem_map.2 ⟨c, hc, heq⟩) hid
    · rw [List.mem_singleton.1 hc, hserver]
      exact h.untouched id hid _ (List.mem_cons_of_mem _ List.mem_cons_self)

/-! ### One event -/

/-- Whether a list is right about a budget is a matter of the entries and of the call that waits. -/
theorem rightAt_congr {list list' : List Budget} (hpending : t.pendingOn id = s.pendingOn id)
    (hserver : entry t.server id = entry s.server id) (hlist : entry list id = entry list' id) :
    t.RightAt list id ↔ s.RightAt list' id := by
  rw [RightAt, RightAt, hpending, hserver, hlist]

/-- An event about one budget changes nothing for the others. -/
theorem right_iff_of_about (id : String)
    (hothers : ∀ other, other ≠ id → (t.RightAt t.budgets other ↔ s.RightAt s.budgets other))
    (hown : t.RightAt t.budgets id ↔ s.RightAt s.budgets id) : t.Right ↔ s.Right := by
  refine forall_congr' fun other ↦ ?_
  rcases eq_or_ne other id with rfl | hne
  · exact hown
  · exact hothers other hne

/-- A call: the budget was right, and is right. -/
theorem right_call (h : s.Inv) {kind : EditKind} (hid : id ∉ s.calls.map EditCall.id)
    (hcalls : t.calls = s.call id kind) (hserver : t.server = s.server)
    (hbudgets : ∀ other, other ≠ id → entry t.budgets other = entry s.budgets other)
    (hown : match kind with
      | .update => (entry t.budgets id).isSome = (entry s.budgets id).isSome
      | .remove => entry t.budgets id = none) : t.Right ↔ s.Right := by
  refine right_iff_of_about id (fun other hne ↦ ?_) (iff_of_true ?_ ?_)
  · refine rightAt_congr ?_ (by rw [hserver]) (hbudgets other hne)
    rw [pendingOn_call hcalls hid, if_neg hne]
  · rw [RightAt, pendingOn_call hcalls hid, if_pos rfl, hserver]
    rcases kind with - | -
    · show (entry t.budgets id).isSome = (entry s.server id).isSome
      rw [hown, h.untouched id hid _ List.mem_cons_self]
    · exact hown
  · rw [RightAt, pendingOn_of_notMem hid]
    exact h.untouched id hid _ List.mem_cons_self

/-- A reply: the other budgets are as right as they were. -/
theorem right_answer (hcalls : t.calls = s.answered id)
    (hserver : ∀ other, other ≠ id → entry t.server other = entry s.server other)
    (hbudgets : ∀ other, other ≠ id → entry t.budgets other = entry s.budgets other)
    (hown : entry t.budgets id = entry t.server id ↔ s.RightAt s.budgets id) :
    t.Right ↔ s.Right := by
  refine right_iff_of_about id (fun other hne ↦ ?_) (Iff.trans ?_ hown)
  · refine rightAt_congr ?_ (hserver other hne) (hbudgets other hne)
    rw [pendingOn_answered hcalls, if_neg hne]
  · rw [RightAt, pendingOn_answered hcalls, if_pos rfl]

/-- **What one event does.** The invariant stays; and the local list is right after the event if and
only if it was, unless the event is an error, where it is right if the list that is put back was
right about every other budget. -/
theorem step_right (h : s.Inv) (e : EditEvent) :
    (s.step e).Inv ∧ ((s.step e).Right ↔ s.lastRollback s.Right e) := by
  rcases e with - | ⟨id, amount, frequency, rollover⟩ | id | reply | id | id
  · refine ⟨⟨fun other hother l hl ↦ ?_, h.own⟩, Iff.rfl⟩
    refine h.untouched other hother l ?_
    rcases List.mem_cons.1 hl with rfl | hl
    · exact List.mem_cons_self
    · rcases List.mem_cons.1 hl with rfl | hl
      · exact List.mem_cons_self
      · exact List.mem_cons_of_mem _ (List.mem_cons_of_mem _ hl)
  · rw [step]
    split
    · exact ⟨h, Iff.rfl⟩
    · rename_i hid
      have hentry : ∀ other, entry (mapBudget id (applyUpdate amount frequency rollover) s.budgets)
          other = if other = id then
            (entry s.budgets id).map (applyUpdate amount frequency rollover)
          else entry s.budgets other := fun other ↦ entry_mapBudget fun _ hb ↦ hb
      have hothers : ∀ other, other ≠ id →
          entry (mapBudget id (applyUpdate amount frequency rollover) s.budgets) other =
            entry s.budgets other := fun other hne ↦ (hentry other).trans (if_neg hne)
      refine ⟨h.call hid rfl rfl hothers rfl, right_call h hid rfl rfl hothers ?_⟩
      show (entry (mapBudget id _ s.budgets) id).isSome = _
      rw [hentry, if_pos rfl, Option.isSome_map]
  · rw [step]
    split
    · exact ⟨h, Iff.rfl⟩
    · rename_i hid
      have hothers : ∀ other, other ≠ id → entry (dropBudget id s.budgets) other =
          entry s.budgets other := fun other hne ↦ entry_dropBudget.trans (if_neg hne)
      refine ⟨h.call hid rfl rfl hothers rfl, right_call h hid rfl rfl hothers ?_⟩
      exact entry_dropBudget.trans (if_pos rfl)
  · rw [step]
    split
    · rename_i snapshot pending hpending
      split
      · rename_i hserver
        have hmap : ∀ list other, entry (mapBudget reply.id (fun _ ↦ reply) list) other =
            if other = reply.id then (entry list reply.id).map (fun _ ↦ reply)
            else entry list other := fun list other ↦ entry_mapBudget fun _ _ ↦ rfl
        have hothers : ∀ list other, other ≠ reply.id →
            entry (mapBudget reply.id (fun _ ↦ reply) list) other = entry list other :=
          fun list other hne ↦ (hmap list other).trans (if_neg hne)
        refine ⟨h.answer hpending rfl rfl ⟨_, List.mem_cons_self, hothers _⟩ (hothers _),
          right_answer rfl (hothers _) (hothers _) ?_⟩
        -- both have the reply, if they have the budget
        obtain ⟨b, hb⟩ := exists_entry_of_mem hserver
        show entry (mapBudget reply.id _ s.budgets) reply.id =
          entry (mapBudget reply.id _ s.server) reply.id ↔ _
        rw [hmap, hmap, if_pos rfl, if_pos rfl, RightAt, hpending, hb]
        rcases entry s.budgets reply.id with - | b'
        · exact iff_of_false nofun nofun
        · exact iff_of_true rfl rfl
      · exact ⟨h, Iff.rfl⟩
    · exact ⟨h, Iff.rfl⟩
  · rw [step]
    split
    · rename_i snapshot pending hpending
      have hothers : ∀ other, other ≠ id → entry (dropBudget id s.server) other =
          entry s.server other := fun other hne ↦ entry_dropBudget.trans (if_neg hne)
      refine ⟨h.answer hpending rfl rfl ⟨_, List.mem_cons_self, fun _ _ ↦ rfl⟩ hothers,
        right_answer rfl hothers (fun _ _ ↦ rfl) ?_⟩
      show entry s.budgets id = entry (dropBudget id s.server) id ↔ _
      rw [entry_dropBudget, if_pos rfl, RightAt, hpending]
    · exact ⟨h, Iff.rfl⟩
  · rw [step, lastRollback]
    rcases hpending : s.pendingOn id with - | c
    · exact ⟨h, Iff.rfl⟩
    · obtain ⟨hc, rfl, hwaits⟩ := pendingOn_some hpending
      have hsnapshot : c.snapshot ∈ s.lists :=
        List.mem_cons_of_mem _ (List.mem_cons_of_mem _ (List.mem_map_of_mem hc))
      refine ⟨h.answer hpending rfl rfl ⟨_, hsnapshot, fun _ _ ↦ rfl⟩ fun _ _ ↦ rfl, ?_⟩
      refine forall_congr' fun other ↦ ?_
      rcases eq_or_ne other c.id with rfl | hne
      · refine iff_of_true ?_ fun hne ↦ absurd rfl hne
        rw [RightAt, pendingOn_answered rfl, if_pos rfl]
        exact h.own c hc hwaits
      · rw [imp_iff_right hne]
        refine rightAt_congr ?_ rfl rfl
        rw [pendingOn_answered rfl, if_neg hne]

theorem inv_loaded (list : List Budget) : (loaded list).Inv where
  untouched := by
    intro other _ l hl
    rcases List.mem_cons.1 hl with rfl | hl
    · rfl
    · rw [List.mem_singleton.1 hl]
      rfl
  own _ hc := absurd hc List.not_mem_nil

theorem right_of_quiet (hquiet : s.Quiet) :
    s.Right ↔ ∀ id, entry s.budgets id = entry s.server id := by
  refine forall_congr' fun id ↦ ?_
  have hnone : s.pendingOn id = none := by
    rcases hpending : s.pendingOn id with - | c
    · rfl
    · obtain ⟨hc, -, hwaits⟩ := pendingOn_some hpending
      rw [hquiet c hc] at hwaits
      exact absurd hwaits nofun
  rw [RightAt, hnone]

/-- **When the edits do not undo each other.** On every list and in every run of edits of different
budgets, with replies in any order: once all replies have arrived, the local list agrees with the
server on every budget if and only if the last reply that was an error put back a list that was
right about every other budget. -/
theorem agrees_iff (list : List Budget) (events : List EditEvent)
    (hquiet : (events.foldl step (loaded list)).Quiet) :
    (∀ id, entry (events.foldl step (loaded list)).budgets id =
        entry (events.foldl step (loaded list)).server id) ↔
      (loaded list).LastRollbackRestores True events := by
  rw [← right_of_quiet hquiet]
  exact LabelledSystem.foldl_iff_lastVerdict (fun _ e h ↦ (step_right h e).1)
    (fun _ e h ↦ (step_right h e).2) (inv_loaded list) (iff_of_true (fun _ ↦ rfl) trivial) events

/-! ### Two edits at once -/

/-- A monthly budget. -/
def monthlyBudget (id : String) (amount : Decimal) : Budget where
  id := id
  category := id
  amount := amount
  frequency := some .monthly
  rollover := some false
  rolloverStartMonth := none
  createdAt := none

/-- While an update of `b` waits for its reply, `a` is updated; the update of `b` fails. -/
def overlappingEdits : List EditEvent :=
  [.update "b" 30000 none none, .render, .update "a" 20000 none none, .render,
    .updated (monthlyBudget "a" 20000), .render, .failed "b"]

/-- The hook and the server after them. -/
def overlapping : BudgetEdits :=
  overlappingEdits.foldl step (loaded [monthlyBudget "a" 100, monthlyBudget "b" 200])

theorem overlapping_quiet : overlapping.Quiet := by
  unfold Quiet
  decide

theorem overlapping_agrees_iff :
    (∀ id, entry overlapping.budgets id = entry overlapping.server id) ↔
      (loaded [monthlyBudget "a" 100, monthlyBudget "b" 200]).LastRollbackRestores True
        overlappingEdits :=
  agrees_iff _ _ overlapping_quiet

/-- **A successful update undone.** The server has the new amount of `a`, the local list the old
one. -/
theorem overlapping_undoes :
    overlapping.Quiet ∧ entry overlapping.budgets "a" = some (monthlyBudget "a" 100) ∧
      entry overlapping.server "a" = some (monthlyBudget "a" 20000) ∧
      ¬ ∀ id, entry overlapping.budgets id = entry overlapping.server id := by
  have hlocal : entry overlapping.budgets "a" = some (monthlyBudget "a" 100) := by decide
  have hserver : entry overlapping.server "a" = some (monthlyBudget "a" 20000) := by decide
  refine ⟨overlapping_quiet, hlocal, hserver, fun hagrees ↦ ?_⟩
  have heq := hagrees "a"
  rw [hlocal, hserver] at heq
  exact absurd heq (by decide)

end BudgetEdits

end Sumurai.Frontend
