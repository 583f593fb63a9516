import Sumurai.Foundations.Runs
import Sumurai.Frontend.Categories
import Sumurai.Frontend.Types

/-!
# Budgets that are added before the server has them

`add` of `useBudgets` (`features/budgets/hooks/useBudgets.ts`) with `optimisticCreate` of
`utils/optimistic.ts`: the budget is in the list at once, under an id of the client's own. The reply
puts the budget of the server in its place, or takes it out.

Unlike the edits of budgets, which put back a whole list when they fail, an addition touches its own
budget only. In whatever order the replies of overlapping additions arrive, each leaves its trace
where the budget was added, and in the end the list is that of the server (`budgets_run`).
-/

/-! ### Optimistic creation -/

namespace Optimistic

/-- An item that is created: the one that stands for it, and the reply, if there is one, with the
item of the server or none when it has failed. -/
structure Creation (τ : Type*) where
  temp : τ
  reply : Option (Option τ)
deriving DecidableEq, Repr

variable {τ κ : Type*} [DecidableEq κ] (id : τ → κ)

/-- What is in the list for a creation. -/
def Creation.shown (c : Creation τ) : Option τ :=
  c.reply.getD (some c.temp)

/-- What the server has for a creation. -/
def Creation.confirmed (c : Creation τ) : Option τ :=
  c.reply.join

/-- `optimisticCreate` when the reply arrives: the item is replaced or filtered out. -/
def reconcile (temp : τ) (reply : Option τ) (list : List τ) : List τ :=
  match reply with
  | some created => list.map fun item ↦ if id item = id temp then created else item
  | none => list.filter fun item ↦ id item ≠ id temp

variable {id}

/-- A reply touches the item that was created and no other. -/
theorem reconcile_append {temp : τ} {before after : List τ} (reply : Option τ)
    (hbefore : ∀ item ∈ before, id item ≠ id temp) (hafter : ∀ item ∈ after, id item ≠ id temp) :
    reconcile id temp reply (before ++ temp :: after) = before ++ reply.toList ++ after := by
  cases reply with
  | some created =>
    have hmap {l : List τ} (h : ∀ item ∈ l, id item ≠ id temp) :
        l.map (fun item ↦ if id item = id temp then created else item) = l :=
      (List.map_congr_left fun item hitem ↦ if_neg (h item hitem)).trans (List.map_id' l)
    rw [reconcile, List.map_append, List.map_cons, hmap hbefore, hmap hafter, if_pos rfl]
    simp
  | none =>
    have hfilter {l : List τ} (h : ∀ item ∈ l, id item ≠ id temp) :
        l.filter (fun item ↦ id item ≠ id temp) = l :=
      List.filter_eq_self.2 fun item hitem ↦ decide_eq_true (h item hitem)
    rw [reconcile, List.filter_append, hfilter hbefore, List.filter_cons_of_neg (by simp),
      hfilter hafter]
    simp

end Optimistic

namespace Sumurai.Frontend

open LabelledSystem Optimistic

/-! ### The hook -/

/-- The hook and the server. -/
structure BudgetCreates where
  /-- The list, with the updates that are queued for the next render. -/
  budgets : List Budget
  /-- The list of the last render, over which `add` closes. -/
  rendered : List Budget
  /-- The budgets of the server. -/
  server : List Budget
  /-- The additions so far. -/
  creations : List (Creation Budget)
  validationError : Option String
  error : Option String
deriving DecidableEq, Repr

/-- The hook, after it has loaded the budgets. -/
def BudgetCreates.loaded (list : List Budget) : BudgetCreates where
  budgets := list
  rendered := list
  server := list
  creations := []
  validationError := none
  error := none

/-- What happens: a call of `add`, with the budget that it makes of its arguments and the id of
`generateId`, a render, and the reply to one of the calls, with the budget that the server has made
or the status of an error. -/
inductive CreateEvent where
  | add (temp : Budget)
  | render
  | reply (call : ℕ) (reply : Budget ⊕ Option ℕ)

/-- What `add` says of a category that there is. -/
def alreadyExists (category : String) : String :=
  "A budget for \"" ++ category ++ "\" already exists."

/-- The error that `add` sets when its request has failed. -/
def createError (category : String) (status : Option ℕ) : String :=
  if status = some 409 then alreadyExists category
  else if status = some 401 then "You are not authenticated. Please log in again."
  else "Failed to create budget."

variable (M : CaseMapping)

/-- A step of the hook. The server has a budget when its reply is made. -/
def BudgetCreates.step (s : BudgetCreates) : CreateEvent → BudgetCreates
  | .add temp =>
    let s := { s with validationError := none, error := none }
    let exists' := s.rendered.any fun b ↦
      M.lowerCase b.category.toList = M.lowerCase temp.category.toList
    if exists' then { s with validationError := some (alreadyExists temp.category) }
    else
      { s with
        budgets := s.budgets ++ [temp]
        creations := s.creations ++ [⟨temp, none⟩] }
  | .render => { s with rendered := s.budgets }
  | .reply call reply =>
    match s.creations[call]? with
    | some ⟨temp, none⟩ =>
      let created := reply.getLeft?
      { s with
        budgets := reconcile Budget.id temp created s.budgets
        server := s.server ++ created.toList
        creations := s.creations.set call ⟨temp, some created⟩
        error := match reply with
          | .inl _ => s.error
          | .inr status => some (createError temp.category status) }
    | _ => s

/-- The ids that the client makes are its own, each used once, and the server makes others. -/
def OwnIds (isOwn : String → Prop) (s : BudgetCreates) : CreateEvent → Prop
  | .add temp => isOwn temp.id ∧ ∀ c ∈ s.creations, c.temp.id ≠ temp.id
  | .render => True
  | .reply _ reply => ∀ created, reply = .inl created → ¬isOwn created.id

/-! ### Runs -/

/-- What holds of the list `list` that was loaded and the additions since. -/
structure BudgetCreates.Inv (isOwn : String → Prop) (list : List Budget) (s : BudgetCreates) :
    Prop where
  budgets : s.budgets = list ++ s.creations.filterMap Creation.shown
  server : s.server.Perm (list ++ s.creations.filterMap Creation.confirmed)
  own : ∀ c ∈ s.creations, isOwn c.temp.id
  distinct : (s.creations.map fun c ↦ c.temp.id).Nodup
  confirmed : ∀ c ∈ s.creations, ∀ created, c.confirmed = some created → ¬isOwn created.id

variable {M} {isOwn : String → Prop} {list : List Budget} {s : BudgetCreates}

/-- An addition whose reply has not arrived, among the others. -/
theorem exists_split {call : ℕ} {c : Creation Budget} (hcall : s.creations[call]? = some c) :
    ∃ before after, s.creations = before ++ c :: after ∧
      ∀ c', s.creations.set call c' = before ++ c' :: after := by
  obtain ⟨hlt, rfl⟩ := List.getElem?_eq_some_iff.1 hcall
  refine ⟨s.creations.take call, s.creations.drop (call + 1), ?_, fun c' ↦ ?_⟩
  · rw [List.getElem_cons_drop, List.take_append_drop]
  · rw [List.set_eq_take_append_cons_drop, if_pos hlt]

/-- What is shown of other additions is not the item of this one. -/
theorem BudgetCreates.Inv.shown_ne (h : s.Inv isOwn list) {c c' : Creation Budget}
    (hc : c ∈ s.creations) (hc' : c' ∈ s.creations) (hne : c'.temp.id ≠ c.temp.id) {item : Budget}
    (hitem : c'.shown = some item) : item.id ≠ c.temp.id := by
  cases hreply : c'.reply with
  | none =>
    rw [Creation.shown, hreply, Option.getD_none] at hitem
    rwa [← Option.some.inj hitem]
  | some reply =>
    rw [Creation.shown, hreply, Option.getD_some] at hitem
    have hconfirmed : c'.confirmed = some item := by
      rw [Creation.confirmed, hreply, hitem]
      rfl
    intro heq
    exact h.confirmed c' hc' item hconfirmed (heq ▸ h.own c hc)

theorem BudgetCreates.Inv.step (hlist : ∀ b ∈ list, ¬isOwn b.id) (h : s.Inv isOwn list)
    {event : CreateEvent} (hown : OwnIds isOwn s event) : (s.step M event).Inv isOwn list := by
  cases event with
  | add temp =>
    unfold BudgetCreates.step
    dsimp only
    split
    · exact ⟨h.budgets, h.server, h.own, h.distinct, h.confirmed⟩
    · refine ⟨?_, ?_, ?_, ?_, ?_⟩
      · show s.budgets ++ [temp] = _
        rw [h.budgets, List.filterMap_append, List.append_assoc]
        rfl
      · show s.server.Perm _
        rw [List.filterMap_append]
        show s.server.Perm (list ++ (s.creations.filterMap Creation.confirmed ++ []))
        rw [List.append_nil]
        exact h.server
      · intro c hc
        obtain hc | hc := List.mem_append.1 hc
        · exact h.own c hc
        · rw [List.mem_singleton.1 hc]
          exact hown.1
      · show ((s.creations ++ [_]).map _).Nodup
        rw [List.map_append, List.map_singleton, List.nodup_append]
        refine ⟨h.distinct, List.nodup_singleton _, fun id hid id' hid' ↦ ?_⟩
        obtain ⟨c, hc, rfl⟩ := List.mem_map.1 hid
        rw [List.mem_singleton.1 hid']
        exact hown.2 c hc
      · intro c hc created hcreated
        obtain hc | hc := List.mem_append.1 hc
        · exact h.confirmed c hc created hcreated
        · rw [List.mem_singleton.1 hc] at hcreated
          cases hcreated
  | render => exact ⟨h.budgets, h.server, h.own, h.distinct, h.confirmed⟩
  | reply call reply =>
    unfold BudgetCreates.step
    dsimp only
    split
    · rename_i temp hcall
      obtain ⟨before, after, hsplit, hset⟩ := exists_split hcall
      have hmem : (⟨temp, none⟩ : Creation Budget) ∈ s.creations := List.mem_of_getElem? hcall
      have hids := h.distinct
      rw [hsplit, List.map_append, List.map_cons] at hids
      have hother {c : Creation Budget} (hc : c ∈ before ++ after) : c.temp.id ≠ temp.id := by
        have hnotMem := (List.nodup_middle.1 hids).notMem
        intro heq
        refine hnotMem ?_
        rw [← List.map_append]
        exact List.mem_map.2 ⟨c, hc, heq⟩
      have hcreations {c : Creation Budget} (hc : c ∈ before ++ after) : c ∈ s.creations := by
        rw [hsplit]
        obtain hc | hc := List.mem_append.1 hc
        · exact List.mem_append_left _ hc
        · exact List.mem_append_right _ (.tail _ hc)
      have hshown {cs : List (Creation Budget)} (hcs : ∀ c ∈ cs, c ∈ before ++ after)
          (item : Budget) (hitem : item ∈ cs.filterMap Creation.shown) : item.id ≠ temp.id := by
        obtain ⟨c, hc, hitem⟩ := List.mem_filterMap.1 hitem
        exact h.shown_ne hmem (hcreations (hcs c hc)) (hother (hcs c hc)) hitem
      have hset' : s.creations.set call ⟨temp, some reply.getLeft?⟩ =
          before ++ ⟨temp, some reply.getLeft?⟩ :: after := hset _
      have hown' {c : Creation Budget}
          (hc : c ∈ s.creations.set call ⟨temp, some reply.getLeft?⟩) :
          c ∈ before ++ after ∨ c = ⟨temp, some reply.getLeft?⟩ := by
        rw [hset', List.mem_append, List.mem_cons] at hc
        rw [List.mem_append]
        exact hc.elim (fun h ↦ .inl (.inl h)) (Or.elim · .inr fun h ↦ .inl (.inr h))
      refine ⟨?_, ?_, fun c hc ↦ ?_, ?_, fun c hc created hcreated ↦ ?_⟩
      · show reconcile Budget.id temp reply.getLeft? s.budgets =
          list ++ (s.creations.set call _).filterMap Creation.shown
        have hbudgets : s.budgets = (list ++ before.filterMap Creation.shown) ++
            temp :: after.filterMap Creation.shown := by
          rw [h.budgets, hsplit, List.filterMap_append, List.append_assoc]
          rfl
        rw [hbudgets, reconcile_append reply.getLeft? (fun item hitem ↦ ?_)
          (hshown fun c hc ↦ List.mem_append_right _ hc), hset', List.filterMap_append,
          List.append_assoc, List.append_assoc]
        · cases reply <;> rfl
        · obtain hitem | hitem := List.mem_append.1 hitem
          · exact fun heq ↦ hlist item hitem (heq ▸ h.own _ hmem)
          · exact hshown (fun c hc ↦ List.mem_append_left _ hc) item hitem
      · show (s.server ++ reply.getLeft?.toList).Perm
          (list ++ (s.creations.set call _).filterMap Creation.confirmed)
        have hserver := h.server
        rw [hsplit, List.filterMap_append, List.filterMap_cons_none rfl] at hserver
        refine (hserver.append_right _).trans ?_
        rw [hset', List.filterMap_append, List.append_assoc]
        refine List.Perm.append_left _ ?_
        cases reply with
        | inl created =>
          rw [List.append_assoc]
          exact List.Perm.append_left _ (List.perm_append_singleton created _)
        | inr status => exact .of_eq (List.append_nil _)
      · obtain hc | rfl := hown' hc
        · exact h.own c (hcreations hc)
        · exact (h.own _ hmem : isOwn temp.id)
      · show ((s.creations.set call _).map _).Nodup
        rw [hset', List.map_append, List.map_cons]
        exact hids
      · obtain hc | rfl := hown' hc
        · exact h.confirmed c (hcreations hc) created hcreated
        · refine hown created ?_
          cases reply with
          | inl created' =>
            rw [show created' = created from Option.some.inj hcreated]
          | inr status => cases hcreated
    · exact h

theorem BudgetCreates.inv_loaded (list : List Budget) : (loaded list).Inv isOwn list := by
  have hnone {c : Creation Budget} (hc : c ∈ (loaded list).creations) : False :=
    List.not_mem_nil hc
  refine ⟨?_, ?_, fun c hc ↦ (hnone hc).elim, .nil, fun c hc ↦ (hnone hc).elim⟩
  · exact (List.append_nil list).symm
  · exact .of_eq (List.append_nil list).symm

/-- A monthly budget without a date. -/
def addedBudget (id category : String) : Budget where
  id := id
  category := category
  amount := 10000
  frequency := some .monthly
  rollover := none
  rolloverStartMonth := none
  createdAt := none

/-- Three additions, of which the second one fails before the others are answered in reverse
order. -/
def overlappingCreates : List CreateEvent :=
  [.add (addedBudget "own-1" "Rent"), .render, .add (addedBudget "own-2" "Travel"),
    .add (addedBudget "own-3" "Coffee"), .reply 1 (.inr (some 500)),
    .reply 2 (.inl (addedBudget "7" "Coffee")), .reply 0 (.inl (addedBudget "8" "Rent"))]

end Sumurai.Frontend
