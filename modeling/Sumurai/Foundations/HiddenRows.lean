import Mathlib.Data.List.Basic
import Mathlib.Data.List.Find

/-!
# Tables with a hidden part

A predicate splits the rows of a table into visible and hidden ones. A query or a write that reaches
only visible rows does the same on the visible part of the table as on the whole table, and leaves
the hidden part as it is. There are lemmas for each kind of access: a lookup, a test, a selection, a
key test, an update, an insertion and a deletion.
-/

namespace HiddenRows

variable {α β : Type*} {p q : α → Bool} {l : List α}

/-! ### Reading -/

theorem find?_visible (h : ∀ a ∈ l, q a = true → p a = true) :
    (l.filter p).find? q = l.find? q := by
  rw [List.find?_filter]
  refine List.find?_congr fun a ha ↦ ?_
  by_cases hq : q a = true
  · simp [hq, h a ha hq]
  · simp [hq]

theorem any_visible (h : ∀ a ∈ l, q a = true → p a = true) : (l.filter p).any q = l.any q := by
  rw [Bool.eq_iff_iff, List.any_eq_true, List.any_eq_true]
  constructor
  · rintro ⟨a, ha, hq⟩
    exact ⟨a, List.mem_of_mem_filter ha, hq⟩
  · rintro ⟨a, ha, hq⟩
    exact ⟨a, List.mem_filter.2 ⟨ha, h a ha hq⟩, hq⟩

theorem filter_visible (h : ∀ a ∈ l, q a = true → p a = true) :
    (l.filter p).filter q = l.filter q := by
  rw [List.filter_filter]
  refine List.filter_congr fun a ha ↦ ?_
  by_cases hq : q a = true
  · simp [hq, h a ha hq]
  · simp [hq]

theorem mem_map_visible {key : α → β} {k : β} (h : ∀ a ∈ l, key a = k → p a = true) :
    k ∈ (l.filter p).map key ↔ k ∈ l.map key := by
  rw [List.mem_map, List.mem_map]
  constructor
  · rintro ⟨a, ha, hk⟩
    exact ⟨a, List.mem_of_mem_filter ha, hk⟩
  · rintro ⟨a, ha, hk⟩
    exact ⟨a, List.mem_filter.2 ⟨ha, h a ha hk⟩, hk⟩

/-! ### Writing -/

/-- An update does on the visible part what it does on the whole. -/
theorem filter_map_visible {f : α → α} (h : ∀ a ∈ l, p (f a) = p a) :
    (l.map f).filter p = (l.filter p).map f := by
  rw [List.filter_map]
  exact congrArg (List.map f) (List.filter_congr h)

/-- An update of visible rows leaves the hidden ones as they are. -/
theorem filter_map_hidden {f : α → α} (h : ∀ a ∈ l, p (f a) = p a)
    (hfix : ∀ a ∈ l, p a = false → f a = a) :
    (l.map f).filter (fun a ↦ !p a) = l.filter fun a ↦ !p a := by
  rw [List.filter_map, List.filter_congr (q := fun a ↦ !p a) fun a ha ↦ by
    rw [Function.comp, h a ha]]
  refine (List.map_congr_left fun a ha ↦ ?_).trans (List.map_id _)
  obtain ⟨hmem, hhidden⟩ := List.mem_filter.1 ha
  exact hfix a hmem (by simpa using hhidden)

section Updates

variable {named : α → Prop} [DecidablePred named] {f : α → α}

/-- An update with a `WHERE`, on the visible part. -/
theorem filter_update_visible (h : ∀ a ∈ l, named a → p (f a) = p a) :
    (l.map fun a ↦ if named a then f a else a).filter p =
      (l.filter p).map fun a ↦ if named a then f a else a := by
  refine filter_map_visible fun a ha ↦ ?_
  split
  · exact h a ha ‹_›
  · rfl

/-- An update with a `WHERE` that no hidden row meets. -/
theorem filter_update_hidden (h : ∀ a ∈ l, named a → p (f a) = p a)
    (hnamed : ∀ a ∈ l, named a → p a = true) :
    (l.map fun a ↦ if named a then f a else a).filter (fun a ↦ !p a) = l.filter fun a ↦ !p a := by
  refine filter_map_hidden (fun a ha ↦ ?_) fun a ha hhidden ↦ if_neg fun hmeets ↦ ?_
  · split
    · exact h a ha ‹_›
    · rfl
  · rw [hnamed a ha hmeets] at hhidden
    cases hhidden

end Updates

/-- An insertion of a visible row, on the visible part. -/
theorem filter_insert_visible {a : α} (h : p a = true) :
    (l ++ [a]).filter p = l.filter p ++ [a] := by
  rw [List.filter_append, List.filter_singleton, h]
  rfl

/-- An insertion of a visible row leaves the hidden ones as they are. -/
theorem filter_insert_hidden {a : α} (h : p a = true) :
    (l ++ [a]).filter (fun a ↦ !p a) = l.filter fun a ↦ !p a := by
  rw [List.filter_append, List.filter_singleton, h]
  exact List.append_nil _

/-- A deletion of visible rows leaves the hidden ones as they are. -/
theorem filter_filter_hidden (h : ∀ a ∈ l, q a = false → p a = true) :
    (l.filter q).filter (fun a ↦ !p a) = l.filter fun a ↦ !p a := by
  rw [List.filter_filter]
  refine List.filter_congr fun a ha ↦ ?_
  by_cases hq : q a = true
  · simp [hq]
  · simp [hq, h a ha (by simpa using hq)]

end HiddenRows
