import Mathlib.Data.Finset.Max
import Mathlib.Data.Fintype.Basic
import Mathlib.Logic.Relation

/-!
# Groups of related elements

A relation on the elements of a list splits the list into *groups*: two elements are in one group
when a chain of related elements, in either direction, joins them (`Relation.EqvGen`). When the
elements are ranked, each group has a member that no element related to it outranks
(`exists_unbeaten`): so a process that removes only elements outranked by a related one never
removes a whole group.
-/

open Relation

namespace Groups

variable {α β : Type*} [LinearOrder β]

/-- **Every group has an unbeaten member.** -/
theorem exists_unbeaten (R : α → α → Prop) (rank : α → β) {l : List α} {x : α} (hx : x ∈ l) :
    ∃ m ∈ l, EqvGen R x m ∧ ∀ y ∈ l, R m y → rank y ≤ rank m := by
  classical
  have hne : (l.toFinset.filter (EqvGen R x)).Nonempty :=
    ⟨x, Finset.mem_filter.2 ⟨List.mem_toFinset.2 hx, EqvGen.refl x⟩⟩
  obtain ⟨m, hm, hmax⟩ := Finset.exists_max_image _ rank hne
  obtain ⟨hml, hxm⟩ := Finset.mem_filter.1 hm
  refine ⟨m, List.mem_toFinset.1 hml, hxm, fun y hy hmy ↦ hmax y ?_⟩
  exact Finset.mem_filter.2 ⟨List.mem_toFinset.2 hy, hxm.trans _ _ _ (EqvGen.rel m y hmy)⟩

end Groups
