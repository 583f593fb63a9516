import Mathlib.Data.List.Nodup
import Mathlib.Data.List.Pairwise
import Mathlib.Data.List.Perm.Basic

/-!
# Lists with unique keys

When two lists have the same keys, up to order: two choices from a list whose keys are unique have
if they are the same choice (`filter_map_perm_iff`), and a list has the keys of another, of which a
part is unique already, if each of its own keys is one of the other's, none comes twice, and no part
is left out (`map_perm_iff_of_part`).
-/

section KeyedLists

variable {α κ ι : Type} {l l' : List α} {k : α → κ} {p q : α → Bool}

/-- A key that some elements lack tells those that have it apart. -/
theorem eq_of_nodup_filterMap {f : α → Option κ} (h : (l.filterMap f).Nodup) {a b : α} {x : κ}
    (ha : a ∈ l) (hb : b ∈ l) (hax : f a = some x) (hbx : f b = some x) : a = b := by
  by_contra hne
  have hpairwise := List.pairwise_filterMap.1 h
  have hsymm : Std.Symm fun a b ↦ ∀ x, f a = some x → ∀ y, f b = some y → x ≠ y :=
    ⟨fun a b hab x hx y hy ↦ (hab y hy x hx).symm⟩
  exact hpairwise.forall ha hb hne x hax x hbx rfl

/-- Of a list whose keys are unique, two choices have the same keys exactly if they are the same. -/
theorem filter_map_perm_iff (h : (l.map k).Nodup) :
    ((l.filter p).map k).Perm ((l.filter q).map k) ↔ ∀ a ∈ l, p a = true ↔ q a = true := by
  have hmem : ∀ {p : α → Bool} {a : α}, a ∈ l → (k a ∈ (l.filter p).map k ↔ p a = true) := by
    intro p a ha
    constructor
    · intro hk
      obtain ⟨b, hb, hkb⟩ := List.mem_map.1 hk
      obtain ⟨hb, hpb⟩ := List.mem_filter.1 hb
      rwa [← List.inj_on_of_nodup_map h hb ha hkb]
    · exact fun hpa ↦ List.mem_map_of_mem (List.mem_filter.2 ⟨ha, hpa⟩)
  constructor
  · intro hperm a ha
    rw [← hmem ha, ← hmem ha]
    exact hperm.mem_iff
  · intro hall
    rw [List.filter_congr fun a ha ↦ Bool.eq_iff_iff.2 (hall a ha)]

/-- **The same keys.** A part of the key is unique in the second list. -/
theorem map_perm_iff_of_part {part : κ → ι} (h : (l'.map (part ∘ k)).Nodup) :
    (l.map k).Perm (l'.map k) ↔ (∀ a ∈ l, k a ∈ l'.map k) ∧ (l.map (part ∘ k)).Nodup ∧
      ∀ b ∈ l', part (k b) ∈ l.map (part ∘ k) := by
  constructor
  · intro hperm
    have hparts : (l.map (part ∘ k)).Perm (l'.map (part ∘ k)) := by
      rw [← List.map_map, ← List.map_map]
      exact hperm.map part
    refine ⟨fun a ha ↦ hperm.subset (List.mem_map_of_mem ha), hparts.nodup_iff.2 h, fun b hb ↦ ?_⟩
    exact hparts.symm.subset (List.mem_map_of_mem hb)
  · intro ⟨hsub, honce, hall⟩
    have hnodup : ∀ {m : List α}, (m.map (part ∘ k)).Nodup → (m.map k).Nodup := by
      intro m hm
      refine List.Nodup.of_map part ?_
      rwa [List.map_map]
    refine (List.perm_ext_iff_of_nodup (hnodup honce) (hnodup h)).2 fun x ↦
      ⟨fun hx ↦ ?_, fun hx ↦ ?_⟩
    · obtain ⟨a, ha, rfl⟩ := List.mem_map.1 hx
      exact hsub a ha
    · obtain ⟨b, hb, rfl⟩ := List.mem_map.1 hx
      obtain ⟨a, ha, hpart⟩ := List.mem_map.1 (hall b hb)
      -- the element that has the part is, by its own key, no other
      obtain ⟨c, hc, hkc⟩ := List.mem_map.1 (hsub a ha)
      have hcb : c = b := List.inj_on_of_nodup_map h hc hb
        ((congrArg part hkc).trans hpart)
      rw [← hcb, hkc]
      exact List.mem_map_of_mem ha

end KeyedLists
