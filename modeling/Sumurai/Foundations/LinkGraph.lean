import Mathlib.Data.Finset.Card
import Mathlib.Logic.Function.Basic
import Mathlib.Logic.Relation

/-!
# Graphs in which every node has at most one link

A *link graph* on `α` is a function `link : α → Option α`; following links from a node gives one
chain, which ends or runs in a circle. Two shapes matter:

* `Acyclic` — no chain returns to its start. On finitely many nodes every chain then ends, in a
  node without a link (`Acyclic.exists_end`).
* `OneLevel` — a link leads to a node without a link, so that every chain has length at most one;
* `OneToOne` — no two links lead to the same node.

The graph is changed by redirecting one node. `acyclic_update_iff` is the exact condition under
which an acyclic graph stays acyclic: the chain of the new target does not lead to the node that is
redirected. When several nodes are linked at once, it is enough that each new link leads to the end
of a chain (`acyclic_overlay`). For one level the condition is stronger (`oneLevel_overlay_iff`):
nothing links to a node that gets a link.
-/

open Relation

namespace LinkGraph

variable {α : Type*} {link : α → Option α}

/-- The links of the graph, as a relation. -/
def Links (link : α → Option α) (x y : α) : Prop :=
  link x = some y

/-- No chain of links returns to its start. -/
def Acyclic (link : α → Option α) : Prop :=
  ∀ x, ¬ TransGen (Links link) x x

/-- Every link leads to a node without a link. -/
def OneLevel (link : α → Option α) : Prop :=
  ∀ x y, link x = some y → link y = none

/-- No two nodes link to the same node. -/
def OneToOne (link : α → Option α) : Prop :=
  ∀ x x' y, link x = some y → link x' = some y → x = x'

/-- A graph without links is acyclic. -/
theorem acyclic_of_forall_eq_none (h : ∀ x, link x = none) : Acyclic link := by
  intro x hx
  obtain ⟨y, hxy, -⟩ := TransGen.head'_iff.1 hx
  rw [Links, h x] at hxy
  exact absurd hxy (by simp)

/-- The chain of a node without a link leads nowhere else. -/
theorem not_reflTransGen_of_eq_none {x c : α} (h : link c = none) (hne : c ≠ x) :
    ¬ ReflTransGen (Links link) c x := by
  intro hcx
  rcases hcx.cases_head with rfl | ⟨y, hcy, -⟩
  · exact hne rfl
  · rw [Links, h] at hcy
    exact absurd hcy (by simp)

/-! ### Redirecting one node -/

section Update

variable [DecidableEq α] {x c : α}

/-- A chain after redirecting `x` to `c` is an old chain, or passes through `x` and continues from
`c`. -/
theorem transGen_update {a b : α} (h : TransGen (Links (Function.update link x (some c))) a b) :
    TransGen (Links link) a b ∨
      (ReflTransGen (Links link) a x ∧ ReflTransGen (Links link) c b) := by
  have hedge : ∀ {y z : α}, Links (Function.update link x (some c)) y z →
      (y = x ∧ z = c) ∨ Links link y z := by
    intro y z hyz
    rw [Links, Function.update_apply] at hyz
    split at hyz
    · exact Or.inl ⟨‹_›, by simpa using hyz.symm⟩
    · exact Or.inr hyz
  induction h with
  | single hab =>
    rcases hedge hab with ⟨rfl, rfl⟩ | hold
    · exact Or.inr ⟨ReflTransGen.refl, ReflTransGen.refl⟩
    · exact Or.inl (TransGen.single hold)
  | tail _ hbd ih =>
    rcases hedge hbd with ⟨rfl, rfl⟩ | hold
    · rcases ih with hax | ⟨hax, -⟩
      · exact Or.inr ⟨hax.to_reflTransGen, ReflTransGen.refl⟩
      · exact Or.inr ⟨hax, ReflTransGen.refl⟩
    · rcases ih with hab | ⟨hax, hcb⟩
      · exact Or.inl (hab.tail hold)
      · exact Or.inr ⟨hax, hcb.tail hold⟩

/-- An old chain that leads to `x` is still there after redirecting `x`. -/
theorem reflTransGen_update {a : α} (h : ReflTransGen (Links link) a x) :
    ReflTransGen (Links (Function.update link x (some c))) a x := by
  induction h using ReflTransGen.head_induction_on with
  | refl => exact ReflTransGen.refl
  | @head b d hbd _ ih =>
    rcases eq_or_ne b x with rfl | hbx
    · exact ReflTransGen.refl
    · refine ReflTransGen.head ?_ ih
      rw [Links, Function.update_of_ne hbx]
      exact hbd

/-- **Redirecting a node keeps the graph acyclic exactly when the chain of the new target does not
lead to the node.** -/
theorem acyclic_update_iff (h : Acyclic link) :
    Acyclic (Function.update link x (some c)) ↔ ¬ ReflTransGen (Links link) c x := by
  constructor
  · intro hacyclic hcx
    have hxc : Links (Function.update link x (some c)) x c := by
      rw [Links, Function.update_self]
    exact hacyclic x (TransGen.head' hxc (reflTransGen_update hcx))
  · intro hcx y hy
    rcases transGen_update hy with hold | ⟨hyx, hcy⟩
    · exact h y hold
    · exact hcx (hcy.trans hyx)

end Update

/-! ### Linking several nodes at once -/

/-- The links of `link`, overridden by those of `new`. -/
def overlay (new link : α → Option α) (x : α) : Option α :=
  (new x).or (link x)

/-- **Linking nodes to free targets keeps one level exactly when no node that gets a link is
already linked to.** A target is free when it has no link and gets none. -/
theorem oneLevel_overlay_iff {new : α → Option α} (h : OneLevel link)
    (hfresh : ∀ x, new x ≠ none → link x = none)
    (htarget : ∀ x y, new x = some y → link y = none ∧ new y = none) :
    OneLevel (overlay new link) ↔ ∀ x, new x ≠ none → ∀ y, link y ≠ some x := by
  constructor
  · rintro hone x hx y hyx
    have hy : overlay new link y = some x := by
      rcases hny : new y with - | z
      · rw [overlay, hny, Option.none_or, hyx]
      · exact absurd (hfresh y (by simp [hny])) (by simp [hyx])
    have hnone := hone y x hy
    rw [overlay] at hnone
    rcases hnx : new x with - | z
    · exact hx hnx
    · rw [hnx, Option.some_or] at hnone
      exact absurd hnone (by simp)
  · intro hfree x y hxy
    rw [overlay] at hxy ⊢
    rcases hnx : new x with - | z
    · rw [hnx, Option.none_or] at hxy
      have hny : new y = none := by
        by_contra hne
        exact hfree y hne x hxy
      rw [hny, Option.none_or]
      exact h x y hxy
    · rw [hnx, Option.some_or] at hxy
      obtain rfl : z = y := by simpa using hxy
      obtain ⟨hlink, hnew⟩ := htarget x z hnx
      rw [hlink, hnew]
      rfl

/-- A chain over new links that end chains is an old one, as long as it does not end with a new
link. -/
theorem transGen_overlay {new : α → Option α}
    (htarget : ∀ x y, new x = some y → overlay new link y = none) {a b : α}
    (h : TransGen (Links (overlay new link)) a b) (hb : overlay new link b ≠ none) :
    TransGen (Links link) a b := by
  have hold : ∀ {x y}, Links (overlay new link) x y → overlay new link y ≠ none →
      Links link x y := by
    intro x y hxy hy
    rw [Links, overlay] at hxy
    rcases hnew : new x with - | z
    · rwa [hnew, Option.none_or] at hxy
    · rw [hnew, Option.some_or] at hxy
      obtain rfl := Option.some.inj hxy
      exact absurd (htarget x z hnew) hy
  induction h with
  | single hab => exact TransGen.single (hold hab hb)
  | tail _ hbd ih =>
    have hnext : Links _ _ _ := hbd
    rw [Links] at hnext
    exact (ih (by rw [hnext]; exact Option.some_ne_none _)).tail (hold hbd hb)

/-- **Linking nodes to the ends of chains keeps the graph acyclic.** -/
theorem acyclic_overlay {new : α → Option α} (h : Acyclic link)
    (htarget : ∀ x y, new x = some y → overlay new link y = none) :
    Acyclic (overlay new link) := by
  intro x hx
  obtain ⟨y, hxy, -⟩ := TransGen.head'_iff.1 hx
  rw [Links] at hxy
  exact h x (transGen_overlay htarget hx (by rw [hxy]; exact Option.some_ne_none _))

/-- **Linking unlinked nodes keeps links one-to-one exactly when the new links are, and lead to no
node that is linked to already.** -/
theorem oneToOne_overlay_iff {new : α → Option α} (h : OneToOne link)
    (hfresh : ∀ x, new x ≠ none → link x = none) :
    OneToOne (overlay new link) ↔
      OneToOne new ∧ ∀ x y, new x = some y → ∀ z, link z ≠ some y := by
  have hnew : ∀ {x y}, new x = some y → overlay new link x = some y := by
    intro x y hxy
    rw [overlay, hxy, Option.some_or]
  have hold : ∀ {x y}, link x = some y → overlay new link x = some y := by
    intro x y hxy
    rcases hx : new x with - | z
    · rw [overlay, hx, Option.none_or, hxy]
    · exact absurd (hfresh x (by simp [hx])) (by simp [hxy])
  constructor
  · intro hone
    refine ⟨fun x x' y hxy hxy' ↦ hone x x' y (hnew hxy) (hnew hxy'), fun x y hxy z hzy ↦ ?_⟩
    obtain rfl := hone x z y (hnew hxy) (hold hzy)
    exact absurd (hfresh x (by simp [hxy])) (by simp [hzy])
  · rintro ⟨hinj, hfree⟩ x x' y hxy hxy'
    rw [overlay, Option.or_eq_some_iff] at hxy hxy'
    rcases hxy with hx | ⟨-, hx⟩ <;> rcases hxy' with hx' | ⟨-, hx'⟩
    · exact hinj x x' y hx hx'
    · exact absurd hx' (hfree x y hx x')
    · exact absurd hx (hfree x' y hx' x)
    · exact h x x' y hx hx'

/-- Overriding one link is redirecting its node. -/
theorem overlay_single [DecidableEq α] {new : α → Option α} {x c : α}
    (h : ∀ y, new y = if y = x then some c else none) :
    overlay new link = Function.update link x (some c) := by
  funext y
  rw [overlay, h, Function.update_apply]
  split <;> rfl

/-! ### Removing links -/

/-- A graph with fewer links has fewer chains. -/
theorem Acyclic.anti {link' : α → Option α} (h : Acyclic link)
    (hsub : ∀ x y, link' x = some y → link x = some y) : Acyclic link' :=
  fun x hx ↦ h x (TransGen.mono hsub x x hx)

theorem OneLevel.anti {link' : α → Option α} (h : OneLevel link)
    (hsub : ∀ x y, link' x = some y → link x = some y) : OneLevel link' := by
  intro x y hxy
  rcases hy : link' y with - | z
  · rfl
  · have hnone := h x y (hsub x y hxy)
    rw [hsub y z hy] at hnone
    exact absurd hnone (by simp)

/-! ### The ends of chains -/

/-- **On finitely many nodes every chain of an acyclic graph ends**, in a node without a link. -/
theorem Acyclic.exists_end (h : Acyclic link) (s : Finset α)
    (hs : ∀ x y, link x = some y → y ∈ s) (x : α) :
    ∃ r, ReflTransGen (Links link) x r ∧ link r = none := by
  classical
  -- the nodes ahead of `x` get fewer with every link followed
  induction hn : (s.filter (TransGen (Links link) x)).card using Nat.strong_induction_on
    generalizing x with
  | _ n ih =>
    rcases hx : link x with - | y
    · exact ⟨x, ReflTransGen.refl, hx⟩
    · have hxy : Links link x y := hx
      have hahead : s.filter (TransGen (Links link) y) ⊂ s.filter (TransGen (Links link) x) := by
        rw [Finset.ssubset_iff_of_subset]
        · exact ⟨y, Finset.mem_filter.2 ⟨hs x y hx, TransGen.single hxy⟩,
            fun hy ↦ h y (Finset.mem_filter.1 hy).2⟩
        · intro z hz
          obtain ⟨hzs, hyz⟩ := Finset.mem_filter.1 hz
          exact Finset.mem_filter.2 ⟨hzs, TransGen.head hxy hyz⟩
      obtain ⟨r, hyr, hr⟩ := ih _ (hn ▸ Finset.card_lt_card hahead) y rfl
      exact ⟨r, hyr.head hxy, hr⟩

end LinkGraph
