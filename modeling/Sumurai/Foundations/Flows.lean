import Mathlib.Logic.Relation
import Mathlib.Order.Basic
import Sumurai.Foundations.PartialSums

/-!
# Flows between nodes

A network as the list of its flows, each with a value. What flows into a node and out of it are sums
over the list, so they can be read off the parts that a network is made of. A node is *balanced* if
the two are equal.

A network whose flows all lead to a higher rank has no cycles (`not_cyclic_of_rank`).
-/

open PartialSums Relation

/-- A value that flows from one node to another. -/
structure NodeFlow (κ ν : Type*) where
  source : κ
  target : κ
  value : ν

namespace NodeFlow

variable {κ ν : Type*}

/-! ### Sums -/

section Sums

variable [DecidableEq κ] [AddCommMonoid ν] (k : κ)

/-- What flows into a node. -/
def into (flows : List (NodeFlow κ ν)) : ν :=
  sumOf value (fun f ↦ f.target = k) flows

/-- What flows out of a node. -/
def outOf (flows : List (NodeFlow κ ν)) : ν :=
  sumOf value (fun f ↦ f.source = k) flows

@[simp]
theorem into_nil : into k ([] : List (NodeFlow κ ν)) = 0 :=
  rfl

@[simp]
theorem outOf_nil : outOf k ([] : List (NodeFlow κ ν)) = 0 :=
  rfl

@[simp]
theorem into_cons (f : NodeFlow κ ν) (flows : List (NodeFlow κ ν)) :
    into k (f :: flows) = (if f.target = k then f.value else 0) + into k flows :=
  sumOf_cons _ _ _ _

@[simp]
theorem outOf_cons (f : NodeFlow κ ν) (flows : List (NodeFlow κ ν)) :
    outOf k (f :: flows) = (if f.source = k then f.value else 0) + outOf k flows :=
  sumOf_cons _ _ _ _

@[simp]
theorem into_append (flows flows' : List (NodeFlow κ ν)) :
    into k (flows ++ flows') = into k flows + into k flows' :=
  sumOf_append _ _ _ _

@[simp]
theorem outOf_append (flows flows' : List (NodeFlow κ ν)) :
    outOf k (flows ++ flows') = outOf k flows + outOf k flows' :=
  sumOf_append _ _ _ _

theorem into_flatMap {α : Type*} (f : α → List (NodeFlow κ ν)) (l : List α) :
    into k (l.flatMap f) = (l.map fun a ↦ into k (f a)).sum :=
  sumOf_flatMap _ _ _ _

theorem outOf_flatMap {α : Type*} (f : α → List (NodeFlow κ ν)) (l : List α) :
    outOf k (l.flatMap f) = (l.map fun a ↦ outOf k (f a)).sum :=
  sumOf_flatMap _ _ _ _

variable {k}

theorem into_eq_zero {flows : List (NodeFlow κ ν)} (h : ∀ f ∈ flows, f.target ≠ k) :
    into k flows = 0 :=
  sumOf_eq_zero h

theorem outOf_eq_zero {flows : List (NodeFlow κ ν)} (h : ∀ f ∈ flows, f.source ≠ k) :
    outOf k flows = 0 :=
  sumOf_eq_zero h

/-- Flows that all lead to a node. -/
theorem into_eq_sum {flows : List (NodeFlow κ ν)} (h : ∀ f ∈ flows, f.target = k) :
    into k flows = (flows.map value).sum :=
  sumOf_true h

/-- Flows that all come from a node. -/
theorem outOf_eq_sum {flows : List (NodeFlow κ ν)} (h : ∀ f ∈ flows, f.source = k) :
    outOf k flows = (flows.map value).sum :=
  sumOf_true h

end Sums

/-! ### Cycles -/

/-- Some flow leads from one node to another. -/
def Leads (flows : List (NodeFlow κ ν)) (a b : κ) : Prop :=
  ∃ f ∈ flows, f.source = a ∧ f.target = b

/-- **Flows to higher ranks make no cycle.** -/
theorem not_cyclic_of_rank {flows : List (NodeFlow κ ν)} {ρ : Type*} [Preorder ρ] (rank : κ → ρ)
    (h : ∀ f ∈ flows, rank f.source < rank f.target) (a : κ) : ¬TransGen (Leads flows) a a := by
  have hrank {a b : κ} (hab : TransGen (Leads flows) a b) : rank a < rank b := by
    induction hab with
    | single hab =>
      obtain ⟨f, hf, rfl, rfl⟩ := hab
      exact h f hf
    | tail _ hbc ih =>
      obtain ⟨f, hf, rfl, rfl⟩ := hbc
      exact ih.trans (h f hf)
  exact fun hcycle ↦ lt_irrefl _ (hrank hcycle)

end NodeFlow
