import Sumurai.Foundations.Runs

/-!
# Requests of several owners

A system serves requests, each of which has an owner and is replied to. Every owner has a view of
the state. The owners are isolated if a request leaves the views of all other owners as they are,
and the view of its own owner decides what becomes of that view and what is replied
(`Isolating`).

`Isolating.alone` is what isolation means for runs: an owner sees the same and is replied the same
as if the requests of all other owners had not been made. What the steps rely on may be spent by the
run, such as a supply of names; it is a condition on a state and the requests that are still to
come.
-/

namespace LabelledSystem

section Unwinding

variable {σ ℓ ι V ω : Type*} [DecidableEq ι] (step : σ → ℓ → σ) (owner : ℓ → ι) (view : ι → σ → V)
  (reply : σ → ℓ → ω)

/-- The reply to a request of one owner. -/
def replyTo (i : ι) (s : σ) (l : ℓ) : Option ω :=
  if owner l = i then some (reply s l) else none

/-- The requests of one owner. -/
def requestsOf (i : ι) (ls : List ℓ) : List ℓ :=
  ls.filter fun l ↦ owner l = i

/-- Under a condition on states and coming requests, the owners are isolated. -/
structure Isolating (I : σ → List ℓ → Prop) : Prop where
  /-- The condition holds for fewer requests as well. -/
  sublist : ∀ {s ls ls'}, List.Sublist ls' ls → I s ls → I s ls'
  /-- A step leaves the condition for the requests after it. -/
  after : ∀ {s l ls}, I s (l :: ls) → I (step s l) ls
  /-- A request is not seen by the other owners. -/
  elsewhere : ∀ {s l ls i}, I s (l :: ls) → owner l ≠ i → view i (step s l) = view i s
  /-- The view of its owner decides what a request does to it, and what is replied. -/
  alike : ∀ {s s' l ls ls'}, I s (l :: ls) → I s' (l :: ls') →
    view (owner l) s = view (owner l) s' →
      view (owner l) (step s l) = view (owner l) (step s' l) ∧ reply s l = reply s' l

variable {step owner view reply} {I : σ → List ℓ → Prop}

/-- **An owner is as if alone.** -/
theorem Isolating.alone (h : Isolating step owner view reply I) {i : ι} {ls : List ℓ} {s s' : σ}
    (hs : I s ls) (hs' : I s' (requestsOf owner i ls)) (hview : view i s = view i s') :
    view i (ls.foldl step s) = view i ((requestsOf owner i ls).foldl step s') ∧
      outputs step (replyTo owner reply i) s ls =
        outputs step (replyTo owner reply i) s' (requestsOf owner i ls) := by
  induction ls generalizing s s' with
  | nil => exact ⟨hview, rfl⟩
  | cons l ls ih =>
    by_cases hl : owner l = i
    · have hcons : requestsOf owner i (l :: ls) = l :: requestsOf owner i ls :=
        List.filter_cons_of_pos (by simpa using hl)
      rw [hcons] at hs' ⊢
      obtain ⟨hnext, hreply⟩ := h.alike hs hs' (hl.symm ▸ hview)
      obtain ⟨hend, houtputs⟩ := ih (h.after hs) (h.after hs') (hl ▸ hnext)
      refine ⟨hend, ?_⟩
      rw [outputs, outputs, houtputs, replyTo, replyTo, if_pos hl, if_pos hl, hreply]
    · have hcons : requestsOf owner i (l :: ls) = requestsOf owner i ls :=
        List.filter_cons_of_neg (by simpa using hl)
      rw [hcons] at hs' ⊢
      obtain ⟨hend, houtputs⟩ := ih (h.after hs) hs' ((h.elsewhere hs hl).trans hview)
      refine ⟨hend, ?_⟩
      rw [outputs, houtputs, replyTo, if_neg hl]
      rfl

end Unwinding

end LabelledSystem
