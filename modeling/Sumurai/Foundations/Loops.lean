import Mathlib.Data.List.Basic
import Mathlib.Logic.Function.Iterate

/-!
# Loops that may abort

A loop over a list whose body may abort is `List.foldlM` in `Except ε`. When the body never aborts
on the elements of the list it is the ordinary fold (`foldlM_eq_ok`), and when it aborts on one of
them, always with the same error, so does the loop (`foldlM_eq_error`).

A loop that goes on while its guard holds may not end. `whileDo` runs it for as long as its fuel
lasts; it ends at the first state that the guard does not hold of (`whileDo_eq_some_iff`), which it
reaches when a measure goes down with every round (`exists_whileDo`). A loop over what is written of
a state is the loop over the states (`whileDo_map`).
-/

namespace Loops

variable {α σ ε : Type*}

/-- A loop whose body never aborts is a fold. -/
theorem foldlM_eq_ok {f : σ → α → Except ε σ} {g : σ → α → σ} {l : List α}
    (h : ∀ a ∈ l, ∀ s, f s a = .ok (g s a)) (s : σ) : l.foldlM f s = .ok (l.foldl g s) := by
  induction l generalizing s with
  | nil => rfl
  | cons a l ih =>
    rw [List.foldlM_cons, h a List.mem_cons_self s]
    exact ih (fun b hb ↦ h b (List.mem_cons_of_mem _ hb)) (g s a)

/-- A loop aborts with `e` when its body does on some element, and never with another error. -/
theorem foldlM_eq_error {f : σ → α → Except ε σ} {e : ε} {l : List α}
    (honly : ∀ a ∈ l, ∀ s e', f s a = .error e' → e' = e)
    (h : ∃ a ∈ l, ∀ s, f s a = .error e) (s : σ) : l.foldlM f s = .error e := by
  induction l generalizing s with
  | nil => simp at h
  | cons a l ih =>
    rw [List.foldlM_cons]
    rcases ha : f s a with e' | s'
    · rw [honly a List.mem_cons_self s e' ha]
      rfl
    · obtain ⟨b, hb, hbad⟩ := h
      have hbl : b ∈ l := by
        rcases List.mem_cons.1 hb with rfl | hbl
        · simp [hbad s] at ha
        · exact hbl
      exact ih (fun c hc ↦ honly c (List.mem_cons_of_mem _ hc)) ⟨b, hbl, hbad⟩ s'

/-! ### Loops that collect results -/

section Collect

variable {β : Type*}

/-- A list of results, one for each element. -/
theorem forall₂_of_mapM {f : α → Option β} {l : List α} {results : List β}
    (h : l.mapM f = some results) : List.Forall₂ (fun a b ↦ f a = some b) l results := by
  induction l generalizing results with
  | nil =>
    obtain rfl := Option.some.inj h
    exact .nil
  | cons a l ih =>
    rw [List.mapM_cons] at h
    obtain ⟨b, hb, h⟩ := Option.bind_eq_some_iff.1 h
    obtain ⟨rest, hrest, h⟩ := Option.bind_eq_some_iff.1 h
    obtain rfl := Option.some.inj h
    exact .cons hb (ih hrest)

/-- A result is that of an element. -/
theorem exists_of_mem_mapM {f : α → Option β} {l : List α} {results : List β}
    (h : l.mapM f = some results) {b : β} (hb : b ∈ results) : ∃ a ∈ l, f a = some b := by
  replace h := forall₂_of_mapM h
  induction h with
  | nil => exact absurd hb List.not_mem_nil
  | @cons a c l rest ha hrest ih =>
    obtain rfl | hb := List.mem_cons.1 hb
    · exact ⟨a, List.mem_cons_self, ha⟩
    · obtain ⟨a', ha', hfa'⟩ := ih hb
      exact ⟨a', List.mem_cons_of_mem a ha', hfa'⟩

/-- With enough fuel for every element there is enough for the list. -/
theorem exists_mapM {f : ℕ → α → Option β} {l : List α}
    (h : ∀ a ∈ l, ∃ fuel b, ∀ fuel' ≥ fuel, f fuel' a = some b) :
    ∃ fuel results, ∀ fuel' ≥ fuel, l.mapM (f fuel') = some results := by
  induction l with
  | nil => exact ⟨0, [], fun _ _ ↦ rfl⟩
  | cons a l ih =>
    obtain ⟨fuel₁, b, hb⟩ := h a List.mem_cons_self
    obtain ⟨fuel₂, results, hresults⟩ := ih fun a ha ↦ h a (List.mem_cons_of_mem _ ha)
    refine ⟨max fuel₁ fuel₂, b :: results, fun fuel' hfuel ↦ ?_⟩
    rw [List.mapM_cons, hb fuel' (Nat.le_trans (Nat.le_max_left _ _) hfuel),
      hresults fuel' (Nat.le_trans (Nat.le_max_right _ _) hfuel)]
    rfl

end Collect

/-! ### Loops with a guard -/

section While

/-- `while (guard) body`, for as long as the fuel lasts. -/
def whileDo (guard : σ → Prop) [DecidablePred guard] (body : σ → σ) : ℕ → σ → Option σ
  | 0, _ => none
  | fuel + 1, s => if guard s then whileDo guard body fuel (body s) else some s

variable {guard : σ → Prop} [DecidablePred guard] {body : σ → σ}

/-- **A loop ends at the first state that its guard does not hold of.** -/
theorem whileDo_eq_some_iff {fuel : ℕ} {s t : σ} :
    whileDo guard body fuel s = some t ↔
      ∃ k < fuel, body^[k] s = t ∧ ¬guard t ∧ ∀ j < k, guard (body^[j] s) := by
  induction fuel generalizing s with
  | zero => simp [whileDo]
  | succ fuel ih =>
    rw [whileDo]
    split
    · rename_i hguard
      rw [ih]
      constructor
      · rintro ⟨k, hk, ht, hend, hbefore⟩
        refine ⟨k + 1, Nat.succ_lt_succ hk, ht, hend, fun j hj ↦ ?_⟩
        cases j with
        | zero => exact hguard
        | succ j => exact hbefore j (Nat.lt_of_succ_lt_succ hj)
      · rintro ⟨k, hk, ht, hend, hbefore⟩
        cases k with
        | zero => exact absurd (ht ▸ hguard : guard t) hend
        | succ k =>
          exact ⟨k, Nat.lt_of_succ_lt_succ hk, ht, hend,
            fun j hj ↦ hbefore (j + 1) (Nat.succ_lt_succ hj)⟩
    · rename_i hguard
      constructor
      · rintro ⟨rfl⟩
        exact ⟨0, Nat.succ_pos fuel, rfl, hguard, fun j hj ↦ absurd hj j.not_lt_zero⟩
      · rintro ⟨k, -, ht, -, hbefore⟩
        cases k with
        | zero => exact congrArg some ht
        | succ k => exact absurd (hbefore 0 (Nat.succ_pos k)) hguard

/-- More fuel does not change what a loop ends with. -/
theorem whileDo_mono {fuel fuel' : ℕ} (hle : fuel ≤ fuel') {s t : σ}
    (h : whileDo guard body fuel s = some t) : whileDo guard body fuel' s = some t := by
  obtain ⟨k, hk, hend⟩ := whileDo_eq_some_iff.1 h
  exact whileDo_eq_some_iff.2 ⟨k, Nat.lt_of_lt_of_le hk hle, hend⟩

/-- A loop ends when a measure of the state goes down with every round. -/
theorem exists_whileDo (measure : σ → ℕ) (hbody : ∀ s, guard s → measure (body s) < measure s)
    {fuel : ℕ} {s : σ} (hfuel : measure s < fuel) : ∃ t, whileDo guard body fuel s = some t := by
  induction fuel generalizing s with
  | zero => exact absurd hfuel (measure s).not_lt_zero
  | succ fuel ih =>
    rw [whileDo]
    split
    · rename_i hguard
      exact ih (Nat.lt_of_lt_of_le (hbody s hguard) (Nat.le_of_lt_succ hfuel))
    · exact ⟨s, rfl⟩

/-- **Loops that simulate each other.** `I` is the invariant of the loop over the states. -/
theorem whileDo_map {τ : Type*} {guard' : τ → Prop} [DecidablePred guard'] {body' : τ → τ}
    {write : σ → τ} {I : σ → Prop} (hguard : ∀ s, I s → (guard' (write s) ↔ guard s))
    (hbody : ∀ s, I s → guard s → I (body s) ∧ body' (write s) = write (body s)) (fuel : ℕ) {s : σ}
    (hs : I s) :
    whileDo guard' body' fuel (write s) = (whileDo guard body fuel s).map write := by
  induction fuel generalizing s with
  | zero => rfl
  | succ fuel ih =>
    rw [whileDo, whileDo, if_congr (hguard s hs) rfl rfl]
    split
    · rename_i hcont
      obtain ⟨hnext, heq⟩ := hbody s hs hcont
      rw [heq, ih hnext]
    · rfl

end While

end Loops
