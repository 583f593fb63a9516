import Mathlib.Data.List.Basic

/-!
# Rows that are matched to targets

Rows with a key, some of which are matched to a target. `OneToOne key target rows` says that a
target is that of the rows of at most one key. Three lemmas say exactly when rows stay matched
one-to-one: when a row is added (`oneToOne_append_iff`), when the rows of one key get a target
(`oneToOne_assign_iff`), and when rows without a target get one, all at once (`oneToOne_fill_iff`).
-/

namespace Matching

variable {α κ τ : Type*}

/-- Rows with one target have one key. -/
def OneToOne (key : α → κ) (target : α → Option τ) (rows : List α) : Prop :=
  ∀ a ∈ rows, ∀ b ∈ rows, ∀ t ∈ target a, t ∈ target b → key a = key b

instance [DecidableEq κ] [DecidableEq τ] (key : α → κ) (target : α → Option τ) (rows : List α) :
    Decidable (OneToOne key target rows) :=
  inferInstanceAs (Decidable (∀ a ∈ rows, ∀ b ∈ rows, ∀ t ∈ target a, t ∈ target b → key a = key b))

variable {key : α → κ} {target target' : α → Option τ} {rows : List α}

theorem OneToOne.congr (h : OneToOne key target rows) (htarget : ∀ a ∈ rows, target' a = target a) :
    OneToOne key target' rows := by
  intro a ha b hb t hta htb
  rw [htarget a ha] at hta
  rw [htarget b hb] at htb
  exact h a ha b hb t hta htb

/-- Rows that are rewritten under their keys. -/
theorem oneToOne_map_iff {f : α → α} (hkey : ∀ a ∈ rows, key (f a) = key a) :
    OneToOne key target (rows.map f) ↔ OneToOne key (fun a ↦ target (f a)) rows := by
  constructor
  · intro h a ha b hb t hta htb
    rw [← hkey a ha, ← hkey b hb]
    exact h (f a) (List.mem_map_of_mem ha) (f b) (List.mem_map_of_mem hb) t hta htb
  · intro h _ hfa _ hfb t hta htb
    obtain ⟨a, ha, rfl⟩ := List.mem_map.1 hfa
    obtain ⟨b, hb, rfl⟩ := List.mem_map.1 hfb
    rw [hkey a ha, hkey b hb]
    exact h a ha b hb t hta htb

/-- **Adding a row**: its target, if it has one, is that of no row of another key. -/
theorem oneToOne_append_iff {a : α} (h : OneToOne key target rows) :
    OneToOne key target (rows ++ [a]) ↔
      ∀ t ∈ target a, ∀ b ∈ rows, target b = some t → key b = key a := by
  constructor
  · intro h' t hta b hb htb
    exact h' b (List.mem_append_left _ hb) a (by simp) t htb hta
  · intro hfree b hb c hc t htb htc
    rcases List.mem_append.1 hb with hb | hb
    · rcases List.mem_append.1 hc with hc | hc
      · exact h b hb c hc t htb htc
      · rw [List.mem_singleton.1 hc] at htc ⊢
        exact hfree t htc b hb htb
    · rw [List.mem_singleton.1 hb] at htb ⊢
      rcases List.mem_append.1 hc with hc | hc
      · exact (hfree t htb c hc htc).symm
      · rw [List.mem_singleton.1 hc]

/-- **Assigning**: the rows of a key may get a target if no row of another key has it. -/
theorem oneToOne_assign_iff {k : κ} {t : τ} (h : OneToOne key target rows)
    (hk : ∃ a ∈ rows, key a = k) (hassigned : ∀ a ∈ rows, key a = k → target' a = some t)
    (hothers : ∀ a ∈ rows, key a ≠ k → target' a = target a) :
    OneToOne key target' rows ↔ ∀ a ∈ rows, target a = some t → key a = k := by
  constructor
  · intro h' a ha hta
    by_contra hne
    obtain ⟨b, hb, hbk⟩ := hk
    have hta' : target' a = some t := (hothers a ha hne).trans hta
    exact hne ((h' a ha b hb t hta' (hassigned b hb hbk)).trans hbk)
  · intro hfree a ha b hb s hsa hsb
    by_cases hak : key a = k
    · by_cases hbk : key b = k
      · exact hak.trans hbk.symm
      · -- `b` keeps its target, which is the new one of `a`
        rw [hassigned a ha hak] at hsa
        rw [hothers b hb hbk, ← Option.some.inj hsa] at hsb
        exact absurd (hfree b hb hsb) hbk
    · by_cases hbk : key b = k
      · rw [hassigned b hb hbk] at hsb
        rw [hothers a ha hak, ← Option.some.inj hsb] at hsa
        exact absurd (hfree a ha hsa) hak
      · rw [hothers a ha hak] at hsa
        rw [hothers b hb hbk] at hsb
        exact h a ha b hb s hsa hsb

/-- **Filling**: rows without a target may get theirs if it is neither that of another key already
nor given to another key as well. -/
theorem oneToOne_fill_iff {new : α → Option τ} (h : OneToOne key target rows) :
    OneToOne key (fun a ↦ (target a).or (new a)) rows ↔
      ∀ a ∈ rows, target a = none → ∀ t ∈ new a, ∀ b ∈ rows,
        (target b = some t → key b = key a) ∧
        (target b = none → t ∈ new b → key b = key a) := by
  constructor
  · intro h' a ha hnone t hta b hb
    have hta' : t ∈ (target a).or (new a) := by
      rw [hnone, Option.none_or]
      exact hta
    constructor
    · intro htb
      refine h' b hb a ha t ?_ hta'
      show t ∈ (target b).or (new b)
      rw [htb]
      rfl
    · intro hnoneb htb
      refine h' b hb a ha t ?_ hta'
      show t ∈ (target b).or (new b)
      rw [hnoneb, Option.none_or]
      exact htb
  · intro hfree a ha b hb t hta htb
    dsimp only at hta htb
    cases hna : target a with
    | none =>
      rw [hna, Option.none_or] at hta
      cases hnb : target b with
      | none =>
        rw [hnb, Option.none_or] at htb
        exact ((hfree a ha hna t hta b hb).2 hnb htb).symm
      | some s =>
        rw [hnb, Option.some_or] at htb
        exact ((hfree a ha hna t hta b hb).1 (hnb.trans htb)).symm
    | some r =>
      rw [hna, Option.some_or] at hta
      cases hnb : target b with
      | none =>
        rw [hnb, Option.none_or] at htb
        exact (hfree b hb hnb t htb a ha).1 (hna.trans hta)
      | some s =>
        rw [hnb, Option.some_or] at htb
        exact h a ha b hb t (hna.trans hta) (hnb.trans htb)

end Matching
