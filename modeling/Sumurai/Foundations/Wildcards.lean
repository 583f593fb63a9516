import Mathlib.Data.List.Forall2
import Mathlib.Data.List.Flatten

/-!
# Patterns with wildcards

A pattern is a list of items: a literal, any one symbol, or any run of symbols. What a literal
stands for is a relation of literals to symbols, and what a wildcard may take is a predicate.
A match is a split of the text into a piece for each item (`matches_iff_exists_pieces`).

Text is often matched in an encoding, a symbol of the text being one or two symbols of the code, and
a literal of the pattern too. `matches_expand` says that a match in the code is a match of the text
where the two are in step (`InStep`): where no match in the code ends inside of what one symbol of
the text is encoded by.
-/

namespace Wildcard

variable {α β γ δ : Type*}

/-- An item of a pattern. -/
inductive Item (α : Type*) where
  | star
  | any
  | lit (a : α)
deriving DecidableEq, Repr

/-- The pattern matches the whole text. -/
inductive Matches (R : α → β → Prop) (dot : β → Prop) : List (Item α) → List β → Prop
  | nil : Matches R dot [] []
  | lit {a : α} {b : β} {p : List (Item α)} {t : List β} :
    R a b → Matches R dot p t → Matches R dot (.lit a :: p) (b :: t)
  | any {b : β} {p : List (Item α)} {t : List β} :
    dot b → Matches R dot p t → Matches R dot (.any :: p) (b :: t)
  | skip {p : List (Item α)} {t : List β} : Matches R dot p t → Matches R dot (.star :: p) t
  | more {b : β} {p : List (Item α)} {t : List β} :
    dot b → Matches R dot (.star :: p) t → Matches R dot (.star :: p) (b :: t)

section Matches

variable {R R' : α → β → Prop} {dot dot' : β → Prop} {a : α} {b : β} {p : List (Item α)}
  {t : List β}

@[simp]
theorem matches_nil : Matches R dot [] t ↔ t = [] := by
  constructor
  · rintro ⟨⟩
    rfl
  · rintro rfl
    exact Matches.nil

@[simp]
theorem matches_lit_nil : ¬Matches R dot (.lit a :: p) [] :=
  fun h ↦ nomatch h

@[simp]
theorem matches_lit_cons : Matches R dot (.lit a :: p) (b :: t) ↔ R a b ∧ Matches R dot p t := by
  constructor
  · rintro ⟨⟩
    exact ⟨‹_›, ‹_›⟩
  · rintro ⟨hrel, h⟩
    exact Matches.lit hrel h

@[simp]
theorem matches_any_nil : ¬Matches R dot (.any :: p) [] :=
  fun h ↦ nomatch h

@[simp]
theorem matches_any_cons : Matches R dot (.any :: p) (b :: t) ↔ dot b ∧ Matches R dot p t := by
  constructor
  · rintro ⟨⟩
    exact ⟨‹_›, ‹_›⟩
  · rintro ⟨hdot, h⟩
    exact Matches.any hdot h

@[simp]
theorem matches_star_nil : Matches R dot (.star :: p) [] ↔ Matches R dot p [] := by
  constructor
  · rintro ⟨⟩
    assumption
  · exact Matches.skip

@[simp]
theorem matches_star_cons : Matches R dot (.star :: p) (b :: t) ↔
    Matches R dot p (b :: t) ∨ dot b ∧ Matches R dot (.star :: p) t := by
  constructor
  · rintro (_ | _ | _ | h | ⟨hdot, h⟩)
    · exact Or.inl h
    · exact Or.inr ⟨hdot, h⟩
  · rintro (h | ⟨hdot, h⟩)
    · exact Matches.skip h
    · exact Matches.more hdot h

/-- A wildcard is in the pattern. -/
def HasWildcard (p : List (Item α)) : Prop :=
  .star ∈ p ∨ .any ∈ p

theorem HasWildcard.tail {i : Item α} (h : HasWildcard p) : HasWildcard (i :: p) :=
  h.imp (List.mem_cons_of_mem i) (List.mem_cons_of_mem i)

/-- A match depends only on what the literals of the pattern and the symbols of the text are to each
other, and on what the wildcards may take if there are any. -/
theorem Matches.imp (hR : ∀ a, .lit a ∈ p → ∀ b ∈ t, R a b → R' a b)
    (hdot : HasWildcard p → ∀ b ∈ t, dot b → dot' b) (h : Matches R dot p t) :
    Matches R' dot' p t := by
  induction h with
  | nil => exact Matches.nil
  | @lit a b p t hrel _ ih =>
    refine Matches.lit (hR a List.mem_cons_self b List.mem_cons_self hrel) (ih ?_ ?_)
    · exact fun a ha b hb ↦ hR a (List.mem_cons_of_mem _ ha) b (List.mem_cons_of_mem _ hb)
    · exact fun hp b hb ↦ hdot hp.tail b (List.mem_cons_of_mem _ hb)
  | @any b p t hb _ ih =>
    refine Matches.any (hdot (Or.inr List.mem_cons_self) b List.mem_cons_self hb) (ih ?_ ?_)
    · exact fun a ha b hb ↦ hR a (List.mem_cons_of_mem _ ha) b (List.mem_cons_of_mem _ hb)
    · exact fun hp b hb ↦ hdot hp.tail b (List.mem_cons_of_mem _ hb)
  | skip _ ih =>
    refine Matches.skip (ih ?_ fun hp b hb ↦ hdot hp.tail b hb)
    exact fun a ha b hb ↦ hR a (List.mem_cons_of_mem _ ha) b hb
  | @more b p t hb _ ih =>
    refine Matches.more (hdot (Or.inl List.mem_cons_self) b List.mem_cons_self hb) (ih ?_ ?_)
    · exact fun a ha b hb ↦ hR a ha b (List.mem_cons_of_mem _ hb)
    · exact fun hp b hb ↦ hdot hp b (List.mem_cons_of_mem _ hb)

theorem matches_congr (hR : ∀ a, .lit a ∈ p → ∀ b ∈ t, (R a b ↔ R' a b))
    (hdot : HasWildcard p → ∀ b ∈ t, (dot b ↔ dot' b)) :
    Matches R dot p t ↔ Matches R' dot' p t :=
  ⟨Matches.imp (fun a ha b hb ↦ (hR a ha b hb).1) fun hp b hb ↦ (hdot hp b hb).1,
    Matches.imp (fun a ha b hb ↦ (hR a ha b hb).2) fun hp b hb ↦ (hdot hp b hb).2⟩

/-- Without wildcards the literals are matched one by one. -/
theorem matches_map_lit {l : List α} :
    Matches R dot (l.map .lit) t ↔ List.Forall₂ R l t := by
  induction l generalizing t with
  | nil => rw [List.map_nil, matches_nil, List.forall₂_nil_left_iff]
  | cons a l ih =>
    cases t with
    | nil => simp
    | cons b t => rw [List.map_cons, matches_lit_cons, List.forall₂_cons, ih]

/-- One item for one symbol is matched by one symbol. -/
theorem matches_any_singleton : Matches R dot [.any] t ↔ ∃ b, t = [b] ∧ dot b := by
  cases t with
  | nil => exact iff_of_false matches_any_nil fun ⟨b, hb, _⟩ ↦ nomatch hb
  | cons c t =>
    rw [matches_any_cons, matches_nil]
    constructor
    · rintro ⟨hdot, rfl⟩
      exact ⟨c, rfl, hdot⟩
    · rintro ⟨b, hb, hdot⟩
      obtain ⟨rfl, rfl⟩ := List.cons.inj hb
      exact ⟨hdot, rfl⟩

/-- A star is matched by what it may take. -/
theorem matches_star_singleton : Matches R dot [.star] t ↔ ∀ b ∈ t, dot b := by
  induction t with
  | nil => simp
  | cons b t ih => simp [ih]

/-- A literal beginning is matched by as many symbols. -/
theorem Matches.append_lit {l : List α} {s : List β} (hl : List.Forall₂ R l s)
    (h : Matches R dot p t) : Matches R dot (l.map .lit ++ p) (s ++ t) := by
  induction hl with
  | nil => exact h
  | cons hrel _ ih => exact Matches.lit hrel ih

/-- A star takes any beginning that it may take. -/
theorem Matches.append_star {s : List β} (hs : ∀ b ∈ s, dot b)
    (h : Matches R dot (.star :: p) t) : Matches R dot (.star :: p) (s ++ t) := by
  induction s with
  | nil => exact h
  | cons b s ih =>
    exact Matches.more (hs b List.mem_cons_self) (ih fun b hb ↦ hs b (List.mem_cons_of_mem _ hb))

/-- An item takes a piece of a text. -/
def Item.Takes (R : α → β → Prop) (dot : β → Prop) : Item α → List β → Prop
  | .star, s => ∀ b ∈ s, dot b
  | .any, s => ∃ b, s = [b] ∧ dot b
  | .lit a, s => ∃ b, s = [b] ∧ R a b

/-- **Splits.** A pattern matches the texts that can be split into a piece for each of its items. -/
theorem matches_iff_exists_pieces : Matches R dot p t ↔
    ∃ pieces : List (List β), pieces.flatten = t ∧ List.Forall₂ (Item.Takes R dot) p pieces := by
  constructor
  · intro h
    induction h with
    | nil => exact ⟨[], rfl, List.Forall₂.nil⟩
    | @lit a b p t hrel _ ih =>
      obtain ⟨pieces, rfl, hpieces⟩ := ih
      exact ⟨[b] :: pieces, rfl, hpieces.cons ⟨b, rfl, hrel⟩⟩
    | @any b p t hdot _ ih =>
      obtain ⟨pieces, rfl, hpieces⟩ := ih
      exact ⟨[b] :: pieces, rfl, hpieces.cons ⟨b, rfl, hdot⟩⟩
    | skip _ ih =>
      obtain ⟨pieces, rfl, hpieces⟩ := ih
      exact ⟨[] :: pieces, rfl, hpieces.cons nofun⟩
    | @more b p t hdot _ ih =>
      obtain ⟨pieces, rfl, hpieces⟩ := ih
      -- the star's piece is the first, and grows by the symbol
      cases hpieces with
      | @cons _ piece _ pieces htakes hpieces =>
        exact ⟨(b :: piece) :: pieces, rfl,
          hpieces.cons (List.forall_mem_cons.2 ⟨hdot, htakes⟩)⟩
  · rintro ⟨pieces, rfl, hpieces⟩
    induction hpieces with
    | nil => exact Matches.nil
    | @cons i piece p pieces htakes _ ih =>
      rw [List.flatten_cons]
      cases i with
      | star => exact Matches.append_star htakes (Matches.skip ih)
      | any =>
        obtain ⟨b, rfl, hdot⟩ := htakes
        exact Matches.any hdot ih
      | lit a =>
        obtain ⟨b, rfl, hrel⟩ := htakes
        exact Matches.lit hrel ih

end Matches

/-! ### Codes -/

/-- An item in the code. -/
def Item.expand (e : α → List γ) : Item α → List (Item γ)
  | .star => [.star]
  | .any => [.any]
  | .lit a => (e a).map .lit

theorem Item.expand_lit (e : α → List γ) (a : α) : (Item.lit a).expand e = (e a).map .lit :=
  rfl

/-- A pattern in the code. -/
def expand (e : α → List γ) (p : List (Item α)) : List (Item γ) :=
  p.flatMap (Item.expand e)

section Codes

variable {e : α → List γ} {f : β → List δ}

@[simp]
theorem expand_nil : expand e [] = [] :=
  rfl

@[simp]
theorem expand_star (p : List (Item α)) : expand e (.star :: p) = .star :: expand e p :=
  rfl

@[simp]
theorem expand_any (p : List (Item α)) : expand e (.any :: p) = .any :: expand e p :=
  rfl

@[simp]
theorem expand_lit (a : α) (p : List (Item α)) :
    expand e (.lit a :: p) = (e a).map .lit ++ expand e p :=
  rfl

/-- The items of an encoded text are the encoded items of the text, where this is so of each
symbol. -/
theorem map_flatMap_eq_expand {g : α → Item α} {g' : γ → Item γ} {l : List α}
    (h : ∀ a ∈ l, (e a).map g' = (g a).expand e) :
    (l.flatMap e).map g' = expand e (l.map g) := by
  rw [List.map_flatMap, expand, List.flatMap_map]
  exact List.flatMap_congr h

/-- A code of one symbol or of two. -/
def IsShort (l : List γ) : Prop :=
  (∃ x, l = [x]) ∨ ∃ x y, l = [x, y]

variable (R : γ → δ → Prop) (e f)

/-- The code of no literal of the pattern begins with what `v` would match. -/
def StartsNone (p : List (Item α)) (v : δ) : Prop :=
  ∀ a, .lit a ∈ p → ∀ x ∈ (e a).head?, ¬R x v

/-- The codes of a pattern and of a text are in step.

`single`: any one symbol is one symbol of the code. `pattern_pair`: where a literal of two code
symbols begins on a symbol of one, the next symbol does not go on with it. `text_pair`: where a
literal of one code symbol takes the first half of a symbol of two, neither a literal nor a star
takes the other half. `star_pair`: where a star takes the first half, no literal takes the other. -/
structure InStep (p : List (Item α)) (t : List β) : Prop where
  pattern_short : ∀ a, .lit a ∈ p → IsShort (e a)
  text_short : ∀ b ∈ t, IsShort (f b)
  single : .any ∈ p → ∀ b ∈ t, ∃ u, f b = [u]
  pattern_pair : ∀ a x y, .lit a ∈ p → e a = [x, y] → ∀ b ∈ t, ∀ u, f b = [u] → R x u →
    ∀ c ∈ t, ∀ w ∈ (f c).head?, ¬R y w
  text_pair : ∀ a x, .lit a ∈ p → e a = [x] → ∀ b ∈ t, ∀ u v, f b = [u, v] → R x u →
    .star ∉ p ∧ StartsNone e R p v
  star_pair : .star ∈ p → ∀ b ∈ t, ∀ u v, f b = [u, v] → StartsNone e R p v

variable {R e f} {dot : δ → Prop} {i : Item α} {b : β} {p : List (Item α)} {t : List β}

theorem StartsNone.tail {v : δ} (h : StartsNone e R (i :: p) v) : StartsNone e R p v :=
  fun a ha ↦ h a (List.mem_cons_of_mem i ha)

/-- What is in step stays so when an item of the pattern is done. -/
theorem InStep.tail (h : InStep e f R (i :: p) t) : InStep e f R p t where
  pattern_short a ha := h.pattern_short a (List.mem_cons_of_mem i ha)
  text_short := h.text_short
  single hany := h.single (List.mem_cons_of_mem i hany)
  pattern_pair a x y ha := h.pattern_pair a x y (List.mem_cons_of_mem i ha)
  text_pair a x ha hcode b hb u v hcode' hrel :=
    let ⟨hstar, hnone⟩ := h.text_pair a x (List.mem_cons_of_mem i ha) hcode b hb u v hcode' hrel
    ⟨fun hmem ↦ hstar (List.mem_cons_of_mem i hmem), hnone.tail⟩
  star_pair hstar b hb u v hcode := (h.star_pair (List.mem_cons_of_mem i hstar) b hb u v hcode).tail

/-- What is in step stays so when a symbol of the text is done. -/
theorem InStep.text_tail (h : InStep e f R p (b :: t)) : InStep e f R p t where
  pattern_short := h.pattern_short
  text_short c hc := h.text_short c (List.mem_cons_of_mem b hc)
  single hany c hc := h.single hany c (List.mem_cons_of_mem b hc)
  pattern_pair a x y ha hcode c hc u hcode' hrel d hd :=
    h.pattern_pair a x y ha hcode c (List.mem_cons_of_mem b hc) u hcode' hrel d
      (List.mem_cons_of_mem b hd)
  text_pair a x ha hcode c hc := h.text_pair a x ha hcode c (List.mem_cons_of_mem b hc)
  star_pair hstar c hc := h.star_pair hstar c (List.mem_cons_of_mem b hc)

/-- From the second half of a symbol, which no literal takes, only a star goes on, and then nothing
but the star has been used. -/
theorem Matches.of_cons {v : δ} {s : List δ} (hany : .any ∉ p)
    (hshort : ∀ a, .lit a ∈ p → IsShort (e a)) (hnone : StartsNone e R p v)
    (h : Matches R dot (expand e p) (v :: s)) :
    .star ∈ p ∧ dot v ∧ Matches R dot (expand e p) s := by
  induction p with
  | nil => exact absurd (matches_nil.1 h) (List.cons_ne_nil v s)
  | cons i p ih =>
    cases i with
    | star =>
      rw [expand_star, matches_star_cons] at h
      refine ⟨List.mem_cons_self, ?_⟩
      rcases h with h | h
      · have hrest := ih (fun hmem ↦ hany (List.mem_cons_of_mem _ hmem))
          (fun a ha ↦ hshort a (List.mem_cons_of_mem _ ha)) hnone.tail h
        exact ⟨hrest.2.1, Matches.skip hrest.2.2⟩
      · exact h
    | any => exact absurd List.mem_cons_self hany
    | lit a =>
      have hstarts := hnone a List.mem_cons_self
      rw [expand_lit] at h
      obtain ⟨x, hcode⟩ | ⟨x, y, hcode⟩ := hshort a List.mem_cons_self
      · rw [hcode] at h hstarts
        exact absurd (matches_lit_cons.1 h).1 (hstarts x rfl)
      · rw [hcode] at h hstarts
        exact absurd (matches_lit_cons.1 h).1 (hstarts x rfl)

/-- What a pattern and a text match of, by their codes. -/
theorem Matches.expand (hsingle : .any ∈ p → ∀ b ∈ t, ∃ u, f b = [u])
    (h : Matches (fun a b ↦ List.Forall₂ R (e a) (f b)) (fun b ↦ ∀ u ∈ f b, dot u) p t) :
    Matches R dot (expand e p) (t.flatMap f) := by
  induction h with
  | nil => exact Matches.nil
  | @lit a b p t hrel _ ih =>
    rw [expand_lit, List.flatMap_cons]
    exact Matches.append_lit hrel (ih fun hany c hc ↦
      hsingle (List.mem_cons_of_mem _ hany) c (List.mem_cons_of_mem b hc))
  | @any b p t hdot _ ih =>
    obtain ⟨u, hcode⟩ := hsingle List.mem_cons_self b List.mem_cons_self
    rw [expand_any, List.flatMap_cons, hcode]
    refine Matches.any (hdot u (by rw [hcode]; exact List.mem_cons_self)) (ih fun hany c hc ↦ ?_)
    exact hsingle (List.mem_cons_of_mem _ hany) c (List.mem_cons_of_mem b hc)
  | skip _ ih => exact Matches.skip (ih fun hany ↦ hsingle (List.mem_cons_of_mem _ hany))
  | @more b p t hdot _ ih =>
    rw [expand_star, List.flatMap_cons]
    exact Matches.append_star hdot (ih fun hany c hc ↦
      hsingle hany c (List.mem_cons_of_mem b hc))

/-- In step, a pattern that is matched with a symbol of two code symbols has no item for one. -/
theorem InStep.any_notMem {u v : δ} (h : InStep e f R p t) (hb : b ∈ t) (hcode : f b = [u, v]) :
    .any ∉ p := by
  intro hany
  obtain ⟨w, hcode'⟩ := h.single hany b hb
  rw [hcode] at hcode'
  exact absurd hcode' (by simp)

/-- A literal of the pattern in the code, and what is left of the text. -/
theorem InStep.matches_lit {a : α} (hstep : InStep e f R (.lit a :: p) t)
    (h : Matches R dot (expand e (.lit a :: p)) (t.flatMap f)) :
    ∃ b s, t = b :: s ∧ List.Forall₂ R (e a) (f b) ∧ Matches R dot (expand e p) (s.flatMap f) := by
  have hshort := hstep.pattern_short a List.mem_cons_self
  rw [expand_lit] at h
  cases t with
  | nil => obtain ⟨x, hcode⟩ | ⟨x, y, hcode⟩ := hshort <;> rw [hcode] at h <;> nomatch h
  | cons b s =>
    refine ⟨b, s, rfl, ?_⟩
    rw [List.flatMap_cons] at h
    obtain ⟨x, hcode⟩ | ⟨x, y, hcode⟩ := hshort <;>
      obtain ⟨u, hcode'⟩ | ⟨u, v, hcode'⟩ := hstep.text_short b List.mem_cons_self
    · rw [hcode, hcode'] at h ⊢
      obtain ⟨hrel, hrest⟩ := matches_lit_cons.1 h
      exact ⟨List.Forall₂.cons hrel List.Forall₂.nil, hrest⟩
    · -- the literal took the first half, and nothing takes the other
      rw [hcode, hcode'] at h
      obtain ⟨hrel, hrest⟩ := matches_lit_cons.1 h
      obtain ⟨hstar, hnone⟩ :=
        hstep.text_pair a x List.mem_cons_self hcode b List.mem_cons_self u v hcode' hrel
      obtain ⟨hmem, -⟩ := Matches.of_cons
        (fun hmem ↦ hstep.any_notMem List.mem_cons_self hcode' (List.mem_cons_of_mem _ hmem))
        (fun a ha ↦ hstep.pattern_short a (List.mem_cons_of_mem _ ha)) hnone.tail hrest
      exact absurd (List.mem_cons_of_mem _ hmem) hstar
    · -- the literal goes on with the next symbol
      rw [hcode, hcode'] at h
      obtain ⟨hrel, hrest⟩ := matches_lit_cons.1 h
      cases s with
      | nil => exact absurd hrest matches_lit_nil
      | cons c s =>
        have hnext := hstep.pattern_pair a x y List.mem_cons_self hcode b List.mem_cons_self u
          hcode' hrel c (List.mem_cons_of_mem b List.mem_cons_self)
        rw [List.flatMap_cons] at hrest
        obtain ⟨w, hcode''⟩ | ⟨w, z, hcode''⟩ :=
          hstep.text_short c (List.mem_cons_of_mem b List.mem_cons_self) <;>
        · rw [hcode''] at hrest hnext
          exact absurd (matches_lit_cons.1 hrest).1 (hnext w rfl)
    · rw [hcode, hcode'] at h ⊢
      obtain ⟨hrel, hrest⟩ := matches_lit_cons.1 h
      obtain ⟨hrel', hrest⟩ := matches_lit_cons.1 hrest
      exact ⟨List.Forall₂.cons hrel (List.Forall₂.cons hrel' List.Forall₂.nil), hrest⟩

/-- A star in the code is done, or it takes all of the code of the next symbol. -/
theorem InStep.matches_star (hstep : InStep e f R (.star :: p) (b :: t))
    (h : Matches R dot (Wildcard.expand e (.star :: p)) ((b :: t).flatMap f)) :
    Matches R dot (Wildcard.expand e p) ((b :: t).flatMap f) ∨
      (∀ u ∈ f b, dot u) ∧ Matches R dot (Wildcard.expand e (.star :: p)) (t.flatMap f) := by
  rw [expand_star, List.flatMap_cons] at h
  rw [List.flatMap_cons]
  obtain ⟨u, hcode⟩ | ⟨u, v, hcode⟩ := hstep.text_short b List.mem_cons_self
  · rw [hcode] at h ⊢
    rcases matches_star_cons.1 h with h | ⟨hdot, h⟩
    · exact Or.inl h
    · exact Or.inr ⟨List.forall_mem_singleton.2 hdot, h⟩
  · have hnone := hstep.star_pair List.mem_cons_self b List.mem_cons_self u v hcode
    have hany := hstep.any_notMem List.mem_cons_self hcode
    rw [hcode] at h ⊢
    rcases matches_star_cons.1 h with h | ⟨hdot, h⟩
    · exact Or.inl h
    · obtain ⟨-, hdot', h⟩ := Matches.of_cons hany hstep.pattern_short hnone h
      refine Or.inr ⟨fun w hw ↦ ?_, h⟩
      rcases List.mem_pair.1 hw with rfl | rfl
      · exact hdot
      · exact hdot'

/-- **Matching in a code.** In step, the code of a pattern matches the code of a text exactly when
the pattern matches the text, a literal standing for what its code stands for. -/
theorem matches_expand (hstep : InStep e f R p t) :
    Matches R dot (Wildcard.expand e p) (t.flatMap f) ↔
      Matches (fun a b ↦ List.Forall₂ R (e a) (f b)) (fun b ↦ ∀ u ∈ f b, dot u) p t := by
  refine ⟨fun h ↦ ?_, Matches.expand hstep.single⟩
  induction p generalizing t with
  | nil =>
    cases t with
    | nil => exact Matches.nil
    | cons b t =>
      rw [expand_nil, matches_nil, List.flatMap_cons, List.append_eq_nil_iff] at h
      obtain ⟨u, hcode⟩ | ⟨u, v, hcode⟩ := hstep.text_short b List.mem_cons_self
      · exact absurd (hcode ▸ h.1) (List.cons_ne_nil _ _)
      · exact absurd (hcode ▸ h.1) (List.cons_ne_nil _ _)
  | cons i p ih =>
    cases i with
    | lit a =>
      obtain ⟨b, s, rfl, hrel, hrest⟩ := hstep.matches_lit h
      exact Matches.lit hrel (ih hstep.tail.text_tail hrest)
    | any =>
      cases t with
      | nil => exact absurd h matches_any_nil
      | cons b t =>
        obtain ⟨u, hcode⟩ := hstep.single List.mem_cons_self b List.mem_cons_self
        rw [expand_any, List.flatMap_cons, hcode, List.singleton_append, matches_any_cons] at h
        refine Matches.any (fun w hw ↦ ?_) (ih hstep.tail.text_tail h.2)
        rw [hcode, List.mem_singleton] at hw
        exact hw ▸ h.1
    | star =>
      induction t with
      | nil => exact Matches.skip (ih hstep.tail (matches_star_nil.1 h))
      | cons b t iht =>
        rcases hstep.matches_star h with h | ⟨hdot, h⟩
        · exact Matches.skip (ih hstep.tail h)
        · exact Matches.more hdot (iht hstep.text_tail h)

/-- A match of what the literals and the symbols are mapped to. -/
theorem matches_map (g : α → γ) (f : β → δ) :
    Matches R dot (Wildcard.expand (fun a ↦ [g a]) p) (t.map f) ↔
      Matches (fun a b ↦ R (g a) (f b)) (fun b ↦ dot (f b)) p t := by
  have hstep : InStep (fun a ↦ [g a]) (fun b ↦ [f b]) R p t :=
    { pattern_short := fun a _ ↦ Or.inl ⟨g a, rfl⟩
      text_short := fun b _ ↦ Or.inl ⟨f b, rfl⟩
      single := fun _ b _ ↦ ⟨f b, rfl⟩
      pattern_pair := nofun
      text_pair := nofun
      star_pair := nofun }
  rw [List.map_eq_flatMap, matches_expand hstep]
  refine matches_congr (fun a _ b _ ↦ ?_) fun _ b _ ↦ List.forall_mem_singleton
  rw [List.forall₂_cons, and_iff_left List.Forall₂.nil]

end Codes

end Wildcard
