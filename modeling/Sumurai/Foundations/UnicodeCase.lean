import Mathlib.Data.List.Forall2
import Sumurai.Foundations.CaseMapping

/-!
# Lower case of Unicode text

The lower case of a text is that of its characters, but for the capital sigma, which depends on its
place: at the end of a word it is a final sigma. A `UnicodeCase` is a case mapping with what this
takes and with what Unicode says of the sigmas; but for the dotted capital I every character has one
character for its lower case.

A text is worked on as its characters in their places (`placed`), each with one lower case
(`toLowercaseFrom_eq`). Texts that are alike in the lower case of their characters are alike in
lower case when the capital sigma is the only sigma in both (`forall₂_lowerAt_placed_iff`).
-/

/-- A case mapping with the properties of characters that the final sigma depends on. -/
structure UnicodeCase extends CaseMapping where
  cased : Char → Bool
  caseIgnorable : Char → Bool
  lower_single : ∀ c : Char, c ≠ '\u0130' → ∃ d, lower c = [d]
  lower_capitalSigma : lower 'Σ' = ['σ']
  lower_finalSigma : lower 'ς' = ['ς']
  eq_of_lower_eq_sigma : ∀ c, lower c = ['σ'] → c = 'Σ' ∨ c = 'σ'
  eq_of_lower_eq_finalSigma : ∀ c, lower c = ['ς'] → c = 'ς'
  lower_sigma : lower 'σ' = ['σ']
  upper_sigmas : ∀ c ∈ ['Σ', 'σ', 'ς'], upper c = ['Σ']
  cased_sigma : cased 'Σ' = true
  caseIgnorable_sigma : caseIgnorable 'Σ' = false
  cased_wildcard : ∀ c ∈ ['*', '?'], cased c = false
  caseIgnorable_wildcard : ∀ c ∈ ['*', '?'], caseIgnorable c = false
  cased_congr : ∀ c d, lower c = lower d → cased c = cased d
  caseIgnorable_congr : ∀ c d, lower c = lower d → caseIgnorable c = caseIgnorable d

namespace UnicodeCase

variable (U : UnicodeCase)

/-! ### The capital sigma -/

/-- `case_ignorable_then_cased`: the first character that is not passed over is a letter with a
case. -/
def caseIgnorableThenCased (s : List Char) : Bool :=
  (s.dropWhile U.caseIgnorable).head?.any U.cased

/-- A place is at the end of a word. The text before it is in reverse. -/
def isWordFinal (before after : List Char) : Bool :=
  U.caseIgnorableThenCased before && !U.caseIgnorableThenCased after

/-- `map_uppercase_sigma`. -/
def mapUppercaseSigma (before after : List Char) : Char :=
  if U.isWordFinal before after then 'ς' else 'σ'

/-- `str::to_lowercase`, from a place on. -/
def toLowercaseFrom (before : List Char) : List Char → List Char
  | [] => []
  | c :: after =>
    (if c = 'Σ' then [U.mapUppercaseSigma before after] else U.lower c) ++
      toLowercaseFrom (c :: before) after

/-- `str::to_lowercase`. -/
def toLowercase (s : String) : List Char :=
  U.toLowercaseFrom [] s.toList

/-! ### Characters in their places -/

/-- The characters of a text, each with whether it is at the end of a word. -/
def placed (before : List Char) : List Char → List (Char × Bool)
  | [] => []
  | c :: after => (c, U.isWordFinal before after) :: placed (c :: before) after

/-- The lower case of a character in its place. -/
def lowerAt (x : Char × Bool) : List Char :=
  if x.1 = 'Σ' then [if x.2 then 'ς' else 'σ'] else U.lower x.1

variable {U} {before s : List Char} {x y : Char × Bool}

theorem toLowercaseFrom_eq :
    U.toLowercaseFrom before s = (U.placed before s).flatMap U.lowerAt := by
  induction s generalizing before with
  | nil => rfl
  | cons c s ih =>
    rw [toLowercaseFrom, placed, List.flatMap_cons, ih]
    rfl

theorem toLowercaseFrom_of_notMem (h : 'Σ' ∉ s) :
    U.toLowercaseFrom before s = s.flatMap U.lower := by
  induction s generalizing before with
  | nil => rfl
  | cons c s ih =>
    obtain ⟨hc, hs⟩ := List.ne_and_not_mem_of_not_mem_cons h
    rw [toLowercaseFrom, if_neg hc.symm, ih hs, List.flatMap_cons]

/-- A character by itself is at the end of no word. -/
theorem toLowercaseFrom_singleton (c : Char) : U.toLowercaseFrom [] [c] = U.lower c := by
  rw [toLowercaseFrom]
  split
  · rename_i hc
    rw [hc, U.lower_capitalSigma]
    rfl
  · exact List.append_nil _

theorem caseIgnorableThenCased_cons {c : Char} (h : U.caseIgnorable c = false) :
    U.caseIgnorableThenCased (c :: s) = U.cased c := by
  rw [caseIgnorableThenCased, List.dropWhile_cons_of_neg (by rw [h]; decide)]
  rfl

/-- The second of two capital sigmas is at the end of a word. -/
theorem toLowercaseFrom_sigmas : U.toLowercaseFrom [] ['Σ', 'Σ'] = ['σ', 'ς'] := by
  have hcased : U.caseIgnorableThenCased ['Σ'] = true := by
    rw [caseIgnorableThenCased_cons U.caseIgnorable_sigma, U.cased_sigma]
  have hfinal : U.mapUppercaseSigma ['Σ'] [] = 'ς' := by
    rw [mapUppercaseSigma, isWordFinal, hcased]
    rfl
  show [U.mapUppercaseSigma [] ['Σ']] ++ ([U.mapUppercaseSigma ['Σ'] []] ++ []) = _
  rw [hfinal]
  rfl

/-- A capital sigma after a wildcard is not. -/
theorem mapUppercaseSigma_wildcard {w : Char} (hw : w ∈ ['*', '?']) :
    U.mapUppercaseSigma [w] [] = 'σ' := by
  rw [mapUppercaseSigma, isWordFinal, caseIgnorableThenCased_cons (U.caseIgnorable_wildcard w hw),
    U.cased_wildcard w hw]
  rfl

@[simp]
theorem map_fst_placed : (U.placed before s).map Prod.fst = s := by
  induction s generalizing before with
  | nil => rfl
  | cons c s ih => rw [placed, List.map_cons, ih]

theorem fst_mem_of_mem_placed (h : x ∈ U.placed before s) : x.1 ∈ s := by
  have hmem := List.mem_map_of_mem (f := Prod.fst) h
  rwa [map_fst_placed] at hmem

theorem lowerAt_of_ne (h : x.1 ≠ 'Σ') : U.lowerAt x = U.lower x.1 :=
  if_neg h

theorem lowerAt_sigma (h : x.1 = 'Σ') : U.lowerAt x = ['ς'] ∨ U.lowerAt x = ['σ'] := by
  rw [lowerAt, if_pos h]
  cases x.2
  · exact Or.inr rfl
  · exact Or.inl rfl

/-- Every character but one has one character for its lower case. -/
theorem lowerAt_single (h : x.1 ≠ '\u0130') : ∃ d, U.lowerAt x = [d] := by
  by_cases hsigma : x.1 = 'Σ'
  · exact (lowerAt_sigma hsigma).elim (fun h ↦ ⟨_, h⟩) fun h ↦ ⟨_, h⟩
  · rw [lowerAt_of_ne hsigma]
    exact U.lower_single x.1 h

theorem lowerAt_dotted (h : x.1 = '\u0130') : U.lowerAt x = ['i', '\u0307'] := by
  rw [lowerAt_of_ne (by rw [h]; decide), h, U.lower_dotted]

/-- A character without a sigma in its lower case has the same lower case everywhere. -/
theorem lowerAt_eq_singleton {d : Char} (hsigma : d ≠ 'σ') (hfinal : d ≠ 'ς') :
    U.lowerAt x = [d] ↔ U.lower x.1 = [d] := by
  by_cases h : x.1 = 'Σ'
  · constructor
    · intro hd
      rcases lowerAt_sigma (U := U) h with hx | hx <;> rw [hx, List.singleton_inj] at hd
      · exact absurd hd.symm hfinal
      · exact absurd hd.symm hsigma
    · intro hd
      rw [h, U.lower_capitalSigma, List.singleton_inj] at hd
      exact absurd hd.symm hsigma
  · rw [lowerAt_of_ne h]

/-! ### Sigmas -/

/-- A sigma: the capital, the small, and the final one. -/
def IsSigma (c : Char) : Prop :=
  c = 'Σ' ∨ c = 'σ' ∨ c = 'ς'

instance (c : Char) : Decidable (IsSigma c) :=
  inferInstanceAs (Decidable (_ ∨ _ ∨ _))

/-- Only a sigma has a sigma for its lower case. -/
theorem isSigma_of_lowerAt (h : U.lowerAt x = ['σ'] ∨ U.lowerAt x = ['ς']) : IsSigma x.1 := by
  by_cases hsigma : x.1 = 'Σ'
  · exact Or.inl hsigma
  · rw [lowerAt_of_ne hsigma] at h
    rcases h with h | h
    · exact (U.eq_of_lower_eq_sigma _ h).imp_right Or.inl
    · exact Or.inr (Or.inr (U.eq_of_lower_eq_finalSigma _ h))

/-- A capital sigma is, in lower case, only like a sigma. -/
theorem isSigma_of_lowerAt_eq (hx : x.1 = 'Σ') (h : U.lowerAt x = U.lowerAt y) : IsSigma y.1 :=
  isSigma_of_lowerAt (U := U) ((lowerAt_sigma hx).elim (fun hx ↦ Or.inr (h ▸ hx))
    fun hx ↦ Or.inl (h ▸ hx))

theorem isSigma_of_lower_eq {c d : Char} (hc : c = 'Σ') (h : U.lower c = U.lower d) :
    IsSigma d := by
  rw [hc, U.lower_capitalSigma] at h
  exact (U.eq_of_lower_eq_sigma d h.symm).imp_right Or.inl

/-- Where two characters are not both sigmas, their places do not matter. -/
theorem lowerAt_eq_iff (h : ¬(IsSigma x.1 ∧ IsSigma y.1)) :
    U.lowerAt x = U.lowerAt y ↔ U.lower x.1 = U.lower y.1 := by
  by_cases hx : x.1 = 'Σ'
  · constructor
    · exact fun heq ↦ absurd ⟨Or.inl hx, isSigma_of_lowerAt_eq hx heq⟩ h
    · exact fun heq ↦ absurd ⟨Or.inl hx, isSigma_of_lower_eq hx heq⟩ h
  · by_cases hy : y.1 = 'Σ'
    · constructor
      · exact fun heq ↦ absurd ⟨isSigma_of_lowerAt_eq hy heq.symm, Or.inl hy⟩ h
      · exact fun heq ↦ absurd ⟨isSigma_of_lower_eq hy heq.symm, Or.inl hy⟩ h
    · rw [lowerAt_of_ne hx, lowerAt_of_ne hy]

/-! ### Texts alike in lower case -/

variable (U) in
/-- Characters alike in lower case. -/
def Alike (c d : Char) : Prop :=
  U.lower c = U.lower d

variable {l l' before' : List Char}

theorem caseIgnorableThenCased_congr (h : List.Forall₂ U.Alike l l') :
    U.caseIgnorableThenCased l = U.caseIgnorableThenCased l' := by
  induction h with
  | nil => rfl
  | @cons c d l l' hcd _ ih =>
    have hignorable := U.caseIgnorable_congr c d hcd
    rw [caseIgnorableThenCased, caseIgnorableThenCased, List.dropWhile_cons, List.dropWhile_cons,
      ← hignorable]
    cases U.caseIgnorable c with
    | false => exact U.cased_congr c d hcd
    | true => exact ih

/-- The capital sigma is the only sigma. -/
def CapitalOnly (s : List Char) : Prop :=
  ∀ c ∈ s, IsSigma c → c = 'Σ'

theorem CapitalOnly.tail {c : Char} (h : CapitalOnly (c :: s)) : CapitalOnly s :=
  fun d hd ↦ h d (List.mem_cons_of_mem c hd)

theorem eq_sigma_iff {c d : Char} (hs : CapitalOnly (c :: l)) (ht : CapitalOnly (d :: l'))
    (h : U.Alike c d) : c = 'Σ' ↔ d = 'Σ' :=
  ⟨fun hc ↦ ht d List.mem_cons_self (isSigma_of_lower_eq hc h),
    fun hd ↦ hs c List.mem_cons_self (isSigma_of_lower_eq hd h.symm)⟩

theorem forall₂_lowerAt_placed (hbefore : List.Forall₂ U.Alike before before')
    (hs : CapitalOnly l) (ht : CapitalOnly l') (h : List.Forall₂ U.Alike l l') :
    List.Forall₂ (fun x y ↦ U.lowerAt x = U.lowerAt y) (U.placed before l)
      (U.placed before' l') := by
  induction h generalizing before before' with
  | nil => exact List.Forall₂.nil
  | @cons c d l l' hcd hrest ih =>
    refine List.Forall₂.cons ?_ (ih (List.Forall₂.cons hcd hbefore) hs.tail ht.tail)
    have hfinal : U.isWordFinal before l = U.isWordFinal before' l' := by
      rw [isWordFinal, isWordFinal, caseIgnorableThenCased_congr hbefore,
        caseIgnorableThenCased_congr hrest]
    by_cases hc : c = 'Σ'
    · rw [hc, (eq_sigma_iff hs ht hcd).1 hc, hfinal]
    · rw [lowerAt_of_ne hc, lowerAt_of_ne fun hd ↦ hc ((eq_sigma_iff hs ht hcd).2 hd)]
      exact hcd

theorem alike_of_forall₂_lowerAt (hs : CapitalOnly l) (ht : CapitalOnly l')
    (h : List.Forall₂ (fun x y ↦ U.lowerAt x = U.lowerAt y) (U.placed before l)
      (U.placed before' l')) : List.Forall₂ U.Alike l l' := by
  induction l generalizing l' before before' with
  | nil =>
    cases l' with
    | nil => exact List.Forall₂.nil
    | cons d l' => nomatch h
  | cons c l ih =>
    cases l' with
    | nil => nomatch h
    | cons d l' =>
      rw [placed, placed, List.forall₂_cons] at h
      refine List.Forall₂.cons ?_ (ih hs.tail ht.tail h.2)
      by_cases hboth : IsSigma c ∧ IsSigma d
      · rw [hs c List.mem_cons_self hboth.1, ht d List.mem_cons_self hboth.2]
        rfl
      · exact (lowerAt_eq_iff hboth).1 h.1

/-- **Lower case by characters.** With the capital sigma for the only sigma, two texts are alike in
their places exactly when they are alike in their characters. -/
theorem forall₂_lowerAt_placed_iff (hs : CapitalOnly l) (ht : CapitalOnly l') :
    List.Forall₂ (fun x y ↦ U.lowerAt x = U.lowerAt y) (U.placed [] l) (U.placed [] l') ↔
      List.Forall₂ U.Alike l l' :=
  ⟨alike_of_forall₂_lowerAt hs ht, forall₂_lowerAt_placed List.Forall₂.nil hs ht⟩

end UnicodeCase
