import Mathlib

/-!
# Text under a case mapping

Lower case and upper case of Unicode text as a parameter: a `CaseMapping` is any mapping of single
characters that agrees with Unicode about the ASCII letters. Two characters outside of ASCII have an
ASCII letter in their lower case, the Kelvin sign and the dotted capital I.

A program that identifies text by the ASCII letters and digits in it can lower the case first or
drop the other characters first. The keys it gets are the same up to the letters `i` and `k`, for
the sake of those two characters (`plainKey_asciiKey`).
-/

/-- A case mapping of single characters that is exact about ASCII. -/
structure CaseMapping where
  lower : Char → List Char
  upper : Char → List Char
  lower_ascii : ∀ c : Char, c.toNat < 128 → lower c = [c.toLower]
  lower_kelvin : lower '\u212A' = ['k']
  lower_dotted : lower '\u0130' = ['i', '\u0307']
  lower_other : ∀ c : Char, 128 ≤ c.toNat → c ≠ '\u212A' → c ≠ '\u0130' →
    ∀ d ∈ lower c, 128 ≤ d.toNat
  lower_ne_nil : ∀ c : Char, lower c ≠ []
  upper_ascii : ∀ c : Char, c.toNat < 128 → upper c = [c.toUpper]
  upper_other : ∀ c : Char, 128 ≤ c.toNat → ∀ d ∈ upper c, 128 ≤ d.toNat ∨ d.isUpper

namespace Text

/-! ### White space at the ends -/

/-- Text without the characters of a kind at its ends. -/
def strip (p : Char → Bool) (s : List Char) : List Char :=
  (s.dropWhile p).rdropWhile p

theorem filter_dropWhile {p q : Char → Bool} (h : ∀ c, p c → q c = false) (s : List Char) :
    (s.dropWhile p).filter q = s.filter q := by
  induction s with
  | nil => rfl
  | cons c s ih =>
    rw [List.dropWhile_cons]
    split
    · rename_i hc
      rw [ih, List.filter_cons, h c hc]
      rfl
    · rfl

theorem filter_strip {p q : Char → Bool} (h : ∀ c, p c → q c = false) (s : List Char) :
    (strip p s).filter q = s.filter q := by
  rw [strip, List.rdropWhile, List.filter_reverse, filter_dropWhile h, ← List.filter_reverse,
    List.reverse_reverse, filter_dropWhile h]

theorem strip_subset (p : Char → Bool) (s : List Char) : strip p s ⊆ s :=
  fun _ hc ↦ (List.dropWhile_suffix p).subset ((List.rdropWhile_prefix p _).subset hc)

theorem mem_strip {p : Char → Bool} {s : List Char} {c : Char} (hc : c ∈ s) (hp : p c = false) :
    c ∈ strip p s := by
  have hfilter := filter_strip (p := p) (q := fun d ↦ d = c)
    (fun d hd ↦ decide_eq_false fun heq ↦ by rw [heq, hp] at hd; exact absurd hd (by decide)) s
  have hmem : c ∈ s.filter fun d ↦ d = c := List.mem_filter.2 ⟨hc, decide_eq_true rfl⟩
  rw [← hfilter] at hmem
  exact (List.mem_filter.1 hmem).1

/-- Stripped text has nothing left to strip. -/
theorem strip_strip (p : Char → Bool) (s : List Char) : strip p (strip p s) = strip p s := by
  have hhead : (strip p s).dropWhile p = strip p s := by
    rw [List.dropWhile_eq_self_iff]
    intro hpos
    -- the first character is still the first one after the end has been stripped
    have hprefix : strip p s <+: s.dropWhile p := List.rdropWhile_prefix p (s.dropWhile p)
    have hs : 0 < (s.dropWhile p).length := hpos.trans_le hprefix.length_le
    rw [List.IsPrefix.getElem hprefix hpos]
    exact List.dropWhile_get_zero_not p s hs
  rw [strip, hhead, strip, List.rdropWhile_idempotent]

/-! ### Keys -/

/-- A lower-case ASCII letter or a digit. -/
def isKeyChar (c : Char) : Bool :=
  c.isLower || c.isDigit

/-- The lower-case ASCII letters and the digits of a text. -/
def asciiKey (s : List Char) : List Char :=
  s.filter isKeyChar

/-- The ASCII letters and the digits of a text, in lower case. -/
def alphanumKey (s : List Char) : List Char :=
  (s.filter Char.isAlphanum).map Char.toLower

/-- A letter that no character outside of ASCII has in its lower case. -/
def isPlain (c : Char) : Bool :=
  c ≠ 'i' && c ≠ 'k'

/-- A key without the letters `i` and `k`. -/
def plainKey (key : List Char) : List Char :=
  key.filter isPlain

theorem plainKey_append (s t : List Char) : plainKey (s ++ t) = plainKey s ++ plainKey t :=
  List.filter_append _ _

theorem asciiKey_append (s t : List Char) : asciiKey (s ++ t) = asciiKey s ++ asciiKey t :=
  List.filter_append _ _

/-- A key is not changed by stripping what no key has. -/
theorem alphanumKey_strip {p : Char → Bool} (h : ∀ c, p c → c.isAlphanum = false)
    (s : List Char) : alphanumKey (strip p s) = alphanumKey s := by
  rw [alphanumKey, filter_strip h, alphanumKey]

theorem alphanumKey_cons (c : Char) (s : List Char) :
    alphanumKey (c :: s) = (if c.isAlphanum then [c.toLower] else []) ++ alphanumKey s := by
  rw [alphanumKey, List.filter_cons]
  split <;> rfl

/-! ### ASCII -/

/-- Text of ASCII characters. -/
def IsAscii (s : List Char) : Prop :=
  ∀ c ∈ s, c.toNat < 128

/-- What is said of the characters of a text is decided along the text. Otherwise Mathlib, which has
the characters as a `Fintype`, would go through all there are. -/
instance (priority := 2000) decidableForallMemText (p : Char → Prop) [DecidablePred p]
    (s : List Char) : Decidable (∀ c ∈ s, p c) :=
  List.decidableBAll p s

instance (s : List Char) : Decidable (IsAscii s) :=
  inferInstanceAs (Decidable (∀ c ∈ s, c.toNat < 128))

theorem eq_ofNat_toNat (c : Char) : c = Char.ofNat c.toNat :=
  (Char.ofNat_toNat c).symm

/-- What holds of the first 128 characters holds of every ASCII character. -/
theorem forall_ascii {P : Char → Prop} (h : ∀ n < 128, P (Char.ofNat n)) {c : Char}
    (hc : c.toNat < 128) : P c :=
  eq_ofNat_toNat c ▸ h c.toNat hc

theorem toNat_toUpper_lt {c : Char} (h : c.toNat < 128) : c.toUpper.toNat < 128 :=
  forall_ascii (P := fun c ↦ c.toUpper.toNat < 128) (by decide) h

theorem toNat_toLower_lt {c : Char} (h : c.toNat < 128) : c.toLower.toNat < 128 :=
  forall_ascii (P := fun c ↦ c.toLower.toNat < 128) (by decide) h

theorem toLower_toUpper {c : Char} (h : c.toNat < 128) : c.toUpper.toLower = c.toLower :=
  forall_ascii (P := fun c ↦ c.toUpper.toLower = c.toLower) (by decide) h

theorem toUpper_toLower {c : Char} (h : c.toNat < 128) : c.toLower.toUpper = c.toUpper :=
  forall_ascii (P := fun c ↦ c.toLower.toUpper = c.toUpper) (by decide) h

/-- Outside of ASCII there is nothing that `Char.toLower` changes. -/
theorem toLower_of_le {c : Char} (h : 128 ≤ c.toNat) : c.toLower = c := by
  rw [Char.toLower]
  split
  · rename_i hupper
    have hle : c.toNat ≤ 90 := hupper.2
    omega
  · rfl

/-! ### ASCII strings by their bytes

The kernel decodes the bytes of a string literal slowly. Where every byte is below 128 there is
nothing to decode. -/

/-- The bytes of a string, each taken for a character. -/
def byteChars (s : String) : List Char :=
  s.toByteArray.data.toList.map fun b ↦ Char.ofNat b.toNat

/-- Every byte is below 128. -/
def isAsciiString (s : String) : Bool :=
  s.toByteArray.data.toList.all fun b ↦ b.toNat < 128

theorem bytes_eq_flatMap (s : String) :
    s.toByteArray.data.toList = s.toList.flatMap String.utf8EncodeChar := by
  rw [← String.utf8Encode_toList, List.utf8Encode, List.toList_data_toByteArray]

theorem utf8EncodeChar_of_lt {c : Char} (h : c.toNat < 128) :
    String.utf8EncodeChar c = [UInt8.ofNat c.toNat] :=
  if_pos (Nat.le_of_lt_succ h)

/-- A character outside of ASCII starts with a byte that is not below 128. -/
theorem exists_byte_of_le {c : Char} (h : 128 ≤ c.toNat) :
    ∃ b ∈ String.utf8EncodeChar c, 128 ≤ b.toNat := by
  have hlarge : ¬c.val.toNat ≤ 127 := by
    change ¬c.toNat ≤ 127
    omega
  simp only [String.utf8EncodeChar, if_neg hlarge]
  split
  · exact ⟨_, List.mem_cons_self, by rw [UInt8.toNat_ofNat']; omega⟩
  · split
    · exact ⟨_, List.mem_cons_self, by rw [UInt8.toNat_ofNat']; omega⟩
    · exact ⟨_, List.mem_cons_self, by rw [UInt8.toNat_ofNat']; omega⟩

theorem isAscii_toList {s : String} (h : isAsciiString s) : IsAscii s.toList := by
  rw [isAsciiString, bytes_eq_flatMap, List.all_eq_true] at h
  intro c hc
  by_contra hlarge
  obtain ⟨b, hb, hle⟩ := exists_byte_of_le (not_lt.1 hlarge)
  have hlt := h b (List.mem_flatMap.2 ⟨c, hc, hb⟩)
  exact absurd hle (not_le.2 (of_decide_eq_true hlt))

theorem flatMap_bytes_of_isAscii {l : List Char} (h : IsAscii l) :
    (l.flatMap String.utf8EncodeChar).map (fun b ↦ Char.ofNat b.toNat) = l := by
  induction l with
  | nil => rfl
  | cons c l ih =>
    have hc : c.toNat < 128 := h c List.mem_cons_self
    have hbyte : (UInt8.ofNat c.toNat).toNat = c.toNat := by
      rw [UInt8.toNat_ofNat']
      omega
    rw [List.flatMap_cons, utf8EncodeChar_of_lt hc, List.map_append,
      ih fun d hd ↦ h d (List.mem_cons_of_mem c hd), List.map_singleton, hbyte, Char.ofNat_toNat]
    rfl

/-- An ASCII string has one character to a byte. -/
theorem toList_eq_byteChars {s : String} (h : isAsciiString s) : s.toList = byteChars s := by
  rw [byteChars, bytes_eq_flatMap, flatMap_bytes_of_isAscii (isAscii_toList h)]

end Text

namespace CaseMapping

open Text

variable (M : CaseMapping)

/-- Lower case of a text. -/
def lowerCase (s : List Char) : List Char :=
  s.flatMap M.lower

@[simp]
theorem lowerCase_nil : M.lowerCase [] = [] :=
  rfl

@[simp]
theorem lowerCase_cons (c : Char) (s : List Char) :
    M.lowerCase (c :: s) = M.lower c ++ M.lowerCase s :=
  rfl

/-- Lower case of ASCII text. -/
theorem lowerCase_of_isAscii {s : List Char} (h : IsAscii s) :
    M.lowerCase s = s.map Char.toLower := by
  induction s with
  | nil => rfl
  | cons c s ih =>
    rw [lowerCase_cons, M.lower_ascii c (h c List.mem_cons_self),
      ih fun d hd ↦ h d (List.mem_cons_of_mem c hd)]
    rfl

/-- The three kinds of characters: ASCII, the two with an ASCII letter in their lower case, and
the rest. -/
theorem lower_cases (c : Char) :
    (c.toNat < 128 ∧ M.lower c = [c.toLower]) ∨
      (c = '\u212A' ∧ M.lower c = ['k']) ∨ (c = '\u0130' ∧ M.lower c = ['i', '\u0307']) ∨
        128 ≤ c.toNat ∧ ∀ d ∈ M.lower c, 128 ≤ d.toNat := by
  rcases Nat.lt_or_ge c.toNat 128 with hascii | hother
  · exact Or.inl ⟨hascii, M.lower_ascii c hascii⟩
  · by_cases hkelvin : c = '\u212A'
    · exact Or.inr (Or.inl ⟨hkelvin, hkelvin ▸ M.lower_kelvin⟩)
    · by_cases hdotted : c = '\u0130'
      · exact Or.inr (Or.inr (Or.inl ⟨hdotted, hdotted ▸ M.lower_dotted⟩))
      · exact Or.inr (Or.inr (Or.inr ⟨hother, M.lower_other c hother hkelvin hdotted⟩))

theorem lowerCase_eq_of_eq (N : CaseMapping) {s t : List Char} (ht : IsAscii t)
    (h : M.lowerCase s = t) : N.lowerCase s = t := by
  induction s generalizing t with
  | nil => exact h
  | cons c s ih =>
    subst h
    have hrest : N.lowerCase s = M.lowerCase s :=
      ih (fun d hd ↦ ht d (List.mem_append_right _ hd)) rfl
    have hfirst : IsAscii (M.lower c) := fun d hd ↦ ht d (List.mem_append_left _ hd)
    rw [lowerCase_cons, lowerCase_cons, hrest]
    congr 1
    obtain ⟨hascii, hlower⟩ | ⟨rfl, hlower⟩ | ⟨rfl, hlower⟩ | ⟨-, hlower⟩ := M.lower_cases c
    · rw [hlower, N.lower_ascii c hascii]
    · rw [hlower, N.lower_kelvin]
    · rw [hlower, N.lower_dotted]
    · -- the lower case of any other character is not ASCII
      obtain ⟨d, hd⟩ := List.exists_mem_of_ne_nil _ (M.lower_ne_nil c)
      exact absurd (hfirst d hd) (not_lt.2 (hlower d hd))

/-- Two case mappings are equally good at recognising an ASCII text. -/
theorem lowerCase_eq_iff (N : CaseMapping) {s t : List Char} (ht : IsAscii t) :
    M.lowerCase s = t ↔ N.lowerCase s = t :=
  ⟨M.lowerCase_eq_of_eq N ht, N.lowerCase_eq_of_eq M ht⟩

/-! ### The two keys of a text -/

theorem asciiKey_eq_nil {s : List Char} (h : ∀ c ∈ s, 128 ≤ c.toNat) : asciiKey s = [] :=
  List.filter_eq_nil_iff.2 fun c hc hkey ↦ by
    have hlow : c.toNat < 128 := by
      simp only [isKeyChar, Char.isLower, Char.isDigit, Bool.or_eq_true, Bool.and_eq_true,
        decide_eq_true_eq, UInt32.le_iff_toNat_le] at hkey
      change (97 ≤ c.toNat ∧ c.toNat ≤ 122) ∨ (48 ≤ c.toNat ∧ c.toNat ≤ 57) at hkey
      omega
    exact absurd (h c hc) (not_le.2 hlow)

theorem lt_of_isAlphanum {c : Char} (h : c.isAlphanum) : c.toNat < 128 := by
  simp only [Char.isAlphanum, Char.isAlpha, Char.isUpper, Char.isLower, Char.isDigit,
    Bool.or_eq_true, Bool.and_eq_true, decide_eq_true_eq, UInt32.le_iff_toNat_le] at h
  change ((65 ≤ c.toNat ∧ c.toNat ≤ 90) ∨ (97 ≤ c.toNat ∧ c.toNat ≤ 122)) ∨
    (48 ≤ c.toNat ∧ c.toNat ≤ 57) at h
  omega

/-- Of an ASCII character both keys have the same. -/
theorem asciiKey_toLower {c : Char} (h : c.toNat < 128) :
    asciiKey [c.toLower] = if c.isAlphanum then [c.toLower] else [] :=
  forall_ascii (P := fun c ↦ asciiKey [c.toLower] = if c.isAlphanum then [c.toLower] else [])
    (by decide) h

theorem asciiKey_lowerCase_cons (c : Char) (s : List Char) :
    asciiKey (M.lowerCase (c :: s)) = asciiKey (M.lower c) ++ asciiKey (M.lowerCase s) := by
  rw [lowerCase_cons, asciiKey_append]

/-- **The keys of a text.** Lowering the case first gives the same key as dropping the other
characters first, but for the letters `i` and `k`. -/
theorem plainKey_asciiKey (s : List Char) :
    plainKey (asciiKey (M.lowerCase s)) = plainKey (alphanumKey s) := by
  induction s with
  | nil => rfl
  | cons c s ih =>
    have hchar : plainKey (asciiKey (M.lower c)) =
        plainKey (if c.isAlphanum then [c.toLower] else []) := by
      obtain ⟨hascii, hlower⟩ | ⟨rfl, hlower⟩ | ⟨rfl, hlower⟩ | ⟨hother, hlower⟩ := M.lower_cases c
      · rw [hlower, asciiKey_toLower hascii]
      · rw [hlower]
        decide
      · rw [hlower]
        decide
      · rw [asciiKey_eq_nil hlower, if_neg fun h ↦ absurd (lt_of_isAlphanum h) (not_lt.2 hother)]
    rw [asciiKey_lowerCase_cons, alphanumKey_cons, plainKey_append, plainKey_append, ih, hchar]

/-- Text without what the two characters leave behind has one key. -/
theorem asciiKey_eq_alphanumKey {s : List Char} (hk : 'k' ∉ M.lowerCase s)
    (hdot : '̇' ∉ M.lowerCase s) : asciiKey (M.lowerCase s) = alphanumKey s := by
  induction s with
  | nil => rfl
  | cons c s ih =>
    rw [lowerCase_cons, List.mem_append, not_or] at hk hdot
    rw [asciiKey_lowerCase_cons, alphanumKey_cons, ih hk.2 hdot.2]
    congr 1
    obtain ⟨hascii, hlower⟩ | ⟨-, hlower⟩ | ⟨-, hlower⟩ | ⟨hother, hlower⟩ := M.lower_cases c
    · rw [hlower, asciiKey_toLower hascii]
    · exact absurd (hlower ▸ List.mem_singleton_self 'k') hk.1
    · exact absurd (hlower ▸ List.mem_cons_of_mem 'i' (List.mem_singleton_self '̇')) hdot.1
    · rw [asciiKey_eq_nil hlower, if_neg fun h ↦ absurd (lt_of_isAlphanum h) (not_lt.2 hother)]

end CaseMapping
