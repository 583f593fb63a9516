import Mathlib.Data.List.Basic
import Mathlib.Algebra.Group.Nat.Even
import Mathlib.Order.Lattice

/-!
# Numerals and their order as text

Numbers written with a fixed number of digits are in the order of the text exactly when they are in
the order of the numbers, and so are texts that are made of such numerals (`padded_append_lt_iff`).
A text between two texts that start alike starts like them (`prefix_of_between`).
-/

namespace Text

/-! ### The order of texts -/

section Order

variable {α : Type*} [LinearOrder α]

/-- What lies between two texts that start with `p` starts with `p`. -/
theorem prefix_of_between {p s t u : List α} (hle : ¬u < p ++ s) (hge : ¬p ++ t < u) :
    p <+: u := by
  induction p generalizing u with
  | nil => exact List.nil_prefix
  | cons x p ih =>
    obtain - | ⟨y, u⟩ := u
    · exact absurd (List.nil_lt_cons x (p ++ s)) hle
    · rw [List.cons_append, List.cons_lt_cons_iff, not_or, not_and] at hle hge
      obtain rfl : x = y := le_antisymm (not_lt.1 hle.1) (not_lt.1 hge.1)
      exact (List.prefix_cons_inj x).2 (ih (hle.2 rfl) (hge.2 rfl))

end Order

/-! ### Numerals -/

/-- The last `w` digits of a number. -/
def padded : ℕ → ℕ → List Char
  | 0, _ => []
  | w + 1, n => padded w (n / 10) ++ [Nat.digitChar (n % 10)]

@[simp]
theorem length_padded (w n : ℕ) : (padded w n).length = w := by
  induction w generalizing n with
  | zero => rfl
  | succ w ih => rw [padded, List.length_append, ih, List.length_singleton]

theorem digitChar_lt_iff {a b : ℕ} (ha : a < 10) (hb : b < 10) :
    Nat.digitChar a < Nat.digitChar b ↔ a < b := by
  have hall : ∀ a < 10, ∀ b < 10, Nat.digitChar a < Nat.digitChar b ↔ a < b := by decide
  exact hall a ha b hb

theorem digitChar_inj {a b : ℕ} (ha : a < 10) (hb : b < 10) :
    Nat.digitChar a = Nat.digitChar b ↔ a = b := by
  have hall : ∀ a < 10, ∀ b < 10, Nat.digitChar a = Nat.digitChar b ↔ a = b := by decide
  exact hall a ha b hb

/-- **Numerals are in the order of the numbers**, and what follows them decides between equals. -/
theorem padded_append_lt_iff {w m n : ℕ} (hm : m < 10 ^ w) (hn : n < 10 ^ w) (s t : List Char) :
    padded w m ++ s < padded w n ++ t ↔ m < n ∨ m = n ∧ s < t := by
  induction w generalizing m n s t with
  | zero =>
    rw [pow_zero, Nat.lt_one_iff] at hm hn
    subst hm
    subst hn
    simp [padded]
  | succ w ih =>
    rw [pow_succ] at hm hn
    have hdiv := ih (m := m / 10) (n := n / 10) (by omega) (by omega)
      (Nat.digitChar (m % 10) :: s) (Nat.digitChar (n % 10) :: t)
    rw [padded, padded, List.append_assoc, List.append_assoc, List.singleton_append,
      List.singleton_append, hdiv, List.cons_lt_cons_iff,
      digitChar_lt_iff (Nat.mod_lt m (by decide)) (Nat.mod_lt n (by decide)),
      digitChar_inj (Nat.mod_lt m (by decide)) (Nat.mod_lt n (by decide))]
    constructor
    · rintro (hlt | ⟨hquot, hlt | ⟨hrem, hst⟩⟩)
      · exact Or.inl (by omega)
      · exact Or.inl (by omega)
      · exact Or.inr ⟨by omega, hst⟩
    · rintro (hlt | ⟨rfl, hst⟩)
      · rcases Nat.lt_or_ge (m / 10) (n / 10) with hquot | hquot
        · exact Or.inl hquot
        · exact Or.inr ⟨by omega, Or.inl (by omega)⟩
      · exact Or.inr ⟨rfl, Or.inr ⟨rfl, hst⟩⟩

/-- The number that digits stand for. -/
theorem ofDigitChars_padded {w n : ℕ} (hn : n < 10 ^ w) :
    Nat.ofDigitChars 10 (padded w n) 0 = n := by
  induction w generalizing n with
  | zero =>
    rw [pow_zero, Nat.lt_one_iff] at hn
    rw [hn]
    rfl
  | succ w ih =>
    rw [pow_succ] at hn
    rw [padded, Nat.ofDigitChars_append, ih (by omega),
      Nat.ofDigitChars_cons_digitChar_of_lt_ten (Nat.mod_lt n (by decide)), Nat.ofDigitChars_nil]
    omega

theorem padded_inj {w m n : ℕ} (hm : m < 10 ^ w) (hn : n < 10 ^ w)
    (h : padded w m = padded w n) : m = n := by
  rw [← ofDigitChars_padded hm, h, ofDigitChars_padded hn]

theorem isDigit_of_mem_padded {w n : ℕ} {c : Char} (h : c ∈ padded w n) : c.isDigit := by
  induction w generalizing n with
  | zero => exact absurd h List.not_mem_nil
  | succ w ih =>
    obtain h | h := List.mem_append.1 h
    · exact ih h
    · obtain rfl := List.mem_singleton.1 h
      have hall : ∀ a < 10, (Nat.digitChar a).isDigit := by decide
      exact hall _ (Nat.mod_lt n (by decide))

/-- A number that has as many digits as there are places is written out. -/
theorem toDigits_eq_padded {w n : ℕ} (hle : 10 ^ w ≤ n) (hlt : n < 10 ^ (w + 1)) :
    Nat.toDigits 10 n = padded (w + 1) n := by
  induction w generalizing n with
  | zero =>
    rw [Nat.zero_add, pow_one] at hlt
    rw [Nat.toDigits_of_lt_base hlt, padded, Nat.mod_eq_of_lt hlt]
    rfl
  | succ w ih =>
    rw [pow_succ] at hle hlt
    have hbase : 10 ≤ n := by
      have hpos : 0 < 10 ^ w := Nat.pow_pos (by decide)
      omega
    rw [Nat.toDigits_of_base_le (by decide) hbase, padded, ih (by omega) (by omega)]

/-- A number with fewer digits is filled up with zeros. -/
theorem padded_eq_replicate_append {w n : ℕ} (h : n < 10 ^ (w + 1)) :
    padded (w + 1) n =
      List.replicate (w + 1 - (Nat.toDigits 10 n).length) '0' ++ Nat.toDigits 10 n := by
  induction w generalizing n with
  | zero =>
    rw [Nat.zero_add, pow_one] at h
    rw [Nat.toDigits_of_lt_base h, padded, Nat.mod_eq_of_lt h]
    rfl
  | succ w ih =>
    rw [pow_succ] at h
    rcases Nat.lt_or_ge n 10 with hlt | hge
    · rw [padded, Nat.div_eq_of_lt hlt, ih (Nat.pow_pos (by decide)),
        Nat.toDigits_of_lt_base hlt, Nat.mod_eq_of_lt hlt, Nat.toDigits_zero,
        ← List.replicate_succ']
      rfl
    · rw [padded, ih (by omega), Nat.toDigits_of_base_le (by decide) hge, List.length_append,
        List.length_singleton, Nat.add_sub_add_right, List.append_assoc]

/-! ### Integers -/

theorem toDigits_injective {m n : ℕ} (h : Nat.toDigits 10 m = Nat.toDigits 10 n) : m = n := by
  rw [← @Nat.ofDigitChars_ten_toDigits m, h, Nat.ofDigitChars_ten_toDigits]

theorem hyphen_notMem_toDigits (n : ℕ) : '-' ∉ Nat.toDigits 10 n := fun h ↦
  absurd (Nat.isDigit_of_mem_toDigits (by decide) (by decide) h) (by decide)

theorem toList_toString_ofNat (n : ℕ) : (toString (Int.ofNat n)).toList = Nat.toDigits 10 n :=
  Nat.toList_repr

theorem toList_toString_negSucc (n : ℕ) :
    (toString (Int.negSucc n)).toList = '-' :: Nat.toDigits 10 (n + 1) := by
  show ("-" ++ Nat.repr (n + 1)).toList = _
  rw [String.toList_append, Nat.toList_repr]
  rfl

/-- An integer is known from its decimal text. -/
theorem toString_int_injective {a b : ℤ} (h : (toString a).toList = (toString b).toList) :
    a = b := by
  cases a with
  | ofNat m =>
    cases b with
    | ofNat n =>
      rw [toList_toString_ofNat, toList_toString_ofNat] at h
      rw [toDigits_injective h]
    | negSucc n =>
      rw [toList_toString_ofNat, toList_toString_negSucc] at h
      exact absurd (h ▸ List.mem_cons_self) (hyphen_notMem_toDigits m)
  | negSucc m =>
    cases b with
    | ofNat n =>
      rw [toList_toString_ofNat, toList_toString_negSucc] at h
      exact absurd (h ▸ List.mem_cons_self) (hyphen_notMem_toDigits n)
    | negSucc n =>
      rw [toList_toString_negSucc, toList_toString_negSucc] at h
      rw [Nat.succ.inj (toDigits_injective (List.cons.inj h).2)]

end Text
