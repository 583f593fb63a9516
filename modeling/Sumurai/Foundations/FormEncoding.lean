import Mathlib.Data.List.DropRight
import Mathlib.Data.List.Forall2
import Mathlib.Data.Nat.Notation

/-!
# Percent-encoding and form-encoded parameters

Texts are written into URLs as the bytes of UTF-8, some of them as `%` and two digits
(`percentEncode`). The parameters of a query are read from that (`formParse`) and written again
(`formSerialize`).

Which bytes a URL encodes makes no difference to the parameters that are read, as long as digits,
letters, `%` and `+` stay what they are (`formDecode_percentEncode`).
-/

namespace Url

/-! ### Bytes -/

/-- The bytes of a code point in UTF-8. -/
def utf8CodePoint (n : ℕ) : List ℕ :=
  if n < 0x80 then [n]
  else if n < 0x800 then [0xC0 + n / 0x40, 0x80 + n % 0x40]
  else if n < 0x10000 then [0xE0 + n / 0x1000, 0x80 + n / 0x40 % 0x40, 0x80 + n % 0x40]
  else [0xF0 + n / 0x40000, 0x80 + n / 0x1000 % 0x40, 0x80 + n / 0x40 % 0x40, 0x80 + n % 0x40]

/-- The bytes of a character in UTF-8. -/
def utf8 (c : Char) : List ℕ :=
  utf8CodePoint c.toNat

/-- What a decoder knows between two bytes: the bits so far, how many bytes are still needed, and
between which bounds the next one has to be. -/
structure Utf8State where
  bits : ℕ := 0
  needed : ℕ := 0
  lower : ℕ := 0x80
  upper : ℕ := 0xBF

/-- The first byte of a character. -/
def utf8Start (b : ℕ) : List Char × Utf8State :=
  if b < 0x80 then ([Char.ofNat b], {})
  else if 0xC2 ≤ b ∧ b ≤ 0xDF then ([], { bits := b - 0xC0, needed := 1 })
  else if 0xE0 ≤ b ∧ b ≤ 0xEF then
    ([], { bits := b - 0xE0, needed := 2, lower := if b = 0xE0 then 0xA0 else 0x80,
           upper := if b = 0xED then 0x9F else 0xBF })
  else if 0xF0 ≤ b ∧ b ≤ 0xF4 then
    ([], { bits := b - 0xF0, needed := 3, lower := if b = 0xF0 then 0x90 else 0x80,
           upper := if b = 0xF4 then 0x8F else 0xBF })
  else (['\uFFFD'], {})

/-- The characters that bytes stand for, with a replacement character for what is none. -/
def utf8Decode : Utf8State → List ℕ → List Char
  | state, [] => if state.needed = 0 then [] else ['\uFFFD']
  | state, b :: bytes =>
    let start := utf8Start b
    if state.needed = 0 then start.1 ++ utf8Decode start.2 bytes
    else if b < state.lower ∨ state.upper < b then
      '\uFFFD' :: start.1 ++ utf8Decode start.2 bytes
    else
      let bits := 0x40 * state.bits + (b - 0x80)
      if state.needed = 1 then Char.ofNat bits :: utf8Decode {} bytes
      else utf8Decode { bits := bits, needed := state.needed - 1 } bytes

theorem lt_of_mem_utf8CodePoint {n b : ℕ} (hn : n < 0x110000) (hb : b ∈ utf8CodePoint n) :
    b < 0x100 := by
  unfold utf8CodePoint at hb
  split_ifs at hb <;> simp only [List.mem_cons, List.not_mem_nil, or_false] at hb <;> omega

theorem lt_of_mem_utf8 {c : Char} {b : ℕ} (hb : b ∈ utf8 c) : b < 0x100 := by
  have hc : c.toNat < 0x110000 := by
    have hvalid := c.valid
    rw [UInt32.isValidChar, Nat.isValidChar] at hvalid
    show c.val.toNat < 0x110000
    omega
  exact lt_of_mem_utf8CodePoint hc hb

/-- Only ASCII characters have bytes of ASCII. -/
theorem eq_of_mem_utf8CodePoint {n b : ℕ} (hb : b ∈ utf8CodePoint n) (hlt : b < 0x80) : n = b := by
  unfold utf8CodePoint at hb
  split_ifs at hb <;> simp only [List.mem_cons, List.not_mem_nil, or_false] at hb <;> omega

/-! ### Percent-encoding -/

/-- An upper-case hexadecimal digit. -/
def hexDigit (n : ℕ) : ℕ :=
  if n < 10 then 0x30 + n else 0x37 + n

/-- The value of a hexadecimal digit. -/
def hexValue (b : ℕ) : Option ℕ :=
  if 0x30 ≤ b ∧ b ≤ 0x39 then some (b - 0x30)
  else if 0x41 ≤ b ∧ b ≤ 0x46 then some (b - 0x37)
  else if 0x61 ≤ b ∧ b ≤ 0x66 then some (b - 0x57)
  else none

/-- Writes the bytes of a set as `%` and two digits. -/
def percentEncodeByte (inSet : ℕ → Bool) (b : ℕ) : List ℕ :=
  if inSet b then [0x25, hexDigit (b / 16), hexDigit (b % 16)] else [b]

/-- UTF-8 percent-encode. The bytes that are not encoded are characters of ASCII. -/
def percentEncode (inSet : ℕ → Bool) (s : List Char) : List Char :=
  s.flatMap fun c ↦ ((utf8 c).flatMap (percentEncodeByte inSet)).map Char.ofNat

/-- The byte that two hexadecimal digits stand for. -/
def hexByte (high low : ℕ) : Option ℕ :=
  match hexValue high, hexValue low with
  | some x, some y => some (16 * x + y)
  | _, _ => none

/-- Percent-decode. -/
def percentDecode : List ℕ → List ℕ
  | b :: high :: low :: bytes =>
    if b = 0x25 then
      match hexByte high low with
      | some x => x :: percentDecode bytes
      | none => b :: percentDecode (high :: low :: bytes)
    else b :: percentDecode (high :: low :: bytes)
  | b :: bytes => b :: percentDecode bytes
  | [] => []

/-- Bytes of which some may be percent-encoded, but none that is a digit or `%`. -/
inductive Encodes : List ℕ → List ℕ → Prop where
  | nil : Encodes [] []
  | keep (b : ℕ) {xs bs : List ℕ} (h : Encodes xs bs) : Encodes (b :: xs) (b :: bs)
  | escape {b : ℕ} {xs bs : List ℕ} (hlt : b < 0x100) (hhex : hexValue b = none) (hne : b ≠ 0x25)
      (h : Encodes xs bs) :
      Encodes (0x25 :: hexDigit (b / 16) :: hexDigit (b % 16) :: xs) (b :: bs)

theorem hexValue_hexDigit {n : ℕ} (hn : n < 16) : hexValue (hexDigit n) = some n := by
  have hall : ∀ n < 16, hexValue (hexDigit n) = some n := by decide
  exact hall n hn

theorem percentDecode_cons_of_ne {b : ℕ} (hb : b ≠ 0x25) (bs : List ℕ) :
    percentDecode (b :: bs) = b :: percentDecode bs := by
  obtain - | ⟨high, - | ⟨low, bs⟩⟩ := bs
  · rfl
  · rfl
  · rw [percentDecode, if_neg hb]

theorem percentDecode_triplet {high low x : ℕ} (h : hexByte high low = some x) (bs : List ℕ) :
    percentDecode (0x25 :: high :: low :: bs) = x :: percentDecode bs := by
  rw [percentDecode, if_pos rfl, h]

/-- A `%` that two digits do not follow stays. -/
theorem percentDecode_percent {bs : List ℕ}
    (h : ∀ high low rest, bs = high :: low :: rest → hexByte high low = none) :
    percentDecode (0x25 :: bs) = 0x25 :: percentDecode bs := by
  obtain - | ⟨high, - | ⟨low, bs⟩⟩ := bs
  · rfl
  · rfl
  · rw [percentDecode, if_pos rfl, h high low bs rfl]

/-- What is encoded of a byte is decoded. -/
theorem hexByte_hexDigit {b : ℕ} (hb : b < 0x100) :
    hexByte (hexDigit (b / 16)) (hexDigit (b % 16)) = some b := by
  rw [hexByte, hexValue_hexDigit (by omega), hexValue_hexDigit (by omega)]
  show some (16 * (b / 16) + b % 16) = some b
  rw [Nat.div_add_mod]

theorem ne_none_of_hexByte {high low x : ℕ} (h : hexByte high low = some x) :
    hexValue high ≠ none ∧ hexValue low ≠ none := by
  unfold hexByte at h
  split at h
  · rename_i hhigh hlow
    rw [hhigh, hlow]
    exact ⟨Option.some_ne_none _, Option.some_ne_none _⟩
  · exact absurd h (Option.some_ne_none x).symm

/-- A digit at the beginning of what is encoded stands for itself. -/
theorem Encodes.of_hexValue {high : ℕ} {xs bs : List ℕ} (h : Encodes (high :: xs) bs)
    (hhigh : hexValue high ≠ none) : ∃ bs', bs = high :: bs' ∧ Encodes xs bs' := by
  cases h with
  | keep b h => exact ⟨_, rfl, h⟩
  | escape hlt hhex hne h => exact absurd (by decide) hhigh

/-- A digit at the beginning is not encoded. -/
theorem Encodes.to_hexValue {high : ℕ} {xs bs : List ℕ} (h : Encodes xs (high :: bs))
    (hhigh : hexValue high ≠ none) : ∃ xs', xs = high :: xs' ∧ Encodes xs' bs := by
  cases h with
  | keep b h => exact ⟨_, rfl, h⟩
  | escape hlt hhex hne h => exact absurd hhex hhigh

/-- Percent-decoding does not tell what has been encoded. -/
theorem Encodes.percentDecode_eq {xs bs : List ℕ} (h : Encodes xs bs) :
    percentDecode xs = percentDecode bs := by
  induction hn : bs.length using Nat.strong_induction_on generalizing xs bs with
  | _ n ih =>
  subst hn
  cases h with
  | nil => rfl
  | @escape b xs bs hlt hhex hne h =>
    rw [percentDecode_triplet (hexByte_hexDigit hlt), percentDecode_cons_of_ne hne,
      ih bs.length (Nat.lt_succ_self _) h rfl]
  | @keep b xs bs h =>
    have hrest := ih bs.length (Nat.lt_succ_self _) h rfl
    by_cases hb : b = 0x25
    · subst hb
      by_cases htriplet : ∃ high low rest x, xs = high :: low :: rest ∧ hexByte high low = some x
      · -- neither digit is encoded
        obtain ⟨high, low, rest, x, rfl, hx⟩ := htriplet
        obtain ⟨hhigh, hlow⟩ := ne_none_of_hexByte hx
        obtain ⟨bs, rfl, hlater⟩ := h.of_hexValue hhigh
        obtain ⟨bs, rfl, hlast⟩ := hlater.of_hexValue hlow
        rw [percentDecode_triplet hx, percentDecode_triplet hx,
          ih bs.length (by simp only [List.length_cons]; omega) hlast rfl]
      · have hxs : ∀ high low rest, xs = high :: low :: rest → hexByte high low = none := by
          intro high low rest heq
          by_contra hnot
          obtain ⟨x, hx⟩ := Option.ne_none_iff_exists'.1 hnot
          exact htriplet ⟨high, low, rest, x, heq, hx⟩
        have hbs : ∀ high low rest, bs = high :: low :: rest → hexByte high low = none := by
          intro high low rest heq
          by_contra hnot
          obtain ⟨x, hx⟩ := Option.ne_none_iff_exists'.1 hnot
          obtain ⟨hhigh, hlow⟩ := ne_none_of_hexByte hx
          rw [heq] at h
          obtain ⟨xs, rfl, hlater⟩ := h.to_hexValue hhigh
          obtain ⟨xs, rfl, hlast⟩ := hlater.to_hexValue hlow
          exact htriplet ⟨high, low, xs, x, rfl, hx⟩
        rw [percentDecode_percent hxs, percentDecode_percent hbs, hrest]
    · rw [percentDecode_cons_of_ne hb, percentDecode_cons_of_ne hb, hrest]

/-! ### Parameters -/

/-- A `+` is read as a space. -/
def plusToSpace (b : ℕ) : ℕ :=
  if b = 0x2B then 0x20 else b

/-- What a name or a value of a parameter stands for. -/
def formDecode (s : List Char) : List Char :=
  utf8Decode {} (percentDecode ((s.flatMap utf8).map plusToSpace))

/-- What is written as it is in a form: letters and digits, and `*`, `-`, `.` and `_`. -/
def isFormByte (b : ℕ) : Bool :=
  (0x30 ≤ b && b ≤ 0x39) || (0x41 ≤ b && b ≤ 0x5A) || (0x61 ≤ b && b ≤ 0x7A) ||
    b ∈ [0x2A, 0x2D, 0x2E, 0x5F]

/-- How a name or a value of a parameter is written. -/
def formEncode (s : List Char) : List Char :=
  s.flatMap fun c ↦ if c = ' ' then ['+'] else percentEncode (fun b ↦ !isFormByte b) [c]

/-- The name and the value of a piece of a query. An empty piece gives nothing, and a piece without
a `=` has the empty value. -/
def formPiece (piece : List Char) : List (List Char × List Char) :=
  if piece = [] then []
  else [(formDecode (piece.takeWhile (· ≠ '=')), formDecode ((piece.dropWhile (· ≠ '=')).drop 1))]

/-- The parameters of a query. -/
def formParse (query : List Char) : List (List Char × List Char) :=
  (query.splitOnP (· = '&')).flatMap formPiece

/-- The query with given parameters. -/
def formSerialize (params : List (List Char × List Char)) : List Char :=
  ['&'].intercalate (params.map fun p ↦ formEncode p.1 ++ '=' :: formEncode p.2)

/-- A set of bytes that leaves alone what decoding looks at, and has all that is not ASCII. -/
structure IsEncodeSet (inSet : ℕ → Bool) : Prop where
  hexValue_eq_none {b : ℕ} (hb : inSet b = true) : hexValue b = none
  ne_percent {b : ℕ} (hb : inSet b = true) : b ≠ 0x25
  ne_plus {b : ℕ} (hb : inSet b = true) : b ≠ 0x2B
  lt_of_notMem {b : ℕ} (hb : inSet b = false) : b < 0x80

theorem hexDigit_lt {n : ℕ} (hn : n < 16) : hexDigit n < 0x80 ∧ hexDigit n ≠ 0x2B := by
  unfold hexDigit
  split_ifs <;> omega

variable {inSet : ℕ → Bool}

theorem utf8_ofNat {b : ℕ} (hb : b < 0x80) : utf8 (Char.ofNat b) = [b] := by
  have hall : ∀ b < 0x80, (Char.ofNat b).toNat = b := by decide
  have htoNat := hall b hb
  rw [utf8, htoNat, utf8CodePoint, if_pos hb]

theorem utf8_percentEncodeByte (h : IsEncodeSet inSet) {b : ℕ} (hb : b < 0x100) :
    ((percentEncodeByte inSet b).map Char.ofNat).flatMap utf8 = percentEncodeByte inSet b := by
  have hall : ∀ bs : List ℕ, (∀ b ∈ bs, b < 0x80) → (bs.map Char.ofNat).flatMap utf8 = bs := by
    intro bs hbs
    induction bs with
    | nil => rfl
    | cons b bs ih =>
      rw [List.map_cons, List.flatMap_cons, utf8_ofNat (hbs b List.mem_cons_self),
        ih fun b hb ↦ hbs b (List.mem_cons_of_mem _ hb)]
      rfl
  refine hall _ fun d hd ↦ ?_
  unfold percentEncodeByte at hd
  split at hd
  · have hhigh := hexDigit_lt (n := b / 16) (by omega)
    have hlow := hexDigit_lt (n := b % 16) (by omega)
    simp only [List.mem_cons, List.not_mem_nil, or_false] at hd
    omega
  · rename_i hnot
    rw [List.mem_singleton.1 hd]
    exact h.lt_of_notMem (Bool.eq_false_iff.2 hnot)

/-- The bytes of what is encoded. -/
theorem utf8_percentEncode (h : IsEncodeSet inSet) (s : List Char) :
    (percentEncode inSet s).flatMap utf8 = (s.flatMap utf8).flatMap (percentEncodeByte inSet) := by
  have hbytes : ∀ bs : List ℕ, (∀ b ∈ bs, b < 0x100) →
      ((bs.flatMap (percentEncodeByte inSet)).map Char.ofNat).flatMap utf8 =
        bs.flatMap (percentEncodeByte inSet) := by
    intro bs hbs
    induction bs with
    | nil => rfl
    | cons b bs ih =>
      rw [List.flatMap_cons, List.map_append, List.flatMap_append,
        utf8_percentEncodeByte h (hbs b List.mem_cons_self),
        ih fun b hb ↦ hbs b (List.mem_cons_of_mem _ hb)]
  unfold percentEncode
  induction s with
  | nil => rfl
  | cons c s ih =>
    rw [List.flatMap_cons, List.flatMap_append, ih, hbytes _ fun b hb ↦ lt_of_mem_utf8 hb,
      List.flatMap_cons, List.flatMap_append]

theorem encodes_percentEncodeByte (h : IsEncodeSet inSet) {bs : List ℕ}
    (hbs : ∀ b ∈ bs, b < 0x100) :
    Encodes ((bs.flatMap (percentEncodeByte inSet)).map plusToSpace) (bs.map plusToSpace) := by
  induction bs with
  | nil => exact .nil
  | cons b bs ih =>
    have hb := hbs b List.mem_cons_self
    have hrest := ih fun b hb ↦ hbs b (List.mem_cons_of_mem _ hb)
    rw [List.flatMap_cons, List.map_append, List.map_cons]
    unfold percentEncodeByte
    split
    · rename_i hmem
      have hsame {n : ℕ} (hn : n ≠ 0x2B) : plusToSpace n = n := if_neg hn
      rw [List.map_cons, List.map_cons, List.map_cons, List.map_nil, hsame (by decide),
        hsame (hexDigit_lt (by omega)).2, hsame (hexDigit_lt (by omega)).2, hsame (h.ne_plus hmem)]
      exact .escape hb (h.hexValue_eq_none hmem) (h.ne_percent hmem) hrest
    · exact .keep _ hrest

/-- **Encoding makes no difference to what a name or a value stands for.** -/
theorem formDecode_percentEncode (h : IsEncodeSet inSet) (s : List Char) :
    formDecode (percentEncode inSet s) = formDecode s := by
  have hbytes : ∀ b ∈ s.flatMap utf8, b < 0x100 := by
    intro b hb
    obtain ⟨c, -, hc⟩ := List.mem_flatMap.1 hb
    exact lt_of_mem_utf8 hc
  rw [formDecode, utf8_percentEncode h, (encodes_percentEncodeByte h hbytes).percentDecode_eq,
    formDecode]

/-- The name of a parameter is what is before the `=`. -/
theorem formPiece_named {name : List Char} (hname : '=' ∉ name) (value : List Char) :
    formPiece (name ++ '=' :: value) = [(formDecode name, formDecode value)] := by
  have hall : ∀ d ∈ name, decide (d ≠ '=') = true := fun d hd ↦
    decide_eq_true fun heq ↦ hname (heq ▸ hd)
  rw [formPiece, if_neg (by simp), List.takeWhile_append_of_pos hall,
    List.takeWhile_cons_of_neg (by simp), List.dropWhile_append_of_pos hall,
    List.dropWhile_cons_of_neg (by simp), List.append_nil]
  rfl

end Url
