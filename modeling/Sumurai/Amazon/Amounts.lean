import Sumurai.Amazon.Syncer
import Sumurai.Foundations.DecimalText
import Sumurai.Foundations.PythonValues
import Sumurai.Foundations.Regex

/-!
# The amounts of an order

`extract_amounts` of `syncer.py`: three regular expressions are searched for in the text of the mail
and its HTML, and the numbers they find are collected, each once.

A labelled total is a place of the text: a label, colons and spaces with a dollar sign or without,
and a number (`Place`). The expressions read exactly the places whose number is written in digits
with two decimals (`mem_extractAmounts`); none of them stops a search from finding another. They
read no thousands separator, and a number that goes on after two decimals is cut off there. So the
amounts are those of the labelled totals exactly if what is not read is also written in another way,
and what is cut off is a labelled total of its own (`extractAmounts_iff`).
-/

namespace Sumurai

open Python

/-! ### The expressions -/

/-- `[0-9]`. -/
def isAsciiDigit (c : ℕ) : Bool :=
  0x30 ≤ c && c ≤ 0x39

/-- `[:\s]`. -/
def isColonOrSpace (c : ℕ) : Bool :=
  c = ':'.toNat || isSpace c

/-- What is a word to `\b`: ASCII letters, digits and `_`, and the letters and digits of `isAlnum`
beyond ASCII. -/
def isWord (isAlnum : ℕ → Bool) (c : ℕ) : Bool :=
  if c < 128 then
    isAsciiDigit c || (0x41 ≤ c && c ≤ 0x5A) || (0x61 ≤ c && c ≤ 0x7A) || c = '_'.toNat
  else isAlnum c

/-- What a character is to ASCII characters under `re.IGNORECASE`: the Kelvin sign is a `k`, the two
Turkish letters are an `i` and the long s is an `s`. -/
def foldCase (c : ℕ) : ℕ :=
  if 0x41 ≤ c ∧ c ≤ 0x5A then c + 0x20
  else if c = 0x212A then 'k'.toNat
  else if c = 0x130 ∨ c = 0x131 then 'i'.toNat
  else if c = 0x17F then 's'.toNat
  else c

/-- A text under `re.IGNORECASE`. -/
def caseless (s : String) : Regex ℕ :=
  .chars ((text s).map fun a c ↦ foldCase c = foldCase a)

/-- `[0-9]+\.[0-9]{2}`. -/
def amountNumber : Regex ℕ :=
  .seqs [.run isAsciiDigit 1 none, .char (· = '.'.toNat), .run isAsciiDigit 2 (some 2)]

/-- `[:\s]*\$?\s*`. -/
def looseGap : Regex ℕ :=
  .seqs [.run isColonOrSpace 0 none, .run (· = '$'.toNat) 0 (some 1), .run isSpace 0 none]

/-- `[:\s]+\$`. -/
def strictGap : Regex ℕ :=
  .seqs [.run isColonOrSpace 1 none, .char (· = '$'.toNat)]

/-- A label, a gap and a number, which is the group. -/
def labelled (labels : List String) (gap ending : Regex ℕ) : Regex ℕ :=
  .seq (.alts (labels.map caseless)) (.seq gap (.seq (.group amountNumber) ending))

/-- The labels of the first expression. -/
def chargeLabels : List String :=
  ["Shipment total", "Shipment Total", "Order total", "Order Total", "Charged to", "Total charged",
    "Grand Total"]

/-- The labels of the second expression. -/
def shipmentLabels : List String :=
  ["Total for this shipment", "Total for This Shipment"]

/-- The label of the third expression. -/
def fallbackLabels : List String :=
  ["Total"]

/-- `patterns`. -/
def amountPatterns (isAlnum : ℕ → Bool) : List (Regex ℕ) :=
  [labelled chargeLabels looseGap .empty, labelled shipmentLabels looseGap .empty,
    labelled fallbackLabels strictGap (.boundary (isWord isAlnum))]

/-! ### The amounts -/

/-- `(text_body + "\n" + html_body).replace("&nbsp;", " ")`. -/
def combinedText (htmlBody textBody : Text) : Text :=
  (Regex.chars ((text "&nbsp;").map fun a c ↦ decide (c = a))).replaceAll (text " ")
    (textBody ++ text "\n" ++ htmlBody)

/-- The number that digits stand for. -/
def digitsValue (s : Text) : ℕ :=
  Nat.ofDigitChars 10 (s.map Char.ofNat) 0

/-- `Decimal(m)`, for a text with two decimals. -/
def readDecimal (m : Text) : Decimal :=
  digitsValue (m.filter fun c ↦ c ≠ '.'.toNat)

/-- The body of the inner loop. -/
def addAmount (amounts : List Decimal) (m : Text) : List Decimal :=
  let val := readDecimal m
  if 0 < val ∧ val ∉ amounts then amounts ++ [val] else amounts

/-- `re.findall`, for an expression with one group. -/
def findGroups (pat : Regex ℕ) (combined : Text) : List Text :=
  (pat.findAll combined).map fun m ↦ m.groups.headD []

/-- `extract_amounts`. -/
def extractAmounts (isAlnum : ℕ → Bool) (htmlBody textBody : Text) : List Decimal :=
  (amountPatterns isAlnum).foldl
    (fun amounts pat ↦ (findGroups pat (combinedText htmlBody textBody)).foldl addAmount amounts) []

example : extractAmounts (fun _ ↦ false) (text "<b>Total: $7.10</b>")
    (text "ORDER TOTAL&nbsp;$&nbsp;99.10") = [9910, 710] := by
  decide +kernel

/-! ### Labelled totals -/

/-- One of the labels, in upper or lower case. -/
def IsLabel (labels : List String) (s : Text) : Prop :=
  s.map foldCase ∈ labels.map fun label ↦ (text label).map foldCase

instance (labels : List String) (s : Text) : Decidable (IsLabel labels s) :=
  inferInstanceAs (Decidable (_ ∈ _))

/-- Colons and spaces, a dollar sign or none, and spaces. -/
def IsLooseGap (s : Text) : Prop :=
  ∃ a b c, s = a ++ (b ++ c) ∧ (∀ x ∈ a, isColonOrSpace x) ∧ (b = [] ∨ b = ['$'.toNat]) ∧
    ∀ x ∈ c, isSpace x

/-- At least one colon or space, and a dollar sign. -/
def IsStrictGap (s : Text) : Prop :=
  ∃ a, s = a ++ ['$'.toNat] ∧ a ≠ [] ∧ ∀ x ∈ a, isColonOrSpace x

/-- Colons and spaces, a dollar sign, and spaces. -/
def IsDollarGap (s : Text) : Prop :=
  ∃ a c, s = a ++ '$'.toNat :: c ∧ (∀ x ∈ a, isColonOrSpace x) ∧ ∀ x ∈ c, isSpace x

/-- A number in digits with two decimals. -/
def IsPlainNumber (s : Text) (v : ℕ) : Prop :=
  ∃ whole cents, s = whole ++ '.'.toNat :: cents ∧ whole ≠ [] ∧ cents.length = 2 ∧
    (∀ d ∈ whole ++ cents, isAsciiDigit d) ∧ v = digitsValue (whole ++ cents)

/-- Digits with a comma before every three that are left. -/
def commas : List Char → List Char
  | [] => []
  | d :: ds => if ds ≠ [] ∧ ds.length % 3 = 0 then d :: ',' :: commas ds else d :: commas ds

/-- A number of cents in US format. -/
def usAmount (n : ℕ) : Text :=
  (commas (Nat.toDigits 10 (n / 100)) ++ '.' :: Text.padded 2 (n % 100)).map Char.toNat

example : usAmount 123456789 = text "1,234,567.89" := by decide +kernel

/-- A number goes on: with a digit, or with a point or a comma and a digit. -/
def goesOn : Text → Bool
  | [] => false
  | c :: after =>
    isAsciiDigit c || ((c = '.'.toNat || c = ','.toNat) && after.head?.any isAsciiDigit)

/-- A place of a text where there may be a labelled total. -/
structure Place (t : Text) where
  before : Text
  label : Text
  gap : Text
  number : Text
  after : Text
  eq : t = before ++ (label ++ (gap ++ (number ++ after)))

namespace Place

variable {t : Text}

/-- An amount in US format, after one of the labels and a dollar sign. -/
def IsWritten (p : Place t) (n : ℕ) : Prop :=
  0 < n ∧ IsLabel (chargeLabels ++ shipmentLabels ++ fallbackLabels) p.label ∧ IsDollarGap p.gap ∧
    p.number = usAmount n ∧ goesOn p.after = false

/-- The full amount of a labelled total. -/
def IsFull (p : Place t) (v : ℕ) : Prop :=
  IsLabel (chargeLabels ++ shipmentLabels ++ fallbackLabels) p.label ∧ IsLooseGap p.gap ∧
    (IsPlainNumber p.number v ∨ p.number = usAmount v) ∧ goesOn p.after = false

/-- `Total`, a gap and what follows the number as the third expression has them. -/
def IsStrict (isAlnum : ℕ → Bool) (p : Place t) : Prop :=
  IsLabel fallbackLabels p.label ∧ IsStrictGap p.gap ∧ p.after.head?.any (isWord isAlnum) = false

/-- A number that one of the expressions reads, whether it goes on or not. -/
def IsRead (isAlnum : ℕ → Bool) (p : Place t) (v : ℕ) : Prop :=
  IsPlainNumber p.number v ∧
    (IsLabel (chargeLabels ++ shipmentLabels) p.label ∧ IsLooseGap p.gap ∨ p.IsStrict isAlnum)

/-- A written amount that no expression reads at its place: it has a thousands separator, or it
follows `Total` in another way than the third expression has it. -/
def IsMissed (isAlnum : ℕ → Bool) (p : Place t) (n : ℕ) : Prop :=
  p.IsWritten n ∧ (100000 ≤ n ∨ IsLabel fallbackLabels p.label ∧ ¬p.IsStrict isAlnum)

end Place

/-- The amounts are those of the labelled totals of a text. -/
structure AreTotals (t : Text) (amounts : List Decimal) : Prop where
  complete : ∀ (p : Place t) (n : ℕ), p.IsWritten n → (n : Decimal) ∈ amounts
  sound : ∀ v ∈ amounts, ∃ (p : Place t) (n : ℕ), p.IsFull n ∧ v = n
  nodup : amounts.Nodup

/-- Whatever is missed at one place is read at another one, and whatever is read and goes on is also
the full amount of a labelled total. -/
structure IsRegular (isAlnum : ℕ → Bool) (t : Text) : Prop where
  missed : ∀ (p : Place t) (n : ℕ), p.IsMissed isAlnum n → ∃ q : Place t, q.IsRead isAlnum n
  cut : ∀ (p : Place t) (n : ℕ), p.IsRead isAlnum n → 0 < n → goesOn p.after = true →
    ∃ q : Place t, q.IsFull n

/-! ### What the expressions match -/

theorem lang_labels {labels : List String} {s : Text} :
    (Regex.alts (labels.map caseless)).Lang s ↔ IsLabel labels s := by
  have hcaseless (label : String) :
      (caseless label).Lang s ↔ (text label).map foldCase = s.map foldCase := by
    rw [caseless, Regex.lang_chars, List.forall₂_map_left_iff, ← List.forall₂_eq_eq_eq,
      List.forall₂_map_left_iff, List.forall₂_map_right_iff]
    simp only [decide_eq_true_eq]
    exact ⟨fun h ↦ h.imp fun _ _ ↦ Eq.symm, fun h ↦ h.imp fun _ _ ↦ Eq.symm⟩
  rw [Regex.lang_alts, IsLabel, List.mem_map]
  constructor
  · rintro ⟨r, hr, hlang⟩
    obtain ⟨label, hlabel, rfl⟩ := List.mem_map.1 hr
    exact ⟨label, hlabel, (hcaseless label).1 hlang⟩
  · rintro ⟨label, hlabel, heq⟩
    exact ⟨caseless label, List.mem_map_of_mem hlabel, (hcaseless label).2 heq⟩

theorem lang_looseGap {s : Text} : looseGap.Lang s ↔ IsLooseGap s := by
  constructor
  · rintro ⟨a, -, rfl, ⟨ha, -⟩, b, -, rfl, ⟨hb, -, hone⟩, c, -, rfl, ⟨hc, -⟩, rfl⟩
    refine ⟨a, b, c ++ [], rfl, ha, ?_, by rw [List.append_nil]; exact hc⟩
    obtain - | ⟨x, - | ⟨y, b⟩⟩ := b
    · exact .inl rfl
    · exact .inr (congrArg (· :: []) (of_decide_eq_true (hb x List.mem_cons_self)))
    · exact absurd (hone 1 rfl) (by simp only [List.length_cons]; omega)
  · rintro ⟨a, b, c, rfl, ha, hb, hc⟩
    refine ⟨a, b ++ c, rfl, ⟨ha, Nat.zero_le _, nofun⟩, b, c, rfl, ?_, c, [],
      (List.append_nil c).symm, ⟨hc, Nat.zero_le _, nofun⟩, rfl⟩
    obtain rfl | rfl := hb
    · exact ⟨nofun, Nat.zero_le _, fun _ _ ↦ Nat.zero_le _⟩
    · exact ⟨by decide, Nat.zero_le _, fun n hn ↦ Nat.le_of_eq (Option.some.inj hn)⟩

theorem lang_strictGap {s : Text} : strictGap.Lang s ↔ IsStrictGap s := by
  constructor
  · rintro ⟨a, -, rfl, ⟨ha, hone, -⟩, b, -, rfl, hb, rfl⟩
    obtain ⟨x, rfl, hx⟩ := Regex.lang_char.1 hb
    obtain rfl := of_decide_eq_true hx
    exact ⟨a, rfl, List.ne_nil_of_length_pos hone, ha⟩
  · rintro ⟨a, rfl, hne, ha⟩
    exact ⟨a, _, rfl, ⟨ha, List.length_pos_of_ne_nil hne, nofun⟩, _, [], rfl,
      Regex.lang_char.2 ⟨_, rfl, by decide⟩, rfl⟩

theorem lang_amountNumber {s : Text} : amountNumber.Lang s ↔ ∃ v, IsPlainNumber s v := by
  constructor
  · rintro ⟨whole, -, rfl, ⟨hwhole, hone, -⟩, b, -, rfl, hb, cents, -, rfl, ⟨hcents, hle, hge⟩, rfl⟩
    obtain ⟨x, rfl, hx⟩ := Regex.lang_char.1 hb
    obtain rfl := of_decide_eq_true hx
    rw [List.append_nil]
    exact ⟨_, whole, cents, rfl, List.ne_nil_of_length_pos hone, Nat.le_antisymm (hge 2 rfl) hle,
      List.forall_mem_append.2 ⟨hwhole, hcents⟩, rfl⟩
  · rintro ⟨v, whole, cents, rfl, hne, hlength, hdigits, -⟩
    obtain ⟨hwhole, hcents⟩ := List.forall_mem_append.1 hdigits
    exact ⟨whole, _, rfl, ⟨hwhole, List.length_pos_of_ne_nil hne, nofun⟩, ['.'.toNat], cents, rfl,
      Regex.lang_char.2 ⟨_, rfl, by decide⟩, cents, [], (List.append_nil cents).symm,
      ⟨hcents, hlength.ge, fun n hn ↦ (hlength.trans (Option.some.inj hn)).le⟩, rfl⟩

theorem IsPlainNumber.ne_nil {s : Text} {v : ℕ} (h : IsPlainNumber s v) : s ≠ [] := by
  obtain ⟨whole, cents, rfl, -⟩ := h
  exact List.append_ne_nil_of_right_ne_nil _ (List.cons_ne_nil _ _)

/-- Where an expression matches there is a labelled number, which it reads. -/
theorem mem_ways_labelled {labels : List String} {gap ending : Regex ℕ} (hgap : gap.IsPlain)
    (hending : ∀ prev s, ∀ m ∈ ending.ways prev s, m = ⟨[], []⟩) {prev : Option ℕ} {s : Text}
    {m : Regex.Match ℕ} : m ∈ (labelled labels gap ending).ways prev s ↔
      ∃ label g number after, s = label ++ (g ++ (number ++ after)) ∧ IsLabel labels label ∧
        gap.Lang g ∧ (∃ v, IsPlainNumber number v) ∧
        ⟨[], []⟩ ∈ ending.ways number.getLast? after ∧
        m = ⟨label ++ (g ++ number), [number]⟩ := by
  have hlabels : (Regex.alts (labels.map caseless)).IsPlain := by
    refine Regex.isPlain_alts fun r hr ↦ ?_
    obtain ⟨label, -, rfl⟩ := List.mem_map.1 hr
    exact Regex.isPlain_chars _
  have hnumber : amountNumber.IsPlain := ⟨trivial, trivial, trivial, trivial⟩
  have hlast {number : Text} (hne : number ≠ []) (prev : Option ℕ) :
      number.getLast?.or prev = number.getLast? := by
    rw [List.getLast?_eq_some_getLast hne, Option.some_or]
  constructor
  · intro h
    obtain ⟨m₁, later, s₁, rfl, h₁, hlater, rfl⟩ := Regex.mem_ways_seq.1 h
    obtain ⟨m₂, rest, s₂, rfl, h₂, hrest, rfl⟩ := Regex.mem_ways_seq.1 hlater
    obtain ⟨m₃, m₄, s₃, rfl, h₃, h₄, rfl⟩ := Regex.mem_ways_seq.1 hrest
    obtain ⟨hgroups₁, -, hlang₁⟩ := hlabels.mem_ways_iff.1 h₁
    obtain ⟨hgroups₂, -, hlang₂⟩ := hgap.mem_ways_iff.1 h₂
    obtain ⟨hgroups₃, -, hlang₃⟩ := hnumber.mem_ways_group_iff.1 h₃
    obtain rfl := hending _ _ m₄ h₄
    obtain ⟨v, hv⟩ := lang_amountNumber.1 hlang₃
    rw [hlast hv.ne_nil] at h₄
    refine ⟨m₁.text, m₂.text, m₃.text, s₃, rfl, lang_labels.1 hlang₁, hlang₂, ⟨v, hv⟩, h₄, ?_⟩
    rw [hgroups₁, hgroups₂, hgroups₃, List.append_nil]
    rfl
  · rintro ⟨label, g, number, after, rfl, hlabel, hg, ⟨v, hv⟩, hend, rfl⟩
    refine Regex.mem_ways_seq.2 ⟨⟨label, []⟩, ⟨g ++ number, [number]⟩, _, rfl,
      hlabels.mem_ways_iff.2 ⟨rfl, List.prefix_append _ _, lang_labels.2 hlabel⟩, ?_, rfl⟩
    refine Regex.mem_ways_seq.2 ⟨⟨g, []⟩, ⟨number, [number]⟩, _, rfl,
      hgap.mem_ways_iff.2 ⟨rfl, List.prefix_append _ _, hg⟩, ?_, rfl⟩
    refine Regex.mem_ways_seq.2 ⟨⟨number, [number]⟩, ⟨[], []⟩, after, rfl,
      hnumber.mem_ways_group_iff.2 ⟨rfl, List.prefix_append _ _, lang_amountNumber.2 ⟨v, hv⟩⟩,
      ?_, ?_⟩
    · rw [hlast hv.ne_nil]
      exact hend
    · rw [List.append_nil, List.append_nil]

/-! ### Labels, gaps and numbers apart -/

/-- `a` to `z`. -/
def isLower (c : ℕ) : Bool :=
  0x61 ≤ c && c ≤ 0x7A

/-- Labels are words of letters, and none is found within another one. -/
def AreApart (labels : List String) : Prop :=
  ∀ label ∈ labels.map fun l ↦ (text l).map foldCase,
    (∀ x ∈ label, isLower x ∨ x = ' '.toNat) ∧ label.head?.any isLower ∧
    label.getLast?.any isLower ∧
    ∀ label' ∈ labels.map fun l ↦ (text l).map foldCase, ∀ k < label.length, 0 < k →
      ¬label' <+: label.drop k

instance (labels : List String) : Decidable (AreApart labels) :=
  inferInstanceAs (Decidable (∀ label ∈ labels.map fun l ↦ (text l).map foldCase, _))

/-- What is in gaps and numbers. -/
def isGapChar (c : ℕ) : Bool :=
  isColonOrSpace c || c = '$'.toNat

theorem isAsciiDigit_iff {c : ℕ} : isAsciiDigit c = true ↔ 0x30 ≤ c ∧ c ≤ 0x39 := by
  simp [isAsciiDigit]

theorem foldCase_eq_self {c : ℕ} (h : c < 0x41 ∨ 0x5A < c ∧ c < 0x130) : foldCase c = c := by
  rw [foldCase, if_neg (by omega), if_neg (by omega), if_neg (by omega), if_neg (by omega)]

theorem foldCase_of_isGapChar {c : ℕ} (h : isGapChar c = true) :
    isAsciiDigit c = false ∧ isLower (foldCase c) = false := by
  have hcolon : ∀ c ∈ [':'.toNat, '$'.toNat], isAsciiDigit c = false ∧
      isLower (foldCase c) = false := by decide
  have hspace : ∀ c ∈ [0x09, 0x0A, 0x0B, 0x0C, 0x0D, 0x1C, 0x1D, 0x1E, 0x1F, 0x20, 0x85, 0xA0,
      0x1680, 0x2028, 0x2029, 0x202F, 0x205F, 0x3000], isAsciiDigit c = false ∧
      isLower (foldCase c) = false := by decide
  have hrange : ∀ c < 0x200B, 0x2000 ≤ c → isAsciiDigit c = false ∧
      isLower (foldCase c) = false := by
    intro c hlt hle
    have hfold : foldCase c = c := by
      rw [foldCase, if_neg (by omega), if_neg (by omega), if_neg (by omega), if_neg (by omega)]
    rw [hfold]
    simp only [isAsciiDigit, isLower, Bool.and_eq_false_iff, decide_eq_false_iff_not]
    omega
  simp only [isGapChar, isColonOrSpace, isSpace, Bool.or_eq_true, Bool.and_eq_true,
    decide_eq_true_eq] at h
  obtain (heq | hmem | ⟨hle, hge⟩) | heq := h
  · exact hcolon c (heq ▸ List.mem_cons_self)
  · exact hspace c hmem
  · exact hrange c (by omega) hle
  · exact hcolon c (heq ▸ List.mem_cons_of_mem _ List.mem_cons_self)

variable {labels : List String}

theorem isAsciiDigit_of_mem_label (hapart : AreApart labels) {label : Text}
    (hlabel : IsLabel labels label) {c : ℕ} (hc : c ∈ label) : isAsciiDigit c = false := by
  have hword := (hapart _ hlabel).1 (foldCase c) (List.mem_map_of_mem hc)
  refine Bool.eq_false_iff.2 fun hdigit ↦ ?_
  rw [isAsciiDigit_iff] at hdigit
  rw [foldCase_eq_self (by omega)] at hword
  simp only [isLower, Bool.and_eq_true, decide_eq_true_eq] at hword
  have hspace : ' '.toNat = 0x20 := rfl
  omega

/-- The number begins with the first digit. -/
theorem dropWhile_label (hapart : AreApart labels) {label g number : Text} {v : ℕ}
    (hlabel : IsLabel labels label) (hg : ∀ c ∈ g, isGapChar c) (hnumber : IsPlainNumber number v)
    (after : Text) : (label ++ (g ++ (number ++ after))).dropWhile (fun c ↦ !isAsciiDigit c) =
      number ++ after := by
  have hlabel' : ∀ c ∈ label, (!isAsciiDigit c) = true := fun c hc ↦ by
    rw [isAsciiDigit_of_mem_label hapart hlabel hc]
    rfl
  have hg' : ∀ c ∈ g, (!isAsciiDigit c) = true := fun c hc ↦ by
    rw [(foldCase_of_isGapChar (hg c hc)).1]
    rfl
  rw [List.dropWhile_append_of_pos hlabel', List.dropWhile_append_of_pos hg']
  obtain ⟨whole, cents, rfl, hne, -, hdigits, -⟩ := hnumber
  obtain ⟨d, ds, rfl⟩ := List.exists_cons_of_ne_nil hne
  have hd : isAsciiDigit d = true := hdigits d List.mem_cons_self
  rw [List.cons_append, List.cons_append, List.dropWhile_cons_of_neg (by rw [hd]; decide)]

/-- The digits before the point and two of those after it are the number. -/
theorem IsPlainNumber.eq_of_append_eq {number number' after after' : Text} {v v' : ℕ}
    (h : IsPlainNumber number v) (h' : IsPlainNumber number' v')
    (heq : number ++ after = number' ++ after') : number = number' := by
  obtain ⟨whole, cents, rfl, -, hlength, hdigits, -⟩ := h
  obtain ⟨whole', cents', rfl, -, hlength', hdigits', -⟩ := h'
  have htake {whole cents : Text} (hdigits : ∀ d ∈ whole ++ cents, isAsciiDigit d) (after : Text) :
      ((whole ++ '.'.toNat :: cents) ++ after).takeWhile isAsciiDigit = whole := by
    rw [List.append_assoc, List.takeWhile_append_of_pos (List.forall_mem_append.1 hdigits).1,
      List.cons_append, List.takeWhile_cons_of_neg (by decide), List.append_nil]
  have hwhole : whole = whole' := by
    rw [← htake hdigits after, heq, htake hdigits' after']
  subst hwhole
  rw [List.append_assoc, List.append_assoc, List.append_cancel_left_eq, List.cons_append,
    List.cons_append, List.cons.injEq] at heq
  rw [List.append_inj_left heq.2 (hlength.trans hlength'.symm)]

/-! ### What is found -/

section Found

variable {gap ending : Regex ℕ}

theorem foldCase_of_mem_number {number : Text} {v : ℕ} (h : IsPlainNumber number v) {c : ℕ}
    (hc : c ∈ number) : isLower (foldCase c) = false := by
  obtain ⟨whole, cents, rfl, -, -, hdigits, -⟩ := h
  have hlow : c < 0x41 := by
    obtain hc | hc := List.mem_append.1 hc
    · have hdigit := isAsciiDigit_iff.1 (hdigits c (List.mem_append_left _ hc))
      omega
    · obtain rfl | hc := List.mem_cons.1 hc
      · decide
      · have hdigit := isAsciiDigit_iff.1 (hdigits c (List.mem_append_right _ hc))
        omega
  rw [foldCase_eq_self (Or.inl hlow), isLower, Bool.and_eq_false_iff, decide_eq_false_iff_not]
  omega

/-- A label does not begin within another one, which a point but no letter follows. -/
theorem not_prefix_of_label (hapart : AreApart labels) {label label' before rest tail : Text}
    (hlabel : IsLabel labels label) (hlabel' : IsLabel labels label') (hbefore : before ≠ [])
    (hsplit : before ++ rest = label) (hletter : ∀ c ∈ tail, isLower (foldCase c) = false)
    (hpoint : '.'.toNat ∈ tail) (after : Text) : ¬label' <+: rest ++ (tail ++ after) := by
  intro hprefix
  obtain ⟨hwords', hhead, hlast, -⟩ := hapart _ hlabel'
  by_cases hwithin : label' <+: rest
  · -- it would be found within the other one
    have hne : label' ≠ [] := by
      rintro rfl
      exact absurd hhead (by decide)
    have hdrop : (label.map foldCase).drop before.length = rest.map foldCase := by
      rw [← hsplit, List.map_append, List.drop_left' (List.length_map _)]
    refine (hapart _ hlabel).2.2.2 _ hlabel' before.length ?_
      (List.length_pos_of_ne_nil hbefore) (hdrop ▸ hwithin.map foldCase)
    have hle := hwithin.length_le
    have hpos := List.length_pos_of_ne_nil hne
    rw [List.length_map, ← hsplit, List.length_append]
    omega
  · -- it would go on in what follows
    obtain ⟨letters, rfl⟩ :=
      (List.prefix_or_prefix_of_prefix hprefix (List.prefix_append rest _)).resolve_left hwithin
    have hne : letters ≠ [] := by
      rintro rfl
      exact hwithin (by simp)
    obtain hshort | hlong := List.prefix_or_prefix_of_prefix
      ((List.prefix_append_right_inj rest).1 hprefix) (List.prefix_append tail after)
    · have hlower : isLower (foldCase (letters.getLast hne)) = true := by
        rw [List.getLast?_map, List.getLast?_append_of_ne_nil _ hne,
          List.getLast?_eq_some_getLast hne] at hlast
        exact hlast
      rw [hletter _ (hshort.subset (List.getLast_mem hne))] at hlower
      exact Bool.false_ne_true hlower
    · have hword := hwords' _
        (List.mem_map_of_mem (List.mem_append_right rest (hlong.subset hpoint)))
      exact absurd hword (by decide)

/-- No labelled number begins within another one. -/
theorem apart_labelled (hapart : AreApart labels) (hgap : gap.IsPlain)
    (hchars : ∀ g, gap.Lang g → ∀ c ∈ g, isGapChar c)
    (hending : ∀ prev s, ∀ m ∈ ending.ways prev s, m = ⟨[], []⟩) :
    (labelled labels gap ending).Apart := by
  intro prev prev' before rest after m m' hbefore hrest hm htext hm'
  obtain ⟨label, g, number, -, -, hlabel, hg, ⟨v, hv⟩, -, rfl⟩ :=
    (mem_ways_labelled hgap hending).1 hm
  obtain ⟨label', g', number', after', hsplit', hlabel', -⟩ :=
    (mem_ways_labelled hgap hending).1 hm'
  -- nothing after the first label is a letter, and the point is there
  have hletter : ∀ c ∈ g ++ number, isLower (foldCase c) = false := fun c hc ↦
    (List.mem_append.1 hc).elim (fun hc ↦ (foldCase_of_isGapChar (hchars g hg c hc)).2)
      (foldCase_of_mem_number hv)
  have hpoint : '.'.toNat ∈ g ++ number := by
    obtain ⟨whole, cents, rfl, -⟩ := hv
    exact List.mem_append_right _ (List.mem_append_right _ List.mem_cons_self)
  have hprefix' : label' <+: rest ++ after := ⟨_, hsplit'.symm⟩
  obtain ⟨between, rfl⟩ | ⟨within, hwithin⟩ :=
    List.prefix_or_prefix_of_prefix (List.prefix_append label (g ++ number)) ⟨rest, htext.symm⟩
  · -- the second label would begin after the first one
    rw [List.append_assoc, List.append_cancel_left_eq] at htext
    obtain ⟨c, rest, rfl⟩ := List.exists_cons_of_ne_nil hrest
    have hc : isLower (foldCase c) = false :=
      hletter c (htext ▸ List.mem_append_right _ List.mem_cons_self)
    have hhead := (hapart _ hlabel').2.1
    obtain - | ⟨d, label'⟩ := label'
    · exact absurd hhead (by decide)
    · obtain rfl := (List.cons_prefix_cons.1 hprefix').1
      exact absurd (hc.symm.trans hhead) Bool.false_ne_true
  · -- the second label would begin within the first one
    have hrest' : rest = within ++ (g ++ number) := by
      rw [← hwithin, List.append_assoc, List.append_cancel_left_eq] at htext
      exact htext.symm
    rw [hrest', List.append_assoc] at hprefix'
    exact not_prefix_of_label hapart hlabel hlabel' hbefore hwithin hletter hpoint after hprefix'

/-- **The search finds the labelled numbers**, all of them. -/
theorem mem_findGroups (hapart : AreApart labels) (hgap : gap.IsPlain)
    (hchars : ∀ g, gap.Lang g → ∀ c ∈ g, isGapChar c)
    (hending : ∀ prev s, ∀ m ∈ ending.ways prev s, m = ⟨[], []⟩) {t number : Text} :
    number ∈ findGroups (labelled labels gap ending) t ↔
      ∃ p : Place t, p.number = number ∧ IsLabel labels p.label ∧ gap.Lang p.gap ∧
        (∃ v, IsPlainNumber number v) ∧ ⟨[], []⟩ ∈ ending.ways number.getLast? p.after := by
  rw [findGroups, List.mem_map]
  constructor
  · rintro ⟨m, hm, rfl⟩
    obtain ⟨before, rest, rfl, hat⟩ := Regex.exists_of_mem_findAll hm
    obtain ⟨label, g, number, after, rfl, hlabel, hg, hnumber, hend, rfl⟩ :=
      (mem_ways_labelled hgap hending).1 (Regex.mem_ways_of_first hat)
    exact ⟨⟨before, label, g, number, after, rfl⟩, rfl, hlabel, hg, hnumber, hend⟩
  · rintro ⟨⟨before, label, g, number, after, rfl⟩, rfl, hlabel, hg, ⟨v, hv⟩, hend⟩
    have hways : ⟨label ++ (g ++ number), [number]⟩ ∈ (labelled labels gap ending).ways
        (before.getLast?.or none) (label ++ (g ++ (number ++ after))) :=
      (mem_ways_labelled hgap hending).2
        ⟨label, g, number, after, rfl, hlabel, hg, ⟨v, hv⟩, hend, rfl⟩
    obtain ⟨m, hfirst⟩ := Regex.exists_first hways
    obtain ⟨label', g', number', after', hsplit, hlabel', hg', ⟨v', hv'⟩, -, rfl⟩ :=
      (mem_ways_labelled hgap hending).1 (Regex.mem_ways_of_first hfirst)
    have hne : label ++ (g ++ (number ++ after)) ≠ [] :=
      List.append_ne_nil_of_right_ne_nil _ (List.append_ne_nil_of_right_ne_nil _
        (List.append_ne_nil_of_left_ne_nil hv.ne_nil _))
    -- the first way reads the same number
    have heq : number' ++ after' = number ++ after := by
      rw [← dropWhile_label hapart hlabel (hchars g hg) hv after,
        ← dropWhile_label hapart hlabel' (hchars g' hg') hv' after']
      exact congrArg _ hsplit.symm
    exact ⟨_, Regex.mem_findAll (apart_labelled hapart hgap hchars hending) hfirst hne,
      hv'.eq_of_append_eq hv heq⟩

end Found

/-! ### The loop -/

/-- What is found is collected once, if it is positive. -/
theorem mem_foldl_addAmount {groups : List Text} {amounts : List Decimal} {v : Decimal} :
    v ∈ groups.foldl addAmount amounts ↔ v ∈ amounts ∨ 0 < v ∧ ∃ m ∈ groups, readDecimal m = v := by
  induction groups generalizing amounts with
  | nil => simp
  | cons m groups ih =>
    have hstep : v ∈ addAmount amounts m ↔ v ∈ amounts ∨ 0 < v ∧ readDecimal m = v := by
      rw [addAmount]
      split
      · rename_i h
        rw [List.mem_append, List.mem_singleton]
        constructor
        · rintro (hmem | rfl)
          · exact .inl hmem
          · exact .inr ⟨h.1, rfl⟩
        · rintro (hmem | ⟨-, rfl⟩)
          · exact .inl hmem
          · exact .inr rfl
      · rename_i h
        constructor
        · exact .inl
        · rintro (hmem | ⟨hpos, rfl⟩)
          · exact hmem
          · exact not_not.1 fun hnot ↦ h ⟨hpos, hnot⟩
    rw [List.foldl_cons, ih, hstep, List.exists_mem_cons_iff, and_or_left, or_assoc]

theorem nodup_foldl_addAmount {groups : List Text} {amounts : List Decimal} (h : amounts.Nodup) :
    (groups.foldl addAmount amounts).Nodup := by
  induction groups generalizing amounts with
  | nil => exact h
  | cons m groups ih =>
    refine ih ?_
    rw [addAmount]
    split
    · rename_i hnew
      exact List.concat_eq_append ▸ List.Nodup.concat hnew.2 h
    · exact h

/-! ### The amounts are those of the labelled totals -/

section Totals

variable {isAlnum : ℕ → Bool} {htmlBody textBody t : Text}

theorem isLabel_append {labels labels' : List String} {s : Text} :
    IsLabel (labels ++ labels') s ↔ IsLabel labels s ∨ IsLabel labels' s := by
  rw [IsLabel, List.map_append, List.mem_append]
  rfl

theorem IsDollarGap.isLooseGap {s : Text} (h : IsDollarGap s) : IsLooseGap s := by
  obtain ⟨a, c, rfl, ha, hc⟩ := h
  exact ⟨a, ['$'.toNat], c, rfl, ha, .inr rfl, hc⟩

theorem IsLooseGap.forall_mem {s : Text} (h : IsLooseGap s) : ∀ c ∈ s, isGapChar c := by
  obtain ⟨a, b, c, rfl, ha, hb, hc⟩ := h
  refine List.forall_mem_append.2 ⟨fun x hx ↦ ?_, List.forall_mem_append.2 ⟨?_, fun x hx ↦ ?_⟩⟩
  · rw [isGapChar, ha x hx, Bool.true_or]
  · obtain rfl | rfl := hb
    · exact nofun
    · decide
  · rw [isGapChar, isColonOrSpace, hc x hx, Bool.or_true, Bool.true_or]

theorem IsStrictGap.forall_mem {s : Text} (h : IsStrictGap s) : ∀ c ∈ s, isGapChar c := by
  obtain ⟨a, rfl, -, ha⟩ := h
  refine List.forall_mem_append.2 ⟨fun x hx ↦ ?_, by decide⟩
  rw [isGapChar, ha x hx, Bool.true_or]

theorem IsPlainNumber.readDecimal_eq {s : Text} {v : ℕ} (h : IsPlainNumber s v) :
    readDecimal s = v := by
  obtain ⟨whole, cents, rfl, -, -, hdigits, rfl⟩ := h
  have hself {ds : Text} (hds : ∀ d ∈ ds, isAsciiDigit d) :
      ds.filter (fun c ↦ c ≠ '.'.toNat) = ds := by
    refine List.filter_eq_self.2 fun d hd ↦ decide_eq_true ?_
    rintro rfl
    exact absurd (hds _ hd) (by decide)
  obtain ⟨hwhole, hcents⟩ := List.forall_mem_append.1 hdigits
  rw [readDecimal, List.filter_append, hself hwhole, List.filter_cons_of_neg (by decide),
    hself hcents]

/-- The last character of a number is one of a word. -/
theorem IsPlainNumber.isWord_getLast {s : Text} {v : ℕ} (h : IsPlainNumber s v)
    (isAlnum : ℕ → Bool) : s.getLast?.any (isWord isAlnum) = true := by
  obtain ⟨whole, cents, rfl, -, hlength, hdigits, -⟩ := h
  have hne : cents ≠ [] := List.ne_nil_of_length_pos (by omega)
  have hlast := hdigits _ (List.mem_append_right whole (List.getLast_mem hne))
  have hword : isWord isAlnum (cents.getLast hne) = true := by
    have hbounds := isAsciiDigit_iff.1 hlast
    rw [isWord, if_pos (by omega), hlast]
    rfl
  rw [List.getLast?_append_of_ne_nil _ (List.cons_ne_nil _ _), List.getLast?_cons,
    List.getLast?_eq_some_getLast hne]
  exact hword

/-- What the first two expressions read. -/
theorem exists_mem_findGroups_loose (hapart : AreApart labels) {v : Decimal} :
    (∃ m ∈ findGroups (labelled labels looseGap .empty) t, readDecimal m = v) ↔
      ∃ (p : Place t) (n : ℕ), IsPlainNumber p.number n ∧ IsLabel labels p.label ∧
        IsLooseGap p.gap ∧ v = n := by
  have hplain : looseGap.IsPlain := ⟨trivial, trivial, trivial, trivial⟩
  have hfind {number : Text} : number ∈ findGroups (labelled labels looseGap .empty) t ↔ _ :=
    mem_findGroups hapart hplain (fun g hg ↦ (lang_looseGap.1 hg).forall_mem)
      (fun _ _ _ hm ↦ Regex.mem_ways_empty.1 hm)
  constructor
  · rintro ⟨number, hmem, rfl⟩
    obtain ⟨p, rfl, hlabel, hg, ⟨n, hn⟩, -⟩ := hfind.1 hmem
    exact ⟨p, n, hn, hlabel, lang_looseGap.1 hg, hn.readDecimal_eq⟩
  · rintro ⟨p, n, hn, hlabel, hg, rfl⟩
    exact ⟨p.number, hfind.2 ⟨p, rfl, hlabel, lang_looseGap.2 hg, ⟨n, hn⟩,
      Regex.mem_ways_empty.2 rfl⟩, hn.readDecimal_eq⟩

/-- What the third expression reads. -/
theorem exists_mem_findGroups_strict {v : Decimal} :
    (∃ m ∈ findGroups (labelled fallbackLabels strictGap (.boundary (isWord isAlnum))) t,
        readDecimal m = v) ↔
      ∃ (p : Place t) (n : ℕ), IsPlainNumber p.number n ∧ p.IsStrict isAlnum ∧ v = n := by
  have hapart : AreApart fallbackLabels := by decide +kernel
  have hplain : strictGap.IsPlain := ⟨trivial, trivial, trivial⟩
  have hfind {number : Text} : number ∈ findGroups
      (labelled fallbackLabels strictGap (.boundary (isWord isAlnum))) t ↔ _ :=
    mem_findGroups hapart hplain (fun g hg ↦ (lang_strictGap.1 hg).forall_mem)
      (fun _ _ _ hm ↦ (Regex.mem_ways_boundary.1 hm).2)
  have hend {p : Place t} {n : ℕ} (hn : IsPlainNumber p.number n) :
      (⟨[], []⟩ ∈ (Regex.boundary (isWord isAlnum)).ways p.number.getLast? p.after) ↔
        p.after.head?.any (isWord isAlnum) = false := by
    rw [Regex.mem_ways_boundary, hn.isWord_getLast]
    cases p.after.head?.any (isWord isAlnum) <;> decide
  constructor
  · rintro ⟨number, hmem, rfl⟩
    obtain ⟨p, rfl, hlabel, hg, ⟨n, hn⟩, hboundary⟩ := hfind.1 hmem
    exact ⟨p, n, hn, ⟨hlabel, lang_strictGap.1 hg, (hend hn).1 hboundary⟩, hn.readDecimal_eq⟩
  · rintro ⟨p, n, hn, ⟨hlabel, hg, hboundary⟩, rfl⟩
    exact ⟨p.number, hfind.2 ⟨p, rfl, hlabel, lang_strictGap.2 hg, ⟨n, hn⟩,
      (hend hn).2 hboundary⟩, hn.readDecimal_eq⟩

/-- **The amounts are the positive numbers that the expressions read.** -/
theorem mem_extractAmounts {v : Decimal} : v ∈ extractAmounts isAlnum htmlBody textBody ↔
    0 < v ∧ ∃ (p : Place (combinedText htmlBody textBody)) (n : ℕ), p.IsRead isAlnum n ∧ v = n := by
  have hcharge : AreApart chargeLabels := by decide +kernel
  have hshipment : AreApart shipmentLabels := by decide +kernel
  simp only [extractAmounts, amountPatterns, List.foldl_cons, List.foldl_nil, mem_foldl_addAmount,
    exists_mem_findGroups_loose hcharge, exists_mem_findGroups_loose hshipment,
    exists_mem_findGroups_strict, List.not_mem_nil, false_or]
  rw [← and_or_left, ← and_or_left]
  refine and_congr_right fun _ ↦ ?_
  constructor
  · rintro ((⟨p, n, hn, hlabel, hg, rfl⟩ | ⟨p, n, hn, hlabel, hg, rfl⟩) | ⟨p, n, hn, hstrict, rfl⟩)
    · exact ⟨p, n, ⟨hn, .inl ⟨isLabel_append.2 (.inl hlabel), hg⟩⟩, rfl⟩
    · exact ⟨p, n, ⟨hn, .inl ⟨isLabel_append.2 (.inr hlabel), hg⟩⟩, rfl⟩
    · exact ⟨p, n, ⟨hn, .inr hstrict⟩, rfl⟩
  · rintro ⟨p, n, ⟨hn, ⟨hlabel, hg⟩ | hstrict⟩, rfl⟩
    · obtain hlabel | hlabel := isLabel_append.1 hlabel
      · exact .inl (.inl ⟨p, n, hn, hlabel, hg, rfl⟩)
      · exact .inl (.inr ⟨p, n, hn, hlabel, hg, rfl⟩)
    · exact .inr ⟨p, n, hn, hstrict, rfl⟩

theorem commas_eq_self {ds : List Char} (h : ds.length ≤ 3) : commas ds = ds := by
  induction ds with
  | nil => rfl
  | cons d ds ih =>
    rw [List.length_cons] at h
    have hnone : ¬(ds ≠ [] ∧ ds.length % 3 = 0) := by
      rintro ⟨hne, hmod⟩
      have hpos := List.length_pos_of_ne_nil hne
      omega
    rw [commas, if_neg hnone, ih (by omega)]

theorem isAsciiDigit_of_isDigit {c : Char} (h : c.isDigit) : isAsciiDigit c.toNat = true := by
  simp only [Char.isDigit, Bool.and_eq_true, decide_eq_true_eq, UInt32.le_iff_toNat_le,
    ge_iff_le] at h
  exact isAsciiDigit_iff.2 h

/-- Below a thousand dollars US format has no separator. -/
theorem isPlainNumber_usAmount {n : ℕ} (hn : n < 100000) : IsPlainNumber (usAmount n) n := by
  have hlength : (Nat.toDigits 10 (n / 100)).length ≤ 3 :=
    (Nat.length_toDigits_le_iff (by decide) (by decide)).2 (by omega)
  refine ⟨(Nat.toDigits 10 (n / 100)).map Char.toNat,
    (Text.padded 2 (n % 100)).map Char.toNat, ?_, ?_, ?_, ?_, ?_⟩
  · rw [usAmount, commas_eq_self hlength, List.map_append]
    rfl
  · exact mt List.map_eq_nil_iff.1 (List.ne_nil_of_length_pos Nat.length_toDigits_pos)
  · rw [List.length_map, Text.length_padded]
  · rw [← List.map_append]
    intro d hd
    obtain ⟨c, hc, rfl⟩ := List.mem_map.1 hd
    obtain hc | hc := List.mem_append.1 hc
    · exact isAsciiDigit_of_isDigit (Nat.isDigit_of_mem_toDigits (by decide) (by decide) hc)
    · exact isAsciiDigit_of_isDigit (Text.isDigit_of_mem_padded hc)
  · have hself (cs : List Char) : digitsValue (cs.map Char.toNat) = Nat.ofDigitChars 10 cs 0 := by
      have hid : Char.ofNat ∘ Char.toNat = id := funext Char.ofNat_toNat
      rw [digitsValue, List.map_map, hid, List.map_id]
    have hcents : Nat.ofDigitChars 10 (Text.padded 2 (n % 100)) 0 = n % 100 :=
      Text.ofDigitChars_padded (by omega)
    rw [← List.map_append, hself, Nat.ofDigitChars_append, Nat.ofDigitChars_ten_toDigits,
      Nat.ofDigitChars_eq_ofDigitChars_zero, Text.length_padded, hcents]
    omega

/-- What is written and not missed is read at its place. -/
theorem Place.IsWritten.isRead {p : Place t} {n : ℕ} (h : p.IsWritten n)
    (hmissed : ¬p.IsMissed isAlnum n) : p.IsRead isAlnum n := by
  obtain ⟨hlarge, hfallback⟩ := not_or.1 fun hor ↦ hmissed ⟨h, hor⟩
  obtain ⟨-, hlabel, hgap, hnumber, -⟩ := h
  refine ⟨hnumber ▸ isPlainNumber_usAmount (Nat.lt_of_not_le hlarge), ?_⟩
  obtain hlabel | hlabel := isLabel_append.1 hlabel
  · exact .inl ⟨hlabel, hgap.isLooseGap⟩
  · exact .inr (not_not.1 fun hstrict ↦ hfallback ⟨hlabel, hstrict⟩)

/-- What is read and does not go on is the full amount of a labelled total. -/
theorem Place.IsRead.isFull {p : Place t} {n : ℕ} (h : p.IsRead isAlnum n)
    (hafter : goesOn p.after = false) : p.IsFull n := by
  obtain ⟨hnumber, ⟨hlabel, hgap⟩ | ⟨hlabel, ⟨a, hgap, -, ha⟩, -⟩⟩ := h
  · exact ⟨isLabel_append.2 (.inl hlabel), hgap, .inl hnumber, hafter⟩
  · exact ⟨isLabel_append.2 (.inr hlabel), ⟨a, ['$'.toNat], [], hgap, ha, .inr rfl, nofun⟩,
      .inl hnumber, hafter⟩

/-- **The amounts are those of the labelled totals** exactly if what is missed is read somewhere
else, and what is cut off is a labelled total of its own. -/
theorem extractAmounts_iff (isAlnum : ℕ → Bool) (htmlBody textBody : Text) :
    AreTotals (combinedText htmlBody textBody) (extractAmounts isAlnum htmlBody textBody) ↔
      IsRegular isAlnum (combinedText htmlBody textBody) := by
  constructor
  · intro h
    constructor
    · intro p n hmissed
      obtain ⟨-, q, m, hread, heq⟩ := mem_extractAmounts.1 (h.complete p n hmissed.1)
      obtain rfl : n = m := Int.ofNat.inj heq
      exact ⟨q, hread⟩
    · intro p n hread hpos _
      obtain ⟨q, m, hfull, heq⟩ := h.sound n
        (mem_extractAmounts.2 ⟨Int.natCast_pos.2 hpos, p, n, hread, rfl⟩)
      obtain rfl : n = m := Int.ofNat.inj heq
      exact ⟨q, hfull⟩
  · intro h
    constructor
    · intro p n hwritten
      obtain ⟨q, hread⟩ : ∃ q : Place (combinedText htmlBody textBody), q.IsRead isAlnum n := by
        by_cases hmissed : p.IsMissed isAlnum n
        · exact h.missed p n hmissed
        · exact ⟨p, hwritten.isRead hmissed⟩
      exact mem_extractAmounts.2 ⟨Int.natCast_pos.2 hwritten.1, q, n, hread, rfl⟩
    · intro v hv
      obtain ⟨hpos, p, n, hread, rfl⟩ := mem_extractAmounts.1 hv
      cases hafter : goesOn p.after with
      | false => exact ⟨p, n, hread.isFull hafter, rfl⟩
      | true =>
        obtain ⟨q, hfull⟩ := h.cut p n hread (Int.natCast_pos.1 hpos) hafter
        exact ⟨q, n, hfull, rfl⟩
    · exact nodup_foldl_addAmount (nodup_foldl_addAmount (nodup_foldl_addAmount List.nodup_nil))

/-- A total of more than a thousand dollars is not found. -/
theorem thousands_missed : ¬∀ htmlBody textBody : Text, AreTotals (combinedText htmlBody textBody)
    (extractAmounts (fun _ ↦ false) htmlBody textBody) := by
  intro h
  have hnone : extractAmounts (fun _ ↦ false) [] (text "Order Total: $1,234.56") = [] := by
    decide +kernel
  have hmem := (h [] (text "Order Total: $1,234.56")).complete
    ⟨[], text "Order Total", text ": $", text "1,234.56", text "\n", by decide +kernel⟩ 123456
    ⟨by decide, by decide +kernel, ⟨text ": ", [], rfl, by decide, nofun⟩, by decide +kernel,
      by decide +kernel⟩
  rw [hnone] at hmem
  exact List.not_mem_nil hmem

end Totals

end Sumurai
