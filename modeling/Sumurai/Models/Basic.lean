import Mathlib.Data.Int.ConditionallyCompleteOrder
import Mathlib.Data.List.Infix
import Mathlib.Data.List.MinMax

/-!
# Scalar types of the backend

The types the backend's records are made of, at the precision at which PostgreSQL stores them:

* `Uuid` — a natural number, in the order in which PostgreSQL compares UUIDs;
* `Decimal` — a whole number of cents, every money column being `DECIMAL(12,2)`;
* `NaiveDate` — a day number;
* `Timestamp` — microseconds, the precision of `TIMESTAMPTZ`.

Day zero and instant zero are the Unix epoch, so `Timestamp.dateNaive` is a floor division.
`NaiveDate.succOpt` is the one partial operation: the calendar of `chrono` has a last day, and a
loop that steps a date until it passes a bound depends on it.

Text comparison belongs to the database where SQL does it: a `Locale` is the character
classification and the collation of the database, and every `LOWER`, every `[:alnum:]` and every
`ORDER BY` of a text column goes through it. The backend's own `to_lowercase` and `to_uppercase` are
`toLowercase` and `toUppercase`, exact wherever their results are compared with an ASCII literal.
-/

namespace Sumurai

/-- A UUID. The nil UUID is `0`. -/
abbrev Uuid := ℕ

/-- `rust_decimal::Decimal` at the two decimals of the money columns: a number of cents. -/
abbrev Decimal := ℤ

/-- `chrono::NaiveDate`: days since 1970-01-01. -/
abbrev NaiveDate := ℤ

/-- `chrono::DateTime<Utc>`: microseconds since the epoch. -/
abbrev Timestamp := ℤ

/-- `NaiveDate::MAX`, the last day of the year 262142. -/
def NaiveDate.MAX : NaiveDate := 95026236

/-- `NaiveDate::succ_opt`: the next day, if the calendar has one. -/
def NaiveDate.succOpt (d : NaiveDate) : Option NaiveDate :=
  if d < NaiveDate.MAX then some (d + 1) else none

theorem NaiveDate.succOpt_of_lt {d : NaiveDate} (h : d < NaiveDate.MAX) :
    NaiveDate.succOpt d = some (d + 1) :=
  if_pos h

theorem NaiveDate.succOpt_of_le {d : NaiveDate} (h : NaiveDate.MAX ≤ d) :
    NaiveDate.succOpt d = none :=
  if_neg (not_lt.2 h)

/-- Microseconds in a day. -/
def microsPerDay : ℤ := 86400000000

/-- `DateTime::date_naive`: the UTC calendar day of an instant. -/
def Timestamp.dateNaive (t : Timestamp) : NaiveDate :=
  t / microsPerDay

theorem Timestamp.dateNaive_mono {s t : Timestamp} (h : s ≤ t) :
    Timestamp.dateNaive s ≤ Timestamp.dateNaive t :=
  Int.ediv_le_ediv (by decide) h

/-- Going back a whole number of days goes back that many calendar days. -/
theorem Timestamp.dateNaive_sub_days (t : Timestamp) (n : ℤ) :
    Timestamp.dateNaive (t - n * microsPerDay) = Timestamp.dateNaive t - n := by
  unfold Timestamp.dateNaive microsPerDay
  lia

/-- A `Uuid::new_v4`: the id that the environment proposes, unless it is taken. -/
def newV4 (taken : List Uuid) (proposed : Uuid) : Uuid :=
  if proposed ∈ taken then taken.foldr max 0 + 1 else proposed

/-- A new id is not one that is taken. -/
theorem newV4_notMem (taken : List Uuid) (proposed : Uuid) : newV4 taken proposed ∉ taken := by
  unfold newV4
  split
  · intro hmem
    have hle : taken.foldr max 0 + 1 ≤ taken.foldr max 0 := List.le_max_of_le' 0 hmem le_rfl
    lia
  · assumption

/-- The character classification and the collation of the database's locale. -/
structure Locale where
  /-- `[:alnum:]`. -/
  isAlnum : Char → Bool
  /-- `LOWER` of one character. -/
  lower : Char → Char
  /-- The sort key of a string, by which `ORDER BY` compares text. -/
  collationKey : String → List ℕ

/-- The `C` locale, in which only ASCII letters and digits are classified and text is compared
by code points. -/
def Locale.c : Locale where
  isAlnum := Char.isAlphanum
  lower := Char.toLower
  collationKey s := s.toList.map Char.toNat

/-- `LOWER(s)`, as its characters. -/
def Locale.lowerString (L : Locale) (s : String) : List Char :=
  s.toList.map L.lower

/-- `str::to_lowercase`, one character: besides the ASCII letters, the two characters whose lower
case contains an ASCII letter. -/
def lowercaseChar (c : Char) : List Char :=
  if c = '\u212A' then ['k']
  else if c = '\u0130' then ['i', '\u0307']
  else [c.toLower]

/-- Texts are compared as lists of characters. -/
instance lawfulBEqText : LawfulBEq (List Char) :=
  inferInstance

/-- `str::to_lowercase`, as its characters. -/
def toLowercase (s : String) : List Char :=
  s.toList.flatMap lowercaseChar

/-- `str::to_uppercase`, one character: besides the ASCII letters, the characters whose upper case
contains an ASCII letter. -/
def uppercaseChar (c : Char) : List Char :=
  match c with
  | '\u00DF' => ['S', 'S']
  | '\u0131' => ['I']
  | '\u0149' => ['\u02BC', 'N']
  | '\u017F' => ['S']
  | '\u01F0' => ['J', '\u030C']
  | '\u1E96' => ['H', '\u0331']
  | '\u1E97' => ['T', '\u0308']
  | '\u1E98' => ['W', '\u030A']
  | '\u1E99' => ['Y', '\u030A']
  | '\u1E9A' => ['A', '\u02BE']
  | '\uFB00' => ['F', 'F']
  | '\uFB01' => ['F', 'I']
  | '\uFB02' => ['F', 'L']
  | '\uFB03' => ['F', 'F', 'I']
  | '\uFB04' => ['F', 'F', 'L']
  | '\uFB05' => ['S', 'T']
  | '\uFB06' => ['S', 'T']
  | _ => [c.toUpper]

/-- `str::to_uppercase`, as its characters. -/
def toUppercase (s : String) : List Char :=
  s.toList.flatMap uppercaseChar

/-- `char::is_whitespace`. -/
def isWhitespace (c : Char) : Bool :=
  let n := c.toNat
  (9 ≤ n && n ≤ 13) || n = 0x20 || n = 0x85 || n = 0xA0 || n = 0x1680 ||
    (0x2000 ≤ n && n ≤ 0x200A) || n = 0x2028 || n = 0x2029 || n = 0x202F || n = 0x205F || n = 0x3000

/-- `str::trim`, as its characters. -/
def trim (s : String) : List Char :=
  ((s.toList.dropWhile isWhitespace).reverse.dropWhile isWhitespace).reverse

/-- `str::eq_ignore_ascii_case`. -/
def eqIgnoreAsciiCase (s t : String) : Bool :=
  s.toList.map Char.toLower = t.toList.map Char.toLower

end Sumurai
