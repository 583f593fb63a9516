import Mathlib.Data.Char
import Sumurai.Foundations.DecimalText
import Sumurai.Models.Dates

/-!
# Dates in the frontend

Dates are strings `YYYY-MM-DD`, compared as text. `isoDay` is what the calculations make of the date
of a transaction before they compare it, `new Date(date).toISOString().slice(0, 10)`: of a day of
the calendar the date itself, which JavaScript reads as one in UTC. `toISOString` throws where there
is no date to read; the other forms that `new Date` reads are left out, as the backend sends none of
them.

A window of whole months of one year selects the days in these months (`between_iff`).
-/

namespace Sumurai.Frontend

open Text

/-! ### Dates as text -/

/-- `YYYY-MM-DD`, after the text of the year. -/
def windowText (yearText : List Char) (m d : ℕ) : List Char :=
  yearText ++ '-' :: (padded 2 m ++ '-' :: padded 2 d)

/-- `YYYY-MM-DD`. -/
def dateText (y m d : ℕ) : List Char :=
  windowText (padded 4 y) m d

/-- A day of the calendar, of a year with at most four digits. -/
structure IsDay (y m d : ℕ) : Prop where
  year_le : y ≤ 9999
  one_le_month : 1 ≤ m
  month_le : m ≤ 12
  one_le_day : 1 ≤ d
  day_le : d ≤ NaiveDate.daysInMonth y m

instance (y m d : ℕ) : Decidable (IsDay y m d) :=
  decidable_of_iff (y ≤ 9999 ∧ 1 ≤ m ∧ m ≤ 12 ∧ 1 ≤ d ∧ d ≤ NaiveDate.daysInMonth y m)
    ⟨fun ⟨h₁, h₂, h₃, h₄, h₅⟩ ↦ ⟨h₁, h₂, h₃, h₄, h₅⟩,
      fun ⟨h₁, h₂, h₃, h₄, h₅⟩ ↦ ⟨h₁, h₂, h₃, h₄, h₅⟩⟩

/-- The day that a text `YYYY-MM-DD` names. -/
def parseDay (s : List Char) : Option (ℕ × ℕ × ℕ) :=
  let y := Nat.ofDigitChars 10 (s.take 4) 0
  let m := Nat.ofDigitChars 10 ((s.drop 5).take 2) 0
  let d := Nat.ofDigitChars 10 (s.drop 8) 0
  if s = dateText y m d ∧ IsDay y m d then some (y, m, d) else none

/-- `new Date(date).toISOString().slice(0, 10)`. -/
def isoDay (date : String) : Option (List Char) :=
  (parseDay date.toList).map fun day ↦ dateText day.1 day.2.1 day.2.2

theorem daysInMonth_le {y : ℤ} {m : ℕ} (hone : 1 ≤ m) (htwelve : m ≤ 12) :
    NaiveDate.daysInMonth y m ≤ 31 := by
  have hall : ∀ leap, ∀ m < 13, 1 ≤ m →
      Gregorian.daysBefore leap (m + 1) - Gregorian.daysBefore leap m ≤ 31 := by decide
  have hle := hall (Gregorian.isLeap y) m (Nat.lt_succ_of_le htwelve) hone
  rw [NaiveDate.daysInMonth, Gregorian.firstOfMonth, Gregorian.firstOfMonth]
  omega

/-- The parts of a text `YYYY-MM-DD`. -/
theorem dateText_parts (y m d : ℕ) : (dateText y m d).take 4 = padded 4 y ∧
    ((dateText y m d).drop 5).take 2 = padded 2 m ∧ (dateText y m d).drop 8 = padded 2 d := by
  have hrest : (dateText y m d).drop 5 = padded 2 m ++ '-' :: padded 2 d := by
    rw [dateText, windowText, List.append_cons]
    exact List.drop_left' (by simp)
  refine ⟨List.take_left' (length_padded 4 y), ?_, ?_⟩
  · rw [hrest]
    exact List.take_left' (length_padded 2 m)
  · rw [show 8 = 5 + 3 from rfl, ← List.drop_drop, hrest, List.append_cons]
    exact List.drop_left' (by simp)

/-- A day is read back. -/
theorem parseDay_dateText {y m d : ℕ} (h : IsDay y m d) :
    parseDay (dateText y m d) = some (y, m, d) := by
  have hday := h.day_le.trans (daysInMonth_le h.one_le_month h.month_le)
  have hy : y < 10 ^ 4 := Nat.lt_succ_of_le h.year_le
  have hm : m < 10 ^ 2 := h.month_le.trans_lt (by decide)
  have hd : d < 10 ^ 2 := hday.trans_lt (by decide)
  obtain ⟨hyear, hmonth, hlast⟩ := dateText_parts y m d
  simp only [parseDay, hyear, hmonth, hlast, ofDigitChars_padded hy, ofDigitChars_padded hm,
    ofDigitChars_padded hd]
  exact if_pos ⟨trivial, h⟩

theorem parseDay_eq_some_iff {s : List Char} {y m d : ℕ} :
    parseDay s = some (y, m, d) ↔ s = dateText y m d ∧ IsDay y m d := by
  constructor
  · intro h
    rw [parseDay] at h
    split at h
    · rename_i hday
      simp only [Option.some.injEq, Prod.mk.injEq] at h
      obtain ⟨rfl, rfl, rfl⟩ := h
      exact hday
    · exact absurd h (by simp)
  · rintro ⟨rfl, h⟩
    exact parseDay_dateText h

/-- The date of a transaction stays as it is. -/
theorem isoDay_dateText {y m d : ℕ} (h : IsDay y m d) :
    isoDay (String.ofList (dateText y m d)) = some (dateText y m d) := by
  rw [isoDay, String.toList_ofList, parseDay_dateText h]
  rfl

/-! ### Windows -/

/-- `day >= start && day <= end`. -/
def isBetween (start stop day : List Char) : Bool :=
  ¬day < start ∧ ¬stop < day

/-- Days are in the order of their texts. -/
theorem dateText_lt_iff {y m d y' m' d' : ℕ} (hy : y < 10 ^ 4) (hy' : y' < 10 ^ 4)
    (hm : m < 10 ^ 2) (hm' : m' < 10 ^ 2) (hd : d < 10 ^ 2) (hd' : d' < 10 ^ 2) :
    dateText y m d < dateText y' m' d' ↔ y < y' ∨ y = y' ∧ (m < m' ∨ m = m' ∧ d < d') := by
  have hday := padded_append_lt_iff hd hd' [] []
  rw [List.append_nil, List.append_nil, or_iff_left fun h ↦ List.not_lt_nil [] h.2] at hday
  rw [dateText, dateText, windowText, windowText, padded_append_lt_iff hy hy',
    List.cons_lt_cons_self, padded_append_lt_iff hm hm', List.cons_lt_cons_self, hday]

/-- A text that starts with a year and a hyphen has that year before its first hyphen. -/
theorem eq_of_prefix {p : List Char} (hp : '-' ∉ p.drop 1) {y m d : ℕ}
    (h : p ++ ['-'] <+: dateText y m d) : p = padded 4 y := by
  have hdigits : '-' ∉ padded 4 y := fun hmem ↦ absurd (isDigit_of_mem_padded hmem) (by decide)
  obtain ⟨rest, hrest⟩ := h
  rw [List.append_assoc, dateText, windowText] at hrest
  obtain ⟨a, hpa, ha⟩ | ⟨a, hya, ha⟩ := List.append_eq_append_iff.1 hrest
  · -- the year goes on after `p`, with the hyphen first
    obtain - | ⟨c, a⟩ := a
    · rw [hpa, List.append_nil]
    · obtain rfl : '-' = c := (List.cons.inj ha).1
      exact absurd (hpa ▸ List.mem_append_right p List.mem_cons_self) hdigits
  · -- `p` goes on after the year, with a hyphen that is not its first character
    obtain - | ⟨c, a⟩ := a
    · rw [hya, List.append_nil]
    · obtain rfl : '-' = c := (List.cons.inj ha).1
      rw [hya, List.drop_append_of_le_length (by simp)] at hp
      exact absurd (List.mem_append_right _ List.mem_cons_self) hp

/-- **A window of whole months** of a year has the days of that year that are in these months. -/
theorem between_iff {p : List Char} (hp : '-' ∉ p.drop 1) {y m d first last lastDay : ℕ}
    (hday : IsDay y m d) (hfirst : first < 10 ^ 2) (hlast : last < 10 ^ 2)
    (hlastDay : lastDay < 10 ^ 2)
    (hlength : p = padded 4 y → m = last → NaiveDate.daysInMonth y m ≤ lastDay) :
    isBetween (windowText p first 1) (windowText p last lastDay) (dateText y m d) ↔
      p = padded 4 y ∧ first ≤ m ∧ m ≤ last := by
  have hd31 := hday.day_le.trans (daysInMonth_le hday.one_le_month hday.month_le)
  have hy : y < 10 ^ 4 := Nat.lt_succ_of_le hday.year_le
  have hm : m < 10 ^ 2 := hday.month_le.trans_lt (by decide)
  have hd : d < 10 ^ 2 := hd31.trans_lt (by decide)
  rw [isBetween, decide_eq_true_eq]
  constructor
  · rintro ⟨hle, hge⟩
    have hextends : p ++ ['-'] <+: dateText y m d := by
      refine prefix_of_between (s := padded 2 first ++ '-' :: padded 2 1)
        (t := padded 2 last ++ '-' :: padded 2 lastDay) ?_ ?_
      · rwa [List.append_assoc]
      · rwa [List.append_assoc]
    obtain rfl := eq_of_prefix hp hextends
    rw [show windowText (padded 4 y) first 1 = dateText y first 1 from rfl,
      dateText_lt_iff hy hy hm hfirst hd (by decide)] at hle
    rw [show windowText (padded 4 y) last lastDay = dateText y last lastDay from rfl,
      dateText_lt_iff hy hy hlast hm hlastDay hd] at hge
    exact ⟨rfl, by omega, by omega⟩
  · rintro ⟨rfl, hle, hge⟩
    have hone := hday.one_le_day
    have hday_le := hday.day_le
    have hlen := hlength rfl
    rw [show windowText (padded 4 y) first 1 = dateText y first 1 from rfl,
      show windowText (padded 4 y) last lastDay = dateText y last lastDay from rfl,
      dateText_lt_iff hy hy hm hfirst hd (by decide), dateText_lt_iff hy hy hlast hm hlastDay hd]
    omega

/-! ### Windows as the code writes them -/

/-- `String(n).padStart(2, '0')`. -/
def padStart2 (n : ℤ) : List Char :=
  let s := (toString n).toList
  List.replicate (2 - s.length) '0' ++ s

/-- A template of a year, a month and a day, the last two padded to two digits. -/
def dayTemplate (year month day : ℤ) : List Char :=
  (toString year).toList ++ '-' :: (padStart2 month ++ '-' :: padStart2 day)

/-- `new Date(year, month, 0).getDate()`, the last day of the month before `month`, counted from
zero. The first hundred years are those of the twentieth century. -/
def lastDayBefore (year : ℤ) (month : ℕ) : ℕ :=
  if month = 0 then 31
  else NaiveDate.daysInMonth (if 0 ≤ year ∧ year ≤ 99 then 1900 + year else year) month

theorem toList_toString_natCast (n : ℕ) : (toString (n : ℤ)).toList = Nat.toDigits 10 n :=
  Nat.toList_repr

theorem padStart2_natCast {n : ℕ} (h : n < 100) : padStart2 n = padded 2 n := by
  have hall : ∀ n < 100, List.replicate (2 - (Nat.toDigits 10 n).length) '0' ++
      Nat.toDigits 10 n = padded 2 n := by decide
  simp only [padStart2, toList_toString_natCast]
  exact hall n h

/-- The text of a year has a hyphen in front at most. -/
theorem hyphen_notMem_year (year : ℤ) : '-' ∉ ((toString year).toList).drop 1 := by
  cases year with
  | ofNat n =>
    rw [toList_toString_ofNat]
    exact fun hmem ↦ hyphen_notMem_toDigits n (List.mem_of_mem_drop hmem)
  | negSucc n =>
    rw [toList_toString_negSucc]
    exact hyphen_notMem_toDigits (n + 1)

/-- A year whose text has four digits. -/
theorem eq_of_toString_eq {year : ℤ} {y : ℕ} (hy : y < 10 ^ 4)
    (h : (toString year).toList = padded 4 y) : year = y ∧ 1000 ≤ y := by
  cases year with
  | ofNat n =>
    have hdigits : Nat.toDigits 10 n = padded 4 y := (toList_toString_natCast n).symm.trans h
    have heq : n = y := by
      rw [← ofDigitChars_padded hy, ← hdigits, Nat.ofDigitChars_toDigits (by decide) (by decide)]
    have hlarge : ¬n < 10 ^ 3 := by
      rw [← Nat.length_toDigits_le_iff (by decide) (by decide), hdigits, length_padded]
      decide
    exact ⟨congrArg Nat.cast heq, by omega⟩
  | negSucc n =>
    have hmem : '-' ∈ padded 4 y := by
      rw [← h]
      show '-' ∈ ("-" ++ Nat.repr (n + 1)).toList
      rw [String.toList_append]
      exact List.mem_append_left _ (List.mem_singleton_self '-')
    exact absurd (isDigit_of_mem_padded hmem) (by decide)

/-- A day that is written `YYYY-MM-DD`. -/
theorem between_template_iff (year : ℤ) {y m d : ℕ} (hday : IsDay y m d) {first last : ℕ}
    (hfirst : first < 100) (hlast : last < 100) {lastDay : ℕ} (hlastDay : lastDay < 100)
    (hlength : year = y → 1000 ≤ y → m = last → NaiveDate.daysInMonth y m ≤ lastDay) :
    isBetween (dayTemplate year first 1) (dayTemplate year last lastDay) (dateText y m d) ↔
      (toString year).toList = padded 4 y ∧ first ≤ m ∧ m ≤ last := by
  have hy : y < 10 ^ 4 := Nat.lt_succ_of_le hday.year_le
  have hstart : dayTemplate year first 1 = windowText (toString year).toList first 1 := by
    rw [dayTemplate, windowText, padStart2_natCast hfirst]
    exact congrArg (fun d ↦ _ ++ '-' :: (_ ++ '-' :: d)) (padStart2_natCast (n := 1) (by decide))
  have hstop : dayTemplate year last lastDay =
      windowText (toString year).toList last lastDay := by
    rw [dayTemplate, windowText, padStart2_natCast hlast, padStart2_natCast hlastDay]
  rw [hstart, hstop]
  refine between_iff (hyphen_notMem_year year) hday hfirst hlast hlastDay fun htext hm ↦ ?_
  obtain ⟨hyear, hlarge⟩ := eq_of_toString_eq hy htext
  exact hlength hyear hlarge hm

/-- The last day of a month, as the code finds it, is the last day of the month. -/
theorem lastDayBefore_eq {y m : ℕ} (hm : 1 ≤ m) (hy : 1000 ≤ y) :
    lastDayBefore y m = NaiveDate.daysInMonth y m := by
  rw [lastDayBefore, if_neg (by omega), if_neg (by omega)]

theorem lastDayBefore_lt (year : ℤ) {m : ℕ} (hm : m ≤ 12) : lastDayBefore year m < 100 := by
  rw [lastDayBefore]
  split
  · decide
  · exact (daysInMonth_le (by omega) hm).trans_lt (by decide)

end Sumurai.Frontend
