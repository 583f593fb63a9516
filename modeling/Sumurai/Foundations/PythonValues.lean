import Mathlib.Data.Int.Notation
import Mathlib.Data.List.DropRight
import Mathlib.Algebra.Group.Nat.Defs

/-!
# Values of Python

What `json.loads` returns and a program reads with the methods of these values. A text is the list
of its code points, of which lone surrogates are some; a float is its 64 bits. A method that a value
does not have is an `AttributeError`.
-/

namespace Python

/-- A `str`. -/
abbrev Text := List ℕ

/-- The code points of a literal. -/
def text (s : String) : Text :=
  s.toList.map Char.toNat

/-- A value that JSON is read as. -/
inductive Value where
  | none
  | bool (b : Bool)
  | int (n : ℤ)
  | float (bits : BitVec 64)
  | str (s : Text)
  | list (values : List Value)
  | dict (members : List (Text × Value))

/-- An exception. -/
inductive Error where
  | attributeError
  | typeError
  | other (message : Text)

/-- `str.isspace`, of one character. -/
def isSpace (c : ℕ) : Bool :=
  c ∈ [0x09, 0x0A, 0x0B, 0x0C, 0x0D, 0x1C, 0x1D, 0x1E, 0x1F, 0x20, 0x85, 0xA0, 0x1680, 0x2028,
    0x2029, 0x202F, 0x205F, 0x3000] || (0x2000 ≤ c && c ≤ 0x200A)

/-- `str.strip`. -/
def stripSpaces (s : Text) : Text :=
  (s.dropWhile isSpace).rdropWhile isSpace

/-- `str.lower`, which for ASCII text is that of its letters. -/
structure LowerCase where
  lower : Text → Text
  lower_ascii : ∀ s : Text, (∀ c ∈ s, c < 128) →
    lower s = s.map fun c ↦ if 65 ≤ c ∧ c ≤ 90 then c + 32 else c

namespace Value

/-- `bool(value)`: zero has no bits but the sign. -/
def isTruthy : Value → Bool
  | none => false
  | bool b => b
  | int n => n ≠ 0
  | float bits => bits.toNat % 2 ^ 63 ≠ 0
  | str s => s ≠ []
  | list values => !values.isEmpty
  | dict members => !members.isEmpty

/-- `value.get(name, default)`. -/
def get (value : Value) (name : String) (default : Value) : Except Error Value :=
  match value with
  | dict members => .ok (((members.find? fun m ↦ m.1 = text name).map Prod.snd).getD default)
  | _ => .error .attributeError

/-- `value.strip()`. -/
def strip : Value → Except Error Text
  | str s => .ok (stripSpaces s)
  | _ => .error .attributeError

/-- `value.lower()`. -/
def lower (L : LowerCase) : Value → Except Error Text
  | str s => .ok (L.lower s)
  | _ => .error .attributeError

theorem get_cons_self (name : String) (default value : Value) (members : List (Text × Value)) :
    (dict ((text name, value) :: members)).get name default = .ok value := by
  simp [get]

theorem get_cons_of_ne {name : String} {key : Text} (h : key ≠ text name) (default value : Value)
    (members : List (Text × Value)) :
    (dict ((key, value) :: members)).get name default = (dict members).get name default := by
  simp [get, h]

end Value

theorem LowerCase.lower_nil (L : LowerCase) : L.lower [] = [] :=
  L.lower_ascii [] nofun

/-- ASCII text does not become empty. -/
theorem LowerCase.lower_ne_nil (L : LowerCase) {s : Text} (hs : ∀ c ∈ s, c < 128) (hne : s ≠ []) :
    L.lower s ≠ [] := by
  rw [L.lower_ascii s hs]
  exact mt List.map_eq_nil_iff.1 hne

end Python
