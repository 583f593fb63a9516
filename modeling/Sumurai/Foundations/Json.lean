import Mathlib.Algebra.Group.Nat.Defs
import Mathlib.Data.List.Basic

/-!
# JSON values

A parsed JSON document, with the accessors that a program reads one by. A number is kept as the text
it is printed as: the text of a whole number is its digits.

The members of an object have distinct names, so the first one with a name is the one with it.
-/

/-- A JSON value. -/
inductive Json where
  | null
  | bool (b : Bool)
  | number (text : String)
  | string (s : String)
  | array (values : List Json)
  | object (members : List (String × Json))

namespace Json

/-- The value of the first member with a name. -/
def lookup (name : String) : List (String × Json) → Option Json
  | [] => none
  | m :: members => if m.1 = name then some m.2 else lookup name members

/-- The member of an object, if the value is an object that has it. -/
def get (v : Json) (name : String) : Option Json :=
  match v with
  | object members => lookup name members
  | _ => none

/-- `v[name]`: a member that is not there is `null`. -/
def index (v : Json) (name : String) : Json :=
  (v.get name).getD null

/-- The text of a string. -/
def asStr : Json → Option String
  | string s => some s
  | _ => none

/-- The truth value. -/
def asBool : Json → Option Bool
  | bool b => some b
  | _ => none

/-- The elements of an array. -/
def asArray : Json → Option (List Json)
  | array values => some values
  | _ => none

/-- A whole number of 64 bits. -/
def asU64 : Json → Option ℕ
  | number text =>
    if text.toList ≠ [] ∧ text.toList.all Char.isDigit ∧ Nat.ofDigitChars 10 text.toList 0 < 2 ^ 64
    then some (Nat.ofDigitChars 10 text.toList 0)
    else none
  | _ => none

example : (number "500").asU64 = some 500 := by decide

example : (number "1.0").asU64 = none := by decide

end Json
