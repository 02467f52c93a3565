import Autograder.Decimal.Plain

/-!
# Documents

A JSON document as a reader of typed data sees it, in document order, up to the place where its
syntax breaks. What lies before that place is kept: a reader that meets a value of the wrong type
first must report the wrong type and not the broken syntax behind it.

So a container says whether it was closed, and `malformed` stands where a value should be and is
none. Text keeps one more distinction: an escape that names half of a surrogate pair is correct
syntax but spells no character, and such a text has no value.
-/

namespace Autograder

/-- A number as it is written: sign, digits before and after the point, exponent. -/
structure Numeral where
  negative : Bool
  whole : List Char
  fraction : List Char
  /-- The sign of the exponent, `true` for minus, and its digits. -/
  exponent : Option (Bool × List Char)
deriving DecidableEq

/-- A document, or the part of it that has correct syntax. -/
inductive Json where
  | null
  | bool (b : Bool)
  | number (n : Numeral)
  /-- A text; none if an escape in it spells no character. -/
  | str (s : Option String)
  /-- Items in order. An array that is not closed breaks behind its last item. -/
  | array (items : List Json) (closed : Bool)
  /-- Members in order, repeated keys included. -/
  | object (members : List (Option String × Json)) (closed : Bool)
  /-- No value at all. -/
  | malformed

namespace Json

/-- A text that spells characters only. -/
def ofString (s : String) : Json :=
  str (some s)

/-- A natural number. -/
def ofNat (n : Nat) : Json :=
  number ⟨false, Nat.toDigits 10 n, [], none⟩

/-- An integer. -/
def ofInt (n : Int) : Json :=
  number ⟨n < 0, Nat.toDigits 10 n.natAbs, [], none⟩

/-- A complete array. -/
def ofList (items : List Json) : Json :=
  array items true

/-- A complete object. -/
def ofMembers (members : List (String × Json)) : Json :=
  object (members.map fun (key, value) => (some key, value)) true

end Json

end Autograder
