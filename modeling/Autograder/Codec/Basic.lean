import Autograder.Json.Numeral
import Autograder.Json.Reader
import Autograder.Json.Writer

/-!
# Codecs

A codec writes values of a type as documents and reads documents as values of that type. Reading
fails for one of two reasons, and the one that is met first in document order counts: the syntax of
the document is broken, or what it says does not fit the type.
-/

namespace Autograder

/-- Why a document has no value of a type. -/
inductive DecodeError where
  /-- The syntax breaks. -/
  | broken
  /-- The document says something else. -/
  | unfit
deriving DecidableEq

/-- Writes and reads values of a type. -/
structure Codec (α : Type) where
  encode : α → Json
  decode : Json → Except DecodeError α

namespace Json

/-- The failure at a value that is not of the kind that was wanted. A value without parts must be
read to be refused, so its own syntax comes first; an array or an object is refused at its start. -/
def misfit : Json → DecodeError
  | malformed => .broken
  | str none => .broken
  | number n => if n.toFloat?.isNone then .broken else .unfit
  | _ => .unfit

end Json

namespace Codec

/-- Text. -/
def string : Codec String where
  encode := Json.ofString
  decode
    | .str (some s) => .ok s
    | j => .error j.misfit

/-- Truth values. -/
def bool : Codec Bool where
  encode := Json.bool
  decode
    | .bool b => .ok b
    | j => .error j.misfit

/-- The natural numbers below a bound. -/
def natBelow (bound : Nat) : Codec Nat where
  encode := Json.ofNat
  decode
    | .number n =>
      match n.nat? with
      | some k => if k < bound then .ok k else .error (Json.number n).misfit
      | none => .error (Json.number n).misfit
    | j => .error j.misfit

/-- Numbers that a word of 64 bits holds. -/
def count : Codec Nat :=
  natBelow 18446744073709551616

/-- Words of 64 bits. -/
def word64 : Codec UInt64 where
  encode w := Json.ofNat w.toNat
  decode j := (count.decode j).map UInt64.ofNat

/-- Words of 32 bits. -/
def word32 : Codec UInt32 where
  encode w := Json.ofNat w.toNat
  decode j := ((natBelow 4294967296).decode j).map UInt32.ofNat

/-- Floats. -/
def float : Codec Float where
  encode := Json.ofFloat
  decode
    | .number n =>
      match n.toFloat? with
      | some x => .ok x
      | none => .error .broken
    | j => .error j.misfit

/-- Values with a written form. -/
def written (write : α → String) (read : String → Option α) : Codec α where
  encode a := Json.ofString (write a)
  decode j :=
    match string.decode j with
    | .ok s =>
      match read s with
      | some a => .ok a
      | none => .error .unfit
    | .error e => .error e

/-- A value or `null`. -/
def option (c : Codec α) : Codec (Option α) where
  encode
    | some a => c.encode a
    | none => .null
  decode
    | .null => .ok none
    | j => (c.decode j).map some

/-- Values in order. -/
def list (c : Codec α) : Codec (List α) where
  encode as := Json.ofList (as.map c.encode)
  decode
    | .array items closed =>
      match items.mapM c.decode with
      | .ok as => if closed then .ok as else .error .broken
      | .error e => .error e
    | j => .error j.misfit

/-- One of a few names: as text, or as the only key of an object whose value is `null`. -/
def oneOf (names : List (String × α)) (name : α → String) : Codec α where
  encode a := Json.ofString (name a)
  decode
    | .str (some s) => find s
    | .object ((some key, value) :: rest) closed =>
      match find key, value with
      | .error e, _ => .error e
      | .ok a, .null => if rest.isEmpty && closed then .ok a else .error .broken
      | .ok _, value => .error value.misfit
    | _ => .error .broken
where
  /-- The value with a name. -/
  find (s : String) : Except DecodeError α :=
    match names.lookup s with
    | some a => .ok a
    | none => .error .unfit

/-- Reads the document at the start of a text and gives back what follows it. -/
def readFirst (c : Codec α) (text : List Char) : Except DecodeError (α × List Char) :=
  let (j, rest) := Json.readFirst text
  (c.decode j).map fun a => (a, rest)

/-- Reads a text that is one document. -/
def read (c : Codec α) (text : List Char) : Except DecodeError α :=
  match c.readFirst text with
  | .ok (a, rest) => if Json.isEnd rest then .ok a else .error .broken
  | .error e => .error e

end Codec

end Autograder
