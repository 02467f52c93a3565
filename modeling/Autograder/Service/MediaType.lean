import Autograder.Text.Cut

/-!
# Media types

The media type of a request's body: a type, a subtype that may end in a suffix behind a plus, and
parameters. A body is taken for a document if the type is `application` and the subtype or its
suffix is `json`. Letters may be small or capital. Where the text is not well formed to its end,
parameters included, it names no media type.
-/

namespace Autograder

/-- A media type without its parameters, in small letters. -/
structure MediaType where
  type : List Char
  /-- The subtype up to its last plus. -/
  subtype : List Char
  /-- What follows the last plus of the subtype. -/
  suffix : Option (List Char)
deriving DecidableEq

namespace MediaType

/-- A character of a name. -/
def isToken (c : Char) : Bool :=
  c.isAlphanum || ['!', '#', '$', '%', '&', '\'', '*', '+', '-', '.', '^', '_', '`', '|', '~'].contains c

/-- A character that may stand between marks. -/
def isQuotable (c : Char) : Bool :=
  ' ' ≤ c && c ≠ '\x7f'

/-- The characters in front of the first that is no part of a name, and the rest. -/
def spanToken (text : List Char) : List Char × List Char :=
  (text.takeWhile isToken, text.dropWhile isToken)

/-- What follows a value between marks. There is at least one character between the marks, of any
kind that may stand there. -/
def afterQuoted? : List Char → Option (List Char)
  | c :: text =>
    if isQuotable c then
      match text.dropWhile fun d => isQuotable d && d != '"' with
      | '"' :: rest => some rest
      | _ => none
    else none
  | [] => none

/-- What follows the value of a parameter: the text behind the next semicolon, or nothing. -/
def afterValue? : List Char → Option (List Char)
  | '"' :: text =>
    (afterQuoted? text).bind fun rest =>
      match rest.dropWhile (· == ' ') with
      | [] => some []
      | ';' :: rest => some rest
      | _ => none
  | text =>
    match spanToken text with
    | (_, []) => some []
    | (_ :: _, ';' :: rest) => some rest
    | _ => none

/-- What follows the first parameter. -/
def afterParameter? (text : List Char) : Option (List Char) :=
  match spanToken text with
  | (_ :: _, '=' :: value) => afterValue? value
  | _ => none

/-- A text of parameters, with semicolons between any two. The bound is on their number. -/
def areParameters : Nat → List Char → Bool
  | 0, text => text.isEmpty
  | bound + 1, text =>
    match text.dropWhile (· == ' ') with
    | [] => true
    | text =>
      match afterParameter? text with
      | some rest => areParameters bound rest
      | none => false

/-- A subtype, split at its last plus. -/
def splitSuffix (text : List Char) : List Char × Option (List Char) :=
  let suffix := (text.reverse.takeWhile (· != '+')).reverse
  let subtype := text.take (text.length - suffix.length - 1)
  if subtype.isEmpty then (text, none) else (subtype, some suffix)

/-- The media type that a text names. -/
def ofText? (text : List Char) : Option MediaType :=
  match spanToken text with
  | (type@(_ :: _), '/' :: rest) =>
    let (name, rest) := spanToken rest
    let parameters :=
      match rest with
      | [] => true
      | ';' :: rest => !name.isEmpty && areParameters rest.length rest
      | _ => false
    if parameters then
      let (subtype, suffix) := splitSuffix (name.map Char.toLower)
      some ⟨type.map Char.toLower, subtype, suffix⟩
    else none
  | _ => none

/-- The type of documents. -/
def isDocument (m : MediaType) : Bool :=
  let json := ['j', 's', 'o', 'n']
  m.type = "application".toList && (m.subtype = json || m.suffix = some json)

end MediaType

end Autograder
