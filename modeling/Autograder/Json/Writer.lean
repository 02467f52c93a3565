import Autograder.Json.Basic
import Autograder.Text.Hex

/-!
# Writing documents

The text of a document: `compact` on one line without blanks, `pretty` with one item or member a
line and two blanks for each level. A float is written with the fewest digits that read back,
always with a point or an exponent, and positionally from `1e-5` up to `1e16`.
-/

namespace Autograder

/-- The text of a number. -/
def Numeral.text (n : Numeral) : List Char :=
  let sign := if n.negative then ['-'] else []
  let fraction := if n.fraction.isEmpty then [] else '.' :: n.fraction
  let exponent :=
    match n.exponent with
    | none => []
    | some (negative, digits) => 'e' :: ((if negative then ['-'] else []) ++ digits)
  sign ++ n.whole ++ fraction ++ exponent

/-- The written form of a decimal: `leading` is the number of digits before the point in positional
form, zero or negative if the number starts behind it. -/
def Numeral.ofDigits (negative : Bool) (d : Decimal.Digits) : Numeral :=
  let digits := Nat.toDigits 10 d.digits
  let leading := (digits.length : Int) + d.exponent
  if 0 ≤ d.exponent && leading ≤ 16 then
    ⟨negative, digits ++ List.replicate d.exponent.toNat '0', ['0'], none⟩
  else if 0 < leading && leading ≤ 16 then
    ⟨negative, digits.take leading.toNat, digits.drop leading.toNat, none⟩
  else if -5 < leading && leading ≤ 0 then
    ⟨negative, ['0'], List.replicate (-leading).toNat '0' ++ digits, none⟩
  else
    ⟨negative, digits.take 1, digits.drop 1,
      some (leading - 1 < 0, Nat.toDigits 10 (leading - 1).natAbs)⟩

/-- The decimal without the zeros at the end of its digits. -/
def Decimal.Digits.reduce (d : Decimal.Digits) : Decimal.Digits :=
  let digits := Nat.toDigits 10 d.digits
  let kept := (digits.reverse.dropWhile (· == '0')).reverse
  ⟨Decimal.natOfDigits kept, d.exponent + ((digits.length : Int) - kept.length)⟩

namespace Json

/-- A float. What is no number is written as nothing. -/
def ofFloat (x : Float) : Json :=
  if x.isFinite then
    let m := Decimal.Magnitude.ofBits x.toBits
    let digits := if m.significand = 0 then ⟨0, 0⟩ else m.shortest.reduce
    number (Numeral.ofDigits (Decimal.isNegative x) digits)
  else null

/-- A character within a text: marks, backslashes and control characters are escaped. -/
def escape (c : Char) : List Char :=
  if c == '"' then ['\\', '"']
  else if c == '\\' then ['\\', '\\']
  else if c == '\x08' then ['\\', 'b']
  else if c == '\t' then ['\\', 't']
  else if c == '\n' then ['\\', 'n']
  else if c == '\x0c' then ['\\', 'f']
  else if c == '\r' then ['\\', 'r']
  else if c.val < 0x20 then
    ['\\', 'u', '0', '0', Text.hexDigit (c.toNat / 16), Text.hexDigit (c.toNat % 16)]
  else [c]

/-- A text between marks. A text without a value has no written form; the empty text stands for
it. -/
def writeText (s : Option String) : List Char :=
  '"' :: ((s.getD "").toList.flatMap escape ++ ['"'])

mutual

/-- The text of a document on one line. -/
def compact : Json → List Char
  | null => ['n', 'u', 'l', 'l']
  | bool true => ['t', 'r', 'u', 'e']
  | bool false => ['f', 'a', 'l', 's', 'e']
  | number n => n.text
  | str s => writeText s
  | array items _ => '[' :: (compactItems items ++ [']'])
  | object members _ => '{' :: (compactMembers members ++ ['}'])
  | malformed => []

/-- Items with commas between them. -/
def compactItems : List Json → List Char
  | [] => []
  | [item] => item.compact
  | item :: items => item.compact ++ ',' :: compactItems items

/-- Members with commas between them. -/
def compactMembers : List (Option String × Json) → List Char
  | [] => []
  | [(key, value)] => writeText key ++ ':' :: value.compact
  | (key, value) :: members => writeText key ++ ':' :: (value.compact ++ ',' :: compactMembers members)

end

/-- A new line at a level. -/
def newLine (level : Nat) : List Char :=
  '\n' :: List.replicate (2 * level) ' '

mutual

/-- The text of a document over several lines, from a level on. -/
def prettyAt (level : Nat) : Json → List Char
  | array [] _ => ['[', ']']
  | array items _ => '[' :: (prettyItems (level + 1) items ++ (newLine level ++ [']']))
  | object [] _ => ['{', '}']
  | object members _ => '{' :: (prettyMembers (level + 1) members ++ (newLine level ++ ['}']))
  | value => value.compact

/-- Items, each on a line of its own. -/
def prettyItems (level : Nat) : List Json → List Char
  | [] => []
  | [item] => newLine level ++ item.prettyAt level
  | item :: items => newLine level ++ (item.prettyAt level ++ ',' :: prettyItems level items)

/-- Members, each on a line of its own. -/
def prettyMembers (level : Nat) : List (Option String × Json) → List Char
  | [] => []
  | [(key, value)] => newLine level ++ (writeText key ++ ':' :: ' ' :: value.prettyAt level)
  | (key, value) :: members =>
    newLine level ++
      (writeText key ++ ':' :: ' ' :: (value.prettyAt level ++ ',' :: prettyMembers level members))

end

/-- The text of a document over several lines. -/
def pretty (value : Json) : List Char :=
  value.prettyAt 0

end Json

end Autograder
