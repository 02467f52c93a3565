import Autograder.Guest.Arithmetic
import Autograder.Guest.Quoted
import Autograder.Text.Letter
import Autograder.Text.Numeral

/-!
# Tokens

The words of an arithmetic expression: literals, names, operators and round brackets. A row of
digits and points is one number, a word is a letter or underscore followed by letters, numerals and
underscores, and blanks separate tokens without being tokens. A text with anything else in it has
no tokens at all.
-/

namespace Autograder.Guest

/-- A word of an arithmetic expression. -/
inductive Token where
  | literal (v : Value)
  | name (n : String)
  | op (o : Operator)
  | opening
  | closing
deriving DecidableEq

/-- May start a name. -/
def startsName (c : Char) : Bool :=
  Text.isLetter c || c == '_'

/-- May stand in a name after its first character. -/
def continuesName (c : Char) : Bool :=
  Text.isLetter c || Text.isNumeral c || c == '_'

/-- The words that are no names although they are spelled like one. -/
def reservedWords : List (List Char) :=
  [['T', 'r', 'u', 'e'], ['F', 'a', 'l', 's', 'e'], ['i', 'f'], ['e', 'l', 'i', 'f'],
    ['e', 'l', 's', 'e'], ['p', 'r', 'i', 'n', 't']]

/-- The text can name a variable. -/
def isIdentifier : List Char → Bool
  | [] => false
  | c :: rest => startsName c && rest.all continuesName && !reservedWords.contains (c :: rest)

/-- The integer of 64 bits that the text denotes. -/
def intLiteral? (text : List Char) : Option Int64 :=
  (Decimal.integer? text).bind word?

/-- The number that an unsigned row of digits and points denotes: an integer if a word holds it. -/
def numberLiteral? (text : List Char) : Option Value :=
  match intLiteral? text with
  | some i => some (.int i)
  | none => (Decimal.decimal? text).map fun d => .float (Decimal.nearest d.digits d.exponent)

/-- The truth value that a word stands for. -/
def boolLiteral? : List Char → Option Bool
  | ['T', 'r', 'u', 'e'] => some true
  | ['F', 'a', 'l', 's', 'e'] => some false
  | _ => none

/-- The value or the name that a word stands for. -/
def wordToken (word : List Char) : Token :=
  match boolLiteral? word with
  | some b => .literal (.bool b)
  | none => .name (String.ofList word)

namespace Token

/-- Splits a text at the first mark that no backslash stands before. `body` holds the characters
already read, latest first. -/
def splitMark (mark : Char) (body : List Char) : List Char → Option (List Char × List Char)
  | [] => none
  | ['\\'] => none
  | '\\' :: c :: rest => splitMark mark (c :: '\\' :: body) rest
  | c :: rest => if c == mark then some (body.reverse, rest) else splitMark mark (c :: body) rest

theorem length_of_splitMark {mark : Char} {body text a b : List Char}
    (h : splitMark mark body text = some (a, b)) : b.length < text.length := by
  fun_induction splitMark mark body text with
  | case1 => simp at h
  | case2 => simp at h
  | case3 body c rest ih =>
    have := ih h
    simp
    omega
  | case4 body c rest _ _ _ =>
    simp only [Option.some.injEq, Prod.mk.injEq] at h
    simp [← h.2]
  | case5 body c rest _ _ _ ih =>
    have := ih h
    simp
    omega

/-- The operator at the start of a text. Two stars or two strokes are one operator. -/
def operator? : Char → List Char → Option (Operator × List Char)
  | '+', rest => some (.add, rest)
  | '-', rest => some (.sub, rest)
  | '%', rest => some (.mod, rest)
  | '*', '*' :: rest => some (.pow, rest)
  | '*', rest => some (.mul, rest)
  | '/', '/' :: rest => some (.floorDiv, rest)
  | '/', rest => some (.div, rest)
  | _, _ => none

/-- The literal that a mark starts. -/
def quoted? (mark : Char) (rest : List Char) : Option (Token × List Char) :=
  (splitMark mark [] rest).bind fun (body, after) =>
    (unescape mark [] body).map fun text => (literal (.str (String.ofList text)), after)

/-- A digit or a point. -/
def isNumeric (c : Char) : Bool :=
  Decimal.isDigit c || c == '.'

/-- The number that a digit or a point starts. -/
def number? (c : Char) (rest : List Char) : Option (Token × List Char) :=
  (numberLiteral? (c :: rest.takeWhile isNumeric)).map fun v =>
    (literal v, rest.dropWhile isNumeric)

/-- The word that a letter or an underscore starts. -/
def word (c : Char) (rest : List Char) : Token × List Char :=
  (wordToken (c :: rest.takeWhile continuesName), rest.dropWhile continuesName)

/-- The token that a character starts, with what follows it. -/
def next? (c : Char) (rest : List Char) : Option (Token × List Char) :=
  if c == '(' then some (opening, rest)
  else if c == ')' then some (closing, rest)
  else match operator? c rest with
    | some (o, after) => some (op o, after)
    | none =>
      if isMark c then quoted? c rest
      else if isNumeric c then number? c rest
      else if startsName c then some (word c rest)
      else none

theorem length_of_operator? {c : Char} {rest after : List Char} {o : Operator}
    (h : operator? c rest = some (o, after)) : after.length ≤ rest.length := by
  unfold operator? at h
  split at h <;> simp at h <;> simp [← h.2]

theorem length_of_quoted? {mark : Char} {rest after : List Char} {t : Token}
    (h : quoted? mark rest = some (t, after)) : after.length ≤ rest.length := by
  obtain ⟨⟨body, b⟩, hs, h⟩ := Option.bind_eq_some_iff.1 h
  obtain ⟨text, _, h⟩ := Option.map_eq_some_iff.1 h
  simp only [Prod.mk.injEq] at h
  rw [← h.2]
  exact Nat.le_of_lt (length_of_splitMark hs)

theorem length_of_number? {c : Char} {rest after : List Char} {t : Token}
    (h : number? c rest = some (t, after)) : after.length ≤ rest.length := by
  obtain ⟨v, _, h⟩ := Option.map_eq_some_iff.1 h
  simp only [Prod.mk.injEq] at h
  rw [← h.2]
  exact (List.dropWhile_sublist _).length_le

theorem length_of_next? {c : Char} {rest after : List Char} {t : Token}
    (h : next? c rest = some (t, after)) : after.length ≤ rest.length := by
  unfold next? at h
  split at h
  · simp at h; simp [h.2]
  split at h
  · simp at h; simp [h.2]
  split at h
  · rename_i ho
    simp only [Option.some.injEq, Prod.mk.injEq] at h
    exact h.2 ▸ length_of_operator? ho
  split at h
  · exact length_of_quoted? h
  split at h
  · exact length_of_number? h
  split at h
  · simp only [Option.some.injEq, word, Prod.mk.injEq] at h
    rw [← h.2]
    exact (List.dropWhile_sublist _).length_le
  · simp at h

/-- The tokens of a text, behind those already found, latest first. -/
def scanFrom (found : List Token) : List Char → Option (List Token)
  | [] => some found.reverse
  | c :: rest =>
    if Text.isBlank c then scanFrom found rest
    else match h : next? c rest with
      | none => none
      | some (t, after) =>
        have := length_of_next? h
        scanFrom (t :: found) after
termination_by text => text.length

/-- The tokens of a text, if it consists of tokens and blanks. -/
def ofText? (text : List Char) : Option (List Token) :=
  scanFrom [] text

end Token

end Autograder.Guest
