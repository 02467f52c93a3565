import Autograder.Guest.Scan

/-!
# Quoted literals

Text in quotation marks and its meaning. A backslash stands for itself at the end of the literal;
elsewhere `\n` and `\t` mean a line feed and a tab, and a backslash before any other character
means that character. `quote` is the way back: it writes a text as a literal on one line.
-/

namespace Autograder.Guest

/-- The meaning of the text between two marks. `out` holds what is already read, latest first. A
bare mark shows that the text is more than one literal. -/
def unescape (mark : Char) (out : List Char) : List Char → Option (List Char)
  | [] => some out.reverse
  | ['\\'] => some ('\\' :: out).reverse
  | '\\' :: c :: rest =>
    unescape mark ((if c == 'n' then '\n' else if c == 't' then '\t' else c) :: out) rest
  | c :: rest => if c == mark then none else unescape mark (c :: out) rest

/-- The meaning of a text that is one quoted literal. -/
def quotedLiteral? : List Char → Option (List Char)
  | [] => none
  | mark :: rest =>
    if isMark mark && rest.getLast? == some mark then unescape mark [] rest.dropLast else none

/-- A character within single quotes. -/
def quoteChar (c : Char) : List Char :=
  if c == '\\' then ['\\', '\\']
  else if c == '\'' then ['\\', '\'']
  else if c == '\n' then ['\\', 'n']
  else [c]

/-- A text as a literal in single quotes. -/
def quote (text : List Char) : List Char :=
  '\'' :: (text.flatMap quoteChar ++ ['\''])

end Autograder.Guest
