import Autograder.Text.Cut

/-!
# Comparing output

Two outputs are compared in a normal form. Every style of line ending becomes a line feed, blanks
at both ends of the text and at the end of each line are dropped; everything else counts, case
included.
-/

namespace Autograder

/-- Writes every line ending as a line feed: a carriage return with the line feed behind it, or
alone. `out` holds the characters so far, latest first. -/
def unifyEndings (out : List Char) : List Char → List Char
  | [] => out.reverse
  | '\r' :: '\n' :: rest => unifyEndings ('\n' :: out) rest
  | c :: rest => unifyEndings ((if c = '\r' then '\n' else c) :: out) rest

/-- Lines with a line feed between any two. -/
def joinLines (lines : List (List Char)) : List Char :=
  ['\n'].intercalate lines

/-- The normal form of an output. -/
def normalForm (output : List Char) : List Char :=
  joinLines ((Text.lines (Text.trim (unifyEndings [] output))).map Text.trimEnd)

/-- The normal form of an output. -/
def normalizeOutput (output : String) : String :=
  String.ofList (normalForm output.toList)

/-- Two outputs count as the same. -/
def sameOutput (expected actual : String) : Bool :=
  normalizeOutput expected == normalizeOutput actual

end Autograder
