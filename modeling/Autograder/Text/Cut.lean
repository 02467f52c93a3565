import Autograder.Text.Blank

/-!
# Cutting text

Segments, lines and words of a text, and the search for one text inside another. All are written
with the list operators of the core library, so that a text of a million characters is cut without
deep recursion.
-/

namespace Autograder.Text

/-- One more character in front of a list of segments. -/
def consSegment (cut : Char → Bool) (c : Char) (parts : List (List Char)) : List (List Char) :=
  if cut c then [] :: parts
  else match parts with
    | [] => [[c]]
    | part :: rest => (c :: part) :: rest

/-- The pieces between the characters that `cut` selects; there is one more piece than there are
cuts. -/
def segments (cut : Char → Bool) (text : List Char) : List (List Char) :=
  text.foldr (consSegment cut) [[]]

@[simp] theorem segments_nil (cut : Char → Bool) : segments cut [] = [[]] := rfl

@[simp] theorem segments_cons (cut : Char → Bool) (c : Char) (text : List Char) :
    segments cut (c :: text) = consSegment cut c (segments cut text) := rfl

theorem segments_ne_nil (cut : Char → Bool) (text : List Char) : segments cut text ≠ [] := by
  cases text with
  | nil => simp
  | cons c text =>
    rw [segments_cons]
    simp only [consSegment]
    split
    · simp
    · split <;> simp

/-- A line that a line feed ends also loses one carriage return before the line feed. -/
def dropReturn (line : List Char) : List Char :=
  if line.getLast? = some '\r' then line.dropLast else line

/-- The lines of a text. What follows the last line feed is a line only if it is not empty. -/
def lines (text : List Char) : List (List Char) :=
  let parts := segments (· == '\n') text
  let unended := parts.getLast?.getD []
  parts.dropLast.map dropReturn ++ if unended.isEmpty then [] else [unended]

/-- The longest pieces without a blank. -/
def words (text : List Char) : List (List Char) :=
  (segments isBlank text).filter fun word => !word.isEmpty

/-- The sought text stands somewhere in the text. -/
def contains (sought : List Char) : List Char → Bool
  | [] => sought.isEmpty
  | c :: text => sought.isPrefixOf (c :: text) || contains sought text

/-- What follows a given beginning, if the text has it. -/
def after? : List Char → List Char → Option (List Char)
  | [], text => some text
  | _ :: _, [] => none
  | b :: start, c :: text => if b == c then after? start text else none

theorem after?_eq_some_iff {start text rest : List Char} :
    after? start text = some rest ↔ text = start ++ rest := by
  induction start generalizing text with
  | nil => simp [after?]
  | cons b start ih =>
    cases text with
    | nil => simp [after?]
    | cons c text =>
      by_cases h : b = c
      · subst h
        simp [after?, ih]
      · simp only [after?, beq_iff_eq, h, if_false, List.cons_append, List.cons.injEq]
        simp [Ne.symm h]

/-- What precedes a given ending, if the text has it. -/
def before? (ending text : List Char) : Option (List Char) :=
  (after? ending.reverse text.reverse).map List.reverse

theorem before?_eq_some_iff {ending text rest : List Char} :
    before? ending text = some rest ↔ text = rest ++ ending := by
  simp only [before?, Option.map_eq_some_iff, after?_eq_some_iff]
  constructor
  · rintro ⟨r, h, rfl⟩
    simpa using congrArg List.reverse h
  · rintro rfl
    exact ⟨rest.reverse, by simp, by simp⟩

/-- The length of the text in UTF-8. -/
def byteLength (text : List Char) : Nat :=
  text.foldl (fun n c => n + c.utf8Size) 0

end Autograder.Text
