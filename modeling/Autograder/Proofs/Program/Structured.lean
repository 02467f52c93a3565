import Autograder.Proofs.Program.Run
import Autograder.Proofs.Program.Source

/-!
# Structured programs

A program as a tree: a block is a row of items, and an item is a simple statement or a chain of
branches whose bodies are blocks again. The interpreter never builds this tree. It finds the end of
each body by indentation while it runs. Here the tree comes first, with a meaning that follows its
structure (`Block.run`) and with all the ways of writing it down (`Block.Rendered`).

## What counts as a rendering

Within one block every item and every header has the same indentation, and the body of a header has
any greater one; two bodies of one chain may differ. Indentation is a number of blanks, whichever
they are, and more blanks may follow a line. Blank lines and comments may stand anywhere. So the
renderings include those with carriage returns before the line feeds and those that end in a line
feed, and nothing is said about them apart.

## Main definitions

* `Phrase`, `SimpleStatement` — the texts of guards and of simple statements
* `Block`, `Others` — structured programs, and what may follow the first branch of a chain
* `Block.run` — their meaning
* `Block.Rendered` — their renderings, as lists of lines
-/

namespace Autograder.Guest

/-- A text that is neither empty nor blank at an end. -/
structure Phrase where
  chars : List Char
  chars_ne_nil : chars ≠ []
  trimmed : Text.Trimmed chars

/-- A phrase that is neither a comment nor a header. -/
structure SimpleStatement extends Phrase where
  not_comment : chars.head? ≠ some '#'
  not_header : Header.ofText? chars = none

mutual

/-- A block: its items in order. -/
inductive Block where
  /-- There are no more items. -/
  | done
  /-- A simple statement, then the other items. -/
  | simple (statement : SimpleStatement) (rest : Block)
  /-- A chain with its first branch, its other branches, then the other items. -/
  | chain (guard : Phrase) (body : Block) (others : Others) (rest : Block)

/-- The branches of a chain behind the first. -/
inductive Others where
  /-- There are no more branches. -/
  | stop
  /-- A branch with a guard of its own, then the other branches. -/
  | alternative (guard : Phrase) (body : Block) (others : Others)
  /-- The branch without a guard. -/
  | otherwise (body : Block)

end

/-! ### Meaning -/

/-- Evaluates a guard and ends as the branch that it selects, or in its fault. -/
def State.select (s : State) (guard : Phrase) (taken passed : Ending) : Ending :=
  s.withValue (evaluateCondition s.vars guard.chars) fun holds => if holds then taken else passed

mutual

/-- Runs the items in order until one ends in a fault. Of a chain the guards are evaluated in order
up to the first that holds, and only its body runs. -/
def Block.run : Block → State → Ending
  | .done, s => ⟨s, none⟩
  | .simple statement rest, s =>
    ((Statement.ofText statement.chars).execute s).andThen rest.run
  | .chain guard body others rest, s =>
    (s.select guard (body.run s) (others.run s)).andThen rest.run

/-- Runs the branches behind a first one that was not taken. -/
def Others.run : Others → State → Ending
  | .stop, s => ⟨s, none⟩
  | .alternative guard body others, s => s.select guard (body.run s) (others.run s)
  | .otherwise body, s => body.run s

end

/-! ### Renderings -/

/-- A line shows a phrase at an indentation: that many blanks, the phrase, perhaps more blanks. -/
def Shows (indent : Nat) (text written : List Char) : Prop :=
  ∃ pad trail, written = pad ++ text ++ trail ∧ pad.length = indent ∧
    (∀ c ∈ pad, Text.isBlank c = true) ∧ ∀ c ∈ trail, Text.isBlank c = true

/-- A blank line or a comment. -/
def IsIdle (written : List Char) : Prop :=
  Text.trim written = [] ∨ (Text.trimStart written).head? = some '#'

/-- A header with a guard: the keyword, the guard, a colon. Blanks set the guard off from the
keyword unless it starts with a bracket. -/
def HeaderOf (keyword : List Char) (guard : Phrase) (text : List Char) : Prop :=
  ∃ gap behind, text = keyword ++ (gap ++ guard.chars ++ behind) ++ [':'] ∧
    (∀ c ∈ gap, Text.isBlank c = true) ∧ (∀ c ∈ behind, Text.isBlank c = true) ∧
    (gap = [] → guard.chars.head? = some '(')

/-- The header without a guard: its keyword, a colon. -/
def HeaderOfElse (text : List Char) : Prop :=
  ∃ behind, text = ['e', 'l', 's', 'e'] ++ behind ++ [':'] ∧ ∀ c ∈ behind, Text.isBlank c = true

mutual

/-- The lines show the block at an indentation. -/
inductive Block.Rendered : Nat → Block → List (List Char) → Prop
  | done {w} : Block.Rendered w .done []
  | idle {w b line lines} : IsIdle line → Block.Rendered w b lines →
      Block.Rendered w b (line :: lines)
  | simple {w statement rest line lines} : Shows w statement.chars line →
      Block.Rendered w rest lines → Block.Rendered w (.simple statement rest) (line :: lines)
  | chain {w v guard body others rest text line inner more lines} :
      HeaderOf ['i', 'f'] guard text → Shows w text line → w < v →
      Block.Rendered v body inner → Others.Rendered w others more → Block.Rendered w rest lines →
      Block.Rendered w (.chain guard body others rest) (line :: (inner ++ (more ++ lines)))

/-- The lines show the further branches of a chain whose headers stand at an indentation. -/
inductive Others.Rendered : Nat → Others → List (List Char) → Prop
  | stop {w} : Others.Rendered w .stop []
  | alternative {w v guard body others text line inner more} :
      HeaderOf ['e', 'l', 'i', 'f'] guard text → Shows w text line → w < v →
      Block.Rendered v body inner → Others.Rendered w others more →
      Others.Rendered w (.alternative guard body others) (line :: (inner ++ more))
  | otherwise {w v body text line inner} : HeaderOfElse text → Shows w text line → w < v →
      Block.Rendered v body inner → Others.Rendered w (.otherwise body) (line :: inner)

end

/-! ### A rendering of every program

Bodies stand four blanks deeper than their headers, and nothing else is added. -/

/-- A text behind a number of blanks. -/
def indented (w : Nat) (text : List Char) : List Char :=
  List.replicate w ' ' ++ text

/-- A header as it is usually written. -/
def Phrase.header (guard : Phrase) (keyword : List Char) : List Char :=
  keyword ++ ([' '] ++ guard.chars ++ []) ++ [':']

mutual

/-- The lines of a block at an indentation. -/
def Block.written : Block → Nat → List (List Char)
  | .done, _ => []
  | .simple statement rest, w => indented w statement.chars :: rest.written w
  | .chain guard body others rest, w =>
    indented w (guard.header ['i', 'f'])
      :: (body.written (w + 4) ++ (others.written w ++ rest.written w))

/-- The lines of further branches whose headers stand at an indentation. -/
def Others.written : Others → Nat → List (List Char)
  | .stop, _ => []
  | .alternative guard body others, w =>
    indented w (guard.header ['e', 'l', 'i', 'f']) :: (body.written (w + 4) ++ others.written w)
  | .otherwise body, w => indented w ['e', 'l', 's', 'e', ':'] :: body.written (w + 4)

end

theorem shows_indented (w : Nat) (text : List Char) : Shows w text (indented w text) := by
  refine ⟨List.replicate w ' ', [], by simp [indented], List.length_replicate, ?_, by simp⟩
  intro c hc
  exact Text.isBlank_of_mem_spaces hc

theorem Phrase.headerOf_header (guard : Phrase) (keyword : List Char) :
    HeaderOf keyword guard (guard.header keyword) :=
  ⟨[' '], [], rfl, List.all_eq_true.mp (by decide), by simp, by simp⟩

mutual

/-- **Every structured program has a rendering** at every indentation. -/
theorem Block.rendered_written : ∀ (b : Block) (w : Nat), b.Rendered w (b.written w)
  | .done, _ => .done
  | .simple statement rest, w => .simple (shows_indented w _) (rest.rendered_written w)
  | .chain guard body others rest, w =>
    .chain (guard.headerOf_header _) (shows_indented w _) (Nat.lt_add_of_pos_right (by decide))
      (body.rendered_written (w + 4)) (others.rendered_written w) (rest.rendered_written w)

theorem Others.rendered_written : ∀ (o : Others) (w : Nat), o.Rendered w (o.written w)
  | .stop, _ => .stop
  | .alternative guard body others, w =>
    .alternative (guard.headerOf_header _) (shows_indented w _)
      (Nat.lt_add_of_pos_right (by decide)) (body.rendered_written (w + 4))
      (others.rendered_written w)
  | .otherwise body, w =>
    .otherwise ⟨[], rfl, by simp⟩ (shows_indented w _) (Nat.lt_add_of_pos_right (by decide))
      (body.rendered_written (w + 4))

end

end Autograder.Guest
