import Autograder.Guest.Line
import Autograder.Guest.Statement

/-!
# The machine

The state of a run and what a single statement does to it. A fault ends the run; the state that it
leaves behind still holds all that was printed before.
-/

namespace Autograder.Guest

/-- The state of a run. -/
structure State where
  vars : Bindings
  /-- The lines of input that are not read yet. -/
  unread : List String
  /-- How many lines of input have been read. -/
  cursor : Nat
  /-- The printed lines, latest first. -/
  printed : List String
  /-- The bytes of the printed lines, with a line feed for each. Behind a line that was refused, its
  bytes as well. -/
  printedBytes : Nat
  /-- How often the run has looked whether it is told to stop. -/
  checks : Nat
  /-- The places of the lines that acted, latest first: a statement by being executed, a guard by
  being evaluated. -/
  visited : List Nat
deriving DecidableEq

/-- The state before the first line. -/
def State.initial (input : List String) : State :=
  ⟨.empty, input, 0, [], 0, 0, []⟩

/-- A state in which a run or a part of it ended, and the fault that ended it, if one did. -/
structure Ending where
  state : State
  fault : Option Fault
deriving DecidableEq

namespace State

/-- The printed lines in order. -/
def output (s : State) : List String :=
  s.printed.reverse

/-- Notes that a line acts. -/
def visit (s : State) (line : Line) : State :=
  { s with visited := line.number :: s.visited }

/-- Gives a name a value. -/
def bind (s : State) (name : List Char) (v : Value) : State :=
  { s with vars := s.vars.insert (String.ofList name) v }

/-- Prints a line unless the output would grow too long. Its bytes are counted in either case. -/
def print (s : State) (line : String) : Ending :=
  let bytes := s.printedBytes + line.utf8ByteSize + 1
  if bytes ≤ maxOutputBytes then
    ⟨{ s with printed := line :: s.printed, printedBytes := bytes }, none⟩
  else ⟨{ s with printedBytes := bytes }, some .outputTooLong⟩

/-- Reads the next line of input and goes on with it. -/
def reading (s : State) (next : State → String → Ending) : Ending :=
  match s.unread with
  | [] => ⟨s, some .endOfInput⟩
  | line :: rest => next { s with unread := rest, cursor := s.cursor + 1 } line

/-- Goes on with a value, or ends with the fault that it is. -/
def withValue (s : State) (v : Except Fault α) (next : α → Ending) : Ending :=
  match v with
  | .ok a => next a
  | .error f => ⟨s, some f⟩

/-- Gives each name the number in its field, from left to right. -/
def bindFields (s : State) (kind : NumberKind) : List (List Char × List Char) → Ending
  | [] => ⟨s, none⟩
  | (name, field) :: rest =>
    s.withValue (kind.read field) fun v => (s.bind name v).bindFields kind rest

end State

/-- The line that a print statement prints. -/
def printLine (vars : Bindings) (arguments : List Char) : Except Fault String :=
  if Text.allBlank arguments then .ok ""
  else
    ((splitTopLevel ',' arguments).mapM fun argument =>
      (evaluate vars argument).map Value.text).map (" ".intercalate ·)

/-- Gives the names the fields of a line, if they are equally many. -/
def State.readFields (s : State) (names : List (List Char)) (kind : NumberKind) (line : String) :
    Ending :=
  let fields := Text.words line.toList
  if fields.length < names.length then ⟨s, some (.tooFewFields names.length fields.length)⟩
  else if names.length < fields.length then ⟨s, some (.tooManyFields names.length)⟩
  else s.bindFields kind (names.zip fields)

/-- Executes a statement. -/
def Statement.execute (s : State) : Statement → Ending
  | print arguments => s.withValue (printLine s.vars arguments) s.print
  | readFields names kind => s.reading fun s line => s.readFields names kind line
  | readNumber name kind =>
    s.reading fun s line => s.withValue (kind.read line.toList) fun v => ⟨s.bind name v, none⟩
  | readLine name trimmed =>
    s.reading fun s line =>
      let line := if trimmed then String.ofList (Text.trim line.toList) else line
      ⟨s.bind name (.str line), none⟩
  | assign name none expression =>
    s.withValue (evaluate s.vars expression) fun v => ⟨s.bind name v, none⟩
  | assign name (some op) expression =>
    s.withValue (evaluate s.vars expression) fun v =>
      match s.vars.get? (String.ofList name) with
      | none => ⟨s, some (.unbound (String.ofList name))⟩
      | some old => s.withValue (old.binary op v) fun new => ⟨s.bind name new, none⟩
  | ignored => ⟨s, none⟩

end Autograder.Guest
