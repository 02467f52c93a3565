import Autograder.Guest.Term

/-!
# Templates

A template is text with slots in braces. A slot stands for the value of the name in it; a slot whose
name has no value stays as it is written, and so does a brace that is never closed. The pieces of a
template are found before any value is looked at, so braces in a value are never read as slots.
-/

namespace Autograder.Guest

/-- A piece of a template. -/
inductive Piece where
  /-- Text that stands for itself. -/
  | text (chars : List Char)
  /-- What stands between two braces. -/
  | slot (name : List Char)
deriving DecidableEq

namespace Piece

/-- How a piece was written. -/
def source : Piece → List Char
  | text chars => chars
  | slot name => '{' :: (name ++ ['}'])

/-- Writes a piece behind the text produced so far. Only a text value counts against the size
limit. -/
def append (vars : Bindings) (out : String) : Piece → Except Fault String
  | text chars => .ok (out ++ String.ofList chars)
  | slot name =>
    match vars.get? (String.ofList (Text.trim name)) with
    | some (.str s) => (checkSize (out.utf8ByteSize + s.utf8ByteSize)).map fun _ => out ++ s
    | some v => .ok (out ++ v.text)
    | none => .ok (out ++ String.ofList (slot name).source)

end Piece

/-- The pieces of a template. -/
def pieces (template : List Char) : List Piece :=
  let before := Piece.text (template.takeWhile (· != '{'))
  match h : template.dropWhile (· != '{') with
  | [] => [before]
  | brace :: rest =>
    match h' : rest.dropWhile (· != '}') with
    | [] => [before, .text (brace :: rest)]
    | _ :: after =>
      have : after.length < template.length := by
        have h₁ := (List.dropWhile_sublist (p := (· != '{')) (l := template)).length_le
        have h₂ := (List.dropWhile_sublist (p := (· != '}')) (l := rest)).length_le
        simp [h] at h₁
        simp [h'] at h₂
        omega
      before :: .slot (rest.takeWhile (· != '}')) :: pieces after
termination_by template.length

/-- The text of a template with the values of its names put in. -/
def interpolate (vars : Bindings) (template : List Char) : Except Fault String :=
  (pieces template).foldlM (Piece.append vars) ""

end Autograder.Guest
