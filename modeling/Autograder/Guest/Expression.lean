import Autograder.Guest.Template
import Autograder.Text.Casing

/-!
# Expressions

What a guest program may write where a value is wanted. The text is tried against a fixed list of
forms and the first that fits decides: literals, templates, a method behind a receiver, a call of a
built-in function, and last a bare text. A bare text is the value of the name it spells, else the
value of the arithmetic term it spells, else itself.

`Form.ofText` recognises the form without looking at any value; `evaluate` gives it its meaning.
Receivers and arguments are shorter than the text they stand in, so evaluation ends.
-/

namespace Autograder.Guest

/-! ## Numbers in text -/

/-- The number that a text with a point denotes; of signs only a minus is allowed. -/
def decimalLiteral? (text : List Char) : Option Float :=
  let value := fun (digits : List Char) =>
    if digits.contains '.' then
      (Decimal.decimal? digits).map fun d => Decimal.nearest d.digits d.exponent
    else none
  match text with
  | '-' :: digits => (value digits).map fun x => -x
  | digits => value digits

/-- Reads an integer from text; blanks around it do not matter. -/
def readInt (text : List Char) : Except Fault Value :=
  match intLiteral? (Text.trim text) with
  | some i => .ok (.int i)
  | none => .error (.notInteger (String.ofList text))

/-- Reads a float from text: a number with a point, or an integer of 64 bits. The integer zero
keeps its sign. -/
def readFloat (text : List Char) : Except Fault Value :=
  let trimmed := Text.trim text
  match decimalLiteral? trimmed, intLiteral? trimmed with
  | some x, _ => .ok (.float x)
  | none, some _ =>
    let (negative, digits) := Decimal.splitSign trimmed
    let x := Decimal.nearest (Decimal.natOfDigits digits) 0
    .ok (.float (if negative then -x else x))
  | none, none => .error (.notDecimal (String.ofList text))

/-! ## Methods and functions -/

/-- What can stand behind a receiver. -/
inductive Method where
  | reverse
  | lower
  | upper
deriving DecidableEq, Repr

namespace Method

/-- How a method is written behind its receiver. -/
def ending : Method → List Char
  | reverse => ['[', ':', ':', '-', '1', ']']
  | lower => ['.', 'l', 'o', 'w', 'e', 'r', '(', ')']
  | upper => ['.', 'u', 'p', 'p', 'e', 'r', '(', ')']

/-- The value of a method; only text has methods. -/
def apply : Method → Value → Except Fault Value
  | reverse, .str s => .ok (.str (String.ofList s.toList.reverse))
  | lower, .str s => .ok (.str (String.ofList (Text.lower s.toList)))
  | upper, .str s => .ok (.str (String.ofList (Text.upper s.toList)))
  | reverse, v => .error (.notReversible v.kind)
  | lower, v => .error (.noMethod v.kind "lower")
  | upper, v => .error (.noMethod v.kind "upper")

end Method

/-- The built-in functions. -/
inductive Builtin where
  | str
  | int
  | len
deriving DecidableEq, Repr

namespace Builtin

/-- The name of a function. -/
def name : Builtin → List Char
  | str => ['s', 't', 'r']
  | int => ['i', 'n', 't']
  | len => ['l', 'e', 'n']

/-- The value of a function. A float loses its fraction and is held within 64 bits. -/
def apply : Builtin → Value → Except Fault Value
  | str, v => .ok (.str v.text)
  | int, .int i => .ok (.int i)
  | int, .bool b => .ok (.int (if b then 1 else 0))
  | int, .float x => if x.isFinite then .ok (.int x.toInt64) else .error (.noIntegerPart x)
  | int, .str s => readInt s.toList
  | len, .str s => .ok (.int (Int64.ofNat s.length))
  | len, v => .error (.noLength v.kind)

end Builtin

/-! ## Forms -/

/-- The forms of an expression. -/
inductive Form where
  | literal (v : Value)
  | template (chars : List Char)
  | method (m : Method) (receiver : List Char)
  | call (f : Builtin) (argument : List Char)
  | bare
deriving DecidableEq

namespace Form

/-- A template is a quoted literal behind an `f`. -/
def template? : List Char → Option Form
  | 'f' :: rest => (quotedLiteral? rest).map template
  | 'F' :: rest => (quotedLiteral? rest).map template
  | _ => none

/-- Text in quotation marks, and nothing at all, which is the empty text. -/
def text? : List Char → Option Form
  | [] => some (literal (.str ""))
  | text => (quotedLiteral? text).map fun s => literal (.str (String.ofList s))

/-- A method behind a receiver. -/
def method? (m : Method) (text : List Char) : Option Form :=
  (Text.before? m.ending text).map (method m)

/-- A call of a built-in function that spans the whole text. -/
def call? (f : Builtin) (text : List Char) : Option Form :=
  (callArgument? f.name text).map (call f)

/-- The value of a constant: an integer, a number with a point, or a truth value. -/
def constantValue? (text : List Char) : Option Value :=
  match intLiteral? text with
  | some i => some (.int i)
  | none =>
    match decimalLiteral? text with
    | some x => some (.float x)
    | none => (boolLiteral? text).map .bool

/-- A number or a truth value. -/
def constant? (text : List Char) : Option Form :=
  (constantValue? text).map literal

/-- The recognisers of the forms, in the order in which they are tried. -/
def recognisers : List (List Char → Option Form) :=
  [text?, template?, method? .reverse, method? .lower, method? .upper, call? .str, call? .int,
    call? .len, constant?]

/-- The form of a text without blanks at its ends: the first that fits. -/
def ofText (text : List Char) : Form :=
  (recognisers.findSome? fun recognise => recognise text).getD bare

/-- What a form evaluates on its own is shorter than the text of the form. -/
def Shrinks (text : List Char) : Form → Prop
  | method _ receiver => receiver.length < text.length
  | call _ argument => argument.length < text.length
  | _ => True

theorem shrinks_of_text? {text : List Char} {f : Form} (h : text? text = some f) :
    f.Shrinks text := by
  unfold text? at h
  split at h
  · simp only [Option.some.injEq] at h
    simp [← h, Shrinks]
  · obtain ⟨s, _, rfl⟩ := Option.map_eq_some_iff.1 h
    simp [Shrinks]

theorem shrinks_of_template? {text : List Char} {f : Form} (h : template? text = some f) :
    f.Shrinks text := by
  unfold template? at h
  split at h
  · obtain ⟨s, _, rfl⟩ := Option.map_eq_some_iff.1 h
    simp [Shrinks]
  · obtain ⟨s, _, rfl⟩ := Option.map_eq_some_iff.1 h
    simp [Shrinks]
  · simp at h

theorem shrinks_of_method? {m : Method} {text : List Char} {f : Form}
    (h : method? m text = some f) : f.Shrinks text := by
  obtain ⟨receiver, hr, rfl⟩ := Option.map_eq_some_iff.1 h
  rw [Text.before?_eq_some_iff.1 hr]
  cases m <;> simp [Shrinks, Method.ending]

theorem shrinks_of_call? {g : Builtin} {text : List Char} {f : Form}
    (h : call? g text = some f) : f.Shrinks text := by
  obtain ⟨argument, ha, rfl⟩ := Option.map_eq_some_iff.1 h
  exact length_of_callArgument? ha

theorem shrinks_of_constant? {text : List Char} {f : Form} (h : constant? text = some f) :
    f.Shrinks text := by
  obtain ⟨v, _, rfl⟩ := Option.map_eq_some_iff.1 h
  simp [Shrinks]

theorem shrinks_ofText (text : List Char) : (ofText text).Shrinks text := by
  unfold ofText
  cases hf : recognisers.findSome? fun recognise => recognise text with
  | none => simp [Shrinks]
  | some f =>
    obtain ⟨recognise, hr, h⟩ := List.exists_of_findSome?_eq_some hf
    simp only [recognisers, List.mem_cons, List.not_mem_nil, or_false] at hr
    rcases hr with rfl | rfl | rfl | rfl | rfl | rfl | rfl | rfl | rfl
    · exact shrinks_of_text? h
    · exact shrinks_of_template? h
    · exact shrinks_of_method? h
    · exact shrinks_of_method? h
    · exact shrinks_of_method? h
    · exact shrinks_of_call? h
    · exact shrinks_of_call? h
    · exact shrinks_of_call? h
    · exact shrinks_of_constant? h

end Form

/-! ## Evaluation -/

/-- The value of a bare text. -/
def bareValue (vars : Bindings) (text : List Char) : Except Fault Value :=
  match vars.get? (String.ofList text) with
  | some v => .ok v
  | none =>
    match Term.ofText? text with
    | some t => t.eval vars
    | none => .ok (.str (String.ofList text))

/-- The value of an expression. -/
def evaluate (vars : Bindings) (text : List Char) : Except Fault Value :=
  match h : Form.ofText (Text.trim text) with
  | .literal v => .ok v
  | .template chars => (interpolate vars chars).map .str
  | .method m receiver =>
    have : receiver.length < text.length := by
      have hs := Form.shrinks_ofText (Text.trim text)
      rw [h] at hs
      exact Nat.lt_of_lt_of_le hs (Text.length_trim_le text)
    (evaluate vars receiver).bind m.apply
  | .call f argument =>
    have : argument.length < text.length := by
      have hs := Form.shrinks_ofText (Text.trim text)
      rw [h] at hs
      exact Nat.lt_of_lt_of_le hs (Text.length_trim_le text)
    (evaluate vars argument).bind f.apply
  | .bare => bareValue vars (Text.trim text)
termination_by text.length

end Autograder.Guest
