import Autograder.Text.Cut

/-!
# Code and quoted text

Guest source is read character by character, and a bracket, a comma or an operator counts only in
code, not in quoted text. `Scan` is the state of that reading. On it rest the three ways in which a
line is taken apart: the argument of a call, the pieces between separators, and the place of an
operator.

A scan knows two marks. Within quotes a backslash takes the meaning from the character after it.
-/

namespace Autograder.Guest

/-- The two quotation marks. -/
def isMark (c : Char) : Bool :=
  c == '"' || c == '\''

/-- Where a reader of source text stands. -/
inductive Scan where
  /-- In code. -/
  | code
  /-- Within text quoted by the mark. -/
  | quoted (mark : Char)
  /-- Within quoted text, behind a backslash. -/
  | escaped (mark : Char)
deriving DecidableEq, Repr

namespace Scan

/-- The state after one more character. -/
def step : Scan → Char → Scan
  | code, c => if isMark c then quoted c else code
  | quoted mark, c => if c == '\\' then escaped mark else if c == mark then code else quoted mark
  | escaped mark, _ => quoted mark

/-- The state after a text. -/
def steps (s : Scan) (text : List Char) : Scan :=
  text.foldl step s

/-- The character is code: it is not quoted, and no mark either. -/
def isCode (s : Scan) (c : Char) : Bool :=
  s == code && !isMark c

/-- For each character of a text whether it is code. -/
def codeFlags (text : List Char) : List Bool :=
  (text.foldl (fun (acc : List Bool × Scan) c => (acc.2.isCode c :: acc.1, acc.2.step c))
    ([], code)).1.reverse

@[simp] theorem steps_nil (s : Scan) : s.steps [] = s := rfl

@[simp] theorem steps_cons (s : Scan) (c : Char) (text : List Char) :
    s.steps (c :: text) = (s.step c).steps text := rfl

theorem steps_append (s : Scan) (a b : List Char) : s.steps (a ++ b) = (s.steps a).steps b := by
  simp [steps, List.foldl_append]

end Scan

/-! ## Calls -/

/-- Splits a text at the first closing bracket that closes no bracket opened in the text itself.
`inside` holds the characters already read, the latest first. -/
def splitClosing (scan : Scan) (depth : Nat) (inside : List Char) :
    List Char → Option (List Char × List Char)
  | [] => none
  | c :: rest =>
    if scan.isCode c && c == ')' then
      match depth with
      | 0 => some (inside.reverse, rest)
      | depth + 1 => splitClosing (scan.step c) depth (c :: inside) rest
    else
      splitClosing (scan.step c) (if scan.isCode c && c == '(' then depth + 1 else depth)
        (c :: inside) rest

/-- The argument of a call: the name, blanks, then one pair of brackets around all that follows. -/
def callArgument? (name text : List Char) : Option (List Char) :=
  match (Text.after? name text).map Text.trimStart with
  | some ('(' :: rest) =>
    match splitClosing .code 0 [] rest with
    | some (inside, []) => some inside
    | _ => none
  | _ => none

theorem length_of_splitClosing {scan : Scan} {depth : Nat} {inside text a b : List Char}
    (h : splitClosing scan depth inside text = some (a, b)) :
    a.length + b.length < inside.length + text.length := by
  induction text generalizing scan depth inside with
  | nil => simp [splitClosing] at h
  | cons c rest ih =>
    simp only [splitClosing] at h
    split at h
    · split at h
      · simp only [Option.some.injEq, Prod.mk.injEq] at h
        simp [← h.1, ← h.2]
      · have := ih h
        simp at this ⊢
        omega
    · have := ih h
      simp at this ⊢
      omega

theorem length_of_callArgument? {name text a : List Char} (h : callArgument? name text = some a) :
    a.length < text.length := by
  simp only [callArgument?] at h
  split at h
  · rename_i rest hrest
    obtain ⟨r, hr, hr'⟩ := Option.map_eq_some_iff.1 hrest
    split at h
    · rename_i inside hs
      have h1 := length_of_splitClosing hs
      have h2 := Text.length_trimStart_le r
      rw [Text.after?_eq_some_iff] at hr
      simp only [Option.some.injEq] at h
      subst h hr
      simp [hr'] at h1 h2 ⊢
      omega
    · simp at h
  · simp at h

/-! ## Separators -/

/-- How a bracket of any kind changes the depth. -/
def bracketStep : Char → Int
  | '(' | '[' | '{' => 1
  | ')' | ']' | '}' => -1
  | _ => 0

/-- The pieces of a text from a given state on. `part` holds the piece at hand, latest first. -/
def splitFrom (separator : Char) (scan : Scan) (depth : Int) (part : List Char) :
    List Char → List (List Char)
  | [] => [part.reverse]
  | c :: rest =>
    if scan.isCode c && bracketStep c == 0 && c == separator && depth == 0 then
      part.reverse :: splitFrom separator (scan.step c) depth [] rest
    else
      splitFrom separator (scan.step c) (if scan.isCode c then depth + bracketStep c else depth)
        (c :: part) rest

/-- The pieces between those separators that stand in code and outside all brackets. -/
def splitTopLevel (separator : Char) (text : List Char) : List (List Char) :=
  splitFrom separator .code 0 [] text

end Autograder.Guest
