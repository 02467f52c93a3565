import Autograder.Guest.Machine
import Autograder.Proofs.Program.Source
import Autograder.Proofs.Text.Classes

/-!
# Lines that begin with a name

A line that begins with an identifier and has an equals sign further on is never skipped, opens no
block and prints nothing, whatever else stands on it: no keyword is an identifier, and none goes on
where an identifier ends. What stands in front of its first equals sign decides what is assigned to.
As long as there are no marks in front of it, this is the first equals sign of the text.

## Main definitions

* `Line.IsStatement`, `Line.execute` — a line that is run as a statement, and what it does
* `Line.Acts` — the line is this statement
* `EndsName` — what follows does not go on with a name

## Main results

* `splitAssignment_append` — the first equals sign
* `splitAssignment_plain`, `splitAssignment_compound` — what it assigns
* `Line.acts_of_isIdentifier` — a line that begins with a name is the statement of its assignment
-/

namespace Autograder.Guest

/-! ### Names and keywords -/

/-- The text does not go on with a name in front of it. -/
def EndsName (rest : List Char) : Prop :=
  ∀ c ∈ rest.head?, continuesName c = false

theorem endsName_of_blank {gap : List Char} (h : ∀ c ∈ gap, Text.isBlank c = true)
    {rest : List Char} (hrest : EndsName rest) : EndsName (gap ++ rest) := by
  cases gap with
  | nil => exact hrest
  | cons c gap =>
    intro d hd
    obtain rfl : c = d := by simpa using hd
    rw [← Bool.not_eq_true]
    exact fun hc => absurd (h c List.mem_cons_self) (by simp [isBlank_of_continuesName hc])

theorem endsName_cons {c : Char} (hc : continuesName c = false) (rest : List Char) :
    EndsName (c :: rest) := by
  simpa [EndsName] using hc

section Leading

variable {name rest : List Char} (hname : isIdentifier name = true) (hrest : EndsName rest)

include hrest

/-- A word in front of the text is a beginning of the name. -/
theorem exists_of_after?_word {word after : List Char}
    (hword : ∀ c ∈ word, continuesName c = true)
    (h : Text.after? word (name ++ rest) = some after) :
    ∃ more, name = word ++ more ∧ after = more ++ rest := by
  rcases List.append_eq_append_iff.mp (Text.after?_eq_some_iff.mp h) with
    ⟨more, rfl, hmore⟩ | ⟨more, hmore⟩
  · cases more with
    | nil => exact ⟨[], by simp, hmore.symm⟩
    | cons c more =>
      have hends := hrest c (by simp [hmore])
      exact absurd (hword c (by simp)) (by simp [hends])
  · exact ⟨more, hmore⟩

include hname

/-- Behind a reserved word, the text goes on with the name. -/
theorem exists_of_after?_reserved {word after : List Char} (hreserved : word ∈ reservedWords)
    (hword : ∀ c ∈ word, continuesName c = true)
    (h : Text.after? word (name ++ rest) = some after) :
    ∃ c more, after = c :: more ∧ continuesName c = true := by
  obtain ⟨more, rfl, rfl⟩ := exists_of_after?_word hrest hword h
  obtain ⟨_, _, hcons, -, hcontinues⟩ := exists_cons_of_isIdentifier hname
  cases more with
  | nil =>
    rw [List.append_nil] at hname
    rw [isIdentifier.eq_def] at hname
    cases word <;> simp_all
  | cons c more =>
    refine ⟨c, more ++ rest, rfl, hcontinues c ?_⟩
    rw [← hcons]
    simp

/-- No guard stands behind the beginning of a name. -/
theorem Header.guard?_of_isIdentifier {keyword : List Char} (hreserved : keyword ∈ reservedWords)
    (hword : ∀ c ∈ keyword, continuesName c = true) : guard? keyword (name ++ rest) = none := by
  cases h : Text.after? keyword (name ++ rest) with
  | none => rw [guard?, h]
  | some after =>
    obtain ⟨c, more, rfl, hc⟩ := exists_of_after?_reserved hname hrest hreserved hword h
    have hbracket : c ≠ '(' := ne_of_class hc (by decide)
    rw [guard?, h]
    simp [isBlank_of_continuesName hc, hbracket]

/-- A text that begins with a name is no call that prints. -/
theorem callArgument?_of_isIdentifier :
    callArgument? ['p', 'r', 'i', 'n', 't'] (name ++ rest) = none := by
  cases h : Text.after? ['p', 'r', 'i', 'n', 't'] (name ++ rest) with
  | none => rw [callArgument?, h, Option.map_none]
  | some after =>
    obtain ⟨c, more, rfl, hc⟩ := exists_of_after?_reserved hname hrest (by decide)
      (List.all_eq_true.mp (by decide)) h
    have hbracket : c ≠ '(' := ne_of_class hc (by decide)
    have htrim : Text.trimStart (c :: more) = c :: more :=
      List.dropWhile_cons_of_neg (by simp [isBlank_of_continuesName hc])
    rw [callArgument?, h, Option.map_some, htrim]
    simp [hbracket]

/-- A text that begins with a name and has an equals sign behind it is no header. -/
theorem Header.ofText?_of_isIdentifier (hequals : '=' ∈ rest) :
    ofText? (name ++ rest) = none := by
  rw [ofText?, Option.bind_eq_none_iff]
  intro head hhead
  -- The colon is the last character of what follows the name, and the equals sign is in front.
  have hne : rest ≠ [] := List.ne_nil_of_mem hequals
  have hcolon := Text.before?_eq_some_iff.mp hhead
  rw [← List.dropLast_concat_getLast hne, ← List.append_assoc] at hcolon
  obtain ⟨rfl, hlast⟩ := List.append_inj' hcolon rfl
  have hmem : '=' ∈ rest.dropLast := by
    rw [← List.dropLast_concat_getLast hne, hlast] at hequals
    simpa using hequals
  have hends : EndsName rest.dropLast := by
    intro c hc
    refine hrest c ?_
    rw [← List.dropLast_concat_getLast hne, List.head?_append, Option.mem_def.mp hc]
    rfl
  have helse : Text.trimEnd (name ++ rest.dropLast) ≠ ['e', 'l', 's', 'e'] := by
    intro heq
    have hkept := Text.mem_trim_of_not_isBlank (by decide) (List.mem_append_right name hmem)
    rw [← Text.trim_trimEnd, heq] at hkept
    exact absurd hkept (by decide)
  rw [if_neg (by simpa using helse),
    guard?_of_isIdentifier hname hends (by decide) (List.all_eq_true.mp (by decide)),
    guard?_of_isIdentifier hname hends (by decide) (List.all_eq_true.mp (by decide)),
    Option.map_none]

end Leading

/-! ### The first equals sign -/

theorem splitAssignmentFrom_append {left : List Char}
    (hleft : ∀ c ∈ left, isMark c = false ∧ c ≠ '=') (before rest : List Char) :
    splitAssignmentFrom .code before (left ++ rest)
      = splitAssignmentFrom .code (left.reverse ++ before) rest := by
  induction left generalizing before with
  | nil => rfl
  | cons c left ih =>
    obtain ⟨hmark, hne⟩ := hleft c List.mem_cons_self
    have hcode : Scan.code.step c = .code := by simp [Scan.step, hmark]
    rw [List.cons_append, splitAssignmentFrom, if_neg (by simp [hne]), hcode,
      ih (fun d hd => hleft d (List.mem_cons_of_mem _ hd)), List.reverse_cons, List.append_assoc,
      List.singleton_append]

/-- **The first equals sign** is the one with neither a mark nor another in front of it. -/
theorem splitAssignment_append {left : List Char}
    (hleft : ∀ c ∈ left, isMark c = false ∧ c ≠ '=') (right : List Char) :
    splitAssignment (left ++ '=' :: right) = assignmentAt? left.reverse right := by
  rw [splitAssignment, splitAssignmentFrom_append hleft, splitAssignmentFrom, List.append_nil,
    if_pos (by decide)]

/-- The characters that change the meaning of an equals sign behind them. -/
def signs : List Char :=
  ['=', '!', '<', '>', '+', '-', '*', '/', '%']

/-- Names and blanks have no marks and no signs. -/
theorem plain_of_name_or_blank {c : Char} (h : continuesName c = true ∨ Text.isBlank c = true) :
    isMark c = false ∧ c ∉ signs := by
  constructor
  · rw [← Bool.not_eq_true]
    intro hmark
    simp only [isMark, Bool.or_eq_true, beq_iff_eq] at hmark
    rcases hmark with rfl | rfl <;> exact absurd h (by decide)
  · have hsigns : signs.all (fun d => !continuesName d && !Text.isBlank d) = true := by decide
    intro hmem
    have hc := List.all_eq_true.mp hsigns c hmem
    rcases h with h | h <;> simp [h] at hc

section Assignment

variable {right : List Char} (hright : right.head? ≠ some '=')

include hright

/-- An equals sign with nothing special around it assigns. -/
theorem assignmentAt?_plain {left : List Char} (hlast : ∀ c ∈ left.getLast?, c ∉ signs) :
    assignmentAt? left.reverse right = some ⟨Text.trim left, none, Text.trim right⟩ := by
  have hleft : left = left.reverse.reverse := left.reverse_reverse.symm
  rw [← List.head?_reverse] at hlast
  cases hbefore : left.reverse with
  | nil =>
    rw [hbefore] at hleft
    simp [assignmentAt?, hright, hleft, Text.trim, Text.trimStart, Text.trimEnd]
  | cons c before =>
    rw [hbefore] at hlast hleft
    have hplain := hlast c rfl
    have hcompound : Operator.ofCompound? c = none := by
      unfold Operator.ofCompound?
      split <;> first
        | rfl
        | exact absurd (by decide) hplain
    simp only [signs, List.mem_cons, not_or] at hplain
    simp [assignmentAt?, hright, hplain, hcompound, hleft]

/-- Behind an operator, it joins. -/
theorem assignmentAt?_compound {c : Char} {op : Operator} (hop : Operator.ofCompound? c = some op)
    (left : List Char) :
    assignmentAt? (left ++ [c]).reverse right
      = some ⟨Text.trim left, some op, Text.trim right⟩ := by
  have hplain : c ≠ '=' ∧ c ≠ '!' ∧ c ≠ '<' ∧ c ≠ '>' := by
    refine ⟨?_, ?_, ?_, ?_⟩ <;> (rintro rfl; cases hop)
  simp [assignmentAt?, hright, hplain, hop]

variable {left : List Char} (hleft : ∀ c ∈ left, isMark c = false ∧ c ∉ signs)

include hleft

omit hright in
theorem ne_equals_of_plain : ∀ c ∈ left, isMark c = false ∧ c ≠ '=' := by
  intro c hc
  obtain ⟨hmark, hsign⟩ := hleft c hc
  refine ⟨hmark, ?_⟩
  rintro rfl
  exact absurd (by decide) hsign

/-- Behind a text without marks and signs, the equals sign assigns. -/
theorem splitAssignment_plain : splitAssignment (left ++ '=' :: right)
    = some ⟨Text.trim left, none, Text.trim right⟩ := by
  rw [splitAssignment_append (ne_equals_of_plain hleft)]
  exact assignmentAt?_plain hright fun c hc => (hleft c (List.mem_of_mem_getLast? hc)).2

/-- Behind such a text and an operator, it joins. -/
theorem splitAssignment_compound {c : Char} {op : Operator}
    (hop : Operator.ofCompound? c = some op) :
    splitAssignment (left ++ c :: '=' :: right)
      = some ⟨Text.trim left, some op, Text.trim right⟩ := by
  have hequals : ∀ d ∈ left ++ [c], isMark d = false ∧ d ≠ '=' := by
    intro d hd
    rcases List.mem_append.mp hd with hd | hd
    · exact ne_equals_of_plain hleft d hd
    · obtain rfl := List.mem_singleton.mp hd
      rw [← Bool.not_eq_true]
      simp only [isMark, Bool.or_eq_true, beq_iff_eq]
      refine ⟨?_, ?_⟩
      · rintro (rfl | rfl) <;> cases hop
      · rintro rfl
        cases hop
  rw [List.append_cons, splitAssignment_append hequals, assignmentAt?_compound hright hop]

end Assignment

/-! ### Lines -/

namespace Line

/-- The line is run as a statement: it is neither skipped nor a header. -/
structure IsStatement (line : Line) : Prop where
  significant : line.isSignificant = true
  no_header : Header.ofText? line.text = none

/-- What a run does with a line that it runs as a statement. -/
def execute (line : Line) (s : State) : Ending :=
  (Statement.ofText line.text).execute s

/-- The line is this statement. -/
structure Acts (line : Line) (statement : Statement) : Prop extends IsStatement line where
  ofText_eq : Statement.ofText line.text = statement

theorem Acts.execute_eq {line : Line} {statement : Statement} (h : line.Acts statement)
    (s : State) : line.execute s = statement.execute s := by
  rw [execute, h.ofText_eq]

end Line

/-- The text of a line with an equals sign. -/
theorem Line.text_ofText_equals (number : Nat) (left right : List Char) :
    (ofText number (left ++ '=' :: right)).text
      = Text.trimStart left ++ '=' :: Text.trimEnd right :=
  Text.trim_append_cons (by decide) left right

/-- **A line that begins with a name** is the statement that its assignment makes. -/
theorem Line.acts_of_isIdentifier {line : Line} {name rest : List Char} {a : Assignment}
    (htext : line.text = name ++ rest) (hname : isIdentifier name = true) (hrest : EndsName rest)
    (hequals : '=' ∈ rest) (hsplit : splitAssignment line.text = some a) :
    line.Acts a.statement where
  significant := by
    obtain ⟨c, w, rfl, -, hc⟩ := exists_cons_of_isIdentifier hname
    have hcomment : c ≠ '#' := ne_of_class (hc c List.mem_cons_self) (by decide)
    rw [isSignificant_iff, htext]
    simpa using hcomment
  no_header := by rw [htext, Header.ofText?_of_isIdentifier hname hrest hequals]
  ofText_eq := by
    rw [Statement.ofText, hsplit, htext, callArgument?_of_isIdentifier hname hrest]

end Autograder.Guest
