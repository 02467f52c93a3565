import Autograder.Proofs.Expression.Agreement
import Autograder.Proofs.Program.Recognition
import Autograder.Proofs.Program.WellFormed
import Autograder.Proofs.Term.Enclosed

/-!
# Assignments

A line with a name, an equals sign and an expression gives the name the value of the expression, or
ends in its fault. The expression may be any text that does not read input: the equals sign behind
the name is the first of the line, so nothing that stands further on can take its place.

An operator in front of the equals sign joins the old value of the name and the value of the
expression. Where the expression is the text of a term, this is the assignment of the term with the
name, the operator and the expression in brackets. The two go different ways. The compound line
evaluates the expression on its own, where a quoted text, a number or a truth value is not read as a
term, and then looks the name up; the other line evaluates one bare text, which is a term.

## Main definitions

* `assignmentText`, `assignmentLine` — an assignment as it is written, and its line
* `inputForms` — the right sides that read input
* `expandedText` — the right side that a compound assignment stands for
* `State.Receives` — a name is given the result of an evaluation

## Main results

* `acts_plainLine`, `acts_compoundLine` — the statement on the line
* `evaluate_of_writable` — a text that spells a term has the value of the term
* `assignment_exact` — what an assignment does
-/

namespace Autograder.Guest

/-! ### The written form -/

/-- The operators that an equals sign can be joined to. -/
def compoundOperators : List Operator :=
  [.add, .sub, .mul, .div, .mod]

/-- A name and blanks, an operator if there is one, an equals sign and a right side. -/
def assignmentText (name gap : List Char) (op : Option Operator) (right : List Char) : List Char :=
  name ++ gap ++ (op.map fun o => o.symbol.toList).getD [] ++ '=' :: right

/-- The line of an assignment, indented and with a blank behind the equals sign. -/
def assignmentLine (number : Nat) (lead name gap : List Char) (op : Option Operator)
    (expression : List Char) : Line :=
  Line.ofText number (lead ++ assignmentText name gap op (' ' :: expression))

/-- The right sides that read input, without their blanks. -/
def inputForms : List (List Char) :=
  ["input()", "input().strip()", "int(input())", "int(input().strip())", "float(input())",
    "float(input().strip())"].map String.toList

/-- The operator is a single character. -/
theorem exists_symbol_of_mem {op : Operator} (h : op ∈ compoundOperators) :
    ∃ c, op.symbol.toList = [c] ∧ Operator.ofCompound? c = some op ∧ continuesName c = false ∧
      Text.isBlank c = false ∧ ∀ form ∈ inputForms, c ∉ form := by
  simp only [compoundOperators, List.mem_cons, List.not_mem_nil, or_false] at h
  rcases h with rfl | rfl | rfl | rfl | rfl <;>
    exact ⟨_, symbol_toList _, rfl, by decide, by decide, by decide⟩

/-- The operator, if there is one, and the equals sign end the name. -/
theorem endsName_operator {op : Option Operator} (hop : ∀ o ∈ op, o ∈ compoundOperators)
    (right : List Char) :
    EndsName ((op.map fun o => o.symbol.toList).getD [] ++ '=' :: right) := by
  cases op with
  | none => exact endsName_cons (by decide) right
  | some op =>
    obtain ⟨c, hsymbol, -, hends, -⟩ := exists_symbol_of_mem (hop op rfl)
    rw [Option.map_some, Option.getD_some, hsymbol]
    exact endsName_cons hends _

theorem trimmed_of_isIdentifier {name : List Char} (h : isIdentifier name = true) :
    Text.Trimmed name := by
  obtain ⟨c, w, rfl, -, hcontinues⟩ := exists_cons_of_isIdentifier h
  exact ⟨fun d hd => isBlank_of_continuesName (hcontinues d (List.mem_of_mem_head? hd)),
    fun d hd => isBlank_of_continuesName (hcontinues d (List.mem_of_mem_getLast? hd))⟩

theorem head_of_isIdentifier {name : List Char} (h : isIdentifier name = true)
    (behind : List Char) : ∀ c ∈ (name ++ behind).head?, Text.isBlank c = false := by
  refine Text.head_append ?_ (trimmed_of_isIdentifier h).head behind
  rintro rfl
  cases h

theorem comma_notMem_of_isIdentifier {name : List Char} (h : isIdentifier name = true) :
    ',' ∉ name := by
  intro hmem
  obtain ⟨_, _, rfl, -, hcontinues⟩ := exists_cons_of_isIdentifier h
  exact absurd (hcontinues ',' hmem) (by decide)

/-! ### The line -/

theorem numberKind?_eq_none {compact : List Char} (h : compact ∉ inputForms) :
    numberKind? compact = none := by
  rw [numberKind?, List.find?_eq_none]
  intro kind _ heq
  simp only [Bool.or_eq_true, beq_iff_eq] at heq
  refine h ?_
  cases kind <;> rcases heq with rfl | rfl <;> decide

/-- An assignment that reads no input. -/
theorem Assignment.statement_plain {a : Assignment} (hop : a.op = none)
    (hname : isIdentifier a.left = true)
    (hright : (a.right.filter fun c => !Text.isBlank c) ∉ inputForms) :
    a.statement = .assign a.left none a.right := by
  have hcomma := comma_notMem_of_isIdentifier hname
  have hinput : (a.right.filter fun c => !Text.isBlank c) ≠ inputText :=
    fun heq => hright (heq ▸ by decide)
  have hstripped : (a.right.filter fun c => !Text.isBlank c) ≠ strippedInputText :=
    fun heq => hright (heq ▸ by decide)
  simp [statement, hop, hcomma, hname, numberKind?_eq_none hright, hinput, hstripped]

theorem Assignment.statement_compound {a : Assignment} {op : Operator} (hop : a.op = some op)
    (hname : isIdentifier a.left = true) : a.statement = .assign a.left (some op) a.right := by
  simp [statement, hop, hname]

section Line

variable {name lead gap : List Char} (hname : isIdentifier name = true)
  (hlead : ∀ c ∈ lead, Text.isBlank c = true) (hgap : ∀ c ∈ gap, Text.isBlank c = true)

include hname hgap

/-- What stands in front of an equals sign or an operator is plain. -/
theorem plain_of_mem_name_gap {c : Char} (hc : c ∈ name ++ gap) : isMark c = false ∧ c ∉ signs := by
  have hclass : continuesName c = true ∨ Text.isBlank c = true := by
    obtain ⟨_, _, rfl, -, hcontinues⟩ := exists_cons_of_isIdentifier hname
    exact (List.mem_append.mp hc).imp (hcontinues c) (hgap c)
  exact plain_of_name_or_blank hclass

theorem trim_name_gap : Text.trim (name ++ gap) = name := by
  rw [Text.trim_append_of_blank hgap, (trimmed_of_isIdentifier hname).trim_eq]

theorem splitAssignment_assignmentText {op : Option Operator}
    (hop : ∀ o ∈ op, o ∈ compoundOperators) {right : List Char} (hright : right.head? ≠ some '=') :
    splitAssignment (assignmentText name gap op right) = some ⟨name, op, Text.trim right⟩ := by
  have hplain : ∀ c ∈ name ++ gap, isMark c = false ∧ c ∉ signs :=
    fun c => plain_of_mem_name_gap hname hgap
  cases op with
  | none =>
    rw [assignmentText, Option.map_none, Option.getD_none, List.append_nil,
      splitAssignment_plain hright hplain, trim_name_gap hname hgap]
  | some op =>
    obtain ⟨c, hsymbol, hcompound, -⟩ := exists_symbol_of_mem (hop op rfl)
    rw [assignmentText, Option.map_some, Option.getD_some, hsymbol, List.append_assoc,
      List.singleton_append, splitAssignment_compound hright hplain hcompound,
      trim_name_gap hname hgap]

include hlead

/-- **The line is the statement of its assignment.** -/
theorem acts_assignmentLine {op : Option Operator} (hop : ∀ o ∈ op, o ∈ compoundOperators)
    (number : Nat) (expression : List Char) :
    (assignmentLine number lead name gap op expression).Acts
      (Assignment.statement ⟨name, op, Text.trim expression⟩) := by
  have hhead := head_of_isIdentifier hname (gap ++ (op.map fun o => o.symbol.toList).getD [])
  have htext : (assignmentLine number lead name gap op expression).text
      = assignmentText name gap op (Text.trimEnd (' ' :: expression)) := by
    rw [assignmentLine, assignmentText, ← List.append_assoc, Line.text_ofText_equals,
      Text.trimStart_append_of_blank hlead, List.append_assoc name, Text.trimStart_of_head hhead,
      assignmentText]
    simp
  have hblank : Text.trim (' ' :: expression) = Text.trim expression :=
    congrArg Text.trimEnd (Text.trimStart_append_of_blank (List.all_eq_true.mp (by decide))
      expression : Text.trimStart ([' '] ++ expression) = _)
  have hsplit := splitAssignment_assignmentText hname hgap hop
    (Text.head?_trimEnd_ne (show (' ' :: expression).head? ≠ some '=' by simp))
  rw [Text.trim_trimEnd, hblank, ← htext] at hsplit
  refine Line.acts_of_isIdentifier ?_ hname
    (endsName_of_blank hgap (endsName_operator hop (Text.trimEnd (' ' :: expression)))) (by simp)
    hsplit
  rw [htext, assignmentText]
  simp

/-- A line with an equals sign that stands alone. -/
theorem acts_plainLine (number : Nat) {expression : List Char}
    (hinput : (expression.filter fun c => !Text.isBlank c) ∉ inputForms) :
    (assignmentLine number lead name gap none expression).Acts
      (.assign name none (Text.trim expression)) := by
  have hop : ∀ o ∈ (none : Option Operator), o ∈ compoundOperators := by simp
  have hacts := acts_assignmentLine hname hlead hgap hop number expression
  rw [← Text.filter_trim] at hinput
  rwa [Assignment.statement_plain rfl hname hinput] at hacts

/-- A line with an equals sign behind an operator. -/
theorem acts_compoundLine (number : Nat) {op : Operator} (hop : op ∈ compoundOperators)
    (expression : List Char) :
    (assignmentLine number lead name gap (some op) expression).Acts
      (.assign name (some op) (Text.trim expression)) := by
  have hacts := acts_assignmentLine hname hlead hgap
    (fun o ho => Option.mem_some.mp ho ▸ hop) number expression
  rwa [Assignment.statement_compound rfl hname] at hacts

end Line

/-! ### What the statement does -/

/-- The least word is no literal of a term, so it is no exception here. -/
theorem not_spellsLeast_of_writable {text : List Char} {t : Term}
    (ht : Term.ofText? text = some t) (hwritable : t.isWritable = true) : ¬SpellsLeast text := by
  intro h
  obtain rfl := Option.some.inj (ht.symm.trans h.readings.2)
  cases hwritable

/-- **A text that spells a term** without numbers that have a point has the value of the term. -/
theorem evaluate_of_writable {vars : Bindings}
    (hvars : ∀ n v, vars.get? n = some v → isIdentifier n.toList = true) {text : List Char}
    {t : Term} (ht : Term.ofText? (Text.trim text) = some t) (hwritable : t.isWritable = true) :
    evaluate vars text = t.eval vars := by
  rcases Form.ofText_of_term ht with ⟨v, hform, rfl⟩ | hform
  · exact evaluate_of_literal hform
  · cases hconstant : Form.constantValue? (Text.trim text) with
    | some v =>
      have hleast := not_spellsLeast_of_writable ht hwritable
      rw [Form.constant?, hconstant] at hform
      rw [evaluate_of_literal hform, Form.constantValue?_agrees hconstant ht hleast]
    | none =>
      rw [Form.constant?, hconstant] at hform
      rw [evaluate_of_bare hform, bareValue_agrees hvars ht]

/-- The right side that a compound assignment stands for. -/
def expandedText (name : List Char) (op : Operator) (expression : List Char) : List Char :=
  name ++ ' ' :: (op.symbol.toList ++ ' ' :: '(' :: (expression ++ [')']))

/-- Executing a plain assignment. -/
theorem execute_assign (s : State) (name expression : List Char) :
    (Statement.assign name none (Text.trim expression)).execute s
      = s.withValue (evaluate s.vars expression) fun v => ⟨s.bind name v, none⟩ := by
  have htrim : evaluate s.vars (Text.trim expression) = evaluate s.vars expression :=
    evaluate_congr (Text.trimmed_trim expression).trim_eq
  rw [Statement.execute, htrim]

theorem expandedText_notMem_inputForms {op : Operator} (hop : op ∈ compoundOperators)
    (name expression : List Char) :
    ((expandedText name op expression).filter fun c => !Text.isBlank c) ∉ inputForms := by
  obtain ⟨c, hsymbol, -, -, hblank, hforms⟩ := exists_symbol_of_mem hop
  intro hmem
  refine hforms _ hmem (List.mem_filter.mpr ⟨?_, by simp [hblank]⟩)
  simp [expandedText, hsymbol]

theorem trimmed_expandedText {name : List Char} (hname : isIdentifier name = true) (op : Operator)
    (expression : List Char) : Text.Trimmed (expandedText name op expression) := by
  refine ⟨head_of_isIdentifier hname _, fun c hc => ?_⟩
  have hlast : expandedText name op expression
      = name ++ ' ' :: (op.symbol.toList ++ ' ' :: '(' :: expression) ++ [')'] := by
    simp [expandedText]
  rw [hlast, List.getLast?_concat] at hc
  obtain rfl : ')' = c := by simpa using hc
  decide

/-- The expanded right side has the value of the operation. -/
theorem evaluate_expandedText {s : State} (hs : s.Named) {name expression : List Char}
    (hname : isIdentifier name = true) (op : Operator) {t : Term}
    (hwritable : t.isWritable = true) (ht : Term.ofText? (Text.trim expression) = some t) :
    evaluate s.vars (expandedText name op expression)
      = (Term.binary op (.name (String.ofList name)) t).eval s.vars := by
  have hid : isIdentifier (String.ofList name).toList = true := by rwa [String.toList_ofList]
  have hterm := Term.ofText?_enclosed hid op ht
  rw [String.toList_ofList] at hterm
  refine evaluate_of_writable hs ?_ ?_
  · rw [(trimmed_expandedText hname op expression).trim_eq]
    exact hterm
  · simp [Term.isWritable, hname, hwritable]

/-- **A compound assignment** of a term to a name that has a value is the assignment of the
operation. -/
theorem execute_compound {s : State} (hs : s.Named) {name expression : List Char}
    (hname : isIdentifier name = true) {old : Value}
    (hold : s.vars.get? (String.ofList name) = some old) (op : Operator) {t : Term}
    (hwritable : t.isWritable = true) (ht : Term.ofText? (Text.trim expression) = some t) :
    (Statement.assign name (some op) (Text.trim expression)).execute s
      = s.withValue (evaluate s.vars (expandedText name op expression))
          fun v => ⟨s.bind name v, none⟩ := by
  have hexpression : evaluate s.vars (Text.trim expression) = t.eval s.vars := by
    refine evaluate_of_writable hs ?_ hwritable
    rwa [(Text.trimmed_trim expression).trim_eq]
  rw [evaluate_expandedText hs hname op hwritable ht, Statement.execute, hexpression]
  simp only [Term.eval, hold]
  cases t.eval s.vars with
  | error f => rfl
  | ok v => cases hv : old.binary op v <;> simp [State.withValue, Except.bind, hv]

/-- What becomes of a name that is given the result of an evaluation. -/
structure State.Receives (s : State) (name : List Char) (result : Except Fault Value) (e : Ending) :
    Prop where
  /-- A value becomes the value of the name, and nothing else changes. -/
  value : ∀ v, result = .ok v → e.fault = none ∧ s.Assigned [(name, v)] e.state
  /-- A fault leaves everything as it is. -/
  fault : ∀ f, result = .error f → e = ⟨s, some f⟩

theorem receives_withValue (s : State) (name : List Char) (result : Except Fault Value) :
    s.Receives name result (s.withValue result fun v => ⟨s.bind name v, none⟩) where
  value := by
    rintro v rfl
    exact ⟨rfl, State.assigned_bindAll s [(name, v)]⟩
  fault := by
    rintro f rfl
    rfl

/-- **What an assignment does.** A plain one gives the name the value of the expression, whatever
text that is, unless it reads input. A compound one, of a term to a name that has a value, does what
the plain one does with the name, the operator and the expression in brackets. The expression may be
any text that spells the term, the one that the term is written as among them. -/
theorem assignment_exact {name lead gap : List Char} (hname : isIdentifier name = true)
    (hlead : ∀ c ∈ lead, Text.isBlank c = true) (hgap : ∀ c ∈ gap, Text.isBlank c = true)
    (number : Nat) (s : State) :
    (∀ expression, (expression.filter fun c => !Text.isBlank c) ∉ inputForms →
      (assignmentLine number lead name gap none expression).IsStatement ∧
      s.Receives name (evaluate s.vars expression)
        ((assignmentLine number lead name gap none expression).execute s)) ∧
    (s.Named → (s.vars.get? (String.ofList name)).isSome → ∀ op ∈ compoundOperators,
      ∀ (t : Term) (expression : List Char), t.isWritable = true →
      expression = t.write .sum ∨ Term.ofText? (Text.trim expression) = some t →
      (assignmentLine number lead name gap (some op) expression).IsStatement ∧
      (assignmentLine number lead name gap none (expandedText name op expression)).IsStatement ∧
      (assignmentLine number lead name gap (some op) expression).execute s
        = (assignmentLine number lead name gap none
            (expandedText name op expression)).execute s) := by
  refine ⟨fun expression hinput => ?_, fun hs hbound op hop t expression hwritable hspells => ?_⟩
  · have hacts := acts_plainLine hname hlead hgap number hinput
    refine ⟨hacts.toIsStatement, ?_⟩
    rw [hacts.execute_eq, execute_assign]
    exact receives_withValue s name _
  · obtain ⟨old, hold⟩ := Option.isSome_iff_exists.mp hbound
    have ht : Term.ofText? (Text.trim expression) = some t := by
      rcases hspells with rfl | ht
      · rw [(Term.trimmed_write hwritable .sum).trim_eq, Term.ofText?_write hwritable]
      · exact ht
    have hcompound := acts_compoundLine hname hlead hgap number hop expression
    have hplain := acts_plainLine hname hlead hgap number
      (expandedText_notMem_inputForms hop name expression)
    refine ⟨hcompound.toIsStatement, hplain.toIsStatement, ?_⟩
    rw [hcompound.execute_eq, hplain.execute_eq, execute_assign,
      execute_compound hs hname hold op hwritable ht]

/-- A quoted text with an equals sign and a comma, and a product with a sum. -/
theorem assignment_exact_sampleLines :
    ((isIdentifier ['x'] = true ∧ ("'=, =='".toList.filter fun c => !Text.isBlank c) ∉ inputForms ∧
      ((State.initial []).bind ['x'] (.int 2)).Named ∧
      (((State.initial []).bind ['x'] (.int 2)).vars.get? (String.ofList ['x'])).isSome ∧
      Operator.mul ∈ compoundOperators ∧
      (Term.binary .add (.name "x") (.literal (.int 1))).isWritable = true)) ∧
    ((assignmentLine 0 [' ', ' '] ['x'] [' '] none "'=, =='".toList).execute
      ((State.initial []).bind ['x'] (.int 2))).state.vars.get? "x" = some (.str "=, ==") ∧
    (assignmentLine 0 [' ', ' '] ['x'] [' '] (some .mul) "x + 1".toList).execute
        ((State.initial []).bind ['x'] (.int 2))
      = (assignmentLine 0 [' ', ' '] ['x'] [' '] none "x * (x + 1)".toList).execute
        ((State.initial []).bind ['x'] (.int 2)) := by
  have hname : isIdentifier ['x'] = true := by decide
  have hinput : ("'=, =='".toList.filter fun c => !Text.isBlank c) ∉ inputForms := by decide
  have hnamed : ((State.initial []).bind ['x'] (.int 2)).Named :=
    (State.named_initial []).bind hname _
  have hbound :
      (((State.initial []).bind ['x'] (.int 2)).vars.get? (String.ofList ['x'])).isSome := by decide
  have hwritable : (Term.binary .add (.name "x") (.literal (.int 1))).isWritable = true := by decide
  have hlead : ∀ c ∈ [' ', ' '], Text.isBlank c = true := List.all_eq_true.mp (by decide)
  have hgap : ∀ c ∈ [' '], Text.isBlank c = true := List.all_eq_true.mp (by decide)
  obtain ⟨hplain, hcompound⟩ := assignment_exact hname hlead hgap 0
    ((State.initial []).bind ['x'] (.int 2))
  have hvalue : evaluate ((State.initial []).bind ['x'] (.int 2)).vars "'=, =='".toList
      = .ok (.str "=, ==") := evaluate_of_literal (by decide)
  have hgiven := ((hplain _ hinput).2.value _ hvalue).2.given [] ['x'] _ [] rfl (by simp)
  exact ⟨⟨hname, hinput, hnamed, hbound, by decide, hwritable⟩, hgiven,
    (hcompound hnamed hbound .mul (by decide) _ _ hwritable (.inl rfl)).2.2⟩

end Autograder.Guest
