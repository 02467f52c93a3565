import Autograder.Proofs.Expression.Printed
import Autograder.Proofs.Expression.Size
import Autograder.Proofs.Grading.Sessions
import Autograder.Proofs.Program.Effects
import Autograder.Proofs.Program.Input
import Autograder.Proofs.Program.Source
import Autograder.Proofs.Text.Lines

/-!
# How long the values of names get

A run that the guards on program and input admit starts from short texts: each line of the program
is within the guard on programs, each line of the input within the guard on inputs, and both are
within the limit on values. From there on a name can only get a text value beyond the limit where a
plain assignment stores what its expression has outgrown the limit with. A compound assignment
cannot, since it joins or repeats texts and both are counted.

## Main definitions

* `Moment.IsOutgrowing` — a moment at which such an assignment is executed

## Main results

* `Moment.Reaches.areBounded_or_outgrowing` — the values of names at a moment of a run
* `bounded_iff_not_outgrows` — expressions and runs
-/

namespace Autograder.Guest

open String (utf8Len utf8Len_append utf8Len_cons)

/-! ### The parts of a program -/

theorem utf8Len_assignmentAt?_le {before after : List Char} {a : Assignment}
    (h : assignmentAt? before after = some a) : utf8Len a.right ≤ utf8Len after := by
  have hright : a.right = Text.trim after := by
    cases before with
    | nil =>
      rw [assignmentAt?] at h
      split at h
      · cases h
      · rw [← Option.some.inj h]
    | cons c rest =>
      rw [assignmentAt?] at h
      split at h
      · cases h
      split at h
      · rw [← Option.some.inj h]
      · rw [← Option.some.inj h]
  rw [hright]
  exact utf8Len_trim_le after

theorem utf8Len_splitAssignmentFrom_le {scan : Scan} {before text : List Char} {a : Assignment}
    (h : splitAssignmentFrom scan before text = some a) : utf8Len a.right ≤ utf8Len text := by
  induction text generalizing scan before with
  | nil => cases h
  | cons c rest ih =>
    rw [splitAssignmentFrom] at h
    rw [utf8Len_cons]
    split at h
    · exact Nat.le_add_right_of_le (utf8Len_assignmentAt?_le h)
    · exact Nat.le_add_right_of_le (ih h)

theorem Assignment.eq_right_of_assign {a : Assignment} {name expression : List Char}
    {op : Option Operator} (h : a.statement = .assign name op expression) :
    expression = a.right := by
  rw [Assignment.statement] at h
  dsimp only at h
  split at h
  · split at h
    · split at h <;> cases h
    · cases h
  split at h
  · cases h
  split at h
  · injection h with _ _ hright
    exact hright.symm
  split at h
  · cases h
  split at h
  · cases h
  split at h
  · cases h
  · injection h with _ _ hright
    exact hright.symm

/-- The right side of an assignment has no more bytes than the line. -/
theorem utf8Len_of_assign {text name expression : List Char} {op : Option Operator}
    (h : Statement.ofText text = .assign name op expression) :
    utf8Len expression ≤ utf8Len text := by
  rw [Statement.ofText] at h
  split at h
  · cases h
  split at h
  · rename_i a ha
    rw [Assignment.eq_right_of_assign h]
    exact utf8Len_splitAssignmentFrom_le ha
  · cases h

/-- A line has no more bytes than the program. -/
theorem Line.utf8Len_of_mem_ofCode {code : List Char} {line : Line}
    (h : line ∈ ofCode code) : utf8Len line.text ≤ utf8Len code := by
  obtain ⟨w, hw, htext⟩ := exists_of_mem_numberFrom h
  rw [htext]
  exact Nat.le_trans (utf8Len_trim_le w)
    (String.utf8Len_le_of_sublist (Text.sublist_of_mem_lines hw))

/-! ### Runs -/

/-- What a statement gives a name is within the limit, unless a plain assignment gives it a text
that its expression has outgrown the limit with. -/
theorem Statement.Gives.bounded_or {s : State} {statement : Statement} {name : List Char}
    {v : Value} (h : statement.Gives s name v) (hvars : s.vars.AreBounded)
    (hunread : ∀ line ∈ s.unread, line.utf8ByteSize ≤ maxValueBytes)
    (hright : ∀ op expression, statement = .assign name op expression →
      utf8Len expression ≤ maxValueBytes) :
    v.IsBounded ∨ ∃ expression, statement = .assign name none expression ∧
      Outgrows s.vars expression := by
  cases h with
  | field _ hread => exact .inl (bounded_read hread)
  | number hread => exact .inl (bounded_read hread)
  | @line _ trimmed line rest hline =>
    have hle : line.utf8ByteSize ≤ maxValueBytes := hunread line (hline ▸ List.mem_cons_self)
    left
    cases trimmed with
    | false => exact hle
    | true =>
      have htrim := utf8Len_trim_le line.toList
      rw [String.utf8Len_toList] at htrim
      rw [Value.IsBounded, if_pos rfl, String.utf8ByteSize_ofList]
      exact Nat.le_trans htrim hle
  | value hvalue =>
    exact (bounded_or_outgrows hvars (hright _ _ rfl) hvalue).imp id fun hgrows => ⟨_, rfl, hgrows⟩
  | joined _ _ hjoined => exact .inl (bounded_binary hjoined)

namespace Moment

/-- The values of names are within the limit, and the step stores a text that its expression has
outgrown the limit with. -/
def IsOutgrowing (stop : StopFrom) (m : Moment) : Prop :=
  ∃ s line name expression, m.Executes stop s line ∧
    Statement.ofText line.text = .assign name none expression ∧ s.vars.AreBounded ∧
    Outgrows s.vars expression

/-- Behind an outgrowing moment a name has a value beyond the limit. -/
theorem IsOutgrowing.not_areBounded_step {stop : StopFrom} {m : Moment}
    (h : m.IsOutgrowing stop) : ¬ (m.step stop).state.vars.AreBounded := by
  obtain ⟨s, line, name, expression, hexecutes, hassign, -, hgrows⟩ := h
  obtain ⟨t, ht, hlt⟩ := hgrows.exists_value
  intro hvars
  have hbound : (m.step stop).state.vars.get? (String.ofList name) = some (.str t) := by
    rw [hexecutes.state_step, hassign, Statement.execute, State.vars_visit, State.vars_check, ht]
    exact Table.get?_insert_self _ _ _
  exact Nat.not_le_of_lt hlt (hvars _ _ hbound)

variable {stop : StopFrom} {code input : List Char} {m : Moment}

/-- The lines of input that are left have no more bytes than the input. -/
theorem Reaches.utf8ByteSize_unread (h : (start code input).Reaches stop m) {line : String}
    (hline : line ∈ m.state.unread) : line.utf8ByteSize ≤ utf8Len input := by
  have hread := h.kept (kept_readsFrom ((Text.lines input).map String.ofList)) ⟨Nat.zero_le _, rfl⟩
  rw [hread.unread] at hline
  obtain ⟨written, hwritten, rfl⟩ := List.mem_map.mp (List.mem_of_mem_drop hline)
  rw [String.utf8ByteSize_ofList]
  exact String.utf8Len_le_of_sublist (Text.sublist_of_mem_lines hwritten)

/-- Only the step of an outgrowing moment brings in a text beyond the limit. -/
theorem Reaches.areBounded_execute (hcode : utf8Len code ≤ maxValueBytes)
    (hinput : utf8Len input ≤ maxValueBytes) (h : (start code input).Reaches stop m)
    {s : State} {line : Line} (hexecutes : m.Executes stop s line) (hvars : s.vars.AreBounded)
    (hgrowing : ¬ m.IsOutgrowing stop) :
    ((Statement.ofText line.text).execute (s.check.visit line)).state.vars.AreBounded := by
  intro n v hv
  rcases get?_execute hv with hold | ⟨name, rfl, hgives⟩
  · exact hvars n v hold
  obtain ⟨rest, blocks, rfl⟩ := hexecutes.comes_next
  have hunread : ∀ l ∈ s.unread, l.utf8ByteSize ≤ maxValueBytes := fun l hl =>
    Nat.le_trans (h.utf8ByteSize_unread hl) hinput
  have hline : line ∈ Line.ofCode code := h.mem_program (by simp [lines])
  have hright : ∀ op expression, Statement.ofText line.text = .assign name op expression →
      utf8Len expression ≤ maxValueBytes := fun op expression hassign =>
    Nat.le_trans (utf8Len_of_assign hassign)
      (Nat.le_trans (Line.utf8Len_of_mem_ofCode hline) hcode)
  rcases hgives.bounded_or hvars hunread hright with hbounded | ⟨expression, hassign, hgrows⟩
  · exact hbounded
  · exact absurd ⟨s, line, name, expression, hexecutes, hassign, hvars, hgrows⟩ hgrowing

/-- **The values of names** are within the limit as long as no outgrowing moment was come to. -/
theorem Reaches.areBounded_or_outgrowing (hcode : utf8Len code ≤ maxValueBytes)
    (hinput : utf8Len input ≤ maxValueBytes) (h : (start code input).Reaches stop m) :
    m.state.vars.AreBounded ∨
      ∃ m', (start code input).Reaches stop m' ∧ m'.Reaches stop m ∧ m'.IsOutgrowing stop := by
  induction h with
  | refl => exact .inl areBounded_empty
  | @tail m _ hm hstep ih =>
    rcases ih with hvars | ⟨m', hm', hreaches, hgrowing⟩
    · by_cases hgrowing : m.IsOutgrowing stop
      · exact .inr ⟨m, hm, .single hstep, hgrowing⟩
      · left
        rw [← hstep]
        refine @invariant_step (fun s => s.vars.AreBounded) ?_ stop m ?_ hvars
        · intro s s' hbare hs
          rw [← State.vars_bare, hbare, State.vars_bare]
          exact hs
        · intro s line hexecutes hs
          exact Reaches.areBounded_execute hcode hinput hm hexecutes hs hgrowing
    · exact .inr ⟨m', hm', hreaches.tail hstep, hgrowing⟩

end Moment

/-- **When text values stay within the limit.** The values of an expression that fits in a program
are within it, if the values of names are, unless a part of the expression goes beyond the limit and
is not counted. The values of names in a run that the guards admit are within it, unless the run
stores the value of such an expression. -/
theorem bounded_iff_not_outgrows {vars : Bindings} (hvars : vars.AreBounded) {expression : String}
    (hsize : expression.utf8ByteSize ≤ maxSourceBytes) (stop : StopFrom) {code input : String}
    (hguards : oversize? code input = none) :
    ((∀ v, evaluate vars expression.toList = .ok v → v.IsBounded) ↔
      ¬ Outgrows vars expression.toList) ∧
    ((∀ m, (Moment.start code.toList input.toList).Reaches stop m → m.state.vars.AreBounded) ↔
      ∀ m, (Moment.start code.toList input.toList).Reaches stop m → ¬ m.IsOutgrowing stop) := by
  have hlimit : maxSourceBytes ≤ maxValueBytes := by decide
  obtain ⟨hcode, hinput⟩ := oversize?_eq_none_iff.mp hguards
  have hexpression : utf8Len expression.toList ≤ maxValueBytes := by
    rw [String.utf8Len_toList]
    exact Nat.le_trans hsize hlimit
  have hcode : utf8Len code.toList ≤ maxValueBytes := by
    rw [String.utf8Len_toList]
    exact Nat.le_trans hcode hlimit
  have hinput : utf8Len input.toList ≤ maxValueBytes := by
    rw [String.utf8Len_toList]
    exact hinput
  refine ⟨?_, ?_, ?_⟩
  · rw [outgrows_iff hvars hexpression]
    simp only [not_exists, not_and, not_not]
  · intro hbounded m hm hgrowing
    exact hgrowing.not_areBounded_step (hbounded _ (hm.tail rfl))
  · intro hgrowing m hm
    refine (hm.areBounded_or_outgrowing hcode hinput).resolve_right ?_
    rintro ⟨m', hm', -, hm'growing⟩
    exact hgrowing m' hm' hm'growing

/-! ### Two texts that outgrow the limit -/

theorem utf8Len_upper_replicate (n : Nat) (c : Char) :
    utf8Len (Text.upper (List.replicate n c)) = n * utf8Len (Text.upperChar c) := by
  induction n with
  | zero => simp [Text.upper]
  | succ n ih =>
    rw [Text.upper] at ih ⊢
    rw [List.replicate_succ, List.flatMap_cons, utf8Len_append, ih, Nat.succ_mul, Nat.add_comm]

/-- The mark behind the slot is not counted. -/
theorem evaluate_exclaimed {vars : Bindings} {s : String} (h : vars.get? "x" = some (.str s))
    (hs : s.utf8ByteSize ≤ maxValueBytes) :
    evaluate vars "f'{x}!'".toList = .ok (.str (s ++ "!")) := by
  have hform : Form.ofText (Text.trim "f'{x}!'".toList) = .template "{x}!".toList := by
    decide
  have hpieces : pieces "{x}!".toList = [.text [], .slot ['x'], .text ['!']] := by decide +kernel
  have hslot : Piece.append vars "" (.slot ['x']) = .ok s := by
    have hname : String.ofList (Text.trim ['x']) = "x" := by decide
    have hempty : "".utf8ByteSize = 0 := by decide
    rw [Piece.append, hname, h]
    simp only [hempty, Nat.zero_add, checkSize, if_pos hs, Except.map, String.empty_append]
  rw [evaluate_of_template hform, interpolate, hpieces, List.foldlM_cons]
  change (List.foldlM (Piece.append vars) "" [.slot ['x'], .text ['!']]).map Value.str = _
  rw [List.foldlM_cons, hslot]
  rfl

/-- The capital of the letter is longer than the letter. -/
theorem evaluate_raised {vars : Bindings} {n : Nat}
    (h : vars.get? "x" = some (.str (String.ofList (List.replicate n 'ŉ')))) :
    ∃ s, evaluate vars "x.upper()".toList = .ok (.str s) ∧ s.utf8ByteSize = n * 3 := by
  have hform : Form.ofText (Text.trim "x.upper()".toList) = .method .upper ['x'] := by
    decide
  have hname : evaluate vars ['x'] = .ok (.str (String.ofList (List.replicate n 'ŉ'))) := by
    have hbare : Form.ofText (Text.trim ['x']) = .bare := by decide
    have htrim : String.ofList (Text.trim ['x']) = "x" := by decide
    rw [evaluate_of_bare hbare, bareValue, htrim, h]
  have hletter : utf8Len (Text.upperChar 'ŉ') = 3 := by decide
  refine ⟨String.ofList (Text.upper (List.replicate n 'ŉ')), ?_, ?_⟩
  · rw [evaluate_of_method hform, hname, Except.bind, Method.apply, String.toList_ofList]
  · rw [String.utf8ByteSize_ofList, utf8Len_upper_replicate, hletter]

/-- Stores a line of input, and a longer text. -/
def growingProgram : String :=
  "x = input()
y = f'{x}!'"

/-- The longer text is stored. -/
theorem reaches_exclaimed {s : String} (hempty : s ≠ "") (hfeed : '\n' ∉ s.toList)
    (hs : s.utf8ByteSize ≤ maxValueBytes) :
    ∃ m, (Moment.start growingProgram.toList s.toList).Reaches none m ∧
      m.state.vars.get? "y" = some (.str (s ++ "!")) := by
  have hlines : Line.ofCode growingProgram.toList
      = [⟨0, 0, "x = input()".toList⟩, ⟨1, 0, "y = f'{x}!'".toList⟩] := by decide
  have hinput := Text.lines_of_line hempty hfeed
  have hassign : Statement.ofText "y = f'{x}!'".toList
      = .assign ['y'] none "f'{x}!'".toList := by decide
  have hassignHeader : Header.ofText? "y = f'{x}!'".toList = none := by decide
  have hvalue : evaluate (Table.insert .empty "x" (.str s)) "f'{x}!'".toList
      = .ok (.str (s ++ "!")) := evaluate_exclaimed (Table.get?_insert_self _ _ _) hs
  have hsecond : (Moment.running ⟨Table.insert .empty "x" (.str s), [], 1, [], 0, 1, [0]⟩
      [[⟨1, 0, "y = f'{x}!'".toList⟩]]).step none
      = .running ⟨Table.insert (Table.insert .empty "x" (.str s)) "y" (.str (s ++ "!")), [], 1, [],
        0, 2, [1, 0]⟩ [[]] := by
    rw [Moment.step_of_ofText rfl hassignHeader hassign, Statement.execute, State.vars_visit,
      State.vars_check, hvalue]
    rfl
  rw [Moment.start, hlines, hinput]
  exact ⟨_, .head (Moment.step_input s _) (.single hsecond), Table.get?_insert_self _ _ _⟩

/-- A text as long as a value may be. -/
def longText : String :=
  letters maxValueBytes

/-- Another one, of letters that have no capital of their own. -/
def smallLetters : String :=
  String.ofList (List.replicate (maxValueBytes / 2) 'ŉ')

theorem utf8ByteSize_longText : longText.utf8ByteSize = maxValueBytes :=
  utf8ByteSize_letters maxValueBytes

theorem utf8ByteSize_smallLetters_le : smallLetters.utf8ByteSize ≤ maxValueBytes := by
  have hletter : 'ŉ'.utf8Size = 2 := by decide
  rw [smallLetters, String.utf8ByteSize_ofList, utf8Len_replicate, hletter]
  exact Nat.div_mul_le_self maxValueBytes 2

theorem utf8ByteSize_longText_append : (longText ++ "!").utf8ByteSize = maxValueBytes + 1 := by
  have hmark : "!".utf8ByteSize = 1 := by decide
  rw [String.utf8ByteSize_append, utf8ByteSize_longText, hmark]

theorem areBounded_longText : Bindings.AreBounded (Table.insert .empty "x" (.str longText)) :=
  areBounded_empty.insert "x" (Nat.le_of_eq utf8ByteSize_longText)

/-- **Values do not stay within the limit.** The mark behind a slot goes beyond it, and so do
capitals. -/
theorem exceeds_longText_smallLetters :
    (Bindings.AreBounded (Table.insert .empty "x" (.str longText)) ∧
      "f'{x}!'".utf8ByteSize ≤ maxSourceBytes ∧
      ∃ s, evaluate (Table.insert .empty "x" (.str longText)) "f'{x}!'".toList = .ok (.str s) ∧
        maxValueBytes < s.utf8ByteSize) ∧
    Bindings.AreBounded (Table.insert .empty "x" (.str smallLetters)) ∧
      "x.upper()".utf8ByteSize ≤ maxSourceBytes ∧
      ∃ s, evaluate (Table.insert .empty "x" (.str smallLetters)) "x.upper()".toList
          = .ok (.str s) ∧ maxValueBytes < s.utf8ByteSize := by
  refine ⟨⟨areBounded_longText, by decide, longText ++ "!", ?_, ?_⟩, ?_, by decide, ?_⟩
  · exact evaluate_exclaimed (Table.get?_insert_self _ _ _) (Nat.le_of_eq utf8ByteSize_longText)
  · rw [utf8ByteSize_longText_append]
    exact Nat.lt_succ_self maxValueBytes
  · exact areBounded_empty.insert "x" utf8ByteSize_smallLetters_le
  · obtain ⟨s, hs, hsize⟩ := @evaluate_raised (Table.insert .empty "x" (.str smallLetters)) _
      (Table.get?_insert_self _ _ _)
    refine ⟨s, hs, ?_⟩
    rw [hsize]
    decide

/-- The expression is to blame, and so is the assignment that the run comes to. -/
theorem outgrows_growingProgram :
    Outgrows (Table.insert .empty "x" (.str longText)) "f'{x}!'".toList ∧
    ∃ m, (Moment.start growingProgram.toList longText.toList).Reaches none m ∧
      m.IsOutgrowing none := by
  have hguards : oversize? growingProgram longText = none :=
    oversize?_eq_none_iff.mpr ⟨by decide, Nat.le_of_eq utf8ByteSize_longText⟩
  obtain ⟨hexpression, hrun⟩ := bounded_iff_not_outgrows areBounded_longText
    (by decide : "f'{x}!'".utf8ByteSize ≤ maxSourceBytes) none hguards
  have hlt : ¬ (Value.str (longText ++ "!")).IsBounded := by
    rw [Value.IsBounded, utf8ByteSize_longText_append]
    exact Nat.not_succ_le_self maxValueBytes
  refine ⟨?_, ?_⟩
  · have hvalue := @evaluate_exclaimed (Table.insert .empty "x" (.str longText)) longText
      (Table.get?_insert_self _ _ _) (Nat.le_of_eq utf8ByteSize_longText)
    by_contra hgrows
    exact hlt (hexpression.mpr hgrows _ hvalue)
  · obtain ⟨m, hm, hy⟩ := reaches_exclaimed (letters_ne_empty (by decide : 0 < maxValueBytes))
      (feed_notMem_letters maxValueBytes) (Nat.le_of_eq utf8ByteSize_longText)
    by_contra hgrowing
    have hvars := hrun.mpr (fun m' hm' h => hgrowing ⟨m', hm', h⟩) m hm
    exact hlt (hvars "y" _ hy)

end Autograder.Guest
