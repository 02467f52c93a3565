import Autograder.Proofs.Program.Arguments
import Autograder.Proofs.Program.OutputCap
import Autograder.Proofs.Program.ValueSize

/-!
# How long a printed line gets

A line that is too long for the output is refused when it is there. Before that nothing looks at
how long it gets: the texts of all arguments are put together first, and what can end the statement
until then is only an argument that has no value. Since a name can stand for a text of
`maxValueBytes` bytes, eight short arguments are enough for a line that is longer than a whole
output may be. Seven are not, if their values are within the limit on values.

## Main definitions

* `Overfills` — arguments whose line is longer than an output may be
* `sameArguments` — the same name as every argument

## Main results

* `utf8ByteSize_line` — the bytes of a line
* `execute_of_overfills` — a line that is too long is refused
* `volume_le_of_shown` — the bytes of arguments within the limit
* `printLine_within_iff` — which lines are refused, and when a line is within the limit
* `overfills_sameArguments` — a line can be as long as the program allows for arguments
* `nineCopies_beyond_output` — a run puts together a line that is longer than an output may be
-/

namespace Autograder.Guest

open String (utf8Len utf8Len_append utf8Len_cons)

/-- All arguments have values, and their texts, with blanks between them, have more bytes than an
output may have. -/
def Overfills (vars : Bindings) (arguments : List Char) : Prop :=
  ∃ texts, List.Forall₂ (ShownAs vars) (splitTopLevel ',' arguments) texts ∧
    maxOutputBytes < volume texts - 1

/-! ### The bytes of a line -/

/-- Each text has a blank behind it, but for the last. -/
theorem utf8ByteSize_line (texts : List String) :
    (" ".intercalate texts).utf8ByteSize = volume texts - 1 := by
  cases texts with
  | nil => rfl
  | cons text texts =>
    have hblank : " ".utf8ByteSize = 1 := by decide
    have hsize := utf8ByteSize_joined hblank (List.cons_ne_nil text texts)
    omega

section Line

variable {vars : Bindings} {arguments : List Char}

theorem exists_line_iff_overfills :
    (∃ line, printLine vars arguments = .ok line ∧ maxOutputBytes < line.utf8ByteSize) ↔
      Overfills vars arguments := by
  constructor
  · rintro ⟨line, hline, hlong⟩
    obtain ⟨texts, htexts, rfl⟩ := printLine_eq_ok_iff.mp hline
    exact ⟨texts, htexts, utf8ByteSize_line texts ▸ hlong⟩
  · rintro ⟨texts, htexts, hlong⟩
    exact ⟨_, printLine_eq_ok_iff.mpr ⟨texts, htexts, rfl⟩, utf8ByteSize_line texts ▸ hlong⟩

/-- **A line that is too long** is refused. Its bytes are counted, and else the state is unchanged. -/
theorem execute_of_overfills {s : State} (h : Overfills s.vars arguments) :
    ∃ bytes, maxOutputBytes < bytes ∧ (Statement.print arguments).execute s
      = ⟨{ s with printedBytes := bytes }, some .outputTooLong⟩ := by
  obtain ⟨line, hline, hlong⟩ := exists_line_iff_overfills.mpr h
  have hbeyond : maxOutputBytes < s.printedBytes + line.utf8ByteSize + 1 := by omega
  rw [Statement.execute, hline, State.withValue, State.print, if_neg (Nat.not_le_of_lt hbeyond)]
  exact ⟨_, hbeyond, rfl⟩

/-- **Arguments within the limit on values** have that many bytes at most, each with a blank. -/
theorem volume_le_of_shown {pieces : List (List Char)} {texts : List String}
    (hvars : vars.AreBounded)
    (hpieces : ∀ piece ∈ pieces, utf8Len piece ≤ maxValueBytes ∧ ¬ Outgrows vars piece)
    (h : List.Forall₂ (ShownAs vars) pieces texts) :
    volume texts ≤ pieces.length * (maxValueBytes + 1) := by
  induction h with
  | nil => exact Nat.le_refl 0
  | @cons piece text pieces texts hshown _ ih =>
    obtain ⟨⟨hsize, hgrows⟩, hothers⟩ := List.forall_mem_cons.mp hpieces
    obtain ⟨v, hv, rfl⟩ := hshown
    have hbounded := (bounded_or_outgrows hvars hsize hv).resolve_right hgrows
    have htext := Value.utf8ByteSize_text_le hbounded
    have hrest := ih hothers
    rw [volume, List.length_cons, Nat.succ_mul]
    omega

end Line

/-! ### The arguments in the program -/

theorem length_le_utf8Len (text : List Char) : text.length ≤ utf8Len text := by
  induction text with
  | nil => exact Nat.le_refl 0
  | cons c text ih =>
    have hc := c.utf8Size_pos
    rw [List.length_cons, utf8Len_cons]
    omega

/-- The arguments stand in the statement, with a bracket on either side. -/
theorem utf8Len_of_print {text arguments : List Char}
    (h : Statement.ofText text = .print arguments) : utf8Len arguments + 1 ≤ utf8Len text := by
  obtain ⟨⟨blanks, -, rfl⟩, -⟩ := isCall_of_print h
  have hbracket : '('.utf8Size = 1 := by decide
  simp only [utf8Len_append, utf8Len_cons, hbracket]
  omega

/-- There are at most as many arguments as the statement has bytes, and none has more bytes. -/
theorem pieces_of_print {text arguments : List Char}
    (h : Statement.ofText text = .print arguments) :
    (splitTopLevel ',' arguments).length ≤ utf8Len text ∧
      ∀ piece ∈ splitTopLevel ',' arguments, utf8Len piece ≤ utf8Len text := by
  have hparted := parted_splitTopLevel ',' arguments
  have harguments := utf8Len_of_print h
  constructor
  · have hcount := hparted.length_le
    have hlength := length_le_utf8Len arguments
    omega
  · intro piece hpiece
    have hinfix := String.utf8Len_le_of_infix (hparted.infix_of_mem hpiece)
    omega

/-! ### Lines within the limit -/

/-- **Which lines are refused, and when a line is within the limit on outputs.** Arguments that
overfill a line end the statement, but only when the line is there. If no argument outgrows the
limit on values, up to seven of them cannot overfill a line. More can, and only the size of the
statement bounds the line then. Until the line is there, an argument without a value ends the
statement and nothing else does, however much the arguments in front of it have come to. So a line
that a print statement puts together is within the limit exactly if the arguments do not overfill
it. -/
theorem printLine_within_iff {vars : Bindings} (hvars : vars.AreBounded) {statement : String}
    (hsize : statement.utf8ByteSize ≤ maxSourceBytes) {arguments : List Char}
    (hprint : Statement.ofText statement.toList = .print arguments) :
    (∀ s : State, s.vars = vars → Overfills vars arguments →
      ∃ bytes, maxOutputBytes < bytes ∧ (Statement.print arguments).execute s
        = ⟨{ s with printedBytes := bytes }, some .outputTooLong⟩) ∧
    ((∀ piece ∈ splitTopLevel ',' arguments, ¬ Outgrows vars piece) →
      ((splitTopLevel ',' arguments).length ≤ 7 → ¬ Overfills vars arguments) ∧
      ∀ line, printLine vars arguments = .ok line →
        line.utf8ByteSize < maxSourceBytes * (maxValueBytes + 1)) ∧
    (∀ f, printLine vars arguments = .error f ↔ FaultsIn vars (splitTopLevel ',' arguments) f) ∧
    ((∀ line, printLine vars arguments = .ok line → line.utf8ByteSize ≤ maxOutputBytes) ↔
      ¬ Overfills vars arguments) := by
  have hlimit : maxSourceBytes ≤ maxValueBytes := by decide
  obtain ⟨hcount, hpieces⟩ := pieces_of_print hprint
  rw [String.utf8Len_toList] at hcount hpieces
  refine ⟨?_, ?_, fun f => printLine_eq_error_iff, ?_⟩
  · rintro s rfl hoverfills
    exact execute_of_overfills hoverfills
  · intro hgrows
    have hvolume {texts : List String}
        (htexts : List.Forall₂ (ShownAs vars) (splitTopLevel ',' arguments) texts) :
        volume texts ≤ (splitTopLevel ',' arguments).length * (maxValueBytes + 1) := by
      refine volume_le_of_shown hvars (fun piece hpiece => ⟨?_, hgrows piece hpiece⟩) htexts
      exact Nat.le_trans (hpieces piece hpiece) (Nat.le_trans hsize hlimit)
    constructor
    · rintro hseven ⟨texts, htexts, hlong⟩
      have hbytes := Nat.le_trans (hvolume htexts) (Nat.mul_le_mul_right _ hseven)
      have hseven : 7 * (maxValueBytes + 1) ≤ maxOutputBytes := by decide
      omega
    · intro line hline
      obtain ⟨texts, htexts, rfl⟩ := printLine_eq_ok_iff.mp hline
      have hbytes := Nat.le_trans (hvolume htexts)
        (Nat.mul_le_mul_right _ (Nat.le_trans hcount hsize))
      have hpos : 0 < maxSourceBytes * (maxValueBytes + 1) := by decide
      rw [utf8ByteSize_line]
      omega
  · rw [← exists_line_iff_overfills]
    simp only [not_exists, not_and, Nat.not_lt]

/-! ### Lines beyond it -/

/-- The name `x` as the first argument and as so many more. -/
def sameArguments : Nat → List Char
  | 0 => ['x']
  | more + 1 => sameArguments more ++ [',', ' ', 'x']

theorem isLevel_sameArguments (more : Nat) : IsLevel (sameArguments more) := by
  induction more with
  | zero => decide
  | succ more ih => exact ih.append_iff.mpr (by decide)

section SameArguments

variable {vars : Bindings} {s : String} (h : vars.get? "x" = some (.str s))

include h

/-- Each of the arguments is shown as the value of the name. -/
theorem shownAs_sameArguments (more : Nat) :
    List.Forall₂ (ShownAs vars) (splitTopLevel ',' (sameArguments more))
      (List.replicate (more + 1) s) := by
  induction more with
  | zero =>
    have hsingle : splitTopLevel ',' (sameArguments 0) = [['x']] := by decide
    rw [hsingle]
    exact .cons (shownAs_name h (List.forall_mem_nil _)) .nil
  | succ more ih =>
    have hlast : splitTopLevel ',' [' ', 'x'] = [[' ', 'x']] := by decide
    rw [sameArguments, splitTopLevel_append (isLevel_sameArguments more) (by decide), hlast,
      List.replicate_succ']
    exact List.rel_append ih
      (.cons (shownAs_name h (List.forall_mem_singleton.mpr (by decide))) .nil)

theorem shownAs_of_mem_sameArguments {more : Nat} {piece : List Char}
    (hpiece : piece ∈ splitTopLevel ',' (sameArguments more)) : ShownAs vars piece s := by
  obtain ⟨i, hi, rfl⟩ := List.getElem_of_mem hpiece
  have hall := shownAs_sameArguments h more
  have hshown := hall.get hi (hall.length_eq ▸ hi)
  rwa [List.get_eq_getElem, List.get_eq_getElem, List.getElem_replicate] at hshown

/-- **However long the arguments have become**, what ends the statement is that the last of them has
no value. -/
theorem printLine_sameArguments_ghost (hghost : vars.get? "ghost" = none) (more : Nat) :
    printLine vars (sameArguments more ++ ", ghost".toList) = .error (.unbound "ghost") := by
  have hlast : splitTopLevel ',' " ghost".toList = [" ghost".toList] := by decide
  have hsplit : splitTopLevel ',' (sameArguments more ++ ", ghost".toList)
      = splitTopLevel ',' (sameArguments more) ++ [" ghost".toList] := by
    rw [← hlast]
    exact splitTopLevel_append (isLevel_sameArguments more) (by decide) _
  have hvalue : evaluate vars " ghost".toList = .error (.unbound "ghost") := by
    have hform : Form.ofText (Text.trim " ghost".toList) = .bare := by decide
    have htrim : Text.trim " ghost".toList = "ghost".toList := by decide
    have hname : isIdentifier "ghost".toList = true := by decide
    have hterm : Term.ofText? "ghost".toList = some (.name "ghost") :=
      @Term.ofText?_write (.name "ghost") hname
    rw [evaluate_of_bare hform, htrim, bareValue, String.ofList_toList, hghost]
    simp only [hterm, Term.eval, hghost]
  exact printLine_eq_error_iff.mpr
    ⟨_, _, [], hsplit, fun piece hpiece => ⟨s, shownAs_of_mem_sameArguments h hpiece⟩, hvalue⟩

end SameArguments

theorem volume_replicate (n : Nat) (s : String) :
    volume (List.replicate n s) = n * (s.utf8ByteSize + 1) := by
  induction n with
  | zero => rw [List.replicate_zero, volume_nil, Nat.zero_mul]
  | succ n ih =>
    rw [List.replicate_succ, volume, ih, Nat.succ_mul]
    omega

/-- **Eight arguments are enough** for a line that is too long, and each further one makes it longer
by as much. -/
theorem overfills_sameArguments {vars : Bindings} (h : vars.get? "x" = some (.str longText))
    {more : Nat} (hmore : 7 ≤ more) : Overfills vars (sameArguments more) := by
  refine ⟨_, shownAs_sameArguments h more, ?_⟩
  have hlimit : maxOutputBytes + 1 < 8 * (maxValueBytes + 1) := by decide
  have hbytes : 8 * (maxValueBytes + 1) ≤ (more + 1) * (maxValueBytes + 1) :=
    Nat.mul_le_mul_right _ (Nat.succ_le_succ hmore)
  rw [volume_replicate, utf8ByteSize_longText]
  omega

/-- The name `x` stands for a text as long as a value may be. -/
def longBindings : Bindings :=
  Table.insert .empty "x" (.str longText)

theorem get?_longBindings : longBindings.get? "x" = some (.str longText) :=
  Table.get?_insert_self _ _ _

/-- No copy of the name outgrows the limit, since the name has a value within it. -/
theorem not_outgrows_sameArgument {more : Nat} {piece : List Char}
    (hpiece : piece ∈ splitTopLevel ',' (sameArguments more)) : ¬ Outgrows longBindings piece := by
  intro hgrows
  obtain ⟨v, hv, htext⟩ := shownAs_of_mem_sameArguments get?_longBindings hpiece
  obtain ⟨s, hs, hlt⟩ := hgrows.exists_value
  obtain rfl : v = .str s := Except.ok.inj (hv.symm.trans hs)
  obtain rfl : s = longText := htext
  exact Nat.lt_irrefl _ (utf8ByteSize_longText ▸ hlt)

/-- Seven copies of a text as long as a value may be are within the limit, and eight are not. -/
theorem printLine_within_sevenCopies :
    (longBindings.AreBounded ∧ "print(x, x, x, x, x, x, x)".utf8ByteSize ≤ maxSourceBytes ∧
      Statement.ofText "print(x, x, x, x, x, x, x)".toList = .print (sameArguments 6) ∧
      (∀ piece ∈ splitTopLevel ',' (sameArguments 6), ¬ Outgrows longBindings piece) ∧
      (splitTopLevel ',' (sameArguments 6)).length = 7 ∧
      ∀ line, printLine longBindings (sameArguments 6) = .ok line →
        line.utf8ByteSize ≤ maxOutputBytes) ∧
    "print(x, x, x, x, x, x, x, x)".utf8ByteSize ≤ maxSourceBytes ∧
      Statement.ofText "print(x, x, x, x, x, x, x, x)".toList = .print (sameArguments 7) ∧
      Overfills longBindings (sameArguments 7) ∧
      ∃ bytes, maxOutputBytes < bytes ∧
        (Statement.print (sameArguments 7)).execute ⟨longBindings, [], 0, [], 0, 0, []⟩
          = ⟨⟨longBindings, [], 0, [], bytes, 0, []⟩, some .outputTooLong⟩ := by
  have hseven : Statement.ofText "print(x, x, x, x, x, x, x)".toList
      = .print (sameArguments 6) := by decide
  have hmany : Statement.ofText "print(x, x, x, x, x, x, x, x)".toList
      = .print (sameArguments 7) := by decide
  have hlength : (splitTopLevel ',' (sameArguments 6)).length = 7 := by decide
  have hgrows : ∀ piece ∈ splitTopLevel ',' (sameArguments 6), ¬ Outgrows longBindings piece :=
    fun piece hpiece => not_outgrows_sameArgument hpiece
  have hoverfills : Overfills longBindings (sameArguments 7) :=
    overfills_sameArguments get?_longBindings (Nat.le_refl 7)
  refine ⟨⟨areBounded_longText, by decide, hseven, hgrows, hlength, ?_⟩, by decide, hmany,
    hoverfills, ?_⟩
  · obtain ⟨-, hfew, -, hwithin⟩ := printLine_within_iff areBounded_longText (by decide) hseven
    exact hwithin.mpr ((hfew hgrows).1 (Nat.le_of_eq hlength))
  · obtain ⟨hrefused, -⟩ := printLine_within_iff areBounded_longText (by decide) hmany
    exact hrefused ⟨longBindings, [], 0, [], 0, 0, []⟩ rfl hoverfills

/-- Reads a line and prints it nine times, in one line. -/
def nineProgram : String :=
  "x = input()
print(x, x, x, x, x, x, x, x, x)"

/-- Reads a line, and prints it nine times and a name without a value. -/
def ghostProgram : String :=
  "x = input()
print(x, x, x, x, x, x, x, x, x, ghost)"

/-- On the long text, a program that reads it comes to its second line. -/
theorem reaches_secondLine {code : String} {text : List Char}
    (hlines : Line.ofCode code.toList = [⟨0, 0, "x = input()".toList⟩, ⟨1, 0, text⟩]) :
    (Moment.start code.toList longText.toList).Reaches none
      (.running ⟨longBindings, [], 1, [], 0, 1, [0]⟩ [[⟨1, 0, text⟩]]) := by
  have hinput := Text.lines_of_line (letters_ne_empty (by decide : 0 < maxValueBytes))
    (feed_notMem_letters maxValueBytes)
  rw [Moment.start, hlines, longText, hinput]
  exact .single (Moment.step_input longText _)

/-- **A print statement puts together a line that is longer than the output may be.** Nine arguments
are enough, and a run comes to where it has the line and is about to print it. No fault comes before
that: if a tenth argument has no value, it is this that ends the run, and not the length of what was
there before. -/
theorem nineCopies_beyond_output :
    (longBindings.AreBounded ∧
      "print(x, x, x, x, x, x, x, x, x)".utf8ByteSize ≤ maxSourceBytes ∧
      Statement.ofText "print(x, x, x, x, x, x, x, x, x)".toList = .print (sameArguments 8) ∧
      ∃ line, printLine longBindings (sameArguments 8) = .ok line ∧
        maxOutputBytes < line.utf8ByteSize) ∧
    (∃ m line, (Moment.start nineProgram.toList longText.toList).Reaches none m ∧
      m.offered? none = some line ∧ maxOutputBytes < line.utf8ByteSize) ∧
    interpret none ghostProgram longText
      = ⟨"", some "NameError: name 'ghost' is not defined", 1⟩ := by
  have hnine : Statement.ofText "print(x, x, x, x, x, x, x, x, x)".toList
      = .print (sameArguments 8) := by decide
  obtain ⟨line, hline, hlong⟩ := exists_line_iff_overfills.mpr
    (overfills_sameArguments get?_longBindings (by decide : 7 ≤ 8))
  refine ⟨⟨areBounded_longText, by decide, hnine, line, hline, hlong⟩, ?_, ?_⟩
  · have hlines : Line.ofCode nineProgram.toList = [⟨0, 0, "x = input()".toList⟩,
        ⟨1, 0, "print(x, x, x, x, x, x, x, x, x)".toList⟩] := by decide
    refine ⟨_, line, reaches_secondLine hlines, ?_, hlong⟩
    rw [Moment.offered?, hnine]
    dsimp only
    rw [hline]
    rfl
  · have hprint : Statement.ofText "print(x, x, x, x, x, x, x, x, x, ghost)".toList
        = .print (sameArguments 8 ++ ", ghost".toList) := by decide
    have hghost : longBindings.get? "ghost" = none := by
      rw [longBindings, Table.get?_insert]
      rfl
    have hsecond : (Moment.running ⟨longBindings, [], 1, [], 0, 1, [0]⟩
        [[⟨1, 0, "print(x, x, x, x, x, x, x, x, x, ghost)".toList⟩]]).step none
        = .ended ⟨⟨longBindings, [], 1, [], 0, 2, [1, 0]⟩, some (.unbound "ghost")⟩ := by
      rw [Moment.step_of_ofText rfl (ofText?_of_print hprint) hprint, Statement.execute,
        State.vars_visit, State.vars_check,
        printLine_sameArguments_ghost get?_longBindings hghost]
      rfl
    have hlines : Line.ofCode ghostProgram.toList = [⟨0, 0, "x = input()".toList⟩,
        ⟨1, 0, "print(x, x, x, x, x, x, x, x, x, ghost)".toList⟩] := by decide
    have hreaches := (reaches_secondLine hlines).tail hsecond
    rw [interpret, ← Moment.Reaches.eq_runProgram hreaches]
    rfl

end Autograder.Guest
