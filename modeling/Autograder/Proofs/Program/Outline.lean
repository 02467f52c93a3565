import Autograder.Proofs.Program.Lockstep
import Autograder.Proofs.Program.Recovery
import Autograder.Proofs.Program.Significant
import Mathlib.Order.Monotone.Basic
import Mathlib.Order.Nat

/-!
# What a program text says by its layout

All that a run takes from the layout of a program text is the order of its indentations. Blank lines
and comments may come and go anywhere, and the lines that are left may be indented anew, as long as
what was deeper stays deeper: the program leaves behind the same.

A run goes over all lines of a text, and blank lines and comments lie inside its bodies and between
its branches. It comes to the same as the run over the significant lines alone, `runProgram_eq`, so
these are what is compared here. Two texts that differ in the ways above have the same outline, up
to the widths of the indentations, and the runs over their significant lines are in lockstep. The
states are not quite the same, because a state notes which lines acted by their places in the text.

## Main definitions

* `writtenLines` — the significant lines of a text, as they are written
* `reindented` — a line with another number of spaces in front

## Main results

* `lockstep_reindented` — runs of lines that are indented differently are in lockstep
* `interpret_of_writtenLines` — the outcome depends on the significant lines and the order of their
  indentations
-/

namespace Autograder.Guest

/-! ### Runs of lines that are indented differently -/

/-- The second line has the same text, and `f` of the indentation. -/
structure Reindented (f : Nat → Nat) (line line' : Line) : Prop where
  text : line'.text = line.text
  indent : line'.indent = f line.indent

/-- The states are the same but for the lines that acted. -/
structure SameButVisited (s s' : State) : Prop where
  bare : s'.bare = s.bare
  checks : s'.checks = s.checks

/-- A statement does not see which lines acted. -/
theorem SameButVisited.execute {s s' : State} (h : SameButVisited s s') (statement : Statement) :
    SameButVisited (statement.execute s).state (statement.execute s').state ∧
      (statement.execute s').fault = (statement.execute s).fault := by
  have hbare : (statement.execute s').bare = (statement.execute s).bare := by
    rw [Statement.bare_execute, Statement.bare_execute, h.bare]
  have hstate := congrArg Ending.state hbare
  have hfault := congrArg Ending.fault hbare
  refine ⟨⟨hstate, ?_⟩, hfault⟩
  rw [checks_execute, checks_execute, h.checks]

/-- **Runs of lines that are indented differently are in lockstep**, and no fault parts them. -/
theorem lockstep_reindented {f : Nat → Nat} (hf : StrictMono f) (stop : StopFrom) :
    Lockstep (Reindented f) SameButVisited (fun _ => False) stop where
  text h := h.text
  indent h hnext := by rw [h.indent, hnext.indent, hf.lt_iff_lt]
  vars {s s'} h := by rw [← State.vars_bare, h.bare, State.vars_bare]
  isStopped h := by cases stop <;> simp [State.isStopped, h.checks]
  check h := ⟨h.bare, congrArg (· + 1) h.checks⟩
  visit h _ := ⟨h.bare, h.checks⟩
  execute statement h := .together (h.execute statement).1 (h.execute statement).2

theorem interpret_of_reindented {f : Nat → Nat} (hf : StrictMono f) (stop : StopFrom)
    {code code' : String} (input : String)
    (h : List.Forall₂ (Reindented f) (Line.ofProgram code.toList) (Line.ofProgram code'.toList)) :
    interpret stop code' input = interpret stop code input := by
  have hfollows := (lockstep_reindented hf stop).follows_runBlock _
    (s := State.initial ((Text.lines input.toList).map String.ofList)) ⟨rfl, rfl⟩ h
  cases hfollows with
  | together state fault =>
    rw [interpret, interpret, ← Ending.outcome_bare, ← Ending.outcome_bare (runProgram stop _ _)]
    refine congrArg Ending.outcome ?_
    rw [Ending.bare, Ending.bare, runProgram_eq, runProgram_eq, state.bare, fault]
  | apart _ parts => exact parts.elim

/-! ### Outlines of texts -/

instance : DecidablePred IsIdle :=
  fun _ => inferInstanceAs (Decidable (_ ∨ _))

/-- The significant lines of a program text, as they are written. -/
def writtenLines (code : List Char) : List (List Char) :=
  (Text.lines code).filter fun written => ¬ IsIdle written

/-- The number of blanks in front of what is written on a line. -/
def width (written : List Char) : Nat :=
  (written.takeWhile Text.isBlank).length

/-- The line with the number of spaces in front that `f` makes of its width. -/
def reindented (f : Nat → Nat) (written : List Char) : List Char :=
  indented (f (width written)) (Text.trimStart written)

theorem width_reindented (f : Nat → Nat) (written : List Char) :
    width (reindented f written) = f (width written) := by
  have htext : (Text.trimStart written).takeWhile Text.isBlank = [] := by
    cases h : Text.trimStart written with
    | nil => rfl
    | cons c rest =>
      have hc : Text.isBlank c = false := Text.head_trimStart c (by rw [h]; rfl)
      exact List.takeWhile_cons_of_neg (by simp [hc])
  rw [width, reindented, indented, List.takeWhile_append_of_pos fun _ => Text.isBlank_of_mem_spaces,
    htext, List.append_nil, List.length_replicate]

theorem trim_reindented (f : Nat → Nat) (written : List Char) :
    Text.trim (reindented f written) = Text.trim written := by
  rw [Text.trim, reindented, indented,
    Text.trimStart_append_of_blank fun _ => Text.isBlank_of_mem_spaces,
    Text.trimStart_of_head Text.head_trimStart, Text.trim]

/-- Trimming the end of a text leaves its first character, unless it leaves nothing. -/
theorem head?_trim {written : List Char} (h : Text.trim written ≠ []) :
    (Text.trim written).head? = (Text.trimStart written).head? := by
  obtain ⟨blanks, hblanks⟩ := Text.trimEnd_prefix (Text.trimStart written)
  rw [← hblanks]
  exact (List.head?_append_of_ne_nil _ h).symm

/-- The lines that take part in a program are those that are neither blank nor comments. -/
theorem isSignificant_ofText_iff (n : Nat) (written : List Char) :
    (Line.ofText n written).isSignificant = true ↔ ¬ IsIdle written := by
  constructor
  · intro hs hidle
    rw [hidle.not_significant] at hs
    exact Bool.false_ne_true hs
  · intro h
    rw [IsIdle, not_or] at h
    rw [Line.isSignificant_iff]
    refine ⟨h.1, ?_⟩
    rw [show (Line.ofText n written).text = Text.trim written from rfl, head?_trim h.1]
    exact h.2

/-- The significant lines have the widths and the texts of the written ones. -/
theorem map_significant (written : List (List Char)) (n : Nat) :
    ((Line.numberFrom n written).filter Line.isSignificant).map
        (fun line => (line.indent, line.text))
      = (written.filter fun w => ¬ IsIdle w).map fun w => (width w, Text.trim w) := by
  induction written generalizing n with
  | nil => rfl
  | cons w written ih =>
    have hs := isSignificant_ofText_iff n w
    rw [Line.numberFrom]
    by_cases hidle : IsIdle w
    · rw [List.filter_cons_of_neg (by simpa [hs] using hidle),
        List.filter_cons_of_neg (by simpa using hidle), ih]
    · rw [List.filter_cons_of_pos (hs.mpr hidle), List.filter_cons_of_pos (by simpa using hidle),
        List.map_cons, List.map_cons, ih]
      rfl

/-- Texts with the same outline, up to the widths, have corresponding significant lines. -/
theorem forall₂_ofProgram {f : Nat → Nat} {code code' : List Char}
    (h : (writtenLines code').map (fun w => (width w, Text.trim w))
      = (writtenLines code).map fun w => (f (width w), Text.trim w)) :
    List.Forall₂ (Reindented f) (Line.ofProgram code) (Line.ofProgram code') := by
  -- Widths and texts are compared as lists, because the places of the lines do not correspond.
  have hmap : (Line.ofProgram code').map (fun line => (line.indent, line.text))
      = (Line.ofProgram code).map fun line => (f line.indent, line.text) := by
    have hcode := congrArg (List.map (Prod.map f id)) (map_significant (Text.lines code) 0)
    rw [List.map_map, List.map_map] at hcode
    exact (map_significant (Text.lines code') 0).trans (h.trans hcode.symm)
  rw [← List.forall₂_eq_eq_eq, List.forall₂_map_left_iff, List.forall₂_map_right_iff] at hmap
  refine hmap.flip.imp fun line line' heq => ?_
  obtain ⟨hindent, htext⟩ := Prod.mk.inj heq
  exact ⟨htext, hindent⟩

/-- **Only the significant lines and the order of their indentations matter.** A program leaves
behind the same if blank lines and comments are put in or taken out anywhere, and if each
significant line is indented anew so that what was deeper is deeper. -/
theorem interpret_of_writtenLines (stop : StopFrom) {code code' : String} (input : String) :
    (writtenLines code'.toList = writtenLines code.toList →
      interpret stop code' input = interpret stop code input) ∧
    ∀ f : Nat → Nat, StrictMono f →
      writtenLines code'.toList = (writtenLines code.toList).map (reindented f) →
      interpret stop code' input = interpret stop code input := by
  refine ⟨fun h => ?_, fun f hf h => ?_⟩
  · refine interpret_of_reindented strictMono_id stop input (forall₂_ofProgram ?_)
    rw [h]
    rfl
  · refine interpret_of_reindented hf stop input (forall₂_ofProgram ?_)
    rw [h, List.map_map]
    refine List.map_congr_left fun w _ => ?_
    rw [Function.comp_apply, width_reindented, trim_reindented]

/-- A chain, its blocks set off by one space. -/
def plainLayout : String :=
  "n = int(input())\nif n > 2:\n if n > 4:\n  print('large')\nelse:\n print('small')"

/-- The same chain with comments and blank lines. -/
def commentedLayout : String :=
  "n = int(input())\n\nif n > 2:\n# not small\n if n > 4:\n   \n  print('large')\n" ++
    "# small\nelse:\n print('small')\n"

/-- The same chain, its blocks set off by four spaces and all of it by two. -/
def wideLayout : String :=
  "  n = int(input())\n  if n > 2:\n      if n > 4:\n          print('large')\n" ++
    "  else:\n      print('small')"

/-- In both layouts the chain does what it does in the plain one. -/
theorem interpret_plainLayout :
    (writtenLines commentedLayout.toList = writtenLines plainLayout.toList ∧
      interpret none commentedLayout "5" = interpret none plainLayout "5") ∧
    (StrictMono (fun w : Nat => 4 * w + 2) ∧
      writtenLines wideLayout.toList
        = (writtenLines plainLayout.toList).map (reindented fun w => 4 * w + 2) ∧
      interpret none wideLayout "5" = interpret none plainLayout "5") := by
  have hcommented : writtenLines commentedLayout.toList = writtenLines plainLayout.toList := by
    decide +kernel
  have hf : StrictMono fun w : Nat => 4 * w + 2 := by
    intro w v hlt
    dsimp only
    omega
  have hwide : writtenLines wideLayout.toList
      = (writtenLines plainLayout.toList).map (reindented fun w => 4 * w + 2) := by
    decide +kernel
  exact ⟨⟨hcommented, (interpret_of_writtenLines none "5").1 hcommented⟩,
    hf, hwide, (interpret_of_writtenLines none "5").2 _ hf hwide⟩

end Autograder.Guest
