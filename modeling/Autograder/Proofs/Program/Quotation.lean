import Autograder.Proofs.Program.Arguments
import Autograder.Proofs.Program.Significant
import Autograder.Proofs.Scan.Quoted

/-!
# Printing quoted text

A program of one line that prints literals prints the texts they were written from, whatever the
texts hold. On the way the line is cut out of the program, taken apart into its call, its arguments
and their literals, and each of these steps reads marks and backslashes by itself. A text that holds
a bracket, a comma, a number sign, a line feed or a colon must not look like one to any of them.

## Main results

* `printLine_quotedArguments` — quoted arguments are printed as the texts between blanks
* `interpret_printOf` — the program prints that line, if it is not too long
-/

namespace Autograder.Guest

/-! ### From the program to its statement -/

/-- A program of one line that is trimmed and no comment has this line. -/
theorem Line.ofProgram_of_trimmed {code : List Char} (hfeed : '\n' ∉ code) (hne : code ≠ [])
    (h : Text.Trimmed code) (hcomment : code.head? ≠ some '#') :
    ofProgram code = [⟨0, 0, code⟩] := by
  have hlines : Text.lines code = [code] := by
    rw [Text.lines_of_no_feed hfeed, if_neg (mt List.isEmpty_iff.mp hne)]
  have hindent : code.takeWhile Text.isBlank = [] := by
    have hsurround := Text.indent_surround (List.forall_mem_nil _) hne h []
    rwa [List.nil_append, List.append_nil] at hsurround
  have hline : ofText 0 code = ⟨0, 0, code⟩ := by
    rw [ofText, hindent, h.trim_eq]
    rfl
  rw [ofProgram, significant, hlines, numberFrom, numberFrom, hline,
    List.filter_cons_of_pos (isSignificant_iff.mpr ⟨hne, hcomment⟩), List.filter_nil]

/-- A header ends in a colon. -/
theorem Header.ofText?_append_of_ne {c : Char} (hc : c ≠ ':') (text : List Char) :
    ofText? (text ++ [c]) = none := by
  have hnone : Text.before? [':'] (text ++ [c]) = none := by
    rw [Option.eq_none_iff_forall_ne_some]
    intro head hhead
    have hlast := (List.append_inj' (Text.before?_eq_some_iff.mp hhead) rfl).2
    exact hc (List.singleton_inj.mp hlast)
  rw [ofText?, hnone, Option.bind_none]

/-- The call that prints these texts, each written as a literal. -/
def printOf (texts : List (List Char)) : List Char :=
  callText ['p', 'r', 'i', 'n', 't'] (quotedArguments texts)

theorem printOf_eq_append (texts : List (List Char)) :
    printOf texts = (['p', 'r', 'i', 'n', 't', '('] ++ quotedArguments texts) ++ [')'] := rfl

/-- A literal is written on one line. -/
theorem feed_notMem_quote (text : List Char) : '\n' ∉ quote text := by
  have hchar (c : Char) : '\n' ∉ quoteChar c := by
    fun_cases quoteChar c with
    | case4 _ _ hfeed => exact fun hmem => hfeed (beq_iff_eq.mpr (List.mem_singleton.mp hmem).symm)
    | _ => decide
  simp [quote, hchar]

theorem feed_notMem_quotedArguments (texts : List (List Char)) :
    '\n' ∉ quotedArguments texts := by
  match texts with
  | [] => simp [quotedArguments]
  | [text] => simpa [quotedArguments] using feed_notMem_quote text
  | text :: next :: more =>
    rw [quotedArguments_cons_cons]
    simp [feed_notMem_quote text, feed_notMem_quotedArguments (next :: more)]

/-- The program is a single line. -/
theorem ofProgram_printOf (texts : List (List Char)) :
    Line.ofProgram (printOf texts) = [⟨0, 0, printOf texts⟩] := by
  have hfeed : '\n' ∉ printOf texts := by
    simp [printOf, callText, feed_notMem_quotedArguments texts]
  have hcomment : (printOf texts).head? ≠ some '#' := by simp [printOf, callText]
  have htrimmed : Text.Trimmed (printOf texts) :=
    @Text.trimmed_enclosed 'p' ')' (by decide) (by decide)
      (['r', 'i', 'n', 't', '('] ++ quotedArguments texts)
  exact Line.ofProgram_of_trimmed hfeed (List.cons_ne_nil _ _) htrimmed hcomment

/-- The line is a print statement whatever the texts are. -/
theorem ofText_printOf (texts : List (List Char)) :
    Statement.ofText (printOf texts) = .print (quotedArguments texts) := by
  rw [Statement.ofText, printOf, callArgument?_quotedArguments]

/-! ### From the statement to the line -/

/-- A literal between blanks has the text as its value. -/
theorem evaluate_quote {pad : List Char} (hpad : ∀ c ∈ pad, Text.isBlank c = true)
    (vars : Bindings) (text : List Char) :
    evaluate vars (pad ++ quote text) = .ok (.str (String.ofList text)) := by
  have hne : quote text ≠ [] := by simp [quote]
  have htrimmed : Text.Trimmed (quote text) := Text.trimmed_enclosed (by decide) (by decide) _
  have htrim := Text.trim_surround hpad (List.forall_mem_nil _) hne htrimmed
  rw [List.append_nil] at htrim
  refine evaluate_of_literal ?_
  rw [htrim, ofText_quote]

/-- **Quoted arguments are printed as the texts**, with blanks between them. -/
theorem printLine_quotedArguments (vars : Bindings) (texts : List (List Char)) :
    printLine vars (quotedArguments texts) = .ok (" ".intercalate (texts.map String.ofList)) := by
  cases texts with
  | nil => rfl
  | cons text more =>
    have hfirst : ShownAs vars (quote text) (String.ofList text) :=
      ⟨_, evaluate_quote (List.forall_mem_nil _) vars text, rfl⟩
    -- All arguments but the first start with the blank behind their comma.
    have hothers : List.Forall₂ (ShownAs vars) (more.map fun text => ' ' :: quote text)
        (more.map String.ofList) := by
      rw [List.forall₂_map_left_iff, List.forall₂_map_right_iff, List.forall₂_same]
      intro next _
      exact ⟨_, evaluate_quote (List.forall_mem_singleton.mpr (by decide)) vars next, rfl⟩
    refine printLine_eq_ok_iff.mpr ⟨_, ?_, rfl⟩
    rw [splitTopLevel_quotedArguments]
    exact .cons hfirst hothers

/-! ### The run -/

/-- A first line that is too long for the output leaves none. -/
theorem State.outcome_print {s : State} (hprinted : s.printed = []) (hbytes : s.printedBytes = 0)
    (line : String) :
    (s.print line).outcome =
      if line.utf8ByteSize + 1 ≤ maxOutputBytes then ⟨line, none, 0⟩
      else ⟨"", some (Fault.message .outputTooLong), 1⟩ := by
  rw [State.print, hprinted, hbytes, Nat.zero_add]
  split <;> rfl

/-- **Quoted text is printed as it is**, in a line of its own, if the line is not too long.
Otherwise nothing is printed. -/
theorem interpret_printOf (texts : List String) (input : String) :
    interpret none (String.ofList (printOf (texts.map String.toList))) input =
      if (" ".intercalate texts).utf8ByteSize + 1 ≤ maxOutputBytes then
        ⟨" ".intercalate texts, none, 0⟩
      else ⟨"", some (Fault.message .outputTooLong), 1⟩ := by
  have hheader (guard : List Char) :
      Header.ofText? (printOf (texts.map String.toList)) ≠ some (.opening guard) := by
    rw [printOf_eq_append, Header.ofText?_append_of_ne (by decide)]
    exact Option.some_ne_none _ |>.symm
  have hline (vars : Bindings) : printLine vars (quotedArguments (texts.map String.toList))
      = .ok (" ".intercalate texts) := by
    rw [printLine_quotedArguments, List.map_map]
    simp
  have hsignificant : (⟨0, 0, printOf (texts.map String.toList)⟩ : Line).isSignificant = true :=
    Line.isSignificant_of_mem_ofProgram (ofProgram_printOf _ ▸ List.mem_singleton_self _)
  rw [interpret, runProgram_eq, String.toList_ofList, ofProgram_printOf,
    runBlock_statement hsignificant rfl hheader, ofText_printOf]
  simp only [runBlock_nil, Ending.andThen_self, Statement.execute, hline, State.withValue]
  exact State.outcome_print rfl rfl _

example : printOf ["it's".toList, "a, b)\n#:".toList] = "print('it\\'s', 'a, b)\\n#:')".toList := by
  decide

end Autograder.Guest
