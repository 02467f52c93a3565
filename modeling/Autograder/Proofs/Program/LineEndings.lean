import Autograder.Grading.Sandbox
import Autograder.Grading.Verdict
import Autograder.Proofs.Program.Significant

/-!
# Styles of line endings

Some systems end a line with a line feed, others put a carriage return in front of it. A program
text, its input and the output that is expected of it may each be written in either style, or in
a mixture of both, and nothing that is reported of the program depends on it. There are three
reasons for this, one for each text:

* In a program text the carriage return is a blank behind its line. A significant line is trimmed,
  and a line that is nothing but blanks is not significant, whatever its indentation.
* The lines of the input lose one carriage return before their line feed.
* An expected output is compared in its normal form, which knows line feeds only.

A program text may have carriage returns of its own. Of an input they are part of the lines, and of
an output they are line endings too, so these two must have none before they are restyled.

## Main definitions

* `Text.withReturns`, `restyle` — a text with carriage returns in front of some of its line feeds

## Main results

* `Line.ofProgram_withReturns`, `Text.lines_withReturns`, `unifyEndings_withReturns` — the three
  texts
* `interpret_restyle` — neither the outcome nor the verdict depends on the style
-/

namespace Autograder

namespace Text

/-- The text with a carriage return in front of each line feed that is chosen. The line feeds are
numbered from zero. -/
def withReturns (chosen : Nat → Bool) : List Char → List Char
  | [] => []
  | c :: text =>
    if c = '\n' then
      (if chosen 0 then ['\r', '\n'] else ['\n']) ++ withReturns (fun n => chosen (n + 1)) text
    else c :: withReturns chosen text

/-- A text without line feeds has no line endings. -/
theorem withReturns_of_no_feed (chosen : Nat → Bool) {text : List Char} (h : '\n' ∉ text) :
    withReturns chosen text = text := by
  induction text with
  | nil => rfl
  | cons c text ih =>
    rw [List.mem_cons, not_or] at h
    rw [withReturns, if_neg (Ne.symm h.1), ih h.2]

/-- What the first line has behind it when a carriage return is put there, or is not. -/
def ending (isChosen : Bool) : List Char :=
  if isChosen then ['\r'] else []

theorem isBlank_of_mem_ending {isChosen : Bool} {c : Char} (h : c ∈ ending isChosen) :
    isBlank c = true := by
  cases isChosen with
  | false => simp [ending] at h
  | true =>
    obtain rfl : c = '\r' := by simpa [ending] using h
    decide

theorem feed_notMem_ending (isChosen : Bool) : '\n' ∉ ending isChosen := by
  cases isChosen <;> decide

/-- The first line keeps its text and gets its ending. -/
theorem withReturns_append_feed (chosen : Nat → Bool) {line : List Char} (h : '\n' ∉ line)
    (rest : List Char) :
    withReturns chosen (line ++ '\n' :: rest)
      = (line ++ ending (chosen 0)) ++ '\n' :: withReturns (fun n => chosen (n + 1)) rest := by
  induction line with
  | nil =>
    rw [List.nil_append, withReturns, if_pos rfl]
    cases chosen 0 <;> rfl
  | cons c line ih =>
    rw [List.mem_cons, not_or] at h
    rw [List.cons_append, withReturns, if_neg (Ne.symm h.1), ih h.2, List.cons_append,
      List.cons_append]

/-- A line of input loses the carriage return that it got. -/
theorem dropReturn_append_ending {line : List Char} (h : '\r' ∉ line) (isChosen : Bool) :
    dropReturn (line ++ ending isChosen) = dropReturn line := by
  have hline : dropReturn line = line := if_neg fun hlast => h (List.mem_of_getLast? hlast)
  cases isChosen with
  | false => rw [ending, if_neg Bool.false_ne_true, List.append_nil]
  | true =>
    rw [hline, ending, if_pos rfl, dropReturn, if_pos List.getLast?_concat, List.dropLast_concat]

/-- **The lines of a text** are the same in every style, if it has no carriage returns of its
own. -/
theorem lines_withReturns (chosen : Nat → Bool) {text : List Char} (h : '\r' ∉ text) :
    lines (withReturns chosen text) = lines text := by
  induction text using feed_induction generalizing chosen with
  | last line hfeed => rw [withReturns_of_no_feed chosen hfeed]
  | feed line rest hfeed ih =>
    rw [List.mem_append, List.mem_cons, not_or, not_or] at h
    have hending : '\n' ∉ line ++ ending (chosen 0) := by
      rw [List.mem_append, not_or]
      exact ⟨hfeed, feed_notMem_ending _⟩
    rw [withReturns_append_feed chosen hfeed, lines_append_feed hending, lines_append_feed hfeed,
      dropReturn_append_ending h.1, ih _ h.2.2]

end Text

open Guest

/-! ### Program texts -/

theorem Guest.Line.filter_numberFrom_withReturns (chosen : Nat → Bool) (n : Nat)
    (code : List Char) :
    (numberFrom n (Text.lines (Text.withReturns chosen code))).filter isSignificant
      = (numberFrom n (Text.lines code)).filter isSignificant := by
  induction code using Text.feed_induction generalizing chosen n with
  | last line hfeed => rw [Text.withReturns_of_no_feed chosen hfeed]
  | feed line rest hfeed ih =>
    have hending : '\n' ∉ line ++ Text.ending (chosen 0) := by
      rw [List.mem_append, not_or]
      exact ⟨hfeed, Text.feed_notMem_ending _⟩
    rw [Text.withReturns_append_feed chosen hfeed, Text.lines_append_feed hending,
      Text.lines_append_feed hfeed, filter_numberFrom_cons, filter_numberFrom_cons,
      filter_ofText_dropReturn, filter_ofText_dropReturn,
      filter_ofText_append_of_blank fun _ => Text.isBlank_of_mem_ending, ih]

/-- **The significant lines of a program text** are the same in every style. They also keep their
places, since no style adds a line. -/
theorem Guest.Line.ofProgram_withReturns (chosen : Nat → Bool) (code : List Char) :
    ofProgram (Text.withReturns chosen code) = ofProgram code :=
  filter_numberFrom_withReturns chosen 0 code

/-! ### Expected outputs -/

/-- **The line endings of an output** are unified to the same text in every style, if it has no
carriage returns of its own. -/
theorem unifyEndings_withReturns (chosen : Nat → Bool) {text : List Char} (h : '\r' ∉ text)
    (out : List Char) :
    unifyEndings out (Text.withReturns chosen text) = unifyEndings out text := by
  induction text generalizing chosen out with
  | nil => rfl
  | cons c text ih =>
    rw [List.mem_cons, not_or] at h
    have hkeep : ∀ rest, unifyEndings out (c :: rest) = unifyEndings (c :: out) rest := by
      intro rest
      rw [unifyEndings, if_neg (Ne.symm h.1)]
      rintro _ rfl _
      exact h.1 rfl
    rw [Text.withReturns, hkeep]
    split
    · rename_i hc
      subst hc
      rw [← ih (fun n => chosen (n + 1)) h.2]
      cases chosen 0 with
      | false => exact hkeep _
      | true => rfl
    · rw [hkeep, ih chosen h.2]

/-! ### Outcomes and verdicts -/

/-- The text in another style: the line feeds that are chosen have a carriage return in front. -/
def restyle (chosen : Nat → Bool) (text : String) : String :=
  String.ofList (Text.withReturns chosen text.toList)

theorem runProgram_withReturns (stop : StopFrom) (ofCode ofInput : Nat → Bool) (code : List Char)
    {input : List Char} (h : '\r' ∉ input) :
    runProgram stop (Text.withReturns ofCode code) (Text.withReturns ofInput input)
      = runProgram stop code input := by
  rw [runProgram_eq, Guest.Line.ofProgram_withReturns, Text.lines_withReturns ofInput h,
    runProgram_eq]

theorem classify_restyle (chosen : Nat → Bool) {expected : String} (h : '\r' ∉ expected.toList)
    (result : ExecutionResult) :
    classify result (restyle chosen expected) = classify result expected := by
  have hnormal : normalizeOutput (restyle chosen expected) = normalizeOutput expected := by
    rw [normalizeOutput, normalizeOutput, restyle, String.toList_ofList, normalForm, normalForm,
      unifyEndings_withReturns chosen h]
  rw [classify, classify, hnormal]

/-- **The style of line endings changes no grade.** In any of the three texts any line feeds may be
replaced: the program leaves behind the same, and its execution gets the same verdict, under any
limits and after any time. -/
theorem interpret_restyle (stop : StopFrom) (ofCode ofInput ofExpected : Nat → Bool)
    (code : String) {input expected : String} (hinput : '\r' ∉ input.toList)
    (hexpected : '\r' ∉ expected.toList) :
    interpret stop (restyle ofCode code) (restyle ofInput input) = interpret stop code input ∧
    ∀ config timerFirst elapsedMs,
      classify (Run.report config ⟨.finishes (interpret stop (restyle ofCode code)
          (restyle ofInput input)), timerFirst, elapsedMs⟩) (restyle ofExpected expected)
        = classify (Run.report config ⟨.finishes (interpret stop code input), timerFirst,
            elapsedMs⟩) expected := by
  have houtcome : interpret stop (restyle ofCode code) (restyle ofInput input)
      = interpret stop code input := by
    rw [interpret, interpret, restyle, restyle, String.toList_ofList, String.toList_ofList,
      runProgram_withReturns stop ofCode ofInput code.toList hinput]
  refine ⟨houtcome, fun config timerFirst elapsedMs => ?_⟩
  rw [houtcome, classify_restyle ofExpected hexpected]

/-- A chain with a blank line in its body, and a carriage return of its own behind its header. -/
def mixedEndings : String :=
  "if 1 > 0:\r\n  \n    print(input())\t\n\nprint(input())"

/-- Every second line feed is replaced, from the first on in the program and the expected output
and from the second on in the input. -/
theorem interpret_mixedEndings :
    ('\r' ∉ "alpha \n\nbeta".toList ∧ '\r' ∉ "alpha\n\n".toList) ∧
    restyle (fun n => n % 2 == 0) mixedEndings
      = "if 1 > 0:\r\r\n  \n    print(input())\t\r\n\nprint(input())" ∧
    interpret none (restyle (fun n => n % 2 == 0) mixedEndings)
        (restyle (fun n => n % 2 == 1) "alpha \n\nbeta")
      = interpret none mixedEndings "alpha \n\nbeta" ∧
    ∀ config,
      classify (Run.report config ⟨.finishes (interpret none
          (restyle (fun n => n % 2 == 0) mixedEndings)
          (restyle (fun n => n % 2 == 1) "alpha \n\nbeta")), false, 0⟩)
          (restyle (fun n => n % 2 == 0) "alpha\n\n")
        = classify (Run.report config ⟨.finishes (interpret none mixedEndings "alpha \n\nbeta"),
            false, 0⟩) "alpha\n\n" := by
  have hinput : '\r' ∉ "alpha \n\nbeta".toList := by decide
  have hexpected : '\r' ∉ "alpha\n\n".toList := by decide
  have h := interpret_restyle none (fun n => n % 2 == 0) (fun n => n % 2 == 1)
    (fun n => n % 2 == 0) mixedEndings hinput hexpected
  exact ⟨⟨hinput, hexpected⟩, by decide, h.1, fun config => h.2 config false 0⟩

end Autograder
