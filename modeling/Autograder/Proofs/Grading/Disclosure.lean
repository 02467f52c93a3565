import Autograder.Proofs.Grading.Redaction
import Autograder.Proofs.Program.Significant

/-!
# Disclosure

Redaction takes away the input and the outputs of a hidden case and leaves its error. The error of
an execution is the message of the fault that ended it, and some faults quote what they could not
read. So the errors tell something of the content of hidden cases, which is meant never to be shown.

Two things are shown here. The first is that this is the only gap. If two requests differ in hidden
content only, and each hidden case has the same status and is passed, or is not, in both, then what
is shown is the same, time apart, exactly if the errors of the hidden cases are. All that is shown
is a function of `TestCaseResult.told`, and of what that keeps of a hidden record everything but
the error is the same by assumption.

The second is that the gap is there, in every program whose first line reads an integer. Such a
program ends in a fault on any line that is none, and the message quotes the line. Two hidden inputs
with different first lines are told apart by it, whatever the lines are.

## Main definitions

* `ShownAlike` — rows and summaries are the same, time apart
* `Guest.AsksForInt` — programs whose first line reads an integer
* `Misread` — an input whose first line is no integer

## Main results

* `Grader.submit_shownAlike_iff` — the errors of hidden cases are the only gap
* `Guest.interpret_of_asksForInt` — the fault quotes the first line of the input
* `Grader.submit_hiddenRequest_tellsApart` — hidden inputs are told apart by their first lines
-/

namespace Autograder

/-! ### What is shown, time apart -/

/-- The row without its time. -/
def DisplayTestCaseResult.untimed (row : DisplayTestCaseResult) : DisplayTestCaseResult :=
  { row with executionTimeMs := 0 }

/-- The rows and the summaries of two answers are the same, time apart: the rows as they are made
with the cases of each request at hand, and as they are made without. -/
structure ShownAlike (cases cases' : List TestCase) (response response' : SubmissionResponse) :
    Prop where
  rows : (displayResults response'.evaluation.testCaseResults cases').map
      DisplayTestCaseResult.untimed =
    (displayResults response.evaluation.testCaseResults cases).map DisplayTestCaseResult.untimed
  keptRows : (displayResults response'.evaluation.testCaseResults []).map
      DisplayTestCaseResult.untimed =
    (displayResults response.evaluation.testCaseResults []).map DisplayTestCaseResult.untimed
  validation : response'.validation = response.validation

namespace TestCaseResult

variable {r r' : TestCaseResult}

theorem redacted_untimed (r : TestCaseResult) : r.untimed.redacted = r.told := by
  cases hidden : r.hidden <;> simp [told, redacted, untimed, hidden]

/-- Time apart, a row is made from what a record tells. -/
theorem display_told (r : TestCaseResult) (cases : List TestCase) :
    r.told.display (cases.map TestCase.redacted) = (r.display cases).untimed :=
  congrArg DisplayTestCaseResult.untimed (r.display_redacted cases)

/-- Of a hidden case a record tells whether it is passed, the status and the error. -/
theorem told_eq_of_hidden (hid : r'.testCaseId = r.testCaseId) (hhidden : r.hidden = true)
    (hhidden' : r'.hidden = true) (hpassed : r'.passed = r.passed) (hstatus : r'.status = r.status)
    (herror : r'.error = r.error) : r'.told = r.told := by
  simp [told, redacted, untimed, hid, hhidden, hhidden', hpassed, hstatus, herror]

end TestCaseResult

theorem displayResults_told (results : List TestCaseResult) (cases : List TestCase) :
    displayResults (results.map TestCaseResult.told) (cases.map TestCase.redacted) =
      (displayResults results cases).map DisplayTestCaseResult.untimed := by
  rw [displayResults, displayResults, List.map_map, List.map_map]
  exact List.map_congr_left fun r _ => r.display_told cases

/-- Rows that are the same, time apart, have the same errors. -/
theorem forall₂_error_of_rows_eq {results results' : List TestCaseResult}
    {cases cases' : List TestCase}
    (h : (displayResults results' cases').map DisplayTestCaseResult.untimed =
      (displayResults results cases).map DisplayTestCaseResult.untimed) :
    List.Forall₂ (fun r r' => r'.error = r.error) results results' := by
  have herrors := congrArg (List.map DisplayTestCaseResult.error) h
  simp only [displayResults, List.map_map] at herrors
  rw [← List.forall₂_eq_eq_eq, List.forall₂_map_left_iff, List.forall₂_map_right_iff] at herrors
  exact herrors.flip

/-! ### The only gap -/

namespace Grader

variable (grader : Grader) (request : SubmissionRequest) {cases : List TestCase}

/-- **The errors of hidden cases are the only gap.** Two requests differ in the inputs and the
expected outputs of hidden cases only, and each hidden case has the same status and is passed, or
is not, in both gradings. Then what is shown is the same, time apart, exactly if each hidden case
has the same error in both. -/
theorem submit_shownAlike_iff
    (hcases : cases.map TestCase.redacted = request.testCases.map TestCase.redacted)
    (hvisible : ∀ c ∈ request.testCases, c.isHidden = false →
      grader.runner.SteadyOn request.code c.input)
    (stamp stamp' : Stamp) (session session' : Session)
    (hhidden : List.Forall₂
      (fun r r' => r.hidden = true → r'.passed = r.passed ∧ r'.status = r.status)
      (grader.judge session.activity request).1.results
      (grader.judge session'.activity (request.withCases cases)).1.results) :
    Answers
      (fun response response' => ShownAlike request.testCases cases response response' ↔
        List.Forall₂ (fun r r' => r.hidden = true → r'.error = r.error)
          response.evaluation.testCaseResults response'.evaluation.testCaseResults)
      (grader.submit stamp session request).1
      (grader.submit stamp' session' (request.withCases cases)).1 := by
  refine grader.answers_submit fun language _ => ⟨fun h => ?_, fun herrors => ?_⟩
  · exact (forall₂_error_of_rows_eq h.rows).imp fun r _ herror (_ : r.hidden = true) => herror
  · have hsame : ∀ c ∈ request.testCases, c.isHidden = false → ∀ activity activity',
        (grader.caseRecord request activity' c).told = (grader.caseRecord request activity c).told
        := fun c hc hidden activity activity' => by
      rw [← TestCaseResult.redacted_untimed, ← TestCaseResult.redacted_untimed,
        untimed_caseRecord_of_steadyOn (hvisible c hc hidden) activity' activity]
    have htold := judge_results_congr hcases hsame
      (List.Forall₂.mp (fun r r' hend herror hidden hidden' hid =>
        TestCaseResult.told_eq_of_hidden hid hidden hidden' (hend hidden).1 (hend hidden).2
          (herror hidden)) hhidden herrors)
    refine ⟨?_, ?_, (judge_summary_redacted hcases htold).1⟩
    · exact (displayResults_told _ _).symm.trans
        ((congrArg₂ displayResults htold hcases).trans (displayResults_told _ _))
    · exact (displayResults_told _ []).symm.trans
        ((congrArg (displayResults · []) htold).trans (displayResults_told _ []))

end Grader

theorem shownAlike_concealedCases :
    Answers
      (fun response response' =>
        ShownAlike concealingRequest.testCases concealedCases response response' ↔
          List.Forall₂ (fun r r' => r.hidden = true → r'.error = r.error)
            response.evaluation.testCaseResults response'.evaluation.testCaseResults)
      (Grader.submit ⟨{}, interpreterRunner⟩ sampleStamp .empty concealingRequest).1
      (Grader.submit ⟨{}, interpreterRunner⟩ sampleStamp .empty
        (concealingRequest.withCases concealedCases)).1 := by
  have hcases : concealedCases.map TestCase.redacted =
      concealingRequest.testCases.map TestCase.redacted := rfl
  refine Grader.submit_shownAlike_iff ⟨{}, interpreterRunner⟩ concealingRequest hcases
    (fun c _ _ => interpreterRunner_steady _ c.input) sampleStamp sampleStamp .empty .empty ?_
  rw [results_concealingRequest, results_concealedCases]
  exact .cons (fun hidden => nomatch hidden) (.cons (fun _ => ⟨rfl, rfl⟩) .nil)

/-! ### The gap -/

/-- The first line of the program reads an integer. -/
def Guest.AsksForInt (code : String) : Prop :=
  ∃ first rest name, Line.ofProgram code.toList = first :: rest ∧
    (∀ guard, Header.ofText? first.text ≠ some (.opening guard)) ∧
    Statement.ofText first.text = .readNumber name .int

/-- The fault quotes the first line of the input, if that is no integer. -/
theorem Guest.interpret_of_asksForInt {code input : String} {line : List Char}
    {rest : List (List Char)} (hcode : AsksForInt code)
    (hline : Text.lines input.toList = line :: rest)
    (hbad : intLiteral? (Text.trim line) = none) :
    interpret none code input = ⟨"", some (Fault.notInteger (String.ofList line)).message, 1⟩ := by
  obtain ⟨first, others, name, hprogram, hheader, hstatement⟩ := hcode
  have hread : readInt line = .error (.notInteger (String.ofList line)) := by
    rw [readInt, hbad]
  have hrun : ∀ s, State.isStopped none s = false := fun _ => rfl
  have hsignificant : first.isSignificant = true :=
    Line.isSignificant_of_mem_ofProgram (hprogram ▸ List.mem_cons_self)
  rw [interpret, runProgram_eq, hprogram, hline, runBlock_statement hsignificant (hrun _) hheader,
    hstatement]
  simp [Statement.execute, State.reading, State.initial, State.check, State.visit, State.withValue,
    NumberKind.read, hread, Ending.andThen, Ending.outcome, State.output]

theorem Guest.Fault.message_notInteger_inj {text text' : String}
    (h : (notInteger text).message = (notInteger text').message) : text = text' := by
  rw [message, message] at h
  dsimp only [faultClass, detail] at h
  have hquoted := (String.append_right_inj _).mp h
  exact (String.append_right_inj _).mp ((String.append_left_inj _).mp hquoted)

/-- The program is run on the input, and `line`, the first line of the input, is no integer. -/
structure Misread (code input : String) (line : List Char) : Prop where
  size : oversize? code input = none
  first : (Text.lines input.toList).head? = some line
  noInteger : Guest.intLiteral? (Text.trim line) = none

/-- A submission with one case, which is hidden. -/
def hiddenRequest (code input : String) : SubmissionRequest where
  attemptId := "attempt"
  questionId := "question"
  code
  language := "python"
  testCases := [⟨1, input, "", true⟩]
  maxPoints := 1
  config := none

namespace Grader

variable {config : SandboxConfig} {code input input' : String} {line line' : List Char}

/-- The record of the hidden case has the line in its error. -/
theorem judge_hiddenRequest (hcode : Guest.AsksForInt code) (hvalid : validate config code = none)
    (hline : Misread code input line) (activity : Activity) :
    (Grader.judge ⟨config, interpreterRunner⟩ activity (hiddenRequest code input)).1.results =
      [⟨1, false, "", "", 0, .error,
        some (Guest.Fault.notInteger (String.ofList line)).message, true⟩] := by
  obtain ⟨rest, hlines⟩ := List.head?_eq_some_iff.mp hline.first
  rw [@judge_of_valid ⟨config, interpreterRunner⟩ (hiddenRequest code input) hvalid]
  simp [runAll, runCase, hiddenRequest, executeGuarded, hline.size, interpreterRunner,
    Guest.interpret_of_asksForInt hcode hlines hline.noInteger, Run.report, truncateOutput,
    TestCase.record, TestCase.judge, classify, ExecutionResult.failed, Verdict.isPassed,
    Verdict.error?, TestCase.recordedOutput]

/-- **Hidden inputs are told apart by their first lines.** The cases end alike, in a fault, but the
rows are not the same if the lines are not. -/
theorem submit_hiddenRequest_tellsApart (hcode : Guest.AsksForInt code)
    (hvalid : validate config code = none) (hline : Misread code input line)
    (hline' : Misread code input' line') (hne : line' ≠ line) (stamp stamp' : Stamp)
    (session session' : Session) :
    List.Forall₂ (fun r r' => r.hidden = true → r'.passed = r.passed ∧ r'.status = r.status)
        (Grader.judge ⟨config, interpreterRunner⟩ session.activity
          (hiddenRequest code input)).1.results
        (Grader.judge ⟨config, interpreterRunner⟩ session'.activity
          (hiddenRequest code input')).1.results ∧
      ¬ Answers
        (ShownAlike (hiddenRequest code input).testCases (hiddenRequest code input').testCases)
        (Grader.submit ⟨config, interpreterRunner⟩ stamp session (hiddenRequest code input)).1
        (Grader.submit ⟨config, interpreterRunner⟩ stamp' session' (hiddenRequest code input')).1
        := by
  have hresults := judge_hiddenRequest hcode hvalid hline session.activity
  have hresults' := judge_hiddenRequest hcode hvalid hline' session'.activity
  refine ⟨hresults ▸ hresults' ▸ .cons (fun _ => ⟨rfl, rfl⟩) .nil, fun h => hne ?_⟩
  have hpython : language "python" = .ok .python := by decide +kernel
  have hlanguage : ∀ input, language (hiddenRequest code input).language = .ok .python :=
    fun _ => hpython
  rw [submit_eq_ok _ stamp session (hlanguage input),
    submit_eq_ok _ stamp' session' (hlanguage input')] at h
  obtain - | hshown := h
  have herrors := forall₂_error_of_rows_eq hshown.rows
  rw [show (response (hiddenRequest code input) _ _ stamp).evaluation.testCaseResults = _ from
      hresults,
    show (response (hiddenRequest code input') _ _ stamp').evaluation.testCaseResults = _ from
      hresults'] at herrors
  obtain ⟨herror, -⟩ := List.forall₂_cons.mp herrors
  exact String.ofList_injective (Guest.Fault.message_notInteger_inj (Option.some.inj herror))

end Grader

theorem asksForInt_sampleCode : Guest.AsksForInt sampleRequest.code := by
  have hheader : Guest.Header.ofText? "n = int(input())".toList = none := by decide +kernel
  exact ⟨⟨0, 0, "n = int(input())".toList⟩, [⟨1, 0, "print(n)".toList⟩], ['n'],
    by decide +kernel, fun _ => hheader.trans_ne (Option.some_ne_none _).symm, by decide +kernel⟩

/-- Hidden inputs that differ make a difference in what is shown, though the cases end alike. -/
theorem toldApart_alpha_beta :
    (hiddenRequest sampleRequest.code "beta").testCases.map TestCase.redacted =
        (hiddenRequest sampleRequest.code "alpha").testCases.map TestCase.redacted ∧
      List.Forall₂ (fun r r' => r.hidden = true → r'.passed = r.passed ∧ r'.status = r.status)
        (Grader.judge ⟨{}, interpreterRunner⟩ .idle
          (hiddenRequest sampleRequest.code "alpha")).1.results
        (Grader.judge ⟨{}, interpreterRunner⟩ .idle
          (hiddenRequest sampleRequest.code "beta")).1.results ∧
      ¬ Answers
        (ShownAlike (hiddenRequest sampleRequest.code "alpha").testCases
          (hiddenRequest sampleRequest.code "beta").testCases)
        (Grader.submit ⟨{}, interpreterRunner⟩ sampleStamp .empty
          (hiddenRequest sampleRequest.code "alpha")).1
        (Grader.submit ⟨{}, interpreterRunner⟩ sampleStamp .empty
          (hiddenRequest sampleRequest.code "beta")).1 := by
  have halpha : Misread sampleRequest.code "alpha" "alpha".toList :=
    ⟨by decide +kernel, by decide +kernel, by decide +kernel⟩
  have hbeta : Misread sampleRequest.code "beta" "beta".toList :=
    ⟨by decide +kernel, by decide +kernel, by decide +kernel⟩
  have hvalid : validate {} sampleRequest.code = none := by decide +kernel
  exact ⟨rfl, Grader.submit_hiddenRequest_tellsApart asksForInt_sampleCode hvalid halpha hbeta
    (by decide) sampleStamp sampleStamp .empty .empty⟩

end Autograder
