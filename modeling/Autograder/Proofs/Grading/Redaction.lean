import Autograder.Grading.Report
import Autograder.Proofs.Grading.Independence

/-!
# Redaction

What those who are tested see of a submission does not depend on the content of its hidden cases.
The content is the input and the expected output, and what the program printed.

The secret is said by blanking it. A case, a record or a description of a failure is redacted by
emptying its content if it is hidden and leaving it alone if it is not, and two of them differ in
hidden content only if they are equal once redacted. Everything that is shown is then shown to be a
function of redacted data: the rows (`displayResults_redacted`), the summary and the sentence
(`Tally.summary_redacted`, `Tally.message_redacted`). A row finds its case by the identifier, which
redaction keeps; where an identifier occurs twice, a row may find the wrong case, but it shows an
input only if neither its record nor the case found is hidden.

What remains is that two gradings have equal redacted data. For the tally no second induction over
the cases is needed: by `Progress.Agrees` it is determined by the cases and their records. For the
records, a visible case is the same in both requests and so is its record, if the runner repeats
itself on it; a hidden case has to end alike, which is a hypothesis, since pass or fail, status,
error and time are shown.

## Main definitions

* `TestCase.redacted`, `TestCaseResult.redacted` — without the content of a hidden case
* `TestCaseResult.EndsAs` — what is shown of a hidden case is the same
* `ViewedAlike` — two submissions look the same, identifiers and moments apart

## Main results

* `Grader.judge_results_congr` — records are compared case by case
* `Grader.judge_summary_redacted` — summary and sentence are those of the redacted records
* `Grader.submit_noninterference` — hidden content changes nothing that is shown
-/

namespace Autograder

/-! ### Redacted data -/

/-- The case without its content, if it is hidden. -/
def TestCase.redacted (c : TestCase) : TestCase :=
  if c.isHidden then { c with input := "", expectedOutput := "" } else c

/-- The record without the content of the case, if that is hidden. -/
def TestCaseResult.redacted (r : TestCaseResult) : TestCaseResult :=
  if r.hidden then { r with actualOutput := "", expectedOutput := "" } else r

/-- The description without the content of the case, if that is hidden. -/
def FirstFailure.redacted (f : FirstFailure) : FirstFailure :=
  if f.hidden then { f with expected := "", received := "" } else f

/-- The tally with a redacted description, and without times. -/
def Tally.redacted (t : Tally) : Tally :=
  { t with
    totalExecutionTimeMs := 0
    maxExecutionTimeMs := 0
    firstFailure := t.firstFailure.map FirstFailure.redacted }

namespace TestCase

variable {c c' : TestCase}

@[simp] theorem redacted_id (c : TestCase) : c.redacted.id = c.id := by
  rw [redacted]
  split <;> rfl

@[simp] theorem redacted_isHidden (c : TestCase) : c.redacted.isHidden = c.isHidden := by
  rw [redacted]
  split <;> rfl

theorem redacted_of_visible (h : c.isHidden = false) : c.redacted = c := by
  rw [redacted, h]
  rfl

theorem isHidden_eq_of_redacted_eq (h : c'.redacted = c.redacted) : c'.isHidden = c.isHidden := by
  rw [← redacted_isHidden c', h, redacted_isHidden]

theorem id_eq_of_redacted_eq (h : c'.redacted = c.redacted) : c'.id = c.id := by
  rw [← redacted_id c', h, redacted_id]

/-- Only hidden cases have content to hide. -/
theorem eq_of_redacted_eq (h : c'.redacted = c.redacted) (hvisible : c.isHidden = false) :
    c' = c := by
  have hvisible' : c'.isHidden = false := (isHidden_eq_of_redacted_eq h).trans hvisible
  rwa [redacted_of_visible hvisible', redacted_of_visible hvisible] at h

end TestCase

namespace TestCaseResult

variable {r r' : TestCaseResult}

@[simp] theorem redacted_testCaseId (r : TestCaseResult) :
    r.redacted.testCaseId = r.testCaseId := by
  rw [redacted]
  split <;> rfl

@[simp] theorem redacted_passed (r : TestCaseResult) : r.redacted.passed = r.passed := by
  rw [redacted]
  split <;> rfl

@[simp] theorem redacted_hidden (r : TestCaseResult) : r.redacted.hidden = r.hidden := by
  rw [redacted]
  split <;> rfl

@[simp] theorem redacted_executionTimeMs (r : TestCaseResult) :
    r.redacted.executionTimeMs = r.executionTimeMs := by
  rw [redacted]
  split <;> rfl

@[simp] theorem redacted_error (r : TestCaseResult) : r.redacted.error = r.error := by
  rw [redacted]
  split <;> rfl

theorem redacted_of_visible (h : r.hidden = false) : r.redacted = r := by
  rw [redacted, h]
  rfl

/-- What is shown of a hidden case is the same in both records. -/
structure EndsAs (r' r : TestCaseResult) : Prop where
  passed : r'.passed = r.passed
  status : r'.status = r.status
  error : r'.error = r.error
  executionTimeMs : r'.executionTimeMs = r.executionTimeMs

/-- Records of one hidden case that end alike are equal once redacted. -/
theorem EndsAs.redacted_eq (h : r'.EndsAs r) (hid : r'.testCaseId = r.testCaseId)
    (hhidden : r.hidden = true) (hhidden' : r'.hidden = true) : r'.redacted = r.redacted := by
  obtain ⟨_, _, _, _, _, _, _, _⟩ := r
  obtain ⟨_, _, _, _, _, _, _, _⟩ := r'
  obtain ⟨rfl, rfl, rfl, rfl⟩ := h
  obtain rfl : _ = _ := hid
  obtain rfl : _ = true := hhidden
  obtain rfl : _ = true := hhidden'
  rfl

end TestCaseResult

/-! ### What is shown -/

theorem find?_map_redacted (cases : List TestCase) (id : UInt32) :
    ((cases.map TestCase.redacted).find? fun c => c.id == id) =
      (cases.find? fun c => c.id == id).map TestCase.redacted := by
  rw [List.find?_map]
  congr 2
  funext c
  simp

/-- **Rows are made from redacted data**, also where identifiers repeat. -/
theorem TestCaseResult.display_redacted (r : TestCaseResult) (cases : List TestCase) :
    r.redacted.display (cases.map TestCase.redacted) = r.display cases := by
  rw [display, display, redacted_testCaseId, find?_map_redacted]
  generalize (cases.find? fun c => c.id == r.testCaseId) = found
  cases hhidden : r.hidden with
  | true => simp [redacted, hhidden]
  | false =>
    rw [redacted_of_visible hhidden, hhidden]
    cases found with
    | none => rfl
    | some c => cases hc : c.isHidden <;> simp [TestCase.redacted, hc]

theorem displayResults_redacted (results : List TestCaseResult) (cases : List TestCase) :
    displayResults (results.map TestCaseResult.redacted) (cases.map TestCase.redacted) =
      displayResults results cases := by
  rw [displayResults, displayResults, List.map_map]
  exact List.map_congr_left fun r _ => r.display_redacted cases

namespace Tally

/-- The summary tells nothing that is redacted, and no times. -/
theorem summary_redacted (t : Tally) : t.redacted.summary = t.summary := by
  obtain ⟨passed, failed, total, longest, firstFailure⟩ := t
  cases firstFailure with
  | none => rfl
  | some f =>
    cases hidden : f.hidden <;>
      simp [redacted, summary, FirstFailure.redacted, hidden, Option.filter, Tally.total,
        allPassed]

/-- The sentence tells nothing that is redacted, and no times. -/
theorem message_redacted (t : Tally) : t.redacted.message = t.message := by
  obtain ⟨passed, failed, total, longest, firstFailure⟩ := t
  cases firstFailure with
  | none => rfl
  | some f =>
    cases hidden : f.hidden <;>
      simp [redacted, message, FirstFailure.redacted, hidden, Tally.total]

end Tally

/-! ### Tallies of redacted records -/

/-- The record without the content of a hidden case, and without its time. -/
def TestCaseResult.told (r : TestCaseResult) : TestCaseResult :=
  r.redacted.untimed

/-- The description of a failure, once redacted, is one of redacted data. -/
theorem TestCase.redacted_failure {c c' : TestCase} {r r' : TestCaseResult}
    (hc : c'.redacted = c.redacted) (hr : r'.told = r.told) (hrecord : r.hidden = c.isHidden)
    (i : Nat) : (c'.failure i r').redacted = (c.failure i r).redacted := by
  have herror : r'.error = r.error := by
    simpa [TestCaseResult.told, TestCaseResult.untimed] using congrArg TestCaseResult.error hr
  cases hidden : c.isHidden with
  | true =>
    have hidden' : c'.isHidden = true := (isHidden_eq_of_redacted_eq hc).trans hidden
    simp [failure, FirstFailure.redacted, hidden, hidden', herror]
  | false =>
    have hvisible : r.hidden = false := hrecord.trans hidden
    have hvisible' : r'.hidden = false := by
      have h := congrArg TestCaseResult.hidden hr
      simpa [TestCaseResult.told, TestCaseResult.untimed, hvisible] using h
    have houtput : r'.actualOutput = r.actualOutput := by
      have h := congrArg TestCaseResult.actualOutput hr
      rwa [TestCaseResult.told, TestCaseResult.told, TestCaseResult.redacted_of_visible hvisible,
        TestCaseResult.redacted_of_visible hvisible'] at h
    rw [eq_of_redacted_eq hc hidden, failure, failure, houtput, herror]

section Told

variable {results results' : List TestCaseResult}
  (h : results'.map TestCaseResult.told = results.map TestCaseResult.told)

include h

/-- A test of pass or fail counts the same. -/
theorem countP_eq_of_told_eq (p : Bool → Bool) :
    (results'.countP fun r => p r.passed) = results.countP fun r => p r.passed := by
  have hcount := congrArg (List.countP fun r => p r.passed) h
  simpa [List.countP_map, Function.comp_def, TestCaseResult.told, TestCaseResult.untimed]
    using hcount

theorem findIdx?_eq_of_told_eq :
    (results'.findIdx? fun r => !r.passed) = results.findIdx? fun r => !r.passed := by
  have hplace := congrArg (List.findIdx? fun r => !r.passed) h
  simpa [List.findIdx?_map, Function.comp_def, TestCaseResult.told, TestCaseResult.untimed]
    using hplace

theorem told_eq_of_getElem? {i : Nat} {r r' : TestCaseResult} (hr : results[i]? = some r)
    (hr' : results'[i]? = some r') : r'.told = r.told := by
  have hi := congrArg (fun told => told[i]?) h
  simpa [hr, hr'] using hi

end Told

/-- The tally is determined by the cases and their records, so redacted cases and records determine
what it tells. -/
theorem Progress.Agrees.redacted_eq {cases cases' : List TestCase} {p p' : Progress}
    (h : p.Agrees cases) (h' : p'.Agrees cases')
    (hcases : cases'.map TestCase.redacted = cases.map TestCase.redacted)
    (hresults : p'.results.reverse.map TestCaseResult.told =
      p.results.reverse.map TestCaseResult.told) :
    p'.tally.redacted = p.tally.redacted := by
  have hpassed : p'.tally.passed = p.tally.passed := by
    rw [h.passed, h'.passed, ← List.countP_reverse, ← List.countP_reverse (l := p.results)]
    exact countP_eq_of_told_eq hresults id
  have hfailed : p'.tally.failed = p.tally.failed := by
    rw [h.failed, h'.failed, ← List.countP_reverse, ← List.countP_reverse (l := p.results)]
    exact countP_eq_of_told_eq hresults not
  have hfirst : p'.tally.firstFailure.map FirstFailure.redacted =
      p.tally.firstFailure.map FirstFailure.redacted := by
    have hplace' := findIdx?_eq_of_told_eq hresults
    cases hplace : p.results.reverse.findIdx? fun r => !r.passed with
    | none =>
      rw [hplace] at hplace'
      have hall : ∀ r ∈ p.results, r.passed = true := by
        simpa [List.findIdx?_eq_none_iff] using hplace
      have hall' : ∀ r ∈ p'.results, r.passed = true := by
        simpa [List.findIdx?_eq_none_iff] using hplace'
      rw [h.noFailure hall, h'.noFailure hall']
    | some i =>
      rw [hplace] at hplace'
      obtain ⟨r, hr⟩ := exists_firstFailedAt hplace
      obtain ⟨r', hr'⟩ := exists_firstFailedAt hplace'
      obtain ⟨c, hc⟩ : ∃ c, cases[i]? = some c := by
        have hlt := (List.getElem?_eq_some_iff.mp hr.1).1
        rw [List.length_reverse, h.length] at hlt
        exact ⟨_, List.getElem?_eq_getElem hlt⟩
      obtain ⟨c', hc', hredacted⟩ : ∃ c', cases'[i]? = some c' ∧ c'.redacted = c.redacted := by
        have hi := congrArg (fun cases => cases[i]?) hcases
        simpa [hc] using hi
      rw [h.firstFailure i c r hc hr, h'.firstFailure i c' r' hc' hr', Option.map_some,
        Option.map_some, TestCase.redacted_failure hredacted
          (told_eq_of_getElem? hresults hr.1 hr'.1) (h.recorded i c r hc hr.1).hidden]
  rw [Tally.redacted, Tally.redacted, hpassed, hfailed, hfirst]

/-! ### Times -/

/-- The times in the tally are the sum and the greatest of the times in the records. -/
structure Progress.Timed (p : Progress) : Prop where
  total : p.tally.totalExecutionTimeMs =
    (p.results.reverse.map TestCaseResult.executionTimeMs).foldl (· + ·) 0
  longest : p.tally.maxExecutionTimeMs =
    (p.results.reverse.map TestCaseResult.executionTimeMs).foldl max 0

theorem Progress.timed_empty (activity : Activity) : Progress.Timed ⟨.empty, [], activity⟩ :=
  ⟨rfl, rfl⟩

namespace Grader

variable (grader : Grader)

theorem runCase_timed (config : SandboxConfig) (code : String) {p : Progress} (h : p.Timed)
    (c : TestCase) : (grader.runCase config code p c).Timed := by
  rw [runCase]
  generalize executeGuarded config grader.runner p.activity code c.input = run
  obtain ⟨result, activity⟩ := run
  dsimp only
  refine ⟨?_, ?_⟩
  · rw [List.reverse_cons, List.map_append, List.foldl_append, ← h.total, Tally.record]
    split <;> rfl
  · rw [List.reverse_cons, List.map_append, List.foldl_append, ← h.longest, Tally.record]
    split <;> rfl

theorem foldl_runCase_timed (config : SandboxConfig) (code : String) {p : Progress} (h : p.Timed)
    (cases : List TestCase) : (cases.foldl (grader.runCase config code) p).Timed := by
  induction cases generalizing p with
  | nil => exact h
  | cons c cases ih => exact ih (grader.runCase_timed config code h c)

/-! ### Two judgements -/

variable {grader} {request : SubmissionRequest} {cases : List TestCase}
  {activity activity' : Activity}

/-- **Records are compared case by case.** What is read off a record is the same in two requests
that differ in hidden content only, if it is for visible cases whatever was executed before, and if
hidden cases end so that it is. -/
theorem judge_results_congr {β : Type} {f : TestCaseResult → β}
    (hcases : cases.map TestCase.redacted = request.testCases.map TestCase.redacted)
    (hvisible : ∀ c ∈ request.testCases, c.isHidden = false → ∀ activity activity',
      f (grader.caseRecord request activity' c) = f (grader.caseRecord request activity c))
    (hhidden : List.Forall₂
      (fun r r' => r.hidden = true → r'.hidden = true → r'.testCaseId = r.testCaseId → f r' = f r)
      (grader.judge activity request).1.results
      (grader.judge activity' (request.withCases cases)).1.results) :
    (grader.judge activity' (request.withCases cases)).1.results.map f =
      (grader.judge activity request).1.results.map f := by
  have hrecords := grader.judge_records request activity
  have hrecords' : List.Forall₂ (grader.Records request) cases _ :=
    grader.judge_records (request.withCases cases) activity'
  generalize (grader.judge activity request).1.results = results at *
  generalize (grader.judge activity' (request.withCases cases)).1.results = results' at *
  generalize request.testCases = first at *
  induction hrecords generalizing results' cases with
  | nil =>
    obtain rfl := List.forall₂_nil_left_iff.mp hhidden
    rfl
  | @cons c r first results hr _ ih =>
    obtain ⟨r', results', hend, hends, rfl⟩ := List.forall₂_cons_left_iff.mp hhidden
    obtain ⟨c', cases, hr', hrs', rfl⟩ := List.forall₂_cons_right_iff.mp hrecords'
    obtain ⟨hc, hcases⟩ := List.cons.inj hcases
    have hrest := ih _ hrs' hends hcases (fun d hd => hvisible d (List.mem_cons_of_mem _ hd))
    rw [List.map_cons, List.map_cons, hrest]
    obtain ⟨activity, rfl⟩ := hr
    obtain ⟨activity', rfl⟩ := hr'
    cases hidden : c.isHidden with
    | false =>
      rw [TestCase.eq_of_redacted_eq hc hidden,
        hvisible c List.mem_cons_self hidden activity activity']
    | true =>
      have hidden' : c'.isHidden = true := (TestCase.isHidden_eq_of_redacted_eq hc).trans hidden
      rw [hend ((grader.caseRecord_hidden request activity c).trans hidden)
        ((grader.caseRecord_hidden request activity' c').trans hidden')
        (by rw [caseRecord_testCaseId, caseRecord_testCaseId, TestCase.id_eq_of_redacted_eq hc])]

/-- **Summary and sentence** are the same if cases and records are, once redacted. -/
theorem judge_summary_redacted
    (hcases : cases.map TestCase.redacted = request.testCases.map TestCase.redacted)
    (hresults : (grader.judge activity' (request.withCases cases)).1.results.map
        TestCaseResult.told =
      (grader.judge activity request).1.results.map TestCaseResult.told) :
    (grader.judge activity' (request.withCases cases)).1.summary =
        (grader.judge activity request).1.summary ∧
      (grader.judge activity' (request.withCases cases)).1.message =
        (grader.judge activity request).1.message := by
  have hlength : cases.length = request.testCases.length := by
    simpa using congrArg List.length hcases
  cases hvalid : validate (request.config.getD grader.config) request.code with
  | some refusal =>
    rw [judge_of_refused hvalid, @judge_of_refused grader (request.withCases cases) _ hvalid,
      SubmissionRequest.withCases]
    simp [refuseAll, hlength]
  | none =>
    rw [judge_of_valid hvalid, @judge_of_valid grader (request.withCases cases) hvalid]
      at hresults ⊢
    have h := grader.foldl_runCase_agrees (request.config.getD grader.config) request.code
      (Progress.agrees_empty activity) request.testCases
    have h' := grader.foldl_runCase_agrees (request.config.getD grader.config) request.code
      (Progress.agrees_empty activity') cases
    have htally := h.redacted_eq h' hcases hresults
    have hsummary := congrArg Tally.summary htally
    have hmessage := congrArg Tally.message htally
    rw [Tally.summary_redacted, Tally.summary_redacted] at hsummary
    rw [Tally.message_redacted, Tally.message_redacted] at hmessage
    exact ⟨hsummary, hmessage⟩

/-- **Total and greatest time** are the same if the times of the records are. -/
theorem judge_times_congr
    (htimes : (grader.judge activity' (request.withCases cases)).1.results.map
        TestCaseResult.executionTimeMs =
      (grader.judge activity request).1.results.map TestCaseResult.executionTimeMs) :
    (grader.judge activity' (request.withCases cases)).1.totalExecutionTimeMs =
        (grader.judge activity request).1.totalExecutionTimeMs ∧
      (grader.judge activity' (request.withCases cases)).1.maxExecutionTimeMs =
        (grader.judge activity request).1.maxExecutionTimeMs := by
  cases hvalid : validate (request.config.getD grader.config) request.code with
  | some refusal =>
    rw [judge_of_refused hvalid, @judge_of_refused grader (request.withCases cases) _ hvalid]
    exact ⟨rfl, rfl⟩
  | none =>
    rw [judge_of_valid hvalid, @judge_of_valid grader (request.withCases cases) hvalid]
      at htimes ⊢
    have h := grader.foldl_runCase_timed (request.config.getD grader.config) request.code
      (Progress.timed_empty activity) request.testCases
    have h' := grader.foldl_runCase_timed (request.config.getD grader.config) request.code
      (Progress.timed_empty activity') cases
    refine ⟨h'.total.trans (.trans ?_ h.total.symm), h'.longest.trans (.trans ?_ h.longest.symm)⟩
    · exact congrArg (List.foldl (· + ·) 0) htimes
    · exact congrArg (List.foldl max 0) htimes

end Grader

/-! ### Views -/

/-- The view without the identifier and the moments of the submission. -/
def SubmissionView.unstamped (view : SubmissionView) : SubmissionView :=
  { view with submissionId := ⟨0⟩, submittedAt := ⟨0, 0⟩, evaluatedAt := ⟨0, 0⟩ }

/-- The report without the identifier of the submission. -/
def GradeReport.unstamped (report : GradeReport) : GradeReport :=
  { report with submissionId := ⟨0⟩ }

/-- Two graded submissions look the same: as they are kept, in the reports made with the cases of
each request at hand, in the summaries and in the sentences. Identifiers and moments differ. -/
structure ViewedAlike (cases cases' : List TestCase) (session session' : Session)
    (response response' : SubmissionResponse) : Prop where
  view : ∃ s s', session.store.get? response.submissionId = some s ∧
    session'.store.get? response'.submissionId = some s' ∧ s'.view.unstamped = s.view.unstamped
  report : (response'.report cases').unstamped = (response.report cases).unstamped
  validation : response'.validation = response.validation
  message : response'.message = response.message

namespace Grader

variable (grader : Grader) (request : SubmissionRequest) {cases : List TestCase}

theorem viewedAlike_of_redacted {activity activity' : Activity}
    (hcases : cases.map TestCase.redacted = request.testCases.map TestCase.redacted)
    (hresults : (grader.judge activity' (request.withCases cases)).1.results.map
        TestCaseResult.redacted =
      (grader.judge activity request).1.results.map TestCaseResult.redacted)
    (language : Language) (stamp stamp' : Stamp) (session session' : Session) :
    ViewedAlike request.testCases cases
      ⟨session.store.record (kept request language (grader.judge activity request).1 stamp),
        (grader.judge activity request).2⟩
      ⟨session'.store.record (kept (request.withCases cases) language
          (grader.judge activity' (request.withCases cases)).1 stamp'),
        (grader.judge activity' (request.withCases cases)).2⟩
      (response request language (grader.judge activity request).1 stamp)
      (response (request.withCases cases) language
        (grader.judge activity' (request.withCases cases)).1 stamp') := by
  have htold := congrArg (List.map TestCaseResult.untimed) hresults
  rw [List.map_map, List.map_map] at htold
  have htimes := congrArg (List.map TestCaseResult.executionTimeMs) hresults
  simp only [List.map_map, Function.comp_def, TestCaseResult.redacted_executionTimeMs] at htimes
  have hlength : (request.withCases cases).testCases.length = request.testCases.length := by
    simpa [SubmissionRequest.withCases] using congrArg List.length hcases
  obtain ⟨hsummary, hmessage⟩ := judge_summary_redacted hcases htold
  obtain ⟨htotal, hlongest⟩ := judge_times_congr htimes
  have hrows : displayResults (grader.judge activity' (request.withCases cases)).1.results cases =
      displayResults (grader.judge activity request).1.results request.testCases := by
    rw [← displayResults_redacted, hresults, hcases, displayResults_redacted]
  have hviewRows : displayResults (grader.judge activity' (request.withCases cases)).1.results [] =
      displayResults (grader.judge activity request).1.results [] := by
    rw [← displayResults_redacted, hresults, displayResults_redacted]
  refine ⟨⟨_, _, Table.get?_insert_self _ _ _, Table.get?_insert_self _ _ _, ?_⟩, ?_, hsummary,
    hmessage⟩
  · simp only [SubmissionView.unstamped, Submission.view, kept, evaluation, hviewRows, hsummary,
      htotal, hlongest, hlength]
    rfl
  · simp only [GradeReport.unstamped, SubmissionResponse.report, response, evaluation, hrows,
      hsummary, hmessage, hlength]
    rfl

/-- **Hidden content changes nothing that is shown.** Two requests differ in the inputs and the
expected outputs of hidden cases only. If each hidden case ends in the same way in both gradings,
and the runner repeats itself on the visible ones, then the submissions look the same. -/
theorem submit_noninterference
    (hcases : cases.map TestCase.redacted = request.testCases.map TestCase.redacted)
    (hvisible : ∀ c ∈ request.testCases, c.isHidden = false →
      grader.runner.RepeatsOn request.code c.input)
    (stamp stamp' : Stamp) (session session' : Session)
    (hhidden : List.Forall₂ (fun r r' => r.hidden = true → r'.EndsAs r)
      (grader.judge session.activity request).1.results
      (grader.judge session'.activity (request.withCases cases)).1.results) :
    Answers
      (ViewedAlike request.testCases cases (grader.submit stamp session request).2
        (grader.submit stamp' session' (request.withCases cases)).2)
      (grader.submit stamp session request).1
      (grader.submit stamp' session' (request.withCases cases)).1 := by
  have hresults := judge_results_congr hcases
    (fun c hc hidden activity activity' => congrArg TestCaseResult.redacted
      (caseRecord_of_repeatsOn (hvisible c hc hidden) activity' activity))
    (hhidden.imp fun r r' hend hidden hidden' hid =>
      (hend hidden).redacted_eq hid hidden hidden')
  refine grader.answers_submit fun language hlanguage => ?_
  have hlanguage' : Grader.language (request.withCases cases).language = .ok language := hlanguage
  rw [submit_eq_ok grader stamp session hlanguage, submit_eq_ok grader stamp' session' hlanguage']
  exact grader.viewedAlike_of_redacted request hcases hresults language stamp stamp' session
    session'

end Grader

/-- A submission with a hidden case that has the identifier of a visible one, and fails. -/
def concealingRequest : SubmissionRequest :=
  sampleRequest.withCases [⟨7, "02", "2", false⟩, ⟨7, "5", "3", true⟩]

/-- Its cases with other content in the hidden one, which fails again. -/
def concealedCases : List TestCase :=
  [⟨7, "02", "2", false⟩, ⟨7, "6", "4", true⟩]

theorem results_concealingRequest :
    (Grader.judge ⟨{}, interpreterRunner⟩ Session.empty.activity concealingRequest).1.results =
      [⟨7, true, "2", "2", 0, .completed, none, false⟩,
        ⟨7, false, "5", "", 0, .completed, some "Output mismatch", true⟩] := by
  decide +kernel

theorem results_concealedCases :
    (Grader.judge ⟨{}, interpreterRunner⟩ Session.empty.activity
        (concealingRequest.withCases concealedCases)).1.results =
      [⟨7, true, "2", "2", 0, .completed, none, false⟩,
        ⟨7, false, "6", "", 0, .completed, some "Output mismatch", true⟩] := by
  decide +kernel

theorem submit_concealingRequest :
    concealedCases.map TestCase.redacted = concealingRequest.testCases.map TestCase.redacted ∧
      Answers
        (ViewedAlike concealingRequest.testCases concealedCases
          (Grader.submit ⟨{}, interpreterRunner⟩ sampleStamp .empty concealingRequest).2
          (Grader.submit ⟨{}, interpreterRunner⟩ sampleStamp .empty
            (concealingRequest.withCases concealedCases)).2)
        (Grader.submit ⟨{}, interpreterRunner⟩ sampleStamp .empty concealingRequest).1
        (Grader.submit ⟨{}, interpreterRunner⟩ sampleStamp .empty
          (concealingRequest.withCases concealedCases)).1 := by
  have hcases : concealedCases.map TestCase.redacted =
      concealingRequest.testCases.map TestCase.redacted := rfl
  refine ⟨hcases, Grader.submit_noninterference ⟨{}, interpreterRunner⟩ concealingRequest hcases
    (fun _ _ _ _ _ => rfl) sampleStamp sampleStamp .empty .empty ?_⟩
  rw [results_concealingRequest, results_concealedCases]
  exact .cons (fun hidden => nomatch hidden) (.cons (fun _ => ⟨rfl, rfl, rfl, rfl⟩) .nil)

end Autograder
