import Autograder.Grading.Grader

/-!
# Agreement of records and totals

A submission is described several times over: by the records of its cases, by counts, by a summary
for those who are tested. The counts and the summary come from a tally that is kept while the cases
are run, the records from the runs themselves, and a program that is refused gets all of them from
another place. Here they are shown to agree.

The argument is one invariant of the progress through the cases, `Progress.Agrees`. It relates the
progress to the list of the cases done so far, holds at the start, and is kept by every case
whatever the runner does. Which case failed first is said without the tally, by
`FirstFailedAt`: a record that is not passed, with passed records only in front of it.

## Main definitions

* `TestCase.Recorded` — what the record of a case says of it
* `FirstFailedAt`, `DescribesFirstFailure` — the first case that failed, and its description
* `SubmissionResponse.Consistent` — all views of a submission agree

## Main results

* `Grader.runCase_agrees`, `Grader.foldl_runCase_agrees` — one case and all cases keep the invariant
* `Grader.submit_consistent` — every answer to a submission is consistent
-/

namespace Autograder

/-! ### Records -/

/-- The record is one of this case, with a consistent judgement. -/
structure TestCase.Recorded (c : TestCase) (r : TestCaseResult) : Prop where
  testCaseId : r.testCaseId = c.id
  hidden : r.hidden = c.isHidden
  /-- The expected output is left out if the case is hidden. -/
  expectedOutput : r.expectedOutput = if c.isHidden then "" else c.expectedOutput
  passed : r.passed = true ↔
    r.status = .completed ∧ sameOutput c.expectedOutput r.actualOutput = true
  error : r.error = none ↔ r.passed = true

/-- Only a completed execution with the expected output is passed. -/
theorem isPassed_classify {result : ExecutionResult} {expected : String} :
    (classify result expected).isPassed = true ↔
      result.status = .completed ∧ sameOutput expected result.output = true := by
  rw [classify, sameOutput]
  cases result.status with
  | timeout | error => simp [Verdict.isPassed]
  | completed =>
    simp only [true_and, beq_iff_eq]
    split
    · rename_i hempty
      simp only [Bool.and_eq_true, Bool.not_eq_true'] at hempty
      simp only [Verdict.isPassed, Bool.false_eq_true, false_iff]
      intro heq
      rw [heq, hempty.1] at hempty
      exact absurd hempty.2 (by decide)
    · split
      · rename_i heq
        simp [Verdict.isPassed, heq]
      · rename_i hne
        simp only [Verdict.isPassed, Bool.false_eq_true, false_iff]
        exact fun heq => hne heq.symm

/-- Exactly the verdict without an error is passed. -/
theorem Verdict.error?_eq_none_iff {v : Verdict} : v.error? = none ↔ v.isPassed = true := by
  cases v <;> simp [Verdict.error?, Verdict.isPassed]

/-- The record of an executed case. -/
theorem TestCase.recorded_record (c : TestCase) (result : ExecutionResult) :
    c.Recorded (c.record result (c.judge result)) where
  testCaseId := rfl
  hidden := rfl
  expectedOutput := rfl
  passed := isPassed_classify
  error := Verdict.error?_eq_none_iff

/-- The record of a case whose program was refused. -/
theorem TestCase.recorded_refusedCase (c : TestCase) (reason : String) :
    c.Recorded (Grader.refusedCase reason c) where
  testCaseId := rfl
  hidden := rfl
  expectedOutput := rfl
  passed := by simp [Grader.refusedCase]
  error := by simp [Grader.refusedCase]

/-! ### The first failure -/

/-- The record at the place is not passed and all records before it are. -/
def FirstFailedAt (results : List TestCaseResult) (i : Nat) (r : TestCaseResult) : Prop :=
  results[i]? = some r ∧ r.passed = false ∧ ∀ q ∈ results.take i, q.passed = true

/-- What stands at one place of two lists that grow together is old in both or new in both. -/
theorem getElem?_concat_both {α β : Type} {xs : List α} {ys : List β}
    (hlen : ys.length = xs.length) {x a : α} {y b : β} {i : Nat}
    (ha : (xs ++ [x])[i]? = some a) (hb : (ys ++ [y])[i]? = some b) :
    xs[i]? = some a ∧ ys[i]? = some b ∨ i = ys.length ∧ x = a ∧ y = b := by
  have hlt : i < ys.length + 1 := by simpa using (List.getElem?_eq_some_iff.mp hb).1
  rcases Nat.lt_succ_iff_lt_or_eq.mp hlt with hold | rfl
  · rw [List.getElem?_append_left (hlen ▸ hold)] at ha
    rw [List.getElem?_append_left hold] at hb
    exact Or.inl ⟨ha, hb⟩
  · rw [hlen, List.getElem?_concat_length] at ha
    rw [List.getElem?_concat_length] at hb
    exact Or.inr ⟨rfl, Option.some.inj ha, Option.some.inj hb⟩

/-- A first failure among the old records was one before. -/
theorem FirstFailedAt.of_concat {results : List TestCaseResult} {i : Nat} {q r : TestCaseResult}
    (h : FirstFailedAt (results ++ [r]) i q) (hq : results[i]? = some q) :
    FirstFailedAt results i q := by
  obtain ⟨_, hfailed, hbefore⟩ := h
  have hlt : i < results.length := (List.getElem?_eq_some_iff.mp hq).1
  rw [List.take_append_of_le_length (Nat.le_of_lt hlt)] at hbefore
  exact ⟨hq, hfailed, hbefore⟩

/-- If the new record is the first failure, all old ones are passed. -/
theorem FirstFailedAt.passed_of_last {results : List TestCaseResult} {q r : TestCaseResult}
    (h : FirstFailedAt (results ++ [r]) results.length q) : ∀ p ∈ results, p.passed = true := by
  obtain ⟨_, _, hbefore⟩ := h
  rwa [List.take_left] at hbefore

/-- The least place of a record that is not passed is that of the first failure. -/
theorem exists_firstFailedAt {results : List TestCaseResult} {i : Nat}
    (h : (results.findIdx? fun r => !r.passed) = some i) : ∃ r, FirstFailedAt results i r := by
  obtain ⟨hlt, hfailed, hbefore⟩ := List.findIdx?_eq_some_iff_getElem.mp h
  refine ⟨results[i], List.getElem?_eq_getElem hlt, by simpa using hfailed, fun q hq => ?_⟩
  obtain ⟨j, hj, rfl⟩ := List.mem_take_iff_getElem.mp hq
  simpa using hbefore j (Nat.lt_of_lt_of_le hj (Nat.min_le_left _ _))

/-- The description of a case that failed. -/
def TestCase.failure (c : TestCase) (i : Nat) (r : TestCaseResult) : FirstFailure where
  position := i + 1
  expected := normalizeOutput c.expectedOutput
  received := normalizeOutput r.actualOutput
  error := r.error
  hidden := c.isHidden

namespace Tally

@[simp] theorem record_passed (t : Tally) (position : Nat) (c : TestCase) (v : Verdict)
    (result : ExecutionResult) :
    (t.record position c v result).passed = t.passed + if v.isPassed then 1 else 0 := by
  rw [record]
  cases v.isPassed <;> rfl

@[simp] theorem record_failed (t : Tally) (position : Nat) (c : TestCase) (v : Verdict)
    (result : ExecutionResult) :
    (t.record position c v result).failed = t.failed + if !v.isPassed then 1 else 0 := by
  rw [record]
  cases v.isPassed <;> rfl

/-- A case that is passed leaves the first failure as it is. -/
theorem record_firstFailure_of_passed {t : Tally} {c : TestCase} {result : ExecutionResult}
    (h : (c.judge result).isPassed = true) (position : Nat) :
    (t.record position c (c.judge result) result).firstFailure = t.firstFailure := by
  rw [record, if_pos h]

/-- A case that is not passed is described only if it is the first. -/
theorem record_firstFailure_of_failed {t : Tally} {c : TestCase} {result : ExecutionResult}
    (h : (c.judge result).isPassed = false) (i : Nat) :
    (t.record (i + 1) c (c.judge result) result).firstFailure
      = some (t.firstFailure.getD (c.failure i (c.record result (c.judge result)))) := by
  rw [record, if_neg (by simp [h])]
  rfl

end Tally

/-! ### The invariant -/

/-- The progress through these cases is recorded and counted consistently. -/
structure Progress.Agrees (cases : List TestCase) (p : Progress) : Prop where
  length : p.results.length = cases.length
  recorded : ∀ (i : Nat) c r, cases[i]? = some c → p.results.reverse[i]? = some r → c.Recorded r
  passed : p.tally.passed = p.results.countP fun r => r.passed
  failed : p.tally.failed = p.results.countP fun r => !r.passed
  noFailure : (∀ r ∈ p.results, r.passed = true) → p.tally.firstFailure = none
  firstFailure : ∀ (i : Nat) c r, cases[i]? = some c → FirstFailedAt p.results.reverse i r →
    p.tally.firstFailure = some (c.failure i r)

theorem Progress.agrees_empty (activity : Activity) :
    Progress.Agrees [] ⟨.empty, [], activity⟩ where
  length := rfl
  recorded := by simp
  passed := rfl
  failed := rfl
  noFailure _ := rfl
  firstFailure := by simp

namespace Grader

variable (grader : Grader) (config : SandboxConfig) (code : String)

/-- **One case.** Whatever the runner does with a case, the progress stays consistent. -/
theorem runCase_agrees {cases : List TestCase} {p : Progress} (h : p.Agrees cases)
    (c : TestCase) : (grader.runCase config code p c).Agrees (cases ++ [c]) := by
  rw [runCase]
  generalize executeGuarded config grader.runner p.activity code c.input = run
  obtain ⟨result, activity⟩ := run
  dsimp only
  have hlength : p.results.reverse.length = cases.length := by
    rw [List.length_reverse, h.length]
  refine ⟨?_, ?_, ?_, ?_, ?_, ?_⟩
  · rw [List.length_cons, List.length_append, h.length]
    rfl
  · intro i d r hd hr
    rw [List.reverse_cons] at hr
    rcases getElem?_concat_both hlength hd hr with ⟨hd, hr⟩ | ⟨_, rfl, rfl⟩
    · exact h.recorded i d r hd hr
    · exact c.recorded_record result
  · rw [Tally.record_passed, List.countP_cons, h.passed]
    rfl
  · rw [Tally.record_failed, List.countP_cons, h.failed]
    rfl
  · intro hall
    have hc : (c.judge result).isPassed = true := hall _ List.mem_cons_self
    rw [Tally.record_firstFailure_of_passed hc]
    exact h.noFailure fun r hr => hall r (List.mem_cons_of_mem _ hr)
  · intro i d r hd hfirst
    rw [List.reverse_cons] at hfirst
    rcases getElem?_concat_both hlength hd hfirst.1 with ⟨hd, hr⟩ | ⟨rfl, rfl, rfl⟩
    · have hold := h.firstFailure i d r hd (hfirst.of_concat hr)
      cases hc : (c.judge result).isPassed with
      | true => rw [Tally.record_firstFailure_of_passed hc, hold]
      | false =>
        rw [Tally.record_firstFailure_of_failed hc, hold]
        rfl
    · have hc : (c.judge result).isPassed = false := hfirst.2.1
      have hnone := h.noFailure fun r hr => hfirst.passed_of_last r (List.mem_reverse.mpr hr)
      rw [Tally.record_firstFailure_of_failed hc, hnone, List.length_reverse]
      rfl

/-- **All cases.** The progress stays consistent from any point on. -/
theorem foldl_runCase_agrees {done : List TestCase} {p : Progress} (h : p.Agrees done)
    (cases : List TestCase) :
    (cases.foldl (grader.runCase config code) p).Agrees (done ++ cases) := by
  induction cases generalizing done p with
  | nil => simpa using h
  | cons c cases ih => simpa using ih (grader.runCase_agrees config code h c)

end Grader

/-! ### Consistent answers -/

/-- The summary describes the first case that failed, and nothing if none did. The content of a
hidden case is left out. -/
structure DescribesFirstFailure (cases : List TestCase) (results : List TestCaseResult)
    (s : ValidationSummary) : Prop where
  position : s.failedTestCase = (results.findIdx? fun r => !r.passed).map (· + 1)
  details : ∀ (i : Nat) c r, s.failedTestCase = some (i + 1) → cases[i]? = some c →
    results[i]? = some r →
      s.error = r.error ∧
      s.expected = (if c.isHidden then none else some (normalizeOutput c.expectedOutput)) ∧
      s.received = (if c.isHidden then none else some (normalizeOutput r.actualOutput))
  nothing : s.failedTestCase = none → s.error = none ∧ s.expected = none ∧ s.received = none

/-- Records, counts and summary of the cases agree. -/
structure Graded.Consistent (cases : List TestCase) (g : Graded) : Prop where
  length : g.results.length = cases.length
  recorded : ∀ (i : Nat) c r, cases[i]? = some c → g.results[i]? = some r → c.Recorded r
  passedCount : g.summary.passedCount = g.results.countP fun r => r.passed
  failedCount : g.summary.failedCount = g.results.countP fun r => !r.passed
  totalTests : g.summary.totalTests = cases.length
  passed : g.summary.passed = true ↔ cases ≠ [] ∧ ∀ r ∈ g.results, r.passed = true
  described : g.rejected = false → DescribesFirstFailure cases g.results g.summary

/-- Every record is either passed or not. -/
theorem countP_passed_add (results : List TestCaseResult) :
    (results.countP fun r => r.passed) + (results.countP fun r => !r.passed) = results.length := by
  rw [List.length_eq_countP_add_countP (fun r => r.passed)]
  simp

namespace Progress

variable {cases : List TestCase} {p : Progress}

theorem Agrees.total (h : p.Agrees cases) : p.tally.total = cases.length := by
  rw [Tally.total, h.passed, h.failed, countP_passed_add, h.length]

theorem Agrees.allPassed (h : p.Agrees cases) :
    p.tally.allPassed = true ↔ cases ≠ [] ∧ ∀ r ∈ p.results, r.passed = true := by
  have hfailed : p.tally.failed = 0 ↔ ∀ r ∈ p.results, r.passed = true := by
    rw [h.failed, List.countP_eq_zero]
    simp
  have htotal : p.tally.passed + p.tally.failed = cases.length := h.total
  rw [Tally.allPassed, Bool.and_eq_true, beq_iff_eq, decide_eq_true_eq, ← hfailed,
    ← List.length_pos_iff]
  constructor
  · rintro ⟨hzero, hpos⟩
    exact ⟨by omega, hzero⟩
  · rintro ⟨hpos, hzero⟩
    exact ⟨hzero, by omega⟩

/-- The summary of a tally without a first failure describes nothing. -/
theorem describesFirstFailure_of_none {t : Tally} {results : List TestCaseResult}
    (h : t.firstFailure = none) (hall : ∀ r ∈ results, r.passed = true) :
    DescribesFirstFailure cases results t.summary := by
  have hplace : (results.findIdx? fun r => !r.passed) = none := by
    rw [List.findIdx?_eq_none_iff]
    exact fun r hr => by simp [hall r hr]
  refine ⟨?_, ?_, ?_⟩
  · rw [hplace, Tally.summary, h]
    rfl
  · intro i c r hi
    simp [Tally.summary, h] at hi
  · intro _
    simp [Tally.summary, h]

/-- The summary of a tally describes its first failure. -/
theorem describesFirstFailure_of_some {t : Tally} {results : List TestCaseResult} {i : Nat}
    {c : TestCase} {r : TestCaseResult} (h : t.firstFailure = some (c.failure i r))
    (hplace : (results.findIdx? fun r => !r.passed) = some i) (hc : cases[i]? = some c)
    (hr : results[i]? = some r) : DescribesFirstFailure cases results t.summary := by
  have hposition : t.summary.failedTestCase = some (i + 1) := by
    rw [Tally.summary, h]
    rfl
  refine ⟨?_, ?_, ?_⟩
  · rw [hplace, hposition]
    rfl
  · intro j d q hj hd hq
    obtain rfl : i = j := by simpa [hposition] using hj
    obtain rfl : c = d := Option.some.inj (hc.symm.trans hd)
    obtain rfl : r = q := Option.some.inj (hr.symm.trans hq)
    refine ⟨?_, ?_, ?_⟩
    · rw [Tally.summary, h]
      rfl
    · rw [Tally.summary, h]
      cases hidden : c.isHidden <;> simp [TestCase.failure, Option.filter, hidden]
    · rw [Tally.summary, h]
      cases hidden : c.isHidden <;> simp [TestCase.failure, Option.filter, hidden]
  · intro hnone
    rw [hposition] at hnone
    exact absurd hnone (by simp)

theorem Agrees.describesFirstFailure (h : p.Agrees cases) :
    DescribesFirstFailure cases p.results.reverse p.tally.summary := by
  cases hplace : p.results.reverse.findIdx? fun r => !r.passed with
  | none =>
    have hall : ∀ r ∈ p.results.reverse, r.passed = true := by
      simpa [List.findIdx?_eq_none_iff] using hplace
    exact describesFirstFailure_of_none
      (h.noFailure fun r hr => hall r (List.mem_reverse.mpr hr)) hall
  | some i =>
    obtain ⟨r, hfirst⟩ := exists_firstFailedAt hplace
    have hlt : i < cases.length := by
      have hlt := (List.getElem?_eq_some_iff.mp hfirst.1).1
      rwa [List.length_reverse, h.length] at hlt
    have hc : cases[i]? = some cases[i] := List.getElem?_eq_getElem hlt
    exact describesFirstFailure_of_some (h.firstFailure i _ r hc hfirst) hplace hc hfirst.1

end Progress

namespace Grader

/-- Where the program is executed, everything is read off the progress at its end. -/
theorem runAll_consistent (grader : Grader) (config : SandboxConfig) (code : String)
    (activity : Activity) (cases : List TestCase) :
    (grader.runAll config code activity cases).1.Consistent cases := by
  have h := grader.foldl_runCase_agrees config code (Progress.agrees_empty activity) cases
  rw [List.nil_append] at h
  rw [runAll]
  exact {
    length := by rw [List.length_reverse, h.length]
    recorded := h.recorded
    passedCount := by rw [List.countP_reverse]; exact h.passed
    failedCount := by rw [List.countP_reverse]; exact h.failed
    totalTests := h.total
    passed := h.allPassed.trans (by simp)
    described := fun _ => h.describesFirstFailure }

/-- Where the program is refused, no case is passed and nothing is described. -/
theorem refuseAll_consistent (refusal : Refusal) (cases : List TestCase) :
    (refuseAll refusal cases).Consistent cases where
  length := by rw [refuseAll, List.length_map]
  recorded i c r hc hr := by
    obtain ⟨d, hd, rfl⟩ : ∃ d, cases[i]? = some d ∧ refusedCase refusal.message d = r := by
      simpa [refuseAll] using hr
    obtain rfl : c = d := Option.some.inj (hc.symm.trans hd)
    exact c.recorded_refusedCase refusal.message
  passedCount := by
    rw [refuseAll, List.countP_map]
    exact (List.countP_eq_zero.mpr fun c _ => by simp [refusedCase]).symm
  failedCount := by
    rw [refuseAll, List.countP_map]
    exact (List.countP_eq_length.mpr fun c _ => by simp [refusedCase]).symm
  totalTests := rfl
  passed := by
    cases cases with
    | nil => simp [refuseAll]
    | cons c cases => simp [refuseAll, refusedCase]
  described h := by simp [refuseAll] at h

/-- The judgement of a submission is consistent on either path, and the path is that of the
validator. -/
theorem judge_consistent (grader : Grader) (activity : Activity) (request : SubmissionRequest) :
    (grader.judge activity request).1.Consistent request.testCases ∧
      (grader.judge activity request).1.rejected
        = (validate (request.config.getD grader.config) request.code).isSome := by
  rw [judge]
  cases validate (request.config.getD grader.config) request.code with
  | some refusal => exact ⟨refuseAll_consistent refusal _, rfl⟩
  | none => exact ⟨runAll_consistent grader _ _ _ _, rfl⟩

end Grader

/-- All views of a submission agree: the records of its cases, the counts of the evaluation, and
the summary. -/
structure SubmissionResponse.Consistent (cases : List TestCase) (response : SubmissionResponse) :
    Prop where
  length : response.evaluation.testCaseResults.length = cases.length
  /-- The records are those of the cases, in order. -/
  recorded : ∀ (i : Nat) c r, cases[i]? = some c →
    response.evaluation.testCaseResults[i]? = some r → c.Recorded r
  passedCount : response.evaluation.passedCount
    = response.evaluation.testCaseResults.countP fun r => r.passed
  failedCount : response.evaluation.failedCount
    = response.evaluation.testCaseResults.countP fun r => !r.passed
  totalCount : response.evaluation.totalCount = cases.length
  sum : response.evaluation.passedCount + response.evaluation.failedCount
    = response.evaluation.totalCount
  summaryPassedCount : response.validation.passedCount = response.evaluation.passedCount
  summaryFailedCount : response.validation.failedCount = response.evaluation.failedCount
  summaryTotalTests : response.validation.totalTests = response.evaluation.totalCount
  /-- The summary says that all is well if there are cases and none failed. -/
  passed : response.validation.passed = true ↔
    cases ≠ [] ∧ ∀ r ∈ response.evaluation.testCaseResults, r.passed = true
  described : response.rejected = false →
    DescribesFirstFailure cases response.evaluation.testCaseResults response.validation

namespace Grader

/-- **Every answer to a submission is consistent**, whatever the limits, the runner and the session
are, and whether or not the program is refused. -/
theorem submit_consistent (grader : Grader) (stamp : Stamp) (session : Session)
    (request : SubmissionRequest) {language : Language}
    (hlanguage : Language.ofTag? request.language = some language) :
    ∃ response, (grader.submit stamp session request).1 = .ok response ∧
      response.Consistent request.testCases ∧
      response.rejected = (validate (request.config.getD grader.config) request.code).isSome := by
  obtain ⟨h, hrejected⟩ := grader.judge_consistent session.activity request
  have hsum := countP_passed_add (grader.judge session.activity request).1.results
  have hsupported : Grader.language request.language = .ok language := by
    rw [Grader.language, hlanguage]
  rw [submit, hsupported]
  refine ⟨_, rfl, ?_, hrejected⟩
  exact {
    length := h.length
    recorded := h.recorded
    passedCount := h.passedCount
    failedCount := h.failedCount
    totalCount := rfl
    sum := (congr (congrArg _ h.passedCount) h.failedCount).trans (hsum.trans h.length)
    summaryPassedCount := rfl
    summaryFailedCount := rfl
    summaryTotalTests := h.totalTests
    passed := h.passed
    described := h.described }

end Grader

/-- A submission of which the first case is passed and the second, which is hidden, fails. -/
def sampleRequest : SubmissionRequest where
  attemptId := "attempt"
  questionId := "question"
  code := "n = int(input())\nprint(n)"
  language := "python"
  testCases := [⟨7, "02", "2", false⟩, ⟨8, "x", "3", true⟩]
  maxPoints := 10
  config := none

theorem submit_sampleRequest :
    Language.ofTag? sampleRequest.language = some .python ∧
      ∃ response,
        (Grader.submit ⟨{}, interpreterRunner⟩ ⟨⟨0⟩, ⟨0, 0⟩, ⟨0, 0⟩⟩ .empty sampleRequest).1
          = .ok response ∧
        response.Consistent sampleRequest.testCases ∧
        response.rejected = (validate {} sampleRequest.code).isSome :=
  have hlanguage : Language.ofTag? sampleRequest.language = some .python := by decide +kernel
  ⟨hlanguage, Grader.submit_consistent ⟨{}, interpreterRunner⟩ _ .empty sampleRequest hlanguage⟩

example : (Grader.judge ⟨{}, interpreterRunner⟩ .idle sampleRequest).1.summary
    = ⟨false, some 2, none, none,
        some "ValueError: invalid literal for int() with base 10: 'x'", 2, 1, 1⟩ := by
  decide +kernel

end Autograder
