import Autograder.Proofs.Grading.Aggregates
import Autograder.Proofs.Grading.CaseRecord
import Mathlib.Data.List.FinRange

/-!
# Independence of the cases

No case has a part in the result of another. If what the runner does with a program and an input is
the same every time, then the records of a submission move with its cases when these are put in
another order, and each record is the one that its case gets when it is the only case. The other
cases may fail, crash the runner or never end.

Counts, score and rejection do not depend on the order. The message and the summary do, since they
describe the case that failed first; nothing is said about them here. Nor about times, which a
runner is free to change from one run to the next.

## Main definitions

* `SubmissionRequest.reorder` — the same cases in another order
* `Reordered`, `GradedAlone` — how the answers to such requests compare

## Main results

* `Grader.submit_independent` — records move with their cases, and are those of the cases alone
-/

namespace Autograder

/-- The same request with its cases in another order: at each place the case that `σ` says. -/
def SubmissionRequest.reorder (request : SubmissionRequest)
    (σ : Equiv.Perm (Fin request.testCases.length)) : SubmissionRequest :=
  request.withCases (List.ofFn fun i => request.testCases.get (σ i))

/-- The second answer is the first with its records in another order, times apart. -/
structure Reordered {n : Nat} (σ : Equiv.Perm (Fin n)) (response response' : SubmissionResponse) :
    Prop where
  length : response'.evaluation.testCaseResults.length = n
  records : ∀ i : Fin n, ∃ r r',
    response.evaluation.testCaseResults[(σ i).val]? = some r ∧
      response'.evaluation.testCaseResults[i.val]? = some r' ∧ r'.untimed = r.untimed
  passedCount : response'.evaluation.passedCount = response.evaluation.passedCount
  failedCount : response'.evaluation.failedCount = response.evaluation.failedCount
  finalScore : response'.evaluation.finalScore = response.evaluation.finalScore
  rejected : response'.rejected = response.rejected

/-- The second answer has the record at a place of the first and no other, times apart. -/
def GradedAlone (i : Nat) (response response' : SubmissionResponse) : Prop :=
  ∃ r r', response.evaluation.testCaseResults[i]? = some r ∧
    response'.evaluation.testCaseResults = [r'] ∧ r'.untimed = r.untimed

/-- A test that does not look at times counts the same in two lists whose records are, times apart,
each other's permutation. -/
theorem countP_eq_of_untimed_perm {p : TestCaseResult → Bool} (hp : ∀ r, p r.untimed = p r)
    {results results' : List TestCaseResult}
    (h : List.Perm (results'.map TestCaseResult.untimed) (results.map TestCaseResult.untimed)) :
    results'.countP p = results.countP p := by
  have hcount := h.countP_eq p
  rw [List.countP_map, List.countP_map] at hcount
  have hcomp : p ∘ TestCaseResult.untimed = p := funext hp
  rwa [hcomp] at hcount

namespace Grader

/-- The record at a place, by the case at that place. -/
theorem exists_record (grader : Grader) (request : SubmissionRequest) (activity : Activity)
    {i : Nat} {c : TestCase} (hc : request.testCases[i]? = some c) :
    ∃ r, (grader.judge activity request).1.results[i]? = some r ∧ grader.Records request c r := by
  have hrecords := grader.judge_records request activity
  obtain ⟨hi, rfl⟩ := List.getElem?_eq_some_iff.mp hc
  have hlt : i < (grader.judge activity request).1.results.length := hrecords.length_eq ▸ hi
  exact ⟨_, List.getElem?_eq_getElem hlt, hrecords.get hi hlt⟩

variable {grader : Grader} (hrunner : grader.runner.Steady) (request : SubmissionRequest)

include hrunner

/-- Two records of one case differ at most in their times. -/
theorem Records.untimed_eq {request : SubmissionRequest} {c : TestCase} {r r' : TestCaseResult}
    (h : grader.Records request c r) (h' : grader.Records request c r') :
    r'.untimed = r.untimed := by
  obtain ⟨activity, rfl⟩ := h
  obtain ⟨activity', rfl⟩ := h'
  exact untimed_caseRecord_of_steadyOn (hrunner _ _) activity' activity

theorem judge_reorder_perm (σ : Equiv.Perm (Fin request.testCases.length))
    (activity activity' : Activity) :
    List.Perm
      ((grader.judge activity' (request.reorder σ)).1.results.map TestCaseResult.untimed)
      ((grader.judge activity request).1.results.map TestCaseResult.untimed) := by
  have hcases : List.Perm (request.reorder σ).testCases request.testCases := by
    have hperm := Equiv.Perm.ofFn_comp_perm σ request.testCases.get
    rwa [List.ofFn_get] at hperm
  rw [judge_untimed _ hrunner, judge_untimed _ hrunner]
  exact hcases.map _

theorem reordered_response (σ : Equiv.Perm (Fin request.testCases.length)) (language : Language)
    (stamp stamp' : Stamp) (activity activity' : Activity) :
    Reordered σ (response request language (grader.judge activity request).1 stamp)
      (response (request.reorder σ) language (grader.judge activity' (request.reorder σ)).1
        stamp') := by
  have hperm := judge_reorder_perm hrunner request σ activity activity'
  obtain ⟨h, hrejected⟩ := grader.judge_consistent activity request
  obtain ⟨h', hrejected'⟩ := grader.judge_consistent activity' (request.reorder σ)
  have hlength : (request.reorder σ).testCases.length = request.testCases.length :=
    List.length_ofFn
  have hpassed : (grader.judge activity' (request.reorder σ)).1.summary.passedCount =
      (grader.judge activity request).1.summary.passedCount := by
    rw [h.passedCount, h'.passedCount]
    exact countP_eq_of_untimed_perm (fun _ => rfl) hperm
  refine ⟨h'.length.trans hlength, fun i => ?_, hpassed, ?_, ?_, hrejected'.trans hrejected.symm⟩
  · have hi' : (request.reorder σ).testCases[i.val]? = some (request.testCases.get (σ i)) := by
      simp [SubmissionRequest.reorder, SubmissionRequest.withCases]
    obtain ⟨r, hr, hrecords⟩ :=
      grader.exists_record request activity (List.getElem?_eq_getElem (σ i).isLt)
    obtain ⟨r', hr', hrecords'⟩ := grader.exists_record (request.reorder σ) activity' hi'
    exact ⟨r, r', hr, hr', Records.untimed_eq hrunner hrecords hrecords'⟩
  · change (grader.judge activity' (request.reorder σ)).1.summary.failedCount =
      (grader.judge activity request).1.summary.failedCount
    rw [h.failedCount, h'.failedCount]
    exact countP_eq_of_untimed_perm (fun _ => rfl) hperm
  · change Points.score _ (request.reorder σ).testCases.length _ = Points.score _ _ _
    rw [hlength, hpassed]
    rfl

theorem gradedAlone_response (i : Fin request.testCases.length) (language : Language)
    (stamp stamp' : Stamp) (activity activity' : Activity) :
    GradedAlone i (response request language (grader.judge activity request).1 stamp)
      (response (request.withCases [request.testCases.get i]) language
        (grader.judge activity' (request.withCases [request.testCases.get i])).1 stamp') := by
  obtain ⟨r, hr, hrecords⟩ :=
    grader.exists_record request activity (List.getElem?_eq_getElem i.isLt)
  have hsingle := grader.judge_records (request.withCases [request.testCases.get i]) activity'
  obtain ⟨r', results, hrecords', hnil, hresults⟩ := List.forall₂_cons_left_iff.mp hsingle
  obtain rfl := List.forall₂_nil_left_iff.mp hnil
  exact ⟨r, r', hr, hresults, Records.untimed_eq hrunner hrecords hrecords'⟩

/-- **The cases are independent.** With a steady runner the records of a submission move with its
cases, and each is the record that its case gets alone. -/
theorem submit_independent (stamp stamp' : Stamp) (session session' : Session) :
    (∀ σ : Equiv.Perm (Fin request.testCases.length),
      Answers (Reordered σ) (grader.submit stamp session request).1
        (grader.submit stamp' session' (request.reorder σ)).1) ∧
    (∀ i : Fin request.testCases.length,
      Answers (GradedAlone i) (grader.submit stamp session request).1
        (grader.submit stamp' session' (request.withCases [request.testCases.get i])).1) :=
  ⟨fun σ => grader.answers_submit fun language _ =>
      reordered_response hrunner request σ language stamp stamp' session.activity session'.activity,
    fun i => grader.answers_submit fun language _ =>
      gradedAlone_response hrunner request i language stamp stamp' session.activity
        session'.activity⟩

end Grader

/-- A runner that crashes on one input, never ends on another, and interprets the program on all
others, every time more slowly. -/
def moodyRunner : Runner := fun n code input =>
  if input = "crash" then ⟨.crashes, false, n⟩
  else if input = "spin" then ⟨.runsForever, false, n⟩
  else ⟨.finishes (Guest.interpret none code input), false, n⟩

/-- A submission of which one case crashes the runner, one is passed, one never ends and one ends
in a fault. -/
def mixedRequest : SubmissionRequest :=
  sampleRequest.withCases
    [⟨1, "crash", "1", false⟩, ⟨2, "2", "2", false⟩, ⟨3, "spin", "3", true⟩, ⟨4, "x", "4", true⟩]

/-- The first two cases of that submission change places. -/
def firstTwoSwapped : Equiv.Perm (Fin mixedRequest.testCases.length) :=
  Equiv.swap (0 : Fin 4) (1 : Fin 4)

def sampleStamp : Stamp := ⟨⟨0⟩, ⟨0, 0⟩, ⟨0, 0⟩⟩

theorem moodyRunner_steady : moodyRunner.Steady := by
  intro code input m n
  rw [moodyRunner, moodyRunner]
  split
  · rfl
  · split <;> rfl

theorem submit_mixedRequest :
    moodyRunner.Steady ∧
      Answers (Reordered firstTwoSwapped)
        (Grader.submit ⟨{}, moodyRunner⟩ sampleStamp .empty mixedRequest).1
        (Grader.submit ⟨{}, moodyRunner⟩ sampleStamp .empty
          (mixedRequest.reorder firstTwoSwapped)).1 ∧
      Answers (GradedAlone 1)
        (Grader.submit ⟨{}, moodyRunner⟩ sampleStamp .empty mixedRequest).1
        (Grader.submit ⟨{}, moodyRunner⟩ sampleStamp .empty
          (mixedRequest.withCases [⟨2, "2", "2", false⟩])).1 :=
  have h := @Grader.submit_independent ⟨{}, moodyRunner⟩ moodyRunner_steady mixedRequest
    sampleStamp sampleStamp .empty .empty
  ⟨moodyRunner_steady, h.1 firstTwoSwapped, h.2 (1 : Fin 4)⟩

end Autograder
