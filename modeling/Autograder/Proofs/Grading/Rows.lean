import Autograder.Grading.CaseList
import Autograder.Grading.Report
import Autograder.Proofs.Codec.RoundTrip
import Autograder.Proofs.Grading.Aggregates
import Autograder.Proofs.Grading.CaseRecord
import Mathlib.Data.List.Induction

/-!
# The rows of a report

A row is made from the record of a case, and what the record does not hold is looked up among the
cases by the identifier. So the row of a case is right only if no other case has its identifier, and
that is seen to elsewhere: where the list of cases is read. `readCases_eq_error_iff` says what is
refused there, `TestCase.Recorded.showsCase` what a row needs of the lists that are accepted.

The record of a case is made after those of the cases in front of it, and a runner is told how often
it was asked before. `Grader.judge_getElem?` says at each place which record that is: the record of
the case by itself, with the activity that the cases in front of it leave behind.

## Main definitions

* `RepeatsFirst` — a case is the first to repeat an identifier
* `ShowsCase` — a row shows its case, and nothing of a hidden one

## Main results

* `readCases_eq_ok_iff`, `readCases_eq_error_iff` — which lists of cases are accepted
* `Grader.judge_getElem?` — the record at a place
* `report_readCases` — every row of a report on accepted cases
-/

namespace Autograder

/-! ### Identifiers that repeat -/

/-- The case has the identifier of a case in front of it, and the cases in front have different
ones. -/
def RepeatsFirst (front : List TestCase) (c : TestCase) : Prop :=
  (front.map TestCase.id).Nodup ∧ c.id ∈ front.map TestCase.id

/-- Cases with new and different identifiers are passed over and count as seen. -/
theorem repeatedId?_append {seen : List UInt32} {front : List TestCase}
    (hfront : (front.map TestCase.id).Nodup) (hseen : ∀ c ∈ front, c.id ∉ seen)
    (rest : List TestCase) :
    repeatedId? seen (front ++ rest)
      = repeatedId? ((front.map TestCase.id).reverse ++ seen) rest := by
  induction front generalizing seen with
  | nil => rfl
  | cons c front ih =>
    obtain ⟨hc, hfront⟩ := List.nodup_cons.mp hfront
    obtain ⟨hnew, hseen⟩ := List.forall_mem_cons.mp hseen
    rw [List.cons_append, repeatedId?, if_neg fun h => hnew (List.contains_iff_mem.mp h),
      ih hfront, List.map_cons, List.reverse_cons, List.append_assoc, List.singleton_append]
    intro d hd
    rw [List.mem_cons, not_or]
    exact ⟨fun heq => hc (heq ▸ List.mem_map_of_mem hd), hseen d hd⟩

theorem repeatedId?_of_nodup {cases : List TestCase} (h : (cases.map TestCase.id).Nodup) :
    repeatedId? [] cases = none := by
  have hnew : ∀ c ∈ cases, c.id ∉ ([] : List UInt32) := fun _ _ => List.not_mem_nil
  have hall := repeatedId?_append h hnew []
  rwa [List.append_nil] at hall

theorem RepeatsFirst.repeatedId? {front : List TestCase} {c : TestCase}
    (h : RepeatsFirst front c) (behind : List TestCase) :
    repeatedId? [] (front ++ c :: behind) = some c.id := by
  have hseen : c.id ∈ (front.map TestCase.id).reverse ++ [] := by simpa using h.2
  rw [repeatedId?_append h.1 (by simp), Autograder.repeatedId?,
    if_pos (List.contains_iff_mem.mpr hseen)]

/-- Where identifiers are not all different, there is a first case that repeats one. -/
theorem exists_repeatsFirst {cases : List TestCase} (h : ¬(cases.map TestCase.id).Nodup) :
    ∃ front c behind, cases = front ++ c :: behind ∧ RepeatsFirst front c := by
  induction cases using List.reverseRecOn with
  | nil => exact absurd List.nodup_nil h
  | append_singleton cases c ih =>
    by_cases hcases : (cases.map TestCase.id).Nodup
    · refine ⟨cases, c, [], rfl, hcases, ?_⟩
      by_contra hnew
      rw [List.map_append, List.map_singleton, List.nodup_append] at h
      refine h ⟨hcases, List.pairwise_singleton _ _, fun id hid id' hid' heq => hnew ?_⟩
      rwa [← List.mem_singleton.mp hid', ← heq]
    · obtain ⟨front, d, behind, rfl, hfirst⟩ := ih hcases
      exact ⟨front, d, behind ++ [c], by simp, hfirst⟩

/-! ### Reading cases -/

section Reading

variable {text : String} {cases : List TestCase}
  (h : TestCase.codec.list.read text.toList = .ok cases)

include h

theorem readCases_of_nodup (hids : (cases.map TestCase.id).Nodup) : readCases text = .ok cases := by
  rw [readCases, h]
  dsimp only
  rw [repeatedId?_of_nodup hids]

theorem readCases_of_repeatsFirst {front behind : List TestCase} {c : TestCase}
    (hsplit : cases = front ++ c :: behind) (hfirst : RepeatsFirst front c) :
    readCases text = .error (.duplicateId c.id) := by
  rw [readCases, h]
  dsimp only
  rw [hsplit, hfirst.repeatedId?]

/-- **Accepted** are cases with different identifiers, as they are. -/
theorem readCases_eq_ok_iff {accepted : List TestCase} :
    readCases text = .ok accepted ↔ accepted = cases ∧ (cases.map TestCase.id).Nodup := by
  by_cases hids : (cases.map TestCase.id).Nodup
  · rw [readCases_of_nodup h hids, Except.ok.injEq, eq_comm]
    exact (and_iff_left hids).symm
  · obtain ⟨front, c, behind, hsplit, hfirst⟩ := exists_repeatsFirst hids
    rw [readCases_of_repeatsFirst h hsplit hfirst]
    exact ⟨nofun, fun hok => absurd hok.2 hids⟩

/-- **Refused** are cases of which one repeats an identifier, and the first such is named. -/
theorem readCases_eq_error_iff {e : CaseListError} :
    readCases text = .error e ↔ ∃ front c behind,
      cases = front ++ c :: behind ∧ RepeatsFirst front c ∧ e = .duplicateId c.id := by
  constructor
  · intro herror
    have hids : ¬(cases.map TestCase.id).Nodup := by
      intro hids
      rw [readCases_of_nodup h hids] at herror
      cases herror
    obtain ⟨front, c, behind, hsplit, hfirst⟩ := exists_repeatsFirst hids
    rw [readCases_of_repeatsFirst h hsplit hfirst] at herror
    exact ⟨front, c, behind, hsplit, hfirst, (Except.error.inj herror).symm⟩
  · rintro ⟨front, c, behind, hsplit, hfirst, rfl⟩
    exact readCases_of_repeatsFirst h hsplit hfirst

end Reading

/-- The identifiers of accepted cases are different. -/
theorem nodup_of_readCases {text : String} {cases : List TestCase}
    (h : readCases text = .ok cases) : (cases.map TestCase.id).Nodup := by
  cases hread : TestCase.codec.list.read text.toList with
  | error reason =>
    rw [readCases, hread] at h
    cases h
  | ok found =>
    obtain ⟨rfl, hids⟩ := (readCases_eq_ok_iff hread).mp h
    exact hids

/-! ### The record at a place -/

namespace Grader

variable (grader : Grader) (request : SubmissionRequest) (activity : Activity)

/-- Judging more cases adds records in front of those that are there. -/
theorem exists_results_foldl_runCase (config : SandboxConfig) (code : String)
    (cases : List TestCase) (p : Progress) :
    ∃ added, added.length = cases.length ∧
      (cases.foldl (grader.runCase config code) p).results = added ++ p.results := by
  induction cases generalizing p with
  | nil => exact ⟨[], rfl, rfl⟩
  | cons c cases ih =>
    obtain ⟨added, hlength, hresults⟩ := ih (grader.runCase config code p c)
    refine ⟨_, ?_, hresults.trans (List.append_cons added _ p.results)⟩
    rw [List.length_append, hlength, List.length_singleton, List.length_cons]

/-- **The record at a place** is that of the case by itself, after the cases in front of it. -/
theorem judge_getElem? (front : List TestCase) (c : TestCase) (behind : List TestCase) :
    (grader.judge activity
      (request.withCases (front ++ c :: behind))).1.results[front.length]?
      = some (grader.caseRecord request (grader.judge activity (request.withCases front)).2 c) := by
  cases hvalid : validate (request.config.getD grader.config) request.code with
  | some refusal =>
    rw [@judge_of_refused grader (request.withCases (front ++ c :: behind)) _ hvalid, caseRecord,
      hvalid, refuseAll]
    simp [SubmissionRequest.withCases]
  | none =>
    rw [@judge_of_valid grader (request.withCases (front ++ c :: behind)) hvalid,
      @judge_of_valid grader (request.withCases front) hvalid, caseRecord, hvalid]
    obtain ⟨done, hdone, hfront⟩ := grader.exists_results_foldl_runCase
      (request.config.getD grader.config) request.code front ⟨.empty, [], activity⟩
    obtain ⟨added, -, hbehind⟩ := grader.exists_results_foldl_runCase
      (request.config.getD grader.config) request.code behind
      (grader.runCase (request.config.getD grader.config) request.code
        (front.foldl (grader.runCase (request.config.getD grader.config) request.code)
          ⟨.empty, [], activity⟩) c)
    simp only [runAll, SubmissionRequest.withCases, List.foldl_append, List.foldl_cons]
    rw [hbehind, results_runCase, hfront, List.append_nil, List.reverse_append, List.reverse_cons,
      List.append_assoc, ← hdone, ← List.length_reverse, List.getElem?_append_right (Nat.le_refl _),
      Nat.sub_self]
    rfl

theorem recorded_caseRecord (c : TestCase) :
    c.Recorded (grader.caseRecord request activity c) := by
  rw [caseRecord]
  cases validate (request.config.getD grader.config) request.code with
  | some refusal => exact c.recorded_refusedCase refusal.message
  | none => exact c.recorded_record _

end Grader

/-! ### Rows -/

/-- The row shows the case with its record, and of a hidden case neither input nor outputs. -/
structure ShowsCase (c : TestCase) (r : TestCaseResult) (row : DisplayTestCaseResult) : Prop where
  testCaseId : row.testCaseId = c.id
  passed : row.passed = r.passed
  status : row.status = r.status
  error : row.error = r.error
  executionTimeMs : row.executionTimeMs = r.executionTimeMs
  visible : c.isHidden = false → row.hidden = false ∧ row.input = some c.input ∧
    row.expectedOutput = some c.expectedOutput ∧ row.actualOutput = some r.actualOutput
  concealed : c.isHidden = true → row.hidden = true ∧ row.input = none ∧
    row.expectedOutput = none ∧ row.actualOutput = none

/-- Where identifiers are different, a case is found by its own. -/
theorem find?_id_of_nodup {front behind : List TestCase} {c : TestCase}
    (h : ((front ++ c :: behind).map TestCase.id).Nodup) :
    (front ++ c :: behind).find? (fun d => d.id == c.id) = some c := by
  have hfront : front.find? (fun d => d.id == c.id) = none := by
    rw [List.find?_eq_none]
    intro d hd heq
    rw [List.map_append, List.nodup_append] at h
    exact h.2.2 d.id (List.mem_map_of_mem hd) c.id (by simp) (beq_iff_eq.mp heq)
  rw [List.find?_append, hfront, Option.none_or, List.find?_cons, beq_self_eq_true]

/-- The row of a record shows the case that is found for it. -/
theorem TestCase.Recorded.showsCase {c : TestCase} {r : TestCaseResult} (h : c.Recorded r)
    {cases : List TestCase} (hfound : cases.find? (fun d => d.id == c.id) = some c) :
    ShowsCase c r (r.display cases) := by
  rw [TestCaseResult.display, h.testCaseId, hfound, h.hidden, h.expectedOutput]
  constructor
  case visible => simp +contextual
  case concealed => simp +contextual
  all_goals rfl

/-- **Rows of accepted cases.** A text that spells cases is accepted as they are if their identifiers
are different, and otherwise the first case that repeats one is named. A report on accepted cases
has a row for each, in order, and the row shows the case with its record. -/
theorem report_readCases (text : String) :
    (∀ cases, TestCase.codec.list.read text.toList = .ok cases →
      (∀ accepted, readCases text = .ok accepted ↔
        accepted = cases ∧ (cases.map TestCase.id).Nodup) ∧
      ∀ e, readCases text = .error e ↔ ∃ front c behind,
        cases = front ++ c :: behind ∧ RepeatsFirst front c ∧ e = .duplicateId c.id) ∧
    ∀ cases, readCases text = .ok cases →
      ∀ (grader : Grader) (stamp : Stamp) (session : Session) (request : SubmissionRequest)
        (supported : Language), request.testCases = cases →
        Grader.language request.language = .ok supported →
        ∃ response, (grader.submit stamp session request).1 = .ok response ∧
          (response.report cases).testCaseResults.length = cases.length ∧
          ∀ front c behind, cases = front ++ c :: behind →
            ∃ row, (response.report cases).testCaseResults[front.length]? = some row ∧
              ShowsCase c (grader.caseRecord request
                (grader.judge session.activity (request.withCases front)).2 c) row := by
  refine ⟨fun cases hread => ⟨fun accepted => readCases_eq_ok_iff hread, fun e =>
    readCases_eq_error_iff hread⟩, ?_⟩
  rintro cases haccepted grader stamp session request supported rfl hlanguage
  have hids := nodup_of_readCases haccepted
  have hjudged := (grader.judge_consistent session.activity request).1
  rw [grader.submit_eq_ok stamp session hlanguage]
  refine ⟨_, rfl, ?_, fun front c behind hsplit => ?_⟩
  · exact (List.length_map _).trans hjudged.length
  · have hrecord := grader.judge_getElem? request session.activity front c behind
    rw [← hsplit] at hrecord
    refine ⟨_, List.getElem?_map.trans (congrArg (Option.map _) hrecord), ?_⟩
    refine (grader.recorded_caseRecord request _ c).showsCase ?_
    rw [hsplit] at hids ⊢
    exact find?_id_of_nodup hids

/-- A visible case and a hidden one, read from their document and graded. -/
theorem report_readCases_sampleRequest :
    let text := String.ofList (TestCase.codec.list.encode sampleRequest.testCases).compact
    readCases text = .ok sampleRequest.testCases ∧
      ∃ response,
        (Grader.submit ⟨{}, interpreterRunner⟩ ⟨⟨0⟩, ⟨0, 0⟩, ⟨0, 0⟩⟩ .empty sampleRequest).1
          = .ok response ∧
        ∃ row, (response.report sampleRequest.testCases).testCaseResults[1]? = some row ∧
          ShowsCase ⟨8, "x", "3", true⟩ (Grader.caseRecord ⟨{}, interpreterRunner⟩ sampleRequest
            (Grader.judge ⟨{}, interpreterRunner⟩ .idle
              (sampleRequest.withCases [⟨7, "02", "2", false⟩])).2 ⟨8, "x", "3", true⟩) row := by
  intro text
  have hvalid : ∀ c ∈ sampleRequest.testCases, True := fun _ _ => trivial
  have hread : TestCase.codec.list.read text.toList = .ok sampleRequest.testCases := by
    rw [String.toList_ofList]
    exact ((TestCase.lawfulOn_codec.list).roundTrips hvalid).compact
  have hlanguage : Grader.language sampleRequest.language = .ok .python := by decide +kernel
  obtain ⟨hreads, hrows⟩ := report_readCases text
  have haccepted : readCases text = .ok sampleRequest.testCases :=
    ((hreads _ hread).1 _).mpr ⟨rfl, by decide⟩
  obtain ⟨response, hresponse, -, hshows⟩ := hrows _ haccepted ⟨{}, interpreterRunner⟩
    ⟨⟨0⟩, ⟨0, 0⟩, ⟨0, 0⟩⟩ .empty sampleRequest .python rfl hlanguage
  exact ⟨haccepted, response, hresponse, hshows [_] _ [] rfl⟩

end Autograder
