import Autograder.Proofs.Codec.Laws
import Autograder.Service.Config

/-!
# Values written and read back

The types of the interface that hold no float are read back from what was written of them. Each
follows its codec, field by field; what is proved here is that the fields differ in name and that a
value is put together again from its parts.

Counts are words of 64 bits, so greater numbers are no values of these types. A type says by
`InRange` which of its parts that concerns.

## Main results

* `Codec.roundTrips_all` — the types that hold no float
-/

namespace Autograder

open Codec RecordField Record

/-- The number is kept in a word. -/
def IsWord (n : Nat) : Prop :=
  n < 18446744073709551616

instance (n : Nat) : Decidable (IsWord n) :=
  inferInstanceAs (Decidable (_ < _))

theorem Codec.lawfulOn_count : count.LawfulOn IsWord :=
  lawfulOn_natBelow _

theorem ExecutionStatus.lawfulOn_codec : ExecutionStatus.codec.LawfulOn fun _ => True :=
  lawfulOn_oneOf fun s => by cases s <;> decide

/-! ### Values that are in range -/

/-- The time is kept in a word. -/
def ExecutionResult.InRange (r : ExecutionResult) : Prop :=
  IsWord r.executionTimeMs

@[inherit_doc ExecutionResult.InRange]
def TestCaseResult.InRange (r : TestCaseResult) : Prop :=
  IsWord r.executionTimeMs

@[inherit_doc ExecutionResult.InRange]
def DisplayTestCaseResult.InRange (r : DisplayTestCaseResult) : Prop :=
  IsWord r.executionTimeMs

/-- The counts and the position of the first failure are kept in words. -/
structure ValidationSummary.InRange (s : ValidationSummary) : Prop where
  failedTestCase : ∀ position ∈ s.failedTestCase, IsWord position
  totalTests : IsWord s.totalTests
  passedCount : IsWord s.passedCount
  failedCount : IsWord s.failedCount

/-- Both parts are in range. -/
structure RunResponse.InRange (r : RunResponse) : Prop where
  result : r.result.InRange
  validation : r.validation.InRange

/-! ### One law for each type -/

theorem TestCase.lawfulOn_codec : TestCase.codec.LawfulOn fun _ => True :=
  have hfields :=
    lawfulOn_cons (lawfulOn_required "id" lawfulOn_word32) (by decide) <|
    lawfulOn_cons (lawfulOn_required "input" lawfulOn_string) (by decide) <|
    lawfulOn_cons (lawfulOn_required "expected_output" lawfulOn_string) (by decide) <|
    lawfulOn_cons (lawfulOn_defaulted "is_hidden" lawfulOn_bool false) (by decide) lawfulOn_nil
  (hfields.codec fun _ => rfl).mono fun _ _ => by simp

theorem ExecutionResult.lawfulOn_codec : ExecutionResult.codec.LawfulOn InRange :=
  have hfields :=
    lawfulOn_cons (lawfulOn_required "success" lawfulOn_bool) (by decide) <|
    lawfulOn_cons (lawfulOn_required "output" lawfulOn_string) (by decide) <|
    lawfulOn_cons (lawfulOn_optional "error" lawfulOn_string neverNull_string) (by decide) <|
    lawfulOn_cons (lawfulOn_required "execution_time_ms" lawfulOn_count) (by decide) <|
    lawfulOn_cons (lawfulOn_required "status" ExecutionStatus.lawfulOn_codec) (by decide)
      lawfulOn_nil
  (hfields.codec fun _ => rfl).mono fun _ h => by simpa [InRange] using h

theorem TestCaseResult.lawfulOn_codec : TestCaseResult.codec.LawfulOn InRange :=
  have hfields :=
    lawfulOn_cons (lawfulOn_required "test_case_id" lawfulOn_word32) (by decide) <|
    lawfulOn_cons (lawfulOn_required "passed" lawfulOn_bool) (by decide) <|
    lawfulOn_cons (lawfulOn_required "actual_output" lawfulOn_string) (by decide) <|
    lawfulOn_cons (lawfulOn_required "expected_output" lawfulOn_string) (by decide) <|
    lawfulOn_cons (lawfulOn_required "execution_time_ms" lawfulOn_count) (by decide) <|
    lawfulOn_cons (lawfulOn_required "status" ExecutionStatus.lawfulOn_codec) (by decide) <|
    lawfulOn_cons (lawfulOn_optional "error" lawfulOn_string neverNull_string) (by decide) <|
    lawfulOn_cons (lawfulOn_defaulted "hidden" lawfulOn_bool false) (by decide) lawfulOn_nil
  (hfields.codec fun _ => rfl).mono fun _ h => by simpa [InRange] using h

theorem DisplayTestCaseResult.lawfulOn_codec : DisplayTestCaseResult.codec.LawfulOn InRange :=
  have hfields :=
    lawfulOn_cons (lawfulOn_required "test_case_id" lawfulOn_word32) (by decide) <|
    lawfulOn_cons (lawfulOn_required "passed" lawfulOn_bool) (by decide) <|
    lawfulOn_cons (lawfulOn_required "hidden" lawfulOn_bool) (by decide) <|
    lawfulOn_cons (lawfulOn_sparse "input" lawfulOn_string neverNull_string) (by decide) <|
    lawfulOn_cons (lawfulOn_sparse "expected_output" lawfulOn_string neverNull_string)
      (by decide) <|
    lawfulOn_cons (lawfulOn_sparse "actual_output" lawfulOn_string neverNull_string)
      (by decide) <|
    lawfulOn_cons (lawfulOn_required "execution_time_ms" lawfulOn_count) (by decide) <|
    lawfulOn_cons (lawfulOn_required "status" ExecutionStatus.lawfulOn_codec) (by decide) <|
    lawfulOn_cons (lawfulOn_optional "error" lawfulOn_string neverNull_string) (by decide)
      lawfulOn_nil
  (hfields.codec fun _ => rfl).mono fun _ h => by simpa [InRange] using h

theorem ValidationSummary.lawfulOn_codec : ValidationSummary.codec.LawfulOn InRange :=
  have hfields :=
    lawfulOn_cons (lawfulOn_required "passed" lawfulOn_bool) (by decide) <|
    lawfulOn_cons (lawfulOn_optional "failed_test_case" lawfulOn_count (neverNull_natBelow _))
      (by decide) <|
    lawfulOn_cons (lawfulOn_optional "expected" lawfulOn_string neverNull_string) (by decide) <|
    lawfulOn_cons (lawfulOn_optional "received" lawfulOn_string neverNull_string) (by decide) <|
    lawfulOn_cons (lawfulOn_optional "error" lawfulOn_string neverNull_string) (by decide) <|
    lawfulOn_cons (lawfulOn_required "total_tests" lawfulOn_count) (by decide) <|
    lawfulOn_cons (lawfulOn_required "passed_count" lawfulOn_count) (by decide) <|
    lawfulOn_cons (lawfulOn_required "failed_count" lawfulOn_count) (by decide) lawfulOn_nil
  (hfields.codec fun _ => rfl).mono fun _ h => by
    simpa using ⟨h.failedTestCase, h.totalTests, h.passedCount, h.failedCount⟩

theorem SandboxConfig.lawfulOn_codec : SandboxConfig.codec.LawfulOn fun _ => True :=
  have hfields :=
    lawfulOn_cons (lawfulOn_defaulted "timeout_ms" lawfulOn_word64 5000) (by decide) <|
    lawfulOn_cons (lawfulOn_defaulted "max_output_length" lawfulOn_word64 10000) (by decide) <|
    lawfulOn_cons (lawfulOn_defaulted "blocked_patterns" lawfulOn_string.list []) (by decide)
      lawfulOn_nil
  (hfields.codec fun _ => rfl).mono fun _ _ => by simp

theorem RunRequest.lawfulOn_codec : RunRequest.codec.LawfulOn fun _ => True :=
  have hconfig := SandboxConfig.lawfulOn_codec.option (neverNull_codec _ _ _)
  have hfields :=
    lawfulOn_cons (lawfulOn_required "code" lawfulOn_string) (by decide) <|
    lawfulOn_cons (lawfulOn_required "language" lawfulOn_string) (by decide) <|
    lawfulOn_cons (lawfulOn_defaulted "input" lawfulOn_string "") (by decide) <|
    lawfulOn_cons (lawfulOn_defaulted "expected_output" lawfulOn_string "") (by decide) <|
    lawfulOn_cons (lawfulOn_defaulted "config" hconfig none) (by decide) lawfulOn_nil
  (hfields.codec fun _ => rfl).mono fun _ _ => by simp

theorem RunResponse.lawfulOn_codec : RunResponse.codec.LawfulOn InRange :=
  have hfields :=
    lawfulOn_cons (lawfulOn_required "result" ExecutionResult.lawfulOn_codec) (by decide) <|
    lawfulOn_cons (lawfulOn_required "passed" lawfulOn_bool) (by decide) <|
    lawfulOn_cons (lawfulOn_required "validation" ValidationSummary.lawfulOn_codec) (by decide)
      lawfulOn_nil
  (hfields.codec fun _ => rfl).mono fun _ h => by simpa using ⟨h.result, h.validation⟩

theorem ServiceConfig.lawfulOn_codec : ServiceConfig.codec.LawfulOn fun _ => True :=
  have hurl := lawfulOn_string.option neverNull_string
  have hfields :=
    lawfulOn_cons (lawfulOn_defaulted "bind_addr" lawfulOn_string "0.0.0.0:3000") (by decide) <|
    lawfulOn_cons (lawfulOn_defaulted "sandbox" SandboxConfig.lawfulOn_codec {}) (by decide) <|
    lawfulOn_cons (lawfulOn_defaulted "result_ttl_secs" lawfulOn_word64 86400) (by decide) <|
    lawfulOn_cons (lawfulOn_defaulted "redis_url" hurl none) (by decide) lawfulOn_nil
  (hfields.codec fun _ => rfl).mono fun _ _ => by simp

/-! ### All types -/

/-- **What is written is read back**, of every value in range of the types that hold no float. -/
theorem Codec.roundTrips_all :
    (∀ c : TestCase, TestCase.codec.RoundTrips c) ∧
    (∀ r : ExecutionResult, r.InRange → ExecutionResult.codec.RoundTrips r) ∧
    (∀ r : TestCaseResult, r.InRange → TestCaseResult.codec.RoundTrips r) ∧
    (∀ s : ValidationSummary, s.InRange → ValidationSummary.codec.RoundTrips s) ∧
    (∀ r : RunRequest, RunRequest.codec.RoundTrips r) ∧
    (∀ r : RunResponse, r.InRange → RunResponse.codec.RoundTrips r) ∧
    (∀ r : DisplayTestCaseResult, r.InRange → DisplayTestCaseResult.codec.RoundTrips r) ∧
    (∀ c : SandboxConfig, SandboxConfig.codec.RoundTrips c) ∧
    ∀ c : ServiceConfig, ServiceConfig.codec.RoundTrips c :=
  ⟨fun _ => TestCase.lawfulOn_codec.roundTrips trivial,
    fun _ => ExecutionResult.lawfulOn_codec.roundTrips,
    fun _ => TestCaseResult.lawfulOn_codec.roundTrips,
    fun _ => ValidationSummary.lawfulOn_codec.roundTrips,
    fun _ => RunRequest.lawfulOn_codec.roundTrips trivial,
    fun _ => RunResponse.lawfulOn_codec.roundTrips,
    fun _ => DisplayTestCaseResult.lawfulOn_codec.roundTrips,
    fun _ => SandboxConfig.lawfulOn_codec.roundTrips trivial,
    fun _ => ServiceConfig.lawfulOn_codec.roundTrips trivial⟩

/-- A response with a text that has to be escaped, absent texts and the greatest of numbers. -/
def awkwardResponse : RunResponse where
  result := ⟨false, "\"\\/\x01\nπ𝄞", none, 18446744073709551615, .timeout⟩
  passed := false
  validation := ⟨false, some 18446744073709551615, some "", none, some "null", 0, 0, 1⟩

/-- A record of a case that is hidden. -/
def awkwardRecord : TestCaseResult :=
  ⟨4294967295, true, "\t\x7f", "", 18446744073709551615, .completed, none, true⟩

theorem roundTrips_awkwardResponse :
    awkwardResponse.InRange ∧ awkwardRecord.InRange ∧ (awkwardRecord.display []).InRange ∧
      RunResponse.codec.RoundTrips awkwardResponse ∧
      ExecutionResult.codec.RoundTrips awkwardResponse.result ∧
      ValidationSummary.codec.RoundTrips awkwardResponse.validation ∧
      TestCaseResult.codec.RoundTrips awkwardRecord ∧
      DisplayTestCaseResult.codec.RoundTrips (awkwardRecord.display []) := by
  have hresponse : awkwardResponse.InRange := by
    refine ⟨?_, ⟨?_, ?_, ?_, ?_⟩⟩
    · change IsWord _
      decide
    · simp [awkwardResponse, IsWord]
    · decide
    · decide
    · decide
  have hrecord : IsWord awkwardRecord.executionTimeMs := by decide
  obtain ⟨-, result, record, summary, -, response, row, -⟩ := Codec.roundTrips_all
  exact ⟨hresponse, hrecord, hrecord, response _ hresponse, result _ hresponse.result,
    summary _ hresponse.validation, record _ hrecord, row _ hrecord⟩

end Autograder
