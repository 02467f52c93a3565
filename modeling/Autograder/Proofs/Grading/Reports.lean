import Autograder.Proofs.Grading.Sessions

/-!
# Reports of executions

An execution is a race between a runner and a clock, and its report has to be sound whoever wins
and whatever the runner does. A runner need not make sense: it may give an error together with exit
code zero, another exit code without an error, or an answer long after the time was up. Whether an
execution succeeded is told by three fields of its report, and they always say the same.

The output that is reported is the output of the runner or its beginning, with a marker that it was
cut. `ShownOf` says which of the two by splitting the output where it was cut; since the marker is
not empty, output that was cut once is cut at the same place again.

## Main definitions

* `ShownOf` — a text and what is shown of it
* `ExecutionResult.WellFormed` — the three fields agree
* `Run.Reported` — what the report of a run says of the race

## Main results

* `shownOf_iff_eq_truncateOutput`, `truncateOutput_idem` — where output is cut
* `Run.reported_report` — one run, every behaviour and either winner
* `executeGuarded_wellFormed` — every execution
-/

namespace Autograder

/-! ### Output that is cut -/

/-- What is shown of a text when no more than so many characters are: the text as it is, or its
first characters and a marker. -/
inductive ShownOf (limit : Nat) : String → String → Prop where
  | whole {text : String} (h : text.length ≤ limit) : ShownOf limit text text
  | cut {kept rest : String} (hkept : kept.length = limit) (hrest : rest ≠ "") :
    ShownOf limit (kept ++ rest) (kept ++ truncationMarker)

/-- A longer text is cut behind its first characters, whatever follows them. -/
theorem truncateOutput_append {limit : Nat} {kept rest : String} (hkept : kept.length = limit)
    (hrest : rest ≠ "") : truncateOutput (kept ++ rest) limit = kept ++ truncationMarker := by
  have hlength : kept.toList.length = limit := by rw [String.length_toList, hkept]
  have hpos : 0 < rest.length := Nat.pos_of_ne_zero fun h => hrest (String.length_eq_zero_iff.mp h)
  have hlong : ¬(kept ++ rest).length ≤ limit := by
    rw [String.length_append]
    omega
  rw [truncateOutput, if_neg hlong, String.toList_append, List.take_left' hlength,
    String.ofList_toList]

theorem truncateOutput_of_le {text : String} {limit : Nat} (h : text.length ≤ limit) :
    truncateOutput text limit = text :=
  if_pos h

/-- **What is shown of a text** is what truncation makes of it. -/
theorem shownOf_iff_eq_truncateOutput {limit : Nat} {text shown : String} :
    ShownOf limit text shown ↔ shown = truncateOutput text limit := by
  constructor
  · rintro (h | ⟨hkept, hrest⟩)
    · exact (truncateOutput_of_le h).symm
    · exact (truncateOutput_append hkept hrest).symm
  · rintro rfl
    by_cases h : text.length ≤ limit
    · rw [truncateOutput_of_le h]
      exact .whole h
    · have hsplit : text = String.ofList (text.toList.take limit)
          ++ String.ofList (text.toList.drop limit) := by
        rw [← String.ofList_append, List.take_append_drop, String.ofList_toList]
      have hkept : (String.ofList (text.toList.take limit)).length = limit := by
        rw [String.length_ofList, List.length_take, String.length_toList]
        omega
      have hrest : String.ofList (text.toList.drop limit) ≠ "" := by
        intro hempty
        rw [String.ofList_eq_empty_iff, List.drop_eq_nil_iff, String.length_toList] at hempty
        exact h hempty
      rw [hsplit, truncateOutput_append hkept hrest]
      exact .cut hkept hrest

/-- **Cutting again** changes nothing. -/
theorem truncateOutput_idem (text : String) (limit : Nat) :
    truncateOutput (truncateOutput text limit) limit = truncateOutput text limit := by
  have hshown := shownOf_iff_eq_truncateOutput.mpr (rfl : truncateOutput text limit = _)
  generalize truncateOutput text limit = shown at hshown ⊢
  cases hshown with
  | whole h => exact truncateOutput_of_le h
  | cut hkept hrest => exact truncateOutput_append hkept (by decide)

/-! ### The report of a run -/

/-- The three fields that tell whether an execution succeeded agree. -/
structure ExecutionResult.WellFormed (result : ExecutionResult) : Prop where
  success : result.success = true ↔ result.status = .completed
  error : result.status = .completed ↔ result.error = none

namespace ExecutionResult

theorem wellFormed_completed (output : String) (elapsedMs : Nat) :
    (completed output elapsedMs).WellFormed :=
  ⟨by simp [completed], by simp [completed]⟩

theorem wellFormed_failed (output error : String) (elapsedMs : Nat) :
    (failed output error elapsedMs).WellFormed :=
  ⟨by simp [failed], by simp [failed]⟩

theorem wellFormed_timedOut (timeoutMs elapsedMs : Nat) :
    (timedOut timeoutMs elapsedMs).WellFormed :=
  ⟨by simp [timedOut], by simp [timedOut]⟩

end ExecutionResult

/-- The runner answered in time, without an error and with exit code zero. -/
def Run.Succeeds (run : Run) (output : String) : Prop :=
  run.timerFirst = false ∧ run.behaviour = .finishes ⟨output, none, 0⟩

/-- What the report of a run says of the race. -/
structure Run.Reported (config : SandboxConfig) (run : Run) (result : ExecutionResult) :
    Prop where
  wellFormed : result.WellFormed
  completed : result.status = .completed ↔ ∃ output, run.Succeeds output
  /-- Once the time is up, the report does not depend on what the runner does. -/
  late : run.timerFirst = true →
    result = .timedOut config.timeoutMs.toNat run.elapsedMs ∧
      result.status = .timeout ∧ result.output = ""
  output : ∀ outcome, run.timerFirst = false → run.behaviour = .finishes outcome →
    ShownOf config.maxOutputLength.toNat outcome.output result.output
  /-- A run that has no output to show is reported without one. -/
  noOutput : (∀ outcome, run.behaviour ≠ .finishes outcome) → result.output = ""

variable (config : SandboxConfig)

/-- A run that the clock ended. -/
theorem Run.reported_timedOut {run : Run} (h : run.timerFirst = true ∨
    run.behaviour = .runsForever) :
    run.Reported config (.timedOut config.timeoutMs.toNat run.elapsedMs) where
  wellFormed := ExecutionResult.wellFormed_timedOut _ _
  completed := by
    refine iff_of_false nofun ?_
    rintro ⟨output, hfirst, hfinishes⟩
    rw [hfirst, hfinishes] at h
    exact h.elim nofun nofun
  late _ := ⟨rfl, rfl, rfl⟩
  output outcome hfirst hfinishes := by
    rw [hfirst, hfinishes] at h
    exact h.elim nofun nofun
  noOutput _ := rfl

/-- **One run.** Its report is sound for every behaviour and either winner. -/
theorem Run.reported_report (run : Run) : run.Reported config (run.report config) := by
  obtain ⟨behaviour, timerFirst, elapsedMs⟩ := run
  cases timerFirst with
  | true => exact reported_timedOut config (.inl rfl)
  | false =>
    cases behaviour with
    | runsForever => exact reported_timedOut config (.inr rfl)
    | crashes =>
      refine ⟨ExecutionResult.wellFormed_failed _ _ _, iff_of_false nofun ?_, nofun, nofun,
        fun _ => rfl⟩
      rintro ⟨output, -, hfinishes⟩
      cases hfinishes
    | finishes outcome =>
      obtain ⟨output, error, exitCode⟩ := outcome
      have hshown : ShownOf config.maxOutputLength.toNat output
          (truncateOutput output config.maxOutputLength.toNat) :=
        shownOf_iff_eq_truncateOutput.mpr rfl
      -- The answer is a success only if error and exit code agree that it is.
      by_cases hsuccess : error = none ∧ exitCode = 0
      · obtain ⟨rfl, rfl⟩ := hsuccess
        refine ⟨ExecutionResult.wellFormed_completed _ _, iff_of_true rfl ⟨output, rfl, rfl⟩, nofun,
          ?_, fun h => absurd rfl (h _)⟩
        rintro _ - ⟨rfl⟩
        exact hshown
      · obtain ⟨reason, hreport⟩ : ∃ reason,
            Run.report config ⟨.finishes ⟨output, error, exitCode⟩, false, elapsedMs⟩ =
              .failed (truncateOutput output config.maxOutputLength.toNat) reason elapsedMs := by
          cases error with
          | some error => exact ⟨error, rfl⟩
          | none => exact ⟨_, if_neg fun hexit => hsuccess ⟨rfl, hexit⟩⟩
        rw [hreport]
        refine ⟨ExecutionResult.wellFormed_failed _ _ _, iff_of_false nofun ?_, nofun, ?_,
          fun h => absurd rfl (h _)⟩
        · rintro ⟨_, -, ⟨⟩⟩
          exact hsuccess ⟨rfl, rfl⟩
        · rintro _ - ⟨rfl⟩
          exact hshown

/-- The output that is reported is not cut any further. -/
theorem Run.truncateOutput_output_report (run : Run) :
    truncateOutput (run.report config).output config.maxOutputLength.toNat =
      (run.report config).output := by
  have hreported := run.reported_report config
  by_cases h : ∃ outcome, run.timerFirst = false ∧ run.behaviour = .finishes outcome
  · obtain ⟨outcome, hfirst, hfinishes⟩ := h
    rw [shownOf_iff_eq_truncateOutput.mp (hreported.output outcome hfirst hfinishes),
      truncateOutput_idem]
  · have hempty : (run.report config).output = "" := by
      cases hfirst : run.timerFirst with
      | true => exact (hreported.late hfirst).2.2
      | false => exact hreported.noOutput fun outcome hfinishes => h ⟨outcome, hfirst, hfinishes⟩
    rw [hempty, truncateOutput_of_le (Nat.zero_le _)]

/-- **Every execution has a sound report.** Its fields agree and its output is cut once and for
all. Where program and input are small enough, the report is that of the race between the runner
and the clock; where they are not, the runner is not asked and the execution has failed. -/
theorem executeGuarded_wellFormed (runner : Runner) (activity : Activity) (code input : String) :
    let execution := executeGuarded config runner activity code input
    execution.1.WellFormed ∧
      truncateOutput execution.1.output config.maxOutputLength.toNat = execution.1.output ∧
      (Fits code input →
        (runner activity.invocations.length code input).Reported config execution.1) ∧
      (¬Fits code input → execution.1.status = .error ∧ execution.1.output = "" ∧
        execution.2.invocations = activity.invocations) := by
  intro execution
  by_cases hfits : Fits code input
  · have hexecution : execution.1 =
        (runner activity.invocations.length code input).report config := by
      simp only [execution, executeGuarded, oversize?_eq_none_iff.mpr hfits]
    rw [hexecution]
    have hreported := (runner activity.invocations.length code input).reported_report config
    exact ⟨hreported.wellFormed, Run.truncateOutput_output_report config _, fun _ => hreported,
      fun h => absurd hfits h⟩
  · obtain ⟨reason, hreason⟩ := Option.ne_none_iff_exists'.mp (mt oversize?_eq_none_iff.mp hfits)
    have hexecution : execution =
        (.failed "" reason 0, { activity with executions := activity.executions + 1 }) := by
      simp only [execution, executeGuarded, hreason]
    rw [hexecution]
    exact ⟨ExecutionResult.wellFormed_failed _ _ _, truncateOutput_of_le (Nat.zero_le _),
      fun h => absurd h hfits, fun _ => ⟨rfl, rfl, rfl⟩⟩

/-- A runner whose answers do not make sense: an exit code and no error at first, later an error
and exit code zero, and output in either case. -/
def confusedRunner : Runner := fun n _ _ =>
  if n = 0 then ⟨.finishes ⟨"héllo", none, 3⟩, false, 7⟩
  else ⟨.finishes ⟨"héllo", some "lost", 0⟩, false, 7⟩

theorem wellFormed_confusedRunner :
    Fits "print(1)" "" ∧
      (executeGuarded { maxOutputLength := 2 } confusedRunner .idle "print(1)" "").1 =
        ⟨false, "hé\n... (output truncated)", some "Exited with code 3", 7, .error⟩ ∧
      (executeGuarded { maxOutputLength := 2 } confusedRunner .idle "print(1)" "").1.WellFormed ∧
      Run.Reported { maxOutputLength := 2 } (confusedRunner 0 "print(1)" "")
        (executeGuarded { maxOutputLength := 2 } confusedRunner .idle "print(1)" "").1 := by
  have hfits : Fits "print(1)" "" := by decide +kernel
  have h := executeGuarded_wellFormed { maxOutputLength := 2 } confusedRunner .idle "print(1)" ""
  exact ⟨hfits, by decide +kernel, h.1, h.2.2.1 hfits⟩

end Autograder
