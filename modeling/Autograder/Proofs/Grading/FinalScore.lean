import Autograder.Proofs.Binary64.Whole
import Autograder.Proofs.Grading.Sample
import Autograder.Proofs.Grading.Scores

/-!
# The final score of a submission

The score of a submission is computed in floating-point numbers. The points of a question are
finite and not negative, so they are an amount, and every step on the way to the score is one: the
product of the cases that are passed and of what one is worth could only fail to be a number if an
infinite worth met zero cases, and a finite amount that is divided by a count is finite. So the
score is between zero and the points, however the steps are rounded.

Full marks for a part of the cases are a matter of rounding, which is followed from step to step:
while a case is worth a cent, what rounding adds in all is less than that.

## Main definitions

* `Points.partialPoints` — the points for a part of the cases, before they are cut off

## Main results

* `Points.score_bounds` — a score lies between zero and the points
* `Points.atMost_partialPoints` — what rounding adds to a share
* `Grader.submit_scored_fairly` — fair scores
* `Grader.submit_full_marks` — when full marks are given
* `Grader.full_marks_for_part` — full marks for a part of the cases
-/

namespace Autograder

open Binary64

/-! ### Points of a question -/

theorem usablePoints_cases (maximum : Float) : usablePoints maximum = 0 ∨
    usablePoints maximum = maximum ∧ maximum.isFinite = true ∧ 0 < maximum := by
  rw [usablePoints]
  split
  · rename_i h
    rw [Bool.and_eq_true, decide_eq_true_iff] at h
    exact .inr ⟨rfl, h⟩
  · exact .inl rfl

theorem isAmount_usablePoints (maximum : Float) : IsAmount (usablePoints maximum) := by
  rcases usablePoints_cases maximum with hzero | ⟨hsame, hfinite, hpos⟩
  · rw [hzero]
    exact isAmount_ofNat (by decide)
  · rw [hsame]
    exact .of_pos hfinite hpos

theorem isFinite_usablePoints (maximum : Float) : (usablePoints maximum).isFinite = true := by
  rcases usablePoints_cases maximum with hzero | ⟨hsame, hfinite, -⟩
  · rw [hzero]
    rfl
  · rwa [hsame]

namespace Points

variable {passed total : Nat} {maximum x high : Float}

/-- The points for a part of the cases, before they are cut off at the maximum. -/
def partialPoints (passed total : Nat) (maximum : Float) : Float :=
  toCents (mul (ofNat passed) (div maximum (ofNat total)))

theorem isAmount_toCents (hx : IsAmount x) : IsAmount (toCents x) := by
  have hhundred : AtLeastOne (Float.ofNat 100) := atLeastOne_ofNat (by decide) (by decide)
  exact ((hx.mul hhundred).roundFloat).div hhundred

/-- Zero and infinity do not meet: the points are finite, and so is what one case is worth. -/
theorem isAmount_partialPoints (hmax : IsAmount maximum) (hfinite : maximum.isFinite = true)
    (htotal : 0 < total) (hpassed : passed < 2 ^ 64) (hword : total < 2 ^ 64) :
    IsAmount (partialPoints passed total maximum) := by
  have hcount := atLeastOne_ofNat htotal hword
  have hworth : (maximum / Float.ofNat total).isFinite = true := isFinite_div hmax hfinite hcount
  exact isAmount_toCents ((isAmount_ofNat hpassed).mul_of_isFinite (hmax.div hcount)
    (isFinite_ofNat hpassed) hworth)

theorem clamp_bounds (hx : IsAmount x) (hhigh : IsAmount high) :
    0 ≤ clamp x 0 high ∧ clamp x 0 high ≤ high := by
  have hlow : less x (0 : Float) = false := decide_eq_false hx.not_lt_zero
  rw [clamp, hlow, if_neg Bool.false_ne_true]
  by_cases h : high < x
  · have hless : less high x = true := decide_eq_true h
    rw [if_pos hless]
    exact ⟨hhigh.zero_le, hhigh.le_refl⟩
  · have hless : less high x = false := decide_eq_false h
    rw [hless, if_neg Bool.false_ne_true]
    exact ⟨hx.zero_le, hx.le_of_not_lt hhigh h⟩

theorem score_eq_clamp (h : passed < total) (maximum : Float) :
    score passed total maximum = clamp (partialPoints passed total maximum) 0 maximum := by
  rw [score, if_neg (by omega), if_neg (by omega)]
  rfl

/-- **A score lies between zero and the points of the question.** -/
theorem score_bounds (passed : Nat) (hmax : IsAmount maximum) (hfinite : maximum.isFinite = true)
    (hword : total < 2 ^ 64) :
    0 ≤ score passed total maximum ∧ score passed total maximum ≤ maximum := by
  rcases Nat.eq_zero_or_pos total with rfl | htotal
  · exact ⟨(isAmount_ofNat (by decide)).le_refl, hmax.zero_le⟩
  · by_cases hall : total ≤ passed
    · rw [score, if_neg (by omega), if_pos hall]
      exact ⟨hmax.zero_le, hmax.le_refl⟩
    · rw [score_eq_clamp (by omega)]
      exact clamp_bounds (isAmount_partialPoints hmax hfinite htotal (by omega) hword) hmax

/-! ### Full marks -/

theorem atMost_ofNat {n : Nat} (hn : n < 2 ^ 53) : AtMost (Float.ofNat n).toModel.unpack n :=
  ⟨isAmount_ofNat (by omega), isFinite_ofNat (by omega), (value_ofNat hn).le⟩

/-- However the single steps are rounded, the points for a part of the cases are less than a cent
above the share. -/
theorem atMost_partialPoints {worth : ℚ} (hmax : AtMost maximum.toModel.unpack (total * worth))
    (hlarge : total * worth ≤ 2 ^ 40) (hworth : 1 / 100 ≤ worth) (h : passed < total) :
    AtMost (partialPoints passed total maximum).toModel.unpack (passed * worth + 9 / 1000) := by
  have hpositive : (1 : ℚ) ≤ total := by exact_mod_cast (show 1 ≤ total by omega)
  have hfits : total < 2 ^ 53 := by
    have hcast : (total : ℚ) < 2 ^ 53 := by nlinarith
    exact_mod_cast hcast
  have hshare : passed * worth ≤ 2 ^ 40 := by
    refine le_trans (mul_le_mul_of_nonneg_right ?_ (by linarith)) hlarge
    exact_mod_cast h.le
  have hsmall := tiny_le
  have hhundred : AtMost (Float.ofNat 100).toModel.unpack 100 := atMost_ofNat (by decide)
  have hcase : AtMost (maximum / Float.ofNat total).toModel.unpack (widen worth) := by
    refine hmax.div (atLeastOne_ofNat (by omega) (by omega)) (by linarith) (value_ofNat hfits).ge
      ?_ ?_
    · rw [mul_div_cancel_left₀ _ (by linarith)]
    · rw [widen]
      nlinarith
  have hsum : AtMost (Float.ofNat passed * (maximum / Float.ofNat total)).toModel.unpack
      (passed * worth + 1 / 2 ^ 9) := by
    refine (atMost_ofNat (by omega)).mul hcase ?_ (by linarith)
    have hdust : passed * tiny ≤ 1 / 2 ^ 40 := by
      have hcast : (passed : ℚ) ≤ 2 ^ 53 := by exact_mod_cast (show passed ≤ 2 ^ 53 by omega)
      have hpos := tiny_pos
      nlinarith
    have hsplit : passed * widen worth = passed * worth * (1 + 1 / 2 ^ 52) + passed * tiny := by
      rw [widen]
      ring
    rw [hsplit, widen]
    linarith
  have hcents : AtMost (Float.ofNat passed * (maximum / Float.ofNat total) *
      Float.ofNat 100).toModel.unpack (100 * (passed * worth) + 1 / 4) := by
    refine hsum.mul hhundred ?_ (by linarith)
    rw [widen]
    linarith
  refine (hcents.roundFloat (by linarith)).div (atLeastOne_ofNat (by decide) (by decide))
    (by norm_num) (value_ofNat (by decide)).ge ?_ (by linarith)
  rw [widen]
  linarith

/-- **A part of the cases does not give all points** if a case is worth a cent at least. -/
theorem score_lt_of_worth (hmax : IsAmount maximum) (hfinite : maximum.isFinite = true)
    (hlarge : value maximum.toModel.unpack ≤ 10 ^ 12)
    (hworth : 1 / 100 ≤ value maximum.toModel.unpack / total) (h : passed < total) :
    score passed total maximum < maximum := by
  obtain ⟨worth, hsame⟩ : ∃ worth, value maximum.toModel.unpack / total = worth := ⟨_, rfl⟩
  have hpositive : (0 : ℚ) < total := by exact_mod_cast (show 0 < total by omega)
  have hvalue : value maximum.toModel.unpack = total * worth := by
    rw [← hsame, mul_div_cancel₀ _ hpositive.ne']
  rw [hsame] at hworth
  rw [hvalue] at hlarge
  have hatMost : AtMost maximum.toModel.unpack (total * worth) := ⟨hmax, hfinite, hvalue.le⟩
  have hpart := atMost_partialPoints hatMost (hlarge.trans (by norm_num)) hworth h
  have hless : partialPoints passed total maximum < maximum := by
    refine lt_of_value_lt hpart hatMost ?_
    have hnext : (passed : ℚ) + 1 ≤ total := by exact_mod_cast h
    have hle := hpart.value_le
    rw [hvalue]
    nlinarith
  have hamount : IsAmount (partialPoints passed total maximum) := hpart.sign
  have hlow : less (partialPoints passed total maximum) (0 : Float) = false :=
    decide_eq_false hamount.not_lt_zero
  have hhigh : less maximum (partialPoints passed total maximum) = false :=
    decide_eq_false (hamount.lt_asymm hmax hless)
  rw [score_eq_clamp h, clamp, hlow, hhigh, if_neg Bool.false_ne_true, if_neg Bool.false_ne_true]
  exact hless

theorem score_eq_maximum_iff_of_worth (hmax : IsAmount maximum) (hfinite : maximum.isFinite = true)
    (hlarge : value maximum.toModel.unpack ≤ 10 ^ 12)
    (hworth : 1 / 100 ≤ value maximum.toModel.unpack / total) (h : passed ≤ total) :
    score passed total maximum = maximum ↔ passed = total := by
  have htotal : total ≠ 0 := by
    rintro rfl
    norm_num at hworth
  constructor
  · intro hfull
    by_contra hpart
    have hless : score passed total maximum < maximum :=
      score_lt_of_worth hmax hfinite hlarge hworth (by omega)
    rw [hfull] at hless
    exact hmax.lt_irrefl hless
  · rintro rfl
    rw [score, if_neg htotal, if_pos le_rfl]

end Points

namespace Grader

/-! ### Submissions -/

theorem response_maxPossibleScore (request : SubmissionRequest) (language : Language)
    (graded : Graded) (stamp : Stamp) :
    (response request language graded stamp).evaluation.maxPossibleScore =
      usablePoints request.maxPoints := rfl

theorem response_finalScore (request : SubmissionRequest) (language : Language)
    (graded : Graded) (stamp : Stamp) :
    (response request language graded stamp).evaluation.finalScore =
      Points.score graded.summary.passedCount request.testCases.length
        (usablePoints request.maxPoints) := rfl

theorem passedCount_judge_le (grader : Grader) (activity : Activity)
    (request : SubmissionRequest) :
    (grader.judge activity request).1.summary.passedCount ≤ request.testCases.length := by
  obtain ⟨hconsistent, -⟩ := grader.judge_consistent activity request
  rw [hconsistent.passedCount, ← hconsistent.length]
  exact List.countP_le_length

/-- **Scores are fair.** Over the rational numbers the points of a question are shared out fairly.
In every graded submission the points are not negative, so that they can be an upper bound, and the
final score lies between zero and them. A list of cases has fewer than 2 ^ 64 of them. -/
theorem submit_scored_fairly (grader : Grader) (stamp : Stamp) (session : Session)
    (request : SubmissionRequest) {supported : Language}
    (hlanguage : Language.ofTag? request.language = some supported)
    (hword : request.testCases.length < 2 ^ 64) :
    (∀ (maximum : ℚ) (total : ℕ), 0 ≤ maximum → 0 < total → Points.Fair maximum total) ∧
      (∀ (maximum : ℚ) (passed : ℕ), Points.score passed 0 maximum = 0) ∧
      0 ≤ usablePoints request.maxPoints ∧
      ∃ response, (grader.submit stamp session request).1 = .ok response ∧
        response.evaluation.maxPossibleScore = usablePoints request.maxPoints ∧
        0 ≤ response.evaluation.finalScore ∧
        response.evaluation.finalScore ≤ response.evaluation.maxPossibleScore := by
  have hsupported : language request.language = .ok supported := by rw [language, hlanguage]
  have hsubmit := submit_eq_ok grader stamp session hsupported
  have hmax := isAmount_usablePoints request.maxPoints
  have hbounds := Points.score_bounds (grader.judge session.activity request).1.summary.passedCount
    hmax (isFinite_usablePoints request.maxPoints) hword
  exact ⟨fun _ _ hnonneg htotal => Points.fair hnonneg htotal, fun _ _ => rfl, hmax.zero_le, _,
    congrArg Prod.fst hsubmit, rfl, hbounds⟩

/-- The case that is passed of two, for points that cannot be given. -/
def pointlessRequest : SubmissionRequest :=
  { sampleRequest with maxPoints := -3 }

theorem submit_pointlessRequest :
    Language.ofTag? pointlessRequest.language = some .python ∧
      pointlessRequest.testCases.length < 2 ^ 64 ∧
      |Points.score 2 3 (10 : ℚ) - Points.share 2 3 10| ≤ 1 / 200 ∧
      usablePoints pointlessRequest.maxPoints = 0 ∧
      ∃ response,
        (Grader.submit ⟨{}, interpreterRunner⟩ sampleStamp .empty pointlessRequest).1
          = .ok response ∧
        0 ≤ response.evaluation.finalScore ∧
        response.evaluation.finalScore ≤ response.evaluation.maxPossibleScore := by
  have hlanguage : Language.ofTag? pointlessRequest.language = some .python := by decide +kernel
  have hword : pointlessRequest.testCases.length < 2 ^ 64 := by decide
  obtain ⟨hfair, -, -, response, hok, -, hbounds⟩ := submit_scored_fairly ⟨{}, interpreterRunner⟩
    sampleStamp .empty pointlessRequest hlanguage hword
  exact ⟨hlanguage, hword, (hfair 10 3 (by norm_num) (by norm_num)).near 2 (by norm_num),
    by decide +kernel, response, hok, hbounds⟩

/-- **When full marks are given for a part of the cases, and when they are not.** Over the rational
numbers exactly if the share is within half a cent of the maximum, rounded up to whole cents, so
never where a case is worth more than half a cent. In graded submissions of at most a million
million points never where a case is worth a cent. -/
theorem submit_full_marks (grader : Grader) (stamp : Stamp) (session : Session)
    (request : SubmissionRequest) {supported : Language}
    (hlanguage : Language.ofTag? request.language = some supported) :
    (∀ (maximum : ℚ) (passed total : ℕ), 0 < maximum → passed < total →
      (Points.score passed total maximum = maximum ↔
        (⌈100 * maximum⌉ : ℚ) / 100 - 1 / 200 ≤ Points.share passed total maximum) ∧
      (1 / 200 < maximum / total → Points.score passed total maximum < maximum)) ∧
      ∃ response, (grader.submit stamp session request).1 = .ok response ∧
        (value response.evaluation.maxPossibleScore.toModel.unpack ≤ 10 ^ 12 →
          1 / 100 ≤ value response.evaluation.maxPossibleScore.toModel.unpack /
            response.evaluation.totalCount →
          (response.evaluation.finalScore = response.evaluation.maxPossibleScore ↔
            response.evaluation.passedCount = response.evaluation.totalCount)) := by
  have hsupported : language request.language = .ok supported := by rw [language, hlanguage]
  have hsubmit := submit_eq_ok grader stamp session hsupported
  refine ⟨fun maximum passed total hmax h =>
    ⟨Points.score_eq_maximum_iff hmax h, Points.score_lt_maximum hmax h⟩,
    _, congrArg Prod.fst hsubmit, fun hlarge hworth => ?_⟩
  exact Points.score_eq_maximum_iff_of_worth (isAmount_usablePoints request.maxPoints)
    (isFinite_usablePoints request.maxPoints) hlarge hworth
    (grader.passedCount_judge_le session.activity request)

theorem submit_full_marks_sampleRequest :
    Language.ofTag? sampleRequest.language = some .python ∧
      Points.score 1 2 (10 : ℚ) < 10 ∧
      ∃ response,
        (Grader.submit ⟨{}, interpreterRunner⟩ sampleStamp .empty sampleRequest).1
          = .ok response ∧
        value response.evaluation.maxPossibleScore.toModel.unpack = 10 ∧
        response.evaluation.totalCount = 2 ∧
        (response.evaluation.finalScore = response.evaluation.maxPossibleScore ↔
          response.evaluation.passedCount = 2) := by
  have hlanguage : Language.ofTag? sampleRequest.language = some .python := by decide +kernel
  have hsupported : language sampleRequest.language = .ok .python := by rw [language, hlanguage]
  obtain ⟨hrational, response, hok, hgraded⟩ := submit_full_marks ⟨{}, interpreterRunner⟩
    sampleStamp .empty sampleRequest hlanguage
  have hsubmit : Grader.submit ⟨{}, interpreterRunner⟩ sampleStamp .empty sampleRequest = _ :=
    submit_eq_ok _ sampleStamp .empty hsupported
  have hresponse := Except.ok.inj (hok.symm.trans (congrArg Prod.fst hsubmit))
  have htotal : response.evaluation.totalCount = 2 := by
    rw [hresponse]
    rfl
  have hpoints : response.evaluation.maxPossibleScore = Float.ofNat 10 := by
    rw [hresponse, response_maxPossibleScore]
    decide +kernel
  have hvalue : value response.evaluation.maxPossibleScore.toModel.unpack = 10 := by
    rw [hpoints]
    exact value_ofNat (by decide)
  have hfull := hgraded (by rw [hvalue]; norm_num) (by rw [hvalue, htotal]; norm_num)
  rw [htotal] at hfull
  exact ⟨hlanguage, (hrational 10 1 2 (by norm_num) (by norm_num)).2 (by norm_num), response, hok,
    hvalue, htotal, hfull⟩

/-- Points of which a cent is all there is. -/
def centRequest : SubmissionRequest :=
  { sampleRequest with maxPoints := 0.01 }

/-- **A part of the cases can give all points**: by rounding up, of many cases or of few points,
and where the points are so many that a part of them has no finite number of cents. -/
theorem full_marks_for_part :
    Points.score 249 250 (1 : ℚ) = 1 ∧ Points.score 249 250 (1 : Float) = 1 ∧
      Points.score 1 2 (1.7e308 : Float) = 1.7e308 ∧
      ∃ response,
        (Grader.submit ⟨{}, interpreterRunner⟩ sampleStamp .empty centRequest).1 = .ok response ∧
        response.evaluation.passedCount = 1 ∧ response.evaluation.totalCount = 2 ∧
        0 < response.evaluation.maxPossibleScore ∧
        response.evaluation.finalScore = response.evaluation.maxPossibleScore := by
  have hlanguage : Language.ofTag? centRequest.language = some .python := by decide +kernel
  have hsupported : language centRequest.language = .ok .python := by rw [language, hlanguage]
  have hpassed : (judge ⟨{}, interpreterRunner⟩ Session.empty.activity
      centRequest).1.summary.passedCount = 1 := by decide +kernel
  have hpoints : usablePoints centRequest.maxPoints = 0.01 := by decide +kernel
  have hsubmit : Grader.submit ⟨{}, interpreterRunner⟩ sampleStamp .empty centRequest = _ :=
    submit_eq_ok _ sampleStamp .empty hsupported
  refine ⟨?_, ?_, ?_, _, congrArg Prod.fst hsubmit, hpassed, rfl, ?_, ?_⟩
  · decide +kernel
  · decide +kernel
  · decide +kernel
  · rw [response_maxPossibleScore, hpoints]
    decide +kernel
  · rw [response_finalScore, response_maxPossibleScore, hpassed, hpoints]
    decide +kernel

end Grader

end Autograder
