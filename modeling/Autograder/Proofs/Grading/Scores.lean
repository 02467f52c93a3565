import Autograder.Grading.Score
import Mathlib.Algebra.Order.Round
import Mathlib.Data.Rat.Floor
import Mathlib.Tactic.FieldSimp
import Mathlib.Tactic.Linarith

/-!
# Scores over the rational numbers

The rule for scores, read over the rational numbers, where nothing is rounded but what it says is.
Unless all cases are passed, a score is the share of the points, rounded to cents and cut off at
the maximum; if they are, it is the maximum itself, which need not be a whole number of cents. So
there is a jump at the last case, and all that is said here of scores has these two cases.

What the rule promises and does not keep is that a part of the cases never gives all points:
rounding up can reach the maximum. It happens exactly if the share is within half a cent of it.

## Main definitions

* `Points.share` — the share of the points for the cases that are passed
* `Points.Fair` — what is expected of the scores for a question

## Main results

* `Points.score_eq_min` — the score in closed form
* `Points.fair` — bounds, order and distance from the share
* `Points.score_eq_maximum_iff`, `Points.score_lt_maximum` — full marks for a part of the cases
-/

namespace Autograder

namespace Points

variable {maximum : ℚ} {passed passed' total : ℕ}

/-- The share of the points for the cases that are passed. -/
def share (passed total : ℕ) (maximum : ℚ) : ℚ :=
  passed * maximum / total

theorem roundRat_of_nonneg {x : ℚ} (hx : 0 ≤ x) : roundRat x = ⌊x + 1 / 2⌋ := by
  rw [roundRat, if_pos hx]
  rfl

/-- Cents, for what is not negative. -/
theorem toCents_of_nonneg {x : ℚ} (hx : 0 ≤ x) :
    toCents x = (⌊100 * x + 1 / 2⌋ : ℚ) / 100 := by
  change roundRat (x * 100) / 100 = _
  rw [roundRat_of_nonneg (by positivity), mul_comm]

theorem clamp_of_nonneg {x : ℚ} (hx : 0 ≤ x) (high : ℚ) : clamp x 0 high = min x high := by
  have hlow : less x (0 : ℚ) = false := decide_eq_false (not_lt.mpr hx)
  rw [clamp, hlow, if_neg Bool.false_ne_true]
  by_cases hhigh : high < x
  · have hless : less high x = true := decide_eq_true hhigh
    rw [if_pos hless, min_eq_right hhigh.le]
  · have hless : less high x = false := decide_eq_false hhigh
    rw [hless, if_neg Bool.false_ne_true, min_eq_left (not_lt.mp hhigh)]

theorem share_nonneg (passed total : ℕ) (hmax : 0 ≤ maximum) : 0 ≤ share passed total maximum := by
  rw [share]
  positivity

theorem cents_nonneg (hmax : 0 ≤ maximum) :
    0 ≤ (⌊100 * share passed total maximum + 1 / 2⌋ : ℚ) / 100 := by
  have hnonneg := share_nonneg passed total hmax
  have hfloor : 0 ≤ ⌊100 * share passed total maximum + 1 / 2⌋ :=
    Int.floor_nonneg.mpr (by positivity)
  positivity

/-- **The score in closed form**, unless all cases are passed. -/
theorem score_eq_min (hmax : 0 ≤ maximum) (h : passed < total) :
    score passed total maximum =
      min ((⌊100 * share passed total maximum + 1 / 2⌋ : ℚ) / 100) maximum := by
  have hshare : mul (ofNat passed) (div maximum (ofNat total)) = share passed total maximum := by
    change ((passed : ℤ) : ℚ) * (maximum / ((total : ℤ) : ℚ)) = _
    rw [Int.cast_natCast, Int.cast_natCast, share, mul_div_assoc]
  have hnonneg := share_nonneg passed total hmax
  rw [score, if_neg (by omega), if_neg (by omega), hshare, toCents_of_nonneg hnonneg]
  exact clamp_of_nonneg (cents_nonneg hmax) maximum

/-! ### Bounds, order, distance -/

theorem share_le (hmax : 0 ≤ maximum) (h : passed ≤ total) :
    share passed total maximum ≤ maximum := by
  rw [share]
  refine div_le_of_le_mul₀ (by positivity) hmax ?_
  rw [mul_comm]
  exact mul_le_mul_of_nonneg_left (by exact_mod_cast h) hmax

theorem share_mono (hmax : 0 ≤ maximum) (h : passed ≤ passed') :
    share passed total maximum ≤ share passed' total maximum := by
  rw [share, share]
  gcongr

theorem score_all (htotal : 0 < total) : score total total maximum = maximum := by
  rw [score, if_neg (by omega), if_pos le_rfl]

theorem score_le (hmax : 0 ≤ maximum) (h : passed ≤ total) :
    score passed total maximum ≤ maximum := by
  rcases Nat.eq_zero_or_pos total with rfl | htotal
  · exact hmax
  · rcases h.lt_or_eq with hlt | rfl
    · rw [score_eq_min hmax hlt]
      exact min_le_right _ _
    · exact (score_all htotal).le

theorem score_nonneg (hmax : 0 ≤ maximum) (h : passed ≤ total) :
    0 ≤ score passed total maximum := by
  rcases Nat.eq_zero_or_pos total with rfl | htotal
  · exact le_rfl
  · rcases h.lt_or_eq with hlt | rfl
    · rw [score_eq_min hmax hlt]
      exact le_min (cents_nonneg hmax) hmax
    · rwa [score_all htotal]

theorem score_none (hmax : 0 ≤ maximum) : score 0 total maximum = 0 := by
  rcases Nat.eq_zero_or_pos total with rfl | htotal
  · rfl
  · have hfloor : ⌊(100 : ℚ) * share 0 total maximum + 1 / 2⌋ = 0 := by
      rw [share, Int.floor_eq_zero_iff]
      norm_num
    rw [score_eq_min hmax htotal, hfloor]
    simpa using hmax

/-- **More cases, no fewer points.** The last case lifts the score to the maximum, and no rounded
share is above that. -/
theorem score_mono (hmax : 0 ≤ maximum) (h : passed ≤ passed') (h' : passed' ≤ total) :
    score passed total maximum ≤ score passed' total maximum := by
  rcases h'.lt_or_eq with hlt | rfl
  · rw [score_eq_min hmax (by omega), score_eq_min hmax hlt]
    have hshare : share passed total maximum ≤ share passed' total maximum := share_mono hmax h
    gcongr
  · rcases Nat.eq_zero_or_pos passed' with rfl | hpos
    · exact le_rfl
    · rw [score_all hpos]
      exact score_le hmax h

/-- Rounding to cents changes a share by half a cent at most. -/
theorem abs_cents_sub_le (x : ℚ) : |(⌊100 * x + 1 / 2⌋ : ℚ) / 100 - x| ≤ 1 / 200 := by
  have hlow := Int.sub_one_lt_floor (100 * x + 1 / 2)
  have hhigh := Int.floor_le (100 * x + 1 / 2)
  rw [abs_le]
  constructor <;> linarith

/-- **The score is the share to half a cent**, also where the maximum cuts it off. -/
theorem abs_score_sub_share_le (hmax : 0 ≤ maximum) (htotal : 0 < total) (h : passed ≤ total) :
    |score passed total maximum - share passed total maximum| ≤ 1 / 200 := by
  rcases h.lt_or_eq with hlt | rfl
  · have hshare : share passed total maximum ≤ maximum := share_le hmax h
    obtain ⟨hlow, hhigh⟩ := abs_le.mp (abs_cents_sub_le (share passed total maximum))
    rw [score_eq_min hmax hlt, abs_le]
    constructor
    · have hmin : share passed total maximum - 1 / 200 ≤
          min ((⌊100 * share passed total maximum + 1 / 2⌋ : ℚ) / 100) maximum :=
        le_min (by linarith) (by linarith)
      linarith
    · have hmin := min_le_left ((⌊100 * share passed total maximum + 1 / 2⌋ : ℚ) / 100) maximum
      linarith
  · have hwhole : share passed passed maximum = maximum := by
      rw [share]
      field_simp
    rw [score_all htotal, hwhole, sub_self, abs_zero]
    norm_num

/-- The points of a question are shared out fairly. -/
structure Fair (maximum : ℚ) (total : ℕ) : Prop where
  none : score 0 total maximum = 0
  all : score total total maximum = maximum
  bounds : ∀ passed ≤ total, 0 ≤ score passed total maximum ∧ score passed total maximum ≤ maximum
  monotone : ∀ passed passed', passed ≤ passed' → passed' ≤ total →
    score passed total maximum ≤ score passed' total maximum
  /-- No score is more than half a cent away from the share. -/
  near : ∀ passed ≤ total, |score passed total maximum - share passed total maximum| ≤ 1 / 200

theorem fair (hmax : 0 ≤ maximum) (htotal : 0 < total) : Fair maximum total where
  none := score_none hmax
  all := score_all htotal
  bounds _ h := ⟨score_nonneg hmax h, score_le hmax h⟩
  monotone _ _ := score_mono hmax
  near _ := abs_score_sub_share_le hmax htotal

/-! ### Full marks -/

/-- **When a part of the cases gives all points.** The share has to be within half a cent of the
maximum, rounded up to whole cents. -/
theorem score_eq_maximum_iff (hmax : 0 < maximum) (h : passed < total) :
    score passed total maximum = maximum ↔
      (⌈100 * maximum⌉ : ℚ) / 100 - 1 / 200 ≤ share passed total maximum := by
  rw [score_eq_min hmax.le h, min_eq_right_iff, le_div_iff₀ (by norm_num), mul_comm, ← Int.ceil_le,
    Int.le_floor]
  constructor <;> intro hle <;> linarith

/-- A share falls short of the maximum by what one case is worth at least. -/
theorem share_add_worth_le (hmax : 0 ≤ maximum) (h : passed < total) :
    share passed total maximum + maximum / total ≤ maximum := by
  have hshare : share passed total maximum + maximum / total =
      share (passed + 1) total maximum := by
    rw [share, share]
    push_cast
    ring
  rw [hshare]
  exact share_le hmax h

/-- **Full marks only when every case is passed**, if a case is worth more than half a cent. -/
theorem score_lt_maximum (hmax : 0 < maximum) (h : passed < total)
    (hworth : 1 / 200 < maximum / total) : score passed total maximum < maximum := by
  refine (score_le hmax.le h.le).lt_of_ne fun hfull => ?_
  rw [score_eq_maximum_iff hmax h] at hfull
  have hceil := Int.le_ceil (100 * maximum)
  have hshort := share_add_worth_le hmax.le h
  linarith

end Points

end Autograder
