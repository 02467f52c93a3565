import Autograder.Guest.Arithmetic
import Mathlib.Algebra.Group.Int.Defs
import Mathlib.Algebra.Group.Nat.Defs

/-!
# Words and the integers they hold

A word is made from every integer in its range and from no other. The two equivalences below are
all that proofs about integers need of `word?`.

## Main results

* `word?_eq_some_iff`, `word?_eq_none_iff` — which integers are words
-/

namespace Autograder.Guest

/-- The range of words. -/
theorem toInt_range (i : Int64) : -2 ^ 63 ≤ i.toInt ∧ i.toInt < 2 ^ 63 :=
  ⟨Int64.le_toInt i, Int64.toInt_lt i⟩

theorem toInt_minValue : Int64.minValue.toInt = -2 ^ 63 := by
  decide

theorem toInt_maxValue : Int64.maxValue.toInt = 2 ^ 63 - 1 := by
  decide

theorem toInt_neg_one : (-1 : Int64).toInt = -1 := by
  decide

theorem toInt_ne {x y : Int64} (h : x ≠ y) : x.toInt ≠ y.toInt :=
  fun heq => h (Int64.toInt_inj.mp heq)

theorem toInt_ne_zero {x : Int64} (h : x ≠ 0) : x.toInt ≠ 0 :=
  toInt_ne h

theorem word?_eq_some_iff {n : Int} {w : Int64} : word? n = some w ↔ w.toInt = n := by
  have hmin := toInt_minValue
  have hmax := toInt_maxValue
  rw [word?]
  constructor
  · intro h
    split at h
    · rename_i hrange
      simp only [Bool.and_eq_true, decide_eq_true_eq] at hrange
      rw [← Option.some.inj h, Int64.toInt_ofInt_of_le (by omega) (by omega)]
    · cases h
  · rintro rfl
    rw [if_pos (by simpa using ⟨Int64.minValue_le_toInt w, Int64.toInt_le w⟩), Int64.ofInt_toInt]

theorem word?_eq_none_iff {n : Int} : word? n = none ↔ n < -2 ^ 63 ∨ 2 ^ 63 ≤ n := by
  have hmin := toInt_minValue
  have hmax := toInt_maxValue
  rw [word?]
  split
  · rename_i hrange
    simp only [Bool.and_eq_true, decide_eq_true_eq] at hrange
    exact ⟨nofun, by omega⟩
  · rename_i hrange
    simp only [Bool.and_eq_true, decide_eq_true_eq] at hrange
    exact ⟨fun _ => by omega, fun _ => rfl⟩

theorem exists_word?_eq_some {n : Int} (hlow : -2 ^ 63 ≤ n) (hhigh : n < 2 ^ 63) :
    ∃ w, word? n = some w := by
  rw [← Option.isSome_iff_exists, Option.isSome_iff_ne_none, Ne, word?_eq_none_iff]
  omega

/-- A word holds every integer that is a word already. -/
theorem word?_toInt (i : Int64) : word? i.toInt = some i :=
  word?_eq_some_iff.mpr rfl

end Autograder.Guest
