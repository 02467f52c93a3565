import Autograder.Proofs.Binary64.Parts

/-!
# Rounding

A result with more places than a mantissa has is shifted to the right and rounded to the nearest
mantissa; if that has got one place too long, it is shifted once more. Two things are needed of
this: how far rounding can lead, which decides whether the result is finite, and where a number
ends up that has places enough to fill a mantissa.

## Main definitions

* `excess` — how many places of a mantissa do not fit
* `roundedTo` — the mantissa rounded to those that do

## Main results

* `roundedTo_le` — rounding does not get past a bound that needs none
* `inRange_roundWithAccuracy` — what is at most the largest finite number stays finite
* `exists_unpack_pack` — a number that is not too small keeps a mantissa of full length
-/

namespace Autograder.Binary64

open Float.Model (Format totalExponent)
open Float.Model.UnpackedFloat
open Float.Model.Format (binary64)

theorem mantissa_shiftRight (em : ExtendedMantissa) (places : Nat) :
    (em >>> places).mantissa = em.mantissa / 2 ^ places := by
  induction places with
  | zero => exact (Nat.div_one _).symm
  | succ places ih =>
    change (em >>> places).mantissa / 2 = _
    rw [ih, Nat.div_div_eq_div_mul, Nat.pow_succ]

theorem roundBit_shiftRight_succ (em : ExtendedMantissa) (places : Nat) :
    (em >>> (places + 1)).roundBit = (em.mantissa / 2 ^ places % 2 != 0) := by
  change ((em >>> places).mantissa % 2 != 0) = _
  rw [mantissa_shiftRight]

theorem le_roundedMantissa (em : ExtendedMantissa) : em.mantissa ≤ em.roundedMantissa := by
  obtain ⟨m, roundBit, stickyBit⟩ := em
  cases roundBit <;> cases stickyBit <;>
    simp [ExtendedMantissa.roundedMantissa, ExtendedMantissa.accuracy, Accuracy.roundToNearestEven]

/-- A mantissa is rounded up only if the place behind it is set. -/
theorem roundedMantissa_le (em : ExtendedMantissa) :
    em.roundedMantissa ≤ em.mantissa + em.roundBit.toNat := by
  obtain ⟨m, roundBit, stickyBit⟩ := em
  cases roundBit <;> cases stickyBit <;>
    simp [ExtendedMantissa.roundedMantissa, ExtendedMantissa.accuracy,
      Accuracy.roundToNearestEven]
  omega

theorem mantissa_ofMantissaAndAccuracy (m : Nat) (acc : Accuracy) :
    (ExtendedMantissa.ofMantissaAndAccuracy m acc).mantissa = m := by
  cases acc with
  | exact => rfl
  | inexact o => cases o <;> rfl

/-- How many places of the mantissa do not fit. -/
def excess (m : Nat) (e : Int) : Nat :=
  (max ((m.log2 : Int) - 52) (-1074 - e)).toNat

/-- The mantissa, rounded to the places that fit. -/
def roundedTo (m : Nat) (e : Int) (acc : Accuracy) : Nat :=
  (ExtendedMantissa.ofMantissaAndAccuracy m acc >>> excess m e).roundedMantissa

theorem shiftToTargetExponent_eq (m : Nat) (e : Int) (acc : Accuracy) :
    shiftToTargetExponent binary64 m e acc =
      (ExtendedMantissa.ofMantissaAndAccuracy m acc >>> excess m e, e + excess m e) := by
  have hshift : (binary64.targetExponent (totalExponent m e) - e).toNat = excess m e := by
    rw [Format.targetExponent, totalExponent, excess]
    change (max ((m.log2 : Int) + 1 + e - 53) (-1074) - e).toNat = _
    omega
  rw [shiftToTargetExponent, shiftToExponent, hshift]

/-- Rounding is done in two steps, the second of which puts back into shape a mantissa that has got
one place too long. -/
theorem roundWithAccuracy_eq (s : Sign) (m : Nat) (e : Int) (acc : Accuracy) :
    let r := roundedTo m e acc
    let e' := e + excess m e
    roundWithAccuracy binary64 s m e acc =
      if h : r / 2 ^ excess r e' = 0 then .zero s
      else .finite s (r / 2 ^ excess r e') (e' + excess r e') (Nat.pos_of_ne_zero h) := by
  intro r e'
  simp only [roundWithAccuracy, shiftToTargetExponent_eq, mantissa_shiftRight,
    mantissa_ofMantissaAndAccuracy]
  rfl

theorem hasSign_roundWithAccuracy (s : Sign) (m : Nat) (e : Int) (acc : Accuracy) :
    HasSign s (roundWithAccuracy binary64 s m e acc) := by
  rw [roundWithAccuracy_eq]
  split <;> rfl

/-- Rounding goes down to the places that fit, or one above. -/
theorem le_roundedTo (m : Nat) (e : Int) (acc : Accuracy) :
    m / 2 ^ excess m e ≤ roundedTo m e acc := by
  have h := le_roundedMantissa (ExtendedMantissa.ofMantissaAndAccuracy m acc >>> excess m e)
  rwa [mantissa_shiftRight, mantissa_ofMantissaAndAccuracy] at h

theorem roundedTo_le_succ (m : Nat) (e : Int) (acc : Accuracy) :
    roundedTo m e acc ≤ m / 2 ^ excess m e + 1 := by
  have h := roundedMantissa_le (ExtendedMantissa.ofMantissaAndAccuracy m acc >>> excess m e)
  rw [mantissa_shiftRight, mantissa_ofMantissaAndAccuracy] at h
  exact h.trans (Nat.add_le_add_left (Bool.toNat_le _) _)

/-- What is a whole number of the places that fit is not rounded up. -/
theorem roundedTo_le_of_dvd {m n places : Nat} {e : Int} {acc : Accuracy}
    (hplaces : excess m e = places + 1) (hm : m = n * 2 ^ (places + 1)) :
    roundedTo m e acc ≤ n := by
  have h := roundedMantissa_le (ExtendedMantissa.ofMantissaAndAccuracy m acc >>> (places + 1))
  rw [mantissa_shiftRight, roundBit_shiftRight_succ, mantissa_ofMantissaAndAccuracy] at h
  have hwhole : m / 2 ^ (places + 1) = n := by
    rw [hm, Nat.mul_div_cancel _ (Nat.two_pow_pos _)]
  have heven : m / 2 ^ places % 2 = 0 := by
    rw [hm, Nat.pow_succ, ← Nat.mul_assoc, Nat.mul_right_comm,
      Nat.mul_div_cancel _ (Nat.two_pow_pos _)]
    omega
  rw [hwhole, heven] at h
  rw [roundedTo, hplaces]
  simpa using h

/-- Rounding does not get past a bound that is a whole number of the places that fit. -/
theorem roundedTo_le {m n : Nat} {e : Int} {acc : Accuracy} (hm : m ≤ n * 2 ^ excess m e)
    (hn : excess m e = 0 → m < n) : roundedTo m e acc ≤ n := by
  have hfloor : m / 2 ^ excess m e ≤ n :=
    (Nat.div_le_iff_le_mul_add_pred (Nat.two_pow_pos _)).mpr (by rw [Nat.mul_comm]; omega)
  rcases Nat.lt_or_eq_of_le hfloor with hlt | heq
  · have := roundedTo_le_succ m e acc
    omega
  · have hexact : m = n * 2 ^ excess m e :=
      Nat.le_antisymm hm (heq ▸ Nat.div_mul_le_self m _)
    cases hplaces : excess m e with
    | zero =>
      have := hn hplaces
      rw [hplaces, Nat.pow_zero, Nat.mul_one] at hexact
      omega
    | succ places => exact roundedTo_le_of_dvd hplaces (hplaces ▸ hexact)

theorem log2_lt_of_lt_two_pow {m places : Nat} (h : m < 2 ^ places) (hplaces : 0 < places) :
    m.log2 < places := by
  by_cases hm : m = 0
  · rwa [hm]
  · exact (Nat.log2_lt hm).mpr h

theorem excess_le {m places : Nat} {e : Int} (hm : m < 2 ^ (53 + places))
    (he : -1074 ≤ e + places) : excess m e ≤ places := by
  have hlog : m.log2 < 53 + places := log2_lt_of_lt_two_pow hm (by omega)
  rw [excess]
  omega

/-- **What is at most the largest finite number** is rounded to a finite number. -/
theorem inRange_roundWithAccuracy (s : Sign) {m places : Nat} {e : Int} (acc : Accuracy)
    (he : e + places = 970) (hm : m ≤ (2 ^ 53 - 1) * 2 ^ (places + 1)) :
    InRange (roundWithAccuracy binary64 s m e acc) := by
  have hlong : ∀ k n : Nat, n ≤ (2 ^ 53 - 1) * 2 ^ k → n < 2 ^ (53 + k) := by
    intro k n hn
    have hpos := Nat.two_pow_pos k
    rw [Nat.pow_add]
    omega
  have hfirst : excess m e ≤ places + 1 := excess_le (hlong _ m hm) (by omega)
  obtain ⟨left, hleft⟩ := Nat.exists_eq_add_of_le hfirst
  have hrounded : roundedTo m e acc ≤ (2 ^ 53 - 1) * 2 ^ left := by
    refine roundedTo_le ?_ fun hnone => ?_
    · rw [Nat.mul_assoc, ← Nat.pow_add, Nat.add_comm left, ← hleft]
      exact hm
    · have hshort : m.log2 ≤ 52 := by
        rw [excess] at hnone
        omega
      have hlt : m < 2 ^ 53 :=
        Nat.lt_of_lt_of_le Nat.lt_log2_self (Nat.pow_le_pow_right (by decide) (by omega))
      obtain rfl : left = places + 1 := by omega
      rw [Nat.pow_succ]
      have hpos := Nat.two_pow_pos places
      omega
  have hsecond : excess (roundedTo m e acc) (e + excess m e) ≤ left :=
    excess_le (hlong _ _ hrounded) (by omega)
  rw [roundWithAccuracy_eq]
  split
  · trivial
  · change e + excess m e + excess (roundedTo m e acc) (e + excess m e) ≤ 971
    omega

/-- **A number that is not too small** is rounded to one with a mantissa of full length. -/
theorem exists_roundWithAccuracy (s : Sign) {m : Nat} {e : Int} (acc : Accuracy)
    (hm : 2 ^ 52 ≤ m) (he : -1074 ≤ (m.log2 : Int) - 52 + e) :
    ∃ m' e' hm', roundWithAccuracy binary64 s m e acc = .finite s m' e' hm' ∧ 2 ^ 52 ≤ m' ∧
      m' < 2 ^ 53 ∧ (m.log2 : Int) - 52 + e ≤ e' ∧ e' ≤ m.log2 - 51 + e := by
  have hlog : 52 ≤ m.log2 := (Nat.le_log2 (by omega)).mpr hm
  obtain ⟨places, hplaces⟩ := Nat.exists_eq_add_of_le hlog
  have hfirst : excess m e = places := by
    rw [excess]
    omega
  have hfloor : 2 ^ 52 ≤ m / 2 ^ places ∧ m / 2 ^ places < 2 ^ 53 := by
    rw [Nat.le_div_iff_mul_le (Nat.two_pow_pos _), Nat.div_lt_iff_lt_mul (Nat.two_pow_pos _),
      ← Nat.pow_add, ← Nat.pow_add, ← hplaces]
    refine ⟨Nat.log2_self_le (by omega), ?_⟩
    rw [show 53 + places = m.log2 + 1 by omega]
    exact Nat.lt_log2_self
  have hlow := le_roundedTo m e acc
  have hhigh := roundedTo_le_succ m e acc
  rw [hfirst] at hlow hhigh
  rw [roundWithAccuracy_eq, hfirst]
  by_cases hfull : roundedTo m e acc = 2 ^ 53
  · have hsecond : excess (roundedTo m e acc) (e + places) = 1 := by
      rw [excess, hfull, Nat.log2_two_pow]
      omega
    refine ⟨2 ^ 52, e + places + 1, by decide, ?_, by decide, by decide, by omega, by omega⟩
    rw [hsecond, hfull]
    rfl
  · have hsecond : excess (roundedTo m e acc) (e + places) = 0 := by
      have hlog2 : (roundedTo m e acc).log2 = 52 :=
        (Nat.log2_eq_iff (by omega)).mpr ⟨by omega, by omega⟩
      rw [excess, hlog2]
      omega
    refine ⟨roundedTo m e acc, e + places, by omega, ?_, by omega, by omega, by omega, by omega⟩
    simp only [hsecond, Nat.pow_zero, Nat.div_one, Int.natCast_zero, Int.add_zero]
    rw [dif_neg (by omega)]


/-- The rounded number is kept as it is. -/
theorem exists_unpack_pack (s : Sign) {m : Nat} {e : Int} (acc : Accuracy) (hm : 2 ^ 52 ≤ m)
    (he : -1074 ≤ (m.log2 : Int) - 52 + e) (he' : (m.log2 : Int) - 51 + e ≤ 971) :
    ∃ m' e' hm', unpack binary64 (pack binary64 (roundWithAccuracy binary64 s m e acc)) =
        .finite s m' e' hm' ∧ 2 ^ 52 ≤ m' ∧ m' < 2 ^ 53 ∧
      (m.log2 : Int) - 52 + e ≤ e' ∧ e' ≤ m.log2 - 51 + e := by
  obtain ⟨m', e', hm', heq, hlow, hhigh, hle, hle'⟩ := exists_roundWithAccuracy s acc hm he
  refine ⟨m', e', hm', ?_, hlow, hhigh, hle, hle'⟩
  rw [heq]
  exact unpack_pack_normal s hlow hhigh (by omega) (by omega)

end Autograder.Binary64
