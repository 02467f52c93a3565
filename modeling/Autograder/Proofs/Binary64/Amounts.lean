import Autograder.Grading.Score
import Autograder.Proofs.Binary64.Order
import Autograder.Proofs.Binary64.Rounding

/-!
# Amounts

Floating-point numbers with a plus sign: zero, finite numbers and infinity. They are ordered
without exception, so that a comparison that fails means the opposite one holds, which is not so
for all floating-point numbers. Arithmetic on amounts gives amounts unless zero and infinity meet
in a product. A finite amount that is divided by a count never gets infinite, and that is what
keeps the two apart.

## Main definitions

* `IsAmount` — a number, finite or not, with a plus sign
* `AtLeastOne` — a finite number that is at least one

## Main results

* `atLeastOne_ofNat` — the counts
* `IsAmount.mul`, `IsAmount.mul_of_isFinite`, `IsAmount.div`, `IsAmount.roundFloat` — arithmetic
* `isFinite_div` — a finite amount divided by a count
* `IsAmount.zero_le`, `IsAmount.le_of_not_lt`, `IsAmount.lt_asymm` — the order
-/

namespace Autograder.Binary64

open Float.Model (UnpackedFloat Format totalExponent)
open Float.Model.UnpackedFloat
open Float.Model.Format (binary64)

/-- A number, finite or not, with a plus sign. -/
def IsAmount (x : Float) : Prop :=
  HasSign .positive x.toModel.unpack

/-- A finite number that is at least one. -/
def AtLeastOne (x : Float) : Prop :=
  ∃ m e hm, x.toModel.unpack = .finite .positive m e hm ∧ 2 ^ 52 ≤ m ∧ -52 ≤ e

theorem unpack_mul (x y : Float) : (x * y).toModel.unpack =
    unpack binary64 (pack binary64 (mul binary64 x.toModel.unpack y.toModel.unpack)) := rfl

theorem unpack_div (x y : Float) : (x / y).toModel.unpack =
    unpack binary64 (pack binary64 (div binary64 x.toModel.unpack y.toModel.unpack)) := rfl

theorem isFinite_eq (x : Float) : x.isFinite = x.toModel.unpack.isFinite := rfl

theorem AtLeastOne.isAmount {x : Float} (h : AtLeastOne x) : IsAmount x := by
  obtain ⟨m, e, hm, heq, -⟩ := h
  rw [IsAmount, heq]
  rfl

theorem AtLeastOne.isFinite {x : Float} (h : AtLeastOne x) : x.isFinite = true := by
  obtain ⟨m, e, hm, heq, -⟩ := h
  rw [isFinite_eq, heq]
  rfl

/-! ### Counts -/

theorem log2_mul_two_pow {m : Nat} (hm : 0 < m) (places : Nat) :
    (m * 2 ^ places).log2 = m.log2 + places := by
  rw [Nat.log2_eq_iff (by positivity)]
  constructor
  · rw [Nat.pow_add]
    exact Nat.mul_le_mul_right _ (Nat.log2_self_le (by omega))
  · rw [Nat.add_right_comm, Nat.pow_add]
    exact Nat.mul_lt_mul_of_pos_right Nat.lt_log2_self (Nat.two_pow_pos places)

theorem two_pow_le_mul_two_pow {m : Nat} (hm : 0 < m) (places : Nat) (h : 52 ≤ m.log2 + places) :
    2 ^ 52 ≤ m * 2 ^ places := by
  rw [← Nat.le_log2 (by positivity), log2_mul_two_pow hm]
  exact h

/-- How a word is made a number: it is shifted to the left to fill the mantissa, if it can. -/
theorem unpack_toFloat {n : UInt64} (hn : 0 < n.toNat) {places : Nat}
    (hplaces : 52 - n.toNat.log2 = places) :
    n.toFloat.toModel.unpack = unpack binary64 (pack binary64
      (roundWithAccuracy binary64 .positive (n.toNat * 2 ^ places) (-places) .exact)) := by
  change unpack binary64 (pack binary64 (UnpackedFloat.normalize binary64 n.toNat 0 .positive)) = _
  have hcompare : compare (n.toNat : Int) 0 = .gt := by
    rw [Int.compare_eq_gt]
    omega
  have hshift : (0 - binary64.targetExponent (totalExponent n.toNat 0)).toNat = places := by
    rw [Format.targetExponent, totalExponent]
    change (0 - max ((n.toNat.log2 : Int) + 1 + 0 - 53) (-1074)).toNat = _
    omega
  rw [← Int.zero_sub (places : Int)]
  simp only [UnpackedFloat.normalize, hcompare, UnpackedFloat.round, decreaseExponent,
    Int.toNat_natCast, hshift, Nat.shiftLeft_eq]

/-- The number of a word that is not zero. -/
theorem exists_unpack_toFloat {n : UInt64} (hn : 0 < n.toNat) :
    ∃ m e hm, n.toFloat.toModel.unpack = .finite .positive m e hm ∧ 2 ^ 52 ≤ m ∧ m < 2 ^ 53 ∧
      -52 ≤ e ∧ e ≤ 12 := by
  have hlog : n.toNat.log2 < 64 := log2_lt_of_lt_two_pow n.toNat_lt (by decide)
  obtain ⟨places, hplaces⟩ : ∃ places, 52 - n.toNat.log2 = places := ⟨_, rfl⟩
  have hlength := log2_mul_two_pow hn places
  obtain ⟨m, e, hm, heq, hlow, hhigh, hle, hle'⟩ := exists_unpack_pack .positive .exact
    (two_pow_le_mul_two_pow hn places (by omega)) (e := -places) (by omega) (by omega)
  exact ⟨m, e, hm, (unpack_toFloat hn hplaces).trans heq, hlow, hhigh, by omega, by omega⟩

theorem isAmount_toFloat (n : UInt64) : IsAmount n.toFloat := by
  rcases Nat.eq_zero_or_pos n.toNat with hzero | hpos
  · obtain rfl : n = 0 := UInt64.toNat_inj.mp hzero
    rfl
  · obtain ⟨m, e, hm, heq, -⟩ := exists_unpack_toFloat hpos
    rw [IsAmount, heq]
    rfl

/-- A count that fits a mantissa is the number of its word, times one. -/
theorem ofNat_eq_mul {n : Nat} (hshort : n < 2 ^ 53) :
    Float.ofNat n = n.toUInt64.toFloat * Float.ofBits 0x3FF0000000000000 := by
  change Float.ofScientific n false 0 = _
  rw [Float.ofScientific, dif_pos ⟨hshort, by decide⟩]
  rfl

theorem unpack_one : (Float.ofBits 0x3FF0000000000000).toModel.unpack =
    .finite .positive (2 ^ 52) (-52) (by decide) := rfl

theorem atLeastOne_ofNat_of_short {n : Nat} (hn : 0 < n) (hshort : n < 2 ^ 53) :
    AtLeastOne (Float.ofNat n) := by
  have hword : n.toUInt64.toNat = n := UInt64.toNat_ofNat_of_lt' (show n < 2 ^ 64 by omega)
  obtain ⟨m, e, hm, heq, hlow, hhigh, hle, hle'⟩ :=
    exists_unpack_toFloat (n := n.toUInt64) (by omega)
  have hlog : m.log2 = 52 := (Nat.log2_eq_iff (by omega)).mpr ⟨hlow, hhigh⟩
  have hlength := log2_mul_two_pow hm 52
  obtain ⟨m', e', hm', heq', hlow', -, hle', -⟩ := exists_unpack_pack .positive .exact
    (two_pow_le_mul_two_pow hm 52 (by omega)) (e := e + -52) (by omega) (by omega)
  refine ⟨m', e', hm', ?_, hlow', by omega⟩
  rw [ofNat_eq_mul hshort, unpack_mul, heq, unpack_one]
  exact heq'

/-- A longer count is rounded once. -/
theorem atLeastOne_ofNat_of_long {n : Nat} (hlong : 2 ^ 53 ≤ n) (hn : n < 2 ^ 64) :
    AtLeastOne (Float.ofNat n) := by
  have hpos : 0 < n := by omega
  have hlog : n.log2 < 64 := log2_lt_of_lt_two_pow hn (by decide)
  have hofNat : Float.ofNat n = .ofModel (.ofScientific n 0) := by
    change Float.ofScientific n false 0 = _
    rw [Float.ofScientific, dif_neg (by omega)]
    rfl
  have hsmall : ¬(0 : Int) < -((2 ^ binary64.exponentBits : Int) + n.log2) := by
    change ¬((0 : Int) < -(2048 + n.log2))
    omega
  have hround : (Float.ofNat n).toModel.unpack = unpack binary64 (pack binary64
      (roundWithAccuracy binary64 .positive (n * 2 ^ 53) (-53) .exact)) := by
    rw [hofNat]
    change unpack binary64 (pack binary64 (ofScientific binary64 n 0)) = _
    rw [ofScientific, dif_neg (by omega), if_neg (by decide), if_neg hsmall, if_pos (by decide),
      UnpackedFloat.mul, Nat.shiftLeft_eq]
    change unpack binary64 (pack binary64
      (roundWithAccuracy binary64 .positive (n * 2 ^ 53 * 1) (-53 + 0) .exact)) = _
    rw [Nat.mul_one, Int.add_zero]
  have hlength := log2_mul_two_pow hpos 53
  obtain ⟨m, e, hm, heq, hlow, -, hle, -⟩ := exists_unpack_pack .positive .exact
    (two_pow_le_mul_two_pow hpos 53 (by omega)) (e := -53) (by omega) (by omega)
  exact ⟨m, e, hm, hround.trans heq, hlow, by omega⟩

/-- **A count that is not zero** is a finite number that is at least one. -/
theorem atLeastOne_ofNat {n : Nat} (hn : 0 < n) (hword : n < 2 ^ 64) :
    AtLeastOne (Float.ofNat n) := by
  by_cases hshort : n < 2 ^ 53
  · exact atLeastOne_ofNat_of_short hn hshort
  · exact atLeastOne_ofNat_of_long (by omega) hword

theorem isAmount_ofNat {n : Nat} (hword : n < 2 ^ 64) : IsAmount (Float.ofNat n) := by
  rcases Nat.eq_zero_or_pos n with rfl | hpos
  · rfl
  · exact (atLeastOne_ofNat hpos hword).isAmount

theorem isFinite_ofNat {n : Nat} (hword : n < 2 ^ 64) : (Float.ofNat n).isFinite = true := by
  rcases Nat.eq_zero_or_pos n with rfl | hpos
  · rfl
  · exact (atLeastOne_ofNat hpos hword).isFinite

/-- An integer is a number, with either sign. -/
theorem isNaN_ofInt {i : Int} (h : i.natAbs < 2 ^ 64) : (Float.ofInt i).isNaN = false := by
  rw [← Bool.not_eq_true, isNaN_iff]
  cases i with
  | ofNat n => exact (isAmount_ofNat h).ne_notANumber
  | negSucc n => exact (hasSign_unpack_pack (isAmount_ofNat (n := n + 1) h).neg).ne_notANumber

/-! ### Arithmetic -/

namespace IsAmount

variable {x y : Float}

theorem cases (hx : IsAmount x) : x.toModel.unpack = .zero .positive ∨
    (∃ m e hm, x.toModel.unpack = .finite .positive m e hm) ∨
    x.toModel.unpack = .infinity .positive := by
  rw [IsAmount] at hx
  cases h : x.toModel.unpack with
  | notANumber =>
    rw [h] at hx
    cases hx
  | zero s =>
    rw [h] at hx
    exact .inl (congrArg _ hx)
  | finite s m e hm =>
    rw [h] at hx
    obtain rfl : s = .positive := hx
    exact .inr (.inl ⟨m, e, hm, rfl⟩)
  | infinity s =>
    rw [h] at hx
    exact .inr (.inr (congrArg _ hx))

theorem cases_of_isFinite (hx : IsAmount x) (hfinite : x.isFinite = true) :
    x.toModel.unpack = .zero .positive ∨
      ∃ m e hm, x.toModel.unpack = .finite .positive m e hm := by
  rcases hx.cases with hzero | hparts | hinfinite
  · exact .inl hzero
  · exact .inr hparts
  · rw [isFinite_eq, hinfinite] at hfinite
    cases hfinite

theorem mul_of_isFinite (hx : IsAmount x) (hy : IsAmount y) (hx' : x.isFinite = true)
    (hy' : y.isFinite = true) : IsAmount (x * y) := by
  rw [IsAmount, unpack_mul]
  apply hasSign_unpack_pack
  rcases hx.cases_of_isFinite hx' with hx | ⟨m, e, hm, hx⟩ <;>
    rcases hy.cases_of_isFinite hy' with hy | ⟨m', e', hm', hy⟩ <;>
    rw [hx, hy]
  · rfl
  · rfl
  · rfl
  · exact hasSign_roundWithAccuracy _ _ _ _

/-- An amount, even an infinite one, times a number that is at least one. -/
theorem mul (hx : IsAmount x) (hy : AtLeastOne y) : IsAmount (x * y) := by
  obtain ⟨m', e', hm', hy, -⟩ := hy
  rw [IsAmount, unpack_mul]
  apply hasSign_unpack_pack
  rcases hx.cases with hx | ⟨m, e, hm, hx⟩ | hx <;> rw [hx, hy]
  · rfl
  · exact hasSign_roundWithAccuracy _ _ _ _
  · rfl

theorem div (hx : IsAmount x) (hy : AtLeastOne y) : IsAmount (x / y) := by
  obtain ⟨m', e', hm', hy, -⟩ := hy
  rw [IsAmount, unpack_div]
  apply hasSign_unpack_pack
  rcases hx.cases with hx | ⟨m, e, hm, hx⟩ | hx <;> rw [hx, hy]
  · rfl
  · exact hasSign_roundWithAccuracy _ _ _ _
  · rfl

end IsAmount

/-- How finite amounts are divided: the first mantissa is shifted to the left until the quotient is
long enough, and the quotient is rounded. -/
theorem exists_unpack_div {x y : Float} {m₁ m₂ : Nat} {e₁ e₂ : Int} {hm₁ : 0 < m₁} {hm₂ : 0 < m₂}
    (hx : x.toModel.unpack = .finite .positive m₁ e₁ hm₁)
    (hy : y.toModel.unpack = .finite .positive m₂ e₂ hm₂) :
    ∃ (target : Int) (shift : Nat) (acc : Accuracy),
      (x / y).toModel.unpack = unpack binary64 (pack binary64
        (roundWithAccuracy binary64 .positive (m₁ * 2 ^ shift / m₂) target acc)) ∧
      target + shift = e₁ - e₂ ∧
      target = min (e₁ - e₂) (max (m₁.log2 + e₁ - (m₂.log2 + e₂) - 53) (-1074)) := by
  let target : Int :=
    min (e₁ - e₂) (max (totalExponent m₁ e₁ - totalExponent m₂ e₂ - 53) (-1074))
  let shift : Nat := (e₁ - e₂ - target).toNat
  refine ⟨target, shift, accuracyOfFraction ((m₁ <<< shift) % m₂) m₂, ?_, ?_, ?_⟩
  · rw [unpack_div, hx, hy, ← Nat.shiftLeft_eq]
    rfl
  · simp only [shift, target]
    omega
  · simp only [target, totalExponent]
    omega

/-- **A finite amount is divided by a number that is at least one.** The quotient is finite. -/
theorem isFinite_div {x y : Float} (hx : IsAmount x) (hfinite : x.isFinite = true)
    (hy : AtLeastOne y) : (x / y).isFinite = true := by
  obtain ⟨m₂, e₂, hm₂, hy, hlow, hle⟩ := hy
  rw [isFinite_eq]
  rcases hx.cases_of_isFinite hfinite with hx | ⟨m₁, e₁, hm₁, hx⟩
  · rw [unpack_div, hx, hy]
    exact isFinite_unpack_pack trivial
  obtain ⟨target, shift, acc, hdiv, hshift, htarget⟩ := exists_unpack_div hx hy
  obtain ⟨hshort, -, hhigh, -⟩ := canonical_of_unpack hx
  have hlog₁ : m₁.log2 < 53 := log2_lt_of_lt_two_pow hshort (by decide)
  have hlog₂ : 52 ≤ m₂.log2 := (Nat.le_log2 (by omega)).mpr hlow
  obtain ⟨places, hplaces⟩ := Int.le.dest (show target ≤ 970 by omega)
  -- The largest mantissa and exponent, divided by one, are just within bounds.
  have hquotient : m₁ * 2 ^ shift / m₂ ≤ (2 ^ 53 - 1) * 2 ^ (places + 1) := by
    calc m₁ * 2 ^ shift / m₂ ≤ m₁ * 2 ^ shift / 2 ^ 52 := Nat.div_le_div_left hlow (by decide)
      _ ≤ (2 ^ 53 - 1) * 2 ^ (52 + (places + 1)) / 2 ^ 52 := Nat.div_le_div_right
        (Nat.mul_le_mul (by omega) (Nat.pow_le_pow_right (by decide) (by omega)))
      _ = (2 ^ 53 - 1) * 2 ^ (places + 1) := by
        rw [Nat.pow_add, Nat.mul_left_comm, Nat.mul_div_cancel_left _ (by decide)]
  rw [hdiv]
  exact isFinite_unpack_pack (inRange_roundWithAccuracy .positive acc hplaces hquotient)

/-! ### Order -/

theorem unpack_zero : (0 : Float).toModel.unpack = .zero .positive := rfl

theorem beq_zero (x : Float) :
    (x == 0) = (x.toModel.unpack.compare (.zero .positive) == some .eq) := rfl

theorem AtLeastOne.beq_zero {x : Float} (h : AtLeastOne x) : (x == 0) = false := by
  obtain ⟨m, e, hm, heq, -⟩ := h
  rw [Binary64.beq_zero, heq]
  rfl

/-- The sign is the only part that is changed. -/
theorem AtLeastOne.neg_beq_zero {x : Float} (h : AtLeastOne x) : (x.neg == 0) = false := by
  obtain ⟨m, e, hm, heq, hfull, hlow⟩ := h
  have hhigh := (canonical_of_unpack heq).high
  have hshort := (canonical_of_unpack heq).short
  have hneg : x.neg.toModel.unpack = .finite .negative m e hm := by
    change unpack binary64 (pack binary64 x.toModel.unpack.neg) = _
    rw [heq]
    exact unpack_pack_normal .negative hfull hshort (by omega) hhigh
  rw [Binary64.beq_zero, hneg]
  rfl

namespace IsAmount

variable {x y : Float}

/-- Amounts are compared, and the other way round with the opposite result. -/
theorem exists_compare (hx : IsAmount x) (hy : IsAmount y) :
    ∃ o, x.toModel.unpack.compare y.toModel.unpack = some o ∧
      y.toModel.unpack.compare x.toModel.unpack = some o.swap := by
  have hsome : x.toModel.unpack.compare y.toModel.unpack ≠ none := by
    rw [ne_eq, compare_eq_none_iff, not_or]
    exact ⟨hx.ne_notANumber, hy.ne_notANumber⟩
  obtain ⟨o, ho⟩ := Option.ne_none_iff_exists'.mp hsome
  exact ⟨o, ho, by rw [compare_swap, ho, Option.map_some]⟩

theorem zero_le (hx : IsAmount x) : 0 ≤ x := by
  rw [le_iff, unpack_zero]
  rcases hx.cases with hx | ⟨m, e, hm, hx⟩ | hx <;> rw [hx] <;> exact ⟨_, rfl, nofun⟩

theorem not_lt_zero (hx : IsAmount x) : ¬x < 0 := by
  rw [lt_iff, unpack_zero]
  rcases hx.cases with hx | ⟨m, e, hm, hx⟩ | hx <;> rw [hx] <;> exact nofun

theorem le_of_not_lt (hx : IsAmount x) (hy : IsAmount y) (h : ¬y < x) : x ≤ y := by
  obtain ⟨o, hxy, hyx⟩ := hx.exists_compare hy
  rw [le_iff]
  refine ⟨o, hxy, fun hgreater => h ?_⟩
  rw [lt_iff, hyx, hgreater]
  rfl

theorem lt_asymm (hx : IsAmount x) (hy : IsAmount y) (h : x < y) : ¬y < x := by
  obtain ⟨o, hxy, hyx⟩ := hx.exists_compare hy
  rw [lt_iff] at h ⊢
  rw [hyx]
  rw [hxy] at h
  obtain rfl := Option.some.inj h
  exact nofun

theorem lt_irrefl (hx : IsAmount x) : ¬x < x :=
  fun h => hx.lt_asymm hx h h

theorem le_refl (hx : IsAmount x) : x ≤ x :=
  hx.le_of_not_lt hx hx.lt_irrefl

/-- Rounding to a whole number keeps the sign. -/
theorem roundFloat (hx : IsAmount x) : IsAmount (Autograder.roundFloat x) := by
  rw [Autograder.roundFloat]
  simp only [if_neg hx.not_lt_zero]
  split
  · split
    · exact isAmount_toFloat _
    · exact isAmount_toFloat _
  · exact hx

/-- A finite number above zero. -/
theorem of_pos (hfinite : x.isFinite = true) (hpos : 0 < x) : IsAmount x := by
  rw [lt_iff, unpack_zero] at hpos
  rw [isFinite_eq] at hfinite
  rw [IsAmount]
  cases hx : x.toModel.unpack with
  | notANumber | infinity =>
    rw [hx] at hfinite
    cases hfinite
  | zero s =>
    rw [hx] at hpos
    cases hpos
  | finite s m e hm =>
    cases s with
    | negative =>
      rw [hx] at hpos
      cases hpos
    | positive => rfl

end IsAmount

end Autograder.Binary64
