import Autograder.Proofs.Binary64.Values

/-!
# Whole numbers

A word that fits the mantissa is a number exactly. So a number is rounded to a whole number by
taking its whole part as a word, making a number of it, or of the next one, and looking at the
difference, which is what decides between the two. The difference is rounded itself, and only a
bound on it is known, so the half that rounding adds at most has a little more to it.

## Main results

* `value_toFloat`, `value_ofNat` — words and counts are kept exactly
* `toUInt64_le` — the whole part is not above the number
* `AtMost.sub` — bounds on differences
* `AtMost.roundFloat` — what rounding to a whole number can add
-/

namespace Autograder.Binary64

open Float.Model (UnpackedFloat totalExponent)
open Float.Model.UnpackedFloat
open Float.Model.Format (binary64)

/-! ### Words and counts -/

/-- **A mantissa of full length with nothing behind it** is not changed. -/
theorem roundWithAccuracy_of_full (s : Sign) {m : ℕ} (places : ℕ) {e : ℤ} (hm : 2 ^ 52 ≤ m)
    (hshort : m < 2 ^ 53) (he : -1074 ≤ e + places) :
    roundWithAccuracy binary64 s (m * 2 ^ places) e .exact =
      .finite s m (e + places) (by omega) := by
  have hlog : m.log2 = 52 := (Nat.log2_eq_iff (by omega)).mpr ⟨hm, hshort⟩
  have hfirst : excess (m * 2 ^ places) e = places := by
    rw [excess, log2_mul_two_pow (by omega)]
    omega
  have hrounded : roundedTo (m * 2 ^ places) e .exact = m := by
    cases places with
    | zero => rw [roundedTo_exact_of_fit hfirst, Nat.pow_zero, Nat.mul_one]
    | succ places =>
      have hlow := le_roundedTo (m * 2 ^ (places + 1)) e .exact
      rw [hfirst, Nat.mul_div_cancel _ (Nat.two_pow_pos _)] at hlow
      exact Nat.le_antisymm (roundedTo_le_of_dvd hfirst rfl) hlow
  have hsecond : excess m (e + places) = 0 := by
    rw [excess, hlog]
    omega
  rw [roundWithAccuracy_eq]
  simp only [hrounded, hfirst, hsecond, Nat.pow_zero, Nat.div_one, Int.natCast_zero, Int.add_zero]
  rw [dif_neg (by omega)]

/-- The number of a word that fits the mantissa is this word. -/
theorem unpack_toFloat_of_short {n : UInt64} (hn : 0 < n.toNat) (hshort : n.toNat < 2 ^ 53) :
    ∃ places : ℕ, ∃ hpos, places ≤ 52 ∧ 2 ^ 52 ≤ n.toNat * 2 ^ places ∧
      n.toNat * 2 ^ places < 2 ^ 53 ∧
      n.toFloat.toModel.unpack = .finite .positive (n.toNat * 2 ^ places) (-places) hpos := by
  have hlog : n.toNat.log2 < 53 := log2_lt_of_lt_two_pow hshort (by decide)
  obtain ⟨places, hplaces⟩ : ∃ places, 52 - n.toNat.log2 = places := ⟨_, rfl⟩
  have hlow : 2 ^ 52 ≤ n.toNat * 2 ^ places := two_pow_le_mul_two_pow hn places (by omega)
  have hhigh : n.toNat * 2 ^ places < 2 ^ 53 := by
    rw [← Nat.log2_lt (by omega), log2_mul_two_pow hn]
    omega
  refine ⟨places, by omega, by omega, hlow, hhigh, ?_⟩
  have hround := roundWithAccuracy_of_full .positive 0 (e := -places) hlow hhigh (by omega)
  rw [Nat.pow_zero, Nat.mul_one] at hround
  rw [unpack_toFloat hn hplaces, hround]
  simp only [Int.natCast_zero, Int.add_zero]
  exact unpack_pack_normal .positive hlow hhigh (by omega) (by omega)

theorem value_whole (n places : ℕ) : ((n * 2 ^ places : ℕ) : ℚ) * 2 ^ (-places : ℤ) = n := by
  rw [value_shift, neg_add_cancel, zpow_zero, mul_one]

theorem value_toFloat {n : UInt64} (hshort : n.toNat < 2 ^ 53) :
    value n.toFloat.toModel.unpack = n.toNat := by
  rcases Nat.eq_zero_or_pos n.toNat with hzero | hpos
  · obtain rfl : n = 0 := UInt64.toNat_inj.mp hzero
    rfl
  · obtain ⟨places, hm, -, -, -, heq⟩ := unpack_toFloat_of_short hpos hshort
    rw [heq]
    exact value_whole _ _

theorem isFinite_toFloat {n : UInt64} (hshort : n.toNat < 2 ^ 53) : n.toFloat.isFinite = true := by
  rcases Nat.eq_zero_or_pos n.toNat with hzero | hpos
  · obtain rfl : n = 0 := UInt64.toNat_inj.mp hzero
    rfl
  · obtain ⟨places, hm, -, -, -, heq⟩ := unpack_toFloat_of_short hpos hshort
    rw [isFinite_eq, heq]
    rfl

theorem atMost_toFloat {n : UInt64} (hshort : n.toNat < 2 ^ 53) :
    AtMost n.toFloat.toModel.unpack n.toNat :=
  ⟨isAmount_toFloat n, isFinite_toFloat hshort, (value_toFloat hshort).le⟩

theorem unpack_ofNat_of_short {n : ℕ} (hn : 0 < n) (hshort : n < 2 ^ 53) :
    (Float.ofNat n).toModel.unpack = n.toUInt64.toFloat.toModel.unpack := by
  have hword : n.toUInt64.toNat = n := UInt64.toNat_ofNat_of_lt' (show n < 2 ^ 64 by omega)
  obtain ⟨places, hpos, hplaces, hlow, hhigh, heq⟩ :=
    unpack_toFloat_of_short (n := n.toUInt64) (by omega) (by omega)
  have hround := roundWithAccuracy_of_full .positive 52 (e := -places + -52) hlow hhigh (by omega)
  rw [ofNat_eq_mul hshort, unpack_mul, heq, unpack_one]
  change unpack binary64 (pack binary64 (roundWithAccuracy binary64 .positive
    (n.toUInt64.toNat * 2 ^ places * 2 ^ 52) (-places + -52) .exact)) = _
  rw [hround]
  have hback : (-places + -52 + ((52 : ℕ) : ℤ)) = -(places : ℤ) := by omega
  simp only [hback]
  exact unpack_pack_normal .positive hlow hhigh (by omega) (by omega)

/-- **A count that fits the mantissa is kept exactly.** -/
theorem value_ofNat {n : ℕ} (hshort : n < 2 ^ 53) : value (Float.ofNat n).toModel.unpack = n := by
  rcases Nat.eq_zero_or_pos n with rfl | hpos
  · rfl
  · have hword : n.toUInt64.toNat = n := UInt64.toNat_ofNat_of_lt' (show n < 2 ^ 64 by omega)
    rw [unpack_ofNat_of_short hpos hshort, value_toFloat (by omega), hword]

theorem toNat_ofNatClamp_le (n : ℕ) : (UInt64.ofNatClamp n).toNat ≤ n := by
  rw [UInt64.ofNatClamp]
  split
  · exact le_rfl
  · rename_i hlarge
    change UInt64.size - 1 ≤ n
    omega

/-- The whole part of an amount is not above it. -/
theorem toUInt64_le {x : Float} {bound : ℚ} (hx : AtMost x.toModel.unpack bound) :
    (x.toUInt64.toNat : ℚ) ≤ value x.toModel.unpack := by
  change ((UInt64.ofNatClamp (x.toModel.unpack.toInt 0 (UInt64.size - 1)).toNat).toNat : ℚ) ≤ _
  rcases hx.cases with hx | ⟨m, e, hm, hx, -⟩
  · rw [hx]
    rfl
  · rw [hx]
    obtain ⟨left, hleft⟩ : ∃ left, (e - 0).toNat = left := ⟨_, rfl⟩
    obtain ⟨right, hright⟩ : ∃ right, (0 - (e - left)).toNat = right := ⟨_, rfl⟩
    have hwhole : UnpackedFloat.toInt 0 (UInt64.size - 1) (.finite .positive m e hm) =
        ((m * 2 ^ left / 2 ^ right : ℕ) : ℤ) := by
      simp only [UnpackedFloat.toInt, roundToInt, decreaseExponent, shiftToExponent, hleft, hright,
        mantissa_shiftRight, mantissa_ofMantissaAndAccuracy, Nat.shiftLeft_eq]
      rfl
    have hscale : e + right = left := by omega
    have hfloor : m * 2 ^ left / 2 ^ right * 2 ^ right ≤ m * 2 ^ left := Nat.div_mul_le_self _ _
    have hcast : ((m * 2 ^ left / 2 ^ right : ℕ) : ℚ) * 2 ^ right ≤ m * 2 ^ left := by
      exact_mod_cast hfloor
    rw [hwhole, Int.toNat_natCast]
    refine le_trans (Nat.cast_le.mpr (toNat_ofNatClamp_le _)) (le_of_mul_le_mul_right
      (hcast.trans_eq ?_) (pow_pos (show (0 : ℚ) < 2 by norm_num) right))
    rw [value, mul_assoc, mul_comm ((2 : ℚ) ^ e), two_pow_mul_zpow, hscale, zpow_natCast]

/-! ### Rounding to a whole number -/

theorem AtMost.abs {x : Float} {bound : ℚ} (hx : AtMost x.toModel.unpack bound) :
    AtMost x.abs.toModel.unpack (value x.toModel.unpack) := by
  change AtMost (unpack binary64 (pack binary64 x.toModel.unpack.abs)) _
  rcases hx.cases with hx | ⟨m, e, hm, hx, -⟩
  · rw [hx]
    exact atMost_zero le_rfl
  · have hcanonical := canonical_of_unpack hx
    rw [hx]
    exact atMost_unpack_pack hm hcanonical.short hcanonical.low hcanonical.high le_rfl

theorem unpack_sub (x y : Float) : (x - y).toModel.unpack =
    unpack binary64 (pack binary64 (sub binary64 x.toModel.unpack y.toModel.unpack)) := rfl

/-- A number that is shifted to the left before it is rounded. -/
theorem atMost_round {m : ℕ} {e : ℤ} {bound : ℚ} (h : widen (m * 2 ^ e) ≤ bound)
    (hbound : bound < 2 ^ 64) :
    AtMost (unpack binary64 (pack binary64 (UnpackedFloat.round binary64 .positive m e)))
      bound := by
  simp only [UnpackedFloat.round, decreaseExponent, Nat.shiftLeft_eq]
  generalize (e - binary64.targetExponent (totalExponent m e)).toNat = places
  refine atMost_roundWithAccuracy ((roundedTo_mul_le (.inl rfl)).trans ?_) hbound
  rwa [value_shift, sub_add_cancel]

/-- A mantissa that is shifted to the left until it has a lower exponent. -/
theorem value_decreaseExponent {e e' : ℤ} (m : ℕ) (h : e' ≤ e) :
    ((m * 2 ^ (e - e').toNat : ℕ) : ℚ) * 2 ^ e' = m * 2 ^ e := by
  rw [value_shift, Int.toNat_of_nonneg (by omega), add_sub_cancel]

/-- The difference of two positive numbers, taken at the lower of their exponents. -/
theorem atMost_sub_finite {m₁ m₂ : ℕ} {e₁ e₂ : ℤ} {hm₁ : 0 < m₁} {hm₂ : 0 < m₂} {bound : ℚ}
    (hle : (m₂ : ℚ) * 2 ^ e₂ ≤ m₁ * 2 ^ e₁) (h : widen (m₁ * 2 ^ e₁ - m₂ * 2 ^ e₂) ≤ bound)
    (hbound : bound < 2 ^ 64) :
    AtMost (unpack binary64 (pack binary64 (UnpackedFloat.sub binary64
      (.finite .positive m₁ e₁ hm₁) (.finite .positive m₂ e₂ hm₂)))) bound := by
  have hscale₁ := value_decreaseExponent m₁ (min_le_left e₁ e₂)
  have hscale₂ := value_decreaseExponent m₂ (min_le_right e₁ e₂)
  simp only [UnpackedFloat.sub, decreaseExponent, Sign.apply, Nat.shiftLeft_eq]
  generalize m₁ * 2 ^ (e₁ - min e₁ e₂).toNat = large at hscale₁ ⊢
  generalize m₂ * 2 ^ (e₂ - min e₁ e₂).toNat = small at hscale₂ ⊢
  rw [← hscale₁, ← hscale₂] at hle h
  have hsmall : small ≤ large := by
    exact_mod_cast le_of_mul_le_mul_right hle (by positivity)
  obtain ⟨rest, rfl⟩ := Nat.exists_eq_add_of_le hsmall
  have hrest : ((small + rest : ℕ) : ℤ) - small = rest := by omega
  rw [hrest, UnpackedFloat.normalize]
  rcases Nat.eq_zero_or_pos rest with rfl | hpos
  · exact atMost_zero ((widen_nonneg (sub_nonneg.mpr hle)).trans h)
  · have hcompare : compare (rest : ℤ) 0 = .gt := by
      rw [Int.compare_eq_gt]
      omega
    simp only [hcompare, Int.toNat_natCast]
    refine atMost_round (le_trans (widen_mono (le_of_eq ?_)) h) hbound
    push_cast
    ring

/-- The difference of an amount and one that is not above it. -/
theorem AtMost.sub {x y : Float} {a b bound : ℚ} (hx : AtMost x.toModel.unpack a)
    (hy : AtMost y.toModel.unpack b) (hle : value y.toModel.unpack ≤ value x.toModel.unpack)
    (h : widen (value x.toModel.unpack - value y.toModel.unpack) ≤ bound)
    (hbound : bound < 2 ^ 64) : AtMost (x - y).toModel.unpack bound := by
  have hnonneg : 0 ≤ bound := (widen_nonneg (sub_nonneg.mpr hle)).trans h
  rw [unpack_sub]
  rcases hx.cases with hx | ⟨m₁, e₁, hm₁, hx, -⟩ <;>
    rcases hy.cases with hy | ⟨m₂, e₂, hm₂, hy, -⟩ <;>
    rw [hx, hy] at h ⊢ <;> rw [hx, hy] at hle
  · exact atMost_zero hnonneg
  · have hpos : (0 : ℚ) < m₂ * 2 ^ e₂ := by positivity
    exact absurd hle (not_le.mpr hpos)
  · have hcanonical := canonical_of_unpack hx
    refine atMost_unpack_pack hm₁ hcanonical.short hcanonical.low hcanonical.high (le_trans ?_ h)
    change (m₁ : ℚ) * 2 ^ e₁ ≤ widen (m₁ * 2 ^ e₁ - 0)
    rw [sub_zero]
    exact le_widen (by positivity)
  · exact atMost_sub_finite hle h hbound

theorem unpack_half : (0.5 : Float).toModel.unpack = .finite .positive (2 ^ 52) (-53) (by decide) :=
  rfl

theorem value_half : value (0.5 : Float).toModel.unpack = 1 / 2 := by
  rw [unpack_half, value]
  norm_num

theorem atMost_half : AtMost (0.5 : Float).toModel.unpack (1 / 2) :=
  ⟨rfl, rfl, value_half.le⟩

/-- A value that rounding could make a half is not much less than a half. -/
theorem half_le_of_half_le_widen {v : ℚ} (h : 1 / 2 ≤ widen v) : 1 / 2 ≤ v + 1 / 2 ^ 50 := by
  have hsmall := tiny_le
  rw [widen] at h
  linarith

/-- **Rounding to a whole number adds a half at most.** The difference to the whole part is itself
rounded, so a little has to be granted. -/
theorem AtMost.roundFloat {x : Float} {bound : ℚ} (hx : AtMost x.toModel.unpack bound)
    (hbound : bound ≤ 2 ^ 52) :
    AtMost (Autograder.roundFloat x).toModel.unpack (bound + 1 / 2 + 1 / 2 ^ 50) := by
  have hamount : IsAmount x := hx.sign
  have hsize := (hx.abs).mono hx.value_le
  rw [Autograder.roundFloat]
  simp only [if_neg hamount.not_lt_zero]
  split
  · have hwhole := toUInt64_le hsize
    have hle := hsize.value_le
    generalize x.abs = size at hsize hwhole hle ⊢
    generalize size.toUInt64 = whole at hwhole ⊢
    have hshort : whole.toNat ≤ 2 ^ 52 := by exact_mod_cast hwhole.trans (hle.trans hbound)
    have hexact : value whole.toFloat.toModel.unpack = whole.toNat := value_toFloat (by omega)
    split
    · refine (atMost_toFloat (by omega)).mono ?_
      linarith
    · rename_i hless
      have hnext : (whole + 1).toNat = whole.toNat + 1 := by
        rw [UInt64.toNat_add]
        exact Nat.mod_eq_of_lt (show whole.toNat + 1 < 2 ^ 64 by omega)
      have hrest : AtMost (size - whole.toFloat).toModel.unpack
          (widen (value size.toModel.unpack - whole.toNat)) := by
        refine hsize.sub (atMost_toFloat (by omega)) (hexact.trans_le hwhole)
          (by rw [hexact]) ?_
        have hsmall := tiny_le
        rw [widen]
        linarith
      have hhalf : 1 / 2 ≤ value (size - whole.toFloat).toModel.unpack := by
        by_contra hlow
        refine hless (lt_of_value_lt hrest atMost_half ?_)
        rw [value_half]
        exact not_le.mp hlow
      have hhigh := half_le_of_half_le_widen (hhalf.trans hrest.value_le)
      refine (atMost_toFloat (by omega)).mono ?_
      rw [hnext]
      push_cast
      linarith
  · exact hx.mono (by linarith)

end Autograder.Binary64
