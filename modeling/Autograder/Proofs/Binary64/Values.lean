import Autograder.Proofs.Binary64.Amounts

/-!
# Bounds on values

How far the steps of a computation can lead above the value that is meant. Every result is rounded,
which can add the last place of its mantissa or, of very small results, the smallest value there
is. Bounds from above are all that is needed here, and they take less than the exact values: a
mantissa that is rounded is not more than one above, whichever way it went.

Bounds are kept far below the largest number, so that no result is infinite.

## Main definitions

* `value` — the value of a number that is not negative
* `widen` — what rounding can make of a value
* `AtMost` — a finite amount with a bound on its value

## Main results

* `roundedTo_mul_le`, `atMost_roundWithAccuracy` — what rounding can add
* `AtMost.mul`, `AtMost.div` — bounds on products and quotients
* `lt_of_value_lt` — values decide the order
-/

namespace Autograder.Binary64

open Float.Model (UnpackedFloat)
open Float.Model.UnpackedFloat
open Float.Model.Format (binary64)

/-- The value of a finite number that is not negative. -/
def value : UnpackedFloat → ℚ
  | .finite _ m e _ => m * 2 ^ e
  | _ => 0

/-- The smallest value above zero. -/
def tiny : ℚ :=
  2 ^ (-1074 : ℤ)

/-- What rounding can make of a value: one place more behind the mantissa, or the smallest value. -/
def widen (v : ℚ) : ℚ :=
  v * (1 + 1 / 2 ^ 52) + tiny

/-- A finite amount of this value at most. -/
structure AtMost (u : UnpackedFloat) (bound : ℚ) : Prop where
  sign : HasSign .positive u
  finite : u.isFinite = true
  value_le : value u ≤ bound

theorem AtMost.mono {u : UnpackedFloat} {bound bound' : ℚ} (h : AtMost u bound)
    (hle : bound ≤ bound') : AtMost u bound' :=
  ⟨h.sign, h.finite, h.value_le.trans hle⟩

theorem zpow_two_mono {e e' : ℤ} (h : e ≤ e') : (2 : ℚ) ^ e ≤ 2 ^ e' :=
  zpow_le_zpow_right₀ (by norm_num) h

theorem two_pow_mul_zpow (places : ℕ) (e : ℤ) : (2 : ℚ) ^ places * 2 ^ e = 2 ^ (e + places) := by
  rw [← zpow_natCast, ← zpow_add₀ (by norm_num), add_comm]

/-- A mantissa that is shifted to the left. -/
theorem value_shift (m places : ℕ) (e : ℤ) :
    ((m * 2 ^ places : ℕ) : ℚ) * 2 ^ e = m * 2 ^ (e + places) := by
  rw [Nat.cast_mul, Nat.cast_pow, Nat.cast_two, mul_assoc, two_pow_mul_zpow]

theorem tiny_pos : 0 < tiny :=
  zpow_pos (by norm_num) _

theorem tiny_le : tiny ≤ 1 / 2 ^ 100 := by
  refine (zpow_two_mono (show (-1074 : ℤ) ≤ -100 by decide)).trans_eq ?_
  rw [zpow_neg, one_div]
  rfl

/-- Putting together does not increase a value. -/
theorem atMost_unpack_pack {m : ℕ} {e : ℤ} (hm : 0 < m) (hshort : m < 2 ^ 53) (he : -1074 ≤ e)
    (he' : e ≤ 971) {bound : ℚ} (h : m * 2 ^ e ≤ bound) :
    AtMost (unpack binary64 (pack binary64 (.finite .positive m e hm))) bound := by
  by_cases hfull : 2 ^ 52 ≤ m
  · rw [unpack_pack_normal .positive hfull hshort he he']
    exact ⟨rfl, rfl, h⟩
  · have hlog : m.log2 ≠ 52 := by
      have hlt : m.log2 < 52 := log2_lt_of_lt_two_pow (by omega) (by decide)
      omega
    have hmantissa : (BitVec.ofNat 52 m).toNat = m := by
      rw [BitVec.toNat_ofNat, Nat.mod_eq_of_lt (by omega)]
    have hnonzero : BitVec.ofNat 52 m ≠ 0#52 := by
      intro hzero
      rw [hzero] at hmantissa
      exact hm.ne hmantissa
    rw [pack_finite, if_neg (by omega), if_neg hlog, unpack_packComponents, if_neg (by decide),
      if_pos rfl, dif_neg hnonzero]
    refine ⟨rfl, rfl, le_trans ?_ h⟩
    simp only [value, hmantissa]
    exact mul_le_mul_of_nonneg_left (zpow_two_mono he) (by positivity)

/-- A rounded value is bounded by its mantissa. -/
theorem atMost_roundWithAccuracy {m : ℕ} {e : ℤ} {acc : Accuracy} {bound : ℚ}
    (h : roundedTo m e acc * 2 ^ (e + excess m e) ≤ bound) (hbound : bound < 2 ^ 64) :
    AtMost (unpack binary64 (pack binary64 (roundWithAccuracy binary64 .positive m e acc)))
      bound := by
  have hnonneg : 0 ≤ bound := le_trans (by positivity) h
  rw [roundWithAccuracy_eq]
  split
  · rw [pack, unpack_packedZero]
    exact ⟨rfl, rfl, hnonneg⟩
  · rename_i hpos
    generalize roundedTo m e acc = r at h hpos
    generalize e + (excess m e : ℤ) = e₁ at h hpos
    obtain ⟨places, hplaces⟩ : ∃ places, excess r e₁ = places := ⟨_, rfl⟩
    simp only [hplaces] at hpos ⊢
    have hvalue : ((r / 2 ^ places : ℕ) : ℚ) * 2 ^ (e₁ + places) ≤ bound := by
      refine le_trans ?_ h
      rw [← two_pow_mul_zpow, ← mul_assoc]
      have hfloor : r / 2 ^ places * 2 ^ places ≤ r := Nat.div_mul_le_self _ _
      gcongr
      exact_mod_cast hfloor
    have hone : (1 : ℚ) ≤ (r / 2 ^ places : ℕ) := by exact_mod_cast Nat.pos_of_ne_zero hpos
    have hrange : e₁ + places < 64 := by
      by_contra hlarge
      have hpow : (2 : ℚ) ^ (64 : ℤ) ≤ 2 ^ (e₁ + places) := zpow_two_mono (by omega)
      have hover : (2 : ℚ) ^ (64 : ℤ) ≤ (r / 2 ^ places : ℕ) * 2 ^ (e₁ + places) :=
        hpow.trans (le_mul_of_one_le_left (by positivity) hone)
      exact absurd (hover.trans hvalue) (not_le.mpr hbound)
    rw [excess] at hplaces
    refine atMost_unpack_pack _ ?_ (by omega) (by omega) hvalue
    rw [Nat.div_lt_iff_lt_mul (Nat.two_pow_pos _), ← Nat.pow_add]
    exact Nat.lt_of_lt_of_le Nat.lt_log2_self (Nat.pow_le_pow_right (by decide) (by omega))

theorem zpow_excess_le {m : ℕ} {e : ℤ} (h : 2 ^ 52 ≤ m ∨ e ≤ -1074) :
    (2 : ℚ) ^ (e + excess m e) ≤ m * 2 ^ e / 2 ^ 52 + tiny := by
  by_cases hlow : e + excess m e ≤ -1074
  · have hpow : (2 : ℚ) ^ (e + excess m e) ≤ tiny := zpow_two_mono hlow
    have hnonneg : (0 : ℚ) ≤ m * 2 ^ e / 2 ^ 52 := by positivity
    linarith
  · rw [excess] at hlow
    have hm : m ≠ 0 := by
      rintro rfl
      rw [Nat.log2_zero] at hlow
      omega
    have hplaces : m.log2 = 52 + excess m e := by
      rw [excess]
      rcases h with hfull | he
      · have hlog := (Nat.le_log2 hm).mpr hfull
        omega
      · omega
    have hself : (2 : ℚ) ^ 52 * 2 ^ excess m e ≤ m := by
      rw [← pow_add, ← hplaces]
      exact_mod_cast Nat.log2_self_le hm
    have hplace : (2 : ℚ) ^ (e + excess m e) ≤ m * 2 ^ e / 2 ^ 52 := by
      rw [← two_pow_mul_zpow, le_div_iff₀ (by norm_num), mul_comm, ← mul_assoc]
      gcongr
    have hpos := tiny_pos
    linarith

theorem roundedTo_exact_of_fit {m : ℕ} {e : ℤ} (h : excess m e = 0) : roundedTo m e .exact = m := by
  rw [roundedTo, h]
  rfl

/-- **What rounding can add**, if the mantissa is long enough or nothing is known to be behind. -/
theorem roundedTo_mul_le {m : ℕ} {e : ℤ} {acc : Accuracy}
    (h : acc = .exact ∨ 2 ^ 52 ≤ m ∨ e ≤ -1074) :
    roundedTo m e acc * 2 ^ (e + excess m e) ≤ widen (m * 2 ^ e) := by
  have hwiden : widen (m * 2 ^ e) = m * 2 ^ e + (m * 2 ^ e / 2 ^ 52 + tiny) := by
    rw [widen]
    ring
  by_cases hfit : acc = .exact ∧ excess m e = 0
  · obtain ⟨rfl, hnone⟩ := hfit
    have hpos := tiny_pos
    have hnonneg : (0 : ℚ) ≤ m * 2 ^ e / 2 ^ 52 := by positivity
    rw [roundedTo_exact_of_fit hnone, hnone, Nat.cast_zero, add_zero, hwiden]
    linarith
  · have hlong : 2 ^ 52 ≤ m ∨ e ≤ -1074 := by
      rcases h with hexact | hlong
      · have hexcess : excess m e ≠ 0 := fun hnone => hfit ⟨hexact, hnone⟩
        by_contra hshort
        obtain ⟨hm, he⟩ := not_or.mp hshort
        have hlog : m.log2 < 52 := log2_lt_of_lt_two_pow (by omega) (by decide)
        rw [excess] at hexcess
        omega
      · exact hlong
    have hstep : (roundedTo m e acc : ℚ) ≤ (m / 2 ^ excess m e : ℕ) + 1 := by
      exact_mod_cast roundedTo_le_succ m e acc
    have hfloor : ((m / 2 ^ excess m e : ℕ) : ℚ) * 2 ^ excess m e ≤ m := by
      exact_mod_cast Nat.div_mul_le_self _ _
    calc (roundedTo m e acc : ℚ) * 2 ^ (e + excess m e)
        ≤ ((m / 2 ^ excess m e : ℕ) + 1) * 2 ^ (e + excess m e) := by gcongr
      _ = (m / 2 ^ excess m e : ℕ) * 2 ^ excess m e * 2 ^ e + 2 ^ (e + excess m e) := by
        rw [add_one_mul, mul_assoc, two_pow_mul_zpow]
      _ ≤ m * 2 ^ e + (m * 2 ^ e / 2 ^ 52 + tiny) := by
        have hplace := zpow_excess_le hlong
        gcongr
      _ = widen (m * 2 ^ e) := hwiden.symm

/-! ### Arithmetic -/

theorem widen_mono {v v' : ℚ} (h : v ≤ v') : widen v ≤ widen v' := by
  rw [widen, widen]
  gcongr

theorem AtMost.cases {u : UnpackedFloat} {bound : ℚ} (h : AtMost u bound) :
    u = .zero .positive ∨ ∃ m e hm, u = .finite .positive m e hm ∧ m * 2 ^ e ≤ bound := by
  obtain ⟨hsign, hfinite, hvalue⟩ := h
  cases u with
  | notANumber | infinity => cases hfinite
  | zero s =>
    obtain rfl : s = .positive := hsign
    exact .inl rfl
  | finite s m e hm =>
    obtain rfl : s = .positive := hsign
    exact .inr ⟨m, e, hm, rfl, hvalue⟩

theorem atMost_zero {bound : ℚ} (h : 0 ≤ bound) :
    AtMost (unpack binary64 (pack binary64 (.zero .positive))) bound := by
  rw [pack, unpack_packedZero]
  exact ⟨rfl, rfl, h⟩

theorem AtMost.nonneg {u : UnpackedFloat} {bound : ℚ} (h : AtMost u bound) : 0 ≤ bound := by
  rcases h.cases with rfl | ⟨m, e, hm, rfl, hle⟩
  · exact h.value_le
  · exact le_trans (by positivity) hle

theorem widen_nonneg {v : ℚ} (h : 0 ≤ v) : 0 ≤ widen v := by
  have hpos := tiny_pos
  rw [widen]
  positivity

theorem le_widen {v : ℚ} (h : 0 ≤ v) : v ≤ widen v := by
  have hpos := tiny_pos
  rw [widen]
  nlinarith

theorem AtMost.mul {x y : Float} {a b bound : ℚ} (hx : AtMost x.toModel.unpack a)
    (hy : AtMost y.toModel.unpack b) (h : widen (a * b) ≤ bound) (hbound : bound < 2 ^ 64) :
    AtMost (x * y).toModel.unpack bound := by
  have ha := hx.nonneg
  have hb := hy.nonneg
  have hnonneg : 0 ≤ bound := (widen_nonneg (by positivity)).trans h
  rw [unpack_mul]
  rcases hx.cases with hx | ⟨m₁, e₁, hm₁, hx, hle₁⟩ <;>
    rcases hy.cases with hy | ⟨m₂, e₂, hm₂, hy, hle₂⟩ <;>
    rw [hx, hy]
  · exact atMost_zero hnonneg
  · exact atMost_zero hnonneg
  · exact atMost_zero hnonneg
  · refine atMost_roundWithAccuracy ((roundedTo_mul_le (.inl rfl)).trans ?_) hbound
    refine le_trans (widen_mono ?_) h
    calc ((m₁ * m₂ : ℕ) : ℚ) * 2 ^ (e₁ + e₂) = m₁ * 2 ^ e₁ * (m₂ * 2 ^ e₂) := by
          rw [zpow_add₀ (by norm_num)]
          push_cast
          ring
      _ ≤ a * b := by gcongr

/-- The quotient fills a mantissa, or its exponent is the lowest. -/
theorem long_quotient {m₁ m₂ shift : ℕ} {target e₁ e₂ : ℤ} (hm₁ : 0 < m₁) (hm₂ : 0 < m₂)
    (hshift : target + shift = e₁ - e₂)
    (htarget : target = min (e₁ - e₂) (max (m₁.log2 + e₁ - (m₂.log2 + e₂) - 53) (-1074))) :
    2 ^ 52 ≤ m₁ * 2 ^ shift / m₂ ∨ target ≤ -1074 := by
  by_cases hlow : target ≤ -1074
  · exact .inr hlow
  · left
    rw [Nat.le_div_iff_mul_le hm₂]
    calc 2 ^ 52 * m₂ ≤ 2 ^ 52 * 2 ^ (m₂.log2 + 1) :=
          Nat.mul_le_mul_left _ Nat.lt_log2_self.le
      _ = 2 ^ (52 + (m₂.log2 + 1)) := (Nat.pow_add _ _ _).symm
      _ ≤ 2 ^ (m₁.log2 + shift) := Nat.pow_le_pow_right (by decide) (by omega)
      _ = 2 ^ m₁.log2 * 2 ^ shift := Nat.pow_add _ _ _
      _ ≤ m₁ * 2 ^ shift := Nat.mul_le_mul_right _ (Nat.log2_self_le (by omega))

theorem AtMost.div {x y : Float} {a b bound : ℚ} (hx : AtMost x.toModel.unpack a)
    (hy : AtLeastOne y) (hb : 0 < b) (hle : b ≤ value y.toModel.unpack)
    (h : widen (a / b) ≤ bound) (hbound : bound < 2 ^ 64) :
    AtMost (x / y).toModel.unpack bound := by
  have ha := hx.nonneg
  have hnonneg : 0 ≤ bound := (widen_nonneg (by positivity)).trans h
  obtain ⟨m₂, e₂, hm₂, hy, -, -⟩ := hy
  rw [hy] at hle
  rcases hx.cases with hx | ⟨m₁, e₁, hm₁, hx, hle₁⟩
  · rw [unpack_div, hx, hy]
    exact atMost_zero hnonneg
  obtain ⟨target, shift, acc, hdiv, hshift, htarget⟩ := exists_unpack_div hx hy
  have hquotient : ((m₁ * 2 ^ shift / m₂ : ℕ) : ℚ) * 2 ^ target ≤ a / b := by
    have hfloor : m₁ * 2 ^ shift / m₂ * m₂ ≤ m₁ * 2 ^ shift := Nat.div_mul_le_self _ _
    have hcast : ((m₁ * 2 ^ shift / m₂ : ℕ) : ℚ) * m₂ ≤ m₁ * 2 ^ shift := by exact_mod_cast hfloor
    have hvalue : b ≤ m₂ * 2 ^ e₂ := hle
    rw [le_div_iff₀ hb]
    calc ((m₁ * 2 ^ shift / m₂ : ℕ) : ℚ) * 2 ^ target * b
        ≤ (m₁ * 2 ^ shift / m₂ : ℕ) * 2 ^ target * (m₂ * 2 ^ e₂) := by gcongr
      _ = (m₁ * 2 ^ shift / m₂ : ℕ) * m₂ * 2 ^ target * 2 ^ e₂ := by ring
      _ ≤ m₁ * 2 ^ shift * 2 ^ target * 2 ^ e₂ := by gcongr
      _ = m₁ * 2 ^ e₁ := by
          rw [mul_assoc (m₁ : ℚ), two_pow_mul_zpow, hshift, mul_assoc, ← zpow_add₀ (by norm_num),
            sub_add_cancel]
      _ ≤ a := hle₁
  rw [hdiv]
  refine atMost_roundWithAccuracy ((roundedTo_mul_le (.inr ?_)).trans ?_) hbound
  · exact long_quotient hm₁ hm₂ hshift htarget
  · exact (widen_mono hquotient).trans h

/-! ### Order -/

/-- The mantissa of the number with the higher exponent has full length, and that of the other is
not longer. -/
theorem value_le_of_exponent_lt {m₁ m₂ : ℕ} {e₁ e₂ : ℤ} (h₁ : Canonical m₁ e₁)
    (h₂ : Canonical m₂ e₂) (h : e₂ < e₁) : (m₂ : ℚ) * 2 ^ e₂ ≤ m₁ * 2 ^ e₁ := by
  have hfull : 2 ^ 52 ≤ m₁ := by
    rcases h₁.full with hfull | hlowest
    · exact hfull
    · have hlow := h₂.low
      omega
  have hlong : (2 : ℚ) ^ 52 ≤ m₁ := by exact_mod_cast hfull
  have hshort : (m₂ : ℚ) ≤ 2 ^ 53 := by exact_mod_cast h₂.short.le
  have hpow : (2 : ℚ) ^ (e₂ + 1) ≤ 2 ^ e₁ := zpow_two_mono (by omega)
  calc (m₂ : ℚ) * 2 ^ e₂ ≤ 2 ^ 53 * 2 ^ e₂ := by gcongr
    _ = 2 ^ 52 * 2 ^ (e₂ + 1) := by
      rw [two_pow_mul_zpow, two_pow_mul_zpow]
      congr 1
      push_cast
      ring
    _ ≤ m₁ * 2 ^ e₁ := by gcongr

/-- **Values decide.** -/
theorem lt_of_value_lt {x y : Float} {a b : ℚ} (hx : AtMost x.toModel.unpack a)
    (hy : AtMost y.toModel.unpack b) (h : value x.toModel.unpack < value y.toModel.unpack) :
    x < y := by
  rw [lt_iff]
  rcases hx.cases with hx | ⟨m₁, e₁, hm₁, hx, -⟩ <;>
    rcases hy.cases with hy | ⟨m₂, e₂, hm₂, hy, -⟩ <;>
    rw [hx, hy] at h ⊢
  · exact absurd h (lt_irrefl _)
  · rfl
  · have hnonneg : (0 : ℚ) ≤ m₁ * 2 ^ e₁ := by positivity
    exact absurd h (not_lt.mpr hnonneg)
  · have hcanonical₁ := canonical_of_unpack hx
    have hcanonical₂ := canonical_of_unpack hy
    have hvalue : (m₁ : ℚ) * 2 ^ e₁ < m₂ * 2 ^ e₂ := h
    change some ((compare e₁ e₂).then (compare m₁ m₂)) = some .lt
    rcases lt_trichotomy e₁ e₂ with hless | rfl | hgreater
    · rw [Int.compare_eq_lt.mpr hless]
      rfl
    · have hless : m₁ < m₂ := by
        have hcast := lt_of_mul_lt_mul_right hvalue (by positivity)
        exact_mod_cast hcast
      rw [Int.compare_eq_eq.mpr rfl, Nat.compare_eq_lt.mpr hless]
      rfl
    · exact absurd hvalue (not_lt.mpr (value_le_of_exponent_lt hcanonical₁ hcanonical₂ hgreater))

end Autograder.Binary64
