import Mathlib

/-!
# The parts of a floating-point number

A number of 64 bits has a sign, an exponent and a mantissa of 53 places of which the first is not
kept. Arithmetic takes numbers apart and puts the result together again, and what can be said of
the result depends on what is lost there: the sign never is, a finite number stays finite while its
exponent is in range, and a mantissa of full length comes back as it was.

## Main definitions

* `HasSign` — a number, finite or not, with a given sign
* `InRange` — a finite number whose exponent can be kept
* `Canonical` — what the parts of a finite number look like

## Main results

* `unpack_packComponents` — what the three parts mean
* `hasSign_unpack_pack`, `isFinite_unpack_pack` — what putting together keeps
* `unpack_pack_normal` — a mantissa of full length comes back
-/

namespace Autograder.Binary64

open Float.Model (UnpackedFloat)
open Float.Model.UnpackedFloat
open Float.Model.Format (binary64)

/-- The first place of a mantissa, which is not kept, is put back. -/
theorem toNat_implicit {width : Nat} (m : BitVec width) :
    (1#1 ++ m).toNat = 2 ^ width + m.toNat := by
  rw [BitVec.toNat_append, ← Nat.shiftLeft_add_eq_or_of_lt m.isLt, Nat.shiftLeft_eq]
  simp

/-- What the three parts of a number mean. -/
theorem unpack_packComponents (s : Sign) (e : BitVec 11) (m : BitVec 52) :
    unpack binary64 (packComponents binary64 s e m) =
      if e = -1#11 then if m = 0#52 then .infinity s else .notANumber
      else if e = 0#11 then
        if h : m = 0#52 then .zero s
        else .finite s m.toNat (e.toNat - 1075 + 1)
          (by simpa [BitVec.toNat_pos, BitVec.pos_iff_ne_zero])
      else .finite s (2 ^ 52 + m.toNat) (e.toNat - 1075) (by omega) := by
  rw [UnpackedFloat.unpack]
  simp only [unpackMantissa_packComponents, unpackExponent_packComponents,
    unpackSign_packComponents, Sign.ofBitVec_toBitVec, toNat_implicit]
  rfl

/-- The number has this sign; one that is no number has none. -/
def HasSign (s : Sign) : UnpackedFloat → Prop
  | .infinity s' | .zero s' | .finite s' _ _ _ => s' = s
  | .notANumber => False

theorem HasSign.ne_notANumber {s : Sign} {u : UnpackedFloat} (h : HasSign s u) :
    u ≠ .notANumber := by
  rintro rfl
  exact h

theorem HasSign.neg {u : UnpackedFloat} (h : HasSign .positive u) : HasSign .negative u.neg := by
  cases u with
  | notANumber => cases h
  | infinity s | zero s | finite s =>
    obtain rfl : s = .positive := h
    rfl

/-- Every exponent but the highest is that of a finite number. -/
theorem finite_unpack_packComponents (s : Sign) {e : BitVec 11} (h : e ≠ -1#11) (m : BitVec 52) :
    HasSign s (unpack binary64 (packComponents binary64 s e m)) ∧
      (unpack binary64 (packComponents binary64 s e m)).isFinite = true := by
  rw [unpack_packComponents, if_neg h]
  split
  · split <;> exact ⟨rfl, rfl⟩
  · exact ⟨rfl, rfl⟩

theorem unpack_packedInfinity (s : Sign) :
    unpack binary64 (packedInfinity binary64 s) = .infinity s :=
  unpack_packComponents s (-1#11) 0

theorem ofNat_ne_highest {n : Nat} (h : n < 2047) : BitVec.ofNat 11 n ≠ -1#11 := by
  intro heq
  have := congrArg BitVec.toNat heq
  simp only [BitVec.toNat_ofNat] at this
  change n % 2048 = 2047 at this
  omega

/-- A finite number whose exponent can be kept. -/
def InRange : UnpackedFloat → Prop
  | .finite _ _ e _ => e ≤ 971
  | .zero _ => True
  | .infinity _ | .notANumber => False

/-- How a finite number is put together. -/
theorem pack_finite (s : Sign) {m : Nat} (e : Int) (hm : 0 < m) :
    pack binary64 (.finite s m e hm) =
      if 2047 ≤ (e + 1075).toNat then packedInfinity binary64 s
      else if m.log2 = 52 then
        packComponents binary64 s (BitVec.ofNat 11 (e + 1075).toNat) (BitVec.ofNat 52 m)
      else packComponents binary64 s 0#11 (BitVec.ofNat 52 m) := by
  have hbiased : (e + binary64.exponentBias + binary64.mantissaBitsWithoutImplicit).toNat =
      (e + 1075).toNat := by
    change (e + 1023 + 52).toNat = _
    omega
  have hhighest : (2 ^ binary64.exponentBits ≤ (e + 1075).toNat + 1) =
      (2047 ≤ (e + 1075).toNat) := by
    change (2048 ≤ _) = _
    simp
  have hfull : (m.log2 + 1 = binary64.mantissaBits) = (m.log2 = 52) := by
    change (m.log2 + 1 = 53) = _
    simp
  simp only [pack, hbiased, hhighest, hfull]

/-- **A sign is never lost.** -/
theorem hasSign_unpack_pack {s : Sign} {u : UnpackedFloat} (h : HasSign s u) :
    HasSign s (unpack binary64 (pack binary64 u)) := by
  cases u with
  | notANumber => cases h
  | infinity s' =>
    rw [pack, unpack_packedInfinity]
    exact h
  | zero s' =>
    rw [pack, unpack_packedZero]
    exact h
  | finite s' m e hm =>
    obtain rfl : s' = s := h
    rw [pack_finite]
    split
    · rw [unpack_packedInfinity]
      rfl
    · split
      · exact (finite_unpack_packComponents s' (ofNat_ne_highest (by omega)) _).1
      · exact (finite_unpack_packComponents s' (by decide) _).1

/-- **A finite number stays finite** while its exponent can be kept. -/
theorem isFinite_unpack_pack {u : UnpackedFloat} (h : InRange u) :
    (unpack binary64 (pack binary64 u)).isFinite = true := by
  cases u with
  | notANumber | infinity => cases h
  | zero s =>
    rw [pack, unpack_packedZero]
    rfl
  | finite s m e hm =>
    have he : e ≤ 971 := h
    rw [pack_finite, if_neg (by omega)]
    split
    · exact (finite_unpack_packComponents s (ofNat_ne_highest (by omega)) _).2
    · exact (finite_unpack_packComponents s (by decide) _).2

/-- **A mantissa of full length comes back** with an exponent that can be kept. -/
theorem unpack_pack_normal (s : Sign) {m : Nat} {e : Int} (hm : 2 ^ 52 ≤ m) (hm' : m < 2 ^ 53)
    (he : -1074 ≤ e) (he' : e ≤ 971) :
    unpack binary64 (pack binary64 (.finite s m e (by omega))) = .finite s m e (by omega) := by
  have hlog : m.log2 = 52 := (Nat.log2_eq_iff (by omega)).mpr ⟨hm, hm'⟩
  have hexponent : (BitVec.ofNat 11 (e + 1075).toNat).toNat = (e + 1075).toNat := by
    rw [BitVec.toNat_ofNat]
    omega
  have hnonzero : BitVec.ofNat 11 (e + 1075).toNat ≠ 0#11 := by
    intro hzero
    rw [hzero] at hexponent
    change 0 = _ at hexponent
    omega
  rw [pack_finite, if_neg (by omega), if_pos hlog, unpack_packComponents,
    if_neg (ofNat_ne_highest (by omega)), if_neg hnonzero]
  simp only [hexponent, BitVec.toNat_ofNat, UnpackedFloat.finite.injEq, true_and]
  omega

/-- The parts of a finite number that is taken apart. The mantissa has full length unless the
exponent is the lowest. -/
structure Canonical (m : Nat) (e : Int) : Prop where
  short : m < 2 ^ 53
  low : -1074 ≤ e
  high : e ≤ 971
  full : 2 ^ 52 ≤ m ∨ e = -1074

theorem canonical_of_unpack {bits : BitVec binary64.numBits} {s : Sign} {m : Nat} {e : Int}
    {hm : 0 < m} (h : unpack binary64 bits = .finite s m e hm) : Canonical m e := by
  rw [UnpackedFloat.unpack] at h
  have hmantissa : (unpackMantissa bits).toNat < 2 ^ 52 := (unpackMantissa bits).isLt
  have hbias : (binary64.exponentBias : Int) + binary64.mantissaBitsWithoutImplicit = 1075 := rfl
  split at h
  · split at h <;> cases h
  · rename_i hhighest
    have hhigh : ((unpackExponent bits).toNat : Int) - 1075 ≤ 971 := by
      have hlt : (unpackExponent bits).toNat < 2048 := (unpackExponent bits).isLt
      have hne : (unpackExponent bits).toNat ≠ 2047 :=
        fun heq => hhighest (BitVec.eq_of_toNat_eq heq)
      omega
    split at h
    · rename_i hlowest
      rw [hlowest] at h
      split at h
      · cases h
      · obtain ⟨-, rfl, rfl⟩ := UnpackedFloat.finite.inj h
        exact ⟨by omega, by decide, by decide, .inr (by decide)⟩
    · rename_i hlowest
      have hlow : -1074 ≤ ((unpackExponent bits).toNat : Int) - 1075 := by
        have hne : (unpackExponent bits).toNat ≠ 0 :=
          fun heq => hlowest (BitVec.eq_of_toNat_eq heq)
        omega
      obtain ⟨-, rfl, rfl⟩ := UnpackedFloat.finite.inj h
      rw [toNat_implicit, hbias]
      refine ⟨?_, hlow, hhigh, .inl ?_⟩
      · change 2 ^ 52 + _ < _
        omega
      · change 2 ^ 52 ≤ 2 ^ 52 + _
        omega

end Autograder.Binary64
