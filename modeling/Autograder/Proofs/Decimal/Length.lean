import Autograder.Decimal.Plain
import Mathlib.Data.Nat.Digits.Defs
import Mathlib.Tactic.Positivity

/-!
# How long the text of a number is

The positional text of a binary64 number is written without an exponent, so its length goes with
the size of the number. The bounds here are crude: they count a decimal digit for every binary one.
They are enough to say that no number has a long text.

## Main definitions

* `Magnitude.InRange` — the significand and the exponent are those of a finite number

## Main results

* `Magnitude.InRange.leading_bounds` — where the leading digit can stand
* `length_plain_le` — the text of a number is short
-/

namespace Autograder.Decimal

/-! ### Positional text -/

theorem length_placePoint_le (digits : List Char) (places : Nat) :
    (placePoint digits places).length ≤ digits.length + places + 2 := by
  simp only [placePoint, List.length_append, List.length_take, List.length_cons, List.length_drop,
    List.length_replicate]
  omega

/-- The text of a decimal has its digits, the zeros that its exponent asks for, and a point. -/
theorem Digits.length_text_le (d : Digits) :
    d.text.length ≤ (Nat.toDigits 10 d.digits).length + d.exponent.natAbs + 2 := by
  rw [Digits.text]
  dsimp only
  split
  · simp only [List.length_append, List.length_replicate]
    omega
  split
  · rw [List.length_take]
    omega
  · have h := length_placePoint_le
      ((Nat.toDigits 10 d.digits).take ((Nat.toDigits 10 d.digits).length
        - min ((Nat.toDigits 10 d.digits).reverse.takeWhile (· == '0')).length
          (-d.exponent).toNat))
      ((-d.exponent).toNat
        - min ((Nat.toDigits 10 d.digits).reverse.takeWhile (· == '0')).length
          (-d.exponent).toNat)
    rw [List.length_take] at h
    omega

/-! ### Finite numbers -/

/-- The significand and the exponent are those of a finite number. -/
structure Magnitude.InRange (x : Magnitude) : Prop where
  significand_lt : x.significand < 2 ^ 53
  le_exponent : -1074 ≤ x.exponent
  exponent_le : x.exponent ≤ 972

theorem Magnitude.inRange_ofBits (bits : UInt64) : (Magnitude.ofBits bits).InRange := by
  have hbiased : (bits >>> 52).toNat % 2048 < 2048 := Nat.mod_lt _ (by decide)
  have hfraction : bits.toNat % 4503599627370496 < 4503599627370496 := Nat.mod_lt _ (by decide)
  rw [Magnitude.ofBits]
  split
  · exact ⟨by dsimp only; omega, Int.le_refl _, by dsimp only; omega⟩
  · exact ⟨by dsimp only; omega, by dsimp only; omega, by dsimp only; omega⟩

/-- A power of two has no more decimal digits than binary ones. -/
theorem two_pow_le_ten_pow {a b : Nat} (h : a ≤ b) : 2 ^ a ≤ 10 ^ b :=
  calc
    2 ^ a ≤ 10 ^ a := Nat.pow_le_pow_left (by decide) a
    _ ≤ 10 ^ b := Nat.pow_le_pow_right (by decide) h

/-- A product of three factors has at most their digits. -/
theorem mul_lt_ten_pow {n m a b : Nat} (hn : n < 10 ^ a) (hm : m ≤ 10 ^ b) (c : Nat) :
    n * m * 10 ^ c < 10 ^ (a + b + c) := by
  rw [Nat.pow_add, Nat.pow_add]
  have hproduct : n * m < 10 ^ a * 10 ^ b :=
    Nat.lt_of_le_of_lt (Nat.mul_le_mul_left n hm) (Nat.mul_lt_mul_of_pos_right hn (by positivity))
  exact Nat.mul_lt_mul_of_pos_right hproduct (by positivity)

theorem length_toDigits_le {n places : Nat} (h : n ≤ 10 ^ places) :
    (Nat.toDigits 10 n).length ≤ places + 1 :=
  Nat.toDigits_length 10 n (places + 1) (Nat.succ_pos places)
    (Nat.lt_of_le_of_lt h (Nat.pow_lt_pow_right (by decide) (Nat.lt_succ_self places)))

namespace Magnitude.InRange

variable {x : Magnitude} {places : Nat}

/-- How many digits the numerator over a power of ten can have. -/
theorem over_fst_lt (h : x.InRange) {exponent : Int}
    (hplaces : 1025 + (-exponent).toNat ≤ places) : (x.over exponent).1 < 10 ^ places := by
  have hscale : 2 ^ x.exponent.toNat ≤ 10 ^ 972 :=
    two_pow_le_ten_pow (by have := h.exponent_le; omega)
  have hsignificand : x.significand < 10 ^ 53 :=
    Nat.lt_of_lt_of_le h.significand_lt (two_pow_le_ten_pow (Nat.le_refl 53))
  calc
    (x.over exponent).1 = x.significand * 2 ^ x.exponent.toNat * 10 ^ (-exponent).toNat := rfl
    _ < 10 ^ (53 + 972 + (-exponent).toNat) := mul_lt_ten_pow hsignificand hscale _
    _ ≤ 10 ^ places := Nat.pow_le_pow_right (by decide) hplaces

/-- How many digits the denominator over one can have. -/
theorem over_zero_snd_lt (h : x.InRange) (hplaces : 1075 ≤ places) :
    (x.over 0).2 < 10 ^ places :=
  calc
    (x.over 0).2 = 2 ^ (-x.exponent).toNat := Nat.mul_one _
    _ < 2 ^ places := Nat.pow_lt_pow_right (by decide) (by have := h.le_exponent; omega)
    _ ≤ 10 ^ places := two_pow_le_ten_pow (Nat.le_refl places)

/-- Where the leading digit can stand. -/
theorem leading_bounds (h : x.InRange) : -1075 ≤ x.leading ∧ x.leading ≤ 1024 := by
  rw [Magnitude.leading]
  dsimp only
  split
  · have hlength := Nat.toDigits_length 10 ((x.over 0).1 / (x.over 0).2) 1025 (by decide)
      (Nat.lt_of_le_of_lt (Nat.div_le_self _ _) (h.over_fst_lt (Nat.le_refl 1025)))
    omega
  · have hlength := Nat.toDigits_length 10 ((x.over 0).2 / (x.over 0).1) 1075 (by decide)
      (Nat.lt_of_le_of_lt (Nat.div_le_self _ _) (h.over_zero_snd_lt (Nat.le_refl 1075)))
    omega

/-- A neighbour on a grid is a decimal of that grid. -/
theorem onGrid?_bounds (h : x.InRange) {exponent : Int} {d : Digits}
    (hd : x.onGrid? exponent = some d) (hplaces : 1025 + (-exponent).toNat ≤ places) :
    d.exponent = exponent ∧ d.digits ≤ 10 ^ places := by
  have hlower : (x.over exponent).1 / (x.over exponent).2 < 10 ^ places :=
    Nat.lt_of_le_of_lt (Nat.div_le_self _ _) (h.over_fst_lt hplaces)
  rw [Magnitude.onGrid?] at hd
  dsimp only at hd
  split at hd
  · split at hd
    · obtain rfl := Option.some.inj hd
      exact ⟨rfl, Nat.le_of_lt hlower⟩
    · obtain rfl := Option.some.inj hd
      exact ⟨rfl, hlower⟩
  · obtain rfl := Option.some.inj hd
    exact ⟨rfl, Nat.le_of_lt hlower⟩
  · obtain rfl := Option.some.inj hd
    exact ⟨rfl, hlower⟩
  · cases hd

/-- The fewest digits that read back are not many, and the point is not far from them. -/
theorem shortest_bounds (h : x.InRange) (hplaces : 2116 ≤ places) :
    x.shortest.exponent.natAbs ≤ 1091 ∧ x.shortest.digits ≤ 10 ^ places := by
  rw [Magnitude.shortest]
  cases hfound : ((List.range 17).map fun (n : Nat) => x.leading - n).findSome? x.onGrid? with
  | none =>
    have hsignificand : x.significand < 10 ^ places :=
      Nat.lt_of_lt_of_le h.significand_lt (two_pow_le_ten_pow (by omega))
    have := h.le_exponent
    have := h.exponent_le
    exact ⟨by rw [Option.getD_none]; dsimp only; omega, Nat.le_of_lt hsignificand⟩
  | some d =>
    obtain ⟨exponent, hmem, hgrid⟩ := List.exists_of_findSome?_eq_some hfound
    obtain ⟨n, hn, rfl⟩ := List.mem_map.mp hmem
    have hn := List.mem_range.mp hn
    have hleading := h.leading_bounds
    have hgridPlaces : 1025 + (-(x.leading - n)).toNat ≤ places := by omega
    obtain ⟨hexponent, hdigits⟩ := h.onGrid?_bounds hgrid hgridPlaces
    rw [Option.getD_some]
    exact ⟨by omega, hdigits⟩

end Magnitude.InRange

/-- **The text of a number is short.** -/
theorem length_plain_le (x : Float) : (plain x).length ≤ 3211 := by
  rw [plain]
  split
  · decide
  split
  · split <;> decide
  dsimp only
  have hdigits : (if (Magnitude.ofBits x.toBits).significand = 0 then ['0']
      else (Magnitude.ofBits x.toBits).shortest.text).length ≤ 3210 := by
    split
    · decide
    · obtain ⟨hexponent, hdigits⟩ :=
        (Magnitude.inRange_ofBits x.toBits).shortest_bounds (Nat.le_refl 2116)
      have htext := (Magnitude.ofBits x.toBits).shortest.length_text_le
      have hlength := length_toDigits_le hdigits
      omega
  rw [String.length_ofList]
  split
  · rw [List.length_cons]
    omega
  · omega

end Autograder.Decimal
