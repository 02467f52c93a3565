import Autograder.Proofs.Arithmetic.Words
import Autograder.Proofs.Binary64.Amounts
import Mathlib.Data.Rat.Floor
import Mathlib.Tactic.Linarith

/-!
# Exact integer arithmetic

What the operators mean over the integers, and for which words that meaning is the result. Floats
take over where no word holds the result, and in two more cases: the remainder of the least word by
-1 is given up together with its quotient, and a power is given up when its exponent has more than
32 bits, although 0, 1 and -1 have such powers.

## Main definitions

* `Value.Counts` — integers and truth values as words
* `Operator.result?` — the result over the integers
* `Operator.Overlooks` — the operands for which a result that is a word is not found

## Main results

* `word?_fdiv_eq_none_iff` — the one quotient that is no word
* `wordResult?_eq_some_iff` — which results are found
* `intBinary_cases` — without a zero divisor there is always a result
* `binary_int_iff` — floats take over exactly where no word holds the result, or it is overlooked
-/

namespace Autograder.Guest

/-! ### Division -/

/-- Division that rounds down is the floor of the quotient. -/
theorem fdiv_eq_floor (x y : Int) : x.fdiv y = ⌊(x : ℚ) / y⌋ := by
  have hnonneg {a b : Int} (hb : 0 ≤ b) : a.fdiv b = ⌊(a : ℚ) / b⌋ := by
    obtain ⟨n, rfl⟩ := Int.eq_ofNat_of_zero_le hb
    rw [Int.fdiv_eq_ediv_of_nonneg a (Int.natCast_nonneg n)]
    exact (Rat.floor_intCast_div_natCast a n).symm
  rcases le_total 0 y with hy | hy
  · exact hnonneg hy
  · simpa using hnonneg (a := -x) (neg_nonneg.mpr hy)

/-- A remainder lies on the side of the divisor and closer to zero. -/
theorem fmod_bounds (x : Int) {y : Int} (hy : y ≠ 0) :
    0 ≤ x.fmod y ∧ x.fmod y < y ∨ y < x.fmod y ∧ x.fmod y ≤ 0 := by
  rcases Int.lt_or_gt_of_ne hy with hneg | hpos
  · have hnonneg := Int.fmod_nonneg_of_pos (-x) (Int.neg_pos_of_neg hneg)
    have hlt := Int.fmod_lt_of_pos (-x) (Int.neg_pos_of_neg hneg)
    rw [Int.neg_fmod_neg] at hnonneg hlt
    exact .inr ⟨by omega, by omega⟩
  · exact .inl ⟨Int.fmod_nonneg_of_pos x hpos, Int.fmod_lt_of_pos x hpos⟩

section Division

variable {x y : Int64}

/-- The quotient of two words is a word, except for that of the least word by -1. -/
theorem word?_fdiv_eq_none_iff (hy : y ≠ 0) :
    word? (x.toInt.fdiv y.toInt) = none ↔ x = Int64.minValue ∧ y = -1 := by
  have hx := toInt_range x
  have hdiv := Int.mul_fdiv_add_fmod x.toInt y.toInt
  have hmod := fmod_bounds x.toInt (toInt_ne_zero hy)
  rw [word?_eq_none_iff, ← Int64.toInt_inj, ← Int64.toInt_inj, toInt_minValue, toInt_neg_one]
  generalize x.toInt.fdiv y.toInt = q at hdiv ⊢
  generalize x.toInt.fmod y.toInt = r at hdiv hmod
  constructor
  · rintro (hlow | hhigh)
    · rcases hmod with ⟨hr, hlt⟩ | ⟨hlt, hr⟩ <;> nlinarith
    · rcases hmod with ⟨hr, hlt⟩ | ⟨hlt, hr⟩
      · nlinarith
      · have hone : y.toInt = -1 := by nlinarith
        rw [hone] at hdiv hlt
        exact ⟨by omega, hone⟩
  · rintro ⟨hx, hy⟩
    rw [hx, hy] at hdiv
    rw [hy] at hmod
    omega

theorem exists_word?_fmod (hy : y ≠ 0) : ∃ w, word? (x.toInt.fmod y.toInt) = some w := by
  have hrange := toInt_range y
  have hmod := fmod_bounds x.toInt (toInt_ne_zero hy)
  exact exists_word?_eq_some (by omega) (by omega)

end Division

/-! ### Powers -/

/-- A power with a long exponent is no word unless its base is 0, 1 or -1. -/
theorem word?_pow_eq_none {n : Int} {e : Nat} (he : 64 ≤ e) (hn : 2 ≤ n.natAbs) :
    word? (n ^ e) = none := by
  have hpow : 2 ^ 64 ≤ (n ^ e).natAbs :=
    calc 2 ^ 64 ≤ 2 ^ e := Nat.pow_le_pow_right (by decide) he
      _ ≤ n.natAbs ^ e := Nat.pow_le_pow_left hn e
      _ = (n ^ e).natAbs := (Int.natAbs_pow n e).symm
  exact word?_eq_none_iff.mpr (by omega)

theorem two_le_natAbs {x : Int64} (h : ¬(x = 0 ∨ x = 1 ∨ x = -1)) : 2 ≤ x.toInt.natAbs := by
  have hzero : x.toInt ≠ 0 := toInt_ne_zero fun h0 => h (.inl h0)
  have hone : x.toInt ≠ 1 := toInt_ne fun h1 => h (.inr (.inl h1))
  have hneg : x.toInt ≠ (-1 : Int64).toInt := toInt_ne fun h1 => h (.inr (.inr h1))
  rw [toInt_neg_one] at hneg
  omega

theorem word?_neg_one_pow (e : Nat) :
    word? ((-1) ^ e) = some (if e % 2 = 0 then 1 else -1) := by
  rw [word?_eq_some_iff]
  rcases Nat.even_or_odd e with he | he
  · rw [he.neg_one_pow, if_pos (Nat.even_iff.mp he)]
    rfl
  · rw [he.neg_one_pow, if_neg (by simp [Nat.odd_iff.mp he])]
    rfl

/-- A power is found if a word holds it, as long as the exponent has 32 bits. -/
theorem power?_eq (base : Int64) {e : Nat} (he : e < 2 ^ 32) :
    power? base e = word? (base.toInt ^ e) := by
  rw [power?, if_neg (by omega)]
  split
  · rfl
  rename_i hlong
  split
  · rename_i hbase
    rw [hbase, Int64.toInt_zero, zero_pow (by omega), eq_comm, word?_eq_some_iff]
    rfl
  split
  · rename_i hbase
    rw [hbase, Int64.toInt_one, one_pow, eq_comm, word?_eq_some_iff]
    rfl
  split
  · rename_i hbase
    rw [hbase, toInt_neg_one, word?_neg_one_pow]
  · rename_i hzero hone hneg
    exact (word?_pow_eq_none (by omega) (two_le_natAbs (by simp [hzero, hone, hneg]))).symm

/-! ### Results -/

/-- The result over the integers. Division has none, and neither has a power with a negative
exponent. -/
def Operator.result? (op : Operator) (x y : Int) : Option Int :=
  match op with
  | .add => some (x + y)
  | .sub => some (x - y)
  | .mul => some (x * y)
  | .div => none
  | .floorDiv => if y = 0 then none else some ⌊(x : ℚ) / y⌋
  | .mod => if y = 0 then none else some (x - y * ⌊(x : ℚ) / y⌋)
  | .pow => if y < 0 then none else some (x ^ y.toNat)

/-- The result is not found even where it is a word. -/
def Operator.Overlooks (op : Operator) (x y : Int64) : Prop :=
  op = .mod ∧ x = Int64.minValue ∧ y = -1 ∨ op = .pow ∧ 2 ^ 32 ≤ y.toInt

section Results

variable {op : Operator} {x y v : Int64}

theorem wordResult?_mod (hy : y ≠ 0) (h : ¬(x = Int64.minValue ∧ y = -1)) :
    wordResult? .mod x y = word? (x.toInt.fmod y.toInt) := by
  obtain ⟨q, hq⟩ := Option.ne_none_iff_exists'.mp (mt (word?_fdiv_eq_none_iff hy).mp h)
  rw [wordResult?, hq, Option.bind_some]

/-- **Which results are found**: the exact ones that are words and not overlooked. -/
theorem wordResult?_eq_some_iff (h : ¬(op.divides = true ∧ y = 0)) :
    wordResult? op x y = some v ↔
      op.result? x.toInt y.toInt = some v.toInt ∧ ¬op.Overlooks x y := by
  have hword {n : Int} : word? n = some v ↔ some n = some v.toInt := by
    rw [word?_eq_some_iff, Option.some_inj, eq_comm]
  cases op with
  | add | sub | mul =>
    rw [wordResult?, hword, Operator.result?]
    simp [Operator.Overlooks]
  | div => simp [wordResult?, Operator.result?]
  | floorDiv =>
    have hy : y ≠ 0 := fun hy => h ⟨rfl, hy⟩
    rw [wordResult?, hword, Operator.result?, if_neg (toInt_ne_zero hy), fdiv_eq_floor]
    simp [Operator.Overlooks]
  | mod =>
    have hy : y ≠ 0 := fun hy => h ⟨rfl, hy⟩
    rw [Operator.result?, if_neg (toInt_ne_zero hy), ← fdiv_eq_floor, ← Int.fmod_def, ← hword]
    by_cases hleast : x = Int64.minValue ∧ y = -1
    · rw [wordResult?, (word?_fdiv_eq_none_iff hy).mpr hleast]
      simp [Operator.Overlooks, hleast]
    · rw [wordResult?_mod hy hleast]
      simp [Operator.Overlooks, hleast]
  | pow =>
    by_cases hneg : y.toInt < 0
    · rw [wordResult?, if_neg (by omega), Operator.result?, if_pos hneg]
      simp
    rw [wordResult?, if_pos (by omega), Operator.result?, if_neg hneg]
    by_cases hlong : 2 ^ 32 ≤ y.toInt
    · have hover : Operator.Overlooks .pow x y := .inr ⟨rfl, hlong⟩
      rw [power?, if_pos (by omega)]
      simp [hover]
    · have hover : ¬Operator.Overlooks .pow x y := by
        rintro (⟨⟨⟩, -⟩ | ⟨-, hlong'⟩)
        exact hlong hlong'
      rw [power?_eq x (by omega), hword]
      simp [hover]

/-- The base of an overlooked power. -/
theorem base_of_overlooks (h : Operator.result? .pow x.toInt y.toInt = some v.toInt)
    (hlong : 2 ^ 32 ≤ y.toInt) : x = 0 ∨ x = 1 ∨ x = -1 := by
  by_contra hbase
  rw [Operator.result?, if_neg (by omega), Option.some_inj, eq_comm, ← word?_eq_some_iff,
    word?_pow_eq_none (by omega) (two_le_natAbs hbase)] at h
  cases h

/-! ### Words as operands -/

/-- A word as a float is zero only if the word is. -/
theorem wordFloat_beq_zero (hy : y ≠ 0) : (wordFloat y == 0) = false := by
  have hrange := toInt_range y
  have hne := toInt_ne_zero hy
  rw [wordFloat, Float.ofInt.eq_def]
  split
  · rename_i n hn
    rw [Int.ofNat_eq_natCast] at hn
    exact (Binary64.atLeastOne_ofNat (by omega) (by omega)).beq_zero
  · exact (Binary64.atLeastOne_ofNat (by omega) (by omega)).neg_beq_zero

theorem intBinary_zeroDivision (h : op.divides = true ∧ y = 0) :
    intBinary op x y = .error .zeroDivision := by
  rw [intBinary, if_pos (by simp [h])]

/-- Without a zero divisor the result is the word that is found, or else a float. -/
theorem intBinary_cases (h : ¬(op.divides = true ∧ y = 0)) :
    (∃ z, wordResult? op x y = some z ∧ intBinary op x y = .ok (.int z)) ∨
      wordResult? op x y = none ∧ ∃ f, intBinary op x y = .ok (.float f) := by
  rw [intBinary, if_neg (by simpa using h)]
  cases wordResult? op x y with
  | some z => exact .inl ⟨z, rfl, rfl⟩
  | none =>
    have hdivisor : ¬(op.divides && wordFloat y == 0) = true := by
      intro hzero
      rw [Bool.and_eq_true] at hzero
      refine h ⟨hzero.1, ?_⟩
      by_contra hy
      exact absurd hzero.2 (by simp [wordFloat_beq_zero hy])
    rw [floatBinary.eq_def, if_neg hdivisor]
    exact .inr ⟨rfl, _, rfl⟩

theorem intBinary_eq_zeroDivision_iff :
    intBinary op x y = .error .zeroDivision ↔ op.divides = true ∧ y = 0 := by
  refine ⟨fun h => ?_, intBinary_zeroDivision⟩
  by_contra hdivisor
  rcases intBinary_cases hdivisor with ⟨z, -, heq⟩ | ⟨-, f, heq⟩
  · rw [heq] at h
    cases h
  · rw [heq] at h
    cases h

theorem intBinary_eq_int_iff (h : ¬(op.divides = true ∧ y = 0)) :
    intBinary op x y = .ok (.int v) ↔ wordResult? op x y = some v := by
  rcases intBinary_cases h with ⟨z, hz, heq⟩ | ⟨hnone, f, heq⟩
  · rw [heq, hz]
    simp
  · rw [heq, hnone]
    simp

end Results

/-- The value counts as the word: an integer as itself, a truth value as 0 or 1. -/
inductive Value.Counts : Value → Int64 → Prop
  | int (i : Int64) : Counts (.int i) i
  | false : Counts (.bool false) 0
  | true : Counts (.bool true) 1

namespace Value.Counts

variable {op : Operator} {a b : Value} {x y : Int64}

theorem number? (h : a.Counts x) : a.number? = some (.int x) := by
  cases h <;> rfl

/-- Such values have no other arithmetic than their words. -/
theorem binary (ha : a.Counts x) (hb : b.Counts y) : a.binary op b = intBinary op x y := by
  have hstr {v : Value} {w : Int64} (hv : v.Counts w) (s : String) : v ≠ .str s := by
    rintro rfl
    cases hv
  rw [Value.binary.eq_def]
  split
  · exact absurd rfl (hstr ha _)
  · exact absurd rfl (hstr ha _)
  · exact absurd rfl (hstr hb _)
  · rw [ha.number?, hb.number?]

end Value.Counts

/-! ### Promotion -/

/-- **Promotion to floats.** Where a word holds the exact result, the operator gives that word,
unless the result is overlooked; then it gives a float. A power that is overlooked is one of 0, 1
or -1. -/
theorem binary_int_iff (op : Operator) (x y : Int64) {v : Int64}
    (h : op.result? x.toInt y.toInt = some v.toInt) :
    ((Value.int x).binary op (.int y) = .ok (.int v) ↔ ¬op.Overlooks x y) ∧
      (op.Overlooks x y → (∃ f, (Value.int x).binary op (.int y) = .ok (.float f)) ∧
        (op = .pow → x = 0 ∨ x = 1 ∨ x = -1)) := by
  have hdivisor : ¬(op.divides = true ∧ y = 0) := by
    rintro ⟨hop, rfl⟩
    cases op <;> cases hop <;> cases h
  have hbinary : (Value.int x).binary op (.int y) = intBinary op x y :=
    (Value.Counts.int x).binary (.int y)
  rw [hbinary, intBinary_eq_int_iff hdivisor, wordResult?_eq_some_iff hdivisor]
  refine ⟨and_iff_right h, fun hover => ⟨?_, ?_⟩⟩
  · rcases intBinary_cases hdivisor with ⟨z, hz, -⟩ | ⟨-, f, heq⟩
    · exact absurd hover ((wordResult?_eq_some_iff hdivisor).mp hz).2
    · exact ⟨f, heq⟩
  · rintro rfl
    rcases hover with ⟨⟨⟩, -⟩ | ⟨-, hlong⟩
    exact base_of_overlooks h hlong

/-- The least word is the last power of -2 that is one. -/
theorem binary_leastPower :
    Operator.result? .pow (-2 : Int64).toInt (63 : Int64).toInt = some Int64.minValue.toInt ∧
      ¬Operator.Overlooks .pow (-2) 63 ∧
      (Value.int (-2)).binary .pow (.int 63) = .ok (.int Int64.minValue) := by
  have hover : ¬Operator.Overlooks .pow (-2) 63 := by
    rintro (⟨⟨⟩, -⟩ | ⟨-, hlong⟩)
    exact absurd hlong (by decide)
  exact ⟨rfl, hover, (binary_int_iff .pow (-2) 63 rfl).1.mpr hover⟩

/-- The remainder of the least word by -1 is zero, and 1 to any power is 1. Both come out as
floats. -/
theorem overlooked_leastRemainder_longPower :
    (Operator.result? .mod Int64.minValue.toInt (-1 : Int64).toInt = some (0 : Int64).toInt ∧
        ∃ f, (Value.int Int64.minValue).binary .mod (.int (-1)) = .ok (.float f)) ∧
      Operator.result? .pow (1 : Int64).toInt (4294967296 : Int64).toInt = some (1 : Int64).toInt ∧
        ∃ f, (Value.int 1).binary .pow (.int 4294967296) = .ok (.float f) := by
  have hremainder : Operator.result? .mod Int64.minValue.toInt (-1 : Int64).toInt =
      some (0 : Int64).toInt := by
    rw [Operator.result?, if_neg (by decide), ← fdiv_eq_floor]
    decide
  have hpower : Operator.result? .pow (1 : Int64).toInt (4294967296 : Int64).toInt =
      some (1 : Int64).toInt := by
    rw [Operator.result?, if_neg (by decide), Int64.toInt_one, one_pow]
  exact ⟨⟨hremainder, _, rfl⟩, hpower, _, rfl⟩

end Autograder.Guest
