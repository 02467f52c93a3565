import Autograder.Proofs.Arithmetic.Exact

/-!
# Integer arithmetic, one operation on words at a time

The results of `wordResult?` are said in one go, over the integers. Here they are computed as a
machine does it: with a division that rounds toward zero and is corrected afterwards, and with
powers by repeated squaring. An operation of such a computation is either checked, and then says
that no word holds its result, or unchecked, and then stops the program. No unchecked operation is
ever reached with operands that stop it, and no checked one gives up while the result is a word.

## Main definitions

* `Trap`, `unchecked` — operations that stop the program
* `floorDivSteps`, `floorModSteps`, `squareAndMultiply?` — the computations
* `wordSteps` — all operators

## Main results

* `floorDivSteps_eq`, `floorModSteps_eq` — the corrections neither fail nor err
* `squareAndMultiply?_eq` — repeated squaring gives up only where the power is no word
* `wordSteps_eq` — the computations find the results
* `binary_exact` — integer arithmetic is exact
-/

namespace Autograder.Guest

/-! ### Operations -/

/-- Why an unchecked operation stops the program. -/
inductive Trap where
  | overflow
  | zeroDivisor
deriving DecidableEq

/-- The word for the result of an unchecked operation. -/
def unchecked (n : Int) : Except Trap Int64 :=
  match word? n with
  | some w => .ok w
  | none => .error .overflow

/-- The quotient, rounded toward zero. -/
def checkedDiv? (x y : Int64) : Option Int64 :=
  if y = 0 then none else word? (x.toInt.tdiv y.toInt)

/-- The remainder of that quotient; there is none without the quotient. -/
def checkedRem? (x y : Int64) : Option Int64 :=
  (checkedDiv? x y).bind fun _ => word? (x.toInt.tmod y.toInt)

/-- The same remainder, unchecked. -/
def uncheckedRem (x y : Int64) : Except Trap Int64 :=
  if y = 0 then .error .zeroDivisor
  else (unchecked (x.toInt.tdiv y.toInt)).bind fun _ => unchecked (x.toInt.tmod y.toInt)

/-! ### Computations -/

/-- The quotient, rounded down: one less if something remains and the signs differ. -/
def floorDivSteps (x y : Int64) : Except Trap (Option Int64) :=
  match checkedDiv? x y with
  | none => .ok none
  | some q =>
    (uncheckedRem x y).bind fun r =>
      if r ≠ 0 ∧ decide (x < 0) ≠ decide (y < 0) then (unchecked (q.toInt - 1)).map some
      else .ok (some q)

/-- The remainder of that quotient: one divisor more if it is on the other side of zero. -/
def floorModSteps (x y : Int64) : Except Trap (Option Int64) :=
  match checkedRem? x y with
  | none => .ok none
  | some r =>
    if r ≠ 0 ∧ decide (r < 0) ≠ decide (y < 0) then (unchecked (r.toInt + y.toInt)).map some
    else .ok (some r)

/-- Repeated squaring, from the lowest place of a positive exponent on. The last square, which
nothing would use, is not computed. -/
def squareAndMultiply? (base product : Int64) (exponent : Nat) : Option Int64 :=
  if exponent ≤ 1 then word? (product.toInt * base.toInt)
  else
    (if exponent % 2 = 1 then word? (product.toInt * base.toInt) else some product).bind
      fun product => (word? (base.toInt * base.toInt)).bind
        fun square => squareAndMultiply? square product (exponent / 2)
termination_by exponent

/-- A power, by repeated squaring. -/
def checkedPow? (base : Int64) (exponent : Nat) : Option Int64 :=
  if exponent = 0 then some 1 else squareAndMultiply? base 1 exponent

/-- The integer result of an operator, one operation at a time. -/
def wordSteps (op : Operator) (x y : Int64) : Except Trap (Option Int64) :=
  match op with
  | .add => .ok (word? (x.toInt + y.toInt))
  | .sub => .ok (word? (x.toInt - y.toInt))
  | .mul => .ok (word? (x.toInt * y.toInt))
  | .div => .ok none
  | .floorDiv => floorDivSteps x y
  | .mod => floorModSteps x y
  | .pow => .ok (if 0 ≤ y.toInt ∧ y.toInt < 2 ^ 32 then checkedPow? x y.toInt.toNat else none)

/-! ### Division -/

theorem unchecked_eq_ok {n : Int} {w : Int64} (h : word? n = some w) : unchecked n = .ok w := by
  rw [unchecked, h]

/-- Rounding down from rounding toward zero. -/
theorem fdiv_eq_corrected (x : Int) {y : Int} (hy : y ≠ 0) :
    x.fdiv y = if x.tmod y ≠ 0 ∧ decide (x < 0) ≠ decide (y < 0) then x.tdiv y - 1
      else x.tdiv y := by
  have hdvd : y ∣ x ↔ x.tmod y = 0 := Int.dvd_iff_tmod_eq_zero
  rw [Int.fdiv_eq_tdiv]
  rcases Int.lt_or_gt_of_ne hy with hneg | hpos
  · rw [Int.sign_eq_neg_one_of_neg hneg]
    simp only [hdvd, ne_eq, decide_eq_decide]
    split_ifs <;> omega
  · rw [Int.sign_eq_one_of_pos hpos]
    simp only [hdvd, ne_eq, decide_eq_decide]
    split_ifs <;> omega

theorem fmod_eq_corrected (x y : Int) :
    x.fmod y = if x.tmod y ≠ 0 ∧ decide (x.tmod y < 0) ≠ decide (y < 0) then x.tmod y + y
      else x.tmod y := by
  have hdvd : y ∣ x ↔ x.tmod y = 0 := Int.dvd_iff_tmod_eq_zero
  have hside : 0 ≤ x ∧ 0 ≤ x.tmod y ∨ x < 0 ∧ x.tmod y ≤ 0 := by
    rcases Int.lt_or_le x 0 with hx | hx
    · have := Int.tmod_nonneg y (a := -x) (by omega)
      rw [Int.neg_tmod] at this
      exact .inr ⟨hx, by omega⟩
    · exact .inl ⟨hx, Int.tmod_nonneg y hx⟩
  rw [Int.fmod_eq_tmod]
  simp only [hdvd, ne_eq, decide_eq_decide]
  split_ifs <;> omega

section Division

variable {x y : Int64}

/-- The quotient toward zero is a word exactly if the one rounded down is. -/
theorem word?_tdiv_eq_none_iff (hy : y ≠ 0) :
    word? (x.toInt.tdiv y.toInt) = none ↔ x = Int64.minValue ∧ y = -1 := by
  have hx := toInt_range x
  have hy0 := toInt_ne_zero hy
  rw [word?_eq_none_iff, ← Int64.toInt_inj, ← Int64.toInt_inj, toInt_minValue, toInt_neg_one]
  by_cases hone : y.toInt = -1
  · rw [hone, Int.tdiv_neg, Int.tdiv_one]
    omega
  by_cases hone' : y.toInt = 1
  · rw [hone', Int.tdiv_one]
    omega
  · have hhalf : (x.toInt.tdiv y.toInt).natAbs ≤ x.toInt.natAbs / 2 := by
      rw [Int.natAbs_tdiv]
      exact Nat.div_le_div_left (by omega) (by decide)
    omega

theorem exists_word?_tmod (hy : y ≠ 0) : ∃ r, word? (x.toInt.tmod y.toInt) = some r := by
  have hrange := toInt_range y
  have hy0 := toInt_ne_zero hy
  have hlt : (x.toInt.tmod y.toInt).natAbs < y.toInt.natAbs := by
    rw [Int.natAbs_tmod]
    exact Nat.mod_lt _ (by omega)
  exact exists_word?_eq_some (by omega) (by omega)

/-- Of two words whose quotient is a word, all parts of the division are words. -/
theorem exists_division (hy : y ≠ 0) (h : ¬(x = Int64.minValue ∧ y = -1)) :
    ∃ q r, word? (x.toInt.tdiv y.toInt) = some q ∧ word? (x.toInt.tmod y.toInt) = some r ∧
      checkedDiv? x y = some q ∧ checkedRem? x y = some r ∧ uncheckedRem x y = .ok r := by
  obtain ⟨q, hq⟩ := Option.ne_none_iff_exists'.mp (mt (word?_tdiv_eq_none_iff hy).mp h)
  obtain ⟨r, hr⟩ := exists_word?_tmod (x := x) hy
  have hdiv : checkedDiv? x y = some q := by rw [checkedDiv?, if_neg hy, hq]
  refine ⟨q, r, hq, hr, hdiv, ?_, ?_⟩
  · rw [checkedRem?, hdiv, Option.bind_some, hr]
  · rw [uncheckedRem, if_neg hy, unchecked_eq_ok hq]
    exact unchecked_eq_ok hr

theorem lt_zero_iff (w : Int64) : w < 0 ↔ w.toInt < 0 :=
  Int64.lt_iff_toInt_lt

theorem ne_zero_iff (w : Int64) : w ≠ 0 ↔ w.toInt ≠ 0 :=
  ⟨toInt_ne_zero, fun h h0 => h (by rw [h0]; rfl)⟩

/-- A correction that leads to a word is not stopped. -/
theorem corrected_eq {c : Prop} [Decidable c] {n value : Int} {w v : Int64}
    (hword : word? value = some v) (hvalue : value = if c then n else w.toInt) :
    (if c then (unchecked n).map some else .ok (some w)) = .ok (word? value) := by
  split <;> rename_i hcase
  · rw [if_pos hcase] at hvalue
    rw [hword, unchecked_eq_ok (hvalue ▸ hword)]
    rfl
  · rw [if_neg hcase] at hvalue
    rw [hvalue, word?_toInt]

/-- **Division that rounds down** neither stops nor errs. -/
theorem floorDivSteps_eq (hy : y ≠ 0) :
    floorDivSteps x y = .ok (word? (x.toInt.fdiv y.toInt)) := by
  by_cases hleast : x = Int64.minValue ∧ y = -1
  · have hdiv : checkedDiv? x y = none := by
      rw [checkedDiv?, if_neg hy, (word?_tdiv_eq_none_iff hy).mpr hleast]
    rw [floorDivSteps, hdiv, (word?_fdiv_eq_none_iff hy).mpr hleast]
  · obtain ⟨q, r, hq, hr, hdiv, -, hrem⟩ := exists_division hy hleast
    obtain ⟨w, hw⟩ := Option.ne_none_iff_exists'.mp (mt (word?_fdiv_eq_none_iff hy).mp hleast)
    have hcorrected := fdiv_eq_corrected x.toInt (toInt_ne_zero hy)
    rw [← word?_eq_some_iff.mp hq, ← word?_eq_some_iff.mp hr] at hcorrected
    rw [floorDivSteps, hdiv]
    simp only [hrem, Except.bind, ne_zero_iff, lt_zero_iff]
    exact corrected_eq hw hcorrected

/-- **Its remainder** neither stops nor errs. -/
theorem floorModSteps_eq (hy : y ≠ 0) : floorModSteps x y = .ok (wordResult? .mod x y) := by
  by_cases hleast : x = Int64.minValue ∧ y = -1
  · have hrem : checkedRem? x y = none := by
      rw [checkedRem?, checkedDiv?, if_neg hy, (word?_tdiv_eq_none_iff hy).mpr hleast,
        Option.bind_none]
    rw [floorModSteps, hrem, wordResult?, (word?_fdiv_eq_none_iff hy).mpr hleast, Option.bind_none]
  · obtain ⟨q, r, -, hr, -, hrem, -⟩ := exists_division hy hleast
    obtain ⟨w, hw⟩ := exists_word?_fmod (x := x) hy
    have hcorrected := fmod_eq_corrected x.toInt y.toInt
    rw [← word?_eq_some_iff.mp hr] at hcorrected
    rw [floorModSteps, hrem, wordResult?_mod hy hleast]
    simp only [ne_zero_iff, lt_zero_iff]
    exact corrected_eq hw hcorrected

end Division

/-! ### Repeated squaring -/

section Powers

variable {base product : Int64} {exponent : Nat}

/-- What is no word stays none when it is multiplied further by a positive number. -/
theorem word?_mul_eq_none {n s : Int} (h : word? n = none) (hs : 1 ≤ s) :
    word? (n * s) = none := by
  rw [word?_eq_none_iff] at h ⊢
  rcases h with hlow | hhigh
  · exact .inl (by nlinarith)
  · exact .inr (by nlinarith)

/-- The bound itself is no square. -/
theorem two_pow_lt_of_square {n : Nat} (h : 2 ^ 63 ≤ n * n) : 2 ^ 63 < n * n := by
  have hroot : 3037000500 ≤ n := by
    by_contra hlt
    have : n * n ≤ 3037000499 * 3037000499 := Nat.mul_le_mul (by omega) (by omega)
    omega
  calc 2 ^ 63 < 3037000500 * 3037000500 := by decide
    _ ≤ n * n := Nat.mul_le_mul hroot hroot

/-- If the square of the base is no word, no higher power is one. -/
theorem word?_of_square_eq_none (h : word? (base.toInt * base.toInt) = none)
    (hproduct : product ≠ 0) (hexponent : 2 ≤ exponent) :
    word? (product.toInt * base.toInt ^ exponent) = none := by
  have hsquare : 2 ^ 63 < base.toInt.natAbs * base.toInt.natAbs := by
    apply two_pow_lt_of_square
    rw [← Int.natAbs_mul]
    rcases word?_eq_none_iff.mp h with hlow | hhigh
    · have := mul_self_nonneg base.toInt
      omega
    · omega
  have hbase : 0 < base.toInt.natAbs := by
    by_contra hzero
    rw [Nat.eq_zero_of_not_pos hzero] at hsquare
    omega
  have hproduct0 := toInt_ne_zero hproduct
  have hlarge : base.toInt.natAbs * base.toInt.natAbs
      ≤ (product.toInt * base.toInt ^ exponent).natAbs :=
    calc base.toInt.natAbs * base.toInt.natAbs = base.toInt.natAbs ^ 2 := (pow_two _).symm
      _ ≤ base.toInt.natAbs ^ exponent := Nat.pow_le_pow_right hbase hexponent
      _ ≤ product.toInt.natAbs * base.toInt.natAbs ^ exponent :=
        Nat.le_mul_of_pos_left _ (by omega)
      _ = (product.toInt * base.toInt ^ exponent).natAbs := by
        rw [Int.natAbs_mul, Int.natAbs_pow]
  exact word?_eq_none_iff.mpr (by omega)

/-- An odd power is its base times a square. -/
theorem word?_of_product_eq_none (h : word? (product.toInt * base.toInt) = none)
    (hodd : exponent % 2 = 1) : word? (product.toInt * base.toInt ^ exponent) = none := by
  obtain ⟨k, rfl⟩ := Nat.odd_iff.mpr hodd
  have hbase : base.toInt ≠ 0 := by
    intro hzero
    rw [hzero, mul_zero] at h
    cases h
  have hpositive : 1 ≤ base.toInt ^ (2 * k) :=
    Int.add_one_le_of_lt (Even.pow_pos ⟨k, by ring⟩ hbase)
  rw [pow_succ', ← mul_assoc]
  exact word?_mul_eq_none h hpositive

/-- **Repeated squaring** finds every power that is a word, times the product so far. That product
is zero only where the base is. -/
theorem squareAndMultiply?_eq (hexponent : 1 ≤ exponent) (h : product ≠ 0 ∨ base = 0) :
    squareAndMultiply? base product exponent = word? (product.toInt * base.toInt ^ exponent) := by
  fun_induction squareAndMultiply? base product exponent with
  | case1 base product exponent hone =>
    rw [show exponent = 1 by omega, pow_one]
  | case2 base product exponent hlong ih =>
    have hzero {w v : Int64} (hw : w = 0) (hv : w.toInt * w.toInt = v.toInt) : v = 0 := by
      rw [hw, Int64.toInt_zero, mul_zero] at hv
      exact Int64.toInt_inj.mp hv.symm
    have hhalves := pow_mul base.toInt 2 (exponent / 2)
    rw [pow_two] at hhalves
    cases hsquare : word? (base.toInt * base.toInt) with
    | none =>
      have hproduct : product ≠ 0 := h.resolve_right fun hbase => by
        rw [hbase] at hsquare
        cases hsquare
      rw [word?_of_square_eq_none hsquare hproduct (by omega)]
      simp
    | some square =>
      have hvalue := word?_eq_some_iff.mp hsquare
      by_cases hodd : exponent % 2 = 1
      · rw [if_pos hodd]
        cases hnext : word? (product.toInt * base.toInt) with
        | none => rw [Option.bind_none, word?_of_product_eq_none hnext hodd]
        | some next =>
          have hnextvalue := word?_eq_some_iff.mp hnext
          have hkept : next ≠ 0 ∨ square = 0 := by
            by_cases hbase : base = 0
            · exact .inr (hzero hbase hvalue.symm)
            · refine .inl fun hnext0 => ?_
              rw [hnext0, Int64.toInt_zero, eq_comm, mul_eq_zero] at hnextvalue
              exact hnextvalue.elim (toInt_ne_zero (h.resolve_right hbase)) (toInt_ne_zero hbase)
          rw [Option.bind_some, Option.bind_some, ih next square (by omega) hkept, hvalue,
            hnextvalue, ← hhalves, mul_assoc, ← pow_succ',
            show 2 * (exponent / 2) + 1 = exponent by omega]
      · have hkept : product ≠ 0 ∨ square = 0 := h.imp id fun hbase => hzero hbase hvalue.symm
        rw [if_neg hodd, Option.bind_some, Option.bind_some, ih product square (by omega) hkept,
          hvalue, ← hhalves, show 2 * (exponent / 2) = exponent by omega]

theorem checkedPow?_eq (base : Int64) (exponent : Nat) :
    checkedPow? base exponent = word? (base.toInt ^ exponent) := by
  rw [checkedPow?]
  split
  · rename_i hzero
    rw [hzero, pow_zero, eq_comm, word?_eq_some_iff]
    rfl
  · rw [squareAndMultiply?_eq (by omega) (.inl (by decide)), Int64.toInt_one, one_mul]

end Powers

/-! ### All operators -/

section Operators

variable {op : Operator} {a b : Value} {x y v : Int64}

/-- **The computations find the results**, and nothing in them stops the program. -/
theorem wordSteps_eq (h : ¬(op.divides = true ∧ y = 0)) :
    wordSteps op x y = .ok (wordResult? op x y) := by
  cases op with
  | add | sub | mul | div => rfl
  | floorDiv => exact floorDivSteps_eq fun hy => h ⟨rfl, hy⟩
  | mod => exact floorModSteps_eq fun hy => h ⟨rfl, hy⟩
  | pow =>
    rw [wordSteps, wordResult?]
    by_cases hnonneg : 0 ≤ y.toInt
    · rw [if_pos hnonneg]
      by_cases hshort : y.toInt < 2 ^ 32
      · rw [if_pos ⟨hnonneg, hshort⟩, checkedPow?_eq, power?_eq x (by omega)]
      · rw [if_neg (fun h => hshort h.2), power?, if_pos (by omega)]
    · rw [if_neg hnonneg, if_neg (fun h => hnonneg h.1)]

/-- Quotient and remainder make up the dividend. -/
theorem division_identity (hy : y ≠ 0) {q r : Int64} (hq : wordResult? .floorDiv x y = some q)
    (hr : wordResult? .mod x y = some r) :
    x.toInt = q.toInt * y.toInt + r.toInt ∧ (r = 0 ∨ r.toInt.sign = y.toInt.sign) ∧
      r.toInt.natAbs < y.toInt.natAbs := by
  have hq' : q.toInt = x.toInt.fdiv y.toInt := word?_eq_some_iff.mp hq
  have hr' : r.toInt = x.toInt.fmod y.toInt := by
    obtain ⟨_, -, hr⟩ := Option.bind_eq_some_iff.mp hr
    exact word?_eq_some_iff.mp hr
  have hdiv := Int.mul_fdiv_add_fmod x.toInt y.toInt
  have hmod := fmod_bounds x.toInt (toInt_ne_zero hy)
  rw [← hq', ← hr', mul_comm] at hdiv
  rw [← hr'] at hmod
  refine ⟨hdiv.symm, ?_, by omega⟩
  by_cases hr0 : r = 0
  · exact .inl hr0
  · have := toInt_ne_zero hr0
    rcases hmod with ⟨hr, hlt⟩ | ⟨hlt, hr⟩
    · rw [Int.sign_eq_one_of_pos (by omega), Int.sign_eq_one_of_pos (by omega)]
      exact .inr rfl
    · rw [Int.sign_eq_neg_one_of_neg (by omega), Int.sign_eq_neg_one_of_neg (by omega)]
      exact .inr rfl

theorem negate_eq_int_iff (ha : a.Counts x) : a.negate = .ok (.int v) ↔ v.toInt = -x.toInt := by
  rw [Value.negate, ha.number?]
  dsimp only
  rw [← word?_eq_some_iff]
  cases word? (-x.toInt) <;> simp

/-- **Integer arithmetic is exact.** Of two values that count as words, the only fault is that of a
zero divisor; every integer result is the exact one; quotient and remainder fit together; the
computation by operations on words is never stopped and ends with just that integer; and a negative
is an integer exactly if a word holds it. -/
theorem binary_exact (op : Operator) (ha : a.Counts x) (hb : b.Counts y) :
    (a.binary op b = .error .zeroDivision ↔
        y = 0 ∧ (op = .div ∨ op = .floorDiv ∨ op = .mod)) ∧
      (a.binary op b = .error .zeroDivision ∨ (∃ v, a.binary op b = .ok (.int v)) ∨
        ∃ f, a.binary op b = .ok (.float f)) ∧
      (∀ v, a.binary op b = .ok (.int v) → op.result? x.toInt y.toInt = some v.toInt) ∧
      (∀ q r, a.binary .floorDiv b = .ok (.int q) → a.binary .mod b = .ok (.int r) →
        x.toInt = q.toInt * y.toInt + r.toInt ∧ (r = 0 ∨ r.toInt.sign = y.toInt.sign) ∧
          r.toInt.natAbs < y.toInt.natAbs) ∧
      (a.binary op b ≠ .error .zeroDivision →
        ∃ result, wordSteps op x y = .ok result ∧
          ∀ v, a.binary op b = .ok (.int v) ↔ result = some v) ∧
      ∀ v, a.negate = .ok (.int v) ↔ v.toInt = -x.toInt := by
  have hbinary (o : Operator) : a.binary o b = intBinary o x y := ha.binary hb
  have hdivides : op.divides = true ↔ op = .div ∨ op = .floorDiv ∨ op = .mod := by
    cases op <;> simp [Operator.divides]
  have hdivisor {o : Operator} {w : Int64} (h : intBinary o x y = .ok (.int w)) :
      ¬(o.divides = true ∧ y = 0) := fun hzero => by
    rw [intBinary_zeroDivision hzero] at h
    cases h
  simp only [hbinary]
  refine ⟨?_, ?_, fun v hv => ?_, fun q r hq hr => ?_, fun hno => ?_, fun v => negate_eq_int_iff ha⟩
  · rw [intBinary_eq_zeroDivision_iff, hdivides, and_comm]
  · by_cases hzero : op.divides = true ∧ y = 0
    · exact .inl (intBinary_zeroDivision hzero)
    · rcases intBinary_cases hzero with ⟨z, -, heq⟩ | ⟨-, hfloat⟩
      · exact .inr (.inl ⟨z, heq⟩)
      · exact .inr (.inr hfloat)
  · have hfound := (intBinary_eq_int_iff (hdivisor hv)).mp hv
    exact ((wordResult?_eq_some_iff (hdivisor hv)).mp hfound).1
  · have hy : y ≠ 0 := fun hy => hdivisor hq ⟨rfl, hy⟩
    exact division_identity hy ((intBinary_eq_int_iff (hdivisor hq)).mp hq)
      ((intBinary_eq_int_iff (hdivisor hr)).mp hr)
  · have hzero : ¬(op.divides = true ∧ y = 0) := fun hzero => hno (intBinary_zeroDivision hzero)
    exact ⟨_, wordSteps_eq hzero, fun v => intBinary_eq_int_iff hzero⟩

/-- A truth value divided by the least word, rounded down: both operands have a sign of their own,
and something remains. -/
theorem binary_exact_leastDivisor :
    Value.Counts (.bool true) 1 ∧ Value.Counts (.int Int64.minValue) Int64.minValue ∧
      (Value.bool true).binary .floorDiv (.int Int64.minValue) = .ok (.int (-1)) ∧
      Operator.result? .floorDiv (1 : Int64).toInt Int64.minValue.toInt
        = some (-1 : Int64).toInt := by
  have hresult : (Value.bool true).binary .floorDiv (.int Int64.minValue) = .ok (.int (-1)) := by
    decide
  exact ⟨.true, .int _, hresult, (binary_exact .floorDiv .true (.int _)).2.2.1 _ hresult⟩

end Operators

end Autograder.Guest
