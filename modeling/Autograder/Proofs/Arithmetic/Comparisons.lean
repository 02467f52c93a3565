import Autograder.Proofs.Arithmetic.Words
import Autograder.Proofs.Binary64.Amounts

/-!
# Comparisons of values

Equality and order are computed apart, each with its own distinction of kinds: text by code points,
integers and truth values exactly, and everything else as floating-point numbers. Still they belong
together. Both are read off one comparison of the two values, which has no result if one of them is
text and the other is not, or if one of them is no number.

## Main definitions

* `Value.Mixed`, `Value.Unordered` — values that are not compared
* `Value.compare?` — the comparison behind equality and order
* `Comparison.Consistent` — what the six comparisons of two values have to do with each other

## Main results

* `Value.order_eq_ok`, `Value.equals_eq` — order and equality are read off the comparison
* `Comparison.holds_consistent` — the comparisons of any two values are consistent
-/

namespace Autograder.Guest

open Binary64 (compare_swap compare_eq_none_iff)

/-! ### Floats -/

/-- The order of floats is their comparison. -/
theorem floatOrder?_eq (x y : Float) :
    floatOrder? x y = x.toModel.unpack.compare y.toModel.unpack := by
  have hle := Binary64.le_iff (x := x) (y := y)
  have hge := Binary64.le_iff (x := y) (y := x)
  rw [compare_swap x.toModel.unpack] at hge
  rw [floatOrder?]
  cases h : x.toModel.unpack.compare y.toModel.unpack with
  | none => simp [hle, hge, h]
  | some o => cases o <;> simp [hle, hge, h]

theorem beq_eq_floatOrder? (x y : Float) : (x == y) = (floatOrder? x y == some .eq) := by
  rw [floatOrder?_eq]
  exact Binary64.beq_eq x y

theorem floatOrder?_swap (x y : Float) : floatOrder? y x = (floatOrder? x y).map Ordering.swap := by
  rw [floatOrder?_eq, floatOrder?_eq, compare_swap]

theorem floatOrder?_eq_none_iff {x y : Float} :
    floatOrder? x y = none ↔ x.isNaN = true ∨ y.isNaN = true := by
  rw [floatOrder?_eq, compare_eq_none_iff, Binary64.isNaN_iff, Binary64.isNaN_iff]

theorem isNaN_wordFloat (i : Int64) : (wordFloat i).isNaN = false := by
  have hrange := toInt_range i
  exact Binary64.isNaN_ofInt (by omega)

/-! ### Numbers -/

namespace Number

/-- No number at all: a float that stands for none. -/
def isNaN : Number → Bool
  | int _ => false
  | float x => x.isNaN

/-- The comparison of two numbers, exact if both are integers. -/
def compare? : Number → Number → Option Ordering
  | int x, int y => some (compare x.toInt y.toInt)
  | a, b => floatOrder? a.toFloat b.toFloat

theorem isNaN_toFloat (a : Number) : a.toFloat.isNaN = a.isNaN := by
  cases a with
  | int i => exact isNaN_wordFloat i
  | float x => rfl

/-- Changed round, two numbers are compared with the opposite result. -/
theorem compare?_swap (a b : Number) : b.compare? a = (a.compare? b).map Ordering.swap := by
  cases a with
  | int x =>
    cases b with
    | int y => exact congrArg some Std.OrientedCmp.eq_swap
    | float y => exact floatOrder?_swap _ _
  | float x => cases b <;> exact floatOrder?_swap _ _

theorem compare?_eq_none_iff {a b : Number} :
    a.compare? b = none ↔ a.isNaN = true ∨ b.isNaN = true := by
  have hfloat : floatOrder? a.toFloat b.toFloat = none ↔ a.isNaN = true ∨ b.isNaN = true := by
    rw [floatOrder?_eq_none_iff, isNaN_toFloat, isNaN_toFloat]
  cases a with
  | int x =>
    cases b with
    | int y => exact ⟨nofun, by simp [isNaN]⟩
    | float y => exact hfloat
  | float x => cases b <;> exact hfloat

end Number

/-! ### Values -/

namespace Value

/-- A float that stands for no number. -/
def isNaN : Value → Bool
  | float x => x.isNaN
  | _ => false

/-- One of the values is text and the other is not. -/
def Mixed (a b : Value) : Prop :=
  ¬(a.kind = .str ↔ b.kind = .str)

/-- Both values are numbers of their kind, and one of them stands for no number. -/
def Unordered (a b : Value) : Prop :=
  a.kind ≠ .str ∧ b.kind ≠ .str ∧ (a.isNaN = true ∨ b.isNaN = true)

/-- The comparison behind equality and order. -/
def compare? (a b : Value) : Option Ordering :=
  match a, b with
  | str s, str t => some (compare s t)
  | _, _ =>
    match a.number?, b.number? with
    | some x, some y => x.compare? y
    | _, _ => none

variable {a b : Value}

/-- Two values are texts or numbers, or one of each. -/
theorem texts_or_numbers_or_mixed (a b : Value) :
    (∃ s t, a = str s ∧ b = str t) ∨ (∃ x y, a.number? = some x ∧ b.number? = some y) ∨
      Mixed a b := by
  cases a <;> cases b <;> simp [number?, Mixed, kind]

section Numbers

variable {x y : Number} (ha : a.number? = some x) (hb : b.number? = some y)

include ha

theorem kind_of_number? : a.kind ≠ .str := by
  rintro hkind
  cases a <;> cases hkind
  cases ha

theorem isNaN_of_number? : a.isNaN = x.isNaN := by
  cases a <;> cases ha <;> rfl

theorem not_texts_of_number? (b : Value) : ∀ s t, a = str s → b = str t → False := by
  rintro s t rfl
  cases ha

include hb

theorem compare?_of_numbers : a.compare? b = x.compare? y := by
  rw [compare?.eq_2 a b (not_texts_of_number? ha b), ha, hb]

theorem order_of_numbers (asked : Comparison) :
    a.order asked b = match x.compare? y with
      | some o => .ok o
      | none => .error .unorderedFloats := by
  rw [order.eq_2 asked a b (not_texts_of_number? ha b), ha, hb]
  cases x <;> cases y <;> rfl

theorem equals_of_numbers : a.equals b = (x.compare? y == some .eq) := by
  rw [equals.eq_2 a b (not_texts_of_number? ha b), ha, hb]
  cases x with
  | int x =>
    cases y with
    | int y =>
      rw [Number.compare?, Bool.eq_iff_iff, beq_iff_eq, beq_iff_eq, Option.some_inj,
        Std.compare_eq_iff_eq, Int64.toInt_inj]
    | float y => exact beq_eq_floatOrder? _ _
  | float x => cases y <;> exact beq_eq_floatOrder? _ _

end Numbers

/-- Text and number have nothing to be compared by. -/
theorem Mixed.order_eq (h : Mixed a b) (asked : Comparison) :
    a.order asked b = .error (.badComparison asked a.kind b.kind) := by
  cases a <;> cases b <;> first
    | rfl
    | exact absurd (by simp [kind]) h

theorem Mixed.equals_eq (h : Mixed a b) : a.equals b = false := by
  cases a <;> cases b <;> first
    | rfl
    | exact absurd (by simp [kind]) h

theorem Mixed.compare?_eq (h : Mixed a b) : a.compare? b = none := by
  cases a <;> cases b <;> first
    | rfl
    | exact absurd (by simp [kind]) h

theorem Mixed.symm (h : Mixed a b) : Mixed b a :=
  fun hkind => h hkind.symm

/-- **The comparison the other way round** has the opposite result. -/
theorem compare?_swap (a b : Value) : b.compare? a = (a.compare? b).map Ordering.swap := by
  rcases texts_or_numbers_or_mixed a b with ⟨s, t, rfl, rfl⟩ | ⟨x, y, ha, hb⟩ | h
  · exact congrArg some Std.OrientedCmp.eq_swap
  · rw [compare?_of_numbers ha hb, compare?_of_numbers hb ha, Number.compare?_swap]
  · rw [h.compare?_eq, h.symm.compare?_eq, Option.map_none]

/-- **The values that are not compared.** -/
theorem compare?_eq_none_iff : a.compare? b = none ↔ Mixed a b ∨ Unordered a b := by
  rcases texts_or_numbers_or_mixed a b with ⟨s, t, rfl, rfl⟩ | ⟨x, y, ha, hb⟩ | h
  · simp [compare?, Mixed, Unordered, kind]
  · have hmixed : ¬Mixed a b := not_not.mpr
      (iff_of_false (kind_of_number? ha) (kind_of_number? hb))
    rw [compare?_of_numbers ha hb, Number.compare?_eq_none_iff, ← isNaN_of_number? ha,
      ← isNaN_of_number? hb]
    exact ⟨fun hnan => .inr ⟨kind_of_number? ha, kind_of_number? hb, hnan⟩,
      fun h => (h.resolve_left hmixed).2.2⟩
  · exact iff_of_true h.compare?_eq (.inl h)

/-- **Order** is read off the comparison. -/
theorem order_eq_ok {o : Ordering} (h : a.compare? b = some o) (asked : Comparison) :
    a.order asked b = .ok o := by
  rcases texts_or_numbers_or_mixed a b with ⟨s, t, rfl, rfl⟩ | ⟨x, y, ha, hb⟩ | hmixed
  · exact congrArg Except.ok (Option.some.inj h)
  · rw [compare?_of_numbers ha hb] at h
    rw [order_of_numbers ha hb, h]
  · rw [hmixed.compare?_eq] at h
    cases h

theorem Unordered.order_eq (h : Unordered a b) (asked : Comparison) :
    a.order asked b = .error .unorderedFloats := by
  have hnone := compare?_eq_none_iff.mpr (.inr h)
  rcases texts_or_numbers_or_mixed a b with ⟨s, t, rfl, rfl⟩ | ⟨x, y, ha, hb⟩ | hmixed
  · exact absurd rfl h.1
  · rw [compare?_of_numbers ha hb] at hnone
    rw [order_of_numbers ha hb, hnone]
  · exact absurd (iff_of_false h.1 h.2.1) hmixed

/-- **Equality** is read off the comparison. -/
theorem equals_eq (a b : Value) : a.equals b = (a.compare? b == some .eq) := by
  rcases texts_or_numbers_or_mixed a b with ⟨s, t, rfl, rfl⟩ | ⟨x, y, ha, hb⟩ | hmixed
  · rw [compare?, Bool.eq_iff_iff, beq_iff_eq, Option.some_inj, Std.compare_eq_iff_eq]
    exact beq_iff_eq
  · rw [equals_of_numbers ha hb, compare?_of_numbers ha hb]
  · rw [hmixed.equals_eq, hmixed.compare?_eq]
    rfl

end Value

/-! ### The six comparisons -/

namespace Comparison

open Value (Mixed Unordered compare? compare?_swap compare?_eq_none_iff order_eq_ok)

/-- The comparisons that ask for an order. -/
def isOrdering : Comparison → Bool
  | eq | ne => false
  | ge | le | gt | lt => true

/-- What the six comparisons of two values have to do with each other. -/
structure Consistent (a b : Value) : Prop where
  /-- Each ordering is a fault for the same values: those of which one is text and the other is not,
  and those of which one stands for no number. -/
  fault : ∀ op : Comparison, op.isOrdering = true → ∀ f, op.holds a b = .error f ↔
    Mixed a b ∧ f = .badComparison op a.kind b.kind ∨ Unordered a b ∧ f = .unorderedFloats
  /-- Equality never is a fault, is the same the other way round, and is the opposite of
  inequality. Where an ordering is a fault it does not hold. -/
  equality : ∃ same, eq.holds a b = .ok same ∧ eq.holds b a = .ok same ∧
    ne.holds a b = .ok (!same) ∧ (Mixed a b ∨ Unordered a b → same = false)
  /-- Elsewhere just one of less, equal and greater holds, the other two orderings are the opposites
  of these, and less is greater the other way round. -/
  ordering : ¬Mixed a b → ¬Unordered a b → ∃ less same greater,
    lt.holds a b = .ok less ∧ eq.holds a b = .ok same ∧ gt.holds a b = .ok greater ∧
      [less, same, greater].count true = 1 ∧
      ge.holds a b = .ok (!less) ∧ le.holds a b = .ok (!greater) ∧
      gt.holds b a = .ok less ∧ lt.holds b a = .ok greater

variable {a b : Value}

/-- An ordering is a fault when there is no order. -/
theorem holds_eq_error {op : Comparison} (hop : op.isOrdering = true) {f : Fault}
    (h : a.order op b = .error f) : op.holds a b = .error f := by
  cases op with
  | eq | ne => cases hop
  | ge | le | gt | lt => rw [holds, h, Except.map]

/-- An ordering has a result when there is an order. -/
theorem exists_holds_eq_ok (op : Comparison) {o : Ordering} (h : a.compare? b = some o) :
    ∃ holds, op.holds a b = .ok holds := by
  have horder := order_eq_ok h op
  cases op with
  | eq | ne => exact ⟨_, rfl⟩
  | ge | le | gt | lt => exact ⟨_, by rw [holds, horder, Except.map]⟩

theorem holds_eq_error_iff {op : Comparison} (hop : op.isOrdering = true) (f : Fault) :
    op.holds a b = .error f ↔
      Mixed a b ∧ f = .badComparison op a.kind b.kind ∨ Unordered a b ∧ f = .unorderedFloats := by
  constructor
  · intro hfault
    have hnone : a.compare? b = none := by
      rw [Option.eq_none_iff_forall_ne_some]
      intro o ho
      obtain ⟨result, hresult⟩ := exists_holds_eq_ok op ho
      rw [hresult] at hfault
      cases hfault
    rcases compare?_eq_none_iff.mp hnone with hmixed | hunordered
    · rw [holds_eq_error hop (hmixed.order_eq op)] at hfault
      exact .inl ⟨hmixed, (Except.error.inj hfault).symm⟩
    · rw [holds_eq_error hop (hunordered.order_eq op)] at hfault
      exact .inr ⟨hunordered, (Except.error.inj hfault).symm⟩
  · rintro (⟨hmixed, rfl⟩ | ⟨hunordered, rfl⟩)
    · exact holds_eq_error hop (hmixed.order_eq op)
    · exact holds_eq_error hop (hunordered.order_eq op)

theorem equals_comm (a b : Value) : b.equals a = a.equals b := by
  rw [Value.equals_eq, Value.equals_eq, compare?_swap]
  cases a.compare? b with
  | none => rfl
  | some o => cases o <;> rfl

/-- **The six comparisons are consistent**, whatever the values are. -/
theorem holds_consistent (a b : Value) : Consistent a b where
  fault _ hop f := holds_eq_error_iff hop f
  equality := by
    refine ⟨a.equals b, rfl, congrArg Except.ok (equals_comm a b), rfl, fun h => ?_⟩
    rw [Value.equals_eq, compare?_eq_none_iff.mpr h]
    rfl
  ordering hmixed hunordered := by
    have hsome : a.compare? b ≠ none := fun h =>
      (compare?_eq_none_iff.mp h).elim hmixed hunordered
    obtain ⟨o, ho⟩ := Option.ne_none_iff_exists'.mp hsome
    have hswap : b.compare? a = some o.swap := by rw [compare?_swap, ho, Option.map_some]
    refine ⟨o == .lt, o == .eq, o == .gt, ?_⟩
    simp only [holds, order_eq_ok ho, order_eq_ok hswap, Value.equals_eq, ho, Except.map]
    cases o <;> simp [Ordering.swap]

end Comparison

end Autograder.Guest
