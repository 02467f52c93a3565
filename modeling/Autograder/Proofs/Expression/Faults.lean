import Autograder.Guest.Machine

/-!
# Which faults an expression can end in

Computing a value can end in many faults, but some come only from the run around it: that the input
is at its end or has the wrong number of fields, that too much is printed, and that the run is told
to stop. `Computed` says of a result that it is none of these. It holds of whatever is built from
such results one after another, so each function of the evaluator needs only a look at its own
faults.

## Main definitions

* `Fault.isOfValue` — the faults that computing a value can end in
* `Computed` — a value, or one of these faults

## Main results

* `computed_evaluate`, `computed_evaluateCondition`, `computed_printLine` — expressions, conditions
  and the arguments of a print
-/

namespace Autograder.Guest

/-- Computing a value can end in the fault. -/
def Fault.isOfValue : Fault → Bool
  | endOfInput | tooFewFields _ _ | tooManyFields _ | outputTooLong | cancelled => false
  | _ => true

/-- The result is a value, or a fault that computing one can end in. -/
def Computed {α : Type} (result : Except Fault α) : Prop :=
  ∀ f, result = .error f → f.isOfValue = true

namespace Computed

variable {α β : Type}

theorem ok (a : α) : Computed (.ok a : Except Fault α) := by
  intro f h
  cases h

theorem error {f : Fault} (h : f.isOfValue = true) : Computed (.error f : Except Fault α) := by
  rintro _ ⟨⟩
  exact h

theorem bind {result : Except Fault α} (h : Computed result) {next : α → Except Fault β}
    (hnext : ∀ a, Computed (next a)) : Computed (result.bind next) := by
  cases result with
  | ok a => exact hnext a
  | error f => exact error (h f rfl)

theorem map {result : Except Fault α} (h : Computed result) (g : α → β) :
    Computed (result.map g) := by
  cases result with
  | ok a => exact ok (g a)
  | error f => exact error (h f rfl)

end Computed

/-! ### Operators -/

theorem computed_checkSize (bytes : Nat) : Computed (checkSize bytes) := by
  rw [checkSize]
  split
  · exact .ok _
  · exact .error rfl

theorem computed_floatBinary (op : Operator) (x y : Float) : Computed (floatBinary op x y) := by
  rw [floatBinary.eq_def]
  split
  · exact .error rfl
  · exact .ok _

theorem computed_intBinary (op : Operator) (x y : Int64) : Computed (intBinary op x y) := by
  rw [intBinary]
  split
  · exact .error rfl
  split
  · exact .ok _
  · exact computed_floatBinary op _ _

theorem computed_binary (op : Operator) (a b : Value) : Computed (a.binary op b) := by
  rw [Value.binary.eq_def]
  split
  · exact .bind (computed_checkSize _) fun _ => .ok _
  · exact .bind (computed_checkSize _) fun _ => .ok _
  · exact .bind (computed_checkSize _) fun _ => .ok _
  split
  · exact computed_intBinary op _ _
  · exact computed_floatBinary op _ _
  · exact .error rfl

theorem computed_negate (a : Value) : Computed a.negate := by
  rw [Value.negate]
  split
  · exact .ok _
  · exact .ok _
  · exact .error rfl

theorem computed_order (asked : Comparison) (a b : Value) : Computed (a.order asked b) := by
  rw [Value.order.eq_def]
  split
  · exact .ok _
  split
  · exact .ok _
  · split
    · exact .ok _
    · exact .error rfl
  · exact .error rfl

theorem computed_holds (op : Comparison) (a b : Value) : Computed (op.holds a b) := by
  cases op with
  | eq | ne => exact .ok _
  | ge | le | gt | lt => exact .map (computed_order _ a b) _

/-! ### Expressions -/

theorem computed_read (kind : NumberKind) (text : List Char) : Computed (kind.read text) := by
  cases kind with
  | int =>
    rw [NumberKind.read, readInt]
    split
    · exact .ok _
    · exact .error rfl
  | float =>
    rw [NumberKind.read, readFloat]
    dsimp only
    split
    · exact .ok _
    · exact .ok _
    · exact .error rfl

theorem computed_eval (vars : Bindings) (t : Term) : Computed (t.eval vars) := by
  induction t with
  | literal v => exact .ok v
  | name n =>
    rw [Term.eval]
    split
    · exact .ok _
    · exact .error rfl
  | negate t ih => exact .bind ih computed_negate
  | binary op l r ihl ihr => exact .bind ihl fun a => .bind ihr fun b => computed_binary op a b

theorem computed_interpolate (vars : Bindings) (template : List Char) :
    Computed (interpolate vars template) := by
  rw [interpolate]
  generalize pieces template = ps
  generalize "" = out
  induction ps generalizing out with
  | nil => exact .ok out
  | cons piece ps ih =>
    rw [List.foldlM_cons]
    refine .bind ?_ ih
    rw [Piece.append.eq_def]
    split
    · exact .ok _
    split
    · exact .map (computed_checkSize _) _
    · exact .ok _
    · exact .ok _

theorem computed_method (m : Method) (v : Value) : Computed (m.apply v) := by
  cases v with
  | str s => cases m <;> exact .ok _
  | int i | float x | bool b => cases m <;> exact .error rfl

theorem computed_call (f : Builtin) (v : Value) : Computed (f.apply v) := by
  rw [Builtin.apply.eq_def]
  split
  · exact .ok _
  · exact .ok _
  · exact .ok _
  · split
    · exact .ok _
    · exact .error rfl
  · exact computed_read .int _
  · exact .ok _
  · exact .error rfl

theorem computed_bareValue (vars : Bindings) (text : List Char) :
    Computed (bareValue vars text) := by
  rw [bareValue]
  split
  · exact .ok _
  split
  · exact computed_eval vars _
  · exact .ok _

/-- **Expressions** end in a value or in a fault of computing one. -/
theorem computed_evaluate (vars : Bindings) (text : List Char) :
    Computed (evaluate vars text) := by
  fun_induction evaluate vars text with
  | case1 => exact .ok _
  | case2 => exact .map (computed_interpolate vars _) _
  | case3 text m receiver _ _ ih => exact .bind ih (computed_method m)
  | case4 text f argument _ _ ih => exact .bind ih (computed_call f)
  | case5 => exact computed_bareValue vars _

/-- **Conditions** end in a truth value or in a fault of computing one. -/
theorem computed_evaluateCondition (vars : Bindings) (text : List Char) :
    Computed (evaluateCondition vars text) := by
  rw [evaluateCondition]
  split
  · exact .bind (computed_evaluate vars _) fun a => .bind (computed_evaluate vars _) fun b =>
      computed_holds _ a b
  · exact .map (computed_evaluate vars _) _

/-- **The arguments of a print** end in a line or in a fault of computing one. -/
theorem computed_printLine (vars : Bindings) (arguments : List Char) :
    Computed (printLine vars arguments) := by
  rw [printLine]
  split
  · exact .ok _
  refine .map ?_ _
  generalize splitTopLevel ',' arguments = parts
  induction parts with
  | nil => exact .ok _
  | cons part parts ih =>
    rw [List.mapM_cons]
    exact .bind (.map (computed_evaluate vars part) _) fun _ => .bind ih fun _ => .ok _

end Autograder.Guest
