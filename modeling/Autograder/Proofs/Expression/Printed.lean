import Autograder.Proofs.Expression.Forms

/-!
# Evaluation of printed terms

A term that is printed and evaluated could be taken for something else on the way. Either this does
not happen, or it makes no difference: a text in quotes is the literal of that text, and a constant
is a literal with at most one sign, whose value is the same as that of the term. What remains is
bare, and a bare text that is no name is read as the term it came from.

## Main results

* `Term.constantValue?_write` — a term whose text is a constant has that value
* `evaluate_write` — a printed term evaluates to the value of the term
-/

namespace Autograder.Guest

namespace Term

/-! ### Which terms are constants -/

/-- The negative of an integer literal is a constant, and its value is the same either way. -/
theorem exists_constantValue?_minus {i : Int64} (h : 0 ≤ i) :
    ∃ v, Form.constantValue? ('-' :: (Value.int i).write) = some v ∧
      (Value.int i).negate = .ok v := by
  obtain ⟨j, hj⟩ : ∃ j, word? (-i.toInt) = some j := by
    have hrange := toInt_range i
    have hnonneg := toNat_toInt h
    exact exists_word?_eq_some (by omega) (by omega)
  have hint : intLiteral? ('-' :: (Value.int i).write) = some j := by
    rw [intLiteral?, Decimal.integer?, Decimal.splitSign]
    dsimp only
    rw [digits?_write_int h]
    show word? (-(i.toInt.toNat : Int)) = some j
    rw [toNat_toInt h, hj]
  refine ⟨.int j, ?_, ?_⟩
  · rw [Form.constantValue?, hint]
  · simp [Value.negate, Value.number?, hj]

/-- Only a signed integer literal is an operation that reads as an integer. -/
theorem intLiteral?_write_of_isOperation {t : Term} (h : t.isWritable = true)
    (hop : t.isOperation = true) (hint : ∀ i, t ≠ .negate (.literal (.int i))) :
    intLiteral? (t.write .sum) = none := by
  cases t with
  | literal v => simp [isOperation] at hop
  | name n => simp [isOperation] at hop
  | negate t =>
    obtain ⟨d, hmem, hd⟩ := exists_mem_of_not_int (show t.isWritable = true from h)
      (fun i heq => hint i (congrArg negate heq)) .unary
    exact Form.intLiteral?_minus_of_mem hmem hd
  | binary o l r =>
    have hmem : ' ' ∈ (binary o l r).write .sum := mem_enclose (by simp)
    exact Form.intLiteral?_of_mem hmem (by decide) (by decide) (by decide)

/-- The text of a literal is the constant of that literal. -/
theorem constantValue?_literal {v : Value} (h : v.isWritable = true) (hstr : ∀ s, v ≠ .str s) :
    Form.constantValue? v.write = some v := by
  cases v with
  | int i =>
    have hi : 0 ≤ i := by simpa [Value.isWritable] using h
    rw [Form.constantValue?, intLiteral?_write_int hi]
  | float x => simp [Value.isWritable] at h
  | str s => exact absurd rfl (hstr s)
  | bool b =>
    obtain ⟨d, hmem, hd, hminus, hplus⟩ : ∃ d ∈ (Value.bool b).write,
        Decimal.isDigit d = false ∧ d ≠ '-' ∧ d ≠ '+' := by
      cases b <;> exact ⟨_, List.mem_cons_self, by decide, by decide, by decide⟩
    have hpoint : '.' ∈ (Value.bool b).write → '\'' ∈ (Value.bool b).write := by
      cases b <;> decide
    rw [Form.constantValue?_of_not_number (Form.intLiteral?_of_mem hmem hd hminus hplus) hpoint]
    cases b <;> rfl

/-- No identifier is a constant. -/
theorem constantValue?_name {n : String} (h : isIdentifier n.toList = true) :
    Form.constantValue? n.toList = none := by
  obtain ⟨d, w, heq, hd, hw⟩ := exists_cons_of_isIdentifier h
  have hmem : d ∈ n.toList := heq ▸ List.mem_cons_self
  have hint : intLiteral? n.toList = none :=
    Form.intLiteral?_of_mem hmem (isDigit_of_startsName hd) (ne_of_class hd (by decide))
      (ne_of_class hd (by decide))
  have hpoint : '.' ∉ n.toList := fun hin =>
    ne_of_class (hw '.' (heq ▸ hin)) (by decide) rfl
  rw [Form.constantValue?_of_not_number hint (absurd · hpoint), boolLiteral?_of_isIdentifier h,
    Option.map_none]

/-- An operation is no constant unless it is a signed integer literal. -/
theorem constantValue?_of_isOperation {t : Term} (h : t.isWritable = true)
    (hop : t.isOperation = true) (hint : ∀ i, t ≠ .negate (.literal (.int i))) :
    Form.constantValue? (t.write .sum) = none := by
  rw [Form.constantValue?_of_not_number (intLiteral?_write_of_isOperation h hop hint)
    (mark_mem_of_point_mem h .sum), (not_word_of_isOperation hop .sum).1, Option.map_none]

/-- A term whose text is a constant has that constant as its value. -/
theorem constantValue?_write {t : Term} (h : t.isWritable = true)
    (hstr : ∀ s, t ≠ .literal (.str s)) :
    (∃ v, Form.constantValue? (t.write .sum) = some v ∧ ∀ vars, t.eval vars = .ok v) ∨
      Form.constantValue? (t.write .sum) = none ∧ (t.isOperation = true ∨ ∃ n, t = .name n) := by
  cases t with
  | literal v =>
    exact Or.inl ⟨v, constantValue?_literal h fun s heq => hstr s (congrArg literal heq),
      fun vars => rfl⟩
  | name n => exact Or.inr ⟨constantValue?_name h, Or.inr ⟨n, rfl⟩⟩
  | negate t =>
    by_cases hlit : ∃ i, t = .literal (.int i)
    · obtain ⟨i, rfl⟩ := hlit
      have hi : 0 ≤ i := by simpa [isWritable, Value.isWritable] using h
      obtain ⟨v, hv, hneg⟩ := exists_constantValue?_minus hi
      exact Or.inl ⟨v, hv, fun vars => hneg⟩
    · have hint (i : Int64) : negate t ≠ negate (literal (.int i)) := fun heq =>
        hlit ⟨i, by simpa using heq⟩
      exact Or.inr ⟨constantValue?_of_isOperation h rfl hint, Or.inl rfl⟩
  | binary o l r =>
    exact Or.inr ⟨constantValue?_of_isOperation h rfl fun i => by simp, Or.inl rfl⟩

end Term

/-! ### Evaluation -/

open Term (write isWritable)

theorem evaluate_of_literal {vars : Bindings} {text : List Char} {v : Value}
    (h : Form.ofText (Text.trim text) = .literal v) : evaluate vars text = .ok v := by
  rw [evaluate]
  split <;> simp_all

theorem evaluate_of_bare {vars : Bindings} {text : List Char}
    (h : Form.ofText (Text.trim text) = .bare) :
    evaluate vars text = bareValue vars (Text.trim text) := by
  rw [evaluate]
  split <;> simp_all

theorem evaluate_of_template {vars : Bindings} {text chars : List Char}
    (h : Form.ofText (Text.trim text) = .template chars) :
    evaluate vars text = (interpolate vars chars).map .str := by
  rw [evaluate]
  split <;> simp_all

theorem evaluate_of_method {vars : Bindings} {text receiver : List Char} {m : Method}
    (h : Form.ofText (Text.trim text) = .method m receiver) :
    evaluate vars text = (evaluate vars receiver).bind m.apply := by
  rw [evaluate]
  split <;> simp_all

theorem evaluate_of_call {vars : Bindings} {text argument : List Char} {f : Builtin}
    (h : Form.ofText (Text.trim text) = .call f argument) :
    evaluate vars text = (evaluate vars argument).bind f.apply := by
  rw [evaluate]
  split <;> simp_all

/-- Blanks at the ends of an expression do not matter. -/
theorem evaluate_congr {vars : Bindings} {text other : List Char} (h : Text.trim text = Text.trim other) :
    evaluate vars text = evaluate vars other := by
  cases hform : Form.ofText (Text.trim text) with
  | literal v =>
    rw [evaluate_of_literal hform]
    exact (evaluate_of_literal (h ▸ hform)).symm
  | template chars =>
    rw [evaluate_of_template hform]
    exact (evaluate_of_template (h ▸ hform)).symm
  | method m receiver =>
    rw [evaluate_of_method hform]
    exact (evaluate_of_method (h ▸ hform)).symm
  | call f argument =>
    rw [evaluate_of_call hform]
    exact (evaluate_of_call (h ▸ hform)).symm
  | bare =>
    rw [evaluate_of_bare hform, h]
    exact (evaluate_of_bare (h ▸ hform)).symm

/-- The text of a string literal is a form of its own. -/
theorem ofText_quote (s : List Char) :
    Form.ofText (quote s) = .literal (.str (String.ofList s)) := by
  have hquoted : quotedLiteral? (quote s) = some s := by
    rw [quote, quotedLiteral?, List.getLast?_concat, if_pos (by decide), List.dropLast_concat,
      unescape_quote]
  have htext : Form.text? (quote s) = some (.literal (.str (String.ofList s))) := by
    rw [Form.text?, hquoted, Option.map_some]
    exact List.cons_ne_nil _ _
  simp [Form.ofText, Form.recognisers, htext]

/-- The text of any other term is a constant or bare. -/
theorem ofText_write {t : Term} (h : t.isWritable = true) (hstr : ∀ s, t ≠ .literal (.str s)) :
    Form.ofText (t.write .sum) = (Form.constant? (t.write .sum)).getD .bare := by
  have hshape := Term.shape_write h .sum
  refine Form.ofText_eq_constant? ?_ (Form.template?_of_shape hshape)
    (Form.method?_of_closed (Term.closed_write h .sum)) (Form.call?_of_shape hshape)
  refine (Form.text?_of_shape hshape).resolve_right ?_
  -- A text that is one literal is read as that literal, and as no other term.
  rintro ⟨s, hs⟩
  have ht := Term.ofText?_write h
  have hlit := Term.ofText?_write
    (show (Term.literal (.str (String.ofList s))).isWritable = true from rfl)
  rw [write, Value.write, String.toList_ofList, ← hs, ht] at hlit
  exact hstr _ (Option.some.inj hlit)

/-- The text of a name or an operation is no name of anything else, so it has the value of the
term. -/
theorem bareValue_write {vars : Bindings}
    (hvars : ∀ n v, vars.get? n = some v → isIdentifier n.toList = true) {t : Term}
    (h : t.isWritable = true) (ht : t.isOperation = true ∨ ∃ n, t = .name n) :
    bareValue vars (t.write .sum) = t.eval vars := by
  rcases ht with hop | ⟨n, rfl⟩
  · have hget : vars.get? (String.ofList (t.write .sum)) = none := by
      rw [Option.eq_none_iff_forall_ne_some]
      intro v hv
      have hid := hvars _ v hv
      rw [String.toList_ofList, (Term.not_word_of_isOperation hop .sum).2] at hid
      exact Bool.false_ne_true hid
    rw [bareValue, hget]
    dsimp only
    rw [Term.ofText?_write h]
  · rw [bareValue, Term.ofText?_write h, write, String.ofList_toList]
    dsimp only
    rw [Term.eval]
    cases vars.get? n <;> rfl

/-- **Printed terms are evaluated as terms.** Where all names that have a value are identifiers,
the text of a term has the value of the term, or the same fault. -/
theorem evaluate_write {vars : Bindings}
    (hvars : ∀ n v, vars.get? n = some v → isIdentifier n.toList = true) {t : Term}
    (h : t.isWritable = true) : evaluate vars (t.write .sum) = t.eval vars := by
  have htrim : Text.trim (t.write .sum) = t.write .sum := (Term.trimmed_write h .sum).trim_eq
  by_cases hstr : ∃ s, t = .literal (.str s)
  · obtain ⟨s, rfl⟩ := hstr
    refine evaluate_of_literal ?_
    rw [htrim, write, Value.write, ofText_quote, String.ofList_toList]
  · have hform := ofText_write h fun s heq => hstr ⟨s, heq⟩
    have hconstant := Term.constantValue?_write h fun s heq => hstr ⟨s, heq⟩
    rcases hconstant with ⟨v, hv, heval⟩ | ⟨hnone, ht⟩
    · rw [heval]
      refine evaluate_of_literal ?_
      rw [htrim, hform, Form.constant?, hv]
      rfl
    · have hbare : Form.ofText (Text.trim (t.write .sum)) = .bare := by
        rw [htrim, hform, Form.constant?, hnone]
        rfl
      rw [evaluate_of_bare hbare, htrim]
      exact bareValue_write hvars h ht

/-- A term with a mark inside a text, a sign before a power, and brackets that are needed. -/
def sampleTerm : Term :=
  .binary .mul (.literal (.str "it's"))
    (.negate (.binary .pow (.binary .sub (.literal (.int 1)) (.name "x")) (.literal (.int 3))))

/-- Values for the names of `sampleTerm`. -/
def sampleBindings : Bindings :=
  Table.empty.insert "x" (.int 2)

theorem evaluate_sampleTerm :
    (∀ n v, sampleBindings.get? n = some v → isIdentifier n.toList = true) ∧
      sampleTerm.isWritable = true ∧
      evaluate sampleBindings (sampleTerm.write .sum) = sampleTerm.eval sampleBindings := by
  have hvars (n : String) (v : Value) (h : sampleBindings.get? n = some v) :
      isIdentifier n.toList = true := by
    rw [sampleBindings, Table.get?_insert] at h
    split at h
    · rename_i heq
      rw [← heq]
      decide
    · simp at h
  exact ⟨hvars, by decide, evaluate_write hvars (by decide)⟩

example : sampleTerm.write .sum = "'it\\'s' * -(1 - x) ** 3".toList ∧
    sampleTerm.eval sampleBindings = .ok (.str "it's") :=
  ⟨by decide, rfl⟩

end Autograder.Guest
