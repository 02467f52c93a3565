import Autograder.Proofs.Expression.Printed

/-!
# Methods

A method is recognised by how a text ends, before anything else is known of the text. So it applies
to the value of all that stands in front of it, and not to the operand that it stands behind: behind
a sum it changes both texts, and turns their order around if it reverses them.

## Main definitions

* `Method.onText` — a method on texts

## Main results

* `evaluate_append_ending` — a method applies to the value of all the text in front of it
* `evaluate_method_sum` — a method behind a sum of two names
-/

namespace Autograder.Guest

/-- What a method makes of a text. -/
def Method.onText : Method → List Char → List Char
  | reverse, text => text.reverse
  | lower, text => Text.lower text
  | upper, text => Text.upper text

theorem Method.apply_str (m : Method) (s : String) :
    m.apply (.str s) = .ok (.str (String.ofList (m.onText s.toList))) := by
  cases m <;> rfl

/-! ### Recognition -/

namespace Form

theorem quotedLiteral?_of_last {text : List Char} (h : ∀ c ∈ text.getLast?, isMark c = false) :
    quotedLiteral? text = none := by
  rw [Option.eq_none_iff_forall_ne_some]
  intro s hs
  obtain ⟨mark, body, rfl, hmark, -⟩ := exists_of_quotedLiteral? hs
  exact absurd hmark (by simp [h mark (by simp [List.getLast?_cons])])

/-- What does not end with a mark is no template. -/
theorem template?_of_last {text : List Char} (h : ∀ c ∈ text.getLast?, isMark c = false) :
    template? text = none := by
  refine template?_eq_none ?_
  rintro c rest rfl -
  exact quotedLiteral?_of_last fun d hd =>
    h d (by simp [List.getLast?_cons, Option.mem_def.mp hd])

theorem last_append_ending (receiver : List Char) (m : Method) :
    ∀ c ∈ (receiver ++ m.ending).getLast?, isMark c = false := by
  intro c hc
  rw [List.getLast?_append] at hc
  cases m
  all_goals
    obtain rfl := Option.some.inj hc
    decide

/-- No text ends with two methods at once. -/
theorem method?_append_ending (receiver : List Char) {m n : Method} (h : n ≠ m) :
    method? n (receiver ++ m.ending) = none := by
  rw [method?, Option.map_eq_none_iff, Option.eq_none_iff_forall_ne_some]
  intro other hother
  have heq := congrArg List.reverse (Text.before?_eq_some_iff.mp hother)
  rw [List.reverse_append, List.reverse_append] at heq
  cases m <;> cases n <;> first
    | exact absurd rfl h
    | simp [Method.ending] at heq

/-- A text that ends with a method is that method behind the rest of the text. -/
theorem ofText_append_ending (receiver : List Char) (m : Method) :
    ofText (receiver ++ m.ending) = method m receiver := by
  have hlast := last_append_ending receiver m
  have hne : receiver ++ m.ending ≠ [] := by cases m <;> simp [Method.ending]
  have htext : text? (receiver ++ m.ending) = none := by
    rw [text?.eq_2 _ hne, quotedLiteral?_of_last hlast, Option.map_none]
  have hmethod : method? m (receiver ++ m.ending) = some (method m receiver) := by
    rw [method?, Text.before?_eq_some_iff.mpr rfl, Option.map_some]
  have hother := fun n => method?_append_ending receiver (m := m) (n := n)
  cases m <;> simp [ofText, recognisers, htext, template?_of_last hlast, hmethod, hother]

end Form

/-! ### Evaluation -/

section Evaluation

variable {vars : Bindings}

theorem trim_append_ending (receiver : List Char) (m : Method) :
    Text.trim (receiver ++ m.ending) = Text.trimStart receiver ++ m.ending := by
  have htrimmed : Text.Trimmed m.ending := by cases m <;> decide
  have hne : m.ending ≠ [] := by cases m <;> decide
  have htrim := Text.trim_append_append hne htrimmed receiver []
  rwa [List.append_nil, show Text.trimEnd [] = [] from rfl, List.append_nil] at htrim

/-- **A method applies to all the text in front of it.** -/
theorem evaluate_append_ending (receiver : List Char) (m : Method) :
    evaluate vars (receiver ++ m.ending) = (evaluate vars receiver).bind m.apply := by
  have hform : Form.ofText (Text.trim (receiver ++ m.ending))
      = .method m (Text.trimStart receiver) := by
    rw [trim_append_ending, Form.ofText_append_ending]
  rw [evaluate_of_method hform, evaluate_congr (Text.trim_trimStart receiver)]

/-- The sum of two names. -/
def sumOfNames (x y : String) : List Char :=
  x.toList ++ " + ".toList ++ y.toList

theorem sumOfNames_eq_write (x y : String) :
    sumOfNames x y = (Term.binary .add (.name x) (.name y)).write .sum := by
  simp [sumOfNames, Term.write, Term.enclose, Term.ownCategory, Term.isSumOperator, symbol_toList,
    Term.Category.rank]

variable {x y a b : String}

/-- The sum of two names with texts is both texts in a row. -/
theorem evaluate_sumOfNames (hx : isIdentifier x.toList = true) (hy : isIdentifier y.toList = true)
    (hsum : vars.get? (String.ofList (sumOfNames x y)) = none)
    (ha : vars.get? x = some (.str a)) (hb : vars.get? y = some (.str b)) :
    evaluate vars (sumOfNames x y) = joinText a b := by
  have hwritable : (Term.binary .add (.name x) (.name y)).isWritable = true := by
    simp [Term.isWritable, hx, hy]
  have hform : Form.ofText (Text.trim (sumOfNames x y)) = .bare := by
    rw [sumOfNames_eq_write, (Term.trimmed_write hwritable .sum).trim_eq,
      ofText_write hwritable (by simp), Form.constant?,
      Term.constantValue?_of_isOperation hwritable rfl (by simp)]
    rfl
  have hterm : Term.ofText? (sumOfNames x y) = some (.binary .add (.name x) (.name y)) := by
    rw [sumOfNames_eq_write, Term.ofText?_write hwritable]
  have htrim : Text.trim (sumOfNames x y) = sumOfNames x y := by
    rw [sumOfNames_eq_write, (Term.trimmed_write hwritable .sum).trim_eq]
  rw [evaluate_of_bare hform, htrim, bareValue, hsum, hterm]
  simp [Term.eval, ha, hb, Except.bind, Value.binary]

theorem evaluate_method_of_sum (hx : isIdentifier x.toList = true)
    (hy : isIdentifier y.toList = true)
    (hsum : vars.get? (String.ofList (sumOfNames x y)) = none)
    (ha : vars.get? x = some (.str a)) (hb : vars.get? y = some (.str b))
    (hsize : a.utf8ByteSize + b.utf8ByteSize ≤ maxValueBytes) (m : Method) :
    evaluate vars (sumOfNames x y ++ m.ending)
      = .ok (.str (String.ofList (m.onText (a.toList ++ b.toList)))) := by
  have hjoined : joinText a b = .ok (.str (a ++ b)) := by
    rw [joinText, checkSize, if_pos hsize]
    rfl
  rw [evaluate_append_ending, evaluate_sumOfNames hx hy hsum ha hb, hjoined]
  show m.apply (.str (a ++ b)) = _
  rw [Method.apply_str, String.toList_append]

/-- **A method behind a sum.** It makes its text of both texts in a row. The first text unchanged in
front of what it makes of the second is the result only if the two are the same. -/
theorem evaluate_method_sum (hx : isIdentifier x.toList = true) (hy : isIdentifier y.toList = true)
    (hsum : vars.get? (String.ofList (sumOfNames x y)) = none)
    (ha : vars.get? x = some (.str a)) (hb : vars.get? y = some (.str b))
    (hsize : a.utf8ByteSize + b.utf8ByteSize ≤ maxValueBytes) (m : Method) :
    evaluate vars (sumOfNames x y ++ m.ending)
        = .ok (.str (String.ofList (m.onText (a.toList ++ b.toList)))) ∧
      (evaluate vars (sumOfNames x y ++ m.ending)
          = .ok (.str (String.ofList (a.toList ++ m.onText b.toList))) ↔
        m.onText (a.toList ++ b.toList) = a.toList ++ m.onText b.toList) := by
  have hvalue := evaluate_method_of_sum hx hy hsum ha hb hsize m
  refine ⟨hvalue, ?_⟩
  rw [hvalue]
  exact ⟨fun h => String.ofList_injective (Value.str.inj (Except.ok.inj h)), fun h => by rw [h]⟩

end Evaluation

/-- Two names for texts. -/
def twoTexts : Bindings :=
  (Table.empty.insert "x" (.str "Ab")).insert "y" (.str "Cd")

/-- Behind the sum, a reversal gives the letters of both texts from the last to the first. -/
theorem evaluate_method_sum_twoTexts :
    twoTexts.get? (String.ofList (sumOfNames "x" "y")) = none ∧
      twoTexts.get? "x" = some (.str "Ab") ∧ twoTexts.get? "y" = some (.str "Cd") ∧
      evaluate twoTexts "x + y[::-1]".toList = .ok (.str "dCbA") := by
  have hsum : twoTexts.get? (String.ofList (sumOfNames "x" "y")) = none := by decide
  have hx : twoTexts.get? "x" = some (.str "Ab") := by decide
  have hy : twoTexts.get? "y" = some (.str "Cd") := by decide
  exact ⟨hsum, hx, hy,
    (evaluate_method_sum (by decide) (by decide) hsum hx hy (by decide) .reverse).1⟩

/-- None of the methods leaves the first text as it is. -/
theorem evaluate_methods_change_first :
    evaluate twoTexts "x + y[::-1]".toList ≠ .ok (.str "AbdC") ∧
      evaluate twoTexts "x + y.lower()".toList ≠ .ok (.str "Abcd") ∧
      evaluate twoTexts "x + y.upper()".toList ≠ .ok (.str "AbCD") := by
  have hsum : twoTexts.get? (String.ofList (sumOfNames "x" "y")) = none := by decide
  have hx : twoTexts.get? "x" = some (.str "Ab") := by decide
  have hy : twoTexts.get? "y" = some (.str "Cd") := by decide
  have hvalue := evaluate_method_of_sum (by decide) (by decide) hsum hx hy (by decide)
  have hreverse : evaluate twoTexts "x + y[::-1]".toList = .ok (.str "dCbA") := hvalue .reverse
  have hlower : evaluate twoTexts "x + y.lower()".toList = .ok (.str "abcd") := hvalue .lower
  have hupper : evaluate twoTexts "x + y.upper()".toList = .ok (.str "ABCD") := hvalue .upper
  rw [hreverse, hlower, hupper]
  exact ⟨by decide, by decide, by decide⟩

end Autograder.Guest
