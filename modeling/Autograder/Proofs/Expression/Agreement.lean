import Autograder.Proofs.Expression.Literals
import Autograder.Proofs.Expression.Printed
import Autograder.Proofs.Term.Enclosed

/-!
# Where a form and a term meet

Many texts can be read in two ways, as one of the forms that are tried first and as a term. A
template, a method and a call are no terms: in their tokens an operand stands right behind an
operand, or nothing stands between two brackets. A quoted literal and a constant may well be terms.
The term then is that literal, perhaps behind a sign, and its value is the same.

There is one number for which this fails. The digits of the least word are no word without the
minus, so the term is the negative of a float. The constant is read with its sign, and is a word.

## Main definitions

* `Denotes` — a row of digits and points as a number
* `SpellsLeast` — the least word, in digits

## Main results

* `Form.ofText_of_term` — a text with a term is a quoted literal, a constant or bare
* `Form.constantValue?_agrees` — a constant with a term has its value, but for the least word
* `evaluate_eq_eval_iff` — a text with a term has its value, but for the least word
* `evaluate_brackets` — in brackets, the least word is no exception
-/

namespace Autograder.Guest

/-! ### Signed literals -/

namespace Term

theorem derives_literal (v : Value) : Derives .unary [.literal v] (.literal v) :=
  (Derives.literal v).loosen (by decide)

theorem ofTokens?_of_unary {ts : List Token} {t : Term} (h : Derives .unary ts t) :
    ofTokens? ts = some t :=
  ofTokens?_eq_some_iff.mpr (h.loosen (by decide))

end Term

/-! ### Forms that are no terms -/

namespace Form

section Term

variable {text : List Char} {t : Term}

/-- A quoted literal that is a term is the literal. -/
theorem text?_of_term (ht : Term.ofText? text = some t) :
    text? text = none ∨ ∃ v, text? text = some (literal v) ∧ t = .literal v := by
  obtain ⟨ts, hscan, hread⟩ := Option.bind_eq_some_iff.mp ht
  have hne : text ≠ [] := by
    rintro rfl
    obtain rfl : [] = ts := by simpa [Token.ofText?, Token.scanFrom] using hscan
    exact absurd rfl (Term.ofTokens?_eq_some_iff.mp hread).linked.ne_nil
  rw [text?.eq_2 _ hne]
  cases hquoted : quotedLiteral? text with
  | none => exact .inl rfl
  | some s =>
    refine .inr ⟨_, rfl, ?_⟩
    rcases tokens_of_quotedLiteral? hquoted with ⟨htoken, -⟩ | ⟨hnone, -⟩
    · obtain rfl := Option.some.inj (htoken.symm.trans hscan)
      exact Option.some.inj (hread.symm.trans (Term.ofTokens?_of_unary (Term.derives_literal _)))
    · cases hnone.symm.trans hscan

/-- No template is a term: there is a name right in front of a quoted text. -/
theorem template?_of_term (ht : Term.ofText? text = some t) : template? text = none := by
  obtain ⟨ts, hscan, hread⟩ := Option.bind_eq_some_iff.mp ht
  refine template?_eq_none ?_
  rintro c rest rfl hc
  rw [Option.eq_none_iff_forall_ne_some]
  intro s hs
  obtain ⟨mark, body, rfl, hmark, -⟩ := exists_of_quotedLiteral? hs
  have hends : continuesName mark = false := by
    rw [← Bool.not_eq_true]
    exact fun h => absurd hmark (by simp [isMark_of_continuesName h])
  obtain ⟨tok, htok, hword⟩ := Token.exists_word_of_scanFrom hc (mark :: (body ++ [mark])) []
  rw [Token.ofText?, hword, List.dropWhile_cons_of_neg (by simp [hends])] at hscan
  obtain ⟨s', after, -, hrest⟩ := Token.exists_literal_of_scanFrom hmark hscan
  have hjoins : tok.endsOperand = false := Token.joins_of_scanFrom hrest hread
  exact absurd htok (by simp [hjoins])

/-- No method is a term: a square bracket is no token, and no operand stands between the brackets
behind a name. -/
theorem method?_of_term (ht : Term.ofText? text = some t) (m : Method) : method? m text = none := by
  obtain ⟨ts, hscan, hread⟩ := Option.bind_eq_some_iff.mp ht
  rw [method?, Option.map_eq_none_iff, Option.eq_none_iff_forall_ne_some]
  intro receiver hr
  rw [Text.before?_eq_some_iff.mp hr, Token.ofText?] at hscan
  have hbrackets (name : List Char)
      (h : Token.scanFrom [] (receiver ++ (name ++ ['(', ')'])) = some ts) : False := by
    rw [← List.append_assoc] at h
    obtain ⟨more, hmore⟩ := Token.scanFrom_split (by decide) (by simp [isMark]) h
    rw [Token.scanFrom_opening, Token.scanFrom_closing] at hmore
    cases Token.joins_of_scanFrom hmore hread
  cases m with
  | reverse =>
    -- The scan reaches the square bracket, and there is no token that starts with it.
    obtain ⟨more, hmore⟩ := Token.scanFrom_split (by decide) (by simp [isMark]) hscan
    rw [Token.scanFrom_eq_none (by decide) rfl] at hmore
    cases hmore
  | lower => exact hbrackets ".lower".toList hscan
  | upper => exact hbrackets ".upper".toList hscan

/-- No call is a term: there is a name right in front of a bracket. -/
theorem call?_of_term (ht : Term.ofText? text = some t) (f : Builtin) : call? f text = none := by
  obtain ⟨ts, hscan, hread⟩ := Option.bind_eq_some_iff.mp ht
  obtain ⟨c, name, hname, hc, hcs⟩ : ∃ c cs, f.name = c :: cs ∧ startsName c = true ∧
      ∀ d ∈ cs, continuesName d = true := by
    cases f <;> exact ⟨_, _, rfl, by decide, List.all_eq_true.mp (by decide)⟩
  rw [call?, Option.map_eq_none_iff, callArgument?]
  split
  · rename_i inside heq
    obtain ⟨rest, hrest, htrim⟩ := Option.map_eq_some_iff.mp heq
    obtain ⟨tok, htok, hword⟩ := Token.exists_word_of_scanFrom hc (name ++ rest) []
    rw [Text.after?_eq_some_iff.mp hrest, hname, List.cons_append, Token.ofText?, hword,
      List.dropWhile_append_of_pos hcs, dropWhile_of_trimStart htrim, ← Token.scanFrom_trimStart,
      htrim, Token.scanFrom_opening] at hscan
    have hjoins : tok.endsOperand = false := Token.joins_of_scanFrom hscan hread
    exact absurd htok (by simp [hjoins])
  · rfl

/-- A text with a term is a literal, a constant or bare. -/
theorem ofText_of_term (ht : Term.ofText? text = some t) :
    (∃ v, ofText text = literal v ∧ t = .literal v) ∨
      ofText text = (constant? text).getD bare := by
  rcases text?_of_term ht with hnone | ⟨v, hv, rfl⟩
  · exact .inr (ofText_eq_constant? hnone (template?_of_term ht) (method?_of_term ht)
      (call?_of_term ht))
  · exact .inl ⟨v, by simp [ofText, recognisers, hv], rfl⟩

end Term

end Form

/-! ### Numbers -/

/-- The row of digits and points denotes the number. -/
structure Denotes (row : List Char) (v : Value) : Prop where
  ne_nil : row ≠ []
  numeric : ∀ c ∈ row, Token.isNumeric c = true
  value : numberLiteral? row = some v

namespace Denotes

variable {row : List Char} {v : Value}

theorem scanFrom_eq (h : Denotes row v) (found : List Token) :
    Token.scanFrom found row = some (found.reverse ++ [.literal v]) := by
  obtain ⟨hne, hnumeric, hvalue⟩ := h
  cases row with
  | nil => exact absurd rfl hne
  | cons c row =>
    have hc := hnumeric c List.mem_cons_self
    have hrow : ∀ d ∈ row, Token.isNumeric d = true :=
      fun d hd => hnumeric d (List.mem_cons_of_mem c hd)
    have hnext : Token.next? c row = some (.literal v, []) := by
      rw [Token.next?_of_isNumeric hc, Token.number?, List.takeWhile_eq_self_iff.mpr hrow,
        List.dropWhile_eq_nil_iff.mpr hrow, hvalue, Option.map_some]
    rw [Token.scanFrom_next (Token.isBlank_of_isNumeric hc) hnext, Token.scanFrom]
    simp

/-- A number, with no sign or behind a plus, is the term of its literal. -/
theorem ofText? (h : Denotes row v) : Term.ofText? row = some (.literal v) := by
  rw [Term.ofText?, Token.ofText?, h.scanFrom_eq, Option.bind_some]
  exact Term.ofTokens?_of_unary (Term.derives_literal v)

theorem ofText?_plus (h : Denotes row v) : Term.ofText? ('+' :: row) = some (.literal v) := by
  rw [Term.ofText?, Token.ofText?, Token.scanFrom_plus, h.scanFrom_eq, Option.bind_some]
  exact Term.ofTokens?_of_unary (.plus (Term.derives_literal v))

/-- Behind a minus it is the negative of its literal. -/
theorem ofText?_minus (h : Denotes row v) :
    Term.ofText? ('-' :: row) = some (.negate (.literal v)) := by
  rw [Term.ofText?, Token.ofText?, Token.scanFrom_minus, h.scanFrom_eq, Option.bind_some]
  exact Term.ofTokens?_of_unary (.minus (Term.derives_literal v))

end Denotes

theorem isDigit_of_digits? {row : List Char} {n : Nat} (h : Decimal.digits? row = some n) :
    row ≠ [] ∧ ∀ c ∈ row, Decimal.isDigit c = true := by
  rw [Decimal.digits?] at h
  split at h
  · rename_i hrow
    simpa using hrow
  · cases h

/-- Digits denote an integer if a word holds it, and else a float. -/
theorem denotes_of_digits? {row : List Char} {n : Nat} (h : Decimal.digits? row = some n) :
    Denotes row (match word? n with
      | some i => .int i
      | none => .float (Decimal.nearest n 0)) := by
  obtain ⟨hne, hdigits⟩ := isDigit_of_digits? h
  refine ⟨hne, fun c hc => by simp [Token.isNumeric, hdigits c hc], ?_⟩
  have hint : intLiteral? row = word? n := by
    cases row with
    | nil => exact absurd rfl hne
    | cons c row =>
      rw [intLiteral?, Decimal.integer?, splitSign_of_isDigit (hdigits c List.mem_cons_self)]
      dsimp only
      rw [h]
      rfl
  have hpoint : ∀ c ∈ row, (c != '.') = true := fun c hc => by
    simpa using ne_of_class (hdigits c hc) (by decide)
  have hdecimal : Decimal.decimal? row = some ⟨n, 0⟩ := by
    rw [Decimal.decimal?, List.takeWhile_eq_self_iff.mpr hpoint,
      List.dropWhile_eq_nil_iff.mpr hpoint]
    simp [h]
  rw [numberLiteral?, hint, hdecimal]
  cases word? n <;> rfl

/-- An integer literal is a row of digits, perhaps behind a sign. -/
theorem exists_of_intLiteral? {text : List Char} {i : Int64} (h : intLiteral? text = some i) :
    ∃ row n, Decimal.digits? row = some n ∧
      ((text = row ∨ text = '+' :: row) ∧ i.toInt = n ∨ text = '-' :: row ∧ i.toInt = -n) := by
  obtain ⟨m, hm, hword⟩ := Option.bind_eq_some_iff.mp h
  have hvalue := word?_eq_some_iff.mp hword
  obtain ⟨n, hn, rfl⟩ : ∃ n : Nat, Decimal.digits? (Decimal.splitSign text).2 = some n ∧
      (if (Decimal.splitSign text).1 then -(n : Int) else n) = m := by
    simpa [Decimal.integer?, Option.bind_eq_some_iff] using hm
  unfold Decimal.splitSign at hn hvalue
  split at hn
  · exact ⟨_, n, hn, .inr ⟨rfl, hvalue⟩⟩
  · exact ⟨_, n, hn, .inl ⟨.inr rfl, hvalue⟩⟩
  · exact ⟨_, n, hn, .inl ⟨.inl rfl, by simpa using hvalue⟩⟩

/-- A literal with a point is a row of digits and points, perhaps behind a minus. -/
theorem exists_of_decimalLiteral? {text : List Char} {x : Float}
    (h : decimalLiteral? text = some x) :
    ∃ row y, Denotes row (.float y) ∧ (text = row ∧ x = y ∨ text = '-' :: row ∧ x = -y) := by
  have hvalue {row : List Char} {y : Float} (h : (if row.contains '.' then
      (Decimal.decimal? row).map fun d => Decimal.nearest d.digits d.exponent else none) = some y) :
      Denotes row (.float y) := by
    split at h
    · rename_i hpoint
      have hmem : '.' ∈ row := by simpa using hpoint
      obtain ⟨d, hd, hy⟩ := Option.map_eq_some_iff.mp h
      refine ⟨List.ne_nil_of_mem hmem, fun c hc => ?_, ?_⟩
      · by_contra hnumeric
        have hc' : Decimal.isDigit c = false ∧ c ≠ '.' := by simpa [Token.isNumeric] using hnumeric
        rw [Form.decimal?_of_mem hc hc'.1 hc'.2] at hd
        cases hd
      · rw [numberLiteral?, Form.intLiteral?_of_mem hmem (by decide) (by decide) (by decide), hd,
          Option.map_some, hy]
    · cases h
  unfold decimalLiteral? at h
  dsimp only at h
  split at h
  · obtain ⟨y, hy, hx⟩ := Option.map_eq_some_iff.mp h
    exact ⟨_, y, hvalue hy, .inr ⟨rfl, hx.symm⟩⟩
  · exact ⟨_, x, hvalue h, .inl ⟨rfl, rfl⟩⟩

/-! ### Constants -/

/-- The text is a minus and the digits of the least word, zeros in front of them aside. -/
def SpellsLeast (text : List Char) : Prop :=
  ∃ row, text = '-' :: row ∧ Decimal.digits? row = some (2 ^ 63)

/-- The constant is the least word, the term is the negative of a float. -/
theorem SpellsLeast.readings {text : List Char} (h : SpellsLeast text) :
    Form.constantValue? text = some (.int Int64.minValue) ∧
      Term.ofText? text = some (.negate (.literal (.float 9223372036854775808))) := by
  obtain ⟨row, rfl, hrow⟩ := h
  have hfloat : Decimal.nearest (2 ^ 63) 0 = 9223372036854775808 := by decide
  have hint : intLiteral? ('-' :: row) = some Int64.minValue := by
    rw [intLiteral?, Decimal.integer?, Decimal.splitSign]
    dsimp only
    rw [hrow]
    decide
  have hdenotes := denotes_of_digits? hrow
  rw [show word? ((2 ^ 63 : Nat) : Int) = none by decide] at hdenotes
  dsimp only at hdenotes
  rw [hfloat] at hdenotes
  exact ⟨by rw [Form.constantValue?, hint], hdenotes.ofText?_minus⟩

namespace Form

variable {text : List Char} {t : Term} {v : Value}

/-- An integer literal is a term of the same value, but for the least word. -/
theorem intLiteral?_agrees {i : Int64} (h : intLiteral? text = some i)
    (ht : Term.ofText? text = some t) (hleast : ¬SpellsLeast text) (vars : Bindings) :
    t.eval vars = .ok (.int i) := by
  obtain ⟨row, n, hrow, hcase⟩ := exists_of_intLiteral? h
  have hdenotes := denotes_of_digits? hrow
  have hrange := toInt_range i
  rcases hcase with ⟨htext, hi⟩ | ⟨rfl, hi⟩
  · rw [← hi, word?_toInt] at hdenotes
    have hterm : Term.ofText? text = some (.literal (.int i)) := by
      rcases htext with rfl | rfl
      · exact hdenotes.ofText?
      · exact hdenotes.ofText?_plus
    rw [Option.some.inj (ht.symm.trans hterm), Term.eval]
  · -- The digits behind a minus go up to one more than a word holds, and that one is excluded.
    have hsmall : n ≠ 2 ^ 63 := fun hn => hleast ⟨row, rfl, hn ▸ hrow⟩
    obtain ⟨j, hj⟩ : ∃ j, word? (n : Int) = some j := exists_word?_eq_some (by omega) (by omega)
    rw [hj] at hdenotes
    have hneg : -j.toInt = i.toInt := by rw [word?_eq_some_iff.mp hj, hi]
    rw [Option.some.inj (ht.symm.trans hdenotes.ofText?_minus)]
    simp [Term.eval, Except.bind, Value.negate, Value.number?, hneg, word?_toInt]

theorem decimalLiteral?_agrees {x : Float} (h : decimalLiteral? text = some x)
    (ht : Term.ofText? text = some t) (vars : Bindings) : t.eval vars = .ok (.float x) := by
  obtain ⟨row, y, hdenotes, ⟨rfl, rfl⟩ | ⟨rfl, rfl⟩⟩ := exists_of_decimalLiteral? h
  · rw [Option.some.inj (ht.symm.trans hdenotes.ofText?), Term.eval]
  · rw [Option.some.inj (ht.symm.trans hdenotes.ofText?_minus)]
    rfl

theorem boolLiteral?_agrees {b : Bool} (h : boolLiteral? text = some b)
    (ht : Term.ofText? text = some t) (vars : Bindings) : t.eval vars = .ok (.bool b) := by
  have htext : text = (Term.literal (.bool b)).write .sum := by
    unfold boolLiteral? at h
    split at h
    all_goals cases h
    · rfl
    · rfl
  have hwritable : (Term.literal (.bool b)).isWritable = true := rfl
  rw [htext, Term.ofText?_write hwritable] at ht
  rw [← Option.some.inj ht, Term.eval]

/-- **Constants.** A constant with a term has its value, but for the least word. -/
theorem constantValue?_agrees (h : constantValue? text = some v) (ht : Term.ofText? text = some t)
    (hleast : ¬SpellsLeast text) (vars : Bindings) : t.eval vars = .ok v := by
  rw [constantValue?] at h
  split at h
  · rename_i i hint
    rw [← Option.some.inj h, intLiteral?_agrees hint ht hleast]
  split at h
  · rename_i x hdecimal
    rw [← Option.some.inj h, decimalLiteral?_agrees hdecimal ht]
  · obtain ⟨b, hb, rfl⟩ := Option.map_eq_some_iff.mp h
    exact boolLiteral?_agrees hb ht vars

end Form

/-! ### Evaluation -/

section Evaluation

variable {vars : Bindings} {text : List Char} {t : Term}

/-- A bare text with a term has its value, even if it is a name. -/
theorem bareValue_agrees (hvars : ∀ n v, vars.get? n = some v → isIdentifier n.toList = true)
    (ht : Term.ofText? text = some t) : bareValue vars text = t.eval vars := by
  cases hget : vars.get? (String.ofList text) with
  | none => rw [bareValue, hget, ht]
  | some v =>
    have hname := Term.ofText?_write (t := .name (String.ofList text)) (hvars _ v hget)
    rw [Term.write, String.toList_ofList, ht] at hname
    rw [bareValue, hget, Option.some.inj hname, Term.eval, hget]

/-- The least word, written as a number, is read as a word. -/
theorem evaluate_of_spellsLeast (h : SpellsLeast (Text.trim text)) :
    evaluate vars text = .ok (.int Int64.minValue) := by
  obtain ⟨hconstant, hterm⟩ := h.readings
  refine evaluate_of_literal ?_
  rcases Form.ofText_of_term hterm with ⟨v, -, hv⟩ | hform
  · cases hv
  · rw [hform, Form.constant?, hconstant]
    rfl

/-- Any other text with a term has its value. -/
theorem evaluate_of_term (hvars : ∀ n v, vars.get? n = some v → isIdentifier n.toList = true)
    (ht : Term.ofText? (Text.trim text) = some t) (hleast : ¬SpellsLeast (Text.trim text)) :
    evaluate vars text = t.eval vars := by
  rcases Form.ofText_of_term ht with ⟨v, hform, rfl⟩ | hform
  · exact evaluate_of_literal hform
  · rw [Form.constant?] at hform
    cases hconstant : Form.constantValue? (Text.trim text) with
    | some v =>
      rw [hconstant] at hform
      rw [evaluate_of_literal hform, Form.constantValue?_agrees hconstant ht hleast]
    | none =>
      rw [hconstant] at hform
      rw [evaluate_of_bare hform, bareValue_agrees hvars ht]

/-- In brackets it is always the value of the term. -/
theorem evaluate_brackets (hvars : ∀ n v, vars.get? n = some v → isIdentifier n.toList = true)
    (ht : Term.ofText? (Text.trim text) = some t) :
    evaluate vars ('(' :: (text ++ [')'])) = t.eval vars := by
  have htrim : Text.trim ('(' :: (text ++ [')'])) = '(' :: (text ++ [')']) :=
    (Text.trimmed_enclosed (by decide) (by decide) text).trim_eq
  refine evaluate_of_term hvars ?_ ?_
  · rw [htrim, Term.ofText?_brackets ht]
  · rw [htrim]
    rintro ⟨row, heq, -⟩
    cases heq

/-- **A text with a term has its value, but for the least word.** That one is a word where it is
evaluated and a float where it is a term. -/
theorem evaluate_eq_eval_iff
    (hvars : ∀ n v, vars.get? n = some v → isIdentifier n.toList = true)
    (ht : Term.ofText? (Text.trim text) = some t) :
    (evaluate vars text = t.eval vars ↔ ¬SpellsLeast (Text.trim text)) ∧
      (SpellsLeast (Text.trim text) → evaluate vars text = .ok (.int Int64.minValue) ∧
        t.eval vars = .ok (.float (-9223372036854775808))) := by
  have hleast (h : SpellsLeast (Text.trim text)) :
      evaluate vars text = .ok (.int Int64.minValue) ∧
        t.eval vars = .ok (.float (-9223372036854775808)) := by
    obtain rfl := Option.some.inj (ht.symm.trans h.readings.2)
    exact ⟨evaluate_of_spellsLeast h, rfl⟩
  refine ⟨⟨fun heq h => ?_, evaluate_of_term hvars ht⟩, hleast⟩
  rw [(hleast h).1, (hleast h).2] at heq
  cases heq

end Evaluation

/-- One more name leaves all names identifiers. -/
theorem isIdentifier_of_get?_insert {vars : Bindings} {name : String} {v : Value}
    (hvars : ∀ n w, vars.get? n = some w → isIdentifier n.toList = true)
    (hname : isIdentifier name.toList = true) :
    ∀ n w, (vars.insert name v).get? n = some w → isIdentifier n.toList = true := by
  intro n w h
  rw [Table.get?_insert] at h
  split at h
  · rename_i heq
    rwa [← heq]
  · exact hvars n w h

/-- A number with a sign, a point and no digit in front of it, between blanks, is a constant and a
term. -/
theorem evaluate_signedFraction :
    (∀ n v, sampleBindings.get? n = some v → isIdentifier n.toList = true) ∧
      Term.ofText? (Text.trim " -.50 ".toList) = some (.negate (.literal (.float 0.5))) ∧
      ¬SpellsLeast (Text.trim " -.50 ".toList) ∧
      evaluate sampleBindings " -.50 ".toList
        = (Term.negate (.literal (.float 0.5))).eval sampleBindings := by
  have hvars : ∀ n v, sampleBindings.get? n = some v → isIdentifier n.toList = true :=
    isIdentifier_of_get?_insert (fun n w h => by cases h) (by decide)
  have htrim : Text.trim " -.50 ".toList = '-' :: ".50".toList := by decide
  have hdenotes : Denotes ".50".toList (.float 0.5) :=
    ⟨by decide, List.all_eq_true.mp (by decide), by decide +kernel⟩
  have hterm : Term.ofText? (Text.trim " -.50 ".toList)
      = some (.negate (.literal (.float 0.5))) := by
    rw [htrim, hdenotes.ofText?_minus]
  have hleast : ¬SpellsLeast (Text.trim " -.50 ".toList) := by
    rw [htrim]
    rintro ⟨row, heq, hrow⟩
    obtain ⟨-, rfl⟩ := List.cons_eq_cons.mp heq
    exact absurd hrow (by decide)
  exact ⟨hvars, hterm, hleast, (evaluate_eq_eval_iff hvars hterm).1.mpr hleast⟩

/-- The least word as a number and as a term. It is the term that has the wrong value: the number is
a word, but in brackets, where only the term is left to read, it comes out as a float. -/
theorem least_word_and_float :
    evaluate .empty "-9223372036854775808".toList = .ok (.int Int64.minValue) ∧
      evaluate .empty "(-9223372036854775808)".toList = .ok (.float (-9223372036854775808)) ∧
      ∃ t, Term.ofText? (Text.trim "-9223372036854775808".toList) = some t ∧
        t.eval .empty = .ok (.float (-9223372036854775808)) ∧
        evaluate .empty "-9223372036854775808".toList ≠ t.eval .empty := by
  have htrim : Text.trim "-9223372036854775808".toList = "-9223372036854775808".toList := by decide
  have hleast : SpellsLeast (Text.trim "-9223372036854775808".toList) := by
    rw [htrim]
    exact ⟨"9223372036854775808".toList, by decide, by decide⟩
  have hvalue : evaluate .empty "-9223372036854775808".toList = .ok (.int Int64.minValue) :=
    evaluate_of_spellsLeast hleast
  have hterm := hleast.readings.2
  refine ⟨hvalue, evaluate_brackets (fun n v h => by cases h) hterm, _, hterm, rfl, ?_⟩
  rw [hvalue]
  exact fun h => by cases h

end Autograder.Guest
