import Autograder.Guest.Expression
import Autograder.Proofs.Term.Shape

/-!
# The forms and the texts of terms

An expression is tried against a list of forms before it is read as a term. Each recogniser but
that of constants is refuted here from how a text starts and how it ends: two quoted texts are not
one, a name in front of an operator is no call, and no method stands behind a term. Of constants it
is said which characters they cannot have.

## Main results

* `Form.text?_of_shape` — a quoted text alone, or no quoted text
* `Form.template?_of_shape`, `Form.method?_of_closed`, `Form.call?_of_shape` — none of these forms
* `Form.constantValue?_of_not_number` — a constant that is no number is a truth value
-/

namespace Autograder.Guest

namespace Form

open Term (Behind Shape Closed)

/-! ### The other forms -/

/-- Where no other form fits, only constants are left. -/
theorem ofText_eq_constant? {text : List Char} (htext : text? text = none)
    (htemplate : template? text = none) (hmethod : ∀ m, method? m text = none)
    (hcall : ∀ f, call? f text = none) : ofText text = (constant? text).getD bare := by
  simp [ofText, recognisers, htext, htemplate, hmethod, hcall]

theorem isMark_of_continuesName {c : Char} (h : continuesName c = true) : isMark c = false := by
  rw [← Bool.not_eq_true]
  intro hmark
  simp only [isMark, Bool.or_eq_true, beq_iff_eq] at hmark
  rcases hmark with rfl | rfl
  · exact absurd h (by decide)
  · exact absurd h (by decide)

/-- A quoted literal is text with a meaning between two marks. -/
theorem exists_of_quotedLiteral? {text s : List Char} (h : quotedLiteral? text = some s) :
    ∃ mark body, text = mark :: (body ++ [mark]) ∧ isMark mark = true ∧
      unescape mark [] body = some s := by
  cases text with
  | nil => cases h
  | cons mark rest =>
    rw [quotedLiteral?] at h
    split at h
    · rename_i hends
      obtain ⟨hmark, hlast⟩ := by simpa using hends
      obtain ⟨body, rfl⟩ := List.getLast?_eq_some_iff.mp hlast
      rw [List.dropLast_concat] at h
      exact ⟨mark, body, rfl, hmark, h⟩
    · cases h

theorem quotedLiteral?_of_head {text : List Char} (h : ∀ c ∈ text.head?, isMark c = false) :
    quotedLiteral? text = none := by
  cases text with
  | nil => rfl
  | cons c rest => rw [quotedLiteral?, if_neg (by simp [h c rfl])]

/-- A quoted text with something behind it is not one literal: its own mark shows up inside. -/
theorem quotedLiteral?_quote_append (s more : List Char) :
    quotedLiteral? (quote s ++ ' ' :: more) = none := by
  have hlast : (s.flatMap quoteChar ++ ('\'' :: ' ' :: more)).dropLast
      = s.flatMap quoteChar ++ '\'' :: (' ' :: more).dropLast :=
    List.dropLast_append_of_ne_nil (List.cons_ne_nil _ _)
  rw [quote, List.cons_append, List.append_assoc, List.singleton_append, quotedLiteral?]
  split
  · rw [hlast, unescape_flatMap_quoteChar, unescape, if_pos (by decide)]
    all_goals simp
  · rfl

/-- The text of a term is a quoted text and nothing else, or no quoted text at all. -/
theorem text?_of_shape {text : List Char} (h : Shape text) :
    text? text = none ∨ ∃ s, text = quote s := by
  have hnone {c : Char} {rest : List Char} (hc : isMark c = false) : text? (c :: rest) = none := by
    rw [text?, quotedLiteral?_of_head (by simpa using hc), Option.map_none]
    exact List.cons_ne_nil _ _
  cases h with
  | bracket rest => exact Or.inl (hnone (by decide))
  | sign rest => exact Or.inl (hnone (by decide))
  | quoted s hrest =>
    rcases hrest with rfl | ⟨o, more, rfl⟩
    · exact Or.inr ⟨s, List.append_nil _⟩
    · refine Or.inl ?_
      rw [text?, quotedLiteral?_quote_append, Option.map_none]
      exact List.cons_ne_nil _ _
  | word hw => exact Or.inl (hnone (isMark_of_continuesName (hw _ List.mem_cons_self)))

/-- Behind a word there is no mark. -/
theorem isMark_of_behind {w rest : List Char} (hw : ∀ d ∈ w, continuesName d = true)
    (hrest : Behind rest) : ∀ c ∈ (w ++ rest).head?, isMark c = false := by
  intro c hc
  cases w with
  | cons d w =>
    obtain rfl : d = c := by simpa using hc
    exact isMark_of_continuesName (hw d List.mem_cons_self)
  | nil =>
    rcases hrest with rfl | ⟨o, more, rfl⟩
    · simp at hc
    · obtain rfl : ' ' = c := by simpa using hc
      decide

/-- A template is a quoted literal behind a letter. -/
theorem template?_eq_none {text : List Char}
    (h : ∀ c rest, text = c :: rest → startsName c = true → quotedLiteral? rest = none) :
    template? text = none := by
  unfold template?
  split
  · rw [h _ _ rfl (by decide), Option.map_none]
  · rw [h _ _ rfl (by decide), Option.map_none]
  · rfl

theorem template?_of_shape {text : List Char} (h : Shape text) : template? text = none := by
  refine template?_eq_none ?_
  rintro c rest rfl hc
  obtain ⟨w, more, rfl, hw, hmore⟩ := h.exists_append (continuesName_of_startsName hc)
  exact quotedLiteral?_of_head (isMark_of_behind hw hmore)

theorem method?_of_closed {text : List Char} (h : Closed text) (m : Method) :
    method? m text = none := by
  rw [method?, Option.map_eq_none_iff, Option.eq_none_iff_forall_ne_some]
  intro receiver hr
  obtain ⟨c, before, heq, _, hsquare, _, hclosing⟩ := h
  rw [Text.before?_eq_some_iff.mp hr] at heq
  cases m with
  | reverse =>
    obtain ⟨rfl, _⟩ := List.cons_eq_cons.mp (List.reverse_append.symm.trans heq)
    exact hsquare rfl
  | lower | upper =>
    obtain ⟨rfl, rfl⟩ := List.cons_eq_cons.mp (List.reverse_append.symm.trans heq)
    obtain ⟨d, more, hmore, hd⟩ := hclosing rfl
    obtain ⟨rfl, _⟩ := List.cons_eq_cons.mp hmore
    exact hd rfl

/-- Behind a word, blanks are followed by an operator, so no argument starts there. -/
theorem trimStart_of_behind {rest more : List Char} (h : Behind rest) :
    Text.trimStart rest ≠ '(' :: more := by
  rcases h with rfl | ⟨o, right, rfl⟩
  · simp [Text.trimStart]
  · obtain ⟨c, cs, hcs, hblank, hc⟩ : ∃ c cs, o.symbol.toList = c :: cs ∧
        Text.isBlank c = false ∧ c ≠ '(' := by
      rw [symbol_toList]
      cases o <;> exact ⟨_, _, rfl, by decide, by decide⟩
    rw [hcs, Text.trimStart, List.dropWhile_cons_of_pos (by decide), List.cons_append,
      List.dropWhile_cons_of_neg (by simp [hblank])]
    exact fun heq => hc (List.cons_eq_cons.mp heq).1

theorem dropWhile_of_behind {rest : List Char} (h : Behind rest) :
    rest.dropWhile continuesName = rest := by
  rcases h with rfl | ⟨o, more, rfl⟩
  · rfl
  · exact List.dropWhile_cons_of_neg (by decide)

/-- Where an argument may start there is no word. -/
theorem dropWhile_of_trimStart {rest more : List Char} (h : Text.trimStart rest = '(' :: more) :
    rest.dropWhile continuesName = rest := by
  cases rest with
  | nil => rfl
  | cons c rest =>
    refine List.dropWhile_cons_of_neg fun hc => ?_
    rw [Text.trimStart, List.dropWhile_cons_of_neg (by simp [isBlank_of_continuesName hc])] at h
    obtain ⟨rfl, _⟩ := List.cons_eq_cons.mp h
    exact absurd hc (by decide)

/-- The text of a term is no call, not even if it starts with the name of a function. -/
theorem call?_of_shape {text : List Char} (h : Shape text) (f : Builtin) :
    call? f text = none := by
  obtain ⟨c, name, hname, hc, hcs⟩ : ∃ c cs, f.name = c :: cs ∧ continuesName c = true ∧
      ∀ d ∈ cs, continuesName d = true := by
    cases f <;> exact ⟨_, _, rfl, by decide, List.all_eq_true.mp (by decide)⟩
  rw [call?, Option.map_eq_none_iff, callArgument?]
  split
  · rename_i inside heq
    obtain ⟨rest, hrest, htrim⟩ := Option.map_eq_some_iff.mp heq
    rw [Text.after?_eq_some_iff.mp hrest, hname, List.cons_append] at h
    obtain ⟨w, more, happend, hw, hmore⟩ := h.exists_append hc
    have hcut := congrArg (List.dropWhile continuesName) happend
    rw [List.dropWhile_append_of_pos hcs, List.dropWhile_append_of_pos hw,
      dropWhile_of_trimStart htrim, dropWhile_of_behind hmore] at hcut
    rw [hcut] at htrim
    exact absurd htrim (trimStart_of_behind hmore)
  · rfl

/-! ### Constants -/

theorem digits?_of_mem {text : List Char} {c : Char} (hc : c ∈ text)
    (hd : Decimal.isDigit c = false) : Decimal.digits? text = none := by
  have hall : text.all Decimal.isDigit = false :=
    List.all_eq_false.mpr ⟨c, hc, by simp [hd]⟩
  simp [Decimal.digits?, hall]

/-- What is neither a digit nor a sign stands in no integer. -/
theorem intLiteral?_of_mem {text : List Char} {c : Char} (hc : c ∈ text)
    (hd : Decimal.isDigit c = false) (hminus : c ≠ '-') (hplus : c ≠ '+') :
    intLiteral? text = none := by
  have hmem : c ∈ (Decimal.splitSign text).2 := by
    unfold Decimal.splitSign
    split
    · exact (List.mem_cons.mp hc).resolve_left hminus
    · exact (List.mem_cons.mp hc).resolve_left hplus
    · exact hc
  have hnone : Decimal.integer? text = none := by
    rw [Decimal.integer?]
    simp [digits?_of_mem hmem hd]
  rw [intLiteral?, hnone, Option.bind_none]

/-- Behind a minus sign there must be digits. -/
theorem intLiteral?_minus_of_mem {text : List Char} {c : Char} (hc : c ∈ text)
    (hd : Decimal.isDigit c = false) : intLiteral? ('-' :: text) = none := by
  have hnone : Decimal.integer? ('-' :: text) = none := by
    rw [Decimal.integer?, Decimal.splitSign]
    simp [digits?_of_mem hc hd]
  rw [intLiteral?, hnone, Option.bind_none]

/-- What is neither a digit nor a point stands in no decimal. -/
theorem decimal?_of_mem {text : List Char} {c : Char} (hc : c ∈ text)
    (hd : Decimal.isDigit c = false) (hpoint : c ≠ '.') : Decimal.decimal? text = none := by
  have hmem : c ∈ text.takeWhile (· != '.') ++ (text.dropWhile (· != '.')).drop 1 := by
    have hsplit : c ∈ text.takeWhile (· != '.') ++ text.dropWhile (· != '.') := by
      rwa [List.takeWhile_append_dropWhile]
    rw [List.mem_append] at hsplit ⊢
    refine hsplit.imp id fun hdrop => ?_
    cases hrest : text.dropWhile (· != '.') with
    | nil => simp [hrest] at hdrop
    | cons d rest =>
      have hd : d = '.' := by
        have := List.head?_dropWhile_not (· != '.') text
        simpa [hrest] using this
      rw [hrest] at hdrop
      exact (List.mem_cons.mp hdrop).resolve_left fun heq => hpoint (heq.trans hd)
  rw [Decimal.decimal?, digits?_of_mem hmem hd, Option.map_none]

/-- A text in which every point comes with a mark is no number with a point. -/
theorem decimalLiteral?_of_mark {text : List Char} (h : '.' ∈ text → '\'' ∈ text) :
    decimalLiteral? text = none := by
  have hvalue {digits : List Char} (h : '.' ∈ digits → '\'' ∈ digits) :
      (if digits.contains '.' then
        (Decimal.decimal? digits).map fun d => Decimal.nearest d.digits d.exponent
      else none) = none := by
    split
    · rename_i hpoint
      rw [decimal?_of_mem (h (by simpa using hpoint)) (by decide) (by decide), Option.map_none]
    · rfl
  unfold decimalLiteral?
  dsimp only
  split
  · rw [hvalue (by simpa using h), Option.map_none]
  · exact hvalue h

/-- A constant that is no number is a truth value. -/
theorem constantValue?_of_not_number {text : List Char} (hint : intLiteral? text = none)
    (hpoint : '.' ∈ text → '\'' ∈ text) :
    constantValue? text = (boolLiteral? text).map .bool := by
  rw [constantValue?, hint, decimalLiteral?_of_mark hpoint]

end Form

end Autograder.Guest
