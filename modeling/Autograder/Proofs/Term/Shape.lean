import Autograder.Proofs.Term.Scanning
import Autograder.Proofs.Text.Trim

/-!
# The text of a term

What can be seen of a term without reading it: how its text starts, how it ends, and which
characters occur in it. `Shape` and `Closed` say the first two, and the text of every term has
them, whatever place it is printed for. They are kept apart from the readers that they serve, since
nothing in them depends on a reader.

## Main definitions

* `Term.Shape` — the text starts with a bracket or a sign, or with an atom in front of an operator
* `Term.Closed` — the text does not end like a call without arguments

## Main results

* `Term.shape_write`, `Term.closed_write` — the text of a term starts and ends as it should
* `Term.mark_mem_of_point_mem` — points occur in quoted text only
* `Term.not_word_of_isOperation` — the text of an operation is no word
-/

namespace Autograder.Guest

namespace Term

/-! ### How the text of a term starts -/

/-- Nothing, or an operator and its right operand. -/
def Behind (rest : List Char) : Prop :=
  rest = [] ∨ ∃ (o : Operator) (more : List Char), rest = ' ' :: (o.symbol.toList ++ ' ' :: more)

/-- The text starts with a bracket or a sign, or with an atom in front of an operator. -/
inductive Shape : List Char → Prop
  | bracket (rest) : Shape ('(' :: rest)
  | sign (rest) : Shape ('-' :: rest)
  | quoted (s) {rest} : Behind rest → Shape (quote s ++ rest)
  | word {c w rest} : (∀ d ∈ c :: w, continuesName d = true) → Behind rest → Shape (c :: w ++ rest)

theorem Behind.append {rest : List Char} (h : Behind rest) (o : Operator) (more : List Char) :
    Behind (rest ++ ' ' :: (o.symbol.toList ++ ' ' :: more)) := by
  rcases h with rfl | ⟨o', more', rfl⟩
  · exact Or.inr ⟨o, more, rfl⟩
  · exact Or.inr ⟨o', more' ++ ' ' :: (o.symbol.toList ++ ' ' :: more), by simp⟩

/-- A text keeps its start when an operator and an operand follow. -/
theorem Shape.append {text : List Char} (h : Shape text) (o : Operator) (more : List Char) :
    Shape (text ++ ' ' :: (o.symbol.toList ++ ' ' :: more)) := by
  cases h with
  | bracket rest => exact .bracket _
  | sign rest => exact .sign _
  | quoted s hrest =>
    rw [List.append_assoc]
    exact .quoted s (hrest.append o more)
  | word hw hrest =>
    rw [List.append_assoc]
    exact .word hw (hrest.append o more)

theorem Shape.enclose {text : List Char} (h : Shape text) (c own : Category) :
    Shape (Term.enclose '(' ')' c own text) := by
  rw [Term.enclose]
  split
  · exact .bracket _
  · exact h

theorem Shape.exists_cons {text : List Char} (h : Shape text) :
    ∃ c rest, text = c :: rest ∧ (c = '(' ∨ c = '-' ∨ c = '\'' ∨ continuesName c = true) := by
  cases h with
  | bracket rest => exact ⟨_, _, rfl, by simp⟩
  | sign rest => exact ⟨_, _, rfl, by simp⟩
  | quoted s => exact ⟨_, _, rfl, by simp⟩
  | word hw => exact ⟨_, _, rfl, by simp [hw _ List.mem_cons_self]⟩

/-- A text that starts like a name starts with a word. -/
theorem Shape.exists_append {c : Char} {rest : List Char} (h : Shape (c :: rest))
    (hc : continuesName c = true) :
    ∃ w more, rest = w ++ more ∧ (∀ d ∈ w, continuesName d = true) ∧ Behind more := by
  generalize htext : c :: rest = text at h
  cases h with
  | bracket =>
    obtain ⟨rfl, _⟩ := List.cons_eq_cons.mp htext
    exact absurd hc (by decide)
  | sign =>
    obtain ⟨rfl, _⟩ := List.cons_eq_cons.mp htext
    exact absurd hc (by decide)
  | quoted s =>
    obtain ⟨rfl, _⟩ := List.cons_eq_cons.mp htext
    exact absurd hc (by decide)
  | @word d w more hw hmore =>
    obtain ⟨rfl, rfl⟩ := List.cons_eq_cons.mp htext
    exact ⟨w, more, rfl, fun e he => hw e (List.mem_cons_of_mem _ he), hmore⟩

/-- A word with nothing behind it. -/
theorem shape_word {c : Char} {w : List Char} (hw : ∀ d ∈ c :: w, continuesName d = true) :
    Shape (c :: w) := by
  rw [← List.append_nil (c :: w)]
  exact .word hw (Or.inl rfl)

/-- The literal of a value is a word, unless the value is text. -/
theorem exists_cons_of_isWritable {v : Value} (h : v.isWritable = true) :
    (∃ s, v = .str s) ∨ ∃ c w, v.write = c :: w ∧ ∀ d ∈ c :: w, continuesName d = true := by
  cases v with
  | int i =>
    obtain ⟨d, ds, heq, hdigits⟩ := write_int_cons (show 0 ≤ i by simpa [Value.isWritable] using h)
    exact Or.inr ⟨d, ds, heq, fun c hc => continuesName_of_isDigit (hdigits c hc)⟩
  | float x => simp [Value.isWritable] at h
  | str s => exact Or.inl ⟨s, rfl⟩
  | bool b => cases b <;> exact Or.inr ⟨_, _, rfl, List.all_eq_true.mp (by decide)⟩

theorem shape_literal {v : Value} (h : v.isWritable = true) : Shape v.write := by
  rcases exists_cons_of_isWritable h with ⟨s, rfl⟩ | ⟨c, w, heq, hw⟩
  · rw [← List.append_nil (Value.str s).write]
    exact .quoted s.toList (Or.inl rfl)
  · rw [heq]
    exact shape_word hw

theorem shape_name {n : String} (h : isIdentifier n.toList = true) : Shape n.toList := by
  obtain ⟨c, w, heq, _, hw⟩ := exists_cons_of_isIdentifier h
  rw [heq]
  exact shape_word hw

/-- The text of a term starts as it should. -/
theorem shape_write {t : Term} (h : t.isWritable = true) (c : Category) : Shape (t.write c) := by
  induction t generalizing c with
  | literal v => exact shape_literal h
  | name n => exact shape_name h
  | negate t _ => exact (Shape.sign _).enclose c _
  | binary o l r ihl _ =>
    obtain ⟨hl, _⟩ : l.isWritable = true ∧ r.isWritable = true := by simpa [isWritable] using h
    exact ((ihl hl _).append o _).enclose c _

/-! ### How the text of a term ends -/

/-- The last character is neither blank nor an opening or square bracket, and a closing bracket
has something between it and the opening one. -/
def Closed (text : List Char) : Prop :=
  ∃ c before, text.reverse = c :: before ∧ Text.isBlank c = false ∧ c ≠ ']' ∧ c ≠ '(' ∧
    (c = ')' → ∃ d more, before = d :: more ∧ d ≠ '(')

theorem Closed.append_left {text : List Char} (h : Closed text) (front : List Char) :
    Closed (front ++ text) := by
  obtain ⟨c, before, heq, hblank, hsquare, hopening, hclosing⟩ := h
  refine ⟨c, before ++ front.reverse, by simp [heq], hblank, hsquare, hopening, fun hc => ?_⟩
  obtain ⟨d, more, rfl, hd⟩ := hclosing hc
  exact ⟨d, more ++ front.reverse, rfl, hd⟩

theorem Closed.enclose {text : List Char} (h : Closed text) (c own : Category) :
    Closed (Term.enclose '(' ')' c own text) := by
  rw [Term.enclose]
  split
  · obtain ⟨d, before, heq, _, _, hopening, _⟩ := h
    exact ⟨')', d :: before ++ ['('], by simp [heq], by decide, by decide, by decide,
      fun _ => ⟨d, before ++ ['('], rfl, hopening⟩⟩
  · exact h

/-- A character that is no bracket closes a text. -/
theorem closed_of_getLast {text : List Char} {c : Char} (h : text.getLast? = some c)
    (hc : continuesName c = true ∨ c = '\'') : Closed text := by
  have hne (d : Char) (hd : continuesName d = false) (hq : d ≠ '\'') : c ≠ d := by
    rintro rfl
    rcases hc with hc | hc
    · exact absurd hc (by simp [hd])
    · exact hq hc
  have hblank : Text.isBlank c = false := by
    rcases hc with hc | rfl
    · exact isBlank_of_continuesName hc
    · decide
  obtain ⟨before, rfl⟩ := List.getLast?_eq_some_iff.mp h
  exact ⟨c, before.reverse, by simp, hblank, hne ']' (by decide) (by decide),
    hne '(' (by decide) (by decide), fun heq => absurd heq (hne ')' (by decide) (by decide))⟩

theorem closed_word {c : Char} {w : List Char} (hw : ∀ d ∈ c :: w, continuesName d = true) :
    Closed (c :: w) :=
  closed_of_getLast (List.getLast?_eq_some_getLast (List.cons_ne_nil c w))
    (Or.inl (hw _ (List.getLast_mem _)))

theorem closed_quote (s : List Char) : Closed (quote s) :=
  closed_of_getLast (by rw [quote, List.getLast?_cons, List.getLast?_concat]; rfl) (Or.inr rfl)

/-- The text of a term ends as it should. -/
theorem closed_write {t : Term} (h : t.isWritable = true) (c : Category) : Closed (t.write c) := by
  induction t generalizing c with
  | literal v =>
    show Closed v.write
    rcases exists_cons_of_isWritable h with ⟨s, rfl⟩ | ⟨c, w, heq, hw⟩
    · exact closed_quote s.toList
    · rw [heq]
      exact closed_word hw
  | name n =>
    show Closed n.toList
    obtain ⟨c, w, heq, _, hw⟩ := exists_cons_of_isIdentifier h
    rw [heq]
    exact closed_word hw
  | negate t ih => exact ((ih h .unary).append_left ['-']).enclose c _
  | binary o l r _ ihr =>
    obtain ⟨_, hr⟩ : l.isWritable = true ∧ r.isWritable = true := by simpa [isWritable] using h
    have hclosed := (ihr hr (rightCategory o)).append_left
      (l.write (leftCategory o) ++ ' ' :: (o.symbol.toList ++ [' ']))
    rw [write]
    refine Closed.enclose ?_ c _
    simpa using hclosed

/-- A printed term has no blanks at its ends. -/
theorem trimmed_write {t : Term} (h : t.isWritable = true) (c : Category) :
    Text.Trimmed (t.write c) where
  head d hd := by
    obtain ⟨e, rest, heq, he⟩ := (shape_write h c).exists_cons
    obtain rfl : e = d := by simpa [heq] using hd
    rcases he with rfl | rfl | rfl | he
    · decide
    · decide
    · decide
    · exact isBlank_of_continuesName he
  last d hd := by
    obtain ⟨e, before, heq, hblank, _⟩ := closed_write h c
    have hrev : t.write c = before.reverse ++ [e] := by
      rw [← List.reverse_reverse (t.write c), heq, List.reverse_cons]
    obtain rfl : e = d := by simpa [hrev] using hd
    exact hblank


/-! ### Which characters occur -/

theorem mem_enclose {c own : Category} {d : Char} {text : List Char} (h : d ∈ text) :
    d ∈ enclose '(' ')' c own text := by
  rw [enclose]
  split
  · simp [h]
  · exact h

theorem of_mem_enclose {c own : Category} {d : Char} {text : List Char}
    (h : d ∈ enclose '(' ')' c own text) : d = '(' ∨ d ∈ text ∨ d = ')' := by
  rw [enclose] at h
  split at h
  · simpa using h
  · exact Or.inr (Or.inl h)

/-- Only quoted text has points in it. -/
theorem mark_mem_of_point_mem {t : Term} (h : t.isWritable = true) (c : Category) :
    '.' ∈ t.write c → '\'' ∈ t.write c := by
  have hword {d : Char} {w : List Char} (hw : ∀ e ∈ d :: w, continuesName e = true) :
      '.' ∉ d :: w := fun hmem => absurd (hw '.' hmem) (by decide)
  induction t generalizing c with
  | literal v =>
    show '.' ∈ v.write → '\'' ∈ v.write
    rcases exists_cons_of_isWritable h with ⟨s, rfl⟩ | ⟨d, w, heq, hw⟩
    · exact fun _ => List.mem_cons_self
    · rw [heq]
      exact fun hmem => absurd hmem (hword hw)
  | name n =>
    show '.' ∈ n.toList → '\'' ∈ n.toList
    obtain ⟨d, w, heq, _, hw⟩ := exists_cons_of_isIdentifier h
    rw [heq]
    exact fun hmem => absurd hmem (hword hw)
  | negate t ih =>
    intro hmem
    have hin : '.' ∈ t.write .unary := by simpa using of_mem_enclose hmem
    exact mem_enclose (List.mem_cons_of_mem _ (ih h _ hin))
  | binary o l r ihl ihr =>
    obtain ⟨hl, hr⟩ : l.isWritable = true ∧ r.isWritable = true := by simpa [isWritable] using h
    have hsymbol : '.' ∉ o.symbol.toList := by
      rw [symbol_toList]
      cases o <;> decide
    intro hmem
    have hin : '.' ∈ l.write (leftCategory o) ∨ '.' ∈ r.write (rightCategory o) := by
      simpa [hsymbol] using of_mem_enclose hmem
    refine mem_enclose ?_
    rcases hin with hin | hin
    · simp [ihl hl _ hin]
    · simp [ihr hr _ hin]

/-- A sign or an operator stands in front of something. -/
def isOperation : Term → Bool
  | negate _ | binary _ _ _ => true
  | literal _ | name _ => false

/-- The text of an operation is no word. -/
theorem exists_mem_of_isOperation {t : Term} (h : t.isOperation = true) (c : Category) :
    ∃ d ∈ t.write c, continuesName d = false := by
  cases t with
  | literal v => simp [isOperation] at h
  | name n => simp [isOperation] at h
  | negate t => exact ⟨'-', mem_enclose List.mem_cons_self, by decide⟩
  | binary o l r => exact ⟨' ', mem_enclose (by simp), by decide⟩

/-- The text of a term that is no integer has something other than digits in it. -/
theorem exists_mem_of_not_int {t : Term} (h : t.isWritable = true)
    (hint : ∀ i, t ≠ .literal (.int i)) (c : Category) :
    ∃ d ∈ t.write c, Decimal.isDigit d = false := by
  cases t with
  | literal v =>
    cases v with
    | int i => exact absurd rfl (hint i)
    | float x => simp [isWritable, Value.isWritable] at h
    | str s => exact ⟨'\'', List.mem_cons_self, by decide⟩
    | bool b => cases b <;> exact ⟨_, List.mem_cons_self, by decide⟩
  | name n =>
    obtain ⟨d, w, heq, hd, _⟩ := exists_cons_of_isIdentifier h
    refine ⟨d, ?_, isDigit_of_startsName hd⟩
    rw [write, heq]
    exact List.mem_cons_self
  | negate t =>
    obtain ⟨d, hmem, hd⟩ := exists_mem_of_isOperation (t := negate t) rfl c
    exact ⟨d, hmem, isDigit_of_not_continuesName hd⟩
  | binary o l r =>
    obtain ⟨d, hmem, hd⟩ := exists_mem_of_isOperation (t := binary o l r) rfl c
    exact ⟨d, hmem, isDigit_of_not_continuesName hd⟩

/-- The text of an operation is no truth value and no identifier. -/
theorem not_word_of_isOperation {t : Term} (h : t.isOperation = true) (c : Category) :
    boolLiteral? (t.write c) = none ∧ isIdentifier (t.write c) = false := by
  obtain ⟨d, hmem, hd⟩ := exists_mem_of_isOperation h c
  refine ⟨boolLiteral?_of_mem hmem hd, ?_⟩
  rw [← Bool.not_eq_true]
  intro hid
  obtain ⟨e, w, heq, _, hw⟩ := exists_cons_of_isIdentifier hid
  exact absurd (hw d (heq ▸ hmem)) (by simp [hd])

end Term

end Autograder.Guest
