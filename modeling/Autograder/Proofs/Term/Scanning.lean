import Autograder.Proofs.Arithmetic.Words
import Autograder.Proofs.Term.Printing
import Autograder.Proofs.Text.Classes

/-!
# Scanning printed terms

The characters of a term give back its tokens. The statement that goes through is about a term in
front of more text: a name or a number ends where its characters end, so what follows must not go
on with it. After a phrase there is only ever a blank, a closing bracket, or nothing
(`Delimited`); under that condition scanning the phrase puts its tokens before those already found
(`Scans`).

## Main results

* `Term.scans_write` — the characters of a term are scanned as its tokens
* `Term.ofText?_write` — the text of a term is read as that term
-/

namespace Autograder.Guest

/-! ### Quoted literals -/

/-- A character is quoted by a backslash and what the backslash makes of it, or it needs none. -/
theorem quoteChar_cases (c : Char) :
    (∃ d, quoteChar c = ['\\', d] ∧ (if d == 'n' then '\n' else if d == 't' then '\t' else d) = c) ∨
      quoteChar c = [c] ∧ c ≠ '\\' ∧ c ≠ '\'' := by
  rw [quoteChar]
  split
  · exact Or.inl ⟨'\\', rfl, by simp_all⟩
  split
  · exact Or.inl ⟨'\'', rfl, by simp_all⟩
  split
  · exact Or.inl ⟨'n', rfl, by simp_all⟩
  · exact Or.inr ⟨rfl, by simp_all, by simp_all⟩

/-- Quoted characters are given back one by one, whatever stands behind them. -/
theorem unescape_flatMap_quoteChar (text out rest : List Char) :
    unescape '\'' out (text.flatMap quoteChar ++ rest)
      = unescape '\'' (text.reverse ++ out) rest := by
  induction text generalizing out with
  | nil => rfl
  | cons c text ih =>
    rw [List.flatMap_cons, List.append_assoc, List.reverse_cons, List.append_assoc]
    rcases quoteChar_cases c with ⟨d, hq, hd⟩ | ⟨hq, hslash, hmark⟩
    · rw [hq, List.cons_append, List.cons_append, List.nil_append, unescape, hd, ih]
      rfl
    · rw [hq, List.cons_append, List.nil_append, unescape, if_neg (by simp [hmark]), ih]
      · rfl
      · exact fun h => absurd h hslash
      · exact fun _ _ h => absurd h hslash

/-- The meaning of a text between single quotes is the text. -/
theorem unescape_quote (text : List Char) :
    unescape '\'' [] (text.flatMap quoteChar) = some text := by
  have h := unescape_flatMap_quoteChar text [] []
  rw [List.append_nil, List.append_nil] at h
  rw [h, unescape, List.reverse_reverse]

/-- The closing mark of a quoted text is found behind all of it. -/
theorem splitMark_quote (text body rest : List Char) :
    Token.splitMark '\'' body (text.flatMap quoteChar ++ '\'' :: rest)
      = some (body.reverse ++ text.flatMap quoteChar, rest) := by
  induction text generalizing body with
  | nil => simp [Token.splitMark]
  | cons c text ih =>
    rw [List.flatMap_cons, List.append_assoc]
    rcases quoteChar_cases c with ⟨d, hq, _⟩ | ⟨hq, hslash, hmark⟩
    · rw [hq, List.cons_append, List.cons_append, List.nil_append, Token.splitMark, ih]
      simp
    · rw [hq, List.cons_append, List.nil_append, Token.splitMark, if_neg (by simp [hmark]), ih]
      · simp
      · exact fun h => absurd h hslash
      · exact fun _ _ h => absurd h hslash

/-! ### Integer literals -/

theorem toNat_toInt {i : Int64} (h : 0 ≤ i) : (i.toInt.toNat : Int) = i.toInt :=
  Int.toNat_of_nonneg (Int64.le_iff_toInt_le.mp h)

/-- The literal of an integer is its digits. -/
theorem write_int {i : Int64} (h : 0 ≤ i) :
    (Value.int i).write = Nat.toDigits 10 i.toInt.toNat := by
  have htext : (Value.int i).write = (toString i.toInt).toList := rfl
  rw [htext, ← toNat_toInt h]
  exact Nat.toList_repr

theorem isDigit_of_mem_toDigits {n : Nat} {c : Char} (h : c ∈ Nat.toDigits 10 n) :
    Decimal.isDigit c = true :=
  isDigit_iff_toNat.mpr (Char.isDigit_iff_toNat.mp
    (Nat.isDigit_of_mem_toDigits (by decide) (by decide) h))

theorem digits?_toDigits (n : Nat) : Decimal.digits? (Nat.toDigits 10 n) = some n := by
  have hne : (Nat.toDigits 10 n).isEmpty = false := by simp [Nat.toDigits_ne_nil]
  have hall : (Nat.toDigits 10 n).all Decimal.isDigit = true :=
    List.all_eq_true.mpr fun c hc => isDigit_of_mem_toDigits hc
  have hval : Decimal.natOfDigits (Nat.toDigits 10 n) = n := by
    rw [Decimal.natOfDigits, ← Nat.ofDigitChars_eq_foldl, Nat.ofDigitChars_ten_toDigits]
  rw [Decimal.digits?, hne, hall, hval]
  rfl

/-- A text that starts with a digit has no sign. -/
theorem splitSign_of_isDigit {c : Char} {rest : List Char} (h : Decimal.isDigit c = true) :
    Decimal.splitSign (c :: rest) = (false, c :: rest) := by
  rw [Decimal.splitSign]
  · rintro text heq
    obtain ⟨rfl, rfl⟩ := by simpa using heq
    exact absurd h (by decide)
  · rintro text heq
    obtain ⟨rfl, rfl⟩ := by simpa using heq
    exact absurd h (by decide)

/-- The literal of an integer that is not negative starts with a digit and holds only digits. -/
theorem write_int_cons {i : Int64} (h : 0 ≤ i) :
    ∃ d ds, (Value.int i).write = d :: ds ∧ ∀ c ∈ d :: ds, Decimal.isDigit c = true := by
  rw [write_int h]
  cases hds : Nat.toDigits 10 i.toInt.toNat with
  | nil => exact absurd hds Nat.toDigits_ne_nil
  | cons d ds => exact ⟨d, ds, rfl, fun c hc => isDigit_of_mem_toDigits (hds ▸ hc)⟩

theorem digits?_write_int {i : Int64} (h : 0 ≤ i) :
    Decimal.digits? (Value.int i).write = some i.toInt.toNat := by
  rw [write_int h, digits?_toDigits]

theorem intLiteral?_write_int {i : Int64} (h : 0 ≤ i) :
    intLiteral? (Value.int i).write = some i := by
  obtain ⟨d, ds, heq, hdigits⟩ := write_int_cons h
  have hsign : Decimal.splitSign (Value.int i).write = (false, (Value.int i).write) := by
    rw [heq, splitSign_of_isDigit (hdigits d List.mem_cons_self)]
  rw [intLiteral?, Decimal.integer?, hsign]
  dsimp only
  rw [digits?_write_int h]
  show word? (i.toInt.toNat : Int) = some i
  rw [toNat_toInt h, word?_toInt]

/-! ### One token -/

theorem symbol_toList (o : Operator) :
    o.symbol.toList = match o with
      | .add => ['+']
      | .sub => ['-']
      | .mul => ['*']
      | .div => ['/']
      | .floorDiv => ['/', '/']
      | .mod => ['%']
      | .pow => ['*', '*'] := by
  cases o <;> decide

namespace Token

theorem scanFrom_next {c : Char} {rest after : List Char} {tok : Token}
    (hblank : Text.isBlank c = false) (h : next? c rest = some (tok, after)) (found : List Token) :
    scanFrom found (c :: rest) = scanFrom (tok :: found) after := by
  rw [scanFrom, if_neg (by simp [hblank])]
  split
  · simp_all
  · rename_i tok' after' h'
    obtain ⟨rfl, rfl⟩ : tok = tok' ∧ after = after' := by simpa [h'] using h.symm
    rfl

theorem scanFrom_blank (found : List Token) (rest : List Char) :
    scanFrom found (' ' :: rest) = scanFrom found rest := by
  rw [scanFrom, if_pos (by decide)]

theorem scanFrom_opening (found : List Token) (rest : List Char) :
    scanFrom found ('(' :: rest) = scanFrom (.opening :: found) rest :=
  scanFrom_next (by decide) (by simp [next?]) found

theorem scanFrom_closing (found : List Token) (rest : List Char) :
    scanFrom found (')' :: rest) = scanFrom (.closing :: found) rest :=
  scanFrom_next (by decide) (by simp [next?]) found

theorem scanFrom_minus (found : List Token) (rest : List Char) :
    scanFrom found ('-' :: rest) = scanFrom (.op .sub :: found) rest :=
  scanFrom_next (by decide) (by simp [next?, operator?]) found

theorem scanFrom_plus (found : List Token) (rest : List Char) :
    scanFrom found ('+' :: rest) = scanFrom (.op .add :: found) rest :=
  scanFrom_next (by decide) (by simp [next?, operator?]) found

/-- The blank behind an operator keeps a star from a star and a stroke from a stroke. -/
theorem scanFrom_operator (o : Operator) (found : List Token) (rest : List Char) :
    scanFrom found (o.symbol.toList ++ ' ' :: rest) = scanFrom (.op o :: found) (' ' :: rest) := by
  rw [symbol_toList]
  cases o <;> exact scanFrom_next (by decide) (by simp [next?, operator?]) found

/-- What may stand in a name is no punctuation. -/
theorem next?_of_continuesName {c : Char} (h : continuesName c = true) (rest : List Char) :
    next? c rest = if Decimal.isDigit c then number? c rest
      else if startsName c then some (word c rest) else none := by
  have hne (d : Char) (hd : continuesName d = false) : c ≠ d := ne_of_class h hd
  have hop : operator? c rest = none := by
    unfold operator?
    split
    · exact absurd rfl (hne '+' (by decide))
    · exact absurd rfl (hne '-' (by decide))
    · exact absurd rfl (hne '%' (by decide))
    · exact absurd rfl (hne '*' (by decide))
    · exact absurd rfl (hne '*' (by decide))
    · exact absurd rfl (hne '/' (by decide))
    · exact absurd rfl (hne '/' (by decide))
    · rfl
  rw [next?, if_neg (by simp [hne '(' (by decide)]), if_neg (by simp [hne ')' (by decide)]), hop]
  simp [isMark, isNumeric, hne '"' (by decide), hne '\'' (by decide), hne '.' (by decide)]

theorem next?_of_startsName {c : Char} (h : startsName c = true) (rest : List Char) :
    next? c rest = some (word c rest) := by
  rw [next?_of_continuesName (continuesName_of_startsName h),
    if_neg (by simp [isDigit_of_startsName h]), if_pos h]

theorem next?_of_isDigit {c : Char} (h : Decimal.isDigit c = true) (rest : List Char) :
    next? c rest = number? c rest := by
  rw [next?_of_continuesName (continuesName_of_isDigit h), if_pos h]

/-! ### One phrase -/

/-- The text starts with nothing that goes on with a name or a number. -/
def Delimited (rest : List Char) : Prop :=
  ∀ c ∈ rest.head?, c = ' ' ∨ c = ')'

/-- In front of a delimited text, the characters are scanned as the tokens. -/
def Scans (text : List Char) (ts : List Token) : Prop :=
  ∀ found rest, Delimited rest → scanFrom found (text ++ rest) = scanFrom (ts.reverse ++ found) rest

theorem delimited_blank (rest : List Char) : Delimited (' ' :: rest) := by
  intro c hc
  exact Or.inl (by simpa using hc.symm)

theorem delimited_closing (rest : List Char) : Delimited (')' :: rest) := by
  intro c hc
  exact Or.inr (by simpa using hc.symm)

/-- A run of characters ends where the class of its characters does. -/
theorem span_delimited {p : Char → Bool} {run rest : List Char} (hrun : ∀ c ∈ run, p c = true)
    (hblank : p ' ' = false) (hclosing : p ')' = false) (hrest : Delimited rest) :
    (run ++ rest).takeWhile p = run ∧ (run ++ rest).dropWhile p = rest := by
  have hend : rest.takeWhile p = [] ∧ rest.dropWhile p = rest := by
    cases rest with
    | nil => exact ⟨rfl, rfl⟩
    | cons c rest =>
      have hc : p c = false := by
        rcases hrest c rfl with rfl | rfl
        · exact hblank
        · exact hclosing
      exact ⟨List.takeWhile_cons_of_neg (by simp [hc]), List.dropWhile_cons_of_neg (by simp [hc])⟩
  rw [List.takeWhile_append_of_pos hrun, List.dropWhile_append_of_pos hrun, hend.1, hend.2,
    List.append_nil]
  exact ⟨rfl, rfl⟩

/-- A word is one token. -/
theorem scans_word {c : Char} {cs : List Char} (hc : startsName c = true)
    (hcs : ∀ d ∈ cs, continuesName d = true) : Scans (c :: cs) [wordToken (c :: cs)] := by
  intro found rest hrest
  obtain ⟨htake, hdrop⟩ := span_delimited hcs (by decide) (by decide) hrest
  rw [List.cons_append]
  refine scanFrom_next (isBlank_of_continuesName (continuesName_of_startsName hc)) ?_ found
  rw [next?_of_startsName hc, word, htake, hdrop]

/-- A row of digits is one token. -/
theorem scans_number {c : Char} {cs : List Char} {i : Int64}
    (hcs : ∀ d ∈ c :: cs, Decimal.isDigit d = true) (hi : intLiteral? (c :: cs) = some i) :
    Scans (c :: cs) [.literal (.int i)] := by
  intro found rest hrest
  have hnumeric : ∀ d ∈ cs, isNumeric d = true :=
    fun d hd => by simp [isNumeric, hcs d (List.mem_cons_of_mem _ hd)]
  have hc : Decimal.isDigit c = true := hcs c List.mem_cons_self
  obtain ⟨htake, hdrop⟩ := span_delimited hnumeric (by decide) (by decide) hrest
  rw [List.cons_append]
  refine scanFrom_next (isBlank_of_continuesName (continuesName_of_isDigit hc)) ?_ found
  rw [next?_of_isDigit hc, number?, htake, hdrop, numberLiteral?, hi]
  rfl

/-- A quoted text is one token, whatever follows it. -/
theorem scans_quote (text : List Char) :
    Scans (quote text) [.literal (.str (String.ofList text))] := by
  intro found rest _
  rw [quote, List.cons_append]
  refine scanFrom_next (by decide) ?_ found
  have hsplit := splitMark_quote text [] rest
  rw [List.reverse_nil, List.nil_append] at hsplit
  have hquoted : quoted? '\'' (text.flatMap quoteChar ++ '\'' :: rest)
      = some (.literal (.str (String.ofList text)), rest) := by
    rw [quoted?, hsplit, Option.bind_some]
    dsimp only
    rw [unescape_quote, Option.map_some]
  simpa [next?, operator?, isMark] using hquoted

/-- Brackets around the characters are brackets around the tokens. -/
theorem Scans.enclose {text : List Char} {ts : List Token} (h : Scans text ts)
    (c own : Term.Category) :
    Scans (Term.enclose '(' ')' c own text) (Term.enclose .opening .closing c own ts) := by
  rw [Term.enclose, Term.enclose]
  split
  · intro found rest _
    rw [List.cons_append, scanFrom_opening, List.append_assoc, List.singleton_append,
      h _ _ (delimited_closing rest), scanFrom_closing]
    simp
  · exact h

theorem Scans.minus {text : List Char} {ts : List Token} (h : Scans text ts) :
    Scans ('-' :: text) (.op .sub :: ts) := by
  intro found rest hrest
  rw [List.cons_append, scanFrom_minus, h _ _ hrest]
  simp

theorem Scans.binary {left right : List Char} {ts us : List Token} (hl : Scans left ts)
    (o : Operator) (hr : Scans right us) :
    Scans (left ++ ' ' :: (o.symbol.toList ++ ' ' :: right)) (ts ++ .op o :: us) := by
  intro found rest hrest
  rw [List.append_assoc, List.cons_append, List.append_assoc, List.cons_append,
    hl _ _ (delimited_blank _), scanFrom_blank, scanFrom_operator, scanFrom_blank, hr _ _ hrest]
  simp

/-- The literal of a value is one token. -/
theorem scans_literal {v : Value} (h : v.isWritable = true) : Scans v.write [.literal v] := by
  cases v with
  | int i =>
    have hi : 0 ≤ i := by simpa [Value.isWritable] using h
    have hword := intLiteral?_write_int hi
    obtain ⟨d, ds, heq, hdigits⟩ := write_int_cons hi
    rw [heq] at hword ⊢
    exact scans_number hdigits hword
  | float x => simp [Value.isWritable] at h
  | str s =>
    have hs := scans_quote s.toList
    rw [String.ofList_toList] at hs
    exact hs
  | bool b => cases b <;> exact scans_word (by decide) (List.all_eq_true.mp (by decide))

/-- A name is one token. -/
theorem scans_name {n : String} (h : isIdentifier n.toList = true) : Scans n.toList [.name n] := by
  obtain ⟨c, w, heq, hc, hw⟩ := exists_cons_of_isIdentifier h
  have hword : wordToken (c :: w) = .name n := by
    rw [← heq, wordToken, boolLiteral?_of_isIdentifier h, String.ofList_toList]
  rw [heq, ← hword]
  exact scans_word hc fun d hd => hw d (List.mem_cons_of_mem _ hd)

end Token

namespace Term

/-- **The characters of a term are scanned as its tokens.** -/
theorem scans_write {t : Term} (h : t.isWritable = true) (c : Category) :
    Token.Scans (t.write c) (t.tokens c) := by
  induction t generalizing c with
  | literal v => exact Token.scans_literal h
  | name n => exact Token.scans_name h
  | negate t ih => exact (ih h .unary).minus.enclose c .unary
  | binary o l r ihl ihr =>
    obtain ⟨hl, hr⟩ : l.isWritable = true ∧ r.isWritable = true := by simpa [isWritable] using h
    exact ((ihl hl _).binary o (ihr hr _)).enclose c _

/-- **The text of a term is read as that term.** -/
theorem ofText?_write {t : Term} (h : t.isWritable = true) :
    ofText? (t.write .sum) = some t := by
  have htokens : Token.ofText? (t.write .sum) = some (t.tokens .sum) := by
    have hscan := scans_write h .sum [] [] (fun c hc => by simp at hc)
    rw [List.append_nil, List.append_nil] at hscan
    rw [Token.ofText?, hscan, Token.scanFrom, List.reverse_reverse]
  rw [ofText?, htokens, Option.bind_some, ofTokens?_eq_some_iff]
  exact derives_tokens t .sum

end Term

end Autograder.Guest
