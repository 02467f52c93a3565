import Autograder.Proofs.Term.Scanning
import Autograder.Proofs.Text.Trim
import Mathlib.Data.List.Chain

/-!
# Tokens side by side

What a text that spells a term looks like around a place in it. A token at which an operand may end
has no operand right behind it, and a bracket closes only behind such a token. Which tokens the
text has around a place is decided by the place itself, as long as no token goes on past it: the
text is scanned up to there, and from there on.

## Main definitions

* `Token.Joins` — the second token may stand right behind the first
* `Token.goesOn` — the characters that a token may have after its first, quoted text aside

## Main results

* `Term.joins_of_ofTokens?` — the neighbours in the tokens of a term may be neighbours
* `Token.scanFrom_split` — a scan stops in front of a character that goes on with no token
* `Token.joins_of_scanFrom` — the same of the two tokens that a scan has found last
-/

namespace Autograder.Guest

/-! ### Neighbours in a phrase -/

namespace Token

/-- An operand may end with the token. -/
def endsOperand : Token → Bool
  | literal _ | name _ | closing => true
  | op _ | opening => false

/-- The second token may stand right behind the first. An operator may stand anywhere, since it may
be a sign. -/
def Joins (a : Token) : Token → Prop
  | literal _ | name _ | opening => a.endsOperand = false
  | closing => a.endsOperand = true
  | op _ => True

/-- How the tokens of a phrase stand to each other, and to what is put around the phrase. -/
structure Linked (ts : List Token) : Prop where
  /-- Neighbours may be neighbours. -/
  chain : ts.IsChain Joins
  /-- The phrase may stand where an operand is due. -/
  head : ∀ a b, b ∈ ts.head? → a.endsOperand = false → Joins a b
  /-- An operand ends where the phrase does. -/
  last : ∃ b ∈ ts.getLast?, b.endsOperand = true

namespace Linked

variable {ts us : List Token}

theorem ne_nil (h : Linked ts) : ts ≠ [] := by
  rintro rfl
  obtain ⟨b, hb, -⟩ := h.last
  cases hb

/-- A token that ends no operand, in front of a phrase. -/
theorem cons (h : Linked ts) {a : Token} (ha : a.endsOperand = false) : (a :: ts).IsChain Joins :=
  List.isChain_cons.mpr ⟨fun b hb => h.head a b hb ha, h.chain⟩

theorem singleton {a : Token} (ha : a.endsOperand = true) (hclosing : a ≠ closing) :
    Linked [a] where
  chain := List.isChain_singleton a
  head b c hc hb := by
    obtain rfl : a = c := by simpa using hc
    cases a <;> first
      | exact hb
      | exact absurd rfl hclosing
      | cases ha
  last := ⟨a, rfl, ha⟩

/-- A sign in front of a phrase. -/
theorem sign (h : Linked ts) (o : Operator) : Linked (op o :: ts) where
  chain := h.cons rfl
  head a b hb _ := by
    obtain rfl : op o = b := by simpa using hb
    trivial
  last := by
    rw [List.getLast?_cons_of_ne_nil h.ne_nil]
    exact h.last

/-- An operator between two phrases. -/
theorem binary (hl : Linked ts) (o : Operator) (hr : Linked us) : Linked (ts ++ op o :: us) where
  chain := by
    refine List.isChain_append.mpr ⟨hl.chain, (hr.sign o).chain, fun a _ b hb => ?_⟩
    obtain rfl : op o = b := by simpa using hb
    trivial
  head a b hb ha := by
    rw [List.head?_append_of_ne_nil _ hl.ne_nil] at hb
    exact hl.head a b hb ha
  last := by
    rw [List.getLast?_append_of_ne_nil _ (List.cons_ne_nil _ _)]
    exact (hr.sign o).last

/-- Brackets around a phrase. -/
theorem brackets (h : Linked ts) : Linked (opening :: (ts ++ [closing])) where
  chain := by
    rw [← List.cons_append]
    refine List.isChain_append.mpr ⟨h.cons rfl, List.isChain_singleton _, fun a ha b hb => ?_⟩
    obtain rfl : closing = b := by simpa using hb
    rw [List.getLast?_cons_of_ne_nil h.ne_nil] at ha
    obtain ⟨c, hc, hends⟩ := h.last
    obtain rfl := Option.mem_unique ha hc
    exact hends
  head a b hb ha := by
    obtain rfl : opening = b := by simpa using hb
    exact ha
  last := ⟨closing, by rw [← List.cons_append, List.getLast?_concat]; rfl, rfl⟩

end Linked

end Token

theorem Term.Derives.linked {c : Term.Category} {ts : List Token} {t : Term}
    (h : Term.Derives c ts t) : Token.Linked ts := by
  induction h with
  | ofProduct _ ih | ofUnary _ ih | ofPower _ ih | ofAtom _ ih => exact ih
  | sum _ _ _ ihl ihr | product _ _ _ ihl ihr => exact ihl.binary _ ihr
  | power _ _ ihb ihe => exact ihb.binary _ ihe
  | minus _ ih | plus _ ih => exact ih.sign _
  | literal v => exact .singleton rfl (by simp)
  | name n => exact .singleton rfl (by simp)
  | brackets _ ih => exact ih.brackets

/-- **Neighbours.** Two tokens that stand side by side in the tokens of a term may do so. -/
theorem Term.joins_of_ofTokens? {before after : List Token} {a b : Token} {t : Term}
    (h : Term.ofTokens? (before ++ a :: b :: after) = some t) : Token.Joins a b :=
  (List.isChain_append_cons_cons.mp (Term.ofTokens?_eq_some_iff.mp h).linked.chain).2.1

/-! ### Places in a text -/

namespace Token

/-- The characters that a token may have after its first, quoted text aside. -/
def goesOn (c : Char) : Bool :=
  c == '*' || c == '/' || isNumeric c || continuesName c

theorem goesOn_of_isNumeric {c : Char} (h : isNumeric c = true) : goesOn c = true := by
  simp [goesOn, h]

theorem goesOn_of_continuesName {c : Char} (h : continuesName c = true) : goesOn c = true := by
  simp [goesOn, h]

/-- Quoted text ends with its mark. -/
theorem exists_of_splitMark {mark : Char} {body text a b : List Char}
    (h : splitMark mark body text = some (a, b)) : ∃ spent, text = spent ++ mark :: b := by
  fun_induction splitMark mark body text with
  | case1 => cases h
  | case2 => cases h
  | case3 body c rest ih =>
    obtain ⟨spent, hspent⟩ := ih h
    exact ⟨'\\' :: c :: spent, by rw [hspent, List.cons_append, List.cons_append]⟩
  | case4 body c rest _ _ hc =>
    obtain ⟨-, rfl⟩ := Prod.mk.inj (Option.some.inj h)
    exact ⟨[], by rw [beq_iff_eq.mp hc, List.nil_append]⟩
  | case5 body c rest _ _ _ ih =>
    obtain ⟨spent, hspent⟩ := ih h
    exact ⟨c :: spent, by rw [hspent, List.cons_append]⟩

theorem exists_of_operator? {c : Char} {rest after : List Char} {o : Operator}
    (h : operator? c rest = some (o, after)) :
    ∃ spent, rest = spent ++ after ∧ ∀ d ∈ spent, goesOn d = true := by
  unfold operator? at h
  split at h <;> simp only [Option.some.injEq, Prod.mk.injEq, reduceCtorEq] at h
  all_goals obtain ⟨-, rfl⟩ := h
  all_goals first
    | exact ⟨[], rfl, by simp⟩
    | exact ⟨[_], rfl, by simp [goesOn]⟩

theorem exists_of_quoted? {mark : Char} {rest after : List Char} {t : Token}
    (h : quoted? mark rest = some (t, after)) : ∃ spent, rest = spent ++ mark :: after := by
  obtain ⟨⟨body, behind⟩, hsplit, h⟩ := Option.bind_eq_some_iff.mp h
  obtain ⟨text, -, h⟩ := Option.map_eq_some_iff.mp h
  obtain ⟨-, rfl⟩ := Prod.mk.inj h
  exact exists_of_splitMark hsplit

/-- What a token takes after its first character: characters that go on with it, or quoted text. -/
theorem exists_of_next? {c : Char} {rest after : List Char} {t : Token}
    (h : next? c rest = some (t, after)) : ∃ spent, rest = spent ++ after ∧
      ((∀ d ∈ spent, goesOn d = true) ∨ ∃ mark ∈ spent.getLast?, isMark mark = true) := by
  rw [next?] at h
  split at h
  · obtain ⟨-, rfl⟩ := Prod.mk.inj (Option.some.inj h)
    exact ⟨[], rfl, .inl (by simp)⟩
  split at h
  · obtain ⟨-, rfl⟩ := Prod.mk.inj (Option.some.inj h)
    exact ⟨[], rfl, .inl (by simp)⟩
  split at h
  · rename_i o behind ho
    obtain ⟨-, rfl⟩ := Prod.mk.inj (Option.some.inj h)
    obtain ⟨spent, hrest, hspent⟩ := exists_of_operator? ho
    exact ⟨spent, hrest, .inl hspent⟩
  split at h
  · rename_i hmark
    obtain ⟨spent, rfl⟩ := exists_of_quoted? h
    exact ⟨spent ++ [c], by simp, .inr ⟨c, by simp, hmark⟩⟩
  split at h
  · obtain ⟨v, -, h⟩ := Option.map_eq_some_iff.mp h
    obtain ⟨-, rfl⟩ := Prod.mk.inj h
    exact ⟨_, List.takeWhile_append_dropWhile.symm,
      .inl fun d hd => goesOn_of_isNumeric (List.mem_takeWhile_imp hd)⟩
  split at h
  · obtain ⟨-, rfl⟩ := Prod.mk.inj (Option.some.inj h)
    exact ⟨_, List.takeWhile_append_dropWhile.symm,
      .inl fun d hd => goesOn_of_continuesName (List.mem_takeWhile_imp hd)⟩
  · cases h

/-- A token in front of a character that goes on with none ends there, unless quoted text reaches
further. -/
theorem exists_of_next?_append {c d : Char} {a b after : List Char} {t : Token}
    (hd : goesOn d = false) (hmarks : ∀ e ∈ d :: b, isMark e = false)
    (h : next? c (a ++ d :: b) = some (t, after)) : ∃ a', after = a' ++ d :: b := by
  obtain ⟨spent, heq, hspent⟩ := exists_of_next? h
  rcases List.append_eq_append_iff.mp heq with ⟨extra, rfl, hextra⟩ | ⟨a', -, hafter⟩
  · cases extra with
    | nil => exact ⟨[], hextra.symm⟩
    | cons e extra =>
      obtain ⟨rfl, rfl⟩ := List.cons_eq_cons.mp hextra
      rcases hspent with hgoes | ⟨mark, hlast, hmark⟩
      · exact absurd (hgoes d (by simp)) (by simp [hd])
      · -- The last character taken would lie behind the place, where there are no marks.
        rw [List.getLast?_append_of_ne_nil _ (List.cons_ne_nil _ _)] at hlast
        have hmem : mark ∈ d :: (extra ++ after) :=
          List.mem_append_left after (List.mem_of_mem_getLast? hlast)
        exact absurd hmark (by simp [hmarks mark hmem])
  · exact ⟨a', hafter⟩

/-- **A place where no token goes on.** A scan of the text is a scan up to there, which finds some
tokens, and a scan from there on. -/
theorem scanFrom_split {d : Char} {a b : List Char} {found ts : List Token}
    (hd : goesOn d = false) (hmarks : ∀ e ∈ d :: b, isMark e = false)
    (h : scanFrom found (a ++ d :: b) = some ts) :
    ∃ more, scanFrom more (d :: b) = some ts := by
  -- Each token takes some characters off `a`, so the induction is on how many are left.
  induction hk : a.length using Nat.strongRecOn generalizing a found with
  | ind k ih =>
    cases a with
    | nil => exact ⟨found, h⟩
    | cons c a =>
      rw [List.length_cons] at hk
      rw [List.cons_append, scanFrom] at h
      split at h
      · exact ih a.length (by omega) h rfl
      split at h
      · cases h
      · rename_i hnext
        obtain ⟨a', rfl⟩ := exists_of_next?_append hd hmarks hnext
        have hshorter : a'.length ≤ a.length := by simpa using length_of_next? hnext
        exact ih a'.length (by omega) h rfl

/-- The tokens found first are the first tokens. -/
theorem exists_of_scanFrom {found ts : List Token} {text : List Char}
    (h : scanFrom found text = some ts) : ∃ more, ts = found.reverse ++ more := by
  fun_induction scanFrom found text with
  | case1 found => exact ⟨[], by simpa using (Option.some.inj h).symm⟩
  | case2 found c rest _ ih => exact ih h
  | case3 => cases h
  | case4 found c rest _ t after _ _ ih =>
    obtain ⟨more, hmore⟩ := ih h
    exact ⟨t :: more, by simpa using hmore⟩

/-- The two tokens found last are neighbours in the tokens of the text. -/
theorem joins_of_scanFrom {found ts : List Token} {a b : Token} {text : List Char} {t : Term}
    (h : scanFrom (b :: a :: found) text = some ts) (ht : Term.ofTokens? ts = some t) :
    Joins a b := by
  obtain ⟨more, rfl⟩ := exists_of_scanFrom h
  rw [List.reverse_cons, List.reverse_cons, List.append_assoc, List.append_assoc] at ht
  exact Term.joins_of_ofTokens? ht

/-! ### How a text starts -/

theorem scanFrom_of_isBlank {c : Char} (h : Text.isBlank c = true) (found : List Token)
    (rest : List Char) : scanFrom found (c :: rest) = scanFrom found rest := by
  rw [scanFrom.eq_def]
  exact if_pos h

theorem next?_of_isMark {c : Char} (h : isMark c = true) (rest : List Char) :
    next? c rest = quoted? c rest := by
  simp only [isMark, Bool.or_eq_true, beq_iff_eq] at h
  rcases h with rfl | rfl <;> simp [next?, operator?, isMark]

theorem next?_of_isNumeric {c : Char} (h : isNumeric c = true) (rest : List Char) :
    next? c rest = number? c rest := by
  simp only [isNumeric, Bool.or_eq_true, beq_iff_eq] at h
  rcases h with hdigit | rfl
  · exact next?_of_isDigit hdigit rest
  · simp [next?, operator?, isMark, isNumeric]

theorem isBlank_of_isMark {c : Char} (h : isMark c = true) : Text.isBlank c = false := by
  simp only [isMark, Bool.or_eq_true, beq_iff_eq] at h
  rcases h with rfl | rfl <;> decide

theorem isBlank_of_isNumeric {c : Char} (h : isNumeric c = true) : Text.isBlank c = false := by
  simp only [isNumeric, Bool.or_eq_true, beq_iff_eq] at h
  rcases h with hdigit | rfl
  · exact isBlank_of_continuesName (continuesName_of_isDigit hdigit)
  · decide

theorem scanFrom_eq_none {c : Char} {rest : List Char} (hblank : Text.isBlank c = false)
    (h : next? c rest = none) (found : List Token) : scanFrom found (c :: rest) = none := by
  rw [scanFrom, if_neg (by simp [hblank])]
  split
  · rfl
  · simp_all

/-- A quoted text that is scanned is one literal in front of other tokens. -/
theorem exists_literal_of_scanFrom {mark : Char} (hmark : isMark mark = true) {rest : List Char}
    {found ts : List Token} (h : scanFrom found (mark :: rest) = some ts) :
    ∃ s after, quoted? mark rest = some (literal (.str s), after) ∧
      scanFrom (literal (.str s) :: found) after = some ts := by
  have hblank := isBlank_of_isMark hmark
  have hnext := next?_of_isMark hmark rest
  cases hquoted : quoted? mark rest with
  | none =>
    rw [scanFrom_eq_none hblank (hnext.trans hquoted)] at h
    cases h
  | some p =>
    obtain ⟨tok, after⟩ := p
    rw [hquoted] at hnext
    obtain ⟨⟨body, behind⟩, -, hliteral⟩ := Option.bind_eq_some_iff.mp hquoted
    obtain ⟨text, -, hliteral⟩ := Option.map_eq_some_iff.mp hliteral
    obtain ⟨rfl, rfl⟩ := Prod.mk.inj hliteral
    exact ⟨_, _, rfl, by rwa [scanFrom_next hblank hnext] at h⟩

/-- A text that starts like a name is a name or a truth value in front of other tokens. -/
theorem exists_word_of_scanFrom {c : Char} (hc : startsName c = true) (rest : List Char)
    (found : List Token) :
    ∃ tok, tok.endsOperand = true ∧
      scanFrom found (c :: rest) = scanFrom (tok :: found) (rest.dropWhile continuesName) := by
  refine ⟨_, ?_, scanFrom_next (isBlank_of_continuesName (continuesName_of_startsName hc))
    (next?_of_startsName hc rest) found⟩
  rw [wordToken]
  split <;> rfl

theorem scanFrom_trimStart (found : List Token) (text : List Char) :
    scanFrom found (Text.trimStart text) = scanFrom found text := by
  induction text with
  | nil => rfl
  | cons c rest ih =>
    cases hc : Text.isBlank c with
    | true =>
      rw [scanFrom_of_isBlank hc, ← ih, Text.trimStart, List.dropWhile_cons_of_pos hc]
      rfl
    | false => rw [Text.trimStart, List.dropWhile_cons_of_neg (by simp [hc])]

end Token

end Autograder.Guest
