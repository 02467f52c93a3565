import Autograder.Proofs.Expression.Literals

/-!
# Texts of terms within longer texts

A text that has tokens has the same tokens in front of more text, as long as none of them goes on
there. So a term can be put between brackets and made an operand of another, however its own text is
written.

## Main results

* `Token.next?_append` — a token in front of more text
* `Token.scanFrom_append` — all tokens of a text in front of more text
* `Term.ofText?_brackets` — a term in brackets
* `Term.ofText?_enclosed` — an operator between a name and a term in brackets
-/

namespace Autograder.Guest

namespace Token

/-- The text starts with no character that goes on with a token. -/
def EndsToken (rest : List Char) : Prop :=
  ∀ c ∈ rest.head?, goesOn c = false

theorem endsToken_cons {c : Char} (hc : goesOn c = false) (rest : List Char) :
    EndsToken (c :: rest) := by
  simpa [EndsToken] using hc

theorem goesOn_of_isBlank {c : Char} (h : Text.isBlank c = true) : goesOn c = false := by
  rw [← Bool.not_eq_true]
  intro hgoes
  simp only [goesOn, Bool.or_eq_true, beq_iff_eq] at hgoes
  rcases hgoes with ((rfl | rfl) | hnumeric) | hname
  · exact absurd h (by decide)
  · exact absurd h (by decide)
  · exact absurd h (by simp [isBlank_of_isNumeric hnumeric])
  · exact absurd h (by simp [isBlank_of_continuesName hname])

/-- Whether an operator starts is decided by its first character. -/
theorem operator?_eq_none {c : Char} {text : List Char} (h : operator? c text = none)
    (other : List Char) : operator? c other = none := by
  have hsome (d : Char) (hd : d ∈ ['+', '-', '%', '*', '/']) : c ≠ d := by
    rintro rfl
    simp only [List.mem_cons, List.not_mem_nil, or_false] at hd
    rcases hd with rfl | rfl | rfl | rfl | rfl <;> unfold operator? at h <;> split at h <;> simp_all
  simp only [List.mem_cons, List.not_mem_nil, or_false, forall_eq_or_imp, forall_eq] at hsome
  obtain ⟨hadd, hsub, hmod, hmul, hdiv⟩ := hsome
  unfold operator?
  split <;> first
    | rfl
    | contradiction

section Append

variable {rest : List Char}

theorem splitMark_append {mark : Char} {body text a b : List Char}
    (h : splitMark mark body text = some (a, b)) (rest : List Char) :
    splitMark mark body (text ++ rest) = some (a, b ++ rest) := by
  fun_induction splitMark mark body text with
  | case1 => cases h
  | case2 => cases h
  | case3 body c text ih => exact ih h
  | case4 body c text hslash hescape hc =>
    obtain ⟨rfl, rfl⟩ := Prod.mk.inj (Option.some.inj h)
    have hne := ne_backslash_of_cases hslash hescape
    rw [List.cons_append, splitMark, if_pos hc]
    · exact fun heq => absurd heq hne
    · exact fun _ _ heq => absurd heq hne
  | case5 body c text hslash hescape hc ih =>
    have hne := ne_backslash_of_cases hslash hescape
    rw [List.cons_append, splitMark, if_neg hc, ih h]
    · exact fun heq => absurd heq hne
    · exact fun _ _ heq => absurd heq hne

theorem quoted?_append {mark : Char} {text after : List Char} {t : Token}
    (h : quoted? mark text = some (t, after)) (rest : List Char) :
    quoted? mark (text ++ rest) = some (t, after ++ rest) := by
  obtain ⟨⟨body, behind⟩, hsplit, h⟩ := Option.bind_eq_some_iff.mp h
  obtain ⟨meaning, hmeaning, h⟩ := Option.map_eq_some_iff.mp h
  obtain ⟨rfl, rfl⟩ := Prod.mk.inj h
  rw [quoted?, splitMark_append hsplit, Option.bind_some]
  dsimp only
  rw [hmeaning, Option.map_some]

variable (hrest : EndsToken rest)

include hrest

/-- A run of characters that go on with a token ends where the text does. -/
theorem span_append {p : Char → Bool} (hp : ∀ c, p c = true → goesOn c = true) (text : List Char) :
    (text ++ rest).takeWhile p = text.takeWhile p ∧
      (text ++ rest).dropWhile p = text.dropWhile p ++ rest := by
  induction text with
  | nil =>
    cases rest with
    | nil => exact ⟨rfl, rfl⟩
    | cons c rest =>
      have hc : p c = false := by
        rw [← Bool.not_eq_true]
        exact fun h => absurd (hp c h) (by simp [hrest c rfl])
      simp [hc]
  | cons c text ih =>
    cases hc : p c with
    | true => simp [hc, ih]
    | false => simp [hc]

theorem operator?_append {c : Char} {text after : List Char} {o : Operator}
    (h : operator? c text = some (o, after)) :
    operator? c (text ++ rest) = some (o, after ++ rest) := by
  -- The one character that could go on with an operator is the same once more.
  have hbehind (d : Char) (hd : goesOn d = true) (hfirst : ∀ more, text = d :: more → False)
      (more : List Char) (heq : text ++ rest = d :: more) : False := by
    cases text with
    | nil => exact absurd hd (by simp [hrest d (by simp_all)])
    | cons e text => exact hfirst text (by simp_all)
  unfold operator? at h
  split at h <;> simp only [Option.some.injEq, Prod.mk.injEq, reduceCtorEq] at h
  all_goals obtain ⟨rfl, rfl⟩ := h
  all_goals first
    | rfl
    | skip
  · rename_i hfirst
    rw [operator?]
    exact hbehind '*' (by decide) hfirst
  · rename_i hfirst
    rw [operator?]
    exact hbehind '/' (by decide) hfirst

theorem next?_append {c : Char} {text after : List Char} {t : Token}
    (h : next? c text = some (t, after)) :
    next? c (text ++ rest) = some (t, after ++ rest) := by
  rw [next?] at h ⊢
  split at h
  · rename_i hopening
    obtain ⟨rfl, rfl⟩ := Prod.mk.inj (Option.some.inj h)
    rw [if_pos hopening]
  rename_i hopening
  rw [if_neg hopening]
  split at h
  · rename_i hclosing
    obtain ⟨rfl, rfl⟩ := Prod.mk.inj (Option.some.inj h)
    rw [if_pos hclosing]
  rename_i hclosing
  rw [if_neg hclosing]
  split at h
  · rename_i o behind ho
    obtain ⟨rfl, rfl⟩ := Prod.mk.inj (Option.some.inj h)
    rw [operator?_append hrest ho]
  rename_i hnone
  rw [operator?_eq_none hnone]
  dsimp only
  split at h
  · rename_i hmark
    rw [if_pos hmark, quoted?_append h]
  rename_i hmark
  rw [if_neg hmark]
  split at h
  · rename_i hnumeric
    obtain ⟨htake, hdrop⟩ := span_append hrest (fun _ => goesOn_of_isNumeric) text
    obtain ⟨v, hv, h⟩ := Option.map_eq_some_iff.mp h
    obtain ⟨rfl, rfl⟩ := Prod.mk.inj h
    rw [if_pos hnumeric, number?, htake, hdrop, hv, Option.map_some]
  rename_i hnumeric
  rw [if_neg hnumeric]
  split at h
  · rename_i hstarts
    obtain ⟨htake, hdrop⟩ := span_append hrest (fun _ => goesOn_of_continuesName) text
    obtain ⟨rfl, rfl⟩ := Prod.mk.inj (Option.some.inj h)
    rw [if_pos hstarts, word, htake, hdrop]
  · cases h

end Append

/-- A text that has tokens puts them behind those already found. -/
theorem exists_scanFrom_append {found us : List Token} {text rest : List Char}
    (hrest : EndsToken rest) (h : scanFrom found text = some us) :
    ∃ ts, us = found.reverse ++ ts ∧
      ∀ found', scanFrom found' (text ++ rest) = scanFrom (ts.reverse ++ found') rest := by
  fun_induction scanFrom found text with
  | case1 found =>
    obtain rfl := Option.some.inj h
    exact ⟨[], (List.append_nil _).symm, fun _ => rfl⟩
  | case2 found c text hblank ih =>
    obtain ⟨ts, hts, hscan⟩ := ih h
    refine ⟨ts, hts, fun found' => ?_⟩
    rw [List.cons_append, scanFrom_of_isBlank hblank, hscan]
  | case3 => cases h
  | case4 found c text hblank t after hnext _ ih =>
    obtain ⟨ts, hts, hscan⟩ := ih h
    refine ⟨t :: ts, by simpa using hts, fun found' => ?_⟩
    rw [List.cons_append, scanFrom_next (by simpa using hblank) (next?_append hrest hnext), hscan]
    simp

/-- **The tokens of a text** are found in front of more text as well. -/
theorem scanFrom_append {text rest : List Char} {ts : List Token} (hrest : EndsToken rest)
    (h : ofText? text = some ts) (found : List Token) :
    scanFrom found (text ++ rest) = scanFrom (ts.reverse ++ found) rest := by
  obtain ⟨ts', hts, hscan⟩ := exists_scanFrom_append hrest h
  obtain rfl : ts = ts' := by simpa using hts
  exact hscan found

theorem scanFrom_append_of_blank {pad : List Char} (h : ∀ c ∈ pad, Text.isBlank c = true)
    (found : List Token) (text : List Char) :
    scanFrom found (pad ++ text) = scanFrom found text := by
  rw [← scanFrom_trimStart, Text.trimStart_append_of_blank h, scanFrom_trimStart]

/-- The tokens of a text in brackets. -/
theorem scanFrom_enclosed {text : List Char} {ts : List Token}
    (h : ofText? (Text.trim text) = some ts) (found : List Token) :
    scanFrom found ('(' :: (text ++ [')']))
      = some (found.reverse ++ .opening :: (ts ++ [.closing])) := by
  obtain ⟨pad, trail, hpad, htrail, htext⟩ := Text.exists_append_trim_append text
  have hclosing : EndsToken (trail ++ [')']) := by
    cases trail with
    | nil => exact endsToken_cons (by decide) _
    | cons c trail => exact endsToken_cons (goesOn_of_isBlank (htrail c List.mem_cons_self)) _
  rw [scanFrom_opening, htext, List.append_assoc, List.append_assoc, scanFrom_append_of_blank hpad,
    scanFrom_append hclosing h, scanFrom_append_of_blank htrail, scanFrom_closing, scanFrom]
  simp

end Token

namespace Term

/-- **Brackets around a term.** -/
theorem ofText?_brackets {text : List Char} {t : Term} (ht : ofText? (Text.trim text) = some t) :
    ofText? ('(' :: (text ++ [')'])) = some t := by
  obtain ⟨ts, hscan, hread⟩ := Option.bind_eq_some_iff.mp ht
  rw [ofText?, Token.ofText?, Token.scanFrom_enclosed hscan, Option.bind_some,
    ofTokens?_eq_some_iff]
  exact (ofTokens?_eq_some_iff.mp hread).brackets.loosen (Nat.zero_le _)

/-- **An operator between a name and a term in brackets.** The text in the brackets may be any that
spells the term, with blanks around it. -/
theorem ofText?_enclosed {n : String} (hn : isIdentifier n.toList = true) (o : Operator)
    {text : List Char} {t : Term} (ht : ofText? (Text.trim text) = some t) :
    ofText? (n.toList ++ ' ' :: (o.symbol.toList ++ ' ' :: '(' :: (text ++ [')'])))
      = some (.binary o (.name n) t) := by
  obtain ⟨ts, hscan, hread⟩ := Option.bind_eq_some_iff.mp ht
  have htokens : Token.ofText?
      (n.toList ++ ' ' :: (o.symbol.toList ++ ' ' :: '(' :: (text ++ [')'])))
      = some (.name n :: .op o :: .opening :: (ts ++ [.closing])) := by
    rw [Token.ofText?, Token.scans_name hn _ _ (Token.delimited_blank _), Token.scanFrom_blank,
      Token.scanFrom_operator, Token.scanFrom_blank, Token.scanFrom_enclosed hscan]
    rfl
  have hoperand : Derives .sum ts t := ofTokens?_eq_some_iff.mp hread
  have hname : Derives (leftCategory o) [.name n] (.name n) :=
    (Derives.name n).loosen (by cases o <;> decide)
  have hbrackets : Derives (rightCategory o) (.opening :: (ts ++ [.closing])) t :=
    hoperand.brackets.loosen (by cases o <;> decide)
  rw [ofText?, htokens, Option.bind_some, ofTokens?_eq_some_iff]
  exact (derives_binary hname hbrackets).loosen (Nat.zero_le _)

end Term

end Autograder.Guest
