import Autograder.Proofs.Expression.Forms
import Autograder.Proofs.Term.Adjacency

/-!
# Three readers of quoted literals

Quoted text is read by `quotedLiteral?`, which gives a whole text its meaning, by a scan, which
tells code from quotes, and by the reader of tokens. They part at one place. To a scan and to the
reader of tokens a backslash in front of a mark always takes the mark into the text.
`quotedLiteral?` takes off the first and the last character before it looks for backslashes, and so
a backslash in front of the last mark stands for itself, and the literal ends there.

## Main definitions

* `IsLiteral` — a text that is one literal to a scan
* `EndsEscaped` — a text whose last mark has a backslash in front of it
* `ReadersAgree` — the three readers take a text alike

## Main results

* `isSome_unescape_iff` — a text between marks has a meaning if no scan leaves the quotes in it
* `isSome_quotedLiteral?_iff` — a text has a meaning if it is a literal or ends escaped
* `readersAgree_iff` — the readers agree unless the text ends escaped
-/

namespace Autograder.Guest

theorem ne_backslash_of_isMark {c : Char} (h : isMark c = true) : c ≠ '\\' :=
  ne_of_class h (by decide)

/-! ### Scans within quotes -/

namespace Scan

variable {mark c : Char} {s : Scan} {text : List Char}

/-- The scan stands within text quoted by the mark. -/
def Within (mark : Char) (s : Scan) : Prop :=
  s = quoted mark ∨ s = escaped mark

/-- Read from this state on, the text never leaves the quotes. -/
def Stays (mark : Char) (s : Scan) (text : List Char) : Prop :=
  ∀ start, start <+: text → (s.steps start).Within mark

theorem within_quoted : (quoted mark).Within mark := .inl rfl

theorem within_escaped : (escaped mark).Within mark := .inr rfl

theorem not_within_code : ¬code.Within mark := by
  rintro (h | h) <;> cases h

theorem Stays.within (h : s.Stays mark text) : s.Within mark :=
  h [] List.nil_prefix

theorem stays_nil : s.Stays mark [] ↔ s.Within mark := by
  simp [Stays]

theorem stays_cons : s.Stays mark (c :: text) ↔ s.Within mark ∧ (s.step c).Stays mark text := by
  constructor
  · intro h
    exact ⟨h.within, fun start hstart =>
      h (c :: start) (List.cons_prefix_cons.mpr ⟨rfl, hstart⟩)⟩
  · rintro ⟨hs, htext⟩ start hstart
    cases start with
    | nil => exact hs
    | cons d start =>
      obtain ⟨rfl, hrest⟩ := List.cons_prefix_cons.mp hstart
      exact htext start hrest

theorem step_quoted_backslash : (quoted mark).step '\\' = escaped mark := rfl

theorem step_escaped : (escaped mark).step c = quoted mark := rfl

theorem step_quoted_mark (h : mark ≠ '\\') : (quoted mark).step mark = code := by
  rw [step, if_neg (by simpa using h), if_pos (by simp)]

theorem step_quoted_other (hslash : c ≠ '\\') (hmark : c ≠ mark) :
    (quoted mark).step c = quoted mark := by
  rw [step, if_neg (by simpa using hslash), if_neg (by simpa using hmark)]

/-- A scan leaves the quotes at a mark that is not escaped. -/
theorem Within.step_eq_code (hs : s.Within mark) (h : s.step c = code) :
    s = quoted mark ∧ c = mark := by
  rcases hs with rfl | rfl
  · rw [step] at h
    split at h
    · cases h
    split at h
    · rename_i hmark
      exact ⟨rfl, by simpa using hmark⟩
    · cases h
  · cases h

end Scan

/-! ### Text between two marks -/

section Between

variable {mark : Char} {out body : List Char}

/-- The last case of a reader that has a case for a backslash alone and one for a backslash in front
of another character. -/
theorem ne_backslash_of_cases {c : Char} {rest : List Char} (hlast : c = '\\' → rest = [] → False)
    (hescape : ∀ d more, c = '\\' → rest = d :: more → False) : c ≠ '\\' := by
  rintro rfl
  cases rest with
  | nil => exact hlast rfl rfl
  | cons d more => exact hescape d more rfl rfl

/-- **What has a meaning between two marks**: a text in which no scan leaves the quotes. -/
theorem isSome_unescape_iff (hmark : mark ≠ '\\') :
    (unescape mark out body).isSome ↔ (Scan.quoted mark).Stays mark body := by
  fun_induction unescape mark out body with
  | case1 => simp [Scan.stays_nil, Scan.within_quoted]
  | case2 =>
    simp [Scan.stays_cons, Scan.stays_nil, Scan.step_quoted_backslash, Scan.within_quoted,
      Scan.within_escaped]
  | case3 out c rest ih =>
    rw [ih, Scan.stays_cons, Scan.step_quoted_backslash, Scan.stays_cons, Scan.step_escaped]
    simp [Scan.within_quoted, Scan.within_escaped]
  | case4 out c rest hlast hescape hc =>
    obtain rfl : c = mark := by simpa using hc
    rw [Scan.stays_cons, Scan.step_quoted_mark hmark]
    simpa using fun _ hrest => Scan.not_within_code (Scan.Stays.within hrest)
  | case5 out c rest hlast hescape hc ih =>
    rw [ih, Scan.stays_cons, Scan.step_quoted_other (ne_backslash_of_cases hlast hescape)
      (by simpa using hc)]
    simp [Scan.within_quoted]

/-- Where no scan leaves the quotes before the second mark, the reader of tokens ends at that mark,
or passes it if it is escaped. The backslash that escapes it is the last character of the
meaning. -/
theorem splitMark_of_unescape {s : List Char} (hmark : mark ≠ '\\')
    (h : unescape mark out body = some s) (before : List Char) :
    ((Scan.quoted mark).steps body = .quoted mark ∧
        Token.splitMark mark before (body ++ [mark]) = some (before.reverse ++ body, [])) ∨
      ((Scan.quoted mark).steps body = .escaped mark ∧
        Token.splitMark mark before (body ++ [mark]) = none ∧ ∃ t, s = t ++ ['\\']) := by
  fun_induction unescape mark out body generalizing before with
  | case1 => exact .inl ⟨rfl, by simp [Token.splitMark, hmark]⟩
  | case2 out =>
    obtain rfl : ('\\' :: out).reverse = s := Option.some.inj h
    exact .inr ⟨rfl, by simp [Token.splitMark], out.reverse, List.reverse_cons⟩
  | case3 out c rest ih =>
    rw [Scan.steps_cons, Scan.step_quoted_backslash, Scan.steps_cons, Scan.step_escaped]
    simpa [Token.splitMark] using ih h (c :: '\\' :: before)
  | case4 => cases h
  | case5 out c rest hlast hescape hc ih =>
    have hslash := ne_backslash_of_cases hlast hescape
    rw [Scan.steps_cons, Scan.step_quoted_other hslash (by simpa using hc), List.cons_append,
      Token.splitMark, if_neg hc]
    · simpa using ih h (c :: before)
    · exact fun heq => absurd heq hslash
    · exact fun _ _ heq => absurd heq hslash

end Between

/-! ### Whole texts -/

/-- The text starts with the mark, and a scan that has read a part of it stands within the quotes
that this mark opens. -/
structure Unbroken (mark : Char) (text : List Char) : Prop where
  head : text.head? = some mark
  isMark : isMark mark = true
  within : ∀ start, start <+: text → start ≠ [] → start ≠ text →
    (Scan.code.steps start).Within mark

/-- The text is one literal: with its last character a scan leaves the quotes that its first
character opens. -/
def IsLiteral (text : List Char) : Prop :=
  ∃ mark, Unbroken mark text ∧ Scan.code.steps text = .code

/-- The last character of the text is the mark that the text starts with, and a scan never leaves
the quotes, because a backslash stands in front of that mark. -/
def EndsEscaped (text : List Char) : Prop :=
  ∃ mark start, text = start ++ [mark] ∧ Unbroken mark text ∧
    Scan.code.steps start = .escaped mark

/-- The readers take the text alike. It has a meaning if it is one literal, and then its only token
is the literal with this meaning. -/
structure ReadersAgree (text : List Char) : Prop where
  isSome_iff : (quotedLiteral? text).isSome ↔ IsLiteral text
  token : ∀ s, quotedLiteral? text = some s →
    Token.ofText? text = some [.literal (.str (String.ofList s))]

section Whole

variable {mark : Char} {text body s : List Char}

theorem steps_mark (hmark : isMark mark = true) (text : List Char) :
    Scan.code.steps (mark :: text) = (Scan.quoted mark).steps text := by
  rw [Scan.steps_cons, Scan.step, if_pos hmark]

theorem unbroken_iff {c : Char} :
    Unbroken mark (mark :: (body ++ [c])) ↔
      isMark mark = true ∧ (Scan.quoted mark).Stays mark body := by
  constructor
  · intro h
    refine ⟨h.isMark, fun start hstart => ?_⟩
    rw [← steps_mark h.isMark]
    refine h.within _ ?_ (List.cons_ne_nil _ _) ?_
    · exact List.cons_prefix_cons.mpr ⟨rfl, hstart.trans (List.prefix_append _ _)⟩
    · intro heq
      have hlength := congrArg List.length heq
      have := hstart.length_le
      simp at hlength
      omega
  · rintro ⟨hmark, hbody⟩
    refine ⟨rfl, hmark, fun start hstart hne hpart => ?_⟩
    cases start with
    | nil => exact absurd rfl hne
    | cons d start =>
      obtain ⟨rfl, hbegins⟩ := List.cons_prefix_cons.mp hstart
      rw [steps_mark hmark]
      refine hbody start ((List.prefix_concat_iff.mp hbegins).resolve_left fun heq => ?_)
      exact hpart (by rw [heq])

theorem isLiteral_iff :
    IsLiteral text ↔ ∃ mark body, text = mark :: (body ++ [mark]) ∧ isMark mark = true ∧
      (Scan.quoted mark).Stays mark body ∧ (Scan.quoted mark).steps body = .quoted mark := by
  constructor
  · rintro ⟨mark, htext, hsteps⟩
    obtain ⟨rest, rfl⟩ := List.head?_eq_some_iff.mp htext.head
    rw [steps_mark htext.isMark] at hsteps
    rcases List.eq_nil_or_concat' rest with rfl | ⟨body, c, rfl⟩
    · cases hsteps
    · obtain ⟨hmark, hbody⟩ := unbroken_iff.mp htext
      rw [Scan.steps_append] at hsteps
      obtain ⟨hend, rfl⟩ := (hbody body (List.prefix_refl body)).step_eq_code hsteps
      exact ⟨_, body, rfl, hmark, hbody, hend⟩
  · rintro ⟨mark, body, rfl, hmark, hbody, hend⟩
    refine ⟨mark, unbroken_iff.mpr ⟨hmark, hbody⟩, ?_⟩
    rw [steps_mark hmark, Scan.steps_append, hend]
    exact Scan.step_quoted_mark (ne_backslash_of_isMark hmark)

theorem endsEscaped_iff :
    EndsEscaped text ↔ ∃ mark body, text = mark :: (body ++ [mark]) ∧ isMark mark = true ∧
      (Scan.quoted mark).Stays mark body ∧ (Scan.quoted mark).steps body = .escaped mark := by
  constructor
  · rintro ⟨mark, start, rfl, htext, hsteps⟩
    cases start with
    | nil => cases hsteps
    | cons d body =>
      obtain rfl : d = mark := Option.some.inj htext.head
      obtain ⟨hmark, hbody⟩ := unbroken_iff.mp htext
      rw [steps_mark hmark] at hsteps
      exact ⟨_, body, rfl, hmark, hbody, hsteps⟩
  · rintro ⟨mark, body, rfl, hmark, hbody, hend⟩
    refine ⟨mark, mark :: body, rfl, unbroken_iff.mpr ⟨hmark, hbody⟩, ?_⟩
    rw [steps_mark hmark, hend]

/-- No text is both: behind an escaped mark a scan still stands within the quotes. -/
theorem IsLiteral.not_endsEscaped (h : IsLiteral text) : ¬EndsEscaped text := by
  rintro ⟨mark, start, rfl, -, hstart⟩
  obtain ⟨_, -, hsteps⟩ := h
  rw [Scan.steps_append, hstart] at hsteps
  cases hsteps

/-- A text with a meaning stands between two marks, and no scan leaves the quotes before the
second. -/
theorem exists_body_of_quotedLiteral? (h : quotedLiteral? text = some s) :
    ∃ mark body, text = mark :: (body ++ [mark]) ∧ isMark mark = true ∧
      unescape mark [] body = some s ∧ (Scan.quoted mark).Stays mark body := by
  obtain ⟨mark, body, rfl, hmark, hmeaning⟩ := Form.exists_of_quotedLiteral? h
  exact ⟨mark, body, rfl, hmark, hmeaning, (isSome_unescape_iff (ne_backslash_of_isMark hmark)).mp
    (Option.isSome_iff_exists.mpr ⟨s, hmeaning⟩)⟩

/-- **What has a meaning**: one literal, or what would be one if the mark at its end were not
escaped. -/
theorem isSome_quotedLiteral?_iff :
    (quotedLiteral? text).isSome ↔ IsLiteral text ∨ EndsEscaped text := by
  rw [isLiteral_iff, endsEscaped_iff]
  constructor
  · intro h
    obtain ⟨s, hs⟩ := Option.isSome_iff_exists.mp h
    obtain ⟨mark, body, rfl, hmark, -, hbody⟩ := exists_body_of_quotedLiteral? hs
    refine (hbody body (List.prefix_refl body)).imp (fun hend => ?_) fun hend => ?_
    all_goals exact ⟨mark, body, rfl, hmark, hbody, hend⟩
  · rintro (⟨mark, body, rfl, hmark, hbody, -⟩ | ⟨mark, body, rfl, hmark, hbody, -⟩)
    all_goals
      rw [quotedLiteral?, if_pos (by simp [hmark]), List.dropLast_concat]
      exact (isSome_unescape_iff (ne_backslash_of_isMark hmark)).mpr hbody

/-- The tokens of a text that starts with a mark. -/
theorem ofText?_mark (hmark : isMark mark = true) (rest : List Char) :
    Token.ofText? (mark :: rest)
      = (Token.quoted? mark rest).bind fun p => Token.scanFrom [p.1] p.2 := by
  have hnext := Token.next?_of_isMark hmark rest
  rw [Token.ofText?]
  cases hquoted : Token.quoted? mark rest with
  | none => exact Token.scanFrom_eq_none (Token.isBlank_of_isMark hmark) (hnext.trans hquoted) []
  | some p => exact Token.scanFrom_next (Token.isBlank_of_isMark hmark) (hnext.trans hquoted) []

/-- **The tokens of a text with a meaning**: the literal with this meaning, or none if the mark at
its end is escaped. -/
theorem tokens_of_quotedLiteral? (h : quotedLiteral? text = some s) :
    Token.ofText? text = some [.literal (.str (String.ofList s))] ∧ IsLiteral text ∨
      Token.ofText? text = none ∧ EndsEscaped text ∧ ∃ t, s = t ++ ['\\'] := by
  obtain ⟨mark, body, rfl, hmark, hmeaning, hbody⟩ := exists_body_of_quotedLiteral? h
  rw [ofText?_mark hmark, Token.quoted?, isLiteral_iff, endsEscaped_iff]
  rcases splitMark_of_unescape (ne_backslash_of_isMark hmark) hmeaning [] with
    ⟨hend, hsplit⟩ | ⟨hend, hsplit, hs⟩
  · refine .inl ⟨?_, mark, body, rfl, hmark, hbody, hend⟩
    rw [hsplit]
    simp [hmeaning, Token.scanFrom]
  · refine .inr ⟨?_, ⟨mark, body, rfl, hmark, hbody, hend⟩, hs⟩
    rw [hsplit]
    rfl

/-- **Where the readers agree**: unless the text ends escaped, a text has a meaning if it is one
literal, and then it is one token with this meaning. A text that ends escaped is neither a literal
nor a row of tokens, and all the same has a meaning, with the last backslash standing for itself. -/
theorem readersAgree_iff (text : List Char) :
    (ReadersAgree text ↔ ¬EndsEscaped text) ∧
      (EndsEscaped text ↔
        ∃ s, quotedLiteral? text = some (s ++ ['\\']) ∧ Token.ofText? text = none) := by
  have hescaped (h : EndsEscaped text) :
      ∃ s, quotedLiteral? text = some (s ++ ['\\']) ∧ Token.ofText? text = none := by
    obtain ⟨s, hs⟩ := Option.isSome_iff_exists.mp (isSome_quotedLiteral?_iff.mpr (.inr h))
    rcases tokens_of_quotedLiteral? hs with ⟨-, hliteral⟩ | ⟨hnone, -, t, rfl⟩
    · exact absurd h hliteral.not_endsEscaped
    · exact ⟨t, hs, hnone⟩
  refine ⟨⟨fun hagree h => ?_, fun h => ⟨?_, fun s hs => ?_⟩⟩, hescaped, ?_⟩
  · obtain ⟨s, hs, hnone⟩ := hescaped h
    cases hnone.symm.trans (hagree.token _ hs)
  · rw [isSome_quotedLiteral?_iff, or_iff_left h]
  · rcases tokens_of_quotedLiteral? hs with ⟨htoken, -⟩ | ⟨-, hends, -⟩
    · exact htoken
    · exact absurd hends h
  · rintro ⟨s, hs, hnone⟩
    rcases tokens_of_quotedLiteral? hs with ⟨htoken, -⟩ | ⟨-, hends, -⟩
    · cases hnone.symm.trans htoken
    · exact hends

/-- A text that ends escaped. -/
def backslashLast : List Char := "'abc\\'".toList

/-- A backslash in front of the last mark: one literal to one reader, open quotes to the others. -/
theorem readers_backslashLast :
    quotedLiteral? backslashLast = some "abc\\".toList ∧ ¬IsLiteral backslashLast ∧
      Token.ofText? backslashLast = none ∧ ¬ReadersAgree backslashLast := by
  have hmeaning : quotedLiteral? backslashLast = some "abc\\".toList := by decide
  have hliteral : ¬IsLiteral backslashLast := by
    rintro ⟨mark, -, hsteps⟩
    exact absurd hsteps (by decide)
  have htokens : Token.ofText? backslashLast = none := by
    have htext : backslashLast = '\'' :: "abc\\'".toList := by decide
    have hquoted : Token.quoted? '\'' "abc\\'".toList = none := by decide
    rw [htext, ofText?_mark (by decide), hquoted]
    rfl
  refine ⟨hmeaning, hliteral, htokens, fun hagree => hliteral ?_⟩
  exact hagree.isSome_iff.mp (Option.isSome_iff_exists.mpr ⟨_, hmeaning⟩)

end Whole

end Autograder.Guest
