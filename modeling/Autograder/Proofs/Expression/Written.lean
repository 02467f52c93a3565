import Autograder.Proofs.Scan.Closing
import Autograder.Proofs.Term.Adjacency
import Autograder.Guest.Expression
import Mathlib.Data.String.Basic

/-!
# What is written is no shorter than what it means

A literal takes at least as many bytes in the text of a program as its value does. Reading an escape
only ever drops a backslash, and every other reader cuts a piece out of the text that it is given.
So the parts of an expression, too, have no more bytes than the expression.

## Main definitions

* `letters` — a text of so many bytes
* `Form.Within` — the parts of a form have no more bytes than this

## Main results

* `utf8Len_unescape_le` — the meaning of quoted text
* `Term.utf8Len_of_literal` — a term that is a literal
* `Form.within_ofText` — the parts of a text
-/

namespace Autograder.Guest

open String (utf8Len utf8Len_cons utf8Len_append utf8Len_reverse utf8Len_nil)

/-! ### Bytes of texts -/

theorem utf8Len_trim_le (text : List Char) : utf8Len (Text.trim text) ≤ utf8Len text :=
  Nat.le_trans (String.utf8Len_le_of_prefix (Text.trimEnd_prefix _))
    (String.utf8Len_le_of_suffix (List.dropWhile_suffix Text.isBlank))

theorem utf8Len_replicate (n : Nat) (c : Char) :
    utf8Len (List.replicate n c) = n * c.utf8Size := by
  induction n with
  | zero => simp
  | succ n ih => rw [List.replicate_succ, utf8Len_cons, ih, Nat.succ_mul]

/-- A text of so many bytes, on one line. -/
def letters (n : Nat) : String :=
  String.ofList (List.replicate n 'a')

theorem utf8ByteSize_letters (n : Nat) : (letters n).utf8ByteSize = n := by
  have hletter : 'a'.utf8Size = 1 := by decide
  rw [letters, String.utf8ByteSize_ofList, utf8Len_replicate, hletter, Nat.mul_one]

theorem letters_ne_empty {n : Nat} (h : 0 < n) : letters n ≠ "" := by
  intro hempty
  have hsize := utf8ByteSize_letters n
  rw [hempty] at hsize
  exact Nat.ne_of_lt h hsize

theorem feed_notMem_letters (n : Nat) : '\n' ∉ (letters n).toList := by
  intro hmem
  rw [letters, String.toList_ofList] at hmem
  exact absurd (List.eq_of_mem_replicate hmem) (by decide)

/-! ### Quoted text -/

/-- What an escape means is no longer than the escape without its backslash. -/
theorem utf8Size_escape_le (c : Char) :
    (if c == 'n' then '\n' else if c == 't' then '\t' else c).utf8Size ≤ c.utf8Size := by
  split
  · exact Char.utf8Size_pos c
  split
  · exact Char.utf8Size_pos c
  · exact Nat.le_refl _

/-- **The meaning of quoted text** is no longer than the text. -/
theorem utf8Len_unescape_le {mark : Char} {out text meaning : List Char}
    (h : unescape mark out text = some meaning) :
    utf8Len meaning ≤ utf8Len out + utf8Len text := by
  fun_induction unescape mark out text with
  | case1 out =>
    obtain rfl := Option.some.inj h
    simp
  | case2 out =>
    obtain rfl := Option.some.inj h
    simp [Nat.add_comm]
  | case3 out c rest ih =>
    have hescape := utf8Size_escape_le c
    have hrest := ih h
    simp only [utf8Len_cons] at hrest ⊢
    omega
  | case4 => cases h
  | case5 out c rest _ _ _ ih =>
    have hrest := ih h
    simp only [utf8Len_cons] at hrest ⊢
    omega

theorem utf8Len_quotedLiteral?_le {text meaning : List Char}
    (h : quotedLiteral? text = some meaning) : utf8Len meaning ≤ utf8Len text := by
  cases text with
  | nil => cases h
  | cons mark rest =>
    rw [quotedLiteral?] at h
    split at h
    · have hmeaning := utf8Len_unescape_le h
      have hbody := String.utf8Len_le_of_prefix (List.dropLast_prefix rest)
      rw [utf8Len_nil] at hmeaning
      rw [utf8Len_cons]
      omega
    · cases h

/-! ### Tokens -/

namespace Token

/-- What stands before a mark and what stands behind it. -/
theorem utf8Len_splitMark_le {mark : Char} {body text a b : List Char}
    (h : splitMark mark body text = some (a, b)) :
    utf8Len a + utf8Len b ≤ utf8Len body + utf8Len text := by
  fun_induction splitMark mark body text with
  | case1 => cases h
  | case2 => cases h
  | case3 body c rest ih =>
    have hrest := ih h
    simp only [utf8Len_cons] at hrest ⊢
    omega
  | case4 body c rest =>
    obtain ⟨rfl, rfl⟩ := Prod.mk.inj (Option.some.inj h)
    rw [utf8Len_reverse, utf8Len_cons]
    omega
  | case5 body c rest _ _ _ ih =>
    have hrest := ih h
    simp only [utf8Len_cons] at hrest ⊢
    omega

theorem utf8Len_quoted?_le {mark : Char} {rest after : List Char} {t : Token}
    (h : quoted? mark rest = some (t, after)) : ∃ text, t = literal (.str (String.ofList text)) ∧
      utf8Len text + utf8Len after ≤ utf8Len rest := by
  obtain ⟨⟨body, behind⟩, hsplit, h⟩ := Option.bind_eq_some_iff.mp h
  obtain ⟨text, htext, h⟩ := Option.map_eq_some_iff.mp h
  obtain ⟨rfl, rfl⟩ := Prod.mk.inj h
  have hbody := utf8Len_splitMark_le hsplit
  have hmeaning := utf8Len_unescape_le htext
  rw [utf8Len_nil] at hbody hmeaning
  exact ⟨text, rfl, by omega⟩

/-- A number is no text. -/
theorem numberLiteral?_ne_str (text : List Char) (s : String) :
    numberLiteral? text ≠ some (.str s) := by
  rw [numberLiteral?]
  split
  · simp
  · simp

theorem wordToken_ne_str (word : List Char) (s : String) :
    wordToken word ≠ literal (.str s) := by
  rw [wordToken]
  split
  · simp
  · simp

/-- What follows a token, together with the text that the token is, if it is one. -/
theorem utf8Len_next?_le {c : Char} {rest after : List Char} {t : Token}
    (h : next? c rest = some (t, after)) :
    utf8Len after ≤ utf8Len rest ∧
      ∀ s, t = literal (.str s) → s.utf8ByteSize ≤ utf8Len rest := by
  rw [next?] at h
  split at h
  · obtain ⟨rfl, rfl⟩ := Prod.mk.inj (Option.some.inj h)
    exact ⟨Nat.le_refl _, fun s hs => by cases hs⟩
  split at h
  · obtain ⟨rfl, rfl⟩ := Prod.mk.inj (Option.some.inj h)
    exact ⟨Nat.le_refl _, fun s hs => by cases hs⟩
  split at h
  · rename_i o behind hoperator
    obtain ⟨rfl, rfl⟩ := Prod.mk.inj (Option.some.inj h)
    obtain ⟨spent, hrest, -⟩ := exists_of_operator? hoperator
    exact ⟨String.utf8Len_le_of_suffix ⟨spent, hrest.symm⟩, fun s hs => by cases hs⟩
  split at h
  · obtain ⟨text, rfl, hle⟩ := utf8Len_quoted?_le h
    refine ⟨by omega, fun s hs => ?_⟩
    injection hs with hs
    injection hs with hs
    rw [← hs, String.utf8ByteSize_ofList]
    omega
  split at h
  · obtain ⟨v, hv, h⟩ := Option.map_eq_some_iff.mp h
    obtain ⟨rfl, rfl⟩ := Prod.mk.inj h
    refine ⟨String.utf8Len_le_of_suffix (List.dropWhile_suffix _), fun s hs => ?_⟩
    injection hs with hs
    exact absurd (hs ▸ hv) (numberLiteral?_ne_str _ s)
  split at h
  · obtain ⟨rfl, rfl⟩ := Prod.mk.inj (Option.some.inj h)
    exact ⟨String.utf8Len_le_of_suffix (List.dropWhile_suffix _),
      fun s hs => absurd hs (wordToken_ne_str _ s)⟩
  · cases h

/-- A text among the tokens of a text is no longer than it. -/
theorem utf8ByteSize_of_mem_scanFrom {found ts : List Token} {text : List Char} {s : String}
    (h : scanFrom found text = some ts) (hs : literal (.str s) ∈ ts) :
    literal (.str s) ∈ found ∨ s.utf8ByteSize ≤ utf8Len text := by
  fun_induction scanFrom found text with
  | case1 found =>
    obtain rfl := Option.some.inj h
    exact .inl (List.mem_reverse.mp hs)
  | case2 found c rest _ ih =>
    rw [utf8Len_cons]
    exact (ih h).imp id (by omega)
  | case3 => cases h
  | case4 found c rest _ t after hnext _ ih =>
    obtain ⟨hafter, ht⟩ := utf8Len_next?_le hnext
    rw [utf8Len_cons]
    rcases ih h with hmem | hle
    · rcases List.mem_cons.mp hmem with heq | hmem
      · have := ht s heq.symm
        exact .inr (by omega)
      · exact .inl hmem
    · exact .inr (by omega)

end Token

/-! ### Terms -/

namespace Term

/-- A phrase that spells a literal contains it. -/
theorem Derives.mem_of_literal {c : Category} {ts : List Token} {v : Value}
    (h : Derives c ts (.literal v)) : .literal v ∈ ts := by
  generalize ht : Term.literal v = t at h
  induction h with
  | ofProduct _ ih | ofUnary _ ih | ofPower _ ih | ofAtom _ ih => exact ih ht
  | sum | product | minus | power | name => cases ht
  | plus _ ih => exact List.mem_cons_of_mem _ (ih ht)
  | literal w =>
    obtain rfl : v = w := by injection ht
    exact List.mem_singleton_self _
  | brackets _ ih => exact List.mem_cons_of_mem _ (List.mem_append_left _ (ih ht))

/-- **A term that is a text** is no longer than it is written. -/
theorem utf8ByteSize_of_literal {text : List Char} {s : String}
    (h : ofText? text = some (.literal (.str s))) : s.utf8ByteSize ≤ utf8Len text := by
  obtain ⟨ts, hts, hread⟩ := Option.bind_eq_some_iff.mp h
  have hmem : Token.literal (.str s) ∈ ts := (ofTokens?_eq_some_iff.mp hread).mem_of_literal
  exact (Token.utf8ByteSize_of_mem_scanFrom hts hmem).resolve_left List.not_mem_nil

end Term

/-! ### Forms -/

namespace Form

/-- What the form is made of has no more bytes than this. -/
def Within (bytes : Nat) : Form → Prop
  | literal (.str s) => s.utf8ByteSize ≤ bytes
  | template chars => utf8Len chars ≤ bytes
  | method _ receiver => utf8Len receiver ≤ bytes
  | call _ argument => utf8Len argument ≤ bytes
  | _ => True

theorem Within.mono {f : Form} {a b : Nat} (h : f.Within a) (hab : a ≤ b) : f.Within b := by
  cases f with
  | literal v =>
    cases v with
    | str s => exact Nat.le_trans h hab
    | int | float | bool => trivial
  | template chars => exact Nat.le_trans h hab
  | method m receiver => exact Nat.le_trans h hab
  | call f argument => exact Nat.le_trans h hab
  | bare => trivial

theorem within_of_text? {text : List Char} {f : Form} (h : text? text = some f) :
    f.Within (utf8Len text) := by
  unfold text? at h
  split at h
  · obtain rfl := Option.some.inj h
    exact Nat.le_refl 0
  · obtain ⟨meaning, hmeaning, rfl⟩ := Option.map_eq_some_iff.mp h
    rw [Within, String.utf8ByteSize_ofList]
    exact utf8Len_quotedLiteral?_le hmeaning

theorem within_of_template? {text : List Char} {f : Form} (h : template? text = some f) :
    f.Within (utf8Len text) := by
  unfold template? at h
  split at h
  · obtain ⟨chars, hchars, rfl⟩ := Option.map_eq_some_iff.mp h
    exact Nat.le_add_right_of_le (utf8Len_quotedLiteral?_le hchars)
  · obtain ⟨chars, hchars, rfl⟩ := Option.map_eq_some_iff.mp h
    exact Nat.le_add_right_of_le (utf8Len_quotedLiteral?_le hchars)
  · cases h

theorem within_of_method? {m : Method} {text : List Char} {f : Form}
    (h : method? m text = some f) : f.Within (utf8Len text) := by
  obtain ⟨receiver, hreceiver, rfl⟩ := Option.map_eq_some_iff.mp h
  rw [Text.before?_eq_some_iff.mp hreceiver, Within, utf8Len_append]
  exact Nat.le_add_right _ _

theorem within_of_call? {g : Builtin} {text : List Char} {f : Form}
    (h : call? g text = some f) : f.Within (utf8Len text) := by
  obtain ⟨argument, hargument, rfl⟩ := Option.map_eq_some_iff.mp h
  obtain ⟨blanks, -, rfl, -⟩ := callArgument?_eq_some hargument
  simp only [Within, utf8Len_append, utf8Len_cons]
  omega

theorem within_of_constant? {text : List Char} {f : Form} (h : constant? text = some f) :
    f.Within (utf8Len text) := by
  obtain ⟨v, hv, rfl⟩ := Option.map_eq_some_iff.mp h
  cases v with
  | int | float | bool => trivial
  | str s =>
    unfold constantValue? at hv
    split at hv
    · cases hv
    split at hv
    · cases hv
    · obtain ⟨b, -, hb⟩ := Option.map_eq_some_iff.mp hv
      cases hb

/-- **The parts of a text** have no more bytes than the text. -/
theorem within_ofText (text : List Char) : (ofText text).Within (utf8Len text) := by
  unfold ofText
  cases hf : recognisers.findSome? fun recognise => recognise text with
  | none => trivial
  | some f =>
    obtain ⟨recognise, hr, h⟩ := List.exists_of_findSome?_eq_some hf
    simp only [recognisers, List.mem_cons, List.not_mem_nil, or_false] at hr
    rw [Option.getD_some]
    rcases hr with rfl | rfl | rfl | rfl | rfl | rfl | rfl | rfl | rfl
    · exact within_of_text? h
    · exact within_of_template? h
    · exact within_of_method? h
    · exact within_of_method? h
    · exact within_of_method? h
    · exact within_of_call? h
    · exact within_of_call? h
    · exact within_of_call? h
    · exact within_of_constant? h

/-- The same of the form that is evaluated, behind blanks and before blanks. -/
theorem within_of_trim {text : List Char} {f : Form} (h : ofText (Text.trim text) = f) :
    f.Within (utf8Len text) := by
  rw [← h]
  exact (within_ofText _).mono (utf8Len_trim_le text)

end Form

end Autograder.Guest
