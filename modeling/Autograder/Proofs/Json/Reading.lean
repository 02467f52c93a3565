import Autograder.Json.Reader
import Autograder.Json.Writer
import Autograder.Proofs.Term.Scanning
import Autograder.Proofs.Text.Identifiers
import Mathlib.Data.List.Forall2

/-!
# Reading what was written

A document that was written, on one line or over several, is read back as that document.

What makes this an induction is the stack of the reader. Reading a value does not return; it goes on
behind the value within the containers that are open. So the statement about a text, `Reads`, is
that reading it within any open containers comes to going on with the value behind it. Going on
behind a number takes a little more, since a number ends where its digits end: what follows must not
continue it.

A container is written as its parts with commas between them, each behind some blank space. The
space is all that differs between the two written forms, so both are cases of one statement about
any space.

## Main definitions

* `Json.Reads` — a text is read as a value wherever it stands
* `Json.joined` — parts with commas between them
* `Json.Written` — the documents without floats

## Main results

* `Json.readText_escaped` — characters, read back
* `Json.Reads.array`, `Json.Reads.object` — containers, read back
* `Json.Written.reads_compact`, `Json.Written.reads_prettyAt` — documents, read back
-/

namespace Autograder.Json

/-! ### Text -/

section Text

variable {c : Char} {out rest more : List Char}

theorem readText_quote : readText (some out) ('"' :: rest) =
    some (some (String.ofList out.reverse), rest) := by
  rw [readText]
  rfl

theorem readText_escape (h : escape? rest = some (some c, more)) :
    readText (some out) ('\\' :: rest) = readText (some (c :: out)) more := by
  rw [readText, if_neg (by decide), if_pos (by decide)]
  split
  · rename_i hnone
    simp [hnone] at h
  · rename_i d more' hsome
    obtain ⟨rfl, rfl⟩ : d = some c ∧ more' = more := by simpa using hsome.symm.trans h
    rfl

theorem readText_plain (hquote : c ≠ '"') (hslash : c ≠ '\\') (hcontrol : ¬ c.val < 0x20) :
    readText (some out) (c :: rest) = readText (some (c :: out)) rest := by
  rw [readText]
  simp [hquote, hslash, hcontrol]

/-- A control character is spelled by its unit. -/
theorem escape?_control (h : c.val < 0x20) (rest : List Char) :
    escape? ('u' :: '0' :: '0' :: Text.hexDigit (c.toNat / 16) :: Text.hexDigit (c.toNat % 16) ::
      rest) = some (some c, rest) := by
  have hlt : c.toNat < 0x20 := h
  have hhigh : Text.hexValue? (Text.hexDigit (c.toNat / 16)) = some (c.toNat / 16) :=
    Text.hexValue?_hexDigit (by omega)
  have hlow : Text.hexValue? (Text.hexDigit (c.toNat % 16)) = some (c.toNat % 16) :=
    Text.hexValue?_hexDigit (Nat.mod_lt _ (by decide))
  have hzero : Text.hexValue? '0' = some 0 := by decide
  have hvalue : ((0 * 16 + 0) * 16 + c.toNat / 16) * 16 + c.toNat % 16 = c.toNat := by omega
  have hunit : isHighUnit c.toNat = false ∧ isLowUnit c.toNat = false := by
    constructor <;> simp [isHighUnit, isLowUnit] <;> omega
  rw [escape?, unit?, hzero, hhigh, hlow]
  dsimp only
  rw [hvalue, Option.map_some]
  simp [unitEscape, hunit]

/-- A character is written as itself, or as an escape that spells it. The marks and the control
characters are what reading would not take for themselves. -/
theorem escape_cases (c : Char) :
    (escape c = [c] ∧ c ≠ '"' ∧ c ≠ '\\' ∧ ¬ c.val < 0x20) ∨
      ∃ spelled, escape c = '\\' :: spelled ∧
        ∀ rest, escape? (spelled ++ rest) = some (some c, rest) := by
  rw [escape]
  split_ifs with hquote hslash hback htab hline hform hreturn hcontrol
  · obtain rfl := beq_iff_eq.mp hquote
    exact .inr ⟨['"'], rfl, fun _ => rfl⟩
  · obtain rfl := beq_iff_eq.mp hslash
    exact .inr ⟨['\\'], rfl, fun _ => rfl⟩
  · obtain rfl := beq_iff_eq.mp hback
    exact .inr ⟨['b'], rfl, fun _ => rfl⟩
  · obtain rfl := beq_iff_eq.mp htab
    exact .inr ⟨['t'], rfl, fun _ => rfl⟩
  · obtain rfl := beq_iff_eq.mp hline
    exact .inr ⟨['n'], rfl, fun _ => rfl⟩
  · obtain rfl := beq_iff_eq.mp hform
    exact .inr ⟨['f'], rfl, fun _ => rfl⟩
  · obtain rfl := beq_iff_eq.mp hreturn
    exact .inr ⟨['r'], rfl, fun _ => rfl⟩
  · exact .inr ⟨_, rfl, escape?_control hcontrol⟩
  · exact .inl ⟨rfl, by simpa using hquote, by simpa using hslash, hcontrol⟩

/-- **Characters, read back.** -/
theorem readText_escaped (text out rest : List Char) :
    readText (some out) (text.flatMap escape ++ '"' :: rest) =
      some (some (String.ofList (out.reverse ++ text)), rest) := by
  induction text generalizing out with
  | nil => simpa using readText_quote
  | cons c text ih =>
    rw [List.flatMap_cons, List.append_assoc]
    rcases escape_cases c with ⟨hself, hquote, hslash, hcontrol⟩ | ⟨spelled, hescape, hspelled⟩
    · rw [hself, List.singleton_append, readText_plain hquote hslash hcontrol, ih]
      simp
    · rw [hescape, List.cons_append, readText_escape (hspelled _), ih]
      simp

end Text

/-! ### Numbers -/

/-- What follows a number does not continue it. -/
def EndsNumber (rest : List Char) : Prop :=
  ∀ c ∈ rest.head?, Decimal.isDigit c = false ∧ c ≠ '.' ∧ c ≠ 'e' ∧ c ≠ 'E'

/-- Digits start with zero only if zero is all there is. -/
theorem head?_toDigits_ne {n : Nat} (h : 0 < n) : (Nat.toDigits 10 n).head? ≠ some '0' := by
  induction n using Nat.strongRecOn with
  | ind n ih =>
    by_cases hlt : n < 10
    · have hdigit : ∀ n < 10, 0 < n → [n.digitChar].head? ≠ some '0' := by decide
      rw [Nat.toDigits_of_lt_base hlt]
      exact hdigit n hlt h
    · rw [Nat.toDigits_of_base_le (by decide) (by omega),
        List.head?_append_of_ne_nil _ Nat.toDigits_ne_nil]
      exact ih (n / 10) (by omega) (by omega)

theorem readDigits_toDigits (n : Nat) {rest : List Char} (h : EndsNumber rest) :
    readDigits (Nat.toDigits 10 n ++ rest) = some (Nat.toDigits 10 n, rest) := by
  have hdigits : ∀ c ∈ Nat.toDigits 10 n, Decimal.isDigit c = true :=
    fun c => Guest.isDigit_of_mem_toDigits
  have hrest : rest.takeWhile Decimal.isDigit = [] ∧ rest.dropWhile Decimal.isDigit = rest := by
    cases rest with
    | nil => exact ⟨rfl, rfl⟩
    | cons c rest => simp [(h c rfl).1]
  have htake : (Nat.toDigits 10 n ++ rest).takeWhile Decimal.isDigit = Nat.toDigits 10 n := by
    rw [List.takeWhile_append_of_pos hdigits, hrest.1, List.append_nil]
  have hdrop : (Nat.toDigits 10 n ++ rest).dropWhile Decimal.isDigit = rest := by
    rw [List.dropWhile_append_of_pos hdigits, hrest.2]
  rw [readDigits, htake, hdrop]
  split
  · rename_i hnil
    exact absurd hnil Nat.toDigits_ne_nil
  · rfl

theorem readFraction_of_ends {rest : List Char} (h : EndsNumber rest) :
    readFraction rest = some ([], rest) := by
  rw [readFraction]
  rintro more rfl
  exact (h '.' rfl).2.1 rfl

theorem readExponent_of_ends {rest : List Char} (h : EndsNumber rest) :
    readExponent rest = some (none, rest) := by
  rw [readExponent]
  · rintro more rfl
    exact (h 'e' rfl).2.2.1 rfl
  · rintro more rfl
    exact (h 'E' rfl).2.2.2 rfl

/-- **Numbers, read back.** -/
theorem readUnsigned_toDigits (n : Nat) {rest : List Char} (h : EndsNumber rest) :
    readUnsigned false (Nat.toDigits 10 n ++ rest) =
      some (⟨false, Nat.toDigits 10 n, [], none⟩, rest) := by
  have hzero : (Nat.toDigits 10 n).head? = some '0' → (Nat.toDigits 10 n).length = 1 := by
    rcases Nat.eq_zero_or_pos n with rfl | hpos
    · decide
    · exact fun hhead => absurd hhead (head?_toDigits_ne hpos)
  rw [readUnsigned, readDigits_toDigits n h]
  simpa [readFraction_of_ends h, readExponent_of_ends h] using hzero

/-! ### One step of the reader -/

/-- Nothing but blank space. -/
def Blank (gap : List Char) : Prop :=
  ∀ c ∈ gap, isSpace c = true

section Steps

variable {stack : List Frame} {text text' rest more gap : List Char} {value : Json}

theorem skipSpace_append (h : Blank gap) (text : List Char) :
    skipSpace (gap ++ text) = skipSpace text :=
  List.dropWhile_append_of_pos h

theorem skipSpace_cons {c : Char} (h : isSpace c = false) (text : List Char) :
    skipSpace (c :: text) = c :: text := by
  simp [skipSpace, h]

/-- What stands behind a gap. -/
theorem skipSpace_append_cons {c : Char} (hgap : Blank gap) (h : isSpace c = false)
    (text : List Char) : skipSpace (gap ++ c :: text) = c :: text := by
  rw [skipSpace_append hgap, skipSpace_cons h]

/-- Space in front of a value does not matter. -/
theorem readValue_append (h : Blank gap) (text : List Char) :
    readValue stack (gap ++ text) = readValue stack text := by
  have hskip := skipSpace_append h text
  rw [readValue, readValue.eq_def stack text]
  dsimp only
  generalize skipSpace (gap ++ text) = t at hskip ⊢
  subst hskip
  rfl

theorem readValue_scalar (hstart : ∀ rest, skipSpace text ≠ '[' :: rest)
    (hstart' : ∀ rest, skipSpace text ≠ '\x7b' :: rest)
    (h : readScalar (skipSpace text) = some (value, rest)) :
    readValue stack text = resume stack value rest := by
  rw [readValue]
  split
  · rename_i hopen
    exact absurd hopen (hstart _)
  · rename_i hopen
    exact absurd hopen (hstart' _)
  · split
    · rename_i value' rest' hscalar
      obtain ⟨rfl, rfl⟩ : value' = value ∧ rest' = rest := by simpa using hscalar.symm.trans h
      rfl
    · simp_all

/-- An array starts with its end or with an item. -/
theorem readValue_bracket (stack : List Frame) (text : List Char) :
    readValue stack ('[' :: text) =
      match skipSpace text with
      | ']' :: rest => resume stack (.array [] true) rest
      | _ => readValue (.array [] :: stack) text := by
  have hopen : skipSpace ('[' :: text) = '[' :: text := skipSpace_cons (by decide) text
  rw [readValue]
  split
  · rename_i rest hrest
    obtain rfl : rest = text := by simpa using hrest.symm.trans hopen
    dsimp only
    generalize skipSpace rest = t
    split
    · rfl
    · rename_i hother
      split
      · exact absurd rfl (hother _)
      · rfl
  · rename_i hrest
    simp [hopen] at hrest
  · rename_i hother _
    exact absurd hopen (hother text)

/-- An object starts with its end or with a member. -/
theorem readValue_brace (stack : List Frame) (text : List Char) :
    readValue stack ('\x7b' :: text) =
      match skipSpace text with
      | '\x7d' :: rest => resume stack (.object [] true) rest
      | _ => readMember stack [] text := by
  have hopen : skipSpace ('\x7b' :: text) = '\x7b' :: text := skipSpace_cons (by decide) text
  rw [readValue]
  split
  · rename_i hrest
    simp [hopen] at hrest
  · rename_i rest hrest
    obtain rfl : rest = text := by simpa using hrest.symm.trans hopen
    dsimp only
    generalize skipSpace rest = t
    split
    · rfl
    · rename_i hother
      split
      · exact absurd rfl (hother _)
      · rfl
  · rename_i hother
    exact absurd hopen (hother text)

variable {items : List Json} {members : List (Option String × Json)} {key : Option String}

theorem resume_item (h : skipSpace text = ',' :: rest) :
    resume (.array items :: stack) value text =
      readValue (.array (value :: items) :: stack) rest := by
  rw [resume]
  split <;> grind

theorem resume_closeArray (h : skipSpace text = ']' :: rest) :
    resume (.array items :: stack) value text =
      resume stack (.array (value :: items).reverse true) rest := by
  rw [resume]
  split <;> grind

theorem resume_member (h : skipSpace text = ',' :: rest) :
    resume (.object members key :: stack) value text =
      readMember stack ((key, value) :: members) rest := by
  rw [resume]
  split <;> grind

theorem resume_closeObject (h : skipSpace text = '\x7d' :: rest) :
    resume (.object members key :: stack) value text =
      resume stack (.object ((key, value) :: members).reverse true) rest := by
  rw [resume]
  split <;> grind

theorem readMember_key (h : skipSpace text = '"' :: rest)
    (hkey : readText (some []) rest = some (key, ':' :: more)) :
    readMember stack members text = readValue (.object members key :: stack) more := by
  have hcolon : skipSpace (':' :: more) = ':' :: more := skipSpace_cons (by decide) more
  rw [readMember]
  split
  · rename_i rest' hrest
    obtain rfl : rest' = rest := by simpa using hrest.symm.trans h
    split
    · rename_i key' more' hread
      obtain ⟨rfl, rfl⟩ : key' = key ∧ more' = ':' :: more := by
        simpa using hread.symm.trans hkey
      split <;> simp_all
    · simp_all
  · simp_all

end Steps

/-! ### Values in place -/

/-- The text is read as the value, within whatever containers and in front of whatever does not
continue a number. It starts with neither a blank nor the end of an array. -/
structure Reads (value : Json) (text : List Char) : Prop where
  starts : ∃ c tail, text = c :: tail ∧ isSpace c = false ∧ c ≠ ']'
  read : ∀ stack rest, EndsNumber rest → readValue stack (text ++ rest) = resume stack value rest

/-- The text is read as the member: its key, a colon and its value behind some space. -/
inductive ReadsMember : Option String × Json → List Char → Prop where
  | intro {key : String} {value : Json} {gap text : List Char} (hgap : Blank gap)
    (hvalue : Reads value text) :
    ReadsMember (some key, value) (writeText (some key) ++ ':' :: (gap ++ text))

/-- Parts with commas between them, each behind the same space. -/
def joined (gap : List Char) : List (List Char) → List Char
  | [] => []
  | [text] => gap ++ text
  | text :: texts => gap ++ (text ++ ',' :: joined gap texts)

theorem joined_cons_cons (gap text text' : List Char) (texts : List (List Char)) :
    joined gap (text :: text' :: texts) =
      gap ++ (text ++ ',' :: joined gap (text' :: texts)) :=
  rfl

theorem blank_nil : Blank [] := by
  simp [Blank]

/-- No number goes on with a blank, a comma or the end of a container. -/
theorem endsNumber_cons {c : Char} (h : isSpace c = true ∨ c ∈ [',', ']', '\x7d'])
    (rest : List Char) : EndsNumber (c :: rest) := by
  have hblank : ∀ d ∈ [' ', '\n', '\t', '\r', ',', ']', '\x7d'],
      Decimal.isDigit d = false ∧ d ≠ '.' ∧ d ≠ 'e' ∧ d ≠ 'E' := by
    simp [Decimal.isDigit]
  intro d hd
  obtain rfl : c = d := by simpa using hd
  apply hblank
  simp only [isSpace, Bool.or_eq_true, beq_iff_eq] at h
  grind

theorem endsNumber_close {gap : List Char} (hgap : Blank gap) {c : Char} (hc : c ∈ [']', '\x7d'])
    (rest : List Char) : EndsNumber (gap ++ c :: rest) := by
  cases gap with
  | nil => exact endsNumber_cons (.inr (List.mem_cons_of_mem _ hc)) rest
  | cons d gap => exact endsNumber_cons (.inl (hgap d List.mem_cons_self)) _

section Containers

variable {stack : List Frame} {gap gap' rest : List Char}

/-- The items of an array, from any of them on. -/
theorem readValue_joined (hgap : Blank gap) (hgap' : Blank gap') {items : List Json}
    {texts : List (List Char)} (h : List.Forall₂ Reads items texts) (hne : items ≠ [])
    (done : List Json) :
    readValue (.array done :: stack) (joined gap texts ++ (gap' ++ ']' :: rest)) =
      resume stack (.array (done.reverse ++ items) true) rest := by
  induction h generalizing done with
  | nil => exact absurd rfl hne
  | @cons item text items texts hitem htail ih =>
    -- Behind the last item stands the end of the array, behind any other a comma.
    cases htail with
    | nil =>
      have hclose : skipSpace (gap' ++ ']' :: rest) = ']' :: rest :=
        skipSpace_append_cons hgap' (by decide) rest
      rw [joined, List.append_assoc, readValue_append hgap,
        hitem.read _ _ (endsNumber_close hgap' (by decide) rest), resume_closeArray hclose,
        List.reverse_cons]
    | @cons next text' items texts hnext htail =>
      rw [joined_cons_cons, List.append_assoc, readValue_append hgap, List.append_assoc,
        List.cons_append,
        hitem.read _ _ (endsNumber_cons (.inr (by decide)) _),
        resume_item (skipSpace_cons (by decide) _), ih (by simp)]
      simp

/-- A member starts with the mark of its key. -/
theorem ReadsMember.starts {member : Option String × Json} {text : List Char}
    (h : ReadsMember member text) : ∃ tail, text = '"' :: tail := by
  cases h
  exact ⟨_, rfl⟩

/-- One member, behind some space. -/
theorem ReadsMember.read {member : Option String × Json} {text : List Char}
    (h : ReadsMember member text) (hgap : Blank gap) (hrest : EndsNumber rest)
    (done : List (Option String × Json)) :
    readMember stack done (gap ++ (text ++ rest)) =
      resume (.object done member.1 :: stack) member.2 rest := by
  obtain @⟨key, value, space, text, hspace, hvalue⟩ := h
  have hkey : readText (some []) (key.toList.flatMap escape ++ '"' :: ':' ::
      (space ++ (text ++ rest))) = some (some key, ':' :: (space ++ (text ++ rest))) := by
    rw [readText_escaped]
    simp
  rw [writeText, Option.getD_some]
  simp only [List.cons_append, List.append_assoc, List.nil_append]
  rw [readMember_key (skipSpace_append_cons hgap (by decide) _) hkey, readValue_append hspace,
    hvalue.read _ _ hrest]

/-- The members of an object, from any of them on. -/
theorem readMember_joined (hgap : Blank gap) (hgap' : Blank gap')
    {members : List (Option String × Json)} {texts : List (List Char)}
    (h : List.Forall₂ ReadsMember members texts) (hne : members ≠ [])
    (done : List (Option String × Json)) :
    readMember stack done (joined gap texts ++ (gap' ++ '\x7d' :: rest)) =
      resume stack (.object (done.reverse ++ members) true) rest := by
  induction h generalizing done with
  | nil => exact absurd rfl hne
  | @cons member text members texts hmember htail ih =>
    cases htail with
    | nil =>
      have hclose : skipSpace (gap' ++ '\x7d' :: rest) = '\x7d' :: rest :=
        skipSpace_append_cons hgap' (by decide) rest
      rw [joined, List.append_assoc,
        hmember.read hgap (endsNumber_close hgap' (by decide) rest), resume_closeObject hclose,
        List.reverse_cons]
    | @cons next text' members texts hnext htail =>
      rw [joined_cons_cons, List.append_assoc, List.append_assoc, List.cons_append,
        hmember.read hgap (endsNumber_cons (.inr (by decide)) _),
        resume_member (skipSpace_cons (by decide) _), ih (by simp)]
      simp

/-- What the parts of a container start with. -/
theorem skipSpace_joined (hgap : Blank gap) {c : Char} (hc : isSpace c = false)
    (tail : List Char) (texts : List (List Char)) (behind : List Char) :
    ∃ more, skipSpace (joined gap ((c :: tail) :: texts) ++ behind) = c :: more := by
  cases texts with
  | nil =>
    rw [joined, List.append_assoc]
    exact ⟨_, skipSpace_append_cons hgap hc _⟩
  | cons text texts =>
    rw [joined_cons_cons, List.append_assoc]
    exact ⟨_, skipSpace_append_cons hgap hc _⟩

/-- **Arrays, read back.** -/
theorem Reads.array (hgap : Blank gap) (hgap' : Blank gap') {items : List Json}
    {texts : List (List Char)} (h : List.Forall₂ Reads items texts) :
    Reads (.array items true) ('[' :: (joined gap texts ++ (gap' ++ [']']))) where
  starts := ⟨_, _, rfl, by decide⟩
  read stack rest _ := by
    simp only [List.cons_append, List.append_assoc, List.nil_append]
    cases h with
    | nil =>
      have hclose : skipSpace (gap' ++ ']' :: rest) = ']' :: rest :=
        skipSpace_append_cons hgap' (by decide) rest
      rw [joined, List.nil_append, readValue_bracket, hclose]
      rfl
    | @cons item text items texts hitem htail =>
      obtain ⟨c, tail, rfl, hspace, hc⟩ := hitem.starts
      obtain ⟨more, hmore⟩ := skipSpace_joined hgap hspace tail texts (gap' ++ ']' :: rest)
      rw [readValue_bracket, hmore, readValue_joined hgap hgap' (.cons hitem htail) (by simp)]
      split
      · rename_i hclose
        exact absurd (List.cons.inj hclose).1 hc
      · rfl

/-- **Objects, read back.** -/
theorem Reads.object (hgap : Blank gap) (hgap' : Blank gap')
    {members : List (Option String × Json)} {texts : List (List Char)}
    (h : List.Forall₂ ReadsMember members texts) :
    Reads (.object members true) ('\x7b' :: (joined gap texts ++ (gap' ++ ['\x7d']))) where
  starts := ⟨_, _, rfl, by decide⟩
  read stack rest _ := by
    simp only [List.cons_append, List.append_assoc, List.nil_append]
    cases h with
    | nil =>
      have hclose : skipSpace (gap' ++ '\x7d' :: rest) = '\x7d' :: rest :=
        skipSpace_append_cons hgap' (by decide) rest
      rw [joined, List.nil_append, readValue_brace, hclose]
      rfl
    | @cons member text members texts hmember htail =>
      obtain ⟨tail, rfl⟩ := hmember.starts
      obtain ⟨more, hmore⟩ := skipSpace_joined hgap (by decide : isSpace '"' = false) tail texts
        (gap' ++ '\x7d' :: rest)
      rw [readValue_brace, hmore, readMember_joined hgap hgap' (.cons hmember htail) (by simp)]
      rfl

end Containers

/-! ### Values without parts -/

/-- A value without parts is read where its text starts with neither a blank nor a bracket. -/
theorem Reads.scalar {value : Json} {c : Char} {text : List Char} (hspace : isSpace c = false)
    (hc : c ∉ ['[', ']', '\x7b'])
    (h : ∀ rest, EndsNumber rest → readScalar (c :: (text ++ rest)) = some (value, rest)) :
    Reads value (c :: text) := by
  obtain ⟨hopen, hclose, hbrace⟩ : c ≠ '[' ∧ c ≠ ']' ∧ c ≠ '\x7b' := by simpa using hc
  refine ⟨⟨c, text, rfl, hspace, hclose⟩, fun stack rest hrest => ?_⟩
  have hskip : skipSpace (c :: text ++ rest) = c :: (text ++ rest) := skipSpace_cons hspace _
  refine readValue_scalar ?_ ?_ (hskip ▸ h rest hrest)
  · rw [hskip]
    simp [hopen]
  · rw [hskip]
    simp [hbrace]

theorem reads_null : Reads .null (compact .null) :=
  .scalar (by decide) (by decide) fun rest _ => rfl

theorem reads_bool (b : Bool) : Reads (.bool b) (compact (.bool b)) := by
  cases b
  · exact .scalar (by decide) (by decide) fun rest _ => rfl
  · exact .scalar (by decide) (by decide) fun rest _ => rfl

theorem reads_ofString (s : String) : Reads (ofString s) (compact (ofString s)) := by
  rw [ofString, compact, writeText, Option.getD_some]
  refine .scalar (by decide) (by decide) fun rest _ => ?_
  have htext : readText (some []) (s.toList.flatMap escape ++ '"' :: rest) =
      some (some s, rest) := by
    rw [readText_escaped]
    simp
  rw [List.append_assoc, List.singleton_append, readScalar, htext]
  rfl

theorem ne_of_isDigit {c d : Char} (hc : Decimal.isDigit c = true)
    (hd : Decimal.isDigit d = false) : c ≠ d := by
  rintro rfl
  exact absurd hc (by simp [hd])

theorem isSpace_of_isDigit {c : Char} (h : Decimal.isDigit c = true) : isSpace c = false := by
  have hblank := ne_of_isDigit h (by decide : Decimal.isDigit ' ' = false)
  have hline := ne_of_isDigit h (by decide : Decimal.isDigit '\n' = false)
  have htab := ne_of_isDigit h (by decide : Decimal.isDigit '\t' = false)
  have hreturn := ne_of_isDigit h (by decide : Decimal.isDigit '\r' = false)
  simp [isSpace, hblank, hline, htab, hreturn]

/-- A number starts with a digit, and nothing else does. -/
theorem reads_ofNat (n : Nat) : Reads (ofNat n) (compact (ofNat n)) := by
  have htext : compact (ofNat n) = Nat.toDigits 10 n := by simp [ofNat, compact, Numeral.text]
  have hne : Nat.toDigits 10 n ≠ [] := Nat.toDigits_ne_nil
  obtain ⟨c, digits, hdigits⟩ := List.exists_cons_of_ne_nil hne
  have hc : Decimal.isDigit c = true :=
    Guest.isDigit_of_mem_toDigits (hdigits ▸ List.mem_cons_self : c ∈ Nat.toDigits 10 n)
  have hbrackets : ∀ d ∈ ['[', ']', '\x7b'], Decimal.isDigit d = false := by
    simp [Decimal.isDigit]
  rw [htext, hdigits]
  refine .scalar (isSpace_of_isDigit hc) (fun hmem => ?_) fun rest hrest => ?_
  · exact absurd (hbrackets c hmem) (by simp [hc])
  · have hnumber := readUnsigned_toDigits n hrest
    rw [hdigits, List.cons_append] at hnumber
    rw [ofNat, hdigits, readScalar, readNumber, hnumber]
    · rfl
    all_goals exact fun _ heq => ne_of_isDigit hc (by decide) (List.cons.inj heq).1

/-! ### Documents -/

/-- The documents without floats: words, natural numbers and texts, and complete containers of
them. -/
inductive Written : Json → Prop where
  | null : Written .null
  | bool (b : Bool) : Written (.bool b)
  | ofNat (n : Nat) : Written (ofNat n)
  | ofString (s : String) : Written (ofString s)
  | ofList {items : List Json} (h : ∀ item ∈ items, Written item) : Written (ofList items)
  | ofMembers {members : List (String × Json)} (h : ∀ m ∈ members, Written m.2) :
    Written (ofMembers members)

/-- Whatever writes parts with commas between them writes them so. -/
theorem eq_joined {α : Type} (gap : List Char) (part : α → List Char)
    (write : List α → List Char) (hnil : write [] = []) (hone : ∀ a, write [a] = gap ++ part a)
    (hmore : ∀ a b as, write (a :: b :: as) = gap ++ (part a ++ ',' :: write (b :: as)))
    (as : List α) : write as = joined gap (as.map part) := by
  induction as with
  | nil => exact hnil
  | cons a as ih =>
    cases as with
    | nil => exact hone a
    | cons b as =>
      rw [hmore, ih]
      rfl

/-- The text of a member. -/
def memberText (gap : List Char) (write : Json → List Char) (m : Option String × Json) :
    List Char :=
  writeText m.1 ++ ':' :: (gap ++ write m.2)

theorem compactItems_eq (items : List Json) :
    compactItems items = joined [] (items.map compact) :=
  eq_joined [] compact compactItems rfl (fun _ => rfl) (fun _ _ _ => rfl) items

theorem compactMembers_eq (members : List (Option String × Json)) :
    compactMembers members = joined [] (members.map (memberText [] compact)) :=
  eq_joined [] (memberText [] compact) compactMembers rfl (fun _ => rfl)
    (fun _ _ _ => by simp [compactMembers, memberText]) members

theorem prettyItems_eq (level : Nat) (items : List Json) :
    prettyItems level items = joined (newLine level) (items.map (prettyAt level)) :=
  eq_joined (newLine level) (prettyAt level) (prettyItems level) rfl (fun _ => rfl)
    (fun _ _ _ => rfl) items

theorem prettyMembers_eq (level : Nat) (members : List (Option String × Json)) :
    prettyMembers level members =
      joined (newLine level) (members.map (memberText [' '] (prettyAt level))) :=
  eq_joined (newLine level) (memberText [' '] (prettyAt level)) (prettyMembers level) rfl
    (fun _ => rfl) (fun _ _ _ => by simp [prettyMembers, memberText]) members

theorem blank_newLine (level : Nat) : Blank (newLine level) := by
  intro c hc
  rcases List.mem_cons.mp hc with rfl | hc
  · decide
  · rw [List.eq_of_mem_replicate hc]
    decide

section Parts

variable {write : Json → List Char}

theorem forall₂_reads {items : List Json} (h : ∀ item ∈ items, Reads item (write item)) :
    List.Forall₂ Reads items (items.map write) := by
  rw [List.forall₂_map_right_iff]
  exact List.forall₂_same.mpr h

theorem forall₂_readsMember {gap : List Char} (hgap : Blank gap) {members : List (String × Json)}
    (h : ∀ m ∈ members, Reads m.2 (write m.2)) :
    List.Forall₂ ReadsMember (members.map fun (key, value) => (some key, value))
      ((members.map fun (key, value) => (some key, value)).map (memberText gap write)) := by
  rw [List.forall₂_map_right_iff, List.forall₂_same]
  intro m hm
  obtain ⟨⟨key, value⟩, hmem, rfl⟩ := List.mem_map.mp hm
  exact .intro hgap (h _ hmem)

end Parts

/-- **A document on one line, read back.** -/
theorem Written.reads_compact {value : Json} (h : Written value) : Reads value value.compact := by
  induction h with
  | null => exact reads_null
  | bool b => exact reads_bool b
  | ofNat n => exact reads_ofNat n
  | ofString s => exact reads_ofString s
  | ofList _ ih =>
    rw [Json.ofList, compact, compactItems_eq]
    exact .array blank_nil blank_nil (forall₂_reads ih)
  | ofMembers _ ih =>
    rw [Json.ofMembers, compact, compactMembers_eq]
    exact .object blank_nil blank_nil (forall₂_readsMember blank_nil ih)

/-- **A document over several lines, read back.** An empty container has no lines of its own. -/
theorem Written.reads_prettyAt {value : Json} (h : Written value) (level : Nat) :
    Reads value (value.prettyAt level) := by
  have hspace : Blank [' '] := by simp [Blank, isSpace]
  induction h generalizing level with
  | null => exact reads_null
  | bool b => exact reads_bool b
  | ofNat n => exact reads_ofNat n
  | ofString s => exact reads_ofString s
  | @ofList items _ ih =>
    have hitems := forall₂_reads fun item hitem => ih item hitem (level + 1)
    cases items with
    | nil => exact .array blank_nil blank_nil .nil
    | cons item items =>
      rw [Json.ofList, prettyAt, prettyItems_eq]
      · exact .array (blank_newLine _) (blank_newLine _) hitems
      · simp
  | @ofMembers members _ ih =>
    have hmembers := forall₂_readsMember hspace fun m hm => ih m hm (level + 1)
    cases members with
    | nil => exact .object blank_nil blank_nil .nil
    | cons m members =>
      rw [Json.ofMembers, prettyAt, prettyMembers_eq]
      · exact .object (blank_newLine _) (blank_newLine _) hmembers
      · simp

end Autograder.Json
