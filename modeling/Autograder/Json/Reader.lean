import Autograder.Json.Basic
import Autograder.Text.Cut
import Autograder.Text.Hex

/-!
# Reading documents

Text becomes a document in one pass from left to right. The containers that are open at the place
of reading lie on a stack, so a deeply nested document needs no deep recursion; where the syntax
breaks, the open containers are closed around what has been read.
-/

namespace Autograder.Json

/-- Blank space between the words of a document. -/
def isSpace (c : Char) : Bool :=
  c == ' ' || c == '\n' || c == '\t' || c == '\r'

/-- The text from its first character that is not blank space. -/
def skipSpace (text : List Char) : List Char :=
  text.dropWhile isSpace

theorem length_skipSpace_le (text : List Char) : (skipSpace text).length ≤ text.length :=
  (List.dropWhile_sublist _).length_le

theorem length_of_skipSpace {text rest : List Char} {c : Char} (h : skipSpace text = c :: rest) :
    rest.length < text.length := by
  have := length_skipSpace_le text
  rw [h] at this
  exact this

/-! ## Text -/

/-- The code unit that four hexadecimal digits spell, and what follows them. -/
def unit? : List Char → Option (Nat × List Char)
  | a :: b :: c :: d :: rest =>
    match Text.hexValue? a, Text.hexValue? b, Text.hexValue? c, Text.hexValue? d with
    | some a, some b, some c, some d => some (((a * 16 + b) * 16 + c) * 16 + d, rest)
    | _, _, _, _ => none
  | _ => none

/-- The first unit of a surrogate pair. -/
def isHighUnit (n : Nat) : Bool :=
  0xD800 ≤ n && n < 0xDC00

/-- The second unit of a surrogate pair. -/
def isLowUnit (n : Nat) : Bool :=
  0xDC00 ≤ n && n < 0xE000

/-- The character that the escape of a unit spells, and what follows it. A first half of a pair
takes the escape behind it when that is a second half; half a pair spells no character. -/
def unitEscape (n : Nat) (rest : List Char) : Option Char × List Char :=
  if isHighUnit n then
    match rest with
    | '\\' :: 'u' :: more =>
      match unit? more with
      | some (m, rest') =>
        if isLowUnit m then
          (some (Char.ofNat (0x10000 + (n - 0xD800) * 0x400 + (m - 0xDC00))), rest')
        else (none, rest)
      | none => (none, rest)
    | _ => (none, rest)
  else if isLowUnit n then (none, rest)
  else (some (Char.ofNat n), rest)

/-- The character that an escape spells, from behind its backslash, and what follows it. The outer
answer is none if there is no such escape. -/
def escape? : List Char → Option (Option Char × List Char)
  | '"' :: rest => some (some '"', rest)
  | '\\' :: rest => some (some '\\', rest)
  | '/' :: rest => some (some '/', rest)
  | 'b' :: rest => some (some '\x08', rest)
  | 'f' :: rest => some (some '\x0c', rest)
  | 'n' :: rest => some (some '\n', rest)
  | 'r' :: rest => some (some '\r', rest)
  | 't' :: rest => some (some '\t', rest)
  | 'u' :: rest => (unit? rest).map fun (n, more) => unitEscape n more
  | _ => none

theorem length_of_unit? {text rest : List Char} {n : Nat} (h : unit? text = some (n, rest)) :
    rest.length < text.length := by
  unfold unit? at h
  split at h
  · split at h
    · simp only [Option.some.injEq, Prod.mk.injEq] at h
      simp [← h.2]
      omega
    · simp at h
  · simp at h

theorem length_unitEscape_le (n : Nat) (rest : List Char) :
    (unitEscape n rest).2.length ≤ rest.length := by
  unfold unitEscape
  split
  · split
    · split
      · rename_i h
        have := length_of_unit? h
        split <;> simp
        omega
      · simp
    · simp
  · split <;> simp

theorem length_of_escape? {text rest : List Char} {c : Option Char}
    (h : escape? text = some (c, rest)) : rest.length < text.length := by
  unfold escape? at h
  split at h
  all_goals try contradiction
  all_goals try
    (simp only [Option.some.injEq, Prod.mk.injEq] at h; simp [← h.2])
  obtain ⟨⟨n, more⟩, hu, h⟩ := Option.map_eq_some_iff.1 h
  have h₁ := length_of_unit? hu
  have h₂ := length_unitEscape_le n more
  simp only at h
  rw [h] at h₂
  simp only [List.length_cons] at h₂ ⊢
  omega

/-- Reads a text from behind its opening mark. `out` holds its characters so far, latest first, or
nothing once half a pair has been met. -/
def readText (out : Option (List Char)) (text : List Char) : Option (Option String × List Char) :=
  match text with
  | [] => none
  | c :: rest =>
    if c == '"' then some (out.map fun cs => String.ofList cs.reverse, rest)
    else if c == '\\' then
      match h : escape? rest with
      | none => none
      | some (d, more) =>
        have := length_of_escape? h
        readText (match out, d with
          | some cs, some d => some (d :: cs)
          | _, _ => none) more
    else if c.val < 0x20 then none
    else readText (out.map (c :: ·)) rest
termination_by text.length

theorem length_of_readText {out : Option (List Char)} {text rest : List Char} {s : Option String}
    (h : readText out text = some (s, rest)) : rest.length < text.length := by
  fun_induction readText out text with
  | case1 => simp at h
  | case2 out c rest' hc =>
    simp only [Option.some.injEq, Prod.mk.injEq] at h
    simp [h.2]
  | case3 => simp at h
  | case4 out c rest' hc he d more hm hl ih =>
    have := ih h
    simp
    omega
  | case5 => simp at h
  | case6 out c rest' hc he hv ih =>
    have := ih h
    simp
    omega

/-! ## Numbers -/

/-- One or more digits, and what follows them. -/
def readDigits (text : List Char) : Option (List Char × List Char) :=
  match text.takeWhile Decimal.isDigit with
  | [] => none
  | digits => some (digits, text.dropWhile Decimal.isDigit)

/-- The fraction of a number, if there is one. -/
def readFraction : List Char → Option (List Char × List Char)
  | '.' :: rest => readDigits rest
  | text => some ([], text)

/-- The digits of an exponent behind its sign. -/
def readSigned (text : List Char) : Option (Option (Bool × List Char) × List Char) :=
  (readDigits (Decimal.splitSign text).2).map fun (digits, rest) =>
    (some ((Decimal.splitSign text).1, digits), rest)

/-- The exponent of a number, if there is one. -/
def readExponent : List Char → Option (Option (Bool × List Char) × List Char)
  | 'e' :: rest => readSigned rest
  | 'E' :: rest => readSigned rest
  | text => some (none, text)

/-- Reads a number behind its sign. Digits before the point start with zero only if zero is all
there is. -/
def readUnsigned (negative : Bool) (text : List Char) : Option (Numeral × List Char) :=
  (readDigits text).bind fun (whole, text) =>
    if whole.head? == some '0' && whole.length != 1 then none
    else
      (readFraction text).bind fun (fraction, text) =>
        (readExponent text).map fun (exponent, text) => (⟨negative, whole, fraction, exponent⟩, text)

/-- Reads a number. -/
def readNumber : List Char → Option (Numeral × List Char)
  | '-' :: text => readUnsigned true text
  | text => readUnsigned false text

theorem length_of_readDigits {text digits rest : List Char}
    (h : readDigits text = some (digits, rest)) : rest.length < text.length := by
  unfold readDigits at h
  split at h
  · simp at h
  · rename_i ht
    simp only [Option.some.injEq, Prod.mk.injEq] at h
    have := congrArg List.length (List.takeWhile_append_dropWhile (p := Decimal.isDigit) (l := text))
    rw [List.length_append, h.1, h.2] at this
    have : digits.length ≠ 0 := by
      intro h0
      rw [List.length_eq_zero_iff] at h0
      exact ht (h.1.trans h0)
    omega

theorem length_of_readFraction {text digits rest : List Char}
    (h : readFraction text = some (digits, rest)) : rest.length ≤ text.length := by
  unfold readFraction at h
  split at h
  · have := length_of_readDigits h
    simp
    omega
  · simp only [Option.some.injEq, Prod.mk.injEq] at h
    simp [h.2]

theorem length_splitSign_le (text : List Char) :
    (Decimal.splitSign text).2.length ≤ text.length := by
  unfold Decimal.splitSign
  split <;> simp

theorem length_of_readSigned {text rest : List Char} {e : Option (Bool × List Char)}
    (h : readSigned text = some (e, rest)) : rest.length ≤ text.length := by
  obtain ⟨⟨digits, r⟩, hd, h⟩ := Option.map_eq_some_iff.1 h
  simp only [Prod.mk.injEq] at h
  have h₁ := length_of_readDigits hd
  have h₂ := length_splitSign_le text
  rw [← h.2]
  omega

theorem length_of_readExponent {text rest : List Char} {e : Option (Bool × List Char)}
    (h : readExponent text = some (e, rest)) : rest.length ≤ text.length := by
  unfold readExponent at h
  split at h
  · have := length_of_readSigned h
    simp
    omega
  · have := length_of_readSigned h
    simp
    omega
  · simp only [Option.some.injEq, Prod.mk.injEq] at h
    simp [h.2]

theorem length_of_readUnsigned {negative : Bool} {text rest : List Char} {n : Numeral}
    (h : readUnsigned negative text = some (n, rest)) : rest.length < text.length := by
  obtain ⟨⟨whole, t₁⟩, h₁, h⟩ := Option.bind_eq_some_iff.1 h
  simp only at h
  split at h
  · simp at h
  obtain ⟨⟨fraction, t₂⟩, h₂, h⟩ := Option.bind_eq_some_iff.1 h
  obtain ⟨⟨exponent, t₃⟩, h₃, h⟩ := Option.map_eq_some_iff.1 h
  simp only [Prod.mk.injEq] at h
  have l₁ := length_of_readDigits h₁
  have l₂ := length_of_readFraction h₂
  have l₃ : t₃.length ≤ t₂.length := length_of_readExponent h₃
  rw [← h.2]
  omega

theorem length_of_readNumber {text rest : List Char} {n : Numeral}
    (h : readNumber text = some (n, rest)) : rest.length < text.length := by
  unfold readNumber at h
  split at h
  · have := length_of_readUnsigned h
    simp
    omega
  · exact length_of_readUnsigned h

/-! ## Values -/

/-- A container that is still open. -/
inductive Frame where
  /-- The items before the one at hand, latest first. -/
  | array (items : List Json)
  /-- The members before the one at hand, latest first, and its key. -/
  | object (members : List (Option String × Json)) (key : Option String)

/-- The open containers around a value behind which the syntax breaks. -/
def breakOff (stack : List Frame) (value : Json) : Json :=
  stack.foldl (fun value frame =>
    match frame with
    | .array items => .array (value :: items).reverse false
    | .object members key => .object ((key, value) :: members).reverse false) value

/-- A value without parts: a text, a number or a word. -/
def readScalar (text : List Char) : Option (Json × List Char) :=
  match text with
  | '"' :: rest => (readText (some []) rest).map fun (s, rest) => (.str s, rest)
  | 'n' :: rest => (Text.after? ['u', 'l', 'l'] rest).map fun rest => (.null, rest)
  | 't' :: rest => (Text.after? ['r', 'u', 'e'] rest).map fun rest => (.bool true, rest)
  | 'f' :: rest => (Text.after? ['a', 'l', 's', 'e'] rest).map fun rest => (.bool false, rest)
  | _ => (readNumber text).map fun (n, rest) => (.number n, rest)

theorem length_of_readScalar {text rest : List Char} {value : Json}
    (h : readScalar text = some (value, rest)) : rest.length < text.length := by
  unfold readScalar at h
  split at h
  · obtain ⟨⟨s, r⟩, hs, h⟩ := Option.map_eq_some_iff.1 h
    simp only [Prod.mk.injEq] at h
    have := length_of_readText hs
    simp [← h.2]
    omega
  · obtain ⟨r, hr, h⟩ := Option.map_eq_some_iff.1 h
    simp only [Prod.mk.injEq] at h
    simp [Text.after?_eq_some_iff.1 hr, ← h.2]
    omega
  · obtain ⟨r, hr, h⟩ := Option.map_eq_some_iff.1 h
    simp only [Prod.mk.injEq] at h
    simp [Text.after?_eq_some_iff.1 hr, ← h.2]
    omega
  · obtain ⟨r, hr, h⟩ := Option.map_eq_some_iff.1 h
    simp only [Prod.mk.injEq] at h
    simp [Text.after?_eq_some_iff.1 hr, ← h.2]
    omega
  · obtain ⟨⟨n, r⟩, hn, h⟩ := Option.map_eq_some_iff.1 h
    simp only [Prod.mk.injEq] at h
    rw [← h.2]
    exact length_of_readNumber hn

mutual

/-- Reads a value within open containers. The answer is the outermost value and what follows it;
where the syntax breaks, nothing follows. -/
def readValue (stack : List Frame) (text : List Char) : Json × List Char :=
  match h : skipSpace text with
  | '[' :: rest =>
    have := length_of_skipSpace h
    match h' : skipSpace rest with
    | ']' :: rest' =>
      have := length_of_skipSpace h'
      resume stack (.array [] true) rest'
    | _ => readValue (.array [] :: stack) rest
  | '{' :: rest =>
    have := length_of_skipSpace h
    match h' : skipSpace rest with
    | '}' :: rest' =>
      have := length_of_skipSpace h'
      resume stack (.object [] true) rest'
    | _ => readMember stack [] rest
  | scalar =>
    match h' : readScalar scalar with
    | some (value, rest) =>
      have : rest.length < text.length :=
        Nat.lt_of_lt_of_le (length_of_readScalar h') (h ▸ length_skipSpace_le text)
      resume stack value rest
    | none => (breakOff stack .malformed, [])
termination_by text.length

/-- Goes on behind a value. -/
def resume (stack : List Frame) (value : Json) (text : List Char) : Json × List Char :=
  match stack with
  | [] => (value, text)
  | .array items :: stack =>
    match h : skipSpace text with
    | ',' :: rest =>
      have := length_of_skipSpace h
      readValue (.array (value :: items) :: stack) rest
    | ']' :: rest =>
      have := length_of_skipSpace h
      resume stack (.array (value :: items).reverse true) rest
    | _ => (breakOff (.array items :: stack) value, [])
  | .object members key :: stack =>
    match h : skipSpace text with
    | ',' :: rest =>
      have := length_of_skipSpace h
      readMember stack ((key, value) :: members) rest
    | '}' :: rest =>
      have := length_of_skipSpace h
      resume stack (.object ((key, value) :: members).reverse true) rest
    | _ => (breakOff (.object members key :: stack) value, [])
termination_by text.length

/-- Reads the key of a member and goes on with its value. -/
def readMember (stack : List Frame) (members : List (Option String × Json)) (text : List Char) :
    Json × List Char :=
  match h : skipSpace text with
  | '"' :: rest =>
    match h' : readText (some []) rest with
    | some (key, rest') =>
      match h'' : skipSpace rest' with
      | ':' :: rest'' =>
        have : rest''.length < text.length :=
          Nat.lt_trans (length_of_skipSpace h'')
            (Nat.lt_trans (length_of_readText h') (length_of_skipSpace h))
        readValue (.object members key :: stack) rest''
      | _ => (breakOff (.object members key :: stack) .malformed, [])
    | none => (breakOff stack (.object members.reverse false), [])
  | _ => (breakOff stack (.object members.reverse false), [])
termination_by text.length

end

/-- The document at the start of a text, and the text behind it. -/
def readFirst (text : List Char) : Json × List Char :=
  readValue [] text

/-- Whether nothing but blank space is left behind a document. -/
def isEnd (rest : List Char) : Bool :=
  (skipSpace rest).isEmpty

end Autograder.Json
