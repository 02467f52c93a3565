import Autograder.Guest.Token

/-!
# Classes of characters

How the classes that the readers ask for lie to each other. A character that continues a name is
neither blank nor a mark nor punctuation; a digit continues a name but does not start one. Blanks
and letters are tables of spans, so what has to be said of them is said of the tables.

## Main results

* `Guest.isBlank_of_continuesName` — no blank in a name
* `Guest.continuesName_of_isDigit`, `Guest.startsName_of_isDigit` — digits and names
* `Guest.exists_cons_of_isIdentifier` — an identifier, character by character
-/

namespace Autograder

namespace Text

/-- Tables whose spans do not meet have no character in common. -/
theorem Spans.has_eq_false_of_disjoint {s t : Spans}
    (h : ∀ a ∈ s, ∀ b ∈ t, a.2 < b.1 ∨ b.2 < a.1) {c : Char} (hc : s.has c = true) :
    t.has c = false := by
  obtain ⟨a, ha, ha1, ha2⟩ := Spans.has_iff.mp hc
  rw [← Bool.not_eq_true, Spans.has_iff]
  rintro ⟨b, hb, hb1, hb2⟩
  have := h a ha b hb
  omega

/-- The word characters of ASCII. -/
def asciiWordSpans : Spans :=
  [(0x30, 0x39), (0x41, 0x5A), (0x5F, 0x5F), (0x61, 0x7A)]

/-- The letters of ASCII as code points. -/
theorem isAlpha_iff_toNat {c : Char} :
    c.isAlpha = true ↔ 65 ≤ c.toNat ∧ c.toNat ≤ 90 ∨ 97 ≤ c.toNat ∧ c.toNat ≤ 122 := by
  have hspans : c.isAlpha = (decide (65 ≤ c.val ∧ c.val ≤ 90) ||
      decide (97 ≤ c.val) && decide (c.val ≤ 122)) := rfl
  simp only [hspans, Bool.or_eq_true, Bool.and_eq_true, decide_eq_true_eq, UInt32.le_iff_toNat_le]
  rfl

theorem asciiWordSpans_has_of_isAlpha {c : Char} (h : c.isAlpha = true) :
    asciiWordSpans.has c = true := by
  rcases isAlpha_iff_toNat.mp h with ⟨h1, h2⟩ | ⟨h1, h2⟩
  · exact Spans.has_iff.mpr ⟨(0x41, 0x5A), by simp [asciiWordSpans], h1, h2⟩
  · exact Spans.has_iff.mpr ⟨(0x61, 0x7A), by simp [asciiWordSpans], h1, h2⟩

theorem asciiWordSpans_has_of_isDigit {c : Char} (h : c.isDigit = true) :
    asciiWordSpans.has c = true := by
  obtain ⟨h1, h2⟩ := Char.isDigit_iff_toNat.mp h
  exact Spans.has_iff.mpr ⟨(0x30, 0x39), by simp [asciiWordSpans], h1, h2⟩

theorem isBlank_of_asciiWordSpans {c : Char} (h : asciiWordSpans.has c = true) :
    isBlank c = false :=
  Spans.has_eq_false_of_disjoint (by decide) h

theorem isBlank_of_isLetter {c : Char} (h : isLetter c = true) : isBlank c = false := by
  rw [isLetter] at h
  split at h
  · exact isBlank_of_asciiWordSpans (asciiWordSpans_has_of_isAlpha h)
  · exact Spans.has_eq_false_of_disjoint (by decide +kernel) h

theorem isBlank_of_isNumeral {c : Char} (h : isNumeral c = true) : isBlank c = false := by
  rw [isNumeral] at h
  split at h
  · exact isBlank_of_asciiWordSpans (asciiWordSpans_has_of_isDigit h)
  · exact Spans.has_eq_false_of_disjoint (by decide +kernel) h

end Text

namespace Guest

/-- A character of a class differs from every character outside. -/
theorem ne_of_class {p : Char → Bool} {c d : Char} (hc : p c = true) (hd : p d = false) :
    c ≠ d := by
  rintro rfl
  exact absurd hc (by simp [hd])

theorem isBlank_of_continuesName {c : Char} (h : continuesName c = true) :
    Text.isBlank c = false := by
  simp only [continuesName, Bool.or_eq_true, beq_iff_eq] at h
  rcases h with (h | h) | rfl
  · exact Text.isBlank_of_isLetter h
  · exact Text.isBlank_of_isNumeral h
  · rfl

theorem continuesName_of_startsName {c : Char} (h : startsName c = true) :
    continuesName c = true := by
  simp only [startsName, continuesName, Bool.or_eq_true] at h ⊢
  rcases h with h | h
  · exact Or.inl (Or.inl h)
  · exact Or.inr h

/-- The digits of ASCII as code points. -/
theorem isDigit_iff_toNat {c : Char} :
    Decimal.isDigit c = true ↔ 48 ≤ c.toNat ∧ c.toNat ≤ 57 := by
  simp only [Decimal.isDigit, Bool.and_eq_true, decide_eq_true_eq, Char.le_def,
    UInt32.le_iff_toNat_le]
  rfl

theorem continuesName_of_isDigit {c : Char} (h : Decimal.isDigit c = true) :
    continuesName c = true := by
  have hn := isDigit_iff_toNat.mp h
  have hascii : c.val < 0x80 := UInt32.lt_iff_toNat_lt.mpr (Nat.lt_of_le_of_lt hn.2 (by decide))
  have hdigit : c.isDigit = true := Char.isDigit_iff_toNat.mpr hn
  simp [continuesName, Text.isNumeral, hascii, hdigit]

/-- No number starts like a name. -/
theorem startsName_of_isDigit {c : Char} (h : Decimal.isDigit c = true) :
    startsName c = false := by
  have hn := isDigit_iff_toNat.mp h
  have hascii : c.val < 0x80 := UInt32.lt_iff_toNat_lt.mpr (Nat.lt_of_le_of_lt hn.2 (by decide))
  have halpha : c.isAlpha = false := by
    rw [← Bool.not_eq_true, Text.isAlpha_iff_toNat]
    omega
  have hline : c ≠ '_' := ne_of_class h (by decide)
  simp [startsName, Text.isLetter, hascii, halpha, hline]

theorem isDigit_of_startsName {c : Char} (h : startsName c = true) :
    Decimal.isDigit c = false := by
  rw [← Bool.not_eq_true]
  exact fun hdigit => absurd h (by simp [startsName_of_isDigit hdigit])

theorem isDigit_of_not_continuesName {c : Char} (h : continuesName c = false) :
    Decimal.isDigit c = false := by
  rw [← Bool.not_eq_true]
  exact fun hdigit => absurd (continuesName_of_isDigit hdigit) (by simp [h])

/-- An identifier is a word. -/
theorem exists_cons_of_isIdentifier {text : List Char} (h : isIdentifier text = true) :
    ∃ c w, text = c :: w ∧ startsName c = true ∧ ∀ d ∈ c :: w, continuesName d = true := by
  cases text with
  | nil => simp [isIdentifier] at h
  | cons c w =>
    simp only [isIdentifier, Bool.and_eq_true, List.all_eq_true] at h
    refine ⟨c, w, rfl, h.1.1, fun d hd => ?_⟩
    rcases List.mem_cons.mp hd with rfl | hd
    · exact continuesName_of_startsName h.1.1
    · exact h.1.2 d hd

/-- A truth value is a word. -/
theorem boolLiteral?_of_mem {text : List Char} {c : Char} (hc : c ∈ text)
    (hname : continuesName c = false) : boolLiteral? text = none := by
  have hword {w : List Char} (hw : w.all continuesName = true) (heq : text = w) : False := by
    rw [heq] at hc
    exact absurd (List.all_eq_true.mp hw c hc) (by simp [hname])
  unfold boolLiteral?
  split
  · exact (hword (by decide) rfl).elim
  · exact (hword (by decide) rfl).elim
  · rfl

/-- The truth values are no identifiers. -/
theorem boolLiteral?_of_isIdentifier {text : List Char} (h : isIdentifier text = true) :
    boolLiteral? text = none := by
  unfold boolLiteral?
  split
  · exact absurd h (by decide)
  · exact absurd h (by decide)
  · rfl

end Guest

end Autograder
