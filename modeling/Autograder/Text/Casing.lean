import Autograder.Text.CaseTables

/-!
# Upper and lower case

The full default case mappings of Unicode: one character may become several (`ß` becomes `SS`),
and a capital sigma at the end of a word becomes `ς`.

A sigma ends a word when, case-ignorable characters skipped, a cased character stands before it
and none stands after it. Both sides are read in one pass each: `casedFlags` carries the answer
for every position of a text, and the side after a position is the side before it in the reversed
text.
-/

namespace Autograder.Text

private def mapped (sequences : List (Nat × List Nat)) (runs : List CaseRun) (c : Char) :
    List Char :=
  match sequences.lookup c.toNat with
  | some points => points.map Char.ofNat
  | none => [((runs.findSome? (·.image? c.toNat)).map Char.ofNat).getD c]

/-- The lower-case form of one character, without regard to its neighbours. -/
def lowerChar (c : Char) : List Char :=
  if c.val < 0x80 then [c.toLower] else mapped lowerSequences lowerRuns c

/-- No character is lost. -/
theorem lowerChar_ne_nil (c : Char) : lowerChar c ≠ [] := by
  have hsequences : ∀ entry ∈ lowerSequences, entry.2 ≠ [] := by decide
  rw [lowerChar]
  split
  · exact List.cons_ne_nil _ _
  rw [mapped]
  split
  · rename_i points hpoints
    obtain ⟨before, behind, hentry, -⟩ := List.lookup_eq_some_iff.mp hpoints
    have hne := hsequences (c.toNat, points) (by simp [hentry])
    simpa using hne
  · exact List.cons_ne_nil _ _

/-- Where the characters of a small form come from: ASCII, a sequence, a run, or the character has
no other form. -/
theorem mem_lowerChar {c d : Char} (h : d ∈ lowerChar c) :
    c.val < 0x80 ∧ d = c.toLower ∨
      (∃ entry ∈ lowerSequences, entry.1 = c.toNat ∧ ∃ point ∈ entry.2, d = Char.ofNat point) ∨
      (∃ run ∈ lowerRuns, ∃ point, run.image? c.toNat = some point ∧ d = Char.ofNat point) ∨
      lowerChar c = [d] ∧ d = c := by
  rw [lowerChar] at h ⊢
  split at h
  · exact .inl ⟨‹_›, List.mem_singleton.mp h⟩
  rename_i hascii
  rw [if_neg hascii]
  rw [mapped] at h ⊢
  split at h
  · rename_i points hpoints
    obtain ⟨before, behind, hentry, -⟩ := List.lookup_eq_some_iff.mp hpoints
    obtain ⟨point, hpoint, hd⟩ := List.mem_map.mp h
    exact .inr (.inl ⟨(c.toNat, points), by simp [hentry], rfl, point, hpoint, hd.symm⟩)
  · rw [List.mem_singleton] at h
    cases hrun : lowerRuns.findSome? (·.image? c.toNat) with
    | none =>
      rw [hrun] at h
      rw [h]
      exact .inr (.inr (.inr ⟨rfl, rfl⟩))
    | some point =>
      rw [hrun] at h
      obtain ⟨run, hmem, himage⟩ := List.exists_of_findSome?_eq_some hrun
      exact .inr (.inr (.inl ⟨run, hmem, point, himage, h⟩))

/-- A character that no table covers is its own small form. -/
theorem lowerChar_eq_self {c : Char} (hascii : ¬c.val < 0x80)
    (hsequences : ∀ entry ∈ lowerSequences, entry.1 ≠ c.toNat)
    (hruns : ∀ run ∈ lowerRuns, run.image? c.toNat = none) : lowerChar c = [c] := by
  have hlookup : lowerSequences.lookup c.toNat = none := by
    rw [List.lookup_eq_none_iff]
    intro entry hentry
    simpa using (hsequences entry hentry).symm
  rw [lowerChar, if_neg hascii, mapped, hlookup, List.findSome?_eq_none_iff.mpr hruns]
  rfl

/-- The upper-case form of one character. -/
def upperChar (c : Char) : List Char :=
  if c.val < 0x80 then [c.toUpper] else mapped upperSequences upperRuns c

/-- Has the property `Cased`. -/
def isCased (c : Char) : Bool :=
  if c.val < 0x80 then c.isAlpha else casedSpans.has c

/-- Has the property `Case_Ignorable`. -/
def isCaseIgnorable (c : Char) : Bool :=
  caseIgnorableSpans.has c

/-- Whether the last character that is not case-ignorable is cased, after one more character. -/
def casedAfter (cased : Bool) (c : Char) : Bool :=
  if isCaseIgnorable c then cased else isCased c

/-- The text in capitals. -/
def upper (text : List Char) : List Char :=
  text.flatMap upperChar

/-- Each character with the answer whether, case-ignorable characters skipped, a cased character
stands before it. -/
def casedFlags (text : List Char) : List (Char × Bool) :=
  (text.foldl (fun (acc : List (Char × Bool) × Bool) c =>
    ((c, acc.2) :: acc.1, casedAfter acc.2 c)) ([], false)).1.reverse

/-- The lower-case form of a character between two sides: a capital sigma that ends a word has a
form of its own. -/
def lowerBetween (c : Char) (casedBefore casedBehind : Bool) : List Char :=
  if c == 'Σ' then (if casedBefore && !casedBehind then ['ς'] else ['σ']) else lowerChar c

/-- The text in small letters. -/
def lower (text : List Char) : List Char :=
  ((casedFlags text).zip (casedFlags text.reverse).reverse).flatMap fun (before, behind) =>
    lowerBetween before.1 before.2 behind.2

end Autograder.Text
