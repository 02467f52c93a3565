import Autograder.Proofs.Text.Lines

/-!
# Lines in any style of line endings

A text can end its lines in three ways: with a carriage return and a line feed, with a carriage
return alone, with a line feed. `splitLines` knows all three, in any mixture, and takes the longest
ending that fits. Lines without such characters can be joined by line feeds and are found again.

## Main definitions

* `Text.splitLines` — the lines of a text

## Main results

* `Text.splitLines_joinLines` — joined lines are split again
* `Text.lines_joinLines_concat` — and they are lines in the narrower sense
-/

namespace Autograder.Text

/-- The character ends a line. -/
def endsLine (c : Char) : Bool :=
  c == '\r' || c == '\n'

/-- The lines of a text. A line ends at a carriage return with a line feed behind it, at a carriage
return alone or at a line feed; there is one more line than there are endings. -/
def splitLines : List Char → List (List Char)
  | [] => [[]]
  | '\r' :: '\n' :: rest => [] :: splitLines rest
  | c :: rest => consSegment endsLine c (splitLines rest)

theorem consSegment_of_cut {cut : Char → Bool} {c : Char} (h : cut c = true)
    (parts : List (List Char)) : consSegment cut c parts = [] :: parts := by
  simp [consSegment, h]

theorem consSegment_of_kept {cut : Char → Bool} {c : Char} (h : cut c = false)
    (part : List Char) (parts : List (List Char)) :
    consSegment cut c (part :: parts) = (c :: part) :: parts := by
  simp [consSegment, h]

theorem exists_splitLines_eq_cons (text : List Char) :
    ∃ line lines, splitLines text = line :: lines := by
  fun_induction splitLines text with
  | case1 => exact ⟨_, _, rfl⟩
  | case2 rest _ => exact ⟨_, _, rfl⟩
  | case3 c rest _ ih =>
    obtain ⟨line, lines, heq⟩ := ih
    rw [heq]
    cases hc : endsLine c with
    | true => exact ⟨_, _, consSegment_of_cut hc _⟩
    | false => exact ⟨_, _, consSegment_of_kept hc _ _⟩

theorem splitLines_ne_nil (text : List Char) : splitLines text ≠ [] := by
  obtain ⟨line, lines, heq⟩ := exists_splitLines_eq_cons text
  rw [heq]
  exact List.cons_ne_nil _ _

/-- No line has a character that ends one. -/
theorem endsLine_of_mem_splitLines {text : List Char} :
    ∀ line ∈ splitLines text, ∀ c ∈ line, endsLine c = false := by
  fun_induction splitLines text with
  | case1 => simp
  | case2 rest ih => exact List.forall_mem_cons.mpr ⟨nofun, ih⟩
  | case3 d rest _ ih =>
    obtain ⟨line, lines, heq⟩ := exists_splitLines_eq_cons rest
    cases hd : endsLine d with
    | true =>
      rw [consSegment_of_cut hd]
      exact List.forall_mem_cons.mpr ⟨nofun, ih⟩
    | false =>
      rw [heq] at ih
      rw [heq, consSegment_of_kept hd]
      obtain ⟨hline, hlines⟩ := List.forall_mem_cons.mp ih
      exact List.forall_mem_cons.mpr ⟨List.forall_mem_cons.mpr ⟨hd, hline⟩, hlines⟩

/-! ### Joined lines -/

@[simp] theorem joinLines_nil : joinLines [] = [] := rfl

@[simp] theorem joinLines_singleton (line : List Char) : joinLines [line] = line :=
  List.intercalate_singleton ..

theorem joinLines_cons {lines : List (List Char)} (h : lines ≠ []) (line : List Char) :
    joinLines (line :: lines) = line ++ '\n' :: joinLines lines := by
  cases lines with
  | nil => exact absurd rfl h
  | cons next lines =>
    rw [joinLines, List.intercalate_cons_cons, List.append_assoc, List.singleton_append]
    rfl

theorem joinLines_concat {lines : List (List Char)} (h : lines ≠ []) (line : List Char) :
    joinLines (lines ++ [line]) = joinLines lines ++ '\n' :: line := by
  induction lines with
  | nil => exact absurd rfl h
  | cons first lines ih =>
    by_cases hlines : lines = []
    · rw [hlines, List.singleton_append, joinLines_cons (by simp), joinLines_singleton,
        joinLines_singleton]
    · rw [List.cons_append, joinLines_cons (by simp), ih hlines, joinLines_cons hlines,
        List.append_assoc, List.cons_append]

/-- A character in front of the first line. -/
theorem joinLines_consSegment {lines : List (List Char)} (h : lines ≠ []) (c : Char) :
    joinLines (consSegment endsLine c lines) =
      (if endsLine c then '\n' else c) :: joinLines lines := by
  obtain ⟨line, lines, rfl⟩ := List.exists_cons_of_ne_nil h
  cases hc : endsLine c with
  | true => rw [consSegment_of_cut hc, joinLines_cons h, List.nil_append, if_pos rfl]
  | false =>
    rw [consSegment_of_kept hc, if_neg Bool.false_ne_true]
    by_cases hlines : lines = []
    · rw [hlines, joinLines_singleton, joinLines_singleton]
    · rw [joinLines_cons hlines, joinLines_cons hlines, List.cons_append]

/-- A line that is joined with others is split off again. -/
theorem splitLines_append_feed {line : List Char} (h : ∀ c ∈ line, endsLine c = false)
    (rest : List Char) : splitLines (line ++ '\n' :: rest) = line :: splitLines rest := by
  induction line with
  | nil => rfl
  | cons c line ih =>
    obtain ⟨hc, hline⟩ := List.forall_mem_cons.mp h
    have hreturn : ∀ rest', c = '\r' → line ++ '\n' :: rest = '\n' :: rest' → False := by
      rintro _ rfl _
      exact absurd hc (by decide)
    rw [List.cons_append, splitLines, ih hline, consSegment_of_kept hc]
    exact hreturn

theorem splitLines_of_line {line : List Char} (h : ∀ c ∈ line, endsLine c = false) :
    splitLines line = [line] := by
  induction line with
  | nil => rfl
  | cons c line ih =>
    obtain ⟨hc, hline⟩ := List.forall_mem_cons.mp h
    have hreturn : ∀ rest', c = '\r' → line = '\n' :: rest' → False := by
      rintro _ rfl _
      exact absurd hc (by decide)
    rw [splitLines, ih hline, consSegment_of_kept hc]
    exact hreturn

/-- **Joined lines** are split into these lines again. -/
theorem splitLines_joinLines {lines : List (List Char)} (hne : lines ≠ [])
    (h : ∀ line ∈ lines, ∀ c ∈ line, endsLine c = false) :
    splitLines (joinLines lines) = lines := by
  induction lines with
  | nil => exact absurd rfl hne
  | cons line lines ih =>
    obtain ⟨hline, hlines⟩ := List.forall_mem_cons.mp h
    by_cases hnil : lines = []
    · rw [hnil, joinLines_singleton, splitLines_of_line hline]
    · rw [joinLines_cons hnil, splitLines_append_feed hline, ih hnil hlines]

theorem return_notMem_joinLines {lines : List (List Char)}
    (h : ∀ line ∈ lines, ∀ c ∈ line, endsLine c = false) : '\r' ∉ joinLines lines := by
  induction lines with
  | nil => exact List.not_mem_nil
  | cons line lines ih =>
    obtain ⟨hline, hlines⟩ := List.forall_mem_cons.mp h
    have hreturn : '\r' ∉ line := fun hmem => absurd (hline _ hmem) (by decide)
    by_cases hnil : lines = []
    · rwa [hnil, joinLines_singleton]
    · rw [joinLines_cons hnil, List.mem_append, List.mem_cons, not_or, not_or]
      exact ⟨hreturn, by decide, ih hlines⟩

theorem dropReturn_of_notMem {line : List Char} (h : '\r' ∉ line) : dropReturn line = line :=
  if_neg fun hlast => h (List.mem_of_getLast? hlast)

/-- The lines of joined lines are these again if the last is not empty. -/
theorem lines_joinLines_concat {start : List (List Char)} {last : List Char} (hlast : last ≠ [])
    (h : ∀ line ∈ start ++ [last], ∀ c ∈ line, endsLine c = false) :
    lines (joinLines (start ++ [last])) = start ++ [last] := by
  have hfeed : ∀ line ∈ start ++ [last], '\n' ∉ line := fun line hline hmem =>
    absurd (h line hline _ hmem) (by decide)
  have hreturn : ∀ line ∈ start, dropReturn line = line := fun line hline =>
    dropReturn_of_notMem fun hmem =>
      absurd (h line (List.mem_append_left _ hline) _ hmem) (by decide)
  rw [lines_joinLines hfeed, List.dropLast_concat, List.getLast?_concat, List.map_congr_left
    hreturn, List.map_id', Option.toList_some, List.filter_cons_of_pos (by simpa using hlast),
    List.filter_nil]

end Autograder.Text
