import Autograder.Grading.Output
import Autograder.Proofs.Text.AnyEnding
import Autograder.Proofs.Text.Trim
import Mathlib.Data.List.DropRight
import Mathlib.Data.List.Forall2

/-!
# The normal form of an output, line by line

Outputs are compared in a normal form that is made from whole texts: line endings are unified, the
text is trimmed, cut into lines and put together again. What it means is easier to say of lines.
Split the output at every line ending, leave out the blank lines at both ends, trim the start of
the first line that is left and the end of each; two outputs are the same if these lines are.

Trimming a text that is put together from lines eats whole lines at its ends and then a part of
one, so both sides are followed through the lines by induction, `trimStart_joinLines` from the
first line on and `map_lines_trimEnd_joinLines` from the last line back. All else is read off
`Settled`, which says what the compared lines look like: settled lines are found again in the text
that joins them.

## Main definitions

* `settle`, `comparedLines` — the lines that count in a comparison
* `Settled` — what such lines look like
* `Padded` — a text with blanks behind its lines and blank lines at its ends

## Main results

* `normalForm_eq_joinLines` — the normal form is the compared lines, joined
* `comparedLines_joinLines` — settled lines are found again
* `Padded.comparedLines_eq` — padding does not count
* `normalizeOutput_lineByLine` — normal form and comparison
-/

namespace Autograder

open Text

/-! ### Trimming joined lines -/

/-- **Unifying the line endings** of a text is splitting it into lines and joining them. -/
theorem unifyEndings_eq_append (out text : List Char) :
    unifyEndings out text = out.reverse ++ joinLines (splitLines text) := by
  fun_induction unifyEndings out text with
  | case1 out => simp [splitLines]
  | case2 out rest ih =>
    rw [ih, splitLines, joinLines_cons (splitLines_ne_nil rest), List.reverse_cons,
      List.append_assoc, List.singleton_append, List.nil_append]
  | case3 out c rest h ih =>
    have hsplit : splitLines (c :: rest) = Text.consSegment endsLine c (splitLines rest) := by
      rw [splitLines]
      exact h
    have hunified : (if c = '\r' then '\n' else c) = if endsLine c then '\n' else c := by
      by_cases hreturn : c = '\r'
      · simp [hreturn, endsLine]
      · by_cases hfeed : c = '\n' <;> simp [hreturn, hfeed, endsLine]
    rw [ih, hsplit, joinLines_consSegment (splitLines_ne_nil rest), hunified, List.reverse_cons,
      List.append_assoc, List.singleton_append]

/-- The start of joined lines is that of the first line that is not blank. -/
theorem trimStart_joinLines (lines : List (List Char)) :
    Text.trimStart (joinLines lines) =
      joinLines ((lines.dropWhile Text.allBlank).modifyHead Text.trimStart) := by
  induction lines with
  | nil => rfl
  | cons line lines ih =>
    cases hblank : Text.allBlank line with
    | true =>
      have hline := Text.allBlank_iff.mp hblank
      rw [List.dropWhile_cons_of_pos hblank, ← ih]
      by_cases hlines : lines = []
      · rw [hlines, joinLines_singleton, ← List.append_nil line,
          Text.trimStart_append_of_blank hline, joinLines_nil]
      · rw [joinLines_cons hlines, Text.trimStart_append_of_blank hline, Text.trimStart,
          List.dropWhile_cons_of_pos Text.isBlank_feed, Text.trimStart]
    | false =>
      rw [List.dropWhile_cons_of_neg (by simp [hblank]), List.modifyHead_cons]
      by_cases hlines : lines = []
      · rw [hlines, joinLines_singleton, joinLines_singleton]
      · rw [joinLines_cons hlines, joinLines_cons hlines, Text.trimStart_append hblank]

/-- **The end of joined lines.** When it is trimmed, the blank lines at the end go. -/
theorem map_lines_trimEnd_joinLines {lines : List (List Char)}
    (h : ∀ line ∈ lines, ∀ c ∈ line, endsLine c = false) :
    (Text.lines (Text.trimEnd (joinLines lines))).map Text.trimEnd =
      (lines.rdropWhile Text.allBlank).map Text.trimEnd := by
  induction lines using List.reverseRecOn with
  | nil => rfl
  | append_singleton lines line ih =>
    cases hblank : Text.allBlank line with
    | true =>
      rw [List.rdropWhile_concat_pos _ _ _ hblank, ← ih fun l hl => h l (List.mem_append_left _ hl)]
      by_cases hlines : lines = []
      · rw [hlines, List.nil_append, joinLines_singleton, Text.trimEnd_of_blank hblank]
        rfl
      · have htrail : ∀ c ∈ '\n' :: line, Text.isBlank c = true :=
          List.forall_mem_cons.mpr ⟨Text.isBlank_feed, Text.allBlank_iff.mp hblank⟩
        rw [joinLines_concat hlines, Text.trimEnd_append_of_blank htrail]
    | false =>
      have hlast := Text.trimEnd_ne_nil hblank
      have htrimmed : Text.trimEnd (joinLines (lines ++ [line])) =
          joinLines (lines ++ [Text.trimEnd line]) := by
        by_cases hlines : lines = []
        · rw [hlines, List.nil_append, List.nil_append, joinLines_singleton, joinLines_singleton]
        · have hfeed : Text.allBlank ('\n' :: line) = false := by
            simpa [Text.allBlank, Text.isBlank_feed] using hblank
          rw [joinLines_concat hlines, joinLines_concat hlines, List.append_cons,
            Text.trimEnd_append hblank, ← List.append_cons]
      have hends : ∀ l ∈ lines ++ [Text.trimEnd line], ∀ c ∈ l, endsLine c = false := by
        intro l hl c hc
        rcases List.mem_append.mp hl with hmem | hmem
        · exact h l (List.mem_append_left _ hmem) c hc
        · obtain rfl := List.mem_singleton.mp hmem
          exact h line (by simp) c ((Text.trimEnd_prefix line).subset hc)
      rw [List.rdropWhile_concat_neg _ _ _ (by simp [hblank]), htrimmed,
        lines_joinLines_concat hlast hends, List.map_append, List.map_append, List.map_singleton,
        List.map_singleton, Text.trimEnd_trimEnd]

/-! ### The lines that count -/

/-- The lines that count in a comparison: no blank lines at the ends, nothing blank in front of the
first line, and nothing blank behind any. -/
def settle (lines : List (List Char)) : List (List Char) :=
  (((lines.dropWhile Text.allBlank).rdropWhile Text.allBlank).modifyHead Text.trimStart).map
    Text.trimEnd

/-- The lines of an output that count in a comparison. -/
def comparedLines (output : List Char) : List (List Char) :=
  settle (splitLines output)

/-- Changing the first element does not change which are dropped at the end, if it does not decide
differently itself. -/
theorem rdropWhile_modifyHead {α : Type} {p : α → Bool} {f : α → α}
    (h : ∀ x, p (f x) = p x) (xs : List α) :
    (xs.modifyHead f).rdropWhile p = (xs.rdropWhile p).modifyHead f := by
  induction xs using List.reverseRecOn with
  | nil => rfl
  | append_singleton xs x ih =>
    cases xs with
    | nil =>
      rw [List.nil_append, List.modifyHead_cons, List.rdropWhile_singleton,
        List.rdropWhile_singleton, h]
      split <;> rfl
    | cons y ys =>
      rw [List.modifyHead_cons] at ih
      rw [List.cons_append, List.modifyHead_cons, ← List.cons_append, ← List.cons_append,
        List.rdropWhile_concat, List.rdropWhile_concat, ih]
      split <;> rfl

/-- Lines get no new characters when the first is trimmed. -/
theorem exists_sublist_of_mem_modifyHead {lines : List (List Char)} {line : List Char}
    (h : line ∈ lines.modifyHead Text.trimStart) : ∃ l ∈ lines, List.Sublist line l := by
  cases lines with
  | nil => cases h
  | cons first lines =>
    rw [List.modifyHead_cons] at h
    rcases List.mem_cons.mp h with rfl | hmem
    · exact ⟨first, List.mem_cons_self, List.dropWhile_sublist _⟩
    · exact ⟨line, List.mem_cons_of_mem _ hmem, List.Sublist.refl _⟩

theorem endsLine_of_mem_modifyHead {lines : List (List Char)}
    (h : ∀ line ∈ lines, ∀ c ∈ line, endsLine c = false) :
    ∀ line ∈ lines.modifyHead Text.trimStart, ∀ c ∈ line, endsLine c = false := by
  intro line hline c hc
  obtain ⟨l, hl, hsub⟩ := exists_sublist_of_mem_modifyHead hline
  exact h l hl c (hsub.subset hc)

/-- **The normal form, line by line.** It is the lines that count, joined. -/
theorem normalForm_eq_joinLines (output : List Char) :
    normalForm output = joinLines (comparedLines output) := by
  have hends : ∀ line ∈ ((splitLines output).dropWhile Text.allBlank).modifyHead Text.trimStart,
      ∀ c ∈ line, endsLine c = false :=
    endsLine_of_mem_modifyHead fun line hline =>
      endsLine_of_mem_splitLines line ((List.dropWhile_sublist _).subset hline)
  rw [normalForm, unifyEndings_eq_append, List.reverse_nil, List.nil_append, Text.trim,
    trimStart_joinLines, map_lines_trimEnd_joinLines hends,
    rdropWhile_modifyHead Text.allBlank_trimStart, comparedLines, settle]

/-! ### Settled lines -/

/-- What lines look like that count in a comparison. -/
structure Settled (lines : List (List Char)) : Prop where
  endsLine : ∀ line ∈ lines, ∀ c ∈ line, endsLine c = false
  /-- No line ends in a blank. -/
  trimmed : ∀ line ∈ lines, ∀ c ∈ line.getLast?, Text.isBlank c = false
  first : ∀ line ∈ lines.head?, line ≠ [] ∧ ∀ c ∈ line.head?, Text.isBlank c = false
  last : ∀ line ∈ lines.getLast?, line ≠ []

/-- What is left after blank lines at the start are dropped does not start with one. -/
theorem allBlank_of_mem_head?_dropWhile {lines : List (List Char)} {line : List Char}
    (h : line ∈ (lines.dropWhile Text.allBlank).head?) : Text.allBlank line = false := by
  have hfirst := List.head?_dropWhile_not Text.allBlank lines
  rw [Option.mem_def.mp h] at hfirst
  simpa using hfirst

theorem allBlank_of_mem_getLast?_rdropWhile {lines : List (List Char)} {line : List Char}
    (h : line ∈ (lines.rdropWhile Text.allBlank).getLast?) : Text.allBlank line = false := by
  obtain ⟨hne, rfl⟩ := List.mem_getLast?_eq_getLast h
  simpa using List.rdropWhile_last_not Text.allBlank lines hne

theorem settled_settle {lines : List (List Char)}
    (h : ∀ line ∈ lines, ∀ c ∈ line, endsLine c = false) : Settled (settle lines) := by
  have hdropped : ∀ line ∈ lines.dropWhile Text.allBlank, ∀ c ∈ line, endsLine c = false :=
    fun line hline => h line ((List.dropWhile_sublist _).subset hline)
  have hsettle : settle lines = (((lines.dropWhile Text.allBlank).modifyHead
      Text.trimStart).rdropWhile Text.allBlank).map Text.trimEnd := by
    rw [settle, rdropWhile_modifyHead Text.allBlank_trimStart]
  rw [hsettle]
  refine ⟨?_, ?_, ?_, ?_⟩
  · intro line hline c hc
    obtain ⟨l, hl, rfl⟩ := List.mem_map.mp hline
    exact endsLine_of_mem_modifyHead hdropped l ((List.rdropWhile_prefix _ _).subset hl) c
      ((Text.trimEnd_prefix l).subset hc)
  · intro line hline
    obtain ⟨l, -, rfl⟩ := List.mem_map.mp hline
    exact Text.last_trimEnd
  · intro line hline
    rw [List.head?_map, Option.mem_def, Option.map_eq_some_iff] at hline
    obtain ⟨l, hl, rfl⟩ := hline
    obtain ⟨dropped, hdrop⟩ := List.rdropWhile_prefix Text.allBlank
      ((lines.dropWhile Text.allBlank).modifyHead Text.trimStart)
    have hhead : l ∈ ((lines.dropWhile Text.allBlank).modifyHead Text.trimStart).head? := by
      rw [← hdrop, List.head?_append, hl]
      rfl
    rw [List.head?_modifyHead, Option.mem_def, Option.map_eq_some_iff] at hhead
    obtain ⟨first, hfirst, rfl⟩ := hhead
    have hblank : Text.allBlank (Text.trimStart first) = false := by
      rw [Text.allBlank_trimStart]
      exact allBlank_of_mem_head?_dropWhile hfirst
    exact ⟨Text.trimEnd_ne_nil hblank, Text.head_trimEnd Text.head_trimStart⟩
  · intro line hline
    rw [List.getLast?_map, Option.mem_def, Option.map_eq_some_iff] at hline
    obtain ⟨l, hl, rfl⟩ := hline
    exact Text.trimEnd_ne_nil (allBlank_of_mem_getLast?_rdropWhile hl)

theorem settled_comparedLines (output : List Char) : Settled (comparedLines output) :=
  settled_settle endsLine_of_mem_splitLines

namespace Settled

variable {lines : List (List Char)}

theorem allBlank_eq_false_of_ne_nil (h : Settled lines) {line : List Char} (hmem : line ∈ lines)
    (hne : line ≠ []) : Text.allBlank line = false := by
  rw [Bool.eq_false_iff, ne_eq, Text.allBlank_iff]
  intro hblank
  have hlast := h.trimmed line hmem _ (List.getLast?_eq_getLast_of_ne_nil hne)
  rw [hblank _ (List.getLast_mem hne)] at hlast
  cases hlast

/-- Settling settled lines changes nothing. -/
theorem settle_eq (h : Settled lines) : settle lines = lines := by
  cases lines with
  | nil => rfl
  | cons first lines =>
    obtain ⟨hfirst, hhead⟩ := h.first first rfl
    have hstart : Text.allBlank first = false :=
      h.allBlank_eq_false_of_ne_nil List.mem_cons_self hfirst
    have hend : (first :: lines).rdropWhile Text.allBlank = first :: lines := by
      rw [List.rdropWhile_eq_self_iff]
      intro hne
      rw [Bool.not_eq_true]
      exact h.allBlank_eq_false_of_ne_nil (List.getLast_mem hne)
        (h.last _ (List.getLast?_eq_getLast_of_ne_nil hne))
    have htrimmed : ∀ line ∈ first :: lines, Text.trimEnd line = line := fun line hline =>
      Text.trimEnd_of_last (h.trimmed line hline)
    rw [settle, List.dropWhile_cons_of_neg (by simp [hstart]), hend, List.modifyHead_cons,
      Text.trimStart_of_head hhead, List.map_congr_left htrimmed, List.map_id']

/-- **Settled lines are found again** in the text that joins them. -/
theorem comparedLines_joinLines (h : Settled lines) : comparedLines (joinLines lines) = lines := by
  by_cases hne : lines = []
  · rw [hne]
    rfl
  · rw [comparedLines, splitLines_joinLines hne h.endsLine, h.settle_eq]

/-- A text of settled lines is trimmed. -/
theorem trimmed_joinLines (h : Settled lines) : Text.Trimmed (joinLines lines) := by
  refine ⟨?_, ?_⟩
  · cases lines with
    | nil => nofun
    | cons first lines =>
      obtain ⟨hfirst, hhead⟩ := h.first first rfl
      by_cases hnil : lines = []
      · rwa [hnil, joinLines_singleton]
      · rw [joinLines_cons hnil]
        exact Text.head_append hfirst hhead _
  · rcases List.eq_nil_or_concat lines with rfl | ⟨start, last, rfl⟩
    · nofun
    · rw [List.concat_eq_append] at h ⊢
      have hmem : last ∈ start ++ [last] := List.mem_append_right _ (List.mem_singleton.mpr rfl)
      have hlast : last ≠ [] := h.last last List.getLast?_concat
      by_cases hnil : start = []
      · rw [hnil, List.nil_append, joinLines_singleton]
        exact h.trimmed last hmem
      · rw [joinLines_concat hnil, List.append_cons, List.getLast?_append_of_ne_nil _ hlast]
        exact h.trimmed last hmem

end Settled

/-- A text in normal form: one style of line endings, and no blanks where they do not count. -/
structure Clean (text : List Char) : Prop where
  noReturn : '\r' ∉ text
  /-- No line ends in a blank. -/
  lines : ∀ line ∈ splitLines text, ∀ c ∈ line.getLast?, Text.isBlank c = false
  trimmed : Text.Trimmed text

/-- The normal form is clean. -/
theorem Settled.clean_joinLines {lines : List (List Char)} (h : Settled lines) :
    Clean (joinLines lines) := by
  refine ⟨return_notMem_joinLines h.endsLine, ?_, h.trimmed_joinLines⟩
  by_cases hnil : lines = []
  · rw [hnil]
    exact List.forall_mem_cons.mpr ⟨nofun, nofun⟩
  · rw [splitLines_joinLines hnil h.endsLine]
    exact h.trimmed

/-! ### Padding -/

/-- The line with blanks behind it. -/
def TrailedBy (line line' : List Char) : Prop :=
  ∃ trail, Text.allBlank trail = true ∧ line' = line ++ trail

/-- The second text is the first with blanks behind any of its lines and with blank lines at either
end, and perhaps with other line endings. -/
def Padded (text text' : List Char) : Prop :=
  ∃ above lines below, splitLines text' = above ++ lines ++ below ∧
    (∀ line ∈ above ++ below, Text.allBlank line = true) ∧
    List.Forall₂ TrailedBy (splitLines text) lines

/-- Lists that agree about which elements to drop stay related when these are dropped. -/
theorem forall₂_dropWhile {α : Type} {R : α → α → Prop} {p : α → Bool}
    (hp : ∀ x y, R x y → p x = p y) {xs ys : List α} (h : List.Forall₂ R xs ys) :
    List.Forall₂ R (xs.dropWhile p) (ys.dropWhile p) := by
  induction h with
  | nil => exact .nil
  | @cons x y xs ys hxy hrest ih =>
    cases hx : p x with
    | true =>
      rw [List.dropWhile_cons_of_pos hx, List.dropWhile_cons_of_pos (hp x y hxy ▸ hx)]
      exact ih
    | false =>
      rw [List.dropWhile_cons_of_neg (by simp [hx]),
        List.dropWhile_cons_of_neg (by simp [← hp x y hxy, hx])]
      exact .cons hxy hrest

namespace TrailedBy

variable {line line' : List Char}

theorem allBlank_eq (h : TrailedBy line line') : Text.allBlank line = Text.allBlank line' := by
  obtain ⟨trail, htrail, rfl⟩ := h
  rw [Text.allBlank] at htrail
  rw [Text.allBlank, Text.allBlank, List.all_append, htrail, Bool.and_true]

theorem trimEnd_eq (h : TrailedBy line line') : Text.trimEnd line' = Text.trimEnd line := by
  obtain ⟨trail, htrail, rfl⟩ := h
  exact Text.trimEnd_append_of_blank (Text.allBlank_iff.mp htrail) line

theorem trim_eq (h : TrailedBy line line') :
    Text.trimEnd (Text.trimStart line') = Text.trimEnd (Text.trimStart line) := by
  obtain ⟨trail, htrail, rfl⟩ := h
  exact Text.trim_append_of_blank (Text.allBlank_iff.mp htrail) line

end TrailedBy

theorem map_trimEnd_eq_of_forall₂ {lines lines' : List (List Char)}
    (h : List.Forall₂ TrailedBy lines lines') :
    lines'.map Text.trimEnd = lines.map Text.trimEnd := by
  induction h with
  | nil => rfl
  | cons hline _ ih => rw [List.map_cons, List.map_cons, hline.trimEnd_eq, ih]

/-- The first line is trimmed at both ends. -/
theorem map_trimEnd_modifyHead_eq_of_forall₂ {lines lines' : List (List Char)}
    (h : List.Forall₂ TrailedBy lines lines') :
    (lines'.modifyHead Text.trimStart).map Text.trimEnd =
      (lines.modifyHead Text.trimStart).map Text.trimEnd := by
  cases h with
  | nil => rfl
  | cons hfirst hrest =>
    rw [List.modifyHead_cons, List.modifyHead_cons, List.map_cons, List.map_cons, hfirst.trim_eq,
      map_trimEnd_eq_of_forall₂ hrest]

/-- Blanks behind the lines do not count. -/
theorem settle_eq_of_forall₂ {lines lines' : List (List Char)}
    (h : List.Forall₂ TrailedBy lines lines') : settle lines' = settle lines := by
  have hagree : ∀ line line', TrailedBy line line' → Text.allBlank line = Text.allBlank line' :=
    fun _ _ => TrailedBy.allBlank_eq
  have hstart := List.forall₂_reverse_iff.mpr (forall₂_dropWhile hagree h)
  have hkept := List.forall₂_reverse_iff.mpr (forall₂_dropWhile hagree hstart)
  exact map_trimEnd_modifyHead_eq_of_forall₂ hkept

/-- Blank lines at the ends do not count. -/
theorem settle_surround {above below : List (List Char)}
    (h : ∀ line ∈ above ++ below, Text.allBlank line = true) (lines : List (List Char)) :
    settle (above ++ lines ++ below) = settle lines := by
  obtain ⟨habove, hbelow⟩ := List.forall_mem_append.mp h
  rw [settle, settle, List.append_assoc, List.dropWhile_append_of_pos habove, List.dropWhile_append]
  split
  · rename_i hempty
    rw [List.isEmpty_iff.mp hempty, List.dropWhile_eq_nil_iff.mpr hbelow]
  · have hreverse : ∀ line ∈ below.reverse, Text.allBlank line = true := fun line hline =>
      hbelow line (List.mem_reverse.mp hline)
    rw [List.rdropWhile, List.reverse_append, List.dropWhile_append_of_pos hreverse,
      ← List.rdropWhile]

/-- **Padding does not count.** -/
theorem Padded.comparedLines_eq {text text' : List Char} (h : Padded text text') :
    comparedLines text' = comparedLines text := by
  obtain ⟨above, lines, below, hsplit, hblank, htrailed⟩ := h
  rw [comparedLines, hsplit, settle_surround hblank, settle_eq_of_forall₂ htrailed, comparedLines]

theorem normalizeOutput_eq (output : String) :
    (normalizeOutput output).toList = joinLines (comparedLines output.toList) := by
  rw [normalizeOutput, String.toList_ofList, normalForm_eq_joinLines]

/-- Outputs are the same if the lines that count are. -/
theorem sameOutput_iff {expected actual : String} :
    sameOutput expected actual = true ↔
      comparedLines expected.toList = comparedLines actual.toList := by
  rw [sameOutput, beq_iff_eq, ← String.toList_inj, normalizeOutput_eq, normalizeOutput_eq]
  refine ⟨fun h => ?_, fun h => by rw [h]⟩
  rw [← (settled_comparedLines expected.toList).comparedLines_joinLines, h,
    (settled_comparedLines actual.toList).comparedLines_joinLines]

/-- **Outputs are normalised and compared line by line.** The normal form is the lines that count,
joined. It is clean, and its own normal form; two outputs are the same if the lines that count are;
and padding either of them makes no difference. -/
theorem normalizeOutput_lineByLine (output other : String) :
    normalizeOutput output = String.ofList (joinLines (comparedLines output.toList)) ∧
      normalizeOutput (normalizeOutput output) = normalizeOutput output ∧
      Clean (normalizeOutput output).toList ∧
      (sameOutput output other = true ↔
        comparedLines output.toList = comparedLines other.toList) ∧
      ∀ padded : String, Padded output.toList padded.toList →
        sameOutput padded other = sameOutput output other ∧
          sameOutput other padded = sameOutput other output := by
  have hsettled := settled_comparedLines output.toList
  refine ⟨?_, ?_, ?_, sameOutput_iff, fun padded hpadded => ?_⟩
  · rw [normalizeOutput, normalForm_eq_joinLines]
  · rw [← String.toList_inj, normalizeOutput_eq, normalizeOutput_eq,
      hsettled.comparedLines_joinLines]
  · rw [normalizeOutput_eq]
    exact hsettled.clean_joinLines
  · have hlines := hpadded.comparedLines_eq
    exact ⟨Bool.eq_iff_iff.mpr (by rw [sameOutput_iff, sameOutput_iff, hlines]),
      Bool.eq_iff_iff.mpr (by rw [sameOutput_iff, sameOutput_iff, hlines])⟩

/-- Lines that end in every style. -/
def mixedOutput : String :=
  "  a\r\r\n b\n"

/-- The same lines with other endings, with blanks behind three of them and a blank line at either
end. -/
def paddedOutput : String :=
  "\t\n  a \n\u0085\r b\r\n\u3000\n"

theorem padded_mixedOutput :
    Padded mixedOutput.toList paddedOutput.toList ∧ normalizeOutput mixedOutput = "a\n\n b" ∧
      sameOutput paddedOutput "a\n\n b" = sameOutput mixedOutput "a\n\n b" := by
  have hlines : splitLines mixedOutput.toList
      = ["  a".toList, "".toList, " b".toList, "".toList] := by decide
  have hpadded : Padded mixedOutput.toList paddedOutput.toList := by
    refine ⟨["\t".toList], ["  a ".toList, "\u0085".toList, " b".toList, "\u3000".toList], [[]],
      by decide, by decide, ?_⟩
    rw [hlines]
    exact .cons ⟨" ".toList, by decide, by decide⟩ (.cons ⟨"\u0085".toList, by decide, by decide⟩
      (.cons ⟨[], by decide, by decide⟩ (.cons ⟨"\u3000".toList, by decide, by decide⟩ .nil)))
  have h := normalizeOutput_lineByLine mixedOutput "a\n\n b"
  exact ⟨hpadded, by decide, (h.2.2.2.2 paddedOutput hpadded).1⟩

end Autograder
