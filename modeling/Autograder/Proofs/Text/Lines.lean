import Autograder.Grading.Output

/-!
# Lines put together and cut again

Lines that hold no line feed are found again in the text that joins them. One thing is lost on the
way: a line feed at the very end ends a line and does not start one, so a last line that is empty
disappears, and a carriage return before a line feed goes with it.

## Main definitions

* `Text.firstLines` — the first lines of a text, as a text

## Main results

* `Text.segments_joinLines` — the pieces between line feeds are the lines
* `Text.lines_joinLines` — what `lines` makes of them
* `Text.sublist_of_mem_lines` — a line is a piece of its text
* `Text.lines_firstLines` — the lines of the first lines
-/

namespace Autograder.Text

variable {cut : Char → Bool}

/-- A text without cuts is one segment. -/
theorem segments_of_uncut {text : List Char} (h : ∀ c ∈ text, cut c = false) :
    segments cut text = [text] := by
  induction text with
  | nil => rfl
  | cons c text ih =>
    rw [segments_cons, ih fun d hd => h d (List.mem_cons_of_mem _ hd)]
    simp [consSegment, h c]

/-- The first segment reaches up to the first cut. -/
theorem segments_append_cut {text : List Char} (h : ∀ c ∈ text, cut c = false) {c : Char}
    (hc : cut c = true) (rest : List Char) :
    segments cut (text ++ c :: rest) = text :: segments cut rest := by
  induction text with
  | nil => simp [consSegment, hc]
  | cons d text ih =>
    rw [List.cons_append, segments_cons, ih fun e he => h e (List.mem_cons_of_mem _ he)]
    simp [consSegment, h d]

/-- No segment has a cut. -/
theorem cut_of_mem_segments {text part : List Char} (h : part ∈ segments cut text) :
    ∀ c ∈ part, cut c = false := by
  induction text generalizing part with
  | nil => simp_all
  | cons c text ih =>
    obtain ⟨first, parts, hparts⟩ := List.exists_cons_of_ne_nil (segments_ne_nil cut text)
    rw [segments_cons, hparts, consSegment.eq_def] at h
    rw [hparts] at ih
    cases hc : cut c with
    | true =>
      rw [if_pos hc] at h
      rcases List.mem_cons.mp h with rfl | hmem
      · simp
      · exact ih hmem
    | false =>
      rw [if_neg (by simp [hc])] at h
      rcases List.mem_cons.mp h with rfl | hmem
      · exact List.forall_mem_cons.mpr ⟨hc, ih List.mem_cons_self⟩
      · exact ih (List.mem_cons_of_mem _ hmem)

/-- The pieces between line feeds are the lines that were joined. -/
theorem segments_joinLines {ls : List (List Char)} (hne : ls ≠ []) (h : ∀ l ∈ ls, '\n' ∉ l) :
    segments (· == '\n') (joinLines ls) = ls := by
  have huncut : ∀ l ∈ ls, ∀ c ∈ l, (c == '\n') = false := by
    intro l hl c hc
    rw [beq_eq_false_iff_ne]
    rintro rfl
    exact h l hl hc
  induction ls with
  | nil => exact absurd rfl hne
  | cons l ls ih =>
    have hl := huncut l (List.mem_cons_self ..)
    cases ls with
    | nil => rw [joinLines, List.intercalate_singleton, segments_of_uncut hl]
    | cons m ls =>
      rw [joinLines, List.intercalate_cons_cons, List.append_assoc, List.singleton_append,
        segments_append_cut hl (by simp)]
      exact congrArg _ (ih (by simp) (fun k hk => h k (List.mem_cons_of_mem _ hk))
        fun k hk => huncut k (List.mem_cons_of_mem _ hk))

/-- **Lines of joined lines.** All but the last lose a carriage return at their end, and an empty
last line is none. -/
theorem lines_joinLines {ls : List (List Char)} (h : ∀ l ∈ ls, '\n' ∉ l) :
    lines (joinLines ls) =
      ls.dropLast.map dropReturn ++ ls.getLast?.toList.filter fun l => !l.isEmpty := by
  cases ls with
  | nil => rfl
  | cons l ls =>
    rw [lines, segments_joinLines (by simp) h]
    cases hlast : (l :: ls).getLast? with
    | none => simp at hlast
    | some last => cases last <;> simp

/-! ### The first lines of a text -/

theorem lines_of_no_feed {text : List Char} (h : '\n' ∉ text) :
    lines text = if text.isEmpty then [] else [text] := by
  have huncut : ∀ c ∈ text, (c == '\n') = false := fun c hc =>
    beq_eq_false_iff_ne.mpr fun heq => h (heq ▸ hc)
  rw [lines, segments_of_uncut huncut]
  rfl

/-- A line on its own is the only line of its text. -/
theorem lines_of_line {line : String} (hempty : line ≠ "") (hfeed : '\n' ∉ line.toList) :
    (lines line.toList).map String.ofList = [line] := by
  rw [lines_of_no_feed hfeed, if_neg (by simpa using hempty), List.map_singleton,
    String.ofList_toList]

/-- The first line of a text ends at the first line feed. -/
theorem lines_append_feed {line : List Char} (h : '\n' ∉ line) (rest : List Char) :
    lines (line ++ '\n' :: rest) = dropReturn line :: lines rest := by
  have huncut : ∀ c ∈ line, (c == '\n') = false := fun c hc =>
    beq_eq_false_iff_ne.mpr fun heq => h (heq ▸ hc)
  have hne := segments_ne_nil (· == '\n') rest
  rw [lines, segments_append_cut huncut (by decide), List.dropLast_cons_of_ne_nil hne,
    List.map_cons, List.getLast?_cons_of_ne_nil hne, lines]
  rfl

/-- Induction over the lines of a text, from the last one on. -/
@[elab_as_elim]
theorem feed_induction {motive : List Char → Prop} (last : ∀ line, '\n' ∉ line → motive line)
    (feed : ∀ line rest, '\n' ∉ line → motive rest → motive (line ++ '\n' :: rest))
    (text : List Char) : motive text := by
  induction hn : text.length using Nat.strongRecOn generalizing text with
  | ind n ih =>
    by_cases hfeed : '\n' ∈ text
    · obtain ⟨line, rest, rfl, hline⟩ := List.eq_append_cons_of_mem hfeed
      refine feed line rest hline (ih rest.length ?_ rest rfl)
      rw [← hn, List.length_append, List.length_cons]
      omega
    · exact last text hfeed

/-- **A line is a piece of the text,** perhaps without a carriage return. -/
theorem sublist_of_mem_lines {text line : List Char} (h : line ∈ lines text) :
    List.Sublist line text := by
  induction text using feed_induction with
  | last whole hfeed =>
    rw [lines_of_no_feed hfeed] at h
    split at h
    · cases h
    · obtain rfl := List.mem_singleton.mp h
      exact List.Sublist.refl line
  | feed first rest hfeed ih =>
    rw [lines_append_feed hfeed] at h
    rcases List.mem_cons.mp h with rfl | hrest
    · have hreturn : (dropReturn first).Sublist first := by
        rw [dropReturn]
        split
        · exact List.dropLast_sublist first
        · exact List.Sublist.refl first
      exact hreturn.trans (List.sublist_append_left first _)
    · exact ((ih hrest).cons '\n').trans (List.sublist_append_right first _)

/-- The first lines of a text, up to and with the line feed that ends the last of them. -/
def firstLines : Nat → List Char → List Char
  | 0, _ => []
  | _ + 1, [] => []
  | n + 1, c :: text => c :: firstLines (if c = '\n' then n else n + 1) text

theorem firstLines_of_no_feed (n : Nat) {text : List Char} (h : '\n' ∉ text) :
    firstLines (n + 1) text = text := by
  induction text with
  | nil => rfl
  | cons c text ih =>
    rw [List.mem_cons, not_or] at h
    rw [firstLines, if_neg (Ne.symm h.1), ih h.2]

theorem firstLines_append_feed (n : Nat) {line : List Char} (h : '\n' ∉ line) (rest : List Char) :
    firstLines (n + 1) (line ++ '\n' :: rest) = line ++ '\n' :: firstLines n rest := by
  induction line with
  | nil => rfl
  | cons c line ih =>
    rw [List.mem_cons, not_or] at h
    rw [List.cons_append, firstLines, if_neg (Ne.symm h.1), ih h.2, List.cons_append]

/-- **Lines of the first lines.** They are the first of the lines. -/
theorem lines_firstLines (n : Nat) (text : List Char) :
    lines (firstLines n text) = (lines text).take n := by
  induction n generalizing text with
  | zero =>
    rw [firstLines, List.take_zero]
    rfl
  | succ n ih =>
    by_cases hfeed : '\n' ∈ text
    · obtain ⟨line, rest, rfl, hline⟩ := List.eq_append_cons_of_mem hfeed
      rw [firstLines_append_feed n hline, lines_append_feed hline, lines_append_feed hline, ih,
        List.take_succ_cons]
    · rw [firstLines_of_no_feed n hfeed, lines_of_no_feed hfeed]
      split <;> simp

end Autograder.Text
