import Autograder.Guest.Line
import Autograder.Proofs.Text.Lines
import Autograder.Proofs.Text.Trim

/-!
# The significant lines of a source text

A run passes over blank lines and comments, so what has to be known about a source text is which
significant lines it has. `Line.ofProgram_joinLines` says that for a text joined from lines these
are the significant ones among the lines themselves: the carriage returns and the empty last line
that cutting a text loses belong to no significant line.
-/

namespace Autograder.Guest

namespace Line

theorem numberFrom_append (n : Nat) (a b : List (List Char)) :
    numberFrom n (a ++ b) = numberFrom n a ++ numberFrom (n + a.length) b := by
  induction a generalizing n with
  | nil => rfl
  | cons written a ih =>
    rw [List.cons_append, numberFrom, ih, numberFrom, List.cons_append, List.length_cons,
      Nat.add_assoc, Nat.add_comm 1]

theorem exists_of_mem_numberFrom {n : Nat} {written : List (List Char)} {line : Line}
    (h : line ∈ numberFrom n written) : ∃ w ∈ written, line.text = Text.trim w := by
  induction written generalizing n with
  | nil => cases h
  | cons w written ih =>
    rcases List.mem_cons.mp h with rfl | hmem
    · exact ⟨w, List.mem_cons_self, rfl⟩
    · obtain ⟨w', hw', htext⟩ := ih hmem
      exact ⟨w', List.mem_cons_of_mem _ hw', htext⟩

/-- A line is significant when its text neither is empty nor starts with a number sign. -/
theorem isSignificant_iff {line : Line} :
    line.isSignificant = true ↔ line.text ≠ [] ∧ line.text.head? ≠ some '#' := by
  simp [isSignificant]

theorem isSignificant_of_mem_ofProgram {code : List Char} {line : Line}
    (h : line ∈ ofProgram code) : line.isSignificant = true :=
  (List.mem_filter.mp h).2

/-- Blanks behind a significant line leave it as it is. -/
theorem ofText_append_of_blank {trail : List Char} (h : ∀ c ∈ trail, Text.isBlank c = true)
    (n : Nat) {written : List Char} (hne : Text.trim written ≠ []) :
    ofText n (written ++ trail) = ofText n written := by
  have hlen : (written.takeWhile Text.isBlank).length ≠ written.length := by
    intro hlen
    have hall : ∀ c ∈ written, Text.isBlank c = true := by
      rw [← (List.takeWhile_prefix Text.isBlank).eq_of_length hlen]
      exact List.all_eq_true.mp List.all_takeWhile
    exact hne (Text.trim_append_of_blank hall [])
  rw [ofText, ofText, Text.trim_append_of_blank h, List.takeWhile_append, if_neg hlen]

/-- The significant lines do not depend on blanks behind the written ones. -/
theorem filter_ofText_append_of_blank {trail : List Char}
    (h : ∀ c ∈ trail, Text.isBlank c = true) (n : Nat) (written : List Char) :
    [ofText n (written ++ trail)].filter isSignificant
      = [ofText n written].filter isSignificant := by
  by_cases hne : Text.trim written = []
  · have hw : (ofText n written).isSignificant = false := by simp [isSignificant, ofText, hne]
    have ht : (ofText n (written ++ trail)).isSignificant = false := by
      simp [isSignificant, ofText, Text.trim_append_of_blank h, hne]
    simp [hw, ht]
  · rw [ofText_append_of_blank h n hne]

theorem filter_ofText_dropReturn (n : Nat) (written : List Char) :
    [ofText n (Text.dropReturn written)].filter isSignificant
      = [ofText n written].filter isSignificant := by
  rw [Text.dropReturn]
  split
  · rename_i hlast
    obtain ⟨start, rfl⟩ := List.getLast?_eq_some_iff.mp hlast
    rw [List.dropLast_concat, filter_ofText_append_of_blank (List.all_eq_true.mp (by decide))]
  · rfl

theorem filter_numberFrom_cons (n : Nat) (written : List Char) (rest : List (List Char)) :
    (numberFrom n (written :: rest)).filter isSignificant
      = [ofText n written].filter isSignificant
        ++ (numberFrom (n + 1) rest).filter isSignificant := by
  rw [numberFrom, ← List.singleton_append, List.filter_append]

theorem filter_numberFrom_dropReturn (n : Nat) (written : List (List Char)) :
    (numberFrom n (written.map Text.dropReturn)).filter isSignificant
      = (numberFrom n written).filter isSignificant := by
  induction written generalizing n with
  | nil => rfl
  | cons w written ih =>
    rw [List.map_cons, filter_numberFrom_cons, filter_numberFrom_cons, ih,
      filter_ofText_dropReturn]

/-- A blank text has no significant line. -/
theorem ofProgram_of_allBlank {code : List Char} (h : Text.allBlank code = true) :
    ofProgram code = [] := by
  refine List.filter_eq_nil_iff.mpr fun line hline hsignificant => ?_
  obtain ⟨w, hw, htext⟩ := exists_of_mem_numberFrom hline
  have hblank : ∀ c ∈ w, Text.isBlank c = true := fun c hc =>
    Text.allBlank_iff.mp h c ((Text.sublist_of_mem_lines hw).subset hc)
  refine (isSignificant_iff.mp hsignificant).1 ?_
  rw [htext, ← List.nil_append w, Text.trim_append_of_blank hblank]
  rfl

/-- A first line that is significant. -/
theorem ofProgram_append_feed_ne_nil {written : List Char} (hfeed : '\n' ∉ written)
    (h : Text.trim written ≠ []) (hcomment : (Text.trim written).head? ≠ some '#')
    (rest : List Char) : ofProgram (written ++ '\n' :: rest) ≠ [] := by
  have hsignificant : (ofText 0 written).isSignificant = true :=
    isSignificant_iff.mpr ⟨h, hcomment⟩
  rw [ofProgram, significant, Text.lines_append_feed hfeed, filter_numberFrom_cons,
    filter_ofText_dropReturn, List.filter_cons_of_pos hsignificant]
  exact List.cons_ne_nil _ _

/-- **Significant lines of joined lines.** They are the significant lines among those joined. -/
theorem ofProgram_joinLines {written : List (List Char)} (h : ∀ line ∈ written, '\n' ∉ line) :
    ofProgram (joinLines written) = significant written := by
  rw [ofProgram, significant, Text.lines_joinLines h, numberFrom_append, List.filter_append,
    filter_numberFrom_dropReturn, List.length_map]
  rcases List.eq_nil_or_concat written with rfl | ⟨init, last, rfl⟩
  · rfl
  · have hlast : (numberFrom (0 + init.length) ([last].filter fun l => !l.isEmpty)).filter
        isSignificant = (numberFrom (0 + init.length) [last]).filter isSignificant := by
      cases last with
      | nil => rfl
      | cons c last => rfl
    simp only [List.concat_eq_append, List.dropLast_concat, List.getLast?_concat,
      Option.toList_some]
    rw [hlast, ← List.filter_append, ← numberFrom_append, significant]

end Line

end Autograder.Guest
