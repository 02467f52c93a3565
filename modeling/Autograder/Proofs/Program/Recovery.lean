import Autograder.Proofs.Program.Significant
import Autograder.Proofs.Program.Structured

/-!
# Blocks recovered from indentation

Running the lines of a rendering does what the structured program means. Two steps lead there.

A rendering is first cut down to its significant lines, which makes no difference to its run. What
is left is a *layout* (`Block.Laid`): lines with an indentation and a text, of which nothing matters
any more but how the header that a text spells is read. Then the run on a layout is followed along
the tree. The body of a header is the longest run of deeper lines behind it, and what stands behind
a body in a layout is either nothing or a line at the indentation of the header (`EndsBody`), so
each body is found exactly (`bodyOf_append`). The other branches of a chain end where the next item
starts, because no item starts with a header that continues a chain (`ItemNext`).

## Main results

* `Block.Rendered.laid` — the significant lines of a rendering are a layout
* `Block.Laid.bare_runBlock` — running a layout is running the block
* `interpret_joinLines_of_rendered` — the same for whole program texts and inputs
-/

namespace Autograder.Guest

/-! ### Headers -/

theorem Header.guard?_append {keyword gap behind : List Char} {guard : Phrase}
    (hg : ∀ c ∈ gap, Text.isBlank c = true) (hb : ∀ c ∈ behind, Text.isBlank c = true)
    (h : gap = [] → guard.chars.head? = some '(') :
    Header.guard? keyword (keyword ++ (gap ++ guard.chars ++ behind)) = some guard.chars := by
  have htrim : Text.trim (gap ++ guard.chars ++ behind) = guard.chars :=
    Text.trim_surround hg hb guard.chars_ne_nil guard.trimmed
  have hafter : Text.after? keyword (keyword ++ (gap ++ guard.chars ++ behind))
      = some (gap ++ guard.chars ++ behind) := Text.after?_eq_some_iff.mpr rfl
  obtain ⟨c, rest, hc, hset⟩ : ∃ c rest, gap ++ guard.chars ++ behind = c :: rest ∧
      (Text.isBlank c = true ∨ c = '(') := by
    cases gap with
    | nil =>
      obtain ⟨rest, hrest⟩ := List.head?_eq_some_iff.mp (h rfl)
      exact ⟨'(', rest ++ behind, by simp [hrest], Or.inr rfl⟩
    | cons c gap => exact ⟨c, _, rfl, Or.inl (hg c (List.mem_cons_self ..))⟩
  rw [hc] at htrim hafter
  rw [guard?, hc, hafter]
  simp [htrim, hset, guard.chars_ne_nil]

/-- Reading a header starts with taking the colon off. -/
theorem Header.ofText?_append_colon (head : List Char) :
    Header.ofText? (head ++ [':'])
      = if Text.trimEnd head = ['e', 'l', 's', 'e'] then some .otherwise
        else match guard? ['e', 'l', 'i', 'f'] head with
          | some guard => some (.alternative guard)
          | none => (guard? ['i', 'f'] head).map .opening := by
  have hcolon : Text.before? [':'] (head ++ [':']) = some head := Text.before?_eq_some_iff.mpr rfl
  by_cases helse : Text.trimEnd head = ['e', 'l', 's', 'e']
  · simp [ofText?, hcolon, helse]
  · cases helif : guard? ['e', 'l', 'i', 'f'] head <;> simp [ofText?, hcolon, helse, helif]

/-- A text that starts differently is not the keyword of the last branch. -/
theorem trimEnd_ne_else {head : List Char} (h : ¬ ['e', 'l', 's', 'e'] <+: head) :
    Text.trimEnd head ≠ ['e', 'l', 's', 'e'] :=
  fun heq => h (heq ▸ Text.trimEnd_prefix head)

theorem HeaderOf.opening {guard : Phrase} {text : List Char}
    (h : HeaderOf ['i', 'f'] guard text) :
    Header.ofText? text = some (.opening guard.chars) := by
  obtain ⟨gap, behind, rfl, hg, hb, hset⟩ := h
  rw [Header.ofText?_append_colon, if_neg (trimEnd_ne_else (by simp)),
    Header.guard?_append hg hb hset]
  simp [Header.guard?, Text.after?]

theorem HeaderOf.alternative {guard : Phrase} {text : List Char}
    (h : HeaderOf ['e', 'l', 'i', 'f'] guard text) :
    Header.ofText? text = some (.alternative guard.chars) := by
  obtain ⟨gap, behind, rfl, hg, hb, hset⟩ := h
  rw [Header.ofText?_append_colon, if_neg (trimEnd_ne_else (by simp)),
    Header.guard?_append hg hb hset]

theorem HeaderOfElse.otherwise {text : List Char} (h : HeaderOfElse text) :
    Header.ofText? text = some .otherwise := by
  obtain ⟨behind, rfl, hb⟩ := h
  rw [Header.ofText?_append_colon, Text.trimEnd_append_of_blank hb, if_pos (by decide)]

/-- A header starts with its keyword and ends in its colon, so it is a significant text and has
no blanks at its ends. -/
theorem significant_header {c : Char} (hc : Text.isBlank c = false) (hne : c ≠ '#')
    (rest : List Char) :
    Text.Trimmed (c :: rest ++ [':']) ∧ (c :: rest ++ [':']).head? ≠ some '#' := by
  exact ⟨Text.trimmed_enclosed hc (by decide) rest, by simpa using hne⟩

/-! ### Layouts -/

mutual

/-- The lines are the significant lines of the block at an indentation. -/
inductive Block.Laid : Nat → Block → List Line → Prop
  | done {w} : Block.Laid w .done []
  | simple {w} {statement : SimpleStatement} {rest} {line : Line} {lines} : line.indent = w →
      line.text = statement.chars → Block.Laid w rest lines →
      Block.Laid w (.simple statement rest) (line :: lines)
  | chain {w v} {guard : Phrase} {body others rest} {line : Line} {inner more lines} :
      line.indent = w → Header.ofText? line.text = some (.opening guard.chars) → w < v →
      Block.Laid v body inner → Others.Laid w others more → Block.Laid w rest lines →
      Block.Laid w (.chain guard body others rest) (line :: (inner ++ (more ++ lines)))

/-- The lines are the significant lines of further branches with headers at an indentation. -/
inductive Others.Laid : Nat → Others → List Line → Prop
  | stop {w} : Others.Laid w .stop []
  | alternative {w v} {guard : Phrase} {body others} {line : Line} {inner more} :
      line.indent = w → Header.ofText? line.text = some (.alternative guard.chars) → w < v →
      Block.Laid v body inner → Others.Laid w others more →
      Others.Laid w (.alternative guard body others) (line :: (inner ++ more))
  | otherwise {w v body} {line : Line} {inner} : line.indent = w →
      Header.ofText? line.text = some .otherwise → w < v → Block.Laid v body inner →
      Others.Laid w (.otherwise body) (line :: inner)

end

/-- A line that shows a trimmed text is a line with that text. -/
theorem Shows.ofText {w : Nat} {text written : List Char} (h : Shows w text written)
    (hne : text ≠ []) (ht : Text.Trimmed text) (n : Nat) :
    Line.ofText n written = ⟨n, w, text⟩ := by
  obtain ⟨pad, trail, rfl, rfl, hp, hb⟩ := h
  rw [Line.ofText, Text.trim_surround hp hb hne ht, Text.indent_surround hp hne ht]

/-- A line that shows a significant text is the first significant line. -/
theorem Shows.filter_numberFrom {w : Nat} {text written : List Char} (h : Shows w text written)
    (hne : text ≠ []) (ht : Text.Trimmed text ∧ text.head? ≠ some '#') (n : Nat)
    (rest : List (List Char)) :
    (Line.numberFrom n (written :: rest)).filter Line.isSignificant
      = ⟨n, w, text⟩ :: (Line.numberFrom (n + 1) rest).filter Line.isSignificant := by
  have hs : (⟨n, w, text⟩ : Line).isSignificant = true := Line.isSignificant_iff.mpr ⟨hne, ht.2⟩
  rw [Line.numberFrom, h.ofText hne ht.1, List.filter_cons_of_pos hs]

theorem IsIdle.not_significant {written : List Char} (h : IsIdle written) (n : Nat) :
    (Line.ofText n written).isSignificant = false := by
  rcases h with h | h
  · simp [Line.isSignificant, Line.ofText, h]
  · obtain ⟨rest, hrest⟩ := List.head?_eq_some_iff.mp h
    have htext : (Line.ofText n written).text = '#' :: Text.trimEnd rest := by
      rw [Line.ofText, Text.trim, hrest, Text.trimEnd_cons (by decide)]
    simp [Line.isSignificant, htext]

theorem HeaderOf.filter_numberFrom {c : Char} {keyword text written : List Char} {guard : Phrase}
    (h : HeaderOf (c :: keyword) guard text) (hc : Text.isBlank c = false) (hne : c ≠ '#')
    {w : Nat} (hs : Shows w text written) (n : Nat) (rest : List (List Char)) :
    (Line.numberFrom n (written :: rest)).filter Line.isSignificant
      = ⟨n, w, text⟩ :: (Line.numberFrom (n + 1) rest).filter Line.isSignificant := by
  obtain ⟨gap, behind, rfl, -⟩ := h
  exact hs.filter_numberFrom (by simp) (significant_header hc hne _) n rest

theorem HeaderOfElse.filter_numberFrom {text written : List Char} (h : HeaderOfElse text) {w : Nat}
    (hs : Shows w text written) (n : Nat) (rest : List (List Char)) :
    (Line.numberFrom n (written :: rest)).filter Line.isSignificant
      = ⟨n, w, text⟩ :: (Line.numberFrom (n + 1) rest).filter Line.isSignificant := by
  obtain ⟨behind, rfl, -⟩ := h
  exact hs.filter_numberFrom (by simp) (significant_header (by decide) (by decide) _) n rest

mutual

/-- **The significant lines of a rendering are a layout.** -/
theorem Block.Rendered.laid : ∀ {w b lines}, Block.Rendered w b lines → ∀ n,
    Block.Laid w b ((Line.numberFrom n lines).filter Line.isSignificant)
  | _, _, _, .done, _ => .done
  | _, _, _, .idle hi hr, n => by
    rw [Line.numberFrom, List.filter_cons_of_neg (by simp [hi.not_significant])]
    exact hr.laid (n + 1)
  | _, .simple statement _, _, .simple hs hr, n => by
    rw [hs.filter_numberFrom statement.chars_ne_nil ⟨statement.trimmed, statement.not_comment⟩]
    exact .simple rfl rfl (hr.laid (n + 1))
  | _, _, _, .chain hh hs hw hb ho hr, n => by
    rw [hh.filter_numberFrom (by decide) (by decide) hs, Line.numberFrom_append,
      List.filter_append, Line.numberFrom_append, List.filter_append]
    exact .chain rfl hh.opening hw (hb.laid _) (ho.laid _) (hr.laid _)

theorem Others.Rendered.laid : ∀ {w o lines}, Others.Rendered w o lines → ∀ n,
    Others.Laid w o ((Line.numberFrom n lines).filter Line.isSignificant)
  | _, _, _, .stop, _ => .stop
  | _, _, _, .alternative hh hs hw hb ho, n => by
    rw [hh.filter_numberFrom (by decide) (by decide) hs, Line.numberFrom_append,
      List.filter_append]
    exact .alternative rfl hh.alternative hw (hb.laid _) (ho.laid _)
  | _, _, _, .otherwise hh hs hw hb, n => by
    rw [hh.filter_numberFrom hs]
    exact .otherwise rfl hh.otherwise hw (hb.laid _)

end

/-- A line that spells a statement is no comment. -/
theorem SimpleStatement.isSignificant (statement : SimpleStatement) {line : Line}
    (h : line.text = statement.chars) : line.isSignificant = true :=
  Line.isSignificant_iff.mpr ⟨h ▸ statement.chars_ne_nil, h ▸ statement.not_comment⟩

/-! ### Finding bodies and branches -/

mutual

/-- No line of a layout is indented less than its items. -/
theorem Block.Laid.le_indent : ∀ {w b lines}, Block.Laid w b lines →
    ∀ line ∈ lines, w ≤ line.indent
  | _, _, _, .done => by simp
  | _, _, _, .simple hi _ hr => by
    intro line hl
    rcases List.mem_cons.mp hl with rfl | hl
    · exact Nat.le_of_eq hi.symm
    · exact hr.le_indent line hl
  | _, _, _, .chain hi _ hw hb ho hr => by
    intro line hl
    rcases List.mem_cons.mp hl with rfl | hl
    · exact Nat.le_of_eq hi.symm
    rcases List.mem_append.mp hl with hl | hl
    · exact Nat.le_trans (Nat.le_of_lt hw) (hb.le_indent line hl)
    rcases List.mem_append.mp hl with hl | hl
    · exact ho.le_indent line hl
    · exact hr.le_indent line hl

theorem Others.Laid.le_indent : ∀ {w o lines}, Others.Laid w o lines →
    ∀ line ∈ lines, w ≤ line.indent
  | _, _, _, .stop => by simp
  | _, _, _, .alternative hi _ hw hb ho => by
    intro line hl
    rcases List.mem_cons.mp hl with rfl | hl
    · exact Nat.le_of_eq hi.symm
    rcases List.mem_append.mp hl with hl | hl
    · exact Nat.le_trans (Nat.le_of_lt hw) (hb.le_indent line hl)
    · exact ho.le_indent line hl
  | _, _, _, .otherwise hi _ hw hb => by
    intro line hl
    rcases List.mem_cons.mp hl with rfl | hl
    · exact Nat.le_of_eq hi.symm
    · exact Nat.le_trans (Nat.le_of_lt hw) (hb.le_indent line hl)

end

/-- What may stand behind a body of a header at an indentation: nothing, or a significant line
there. -/
def EndsBody (w : Nat) (lines : List Line) : Prop :=
  ∀ line ∈ lines.head?, line.indent = w ∧ line.isSignificant = true

/-- What may stand behind a chain at an indentation: nothing, or a significant line there that does
not continue the chain. -/
def ItemNext (w : Nat) (lines : List Line) : Prop :=
  EndsBody w lines ∧ ∀ line ∈ lines.head?,
    (∀ guard, Header.ofText? line.text ≠ some (.alternative guard)) ∧
      Header.ofText? line.text ≠ some .otherwise

theorem Block.Laid.itemNext {w : Nat} {b : Block} {lines : List Line} (h : b.Laid w lines) :
    ItemNext w lines := by
  cases h with
  | done => exact ⟨by simp [EndsBody], by simp⟩
  | @simple _ statement _ first _ hi ht _ =>
    exact ⟨by simp [EndsBody, hi, statement.isSignificant ht], by simp [ht, statement.not_header]⟩
  | @chain _ _ _ _ _ _ first _ _ _ hi hh _ _ _ _ =>
    exact ⟨by simp [EndsBody, hi, Line.isSignificant_of_header hh], by simp [hh]⟩

/-- Behind a body of a chain stands nothing, or a line at the indentation of its headers. -/
theorem Others.Laid.endsBody {w : Nat} {o : Others} {more lines : List Line}
    (h : o.Laid w more) (hn : ItemNext w lines) : EndsBody w (more ++ lines) := by
  cases h with
  | stop => exact hn.1
  | alternative hi hh _ _ _ => simp [EndsBody, hi, Line.isSignificant_of_header hh]
  | otherwise hi hh _ _ => simp [EndsBody, hi, Line.isSignificant_of_header hh]

/-- **A body is found exactly.** It is the deeper lines in front of a line that is not deeper. -/
theorem bodyOf_append {w : Nat} {inner lines : List Line} (hi : ∀ line ∈ inner, w < line.indent)
    (hl : EndsBody w lines) :
    bodyOf w (inner ++ lines) = inner ∧ behindBody w (inner ++ lines) = lines := by
  have hdeep : ∀ line ∈ inner, line.isWithin w = true := by
    intro line h
    simp [Line.isWithin, hi line h]
  rw [bodyOf, behindBody, List.takeWhile_append_of_pos hdeep, List.dropWhile_append_of_pos hdeep]
  cases lines with
  | nil => simp
  | cons line lines =>
    obtain ⟨hindent, hsignificant⟩ := hl line rfl
    have hflat : line.isWithin w = false := by simp [Line.isWithin, hindent, hsignificant]
    simp [hflat]

theorem Block.Laid.bodyOf_append {w v : Nat} {b : Block} {inner : List Line} (h : b.Laid v inner)
    (hw : w < v) {lines : List Line} (hl : EndsBody w lines) :
    bodyOf w (inner ++ lines) = inner ∧ behindBody w (inner ++ lines) = lines :=
  Guest.bodyOf_append (fun line hm => Nat.lt_of_lt_of_le hw (h.le_indent line hm)) hl

/-- No branch continues a chain where the next item stands. -/
theorem ItemNext.furtherBranches {w : Nat} {lines : List Line} (h : ItemNext w lines) :
    furtherBranches w lines = ([], lines) := by
  cases lines with
  | nil => rw [furtherBranches_nil]
  | cons line lines => exact furtherBranches_stop fun _ => h.2 line rfl

/-! ### Running a layout -/

/-- A branch with a guard is chosen as the guard says. -/
theorem bare_runChosen_cons {line : Line} {guard : Phrase} {inner : List Line}
    {branches : List Branch} {taken passed : State → Ending}
    (ht : ∀ s, (runBlock none s inner).bare = taken s.bare)
    (hp : ∀ s, (runChosen none (choose s branches)).bare = passed s.bare) (s : State) :
    (runChosen none (choose s (⟨line, some guard.chars, inner⟩ :: branches))).bare
      = s.bare.select guard (taken s.bare) (passed s.bare) := by
  rw [choose_guarded, State.select, State.vars_bare]
  cases evaluateCondition s.vars guard.chars with
  | error f => rfl
  | ok holds =>
    cases holds with
    | true => exact ht (s.visit line)
    | false => exact hp (s.visit line)

mutual

/-- **Running a layout is running the block.** -/
theorem Block.Laid.bare_runBlock : ∀ {w b lines}, Block.Laid w b lines → ∀ s,
    (runBlock none s lines).bare = b.run s.bare
  | _, _, _, .done, s => by
    rw [runBlock_nil]
    rfl
  | _, .simple statement _, line :: _, .simple _ ht hr, s => by
    rw [runBlock_statement (statement.isSignificant ht) rfl (by simp [ht, statement.not_header]),
      ht, Block.run, Ending.bare_andThen _ hr.bare_runBlock, Statement.bare_execute]
    rfl
  | _, .chain guard body others rest, line :: _, .chain hi hh hw hb ho hr, s => by
    obtain ⟨branches, hf, hrun⟩ := ho.furtherBranches hr.itemNext
    have hfound := hb.bodyOf_append hw (ho.endsBody hr.itemNext)
    rw [← hi] at hf hfound
    rw [runBlock_opening rfl hh, chain, hfound.1, hfound.2, hf, Block.run,
      Ending.bare_andThen _ hr.bare_runBlock, bare_runChosen_cons hb.bare_runBlock hrun]
    rfl

/-- The further branches of a layout are found as they are, and choosing among them is running
them. -/
theorem Others.Laid.furtherBranches : ∀ {w o more}, Others.Laid w o more → ∀ {lines},
    ItemNext w lines → ∃ branches, Guest.furtherBranches w (more ++ lines) = (branches, lines) ∧
      ∀ s, (runChosen none (choose s branches)).bare = o.run s.bare
  | _, _, _, .stop, lines, hn => by
    refine ⟨[], hn.furtherBranches, fun s => ?_⟩
    rw [choose, runChosen, runBlock_nil]
    rfl
  | _, .alternative guard _ _, line :: _, .alternative hi hh hw hb ho, lines, hn => by
    obtain ⟨branches, hf, hrun⟩ := ho.furtherBranches hn
    have hfound := hb.bodyOf_append hw (ho.endsBody hn)
    refine ⟨⟨line, some guard.chars, _⟩ :: branches, ?_, bare_runChosen_cons hb.bare_runBlock hrun⟩
    rw [List.cons_append, List.append_assoc, furtherBranches_alternative hi hh, hfound.1, hfound.2,
      hf]
  | _, .otherwise _, line :: inner, .otherwise hi hh hw hb, lines, hn => by
    have hfound := hb.bodyOf_append hw hn.1
    refine ⟨[⟨line, none, inner⟩], ?_, fun s => ?_⟩
    · rw [List.cons_append, furtherBranches_otherwise hi hh, hfound.1, hfound.2]
    · rw [choose_otherwise]
      exact hb.bare_runBlock s

end

/-! ### Whole programs -/

/-- **Structured programs run as they read.** Whatever the rendering of a structured program and
whatever the input, interpreting the text leaves behind what the structure of the program says:
the same output, the same error and the same exit code. -/
theorem interpret_joinLines_of_rendered {b : Block} {w : Nat} {lines : List (List Char)}
    (h : b.Rendered w lines) (hl : ∀ line ∈ lines, '\n' ∉ line) (input : String) :
    interpret none (String.ofList (joinLines lines)) input
      = (b.run (State.initial ((Text.lines input.toList).map String.ofList))).outcome := by
  have hlaid : b.Laid w (Line.significant lines) := h.laid 0
  rw [interpret, runProgram_eq, String.toList_ofList, Line.ofProgram_joinLines hl,
    ← Ending.outcome_bare, hlaid.bare_runBlock, State.bare_initial]

/-- A program whose chain has an empty body and a chain inside a branch. -/
def sampleBlock : Block :=
  .simple ⟨⟨"n = int(input())".toList, by decide, by decide⟩, by decide, by decide⟩
    (.chain ⟨"n > 5".toList, by decide, by decide⟩ .done
      (.alternative ⟨"n > 2".toList, by decide, by decide⟩
        (.chain ⟨"(n == 4)".toList, by decide, by decide⟩
          (.simple ⟨⟨"print('four')".toList, by decide, by decide⟩, by decide, by decide⟩ .done)
          .stop .done)
        (.otherwise
          (.simple ⟨⟨"print('small')".toList, by decide, by decide⟩, by decide, by decide⟩ .done)))
      (.simple ⟨⟨"print('end')".toList, by decide, by decide⟩, by decide, by decide⟩ .done))

theorem interpret_sampleBlock :
    sampleBlock.Rendered 0 (sampleBlock.written 0) ∧
      (∀ line ∈ sampleBlock.written 0, '\n' ∉ line) ∧
      interpret none (String.ofList (joinLines (sampleBlock.written 0))) "4"
        = (sampleBlock.run (State.initial ((Text.lines "4".toList).map String.ofList))).outcome :=
  ⟨sampleBlock.rendered_written 0, by decide,
    interpret_joinLines_of_rendered (sampleBlock.rendered_written 0) (by decide) "4"⟩

example : interpret none (String.ofList (joinLines (sampleBlock.written 0))) "4"
    = ⟨"four\nend", none, 0⟩ := by decide +kernel

end Autograder.Guest
