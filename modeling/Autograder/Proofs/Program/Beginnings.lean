import Autograder.Proofs.Program.Moments
import Autograder.Proofs.Program.Source

/-!
# The first lines of a program

What a program does up to some line does not depend on the lines behind it. The run of its first
lines either ends in a fault, and then the whole program ends in the same way, or it ends without
one, and then the whole program goes on to print more.

Where the cut falls inside a chain, the shorter program has a shorter body there, or fewer branches.
Its chain is then the last thing in it (`CutShort`). If the branch that is chosen has the shorter
body, its run is the beginning of that of the longer body. If no branch is chosen, one of the
branches that are missing may be, but nothing was run before it.

## Main definitions

* `Begins` — an ending of the first part of a run
* `CutShort` — a chain and the lines behind it, with more lines or without

## Main results

* `chain_append` — a chain is whole, or the cut is inside it and nothing stands behind it
* `begins_runBlock` — runs of lines and of more lines
* `interpret_firstLines` — runs of program texts
-/

namespace Autograder.Guest

/-! ### Beginnings -/

/-- The first ending is that of a run of which the second run is a continuation. A fault ended both,
or what the first has printed stands at the start of what the second has. -/
structure Begins (e e' : Ending) : Prop where
  ended : e.fault ≠ none → e' = e
  printed : e.state.printed <:+ e'.state.printed

namespace Begins

theorem refl (e : Ending) : Begins e e :=
  ⟨fun _ => rfl, List.suffix_refl _⟩

/-- A part of a run without a fault may be followed by all that adds to what it has printed. -/
theorem of_no_fault {s : State} {e : Ending} (h : s.printed <:+ e.state.printed) :
    Begins ⟨s, none⟩ e :=
  ⟨fun hfault => absurd rfl hfault, h⟩

/-- After the same first part, one run goes on as the beginning of the other. -/
theorem andThen (e : Ending) {next next' : State → Ending}
    (h : ∀ s, Begins (next s) (next' s)) : Begins (e.andThen next) (e.andThen next') := by
  obtain ⟨s, fault⟩ := e
  cases fault with
  | none => exact h s
  | some f => exact refl _

/-- The second run goes on where the first is at its end. -/
theorem andThen_right {e e' : Ending} (h : Begins e e') {next : State → Ending}
    (hnext : ∀ s, s.printed <:+ (next s).state.printed) : Begins e (e'.andThen next) := by
  obtain ⟨s', fault'⟩ := e'
  cases fault' with
  | none =>
    refine ⟨fun hfault => ?_, h.printed.trans (hnext s')⟩
    rw [← h.ended hfault] at hfault
    exact absurd rfl hfault
  | some f => exact h

end Begins

/-! ### Chains that are cut -/

/-- The same branches, but bodies may go on and more branches may follow. -/
inductive BranchesCut : List Branch → List Branch → Prop
  | nil {branches} : BranchesCut [] branches
  | cons {line guard body branches branches'} (more : List Line) :
      BranchesCut branches branches' →
      BranchesCut (⟨line, guard, body⟩ :: branches) (⟨line, guard, body ++ more⟩ :: branches')

/-- Branches and the lines behind them, and what becomes of both when more lines follow. As long as
there is a line behind the branches, they are whole. -/
inductive CutShort (more : List Line) : List Branch × List Line → List Branch × List Line → Prop
  | whole {branches rest} : rest ≠ [] → CutShort more (branches, rest) (branches, rest ++ more)
  | inside {branches branches' rest'} : BranchesCut branches branches' →
      CutShort more (branches, []) (branches', rest')

/-- A branch in front is not cut. -/
theorem CutShort.cons {more : List Line} {branches branches' : List Branch}
    {rest rest' : List Line} (h : CutShort more (branches, rest) (branches', rest'))
    (branch : Branch) : CutShort more (branch :: branches, rest) (branch :: branches', rest') := by
  cases h with
  | whole hne => exact .whole hne
  | inside hcut =>
    have hcons := @BranchesCut.cons branch.line branch.guard branch.body _ _ [] hcut
    rw [List.append_nil] at hcons
    exact .inside hcons

/-- More lines follow behind a line that is not deeper, or they may go on with the body. -/
theorem bodyOf_append_cases (base : Nat) (lines more : List Line) :
    (behindBody base lines ≠ [] ∧ bodyOf base (lines ++ more) = bodyOf base lines ∧
      behindBody base (lines ++ more) = behindBody base lines ++ more) ∨
    (behindBody base lines = [] ∧
      bodyOf base (lines ++ more) = bodyOf base lines ++ bodyOf base more) := by
  induction lines with
  | nil => exact .inr ⟨rfl, rfl⟩
  | cons line lines ih =>
    simp only [bodyOf, behindBody, List.cons_append, List.takeWhile_cons, List.dropWhile_cons]
      at ih ⊢
    by_cases hwithin : line.isWithin base = true
    · simpa [hwithin] using ih
    · simp [hwithin]

theorem furtherBranches_append (base : Nat) (lines more : List Line) :
    CutShort more (furtherBranches base lines) (furtherBranches base (lines ++ more)) := by
  induction lines using block_induction with
  | nil =>
    rw [furtherBranches_nil]
    exact .inside .nil
  | cons line rest ih =>
    rw [List.cons_append]
    rcases continues_cases base line with ⟨hi, guard, hl⟩ | ⟨hi, hl⟩ | hstop
    · rw [furtherBranches_alternative hi hl, furtherBranches_alternative hi hl]
      rcases bodyOf_append_cases base rest more with ⟨-, hbody, hbehind⟩ | ⟨hnil, hbody⟩
      · rw [hbody, hbehind]
        exact (ih _ (length_behindBody_le base rest)).cons _
      · rw [hbody, hnil, furtherBranches_nil]
        exact .inside (.cons _ .nil)
    · rw [furtherBranches_otherwise hi hl, furtherBranches_otherwise hi hl]
      rcases bodyOf_append_cases base rest more with ⟨hne, hbody, hbehind⟩ | ⟨hnil, hbody⟩
      · rw [hbody, hbehind]
        exact .whole hne
      · rw [hbody, hnil]
        exact .inside (.cons _ .nil)
    · rw [furtherBranches_stop hstop, furtherBranches_stop hstop]
      exact .whole (List.cons_ne_nil _ _)

/-- **A chain is whole, or the cut is inside it** and nothing stands behind it. -/
theorem chain_append (header : Line) (guard : List Char) (rest more : List Line) :
    CutShort more (chain header guard rest) (chain header guard (rest ++ more)) := by
  rw [chain, chain]
  rcases bodyOf_append_cases header.indent rest more with ⟨-, hbody, hbehind⟩ | ⟨hnil, hbody⟩
  · rw [hbody, hbehind]
    exact (furtherBranches_append header.indent _ more).cons _
  · rw [hbody, hnil, furtherBranches_nil]
    exact .inside (.cons _ .nil)

/-! ### Runs -/

/-- The same branch is chosen, or none is and the other chain goes on to choose. -/
theorem begins_runChosen {stop : StopFrom} {branches branches' : List Branch}
    (hcut : BranchesCut branches branches')
    (hrun : ∀ branch ∈ branches, ∀ more s,
      Begins (runBlock stop s branch.body) (runBlock stop s (branch.body ++ more))) (s : State) :
    Begins (runChosen stop (choose s branches)) (runChosen stop (choose s branches')) := by
  induction hcut generalizing s with
  | nil =>
    rw [choose, runChosen, runBlock_nil]
    exact .of_no_fault (printed_runChosen stop _ s)
  | @cons line guard body branches branches' more _ ih =>
    have hhead := hrun _ List.mem_cons_self more
    cases guard with
    | none =>
      rw [choose_otherwise, choose_otherwise]
      exact hhead s
    | some guard =>
      rw [choose_guarded, choose_guarded]
      cases evaluateCondition s.vars guard with
      | error f => exact .refl _
      | ok holds =>
        cases holds with
        | true => exact hhead (s.visit line)
        | false => exact ih (fun b hm => hrun b (List.mem_cons_of_mem _ hm)) (s.visit line)

/-- **The run of lines is the beginning of the run of more lines.** -/
theorem begins_runBlock (stop : StopFrom) (lines : List Line) : ∀ (more : List Line) (s : State),
    Begins (runBlock stop s lines) (runBlock stop s (lines ++ more)) := by
  induction lines using block_induction with
  | nil =>
    intro more s
    rw [runBlock_nil]
    exact .of_no_fault (printed_runBlock stop _ s)
  | cons line rest ih =>
    intro more s
    rw [List.cons_append]
    cases firstLine stop s line with
    | skipped hi =>
      rw [runBlock_skipped hi, runBlock_skipped hi]
      exact ih rest (Nat.le_refl _) more s
    | stopped hi hs =>
      rw [runBlock_stopped hi hs, runBlock_stopped hi hs]
      exact .refl _
    | @opening guard hs hl =>
      obtain ⟨hbehind, hbodies⟩ := length_chain line guard rest
      have hchain := chain_append line guard rest more
      rw [runBlock_opening hs hl, runBlock_opening hs hl]
      generalize chain line guard rest = before at hbehind hbodies hchain ⊢
      generalize chain line guard (rest ++ more) = after at hchain ⊢
      cases hchain with
      | whole => exact .andThen _ (ih _ hbehind more)
      | inside hcut =>
        -- Nothing stands behind the shorter chain. What stands behind the longer only prints more.
        have hchosen := begins_runChosen hcut (fun branch hm => ih _ (hbodies branch hm)) s.check
        simp only [runBlock_nil, Ending.andThen_self]
        exact hchosen.andThen_right (printed_runBlock stop _)
    | statement hi hs hl =>
      rw [runBlock_statement hi hs hl, runBlock_statement hi hs hl]
      exact .andThen _ (ih rest (Nat.le_refl _) more)

theorem begins_runProgram (stop : StopFrom) {code code' : List Char} {more : List (List Char)}
    (h : Text.lines code' = Text.lines code ++ more) (input : List Char) :
    Begins (runProgram stop code input) (runProgram stop code' input) := by
  rw [runProgram, runProgram, Line.ofCode, Line.ofCode, h, Line.numberFrom_append]
  exact begins_runBlock stop _ _ _

/-- **A program's past does not depend on its future.** If the run of the first lines of a program
ends in a fault, the whole program leaves behind the same. If it does not, it has printed the first
lines of what the whole program prints. -/
theorem interpret_firstLines (stop : StopFrom) (n : Nat) (code input : String) :
    ((runProgram stop (Text.firstLines n code.toList) input.toList).fault ≠ none →
      interpret stop code input
        = interpret stop (String.ofList (Text.firstLines n code.toList)) input) ∧
    ((runProgram stop (Text.firstLines n code.toList) input.toList).fault = none →
      (runProgram stop (Text.firstLines n code.toList) input.toList).state.output
        <+: (runProgram stop code.toList input.toList).state.output) := by
  have hlines : Text.lines code.toList
      = Text.lines (Text.firstLines n code.toList) ++ (Text.lines code.toList).drop n := by
    rw [Text.lines_firstLines, List.take_append_drop]
  have hbegins := begins_runProgram stop hlines input.toList
  refine ⟨fun hfault => ?_, fun _ => List.reverse_prefix.mpr hbegins.printed⟩
  rw [interpret, interpret, hbegins.ended hfault, String.toList_ofList]

/-- A chain with a fault in the branch that is taken. -/
def faultyBranch : String :=
  "x = 5\nif x > 9:\n    print(0)\nelif x > 3:\n    print(x)\n    y += x\nelse:\n    print(1)"

/-- Cut behind the fault, in front of the last branch, the program ends as it does. Cut between the
header and the body that is taken, it ends without a fault and has printed nothing yet. -/
theorem interpret_faultyBranch :
    ((runProgram none (Text.firstLines 6 faultyBranch.toList) []).fault = some (.unbound "y") ∧
      interpret none faultyBranch ""
        = interpret none (String.ofList (Text.firstLines 6 faultyBranch.toList)) "") ∧
    ((runProgram none (Text.firstLines 4 faultyBranch.toList) []).fault = none ∧
      (runProgram none (Text.firstLines 4 faultyBranch.toList) []).state.output
        <+: (runProgram none faultyBranch.toList []).state.output) := by
  have hfault : (runProgram none (Text.firstLines 6 faultyBranch.toList) []).fault
      = some (.unbound "y") := by decide +kernel
  have hnone : (runProgram none (Text.firstLines 4 faultyBranch.toList) []).fault = none := by
    decide +kernel
  refine ⟨⟨hfault, (interpret_firstLines none 6 faultyBranch "").1 ?_⟩,
    hnone, (interpret_firstLines none 4 faultyBranch "").2 hnone⟩
  exact fun h => Option.some_ne_none _ (hfault.symm.trans h)

end Autograder.Guest
