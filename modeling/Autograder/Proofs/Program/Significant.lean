import Autograder.Proofs.Program.Run

/-!
# Blank lines and comments

A run passes over blank lines and comments wherever they stand: in front of a statement, between a
header and its body, between two branches of a chain, and deep inside a body with an indentation of
their own. Without them it finds the same bodies and the same chains, with the lines of the bodies
that are left, so it does the same. This is shown by running both lists of lines side by side.
What is run may therefore be taken to be the significant lines alone, and most of what is said about
runs of whole programs is said of these.

A chain ends where the first significant line behind a body does not continue it. That a blank line
in this place would end a chain has to be excluded, and it is: a body takes all of them with it
(`isSignificant_of_mem_head?_behindBody`).

## Main results

* `furtherBranches_filter`, `chain_filter` — the same chain is found
* `runBlock_filter` — the same run
* `runProgram_eq` — a program is run as its significant lines are
-/

namespace Autograder.Guest

/-! ### Bodies and chains -/

/-- The branch without the blank lines and the comments of its body. -/
def Branch.significant (branch : Branch) : Branch :=
  { branch with body := branch.body.filter Line.isSignificant }

/-- A blank line or a comment is within every body. -/
theorem Line.not_or_isWithin (base : Nat) (line : Line) :
    (!line.isSignificant || line.isWithin base) = line.isWithin base := by
  rw [isWithin, ← Bool.or_assoc, Bool.or_self]

theorem bodyOf_filter (base : Nat) (lines : List Line) :
    bodyOf base (lines.filter Line.isSignificant)
      = (bodyOf base lines).filter Line.isSignificant := by
  rw [bodyOf, bodyOf, List.takeWhile_filter]
  simp only [Line.not_or_isWithin]

theorem behindBody_filter (base : Nat) (lines : List Line) :
    behindBody base (lines.filter Line.isSignificant)
      = (behindBody base lines).filter Line.isSignificant := by
  rw [behindBody, behindBody, List.dropWhile_filter]
  simp only [Line.not_or_isWithin]

/-- Behind a body stands a significant line, or nothing. -/
theorem isSignificant_of_mem_head?_behindBody {base : Nat} {lines : List Line} :
    ∀ line ∈ (behindBody base lines).head?, line.isSignificant = true := by
  intro line hline
  have hwithin := List.head?_dropWhile_not (Line.isWithin base) lines
  rw [← behindBody, Option.mem_def.mp hline] at hwithin
  have hparts : (!line.isSignificant) = false ∧ decide (base < line.indent) = false :=
    Bool.or_eq_false_iff.mp hwithin
  exact Bool.not_eq_eq_eq_not.mp hparts.1

/-- **The further branches of a chain** are found where a significant line stands first. -/
theorem furtherBranches_filter (base : Nat) (lines : List Line)
    (h : ∀ line ∈ lines.head?, line.isSignificant = true) :
    furtherBranches base (lines.filter Line.isSignificant)
      = ((furtherBranches base lines).1.map Branch.significant,
          (furtherBranches base lines).2.filter Line.isSignificant) := by
  induction lines using block_induction with
  | nil =>
    rw [List.filter_nil, furtherBranches_nil]
    rfl
  | cons line rest ih =>
    have hi : line.isSignificant = true := h line rfl
    rw [List.filter_cons_of_pos hi]
    rcases continues_cases base line with ⟨hbase, guard, hl⟩ | ⟨hbase, hl⟩ | hstop
    · have hmore := ih (behindBody base rest) (length_behindBody_le base rest)
        isSignificant_of_mem_head?_behindBody
      rw [furtherBranches_alternative hbase hl, furtherBranches_alternative hbase hl,
        bodyOf_filter, behindBody_filter, hmore]
      rfl
    · rw [furtherBranches_otherwise hbase hl, furtherBranches_otherwise hbase hl, bodyOf_filter,
        behindBody_filter]
      rfl
    · rw [furtherBranches_stop hstop, furtherBranches_stop hstop, List.filter_cons_of_pos hi]
      rfl

/-- **The same chain is found**, with the significant lines of its bodies. -/
theorem chain_filter (header : Line) (guard : List Char) (rest : List Line) :
    chain header guard (rest.filter Line.isSignificant)
      = ((chain header guard rest).1.map Branch.significant,
          (chain header guard rest).2.filter Line.isSignificant) := by
  rw [chain, bodyOf_filter, behindBody_filter,
    furtherBranches_filter _ _ isSignificant_of_mem_head?_behindBody]
  rfl

/-! ### Runs -/

variable {stop : StopFrom}

/-- The same branch is chosen, and its body is run without blank lines and comments. -/
theorem runChosen_significant {branches : List Branch}
    (hrun : ∀ branch ∈ branches, ∀ s,
      runBlock stop s (branch.body.filter Line.isSignificant) = runBlock stop s branch.body)
    (s : State) :
    runChosen stop (choose s (branches.map Branch.significant))
      = runChosen stop (choose s branches) := by
  induction branches generalizing s with
  | nil => rfl
  | cons branch branches ih =>
    obtain ⟨line, guard, body⟩ := branch
    have hhead := hrun _ List.mem_cons_self
    rw [List.map_cons, Branch.significant]
    cases guard with
    | none =>
      rw [choose_otherwise, choose_otherwise]
      exact hhead s
    | some guard =>
      rw [choose_guarded, choose_guarded]
      cases evaluateCondition s.vars guard with
      | error f => rfl
      | ok holds =>
        cases holds with
        | true => exact hhead (s.visit line)
        | false => exact ih (fun b hm => hrun b (List.mem_cons_of_mem _ hm)) (s.visit line)

/-- **Blank lines and comments make no difference** to a run, wherever they stand. -/
theorem runBlock_filter (stop : StopFrom) (lines : List Line) :
    ∀ s, runBlock stop s (lines.filter Line.isSignificant) = runBlock stop s lines := by
  induction lines using block_induction with
  | nil => exact fun s => rfl
  | cons line rest ih =>
    intro s
    cases firstLine stop s line with
    | skipped hi =>
      rw [List.filter_cons_of_neg (by simp [hi]), runBlock_skipped hi]
      exact ih rest (Nat.le_refl _) s
    | stopped hi hs =>
      rw [List.filter_cons_of_pos hi, runBlock_stopped hi hs, runBlock_stopped hi hs]
    | @opening guard hs hl =>
      obtain ⟨hbehind, hbodies⟩ := length_chain line guard rest
      rw [List.filter_cons_of_pos (Line.isSignificant_of_header hl), runBlock_opening hs hl,
        runBlock_opening hs hl, chain_filter,
        runChosen_significant fun branch hm => ih _ (hbodies branch hm)]
      exact congrArg _ (funext (ih _ hbehind))
    | statement hi hs hl =>
      rw [List.filter_cons_of_pos hi, runBlock_statement hi hs hl, runBlock_statement hi hs hl]
      exact congrArg _ (funext (ih rest (Nat.le_refl _)))

/-- **A program is run as its significant lines are.** -/
theorem runProgram_eq (stop : StopFrom) (code input : List Char) :
    runProgram stop code input = runBlock stop
      (State.initial ((Text.lines input).map String.ofList)) (Line.ofProgram code) :=
  (runBlock_filter stop (Line.ofCode code) _).symm

end Autograder.Guest
