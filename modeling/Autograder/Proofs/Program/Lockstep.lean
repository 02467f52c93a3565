import Autograder.Proofs.Program.Moments
import Mathlib.Data.List.Forall2

/-!
# Two runs in lockstep

Several facts about programs compare two runs: on inputs one of which goes on where the other ends,
or of programs that are indented differently. In each case corresponding lines have the same text,
and the states are related in some way that every act of a run keeps. Then the runs go through the
same branches, and their endings are related as well. This is `Lockstep.follows_runBlock`, which is
proved once for all relations.

The runs may part at a fault. Which faults can part them is a parameter: where one of these ends the
first run, the second may go on, and nothing is known of it but that it has printed what the first
has.

## Main definitions

* `Follows` — the endings of two runs in lockstep
* `Lockstep` — relations of lines and of states that a run keeps

## Main results

* `Lockstep.matches_chain` — corresponding lines have corresponding chains
* `Lockstep.follows_runBlock` — runs of corresponding lines from related states
-/

namespace Autograder.Guest

/-- Two endings are related, with the same fault or none. Or one of the faults that may part the
runs ended the first, and the second has printed as much. -/
inductive Follows (R : State → State → Prop) (F : Fault → Prop) (e e' : Ending) : Prop where
  | together (state : R e.state e'.state) (fault : e'.fault = e.fault)
  | apart {f : Fault} (fault : e.fault = some f) (parts : F f)
    (printed : e.state.printed <:+ e'.state.printed)

section Follows

variable {R : State → State → Prop} {F : Fault → Prop}

/-- What goes on in lockstep goes on behind endings in lockstep, as long as it only adds to what is
printed. -/
theorem Follows.andThen {e e' : Ending} (h : Follows R F e e') {next next' : State → Ending}
    (hnext : ∀ s s', R s s' → Follows R F (next s) (next' s'))
    (hprinted : ∀ s, s.printed <:+ (next' s).state.printed) :
    Follows R F (e.andThen next) (e'.andThen next') := by
  obtain ⟨s, fault⟩ := e
  obtain ⟨s', fault'⟩ := e'
  cases h with
  | together state hfault =>
    obtain rfl : fault' = fault := hfault
    cases fault' with
    | none => exact hnext s s' state
    | some f => exact .together state rfl
  | @apart f hfault parts printed =>
    obtain rfl : fault = some f := hfault
    refine .apart rfl parts (printed.trans ?_)
    cases fault' with
    | none => exact hprinted s'
    | some f' => exact List.suffix_refl _

end Follows

/-- Relations of lines and of states under which two runs go through the same branches. -/
structure Lockstep (A : Line → Line → Prop) (R : State → State → Prop) (F : Fault → Prop)
    (stop : StopFrom) : Prop where
  text : ∀ {line line'}, A line line' → line'.text = line.text
  /-- Indentations are in the same order. How great they are does not matter. -/
  indent : ∀ {line line' next next'}, A line line' → A next next' →
    (line'.indent < next'.indent ↔ line.indent < next.indent)
  vars : ∀ {s s'}, R s s' → s'.vars = s.vars
  isStopped : ∀ {s s'}, R s s' → s'.isStopped stop = s.isStopped stop
  check : ∀ {s s'}, R s s' → R s.check s'.check
  visit : ∀ {s s' line line'}, R s s' → A line line' → R (s.visit line) (s'.visit line')
  execute : ∀ {s s'} (statement : Statement), R s s' →
    Follows R F (statement.execute s) (statement.execute s')

/-- The branches have corresponding lines and the same guard. -/
structure Branch.Matches (A : Line → Line → Prop) (branch branch' : Branch) : Prop where
  line : A branch.line branch'.line
  guard : branch'.guard = branch.guard
  body : List.Forall₂ A branch.body branch'.body

namespace Lockstep

variable {A : Line → Line → Prop} {R : State → State → Prop} {F : Fault → Prop} {stop : StopFrom}
  (h : Lockstep A R F stop)

include h

/-! ### The same chains -/

/-- Corresponding lines are both significant or both not. -/
theorem isSignificant_eq {line line' : Line} (hl : A line line') :
    line'.isSignificant = line.isSignificant := by
  rw [Line.isSignificant, Line.isSignificant, h.text hl]

theorem isWithin_eq {header header' line line' : Line} (hh : A header header')
    (hl : A line line') : line'.isWithin header'.indent = line.isWithin header.indent := by
  rw [Line.isWithin, Line.isWithin, h.isSignificant_eq hl, decide_eq_decide.mpr (h.indent hh hl)]

theorem indent_eq_iff {line line' next next' : Line} (hl : A line line') (hn : A next next') :
    line'.indent = next'.indent ↔ line.indent = next.indent := by
  have hlt := h.indent hl hn
  have hgt := h.indent hn hl
  omega

theorem forall₂_bodyOf {header header' : Line} (hh : A header header') {lines lines' : List Line}
    (hl : List.Forall₂ A lines lines') :
    List.Forall₂ A (bodyOf header.indent lines) (bodyOf header'.indent lines') ∧
      List.Forall₂ A (behindBody header.indent lines) (behindBody header'.indent lines') := by
  induction hl with
  | nil => exact ⟨.nil, .nil⟩
  | @cons line line' lines lines' hline hl ih =>
    rw [bodyOf, bodyOf, behindBody, behindBody, List.takeWhile_cons, List.takeWhile_cons,
      List.dropWhile_cons, List.dropWhile_cons, h.isWithin_eq hh hline]
    cases line.isWithin header.indent with
    | true => exact ⟨.cons hline ih.1, ih.2⟩
    | false => exact ⟨.nil, .cons hline hl⟩

theorem matches_furtherBranches {header header' : Line} (hh : A header header')
    (lines : List Line) : ∀ {lines' : List Line}, List.Forall₂ A lines lines' →
      List.Forall₂ (Branch.Matches A) (furtherBranches header.indent lines).1
          (furtherBranches header'.indent lines').1 ∧
        List.Forall₂ A (furtherBranches header.indent lines).2
          (furtherBranches header'.indent lines').2 := by
  induction lines using block_induction with
  | nil =>
    rintro _ ⟨⟩
    rw [furtherBranches_nil, furtherBranches_nil]
    exact ⟨.nil, .nil⟩
  | cons line rest ih =>
    rintro _ (_ | @⟨_, line', _, rest', hline, hrest⟩)
    have hbody := h.forall₂_bodyOf hh hrest
    have hindent := h.indent_eq_iff hline hh
    rcases continues_cases header.indent line with ⟨hi, guard, hl⟩ | ⟨hi, hl⟩ | hstop
    · have hl' := (congrArg Header.ofText? (h.text hline)).trans hl
      rw [furtherBranches_alternative hi hl, furtherBranches_alternative (hindent.mpr hi) hl']
      have hmore := ih _ (length_behindBody_le header.indent rest) hbody.2
      exact ⟨.cons ⟨hline, rfl, hbody.1⟩ hmore.1, hmore.2⟩
    · have hl' := (congrArg Header.ofText? (h.text hline)).trans hl
      rw [furtherBranches_otherwise hi hl, furtherBranches_otherwise (hindent.mpr hi) hl']
      exact ⟨.cons ⟨hline, rfl, hbody.1⟩ .nil, hbody.2⟩
    · rw [furtherBranches_stop hstop, furtherBranches_stop]
      · exact ⟨.nil, .cons hline hrest⟩
      · rw [h.text hline]
        exact fun hi => hstop (hindent.mp hi)

/-- **Corresponding lines have corresponding chains**, with corresponding lines behind them. -/
theorem matches_chain {header header' : Line} (hh : A header header') (guard : List Char)
    {rest rest' : List Line} (hl : List.Forall₂ A rest rest') :
    List.Forall₂ (Branch.Matches A) (chain header guard rest).1 (chain header' guard rest').1 ∧
      List.Forall₂ A (chain header guard rest).2 (chain header' guard rest').2 := by
  have hbody := h.forall₂_bodyOf hh hl
  have hmore := h.matches_furtherBranches hh _ hbody.2
  exact ⟨.cons ⟨hh, rfl, hbody.1⟩ hmore.1, hmore.2⟩

/-! ### The same run -/

/-- The same branch is chosen, so corresponding bodies are run. -/
theorem follows_runChosen {branches branches' : List Branch}
    (hb : List.Forall₂ (Branch.Matches A) branches branches')
    (hrun : ∀ branch ∈ branches, ∀ s s' lines', R s s' → List.Forall₂ A branch.body lines' →
      Follows R F (runBlock stop s branch.body) (runBlock stop s' lines'))
    {s s' : State} (hs : R s s') :
    Follows R F (runChosen stop (choose s branches)) (runChosen stop (choose s' branches')) := by
  induction hb generalizing s s' with
  | nil =>
    rw [choose, choose, runChosen, runChosen, runBlock_nil, runBlock_nil]
    exact .together hs rfl
  | @cons branch branch' branches branches' hbranch _ ih =>
    obtain ⟨line, guard, body⟩ := branch
    obtain ⟨line', guard', body'⟩ := branch'
    obtain ⟨hline, rfl, hbody⟩ := hbranch
    have hhead := hrun _ List.mem_cons_self
    cases guard' with
    | none =>
      rw [choose_otherwise, choose_otherwise]
      exact hhead s s' body' hs hbody
    | some guard =>
      have hvisit := h.visit hs hline
      rw [choose_guarded, choose_guarded, h.vars hs]
      cases evaluateCondition s.vars guard with
      | error f => exact .together hvisit rfl
      | ok holds =>
        cases holds with
        | true => exact hhead _ _ body' hvisit hbody
        | false => exact ih (fun b hm => hrun b (List.mem_cons_of_mem _ hm)) hvisit

/-- **Runs in lockstep.** Corresponding lines are run from related states to related endings,
unless a fault parts the runs. -/
theorem follows_runBlock (lines : List Line) : ∀ {s s' : State} {lines' : List Line}, R s s' →
    List.Forall₂ A lines lines' →
      Follows R F (runBlock stop s lines) (runBlock stop s' lines') := by
  induction lines using block_induction with
  | nil =>
    rintro s s' _ hs ⟨⟩
    rw [runBlock_nil, runBlock_nil]
    exact .together hs rfl
  | cons line rest ih =>
    rintro s s' _ hs (_ | @⟨_, line', _, rest', hline, hrest⟩)
    have hsignificant := h.isSignificant_eq hline
    have hstop := h.isStopped hs
    cases firstLine stop s line with
    | skipped hi =>
      rw [runBlock_skipped hi, runBlock_skipped (hsignificant.trans hi)]
      exact ih rest (Nat.le_refl _) hs hrest
    | stopped hi hstopped =>
      rw [runBlock_stopped hi hstopped,
        runBlock_stopped (hsignificant.trans hi) (hstop.trans hstopped)]
      exact .together (h.check hs) rfl
    | @opening guard hstopped hl =>
      have hl' := (congrArg Header.ofText? (h.text hline)).trans hl
      have hlength := length_chain line guard rest
      obtain ⟨hbranches, hbehind⟩ := h.matches_chain hline guard hrest
      rw [runBlock_opening hstopped hl, runBlock_opening (hstop.trans hstopped) hl']
      refine Follows.andThen ?_ (fun t t' ht => ih _ hlength.1 ht hbehind)
        (printed_runBlock stop _)
      exact h.follows_runChosen hbranches
        (fun branch hm _ _ _ ht hbody => ih _ (hlength.2 branch hm) ht hbody) (h.check hs)
    | statement hi hstopped hl =>
      have hl' : ∀ guard, Header.ofText? line'.text ≠ some (.opening guard) := by
        rwa [h.text hline]
      rw [runBlock_statement hi hstopped hl,
        runBlock_statement (hsignificant.trans hi) (hstop.trans hstopped) hl', h.text hline]
      exact (h.execute _ (h.visit (h.check hs) hline)).andThen
        (fun t t' ht => ih rest (Nat.le_refl _) ht hrest) (printed_runBlock stop _)

end Lockstep

end Autograder.Guest
