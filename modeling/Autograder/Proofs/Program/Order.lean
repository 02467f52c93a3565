import Autograder.Proofs.Program.Moments
import Autograder.Proofs.Program.Significant

/-!
# The order of the lines

No line of a program acts twice, and lines act in the order in which they stand. A statement acts by
being executed, a header by the evaluation of its guard. So a run is no longer than its program: it
prints at most one line for every line that acts, and reads at most one.

Blocks are found while a program runs, and what is run behind a chain is what its branches have left
over. The order rests on one fact about that: the branches of a chain and the lines behind it,
written one after another, are the lines of the block again (`lines_chain`). Of the branches, some
headers act and then one body, all of them in this order, and then what stands behind.

## Main definitions

* `State.Acted` — the state after these places have acted
* `ActedIn` — some of these lines have acted, in order

## Main results

* `lines_chain` — a chain leaves nothing out and nothing twice
* `actedIn_runBlock` — a block acts in order
* `runProgram_inOrder` — every run acts in order, and is no longer than its program
-/

namespace Autograder.Guest

/-! ### The lines of a chain -/

/-- The header of a branch and its body. -/
def Branch.lines (branch : Branch) : List Line :=
  branch.line :: branch.body

theorem lines_furtherBranches (base : Nat) (lines : List Line) :
    (furtherBranches base lines).1.flatMap Branch.lines ++ (furtherBranches base lines).2
      = lines := by
  induction lines using block_induction with
  | nil =>
    rw [furtherBranches_nil]
    rfl
  | cons line rest ih =>
    have hbody : bodyOf base rest ++ behindBody base rest = rest := List.takeWhile_append_dropWhile
    rcases continues_cases base line with ⟨hi, guard, hl⟩ | ⟨hi, hl⟩ | hstop
    · have hmore := ih _ (length_behindBody_le base rest)
      rw [furtherBranches_alternative hi hl, List.flatMap_cons, List.append_assoc, hmore,
        Branch.lines, List.cons_append, hbody]
    · rw [furtherBranches_otherwise hi hl, List.flatMap_singleton, Branch.lines, List.cons_append,
        hbody]
    · rw [furtherBranches_stop hstop]
      rfl

/-- **A chain leaves nothing out and nothing twice.** Its branches and the lines behind it are the
header and the lines that followed it. -/
theorem lines_chain (header : Line) (guard : List Char) (rest : List Line) :
    (chain header guard rest).1.flatMap Branch.lines ++ (chain header guard rest).2
      = header :: rest := by
  rw [chain, List.flatMap_cons, List.append_assoc, lines_furtherBranches, Branch.lines,
    List.cons_append]
  exact congrArg _ List.takeWhile_append_dropWhile

/-- The run goes on behind a chain at a later place of the block, or at its end. -/
theorem chain_eq_drop (header : Line) (guard : List Char) (rest : List Line) :
    ∃ n, 0 < n ∧ n ≤ (header :: rest).length ∧
      (chain header guard rest).2 = (header :: rest).drop n := by
  have hlines := lines_chain header guard rest
  refine ⟨((chain header guard rest).1.flatMap Branch.lines).length, ?_, ?_, ?_⟩
  · rw [chain, List.flatMap_cons, Branch.lines]
    simp
  · rw [← hlines, List.length_append]
    exact Nat.le_add_right _ _
  · rw [← hlines, List.drop_left]

/-! ### What acts -/

/-- How many lines have been printed and read. -/
def State.traffic (s : State) : Nat :=
  s.printed.length + s.cursor

/-- A statement prints one line or reads one, or neither. -/
theorem traffic_execute (statement : Statement) (s : State) :
    (statement.execute s).state.traffic ≤ s.traffic + 1 := by
  have hvalue : ∀ {α : Type} {t : State} (v : Except Fault α) {next : α → Ending},
      t.traffic ≤ s.traffic + 1 → (∀ a, (next a).state.traffic ≤ s.traffic + 1) →
        (t.withValue v next).state.traffic ≤ s.traffic + 1 :=
    fun v _ ht hnext =>
      State.KeptByStatements.withValue (P := fun r => r.traffic ≤ s.traffic + 1) ht v hnext
  have hreading : ∀ {next : State → String → Ending},
      (∀ t line, t.traffic ≤ s.traffic + 1 → (next t line).state.traffic ≤ s.traffic + 1) →
        (s.reading next).state.traffic ≤ s.traffic + 1 := by
    intro next hnext
    rw [State.reading]
    split
    · exact Nat.le_succ _
    · exact hnext _ _ (Nat.le_refl _)
  cases statement with
  | print arguments =>
    refine hvalue _ (Nat.le_succ _) fun line => ?_
    rw [State.print]
    split
    · exact Nat.le_of_eq (Nat.add_right_comm _ _ _)
    · exact Nat.le_succ _
  | readFields names kind =>
    refine hreading fun t line ht => ?_
    exact State.KeptByStatements.readFields (P := fun r => r.traffic ≤ s.traffic + 1)
      (fun _ _ hr => hr) names kind line ht
  | readNumber name kind => exact hreading fun t line ht => hvalue _ ht fun v => ht
  | readLine name trimmed => exact hreading fun t line ht => ht
  | assign name op expression =>
    cases op with
    | none => exact hvalue _ (Nat.le_succ _) fun v => Nat.le_succ _
    | some op =>
      refine hvalue _ (Nat.le_succ _) fun v => ?_
      split
      · exact Nat.le_succ _
      · exact hvalue _ (Nat.le_succ _) fun new => Nat.le_succ _
  | ignored => exact Nat.le_succ _

/-- The second state is the first after these places have acted, in this order. For each of them at
most one line was printed or read. -/
structure State.Acted (places : List Nat) (s s' : State) : Prop where
  visited : s'.visited = places.reverse ++ s.visited
  traffic : s'.traffic ≤ s.traffic + places.length

namespace State.Acted

variable {s s' s'' : State} {places more : List Nat}

theorem refl (s : State) : Acted [] s s :=
  ⟨rfl, Nat.le_refl _⟩

theorem trans (h : Acted places s s') (h' : Acted more s' s'') : Acted (places ++ more) s s'' := by
  refine ⟨?_, ?_⟩
  · rw [h'.visited, h.visited, List.reverse_append, List.append_assoc]
  · have hfirst := h.traffic
    have hsecond := h'.traffic
    rw [List.length_append]
    omega

end State.Acted

/-- An evaluated guard acts. -/
theorem acted_visit (s : State) (line : Line) : s.Acted [line.number] (s.visit line) :=
  ⟨rfl, Nat.le_succ _⟩

/-- An executed statement acts. -/
theorem acted_execute (statement : Statement) (s : State) (line : Line) :
    s.Acted [line.number] (statement.execute (s.check.visit line)).state :=
  ⟨visited_execute statement _, traffic_execute statement _⟩

/-! ### Lines that act in order -/

/-- Between the two states some of the lines have acted, each once and in order, and no others. -/
def ActedIn (lines : List Line) (s s' : State) : Prop :=
  ∃ places, places.Sublist (lines.map Line.number) ∧ s.Acted places s'

namespace ActedIn

variable {lines more : List Line} {s s' s'' : State}

theorem refl (lines : List Line) (s : State) : ActedIn lines s s :=
  ⟨[], List.nil_sublist _, .refl s⟩

theorem mono (h : ActedIn lines s s') (hsub : lines.Sublist more) : ActedIn more s s' := by
  obtain ⟨places, hplaces, hacted⟩ := h
  exact ⟨places, hplaces.trans (hsub.map _), hacted⟩

/-- First some of the former lines, then some of the latter. -/
theorem append (h : ActedIn lines s s') (h' : ActedIn more s' s'') :
    ActedIn (lines ++ more) s s'' := by
  obtain ⟨places, hplaces, hacted⟩ := h
  obtain ⟨places', hplaces', hacted'⟩ := h'
  refine ⟨places ++ places', ?_, hacted.trans hacted'⟩
  rw [List.map_append]
  exact hplaces.append hplaces'

/-- To look whether the run is told to stop is no act. -/
theorem of_check (h : ActedIn lines s.check s') : ActedIn lines s s' := by
  obtain ⟨places, hplaces, hvisited, htraffic⟩ := h
  exact ⟨places, hplaces, hvisited, htraffic⟩

theorem andThen {e : Ending} {next : State → Ending} (h : ActedIn lines s e.state)
    (hnext : ∀ t, ActedIn more t (next t).state) :
    ActedIn (lines ++ more) s (e.andThen next).state := by
  obtain ⟨t, fault⟩ := e
  cases fault with
  | none => exact h.append (hnext t)
  | some f => exact h.mono (List.sublist_append_left _ _)

end ActedIn

/-- Guards act up to the branch that is chosen, then its body does. -/
theorem actedIn_runChosen {stop : StopFrom} {branches : List Branch}
    (hrun : ∀ branch ∈ branches, ∀ s, ActedIn branch.body s (runBlock stop s branch.body).state)
    (s : State) :
    ActedIn (branches.flatMap Branch.lines) s (runChosen stop (choose s branches)).state := by
  induction branches generalizing s with
  | nil =>
    rw [choose, runChosen, runBlock_nil]
    exact .refl _ s
  | cons branch branches ih =>
    obtain ⟨line, guard, body⟩ := branch
    have hhead := hrun _ List.mem_cons_self
    rw [List.flatMap_cons, Branch.lines]
    cases guard with
    | none =>
      rw [choose_otherwise]
      exact (hhead s).mono ((List.sublist_cons_self line body).trans (List.sublist_append_left _ _))
    | some guard =>
      have hvisit : ActedIn [line] s (s.visit line) :=
        ⟨_, List.Sublist.refl _, acted_visit s line⟩
      rw [choose_guarded]
      cases evaluateCondition s.vars guard with
      | error f => exact hvisit.mono (List.sublist_append_left [line] _)
      | ok holds =>
        cases holds with
        | true =>
          have hbody := hvisit.append (hhead (s.visit line))
          exact hbody.mono (List.sublist_append_left (line :: body) _)
        | false =>
          have hmore := ih (fun b hm => hrun b (List.mem_cons_of_mem _ hm)) (s.visit line)
          exact (hvisit.append hmore).mono ((List.sublist_append_right body _).cons_cons line)

/-- **A block acts in order**, wherever in it the run ends. -/
theorem actedIn_runBlock (stop : StopFrom) (lines : List Line) :
    ∀ s, ActedIn lines s (runBlock stop s lines).state := by
  induction lines using block_induction with
  | nil =>
    intro s
    rw [runBlock_nil]
    exact .refl _ s
  | cons line rest ih =>
    intro s
    cases firstLine stop s line with
    | skipped hi =>
      rw [runBlock_skipped hi]
      exact (ih rest (Nat.le_refl _) s).mono (List.sublist_cons_self line rest)
    | stopped hi hs =>
      rw [runBlock_stopped hi hs]
      exact (ActedIn.refl _ s.check).of_check
    | @opening guard hs hl =>
      obtain ⟨hbehind, hbodies⟩ := length_chain line guard rest
      rw [runBlock_opening hs hl, ← lines_chain line guard rest]
      have hchosen := actedIn_runChosen (fun branch hm => ih _ (hbodies branch hm)) s.check
      exact hchosen.of_check.andThen (ih _ hbehind)
    | statement hi hs hl =>
      rw [runBlock_statement hi hs hl]
      have hacted : ActedIn [line] s ((Statement.ofText line.text).execute
          (s.check.visit line)).state := ⟨_, List.Sublist.refl _, acted_execute _ s line⟩
      exact hacted.andThen (ih rest (Nat.le_refl _))

/-! ### Whole programs -/

theorem map_number_numberFrom (n : Nat) (written : List (List Char)) :
    (Line.numberFrom n written).map Line.number = List.range' n written.length := by
  induction written generalizing n with
  | nil => rfl
  | cons w written ih =>
    rw [Line.numberFrom, List.map_cons, ih, List.length_cons, List.range'_succ]
    rfl

/-- The significant lines stand at ever greater places. -/
theorem pairwise_number_ofProgram (code : List Char) :
    ((Line.ofProgram code).map Line.number).Pairwise (· < ·) := by
  have hall : ((Line.numberFrom 0 (Text.lines code)).map Line.number).Pairwise (· < ·) := by
    rw [map_number_numberFrom]
    exact List.pairwise_lt_range'
  exact hall.sublist (List.filter_sublist.map _)

/-- Only these lines have acted so far, each at most once and in order, and no more has been printed
and read than they could. -/
structure State.InOrder (lines : List Line) (s : State) : Prop where
  visited : s.visited.reverse.Sublist (lines.map Line.number)
  increasing : s.visited.reverse.Pairwise (· < ·)
  acts_le : s.visited.length ≤ lines.length
  printed_le : s.printed.length ≤ lines.length
  cursor_le : s.cursor ≤ lines.length

/-- What a run has done at its end bounds what it had done before. -/
theorem kept_before (s : State) : State.Kept fun t =>
    s.visited <:+ t.visited ∧ s.printed.length ≤ t.printed.length ∧ s.cursor ≤ t.cursor where
  bind _ _ h := h
  print {t} line h := by
    rw [State.print]
    split
    · exact ⟨h.1, Nat.le_succ_of_le h.2.1, h.2.2⟩
    · exact h
  read _ h := ⟨h.1, h.2.1, Nat.le_succ_of_le h.2.2⟩
  check h := h
  visit line h := ⟨h.1.trans (List.suffix_cons _ _), h.2⟩

theorem inOrder_runProgram (stop : StopFrom) (code input : List Char) :
    (runProgram stop code input).state.InOrder (Line.ofProgram code) := by
  obtain ⟨places, hplaces, hacted⟩ := actedIn_runBlock stop (Line.ofProgram code)
    (State.initial ((Text.lines input).map String.ofList))
  rw [← runProgram_eq] at hacted
  have hvisited : (runProgram stop code input).state.visited = places.reverse :=
    hacted.visited.trans (List.append_nil _)
  have htraffic : (runProgram stop code input).state.printed.length
      + (runProgram stop code input).state.cursor ≤ 0 + places.length := hacted.traffic
  have hlength := hplaces.length_le
  rw [List.length_map] at hlength
  refine ⟨?_, ?_, ?_, ?_, ?_⟩
  · rwa [hvisited, List.reverse_reverse]
  · rw [hvisited, List.reverse_reverse]
    exact (pairwise_number_ofProgram code).sublist hplaces
  · rwa [hvisited, List.length_reverse]
  · omega
  · omega

/-- **Every line acts at most once, in order.** This holds at every moment of every run, and every
run comes to an end. It acts, prints and reads at most as often as there are significant lines.
Behind a chain it goes on at a later place of the block or at its end. -/
theorem runProgram_inOrder (stop : StopFrom) (code input : List Char) :
    (Moment.start code input).Reaches stop (.ended (runProgram stop code input)) ∧
    (∀ m, (Moment.start code input).Reaches stop m → m.state.InOrder (Line.ofProgram code)) ∧
    ∀ header guard rest, ∃ n, 0 < n ∧ n ≤ (header :: rest).length ∧
      (chain header guard rest).2 = (header :: rest).drop n := by
  refine ⟨Moment.reaches_runProgram stop code input, fun m hm => ?_, chain_eq_drop⟩
  have hend := inOrder_runProgram stop code input
  obtain ⟨hvisited, hprinted, hcursor⟩ :=
    hm.reaches_end.kept (kept_before m.state) ⟨List.suffix_refl _, Nat.le_refl _, Nat.le_refl _⟩
  have hsub := (List.reverse_prefix.mpr hvisited).sublist
  exact {
    visited := hsub.trans hend.visited
    increasing := hend.increasing.sublist hsub
    acts_le := Nat.le_trans hvisited.length_le hend.acts_le
    printed_le := Nat.le_trans hprinted hend.printed_le
    cursor_le := Nat.le_trans hcursor hend.cursor_le }

/-- A chain whose second branch is taken, and a comment in it. -/
def skippingProgram : String :=
  "if 0:\n    print(1)\nelse:\n    # two\n    print(2)\nprint(3)"

/-- The guard acts, then the second body, then the last line. -/
theorem inOrder_skippingProgram :
    (Moment.start skippingProgram.toList []).Reaches none
        (.ended (runProgram none skippingProgram.toList [])) ∧
      (runProgram none skippingProgram.toList []).state.InOrder
        (Line.ofProgram skippingProgram.toList) ∧
      (runProgram none skippingProgram.toList []).state.visited = [5, 4, 0] := by
  have hend := (runProgram_inOrder none skippingProgram.toList []).1
  refine ⟨hend, (runProgram_inOrder none skippingProgram.toList []).2.1 _ hend, ?_⟩
  decide +kernel

end Autograder.Guest
