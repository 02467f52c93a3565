import Autograder.Proofs.Program.Lockstep

/-!
# How a run reads its input

A run reads the lines of its input in order and each once. It does not see the lines that it has
not read yet: with more lines behind its input it does the same up to the moment when it would have
found none. If that moment never comes, the further lines make no difference.

## Main definitions

* `State.supply` — more lines behind those that are left
* `Statement.reads`, `State.ReadsInOrder` — which statements read, and how they do

## Main results

* `lockstep_supply` — runs on an input and on a longer one are in lockstep until a read fails
* `interpret_of_more_input` — unread input does not matter
-/

namespace Autograder.Guest

/-! ### More input -/

/-- The state with more lines of input behind those that are left. -/
def State.supply (s : State) (more : List String) : State :=
  { s with unread := s.unread ++ more }

/-- The ending with more lines of input left. -/
def Ending.supply (e : Ending) (more : List String) : Ending :=
  ⟨e.state.supply more, e.fault⟩

section Supply

variable {more : List String} {s : State}

theorem supply_print (line : String) :
    (s.supply more).print line = (s.print line).supply more := by
  simp only [State.print, apply_ite (Ending.supply · more)]
  rfl

theorem supply_withValue {α : Type} (v : Except Fault α) {next next' : α → Ending}
    (h : ∀ a, next' a = (next a).supply more) :
    (s.supply more).withValue v next' = (s.withValue v next).supply more := by
  cases v with
  | ok a => exact h a
  | error f => rfl

theorem supply_bindFields (kind : NumberKind) (fields : List (List Char × List Char)) :
    (s.supply more).bindFields kind fields = (s.bindFields kind fields).supply more := by
  induction fields generalizing s with
  | nil => rfl
  | cons field fields ih =>
    rw [State.bindFields, State.bindFields]
    exact supply_withValue _ fun v => @ih (s.bind field.1 v)

theorem supply_readFields (names : List (List Char)) (kind : NumberKind) (line : String) :
    (s.supply more).readFields names kind line = (s.readFields names kind line).supply more := by
  rw [State.readFields, State.readFields]
  split
  · rfl
  split
  · rfl
  · exact supply_bindFields kind _

end Supply

/-- The second state has these lines of input more. -/
abbrev Supplied (more : List String) (s s' : State) : Prop :=
  s' = s.supply more

/-- The runs part where the first finds no line. -/
abbrev FollowsSupplied (more : List String) (e e' : Ending) : Prop :=
  Follows (Supplied more) (· = .endOfInput) e e'

section Supply

variable {more : List String} {s : State}

theorem followsSupplied_of_eq {e e' : Ending} (h : e' = e.supply more) :
    FollowsSupplied more e e' := by
  subst h
  exact .together rfl rfl

/-- A read that fails may be one that finds a line, if there are more of them. -/
theorem followsSupplied_reading {next : State → String → Ending}
    (hnext : ∀ s line, next (s.supply more) line = (next s line).supply more)
    (hprinted : s.printed <:+ ((s.supply more).reading next).state.printed) :
    FollowsSupplied more (s.reading next) ((s.supply more).reading next) := by
  obtain ⟨vars, unread, cursor, printed, bytes, checks, visited⟩ := s
  cases unread with
  | nil => exact .apart rfl rfl hprinted
  | cons line unread =>
    exact followsSupplied_of_eq
      (hnext ⟨vars, unread, cursor + 1, printed, bytes, checks, visited⟩ line)

theorem followsSupplied_execute (statement : Statement) :
    FollowsSupplied more (statement.execute s) (statement.execute (s.supply more)) := by
  have hprinted := printed_execute statement (s.supply more)
  cases statement with
  | print arguments => exact followsSupplied_of_eq (supply_withValue _ supply_print)
  | readFields names kind =>
    rw [Statement.execute] at hprinted ⊢
    exact followsSupplied_reading (fun s line => supply_readFields names kind line) hprinted
  | readNumber name kind =>
    rw [Statement.execute] at hprinted ⊢
    exact followsSupplied_reading (fun s line => supply_withValue _ fun _ => rfl) hprinted
  | readLine name trimmed =>
    rw [Statement.execute] at hprinted ⊢
    exact followsSupplied_reading (fun _ _ => rfl) hprinted
  | assign name op expression =>
    apply followsSupplied_of_eq
    cases op with
    | none => exact supply_withValue _ fun _ => rfl
    | some op =>
      refine supply_withValue _ fun v => ?_
      rw [show (s.supply more).vars = s.vars from rfl]
      split
      · rfl
      · exact supply_withValue _ fun _ => rfl
  | ignored => exact followsSupplied_of_eq rfl

end Supply

/-- **Runs on an input and on a longer one are in lockstep** until the first finds no line. -/
theorem lockstep_supply (more : List String) (stop : StopFrom) :
    Lockstep Eq (Supplied more) (· = .endOfInput) stop where
  text := by rintro _ _ rfl; rfl
  indent := by rintro _ _ _ _ rfl rfl; rfl
  vars := by rintro s _ rfl; rfl
  isStopped := by rintro s _ rfl; cases stop <;> rfl
  check := by rintro s _ rfl; rfl
  visit := by rintro s _ line _ rfl rfl; rfl
  execute := by rintro s _ statement rfl; exact followsSupplied_execute statement

theorem followsSupplied_runProgram (stop : StopFrom) (code : List Char)
    {input input' : List Char} {more : List (List Char)}
    (h : Text.lines input' = Text.lines input ++ more) :
    FollowsSupplied (more.map String.ofList) (runProgram stop code input)
      (runProgram stop code input') := by
  refine (lockstep_supply _ stop).follows_runBlock _ ?_ (List.forall₂_same.mpr fun _ _ => rfl)
  rw [Supplied, h, List.map_append]
  rfl

/-! ### The cursor -/

/-- What is left of the input is what stands behind the cursor. -/
structure State.ReadsFrom (input : List String) (s : State) : Prop where
  cursor_le : s.cursor ≤ input.length
  unread : s.unread = input.drop s.cursor

theorem kept_readsFrom (input : List String) : State.Kept (State.ReadsFrom input) where
  bind _ _ h := ⟨h.cursor_le, h.unread⟩
  print {s} line h := by
    rw [State.print]
    split <;> exact ⟨h.cursor_le, h.unread⟩
  read {s line rest} hunread h := by
    have hdrop : input.drop s.cursor = line :: rest := by rw [← h.unread, hunread]
    have hlength := congrArg List.length hdrop
    rw [List.length_drop, List.length_cons] at hlength
    refine ⟨?_, ?_⟩
    · change s.cursor + 1 ≤ input.length
      omega
    · change rest = input.drop (s.cursor + 1)
      rw [← List.tail_drop, hdrop, List.tail_cons]
  check h := ⟨h.cursor_le, h.unread⟩
  visit _ h := ⟨h.cursor_le, h.unread⟩

/-- The statement reads a line. -/
def Statement.reads : Statement → Bool
  | readFields _ _ | readNumber _ _ | readLine _ _ => true
  | print _ | assign _ _ _ | ignored => false

/-- Every read takes the line of the input at the cursor and moves the cursor behind it. If there is
no such line, it fails and moves nothing. -/
structure State.ReadsInOrder (input : List String) (s : State) : Prop where
  cursor_le : s.cursor ≤ input.length
  success : ∀ line, input[s.cursor]? = some line → ∀ next,
    s.reading next =
      next { s with unread := input.drop (s.cursor + 1), cursor := s.cursor + 1 } line
  failure : input[s.cursor]? = none → ∀ next, s.reading next = ⟨s, some .endOfInput⟩
  /-- A statement moves the cursor at most once, and only by a read. -/
  execute : ∀ statement : Statement, (statement.execute s).state.cursor =
    s.cursor + if statement.reads ∧ s.cursor < input.length then 1 else 0

namespace State.ReadsFrom

variable {input : List String} {s : State} (h : s.ReadsFrom input)

include h

theorem reading_of_some {line : String} (hline : input[s.cursor]? = some line)
    (next : State → String → Ending) :
    s.reading next =
      next { s with unread := input.drop (s.cursor + 1), cursor := s.cursor + 1 } line := by
  obtain ⟨hlt, rfl⟩ := List.getElem?_eq_some_iff.mp hline
  rw [reading, h.unread, List.drop_eq_getElem_cons hlt]

theorem reading_of_none (hline : input[s.cursor]? = none) (next : State → String → Ending) :
    s.reading next = ⟨s, some .endOfInput⟩ := by
  rw [reading, h.unread, List.drop_eq_nil_of_le (List.getElem?_eq_none_iff.mp hline)]

/-- A read moves the cursor once if what follows it moves it no further. -/
theorem cursor_reading {next : State → String → Ending}
    (hnext : ∀ s line, (next s line).state.cursor = s.cursor) :
    (s.reading next).state.cursor = s.cursor + if s.cursor < input.length then 1 else 0 := by
  by_cases hlt : s.cursor < input.length
  · rw [h.reading_of_some (List.getElem?_eq_getElem hlt), hnext, if_pos hlt]
  · rw [h.reading_of_none (List.getElem?_eq_none_iff.mpr (Nat.le_of_not_lt hlt)), if_neg hlt]
    rfl

theorem cursor_execute (statement : Statement) :
    (statement.execute s).state.cursor =
      s.cursor + if statement.reads ∧ s.cursor < input.length then 1 else 0 := by
  have hvalue : ∀ {α : Type} (t : State) (v : Except Fault α) {next : α → Ending},
      (∀ a, (next a).state.cursor = t.cursor) → (t.withValue v next).state.cursor = t.cursor :=
    fun t v _ hnext =>
      KeptByStatements.withValue (P := fun r => r.cursor = t.cursor) rfl v hnext
  cases statement with
  | print arguments =>
    refine hvalue s _ fun line => ?_
    rw [print]
    split <;> rfl
  | readFields names kind =>
    simpa [Statement.reads, Statement.execute] using h.cursor_reading fun t line =>
      KeptByStatements.readFields (P := fun r => r.cursor = t.cursor) (fun _ _ hs => hs) names kind
        line rfl
  | readNumber name kind =>
    simpa [Statement.reads, Statement.execute] using h.cursor_reading fun t line =>
      hvalue t _ fun v => rfl
  | readLine name trimmed =>
    simpa [Statement.reads, Statement.execute] using h.cursor_reading fun t line => rfl
  | assign name op expression =>
    cases op with
    | none => exact hvalue s _ fun v => rfl
    | some op =>
      refine hvalue s _ fun v => ?_
      split
      · rfl
      · exact hvalue s _ fun new => rfl
  | ignored => rfl

theorem readsInOrder : s.ReadsInOrder input :=
  ⟨h.cursor_le, fun _ hline => h.reading_of_some hline, h.reading_of_none, h.cursor_execute⟩

end State.ReadsFrom

/-! ### Whole runs -/

/-- **Unread input does not matter.** The second input has lines behind those of the first. If the
run on the first does not find its input at an end, the run on the second is the same. If it does,
it has printed the first lines of what the other prints. And at every moment of the run on the first
input, whichever line acts then, the input is read in order. -/
theorem interpret_of_more_input (stop : StopFrom) (code : String) {input input' : String}
    {more : List (List Char)}
    (h : Text.lines input'.toList = Text.lines input.toList ++ more) :
    ((runProgram stop code.toList input.toList).fault ≠ some .endOfInput →
      interpret stop code input' = interpret stop code input) ∧
    ((runProgram stop code.toList input.toList).fault = some .endOfInput →
      (runProgram stop code.toList input.toList).state.output <+:
        (runProgram stop code.toList input'.toList).state.output) ∧
    ∀ m, (Moment.start code.toList input.toList).Reaches stop m → ∀ line,
      m.state.ReadsInOrder ((Text.lines input.toList).map String.ofList) ∧
      (m.state.check.visit line).ReadsInOrder ((Text.lines input.toList).map String.ofList) := by
  have hfollows := followsSupplied_runProgram stop code.toList h
  refine ⟨fun hfault => ?_, fun hfault => ?_, fun m hm line => ?_⟩
  · cases hfollows with
    | together state fault =>
      rw [interpret, interpret, Ending.outcome, Ending.outcome, fault, state]
      rfl
    | apart fault parts printed => exact absurd (parts ▸ fault) hfault
  · cases hfollows with
    | together state fault =>
      rw [state]
      exact List.prefix_refl _
    | apart fault parts printed => exact List.reverse_prefix.mpr printed
  · have hkept := kept_readsFrom ((Text.lines input.toList).map String.ofList)
    have hstart : State.ReadsFrom ((Text.lines input.toList).map String.ofList)
        (Moment.start code.toList input.toList).state := ⟨Nat.zero_le _, rfl⟩
    have hmoment := hm.kept hkept hstart
    exact ⟨hmoment.readsInOrder, (hkept.visit line (hkept.check hmoment)).readsInOrder⟩

/-- Reads two lines and prints each. -/
def echoTwice : String :=
  "n = int(input())\nprint(n)\nm = int(input())\nprint(m)"

/-- With one line of input the second read fails. With two the run goes on, and a third makes no
difference. -/
theorem interpret_echoTwice :
    (Text.lines "1\n2".toList = Text.lines "1".toList ++ [['2']] ∧
      (runProgram none echoTwice.toList "1".toList).fault = some .endOfInput ∧
      (runProgram none echoTwice.toList "1".toList).state.output <+:
        (runProgram none echoTwice.toList "1\n2".toList).state.output) ∧
    (Text.lines "1\n2\n3".toList = Text.lines "1\n2".toList ++ [['3']] ∧
      (runProgram none echoTwice.toList "1\n2".toList).fault ≠ some .endOfInput ∧
      interpret none echoTwice "1\n2\n3" = interpret none echoTwice "1\n2") := by
  have hshort : Text.lines "1\n2".toList = Text.lines "1".toList ++ [['2']] := by decide
  have hfault : (runProgram none echoTwice.toList "1".toList).fault = some .endOfInput := by
    decide +kernel
  have hlong : Text.lines "1\n2\n3".toList = Text.lines "1\n2".toList ++ [['3']] := by decide
  have hended : (runProgram none echoTwice.toList "1\n2".toList).fault ≠ some .endOfInput := by
    decide +kernel
  exact ⟨⟨hshort, hfault, (interpret_of_more_input none echoTwice hshort).2.1 hfault⟩,
    hlong, hended, (interpret_of_more_input none echoTwice hlong).1 hended⟩

end Autograder.Guest
