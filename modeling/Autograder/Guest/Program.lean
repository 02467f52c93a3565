import Autograder.Guest.Machine

/-!
# Programs

A program is run straight from its lines; its blocks are found by their indentation while it runs.
The body of a header is the lines behind it that are indented further, with all blank lines and
comments among them. A chain of branches is a header with its body, followed at the same indentation
by further headers with theirs. Of a chain at most one body runs, and after it the run goes on
behind the whole chain. Blank lines and comments are passed over.

A run can be told to stop. It looks for that before each statement and each chain, and the moment
is modelled as the number of the look from which on it is told so.
-/

namespace Autograder.Guest

/-! ## Chains -/

/-- A branch of a chain: its header line, its guard unless it is the last branch that has none, and
its body. -/
structure Branch where
  line : Line
  guard : Option (List Char)
  body : List Line
deriving DecidableEq

/-- The line can stand in the body of a header that is indented by `base`. It is indented further,
or it is blank or a comment, whose indentation does not matter. -/
def Line.isWithin (base : Nat) (line : Line) : Bool :=
  !line.isSignificant || base < line.indent

/-- The lines at the start that are within a body. -/
def bodyOf (base : Nat) (lines : List Line) : List Line :=
  lines.takeWhile (Line.isWithin base)

/-- The lines from the first that is not within it. -/
def behindBody (base : Nat) (lines : List Line) : List Line :=
  lines.dropWhile (Line.isWithin base)

theorem length_bodyOf_le (base : Nat) (lines : List Line) :
    (bodyOf base lines).length ≤ lines.length :=
  (List.takeWhile_sublist _).length_le

theorem length_behindBody_le (base : Nat) (lines : List Line) :
    (behindBody base lines).length ≤ lines.length :=
  (List.dropWhile_sublist _).length_le

/-- The further branches of a chain, and the lines behind it. -/
def furtherBranches (base : Nat) (lines : List Line) : List Branch × List Line :=
  match lines with
  | [] => ([], [])
  | line :: rest =>
    if line.indent = base then
      match Header.ofText? line.text with
      | some (.alternative guard) =>
        have := length_behindBody_le base rest
        let more := furtherBranches base (behindBody base rest)
        (⟨line, some guard, bodyOf base rest⟩ :: more.1, more.2)
      | some .otherwise => ([⟨line, none, bodyOf base rest⟩], behindBody base rest)
      | _ => ([], line :: rest)
    else ([], line :: rest)
termination_by lines.length
decreasing_by simp; omega

/-- The branches of the chain that a header opens, and the lines behind it. -/
def chain (header : Line) (guard : List Char) (rest : List Line) : List Branch × List Line :=
  let more := furtherBranches header.indent (behindBody header.indent rest)
  (⟨header, some guard, bodyOf header.indent rest⟩ :: more.1, more.2)

/-- The branch whose body runs: the first whose guard holds. Guards behind it are not evaluated.
The state notes the guards that were, and a guard may end in a fault. -/
def choose (s : State) : List Branch → State × Except Fault (List Line)
  | [] => (s, .ok [])
  | branch :: rest =>
    match branch.guard with
    | none => (s, .ok branch.body)
    | some guard =>
      match evaluateCondition s.vars guard with
      | .error f => (s.visit branch.line, .error f)
      | .ok true => (s.visit branch.line, .ok branch.body)
      | .ok false => choose (s.visit branch.line) rest

theorem length_furtherBranches (base : Nat) (lines : List Line) :
    (furtherBranches base lines).2.length ≤ lines.length ∧
      ∀ branch ∈ (furtherBranches base lines).1, branch.body.length < lines.length := by
  fun_induction furtherBranches base lines with
  | case1 => simp
  | case2 line rest hi guard hg hl more ih =>
    have hb := length_bodyOf_le base rest
    refine ⟨by simp [more]; omega, ?_⟩
    intro branch hm
    rcases List.mem_cons.1 hm with rfl | hm
    · simp only [List.length_cons]
      omega
    · have := ih.2 branch hm
      simp only [List.length_cons]
      omega
  | case3 line rest =>
    have hb := length_bodyOf_le base rest
    have hd := length_behindBody_le base rest
    simp
    omega
  | case4 => simp
  | case5 => simp

theorem length_chain (header : Line) (guard : List Char) (rest : List Line) :
    (chain header guard rest).2.length ≤ rest.length ∧
      ∀ branch ∈ (chain header guard rest).1, branch.body.length ≤ rest.length := by
  have hb := length_bodyOf_le header.indent rest
  have hd := length_behindBody_le header.indent rest
  have hf := length_furtherBranches header.indent (behindBody header.indent rest)
  refine ⟨Nat.le_trans hf.1 hd, ?_⟩
  intro branch hm
  rcases List.mem_cons.1 hm with rfl | hm
  · exact hb
  · have := hf.2 branch hm
    omega

theorem length_of_choose {s : State} {branches : List Branch} {body : List Line} {n : Nat}
    (hn : ∀ branch ∈ branches, branch.body.length ≤ n)
    (h : (choose s branches).2 = .ok body) : body.length ≤ n := by
  fun_induction choose s branches with
  | case1 => simp_all
  | case2 => simp_all
  | case3 => simp_all
  | case4 => simp_all
  | case5 s branch rest guard hg he ih =>
    exact ih (fun b hb => hn b (List.mem_cons_of_mem _ hb)) h

/-! ## Runs -/

/-- The run is told to stop from the look with this number on. -/
abbrev StopFrom := Option Nat

/-- The look that the state is about to take finds that the run is told to stop. -/
def State.isStopped (stop : StopFrom) (s : State) : Bool :=
  match stop with
  | none => false
  | some k => k ≤ s.checks

/-- Notes that the run has looked. -/
def State.check (s : State) : State :=
  { s with checks := s.checks + 1 }

/-- Runs a block of lines, passing over those that are blank or comments. -/
def runBlock (stop : StopFrom) (s : State) (lines : List Line) : Ending :=
  match lines with
  | [] => ⟨s, none⟩
  | line :: rest =>
    if !line.isSignificant then runBlock stop s rest
    else if s.isStopped stop then ⟨s.check, some .cancelled⟩
    else
      match Header.ofText? line.text with
      | some (.opening guard) =>
        match h : choose s.check (chain line guard rest).1 with
        | (s', .error f) => ⟨s', some f⟩
        | (s', .ok body) =>
          have := length_of_choose (length_chain line guard rest).2 (congrArg Prod.snd h)
          have := (length_chain line guard rest).1
          let ending := runBlock stop s' body
          match ending.fault with
          | some _ => ending
          | none => runBlock stop ending.state (chain line guard rest).2
      | _ =>
        let ending := (Statement.ofText line.text).execute (s.check.visit line)
        match ending.fault with
        | some _ => ending
        | none => runBlock stop ending.state rest
termination_by lines.length
decreasing_by
  · exact Nat.lt_succ_self _
  · exact Nat.lt_succ_of_le ‹_›
  · exact Nat.lt_succ_of_le ‹_›
  · exact Nat.lt_succ_self _

/-- What a run leaves behind: the printed lines joined by line feeds, also those printed before a
fault, the message of the fault, and an exit code. -/
structure Outcome where
  output : String
  error : Option String
  exitCode : Int
deriving DecidableEq

/-- The exit code is zero. -/
def Outcome.isSuccess (o : Outcome) : Bool :=
  o.exitCode == 0

/-- What is left of a run that ended. -/
def Ending.outcome (ending : Ending) : Outcome :=
  ⟨"\n".intercalate ending.state.output, ending.fault.map Fault.message,
    if ending.fault.isNone then 0 else 1⟩

/-- The run of a program text on an input text. -/
def runProgram (stop : StopFrom) (code input : List Char) : Ending :=
  runBlock stop (State.initial ((Text.lines input).map String.ofList)) (Line.ofCode code)

/-- Runs a program to its end. -/
def interpret (stop : StopFrom) (code input : String) : Outcome :=
  (runProgram stop code.toList input.toList).outcome

end Autograder.Guest
