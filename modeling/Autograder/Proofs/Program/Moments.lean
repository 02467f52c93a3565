import Autograder.Proofs.Program.Run
import Mathlib.Logic.Relation

/-!
# The moments of a run

`runBlock` says how a run ends and nothing about the way there. Here a run is taken apart into
moments: the state at a time, and the blocks with the lines that are left then, the innermost block
first. One step executes one statement, or evaluates the guards of one chain and enters the body
that is chosen, or passes over a line that is blank or a comment, or leaves a block that is done.
`reaches_runBlock` says that the steps end where `runBlock` ends, so what holds at every moment
holds of the run.

Whether a property holds at every moment is a question about single acts. All that a statement does
to a state is to bind a name, to print a line or to read one; a property that survives these three
is called `KeptByStatements`. The run itself looks whether it is told to stop, and notes the lines
that act. A property that survives these two as well is called `Kept`.

## Main definitions

* `State.KeptByStatements`, `State.Kept` — properties that every act of a statement, or of a whole
  run, leaves true
* `Moment`, `Moment.step`, `Moment.Reaches` — runs, one step at a time

## Main results

* `Moment.reaches_runBlock`, `Moment.reaches_runProgram` — the steps of a run end where the run ends
* `Moment.Reaches.reaches_end` — every moment of a run comes before its end
* `Moment.Reaches.kept`, `State.Kept.runBlock` — a kept property holds at every moment and at the
  end
* `printed_runBlock` — what is printed stays printed
-/

namespace Autograder.Guest

/-! ### What an act leaves true -/

/-- Every act of a statement leaves the property true. -/
structure State.KeptByStatements (P : State → Prop) : Prop where
  bind : ∀ {s} name v, P s → P (s.bind name v)
  print : ∀ {s} line, P s → P (s.print line).state
  read : ∀ {s : State} {line rest}, s.unread = line :: rest → P s →
    P { s with unread := rest, cursor := s.cursor + 1 }

/-- Every act of a run leaves the property true. -/
structure State.Kept (P : State → Prop) : Prop extends State.KeptByStatements P where
  check : ∀ {s}, P s → P s.check
  visit : ∀ {s} line, P s → P (s.visit line)

namespace State.KeptByStatements

variable {P : State → Prop}

theorem withValue {α : Type} {s : State} (hs : P s) (v : Except Fault α) {next : α → Ending}
    (hnext : ∀ a, P (next a).state) : P (s.withValue v next).state := by
  cases v with
  | ok a => exact hnext a
  | error f => exact hs

theorem bindFields (hbind : ∀ {s : State} name v, P s → P (s.bind name v)) (kind : NumberKind)
    (fields : List (List Char × List Char)) {s : State} (hs : P s) :
    P (s.bindFields kind fields).state := by
  induction fields generalizing s with
  | nil => exact hs
  | cons field fields ih => exact withValue hs _ fun v => ih (hbind field.1 v hs)

theorem readFields (hbind : ∀ {s : State} name v, P s → P (s.bind name v))
    (names : List (List Char)) (kind : NumberKind) (line : String) {s : State} (hs : P s) :
    P (s.readFields names kind line).state := by
  rw [State.readFields]
  split
  · exact hs
  split
  · exact hs
  · exact bindFields hbind kind _ hs

variable (h : KeptByStatements P)

include h

theorem reading {s : State} (hs : P s) {next : State → String → Ending}
    (hnext : ∀ {t} line, P t → P (next t line).state) : P (s.reading next).state := by
  rw [State.reading]
  split
  · exact hs
  · rename_i line rest hunread
    exact hnext line (h.read hunread hs)

/-- A statement does nothing but bind, print and read. -/
theorem execute (statement : Statement) {s : State} (hs : P s) :
    P (statement.execute s).state := by
  cases statement with
  | print arguments => exact withValue hs _ fun line => h.print line hs
  | readFields names kind => exact h.reading hs fun line ht => readFields h.bind names kind line ht
  | readNumber name kind =>
    exact h.reading hs fun _ ht => withValue ht _ fun v => h.bind name v ht
  | readLine name trimmed => exact h.reading hs fun _ ht => h.bind name _ ht
  | assign name op expression =>
    cases op with
    | none => exact withValue hs _ fun v => h.bind name v hs
    | some op =>
      refine withValue hs _ fun v => ?_
      split
      · exact hs
      · exact withValue hs _ fun new => h.bind name new hs
  | ignored => exact hs

end State.KeptByStatements

/-- Choosing a branch only notes the guards that are evaluated. -/
theorem State.Kept.choose {P : State → Prop} (h : Kept P) (branches : List Branch) {s : State}
    (hs : P s) : P (choose s branches).1 := by
  fun_induction Guest.choose s branches with
  | case1 | case2 => exact hs
  | case3 | case4 => exact h.visit _ hs
  | case5 s branch rest guard hg he ih => exact ih (h.visit _ hs)

/-! ### Moments -/

/-- A run on its way: its state and the blocks whose lines are left, the innermost first. Or the
run at its end. -/
inductive Moment where
  | running (s : State) (blocks : List (List Line))
  | ended (e : Ending)

namespace Moment

def state : Moment → State
  | running s _ => s
  | ended e => e.state

/-- A part of the run has come to its ending. The blocks behind it are left, unless it ended in a
fault. -/
def behind (e : Ending) (blocks : List (List Line)) : Moment :=
  match e.fault with
  | none => running e.state blocks
  | some _ => ended e

@[simp] theorem state_behind (e : Ending) (blocks : List (List Line)) :
    (behind e blocks).state = e.state := by
  rw [behind]
  split <;> rfl

/-- The next moment. -/
def step (stop : StopFrom) : Moment → Moment
  | ended e => ended e
  | running s [] => ended ⟨s, none⟩
  | running s ([] :: blocks) => running s blocks
  | running s ((line :: rest) :: blocks) =>
    if !line.isSignificant then running s (rest :: blocks)
    else if s.isStopped stop then ended ⟨s.check, some .cancelled⟩
    else
      match Header.ofText? line.text with
      | some (.opening guard) =>
        match choose s.check (chain line guard rest).1 with
        | (s', .error f) => ended ⟨s', some f⟩
        | (s', .ok body) => running s' (body :: (chain line guard rest).2 :: blocks)
      | _ => behind ((Statement.ofText line.text).execute (s.check.visit line)) (rest :: blocks)

/-- The second moment comes after the first, or is the first. -/
def Reaches (stop : StopFrom) : Moment → Moment → Prop :=
  Relation.ReflTransGen fun m m' => m.step stop = m'

/-- The run of a program text on an input text, before its first line. -/
def start (code input : List Char) : Moment :=
  running (State.initial ((Text.lines input).map String.ofList)) [Line.ofCode code]

section Steps

variable {stop : StopFrom} {s : State} {line : Line} {rest : List Line}

theorem step_skipped (hi : line.isSignificant = false) (blocks : List (List Line)) :
    (running s ((line :: rest) :: blocks)).step stop = running s (rest :: blocks) := by
  rw [step, if_pos (by simp [hi])]

theorem step_stopped (hi : line.isSignificant = true) (h : s.isStopped stop = true)
    (blocks : List (List Line)) :
    (running s ((line :: rest) :: blocks)).step stop = ended ⟨s.check, some .cancelled⟩ := by
  rw [step, if_neg (by simp [hi]), if_pos h]

theorem step_statement (hi : line.isSignificant = true) (h : s.isStopped stop = false)
    (hl : ∀ guard, Header.ofText? line.text ≠ some (.opening guard))
    (blocks : List (List Line)) :
    (running s ((line :: rest) :: blocks)).step stop =
      behind ((Statement.ofText line.text).execute (s.check.visit line)) (rest :: blocks) := by
  rw [step, if_neg (by simp [hi]), if_neg (by simp [h])]
  split
  · rename_i guard hl'
    exact absurd hl' (hl guard)
  · rfl

theorem step_opening (h : s.isStopped stop = false) {guard : List Char}
    (hl : Header.ofText? line.text = some (.opening guard)) (blocks : List (List Line)) :
    (running s ((line :: rest) :: blocks)).step stop =
      match choose s.check (chain line guard rest).1 with
      | (s', .error f) => ended ⟨s', some f⟩
      | (s', .ok body) => running s' (body :: (chain line guard rest).2 :: blocks) := by
  have hi := Line.isSignificant_of_header hl
  rw [step, if_neg (by simp [hi]), if_neg (by simp [h]), hl]

end Steps

/-- A part of the run ends as the run of its first part and then of its second. -/
theorem Reaches.behind_andThen {stop : StopFrom} {m : Moment} {e : Ending}
    {next : State → Ending} {blocks blocks' : List (List Line)}
    (h : m.Reaches stop (behind e blocks'))
    (hnext : e.fault = none → (running e.state blocks').Reaches stop
      (behind (next e.state) blocks)) :
    m.Reaches stop (behind (e.andThen next) blocks) := by
  obtain ⟨s, fault⟩ := e
  cases fault with
  | some f => exact h
  | none => exact h.trans (hnext rfl)

/-- **The steps of a run end where the run ends.** -/
theorem reaches_runBlock (stop : StopFrom) (lines : List Line) :
    ∀ (s : State) (blocks : List (List Line)),
      (running s (lines :: blocks)).Reaches stop (behind (runBlock stop s lines) blocks) := by
  induction lines using block_induction with
  | nil =>
    intro s blocks
    rw [runBlock_nil]
    exact .single rfl
  | cons line rest ih =>
    intro s blocks
    cases firstLine stop s line with
    | skipped hi =>
      rw [runBlock_skipped hi]
      exact .head (step_skipped hi blocks) (ih rest (Nat.le_refl _) s blocks)
    | stopped hi hs =>
      rw [runBlock_stopped hi hs]
      exact .single (step_stopped hi hs blocks)
    | @opening guard hs hl =>
      have hstep := @step_opening stop s line rest hs guard hl blocks
      rw [runBlock_opening hs hl]
      refine Reaches.behind_andThen ?_ fun _ => ih _ (length_chain line guard rest).1 _ blocks
      -- The guards are evaluated in one step, and then the chosen body is run.
      cases hc : choose s.check (chain line guard rest).1 with
      | mk s' result =>
        rw [hc] at hstep
        cases result with
        | error f => exact .single hstep
        | ok body => exact .head hstep (ih body (length_of_chosen hc) s' _)
    | statement hi hs hl =>
      rw [runBlock_statement hi hs hl]
      exact Reaches.behind_andThen (.single (step_statement hi hs hl blocks))
        fun _ => ih rest (Nat.le_refl _) _ blocks

/-- The last moment of a run is its end. -/
theorem reaches_runProgram (stop : StopFrom) (code input : List Char) :
    (start code input).Reaches stop (ended (runProgram stop code input)) := by
  refine (reaches_runBlock stop (Line.ofCode code) _ []).trans ?_
  rw [runProgram]
  generalize runBlock stop _ _ = e
  obtain ⟨s, fault⟩ := e
  cases fault with
  | none => exact .single rfl
  | some f => exact .refl

/-! ### One way -/

/-- A run goes one way: of two moments that it comes to, one comes after the other. -/
theorem Reaches.total {stop : StopFrom} {m a b : Moment} (ha : m.Reaches stop a)
    (hb : m.Reaches stop b) : a.Reaches stop b ∨ b.Reaches stop a :=
  Relation.ReflTransGen.total_of_right_unique (fun _ _ _ h h' => h.symm.trans h') ha hb

/-- Nothing comes after the end. -/
theorem Reaches.eq_of_ended {stop : StopFrom} {e : Ending} {m : Moment}
    (h : (ended e).Reaches stop m) : m = ended e := by
  induction h with
  | refl => rfl
  | tail _ hstep ih =>
    rw [ih] at hstep
    exact hstep.symm

/-- Every moment of a run comes before its end. -/
theorem Reaches.reaches_end {stop : StopFrom} {code input : List Char} {m : Moment}
    (h : (start code input).Reaches stop m) :
    m.Reaches stop (ended (runProgram stop code input)) := by
  rcases h.total (reaches_runProgram stop code input) with hend | hend
  · exact hend
  · rw [hend.eq_of_ended]
    exact .refl

/-- A run has one end. -/
theorem Reaches.eq_runProgram {stop : StopFrom} {code input : List Char} {e : Ending}
    (h : (start code input).Reaches stop (ended e)) : e = runProgram stop code input := by
  have hend := h.reaches_end.eq_of_ended
  injection hend with hend
  exact hend.symm

/-! ### Properties of all moments -/

variable {P : State → Prop}

theorem kept_step (h : State.Kept P) (stop : StopFrom) {m : Moment} (hm : P m.state) :
    P (m.step stop).state := by
  fun_cases step stop m with
  | case1 | case2 | case3 | case4 => exact hm
  | case5 => exact h.check hm
  | case6 s line rest blocks _ _ guard _ s' f hc =>
    have hs' : P (choose s.check (chain line guard rest).1).1 := h.choose _ (h.check hm)
    rw [hc] at hs'
    exact hs'
  | case7 s line rest blocks _ _ guard _ s' body hc =>
    have hs' : P (choose s.check (chain line guard rest).1).1 := h.choose _ (h.check hm)
    rw [hc] at hs'
    exact hs'
  | case8 s line rest blocks =>
    rw [state_behind]
    exact h.execute _ (h.visit line (h.check hm))

/-- **A kept property holds at every moment** behind one where it holds. -/
theorem Reaches.kept {stop : StopFrom} {m m' : Moment} (hm : m.Reaches stop m')
    (h : State.Kept P) (hs : P m.state) : P m'.state := by
  induction hm with
  | refl => exact hs
  | tail _ hstep ih =>
    rw [← hstep]
    exact kept_step h stop ih

end Moment

theorem State.Kept.runBlock {P : State → Prop} (h : State.Kept P) (stop : StopFrom)
    (lines : List Line) {s : State} (hs : P s) : P (runBlock stop s lines).state := by
  have hend := (Moment.reaches_runBlock stop lines s []).kept h hs
  rwa [Moment.state_behind] at hend

/-! ### What a statement leaves alone -/

/-- No statement touches what the state notes about the run. -/
theorem keptByStatements_notes (s : State) :
    State.KeptByStatements fun t => t.checks = s.checks ∧ t.visited = s.visited where
  bind _ _ h := h
  print {t} line h := by
    rw [State.print]
    split <;> exact h
  read _ h := h

theorem checks_execute (statement : Statement) (s : State) :
    (statement.execute s).state.checks = s.checks :=
  ((keptByStatements_notes s).execute statement ⟨rfl, rfl⟩).1

theorem visited_execute (statement : Statement) (s : State) :
    (statement.execute s).state.visited = s.visited :=
  ((keptByStatements_notes s).execute statement ⟨rfl, rfl⟩).2

/-! ### What is printed stays printed -/

theorem kept_printed (printed : List String) : State.Kept fun s => printed <:+ s.printed where
  bind _ _ h := h
  print {s} line h := by
    rw [State.print]
    split
    · exact h.trans (List.suffix_cons line s.printed)
    · exact h
  read _ h := h
  check h := h
  visit _ h := h

theorem printed_execute (statement : Statement) (s : State) :
    s.printed <:+ (statement.execute s).state.printed :=
  (kept_printed s.printed).execute statement (List.suffix_refl _)

theorem printed_runChosen (stop : StopFrom) (branches : List Branch) (s : State) :
    s.printed <:+ (runChosen stop (choose s branches)).state.printed := by
  have hs := (kept_printed s.printed).choose branches (List.suffix_refl _)
  cases hc : choose s branches with
  | mk s' result =>
    rw [hc] at hs
    cases result with
    | error f => exact hs
    | ok body => exact (kept_printed s.printed).runBlock stop body hs

theorem printed_runBlock (stop : StopFrom) (lines : List Line) (s : State) :
    s.printed <:+ (runBlock stop s lines).state.printed :=
  (kept_printed s.printed).runBlock stop lines (List.suffix_refl _)

end Autograder.Guest
