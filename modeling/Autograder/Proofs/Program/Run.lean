import Autograder.Guest.Program
import Autograder.Proofs.Program.Source

/-!
# Steps of a run

`runBlock` recurses on lists of lines that it has just computed, so its definition carries the
proofs that they are shorter. The equations here say the same without them: a block passes over a
line that is not significant, and if it is not told to stop it runs a chain or executes a statement
and then goes on with the lines behind. `FirstLine` lists these cases.

A state also notes how often the run has looked whether it is told to stop, and which lines acted.
Nothing that a program does depends on these two, and `State.bare` forgets them. Every theorem that
compares a run with something that has no lines goes through it.

## Main definitions

* `FirstLine` — what a run does with the first line of a block

## Main results

* `Line.isSignificant_of_header` — headers are no comments
* `runBlock_opening`, `runBlock_statement` — one step of a block
* `Statement.bare_execute` — a statement does the same to the bare state
-/

namespace Autograder.Guest

/-! ### Going on -/

/-- Goes on from a state in which something ended, unless a fault ended it. -/
def Ending.andThen (e : Ending) (next : State → Ending) : Ending :=
  match e.fault with
  | some _ => e
  | none => next e.state

theorem Ending.andThen_self (e : Ending) : e.andThen (fun s => ⟨s, none⟩) = e := by
  obtain ⟨s, fault⟩ := e
  cases fault <;> rfl

/-- Runs the body that a chain has chosen. -/
def runChosen (stop : StopFrom) : State × Except Fault (List Line) → Ending
  | (s, .error f) => ⟨s, some f⟩
  | (s, .ok body) => runBlock stop s body

/-! ### One branch of a chain -/

section Branches

variable {base : Nat} {line : Line} {rest : List Line}

@[simp] theorem furtherBranches_nil (base : Nat) : furtherBranches base [] = ([], []) := by
  rw [furtherBranches]

theorem furtherBranches_alternative (hi : line.indent = base) {guard : List Char}
    (hl : Header.ofText? line.text = some (.alternative guard)) :
    furtherBranches base (line :: rest)
      = (⟨line, some guard, bodyOf base rest⟩ :: (furtherBranches base (behindBody base rest)).1,
          (furtherBranches base (behindBody base rest)).2) := by
  rw [furtherBranches, if_pos hi]
  split
  · rename_i guard' hl'
    obtain rfl : guard' = guard := by simpa using hl'.symm.trans hl
    rfl
  · rename_i hl'
    exact absurd (hl'.symm.trans hl) (by simp)
  · rename_i hl' _
    exact absurd hl (hl' guard)

theorem furtherBranches_otherwise (hi : line.indent = base)
    (hl : Header.ofText? line.text = some .otherwise) :
    furtherBranches base (line :: rest)
      = ([⟨line, none, bodyOf base rest⟩], behindBody base rest) := by
  rw [furtherBranches, if_pos hi]
  split
  · rename_i guard hl'
    exact absurd (hl'.symm.trans hl) (by simp)
  · rfl
  · rename_i hl'
    exact absurd hl hl'

/-- A line elsewhere, or one that continues no chain, ends the chain. -/
theorem furtherBranches_stop
    (h : line.indent = base → (∀ guard, Header.ofText? line.text ≠ some (.alternative guard)) ∧
      Header.ofText? line.text ≠ some .otherwise) :
    furtherBranches base (line :: rest) = ([], line :: rest) := by
  rw [furtherBranches]
  split
  · rename_i hi
    obtain ⟨ha, ho⟩ := h hi
    split
    · rename_i guard hl
      exact absurd hl (ha guard)
    · rename_i hl
      exact absurd hl ho
    · rfl
  · rfl

/-- A line continues the chain at an indentation with a guard or without, or it ends the chain. -/
theorem continues_cases (base : Nat) (line : Line) :
    (line.indent = base ∧ ∃ guard, Header.ofText? line.text = some (.alternative guard)) ∨
      (line.indent = base ∧ Header.ofText? line.text = some .otherwise) ∨
      (line.indent = base → (∀ guard, Header.ofText? line.text ≠ some (.alternative guard)) ∧
        Header.ofText? line.text ≠ some .otherwise) := by
  by_cases hi : line.indent = base
  · by_cases ha : ∃ guard, Header.ofText? line.text = some (.alternative guard)
    · exact .inl ⟨hi, ha⟩
    · by_cases ho : Header.ofText? line.text = some .otherwise
      · exact .inr (.inl ⟨hi, ho⟩)
      · exact .inr (.inr fun _ => ⟨not_exists.mp ha, ho⟩)
  · exact .inr (.inr fun h => absurd h hi)

theorem choose_otherwise (s : State) (line : Line) (body : List Line) (rest : List Branch) :
    choose s (⟨line, none, body⟩ :: rest) = (s, .ok body) := by
  rw [choose]

/-- The guard of a branch decides between its fault, its body and the other branches. -/
theorem choose_guarded (s : State) (line : Line) (guard : List Char) (body : List Line)
    (rest : List Branch) :
    choose s (⟨line, some guard, body⟩ :: rest)
      = match evaluateCondition s.vars guard with
        | .error f => (s.visit line, .error f)
        | .ok true => (s.visit line, .ok body)
        | .ok false => choose (s.visit line) rest := by
  cases h : evaluateCondition s.vars guard with
  | error f => simp [choose, h]
  | ok holds => cases holds <;> simp [choose, h]

end Branches

/-! ### Headers -/

theorem Header.prefix_of_guard? {keyword head guard : List Char}
    (h : guard? keyword head = some guard) : keyword <+: head := by
  rw [guard?] at h
  split at h
  · rename_i c rest hafter
    exact ⟨c :: rest, (Text.after?_eq_some_iff.mp hafter).symm⟩
  · cases h

/-- A header starts with its keyword. -/
theorem Header.exists_keyword {text : List Char} {header : Header}
    (h : ofText? text = some header) :
    ∃ c ∈ ['e', 'i'], ∃ rest, text = c :: rest := by
  have hstarts {c : Char} {keyword head : List Char} (hc : c ∈ ['e', 'i'])
      (hfirst : c :: keyword <+: head) : ∃ c ∈ ['e', 'i'], ∃ rest, head ++ [':'] = c :: rest := by
    obtain ⟨rest, rfl⟩ := hfirst
    exact ⟨c, hc, keyword ++ rest ++ [':'], rfl⟩
  obtain ⟨head, hhead, h⟩ := Option.bind_eq_some_iff.mp h
  rw [Text.before?_eq_some_iff.mp hhead]
  split at h
  · rename_i htrim
    have helse : ['e', 'l', 's', 'e'] <+: head := beq_iff_eq.mp htrim ▸ Text.trimEnd_prefix head
    exact hstarts (by decide) helse
  split at h
  · rename_i guard hguard
    exact hstarts (by decide) (prefix_of_guard? hguard)
  · obtain ⟨guard, hguard, -⟩ := Option.map_eq_some_iff.mp h
    exact hstarts (by decide) (prefix_of_guard? hguard)

/-- **A header is neither blank nor a comment.** -/
theorem Line.isSignificant_of_header {line : Line} {header : Header}
    (h : Header.ofText? line.text = some header) : line.isSignificant = true := by
  obtain ⟨c, hc, rest, htext⟩ := Header.exists_keyword h
  rw [Line.isSignificant_iff, htext]
  refine ⟨List.cons_ne_nil _ _, ?_⟩
  rintro ⟨⟩
  exact absurd hc (by decide)

/-! ### One step of a block -/

variable {stop : StopFrom} {s : State} {line : Line} {rest : List Line}

@[simp] theorem runBlock_nil (stop : StopFrom) (s : State) : runBlock stop s [] = ⟨s, none⟩ := by
  rw [runBlock]

/-- A line that is blank or a comment is passed over. -/
theorem runBlock_skipped (hi : line.isSignificant = false) :
    runBlock stop s (line :: rest) = runBlock stop s rest := by
  rw [runBlock, if_pos (by simp [hi])]

theorem runBlock_stopped (hi : line.isSignificant = true) (h : s.isStopped stop = true) :
    runBlock stop s (line :: rest) = ⟨s.check, some .cancelled⟩ := by
  rw [runBlock, if_neg (by simp [hi]), if_pos h]

/-- A chain runs the body it chooses; then the run goes on behind the whole chain. -/
theorem runBlock_opening (h : s.isStopped stop = false) {guard : List Char}
    (hl : Header.ofText? line.text = some (.opening guard)) :
    runBlock stop s (line :: rest)
      = (runChosen stop (choose s.check (chain line guard rest).1)).andThen
          fun s => runBlock stop s (chain line guard rest).2 := by
  have hi := Line.isSignificant_of_header hl
  rw [runBlock, if_neg (by simp [hi]), if_neg (by simp [h])]
  split
  · rename_i guard' hl'
    obtain rfl : guard' = guard := by simpa using hl'.symm.trans hl
    split
    · rename_i hc
      rw [hc]
      rfl
    · rename_i s' body hc
      have hr : runChosen stop (choose s.check (chain line guard' rest).1)
          = runBlock stop s' body := by rw [hc]; rfl
      rw [hr]
      rfl
  · rename_i hl'
    exact absurd hl (hl' guard)

/-- A significant line that opens no chain is executed as a statement. -/
theorem runBlock_statement (hi : line.isSignificant = true) (h : s.isStopped stop = false)
    (hl : ∀ guard, Header.ofText? line.text ≠ some (.opening guard)) :
    runBlock stop s (line :: rest)
      = ((Statement.ofText line.text).execute (s.check.visit line)).andThen
          fun s => runBlock stop s rest := by
  rw [runBlock, if_neg (by simp [hi]), if_neg (by simp [h])]
  split
  · rename_i guard hl'
    exact absurd hl' (hl guard)
  · rfl

/-- What a run does with the first line of a block: it passes over it, or finds that it is told to
stop, or runs the chain that it opens, or executes it. -/
inductive FirstLine (stop : StopFrom) (s : State) (line : Line) : Prop
  | skipped (insignificant : line.isSignificant = false)
  | stopped (significant : line.isSignificant = true) (stopped : s.isStopped stop = true)
  | opening {guard : List Char} (goes_on : s.isStopped stop = false)
      (header : Header.ofText? line.text = some (.opening guard))
  | statement (significant : line.isSignificant = true) (goes_on : s.isStopped stop = false)
      (no_header : ∀ guard, Header.ofText? line.text ≠ some (.opening guard))

theorem firstLine (stop : StopFrom) (s : State) (line : Line) : FirstLine stop s line := by
  by_cases hi : line.isSignificant = true
  · by_cases hs : s.isStopped stop = true
    · exact .stopped hi hs
    rw [Bool.not_eq_true] at hs
    by_cases hl : ∃ guard, Header.ofText? line.text = some (.opening guard)
    · obtain ⟨guard, hl⟩ := hl
      exact .opening hs hl
    · exact .statement hi hs (not_exists.mp hl)
  · exact .skipped (Bool.not_eq_true _ ▸ hi)

/-- The body that a chain chooses is no longer than the lines behind its header. -/
theorem length_of_chosen {header : Line} {guard : List Char} {s' : State} {body : List Line}
    (h : choose s (chain header guard rest).1 = (s', .ok body)) : body.length ≤ rest.length :=
  length_of_choose (length_chain header guard rest).2 (congrArg Prod.snd h)

/-- Induction along a run. Behind the first line of a block, what is run are shorter blocks: the
lines behind it, or the body of a branch and the lines behind its chain. -/
@[elab_as_elim]
theorem block_induction {motive : List Line → Prop} (nil : motive [])
    (cons : ∀ line rest, (∀ lines : List Line, lines.length ≤ rest.length → motive lines) →
      motive (line :: rest)) (lines : List Line) : motive lines := by
  induction hn : lines.length using Nat.strongRecOn generalizing lines with
  | ind n ih =>
    cases lines with
    | nil => exact nil
    | cons line rest =>
      refine cons line rest fun lines hle => ih lines.length ?_ lines rfl
      rw [← hn]
      exact Nat.lt_succ_of_le hle

/-! ### The bare state -/

/-- The state without what it notes about the run itself. -/
def State.bare (s : State) : State := { s with checks := 0, visited := [] }

/-- The ending with its state made bare. -/
def Ending.bare (e : Ending) : Ending := ⟨e.state.bare, e.fault⟩

namespace State

@[simp] theorem vars_bare (s : State) : s.bare.vars = s.vars := rfl

@[simp] theorem bare_initial (input : List String) : (initial input).bare = initial input := rfl

theorem bare_print (s : State) (line : String) : (s.print line).bare = s.bare.print line := by
  simp only [State.print, apply_ite Ending.bare]
  rfl

theorem bare_withValue {α : Type} (s : State) (v : Except Fault α) {next next' : α → Ending}
    (h : ∀ a, (next a).bare = next' a) : (s.withValue v next).bare = s.bare.withValue v next' := by
  cases v with
  | ok a => exact h a
  | error f => rfl

theorem bare_reading (s : State) {next : State → String → Ending}
    (h : ∀ s line, (next s line).bare = next s.bare line) :
    (s.reading next).bare = s.bare.reading next := by
  obtain ⟨vars, unread, cursor, printed, bytes, checks, visited⟩ := s
  cases unread with
  | nil => rfl
  | cons line unread => exact h _ line

theorem bare_bindFields (kind : NumberKind) (fields : List (List Char × List Char)) (s : State) :
    (s.bindFields kind fields).bare = s.bare.bindFields kind fields := by
  induction fields generalizing s with
  | nil => rfl
  | cons field fields ih =>
    rw [bindFields, bindFields]
    exact bare_withValue s _ fun v => ih (s.bind field.1 v)

theorem bare_readFields (s : State) (names : List (List Char)) (kind : NumberKind) (line : String) :
    (s.readFields names kind line).bare = s.bare.readFields names kind line := by
  rw [readFields, readFields]
  split
  · rfl
  split
  · rfl
  · exact bare_bindFields kind _ s

end State

/-- **A statement does not see what the state notes about the run.** -/
theorem Statement.bare_execute (statement : Statement) (s : State) :
    (statement.execute s).bare = statement.execute s.bare := by
  cases statement with
  | print arguments => exact s.bare_withValue _ s.bare_print
  | readFields names kind => exact s.bare_reading fun s line => s.bare_readFields names kind line
  | readNumber name kind => exact s.bare_reading fun s _ => s.bare_withValue _ fun _ => rfl
  | readLine name trimmed => exact s.bare_reading fun _ _ => rfl
  | assign name op expression =>
    cases op with
    | none => exact s.bare_withValue _ fun _ => rfl
    | some op =>
      refine s.bare_withValue _ fun v => ?_
      rw [State.vars_bare]
      split
      · rfl
      · exact s.bare_withValue _ fun _ => rfl
  | ignored => rfl

theorem Ending.bare_andThen (e : Ending) {next next' : State → Ending}
    (h : ∀ s, (next s).bare = next' s.bare) :
    (e.andThen next).bare = e.bare.andThen next' := by
  obtain ⟨s, fault⟩ := e
  cases fault with
  | none => exact h s
  | some f => rfl

/-- What is left of a run is seen in its bare state already. -/
@[simp] theorem Ending.outcome_bare (e : Ending) : e.bare.outcome = e.outcome := rfl

end Autograder.Guest
