import Autograder.Proofs.Expression.Printed
import Autograder.Proofs.Program.Effects
import Autograder.Proofs.Program.Input
import Autograder.Proofs.Program.Printing

/-!
# Well-formed states

What is true of the state at every moment of every run before a fault ends it, whatever the program
and the input. Only identifiers have values, so no expression form that is tried before the names
can take one for something else: a name that has a value, alone or between blanks, evaluates to it.
The cursor is within the input, and the counter of printed bytes agrees with the printed lines.

Most faults leave such a state behind as well. Where the output became too long, the counter has
gone on to the line that was refused, and the rest still holds.

## Main definitions

* `State.WellFormed` — the invariant

## Main results

* `evaluate_bound` — a name evaluates to its value
* `State.WellFormed.bindFields` — reading several numbers goes through well-formed states
* `runProgram_wellFormed` — the invariant holds at every moment of a run
-/

namespace Autograder.Guest

/-! ### Names and their values -/

/-- No form but the bare one fits an identifier. -/
theorem ofText_of_isIdentifier {n : String} (h : isIdentifier n.toList = true) :
    Form.ofText n.toList = .bare := by
  have hwrite : (Term.name n).isWritable = true := h
  have hform := ofText_write hwrite fun s => by simp
  rw [Term.write, Form.constant?, Term.constantValue?_name h] at hform
  exact hform

/-- **A name evaluates to its value,** whatever blanks stand around it. -/
theorem evaluate_bound {vars : Bindings} {n : String} {v : Value}
    (hid : isIdentifier n.toList = true) (hv : vars.get? n = some v) {pad trail : List Char}
    (hpad : ∀ c ∈ pad, Text.isBlank c = true) (htrail : ∀ c ∈ trail, Text.isBlank c = true) :
    evaluate vars (pad ++ n.toList ++ trail) = .ok v := by
  have hne : n.toList ≠ [] := by
    intro hempty
    rw [hempty] at hid
    exact Bool.false_ne_true hid
  have htrimmed : Text.Trimmed n.toList :=
    Term.trimmed_write (t := .name n) hid .sum
  have htrim := Text.trim_surround hpad htrail hne htrimmed
  rw [evaluate_of_bare (by rw [htrim, ofText_of_isIdentifier hid]), htrim, bareValue,
    String.ofList_toList, hv]

/-! ### The invariant -/

/-- A state as every run has it, on these lines of input. -/
structure State.WellFormed (input : List String) (s : State) : Prop where
  /-- Only identifiers have values. -/
  identifiers : ∀ n v, s.vars.get? n = some v → isIdentifier n.toList = true
  /-- A name evaluates to its value. -/
  evaluates : ∀ n v, s.vars.get? n = some v → ∀ pad trail, (∀ c ∈ pad, Text.isBlank c = true) →
    (∀ c ∈ trail, Text.isBlank c = true) → evaluate s.vars (pad ++ n.toList ++ trail) = .ok v
  cursor_le : s.cursor ≤ input.length
  printedBytes_eq : s.printedBytes = volume s.output

/-- The names that have a value are identifiers. -/
def State.Named (s : State) : Prop :=
  ∀ n v, s.vars.get? n = some v → isIdentifier n.toList = true

namespace State

theorem named_initial (input : List String) : (initial input).Named := by
  intro n v hv
  simp [initial] at hv

theorem Named.bind {s : State} (h : s.Named) {name : List Char} (hid : isIdentifier name = true)
    (v : Value) : (s.bind name v).Named := by
  intro n w hw
  rcases get?_bind hw with hold | ⟨rfl, -⟩
  · exact h n w hold
  · rwa [String.toList_ofList]

/-- A statement on a line gives values to identifiers only. -/
theorem Named.execute {s : State} (h : s.Named) (text : List Char) :
    ((Statement.ofText text).execute s).state.Named := by
  intro n v hv
  rcases get?_execute hv with hold | ⟨name, rfl, hgives⟩
  · exact h n v hold
  · rw [String.toList_ofList]
    exact isIdentifier_of_mem_names hgives.mem_names

variable {input : List String} {s : State}

theorem Named.wellFormed (h : s.Named) (hcursor : s.cursor ≤ input.length)
    (hbytes : s.printedBytes = volume s.output) : s.WellFormed input where
  identifiers := h
  evaluates n v hv _ _ hpad htrail := evaluate_bound (h n v hv) hv hpad htrail
  cursor_le := hcursor
  printedBytes_eq := hbytes

/-- **Between the values** that a statement gives one after another, the state is well formed. -/
theorem WellFormed.bindFields (h : s.WellFormed input) (kind : NumberKind)
    {fields : List (List Char × List Char)}
    (hfields : ∀ field ∈ fields, isIdentifier field.1 = true) :
    (s.bindFields kind fields).state.WellFormed input := by
  induction fields generalizing s with
  | nil => exact h
  | cons field fields ih =>
    rw [State.bindFields]
    cases kind.read field.2 with
    | error f => exact h
    | ok v =>
      have hbound : (s.bind field.1 v).Named :=
        Named.bind h.identifiers (hfields field List.mem_cons_self) v
      exact ih (hbound.wellFormed h.cursor_le h.printedBytes_eq)
        fun other hmem => hfields other (List.mem_cons_of_mem _ hmem)

end State

/-! ### Runs -/

theorem Moment.Reaches.named {stop : StopFrom} {code input : List Char} {m : Moment}
    (h : (start code input).Reaches stop m) : m.state.Named := by
  refine Reaches.invariant ?_ h ?_ (State.named_initial _)
  · intro s s' hbare hs
    rw [State.Named, ← State.vars_bare, hbare, State.vars_bare]
    exact hs
  · intro _ s line _ _ hs
    exact hs.execute line.text

/-- **Every state of a run is well formed**, also the one in which it ends, unless it ends for too
long an output. A statement that reads several numbers gives them to their names one after another;
the states on the way are well formed as well. -/
theorem runProgram_wellFormed (stop : StopFrom) (code input : String) :
    (∀ m, (Moment.start code.toList input.toList).Reaches stop m → ¬ m.IsCutOff →
      m.state.WellFormed ((Text.lines input.toList).map String.ofList)) ∧
    ∀ s line rest blocks, (Moment.start code.toList input.toList).Reaches stop
        (.running s ((line :: rest) :: blocks)) →
      ∀ names kind text unread, Statement.ofText line.text = .readFields names kind →
        s.unread = text :: unread → ∀ k,
        (({ s with unread := unread, cursor := s.cursor + 1 } : State).bindFields kind
          ((names.zip (Text.words text.toList)).take k)).state.WellFormed
            ((Text.lines input.toList).map String.ofList) := by
  have hmoment : ∀ m, (Moment.start code.toList input.toList).Reaches stop m → ¬ m.IsCutOff →
      m.state.WellFormed ((Text.lines input.toList).map String.ofList) := by
    intro m hm hfault
    obtain ⟨lines, hlogs⟩ := hm.exists_logs
    have hread := hm.kept (kept_readsFrom ((Text.lines input.toList).map String.ofList))
      ⟨Nat.zero_le _, rfl⟩
    exact hm.named.wellFormed hread.cursor_le (hlogs.shows.printedBytes_eq hfault)
  refine ⟨hmoment, fun s line rest blocks hs names kind text unread hstatement hunread k => ?_⟩
  have hkept := kept_readsFrom ((Text.lines input.toList).map String.ofList)
  have hbehindRead := hkept.read hunread (hs.kept hkept ⟨Nat.zero_le _, rfl⟩)
  have hformed := hmoment _ hs (Moment.not_isCutOff_running _ _)
  have hbehind : State.WellFormed _ { s with unread := unread, cursor := s.cursor + 1 } :=
    State.Named.wellFormed (s := { s with unread := unread, cursor := s.cursor + 1 })
      hformed.identifiers hbehindRead.cursor_le hformed.printedBytes_eq
  refine hbehind.bindFields kind fun field hfield => ?_
  have hname := (List.of_mem_zip (List.mem_of_mem_take hfield)).1
  have hread : field.1 ∈ (Statement.ofText line.text).names := by
    rw [hstatement]
    exact hname
  exact isIdentifier_of_mem_names hread

/-- Reads two numbers into names that are spelled like functions. -/
def pairProgram : String :=
  "len, str = map(int, input().split())
print(len)"

/-- Between the two values the first name has one, and at the end both evaluate to theirs. -/
theorem wellFormed_pairProgram :
    (runProgram none pairProgram.toList "3 4".toList).state.WellFormed ["3 4"] ∧
    evaluate (runProgram none pairProgram.toList "3 4".toList).state.vars " str\t".toList
      = .ok (.int 4) ∧
    (State.bindFields { State.initial ["3 4"] with unread := [], cursor := 1 } .int
      [("len".toList, ['3'])]).state.WellFormed ["3 4"] := by
  have h := runProgram_wellFormed none pairProgram "3 4"
  have hfault : (runProgram none pairProgram.toList "3 4".toList).fault = none := by
    decide +kernel
  have hcut : ¬ (Moment.ended (runProgram none pairProgram.toList "3 4".toList)).IsCutOff := by
    rintro ⟨s, hs⟩
    injection hs with hs
    rw [hs] at hfault
    cases hfault
  have hend := h.1 _ (Moment.reaches_runProgram none pairProgram.toList "3 4".toList) hcut
  have hbound : (runProgram none pairProgram.toList "3 4".toList).state.vars.get? "str"
      = some (.int 4) := by decide +kernel
  have hpad : ∀ c ∈ [' '], Text.isBlank c = true := List.all_eq_true.mp (by decide)
  have htrail : ∀ c ∈ ['\t'], Text.isBlank c = true := List.all_eq_true.mp (by decide)
  refine ⟨hend, hend.evaluates "str" _ hbound [' '] ['\t'] hpad htrail, ?_⟩
  have hstart : (Moment.start pairProgram.toList "3 4".toList).Reaches none
      (.running (State.initial ["3 4"]) [[
        ⟨0, 0, "len, str = map(int, input().split())".toList⟩, ⟨1, 0, "print(len)".toList⟩]]) := by
    have hlines : Line.ofCode pairProgram.toList = [
        ⟨0, 0, "len, str = map(int, input().split())".toList⟩, ⟨1, 0, "print(len)".toList⟩] := by
      decide +kernel
    rw [Moment.start, hlines]
    exact .refl
  have hstatement : Statement.ofText "len, str = map(int, input().split())".toList
      = .readFields ["len".toList, "str".toList] .int := by decide +kernel
  exact h.2 _ _ _ _ hstart _ _ "3 4" [] hstatement rfl 1

end Autograder.Guest
