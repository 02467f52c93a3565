import Autograder.Proofs.Program.Moments

/-!
# Runs that are told to stop

A run that is told to stop does up to then what it would have done anyway, and afterwards nothing.
It looks before each statement and each chain, but not between the guards of a chain, so what has
to be compared are not two runs line by line but two runs up to the same look.

The looks are counted, so every look has a number, and a run comes to its looks one after another
(`Moment.Reaches.exists_look`). Up to the look at which it is told to stop, a run and the same run
undisturbed go through the same moments (`Moment.Reaches.of_checks_le`). There the one ends, and the
other goes on to its own end or fault.

## Main definitions

* `Moment.Looks` — the run is about to look

## Main results

* `runProgram_of_checks_le` — a run that ends before it would be told to stop is undisturbed
* `runProgram_stopped` — a run that is told to stop ends in the state of the undisturbed run
* `interpret_cancelled` — what is left of a run that may be told to stop
-/

namespace Autograder.Guest

theorem checks_choose (branches : List Branch) (s : State) :
    (choose s branches).1.checks = s.checks := by
  fun_induction choose s branches with
  | case1 | case2 | case3 | case4 => rfl
  | case5 s branch rest guard hg he ih => exact ih

namespace Moment

/-- The run is about to look whether it is told to stop: the next line of the innermost block is
neither blank nor a comment. -/
def Looks : Moment → Prop
  | running _ ((line :: _) :: _) => line.isSignificant = true
  | _ => False

/-! ### One step -/

/-- A step that begins with a look is one look more. -/
theorem checks_step_of_looks (stop : StopFrom) {m : Moment} (h : m.Looks) :
    (m.step stop).state.checks = m.state.checks + 1 := by
  fun_cases step stop m with
  | case1 | case2 | case3 => exact h.elim
  | case4 s line rest blocks hi => exact absurd h (by simpa [Looks] using hi)
  | case5 => rfl
  | case6 s line rest blocks _ _ guard _ s' f hc =>
    exact (congrArg (fun r => r.1.checks) hc).symm.trans (checks_choose _ s.check)
  | case7 s line rest blocks _ _ guard _ s' body hc =>
    exact (congrArg (fun r => r.1.checks) hc).symm.trans (checks_choose _ s.check)
  | case8 s line rest blocks =>
    rw [state_behind]
    exact checks_execute _ _

theorem checks_step_of_not_looks (stop : StopFrom) {m : Moment} (h : ¬ m.Looks) :
    (m.step stop).state.checks = m.state.checks := by
  fun_cases step stop m with
  | case1 | case2 | case3 | case4 => rfl
  | case5 s line rest blocks hi | case6 s line rest blocks hi | case7 s line rest blocks hi
  | case8 s line rest blocks hi => exact absurd (by simpa [Looks] using hi) h

theorem checks_le_step (stop : StopFrom) (m : Moment) :
    m.state.checks ≤ (m.step stop).state.checks := by
  by_cases h : m.Looks
  · exact Nat.le_of_lt (Nat.lt_of_lt_of_eq (Nat.lt_succ_self _) (checks_step_of_looks stop h).symm)
  · exact Nat.le_of_eq (checks_step_of_not_looks stop h).symm

/-- Whether the run is told to stop matters to a step only if it looks. -/
theorem step_congr {stop stop' : StopFrom} {m : Moment}
    (h : m.Looks → m.state.isStopped stop = m.state.isStopped stop') :
    m.step stop = m.step stop' := by
  match m with
  | ended e => rfl
  | running s [] => rfl
  | running s ([] :: blocks) => rfl
  | running s ((line :: rest) :: blocks) =>
    rw [step, step]
    split
    · rfl
    · rename_i hi
      have hs : s.isStopped stop = s.isStopped stop' := h (by simpa [Looks] using hi)
      rw [hs]

/-- A run that looks and is told to stop is at its end. -/
theorem step_of_stopped {stop : StopFrom} {m : Moment} (h : m.Looks)
    (hs : m.state.isStopped stop = true) :
    m.step stop = ended ⟨m.state.check, some .cancelled⟩ := by
  match m with
  | ended e => exact h.elim
  | running s [] => exact h.elim
  | running s ([] :: blocks) => exact h.elim
  | running s ((line :: rest) :: blocks) => exact step_stopped h hs blocks

/-! ### All steps -/

/-- **The same moments.** What an undisturbed run comes to within `k` looks, a run that is told to
stop only then comes to as well. -/
theorem Reaches.of_checks_le {k : Nat} {a b : Moment} (h : a.Reaches none b)
    (hk : b.state.checks ≤ k) : a.Reaches (some k) b := by
  induction h with
  | refl => exact .refl
  | @tail m b _ hstep ih =>
    rw [← hstep] at hk
    have hsame : m.step (some k) = m.step none := step_congr fun hlooks => by
      rw [checks_step_of_looks none hlooks] at hk
      exact decide_eq_false (by omega)
    exact (ih (Nat.le_trans (checks_le_step none m) hk)).tail (hsame.trans hstep)

/-- **No look is left out.** A run that has looked more than `k` times has come to the look before
which it had looked `k` times. -/
theorem Reaches.exists_look {k : Nat} {a b : Moment} (h : a.Reaches none b)
    (ha : a.state.checks ≤ k) (hb : k < b.state.checks) :
    ∃ m, a.Reaches none m ∧ m.Looks ∧ m.state.checks = k := by
  induction h with
  | refl => exact absurd hb (Nat.not_lt.mpr ha)
  | @tail m b hreaches hstep ih =>
    by_cases hk : k < m.state.checks
    · exact ih hk
    · rw [← hstep] at hb
      by_cases hlooks : m.Looks
      · rw [checks_step_of_looks none hlooks] at hb
        exact ⟨m, hreaches, hlooks, by omega⟩
      · rw [checks_step_of_not_looks none hlooks] at hb
        exact absurd hb hk

end Moment

/-! ### Whole runs -/

section Runs

variable {k : Nat} {code input : List Char}

/-- A run that ends before it would be told to stop is undisturbed. -/
theorem runProgram_of_checks_le (h : (runProgram none code input).state.checks ≤ k) :
    runProgram (some k) code input = runProgram none code input :=
  ((Moment.reaches_runProgram none code input).of_checks_le h).eq_runProgram.symm

/-- **A run that is told to stop** ends in the state that the undisturbed run has at that look. -/
theorem runProgram_stopped {m : Moment} (hm : (Moment.start code input).Reaches none m)
    (hlooks : m.Looks) (hk : m.state.checks = k) :
    runProgram (some k) code input = ⟨m.state.check, some .cancelled⟩ := by
  have hstopped : m.state.isStopped (some k) = true := decide_eq_true (Nat.le_of_eq hk.symm)
  have hend :
      (Moment.start code input).Reaches (some k) (.ended ⟨m.state.check, some .cancelled⟩) :=
    (hm.of_checks_le (Nat.le_of_eq hk)).tail (Moment.step_of_stopped hlooks hstopped)
  exact hend.eq_runProgram.symm

/-- What an undisturbed run has printed at some moment stands at the start of what it prints. -/
theorem output_prefix {stop : StopFrom} {m : Moment}
    (hm : (Moment.start code input).Reaches stop m) :
    m.state.output <+: (runProgram stop code input).state.output :=
  List.reverse_prefix.mpr
    (hm.reaches_end.kept (kept_printed m.state.printed) (List.suffix_refl _))

end Runs

/-- **Being told to stop changes nothing that was done before.** The run is told so from the look on
before which there were `k` others. If the undisturbed run looks no more than `k` times, nothing
changes at all. Otherwise it comes to that look, and in whatever moment it does, what it has
printed by then is the output of the run that is told to stop. That run ends with the fault that
says so, in the state of this moment: no further line has acted. -/
theorem interpret_cancelled (k : Nat) (code input : String) :
    ((runProgram none code.toList input.toList).state.checks ≤ k →
      interpret (some k) code input = interpret none code input) ∧
    (k < (runProgram none code.toList input.toList).state.checks →
      ∃ m, (Moment.start code.toList input.toList).Reaches none m ∧ m.Looks ∧
        m.state.checks = k) ∧
    ∀ m, (Moment.start code.toList input.toList).Reaches none m → m.Looks → m.state.checks = k →
      interpret (some k) code input =
        ⟨"\n".intercalate m.state.output, some "Execution cancelled", 1⟩ ∧
      m.state.output <+: (runProgram none code.toList input.toList).state.output ∧
      (runProgram (some k) code.toList input.toList).state = m.state.check := by
  refine ⟨fun h => ?_, fun h => ?_, fun m hm hlooks hk => ⟨?_, output_prefix hm, ?_⟩⟩
  · rw [interpret, interpret, runProgram_of_checks_le h]
  · exact (Moment.reaches_runProgram none code.toList input.toList).exists_look (Nat.zero_le _) h
  · rw [interpret, runProgram_stopped hm hlooks hk]
    rfl
  · rw [runProgram_stopped hm hlooks hk]

/-- A chain with two statements in its body, and one statement on each side. -/
def countingProgram : String :=
  "print(1)\nif 1 > 0:\n    print(2)\n    print(3)\nprint(4)"

/-- The program looks five times. Told to stop at its fourth look, it ends there. Told to stop only
then, it does what it does undisturbed. -/
theorem interpret_countingProgram :
    (3 < (runProgram none countingProgram.toList []).state.checks ∧
      ∃ m, (Moment.start countingProgram.toList []).Reaches none m ∧ m.Looks ∧
        m.state.checks = 3 ∧ interpret (some 3) countingProgram "" =
          ⟨"\n".intercalate m.state.output, some "Execution cancelled", 1⟩) ∧
    ((runProgram none countingProgram.toList []).state.checks ≤ 5 ∧
      interpret (some 5) countingProgram "" = interpret none countingProgram "") := by
  have hchecks : (runProgram none countingProgram.toList []).state.checks = 5 := by decide +kernel
  have hlate : 3 < (runProgram none countingProgram.toList []).state.checks :=
    Nat.lt_of_lt_of_eq (by decide) hchecks.symm
  have hnever : (runProgram none countingProgram.toList []).state.checks ≤ 5 :=
    Nat.le_of_eq hchecks
  obtain ⟨m, hm, hlooks, hk⟩ := (interpret_cancelled 3 countingProgram "").2.1 hlate
  exact ⟨⟨hlate, m, hm, hlooks, hk,
      ((interpret_cancelled 3 countingProgram "").2.2 m hm hlooks hk).1⟩,
    hnever, (interpret_cancelled 5 countingProgram "").1 hnever⟩

example : interpret (some 3) countingProgram "" = ⟨"1\n2", some "Execution cancelled", 1⟩ := by
  decide +kernel

end Autograder.Guest
