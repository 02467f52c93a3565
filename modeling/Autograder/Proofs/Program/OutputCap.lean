import Autograder.Proofs.Expression.Written
import Autograder.Proofs.Program.Printing
import Autograder.Proofs.Program.WellFormed

/-!
# How much a program may print

A run counts the bytes of what it prints and refuses a line that would make them too many. Here the
same is said of the output, which is the lines that its steps are about to print, joined. As long as
these are within the cap the output has all of them, and it always has fewer bytes than the cap
allows, since no line feed stands behind the last of them.

## Main results

* `utf8ByteSize_joined` — the bytes of joined lines
* `interpret_output_capped` — the output of a run
-/

namespace Autograder.Guest

/-! ### The volume of an output -/

/-- Lines joined by a single byte have one such byte less than they have lines. -/
theorem utf8ByteSize_joined {separator : String} (hseparator : separator.utf8ByteSize = 1)
    {lines : List String} (h : lines ≠ []) :
    (separator.intercalate lines).utf8ByteSize + 1 = volume lines := by
  induction lines with
  | nil => exact absurd rfl h
  | cons line lines ih =>
    cases lines with
    | nil => rw [String.intercalate_singleton, volume_singleton]
    | cons next lines =>
      have hrest := ih (List.cons_ne_nil next lines)
      have hvolume : volume (line :: next :: lines)
          = line.utf8ByteSize + 1 + volume (next :: lines) := rfl
      rw [String.intercalate_cons_cons, String.utf8ByteSize_append, String.utf8ByteSize_append,
        hvolume, hseparator]
      omega

theorem utf8ByteSize_joined_lt {lines : List String} (h : volume lines ≤ maxOutputBytes) :
    ("\n".intercalate lines).utf8ByteSize < maxOutputBytes := by
  cases lines with
  | nil => decide
  | cons line lines =>
    have hfeed : "\n".utf8ByteSize = 1 := by decide
    have hsize := utf8ByteSize_joined hfeed (List.cons_ne_nil line lines)
    omega

/-! ### The output of a run -/

/-- **The output of a run is capped.** It has fewer bytes than the cap allows. As long as the lines
that print statements are about to print are within the cap, they are the output, and the run does
not end for its sake. The first line beyond the cap ends the run, and the output is the lines before
it. -/
theorem interpret_output_capped (stop : StopFrom) (code input : String) :
    (interpret stop code input).output.utf8ByteSize < maxOutputBytes ∧
    (∃ lines, (Moment.start code.toList input.toList).Logs stop lines
      (.ended (runProgram stop code.toList input.toList))) ∧
    ∀ lines m, (Moment.start code.toList input.toList).Logs stop lines m →
      (volume lines ≤ maxOutputBytes →
        m.state.output = lines ∧ ∀ e, m = .ended e →
          (interpret stop code input).output = "\n".intercalate lines ∧
            e.fault ≠ some .outputTooLong) ∧
      (maxOutputBytes < volume lines → ∃ printed refused,
        lines = printed ++ [refused] ∧ volume printed ≤ maxOutputBytes ∧
          interpret stop code input = ⟨"\n".intercalate printed,
            some "MemoryError: output exceeds 8388608 bytes", 1⟩) := by
  have hend := Moment.reaches_runProgram stop code.toList input.toList
  obtain ⟨all, hall⟩ := hend.exists_logs
  refine ⟨utf8ByteSize_joined_lt hall.shows.volume_le, ⟨all, hall⟩, ?_⟩
  intro lines m hlogs
  refine ⟨fun hwithin => ?_, fun hbeyond => ?_⟩
  · cases hlogs.shows with
    | within _ houtput _ hm =>
      refine ⟨houtput, ?_⟩
      rintro e rfl
      have he := hlogs.reaches.eq_runProgram
      refine ⟨?_, ?_⟩
      · change e.state.output = lines at houtput
        rw [interpret, Ending.outcome, ← he, houtput]
      · intro hfault
        obtain ⟨s, fault⟩ := e
        obtain rfl : fault = some .outputTooLong := hfault
        exact hm ⟨s, rfl⟩
    | beyond _ _ hlt => omega
  · cases hlogs.shows with
    | within hle => omega
    | @beyond printed refused s hlines hprinted _ hm houtput =>
      subst hm
      have he := hlogs.reaches.eq_runProgram
      refine ⟨printed, refused, hlines, hprinted, ?_⟩
      rw [interpret, Ending.outcome, ← he, houtput]
      rfl

/-- Prints two lines before it ends in a fault. -/
def printProgram : String :=
  "print('a')
print('ab')
x = input()
print('b')"

/-- Prints a line of input. -/
def echoProgram : String :=
  "x = input()
print(x)"

/-- The name `x` is shown as the text that it stands for. -/
theorem shownAs_name {vars : Bindings} {s : String} (h : vars.get? "x" = some (.str s))
    {pad : List Char} (hpad : ∀ c ∈ pad, Text.isBlank c = true) :
    ShownAs vars (pad ++ ['x']) s := by
  have hname : isIdentifier "x".toList = true := by decide
  have hvalue := evaluate_bound hname h hpad (List.forall_mem_nil _)
  rw [List.append_nil] at hvalue
  exact ⟨_, hvalue, rfl⟩

/-- The line of input is about to be printed, however long it is. -/
theorem logs_echoProgram {s : String} (hempty : s ≠ "") (hfeed : '\n' ∉ s.toList) :
    ∃ m, (Moment.start echoProgram.toList s.toList).Logs none [s] m := by
  have hlines : Line.ofCode echoProgram.toList
      = [⟨0, 0, "x = input()".toList⟩, ⟨1, 0, "print(x)".toList⟩] := by decide
  have hprint : Statement.ofText "print(x)".toList = .print ['x'] := by decide
  have hline : printLine (Table.insert .empty "x" (.str s)) ['x'] = .ok s := by
    have hsingle : splitTopLevel ',' ['x'] = [['x']] := by decide
    have hshown : ShownAs (Table.insert .empty "x" (.str s)) ['x'] s :=
      shownAs_name (Table.get?_insert_self _ _ _) (List.forall_mem_nil _)
    rw [printLine_eq_ok_iff, hsingle]
    exact ⟨[s], .cons hshown .nil, String.intercalate_singleton⟩
  have hsilent : (Moment.running (State.initial [s])
      [[⟨0, 0, "x = input()".toList⟩, ⟨1, 0, "print(x)".toList⟩]]).offered? none = none := by
    rw [Moment.offered?, Moment.ofText_input]
    rfl
  have hoffered : (Moment.running ⟨Table.insert .empty "x" (.str s), [], 1, [], 0, 1, [0]⟩
      [[⟨1, 0, "print(x)".toList⟩]]).offered? none = some s := by
    rw [Moment.offered?, hprint]
    dsimp only
    rw [hline]
    rfl
  have hlogs := (@Moment.Logs.refl none (.running (State.initial [s])
    [[⟨0, 0, "x = input()".toList⟩, ⟨1, 0, "print(x)".toList⟩]])).tail.tail
  rw [Moment.step_input, hsilent, hoffered] at hlogs
  rw [Moment.start, hlines, Text.lines_of_line hempty hfeed]
  exact ⟨_, hlogs⟩

/-- The lines printed before a fault are the output. A line that alone is beyond the cap is none of
it. -/
theorem output_printProgram :
    (Moment.start printProgram.toList "".toList).Logs none ["a", "ab"]
      (.ended (runProgram none printProgram.toList "".toList)) ∧
    (interpret none printProgram "").output = "\n".intercalate ["a", "ab"] ∧
    interpret none echoProgram (letters maxOutputBytes)
      = ⟨"", some "MemoryError: output exceeds 8388608 bytes", 1⟩ := by
  obtain ⟨-, ⟨lines, hlogs⟩, h⟩ := interpret_output_capped none printProgram ""
  have herror : (interpret none printProgram "").error = some Fault.endOfInput.message := by
    decide +kernel
  have hprinted : (runProgram none printProgram.toList "".toList).state.output = ["a", "ab"] := by
    decide +kernel
  obtain ⟨hwithin, hbeyond⟩ := h lines _ hlogs
  have hle : volume lines ≤ maxOutputBytes := by
    by_contra hlt
    obtain ⟨printed, refused, -, -, hinterpret⟩ := hbeyond (Nat.lt_of_not_le hlt)
    rw [hinterpret] at herror
    exact absurd (Option.some.inj herror) (by decide +kernel)
  obtain ⟨houtput, hend⟩ := hwithin hle
  obtain rfl : ["a", "ab"] = lines := hprinted.symm.trans houtput
  refine ⟨hlogs, (hend _ rfl).1, ?_⟩
  obtain ⟨m, hm⟩ := logs_echoProgram (letters_ne_empty (by decide : 0 < maxOutputBytes))
    (feed_notMem_letters maxOutputBytes)
  have hlong : maxOutputBytes < volume [letters maxOutputBytes] := by
    rw [volume_singleton, utf8ByteSize_letters]
    exact Nat.lt_succ_self maxOutputBytes
  obtain ⟨-, -, hecho⟩ := interpret_output_capped none echoProgram (letters maxOutputBytes)
  obtain ⟨printed, refused, hlines, -, hinterpret⟩ := (hecho _ m hm).2 hlong
  obtain rfl : printed = [] := by
    have hlength := congrArg List.length hlines
    rw [List.length_append, List.length_singleton, List.length_singleton] at hlength
    exact List.eq_nil_of_length_eq_zero (by omega)
  exact hinterpret

end Autograder.Guest
