import Autograder.Proofs.Expression.Faults
import Autograder.Proofs.Program.Effects
import Autograder.Proofs.Program.Quotation
import Autograder.Proofs.Scan.Closing

/-!
# What the steps of a run print

The lines that the steps of a run are about to print are the values of the arguments of print
statements, one line for each statement that is executed and whose arguments have values
(`Moment.offered?`, `Moment.Logs`). As long as their volume is within the cap, they are the output,
their bytes are counted, and no fault says that the output is too long. The first line that goes
beyond the cap ends the run with that fault. It is counted as well, but not printed.

No other statement prints, and no other fault is taken for that one: a fault of computing a value
never is (`Computed`).

## Main definitions

* `volume` — the bytes of lines, with a line feed for each
* `Moment.offered?` — the line that is about to be printed
* `Moment.Logs` — the lines that are about to be printed from one moment to another
* `Moment.Shows` — the lines within the cap are the output

## Main results

* `silent_execute` — only a print statement prints
* `Moment.Logs.shows` — what is printed of the lines that are about to be
-/

namespace Autograder.Guest

/-! ### The volume of an output -/

/-- The bytes of lines, with a line feed for each. -/
def volume : List String → Nat
  | [] => 0
  | line :: lines => line.utf8ByteSize + 1 + volume lines

@[simp] theorem volume_nil : volume [] = 0 := rfl

theorem volume_append (lines more : List String) :
    volume (lines ++ more) = volume lines + volume more := by
  induction lines with
  | nil => rw [List.nil_append, volume_nil, Nat.zero_add]
  | cons line lines ih =>
    rw [List.cons_append, volume, ih, volume]
    omega

theorem volume_singleton (line : String) : volume [line] = line.utf8ByteSize + 1 := rfl

/-! ### What does not print -/

/-- Nothing was printed and counted between the states. -/
structure State.SamePrinted (s t : State) : Prop where
  printed : t.printed = s.printed
  printedBytes : t.printedBytes = s.printedBytes

theorem State.SamePrinted.refl (s : State) : s.SamePrinted s :=
  ⟨rfl, rfl⟩

theorem State.SamePrinted.of_bare {s t : State} (h : t.bare = s.bare) : s.SamePrinted t := by
  have hprinted := congrArg State.printed h
  have hbytes := congrArg State.printedBytes h
  exact ⟨hprinted, hbytes⟩

/-- What ended so has printed nothing since the state, and was not ended by too long an output. -/
structure Ending.Silent (s : State) (e : Ending) : Prop where
  same : s.SamePrinted e.state
  fault : e.fault ≠ some .outputTooLong

namespace Ending.Silent

variable {s t : State}

theorem of_no_fault (h : s.SamePrinted t) : Silent s ⟨t, none⟩ :=
  ⟨h, by simp⟩

theorem withValue {α : Type} (h : s.SamePrinted t) {result : Except Fault α}
    (hresult : Computed result) {next : α → Ending} (hnext : ∀ a, Silent s (next a)) :
    Silent s (t.withValue result next) := by
  cases result with
  | ok a => exact hnext a
  | error f =>
    refine ⟨h, ?_⟩
    rintro ⟨⟩
    exact Bool.false_ne_true (hresult _ rfl)

theorem reading {next : State → String → Ending}
    (hnext : ∀ t line, s.SamePrinted t → Silent s (next t line)) :
    Silent s (s.reading next) := by
  rw [State.reading]
  split
  · exact ⟨.refl s, by simp⟩
  · exact hnext _ _ ⟨rfl, rfl⟩

theorem bindFields (kind : NumberKind) (fields : List (List Char × List Char))
    (h : s.SamePrinted t) : Silent s (t.bindFields kind fields) := by
  induction fields generalizing t with
  | nil => exact of_no_fault h
  | cons field fields ih =>
    exact withValue h (computed_read kind field.2) fun v => ih ⟨h.printed, h.printedBytes⟩

theorem readFields (names : List (List Char)) (kind : NumberKind) (line : String)
    (h : s.SamePrinted t) : Silent s (t.readFields names kind line) := by
  rw [State.readFields]
  split
  · exact ⟨h, by simp⟩
  split
  · exact ⟨h, by simp⟩
  · exact bindFields kind _ h

end Ending.Silent

/-- **Only a print statement prints.** -/
theorem silent_execute {statement : Statement} (h : ∀ arguments, statement ≠ .print arguments)
    (s : State) : Ending.Silent s (statement.execute s) := by
  cases statement with
  | print arguments => exact absurd rfl (h arguments)
  | readFields names kind =>
    rw [Statement.execute]
    exact .reading fun t line ht => .readFields names kind line ht
  | readNumber name kind =>
    rw [Statement.execute]
    exact .reading fun t line ht =>
      .withValue ht (computed_read kind _) fun v => .of_no_fault ⟨ht.printed, ht.printedBytes⟩
  | readLine name trimmed =>
    rw [Statement.execute]
    exact .reading fun t line ht => .of_no_fault ⟨ht.printed, ht.printedBytes⟩
  | assign name op expression =>
    have hvalue := computed_evaluate s.vars expression
    cases op with
    | none => exact .withValue (.refl s) hvalue fun v => .of_no_fault ⟨rfl, rfl⟩
    | some op =>
      refine .withValue (.refl s) hvalue fun v => ?_
      split
      · exact ⟨.refl s, by simp⟩
      · exact .withValue (.refl s) (computed_binary op _ v) fun new => .of_no_fault ⟨rfl, rfl⟩
  | ignored => exact .of_no_fault (.refl s)

theorem computed_choose (s : State) (branches : List Branch) :
    Computed (choose s branches).2 := by
  fun_induction choose s branches with
  | case1 | case2 | case4 => exact .ok _
  | case3 s branch rest guard hg f he =>
    exact .error (computed_evaluateCondition s.vars guard f he)
  | case5 s branch rest guard hg he ih => exact ih

theorem Assignment.statement_ne_print (a : Assignment) (arguments : List Char) :
    a.statement ≠ .print arguments := by
  rw [Assignment.statement]
  dsimp only
  repeat' split
  all_goals exact Statement.noConfusion

/-- A print statement is written as a call. -/
theorem isCall_of_print {text arguments : List Char}
    (h : Statement.ofText text = .print arguments) : IsCall "print".toList arguments text := by
  rw [Statement.ofText] at h
  split at h
  · rename_i argument hcall
    obtain rfl : argument = arguments := by injection h
    obtain ⟨blanks, hblanks, hwritten, hmatched⟩ := callArgument?_eq_some hcall
    exact ⟨⟨blanks, hblanks, hwritten⟩, hmatched⟩
  split at h
  · rename_i a _
    exact absurd h (a.statement_ne_print arguments)
  · cases h

/-- A print statement is no header. -/
theorem ofText?_of_print {text arguments : List Char}
    (h : Statement.ofText text = .print arguments) : Header.ofText? text = none := by
  obtain ⟨⟨blanks, -, rfl⟩, -⟩ := isCall_of_print h
  rw [← List.cons_append, ← List.append_assoc, ← List.append_assoc]
  exact Header.ofText?_append_of_ne (by decide) _

/-- A print statement is no comment. -/
theorem Line.isSignificant_of_print {line : Line} {arguments : List Char}
    (h : Statement.ofText line.text = .print arguments) : line.isSignificant = true := by
  obtain ⟨⟨blanks, -, htext⟩, -⟩ := isCall_of_print h
  rw [Line.isSignificant_iff, htext]
  refine ⟨List.cons_ne_nil _ _, ?_⟩
  rintro ⟨⟩

/-! ### The lines that are about to be printed -/

namespace Moment

/-- The line that the moment is about to print: a print statement comes next, and its arguments have
values. -/
def offered? (stop : StopFrom) : Moment → Option String
  | running s ((line :: _) :: _) =>
    if s.isStopped stop then none
    else
      match Statement.ofText line.text with
      | .print arguments => (printLine s.vars arguments).toOption
      | _ => none
  | _ => none

/-- From the first moment to the second, these lines were about to be printed. -/
inductive Logs (stop : StopFrom) (m₀ : Moment) : List String → Moment → Prop
  | refl : Logs stop m₀ [] m₀
  | tail {lines m} : Logs stop m₀ lines m →
      Logs stop m₀ (lines ++ (m.offered? stop).toList) (m.step stop)

theorem Logs.reaches {stop : StopFrom} {m₀ m : Moment} {lines : List String}
    (h : m₀.Logs stop lines m) : m₀.Reaches stop m := by
  induction h with
  | refl => exact .refl
  | tail _ ih => exact ih.tail rfl

theorem Reaches.exists_logs {stop : StopFrom} {m₀ m : Moment} (h : m₀.Reaches stop m) :
    ∃ lines, m₀.Logs stop lines m := by
  induction h with
  | refl => exact ⟨[], .refl⟩
  | tail _ hstep ih =>
    obtain ⟨lines, hlines⟩ := ih
    exact ⟨_, hstep ▸ hlines.tail⟩

/-- The moment is the end of a run whose output was too long. -/
def IsCutOff (m : Moment) : Prop :=
  ∃ s, m = ended ⟨s, some .outputTooLong⟩

theorem not_isCutOff_running (s : State) (blocks : List (List Line)) :
    ¬ (running s blocks).IsCutOff := by
  rintro ⟨t, ⟨⟩⟩

theorem not_isCutOff_behind {s : State} {e : Ending} (h : e.Silent s)
    (blocks : List (List Line)) : ¬ (behind e blocks).IsCutOff := by
  rw [behind]
  split
  · exact not_isCutOff_running _ _
  · rintro ⟨t, heq⟩
    obtain rfl : e = ⟨t, some .outputTooLong⟩ := by injection heq
    exact h.fault rfl

/-- A statement that is executed without being about to print is silent: it prints nothing, or its
arguments have no values. -/
theorem silent_of_offered? {stop : StopFrom} {s : State} {line : Line} {rest : List Line}
    {blocks : List (List Line)} (hstopped : ¬ s.isStopped stop = true)
    (h : (running s ((line :: rest) :: blocks)).offered? stop = none) :
    Ending.Silent (s.check.visit line)
      ((Statement.ofText line.text).execute (s.check.visit line)) := by
  by_cases hprint : ∃ arguments, Statement.ofText line.text = .print arguments
  · obtain ⟨arguments, hprint⟩ := hprint
    rw [offered?, if_neg hstopped, hprint] at h
    rw [hprint, Statement.execute, State.vars_visit, State.vars_check]
    cases hline : printLine s.vars arguments with
    | ok text => simp [hline, Except.toOption] at h
    | error f =>
      refine ⟨.refl _, ?_⟩
      rintro ⟨⟩
      exact Bool.false_ne_true (computed_printLine s.vars arguments _ hline)
  · exact silent_execute (not_exists.mp hprint) _

/-- **A step that is not about to print** leaves the output as it is, and does not cut it off. -/
theorem silent_step {stop : StopFrom} {m : Moment} (h : m.offered? stop = none)
    (hm : ¬ m.IsCutOff) :
    m.state.SamePrinted (m.step stop).state ∧ ¬ (m.step stop).IsCutOff := by
  fun_cases step stop m with
  | case1 => exact ⟨.refl _, hm⟩
  | case2 =>
    refine ⟨.refl _, ?_⟩
    rintro ⟨t, ⟨⟩⟩
  | case3 | case4 => exact ⟨.refl _, not_isCutOff_running _ _⟩
  | case5 =>
    refine ⟨⟨rfl, rfl⟩, ?_⟩
    rintro ⟨t, ⟨⟩⟩
  | case6 s line rest blocks _ _ guard _ s' f hc =>
    have hbare := (congrArg (fun r => r.1.bare) hc).symm.trans (bare_choose s.check _)
    refine ⟨.of_bare hbare, ?_⟩
    rintro ⟨t, ⟨⟩⟩
    have hcomputed := computed_choose s.check (chain line guard rest).1
    rw [hc] at hcomputed
    exact Bool.false_ne_true (hcomputed _ rfl)
  | case7 s line rest blocks _ _ guard _ s' body hc =>
    have hbare := (congrArg (fun r => r.1.bare) hc).symm.trans (bare_choose s.check _)
    exact ⟨.of_bare hbare, not_isCutOff_running _ _⟩
  | case8 s line rest blocks _ hstopped =>
    have hsilent := silent_of_offered? hstopped h
    rw [state_behind]
    exact ⟨⟨hsilent.same.printed, hsilent.same.printedBytes⟩, not_isCutOff_behind hsilent _⟩

/-- A step that is about to print gives the line to the state. -/
theorem step_of_offered? {stop : StopFrom} {m : Moment} {text : String}
    (h : m.offered? stop = some text) : ∃ s line rest blocks,
      m = running s ((line :: rest) :: blocks) ∧
        m.step stop = behind ((s.check.visit line).print text) (rest :: blocks) := by
  fun_cases offered? stop m with
  | case1 => simp [offered?, *] at h
  | case2 s line rest blocks hstopped arguments hprint =>
    rw [offered?, if_neg hstopped, hprint] at h
    have hline : printLine s.vars arguments = .ok text := by
      cases hresult : printLine s.vars arguments with
      | ok other => simpa [hresult, Except.toOption] using h
      | error f => simp [hresult, Except.toOption] at h
    refine ⟨s, line, rest, blocks, rfl, ?_⟩
    have hheader := ofText?_of_print hprint
    rw [step_statement (Line.isSignificant_of_print hprint) (Bool.not_eq_true _ ▸ hstopped)
      (by simp [hheader]), hprint, Statement.execute, State.vars_visit, State.vars_check, hline,
      State.withValue]
  | case3 => simp [offered?, *] at h
  | case4 => simp [offered?] at h

/-- What is printed of the lines that were about to be, up to the moment. -/
inductive Shows (lines : List String) (m : Moment) : Prop
  /-- All of them, as long as they are within the cap. Their bytes are counted. -/
  | within : volume lines ≤ maxOutputBytes → m.state.output = lines →
      m.state.printedBytes = volume lines → ¬ m.IsCutOff → Shows lines m
  /-- All but the last, which ended the run. -/
  | beyond {printed refused s} : lines = printed ++ [refused] → volume printed ≤ maxOutputBytes →
      maxOutputBytes < volume lines → m = ended ⟨s, some .outputTooLong⟩ → s.output = printed →
      Shows lines m

/-- **A line that is about to be printed** is printed if it is within the cap, and ends the run if
it is not. -/
theorem Shows.print {s : State} {lines : List String} (hvolume : volume lines ≤ maxOutputBytes)
    (houtput : s.output = lines) (hcounted : s.printedBytes = volume lines) (text : String)
    (blocks : List (List Line)) : Shows (lines ++ [text]) (behind (s.print text) blocks) := by
  have hmore : s.printedBytes + text.utf8ByteSize + 1 = volume (lines ++ [text]) := by
    rw [volume_append, volume_singleton, hcounted, Nat.add_assoc]
  rw [State.print, hmore]
  split
  · rename_i hle
    refine .within hle ?_ rfl (not_isCutOff_running _ _)
    change (text :: s.printed).reverse = _
    rw [List.reverse_cons, ← houtput, State.output]
  · rename_i hlt
    exact .beyond rfl hvolume (Nat.lt_of_not_le hlt) rfl houtput

theorem Shows.step {stop : StopFrom} {m : Moment} {lines : List String} (h : Shows lines m) :
    Shows (lines ++ (m.offered? stop).toList) (m.step stop) := by
  cases h with
  | within hvolume houtput hcounted hm =>
    cases hoffered : m.offered? stop with
    | none =>
      obtain ⟨hsame, hstep⟩ := silent_step hoffered hm
      rw [Option.toList_none, List.append_nil]
      refine .within hvolume ?_ (hsame.printedBytes.trans hcounted) hstep
      rw [← houtput, State.output, State.output, hsame.printed]
    | some text =>
      obtain ⟨s, line, rest, blocks, rfl, hstep⟩ := step_of_offered? hoffered
      rw [hstep]
      exact @Shows.print (s.check.visit line) lines hvolume houtput hcounted text _
  | @beyond printed refused s hlines hprinted hbeyond hm houtput =>
    subst hm
    have hoffered : (ended ⟨s, some .outputTooLong⟩).offered? stop = none := rfl
    rw [hoffered, Option.toList_none, List.append_nil]
    exact .beyond hlines hprinted hbeyond rfl houtput

/-- **What is printed of the lines that are about to be.** -/
theorem Logs.shows {stop : StopFrom} {code input : List Char} {m : Moment} {lines : List String}
    (h : (start code input).Logs stop lines m) : Shows lines m := by
  induction h with
  | refl => exact .within (by decide) rfl rfl (not_isCutOff_running _ _)
  | tail _ ih => exact ih.step

/-- What is printed is within the cap. -/
theorem Shows.volume_le {m : Moment} {lines : List String} (h : Shows lines m) :
    volume m.state.output ≤ maxOutputBytes := by
  cases h with
  | within hvolume houtput _ _ => rwa [houtput]
  | beyond _ hprinted _ hm houtput =>
    subst hm
    exact houtput ▸ hprinted

/-- The printed lines are counted, unless the run ended for their sake. -/
theorem Shows.printedBytes_eq {m : Moment} {lines : List String} (h : Shows lines m)
    (hm : ¬ m.IsCutOff) : m.state.printedBytes = volume m.state.output := by
  cases h with
  | within _ houtput hcounted _ => rwa [houtput]
  | beyond _ _ _ hend _ => exact absurd ⟨_, hend⟩ hm

end Moment

end Autograder.Guest
