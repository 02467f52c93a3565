import Autograder.Guest.Statement
import Autograder.Proofs.Term.Scanning

/-!
# Scans over quoted text

What takes a line apart does so at characters of code, and a text written as a literal has none:
its own marks, brackets, commas and backslashes are all quoted. Whatever is looked for, a scan
passes over the literal as a whole, and behind it stands in code again.

## Main definitions

* `Scan.Quiet` — a text without a character of code
* `quotedArguments` — texts written as arguments of a call

## Main results

* `Scan.quiet_quote` — a literal is quiet
* `callArgument?_quotedArguments`, `splitTopLevel_quotedArguments` — arguments are found again
-/

namespace Autograder.Guest

namespace Scan

/-- Read from this state on, no character of the text is code. -/
def Quiet : Scan → List Char → Prop
  | _, [] => True
  | s, c :: text => s.isCode c = false ∧ (s.step c).Quiet text

theorem quiet_append {s : Scan} {text more : List Char} (h : s.Quiet text)
    (hmore : (s.steps text).Quiet more) : s.Quiet (text ++ more) := by
  induction text generalizing s with
  | nil => exact hmore
  | cons c text ih => exact ⟨h.1, ih h.2 hmore⟩

/-- A quoted character leaves a scan within the quotes. -/
theorem steps_quoteChar (c : Char) : (quoted '\'').steps (quoteChar c) = quoted '\'' := by
  rcases quoteChar_cases c with ⟨d, hq, _⟩ | ⟨hq, hslash, hmark⟩
  · rw [hq]
    rfl
  · rw [hq, steps_cons, steps_nil, step, if_neg (by simp [hslash]), if_neg (by simp [hmark])]

theorem quiet_quoteChar (c : Char) : (quoted '\'').Quiet (quoteChar c) := by
  rcases quoteChar_cases c with ⟨d, hq, _⟩ | ⟨hq, _, _⟩
  · rw [hq]
    exact ⟨rfl, rfl, trivial⟩
  · rw [hq]
    exact ⟨rfl, trivial⟩

theorem quiet_flatMap_quoteChar (text : List Char) :
    (quoted '\'').Quiet (text.flatMap quoteChar) ∧
      (quoted '\'').steps (text.flatMap quoteChar) = quoted '\'' := by
  induction text with
  | nil => exact ⟨trivial, rfl⟩
  | cons c text ih =>
    rw [List.flatMap_cons, steps_append, steps_quoteChar]
    refine ⟨quiet_append (quiet_quoteChar c) ?_, ih.2⟩
    rw [steps_quoteChar]
    exact ih.1

/-- **A literal is quiet**, and a scan stands in code behind it. -/
theorem quiet_quote (text : List Char) :
    code.Quiet (quote text) ∧ code.steps (quote text) = code := by
  obtain ⟨hquiet, hsteps⟩ := quiet_flatMap_quoteChar text
  have hopen : code.step '\'' = quoted '\'' := rfl
  rw [quote, steps_cons, hopen, steps_append, hsteps]
  refine ⟨⟨rfl, quiet_append hquiet ?_⟩, rfl⟩
  rw [hopen, hsteps]
  exact ⟨rfl, trivial⟩

end Scan

/-! ### Passing over quiet text -/

theorem splitClosing_of_quiet {scan : Scan} {text : List Char} (h : scan.Quiet text) (depth : Nat)
    (inside rest : List Char) :
    splitClosing scan depth inside (text ++ rest)
      = splitClosing (scan.steps text) depth (text.reverse ++ inside) rest := by
  induction text generalizing scan inside with
  | nil => rfl
  | cons c text ih =>
    simp only [List.cons_append, splitClosing, h.1]
    simpa using ih h.2 (c :: inside)

theorem splitFrom_of_quiet {scan : Scan} {text : List Char} (h : scan.Quiet text)
    (separator : Char) (depth : Int) (part rest : List Char) :
    splitFrom separator scan depth part (text ++ rest)
      = splitFrom separator (scan.steps text) depth (text.reverse ++ part) rest := by
  induction text generalizing scan part with
  | nil => rfl
  | cons c text ih =>
    simp only [List.cons_append, splitFrom, h.1]
    simpa using ih h.2 (c :: part)

/-! ### Quoted arguments -/

/-- Texts as they are written as the arguments of a call. -/
def quotedArguments (texts : List (List Char)) : List Char :=
  [',', ' '].intercalate (texts.map quote)

theorem quotedArguments_cons_cons (text next : List Char) (more : List (List Char)) :
    quotedArguments (text :: next :: more)
      = quote text ++ ',' :: ' ' :: quotedArguments (next :: more) := by
  simp [quotedArguments, List.intercalate_cons_cons]

/-- The bracket that closes a call of quoted arguments is the one behind them. -/
theorem splitClosing_quotedArguments (texts : List (List Char)) (inside : List Char) :
    splitClosing .code 0 inside (quotedArguments texts ++ [')'])
      = some (inside.reverse ++ quotedArguments texts, []) := by
  induction texts generalizing inside with
  | nil => simp [quotedArguments, splitClosing, Scan.isCode, isMark]
  | cons text more ih =>
    obtain ⟨hquiet, hsteps⟩ := Scan.quiet_quote text
    cases more with
    | nil =>
      have hsingle : quotedArguments [text] = quote text := by simp [quotedArguments]
      rw [hsingle, splitClosing_of_quiet hquiet, hsteps]
      simp [splitClosing, Scan.isCode, isMark]
    | cons next more =>
      rw [quotedArguments_cons_cons, List.append_assoc, splitClosing_of_quiet hquiet, hsteps]
      simp only [List.cons_append, splitClosing]
      have h := ih (' ' :: ',' :: ((quote text).reverse ++ inside))
      simpa [Scan.isCode, Scan.step, isMark] using h

/-- **A call of quoted arguments** has them as its argument. -/
theorem callArgument?_quotedArguments (name : List Char) (texts : List (List Char)) :
    callArgument? name (callText name (quotedArguments texts)) = some (quotedArguments texts) := by
  have hafter : Text.after? name (callText name (quotedArguments texts))
      = some ('(' :: (quotedArguments texts ++ [')'])) := Text.after?_eq_some_iff.mpr rfl
  have htrim : Text.trimStart ('(' :: (quotedArguments texts ++ [')']))
      = '(' :: (quotedArguments texts ++ [')']) := List.dropWhile_cons_of_neg (by decide)
  simp only [callArgument?, hafter, Option.map_some, htrim, splitClosing_quotedArguments,
    List.reverse_nil, List.nil_append]

/-- The commas that part quoted arguments are those between them. -/
theorem splitFrom_quotedArguments (text : List Char) (more : List (List Char)) (part : List Char) :
    splitFrom ',' .code 0 part (quotedArguments (text :: more))
      = (part.reverse ++ quote text) :: more.map fun text => ' ' :: quote text := by
  induction more generalizing text part with
  | nil =>
    obtain ⟨hquiet, hsteps⟩ := Scan.quiet_quote text
    have h := splitFrom_of_quiet hquiet ',' 0 part []
    rw [List.append_nil] at h
    have hsingle : quotedArguments [text] = quote text := by simp [quotedArguments]
    rw [hsingle, h, splitFrom]
    simp
  | cons next more ih =>
    obtain ⟨hquiet, hsteps⟩ := Scan.quiet_quote text
    rw [quotedArguments_cons_cons, splitFrom_of_quiet hquiet, hsteps]
    have h := ih next [' ']
    simpa [splitFrom, Scan.isCode, Scan.step, isMark, bracketStep] using h

/-- **Quoted arguments are parted** into one piece for each text. Behind a comma the piece starts
with a blank. -/
theorem splitTopLevel_quotedArguments (text : List Char) (more : List (List Char)) :
    splitTopLevel ',' (quotedArguments (text :: more))
      = quote text :: more.map fun text => ' ' :: quote text :=
  splitFrom_quotedArguments text more []

end Autograder.Guest
