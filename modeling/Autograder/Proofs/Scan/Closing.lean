import Autograder.Proofs.Scan.Nesting
import Autograder.Proofs.Text.Trim

/-!
# What a call is made of

The argument of a call stands in brackets behind the name, and the second bracket is the last
character of the text. So nothing is lost or added when a call is taken apart. The bracket that
closes is the first that belongs to no bracket of the argument, so the brackets of an argument
match, and every text whose brackets match can be one.

## Main definitions

* `LeadsOut` — a text that leads out of the brackets in front of it
* `IsCall` — a text that is a call of a name

## Main results

* `splitClosing_eq_some` — what stands on both sides of the closing bracket
* `splitClosing_append` — the closing bracket is found behind a text that leads out of the others
* `callArgument?_eq_some` — the text of a call
* `callArgument?_of_isCall` — the argument of a call
* `callArgument?_exact` — which texts are calls
-/

namespace Autograder.Guest

/-- Read from this state and at this depth, the text leads out of all round brackets into code, and
on no way there out of more brackets than there are. -/
structure LeadsOut (s : Scan) (depth : Int) (text : List Char) : Prop where
  closed : s.steps text = .code
  nonneg : ∀ beginning, beginning <+: text → 0 ≤ depth + s.depth roundStep beginning
  depth_eq : depth + s.depth roundStep text = 0

theorem leadsOut_nil {s : Scan} {depth : Int} : LeadsOut s depth [] ↔ s = .code ∧ depth = 0 := by
  constructor
  · rintro ⟨hclosed, -, hdepth⟩
    exact ⟨hclosed, by simpa using hdepth⟩
  · rintro ⟨rfl, rfl⟩
    refine ⟨rfl, fun beginning hb => ?_, rfl⟩
    rw [List.prefix_nil.mp hb]
    exact Int.le_refl 0

/-- One character changes the state and the depth. -/
theorem leadsOut_cons {s : Scan} {depth : Int} {c : Char} {text : List Char} :
    LeadsOut s depth (c :: text) ↔
      0 ≤ depth ∧ LeadsOut (s.step c) (depth + if s.isCode c then roundStep c else 0) text := by
  constructor
  · rintro ⟨hclosed, hnonneg, hdepth⟩
    refine ⟨by simpa using hnonneg [] List.nil_prefix, hclosed, fun beginning hb => ?_, ?_⟩
    · have := hnonneg (c :: beginning) (List.cons_prefix_cons.mpr ⟨rfl, hb⟩)
      rwa [Scan.depth, ← Int.add_assoc] at this
    · rwa [Scan.depth, ← Int.add_assoc] at hdepth
  · rintro ⟨hstart, hclosed, hnonneg, hdepth⟩
    refine ⟨hclosed, fun beginning hb => ?_, ?_⟩
    · rcases List.prefix_cons_iff.mp hb with rfl | ⟨rest, rfl, hrest⟩
      · simpa using hstart
      · rw [Scan.depth, ← Int.add_assoc]
        exact hnonneg rest hrest
    · rw [Scan.depth, ← Int.add_assoc]
      exact hdepth

theorem leadsOut_zero {text : List Char} :
    LeadsOut .code 0 text ↔ Matched roundStep text := by
  constructor
  · rintro ⟨hclosed, hnonneg, hdepth⟩
    exact ⟨hclosed, by simpa using hnonneg, by simpa using hdepth⟩
  · rintro ⟨hclosed, hnonneg, hdepth⟩
    exact ⟨hclosed, by simpa using hnonneg, by simpa using hdepth⟩

/-- The depth that is kept while no bracket closes. -/
theorem depth_of_not_closing {s : Scan} {c : Char} (h : ¬(s.isCode c && c == ')') = true)
    (depth : Nat) :
    ((if s.isCode c && c == '(' then depth + 1 else depth : Nat) : Int)
      = depth + if s.isCode c then roundStep c else 0 := by
  cases hcode : s.isCode c with
  | false => simp
  | true =>
    have hclosing : c ≠ ')' := by simpa [hcode] using h
    by_cases hopening : c = '('
    · simp [hopening, roundStep]
    · simp [hopening, roundStep]

/-- The text is what stands before the closing bracket, the bracket, and what stands behind it. -/
theorem splitClosing_eq_some {scan : Scan} {depth : Nat} {inside text a b : List Char}
    (h : splitClosing scan depth inside text = some (a, b)) :
    ∃ argument, a = inside.reverse ++ argument ∧ text = argument ++ ')' :: b ∧
      LeadsOut scan depth argument := by
  induction text generalizing scan depth inside with
  | nil => simp [splitClosing] at h
  | cons c rest ih =>
    simp only [splitClosing] at h
    split at h
    · rename_i hclosing
      obtain ⟨hcode, rfl⟩ : scan.isCode c = true ∧ c = ')' := by simpa using hclosing
      split at h
      · obtain ⟨rfl, rfl⟩ := Prod.mk.inj (Option.some.inj h)
        exact ⟨[], by simp, rfl, leadsOut_nil.mpr ⟨Scan.eq_code_of_isCode hcode, rfl⟩⟩
      · rename_i depth
        obtain ⟨argument, rfl, rfl, hout⟩ := ih h
        refine ⟨')' :: argument, by simp, rfl, leadsOut_cons.mpr ⟨by omega, ?_⟩⟩
        have hdepth : ((depth + 1 : Nat) : Int) + roundStep ')' = depth := by
          rw [roundStep]
          omega
        rwa [if_pos hcode, hdepth]
    · rename_i hclosing
      obtain ⟨argument, rfl, rfl, hout⟩ := ih h
      refine ⟨c :: argument, by simp, rfl, leadsOut_cons.mpr ⟨by omega, ?_⟩⟩
      rwa [← depth_of_not_closing hclosing]

/-- The bracket that closes is the one behind a text that leads out of all the others. -/
theorem splitClosing_append {scan : Scan} {depth : Nat} {argument : List Char}
    (h : LeadsOut scan depth argument) (inside rest : List Char) :
    splitClosing scan depth inside (argument ++ ')' :: rest)
      = some (inside.reverse ++ argument, rest) := by
  induction argument generalizing scan depth inside with
  | nil =>
    obtain ⟨rfl, hdepth⟩ := leadsOut_nil.mp h
    obtain rfl : depth = 0 := by omega
    simp [splitClosing, Scan.isCode, isMark]
  | cons c argument ih =>
    obtain ⟨-, hout⟩ := leadsOut_cons.mp h
    simp only [List.cons_append, splitClosing]
    split
    · rename_i hclosing
      obtain ⟨hcode, rfl⟩ : scan.isCode c = true ∧ c = ')' := by simpa using hclosing
      rw [if_pos hcode, roundStep] at hout
      cases depth with
      | zero =>
        have hstart := hout.nonneg [] List.nil_prefix
        rw [Scan.depth_nil] at hstart
        omega
      | succ depth =>
        have hdepth : ((depth + 1 : Nat) : Int) + -1 = depth := by omega
        rw [hdepth] at hout
        simpa using ih hout (')' :: inside)
    · rename_i hclosing
      rw [← depth_of_not_closing hclosing] at hout
      simpa using ih hout (c :: inside)

/-- **The text of a call** is the name, blanks, and the argument in brackets. The brackets of the
argument match. -/
theorem callArgument?_eq_some {name text argument : List Char}
    (h : callArgument? name text = some argument) :
    ∃ blanks, (∀ c ∈ blanks, Text.isBlank c = true) ∧
      text = name ++ (blanks ++ '(' :: (argument ++ [')'])) ∧ Matched roundStep argument := by
  rw [callArgument?] at h
  split at h
  · rename_i rest hrest
    split at h
    · rename_i inside hsplit
      obtain rfl : inside = argument := Option.some.inj h
      obtain ⟨behind, hbehind, htrim⟩ := Option.map_eq_some_iff.mp hrest
      obtain ⟨inner, hinner, hrest, hout⟩ := splitClosing_eq_some hsplit
      obtain rfl : inside = inner := hinner
      have hblanks : behind.takeWhile Text.isBlank ++ '(' :: (inside ++ [')']) = behind := by
        rw [← hrest, ← htrim]
        exact List.takeWhile_append_dropWhile
      refine ⟨behind.takeWhile Text.isBlank, List.all_eq_true.mp List.all_takeWhile, ?_,
        leadsOut_zero.mp hout⟩
      rw [Text.after?_eq_some_iff.mp hbehind, hblanks]
    · cases h
  · cases h

/-- The text is the name, blanks, and the argument in round brackets. The brackets of the argument
match, and its quoted text is closed. -/
structure IsCall (name argument text : List Char) : Prop where
  written : ∃ blanks, (∀ c ∈ blanks, Text.isBlank c = true) ∧
    text = name ++ (blanks ++ '(' :: (argument ++ [')']))
  matched : Matched roundStep argument

/-- **The argument of a call** is found. -/
theorem callArgument?_of_isCall {name argument text : List Char} (h : IsCall name argument text) :
    callArgument? name text = some argument := by
  obtain ⟨⟨blanks, hblanks, rfl⟩, hmatched⟩ := h
  have hafter : Text.after? name (name ++ (blanks ++ '(' :: (argument ++ [')'])))
      = some (blanks ++ '(' :: (argument ++ [')'])) := Text.after?_eq_some_iff.mpr rfl
  have htrim : Text.trimStart (blanks ++ '(' :: (argument ++ [')']))
      = '(' :: (argument ++ [')']) := by
    rw [Text.trimStart_append_of_blank hblanks]
    exact List.dropWhile_cons_of_neg (by decide)
  have hsplit : splitClosing .code 0 [] (argument ++ [')']) = some (argument, []) :=
    splitClosing_append (leadsOut_zero.mpr hmatched) [] []
  simp only [callArgument?, hafter, Option.map_some, htrim, hsplit]

/-- **A text in brackets.** If its own brackets match, it is what the brackets hold. -/
theorem callArgument?_brackets {inner : List Char} (h : Matched roundStep inner) :
    callArgument? [] ('(' :: (inner ++ [')'])) = some inner :=
  callArgument?_of_isCall ⟨⟨[], by simp, rfl⟩, h⟩

/-- **Which texts are calls.** A text has an argument exactly if it is a call of the name with that
argument, so a bracket that closes too early or too late, or within quotes, makes it none. -/
theorem callArgument?_exact (name text : List Char) :
    (∀ argument, callArgument? name text = some argument ↔ IsCall name argument text) ∧
      (callArgument? name text = none ↔ ∀ argument, ¬ IsCall name argument text) := by
  have hcall (argument : List Char) :
      callArgument? name text = some argument ↔ IsCall name argument text := by
    constructor
    · intro h
      obtain ⟨blanks, hblanks, hwritten, hmatched⟩ := callArgument?_eq_some h
      exact ⟨⟨blanks, hblanks, hwritten⟩, hmatched⟩
    · exact callArgument?_of_isCall
  refine ⟨hcall, ?_⟩
  rw [Option.eq_none_iff_forall_ne_some]
  constructor
  · intro h argument hargument
    exact h argument ((hcall argument).mpr hargument)
  · intro h argument hargument
    exact h argument ((hcall argument).mp hargument)

example : callArgument? "int".toList "int (')' + f(x))".toList = some "')' + f(x)".toList ∧
    callArgument? "int".toList "int(a) + int(b)".toList = none := by
  decide

end Autograder.Guest
