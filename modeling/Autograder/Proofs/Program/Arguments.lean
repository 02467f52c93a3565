import Autograder.Guest.Machine
import Autograder.Proofs.Expression.Size
import Autograder.Proofs.Scan.Pieces
import Mathlib.Data.List.Forall2

/-!
# The arguments of a print statement

A print statement evaluates its arguments from left to right. If all of them have values, it prints
the texts of these, with blanks between them. Otherwise it ends in the fault of the first argument
without a value, and nothing else can end it before it has its line. No arguments are the same as
one that is blank, since a blank argument stands for the empty text.

## Main definitions

* `ShownAs` — an argument and its text
* `FaultsIn` — arguments and the fault of the first that has no value

## Main results

* `printLine_eq_ok_iff` — the line of arguments that have values
* `printLine_eq_error_iff` — the fault of arguments that do not
-/

namespace Autograder.Guest

/-! ### Results one after another -/

section Results

variable {α β : Type} {f : α → Except Fault β} {xs : List α}

theorem mapM_eq_ok_iff {ys : List β} :
    xs.mapM f = .ok ys ↔ List.Forall₂ (fun x y => f x = .ok y) xs ys := by
  induction xs generalizing ys with
  | nil =>
    rw [List.mapM_nil, List.forall₂_nil_left_iff]
    constructor
    · intro h
      exact (Except.ok.inj h).symm
    · rintro rfl
      rfl
  | cons x xs ih =>
    rw [List.mapM_cons, List.forall₂_cons_left_iff]
    constructor
    · intro h
      obtain ⟨y, hx, h⟩ := exists_of_bind_eq_ok h
      obtain ⟨rest, hxs, h⟩ := exists_of_bind_eq_ok h
      exact ⟨y, rest, hx, ih.mp hxs, (Except.ok.inj h).symm⟩
    · rintro ⟨y, rest, hx, hrest, rfl⟩
      rw [hx, ih.mpr hrest]
      rfl

/-- The fault of several results is that of the first that is one. -/
theorem mapM_eq_error_iff {e : Fault} :
    xs.mapM f = .error e ↔ ∃ before x after, xs = before ++ x :: after ∧
      (∀ y ∈ before, ∃ b, f y = .ok b) ∧ f x = .error e := by
  constructor
  · intro h
    induction xs with
    | nil => cases h
    | cons x xs ih =>
      rw [List.mapM_cons] at h
      cases hx : f x with
      | error e' =>
        rw [hx] at h
        obtain rfl : e' = e := Except.error.inj h
        exact ⟨[], x, xs, rfl, List.forall_mem_nil _, hx⟩
      | ok y =>
        cases hxs : xs.mapM f with
        | ok rest =>
          rw [hx, hxs] at h
          cases h
        | error e' =>
          rw [hx, hxs] at h
          obtain rfl : e' = e := Except.error.inj h
          obtain ⟨before, z, after, rfl, hbefore, hz⟩ := ih hxs
          exact ⟨x :: before, z, after, rfl, List.forall_mem_cons.mpr ⟨⟨y, hx⟩, hbefore⟩, hz⟩
  · rintro ⟨before, x, after, rfl, hbefore, hx⟩
    induction before with
    | nil =>
      rw [List.nil_append, List.mapM_cons, hx]
      rfl
    | cons y before ih =>
      obtain ⟨⟨b, hy⟩, hbefore⟩ := List.forall_mem_cons.mp hbefore
      rw [List.cons_append, List.mapM_cons, hy, ih hbefore]
      rfl

end Results

/-! ### The line -/

/-- The argument has a value, and this is its text. -/
def ShownAs (vars : Bindings) (argument : List Char) (text : String) : Prop :=
  ∃ v, evaluate vars argument = .ok v ∧ v.text = text

/-- The first argument without a value ends in this fault. -/
def FaultsIn (vars : Bindings) (arguments : List (List Char)) (f : Fault) : Prop :=
  ∃ before argument after, arguments = before ++ argument :: after ∧
    (∀ earlier ∈ before, ∃ text, ShownAs vars earlier text) ∧ evaluate vars argument = .error f

section Line

variable {vars : Bindings} {arguments : List Char}

theorem map_text_eq_ok_iff {result : Except Fault Value} {text : String} :
    result.map Value.text = .ok text ↔ ∃ v, result = .ok v ∧ v.text = text := by
  cases result with
  | ok v => simp [Except.map]
  | error f => simp [Except.map]

theorem map_text_eq_error_iff {result : Except Fault Value} {f : Fault} :
    result.map Value.text = .error f ↔ result = .error f := by
  cases result with
  | ok v => simp [Except.map]
  | error f => simp [Except.map]

/-- Blank text stands for the empty text. -/
theorem evaluate_of_allBlank (h : Text.allBlank arguments = true) :
    evaluate vars arguments = .ok (.str "") := by
  have htrim : Text.trim arguments = [] := Text.trim_append_of_blank (Text.allBlank_iff.mp h) []
  exact evaluate_of_literal (by rw [htrim]; rfl)

/-- No arguments are as good as one that is blank. -/
theorem printLine_eq (vars : Bindings) (arguments : List Char) :
    printLine vars arguments = ((splitTopLevel ',' arguments).mapM fun argument =>
      (evaluate vars argument).map Value.text).map (" ".intercalate ·) := by
  rw [printLine]
  split
  · rename_i hblank
    have hcomma : ',' ∉ arguments := by
      intro hmem
      exact absurd (Text.allBlank_iff.mp hblank _ hmem) (by decide)
    rw [splitTopLevel_of_isPiece (isPiece_of_notMem hcomma), List.mapM_cons, List.mapM_nil,
      evaluate_of_allBlank hblank]
    rfl
  · rfl

/-- **The line of arguments that have values**: their texts with blanks between them. -/
theorem printLine_eq_ok_iff {line : String} :
    printLine vars arguments = .ok line ↔
      ∃ texts, List.Forall₂ (ShownAs vars) (splitTopLevel ',' arguments) texts ∧
        " ".intercalate texts = line := by
  have hshown : ShownAs vars = fun argument text =>
      (evaluate vars argument).map Value.text = .ok text := by
    funext argument text
    exact propext map_text_eq_ok_iff.symm
  rw [printLine_eq, hshown]
  constructor
  · intro h
    obtain ⟨texts, htexts, hline⟩ := exists_of_map_eq_ok h
    exact ⟨texts, mapM_eq_ok_iff.mp htexts, hline⟩
  · rintro ⟨texts, htexts, rfl⟩
    rw [mapM_eq_ok_iff.mpr htexts]
    rfl

/-- **The fault of arguments that do not all have values** is that of the first that has none. -/
theorem printLine_eq_error_iff {f : Fault} :
    printLine vars arguments = .error f ↔ FaultsIn vars (splitTopLevel ',' arguments) f := by
  have hmap {result : Except Fault (List String)} :
      result.map (" ".intercalate ·) = .error f ↔ result = .error f := by
    cases result <;> simp [Except.map]
  rw [printLine_eq, hmap, mapM_eq_error_iff]
  simp only [map_text_eq_ok_iff, map_text_eq_error_iff, FaultsIn, ShownAs]

end Line

end Autograder.Guest
