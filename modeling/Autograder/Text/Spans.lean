/-!
# Spans of code points

A character class beyond ASCII is data of a standard: a list of spans of code points. This module
holds the shape of such a table and the look-up in it; each class has a module of its own.
-/

namespace Autograder.Text

/-- Runs of code points, both ends included. -/
abbrev Spans := List (Nat × Nat)

/-- The character lies in one of the spans. -/
def Spans.has (spans : Spans) (c : Char) : Bool :=
  spans.any fun span => span.1 ≤ c.toNat && c.toNat ≤ span.2

theorem Spans.has_iff {spans : Spans} {c : Char} :
    spans.has c = true ↔ ∃ span ∈ spans, span.1 ≤ c.toNat ∧ c.toNat ≤ span.2 := by
  simp [Spans.has, List.any_eq_true]

end Autograder.Text
