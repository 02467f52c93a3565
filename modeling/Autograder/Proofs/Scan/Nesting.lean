import Autograder.Guest.Scan
import Mathlib.Data.List.Infix

/-!
# Brackets that match

Only brackets of code count. Their weights, added up along a text, say how deep the text leads into
brackets. Brackets match if no beginning of the text leads out of more of them than it has led into,
and the whole text leads out of all.

A text can hold several kinds of brackets. Each kind has its own weights, and the depth in all of
them together is the sum of the depths.

## Main definitions

* `Scan.depth` — how deep a text leads into brackets
* `Matched` — quoted text is closed and brackets match

## Main results

* `Scan.depth_append` — depths of texts in a row add up
* `Matched.append`, `Matched.inRoundBrackets` — longer texts with brackets that match
-/

namespace Autograder.Guest

/-- How a round bracket changes the depth. -/
def roundStep : Char → Int
  | '(' => 1
  | ')' => -1
  | _ => 0

/-- How a square bracket changes the depth. -/
def squareStep : Char → Int
  | '[' => 1
  | ']' => -1
  | _ => 0

namespace Scan

variable {weight : Char → Int}

/-- How deep a text leads into brackets: the weights of its characters of code, added up. -/
def depth (weight : Char → Int) : Scan → List Char → Int
  | _, [] => 0
  | s, c :: text => (if s.isCode c then weight c else 0) + (s.step c).depth weight text

@[simp] theorem depth_nil (s : Scan) : s.depth weight [] = 0 := rfl

theorem depth_append (s : Scan) (a b : List Char) :
    s.depth weight (a ++ b) = s.depth weight a + (s.steps a).depth weight b := by
  induction a generalizing s with
  | nil => simp
  | cons c a ih => simp [depth, ih, Int.add_assoc]

/-- The depth in brackets of two kinds. -/
theorem depth_add {weight' : Char → Int} (s : Scan) (text : List Char) :
    s.depth (fun c => weight c + weight' c) text = s.depth weight text + s.depth weight' text := by
  induction text generalizing s with
  | nil => simp
  | cons c text ih =>
    simp only [depth, ih]
    split <;> omega

/-- Characters without a weight lead nowhere. -/
theorem depth_eq_zero {text : List Char} (h : ∀ c ∈ text, weight c = 0) (s : Scan) :
    s.depth weight text = 0 := by
  induction text generalizing s with
  | nil => rfl
  | cons c text ih =>
    rw [depth, h c List.mem_cons_self, ih fun d hd => h d (List.mem_cons_of_mem c hd)]
    simp

theorem eq_code_of_isCode {s : Scan} {c : Char} (h : s.isCode c = true) : s = code := by
  rw [isCode, Bool.and_eq_true, beq_iff_eq] at h
  exact h.1

/-- A scan that meets no mark stays in code. -/
theorem steps_of_no_mark {text : List Char} (h : ∀ c ∈ text, isMark c = false) :
    code.steps text = code := by
  induction text with
  | nil => rfl
  | cons c text ih =>
    have hc : code.step c = code := by simp [step, h c List.mem_cons_self]
    rw [steps_cons, hc, ih fun d hd => h d (List.mem_cons_of_mem c hd)]

theorem step_opening : code.step '(' = code := rfl

theorem depth_opening (text : List Char) :
    code.depth roundStep ('(' :: text) = 1 + code.depth roundStep text := rfl

end Scan

/-- Quoted text is closed, and the brackets of these weights match. -/
structure Matched (weight : Char → Int) (text : List Char) : Prop where
  /-- Behind the text there is code. -/
  closed : Scan.code.steps text = .code
  /-- No beginning leads out of more brackets than it has led into. -/
  nonneg : ∀ beginning, beginning <+: text → 0 ≤ Scan.code.depth weight beginning
  /-- The text leads out of all of them. -/
  depth_eq : Scan.code.depth weight text = 0

instance (weight : Char → Int) (text : List Char) : Decidable (Matched weight text) :=
  decidable_of_iff (Scan.code.steps text = .code ∧
      (∀ beginning ∈ text.inits, 0 ≤ Scan.code.depth weight beginning) ∧
      Scan.code.depth weight text = 0)
    ⟨fun h => ⟨h.1, fun _ hb => h.2.1 _ ((List.mem_inits _ _).mpr hb), h.2.2⟩,
      fun h => ⟨h.closed, fun _ hb => h.nonneg _ ((List.mem_inits _ _).mp hb), h.depth_eq⟩⟩

namespace Matched

variable {weight : Char → Int} {a b : List Char}

/-- Text without marks and without weight. -/
theorem of_weightless (hmark : ∀ c ∈ a, isMark c = false) (hweight : ∀ c ∈ a, weight c = 0) :
    Matched weight a where
  closed := Scan.steps_of_no_mark hmark
  nonneg _ hb := Int.le_of_eq (Scan.depth_eq_zero (fun c hc => hweight c (hb.subset hc)) _).symm
  depth_eq := Scan.depth_eq_zero hweight _

/-- Two texts in a row. -/
theorem append (ha : Matched weight a) (hb : Matched weight b) : Matched weight (a ++ b) where
  closed := by rw [Scan.steps_append, ha.closed, hb.closed]
  nonneg beginning hbeginning := by
    obtain ⟨behind, heq⟩ := hbeginning
    rcases List.append_eq_append_iff.mp heq with ⟨rest, rfl, -⟩ | ⟨rest, rfl, hrest⟩
    · exact ha.nonneg _ (List.prefix_append _ _)
    · rw [Scan.depth_append, ha.closed, ha.depth_eq, Int.zero_add]
      exact hb.nonneg rest ⟨behind, hrest.symm⟩
  depth_eq := by rw [Scan.depth_append, ha.closed, ha.depth_eq, hb.depth_eq]; rfl

/-- What stands behind a text whose brackets match. -/
theorem of_append (ha : Matched weight a) (h : Matched weight (a ++ b)) : Matched weight b where
  closed := by rw [← ha.closed, ← Scan.steps_append, h.closed, ha.closed]
  nonneg beginning hbeginning := by
    have := h.nonneg (a ++ beginning) ((List.prefix_append_right_inj a).mpr hbeginning)
    rwa [Scan.depth_append, ha.closed, ha.depth_eq, Int.zero_add] at this
  depth_eq := by
    have := h.depth_eq
    rwa [Scan.depth_append, ha.closed, ha.depth_eq, Int.zero_add] at this

/-- Round brackets around a text. -/
theorem inRoundBrackets (h : Matched roundStep a) : Matched roundStep ('(' :: (a ++ [')'])) where
  closed := by
    rw [Scan.steps_cons, Scan.steps_append, Scan.step_opening, h.closed]
    rfl
  nonneg beginning hbeginning := by
    rcases List.prefix_cons_iff.mp hbeginning with rfl | ⟨rest, rfl, hrest⟩
    · exact Int.le_refl 0
    rw [Scan.depth_opening]
    rcases List.prefix_concat_iff.mp hrest with rfl | hinside
    · rw [Scan.depth_append, h.closed, h.depth_eq]
      decide
    · have := h.nonneg rest hinside
      omega
  depth_eq := by
    rw [Scan.depth_opening, Scan.depth_append, h.closed, h.depth_eq]
    rfl

end Matched

end Autograder.Guest
