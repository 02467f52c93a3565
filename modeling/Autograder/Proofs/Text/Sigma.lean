import Autograder.Text.Casing
import Mathlib.Data.List.Infix

/-!
# Small letters of a part of a text

Each character has its small form whatever stands around it, but for the capital sigma. So the small
form of a part of a text is not always a part of the small form of the text. `lowerWithin` is the
small form between two sides: all that it takes from a side is whether the next cased character,
case-ignorable ones skipped, is met before one that is not cased.

A part keeps its small form in every text exactly if its own characters settle the form of each of
its capital sigmas.

## Main definitions

* `lowerWithin` — the small form of a text between two sides
* `side` — what the characters next to a place say about it
* `IsSettled` — the characters of a text settle the forms of its capital sigmas

## Main results

* `lower_append` — the small form of two texts in a row
* `lowerWithin_of_isSettled` — a settled text keeps its small form
* `exists_lower_of_not_isSettled` — any other text loses it within some text
-/

namespace Autograder.Text

/-! ### Between two sides -/

/-- Whether a cased character stands behind a place, from what stands behind the text there. -/
def casedBehind (text : List Char) (behind : Bool) : Bool :=
  text.foldr (fun c cased => casedAfter cased c) behind

/-- Whether a cased character stands before a place, from what stands before the text there. -/
def casedBefore (before : Bool) (text : List Char) : Bool :=
  text.foldl casedAfter before

/-- The small form of a text between two sides. -/
def lowerWithin (before : Bool) : List Char → Bool → List Char
  | [], _ => []
  | c :: text, behind =>
    lowerBetween c before (casedBehind text behind) ++
      lowerWithin (casedAfter before c) text behind

/-- The flags of `casedFlags` behind a side. -/
def flagsFrom (before : Bool) : List Char → List (Char × Bool)
  | [] => []
  | c :: text => (c, before) :: flagsFrom (casedAfter before c) text

theorem casedFlags_eq (text : List Char) : casedFlags text = flagsFrom false text := by
  have hfold (flags : List (Char × Bool)) (before : Bool) :
      (text.foldl (fun (acc : List (Char × Bool) × Bool) c =>
        ((c, acc.2) :: acc.1, casedAfter acc.2 c)) (flags, before)).1.reverse
        = flags.reverse ++ flagsFrom before text := by
    induction text generalizing flags before with
    | nil => simp [flagsFrom]
    | cons c text ih => simp [flagsFrom, ih]
  exact hfold [] false

theorem flagsFrom_concat (before : Bool) (text : List Char) (c : Char) :
    flagsFrom before (text ++ [c]) = flagsFrom before text ++ [(c, casedBefore before text)] := by
  induction text generalizing before with
  | nil => rfl
  | cons d text ih =>
    rw [List.cons_append, flagsFrom, ih]
    rfl

theorem casedBefore_reverse (behind : Bool) (text : List Char) :
    casedBefore behind text.reverse = casedBehind text behind :=
  List.foldl_reverse

/-- Reading both sides in one pass each comes to the same as going from character to character. -/
theorem lower_eq_lowerWithin (text : List Char) : lower text = lowerWithin false text false := by
  have hzip (before : Bool) :
      ((flagsFrom before text).zip (flagsFrom false text.reverse).reverse).flatMap
        (fun flags => lowerBetween flags.1.1 flags.1.2 flags.2.2)
        = lowerWithin before text false := by
    induction text generalizing before with
    | nil => rfl
    | cons c text ih =>
      rw [List.reverse_cons, flagsFrom_concat, List.reverse_append, casedBefore_reverse, flagsFrom,
        List.reverse_singleton, List.singleton_append, List.zip_cons_cons, List.flatMap_cons, ih,
        lowerWithin]
  rw [lower, casedFlags_eq, casedFlags_eq]
  exact hzip false

theorem casedBehind_append (a b : List Char) (behind : Bool) :
    casedBehind (a ++ b) behind = casedBehind a (casedBehind b behind) :=
  List.foldr_append

theorem casedBefore_singleton (before : Bool) (c : Char) :
    casedBefore before [c] = casedAfter before c := rfl

theorem casedBehind_singleton (c : Char) (behind : Bool) :
    casedBehind [c] behind = casedAfter behind c := rfl

/-- Of two texts in a row each stands between a side and the other text. -/
theorem lowerWithin_append (before : Bool) (a b : List Char) (behind : Bool) :
    lowerWithin before (a ++ b) behind
      = lowerWithin before a (casedBehind b behind)
        ++ lowerWithin (casedBefore before a) b behind := by
  induction a generalizing before with
  | nil => rfl
  | cons c a ih =>
    rw [List.cons_append, lowerWithin, ih, casedBehind_append, lowerWithin, List.append_assoc]
    rfl

/-- **The small form of a text with a part** has the small form of the part between the sides. -/
theorem lower_append (a part b : List Char) :
    lower (a ++ part ++ b)
      = lowerWithin false a (casedBehind (part ++ b) false)
        ++ lowerWithin (casedBefore false a) part (casedBehind b false)
        ++ lowerWithin (casedBefore false (a ++ part)) b false := by
  rw [lower_eq_lowerWithin, lowerWithin_append, lowerWithin_append, casedBehind_append]

theorem lowerBetween_ne_nil (c : Char) (before behind : Bool) :
    lowerBetween c before behind ≠ [] := by
  rw [lowerBetween]
  split
  · split <;> exact List.cons_ne_nil _ _
  · exact lowerChar_ne_nil c

theorem lower_ne_nil {text : List Char} (h : text ≠ []) : lower text ≠ [] := by
  rw [lower_eq_lowerWithin]
  cases text with
  | nil => exact absurd rfl h
  | cons c text => exact List.append_ne_nil_of_left_ne_nil (lowerBetween_ne_nil _ _ _) _

/-! ### What decides the form of a sigma -/

/-- What the characters on one side of a place say about it, from the nearest on: whether the first
that is not case-ignorable is cased. They say nothing if all are case-ignorable. -/
def side (nearestFirst : List Char) : Option Bool :=
  (nearestFirst.find? fun c => !isCaseIgnorable c).map isCased

theorem casedBehind_eq (text : List Char) (behind : Bool) :
    casedBehind text behind = (side text).getD behind := by
  induction text with
  | nil => rfl
  | cons c text ih =>
    rw [casedBehind, List.foldr_cons, ← casedBehind, casedAfter, side, List.find?_cons]
    cases isCaseIgnorable c with
    | true => exact ih
    | false => rfl

theorem casedBefore_eq (before : Bool) (text : List Char) :
    casedBefore before text = (side text.reverse).getD before := by
  rw [← casedBehind_eq, ← casedBefore_reverse, List.reverse_reverse]

theorem casedAfter_sigma (before : Bool) : casedAfter before 'Σ' = true := by
  cases before <;> decide +kernel

theorem casedBehind_sigma (text : List Char) (behind : Bool) :
    casedBehind ('Σ' :: text) behind = true := by
  rw [casedBehind, List.foldr_cons, casedAfter_sigma]

/-- The small form around a capital sigma. The sigma is cased for the characters on both sides. -/
theorem lowerWithin_sigma (before : Bool) (a b : List Char) (behind : Bool) :
    lowerWithin before (a ++ 'Σ' :: b) behind
      = lowerWithin before a true
        ++ (if casedBefore before a && !casedBehind b behind then 'ς' else 'σ')
          :: lowerWithin true b behind := by
  rw [lowerWithin_append, casedBehind_sigma, lowerWithin, casedAfter_sigma, lowerBetween,
    beq_self_eq_true, if_pos rfl]
  split <;> rfl

/-- Two pairs of sides give the same small form if they give each capital sigma the same. -/
theorem lowerWithin_congr {before before' behind behind' : Bool} {text : List Char}
    (h : ∀ a b, text = a ++ 'Σ' :: b → (casedBefore before a && !casedBehind b behind)
      = (casedBefore before' a && !casedBehind b behind')) :
    lowerWithin before text behind = lowerWithin before' text behind' := by
  induction text generalizing before before' with
  | nil => rfl
  | cons c text ih =>
    have hhead : lowerBetween c before (casedBehind text behind)
        = lowerBetween c before' (casedBehind text behind') := by
      rw [lowerBetween, lowerBetween]
      split
      · rename_i hc
        have hsides := h [] text (by rw [beq_iff_eq.mp hc]; rfl)
        rw [show (before && !casedBehind text behind) = (before' && !casedBehind text behind') from
          hsides]
      · rfl
    rw [lowerWithin, lowerWithin, hhead, ih]
    intro a b hab
    exact h (c :: a) b (by rw [hab, List.cons_append])

/-- A capital sigma between two texts has the same small form whatever stands around them: a cased
character follows it, or one that is not cased precedes it, or both sides are known. -/
def SettledBetween (a b : List Char) : Prop :=
  side b = some true ∨ side a.reverse = some false ∨ side a.reverse ≠ none ∧ side b ≠ none

instance (a b : List Char) : Decidable (SettledBetween a b) :=
  inferInstanceAs (Decidable (_ ∨ _ ∨ _))

/-- The characters of the text settle the forms of all its capital sigmas. -/
def IsSettled (text : List Char) : Prop :=
  ∀ k < text.length, text[k]? = some 'Σ' → SettledBetween (text.take k) (text.drop (k + 1))

instance (text : List Char) : Decidable (IsSettled text) :=
  inferInstanceAs (Decidable (∀ k < text.length, _))

theorem isSettled_of_notMem {text : List Char} (h : 'Σ' ∉ text) : IsSettled text :=
  fun _ _ hk => absurd (List.mem_of_getElem? hk) h

theorem isSettled_iff {text : List Char} :
    IsSettled text ↔ ∀ a b, text = a ++ 'Σ' :: b → SettledBetween a b := by
  constructor
  · rintro h a b rfl
    have hk := h a.length (by simp) (by simp)
    rwa [List.take_left, List.drop_append, List.drop_eq_nil_of_le (Nat.le_succ _), List.nil_append,
      Nat.add_sub_cancel_left, List.drop_one, List.tail_cons] at hk
  · intro h k hk hsigma
    refine h _ _ ?_
    rw [List.getElem?_eq_getElem hk, Option.some_inj] at hsigma
    rw [← hsigma, List.getElem_cons_drop, List.take_append_drop]

/-- **A settled text keeps its small form** between any two sides. -/
theorem lowerWithin_of_isSettled {text : List Char} (h : IsSettled text) (before behind : Bool) :
    lowerWithin before text behind = lower text := by
  rw [lower_eq_lowerWithin]
  refine lowerWithin_congr ?_
  rintro a b rfl
  rw [casedBefore_eq, casedBefore_eq, casedBehind_eq, casedBehind_eq]
  rcases isSettled_iff.mp h a b rfl with hb | ha | ⟨ha, hb⟩
  · simp [hb]
  · simp [ha]
  · obtain ⟨cased, hcased⟩ := Option.ne_none_iff_exists'.mp ha
    obtain ⟨cased', hcased'⟩ := Option.ne_none_iff_exists'.mp hb
    simp [hcased, hcased']

/-- Where there is no capital sigma, the sides do not matter. -/
theorem lowerWithin_of_notMem {text : List Char} (h : 'Σ' ∉ text) (before behind : Bool) :
    lowerWithin before text behind = lower text :=
  lowerWithin_of_isSettled (isSettled_of_notMem h) before behind

/-- Within any text, a settled part has its own small form. -/
theorem lower_infix_of_isSettled {part text : List Char} (h : IsSettled part)
    (hpart : part <:+: text) : lower part <:+: lower text := by
  obtain ⟨a, b, rfl⟩ := hpart
  rw [lower_append, lowerWithin_of_isSettled h]
  exact List.infix_append _ _ _

/-- Lines have their small forms apart from each other. -/
theorem lower_append_feed (a b : List Char) :
    lower (a ++ '\n' :: b) = lower a ++ '\n' :: lower b := by
  have hfeed (cased : Bool) : casedAfter cased '\n' = false := by cases cased <;> decide +kernel
  have hbehind : casedBehind ('\n' :: b) false = false := by
    rw [casedBehind, List.foldr_cons, hfeed]
  rw [lower_eq_lowerWithin, lowerWithin_append, hbehind, lowerWithin, hfeed,
    ← lower_eq_lowerWithin, ← lower_eq_lowerWithin]
  rfl

/-! ### Where a sigma changes -/

/-- Case-ignorable characters are no sigmas. -/
theorem sigma_notMem_of_side {text : List Char} (h : side text = none) : 'Σ' ∉ text := by
  intro hmem
  rw [side, Option.map_eq_none_iff, List.find?_eq_none] at h
  exact absurd (h _ hmem) (by decide +kernel)

theorem casedAfter_alpha (cased : Bool) : casedAfter cased 'α' = true := by
  cases cased <;> decide +kernel

theorem lowerWithin_alpha (before behind : Bool) : lowerWithin before ['α'] behind = ['α'] := by
  rw [lowerWithin_of_notMem (by decide)]
  decide +kernel

theorem casedBehind_eq_false {text : List Char} (h : side text ≠ some true) :
    casedBehind text false = false := by
  rw [casedBehind_eq]
  cases hside : side text with
  | none => rfl
  | some cased =>
    rw [hside] at h
    simpa using h

section Sigma

variable {a b : List Char}

/-- A sigma with nothing in front that is cased or uncased: behind a letter it ends a word. -/
theorem lower_of_side_before (ha : side a.reverse = none) (hb : side b ≠ some true) :
    lower (a ++ 'Σ' :: b) = lower a ++ 'σ' :: lowerWithin true b false ∧
      lower ('α' :: (a ++ 'Σ' :: b)) = 'α' :: (lower a ++ 'ς' :: lowerWithin true b false) := by
  have hnotMem : 'Σ' ∉ a := by
    rw [← List.mem_reverse]
    exact sigma_notMem_of_side ha
  have hwithin (before : Bool) : lowerWithin before (a ++ 'Σ' :: b) false
      = lower a ++ (if before then 'ς' else 'σ') :: lowerWithin true b false := by
    rw [lowerWithin_sigma, casedBehind_eq_false hb, casedBefore_eq, ha,
      lowerWithin_of_notMem hnotMem]
    simp
  refine ⟨by rw [lower_eq_lowerWithin, hwithin, if_neg Bool.false_ne_true], ?_⟩
  rw [lower_eq_lowerWithin, ← List.singleton_append, lowerWithin_append, lowerWithin_alpha,
    casedBefore_singleton, casedAfter_alpha, hwithin, if_pos rfl]
  rfl

/-- A sigma that ends a word because nothing behind it is cased or uncased: before a letter it does
not. -/
theorem lower_of_side_behind (ha : side a.reverse = some true) (hb : side b = none) :
    lower (a ++ 'Σ' :: b) = lowerWithin false a true ++ 'ς' :: lower b ∧
      lower (a ++ 'Σ' :: b ++ ['α']) = lowerWithin false a true ++ 'σ' :: lower b ++ ['α'] := by
  have hnotMem := sigma_notMem_of_side hb
  have hwithin (behind : Bool) : lowerWithin false (a ++ 'Σ' :: b) behind
      = lowerWithin false a true ++ (if behind then 'σ' else 'ς') :: lower b := by
    rw [lowerWithin_sigma, casedBehind_eq, hb, casedBefore_eq, ha, lowerWithin_of_notMem hnotMem]
    cases behind <;> rfl
  refine ⟨by rw [lower_eq_lowerWithin, hwithin, if_neg Bool.false_ne_true], ?_⟩
  rw [lower_eq_lowerWithin, lowerWithin_append, lowerWithin_alpha, casedBehind_singleton,
    casedAfter_alpha, hwithin, if_pos rfl]

end Sigma

/-- The sigmas of small letters. -/
def IsSmallSigma (c : Char) : Prop :=
  c = 'σ' ∨ c = 'ς'

/-- **A text that is not settled** can be set behind or in front of a letter so that one of its
sigmas changes its form, and all other characters keep theirs. -/
theorem exists_lower_of_not_isSettled {text : List Char} (h : ¬IsSettled text) :
    ∃ start tail a b form form', start ⊆ ['α'] ∧ tail ⊆ ['α'] ∧
      IsSmallSigma form ∧ IsSmallSigma form' ∧ form ≠ form' ∧
      lower text = a ++ form :: b ∧
      lower (start ++ text ++ tail) = start ++ (a ++ form' :: b) ++ tail := by
  obtain ⟨a, b, rfl, hopen⟩ : ∃ a b, text = a ++ 'Σ' :: b ∧ ¬SettledBetween a b := by
    simpa [isSettled_iff] using h
  obtain ⟨hb, ha, heither⟩ : side b ≠ some true ∧ side a.reverse ≠ some false ∧
      (side a.reverse = none ∨ side b = none) := by
    rwa [SettledBetween, not_or, not_or, not_and_or, not_not, not_not] at hopen
  cases hside : side a.reverse with
  | none =>
    obtain ⟨halone, hbehind⟩ := lower_of_side_before hside hb
    refine ⟨['α'], [], _, _, 'σ', 'ς', List.Subset.refl _, List.nil_subset _, .inl rfl, .inr rfl,
      by decide, halone, ?_⟩
    rw [List.append_nil, List.append_nil, List.singleton_append, hbehind]
    rfl
  | some cased =>
    obtain rfl : cased = true := by
      rw [hside] at ha
      simpa using ha
    obtain ⟨halone, hbefore⟩ := lower_of_side_behind hside (heither.resolve_left (by simp [hside]))
    exact ⟨[], ['α'], _, _, 'ς', 'σ', List.nil_subset _, List.Subset.refl _, .inr rfl, .inl rfl,
      by decide, halone, hbefore⟩

end Autograder.Text
