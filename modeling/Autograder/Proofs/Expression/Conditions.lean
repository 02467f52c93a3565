import Autograder.Guest.Condition
import Autograder.Proofs.Expression.Printed
import Autograder.Proofs.Scan.Closing

/-!
# Where a condition is split

Brackets around the whole of a condition are dropped before the condition is split, and a condition
may well start with one bracket and end with another that do not belong together. If the brackets of
the left operand match, the first of them closes before the operator, so nothing is dropped. The
scan then passes over the whole operand, since an operator counts only outside of brackets and
quotes, and it never looks at the right operand.

The two scans count different brackets. One counts round brackets, the other round and square ones
alike, and so the operand has to have matching brackets of each kind.

## Main definitions

* `WellNested` — an operand that a scan passes over
* `Enclosing` — a condition in brackets

## Main results

* `splitComparison_of_wellNested` — a condition is split behind a well-nested operand
* `Enclosing.dropEnclosing_eq` — brackets around a condition are dropped
* `evaluateCondition_splits` — both as statements about the truth of conditions
-/

namespace Autograder.Guest

/-! ### Operators -/

namespace Comparison

theorem symbol_toList (op : Comparison) :
    op.symbol.toList = match op with
      | .eq => ['=', '=']
      | .ne => ['!', '=']
      | .ge => ['>', '=']
      | .le => ['<', '=']
      | .gt => ['>']
      | .lt => ['<'] := by
  cases op <;> decide

theorem symbol_ne_nil (op : Comparison) : op.symbol.toList ≠ [] := by
  cases op <;> decide

theorem trimmed_symbol (op : Comparison) : Text.Trimmed op.symbol.toList := by
  cases op <;> decide

/-- An operator in front of a blank ends there. -/
theorem symbol_prefix {op : Comparison} {text rest : List Char}
    (h : op.symbol.toList <+: text ++ ' ' :: rest) : op.symbol.toList <+: text := by
  obtain ⟨more, heq⟩ := h
  rcases List.append_eq_append_iff.mp heq with ⟨extra, rfl, -⟩ | ⟨extra, hsymbol, hextra⟩
  · exact List.prefix_append _ _
  · cases extra with
    | nil => exact ⟨[], by rw [hsymbol, List.append_nil, List.append_nil]⟩
    | cons c extra =>
      obtain ⟨rfl, -⟩ := List.cons_eq_cons.mp hextra
      have hmem : ' ' ∈ op.symbol.toList := by simp [hsymbol]
      exact absurd hmem (by cases op <;> decide)

end Comparison

/-- A comparison is recognised by its symbol, if the symbol does not go on. -/
theorem comparison?_symbol (op : Comparison) {rest : List Char} (h : rest.head? ≠ some '=') :
    comparison? (op.symbol.toList ++ rest) = some (op, rest) := by
  rw [op.symbol_toList]
  cases op <;> cases rest <;> simp_all [comparison?]

theorem comparison?_eq_some {text rest : List Char} {op : Comparison}
    (h : comparison? text = some (op, rest)) : text = op.symbol.toList ++ rest := by
  rw [op.symbol_toList]
  unfold comparison? at h
  split at h <;> simp only [Option.some.injEq, Prod.mk.injEq, reduceCtorEq] at h
  all_goals
    obtain ⟨rfl, rfl⟩ := h
    rfl

theorem comparison?_eq_none_iff {text : List Char} :
    comparison? text = none ↔ ∀ op : Comparison, ¬op.symbol.toList <+: text := by
  constructor
  · rintro hnone op ⟨rest, rfl⟩
    rw [op.symbol_toList] at hnone
    unfold comparison? at hnone
    cases op <;> split at hnone <;> simp_all
  · intro h
    rw [Option.eq_none_iff_forall_ne_some]
    rintro ⟨op, rest⟩ hop
    exact h op ⟨rest, (comparison?_eq_some hop).symm⟩

/-! ### Operands -/

/-- An operand with closed quotes and matching brackets, and with no comparison outside of them. -/
structure WellNested (text : List Char) : Prop where
  round : Matched roundStep text
  square : Matched squareStep text
  /-- Where no quotes and no brackets are open, no operator stands. -/
  noComparison : ∀ before behind, text = before ++ behind → Scan.code.steps before = .code →
    Scan.code.depth roundStep before = 0 → Scan.code.depth squareStep before = 0 →
    ∀ op : Comparison, ¬op.symbol.toList <+: behind

instance (text : List Char) : Decidable (WellNested text) :=
  decidable_of_iff (Matched roundStep text ∧ Matched squareStep text ∧
      ∀ before ∈ text.inits, Scan.code.steps before = .code →
        Scan.code.depth roundStep before = 0 → Scan.code.depth squareStep before = 0 →
        comparison? (text.drop before.length) = none) <| by
    constructor
    · rintro ⟨hround, hsquare, hnone⟩
      refine ⟨hround, hsquare, fun before behind heq hcode hround' hsquare' => ?_⟩
      have h := hnone before ((List.mem_inits _ _).mpr ⟨behind, heq.symm⟩) hcode hround' hsquare'
      rwa [heq, List.drop_left, comparison?_eq_none_iff] at h
    · rintro ⟨hround, hsquare, hnone⟩
      refine ⟨hround, hsquare, fun before hbefore hcode hround' hsquare' => ?_⟩
      obtain ⟨behind, rfl⟩ := (List.mem_inits _ _).mp hbefore
      rw [List.drop_left, comparison?_eq_none_iff]
      exact hnone before behind rfl hcode hround' hsquare'

theorem operandBracketStep_eq (c : Char) :
    operandBracketStep c = roundStep c + squareStep c := by
  unfold operandBracketStep roundStep squareStep
  split <;> simp_all

theorem depth_operandBracketStep (s : Scan) (text : List Char) :
    s.depth operandBracketStep text = s.depth roundStep text + s.depth squareStep text := by
  rw [← Scan.depth_add, funext operandBracketStep_eq]

theorem roundStep_of_isBlank {c : Char} (h : Text.isBlank c = true) : roundStep c = 0 := by
  unfold roundStep
  split
  · exact absurd h (by decide)
  · exact absurd h (by decide)
  · rfl

theorem squareStep_of_isBlank {c : Char} (h : Text.isBlank c = true) : squareStep c = 0 := by
  unfold squareStep
  split
  · exact absurd h (by decide)
  · exact absurd h (by decide)
  · rfl

theorem isMark_of_isBlank {c : Char} (h : Text.isBlank c = true) : isMark c = false := by
  simp [isMark, ne_of_class h (show Text.isBlank '"' = false by decide),
    ne_of_class h (show Text.isBlank '\'' = false by decide)]

theorem isBlank_of_mem_space : ∀ c ∈ [' '], Text.isBlank c = true :=
  List.forall_mem_singleton.mpr (by decide)

theorem Matched.of_blank {weight : Char → Int}
    (hweight : ∀ {c}, Text.isBlank c = true → weight c = 0) {pad : List Char}
    (h : ∀ c ∈ pad, Text.isBlank c = true) : Matched weight pad :=
  .of_weightless (fun c hc => isMark_of_isBlank (h c hc)) fun c hc => hweight (h c hc)

namespace WellNested

variable {text : List Char}

/-- Blanks in front of an operand do not matter. -/
theorem of_pad {pad : List Char} (hpad : ∀ c ∈ pad, Text.isBlank c = true)
    (h : WellNested (pad ++ text)) : WellNested text where
  round := (Matched.of_blank roundStep_of_isBlank hpad).of_append h.round
  square := (Matched.of_blank squareStep_of_isBlank hpad).of_append h.square
  noComparison before behind heq hcode hround hsquare := by
    have hpad₁ : Matched roundStep pad := .of_blank roundStep_of_isBlank hpad
    have hpad₂ : Matched squareStep pad := .of_blank squareStep_of_isBlank hpad
    refine h.noComparison (pad ++ before) behind (by rw [heq, List.append_assoc]) ?_ ?_ ?_
    · rw [Scan.steps_append, hpad₁.closed, hcode]
    · rw [Scan.depth_append, hpad₁.closed, hpad₁.depth_eq, hround]
      rfl
    · rw [Scan.depth_append, hpad₂.closed, hpad₂.depth_eq, hsquare]
      rfl

/-- Nor does the blank behind it. -/
theorem concat_blank (h : WellNested text) : WellNested (text ++ [' ']) where
  round := h.round.append (.of_blank roundStep_of_isBlank isBlank_of_mem_space)
  square := h.square.append (.of_blank squareStep_of_isBlank isBlank_of_mem_space)
  noComparison before behind heq hcode hround hsquare op hop := by
    rcases List.eq_nil_or_concat' behind with rfl | ⟨start, last, rfl⟩
    · exact op.symbol_ne_nil (List.prefix_nil.mp hop)
    · rw [← List.append_assoc] at heq
      obtain ⟨hstart, hlast⟩ := List.append_inj' heq rfl
      obtain rfl : ' ' = last := List.singleton_inj.mp hlast
      exact h.noComparison before start hstart hcode hround hsquare op
        (Comparison.symbol_prefix hop)

/-- An operand as it stands at the start of a trimmed condition. -/
theorem trimStart (h : WellNested text) : WellNested (Text.trimStart text) := by
  have hsplit : text.takeWhile Text.isBlank ++ Text.trimStart text = text :=
    List.takeWhile_append_dropWhile
  exact .of_pad (fun c hc => List.mem_takeWhile_imp hc) (by rwa [hsplit])

end WellNested

/-! ### Splitting -/

/-- A scan passes over a text in which no comparison starts outside of brackets and quotes. -/
theorem splitComparisonFrom_append {scan : Scan} {depth : Int} {text tail : List Char}
    (h : ∀ before behind, text = before ++ behind → behind ≠ [] → scan.steps before = .code →
      depth + scan.depth operandBracketStep before = 0 → comparison? (behind ++ tail) = none)
    (left : List Char) :
    splitComparisonFrom scan depth left (text ++ tail)
      = splitComparisonFrom (scan.steps text) (depth + scan.depth operandBracketStep text)
          (text.reverse ++ left) tail := by
  induction text generalizing scan depth left with
  | nil => simp
  | cons c text ih =>
    have hnext : splitComparisonFrom scan depth left (c :: (text ++ tail))
        = splitComparisonFrom (scan.step c)
            (depth + if scan.isCode c then operandBracketStep c else 0) (c :: left)
            (text ++ tail) := by
      rw [splitComparisonFrom]
      split
      · rename_i hplace
        obtain ⟨⟨hcode, hstep⟩, rfl⟩ : (scan.isCode c = true ∧ operandBracketStep c = 0) ∧
            depth = 0 := by simpa using hplace
        have hnone := h [] (c :: text) rfl (List.cons_ne_nil c text)
          (Scan.eq_code_of_isCode hcode) (by simp)
        rw [List.cons_append] at hnone
        simp [hnone, hstep]
      · split <;> simp_all
    rw [List.cons_append, hnext, ih, Scan.steps_cons, Scan.depth, Int.add_assoc,
      List.reverse_cons, List.append_assoc, List.singleton_append]
    intro before behind heq hne hcode hdepth
    refine h (c :: before) behind (by rw [heq, List.cons_append]) hne hcode ?_
    rwa [Scan.depth, ← Int.add_assoc]

theorem splitComparisonFrom_symbol (op : Comparison) {right : List Char}
    (h : right.head? ≠ some '=') (left : List Char) :
    splitComparisonFrom .code 0 left (op.symbol.toList ++ right)
      = some (left.reverse, op, right) := by
  have hcomparison := comparison?_symbol op h
  obtain ⟨c, cs, hsymbol, hmark, hstep⟩ : ∃ c cs, op.symbol.toList = c :: cs ∧ isMark c = false ∧
      operandBracketStep c = 0 := by
    rw [op.symbol_toList]
    cases op <;> exact ⟨_, _, rfl, by decide, by decide⟩
  rw [hsymbol, List.cons_append] at hcomparison ⊢
  rw [splitComparisonFrom, if_pos (by simp [Scan.isCode, hmark, hstep]), hcomparison]

section Split

variable {left right : List Char} (hleft : WellNested left) (hlast : ∀ c ∈ left.getLast?, c = ' ')

include hleft hlast

/-- **A condition is split behind a well-nested operand**, at the operator behind a blank. -/
theorem splitComparison_of_wellNested (op : Comparison) (hright : right.head? ≠ some '=') :
    splitComparison (left ++ (op.symbol.toList ++ right)) = some (left, op, right) := by
  have hpass : ∀ before behind, left = before ++ behind → behind ≠ [] →
      Scan.code.steps before = .code → 0 + Scan.code.depth operandBracketStep before = 0 →
      comparison? (behind ++ (op.symbol.toList ++ right)) = none := by
    intro before behind heq hne hcode hdepth
    have hround := hleft.round.nonneg before ⟨behind, heq.symm⟩
    have hsquare := hleft.square.nonneg before ⟨behind, heq.symm⟩
    rw [depth_operandBracketStep] at hdepth
    rw [Option.eq_none_iff_forall_ne_some]
    rintro ⟨op', rest⟩ hop
    refine hleft.noComparison before behind heq hcode (by omega) (by omega) op' ?_
    rcases List.eq_nil_or_concat' behind with rfl | ⟨start, last, rfl⟩
    · exact absurd rfl hne
    · obtain rfl : last = ' ' := hlast last (by simp [heq])
      have hprefix : op'.symbol.toList <+: start ++ ' ' :: (op.symbol.toList ++ right) :=
        ⟨rest, by rw [← comparison?_eq_some hop]; simp⟩
      exact (Comparison.symbol_prefix hprefix).trans (List.prefix_append _ _)
  rw [splitComparison, splitComparisonFrom_append hpass, hleft.round.closed,
    depth_operandBracketStep, hleft.round.depth_eq, hleft.square.depth_eq, List.append_nil,
    show (0 : Int) + (0 + 0) = 0 from rfl, splitComparisonFrom_symbol op hright,
    List.reverse_reverse]

omit hlast in
/-- No brackets enclose the whole of a condition that has an operator behind a well-nested
operand. -/
theorem callArgument?_of_wellNested (op : Comparison)
    (hhead : ∀ c ∈ (left ++ (op.symbol.toList ++ right)).head?, Text.isBlank c = false) :
    callArgument? [] (left ++ (op.symbol.toList ++ right)) = none := by
  rw [Option.eq_none_iff_forall_ne_some]
  intro inner hinner
  obtain ⟨blanks, hblanks, heq, hmatched⟩ := callArgument?_eq_some hinner
  obtain rfl : blanks = [] := by
    cases blanks with
    | nil => rfl
    | cons c blanks =>
      rw [heq] at hhead
      exact absurd (hblanks c List.mem_cons_self) (by simp [hhead c rfl])
  rw [List.nil_append, List.nil_append] at heq
  cases left with
  | nil =>
    rw [op.symbol_toList] at heq
    cases op <;> simp at heq
  | cons c start =>
    obtain ⟨rfl, hstart⟩ := List.cons_eq_cons.mp heq
    -- The operand is a beginning of the text in which the first bracket is still open.
    have hprefix : start <+: inner := by
      rcases List.append_eq_append_iff.mp hstart with ⟨more, rfl, -⟩ | ⟨more, rfl, hmore⟩
      · exact List.prefix_append _ _
      · cases more with
        | nil => rw [List.append_nil]
        | cons d more =>
          obtain ⟨-, hnil⟩ := List.cons_eq_cons.mp hmore
          exact absurd (List.append_eq_nil_iff.mp (List.append_eq_nil_iff.mp hnil.symm).2).1
            op.symbol_ne_nil
    have hdepth := hleft.round.depth_eq
    have hnonneg := hmatched.nonneg start hprefix
    rw [Scan.depth_opening] at hdepth
    omega

end Split

/-! ### Brackets around a condition -/

theorem dropEnclosing_of_none {text : List Char}
    (h : callArgument? [] (Text.trim text) = none) : dropEnclosing text = Text.trim text := by
  rw [dropEnclosing]
  split <;> simp_all

theorem dropEnclosing_of_some {text inner : List Char}
    (h : callArgument? [] (Text.trim text) = some inner) :
    dropEnclosing text = dropEnclosing inner := by
  rw [dropEnclosing]
  split <;> simp_all

/-- Blanks at the ends of a condition do not matter. -/
theorem dropEnclosing_congr {text other : List Char} (h : Text.trim text = Text.trim other) :
    dropEnclosing text = dropEnclosing other := by
  cases hcall : callArgument? [] (Text.trim text) with
  | none => rw [dropEnclosing_of_none hcall, dropEnclosing_of_none (h ▸ hcall), h]
  | some inner =>
    have hother : callArgument? [] (Text.trim other) = some inner := h ▸ hcall
    rw [dropEnclosing_of_some hcall, dropEnclosing_of_some hother]

/-- A text in any number of brackets, with blanks inside and around each of them. -/
inductive Enclosing (inner : List Char) : List Char → Prop
  /-- No brackets. -/
  | blanks {before after : List Char} (hbefore : ∀ c ∈ before, Text.isBlank c = true)
      (hafter : ∀ c ∈ after, Text.isBlank c = true) : Enclosing inner (before ++ inner ++ after)
  /-- One more pair of brackets. -/
  | brackets {before text after : List Char} (hbefore : ∀ c ∈ before, Text.isBlank c = true)
      (hafter : ∀ c ∈ after, Text.isBlank c = true) (h : Enclosing inner text) :
      Enclosing inner (before ++ '(' :: (text ++ [')']) ++ after)

namespace Enclosing

variable {inner text : List Char}

theorem matched (h : Enclosing inner text) (hinner : Matched roundStep inner) :
    Matched roundStep text := by
  induction h with
  | blanks hbefore hafter =>
    exact ((Matched.of_blank roundStep_of_isBlank hbefore).append hinner).append
      (.of_blank roundStep_of_isBlank hafter)
  | brackets hbefore hafter _ ih =>
    exact ((Matched.of_blank roundStep_of_isBlank hbefore).append ih.inRoundBrackets).append
      (.of_blank roundStep_of_isBlank hafter)

/-- **Brackets around a condition are dropped** with the blanks, one pair after the other. -/
theorem dropEnclosing_eq (h : Enclosing inner text) (hinner : Matched roundStep inner) :
    dropEnclosing text = dropEnclosing inner := by
  induction h with
  | @blanks before after hbefore hafter =>
    refine dropEnclosing_congr ?_
    rw [Text.trim_append_of_blank hafter, Text.trim, Text.trimStart_append_of_blank hbefore,
      Text.trim]
  | @brackets before text after hbefore hafter h ih =>
    have htrimmed : Text.Trimmed ('(' :: (text ++ [')'])) :=
      Text.trimmed_enclosed (by decide) (by decide) text
    have htrim := Text.trim_surround hbefore hafter (List.cons_ne_nil _ _) htrimmed
    rw [dropEnclosing_of_some (by rw [htrim]; exact callArgument?_brackets (h.matched hinner)), ih]

end Enclosing

/-! ### Conditions -/

/-- Behind a well-nested operand and a blank, the operator compares that operand with all that
follows. -/
theorem evaluateCondition_of_wellNested {left right : List Char} (h : WellNested left)
    (op : Comparison) (vars : Bindings) :
    evaluateCondition vars (left ++ ' ' :: (op.symbol.toList ++ ' ' :: right))
      = (evaluate vars left).bind fun a => (evaluate vars right).bind fun b => op.holds a b := by
  have htrim : Text.trim (left ++ ' ' :: (op.symbol.toList ++ ' ' :: right))
      = Text.trimStart (left ++ [' ']) ++ (op.symbol.toList ++ Text.trimEnd (' ' :: right)) := by
    have hsplit := Text.trim_append_append op.symbol_ne_nil op.trimmed_symbol (left ++ [' '])
      (' ' :: right)
    simpa using hsplit
  have hleft : WellNested (Text.trimStart (left ++ [' '])) := h.concat_blank.trimStart
  have hlast : ∀ c ∈ (Text.trimStart (left ++ [' '])).getLast?, c = ' ' := by
    intro c hc
    obtain ⟨start, hstart⟩ := List.dropWhile_suffix (l := left ++ [' ']) Text.isBlank
    have hends := congrArg List.getLast? hstart
    rw [List.getLast?_append, show List.getLast? (List.dropWhile _ _) = some c from hc,
      List.getLast?_concat, Option.some_or] at hends
    exact Option.some.inj hends
  have hright : (Text.trimEnd (' ' :: right)).head? ≠ some '=' := by
    rcases List.prefix_cons_iff.mp (Text.trimEnd_prefix (' ' :: right)) with hnil | ⟨rest, hcons, -⟩
    · simp [hnil]
    · simp [hcons]
  have hleftTrim : Text.trim (Text.trimStart (left ++ [' '])) = Text.trim left := by
    rw [Text.trim_trimStart, Text.trim_append_of_blank isBlank_of_mem_space]
  have hrightTrim : Text.trim (Text.trimEnd (' ' :: right)) = Text.trim right := by
    rw [Text.trim_trimEnd]
    rfl
  have hhead := (Text.trimmed_trim (left ++ ' ' :: (op.symbol.toList ++ ' ' :: right))).head
  rw [htrim] at hhead
  have hcall := callArgument?_of_wellNested hleft op hhead
  rw [evaluateCondition, dropEnclosing_of_none (by rw [htrim, hcall]), htrim,
    splitComparison_of_wellNested hleft hlast op hright]
  simp only [evaluate_congr hleftTrim, evaluate_congr hrightTrim]

/-- **Conditions are split at the right operator.** Behind a well-nested operand that is the first
one, whatever the right operand holds; and brackets around all of a condition make no
difference. -/
theorem evaluateCondition_splits (vars : Bindings) :
    (∀ (left right : List Char) (op : Comparison), WellNested left →
      evaluateCondition vars (left ++ ' ' :: (op.symbol.toList ++ ' ' :: right))
        = (evaluate vars left).bind fun a => (evaluate vars right).bind fun b => op.holds a b) ∧
      ∀ inner text : List Char, Matched roundStep inner → Enclosing inner text →
        evaluateCondition vars text = evaluateCondition vars inner := by
  refine ⟨fun left right op h => evaluateCondition_of_wellNested h op vars, ?_⟩
  intro inner text hinner htext
  rw [evaluateCondition, evaluateCondition, htext.dropEnclosing_eq hinner]

/-- An operator and a bracket in quotes, an operator in brackets, and a right operand that closes
what it never opened. The second condition starts and ends with brackets that do not belong
together. -/
theorem evaluateCondition_sampleGuards :
    WellNested "'<=(' + x[y > 0]".toList ∧
      evaluateCondition .empty "'<=(' + x[y > 0] >= z) == 'w".toList
        = ((evaluate .empty "'<=(' + x[y > 0]".toList).bind fun a =>
            (evaluate .empty "z) == 'w".toList).bind fun b => Comparison.ge.holds a b) ∧
      Matched roundStep "(a) > (b)".toList ∧
      Enclosing "(a) > (b)".toList " ( ((a) > (b) ) )".toList ∧
      evaluateCondition .empty " ( ((a) > (b) ) )".toList
        = evaluateCondition .empty "(a) > (b)".toList := by
  have hleft : WellNested "'<=(' + x[y > 0]".toList := by decide +kernel
  have hmatched : Matched roundStep "(a) > (b)".toList := by decide +kernel
  have hinside : Enclosing "(a) > (b)".toList " ((a) > (b) ) ".toList :=
    .brackets isBlank_of_mem_space isBlank_of_mem_space
      (.blanks (List.forall_mem_nil _) isBlank_of_mem_space)
  have henclosing : Enclosing "(a) > (b)".toList " ( ((a) > (b) ) )".toList :=
    .brackets isBlank_of_mem_space (List.forall_mem_nil _) hinside
  obtain ⟨hsplits, hencloses⟩ := evaluateCondition_splits .empty
  exact ⟨hleft, hsplits _ "z) == 'w".toList .ge hleft, hmatched, henclosing,
    hencloses _ _ hmatched henclosing⟩

end Autograder.Guest
