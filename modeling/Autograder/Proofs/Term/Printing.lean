import Autograder.Guest.Quoted
import Autograder.Proofs.Term.Grammar

/-!
# Printed terms

A term is printed with one blank on each side of a binary operator, none behind a sign, texts in
single quotes, and brackets only where the grammar needs them. What the grammar needs is a matter
of categories: every term has one of its own, every place in a term asks for one, and brackets
stand exactly where the place asks for a tighter one than the term has.

`Term.write` gives the characters and `Term.tokens` the tokens, by the same recursion. That the
tokens spell the term again follows from the grammar alone.

## Main definitions

* `Term.write`, `Term.tokens` — a term as characters and as tokens
* `Term.isWritable` — the terms that can be written at all

## Main results

* `Term.derives_tokens` — the tokens of a term spell the term
* `Term.length_tokens_le` — no fewer tokens do
-/

namespace Autograder.Guest

/-- A value as a literal. -/
def Value.write : Value → List Char
  | .str s => quote s.toList
  | v => v.text.toList

/-- There is no literal for a negative integer, and none that would give back every float. -/
def Value.isWritable : Value → Bool
  | .int i => 0 ≤ i
  | .float _ => false
  | .str _ | .bool _ => true

namespace Term

/-- How tightly the phrases of a category bind. -/
def Category.rank : Category → Nat
  | .sum => 0
  | .product => 1
  | .unary => 2
  | .power => 3
  | .atom => 4

/-- A tighter phrase may stand where a looser one is asked for. -/
theorem Derives.loosen {c d : Category} {ts : List Token} {t : Term} (hle : c.rank ≤ d.rank)
    (h : Derives d ts t) : Derives c ts t := by
  have power (h : Derives .atom ts t) : Derives .power ts t := .ofAtom h
  have unary (h : Derives .power ts t) : Derives .unary ts t := .ofPower h
  have product (h : Derives .unary ts t) : Derives .product ts t := .ofUnary h
  have sum (h : Derives .product ts t) : Derives .sum ts t := .ofProduct h
  cases c <;> cases d <;> first
    | exact h
    | exact absurd hle (by decide)
    | simp_all only

/-! ### Where brackets stand -/

/-- The category of an operation. -/
def ownCategory (o : Operator) : Category :=
  if isSumOperator o then .sum else if isProductOperator o then .product else .power

/-- The category that an operator asks of its left operand. Sums and products group to the left;
the base of a power is an atom. -/
def leftCategory (o : Operator) : Category :=
  if isSumOperator o then .sum else if isProductOperator o then .product else .atom

/-- The category that an operator asks of its right operand. -/
def rightCategory (o : Operator) : Category :=
  if isSumOperator o then .product else .unary

/-- Brackets around a phrase of the category `own` if `c` asks for a tighter one. -/
def enclose {α : Type} (opening closing : α) (c own : Category) (phrase : List α) : List α :=
  if own.rank < c.rank then opening :: (phrase ++ [closing]) else phrase

/-- The characters of a term where a phrase of the category is asked for. -/
def write (c : Category) : Term → List Char
  | literal v => v.write
  | name n => n.toList
  | negate t => enclose '(' ')' c .unary ('-' :: write .unary t)
  | binary o l r =>
    enclose '(' ')' c (ownCategory o)
      (write (leftCategory o) l ++ ' ' :: (o.symbol.toList ++ ' ' :: write (rightCategory o) r))

/-- The tokens of a term where a phrase of the category is asked for. -/
def tokens (c : Category) : Term → List Token
  | literal v => [.literal v]
  | name n => [.name n]
  | negate t => enclose .opening .closing c .unary (.op .sub :: tokens .unary t)
  | binary o l r =>
    enclose .opening .closing c (ownCategory o)
      (tokens (leftCategory o) l ++ .op o :: tokens (rightCategory o) r)

/-- Every literal can be written and every name is an identifier. -/
def isWritable : Term → Bool
  | literal v => v.isWritable
  | name n => isIdentifier n.toList
  | negate t => t.isWritable
  | binary _ l r => l.isWritable && r.isWritable

/-! ### The tokens spell the term -/

theorem derives_enclose {c own : Category} {ts : List Token} {t : Term} (h : Derives own ts t) :
    Derives c (enclose .opening .closing c own ts) t := by
  rw [enclose]
  split
  · have hsum : Derives .sum ts t := h.loosen (Nat.zero_le _)
    exact (Derives.brackets hsum).loosen (by cases c <;> decide)
  · rename_i hlt
    exact h.loosen (Nat.le_of_not_lt hlt)

/-- An operator and operands of the categories that it asks for. -/
theorem derives_binary {o : Operator} {ts us : List Token} {l r : Term}
    (hl : Derives (leftCategory o) ts l) (hr : Derives (rightCategory o) us r) :
    Derives (ownCategory o) (ts ++ .op o :: us) (.binary o l r) := by
  cases o with
  | add | sub => exact .sum hl rfl hr
  | mul | div | floorDiv | mod => exact .product hl rfl hr
  | pow => exact .power hl hr

/-- **The tokens of a term spell the term**, as a phrase of the category asked for. -/
theorem derives_tokens (t : Term) (c : Category) : Derives c (t.tokens c) t := by
  induction t generalizing c with
  | literal v => exact (Derives.literal v).loosen (by cases c <;> decide)
  | name n => exact (Derives.name n).loosen (by cases c <;> decide)
  | negate t ih => exact derives_enclose (.minus (ih .unary))
  | binary o l r ihl ihr => exact derives_enclose (derives_binary (ihl _) (ihr _))

/-! ### No bracket can be spared -/

theorem length_enclose {α : Type} (opening closing : α) (c own : Category) (phrase : List α) :
    (enclose opening closing c own phrase).length
      = if own.rank < c.rank then phrase.length + 2 else phrase.length := by
  rw [enclose]
  split <;> simp

/-- The tighter the category asked for, the more brackets there are. -/
theorem length_tokens_mono (t : Term) {c d : Category} (h : c.rank ≤ d.rank) :
    (t.tokens c).length ≤ (t.tokens d).length := by
  cases t with
  | literal v => exact Nat.le_refl _
  | name n => exact Nat.le_refl _
  | negate t | binary o l r =>
    rw [tokens, tokens, length_enclose, length_enclose]
    split <;> split <;> omega

/-- Even an atom is at most one pair of brackets longer. -/
theorem length_tokens_atom_le (t : Term) :
    (t.tokens .atom).length ≤ (t.tokens .sum).length + 2 := by
  cases t with
  | literal v => exact Nat.le_add_right _ _
  | name n => exact Nat.le_add_right _ _
  | negate t | binary o l r =>
    rw [tokens, tokens, length_enclose, length_enclose]
    split <;> split <;> omega

/-- Without brackets, an operation is its operator between its operands. -/
theorem tokens_binary (o : Operator) (l r : Term) :
    (binary o l r).tokens (ownCategory o)
      = l.tokens (leftCategory o) ++ .op o :: r.tokens (rightCategory o) := by
  rw [tokens, enclose, if_neg (Nat.lt_irrefl _)]

theorem length_tokens_binary_le {o : Operator} {ts us : List Token} {l r : Term}
    (hl : (l.tokens (leftCategory o)).length ≤ ts.length)
    (hr : (r.tokens (rightCategory o)).length ≤ us.length) :
    ((binary o l r).tokens (ownCategory o)).length ≤ (ts ++ .op o :: us).length := by
  rw [tokens_binary]
  simp only [List.length_append, List.length_cons]
  omega

/-- **No spelling is shorter.** Whatever spells the term as a phrase of the category has at least
as many tokens, so there is no bracket that the grammar does not need. -/
theorem length_tokens_le {c : Category} {ts : List Token} {t : Term} (h : Derives c ts t) :
    (t.tokens c).length ≤ ts.length := by
  induction h with
  | ofProduct _ ih | ofUnary _ ih | ofPower _ ih | ofAtom _ ih =>
    exact Nat.le_trans (length_tokens_mono _ (by decide)) ih
  | @sum ts us l r o _ ho _ ihl ihr =>
    cases o <;> first
      | exact length_tokens_binary_le ihl ihr
      | exact absurd ho (by decide)
  | @product ts us l r o _ ho _ ihl ihr =>
    cases o <;> first
      | exact length_tokens_binary_le ihl ihr
      | exact absurd ho (by decide)
  | minus _ ih =>
    rw [tokens, enclose, if_neg (Nat.lt_irrefl _)]
    exact Nat.succ_le_succ ih
  | plus _ ih => exact Nat.le_succ_of_le ih
  | power _ _ ihb ihe => exact length_tokens_binary_le ihb ihe
  | literal v => exact Nat.le_refl _
  | name n => exact Nat.le_refl _
  | @brackets ts t _ ih =>
    have hatom := length_tokens_atom_le t
    simp only [List.length_cons, List.length_append, List.length_nil]
    omega

end Term

end Autograder.Guest
