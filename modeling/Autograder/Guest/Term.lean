import Autograder.Guest.Token
import Autograder.Table

/-!
# Arithmetic terms

The tree of an arithmetic expression, its value, and its reading from tokens by the grammar

    sum     ::= product (('+' | '-') product)*
    product ::= unary (('*' | '/' | '//' | '%') unary)*
    unary   ::= '-' unary | '+' unary | power
    power   ::= atom ('**' unary)?
    atom    ::= literal | name | '(' sum ')'

Sums and products group to the left, powers to the right, and a power binds tighter than the sign
before it. A leading plus leaves no trace in the tree.

Each reader returns the tokens that follow what it read, with the proof that they are fewer than
those it was given; that proof is what makes the readers total.
-/

namespace Autograder.Guest

/-- The values of the names that have one. -/
abbrev Bindings := Table String Value

/-- An arithmetic expression. -/
inductive Term where
  | literal (v : Value)
  | name (n : String)
  | negate (t : Term)
  | binary (op : Operator) (l r : Term)
deriving DecidableEq

namespace Term

/-- The value of a term. Operands are evaluated from left to right and the first fault ends it. -/
def eval (vars : Bindings) : Term → Except Fault Value
  | literal v => .ok v
  | name n =>
    match vars.get? n with
    | some v => .ok v
    | none => .error (.unbound n)
  | negate t => (eval vars t).bind Value.negate
  | binary op l r => (eval vars l).bind fun a => (eval vars r).bind fun b => a.binary op b

/-- Fewer tokens than there were. -/
abbrev Fewer (ts : List Token) := { rest : List Token // rest.length < ts.length }

/-- Forgets that some more tokens had been there. -/
def Fewer.widen {ts us : List Token} (h : us.length ≤ ts.length) (rest : Fewer us) : Fewer ts :=
  ⟨rest.1, Nat.lt_of_lt_of_le rest.2 h⟩

/-- Binds no tighter than a sum. -/
def isSumOperator : Operator → Bool
  | .add | .sub => true
  | _ => false

/-- Binds like a product. -/
def isProductOperator : Operator → Bool
  | .mul | .div | .floorDiv | .mod => true
  | _ => false

mutual

/-- Reads a sum. -/
def readSum (ts : List Token) : Option (Term × Fewer ts) :=
  match readProduct ts with
  | none => none
  | some (l, rest) =>
    match readSumRest l rest.1 with
    | none => none
    | some (t, rest') => some (t, ⟨rest'.1, Nat.lt_of_le_of_lt rest'.2 rest.2⟩)
termination_by (ts.length, 5)

/-- Reads the operators of a sum and their right operands; `l` is the sum so far. -/
def readSumRest (l : Term) (ts : List Token) :
    Option (Term × { rest : List Token // rest.length ≤ ts.length }) :=
  match ts with
  | .op o :: us =>
    if isSumOperator o then
      match readProduct us with
      | none => none
      | some (r, rest) =>
        match readSumRest (.binary o l r) rest.1 with
        | none => none
        | some (t, rest') =>
          some (t, ⟨rest'.1, by have := rest.2; have := rest'.2; simp; omega⟩)
    else some (l, ⟨.op o :: us, Nat.le_refl _⟩)
  | us => some (l, ⟨us, Nat.le_refl _⟩)
termination_by (ts.length, 0)

/-- Reads a product. -/
def readProduct (ts : List Token) : Option (Term × Fewer ts) :=
  match readUnary ts with
  | none => none
  | some (l, rest) =>
    match readProductRest l rest.1 with
    | none => none
    | some (t, rest') => some (t, ⟨rest'.1, Nat.lt_of_le_of_lt rest'.2 rest.2⟩)
termination_by (ts.length, 4)

/-- Reads the operators of a product and their right operands; `l` is the product so far. -/
def readProductRest (l : Term) (ts : List Token) :
    Option (Term × { rest : List Token // rest.length ≤ ts.length }) :=
  match ts with
  | .op o :: us =>
    if isProductOperator o then
      match readUnary us with
      | none => none
      | some (r, rest) =>
        match readProductRest (.binary o l r) rest.1 with
        | none => none
        | some (t, rest') =>
          some (t, ⟨rest'.1, by have := rest.2; have := rest'.2; simp; omega⟩)
    else some (l, ⟨.op o :: us, Nat.le_refl _⟩)
  | us => some (l, ⟨us, Nat.le_refl _⟩)
termination_by (ts.length, 0)

/-- Reads signs and the power behind them. -/
def readUnary (ts : List Token) : Option (Term × Fewer ts) :=
  match ts with
  | .op .sub :: us =>
    match readUnary us with
    | none => none
    | some (t, rest) => some (.negate t, rest.widen (by simp))
  | .op .add :: us =>
    match readUnary us with
    | none => none
    | some (t, rest) => some (t, rest.widen (by simp))
  | us => readPower us
termination_by (ts.length, 3)

/-- Reads an atom and the exponent that may follow it. -/
def readPower (ts : List Token) : Option (Term × Fewer ts) :=
  match readAtom ts with
  | none => none
  | some (base, ⟨.op .pow :: us, h⟩) =>
    have : us.length < ts.length := Nat.lt_trans (Nat.lt_succ_self _) h
    match readUnary us with
    | none => none
    | some (exponent, rest) =>
      some (.binary .pow base exponent, rest.widen (Nat.le_of_lt this))
  | some (base, rest) => some (base, rest)
termination_by (ts.length, 2)

/-- Reads a literal, a name or a sum in brackets. -/
def readAtom (ts : List Token) : Option (Term × Fewer ts) :=
  match ts with
  | .literal v :: us => some (.literal v, ⟨us, by simp⟩)
  | .name n :: us => some (.name n, ⟨us, by simp⟩)
  | .opening :: us =>
    match readSum us with
    | some (t, ⟨.closing :: rest, h⟩) => some (t, ⟨rest, by simp at h ⊢; omega⟩)
    | _ => none
  | _ => none
termination_by (ts.length, 1)

end

/-- The term that a list of tokens spells, if all of it is one sum. -/
def ofTokens? (ts : List Token) : Option Term :=
  match readSum ts with
  | some (t, ⟨[], _⟩) => some t
  | _ => none

/-- The term that a text spells. -/
def ofText? (text : List Char) : Option Term :=
  (Token.ofText? text).bind ofTokens?

end Term

end Autograder.Guest
