import Autograder.Guest.Term

/-!
# The grammar of terms

Which lists of tokens spell which terms, said without the readers, and the proof that the readers
say the same.

`Derives` is the grammar, one constructor for each way in which a category can be spelled. Sums and
products are written with the recursion on the left, which is what makes them group to the left; a
leading plus leaves the tree as it is. The readers have no such recursion. They read one operand
and then loop, with the tree so far in hand, so both directions of the proof turn on the loops.

* *Soundness* carries the tokens already used along: if they derive the tree so far, what the loop
  goes on to use derives the tree it returns (`LoopOf.sound`).
* *Completeness* reads a derivation in front of other tokens: the readers take all of it and then
  stand in the loop with its tree, provided that no operator that follows binds its last operand
  more tightly (`Derives.read_append`).

The readers return the tokens they leave with a proof that these are fewer. Here `read` forgets the
proof, and each reader gets its equations once.

## Main definitions

* `Term.Category`, `Term.Derives` — the grammar
* `Term.read`, `Term.sumRest`, `Term.productRest` — the readers without proofs

## Main results

* `Term.read_sound` — what a reader uses derives the tree it returns
* `Term.Derives.read_append` — a derivation is read as far as it goes
* `Term.readSum_consumes_iff` — the readers accept exactly the grammar
-/

namespace Autograder.Guest

namespace Term

/-- The categories of the grammar, the loosest first. -/
inductive Category where
  | sum
  | product
  | unary
  | power
  | atom
deriving DecidableEq

/-- The tokens spell the term as a phrase of the category. -/
inductive Derives : Category → List Token → Term → Prop
  | ofProduct {ts t} : Derives .product ts t → Derives .sum ts t
  | sum {ts us l r o} : Derives .sum ts l → isSumOperator o = true → Derives .product us r →
      Derives .sum (ts ++ .op o :: us) (.binary o l r)
  | ofUnary {ts t} : Derives .unary ts t → Derives .product ts t
  | product {ts us l r o} : Derives .product ts l → isProductOperator o = true →
      Derives .unary us r → Derives .product (ts ++ .op o :: us) (.binary o l r)
  | ofPower {ts t} : Derives .power ts t → Derives .unary ts t
  | minus {ts t} : Derives .unary ts t → Derives .unary (.op .sub :: ts) (.negate t)
  | plus {ts t} : Derives .unary ts t → Derives .unary (.op .add :: ts) t
  | ofAtom {ts t} : Derives .atom ts t → Derives .power ts t
  | power {ts us b e} : Derives .atom ts b → Derives .unary us e →
      Derives .power (ts ++ .op .pow :: us) (.binary .pow b e)
  | literal (v) : Derives .atom [.literal v] (.literal v)
  | name (n) : Derives .atom [.name n] (.name n)
  | brackets {ts t} : Derives .sum ts t → Derives .atom (.opening :: (ts ++ [.closing])) t

/-! ### Readers without proofs -/

/-- What was read and the tokens that follow it. -/
def plain {p : List Token → Prop} (result : Term × { rest : List Token // p rest }) :
    Term × List Token :=
  (result.1, result.2.1)

/-- Reads a phrase of a category. -/
def read : Category → List Token → Option (Term × List Token)
  | .sum, ts => (readSum ts).map plain
  | .product, ts => (readProduct ts).map plain
  | .unary, ts => (readUnary ts).map plain
  | .power, ts => (readPower ts).map plain
  | .atom, ts => (readAtom ts).map plain

/-- Reads the operators of a sum and their right operands. -/
def sumRest (l : Term) (ts : List Token) : Option (Term × List Token) :=
  (readSumRest l ts).map plain

/-- Reads the operators of a product and their right operands. -/
def productRest (l : Term) (ts : List Token) : Option (Term × List Token) :=
  (readProductRest l ts).map plain

theorem read_sum (ts : List Token) :
    read .sum ts = (read .product ts).bind fun p => sumRest p.1 p.2 := by
  rw [read, readSum, read]
  cases readProduct ts with
  | none => rfl
  | some p =>
    obtain ⟨l, rest⟩ := p
    simp only [Option.map_some, Option.bind_some, plain, sumRest]
    cases readSumRest l rest.1 <;> rfl

theorem read_product (ts : List Token) :
    read .product ts = (read .unary ts).bind fun p => productRest p.1 p.2 := by
  rw [read, readProduct, read]
  cases readUnary ts with
  | none => rfl
  | some p =>
    obtain ⟨l, rest⟩ := p
    simp only [Option.map_some, Option.bind_some, plain, productRest]
    cases readProductRest l rest.1 <;> rfl

theorem read_minus (us : List Token) :
    read .unary (.op .sub :: us) = (read .unary us).map fun p => (.negate p.1, p.2) := by
  rw [read, readUnary, read]
  cases readUnary us <;> rfl

theorem read_plus (us : List Token) : read .unary (.op .add :: us) = read .unary us := by
  rw [read, readUnary, read]
  cases readUnary us <;> rfl

/-- The tokens do not start with an operator of the kind. -/
def Stops (p : Operator → Bool) (ts : List Token) : Prop :=
  ∀ o us, ts = .op o :: us → p o = false

/-- Without a sign there is only a power. -/
theorem read_unary {ts : List Token} (h : Stops isSumOperator ts) :
    read .unary ts = read .power ts := by
  rw [read, readUnary, read]
  · rintro us rfl
    exact absurd (h .sub us rfl) (by decide)
  · rintro us rfl
    exact absurd (h .add us rfl) (by decide)

theorem read_power (ts : List Token) :
    read .power ts = (read .atom ts).bind fun p =>
      match p.2 with
      | .op .pow :: us => (read .unary us).map fun q => (.binary .pow p.1 q.1, q.2)
      | _ => some p := by
  rw [read, readPower, read]
  cases readAtom ts with
  | none => rfl
  | some p =>
    obtain ⟨b, ⟨rest, hlt⟩⟩ := p
    simp only [Option.map_some, Option.bind_some, plain]
    split
    · simp_all
    · rename_i base us hlt' heq
      obtain ⟨rfl, rfl⟩ := by simpa using heq
      simp only [read]
      cases readUnary us <;> rfl
    · rename_i base rest' hpow heq
      obtain ⟨rfl, rfl⟩ := by simpa using heq
      split
      · rename_i us
        exact absurd rfl (hpow us hlt)
      · rfl

theorem read_atom_literal (v : Value) (us : List Token) :
    read .atom (.literal v :: us) = some (.literal v, us) := by
  rw [read, readAtom]
  rfl

theorem read_atom_name (n : String) (us : List Token) :
    read .atom (.name n :: us) = some (.name n, us) := by
  rw [read, readAtom]
  rfl

theorem read_atom_opening (us : List Token) :
    read .atom (.opening :: us) = (read .sum us).bind fun p =>
      match p.2 with
      | .closing :: rest => some (p.1, rest)
      | _ => none := by
  rw [show read .atom (.opening :: us) = (readAtom (.opening :: us)).map plain from rfl,
    show read .sum us = (readSum us).map plain from rfl, readAtom.eq_def]
  dsimp only
  cases readSum us with
  | none => rfl
  | some p =>
    obtain ⟨t, ⟨rest, hlt⟩⟩ := p
    simp only [Option.map_some, Option.bind_some, plain]
    split
    · rename_i t' rest' hlt' heq
      obtain ⟨rfl, rfl⟩ := by simpa using heq
      rfl
    · rename_i hno
      split
      · rename_i rest'
        exact absurd rfl (hno t rest' hlt)
      · rfl

/-- An atom is a literal, a name, or a sum in brackets. -/
theorem read_atom_cases {ts rest : List Token} {t : Term} (h : read .atom ts = some (t, rest)) :
    (∃ v, ts = .literal v :: rest ∧ t = .literal v) ∨ (∃ n, ts = .name n :: rest ∧ t = .name n) ∨
      ∃ us, ts = .opening :: us ∧ read .sum us = some (t, .closing :: rest) := by
  match ts with
  | [] => simp [read, readAtom] at h
  | .literal v :: us =>
    rw [read_atom_literal] at h
    simp_all
  | .name n :: us =>
    rw [read_atom_name] at h
    simp_all
  | .opening :: us =>
    rw [read_atom_opening] at h
    obtain ⟨⟨t', us'⟩, hs, h⟩ := Option.bind_eq_some_iff.mp h
    split at h
    · rename_i rest' hrest
      simp only at hrest
      subst hrest
      obtain ⟨rfl, rfl⟩ := by simpa using h
      exact Or.inr (Or.inr ⟨us, rfl, hs⟩)
    · simp at h
  | .op o :: us => simp [read, readAtom] at h
  | .closing :: us => simp [read, readAtom] at h

/-! ### The loops

Sums and products loop in the same way. What the proofs need of a loop is said once. -/

/-- The loop goes on at the operators it takes and stops at everything else. -/
structure LoopOf (takes : Operator → Bool) (operand : Category)
    (loop : Term → List Token → Option (Term × List Token)) : Prop where
  /-- An operator that is taken has a right operand. -/
  op : ∀ l o us, takes o = true →
    loop l (.op o :: us) = (read operand us).bind fun p => loop (.binary o l p.1) p.2
  /-- Everything else is left. -/
  stop : ∀ l ts, Stops takes ts → loop l ts = some (l, ts)

theorem loopOf_sumRest : LoopOf isSumOperator .product sumRest where
  op l o us ho := by
    rw [sumRest, readSumRest, if_pos ho, read]
    cases readProduct us with
    | none => rfl
    | some p =>
      obtain ⟨r, rest⟩ := p
      simp only [Option.map_some, Option.bind_some, plain, sumRest]
      cases readSumRest (.binary o l r) rest.1 <;> rfl
  stop l ts h := by
    cases ts with
    | nil => simp [sumRest, readSumRest, plain]
    | cons tok us =>
      cases tok with
      | op o =>
        rw [sumRest, readSumRest, if_neg (by simp [h o us rfl])]
        rfl
      | literal | name | opening | closing => simp [sumRest, readSumRest, plain]

theorem loopOf_productRest : LoopOf isProductOperator .unary productRest where
  op l o us ho := by
    rw [productRest, readProductRest, if_pos ho, read]
    cases readUnary us with
    | none => rfl
    | some p =>
      obtain ⟨r, rest⟩ := p
      simp only [Option.map_some, Option.bind_some, plain, productRest]
      cases readProductRest (.binary o l r) rest.1 <;> rfl
  stop l ts h := by
    cases ts with
    | nil => simp [productRest, readProductRest, plain]
    | cons tok us =>
      cases tok with
      | op o =>
        rw [productRest, readProductRest, if_neg (by simp [h o us rfl])]
        rfl
      | literal | name | opening | closing => simp [productRest, readProductRest, plain]

/-! ### Soundness -/

/-- Fewer than `n` tokens are read as phrases of the category only. -/
def SoundBelow (n : Nat) (c : Category) : Prop :=
  ∀ ts t rest, ts.length < n → read c ts = some (t, rest) →
    ∃ used, ts = used ++ rest ∧ Derives c used t

/-- **What a loop uses.** If the tokens used so far derive the tree so far, then together with what
the loop uses they derive the tree it returns. -/
theorem LoopOf.sound {takes : Operator → Bool} {operand c : Category}
    {loop : Term → List Token → Option (Term × List Token)} (hloop : LoopOf takes operand loop)
    (hderives : ∀ {ts us l r o}, Derives c ts l → takes o = true → Derives operand us r →
      Derives c (ts ++ .op o :: us) (.binary o l r))
    {n : Nat} (hoperand : SoundBelow n operand) {ts us rest : List Token} {l t : Term}
    (hus : us.length < n) (hl : Derives c ts l) (h : loop l us = some (t, rest)) :
    ∃ used, us = used ++ rest ∧ Derives c (ts ++ used) t := by
  induction hk : us.length using Nat.strongRecOn generalizing ts us l with
  | ind k ih =>
    by_cases hstop : Stops takes us
    · rw [hloop.stop l us hstop] at h
      obtain ⟨rfl, rfl⟩ := by simpa using h
      exact ⟨[], rfl, by simpa using hl⟩
    · simp only [Stops, Classical.not_forall, Bool.not_eq_false] at hstop
      obtain ⟨o, us', rfl, ho⟩ := hstop
      rw [hloop.op l o us' ho] at h
      obtain ⟨⟨r, rest'⟩, hr, hmore⟩ := Option.bind_eq_some_iff.mp h
      dsimp only at hmore
      simp only [List.length_cons] at hus hk
      obtain ⟨right, rfl, hright⟩ := hoperand us' r rest' (by omega) hr
      simp only [List.length_append] at hus hk
      obtain ⟨more, rfl, hd⟩ := ih rest'.length (by omega) (by omega)
        (hderives hl ho hright) hmore rfl
      exact ⟨.op o :: (right ++ more), by simp, by simpa using hd⟩

theorem sound_atom {n : Nat} (ih : ∀ c, SoundBelow n c) : SoundBelow (n + 1) .atom := by
  intro ts t rest hlt h
  rcases read_atom_cases h with ⟨v, rfl, rfl⟩ | ⟨m, rfl, rfl⟩ | ⟨us, rfl, hs⟩
  · exact ⟨[.literal v], rfl, .literal v⟩
  · exact ⟨[.name m], rfl, .name m⟩
  · obtain ⟨used, rfl, hd⟩ := ih .sum us t _ (by simpa using hlt) hs
    exact ⟨.opening :: (used ++ [.closing]), by simp, .brackets hd⟩

theorem sound_power {n : Nat} (ih : ∀ c, SoundBelow n c) : SoundBelow (n + 1) .power := by
  intro ts t rest hlt h
  rw [read_power] at h
  obtain ⟨⟨b, rest'⟩, hb, hexp⟩ := Option.bind_eq_some_iff.mp h
  obtain ⟨base, rfl, hbase⟩ := sound_atom ih ts b rest' hlt hb
  split at hexp
  · rename_i us hus
    simp only at hus
    subst hus
    obtain ⟨⟨e, rest''⟩, he, heq⟩ := Option.map_eq_some_iff.mp hexp
    obtain ⟨rfl, rfl⟩ := by simpa using heq
    have hlen : us.length < n := by
      simp only [List.length_append, List.length_cons] at hlt
      omega
    obtain ⟨exponent, rfl, hd⟩ := ih .unary us e rest'' hlen he
    exact ⟨base ++ .op .pow :: exponent, by simp, .power hbase hd⟩
  · obtain ⟨rfl, rfl⟩ := by simpa using hexp
    exact ⟨base, rfl, .ofAtom hbase⟩

theorem sound_unary {n : Nat} (ih : ∀ c, SoundBelow n c) : SoundBelow (n + 1) .unary := by
  intro ts t rest hlt h
  by_cases hsign : Stops isSumOperator ts
  · rw [read_unary hsign] at h
    obtain ⟨used, hused, hd⟩ := sound_power ih ts t rest hlt h
    exact ⟨used, hused, .ofPower hd⟩
  · simp only [Stops, Classical.not_forall, Bool.not_eq_false] at hsign
    obtain ⟨o, us, rfl, ho⟩ := hsign
    have hlen : us.length < n := by simpa using hlt
    cases o with
    | sub =>
      rw [read_minus] at h
      obtain ⟨⟨t', rest'⟩, ht, h⟩ := Option.map_eq_some_iff.mp h
      obtain ⟨rfl, rfl⟩ := by simpa using h
      obtain ⟨used, rfl, hd⟩ := ih .unary us t' rest' hlen ht
      exact ⟨.op .sub :: used, rfl, .minus hd⟩
    | add =>
      rw [read_plus] at h
      obtain ⟨used, rfl, hd⟩ := ih .unary us t rest hlen h
      exact ⟨.op .add :: used, rfl, .plus hd⟩
    | mul | div | floorDiv | mod | pow => simp [isSumOperator] at ho

theorem sound_product {n : Nat} (ih : ∀ c, SoundBelow n c) : SoundBelow (n + 1) .product := by
  intro ts t rest hlt h
  rw [read_product] at h
  obtain ⟨⟨l, us⟩, hl, hrest⟩ := Option.bind_eq_some_iff.mp h
  obtain ⟨first, rfl, hfirst⟩ := sound_unary ih ts l us hlt hl
  have hus : us.length < n + 1 := by
    simp only [List.length_append] at hlt
    omega
  obtain ⟨used, rfl, hd⟩ := loopOf_productRest.sound .product (sound_unary ih) hus
    (.ofUnary hfirst) hrest
  exact ⟨first ++ used, by simp, hd⟩

theorem sound_sum {n : Nat} (ih : ∀ c, SoundBelow n c) : SoundBelow (n + 1) .sum := by
  intro ts t rest hlt h
  rw [read_sum] at h
  obtain ⟨⟨l, us⟩, hl, hrest⟩ := Option.bind_eq_some_iff.mp h
  obtain ⟨first, rfl, hfirst⟩ := sound_product ih ts l us hlt hl
  have hus : us.length < n + 1 := by
    simp only [List.length_append] at hlt
    omega
  obtain ⟨used, rfl, hd⟩ := loopOf_sumRest.sound .sum (sound_product ih) hus
    (.ofProduct hfirst) hrest
  exact ⟨first ++ used, by simp, hd⟩

theorem soundBelow (n : Nat) : ∀ c, SoundBelow n c := by
  induction n with
  | zero => exact fun c ts t rest hlt => absurd hlt (Nat.not_lt_zero _)
  | succ n ih =>
    intro c
    cases c with
    | sum => exact sound_sum ih
    | product => exact sound_product ih
    | unary => exact sound_unary ih
    | power => exact sound_power ih
    | atom => exact sound_atom ih

/-- **Soundness.** What a reader uses derives the tree it returns, and it leaves the rest. -/
theorem read_sound {c : Category} {ts rest : List Token} {t : Term}
    (h : read c ts = some (t, rest)) : ∃ used, ts = used ++ rest ∧ Derives c used t :=
  soundBelow (ts.length + 1) c ts t rest (Nat.lt_succ_self _) h

/-! ### Completeness -/

/-- The operators that go on with the last operand of a phrase instead of ending the phrase. -/
def bindsTighter : Category → Operator → Bool
  | .sum, o => isProductOperator o || o == .pow
  | .product, o | .unary, o | .power, o => o == .pow
  | .atom, _ => false

/-- Where a reader stands once it has read a phrase: in its loop, if it has one. -/
def resume : Category → Term → List Token → Option (Term × List Token)
  | .sum, t, rest => sumRest t rest
  | .product, t, rest => productRest t rest
  | .unary, t, rest | .power, t, rest | .atom, t, rest => some (t, rest)

theorem Stops.mono {p q : Operator → Bool} {ts : List Token} (h : Stops p ts)
    (hpq : ∀ o, q o = true → p o = true) : Stops q ts := by
  intro o us hts
  cases hq : q o with
  | false => rfl
  | true => exact absurd (hpq o hq) (by simp [h o us hts])

/-- A token that is no operator stops every loop. -/
theorem stops_closing (p : Operator → Bool) (ts : List Token) : Stops p (.closing :: ts) := by
  intro o us h
  simp at h

theorem stops_op {p : Operator → Bool} {o : Operator} (h : p o = false) (ts : List Token) :
    Stops p (.op o :: ts) := by
  intro o' us heq
  obtain ⟨rfl, rfl⟩ := by simpa using heq
  exact h

/-- Signs and operators start no atom. -/
theorem Derives.head_atom {ts : List Token} {t : Term} (h : Derives .atom ts t) :
    ∃ tok us, ts = tok :: us ∧ ∀ o, tok ≠ .op o := by
  cases h with
  | literal v => exact ⟨_, _, rfl, by simp⟩
  | name n => exact ⟨_, _, rfl, by simp⟩
  | brackets h => exact ⟨_, _, rfl, by simp⟩

/-- Signs and operators start no power. -/
theorem Derives.stops_power {ts : List Token} {t : Term} (h : Derives .power ts t)
    (p : Operator → Bool) (rest : List Token) : Stops p (ts ++ rest) := by
  intro o us heq
  cases h with
  | ofAtom ha | power ha =>
    obtain ⟨tok, ts', rfl, htok⟩ := ha.head_atom
    exact absurd (List.cons_eq_cons.mp heq).1 (htok o)

/-- A base with no exponent behind it. -/
theorem read_power_of_stops {ts rest : List Token} {t : Term}
    (h : read .atom ts = some (t, rest)) (hrest : Stops (· == .pow) rest) :
    read .power ts = some (t, rest) := by
  rw [read_power, h, Option.bind_some]
  dsimp only
  split
  · rename_i us
    exact absurd (hrest .pow us rfl) (by decide)
  · rfl

/-- Behind the last operand of a sum there is no operator left for a product. -/
theorem resume_product {t : Term} {rest : List Token} (h : Stops (bindsTighter .sum) rest) :
    resume .product t rest = some (t, rest) :=
  loopOf_productRest.stop _ _ (h.mono fun o ho => by simp [bindsTighter, ho])

/-- **Completeness.** In front of tokens that do not go on with its last operand, a phrase is read
to its end. -/
theorem Derives.read_append {c : Category} {ts : List Token} {t : Term} (h : Derives c ts t) :
    ∀ rest, Stops (bindsTighter c) rest → read c (ts ++ rest) = resume c t rest := by
  induction h with
  | ofProduct _ ih =>
    intro rest hrest
    rw [read_sum, ih rest (hrest.mono fun o ho => by simp_all [bindsTighter]),
      resume_product hrest]
    rfl
  | @sum ts us l r o _ ho _ ihl ihr =>
    intro rest hrest
    have hop : Stops (bindsTighter .sum) (.op o :: (us ++ rest)) :=
      stops_op (by cases o <;> simp_all [bindsTighter, isSumOperator, isProductOperator]) _
    rw [List.append_assoc, List.cons_append, ihl _ hop, resume, loopOf_sumRest.op _ _ _ ho,
      ihr rest (hrest.mono fun o ho => by simp_all [bindsTighter]), resume_product hrest]
    rfl
  | ofUnary _ ih =>
    intro rest hrest
    rw [read_product, ih rest hrest]
    rfl
  | @product ts us l r o _ ho _ ihl ihr =>
    intro rest hrest
    have hop : Stops (bindsTighter .product) (.op o :: (us ++ rest)) :=
      stops_op (by cases o <;> simp_all [bindsTighter, isProductOperator]) _
    rw [List.append_assoc, List.cons_append, ihl _ hop, resume, loopOf_productRest.op _ _ _ ho,
      ihr rest hrest]
    rfl
  | ofPower h ih =>
    intro rest hrest
    rw [read_unary (h.stops_power _ rest)]
    exact ih rest hrest
  | minus _ ih =>
    intro rest hrest
    rw [List.cons_append, read_minus, ih rest hrest]
    rfl
  | plus _ ih =>
    intro rest hrest
    rw [List.cons_append, read_plus]
    exact ih rest hrest
  | ofAtom _ ih =>
    intro rest hrest
    exact read_power_of_stops (ih rest fun _ _ _ => rfl) hrest
  | power _ _ ihb ihe =>
    intro rest hrest
    rw [List.append_assoc, List.cons_append, read_power, ihb _ fun _ _ _ => rfl]
    simp only [resume, Option.bind_some]
    rw [ihe rest hrest]
    rfl
  | literal v => exact fun rest _ => read_atom_literal v rest
  | name n => exact fun rest _ => read_atom_name n rest
  | brackets _ ih =>
    intro rest _
    rw [List.cons_append, List.append_assoc, List.cons_append, List.nil_append, read_atom_opening,
      ih _ (stops_closing _ rest), resume, loopOf_sumRest.stop _ _ (stops_closing _ rest)]
    rfl

/-! ### The grammar is what the readers accept -/

/-- The reader of sums takes a whole list exactly if the list spells the term. -/
theorem read_sum_eq_some_iff {ts : List Token} {t : Term} :
    read .sum ts = some (t, []) ↔ Derives .sum ts t := by
  constructor
  · intro h
    obtain ⟨used, rfl, hd⟩ := read_sound h
    simpa using hd
  · intro h
    have hnil : ∀ p, Stops p [] := fun _ _ _ h => by simp at h
    simpa [resume, loopOf_sumRest.stop _ _ (hnil _)] using h.read_append [] (hnil _)

theorem readSum_eq_some_iff {ts : List Token} {t : Term} :
    (∃ h, readSum ts = some (t, ⟨[], h⟩)) ↔ Derives .sum ts t := by
  rw [← read_sum_eq_some_iff, read, Option.map_eq_some_iff]
  constructor
  · rintro ⟨h, heq⟩
    exact ⟨_, heq, rfl⟩
  · rintro ⟨⟨t', ⟨rest, hlt⟩⟩, heq, hplain⟩
    obtain ⟨rfl, rfl⟩ := by simpa [plain] using hplain
    exact ⟨hlt, heq⟩

/-- The term of a list of tokens is the one that the list spells. -/
theorem ofTokens?_eq_some_iff {ts : List Token} {t : Term} :
    ofTokens? ts = some t ↔ Derives .sum ts t := by
  rw [← readSum_eq_some_iff, ofTokens?]
  constructor
  · intro h
    split at h
    · rename_i t' hlt heq
      obtain rfl := by simpa using h
      exact ⟨hlt, heq⟩
    · simp at h
  · rintro ⟨hlt, heq⟩
    rw [heq]

/-- **The readers accept exactly the grammar.** The reader of sums returns a tree and leaves no
token if and only if the tokens spell that tree; they spell no other; and if they spell none at
all, the text that they come from has no term. -/
theorem readSum_consumes_iff (ts : List Token) :
    (∀ t, (∃ h, readSum ts = some (t, ⟨[], h⟩)) ↔ Derives .sum ts t) ∧
      (∀ t t', Derives .sum ts t → Derives .sum ts t' → t = t') ∧
      ((∀ t, ¬ Derives .sum ts t) →
        ofTokens? ts = none ∧ ∀ text, Token.ofText? text = some ts → ofText? text = none) := by
  refine ⟨fun t => readSum_eq_some_iff, fun t t' h h' => ?_, fun hno => ?_⟩
  · rw [← ofTokens?_eq_some_iff] at h h'
    exact Option.some.inj (h.symm.trans h')
  · have hnone : ofTokens? ts = none := by
      rw [Option.eq_none_iff_forall_ne_some]
      exact fun t ht => hno t (ofTokens?_eq_some_iff.mp ht)
    exact ⟨hnone, fun text htext => by rw [ofText?, htext, Option.bind_some, hnone]⟩

end Term

end Autograder.Guest
