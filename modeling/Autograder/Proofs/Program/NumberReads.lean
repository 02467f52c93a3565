import Autograder.Proofs.Program.Assignments

/-!
# Numerals in input and in program text

A plain numeral is a row of digits, perhaps with a point among or around them, perhaps behind a
sign. In program text every numeral is a term with a value: digits that no word holds become a float,
and a plus leaves no trace. Reading a float from input goes another way. It asks for an integer of 64
bits or for a number with a point that has no sign but a minus, and refuses what is neither: digits
that no word holds, and a point behind a plus. `IsReadable` says which numerals are left.

## Main definitions

* `IsNumeral` — a numeral without its sign
* `IsReadable` — a numeral that is no fault as input for a float
* `numeralFloat` — the float that a numeral stands for

## Main results

* `IsNumeral.exists_eval` — every numeral has a value in program text
* `readFloat_signed` — what reading a float makes of a numeral
* `numeral_reads_iff` — where input and program text agree
-/

namespace Autograder.Guest

/-! ### Numerals -/

/-- A row of digits, or a point with digits in front of it, behind it or on both sides. -/
inductive IsNumeral : List Char → Prop where
  | whole {digits : List Char} (hne : digits ≠ [])
      (h : ∀ c ∈ digits, Decimal.isDigit c = true) : IsNumeral digits
  | pointed {whole fraction : List Char} (hne : whole ++ fraction ≠ [])
      (h : ∀ c ∈ whole ++ fraction, Decimal.isDigit c = true) :
      IsNumeral (whole ++ '.' :: fraction)

/-- What can stand in front of a numeral. -/
def numeralSigns : List (List Char) :=
  [[], ['+'], ['-']]

theorem eq_of_mem_numeralSigns {sign : List Char} (h : sign ∈ numeralSigns) :
    sign = [] ∨ sign = ['+'] ∨ sign = ['-'] := by
  simpa [numeralSigns] using h

/-- The numeral is an integer of 64 bits, or has a point and no plus. -/
def IsReadable (sign row : List Char) : Prop :=
  if '.' ∈ row then sign ≠ ['+']
  else Decimal.natOfDigits row < if sign = ['-'] then 2 ^ 63 + 1 else 2 ^ 63

instance (sign row : List Char) : Decidable (IsReadable sign row) :=
  inferInstanceAs (Decidable (if '.' ∈ row then _ else _))

/-- The float nearest to a numeral. The sign comes last, so a minus stays in front of a zero. -/
def numeralFloat (sign row : List Char) : Float :=
  let x := ((Decimal.decimal? row).map fun d => Decimal.nearest d.digits d.exponent).getD 0
  if sign = ['-'] then -x else x

theorem digits?_of_isDigit {digits : List Char} (hne : digits ≠ [])
    (h : ∀ c ∈ digits, Decimal.isDigit c = true) :
    Decimal.digits? digits = some (Decimal.natOfDigits digits) :=
  if_pos (by simpa [hne] using h)

/-- A row of digits is a decimal without a fraction. -/
theorem decimal?_of_digits {digits : List Char} (hne : digits ≠ [])
    (h : ∀ c ∈ digits, Decimal.isDigit c = true) :
    Decimal.decimal? digits = some ⟨Decimal.natOfDigits digits, 0⟩ := by
  have hpoint : ∀ c ∈ digits, (c != '.') = true := fun c hc => by
    simpa using ne_of_class (h c hc) (by decide)
  rw [Decimal.decimal?, List.takeWhile_eq_self_iff.mpr hpoint, List.dropWhile_eq_nil_iff.mpr hpoint]
  simp [digits?_of_isDigit hne h]

theorem decimal?_pointed {whole fraction : List Char} (hne : whole ++ fraction ≠ [])
    (h : ∀ c ∈ whole ++ fraction, Decimal.isDigit c = true) :
    Decimal.decimal? (whole ++ '.' :: fraction)
      = some ⟨Decimal.natOfDigits (whole ++ fraction), -(fraction.length : Int)⟩ := by
  have hpoint : ∀ c ∈ whole, (c != '.') = true := fun c hc => by
    simpa using ne_of_class (h c (List.mem_append_left _ hc)) (by decide)
  rw [Decimal.decimal?, List.takeWhile_append_of_pos hpoint, List.dropWhile_append_of_pos hpoint,
    List.takeWhile_cons_of_neg (by decide), List.dropWhile_cons_of_neg (by decide), List.append_nil,
    List.drop_one, List.tail_cons, digits?_of_isDigit hne h, Option.map_some]

namespace IsNumeral

variable {row : List Char} (h : IsNumeral row)

include h

theorem exists_decimal? : ∃ d, Decimal.decimal? row = some d := by
  cases h with
  | whole hne h => exact ⟨_, decimal?_of_digits hne h⟩
  | pointed hne h => exact ⟨_, decimal?_pointed hne h⟩

theorem isNumeric {c : Char} (hc : c ∈ row) : Token.isNumeric c = true := by
  cases h with
  | whole hne h => simp [Token.isNumeric, h c hc]
  | pointed hne h =>
    rw [List.mem_append, List.mem_cons] at hc
    rcases hc with hwhole | rfl | hfraction
    · simp [Token.isNumeric, h c (List.mem_append_left _ hwhole)]
    · rfl
    · simp [Token.isNumeric, h c (List.mem_append_right _ hfraction)]

theorem ne_nil : row ≠ [] := by
  cases h with
  | whole hne h => exact hne
  | pointed hne h => simp

/-- Without a point there are digits only. -/
theorem whole_of_notMem (hpoint : '.' ∉ row) :
    row ≠ [] ∧ ∀ c ∈ row, Decimal.isDigit c = true := by
  cases h with
  | whole hne h => exact ⟨hne, h⟩
  | pointed hne h => exact absurd (List.mem_append_right _ List.mem_cons_self) hpoint

theorem trimmed_signed {sign : List Char} (hsign : sign ∈ numeralSigns) :
    Text.Trimmed (sign ++ row) := by
  have hblank : ∀ c ∈ sign ++ row, Text.isBlank c = false := by
    intro c hc
    rcases List.mem_append.mp hc with hc | hc
    · obtain rfl | rfl | rfl := eq_of_mem_numeralSigns hsign
      · cases hc
      all_goals
        rw [List.mem_singleton.mp hc]
        rfl
    · exact Token.isBlank_of_isNumeric (h.isNumeric hc)
  exact ⟨fun c hc => hblank c (List.mem_of_mem_head? hc),
    fun c hc => hblank c (List.mem_of_mem_getLast? hc)⟩

/-! ### Program text -/

/-- In program text a numeral without a sign is an integer or a float. -/
theorem exists_denotes : (∃ i, Denotes row (.int i)) ∨ ∃ x, Denotes row (.float x) := by
  obtain ⟨d, hd⟩ := h.exists_decimal?
  cases hint : intLiteral? row with
  | some i => exact .inl ⟨i, h.ne_nil, fun _ => h.isNumeric, by rw [numberLiteral?, hint]⟩
  | none =>
    exact .inr ⟨_, h.ne_nil, fun _ => h.isNumeric, by rw [numberLiteral?, hint, hd, Option.map_some]⟩

/-- **Every numeral has a value in program text**, whatever its sign and its size. -/
theorem exists_eval {sign : List Char} (hsign : sign ∈ numeralSigns) :
    ∃ t, Term.ofText? (sign ++ row) = some t ∧ ∀ vars, ∃ v, t.eval vars = .ok v := by
  obtain ⟨v, hdenotes, u, hnegate⟩ : ∃ v, Denotes row v ∧ ∃ u, v.negate = .ok u := by
    rcases h.exists_denotes with ⟨i, hi⟩ | ⟨x, hx⟩
    · exact ⟨_, hi, _, rfl⟩
    · exact ⟨_, hx, _, rfl⟩
  obtain rfl | rfl | rfl := eq_of_mem_numeralSigns hsign
  · exact ⟨_, hdenotes.ofText?, fun _ => ⟨v, rfl⟩⟩
  · exact ⟨_, hdenotes.ofText?_plus, fun _ => ⟨v, rfl⟩⟩
  · exact ⟨_, hdenotes.ofText?_minus, fun _ => ⟨u, hnegate⟩⟩

/-! ### Reading a float -/

theorem splitSign_signed {sign : List Char} (hsign : sign ∈ numeralSigns) :
    Decimal.splitSign (sign ++ row) = (decide (sign = ['-']), row) := by
  obtain rfl | rfl | rfl := eq_of_mem_numeralSigns hsign
  · cases row with
    | nil => rfl
    | cons c row =>
      have hc := h.isNumeric List.mem_cons_self
      rw [List.nil_append, Decimal.splitSign]
      · rfl
      · rintro rest heq
        obtain ⟨rfl, -⟩ := List.cons.inj heq
        exact absurd hc (by decide)
      · rintro rest heq
        obtain ⟨rfl, -⟩ := List.cons.inj heq
        exact absurd hc (by decide)
  · rfl
  · rfl

/-- What stands for an integer: no point, and digits that a word holds behind the sign. -/
theorem intLiteral?_signed {sign : List Char} (hsign : sign ∈ numeralSigns) :
    intLiteral? (sign ++ row) = if '.' ∈ row then none else
      word? (if sign = ['-'] then -(Decimal.natOfDigits row : Int)
        else Decimal.natOfDigits row) := by
  by_cases hpoint : '.' ∈ row
  · rw [if_pos hpoint]
    exact Form.intLiteral?_of_mem (List.mem_append_right sign hpoint) (by decide) (by decide)
      (by decide)
  · obtain ⟨hne, hdigits⟩ := h.whole_of_notMem hpoint
    rw [if_neg hpoint, intLiteral?, Decimal.integer?, h.splitSign_signed hsign]
    simp [digits?_of_isDigit hne hdigits]

/-- What stands for a number with a point: a point, and no plus. -/
theorem decimalLiteral?_signed {sign : List Char} (hsign : sign ∈ numeralSigns) :
    decimalLiteral? (sign ++ row)
      = if '.' ∈ row ∧ sign ≠ ['+'] then some (numeralFloat sign row) else none := by
  obtain ⟨d, hd⟩ := h.exists_decimal?
  have hvalue : (if row.contains '.' then (Decimal.decimal? row).map fun d =>
      Decimal.nearest d.digits d.exponent else none)
        = if '.' ∈ row then some (Decimal.nearest d.digits d.exponent) else none := by
    simp [hd]
  have hminus : row.head? ≠ some '-' := by
    intro hhead
    exact absurd (h.isNumeric (List.mem_of_mem_head? hhead)) (by decide)
  obtain rfl | rfl | rfl := eq_of_mem_numeralSigns hsign
  · rw [List.nil_append, decimalLiteral?]
    · dsimp only
      rw [hvalue]
      simp [numeralFloat, hd]
    · rintro rest rfl
      exact hminus rfl
  · have hplus : Decimal.decimal? ('+' :: row) = none :=
      Form.decimal?_of_mem List.mem_cons_self (by decide) (by decide)
    simp [decimalLiteral?, hplus]
  · rw [List.singleton_append, decimalLiteral?]
    dsimp only
    rw [hvalue]
    by_cases hpoint : '.' ∈ row <;> simp [hpoint, numeralFloat, hd]

end IsNumeral

/-- A word holds the digits of a readable numeral without a point. -/
theorem isReadable_iff_word? {sign row : List Char} (hpoint : '.' ∉ row) :
    IsReadable sign row ↔ ∃ i, word? (if sign = ['-'] then -(Decimal.natOfDigits row : Int)
      else Decimal.natOfDigits row) = some i := by
  rw [IsReadable, if_neg hpoint, ← Option.isSome_iff_exists, Option.isSome_iff_ne_none, ne_eq,
    word?_eq_none_iff]
  split <;> omega

/-- **Reading a float from a numeral.** A readable one gives the nearest float, any other is a
fault. -/
theorem readFloat_signed {sign row pad trail : List Char} (hsign : sign ∈ numeralSigns)
    (hrow : IsNumeral row) (hpad : ∀ c ∈ pad, Text.isBlank c = true)
    (htrail : ∀ c ∈ trail, Text.isBlank c = true) :
    readFloat (pad ++ (sign ++ row) ++ trail)
      = if IsReadable sign row then .ok (.float (numeralFloat sign row))
        else .error (.notDecimal (String.ofList (pad ++ (sign ++ row) ++ trail))) := by
  have htrim := Text.trim_surround hpad htrail
    (List.append_ne_nil_of_right_ne_nil sign hrow.ne_nil) (hrow.trimmed_signed hsign)
  rw [readFloat, htrim, hrow.decimalLiteral?_signed hsign, hrow.intLiteral?_signed hsign,
    hrow.splitSign_signed hsign]
  by_cases hpoint : '.' ∈ row
  · by_cases hplus : sign = ['+'] <;> simp [IsReadable, hpoint, hplus]
  · obtain ⟨hne, hdigits⟩ := hrow.whole_of_notMem hpoint
    simp only [hpoint, false_and, if_false]
    cases hword : word? (if sign = ['-'] then -(Decimal.natOfDigits row : Int)
        else Decimal.natOfDigits row) with
    | none =>
      have hunreadable : ¬IsReadable sign row := by simp [isReadable_iff_word? hpoint, hword]
      rw [if_neg hunreadable]
    | some i =>
      rw [if_pos ((isReadable_iff_word? hpoint).mpr ⟨i, hword⟩)]
      simp [numeralFloat, decimal?_of_digits hne hdigits]

/-! ### A line that reads a float -/

/-- An assignment that reads a number. -/
theorem Assignment.statement_number {a : Assignment} {kind : NumberKind} (hop : a.op = none)
    (hname : isIdentifier a.left = true)
    (hkind : numberKind? (a.right.filter fun c => !Text.isBlank c) = some kind) :
    a.statement = .readNumber a.left kind := by
  have hcomma := comma_notMem_of_isIdentifier hname
  simp [statement, hop, hcomma, hname, hkind]

/-- **A line that reads a number** into a name. -/
theorem acts_numberLine {name lead gap right : List Char} (hname : isIdentifier name = true)
    (hlead : ∀ c ∈ lead, Text.isBlank c = true) (hgap : ∀ c ∈ gap, Text.isBlank c = true)
    {kind : NumberKind} (hright : numberKind? (right.filter fun c => !Text.isBlank c) = some kind)
    (number : Nat) :
    (assignmentLine number lead name gap none right).Acts (.readNumber name kind) := by
  have hop : ∀ o ∈ (none : Option Operator), o ∈ compoundOperators := nofun
  have hacts := acts_assignmentLine hname hlead hgap hop number right
  rw [← Text.filter_trim] at hright
  rwa [Assignment.statement_number rfl hname hright] at hacts

/-- What a line that reads a float does with a line of input. -/
theorem execute_readFloat (s : State) (name : List Char) {line : String} {rest : List String}
    (hinput : s.unread = line :: rest) :
    (Statement.readNumber name .float).execute s
      = ({ s with unread := rest, cursor := s.cursor + 1 } : State).withValue
          (readFloat line.toList) fun v =>
            ⟨({ s with unread := rest, cursor := s.cursor + 1 } : State).bind name v, none⟩ := by
  rw [Statement.execute, State.reading, hinput]
  rfl

/-- **Numerals that are read and numerals that are written.** Every numeral, whatever its size and
its sign and with any blanks around it, is a term with a value. Read as a float it gives the nearest
float if it is readable, and otherwise a fault, in which a line that reads a float into a name then
ends. -/
theorem numeral_reads_iff {sign row pad trail : List Char} (hsign : sign ∈ numeralSigns)
    (hrow : IsNumeral row) (hpad : ∀ c ∈ pad, Text.isBlank c = true)
    (htrail : ∀ c ∈ trail, Text.isBlank c = true) :
    (∃ t, Term.ofText? (Text.trim (pad ++ (sign ++ row) ++ trail)) = some t ∧
        ∀ vars, ∃ v, t.eval vars = .ok v) ∧
      readFloat (pad ++ (sign ++ row) ++ trail)
        = (if IsReadable sign row then .ok (.float (numeralFloat sign row))
          else .error (.notDecimal (String.ofList (pad ++ (sign ++ row) ++ trail)))) ∧
      ∀ (number : Nat) (lead name gap right : List Char), isIdentifier name = true →
        (∀ c ∈ lead, Text.isBlank c = true) → (∀ c ∈ gap, Text.isBlank c = true) →
        numberKind? (right.filter fun c => !Text.isBlank c) = some .float →
        ∀ (s : State) (rest : List String),
          s.unread = String.ofList (pad ++ (sign ++ row) ++ trail) :: rest →
          (assignmentLine number lead name gap none right).IsStatement ∧
          (((assignmentLine number lead name gap none right).execute s).fault = none ↔
            IsReadable sign row) := by
  have hread := readFloat_signed hsign hrow hpad htrail
  refine ⟨?_, hread, fun number lead name gap right hname hlead hgap hright s rest hinput => ?_⟩
  · rw [Text.trim_surround hpad htrail (List.append_ne_nil_of_right_ne_nil sign hrow.ne_nil)
      (hrow.trimmed_signed hsign)]
    exact hrow.exists_eval hsign
  · have hacts := acts_numberLine hname hlead hgap hright number
    refine ⟨hacts.toIsStatement, ?_⟩
    rw [hacts.execute_eq, execute_readFloat s name hinput, String.toList_ofList, hread]
    by_cases hreadable : IsReadable sign row <;> simp [hreadable, State.withValue]

/-- A readable numeral between blanks, and a line that reads it. -/
theorem numeral_reads_minusPoint :
    (['-'] ∈ numeralSigns ∧ IsNumeral ['.', '5']) ∧
      readFloat " -.5\t".toList = .ok (.float (numeralFloat ['-'] ['.', '5'])) ∧
      ((assignmentLine 0 [] ['x'] [' '] none "float( input() )".toList).execute
        (State.initial [" -.5\t"])).fault = none := by
  have hsign : ['-'] ∈ numeralSigns := by decide
  have hrow : IsNumeral ([] ++ '.' :: ['5']) :=
    .pointed (by decide) (List.forall_mem_singleton.mpr rfl)
  have hpad : ∀ c ∈ [' '], Text.isBlank c = true := List.forall_mem_singleton.mpr rfl
  have htrail : ∀ c ∈ ['\t'], Text.isBlank c = true := List.forall_mem_singleton.mpr rfl
  have hreads := numeral_reads_iff hsign hrow hpad htrail
  have hline := hreads.2.2 0 [] ['x'] [' '] "float( input() )".toList (by decide)
    (List.forall_mem_nil _) hpad (by decide) (State.initial [" -.5\t"]) [] rfl
  exact ⟨⟨hsign, hrow⟩, hreads.2.1, hline.2.mpr (by decide)⟩

/-- A point behind a plus, and more digits than a word holds: values in program text, faults as
input. -/
theorem numerals_refused :
    (IsNumeral ['1', '.', '5'] ∧
      (∃ t, Term.ofText? "+1.5".toList = some t ∧ ∀ vars, ∃ v, t.eval vars = .ok v) ∧
      readFloat "+1.5".toList = .error (.notDecimal "+1.5")) ∧
    IsNumeral "99999999999999999999".toList ∧
      (∃ t, Term.ofText? "99999999999999999999".toList = some t ∧
        ∀ vars, ∃ v, t.eval vars = .ok v) ∧
      readFloat "99999999999999999999".toList = .error (.notDecimal "99999999999999999999") := by
  have hpointed : IsNumeral (['1'] ++ '.' :: ['5']) :=
    .pointed (by decide) (List.all_eq_true.mp (by decide))
  have hlong : IsNumeral "99999999999999999999".toList :=
    .whole (by decide) (List.all_eq_true.mp (by decide))
  have hplus : ['+'] ∈ numeralSigns := by decide
  have hunsigned : [] ∈ numeralSigns := by decide
  exact ⟨⟨hpointed, hpointed.exists_eval hplus, by decide⟩,
    hlong, hlong.exists_eval hunsigned, by decide⟩

end Autograder.Guest
