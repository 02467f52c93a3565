import Autograder.Guest.Statement
import Autograder.Proofs.Decimal.Length
import Autograder.Proofs.Expression.Printed
import Autograder.Proofs.Expression.Written

/-!
# How long the text values of expressions are

A text value is meant to have no more than `maxValueBytes` bytes. Joining and repeating refuse to
make a longer one. A literal has no more bytes than the expression that it stands in, and a number
or a truth value is a short text. Reversing keeps the bytes.

Two things are not counted: the pieces of a template that are not text values, and what a case
method makes of its receiver. `Outgrows` says of an expression that it has such a part, and that
this part goes beyond the limit. It is the only way in which a value can be too long
(`outgrows_iff`).

## Main definitions

* `Value.IsBounded`, `Bindings.AreBounded` — text values within the limit
* `Piece.isCounted` — the pieces of a template that are counted
* `Outgrows` — an expression with a part that goes beyond the limit uncounted

## Main results

* `bounded_binary`, `bounded_negate` — operators
* `Value.utf8ByteSize_text_le` — values as text
* `foldlM_append_split` — where a template goes beyond the limit
* `outgrows_iff` — expressions
-/

namespace Autograder.Guest

open String (utf8Len utf8Len_reverse)

/-- A value that is no text, or a text within the limit. -/
def Value.IsBounded : Value → Prop
  | .str s => s.utf8ByteSize ≤ maxValueBytes
  | _ => True

/-- All text values of names are within the limit. -/
def Bindings.AreBounded (vars : Bindings) : Prop :=
  ∀ n v, vars.get? n = some v → v.IsBounded

theorem areBounded_empty : Bindings.AreBounded .empty := by
  intro n v hv
  cases hv

theorem Bindings.AreBounded.insert {vars : Bindings} (h : vars.AreBounded) (name : String)
    {v : Value} (hv : v.IsBounded) : Bindings.AreBounded (Table.insert vars name v) := by
  intro n w hw
  rw [Table.get?_insert] at hw
  split at hw
  · rwa [← Option.some.inj hw]
  · exact h n w hw

/-! ### Operators -/

theorem exists_of_bind_eq_ok {α β : Type} {result : Except Fault α} {next : α → Except Fault β}
    {b : β} (h : result.bind next = .ok b) : ∃ a, result = .ok a ∧ next a = .ok b := by
  cases result with
  | ok a => exact ⟨a, rfl, h⟩
  | error f => cases h

theorem exists_of_map_eq_ok {α β : Type} {result : Except Fault α} {g : α → β} {b : β}
    (h : result.map g = .ok b) : ∃ a, result = .ok a ∧ g a = b := by
  cases result with
  | ok a => exact ⟨a, rfl, Except.ok.inj h⟩
  | error f => cases h

theorem le_of_checkSize {bytes : Nat} {u : Unit} (h : checkSize bytes = .ok u) :
    bytes ≤ maxValueBytes := by
  rw [checkSize] at h
  split at h
  · assumption
  · cases h

theorem utf8ByteSize_replicateText (s : String) (times : Nat) :
    (replicateText s times).utf8ByteSize = s.utf8ByteSize * times := by
  rw [replicateText]
  split
  · rename_i hempty
    rw [String.isEmpty_iff.mp hempty]
    simp
  · induction times with
    | zero => simp [Nat.repeat]
    | succ times ih => rw [Nat.repeat, String.utf8ByteSize_append, ih, Nat.mul_succ]

theorem bounded_of_ok {v w : Value} (h : (.ok w : Except Fault Value) = .ok v)
    (hw : w.IsBounded) : v.IsBounded :=
  Except.ok.inj h ▸ hw

theorem bounded_joinText {s t : String} {v : Value} (h : joinText s t = .ok v) : v.IsBounded := by
  obtain ⟨u, hsize, hv⟩ := exists_of_bind_eq_ok h
  obtain rfl : Value.str (s ++ t) = v := Except.ok.inj hv
  rw [Value.IsBounded, String.utf8ByteSize_append]
  exact le_of_checkSize hsize

theorem bounded_repeatText {s : String} {n : Int64} {v : Value} (h : repeatText s n = .ok v) :
    v.IsBounded := by
  obtain ⟨u, hsize, hv⟩ := exists_of_bind_eq_ok h
  obtain rfl : Value.str (replicateText s n.toInt.toNat) = v := Except.ok.inj hv
  rw [Value.IsBounded, utf8ByteSize_replicateText]
  exact le_of_checkSize hsize

theorem bounded_floatBinary {op : Operator} {x y : Float} {v : Value}
    (h : floatBinary op x y = .ok v) : v.IsBounded := by
  rw [floatBinary.eq_def] at h
  split at h
  · cases h
  · exact bounded_of_ok h trivial

theorem bounded_intBinary {op : Operator} {x y : Int64} {v : Value}
    (h : intBinary op x y = .ok v) : v.IsBounded := by
  rw [intBinary] at h
  split at h
  · cases h
  split at h
  · exact bounded_of_ok h trivial
  · exact bounded_floatBinary h

/-- **Operators** refuse to make a longer text, whatever their operands are. -/
theorem bounded_binary {op : Operator} {a b v : Value} (h : a.binary op b = .ok v) :
    v.IsBounded := by
  rw [Value.binary.eq_def] at h
  split at h
  · exact bounded_joinText h
  · exact bounded_repeatText h
  · exact bounded_repeatText h
  split at h
  · exact bounded_intBinary h
  · exact bounded_floatBinary h
  · cases h

theorem bounded_negate {a v : Value} (h : a.negate = .ok v) : v.IsBounded := by
  rw [Value.negate] at h
  split at h
  · rw [← Except.ok.inj h]
    split <;> trivial
  · exact bounded_of_ok h trivial
  · cases h

/-! ### Terms and bare text -/

section Bare

variable {vars : Bindings} {text : List Char} {v : Value}

theorem bounded_eval (hvars : vars.AreBounded) (htext : utf8Len text ≤ maxValueBytes) {t : Term}
    (ht : Term.ofText? text = some t) (h : t.eval vars = .ok v) : v.IsBounded := by
  cases t with
  | literal w =>
    obtain rfl : w = v := Except.ok.inj h
    cases w with
    | int | float | bool => trivial
    | str s => exact Nat.le_trans (Term.utf8ByteSize_of_literal ht) htext
  | name n =>
    rw [Term.eval] at h
    split at h
    · rename_i w hw
      exact hvars n v (Except.ok.inj h ▸ hw)
    · cases h
  | negate t =>
    obtain ⟨a, -, hv⟩ := exists_of_bind_eq_ok h
    exact bounded_negate hv
  | binary op l r =>
    obtain ⟨a, -, hr⟩ := exists_of_bind_eq_ok h
    obtain ⟨b, -, hv⟩ := exists_of_bind_eq_ok hr
    exact bounded_binary hv

theorem bounded_bareValue (hvars : vars.AreBounded) (htext : utf8Len text ≤ maxValueBytes)
    (h : bareValue vars text = .ok v) : v.IsBounded := by
  rw [bareValue] at h
  split at h
  · rename_i w hw
    exact hvars _ v (Except.ok.inj h ▸ hw)
  split at h
  · rename_i t ht
    exact bounded_eval hvars htext ht h
  · rw [← Except.ok.inj h, Value.IsBounded, String.utf8ByteSize_ofList]
    exact htext

end Bare

/-! ### Values as text -/

/-- A character has at most four bytes. -/
theorem utf8Len_le_length (text : List Char) : utf8Len text ≤ 4 * text.length := by
  induction text with
  | nil => exact Nat.le_refl 0
  | cons c text ih =>
    have hc := c.utf8Size_le_four
    rw [String.utf8Len_cons, List.length_cons]
    omega

theorem utf8ByteSize_le_length (s : String) : s.utf8ByteSize ≤ 4 * s.length := by
  rw [← String.utf8Len_toList, ← String.length_toList]
  exact utf8Len_le_length s.toList

theorem length_floatText_le (x : Float) : (floatText x).length ≤ 3213 := by
  have hplain := Decimal.length_plain_le x
  rw [floatText]
  split
  · decide
  split
  · rw [String.length_append]
    have hzero : ".0".length = 2 := by decide
    omega
  · omega

/-- A word has at most 64 digits, a digit for each of its bits. -/
theorem length_repr_le {n : Nat} (h : n ≤ 2 ^ 63) : n.repr.length ≤ 64 := by
  have hdigits := Decimal.length_toDigits_le
    (Nat.le_trans h (Decimal.two_pow_le_ten_pow (Nat.le_refl 63)))
  rwa [Nat.repr, String.length_ofList]

theorem length_text_int_le (i : Int64) : (Value.text (.int i)).length ≤ 65 := by
  have hmin := i.le_toInt
  have hmax := i.toInt_lt
  rw [Value.text, Int.toString_eq_repr]
  cases hi : i.toInt with
  | ofNat n =>
    have hn : n ≤ 2 ^ 63 := by
      rw [hi, Int.ofNat_eq_natCast] at hmax
      omega
    exact Nat.le_succ_of_le (length_repr_le hn)
  | negSucc n =>
    have hn : n.succ ≤ 2 ^ 63 := by omega
    have hlength := length_repr_le hn
    have hsign : "-".length = 1 := by decide
    rw [Int.repr, String.length_append]
    omega

/-- **A value as text** is within the limit if the value is. -/
theorem Value.utf8ByteSize_text_le {v : Value} (h : v.IsBounded) :
    v.text.utf8ByteSize ≤ maxValueBytes := by
  have hshort {s : String} (hs : s.length ≤ 3213) : s.utf8ByteSize ≤ maxValueBytes := by
    have hbytes := utf8ByteSize_le_length s
    have hlimit : 4 * 3213 ≤ maxValueBytes := by decide
    omega
  cases v with
  | int i => exact hshort (Nat.le_trans (length_text_int_le i) (by decide))
  | float x => exact hshort (length_floatText_le x)
  | str s => exact h
  | bool b => cases b <;> decide

/-! ### Templates -/

/-- The piece is counted: a slot whose name has a text value. -/
def Piece.isCounted (vars : Bindings) : Piece → Bool
  | text _ => false
  | slot name =>
    match vars.get? (String.ofList (Text.trim name)) with
    | some (.str _) => true
    | _ => false

section Template

variable {vars : Bindings} {out s : String}

/-- A counted piece stays within the limit. -/
theorem utf8ByteSize_append_le {piece : Piece} (hp : piece.isCounted vars = true)
    (h : piece.append vars out = .ok s) :
    out.utf8ByteSize ≤ maxValueBytes ∧ s.utf8ByteSize ≤ maxValueBytes := by
  cases piece with
  | text chars => cases hp
  | slot name =>
    rw [Piece.isCounted] at hp
    split at hp
    · rename_i t ht
      rw [Piece.append, ht] at h
      obtain ⟨u, hsize, rfl⟩ := exists_of_map_eq_ok h
      have hle := le_of_checkSize hsize
      rw [String.utf8ByteSize_append]
      omega
    · cases hp

/-- No piece makes the text shorter. -/
theorem le_utf8ByteSize_append {piece : Piece} (h : piece.append vars out = .ok s) :
    out.utf8ByteSize ≤ s.utf8ByteSize := by
  rw [Piece.append.eq_def] at h
  split at h
  · rw [← Except.ok.inj h, String.utf8ByteSize_append]
    omega
  split at h
  · obtain ⟨u, -, rfl⟩ := exists_of_map_eq_ok h
    rw [String.utf8ByteSize_append]
    omega
  · rw [← Except.ok.inj h, String.utf8ByteSize_append]
    omega
  · rw [← Except.ok.inj h, String.utf8ByteSize_append]
    omega

/-- Behind a text beyond the limit no piece is counted. -/
theorem isCounted_of_lt {ps : List Piece} (hout : maxValueBytes < out.utf8ByteSize)
    (h : ps.foldlM (Piece.append vars) out = .ok s) :
    ∀ piece ∈ ps, piece.isCounted vars = false := by
  induction ps generalizing out with
  | nil => simp
  | cons piece ps ih =>
    rw [List.foldlM_cons] at h
    obtain ⟨next, hnext, hrest⟩ := exists_of_bind_eq_ok h
    have hpiece : piece.isCounted vars = false := by
      rw [← Bool.not_eq_true]
      intro hcounted
      have := (utf8ByteSize_append_le hcounted hnext).1
      omega
    have hle := le_utf8ByteSize_append hnext
    exact List.forall_mem_cons.mpr ⟨hpiece, ih (by omega) hrest⟩

/-- **Where a template goes beyond the limit**: behind its last counted piece. -/
theorem foldlM_append_split {ps : List Piece} (hout : out.utf8ByteSize ≤ maxValueBytes)
    (h : ps.foldlM (Piece.append vars) out = .ok s) (hs : maxValueBytes < s.utf8ByteSize) :
    ∃ within beyond mid, ps = within ++ beyond ∧
      (∀ piece ∈ beyond, piece.isCounted vars = false) ∧
      within.foldlM (Piece.append vars) out = .ok mid ∧ mid.utf8ByteSize ≤ maxValueBytes ∧
      beyond.foldlM (Piece.append vars) mid = .ok s := by
  induction ps generalizing out with
  | nil =>
    obtain rfl : out = s := Except.ok.inj h
    omega
  | cons piece ps ih =>
    rw [List.foldlM_cons] at h
    obtain ⟨next, hnext, hrest⟩ := exists_of_bind_eq_ok h
    by_cases hle : next.utf8ByteSize ≤ maxValueBytes
    · obtain ⟨within, beyond, mid, rfl, hbeyond, hmid, hmidle, hs⟩ := ih hle hrest
      refine ⟨piece :: within, beyond, mid, rfl, hbeyond, ?_, hmidle, hs⟩
      rw [List.foldlM_cons, hnext]
      exact hmid
    · -- The piece itself goes beyond the limit, so it is not counted, and nothing behind it is.
      have hpiece : piece.isCounted vars = false := by
        rw [← Bool.not_eq_true]
        intro hcounted
        exact hle (utf8ByteSize_append_le hcounted hnext).2
      have hbehind := isCounted_of_lt (Nat.lt_of_not_le hle) hrest
      refine ⟨[], piece :: ps, out, rfl, List.forall_mem_cons.mpr ⟨hpiece, hbehind⟩, rfl, hout, ?_⟩
      rw [List.foldlM_cons, hnext]
      exact hrest

end Template

/-! ### Expressions -/

/-- The expression has a part that goes beyond the limit and is not counted. -/
inductive Outgrows (vars : Bindings) : List Char → Prop
  /-- What stands behind the last counted piece of a template. -/
  | template {text chars within beyond mid s} :
      Form.ofText (Text.trim text) = .template chars → pieces chars = within ++ beyond →
      (∀ piece ∈ beyond, piece.isCounted vars = false) →
      within.foldlM (Piece.append vars) "" = .ok mid → mid.utf8ByteSize ≤ maxValueBytes →
      beyond.foldlM (Piece.append vars) mid = .ok s → maxValueBytes < s.utf8ByteSize →
      Outgrows vars text
  /-- What a case method makes of a text within the limit. -/
  | letters {text m receiver s t} :
      Form.ofText (Text.trim text) = .method m receiver → m ≠ .reverse →
      evaluate vars receiver = .ok (.str s) → s.utf8ByteSize ≤ maxValueBytes →
      m.apply (.str s) = .ok (.str t) → maxValueBytes < t.utf8ByteSize → Outgrows vars text
  /-- A part of the receiver of a method, if the method leaves it beyond the limit. -/
  | receiver {text m receiver s t} : Form.ofText (Text.trim text) = .method m receiver →
      Outgrows vars receiver → evaluate vars receiver = .ok (.str s) →
      m.apply (.str s) = .ok (.str t) → maxValueBytes < t.utf8ByteSize → Outgrows vars text
  /-- A part of what is turned into text. -/
  | argument {text argument} : Form.ofText (Text.trim text) = .call .str argument →
      Outgrows vars argument → Outgrows vars text

theorem bounded_read {kind : NumberKind} {text : List Char} {v : Value}
    (h : kind.read text = .ok v) : v.IsBounded := by
  cases kind with
  | int =>
    rw [NumberKind.read, readInt] at h
    split at h
    · exact bounded_of_ok h trivial
    · cases h
  | float =>
    rw [NumberKind.read, readFloat] at h
    dsimp only at h
    split at h
    · exact bounded_of_ok h trivial
    · exact bounded_of_ok h trivial
    · cases h

/-- A function other than `str` makes no text. -/
theorem bounded_call {f : Builtin} {v w : Value} (hv : f = .str → v.IsBounded)
    (h : f.apply v = .ok w) : w.IsBounded := by
  rw [Builtin.apply.eq_def] at h
  split at h
  · exact bounded_of_ok h (Value.utf8ByteSize_text_le (hv rfl))
  · exact bounded_of_ok h trivial
  · exact bounded_of_ok h trivial
  · split at h
    · exact bounded_of_ok h trivial
    · cases h
  · exact @bounded_read .int _ _ h
  · exact bounded_of_ok h trivial
  · cases h

/-- Of the methods, only those that write other letters can go beyond the limit on their own. -/
theorem bounded_or_outgrows_method {vars : Bindings} {text receiver : List Char} {m : Method}
    (hform : Form.ofText (Text.trim text) = .method m receiver) {a v : Value}
    (ha : evaluate vars receiver = .ok a) (hreceiver : a.IsBounded ∨ Outgrows vars receiver)
    (hv : m.apply a = .ok v) : v.IsBounded ∨ Outgrows vars text := by
  cases v with
  | int | float | bool => exact .inl trivial
  | str t =>
    by_cases hle : t.utf8ByteSize ≤ maxValueBytes
    · exact .inl hle
    cases a with
    | int | float | bool => cases m <;> cases hv
    | str s =>
      rcases hreceiver with hbounded | hgrows
      · refine .inr (.letters hform ?_ ha hbounded hv (Nat.lt_of_not_le hle))
        rintro rfl
        obtain rfl : String.ofList s.toList.reverse = t := by
          injection Except.ok.inj hv
        rw [String.utf8ByteSize_ofList, utf8Len_reverse, String.utf8Len_toList] at hle
        exact hle hbounded
      · exact .inr (.receiver hform hgrows ha hv (Nat.lt_of_not_le hle))

/-- A text value beyond the limit has outgrown it uncounted. -/
theorem bounded_or_outgrows {vars : Bindings} (hvars : vars.AreBounded) {text : List Char}
    (htext : utf8Len text ≤ maxValueBytes) {v : Value} (h : evaluate vars text = .ok v) :
    v.IsBounded ∨ Outgrows vars text := by
  fun_induction evaluate vars text generalizing v with
  | case1 text w hform =>
    obtain rfl : w = v := Except.ok.inj h
    have hparts := Form.within_of_trim hform
    cases w with
    | int | float | bool => exact .inl trivial
    | str s => exact .inl (Nat.le_trans hparts htext)
  | case2 text chars hform =>
    obtain ⟨s, hs, rfl⟩ := exists_of_map_eq_ok h
    by_cases hle : s.utf8ByteSize ≤ maxValueBytes
    · exact .inl hle
    · have hlt := Nat.lt_of_not_le hle
      obtain ⟨within, beyond, mid, hpieces, hbeyond, hmid, hmidle, hs⟩ :=
        foldlM_append_split (Nat.zero_le _) hs hlt
      exact .inr (.template hform hpieces hbeyond hmid hmidle hs hlt)
  | case3 text m receiver hform _ ih =>
    obtain ⟨a, ha, hv⟩ := exists_of_bind_eq_ok h
    have hreceiver : utf8Len receiver ≤ utf8Len text := Form.within_of_trim hform
    exact bounded_or_outgrows_method hform ha (ih (Nat.le_trans hreceiver htext) ha) hv
  | case4 text f argument hform _ ih =>
    obtain ⟨a, ha, hv⟩ := exists_of_bind_eq_ok h
    have hargument : utf8Len argument ≤ utf8Len text := Form.within_of_trim hform
    rcases ih (Nat.le_trans hargument htext) ha with hbounded | hgrows
    · exact .inl (bounded_call (fun _ => hbounded) hv)
    · by_cases hf : f = .str
      · subst hf
        exact .inr (.argument hform hgrows)
      · exact .inl (bounded_call (fun hstr => absurd hstr hf) hv)
  | case5 text hform =>
    exact .inl (bounded_bareValue hvars (Nat.le_trans (utf8Len_trim_le text) htext) h)

/-- What has outgrown the limit is a text value beyond it. -/
theorem Outgrows.exists_value {vars : Bindings} {text : List Char} (h : Outgrows vars text) :
    ∃ s, evaluate vars text = .ok (.str s) ∧ maxValueBytes < s.utf8ByteSize := by
  induction h with
  | @template text chars within beyond mid s hform hpieces _ hmid _ hs hlt =>
    have hinterpolate : interpolate vars chars = .ok s := by
      rw [interpolate, hpieces, List.foldlM_append, hmid]
      exact hs
    refine ⟨s, ?_, hlt⟩
    rw [evaluate_of_template hform, hinterpolate, Except.map]
  | @letters text m receiver s t hform _ hs _ ht hlt =>
    refine ⟨t, ?_, hlt⟩
    rw [evaluate_of_method hform, hs, Except.bind, ht]
  | @receiver text m receiver s t hform _ hs ht hlt _ =>
    refine ⟨t, ?_, hlt⟩
    rw [evaluate_of_method hform, hs, Except.bind, ht]
  | @argument text argument hform _ ih =>
    obtain ⟨s, hs, hlt⟩ := ih
    refine ⟨s, ?_, hlt⟩
    rw [evaluate_of_call hform, hs, Except.bind, Builtin.apply, Value.text]

/-- **Expressions**: a text value is beyond the limit exactly if it has outgrown it uncounted. -/
theorem outgrows_iff {vars : Bindings} (hvars : vars.AreBounded) {text : List Char}
    (htext : utf8Len text ≤ maxValueBytes) :
    Outgrows vars text ↔ ∃ v, evaluate vars text = .ok v ∧ ¬ v.IsBounded := by
  constructor
  · intro h
    obtain ⟨s, hs, hlt⟩ := h.exists_value
    exact ⟨.str s, hs, Nat.not_le_of_lt hlt⟩
  · rintro ⟨v, hv, hunbounded⟩
    exact (bounded_or_outgrows hvars htext hv).resolve_left hunbounded

end Autograder.Guest
