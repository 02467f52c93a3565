import Autograder.Proofs.Expression.Size

/-!
# Joining and repeating texts

How long a text would become is found out before it is made, and here that size is computed in
words, as a machine does it: a sum and a product of words have an overflow flag, a count is turned
from a signed word into an unsigned one, and a negative count into none at all. For texts that a
memory of 64 bits can hold, the words decide exactly as the integers do. A product beyond 2^64 is
refused because of its flag, and one that is not flagged is the size.

What is made is the concatenation, or as many copies in a row as the count says. So repeating
distributes over a sum of counts.

## Main definitions

* `checkedSum?`, `checkedProduct?`, `countWord` — operations on words
* `joinSteps`, `repeatSteps` — joining and repeating, with sizes in words
* `copies` — a text several times in a row

## Main results

* `joinSteps_eq`, `repeatSteps_eq` — no size wraps around
* `binary_add_text`, `binary_mul_text` — what is made, and when
* `repeatText_add` — repeating distributes over a sum of counts
* `binary_text_exact` — joining and repeating are exact up to the limit
-/

namespace Autograder.Guest

/-! ### Sizes in words -/

/-- The sum of two words, unless its overflow flag is set. -/
def checkedSum? (x y : UInt64) : Option UInt64 :=
  if x.toBitVec.uaddOverflow y.toBitVec then none else some (x + y)

/-- The product of two words, unless its overflow flag is set. -/
def checkedProduct? (x y : UInt64) : Option UInt64 :=
  if x.toBitVec.umulOverflow y.toBitVec then none else some (x * y)

/-- A count as an unsigned word: its own bits, or nothing if it is negative. -/
def countWord (n : Int64) : UInt64 :=
  if n < 0 then 0 else n.toUInt64

/-- Refuses a size beyond the limit, and one that no word holds. -/
def checkWord : Option UInt64 → Except Fault Unit
  | some size => if size ≤ UInt64.ofNat maxValueBytes then .ok () else .error .valueTooLong
  | none => .error .valueTooLong

/-- The size of a text as a word. -/
def byteWord (s : String) : UInt64 :=
  UInt64.ofNat s.utf8ByteSize

/-- Two texts in a row, their size computed in words. -/
def joinSteps (s t : String) : Except Fault Value := do
  checkWord (checkedSum? (byteWord s) (byteWord t))
  return .str (s ++ t)

/-- A text several times in a row, its size computed in words. -/
def repeatSteps (s : String) (n : Int64) : Except Fault Value := do
  checkWord (checkedProduct? (byteWord s) (countWord n))
  return .str (replicateText s (countWord n).toNat)

/-- The limit is a word. -/
theorem toNat_limitWord : (UInt64.ofNat maxValueBytes).toNat = maxValueBytes := by
  decide

theorem maxValueBytes_lt : maxValueBytes < 2 ^ 64 := by
  decide

theorem toNat_countWord (n : Int64) : (countWord n).toNat = n.toInt.toNat := by
  have hzero : (0 : Int64).toInt = 0 := rfl
  rw [countWord]
  split
  · rename_i hneg
    rw [Int64.lt_iff_toInt_lt, hzero] at hneg
    rw [Int.toNat_of_nonpos (Int.le_of_lt hneg)]
    rfl
  · rename_i hnonneg
    exact Int64.toNat_toUInt64_of_le (Int64.not_lt.mp hnonneg)

theorem checkWord_some (x : UInt64) : checkWord (some x) = checkSize x.toNat := by
  rw [checkWord, checkSize]
  simp only [UInt64.le_iff_toNat_le, toNat_limitWord]

/-- What no word holds is beyond the limit. -/
theorem checkSize_of_overflow {bytes : Nat} (h : 2 ^ 64 ≤ bytes) :
    checkSize bytes = .error .valueTooLong := by
  have hlimit := maxValueBytes_lt
  rw [checkSize, if_neg (by omega)]

/-- **The size of a sum** is decided as over the integers. -/
theorem checkWord_sum (x y : UInt64) :
    checkWord (checkedSum? x y) = checkSize (x.toNat + y.toNat) := by
  rw [checkedSum?]
  split
  · rename_i hflag
    rw [BitVec.uaddOverflow, decide_eq_true_eq] at hflag
    exact (checkSize_of_overflow hflag).symm
  · rename_i hflag
    have hsum : (x + y).toNat = x.toNat + y.toNat := BitVec.toNat_add_of_not_uaddOverflow hflag
    rw [checkWord_some, hsum]

/-- **The size of a product** is decided as over the integers. -/
theorem checkWord_product (x y : UInt64) :
    checkWord (checkedProduct? x y) = checkSize (x.toNat * y.toNat) := by
  rw [checkedProduct?]
  split
  · rename_i hflag
    rw [BitVec.umulOverflow, decide_eq_true_eq] at hflag
    exact (checkSize_of_overflow hflag).symm
  · rename_i hflag
    have hproduct : (x * y).toNat = x.toNat * y.toNat :=
      BitVec.toNat_mul_of_not_umulOverflow hflag
    rw [checkWord_some, hproduct]

section Memory

variable {s t : String} (hs : s.utf8ByteSize < 2 ^ 64)

include hs

theorem toNat_byteWord : (byteWord s).toNat = s.utf8ByteSize :=
  UInt64.toNat_ofNat_of_lt' hs

/-- **Joining** in words is joining. -/
theorem joinSteps_eq (ht : t.utf8ByteSize < 2 ^ 64) : joinSteps s t = joinText s t := by
  rw [joinSteps, joinText, checkWord_sum, toNat_byteWord hs, toNat_byteWord ht]

/-- **Repeating** in words is repeating. -/
theorem repeatSteps_eq (n : Int64) : repeatSteps s n = repeatText s n := by
  rw [repeatSteps, repeatText, checkWord_product, toNat_byteWord hs, toNat_countWord]

end Memory

/-! ### What is made -/

/-- A text several times in a row. -/
def copies (count : Nat) (s : String) : String :=
  String.join (List.replicate count s)

theorem copies_succ (count : Nat) (s : String) : copies (count + 1) s = copies count s ++ s := by
  rw [copies, List.replicate_succ', String.join_append, String.join_cons, String.join_nil,
    String.append_empty, copies]

theorem copies_add (i j : Nat) (s : String) : copies (i + j) s = copies i s ++ copies j s := by
  rw [copies, List.replicate_add, String.join_append, copies, copies]

theorem copies_empty (count : Nat) : copies count "" = "" := by
  induction count with
  | zero => rfl
  | succ count ih => rw [copies_succ, ih, String.append_empty]

/-- The empty text, which is not copied at all, is all its copies. -/
theorem replicateText_eq_copies (s : String) (count : Nat) :
    replicateText s count = copies count s := by
  rw [replicateText]
  split
  · rename_i hempty
    rw [String.isEmpty_iff.mp hempty, copies_empty]
  · induction count with
    | zero => rfl
    | succ count ih => rw [Nat.repeat, ih, copies_succ]

theorem utf8ByteSize_copies (count : Nat) (s : String) :
    (copies count s).utf8ByteSize = s.utf8ByteSize * count := by
  rw [← replicateText_eq_copies, utf8ByteSize_replicateText]

theorem joinText_eq (s t : String) :
    joinText s t = if s.utf8ByteSize + t.utf8ByteSize ≤ maxValueBytes then .ok (.str (s ++ t))
      else .error .valueTooLong := by
  rw [joinText, checkSize]
  split <;> rfl

theorem repeatText_eq (s : String) (n : Int64) :
    repeatText s n = if s.utf8ByteSize * n.toInt.toNat ≤ maxValueBytes
      then .ok (.str (copies n.toInt.toNat s)) else .error .valueTooLong := by
  rw [repeatText, checkSize, replicateText_eq_copies]
  split <;> rfl

/-- The first of two parts, then the second, then both in a row: each is refused with the whole. -/
theorem repeatText_add (s : String) {i j k : Int64} (hi : 0 ≤ i.toInt) (hj : 0 ≤ j.toInt)
    (hk : k.toInt = i.toInt + j.toInt) :
    repeatText s k = (do
      let first ← repeatText s i
      let second ← repeatText s j
      first.binary .add second) := by
  have hcount : k.toInt.toNat = i.toInt.toNat + j.toInt.toNat := by
    rw [hk, Int.toNat_add hi hj]
  have hjoined := joinText_eq (copies i.toInt.toNat s) (copies j.toInt.toNat s)
  rw [utf8ByteSize_copies, utf8ByteSize_copies, ← Nat.mul_add, ← copies_add, ← hcount,
    ← repeatText_eq] at hjoined
  have hsize : s.utf8ByteSize * k.toInt.toNat =
      s.utf8ByteSize * i.toInt.toNat + s.utf8ByteSize * j.toInt.toNat := by
    rw [hcount, Nat.mul_add]
  by_cases hfirst : s.utf8ByteSize * i.toInt.toNat ≤ maxValueBytes
  · by_cases hsecond : s.utf8ByteSize * j.toInt.toNat ≤ maxValueBytes
    · rw [repeatText_eq s i, if_pos hfirst, repeatText_eq s j, if_pos hsecond]
      exact hjoined.symm
    · rw [repeatText_eq s k, if_neg (by omega), repeatText_eq s i, if_pos hfirst,
        repeatText_eq s j, if_neg hsecond]
      rfl
  · rw [repeatText_eq s k, if_neg (by omega), repeatText_eq s i, if_neg hfirst]
    rfl

/-- The sum of two words that is a word. -/
theorem binary_add_words {i j : Int64} (hlow : -2 ^ 63 ≤ i.toInt + j.toInt)
    (hhigh : i.toInt + j.toInt < 2 ^ 63) :
    ∃ k : Int64, k.toInt = i.toInt + j.toInt ∧
      (Value.int i).binary .add (.int j) = .ok (.int k) := by
  obtain ⟨k, hk⟩ := exists_word?_eq_some hlow hhigh
  refine ⟨k, word?_eq_some_iff.mp hk, ?_⟩
  change intBinary .add i j = _
  rw [intBinary, if_neg (by simp [Operator.divides]), wordResult?, hk]

/-- **Joining and repeating are exact up to the limit.** What is too long is refused, and how long
it would be is a number, whatever words it is computed in. The operands of a repetition can change
places, and repeating distributes over a sum of counts. -/
theorem binary_text_exact (s t : String) (n : Int64) :
    ((Value.str s).binary .add (.str t) =
      if s.utf8ByteSize + t.utf8ByteSize ≤ maxValueBytes then .ok (.str (s ++ t))
      else .error .valueTooLong) ∧
    ((Value.str s).binary .mul (.int n) =
      if (s.utf8ByteSize : Int) * max n.toInt 0 ≤ maxValueBytes
      then .ok (.str (copies n.toInt.toNat s)) else .error .valueTooLong) ∧
    (Value.int n).binary .mul (.str s) = (Value.str s).binary .mul (.int n) ∧
    (s.utf8ByteSize < 2 ^ 64 → t.utf8ByteSize < 2 ^ 64 →
      joinSteps s t = (Value.str s).binary .add (.str t) ∧
      repeatSteps s n = (Value.str s).binary .mul (.int n)) ∧
    ∀ i j : Int64, 0 ≤ i.toInt → 0 ≤ j.toInt → i.toInt + j.toInt < 2 ^ 63 →
      (do
        let count ← (Value.int i).binary .add (.int j)
        (Value.str s).binary .mul count) =
      (do
        let first ← (Value.str s).binary .mul (.int i)
        let second ← (Value.str s).binary .mul (.int j)
        first.binary .add second) := by
  refine ⟨joinText_eq s t, ?_, rfl, fun hs ht => ⟨joinSteps_eq hs ht, repeatSteps_eq hs n⟩, ?_⟩
  · have hsize : (s.utf8ByteSize : Int) * max n.toInt 0 ≤ maxValueBytes ↔
        s.utf8ByteSize * n.toInt.toNat ≤ maxValueBytes := by
      rw [← Int.toNat_eq_max]
      exact_mod_cast Iff.rfl
    simp only [hsize]
    exact repeatText_eq s n
  · intro i j hi hj hsum
    obtain ⟨k, hk, hcount⟩ := binary_add_words (by omega) hsum
    rw [hcount]
    exact repeatText_add s hi hj hk

/-- A negative count, for which nothing is left of a text; and two and three copies. -/
theorem binary_text_exact_abc :
    ("abc".utf8ByteSize < 2 ^ 64 ∧ (0 : Int) ≤ (2 : Int64).toInt ∧ (0 : Int) ≤ (3 : Int64).toInt ∧
      (2 : Int64).toInt + (3 : Int64).toInt < 2 ^ 63) ∧
    repeatSteps "abc" (-7) = (Value.str "abc").binary .mul (.int (-7)) ∧
    (do
      let count ← (Value.int 2).binary .add (.int 3)
      (Value.str "abc").binary .mul count) =
    (do
      let first ← (Value.str "abc").binary .mul (.int 2)
      let second ← (Value.str "abc").binary .mul (.int 3)
      first.binary .add second) :=
  have hexact := binary_text_exact "abc" "abc" (-7)
  have hbytes : "abc".utf8ByteSize < 2 ^ 64 := by decide
  ⟨by decide, (hexact.2.2.2.1 hbytes hbytes).2,
    hexact.2.2.2.2 2 3 (by decide) (by decide) (by decide)⟩

end Autograder.Guest
