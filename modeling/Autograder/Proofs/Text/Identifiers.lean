import Autograder.Proofs.Text.Lines
import Autograder.Service.Route
import Autograder.Uuid
import Mathlib.Data.List.TakeWhile

/-!
# Identifiers and their text

The written form of an identifier is one of the forms that are read, and it is read as the
identifier. Reading gathers the digits from the most significant one on, so after some of them it
has gathered the identifier without its lower digits; that is what the induction goes over.

In a path the written form stands as it is. It holds no character that ends a path or a segment of
one, and nothing in it is escaped.

## Main results

* `Uuid.ofText?_text` — identifiers, read back
* `Route.ofTarget?_submission`, `Route.decode?_submission` — identifiers in a path
-/

namespace Autograder

namespace Text

theorem hexValue?_hexDigit {n : Nat} (h : n < 16) : hexValue? (hexDigit n) = some n := by
  revert n
  decide

/-- A digit is neither of the characters that the other forms of an identifier start with. -/
theorem hexDigit_ne_opening {n : Nat} (h : n < 16) : hexDigit n ≠ '{' ∧ hexDigit n ≠ 'u' := by
  revert n
  decide

/-- The character is none of those that have a meaning in a path. -/
def IsPlain (c : Char) : Prop :=
  c ∉ ['?', '#', '/', '%']

instance (c : Char) : Decidable (IsPlain c) :=
  inferInstanceAs (Decidable (_ ∉ _))

theorem isPlain_hexDigit {n : Nat} (h : n < 16) : IsPlain (hexDigit n) := by
  revert n
  decide

theorem percentBytes_of_unescaped {text : List Char} (h : '%' ∉ text) :
    percentBytes text = text.flatMap String.utf8EncodeChar := by
  induction text with
  | nil => rfl
  | cons c text ih =>
    have hc : c ≠ '%' := fun hc => h (hc ▸ List.mem_cons_self)
    rw [percentBytes, ih fun hmem => h (List.mem_cons_of_mem _ hmem), List.flatMap_cons]
    rintro a b rest rfl
    exact absurd rfl hc

/-- A text without escapes stands for itself. -/
theorem percentDecode?_of_unescaped {text : List Char} (h : '%' ∉ text) :
    percentDecode? text = some (String.ofList text) := by
  rw [percentDecode?, percentBytes_of_unescaped h]
  exact dif_pos (String.ofList text).isValidUTF8

end Text

namespace Uuid

theorem length_digits (id : Uuid) : id.digits.length = 32 := by
  simp [digits]

theorem length_hyphenate {digits : List Char} (h : digits.length = 32) :
    (hyphenate digits).length = 36 := by
  simp [hyphenate, h]

/-- Digits fall into groups without rest. -/
theorem append_groups (digits : List Char) :
    digits.take 8 ++ ((digits.drop 8).take 4 ++ ((digits.drop 12).take 4 ++
      ((digits.drop 16).take 4 ++ digits.drop 20))) = digits := by
  have hgroup : ∀ m n, (digits.drop m).take n ++ digits.drop (m + n) = digits.drop m := by
    intro m n
    rw [← List.drop_drop, List.take_append_drop]
  rw [hgroup 16 4, hgroup 12 4, hgroup 8 4, List.take_append_drop]

/-- The hyphens between groups can be taken out again. -/
theorem unhyphenate?_hyphenate {digits : List Char} (h : digits.length = 32) :
    unhyphenate? (hyphenate digits) = some digits := by
  have hread : (hyphenate digits).take 8 ++ ((hyphenate digits).drop 9).take 4 ++
      ((hyphenate digits).drop 14).take 4 ++ ((hyphenate digits).drop 19).take 4 ++
      (hyphenate digits).drop 24 = digits := by
    refine Eq.trans ?_ (append_groups digits)
    simp [hyphenate, h, List.drop_append, List.drop_eq_nil_of_le]
  rw [unhyphenate?, hread]
  exact if_pos rfl

/-- After some of its digits an identifier has been gathered but for its lower digits. -/
theorem foldlM_digits (bits : BitVec 128) {k : Nat} (hk : k ≤ 32) :
    ((List.range k).map fun i => Text.hexDigit ((bits.toNat >>> (4 * (31 - i))) % 16)).foldlM
      (fun m c => (Text.hexValue? c).map (16 * m + ·)) 0 =
        some (bits.toNat >>> (4 * (32 - k))) := by
  induction k with
  | zero =>
    have hzero : bits.toNat >>> 128 = 0 := by
      rw [Nat.shiftRight_eq_div_pow, Nat.div_eq_of_lt bits.isLt]
    exact congrArg some hzero.symm
  | succ k ih =>
    have hshift : bits.toNat >>> (4 * (32 - k)) = bits.toNat >>> (4 * (31 - k)) / 16 := by
      rw [show 4 * (32 - k) = 4 * (31 - k) + 4 by omega, Nat.shiftRight_add,
        Nat.shiftRight_eq_div_pow _ 4]
    rw [List.range_succ, List.map_append, List.foldlM_append, ih (Nat.le_of_succ_le hk), hshift]
    simp only [List.map_cons, List.map_nil, List.foldlM_cons, List.foldlM_nil]
    rw [Text.hexValue?_hexDigit (Nat.mod_lt _ (by decide))]
    rw [show 32 - (k + 1) = 31 - k by omega]
    exact congrArg some (Nat.div_add_mod _ 16)

theorem ofDigits?_digits (id : Uuid) : ofDigits? id.digits = some id := by
  have hdigits := foldlM_digits id.bits (Nat.le_refl 32)
  rw [ofDigits?, if_pos id.length_digits, digits, hdigits]
  simp

/-- **The written form of an identifier is read as the identifier.** It is the form with hyphens,
since it has 36 characters and starts with a digit. -/
theorem ofText?_text (id : Uuid) : ofText? id.text = some id := by
  have hlength : id.text.length = 36 := length_hyphenate id.length_digits
  obtain ⟨c, rest, htext, hbrace, hletter⟩ :
      ∃ c rest, id.text = c :: rest ∧ c ≠ '{' ∧ c ≠ 'u' :=
    ⟨_, _, rfl, Text.hexDigit_ne_opening (Nat.mod_lt _ (by decide))⟩
  have hread : (unhyphenate? id.text).bind ofDigits? = some id := by
    rw [text, unhyphenate?_hyphenate id.length_digits, Option.bind_some, ofDigits?_digits]
  rw [ofText?, if_neg (by rw [hlength]; decide)]
  · exact hread
  · simp [htext, hbrace]
  · simp [htext, hletter]

theorem isPlain_of_mem_text {id : Uuid} {c : Char} (hc : c ∈ id.text) : Text.IsPlain c := by
  have hchar : c ∈ id.digits ∨ c = '-' := by
    simp only [text, hyphenate, List.mem_append, List.mem_cons] at hc
    rcases hc with h | h | h | h | h | h | h | h | h
    · exact .inl (List.mem_of_mem_take h)
    · exact .inr h
    · exact .inl (List.mem_of_mem_drop (List.mem_of_mem_take h))
    · exact .inr h
    · exact .inl (List.mem_of_mem_drop (List.mem_of_mem_take h))
    · exact .inr h
    · exact .inl (List.mem_of_mem_drop (List.mem_of_mem_take h))
    · exact .inr h
    · exact .inl (List.mem_of_mem_drop h)
  rcases hchar with hdigit | rfl
  · obtain ⟨i, _, rfl⟩ := List.mem_map.mp hdigit
    exact Text.isPlain_hexDigit (Nat.mod_lt _ (by decide))
  · decide

end Uuid

/-! ### In a path -/

namespace Route

/-- The path of a submission is its identifier behind `submissions`. -/
theorem ofTarget?_submission (id : Uuid) :
    ofTarget? ("/submissions/" ++ String.ofList id.text) =
      some (.submission (String.ofList id.text)) := by
  have hplain : ∀ c ∈ id.text, Text.IsPlain c := fun c => Uuid.isPlain_of_mem_text
  have hstart : ("/submissions/".toList.all fun c => c != '?' && c != '#') = true := by decide
  have hname : ∀ c ∈ "submissions".toList, (c == '/') = false := by simp
  have hpath : (("/submissions/" ++ String.ofList id.text).toList.takeWhile
      fun c => c != '?' && c != '#') = '/' :: ("submissions".toList ++ '/' :: id.text) := by
    rw [String.toList_append, String.toList_ofList (l := id.text), List.takeWhile_eq_self_iff.mpr]
    · rfl
    · intro c hc
      rcases List.mem_append.mp hc with hmem | hid
      · exact List.all_eq_true.mp hstart c hmem
      · have hc := hplain c hid
        simp_all [Text.IsPlain]
  have huncut : ∀ c ∈ id.text, (c == '/') = false := by
    intro c hc
    have := hplain c hc
    simp_all [Text.IsPlain]
  have hsome : (String.ofList id.text).isEmpty = false := by
    simp [← Bool.not_eq_true, Uuid.text, Uuid.hyphenate]
  rw [ofTarget?, hpath]
  change ofSegments? ((Text.segments _ ("submissions".toList ++ '/' :: id.text)).map _) = _
  rw [Text.segments_append_cut hname (by decide), Text.segments_of_uncut huncut]
  simp [ofSegments?, hsome]

/-- An identifier in a path has no escapes. -/
theorem decode?_submission (id : Uuid) :
    decode? (.submission (String.ofList id.text)) = some (.submission (String.ofList id.text)) := by
  have hplain : '%' ∉ id.text := fun h => by
    have := Uuid.isPlain_of_mem_text h
    exact absurd this (by decide)
  rw [decode?, String.toList_ofList, Text.percentDecode?_of_unescaped hplain]
  rfl

end Route

end Autograder
