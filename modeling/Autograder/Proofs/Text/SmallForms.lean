import Autograder.Proofs.Text.Classes
import Autograder.Proofs.Text.Sigma
import Autograder.Proofs.Text.Trim

/-!
# Texts in small letters

A text in small letters is its own small form, and the case of the ASCII letters of a text makes no
difference for its small form. The first is a fact about the tables: nothing that a run or a
sequence gives has another small form again, so it is enough that no image of a run meets a run.
The second holds of every question that is asked about one character at a time, so it is said once
for all of them: only the 26 capitals of ASCII have to be asked.

## Main definitions

* `Text.Recased` — two texts that differ in the case of ASCII letters only

## Main results

* `Text.lower_lower` — a small form is its own small form
* `Text.trimmed_lower` — the small form of a trimmed text is trimmed
* `Text.Recased.lower_eq` — the case of ASCII letters is not seen in a small form
-/

namespace Autograder.Text

/-! ### The case of ASCII letters -/

/-- The texts differ in the case of ASCII letters only. -/
def Recased (text other : List Char) : Prop :=
  text.map Char.toLower = other.map Char.toLower

instance (text other : List Char) : Decidable (Recased text other) :=
  inferInstanceAs (Decidable (_ = _))

theorem toLower_eq_self_or (c : Char) :
    c.toLower = c ∨ ∃ n < 26, c = Char.ofNat (0x41 + n) := by
  by_cases hc : c.val ≥ 'A'.val ∧ c.val ≤ 'Z'.val
  · have hge : 0x41 ≤ c.toNat := UInt32.le_iff_toNat_le.mp hc.1
    have hle : c.toNat ≤ 0x5A := UInt32.le_iff_toNat_le.mp hc.2
    refine .inr ⟨c.toNat - 0x41, by omega, ?_⟩
    rw [show 0x41 + (c.toNat - 0x41) = c.toNat by omega, Char.ofNat_toNat]
  · exact .inl (dif_neg hc)

/-- What the 26 capitals of ASCII have in common with their small letters, all characters have. -/
theorem map_toLower_of_capitals {α : Type} {f : Char → α}
    (h : ∀ n < 26, f (Char.ofNat (0x41 + n)).toLower = f (Char.ofNat (0x41 + n))) (c : Char) :
    f c.toLower = f c := by
  rcases toLower_eq_self_or c with hself | ⟨n, hn, rfl⟩
  · rw [hself]
  · exact h n hn

theorem isBlank_toLower (c : Char) : isBlank c.toLower = isBlank c :=
  map_toLower_of_capitals (by decide) c

theorem isCased_toLower (c : Char) : isCased c.toLower = isCased c :=
  map_toLower_of_capitals (by decide) c

/-- The table of the case-ignorable characters does not meet the letters of ASCII. -/
theorem isCaseIgnorable_of_isAlpha {c : Char} (h : c.isAlpha = true) :
    isCaseIgnorable c = false :=
  Spans.has_eq_false_of_disjoint (by decide +kernel) (asciiWordSpans_has_of_isAlpha h)

theorem isCaseIgnorable_toLower (c : Char) : isCaseIgnorable c.toLower = isCaseIgnorable c := by
  have hletters : ∀ n < 26, (Char.ofNat (0x41 + n)).isAlpha = true ∧
      (Char.ofNat (0x41 + n)).toLower.isAlpha = true := by
    decide
  refine map_toLower_of_capitals (fun n hn => ?_) c
  rw [isCaseIgnorable_of_isAlpha (hletters n hn).1, isCaseIgnorable_of_isAlpha (hletters n hn).2]

theorem casedAfter_toLower (cased : Bool) (c : Char) :
    casedAfter cased c.toLower = casedAfter cased c := by
  rw [casedAfter, casedAfter, isCaseIgnorable_toLower, isCased_toLower]

theorem lowerBetween_toLower (c : Char) (before behind : Bool) :
    lowerBetween c.toLower before behind = lowerBetween c before behind := by
  refine map_toLower_of_capitals (f := (lowerBetween · before behind)) ?_ c
  cases before <;> cases behind <;> decide

theorem casedBehind_map_toLower (text : List Char) (behind : Bool) :
    casedBehind (text.map Char.toLower) behind = casedBehind text behind := by
  rw [casedBehind, casedBehind, List.foldr_map]
  simp only [casedAfter_toLower]

theorem lower_map_toLower (text : List Char) : lower (text.map Char.toLower) = lower text := by
  have hwithin (before : Bool) :
      lowerWithin before (text.map Char.toLower) false = lowerWithin before text false := by
    induction text generalizing before with
    | nil => rfl
    | cons c text ih =>
      rw [List.map_cons, lowerWithin, lowerWithin, lowerBetween_toLower, casedBehind_map_toLower,
        casedAfter_toLower, ih]
  rw [lower_eq_lowerWithin, lower_eq_lowerWithin, hwithin]

/-- **The case of ASCII letters** is not seen in a small form. -/
theorem Recased.lower_eq {text other : List Char} (h : Recased text other) :
    lower text = lower other := by
  rw [← lower_map_toLower text, h, lower_map_toLower]

theorem trim_map_toLower (text : List Char) :
    trim (text.map Char.toLower) = (trim text).map Char.toLower := by
  have hstart (text : List Char) :
      trimStart (text.map Char.toLower) = (trimStart text).map Char.toLower := by
    rw [trimStart, trimStart, List.dropWhile_map]
    exact congrArg (List.map _) (congrArg (List.dropWhile · text) (funext isBlank_toLower))
  have hend (text : List Char) :
      trimEnd (text.map Char.toLower) = (trimEnd text).map Char.toLower := by
    have hreverse := hstart text.reverse
    rw [trimStart, trimStart] at hreverse
    rw [trimEnd, trimEnd, ← List.map_reverse, hreverse, List.map_reverse]
  rw [trim, trim, hstart, hend]

theorem Recased.trim {text other : List Char} (h : Recased text other) :
    Recased (trim text) (Text.trim other) := by
  rw [Recased, ← trim_map_toLower, ← trim_map_toLower, h]

/-! ### Lines in other letters -/

theorem toLower_eq_iff (mark : Char)
    (h : ∀ n < 26, ((Char.ofNat (0x41 + n)).toLower == mark) = (Char.ofNat (0x41 + n) == mark))
    {c : Char} : c.toLower = mark ↔ c = mark := by
  rw [← beq_iff_eq, ← beq_iff_eq (a := c)]
  exact Bool.eq_iff_iff.mp (map_toLower_of_capitals (f := (· == mark)) h c)

theorem segments_map_toLower {cut : Char → Bool} (h : ∀ c, cut c.toLower = cut c)
    (text : List Char) :
    segments cut (text.map Char.toLower) = (segments cut text).map (List.map Char.toLower) := by
  induction text with
  | nil => rfl
  | cons c text ih =>
    rw [List.map_cons, segments_cons, segments_cons, ih]
    simp only [consSegment, h]
    split
    · rfl
    · cases segments cut text <;> rfl

theorem dropReturn_map_toLower (line : List Char) :
    dropReturn (line.map Char.toLower) = (dropReturn line).map Char.toLower := by
  have hreturn : (line.map Char.toLower).getLast? = some '\r' ↔ line.getLast? = some '\r' := by
    rw [List.getLast?_map, Option.map_eq_some_iff]
    simp only [toLower_eq_iff '\r' (by decide), exists_eq_right]
  simp only [dropReturn, hreturn]
  split
  · rw [List.map_dropLast]
  · rfl

/-- The lines are cut at the same places. -/
theorem lines_map_toLower (text : List Char) :
    lines (text.map Char.toLower) = (lines text).map (List.map Char.toLower) := by
  have hcut (c : Char) : (c.toLower == '\n') = (c == '\n') :=
    map_toLower_of_capitals (f := (· == '\n')) (by decide) c
  have hlast (parts : List (List Char)) :
      (parts.map (List.map Char.toLower)).getLast?.getD []
        = (parts.getLast?.getD []).map Char.toLower := by
    rw [List.getLast?_map]
    cases parts.getLast? <;> rfl
  simp only [lines]
  rw [segments_map_toLower hcut, hlast, List.isEmpty_map, ← List.map_dropLast, List.map_map,
    List.map_append, List.map_map]
  congr 1
  · exact List.map_congr_left fun line _ => dropReturn_map_toLower line
  · split <;> rfl

/-! ### Small forms of small forms -/

/-- A code point, unless it is none of a character. -/
theorem toNat_ofNat_or (n : Nat) : (Char.ofNat n).toNat = n ∨ Char.ofNat n = '\x00' := by
  by_cases h : n.isValidChar
  · exact .inl (congrArg Char.toNat (dif_pos h))
  · exact .inr (dif_neg h)

theorem CaseRun.image?_eq_some_iff {run : CaseRun} {n point : Nat} :
    run.image? n = some point ↔ (run.first ≤ n ∧ n ≤ run.last ∧
      (n - run.first) % run.stride = 0) ∧ ((n : Int) + run.offset).toNat = point := by
  simp [image?, and_assoc]

/-- The image of the first code point that a run covers. -/
def CaseRun.low (run : CaseRun) : Nat :=
  ((run.first : Int) + run.offset).toNat

/-- The image of the last code point that a run covers. -/
def CaseRun.high (run : CaseRun) : Nat :=
  ((run.last : Int) + run.offset).toNat

/-- The images of a run lie between those of its ends. -/
theorem CaseRun.bounds_of_image? {run : CaseRun} {n point : Nat}
    (h : run.image? n = some point) : run.low ≤ point ∧ point ≤ run.high := by
  obtain ⟨⟨hge, hle, -⟩, rfl⟩ := image?_eq_some_iff.mp h
  rw [low, high]
  omega

/-- No image of the run is covered by the other: they lie apart, or take turns. -/
def CaseRun.clears (run other : CaseRun) : Bool :=
  run.high.blt other.first || other.last.blt run.low ||
    other.stride == 2 && (run.stride == 2 || run.first == run.last) &&
      (run.low + other.first) % 2 == 1

theorem CaseRun.image?_eq_none_of_clears {run other : CaseRun} (h : run.clears other = true)
    (hfirst : 0 ≤ run.first + run.offset) {n point : Nat} (himage : run.image? n = some point) :
    other.image? point = none := by
  have hbounds := bounds_of_image? himage
  obtain ⟨⟨hge, hle, hstride⟩, hpoint⟩ := image?_eq_some_iff.mp himage
  refine Option.eq_none_iff_forall_ne_some.mpr fun q hq => ?_
  obtain ⟨⟨hge', hle', hstride'⟩, -⟩ := image?_eq_some_iff.mp hq
  simp only [clears, Bool.or_eq_true, Bool.and_eq_true, Nat.blt_eq, beq_iff_eq] at h
  rcases h with (hbefore | hbehind) | ⟨⟨htwo, hrun⟩, hodd⟩
  · omega
  · omega
  · rw [htwo] at hstride'
    rw [low] at hodd
    rcases hrun with hrun | hrun
    · rw [hrun] at hstride
      omega
    · omega

/-- Nothing that a run gives is covered by a run. -/
theorem lowerRuns_clear : ∀ run ∈ lowerRuns, lowerRuns.all (run.clears ·) = true := by
  decide +kernel

/-- Nothing that a run gives has a sequence, and of the characters of ASCII a run gives just small
letters. -/
theorem lowerRuns_bounds : ∀ run ∈ lowerRuns, 0 ≤ run.first + run.offset ∧
    (∀ entry ∈ lowerSequences, run.high < entry.1 ∨ entry.1 < run.low) ∧
    (0x80 ≤ run.low ∨ run.low = run.high ∧
      lowerChar (Char.ofNat run.low) = [Char.ofNat run.low]) := by
  decide +kernel

theorem lowerChar_ofNat_image {run : CaseRun} (hrun : run ∈ lowerRuns) {n point : Nat}
    (h : run.image? n = some point) : lowerChar (Char.ofNat point) = [Char.ofNat point] := by
  obtain ⟨hfirst, hsequences, hascii⟩ := lowerRuns_bounds run hrun
  have hbounds := CaseRun.bounds_of_image? h
  rcases toNat_ofNat_or point with hpoint | hzero
  · by_cases hsmall : point < 0x80
    · obtain ⟨hsingle, hself⟩ := hascii.resolve_left (by omega)
      rwa [show run.low = point by omega] at hself
    · refine lowerChar_eq_self (fun hlt => hsmall ?_) (fun entry hentry => ?_) fun other hother => ?_
      · rw [← hpoint]
        exact hlt
      · rw [hpoint]
        have := hsequences entry hentry
        omega
      · rw [hpoint]
        have hclear := List.all_eq_true.mp (lowerRuns_clear run hrun) other hother
        exact CaseRun.image?_eq_none_of_clears hclear hfirst h
  · rw [hzero]
    rfl

/-- What a sequence gives has no other small form. -/
theorem lowerSequences_clear : ∀ entry ∈ lowerSequences, ∀ point ∈ entry.2,
    lowerChar (Char.ofNat point) = [Char.ofNat point] := by
  decide

/-- A character of a small form is its own small form. -/
theorem lowerChar_of_mem {c d : Char} (h : d ∈ lowerChar c) : lowerChar d = [d] := by
  rcases mem_lowerChar h with ⟨hascii, rfl⟩ | ⟨entry, hentry, -, point, hpoint, rfl⟩ |
    ⟨run, hrun, point, himage, rfl⟩ | ⟨hself, rfl⟩
  · rw [map_toLower_of_capitals (f := lowerChar) (by decide), lowerChar, if_pos hascii]
  · exact lowerSequences_clear entry hentry point hpoint
  · exact lowerChar_ofNat_image hrun himage
  · exact hself

/-- Within a text a character has the form that it has by itself, or is a small sigma. -/
theorem mem_lowerBetween {c d : Char} {before behind : Bool}
    (h : d ∈ lowerBetween c before behind) : d = 'ς' ∨ d = 'σ' ∨ d ∈ lowerChar c := by
  rw [lowerBetween] at h
  split at h
  · split at h
    · exact .inl (List.mem_singleton.mp h)
    · exact .inr (.inl (List.mem_singleton.mp h))
  · exact .inr (.inr h)

theorem lowerChar_of_mem_lower {text : List Char} {d : Char} (h : d ∈ lower text) :
    lowerChar d = [d] := by
  rw [lower, List.mem_flatMap] at h
  obtain ⟨flags, -, hd⟩ := h
  obtain rfl | rfl | hchar := mem_lowerBetween hd
  · decide
  · decide
  · exact lowerChar_of_mem hchar

/-- A text of characters that are their own small forms. -/
theorem lower_eq_self {text : List Char} (h : ∀ c ∈ text, lowerChar c = [c]) :
    lower text = text := by
  have hwithin (before : Bool) : lowerWithin before text false = text := by
    induction text generalizing before with
    | nil => rfl
    | cons c text ih =>
      have hsmall := h c List.mem_cons_self
      have hsigma : ¬(c == 'Σ') = true := by
        intro hc
        rw [beq_iff_eq.mp hc] at hsmall
        exact absurd hsmall (by decide)
      rw [lowerWithin, lowerBetween, if_neg hsigma, hsmall,
        ih fun d hd => h d (List.mem_cons_of_mem c hd), List.singleton_append]
  rw [lower_eq_lowerWithin, hwithin]

/-- **A small form is its own small form.** -/
theorem lower_lower (text : List Char) : lower (lower text) = lower text :=
  lower_eq_self fun _ => lowerChar_of_mem_lower

/-! ### Blanks in small forms -/

/-- No image of a run is blank. -/
theorem lowerRuns_notBlank : ∀ run ∈ lowerRuns, ∀ span ∈ blankSpans,
    run.high < span.1 ∨ span.2 < run.low := by
  decide +kernel

/-- Only a blank has a blank in its small form. -/
theorem isBlank_of_mem_lowerChar {c d : Char} (h : d ∈ lowerChar c) (hc : isBlank c = false) :
    isBlank d = false := by
  have hsequences : ∀ entry ∈ lowerSequences, ∀ point ∈ entry.2,
      isBlank (Char.ofNat point) = false := by
    decide
  rcases mem_lowerChar h with ⟨-, rfl⟩ | ⟨entry, hentry, -, point, hpoint, rfl⟩ |
    ⟨run, hrun, point, himage, rfl⟩ | ⟨-, rfl⟩
  · rw [isBlank_toLower, hc]
  · exact hsequences entry hentry point hpoint
  · rcases toNat_ofNat_or point with hpoint | hzero
    · have hbounds := CaseRun.bounds_of_image? himage
      rw [isBlank, ← Bool.not_eq_true, Spans.has_iff, hpoint]
      rintro ⟨span, hspan, hge, hle⟩
      have := lowerRuns_notBlank run hrun span hspan
      omega
    · rw [hzero]
      rfl
  · exact hc

theorem isBlank_of_mem_lowerBetween {c d : Char} {before behind : Bool}
    (h : d ∈ lowerBetween c before behind) (hc : isBlank c = false) : isBlank d = false := by
  obtain rfl | rfl | hchar := mem_lowerBetween h
  · rfl
  · rfl
  · exact isBlank_of_mem_lowerChar hchar hc

/-- The small form of a trimmed text is trimmed. -/
theorem trimmed_lower {text : List Char} (h : Trimmed text) : Trimmed (lower text) := by
  rw [lower_eq_lowerWithin]
  constructor
  · intro d hd
    cases text with
    | nil => cases hd
    | cons c text =>
      rw [lowerWithin, List.head?_append_of_ne_nil _ (lowerBetween_ne_nil _ _ _)] at hd
      exact isBlank_of_mem_lowerBetween (List.mem_of_mem_head? hd) (h.head c rfl)
  · intro d hd
    rcases List.eq_nil_or_concat text with rfl | ⟨init, c, rfl⟩
    · cases hd
    · rw [List.concat_eq_append, lowerWithin_append, lowerWithin, lowerWithin, List.append_nil,
        List.getLast?_append_of_ne_nil _ (lowerBetween_ne_nil _ _ _)] at hd
      refine isBlank_of_mem_lowerBetween (List.mem_of_getLast? hd) (h.last c ?_)
      rw [List.concat_eq_append, List.getLast?_concat]
      rfl

end Autograder.Text
