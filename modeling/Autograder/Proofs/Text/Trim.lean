import Autograder.Text.Blank
import Mathlib.Data.List.TakeWhile

/-!
# Trimmed texts

What `trim` keeps and what it takes away, stated through the ends of a text: a text is trimmed
when neither its first character nor its last is blank. Everything that is read from a line or an
expression is trimmed first, so these lemmas stand at the start of every proof about reading.

## Main results

* `Text.trim_eq_self_iff` — a text is its own trimmed form exactly when it is trimmed
* `Text.trim_surround`, `Text.indent_surround` — a trimmed text found again between blanks
* `Text.trim_append_append` — a trimmed text between other texts
-/

namespace Autograder.Text

/-- Neither the first character nor the last is blank. -/
structure Trimmed (text : List Char) : Prop where
  /-- The first character, if there is one, is not blank. -/
  head : ∀ c ∈ text.head?, isBlank c = false
  /-- The last character, if there is one, is not blank. -/
  last : ∀ c ∈ text.getLast?, isBlank c = false

theorem trimStart_of_head {text : List Char} (h : ∀ c ∈ text.head?, isBlank c = false) :
    trimStart text = text := by
  cases text with
  | nil => rfl
  | cons c rest => exact List.dropWhile_cons_of_neg (by simp [h c rfl])

theorem trimEnd_of_last {text : List Char} (h : ∀ c ∈ text.getLast?, isBlank c = false) :
    trimEnd text = text := by
  have hrev : trimStart text.reverse = text.reverse :=
    trimStart_of_head fun c hc => h c (by simpa using hc)
  rw [trimEnd, show text.reverse.dropWhile isBlank = text.reverse from hrev, List.reverse_reverse]

theorem Trimmed.trim_eq {text : List Char} (h : Trimmed text) : trim text = text := by
  rw [trim, trimStart_of_head h.head, trimEnd_of_last h.last]

/-- What is left of a text at its start is not blank. -/
theorem head_trimStart {text : List Char} : ∀ c ∈ (trimStart text).head?, isBlank c = false := by
  intro c hc
  have h := List.head?_dropWhile_not isBlank text
  rw [trimStart] at hc
  rw [Option.mem_def.mp hc] at h
  simpa using h

theorem last_trimEnd {text : List Char} : ∀ c ∈ (trimEnd text).getLast?, isBlank c = false := by
  intro c hc
  have hrev : c ∈ (trimStart text.reverse).head? := by simpa [trimEnd, trimStart] using hc
  exact head_trimStart c hrev

/-- Only blanks at the very end are taken, so what stands before a character stays. -/
theorem trimEnd_cons {c : Char} (h : isBlank c = false) (rest : List Char) :
    trimEnd (c :: rest) = c :: trimEnd rest := by
  rw [trimEnd, trimEnd, List.reverse_cons, List.dropWhile_append]
  split
  · rename_i he
    rw [List.isEmpty_iff.mp he, List.dropWhile_cons_of_neg (by simp [h])]
    rfl
  · rw [List.reverse_append]
    rfl

theorem trimEnd_prefix (text : List Char) : trimEnd text <+: text := by
  simpa [trimEnd] using (List.dropWhile_suffix (l := text.reverse) isBlank).reverse

/-- Trimming the end does not bring a blank to the start. -/
theorem head_trimEnd {text : List Char} (h : ∀ c ∈ text.head?, isBlank c = false) :
    ∀ c ∈ (trimEnd text).head?, isBlank c = false := by
  intro c hc
  refine h c ?_
  obtain ⟨blanks, hb⟩ := trimEnd_prefix text
  rw [← hb, List.head?_append, Option.mem_def.mp hc]
  rfl

theorem trimmed_trim (text : List Char) : Trimmed (trim text) :=
  ⟨head_trimEnd head_trimStart, last_trimEnd⟩

/-- A text is its own trimmed form exactly when it is trimmed. -/
theorem trim_eq_self_iff {text : List Char} : trim text = text ↔ Trimmed text := by
  refine ⟨fun h => ?_, Trimmed.trim_eq⟩
  rw [← h]
  exact trimmed_trim text

instance (text : List Char) : Decidable (Trimmed text) :=
  decidable_of_iff _ trim_eq_self_iff

/-- A text between two characters that are not blank. -/
theorem trimmed_enclosed {first last : Char} (hfirst : isBlank first = false)
    (hlast : isBlank last = false) (text : List Char) : Trimmed (first :: (text ++ [last])) := by
  refine ⟨fun c hc => ?_, fun c hc => ?_⟩
  · obtain rfl := Option.some.inj hc
    exact hfirst
  · rw [← List.cons_append, List.getLast?_concat] at hc
    obtain rfl := Option.some.inj hc
    exact hlast

/-! ### Blanks around a text -/

theorem isBlank_of_mem_spaces {n : Nat} {c : Char} (h : c ∈ List.replicate n ' ') :
    isBlank c = true := by
  rw [List.eq_of_mem_replicate h]
  decide

theorem trimStart_append_of_blank {pad : List Char} (h : ∀ c ∈ pad, isBlank c = true)
    (text : List Char) : trimStart (pad ++ text) = trimStart text :=
  List.dropWhile_append_of_pos h

theorem trimEnd_append_of_blank {trail : List Char} (h : ∀ c ∈ trail, isBlank c = true)
    (text : List Char) : trimEnd (text ++ trail) = trimEnd text := by
  rw [trimEnd, trimEnd, List.reverse_append,
    List.dropWhile_append_of_pos fun c hc => h c (List.mem_reverse.mp hc)]

/-- Trailing blanks make no difference, also behind a text that is blank itself. -/
theorem trim_append_of_blank {trail : List Char} (h : ∀ c ∈ trail, isBlank c = true)
    (text : List Char) : trim (text ++ trail) = trim text := by
  have hd : trimStart (text ++ trail)
      = if (trimStart text).isEmpty then trimStart trail else trimStart text ++ trail :=
    List.dropWhile_append
  rw [trim, trim, hd]
  split
  · rename_i he
    have ht : trimStart trail = [] := by
      rw [← List.append_nil trail, trimStart_append_of_blank h, trimStart, List.dropWhile_nil]
    rw [List.isEmpty_iff.mp he, ht]
  · exact trimEnd_append_of_blank h _

/-- The first character of a text followed by anything. -/
theorem head_append {text : List Char} (hne : text ≠ [])
    (h : ∀ c ∈ text.head?, isBlank c = false) (trail : List Char) :
    ∀ c ∈ (text ++ trail).head?, isBlank c = false := by
  cases text with
  | nil => exact absurd rfl hne
  | cons c rest => exact h

/-- **A trimmed text between blanks.** Trimming finds it again. -/
theorem trim_surround {pad text trail : List Char} (hp : ∀ c ∈ pad, isBlank c = true)
    (ht : ∀ c ∈ trail, isBlank c = true) (hne : text ≠ []) (h : Trimmed text) :
    trim (pad ++ text ++ trail) = text := by
  rw [trim, List.append_assoc, trimStart_append_of_blank hp,
    trimStart_of_head (head_append hne h.head trail), trimEnd_append_of_blank ht,
    trimEnd_of_last h.last]

/-- The blanks in front of a trimmed text are all the blanks at the start of its line. -/
theorem indent_surround {pad text : List Char} (hp : ∀ c ∈ pad, isBlank c = true) (hne : text ≠ [])
    (h : Trimmed text) (trail : List Char) :
    (pad ++ text ++ trail).takeWhile isBlank = pad := by
  rw [List.append_assoc, List.takeWhile_append_of_pos hp]
  cases text with
  | nil => exact absurd rfl hne
  | cons c rest =>
    rw [List.cons_append, List.takeWhile_cons_of_neg (by simp [h.head c rfl]), List.append_nil]

/-! ### Blank texts and others -/

theorem allBlank_iff {text : List Char} : allBlank text = true ↔ ∀ c ∈ text, isBlank c = true :=
  List.all_eq_true

theorem isBlank_feed : isBlank '\n' = true := by decide

/-- A text with a character that is not blank keeps what follows it when its start is trimmed. -/
theorem trimStart_append {text : List Char} (h : allBlank text = false) (rest : List Char) :
    trimStart (text ++ rest) = trimStart text ++ rest := by
  have hkept : (text.dropWhile isBlank).isEmpty = false := by
    rw [List.isEmpty_eq_false_iff, ne_eq, List.dropWhile_eq_nil_iff]
    simpa [allBlank] using h
  rw [trimStart, List.dropWhile_append, hkept]
  rfl

/-- A text with a character that is not blank keeps what precedes it when its end is trimmed. -/
theorem trimEnd_append {text : List Char} (h : allBlank text = false) (start : List Char) :
    trimEnd (start ++ text) = start ++ trimEnd text := by
  have hreverse : allBlank text.reverse = false := by simpa [allBlank] using h
  have hkept := trimStart_append hreverse start.reverse
  rw [trimStart, trimStart] at hkept
  rw [trimEnd, trimEnd, List.reverse_append, hkept, List.reverse_append, List.reverse_reverse]

/-- What does not start with a blank stays behind a text whose start is trimmed. -/
theorem trimStart_append_of_head {rest : List Char} (h : ∀ c ∈ rest.head?, isBlank c = false)
    (text : List Char) : trimStart (text ++ rest) = trimStart text ++ rest := by
  cases hblank : allBlank text with
  | true =>
    have hnone : trimStart text = [] := by
      rw [trimStart, List.dropWhile_eq_nil_iff]
      exact allBlank_iff.mp hblank
    rw [trimStart_append_of_blank (allBlank_iff.mp hblank), trimStart_of_head h, hnone,
      List.nil_append]
  | false => exact trimStart_append hblank rest

/-- What does not end with a blank stays in front of a text whose end is trimmed. -/
theorem trimEnd_append_of_last {start : List Char} (h : ∀ c ∈ start.getLast?, isBlank c = false)
    (text : List Char) : trimEnd (start ++ text) = start ++ trimEnd text := by
  have hhead : ∀ c ∈ start.reverse.head?, isBlank c = false := by simpa using h
  have hreverse := trimStart_append_of_head hhead text.reverse
  rw [trimStart, trimStart] at hreverse
  rw [trimEnd, trimEnd, List.reverse_append, hreverse, List.reverse_append, List.reverse_reverse]

theorem trim_trimStart (text : List Char) : trim (trimStart text) = trim text := by
  rw [trim, trimStart_of_head head_trimStart, trim]

/-- What trimming takes away from the end. -/
theorem exists_trimEnd_append (text : List Char) :
    ∃ trail, (∀ c ∈ trail, isBlank c = true) ∧ trimEnd text ++ trail = text := by
  refine ⟨(text.reverse.takeWhile isBlank).reverse, fun c hc =>
    List.mem_takeWhile_imp (List.mem_reverse.mp hc), ?_⟩
  rw [trimEnd, ← List.reverse_append, List.takeWhile_append_dropWhile, List.reverse_reverse]

/-- What trimming takes away from both ends. -/
theorem exists_append_trim_append (text : List Char) :
    ∃ pad trail, (∀ c ∈ pad, isBlank c = true) ∧ (∀ c ∈ trail, isBlank c = true) ∧
      text = pad ++ trim text ++ trail := by
  obtain ⟨trail, htrail, hend⟩ := exists_trimEnd_append (trimStart text)
  refine ⟨text.takeWhile isBlank, trail, fun c => List.mem_takeWhile_imp, htrail, ?_⟩
  rw [List.append_assoc, trim, hend, trimStart, List.takeWhile_append_dropWhile]

theorem trim_trimEnd (text : List Char) : trim (trimEnd text) = trim text := by
  obtain ⟨trail, hblank, hsplit⟩ := exists_trimEnd_append text
  have htrim := trim_append_of_blank hblank (trimEnd text)
  rw [hsplit] at htrim
  exact htrim.symm

/-- A trimmed text stays as it is between the texts around it. -/
theorem trim_append_append {text : List Char} (hne : text ≠ []) (h : Trimmed text)
    (front behind : List Char) :
    trim (front ++ text ++ behind) = trimStart front ++ text ++ trimEnd behind := by
  have hlast : ∀ c ∈ (trimStart front ++ text).getLast?, isBlank c = false := by
    intro c hc
    rw [List.getLast?_append, List.getLast?_eq_some_getLast hne, Option.some_or,
      ← List.getLast?_eq_some_getLast hne] at hc
    exact h.last c hc
  rw [trim, List.append_assoc, trimStart_append_of_head (head_append hne h.head behind),
    ← List.append_assoc, trimEnd_append_of_last hlast]

theorem trimEnd_of_blank {text : List Char} (h : allBlank text = true) :
    trimEnd text = [] :=
  trimEnd_append_of_blank (allBlank_iff.mp h) []

theorem trimEnd_ne_nil {text : List Char} (h : allBlank text = false) :
    trimEnd text ≠ [] := by
  rw [trimEnd, ne_eq, List.reverse_eq_nil_iff, List.dropWhile_eq_nil_iff]
  simpa [allBlank] using h

theorem trimEnd_trimEnd (text : List Char) : trimEnd (trimEnd text) = trimEnd text :=
  trimEnd_of_last last_trimEnd

theorem allBlank_trimStart (text : List Char) :
    allBlank (trimStart text) = allBlank text := by
  rw [Bool.eq_iff_iff]
  constructor
  · intro h
    rw [allBlank_iff] at h ⊢
    rw [← List.takeWhile_append_dropWhile (p := isBlank) (l := text)]
    intro c hc
    rcases List.mem_append.mp hc with hstart | hrest
    · exact List.mem_takeWhile_imp hstart
    · exact h c hrest
  · intro h
    rw [allBlank_iff] at h ⊢
    exact fun c hc => h c ((List.dropWhile_sublist _).subset hc)

/-! ### The characters that are kept -/

theorem filter_trimStart (text : List Char) :
    (trimStart text).filter (fun c => !isBlank c) = text.filter fun c => !isBlank c := by
  induction text with
  | nil => rfl
  | cons c text ih =>
    cases hc : isBlank c with
    | true => rw [trimStart, List.dropWhile_cons_of_pos hc, ← trimStart, ih,
        List.filter_cons_of_neg (by simp [hc])]
    | false => rw [trimStart, List.dropWhile_cons_of_neg (by simp [hc])]

theorem filter_trimEnd (text : List Char) :
    (trimEnd text).filter (fun c => !isBlank c) = text.filter fun c => !isBlank c := by
  have hreverse := filter_trimStart text.reverse
  rw [trimStart] at hreverse
  rw [trimEnd, List.filter_reverse, hreverse, List.filter_reverse, List.reverse_reverse]

/-- Trimming takes away none of the characters that are not blank. -/
theorem filter_trim (text : List Char) :
    (trim text).filter (fun c => !isBlank c) = text.filter fun c => !isBlank c := by
  rw [trim, filter_trimEnd, filter_trimStart]

theorem mem_trim_of_not_isBlank {text : List Char} {c : Char} (hc : isBlank c = false)
    (h : c ∈ text) : c ∈ trim text := by
  have hkept : c ∈ text.filter fun c => !isBlank c := List.mem_filter.mpr ⟨h, by simp [hc]⟩
  rw [← filter_trim] at hkept
  exact (List.mem_filter.mp hkept).1

/-- Trimming leaves the texts on both sides of a character apart. -/
theorem trim_append_cons {c : Char} (hc : isBlank c = false) (left right : List Char) :
    trim (left ++ c :: right) = trimStart left ++ c :: trimEnd right := by
  have htrimmed : Trimmed [c] := ⟨by simpa using hc, by simpa using hc⟩
  have htrim := trim_append_append (List.cons_ne_nil _ _) htrimmed left right
  rwa [List.append_assoc, List.append_assoc, List.singleton_append, List.singleton_append] at htrim

theorem head?_trimEnd_ne {text : List Char} {c : Char} (h : text.head? ≠ some c) :
    (trimEnd text).head? ≠ some c := by
  obtain ⟨blanks, hblanks⟩ := trimEnd_prefix text
  intro hhead
  rw [← hblanks, List.head?_append, hhead] at h
  exact h rfl

end Autograder.Text
