import Mathlib.Data.List.TakeWhile
import Autograder.Guest.Template

/-!
# What is put into a template

A template is, in one way only, a row of slots with text between them: no text in front of a slot
has an opening brace, no name has a closing brace, and in the text behind the last slot no opening
brace is closed (`Decomposition`). The pieces of a template are this row, so what is put into a slot
is never looked at again: the names of the slots are those of the template, whatever braces the
values have.

Where a slot stands for a text, the text has to fit behind what is already written. Nothing else
that is written is measured, so the texts may add up to more than the limit if none of them is put
behind it.

## Main definitions

* `Slot` — a slot with the text in front of it
* `Decomposition` — a template taken apart
* `Decomposition.fill` — the template with the values put in
* `Decomposition.Overflows` — a text does not fit where it is to be put

## Main results

* `Decomposition.source_injective`, `Decomposition.exists_source_eq` — there is one way to take a
  template apart
* `foldlM_append_slots` — what is written for a row of slots
* `interpolate_decomposed` — what is written for a template
-/

namespace Autograder.Guest

/-! ### The pieces of a template -/

section Cut

variable {mark : Char} {text : List Char}

theorem ne_of_not_mem (h : mark ∉ text) : ∀ c ∈ text, (c != mark) = true := by
  rintro c hc
  exact bne_iff_ne.mpr fun heq => h (heq ▸ hc)

theorem takeWhile_ne_append (h : mark ∉ text) (rest : List Char) :
    (text ++ mark :: rest).takeWhile (· != mark) = text := by
  rw [List.takeWhile_append_of_pos (ne_of_not_mem h)]
  simp

theorem dropWhile_ne_append (h : mark ∉ text) (rest : List Char) :
    (text ++ mark :: rest).dropWhile (· != mark) = mark :: rest := by
  rw [List.dropWhile_append_of_pos (ne_of_not_mem h)]
  simp

theorem not_mem_of_dropWhile_ne (h : text.dropWhile (· != mark) = []) : mark ∉ text := by
  intro hmem
  simpa using List.dropWhile_eq_nil_iff.mp h mark hmem

theorem not_mem_takeWhile_ne : mark ∉ text.takeWhile (· != mark) := by
  intro hmem
  simpa using List.mem_takeWhile_imp hmem

/-- A text that has the mark is cut in front of the first. -/
theorem eq_of_dropWhile_ne {c : Char} {rest : List Char}
    (h : text.dropWhile (· != mark) = c :: rest) :
    text = text.takeWhile (· != mark) ++ mark :: rest := by
  have hc := List.head?_dropWhile_not (· != mark) text
  obtain rfl : c = mark := by simpa [h] using hc
  rw [← h, List.takeWhile_append_dropWhile]

end Cut

/-- No opening brace of the text is closed in it. -/
def Slotless (text : List Char) : Prop :=
  ∀ before behind, text = before ++ '{' :: behind → '}' ∉ behind

theorem slotless_of_dropWhile {text : List Char} (h : '}' ∉ text.dropWhile (· != '{')) :
    Slotless text := by
  rintro before behind rfl hmem
  apply h
  rw [List.dropWhile_append]
  split <;> simp [hmem]

/-- The first slot of a template is a piece, between the text in front of it and the pieces
behind. -/
theorem pieces_slot {before name : List Char} (hbefore : '{' ∉ before) (hname : '}' ∉ name)
    (rest : List Char) :
    pieces (before ++ '{' :: (name ++ '}' :: rest))
      = .text before :: .slot name :: pieces rest := by
  have hopen := dropWhile_ne_append hbefore (name ++ '}' :: rest)
  have hclose := dropWhile_ne_append hname rest
  rw [pieces]
  split
  · rename_i hnone
    rw [hopen] at hnone
    cases hnone
  · rename_i brace inside hsome
    obtain ⟨-, rfl⟩ := List.cons_eq_cons.mp (hopen.symm.trans hsome)
    split
    · rename_i hnone
      rw [hclose] at hnone
      cases hnone
    · rename_i brace behind hsome
      obtain ⟨-, rfl⟩ := List.cons_eq_cons.mp (hclose.symm.trans hsome)
      rw [takeWhile_ne_append hbefore, takeWhile_ne_append hname]

/-- The pieces in a row are the template. -/
theorem source_pieces (template : List Char) :
    (pieces template).flatMap Piece.source = template := by
  fun_induction pieces template with
  | case1 template before hopen =>
    have htext := List.takeWhile_append_dropWhile (p := (· != '{')) (l := template)
    rw [hopen, List.append_nil] at htext
    rw [List.flatMap_singleton]
    exact htext
  | case2 template before brace rest hopen =>
    have htext := List.takeWhile_append_dropWhile (p := (· != '{')) (l := template)
    rw [hopen] at htext
    rw [List.flatMap_cons, List.flatMap_singleton]
    exact htext
  | case3 template before brace rest hopen close after hclose _ ih =>
    have htext := eq_of_dropWhile_ne hopen
    have hrest := eq_of_dropWhile_ne hclose
    calc (before :: .slot (rest.takeWhile (· != '}')) :: pieces after).flatMap Piece.source
        = template.takeWhile (· != '{')
            ++ '{' :: (rest.takeWhile (· != '}') ++ '}' :: after) := by
          rw [List.flatMap_cons, List.flatMap_cons, ih]
          simp [Piece.source, before]
      _ = template := by rw [← hrest, ← htext]

/-- A template without slots is text. -/
theorem pieces_slotless {text : List Char} (h : Slotless text) :
    ∀ piece ∈ pieces text, ∃ chars, piece = .text chars := by
  fun_cases pieces text with
  | case1 => exact List.forall_mem_singleton.mpr ⟨_, rfl⟩
  | case2 => exact List.forall_mem_cons.mpr ⟨⟨_, rfl⟩, List.forall_mem_singleton.mpr ⟨_, rfl⟩⟩
  | case3 before brace rest hopen close after hclose =>
    have hmem : '}' ∈ rest := by
      rw [eq_of_dropWhile_ne hclose]
      simp
    exact absurd hmem (h _ _ (eq_of_dropWhile_ne hopen))

/-! ### Templates taken apart -/

/-- A slot of a template, with the text in front of it. -/
@[ext]
structure Slot where
  /-- The text behind the slot before. -/
  before : List Char
  /-- What stands between the braces. -/
  name : List Char
  before_plain : '{' ∉ before
  name_plain : '}' ∉ name

namespace Slot

/-- The pieces that make a slot. -/
def pieces (slot : Slot) : List Piece :=
  [.text slot.before, .slot slot.name]

/-- How a slot is written. -/
def source (slot : Slot) : List Char :=
  slot.before ++ (Piece.slot slot.name).source

/-- The value of the name in a slot. -/
def value? (vars : Bindings) (slot : Slot) : Option Value :=
  vars.get? (String.ofList (Text.trim slot.name))

/-- What is put into a slot. A name without a value stays as it is written. -/
def filling (vars : Bindings) (slot : Slot) : String :=
  match slot.value? vars with
  | some v => v.text
  | none => String.ofList (Piece.slot slot.name).source

/-- A slot with its value put in. -/
def fill (vars : Bindings) (slot : Slot) : String :=
  String.ofList slot.before ++ slot.filling vars

/-- The slot is to hold a text that does not fit behind the output. -/
def Overflows (vars : Bindings) (out : String) (slot : Slot) : Prop :=
  ∃ s, slot.value? vars = some (.str s) ∧
    maxValueBytes < (out ++ String.ofList slot.before).utf8ByteSize + s.utf8ByteSize

end Slot

/-- Slots are told apart from the text behind them by their pieces. -/
theorem Slot.pieces_injective {slots more : List Slot} {ps qs : List Piece}
    (hps : ∀ piece ∈ ps, ∃ chars, piece = .text chars)
    (hqs : ∀ piece ∈ qs, ∃ chars, piece = .text chars)
    (h : slots.flatMap pieces ++ ps = more.flatMap pieces ++ qs) : slots = more ∧ ps = qs := by
  -- A row of slots has a piece that is no text, and so it does not begin what has only texts.
  have hslot {slot : Slot} {slots : List Slot} {ps : List Piece} :
      .slot slot.name ∈ (slot :: slots).flatMap pieces ++ ps := by simp [pieces]
  induction slots generalizing more with
  | nil =>
    cases more with
    | nil => exact ⟨rfl, h⟩
    | cons slot more =>
      obtain ⟨chars, hchars⟩ := hps _ (h.symm ▸ hslot)
      cases hchars
  | cons slot slots ih =>
    cases more with
    | nil =>
      obtain ⟨chars, hchars⟩ := hqs _ (h ▸ hslot)
      cases hchars
    | cons other more =>
      simp only [List.flatMap_cons, pieces, List.cons_append, List.nil_append, List.cons.injEq,
        Piece.text.injEq, Piece.slot.injEq] at h
      obtain ⟨hbefore, hname, hrest⟩ := h
      obtain ⟨rfl, rfl⟩ := ih hrest
      exact ⟨congrArg (· :: slots) (Slot.ext hbefore hname), rfl⟩

/-- A template as a row of slots. -/
@[ext]
structure Decomposition where
  /-- The slots, each with the text in front of it. -/
  slots : List Slot
  /-- The text behind the last slot. -/
  last : List Char
  last_slotless : Slotless last

/-- A row of slots with their values put in. -/
def fillAll (vars : Bindings) (slots : List Slot) : String :=
  String.join (slots.map (Slot.fill vars))

@[simp] theorem fillAll_nil (vars : Bindings) : fillAll vars [] = "" := rfl

theorem fillAll_cons (vars : Bindings) (slot : Slot) (slots : List Slot) :
    fillAll vars (slot :: slots) = slot.fill vars ++ fillAll vars slots :=
  String.join_cons

/-- Some slot is to hold a text that does not fit behind the output and the slots in front of it. -/
def SomeOverflows (vars : Bindings) (out : String) (slots : List Slot) : Prop :=
  ∃ front slot behind, slots = front ++ slot :: behind ∧
    slot.Overflows vars (out ++ fillAll vars front)

namespace Decomposition

/-- How a template is written. -/
def source (d : Decomposition) : List Char :=
  d.slots.flatMap Slot.source ++ d.last

/-- A template with the values put in. -/
def fill (vars : Bindings) (d : Decomposition) : String :=
  fillAll vars d.slots ++ String.ofList d.last

/-- Some slot is to hold a text that does not fit behind what is written in front of it. -/
def Overflows (vars : Bindings) (d : Decomposition) : Prop :=
  SomeOverflows vars "" d.slots

/-- The pieces of a template are those of its slots and of the text behind them. -/
theorem pieces_source (d : Decomposition) :
    pieces d.source = d.slots.flatMap Slot.pieces ++ pieces d.last := by
  obtain ⟨slots, last, -⟩ := d
  simp only [source]
  induction slots with
  | nil => rfl
  | cons slot slots ih =>
    have hsource : (slot :: slots).flatMap Slot.source ++ last
        = slot.before ++ '{' :: (slot.name ++ '}' :: (slots.flatMap Slot.source ++ last)) := by
      simp [Slot.source, Piece.source]
    rw [hsource, pieces_slot slot.before_plain slot.name_plain, ih]
    rfl

theorem source_injective : Function.Injective source := by
  intro d e h
  have hpieces : d.slots.flatMap Slot.pieces ++ pieces d.last
      = e.slots.flatMap Slot.pieces ++ pieces e.last := by
    rw [← pieces_source, ← pieces_source, h]
  obtain ⟨hslots, hlast⟩ := Slot.pieces_injective (pieces_slotless d.last_slotless)
    (pieces_slotless e.last_slotless) hpieces
  refine Decomposition.ext hslots ?_
  rw [← source_pieces d.last, hlast, source_pieces]

theorem exists_source_eq (template : List Char) : ∃ d : Decomposition, d.source = template := by
  fun_induction pieces template with
  | case1 template before hopen =>
    exact ⟨⟨[], template, slotless_of_dropWhile (by simp [hopen])⟩, rfl⟩
  | case2 template before brace rest hopen hclose =>
    refine ⟨⟨[], template, slotless_of_dropWhile ?_⟩, rfl⟩
    obtain rfl : brace = '{' := by simpa [hopen] using List.head?_dropWhile_not (· != '{') template
    simp [hopen, not_mem_of_dropWhile_ne hclose]
  | case3 template before brace rest hopen close after hclose _ ih =>
    obtain ⟨d, hd⟩ := ih
    have htext := eq_of_dropWhile_ne hopen
    have hrest := eq_of_dropWhile_ne hclose
    let slot : Slot := ⟨template.takeWhile (· != '{'), rest.takeWhile (· != '}'),
      not_mem_takeWhile_ne, not_mem_takeWhile_ne⟩
    refine ⟨⟨slot :: d.slots, d.last, d.last_slotless⟩, ?_⟩
    calc (slot :: d.slots).flatMap Slot.source ++ d.last
        = slot.before ++ '{' :: (slot.name ++ '}' :: d.source) := by
          simp [Slot.source, Piece.source, source]
      _ = template := by rw [hd, ← hrest, ← htext]

end Decomposition

/-! ### What is written -/

section Writing

variable {vars : Bindings} {out : String}

/-- The text in front of a slot is written as it is. -/
theorem foldlM_pieces (slot : Slot) :
    slot.pieces.foldlM (Piece.append vars) out
      = Piece.append vars (out ++ String.ofList slot.before) (.slot slot.name) := by
  have htext : Piece.append vars out (.text slot.before)
      = .ok (out ++ String.ofList slot.before) := rfl
  rw [Slot.pieces, List.foldlM_cons, htext]
  exact bind_pure (Piece.append vars (out ++ String.ofList slot.before) (.slot slot.name))

theorem foldlM_of_overflows {slot : Slot} (h : slot.Overflows vars out) :
    slot.pieces.foldlM (Piece.append vars) out = .error .valueTooLong := by
  obtain ⟨s, hvalue, hsize⟩ := h
  rw [Slot.value?] at hvalue
  simp only [foldlM_pieces, Piece.append, hvalue, checkSize, if_neg (Nat.not_le_of_lt hsize)]
  rfl

theorem foldlM_of_fits {slot : Slot} (h : ¬slot.Overflows vars out) :
    slot.pieces.foldlM (Piece.append vars) out = .ok (out ++ slot.fill vars) := by
  rw [foldlM_pieces, Slot.fill, Slot.filling, ← String.append_assoc]
  cases hvalue : slot.value? vars with
  | none =>
    rw [Slot.value?] at hvalue
    simp only [Piece.append, hvalue]
  | some v =>
    cases v with
    | str s =>
      have hsize : (out ++ String.ofList slot.before).utf8ByteSize + s.utf8ByteSize
          ≤ maxValueBytes := Nat.le_of_not_lt fun hlt => h ⟨s, hvalue, hlt⟩
      rw [Slot.value?] at hvalue
      simp only [Piece.append, hvalue, checkSize, if_pos hsize]
      rfl
    | int | float | bool =>
      rw [Slot.value?] at hvalue
      simp only [Piece.append, hvalue]

theorem someOverflows_nil : ¬SomeOverflows vars out [] := by
  rintro ⟨front, slot, behind, hslots, -⟩
  simp at hslots

theorem someOverflows_cons {slot : Slot} {slots : List Slot} :
    SomeOverflows vars out (slot :: slots) ↔
      slot.Overflows vars out ∨ SomeOverflows vars (out ++ slot.fill vars) slots := by
  constructor
  · rintro ⟨front, other, behind, hslots, hother⟩
    cases front with
    | nil =>
      obtain ⟨rfl, -⟩ := List.cons_eq_cons.mp hslots
      rw [fillAll_nil, String.append_empty] at hother
      exact .inl hother
    | cons head front =>
      obtain ⟨rfl, hrest⟩ := List.cons_eq_cons.mp hslots
      rw [fillAll_cons, ← String.append_assoc] at hother
      exact .inr ⟨front, other, behind, hrest, hother⟩
  · rintro (hslot | ⟨front, other, behind, rfl, hother⟩)
    · exact ⟨[], slot, slots, rfl, by simpa using hslot⟩
    · refine ⟨slot :: front, other, behind, rfl, ?_⟩
      rwa [fillAll_cons, ← String.append_assoc]

/-- What is written for a row of slots, behind what is written already. -/
theorem foldlM_append_slots (slots : List Slot) :
    (SomeOverflows vars out slots →
      (slots.flatMap Slot.pieces).foldlM (Piece.append vars) out = .error .valueTooLong) ∧
    (¬SomeOverflows vars out slots →
      (slots.flatMap Slot.pieces).foldlM (Piece.append vars) out
        = .ok (out ++ fillAll vars slots)) := by
  induction slots generalizing out with
  | nil =>
    refine ⟨fun h => absurd h someOverflows_nil, fun _ => ?_⟩
    rw [fillAll_nil, String.append_empty]
    rfl
  | cons slot slots ih =>
    rw [someOverflows_cons, List.flatMap_cons, List.foldlM_append]
    by_cases hslot : slot.Overflows vars out
    · rw [foldlM_of_overflows hslot]
      exact ⟨fun _ => rfl, fun h => absurd (.inl hslot) h⟩
    · rw [foldlM_of_fits hslot, fillAll_cons, ← String.append_assoc]
      simp only [hslot, false_or]
      exact ih

theorem foldlM_append_texts {ps : List Piece} (h : ∀ piece ∈ ps, ∃ chars, piece = .text chars) :
    ps.foldlM (Piece.append vars) out
      = .ok (out ++ String.ofList (ps.flatMap Piece.source)) := by
  induction ps generalizing out with
  | nil =>
    rw [List.flatMap_nil, String.ofList_nil, String.append_empty]
    rfl
  | cons piece ps ih =>
    obtain ⟨⟨chars, rfl⟩, hps⟩ := List.forall_mem_cons.mp h
    rw [List.foldlM_cons]
    change ps.foldlM (Piece.append vars) (out ++ String.ofList chars) = _
    rw [ih hps, List.flatMap_cons, String.ofList_append, ← String.append_assoc]
    rfl

end Writing

/-- **What is written for a template.** A template is a row of slots in one way. The values of the
names are put into the slots and the rest stays as it is written, unless some slot is to hold a text
that does not fit behind what is written in front of it. -/
theorem interpolate_decomposed :
    (∀ template, ∃! d : Decomposition, d.source = template) ∧
      ∀ (vars : Bindings) (d : Decomposition),
        (interpolate vars d.source = .ok (d.fill vars) ↔ ¬d.Overflows vars) ∧
        (interpolate vars d.source = .error .valueTooLong ↔ d.Overflows vars) := by
  refine ⟨fun template => ?_, fun vars d => ?_⟩
  · obtain ⟨d, hd⟩ := Decomposition.exists_source_eq template
    exact ⟨d, hd, fun e he => Decomposition.source_injective (he.trans hd.symm)⟩
  -- The pieces behind the slots are texts and always written, so only the slots decide.
  have hoverflow (h : d.Overflows vars) : interpolate vars d.source = .error .valueTooLong := by
    rw [interpolate, d.pieces_source, List.foldlM_append, (foldlM_append_slots d.slots).1 h]
    rfl
  have hfill (h : ¬d.Overflows vars) : interpolate vars d.source = .ok (d.fill vars) := by
    rw [interpolate, d.pieces_source, List.foldlM_append, (foldlM_append_slots d.slots).2 h,
      String.empty_append, Decomposition.fill]
    change (pieces d.last).foldlM (Piece.append vars) (fillAll vars d.slots) = _
    rw [foldlM_append_texts (pieces_slotless d.last_slotless), source_pieces]
  refine ⟨⟨fun hok h => ?_, hfill⟩, ⟨fun herror => ?_, hoverflow⟩⟩
  · cases hok.symm.trans (hoverflow h)
  · by_contra h
    cases herror.symm.trans (hfill h)

/-- Braces in a value are no slot, and a name without a value keeps its braces. -/
example : interpolate ((Table.empty.insert "a" (.str "{b}")).insert "b" (.str "c"))
    "{a}{ b }{d}".toList = .ok "{b}c{d}" := by
  decide +kernel

end Autograder.Guest
