import Autograder.Proofs.Scan.Nesting

/-!
# The pieces between separators

A text is parted at those separators that stand in code and outside all brackets. Behind each of
them the reader stands where it stood at the start of the text, so a piece is read as if it were a
text of its own, and where a text is parted can be said without the reader: behind a beginning that
closes its quoted text and leads out of as many brackets as it leads into. Nothing is asked of the
way there, so a beginning may close brackets first and open them later, and of whatever kinds.

## Main definitions

* `IsLevel` — a text that leads back to code and to the depth at its start
* `IsSeparator` — a character that can part a text
* `IsPiece` — a text that is not parted
* `Parted` — a text and its pieces

## Main results

* `Parted.unique` — a text has its pieces in one way only
* `parted_splitFrom` — the reader finds them
* `splitTopLevel_append` — two texts with a separator between them
* `splitTopLevel_lawful` — pieces make up the text and are not parted again
-/

namespace Autograder.Guest

/-- The text closes its quoted text, and of all kinds of brackets together it leads out of as many
as it leads into. -/
structure IsLevel (text : List Char) : Prop where
  closed : Scan.code.steps text = .code
  depth_eq : Scan.code.depth bracketStep text = 0

instance (text : List Char) : Decidable (IsLevel text) :=
  decidable_of_iff (Scan.code.steps text = .code ∧ Scan.code.depth bracketStep text = 0)
    ⟨fun h => ⟨h.1, h.2⟩, fun h => ⟨h.closed, h.depth_eq⟩⟩

/-- The character can part a text: it is neither a bracket nor a quotation mark. -/
def IsSeparator (c : Char) : Prop :=
  bracketStep c = 0 ∧ isMark c = false

instance (c : Char) : Decidable (IsSeparator c) :=
  inferInstanceAs (Decidable (_ ∧ _))

/-- No separator of the text stands behind a level beginning. -/
def IsPiece (separator : Char) (text : List Char) : Prop :=
  IsSeparator separator → ∀ before after, text = before ++ separator :: after → ¬ IsLevel before

/-- The text consists of the pieces, with a separator between two of them. -/
inductive Parted (separator : Char) : List Char → List (List Char) → Prop
  /-- Nothing parts the text. -/
  | last {text} : IsPiece separator text → Parted separator text [text]
  /-- The separator behind the first piece parts the text. -/
  | cut {piece rest pieces} : IsSeparator separator → IsPiece separator piece → IsLevel piece →
      Parted separator rest pieces →
      Parted separator (piece ++ separator :: rest) (piece :: pieces)

/-! ### Level texts -/

section Level

variable {separator : Char} {a b : List Char}

/-- Text without marks and brackets. -/
theorem isLevel_of_weightless (hmark : ∀ c ∈ a, isMark c = false)
    (hweight : ∀ c ∈ a, bracketStep c = 0) : IsLevel a :=
  ⟨Scan.steps_of_no_mark hmark, Scan.depth_eq_zero hweight _⟩

/-- What stands behind a level text is read like a text of its own. -/
theorem IsLevel.append_iff (ha : IsLevel a) : IsLevel (a ++ b) ↔ IsLevel b := by
  have hsteps : Scan.code.steps (a ++ b) = Scan.code.steps b := by
    rw [Scan.steps_append, ha.closed]
  have hdepth : Scan.code.depth bracketStep (a ++ b) = Scan.code.depth bracketStep b := by
    rw [Scan.depth_append, ha.closed, ha.depth_eq, Int.zero_add]
  constructor
  · intro h
    exact ⟨hsteps ▸ h.closed, hdepth ▸ h.depth_eq⟩
  · intro h
    exact ⟨hsteps.trans h.closed, hdepth.trans h.depth_eq⟩

theorem IsSeparator.isLevel (h : IsSeparator separator) : IsLevel [separator] :=
  isLevel_of_weightless (by simpa using h.2) (by simpa using h.1)

/-- The same behind a level text and a separator. -/
theorem IsLevel.append_cons_iff (ha : IsLevel a) (hseparator : IsSeparator separator) :
    IsLevel (a ++ separator :: b) ↔ IsLevel b := by
  have hboth : IsLevel (a ++ [separator]) := ha.append_iff.mpr hseparator.isLevel
  rw [List.append_cons, hboth.append_iff]

end Level

/-! ### Texts and their pieces -/

section Parted

variable {separator : Char} {text a b : List Char} {pieces more : List (List Char)}

theorem isPiece_of_notMem (h : separator ∉ text) : IsPiece separator text := by
  intro _ before after htext
  exact absurd (htext ▸ List.mem_append_right before List.mem_cons_self) h

/-- A piece with one more character is a piece, unless that is a separator that parts it. -/
theorem IsPiece.concat {c : Char} (h : IsPiece separator a)
    (hc : c = separator → IsSeparator separator → ¬ IsLevel a) : IsPiece separator (a ++ [c]) := by
  intro hseparator before after htext
  rcases List.eq_nil_or_concat after with rfl | ⟨after, last, rfl⟩
  · obtain ⟨rfl, hlast⟩ := List.append_inj' htext rfl
    exact hc (List.cons.inj hlast).1 hseparator
  · rw [List.concat_eq_append, ← List.cons_append, ← List.append_assoc] at htext
    exact h hseparator before after (List.append_inj' htext rfl).1

/-- A piece does not go on behind a level text and a separator. -/
theorem IsPiece.eq_nil {rest behind : List Char} (h : IsPiece separator (a ++ b))
    (hseparator : IsSeparator separator) (ha : IsLevel a)
    (hcut : separator :: rest = b ++ separator :: behind) : b = [] := by
  cases b with
  | nil => rfl
  | cons c b =>
    obtain ⟨rfl, -⟩ := List.cons.inj hcut
    exact absurd ha (h hseparator a b rfl)

theorem Parted.ne_nil (h : Parted separator text pieces) : pieces ≠ [] := by
  cases h <;> exact List.cons_ne_nil _ _

/-- **A text has its pieces in one way only.** -/
theorem Parted.unique (h : Parted separator text pieces) (h' : Parted separator text more) :
    pieces = more := by
  induction h generalizing more with
  | @last text hpiece =>
    cases h' with
    | last => rfl
    | cut hseparator _ hlevel _ => exact absurd hlevel (hpiece hseparator _ _ rfl)
  | @cut piece rest pieces hseparator hpiece hlevel _ ih =>
    generalize htext : piece ++ separator :: rest = text at h'
    cases h' with
    | last hwhole => exact absurd hlevel (hwhole hseparator _ _ htext.symm)
    | @cut piece' rest' pieces' _ hpiece' hlevel' hrest' =>
      -- Of two first pieces none goes on behind the other.
      have heq : piece = piece' := by
        rcases List.append_eq_append_iff.mp htext with ⟨m, rfl, hm⟩ | ⟨m, rfl, hm⟩
        · rw [hpiece'.eq_nil hseparator hlevel hm, List.append_nil]
        · rw [hpiece.eq_nil hseparator hlevel' hm, List.append_nil]
      subst heq
      obtain rfl : rest = rest' := (List.cons.inj (List.append_cancel_left htext)).2
      rw [ih hrest']

theorem Parted.isPiece (h : Parted separator text pieces) :
    ∀ piece ∈ pieces, IsPiece separator piece := by
  induction h with
  | last hpiece => exact List.forall_mem_singleton.mpr hpiece
  | cut _ hpiece _ _ ih => exact List.forall_mem_cons.mpr ⟨hpiece, ih⟩

/-- **Nothing is lost**: the pieces make up the text. -/
theorem Parted.intercalate (h : Parted separator text pieces) :
    [separator].intercalate pieces = text := by
  induction h with
  | last => exact List.intercalate_singleton
  | @cut piece rest pieces _ _ _ hrest ih =>
    obtain ⟨next, pieces, rfl⟩ := List.exists_cons_of_ne_nil hrest.ne_nil
    rw [List.intercalate_cons_cons, ih, List.append_assoc, List.singleton_append]

theorem Parted.infix_of_mem {piece : List Char} (h : Parted separator text pieces)
    (hpiece : piece ∈ pieces) : piece <:+: text := by
  induction h with
  | last =>
    rw [List.mem_singleton.mp hpiece]
  | @cut first rest pieces _ _ _ _ ih =>
    rcases List.mem_cons.mp hpiece with rfl | hmem
    · exact List.infix_append' [] piece (separator :: rest)
    · exact (ih hmem).trans (List.suffix_append_of_suffix (List.suffix_cons separator rest)).isInfix

/-- There is a piece more than there are cuts. -/
theorem Parted.length_le (h : Parted separator text pieces) :
    pieces.length ≤ text.length + 1 := by
  induction h with
  | last => exact Nat.le_add_left 1 _
  | cut _ _ _ _ ih =>
    rw [List.length_cons, List.length_append, List.length_cons]
    omega

/-- Behind a level text and a separator the pieces are those of what follows. -/
theorem Parted.append (ha : Parted separator a pieces) (hlevel : IsLevel a)
    (hseparator : IsSeparator separator) (hb : Parted separator b more) :
    Parted separator (a ++ separator :: b) (pieces ++ more) := by
  induction ha with
  | last hpiece => exact .cut hseparator hpiece hlevel hb
  | @cut piece rest pieces _ hpiece hlevel' _ ih =>
    rw [List.append_assoc, List.cons_append]
    exact .cut hseparator hpiece hlevel' (ih ((hlevel'.append_cons_iff hseparator).mp hlevel))

end Parted

/-! ### The reader -/

section Reader

variable {separator : Char} {text a b : List Char} {pieces : List (List Char)}

/-- **The reader finds the pieces.** It has read a part of a piece, and its state and its depth are
those behind this part alone. -/
theorem parted_splitFrom {scan : Scan} {depth : Int} {part : List Char}
    (hscan : Scan.code.steps part.reverse = scan)
    (hdepth : Scan.code.depth bracketStep part.reverse = depth)
    (hpart : IsPiece separator part.reverse) :
    Parted separator (part.reverse ++ text) (splitFrom separator scan depth part text) := by
  induction text generalizing scan depth part with
  | nil =>
    rw [List.append_nil, splitFrom]
    exact .last hpart
  | cons c rest ih =>
    rw [splitFrom]
    split
    · rename_i hcut
      simp only [Bool.and_eq_true, beq_iff_eq] at hcut
      obtain ⟨⟨⟨hcode, hweight⟩, rfl⟩, rfl⟩ := hcut
      obtain rfl := Scan.eq_code_of_isCode hcode
      have hmark : isMark c = false := by simpa [Scan.isCode] using hcode
      have hstep : Scan.code.step c = .code := by simp [Scan.step, hmark]
      rw [hstep]
      have hrest := @ih .code 0 [] rfl rfl (isPiece_of_notMem List.not_mem_nil)
      exact .cut ⟨hweight, hmark⟩ hpart ⟨hscan, hdepth⟩ hrest
    · rename_i hcut
      have hreverse : (c :: part).reverse = part.reverse ++ [c] := List.reverse_cons
      have hlonger : IsPiece separator (c :: part).reverse := by
        rw [hreverse]
        refine hpart.concat fun hc hseparator hlevel => hcut ?_
        obtain rfl : .code = scan := hlevel.closed.symm.trans hscan
        obtain rfl : 0 = depth := hlevel.depth_eq.symm.trans hdepth
        simp [Scan.isCode, hc, hseparator.1, hseparator.2]
      have hrest := @ih (scan.step c) (if scan.isCode c then depth + bracketStep c else depth)
        (c :: part) ?_ ?_ hlonger
      · rwa [hreverse, List.append_assoc, List.singleton_append] at hrest
      · rw [hreverse, Scan.steps_append, hscan, Scan.steps_cons, Scan.steps_nil]
      · rw [hreverse, Scan.depth_append, hscan, hdepth, Scan.depth, Scan.depth_nil]
        split <;> omega

theorem parted_splitTopLevel (separator : Char) (text : List Char) :
    Parted separator text (splitTopLevel separator text) :=
  @parted_splitFrom separator text .code 0 [] rfl rfl (isPiece_of_notMem List.not_mem_nil)

/-- **The pieces that are found** are the pieces of the text. -/
theorem splitTopLevel_eq_iff :
    splitTopLevel separator text = pieces ↔ Parted separator text pieces := by
  constructor
  · rintro rfl
    exact parted_splitTopLevel separator text
  · intro h
    exact (parted_splitTopLevel separator text).unique h

theorem splitTopLevel_of_isPiece (h : IsPiece separator text) :
    splitTopLevel separator text = [text] :=
  splitTopLevel_eq_iff.mpr (.last h)

/-- **Two texts with a separator between them**, the first of which is level. -/
theorem splitTopLevel_append (ha : IsLevel a) (hseparator : IsSeparator separator)
    (b : List Char) : splitTopLevel separator (a ++ separator :: b)
      = splitTopLevel separator a ++ splitTopLevel separator b :=
  splitTopLevel_eq_iff.mpr
    ((parted_splitTopLevel separator a).append ha hseparator (parted_splitTopLevel separator b))

end Reader

/-- **Parting a text loses nothing and cuts only where it may.** Joined again, the pieces are the
text, and none of them is parted further. A separator behind a level text is a cut, and the pieces
on its two sides do not depend on each other. -/
theorem splitTopLevel_lawful (separator : Char) :
    (∀ text, [separator].intercalate (splitTopLevel separator text) = text) ∧
    (∀ text, ∀ piece ∈ splitTopLevel separator text, splitTopLevel separator piece = [piece]) ∧
    ∀ a b, IsLevel a → IsSeparator separator →
      splitTopLevel separator (a ++ separator :: b)
        = splitTopLevel separator a ++ splitTopLevel separator b := by
  refine ⟨?_, ?_, ?_⟩
  · intro text
    exact (parted_splitTopLevel separator text).intercalate
  · intro text piece hpiece
    exact splitTopLevel_of_isPiece ((parted_splitTopLevel separator text).isPiece piece hpiece)
  · intro a b ha hseparator
    exact splitTopLevel_append ha hseparator b

/-- A level text may close a bracket before it opens one, and quote a separator behind an escaped
mark. -/
theorem splitTopLevel_lawful_closingFirst :
    IsLevel ")x, 'y\\', z'(, w".toList ∧ IsSeparator ',' ∧
      splitTopLevel ',' ")x, 'y\\', z'(, w, [k, l), 'm, n".toList
        = [")x, 'y\\', z'(".toList, " w".toList, " [k, l)".toList, " 'm, n".toList] := by
  have hlevel : IsLevel ")x, 'y\\', z'(, w".toList := by decide
  have hseparator : IsSeparator ',' := by decide
  have hfirst : splitTopLevel ',' ")x, 'y\\', z'(, w".toList
      = [")x, 'y\\', z'(".toList, " w".toList] := by decide
  have hsecond : splitTopLevel ',' " [k, l), 'm, n".toList
      = [" [k, l)".toList, " 'm, n".toList] := by decide
  refine ⟨hlevel, hseparator, ?_⟩
  have happend := (splitTopLevel_lawful ',').2.2 _ " [k, l), 'm, n".toList hlevel hseparator
  rw [hfirst, hsecond] at happend
  exact happend

end Autograder.Guest
