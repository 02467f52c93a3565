import Autograder.Grading.Validation
import Autograder.Proofs.Program.Source
import Autograder.Proofs.Text.Sigma

/-!
# Forbidden texts

A program is refused if the small form of a pattern is a part of the small form of the program. A
pattern that stands in the program as it is written is found this way if the program does not change
its small form. The patterns of the baseline have no sigma and are always found. Of the others a
pattern is found wherever it stands exactly if its own characters settle the forms of its sigmas, or
if every program that it stands in is refused for a pattern of the baseline anyway.

## Main results

* `mem_mergedPatterns` — what a program is searched for
* `validate_eq_none_iff` — the programs that pass
* `validate_ne_none_iff_isSettled` — the patterns that are found wherever they stand
-/

namespace Autograder

open Text (IsSettled IsSmallSigma lowerWithin)

/-! ### Parts of a text -/

section Parts

variable {sought text : List Char}

theorem Text.contains_iff : Text.contains sought text = true ↔ sought <:+: text := by
  induction text with
  | nil => rw [contains, List.infix_nil, List.isEmpty_iff]
  | cons c text ih =>
    rw [contains, Bool.or_eq_true, ih, List.isPrefixOf_iff_prefix, List.infix_cons_iff]

/-- A part without this character stands on one side of it. -/
theorem infix_of_notMem {a b : List Char} {c : Char} (hc : c ∉ sought)
    (h : sought <:+: a ++ c :: b) : sought <:+: a ∨ sought <:+: b := by
  have hfront {start rest : List Char} (hstart : start <+: c :: rest) (hc : c ∉ start) :
      start = [] := by
    rcases List.prefix_cons_iff.mp hstart with rfl | ⟨more, rfl, -⟩
    · rfl
    · exact absurd List.mem_cons_self hc
  rcases List.infix_append_iff.mp h with ha | hb | ⟨first, second, rfl, hfirst, hsecond⟩
  · exact .inl ha
  · rcases List.infix_cons_iff.mp hb with hprefix | hinfix
    · rw [hfront hprefix hc]
      exact .inl (List.nil_infix)
    · exact .inr hinfix
  · rw [hfront hsecond fun hmem => hc (List.mem_append_right _ hmem), List.append_nil]
    exact .inl hfirst.isInfix

/-- A part that shares no character with what stands in front of a text. -/
theorem infix_of_append {start : List Char} (hstart : ∀ c ∈ start, c ∉ sought)
    (h : sought <:+: start ++ text) : sought <:+: text := by
  induction start with
  | nil => exact h
  | cons c start ih =>
    refine ih (fun d hd => hstart d (List.mem_cons_of_mem c hd)) ?_
    rcases infix_of_notMem (a := []) (hstart c List.mem_cons_self) h with hnil | hinfix
    · rw [List.infix_nil.mp hnil]
      exact List.nil_infix
    · exact hinfix

/-- The same for what stands on both sides of the text. -/
theorem infix_of_surround {start tail : List Char} (hstart : ∀ c ∈ start, c ∉ sought)
    (htail : ∀ c ∈ tail, c ∉ sought) (h : sought <:+: start ++ (text ++ tail)) :
    sought <:+: text := by
  have hbehind := (infix_of_append hstart h).reverse
  rw [List.reverse_append] at hbehind
  refine List.reverse_infix.mp (infix_of_append (fun c hc => ?_) hbehind)
  rw [List.mem_reverse]
  exact htail c (List.mem_reverse.mp hc)

end Parts

/-! ### The patterns -/

/-- What a program is searched for: the baseline, and the folded patterns that are not blank. -/
theorem mem_foldl_addPattern {patterns more : List String} {q : String} :
    q ∈ more.foldl addPattern patterns ↔ q ∈ patterns ∨ q ∈ more ∧ q ≠ "" := by
  have hadd (patterns : List String) (p : String) :
      q ∈ addPattern patterns p ↔ q ∈ patterns ∨ q = p ∧ q ≠ "" := by
    rw [addPattern]
    split
    · rename_i h
      have h : p = "" ∨ p ∈ patterns := by simpa using h
      refine ⟨.inl, ?_⟩
      rintro (hmem | ⟨rfl, hne⟩)
      · exact hmem
      · exact h.resolve_left hne
    · rename_i h
      have h : p ≠ "" ∧ p ∉ patterns := by simpa using h
      rw [List.mem_append, List.mem_singleton]
      refine or_congr_right ⟨?_, And.left⟩
      rintro rfl
      exact ⟨rfl, h.1⟩
  induction more generalizing patterns with
  | nil => simp
  | cons p more ih =>
    rw [List.foldl_cons]
    refine ih.trans ?_
    rw [hadd, List.mem_cons, or_assoc, or_and_right]

theorem mem_mergedPatterns {config : SandboxConfig} {q : String} :
    q ∈ config.mergedPatterns ↔
      q ∈ baselinePatterns ∨ (∃ p ∈ config.blockedPatterns, foldPattern p = q) ∧ q ≠ "" := by
  rw [SandboxConfig.mergedPatterns, mem_foldl_addPattern, List.mem_map]

/-- The patterns of the baseline are folded already. -/
theorem foldPattern_of_mem_baselinePatterns : ∀ q ∈ baselinePatterns, foldPattern q = q := by
  decide +kernel

theorem foldPattern_ne_empty {pattern : String} (h : Text.trim pattern.toList ≠ []) :
    foldPattern pattern ≠ "" := by
  intro hempty
  have hchars := congrArg String.toList hempty
  rw [foldPattern, String.toList_ofList] at hchars
  exact Text.lower_ne_nil h hchars

/-- A pattern that is not blank is searched for. -/
theorem foldPattern_mem_mergedPatterns {config : SandboxConfig} {pattern : String}
    (h : Text.trim pattern.toList ≠ [])
    (hmem : pattern ∈ baselinePatterns ++ config.blockedPatterns) :
    foldPattern pattern ∈ config.mergedPatterns := by
  refine mem_mergedPatterns.mpr ?_
  rcases List.mem_append.mp hmem with hbaseline | hblocked
  · rw [foldPattern_of_mem_baselinePatterns pattern hbaseline]
    exact .inl hbaseline
  · exact .inr ⟨⟨pattern, hblocked, rfl⟩, foldPattern_ne_empty h⟩

/-! ### The verdict -/

theorem findForbidden?_eq_none_iff {patterns : List String} {code : List Char} :
    findForbidden? patterns code = none ↔ ∀ q ∈ patterns, ¬q.toList <:+: Text.lower code := by
  simp [findForbidden?, ← Text.contains_iff]

/-- **The programs that pass:** some line is significant, and no pattern occurs. -/
theorem validate_eq_none_iff {config : SandboxConfig} {code : String} :
    validate config code = none ↔ Guest.Line.ofProgram code.toList ≠ [] ∧
      ∀ q ∈ config.mergedPatterns, ¬q.toList <:+: Text.lower code.toList := by
  rw [← findForbidden?_eq_none_iff, validate]
  split
  · rename_i hblank
    simp [Guest.Line.ofProgram_of_allBlank hblank]
  split
  · rename_i hempty
    simp [List.isEmpty_iff.mp hempty]
  · rename_i hempty
    rw [List.isEmpty_iff] at hempty
    rw [Option.map_eq_none_iff]
    exact (and_iff_right hempty).symm

/-! ### Patterns of the baseline -/

/-- The patterns of the baseline hold neither a sigma nor what stands around a text to change
one. -/
theorem notMem_of_mem_baselinePatterns :
    ∀ q ∈ baselinePatterns, q ≠ "" ∧ ∀ c ∈ ['α', '\n', 'σ', 'ς'], c ∉ q.toList := by
  have hall : ∀ q ∈ baselinePatterns,
      q ≠ "" ∧ ['α', '\n', 'σ', 'ς'].all (· ∉ q.toList) = true := by
    decide +kernel
  intro q hq
  obtain ⟨hne, hnotMem⟩ := hall q hq
  exact ⟨hne, fun c hc => of_decide_eq_true (List.all_eq_true.mp hnotMem c hc)⟩

/-- The text with one small sigma for both. -/
def unifySigma (c : Char) : Char :=
  if c = 'ς' then 'σ' else c

theorem map_unifySigma_lowerWithin (before behind : Bool) (text : List Char) :
    (lowerWithin before text behind).map unifySigma = (Text.lower text).map unifySigma := by
  have hbetween (c : Char) (before before' behind behind' : Bool) :
      (Text.lowerBetween c before behind).map unifySigma
        = (Text.lowerBetween c before' behind').map unifySigma := by
    rw [Text.lowerBetween, Text.lowerBetween]
    split
    · split <;> split <;> rfl
    · rfl
  have hwithin (before' behind' : Bool) : (lowerWithin before text behind).map unifySigma
      = (lowerWithin before' text behind').map unifySigma := by
    induction text generalizing before before' with
    | nil => rfl
    | cons c text ih =>
      rw [lowerWithin, lowerWithin, List.map_append, List.map_append, ih, hbetween]
  rw [Text.lower_eq_lowerWithin]
  exact hwithin false false

theorem unifySigma_eq_self {c : Char} (h : unifySigma c ≠ 'σ') : unifySigma c = c := by
  rw [unifySigma] at h ⊢
  split
  · rename_i hc
    exact absurd (if_pos hc) h
  · rfl

/-- Texts that agree but for their small sigmas have the same parts without one. -/
theorem infix_of_map_unifySigma {q text other : List Char} (hq : ∀ c ∈ q, ¬IsSmallSigma c)
    (hmap : text.map unifySigma = other.map unifySigma) (h : q <:+: text) : q <:+: other := by
  have hunified : q.map unifySigma = q := by
    conv_rhs => rw [← List.map_id q]
    exact List.map_congr_left fun c hc => if_neg fun hfinal => hq c hc (.inr hfinal)
  have hinfix := h.map unifySigma
  rw [hunified, hmap, List.infix_map_iff] at hinfix
  obtain ⟨part, hpart, rfl⟩ := hinfix
  have hpartUnified : part.map unifySigma = part := by
    conv_rhs => rw [← List.map_id part]
    refine List.map_congr_left fun c hc => unifySigma_eq_self fun hsigma => ?_
    exact hq _ (List.mem_map_of_mem hc) (.inl hsigma)
  rwa [hpartUnified]

/-! ### Patterns that are found wherever they stand -/

/-- A program that is refused for a pattern that occurs in it. -/
theorem validate_ne_none {config : SandboxConfig} {code q : String}
    (hq : q ∈ config.mergedPatterns) (h : q.toList <:+: Text.lower code.toList) :
    validate config code ≠ none :=
  fun hnone => (validate_eq_none_iff.mp hnone).2 q hq h

section Surrounded

variable {start tail a b : List Char} {form form' : Char}

/-- A pattern of the baseline that occurs in a text with letters around it and a sigma in it occurs
beside the sigma. -/
theorem infix_or_of_mem_baselinePatterns {q : String} (hq : q ∈ baselinePatterns)
    (hstart : start ⊆ ['α', '\n']) (htail : tail ⊆ ['α', '\n']) (hform' : IsSmallSigma form')
    (h : q.toList <:+: start ++ ((a ++ form' :: b) ++ tail)) :
    q.toList <:+: a ∨ q.toList <:+: b := by
  have hnotMem := (notMem_of_mem_baselinePatterns q hq).2
  have houtside (c : Char) (hc : c ∈ ['α', '\n']) : c ∉ q.toList :=
    hnotMem c (List.mem_append_left ['σ', 'ς'] hc)
  refine infix_of_notMem ?_ (infix_of_surround (fun c hc => houtside c (hstart hc))
    (fun c hc => houtside c (htail hc)) h)
  rcases hform' with rfl | rfl
  · exact hnotMem 'σ' (by simp)
  · exact hnotMem 'ς' (by simp)

/-- A text with one sigma in another form is not a part, whatever letters stand around it: a sigma
of the form is missing. -/
theorem not_infix_of_ne (hstart : start ⊆ ['α', '\n']) (htail : tail ⊆ ['α', '\n'])
    (hform : IsSmallSigma form) (hne : form ≠ form') :
    ¬a ++ form :: b <:+: start ++ ((a ++ form' :: b) ++ tail) := by
  have hletters : form ∉ ['α', '\n'] := by
    rcases hform with rfl | rfl
    all_goals decide
  intro h
  have hcount := h.sublist.count_le form
  simp only [List.count_append, List.count_cons_self, List.count_cons_of_ne hne.symm,
    List.count_eq_zero.mpr fun hmem => hletters (hstart hmem),
    List.count_eq_zero.mpr fun hmem => hletters (htail hmem)] at hcount
  omega

end Surrounded

/-- A text that is not settled stands in a program that passes, unless a pattern of the baseline
occurs in it. -/
theorem exists_validate_eq_none {pattern : String}
    (h : ¬IsSettled (Text.trim pattern.toList))
    (hbaseline : ∀ q ∈ baselinePatterns, ¬q.toList <:+: Text.lower (Text.trim pattern.toList)) :
    ∃ code : String, Text.trim pattern.toList <:+: code.toList ∧
      Guest.Line.ofProgram code.toList ≠ [] ∧
      validate { blockedPatterns := [pattern] } code = none := by
  obtain ⟨start, tail, a, b, form, form', hstart, htail, hform, hform', hne, halone, hwithin⟩ :=
    Text.exists_lower_of_not_isSettled h
  -- The line in front makes the program one with a significant line, whatever the pattern is.
  have hlower : Text.lower (['α'] ++ '\n' :: (start ++ Text.trim pattern.toList ++ tail))
      = ('α' :: '\n' :: start) ++ ((a ++ form' :: b) ++ tail) := by
    rw [Text.lower_append_feed, hwithin, Text.lower_eq_lowerWithin ['α'], Text.lowerWithin_alpha,
      List.append_assoc]
    rfl
  have hsignificant : Guest.Line.ofProgram
      (['α'] ++ '\n' :: (start ++ Text.trim pattern.toList ++ tail)) ≠ [] :=
    Guest.Line.ofProgram_append_feed_ne_nil (by decide) (by decide) (by decide) _
  have hletter : ['α'] ⊆ ['α', '\n'] := by simp
  have hstart' : 'α' :: '\n' :: start ⊆ ['α', '\n'] := by
    simpa using List.Subset.trans hstart hletter
  have htail' : tail ⊆ ['α', '\n'] := List.Subset.trans htail hletter
  refine ⟨String.ofList (['α'] ++ '\n' :: (start ++ Text.trim pattern.toList ++ tail)), ?_, ?_,
    validate_eq_none_iff.mpr ?_⟩
  all_goals rw [String.toList_ofList]
  · exact List.infix_append_of_infix_right (List.infix_cons (List.infix_append _ _ _))
  · exact hsignificant
  refine ⟨hsignificant, fun q hq hinfix => ?_⟩
  rw [hlower] at hinfix
  rcases mem_mergedPatterns.mp hq with hmem | ⟨⟨p, hp, rfl⟩, -⟩
  · refine hbaseline q hmem ?_
    rw [halone]
    rcases infix_or_of_mem_baselinePatterns hmem hstart' htail' hform' hinfix with ha | hb
    · exact List.infix_append_of_infix_left ha
    · exact List.infix_append_of_infix_right (List.infix_cons hb)
  · obtain rfl := List.mem_singleton.mp hp
    rw [foldPattern, String.toList_ofList, halone] at hinfix
    exact not_infix_of_ne hstart' htail' hform hne hinfix

/-- **The patterns that are found wherever they stand** in a program that has a significant line. -/
theorem validate_ne_none_iff_isSettled {pattern : String} (h : Text.trim pattern.toList ≠ []) :
    (∀ (config : SandboxConfig) (code : String),
        pattern ∈ baselinePatterns ++ config.blockedPatterns →
        Text.trim pattern.toList <:+: code.toList → Guest.Line.ofProgram code.toList ≠ [] →
        validate config code ≠ none) ↔
      IsSettled (Text.trim pattern.toList) ∨
        ∃ q ∈ baselinePatterns, q.toList <:+: Text.lower (Text.trim pattern.toList) := by
  constructor
  · intro hfound
    by_contra hopen
    obtain ⟨hsettled, hbaseline⟩ := not_or.mp hopen
    obtain ⟨code, hinfix, hsignificant, hpasses⟩ := exists_validate_eq_none hsettled
      fun q hq hinfix => hbaseline ⟨q, hq, hinfix⟩
    exact hfound _ code (List.mem_append_right _ (List.mem_singleton_self _)) hinfix hsignificant
      hpasses
  · rintro (hsettled | ⟨q, hq, hinfix⟩) config code hmem hpart -
    · refine validate_ne_none (foldPattern_mem_mergedPatterns h hmem) ?_
      rw [foldPattern, String.toList_ofList]
      exact Text.lower_infix_of_isSettled hsettled hpart
    · -- The program may change the sigmas of the pattern, but not the text of the baseline in it.
      obtain ⟨a, b, hcode⟩ := hpart
      refine validate_ne_none (mem_mergedPatterns.mpr (.inl hq)) ?_
      rw [← hcode, Text.lower_append]
      refine List.IsInfix.trans ?_ (List.infix_append _ _ _)
      refine infix_of_map_unifySigma ?_ (map_unifySigma_lowerWithin _ _ _).symm hinfix
      rintro c hc (rfl | rfl)
      · exact (notMem_of_mem_baselinePatterns q hq).2 'σ' (by simp) hc
      · exact (notMem_of_mem_baselinePatterns q hq).2 'ς' (by simp) hc

/-- A bracket behind the last sigma says that it ends a word. -/
theorem validate_ne_none_settledName :
    Text.trim " ΣΟΦΟΣ( ".toList ≠ [] ∧ IsSettled (Text.trim " ΣΟΦΟΣ( ".toList) ∧
      validate { blockedPatterns := [" ΣΟΦΟΣ( "] } "x = 'Ι' + ΣΟΦΟΣ('ΟΣΑ')" ≠ none := by
  have hne : Text.trim " ΣΟΦΟΣ( ".toList ≠ [] := by decide
  have hsettled : IsSettled (Text.trim " ΣΟΦΟΣ( ".toList) := by decide +kernel
  refine ⟨hne, hsettled, (validate_ne_none_iff_isSettled hne).mpr (.inl hsettled) _ _ ?_ ?_ ?_⟩
  · exact List.mem_append_right _ (List.mem_singleton_self _)
  · decide
  · decide +kernel

/-- A forbidden word at the start of a longer one is overlooked. -/
theorem overlooked_wordWithin :
    "ΑΣ" ∈ SandboxConfig.blockedPatterns { blockedPatterns := ["ΑΣ"] } ∧
      Text.trim "ΑΣ".toList ≠ [] ∧ Text.trim "ΑΣ".toList <:+: "ΑΣΑ = 1".toList ∧
      Guest.Line.ofProgram "ΑΣΑ = 1".toList ≠ [] ∧
      validate { blockedPatterns := ["ΑΣ"] } "ΑΣΑ = 1" = none := by
  decide +kernel

end Autograder
