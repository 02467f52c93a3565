import Autograder.Proofs.Grading.Denylist
import Autograder.Proofs.Text.SmallForms

/-!
# Patterns written in other ways

The patterns of a configuration are one set, however they are written down: in which order, how
often, between which blanks, and in capital or small ASCII letters. Blank entries say nothing.
`Restated` lists these ways one by one; each keeps the texts that a program is searched for, and so
does any number of them in a row. More patterns refuse more programs, and what the baseline refuses
is refused with the same words, since the baseline is searched for first.

## Main definitions

* `Restated` — the same patterns, written in another way

## Main results

* `Restated.mem_mergedPatterns_iff` — the same texts are searched for
* `validate_of_patterns` — what the verdict on a program owes to how the patterns are written
-/

namespace Autograder

open Text (Recased)

/-! ### Programs in other letters -/

namespace Guest.Line

theorem isSignificant_map_toLower (n : Nat) (written : List Char) :
    (ofText n (written.map Char.toLower)).isSignificant = (ofText n written).isSignificant := by
  rw [Bool.eq_iff_iff, isSignificant_iff, isSignificant_iff, ofText, ofText, Text.trim_map_toLower,
    ne_eq, List.map_eq_nil_iff, List.head?_map, ne_eq, Option.map_eq_some_iff]
  simp only [Text.toLower_eq_iff '#' (by decide), exists_eq_right]

/-- A program has a significant line in capital letters if it has one in small letters. -/
theorem ofProgram_eq_nil_iff_of_recased {code other : List Char} (h : Recased code other) :
    ofProgram code = [] ↔ ofProgram other = [] := by
  have hlines (n : Nat) (written : List (List Char)) :
      (numberFrom n (written.map (List.map Char.toLower))).filter isSignificant = [] ↔
        (numberFrom n written).filter isSignificant = [] := by
    induction written generalizing n with
    | nil => rfl
    | cons w written ih =>
      rw [List.map_cons, filter_numberFrom_cons, filter_numberFrom_cons, List.append_eq_nil_iff,
        List.append_eq_nil_iff, ih]
      simp only [List.filter_eq_nil_iff, List.mem_singleton, forall_eq, isSignificant_map_toLower]
  have hfolded (code : List Char) : ofProgram (code.map Char.toLower) = [] ↔ ofProgram code = [] := by
    rw [ofProgram, ofProgram, Text.lines_map_toLower]
    exact hlines 0 _
  rw [← hfolded code, h, hfolded]

end Guest.Line

/-! ### One pattern -/

theorem foldPattern_of_allBlank {p : String} (h : Text.allBlank p.toList = true) :
    foldPattern p = "" := by
  have htrim : Text.trim p.toList = [] :=
    Text.trim_append_of_blank (Text.allBlank_iff.mp h) []
  rw [foldPattern, htrim]
  rfl

theorem foldPattern_of_padded {p q : String} {pad trail : List Char}
    (hpad : Text.allBlank pad = true) (htrail : Text.allBlank trail = true)
    (h : q.toList = pad ++ p.toList ++ trail) : foldPattern q = foldPattern p := by
  rw [foldPattern, foldPattern, h, Text.trim_append_of_blank (Text.allBlank_iff.mp htrail), Text.trim,
    Text.trimStart_append_of_blank (Text.allBlank_iff.mp hpad), ← Text.trim]

theorem foldPattern_of_recased {p q : String} (h : Recased p.toList q.toList) :
    foldPattern p = foldPattern q := by
  rw [foldPattern, foldPattern, h.trim.lower_eq]

/-- What is compared is compared as it is. -/
theorem foldPattern_foldPattern (p : String) : foldPattern (foldPattern p) = foldPattern p := by
  have htrimmed := Text.trimmed_lower (Text.trimmed_trim p.toList)
  simp only [foldPattern, String.toList_ofList]
  rw [htrimmed.trim_eq, Text.lower_lower]

/-- The folded form is blank only if it is empty. -/
theorem allBlank_foldPattern {p : String} (h : foldPattern p ≠ "") :
    Text.allBlank (foldPattern p).toList = false := by
  rw [← Bool.not_eq_true]
  intro hblank
  exact h (by rw [← foldPattern_foldPattern, foldPattern_of_allBlank hblank])

/-! ### The merged patterns -/

theorem nodup_addPattern {patterns : List String} (h : patterns.Nodup) (p : String) :
    (addPattern patterns p).Nodup := by
  rw [addPattern]
  split
  · exact h
  · rename_i hnew
    have hnew : p ≠ "" ∧ p ∉ patterns := by simpa using hnew
    refine List.nodup_append.mpr ⟨h, List.pairwise_singleton _ p, fun q hq r hr hqr => hnew.2 ?_⟩
    rwa [← List.mem_singleton.mp hr, ← hqr]

theorem prefix_addPattern (patterns : List String) (p : String) :
    patterns <+: addPattern patterns p := by
  rw [addPattern]
  split
  · exact List.prefix_refl _
  · exact List.prefix_append _ _

theorem nodup_foldl_addPattern {patterns : List String} (h : patterns.Nodup)
    (more : List String) : (more.foldl addPattern patterns).Nodup := by
  induction more generalizing patterns with
  | nil => exact h
  | cons p more ih => exact ih (nodup_addPattern h p)

theorem prefix_foldl_addPattern (patterns more : List String) :
    patterns <+: more.foldl addPattern patterns := by
  induction more generalizing patterns with
  | nil => exact List.prefix_refl _
  | cons p more ih => exact (prefix_addPattern patterns p).trans (ih _)

/-- Patterns that are there already are not added again. -/
theorem foldl_addPattern_of_subset {patterns more : List String} (h : more ⊆ patterns) :
    more.foldl addPattern patterns = patterns := by
  induction more with
  | nil => rfl
  | cons p more ih =>
    obtain ⟨hp, hmore⟩ := List.cons_subset.mp h
    rw [List.foldl_cons, addPattern, if_pos (by simp [hp]), ih hmore]

/-- Patterns that are new and not empty are all added. -/
theorem foldl_addPattern_of_nodup {patterns more : List String} (h : (patterns ++ more).Nodup)
    (hne : "" ∉ more) : more.foldl addPattern patterns = patterns ++ more := by
  induction more generalizing patterns with
  | nil => rw [List.append_nil, List.foldl_nil]
  | cons p more ih =>
    rw [List.mem_cons, not_or] at hne
    have hnew : p ∉ patterns := fun hp =>
      (List.nodup_append.mp h).2.2 p hp p List.mem_cons_self rfl
    rw [← List.singleton_append, ← List.append_assoc] at h ⊢
    rw [List.singleton_append, List.foldl_cons, addPattern, if_neg (by simp [hnew, Ne.symm hne.1]),
      ih h hne.2]

namespace SandboxConfig

variable (config : SandboxConfig)

/-- Searched for is each text once. -/
theorem nodup_mergedPatterns : config.mergedPatterns.Nodup :=
  nodup_foldl_addPattern (by decide) _

theorem baselinePatterns_isPrefix : baselinePatterns <+: config.mergedPatterns :=
  prefix_foldl_addPattern _ _

variable {config}

/-- What is searched for is folded already. -/
theorem foldPattern_of_mem_mergedPatterns {q : String} (h : q ∈ config.mergedPatterns) :
    foldPattern q = q := by
  rcases mem_mergedPatterns.mp h with hbaseline | ⟨⟨p, -, rfl⟩, -⟩
  · exact foldPattern_of_mem_baselinePatterns q hbaseline
  · exact foldPattern_foldPattern p

theorem allBlank_of_mem_mergedPatterns {q : String} (h : q ∈ config.mergedPatterns) :
    Text.allBlank q.toList = false := by
  have hne : q ≠ "" := by
    rcases mem_mergedPatterns.mp h with hbaseline | ⟨-, hne⟩
    · exact (notMem_of_mem_baselinePatterns q hbaseline).1
    · exact hne
  rw [← foldPattern_of_mem_mergedPatterns h] at hne ⊢
  exact allBlank_foldPattern hne

/-- **Merging what is merged already** changes nothing. -/
theorem mergedPatterns_mergedPatterns :
    { config with blockedPatterns := config.mergedPatterns }.mergedPatterns
      = config.mergedPatterns := by
  have hfolded : config.mergedPatterns.map foldPattern = config.mergedPatterns := by
    conv_rhs => rw [← List.map_id config.mergedPatterns]
    exact List.map_congr_left fun q hq => foldPattern_of_mem_mergedPatterns hq
  rw [mergedPatterns, hfolded]
  obtain ⟨added, hadded⟩ := config.baselinePatterns_isPrefix
  have hne : "" ∉ added := by
    intro hempty
    have hmem : "" ∈ config.mergedPatterns := by
      rw [← hadded]
      exact List.mem_append_right _ hempty
    exact absurd (allBlank_of_mem_mergedPatterns hmem) (by decide)
  have hnodup := config.nodup_mergedPatterns
  rw [← hadded] at hnodup ⊢
  rw [List.foldl_append, foldl_addPattern_of_subset (List.Subset.refl _),
    foldl_addPattern_of_nodup hnodup hne]

end SandboxConfig

/-! ### Patterns restated -/

/-- The same patterns, written in another way: steps that change nothing about what is forbidden,
one after another and in both directions. -/
inductive Restated : List String → List String → Prop where
  | reordered {entries others : List String} (h : entries.Perm others) : Restated entries others
  | repeated {p : String} {entries : List String} (h : p ∈ entries) :
      Restated entries (p :: entries)
  | blank {p : String} {entries : List String} (h : Text.allBlank p.toList = true) :
      Restated entries (p :: entries)
  | padded {p q : String} {pad trail : List Char} {entries : List String}
      (hpad : Text.allBlank pad = true) (htrail : Text.allBlank trail = true)
      (h : q.toList = pad ++ p.toList ++ trail) : Restated (p :: entries) (q :: entries)
  | recased {p q : String} {entries : List String} (h : Recased p.toList q.toList) :
      Restated (p :: entries) (q :: entries)
  | undone {entries others : List String} (h : Restated entries others) : Restated others entries
  | followed {entries others further : List String} (h : Restated entries others)
      (h' : Restated others further) : Restated entries further

/-- An entry in front that has the same folded form. -/
theorem exists_foldPattern_cons_congr {p q r : String} {entries : List String}
    (h : foldPattern q = foldPattern p) :
    (∃ e ∈ p :: entries, foldPattern e = r) ↔ ∃ e ∈ q :: entries, foldPattern e = r := by
  rw [List.exists_mem_cons_iff, List.exists_mem_cons_iff, h]

/-- **Restated patterns** have the same folded forms, but for the empty one. -/
theorem Restated.exists_foldPattern_iff {entries others : List String}
    (h : Restated entries others) {r : String} (hr : r ≠ "") :
    (∃ e ∈ entries, foldPattern e = r) ↔ ∃ e ∈ others, foldPattern e = r := by
  induction h with
  | reordered h => exact exists_congr fun e => and_congr_left' h.mem_iff
  | repeated h =>
    rw [List.exists_mem_cons_iff]
    exact ⟨.inr, fun hor => hor.elim (fun hp => ⟨_, h, hp⟩) id⟩
  | blank h =>
    rw [List.exists_mem_cons_iff, foldPattern_of_allBlank h]
    exact ⟨.inr, fun hor => hor.resolve_left (Ne.symm hr)⟩
  | padded hpad htrail h =>
    exact exists_foldPattern_cons_congr (foldPattern_of_padded hpad htrail h)
  | recased h => exact exists_foldPattern_cons_congr (foldPattern_of_recased h).symm
  | undone _ ih => exact ih.symm
  | followed _ _ ih ih' => exact ih.trans ih'

theorem Restated.mem_mergedPatterns_iff {config : SandboxConfig} {entries : List String}
    (h : Restated config.blockedPatterns entries) {q : String} :
    q ∈ { config with blockedPatterns := entries }.mergedPatterns ↔ q ∈ config.mergedPatterns := by
  rw [mem_mergedPatterns, mem_mergedPatterns]
  refine or_congr_right (and_congr_left fun hq => ?_)
  exact (h.exists_foldPattern_iff hq).symm

/-! ### The verdict -/

section Verdict

variable {config : SandboxConfig} {code : String}

/-- The programs that pass, with the patterns and the program written in another way. -/
theorem Restated.validate_eq_none_iff {entries : List String}
    (h : Restated config.blockedPatterns entries) {other : String}
    (hcode : Recased code.toList other.toList) :
    validate { config with blockedPatterns := entries } other = none ↔
      validate config code = none := by
  rw [Autograder.validate_eq_none_iff, Autograder.validate_eq_none_iff, ← hcode.lower_eq, ne_eq,
    ← Guest.Line.ofProgram_eq_nil_iff_of_recased hcode]
  refine and_congr_right fun _ => forall_congr' fun q => ?_
  rw [h.mem_mergedPatterns_iff]

/-- More patterns do not let a program pass. -/
theorem validate_ne_none_of_subset {entries : List String}
    (h : config.blockedPatterns ⊆ entries) (hrefused : validate config code ≠ none) :
    validate { config with blockedPatterns := entries } code ≠ none := by
  intro hpasses
  obtain ⟨hsignificant, hclean⟩ := validate_eq_none_iff.mp hpasses
  refine hrefused (validate_eq_none_iff.mpr ⟨hsignificant, fun q hq => hclean q ?_⟩)
  rw [mem_mergedPatterns] at hq ⊢
  refine hq.imp_right (And.imp_left ?_)
  rintro ⟨p, hp, rfl⟩
  exact ⟨p, h hp, rfl⟩

/-- What is found among the first patterns is found before all others. -/
theorem findForbidden?_of_isPrefix {patterns more : List String} (h : patterns <+: more)
    {text : List Char} {q : String} (hq : findForbidden? patterns text = some q) :
    findForbidden? more text = some q := by
  obtain ⟨rest, rfl⟩ := h
  rw [findForbidden?] at hq ⊢
  rw [List.find?_append, hq]
  rfl

/-- A pattern of the baseline that is reported is found in the baseline alone. -/
theorem findForbidden?_baselinePatterns {text : List Char} {q : String}
    (h : findForbidden? config.mergedPatterns text = some q) (hq : q ∈ baselinePatterns) :
    findForbidden? baselinePatterns text = some q := by
  cases hbaseline : findForbidden? baselinePatterns text with
  | none =>
    have hoccurs := List.find?_some h
    rw [Text.contains_iff] at hoccurs
    exact absurd hoccurs (findForbidden?_eq_none_iff.mp hbaseline q hq)
  | some found =>
    rw [findForbidden?_of_isPrefix config.baselinePatterns_isPrefix hbaseline] at h
    exact h

/-- A refusal that no pattern beyond the baseline caused is the same for all patterns. -/
theorem validate_eq_of_baseline {refusal : Refusal} (h : validate config code = some refusal)
    (hbaseline : ∀ q, refusal = .forbidden q → q ∈ baselinePatterns) (entries : List String) :
    validate { config with blockedPatterns := entries } code = some refusal := by
  rw [validate] at h ⊢
  split at h
  · rename_i hblank
    rw [if_pos hblank, h]
  rename_i hblank
  rw [if_neg hblank]
  split at h
  · rename_i hcomments
    rw [if_pos hcomments, h]
  rename_i hcomments
  rw [if_neg hcomments]
  obtain ⟨q, hq, rfl⟩ := Option.map_eq_some_iff.mp h
  have hfound := findForbidden?_baselinePatterns hq (hbaseline q rfl)
  rw [findForbidden?_of_isPrefix (SandboxConfig.baselinePatterns_isPrefix _) hfound, Option.map_some]

end Verdict

/-- **How the patterns are written.** Patterns restated and a program in other letters have the same
verdict. With more patterns every refusal stays, and a refusal of a program that is empty, has
comments only or holds a pattern of the baseline is the same whatever the patterns are. The merged
patterns start with the baseline, hold each text once and none that is blank, and are merged
already. -/
theorem validate_of_patterns (config : SandboxConfig) (code : String) :
    (∀ entries other, Restated config.blockedPatterns entries →
        Recased code.toList other.toList →
        (validate { config with blockedPatterns := entries } other = none ↔
          validate config code = none)) ∧
      (∀ entries, config.blockedPatterns ⊆ entries → validate config code ≠ none →
        validate { config with blockedPatterns := entries } code ≠ none) ∧
      (∀ entries refusal, validate config code = some refusal →
        (∀ q, refusal = .forbidden q → q ∈ baselinePatterns) →
        validate { config with blockedPatterns := entries } code = some refusal) ∧
      config.mergedPatterns.Nodup ∧
      (∀ q ∈ config.mergedPatterns, Text.allBlank q.toList = false) ∧
      baselinePatterns <+: config.mergedPatterns ∧
      { config with blockedPatterns := config.mergedPatterns }.mergedPatterns
        = config.mergedPatterns :=
  ⟨fun _ _ h hcode => h.validate_eq_none_iff hcode,
    fun _ h hrefused => validate_ne_none_of_subset h hrefused,
    fun entries _ h hbaseline => validate_eq_of_baseline h hbaseline entries,
    config.nodup_mergedPatterns, fun _ => SandboxConfig.allBlank_of_mem_mergedPatterns,
    config.baselinePatterns_isPrefix, SandboxConfig.mergedPatterns_mergedPatterns⟩

/-- Capitals and blanks in a pattern, and a blank pattern beside it. -/
theorem validate_of_patterns_pickle :
    Restated ["Import Pickle"] [" ", "import pickle\t"] ∧
      Recased "import PICKLE".toList "Import pickle".toList ∧
      validate { blockedPatterns := ["Import Pickle"] } "import PICKLE" ≠ none ∧
      validate { blockedPatterns := [" ", "import pickle\t"] } "Import pickle" ≠ none ∧
      validate { blockedPatterns := ["exec", "Import Pickle"] } "import PICKLE" ≠ none ∧
      validate { blockedPatterns := ["exec"] } "# no code" = some .onlyComments := by
  have hrecased : Restated ["Import Pickle"] ["import pickle"] := .recased (by decide)
  have hpadded : Restated ["import pickle"] ["import pickle\t"] :=
    .padded (show Text.allBlank [] = true by decide) (show Text.allBlank ['\t'] = true by decide)
      (by decide)
  have hrestated : Restated ["Import Pickle"] [" ", "import pickle\t"] :=
    (hrecased.followed hpadded).followed (.blank (by decide))
  have hcode : Recased "import PICKLE".toList "Import pickle".toList := by decide
  have hrefused : validate { blockedPatterns := ["Import Pickle"] } "import PICKLE" ≠ none := by
    decide
  have hcomments : validate {} "# no code" = some .onlyComments := by decide
  obtain ⟨hsame, hmore, -⟩ :=
    validate_of_patterns { blockedPatterns := ["Import Pickle"] } "import PICKLE"
  refine ⟨hrestated, hcode, hrefused, ?_, hmore _ (by simp) hrefused,
    (validate_of_patterns {} "# no code").2.2.1 _ _ hcomments (by simp)⟩
  rwa [ne_eq, hsame _ _ hrestated hcode]

end Autograder
