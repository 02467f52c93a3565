import Autograder.Proofs.Store.History
import Autograder.Proofs.Text.Identifiers
import Autograder.Service.ResultCache

/-!
# The keys of shared results

The key of the latest submission joins two texts with a colon. Where the texts have colons of their
own, the joint cannot be found again: a colon that moves from one text to the other gives another
pair the same key, and then the pairs share what is kept. Apart from that no two keys are the same.

What is kept after a history of submissions is described as for the store of submissions: by one
invariant that a share preserves. It speaks of keys, not of pairs, so it holds of all pairs; a pair
without colons is alone with its key and finds its own submissions only. What was shared has a time
to live. This is left out: a history is one within which nothing expires.

## Main definitions

* `ResultCache.Moved` — a colon moved from one text of a pair to the other
* `ResultCache.ofHistory` — what is kept after a history
* `ResultCache.Holds` — what is kept, in terms of the history

## Main results

* `ResultCache.latestKey_eq_iff` — the pairs that have the same key
* `ResultCache.isAlone_iff` — the pairs that share their key with no other
* `ResultCache.holds_ofHistory` — what is found under each key
* `ResultCache.keys_apart` — which keys lead to the submissions that they are for
-/

namespace Autograder.ResultCache

open Store (IsFor sampleSubmission)

/-! ### Keys -/

/-- The key of a submission spells its identifier. -/
theorem submissionKey_injective : Function.Injective submissionKey := by
  intro id id' h
  have htext : id.text = id'.text := by
    rwa [← String.toList_inj, toList_submissionKey, toList_submissionKey,
      List.append_cancel_left_eq] at h
  rw [← Option.some_inj, ← Uuid.ofText?_text, htext, Uuid.ofText?_text]

theorem latestKey_ne_submissionKey (attempt question : String) (id : Uuid) :
    latestKey attempt question ≠ submissionKey id := by
  intro h
  have hlatest : "codegrade:latest:".toList <+: (latestKey attempt question).toList := by
    rw [toList_latestKey]
    exact List.prefix_append _ _
  have hsubmission : "codegrade:submission:".toList <+: (latestKey attempt question).toList := by
    rw [h, toList_submissionKey]
    exact List.prefix_append _ _
  rcases List.prefix_or_prefix_of_prefix hlatest hsubmission with hprefix | hprefix
  all_goals exact absurd hprefix (by decide)

/-- Texts that are joined with a colon are the same two, or a part of the one with a colon at its
end belongs to the other instead. -/
theorem append_colon_eq_iff {a b a' b' : List Char} :
    a ++ ':' :: b = a' ++ ':' :: b' ↔
      a = a' ∧ b = b' ∨ (∃ m, a' = a ++ ':' :: m ∧ b = m ++ ':' :: b') ∨
        ∃ m, a = a' ++ ':' :: m ∧ b' = m ++ ':' :: b := by
  constructor
  · intro h
    rcases List.append_eq_append_iff.mp h with ⟨moved, rfl, hmoved⟩ | ⟨moved, rfl, hmoved⟩
    · cases moved with
      | nil => exact .inl ⟨(List.append_nil a).symm, (List.cons.inj hmoved).2⟩
      | cons c m =>
        obtain ⟨rfl, hm⟩ := List.cons.inj hmoved
        exact .inr (.inl ⟨m, rfl, hm⟩)
    · cases moved with
      | nil => exact .inl ⟨List.append_nil a', (List.cons.inj hmoved).2.symm⟩
      | cons c m =>
        obtain ⟨rfl, hm⟩ := List.cons.inj hmoved
        exact .inr (.inr ⟨m, rfl, hm⟩)
  · rintro (⟨rfl, rfl⟩ | ⟨m, rfl, rfl⟩ | ⟨m, rfl, rfl⟩)
    · rfl
    · rw [List.append_assoc, List.cons_append]
    · rw [List.append_assoc, List.cons_append]

/-- The second pair is the first with a part of the question, up to a colon, moved to the
attempt. -/
def Moved (attempt question attempt' question' : String) : Prop :=
  ∃ part, attempt'.toList = attempt.toList ++ ':' :: part ∧
    question.toList = part ++ ':' :: question'.toList

/-- **The pairs with the same key.** -/
theorem latestKey_eq_iff {attempt question attempt' question' : String} :
    latestKey attempt question = latestKey attempt' question' ↔
      attempt = attempt' ∧ question = question' ∨
        Moved attempt question attempt' question' ∨ Moved attempt' question' attempt question := by
  rw [← String.toList_inj, toList_latestKey, toList_latestKey, List.append_cancel_left_eq,
    append_colon_eq_iff, String.toList_inj, String.toList_inj]
  rfl

/-- A pair is alone with its key if its texts have no colons. -/
theorem eq_of_latestKey_eq {attempt question attempt' question' : String}
    (hattempt : ':' ∉ attempt.toList) (hquestion : ':' ∉ question.toList)
    (h : latestKey attempt' question' = latestKey attempt question) :
    attempt' = attempt ∧ question' = question := by
  rcases latestKey_eq_iff.mp h with heq | ⟨part, hpart, -⟩ | ⟨part, -, hpart⟩
  · exact heq
  · exact absurd (by simp [hpart]) hattempt
  · exact absurd (by simp [hpart]) hquestion

/-- A colon can be read as the one that joins. -/
theorem exists_latestKey_eq {attempt question : String}
    (h : ':' ∈ attempt.toList ∨ ':' ∈ question.toList) :
    ∃ attempt' question', latestKey attempt' question' = latestKey attempt question ∧
      ¬(attempt' = attempt ∧ question' = question) := by
  rcases h with hcolon | hcolon
  all_goals obtain ⟨start, rest, hsplit⟩ := List.append_of_mem hcolon
  · refine ⟨String.ofList start, String.ofList (rest ++ ':' :: question.toList),
      latestKey_eq_iff.mpr (.inr (.inl ⟨rest, ?_, ?_⟩)), fun hsame => ?_⟩
    · rw [hsplit, String.toList_ofList]
    · rw [String.toList_ofList]
    · have hlength := congrArg List.length hsplit
      rw [← hsame.1, String.toList_ofList, List.length_append, List.length_cons] at hlength
      omega
  · refine ⟨String.ofList (attempt.toList ++ ':' :: start), String.ofList rest,
      latestKey_eq_iff.mpr (.inr (.inr ⟨start, ?_, ?_⟩)), fun hsame => ?_⟩
    · rw [String.toList_ofList]
    · rw [hsplit, String.toList_ofList]
    · have hlength := congrArg List.length hsplit
      rw [← hsame.2, String.toList_ofList, List.length_append, List.length_cons] at hlength
      omega

/-- **A pair is alone with its key** exactly if neither of its texts has a colon. -/
theorem isAlone_iff {attempt question : String} :
    (∀ attempt' question', latestKey attempt' question' = latestKey attempt question →
        attempt' = attempt ∧ question' = question) ↔
      ':' ∉ attempt.toList ∧ ':' ∉ question.toList := by
  constructor
  · intro halone
    by_contra hcolon
    obtain ⟨attempt', question', hkey, hne⟩ := exists_latestKey_eq
      (by rwa [not_and_or, not_not, not_not] at hcolon)
    exact hne (halone _ _ hkey)
  · rintro ⟨hattempt, hquestion⟩ attempt' question' hkey
    exact eq_of_latestKey_eq hattempt hquestion hkey

/-! ### What is kept -/

/-- What is kept after a history of submissions, the earliest first, as long as nothing expires. -/
def ofHistory (history : List Submission) : Table String String :=
  history.foldl share .empty

theorem ofHistory_concat (history : List Submission) (s : Submission) :
    ofHistory (history ++ [s]) = share (ofHistory history) s :=
  List.foldl_concat _ _ _ _

/-- Under each key is the last submission that was shared under it. -/
structure Holds (history : List Submission) (texts : Table String String) : Prop where
  latest : ∀ attempt question, texts.get? (latestKey attempt question) =
    ((history.filter fun s =>
      latestKey s.attemptId s.questionId = latestKey attempt question).getLast?).map payload
  byId : ∀ id, texts.get? (submissionKey id) =
    ((history.filter fun s => s.id = id).getLast?).map payload

theorem holds_empty : Holds [] .empty where
  latest _ _ := rfl
  byId _ := rfl

/-- **One submission more.** -/
theorem Holds.share {history : List Submission} {texts : Table String String}
    (h : Holds history texts) (s : Submission) :
    Holds (history ++ [s]) (share texts s) where
  latest attempt question := by
    rw [getLast?_filter_concat, ResultCache.share, Table.get?_insert, Table.get?_insert,
      if_neg (latestKey_ne_submissionKey attempt question s.id).symm, h.latest]
    split <;> rfl
  byId id := by
    rw [getLast?_filter_concat, ResultCache.share, Table.get?_insert, Table.get?_insert,
      if_neg (latestKey_ne_submissionKey s.attemptId s.questionId id), h.byId]
    simp only [submissionKey_injective.eq_iff]
    split <;> rfl

theorem holds_ofHistory (history : List Submission) : Holds history (ofHistory history) := by
  induction history using List.reverseRecOn with
  | nil => exact holds_empty
  | append_singleton history s ih =>
    rw [ofHistory_concat]
    exact ih.share s

/-! ### What is found -/

/-- A submission of another pair with the same key is found. -/
theorem latest?_ofHistory_singleton {s : Submission} {attempt question : String}
    (h : latestKey s.attemptId s.questionId = latestKey attempt question) :
    latest? (ofHistory [s]) attempt question
      = some (Submission.codec.read (payload s).toList) := by
  rw [latest?, (holds_ofHistory [s]).latest, List.filter_cons_of_pos (by rwa [decide_eq_true_eq])]
  rfl

/-- **Which keys lead to the submissions that they are for.** A submission has its own key for
itself, and no key of a pair is the key of a submission. Another pair shares the key of a pair
exactly if a colon moved between their texts, and there is such a pair exactly if one of the texts
has a colon. What was shared also has a time to live, which is left out here: as long as nothing has
expired, the latest submission of a pair is found after every history exactly if neither of its
texts has a colon. -/
theorem keys_apart (attempt question : String) :
    Function.Injective submissionKey ∧
      (∀ id, latestKey attempt question ≠ submissionKey id) ∧
      (∀ history id, (ofHistory history).get? (submissionKey id)
        = ((history.filter fun s => s.id = id).getLast?).map payload) ∧
      (∀ attempt' question', latestKey attempt question = latestKey attempt' question' ↔
        attempt = attempt' ∧ question = question' ∨
          Moved attempt question attempt' question' ∨
          Moved attempt' question' attempt question) ∧
      ((∀ attempt' question', latestKey attempt' question' = latestKey attempt question →
          attempt' = attempt ∧ question' = question) ↔
        ':' ∉ attempt.toList ∧ ':' ∉ question.toList) ∧
      ((∀ history, latest? (ofHistory history) attempt question
          = ((history.filter (IsFor attempt question ·)).getLast?).map fun s =>
              Submission.codec.read (payload s).toList) ↔
        ':' ∉ attempt.toList ∧ ':' ∉ question.toList) := by
  refine ⟨submissionKey_injective, latestKey_ne_submissionKey attempt question, fun history =>
    (holds_ofHistory history).byId, fun _ _ => latestKey_eq_iff, isAlone_iff, ?_⟩
  rw [← isAlone_iff]
  constructor
  · intro hown attempt' question' hkey
    by_contra hne
    -- One submission of the other pair, and none of this one.
    have hfound := latest?_ofHistory_singleton (s := sampleSubmission ⟨0⟩ attempt' question') hkey
    rw [hown, List.filter_cons_of_neg (by rwa [decide_eq_true_eq])] at hfound
    cases hfound
  · intro halone history
    have hfilter : (history.filter fun s =>
        latestKey s.attemptId s.questionId = latestKey attempt question)
          = history.filter (IsFor attempt question ·) := by
      refine List.filter_congr fun s _ => decide_eq_decide.mpr ⟨halone _ _, ?_⟩
      rintro ⟨hs, hs'⟩
      rw [hs, hs']
    rw [latest?, (holds_ofHistory history).latest, hfilter, Option.map_map]
    rfl

/-- A colon that moved: the submission of another attempt for another question takes the place of
the one that is asked for. -/
theorem latestKey_movedColon :
    latestKey "a:b" "c" = latestKey "a" "b:c" ∧ ("a:b", "c") ≠ ("a", "b:c") ∧
      latest? (ofHistory [sampleSubmission ⟨1⟩ "a" "b:c", sampleSubmission ⟨2⟩ "a:b" "c"]) "a" "b:c"
        = some (Submission.codec.read (payload (sampleSubmission ⟨2⟩ "a:b" "c")).toList) := by
  have hkey : latestKey "a:b" "c" = latestKey "a" "b:c" := by decide
  refine ⟨hkey, by decide, ?_⟩
  rw [latest?, ← hkey]
  exact congrArg (Option.map _) (Table.get?_insert_self _ _ _)

end Autograder.ResultCache
