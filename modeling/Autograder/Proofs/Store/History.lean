import Autograder.Grading.Store
import Mathlib.Data.Finset.Card
import Mathlib.Data.List.Induction

/-!
# The store as a history

What a store answers, read off the list of the submissions it was given, the earliest first. Three
tables have to agree for this: two of them hold identifiers only, and what is asked of them is
looked up in the third. An identifier that led nowhere would go unnoticed, since a listing leaves
out what it does not find.

The argument is one invariant, `Store.Indexes`, which describes each table by the history alone. It
holds of the empty store and is kept by every record, also by one whose identifier was there
before. That every identifier leads somewhere then follows: it comes from a member of the history,
and the lookup of a member's identifier never fails.

With an identifier that is recorded twice, the later submission is found wherever the earlier one
was listed. Only where all identifiers differ is a listing a part of the history itself.

## Main definitions

* `Store.ofHistory` — the store after a history
* `Store.Refines` — every answer of the store, in terms of the history
* `Store.Keeps` — the same where all identifiers differ: nothing is lost, changed or reordered
* `Store.Adds` — one submission more, and nothing else

## Main results

* `Store.Indexes.record`, `Store.indexes_ofHistory` — one record and a whole history keep the
  tables consistent
* `Store.ofHistory_refines` — every store refines its history
* `Store.Indexes.adds_record` — a record with a new identifier adds a submission
-/

namespace Autograder

/-! ### Tables -/

namespace Table

variable {κ α : Type} [DecidableEq κ]

theorem isSome_get?_iff (t : Table κ α) (key : κ) :
    (t.get? key).isSome ↔ key ∈ t.entries.map Prod.fst := by
  simp [get?, List.find?_isSome]

/-- The size of a table is the number of the keys that have an entry. -/
theorem size_eq_card {t : Table κ α} {keys : Finset κ}
    (h : ∀ key, (t.get? key).isSome ↔ key ∈ keys) : t.size = keys.card := by
  have hkeys : (t.entries.map Prod.fst).toFinset = keys := by
    ext key
    rw [List.mem_toFinset, ← isSome_get?_iff, h]
  rw [← hkeys, List.toFinset_card_of_nodup t.keys_nodup, List.length_map]
  rfl

end Table

/-! ### The last of a kind -/

section Last

variable {α : Type} {p : α → Prop} [DecidablePred p]

theorem getLast?_filter_concat (history : List α) (a : α) :
    ((history ++ [a]).filter p).getLast? =
      if p a then some a else (history.filter p).getLast? := by
  by_cases h : p a <;> simp [List.filter_append, h]

theorem getLast?_filter_eq_none_iff {history : List α} :
    (history.filter p).getLast? = none ↔ ∀ a ∈ history, ¬ p a := by
  rw [List.getLast?_eq_none_iff, List.filter_eq_nil_iff]
  simp

/-- What is found is in the history, and is of the kind that was asked for. -/
theorem mem_of_getLast?_filter {history : List α} {a : α}
    (h : (history.filter p).getLast? = some a) : a ∈ history ∧ p a := by
  have hmem := List.mem_of_getLast? h
  simpa [List.mem_filter] using hmem

end Last

namespace Store

/-- The store after a history of records, the earliest first. -/
def ofHistory (history : List Submission) : Store :=
  history.foldl record empty

theorem ofHistory_concat (history : List Submission) (s : Submission) :
    ofHistory (history ++ [s]) = (ofHistory history).record s :=
  List.foldl_concat _ _ _ _

/-- The submission was made for this attempt and question. -/
abbrev IsFor (attempt question : String) (s : Submission) : Prop :=
  s.attemptId = attempt ∧ s.questionId = question

/-! ### The invariant -/

/-- The three tables hold what the history says, each by itself. -/
structure Indexes (history : List Submission) (store : Store) : Prop where
  byId : ∀ id, store.byId.get? id = (history.filter fun s => s.id = id).getLast?
  latestId : ∀ attempt question, store.latestId.get? (attempt, question) =
    ((history.filter (IsFor attempt question ·)).getLast?).map Submission.id
  idsOf : ∀ attempt, (store.idsOf.get? attempt).getD [] =
    (history.filter fun s => s.attemptId = attempt).map Submission.id

theorem indexes_empty : Indexes [] empty where
  byId _ := rfl
  latestId _ _ := rfl
  idsOf _ := rfl

/-- **One record.** The tables stay consistent, whether or not the identifier is new. -/
theorem Indexes.record {history : List Submission} {store : Store} (h : store.Indexes history)
    (s : Submission) : (store.record s).Indexes (history ++ [s]) where
  byId id := by
    rw [getLast?_filter_concat, ← h.byId]
    exact Table.get?_insert _ _ _ _
  latestId attempt question := by
    rw [getLast?_filter_concat, Store.record, Table.get?_insert, h.latestId]
    simp only [Prod.mk.injEq]
    split <;> rfl
  idsOf attempt := by
    rw [Store.record, Table.get?_insert, List.filter_append, List.map_append, ← h.idsOf]
    by_cases hs : s.attemptId = attempt
    · simp [hs]
    · simp [hs]

/-- **A whole history.** The tables stay consistent from any point on. -/
theorem Indexes.foldl_record {done : List Submission} {store : Store} (h : store.Indexes done)
    (history : List Submission) : (history.foldl Store.record store).Indexes (done ++ history) := by
  induction history generalizing done store with
  | nil => simpa using h
  | cons s history ih => simpa using ih (h.record s)

theorem indexes_ofHistory (history : List Submission) : (ofHistory history).Indexes history :=
  indexes_empty.foldl_record history

/-! ### Lookups through two tables -/

namespace Indexes

variable {history : List Submission} {store : Store} (h : store.Indexes history)

include h

/-- **No identifier leads nowhere.** What is recorded is found by its identifier: itself, or a later
submission that was given the same one. -/
theorem isSome_get? {s : Submission} (hs : s ∈ history) : (store.get? s.id).isSome := by
  rw [Option.isSome_iff_ne_none, Store.get?, h.byId, Ne, getLast?_filter_eq_none_iff]
  exact fun hnone => hnone s hs rfl

theorem isSome_get?_iff (id : Uuid) :
    (store.get? id).isSome ↔ id ∈ history.map Submission.id := by
  refine ⟨fun hsome => ?_, fun hid => ?_⟩
  · obtain ⟨s, hs⟩ := Option.isSome_iff_exists.mp hsome
    rw [Store.get?, h.byId] at hs
    obtain ⟨hmem, rfl⟩ := mem_of_getLast?_filter hs
    exact List.mem_map_of_mem hmem
  · obtain ⟨s, hs, rfl⟩ := List.mem_map.mp hid
    exact h.isSome_get? hs

theorem latest?_eq (attempt question : String) :
    store.latest? attempt question =
      ((history.filter (IsFor attempt question ·)).getLast?).bind fun s => store.get? s.id := by
  rw [latest?, h.latestId, Option.bind_map]
  rfl

theorem latest?_eq_none_iff (attempt question : String) :
    store.latest? attempt question = none ↔ ∀ s ∈ history, ¬ IsFor attempt question s := by
  rw [h.latest?_eq, ← getLast?_filter_eq_none_iff]
  cases hlast : (history.filter (IsFor attempt question ·)).getLast? with
  | none => simp
  | some s =>
    have hfound := h.isSome_get? (mem_of_getLast?_filter hlast).1
    simpa [Option.isSome_iff_ne_none] using hfound

/-- A listing has an entry for every record of the attempt: the lookups that it drops when they
fail do not fail. -/
theorem map_some_forAttempt (attempt : String) :
    (store.forAttempt attempt).map some =
      (history.filter fun s => s.attemptId = attempt).map fun s => store.get? s.id := by
  rw [forAttempt, h.idsOf, List.filterMap_map, List.map_filterMap_some_eq_filter_map_isSome]
  refine List.filter_eq_self.mpr fun found hfound => ?_
  obtain ⟨s, hs, rfl⟩ := List.mem_map.mp hfound
  exact h.isSome_get? (List.mem_of_mem_filter hs)

theorem size_eq : store.size = (history.map Submission.id).toFinset.card :=
  Table.size_eq_card fun id => by rw [List.mem_toFinset]; exact h.isSome_get?_iff id

/-- Where all identifiers differ, the last submission with an identifier is the only one. -/
theorem get?_of_nodup (hids : (history.map Submission.id).Nodup) {s : Submission}
    (hs : s ∈ history) : store.get? s.id = some s := by
  obtain ⟨found, hfound⟩ := Option.isSome_iff_exists.mp (h.isSome_get? hs)
  have hlast := hfound
  rw [Store.get?, h.byId] at hlast
  obtain ⟨hmem, hid⟩ := mem_of_getLast?_filter hlast
  rw [hfound, List.inj_on_of_nodup_map hids hmem hs hid]

end Indexes

/-! ### Histories -/

/-- What the store answers, in terms of the history. -/
structure Refines (history : List Submission) (store : Store) : Prop where
  /-- The last submission with the identifier is found. -/
  get : ∀ id, store.get? id = (history.filter fun s => s.id = id).getLast?
  /-- The last record of the pair says under which identifier to look. -/
  latest : ∀ attempt question, store.latest? attempt question =
    ((history.filter (IsFor attempt question ·)).getLast?).bind fun s => store.get? s.id
  latest_none : ∀ attempt question,
    store.latest? attempt question = none ↔ ∀ s ∈ history, ¬ IsFor attempt question s
  /-- There is an entry for every record of the attempt, in order. -/
  forAttempt : ∀ attempt, (store.forAttempt attempt).map some =
    (history.filter fun s => s.attemptId = attempt).map fun s => store.get? s.id
  size : store.size = (history.map Submission.id).toFinset.card

/-- Nothing of the history is lost, changed or reordered. -/
structure Keeps (history : List Submission) (store : Store) : Prop where
  get : ∀ s ∈ history, store.get? s.id = some s
  latest : ∀ attempt question, store.latest? attempt question =
    (history.filter (IsFor attempt question ·)).getLast?
  latest_isFor : ∀ attempt question s,
    store.latest? attempt question = some s → IsFor attempt question s
  forAttempt : ∀ attempt, store.forAttempt attempt = history.filter fun s => s.attemptId = attempt
  size : store.size = history.length

namespace Indexes

variable {history : List Submission} {store : Store}

theorem refines (h : store.Indexes history) : store.Refines history where
  get := h.byId
  latest := h.latest?_eq
  latest_none := h.latest?_eq_none_iff
  forAttempt := h.map_some_forAttempt
  size := h.size_eq

theorem latest?_of_nodup (h : store.Indexes history) (hids : (history.map Submission.id).Nodup)
    (attempt question : String) : store.latest? attempt question =
      (history.filter (IsFor attempt question ·)).getLast? := by
  rw [h.latest?_eq]
  cases hlast : (history.filter (IsFor attempt question ·)).getLast? with
  | none => rfl
  | some s => exact h.get?_of_nodup hids (mem_of_getLast?_filter hlast).1

theorem forAttempt_of_nodup (h : store.Indexes history)
    (hids : (history.map Submission.id).Nodup) (attempt : String) :
    store.forAttempt attempt = history.filter fun s => s.attemptId = attempt := by
  apply List.map_injective_iff.mpr (Option.some_injective Submission)
  rw [h.map_some_forAttempt]
  refine List.map_congr_left fun s hs => ?_
  exact h.get?_of_nodup hids (List.mem_of_mem_filter hs)

theorem keeps (h : store.Indexes history) (hids : (history.map Submission.id).Nodup) :
    store.Keeps history where
  get _ := h.get?_of_nodup hids
  latest := h.latest?_of_nodup hids
  latest_isFor attempt question s hs := by
    rw [h.latest?_of_nodup hids] at hs
    exact (mem_of_getLast?_filter hs).2
  forAttempt := h.forAttempt_of_nodup hids
  size := by rw [h.size_eq, List.toFinset_card_of_nodup hids, List.length_map]

end Indexes

/-! ### One submission more -/

/-- The second store has one submission more than the first, and answers as the first does wherever
that submission is not what is asked for. -/
structure Adds (store : Store) (s : Submission) (store' : Store) : Prop where
  get : ∀ id, store'.get? id = if s.id = id then some s else store.get? id
  latest : ∀ attempt question, store'.latest? attempt question =
    if IsFor attempt question s then some s else store.latest? attempt question
  forAttempt : ∀ attempt, store'.forAttempt attempt =
    store.forAttempt attempt ++ if s.attemptId = attempt then [s] else []
  size : store'.size = store.size + 1

theorem get?_record (store : Store) (s : Submission) (id : Uuid) :
    (store.record s).get? id = if s.id = id then some s else store.get? id :=
  Table.get?_insert _ _ _ _

namespace Indexes

variable {history : List Submission} {store : Store} {s : Submission}

/-- What is found in a store is found after a submission with a new identifier as well. -/
theorem get?_record_of_mem (h : store.Indexes history) (hnew : store.get? s.id = none)
    {a : Submission} (ha : a ∈ history) : (store.record s).get? a.id = store.get? a.id := by
  rw [get?_record, if_neg]
  intro hid
  have hfound := h.isSome_get? ha
  rw [← hid, hnew] at hfound
  exact absurd hfound (by decide)

/-- **A submission with a new identifier is added and changes nothing else.** -/
theorem adds_record (h : store.Indexes history) (hnew : store.get? s.id = none) :
    store.Adds s (store.record s) := by
  refine ⟨get?_record store s, fun attempt question => ?_, fun attempt => ?_, ?_⟩
  · rw [(h.record s).latest?_eq, getLast?_filter_concat, h.latest?_eq]
    by_cases hs : IsFor attempt question s
    · rw [if_pos hs, if_pos hs, Option.bind_some, get?_record, if_pos rfl]
    · rw [if_neg hs, if_neg hs]
      refine Option.bind_congr fun a ha => ?_
      exact h.get?_record_of_mem hnew (mem_of_getLast?_filter ha).1
  · apply List.map_injective_iff.mpr (Option.some_injective Submission)
    rw [List.map_append, (h.record s).map_some_forAttempt, h.map_some_forAttempt,
      List.filter_append, List.map_append]
    refine congrArg₂ (· ++ ·) (List.map_congr_left fun a ha => ?_) ?_
    · exact h.get?_record_of_mem hnew (List.mem_of_mem_filter ha)
    · by_cases hs : s.attemptId = attempt <;> simp [hs, get?_record]
  · have hid : s.id ∉ (history.map Submission.id).toFinset := by
      rw [List.mem_toFinset, ← h.isSome_get?_iff, hnew]
      decide
    rw [(h.record s).size_eq, h.size_eq, List.map_append, List.toFinset_append,
      Finset.union_comm]
    exact Finset.card_insert_of_notMem hid

end Indexes

/-- **A store refines its history**, and where all identifiers differ it keeps the history as it
is. -/
theorem ofHistory_refines (history : List Submission) :
    (ofHistory history).Refines history ∧
      ((history.map Submission.id).Nodup → (ofHistory history).Keeps history) :=
  ⟨(indexes_ofHistory history).refines, (indexes_ofHistory history).keeps⟩

/-- A submission of a program that was not run. -/
def sampleSubmission (id : Uuid) (attempt question : String) : Submission where
  id
  attemptId := attempt
  questionId := question
  code := ""
  language := .python
  result := {
    questionId := question
    attemptId := attempt
    code := ""
    language := .python
    testCaseResults := []
    passedCount := 0
    failedCount := 0
    totalCount := 0
    totalExecutionTimeMs := 0
    maxExecutionTimeMs := 0
    finalScore := 0
    maxPossibleScore := 0
    submittedAt := ⟨0, 0⟩
    evaluatedAt := ⟨0, 0⟩ }
  submittedAt := ⟨0, 0⟩

/-- Two attempts at one question, the first of them with a second try and a second question. -/
def sampleHistory : List Submission :=
  [sampleSubmission ⟨1⟩ "a" "q", sampleSubmission ⟨2⟩ "b" "q", sampleSubmission ⟨3⟩ "a" "q",
    sampleSubmission ⟨4⟩ "a" "r"]

theorem keeps_sampleHistory :
    (sampleHistory.map Submission.id).Nodup ∧
      (ofHistory sampleHistory).Refines sampleHistory ∧
      (ofHistory sampleHistory).Keeps sampleHistory :=
  have hids : (sampleHistory.map Submission.id).Nodup := by decide
  ⟨hids, (ofHistory_refines sampleHistory).1, (ofHistory_refines sampleHistory).2 hids⟩

-- The second record takes the identifier of the first, so the first pair leads to the second.
example : (ofHistory [sampleSubmission ⟨1⟩ "a" "q", sampleSubmission ⟨1⟩ "b" "r"]).latest? "a" "q"
    = some (sampleSubmission ⟨1⟩ "b" "r") := rfl

end Store

end Autograder
