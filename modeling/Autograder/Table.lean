/-!
# Tables

A table holds at most one entry for each key. An insertion takes the place of the entry that was
there. That no key occurs twice is part of the type, so the size of a table is the number of its
keys.
-/

namespace Autograder

/-- Entries with different keys, the latest insertion first. -/
structure Table (κ α : Type) where
  entries : List (κ × α)
  keys_nodup : (entries.map Prod.fst).Nodup

namespace Table

variable {κ α : Type}

instance [DecidableEq κ] [DecidableEq α] : DecidableEq (Table κ α) := fun s t =>
  decidable_of_iff (s.entries = t.entries) (by cases s; cases t; simp)

/-- The table without entries. -/
def empty : Table κ α :=
  ⟨[], List.nodup_nil⟩

instance : Inhabited (Table κ α) :=
  ⟨empty⟩

/-- How many keys have an entry. -/
def size (t : Table κ α) : Nat :=
  t.entries.length

@[simp] theorem size_empty : (empty : Table κ α).size = 0 := rfl

variable [DecidableEq κ]

/-- The entry of a key. -/
def get? (t : Table κ α) (key : κ) : Option α :=
  (t.entries.find? fun entry => entry.1 = key).map Prod.snd

/-- Gives a key an entry in place of the one it had. -/
def insert (t : Table κ α) (key : κ) (value : α) : Table κ α where
  entries := (key, value) :: t.entries.filter fun entry => entry.1 ≠ key
  keys_nodup := by
    rw [List.map_cons, List.nodup_cons]
    refine ⟨?_, (List.filter_sublist.map Prod.fst).nodup t.keys_nodup⟩
    simp

@[simp] theorem get?_empty (key : κ) : (empty : Table κ α).get? key = none := rfl

theorem get?_insert (t : Table κ α) (key key' : κ) (value : α) :
    (t.insert key value).get? key' = if key = key' then some value else t.get? key' := by
  simp only [get?, insert, List.find?_cons]
  split
  · simp_all
  · rename_i h
    have h : key ≠ key' := by simpa using h
    rw [if_neg h]
    congr 1
    induction t.entries with
    | nil => rfl
    | cons entry rest ih =>
      by_cases he : entry.1 = key
      · rw [List.filter_cons_of_neg (by simp [he]), List.find?_cons_of_neg (by simp [he, h]), ih]
      · rw [List.filter_cons_of_pos (by simp [he]), List.find?_cons, List.find?_cons, ih]

@[simp] theorem get?_insert_self (t : Table κ α) (key : κ) (value : α) :
    (t.insert key value).get? key = some value := by
  simp [get?_insert]

end Table

end Autograder
