import Autograder.Codec.Record
import Autograder.Proofs.Json.Reading

/-!
# Laws of codecs

A codec is lawful on some values if each of them is written as a document without floats, and that
document is decoded as the value. Codecs are put together from others, and so is their lawfulness:
there is a law for each way of putting them together, and the law of a type follows its codec.

Records take the most care. Their members are taken in one after another, so the law of a record is
about the members of any later fields as well, which must go past the fields in front of them; this
is where the names of the fields have to differ. A field may be left out only where its absence is
read as the value it had.

## Main definitions

* `Codec.LawfulOn`, `RecordField.LawfulOn`, `Record.LawfulOn` — the laws
* `Codec.RoundTrips` — a value is read from what was written of it

## Main results

* `Codec.LawfulOn.roundTrips` — lawful codecs read what they wrote
* `Record.lawfulOn_cons`, `Record.LawfulOn.codec` — the laws of records
-/

namespace Autograder

open Json (Written)

/-! ### Laws -/

namespace Codec

variable {α : Type} {c : Codec α} {valid valid' : α → Prop}

/-- What is written of these values is decoded as them. -/
structure LawfulOn (c : Codec α) (valid : α → Prop) : Prop where
  written : ∀ a, valid a → Written (c.encode a)
  decode : ∀ a, valid a → c.decode (c.encode a) = .ok a

/-- The codec writes no value as `null`. -/
def NeverNull (c : Codec α) : Prop :=
  ∀ a, c.encode a ≠ .null

/-- A value is read from what was written of it, on one line or over several. -/
structure RoundTrips (c : Codec α) (a : α) : Prop where
  compact : c.read (c.encode a).compact = .ok a
  pretty : c.read (c.encode a).pretty = .ok a

theorem read_of_reads {a : α} {text : List Char} (htext : (c.encode a).Reads text)
    (hdecode : c.decode (c.encode a) = .ok a) : c.read text = .ok a := by
  have hfirst : Json.readFirst text = (c.encode a, []) := by
    have hread := htext.read [] [] (by simp [Json.EndsNumber])
    rwa [List.append_nil, Json.resume] at hread
  rw [read, readFirst, hfirst]
  dsimp only
  rw [hdecode]
  rfl

/-- **Lawful codecs read what they wrote.** -/
theorem LawfulOn.roundTrips (h : c.LawfulOn valid) {a : α} (ha : valid a) : c.RoundTrips a where
  compact := read_of_reads (h.written a ha).reads_compact (h.decode a ha)
  pretty := read_of_reads ((h.written a ha).reads_prettyAt 0) (h.decode a ha)

theorem LawfulOn.mono (h : c.LawfulOn valid) (hvalid : ∀ a, valid' a → valid a) :
    c.LawfulOn valid' where
  written a ha := h.written a (hvalid a ha)
  decode a ha := h.decode a (hvalid a ha)

theorem lawfulOn_string : string.LawfulOn fun _ => True where
  written s _ := .ofString s
  decode _ _ := rfl

theorem lawfulOn_bool : bool.LawfulOn fun _ => True where
  written b _ := .bool b
  decode _ _ := rfl

theorem nat?_toDigits (n : Nat) : Numeral.nat? ⟨false, Nat.toDigits 10 n, [], none⟩ = some n := by
  have hvalue : Decimal.natOfDigits (Nat.toDigits 10 n) = n := by
    rw [Decimal.natOfDigits, ← Nat.ofDigitChars_eq_foldl, Nat.ofDigitChars_ten_toDigits]
  rw [Numeral.nat?, hvalue]
  rfl

theorem lawfulOn_natBelow (bound : Nat) : (natBelow bound).LawfulOn (· < bound) where
  written n _ := .ofNat n
  decode n hn := by
    simp [natBelow, Json.ofNat, nat?_toDigits, hn]

theorem lawfulOn_word64 : word64.LawfulOn fun _ => True where
  written w _ := .ofNat w.toNat
  decode w _ := by
    have hnat := (lawfulOn_natBelow 18446744073709551616).decode w.toNat w.toNat_lt
    change (count.decode (count.encode w.toNat)).map UInt64.ofNat = .ok w
    rw [count, hnat, Except.map, UInt64.ofNat_toNat]

theorem lawfulOn_word32 : word32.LawfulOn fun _ => True where
  written w _ := .ofNat w.toNat
  decode w _ := by
    have hnat := (lawfulOn_natBelow 4294967296).decode w.toNat w.toNat_lt
    change ((natBelow 4294967296).decode ((natBelow 4294967296).encode w.toNat)).map
      UInt32.ofNat = .ok w
    rw [hnat, Except.map, UInt32.ofNat_toNat]

theorem LawfulOn.option (h : c.LawfulOn valid) (hnull : c.NeverNull) :
    c.option.LawfulOn fun o => ∀ a ∈ o, valid a where
  written o ho := by
    cases o with
    | none => exact .null
    | some a => exact h.written a (ho a rfl)
  decode o ho := by
    cases o with
    | none => rfl
    | some a =>
      have hmap : c.option.decode (c.encode a) = (c.decode (c.encode a)).map some := by
        rw [Codec.option]
        dsimp only
        split
        · rename_i hencode
          exact absurd hencode (hnull a)
        · rfl
      exact hmap.trans (by rw [h.decode a (ho a rfl), Except.map])

theorem LawfulOn.list (h : c.LawfulOn valid) :
    c.list.LawfulOn fun as => ∀ a ∈ as, valid a where
  written as has := .ofList fun item hitem => by
    obtain ⟨a, ha, rfl⟩ := List.mem_map.mp hitem
    exact h.written a (has a ha)
  decode as has := by
    have hmap : (as.map c.encode).mapM c.decode = .ok as := by
      induction as with
      | nil => rfl
      | cons a as ih =>
        rw [List.map_cons, List.mapM_cons, h.decode a (has a List.mem_cons_self),
          ih fun b hb => has b (List.mem_cons_of_mem _ hb)]
        rfl
    simp [Codec.list, Json.ofList, hmap]

theorem lawfulOn_oneOf {names : List (String × α)} {name : α → String}
    (h : ∀ a, names.lookup (name a) = some a) : (oneOf names name).LawfulOn fun _ => True where
  written a _ := .ofString (name a)
  decode a _ := by
    change oneOf.find names (name a) = .ok a
    rw [oneOf.find, h a]

theorem neverNull_string : string.NeverNull :=
  nofun

theorem neverNull_natBelow (bound : Nat) : (natBelow bound).NeverNull :=
  nofun

end Codec

/-! ### Records -/

/-- What is written of a field with one of these values is decoded as the value, and what is left
out has the value of a field that is absent. -/
structure RecordField.LawfulOn {α : Type} (f : RecordField α) (valid : α → Prop) : Prop where
  codec : f.codec.LawfulOn valid
  omitted : ∀ a, f.isOmitted a = true → f.absent = some a

namespace RecordField

variable {α : Type} {c : Codec α} {valid : α → Prop} (name : String)

theorem lawfulOn_required (h : c.LawfulOn valid) : (required name c).LawfulOn valid where
  codec := h
  omitted := nofun

theorem lawfulOn_defaulted (h : c.LawfulOn valid) (usual : α) :
    (defaulted name c usual).LawfulOn valid where
  codec := h
  omitted := nofun

theorem lawfulOn_optional (h : c.LawfulOn valid) (hnull : c.NeverNull) :
    (optional name c).LawfulOn fun o => ∀ a ∈ o, valid a where
  codec := h.option hnull
  omitted := nofun

theorem lawfulOn_sparse (h : c.LawfulOn valid) (hnull : c.NeverNull) :
    (sparse name c).LawfulOn fun o => ∀ a ∈ o, valid a where
  codec := h.option hnull
  omitted o ho := by
    rw [Option.isNone_iff_eq_none.mp ho]
    rfl

end RecordField

namespace Record

variable {α β : Type}

/-- The members that are written for a value, as they stand in a document. -/
def documented (r : Record α) (a : α) : List (Option String × Json) :=
  (r.members a).map fun (key, value) => (some key, value)

/-- What is written of a record with one of these values is taken in as the values. Its members are
named by these names. -/
structure LawfulOn (r : Record α) (names : List String) (valid : α → Prop) : Prop where
  written : ∀ a, valid a → ∀ m ∈ r.members a, Written m.2
  named : ∀ a, ∀ m ∈ r.members a, m.1 ∈ names
  take : ∀ a, valid a → ∃ p, r.takeAll r.start (r.documented a) = .ok p ∧ r.finish p = .ok a

theorem lawfulOn_nil : nil.LawfulOn [] fun _ => True where
  written := nofun
  named := nofun
  take _ _ := ⟨(), rfl, rfl⟩

/-- Members of later fields go past a field of another name. -/
theorem takeAll_cons {f : RecordField α} {r : Record β} (found : Option α) (p : r.Partial)
    {members : List (String × Json)} (h : ∀ m ∈ members, m.1 ≠ f.name) :
    (cons f r).takeAll (found, p) (members.map fun (key, value) => (some key, value)) =
      (r.takeAll p (members.map fun (key, value) => (some key, value))).map
        fun q => (found, q) := by
  induction members generalizing p with
  | nil => rfl
  | cons m members ih =>
    obtain ⟨key, value⟩ := m
    have hkey : (key == f.name) = false := beq_false_of_ne (h _ List.mem_cons_self)
    have htail := fun q => ih q fun m hm => h m (List.mem_cons_of_mem _ hm)
    have htake : (cons f r).take (found, p) key value =
        (r.take p key value).map fun e => e.map fun q => (found, q) := by
      simp [cons, hkey]
    simp only [List.map_cons, takeAll, htake]
    cases r.take p key value with
    | none => exact htail p
    | some taken =>
      cases taken with
      | error e => rfl
      | ok q => exact htail q

theorem members_cons (f : RecordField α) (r : Record β) (ab : α × β) :
    (cons f r).members ab =
      if f.isOmitted ab.1 then r.members ab.2
      else (f.name, f.codec.encode ab.1) :: r.members ab.2 :=
  rfl

/-- **One more field.** -/
theorem lawfulOn_cons {f : RecordField α} {r : Record β} {names : List String}
    {valid : α → Prop} {valid' : β → Prop} (hf : f.LawfulOn valid) (hname : f.name ∉ names)
    (hr : r.LawfulOn names valid') :
    (cons f r).LawfulOn (f.name :: names) fun ab => valid ab.1 ∧ valid' ab.2 where
  written ab hab m hm := by
    rw [members_cons] at hm
    split at hm
    · exact hr.written ab.2 hab.2 m hm
    · rcases List.mem_cons.mp hm with rfl | hm
      · exact hf.codec.written ab.1 hab.1
      · exact hr.written ab.2 hab.2 m hm
  named ab m hm := by
    rw [members_cons] at hm
    split at hm
    · exact List.mem_cons_of_mem _ (hr.named ab.2 m hm)
    · rcases List.mem_cons.mp hm with rfl | hm
      · exact List.mem_cons_self
      · exact List.mem_cons_of_mem _ (hr.named ab.2 m hm)
  take ab hab := by
    obtain ⟨a, b⟩ := ab
    obtain ⟨p, htake, hfinish⟩ := hr.take b hab.2
    have hlater (found : Option α) :
        (cons f r).takeAll (found, r.start) (r.documented b) = .ok (found, p) := by
      rw [documented, takeAll_cons]
      · exact congrArg (Except.map _) htake
      · exact fun m hm hmf => hname (hmf ▸ hr.named b m hm)
    -- A field that is left out has no member, and is found absent at the end.
    by_cases hom : f.isOmitted a = true
    · refine ⟨(none, p), ?_, ?_⟩
      · rw [documented, members_cons, if_pos hom]
        exact hlater none
      · simp [cons, hf.omitted a hom, hfinish, Except.map]
    · refine ⟨(some a, p), ?_, ?_⟩
      · have hfirst : (cons f r).take (cons f r).start f.name (f.codec.encode a) =
            some (.ok (some a, r.start)) := by
          simp [cons, hf.codec.decode a hab.1, Except.map]
        rw [documented, members_cons, if_neg hom, List.map_cons, takeAll, hfirst]
        exact hlater (some a)
      · simp [cons, hfinish, Except.map]

/-- **The codec of a structure.** -/
theorem LawfulOn.codec {r : Record α} {names : List String} {valid : α → Prop}
    (h : r.LawfulOn names valid) {make : α → β} {parts : β → α}
    (hmake : ∀ b, make (parts b) = b) :
    (r.codec make parts).LawfulOn fun b => valid (parts b) where
  written b hb := .ofMembers (h.written (parts b) hb)
  decode b hb := by
    obtain ⟨p, htake, hfinish⟩ := h.take (parts b) hb
    rw [documented] at htake
    simp [Record.codec, Json.ofMembers, htake, hfinish, Except.map, hmake]

theorem neverNull_codec (r : Record α) (make : α → β) (parts : β → α) :
    (r.codec make parts).NeverNull :=
  nofun

end Record

end Autograder
