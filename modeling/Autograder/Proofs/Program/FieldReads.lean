import Autograder.Proofs.Program.Effects
import Autograder.Proofs.Program.Recognition

/-!
# Reading several integers

Several names on the left of an equals sign read the fields of one line of input, one field for
each name. How the line is written does not matter: blanks may stand around every name and anywhere
on the right side. Of the fields, first the number is compared with that of the names, and only then
is one after another read, so a line with too few or too many of them gives no name a value, and a
field that is no integer stops the reading where it stands.

## Main definitions

* `fieldsLine` — a line with several names
* `Unpacked` — the fields of a line, given to names

## Main results

* `segments_trimEnd_intercalate` — names between commas are read back
* `acts_fieldsLine` — the statement on the line
* `unpacked_readFields` — what reading the fields of a line does
* `unpacked_fieldsLine` — what a line with several names does
-/

namespace Autograder.Guest

/-! ### The written form -/

/-- Names between commas, an equals sign and a right side. -/
def fieldsLine (written : List (List Char)) (right : List Char) : List Char :=
  [','].intercalate written ++ '=' :: right

theorem mem_intercalate {written : List (List Char)} {c : Char}
    (h : c ∈ [','].intercalate written) : c = ',' ∨ ∃ w ∈ written, c ∈ w := by
  induction written with
  | nil => simp at h
  | cons w written ih =>
    cases written with
    | nil =>
      rw [List.intercalate_singleton] at h
      exact .inr ⟨w, List.mem_cons_self, h⟩
    | cons v written =>
      rw [List.intercalate_cons_cons, List.mem_append, List.mem_append,
        List.mem_singleton] at h
      rcases h with (hfirst | hcomma) | hothers
      · exact .inr ⟨w, List.mem_cons_self, hfirst⟩
      · exact .inl hcomma
      · exact (ih hothers).imp id fun ⟨u, hu, hc⟩ => ⟨u, List.mem_cons_of_mem _ hu, hc⟩

section Written

variable {written : List (List Char)} (hnames : ∀ w ∈ written, isIdentifier (Text.trim w) = true)

include hnames

/-- A name between blanks has characters of names and blanks. -/
theorem continuesName_or_isBlank {w : List Char} (hw : w ∈ written) {c : Char} (hc : c ∈ w) :
    continuesName c = true ∨ Text.isBlank c = true := by
  cases hblank : Text.isBlank c with
  | true => exact .inr rfl
  | false =>
    obtain ⟨_, _, htrim, -, hcontinues⟩ := exists_cons_of_isIdentifier (hnames w hw)
    have hkept := Text.mem_trim_of_not_isBlank hblank hc
    rw [htrim] at hkept
    exact .inl (hcontinues c hkept)

/-- Nothing in front of the equals sign is a mark or changes its meaning. -/
theorem plain_of_mem_intercalate {c : Char} (hc : c ∈ [','].intercalate written) :
    isMark c = false ∧ c ∉ signs := by
  rcases mem_intercalate hc with rfl | ⟨w, hw, hc⟩
  · decide
  · exact plain_of_name_or_blank (continuesName_or_isBlank hnames hw hc)

theorem uncut_of_mem {w : List Char} (hw : w ∈ written) : ∀ c ∈ w, (c == ',') = false := by
  intro c hc
  rw [beq_eq_false_iff_ne]
  rintro rfl
  exact absurd (continuesName_or_isBlank hnames hw hc) (by decide)

/-- **Names between commas** are read back, also from a text that has been trimmed. -/
theorem segments_trimEnd_intercalate (hne : written ≠ []) :
    (Text.segments (· == ',') (Text.trimEnd ([','].intercalate written))).map Text.trim
      = written.map Text.trim := by
  induction written with
  | nil => exact absurd rfl hne
  | cons w written ih =>
    have huncut := uncut_of_mem hnames List.mem_cons_self
    cases written with
    | nil =>
      have hend : ∀ c ∈ Text.trimEnd w, (c == ',') = false :=
        fun c hc => huncut c ((Text.trimEnd_prefix w).subset hc)
      rw [List.intercalate_singleton, Text.segments_of_uncut hend, List.map_singleton,
        Text.trim_trimEnd, List.map_singleton]
    | cons v written =>
      have hlast : ∀ c ∈ (w ++ [',']).getLast?, Text.isBlank c = false := by
        intro c hc
        obtain rfl : ',' = c := by simpa using hc
        decide
      have hothers := ih (fun u hu => hnames u (List.mem_cons_of_mem _ hu)) (List.cons_ne_nil _ _)
      rw [List.intercalate_cons_cons, Text.trimEnd_append_of_last hlast, List.append_assoc,
        List.singleton_append, Text.segments_append_cut huncut (by decide), List.map_cons, hothers]
      rfl

end Written

/-- Blanks in front of the first name are blanks in front of all of them. -/
theorem trimStart_intercalate (w v : List Char) (more : List (List Char)) :
    Text.trimStart ([','].intercalate (w :: v :: more))
      = [','].intercalate (Text.trimStart w :: v :: more) := by
  have hcomma : ∀ c ∈ ([','] ++ [','].intercalate (v :: more)).head?, Text.isBlank c = false := by
    intro c hc
    obtain rfl : ',' = c := by simpa using hc
    decide
  rw [List.intercalate_cons_cons, List.intercalate_cons_cons, List.append_assoc,
    Text.trimStart_append_of_head hcomma, List.append_assoc]

section Several

variable {w v : List Char} {more : List (List Char)}
  (hnames : ∀ u ∈ w :: v :: more, isIdentifier (Text.trim u) = true)

include hnames

theorem isIdentifier_of_mem_trimStart :
    ∀ u ∈ Text.trimStart w :: v :: more, isIdentifier (Text.trim u) = true := by
  obtain ⟨hfirst, hothers⟩ := List.forall_mem_cons.mp hnames
  refine List.forall_mem_cons.mpr ⟨?_, hothers⟩
  rwa [Text.trim_trimStart]

theorem segments_trim_intercalate :
    (Text.segments (· == ',') (Text.trim ([','].intercalate (w :: v :: more)))).map Text.trim
      = (w :: v :: more).map Text.trim := by
  rw [Text.trim, trimStart_intercalate, segments_trimEnd_intercalate
    (isIdentifier_of_mem_trimStart hnames) (List.cons_ne_nil _ _), List.map_cons,
    Text.trim_trimStart, ← List.map_cons]

end Several

theorem head?_ne_of_fieldsKind? {right : List Char} {kind : NumberKind}
    (h : fieldsKind? (right.filter fun c => !Text.isBlank c) = some kind) :
    right.head? ≠ some '=' := by
  intro hhead
  obtain ⟨rest, rfl⟩ := List.head?_eq_some_iff.mp hhead
  have hnone (rest : List Char) : fieldsKind? ('=' :: rest) = none := by
    simp [fieldsKind?, fieldsText, callText]
  rw [List.filter_cons_of_pos (by decide), hnone] at h
  cases h

/-- An assignment to several names reads fields if its right side says so. -/
theorem Assignment.statement_of_names {a : Assignment} {names : List (List Char)}
    {kind : NumberKind} (hop : a.op = none) (hcomma : ',' ∈ a.left)
    (hnames : (Text.segments (· == ',') a.left).map Text.trim = names)
    (hidentifiers : ∀ name ∈ names, isIdentifier name = true)
    (hkind : fieldsKind? (a.right.filter fun c => !Text.isBlank c) = some kind) :
    a.statement = .readFields names kind := by
  have hall : names.all isIdentifier = true := List.all_eq_true.mpr hidentifiers
  simp [statement, hop, hcomma, hnames, hkind, hall]

/-- **A line with several names and a right side that reads fields** reads a field for each name. -/
theorem acts_fieldsLine {written : List (List Char)} (hseveral : 2 ≤ written.length)
    (hnames : ∀ w ∈ written, isIdentifier (Text.trim w) = true) {right : List Char}
    {kind : NumberKind}
    (hright : fieldsKind? (right.filter fun c => !Text.isBlank c) = some kind) (number : Nat) :
    (Line.ofText number (fieldsLine written right)).Acts
      (.readFields (written.map Text.trim) kind) := by
  obtain ⟨w, v, more, rfl⟩ : ∃ w v more, written = w :: v :: more := by
    match written, hseveral with
    | w :: v :: more, _ => exact ⟨w, v, more, rfl⟩
  have htext : (Line.ofText number (fieldsLine (w :: v :: more) right)).text
      = [','].intercalate (Text.trimStart w :: v :: more) ++ '=' :: Text.trimEnd right := by
    rw [fieldsLine, Line.text_ofText_equals, trimStart_intercalate]
  have hcut := isIdentifier_of_mem_trimStart hnames
  rw [← Text.filter_trimEnd] at hright
  have hsplit := splitAssignment_plain (head?_ne_of_fieldsKind? hright)
    fun c => plain_of_mem_intercalate hcut
  rw [← htext] at hsplit
  -- The first name is at the beginning of the text, and the comma behind it ends it.
  obtain ⟨trail, htrail, hname⟩ := Text.exists_trimEnd_append (Text.trimStart w)
  have hbegins : (Line.ofText number (fieldsLine (w :: v :: more) right)).text = Text.trim w
      ++ (trail ++ ',' :: ([','].intercalate (v :: more) ++ '=' :: Text.trimEnd right)) := by
    rw [htext, List.intercalate_cons_cons, ← hname, Text.trim]
    simp
  have hacts := Line.acts_of_isIdentifier hbegins (hnames w List.mem_cons_self)
    (endsName_of_blank htrail (endsName_cons (by decide) _)) (by simp) hsplit
  have hcomma : ',' ∈ Text.trim ([','].intercalate (Text.trimStart w :: v :: more)) :=
    Text.mem_trim_of_not_isBlank (by decide) (by simp [List.intercalate_cons_cons])
  have hsegments : (Text.segments (· == ',') (Text.trim ([','].intercalate
      (Text.trimStart w :: v :: more)))).map Text.trim = (w :: v :: more).map Text.trim := by
    rw [segments_trim_intercalate hcut, List.map_cons, Text.trim_trimStart, ← List.map_cons]
  have hidentifiers : ∀ name ∈ (w :: v :: more).map Text.trim, isIdentifier name = true :=
    List.forall_mem_map.mpr hnames
  rw [← Text.filter_trim] at hright
  rwa [Assignment.statement_of_names rfl hcomma hsegments hidentifiers hright] at hacts

/-! ### The fields -/

/-- A list split at a place. -/
theorem exists_append_cons_of_lt {α : Type} {n : Nat} {list : List α} (h : n < list.length) :
    ∃ front a behind, list = front ++ a :: behind ∧ front.length = n := by
  refine ⟨list.take n, list[n], list.drop (n + 1), ?_, List.length_take_of_le (Nat.le_of_lt h)⟩
  rw [← List.drop_eq_getElem_cons h, List.take_append_drop]

/-- A field has no blanks. -/
theorem trim_of_mem_words {text field : List Char} (h : field ∈ Text.words text) :
    Text.trim field = field := by
  have hkept := Text.cut_of_mem_segments (List.mem_filter.mp h).1
  exact Text.Trimmed.trim_eq
    ⟨fun c hc => hkept c (List.mem_of_mem_head? hc),
      fun c hc => hkept c (List.mem_of_mem_getLast? hc)⟩

theorem map_read_int {before : List (List Char)} {values : List Int64}
    (hfields : ∀ field ∈ before, Text.trim field = field)
    (h : before.map intLiteral? = values.map some) :
    before.map NumberKind.int.read = (values.map Value.int).map .ok := by
  induction before generalizing values with
  | nil =>
    obtain rfl : values = [] := by simpa using h
    rfl
  | cons field before ih =>
    obtain _ | ⟨i, values⟩ := values
    · cases h
    obtain ⟨hfield, hothers⟩ := List.cons_eq_cons.mp h
    obtain ⟨htrim, hrest⟩ := List.forall_mem_cons.mp hfields
    rw [List.map_cons, ih hrest hothers, NumberKind.read, readInt, htrim, hfield]
    rfl

/-- What the fields of a line that has been read do to names. -/
structure Unpacked (s : State) (names fields : List (List Char)) (e : Ending) : Prop where
  few : fields.length < names.length →
    e = ⟨s, some (.tooFewFields names.length fields.length)⟩
  many : names.length < fields.length → e = ⟨s, some (.tooManyFields names.length)⟩
  /-- Fields that are integers, one for each name. -/
  integers : fields.length = names.length → ∀ values : List Int64,
    fields.map intLiteral? = values.map some →
      e.fault = none ∧ s.Assigned (names.zip (values.map .int)) e.state
  /-- The first field that is none, behind fields that are. -/
  other : fields.length = names.length → ∀ (before : List (List Char)) (values : List Int64) field
    after, fields = before ++ field :: after → before.map intLiteral? = values.map some →
      intLiteral? field = none →
      e.fault = some (.notInteger (String.ofList field)) ∧
        s.Assigned (names.zip (values.map .int)) e.state

/-- **Reading the fields of a line.** -/
theorem unpacked_readFields (s : State) (names : List (List Char)) (line : String) :
    Unpacked s names (Text.words line.toList) (s.readFields names .int line) := by
  have hfields : ∀ field ∈ Text.words line.toList, Text.trim field = field :=
    fun field => trim_of_mem_words
  have hequal (h : (Text.words line.toList).length = names.length) : s.readFields names .int line
      = s.bindFields .int (names.zip (Text.words line.toList)) := by
    rw [State.readFields]
    exact (if_neg (by omega)).trans (if_neg (by omega))
  constructor
  case few => exact fun h => if_pos h
  case many => exact fun h => (if_neg (by omega)).trans (if_pos h)
  case integers =>
    intro hcount values hvalues
    have hbind := State.bindFields_zip_append (s := s) hcount.symm (map_read_int hfields hvalues) []
    rw [List.append_nil] at hbind
    rw [hequal hcount, hbind]
    exact ⟨rfl, State.assigned_bindAll _ _⟩
  case other =>
    intro hcount before values field after hsplit hvalues hfield
    rw [hsplit, List.length_append, List.length_cons] at hcount
    obtain ⟨front, name, behind, rfl, hfront⟩ := exists_append_cons_of_lt (show before.length
      < names.length by omega)
    have hbefore : ∀ other ∈ before, Text.trim other = other :=
      fun other hmem => hfields other (hsplit ▸ List.mem_append_left _ hmem)
    have hread : NumberKind.int.read field = .error (.notInteger (String.ofList field)) := by
      have htrim := hfields field (hsplit ▸ List.mem_append_right _ List.mem_cons_self)
      rw [NumberKind.read, readInt, htrim, hfield]
    -- The names of the fields in front of this one have their values by then.
    have hgifts : (front ++ name :: behind).zip (values.map Value.int)
        = front.zip (values.map .int) := by
      have hlength : front.length = (values.map Value.int).length := by
        have hvalues := congrArg List.length hvalues
        simpa [hfront] using hvalues
      rw [← List.append_nil (values.map Value.int), List.zip_append hlength, List.zip_nil_right,
        List.append_nil, List.append_nil]
    rw [hequal (by simp [hsplit, hcount]), hsplit, List.zip_append hfront, List.zip_cons_cons,
      State.bindFields_zip_append hfront (map_read_int hbefore hvalues), State.bindFields, hread,
      hgifts]
    exact ⟨rfl, State.assigned_bindAll _ _⟩

/-- **A line with several names** reads a line of input and gives each name its field. -/
theorem unpacked_fieldsLine {written : List (List Char)} (hseveral : 2 ≤ written.length)
    (hnames : ∀ w ∈ written, isIdentifier (Text.trim w) = true) {right : List Char}
    (hright : right.filter (fun c => !Text.isBlank c) = "map(int,input().split())".toList ∨
      right.filter (fun c => !Text.isBlank c) = "list(map(int,input().split()))".toList)
    (number : Nat) (s : State) :
    (Line.ofText number (fieldsLine written right)).IsStatement ∧
    (s.unread = [] → (Line.ofText number (fieldsLine written right)).execute s
      = ⟨s, some .endOfInput⟩) ∧
    ∀ line rest, s.unread = line :: rest →
      Unpacked { s with unread := rest, cursor := s.cursor + 1 } (written.map Text.trim)
        (Text.words line.toList) ((Line.ofText number (fieldsLine written right)).execute s) := by
  have hkind : fieldsKind? (right.filter fun c => !Text.isBlank c) = some .int := by
    rcases hright with h | h <;> (rw [h]; decide)
  have hacts := acts_fieldsLine hseveral hnames hkind number
  refine ⟨hacts.toIsStatement, ?_, ?_⟩
  · intro hunread
    rw [hacts.execute_eq, Statement.execute, State.reading, hunread]
  · intro line rest hunread
    rw [hacts.execute_eq, Statement.execute, State.reading, hunread]
    exact unpacked_readFields _ _ line

/-- A name that is read twice has the last of its two fields. -/
theorem unpacked_repeatedName :
    ((2 ≤ [" x".toList, "y ".toList, "x".toList].length) ∧
      (∀ w ∈ [" x".toList, "y ".toList, "x".toList], isIdentifier (Text.trim w) = true) ∧
      (" list( map(int, input () . split()) )".toList.filter fun c => !Text.isBlank c)
        = "list(map(int,input().split()))".toList) ∧
    ∃ e, (Line.ofText 0 (fieldsLine [" x".toList, "y ".toList, "x".toList]
        " list( map(int, input () . split()) )".toList)).execute
          (State.initial ["3  -4 +5", "6"]) = e ∧
      e.fault = none ∧ e.state.unread = ["6"] ∧ e.state.cursor = 1 ∧
      e.state.vars.get? "x" = some (.int 5) ∧ e.state.vars.get? "y" = some (.int (-4)) := by
  have hnames : ∀ w ∈ [" x".toList, "y ".toList, "x".toList], isIdentifier (Text.trim w) = true :=
    List.all_eq_true.mp (by decide)
  have hright : (" list( map(int, input () . split()) )".toList.filter fun c => !Text.isBlank c)
      = "list(map(int,input().split()))".toList := by decide
  have hread := (unpacked_fieldsLine (by decide) hnames (.inr hright) 0
    (State.initial ["3  -4 +5", "6"])).2.2 "3  -4 +5" ["6"] rfl
  obtain ⟨hfault, hassigned⟩ := hread.integers (by decide) [3, -4, 5] (by decide)
  refine ⟨⟨by decide, hnames, hright⟩, _, rfl, hfault, ?_, ?_, ?_, ?_⟩
  · rw [hassigned.unchanged]
  · rw [hassigned.unchanged]
    rfl
  · exact hassigned.given [(_, _), (_, _)] "x".toList _ [] rfl (by simp)
  · exact hassigned.given [(_, _)] "y".toList _ [(_, _)] rfl (by decide)

end Autograder.Guest
