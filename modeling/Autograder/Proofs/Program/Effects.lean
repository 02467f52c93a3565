import Autograder.Proofs.Program.Order

/-!
# What a statement does to the names

A statement reads a line, prints a line or gives values to names. `Statement.Gives` lists the values
that it can give and the names that it gives them to, one constructor for each form of statement.
Whatever a name has as its value after a statement, it had before or the statement gave it
(`get?_execute`), so a property of all names and values is kept by a run if it holds of what the
statements give. `Moment.Reaches.invariant` says this for runs: the run may come to a moment only
through statements that stand on lines of its program.

## Main definitions

* `Statement.names` — the names that a statement gives values to
* `Statement.Gives` — the values that it gives them
* `State.bindAll`, `State.Assigned` — values given one after another
* `Moment.Executes` — a moment whose step executes a statement

## Main results

* `get?_execute` — every value was there before or is given
* `State.assigned_bindAll` — of the values given to a name it has the last
* `isIdentifier_of_mem_names` — a statement on a line gives values to identifiers only
* `Moment.Reaches.mem_program` — what is run are lines of the program
* `Moment.invariant_step`, `Moment.Reaches.invariant` — what the statements of a run keep holds at
  every moment
-/

namespace Autograder.Guest

/-! ### Names -/

/-- The names that a statement gives values to. -/
def Statement.names : Statement → List (List Char)
  | readFields names _ => names
  | readNumber name _ | readLine name _ | assign name _ _ => [name]
  | print _ | ignored => []

theorem Assignment.isIdentifier_of_mem_names {a : Assignment} {name : List Char}
    (h : name ∈ a.statement.names) : isIdentifier name = true := by
  -- Each form is behind a test of its name, or of all its names.
  rw [Assignment.statement] at h
  dsimp only at h
  split at h
  · split at h
    · split at h
      · rename_i hall
        exact List.all_eq_true.mp hall name h
      · simp [Statement.names] at h
    · simp [Statement.names] at h
  split at h
  · simp [Statement.names] at h
  rename_i hleft
  have hname : name = a.left := by
    split at h
    · simpa [Statement.names] using h
    split at h
    · simpa [Statement.names] using h
    split at h
    · simpa [Statement.names] using h
    split at h
    · simpa [Statement.names] using h
    · simpa [Statement.names] using h
  rw [hname]
  simpa using hleft

/-- **Only identifiers get values.** -/
theorem isIdentifier_of_mem_names {text name : List Char}
    (h : name ∈ (Statement.ofText text).names) : isIdentifier name = true := by
  rw [Statement.ofText] at h
  split at h
  · simp [Statement.names] at h
  split at h
  · exact Assignment.isIdentifier_of_mem_names h
  · simp [Statement.names] at h

/-! ### Values -/

/-- The statement, executed in the state, may give the name this value. -/
inductive Statement.Gives (s : State) : Statement → List Char → Value → Prop
  | field {names kind name text v} : name ∈ names → kind.read text = .ok v →
      Gives s (.readFields names kind) name v
  | number {name kind text v} : kind.read text = .ok v → Gives s (.readNumber name kind) name v
  | line {name trimmed line rest} : s.unread = line :: rest →
      Gives s (.readLine name trimmed) name
        (.str (if trimmed then String.ofList (Text.trim line.toList) else line))
  | value {name expression v} : evaluate s.vars expression = .ok v →
      Gives s (.assign name none expression) name v
  | joined {name op expression old v new} : s.vars.get? (String.ofList name) = some old →
      evaluate s.vars expression = .ok v → old.binary op v = .ok new →
      Gives s (.assign name (some op) expression) name new

theorem Statement.Gives.mem_names {s : State} {statement : Statement} {name : List Char}
    {v : Value} (h : statement.Gives s name v) : name ∈ statement.names := by
  cases h with
  | field hmem => exact hmem
  | number | line | value | joined => exact List.mem_singleton_self _

section Bindings

variable {s : State} {n : String} {v : Value}

theorem get?_bind {name : List Char} {w : Value} (h : (s.bind name w).vars.get? n = some v) :
    s.vars.get? n = some v ∨ n = String.ofList name ∧ w = v := by
  rw [State.bind, Table.get?_insert] at h
  split at h
  · rename_i hname
    exact .inr ⟨hname.symm, Option.some.inj h⟩
  · exact .inl h

/-- What binding a number to each name leaves behind. -/
theorem get?_bindFields {kind : NumberKind} {fields : List (List Char × List Char)}
    (h : (s.bindFields kind fields).state.vars.get? n = some v) :
    s.vars.get? n = some v ∨
      ∃ field ∈ fields, n = String.ofList field.1 ∧ kind.read field.2 = .ok v := by
  induction fields generalizing s with
  | nil => exact .inl h
  | cons field fields ih =>
    rw [State.bindFields] at h
    cases hread : kind.read field.2 with
    | error f =>
      rw [hread] at h
      exact .inl h
    | ok w =>
      rw [hread] at h
      rcases ih h with hbound | ⟨other, hmem, hgiven⟩
      · rcases get?_bind hbound with hold | ⟨hname, rfl⟩
        · exact .inl hold
        · exact .inr ⟨field, List.mem_cons_self, hname, hread⟩
      · exact .inr ⟨other, List.mem_cons_of_mem _ hmem, hgiven⟩

/-- Printing changes no value. -/
theorem vars_print (s : State) (line : String) : (s.print line).state.vars = s.vars := by
  rw [State.print]
  split <;> rfl

/-- Behind a value, the state is the one before or the one that the value leads to. -/
theorem get?_withValue {α : Type} {result : Except Fault α} {next : α → Ending}
    (h : (s.withValue result next).state.vars.get? n = some v) :
    s.vars.get? n = some v ∨ ∃ a, result = .ok a ∧ (next a).state.vars.get? n = some v := by
  cases result with
  | ok a => exact .inr ⟨a, rfl, h⟩
  | error f => exact .inl h

/-- Behind a read, the state is the one before or the one that the line leads to. -/
theorem get?_reading {next : State → String → Ending}
    (h : (s.reading next).state.vars.get? n = some v) :
    s.vars.get? n = some v ∨ ∃ line rest, s.unread = line :: rest ∧
      (next { s with unread := rest, cursor := s.cursor + 1 } line).state.vars.get? n = some v := by
  rw [State.reading] at h
  split at h
  · exact .inl h
  · rename_i line rest hunread
    exact .inr ⟨line, rest, hunread, h⟩

theorem get?_readFields {names : List (List Char)} {kind : NumberKind} {line : String}
    (h : (s.readFields names kind line).state.vars.get? n = some v) :
    s.vars.get? n = some v ∨
      ∃ name ∈ names, ∃ text, n = String.ofList name ∧ kind.read text = .ok v := by
  rw [State.readFields] at h
  split at h
  · exact .inl h
  split at h
  · exact .inl h
  refine (get?_bindFields h).imp id ?_
  rintro ⟨field, hmem, hname, hread⟩
  exact ⟨field.1, (List.of_mem_zip hmem).1, field.2, hname, hread⟩

/-- **Every value was there before or is given.** -/
theorem get?_execute {statement : Statement}
    (h : (statement.execute s).state.vars.get? n = some v) :
    s.vars.get? n = some v ∨ ∃ name, n = String.ofList name ∧ statement.Gives s name v := by
  cases statement with
  | print arguments =>
    rcases get?_withValue h with hold | ⟨line, -, hprinted⟩
    · exact .inl hold
    · rw [vars_print] at hprinted
      exact .inl hprinted
  | readFields names kind =>
    rcases get?_reading h with hold | ⟨line, rest, -, hread⟩
    · exact .inl hold
    · rcases get?_readFields hread with hold | ⟨name, hmem, text, hname, hvalue⟩
      · exact .inl hold
      · exact .inr ⟨name, hname, .field hmem hvalue⟩
  | readNumber name kind =>
    rcases get?_reading h with hold | ⟨line, rest, -, hread⟩
    · exact .inl hold
    · rcases get?_withValue hread with hold | ⟨w, hvalue, hbound⟩
      · exact .inl hold
      · rcases get?_bind hbound with hold | ⟨hname, rfl⟩
        · exact .inl hold
        · exact .inr ⟨name, hname, .number hvalue⟩
  | readLine name trimmed =>
    rcases get?_reading h with hold | ⟨line, rest, hunread, hbound⟩
    · exact .inl hold
    · rcases get?_bind hbound with hold | ⟨hname, rfl⟩
      · exact .inl hold
      · exact .inr ⟨name, hname, .line hunread⟩
  | assign name op expression =>
    cases op with
    | none =>
      rcases get?_withValue h with hold | ⟨w, hvalue, hbound⟩
      · exact .inl hold
      · rcases get?_bind hbound with hold | ⟨hname, rfl⟩
        · exact .inl hold
        · exact .inr ⟨name, hname, .value hvalue⟩
    | some op =>
      rcases get?_withValue h with hold | ⟨w, hvalue, hnext⟩
      · exact .inl hold
      · split at hnext
        · exact .inl hnext
        · rename_i old hget
          rcases get?_withValue hnext with hold | ⟨new, hbinary, hbound⟩
          · exact .inl hold
          · rcases get?_bind hbound with hold | ⟨hname, rfl⟩
            · exact .inl hold
            · exact .inr ⟨name, hname, .joined hget hvalue hbinary⟩
  | ignored => exact .inl h

end Bindings

/-! ### Values given one after another -/

namespace State

/-- Gives each name its value, from left to right. -/
def bindAll (s : State) (gifts : List (List Char × Value)) : State :=
  gifts.foldl (fun s gift => s.bind gift.1 gift.2) s

/-- The second state is the first with these values given one after another. -/
structure Assigned (s : State) (gifts : List (List Char × Value)) (s' : State) : Prop where
  /-- A name has the value that was given to it last. -/
  given : ∀ before name v after, gifts = before ++ (name, v) :: after →
    (∀ gift ∈ after, gift.1 ≠ name) → s'.vars.get? (String.ofList name) = some v
  /-- Other names are as they were. -/
  kept : ∀ n, (∀ gift ∈ gifts, String.ofList gift.1 ≠ n) → s'.vars.get? n = s.vars.get? n
  /-- Nothing else changes. -/
  unchanged : s' = { s with vars := s'.vars }

variable {s : State} {gifts : List (List Char × Value)}

theorem get?_bindAll_of_ne {n : String} (h : ∀ gift ∈ gifts, String.ofList gift.1 ≠ n) :
    (s.bindAll gifts).vars.get? n = s.vars.get? n := by
  induction gifts generalizing s with
  | nil => rfl
  | cons gift gifts ih =>
    have hbind : (s.bind gift.1 gift.2).vars.get? n = s.vars.get? n := by
      rw [bind, Table.get?_insert, if_neg (h gift List.mem_cons_self)]
    exact (ih fun other hother => h other (List.mem_cons_of_mem _ hother)).trans hbind

theorem bindAll_unchanged : s.bindAll gifts = { s with vars := (s.bindAll gifts).vars } := by
  induction gifts generalizing s with
  | nil => rfl
  | cons gift gifts ih => exact ih

/-- **The last value given to a name is its value.** -/
theorem assigned_bindAll (s : State) (gifts : List (List Char × Value)) :
    s.Assigned gifts (s.bindAll gifts) where
  given before name v after hgifts hlast := by
    rw [hgifts, bindAll, List.foldl_append, List.foldl_cons]
    refine (get?_bindAll_of_ne fun gift hgift => ?_).trans ?_
    · exact fun heq => hlast gift hgift (String.ofList_injective heq)
    · rw [bind, Table.get?_insert, if_pos rfl]
  kept _ hnames := get?_bindAll_of_ne hnames
  unchanged := bindAll_unchanged

/-- Fields that are numbers of the kind give them to their names. -/
theorem bindFields_zip_append {kind : NumberKind} {names fields : List (List Char)}
    {values : List Value} (hcount : names.length = fields.length)
    (hread : fields.map kind.read = values.map .ok) (rest : List (List Char × List Char)) :
    s.bindFields kind (names.zip fields ++ rest)
      = (s.bindAll (names.zip values)).bindFields kind rest := by
  induction names generalizing s fields values with
  | nil => rfl
  | cons name names ih =>
    obtain _ | ⟨field, fields⟩ := fields
    · cases hcount
    obtain _ | ⟨v, values⟩ := values
    · cases hread
    obtain ⟨hfield, hfields⟩ := List.cons_eq_cons.mp hread
    rw [List.zip_cons_cons, List.cons_append, bindFields, hfield]
    exact ih (Nat.succ.inj hcount) hfields

end State

/-! ### Invariants of a run -/

@[simp] theorem State.vars_check (s : State) : s.check.vars = s.vars := rfl

@[simp] theorem State.vars_visit (s : State) (line : Line) : (s.visit line).vars = s.vars := rfl

/-- Choosing a branch changes nothing but what the state notes about the run. -/
theorem bare_choose (s : State) (branches : List Branch) : (choose s branches).1.bare = s.bare := by
  fun_induction choose s branches with
  | case1 | case2 | case3 | case4 => rfl
  | case5 s branch rest guard hg he ih => exact ih

/-- The body that a chain chooses is made of its lines. -/
theorem subset_of_choose {s s' : State} {branches : List Branch} {body : List Line}
    (h : choose s branches = (s', .ok body)) : body ⊆ branches.flatMap Branch.lines := by
  fun_induction choose s branches with
  | case1 s =>
    obtain ⟨-, hbody⟩ := Prod.mk.inj h
    obtain rfl : [] = body := Except.ok.inj hbody
    exact List.nil_subset _
  | case2 s branch rest hg =>
    obtain ⟨-, hbody⟩ := Prod.mk.inj h
    obtain rfl : branch.body = body := Except.ok.inj hbody
    intro line hline
    rw [List.flatMap_cons]
    exact List.mem_append_left _ (List.mem_cons_of_mem _ hline)
  | case3 s branch rest guard hg f he =>
    obtain ⟨-, hbody⟩ := Prod.mk.inj h
    exact absurd hbody (by simp)
  | case4 s branch rest guard hg he =>
    obtain ⟨-, hbody⟩ := Prod.mk.inj h
    obtain rfl : branch.body = body := Except.ok.inj hbody
    intro line hline
    rw [List.flatMap_cons]
    exact List.mem_append_left _ (List.mem_cons_of_mem _ hline)
  | case5 s branch rest guard hg he ih =>
    rw [List.flatMap_cons]
    exact List.subset_append_of_subset_right _ (ih h)

namespace Moment

/-- The lines that are left to be run. -/
def lines : Moment → List Line
  | running _ blocks => blocks.flatten
  | ended _ => []

theorem lines_behind_subset (e : Ending) (blocks : List (List Line)) :
    (behind e blocks).lines ⊆ blocks.flatten := by
  rw [behind]
  split
  · exact List.Subset.refl _
  · exact List.nil_subset _

/-- No step brings in a line. -/
theorem lines_step_subset (stop : StopFrom) (m : Moment) : (m.step stop).lines ⊆ m.lines := by
  fun_cases step stop m with
  | case1 | case2 | case5 | case6 => exact List.nil_subset _
  | case3 => exact List.Subset.refl _
  | case4 s line rest blocks => exact List.subset_cons_self line (rest ++ blocks.flatten)
  | case7 s line rest blocks _ _ guard _ s' body hc =>
    have hbody := subset_of_choose hc
    have hchain := lines_chain line guard rest
    intro next hnext
    simp only [lines, List.flatten_cons, List.mem_append] at hnext ⊢
    rw [← hchain, List.mem_append]
    rcases hnext with h | h | h
    · exact .inl (.inl (hbody h))
    · exact .inl (.inr h)
    · exact .inr h
  | case8 s line rest blocks =>
    refine List.Subset.trans (lines_behind_subset _ _) ?_
    rw [List.flatten_cons]
    exact List.subset_cons_self line (rest ++ blocks.flatten)

/-- **What is run are lines of the program.** -/
theorem Reaches.mem_program {stop : StopFrom} {code input : List Char} {m : Moment}
    (h : (start code input).Reaches stop m) {line : Line} (hline : line ∈ m.lines) :
    line ∈ Line.ofCode code := by
  induction h with
  | refl => simpa [start, lines] using hline
  | tail _ hstep ih =>
    rw [← hstep] at hline
    exact ih (lines_step_subset stop _ hline)

/-- The step of the moment executes the statement on this line in this state. -/
structure Executes (stop : StopFrom) (m : Moment) (s : State) (line : Line) : Prop where
  comes_next : ∃ rest blocks, m = running s ((line :: rest) :: blocks)
  significant : line.isSignificant = true
  goes_on : s.isStopped stop = false
  opens_no_chain : ∀ guard, Header.ofText? line.text ≠ some (.opening guard)

theorem Executes.state_step {stop : StopFrom} {m : Moment} {s : State} {line : Line}
    (h : m.Executes stop s line) :
    (m.step stop).state = ((Statement.ofText line.text).execute (s.check.visit line)).state := by
  obtain ⟨rest, blocks, rfl⟩ := h.comes_next
  rw [step_statement h.significant h.goes_on h.opens_no_chain, state_behind]

/-- The step of a significant line that is no header. -/
theorem step_of_ofText {s : State} {line : Line} {rest : List Line}
    {statement : Statement} (hsignificant : line.isSignificant = true)
    (hheader : Header.ofText? line.text = none)
    (hstatement : Statement.ofText line.text = statement) (blocks : List (List Line)) :
    (running s ((line :: rest) :: blocks)).step none
      = behind (statement.execute (s.check.visit line)) (rest :: blocks) := by
  rw [step_statement hsignificant rfl (by simp [hheader]), hstatement]

/-- The line that makes a line of input the value of `x`. -/
theorem ofText_input : Statement.ofText "x = input()".toList = .readLine ['x'] false := by
  decide

/-- A program that begins with it has its line of input as `x` after one step. -/
theorem step_input (s : String) (rest : List Line) :
    (running (State.initial [s]) [⟨0, 0, "x = input()".toList⟩ :: rest]).step none
      = running ⟨Table.insert .empty "x" (.str s), [], 1, [], 0, 1, [0]⟩ [rest] := by
  have hheader : Header.ofText? "x = input()".toList = none := by decide
  rw [step_of_ofText rfl hheader ofText_input]
  rfl

section Invariants

variable {P : State → Prop} (hbare : ∀ s s' : State, s'.bare = s.bare → P s → P s')

include hbare

/-- **What the statement of a moment keeps, its step keeps,** if it does not depend on what a state
notes about the run. -/
theorem invariant_step {stop : StopFrom} {m : Moment}
    (hexecute : ∀ {s line}, m.Executes stop s line → P (s.check.visit line) →
      P ((Statement.ofText line.text).execute (s.check.visit line)).state)
    (hm : P m.state) : P (m.step stop).state := by
  fun_cases step stop m with
  | case1 | case2 | case3 | case4 => exact hm
  | case5 s => exact hbare s s.check rfl hm
  | case6 s line rest blocks _ _ guard _ s' f hc =>
    exact hbare s s' ((congrArg (fun r => r.1.bare) hc).symm.trans (bare_choose s.check _)) hm
  | case7 s line rest blocks _ _ guard _ s' body hc =>
    exact hbare s s' ((congrArg (fun r => r.1.bare) hc).symm.trans (bare_choose s.check _)) hm
  | case8 s line rest blocks hi hstopped hl =>
    rw [state_behind]
    have hexecutes : (running s ((line :: rest) :: blocks)).Executes stop s line :=
      ⟨⟨rest, blocks, rfl⟩, by simpa using hi, Bool.not_eq_true _ ▸ hstopped, hl⟩
    exact hexecute hexecutes (hbare s (s.check.visit line) rfl hm)

/-- **What the statements of a run keep holds at every moment.** The statements are those that the
run executes. -/
theorem Reaches.invariant {stop : StopFrom} {m₀ m : Moment} (h : m₀.Reaches stop m)
    (hexecute : ∀ {m s line}, m₀.Reaches stop m → m.Executes stop s line →
      P (s.check.visit line) →
      P ((Statement.ofText line.text).execute (s.check.visit line)).state)
    (hstart : P m₀.state) : P m.state := by
  induction h with
  | refl => exact hstart
  | tail hm hstep ih =>
    rw [← hstep]
    exact invariant_step hbare (hexecute hm) ih

end Invariants

end Moment

end Autograder.Guest
