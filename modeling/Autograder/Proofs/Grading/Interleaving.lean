import Autograder.Proofs.Grading.Sessions
import Autograder.Proofs.Grading.Steps

/-!
# Interleaved gradings

Any number of calls are graded at once, and the store is read in between. What happens is a row of
moves in any order: a call takes its next step, or somebody reads the store. All calls share one
session. They meet there in two ways, through the submissions that are kept and through the number
of runs that the runner was asked for.

The first is followed by a log of what happened to the store. One invariant, `World.Orderly`, says
that the log is right: the store is that of the submissions recorded in it, each call that was
answered with one has it there once, and whatever was read is what the records before it determine.
Nothing is asked of the runner for this. The second can show in the answers only, and if the runner
is steady it does not: every move keeps `Phase.AsAlone` for every call.

## Main definitions

* `Query`, `Finding` — what the store is asked, and what it answers
* `World`, `Move`, `Grader.interleave` — calls at work in one session, and the moves they make
* `World.Orderly` — the log says what happened to the store

## Main results

* `World.Orderly.move`, `World.Orderly.interleave` — one move and all moves keep the log right
* `Grader.stepsLeft_interleave` — a call that is given its steps is answered
* `Grader.interleave_isolated` — gradings at once do not disturb each other
-/

namespace Autograder

/-! ### Reading the store -/

/-- What the store can be asked. -/
inductive Query where
  | submission (id : Uuid)
  | latest (attempt question : String)
  | attempt (attempt : String)
  | size
deriving DecidableEq

/-- What the store answers. -/
inductive Finding where
  | found (submission : Option Submission)
  | listed (submissions : List Submission)
  | counted (n : Nat)
deriving DecidableEq

def Store.answer (store : Store) : Query → Finding
  | .submission id => .found (store.get? id)
  | .latest attempt question => .found (store.latest? attempt question)
  | .attempt attempt => .listed (store.forAttempt attempt)
  | .size => .counted store.size

/-! ### Moves -/

/-- One call goes on by a step, or the store is read. -/
inductive Move (ι : Type) where
  | advance (i : ι)
  | read (query : Query)
deriving DecidableEq

/-- What happens to the store. -/
inductive Event (ι : Type) where
  | recorded (i : ι) (s : Submission)
  | read (query : Query) (finding : Finding)

/-- Calls at work in one session. -/
structure World (ι : Type) where
  session : Session
  phase : ι → Phase
  /-- What has happened to the store, the earliest first. -/
  log : List (Event ι)

section Logs

variable {ι : Type}

/-- What a move asks the store. -/
def Move.query? : Move ι → Option Query
  | advance _ => none
  | read query => some query

namespace Event

/-- The submission that was recorded, and the call that it is from. -/
def record? : Event ι → Option (ι × Submission)
  | recorded i s => some (i, s)
  | read _ _ => none

def query? : Event ι → Option Query
  | recorded _ _ => none
  | read query _ => some query

end Event

/-- The records in a log, in order. -/
def records (log : List (Event ι)) : List (ι × Submission) :=
  log.filterMap Event.record?

/-- The submissions that the store was given, first those of the past and then those of a log. -/
def historyAfter (past : List Submission) (log : List (Event ι)) : List Submission :=
  past ++ (records log).map Prod.snd

theorem records_append (log log' : List (Event ι)) :
    records (log ++ log') = records log ++ records log' :=
  List.filterMap_append

/-- Calls of which nothing is done yet. -/
def World.start (past : List Submission) (activity : Activity) : World ι :=
  ⟨⟨Store.ofHistory past, activity⟩, fun _ => .issued, []⟩

end Logs

/-- The submission that a call has kept. -/
def Phase.kept? : Phase → Option Submission
  | answered (.ok response) => some response.submission
  | _ => none

namespace Grader

variable {ι : Type} [DecidableEq ι] (grader : Grader) (tasks : ι → Task)

/-- What a move makes of the world. -/
def move (w : World ι) : Move ι → World ι
  | .advance i =>
    let next := grader.advance (tasks i) (w.phase i, w.session)
    { session := next.2
      phase := Function.update w.phase i next.1
      log := w.log ++ ((w.phase i).keeping? (tasks i)).toList.map (Event.recorded i) }
  | .read query => { w with log := w.log ++ [.read query (w.session.store.answer query)] }

/-- What moves make of the world, one after another. -/
def interleave (w : World ι) (moves : List (Move ι)) : World ι :=
  moves.foldl (grader.move tasks) w

end Grader

/-! ### The store -/

section Keeping

variable {grader : Grader} {task : Task} {phase : Phase} {session : Session}

/-- A step changes the store if it keeps a submission, and not otherwise. -/
theorem Grader.store_advance :
    (grader.advance task (phase, session)).2.store =
      (phase.keeping? task).elim session.store session.store.record := by
  cases phase with
  | issued =>
    obtain ⟨_, _, h⟩ | ⟨_, _, ⟨_, _, h⟩ | ⟨_, h⟩⟩ := grader.advance_issued task session <;>
      rw [h] <;> rfl
  | judging supported p left => cases left <;> rfl
  | judged supported graded => rfl
  | answered answer => rfl

/-- What a call has kept after a step, it kept before or by this step. -/
theorem Grader.kept?_advance :
    (grader.advance task (phase, session)).1.kept? = phase.kept?.or (phase.keeping? task) := by
  cases phase with
  | issued =>
    obtain ⟨_, _, h⟩ | ⟨_, _, ⟨_, _, h⟩ | ⟨_, h⟩⟩ := grader.advance_issued task session <;>
      rw [h] <;> rfl
  | judging supported p left => cases left <;> rfl
  | judged supported graded => rfl
  | answered answer => cases answer <;> rfl

/-- A call keeps one submission only, and under the identifier that it was given. -/
theorem Phase.of_keeping? {s : Submission} (h : phase.keeping? task = some s) :
    phase.kept? = none ∧ s.id = task.stamp.id := by
  cases phase with
  | judged supported graded =>
    obtain rfl := Option.some.inj h
    exact ⟨rfl, rfl⟩
  | issued | judging | answered => exact absurd h (Option.some_ne_none s).symm

end Keeping

/-- **The log says what happened to the store.** -/
structure World.Orderly {ι : Type} (tasks : ι → Task) (past : List Submission) (w : World ι) :
    Prop where
  /-- The store is that of the submissions recorded one after another. -/
  store : w.session.store = Store.ofHistory (historyAfter past w.log)
  /-- What was recorded for a call is what it answered. Nothing is lost and nothing is made up. -/
  recorded : ∀ i s, (i, s) ∈ records w.log ↔ (w.phase i).kept? = some s
  /-- Nothing is recorded twice. -/
  once : ((records w.log).map Prod.fst).Nodup
  stamped : ∀ r ∈ records w.log, r.2.id = (tasks r.1).stamp.id
  /-- What was read is what the records before it determine. -/
  reads : ∀ before query finding after, w.log = before ++ .read query finding :: after →
    finding = (Store.ofHistory (historyAfter past before)).answer query

namespace World

variable {ι : Type} {tasks : ι → Task} {past : List Submission} {w : World ι}

theorem orderly_start (activity : Activity) :
    (World.start past activity).Orderly tasks past where
  store := (congrArg Store.ofHistory (List.append_nil past)).symm
  recorded i s := by simp [start, records, Phase.kept?]
  once := List.nodup_nil
  stamped r hr := absurd hr List.not_mem_nil
  reads before query finding after hlog := by simp [start] at hlog

/-- Reads in a longer log: those of the shorter, and the last event if it is one. -/
theorem Orderly.reads_concat (h : w.Orderly tasks past) {event : Event ι}
    (hevent : ∀ query finding, event = .read query finding →
      finding = w.session.store.answer query)
    {before after : List (Event ι)} {query : Query} {finding : Finding}
    (hlog : w.log ++ [event] = before ++ .read query finding :: after) :
    finding = (Store.ofHistory (historyAfter past before)).answer query := by
  rcases List.eq_nil_or_concat after with rfl | ⟨after, last, rfl⟩
  · obtain ⟨rfl, hlast⟩ := List.append_inj' hlog rfl
    rw [← h.store]
    exact hevent query finding (List.singleton_inj.mp hlast)
  · rw [List.concat_eq_append, ← List.cons_append, ← List.append_assoc] at hlog
    exact h.reads before query finding after (List.append_inj' hlog rfl).1

/-- A log stays right as long as nothing is recorded. -/
theorem Orderly.of_records_eq (h : w.Orderly tasks past) {w' : World ι}
    (hstore : w'.session.store = w.session.store) (hrecords : records w'.log = records w.log)
    (hkept : ∀ i, (w'.phase i).kept? = (w.phase i).kept?)
    (hreads : ∀ before query finding after, w'.log = before ++ .read query finding :: after →
      finding = (Store.ofHistory (historyAfter past before)).answer query) :
    w'.Orderly tasks past where
  store := by rw [hstore, h.store, historyAfter, historyAfter, hrecords]
  recorded i s := by
    rw [hrecords, hkept]
    exact h.recorded i s
  once := by
    rw [hrecords]
    exact h.once
  stamped := by
    rw [hrecords]
    exact h.stamped
  reads := hreads

/-- A call that keeps its submission and records it leaves the log right: it has recorded nothing
before. -/
theorem Orderly.keeping [DecidableEq ι] (h : w.Orderly tasks past) {w' : World ι} {i : ι}
    {s : Submission} (hkeeping : (w.phase i).keeping? (tasks i) = some s)
    (hstore : w'.session.store = w.session.store.record s)
    (hlog : w'.log = w.log ++ [.recorded i s])
    (hkept : ∀ j, (w'.phase j).kept? = if j = i then some s else (w.phase j).kept?) :
    w'.Orderly tasks past := by
  obtain ⟨hnone, hid⟩ := Phase.of_keeping? hkeeping
  have hrecords : records w'.log = records w.log ++ [(i, s)] := by
    rw [hlog, records_append]
    rfl
  -- The call has kept nothing so far, so by the invariant nothing is recorded for it.
  have hnew (t : Submission) : (i, t) ∉ records w.log := by
    rw [h.recorded, hnone]
    exact (Option.some_ne_none t).symm
  refine ⟨?_, fun j t => ?_, ?_, fun r hr => ?_, fun before query finding after hreads => ?_⟩
  · rw [hstore, h.store, historyAfter, historyAfter, hrecords, List.map_append,
      ← List.append_assoc]
    exact (Store.ofHistory_concat _ s).symm
  · rw [hrecords, List.mem_append, List.mem_singleton, hkept]
    by_cases hj : j = i
    · subst hj
      simp [hnew t, eq_comm]
    · simp [hj, h.recorded]
  · rw [hrecords, List.map_append, List.nodup_append]
    refine ⟨h.once, List.nodup_singleton _, fun j hj k hk => ?_⟩
    obtain ⟨⟨j, t⟩, hr, rfl⟩ := List.mem_map.mp hj
    obtain rfl := List.mem_singleton.mp hk
    rintro rfl
    exact hnew t hr
  · rw [hrecords, List.mem_append, List.mem_singleton] at hr
    rcases hr with hr | rfl
    · exact h.stamped r hr
    · exact hid
  · rw [hlog] at hreads
    exact h.reads_concat (by rintro _ _ ⟨⟩) hreads

variable [DecidableEq ι] {grader : Grader}

/-- **One move** keeps the log right. -/
theorem Orderly.move (h : w.Orderly tasks past) (m : Move ι) :
    (grader.move tasks w m).Orderly tasks past := by
  cases m with
  | read query =>
    refine h.of_records_eq rfl ?_ (fun _ => rfl) fun before _ _ _ hlog => ?_
    · rw [Grader.move, records_append]
      exact List.append_nil _
    · exact h.reads_concat (by rintro _ _ ⟨⟩; rfl) hlog
  | advance i =>
    have hstore := @Grader.store_advance grader (tasks i) (w.phase i) w.session
    have hkept (j : ι) : ((grader.move tasks w (.advance i)).phase j).kept? =
        if j = i then (w.phase i).kept?.or ((w.phase i).keeping? (tasks i))
        else (w.phase j).kept? := by
      rw [Grader.move]
      dsimp only
      rw [Function.update_apply, apply_ite Phase.kept?, Grader.kept?_advance]
    cases hkeeping : (w.phase i).keeping? (tasks i) with
    | none =>
      rw [hkeeping] at hstore hkept
      have hlog : (grader.move tasks w (.advance i)).log = w.log := by
        rw [Grader.move, hkeeping]
        exact List.append_nil _
      refine h.of_records_eq hstore (congrArg records hlog) (fun j => ?_) ?_
      · rw [hkept, Option.or_none]
        split
        · rename_i hj
          rw [hj]
        · rfl
      · rw [hlog]
        exact h.reads
    | some s =>
      rw [hkeeping] at hstore hkept
      rw [(Phase.of_keeping? hkeeping).1, Option.none_or] at hkept
      refine h.keeping hkeeping hstore ?_ hkept
      rw [Grader.move, hkeeping]
      rfl

/-- **All moves** keep the log right. -/
theorem Orderly.interleave (h : w.Orderly tasks past) (moves : List (Move ι)) :
    (grader.interleave tasks w moves).Orderly tasks past := by
  induction moves generalizing w with
  | nil => exact h
  | cons m moves ih => exact ih (h.move m)

omit [DecidableEq ι] in
/-- Where all identifiers are new and differ, those in the store do. -/
theorem Orderly.nodup_ids (h : w.Orderly tasks past) (hpast : (past.map Submission.id).Nodup)
    (hstamps : Function.Injective fun i => (tasks i).stamp.id)
    (hnew : ∀ i, (tasks i).stamp.id ∉ past.map Submission.id) :
    ((historyAfter past w.log).map Submission.id).Nodup := by
  have hids : ((records w.log).map Prod.snd).map Submission.id =
      ((records w.log).map Prod.fst).map fun i => (tasks i).stamp.id := by
    rw [List.map_map, List.map_map]
    exact List.map_congr_left h.stamped
  rw [historyAfter, List.map_append, hids, List.nodup_append]
  refine ⟨hpast, h.once.map hstamps, fun id hid id' hid' => ?_⟩
  obtain ⟨i, _, rfl⟩ := List.mem_map.mp hid'
  rintro rfl
  exact hnew i hid

end World

/-! ### The calls -/

namespace Grader

variable {ι : Type} [DecidableEq ι] {grader : Grader} {tasks : ι → Task}

/-- A move does to a call what its step does, or nothing. -/
theorem phase_move (w : World ι) (m : Move ι) (i : ι) :
    (grader.move tasks w m).phase i =
      if m = .advance i then (grader.advance (tasks i) (w.phase i, w.session)).1
      else w.phase i := by
  cases m with
  | read query => rfl
  | advance j =>
    by_cases hij : j = i
    · subst hij
      rw [if_pos rfl]
      exact Function.update_self _ _ _
    · rw [if_neg fun h => hij (Move.advance.inj h)]
      exact Function.update_of_ne (Ne.symm hij) _ _

/-- Calls that have come so far as they do alone go on as they do alone, whatever the moves are. -/
theorem asAlone_interleave (hrunner : grader.runner.Steady) {w : World ι}
    (h : ∀ i, (w.phase i).AsAlone grader (tasks i)) (moves : List (Move ι)) (i : ι) :
    ((grader.interleave tasks w moves).phase i).AsAlone grader (tasks i) := by
  induction moves generalizing w with
  | nil => exact h i
  | cons m moves ih =>
    refine ih fun j => ?_
    rw [phase_move]
    split
    · exact (h j).advance hrunner w.session
    · exact h j

/-- **A call has fewer steps left** by as many as it was given. -/
theorem stepsLeft_interleave (w : World ι) (moves : List (Move ι)) (i : ι) :
    ((grader.interleave tasks w moves).phase i).stepsLeft (tasks i) ≤
      (w.phase i).stepsLeft (tasks i) - moves.count (.advance i) := by
  induction moves generalizing w with
  | nil => exact Nat.le_refl _
  | cons m moves ih =>
    refine Nat.le_trans (ih _) ?_
    rw [phase_move, List.count_cons]
    by_cases hm : m = .advance i
    · have hstep := grader.stepsLeft_advance (tasks i) (w.phase i) w.session
      rw [if_pos hm, if_pos (beq_iff_eq.mpr hm)]
      omega
    · rw [if_neg hm, if_neg (mt beq_iff_eq.mp hm)]
      exact Nat.le_refl _

/-- Whatever the store is asked is in the log, in order. -/
theorem queries_interleave (w : World ι) (moves : List (Move ι)) :
    (grader.interleave tasks w moves).log.filterMap Event.query? =
      w.log.filterMap Event.query? ++ moves.filterMap Move.query? := by
  induction moves generalizing w with
  | nil => exact (List.append_nil _).symm
  | cons m moves ih =>
    refine (ih _).trans ?_
    cases m with
    | read query =>
      rw [move, List.filterMap_append, List.append_assoc]
      rfl
    | advance i =>
      rw [move, List.filterMap_append, List.append_assoc]
      cases (w.phase i).keeping? (tasks i) <;> rfl

/-! ### Gradings at once -/

/-- **Gradings at once do not disturb each other.** Any calls start in a session with any past, and
any moves are made. If the runner is steady, then

* a call that is given its steps is answered, and the answer is, identifier and times apart, the
  answer to its request alone in a session without requests;
* the store is that of the submissions in the order in which they were recorded, one for each call
  that was answered with one;
* each read is answered by what the records before it determine;
* if the identifiers are new and differ, the store keeps everything as it was recorded. -/
theorem interleave_isolated (hrunner : grader.runner.Steady) (tasks : ι → Task)
    (past : List Submission) (activity : Activity) (moves : List (Move ι)) :
    let w := grader.interleave tasks (.start past activity) moves
    (∀ i, (tasks i).request.testCases.length + 3 ≤ moves.count (.advance i) →
      ∃ answer, w.phase i = .answered answer) ∧
    (∀ i answer, w.phase i = .answered answer → ∀ stamp,
      answer.map SubmissionResponse.timeless =
        (grader.submit stamp .empty (tasks i).request).1.map SubmissionResponse.timeless) ∧
    w.Orderly tasks past ∧
    w.log.filterMap Event.query? = moves.filterMap Move.query? ∧
    ((past.map Submission.id).Nodup → (Function.Injective fun i => (tasks i).stamp.id) →
      (∀ i, (tasks i).stamp.id ∉ past.map Submission.id) →
      w.session.store.Keeps (historyAfter past w.log)) := by
  intro w
  have horderly : w.Orderly tasks past := (World.orderly_start activity).interleave moves
  refine ⟨fun i hcount => ?_, fun i answer hanswer stamp => ?_, horderly,
    queries_interleave _ moves, fun hpast hstamps hnew => ?_⟩
  · have hleft : (w.phase i).stepsLeft (tasks i) ≤
        (tasks i).request.testCases.length + 3 - moves.count (.advance i) :=
      stepsLeft_interleave (World.start past activity) moves i
    rw [Nat.sub_eq_zero_of_le hcount] at hleft
    exact Phase.stepsLeft_eq_zero_iff.mp (Nat.le_zero.mp hleft)
  · have hissued (i : ι) : ((World.start past activity).phase i).AsAlone grader (tasks i) := .issued
    have halone := asAlone_interleave hrunner hissued moves i
    rw [hanswer] at halone
    cases halone with
    | answered hanswer => exact hanswer stamp
  · rw [horderly.store]
    exact (Store.indexes_ofHistory _).keeps (horderly.nodup_ids hpast hstamps hnew)

/-- Two submissions at once. A case of the first crashes the runner, and one never ends. -/
def twoTasks : Bool → Task
  | false => ⟨sampleStamp, mixedRequest⟩
  | true => ⟨{ sampleStamp with id := ⟨1⟩ }, sampleRequest⟩

/-- The two take turns, and the store is asked for its size after each turn. -/
def takingTurns : List (Move Bool) :=
  (List.replicate 7 [.advance false, .advance true, .read .size]).flatten

theorem interleave_takingTurns :
    let w := interleave ⟨{}, moodyRunner⟩ twoTasks (.start [] .idle) takingTurns
    moodyRunner.Steady ∧
    (∀ i, ∃ answer, w.phase i = .answered answer ∧
      answer.map SubmissionResponse.timeless =
        (submit ⟨{}, moodyRunner⟩ sampleStamp .empty (twoTasks i).request).1.map
          SubmissionResponse.timeless) ∧
    w.session.store.Keeps (historyAfter [] w.log) := by
  obtain ⟨hanswered, halone, _, _, hkeeps⟩ :=
    @interleave_isolated Bool _ ⟨{}, moodyRunner⟩ moodyRunner_steady twoTasks [] .idle takingTurns
  refine ⟨moodyRunner_steady, fun i => ?_, hkeeps List.nodup_nil ?_ fun _ => List.not_mem_nil⟩
  · have hcount : (twoTasks i).request.testCases.length + 3 ≤ takingTurns.count (.advance i) := by
      cases i <;> decide
    obtain ⟨answer, hanswer⟩ := hanswered i hcount
    exact ⟨answer, hanswer, halone i answer hanswer sampleStamp⟩
  · rw [Bool.injective_iff]
    decide

end Grader

example : (Grader.interleave ⟨{}, moodyRunner⟩ Grader.twoTasks (.start [] .idle)
    Grader.takingTurns).session.store.size = 2 := by
  decide +kernel

end Autograder
