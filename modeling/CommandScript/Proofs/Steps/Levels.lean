import CommandScript.Proofs.Steps.Continuation
import Mathlib.Data.List.Forall2

/-! Levels of evaluation and what has been completed on them. A level is entered for every program
that runs; its commands are carried out one after the other, each on top of the commands behind
it. -/

namespace CommandScript

/-- The activations that make up a level: the level itself, and its commands behind the current
one. -/
def Activation.marks : Activation → Bool
  | .level | .sequence .. => true
  | _ => false

/-- The value that the commands of a level hold: that of the last one before the current one. -/
def Activation.last? : Activation → Option (Option String)
  | .sequence last _ => some last
  | _ => none

def Task.isCommands : Task → Bool
  | .commands .. => true
  | _ => false

namespace Moment

variable {c c' : Moment} {task : Task} {activation : Activation} {s : State}

/-- A moment without any level. -/
structure Flat (c : Moment) : Prop where
  task : c.task.isCommands = false
  waiting : c.waiting.any Activation.marks = false

theorem flat_goOn (loop : Loop) (last : String) : Flat (loop.goOn last [] s) := by
  unfold Loop.goOn
  split
  all_goals exact ⟨rfl, rfl⟩

theorem flat_advance (quiet : ¬ task.IsActive) (other : task.isCommands = false) :
    Flat ⟨(task.advance s).1, (task.advance s).2 ++ [], s⟩ := by
  cases task with
  | program | invoke | call | host | answer => exact absurd trivial quiet
  | commands => cases other
  | word => exact ⟨rfl, rfl⟩
  | arguments head name done rest =>
      cases rest with
      | nil => exact ⟨rfl, rfl⟩
      | cons token rest =>
          simp only [Task.advance]
          split
          all_goals exact ⟨rfl, rfl⟩
  | _ =>
      simp only [Task.advance, Task.scan, Task.lookup]
      repeat' split
      all_goals exact ⟨rfl, rfl⟩

theorem flat_opening {builtin : Builtin} {args : List String} {opening : Task × List Activation}
    (opens : builtin.opening? args = some opening) : Flat ⟨opening.1, opening.2 ++ [], s⟩ := by
  unfold Builtin.opening? at opens
  repeat' split at opens
  all_goals cases opens
  all_goals exact ⟨rfl, rfl⟩

theorem flat_serve (request : HostStep) : Flat (serve request [] s) := by
  cases request with
  | evaluateSource | writeLine | define =>
      simp only [serve]
      split
      all_goals exact ⟨rfl, rfl⟩
  | _ => exact ⟨rfl, rfl⟩

theorem flat_resume (unmarked : activation.marks = false) (result : Except Signal String) :
    Flat (activation.resume result [] s) := by
  cases result with
  | ok value =>
      cases activation with
      | level | sequence => cases unmarked
      | branchTest | loopTest =>
          simp only [Activation.resume, Activation.proceed]
          repeat' split
          all_goals exact ⟨rfl, rfl⟩
      | loopBody loop last => exact flat_goOn loop value
      | _ => exact ⟨rfl, rfl⟩
  | error signal =>
      cases activation with
      | level | sequence => cases unmarked
      | loopBody loop last =>
          cases signal with
          | nextRound given => exact flat_goOn loop _
          | _ => exact ⟨rfl, rfl⟩
      | _ => exact ⟨rfl, rfl⟩

/-- Apart from entering a level and from its commands, a task makes no level wait. -/
theorem flat_next (entering : ∀ program, task ≠ .program program) (other : task.isCommands = false)
    (stepped : next? ⟨task, [], s⟩ = some c) : Flat c := by
  by_cases active : task.IsActive
  · cases task with
    | program program => exact absurd rfl (entering program)
    | invoke builtin args =>
        simp only [next?] at stepped
        split at stepped
        · next opens =>
            cases stepped
            exact flat_opening opens
        · obtain ⟨ended, _, rfl⟩ := Option.map_eq_some_iff.mp stepped
          exact ⟨rfl, rfl⟩
    | call name procedure args =>
        simp only [next?] at stepped
        split at stepped
        all_goals cases stepped
        all_goals exact ⟨rfl, rfl⟩
    | host request =>
        cases stepped
        exact flat_serve request
    | answer result => cases stepped
    | _ => exact active.elim
  · rw [next?_of_quiet active] at stepped
    cases stepped
    exact flat_advance active other

/-- What a step does to the levels: it enters one, begins, completes or cuts short one of its
commands, is done with them, or leaves the level. Every other step only changes what waits on top of
the innermost level. -/
inductive LevelMove : Moment → Moment → Prop
  | enter {program waiting s s'} :
      LevelMove ⟨.program program, waiting, s⟩ ⟨.commands none program, .level :: waiting, s'⟩
  | start {last command rest waiting s} :
      LevelMove ⟨.commands last (command :: rest), waiting, s⟩
        ⟨.command command, .sequence last rest :: waiting, s⟩
  | finish {last rest result waiting s} :
      LevelMove ⟨.commands last rest, waiting, s⟩ ⟨.answer result, waiting, s⟩
  | complete {value last rest waiting s} :
      LevelMove ⟨.answer (.ok value), .sequence last rest :: waiting, s⟩
        ⟨.commands (some value) rest, waiting, s⟩
  | cut {signal signal' last rest waiting s} :
      LevelMove ⟨.answer (.error signal), .sequence last rest :: waiting, s⟩
        ⟨.answer (.error signal'), waiting, s⟩
  | leave {result waiting s s'} :
      LevelMove ⟨.answer result, .level :: waiting, s⟩ ⟨.answer result, waiting, s'⟩
  | lead {task waiting s inner} (pending : ∀ result, task ≠ .answer result)
      (other : task.isCommands = false) (flat : Flat inner) :
      LevelMove ⟨task, waiting, s⟩ (inner.within waiting)
  | resume {result activation outer s inner} (unmarked : activation.marks = false)
      (flat : Flat inner) : LevelMove ⟨.answer result, activation :: outer, s⟩ (inner.within outer)

theorem LevelMove.of_resume (result : Except Signal String) (outer : List Activation) :
    LevelMove ⟨.answer result, activation :: outer, s⟩ (activation.resume result outer s) := by
  by_cases marked : activation.marks
  · cases activation with
    | level => cases result <;> exact .leave
    | sequence last rest =>
        cases result with
        | ok value => exact .complete
        | error signal => exact .cut
    | _ => cases marked
  · have unmarked : activation.marks = false := Bool.eq_false_of_not_eq_true marked
    have inside := resume_within activation result [] outer s
    rw [List.nil_append] at inside
    rw [inside]
    exact .resume unmarked (flat_resume unmarked result)

/-- Most tasks do the same as with nothing waiting. -/
theorem LevelMove.of_alone {waiting : List Activation} (pending : ∀ result, task ≠ .answer result)
    (entering : ∀ program, task ≠ .program program) (other : task.isCommands = false)
    (stepped : next? ⟨task, waiting, s⟩ = some c') : LevelMove ⟨task, waiting, s⟩ c' := by
  cases alone : next? ⟨task, [], s⟩ with
  | none =>
      obtain ⟨result, s', same⟩ := eq_answer_of_next?_eq_none alone
      exact absurd (congrArg Moment.task same) (pending result)
  | some inner =>
      have further : next? ⟨task, waiting, s⟩ = some (inner.within waiting) :=
        next?_within alone waiting
      rw [stepped] at further
      cases further
      exact .lead pending other (flat_next entering other alone)

theorem LevelMove.of_next? (stepped : c.next? = some c') : LevelMove c c' := by
  obtain ⟨task, waiting, s⟩ := c
  cases task with
  | commands last rest =>
      cases rest with
      | nil =>
          cases stepped
          exact .finish
      | cons command rest =>
          simp only [next?, Task.advance] at stepped
          split at stepped
          all_goals cases stepped
          · exact .start
          · exact .finish
  | answer result =>
      cases waiting with
      | nil => cases stepped
      | cons activation outer =>
          cases stepped
          exact .of_resume result outer
  | program program =>
      simp only [next?] at stepped
      split at stepped
      all_goals cases stepped
      · have pending : ∀ result, Task.program program ≠ .answer result := by simp
        have flat : Flat ⟨.failing (.depthExceeded s.maxDepth), [], s⟩ := ⟨rfl, rfl⟩
        exact .lead pending rfl flat
      · exact .enter
  | _ => exact .of_alone (by simp) (by simp) rfl stepped

end Moment

/-- Levels in order: above every level wait the commands behind its current one. -/
inductive Paired : List Activation → Prop
  | nil : Paired []
  | level {last rest outer} (outside : Paired outer) :
      Paired (.sequence last rest :: .level :: outer)
  | plain {activation outer} (unmarked : activation.marks = false) (outside : Paired outer) :
      Paired (activation :: outer)

variable {waiting pushed outer : List Activation} {last : Option String} {rest : Program}

theorem Paired.append (unmarked : pushed.any Activation.marks = false) (h : Paired waiting) :
    Paired (pushed ++ waiting) := by
  induction pushed with
  | nil => exact h
  | cons activation pushed ih =>
      obtain ⟨own, others⟩ := Bool.or_eq_false_iff.mp unmarked
      exact .plain own (ih others)

theorem Paired.of_sequence (h : Paired (.sequence last rest :: waiting)) :
    ∃ outer, waiting = .level :: outer ∧ Paired outer := by
  cases h with
  | level outside => exact ⟨_, rfl, outside⟩
  | plain unmarked => cases unmarked

theorem Paired.of_cons {activation : Activation} (unmarked : activation.marks = false)
    (h : Paired (activation :: waiting)) : Paired waiting := by
  cases h with
  | level => cases unmarked
  | plain _ outside => exact outside

/-- The open levels, innermost first, each given by what waits outside of it. -/
def openLevels : List Activation → List (List Activation)
  | [] => []
  | .level :: outer => outer :: openLevels outer
  | _ :: outer => openLevels outer

theorem openLevels_cons {activation : Activation} (unmarked : activation.marks = false)
    (outer : List Activation) : openLevels (activation :: outer) = openLevels outer := by
  cases activation with
  | level => cases unmarked
  | _ => rfl

theorem openLevels_append (unmarked : pushed.any Activation.marks = false)
    (waiting : List Activation) : openLevels (pushed ++ waiting) = openLevels waiting := by
  induction pushed with
  | nil => rfl
  | cons activation pushed ih =>
      obtain ⟨own, others⟩ := Bool.or_eq_false_iff.mp unmarked
      rw [List.cons_append, openLevels_cons own, ih others]

theorem mem_openLevels_of_suffix {waiting' : List Activation} (inside : waiting <:+ waiting')
    (active : outer ∈ openLevels waiting) : outer ∈ openLevels waiting' := by
  induction waiting' with
  | nil =>
      rw [List.suffix_nil.mp inside] at active
      exact active
  | cons activation waiting' ih =>
      obtain rfl | further := List.suffix_cons_iff.mp inside
      · exact active
      · cases activation with
        | level => exact List.mem_cons_of_mem _ (ih further)
        | _ => exact ih further

theorem length_lt_of_mem_openLevels (active : outer ∈ openLevels waiting) :
    outer.length < waiting.length := by
  induction waiting with
  | nil => cases active
  | cons activation waiting ih =>
      rw [List.length_cons]
      cases activation with
      | level =>
          obtain rfl | further := List.mem_cons.mp active
          · exact Nat.lt_succ_self _
          · exact Nat.lt_succ_of_lt (ih further)
      | _ => exact Nat.lt_succ_of_lt (ih active)

theorem not_mem_openLevels_self : outer ∉ openLevels outer :=
  fun active => Nat.lt_irrefl _ (length_lt_of_mem_openLevels active)

namespace Moment

variable {first c c' : Moment}

/-- What waits, the commands that come next included. -/
def stack (c : Moment) : List Activation :=
  match c.task with
  | .commands last rest => .sequence last rest :: c.waiting
  | _ => c.waiting

theorem stack_of_not_isCommands (other : c.task.isCommands = false) : c.stack = c.waiting := by
  unfold stack
  split
  · next same =>
      rw [same] at other
      cases other
  · rfl

theorem Flat.stack_within (flat : c.Flat) (outer : List Activation) :
    (c.within outer).stack = c.waiting ++ outer :=
  stack_of_not_isCommands flat.task

/-- The levels are in order, unless the innermost is just about to be left. -/
def Ordered (c : Moment) : Prop :=
  Paired c.stack ∨
    ∃ result outer, c.task = .answer result ∧ c.waiting = .level :: outer ∧ Paired outer

theorem Ordered.next (h : c.Ordered) (stepped : c.next? = some c') : c'.Ordered := by
  cases LevelMove.of_next? stepped with
  | enter =>
      obtain paired | ⟨_, _, answered, _⟩ := h
      · exact .inl (.level paired)
      · cases answered
  | start =>
      obtain paired | ⟨_, _, answered, _⟩ := h
      · obtain ⟨outer, rfl, outside⟩ := paired.of_sequence
        exact .inl (.level outside)
      · cases answered
  | @finish last rest result waiting s =>
      obtain paired | ⟨_, _, answered, _⟩ := h
      · obtain ⟨outer, rfl, outside⟩ := paired.of_sequence
        exact .inr ⟨result, outer, rfl, rfl, outside⟩
      · cases answered
  | complete =>
      obtain paired | ⟨_, _, _, leaves, _⟩ := h
      · obtain ⟨outer, rfl, outside⟩ := paired.of_sequence
        exact .inl (.level outside)
      · cases leaves
  | cut =>
      obtain paired | ⟨_, _, _, leaves, _⟩ := h
      · obtain ⟨outer, rfl, outside⟩ := paired.of_sequence
        exact .inr ⟨_, outer, rfl, rfl, outside⟩
      · cases leaves
  | leave =>
      obtain paired | ⟨_, _, _, leaves, outside⟩ := h
      · cases paired with
        | plain unmarked => cases unmarked
      · cases leaves
        exact .inl outside
  | lead pending other flat =>
      obtain paired | ⟨result, _, answered, _⟩ := h
      · rw [stack_of_not_isCommands other] at paired
        left
        rw [flat.stack_within]
        exact paired.append flat.waiting
      · exact absurd answered (pending result)
  | resume unmarked flat =>
      obtain paired | ⟨_, _, _, leaves, _⟩ := h
      · left
        rw [flat.stack_within]
        exact (paired.of_cons unmarked).append flat.waiting
      · cases leaves
        cases unmarked

/-- A command of the level above some activations ends with a value. -/
def Completes (c : Moment) (outer : List Activation) (value : String) : Prop :=
  c.task = .answer (.ok value) ∧ ∃ last rest, c.waiting = .sequence last rest :: .level :: outer

/-- In the evaluation that begins with a moment, the level above some activations is open, and this
is the value of the last command that has been completed on it, none as long as there is none. -/
inductive LastDone (first : Moment) (outer : List Activation) : Moment → Option String → Prop
  | enter {program : Program} {s s' : State}
      (reached : Reaches first ⟨.program program, outer, s⟩)
      (entered : next? ⟨.program program, outer, s⟩ =
        some ⟨.commands none program, .level :: outer, s'⟩) :
      LastDone first outer ⟨.commands none program, .level :: outer, s'⟩ none
  | complete {c c' : Moment} {last : Option String} {value : String}
      (before : LastDone first outer c last)
      (completed : c.Completes outer value) (stepped : c.next? = some c') :
      LastDone first outer c' (some value)
  | stay {c c' : Moment} {last : Option String} (before : LastDone first outer c last)
      (uncompleted : ∀ value, ¬ c.Completes outer value) (stepped : c.next? = some c')
      (active : outer ∈ openLevels c'.waiting) : LastDone first outer c' last

/-- A level is open before a step that it is open after, unless the step has entered it. -/
theorem openLevels_of_next (stepped : c.next? = some c') (active : outer ∈ openLevels c'.waiting) :
    outer ∈ openLevels c.waiting ∨ ∃ program s s', c = ⟨.program program, outer, s⟩ ∧
      c' = ⟨.commands none program, .level :: outer, s'⟩ := by
  cases LevelMove.of_next? stepped with
  | enter =>
      obtain rfl | further := List.mem_cons.mp active
      · exact .inr ⟨_, _, _, rfl, rfl⟩
      · exact .inl further
  | start | finish | complete | cut => exact .inl active
  | leave => exact .inl (List.mem_cons_of_mem _ active)
  | @lead _ waiting _ _ pending other flat =>
      have further : outer ∈ openLevels (_ ++ waiting) := active
      rw [openLevels_append flat.waiting] at further
      exact .inl further
  | @resume _ activation waiting _ _ unmarked flat =>
      have further : outer ∈ openLevels (_ ++ waiting) := active
      rw [openLevels_append flat.waiting] at further
      left
      rw [openLevels_cons unmarked]
      exact further

theorem exists_lastDone (outside : openLevels first.waiting = []) (reached : Reaches first c)
    (active : outer ∈ openLevels c.waiting) : ∃ last, LastDone first outer c last := by
  induction reached with
  | refl =>
      rw [outside] at active
      cases active
  | @tail d c before stepped ih =>
      obtain earlier | ⟨program, s, s', rfl, rfl⟩ := openLevels_of_next stepped active
      · obtain ⟨last, done⟩ := ih earlier
        by_cases completed : ∃ value, d.Completes outer value
        · obtain ⟨value, completed⟩ := completed
          exact ⟨_, done.complete completed stepped⟩
        · exact ⟨last, done.stay (not_exists.mp completed) stepped active⟩
      · exact ⟨none, .enter before stepped⟩

/-- The commands of the level above some activations hold the value of the last one, or the level is
about to be left. -/
def Holds (outer : List Activation) (last : Option String) (c : Moment) : Prop :=
  (∃ rest, .sequence last rest :: .level :: outer <:+ c.stack) ∨
    ∃ result, c.task = .answer result ∧ c.waiting = .level :: outer

theorem Holds.next (h : Holds outer last c) (uncompleted : ∀ value, ¬ c.Completes outer value)
    (stepped : c.next? = some c') (active : outer ∈ openLevels c'.waiting) :
    Holds outer last c' := by
  obtain ⟨rest, held⟩ | ⟨result, answered, leaves⟩ := h
  · -- A step touches the commands of this level only where they are on top.
    cases LevelMove.of_next? stepped with
    | enter =>
        exact .inl ⟨rest, (held.trans (List.suffix_cons .level _)).trans (List.suffix_cons _ _)⟩
    | start =>
        obtain here | further := List.suffix_cons_iff.mp held
        · cases here
          exact .inl ⟨_, List.suffix_rfl⟩
        · exact .inl ⟨rest, further.trans (List.suffix_cons _ _)⟩
    | finish | cut =>
        obtain here | further := List.suffix_cons_iff.mp held
        · cases here
          exact .inr ⟨_, rfl, rfl⟩
        · exact .inl ⟨rest, further⟩
    | @complete value _ _ _ _ =>
        obtain here | further := List.suffix_cons_iff.mp held
        · cases here
          exact absurd ⟨rfl, last, rest, rfl⟩ (uncompleted value)
        · exact .inl ⟨rest, further.trans (List.suffix_cons _ _)⟩
    | leave =>
        obtain here | further := List.suffix_cons_iff.mp held
        · cases here
        · exact .inl ⟨rest, further⟩
    | lead pending other flat =>
        rw [stack_of_not_isCommands other] at held
        left
        rw [flat.stack_within]
        exact ⟨rest, held.trans (List.suffix_append _ _)⟩
    | resume unmarked flat =>
        left
        rw [flat.stack_within]
        obtain here | further := List.suffix_cons_iff.mp held
        · cases here
          cases unmarked
        · exact ⟨rest, further.trans (List.suffix_append _ _)⟩
  · -- The only step from here leaves the level, which is then no longer open.
    obtain ⟨task, waiting, s⟩ := c
    cases answered
    cases leaves
    cases result <;> cases stepped <;> exact absurd active not_mem_openLevels_self

theorem LastDone.holds (done : LastDone first outer c last) : Holds outer last c := by
  induction done with
  | enter => exact .inl ⟨_, List.suffix_rfl⟩
  | @complete c c' last value before completed stepped ih =>
      obtain ⟨task, waiting, s⟩ := c
      obtain ⟨answered, held, rest, here⟩ := completed
      cases answered
      cases here
      cases stepped
      exact .inl ⟨rest, List.suffix_rfl⟩
  | stay before uncompleted stepped active ih => exact ih.next uncompleted stepped active

/-- While a command is carried out, every level holds the value of its last one. -/
theorem LastDone.suffix (done : LastDone first outer c last) (other : c.task.isCommands = false)
    (pending : ∀ result, c.task ≠ .answer result) :
    ∃ rest, .sequence last rest :: .level :: outer <:+ c.waiting := by
  obtain ⟨rest, held⟩ | ⟨result, answered, _⟩ := done.holds
  · rw [stack_of_not_isCommands other] at held
    exact ⟨rest, held⟩
  · exact absurd answered (pending result)

theorem lastDone_rightUnique (other : c.task.isCommands = false)
    (pending : ∀ result, c.task ≠ .answer result) :
    Relator.RightUnique fun outer last => LastDone first outer c last := by
  intro outer last last' done done'
  obtain ⟨rest, held⟩ := done.suffix other pending
  obtain ⟨rest', held'⟩ := done'.suffix other pending
  have same := (List.suffix_of_suffix_length_le held held' (Nat.le_refl _)).eq_of_length rfl
  cases same
  rfl

/-- The values that the levels hold are those of the commands last completed on them. -/
theorem forall₂_lastDone (levelless : openLevels first.waiting = []) (reached : Reaches first c)
    (other : c.task.isCommands = false) (pending : ∀ result, c.task ≠ .answer result)
    (paired : Paired waiting) (inside : waiting <:+ c.waiting) :
    List.Forall₂ (fun outer last => LastDone first outer c last) (openLevels waiting)
      (waiting.filterMap Activation.last?) := by
  induction paired with
  | nil => exact .nil
  | @level last rest outer outside ih =>
      have inner : .level :: outer <:+ c.waiting := (List.suffix_cons _ _).trans inside
      obtain ⟨last', done⟩ := exists_lastDone levelless reached
        (mem_openLevels_of_suffix inner (.head _))
      obtain ⟨rest', held⟩ := done.suffix other pending
      -- Both stand right above the same level of the same moment.
      have same := (List.suffix_of_suffix_length_le inside held (Nat.le_refl _)).eq_of_length rfl
      cases same
      exact .cons done (ih ((List.suffix_cons _ _).trans inner))
  | @plain activation outer unmarked outside ih =>
      have further := ih ((List.suffix_cons _ _).trans inside)
      have skipped : activation.last? = none := by
        cases activation with
        | sequence => cases unmarked
        | _ => rfl
      rw [openLevels_cons unmarked, List.filterMap_cons_none skipped]
      exact further

/-- What a signal finds on its way out of a moment of an evaluation: the value of the last command
completed on the innermost open level that has completed any. -/
def Latest (first c : Moment) (carried : Option String) : Prop :=
  ∃ lasts, List.Forall₂ (fun outer last => LastDone first outer c last)
    (openLevels c.waiting) lasts ∧ carried = lasts.reduceOption.head?

/-- While a command is carried out, the values that the levels hold tell what a signal finds. -/
theorem latest_iff {program : Program} {s : State} (reached : Reaches ⟨.program program, [], s⟩ c)
    (other : c.task.isCommands = false) (pending : ∀ result, c.task ≠ .answer result)
    {carried : Option String} :
    Latest ⟨.program program, [], s⟩ c carried ↔
      carried = (c.waiting.filterMap Activation.last?).reduceOption.head? := by
  have ordered : Ordered ⟨.program program, [], s⟩ := .inl .nil
  have paired : Paired c.waiting := by
    obtain paired | ⟨result, _, answered, _⟩ := reached.invariant Ordered.next ordered
    · rwa [stack_of_not_isCommands other] at paired
    · exact absurd answered (pending result)
  have held := forall₂_lastDone rfl reached other pending paired List.suffix_rfl
  constructor
  · rintro ⟨lasts, done, rfl⟩
    rw [(lastDone_rightUnique other pending).forall₂ done held]
  · rintro rfl
    exact ⟨_, held, rfl⟩

end Moment

end CommandScript
