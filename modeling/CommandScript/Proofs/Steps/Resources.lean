import CommandScript.Proofs.Steps.Change
import CommandScript.Proofs.Steps.Job
import CommandScript.Proofs.Steps.Nesting

/-! Frames and levels during an evaluation. A call opens a frame before the level of its body, and
levels are opened by brackets, blocks and loops as well, so the two are counted apart: the depth by
the levels that wait and the frames by the calls that wait. Every call, and whatever is done inside
a level, has a level of its own below it. -/

namespace CommandScript

theorem Activation.IsInner.isCall {activation : Activation} (h : activation.IsInner) :
    activation.isCall = false := by
  cases activation with
  | procedure => exact h.elim
  | _ => rfl

namespace Scopes

theorem height_bindParams_push (scopes : Scopes) (params args : List String) :
    (Machine.bindParams scopes.push params args).height = scopes.height + 1 := by
  have outside : scopes.push.ShrinkOutside (Machine.bindParams scopes.push params args) := by
    unfold ShrinkOutside
    rw [tail_frames_bindParams]
    exact forall₂_shrinks_refl _
  exact outside.height_eq

theorem height_pop {scopes : Scopes} (inside : 1 < scopes.height) :
    scopes.pop.height + 1 = scopes.height := by
  cases scopes with
  | globals frame => exact absurd inside (Nat.lt_irrefl 1)
  | inner frame outer => rfl

end Scopes

namespace Moment

open Activation

variable {c c' : Moment} {waiting : List Activation} {s : State}

def calls (waiting : List Activation) : Nat := waiting.countP Activation.isCall

theorem calls_call (waiting : List Activation) :
    calls (.procedure :: waiting) = calls waiting + 1 :=
  List.countP_cons_of_pos rfl

theorem calls_of_isInner {activation : Activation} (h : activation.IsInner)
    (waiting : List Activation) : calls (activation :: waiting) = calls waiting := by
  refine List.countP_cons_of_neg ?_
  rw [h.isCall]
  exact Bool.false_ne_true

theorem calls_levels_append {pushed : List Activation}
    (plain : ∀ activation ∈ pushed, activation.IsInner) (waiting : List Activation) :
    calls (pushed ++ waiting) = calls waiting ∧ levels (pushed ++ waiting) = levels waiting := by
  induction pushed with
  | nil => exact ⟨rfl, rfl⟩
  | cons activation rest ih =>
      obtain ⟨first, others⟩ := List.forall_mem_cons.mp plain
      rw [List.cons_append, calls_of_isInner first, levels_of_isInner first]
      exact ih others

/-- An inner step neither enters nor leaves a call or a level. -/
theorem Inner.calls_levels (h : Inner waiting s c) :
    calls c.waiting = calls waiting ∧ levels c.waiting = levels waiting := by
  obtain ⟨_, ⟨pushed, same, plain⟩, _⟩ := h
  rw [same]
  exact calls_levels_append plain waiting

/-- The frames are those of the calls that wait, on top of a base. -/
def Framed (base : Nat) (c : Moment) : Prop := c.state.scopes.height = base + calls c.waiting

variable {base : Nat}

theorem Inner.framed (h : Inner waiting s c) (height : s.scopes.height = base + calls waiting) :
    c.Framed base := by
  rw [Framed, h.state, h.calls_levels.1]
  exact height

theorem framed_serve (request : HostStep) (h : s.scopes.height = base + calls waiting) :
    (serve request waiting s).Framed base := by
  have height : (serve request waiting s).state.scopes.height = s.scopes.height :=
    (serve_keeps (Settled.stable True) request waiting s).scopes.height_eq
  have same : calls (serve request waiting s).waiting = calls waiting := by
    cases request with
    | evaluateSource text resume | writeLine line resume | define name params body resume =>
        simp only [serve]
        split <;> rfl
    | _ => rfl
  rw [Framed, height, same]
  exact h

theorem framed_leaveCall {task task' : Task} (positive : 0 < base)
    (h : Framed base ⟨task, .procedure :: waiting, s⟩) :
    Framed base ⟨task', waiting, { s with scopes := s.scopes.pop }⟩ := by
  unfold Framed at h ⊢
  rw [calls_call] at h
  dsimp only at h ⊢
  have left : s.scopes.pop.height + 1 = s.scopes.height := Scopes.height_pop (by omega)
  omega

theorem Framed.next (positive : 0 < base) (h : c.Framed base) (stepped : c.next? = some c') :
    c'.Framed base := by
  cases Move.of_next? stepped with
  | inner pending next => exact next.framed h
  | find found => exact h
  | enterLevel room => exact h
  | enterCall fits =>
      rw [Framed, Scopes.height_bindParams_push, calls_call, ← Nat.add_assoc]
      exact congrArg Nat.succ h
  | act shut acted =>
      exact (Machine.act_keeps (Settled.stable True) acted).scopes.height_eq.trans h
  | askHost => exact h
  | @serve request waiting s => exact framed_serve request h
  | @answerHost result activation waiting s host =>
      cases activation with
      | hostText resume | hostSource resume => cases result <;> exact h
      | _ => exact absurd trivial host
  | leaveLevel => exact h
  | leaveCall => exact framed_leaveCall positive h
  | @proceed value activation waiting s c' next =>
      cases activation with
      | procedure =>
          cases stepped
          exact framed_leaveCall positive h
      | _ => exact next.framed h
  | @interrupt signal activation waiting s plain =>
      have height : s.scopes.height = base + calls waiting := by
        rw [← calls_of_isInner plain]
        exact h
      by_cases opened : activation.IsOpenTo signal
      · rw [interrupt_of_isOpenTo plain.native opened, plain.leave]
        exact height
      · exact (inner_of_caught plain opened).framed height

/-- Everything that waits, a level apart, was begun where more levels than calls were open. -/
def Sheltered : List Activation → Prop
  | [] => True
  | activation :: waiting =>
    (activation.isLevel = false → calls waiting < levels waiting) ∧ Sheltered waiting

theorem Sheltered.calls_le_levels (h : Sheltered waiting) : calls waiting ≤ levels waiting := by
  induction waiting with
  | nil => exact Nat.le_refl 0
  | cons activation outer ih =>
      obtain ⟨room, outside⟩ := h
      cases activation with
      | level =>
          rw [levels_level]
          exact Nat.le_succ_of_le (ih outside)
      | procedure =>
          rw [calls_call]
          exact room rfl
      | _ => exact Nat.le_of_lt (room rfl)

theorem Sheltered.append {pushed : List Activation} (h : Sheltered waiting)
    (room : calls waiting < levels waiting)
    (plain : ∀ activation ∈ pushed, activation.IsInner) : Sheltered (pushed ++ waiting) := by
  induction pushed with
  | nil => exact h
  | cons activation rest ih =>
      obtain ⟨_, others⟩ := List.forall_mem_cons.mp plain
      obtain ⟨sameCalls, sameLevels⟩ := calls_levels_append others waiting
      rw [← sameCalls, ← sameLevels] at room
      exact ⟨fun _ => room, ih others⟩

end Moment

/-- The tasks that are done inside a level. -/
def Task.IsInside : Task → Prop
  | .text _ | .program _ | .answer _ => False
  | _ => True

namespace Moment

open Activation

variable {c c' : Moment} {waiting : List Activation} {s : State}

/-- What is done, and everything that waits, has more levels than calls around it, unless it opens a
level itself or hands on a result. -/
structure Housed (c : Moment) : Prop where
  waiting : Sheltered c.waiting
  task : c.task.IsInside → calls c.waiting < levels c.waiting

theorem Housed.settle (h : Sheltered waiting) (result : Except Signal String) (s : State) :
    Housed ⟨.answer result, waiting, s⟩ :=
  ⟨h, False.elim⟩

theorem Housed.enterLevel (h : Sheltered waiting) (program : Program) (s : State) :
    Housed ⟨.commands none program, .level :: waiting, s⟩ := by
  refine ⟨⟨nofun, h⟩, fun _ => ?_⟩
  rw [levels_level]
  exact Nat.lt_succ_of_le h.calls_le_levels

theorem Inner.housed (h : Inner waiting s c) (outside : Sheltered waiting)
    (room : calls waiting < levels waiting) : c.Housed := by
  obtain ⟨sameCalls, sameLevels⟩ := h.calls_levels
  obtain ⟨_, ⟨pushed, same, plain⟩, _⟩ := h
  refine ⟨?_, fun _ => by rwa [sameCalls, sameLevels]⟩
  rw [same]
  exact outside.append room plain

theorem housed_serve (request : HostStep) (outside : Sheltered waiting)
    (room : calls waiting < levels waiting) : (serve request waiting s).Housed := by
  cases request with
  | finish result => exact .settle outside result s
  | evaluate text resume => exact ⟨⟨fun _ => room, outside⟩, fun inside => inside.elim⟩
  | evaluateSource text resume =>
      simp only [serve]
      split
      · exact ⟨outside, fun _ => room⟩
      · exact ⟨⟨fun _ => room, outside⟩, fun inside => inside.elim⟩
  | writeLine line resume | define name params body resume =>
      simp only [serve]
      split
      · exact ⟨outside, fun _ => room⟩
      · exact ⟨outside, fun _ => room⟩
  | _ => exact ⟨outside, fun _ => room⟩

theorem Housed.next (h : c.Housed) (stepped : c.next? = some c') : c'.Housed := by
  obtain ⟨outside, inside⟩ := h
  cases Move.of_next? stepped with
  | @inner task waiting s c' pending next =>
      -- A text and a program may stand outside all levels, where a step must not make anything wait.
      cases task with
      | text text =>
          cases stepped
          simp only [Task.advance]
          split
          · exact ⟨outside, fun inside => inside.elim⟩
          · exact .settle outside _ s
      | program program =>
          simp only [next?] at stepped
          split at stepped
          · cases stepped
            exact .settle outside _ s
          · cases stepped
            exact .enterLevel outside program _
      | answer result => exact absurd rfl (pending result)
      | _ => exact next.housed outside (inside trivial)
  | find found => exact ⟨⟨fun _ => inside trivial, outside⟩, fun _ => inside trivial⟩
  | enterLevel room => exact .enterLevel outside _ _
  | enterCall fits => exact ⟨⟨fun _ => inside trivial, outside⟩, fun inside => inside.elim⟩
  | act shut acted => exact .settle outside _ _
  | askHost => exact ⟨outside, fun _ => inside trivial⟩
  | @serve request waiting s => exact housed_serve request outside (inside trivial)
  | @answerHost result activation waiting s host =>
      cases activation with
      | hostText resume | hostSource resume =>
          cases result <;> exact ⟨outside.2, fun _ => outside.1 rfl⟩
      | _ => exact absurd trivial host
  | leaveLevel => exact .settle outside.2 _ _
  | leaveCall => exact .settle outside.2 _ _
  | @proceed value activation waiting s c' next =>
      cases activation with
      | level =>
          cases stepped
          exact .settle outside.2 _ _
      | _ => exact next.housed outside.2 (outside.1 rfl)
  | @interrupt signal activation waiting s plain =>
      by_cases opened : activation.IsOpenTo signal
      · rw [interrupt_of_isOpenTo plain.native opened]
        exact .settle outside.2 _ _
      · exact (inner_of_caught plain opened).housed outside.2 (outside.1 plain.isLevel)

/-- A step goes one level down only where the limit leaves one. -/
theorem Change.depth_le {s' : State} (changed : Change s s') (within : s.depth ≤ s.maxDepth) :
    s'.depth ≤ s.maxDepth := by
  cases changed with
  | none | enterCall | leaveCall => exact within
  | enterLevel room => exact room
  | leaveLevel => exact (Nat.sub_le _ 1).trans within
  | act shut acted => exact (Machine.act_keeps (Settled.stable True) acted).depth.trans_le within
  | serve request waiting =>
      exact (serve_keeps (Settled.stable True) request waiting s).depth.trans_le within

theorem next?_of_limit {program : Program} (full : s.depth = s.maxDepth) :
    next? ⟨.program program, waiting, s⟩ =
      some ⟨.failing (.depthExceeded s.maxDepth), waiting, s⟩ :=
  if_pos full.ge

end Moment

theorem Machine.run_of_limit {s : State} (full : s.depth = s.maxDepth) (fuel : Nat)
    (program : Program) :
    run (fuel + 1) program s = some (.error (.failed (.depthExceeded s.maxDepth)), s) :=
  if_pos full.ge

namespace Job

open Moment

variable {job : Job} {s : State} {c : Moment}

theorem Passes.housed (passed : job.Passes s c) : c.Housed := by
  refine passed.invariant (fun first begins => ?_) fun _ housed => housed.next
  cases begins with
  | script read => exact ⟨trivial, False.elim⟩
  | text part => exact ⟨trivial, False.elim⟩

theorem Passes.counted (passed : job.Passes s c) : c.Counted s.depth := by
  refine passed.invariant (fun first begins => ?_) fun _ counted => counted.next
  cases begins with
  | script read => rfl
  | text part => rfl

theorem Passes.framed (passed : job.Passes s c) : c.Framed s.scopes.height := by
  refine passed.invariant (fun first begins => ?_) fun _ framed => framed.next s.scopes.height_pos
  cases begins with
  | script read => rfl
  | text part => rfl

theorem Passes.depth_le (limit : ∀ c, job.Passes s c → c.state.maxDepth = s.maxDepth)
    (room : s.depth ≤ s.maxDepth) (passed : job.Passes s c) : c.state.depth ≤ s.maxDepth := by
  refine passed.invariant (P := fun c => c.state.depth ≤ s.maxDepth) (fun first begins => ?_)
    fun {c c'} passed within stepped => ?_
  · cases begins with
    | script read => exact room
    | text part => exact room
  · rw [← limit c passed] at within ⊢
    exact (Change.of_next? stepped).depth_le within

theorem Passes.native (native : CommandScript.Native s.builtins) (passed : job.Passes s c) :
    c.Native := by
  refine passed.invariant (fun first begins => ?_) fun _ native => native.next
  cases begins with
  | script read => exact ⟨trivial, List.forall_mem_nil _, native⟩
  | text part => exact ⟨trivial, List.forall_mem_nil _, native⟩

theorem Passes.maxDepth_eq (native : CommandScript.Native s.builtins) (passed : job.Passes s c) :
    c.state.maxDepth = s.maxDepth := by
  refine passed.invariant (P := fun c => c.state.maxDepth = s.maxDepth) (fun first begins => ?_)
    fun passed same stepped => ?_
  · cases begins with
    | script read => rfl
    | text part => rfl
  · exact ((passed.native native).next_maxDepth stepped).trans same

end Job

/-- While a machine that was at rest does a job, a builtin is only ever invoked with at least as
many levels open as frames and no more than the limit allows. A level that the limit does not allow
is refused before anything in it is done. -/
theorem builtins_run_within_limits (job : Job) {s : State} (shallow : s.depth = 0)
    (single : s.scopes.height = 1)
    (limit : ∀ c, job.Passes s c → c.state.maxDepth = s.maxDepth) {c : Moment}
    (passed : job.Passes s c) :
    (∀ builtin args, c.task = .invoke builtin args →
      1 ≤ c.state.scopes.height ∧ c.state.scopes.height ≤ c.state.depth ∧
        c.state.depth ≤ s.maxDepth) ∧
    (∀ program, c.task = .program program → c.state.depth = s.maxDepth →
      c.next? = some ⟨.failing (.depthExceeded s.maxDepth), c.waiting, c.state⟩ ∧
      ∀ fuel, Machine.run (fuel + 1) program c.state =
        some (.error (.failed (.depthExceeded s.maxDepth)), c.state)) := by
  constructor
  · intro builtin args invoked
    have depth : c.state.depth = s.depth + Moment.levels c.waiting := passed.counted
    have height : c.state.scopes.height = s.scopes.height + Moment.calls c.waiting := passed.framed
    have room : Moment.calls c.waiting < Moment.levels c.waiting := by
      refine passed.housed.task ?_
      rw [invoked]
      trivial
    refine ⟨c.state.scopes.height_pos, ?_, passed.depth_le limit (by omega)⟩
    omega
  · intro program entering full
    obtain ⟨task, waiting, state⟩ := c
    cases entering
    rw [← limit _ passed] at full ⊢
    exact ⟨Moment.next?_of_limit full, fun fuel => Machine.run_of_limit full fuel program⟩

/-- A procedure that counts and calls itself until no level is left. -/
def tightMachine : State := { machineOf "proc f {} { incr x; f }\nf" with maxDepth := 3 }

/-- Whether a number is counted up where so many frames are open. -/
def Moment.countsIn (height : Nat) (c : Moment) : Bool :=
  match c.task with
  | .invoke .increment _ => c.state.scopes.height == height
  | _ => false

/-- Whether a level beyond the limit is to be opened where so many frames are open. -/
def Moment.opensLevelIn (height : Nat) (c : Moment) : Bool :=
  match c.task with
  | .program _ => c.state.depth == c.state.maxDepth && c.state.scopes.height == height
  | _ => false

theorem tightMachine_runs_within_limits :
    (∃ c args, (Job.script .own).Passes tightMachine c ∧ c.task = .invoke .increment args ∧
      c.state.scopes.height = 3 ∧ c.state.scopes.height ≤ c.state.depth ∧ c.state.depth ≤ 3) ∧
    (∃ c program, (Job.script .own).Passes tightMachine c ∧ c.task = .program program ∧
      c.state.scopes.height = 4 ∧
      c.next? = some ⟨.failing (.depthExceeded 3), c.waiting, c.state⟩) := by
  have limit : ∀ c, (Job.script .own).Passes tightMachine c → c.state.maxDepth = 3 :=
    fun c passed => passed.maxDepth_eq native_standard
  constructor
  · obtain ⟨c, passed, here⟩ := Job.exists_passes_of_find? tightMachine (Moment.countsIn 3) 60
      (by decide +kernel)
    unfold Moment.countsIn at here
    split at here
    · next args invoked =>
        have h := (builtins_run_within_limits _ rfl rfl limit passed).1 _ _ invoked
        exact ⟨c, args, passed, invoked, beq_iff_eq.mp here, h.2⟩
    · cases here
  · obtain ⟨c, passed, here⟩ := Job.exists_passes_of_find? tightMachine (Moment.opensLevelIn 4) 80
      (by decide +kernel)
    unfold Moment.opensLevelIn at here
    split at here
    · next program entering =>
        obtain ⟨full, height⟩ := Bool.and_eq_true_iff.mp here
        have h := (builtins_run_within_limits _ rfl rfl limit passed).2 _ entering
          ((beq_iff_eq.mp full).trans (limit c passed))
        exact ⟨c, program, passed, entering, beq_iff_eq.mp height, h.1⟩
    · cases here

end CommandScript
