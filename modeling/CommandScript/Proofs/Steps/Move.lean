import CommandScript.Proofs.Steps.Basic

/-! The ways in which one moment follows another. Most steps are inner ones: they leave the state
alone and go on inside the activations that wait already. -/

namespace CommandScript

/-- A value, or a failure that no command is named in yet. -/
def IsPlain {α : Type} : Except Signal α → Prop
  | .ok _ => True
  | .error (.failed cause) => cause.root = cause
  | .error _ => False

/-- A computation that names no command in its failure. -/
def Rooted {α : Type} (r : Except Failure α) : Prop :=
  ∀ cause, r = .error cause → cause.root = cause

theorem Rooted.ok {α : Type} (a : α) : Rooted (.ok a) := nofun

theorem Rooted.error {α : Type} {cause : Failure} (own : cause.root = cause) :
    Rooted (.error cause : Except Failure α) := by
  rintro _ ⟨⟩
  exact own

theorem Rooted.bind {α β : Type} {r : Except Failure α} {f : α → Except Failure β}
    (hr : Rooted r) (hf : ∀ a, Rooted (f a)) : Rooted (r >>= f) := by
  cases r with
  | ok a => exact hf a
  | error cause => exact .error (hr cause rfl)

theorem Program.parse_rooted (text : String) : Rooted (parse text) := by
  unfold parse
  dsimp only
  split
  · exact .error rfl
  · exact .ok _

theorem State.checkInterrupt_rooted (s : State) : Rooted s.checkInterrupt := by
  unfold checkInterrupt
  split
  · exact .error rfl
  · exact .ok _

theorem Task.openLoop_rooted (condition body : String) (step : Option String) :
    Rooted (openLoop condition body step) := by
  refine (Program.parse_rooted condition).bind fun _ => (Program.parse_rooted body).bind fun _ => ?_
  cases step with
  | none => exact .ok _
  | some script => exact (Program.parse_rooted script).bind fun _ => .ok _

/-- The tasks that belong to the evaluation of commands alone. -/
def Task.IsInner : Task → Prop
  | .invoke .. | .host _ | .answer _ => False
  | _ => True

def Activation.IsNative : Activation → Prop
  | .hostText _ | .hostSource _ => False
  | _ => True

/-- The activations that neither change the state when they end nor belong to a host command. -/
def Activation.IsInner : Activation → Prop
  | .level | .procedure | .hostText _ | .hostSource _ => False
  | _ => True

namespace Moment

/-- A moment after an inner step from given activations and state. -/
structure Inner (waiting : List Activation) (s : State) (c : Moment) : Prop where
  task : c.task.IsInner ∨ ∃ result, c.task = .answer result ∧ IsPlain result
  waiting : ∃ pushed, c.waiting = pushed ++ waiting ∧ ∀ activation ∈ pushed, activation.IsInner
  state : c.state = s

section

variable {waiting : List Activation} {s : State}

theorem Inner.lead {task : Task} (h : task.IsInner) : Inner waiting s ⟨task, waiting, s⟩ :=
  ⟨.inl h, ⟨[], rfl, fun _ member => nomatch member⟩, rfl⟩

theorem Inner.await {task : Task} {activation : Activation} (h : task.IsInner)
    (ha : activation.IsInner) : Inner waiting s ⟨task, activation :: waiting, s⟩ :=
  ⟨.inl h, ⟨[activation], rfl, List.forall_mem_singleton.mpr ha⟩, rfl⟩

theorem Inner.settle {result : Except Signal String} (h : IsPlain result) :
    Inner waiting s ⟨.answer result, waiting, s⟩ :=
  ⟨.inr ⟨result, rfl, h⟩, ⟨[], rfl, fun _ member => nomatch member⟩, rfl⟩

theorem Inner.plain {c : Moment} {result : Except Signal String} (h : Inner waiting s c)
    (answered : c.task = .answer result) : IsPlain result := by
  rcases h.task with inner | ⟨other, same, plain⟩
  · rw [answered] at inner
    exact inner.elim
  · rw [answered] at same
    cases same
    exact plain

theorem inner_goOn (loop : Loop) (last : String) : Inner waiting s (loop.goOn last waiting s) := by
  unfold Loop.goOn
  split
  · exact .lead trivial
  · exact .await trivial trivial

theorem inner_proceed {activation : Activation} (h : activation.IsInner) (value : String) :
    Inner waiting s (activation.proceed value waiting s) := by
  cases activation with
  | level | procedure | hostText | hostSource => exact h.elim
  | builtin name => exact .settle trivial
  | branchTest body otherwise =>
      simp only [Activation.proceed]
      split
      · exact .lead trivial
      · split
        · exact .lead trivial
        · exact .settle trivial
  | loopTest loop last =>
      simp only [Activation.proceed]
      split
      · exact .await trivial trivial
      · exact .settle trivial
  | loopBody loop last => exact inner_goOn loop value
  | _ => exact .lead trivial

theorem inner_scan (current : List Char) (opened : List (List Char)) (rest : List Char) :
    Inner waiting s
      ⟨(Task.scan current opened rest).1, (Task.scan current opened rest).2 ++ waiting, s⟩ := by
  unfold Task.scan
  split
  · exact .settle trivial
  · split
    · exact .lead trivial
    · split
      · split
        · exact .lead trivial
        · exact .await trivial trivial
      · exact .lead trivial

/-- A task that leaves the state alone is followed by an inner step, unless it finds a builtin. -/
theorem inner_advance {task : Task} (quiet : ¬ task.IsActive)
    (searching : ∀ head name args, task ≠ .dispatch head name args) :
    Inner waiting s ⟨(task.advance s).1, (task.advance s).2 ++ waiting, s⟩ := by
  cases task with
  | program | invoke | call | host | answer => exact absurd trivial quiet
  | dispatch head name args => exact absurd rfl (searching head name args)
  | text text =>
      simp only [Task.advance]
      split
      · exact .lead trivial
      · next refused => exact .settle (Program.parse_rooted _ _ refused)
  | commands last rest =>
      cases rest with
      | nil => exact .settle trivial
      | cons command rest =>
          simp only [Task.advance]
          split
          · exact .await trivial trivial
          · next stopped => exact .settle (s.checkInterrupt_rooted _ stopped)
  | command command =>
      simp only [Task.advance]
      split
      · exact .await trivial trivial
      · exact .await trivial trivial
      · exact .settle rfl
      · exact .lead trivial
  | word text => exact .lead trivial
  | brackets current opened rest => exact inner_scan current opened rest
  | arguments head name done rest =>
      cases rest with
      | nil => exact .lead trivial
      | cons token rest =>
          simp only [Task.advance]
          split
          · exact .lead trivial
          · exact .await trivial trivial
  | loop condition body step =>
      simp only [Task.advance]
      split
      · exact .lead trivial
      · next refused => exact .settle (Task.openLoop_rooted _ _ _ _ refused)
  | round loop last =>
      simp only [Task.advance]
      split
      · exact .await trivial trivial
      · next stopped => exact .settle (s.checkInterrupt_rooted _ stopped)

theorem inner_opening {builtin : Builtin} {args : List String} {task : Task}
    {first : List Activation} (own : builtin.isHost = false)
    (opens : builtin.opening? args = some (task, first)) :
    Inner waiting s ⟨task, first ++ waiting, s⟩ := by
  unfold Builtin.opening? at opens
  split at opens
  · cases opens; exact .lead trivial
  · cases opens; exact .await trivial trivial
  · split at opens
    · cases opens; exact .await trivial trivial
    · cases opens
  · cases opens; exact .lead trivial
  · cases opens; exact .await trivial trivial
  · cases own
  · cases opens

end

/-- The ways in which one moment follows another. -/
inductive Move : Moment → Moment → Prop
  | inner {task waiting s c'} (pending : ∀ result, task ≠ .answer result)
      (next : Inner waiting s c') : Move ⟨task, waiting, s⟩ c'
  | find {head name args builtin waiting s} (found : s.builtins.get? name = some builtin) :
      Move ⟨.dispatch head name args, waiting, s⟩
        ⟨.invoke builtin args, .builtin name :: waiting, s⟩
  | enterLevel {program waiting s} (room : s.depth < s.maxDepth) :
      Move ⟨.program program, waiting, s⟩
        ⟨.commands none program, .level :: waiting, { s with depth := s.depth + 1 }⟩
  | enterCall {name procedure args waiting s} (fits : args.length = procedure.params.length) :
      Move ⟨.call name procedure args, waiting, s⟩
        ⟨.program procedure.program, .procedure :: waiting,
          { s with scopes := Machine.bindParams s.scopes.push procedure.params args }⟩
  | act {builtin args result waiting s s'} (shut : builtin.opening? args = none)
      (acted : Machine.invoke 0 Machine.noEvaluator builtin args s = some (result, s')) :
      Move ⟨.invoke builtin args, waiting, s⟩ ⟨.answer result, waiting, s'⟩
  | askHost {act args waiting s} :
      Move ⟨.invoke (.host act) args, waiting, s⟩ ⟨.host (act args), waiting, s⟩
  | serve {request waiting s} : Move ⟨.host request, waiting, s⟩ (serve request waiting s)
  | answerHost {result activation waiting s} (host : ¬ activation.IsNative) :
      Move ⟨.answer result, activation :: waiting, s⟩ (activation.resume result waiting s)
  | leaveLevel {result waiting s} :
      Move ⟨.answer result, .level :: waiting, s⟩
        ⟨.answer result, waiting, { s with depth := s.depth - 1 }⟩
  | leaveCall {result waiting s} :
      Move ⟨.answer result, .procedure :: waiting, s⟩
        ⟨.answer (Machine.callResult result), waiting, { s with scopes := s.scopes.pop }⟩
  | proceed {value activation waiting s c'} (next : Inner waiting s c') :
      Move ⟨.answer (.ok value), activation :: waiting, s⟩ c'
  | interrupt {signal activation waiting s} (plain : activation.IsInner) :
      Move ⟨.answer (.error signal), activation :: waiting, s⟩
        (activation.interrupt signal waiting s)

theorem Move.of_resume {activation : Activation} {result : Except Signal String}
    {waiting : List Activation} {s : State} :
    Move ⟨.answer result, activation :: waiting, s⟩ (activation.resume result waiting s) := by
  by_cases plain : activation.IsInner
  · cases result with
    | ok value => exact .proceed (inner_proceed plain value)
    | error signal => exact .interrupt plain
  · cases activation with
    | level => cases result <;> exact .leaveLevel
    | procedure => cases result <;> exact .leaveCall
    | hostText resume | hostSource resume => exact .answerHost id
    | _ => exact absurd trivial plain

theorem Move.of_next? {c c' : Moment} (stepped : c.next? = some c') : Move c c' := by
  obtain ⟨task, waiting, s⟩ := c
  cases task with
  | program program =>
      simp only [next?] at stepped
      split at stepped
      · cases stepped; exact .inner nofun (.settle rfl)
      · next room => cases stepped; exact .enterLevel (Nat.lt_of_not_le room)
  | invoke builtin args =>
      simp only [next?] at stepped
      split at stepped
      · next opens =>
          cases stepped
          cases own : builtin.isHost with
          | false => exact .inner nofun (inner_opening own opens)
          | true =>
              cases builtin with
              | host act => cases opens; exact .askHost
              | _ => cases own
      · next shut =>
          obtain ⟨⟨result, s'⟩, acted, same⟩ := Option.map_eq_some_iff.mp stepped
          cases same
          exact .act shut acted
  | call name procedure args =>
      simp only [next?] at stepped
      split at stepped
      · next fits => cases stepped; exact .enterCall fits
      · cases stepped; exact .inner nofun (.settle rfl)
  | host request => cases stepped; exact .serve
  | answer result =>
      cases waiting with
      | nil => cases stepped
      | cons activation waiting => cases stepped; exact .of_resume
  | dispatch head name args =>
      simp only [next?, Task.advance, Task.lookup] at stepped
      split at stepped
      · next found => cases stepped; exact .find found
      · cases stepped; exact .inner nofun (.lead trivial)
      · split at stepped
        · cases stepped; exact .inner nofun (.settle trivial)
        · cases stepped; exact .inner nofun (.settle rfl)
  | _ => cases stepped; exact .inner nofun (inner_advance id nofun)

end Moment

end CommandScript
