import CommandScript.Proofs.Steps.Builtins

namespace CommandScript

/-- A relation between states that agree in all that builtins read by themselves, and still agree
after a change that builtins make by themselves. -/
structure Unseen (R : State → State → Prop) : Prop where
  scopes_eq : ∀ {s t}, R s t → t.scopes = s.scopes
  output_eq : ∀ {s t}, R s t → t.output = s.output
  interrupt_eq : ∀ {s t}, R s t → t.interrupt = s.interrupt
  environment_eq : ∀ {s t}, R s t → t.environment = s.environment
  setScopes : ∀ {s t} scopes, R s t → R { s with scopes } { t with scopes }
  setOutput : ∀ {s t} output, R s t → R { s with output } { t with output }
  define : ∀ {s t} name procedure, R s t → R (s.define name procedure) (t.define name procedure)

namespace Unseen

variable {R : State → State → Prop} {s t : State}

theorem valueOf?_eq (h : Unseen R) (related : R s t) : t.valueOf? = s.valueOf? := by
  funext name
  unfold State.valueOf?
  rw [h.scopes_eq related]

theorem checkInterrupt_eq (h : Unseen R) (related : R s t) :
    t.checkInterrupt = s.checkInterrupt := by
  unfold State.checkInterrupt
  rw [h.interrupt_eq related]

theorem setVariable (h : Unseen R) (related : R s t) (name value : String) :
    R (s.setVariable name value) (t.setVariable name value) := by
  unfold State.setVariable
  rw [h.scopes_eq related]
  exact h.setScopes _ related

theorem unsetVariable (h : Unseen R) (related : R s t) (name : String) :
    R (s.unsetVariable name) (t.unsetVariable name) := by
  unfold State.unsetVariable
  rw [h.scopes_eq related]
  exact h.setScopes _ related

theorem apply (h : Unseen R) (related : R s t) (effect : Effect) :
    ∃ t', effect.apply t = ((effect.apply s).1, t') ∧ R (effect.apply s).2 t' := by
  cases effect with
  | answer result => exact ⟨t, rfl, related⟩
  | assign name value => exact ⟨_, rfl, h.setVariable related name value⟩
  | unassign name => exact ⟨_, rfl, h.unsetVariable related name⟩
  | define name procedure => exact ⟨_, rfl, h.define name procedure related⟩
  | write line =>
      simp only [Effect.apply, State.writeLine]
      rw [h.output_eq related]
      cases s.output.writeLine line with
      | error cause => exact ⟨t, rfl, related⟩
      | ok output => exact ⟨_, rfl, h.setOutput output related⟩

theorem act (h : Unseen R) (related : R s t) {builtin : Builtin} {args : List String}
    {r : Except Signal String} {s' : State} (shut : builtin.opening? args = none)
    (acted : Machine.invoke 0 Machine.noEvaluator builtin args s = some (r, s')) :
    ∃ t', Machine.invoke 0 Machine.noEvaluator builtin args t = some (r, t') ∧ R s' t' := by
  cases raises : builtin.signal? args with
  | some signal =>
      rw [Machine.invoke_signal raises] at acted ⊢
      cases acted
      exact ⟨t, rfl, related⟩
  | none =>
      obtain ⟨effect, _, acts⟩ := Machine.invoke_acts shut raises
      obtain ⟨t', applied, related'⟩ := h.apply related (effect s.valueOf? s.environment)
      rw [acts] at acted ⊢
      rw [Option.some.inj acted] at applied related'
      rw [h.valueOf?_eq related, h.environment_eq related, applied]
      exact ⟨t', rfl, related'⟩

end Unseen

/-- What follows a result depends on the state only where a level or a frame is left. -/
theorem Activation.resume_indifferent {activation : Activation} (level : activation ≠ .level)
    (call : activation ≠ .procedure) (result : Except Signal String) (waiting : List Activation) :
    ∃ task waiting', ∀ s, activation.resume result waiting s = ⟨task, waiting', s⟩ := by
  have goOn : ∀ (loop : Loop) last, ∃ task waiting', ∀ s,
      loop.goOn last waiting s = ⟨task, waiting', s⟩ := by
    intro loop last
    unfold Loop.goOn
    cases loop.step <;> exact ⟨_, _, fun _ => rfl⟩
  cases result with
  | error signal =>
      cases activation with
      | level => exact absurd rfl level
      | procedure => exact absurd rfl call
      | loopBody loop last =>
          cases signal with
          | nextRound value => exact goOn loop _
          | _ => exact ⟨_, _, fun _ => rfl⟩
      | _ => exact ⟨_, _, fun _ => rfl⟩
  | ok value =>
      cases activation with
      | level => exact absurd rfl level
      | procedure => exact absurd rfl call
      | branchTest body otherwise =>
          simp only [Activation.resume, Activation.proceed]
          split
          · exact ⟨_, _, fun _ => rfl⟩
          · cases otherwise <;> exact ⟨_, _, fun _ => rfl⟩
      | loopTest loop last =>
          simp only [Activation.resume, Activation.proceed]
          split <;> exact ⟨_, _, fun _ => rfl⟩
      | loopBody loop last => exact goOn loop value
      | _ => exact ⟨_, _, fun _ => rfl⟩

/-- The moments whose next step neither changes the nesting nor looks a name up nor answers a host
command. -/
def Moment.IsOrdinary : Moment → Prop
  | ⟨.program _, _, _⟩ | ⟨.dispatch .., _, _⟩ | ⟨.host _, _, _⟩ => False
  | ⟨.answer _, .level :: _, _⟩ => False
  | _ => True

namespace Unseen

open Moment

variable {R : State → State → Prop} {s t : State}

theorem advance_eq (h : Unseen R) (related : R s t) {task : Task}
    (known : ∀ head name args, task ≠ .dispatch head name args) :
    task.advance t = task.advance s := by
  cases task with
  | dispatch head name args => exact absurd rfl (known head name args)
  | commands last rest =>
      cases rest with
      | nil => rfl
      | cons command rest => simp only [Task.advance, h.checkInterrupt_eq related]
  | word text => simp only [Task.advance, h.valueOf?_eq related]
  | round loop last => simp only [Task.advance, h.checkInterrupt_eq related]
  | arguments head name done rest => cases rest <;> rfl
  | _ => rfl

theorem resume (h : Unseen R) (related : R s t) {activation : Activation}
    (level : activation ≠ .level) (result : Except Signal String) (waiting : List Activation) :
    ∃ t', activation.resume result waiting t =
        { activation.resume result waiting s with state := t' } ∧
      R (activation.resume result waiting s).state t' := by
  by_cases call : activation = .procedure
  · subst call
    have related' := h.setScopes s.scopes.pop related
    refine ⟨{ t with scopes := t.scopes.pop }, ?_, ?_⟩
    · cases result <;> rfl
    · rw [h.scopes_eq related]
      cases result <;> exact related'
  · obtain ⟨task, waiting', same⟩ := Activation.resume_indifferent level call result waiting
    rw [same s, same t]
    exact ⟨t, rfl, related⟩

/-- An ordinary step is the same from two such states, and leads to two such states again. -/
theorem next (h : Unseen R) (related : R s t) {task : Task} {waiting : List Activation}
    {c' : Moment} (ordinary : IsOrdinary ⟨task, waiting, s⟩)
    (stepped : next? ⟨task, waiting, s⟩ = some c') :
    ∃ t', next? ⟨task, waiting, t⟩ = some { c' with state := t' } ∧ R c'.state t' := by
  by_cases active : task.IsActive
  · cases task with
    | program | dispatch | host => exact ordinary.elim
    | invoke builtin args =>
        simp only [next?] at stepped ⊢
        cases opens : builtin.opening? args with
        | some opening =>
            rw [opens] at stepped
            cases stepped
            exact ⟨t, rfl, related⟩
        | none =>
            rw [opens] at stepped
            obtain ⟨⟨r, s'⟩, acted, same⟩ := Option.map_eq_some_iff.mp stepped
            obtain ⟨t', acted', related'⟩ := h.act related opens acted
            cases same
            exact ⟨t', congrArg (Option.map _) acted', related'⟩
    | call name procedure args =>
        simp only [next?] at stepped ⊢
        split at stepped
        · next fits =>
            cases stepped
            rw [if_pos fits, h.scopes_eq related]
            exact ⟨_, rfl, h.setScopes _ related⟩
        · next unfit =>
            cases stepped
            rw [if_neg unfit]
            exact ⟨t, rfl, related⟩
    | answer result =>
        cases waiting with
        | nil => cases stepped
        | cons activation waiting =>
            have level : activation ≠ .level := by
              rintro rfl
              exact ordinary
            obtain ⟨t', resumed, related'⟩ := h.resume related level result waiting
            cases stepped
            exact ⟨t', congrArg some resumed, related'⟩
    | _ => exact active.elim
  · have known : ∀ head name args, task ≠ .dispatch head name args := by
      rintro head name args rfl
      exact ordinary
    rw [next?_of_quiet active] at stepped ⊢
    rw [h.advance_eq related known]
    cases stepped
    exact ⟨t, rfl, related⟩

end Unseen

end CommandScript
