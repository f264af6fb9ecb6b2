import CommandScript.Proofs.Steps.Move

/-! What a builtin that evaluates nothing does: it raises the one control signal it is there to
raise, or it answers with a value or a failure and makes at most one change to the state. Which of
these, it decides by the values of variables and by the surrounding process alone. -/

namespace CommandScript

/-- The control signal that a builtin raises. -/
def Builtin.signal? : Builtin → List String → Option Signal
  | .leaveLoop, [] => some (.leaveLoop none)
  | .continueLoop, [] => some (.nextRound none)
  | .returnValue, [value] => some (.returned value)
  | .exitScript, [value] => some (.exited value)
  | _, _ => none

theorem Builtin.cases_of_signal? {builtin : Builtin} {args : List String} {signal : Signal}
    (raises : builtin.signal? args = some signal) :
    (builtin = .leaveLoop ∧ args = [] ∧ signal = .leaveLoop none) ∨
    (builtin = .continueLoop ∧ args = [] ∧ signal = .nextRound none) ∨
    (∃ value, builtin = .returnValue ∧ args = [value] ∧ signal = .returned value) ∨
    (∃ value, builtin = .exitScript ∧ args = [value] ∧ signal = .exited value) := by
  unfold Builtin.signal? at raises
  split at raises
  · exact .inl ⟨rfl, rfl, (Option.some.inj raises).symm⟩
  · exact .inr (.inl ⟨rfl, rfl, (Option.some.inj raises).symm⟩)
  · exact .inr (.inr (.inl ⟨_, rfl, rfl, (Option.some.inj raises).symm⟩))
  · exact .inr (.inr (.inr ⟨_, rfl, rfl, (Option.some.inj raises).symm⟩))
  · cases raises

theorem Builtin.signal?_inj (builtin' : Builtin) (args' : List String) {builtin : Builtin}
    {args : List String} {signal : Signal} (raises : builtin.signal? args = some signal)
    (raises' : builtin'.signal? args' = some signal) : builtin = builtin' ∧ args = args' := by
  rcases cases_of_signal? raises with ⟨rfl, rfl, rfl⟩ | ⟨rfl, rfl, rfl⟩ | ⟨_, rfl, rfl, rfl⟩ |
    ⟨_, rfl, rfl, rfl⟩ <;>
  rcases cases_of_signal? raises' with ⟨rfl, rfl, same⟩ | ⟨rfl, rfl, same⟩ |
    ⟨_, rfl, rfl, same⟩ | ⟨_, rfl, rfl, same⟩ <;>
  cases same <;> exact ⟨rfl, rfl⟩

theorem Builtin.opening?_of_signal? {builtin : Builtin} {args : List String} {signal : Signal}
    (raises : builtin.signal? args = some signal) : builtin.opening? args = none := by
  rcases cases_of_signal? raises with ⟨rfl, rfl, _⟩ | ⟨rfl, rfl, _⟩ | ⟨_, rfl, rfl, _⟩ |
    ⟨_, rfl, rfl, _⟩ <;> rfl

def Builtin.unset? : Builtin → List String → Option String
  | .unset, [name] => some name
  | _, _ => none

theorem Builtin.unset?_eq_some_iff {builtin : Builtin} {args : List String} {name : String} :
    builtin.unset? args = some name ↔ builtin = .unset ∧ args = [name] := by
  constructor
  · intro unbinds
    unfold Builtin.unset? at unbinds
    split at unbinds
    · cases unbinds
      exact ⟨rfl, rfl⟩
    · cases unbinds
  · rintro ⟨rfl, rfl⟩
    rfl

/-- The program of a procedure is what its body says. -/
def Procedure.IsRead (procedure : Procedure) : Prop :=
  Program.parse procedure.body = .ok procedure.program

theorem Procedure.isRead_of_make {params : List String} {body : String} {procedure : Procedure}
    (made : make params body = .ok procedure) : procedure.IsRead := by
  unfold make at made
  cases read : Program.parse body with
  | error cause =>
      rw [read] at made
      cases made
  | ok program =>
      rw [read] at made
      cases made
      exact read

/-- What a builtin does by itself, raising a signal apart. -/
inductive Effect where
  | answer (result : Except Failure String)
  | assign (name value : String)
  | unassign (name : String)
  | define (name : String) (procedure : Procedure)
  | write (line : String)

namespace Effect

def apply (s : State) : Effect → Except Signal String × State
  | .answer result => (result.mapError .failed, s)
  | .assign name value => (.ok value, s.setVariable name value)
  | .unassign name => (.ok "", s.unsetVariable name)
  | .define name procedure => (.ok "", s.define name procedure)
  | .write line =>
    match s.writeLine line with
    | .ok s' => (.ok line, s')
    | .error cause => (.error (.failed cause), s)

/-- An effect that names no command in a failure and defines no procedure but as its body says. -/
def IsPlain : Effect → Prop
  | .answer (.error cause) => cause.root = cause
  | .define _ procedure => procedure.IsRead
  | _ => True

def unbound? : Effect → Option String
  | .unassign name => some name
  | _ => none

theorem isPlain_apply {effect : Effect} (plain : effect.IsPlain) (s : State) :
    CommandScript.IsPlain (effect.apply s).1 := by
  cases effect with
  | answer result =>
      cases result with
      | ok value => trivial
      | error cause => exact plain
  | write line =>
      simp only [apply, State.writeLine, Output.writeLine]
      cases s.output.sink <;> trivial
  | _ => trivial

end Effect

namespace Eval

/-- An evaluation that has one effect, chosen by what it can read of the state. Which name it
unbinds, if any, is known beforehand. -/
def Acts (unbound : Option String) (m : Eval String) : Prop :=
  ∃ effect : (String → Option String) → Table String → Effect,
    (∀ value table, (effect value table).IsPlain ∧ (effect value table).unbound? = unbound) ∧
      ∀ s, m s = some ((effect s.valueOf? s.environment).apply s)

theorem Acts.pure (value : String) : (Pure.pure value : Eval String).Acts none :=
  ⟨fun _ _ => .answer (.ok value), fun _ _ => ⟨trivial, rfl⟩, fun _ => rfl⟩

theorem Acts.fail {cause : Failure} (own : cause.root = cause) :
    (Eval.fail cause : Eval String).Acts none :=
  ⟨fun _ _ => .answer (.error cause), fun _ _ => ⟨own, rfl⟩, fun _ => rfl⟩

theorem Acts.ofExcept {r : Except Failure String} (rooted : Rooted r) :
    (Eval.ofExcept r).Acts none := by
  cases r with
  | ok value => exact .pure value
  | error cause => exact .fail (rooted cause rfl)

end Eval

theorem Procedure.make_rooted (params : List String) (body : String) :
    Rooted (make params body) := by
  unfold make
  cases read : Program.parse body with
  | ok program => exact .ok _
  | error cause => exact .error (Program.parse_rooted body cause read)

namespace Machine

theorem readNumber_rooted (text : String) : Rooted (readNumber text) := by
  unfold readNumber
  split
  · exact .ok _
  · exact .error rfl

theorem currentNumber_rooted (value : Option String) : Rooted (currentNumber value) := by
  unfold currentNumber
  split
  · exact .ok _
  · exact .ok _
  · exact readNumber_rooted _

theorem applyOperator_rooted (lhs op rhs : String) : Rooted (applyOperator lhs op rhs) := by
  unfold applyOperator
  split
  · exact .ok _
  · next operator _ _ =>
      refine (readNumber_rooted lhs).bind fun a => (readNumber_rooted rhs).bind fun b => ?_
      cases operator with
      | div | rem =>
          simp only [NumberOperator.apply]
          split
          · exact .error rfl
          · exact .ok _
      | _ => exact .ok _
  · exact .error rfl

theorem matchText_rooted (pattern text : String) : Rooted (matchText pattern text) := by
  unfold matchText
  split
  · exact .ok _
  · exact .error rfl

/-- The effect of adding a step to a number, either of which may be no number. -/
def adjustment (operation : Number → Number → Quantity) (name : String) :
    Except Failure Number → Except Failure Number → Effect
  | .error cause, _ => .answer (.error cause)
  | .ok _, .error cause => .answer (.error cause)
  | .ok current, .ok amount => .assign name (operation current amount).print

theorem adjustment_isPlain (operation : Number → Number → Quantity) (name : String)
    {current amount : Except Failure Number} (hc : Rooted current) (ha : Rooted amount) :
    (adjustment operation name current amount).IsPlain ∧
      (adjustment operation name current amount).unbound? = none := by
  cases current with
  | error cause => exact ⟨hc cause rfl, rfl⟩
  | ok current =>
      cases amount with
      | error cause => exact ⟨ha cause rfl, rfl⟩
      | ok amount => exact ⟨trivial, rfl⟩

theorem adjust_acts (operation : Number → Number → Quantity) (name : String)
    {step : Except Failure Number} (rooted : Rooted step) :
    (adjust operation name step).Acts none := by
  refine ⟨fun value _ => adjustment operation name (currentNumber (value name)) step,
    fun _ _ => adjustment_isPlain operation name (currentNumber_rooted _) rooted, fun s => ?_⟩
  unfold adjust
  simp only [Eval.bind_apply, Eval.getState]
  cases currentNumber (s.valueOf? name) with
  | error cause => rfl
  | ok current =>
      cases step with
      | error cause => rfl
      | ok amount => rfl

section Families

variable {builtin : Builtin} {args : List String}

/-- A builtin that is to evaluate its arguments and does not has been given wrong ones. -/
theorem exists_fail_of_shut (evaluates : builtin ∈ [.evaluate, .forLoop, .ifElse, .whileLoop])
    (opens : builtin.opening? args = none) :
    ∃ cause, cause.root = cause ∧ ∀ fuel run, invoke fuel run builtin args = Eval.fail cause := by
  simp only [List.mem_cons, List.not_mem_nil, or_false] at evaluates
  rcases evaluates with rfl | rfl | rfl | rfl
  · simp only [invoke, evaluate]
    split
    · cases opens
    · exact ⟨_, rfl, fun _ _ => rfl⟩
  · simp only [invoke, forLoop]
    split
    · cases opens
    · exact ⟨_, rfl, fun _ _ => rfl⟩
  · simp only [invoke, ifElse]
    split
    · cases opens
    · split
      · next keyword =>
          simp only [Builtin.opening?, if_pos keyword] at opens
          cases opens
      · exact ⟨_, rfl, fun _ _ => rfl⟩
    · exact ⟨_, rfl, fun _ _ => rfl⟩
  · simp only [invoke, whileLoop]
    split
    · cases opens
    · exact ⟨_, rfl, fun _ _ => rfl⟩

theorem exists_fail_of_quiet
    (controls : builtin ∈ [.continueLoop, .exitScript, .leaveLoop, .returnValue])
    (quiet : builtin.signal? args = none) :
    ∃ cause, cause.root = cause ∧ ∀ fuel run, invoke fuel run builtin args = Eval.fail cause := by
  simp only [List.mem_cons, List.not_mem_nil, or_false] at controls
  rcases controls with rfl | rfl | rfl | rfl
  · cases args with
    | nil => cases quiet
    | cons arg rest => exact ⟨_, rfl, fun _ _ => rfl⟩
  · simp only [invoke, exitScript]
    split
    · cases quiet
    · exact ⟨_, rfl, fun _ _ => rfl⟩
  · cases args with
    | nil => cases quiet
    | cons arg rest => exact ⟨_, rfl, fun _ _ => rfl⟩
  · simp only [invoke, returnValue]
    split
    · cases quiet
    · exact ⟨_, rfl, fun _ _ => rfl⟩

theorem append_acts (args : List String) : (append args).Acts none := by
  cases args with
  | nil => exact .fail rfl
  | cons name pieces =>
      exact ⟨fun value _ => .assign name (pieces.foldl (· ++ ·) ((value name).getD "")),
        fun _ _ => ⟨trivial, rfl⟩, fun _ => rfl⟩

theorem increment_acts (args : List String) : (increment args).Acts none := by
  unfold increment
  split
  · exact adjust_acts _ _ (readNumber_rooted _)
  · exact adjust_acts _ _ (readNumber_rooted _)
  · exact .fail rfl

theorem decrement_acts (args : List String) : (decrement args).Acts none := by
  unfold decrement
  split
  · exact adjust_acts _ _ (readNumber_rooted _)
  · exact adjust_acts _ _ (readNumber_rooted _)
  · exact .fail rfl

theorem environment_acts (args : List String) : (environment args).Acts none := by
  unfold environment
  split
  · next name =>
      exact ⟨fun _ table => .answer (.ok ((table.get? name).getD "")),
        fun _ _ => ⟨trivial, rfl⟩, fun _ => rfl⟩
  · exact .fail rfl

theorem expression_acts (args : List String) : (expression args).Acts none := by
  unfold expression
  split
  · exact .ofExcept (applyOperator_rooted _ _ _)
  · exact .fail rfl

theorem matchPattern_acts (args : List String) : (matchPattern args).Acts none := by
  unfold matchPattern
  split
  · exact .ofExcept (matchText_rooted _ _)
  · exact .fail rfl

theorem procedure_acts (args : List String) : (procedure args).Acts none := by
  unfold procedure
  split
  · next name params body =>
      cases made : Procedure.make ((Text.words params.toList).map String.ofList) body with
      | error cause => exact .fail (Procedure.make_rooted _ _ cause made)
      | ok procedure =>
          exact ⟨fun _ _ => .define name procedure,
            fun _ _ => ⟨Procedure.isRead_of_make made, rfl⟩, fun _ => rfl⟩
  · exact .fail rfl

theorem putLine_acts (args : List String) : (putLine args).Acts none := by
  unfold putLine
  split
  · next line =>
      refine ⟨fun _ _ => .write line, fun _ _ => ⟨trivial, rfl⟩, fun s => ?_⟩
      simp only [Eval.bind_apply, Eval.writeLine, Effect.apply]
      cases s.writeLine line <;> rfl
  · exact .fail rfl

theorem set_acts (args : List String) : (set args).Acts none := by
  unfold set
  split
  · next name =>
      exact ⟨fun value _ => .answer (.ok ((value name).getD "")),
        fun _ _ => ⟨trivial, rfl⟩, fun _ => rfl⟩
  · next name value =>
      exact ⟨fun _ _ => .assign name value, fun _ _ => ⟨trivial, rfl⟩, fun _ => rfl⟩
  · exact .fail rfl

theorem unset_acts (args : List String) : (unset args).Acts (Builtin.unset? .unset args) := by
  unfold unset
  split
  · next name => exact ⟨fun _ _ => .unassign name, fun _ _ => ⟨trivial, rfl⟩, fun _ => rfl⟩
  · next other =>
      have none : Builtin.unset? .unset args = none := by
        refine Option.eq_none_iff_forall_ne_some.mpr fun name unbinds => ?_
        exact other name (Builtin.unset?_eq_some_iff.mp unbinds).2
      rw [none]
      exact .fail rfl

/-- A builtin that neither evaluates anything nor raises a control signal has one effect. -/
theorem invoke_acts (opens : builtin.opening? args = none) (quiet : builtin.signal? args = none) :
    (invoke 0 noEvaluator builtin args).Acts (builtin.unset? args) := by
  cases builtin with
  | evaluate | forLoop | ifElse | whileLoop =>
      obtain ⟨cause, own, fails⟩ := exists_fail_of_shut (by simp) opens
      rw [fails]
      exact .fail own
  | continueLoop | exitScript | leaveLoop | returnValue =>
      obtain ⟨cause, own, fails⟩ := exists_fail_of_quiet (by simp) quiet
      rw [fails]
      exact .fail own
  | append => exact append_acts args
  | comment => exact .pure ""
  | decrement => exact decrement_acts args
  | environment => exact environment_acts args
  | expression => exact expression_acts args
  | increment => exact increment_acts args
  | matchPattern => exact matchPattern_acts args
  | procedure => exact procedure_acts args
  | putLine => exact putLine_acts args
  | set => exact set_acts args
  | unset => exact unset_acts args
  | host act => cases opens

end Families

/-- A builtin that neither evaluates anything nor raises a control signal ends with a value or a
failure. -/
theorem invoke_plain {builtin : Builtin} {args : List String}
    (opens : builtin.opening? args = none) (quiet : builtin.signal? args = none) (s : State) :
    ∃ r s', invoke 0 noEvaluator builtin args s = some (r, s') ∧ IsPlain r := by
  obtain ⟨effect, plain, acts⟩ := invoke_acts opens quiet
  exact ⟨_, _, acts s, Effect.isPlain_apply (plain _ _).1 s⟩

theorem invoke_signal {builtin : Builtin} {args : List String} {signal : Signal}
    (raises : builtin.signal? args = some signal) (s : State) :
    invoke 0 noEvaluator builtin args s = some (.error signal, s) := by
  rcases Builtin.cases_of_signal? raises with ⟨rfl, rfl, rfl⟩ | ⟨rfl, rfl, rfl⟩ |
    ⟨_, rfl, rfl, rfl⟩ | ⟨_, rfl, rfl, rfl⟩ <;> rfl

theorem invoke_ends {builtin : Builtin} {args : List String}
    (opens : builtin.opening? args = none) (s : State) :
    ∃ r s', invoke 0 noEvaluator builtin args s = some (r, s') := by
  cases raises : builtin.signal? args with
  | some signal => exact ⟨_, _, invoke_signal raises s⟩
  | none =>
      obtain ⟨r, s', ended, _⟩ := invoke_plain opens raises s
      exact ⟨r, s', ended⟩

/-- What a builtin does by itself is a change that every stable relation allows. -/
theorem act_keeps {R : State → State → Prop} (h : Stable True R) {builtin : Builtin}
    {args : List String} {s s' : State} {r : Except Signal String}
    (acted : invoke 0 noEvaluator builtin args s = some (r, s')) : R s s' :=
  invoke_keeps h (fun _ => .exhausted) 0 builtin args (.inl trivial) _ _ _ (.inl trivial) acted

/-- A builtin that evaluates nothing does not depend on the evaluator. -/
theorem invoke_eq_of_opening?_eq_none {builtin : Builtin} {args : List String}
    (opens : builtin.opening? args = none) (fuel : Nat) (run : Evaluator) :
    invoke fuel run builtin args = invoke 0 noEvaluator builtin args := by
  cases builtin with
  | evaluate | forLoop | ifElse | whileLoop =>
      obtain ⟨cause, _, fails⟩ := exists_fail_of_shut (by simp) opens
      rw [fails, fails]
  | host act => cases opens
  | _ => rfl

end Machine

end CommandScript
