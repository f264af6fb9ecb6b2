import CommandScript.Proofs.Steps.Script

namespace CommandScript

variable {s : State}

theorem Effect.state_of_failed {effect : Effect} {signal : Signal}
    (failed : (effect.apply s).1 = .error signal) :
    (∃ cause, signal = .failed cause) ∧ (effect.apply s).2 = s := by
  cases effect with
  | answer result =>
      cases result with
      | ok value => cases failed
      | error cause =>
          cases failed
          exact ⟨⟨cause, rfl⟩, rfl⟩
  | write line =>
      simp only [apply] at failed ⊢
      split at failed
      · cases failed
      · next cause _ =>
          cases failed
          exact ⟨⟨cause, rfl⟩, rfl⟩
  | assign | unassign | define => cases failed

/-- A builtin that evaluates nothing and sends no control signal ends at once, and leaves the state
as it is if it fails. -/
theorem Machine.callBuiltin_of_plain {builtin : Builtin} {args : List String}
    (opens : builtin.opening? args = none) (quiet : builtin.signal? args = none) (fuel : Nat)
    (s : State) :
    ∃ r s', callBuiltin fuel builtin args s = some (r, s') ∧
      ∀ signal, r = .error signal → (∃ cause, signal = .failed cause) ∧ s' = s := by
  obtain ⟨effect, _, acts⟩ := invoke_acts opens quiet
  refine ⟨((effect s.valueOf? s.environment).apply s).1,
    ((effect s.valueOf? s.environment).apply s).2, ?_, fun _ => Effect.state_of_failed⟩
  rw [callBuiltin, invoke_eq_of_opening?_eq_none opens, acts]

/-- The names of the builtins that work on variables, values and procedures. -/
def Builtin.plainNames : List String :=
  ["set", "unset", "append", "incr", "decr", "expr", "regexp", "env", "proc"]

theorem Builtin.plain_of_name {name : String} (member : name ∈ plainNames) :
    ∃ builtin, standard.get? name = some builtin ∧
      ∀ args, builtin.opening? args = none ∧ builtin.signal? args = none := by
  simp only [plainNames, List.mem_cons, List.not_mem_nil, or_false] at member
  rcases member with rfl | rfl | rfl | rfl | rfl | rfl | rfl | rfl | rfl
  all_goals exact ⟨_, rfl, fun _ => ⟨rfl, rfl⟩⟩

theorem Program.exists_of_parse_eq_error {text : String} {cause : Failure}
    (unread : parse text = .error cause) : ∃ line fault, cause = .parse line fault := by
  unfold parse at unread
  dsimp only at unread
  split at unread
  · next line fault _ =>
      cases unread
      exact ⟨line, fault, rfl⟩
  · cases unread

namespace Moment

variable {c c' : Moment}

/-- An evaluation that comes to no command and changes nothing. -/
def Idle (c : Moment) : Prop :=
  ∀ d, Reaches c d → d.state = c.state ∧ ∀ command, d.task ≠ .command command

theorem idle_answer (result : Except Signal String) (s : State) :
    Idle ⟨.answer result, [], s⟩ := by
  intro d reached
  rcases Relation.ReflTransGen.cases_head reached with rfl | ⟨_, stepped, _⟩
  · exact ⟨rfl, nofun⟩
  · cases stepped

theorem Idle.of_next (idle : c'.Idle) (stepped : c.next? = some c') (same : c'.state = c.state)
    (noCommand : ∀ command, c.task ≠ .command command) : c.Idle := by
  intro d reached
  rcases Relation.ReflTransGen.cases_head reached with rfl | ⟨following, stepped', further⟩
  · exact ⟨rfl, noCommand⟩
  · rw [Option.mem_def, stepped] at stepped'
    cases stepped'
    rw [← same]
    exact idle d further

theorem idle_text {text : String} {cause : Failure} (unread : Program.parse text = .error cause)
    (s : State) : Idle ⟨.text text, [], s⟩ := by
  have stepped : next? ⟨.text text, [], s⟩ = some ⟨.failing cause, [], s⟩ := by
    simp only [next?, Task.advance, unread, List.nil_append]
  refine (idle_answer _ s).of_next stepped rfl fun command same => ?_
  cases same

theorem idle_loop {condition body : String} {step : Option String} {cause : Failure}
    (unread : Task.openLoop condition body step = .error cause) (s : State) :
    Idle ⟨.loop condition body step, [], s⟩ := by
  have stepped : next? ⟨.loop condition body step, [], s⟩ = some ⟨.failing cause, [], s⟩ := by
    simp only [next?, Task.advance, unread, List.nil_append]
  refine (idle_answer _ s).of_next stepped rfl fun command same => ?_
  cases same

end Moment

theorem Machine.evaluateText_of_error {text : String} {cause : Failure}
    (unread : Program.parse text = .error cause) (fuel : Nat) (s : State) :
    evaluateText fuel text s = some (.error (.failed cause), s) := by
  simp only [evaluateText, Evaluator.text, unread]
  rfl

namespace Builtin

/-- A call of a builtin that fails without having run a command, in the state that it is made in. -/
structure Refuses (builtin : Builtin) (args : List String) (s : State) (cause : Failure) :
    Prop where
  fails : ∀ fuel, Machine.callBuiltin fuel builtin args s = some (.error (.failed cause), s)
  idle : Moment.Idle ⟨.invoke builtin args, [], s⟩

theorem evaluate_refuses {text : String} {cause : Failure}
    (unread : Program.parse text = .error cause) (s : State) :
    evaluate.Refuses [text] s cause where
  fails := fun fuel => Machine.evaluateText_of_error unread fuel s
  idle := (Moment.idle_text unread s).of_next rfl rfl nofun

theorem whileLoop_refuses {condition body : String} {cause : Failure}
    (unread : Task.openLoop condition body none = .error cause) (s : State) :
    whileLoop.Refuses [condition, body] s cause where
  fails := by
    intro fuel
    simp only [Machine.callBuiltin, Machine.invoke, Machine.whileLoop, Task.loop_eq_openLoop,
      unread]
    rfl
  idle := (Moment.idle_loop unread s).of_next rfl rfl nofun

end Builtin

theorem Task.openLoop_of_condition {condition : String} {cause : Failure}
    (unread : Program.parse condition = .error cause) (body : String) (step : Option String) :
    openLoop condition body step = .error cause := by
  simp only [openLoop, unread]
  rfl

/-- A loop is not opened if its body cannot be read; a condition that cannot be read either is the
one that is reported. -/
theorem Task.openLoop_of_body {body : String} {cause : Failure}
    (unread : Program.parse body = .error cause) (condition : String) (step : Option String) :
    ∃ line fault, openLoop condition body step = .error (.parse line fault) := by
  cases read : Program.parse condition with
  | error first =>
      obtain ⟨line, fault, rfl⟩ := Program.exists_of_parse_eq_error read
      exact ⟨line, fault, openLoop_of_condition read body step⟩
  | ok test =>
      obtain ⟨line, fault, rfl⟩ := Program.exists_of_parse_eq_error unread
      refine ⟨line, fault, ?_⟩
      simp only [openLoop, read, unread]
      rfl

/-- A builtin on variables, values or procedures that fails leaves the state as it was. A text that
cannot be read fails as a script, as a text, under `eval` and as either text of a `while` before any
command has run, and leaves the whole state as it was. -/
theorem failed_commands_leave_no_trace :
    (∀ name ∈ Builtin.plainNames, ∃ builtin, Builtin.standard.get? name = some builtin ∧
      ∀ fuel args s, ∃ r s', Machine.callBuiltin fuel builtin args s = some (r, s') ∧
        ∀ signal, r = .error signal → (∃ cause, signal = .failed cause) ∧ s' = s) ∧
    ∀ text cause, Program.parse text = .error cause →
      (∃ line fault, cause = .parse line fault) ∧
      ∀ s, (∀ fuel, Machine.evaluateSource fuel text s = some (.error cause, s)) ∧
        (∀ c, ¬ (Script.source text).Passes s c) ∧
        (∀ fuel, Machine.evaluateText fuel text s = some (.error (.failed cause), s)) ∧
        Moment.Idle ⟨.text text, [], s⟩ ∧
        Builtin.evaluate.Refuses [text] s cause ∧
        (∀ body, Builtin.whileLoop.Refuses [text, body] s cause) ∧
        ∀ condition, ∃ line fault,
          Builtin.whileLoop.Refuses [condition, text] s (.parse line fault) := by
  constructor
  · intro name member
    obtain ⟨builtin, found, plain⟩ := Builtin.plain_of_name member
    refine ⟨builtin, found, fun fuel args s => ?_⟩
    exact Machine.callBuiltin_of_plain (plain args).1 (plain args).2 fuel s
  · intro text cause unread
    refine ⟨Program.exists_of_parse_eq_error unread, fun s => ⟨?_, ?_, ?_, ?_, ?_, ?_, ?_⟩⟩
    · exact @Script.evaluate_of_error (.source text) s cause unread
    · rintro c ⟨program, read, _⟩
      cases unread.symm.trans read
    · exact fun fuel => Machine.evaluateText_of_error unread fuel s
    · exact Moment.idle_text unread s
    · exact Builtin.evaluate_refuses unread s
    · exact fun body => Builtin.whileLoop_refuses (Task.openLoop_of_condition unread body none) s
    · intro condition
      obtain ⟨line, fault, refused⟩ := Task.openLoop_of_body unread condition none
      exact ⟨line, fault, Builtin.whileLoop_refuses refused s⟩

def wordMachine : State := (machineOf "").setVariable "x" "abc"

theorem wordMachine_keeps_no_trace :
    Machine.callBuiltin 0 .increment ["x"] wordMachine =
      some (.error (.failed (.notANumber "abc")), wordMachine) ∧
    Program.parse "puts \"open" = .error (.parse 1 .openText) ∧
    Builtin.whileLoop.Refuses ["puts \"open", "incr x"] wordMachine (.parse 1 .openText) := by
  have unread : Program.parse "puts \"open" = .error (.parse 1 .openText) := by decide +kernel
  refine ⟨?_, unread, ((failed_commands_leave_no_trace.2 _ _ unread).2 wordMachine).2.2.2.2.2.1 _⟩
  obtain ⟨builtin, found, ends⟩ := failed_commands_leave_no_trace.1 "incr" (by decide)
  cases found
  obtain ⟨r, s', ran, kept⟩ := ends 0 ["x"] wordMachine
  have failed : (Machine.callBuiltin 0 .increment ["x"] wordMachine).map Prod.fst =
      some (.error (.failed (.notANumber "abc"))) := by
    decide +kernel
  rw [ran] at failed ⊢
  cases failed
  rw [(kept _ rfl).2]

end CommandScript
