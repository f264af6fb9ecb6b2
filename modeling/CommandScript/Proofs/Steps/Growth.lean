import CommandScript.Proofs.Steps.Change
import CommandScript.Proofs.Steps.Job

/-! What only grows while a machine works: the lines that have been written and the names of the
procedures. A procedure can be defined again, also while it runs, but never with a program that is
not what its body says, so that a call does what evaluating the body would do. -/

namespace CommandScript

/-- Lines are only added, no procedure is lost, and the procedures that are new have been read. -/
structure Grows (s s' : State) : Prop where
  sink : s'.output.sink = s.output.sink
  lines : s.output.lines.toList <+: s'.output.lines.toList
  names : ∀ name, s.procedures.contains name → s'.procedures.contains name
  made : ∀ name procedure, s'.procedures.get? name = some procedure →
    s.procedures.get? name = some procedure ∨ procedure.IsRead

namespace Grows

variable {s s' s'' : State}

theorem of_same (output : s'.output = s.output) (procedures : s'.procedures = s.procedures) :
    Grows s s' where
  sink := by rw [output]
  lines := by rw [output]
  names := by
    intro name defined
    rwa [procedures]
  made := by
    intro name procedure defined
    rw [procedures] at defined
    exact .inl defined

theorem refl (s : State) : Grows s s := of_same rfl rfl

theorem trans (h : Grows s s') (h' : Grows s' s'') : Grows s s'' where
  sink := h'.sink.trans h.sink
  lines := h.lines.trans h'.lines
  names := fun name defined => h'.names name (h.names name defined)
  made := by
    intro name procedure defined
    rcases h'.made name procedure defined with earlier | read
    · exact h.made name procedure earlier
    · exact .inr read

theorem define {procedure : Procedure} (read : procedure.IsRead) (s : State) (name : String) :
    Grows s (s.define name procedure) where
  sink := rfl
  lines := List.prefix_rfl
  names := by
    intro other defined
    by_cases same : other = name
    · subst same
      simp only [State.define, Table.contains, Table.get?_insert_self, Option.isSome_some]
    · simpa only [State.define, Table.contains, Table.get?_insert_of_ne _ _ same] using defined
  made := by
    intro other procedure' defined
    by_cases same : other = name
    · subst same
      rw [State.define, Table.get?_insert_self] at defined
      cases defined
      exact .inr read
    · rw [State.define, Table.get?_insert_of_ne _ _ same] at defined
      exact .inl defined

theorem writeLine {line : String} (written : s.writeLine line = .ok s') : Grows s s' := by
  unfold State.writeLine Output.writeLine at written
  split at written
  · cases written
  · cases written
    refine ⟨rfl, ?_, fun _ defined => defined, fun _ _ defined => .inl defined⟩
    simp only [Array.toList_push, List.prefix_append]

theorem apply {effect : Effect} (plain : effect.IsPlain) (s : State) :
    Grows s (effect.apply s).2 := by
  cases effect with
  | answer | assign | unassign => exact of_same rfl rfl
  | define name procedure => exact .define plain s name
  | write line =>
      simp only [Effect.apply]
      split
      · next written => exact .writeLine written
      · exact refl s

theorem act {builtin : Builtin} {args : List String} {result : Except Signal String}
    (shut : builtin.opening? args = none)
    (acted : Machine.invoke 0 Machine.noEvaluator builtin args s = some (result, s')) :
    Grows s s' := by
  cases raised : builtin.signal? args with
  | some signal =>
      rw [Machine.invoke_signal raised] at acted
      cases acted
      exact refl s
  | none =>
      obtain ⟨effect, plain, acts⟩ := Machine.invoke_acts shut raised
      rw [acts] at acted
      have grown := apply (plain s.valueOf? s.environment).1 s
      rw [Option.some.inj acted] at grown
      exact grown

theorem serve (request : HostStep) (waiting : List Activation) (s : State) :
    Grows s (Moment.serve request waiting s).state := by
  cases request with
  | evaluateSource text resume =>
      simp only [Moment.serve]
      split
      · exact refl s
      · exact of_same rfl rfl
  | writeLine line resume =>
      simp only [Moment.serve]
      split
      · next written => exact .writeLine written
      · exact refl s
  | define name params body resume =>
      simp only [Moment.serve]
      split
      · next made => exact .define (Procedure.isRead_of_make made) s name
      · exact refl s
  | _ => exact of_same rfl rfl

theorem change (changed : Moment.Change s s') : Grows s s' := by
  cases changed with
  | none => exact refl s
  | enterLevel | leaveLevel | enterCall | leaveCall => exact of_same rfl rfl
  | act shut acted => exact .act shut acted
  | serve request waiting => exact .serve request waiting s

theorem reaches {c c' : Moment} (reached : Moment.Reaches c c') : Grows c.state c'.state := by
  induction reached with
  | refl => exact refl _
  | tail _ stepped ih => exact ih.trans (change (.of_next? stepped))

end Grows

/-- The states that a machine can come to. It is made with no procedures, evaluations take it from
one state to another, procedures are made from their bodies and given to it, and from outside all
else can be changed at will. -/
inductive Reachable : State → Prop
  | make {table : Table Builtin} {source : String} {s : State}
      (made : State.make table source = .ok s) : Reachable s
  | evaluate {c c' : Moment} (before : Reachable c.state) (reached : Moment.Reaches c c') :
      Reachable c'.state
  | define {s : State} {params : List String} {body : String} {procedure : Procedure}
      (before : Reachable s) (name : String) (made : Procedure.make params body = .ok procedure) :
      Reachable (s.define name procedure)
  | adjust {s s' : State} (before : Reachable s) (same : s'.procedures = s.procedures) :
      Reachable s'

/-- Every procedure has been read. -/
def State.Coherent (s : State) : Prop :=
  ∀ name procedure, s.procedures.get? name = some procedure → procedure.IsRead

theorem Grows.coherent {s s' : State} (grown : Grows s s') (h : s.Coherent) : s'.Coherent := by
  intro name procedure defined
  rcases grown.made name procedure defined with earlier | read
  · exact h name procedure earlier
  · exact read

theorem Reachable.coherent {s : State} (h : Reachable s) : s.Coherent := by
  induction h with
  | make made =>
      obtain ⟨program, rfl⟩ := State.make_eq made
      intro name procedure defined
      cases defined
  | evaluate _ reached ih => exact (Grows.reaches reached).coherent ih
  | @define s params body procedure _ name made ih =>
      exact (Grows.define (Procedure.isRead_of_make made) s name).coherent ih
  | adjust _ same ih =>
      intro name procedure defined
      rw [same] at defined
      exact ih name procedure defined

namespace Machine

/-- Evaluates the text of a procedure's body in a frame of its own. -/
def callText (fuel : Nat) (name : String) (procedure : Procedure) (args : List String) :
    Eval String := fun s =>
  if args.length = procedure.params.length then
    let entered := { s with scopes := bindParams s.scopes.push procedure.params args }
    match evaluateText fuel procedure.body entered with
    | none => none
    | some (result, s') => some (callResult result, { s' with scopes := s'.scopes.pop })
  else
    Eval.fail (.functionArity name procedure.params.length args.length) s

theorem call_eq_callText {procedure : Procedure} (read : procedure.IsRead) (fuel : Nat)
    (name : String) (args : List String) :
    call (run fuel) name procedure args = callText fuel name procedure args := by
  unfold callText
  rw [evaluateText_of_parse read]
  rfl

end Machine

namespace Job

variable {job : Job} {s s' : State} {c : Moment}

theorem Passes.grows (passed : job.Passes s c) : Grows s c.state := by
  obtain ⟨first, begins, reached⟩ := passed
  have begun : Grows s first.state := by
    cases begins with
    | script read => exact .of_same rfl rfl
    | text part => exact .refl s
  exact begun.trans (.reaches reached)

theorem EndsIn.grows (ended : job.EndsIn s s') : Grows s s' := by
  rcases ended.passes with rfl | ⟨result, passed⟩
  · exact .refl _
  · exact passed.grows

end Job

/-- Whatever a machine is asked to do and however it ends, it adds to the lines that have been
written and loses no procedure. In every state that it can come to, each procedure has been read
from its body, and to call it is to evaluate the body. -/
theorem lines_and_procedures_only_grow :
    (∀ (job : Job) (s : State) (c : Moment), job.Passes s c → Grows s c.state) ∧
    (∀ (job : Job) (s s' : State), job.EndsIn s s' → Grows s s') ∧
    (∀ s, Reachable s → ∀ name procedure, s.procedures.get? name = some procedure →
      Program.parse procedure.body = .ok procedure.program ∧
      ∀ fuel args, Machine.call (Machine.run fuel) name procedure args =
        Machine.callText fuel name procedure args) := by
  refine ⟨fun job s c passed => passed.grows, fun job s s' ended => ended.grows, ?_⟩
  intro s reachable name procedure defined
  have read := reachable.coherent name procedure defined
  exact ⟨read, fun fuel args => Machine.call_eq_callText read fuel name args⟩

/-- A procedure that is defined again while it runs, and then in vain. -/
def redefiningScript : String :=
  "proc f {} { puts a; proc f {} { puts b }; puts c }\nf\nf\nproc f {} \x7b\"\x7d"

def redefiningMachine : State :=
  { machineOf redefiningScript with output := { sink := .capture, lines := #["before"] } }

theorem State.make_machineOf {source : String} (read : (Program.parse source).isOk) :
    State.make Builtin.standard source = .ok (machineOf source) := by
  unfold State.make machineOf
  cases parsed : Program.parse source with
  | error cause => rw [parsed] at read; cases read
  | ok program => rfl

theorem reachable_redefiningMachine : Reachable redefiningMachine := by
  have made : State.make Builtin.standard redefiningScript = .ok (machineOf redefiningScript) :=
    State.make_machineOf (by decide +kernel)
  exact .adjust (.make made) rfl

theorem redefiningMachine_only_grows : ∃ result s',
    (Job.script .own).Passes redefiningMachine ⟨.answer result, [], s'⟩ ∧
    (Job.script .own).EndsIn redefiningMachine s' ∧ Reachable s' ∧
    s'.output.lines = #["before", "a", "c", "b"] ∧ Grows redefiningMachine s' ∧
    ∃ procedure, s'.procedures.get? "f" = some procedure ∧ procedure.body = " puts b " ∧
      Program.parse procedure.body = .ok procedure.program := by
  have ends : ((Script.own.evaluate 8 redefiningMachine).map fun ended =>
      (ended.2.output.lines, (ended.2.procedures.get? "f").map Procedure.body)) =
        some (#["before", "a", "c", "b"], some " puts b ") := by decide +kernel
  obtain ⟨⟨r, s'⟩, ran, left⟩ := Option.map_eq_some_iff.mp ends
  obtain ⟨written, stored⟩ := Prod.mk.inj left
  obtain ⟨procedure, defined, body⟩ := Option.map_eq_some_iff.mp stored
  have ended : (Job.script .own).EndsIn redefiningMachine s' := ⟨8, r, ran⟩
  obtain ⟨result, _, ran⟩ := (Script.evaluate_eq_some_iff rfl).mp ran
  have reached := run_iff_reaches.mp ⟨8, ran⟩
  have reachable : Reachable s' := .evaluate (.adjust reachable_redefiningMachine rfl) reached
  have h := lines_and_procedures_only_grow
  exact ⟨result, s', ⟨_, .script rfl, reached⟩, ended, reachable, written, h.2.1 _ _ _ ended,
    procedure, defined, body, (h.2.2 s' reachable "f" procedure defined).1⟩

end CommandScript
