import CommandScript.Proofs.Steps.Continuation
import CommandScript.Proofs.Steps.Resources

/-! Parameters and the variables of callers. As long as no `unset` takes a parameter away, the frame
of its call holds it, so that every assignment to it stops there at the latest, also one made inside
of further calls. -/

namespace CommandScript

/-- What an effect makes of the scopes: it assigns one variable, unbinds one, or leaves them alone. -/
theorem Effect.scopes_apply (effect : Effect) (s : State) :
    (effect.apply s).2.scopes = s.scopes ∨
    (∃ name value, (effect.apply s).2.scopes = s.scopes.set name value) ∨
    ∃ name, effect.unbound? = some name ∧ (effect.apply s).2.scopes = s.scopes.clear name := by
  cases effect with
  | answer result => exact .inl rfl
  | assign name value => exact .inr (.inl ⟨name, value, rfl⟩)
  | unassign name => exact .inr (.inr ⟨name, rfl, rfl⟩)
  | define name procedure => exact .inl rfl
  | write line =>
      left
      simp only [apply]
      split
      · next written =>
          obtain ⟨output, rfl⟩ := State.writeLine_eq written
          rfl
      · rfl

namespace Moment

variable {c c' : Moment} {waiting : List Activation} {s s' : State} {name : String} {k : Nat}
  {outside : List (Option String)}

/-- Under the frames of the calls that wait, the next frame holds a name, and the frames further out
hold under it what they should. -/
def Shields (name : String) (outside : List (Option String)) (c : Moment) : Prop :=
  ∃ value, (c.state.scopes.column name).drop (calls c.waiting) = some value :: outside

theorem Inner.shields (h : Inner waiting s c)
    (holds : ∃ value, (s.scopes.column name).drop (calls waiting) = some value :: outside) :
    c.Shields name outside := by
  rw [Shields, h.state, h.calls_levels.1]
  exact holds

theorem shields_act {builtin : Builtin} {args : List String} {result : Except Signal String}
    (shut : builtin.opening? args = none) (kept : builtin.unset? args ≠ some name)
    (acted : Machine.invoke 0 Machine.noEvaluator builtin args s = some (result, s'))
    (holds : ∃ value, (s.scopes.column name).drop k = some value :: outside) :
    ∃ value, (s'.scopes.column name).drop k = some value :: outside := by
  cases raised : builtin.signal? args with
  | some signal =>
      rw [Machine.invoke_signal raised] at acted
      cases acted
      exact holds
  | none =>
      obtain ⟨effect, plain, acts⟩ := Machine.invoke_acts shut raised
      rw [acts] at acted
      have unbound := (plain s.valueOf? s.environment).2
      have scopes := (effect s.valueOf? s.environment).scopes_apply s
      rw [Option.some.inj acted, unbound] at scopes
      rcases scopes with same | ⟨other, new, same⟩ | ⟨other, cleared, same⟩
      · rw [same]
        exact holds
      · rw [same]
        by_cases here : name = other
        · subst here
          obtain ⟨value, holds⟩ := holds
          exact Scopes.drop_column_set holds new
        · rw [Scopes.column_set_of_ne s.scopes here]
          exact holds
      · have distinct : name ≠ other := by
          rintro rfl
          exact kept cleared
        rw [same, Scopes.column_clear_of_ne s.scopes distinct]
        exact holds

/-- A call on top of others leaves them their frames when it ends. -/
theorem shields_leaveCall {task task' : Task}
    (h : Shields name outside ⟨task, .procedure :: waiting, s⟩) :
    Shields name outside ⟨task', waiting, { s with scopes := s.scopes.pop }⟩ := by
  obtain ⟨value, holds⟩ := h
  refine ⟨value, ?_⟩
  rw [calls_call] at holds
  have inside : 1 < s.scopes.height := by
    have length := congrArg List.length holds
    simp only [List.length_drop, Scopes.column, List.length_map, Scopes.length_frames,
      List.length_cons] at length
    omega
  simp only [Scopes.column_pop inside]
  rw [List.drop_tail]
  exact holds

/-- Every step but an `unset` of the name keeps it in the frame of the call. -/
theorem Shields.next (native : c.Native) (kept : c.task ≠ .invoke .unset [name])
    (h : c.Shields name outside) (stepped : c.next? = some c') : c'.Shields name outside := by
  cases Move.of_next? stepped with
  | inner pending next => exact next.shields h
  | find found => exact h
  | enterLevel room => exact h
  | @enterCall callee procedure args waiting s fits =>
      obtain ⟨value, holds⟩ := h
      refine ⟨value, ?_⟩
      rw [calls_call, ← List.drop_tail, Scopes.tail_column_bindParams]
      exact holds
  | @act builtin args result waiting s s' shut acted =>
      refine shields_act shut ?_ acted h
      intro unbinds
      obtain ⟨rfl, rfl⟩ := Builtin.unset?_eq_some_iff.mp unbinds
      exact kept rfl
  | askHost => cases native.task
  | serve => exact native.task.elim
  | answerHost host => exact absurd (List.forall_mem_cons.mp native.waiting).1 host
  | leaveLevel => exact h
  | leaveCall => exact shields_leaveCall h
  | @proceed value activation waiting s c' next =>
      cases activation with
      | procedure =>
          cases stepped
          exact shields_leaveCall h
      | _ => exact next.shields h
  | @interrupt signal activation waiting s plain =>
      obtain ⟨value, holds⟩ := h
      rw [calls_of_isInner plain] at holds
      by_cases opened : activation.IsOpenTo signal
      · rw [Activation.interrupt_of_isOpenTo plain.native opened, plain.leave]
        exact ⟨value, holds⟩
      · exact (inner_of_caught plain opened).shields ⟨value, holds⟩

/-- Along a run without such an `unset` the frame of the call holds the name throughout. -/
theorem Shields.reaches (native : c.Native)
    (kept : ∀ d, Reaches c d → d.task ≠ .invoke .unset [name]) (h : c.Shields name outside)
    (reached : Reaches c c') : c'.Shields name outside := by
  induction reached with
  | refl => exact h
  | @tail d d' before stepped ih =>
      exact ih.next (native.reaches before) (kept d before) stepped

end Moment

def Task.unset? : Task → Option String
  | .invoke builtin args => builtin.unset? args
  | _ => none

open Moment

variable {s s' : State} {procedure : Procedure} {args : List String}

theorem Moment.Reaches.of_body {c : Moment} (name : String)
    (fits : args.length = procedure.params.length)
    (reached : Reaches ⟨.program procedure.program, [],
      { s with scopes := Machine.bindParams s.scopes.push procedure.params args }⟩ c) :
    Reaches ⟨.call name procedure args, [], s⟩ (c.within [.procedure]) :=
  .head (if_pos fits) (reached.within [.procedure])

/-- A call with a parameter of some name leaves every frame of its caller with what it held under
this name, bound or not, however it ends and whatever it does, unless the name is unset during the
call. -/
theorem parameters_protect_callers (native : CommandScript.Native s.builtins) (name : String)
    (fits : args.length = procedure.params.length) {x : String} (param : x ∈ procedure.params)
    (kept : ∀ c, Reaches ⟨.call name procedure args, [], s⟩ c → c.task ≠ .invoke .unset [x])
    {fuel : Nat} {r : Except Signal String}
    (ran : Machine.call (Machine.run fuel) name procedure args s = some (r, s')) :
    s'.scopes.frames.map (·.get? x) = s.scopes.frames.map (·.get? x) := by
  unfold Machine.call at ran
  rw [if_pos fits] at ran
  dsimp only at ran
  split at ran
  · cases ran
  · next result last body =>
      cases ran
      have reached := run_iff_reaches.mp ⟨fuel, body⟩
      have native' : Moment.Native ⟨.program procedure.program, [],
          { s with scopes := Machine.bindParams s.scopes.push procedure.params args }⟩ :=
        ⟨trivial, List.forall_mem_nil _, native⟩
      have first : Shields x (s.scopes.column x) ⟨.program procedure.program, [],
          { s with scopes := Machine.bindParams s.scopes.push procedure.params args }⟩ :=
        Scopes.column_bindParams fits param s.scopes
      have after := first.reaches native'
        (fun c inside => kept (c.within [.procedure]) (inside.of_body name fits)) reached
      obtain ⟨value, holds⟩ := after
      have column : last.scopes.column x = some value :: s.scopes.column x := holds
      have inside : 1 < last.scopes.height := by
        have length := congrArg List.length column
        have positive := s.scopes.height_pos
        simp only [Scopes.column, List.length_map, Scopes.length_frames, List.length_cons] at length
        omega
      have popped := Scopes.column_pop inside x
      rw [column] at popped
      exact popped

/-- A body that changes its parameter, lets another procedure change it, calls itself and exits. -/
def busyBody : String := "incr x; meddle $n; if {set n} {f 20 {}}; exit $x"

/-- A body that changes a variable of its caller and unsets its own parameter. -/
def meddlingBody : String := "append x !; unset n"

def readProcedure (params : List String) (body : String) : Procedure :=
  ⟨params, body, (Program.parse body).toOption.getD []⟩

/-- A state inside a call, where both frames hold `x` and the procedures are defined. -/
def busyMachine : State :=
  { machineOf "" with
    scopes := .inner ⟨[("x", "1"), ("n", "7")]⟩ (.globals ⟨[("x", "g")]⟩)
    procedures := .ofList [("f", readProcedure ["x", "n"] busyBody),
      ("meddle", readProcedure ["n"] meddlingBody)] }

theorem busy_call_protects_caller : ∃ s',
    Machine.call (Machine.run 9) "f" (readProcedure ["x", "n"] busyBody) ["3", "yes"] busyMachine =
      some (.error (.exited "21!"), s') ∧
    (∀ c, Reaches ⟨.call "f" (readProcedure ["x", "n"] busyBody) ["3", "yes"], [], busyMachine⟩ c →
      c.task ≠ .invoke .unset ["x"]) ∧
    s'.scopes.frames.map (·.get? "x") = [some "1", some "g"] := by
  have ends : ((Machine.call (Machine.run 9) "f" (readProcedure ["x", "n"] busyBody) ["3", "yes"]
      busyMachine).map Prod.fst) = some (.error (.exited "21!")) := by decide +kernel
  obtain ⟨⟨r, s'⟩, ran, rfl⟩ := Option.map_eq_some_iff.mp ends
  have kept : ∀ c,
      Reaches ⟨.call "f" (readProcedure ["x", "n"] busyBody) ["3", "yes"], [], busyMachine⟩ c →
      c.task ≠ .invoke .unset ["x"] := by
    intro c reached unsets
    have tested := of_reaches_of_always (fun c => c.task.unset? ≠ some "x") 400
      (by decide +kernel) reached
    rw [unsets] at tested
    simp [Task.unset?, Builtin.unset?] at tested
  have native : CommandScript.Native busyMachine.builtins := native_standard
  have before : busyMachine.scopes.frames.map (·.get? "x") = [some "1", some "g"] := by
    decide +kernel
  have fits : ["3", "yes"].length = (readProcedure ["x", "n"] busyBody).params.length := rfl
  have param : "x" ∈ (readProcedure ["x", "n"] busyBody).params := .head _
  refine ⟨s', ran, kept, ?_⟩
  rw [← before]
  exact parameters_protect_callers native "f" fits param kept ran

end CommandScript
