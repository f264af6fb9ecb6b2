import CommandScript.Proofs.Steps.Unwinding

namespace CommandScript

/-- The tasks that invoke a builtin or a procedure. -/
def Task.IsInvocation : Task → Prop
  | .invoke .. | .call .. => True
  | _ => False

/-- From a moment on a script does nothing but end with a result. -/
structure Script.Stops (script : Script) (s : State) (c : Moment) (r : Except Failure Outcome) :
    Prop where
  silent : ∀ c', c.Reaches c' → ¬ c'.task.IsInvocation
  ends : ∃ s', script.Ends s r s' ∧ s'.scopes.height = s.scopes.height ∧ Untouched c.state s'

open Moment Activation

variable {script : Script} {s : State} {c c' : Moment}

theorem Moment.Doomed.silent (h : c.Doomed) (reached : Reaches c c') : ¬ c'.task.IsInvocation := by
  obtain ⟨signal, signalled, _⟩ := (reached.invariant Doomed.next h).uncaught
  rw [signalled]
  exact id

/-- A signal that nothing catches ends the script, changed at most in the commands it names. -/
theorem Script.Passes.stops {signal : Signal} (native : CommandScript.Native s.builtins)
    (passed : script.Passes s c) (signalled : c.task = .answer (.error signal))
    (uncaught : ∀ activation : Activation, activation.IsOpenTo signal) :
    ∃ signal', signal'.core = signal.core ∧
      script.Stops s c (Outcome.ofResult (.error signal')) := by
  have own := passed.native native
  have doomed : c.Doomed := ⟨own, signal, signalled, uncaught⟩
  obtain ⟨task, waiting, state⟩ := c
  cases signalled
  have relayed := relays_unwind [] state own.waiting fun other _ => uncaught other
  rw [List.append_nil] at relayed
  have ends := (passed.trans relayed.reaches).ends
  obtain ⟨fuel, ended⟩ := ends.exists_fuel
  have untouched : Untouched state (unwind waiting signal state).2 :=
    Untouched.unwind ⟨rfl, rfl, List.suffix_rfl⟩ waiting signal
  exact ⟨_, core_unwind waiting signal state, fun _ => doomed.silent, _, ends,
    (Script.evaluate_restored ended).height, untouched⟩

end CommandScript
