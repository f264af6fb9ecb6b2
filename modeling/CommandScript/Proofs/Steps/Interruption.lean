import CommandScript.Proofs.Steps.Script

/-! Evaluations that are interrupted from outside. The flag that stops an evaluation belongs to the
surrounding process, which may set and clear it between any two steps. -/

namespace CommandScript

/-- The machine with the flag set or cleared. It matters only if the machine watches the flag. -/
def State.flag (s : State) (raised : Bool) : State :=
  { s with interrupt := { s.interrupt with raised } }

namespace Moment

/-- What happens next: a step of the evaluation, or the flag is set or cleared. -/
inductive Follows (c : Moment) : Moment → Prop
  | step {c'} (stepped : c.next? = some c') : Follows c c'
  | flag (raised : Bool) : Follows c { c with state := c.state.flag raised }

variable {c c' : Moment}

/-- The moments that an evaluation can pass through while the flag is set and cleared. -/
def FlaggedReaches : Moment → Moment → Prop := Relation.ReflTransGen Follows

theorem Reaches.flagged (reached : Reaches c c') : FlaggedReaches c c' :=
  Relation.ReflTransGen.mono (fun _ _ stepped => .step stepped) c c' reached

/-- What every step preserves, and the flag leaves alone, holds all along. -/
theorem FlaggedReaches.invariant {P : Moment → Prop}
    (preserved : ∀ {c c' : Moment}, P c → c.next? = some c' → P c')
    (flagged : ∀ {c : Moment} (raised : Bool), P c → P { c with state := c.state.flag raised })
    (reached : FlaggedReaches c c') (first : P c) : P c' := by
  induction reached with
  | refl => exact first
  | tail _ follows ih =>
      cases follows with
      | step stepped => exact preserved ih stepped
      | flag raised => exact flagged raised ih

theorem Native.flaggedReaches (h : c.Native) (reached : FlaggedReaches c c') : c'.Native :=
  reached.invariant Native.next (fun _ own => ⟨own.task, own.waiting, own.builtins⟩) h

end Moment

namespace Script

open Moment

variable {script : Script} {s s' : State} {c c' : Moment}

/-- The moments that a script can pass through while the flag is set and cleared. -/
def FlaggedPasses (script : Script) (s : State) (c : Moment) : Prop :=
  ∃ program, script.program s = .ok program ∧
    FlaggedReaches ⟨.program program, [], { s with commandsSealed := true }⟩ c

/-- The ends that a script can have if the flag is set and cleared while it runs. -/
inductive FlaggedEnds (script : Script) (s : State) : Except Failure Outcome → State → Prop
  | unread {cause} (refused : script.program s = .error cause) :
      FlaggedEnds script s (.error cause) s
  | done {result s'} (passed : script.FlaggedPasses s ⟨.answer result, [], s'⟩) :
      FlaggedEnds script s (Outcome.ofResult result) s'

theorem FlaggedPasses.trans (passed : script.FlaggedPasses s c) (reached : FlaggedReaches c c') :
    script.FlaggedPasses s c' := by
  obtain ⟨program, read, first⟩ := passed
  exact ⟨program, read, Relation.ReflTransGen.trans first reached⟩

theorem FlaggedPasses.native (native : CommandScript.Native s.builtins)
    (passed : script.FlaggedPasses s c) : c.Native := by
  obtain ⟨program, _, reached⟩ := passed
  refine Native.flaggedReaches ?_ reached
  exact ⟨trivial, List.forall_mem_nil _, native⟩

/-- A script that is left alone ends in one of these ways. -/
theorem Ends.flagged {r : Except Failure Outcome} (ends : script.Ends s r s') :
    script.FlaggedEnds s r s' := by
  cases read : script.program s with
  | error cause =>
      obtain ⟨rfl, rfl⟩ := ends.unique 0 _ _ (evaluate_of_error read 0)
      exact .unread read
  | ok program =>
      obtain ⟨result, rfl, reached⟩ := (ends_iff_reaches read).mp ends
      exact .done ⟨program, read, reached.flagged⟩

end Script

end CommandScript
