import CommandScript.Proofs.Steps.Agreement
import CommandScript.Proofs.Steps.Native

namespace CommandScript

/-- What a machine is told to run as a whole. -/
inductive Script where
  | own
  | source (text : String)

namespace Script

open Moment

variable {script : Script} {s s' : State} {c : Moment}

def program (s : State) : Script → Except Failure Program
  | .own => .ok s.program
  | .source text => Program.parse text

def evaluate (fuel : Nat) (s : State) : Script → Option (Except Failure Outcome × State)
  | .own => Machine.evaluateProgram fuel s
  | .source text => Machine.evaluateSource fuel text s

/-- Running a script has one end, whatever the fuel, and some fuel is enough for it. -/
structure Ends (script : Script) (s : State) (r : Except Failure Outcome) (s' : State) : Prop where
  exists_fuel : ∃ fuel, script.evaluate fuel s = some (r, s')
  unique : ∀ fuel r' s'', script.evaluate fuel s = some (r', s'') → r' = r ∧ s'' = s'

/-- The moments that a script passes through. -/
def Passes (script : Script) (s : State) (c : Moment) : Prop :=
  ∃ program, script.program s = .ok program ∧
    Reaches ⟨.program program, [], { s with commandsSealed := true }⟩ c

theorem Passes.trans {c' : Moment} (passed : script.Passes s c) (reached : Reaches c c') :
    script.Passes s c' := by
  obtain ⟨program, read, first⟩ := passed
  exact ⟨program, read, Relation.ReflTransGen.trans first reached⟩

theorem Passes.native (native : CommandScript.Native s.builtins) (passed : script.Passes s c) :
    c.Native := by
  obtain ⟨program, _, reached⟩ := passed
  refine Native.reaches ?_ reached
  exact ⟨trivial, List.forall_mem_nil _, native⟩

theorem evaluate_of_program {program : Program} (read : script.program s = .ok program)
    (fuel : Nat) : script.evaluate fuel s = Evaluator.script (Machine.run fuel) program s := by
  cases script with
  | own => cases read; rfl
  | source text =>
      have parsed : Program.parse text = .ok program := read
      simp only [evaluate, Machine.evaluateSource, Evaluator.source, parsed]

theorem evaluate_eq_some_iff {program : Program} {r : Except Failure Outcome}
    (read : script.program s = .ok program) {fuel : Nat} :
    script.evaluate fuel s = some (r, s') ↔ ∃ result, Outcome.ofResult result = r ∧
      Machine.run fuel program { s with commandsSealed := true } = some (result, s') := by
  rw [evaluate_of_program read]
  unfold Evaluator.script
  constructor
  · intro ran
    obtain ⟨⟨result, last⟩, ended, same⟩ := Option.map_eq_some_iff.mp ran
    cases same
    exact ⟨result, rfl, ended⟩
  · rintro ⟨result, rfl, ended⟩
    rw [ended]
    rfl

theorem Passes.ends {result : Except Signal String}
    (passed : script.Passes s ⟨.answer result, [], s'⟩) :
    script.Ends s (Outcome.ofResult result) s' := by
  obtain ⟨program, read, reached⟩ := passed
  obtain ⟨fuel, ran⟩ := run_iff_reaches.mpr reached
  refine ⟨⟨fuel, (evaluate_eq_some_iff read).mpr ⟨result, rfl, ran⟩⟩, ?_⟩
  intro fuel' r' s'' ended
  obtain ⟨result', rfl, ran'⟩ := (evaluate_eq_some_iff read).mp ended
  have same := Reaches.end_unique (run_iff_reaches.mp ⟨fuel', ran'⟩) reached rfl rfl
  cases same
  exact ⟨rfl, rfl⟩

theorem evaluate_of_error {cause : Failure} (unread : script.program s = .error cause)
    (fuel : Nat) : script.evaluate fuel s = some (.error cause, s) := by
  cases script with
  | own => cases unread
  | source text =>
      have parsed : Program.parse text = .error cause := unread
      simp only [evaluate, Machine.evaluateSource, Evaluator.source, parsed]

theorem ends_of_evaluate {fuel : Nat} {r : Except Failure Outcome}
    (ended : script.evaluate fuel s = some (r, s')) : script.Ends s r s' := by
  cases read : script.program s with
  | error cause =>
      have unread := evaluate_of_error read
      rw [unread] at ended
      cases ended
      refine ⟨⟨fuel, unread fuel⟩, fun fuel' r' s'' ended' => ?_⟩
      rw [unread] at ended'
      cases ended'
      exact ⟨rfl, rfl⟩
  | ok program =>
      obtain ⟨result, rfl, ran⟩ := (evaluate_eq_some_iff read).mp ended
      exact Passes.ends ⟨program, read, run_iff_reaches.mp ⟨fuel, ran⟩⟩

/-- The state behind a script, for which some amount of fuel is enough. -/
def after (fuel : Nat) (s : State) (script : Script) : State :=
  ((script.evaluate fuel s).map Prod.snd).getD s

theorem ends_after (fuel : Nat) {r : Except Failure Outcome}
    (ended : (script.evaluate fuel s).map Prod.fst = some r) :
    script.Ends s r (script.after fuel s) := by
  obtain ⟨⟨_, s'⟩, ran, rfl⟩ := Option.map_eq_some_iff.mp ended
  unfold after
  rw [ran]
  exact ends_of_evaluate ran

theorem ends_iff_reaches {program : Program} {r : Except Failure Outcome}
    (read : script.program s = .ok program) :
    script.Ends s r s' ↔ ∃ result, Outcome.ofResult result = r ∧
      Reaches ⟨.program program, [], { s with commandsSealed := true }⟩
        ⟨.answer result, [], s'⟩ := by
  constructor
  · intro ends
    obtain ⟨fuel, ended⟩ := ends.exists_fuel
    obtain ⟨result, same, ran⟩ := (evaluate_eq_some_iff read).mp ended
    exact ⟨result, same, run_iff_reaches.mp ⟨fuel, ran⟩⟩
  · rintro ⟨result, rfl, reached⟩
    exact Passes.ends ⟨program, read, reached⟩

theorem evaluate_restored {fuel : Nat} {r : Except Failure Outcome}
    (ended : script.evaluate fuel s = some (r, s')) : Restored s s' := by
  cases script with
  | own => exact Machine.evaluateProgram_restored ended
  | source text => exact Machine.evaluateSource_restored ended

end Script

/-- A fresh machine with the commands of the language and a script that can be read. -/
def machineOf (text : String) : State :=
  { program := (Program.parse text).toOption.getD [], builtins := Builtin.standard }

end CommandScript
