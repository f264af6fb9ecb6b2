import CommandScript.Proofs.Steps.Script

namespace CommandScript

inductive Job where
  | script (script : Script)
  | text (text : String)

namespace Job

open Moment

variable {job : Job} {s s' : State} {c : Moment}

/-- The first moment of a job, which a script has only if it can be read. -/
inductive Begins (s : State) : Job → Moment → Prop
  | script {script : Script} {program : Program} (read : script.program s = .ok program) :
      Begins s (.script script) ⟨.program program, [], { s with commandsSealed := true }⟩
  | text (text : String) : Begins s (.text text) ⟨.text text, [], s⟩

/-- The moments that a job passes through, whether it ends or not. -/
def Passes (job : Job) (s : State) (c : Moment) : Prop :=
  ∃ first, job.Begins s first ∧ Reaches first c

/-- The state that a job leaves behind, however it ends. -/
def EndsIn (s s' : State) : Job → Prop
  | .script whole => ∃ fuel r, whole.evaluate fuel s = some (r, s')
  | .text part => ∃ fuel r, Machine.evaluateText fuel part s = some (r, s')

/-- What holds of every moment of a job if its first moment has it and each step keeps it. -/
theorem Passes.invariant {P : Moment → Prop}
    (begins : ∀ first, job.Begins s first → P first)
    (preserved : ∀ {c c' : Moment}, job.Passes s c → P c → c.next? = some c' → P c')
    (passed : job.Passes s c) : P c := by
  obtain ⟨first, begun, reached⟩ := passed
  induction reached with
  | refl => exact begins first begun
  | tail reached stepped ih => exact preserved ⟨first, begun, reached⟩ ih stepped

/-- A job leaves the state of its last moment behind, if it has passed through any. -/
theorem EndsIn.passes (ended : job.EndsIn s s') :
    s' = s ∨ ∃ result, job.Passes s ⟨.answer result, [], s'⟩ := by
  cases job with
  | script whole =>
      obtain ⟨fuel, r, ended⟩ := ended
      cases read : whole.program s with
      | error cause =>
          rw [Script.evaluate_of_error read] at ended
          cases ended
          exact .inl rfl
      | ok program =>
          obtain ⟨result, _, ran⟩ := (Script.evaluate_eq_some_iff read).mp ended
          exact .inr ⟨result, _, .script read, run_iff_reaches.mp ⟨fuel, ran⟩⟩
  | text part =>
      obtain ⟨fuel, r, ended⟩ := ended
      exact .inr ⟨r, _, .text part, evaluateText_iff_reaches.mp ⟨fuel, ended⟩⟩

end Job

namespace Moment

/-- The first moment within so many steps that passes a test. -/
def find? (test : Moment → Bool) : Nat → Moment → Option Moment
  | 0, _ => none
  | n + 1, c => if test c then some c else c.next?.bind (find? test n)

theorem reaches_of_find? {test : Moment → Bool} {n : Nat} {c c' : Moment}
    (found : c.find? test n = some c') : Reaches c c' ∧ test c' := by
  induction n generalizing c with
  | zero => cases found
  | succ n ih =>
      unfold find? at found
      split at found
      · next here =>
          cases found
          exact ⟨.refl, here⟩
      · obtain ⟨following, stepped, further⟩ := Option.bind_eq_some_iff.mp found
        obtain ⟨reached, here⟩ := ih further
        exact ⟨.head stepped reached, here⟩

/-- Whether an evaluation ends within so many steps and passes a test at every moment. -/
def always (test : Moment → Bool) : Nat → Moment → Bool
  | 0, _ => false
  | n + 1, c => test c && (c.next?.map (always test n)).getD true

theorem of_reaches_of_always (test : Moment → Bool) (n : Nat) {c c' : Moment}
    (tested : c.always test n = true) (reached : Reaches c c') : test c' = true := by
  induction reached using Relation.ReflTransGen.head_induction_on generalizing n with
  | refl =>
      cases n with
      | zero => cases tested
      | succ n => exact (Bool.and_eq_true_iff.mp tested).1
  | head stepped _ ih =>
      cases n with
      | zero => cases tested
      | succ n =>
          have rest := (Bool.and_eq_true_iff.mp tested).2
          rw [stepped] at rest
          exact ih n rest

end Moment

/-- A test that holds within so many steps of a machine's own script holds at some moment of it. -/
theorem Job.exists_passes_of_find? (s : State) (test : Moment → Bool) (n : Nat)
    (found : (Moment.find? test n
      ⟨.program s.program, [], { s with commandsSealed := true }⟩).isSome) :
    ∃ c, (Job.script .own).Passes s c ∧ test c := by
  obtain ⟨c, reached⟩ := Option.isSome_iff_exists.mp found
  obtain ⟨passed, here⟩ := Moment.reaches_of_find? reached
  exact ⟨c, ⟨_, .script rfl, passed⟩, here⟩

end CommandScript
