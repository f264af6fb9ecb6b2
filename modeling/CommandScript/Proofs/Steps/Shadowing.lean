import CommandScript.Proofs.Steps.Alike
import CommandScript.Proofs.Steps.Script

namespace CommandScript

/-- Two states that differ at most in procedures under the names of builtins. -/
def SameButShadowed (s t : State) : Prop :=
  ∃ procedures, t = { s with procedures } ∧
    ∀ name, s.builtins.get? name = none → procedures.get? name = s.procedures.get? name

namespace SameButShadowed

variable {s t : State}

theorem symm (h : SameButShadowed s t) : SameButShadowed t s := by
  obtain ⟨procedures, rfl, visible⟩ := h
  exact ⟨s.procedures, rfl, fun name absent => (visible name absent).symm⟩

theorem define (h : SameButShadowed s t) (name : String) (procedure : Procedure) :
    SameButShadowed (s.define name procedure) (t.define name procedure) := by
  obtain ⟨procedures, rfl, visible⟩ := h
  refine ⟨procedures.insert name procedure, rfl, fun other absent => ?_⟩
  simp only [State.define]
  by_cases same : other = name
  · rw [same, Table.get?_insert_self, Table.get?_insert_self]
  · rw [Table.get?_insert_of_ne _ _ same, Table.get?_insert_of_ne _ _ same]
    exact visible other absent

theorem unseen : Unseen SameButShadowed where
  scopes_eq := by rintro s t ⟨procedures, rfl, _⟩; rfl
  output_eq := by rintro s t ⟨procedures, rfl, _⟩; rfl
  interrupt_eq := by rintro s t ⟨procedures, rfl, _⟩; rfl
  environment_eq := by rintro s t ⟨procedures, rfl, _⟩; rfl
  setScopes := by rintro s t scopes ⟨procedures, rfl, visible⟩; exact ⟨procedures, rfl, visible⟩
  setOutput := by rintro s t output ⟨procedures, rfl, visible⟩; exact ⟨procedures, rfl, visible⟩
  define name procedure h := h.define name procedure

/-- A name stands for the same builtin or procedure, whatever procedures builtins hide. -/
theorem lookup_eq (h : SameButShadowed s t) (head : Token) (name : String) (args : List String) :
    Task.lookup t head name args = Task.lookup s head name args := by
  obtain ⟨procedures, rfl, visible⟩ := h
  simp only [Task.lookup]
  cases found : s.builtins.get? name with
  | some builtin => rfl
  | none => rw [visible name found]

end SameButShadowed

namespace Moment

variable {c c' : Moment} {t : State}

theorem next_sameButShadowed (native : c.Native) (same : SameButShadowed c.state t)
    (stepped : c.next? = some c') :
    ∃ t', next? { c with state := t } = some { c' with state := t' } ∧
      SameButShadowed c'.state t' := by
  obtain ⟨task, waiting, s⟩ := c
  by_cases ordinary : IsOrdinary ⟨task, waiting, s⟩
  · exact SameButShadowed.unseen.next same ordinary stepped
  · cases task with
    | program program =>
        obtain ⟨procedures, rfl, visible⟩ := same
        simp only [next?] at stepped ⊢
        split at stepped
        · next deep =>
            cases stepped
            rw [if_pos deep]
            exact ⟨_, rfl, procedures, rfl, visible⟩
        · next room =>
            cases stepped
            rw [if_neg room]
            exact ⟨_, rfl, procedures, rfl, visible⟩
    | dispatch head name args =>
        simp only [next?, Task.advance] at stepped ⊢
        rw [same.lookup_eq]
        cases stepped
        exact ⟨t, rfl, same⟩
    | host request => exact native.task.elim
    | answer result =>
        cases waiting with
        | nil => cases stepped
        | cons activation waiting =>
            cases activation with
            | level =>
                obtain ⟨procedures, rfl, visible⟩ := same
                cases stepped
                cases result <;> exact ⟨_, rfl, procedures, rfl, visible⟩
            | _ => exact absurd trivial ordinary
    | _ => exact absurd trivial ordinary

/-- Runs are the same, step by step, whatever procedures builtins hide. -/
theorem reaches_sameButShadowed (native : c.Native) (same : SameButShadowed c.state t)
    (reached : Reaches c c') :
    ∃ t', Reaches { c with state := t } { c' with state := t' } ∧ SameButShadowed c'.state t' := by
  induction reached with
  | refl => exact ⟨t, .refl, same⟩
  | tail before stepped ih =>
      obtain ⟨t₁, reached₁, same₁⟩ := ih
      obtain ⟨t₂, stepped₂, same₂⟩ := next_sameButShadowed (native.reaches before) same₁ stepped
      exact ⟨t₂, .tail reached₁ stepped₂, same₂⟩

end Moment

open Moment

variable {s t s' : State}

theorem run_sameButShadowed {program : Program} {fuel : Nat} {r : Except Signal String}
    (native : CommandScript.Native s.builtins) (same : SameButShadowed s t)
    (ran : Machine.run fuel program s = some (r, s')) :
    ∃ t', (∃ fuel', Machine.run fuel' program t = some (r, t')) ∧ SameButShadowed s' t' := by
  have first : Moment.Native ⟨.program program, [], s⟩ := ⟨trivial, List.forall_mem_nil _, native⟩
  obtain ⟨t', reached, same'⟩ :=
    reaches_sameButShadowed first same (run_iff_reaches.mp ⟨fuel, ran⟩)
  exact ⟨t', run_iff_reaches.mpr reached, same'⟩

theorem Script.ends_sameButShadowed {script : Script} {r : Except Failure Outcome}
    (native : CommandScript.Native s.builtins) (same : SameButShadowed s t)
    (ends : script.Ends s r s') : ∃ t', script.Ends t r t' ∧ SameButShadowed s' t' := by
  have alike : script.program t = script.program s := by
    obtain ⟨procedures, rfl, _⟩ := same
    cases script <;> rfl
  cases read : script.program s with
  | error cause =>
      obtain ⟨fuel, ended⟩ := ends.exists_fuel
      rw [evaluate_of_error read] at ended
      cases ended
      exact ⟨t, ends_of_evaluate (evaluate_of_error (alike.trans read) fuel), same⟩
  | ok program =>
      obtain ⟨result, rfl, reached⟩ := (ends_iff_reaches read).mp ends
      have first : Moment.Native ⟨.program program, [], { s with commandsSealed := true }⟩ :=
        ⟨trivial, List.forall_mem_nil _, native⟩
      have same₁ : SameButShadowed { s with commandsSealed := true }
          { t with commandsSealed := true } := by
        obtain ⟨procedures, rfl, visible⟩ := same
        exact ⟨procedures, rfl, visible⟩
      obtain ⟨t', reached', same'⟩ := reaches_sameButShadowed first same₁ reached
      exact ⟨t', (ends_iff_reaches (alike.trans read)).mpr ⟨result, rfl, reached'⟩, same'⟩

/-- A procedure with the name of a builtin does not show in what programs and scripts do: from
states that differ in such procedures alone they end in the same ways, and the states behind them
differ in such procedures alone. -/
theorem shadowed_procedures_do_not_show {s t : State} (native : CommandScript.Native s.builtins)
    (same : SameButShadowed s t) :
    (∀ program r,
      (∀ fuel s', Machine.run fuel program s = some (r, s') →
        ∃ t', (∃ fuel', Machine.run fuel' program t = some (r, t')) ∧ SameButShadowed s' t') ∧
      (∀ fuel t', Machine.run fuel program t = some (r, t') →
        ∃ s', (∃ fuel', Machine.run fuel' program s = some (r, s')) ∧ SameButShadowed s' t')) ∧
    (∀ (script : Script) r,
      (∀ s', script.Ends s r s' → ∃ t', script.Ends t r t' ∧ SameButShadowed s' t') ∧
      (∀ t', script.Ends t r t' → ∃ s', script.Ends s r s' ∧ SameButShadowed s' t')) := by
  have native' : CommandScript.Native t.builtins := by
    obtain ⟨procedures, rfl, _⟩ := same
    exact native
  refine ⟨fun program r => ⟨?_, ?_⟩, fun script r => ⟨?_, ?_⟩⟩
  · intro fuel s' ran
    exact run_sameButShadowed native same ran
  · intro fuel t' ran
    obtain ⟨s', ran', same'⟩ := run_sameButShadowed native' same.symm ran
    exact ⟨s', ran', same'.symm⟩
  · intro s' ends
    exact Script.ends_sameButShadowed native same ends
  · intro t' ends
    obtain ⟨s', ends', same'⟩ := Script.ends_sameButShadowed native' same.symm ends
    exact ⟨s', ends', same'.symm⟩

/-- A script that redefines a builtin and calls it in three ways. -/
def shadowingScript : String :=
  "set name puts\nproc puts {line} {exit 1}\nputs one\n$name two\neval {[set name] three}"

/-- The machine of the script with procedures that its builtins hide. -/
def shadowedMachine : State :=
  ((machineOf shadowingScript).define "set" ⟨[], "", []⟩).define "eval" ⟨["x"], "", []⟩

theorem shadowing_script_does_not_show : ∃ s' t',
    SameButShadowed (machineOf shadowingScript) shadowedMachine ∧
      Script.own.Ends (machineOf shadowingScript) (.ok (.normal "three")) s' ∧
      Script.own.Ends shadowedMachine (.ok (.normal "three")) t' ∧
      s'.output.lines = #["one", "two", "three"] ∧ SameButShadowed s' t' := by
  have same : SameButShadowed (machineOf shadowingScript) shadowedMachine := by
    refine ⟨_, rfl, fun name absent => ?_⟩
    have set : name ≠ "set" := by
      rintro rfl
      exact absurd absent (by decide +kernel)
    have eval : name ≠ "eval" := by
      rintro rfl
      exact absurd absent (by decide +kernel)
    rw [Table.get?_insert_of_ne _ _ eval]
    exact Table.get?_insert_of_ne _ _ set
  have ends : Script.own.Ends (machineOf shadowingScript) (.ok (.normal "three"))
      (Script.own.after 5 (machineOf shadowingScript)) := Script.ends_after 5 (by decide +kernel)
  obtain ⟨t', ends', same'⟩ :=
    ((shadowed_procedures_do_not_show native_standard same).2 .own (.ok (.normal "three"))).1 _ ends
  exact ⟨_, t', same, ends, ends', by decide +kernel, same'⟩

end CommandScript
