import CommandScript.Proofs.Steps.Script

/-! Without loops every evaluation ends. Procedures, `eval`, branches and brackets can build any
program they like while they run, but each of them goes one level down to run it, and the limit
leaves only so many levels. On one level the commands, their words and the characters of a word run
out by themselves. -/

namespace CommandScript

def Builtin.isLoop : Builtin → Bool
  | .forLoop | .whileLoop => true
  | _ => false

/-- A table of commands of the language without its loops. -/
def Loopless (table : Table Builtin) : Prop :=
  ∀ name builtin, table.get? name = some builtin →
    builtin.isHost = false ∧ builtin.isLoop = false

theorem Loopless.native {table : Table Builtin} (h : Loopless table) : Native table :=
  fun name builtin found => (h name builtin found).1

/-- A state without loops that has fewer than so many levels left. -/
structure Bounded (levels : Nat) (s : State) : Prop where
  loopless : Loopless s.builtins
  room : s.maxDepth - s.depth < levels

theorem Bounded.settled {levels : Nat} {s s' : State} (h : Bounded levels s)
    (settled : Settled False s s') : Bounded levels s' := by
  refine ⟨settled.builtins ▸ h.loopless, ?_⟩
  rw [settled.depth, settled.maxDepth.resolve_left id]
  exact h.room

namespace Eval

variable {α β : Type} {levels : Nat}

/-- An evaluation that ends, and with no fewer levels than it began. -/
def Halts (levels : Nat) (m : Eval α) : Prop :=
  ∀ s, Bounded levels s → ∃ r s', m s = some (r, s') ∧ Bounded levels s'

theorem Halts.pure (a : α) : (Pure.pure a : Eval α).Halts levels :=
  fun s h => ⟨.ok a, s, rfl, h⟩

theorem Halts.fail (cause : Failure) : (Eval.fail cause : Eval α).Halts levels :=
  fun s h => ⟨.error (.failed cause), s, rfl, h⟩

theorem Halts.bind {m : Eval α} {f : α → Eval β} (hm : m.Halts levels)
    (hf : ∀ a, (f a).Halts levels) : (m >>= f).Halts levels := by
  intro s h
  obtain ⟨r, s₁, first, h₁⟩ := hm s h
  rw [bind_apply, first]
  cases r with
  | error signal => exact ⟨.error signal, s₁, rfl, h₁⟩
  | ok a => exact hf a s₁ h₁

theorem Halts.ofExcept (r : Except Failure α) : (Eval.ofExcept r).Halts levels := by
  cases r with
  | ok a => exact .pure a
  | error cause => exact .fail cause

theorem Halts.mapSignal {m : Eval α} (f : Signal → Signal) (hm : m.Halts levels) :
    (Eval.mapSignal f m).Halts levels := by
  intro s h
  obtain ⟨r, s', ended, h'⟩ := hm s h
  unfold Eval.mapSignal
  rw [ended]
  exact ⟨r.mapError f, s', rfl, h'⟩

theorem Halts.checkInterrupt : Eval.checkInterrupt.Halts levels := by
  intro s h
  unfold Eval.checkInterrupt
  split
  · exact ⟨_, s, rfl, h⟩
  · exact ⟨_, s, rfl, h⟩

end Eval

namespace Machine

theorem invoke_halts_of_opening?_eq_none {builtin : Builtin} {args : List String} {levels : Nat}
    (own : builtin.isHost = false) (opens : builtin.opening? args = none) (fuel : Nat)
    (run : Evaluator) : (invoke fuel run builtin args).Halts levels := by
  intro s h
  rw [invoke_eq_of_opening?_eq_none opens]
  obtain ⟨r, s', ended⟩ := invoke_ends opens s
  exact ⟨r, s', ended, h.settled (act_settled own h.loopless.native ended)⟩

section Nesting

/-! Everything that evaluates programs, over an evaluator that halts itself. -/

variable {run : Evaluator} {levels : Nat}

theorem text_halts (hr : ∀ program, (run program).Halts levels) (text : String) :
    (run.text text).Halts levels :=
  .bind (.ofExcept _) hr

theorem choose_halts (hr : ∀ program, (run program).Halts levels) (test body : String)
    (otherwise : Option String) : (choose run test body otherwise).Halts levels := by
  refine .bind (text_halts hr test) fun answer => ?_
  split
  · exact text_halts hr body
  · split
    · exact text_halts hr _
    · exact .pure _

theorem invoke_halts (hr : ∀ program, (run program).Halts levels) {builtin : Builtin}
    (own : builtin.isHost = false) (straight : builtin.isLoop = false) (fuel : Nat)
    (args : List String) : (invoke fuel run builtin args).Halts levels := by
  cases opens : builtin.opening? args with
  | none => exact invoke_halts_of_opening?_eq_none own opens fuel run
  | some opening =>
      unfold Builtin.opening? at opens
      split at opens
      · exact text_halts hr _
      · next test body => exact choose_halts hr test body none
      · next test body word alternative =>
          split at opens
          · next keyword =>
              simp only [invoke, ifElse, if_pos keyword]
              exact choose_halts hr _ _ _
          · cases opens
      · cases straight
      · cases straight
      · cases own
      · cases opens

theorem call_halts (hr : ∀ program, (run program).Halts levels) (name : String)
    (procedure : Procedure) (args : List String) :
    (call run name procedure args).Halts levels := by
  intro s h
  unfold call
  split
  · obtain ⟨r, s', ended, h'⟩ := hr procedure.program
      { s with scopes := bindParams s.scopes.push procedure.params args } ⟨h.loopless, h.room⟩
    dsimp only
    rw [ended]
    exact ⟨callResult r, _, rfl, h'.loopless, h'.room⟩
  · exact Eval.Halts.fail _ s h

/-- The induction is on the characters left: values are put in place and not scanned again. -/
theorem replaceBrackets_halts (hr : ∀ program, (run program).Halts levels) (current : List Char)
    (opened : List (List Char)) (rest : List Char) :
    (Expansion.replaceBrackets run.text current opened rest).Halts levels := by
  induction rest generalizing current opened with
  | nil => exact .pure _
  | cons c rest ih =>
      unfold Expansion.replaceBrackets
      split
      · exact ih _ _
      · split
        · split
          · exact ih _ _
          · exact .bind (text_halts hr _) fun _ => ih _ _
        · exact ih _ _

theorem expandWord_halts (hr : ∀ program, (run program).Halts levels) (text : String) :
    (expandWord run text).Halts levels := by
  intro s h
  exact Eval.Halts.bind (replaceBrackets_halts hr _ _ _) (fun _ => .pure _) s h

theorem commandName_halts (hr : ∀ program, (run program).Halts levels) (head : Token) :
    (commandName run head).Halts levels := by
  unfold commandName
  split
  · exact expandWord_halts hr _
  · exact expandWord_halts hr _
  · exact .fail _
  · exact .pure _

theorem argument_halts (hr : ∀ program, (run program).Halts levels) (token : Token) :
    (argument run token).Halts levels := by
  unfold argument
  split
  · exact .pure _
  · exact expandWord_halts hr _

theorem arguments_halts (hr : ∀ program, (run program).Halts levels) (tokens : List Token) :
    (arguments run tokens).Halts levels := by
  induction tokens with
  | nil => exact .pure _
  | cons token rest ih =>
      exact .bind (argument_halts hr token) fun _ => .bind ih fun _ => .pure _

theorem dispatch_halts (hr : ∀ program, (run program).Halts levels) (fuel : Nat) (head : Token)
    (name : String) (args : List String) : (dispatch fuel run head name args).Halts levels := by
  intro s h
  rw [dispatch_apply]
  cases found : s.builtins.get? name with
  | some builtin =>
      obtain ⟨own, straight⟩ := h.loopless name builtin found
      exact Eval.Halts.mapSignal _ (invoke_halts hr own straight fuel args) s h
  | none =>
      cases s.procedures.get? name with
      | some procedure => exact call_halts hr name procedure args s h
      | none =>
          dsimp only
          split
          · exact ⟨_, s, rfl, h⟩
          · exact ⟨_, s, rfl, h⟩

theorem execute_halts (hr : ∀ program, (run program).Halts levels) (fuel : Nat)
    (command : Command) : (execute fuel run command).Halts levels :=
  .bind (commandName_halts hr _) fun _ => .bind (arguments_halts hr _) fun _ =>
    dispatch_halts hr fuel _ _ _

end Nesting

theorem sequence_halts {levels : Nat} {execute : Command → Eval String}
    (he : ∀ command, (execute command).Halts levels) (last : Option String) (program : Program) :
    (sequence execute last program).Halts levels := by
  induction program generalizing last with
  | nil => exact .pure _
  | cons command rest ih =>
      exact .bind .checkInterrupt fun _ => .bind (.mapSignal _ (he command)) fun _ => ih _

/-- Going down takes one of the levels that are left, and coming back gives it back. -/
theorem nested_halts {levels : Nat} {m : Eval String} (hm : m.Halts levels) :
    (nested m).Halts (levels + 1) := by
  intro s h
  unfold nested
  split
  · exact ⟨_, s, rfl, h⟩
  · next deeper =>
      have room := h.room
      have inner : Bounded levels { s with depth := s.depth + 1 } :=
        ⟨h.loopless, by dsimp only; omega⟩
      obtain ⟨r, s', ended, h'⟩ := hm _ inner
      have room' := h'.room
      rw [ended]
      exact ⟨r, _, rfl, h'.loopless, by dsimp only; omega⟩

/-- Fuel for the levels that are left is enough. -/
theorem run_halts (fuel : Nat) (program : Program) : (run fuel program).Halts fuel := by
  induction fuel generalizing program with
  | zero =>
      intro s h
      exact absurd h.room (Nat.not_lt_zero _)
  | succ fuel ih => exact nested_halts (sequence_halts (execute_halts ih fuel) none program)

end Machine

open Moment

variable {s : State}

theorem Bounded.of_loopless (loopless : Loopless s.builtins) :
    Bounded (s.maxDepth - s.depth + 1) s :=
  ⟨loopless, Nat.lt_succ_self _⟩

theorem Loopless.reaches (loopless : Loopless s.builtins) (program : Program) :
    ∃ r s', Reaches ⟨.program program, [], s⟩ ⟨.answer r, [], s'⟩ := by
  obtain ⟨r, s', ended, _⟩ := Machine.run_halts _ program s (.of_loopless loopless)
  exact ⟨r, s', run_iff_reaches.mp ⟨_, ended⟩⟩

theorem Loopless.ends (loopless : Loopless s.builtins) (script : Script) :
    ∃ r s', script.Ends s r s' := by
  cases read : script.program s with
  | error cause => exact ⟨_, _, Script.ends_of_evaluate (Script.evaluate_of_error read 0)⟩
  | ok program =>
      have marked : Loopless { s with commandsSealed := true }.builtins := loopless
      obtain ⟨r, s', reached⟩ := marked.reaches program
      exact ⟨_, s', Script.Passes.ends ⟨program, read, reached⟩⟩

theorem Moment.lasts_of_infinite {moments : Nat → Moment}
    (steps : ∀ n, (moments n).next? = some (moments (n + 1))) (n : Nat) :
    (moments 0).Lasts n := by
  have from_each : ∀ k, (moments k).Lasts n := by
    induction n with
    | zero => exact fun _ => trivial
    | succ n ih => exact fun k => ⟨moments (k + 1), steps k, ih (k + 1)⟩
  exact from_each 0

/-- Where no builtin is a loop, every program, text and script ends, and no sequence of steps goes
on forever. -/
theorem loopless_evaluation_ends {s : State} (loopless : Loopless s.builtins) :
    (∀ program, ∃ fuel r s', Machine.run fuel program s = some (r, s')) ∧
    (∀ text, ∃ fuel r s', Machine.evaluateText fuel text s = some (r, s')) ∧
    (∀ script : Script, ∃ r s', script.Ends s r s') ∧
    (∀ program (moments : Nat → Moment), moments 0 = ⟨.program program, [], s⟩ →
      ¬ ∀ n, (moments n).next? = some (moments (n + 1))) := by
  have bounded := Bounded.of_loopless loopless
  refine ⟨?_, ?_, loopless.ends, ?_⟩
  · intro program
    obtain ⟨r, s', ended, _⟩ := Machine.run_halts _ program s bounded
    exact ⟨_, r, s', ended⟩
  · intro text
    obtain ⟨r, s', ended, _⟩ := Machine.text_halts (Machine.run_halts _) text s bounded
    exact ⟨_, r, s', ended⟩
  · intro program moments first steps
    obtain ⟨r, s', reached⟩ := loopless.reaches program
    obtain ⟨n, short⟩ := reached.not_lasts rfl
    exact short (first ▸ lasts_of_infinite steps n)

/-- The commands of the language without `while` and `for`. -/
def straightTable : Table Builtin := (Builtin.standard.erase "while").erase "for"

theorem loopless_straightTable : Loopless straightTable := by
  intro name builtin found
  have all : straightTable.entries.all fun entry => !entry.2.isHost && !entry.2.isLoop := by
    decide +kernel
  have member := List.all_eq_true.mp all _ (Table.mem_of_get? found)
  simpa only [Bool.and_eq_true, Bool.not_eq_true'] using member

/-- A procedure that applies its argument to itself, and is applied to itself. -/
def selfApplication : String := "proc f {g} { set r [eval {$g $g}] }\nf f"

def shallowMachine : State :=
  { machineOf selfApplication with builtins := straightTable, maxDepth := 7 }

theorem self_application_ends : Loopless shallowMachine.builtins ∧ ∃ cause s',
    Script.own.Ends shallowMachine (.error cause) s' ∧ cause.root = .depthExceeded 7 := by
  have loopless : Loopless shallowMachine.builtins := loopless_straightTable
  refine ⟨loopless, ?_⟩
  have root : ((Script.own.evaluate 8 shallowMachine).bind fun ended => rootOf? ended.1) =
      some (.depthExceeded 7) := by decide +kernel
  obtain ⟨⟨r, s'⟩, ended, failed⟩ := Option.bind_eq_some_iff.mp root
  obtain ⟨r', s'', ends⟩ := (loopless_evaluation_ends loopless).2.2.1 .own
  obtain ⟨rfl, rfl⟩ := ends.unique _ _ _ ended
  cases r with
  | ok outcome => cases failed
  | error cause => exact ⟨cause, s', ends, Option.some.inj failed⟩

end CommandScript
