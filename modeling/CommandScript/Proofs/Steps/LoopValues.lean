import CommandScript.Proofs.Steps.Levels
import CommandScript.Proofs.Steps.LoopForms
import CommandScript.Proofs.Steps.Targets
import Mathlib.Data.List.ReduceOption

/-! The value of a loop. It is the one that the latest iteration has left behind: the value of its
body, or what had last been completed where the body was left. -/

namespace CommandScript

/-- The value that a signal to a loop has been given. -/
def Signal.given? : Signal → Option String
  | .leaveLoop value | .nextRound value => value
  | _ => none

theorem Builtin.given?_of_signal? {builtin : Builtin} {args : List String} {signal : Signal}
    (raises : builtin.signal? args = some signal) : signal.given? = none := by
  rcases cases_of_signal? raises with ⟨_, _, rfl⟩ | ⟨_, _, rfl⟩ | ⟨_, _, _, rfl⟩ |
    ⟨_, _, _, rfl⟩ <;> rfl

namespace Signal

variable {signal signal' : Signal}

theorem isLoopSignal_core (signal : Signal) : signal.core.isLoopSignal = signal.isLoopSignal := by
  cases signal <;> rfl

theorem isLoopSignal_of_core (same : signal'.core = signal.core) :
    signal'.isLoopSignal = signal.isLoopSignal := by
  rw [← isLoopSignal_core, same, isLoopSignal_core]

theorem not_isPlain_of_isLoopSignal {α : Type} (looped : signal.isLoopSignal = true) :
    ¬ IsPlain (.error signal : Except Signal α) := by
  cases signal with
  | leaveLoop | nextRound => exact id
  | _ => cases looped

theorem isOpenTo_iff (looped : signal.isLoopSignal = true) (activation : Activation) :
    activation.IsOpenTo signal ↔ activation.bounds = false := by
  cases signal with
  | leaveLoop | nextRound => exact .rfl
  | _ => cases looped

theorem callResult_ne (looped : signal.isLoopSignal = true) (result : Except Signal String) :
    Machine.callResult result ≠ .error signal := by
  intro left
  cases result with
  | ok value => cases left
  | error given =>
      cases given with
      | returned => cases left
      | _ =>
          cases left
          cases looped

/-- A signal to a loop keeps the value that it has, and takes one from a level that holds one. -/
theorem given?_relabel (looped : signal.isLoopSignal = true) (activation : Activation) :
    (activation.relabel signal).given? = signal.given?.or activation.last?.join := by
  cases activation with
  | sequence last rest =>
      cases last with
      | none => exact (Option.or_none).symm
      | some value =>
          cases signal with
          | leaveLoop given | nextRound given => cases given <;> rfl
          | _ => cases looped
  | builtin name =>
      cases signal with
      | leaveLoop | nextRound => exact (Option.or_none).symm
      | _ => cases looped
  | _ => exact (Option.or_none).symm

theorem head?_reduceOption_last? (activation : Activation) (outer : List Activation) :
    ((activation :: outer).filterMap Activation.last?).reduceOption.head? =
      activation.last?.join.or (outer.filterMap Activation.last?).reduceOption.head? := by
  cases held : activation.last? with
  | none => simp [held]
  | some last => cases last <;> simp [held, List.reduceOption]

/-- Of the levels that a signal to a loop leaves, the first one that holds a value gives it to the
signal. -/
theorem given?_unwind (looped : signal.isLoopSignal = true) (waiting : List Activation)
    (s : State) : (Activation.unwind waiting signal s).1.given? =
      signal.given?.or (waiting.filterMap Activation.last?).reduceOption.head? := by
  induction waiting generalizing signal s with
  | nil => exact (Option.or_none).symm
  | cons activation outer ih =>
      have same := activation.core_relabel signal
      rw [Activation.unwind, ih ((isLoopSignal_of_core same).trans looped), given?_relabel looped,
        head?_reduceOption_last?, Option.or_assoc]

end Signal

namespace Moment

open Activation

variable {first c c' : Moment} {signal : Signal}

/-- A signal to a loop is raised by its builtin, or has been handed on by what waited for it. -/
theorem Native.loopSignal_origin (native : c.Native) (stepped : c.next? = some c')
    (signalled : c'.task = .answer (.error signal)) (looped : signal.isLoopSignal = true) :
    (c.task.signal? = some signal.core ∧ c'.waiting = c.waiting) ∨
      ∃ activation signal', c.task = .answer (.error signal') ∧ signal'.core = signal.core ∧
        c.waiting = activation :: c'.waiting ∧ activation.bounds = false := by
  cases Move.of_next? stepped with
  | inner pending next => exact (Signal.not_isPlain_of_isLoopSignal looped (next.plain signalled)).elim
  | find | enterLevel | enterCall => cases signalled
  | @act builtin args result waiting s s' shut acted =>
      cases signalled
      left
      cases raised : builtin.signal? args with
      | none =>
          obtain ⟨r, after, ended, plain⟩ := Machine.invoke_plain shut raised s
          rw [acted] at ended
          cases ended
          exact (Signal.not_isPlain_of_isLoopSignal looped plain).elim
      | some other =>
          rw [Machine.invoke_signal raised] at acted
          cases acted
          refine ⟨?_, rfl⟩
          rcases Builtin.cases_of_signal? raised with ⟨rfl, rfl, rfl⟩ | ⟨rfl, rfl, rfl⟩ |
            ⟨_, rfl, rfl, rfl⟩ | ⟨_, rfl, rfl, rfl⟩
          · rfl
          · rfl
          · cases looped
          · cases looped
  | askHost => cases native.task
  | serve => exact native.task.elim
  | answerHost host => exact absurd (List.forall_mem_cons.mp native.waiting).1 host
  | leaveLevel => exact .inr ⟨.level, signal, signalled, rfl, rfl, rfl⟩
  | leaveCall => exact absurd (Task.answer.inj signalled) (Signal.callResult_ne looped _)
  | proceed next => exact (Signal.not_isPlain_of_isLoopSignal looped (next.plain signalled)).elim
  | @interrupt signal' activation waiting s plain =>
      by_cases opened : activation.IsOpenTo signal'
      · rw [interrupt_of_isOpenTo plain.native opened] at signalled ⊢
        cases signalled
        have same := activation.core_relabel signal'
        have looped' := (Signal.isLoopSignal_of_core same).symm.trans looped
        exact .inr ⟨activation, signal', rfl, same.symm, rfl,
          (Signal.isOpenTo_iff looped' activation).mp opened⟩
      · have settled := (inner_of_caught plain opened).plain signalled
        exact (Signal.not_isPlain_of_isLoopSignal looped settled).elim

/-- Where a signal to a loop has come to, it was raised inside, with neither a call nor the body of
another loop in between. -/
theorem Reaches.loopSignal_raised (native : first.Native)
    (pending : ∀ result, first.task ≠ .answer result) (reached : Reaches first c)
    (signalled : c.task = .answer (.error signal)) (looped : signal.isLoopSignal = true) :
    ∃ d inner, Reaches first d ∧ Reaches d c ∧ d.task.signal? = some signal.core ∧
      d.waiting = inner ++ c.waiting ∧ ∀ activation ∈ inner, activation.bounds = false := by
  -- Step by step back to the builtin: what hands the signal on is put behind what is inside of it.
  induction reached generalizing signal with
  | refl => exact absurd signalled (pending _)
  | @tail b c before stepped ih =>
      rcases (native.reaches before).loopSignal_origin stepped signalled looped with
        ⟨raises, same⟩ | ⟨activation, signal', handed, core, outside, unbounded⟩
      · exact ⟨b, [], before, .single stepped, raises, same.symm, List.forall_mem_nil _⟩
      · have looped' := (Signal.isLoopSignal_of_core core).trans looped
        obtain ⟨d, inner, reached, further, raises, split, between⟩ := ih handed looped'
        refine ⟨d, inner ++ [activation], reached, .tail further stepped, core ▸ raises, ?_, ?_⟩
        · rw [split, outside, List.append_assoc, List.singleton_append]
        · exact List.forall_mem_append.mpr ⟨between, List.forall_mem_singleton.mpr unbounded⟩

end Moment

open Moment

/-- The body of a loop is left by a builtin, invoked somewhere inside of it with neither a call nor
the body of another loop in between. -/
structure Leaves (body : Program) (s : State) (builtin : Builtin) (c : Moment) (s' : State) :
    Prop where
  reached : Reaches ⟨.program body, [], s⟩ c
  invoked : c.task = .invoke builtin []
  unbounded : ∀ activation ∈ c.waiting, activation.bounds = false
  ends : ∃ signal, Reaches c ⟨.answer (.error signal), [], s'⟩

/-- One iteration of a loop, with what it carries and whether others may follow. A body that runs to
its end carries its value. A body that is left carries the value of the last command completed on
the innermost open level that had completed any, its own level being the outermost. -/
inductive Iteration (body : Program) (s : State) : Option String → Bool → State → Prop
  | finished {value : String} {s' : State}
      (ended : Reaches ⟨.program body, [], s⟩ ⟨.answer (.ok value), [], s'⟩) :
      Iteration body s (some value) true s'
  | stopped {c : Moment} {carried : Option String} {s' : State}
      (leaves : Leaves body s .leaveLoop c s') (latest : Latest ⟨.program body, [], s⟩ c carried) :
      Iteration body s carried false s'
  | skipped {c : Moment} {carried : Option String} {s' : State}
      (leaves : Leaves body s .continueLoop c s')
      (latest : Latest ⟨.program body, [], s⟩ c carried) : Iteration body s carried true s'

/-- What a loop makes of the result of its body: the value it takes, and whether it goes on. -/
def Machine.turn? : Except Signal String → Option (Option String × Bool)
  | .ok value => some (some value, true)
  | .error (.leaveLoop value) => some (value, false)
  | .error (.nextRound value) => some (value, true)
  | .error _ => none

variable {body : Program} {s s' : State} {builtin : Builtin} {c : Moment} {signal : Signal}
  {result : Except Signal String} {carried : Option String} {again : Bool}

theorem Machine.cases_of_turn? (turn : turn? result = some (carried, again)) :
    (∃ value, result = .ok value ∧ carried = some value ∧ again = true) ∨
      (result = .error (.leaveLoop carried) ∧ again = false) ∨
      (result = .error (.nextRound carried) ∧ again = true) := by
  unfold turn? at turn
  split at turn
  · cases turn
    exact .inl ⟨_, rfl, rfl, rfl⟩
  · cases turn
    exact .inr (.inl ⟨rfl, rfl⟩)
  · cases turn
    exact .inr (.inr ⟨rfl, rfl⟩)
  · cases turn

/-- A body that is left by a builtin ends with its signal and with the value that it carries. -/
theorem Leaves.ends_with (native : CommandScript.Native s.builtins)
    (leaves : Leaves body s builtin c s') (raises : builtin.signal? [] = some signal)
    (looped : signal.isLoopSignal = true) :
    ∃ signal', Reaches ⟨.program body, [], s⟩ ⟨.answer (.error signal'), [], s'⟩ ∧
      signal'.core = signal.core ∧
      (Latest ⟨.program body, [], s⟩ c carried ↔ carried = signal'.given?) := by
  obtain ⟨reached, invoked, unbounded, signal', ends⟩ := leaves
  have begins : Moment.Native ⟨.program body, [], s⟩ := ⟨trivial, List.forall_mem_nil _, native⟩
  have opened : ∀ activation ∈ c.waiting, activation.IsOpenTo signal := fun activation member =>
    (Signal.isOpenTo_iff looped activation).mpr (unbounded activation member)
  have raised : c.task.signal? = some signal := by rw [invoked]; exact raises
  have relayed := relays_unwind [] c.state (begins.reaches reached).waiting opened
  rw [List.append_nil] at relayed
  have same := ends.end_unique (.head (next?_of_signal? raised) relayed.reaches) rfl rfl
  cases same
  refine ⟨_, Relation.ReflTransGen.trans reached ends, Activation.core_unwind _ _ _, ?_⟩
  rw [latest_iff reached (by rw [invoked]; rfl) (by rw [invoked]; nofun),
    Signal.given?_unwind looped, Builtin.given?_of_signal? raises, Option.none_or]

/-- A body that ends with a signal to a loop is left by the builtin of this signal. -/
theorem exists_leaves (builtin : Builtin) (native : CommandScript.Native s.builtins)
    (ended : Reaches ⟨.program body, [], s⟩ ⟨.answer (.error signal), [], s'⟩)
    (raises : builtin.signal? [] = some signal.core) (looped : signal.isLoopSignal = true) :
    ∃ c, Leaves body s builtin c s' ∧ Latest ⟨.program body, [], s⟩ c signal.given? := by
  have begins : Moment.Native ⟨.program body, [], s⟩ := ⟨trivial, List.forall_mem_nil _, native⟩
  obtain ⟨c, inner, reached, further, raised, split, between⟩ :=
    Reaches.loopSignal_raised begins nofun ended rfl looped
  obtain ⟨other, args, invoked, raised⟩ := Task.exists_invoke_of_signal? raised
  obtain ⟨rfl, rfl⟩ := Builtin.signal?_inj builtin [] raised raises
  rw [List.append_nil] at split
  have leaves : Leaves body s other c s' := ⟨reached, invoked, split ▸ between, signal, further⟩
  obtain ⟨signal', ended', _, found⟩ := leaves.ends_with native raises
    ((Signal.isLoopSignal_core signal).trans looped)
  cases ended.end_unique ended' rfl rfl
  exact ⟨c, leaves, found.mpr rfl⟩

/-- The iterations of a loop and the results of its body that it goes on from. -/
theorem iteration_iff (native : CommandScript.Native s.builtins) :
    Iteration body s carried again s' ↔ ∃ result,
      Reaches ⟨.program body, [], s⟩ ⟨.answer result, [], s'⟩ ∧
        Machine.turn? result = some (carried, again) := by
  constructor
  · intro iteration
    cases iteration with
    | finished ended => exact ⟨_, ended, rfl⟩
    | stopped leaves latest =>
        obtain ⟨signal, ended, core, found⟩ := leaves.ends_with native rfl rfl
        obtain rfl := found.mp latest
        obtain ⟨value, rfl⟩ := loopSignal_leaveLoop.core signal core
        exact ⟨_, ended, rfl⟩
    | skipped leaves latest =>
        obtain ⟨signal, ended, core, found⟩ := leaves.ends_with native rfl rfl
        obtain rfl := found.mp latest
        obtain ⟨value, rfl⟩ := loopSignal_nextRound.core signal core
        exact ⟨_, ended, rfl⟩
  · rintro ⟨result, ended, turn⟩
    rcases Machine.cases_of_turn? turn with ⟨value, rfl, rfl, rfl⟩ | ⟨rfl, rfl⟩ | ⟨rfl, rfl⟩
    · exact .finished ended
    · obtain ⟨c, leaves, latest⟩ := exists_leaves .leaveLoop native ended rfl rfl
      exact .stopped leaves latest
    · obtain ⟨c, leaves, latest⟩ := exists_leaves .continueLoop native ended rfl rfl
      exact .skipped leaves latest

theorem native_of_reaches {program : Program} {r : Except Signal String}
    (native : CommandScript.Native s.builtins)
    (reached : Reaches ⟨.program program, [], s⟩ ⟨.answer r, [], s'⟩) :
    CommandScript.Native s'.builtins := by
  obtain ⟨fuel, ran⟩ := run_iff_reaches.mpr reached
  exact (Machine.run_restored ran).native native

theorem Eval.bind_eq_ok {α β : Type} {m : Eval α} {f : α → Eval β} {b : β}
    (ran : (m >>= f) s = some (.ok b, s')) :
    ∃ a s₁, m s = some (.ok a, s₁) ∧ f a s₁ = some (.ok b, s') := by
  rw [Eval.bind_apply] at ran
  split at ran
  · cases ran
  · cases ran
  · next a s₁ first => exact ⟨a, s₁, first, ran⟩

namespace Loop

/-- The condition of a loop is tested, at the start of a round. -/
structure Tests (loop : Loop) (s : State) (holds : Bool) (s' : State) : Prop where
  unraised : s.checkInterrupt = .ok ()
  tested : ∃ answer, Reaches ⟨.program loop.condition, [], s⟩ ⟨.answer (.ok answer), [], s'⟩ ∧
    isTrue answer = holds

/-- The step of a loop ends with a value, if there is a step. -/
def Steps (loop : Loop) (s s' : State) : Prop :=
  match loop.step with
  | none => s' = s
  | some program => ∃ value, Reaches ⟨.program program, [], s⟩ ⟨.answer (.ok value), [], s'⟩

/-- The rounds of a loop up to its end, with what its iterations carry. -/
inductive Rounds (loop : Loop) : State → List (Option String) → State → Prop
  | done {s s' : State} (tested : loop.Tests s false s') : Rounds loop s [] s'
  | left {s s₁ s' : State} {carried : Option String} (tested : loop.Tests s true s₁)
      (turn : Iteration loop.body s₁ carried false s') : Rounds loop s [carried] s'
  | next {s s₁ s₂ s₃ s' : State} {carried : Option String} {others : List (Option String)}
      (tested : loop.Tests s true s₁) (turn : Iteration loop.body s₁ carried true s₂)
      (stepped : loop.Steps s₂ s₃) (rest : Rounds loop s₃ others s') :
      Rounds loop s (carried :: others) s'

variable {loop : Loop} {last : String}

theorem getLast?_reduceOption_cons (carried : Option String) (others : List (Option String))
    (last : String) : ((carried :: others).reduceOption.getLast?).getD last =
      (others.reduceOption.getLast?).getD (carried.getD last) := by
  cases carried with
  | none => rw [List.reduceOption_cons_of_none, Option.getD_none]
  | some value =>
      rw [List.reduceOption_cons_of_some, List.getLast?_cons, Option.getD_some, Option.getD_some]

theorem resume_of_turn? (turn : Machine.turn? result = some (carried, again))
    (waiting : List Activation) : (Activation.loopBody loop last).resume result waiting s =
      if again then loop.goOn (carried.getD last) waiting s
      else ⟨.answer (.ok (carried.getD last)), waiting, s⟩ := by
  rcases Machine.cases_of_turn? turn with ⟨value, rfl, rfl, rfl⟩ | ⟨rfl, rfl⟩ | ⟨rfl, rfl⟩
  all_goals rfl

theorem settle_of_turn? (turn : Machine.turn? result = some (carried, again)) (run : Evaluator)
    (rounds : Nat) : loop.settle run rounds last result =
      if again then loop.following run rounds (carried.getD last)
      else pure (carried.getD last) := by
  rcases Machine.cases_of_turn? turn with ⟨value, rfl, rfl, rfl⟩ | ⟨rfl, rfl⟩ | ⟨rfl, rfl⟩
  all_goals rfl

theorem settle_of_turn?_eq_none (turn : Machine.turn? result = none) (run : Evaluator)
    (rounds : Nat) : ∃ signal, loop.settle run rounds last result = Eval.raise signal := by
  cases result with
  | ok value => cases turn
  | error signal =>
      cases signal with
      | leaveLoop | nextRound => cases turn
      | _ => exact ⟨_, rfl⟩

theorem Steps.reaches (stepped : loop.Steps s s') (last : String) :
    Reaches (loop.goOn last [] s) ⟨.round loop last, [], s'⟩ := by
  cases given : loop.step with
  | none =>
      simp only [Steps, given] at stepped
      simp only [Loop.goOn, given, stepped]
      exact .refl
  | some program =>
      simp only [Steps, given] at stepped
      simp only [Loop.goOn, given]
      obtain ⟨value, ended⟩ := stepped
      exact .tail (ended.within [.loopStep loop last]) rfl

/-- Behind a finished round comes the step, if there is one, and then the next round. -/
theorem exists_steps {fuel rounds : Nat} {value : String}
    (ran : loop.following (Machine.run fuel) rounds last s = some (.ok value, s')) :
    ∃ s₁, loop.Steps s s₁ ∧ Machine.rounds (Machine.run fuel) loop.condition loop.body loop.step
      rounds last s₁ = some (.ok value, s') := by
  cases given : loop.step with
  | none =>
      simp only [following, given] at ran
      exact ⟨s, by simp only [Steps, given], ran⟩
  | some program =>
      simp only [following, given] at ran
      obtain ⟨ignored, s₁, stepped, further⟩ := Eval.bind_eq_ok ran
      have ended := run_iff_reaches.mp ⟨fuel, stepped⟩
      exact ⟨s₁, by simp only [Steps, given]; exact ⟨ignored, ended⟩, further⟩

theorem Tests.native {holds : Bool} (native : CommandScript.Native s.builtins)
    (test : loop.Tests s holds s') : CommandScript.Native s'.builtins := by
  obtain ⟨_, answer, tested, _⟩ := test
  exact native_of_reaches native tested

theorem Steps.native (native : CommandScript.Native s.builtins) (stepped : loop.Steps s s') :
    CommandScript.Native s'.builtins := by
  unfold Steps at stepped
  split at stepped
  · cases stepped
    exact native
  · obtain ⟨value, ended⟩ := stepped
    exact native_of_reaches native ended

/-- A round whose condition is true hands the result of the body to the loop. -/
theorem Tests.reaches_turn {s₁ s₂ : State} (test : loop.Tests s true s₁)
    (ended : Reaches ⟨.program loop.body, [], s₁⟩ ⟨.answer result, [], s₂⟩) (last : String) :
    Reaches ⟨.round loop last, [], s⟩ ((Activation.loopBody loop last).resume result [] s₂) := by
  obtain ⟨unraised, answer, tested, holds⟩ := test
  have begun := reaches_body last unraised tested holds []
  exact .tail (Relation.ReflTransGen.trans begun (ended.within [.loopBody loop last])) rfl

/-- Rounds that come to an end are those of an evaluation. -/
theorem Rounds.reaches {carried : List (Option String)} (rounds : loop.Rounds s carried s')
    (native : CommandScript.Native s.builtins) (last : String) :
    Reaches ⟨.round loop last, [], s⟩
      ⟨.answer (.ok ((carried.reduceOption.getLast?).getD last)), [], s'⟩ := by
  induction rounds generalizing last with
  | done test =>
      obtain ⟨unraised, answer, tested, fails⟩ := test
      refine .tail (reaches_test last unraised tested []) ?_
      simp only [Option.mem_def, next?, Activation.resume, Activation.proceed, fails,
        Bool.false_eq_true, if_false, List.reduceOption_nil, List.getLast?_nil, Option.getD_none]
  | left test turn =>
      obtain ⟨result, ended, turn⟩ := (iteration_iff (test.native native)).mp turn
      have reached := test.reaches_turn ended last
      rw [resume_of_turn? turn] at reached
      rw [getLast?_reduceOption_cons]
      exact reached
  | next test turn stepped rest ih =>
      obtain ⟨result, ended, turn⟩ := (iteration_iff (test.native native)).mp turn
      have reached := test.reaches_turn ended last
      rw [resume_of_turn? turn] at reached
      rw [getLast?_reduceOption_cons]
      have native' := stepped.native (native_of_reaches (test.native native) ended)
      exact .trans reached (.trans (stepped.reaches _) (ih native' _))

/-- The rounds of an evaluation that ends with a value, by induction on how many of them there is
fuel for. -/
theorem exists_rounds {fuel rounds : Nat} {value : String}
    (native : CommandScript.Native s.builtins)
    (ran : Machine.rounds (Machine.run fuel) loop.condition loop.body loop.step rounds last s =
      some (.ok value, s')) :
    ∃ carried, loop.Rounds s carried s' ∧ value = (carried.reduceOption.getLast?).getD last := by
  induction rounds generalizing last s with
  | zero => cases ran
  | succ rounds ih =>
      rw [rounds_succ] at ran
      obtain ⟨_, _, checked, further⟩ := Eval.bind_eq_ok ran
      obtain ⟨unraised, rfl⟩ := Eval.checkInterrupt_eq_ok checked
      obtain ⟨answer, s₁, tested, chosen⟩ := Eval.bind_eq_ok further
      have ended := run_iff_reaches.mp ⟨fuel, tested⟩
      split at chosen
      · next holds =>
          have test : loop.Tests _ true s₁ := ⟨unraised, answer, ended, holds⟩
          rw [Eval.attempt_bind] at chosen
          obtain ⟨⟨result, s₂⟩, body, settled⟩ := Option.bind_eq_some_iff.mp chosen
          have bodyEnded := run_iff_reaches.mp ⟨fuel, body⟩
          cases turn : Machine.turn? result with
          | none =>
              obtain ⟨signal, raises⟩ := settle_of_turn?_eq_none turn (Machine.run fuel) rounds
              rw [raises] at settled
              cases settled
          | some outcome =>
              obtain ⟨carried, again⟩ := outcome
              have iteration := (iteration_iff (test.native native)).mpr ⟨result, bodyEnded, turn⟩
              have native₂ := native_of_reaches (test.native native) bodyEnded
              rw [settle_of_turn? turn] at settled
              cases again with
              | false =>
                  cases settled
                  exact ⟨[carried], .left test iteration, (getLast?_reduceOption_cons carried [] last).symm⟩
              | true =>
                  obtain ⟨s₃, stepped, left⟩ := exists_steps settled
                  obtain ⟨others, rest, same⟩ := ih (stepped.native native₂) left
                  refine ⟨carried :: others, .next test iteration stepped rest, ?_⟩
                  rw [getLast?_reduceOption_cons]
                  exact same
      · next fails =>
          cases chosen
          exact ⟨[], .done ⟨unraised, answer, ended, Bool.eq_false_of_not_eq_true fails⟩, rfl⟩

end Loop

/-- A loop ends with a value exactly if it has rounds that carry it. -/
theorem loop_value_iff {condition body : String} {step : Option String} {value : String}
    (native : CommandScript.Native s.builtins) :
    Reaches ⟨.loop condition body step, [], s⟩ ⟨.answer (.ok value), [], s'⟩ ↔
      ∃ loop carried, Task.openLoop condition body step = .ok loop ∧ loop.Rounds s carried s' ∧
        value = (carried.reduceOption.getLast?).getD "" := by
  constructor
  · intro reached
    obtain ⟨fuel, ran⟩ := loop_iff_reaches.mpr reached
    rw [Task.loop_eq_openLoop] at ran
    cases opened : Task.openLoop condition body step with
    | error cause =>
        rw [opened] at ran
        cases ran
    | ok loop =>
        rw [opened] at ran
        obtain ⟨carried, rounds, same⟩ := Loop.exists_rounds native ran
        exact ⟨loop, carried, rfl, rounds, same⟩
  · rintro ⟨loop, carried, opened, rounds, rfl⟩
    have begins : next? ⟨.loop condition body step, [], s⟩ = some ⟨.round loop "", [], s⟩ := by
      simp only [next?, Task.advance, opened, List.nil_append]
    exact .head begins (rounds.reaches native "")

/-- The value of a loop is the one that the latest of its iterations has carried that has carried
any, and empty if none has. What the first script of a `for`, the condition and the step end with
does not count. -/
theorem loop_value_survives_breaks (native : CommandScript.Native s.builtins) :
    (∀ condition body value s',
      (∃ fuel, Machine.callBuiltin fuel .whileLoop [condition, body] s = some (.ok value, s')) ↔
        ∃ loop carried, Task.openLoop condition body none = .ok loop ∧
          loop.Rounds s carried s' ∧ value = (carried.reduceOption.getLast?).getD "") ∧
    ∀ first condition step body value s',
      (∃ fuel, Machine.callBuiltin fuel .forLoop [first, condition, step, body] s =
          some (.ok value, s')) ↔
        ∃ given s₁ loop carried,
          (∃ fuel, Machine.evaluateText fuel first s = some (.ok given, s₁)) ∧
          Task.openLoop condition body (some step) = .ok loop ∧
          loop.Rounds s₁ carried s' ∧ value = (carried.reduceOption.getLast?).getD "" := by
  constructor
  · intro condition body value s'
    have begins : Reaches ⟨.invoke .whileLoop [condition, body], [], s⟩
        ⟨.loop condition body none, [], s⟩ := .single rfl
    rw [callBuiltin_iff_reaches, begins.end_iff rfl, loop_value_iff native]
  · intro first condition step body value s'
    constructor
    · rintro ⟨fuel, ran⟩
      obtain ⟨given, s₁, began, further⟩ := Eval.bind_eq_ok ran
      have native₁ := (Machine.evaluateText_restored began).native native
      have reached := loop_iff_reaches.mp ⟨fuel, further⟩
      obtain ⟨loop, carried, opened, rounds, same⟩ := (loop_value_iff native₁).mp reached
      exact ⟨given, s₁, loop, carried, ⟨fuel, began⟩, opened, rounds, same⟩
    · rintro ⟨given, s₁, loop, carried, ⟨fuel, began⟩, opened, rounds, same⟩
      have native₁ := (Machine.evaluateText_restored began).native native
      have ended := (loop_value_iff native₁).mpr ⟨loop, carried, opened, rounds, same⟩
      rw [callBuiltin_iff_reaches, (reaches_loop began condition step body).end_iff rfl]
      exact ended

/-- A body that is left below three levels of its own, from the condition of another loop. -/
def leavingBody : String := "set x kept; if {1} {eval {while {break} {}}}"

theorem leavingBody_value_survives :
    (∃ s' loop carried,
      Machine.callBuiltin 8 .whileLoop ["1", leavingBody] (machineOf "") = some (.ok "kept", s') ∧
      Task.openLoop "1" leavingBody none = .ok loop ∧ loop.Rounds (machineOf "") carried s' ∧
      carried.reduceOption.getLast?.getD "" = "kept") ∧
    ∃ s' s₁ loop carried,
      Machine.callBuiltin 8 .forLoop ["set x 1", "set x", "unset x", "eval continue"]
        (machineOf "") = some (.ok "", s') ∧
      Task.openLoop "set x" "eval continue" (some "unset x") = .ok loop ∧
      loop.Rounds s₁ carried s' ∧ carried.reduceOption.getLast?.getD "" = "" := by
  have ends : ((Machine.callBuiltin 8 .whileLoop ["1", leavingBody] (machineOf "")).map fun ended =>
      ended.1.toOption) = some (some "kept") := by decide +kernel
  have ends' : ((Machine.callBuiltin 8 .forLoop ["set x 1", "set x", "unset x", "eval continue"]
      (machineOf "")).map fun ended => ended.1.toOption) = some (some "") := by decide +kernel
  obtain ⟨s', ran⟩ := exists_ok_of_toOption ends
  obtain ⟨t', ran'⟩ := exists_ok_of_toOption ends'
  have native : CommandScript.Native (machineOf "").builtins := native_standard
  have values := loop_value_survives_breaks native
  obtain ⟨loop, carried, opened, rounds, same⟩ := (values.1 _ _ _ _).mp ⟨8, ran⟩
  obtain ⟨_, s₁, loop', carried', _, opened', rounds', same'⟩ := (values.2 _ _ _ _ _ _).mp ⟨8, ran'⟩
  exact ⟨⟨s', loop, carried, ran, opened, rounds, same.symm⟩,
    t', s₁, loop', carried', ran', opened', rounds', same'.symm⟩

end CommandScript
