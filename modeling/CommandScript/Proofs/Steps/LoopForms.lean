import CommandScript.Proofs.Steps.Job
import CommandScript.Proofs.Steps.JoinedSources

/-! The two loops. A `for` does what a `while` does whose body goes on with the step, as long as
nothing skips the step or takes it for a part of the body. Both loops take the same fuel, so they
are compared round by round. -/

namespace CommandScript

/-- Two evaluations run out of fuel together, or end in one state, both with a value or both with
the same signal. -/
inductive EndsAlike : Option (Except Signal String × State) →
    Option (Except Signal String × State) → Prop
  | exhausted : EndsAlike none none
  | value {value value' : String} {s : State} :
      EndsAlike (some (.ok value, s)) (some (.ok value', s))
  | signal {signal : Signal} {s : State} :
      EndsAlike (some (.error signal, s)) (some (.error signal, s))

namespace EndsAlike

theorem refl (outcome : Option (Except Signal String × State)) : EndsAlike outcome outcome := by
  cases outcome with
  | none => exact .exhausted
  | some ended =>
      obtain ⟨result, s⟩ := ended
      cases result with
      | ok value => exact .value
      | error signal => exact .signal

/-- What comes after the same evaluation may differ only behind its values. -/
theorem bind {α : Type} {m : Eval α} {f g : α → Eval String} {s : State}
    (h : ∀ a s', m s = some (.ok a, s') → EndsAlike (f a s') (g a s')) :
    EndsAlike ((m >>= f) s) ((m >>= g) s) := by
  rw [Eval.bind_apply, Eval.bind_apply]
  cases first : m s with
  | none => exact .exhausted
  | some ended =>
      obtain ⟨result, s'⟩ := ended
      cases result with
      | ok a => exact h a s' first
      | error signal => exact .signal

theorem nested {m m' : Eval String} {s : State}
    (h : ¬ s.maxDepth ≤ s.depth →
      EndsAlike (m { s with depth := s.depth + 1 }) (m' { s with depth := s.depth + 1 })) :
    EndsAlike (Machine.nested m s) (Machine.nested m' s) := by
  unfold Machine.nested
  split
  · exact .signal
  · next room =>
      replace h := h room
      generalize m { s with depth := s.depth + 1 } = outcome at h
      generalize m' { s with depth := s.depth + 1 } = outcome' at h
      cases h with
      | exhausted => exact .exhausted
      | value => exact .value
      | signal => exact .signal

theorem isSome_iff {outcome outcome' : Option (Except Signal String × State)}
    (h : EndsAlike outcome outcome') : outcome.isSome ↔ outcome'.isSome := by
  cases h <;> exact .rfl

end EndsAlike

theorem Eval.checkInterrupt_eq_ok {s s' : State}
    (checked : Eval.checkInterrupt s = some (.ok (), s')) :
    s.checkInterrupt = .ok () ∧ s' = s := by
  unfold Eval.checkInterrupt at checked
  split at checked
  · next unraised =>
      cases checked
      exact ⟨unraised, rfl⟩
  · cases checked

namespace Machine

theorem stampLast_of_not_isLoopSignal {signal : Signal} (plain : signal.isLoopSignal = false)
    (last : Option String) : stampLast last signal = signal := by
  cases last with
  | none => rfl
  | some value =>
      cases signal with
      | leaveLoop | nextRound => cases plain
      | _ => rfl

/-- Commands behind others go on from the value of these, if there are any. -/
theorem sequence_append (execute : Command → Eval String) (last : Option String) (p q : Program) :
    ∃ carried : String → Option String, sequence execute last (p ++ q) =
      sequence execute last p >>= fun value => sequence execute (carried value) q := by
  cases p with
  | nil => exact ⟨fun _ => last, rfl⟩
  | cons command rest =>
      refine ⟨some, ?_⟩
      induction rest generalizing command last with
      | nil =>
          simp only [List.singleton_append, sequence, Eval.bind_assoc, Eval.pure_bind,
            Option.getD_some]
      | cons next rest ih =>
          rw [List.cons_append, sequence, sequence]
          simp only [ih, Eval.bind_assoc]

/-- The value before the first command shows at most in the value at the end, unless that command
sends a signal to a loop. -/
theorem sequence_endsAlike {execute : Command → Eval String} {program : Program} {s : State}
    (last : Option String)
    (plain : ∀ signal t, sequence execute none program s = some (.error signal, t) →
      signal.isLoopSignal = false) :
    EndsAlike (sequence execute none program s) (sequence execute last program s) := by
  cases program with
  | nil => exact .value
  | cons command rest =>
      have unfolded : ∀ last, sequence execute last (command :: rest) s =
          (Eval.checkInterrupt >>= fun _ => Eval.mapSignal (stampLast last) (execute command) >>=
            fun value => sequence execute (some value) rest) s := fun _ => rfl
      rw [unfolded] at plain ⊢
      rw [unfolded]
      refine .bind fun _ s₁ unraised => ?_
      rw [Eval.bind_apply, unraised] at plain
      simp only [Eval.bind_apply, Eval.mapSignal] at plain ⊢
      cases ended : execute command s₁ with
      | none => exact .exhausted
      | some first =>
          obtain ⟨result, t⟩ := first
          rw [ended] at plain
          cases result with
          | ok value => exact .refl _
          | error signal =>
              have kept : stampLast last signal = signal :=
                stampLast_of_not_isLoopSignal (plain signal t rfl) last
              simp only [Option.map_some, Except.mapError, kept]
              exact .signal

/-- One level is as good as two, one after the other. -/
theorem nested_bind {m : Eval String} {f : String → Eval String} {s : State}
    (keeps : ∀ r t, m { s with depth := s.depth + 1 } = some (r, t) →
      t.depth = s.depth + 1 ∧ t.maxDepth = s.maxDepth) :
    nested (m >>= f) s = (nested m >>= fun value => nested (f value)) s := by
  rw [Eval.bind_apply]
  unfold nested
  split
  · rfl
  · next room =>
      rw [Eval.bind_apply]
      cases ended : m { s with depth := s.depth + 1 } with
      | none => rfl
      | some first =>
          obtain ⟨result, t⟩ := first
          obtain ⟨depth, limit⟩ := keeps result t ended
          cases result with
          | error signal => rfl
          | ok value =>
              have back : { t with depth := t.depth - 1 + 1 } = t := by
                rw [depth, Nat.add_sub_cancel, ← depth]
              have room' : ¬ t.maxDepth ≤ t.depth - 1 := by
                rw [depth, limit, Nat.add_sub_cancel]
                exact room
              simp only [if_neg room', back]

theorem run_succ (fuel : Nat) (program : Program) :
    run (fuel + 1) program = nested (sequence (execute fuel (run fuel)) none program) := rfl

/-- A program that goes on with another one ends as the two do one after the other, unless the
second sends a signal to a loop. -/
theorem run_append_endsAlike {fuel : Nat} {p q : Program} {s : State}
    (kept : KeepLimit s.builtins)
    (plain : ∀ value s₁ signal t, run fuel p s = some (.ok value, s₁) →
      run fuel q s₁ = some (.error signal, t) → signal.isLoopSignal = false) :
    EndsAlike ((run fuel p >>= fun _ => run fuel q) s) (run fuel (p ++ q) s) := by
  cases fuel with
  | zero => exact .exhausted
  | succ fuel =>
      obtain ⟨carried, joined⟩ := sequence_append (execute fuel (run fuel)) none p q
      have stable := Settled.stable False
      have keeps : ∀ r t, sequence (execute fuel (run fuel)) none p
          { s with depth := s.depth + 1 } = some (r, t) →
          t.depth = s.depth + 1 ∧ t.maxDepth = s.maxDepth := by
        intro r t ended
        have settled := sequence_keeps stable (execute_keeps stable (run_keeps stable fuel) fuel)
          none p { s with depth := s.depth + 1 } r t (.inr kept) ended
        exact ⟨settled.depth, settled.maxDepth.resolve_left id⟩
      rw [run_succ fuel (p ++ q), joined, nested_bind keeps]
      refine .bind fun value s₁ first => .nested fun room => sequence_endsAlike (carried value) ?_
      intro signal t ended
      have ran : run (fuel + 1) q s₁ = some (.error signal, { t with depth := t.depth - 1 }) := by
        rw [run_succ, nested, if_neg room, ended]
      exact plain value s₁ signal _ first ran

theorem run_append_down (fuel lines : Nat) (p q : Program) :
    run fuel (p ++ q.map (Command.down lines)) = run fuel (p ++ q) := by
  cases fuel with
  | zero => rfl
  | succ fuel =>
      have same : ∀ last, sequence (execute fuel (run fuel)) last
          (p ++ q.map (Command.down lines)) =
            sequence (execute fuel (run fuel)) last (p ++ q) := by
        induction p with
        | nil => exact fun last => sequence_down (execute_down fuel (run fuel)) last q
        | cons command rest ih =>
            intro last
            simp only [List.cons_append, sequence, ih]
      exact congrArg nested (same none)

/-- Runs the first script of a loop, and then the loop with the step at the end of its body. -/
def whileForm (fuel : Nat) (first condition step body : String) : Eval String :=
  evaluateText fuel first >>= fun _ =>
    callBuiltin fuel .whileLoop [condition, body ++ "\n" ++ step]

end Machine

namespace Moment

variable {c c' : Moment}

/-- The body of the outermost loop has ended with a signal. -/
def BodyRaises (c : Moment) (signal : Signal) : Prop :=
  ∃ loop last, c.task = .answer (.error signal) ∧ c.waiting = [.loopBody loop last]

/-- The step of the outermost loop has ended with a signal. -/
def StepRaises (c : Moment) (signal : Signal) : Prop :=
  ∃ loop last, c.task = .answer (.error signal) ∧ c.waiting = [.loopStep loop last]

/-- From a moment on, no body of the outermost loop asks for the next round, and no step sends any
signal to a loop. -/
def Steady (c : Moment) : Prop :=
  ∀ d, Reaches c d → (∀ value, ¬ d.BodyRaises (.nextRound value)) ∧
    ∀ value, ¬ d.StepRaises (.leaveLoop value) ∧ ¬ d.StepRaises (.nextRound value)

theorem Steady.reaches (h : c.Steady) (reached : Reaches c c') : c'.Steady :=
  fun d further => h d (Relation.ReflTransGen.trans reached further)

theorem Steady.step_plain {loop : Loop} {last : String} {signal : Signal} {s : State}
    (h : Steady ⟨.answer (.error signal), [.loopStep loop last], s⟩) :
    signal.isLoopSignal = false := by
  have own := (h _ .refl).2
  cases signal with
  | leaveLoop value => exact absurd ⟨loop, last, rfl, rfl⟩ (own value).1
  | nextRound value => exact absurd ⟨loop, last, rfl, rfl⟩ (own value).2
  | _ => rfl

/-- A steady evaluation comes from a body that has ended with a value to the step. -/
theorem Steady.step {loop : Loop} {step : Program} {last value : String} {s : State}
    (h : Steady ⟨.answer (.ok value), [.loopBody loop last], s⟩) (steps : loop.step = some step) :
    Steady ⟨.program step, [.loopStep loop value], s⟩ := by
  refine h.reaches (.single ?_)
  simp only [Option.mem_def, next?, Activation.resume, Activation.proceed, Loop.goOn, steps]

/-- Whether one moment is none of those that a steady evaluation avoids. -/
def isSteady (c : Moment) : Bool :=
  match c.task, c.waiting with
  | .answer (.error (.nextRound _)), [.loopBody ..] => false
  | .answer (.error signal), [.loopStep ..] => !signal.isLoopSignal
  | _, _ => true

theorem steady_of_always (n : Nat) (tested : c.always isSteady n = true) : c.Steady := by
  intro d reached
  have passed := of_reaches_of_always isSteady n tested reached
  unfold isSteady at passed
  refine ⟨fun value => ?_, fun value => ⟨?_, ?_⟩⟩
  all_goals
    rintro ⟨loop, last, answered, waits⟩
    rw [answered, waits] at passed
    cases passed

end Moment

open Moment

namespace Loop

/-- The loop without a step whose body goes on with the step, some lines further down. -/
def joined (loop : Loop) (lines : Nat) : Loop :=
  ⟨loop.condition, loop.body ++ (loop.step.getD []).map (Command.down lines), none⟩

variable {loop : Loop} {step : Program} {fuel rounds lines : Nat} {last last' : String} {s : State}

theorem settle_endsAlike {loop' : Loop} {signal : Signal} (run : Evaluator) (rounds rounds' : Nat)
    (last last' : String) (other : ∀ value, signal ≠ .nextRound value) :
    EndsAlike (loop.settle run rounds last (.error signal) s)
      (loop'.settle run rounds' last' (.error signal) s) := by
  cases signal with
  | leaveLoop value => exact .value
  | nextRound value => exact absurd rfl (other value)
  | returned | exited | failed => exact .signal

/-- One round, behind its condition: what remains of it and the rounds that follow. -/
theorem turn_endsAlike (steps : loop.step = some step) (native : CommandScript.Native s.builtins)
    (steady : Steady ⟨.program loop.body, [.loopBody loop last], s⟩)
    (rest : ∀ value value' s', CommandScript.Native s'.builtins →
      Steady ⟨.round loop value, [], s'⟩ →
      EndsAlike (Machine.rounds (Machine.run fuel) loop.condition loop.body loop.step rounds value s')
        (Machine.rounds (Machine.run fuel) (loop.joined lines).condition (loop.joined lines).body
          (loop.joined lines).step rounds value' s')) :
    EndsAlike ((Eval.attempt (Machine.run fuel loop.body) >>=
        loop.settle (Machine.run fuel) rounds last) s)
      ((Eval.attempt (Machine.run fuel (loop.joined lines).body) >>=
        (loop.joined lines).settle (Machine.run fuel) rounds last') s) := by
  have plain : ∀ value s₁ signal t, Machine.run fuel loop.body s = some (.ok value, s₁) →
      Machine.run fuel step s₁ = some (.error signal, t) → signal.isLoopSignal = false := by
    intro value s₁ signal t first second
    have stepping := (steady.reaches (reaches_of_run first _)).step steps
    exact (stepping.reaches (reaches_of_run second _)).step_plain
  have alike := Machine.run_append_endsAlike native.keepLimit plain
  have body : Machine.run fuel (loop.joined lines).body = Machine.run fuel (loop.body ++ step) := by
    rw [joined, steps, Option.getD_some, Machine.run_append_down]
  -- From here on the longer body is known only through how it ends.
  rw [Eval.attempt_bind, Eval.attempt_bind, body]
  rw [Eval.bind_apply] at alike
  generalize Machine.run fuel (loop.body ++ step) s = outcome at alike ⊢
  cases first : Machine.run fuel loop.body s with
  | none =>
      rw [first] at alike
      cases alike
      exact .exhausted
  | some ended =>
      obtain ⟨result, s₁⟩ := ended
      rw [first] at alike
      have bodyEnded := steady.reaches (reaches_of_run first _)
      cases result with
      | error signal =>
          cases alike
          refine settle_endsAlike _ _ _ _ _ ?_
          rintro value rfl
          exact (bodyEnded _ .refl).1 value ⟨loop, last, rfl, rfl⟩
      | ok value =>
          have following : loop.settle (Machine.run fuel) rounds last (.ok value) =
              Machine.run fuel step >>= fun _ => Machine.rounds (Machine.run fuel) loop.condition
                loop.body loop.step rounds value := by
            simp only [settle, Machine.afterBody, Loop.following, steps]
          simp only [Option.bind_some, following, Eval.bind_apply]
          cases second : Machine.run fuel step s₁ with
          | none =>
              simp only [second] at alike
              cases alike
              exact .exhausted
          | some ended =>
              obtain ⟨result, s₂⟩ := ended
              simp only [second] at alike
              cases alike with
              | @signal signal _ =>
                  have silent := plain value s₁ signal s₂ first second
                  cases signal with
                  | leaveLoop | nextRound => cases silent
                  | returned | exited | failed => exact .signal
              | @value _ value' _ =>
                  have native₁ := (Machine.run_restored first).native native
                  have stepEnded := (bodyEnded.step steps).reaches (reaches_of_run second _)
                  exact rest value value' s₂ ((Machine.run_restored second).native native₁)
                    (stepEnded.reaches (.single rfl))

theorem reaches_test (last : String) {answer : String} {s₁ : State}
    (unraised : s.checkInterrupt = .ok ())
    (tested : Reaches ⟨.program loop.condition, [], s⟩ ⟨.answer (.ok answer), [], s₁⟩)
    (waiting : List Activation) :
    Reaches ⟨.round loop last, waiting, s⟩
      ⟨.answer (.ok answer), .loopTest loop last :: waiting, s₁⟩ := by
  have begun : next? ⟨.round loop last, waiting, s⟩ =
      some ⟨.program loop.condition, .loopTest loop last :: waiting, s⟩ := by
    simp only [next?, Task.advance, unraised, List.singleton_append]
  exact .head begun (tested.within (.loopTest loop last :: waiting))

theorem reaches_body (last : String) {answer : String} {s₁ : State}
    (unraised : s.checkInterrupt = .ok ())
    (tested : Reaches ⟨.program loop.condition, [], s⟩ ⟨.answer (.ok answer), [], s₁⟩)
    (holds : isTrue answer = true) (waiting : List Activation) :
    Reaches ⟨.round loop last, waiting, s⟩
      ⟨.program loop.body, .loopBody loop last :: waiting, s₁⟩ := by
  have chosen : next? ⟨.answer (.ok answer), .loopTest loop last :: waiting, s₁⟩ =
      some ⟨.program loop.body, .loopBody loop last :: waiting, s₁⟩ := by
    simp only [next?, Activation.resume, Activation.proceed, if_pos holds]
  exact .tail (reaches_test last unraised tested waiting) chosen

/-- The rounds of a loop, by induction on how many of them there is fuel for. -/
theorem rounds_endsAlike (steps : loop.step = some step) (native : CommandScript.Native s.builtins)
    (steady : Steady ⟨.round loop last, [], s⟩) :
    EndsAlike (Machine.rounds (Machine.run fuel) loop.condition loop.body loop.step rounds last s)
      (Machine.rounds (Machine.run fuel) (loop.joined lines).condition (loop.joined lines).body
        (loop.joined lines).step rounds last' s) := by
  induction rounds generalizing last last' s with
  | zero => exact .exhausted
  | succ rounds ih =>
      rw [rounds_succ, rounds_succ]
      refine .bind fun _ s' checked => .bind fun answer s₁ tested => ?_
      obtain ⟨unraised, rfl⟩ := Eval.checkInterrupt_eq_ok checked
      split
      · next holds =>
          have reached := reaches_body last unraised (reaches_of_run tested []) holds []
          have native₁ := (Machine.run_restored tested).native native
          refine turn_endsAlike steps native₁ (steady.reaches reached) ?_
          intro value value' s' native' steady'
          exact ih native' steady'
      · exact .value

end Loop

variable {first condition step body : String} {s : State}

/-- A `for` comes to its loop once the first script has ended with a value. -/
theorem reaches_loop {fuel : Nat} {value : String} {s₁ : State}
    (began : Machine.evaluateText fuel first s = some (.ok value, s₁))
    (condition step body : String) :
    Reaches ⟨.invoke .forLoop [first, condition, step, body], [], s⟩
      ⟨.loop condition body (some step), [], s₁⟩ := by
  have agrees := Task.text_performs (Task.program_performs fuel) first
    [.loopFirst condition body step] s
  have ended : Evaluator.text (Machine.run fuel) first s = some (.ok value, s₁) := began
  rw [ended] at agrees
  exact .head rfl (.tail agrees rfl)

/-- With the same fuel a `for` and its form as a `while` end alike. -/
theorem forLoop_endsAlike {p q r : Program} (native : CommandScript.Native s.builtins)
    (tests : Program.parse condition = .ok r) (reads : Program.parse body = .ok p)
    (steps : Program.parse step = .ok q)
    (steady : Steady ⟨.invoke .forLoop [first, condition, step, body], [], s⟩) (fuel : Nat) :
    EndsAlike (Machine.callBuiltin fuel .forLoop [first, condition, step, body] s)
      (Machine.whileForm fuel first condition step body s) := by
  have opened : Task.openLoop condition body (some step) = .ok ⟨r, p, some q⟩ := by
    simp only [Task.openLoop, tests, reads, steps]
    rfl
  have joined : Task.openLoop condition (body ++ "\n" ++ step) none =
      .ok (Loop.joined ⟨r, p, some q⟩ (linesBefore body '\n')) := by
    have read : Program.parse (body ++ "\n" ++ step) = .ok _ := Script.joined_program reads steps s
    simp only [Task.openLoop, tests, read]
    rfl
  refine EndsAlike.bind fun value s₁ began => ?_
  have begins : next? ⟨.loop condition body (some step), [], s₁⟩ =
      some ⟨.round ⟨r, p, some q⟩ "", [], s₁⟩ := by
    simp only [next?, Task.advance, opened, List.nil_append]
  have reached : Reaches ⟨.invoke .forLoop [first, condition, step, body], [], s⟩
      ⟨.round ⟨r, p, some q⟩ "", [], s₁⟩ := .tail (reaches_loop began condition step body) begins
  have native₁ := (Machine.evaluateText_restored began).native native
  have forRounds : Machine.loop fuel (Machine.run fuel) condition body (some step) =
      Machine.rounds (Machine.run fuel) r p (some q) fuel "" := by
    rw [Task.loop_eq_openLoop, opened]
    rfl
  have whileRounds : Machine.callBuiltin fuel .whileLoop [condition, body ++ "\n" ++ step] =
      Machine.rounds (Machine.run fuel) r
        (p ++ q.map (Command.down (linesBefore body '\n'))) none fuel "" := by
    have unfolded : Machine.callBuiltin fuel .whileLoop [condition, body ++ "\n" ++ step] =
      Machine.loop fuel (Machine.run fuel) condition (body ++ "\n" ++ step) none := rfl
    rw [unfolded, Task.loop_eq_openLoop, joined]
    rfl
  rw [forRounds, whileRounds]
  exact Loop.rounds_endsAlike rfl native₁ (steady.reaches reached)

/-- A `for` is a `while` with the step behind the body: as long as no body asks for the next round
and no step sends a signal to a loop, one ends exactly if the other does, both in the same state,
and both with a value or both with the same signal. -/
theorem for_is_while_with_step (native : CommandScript.Native s.builtins)
    (reads : ∀ text ∈ [first, condition, step, body], ∃ program, Program.parse text = .ok program)
    (steady : Steady ⟨.invoke .forLoop [first, condition, step, body], [], s⟩) :
    ((∃ fuel, (Machine.callBuiltin fuel .forLoop [first, condition, step, body] s).isSome) ↔
      ∃ fuel, (Machine.whileForm fuel first condition step body s).isSome) ∧
    ∀ fuel fuel' r r' t t',
      Machine.callBuiltin fuel .forLoop [first, condition, step, body] s = some (r, t) →
      Machine.whileForm fuel' first condition step body s = some (r', t') →
      t' = t ∧ ((∃ value value', r = .ok value ∧ r' = .ok value') ∨
        ∃ signal, r = .error signal ∧ r' = .error signal) := by
  simp only [List.forall_mem_cons] at reads
  obtain ⟨_, ⟨_, tests⟩, ⟨_, steps⟩, ⟨_, reads⟩, _⟩ := reads
  have alike := forLoop_endsAlike native tests reads steps steady
  refine ⟨exists_congr fun fuel => (alike fuel).isSome_iff, ?_⟩
  intro fuel fuel' r r' t t' ran ran'
  have alike' := alike fuel'
  rw [ran'] at alike'
  generalize again : Machine.callBuiltin fuel' .forLoop [first, condition, step, body] s = outcome
    at alike'
  have reached := callBuiltin_iff_reaches.mp ⟨fuel, ran⟩
  cases alike' with
  | @value value _ _ =>
      have same := reached.end_unique (callBuiltin_iff_reaches.mp ⟨fuel', again⟩) rfl rfl
      cases same
      exact ⟨rfl, .inl ⟨value, _, rfl, rfl⟩⟩
  | @signal signal _ =>
      have same := reached.end_unique (callBuiltin_iff_reaches.mp ⟨fuel', again⟩) rfl rfl
      cases same
      exact ⟨rfl, .inr ⟨signal, rfl, rfl⟩⟩

def cautiousBody : String := "if {set stop} {break}; puts $go"

/-- The step gives a `while` its value, and a `for` none. -/
theorem cautious_for_is_while :
    Steady ⟨.invoke .forLoop ["set go 1", "set go", "unset go", cautiousBody], [], machineOf ""⟩ ∧
    ∃ t, Machine.callBuiltin 5 .forLoop ["set go 1", "set go", "unset go", cautiousBody]
      (machineOf "") = some (.ok "1", t) ∧
    Machine.whileForm 5 "set go 1" "set go" "unset go" cautiousBody (machineOf "") =
      some (.ok "", t) := by
  have ends : ((Machine.callBuiltin 5 .forLoop ["set go 1", "set go", "unset go", cautiousBody]
      (machineOf "")).map fun ended => ended.1.toOption) = some (some "1") := by decide +kernel
  have ends' : ((Machine.whileForm 5 "set go 1" "set go" "unset go" cautiousBody
      (machineOf "")).map fun ended => ended.1.toOption) = some (some "") := by decide +kernel
  obtain ⟨t, ran⟩ := exists_ok_of_toOption ends
  obtain ⟨t', ran'⟩ := exists_ok_of_toOption ends'
  have reads : ∀ text ∈ ["set go 1", "set go", "unset go", cautiousBody],
      ∃ program, Program.parse text = .ok program := by
    have all : (["set go 1", "set go", "unset go", cautiousBody].all fun text =>
        (Program.parse text).isOk) = true := by decide +kernel
    intro text member
    have read := List.all_eq_true.mp all text member
    cases parsed : Program.parse text with
    | ok program => exact ⟨program, rfl⟩
    | error cause => rw [parsed] at read; cases read
  have steady : Steady ⟨.invoke .forLoop ["set go 1", "set go", "unset go", cautiousBody], [],
      machineOf ""⟩ := steady_of_always 200 (by decide +kernel)
  have same := (for_is_while_with_step native_standard reads steady).2 5 5 _ _ t t' ran ran'
  exact ⟨steady, t, ran, same.1 ▸ ran'⟩

end CommandScript
