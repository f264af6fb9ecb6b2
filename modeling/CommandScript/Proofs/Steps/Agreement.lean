import CommandScript.Proofs.Steps.Builtins

/-! Single steps and whole evaluations agree: an evaluation with enough fuel ends as its steps do,
and one that runs out of fuel stands for at least as many steps. -/

namespace CommandScript

namespace Moment

variable {c c' : Moment} {waiting : List Activation} {n : Nat}

/-- At least so many steps follow. -/
def Lasts : Nat → Moment → Prop
  | 0, _ => True
  | n + 1, c => ∃ c', c.next? = some c' ∧ Lasts n c'

theorem Lasts.of_succ (h : Lasts (n + 1) c) : Lasts n c := by
  induction n generalizing c with
  | zero => trivial
  | succ n ih =>
      obtain ⟨c', stepped, rest⟩ := h
      exact ⟨c', stepped, ih rest⟩

theorem Lasts.step (stepped : c.next? = some c') (h : Lasts n c') : Lasts n c :=
  Lasts.of_succ ⟨c', stepped, h⟩

theorem Lasts.le {m : Nat} (fewer : m ≤ n) (h : Lasts n c) : Lasts m c := by
  induction fewer with
  | refl => exact h
  | step _ ih => exact ih h.of_succ

theorem Reaches.lasts (reached : Reaches c c') (h : Lasts n c') : Lasts n c := by
  induction reached using Relation.ReflTransGen.head_induction_on with
  | refl => exact h
  | head stepped _ ih => exact ih.step stepped

theorem Reaches.not_lasts (reached : Reaches c c') (ended : c'.next? = none) :
    ∃ n, ¬ Lasts n c := by
  induction reached using Relation.ReflTransGen.head_induction_on with
  | refl =>
      refine ⟨1, ?_⟩
      rintro ⟨following, stepped, _⟩
      rw [ended] at stepped
      cases stepped
  | head stepped _ ih =>
      obtain ⟨n, short⟩ := ih
      refine ⟨n + 1, ?_⟩
      rintro ⟨following, stepped', rest⟩
      rw [stepped] at stepped'
      cases stepped'
      exact short rest

theorem Reaches.end_unique {c₁ c₂ : Moment} (h₁ : Reaches c c₁) (h₂ : Reaches c c₂)
    (ended₁ : c₁.next? = none) (ended₂ : c₂.next? = none) : c₁ = c₂ :=
  Part.mem_unique (StateTransition.mem_eval.mpr ⟨h₁, ended₁⟩)
    (StateTransition.mem_eval.mpr ⟨h₂, ended₂⟩)

/-- On the way to an end it does not matter where one starts. -/
theorem Reaches.end_iff {last : Moment} (reached : Reaches c c') (ended : last.next? = none) :
    Reaches c last ↔ Reaches c' last := by
  constructor
  · intro other
    rcases StateTransition.reaches_total reached other with after | before
    · exact after
    · rcases Relation.ReflTransGen.cases_head before with same | ⟨following, stepped, _⟩
      · exact same ▸ .refl
      · rw [Option.mem_def, ended] at stepped
        cases stepped
  · intro after
    exact Relation.ReflTransGen.trans reached after

/-- The steps from a moment do what an evaluator says: they reach the answer it gives, or last as
long as its fuel. -/
def Agrees (n : Nat) (c : Moment) (waiting : List Activation) :
    Option (Except Signal String × State) → Prop
  | some (result, s') => c.Reaches ⟨.answer result, waiting, s'⟩
  | none => c.Lasts n

variable {outcome : Option (Except Signal String × State)}

theorem Agrees.step (stepped : c.next? = some c') (h : Agrees n c' waiting outcome) :
    Agrees n c waiting outcome := by
  cases outcome with
  | none => exact Lasts.step stepped h
  | some ended => exact .head stepped h

theorem Agrees.lead {task task' : Task} {s : State}
    (h : Agrees n ⟨task', waiting, s⟩ waiting outcome) (quiet : ¬ task.IsActive)
    (led : task.advance s = (task', [])) : Agrees n ⟨task, waiting, s⟩ waiting outcome := by
  refine h.step ?_
  rw [next?_of_quiet quiet, led]
  rfl

theorem Agrees.await {task task' : Task} {activation : Activation} {s : State}
    (h : Agrees n ⟨task', activation :: waiting, s⟩ waiting outcome) (quiet : ¬ task.IsActive)
    (led : task.advance s = (task', [activation])) :
    Agrees n ⟨task, waiting, s⟩ waiting outcome := by
  refine h.step ?_
  rw [next?_of_quiet quiet, led]
  rfl

theorem Agrees.step_succ (stepped : c.next? = some c') (h : Agrees n c' waiting outcome) :
    Agrees (n + 1) c waiting outcome := by
  cases outcome with
  | none => exact ⟨c', stepped, h⟩
  | some ended => exact .head stepped h

theorem Agrees.answer (result : Except Signal String) (s : State) :
    Agrees n ⟨.answer result, waiting, s⟩ waiting (some (result, s)) :=
  .refl

/-- An evaluation inside another one, whose result the outer one goes on with. -/
theorem Agrees.inside {inner : List Activation}
    (k : Except Signal String → State → Option (Except Signal String × State))
    (h : Agrees n c inner outcome)
    (rest : ∀ result s', Agrees n ⟨.answer result, inner, s'⟩ waiting (k result s')) :
    Agrees n c waiting (outcome.bind fun ended => k ended.1 ended.2) := by
  cases outcome with
  | none => exact h
  | some ended =>
      obtain ⟨result, s'⟩ := ended
      have after := rest result s'
      simp only [Option.bind_some]
      cases done : k result s' with
      | none =>
          rw [done] at after
          exact Reaches.lasts h after
      | some last =>
          rw [done] at after
          exact Relation.ReflTransGen.trans h after

/-- Where the steps come to an end, any fuel from some amount on gives the result that they pass
through on the way. -/
theorem Agrees.eventually {m : Nat → Option (Except Signal String × State)} {last : Moment}
    (agrees : ∀ fuel, Agrees fuel c waiting (m fuel)) (reached : Reaches c last)
    (ended : last.next? = none) :
    ∃ least, ∀ fuel, least ≤ fuel →
      ∃ r s', m fuel = some (r, s') ∧ Reaches ⟨.answer r, waiting, s'⟩ last := by
  obtain ⟨least, short⟩ := reached.not_lasts ended
  refine ⟨least, fun fuel enough => ?_⟩
  have agree := agrees fuel
  cases ran : m fuel with
  | none =>
      rw [ran] at agree
      exact absurd (Lasts.le enough agree) short
  | some outcome =>
      obtain ⟨r, s'⟩ := outcome
      rw [ran] at agree
      exact ⟨r, s', rfl, (Reaches.end_iff agree ended).mp reached⟩

end Moment

def Eval.continued {α : Type} (f : String → Eval α) : Except Signal String → Eval α
  | .ok value => f value
  | .error signal => Eval.raise signal

theorem Eval.bind_eq_continued {α : Type} (m : Eval String) (f : String → Eval α) (s : State) :
    (m >>= f) s = (m s).bind fun ended => Eval.continued f ended.1 ended.2 := by
  rw [Eval.bind_apply]
  cases m s with
  | none => rfl
  | some ended =>
      obtain ⟨result, s'⟩ := ended
      cases result <;> rfl

theorem Eval.attempt_bind {α : Type} (m : Eval String) (f : Except Signal String → Eval α)
    (s : State) : (Eval.attempt m >>= f) s = (m s).bind fun ended => f ended.1 ended.2 := by
  rw [Eval.bind_apply]
  unfold Eval.attempt
  cases m s <;> rfl

open Moment

/-- A task does what an evaluation says, whatever waits for it. -/
def Task.Performs (n : Nat) (task : Task) (m : Eval String) : Prop :=
  ∀ waiting s, Agrees n ⟨task, waiting, s⟩ waiting (m s)

theorem Task.Performs.le {m n : Nat} {task : Task} {evaluation : Eval String} (fewer : m ≤ n)
    (h : task.Performs n evaluation) : task.Performs m evaluation := by
  intro waiting s
  have agrees := h waiting s
  cases ended : evaluation s with
  | none =>
      rw [ended] at agrees
      exact Lasts.le fewer agrees
  | some outcome =>
      rw [ended] at agrees
      exact agrees

namespace Loop

/-- What follows a finished round: the step, and then the rounds that are left. -/
def following (run : Evaluator) (loop : Loop) (rounds : Nat) (last : String) : Eval String :=
  match loop.step with
  | none => Machine.rounds run loop.condition loop.body loop.step rounds last
  | some program => run program >>= fun _ =>
    Machine.rounds run loop.condition loop.body loop.step rounds last

def settle (run : Evaluator) (loop : Loop) (rounds : Nat) (last : String)
    (result : Except Signal String) : Eval String :=
  match Machine.afterBody last result with
  | .error signal => Eval.raise signal
  | .ok (value, false) => pure value
  | .ok (value, true) => loop.following run rounds value

theorem rounds_succ (run : Evaluator) (loop : Loop) (rounds : Nat) (last : String) :
    Machine.rounds run loop.condition loop.body loop.step (rounds + 1) last =
      Eval.checkInterrupt >>= fun _ => run loop.condition >>= fun answer =>
        if isTrue answer then Eval.attempt (run loop.body) >>= loop.settle run rounds last
        else pure last := by
  unfold Machine.rounds settle following
  rfl

end Loop

namespace Task

/-- The evaluator of inner programs does what their steps do. -/
def Faithful (fuel : Nat) (run : Evaluator) : Prop :=
  ∀ program, (Task.program program).Performs fuel (run program)

variable {fuel : Nat} {run : Evaluator}

theorem Performs.of_advance {task task' : Task} {m m' : Eval String} (quiet : ¬ task.IsActive)
    (led : ∀ s, task.advance s = (task', [])) (h : task'.Performs fuel m')
    (same : ∀ s, m s = m' s) : task.Performs fuel m := by
  intro waiting s
  rw [same s]
  exact (h waiting s).lead quiet (led s)

/-- A value of an inner evaluation is gone on with, and a signal is passed on. -/
theorem Performs.bind {task : Task} {m : Eval String} (h : task.Performs fuel m)
    {f : String → Eval String} (activation : Activation) (waiting : List Activation) (s : State)
    (passed : ∀ signal s', activation.interrupt signal waiting s' =
      ⟨.answer (.error signal), waiting, s'⟩)
    (rest : ∀ value s', Agrees fuel (activation.proceed value waiting s') waiting (f value s')) :
    Agrees fuel ⟨task, activation :: waiting, s⟩ waiting ((m >>= f) s) := by
  rw [Eval.bind_eq_continued]
  refine Agrees.inside (fun result s' => Eval.continued f result s')
    (h (activation :: waiting) s) ?_
  intro result s'
  cases result with
  | ok value => exact (rest value s').step rfl
  | error signal =>
      have stepped : next? ⟨.answer (.error signal), activation :: waiting, s'⟩ =
          some ⟨.answer (.error signal), waiting, s'⟩ := congrArg some (passed signal s')
      exact (Agrees.answer _ _).step stepped

theorem text_performs (hr : Faithful fuel run) (text : String) :
    (Task.text text).Performs fuel (run.text text) := by
  intro waiting s
  cases parsed : Program.parse text with
  | error cause =>
      have same : run.text text s = some (.error (.failed cause), s) := by
        simp only [Evaluator.text, parsed, Eval.bind_apply]; rfl
      rw [same]
      exact (Agrees.answer _ _).lead id (by simp only [advance, parsed, failing])
  | ok program =>
      have same : run.text text s = run program s := by
        simp only [Evaluator.text, parsed, Eval.bind_apply]; rfl
      rw [same]
      exact (hr program waiting s).lead id (by simp only [advance, parsed])

/-- The induction is on the characters left; a closed bracket is an inner evaluation. -/
theorem brackets_performs (hr : Faithful fuel run) (current : List Char)
    (opened : List (List Char)) (rest : List Char) :
    (Task.brackets current opened rest).Performs fuel
      (Expansion.replaceBrackets run.text current opened rest >>= fun characters =>
        pure (String.ofList characters)) := by
  induction rest generalizing current opened with
  | nil =>
      intro waiting s
      exact (Agrees.answer _ _).step rfl
  | cons c rest ih =>
      unfold Expansion.replaceBrackets
      by_cases opens : c = '['
      · simp only [opens, if_true]
        exact (ih [] (current :: opened)).of_advance id (fun _ => rfl) fun _ => rfl
      · by_cases closes : c = ']'
        · subst closes
          simp only [if_neg opens, if_true]
          cases opened with
          | nil =>
              exact (ih (']' :: current) []).of_advance id (fun _ => rfl) fun _ => rfl
          | cons before outer =>
              intro waiting s
              dsimp only
              rw [Eval.bind_assoc]
              refine Agrees.step rfl ((text_performs hr _).bind (.bracket before outer rest)
                waiting s (fun _ _ => rfl) ?_)
              intro value s'
              exact ih (value.toList.reverse ++ before) outer waiting s'
        · simp only [if_neg opens, if_neg closes]
          refine (ih (c :: current) opened).of_advance id (fun s => ?_) fun _ => rfl
          simp only [advance, scan, if_neg opens, if_neg closes]

theorem word_performs (hr : Faithful fuel run) (text : String) :
    (Task.word text).Performs fuel (Machine.expandWord run text) := by
  intro waiting s
  exact (brackets_performs hr [] [] _ waiting s).step rfl

/-- The arguments that are done come in front of those still to be expanded. -/
theorem arguments_performs (hr : Faithful fuel run) (head : Token) (name : String)
    (done : List String) (rest : List Token)
    (hd : ∀ args, (Task.dispatch head name args).Performs fuel
      (Machine.dispatch fuel run head name args)) :
    (Task.arguments head name done rest).Performs fuel (Machine.arguments run rest >>= fun args =>
      Machine.dispatch fuel run head name (done ++ args)) := by
  induction rest generalizing done with
  | nil =>
      refine (hd done).of_advance id (fun _ => rfl) fun s => ?_
      simp only [Machine.arguments, Eval.pure_bind, List.append_nil]
  | cons token rest ih =>
      have split : (Machine.arguments run (token :: rest) >>= fun args =>
          Machine.dispatch fuel run head name (done ++ args)) =
          Machine.argument run token >>= fun first => Machine.arguments run rest >>= fun others =>
            Machine.dispatch fuel run head name (done ++ [first] ++ others) := by
        simp only [Machine.arguments, Eval.bind_assoc, Eval.pure_bind, List.append_assoc,
          List.singleton_append]
      rw [split]
      by_cases block : token.kind = .block
      · have literal : Machine.argument run token = pure token.literal := by
          simp only [Machine.argument, block]
        rw [literal, Eval.pure_bind]
        refine (ih (done ++ [token.literal])).of_advance id (fun s => ?_) fun _ => rfl
        simp only [advance, block]
      · have expanded : Machine.argument run token = Machine.expandWord run token.literal := by
          unfold Machine.argument
          split
          · next kind => exact absurd kind block
          · rfl
        rw [expanded]
        intro waiting s
        have led : (Task.arguments head name done (token :: rest)).advance s =
            (.word token.literal, [.commandArgument head name done rest]) := by
          simp only [advance]
        exact Agrees.await ((word_performs hr token.literal).bind
          (.commandArgument head name done rest) waiting s (fun _ _ => rfl)
          fun value s' => ih (done ++ [value]) waiting s') id led

theorem command_performs (hr : Faithful fuel run) (command : Command)
    (hd : ∀ name args, (Task.dispatch command.head name args).Performs fuel
      (Machine.dispatch fuel run command.head name args)) :
    (Task.command command).Performs fuel (Machine.execute fuel run command) := by
  have ha : ∀ name, (Task.arguments command.head name [] command.arguments).Performs fuel
      (Machine.arguments run command.arguments >>= fun args =>
        Machine.dispatch fuel run command.head name args) := fun name =>
    arguments_performs hr command.head name [] command.arguments (hd name)
  have hw : ∀ waiting s, Agrees fuel
      ⟨.word command.head.literal, .commandHead command :: waiting, s⟩ waiting
      ((Machine.expandWord run command.head.literal >>= fun name =>
        Machine.arguments run command.arguments >>= fun args =>
          Machine.dispatch fuel run command.head name args) s) := fun waiting s =>
    (word_performs hr command.head.literal).bind (.commandHead command) waiting s
      (fun _ _ => rfl) fun value s' => ha value waiting s'
  intro waiting s
  unfold Machine.execute Machine.commandName
  split
  · next kind => exact (hw waiting s).await id (by simp only [advance, kind])
  · next kind => exact (hw waiting s).await id (by simp only [advance, kind])
  · next kind => exact (Agrees.answer _ _).lead id (by simp only [advance, kind, failing])
  · exact (ha command.head.literal waiting s).lead id (by simp only [advance])

theorem dispatch_performs (head : Token) (name : String) (args : List String)
    (hi : ∀ builtin, (Task.invoke builtin args).Performs fuel
      (Machine.invoke fuel run builtin args))
    (hc : ∀ procedure, (Task.call name procedure args).Performs fuel
      (Machine.call run name procedure args)) :
    (Task.dispatch head name args).Performs fuel (Machine.dispatch fuel run head name args) := by
  intro waiting s
  rw [Machine.dispatch_apply]
  cases found : s.builtins.get? name with
  | some builtin =>
      have inner := hi builtin (.builtin name :: waiting) s
      have split : Eval.mapSignal (Signal.inCommand name) (Machine.invoke fuel run builtin args) s =
          (Machine.invoke fuel run builtin args s).bind fun ended =>
            some (ended.1.mapError (Signal.inCommand name), ended.2) := by
        unfold Eval.mapSignal
        cases Machine.invoke fuel run builtin args s <;> rfl
      dsimp only
      rw [split]
      refine Agrees.await (inner.inside (fun result s' =>
        some (result.mapError (Signal.inCommand name), s')) fun result s' => ?_) id
        (by simp only [advance, lookup, found])
      cases result with
      | ok value => exact (Agrees.answer _ _).step rfl
      | error signal => exact (Agrees.answer _ _).step rfl
  | none =>
      cases defined : s.procedures.get? name with
      | some procedure =>
          exact (hc procedure waiting s).lead id (by simp only [advance, lookup, found, defined])
      | none =>
          dsimp only
          split
          · next literal =>
              exact (Agrees.answer _ _).lead id
                (by simp only [advance, lookup, found, defined, literal, if_true])
          · next other =>
              exact (Agrees.answer _ _).lead id
                (by simp only [advance, lookup, found, defined, if_neg other, failing])

theorem call_performs (hr : Faithful fuel run) (name : String) (procedure : Procedure)
    (args : List String) :
    (Task.call name procedure args).Performs fuel (Machine.call run name procedure args) := by
  intro waiting s
  by_cases fits : args.length = procedure.params.length
  · have inner := hr procedure.program (.procedure :: waiting)
      { s with scopes := Machine.bindParams s.scopes.push procedure.params args }
    have split : Machine.call run name procedure args s =
        (run procedure.program
          { s with scopes := Machine.bindParams s.scopes.push procedure.params args }).bind
        fun ended => some (Machine.callResult ended.1,
          { ended.2 with scopes := ended.2.scopes.pop }) := by
      simp only [Machine.call, if_pos fits]
      split
      · next none => rw [none]; rfl
      · next ended => rw [ended]; rfl
    rw [split]
    refine Agrees.step (if_pos fits) (inner.inside (fun result s' =>
      some (Machine.callResult result, { s' with scopes := s'.scopes.pop })) fun result s' => ?_)
    cases result with
    | ok value => exact (Agrees.answer _ _).step rfl
    | error signal => exact (Agrees.answer _ _).step rfl
  · have refused : Machine.call run name procedure args s = some (.error (.failed
        (.functionArity name procedure.params.length args.length)), s) := if_neg fits
    rw [refused]
    exact (Agrees.answer _ _).step (if_neg fits)

theorem following_agrees (hr : Faithful fuel run) (loop : Loop) (rounds : Nat)
    (hrest : ∀ last, (Task.round loop last).Performs fuel
      (Machine.rounds run loop.condition loop.body loop.step rounds last)) (value : String)
    (waiting : List Activation) (s : State) :
    Agrees fuel (loop.goOn value waiting s) waiting (loop.following run rounds value s) := by
  obtain ⟨condition, body, step⟩ := loop
  cases step with
  | none => exact hrest value waiting s
  | some program =>
      exact (hr program).bind (.loopStep _ value) waiting s (fun _ _ => rfl)
        fun _ s' => hrest value waiting s'

/-- The step from the body's result to the next round is the one that the round's fuel pays
for. -/
theorem settle_agrees (loop : Loop) (rounds : Nat) (last : String)
    (hf : ∀ value waiting s, Agrees fuel (loop.goOn value waiting s) waiting
      (loop.following run rounds value s))
    (result : Except Signal String) (waiting : List Activation) (s : State) :
    Agrees (fuel + 1) ⟨.answer result, .loopBody loop last :: waiting, s⟩ waiting
      (loop.settle run rounds last result s) := by
  cases result with
  | ok value => exact (hf value waiting s).step_succ rfl
  | error signal =>
      cases signal with
      | leaveLoop value => exact (Agrees.answer _ _).step rfl
      | nextRound value => exact (hf (value.getD last) waiting s).step_succ rfl
      | returned value => exact (Agrees.answer _ _).step rfl
      | exited value => exact (Agrees.answer _ _).step rfl
      | failed cause => exact (Agrees.answer _ _).step rfl

/-- The rounds of a loop take fuel of their own, of which there is no more than for the level. -/
theorem round_performs (hr : Faithful fuel run) (loop : Loop) (rounds : Nat)
    (enough : rounds ≤ fuel) (last : String) :
    (Task.round loop last).Performs rounds
      (Machine.rounds run loop.condition loop.body loop.step rounds last) := by
  induction rounds generalizing last with
  | zero =>
      intro waiting s
      trivial
  | succ rounds ih =>
      have hr' : Faithful rounds run := fun program => (hr program).le (Nat.le_of_succ_le enough)
      have hf := following_agrees hr' loop rounds (ih (Nat.le_of_succ_le enough))
      intro waiting s
      rw [Loop.rounds_succ, Eval.bind_apply]
      cases raised : s.checkInterrupt with
      | error cause =>
          simp only [Eval.checkInterrupt, raised]
          exact (Agrees.answer _ _).lead id (by simp only [advance, raised, failing])
      | ok _ =>
          simp only [Eval.checkInterrupt, raised]
          have led : (Task.round loop last).advance s =
              (.program loop.condition, [.loopTest loop last]) := by
            simp only [advance, raised]
          refine Agrees.await (((hr loop.condition).le enough).bind (.loopTest loop last)
            waiting s (fun _ _ => rfl) fun answer s' => ?_) id led
          simp only [Activation.proceed]
          split
          · have inner := (hr loop.body).le enough (.loopBody loop last :: waiting) s'
            rw [Eval.attempt_bind]
            exact inner.inside (loop.settle run rounds last) fun result s'' =>
              settle_agrees loop rounds last hf result waiting s''
          · exact .answer _ _

theorem loop_eq_openLoop (condition body : String) (step : Option String) :
    Machine.loop fuel run condition body step =
      Eval.ofExcept (openLoop condition body step) >>= fun loop =>
        Machine.rounds run loop.condition loop.body loop.step fuel "" := by
  unfold Machine.loop openLoop
  cases Program.parse condition with
  | error cause => rfl
  | ok condition =>
      cases Program.parse body with
      | error cause => rfl
      | ok body =>
          cases step with
          | none => rfl
          | some script =>
              dsimp only
              cases Program.parse script <;> rfl

theorem loop_performs (hr : Faithful fuel run) (condition body : String) (step : Option String) :
    (Task.loop condition body step).Performs fuel
      (Machine.loop fuel run condition body step) := by
  intro waiting s
  rw [loop_eq_openLoop, Eval.bind_apply]
  cases opened : openLoop condition body step with
  | error cause => exact (Agrees.answer _ _).lead id (by simp only [advance, opened, failing])
  | ok loop =>
      exact (round_performs hr loop fuel (Nat.le_refl _) "" waiting s).lead id
        (by simp only [advance, opened])

theorem choose_agrees (hr : Faithful fuel run) (test body : String) (otherwise : Option String)
    (waiting : List Activation) (s : State) :
    Agrees fuel ⟨.text test, .branchTest body otherwise :: waiting, s⟩ waiting
      (Machine.choose run test body otherwise s) := by
  refine (text_performs hr test).bind (.branchTest body otherwise) waiting s (fun _ _ => rfl)
    fun answer s' => ?_
  simp only [Activation.proceed]
  split
  · exact text_performs hr body waiting s'
  · cases otherwise with
    | some text => exact text_performs hr text waiting s'
    | none => exact .answer _ _

/-- The induction is on the requests of the host command. -/
theorem host_performs (hr : Faithful fuel run) (request : HostStep) :
    (Task.host request).Performs fuel (request.run run) := by
  induction request with
  | finish result =>
      intro waiting s
      cases result <;> exact (Agrees.answer _ _).step rfl
  | evaluate text resume ih =>
      intro waiting s
      have inner := text_performs hr text (.hostText resume :: waiting) s
      have split : (HostStep.evaluate text resume).run run s =
          (run.text text s).bind fun ended => (resume ended.1).run run ended.2 := by
        simp only [HostStep.run]
        cases run.text text s <;> rfl
      rw [split]
      refine Agrees.step rfl (inner.inside (fun result s' => (resume result).run run s')
        fun result s' => ?_)
      cases result <;> exact (ih _ waiting s').step rfl
  | evaluateSource text resume ih =>
      intro waiting s
      cases parsed : Program.parse text with
      | error cause =>
          have split : (HostStep.evaluateSource text resume).run run s =
              (resume (.error cause)).run run s := by
            simp only [HostStep.run, Evaluator.source, parsed]
          rw [split]
          exact (ih _ waiting s).step (by simp only [next?, serve, parsed])
      | ok program =>
          have inner := hr program (.hostSource resume :: waiting)
            { s with commandsSealed := true }
          have split : (HostStep.evaluateSource text resume).run run s =
              (run program { s with commandsSealed := true }).bind fun ended =>
                (resume (Outcome.ofResult ended.1)).run run ended.2 := by
            simp only [HostStep.run, Evaluator.source, Evaluator.script, parsed]
            cases run program { s with commandsSealed := true } <;> rfl
          rw [split]
          have stepped : next? ⟨.host (.evaluateSource text resume), waiting, s⟩ =
              some ⟨.program program, .hostSource resume :: waiting,
                { s with commandsSealed := true }⟩ := by
            simp only [next?, serve, parsed]
          refine Agrees.step stepped (inner.inside (fun result s' =>
            (resume (Outcome.ofResult result)).run run s') fun result s' => ?_)
          cases result <;> exact (ih _ waiting s').step rfl
  | readVariable name resume ih =>
      intro waiting s
      exact (ih _ waiting s).step rfl
  | setVariable name value resume ih =>
      intro waiting s
      exact (ih waiting _).step rfl
  | unsetVariable name resume ih =>
      intro waiting s
      exact (ih _ waiting _).step rfl
  | writeLine line resume ih =>
      intro waiting s
      simp only [HostStep.run]
      cases written : s.writeLine line with
      | ok s' => exact (ih _ waiting s').step (by simp only [next?, serve, written])
      | error cause => exact (ih _ waiting s).step (by simp only [next?, serve, written])
  | define name params body resume ih =>
      intro waiting s
      simp only [HostStep.run]
      cases made : Procedure.make params body with
      | ok procedure => exact (ih _ waiting _).step (by simp only [next?, serve, made])
      | error cause => exact (ih _ waiting s).step (by simp only [next?, serve, made])
  | limitDepth depth resume ih =>
      intro waiting s
      exact (ih waiting _).step rfl
  | raiseInterrupt resume ih =>
      intro waiting s
      exact (ih waiting _).step rfl

theorem invoke_performs (hr : Faithful fuel run) (builtin : Builtin) (args : List String) :
    (Task.invoke builtin args).Performs fuel (Machine.invoke fuel run builtin args) := by
  intro waiting s
  cases opens : builtin.opening? args with
  | none =>
      rw [Machine.invoke_eq_of_opening?_eq_none opens]
      obtain ⟨r, s', ended⟩ := Machine.invoke_ends opens s
      rw [ended]
      exact (Agrees.answer _ _).step (by simp only [next?, opens, ended, Option.map_some])
  | some opening =>
      have stepped : next? ⟨.invoke builtin args, waiting, s⟩ =
          some ⟨opening.1, opening.2 ++ waiting, s⟩ := by
        simp only [next?, opens]
      refine Agrees.step stepped ?_
      unfold Builtin.opening? at opens
      split at opens
      · cases opens
        exact text_performs hr _ waiting s
      · cases opens
        exact choose_agrees hr _ _ _ waiting s
      · next test body word alternative =>
          split at opens
          · next keyword =>
              cases opens
              have split : Machine.invoke fuel run .ifElse [test, body, word, alternative] =
                  Machine.choose run test body (some alternative) := if_pos keyword
              rw [split]
              exact choose_agrees hr _ _ _ waiting s
          · cases opens
      · cases opens
        exact loop_performs hr _ _ _ waiting s
      · cases opens
        exact (text_performs hr _).bind (.loopFirst _ _ _) waiting s (fun _ _ => rfl)
          fun _ s' => loop_performs hr _ _ _ waiting s'
      · cases opens
        exact host_performs hr _ waiting s
      · cases opens

theorem commands_performs {execute : Command → Eval String}
    (he : ∀ command, (Task.command command).Performs fuel (execute command))
    (last : Option String) (rest : Program) :
    (Task.commands last rest).Performs fuel (Machine.sequence execute last rest) := by
  induction rest generalizing last with
  | nil =>
      intro waiting s
      exact (Agrees.answer _ _).step rfl
  | cons command rest ih =>
      intro waiting s
      have split : Machine.sequence execute last (command :: rest) =
          Eval.checkInterrupt >>= fun _ =>
            Eval.mapSignal (Machine.stampLast last) (execute command) >>= fun value =>
              Machine.sequence execute (some value) rest := rfl
      rw [split, Eval.bind_apply]
      cases raised : s.checkInterrupt with
      | error cause =>
          simp only [Eval.checkInterrupt, raised]
          exact (Agrees.answer _ _).lead id (by simp only [advance, raised, failing])
      | ok _ =>
          simp only [Eval.checkInterrupt, raised]
          have inner := he command (.sequence last rest :: waiting) s
          have split : (Eval.mapSignal (Machine.stampLast last) (execute command) >>= fun value =>
              Machine.sequence execute (some value) rest) s =
              (execute command s).bind fun ended =>
                Eval.continued (fun value => Machine.sequence execute (some value) rest)
                  (ended.1.mapError (Machine.stampLast last)) ended.2 := by
            rw [Eval.bind_eq_continued]
            unfold Eval.mapSignal
            cases execute command s <;> rfl
          rw [split]
          refine Agrees.await (inner.inside (fun result s' =>
            Eval.continued (fun value => Machine.sequence execute (some value) rest)
              (result.mapError (Machine.stampLast last)) s')
            fun result s' => ?_) id (by simp only [advance, raised])
          cases result with
          | ok value => exact (ih (some value) waiting s').step rfl
          | error signal => exact (Agrees.answer _ _).step rfl

theorem program_performs_succ {execute : Command → Eval String}
    (he : ∀ command, (Task.command command).Performs fuel (execute command)) (program : Program) :
    (Task.program program).Performs (fuel + 1)
      (Machine.nested (Machine.sequence execute none program)) := by
  intro waiting s
  by_cases deep : s.maxDepth ≤ s.depth
  · have refused : Machine.nested (Machine.sequence execute none program) s =
        some (.error (.failed (.depthExceeded s.maxDepth)), s) := if_pos deep
    rw [refused]
    exact (Agrees.answer _ _).step (if_pos deep)
  · have inner := commands_performs he none program (.level :: waiting)
      { s with depth := s.depth + 1 }
    have split : Machine.nested (Machine.sequence execute none program) s =
        (Machine.sequence execute none program { s with depth := s.depth + 1 }).bind fun ended =>
          some (ended.1, { ended.2 with depth := ended.2.depth - 1 }) := by
      simp only [Machine.nested, if_neg deep]
      cases Machine.sequence execute none program { s with depth := s.depth + 1 } <;> rfl
    rw [split]
    refine Agrees.step_succ (if_neg deep) (inner.inside (fun result s' =>
      some (result, { s' with depth := s'.depth - 1 })) fun result s' => ?_)
    cases result <;> exact (Agrees.answer _ _).step rfl

theorem execute_performs (hr : Faithful fuel run) (command : Command) :
    (Task.command command).Performs fuel (Machine.execute fuel run command) := by
  refine command_performs hr command fun name args => ?_
  exact dispatch_performs command.head name args (fun builtin => invoke_performs hr builtin args)
    fun procedure => call_performs hr name procedure args

/-- The steps of a program agree with its evaluation, whatever the fuel. -/
theorem program_performs (fuel : Nat) (program : Program) :
    (Task.program program).Performs fuel (Machine.run fuel program) := by
  induction fuel generalizing program with
  | zero =>
      intro waiting s
      trivial
  | succ fuel ih => exact program_performs_succ (execute_performs ih) program

end Task

/-- A task whose steps end does so with any fuel from some amount on. -/
theorem Task.eventually_of_reaches {task : Task} {m : Nat → Eval String} {s s' : State}
    {r : Except Signal String} (performs : ∀ fuel, task.Performs fuel (m fuel))
    (reached : Reaches ⟨task, [], s⟩ ⟨.answer r, [], s'⟩) :
    ∃ least, ∀ fuel, least ≤ fuel → m fuel s = some (r, s') := by
  have agrees := fun fuel => performs fuel [] s
  obtain ⟨least, enough⟩ := Agrees.eventually agrees reached rfl
  refine ⟨least, fun fuel more => ?_⟩
  obtain ⟨r₁, s₁, ran, after⟩ := enough fuel more
  have same := Reaches.end_unique after .refl rfl rfl
  cases same
  exact ran

/-- A task ends with a result exactly when its steps do. -/
theorem Task.ends_iff_reaches {task : Task} {m : Nat → Eval String} {s s' : State}
    {r : Except Signal String} (performs : ∀ fuel, task.Performs fuel (m fuel)) :
    (∃ fuel, m fuel s = some (r, s')) ↔ Reaches ⟨task, [], s⟩ ⟨.answer r, [], s'⟩ := by
  constructor
  · rintro ⟨fuel, ran⟩
    have agrees := performs fuel [] s
    rw [ran] at agrees
    exact agrees
  · intro reached
    obtain ⟨least, ran⟩ := eventually_of_reaches performs reached
    exact ⟨least, ran least (Nat.le_refl least)⟩

/-- An evaluation that ends with a result comes to it with whatever waits behind. -/
theorem reaches_of_run {fuel : Nat} {program : Program} {s s' : State} {r : Except Signal String}
    (ran : Machine.run fuel program s = some (r, s')) (waiting : List Activation) :
    Reaches ⟨.program program, waiting, s⟩ ⟨.answer r, waiting, s'⟩ := by
  have agrees := Task.program_performs fuel program waiting s
  rw [ran] at agrees
  exact agrees

theorem run_eventually {program : Program} {s s' : State} {r : Except Signal String}
    (reached : Reaches ⟨.program program, [], s⟩ ⟨.answer r, [], s'⟩) :
    ∃ least, ∀ fuel, least ≤ fuel → Machine.run fuel program s = some (r, s') :=
  Task.eventually_of_reaches (fun fuel => Task.program_performs fuel program) reached

theorem run_iff_reaches {program : Program} {s s' : State} {r : Except Signal String} :
    (∃ fuel, Machine.run fuel program s = some (r, s')) ↔
      Reaches ⟨.program program, [], s⟩ ⟨.answer r, [], s'⟩ :=
  Task.ends_iff_reaches fun fuel => Task.program_performs fuel program

theorem Machine.evaluateText_of_parse {text : String} {program : Program}
    (read : Program.parse text = .ok program) (fuel : Nat) :
    evaluateText fuel text = run fuel program := by
  unfold evaluateText Evaluator.text
  rw [read]
  exact Eval.pure_bind program (run fuel)

theorem evaluateText_iff_reaches {text : String} {s s' : State} {r : Except Signal String} :
    (∃ fuel, Machine.evaluateText fuel text s = some (r, s')) ↔
      Reaches ⟨.text text, [], s⟩ ⟨.answer r, [], s'⟩ :=
  Task.ends_iff_reaches fun fuel => Task.text_performs (Task.program_performs fuel) text

theorem evaluateText_unique {fuel fuel' : Nat} {text : String} {s s' s'' : State}
    {r r' : Except Signal String} (ran : Machine.evaluateText fuel text s = some (r, s'))
    (ran' : Machine.evaluateText fuel' text s = some (r', s'')) : r' = r ∧ s'' = s' := by
  have same := (evaluateText_iff_reaches.mp ⟨fuel, ran⟩).end_unique
    (evaluateText_iff_reaches.mp ⟨fuel', ran'⟩) rfl rfl
  cases same
  exact ⟨rfl, rfl⟩

theorem loop_iff_reaches {condition body : String} {step : Option String} {s s' : State}
    {r : Except Signal String} :
    (∃ fuel, Machine.loop fuel (Machine.run fuel) condition body step s = some (r, s')) ↔
      Reaches ⟨.loop condition body step, [], s⟩ ⟨.answer r, [], s'⟩ :=
  Task.ends_iff_reaches fun fuel =>
    Task.loop_performs (Task.program_performs fuel) condition body step

theorem callBuiltin_iff_reaches {builtin : Builtin} {args : List String} {s s' : State}
    {r : Except Signal String} :
    (∃ fuel, Machine.callBuiltin fuel builtin args s = some (r, s')) ↔
      Reaches ⟨.invoke builtin args, [], s⟩ ⟨.answer r, [], s'⟩ :=
  Task.ends_iff_reaches fun fuel =>
    Task.invoke_performs (Task.program_performs fuel) builtin args

end CommandScript
