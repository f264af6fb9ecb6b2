import CommandScript.Proofs.Evaluation
import Mathlib.Computability.StateTransition

/-! Evaluation one step at a time. A moment of an evaluation holds what is done next, the
activations that wait for its result, innermost first, and the state. Moments make visible what an
evaluation passes through, also one that never ends. -/

namespace CommandScript

/-- The programs of a loop that has been read. -/
structure Loop where
  condition : Program
  body : Program
  step : Option Program

/-- What is done next. -/
inductive Task where
  | text (text : String)
  | program (program : Program)
  | commands (last : Option String) (rest : Program)
  | command (command : Command)
  | word (text : String)
  | brackets (current : List Char) (opened : List (List Char)) (rest : List Char)
  | arguments (head : Token) (name : String) (done : List String) (rest : List Token)
  | dispatch (head : Token) (name : String) (args : List String)
  | invoke (builtin : Builtin) (args : List String)
  | call (name : String) (procedure : Procedure) (args : List String)
  | loop (condition body : String) (step : Option String)
  | round (loop : Loop) (last : String)
  | host (request : HostStep)
  | answer (result : Except Signal String)

/-- What waits for a result: a level of nesting, the commands behind the current one, the parts of
a command that are still to be expanded, a builtin or a procedure that has been entered, a test,
and the four scripts of a loop. -/
inductive Activation where
  | level
  | sequence (last : Option String) (rest : Program)
  | commandHead (command : Command)
  | commandArgument (head : Token) (name : String) (done : List String) (rest : List Token)
  | bracket (before : List Char) (outer : List (List Char)) (rest : List Char)
  | builtin (name : String)
  | procedure
  | branchTest (body : String) (otherwise : Option String)
  | loopFirst (condition body step : String)
  | loopTest (loop : Loop) (last : String)
  | loopBody (loop : Loop) (last : String)
  | loopStep (loop : Loop) (last : String)
  | hostText (resume : Except Signal String → HostStep)
  | hostSource (resume : Except Failure Outcome → HostStep)

structure Moment where
  task : Task
  waiting : List Activation
  state : State

namespace Loop

/-- After a round the step runs, if the loop has one, and then the next round begins. -/
def goOn (loop : Loop) (last : String) (waiting : List Activation) (s : State) : Moment :=
  match loop.step with
  | none => ⟨.round loop last, waiting, s⟩
  | some program => ⟨.program program, .loopStep loop last :: waiting, s⟩

end Loop

namespace Activation

/-- What follows when the awaited result is a value. -/
def proceed (value : String) (waiting : List Activation) (s : State) : Activation → Moment
  | .level => ⟨.answer (.ok value), waiting, { s with depth := s.depth - 1 }⟩
  | .sequence _ rest => ⟨.commands (some value) rest, waiting, s⟩
  | .commandHead command => ⟨.arguments command.head value [] command.arguments, waiting, s⟩
  | .commandArgument head name done rest =>
    ⟨.arguments head name (done ++ [value]) rest, waiting, s⟩
  | .bracket before outer rest =>
    ⟨.brackets (value.toList.reverse ++ before) outer rest, waiting, s⟩
  | .builtin _ => ⟨.answer (.ok value), waiting, s⟩
  | .procedure => ⟨.answer (.ok value), waiting, { s with scopes := s.scopes.pop }⟩
  | .branchTest body otherwise =>
    if isTrue value then ⟨.text body, waiting, s⟩
    else
      match otherwise with
      | some text => ⟨.text text, waiting, s⟩
      | none => ⟨.answer (.ok ""), waiting, s⟩
  | .loopFirst condition body step => ⟨.loop condition body (some step), waiting, s⟩
  | .loopTest loop last =>
    if isTrue value then ⟨.program loop.body, .loopBody loop last :: waiting, s⟩
    else ⟨.answer (.ok last), waiting, s⟩
  | .loopBody loop _ => loop.goOn value waiting s
  | .loopStep loop last => ⟨.round loop last, waiting, s⟩
  | .hostText resume => ⟨.host (resume (.ok value)), waiting, s⟩
  | .hostSource resume => ⟨.host (resume (.ok (.normal value))), waiting, s⟩

/-- What follows when the awaited result is a signal. Most activations pass it on; bodies of loops,
procedures and host commands look at it. -/
def interrupt (signal : Signal) (waiting : List Activation) (s : State) : Activation → Moment
  | .level => ⟨.answer (.error signal), waiting, { s with depth := s.depth - 1 }⟩
  | .sequence last _ => ⟨.answer (.error (Machine.stampLast last signal)), waiting, s⟩
  | .builtin name => ⟨.answer (.error (signal.inCommand name)), waiting, s⟩
  | .procedure =>
    ⟨.answer (Machine.callResult (.error signal)), waiting, { s with scopes := s.scopes.pop }⟩
  | .loopBody loop last =>
    match signal with
    | .leaveLoop value => ⟨.answer (.ok (value.getD last)), waiting, s⟩
    | .nextRound value => loop.goOn (value.getD last) waiting s
    | signal => ⟨.answer (.error signal), waiting, s⟩
  | .hostText resume => ⟨.host (resume (.error signal)), waiting, s⟩
  | .hostSource resume => ⟨.host (resume (Outcome.ofResult (.error signal))), waiting, s⟩
  | _ => ⟨.answer (.error signal), waiting, s⟩

def resume (activation : Activation) (result : Except Signal String) (waiting : List Activation)
    (s : State) : Moment :=
  match result with
  | .ok value => activation.proceed value waiting s
  | .error signal => activation.interrupt signal waiting s

end Activation

/-- The evaluator of a builtin that consults none. -/
def Machine.noEvaluator : Evaluator := fun _ => Eval.exhausted

/-- The evaluation that a builtin begins with and what then waits for it, none for a builtin that
evaluates nothing. -/
def Builtin.opening? : Builtin → List String → Option (Task × List Activation)
  | .evaluate, [text] => some (.text text, [])
  | .ifElse, [test, body] => some (.text test, [.branchTest body none])
  | .ifElse, [test, body, word, alternative] =>
    if word = "else" then some (.text test, [.branchTest body (some alternative)]) else none
  | .whileLoop, [condition, body] => some (.loop condition body none, [])
  | .forLoop, [first, condition, step, body] => some (.text first, [.loopFirst condition body step])
  | .host act, args => some (.host (act args), [])
  | _, _ => none

namespace Task

def failing (cause : Failure) : Task := .answer (.error (.failed cause))

/-- Goes through a word up to its next character or bracket. -/
def scan (current : List Char) (opened : List (List Char)) :
    List Char → Task × List Activation
  | [] => (.answer (.ok (String.ofList (Expansion.reopen current opened).reverse)), [])
  | c :: rest =>
    if c = '[' then (.brackets [] (current :: opened) rest, [])
    else if c = ']' then
      match opened with
      | [] => (.brackets (c :: current) [] rest, [])
      | before :: outer => (.text (String.ofList current.reverse), [.bracket before outer rest])
    else (.brackets (c :: current) opened rest, [])

/-- Reads the scripts of a loop and begins its first round. -/
def openLoop (condition body : String) (step : Option String) : Except Failure Loop := do
  let condition ← Program.parse condition
  let body ← Program.parse body
  match step with
  | none => pure ⟨condition, body, none⟩
  | some script => do
    let step ← Program.parse script
    pure ⟨condition, body, some step⟩

/-- The builtin or procedure of a name, builtins first. -/
def lookup (s : State) (head : Token) (name : String) (args : List String) :
    Task × List Activation :=
  match s.builtins.get? name, s.procedures.get? name with
  | some builtin, _ => (.invoke builtin args, [.builtin name])
  | none, some procedure => (.call name procedure args, [])
  | none, none =>
    if Machine.isLiteral head && args.isEmpty then (.answer (.ok name), [])
    else (failing (.unknownCommand name), [])

/-- Where a task leads that does not change the state: to the next task and what then waits for
it. -/
def advance (s : State) : Task → Task × List Activation
  | .text source =>
    match Program.parse source with
    | .ok parsed => (.program parsed, [])
    | .error cause => (failing cause, [])
  | .commands last [] => (.answer (.ok (last.getD "")), [])
  | .commands last (first :: rest) =>
    match s.checkInterrupt with
    | .ok () => (.command first, [.sequence last rest])
    | .error cause => (failing cause, [])
  | .command current =>
    match current.head.kind with
    | .variable | .bracket => (.word current.head.literal, [.commandHead current])
    | .block => (failing (.invalidCommand current.head.literal), [])
    | _ => (.arguments current.head current.head.literal [] current.arguments, [])
  | .word source => (.brackets [] [] (Expansion.substituteText s.valueOf? source).toList, [])
  | .brackets current opened rest => scan current opened rest
  | .arguments head name done [] => (.dispatch head name done, [])
  | .arguments head name done (token :: rest) =>
    match token.kind with
    | .block => (.arguments head name (done ++ [token.literal]) rest, [])
    | _ => (.word token.literal, [.commandArgument head name done rest])
  | .dispatch head name args => lookup s head name args
  | .loop condition body step =>
    match openLoop condition body step with
    | .ok opened => (.round opened "", [])
    | .error cause => (failing cause, [])
  | .round current last =>
    match s.checkInterrupt with
    | .ok () => (.program current.condition, [.loopTest current last])
    | .error cause => (failing cause, [])
  | task => (task, [])

/-- The tasks that change the state or take a result from another. -/
def IsActive : Task → Prop
  | .program _ | .invoke .. | .call .. | .host _ | .answer _ => True
  | _ => False

end Task

namespace Moment

/-- Answers one request of a host command. -/
def serve (request : HostStep) (waiting : List Activation) (s : State) : Moment :=
  match request with
  | .finish result => ⟨.answer result, waiting, s⟩
  | .evaluate text resume => ⟨.text text, .hostText resume :: waiting, s⟩
  | .evaluateSource text resume =>
    match Program.parse text with
    | .error cause => ⟨.host (resume (.error cause)), waiting, s⟩
    | .ok program =>
      ⟨.program program, .hostSource resume :: waiting, { s with commandsSealed := true }⟩
  | .readVariable name resume => ⟨.host (resume (s.valueOf? name)), waiting, s⟩
  | .setVariable name value resume => ⟨.host resume, waiting, s.setVariable name value⟩
  | .unsetVariable name resume =>
    ⟨.host (resume (s.valueOf? name)), waiting, s.unsetVariable name⟩
  | .writeLine line resume =>
    match s.writeLine line with
    | .ok s' => ⟨.host (resume (.ok ())), waiting, s'⟩
    | .error cause => ⟨.host (resume (.error cause)), waiting, s⟩
  | .define name params body resume =>
    match Procedure.make params body with
    | .ok made => ⟨.host (resume (.ok ())), waiting, s.define name made⟩
    | .error cause => ⟨.host (resume (.error cause)), waiting, s⟩
  | .limitDepth depth resume => ⟨.host resume, waiting, { s with maxDepth := depth }⟩
  | .raiseInterrupt resume =>
    ⟨.host resume, waiting, { s with interrupt := { s.interrupt with raised := true } }⟩

/-- The next moment, none at the end of the evaluation. -/
def next? : Moment → Option Moment
  | ⟨.program program, waiting, s⟩ =>
    if s.maxDepth ≤ s.depth then some ⟨.failing (.depthExceeded s.maxDepth), waiting, s⟩
    else some ⟨.commands none program, .level :: waiting, { s with depth := s.depth + 1 }⟩
  | ⟨.invoke builtin args, waiting, s⟩ =>
    match builtin.opening? args with
    | some (task, first) => some ⟨task, first ++ waiting, s⟩
    | none =>
      (Machine.invoke 0 Machine.noEvaluator builtin args s).map fun (result, s') =>
        ⟨.answer result, waiting, s'⟩
  | ⟨.call name procedure args, waiting, s⟩ =>
    if args.length = procedure.params.length then
      some ⟨.program procedure.program, .procedure :: waiting,
        { s with scopes := Machine.bindParams s.scopes.push procedure.params args }⟩
    else
      some ⟨.failing (.functionArity name procedure.params.length args.length), waiting, s⟩
  | ⟨.host request, waiting, s⟩ => some (serve request waiting s)
  | ⟨.answer _, [], _⟩ => none
  | ⟨.answer result, activation :: waiting, s⟩ => some (activation.resume result waiting s)
  | ⟨task, waiting, s⟩ => some ⟨(task.advance s).1, (task.advance s).2 ++ waiting, s⟩

theorem next?_of_quiet {task : Task} (quiet : ¬ task.IsActive) (waiting : List Activation)
    (s : State) : next? ⟨task, waiting, s⟩ =
      some ⟨(task.advance s).1, (task.advance s).2 ++ waiting, s⟩ := by
  cases task with
  | program | invoke | call | host | answer => exact absurd trivial quiet
  | _ => rfl

/-- The moments that an evaluation passes through. -/
def Reaches : Moment → Moment → Prop := StateTransition.Reaches next?

end Moment

end CommandScript
