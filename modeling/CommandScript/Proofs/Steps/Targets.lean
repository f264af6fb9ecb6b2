import CommandScript.Proofs.Steps.Unwinding
import Mathlib.Data.List.TakeWhile

/-! Where control signals arrive. A signal to a loop is taken by the nearest enclosing body of a
loop or procedure call, a return by the nearest procedure call; whatever lies between only hands
it on. -/

namespace CommandScript

/-- A loop that is left ends with a value. -/
def Loop.stop (_ : Loop) (value : String) (waiting : List Activation) (s : State) : Moment :=
  ⟨.answer (.ok value), waiting, s⟩

namespace Moment

/-- The nearest waiting activation of a kind, and those behind it. -/
def outward (c : Moment) (kind : Activation → Bool) : List Activation :=
  c.waiting.dropWhile fun activation => !kind activation

/-- A signal is handed on until an activation takes it and goes on with a moment. -/
def Delivers (c c' : Moment) : Prop := ∃ last, c.Relays last ∧ last.next? = some c'

end Moment

open Moment Activation

/-- A signal to a loop arrives at the nearest body of a loop, which goes on as it is told. A
procedure call, and the script itself, fails instead. -/
def Script.LoopSignalArrives (script : Script) (s : State) (c : Moment)
    (told : Loop → String → List Activation → State → Moment) (stray : Failure) : Prop :=
  match c.outward Activation.bounds with
  | .loopBody loop last :: outer => ∃ (value : Option String) (depth : Nat),
      c.Delivers (told loop (value.getD last) outer { c.state with depth })
  | .procedure :: outer => ∃ depth,
      c.Delivers ⟨.failing stray, outer, { c.state with depth, scopes := c.state.scopes.pop }⟩
  | [] => ∃ s', script.Ends s (.error stray) s'
  | _ => False

/-- A return ends the nearest procedure call, or else the script, with its value. -/
def Script.ReturnArrives (script : Script) (s : State) (c : Moment) (value : String) : Prop :=
  match c.outward Activation.isCall with
  | .procedure :: outer => ∃ depth,
      c.Delivers ⟨.answer (.ok value), outer, { c.state with depth, scopes := c.state.scopes.pop }⟩
  | [] => ∃ s', script.Ends s (.ok (.returned value)) s'
  | _ => False

theorem Moment.exists_inner (c : Moment) (kind : Activation → Bool) :
    ∃ inner, c.waiting = inner ++ c.outward kind ∧
      ∀ activation ∈ inner, kind activation = false := by
  refine ⟨c.waiting.takeWhile fun activation => !kind activation,
    List.takeWhile_append_dropWhile.symm, fun activation member => ?_⟩
  have passed := List.mem_takeWhile_imp member
  simpa only [Bool.not_eq_true'] using passed

theorem Moment.kind_of_outward {c : Moment} {kind : Activation → Bool} {activation : Activation}
    {outer : List Activation} (found : c.outward kind = activation :: outer) :
    kind activation = true := by
  have stopped := List.head?_dropWhile_not (fun activation => !kind activation) c.waiting
  unfold outward at found
  rw [found] at stopped
  simpa only [List.head?_cons, Bool.not_eq_false'] using stopped

def Task.signal? : Task → Option Signal
  | .invoke invoked args => invoked.signal? args
  | _ => none

theorem Task.exists_invoke_of_signal? {task : Task} {signal : Signal}
    (raises : task.signal? = some signal) :
    ∃ builtin args, task = .invoke builtin args ∧ builtin.signal? args = some signal := by
  cases task with
  | invoke builtin args => exact ⟨builtin, args, rfl, raises⟩
  | _ => cases raises

theorem Moment.next?_of_signal? {c : Moment} {signal : Signal}
    (raises : c.task.signal? = some signal) :
    c.next? = some ⟨.answer (.error signal), c.waiting, c.state⟩ := by
  obtain ⟨task, waiting, s⟩ := c
  obtain ⟨builtin, args, invoked, raises⟩ := Task.exists_invoke_of_signal? raises
  cases invoked
  simp only [next?, Builtin.opening?_of_signal? raises, Machine.invoke_signal raises,
    Option.map_some]

/-- Outside of calls, activations give back nothing but levels. -/
theorem Activation.exists_depth_unwind {inner : List Activation}
    (here : ∀ activation ∈ inner, activation.isCall = false) (signal : Signal) (s : State) :
    ∃ depth, (unwind inner signal s).2 = { s with depth } := by
  induction inner generalizing signal s with
  | nil => exact ⟨s.depth, rfl⟩
  | cons activation rest ih =>
      obtain ⟨first, others⟩ := List.forall_mem_cons.mp here
      obtain ⟨depth, same⟩ := ih others (activation.relabel signal) (activation.leave s)
      refine ⟨depth, same.trans ?_⟩
      cases activation with
      | procedure => cases first
      | _ => rfl

theorem Activation.isCall_of_bounds {activation : Activation} (passed : activation.bounds = false) :
    activation.isCall = false := by
  cases activation with
  | procedure => cases passed
  | _ => rfl

variable {script : Script} {s : State} {c : Moment} {signal : Signal}

/-- The signal of a control builtin comes out of the activations it gets past, as long as it leaves
no call. -/
theorem Moment.Native.relays {inner outer : List Activation} (native : c.Native)
    (raises : c.task.signal? = some signal) (split : c.waiting = inner ++ outer)
    (opened : ∀ activation ∈ inner, activation.IsOpenTo signal)
    (here : ∀ activation ∈ inner, activation.isCall = false) :
    ∃ signal' depth, signal'.core = signal.core ∧
      c.Relays ⟨.answer (.error signal'), outer, { c.state with depth }⟩ := by
  have stepped := next?_of_signal? raises
  rw [split] at stepped
  have own : ∀ activation ∈ inner, activation.IsNative := fun activation member =>
    native.waiting activation (split ▸ List.mem_append_left outer member)
  have relayed := relays_unwind outer c.state own opened
  obtain ⟨depth, same⟩ := exists_depth_unwind here signal c.state
  rw [same] at relayed
  exact ⟨_, depth, core_unwind inner signal c.state, .head ⟨stepped, signal, rfl⟩ relayed⟩

/-- What a signal to a loop comes to, whatever value it has been given. -/
structure LoopSignal (make : Option String → Signal)
    (told : Loop → String → List Activation → State → Moment) (stray : Failure) : Prop where
  opened : ∀ activation : Activation, activation.bounds = false → activation.IsOpenTo (make none)
  core : ∀ signal : Signal, signal.core = (make none).core → ∃ value, signal = make value
  body : ∀ value loop last outer s,
    (Activation.loopBody loop last).interrupt (make value) outer s =
      told loop (value.getD last) outer s
  call : ∀ value, Machine.callResult (.error (make value)) = .error (.failed stray)
  script : ∀ value, Outcome.ofResult (.error (make value)) = .error stray

theorem loopSignal_leaveLoop : LoopSignal .leaveLoop Loop.stop .breakOutsideLoop where
  opened _ passed := passed
  core signal same := by
    cases signal with
    | leaveLoop value => exact ⟨value, rfl⟩
    | _ => cases same
  body _ _ _ _ _ := rfl
  call _ := rfl
  script _ := rfl

theorem loopSignal_nextRound : LoopSignal .nextRound Loop.goOn .continueOutsideLoop where
  opened _ passed := passed
  core signal same := by
    cases signal with
    | nextRound value => exact ⟨value, rfl⟩
    | _ => cases same
  body _ _ _ _ _ := rfl
  call _ := rfl
  script _ := rfl

theorem LoopSignal.arrives {make : Option String → Signal}
    {told : Loop → String → List Activation → State → Moment} {stray : Failure}
    (h : LoopSignal make told stray) (native : CommandScript.Native s.builtins)
    (passed : script.Passes s c) (raises : c.task.signal? = some (make none)) :
    script.LoopSignalArrives s c told stray := by
  obtain ⟨inner, split, between⟩ := c.exists_inner Activation.bounds
  obtain ⟨signal, depth, same, relayed⟩ := (passed.native native).relays raises split
    (fun activation member => h.opened activation (between activation member))
    (fun activation member => isCall_of_bounds (between activation member))
  obtain ⟨value, rfl⟩ := h.core signal same
  unfold Script.LoopSignalArrives
  cases found : c.outward Activation.bounds with
  | nil =>
      rw [found] at relayed
      have ends := (passed.trans relayed.reaches).ends
      rw [h.script] at ends
      exact ⟨_, ends⟩
  | cons activation outer =>
      have bound := kind_of_outward found
      rw [found] at relayed
      cases activation with
      | loopBody loop last =>
          exact ⟨value, depth, _, relayed, congrArg some (h.body value loop last outer _)⟩
      | procedure =>
          refine ⟨depth, _, relayed, ?_⟩
          simp only [next?, Activation.resume, Activation.interrupt, h.call, Task.failing]
      | _ => cases bound

theorem Script.Passes.return_arrives {value : String} (native : CommandScript.Native s.builtins)
    (passed : script.Passes s c) (raises : c.task.signal? = some (.returned value)) :
    script.ReturnArrives s c value := by
  obtain ⟨inner, split, between⟩ := c.exists_inner Activation.isCall
  obtain ⟨signal, depth, same, relayed⟩ :=
    (passed.native native).relays raises split between between
  have kept : signal = .returned value := by
    cases signal with
    | returned other => exact same
    | _ => cases same
  rw [kept] at relayed
  unfold Script.ReturnArrives
  cases found : c.outward Activation.isCall with
  | nil =>
      rw [found] at relayed
      exact ⟨_, (passed.trans relayed.reaches).ends⟩
  | cons activation outer =>
      have bound := kind_of_outward found
      rw [found] at relayed
      cases activation with
      | procedure => exact ⟨depth, _, relayed, rfl⟩
      | _ => cases bound

/-- Break, continue and return reach their targets and nothing else, wherever in a script without
host commands they are invoked. -/
theorem control_signals_reach_targets (script : Script) {s : State}
    (native : CommandScript.Native s.builtins) {c : Moment} (passed : script.Passes s c) :
    (c.task = .invoke .leaveLoop [] →
      script.LoopSignalArrives s c Loop.stop .breakOutsideLoop) ∧
    (c.task = .invoke .continueLoop [] →
      script.LoopSignalArrives s c Loop.goOn .continueOutsideLoop) ∧
    (∀ value, c.task = .invoke .returnValue [value] → script.ReturnArrives s c value) := by
  refine ⟨?_, ?_, ?_⟩
  · intro invoked
    exact loopSignal_leaveLoop.arrives native passed (congrArg Task.signal? invoked)
  · intro invoked
    exact loopSignal_nextRound.arrives native passed (congrArg Task.signal? invoked)
  · intro value invoked
    exact passed.return_arrives native (congrArg Task.signal? invoked)

/-- The first moment within so many steps that raises a signal. -/
def Moment.search (signal : Signal) : Nat → Moment → Option Moment
  | 0, _ => none
  | n + 1, c =>
    if c.task.signal? = some signal then some c else c.next?.bind (search signal n)

theorem Moment.reaches_of_search {n : Nat} {c c' : Moment} (found : c.search signal n = some c') :
    Reaches c c' ∧ c'.task.signal? = some signal := by
  induction n generalizing c with
  | zero => cases found
  | succ n ih =>
      unfold search at found
      split at found
      · next here => cases found; exact ⟨.refl, here⟩
      · obtain ⟨following, stepped, further⟩ := Option.bind_eq_some_iff.mp found
        obtain ⟨reached, here⟩ := ih further
        exact ⟨.head stepped reached, here⟩

theorem Script.passes_of_search (s : State) (n : Nat) (builtin : Builtin) (args : List String)
    (raises : builtin.signal? args = some signal)
    (found : (search signal n
      ⟨.program s.program, [], { s with commandsSealed := true }⟩).isSome) :
    ∃ c, Script.own.Passes s c ∧ c.task = .invoke builtin args := by
  obtain ⟨c, reached⟩ := Option.isSome_iff_exists.mp found
  obtain ⟨passed, here⟩ := reaches_of_search reached
  obtain ⟨other, given, invoked, same⟩ := Task.exists_invoke_of_signal? here
  obtain ⟨rfl, rfl⟩ := Builtin.signal?_inj builtin args same raises
  exact ⟨c, ⟨s.program, rfl, passed⟩, invoked⟩

def leavingScript : String := "while {1} {eval break}"

def skippingScript : String := "for {} {1} {unset i} {continue}"

def returningScript : String := "proc f {x} {eval {return $x}}\nf 5"

theorem small_scripts_reach_targets :
    (∃ c, Script.own.Passes (machineOf leavingScript) c ∧ c.task = .invoke .leaveLoop [] ∧
      Script.own.LoopSignalArrives (machineOf leavingScript) c Loop.stop .breakOutsideLoop) ∧
    (∃ c, Script.own.Passes (machineOf skippingScript) c ∧ c.task = .invoke .continueLoop [] ∧
      Script.own.LoopSignalArrives (machineOf skippingScript) c Loop.goOn .continueOutsideLoop) ∧
    (∃ c, Script.own.Passes (machineOf returningScript) c ∧ c.task = .invoke .returnValue ["5"] ∧
      Script.own.ReturnArrives (machineOf returningScript) c "5") := by
  refine ⟨?_, ?_, ?_⟩
  · obtain ⟨c, passed, invoked⟩ :=
      Script.passes_of_search (machineOf leavingScript) 60 .leaveLoop [] rfl (by decide +kernel)
    have h := control_signals_reach_targets .own native_standard passed
    exact ⟨c, passed, invoked, h.1 invoked⟩
  · obtain ⟨c, passed, invoked⟩ :=
      Script.passes_of_search (machineOf skippingScript) 60 .continueLoop [] rfl (by decide +kernel)
    have h := control_signals_reach_targets .own native_standard passed
    exact ⟨c, passed, invoked, h.2.1 invoked⟩
  · obtain ⟨c, passed, invoked⟩ :=
      Script.passes_of_search (machineOf returningScript) 60 .returnValue ["5"] rfl
        (by decide +kernel)
    have h := control_signals_reach_targets .own native_standard passed
    exact ⟨c, passed, invoked, h.2.2 "5" invoked⟩

end CommandScript
