import CommandScript.Proofs.Steps.Script

/-! Signals on their way out. An activation that does not catch a signal ends with it: it may give
the signal a value or name a command in it, and gives back the level or the frame that it has
taken. An exit or a failure is caught by none, so it ends the whole script. -/

namespace CommandScript

/-- The part of a signal that no activation changes: a value may be given to it, and commands may
be named in its failure. -/
def Signal.core : Signal → Signal
  | .leaveLoop _ => .leaveLoop none
  | .nextRound _ => .nextRound none
  | .failed cause => .failed cause.root
  | signal => signal

theorem Failure.root_inCommand (cause : Failure) (name : String) :
    (cause.inCommand name).root = cause.root := by
  cases cause <;> rfl

theorem Signal.core_inCommand (signal : Signal) (name : String) :
    (signal.inCommand name).core = signal.core := by
  cases signal with
  | failed cause => exact congrArg Signal.failed (cause.root_inCommand name)
  | _ => rfl

theorem Signal.core_stampLast (signal : Signal) (last : Option String) :
    (Machine.stampLast last signal).core = signal.core := by
  cases last with
  | none => rfl
  | some value =>
      cases signal with
      | leaveLoop given | nextRound given => cases given <;> rfl
      | _ => rfl

/-- The signals that a value is given to on their way to a loop. -/
def Signal.isLoopSignal : Signal → Bool
  | .leaveLoop _ | .nextRound _ => true
  | _ => false

namespace Activation

def isCall : Activation → Bool
  | .procedure => true
  | _ => false

/-- The activations that no signal to a loop gets past: the body of a loop and a call. -/
def bounds : Activation → Bool
  | .loopBody .. | .procedure => true
  | _ => false

/-- The activations that a signal gets past. -/
def IsOpenTo (activation : Activation) : Signal → Prop
  | .leaveLoop _ | .nextRound _ => activation.bounds = false
  | .returned _ => activation.isCall = false
  | .exited _ | .failed _ => True

theorem isOpenTo_core (activation : Activation) (signal : Signal) :
    activation.IsOpenTo signal.core ↔ activation.IsOpenTo signal := by
  cases signal <;> exact .rfl

theorem IsOpenTo.of_core {activation : Activation} {signal signal' : Signal}
    (opened : activation.IsOpenTo signal) (same : signal'.core = signal.core) :
    activation.IsOpenTo signal' := by
  rw [← isOpenTo_core, same, isOpenTo_core]
  exact opened

/-- What an activation makes of a signal that gets past it. -/
def relabel (signal : Signal) : Activation → Signal
  | .sequence last _ => Machine.stampLast last signal
  | .builtin name => signal.inCommand name
  | _ => signal

/-- What an activation gives back when it ends. -/
def leave (s : State) : Activation → State
  | .level => { s with depth := s.depth - 1 }
  | .procedure => { s with scopes := s.scopes.pop }
  | _ => s

theorem core_relabel (activation : Activation) (signal : Signal) :
    (activation.relabel signal).core = signal.core := by
  cases activation with
  | sequence last rest => exact signal.core_stampLast last
  | builtin name => exact signal.core_inCommand name
  | _ => rfl

theorem interrupt_of_isOpenTo {activation : Activation} {signal : Signal}
    (own : activation.IsNative) (opened : activation.IsOpenTo signal) (waiting : List Activation)
    (s : State) : activation.interrupt signal waiting s =
      ⟨.answer (.error (activation.relabel signal)), waiting, activation.leave s⟩ := by
  cases activation with
  | hostText | hostSource => exact own.elim
  | procedure =>
      cases signal with
      | leaveLoop | nextRound | returned => cases opened
      | _ => rfl
  | loopBody loop last =>
      cases signal with
      | leaveLoop | nextRound => cases opened
      | _ => rfl
  | _ => rfl

/-- The signal and the state behind activations that a signal gets past. -/
def unwind : List Activation → Signal → State → Signal × State
  | [], signal, s => (signal, s)
  | activation :: rest, signal, s => unwind rest (activation.relabel signal) (activation.leave s)

theorem core_unwind (inner : List Activation) (signal : Signal) (s : State) :
    (unwind inner signal s).1.core = signal.core := by
  induction inner generalizing signal s with
  | nil => rfl
  | cons activation rest ih => rw [unwind, ih, core_relabel]

end Activation

/-- Nothing has changed but that frames have been left. -/
structure Untouched (s s' : State) : Prop where
  procedures : s'.procedures = s.procedures
  output : s'.output = s.output
  frames : s'.scopes.frames <:+ s.scopes.frames

theorem Scopes.frames_pop_suffix (scopes : Scopes) : scopes.pop.frames <:+ scopes.frames := by
  cases scopes with
  | globals frame => exact List.suffix_rfl
  | inner frame outer => exact List.suffix_cons frame outer.frames

theorem Untouched.leave {s s' : State} (h : Untouched s s') (activation : Activation) :
    Untouched s (activation.leave s') := by
  cases activation with
  | procedure => exact ⟨h.procedures, h.output, (Scopes.frames_pop_suffix _).trans h.frames⟩
  | _ => exact ⟨h.procedures, h.output, h.frames⟩

theorem Untouched.unwind {s s' : State} (h : Untouched s s') (inner : List Activation)
    (signal : Signal) : Untouched s (Activation.unwind inner signal s').2 := by
  induction inner generalizing signal s' with
  | nil => exact h
  | cons activation rest ih => exact ih (h.leave activation) _

namespace Moment

open Activation

variable {c c' : Moment} {signal : Signal}

/-- Steps that do nothing but hand a signal on. -/
def Relays : Moment → Moment → Prop :=
  Relation.ReflTransGen fun c c' => c.next? = some c' ∧ ∃ signal, c'.task = .answer (.error signal)

theorem Relays.reaches (h : Relays c c') : Reaches c c' :=
  Relation.ReflTransGen.mono (fun _ _ relayed => relayed.1) c c' h

/-- A signal comes out of the activations it gets past. -/
theorem relays_unwind {inner : List Activation} (outer : List Activation) (s : State)
    (own : ∀ activation ∈ inner, activation.IsNative)
    (opened : ∀ activation ∈ inner, activation.IsOpenTo signal) :
    Relays ⟨.answer (.error signal), inner ++ outer, s⟩
      ⟨.answer (.error (unwind inner signal s).1), outer, (unwind inner signal s).2⟩ := by
  induction inner generalizing signal s with
  | nil => exact .refl
  | cons activation rest ih =>
      obtain ⟨ownFirst, ownRest⟩ := List.forall_mem_cons.mp own
      obtain ⟨openFirst, openRest⟩ := List.forall_mem_cons.mp opened
      have stepped := interrupt_of_isOpenTo ownFirst openFirst (rest ++ outer) s
      refine .head ⟨congrArg some stepped, _, rfl⟩ (ih _ ownRest fun other member => ?_)
      exact (openRest other member).of_core (activation.core_relabel signal)

/-- Of the activations that keep the state, only the body of a loop catches a signal, and the loop
then ends or goes on. -/
theorem inner_of_caught {activation : Activation} {waiting : List Activation} {s : State}
    (plain : activation.IsInner) (caught : ¬ activation.IsOpenTo signal) :
    Inner waiting s (activation.interrupt signal waiting s) := by
  cases activation with
  | level | procedure | hostText | hostSource => exact plain.elim
  | loopBody loop last =>
      cases signal with
      | leaveLoop given => exact .settle trivial
      | nextRound given => exact inner_goOn loop _
      | returned value => exact absurd rfl caught
      | exited | failed => exact absurd trivial caught
  | _ =>
      cases signal with
      | leaveLoop | nextRound | returned => exact absurd rfl caught
      | exited | failed => exact absurd trivial caught

/-- A moment that hands out a signal which nothing catches. -/
structure Doomed (c : Moment) : Prop where
  native : c.Native
  uncaught : ∃ signal, c.task = .answer (.error signal) ∧
    ∀ activation : Activation, activation.IsOpenTo signal

theorem Doomed.next (h : c.Doomed) (stepped : c.next? = some c') : c'.Doomed := by
  refine ⟨h.native.next stepped, ?_⟩
  obtain ⟨⟨_, own, _⟩, signal, signalled, uncaught⟩ := h
  obtain ⟨task, waiting, s⟩ := c
  cases signalled
  cases waiting with
  | nil => cases stepped
  | cons activation outer =>
      have relayed := interrupt_of_isOpenTo (List.forall_mem_cons.mp own).1 (uncaught activation)
        outer s
      cases stepped
      refine ⟨activation.relabel signal, congrArg Moment.task relayed, fun other => ?_⟩
      exact (uncaught other).of_core (activation.core_relabel signal)

end Moment

end CommandScript
