import CommandScript.Proofs.Steps.Interruption
import CommandScript.Proofs.Steps.Job
import CommandScript.Proofs.Steps.Unwinding

/-! The commands that a failure is reported with. On its way out a failure is named with every
builtin that it leaves and with nothing else, so the report lists the builtins that were active when
the failure came up. A failure of the whole evaluation is named with none. -/

namespace CommandScript

namespace Failure

/-- The failures of the whole evaluation. -/
def isGlobal : Failure → Bool
  | .depthExceeded _ | .interrupted => true
  | _ => false

/-- The failure as a script reports it that left these builtins, outermost first. -/
def report (active : List String) (cause : Failure) : Failure :=
  if cause.isGlobal then cause else active.foldr .within cause

theorem inCommand_of_isGlobal {cause : Failure} (whole : cause.isGlobal = true) (name : String) :
    cause.inCommand name = cause := by
  cases cause with
  | depthExceeded | interrupted => rfl
  | _ => cases whole

theorem inCommand_of_not_isGlobal {cause : Failure} (single : cause.isGlobal = false)
    (name : String) : cause.inCommand name = .within name cause := by
  cases cause with
  | depthExceeded | interrupted => cases single
  | _ => rfl

theorem report_nil (cause : Failure) : cause.report [] = cause := ite_self cause

theorem report_inCommand (active : List String) (cause : Failure) (name : String) :
    (cause.inCommand name).report active = cause.report (active ++ [name]) := by
  unfold report
  cases whole : cause.isGlobal with
  | true => rw [inCommand_of_isGlobal whole, if_pos whole, if_pos rfl]
  | false =>
      rw [inCommand_of_not_isGlobal whole, List.foldr_append]
      rfl

theorem root_foldr_within (names : List String) (cause : Failure) :
    (names.foldr .within cause).root = cause.root := by
  induction names with
  | nil => rfl
  | cons name rest ih => exact ih

theorem root_report (active : List String) (cause : Failure) :
    (cause.report active).root = cause.root := by
  unfold report
  split
  · rfl
  · exact root_foldr_within active cause

end Failure

namespace Activation

/-- The builtin that has been entered and waits for its own result. -/
def builtin? : Activation → Option String
  | .builtin name => some name
  | _ => none

/-- Of all activations only builtins add to a failure. -/
theorem report_relabel (activation : Activation) (cause : Failure) :
    ∃ cause', activation.relabel (.failed cause) = .failed cause' ∧
      ∀ active, cause'.report active = cause.report (active ++ activation.builtin?.toList) := by
  have kept : ∀ active, cause.report active = cause.report (active ++ []) := fun active => by
    rw [List.append_nil]
  cases activation with
  | builtin name => exact ⟨_, rfl, fun active => cause.report_inCommand active name⟩
  | sequence last commands => cases last <;> exact ⟨cause, rfl, kept⟩
  | _ => exact ⟨cause, rfl, kept⟩

/-- The builtins that have been entered and have not ended, outermost first. -/
def active (waiting : List Activation) : List String :=
  (waiting.filterMap builtin?).reverse

theorem active_cons (activation : Activation) (waiting : List Activation) :
    active (activation :: waiting) = active waiting ++ activation.builtin?.toList := by
  unfold active
  rw [List.filterMap_cons]
  cases activation.builtin? with
  | none => exact (List.append_nil _).symm
  | some name => exact List.reverse_cons

theorem unwind_failed (inner : List Activation) (cause : Failure) (s : State) :
    (unwind inner (.failed cause) s).1 = .failed (cause.report (active inner)) := by
  induction inner generalizing cause s with
  | nil => exact congrArg Signal.failed cause.report_nil.symm
  | cons activation rest ih =>
      obtain ⟨cause', relabeled, reported⟩ := activation.report_relabel cause
      rw [unwind, relabeled, ih, reported, active_cons]

end Activation

open Moment Activation

def Moment.activeBuiltins (c : Moment) : List String :=
  Activation.active c.waiting

def Task.IsFailing (task : Task) : Prop := ∃ cause, task = .failing cause

def Task.failure? : Task → Option Failure
  | .answer (.error (.failed cause)) => some cause
  | _ => none

theorem Task.failure?_eq_some_iff {task : Task} {cause : Failure} :
    task.failure? = some cause ↔ task = .failing cause := by
  constructor
  · intro found
    unfold failure? at found
    split at found
    · cases found
      rfl
    · cases found
  · rintro rfl
    rfl

/-- In a run of a script to a result, during which the flag may be set and cleared, a failure comes
up while builtins are active, the outermost first: the script cannot be read, a signal to a loop
leaves it, or a moment that has not failed is followed by one that has. -/
inductive Script.Raises (script : Script) (s : State) :
    Except Failure Outcome → State → Failure → List String → Prop
  | unread {cause} (refused : script.program s = .error cause) :
      Raises script s (.error cause) s cause []
  | strayBreak {value s'}
      (left : script.FlaggedPasses s ⟨.answer (.error (.leaveLoop value)), [], s'⟩) :
      Raises script s (Outcome.ofResult (.error (.leaveLoop value))) s' .breakOutsideLoop []
  | strayContinue {value s'}
      (left : script.FlaggedPasses s ⟨.answer (.error (.nextRound value)), [], s'⟩) :
      Raises script s (Outcome.ofResult (.error (.nextRound value))) s' .continueOutsideLoop []
  | fails {before c cause result s'} (passed : script.FlaggedPasses s before)
      (sound : ¬ before.task.IsFailing) (stepped : before.next? = some c)
      (failed : c.task = .failing cause) (ended : FlaggedReaches c ⟨.answer result, [], s'⟩) :
      Raises script s (Outcome.ofResult result) s' cause c.activeBuiltins

theorem Machine.isPlain_of_acted {builtin : Builtin} {args : List String} {s s' : State}
    {cause : Failure} (shut : builtin.opening? args = none)
    (acted : Machine.invoke 0 Machine.noEvaluator builtin args s =
      some (.error (.failed cause), s')) : cause.root = cause := by
  cases raised : builtin.signal? args with
  | none =>
      obtain ⟨r, after, ended, plain⟩ := Machine.invoke_plain shut raised s
      rw [acted] at ended
      cases ended
      exact plain
  | some signal =>
      rw [Machine.invoke_signal raised] at acted
      cases acted
      rcases Builtin.cases_of_signal? raised with
        ⟨_, _, same⟩ | ⟨_, _, same⟩ | ⟨_, _, _, same⟩ | ⟨_, _, _, same⟩ <;> cases same

theorem Machine.root_of_callResult {result : Except Signal String} {cause : Failure}
    (sound : ¬ (Task.answer result).IsFailing)
    (left : callResult result = .error (.failed cause)) : cause.root = cause := by
  cases result with
  | ok value => cases left
  | error signal =>
      cases signal with
      | leaveLoop | nextRound => cases left; rfl
      | returned | exited => cases left
      | failed cause' => exact absurd ⟨cause', rfl⟩ sound

theorem Signal.exists_failed_of_core {signal : Signal} {cause : Failure}
    (same : signal.core = .failed cause) : ∃ cause', signal = .failed cause' := by
  cases signal with
  | failed cause' => exact ⟨cause', rfl⟩
  | _ => cases same

/-- A failure that comes up is named with no command yet. -/
theorem Moment.Native.root_of_failing {c c' : Moment} {cause : Failure} (native : c.Native)
    (sound : ¬ c.task.IsFailing) (stepped : c.next? = some c') (failed : c'.task = .failing cause) :
    cause.root = cause := by
  cases Move.of_next? stepped with
  | inner pending next => exact next.plain failed
  | find | enterLevel | enterCall => cases failed
  | act shut acted =>
      cases failed
      exact Machine.isPlain_of_acted shut acted
  | askHost => cases native.task
  | serve => exact native.task.elim
  | answerHost host => exact absurd (List.forall_mem_cons.mp native.waiting).1 host
  | leaveLevel => exact absurd ⟨cause, failed⟩ sound
  | leaveCall => exact Machine.root_of_callResult sound (Task.answer.inj failed)
  | proceed next => exact next.plain failed
  | @interrupt signal activation waiting state plain =>
      by_cases opened : activation.IsOpenTo signal
      · -- A signal that is handed on and fails now has failed before.
        rw [interrupt_of_isOpenTo plain.native opened] at failed
        have same := activation.core_relabel signal
        rw [Except.error.inj (Task.answer.inj failed)] at same
        obtain ⟨cause', rfl⟩ := Signal.exists_failed_of_core same.symm
        exact absurd ⟨cause', rfl⟩ sound
      · exact (inner_of_caught plain opened).plain failed

/-- On the way to a failing moment there is a step at which the failure comes up. -/
theorem Moment.FlaggedReaches.exists_failing_step {c c' : Moment} (reached : FlaggedReaches c c')
    (sound : ¬ c.task.IsFailing) (failing : c'.task.IsFailing) :
    ∃ before after, FlaggedReaches c before ∧ ¬ before.task.IsFailing ∧
      before.next? = some after ∧ after.task.IsFailing ∧ FlaggedReaches after c' := by
  induction reached with
  | refl => exact absurd failing sound
  | @tail last c' reached follows ih =>
      by_cases earlier : last.task.IsFailing
      · obtain ⟨before, after, first, sound', stepped, failing', rest⟩ := ih earlier
        exact ⟨before, after, first, sound', stepped, failing', .tail rest follows⟩
      · cases follows with
        | step stepped => exact ⟨last, c', reached, earlier, stepped, failing, .refl⟩
        | flag raised => exact absurd failing earlier

namespace Moment

/-- A failure on its way out, with the report that it will make. -/
structure Reports (reported : Failure) (c : Moment) : Prop where
  native : c.Native
  failing : ∃ cause, c.task = .failing cause ∧ cause.report c.activeBuiltins = reported

variable {c c' : Moment} {reported : Failure}

theorem Reports.next (h : c.Reports reported) (stepped : c.next? = some c') :
    c'.Reports reported := by
  refine ⟨h.native.next stepped, ?_⟩
  obtain ⟨⟨_, own, _⟩, cause, failed, named⟩ := h
  obtain ⟨task, waiting, s⟩ := c
  cases failed
  cases waiting with
  | nil => cases stepped
  | cons activation outer =>
      obtain ⟨cause', relabeled, same⟩ := activation.report_relabel cause
      have opened : activation.IsOpenTo (.failed cause) := trivial
      have left := interrupt_of_isOpenTo (List.forall_mem_cons.mp own).1 opened outer s
      rw [relabeled] at left
      cases stepped.symm.trans (congrArg some left)
      refine ⟨cause', rfl, ?_⟩
      rw [← named, activeBuiltins, activeBuiltins, active_cons, same]

/-- A failure that is on its way out arrives, however the flag is set and cleared meanwhile. -/
theorem Reports.arrives (h : c.Reports reported) {result : Except Signal String} {s' : State}
    (ended : FlaggedReaches c ⟨.answer result, [], s'⟩) : result = .error (.failed reported) := by
  have last := ended.invariant Reports.next
    (fun _ h => ⟨⟨h.native.task, h.native.waiting, h.native.builtins⟩, h.failing⟩) h
  obtain ⟨cause, failed, named⟩ := last.failing
  rw [← named, Task.answer.inj failed]
  exact congrArg (fun cause => Except.error (Signal.failed cause)) cause.report_nil.symm

/-- A failure comes out of all that waits, named with the builtins that are active. -/
theorem Native.reaches_report {cause : Failure} (native : c.Native)
    (failed : c.task = .failing cause) :
    ∃ s', Reaches c ⟨.failing (cause.report c.activeBuiltins), [], s'⟩ := by
  obtain ⟨task, waiting, s⟩ := c
  cases failed
  have opened : ∀ activation ∈ waiting, activation.IsOpenTo (.failed cause) := fun _ _ => trivial
  have relayed := relays_unwind [] s native.waiting opened
  rw [List.append_nil, unwind_failed] at relayed
  exact ⟨_, relayed.reaches⟩

/-- The failure that an evaluation ends with is one that came up in it, named with builtins. -/
theorem Native.eq_report {s' : State} (native : c.Native) (sound : ¬ c.task.IsFailing)
    (reached : Reaches c ⟨.failing reported, [], s'⟩) :
    ∃ (cause : Failure) (active : List String),
      cause.root = cause ∧ reported = cause.report active := by
  obtain ⟨before, after, first, sound', stepped, ⟨cause, failed⟩, ended⟩ :=
    reached.flagged.exists_failing_step sound ⟨reported, rfl⟩
  have own := native.flaggedReaches first
  have reports : after.Reports _ := ⟨own.next stepped, cause, failed, rfl⟩
  exact ⟨cause, _, own.root_of_failing sound' stepped failed,
    Signal.failed.inj (Except.error.inj (reports.arrives ended))⟩

end Moment

namespace Script

variable {script : Script} {s s' : State}

theorem root_of_unread {cause : Failure} (refused : script.program s = .error cause) :
    cause.root = cause := by
  cases script with
  | own => cases refused
  | source text => exact Program.parse_rooted text cause refused

/-- A failure that comes up is a root, and the script reports it with the builtins active then. -/
theorem Raises.reported {r : Except Failure Outcome} {cause : Failure} {active : List String}
    (native : CommandScript.Native s.builtins) (raised : script.Raises s r s' cause active) :
    cause.root = cause ∧ r = .error (cause.report active) := by
  cases raised with
  | unread refused =>
      rw [Failure.report_nil]
      exact ⟨root_of_unread refused, rfl⟩
  | strayBreak left => exact ⟨rfl, rfl⟩
  | strayContinue left => exact ⟨rfl, rfl⟩
  | fails passed sound stepped failed ended =>
      have own := passed.native native
      have reports : Moment.Reports _ _ := ⟨own.next stepped, cause, failed, rfl⟩
      rw [reports.arrives ended]
      exact ⟨own.root_of_failing sound stepped failed, rfl⟩

theorem FlaggedEnds.exists_raises {reported : Failure}
    (ends : script.FlaggedEnds s (.error reported) s') :
    ∃ cause active, script.Raises s (.error reported) s' cause active := by
  generalize same : Except.error reported = r at ends ⊢
  cases ends with
  | unread refused => exact ⟨_, _, .unread refused⟩
  | @done result s' passed =>
      cases result with
      | ok value => cases same
      | error signal =>
          cases signal with
          | leaveLoop value => exact ⟨_, _, .strayBreak passed⟩
          | nextRound value => exact ⟨_, _, .strayContinue passed⟩
          | returned | exited => cases same
          | failed cause =>
              obtain ⟨program, read, reached⟩ := passed
              obtain ⟨before, after, first, sound, stepped, ⟨cause', failed⟩, ended⟩ :=
                reached.exists_failing_step (fun ⟨_, failing⟩ => nomatch failing) ⟨cause, rfl⟩
              exact ⟨cause', _, .fails ⟨program, read, first⟩ sound stepped failed ended⟩

end Script

/-- A script without host commands that ends with a failure reports the failure that came up in it,
named with the builtins that were active then, outermost first, and with nothing else. Failures of
the whole evaluation are reported as they are. The flag may be set and cleared all the time, so that
an interruption comes up while builtins are active; a script that is left alone is one case. -/
theorem failure_names_active_builtins (script : Script) {s : State}
    (native : CommandScript.Native s.builtins) :
    (∀ r s', script.Ends s r s' → script.FlaggedEnds s r s') ∧
    ∀ reported s', script.FlaggedEnds s (.error reported) s' →
      (∃ active, script.Raises s (.error reported) s' reported.root active) ∧
      ∀ cause active, script.Raises s (.error reported) s' cause active → cause = reported.root ∧
        ((∀ limit, cause ≠ .depthExceeded limit) → cause ≠ .interrupted →
          reported = active.foldr Failure.within cause) ∧
        ((∃ limit, cause = .depthExceeded limit) ∨ cause = .interrupted → reported = cause) := by
  refine ⟨fun r s' ends => ends.flagged, fun reported s' ends => ?_⟩
  have known : ∀ {cause active}, script.Raises s (.error reported) s' cause active →
      cause = reported.root ∧ reported = cause.report active := by
    intro cause active raised
    obtain ⟨root, same⟩ := raised.reported native
    have named := Except.error.inj same
    refine ⟨?_, named⟩
    rw [named, Failure.root_report, root]
  refine ⟨?_, fun cause active raised => ⟨(known raised).1, ?_, ?_⟩⟩
  · obtain ⟨cause, active, raised⟩ := ends.exists_raises
    rw [← (known raised).1]
    exact ⟨active, raised⟩
  · intro shallow calm
    rw [(known raised).2]
    refine if_neg ?_
    cases cause with
    | depthExceeded limit => exact absurd rfl (shallow limit)
    | interrupted => exact absurd rfl calm
    | _ => exact Bool.false_ne_true
  · intro whole
    rw [(known raised).2]
    refine if_pos ?_
    rcases whole with ⟨limit, rfl⟩ | rfl <;> rfl

/-- A script that fails in a builtin in a procedure in an argument in two more builtins. -/
def nestedFailure : String :=
  "proc f {x} { incr x 1 2 }\nif {1} { eval { set y [f 1] } }"

def sinkingMachine : State := { machineOf "proc f {} { eval f }\nf" with maxDepth := 4 }

/-- A machine that watches the flag and runs two commands inside two builtins. -/
def watchingMachine : State :=
  { machineOf "if {1} { eval { set x 1; set y 2 } }" with interrupt := { watched := true } }

/-- The machine is behind the first command, and fails if the flag is set now. -/
def isBetween (c : Moment) : Bool :=
  c.state.valueOf? "x" == some "1" && c.task.failure? == none &&
    (next? { c with state := c.state.flag true }).any fun after =>
      after.task.failure? == some .interrupted && after.activeBuiltins == ["if", "eval"]

theorem watchingMachine_isInterrupted : ∃ before after,
    Script.own.FlaggedPasses watchingMachine before ∧ ¬ before.task.IsFailing ∧
      before.next? = some after ∧ after.task = .failing .interrupted ∧
      after.activeBuiltins = ["if", "eval"] := by
  have somewhere : (Moment.find? isBetween 60 ⟨.program watchingMachine.program, [],
      { watchingMachine with commandsSealed := true }⟩).isSome := by decide +kernel
  obtain ⟨c, found⟩ := Option.isSome_iff_exists.mp somewhere
  obtain ⟨reached, between⟩ := reaches_of_find? found
  simp only [isBetween, Bool.and_eq_true, beq_iff_eq, Option.any_eq_true_iff_get] at between
  obtain ⟨⟨_, unfailed⟩, isSome, interrupted, active⟩ := between
  obtain ⟨after, stepped⟩ := Option.isSome_iff_exists.mp isSome
  simp only [stepped, Option.get_some] at interrupted active
  refine ⟨{ c with state := c.state.flag true }, after,
    ⟨_, rfl, .tail reached.flagged (.flag true)⟩, ?_, stepped,
    Task.failure?_eq_some_iff.mp interrupted, active⟩
  rintro ⟨cause, failing⟩
  rw [Task.failure?_eq_some_iff.mpr failing] at unfailed
  cases unfailed

theorem failing_scripts_name_builtins :
    (∃ s', Script.own.Ends (machineOf nestedFailure)
        (.error (.within "if" (.within "eval"
          (.within "incr" (.arity "incr" "1 or 2 arguments" 3))))) s' ∧
      Script.own.Raises (machineOf nestedFailure)
        (.error (.within "if" (.within "eval"
          (.within "incr" (.arity "incr" "1 or 2 arguments" 3))))) s'
        (.arity "incr" "1 or 2 arguments" 3) ["if", "eval", "incr"]) ∧
    (∃ s', Script.own.Ends sinkingMachine (.error (.depthExceeded 4)) s' ∧
      ∃ active, Script.own.Raises sinkingMachine (.error (.depthExceeded 4)) s'
        (.depthExceeded 4) active) ∧
    ∃ s', Script.own.FlaggedEnds watchingMachine (.error .interrupted) s' ∧
      Script.own.Raises watchingMachine (.error .interrupted) s' .interrupted ["if", "eval"] := by
  refine ⟨?_, ?_, ?_⟩
  · have nested : Script.own.Ends (machineOf nestedFailure)
        (.error (.within "if" (.within "eval"
          (.within "incr" (.arity "incr" "1 or 2 arguments" 3))))) _ :=
      Script.ends_after 8 (by decide +kernel)
    obtain ⟨covered, names⟩ :=
      failure_names_active_builtins .own (s := machineOf nestedFailure) native_standard
    obtain ⟨⟨active, raised⟩, known⟩ := names _ _ (covered _ _ nested)
    have named := (known _ active raised).2.1 nofun nofun
    refine ⟨_, nested, ?_⟩
    match active with
    | [] => cases named
    | [_] => cases named
    | [_, _] => cases named
    | [_, _, _] => cases named; exact raised
    | _ :: _ :: _ :: _ :: _ => cases named
  · have deep : Script.own.Ends sinkingMachine (.error (.depthExceeded 4)) _ :=
      Script.ends_after 8 (by decide +kernel)
    obtain ⟨covered, names⟩ :=
      failure_names_active_builtins .own (s := sinkingMachine) native_standard
    exact ⟨_, deep, (names _ _ (covered _ _ deep)).1⟩
  · obtain ⟨before, after, passed, sound, stepped, failed, active⟩ := watchingMachine_isInterrupted
    obtain ⟨s', ended⟩ := ((passed.native native_standard).next stepped).reaches_report failed
    have raised := Script.Raises.fails passed sound stepped failed ended.flagged
    have ends := Script.FlaggedEnds.done (passed.trans (.head (.step stepped) ended.flagged))
    have known := ((failure_names_active_builtins .own native_standard).2 _ _ ends).2 _ _ raised
    have bare := known.2.2 (.inr rfl)
    rw [bare] at ends raised
    rw [active] at raised
    exact ⟨s', ends, raised⟩

end CommandScript
