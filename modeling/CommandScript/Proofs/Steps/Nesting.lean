import CommandScript.Proofs.Steps.Alike
import CommandScript.Proofs.Steps.Context

/-! The limit on nesting does nothing but cut evaluations short. An evaluation that it does not cut
short is the same, step by step, from a state that leaves at least as many levels. -/

namespace CommandScript

/-- Two states that differ at most in their depth and its limit. -/
def SameButNesting (s t : State) : Prop := ∃ depth maxDepth, t = { s with depth, maxDepth }

theorem SameButNesting.unseen : Unseen SameButNesting where
  scopes_eq := by rintro s t ⟨depth, maxDepth, rfl⟩; rfl
  output_eq := by rintro s t ⟨depth, maxDepth, rfl⟩; rfl
  interrupt_eq := by rintro s t ⟨depth, maxDepth, rfl⟩; rfl
  environment_eq := by rintro s t ⟨depth, maxDepth, rfl⟩; rfl
  setScopes := by rintro s t scopes ⟨depth, maxDepth, rfl⟩; exact ⟨depth, maxDepth, rfl⟩
  setOutput := by rintro s t output ⟨depth, maxDepth, rfl⟩; exact ⟨depth, maxDepth, rfl⟩
  define := by rintro s t name procedure ⟨depth, maxDepth, rfl⟩; exact ⟨depth, maxDepth, rfl⟩

def Activation.isLevel : Activation → Bool
  | .level => true
  | _ => false

theorem Activation.IsInner.isLevel {activation : Activation} (h : activation.IsInner) :
    activation.isLevel = false := by
  cases activation with
  | level => exact h.elim
  | _ => rfl

theorem Activation.IsInner.leave {activation : Activation} (h : activation.IsInner) (s : State) :
    activation.leave s = s := by
  cases activation with
  | level | procedure => exact h.elim
  | _ => rfl

namespace Moment

open Activation

variable {c c' : Moment}

/-- The levels that wait. -/
def levels (waiting : List Activation) : Nat := waiting.countP Activation.isLevel

theorem levels_level (waiting : List Activation) :
    levels (.level :: waiting) = levels waiting + 1 :=
  List.countP_cons_of_pos rfl

theorem levels_of_isInner {activation : Activation} (h : activation.IsInner)
    (waiting : List Activation) : levels (activation :: waiting) = levels waiting := by
  refine List.countP_cons_of_neg ?_
  rw [h.isLevel]
  exact Bool.false_ne_true

/-- The depth counts the levels that wait, from a base on. -/
def Counted (base : Nat) (c : Moment) : Prop := c.state.depth = base + levels c.waiting

variable {base : Nat}

theorem Inner.counted {waiting : List Activation} {s : State} (h : Inner waiting s c)
    (depth : s.depth = base + levels waiting) : c.Counted base := by
  obtain ⟨_, ⟨pushed, same, plain⟩, rfl⟩ := h
  have none : levels pushed = 0 := by
    refine List.countP_eq_zero.mpr fun activation member => ?_
    rw [(plain activation member).isLevel]
    exact Bool.false_ne_true
  have split : levels (pushed ++ waiting) = levels pushed + levels waiting := List.countP_append
  rw [Counted, depth, same, split, none, Nat.zero_add]

theorem counted_leaveLevel {task task' : Task} {waiting : List Activation} {s : State}
    (h : Counted base ⟨task, .level :: waiting, s⟩) :
    Counted base ⟨task', waiting, { s with depth := s.depth - 1 }⟩ := by
  unfold Counted at h ⊢
  rw [levels_level] at h
  dsimp only at h ⊢
  omega

/-- A host command goes down only by evaluating programs. -/
theorem counted_serve {waiting : List Activation} {s : State} (request : HostStep)
    (h : s.depth = base + levels waiting) : (serve request waiting s).Counted base := by
  cases request with
  | evaluateSource text resume =>
      simp only [serve]
      split
      · exact h
      · exact h
  | writeLine line resume =>
      simp only [serve]
      split
      · next written =>
          obtain ⟨output, rfl⟩ := State.writeLine_eq written
          exact h
      · exact h
  | define name params body resume =>
      simp only [serve]
      split
      · exact h
      · exact h
  | _ => exact h

theorem Counted.next (h : c.Counted base) (stepped : c.next? = some c') : c'.Counted base := by
  cases Move.of_next? stepped with
  | inner pending next => exact next.counted h
  | find found => exact h
  | enterLevel room =>
      unfold Counted
      rw [levels_level, ← Nat.add_assoc]
      exact congrArg Nat.succ h
  | enterCall fits => exact h
  | act shut acted => exact (Machine.act_keeps (Settled.stable True) acted).depth.trans h
  | askHost => exact h
  | @serve request waiting s => exact counted_serve request h
  | @answerHost result activation waiting s host =>
      cases activation with
      | hostText resume | hostSource resume => cases result <;> exact h
      | _ => exact absurd trivial host
  | leaveLevel => exact counted_leaveLevel h
  | leaveCall => exact h
  | @proceed value activation waiting s c' next =>
      cases activation with
      | level =>
          cases stepped
          exact counted_leaveLevel h
      | _ => exact next.counted h
  | @interrupt signal activation waiting s plain =>
      have depth : s.depth = base + levels waiting := by
        rw [← levels_of_isInner plain]
        exact h
      by_cases opened : activation.IsOpenTo signal
      · rw [interrupt_of_isOpenTo plain.native opened, plain.leave]
        exact depth
      · exact (inner_of_caught plain opened).counted depth

theorem Native.next_maxDepth (native : c.Native) (stepped : c.next? = some c') :
    c'.state.maxDepth = c.state.maxDepth := by
  cases Move.of_next? stepped with
  | inner pending next => rw [next.state]
  | find | enterLevel | enterCall | leaveLevel | leaveCall => rfl
  | act shut acted =>
      have settled := Machine.act_settled native.task native.builtins acted
      exact settled.maxDepth.resolve_left id
  | askHost => cases native.task
  | serve => exact native.task.elim
  | answerHost host => exact absurd (List.forall_mem_cons.mp native.waiting).1 host
  | proceed next => rw [next.state]
  | @interrupt signal activation waiting s plain =>
      by_cases opened : activation.IsOpenTo signal
      · rw [interrupt_of_isOpenTo plain.native opened, plain.leave]
      · rw [(inner_of_caught plain opened).state]

theorem Native.sameButNesting {t : State} (native : c.Native) (same : SameButNesting c.state t) :
    Native { c with state := t } := by
  obtain ⟨depth, maxDepth, rfl⟩ := same
  exact ⟨native.task, native.waiting, native.builtins⟩

/-- A step that the limit allows from two such states is the same from both. -/
theorem next_of_room {t : State} (native : c.Native) (same : SameButNesting c.state t)
    (room : ∀ program, c.task = .program program →
      c.state.depth < c.state.maxDepth ∧ t.depth < t.maxDepth)
    (stepped : c.next? = some c') :
    ∃ t', next? ⟨c.task, c.waiting, t⟩ = some { c' with state := t' } ∧
      SameButNesting c'.state t' := by
  obtain ⟨task, waiting, s⟩ := c
  by_cases ordinary : IsOrdinary ⟨task, waiting, s⟩
  · exact SameButNesting.unseen.next same ordinary stepped
  · obtain ⟨depth, maxDepth, rfl⟩ := same
    cases task with
    | program program =>
        obtain ⟨deeper, deeper'⟩ := room program rfl
        simp only [next?, if_neg (Nat.not_le.mpr deeper)] at stepped
        cases stepped
        exact ⟨_, if_neg (Nat.not_le.mpr deeper'), depth + 1, maxDepth, rfl⟩
    | dispatch head name args =>
        cases stepped
        exact ⟨_, rfl, depth, maxDepth, rfl⟩
    | host request => exact native.task.elim
    | answer result =>
        cases waiting with
        | nil => cases stepped
        | cons activation waiting =>
            cases activation with
            | level =>
                cases stepped
                cases result <;> exact ⟨_, rfl, depth - 1, maxDepth, rfl⟩
            | _ => exact absurd trivial ordinary
    | _ => exact absurd trivial ordinary

/-- A step that the limit does not cut short is the same where a level is left as well. -/
theorem next_sameButNesting {t : State} (native : c.Native) (same : SameButNesting c.state t)
    (room : c.state.depth < c.state.maxDepth → t.depth < t.maxDepth)
    (stepped : c.next? = some c') (uncut : ∀ limit, c'.task ≠ .failing (.depthExceeded limit)) :
    ∃ t', next? ⟨c.task, c.waiting, t⟩ = some { c' with state := t' } ∧
      SameButNesting c'.state t' := by
  refine next_of_room native same (fun program entered => ?_) stepped
  obtain ⟨task, waiting, s⟩ := c
  cases entered
  have deeper : s.depth < s.maxDepth := by
    refine Nat.lt_of_not_le fun deep => ?_
    simp only [next?, if_pos deep] at stepped
    cases stepped
    exact uncut _ rfl
  exact ⟨deeper, room deeper⟩

theorem failed_of_reaches {cause : Failure} {r : Except Signal String} {s' : State}
    (native : c.Native) (failing : c.task = .failing cause)
    (reached : Reaches c ⟨.answer r, [], s'⟩) :
    ∃ cause', r = .error (.failed cause') ∧ cause'.root = cause.root := by
  obtain ⟨_, ended⟩ := native.reaches_report failing
  have same := Reaches.end_unique reached ended rfl rfl
  cases same
  exact ⟨_, rfl, Failure.root_report _ cause⟩

/-- A result other than that the limit was passed. -/
def IsUncut (r : Except Signal String) : Prop :=
  ∀ cause limit, r = .error (.failed cause) → cause.root ≠ .depthExceeded limit

/-- The induction is on the steps that are left. Both evaluations wait for the same levels, so that
what each has left differs by the same amount all the way. -/
theorem reaches_sameButNesting {t s' : State} {base' : Nat} {r : Except Signal String}
    (native : c.Native) (counted : c.Counted base)
    (counted' : Counted base' { c with state := t }) (same : SameButNesting c.state t)
    (room : c.state.maxDepth - base ≤ t.maxDepth - base')
    (reached : Reaches c ⟨.answer r, [], s'⟩) (uncut : IsUncut r) :
    ∃ t', Reaches { c with state := t } ⟨.answer r, [], t'⟩ ∧ SameButNesting s' t' ∧
      t'.depth = base' ∧ t'.maxDepth = t.maxDepth := by
  induction reached using Relation.ReflTransGen.head_induction_on generalizing t with
  | refl => exact ⟨t, .refl, same, counted', rfl⟩
  | @head c c' stepped rest ih =>
      have native' := native.next stepped
      have deeper : c.state.depth < c.state.maxDepth → t.depth < t.maxDepth := by
        unfold Counted at counted counted'
        dsimp only at counted'
        omega
      have passes : ∀ limit, c'.task ≠ .failing (.depthExceeded limit) := by
        intro limit cut
        obtain ⟨cause, failed, root⟩ := failed_of_reaches native' cut rest
        exact uncut cause limit failed root
      obtain ⟨t', stepped', same'⟩ := next_sameButNesting native same deeper stepped passes
      have nativeOther := native.sameButNesting same
      have kept : t'.maxDepth = t.maxDepth := nativeOther.next_maxDepth stepped'
      have room' : c'.state.maxDepth - base ≤ t'.maxDepth - base' := by
        rw [native.next_maxDepth stepped, kept]
        exact room
      obtain ⟨t'', reached', alike, depth, maxDepth⟩ := ih native' (counted.next stepped)
        (counted'.next stepped') same' room'
      exact ⟨t'', .head stepped' reached', alike, depth, maxDepth.trans kept⟩

/-- An evaluation that ends does so where fewer levels are left as well, if only because the limit
cuts it short. The induction is on the steps that are left. -/
theorem exists_end_of_fewer_levels {t s' : State} {base' : Nat} {r : Except Signal String}
    (native : c.Native) (counted : c.Counted base)
    (counted' : Counted base' { c with state := t }) (same : SameButNesting c.state t)
    (room : t.maxDepth - base' ≤ c.state.maxDepth - base)
    (reached : Reaches c ⟨.answer r, [], s'⟩) :
    ∃ r' t', Reaches { c with state := t } ⟨.answer r', [], t'⟩ := by
  induction reached using Relation.ReflTransGen.head_induction_on generalizing t with
  | refl => exact ⟨r, t, .refl⟩
  | @head c c' stepped rest ih =>
      have nativeOther := native.sameButNesting same
      by_cases cut : (∃ program, c.task = .program program) ∧ t.maxDepth ≤ t.depth
      · obtain ⟨⟨program, entered⟩, deep⟩ := cut
        have refused : next? { c with state := t } =
            some ⟨.failing (.depthExceeded t.maxDepth), c.waiting, t⟩ := by
          simp only [entered, next?, if_pos deep]
        obtain ⟨t', ended⟩ := (nativeOther.next refused).reaches_report rfl
        exact ⟨_, t', .head refused ended⟩
      · have deeper : ∀ program, c.task = .program program →
            c.state.depth < c.state.maxDepth ∧ t.depth < t.maxDepth := by
          intro program entered
          have left : t.depth < t.maxDepth := Nat.lt_of_not_le fun deep => cut ⟨⟨_, entered⟩, deep⟩
          unfold Counted at counted counted'
          dsimp only at counted'
          omega
        obtain ⟨t', stepped', same'⟩ := next_of_room native same deeper stepped
        have room' : t'.maxDepth - base' ≤ c'.state.maxDepth - base := by
          rw [native.next_maxDepth stepped, nativeOther.next_maxDepth stepped']
          exact room
        obtain ⟨r', t'', ended⟩ := ih (native.next stepped) (counted.next stepped)
          (counted'.next stepped') same' room'
        exact ⟨r', t'', .head stepped' ended⟩

end Moment

open Moment

variable {s t s' : State}

theorem run_sameButNesting {program : Program} {r : Except Signal String}
    (native : CommandScript.Native s.builtins) (same : SameButNesting s t)
    (room : s.maxDepth - s.depth ≤ t.maxDepth - t.depth)
    (reached : Reaches ⟨.program program, [], s⟩ ⟨.answer r, [], s'⟩) (uncut : IsUncut r) :
    Reaches ⟨.program program, [], t⟩
      ⟨.answer r, [], { s' with depth := t.depth, maxDepth := t.maxDepth }⟩ := by
  have first : Moment.Native ⟨.program program, [], s⟩ := ⟨trivial, List.forall_mem_nil _, native⟩
  have counted : Counted s.depth ⟨.program program, [], s⟩ := rfl
  have counted' : Counted t.depth ⟨.program program, [], t⟩ := rfl
  obtain ⟨t', reached', ⟨depth, maxDepth, rfl⟩, rfl, rfl⟩ :=
    reaches_sameButNesting first counted counted' same room reached uncut
  exact reached'

/-- The limit on nesting only ever cuts an evaluation short: one that it does not cut short ends in
the same way wherever at least as many levels are left. -/
theorem nesting_limit_only_cuts_short {s t : State} (native : CommandScript.Native s.builtins)
    (same : t = { s with depth := t.depth, maxDepth := t.maxDepth })
    (room : s.maxDepth - s.depth ≤ t.maxDepth - t.depth) :
    (∀ program fuel r s', Machine.run fuel program s = some (r, s') →
      (∀ cause limit, r = .error (.failed cause) → cause.root ≠ .depthExceeded limit) →
      ∃ least, ∀ fuel', least ≤ fuel' → Machine.run fuel' program t =
        some (r, { s' with depth := t.depth, maxDepth := t.maxDepth })) ∧
    (∀ (script : Script) r s', script.Ends s r s' →
      (∀ cause limit, r = .error cause → cause.root ≠ .depthExceeded limit) →
      script.Ends t r { s' with depth := t.depth, maxDepth := t.maxDepth }) := by
  constructor
  · intro program fuel r s' ran uncut
    exact run_eventually (run_sameButNesting native ⟨_, _, same⟩ room
      (run_iff_reaches.mp ⟨fuel, ran⟩) uncut)
  · intro script r s' ends uncut
    have alike : script.program t = script.program s := by rw [same]; cases script <;> rfl
    cases read : script.program s with
    | error cause =>
        obtain ⟨fuel, ended⟩ := ends.exists_fuel
        rw [Script.evaluate_of_error read] at ended
        cases ended
        have ended' := Script.evaluate_of_error (alike.trans read) fuel
        rw [same] at ended' ⊢
        exact Script.ends_of_evaluate ended'
    | ok program =>
        obtain ⟨result, rfl, reached⟩ := (Script.ends_iff_reaches read).mp ends
        refine (Script.ends_iff_reaches (alike.trans read)).mpr ⟨result, rfl, ?_⟩
        refine run_sameButNesting (s := { s with commandsSealed := true }) native
          ⟨t.depth, t.maxDepth, ?_⟩ room reached ?_
        · rw [same]
        · rintro cause limit rfl
          exact uncut cause limit rfl

/-- A procedure that calls itself until it has counted down. -/
def countdown : String :=
  "proc down {n} { puts $n; if {expr $n > 0} { down [expr $n - 1] } else { return end } }\ndown 1"

def narrowMachine : State := { machineOf countdown with maxDepth := 5 }

theorem countdown_elsewhere : ∃ s',
    Script.own.Ends narrowMachine (.ok (.normal "end")) s' ∧ s'.output.lines = #["1", "0"] ∧
      Script.own.Ends { narrowMachine with depth := 4, maxDepth := 10 } (.ok (.normal "end"))
        { s' with depth := 4, maxDepth := 10 } := by
  have first : Script.own.Ends narrowMachine (.ok (.normal "end"))
      (Script.own.after 6 narrowMachine) := Script.ends_after 6 (by decide +kernel)
  have elsewhere := nesting_limit_only_cuts_short (s := narrowMachine)
    (t := { narrowMachine with depth := 4, maxDepth := 10 }) native_standard rfl (by decide)
  exact ⟨_, first, by decide +kernel, elsewhere.2 .own _ _ first nofun⟩

end CommandScript
