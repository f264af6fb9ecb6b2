import CommandScript.Proofs.Steps.Builtins
import CommandScript.Proofs.Restoration

namespace CommandScript

def Task.IsNative : Task → Prop
  | .host _ => False
  | .invoke builtin _ => builtin.isHost = false
  | _ => True

theorem Task.IsInner.native {task : Task} (h : task.IsInner) : task.IsNative := by
  cases task with
  | invoke | host => exact h.elim
  | _ => trivial

theorem Activation.IsInner.native {activation : Activation} (h : activation.IsInner) :
    activation.IsNative := by
  cases activation with
  | hostText | hostSource => exact h.elim
  | _ => trivial

theorem Restored.native {s s' : State} (restored : Restored s s') (native : Native s.builtins) :
    Native s'.builtins := by
  rw [restored.builtins]
  exact native

/-- A builtin of the language leaves the machine as deep as it finds it, and the limit alone. -/
theorem Machine.act_settled {builtin : Builtin} {args : List String} {s s' : State}
    {r : Except Signal String} (own : builtin.isHost = false) (native : Native s.builtins)
    (acted : Machine.invoke 0 Machine.noEvaluator builtin args s = some (r, s')) :
    Settled False s s' := by
  have limit : builtin.KeepsLimit := by
    cases builtin with
    | host act => cases own
    | _ => trivial
  exact invoke_keeps (Settled.stable False) (fun _ => .exhausted) 0 builtin args (.inr limit)
    _ _ _ (.inr native.keepLimit) acted

namespace Moment

variable {c c' : Moment}

/-- What every moment of a run satisfies if its steps preserve it. -/
theorem Reaches.invariant {P : Moment → Prop}
    (preserved : ∀ {c c' : Moment}, P c → c.next? = some c' → P c')
    (reached : Reaches c c') (first : P c) : P c' := by
  induction reached with
  | refl => exact first
  | tail _ stepped ih => exact preserved ih stepped

/-- No host command is about to act, waits, or can be looked up. -/
structure Native (c : Moment) : Prop where
  task : c.task.IsNative
  waiting : ∀ activation ∈ c.waiting, activation.IsNative
  builtins : CommandScript.Native c.state.builtins

theorem Inner.native {waiting : List Activation} {s : State} (h : Inner waiting s c)
    (hw : ∀ activation ∈ waiting, activation.IsNative) (hb : CommandScript.Native s.builtins) :
    c.Native := by
  obtain ⟨task, ⟨pushed, same, plain⟩, rfl⟩ := h
  refine ⟨?_, ?_, hb⟩
  · rcases task with inner | ⟨result, answered, _⟩
    · exact inner.native
    · rw [answered]
      trivial
  · rw [same]
    exact List.forall_mem_append.mpr ⟨fun activation member => (plain activation member).native, hw⟩

theorem native_interrupt {activation : Activation} {signal : Signal}
    {waiting : List Activation} {s : State} (ha : activation.IsInner)
    (hw : ∀ activation ∈ waiting, activation.IsNative) (hb : CommandScript.Native s.builtins) :
    (activation.interrupt signal waiting s).Native := by
  cases activation with
  | loopBody loop last =>
      cases signal with
      | nextRound value => exact (inner_goOn loop _).native hw hb
      | _ => exact ⟨trivial, hw, hb⟩
  | hostText | hostSource => exact ha.elim
  | _ => exact ⟨trivial, hw, hb⟩

theorem Native.next (h : c.Native) (stepped : c.next? = some c') : c'.Native := by
  obtain ⟨ht, hw, hb⟩ := h
  cases Move.of_next? stepped with
  | inner pending next => exact next.native hw hb
  | find found => exact ⟨hb _ _ found, List.forall_mem_cons.mpr ⟨trivial, hw⟩, hb⟩
  | enterLevel room => exact ⟨trivial, List.forall_mem_cons.mpr ⟨trivial, hw⟩, hb⟩
  | enterCall fits => exact ⟨trivial, List.forall_mem_cons.mpr ⟨trivial, hw⟩, hb⟩
  | act shut acted =>
      have same := (Machine.act_keeps (Settled.stable True) acted).builtins
      exact ⟨trivial, hw, same ▸ hb⟩
  | askHost => cases ht
  | serve => exact ht.elim
  | answerHost host => exact absurd (List.forall_mem_cons.mp hw).1 host
  | leaveLevel => exact ⟨trivial, (List.forall_mem_cons.mp hw).2, hb⟩
  | leaveCall => exact ⟨trivial, (List.forall_mem_cons.mp hw).2, hb⟩
  | proceed next => exact next.native (List.forall_mem_cons.mp hw).2 hb
  | interrupt plain => exact native_interrupt plain (List.forall_mem_cons.mp hw).2 hb

theorem Native.reaches (h : c.Native) (reached : Reaches c c') : c'.Native :=
  reached.invariant Native.next h

end Moment

end CommandScript
