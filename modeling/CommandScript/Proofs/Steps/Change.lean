import CommandScript.Proofs.Steps.Unwinding

namespace CommandScript.Moment

variable {c c' : Moment}

inductive Change (s : State) : State → Prop
  | none : Change s s
  | enterLevel (room : s.depth < s.maxDepth) : Change s { s with depth := s.depth + 1 }
  | leaveLevel : Change s { s with depth := s.depth - 1 }
  | enterCall (params args : List String) :
      Change s { s with scopes := Machine.bindParams s.scopes.push params args }
  | leaveCall : Change s { s with scopes := s.scopes.pop }
  | act {builtin : Builtin} {args : List String} {result : Except Signal String} {s' : State}
      (shut : builtin.opening? args = .none)
      (acted : Machine.invoke 0 Machine.noEvaluator builtin args s = some (result, s')) :
      Change s s'
  | serve (request : HostStep) (waiting : List Activation) :
      Change s (serve request waiting s).state

theorem Inner.change {waiting : List Activation} {s : State} (h : Inner waiting s c) :
    Change s c.state := by
  rw [h.state]
  exact .none

theorem Change.of_next? (stepped : c.next? = some c') : Change c.state c'.state := by
  cases Move.of_next? stepped with
  | inner pending next => exact next.change
  | find | askHost => exact .none
  | enterLevel room => exact .enterLevel room
  | enterCall fits => exact .enterCall _ _
  | act shut acted => exact .act shut acted
  | @serve request waiting s => exact .serve request waiting
  | @answerHost result activation waiting s host =>
      cases activation with
      | hostText resume | hostSource resume => cases result <;> exact .none
      | _ => exact absurd trivial host
  | leaveLevel => exact .leaveLevel
  | leaveCall => exact .leaveCall
  | proceed next => exact next.change
  | @interrupt signal activation waiting s plain =>
      by_cases opened : activation.IsOpenTo signal
      · rw [Activation.interrupt_of_isOpenTo plain.native opened]
        cases activation with
        | level | procedure => exact plain.elim
        | _ => exact .none
      · exact (inner_of_caught plain opened).change

/-- One request of a host command is a change that every stable relation allows. -/
theorem serve_keeps {R : State → State → Prop} (h : Stable True R) (request : HostStep)
    (waiting : List Activation) (s : State) : R s (serve request waiting s).state := by
  cases request with
  | finish | evaluate | readVariable => exact h.refl s
  | evaluateSource text resume =>
      simp only [serve]
      split
      · exact h.refl s
      · exact h.sealed s
  | setVariable name value resume => exact h.setVariable s name value
  | unsetVariable name resume => exact h.unsetVariable s name
  | writeLine line resume =>
      simp only [serve]
      split
      · next written => exact h.writeLine written
      · exact h.refl s
  | define name params body resume =>
      simp only [serve]
      split
      · exact h.define s name _
      · exact h.refl s
  | limitDepth depth resume => exact h.limited trivial s depth
  | raiseInterrupt resume => exact h.interrupted s _

end CommandScript.Moment
