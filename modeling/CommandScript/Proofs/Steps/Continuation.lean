import CommandScript.Proofs.Steps.Nesting

namespace CommandScript

namespace Moment

variable {c c' d d' : Moment}

/-- The same moment inside of further activations. -/
def within (c : Moment) (outer : List Activation) : Moment :=
  ⟨c.task, c.waiting ++ outer, c.state⟩

theorem goOn_within (loop : Loop) (last : String) (waiting outer : List Activation) (s : State) :
    loop.goOn last (waiting ++ outer) s = (loop.goOn last waiting s).within outer := by
  unfold Loop.goOn
  cases loop.step <;> rfl

theorem resume_within (activation : Activation) (result : Except Signal String)
    (waiting outer : List Activation) (s : State) :
    activation.resume result (waiting ++ outer) s =
      (activation.resume result waiting s).within outer := by
  cases result with
  | ok value =>
      cases activation with
      | branchTest body otherwise =>
          simp only [Activation.resume, Activation.proceed]
          split
          · rfl
          · cases otherwise <;> rfl
      | loopTest loop last =>
          simp only [Activation.resume, Activation.proceed]
          split <;> rfl
      | loopBody loop last => exact goOn_within loop value waiting outer s
      | _ => rfl
  | error signal =>
      cases activation with
      | loopBody loop last =>
          cases signal with
          | nextRound value => exact goOn_within loop _ waiting outer s
          | _ => rfl
      | _ => rfl

theorem serve_within (request : HostStep) (waiting outer : List Activation) (s : State) :
    serve request (waiting ++ outer) s = (serve request waiting s).within outer := by
  cases request with
  | evaluateSource text resume =>
      simp only [serve]
      split <;> rfl
  | writeLine line resume =>
      simp only [serve]
      split <;> rfl
  | define name params body resume =>
      simp only [serve]
      split <;> rfl
  | _ => rfl

theorem next?_within (stepped : c.next? = some c') (outer : List Activation) :
    (c.within outer).next? = some (c'.within outer) := by
  obtain ⟨task, waiting, s⟩ := c
  by_cases active : task.IsActive
  · unfold within
    cases task with
    | program program =>
        simp only [next?] at stepped ⊢
        split at stepped
        · next deep => cases stepped; exact if_pos deep
        · next room => cases stepped; exact if_neg room
    | invoke builtin args =>
        simp only [next?] at stepped ⊢
        cases opens : builtin.opening? args with
        | some opening =>
            rw [opens] at stepped
            cases stepped
            exact congrArg (fun waiting => some (Moment.mk _ waiting s))
              (List.append_assoc ..).symm
        | none =>
            rw [opens] at stepped
            obtain ⟨ended, acted, rfl⟩ := Option.map_eq_some_iff.mp stepped
            dsimp only
            rw [acted]
            rfl
    | call name procedure args =>
        simp only [next?] at stepped ⊢
        split at stepped
        · next fits => cases stepped; exact if_pos fits
        · next unfit => cases stepped; exact if_neg unfit
    | host request =>
        cases stepped
        exact congrArg some (serve_within request waiting outer s)
    | answer result =>
        cases waiting with
        | nil => cases stepped
        | cons activation waiting =>
            cases stepped
            exact congrArg some (resume_within activation result waiting outer s)
    | _ => exact active.elim
  · unfold within
    rw [next?_of_quiet active] at stepped ⊢
    cases stepped
    rw [List.append_assoc]

theorem Reaches.within (reached : Reaches c c') (outer : List Activation) :
    Reaches (c.within outer) (c'.within outer) := by
  induction reached with
  | refl => exact .refl
  | tail _ stepped ih => exact .tail ih (next?_within stepped outer)

theorem eq_answer_of_next?_eq_none (ended : c.next? = none) :
    ∃ result s, c = ⟨.answer result, [], s⟩ := by
  obtain ⟨task, waiting, s⟩ := c
  cases task with
  | answer result =>
      cases waiting with
      | nil => exact ⟨result, s, rfl⟩
      | cons activation waiting => cases ended
  | program program =>
      simp only [next?] at ended
      split at ended <;> cases ended
  | invoke builtin args =>
      simp only [next?] at ended
      split at ended
      · cases ended
      · next shut =>
          obtain ⟨r, s', acted⟩ := Machine.invoke_ends shut s
          rw [acted] at ended
          cases ended
  | call name procedure args =>
      simp only [next?] at ended
      split at ended <;> cases ended
  | _ => cases ended

/-- Two moments that are the same except that in the second more commands wait behind those of the
outermost level. None of these has begun, and a level that is left with a signal forgets them. -/
inductive Followed (more : Program) : Moment → Moment → Prop
  | start {program s} : Followed more ⟨.program program, [], s⟩ ⟨.program (program ++ more), [], s⟩
  | between {last rest s} :
      Followed more ⟨.commands last rest, [.level], s⟩ ⟨.commands last (rest ++ more), [.level], s⟩
  | inside {last rest} (c : Moment) :
      Followed more (c.within [.sequence last rest, .level])
        (c.within [.sequence last (rest ++ more), .level])
  | leaving {signal s} :
      Followed more ⟨.answer (.error signal), [.level], s⟩ ⟨.answer (.error signal), [.level], s⟩
  | left {signal s} :
      Followed more ⟨.answer (.error signal), [], s⟩ ⟨.answer (.error signal), [], s⟩

variable {more : Program}

theorem Followed.finished {last : Option String} {s : State}
    (h : Followed more ⟨.commands last [], [.level], s⟩ d) :
    d = ⟨.commands last more, [.level], s⟩ := by
  generalize here : Moment.mk (.commands last []) [.level] s = c at h
  cases h with
  | between => cases here; rfl
  | inside c =>
      have waiting := congrArg (List.length ∘ Moment.waiting) here
      simp only [Function.comp, within, List.length_append, List.length_cons] at waiting
      omega
  | _ => cases here

theorem Followed.ended {result : Except Signal String} {s : State}
    (h : Followed more ⟨.answer result, [], s⟩ d) :
    (∃ signal, result = .error signal) ∧ d = ⟨.answer result, [], s⟩ := by
  generalize here : Moment.mk (.answer result) [] s = c at h
  cases h with
  | left => cases here; exact ⟨⟨_, rfl⟩, rfl⟩
  | inside c =>
      have waiting := congrArg Moment.waiting here
      exact absurd waiting.symm (List.append_ne_nil_of_right_ne_nil _ (List.cons_ne_nil _ _))
  | _ => cases here

/-- Up to the end of the own commands both go on in the same way. -/
theorem Followed.next (h : Followed more c d)
    (unfinished : ∀ last s, c ≠ ⟨.commands last [], [.level], s⟩) (stepped : c.next? = some c') :
    ∃ d', d.next? = some d' ∧ Followed more c' d' := by
  cases h with
  | @start program s =>
      simp only [next?] at stepped ⊢
      split at stepped
      · next deep => cases stepped; exact ⟨_, if_pos deep, .left⟩
      · next room => cases stepped; exact ⟨_, if_neg room, .between⟩
  | @between last rest s =>
      cases rest with
      | nil => exact absurd rfl (unfinished last s)
      | cons command rest =>
          simp only [next?, Task.advance, List.cons_append] at stepped ⊢
          cases raised : s.checkInterrupt with
          | error cause =>
              rw [raised] at stepped
              cases stepped
              exact ⟨_, rfl, .leaving⟩
          | ok _ =>
              rw [raised] at stepped
              cases stepped
              exact ⟨_, rfl, .inside ⟨.command command, [], s⟩⟩
  | @inside last rest c =>
      cases inner : c.next? with
      | some c'' =>
          rw [next?_within inner] at stepped
          cases stepped
          exact ⟨_, next?_within inner _, .inside c''⟩
      | none =>
          obtain ⟨result, s, rfl⟩ := eq_answer_of_next?_eq_none inner
          cases result with
          | ok value => cases stepped; exact ⟨_, rfl, .between⟩
          | error signal => cases stepped; exact ⟨_, rfl, .leaving⟩
  | leaving => cases stepped; exact ⟨_, rfl, .left⟩
  | left => cases stepped

/-- An evaluation is followed to where it comes, unless its commands are done before. -/
theorem Followed.reaches (h : Followed more c d) (reached : Reaches c c') :
    (∃ d', Reaches d d' ∧ Followed more c' d') ∨
      ∃ last s, Reaches c ⟨.commands last [], [.level], s⟩ ∧
        Reaches d ⟨.commands last more, [.level], s⟩ := by
  induction reached with
  | refl => exact .inl ⟨d, .refl, h⟩
  | @tail b c' before stepped ih =>
      rcases ih with ⟨d', reached', followed⟩ | finished
      · by_cases unfinished : ∀ last s, b ≠ ⟨.commands last [], [.level], s⟩
        · obtain ⟨d'', stepped', followed'⟩ := followed.next unfinished stepped
          exact .inl ⟨d'', .tail reached' stepped', followed'⟩
        · push Not at unfinished
          obtain ⟨last, s, rfl⟩ := unfinished
          rw [followed.finished] at reached'
          exact .inr ⟨last, s, before, reached'⟩
      · exact .inr finished

/-- Where the own commands are never done, every moment with more commands behind is one without. -/
theorem Followed.covers (h : Followed more c d)
    (unfinished : ∀ last s, ¬ Reaches c ⟨.commands last [], [.level], s⟩) (reached : Reaches d d') :
    ∃ c', Reaches c c' ∧ Followed more c' d' := by
  induction reached with
  | refl => exact ⟨c, .refl, h⟩
  | @tail b d' before stepped ih =>
      obtain ⟨c', reached', followed⟩ := ih
      cases own : c'.next? with
      | none =>
          obtain ⟨result, s, rfl⟩ := eq_answer_of_next?_eq_none own
          rw [followed.ended.2] at stepped
          cases stepped
      | some c'' =>
          have open' : ∀ last s, c' ≠ ⟨.commands last [], [.level], s⟩ := by
            rintro last s rfl
            exact unfinished last s reached'
          obtain ⟨d'', stepped', followed'⟩ := followed.next open' own
          rw [stepped] at stepped'
          cases stepped'
          exact ⟨c'', .tail reached' own, followed'⟩

theorem reaches_of_finished (last : Option String) (s : State) :
    Reaches ⟨.commands last [], [.level], s⟩
      ⟨.answer (.ok (last.getD "")), [], { s with depth := s.depth - 1 }⟩ :=
  .head rfl (.head rfl .refl)

variable {program : Program} {s s' : State}

/-- A program that ends with a value goes on with the commands behind it, on the same level. -/
theorem reaches_more {value : String}
    (reached : Reaches ⟨.program program, [], s⟩ ⟨.answer (.ok value), [], s'⟩) (more : Program) :
    ∃ last, Reaches ⟨.program (program ++ more), [], s⟩
      ⟨.commands last more, [.level], { s' with depth := s'.depth + 1 }⟩ := by
  have followed : Followed more ⟨.program program, [], s⟩ ⟨.program (program ++ more), [], s⟩ :=
    .start
  rcases followed.reaches reached with ⟨d, _, outside⟩ | ⟨last, s₁, own, further⟩
  · obtain ⟨⟨signal, raised⟩, _⟩ := outside.ended
    cases raised
  · have counted : Counted s.depth ⟨.program program, [], s⟩ := rfl
    have depth : s₁.depth = s.depth + 1 := own.invariant Counted.next counted
    have ends : Reaches ⟨.program program, [], s⟩ _ := .trans own (reaches_of_finished last s₁)
    have same := Reaches.end_unique reached ends rfl rfl
    cases same
    refine ⟨last, ?_⟩
    rw [depth, Nat.add_sub_cancel, ← depth]
    exact further

/-- A program that ends with a signal never comes to the commands behind it. -/
theorem reaches_no_more {signal : Signal}
    (reached : Reaches ⟨.program program, [], s⟩ ⟨.answer (.error signal), [], s'⟩)
    (more : Program) :
    Reaches ⟨.program (program ++ more), [], s⟩ ⟨.answer (.error signal), [], s'⟩ ∧
      ∀ d, Reaches ⟨.program (program ++ more), [], s⟩ d →
        ∃ c, Reaches ⟨.program program, [], s⟩ c ∧ Followed more c d := by
  have followed : Followed more ⟨.program program, [], s⟩ ⟨.program (program ++ more), [], s⟩ :=
    .start
  have unfinished : ∀ last s₁,
      ¬ Reaches ⟨.program program, [], s⟩ ⟨.commands last [], [.level], s₁⟩ := by
    intro last s₁ finished
    have ends : Reaches ⟨.program program, [], s⟩ _ := .trans finished (reaches_of_finished last s₁)
    cases Reaches.end_unique reached ends rfl rfl
  constructor
  · rcases followed.reaches reached with ⟨d, further, outside⟩ | ⟨last, s₁, finished, _⟩
    · exact outside.ended.2 ▸ further
    · exact absurd finished (unfinished last s₁)
  · intro d further
    exact followed.covers unfinished further

end Moment

end CommandScript
