import CommandScript.Proofs.Reading.Joining
import CommandScript.Proofs.Steps.Continuation

/-! Sources one after the other and sources joined. Behind a line end a source is read as it is read
by itself, only further down, and goes on from the value of the source before it. Neither the lines
nor that value show in how it ends. -/

namespace CommandScript

namespace Machine

variable {lines : Nat}

theorem arguments_down (run : Evaluator) (tokens : List Token) :
    arguments run (tokens.map (Token.down lines)) = arguments run tokens := by
  induction tokens with
  | nil => rfl
  | cons token rest ih =>
      have literal : argument run (token.down lines) = argument run token := rfl
      rw [List.map_cons, arguments, arguments, literal, ih]

theorem execute_down (fuel : Nat) (run : Evaluator) (command : Command) :
    execute fuel run (command.down lines) = execute fuel run command := by
  have named : commandName run (command.head.down lines) = commandName run command.head := rfl
  have found : dispatch fuel run (command.head.down lines) = dispatch fuel run command.head := rfl
  unfold execute
  rw [Command.down, named, found, arguments_down]

theorem sequence_down {execute : Command → Eval String}
    (same : ∀ command, execute (command.down lines) = execute command) (last : Option String)
    (program : Program) :
    sequence execute last (program.map (Command.down lines)) = sequence execute last program := by
  induction program generalizing last with
  | nil => rfl
  | cons command rest ih =>
      rw [List.map_cons, sequence, sequence, same command]
      simp only [ih]

theorem ofResult_stampLast (last : Option String) (signal : Signal) :
    Outcome.ofResult (.error (stampLast last signal)) = Outcome.ofResult (.error signal) := by
  cases last with
  | none => rfl
  | some value =>
      cases signal with
      | leaveLoop given | nextRound given => cases given <;> rfl
      | _ => rfl

/-- The value before its first command shows in no outcome of a program. It is given to the signals
of that command alone, and those that take it end a script with a failure. -/
theorem sequence_outcome {execute : Command → Eval String} {last : Option String}
    {program : Program} {s s' : State} {r : Except Signal String} (nonempty : program ≠ [])
    (ran : sequence execute last program s = some (r, s')) (last' : Option String) :
    ∃ r', sequence execute last' program s = some (r', s') ∧
      Outcome.ofResult r' = Outcome.ofResult r := by
  cases program with
  | nil => exact absurd rfl nonempty
  | cons command rest =>
      have unfolded : ∀ last, sequence execute last (command :: rest) s =
          (Eval.checkInterrupt >>= fun _ => Eval.mapSignal (stampLast last) (execute command) >>=
            fun value => sequence execute (some value) rest) s := fun _ => rfl
      rw [unfolded] at ran ⊢
      simp only [Eval.bind_apply, Eval.checkInterrupt, Eval.mapSignal] at ran ⊢
      cases raised : s.checkInterrupt with
      | error cause =>
          rw [raised] at ran
          exact ⟨r, ran, rfl⟩
      | ok _ =>
          rw [raised] at ran
          dsimp only at ran ⊢
          cases ended : execute command s with
          | none => rw [ended] at ran; cases ran
          | some first =>
              obtain ⟨result, s₁⟩ := first
              rw [ended] at ran
              cases result with
              | ok value => exact ⟨r, ran, rfl⟩
              | error signal =>
                  cases ran
                  refine ⟨_, rfl, ?_⟩
                  rw [ofResult_stampLast, ofResult_stampLast]

end Machine

open Moment

/-- The commands of a level end as they do in a sequence, and give the level back. -/
theorem level_iff_reaches {last : Option String} {rest : Program} {s s' : State}
    {r : Except Signal String} :
    Reaches ⟨.commands last rest, [.level], s⟩ ⟨.answer r, [], s'⟩ ↔
      ∃ fuel s₁, Machine.sequence (Machine.execute fuel (Machine.run fuel)) last rest s =
        some (r, s₁) ∧ s' = { s₁ with depth := s₁.depth - 1 } := by
  have agrees : ∀ fuel, Agrees fuel ⟨.commands last rest, [.level], s⟩ [.level]
      (Machine.sequence (Machine.execute fuel (Machine.run fuel)) last rest s) := fun fuel =>
    Task.commands_performs (Task.execute_performs (Task.program_performs fuel)) last rest _ s
  have leave : ∀ r s₁, Reaches ⟨.answer r, [.level], s₁⟩
      ⟨.answer r, [], { s₁ with depth := s₁.depth - 1 }⟩ := by
    intro r s₁
    cases r <;> exact .single rfl
  constructor
  · intro reached
    obtain ⟨fuel, enough⟩ := Agrees.eventually agrees reached rfl
    obtain ⟨r₁, s₁, ended, after⟩ := enough fuel (Nat.le_refl fuel)
    have same := Reaches.end_unique after (leave r₁ s₁) rfl rfl
    cases same
    exact ⟨fuel, s₁, ended, rfl⟩
  · rintro ⟨fuel, s₁, ended, rfl⟩
    have done := agrees fuel
    rw [ended] at done
    exact .trans done (leave r s₁)

/-- The ends of a level show neither the lines of its commands nor the value before them. -/
theorem level_outcome_iff (last last' : Option String) (lines : Nat) {program : Program}
    (nonempty : program ≠ []) {s s' : State} {outcome : Except Failure Outcome} :
    (∃ r, Outcome.ofResult r = outcome ∧
      Reaches ⟨.commands last (program.map (Command.down lines)), [.level], s⟩
        ⟨.answer r, [], s'⟩) ↔
    ∃ r, Outcome.ofResult r = outcome ∧
      Reaches ⟨.commands last' program, [.level], s⟩ ⟨.answer r, [], s'⟩ := by
  simp only [level_iff_reaches, Machine.sequence_down (Machine.execute_down _ _)]
  constructor
  · rintro ⟨r, rfl, fuel, s₁, ended, rfl⟩
    obtain ⟨r', ended', same⟩ := Machine.sequence_outcome nonempty ended last'
    exact ⟨r', same, fuel, s₁, ended', rfl⟩
  · rintro ⟨r, rfl, fuel, s₁, ended, rfl⟩
    obtain ⟨r', ended', same⟩ := Machine.sequence_outcome nonempty ended last
    exact ⟨r', same, fuel, s₁, ended', rfl⟩

/-- No evaluation makes room for further builtins again. -/
def KeepsSeal (s s' : State) : Prop :=
  s'.builtins = s.builtins ∧ (s.commandsSealed = true → s'.commandsSealed = true)

theorem KeepsSeal.stable : Stable True KeepsSeal where
  refl s := ⟨rfl, id⟩
  trans h h' := ⟨h'.1.trans h.1, h'.2 ∘ h.2⟩
  builtins h := h.1
  setVariable s name value := ⟨rfl, id⟩
  unsetVariable s name := ⟨rfl, id⟩
  define s name procedure := ⟨rfl, id⟩
  writeLine written := by
    obtain ⟨output, rfl⟩ := State.writeLine_eq written
    exact ⟨rfl, id⟩
  sealed s := ⟨rfl, fun _ => rfl⟩
  interrupted s interrupt := ⟨rfl, id⟩
  limited _ s maxDepth := ⟨rfl, id⟩
  level h := h
  call params args h := h

namespace Script

variable {program : Program} {s s' : State}

theorem sealed_of_reaches {r : Except Signal String}
    (reached : Reaches ⟨.program program, [], { s with commandsSealed := true }⟩
      ⟨.answer r, [], s'⟩) : { s' with commandsSealed := true } = s' := by
  obtain ⟨fuel, ran⟩ := run_iff_reaches.mpr reached
  have keeps := Machine.run_keeps KeepsSeal.stable fuel program _ _ _ (.inl trivial) ran
  have marked : s'.commandsSealed = true := keeps.2 rfl
  rw [← marked]

/-- A program that ends with a value had room for its level, and only a host command that changes
the limit can leave none for another. -/
theorem room_of_reaches {value : String}
    (reached : Reaches ⟨.program program, [], s⟩ ⟨.answer (.ok value), [], s'⟩)
    (room : KeepLimit s.builtins ∨ s'.depth < s'.maxDepth) : s'.depth < s'.maxDepth := by
  rcases room with kept | room
  · obtain ⟨fuel, ran⟩ := run_iff_reaches.mpr reached
    have restored := Machine.run_restored ran
    rw [restored.depth, restored.maxDepth kept]
    by_contra deep
    have refused : Reaches ⟨.program program, [], s⟩
        ⟨.failing (.depthExceeded s.maxDepth), [], s⟩ :=
      .single (if_pos (Nat.le_of_not_lt deep))
    cases Reaches.end_unique reached refused rfl rfl
  · exact room

theorem reaches_of_empty (s : State) :
    ∃ r, Reaches ⟨.program [], [], s⟩ ⟨.answer r, [], s⟩ := by
  by_cases deep : s.maxDepth ≤ s.depth
  · exact ⟨_, .single (if_pos deep)⟩
  · exact ⟨_, .head (if_neg deep) (reaches_of_finished none _)⟩

variable {a b : String} {p q : Program}

theorem joined_program (first : Program.parse a = .ok p) (second : Program.parse b = .ok q)
    (s : State) : (Script.source (a ++ "\n" ++ b)).program s =
      .ok (p ++ q.map (Command.down (linesBefore a '\n'))) := by
  have ends : IsSeparator '\n' := .inl rfl
  have line : String.singleton '\n' = "\n" := by decide
  have read := Program.parse_join_ok ends first second
  rw [line] at read
  exact read

/-- Behind a source that ends with a value, a joined source ends as the second does by itself. -/
theorem joined_iff (first : Program.parse a = .ok p) (second : Program.parse b = .ok q)
    (nonempty : q ≠ []) {value : String}
    (reached : Reaches ⟨.program p, [], { s with commandsSealed := true }⟩
      ⟨.answer (.ok value), [], s'⟩) (room : s'.depth < s'.maxDepth)
    (r : Except Failure Outcome) (s'' : State) :
    (Script.source (a ++ "\n" ++ b)).Ends s r s'' ↔ (Script.source b).Ends s' r s'' := by
  obtain ⟨last, further⟩ := reaches_more reached (q.map (Command.down (linesBefore a '\n')))
  have enter : Reaches ⟨.program q, [], s'⟩
      ⟨.commands none q, [.level], { s' with depth := s'.depth + 1 }⟩ :=
    .single (if_neg (Nat.not_le.mpr room))
  have read : (Script.source b).program s' = .ok q := second
  rw [ends_iff_reaches (joined_program first second s), ends_iff_reaches read,
    sealed_of_reaches reached]
  calc (∃ result, Outcome.ofResult result = r ∧ Reaches
          ⟨.program (p ++ q.map (Command.down (linesBefore a '\n'))), [],
            { s with commandsSealed := true }⟩ ⟨.answer result, [], s''⟩)
      ↔ ∃ result, Outcome.ofResult result = r ∧ Reaches
          ⟨.commands last (q.map (Command.down (linesBefore a '\n'))), [.level],
            { s' with depth := s'.depth + 1 }⟩ ⟨.answer result, [], s''⟩ :=
        exists_congr fun _ => and_congr_right fun _ => further.end_iff rfl
    _ ↔ ∃ result, Outcome.ofResult result = r ∧ Reaches
          ⟨.commands none q, [.level], { s' with depth := s'.depth + 1 }⟩
            ⟨.answer result, [], s''⟩ := level_outcome_iff last none _ nonempty
    _ ↔ ∃ result, Outcome.ofResult result = r ∧ Reaches
          ⟨.program q, [], s'⟩ ⟨.answer result, [], s''⟩ :=
        exists_congr fun _ => and_congr_right fun _ => (enter.end_iff rfl).symm

end Script

/-- Running two sources one after the other is running them joined. If the first ends with a value,
the joined source ends as the second does from there, or with that value if the second has no
command. If the first ends in any other way, the joined source does so too, and nothing of the
second runs: it only waits behind the moments of the first. The one thing the second source needs
by itself and not behind the first is a level of its own, which is there unless a host command has
lowered the limit. -/
theorem joined_source_continues {a b : String} {p q : Program} (s : State)
    (first : Program.parse a = .ok p) (second : Program.parse b = .ok q) :
    (∀ value s', (Script.source a).Ends s (.ok (.normal value)) s' →
      (q = [] → (Script.source (a ++ "\n" ++ b)).Ends s (.ok (.normal value)) s' ∧
        ∃ r, (Script.source b).Ends s' r s') ∧
      (q ≠ [] → KeepLimit s.builtins ∨ s'.depth < s'.maxDepth →
        ∀ r s'', (Script.source (a ++ "\n" ++ b)).Ends s r s'' ↔
          (Script.source b).Ends s' r s'')) ∧
    (∀ r s', (Script.source a).Ends s r s' → (∀ value, r ≠ .ok (.normal value)) →
      (Script.source (a ++ "\n" ++ b)).Ends s r s' ∧
      ∀ d, (Script.source (a ++ "\n" ++ b)).Passes s d → ∃ c, (Script.source a).Passes s c ∧
        Followed (q.map (Command.down (linesBefore a '\n'))) c d) := by
  have read : (Script.source a).program s = .ok p := first
  have joined := Script.joined_program first second s
  constructor
  · intro value s' ends
    obtain ⟨result, same, reached⟩ := (Script.ends_iff_reaches read).mp ends
    have valued : result = .ok value := by
      cases result with
      | ok other => cases same; rfl
      | error signal => cases signal <;> cases same
    subst valued
    refine ⟨?_, ?_⟩
    · rintro rfl
      rw [List.map_nil, List.append_nil] at joined
      refine ⟨(Script.ends_iff_reaches joined).mpr ⟨_, rfl, reached⟩, ?_⟩
      obtain ⟨r, empty⟩ := Script.reaches_of_empty s'
      have other : (Script.source b).program s' = .ok [] := second
      refine ⟨_, (Script.ends_iff_reaches other).mpr ⟨r, rfl, ?_⟩⟩
      rw [Script.sealed_of_reaches reached]
      exact empty
    · intro nonempty room
      exact Script.joined_iff first second nonempty reached (Script.room_of_reaches reached room)
  · intro r s' ends abnormal
    obtain ⟨result, rfl, reached⟩ := (Script.ends_iff_reaches read).mp ends
    cases result with
    | ok value => exact absurd rfl (abnormal value)
    | error signal =>
        obtain ⟨further, covered⟩ := reaches_no_more reached
          (q.map (Command.down (linesBefore a '\n')))
        refine ⟨(Script.ends_iff_reaches joined).mpr ⟨_, rfl, further⟩, ?_⟩
        rintro d ⟨program, same, passed⟩
        rw [joined] at same
        cases same
        obtain ⟨c, own, followed⟩ := covered d passed
        exact ⟨c, ⟨p, first, own⟩, followed⟩

def settingSource : String := "set x 1"

def returningSource : String := "puts $x; return 7; puts 8"

def readingSource : String := "puts [incr x]\nset x"

theorem joined_sources_continue : ∃ s s₁ s₂,
    (Script.source settingSource).Ends (machineOf "") (.ok (.normal "1")) s ∧
      (Script.source readingSource).Ends s (.ok (.normal "2")) s₁ ∧
      (Script.source (settingSource ++ "\n" ++ readingSource)).Ends (machineOf "")
        (.ok (.normal "2")) s₁ ∧
      (Script.source returningSource).Ends s (.ok (.returned "7")) s₂ ∧
      (Script.source (returningSource ++ "\n" ++ readingSource)).Ends s
        (.ok (.returned "7")) s₂ ∧ s₂.output.lines = #["1"] := by
  let s := (Script.source settingSource).after 3 (machineOf "")
  have setting : Program.parse settingSource = .ok
      [⟨⟨.word, "set", 1⟩, [⟨.word, "x", 1⟩, ⟨.number, "1", 1⟩]⟩] := by decide +kernel
  have returning : Program.parse returningSource = .ok
      [⟨⟨.word, "puts", 1⟩, [⟨.variable, "$x", 1⟩]⟩, ⟨⟨.word, "return", 1⟩, [⟨.number, "7", 1⟩]⟩,
        ⟨⟨.word, "puts", 1⟩, [⟨.number, "8", 1⟩]⟩] := by decide +kernel
  have reading : Program.parse readingSource = .ok
      [⟨⟨.word, "puts", 1⟩, [⟨.bracket, "[incr x]", 1⟩]⟩,
        ⟨⟨.word, "set", 2⟩, [⟨.word, "x", 2⟩]⟩] := by decide +kernel
  have set : (Script.source settingSource).Ends (machineOf "") (.ok (.normal "1")) s :=
    Script.ends_after 3 (by decide +kernel)
  have read : (Script.source readingSource).Ends s (.ok (.normal "2")) _ :=
    Script.ends_after 3 (by decide +kernel)
  have left : (Script.source returningSource).Ends s (.ok (.returned "7")) _ :=
    Script.ends_after 3 (by decide +kernel)
  have kept : KeepLimit (machineOf "").builtins := native_standard.keepLimit
  have joined := ((joined_source_continues (machineOf "") setting reading).1 "1" s set).2
    (List.cons_ne_nil _ _) (.inl kept) (.ok (.normal "2")) ((Script.source readingSource).after 3 s)
  have stopped := (joined_source_continues s returning reading).2 _ _ left nofun
  exact ⟨s, _, _, set, read, joined.mpr read, left, stopped.1, by decide +kernel⟩

/-- The commands of the language and a host command that leaves no levels. -/
def limitingMachine : State :=
  { machineOf "" with
    builtins := Builtin.standard.insert "depth" (.host fun _ => .limitDepth 0 (.finish (.ok ""))) }

/-- The level that a source has to itself can be missing: the joined source does not ask for it. -/
theorem joined_source_spares_level : ∃ s' s₁ s₂,
    (Script.source "depth 0").Ends limitingMachine (.ok (.normal "")) s' ∧
      (Script.source "set x 1").Ends s' (.error (.depthExceeded 0)) s₁ ∧
      (Script.source ("depth 0" ++ "\n" ++ "set x 1")).Ends limitingMachine
        (.ok (.normal "1")) s₂ ∧
      ¬ (Script.source "set x 1").Ends s' (.ok (.normal "1")) s₂ := by
  let s' := (Script.source "depth 0").after 3 limitingMachine
  have first : (Script.source "depth 0").Ends limitingMachine (.ok (.normal "")) s' :=
    Script.ends_after 3 (by decide +kernel)
  have refused : (Script.source "set x 1").Ends s' (.error (.depthExceeded 0)) _ :=
    Script.ends_after 3 (by decide +kernel)
  have joined : (Script.source ("depth 0" ++ "\n" ++ "set x 1")).Ends limitingMachine
      (.ok (.normal "1")) _ := Script.ends_after 3 (by decide +kernel)
  refine ⟨s', _, _, first, refused, joined, fun other => ?_⟩
  obtain ⟨fuel, ended⟩ := other.exists_fuel
  cases (refused.unique fuel _ _ ended).1

end CommandScript
