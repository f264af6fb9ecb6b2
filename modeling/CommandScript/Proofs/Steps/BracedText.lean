import CommandScript.Proofs.Reading.Respelling
import CommandScript.Proofs.Steps.Nesting

namespace CommandScript

/-- The command that evaluates a text in braces. -/
def bracedEval (text : String) : String := "eval \x7b" ++ text ++ "\x7d"

variable {s s' : State} {text : String}

theorem Program.parse_bracedEval (balanced : Balanced '\x7b' '\x7d' text.toList) :
    ∃ line line', parse (bracedEval text) =
      .ok [⟨⟨.word, "eval", line⟩, [⟨.block, text, line'⟩]⟩] := by
  have spelled : bracedEval text =
      Token.respelling [⟨.word, "eval", 1⟩, ⟨.block, text, 1⟩] := by
    apply String.toList_inj.mp
    simp [bracedEval, Token.respelling, Token.spelling, Token.Kind.spelling,
      String.intercalate_cons_cons, String.intercalate_singleton]
  have admitted : ∀ token ∈ [(⟨.word, "eval", 1⟩ : Token), ⟨.block, text, 1⟩],
      token.IsAdmitted := by
    have word : Lexeme.IsWord "eval".toList := by decide
    simp only [List.forall_mem_cons]
    exact ⟨word, balanced, List.forall_mem_nil _⟩
  obtain ⟨read, faces, parsed⟩ := parse_respelling admitted
  obtain ⟨⟨_, _, line⟩, more, rfl, face, faces⟩ := List.map_eq_cons_iff.mp faces
  obtain ⟨⟨_, _, line'⟩, more, rfl, face', faces⟩ := List.map_eq_cons_iff.mp faces
  cases List.map_eq_nil_iff.mp faces
  cases face
  cases face'
  refine ⟨line, line', ?_⟩
  rw [spelled, parsed, ofTokens_of_running]
  simp only [List.forall_mem_cons]
  exact ⟨Bool.false_ne_true, Bool.false_ne_true, List.forall_mem_nil _⟩

namespace Machine

theorem sequence_singleton {execute : Command → Eval String} (command : Command)
    (running : s.checkInterrupt = .ok ()) :
    sequence execute none [command] s = execute command s := by
  simp only [sequence, Eval.bind_apply, Eval.checkInterrupt, running, Eval.mapSignal]
  cases execute command s with
  | none => rfl
  | some ended =>
      obtain ⟨result, t⟩ := ended
      cases result <;> rfl

theorem execute_eval (command : s.builtins.get? "eval" = some .evaluate) (fuel line line' : Nat) :
    execute fuel (run fuel) ⟨⟨.word, "eval", line⟩, [⟨.block, text, line'⟩]⟩ s =
      Eval.mapSignal (Signal.inCommand "eval") (evaluateText fuel text) s := by
  have dispatched := dispatch_apply fuel (run fuel) ⟨.word, "eval", line⟩ "eval" [text] s
  rw [command] at dispatched
  exact dispatched

/-- What a text one level further down gives the command that evaluates it. -/
def leaveEval : Except Signal String × State → Except Signal String × State
  | (r, t) => (r.mapError (Signal.inCommand "eval"), { t with depth := t.depth - 1 })

/-- The command takes a level and one unit of fuel, and then evaluates the text. -/
theorem evaluateText_bracedEval (balanced : Balanced '\x7b' '\x7d' text.toList)
    (command : s.builtins.get? "eval" = some .evaluate) (running : s.checkInterrupt = .ok ())
    (fuel : Nat) :
    evaluateText (fuel + 1) (bracedEval text) s =
      if s.maxDepth ≤ s.depth then some (.error (.failed (.depthExceeded s.maxDepth)), s)
      else (evaluateText fuel text { s with depth := s.depth + 1 }).map leaveEval := by
  obtain ⟨line, line', read⟩ := Program.parse_bracedEval balanced
  let deeper := { s with depth := s.depth + 1 }
  have alone : sequence (execute fuel (run fuel)) none
      [⟨⟨.word, "eval", line⟩, [⟨.block, text, line'⟩]⟩] deeper =
      Eval.mapSignal (Signal.inCommand "eval") (evaluateText fuel text) deeper :=
    (sequence_singleton (s := deeper) _ running).trans
      (execute_eval (s := deeper) command fuel line line')
  rw [evaluateText_of_parse read]
  simp only [run, nested]
  split
  · rfl
  · rw [alone, Eval.mapSignal]
    cases evaluateText fuel text deeper <;> rfl

theorem evaluateText_bracedEval_zero (balanced : Balanced '\x7b' '\x7d' text.toList) (s : State) :
    evaluateText 0 (bracedEval text) s = none := by
  obtain ⟨line, line', read⟩ := Program.parse_bracedEval balanced
  rw [evaluateText_of_parse read]
  rfl

end Machine

open Machine Moment

/-- The limit is passed if that is the failure which is reported: it is named with no command. -/
theorem isUncut_evaluateText {fuel : Nat} {r : Except Signal String}
    (native : CommandScript.Native s.builtins) (ran : evaluateText fuel text s = some (r, s'))
    (uncut : ∀ limit, r ≠ .error (.failed (.depthExceeded limit))) : IsUncut r := by
  rintro reported limit rfl root
  have own : Moment.Native ⟨.text text, [], s⟩ := ⟨trivial, List.forall_mem_nil _, native⟩
  obtain ⟨cause, active, single, rfl⟩ := own.eq_report (fun ⟨_, failing⟩ => nomatch failing)
    (evaluateText_iff_reaches.mp ⟨fuel, ran⟩)
  rw [Failure.root_report, single] at root
  subst root
  exact uncut limit rfl

theorem Moment.IsUncut.of_inCommand {r : Except Signal String} {name : String}
    (uncut : IsUncut (r.mapError (Signal.inCommand name))) : IsUncut r := by
  rintro cause limit rfl root
  exact uncut (cause.inCommand name) limit rfl ((cause.root_inCommand name).trans root)

/-- What a text does one level further down, it does here, if the limit does not cut it short. -/
theorem evaluateText_of_deeper {fuel : Nat} {r : Except Signal String} {t : State}
    (native : CommandScript.Native s.builtins)
    (ran : evaluateText fuel text { s with depth := s.depth + 1 } = some (r, t))
    (uncut : IsUncut r) :
    ∃ fuel', evaluateText fuel' text s = some (r, { t with depth := t.depth - 1 }) := by
  let deeper := { s with depth := s.depth + 1 }
  have own : Moment.Native ⟨.text text, [], deeper⟩ := ⟨trivial, List.forall_mem_nil _, native⟩
  have counted : Counted deeper.depth ⟨.text text, [], deeper⟩ := rfl
  have counted' : Counted s.depth ⟨.text text, [], s⟩ := rfl
  obtain ⟨t', reached, ⟨depth, maxDepth, rfl⟩, rfl, rfl⟩ :=
    reaches_sameButNesting own counted counted' ⟨s.depth, s.maxDepth, rfl⟩
      (Nat.sub_le_sub_left (Nat.le_succ _) _) (evaluateText_iff_reaches.mp ⟨fuel, ran⟩) uncut
  have restored := evaluateText_restored ran
  have back : { t with depth := s.depth, maxDepth := s.maxDepth } =
      { t with depth := t.depth - 1 } := by
    rw [restored.depth, ← restored.maxDepth native.keepLimit, Nat.add_sub_cancel]
  rw [back] at reached
  exact evaluateText_iff_reaches.mpr reached

theorem exists_deeper_evaluateText {fuel : Nat} {r : Except Signal String}
    (native : CommandScript.Native s.builtins)
    (ran : evaluateText fuel text s = some (r, s')) :
    ∃ fuel' r' t, evaluateText fuel' text { s with depth := s.depth + 1 } = some (r', t) := by
  let deeper := { s with depth := s.depth + 1 }
  have own : Moment.Native ⟨.text text, [], s⟩ := ⟨trivial, List.forall_mem_nil _, native⟩
  have counted : Counted s.depth ⟨.text text, [], s⟩ := rfl
  have counted' : Counted deeper.depth ⟨.text text, [], deeper⟩ := rfl
  obtain ⟨r', t, reached⟩ := exists_end_of_fewer_levels own counted counted'
    ⟨deeper.depth, deeper.maxDepth, rfl⟩ (Nat.sub_le_sub_left (Nat.le_succ _) _)
    (evaluateText_iff_reaches.mp ⟨fuel, ran⟩)
  obtain ⟨fuel', ended⟩ := evaluateText_iff_reaches.mpr reached
  exact ⟨fuel', r', t, ended⟩

/-- Evaluating a text in braces is evaluating the text. Unless the limit on nesting cuts the command
short, the command ends exactly if the text does where the command stands, in the same state and
with the same result, except that a failure names the command. -/
theorem braced_eval_is_transparent (native : CommandScript.Native s.builtins)
    (command : s.builtins.get? "eval" = some .evaluate) (running : s.checkInterrupt = .ok ())
    (balanced : Balanced '\x7b' '\x7d' text.toList)
    (uncut : ∀ fuel t limit, evaluateText fuel ("eval \x7b" ++ text ++ "\x7d") s ≠
      some (.error (.failed (.depthExceeded limit)), t))
    (r : Except Signal String) (s' : State) :
    (∃ fuel, evaluateText fuel ("eval \x7b" ++ text ++ "\x7d") s = some (r, s')) ↔
      ∃ result, r = result.mapError (Signal.inCommand "eval") ∧
        ∃ fuel, evaluateText fuel text s = some (result, s') := by
  have entered := evaluateText_bracedEval balanced command running
  have room : ¬ s.maxDepth ≤ s.depth := by
    intro deep
    have refused := entered 0
    rw [if_pos deep] at refused
    exact uncut 1 s s.maxDepth refused
  simp only [if_neg room] at entered
  have inside : ∀ {fuel r t},
      evaluateText (fuel + 1) (bracedEval text) s = some (leaveEval (r, t)) → IsUncut r := by
    intro fuel r t ended
    refine IsUncut.of_inCommand (isUncut_evaluateText native ended fun limit cut => ?_)
    rw [leaveEval, cut] at ended
    exact uncut _ _ limit ended
  constructor
  · rintro ⟨fuel, ended⟩
    cases fuel with
    | zero => cases (evaluateText_bracedEval_zero balanced s).symm.trans ended
    | succ fuel =>
        have whole := (entered fuel).symm.trans ended
        obtain ⟨⟨result, t⟩, inner, same⟩ := Option.map_eq_some_iff.mp whole
        cases same
        exact ⟨result, rfl, evaluateText_of_deeper native inner (inside ended)⟩
  · rintro ⟨result, rfl, fuel, ran⟩
    obtain ⟨fuel', result', t, inner⟩ := exists_deeper_evaluateText native ran
    have ended : evaluateText (fuel' + 1) (bracedEval text) s = some (leaveEval (result', t)) := by
      rw [entered fuel', inner]
      rfl
    obtain ⟨fuel'', again⟩ := evaluateText_of_deeper native inner (inside ended)
    obtain ⟨rfl, rfl⟩ := evaluateText_unique ran again
    exact ⟨fuel' + 1, ended⟩

/-- A machine inside of a loop, with two levels left. -/
def loopingMachine : State := { machineOf "" with depth := 1, maxDepth := 3 }

def leavingText : String := "set x \x7ba]\x7d; break"

def failingText : String := "puts \x7b\x7d; expr 1 / 0"

/-- Both texts need the last level that is left for them in braces. -/
theorem loopingMachine_eval_is_transparent :
    (∃ t, evaluateText 2 leavingText loopingMachine =
        some (.error (.leaveLoop (some "a]")), t) ∧
      ∃ fuel, evaluateText fuel ("eval \x7b" ++ leavingText ++ "\x7d") loopingMachine =
        some (.error (.leaveLoop (some "a]")), t)) ∧
    ∃ t, evaluateText 2 failingText loopingMachine =
        some (.error (.failed (.within "expr" .divisionByZero)), t) ∧
      ∃ fuel, evaluateText fuel ("eval \x7b" ++ failingText ++ "\x7d") loopingMachine =
        some (.error (.failed (.within "eval" (.within "expr" .divisionByZero))), t) := by
  have transparent : ∀ text signal, Balanced '\x7b' '\x7d' text.toList →
      (evaluateText 2 text loopingMachine).map Prod.fst = some (.error signal) →
      (evaluateText 3 ("eval \x7b" ++ text ++ "\x7d") loopingMachine).map Prod.fst =
        some (.error (signal.inCommand "eval")) →
      (∀ limit, signal.inCommand "eval" ≠ .failed (.depthExceeded limit)) →
      ∃ t, evaluateText 2 text loopingMachine = some (.error signal, t) ∧
        ∃ fuel, evaluateText fuel ("eval \x7b" ++ text ++ "\x7d") loopingMachine =
          some (.error (signal.inCommand "eval"), t) := by
    intro text signal balanced ends ends' plain
    obtain ⟨⟨_, t⟩, ran, rfl⟩ := Option.map_eq_some_iff.mp ends
    obtain ⟨⟨_, t'⟩, ran', same⟩ := Option.map_eq_some_iff.mp ends'
    cases same
    have uncut : ∀ fuel t limit, evaluateText fuel ("eval \x7b" ++ text ++ "\x7d") loopingMachine ≠
        some (.error (.failed (.depthExceeded limit)), t) := by
      intro fuel t limit again
      exact plain limit (Except.error.inj (evaluateText_unique ran' again).1).symm
    exact ⟨t, ran, (braced_eval_is_transparent native_standard rfl rfl balanced uncut _ t).mpr
      ⟨_, rfl, 2, ran⟩⟩
  refine ⟨transparent leavingText _ (by decide) (by decide +kernel) (by decide +kernel) nofun,
    transparent failingText _ (by decide) (by decide +kernel) (by decide +kernel) nofun⟩

end CommandScript
