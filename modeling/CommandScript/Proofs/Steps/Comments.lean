import CommandScript.Proofs.Steps.BracedText
import CommandScript.Proofs.Steps.Quoting

namespace CommandScript

namespace Expansion

/-- A text in which no opener has a closer behind it is gone through as it is. -/
theorem replaceBrackets_of_apart {m : Type → Type} [Monad m] (evaluate : String → m String)
    {rest : List Char} (apart : ¬ ['[', ']'].Sublist rest) (current : List Char)
    {opened : List (List Char)} (unclosed : opened ≠ [] → ']' ∉ rest) :
    replaceBrackets evaluate current opened rest =
      pure ((reopen current opened).reverse ++ rest) := by
  induction rest generalizing current opened with
  | nil => rw [replaceBrackets, List.append_nil]
  | cons c rest ih =>
      have apart' : ¬ ['[', ']'].Sublist rest := fun found => apart (found.cons c)
      have moved : (reopen (c :: current) opened).reverse ++ rest =
          (reopen current opened).reverse ++ c :: rest := by
        rw [reopen_cons, List.reverse_cons, List.append_assoc, List.singleton_append]
      unfold replaceBrackets
      rw [← moved]
      split
      · next opens =>
          subst opens
          have closed : ']' ∉ rest := fun member =>
            apart (.cons_cons '[' (List.singleton_sublist.mpr member))
          exact ih apart' [] fun _ => closed
      · split
        · next closes =>
            subst closes
            cases opened with
            | nil => exact ih apart' (']' :: current) fun pending => absurd rfl pending
            | cons before outer => exact absurd (.head rest) (unclosed (List.cons_ne_nil _ _))
        · exact ih apart' (c :: current) fun pending member => unclosed pending (.tail c member)

end Expansion

theorem Program.head_of_parse {word text : String} {command : Command}
    (isWord : Lexeme.IsWord word.toList) (read : parse (word ++ " " ++ text) = .ok [command]) :
    command.head = ⟨.word, word, 1⟩ := by
  have stream := Cursor.stream_append_of_isToken (Lexeme.isToken_word isWord) 1 text.toList
  have running : ¬ Token.isTerminator ⟨.word, word, 1⟩ = true := Bool.false_ne_true
  have start : Cursor.start (word ++ " " ++ text) = ⟨word.toList ++ ' ' :: text.toList, 1⟩ := by
    rw [Cursor.start, String.toList_append, String.toList_append, List.append_assoc]
    rfl
  have tokens := (parse_eq_ok_iff.mp read).2
  rw [start, stream, ofTokens, if_neg running] at tokens
  exact congrArg Command.head (List.cons.inj tokens).1

namespace Machine

variable {s : State} {evaluator : Evaluator}

theorem exists_denotes {tokens : List Token}
    (apart : ∀ token ∈ tokens, token.kind = .block ∨
      ¬ ['[', ']'].Sublist (Expansion.substituteText s.valueOf? token.literal).toList) :
    ∃ values, List.Forall₂ (Token.Denotes s) tokens values := by
  induction tokens with
  | nil => exact ⟨[], .nil⟩
  | cons token tokens ih =>
      obtain ⟨first, others⟩ := List.forall_mem_cons.mp apart
      obtain ⟨values, denotes⟩ := ih others
      obtain ⟨kind, literal, line⟩ := token
      by_cases block : kind = .block
      · subst block
        exact ⟨literal :: values, .cons .block denotes⟩
      · exact ⟨_, .cons (.expanded block rfl (first.resolve_left block)) denotes⟩

theorem argument_of_denotes {token : Token} {value : String} (denotes : token.Denotes s value) :
    argument evaluator token s = some (.ok value, s) := by
  cases denotes with
  | block => rfl
  | @expanded kind literal line _ expands substituted apart =>
      have word : argument evaluator ⟨kind, literal, line⟩ = expandWord evaluator literal := by
        cases kind with
        | block => exact absurd rfl expands
        | _ => rfl
      have scanned :
          Expansion.replaceBrackets evaluator.text [] [] value.toList = pure value.toList :=
        Expansion.replaceBrackets_of_apart evaluator.text apart [] nofun
      have expanded : Expansion.expandBrackets evaluator.text value = pure value := by
        rw [Expansion.expandBrackets, scanned, Eval.pure_bind, String.ofList_toList]
      rw [word]
      simp only [expandWord, Eval.bind_apply, Eval.getState, Expansion.expand, substituted,
        expanded]
      rfl

theorem arguments_of_denotes {tokens : List Token} {values : List String}
    (denotes : List.Forall₂ (Token.Denotes s) tokens values) :
    arguments evaluator tokens s = some (.ok values, s) := by
  induction denotes with
  | nil => rfl
  | cons first _ ih =>
      simp only [arguments, Eval.bind_apply, argument_of_denotes first, ih]
      rfl

def commentWords : List String := ["#", "//"]

theorem isWord_of_mem {word : String} (member : word ∈ commentWords) :
    Lexeme.IsWord word.toList := by
  revert word
  decide

theorem standard_comment {word : String} (member : word ∈ commentWords) :
    Builtin.standard.get? word = some .comment := by
  rcases member with _ | ⟨_, _ | ⟨_, ⟨⟩⟩⟩ <;> rfl

/-- What expanding the arguments of a comment leaves of it. -/
def leaveComment : Except Signal (List String) × State → Except Signal String × State
  | (r, t) => (r.map fun _ => "", { t with depth := t.depth - 1 })

theorem execute_comment {word : String} (member : word ∈ commentWords)
    (standard : s.builtins = Builtin.standard) (fuel line : Nat) (tokens : List Token) :
    execute fuel (run fuel) ⟨⟨.word, word, line⟩, tokens⟩ s =
      (arguments (run fuel) tokens s).map fun (r, t) => (r.map fun _ => "", t) := by
  have named : execute fuel (run fuel) ⟨⟨.word, word, line⟩, tokens⟩ s =
      (arguments (run fuel) tokens >>= fun args =>
        dispatch fuel (run fuel) ⟨.word, word, line⟩ word args) s := rfl
  rw [named, Eval.bind_apply]
  cases expanded : arguments (run fuel) tokens s with
  | none => rfl
  | some ended =>
      obtain ⟨r, t⟩ := ended
      cases r with
      | error signal => rfl
      | ok args =>
          have h := Settled.stable (¬ KeepLimit s.builtins)
          have settled := arguments_keeps h (run_keeps h fuel) tokens _ _ _ (Classical.em _).symm
            expanded
          have comment : t.builtins.get? word = some .comment := by
            rw [settled.builtins, standard]
            exact standard_comment member
          have dispatched :=
            dispatch_apply fuel (run fuel) ⟨.word, word, line⟩ word args t
          rw [comment] at dispatched
          exact dispatched

/-- A comment takes a level and one unit of fuel, in which its arguments are expanded. -/
theorem evaluateText_comment {word text : String} {command : Command}
    (member : word ∈ commentWords) (standard : s.builtins = Builtin.standard)
    (running : s.checkInterrupt = .ok ()) (shallow : s.depth < s.maxDepth)
    (read : Program.parse (word ++ " " ++ text) = .ok [command]) (fuel : Nat) :
    evaluateText (fuel + 1) (word ++ " " ++ text) s =
      (arguments (run fuel) command.arguments { s with depth := s.depth + 1 }).map
        leaveComment := by
  let deeper := { s with depth := s.depth + 1 }
  have head := Program.head_of_parse (isWord_of_mem member) read
  have alone : sequence (execute fuel (run fuel)) none [command] deeper =
      (arguments (run fuel) command.arguments deeper).map fun (r, t) =>
        (r.map fun _ => "", t) := by
    obtain ⟨_, tokens⟩ := command
    cases head
    exact (sequence_singleton (s := deeper) _ running).trans
      (execute_comment (s := deeper) member standard fuel 1 tokens)
  rw [evaluateText_of_parse read]
  simp only [run, nested]
  rw [if_neg (Nat.not_le.mpr shallow), alone]
  cases arguments (run fuel) command.arguments deeper <;> rfl

/-- A comment expands its arguments as every command does, and then its value is empty. In
particular it changes nothing if no script in brackets is left in them by the values of their
variables, blocks apart, which are not expanded. -/
theorem comments_only_expand {word text : String} {command : Command}
    (member : word ∈ commentWords) (standard : s.builtins = Builtin.standard)
    (running : s.checkInterrupt = .ok ()) (shallow : s.depth < s.maxDepth)
    (read : Program.parse (word ++ " " ++ text) = .ok [command]) :
    (∀ fuel, evaluateText (fuel + 1) (word ++ " " ++ text) s =
      (arguments (run fuel) command.arguments { s with depth := s.depth + 1 }).map
        leaveComment) ∧
    ((∀ token ∈ command.arguments, token.kind = .block ∨
        ¬ ['[', ']'].Sublist (Expansion.substituteText s.valueOf? token.literal).toList) →
      ∀ fuel, evaluateText (fuel + 1) (word ++ " " ++ text) s = some (.ok "", s)) := by
  have expands := evaluateText_comment member standard running shallow read
  refine ⟨expands, fun apart fuel => ?_⟩
  obtain ⟨values, denotes⟩ := exists_denotes (s := { s with depth := s.depth + 1 }) apart
  rw [expands, arguments_of_denotes denotes]
  rfl

/-- A machine one level above its limit, with half a script in a variable. -/
def halfOpenMachine : State :=
  { program := [], builtins := Builtin.standard
    scopes := .inner ⟨[("half", "[puts ")]⟩ (.globals ⟨[("half", "]")]⟩)
    interrupt := ⟨true, false⟩, depth := 2, maxDepth := 3 }

/-- A comment with an argument of every kind that keeps its brackets. -/
def crowdedComment : String := "$half \"$half $$half\" \x7b[puts $half]\x7d \"]a[\" 0x1f b\\"

theorem crowdedComment_is_inert :
    Program.parse ("//" ++ " " ++ crowdedComment) = .ok [⟨⟨.word, "//", 1⟩,
      [⟨.variable, "$half", 1⟩, ⟨.text, "$half $$half", 1⟩, ⟨.block, "[puts $half]", 1⟩,
        ⟨.text, "]a[", 1⟩, ⟨.number, "31", 1⟩, ⟨.word, "b\\", 1⟩]⟩] ∧
    ∀ fuel, evaluateText (fuel + 1) ("//" ++ " " ++ crowdedComment) halfOpenMachine =
      some (.ok "", halfOpenMachine) := by
  have read : Program.parse ("//" ++ " " ++ crowdedComment) = .ok [⟨⟨.word, "//", 1⟩,
      [⟨.variable, "$half", 1⟩, ⟨.text, "$half $$half", 1⟩, ⟨.block, "[puts $half]", 1⟩,
        ⟨.text, "]a[", 1⟩, ⟨.number, "31", 1⟩, ⟨.word, "b\\", 1⟩]⟩] := by decide +kernel
  refine ⟨read, ?_⟩
  exact (comments_only_expand (by decide) rfl rfl (by decide) read).2 (by decide +kernel)

/-- A script in brackets is run for the sake of an argument that the comment ignores. -/
theorem comment_writes_line :
    ((evaluateText 3 "# [puts hi]" (machineOf "")).map fun ended =>
      (ended.1.toOption, ended.2.output.lines)) = some (some "", #["hi"]) ∧
    ¬ ∀ s word text command, word ∈ commentWords → s.builtins = Builtin.standard →
      s.checkInterrupt = .ok () → s.depth < s.maxDepth →
      Program.parse (word ++ " " ++ text) = .ok [command] →
      ∃ fuel, evaluateText fuel (word ++ " " ++ text) s = some (.ok "", s) := by
  have ends : ((evaluateText 3 "# [puts hi]" (machineOf "")).map fun ended =>
      (ended.1.toOption, ended.2.output.lines)) = some (some "", #["hi"]) := by decide +kernel
  have read : Program.parse "# [puts hi]" =
      .ok [⟨⟨.word, "#", 1⟩, [⟨.bracket, "[puts hi]", 1⟩]⟩] := by decide +kernel
  refine ⟨ends, fun inert => ?_⟩
  obtain ⟨⟨r, t⟩, ran, written⟩ := Option.map_eq_some_iff.mp ends
  obtain ⟨fuel, ran'⟩ := inert (machineOf "") "#" "[puts hi]" _ (by decide) rfl rfl (by decide) read
  obtain ⟨rfl, rfl⟩ := evaluateText_unique ran ran'
  exact absurd (congrArg Prod.snd written) (by decide)

end Machine

end CommandScript
