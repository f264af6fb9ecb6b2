import CommandScript.Proofs.Runner.Loading

/-! The assertion of the standard library. Its two values stand in quoted words of its own, so they
are expanded once more: references in them are left alone, but scripts in brackets are run. Values
without such scripts are compared and reported as they are. -/

namespace CommandScript

namespace Expansion

theorem substitute_reference {value : String → Option String} {name text : String}
    (bound : value name = some text) (isName : IsName name.toList) {rest : List Char}
    (ends : ∀ c ∈ rest.head?, isNameChar c = false) :
    substitute value ('$' :: name.toList ++ rest) = text.toList ++ substitute value rest := by
  have fits : (Fragment.bare name.toList).Fits rest := ⟨isName, ends⟩
  obtain ⟨c, chars, whole, read⟩ := fits.exists_first
  have spelled : '$' :: name.toList ++ rest = c :: chars := whole
  rw [spelled, substitute_cons, read, Fragment.meaning, valueOrEmpty, String.ofList_toList, bound,
    Option.getD_some]

theorem substituteText_reference {value : String → Option String} {name literal text : String}
    (bound : value name = some text) (isName : IsName name.toList)
    (spelled : literal.toList = '$' :: name.toList) : substituteText value literal = text := by
  have replaced := @substitute_reference value name text bound isName [] nofun
  rw [List.append_nil, substitute, List.append_nil] at replaced
  rw [substituteText, spelled, replaced, String.ofList_toList]

end Expansion

namespace Moment

variable {c : Moment} {waiting : List Activation} {s : State}

/-- A script that stood in brackets is about to be run. -/
def RunsBracket (c : Moment) : Prop :=
  match c.task, c.waiting with
  | .text _, .bracket .. :: _ => True
  | _, _ => False

/-- Steps that run no script in brackets. -/
abbrev Plainly : Moment → Moment → Prop := Through fun c => ¬ c.RunsBracket

theorem RunsBracket.evaluates (runs : c.RunsBracket) : c.Evaluates := by
  obtain ⟨task, waiting, s⟩ := c
  cases task with
  | text => trivial
  | _ => exact runs.elim

theorem Quietly.plainly {c' : Moment} (path : Quietly c c') : Plainly c c' :=
  path.mono fun _ quiet runs => quiet runs.evaluates

/-- A closer behind an opener is reached, and then the text between them is run. -/
theorem reaches_runsBracket {rest : List Char} (current : List Char) {opened : List (List Char)}
    (closes : opened ≠ [] ∧ ']' ∈ rest ∨ ['[', ']'].Sublist rest) :
    ∃ c, Reaches ⟨.brackets current opened rest, waiting, s⟩ c ∧ c.RunsBracket := by
  induction rest generalizing current opened with
  | nil =>
      rcases closes with ⟨_, member⟩ | pair
      · cases member
      · cases pair
  | cons c rest ih =>
      by_cases opens : c = '['
      · subst opens
        have closer : ']' ∈ rest := by
          rcases closes with ⟨_, member⟩ | pair
          · exact (List.mem_cons.mp member).resolve_left (by decide)
          · exact List.singleton_sublist.mp (List.cons_sublist_cons.mp pair)
        obtain ⟨c', reached, runs⟩ := ih [] (.inl ⟨List.cons_ne_nil current opened, closer⟩)
        exact ⟨c', .head rfl reached, runs⟩
      by_cases closer : c = ']'
      · subst closer
        cases opened with
        | cons before outer => exact ⟨_, .single rfl, trivial⟩
        | nil =>
            have pair : ['[', ']'].Sublist rest := by
              rcases closes with ⟨pending, _⟩ | pair
              · exact absurd rfl pending
              · exact .of_cons_of_ne (by decide) pair
            obtain ⟨c', reached, runs⟩ := ih (']' :: current) (.inr pair)
            exact ⟨c', .head rfl reached, runs⟩
      · have closes' : opened ≠ [] ∧ ']' ∈ rest ∨ ['[', ']'].Sublist rest := by
          rcases closes with ⟨pending, member⟩ | pair
          · exact .inl ⟨pending, (List.mem_cons.mp member).resolve_left (Ne.symm closer)⟩
          · exact .inr (.of_cons_of_ne (Ne.symm opens) pair)
        obtain ⟨c', reached, runs⟩ := ih (c :: current) closes'
        refine ⟨c', .head ?_ reached, runs⟩
        simp only [next?, Task.advance, Task.scan, if_neg opens, if_neg closer, List.nil_append,
          Option.mem_def]

/-- A quoted argument that has a script in brackets when its references are replaced has it run. -/
theorem argument_runsBracket {literal : String}
    (pair : ['[', ']'].Sublist (Expansion.substituteText s.valueOf? literal).toList)
    (head : Token) (name : String) (done : List String) (line : Nat) (rest : List Token) :
    ∃ c, Reaches ⟨.arguments head name done (⟨.text, literal, line⟩ :: rest), waiting, s⟩ c ∧
      c.RunsBracket := by
  obtain ⟨c, reached, runs⟩ := @reaches_runsBracket
    (.commandArgument head name done rest :: waiting) s _ [] [] (.inr pair)
  exact ⟨c, .head rfl (.head rfl reached), runs⟩

theorem plainly_first (running : s.checkInterrupt = .ok ()) (last : Option String) (name : String)
    (line : Nat) (tokens : List Token) (rest : Program) :
    Plainly ⟨.commands last (⟨⟨.word, name, line⟩, tokens⟩ :: rest), waiting, s⟩
      ⟨.arguments ⟨.word, name, line⟩ name [] tokens, .sequence last rest :: waiting, s⟩ := by
  have first : next? ⟨.commands last (⟨⟨.word, name, line⟩, tokens⟩ :: rest), waiting, s⟩ =
      some ⟨.command ⟨⟨.word, name, line⟩, tokens⟩, .sequence last rest :: waiting, s⟩ := by
    simp only [next?, Task.advance, running]
    rfl
  exact .head ⟨first, id⟩ (.single ⟨rfl, id⟩)

/-- A program enters a level and comes to the arguments of its first command. -/
theorem plainly_program (running : s.checkInterrupt = .ok ()) (shallow : s.depth < s.maxDepth)
    (name : String) (line : Nat) (tokens : List Token) (rest : Program) :
    Plainly ⟨.program (⟨⟨.word, name, line⟩, tokens⟩ :: rest), waiting, s⟩
      ⟨.arguments ⟨.word, name, line⟩ name [] tokens, .sequence none rest :: .level :: waiting,
        { s with depth := s.depth + 1 }⟩ := by
  have running' : State.checkInterrupt { s with depth := s.depth + 1 } = .ok () := running
  exact .head ⟨if_neg (Nat.not_le.mpr shallow), id⟩
    (plainly_first running' none name line tokens rest)

theorem next_of_parse {text : String} {program : Program}
    (read : Program.parse text = .ok program) :
    next? ⟨.text text, waiting, s⟩ = some ⟨.program program, waiting, s⟩ := by
  simp only [next?, Task.advance, read]
  rfl

theorem next_of_builtin {name : String} {builtin : Builtin}
    (found : s.builtins.get? name = some builtin) (head : Token) (args : List String) :
    next? ⟨.dispatch head name args, waiting, s⟩ =
      some ⟨.invoke builtin args, .builtin name :: waiting, s⟩ := by
  simp only [next?, Task.advance, Task.lookup, found]
  rfl

/-- Arguments that hand over their texts without any evaluation come to the builtin. -/
theorem plainly_builtin {tokens : List Token} {values : List String} {name : String}
    {builtin : Builtin} (found : s.builtins.get? name = some builtin)
    (denotes : List.Forall₂ (Token.Denotes s) tokens values) (head : Token) (done : List String) :
    Plainly ⟨.arguments head name done tokens, waiting, s⟩
      ⟨.invoke builtin (done ++ values), .builtin name :: waiting, s⟩ :=
  .tail (quietly_arguments denotes head name done).plainly ⟨next_of_builtin found head _, id⟩

end Moment

namespace Runner

open Moment

def assertionLine (got expected : String) : String :=
  "assertion failed: got '" ++ got ++ "', expected '" ++ expected ++ "'"

def testTokens : List Token := [⟨.text, "$got", 1⟩, ⟨.word, "ne", 1⟩, ⟨.text, "$expected", 1⟩]

def reportTokens : List Token :=
  [⟨.text, "assertion failed: got '$got', expected '$expected'", 2⟩]

def exitCommand : Command := ⟨⟨.word, "exit", 3⟩, [⟨.number, "1", 3⟩]⟩

theorem parse_testText : Program.parse testText = .ok [⟨⟨.word, "expr", 1⟩, testTokens⟩] :=
  Program.parse_ofList (by decide +kernel)

theorem parse_reportText :
    Program.parse reportText = .ok [⟨⟨.word, "puts", 2⟩, reportTokens⟩, exitCommand] :=
  Program.parse_ofList (by decide +kernel)

/-- A state inside of the assertion, some levels down. -/
def asserting (s : State) (got expected : String) (levels : Nat) : State :=
  { s with
    scopes := Machine.bindParams s.scopes.push ["got", "expected"] [got, expected]
    depth := s.depth + levels }

theorem valueOf?_asserting (s : State) (got expected : String) (levels : Nat) :
    (asserting s got expected levels).valueOf? "got" = some got ∧
      (asserting s got expected levels).valueOf? "expected" = some expected :=
  ⟨rfl, rfl⟩

def bodyWaiting : List Activation := [.sequence none [lastCommand], .level, .procedure]

def testWaiting : List Activation := .branchTest reportText none :: .builtin "if" :: bodyWaiting

def reportWaiting : List Activation := .level :: .builtin "if" :: bodyWaiting

def calling (s : State) (head : Token) (got expected : String) : Moment :=
  ⟨.dispatch head "assert_equal" [got, expected], [], s⟩

/-- The arguments of the comparison are to be expanded. -/
def comparing (s : State) (got expected : String) : Moment :=
  ⟨.arguments ⟨.word, "expr", 1⟩ "expr" [] testTokens, .sequence none [] :: .level :: testWaiting,
    asserting s got expected 2⟩

def compared (s : State) (got expected : String) : Moment :=
  ⟨.answer (.ok (truthText (got != expected))), testWaiting, asserting s got expected 1⟩

def reporting (s : State) (got expected : String) : Moment :=
  ⟨.arguments ⟨.word, "puts", 2⟩ "puts" [] reportTokens,
    .sequence none [exitCommand] :: reportWaiting, asserting s got expected 2⟩

/-- The machine can run the assertion. -/
structure CanAssert (s : State) : Prop where
  standard : s.builtins = Builtin.standard
  loaded : s.procedures.get? "assert_equal" = some assertion
  running : s.checkInterrupt = .ok ()
  room : s.depth + 2 ≤ s.maxDepth

variable {s : State} {got expected : String}

theorem CanAssert.builtin (ready : CanAssert s) {name : String} {builtin : Builtin} {levels : Nat}
    (found : Builtin.standard.get? name = some builtin) :
    (asserting s got expected levels).builtins.get? name = some builtin := by
  rw [asserting, ready.standard, found]

theorem CanAssert.runs (ready : CanAssert s) (levels : Nat) :
    (asserting s got expected levels).checkInterrupt = .ok () :=
  ready.running

theorem CanAssert.shallow (ready : CanAssert s) {levels : Nat} (few : levels < 2) :
    (asserting s got expected levels).depth < (asserting s got expected levels).maxDepth :=
  Nat.lt_of_lt_of_le (Nat.add_lt_add_left few s.depth) ready.room

theorem plainly_test (ready : CanAssert s) (head : Token) :
    Plainly (calling s head got expected) (comparing s got expected) := by
  have found : next? (calling s head got expected) =
      some ⟨.call "assert_equal" assertion [got, expected], [], s⟩ := by
    have unshadowed : s.builtins.get? "assert_equal" = none := by
      rw [ready.standard]
      rfl
    simp only [calling, next?, Task.advance, Task.lookup, unshadowed, ready.loaded]
    rfl
  have body : Plainly ⟨.program assertion.program, [.procedure], asserting s got expected 0⟩
      ⟨.arguments ⟨.word, "if", 2⟩ "if" [] [⟨.block, testText, 2⟩, ⟨.block, reportText, 2⟩],
        bodyWaiting, asserting s got expected 1⟩ :=
    plainly_program (ready.runs 0) (ready.shallow (by decide)) "if" 2 _ _
  have branch : Plainly
      ⟨.arguments ⟨.word, "if", 2⟩ "if" [] [⟨.block, testText, 2⟩, ⟨.block, reportText, 2⟩],
        bodyWaiting, asserting s got expected 1⟩
      ⟨.invoke .ifElse [testText, reportText], .builtin "if" :: bodyWaiting,
        asserting s got expected 1⟩ :=
    plainly_builtin (ready.builtin rfl) (.cons .block (.cons .block .nil)) _ []
  have test : Plainly ⟨.program [⟨⟨.word, "expr", 1⟩, testTokens⟩], testWaiting,
        asserting s got expected 1⟩
      (comparing s got expected) :=
    plainly_program (ready.runs 1) (ready.shallow (by decide)) "expr" 1 _ _
  exact .head ⟨found, id⟩ (.head ⟨rfl, id⟩ (.trans body (.trans branch
    (.head ⟨rfl, id⟩ (.head ⟨next_of_parse parse_testText, id⟩ test)))))

theorem substituted_values (s : State) (got expected : String) (levels : Nat) :
    Expansion.substituteText (asserting s got expected levels).valueOf? "$got" = got ∧
      Expansion.substituteText (asserting s got expected levels).valueOf? "$expected" =
        expected := by
  obtain ⟨first, second⟩ := valueOf?_asserting s got expected levels
  exact ⟨Expansion.substituteText_reference first (by decide) (by decide),
    Expansion.substituteText_reference second (by decide) (by decide)⟩

theorem substituted_line (s : State) (got expected : String) (levels : Nat) :
    Expansion.substituteText (asserting s got expected levels).valueOf?
      "assertion failed: got '$got', expected '$expected'" = assertionLine got expected := by
  obtain ⟨first, second⟩ := valueOf?_asserting s got expected levels
  have spelled : "assertion failed: got '$got', expected '$expected'".toList =
      "assertion failed: got '".toList ++ ('$' :: "got".toList ++ ('\x27' ::
        ", expected '".toList ++ ('$' :: "expected".toList ++ ['\x27']))) := by decide +kernel
  have opened : '$' ∉ "assertion failed: got '".toList := by decide
  have between : '$' ∉ '\x27' :: ", expected '".toList := by decide
  have closed : '$' ∉ ['\x27'] := by decide
  have ends : ∀ {rest : List Char}, rest.head? = some '\x27' →
      ∀ c ∈ rest.head?, Expansion.isNameChar c = false := by
    rintro rest quote c found
    rw [quote] at found
    cases found
    rfl
  apply String.toList_inj.mp
  rw [Expansion.substituteText, String.toList_ofList, spelled,
    Expansion.substitute_append_of_not_mem opened,
    Expansion.substitute_reference first (by decide) (ends rfl),
    Expansion.substitute_append_of_not_mem between,
    Expansion.substitute_reference second (by decide) (ends rfl),
    Expansion.substitute_of_not_mem closed]
  unfold assertionLine
  have joint : "', expected '".toList = '\x27' :: ", expected '".toList := by decide +kernel
  have quote : "'".toList = ['\x27'] := by decide +kernel
  simp only [String.toList_append, List.append_assoc, List.cons_append, joint, quote]

theorem pair_iff_filter {text : List Char} : ['[', ']'].Sublist text ↔
    ['[', ']'].Sublist (text.filter fun c => c = '[' ∨ c = ']') :=
  ⟨fun pair => pair.filter fun c => c = '[' ∨ c = ']', fun pair => pair.trans List.filter_sublist⟩

theorem pair_assertionLine_iff : ['[', ']'].Sublist (assertionLine got expected).toList ↔
    ['[', ']'].Sublist (got ++ expected).toList := by
  have opened : "assertion failed: got '".toList.filter (fun c => c = '[' ∨ c = ']') = [] := by
    decide +kernel
  have between : "', expected '".toList.filter (fun c => c = '[' ∨ c = ']') = [] := by
    decide +kernel
  have closed : "'".toList.filter (fun c => c = '[' ∨ c = ']') = [] := by decide +kernel
  rw [pair_iff_filter, @pair_iff_filter (got ++ expected).toList]
  unfold assertionLine
  simp only [String.toList_append, List.filter_append, opened, between, closed, List.nil_append,
    List.append_nil]

theorem plainly_compare (ready : CanAssert s) (apart : ¬ ['[', ']'].Sublist got.toList)
    (apart' : ¬ ['[', ']'].Sublist expected.toList) :
    Plainly (comparing s got expected) (compared s got expected) := by
  obtain ⟨first, second⟩ := substituted_values s got expected 2
  have denotes : List.Forall₂ (Token.Denotes (asserting s got expected 2)) testTokens
      [got, "ne", expected] :=
    .cons (.expanded nofun first apart) (.cons (.word (by decide))
      (.cons (.expanded nofun second apart') .nil))
  have called : Plainly (comparing s got expected)
      ⟨.invoke .expression [got, "ne", expected],
        .builtin "expr" :: .sequence none [] :: .level :: testWaiting,
        asserting s got expected 2⟩ :=
    plainly_builtin (ready.builtin rfl) denotes _ []
  exact called.trans (.head ⟨rfl, id⟩ (.head ⟨rfl, id⟩ (.head ⟨rfl, id⟩ (.head ⟨rfl, id⟩
    (.single ⟨rfl, id⟩)))))

theorem plainly_return (ready : CanAssert s) (same : got = expected) :
    Plainly (compared s got expected) ⟨.answer (.ok "1"), [], s⟩ := by
  have result : compared s got expected =
      ⟨.answer (.ok "0"), testWaiting, asserting s got expected 1⟩ := by
    rw [compared, same, bne_self_eq_false]
    rfl
  have one : Token.Denotes (asserting s got expected 1) ⟨.number, "1", 6⟩ "1" :=
    .plain rfl
  have command : Plainly
      ⟨.commands (some "") [lastCommand], [.level, .procedure], asserting s got expected 1⟩
      ⟨.arguments ⟨.word, "return", 6⟩ "return" [] [⟨.number, "1", 6⟩],
        [.sequence (some "") [], .level, .procedure], asserting s got expected 1⟩ :=
    plainly_first (ready.runs 1) (some "") "return" 6 _ []
  have called : Plainly ⟨.arguments ⟨.word, "return", 6⟩ "return" [] [⟨.number, "1", 6⟩],
        [.sequence (some "") [], .level, .procedure], asserting s got expected 1⟩
      ⟨.invoke .returnValue ["1"], [.builtin "return", .sequence (some "") [], .level, .procedure],
        asserting s got expected 1⟩ :=
    plainly_builtin (ready.builtin rfl) (.cons one .nil) _ []
  have left : Plainly ⟨.invoke .returnValue ["1"],
        [.builtin "return", .sequence (some "") [], .level, .procedure],
        asserting s got expected 1⟩ ⟨.answer (.ok "1"), [], s⟩ :=
    .head ⟨rfl, id⟩ (.head ⟨rfl, id⟩ (.head ⟨rfl, id⟩ (.head ⟨rfl, id⟩ (.single ⟨rfl, id⟩))))
  rw [result]
  exact .head ⟨rfl, id⟩ (.head ⟨rfl, id⟩ (.head ⟨rfl, id⟩ (.trans command (.trans called left))))

theorem plainly_report (ready : CanAssert s) (differ : got ≠ expected) :
    Plainly (compared s got expected) (reporting s got expected) := by
  have result : compared s got expected =
      ⟨.answer (.ok "1"), testWaiting, asserting s got expected 1⟩ := by
    rw [compared, bne_iff_ne.mpr differ]
    rfl
  have report : Plainly ⟨.program [⟨⟨.word, "puts", 2⟩, reportTokens⟩, exitCommand],
        .builtin "if" :: bodyWaiting, asserting s got expected 1⟩ (reporting s got expected) :=
    plainly_program (ready.runs 1) (ready.shallow (by decide)) "puts" 2 _ _
  rw [result]
  exact .head ⟨rfl, id⟩ (.head ⟨next_of_parse parse_reportText, id⟩ report)

def written (s : State) (line : String) : State :=
  { s with output := { s.output with lines := s.output.lines.push line } }

theorem writeLine_of_captured (captured : s.output.sink = .capture) (line : String) :
    s.writeLine line = .ok (written s line) := by
  unfold State.writeLine Output.writeLine
  split
  · next failing =>
      rw [captured] at failing
      cases failing
  · rfl

/-- Values without a script in brackets across them are reported as they are. -/
theorem plainly_exit (ready : CanAssert s) (captured : s.output.sink = .capture)
    (apart : ¬ ['[', ']'].Sublist (got ++ expected).toList) :
    Plainly (reporting s got expected)
      ⟨.answer (.error (.exited "1")), [], written s (assertionLine got expected)⟩ := by
  let line := assertionLine got expected
  let reported := written (asserting s got expected 2) line
  have denotes : List.Forall₂ (Token.Denotes (asserting s got expected 2)) reportTokens [line] :=
    .cons (.expanded nofun (substituted_line s got expected 2)
      (mt pair_assertionLine_iff.mp apart)) .nil
  have called : Plainly (reporting s got expected)
      ⟨.invoke .putLine [line], .builtin "puts" :: .sequence none [exitCommand] :: reportWaiting,
        asserting s got expected 2⟩ :=
    plainly_builtin (ready.builtin rfl) denotes _ []
  have wrote : next? ⟨.invoke .putLine [line],
        .builtin "puts" :: .sequence none [exitCommand] :: reportWaiting,
        asserting s got expected 2⟩ =
      some ⟨.answer (.ok line), .builtin "puts" :: .sequence none [exitCommand] :: reportWaiting,
        reported⟩ := by
    have captured' : (asserting s got expected 2).output.sink = .capture := captured
    have taken : (asserting s got expected 2).writeLine line = .ok reported :=
      writeLine_of_captured captured' line
    simp only [next?, Builtin.opening?, Machine.invoke, Machine.putLine, Eval.bind_apply,
      Eval.writeLine, taken]
    rfl
  have running : reported.checkInterrupt = .ok () := ready.running
  have found : reported.builtins.get? "exit" = some .exitScript := by
    have standard : reported.builtins = Builtin.standard := ready.standard
    rw [standard]
    rfl
  have command : Plainly ⟨.commands (some line) [exitCommand], reportWaiting, reported⟩
      ⟨.arguments ⟨.word, "exit", 3⟩ "exit" [] [⟨.number, "1", 3⟩],
        .sequence (some line) [] :: reportWaiting, reported⟩ :=
    plainly_first running (some line) "exit" 3 _ []
  have one : Token.Denotes reported ⟨.number, "1", 3⟩ "1" := .plain rfl
  have exits : Plainly ⟨.arguments ⟨.word, "exit", 3⟩ "exit" [] [⟨.number, "1", 3⟩],
        .sequence (some line) [] :: reportWaiting, reported⟩
      ⟨.invoke .exitScript ["1"], .builtin "exit" :: .sequence (some line) [] :: reportWaiting,
        reported⟩ :=
    plainly_builtin found (.cons one .nil) _ []
  -- The signal passes through the level, the builtin and the call.
  have left : Plainly ⟨.invoke .exitScript ["1"],
        .builtin "exit" :: .sequence (some line) [] :: reportWaiting, reported⟩
      ⟨.answer (.error (.exited "1")), [], written s line⟩ :=
    .head ⟨rfl, id⟩ (.head ⟨rfl, id⟩ (.head ⟨rfl, id⟩ (.head ⟨rfl, id⟩ (.head ⟨rfl, id⟩
      (.head ⟨rfl, id⟩ (.head ⟨rfl, id⟩ (.single ⟨rfl, id⟩)))))))
  exact .trans called (.head ⟨wrote, id⟩ (.head ⟨rfl, id⟩ (.head ⟨rfl, id⟩
    (.trans command (.trans exits left)))))

/-- What the assertion expands of its values: one of them if they are equal, and else one behind the
other, as in the report. -/
def shownTogether (got expected : String) : String :=
  if got = expected then got else got ++ expected

/-- The values have no closer behind an opener. -/
def HaveNoScript (got expected : String) : Prop :=
  ¬ ['[', ']'].Sublist (shownTogether got expected).toList

instance : Decidable (HaveNoScript got expected) :=
  inferInstanceAs (Decidable (¬ _))

theorem reaches_script (ready : CanAssert s) (head : Token)
    (script : ¬ HaveNoScript got expected) :
    ∃ c, Reaches (calling s head got expected) c ∧ c.RunsBracket := by
  have opened : Reaches (calling s head got expected) (comparing s got expected) :=
    (plainly_test ready head).reaches
  obtain ⟨first, second⟩ := substituted_values s got expected 2
  by_cases inGot : ['[', ']'].Sublist got.toList
  · rw [← first] at inGot
    obtain ⟨c, reached, runs⟩ : ∃ c, Reaches (comparing s got expected) c ∧ c.RunsBracket :=
      argument_runsBracket inGot _ _ [] 1 _
    exact ⟨c, .trans opened reached, runs⟩
  by_cases inExpected : ['[', ']'].Sublist expected.toList
  · let beforeLast : Moment := ⟨.arguments ⟨.word, "expr", 1⟩ "expr" [got, "ne"]
        [⟨.text, "$expected", 1⟩], .sequence none [] :: .level :: testWaiting,
      asserting s got expected 2⟩
    have denotes : Token.Denotes (asserting s got expected 2) ⟨.text, "$got", 1⟩ got :=
      .expanded nofun first inGot
    have passed : Quietly (comparing s got expected) beforeLast :=
      .trans (quietly_argument denotes _ _ [] _) (quietly_argument (.word (by decide)) _ _ [got] _)
    rw [← second] at inExpected
    obtain ⟨c, reached, runs⟩ : ∃ c, Reaches beforeLast c ∧ c.RunsBracket :=
      argument_runsBracket inExpected _ _ [got, "ne"] 1 []
    exact ⟨c, .trans opened (.trans passed.reaches reached), runs⟩
  · have differ : got ≠ expected := by
      rintro rfl
      rw [HaveNoScript, shownTogether, if_pos rfl] at script
      exact script inGot
    have pair : ['[', ']'].Sublist (Expansion.substituteText
        (asserting s got expected 2).valueOf?
        "assertion failed: got '$got', expected '$expected'").toList := by
      rw [HaveNoScript, shownTogether, if_neg differ, not_not] at script
      rw [substituted_line]
      exact pair_assertionLine_iff.mpr script
    have reported : Reaches (comparing s got expected) (reporting s got expected) :=
      .trans (plainly_compare ready inGot inExpected).reaches (plainly_report ready differ).reaches
    obtain ⟨c, reached, runs⟩ : ∃ c, Reaches (reporting s got expected) c ∧ c.RunsBracket :=
      argument_runsBracket pair _ _ [] 2 _
    exact ⟨c, .trans opened (.trans reported reached), runs⟩

/-- What the comparison of two texts is to end with. -/
def verdict (s : State) (got expected : String) : Except Signal String × State :=
  if got = expected then (.ok "1", s)
  else (.error (.exited "1"), written s (assertionLine got expected))

/-- Values without a script in brackets are compared and reported as they are. -/
theorem plainly_verdict (ready : CanAssert s) (captured : s.output.sink = .capture)
    (head : Token) (apart : HaveNoScript got expected) :
    Plainly (calling s head got expected)
      ⟨.answer (verdict s got expected).1, [], (verdict s got expected).2⟩ := by
  have opened : Plainly (calling s head got expected) (comparing s got expected) :=
    plainly_test ready head
  unfold HaveNoScript shownTogether at apart
  unfold verdict
  split at apart
  · next same =>
      have compared : Plainly (comparing s got expected) (compared s got expected) :=
        plainly_compare ready apart (same ▸ apart)
      rw [if_pos same]
      exact .trans opened (.trans compared (plainly_return ready same))
  · next differ =>
      rw [String.toList_append] at apart
      have compared : Plainly (comparing s got expected) (compared s got expected) :=
        plainly_compare ready (fun pair => apart (pair.trans (List.sublist_append_left _ _)))
          fun pair => apart (pair.trans (List.sublist_append_right _ _))
      rw [← String.toList_append] at apart
      rw [if_neg differ]
      exact .trans opened (.trans compared (.trans (plainly_report ready differ)
        (plainly_exit ready captured apart)))

theorem assertion_performs (head : Token) (args : List String) (fuel : Nat) :
    (Task.dispatch head "assert_equal" args).Performs fuel
      (Machine.dispatch fuel (Machine.run fuel) head "assert_equal" args) :=
  Task.dispatch_performs head "assert_equal" args
    (fun builtin => Task.invoke_performs (Task.program_performs fuel) builtin args)
    fun procedure => Task.call_performs (Task.program_performs fuel) "assert_equal" procedure args

/-- A call of the assertion runs no script in brackets exactly if its values have none. Then it ends
with any fuel from some amount on, and equal values leave the machine as it was, while different
values are written as they are and end the script with status 1. -/
theorem assertion_compares_texts_iff (standard : s.builtins = Builtin.standard)
    (loaded : s.procedures.get? "assert_equal" = some assertion)
    (running : s.checkInterrupt = .ok ()) (room : s.depth + 2 ≤ s.maxDepth)
    (captured : s.output.sink = .capture) (head : Token) (got expected : String) :
    ((∀ c, Reaches (calling s head got expected) c → ¬ c.RunsBracket) ↔
      HaveNoScript got expected) ∧
    (HaveNoScript got expected → ∃ least, ∀ fuel, least ≤ fuel →
      Machine.dispatch fuel (Machine.run fuel) head "assert_equal" [got, expected] s =
        some (verdict s got expected)) := by
  have ready : CanAssert s := ⟨standard, loaded, running, room⟩
  refine ⟨⟨fun plain => ?_, fun apart => ?_⟩, fun apart => ?_⟩
  · by_contra script
    obtain ⟨c, reached, runs⟩ := reaches_script ready head script
    exact plain c reached runs
  · intro c reached
    exact (plainly_verdict ready captured head apart).holds rfl id reached
  · have path := (plainly_verdict ready captured head apart).reaches
    exact Task.eventually_of_reaches (assertion_performs head [got, expected]) path

/-- A machine that captures its output and has a variable under the name of a parameter. -/
def capturingMachine : State :=
  { program := [], builtins := Builtin.standard, output := { sink := .capture }
    scopes := .globals ⟨[("got", "[puts got]")]⟩ }

/-- Values with every special character, but no closer behind an opener. -/
theorem awkward_values_are_compared :
    ∃ s, Machine.evaluateSource 1 standardLibrary capturingMachine = some (.ok (.normal ""), s) ∧
      (∃ fuel, Machine.dispatch fuel (Machine.run fuel) ⟨.word, "assert_equal", 1⟩ "assert_equal"
        ["]$got\x7b\";\\[", "$expected\x7d\n#["] s = some (.error (.exited "1"),
          written s "assertion failed: got ']$got\x7b\";\\[', expected '$expected\x7d\n#['")) ∧
      ∃ fuel, Machine.dispatch fuel (Machine.run fuel) ⟨.word, "assert_equal", 1⟩ "assert_equal"
        ["]$got\x7b\";\\[", "]$got\x7b\";\\["] s = some (.ok "1", s) := by
  obtain ⟨table, loaded, loads⟩ := @library_loads capturingMachine rfl rfl (by decide)
  let s := { capturingMachine with commandsSealed := true, procedures := table }
  have room : capturingMachine.depth + 2 ≤ capturingMachine.maxDepth := by decide
  have compares := @assertion_compares_texts_iff s rfl loaded rfl room rfl
    ⟨.word, "assert_equal", 1⟩
  refine ⟨s, loads 0, ?_, ?_⟩
  · obtain ⟨fuel, ends⟩ := (compares "]$got\x7b\";\\[" "$expected\x7d\n#[").2 (by decide +kernel)
    exact ⟨fuel, ends fuel (Nat.le_refl fuel)⟩
  · obtain ⟨fuel, ends⟩ := (compares "]$got\x7b\";\\[" "]$got\x7b\";\\[").2 (by decide +kernel)
    exact ⟨fuel, ends fuel (Nat.le_refl fuel)⟩

/-- A value is run as a script, and its result is compared. -/
theorem value_is_run_as_script :
    ((Machine.dispatch 4 (Machine.run 4) ⟨.word, "assert_equal", 1⟩ "assert_equal"
        ["[puts hi]", "hi"]
        { capturingMachine with procedures := ⟨[("assert_equal", assertion)]⟩ }).map fun ended =>
      (ended.1.toOption, ended.2.output.lines)) = some (some "1", #["hi"]) ∧
    ¬ ∀ s head got expected, s.builtins = Builtin.standard →
      s.procedures.get? "assert_equal" = some assertion → s.checkInterrupt = .ok () →
      s.depth = 0 → s.maxDepth = 1000 → s.output.sink = .capture →
      ∃ fuel, Machine.dispatch fuel (Machine.run fuel) head "assert_equal" [got, expected] s =
        some (verdict s got expected) := by
  let s := { capturingMachine with procedures := ⟨[("assert_equal", assertion)]⟩ }
  let head : Token := ⟨.word, "assert_equal", 1⟩
  have ends : ((Machine.dispatch 4 (Machine.run 4) head "assert_equal" ["[puts hi]", "hi"] s).map
      fun ended => (ended.1.toOption, ended.2.output.lines)) = some (some "1", #["hi"]) := by
    decide +kernel
  refine ⟨ends, fun compares => ?_⟩
  obtain ⟨⟨r, t⟩, ran, result⟩ := Option.map_eq_some_iff.mp ends
  have compared := compares s head "[puts hi]" "hi" rfl rfl rfl rfl rfl rfl
  have reached := (Task.ends_iff_reaches (assertion_performs head _)).mp ⟨4, ran⟩
  have reached' := (Task.ends_iff_reaches (assertion_performs head _)).mp compared
  have same : r = .error (.exited "1") :=
    Task.answer.inj (congrArg Moment.task (reached.end_unique reached' rfl rfl))
  subst same
  cases congrArg Prod.fst result

end Runner

end CommandScript
