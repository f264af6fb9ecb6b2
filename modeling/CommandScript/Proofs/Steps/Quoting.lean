import CommandScript.Proofs.Expansion.References
import CommandScript.Proofs.Reading.Respelling
import CommandScript.Proofs.Steps.Script

namespace CommandScript

namespace Expansion

/-- A text with every dollar sign twice. -/
def doubled (text : List Char) : List Char :=
  text.flatMap fun c => if c = '$' then ['$', '$'] else [c]

/-- Substitution takes a doubled dollar sign for one and looks up no name behind it. -/
theorem substitute_doubled (value : String → Option String) (text : List Char) :
    substitute value (doubled text) = text := by
  induction text with
  | nil => rw [doubled, List.flatMap_nil, substitute]
  | cons c text ih =>
      have split : doubled (c :: text) = (if c = '$' then ['$', '$'] else [c]) ++ doubled text :=
        List.flatMap_cons
      rw [split]
      by_cases dollar : c = '$'
      · subst dollar
        exact (substitute_cons value '$' _).trans (congrArg (List.cons '$') ih)
      · have plain : '$' ∉ [c] := fun member => dollar (List.mem_singleton.mp member).symm
        rw [if_neg dollar, substitute_append_of_not_mem plain, ih, List.singleton_append]

theorem reopen_cons (c : Char) (current : List Char) (opened : List (List Char)) :
    reopen (c :: current) opened = c :: reopen current opened :=
  reopen_append [c] current opened

end Expansion

/-- A text for use in quotes: every dollar sign is doubled, and a backslash stands before every
quote and backslash. -/
def quote (text : String) : String :=
  String.ofList <| text.toList.flatMap fun c =>
    if c = '$' then ['$', '$'] else if c = '\\' ∨ c = '"' then ['\\', c] else [c]

theorem toList_quote (text : String) :
    (quote text).toList = Lexeme.escape (Expansion.doubled text.toList) := by
  rw [quote, String.toList_ofList, Lexeme.escape, Expansion.doubled, List.flatMap_assoc]
  refine congrArg (List.flatMap · text.toList) (funext fun c => ?_)
  by_cases dollar : c = '$'
  · subst dollar
    rfl
  · rw [if_neg dollar, if_neg dollar, List.flatMap_singleton]

/-- What a token hands to a command without any evaluation: the text of a block as it is, and any
other with the values of its variables, if no script in brackets is left in it. -/
inductive Token.Denotes (s : State) : Token → String → Prop
  | block {literal line} : Denotes s ⟨.block, literal, line⟩ literal
  | expanded {kind literal line value} (expands : kind ≠ .block)
      (substituted : Expansion.substituteText s.valueOf? literal = value)
      (apart : ¬ ['[', ']'].Sublist value.toList) : Denotes s ⟨kind, literal, line⟩ value

namespace Token

variable {s : State} {line : Nat}

theorem Denotes.text {value : String} (apart : ¬ ['[', ']'].Sublist value.toList) :
    Denotes s ⟨.text, String.ofList (Expansion.doubled value.toList), line⟩ value := by
  refine .expanded nofun ?_ apart
  rw [Expansion.substituteText, String.toList_ofList, Expansion.substitute_doubled,
    String.ofList_toList]

theorem Denotes.word {literal : String} (word : Lexeme.IsWord literal.toList) :
    Denotes s ⟨.word, literal, line⟩ literal := by
  have free : ∀ c, Lexeme.isWordChar c = false → c ∉ literal.toList := by
    intro c other member
    rw [word.chars c member] at other
    cases other
  refine .expanded nofun ?_ fun bracketed => free '[' rfl (bracketed.subset (.head _))
  rw [Expansion.substituteText, Expansion.substitute_of_not_mem (free '$' rfl),
    String.ofList_toList]

end Token

/-- The machine has its own assignment and can run a script. -/
structure State.CanAssign (s : State) : Prop where
  command : s.builtins.get? "set" = some .set
  running : s.checkInterrupt = .ok ()
  shallow : s.depth < s.maxDepth

namespace Moment

variable {c c' last : Moment} {P : Moment → Prop} {waiting : List Activation} {s : State}

/-- The moments at which something is evaluated for a part of a script: a text, a builtin, a
procedure, a request of a host, or a program that something waits for. -/
def Evaluates (c : Moment) : Prop :=
  match c.task with
  | .text _ | .invoke .. | .call .. | .host _ => True
  | .program _ => c.waiting ≠ []
  | _ => False

/-- Steps after each of which something holds. -/
def Through (P : Moment → Prop) : Moment → Moment → Prop :=
  Relation.ReflTransGen fun c c' => c.next? = some c' ∧ P c'

theorem Through.reaches (path : Through P c c') : Reaches c c' :=
  Relation.ReflTransGen.mono (fun _ _ stepped => stepped.1) c c' path

theorem Through.mono {Q : Moment → Prop} (weaker : ∀ c, P c → Q c) (path : Through P c c') :
    Through Q c c' :=
  Relation.ReflTransGen.mono (fun _ _ stepped => ⟨stepped.1, weaker _ stepped.2⟩) c c' path

theorem Through.holds (path : Through P c last) (ended : last.next? = none) (first : P c)
    (reached : Reaches c c') : P c' := by
  induction path using Relation.ReflTransGen.head_induction_on with
  | refl =>
      rcases Relation.ReflTransGen.cases_head reached with same | ⟨following, stepped, _⟩
      · exact same ▸ first
      · rw [Option.mem_def, ended] at stepped
        cases stepped
  | head stepped _ ih =>
      rcases Relation.ReflTransGen.cases_head reached with same | ⟨following, stepped', further⟩
      · exact same ▸ first
      · rw [Option.mem_def, stepped.1] at stepped'
        cases stepped'
        exact ih stepped.2 further

/-- Steps that evaluate nothing. -/
abbrev Quietly : Moment → Moment → Prop := Through fun c => ¬ c.Evaluates

/-- A text is gone through as it is if no opener in it has a closer behind it. -/
theorem quietly_brackets {rest : List Char} (apart : ¬ ['[', ']'].Sublist rest)
    (current : List Char) {opened : List (List Char)} (unclosed : opened ≠ [] → ']' ∉ rest) :
    Quietly ⟨.brackets current opened rest, waiting, s⟩
      ⟨.answer (.ok (String.ofList ((Expansion.reopen current opened).reverse ++ rest))), waiting,
        s⟩ := by
  induction rest generalizing current opened with
  | nil =>
      rw [List.append_nil]
      exact .single ⟨rfl, id⟩
  | cons c rest ih =>
      have apart' : ¬ ['[', ']'].Sublist rest := fun found => apart (found.cons c)
      have unclosed' : opened ≠ [] → ']' ∉ rest := fun pending member =>
        unclosed pending (.tail c member)
      -- Whatever the character, it ends up between what came before it and what follows.
      have moved : (Expansion.reopen (c :: current) opened).reverse ++ rest =
          (Expansion.reopen current opened).reverse ++ c :: rest := by
        rw [Expansion.reopen_cons, List.reverse_cons, List.append_assoc, List.singleton_append]
      rw [← moved]
      by_cases opens : c = '['
      · subst opens
        -- From here on no closer may come, since it would close this opener.
        have closed : ']' ∉ rest := fun member =>
          apart (.cons_cons '[' (List.singleton_sublist.mpr member))
        exact .head ⟨rfl, id⟩ (ih apart' [] fun _ => closed)
      by_cases closes : c = ']'
      · subst closes
        cases opened with
        | nil => exact .head ⟨rfl, id⟩ (ih apart' (']' :: current) nofun)
        | cons before outer => exact absurd (.head rest) (unclosed (List.cons_ne_nil _ _))
      · refine .head ⟨?_, id⟩ (ih apart' (c :: current) unclosed')
        simp only [next?, Task.advance, Task.scan, if_neg opens, if_neg closes, List.nil_append]

theorem quietly_word {text value : String}
    (substituted : Expansion.substituteText s.valueOf? text = value)
    (apart : ¬ ['[', ']'].Sublist value.toList) :
    Quietly ⟨.word text, waiting, s⟩ ⟨.answer (.ok value), waiting, s⟩ := by
  have begun : next? ⟨.word text, waiting, s⟩ =
      some ⟨.brackets [] [] value.toList, waiting, s⟩ := by
    rw [← substituted]
    rfl
  have scanned : Quietly ⟨.brackets [] [] value.toList, waiting, s⟩ _ :=
    quietly_brackets apart [] nofun
  rw [Expansion.reopen, List.reverse_nil, List.nil_append, String.ofList_toList] at scanned
  exact .head ⟨begun, id⟩ scanned

theorem quietly_argument {token : Token} {value : String} (denotes : token.Denotes s value)
    (head : Token) (name : String) (done : List String) (rest : List Token) :
    Quietly ⟨.arguments head name done (token :: rest), waiting, s⟩
      ⟨.arguments head name (done ++ [value]) rest, waiting, s⟩ := by
  cases denotes with
  | block => exact .single ⟨rfl, id⟩
  | @expanded kind literal line _ expands substituted apart =>
      have begun : next? ⟨.arguments head name done (⟨kind, literal, line⟩ :: rest), waiting, s⟩ =
          some ⟨.word literal, .commandArgument head name done rest :: waiting, s⟩ := by
        cases kind with
        | block => exact absurd rfl expands
        | _ => rfl
      exact .head ⟨begun, id⟩ (.tail (quietly_word substituted apart) ⟨rfl, id⟩)

theorem quietly_arguments {tokens : List Token} {values : List String}
    (denotes : List.Forall₂ (Token.Denotes s) tokens values) (head : Token) (name : String)
    (done : List String) :
    Quietly ⟨.arguments head name done tokens, waiting, s⟩
      ⟨.dispatch head name (done ++ values), waiting, s⟩ := by
  induction denotes generalizing done with
  | nil =>
      rw [List.append_nil]
      exact .single ⟨rfl, id⟩
  | @cons token value tokens values first _ ih =>
      have moved := ih (done ++ [value])
      rw [List.append_assoc, List.singleton_append] at moved
      exact .trans (quietly_argument first head name done tokens) moved

/-- A program of one command enters a level, in which the command is looked up. -/
theorem quietly_command {name : String} {tokens : List Token} {values : List String} (line : Nat)
    (running : s.checkInterrupt = .ok ()) (shallow : s.depth < s.maxDepth)
    (denotes : List.Forall₂ (Token.Denotes { s with depth := s.depth + 1 }) tokens values) :
    Quietly ⟨.program [⟨⟨.word, name, line⟩, tokens⟩], waiting, s⟩
      ⟨.dispatch ⟨.word, name, line⟩ name values, .sequence none [] :: .level :: waiting,
        { s with depth := s.depth + 1 }⟩ := by
  have level : next? ⟨.program [⟨⟨.word, name, line⟩, tokens⟩], waiting, s⟩ =
      some ⟨.commands none [⟨⟨.word, name, line⟩, tokens⟩], .level :: waiting,
        { s with depth := s.depth + 1 }⟩ := if_neg (Nat.not_le.mpr shallow)
  have first : next? ⟨.commands none [⟨⟨.word, name, line⟩, tokens⟩], .level :: waiting,
        { s with depth := s.depth + 1 }⟩ =
      some ⟨.command ⟨⟨.word, name, line⟩, tokens⟩, .sequence none [] :: .level :: waiting,
        { s with depth := s.depth + 1 }⟩ := by
    have running' : State.checkInterrupt { s with depth := s.depth + 1 } = .ok () := running
    simp only [next?, Task.advance, running']
    rfl
  refine .head ⟨level, id⟩ (.head ⟨first, id⟩ (.head ⟨rfl, id⟩ ?_))
  exact quietly_arguments denotes ⟨.word, name, line⟩ name []

/-- An assignment evaluates the builtin and nothing else. -/
theorem through_set {name value : String} {tokens : List Token} (line : Nat) (ready : s.CanAssign)
    (denotes : ∀ s, List.Forall₂ (Token.Denotes s) tokens [name, value]) :
    Through (fun c => c.Evaluates → c.task = .invoke .set [name, value])
      ⟨.program [⟨⟨.word, "set", line⟩, tokens⟩], [], s⟩
      ⟨.answer (.ok value), [], s.setVariable name value⟩ := by
  let deeper := { s with depth := s.depth + 1 }
  let outer : List Activation := [.sequence none [], .level]
  have quiet : ∀ c : Moment, ¬ c.Evaluates → c.Evaluates → c.task = .invoke .set [name, value] :=
    fun _ not evaluates => absurd evaluates not
  have entered : Quietly ⟨.program [⟨⟨.word, "set", line⟩, tokens⟩], [], s⟩
      ⟨.dispatch ⟨.word, "set", line⟩ "set" [name, value], outer, deeper⟩ :=
    quietly_command line ready.running ready.shallow (denotes deeper)
  have dispatched : next? ⟨.dispatch ⟨.word, "set", line⟩ "set" [name, value], outer, deeper⟩ =
      some ⟨.invoke .set [name, value], .builtin "set" :: outer, deeper⟩ := by
    have command : deeper.builtins.get? "set" = some .set := ready.command
    simp only [next?, Task.advance, Task.lookup, command]
    rfl
  -- The builtin ends, then the command, the program and the level.
  have assigned : Quietly ⟨.invoke .set [name, value], .builtin "set" :: outer, deeper⟩
      ⟨.answer (.ok value), [], s.setVariable name value⟩ :=
    .head ⟨rfl, id⟩ (.head ⟨rfl, id⟩ (.head ⟨rfl, id⟩ (.head ⟨rfl, id⟩ (.single ⟨rfl, id⟩))))
  exact Relation.ReflTransGen.trans (entered.mono quiet)
    (.head ⟨dispatched, fun _ => rfl⟩ (assigned.mono quiet))

end Moment

/-- A whole script has assigned a variable and changed nothing else. -/
structure State.Assigned (s : State) (name value : String) (s' : State) : Prop where
  bound : s'.valueOf? name = some value
  others : ∀ other, other ≠ name →
    s'.scopes.frames.map (·.get? other) = s.scopes.frames.map (·.get? other)
  rest : s' = { s with commandsSealed := true, scopes := s.scopes.set name value }

/-- A script gives a variable a value, which is its result, and evaluates nothing but that. -/
structure Script.Assigns (script : Script) (s : State) (name value : String) : Prop where
  ends : ∃ s', script.Ends s (.ok (.normal value)) s' ∧ s.Assigned name value s'
  only : ∀ c, script.Passes s c → c.Evaluates → c.task = .invoke .set [name, value]

namespace Script

open Moment

variable {s : State} {name value : String}

theorem assigns_of_denotes {script : Script} {tokens : List Token} {line : Nat}
    (read : script.program s = .ok [⟨⟨.word, "set", line⟩, tokens⟩]) (ready : s.CanAssign)
    (denotes : ∀ s, List.Forall₂ (Token.Denotes s) tokens [name, value]) :
    script.Assigns s name value := by
  have path : Through (fun c => c.Evaluates → c.task = .invoke .set [name, value])
      ⟨.program [⟨⟨.word, "set", line⟩, tokens⟩], [], { s with commandsSealed := true }⟩ _ :=
    through_set line ⟨ready.command, ready.running, ready.shallow⟩ denotes
  refine ⟨⟨_, Passes.ends ⟨_, read, path.reaches⟩, ?_⟩, ?_⟩
  · exact ⟨s.scopes.get?_set_self name value,
      fun _ distinct => s.scopes.map_get?_set_of_ne distinct value, rfl⟩
  · rintro c ⟨program, same, reached⟩
    cases read.symm.trans same
    exact path.holds rfl (fun evaluates => absurd rfl evaluates) reached

/-- The text of an assignment whose second argument is spelled from a literal. -/
def assignment (name : String) (kind : Token.Kind) (literal : String) : String :=
  "set " ++ name ++ " " ++ kind.spelling literal

theorem assignment_eq_respelling (name : String) (kind : Token.Kind) (literal : String) :
    assignment name kind literal =
      Token.respelling [⟨.word, "set", 1⟩, ⟨.word, name, 1⟩, ⟨kind, literal, 1⟩] := by
  have blank : "set " = "set" ++ " " := rfl
  simp only [assignment, Token.respelling, List.map_cons, List.map_nil, Token.spelling,
    Token.Kind.spelling, String.intercalate_cons_cons, String.intercalate_singleton, blank,
    String.append_assoc]

theorem program_assignment {kind : Token.Kind} {literal : String}
    (word : Lexeme.IsWord name.toList) (admitted : kind.Admits literal)
    (running : ∀ line, ¬ Token.isTerminator ⟨kind, literal, line⟩) (s : State) :
    ∃ line line' line'', (Script.source (assignment name kind literal)).program s =
      .ok [⟨⟨.word, "set", line⟩, [⟨.word, name, line'⟩, ⟨kind, literal, line''⟩]⟩] := by
  have spelled : ∀ token ∈ [(⟨.word, "set", 1⟩ : Token), ⟨.word, name, 1⟩, ⟨kind, literal, 1⟩],
      token.IsAdmitted := by
    have set : Lexeme.IsWord "set".toList := by decide
    simp only [List.forall_mem_cons]
    exact ⟨set, word, admitted, List.forall_mem_nil _⟩
  -- Nothing but the lines of the tokens is left open by what they are.
  obtain ⟨read, faces, parsed⟩ := Program.parse_respelling spelled
  obtain ⟨⟨_, _, line⟩, more, rfl, face, faces⟩ := List.map_eq_cons_iff.mp faces
  obtain ⟨⟨_, _, line'⟩, more, rfl, face', faces⟩ := List.map_eq_cons_iff.mp faces
  obtain ⟨⟨_, _, line''⟩, more, rfl, face'', faces⟩ := List.map_eq_cons_iff.mp faces
  cases List.map_eq_nil_iff.mp faces
  cases face
  cases face'
  cases face''
  refine ⟨line, line', line'', ?_⟩
  rw [program, assignment_eq_respelling, parsed, Program.ofTokens_of_running]
  simp only [List.forall_mem_cons]
  exact ⟨Bool.false_ne_true, Bool.false_ne_true, running line'', List.forall_mem_nil _⟩

theorem assigns_assignment {kind : Token.Kind} {literal : String} (ready : s.CanAssign)
    (word : Lexeme.IsWord name.toList) (admitted : kind.Admits literal)
    (running : ∀ line, ¬ Token.isTerminator ⟨kind, literal, line⟩)
    (denotes : ∀ s line, Token.Denotes s ⟨kind, literal, line⟩ value) :
    (Script.source (assignment name kind literal)).Assigns s name value := by
  obtain ⟨line, line', line'', read⟩ := program_assignment word admitted running s
  exact assigns_of_denotes read ready fun s => .cons (.word word) (.cons (denotes s line'') .nil)

end Script

/-- A variable receives every text as it is. Where no opening bracket has a closing one behind it,
the quoted text stands for it, and where braces are balanced the text in braces does. -/
theorem quoted_values_are_assigned {s : State} {name value : String}
    (command : s.builtins.get? "set" = some .set) (running : s.checkInterrupt = .ok ())
    (shallow : s.depth < s.maxDepth) (word : Lexeme.IsWord name.toList) :
    (¬ ['[', ']'].Sublist value.toList →
      (Script.source ("set " ++ name ++ " \"" ++ quote value ++ "\"")).Assigns s name value) ∧
    (Balanced '\x7b' '\x7d' value.toList →
      (Script.source ("set " ++ name ++ " \x7b" ++ value ++ "\x7d")).Assigns s name value) := by
  have ready : s.CanAssign := ⟨command, running, shallow⟩
  constructor
  · intro apart
    have spelled : "set " ++ name ++ " \"" ++ quote value ++ "\"" =
        Script.assignment name .text (String.ofList (Expansion.doubled value.toList)) := by
      apply String.toList_inj.mp
      simp [Script.assignment, Token.Kind.spelling, toList_quote]
    rw [spelled]
    exact Script.assigns_assignment ready word trivial (fun _ => Bool.false_ne_true)
      fun _ _ => .text apart
  · intro balanced
    have spelled : "set " ++ name ++ " \x7b" ++ value ++ "\x7d" =
        Script.assignment name .block value := by
      apply String.toList_inj.mp
      simp [Script.assignment, Token.Kind.spelling]
    rw [spelled]
    exact Script.assigns_assignment ready word balanced (fun _ => Bool.false_ne_true)
      fun _ _ => .block

/-- A machine one level above its limit, with a variable in each of its two frames. -/
def nearLimit : State :=
  { program := [], builtins := Builtin.standard
    scopes := .inner ⟨[("c", "[v]")]⟩ (.globals ⟨[("v", "1")]⟩)
    interrupt := ⟨true, false⟩, depth := 2, maxDepth := 3 }

/-- Characters that quotes have to protect, with brackets the wrong way round. -/
def unquotedText : String := "]$c $$\x7bc\x7d\\\"[\n$"

/-- Braces with a backslash, a quote and a script in brackets between them. -/
def bracedText : String := "[puts \x7b$c\\\x7d \"]\x7b\x7d;\n$$"

theorem awkward_texts_are_assigned :
    (Script.source "set v \"]$$c $$$$\x7bc\x7d\\\\\\\"[\n$$\"").Assigns nearLimit "v"
      unquotedText ∧
    (Script.source "set v \x7b[puts \x7b$c\\\x7d \"]\x7b\x7d;\n$$\x7d").Assigns nearLimit "v"
      bracedText := by
  have quoted : "set " ++ "v" ++ " \"" ++ quote unquotedText ++ "\"" =
      "set v \"]$$c $$$$\x7bc\x7d\\\\\\\"[\n$$\"" := by decide +kernel
  have braced : "set " ++ "v" ++ " \x7b" ++ bracedText ++ "\x7d" =
      "set v \x7b[puts \x7b$c\\\x7d \"]\x7b\x7d;\n$$\x7d" := by decide +kernel
  rw [← quoted, ← braced]
  constructor
  · exact (quoted_values_are_assigned rfl rfl (by decide) (by decide)).1 (by decide)
  · exact (quoted_values_are_assigned rfl rfl (by decide) (by decide)).2 (by decide)

end CommandScript
