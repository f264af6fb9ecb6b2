import CommandScript.Proofs.Steps.Comments
import CommandScript.Runner.Library

namespace CommandScript

theorem Program.parse_ofList {chars : List Char} {program : Program}
    (read : (Cursor.mk chars 1).stream.findSome? Token.fault? = none ∧
      program = ofTokens (Cursor.mk chars 1).stream) :
    parse (String.ofList chars) = .ok program := by
  refine parse_eq_ok_iff.mpr ?_
  rw [Cursor.start, String.toList_ofList]
  exact read

namespace Token

/-- Holds of blocks and of texts that expansion leaves as they are. -/
def isPlain (token : Token) : Bool :=
  decide (token.kind = .block) ||
    (!token.literal.toList.contains '$' && !token.literal.toList.contains '[')

theorem Denotes.plain {s : State} {token : Token} (plain : token.isPlain = true) :
    token.Denotes s token.literal := by
  obtain ⟨kind, literal, line⟩ := token
  by_cases block : kind = .block
  · subst block
    exact .block
  · simp only [isPlain, block, decide_false, Bool.false_or, Bool.and_eq_true, Bool.not_eq_true',
      List.contains_eq_mem, decide_eq_false_iff_not] at plain
    obtain ⟨unreferred, unopened⟩ := plain
    refine .expanded block ?_ fun pair => unopened (pair.subset (.head _))
    rw [Expansion.substituteText, Expansion.substitute_of_not_mem unreferred, String.ofList_toList]

theorem denotes_literals {s : State} {tokens : List Token} (plain : tokens.all isPlain = true) :
    List.Forall₂ (Denotes s) tokens (tokens.map literal) := by
  induction tokens with
  | nil => exact .nil
  | cons token tokens ih =>
      obtain ⟨first, others⟩ := Bool.and_eq_true_iff.mp plain
      exact .cons (.plain first) (ih others)

end Token

deriving instance DecidableEq for Procedure

namespace Table

variable {α : Type}

def insertAll (table : Table α) (entries : List (String × α)) : Table α :=
  entries.foldl (fun table entry => table.insert entry.1 entry.2) table

theorem insertAll_append (table : Table α) (first others : List (String × α)) :
    table.insertAll (first ++ others) = (table.insertAll first).insertAll others :=
  List.foldl_append

theorem get?_insertAll_concat (table : Table α) (entries : List (String × α)) (name : String)
    (a : α) : (table.insertAll (entries ++ [(name, a)])).get? name = some a := by
  rw [insertAll_append]
  exact get?_insert_self _ name a

end Table

namespace Command

/-- Holds of commands that are called by the words they are written with. -/
def isPlain (command : Command) : Bool :=
  decide (command.head.kind = .word) && command.arguments.all Token.isPlain

/-- What a comment or a definition adds to the procedures. -/
def definitions? (command : Command) : Option (List (String × Procedure)) :=
  if command.head.literal ∈ Machine.commentWords then some []
  else if command.head.literal = "proc" then
    match command.arguments.map Token.literal with
    | [name, params, body] =>
      match Procedure.make ((Text.words params.toList).map String.ofList) body with
      | .ok made => some [(name, made)]
      | .error _ => none
    | _ => none
  else none

end Command

/-- What a program of plain comments and definitions adds to the procedures. -/
def Program.definitions? : Program → Option (List (String × Procedure))
  | [] => some []
  | command :: rest =>
    match command.isPlain, command.definitions?, definitions? rest with
    | true, some first, some others => some (first ++ others)
    | _, _, _ => none

namespace Machine

variable {s : State} {definitions : List (String × Procedure)}

theorem execute_of_isPlain {command : Command} (plain : command.isPlain = true) (fuel : Nat) :
    execute fuel (run fuel) command s = dispatch fuel (run fuel) command.head
      command.head.literal (command.arguments.map Token.literal) s := by
  obtain ⟨⟨kind, name, line⟩, tokens⟩ := command
  obtain ⟨word, others⟩ := Bool.and_eq_true_iff.mp plain
  cases of_decide_eq_true word
  have named : execute fuel (run fuel) ⟨⟨.word, name, line⟩, tokens⟩ s =
      (arguments (run fuel) tokens >>= fun args =>
        dispatch fuel (run fuel) ⟨.word, name, line⟩ name args) s := rfl
  rw [named, Eval.bind_apply, arguments_of_denotes (Token.denotes_literals others)]

theorem execute_of_definitions {command : Command} (standard : s.builtins = Builtin.standard)
    (plain : command.isPlain = true) (defines : command.definitions? = some definitions)
    (fuel : Nat) :
    execute fuel (run fuel) command s =
      some (.ok "", { s with procedures := s.procedures.insertAll definitions }) := by
  have called := dispatch_apply fuel (run fuel) command.head command.head.literal
    (command.arguments.map Token.literal) s
  rw [execute_of_isPlain plain]
  unfold Command.definitions? at defines
  split at defines
  · next comment =>
      cases defines
      rw [standard, standard_comment comment] at called
      exact called
  · split at defines
    · next named =>
        have found : s.builtins.get? "proc" = some .procedure := by
          rw [standard]
          rfl
        rw [named, found] at called
        split at defines
        · next name params body written =>
            rw [named, called, written]
            split at defines
            · next made read =>
                cases defines
                simp only [invoke, procedure, read]
                rfl
            · cases defines
        · cases defines
    · cases defines

theorem sequence_of_definitions {program : Program} (standard : s.builtins = Builtin.standard)
    (running : s.checkInterrupt = .ok ()) (defines : program.definitions? = some definitions)
    (fuel : Nat) {last : Option String} (empty : last.getD "" = "") :
    sequence (execute fuel (run fuel)) last program s =
      some (.ok "", { s with procedures := s.procedures.insertAll definitions }) := by
  induction program generalizing s last definitions with
  | nil =>
      cases defines
      rw [sequence, empty]
      rfl
  | cons command rest ih =>
      unfold Program.definitions? at defines
      split at defines
      · next first others plain defined defined' =>
          cases defines
          let s' := { s with procedures := s.procedures.insertAll first }
          have standard' : s'.builtins = Builtin.standard := standard
          have others := ih standard' running defined' (rfl : (some "").getD "" = "")
          simp only [sequence, Eval.bind_apply, Eval.checkInterrupt, running, Eval.mapSignal,
            execute_of_definitions standard plain defined, Option.map_some, Except.mapError]
          exact Table.insertAll_append .. ▸ others
      · cases defines

/-- A script of comments and definitions loads into every machine that can enter a level. -/
theorem evaluateSource_of_definitions {text : String} {program : Program}
    (standard : s.builtins = Builtin.standard) (running : s.checkInterrupt = .ok ())
    (shallow : s.depth < s.maxDepth) (read : Program.parse text = .ok program)
    (defines : program.definitions? = some definitions) (fuel : Nat) :
    evaluateSource (fuel + 1) text s = some (.ok (.normal ""),
      { s with commandsSealed := true, procedures := s.procedures.insertAll definitions }) := by
  let deeper := { s with commandsSealed := true, depth := s.depth + 1 }
  have standard' : deeper.builtins = Builtin.standard := standard
  have ran := sequence_of_definitions standard' running defines fuel
    (rfl : (none : Option String).getD "" = "")
  simp only [evaluateSource, Evaluator.source, read, Evaluator.script, run, nested]
  rw [if_neg (Nat.not_le.mpr shallow), ran]
  rfl

end Machine

namespace Runner

abbrev Spelled : List String → List (List Char) → Prop :=
  List.Forall₂ fun line chars => line = String.ofList chars

theorem intercalate_of_spelled {lines : List String} {chars : List (List Char)}
    (spelled : Spelled lines chars) :
    String.intercalate "\n" lines = String.ofList (['\n'].intercalate chars) := by
  induction spelled with
  | nil => rfl
  | cons first others ih =>
      subst first
      cases others with
      | nil => rw [String.intercalate_singleton, List.intercalate_singleton]
      | cons second others =>
          rw [String.intercalate_cons_cons, ih, List.intercalate_cons_cons, String.ofList_append,
            String.ofList_append]

def testText : String := " expr \"$got\" ne \"$expected\" "

def reportText : String :=
  "\n        puts \"assertion failed: got '$got', expected '$expected'\"\n        exit 1\n    "

def lastCommand : Command := ⟨⟨.word, "return", 6⟩, [⟨.number, "1", 6⟩]⟩

def assertion : Procedure where
  params := ["got", "expected"]
  body := "\n    if \x7b" ++ testText ++ "\x7d \x7b" ++ reportText ++ "\x7d\n    return 1\n"
  program := [⟨⟨.word, "if", 2⟩, [⟨.block, testText, 2⟩, ⟨.block, reportText, 2⟩]⟩, lastCommand]

/-- The standard library has comments and definitions only, and the assertion comes last. -/
theorem definitions_of_library : ∃ program definitions,
    Program.parse standardLibrary = .ok program ∧
      program.definitions? = some definitions ∧
      definitions.getLast? = some ("assert_equal", assertion) := by
  obtain ⟨chars, spelled, legal, last⟩ : ∃ chars, Spelled libraryLines chars ∧
      (Cursor.mk (['\n'].intercalate chars) 1).stream.findSome? Token.fault? = none ∧
      ((Program.ofTokens (Cursor.mk (['\n'].intercalate chars) 1).stream).definitions?.bind
        List.getLast?) = some ("assert_equal", assertion) := by
    -- The characters are found line by line, and only then the text is read.
    apply Exists.intro
    constructor
    · unfold libraryLines
      repeat' constructor
    · decide +kernel
  obtain ⟨definitions, defines, last⟩ := Option.bind_eq_some_iff.mp last
  rw [standardLibrary, intercalate_of_spelled spelled]
  exact ⟨_, definitions, Program.parse_ofList ⟨legal, rfl⟩, defines, last⟩

/-- The standard library loads into every machine that can enter a level, and leaves the assertion
there. -/
theorem library_loads {s : State} (standard : s.builtins = Builtin.standard)
    (running : s.checkInterrupt = .ok ()) (shallow : s.depth < s.maxDepth) :
    ∃ table : Table Procedure, table.get? "assert_equal" = some assertion ∧
      ∀ fuel, Machine.evaluateSource (fuel + 1) standardLibrary s =
        some (.ok (.normal ""), { s with commandsSealed := true, procedures := table }) := by
  obtain ⟨program, definitions, read, defines, last⟩ := definitions_of_library
  obtain ⟨before, rfl⟩ := List.getLast?_eq_some_iff.mp last
  refine ⟨_, s.procedures.get?_insertAll_concat before "assert_equal" assertion, ?_⟩
  exact Machine.evaluateSource_of_definitions standard running shallow read defines

end Runner

end CommandScript
