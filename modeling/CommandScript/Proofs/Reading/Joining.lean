import CommandScript.Proofs.Reading.Separation

namespace CommandScript

def Token.separator (c : Char) (line : Nat) : Token :=
  if c = '\n' then ⟨.newline, "\\n", line⟩ else ⟨.semicolon, ";", line⟩

namespace Token

theorem isTerminator_separator (c : Char) (line : Nat) : (separator c line).isTerminator := by
  unfold separator
  split <;> rfl

theorem fault?_separator (c : Char) (line : Nat) : (separator c line).fault? = none := by
  unfold separator
  split <;> rfl

end Token

namespace Cursor

variable {c : Cursor} {separator : Char}

def before (c : Cursor) (more : List Char) : Cursor := ⟨c.rest ++ more, c.line⟩

theorem dropWhile_before (ends : IsSeparator separator) (c : Cursor) (more : List Char) :
    (c.before (separator :: more)).rest.dropWhile Lexeme.isSpace =
      c.rest.dropWhile Lexeme.isSpace ++ separator :: more :=
  Lexeme.dropWhile_append_stop (ends.stops Lexeme.isSpace rfl rfl) c.rest more

theorem not_blank_before (ends : IsSeparator separator) (c : Cursor) (more : List Char) :
    ¬ (c.before (separator :: more)).Blank := by
  intro blank
  rw [Blank, dropWhile_before ends] at blank
  exact List.append_ne_nil_of_right_ne_nil _ (List.cons_ne_nil _ _) blank

theorem next_before (ends : IsSeparator separator) (more : ¬ c.Blank)
    (legal : c.next.1.fault? = none) (tail : List Char) :
    (c.before (separator :: tail)).next = (c.next.1, c.next.2.before (separator :: tail)) := by
  unfold next at legal ⊢
  rw [dropWhile_before ends]
  cases here : c.rest.dropWhile Lexeme.isSpace with
  | nil => exact absurd here more
  | cons d rest =>
      rw [here] at legal
      have isLegal : (Lexeme.read (d :: rest)).IsLegal := by
        intro fault illegal
        simp only [Token.fault?, illegal] at legal
        cases legal
      rw [Lexeme.read_append ends.isDelimiter isLegal]
      rfl

theorem next_before_of_blank (ends : IsSeparator separator) (ended : c.Blank) (tail : List Char) :
    (c.before (separator :: tail)).next =
      (.separator separator c.line, ⟨tail, c.line + [separator].count '\n'⟩) := by
  unfold next
  rw [dropWhile_before ends, ended]
  rcases ends with rfl | rfl <;> rfl

theorem lastLine_of_blank (ended : c.Blank) : c.lastLine = c.line := by
  rw [← lastLine_next]
  simp only [next, ended]
  rfl

/-- The tokens before a separator are those before the end of the text, if all of them are legal.
Behind it reading starts over, on the line that the separator leads to. -/
theorem stream_before (ends : IsSeparator separator) (c : Cursor)
    (legal : c.stream.findSome? Token.fault? = none) (tail : List Char) :
    (c.before (separator :: tail)).stream =
      c.stream ++ .separator separator c.lastLine ::
        stream ⟨tail, c.lastLine + [separator].count '\n'⟩ := by
  induction c using tokens.induct with
  | case1 c ended =>
      rw [stream_of_more (not_blank_before ends c tail), next_before_of_blank ends ended,
        stream_of_blank ended, lastLine_of_blank ended, if_pos (Token.fault?_separator _ _)]
      rfl
  | case2 c more following final read ih =>
      rw [stream_of_more more, List.findSome?_cons] at legal
      cases found : c.next.1.fault? with
      | some fault => rw [found] at legal; cases legal
      | none =>
          simp only [found, if_true] at legal
          rw [stream_of_more (not_blank_before ends c tail), next_before ends more found,
            stream_of_more more, if_pos found, if_pos found, ih legal, lastLine_next]
          rfl

end Cursor

namespace Program

variable {separator : Token}

/-- The first command of tokens before a terminator, which ends it if nothing else does. -/
theorem takeCommand_append (ends : separator.isTerminator) (tokens more : List Token) :
    (takeCommand (tokens ++ separator :: more)).1 = (takeCommand tokens).1 ∧
      ((takeCommand (tokens ++ separator :: more)).2 = (takeCommand tokens).2 ++ separator :: more ∨
        (takeCommand tokens).2 = [] ∧ (takeCommand (tokens ++ separator :: more)).2 = more) := by
  induction tokens with
  | nil =>
      simp only [List.nil_append, takeCommand, if_pos ends]
      exact ⟨trivial, .inr ⟨trivial, trivial⟩⟩
  | cons token rest ih =>
      simp only [List.cons_append, takeCommand]
      split
      · exact ⟨rfl, .inl rfl⟩
      · exact ⟨congrArg (token :: ·) ih.1, ih.2⟩

theorem ofTokens_append (ends : separator.isTerminator) (tokens more : List Token) :
    ofTokens (tokens ++ separator :: more) = ofTokens tokens ++ ofTokens more := by
  induction tokens using ofTokens.induct with
  | case1 => simp only [List.nil_append, ofTokens, if_pos ends]
  | case2 token rest terminator ih =>
      rw [List.cons_append, ofTokens, if_pos terminator, ih, ofTokens, if_pos terminator]
  | case3 token rest running ih =>
      obtain ⟨same, behind⟩ := takeCommand_append ends rest more
      rw [List.cons_append, ofTokens, if_neg running, same, ofTokens, if_neg running,
        List.cons_append]
      rcases behind with further | ⟨last, behind⟩
      · rw [further, ih]
      · rw [behind, last, ofTokens, List.nil_append]

theorem takeCommand_down (lines : Nat) (tokens : List Token) :
    takeCommand (tokens.map (Token.down lines)) =
      ((takeCommand tokens).1.map (Token.down lines),
        (takeCommand tokens).2.map (Token.down lines)) := by
  induction tokens with
  | nil => rfl
  | cons token rest ih =>
      simp only [List.map_cons, takeCommand, Token.isTerminator_down, ih]
      split <;> rfl

theorem ofTokens_down (lines : Nat) (tokens : List Token) :
    ofTokens (tokens.map (Token.down lines)) = (ofTokens tokens).map (Command.down lines) := by
  induction tokens using ofTokens.induct with
  | case1 => simp only [List.map_nil, ofTokens]
  | case2 token rest terminator ih =>
      rw [List.map_cons, ofTokens, Token.isTerminator_down, if_pos terminator, ih, ofTokens,
        if_pos terminator]
  | case3 token rest running ih =>
      rw [List.map_cons, ofTokens, Token.isTerminator_down, if_neg running, takeCommand_down, ih,
        ofTokens, if_neg running]
      rfl

theorem parse_eq_ok_iff {text : String} {program : Program} :
    parse text = .ok program ↔
      (Cursor.start text).stream.findSome? Token.fault? = none ∧
        program = ofTokens (Cursor.start text).stream := by
  unfold parse
  dsimp only
  split
  · next found => rw [found]; exact ⟨nofun, nofun⟩
  · next found =>
      rw [found]
      constructor
      · intro same
        exact ⟨rfl, (Except.ok.inj same).symm⟩
      · intro same
        rw [same.2]

theorem parse_eq_error_iff {text : String} {line : Nat} {fault : Fault} :
    parse text = .error (.parse line fault) ↔
      (Cursor.start text).stream.findSome? Token.fault? = some (line, fault) := by
  unfold parse
  dsimp only
  split
  · next line' fault' found =>
      rw [found]
      constructor
      · intro same
        cases same
        rfl
      · intro same
        cases same
        rfl
  · next found => rw [found]; exact ⟨nofun, nofun⟩

end Program

/-- The lines that the text behind a separator is further down. -/
def linesBefore (a : String) (separator : Char) : Nat :=
  a.toList.count '\n' + if separator = '\n' then 1 else 0

theorem Cursor.stream_join {a : String} {separator : Char} (ends : IsSeparator separator)
    (legal : (start a).stream.findSome? Token.fault? = none) (b : String) :
    (start (a ++ String.singleton separator ++ b)).stream =
      (start a).stream ++ .separator separator (start a).lastLine ::
        (start b).stream.map (Token.down (linesBefore a separator)) := by
  have joined : start (a ++ String.singleton separator ++ b) =
      (start a).before (separator :: b.toList) := by
    simp only [start, before, String.toList_append, String.toList_singleton, List.append_assoc,
      List.singleton_append]
  have behind : (⟨b.toList, (start a).lastLine + [separator].count '\n'⟩ : Cursor) =
      (start b).down (linesBefore a separator) := by
    simp only [start, down, lastLine, linesBefore, List.count_singleton, beq_iff_eq, Nat.add_assoc]
  rw [joined, stream_before ends _ legal, behind, stream_down]

theorem Cursor.fault_join {a : String} {separator : Char} (ends : IsSeparator separator)
    (legal : (start a).stream.findSome? Token.fault? = none) (b : String) :
    (start (a ++ String.singleton separator ++ b)).stream.findSome? Token.fault? =
      ((start b).stream.findSome? Token.fault?).map fun found =>
        (found.1 + linesBefore a separator, found.2) := by
  rw [stream_join ends legal, List.findSome?_append, legal, List.findSome?_cons,
    Token.fault?_separator, Token.findSome?_fault?_down]
  rfl

namespace Program

variable {a b : String} {p q : Program} {separator : Char}

theorem parse_join_ok (ends : IsSeparator separator) (first : parse a = .ok p)
    (second : parse b = .ok q) :
    parse (a ++ String.singleton separator ++ b) =
      .ok (p ++ q.map (Command.down (linesBefore a separator))) := by
  obtain ⟨legal, rfl⟩ := parse_eq_ok_iff.mp first
  obtain ⟨legal', rfl⟩ := parse_eq_ok_iff.mp second
  rw [parse_eq_ok_iff, Cursor.fault_join ends legal, legal', Cursor.stream_join ends legal,
    ofTokens_append (Token.isTerminator_separator _ _), ofTokens_down]
  exact ⟨rfl, rfl⟩

/-- Behind a separator a text is read as it is read by itself, only further down: the commands of a
text that can be read follow those of the first text, and the fault of one that cannot is the fault
of both. -/
theorem parse_join (read : parse a = .ok p) (b : String) (ends : IsSeparator separator) :
    (∀ q, parse b = .ok q →
      parse (a ++ String.singleton separator ++ b) =
        .ok (p ++ q.map (Command.down (linesBefore a separator)))) ∧
    (∀ line fault, parse b = .error (.parse line fault) →
      parse (a ++ String.singleton separator ++ b) =
        .error (.parse (line + linesBefore a separator) fault)) := by
  constructor
  · intro q second
    exact parse_join_ok ends read second
  · intro line fault second
    obtain ⟨legal, _⟩ := parse_eq_ok_iff.mp read
    rw [parse_eq_error_iff] at second ⊢
    rw [Cursor.fault_join ends legal, second]
    rfl

def cutText : String := "set v \x7b1\n\x7d -0"

theorem parse_join_cutText :
    parse (cutText ++ "\n" ++ "\nputs $v") = .ok [
      ⟨⟨.word, "set", 1⟩, [⟨.word, "v", 1⟩, ⟨.block, "1\n", 1⟩, ⟨.number, "0", 2⟩]⟩,
      ⟨⟨.word, "puts", 4⟩, [⟨.variable, "$v", 4⟩]⟩] ∧
    parse (cutText ++ ";" ++ "puts\n 1-2") = .error (.parse 3 .misplacedSign) := by
  have first : parse cutText = .ok [
      ⟨⟨.word, "set", 1⟩, [⟨.word, "v", 1⟩, ⟨.block, "1\n", 1⟩, ⟨.number, "0", 2⟩]⟩] := by
    decide +kernel
  constructor
  · exact (parse_join first "\nputs $v" (.inl rfl)).1 [⟨⟨.word, "puts", 2⟩, [⟨.variable, "$v", 2⟩]⟩]
      (by decide +kernel)
  · exact (parse_join first "puts\n 1-2" (.inr rfl)).2 2 .misplacedSign (by decide +kernel)

end Program

end CommandScript
