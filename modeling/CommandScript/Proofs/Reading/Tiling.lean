import CommandScript.Proofs.Reading.Calls

/-! Where tokens lie in a text. The calls that read a text take it off stretch by stretch, each one
blanks and then the span of a token, so that they come to the end of the text and count its lines
exactly, whatever the tokens are. -/

namespace CommandScript

/-- How the literal of a token of a kind lies in its span. -/
def Token.Kind.Spans (literal : String) (span : List Char) : Token.Kind → Prop
  | .word | .variable | .bracket => span = literal.toList
  | .block => span = '\x7b' :: (literal.toList ++ ['\x7d'])
  | .text => ∃ inner, span = '"' :: (inner ++ ['"'])
  | .semicolon => span = [';']
  | .newline => span = ['\n']
  | .finish => span = []
  | .number | .illegal _ => span ≠ []

/-- A token at the start of a text: all blanks come first, then the span of the token, and then the
text behind it. The end of the text alone has no span, and it is there if nothing but blanks is. -/
structure Tile (left : List Char) (token : Token) (blanks span behind : List Char) : Prop where
  whole : left = blanks ++ (span ++ behind)
  blank : ∀ c ∈ blanks, Lexeme.isSpace c = true
  visible : ∀ c ∈ (span ++ behind).head?, Lexeme.isSpace c = false
  spans : token.kind.Spans token.literal span
  empty : span = [] ↔ token.kind = .finish
  ended : token.kind = .finish ↔ ∀ c ∈ left, Lexeme.isSpace c = true

theorem Tile.eq_blanks {left blanks span behind : List Char} {token : Token}
    (h : Tile left token blanks span behind) (finish : token.kind = .finish) : left = blanks := by
  have blank := h.ended.mp finish
  cases here : span ++ behind with
  | nil => rw [h.whole, here, List.append_nil]
  | cons c rest =>
      have visible := h.visible c (by rw [here]; rfl)
      have member : c ∈ left := by
        rw [h.whole, here]
        exact List.mem_append_right blanks (.head rest)
      rw [blank c member] at visible
      cases visible

namespace Lexeme

theorem exists_span_readQuoted {text : List Char} {q : Quoted} (found : readQuoted text = some q) :
    ∃ inner, q.span = inner ++ ['"'] := by
  fun_induction readQuoted text generalizing q with
  | case1 => cases found
  | case2 rest =>
      cases found
      exact ⟨[], rfl⟩
  | case3 rest ih =>
      obtain ⟨behind, read, rfl⟩ := Option.map_eq_some_iff.mp found
      obtain ⟨inner, same⟩ := ih read
      exact ⟨'\\' :: '\n' :: inner, congrArg (['\\', '\n'] ++ ·) same⟩
  | case4 c rest _ ih =>
      obtain ⟨behind, read, rfl⟩ := Option.map_eq_some_iff.mp found
      obtain ⟨inner, same⟩ := ih read
      exact ⟨'\\' :: c :: inner, congrArg (['\\', c] ++ ·) same⟩
  | case5 c rest _ _ _ ih =>
      obtain ⟨behind, read, rfl⟩ := Option.map_eq_some_iff.mp found
      obtain ⟨inner, same⟩ := ih read
      exact ⟨c :: inner, congrArg ([c] ++ ·) same⟩

theorem spans_readText (rest : List Char) :
    (readText rest).kind.Spans (readText rest).literal (readText rest).span := by
  unfold readText
  split
  · next q found =>
      obtain ⟨inner, same⟩ := exists_span_readQuoted found
      exact ⟨inner, congrArg (List.cons '"') same⟩
  · exact List.cons_ne_nil _ _

theorem spans_readBracket (rest : List Char) :
    (readBracket rest).kind.Spans (readBracket rest).literal (readBracket rest).span := by
  unfold readBracket
  split
  · exact String.toList_ofList.symm
  · exact List.cons_ne_nil _ _

theorem spans_readBlock (rest : List Char) :
    (readBlock rest).kind.Spans (readBlock rest).literal (readBlock rest).span := by
  unfold readBlock
  split
  · simp only [Token.Kind.Spans, String.toList_ofList, List.cons_append]
  · exact List.cons_ne_nil _ _

theorem spans_readNumber {c : Char} {rest : List Char} (starts : startsNumber (c :: rest) = true) :
    (readNumber (c :: rest)).kind.Spans (readNumber (c :: rest)).literal
      (readNumber (c :: rest)).span := by
  have some := @span_readNumber_ne_nil c rest (isNumberChar_of_startsNumber starts)
  rcases kind_readNumber (c :: rest) with number | ⟨fault, illegal⟩
  · rw [number]
    exact some
  · rw [illegal]
    exact some

/-- The literal of a lexeme lies in its span as its kind says. -/
theorem spans_read {c : Char} {rest : List Char} (visible : isSpace c = false) :
    (read (c :: rest)).kind.Spans (read (c :: rest)).literal (read (c :: rest)).span := by
  by_cases quote : c = '"'
  · subst quote
    exact spans_readText rest
  by_cases bracket : c = '['
  · subst bracket
    exact spans_readBracket rest
  by_cases brace : c = '\x7b'
  · subst brace
    exact spans_readBlock rest
  by_cases dollar : c = '$'
  · subst dollar
    exact String.toList_ofList.symm
  by_cases line : c = '\n'
  · subst line
    rfl
  by_cases semicolon : c = ';'
  · subst semicolon
    rfl
  by_cases closes : c = ']' ∨ c = '\x7d'
  · rcases closes with rfl | rfl
    · exact List.cons_ne_nil _ _
    · exact List.cons_ne_nil _ _
  obtain ⟨closeBracket, closeBrace⟩ := not_or.mp closes
  have char : isWordChar c = true := by
    simp [isWordChar, visible, bracket, brace, dollar, line, semicolon, closeBracket, closeBrace]
  rw [read_of_isWordChar char quote]
  split
  · next starts => exact spans_readNumber starts
  · exact String.toList_ofList.symm

end Lexeme

namespace Cursor

def blanks (c : Cursor) : List Char := c.rest.takeWhile Lexeme.isSpace

def span (c : Cursor) : List Char := (Lexeme.read (c.rest.dropWhile Lexeme.isSpace)).span

variable {c : Cursor} {n : Nat}

theorem tile_next (c : Cursor) : Tile c.rest c.next.1 c.blanks c.span c.next.2.rest := by
  have behind : c.span ++ c.next.2.rest = c.rest.dropWhile Lexeme.isSpace :=
    Lexeme.span_append_rest_read _
  have whole : c.rest = c.blanks ++ (c.span ++ c.next.2.rest) := by
    rw [behind, blanks, List.takeWhile_append_dropWhile]
  have blank : ∀ d ∈ c.blanks, Lexeme.isSpace d = true := fun _ => List.mem_takeWhile_imp
  have ended : c.next.1.kind = .finish ↔ ∀ d ∈ c.rest, Lexeme.isSpace d = true := by
    rw [kind_next_eq_finish_iff, Blank, List.dropWhile_eq_nil_iff]
  have visible : ∀ d ∈ (c.span ++ c.next.2.rest).head?, Lexeme.isSpace d = false := by
    intro d first
    have stops := List.head?_dropWhile_not Lexeme.isSpace c.rest
    rw [← behind, Option.mem_def.mp first] at stops
    exact stops
  by_cases spent : c.Blank
  · have finish := kind_next_eq_finish_iff.mpr spent
    have empty : c.span = [] := by
      rw [span, spent]
      rfl
    refine ⟨whole, blank, visible, ?_, ?_, ended⟩
    · rw [finish]
      exact empty
    · rw [empty, finish]
      exact ⟨fun _ => rfl, fun _ => rfl⟩
  · obtain ⟨d, rest, here, shown⟩ := exists_visible spent
    have spans : c.next.1.kind.Spans c.next.1.literal c.span := by
      rw [next, span, here]
      exact Lexeme.spans_read shown
    have some : c.span ≠ [] := by
      rw [span, here]
      exact Lexeme.span_read_ne_nil shown
    refine ⟨whole, blank, visible, spans, ?_, ended⟩
    constructor
    · intro empty
      exact absurd empty some
    · intro finish
      exact absurd (kind_next_eq_finish_iff.mp finish) spent

/-- What so many calls take off the text. -/
def taken (c : Cursor) (n : Nat) : List Char :=
  (List.range n).flatMap fun i => (c.after i).blanks ++ (c.after i).span

theorem taken_succ (c : Cursor) (n : Nat) :
    c.taken (n + 1) = c.taken n ++ ((c.after n).blanks ++ (c.after n).span) := by
  rw [taken, List.range_succ, List.flatMap_append, List.flatMap_singleton]
  rfl

theorem taken_append_rest (c : Cursor) (n : Nat) : c.taken n ++ (c.after n).rest = c.rest := by
  induction n with
  | zero => rfl
  | succ n ih =>
      rw [taken_succ, after_succ, List.append_assoc, List.append_assoc,
        ← (tile_next (c.after n)).whole, ih]

theorem kind_call_eq_finish_of_le {m : Nat} (le : n ≤ m) (finish : (c.call n).kind = .finish) :
    (c.call m).kind = .finish := by
  induction m, le using Nat.le_induction with
  | base => exact finish
  | succ m le ih =>
      rw [call, after_succ]
      exact kind_next_eq_finish_iff.mpr (blank_next (kind_next_eq_finish_iff.mp ih))

theorem exists_finish (c : Cursor) :
    ∃ n ≤ c.rest.length, (c.call n).kind = .finish ∧ (∀ i < n, (c.call i).kind ≠ .finish) ∧
      c.tokens.1 = c.calls (n + 1) := by
  induction c using tokens.induct with
  | case1 c ended =>
      refine ⟨0, Nat.zero_le _, kind_next_eq_finish_iff.mpr ended, ?_, ?_⟩
      · exact fun i below => absurd below (Nat.not_lt_zero i)
      · rw [tokens, dif_pos ended]
        rfl
  | case2 c more following final read ih =>
      obtain ⟨n, bound, finish, before, same⟩ := ih
      refine ⟨n + 1, ?_, finish, fun i below => ?_, ?_⟩
      · exact Nat.lt_of_le_of_lt bound (length_rest_next_lt more)
      · cases i with
        | zero => exact kind_next_eq_finish_iff.not.mpr more
        | succ i => exact before i (Nat.lt_of_succ_lt_succ below)
      · rw [tokens, dif_neg more, calls_succ, ← same]

/-! Byte offsets. -/

/-- The byte offset after so many calls, where every blank counts as one byte and a span as the bytes
of its characters. -/
def offset (c : Cursor) : Nat → Nat
  | 0 => 0
  | n + 1 =>
    c.offset n + (c.after n).blanks.length + (String.ofList (c.after n).span).utf8ByteSize

theorem utf8ByteSize_append (front back : List Char) :
    (String.ofList (front ++ back)).utf8ByteSize =
      (String.ofList front).utf8ByteSize + (String.ofList back).utf8ByteSize := by
  rw [String.ofList_append, String.utf8ByteSize_append]

theorem utf8ByteSize_blanks {text : List Char} (blank : ∀ d ∈ text, Lexeme.isSpace d = true) :
    (String.ofList text).utf8ByteSize = text.length := by
  induction text with
  | nil => rfl
  | cons d rest ih =>
      obtain ⟨first, others⟩ := List.forall_mem_cons.mp blank
      have one : (String.ofList [d]).utf8ByteSize = 1 := by
        simp only [Lexeme.isSpace, Bool.or_eq_true, beq_iff_eq] at first
        rcases first with (rfl | rfl) | rfl <;> rfl
      rw [← List.singleton_append, utf8ByteSize_append, one, ih others, List.length_append,
        List.length_singleton]

theorem offset_eq (c : Cursor) (n : Nat) :
    c.offset n = (String.ofList (c.taken n)).utf8ByteSize := by
  induction n with
  | zero => rfl
  | succ n ih =>
      rw [offset, ih, taken_succ, utf8ByteSize_append, utf8ByteSize_append,
        utf8ByteSize_blanks (tile_next (c.after n)).blank, Nat.add_assoc]

variable {text : String} {front : List Char}

theorem isValid_offset (starts : front <+: ((start text).after n).rest) :
    String.Pos.Raw.IsValid text
      ⟨(start text).offset n + (String.ofList front).utf8ByteSize⟩ := by
  obtain ⟨back, behind⟩ := starts
  have whole : (start text).taken n ++ ((start text).after n).rest = text.toList :=
    taken_append_rest _ n
  refine String.Pos.Raw.isValid_iff_exists_append.mpr
    ⟨String.ofList ((start text).taken n ++ front), String.ofList back, ?_, ?_⟩
  · rw [← String.ofList_append, List.append_assoc, behind, whole, String.ofList_toList]
  · rw [offset_eq, ← utf8ByteSize_append]
    rfl

theorem isValid_blanks {k : Nat} (bound : k ≤ ((start text).after n).blanks.length) :
    String.Pos.Raw.IsValid text ⟨(start text).offset n + k⟩ := by
  have tile := tile_next ((start text).after n)
  have size : (String.ofList (((start text).after n).blanks.take k)).utf8ByteSize = k := by
    rw [utf8ByteSize_blanks fun d member => tile.blank d (List.mem_of_mem_take member),
      List.length_take_of_le bound]
  have starts : ((start text).after n).blanks.take k <+: ((start text).after n).rest := by
    have inside := List.take_prefix k ((start text).after n).blanks
    rw [tile.whole]
    exact inside.trans (List.prefix_append _ _)
  rw [← size]
  exact isValid_offset starts

theorem isValid_span (inside : front <+: ((start text).after n).span) :
    String.Pos.Raw.IsValid text ⟨(start text).offset n + ((start text).after n).blanks.length +
      (String.ofList front).utf8ByteSize⟩ := by
  have tile := tile_next ((start text).after n)
  have starts : ((start text).after n).blanks ++ front <+: ((start text).after n).rest := by
    rw [tile.whole, List.prefix_append_right_inj]
    exact inside.trans (List.prefix_append _ _)
  rw [Nat.add_assoc, ← utf8ByteSize_blanks tile.blank, ← utf8ByteSize_append]
  exact isValid_offset starts

/-- The calls that read a text take it off in stretches of blanks and spans, one behind the other.
They come to the end of the text after no more tokens than it has characters and stay there. The
offset goes on by one byte for each blank and by one character in a span, and is always between two
characters. -/
theorem calls_tile_text (text : String) :
    (∀ n, Tile ((start text).after n).rest ((start text).call n) ((start text).after n).blanks
      ((start text).after n).span ((start text).after (n + 1)).rest) ∧
    (∀ n, (start text).taken n ++ ((start text).after n).rest = text.toList) ∧
    (∀ n m, n ≤ m → ((start text).call n).kind = .finish → ((start text).call m).kind = .finish) ∧
    (∃ n ≤ text.length, ((start text).call n).kind = .finish ∧
      (∀ i < n, ((start text).call i).kind ≠ .finish) ∧
      (start text).tokens.1 = (start text).calls (n + 1)) ∧
    ∀ n,
      (start text).offset n = (String.ofList ((start text).taken n)).utf8ByteSize ∧
      (∀ k ≤ ((start text).after n).blanks.length,
        String.Pos.Raw.IsValid text ⟨(start text).offset n + k⟩) ∧
      ∀ front, front <+: ((start text).after n).span →
        String.Pos.Raw.IsValid text ⟨(start text).offset n +
          ((start text).after n).blanks.length + (String.ofList front).utf8ByteSize⟩ := by
  refine ⟨fun n => ?_, taken_append_rest _, fun n m => kind_call_eq_finish_of_le, ?_,
    fun n => ⟨offset_eq _ n, fun k => isValid_blanks, fun front => isValid_span⟩⟩
  · rw [after_succ]
    exact tile_next _
  · have finish := exists_finish (start text)
    rwa [start, String.length_toList] at finish

/-- Each kind of blank, and a character of two bytes. -/
def blankedText : String := "\t \r\x7b\u00e9\n\x7d x \t"

theorem blankedText_is_tiled :
    Tile ['\t', ' ', '\r', '\x7b', 'é', '\n', '\x7d', ' ', 'x', ' ', '\t'] ⟨.block, "é\n", 1⟩
      ['\t', ' ', '\r'] ['\x7b', 'é', '\n', '\x7d'] [' ', 'x', ' ', '\t'] ∧
    Tile [' ', 'x', ' ', '\t'] ⟨.word, "x", 2⟩ [' '] ['x'] [' ', '\t'] ∧
    Tile [' ', '\t'] ⟨.finish, "", 2⟩ [' ', '\t'] [] [] ∧
    String.Pos.Raw.IsValid blankedText ⟨8⟩ := by
  obtain ⟨tiles, _, _, _, offsets⟩ := calls_tile_text blankedText
  exact ⟨tiles 0, tiles 1, tiles 2, (offsets 1).2.1 0 (Nat.zero_le _)⟩

/-! Lines. -/

theorem line_after (c : Cursor) (n : Nat) :
    (c.after n).line = c.line + (c.taken n).count '\n' := by
  have last : (c.after n).lastLine = c.lastLine := by
    induction n with
    | zero => rfl
    | succ n ih => rw [after_succ, lastLine_next, ih]
  have whole := congrArg (List.count '\n') (taken_append_rest c n)
  rw [List.count_append] at whole
  simp only [lastLine] at last
  omega

theorem count_blanks (c : Cursor) : c.blanks.count '\n' = 0 := by
  refine List.count_eq_zero.mpr fun member => ?_
  cases (tile_next c).blank '\n' member

end Cursor

/-- The line of a token is one more than the number of line ends before its first character, and
before the end of the text for the token that stands there. A program that fails carries the line of
the first illegal token. -/
theorem lines_count_line_ends (text : String) :
    (∀ n, ∃ front blanks span,
      Tile ((Cursor.start text).after n).rest ((Cursor.start text).call n) blanks span
        ((Cursor.start text).after (n + 1)).rest ∧
      text.toList = front ++ blanks ++ (span ++ ((Cursor.start text).after (n + 1)).rest) ∧
      ((Cursor.start text).call n).line = 1 + (front ++ blanks).count '\n' ∧
      (((Cursor.start text).call n).kind = .finish → front ++ blanks = text.toList)) ∧
    ∀ failure, Program.parse text = .error failure →
      ∃ n fault, (∀ i < n, ((Cursor.start text).call i).fault? = none) ∧
        ((Cursor.start text).call n).kind = .illegal fault ∧
        failure = .parse ((Cursor.start text).call n).line fault := by
  constructor
  · intro n
    have tile := Cursor.tile_next ((Cursor.start text).after n)
    have whole : (Cursor.start text).taken n ++ ((Cursor.start text).after n).rest = text.toList :=
      Cursor.taken_append_rest _ n
    have line : ((Cursor.start text).call n).line = ((Cursor.start text).after n).line := rfl
    refine ⟨(Cursor.start text).taken n, _, _, Cursor.after_succ _ n ▸ tile, ?_, ?_, ?_⟩
    · rw [List.append_assoc, Cursor.after_succ, ← tile.whole, whole]
    · rw [List.count_append, Cursor.count_blanks, line, Cursor.line_after]
      rfl
    · intro finish
      rw [← tile.eq_blanks finish, whole]
  · intro failure failed
    obtain ⟨n, stops⟩ := (Cursor.start text).exists_stopsAt
    rcases Token.isLast_iff.mp stops.last with finish | ⟨fault, illegal⟩
    · rw [Program.parse_of_finish stops finish] at failed
      cases failed
    · rw [Program.parse_of_illegal stops illegal] at failed
      cases failed
      refine ⟨n, fault, fun i before => ?_, illegal, rfl⟩
      exact (Token.isLast_eq_false_iff.mp (stops.running i before)).2

/-- Line ends in a quoted text, behind a backslash, between tokens and in a block. -/
def brokenLines : String := "a \"x\n\\\n\" ]\n\x7bb\n\x7d\r"

theorem brokenLines_are_counted :
    ((Cursor.start brokenLines).calls 6).map (fun token => (token.kind, token.line)) =
      [(.word, 1), (.text, 1), (.illegal (.unexpectedClose ']'), 3), (.newline, 3), (.block, 4),
        (.finish, 5)] ∧
    (∃ front blanks, brokenLines.toList = front ++ blanks ++ ['\x7b', 'b', '\n', '\x7d', '\r'] ∧
      4 = 1 + (front ++ blanks).count '\n') ∧
    ∃ n, ((Cursor.start brokenLines).call n).kind = .illegal (.unexpectedClose ']') ∧
      ((Cursor.start brokenLines).call n).line = 3 := by
  obtain ⟨places, failures⟩ := lines_count_line_ends brokenLines
  refine ⟨by decide +kernel, ?_, ?_⟩
  · obtain ⟨front, blanks, span, tile, whole, line, _⟩ := places 4
    have block : ['\x7b', 'b', '\n', '\x7d', '\r'] = blanks ++ (span ++ _) := tile.whole
    refine ⟨front, blanks, ?_, line⟩
    cases blanks with
    | nil => rw [whole, block, List.nil_append]
    | cons d blanks =>
        obtain ⟨rfl, _⟩ := List.cons.inj block
        cases tile.blank _ (.head blanks)
  · obtain ⟨n, fault, _, illegal, same⟩ :=
      failures (.parse 3 (.unexpectedClose ']')) (by decide +kernel)
    obtain ⟨line, rfl⟩ := Failure.parse.inj same
    exact ⟨n, illegal, line.symm⟩

end CommandScript
