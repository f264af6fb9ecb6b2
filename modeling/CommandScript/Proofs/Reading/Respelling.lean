import CommandScript.Proofs.Reading.Joining
import CommandScript.Proofs.Reading.Literals

namespace CommandScript

namespace Token

/-- What a token is, on whatever line it stands. -/
def face (token : Token) : Token.Kind × String := (token.kind, token.literal)

def IsAdmitted (token : Token) : Prop := token.kind.Admits token.literal

def spelling (token : Token) : String := token.kind.spelling token.literal

/-- Tokens as a text, with single blanks between them. -/
def respelling (tokens : List Token) : String := " ".intercalate (tokens.map spelling)

theorem fault?_eq_none_iff {token : Token} :
    token.fault? = none ↔ ∀ fault, token.kind ≠ .illegal fault := by
  obtain ⟨kind, literal, line⟩ := token
  cases kind <;> simp [fault?]

theorem IsAdmitted.fault?_eq_none {token : Token} (admitted : token.IsAdmitted) :
    token.fault? = none := by
  rw [fault?_eq_none_iff]
  intro fault illegal
  rw [IsAdmitted, illegal] at admitted
  exact admitted

theorem IsAdmitted.of_face {token other : Token} (admitted : token.IsAdmitted)
    (same : other.face = token.face) : other.IsAdmitted := by
  obtain ⟨kind, literal⟩ := Prod.mk.inj same
  rw [IsAdmitted, kind, literal]
  exact admitted

theorem toList_respelling_cons (token next : Token) (rest : List Token) :
    (respelling (token :: next :: rest)).toList =
      token.spelling.toList ++ ' ' :: (respelling (next :: rest)).toList := by
  simp only [respelling, List.map_cons, String.intercalate_cons_cons, String.toList_append]
  simp

end Token

namespace Lexeme

theorem rest_read_of_isSpace {c : Char} (blank : isSpace c = true) (rest : List Char) :
    (read (c :: rest)).rest = c :: rest := by
  simp only [isSpace, Bool.or_eq_true, beq_iff_eq] at blank
  rcases blank with (rfl | rfl) | rfl <;> rfl

/-- A text that is one token by itself. -/
structure IsToken (span : List Char) (kind : Token.Kind) (literal : String) : Prop where
  alone : read span = ⟨kind, literal, span, []⟩
  running : kind ≠ .finish
  legal : ∀ fault, kind ≠ .illegal fault

theorem isToken_spelling {kind : Token.Kind} {literal : String} (admitted : kind.Admits literal) :
    IsToken (kind.spelling literal).toList kind literal := by
  refine ⟨read_spelling admitted, ?_, ?_⟩
  · rintro rfl
    exact admitted
  · rintro fault rfl
    exact admitted

theorem isToken_word {word : String} (isWord : IsWord word.toList) :
    IsToken word.toList .word word :=
  @isToken_spelling .word word isWord

variable {span : List Char} {kind : Token.Kind} {literal : String}

theorem IsToken.visible (h : IsToken span kind literal) :
    ∃ c rest, span = c :: rest ∧ isSpace c = false := by
  have alone := h.alone
  cases span with
  | nil => exact absurd (congrArg Lexeme.kind alone).symm h.running
  | cons c rest =>
      refine ⟨c, rest, rfl, Bool.eq_false_iff.mpr fun blank => ?_⟩
      have stuck := rest_read_of_isSpace blank rest
      rw [alone] at stuck
      cases stuck

theorem IsToken.read_append (h : IsToken span kind literal) (more : List Char) :
    read (span ++ ' ' :: more) = ⟨kind, literal, span, ' ' :: more⟩ := by
  have alone := h.alone
  obtain ⟨c, rest, rfl, _⟩ := h.visible
  have legal : (read (c :: rest)).IsLegal := by
    rw [alone]
    exact h.legal
  have ends : IsDelimiter ' ' := List.elem_iff.mp rfl
  rw [Lexeme.read_append ends legal, alone]
  rfl

end Lexeme

namespace Cursor

theorem stream_cons_of_isSpace {c : Char} (blank : Lexeme.isSpace c = true) (text : List Char)
    (line : Nat) : stream ⟨c :: text, line⟩ = stream ⟨text, line⟩ := by
  have skip : (c :: text).dropWhile Lexeme.isSpace = text.dropWhile Lexeme.isSpace :=
    List.dropWhile_cons_of_pos blank
  have next : next ⟨c :: text, line⟩ = next ⟨text, line⟩ := by
    simp only [Cursor.next, skip]
  by_cases ended : Blank ⟨text, line⟩
  · have ended' : Blank ⟨c :: text, line⟩ := skip.trans ended
    rw [stream_of_blank ended, stream_of_blank ended']
  · have more : ¬ Blank ⟨c :: text, line⟩ := fun ended' => ended (skip.symm.trans ended')
    rw [stream_of_more ended, stream_of_more more, next]

/-- A stream begins with the token of a visible lexeme and goes on behind it. -/
theorem stream_of_read {text : List Char} {lexeme : Lexeme} (line : Nat) {c : Char}
    (visible : text.head? = some c ∧ Lexeme.isSpace c = false) (read : Lexeme.read text = lexeme)
    (legal : lexeme.IsLegal) :
    stream ⟨text, line⟩ = ⟨lexeme.kind, lexeme.literal, line⟩ ::
      stream ⟨lexeme.rest, line + lexeme.span.count '\n'⟩ := by
  obtain ⟨rest, rfl⟩ := List.head?_eq_some_iff.mp visible.1
  have skip : (c :: rest).dropWhile Lexeme.isSpace = c :: rest :=
    List.dropWhile_cons_of_neg (Bool.not_eq_true _ ▸ visible.2)
  have more : ¬ Blank ⟨c :: rest, line⟩ := by
    rw [Blank, skip]
    exact List.cons_ne_nil c rest
  have next : next ⟨c :: rest, line⟩ = (⟨lexeme.kind, lexeme.literal, line⟩,
      ⟨lexeme.rest, line + lexeme.span.count '\n'⟩) := by
    simp only [Cursor.next, skip, read]
  have unfaulted : Token.fault? ⟨lexeme.kind, lexeme.literal, line⟩ = none :=
    Token.fault?_eq_none_iff.mpr legal
  rw [stream_of_more more, next, if_pos unfaulted]

theorem stream_of_isToken {span : List Char} {kind : Token.Kind} {literal : String}
    (h : Lexeme.IsToken span kind literal) (line : Nat) :
    stream ⟨span, line⟩ = [⟨kind, literal, line⟩] := by
  obtain ⟨c, rest, spelled, visible⟩ := h.visible
  have head : span.head? = some c := congrArg List.head? spelled
  rw [stream_of_read line ⟨head, visible⟩ h.alone h.legal, stream_of_blank rfl]

/-- A token before a blank comes first, and the blank is skipped before the second. -/
theorem stream_append_of_isToken {span : List Char} {kind : Token.Kind} {literal : String}
    (h : Lexeme.IsToken span kind literal) (line : Nat) (more : List Char) :
    stream ⟨span ++ ' ' :: more, line⟩ =
      ⟨kind, literal, line⟩ :: stream ⟨more, line + span.count '\n'⟩ := by
  obtain ⟨c, rest, spelled, visible⟩ := h.visible
  have head : (span ++ ' ' :: more).head? = some c := by
    rw [spelled]
    rfl
  rw [stream_of_read line ⟨head, visible⟩ (h.read_append more) h.legal, stream_cons_of_isSpace rfl]

/-- Spelled tokens are read again, on whatever line they start. -/
theorem stream_respelling {tokens : List Token} (admitted : ∀ token ∈ tokens, token.IsAdmitted)
    (line : Nat) :
    (stream ⟨(Token.respelling tokens).toList, line⟩).map Token.face = tokens.map Token.face := by
  induction tokens generalizing line with
  | nil =>
      have empty : Token.respelling [] = "" := String.intercalate_nil
      rw [empty, stream_of_blank rfl]
  | cons token rest ih =>
      obtain ⟨first, others⟩ := List.forall_mem_cons.mp admitted
      have spelled : Lexeme.IsToken token.spelling.toList token.kind token.literal :=
        Lexeme.isToken_spelling first
      cases rest with
      | nil =>
          have alone : Token.respelling [token] = token.spelling := String.intercalate_singleton
          rw [alone, stream_of_isToken spelled]
          rfl
      | cons next rest =>
          rw [Token.toList_respelling_cons, stream_append_of_isToken spelled, List.map_cons,
            ih others]
          rfl

theorem isAdmitted_of_mem_stream {c : Cursor} (legal : ∀ token ∈ c.stream, token.fault? = none) :
    ∀ token ∈ c.stream, token.IsAdmitted := by
  induction c using tokens.induct with
  | case1 c ended =>
      rw [stream_of_blank ended]
      exact List.forall_mem_nil _
  | case2 c more following final read ih =>
      rw [stream_of_more more] at legal ⊢
      obtain ⟨first, others⟩ := List.forall_mem_cons.mp legal
      rw [if_pos first] at others ⊢
      refine List.forall_mem_cons.mpr ⟨?_, ih others⟩
      obtain ⟨d, rest, here, visible⟩ := exists_visible more
      have lexeme : (Lexeme.read (d :: rest)).IsLegal := by
        rw [← here]
        exact Token.fault?_eq_none_iff.mp first
      have admits := Lexeme.admits_read visible lexeme
      rw [← here] at admits
      exact admits

/-- The tokens of a text without faults, spelled with single blanks between them, are the tokens of
the text that this gives. -/
theorem respelling_reads_same (text : String)
    (legal : ∀ token ∈ (start text).stream, ∀ fault, token.kind ≠ .illegal fault) :
    (start (Token.respelling (start text).stream)).stream.map Token.face =
      (start text).stream.map Token.face := by
  refine stream_respelling (isAdmitted_of_mem_stream fun token member => ?_) 1
  exact Token.fault?_eq_none_iff.mpr (legal token member)

/-- A text of all kinds of tokens, most of them without blanks between them. -/
def crowdedText : String :=
  "set a\"b-1 0x1F-0 12ab$ $v$\x7b [\x7d\x7b\x7d[f [\x7bg]]\"q\\\"\\\\\nr\\t\";\n\t-x 07.50"

theorem crowdedText_respelling_reads_same :
    Token.respelling (start crowdedText).stream =
      "set a\"b-1 31 0 12 ab $ $v$ \x7b [\x7d \x7b\x7d [f [\x7bg]]" ++
        " \"q\\\"\\\\\nr\t\" ; \n -x 07.50" ∧
    (start (Token.respelling (start crowdedText).stream)).stream.map Token.face = [
      (.word, "set"), (.word, "a\"b-1"), (.number, "31"), (.number, "0"), (.number, "12"),
      (.word, "ab"), (.variable, "$"), (.variable, "$v$"), (.block, " ["), (.block, ""),
      (.bracket, "[f [\x7bg]]"), (.text, "q\"\\\nr\t"), (.semicolon, ";"), (.newline, "\\n"),
      (.word, "-x"), (.number, "07.50")] := by
  have legal : ∀ token ∈ (start crowdedText).stream, token.fault? = none := by decide +kernel
  constructor
  · decide +kernel
  · rw [respelling_reads_same crowdedText fun token member =>
      Token.fault?_eq_none_iff.mp (legal token member)]
    decide +kernel

end Cursor

namespace Program

theorem takeCommand_of_running {tokens : List Token}
    (running : ∀ token ∈ tokens, ¬ token.isTerminator) : takeCommand tokens = (tokens, []) := by
  induction tokens with
  | nil => rfl
  | cons token rest ih =>
      obtain ⟨first, others⟩ := List.forall_mem_cons.mp running
      rw [takeCommand, if_neg first, ih others]

theorem ofTokens_of_running {head : Token} {arguments : List Token}
    (running : ∀ token ∈ head :: arguments, ¬ token.isTerminator) :
    ofTokens (head :: arguments) = [⟨head, arguments⟩] := by
  obtain ⟨first, others⟩ := List.forall_mem_cons.mp running
  rw [ofTokens, if_neg first, takeCommand_of_running others, ofTokens]

/-- Spelled tokens are the tokens of a program, up to the lines they stand on. -/
theorem parse_respelling {tokens : List Token} (admitted : ∀ token ∈ tokens, token.IsAdmitted) :
    ∃ read : List Token, read.map Token.face = tokens.map Token.face ∧
      parse (Token.respelling tokens) = .ok (ofTokens read) := by
  have faces : (Cursor.start (Token.respelling tokens)).stream.map Token.face =
      tokens.map Token.face := Cursor.stream_respelling admitted 1
  refine ⟨_, faces, parse_eq_ok_iff.mpr ⟨List.findSome?_eq_none_iff.mpr ?_, rfl⟩⟩
  intro token member
  have shown := List.mem_map_of_mem (f := Token.face) member
  rw [faces] at shown
  obtain ⟨spelled, among, same⟩ := List.mem_map.mp shown
  exact ((admitted spelled among).of_face same.symm).fault?_eq_none

end Program

end CommandScript
