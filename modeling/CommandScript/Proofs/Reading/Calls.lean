import CommandScript.Proofs.Reading.Respelling
import Mathlib.Logic.Function.Iterate

namespace CommandScript

/-- Whether a token is the last that a program is read from: the end of the text or an illegal
token. -/
def Token.isLast (token : Token) : Bool :=
  match token.kind with
  | .finish | .illegal _ => true
  | _ => false

theorem Token.isLast_iff {token : Token} :
    token.isLast = true ↔ token.kind = .finish ∨ ∃ fault, token.kind = .illegal fault := by
  obtain ⟨kind, literal, line⟩ := token
  cases kind <;> simp [isLast]

theorem Token.isLast_eq_false_iff {token : Token} :
    token.isLast = false ↔ token.kind ≠ .finish ∧ token.fault? = none := by
  obtain ⟨kind, literal, line⟩ := token
  cases kind <;> simp [isLast, fault?]

namespace Cursor

def after (c : Cursor) (n : Nat) : Cursor := (fun c => c.next.2)^[n] c

/-- The token of a call, with the first call as call zero. -/
def call (c : Cursor) (n : Nat) : Token := (c.after n).next.1

def calls (c : Cursor) (n : Nat) : List Token := (List.range n).map c.call

/-- The first call whose token is the last. -/
structure StopsAt (c : Cursor) (n : Nat) : Prop where
  running : ∀ i < n, (c.call i).isLast = false
  last : (c.call n).isLast = true

theorem StopsAt.unique {c : Cursor} {n m : Nat} (h : c.StopsAt n) (h' : c.StopsAt m) : n = m := by
  rcases Nat.lt_trichotomy n m with earlier | same | later
  · cases (h'.running n earlier).symm.trans h.last
  · exact same
  · cases (h.running m later).symm.trans h'.last

variable {c : Cursor} {n : Nat}

theorem after_succ (c : Cursor) (n : Nat) : c.after (n + 1) = (c.after n).next.2 :=
  Function.iterate_succ_apply' _ n c

theorem calls_succ (c : Cursor) (n : Nat) : c.calls (n + 1) = c.next.1 :: c.next.2.calls n := by
  rw [calls, List.range_succ_eq_map, List.map_cons, List.map_map]
  rfl

theorem calls_succ_eq_append (c : Cursor) (n : Nat) : c.calls (n + 1) = c.calls n ++ [c.call n] := by
  rw [calls, List.range_succ, List.map_append, List.map_singleton]
  rfl

theorem kind_next_eq_finish_iff : c.next.1.kind = .finish ↔ c.Blank := by
  constructor
  · intro finish
    by_contra more
    exact Lexeme.kind_read_ne_finish more finish
  · intro ended
    simp only [next, ended]
    rfl

theorem blank_next (ended : c.Blank) : c.next.2.Blank := by
  simp only [Blank, next, ended]
  rfl

theorem StopsAt.next (h : c.StopsAt (n + 1)) : c.next.2.StopsAt n :=
  ⟨fun i bound => h.running (i + 1) (Nat.succ_lt_succ bound), h.last⟩

theorem StopsAt.of_next (running : c.next.1.isLast = false) (h : c.next.2.StopsAt n) :
    c.StopsAt (n + 1) := by
  refine ⟨fun i below => ?_, h.last⟩
  cases i with
  | zero => exact running
  | succ i => exact h.running i (Nat.lt_of_succ_lt_succ below)

/-- A stream is the tokens of the calls up to the last, which is left out if it ends the text. -/
theorem StopsAt.stream_eq (h : c.StopsAt n) :
    c.stream = c.calls n ++ if (c.call n).kind = .finish then [] else [c.call n] := by
  induction n generalizing c with
  | zero =>
      have last : c.next.1.isLast = true := h.last
      change c.stream = [] ++ if c.next.1.kind = .finish then [] else [c.next.1]
      by_cases ended : c.Blank
      · rw [if_pos (kind_next_eq_finish_iff.mpr ended), stream_of_blank ended]
        rfl
      · have more := kind_next_eq_finish_iff.not.mpr ended
        have illegal : c.next.1.fault? ≠ none := by
          intro legal
          rw [Token.isLast_eq_false_iff.mpr ⟨more, legal⟩] at last
          cases last
        rw [if_neg more, stream_of_more ended, if_neg illegal]
        rfl
  | succ n ih =>
      have first : c.next.1.isLast = false := h.running 0 (Nat.zero_lt_succ n)
      obtain ⟨more, legal⟩ := Token.isLast_eq_false_iff.mp first
      have ended : ¬ c.Blank := kind_next_eq_finish_iff.not.mp more
      rw [stream_of_more ended, if_pos legal, ih h.next, calls_succ]
      rfl

theorem StopsAt.running_of_mem (h : c.StopsAt n) {token : Token} (member : token ∈ c.calls n) :
    token.kind ≠ .finish ∧ token.fault? = none := by
  obtain ⟨i, bound, rfl⟩ := List.mem_map.mp member
  exact Token.isLast_eq_false_iff.mp (h.running i (List.mem_range.mp bound))

theorem StopsAt.stream_eq_filter (h : c.StopsAt n) :
    c.stream = (c.calls (n + 1)).filter fun token => token.kind ≠ .finish := by
  have kept : (c.calls n).filter (fun token => token.kind ≠ .finish) = c.calls n :=
    List.filter_eq_self.mpr fun token member => decide_eq_true (h.running_of_mem member).1
  rw [h.stream_eq, calls_succ_eq_append, List.filter_append, kept]
  split
  · next finish => simp [finish]
  · next more => simp [more]

theorem exists_stopsAt (c : Cursor) : ∃ n, c.StopsAt n := by
  induction c using tokens.induct with
  | case1 c ended =>
      refine ⟨0, fun i below => absurd below (Nat.not_lt_zero i), ?_⟩
      have finish : (c.call 0).kind = .finish := kind_next_eq_finish_iff.mpr ended
      rw [Token.isLast, finish]
  | case2 c more following final read ih =>
      obtain ⟨n, stops⟩ := ih
      cases last : c.next.1.isLast with
      | true => exact ⟨0, fun i below => absurd below (Nat.not_lt_zero i), last⟩
      | false => exact ⟨n + 1, .of_next last stops⟩

end Cursor

namespace Reader

/-- The tokens that a reader has still to hand out. -/
def stream (r : Reader) : List Token := (r.place?.map Cursor.stream).getD []

/-- The answer to a call, with the first call as call zero. -/
def answer (r : Reader) (n : Nat) : Option Token := ((fun r => r.next.2)^[n] r).next.1

theorem next_eq (r : Reader) : r.next.1 = r.stream.head? ∧ r.next.2.stream = r.stream.tail := by
  obtain ⟨_ | c⟩ := r
  · exact ⟨rfl, rfl⟩
  · change _ = c.stream.head? ∧ _ = c.stream.tail
    by_cases ended : c.Blank
    · have finish := Cursor.kind_next_eq_finish_iff.mpr ended
      have behind : c.next.2.Blank := Cursor.blank_next ended
      rw [Cursor.stream_of_blank ended]
      simp only [next, finish]
      exact ⟨rfl, Cursor.stream_of_blank behind⟩
    · have more := Cursor.kind_next_eq_finish_iff.not.mpr ended
      rw [Cursor.stream_of_more ended]
      simp only [next]
      split
      · next finish => exact absurd finish more
      · next fault illegal =>
          have found : c.next.1.fault? ≠ none := by
            rw [Token.fault?, illegal]
            exact Option.some_ne_none _
          rw [if_neg found]
          exact ⟨rfl, rfl⟩
      · next legal =>
          rw [if_pos (Token.fault?_eq_none_iff.mpr legal)]
          exact ⟨rfl, rfl⟩

theorem answer_eq (r : Reader) (n : Nat) : r.answer n = r.stream[n]? := by
  induction n generalizing r with
  | zero => rw [answer, Function.iterate_zero_apply, (next_eq r).1, List.head?_eq_getElem?]
  | succ n ih =>
      have later : r.answer (n + 1) = r.next.2.answer n := rfl
      rw [later, ih, (next_eq r).2, List.getElem?_tail]

end Reader

namespace Command

def tokens (command : Command) : List Token := command.head :: command.arguments

/-- The command of a run of tokens, if there is one in it. -/
def ofRun? : List Token → Option Command
  | [] => none
  | head :: arguments => some ⟨head, arguments⟩

theorem flatMap_tokens_ofRun? (runs : List (List Token)) :
    (runs.filterMap ofRun?).flatMap tokens = runs.flatten := by
  induction runs with
  | nil => rfl
  | cons run runs ih =>
      cases run with
      | nil => exact ih
      | cons head arguments => exact congrArg (List.append (head :: arguments)) ih

end Command

namespace Program

/-- The commands of tokens are the runs between terminators, less the empty ones. -/
theorem ofTokens_eq_splitOnP (tokens : List Token) :
    ofTokens tokens = (tokens.splitOnP Token.isTerminator).filterMap Command.ofRun? := by
  induction size : tokens.length using Nat.strong_induction_on generalizing tokens with
  | h size ih =>
      subst size
      by_cases ends : ∃ token ∈ tokens, token.isTerminator = true
      · obtain ⟨token, member, terminator⟩ := ends
        obtain ⟨front, back, rfl⟩ := List.append_of_mem member
        rw [ofTokens_append terminator, List.splitOnP_append_cons _ _ terminator,
          List.filterMap_append, ih front.length ?_ front rfl, ih back.length ?_ back rfl]
        · rw [List.length_append, List.length_cons]
          omega
        · rw [List.length_append, List.length_cons]
          omega
      · have running : ∀ token ∈ tokens, ¬ token.isTerminator = true :=
          fun token member terminator => ends ⟨token, member, terminator⟩
        rw [List.splitOnP_eq_singleton fun token member =>
          Bool.eq_false_iff.mpr (running token member)]
        cases tokens with
        | nil => rw [ofTokens]; rfl
        | cons head arguments => rw [ofTokens_of_running running]; rfl

theorem flatten_splitOnP (tokens : List Token) :
    (tokens.splitOnP Token.isTerminator).flatten =
      tokens.filter fun token => !token.isTerminator := by
  induction tokens with
  | nil => rfl
  | cons token rest ih =>
      rw [List.splitOnP_cons_eq_if_modifyHead, List.filter_cons]
      cases ends : token.isTerminator with
      | true => exact ih
      | false =>
          obtain ⟨run, runs, split⟩ :=
            List.exists_cons_of_ne_nil (List.splitOnP_ne_nil Token.isTerminator rest)
          rw [split] at ih ⊢
          exact congrArg (List.cons token) ih

section

variable {text : String} {n : Nat}

open Cursor

theorem fault_of_stopsAt (h : (start text).StopsAt n) :
    (start text).stream.findSome? Token.fault? = ((start text).call n).fault? := by
  have legal : ((start text).calls n).findSome? Token.fault? = none :=
    List.findSome?_eq_none_iff.mpr fun token member => (h.running_of_mem member).2
  rw [h.stream_eq, List.findSome?_append, legal, Option.none_or]
  split
  · next finish => rw [Token.fault?, finish]; rfl
  · rw [List.findSome?_singleton]

theorem parse_of_illegal (h : (start text).StopsAt n) {fault : Fault}
    (illegal : ((start text).call n).kind = .illegal fault) :
    parse text = .error (.parse ((start text).call n).line fault) := by
  rw [parse_eq_error_iff, fault_of_stopsAt h, Token.fault?, illegal]

/-- A program without illegal tokens is grouped from all tokens, the end of the text included. -/
theorem parse_of_finish (h : (start text).StopsAt n)
    (finish : ((start text).call n).kind = .finish) :
    parse text = .ok (ofTokens ((start text).calls (n + 1))) := by
  have terminator : ((start text).call n).isTerminator = true := by
    rw [Token.isTerminator, finish]
  rw [parse_eq_ok_iff, fault_of_stopsAt h, Token.fault?, finish, h.stream_eq, if_pos finish,
    calls_succ_eq_append, ofTokens_append terminator, ofTokens, List.append_nil, List.append_nil]
  exact ⟨rfl, rfl⟩

end

/-- A text is read by calls up to the first token that ends it or is illegal. An illegal token fails
the program on its line. Otherwise the commands are the nonempty runs of the tokens between
terminators, in order, each with its first token as the head. A reader hands out the same tokens, the
end of the text apart, and then nothing any more. -/
theorem parse_splits_calls (text : String) :
    ∃ n, (Cursor.start text).StopsAt n ∧
      (∀ fault, ((Cursor.start text).call n).kind = .illegal fault →
        parse text = .error (.parse ((Cursor.start text).call n).line fault)) ∧
      (((Cursor.start text).call n).kind = .finish →
        ∃ program, parse text = .ok program ∧
          program = (((Cursor.start text).calls (n + 1)).splitOnP Token.isTerminator).filterMap
            Command.ofRun? ∧
          program.flatMap Command.tokens =
            ((Cursor.start text).calls (n + 1)).filter fun token => !token.isTerminator) ∧
      ∀ k, (Reader.start text).answer k =
        (((Cursor.start text).calls (n + 1)).filter fun token => token.kind ≠ .finish)[k]? := by
  obtain ⟨n, stops⟩ := (Cursor.start text).exists_stopsAt
  refine ⟨n, stops, fun fault => parse_of_illegal stops, fun finish => ?_, fun k => ?_⟩
  · refine ⟨_, parse_of_finish stops finish, ofTokens_eq_splitOnP _, ?_⟩
    rw [ofTokens_eq_splitOnP, Command.flatMap_tokens_ofRun?, flatten_splitOnP]
  · rw [Reader.answer_eq, ← stops.stream_eq_filter]
    rfl

/-- Empty commands in front, between two others and at the end. -/
def scatteredText : String := ";;set x\n\n\x7ba; b\x7d [c];"

theorem scatteredText_splits :
    parse scatteredText = .ok [⟨⟨.word, "set", 1⟩, [⟨.word, "x", 1⟩]⟩,
      ⟨⟨.block, "a; b", 3⟩, [⟨.bracket, "[c]", 3⟩]⟩] ∧
    (Reader.start scatteredText).answer 8 = some ⟨.semicolon, ";", 3⟩ ∧
    (∀ k ≥ 9, (Reader.start scatteredText).answer k = none) ∧
    parse "puts\n\x7b\n\x7d ]" = .error (.parse 3 (.unexpectedClose ']')) := by
  obtain ⟨n, stops, _, split, answers⟩ := parse_splits_calls scatteredText
  cases stops.unique ⟨(by decide +kernel : ∀ i < 9, _), by decide +kernel⟩
  refine ⟨?_, ?_, fun k behind => ?_, ?_⟩
  · obtain ⟨program, parsed, runs, _⟩ := split (by decide +kernel)
    rw [parsed, runs]
    decide +kernel
  · rw [answers]
    decide +kernel
  · rw [answers, List.getElem?_eq_none_iff]
    refine Nat.le_trans ?_ behind
    decide +kernel
  · obtain ⟨n, stops, illegal, _⟩ := parse_splits_calls "puts\n\x7b\n\x7d ]"
    cases stops.unique ⟨(by decide +kernel : ∀ i < 3, _), by decide +kernel⟩
    exact illegal (.unexpectedClose ']') (by decide +kernel)

end Program

end CommandScript
