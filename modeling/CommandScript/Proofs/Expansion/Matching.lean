import CommandScript.Expansion.Bracket
import Mathlib.Data.List.Sublists

namespace CommandScript.Expansion

/-- A text as characters and pairs of brackets. -/
inductive Pieces where
  | nil
  | char (c : Char) (rest : Pieces)
  | pair (inner rest : Pieces)
deriving DecidableEq, Repr

namespace Pieces

def text : Pieces → List Char
  | .nil => []
  | .char c rest => c :: rest.text
  | .pair inner rest => '[' :: (inner.text ++ ']' :: rest.text)

def bare : Pieces → List Char
  | .nil => []
  | .char c rest => c :: rest.bare
  | .pair _ rest => rest.bare

def append : Pieces → Pieces → Pieces
  | .nil, back => back
  | .char c rest, back => .char c (rest.append back)
  | .pair inner rest, back => .pair inner (rest.append back)

def pairs : Pieces → Nat
  | .nil => 0
  | .char _ rest => rest.pairs
  | .pair inner rest => inner.pairs + 1 + rest.pairs

/-- Between the brackets of a pair no bracket is without a partner. -/
def Nested : Pieces → Prop
  | .nil => True
  | .char _ rest => rest.Nested
  | .pair inner rest => inner.Nested ∧ '[' ∉ inner.bare ∧ ']' ∉ inner.bare ∧ rest.Nested

/-- The pieces of a text in which every closer has the nearest open opener for its partner: what
stands between partners has all its partners there, and a closer is without a partner only where no
opener is. -/
structure Reads (pieces : Pieces) (source : List Char) : Prop where
  text : pieces.text = source
  nested : pieces.Nested
  apart : ¬ ['[', ']'].Sublist pieces.bare

/-- Takes pieces apart at the first closer outside all pairs. -/
def splitCloser? : Pieces → Option (Pieces × Pieces)
  | .nil => none
  | .char c rest =>
    if c = ']' then some (.nil, rest)
    else rest.splitCloser?.map fun (front, back) => (.char c front, back)
  | .pair inner rest => rest.splitCloser?.map fun (front, back) => (.pair inner front, back)

/-- Reads a text from its end on: an opener takes everything up to the first closer that has no
partner yet. -/
def read : List Char → Pieces
  | [] => .nil
  | c :: source =>
    if c = '[' then
      match (read source).splitCloser? with
      | some (inner, rest) => .pair inner rest
      | none => .char c (read source)
    else .char c (read source)

theorem splitCloser?_of_not_mem {pieces : Pieces} (unclosed : ']' ∉ pieces.bare) :
    pieces.splitCloser? = none := by
  induction pieces with
  | nil => rfl
  | char c rest ih =>
      obtain ⟨first, others⟩ := not_or.mp (List.mem_cons.not.mp unclosed)
      simp only [splitCloser?, if_neg (Ne.symm first), ih others, Option.map_none]
  | pair inner rest _ ih => simp only [splitCloser?, ih unclosed, Option.map_none]

theorem splitCloser?_append {front : Pieces} (unclosed : ']' ∉ front.bare) (back : Pieces) :
    (front.append (.char ']' back)).splitCloser? = some (front, back) := by
  induction front with
  | nil => rfl
  | char c rest ih =>
      obtain ⟨first, others⟩ := not_or.mp (List.mem_cons.not.mp unclosed)
      simp only [append, splitCloser?, if_neg (Ne.symm first), ih others, Option.map_some]
  | pair inner rest _ ih => simp only [append, splitCloser?, ih unclosed, Option.map_some]

theorem exists_of_mem_bare {pieces : Pieces} (closed : ']' ∈ pieces.bare) :
    ∃ front back : Pieces, ']' ∉ front.bare ∧ pieces = front.append (.char ']' back) := by
  induction pieces with
  | nil => cases closed
  | char c rest ih =>
      by_cases same : c = ']'
      · subst same
        exact ⟨.nil, rest, List.not_mem_nil, rfl⟩
      · have later := (List.mem_cons.mp closed).resolve_left (Ne.symm same)
        obtain ⟨front, back, unclosed, rfl⟩ := ih later
        refine ⟨.char c front, back, ?_, rfl⟩
        exact List.not_mem_cons_of_ne_of_not_mem (Ne.symm same) unclosed
  | pair inner rest _ ih =>
      obtain ⟨front, back, unclosed, rfl⟩ := ih closed
      exact ⟨.pair inner front, back, unclosed, rfl⟩

theorem text_append (front back : Pieces) : (front.append back).text = front.text ++ back.text := by
  induction front with
  | nil => rfl
  | char c rest ih => simp only [append, text, ih, List.cons_append]
  | pair inner rest _ ih => simp only [append, text, ih, List.cons_append, List.append_assoc]

theorem bare_append (front back : Pieces) : (front.append back).bare = front.bare ++ back.bare := by
  induction front with
  | nil => rfl
  | char c rest ih => simp only [append, bare, ih, List.cons_append]
  | pair inner rest _ ih => exact ih

theorem nested_append {front back : Pieces} :
    (front.append back).Nested ↔ front.Nested ∧ back.Nested := by
  induction front with
  | nil => simp only [append, Nested, true_and]
  | char c rest ih => exact ih
  | pair inner rest _ ih => simp only [append, Nested, ih, and_assoc]

theorem reads_read (source : List Char) : (read source).Reads source := by
  induction source with
  | nil => exact ⟨rfl, trivial, fun sub => nomatch sub⟩
  | cons c source ih =>
      obtain ⟨same, nested, apart⟩ := ih
      unfold read
      by_cases opens : c = '['
      · subst opens
        rw [if_pos rfl]
        by_cases closed : ']' ∈ (read source).bare
        · obtain ⟨front, back, unclosed, split⟩ := exists_of_mem_bare closed
          rw [split] at same nested apart ⊢
          rw [splitCloser?_append unclosed]
          rw [bare_append] at apart
          obtain ⟨nestedFront, nestedBack⟩ := nested_append.mp nested
          have unopened : '[' ∉ front.bare := by
            intro member
            have closer : ']' ∈ (char ']' back).bare := List.mem_cons_self ..
            exact apart (List.Sublist.append (List.singleton_sublist.mpr member)
              (List.singleton_sublist.mpr closer))
          refine ⟨?_, ⟨nestedFront, unopened, unclosed, nestedBack⟩, fun sub => apart ?_⟩
          · rw [← same, text_append]
            rfl
          · exact (sub.cons ']').trans (List.sublist_append_right _ _)
        · rw [splitCloser?_of_not_mem closed]
          refine ⟨congrArg (List.cons '[') same, nested, fun sub => ?_⟩
          have later : [']'].Sublist (read source).bare := by
            cases sub with
            | cons _ sub => exact absurd sub apart
            | cons_cons _ sub => exact sub
          exact closed (List.singleton_sublist.mp later)
      · rw [if_neg opens]
        refine ⟨congrArg (List.cons c) same, nested, fun sub => ?_⟩
        cases sub with
        | cons _ sub => exact apart sub
        | cons_cons _ sub => exact opens rfl

theorem read_opener {inner : Pieces} {source : List Char} (unclosed : ']' ∉ inner.bare)
    (closed : read (inner.text ++ ']' :: source) = inner.append (read (']' :: source))) :
    read ('[' :: (inner.text ++ ']' :: source)) = .pair inner (read source) := by
  have closer : read (']' :: source) = .char ']' (read source) := if_neg (by decide)
  rw [read, if_pos rfl, closed, closer, splitCloser?_append unclosed]

theorem read_text_append {front : Pieces} (nested : front.Nested) (unopened : '[' ∉ front.bare)
    (unclosed : ']' ∉ front.bare) (source : List Char) :
    read (front.text ++ source) = front.append (read source) := by
  induction front generalizing source with
  | nil => rfl
  | char c rest ih =>
      obtain ⟨first, others⟩ := not_or.mp (List.mem_cons.not.mp unopened)
      simp only [text, List.cons_append, read, if_neg (Ne.symm first)]
      rw [ih nested others (fun member => unclosed (List.mem_cons_of_mem _ member))]
      rfl
  | pair inner rest ihInner ihRest =>
      obtain ⟨nestedInner, unopenedInner, unclosedInner, nestedRest⟩ := nested
      have closed := ihInner nestedInner unopenedInner unclosedInner
      simp only [text, List.cons_append, List.append_assoc]
      rw [read_opener unclosedInner (closed _), ihRest nestedRest unopened unclosed]
      rfl

theorem read_text_pair {inner rest : Pieces} (nested : (pair inner rest).Nested) :
    read (pair inner rest).text = .pair inner (read rest.text) := by
  obtain ⟨nestedInner, unopened, unclosed, _⟩ := nested
  exact read_opener unclosed (read_text_append nestedInner unopened unclosed _)

theorem read_text_of_unclosed {pieces : Pieces} (nested : pieces.Nested)
    (unclosed : ']' ∉ pieces.bare) : read pieces.text = pieces := by
  induction pieces with
  | nil => rfl
  | char c rest ih =>
      have others : ']' ∉ rest.bare := fun member => unclosed (List.mem_cons_of_mem _ member)
      simp only [text, read, ih nested others, splitCloser?_of_not_mem others, ite_self]
  | pair inner rest _ ih => rw [read_text_pair nested, ih nested.2.2.2 unclosed]

theorem read_text {pieces : Pieces} (nested : pieces.Nested)
    (apart : ¬ ['[', ']'].Sublist pieces.bare) : read pieces.text = pieces := by
  induction pieces with
  | nil => rfl
  | char c rest ih =>
      by_cases opens : c = '['
      · subst opens
        refine read_text_of_unclosed nested fun member => apart ?_
        have later := (List.mem_cons.mp member).resolve_left (by decide)
        exact (List.singleton_sublist.mpr later).cons_cons '['
      · simp only [text, read, if_neg opens]
        rw [ih nested fun sub => apart (sub.cons c)]
  | pair inner rest _ ih => rw [read_text_pair nested, ih nested.2.2.2 apart]

theorem Reads.eq_read {pieces : Pieces} {source : List Char} (h : pieces.Reads source) :
    pieces = read source := by
  obtain ⟨rfl, nested, apart⟩ := h
  exact (read_text nested apart).symm

end Pieces

end CommandScript.Expansion
