import CommandScript.Token.Lexeme
import Mathlib.Data.List.Infix

/-! Balanced texts, and the reader of pairs: behind an opener it takes the balanced text before a
closer, whatever else that text contains. As long as it reads it counts the openers less the closers
of what it has taken. -/

namespace CommandScript

variable {opener closer : Char}

/-- A text with as many openers as closers and no prefix with more closers than openers. -/
structure Balanced (opener closer : Char) (text : List Char) : Prop where
  count_eq : text.count opener = text.count closer
  count_le : ∀ front, front <+: text → front.count closer ≤ front.count opener

instance (text : List Char) : Decidable (Balanced opener closer text) :=
  decidable_of_iff (text.count opener = text.count closer ∧
      ∀ front ∈ text.inits, front.count closer ≤ front.count opener)
    ⟨fun h => ⟨h.1, fun front starts => h.2 front ((List.mem_inits front text).mpr starts)⟩,
      fun h => ⟨h.count_eq, fun front member =>
        h.count_le front ((List.mem_inits front text).mp member)⟩⟩

/-- A text that closes itself and so many openers before it, and never one that is not there. -/
structure Closes (opener closer : Char) (inner : Nat) (text : List Char) : Prop where
  count_eq : inner + text.count opener = text.count closer
  count_le : ∀ front, front <+: text → front.count closer ≤ inner + front.count opener

theorem closes_zero_iff {text : List Char} :
    Closes opener closer 0 text ↔ Balanced opener closer text := by
  constructor
  · rintro ⟨count_eq, count_le⟩
    simp only [Nat.zero_add] at count_eq count_le
    exact ⟨count_eq, count_le⟩
  · rintro ⟨count_eq, count_le⟩
    refine ⟨?_, ?_⟩
    · rw [Nat.zero_add, count_eq]
    · simpa only [Nat.zero_add] using count_le

theorem closes_nil_iff {inner : Nat} : Closes opener closer inner [] ↔ inner = 0 := by
  constructor
  · intro h
    exact h.count_eq
  · rintro rfl
    refine ⟨rfl, fun front ends => ?_⟩
    rw [List.prefix_nil.mp ends]
    exact Nat.le_refl 0

/-- A text that never closes more than its own openers and so many before it. -/
def Unclosed (opener closer : Char) (inner : Nat) (text : List Char) : Prop :=
  ∀ front, front <+: text → front.count closer ≤ inner + front.count opener

theorem unclosed_nil (inner : Nat) : Unclosed opener closer inner [] := by
  intro front begins
  rw [List.prefix_nil.mp begins]
  exact Nat.zero_le _

theorem unclosed_cons_iff {c : Char} {inner left : Nat} {text : List Char}
    (leaves : left + (if c = closer then 1 else 0) = inner + if c = opener then 1 else 0) :
    Unclosed opener closer inner (c :: text) ↔ Unclosed opener closer left text := by
  constructor
  · intro unclosed front begins
    have bound := unclosed (c :: front) ((List.prefix_cons_inj c).mpr begins)
    simp only [List.count_cons, beq_iff_eq] at bound
    omega
  · intro unclosed front begins
    rcases List.prefix_cons_iff.mp begins with rfl | ⟨front, rfl, inside⟩
    · exact Nat.zero_le _
    · have bound := unclosed front inside
      simp only [List.count_cons, beq_iff_eq]
      omega

theorem not_unclosed_closer (distinct : opener ≠ closer) (text : List Char) :
    ¬ Unclosed opener closer 0 (closer :: text) := by
  intro unclosed
  have bound := unclosed [closer] ⟨text, rfl⟩
  simp only [List.count_singleton_self, List.count_singleton, beq_iff_eq, distinct.symm,
    if_false] at bound
  omega

theorem closes_cons_iff {c : Char} {inner left : Nat} {text : List Char}
    (leaves : left + (if c = closer then 1 else 0) = inner + if c = opener then 1 else 0) :
    Closes opener closer inner (c :: text) ↔ Closes opener closer left text := by
  constructor
  · rintro ⟨count_eq, count_le⟩
    refine ⟨?_, (unclosed_cons_iff leaves).mp count_le⟩
    simp only [List.count_cons, beq_iff_eq] at count_eq
    omega
  · rintro ⟨count_eq, count_le⟩
    refine ⟨?_, (unclosed_cons_iff leaves).mpr count_le⟩
    simp only [List.count_cons, beq_iff_eq]
    omega

namespace Lexeme

def after (front : List Char) (result : Except Nat (List Char × List Char)) :
    Except Nat (List Char × List Char) :=
  result.map fun (s, rest) => (front ++ s, rest)

theorem after_nil (result : Except Nat (List Char × List Char)) : after [] result = result := by
  cases result <;> rfl

theorem after_after (front more : List Char) (result : Except Nat (List Char × List Char)) :
    after front (after more result) = after (front ++ more) result := by
  cases result with
  | error depth => rfl
  | ok pair => exact congrArg (fun s => Except.ok (s, pair.2)) (List.append_assoc ..).symm

theorem after_eq_error_iff {front : List Char} {result : Except Nat (List Char × List Char)}
    {depth : Nat} : after front result = .error depth ↔ result = .error depth := by
  cases result with
  | error other => exact Iff.rfl
  | ok pair => exact iff_of_false nofun nofun

theorem after_eq_ok_iff {front s t : List Char} {result : Except Nat (List Char × List Char)} :
    after front result = .ok (s, t) ↔ ∃ u, s = front ++ u ∧ result = .ok (u, t) := by
  cases result with
  | error depth => exact iff_of_false nofun nofun
  | ok pair =>
      constructor
      · intro taken
        cases taken
        exact ⟨pair.1, rfl, rfl⟩
      · rintro ⟨u, rfl, read⟩
        cases read
        rfl

/-- One character: the closer of the pair ends it, and any other character is taken and counted. -/
theorem readPair_cons (distinct : opener ≠ closer) (inner : Nat) (c : Char) (rest : List Char) :
    (inner = 0 ∧ c = closer ∧ readPair opener closer inner (c :: rest) = .ok ([], rest)) ∨
    ∃ left, left + (if c = closer then 1 else 0) = inner + (if c = opener then 1 else 0) ∧
      readPair opener closer inner (c :: rest) = after [c] (readPair opener closer left rest) := by
  by_cases opens : c = opener
  · have other : c ≠ closer := opens ▸ distinct
    refine .inr ⟨inner + 1, ?_, if_pos opens⟩
    rw [if_neg other, if_pos opens]
  · by_cases ends : c = closer
    · cases inner with
      | zero => exact .inl ⟨rfl, ends, (if_neg opens).trans (if_pos ends)⟩
      | succ left =>
          refine .inr ⟨left, ?_, (if_neg opens).trans (if_pos ends)⟩
          rw [if_pos ends, if_neg opens]
    · refine .inr ⟨inner, ?_, (if_neg opens).trans (if_neg ends)⟩
      rw [if_neg ends, if_neg opens]

/-- The reader of pairs takes the text that closes all openers, up to the closer behind it. The
induction is on the text; the openers that are open change with every opener and closer of it. -/
theorem readPair_eq_ok_iff (distinct : opener ≠ closer) {inner : Nat} {text s t : List Char} :
    readPair opener closer inner text = .ok (s, t) ↔
      Closes opener closer inner s ∧ text = s ++ closer :: t := by
  induction text generalizing inner s with
  | nil =>
      constructor
      · intro read
        cases read
      · rintro ⟨_, whole⟩
        exact absurd whole.symm (List.append_ne_nil_of_right_ne_nil s (List.cons_ne_nil _ _))
  | cons c rest ih =>
      rcases readPair_cons distinct inner c rest with ⟨rfl, rfl, read⟩ | ⟨left, leaves, step⟩
      · rw [read]
        constructor
        · intro same
          cases same
          exact ⟨closes_nil_iff.mpr rfl, rfl⟩
        · rintro ⟨closes, whole⟩
          cases s with
          | nil =>
              obtain ⟨_, rfl⟩ := List.cons.inj whole
              rfl
          | cons d u =>
              obtain ⟨rfl, _⟩ := List.cons.inj whole
              exact absurd closes.count_le (not_unclosed_closer distinct u)
      · rw [step, after_eq_ok_iff]
        constructor
        · rintro ⟨u, rfl, read⟩
          obtain ⟨closes, rfl⟩ := ih.mp read
          exact ⟨(closes_cons_iff leaves).mpr closes, rfl⟩
        · rintro ⟨closes, whole⟩
          cases s with
          | nil =>
              -- The character would be the closer of the pair, which is not taken.
              have ends : c = closer := (List.cons.inj whole).1
              rw [closes_nil_iff.mp closes, if_pos ends, if_neg (ends ▸ distinct.symm)] at leaves
              omega
          | cons d u =>
              obtain ⟨rfl, behind⟩ := List.cons.inj whole
              exact ⟨u, rfl, ih.mpr ⟨(closes_cons_iff leaves).mp closes, behind⟩⟩

/-- The reader goes through a text that leaves the pair open, and has counted its openers and
closers behind it. -/
theorem readPair_of_unclosed (distinct : opener ≠ closer) {inner : Nat} {front : List Char}
    (unclosed : Unclosed opener closer inner front) (rest : List Char) :
    ∃ left, left + front.count closer = inner + front.count opener ∧
      readPair opener closer inner (front ++ rest) =
        after front (readPair opener closer left rest) := by
  induction front generalizing inner with
  | nil => exact ⟨inner, rfl, (after_nil _).symm⟩
  | cons c front ih =>
      rcases readPair_cons distinct inner c (front ++ rest) with
        ⟨rfl, rfl, _⟩ | ⟨left, leaves, step⟩
      · exact absurd unclosed (not_unclosed_closer distinct front)
      · obtain ⟨last, count, through⟩ := ih ((unclosed_cons_iff leaves).mp unclosed)
        refine ⟨last, ?_, ?_⟩
        · simp only [List.count_cons, beq_iff_eq]
          omega
        · rw [List.cons_append, step, through, after_after, List.singleton_append]

/-- A pair that is left open at the end of the text has been open all the time. -/
theorem unclosed_of_readPair_eq_error (distinct : opener ≠ closer) {inner depth : Nat}
    {text : List Char} (unread : readPair opener closer inner text = .error depth) :
    Unclosed opener closer inner text ∧
      depth + text.count closer = inner + 1 + text.count opener := by
  induction text generalizing inner with
  | nil =>
      cases unread
      exact ⟨unclosed_nil inner, rfl⟩
  | cons c rest ih =>
      rcases readPair_cons distinct inner c rest with ⟨_, _, read⟩ | ⟨left, leaves, step⟩
      · rw [read] at unread
        cases unread
      · rw [step, after_eq_error_iff] at unread
        obtain ⟨unclosed, count⟩ := ih unread
        refine ⟨(unclosed_cons_iff leaves).mpr unclosed, ?_⟩
        simp only [List.count_cons, beq_iff_eq]
        omega

/-- Characters other than the two delimiters may be any others. -/
theorem readPair_map {f : Char → Char} (opens : ∀ d, f d = opener ↔ d = opener)
    (closes : ∀ d, f d = closer ↔ d = closer) (inner : Nat) (text : List Char) :
    readPair opener closer inner (text.map f) =
      (readPair opener closer inner text).map (Prod.map (List.map f) (List.map f)) := by
  have step : ∀ {left : Nat} {c : Char} {rest : List Char},
      readPair opener closer left (rest.map f) =
        (readPair opener closer left rest).map (Prod.map (List.map f) (List.map f)) →
      after [f c] (readPair opener closer left (rest.map f)) =
        (after [c] (readPair opener closer left rest)).map
          (Prod.map (List.map f) (List.map f)) := by
    intro left c rest read
    rw [read]
    cases readPair opener closer left rest <;> rfl
  induction text generalizing inner with
  | nil => rfl
  | cons c rest ih =>
      rw [List.map_cons]
      unfold readPair
      simp only [opens, closes]
      split
      · exact step (ih _)
      · split
        · cases inner with
          | zero => rfl
          | succ left => exact step (ih _)
        · exact step (ih _)

end Lexeme

end CommandScript
