import CommandScript.Proofs.Reading.Numbers
import CommandScript.Runner.Report

namespace CommandScript

namespace Text

open Lexeme

/-- An integer in decimal digits, with or without a sign in front. -/
inductive Signed : List Char → Int → Prop
  | written {text n} (h : Writes text n) : Signed text n
  | plus {digits} (h : IsDigits digits) : Signed ('+' :: digits) (positional 10 digits)

/-- A text that denotes an integer: nothing but blanks stands around its digits and sign. -/
def Denotes (text : List Char) (n : Int) : Prop :=
  ∃ before integer after, text = before ++ integer ++ after ∧
    (∀ c ∈ before ++ after, isBlank c = true) ∧ Signed integer n

theorem splitSign_of_isDigits {digits : List Char} (h : IsDigits digits) :
    splitSign digits = (false, digits) := by
  obtain ⟨d, rest, rfl, digit⟩ := h.exists_cons
  unfold splitSign
  split
  · next same => exact absurd (List.cons.inj same).1 (ne_of_isDigit digit rfl)
  · next same => exact absurd (List.cons.inj same).1 (ne_of_isDigit digit rfl)
  · rfl

theorem signed_iff {text : List Char} {n : Int} :
    Signed text n ↔ IsDigits (splitSign text).2 ∧
      n = if (splitSign text).1 then -(positional 10 (splitSign text).2 : Int)
        else positional 10 (splitSign text).2 := by
  constructor
  · intro signed
    cases signed with
    | written h =>
        cases h with
        | plain digits =>
            rw [splitSign_of_isDigits digits]
            exact ⟨digits, rfl⟩
        | negative digits => exact ⟨digits, rfl⟩
    | plus digits => exact ⟨digits, rfl⟩
  · rintro ⟨digits, rfl⟩
    unfold splitSign at digits ⊢
    split at digits
    · exact .written (.negative digits)
    · exact .plus digits
    · exact .written (.plain digits)

theorem readInteger?_eq_some_iff {text : List Char} {n : Int} :
    readInteger? text = some n ↔ Signed text n := by
  rw [signed_iff]
  unfold readInteger?
  obtain ⟨negative, digits⟩ := splitSign text
  dsimp only
  constructor
  · intro read
    split at read
    · next given =>
        have isDigits : IsDigits digits := ⟨given.1, List.all_eq_true.mp given.2⟩
        rw [← digitsValue_eq_positional, digitsValue_of_isDigits isDigits]
        exact ⟨isDigits, (Option.some.inj read).symm⟩
    · cases read
  · rintro ⟨isDigits, rfl⟩
    rw [if_pos ⟨isDigits.nonempty, List.all_eq_true.mpr isDigits.all⟩,
      ← digitsValue_eq_positional, digitsValue_of_isDigits isDigits]

theorem isBlank_of_isDigit {c : Char} (digit : c.isDigit = true) : isBlank c = false := by
  have range : 48 ≤ c.toNat ∧ c.toNat ≤ 57 := Char.isDigit_iff_toNat.mp digit
  simp only [isBlank, Bool.or_eq_false_iff, Bool.and_eq_false_iff, decide_eq_false_iff_not,
    beq_eq_false_iff_ne]
  omega

theorem Signed.visible {text : List Char} {n : Int} (signed : Signed text n) :
    text ≠ [] ∧ ∀ c ∈ text, isBlank c = false := by
  have digits : ∀ {digits : List Char}, IsDigits digits → ∀ c ∈ digits, isBlank c = false :=
    fun h c member => isBlank_of_isDigit (h.all c member)
  cases signed with
  | written h =>
      cases h with
      | plain h => exact ⟨h.nonempty, digits h⟩
      | negative h => exact ⟨List.cons_ne_nil _ _, List.forall_mem_cons.mpr ⟨rfl, digits h⟩⟩
  | plus h => exact ⟨List.cons_ne_nil _ _, List.forall_mem_cons.mpr ⟨rfl, digits h⟩⟩

theorem trim_eq {before word after : List Char} (blank : ∀ c ∈ before ++ after, isBlank c = true)
    (nonempty : word ≠ []) (visible : ∀ c ∈ word, isBlank c = false) :
    trim (before ++ word ++ after) = word := by
  obtain ⟨front, back⟩ := List.forall_mem_append.mp blank
  have leading : LongestRun isBlank before (word ++ after) := by
    refine ⟨front, fun c first => visible c ?_⟩
    rw [List.head?_append_of_ne_nil word nonempty] at first
    exact List.mem_of_mem_head? first
  have trailing : LongestRun isBlank after.reverse word.reverse := by
    refine ⟨fun c member => back c (List.mem_reverse.mp member), fun c first => ?_⟩
    exact visible c (List.mem_reverse.mp (List.mem_of_mem_head? first))
  rw [trim, List.append_assoc, leading.dropWhile_append, List.reverse_append,
    trailing.dropWhile_append, List.reverse_reverse]

theorem exists_trim (text : List Char) :
    ∃ before after, text = before ++ trim text ++ after ∧
      ∀ c ∈ before ++ after, isBlank c = true := by
  refine ⟨text.takeWhile isBlank, ((text.dropWhile isBlank).reverse.takeWhile isBlank).reverse,
    ?_, ?_⟩
  · rw [trim, List.append_assoc, ← List.reverse_append, List.takeWhile_append_dropWhile,
      List.reverse_reverse, List.takeWhile_append_dropWhile]
  · simp only [List.mem_append, List.mem_reverse]
    rintro c (member | member) <;> exact List.mem_takeWhile_imp member

/-- The integer that a trimmed text is read as is the one that the text denotes. -/
theorem readInteger?_trim_eq_some_iff {text : List Char} {n : Int} :
    readInteger? (trim text) = some n ↔ Denotes text n := by
  rw [readInteger?_eq_some_iff]
  constructor
  · intro signed
    obtain ⟨before, after, whole, blank⟩ := exists_trim text
    exact ⟨before, trim text, after, whole, blank, signed⟩
  · rintro ⟨before, integer, after, rfl, blank, signed⟩
    rw [trim_eq blank signed.visible.1 signed.visible.2]
    exact signed

theorem Denotes.unique {text : List Char} {m n : Int} (h : Denotes text m) (h' : Denotes text n) :
    m = n := by
  have read := readInteger?_trim_eq_some_iff.mpr h
  rw [readInteger?_trim_eq_some_iff.mpr h'] at read
  exact (Option.some.inj read).symm

theorem not_denotes_nil (n : Int) : ¬ Denotes [] n := by
  rintro ⟨before, integer, after, whole, _, signed⟩
  obtain ⟨⟨rfl, rfl⟩, rfl⟩ := (List.nil_eq_append_iff.mp whole).imp_left List.append_eq_nil_iff.mp
  exact signed.visible.1 rfl

end Text

namespace Runner

theorem exitNumber?_eq_some_iff {value : String} {n : Int} :
    exitNumber? value = some n ↔
      Text.Denotes value.toList n ∧ -2 ^ 31 ≤ n ∧ n ≤ 2 ^ 31 - 1 := by
  rw [exitNumber?, Option.filter_eq_some_iff, Text.readInteger?_trim_eq_some_iff,
    decide_eq_true_iff]
  exact .rfl

theorem exitNumber?_eq_none_iff {value : String} :
    exitNumber? value = none ↔
      ∀ n, Text.Denotes value.toList n → ¬ (-2 ^ 31 ≤ n ∧ n ≤ 2 ^ 31 - 1) := by
  simp only [Option.eq_none_iff_forall_ne_some, ne_eq, exitNumber?_eq_some_iff, not_and]

theorem exitCode_le (n : Int) : exitCode n ≤ 255 := by
  unfold exitCode
  split
  · omega
  · exact Nat.le_refl 255

namespace Report

theorem code_le (result : Except Failure Outcome) : (ofResult result).code ≤ 255 := by
  cases result with
  | error cause => exact Nat.one_le_ofNat
  | ok outcome =>
      cases outcome with
      | normal value | returned value => exact Nat.zero_le _
      | exited value =>
          simp only [ofResult]
          cases exitNumber? value with
          | none => exact Nat.zero_le _
          | some n => exact exitCode_le n

/-- A script that exits with an integer has it for its code, or 255 if that is no code, and prints
nothing, exactly if the integer has 32 bits. A value that is no integer is printed, if it is not
empty, and the code is 0. No code is beyond 255, however the script ends. -/
theorem exit_value_is_honoured_iff (value : String) (result : Except Failure Outcome) :
    (∀ n, Text.Denotes value.toList n →
      (ofResult (.ok (.exited value)) = { code := if 0 ≤ n ∧ n ≤ 255 then n.toNat else 255 } ↔
        -2 ^ 31 ≤ n ∧ n ≤ 2 ^ 31 - 1)) ∧
    ((∀ n, ¬ Text.Denotes value.toList n) →
      ofResult (.ok (.exited value)) = { stdout := if value = "" then none else some value }) ∧
    (ofResult result).code ≤ 255 := by
  have shown : exitNumber? value = none →
      ofResult (.ok (.exited value)) = { stdout := printed value } := by
    intro other
    rw [ofResult, other]
  refine ⟨fun n denotes => ⟨fun honoured => ?_, fun fits => ?_⟩, fun other => ?_, code_le result⟩
  · -- An integer that does not fit would be printed.
    by_contra unfit
    have other : exitNumber? value = none := by
      refine exitNumber?_eq_none_iff.mpr fun m denotes' => ?_
      rw [denotes'.unique denotes]
      exact unfit
    rw [shown other] at honoured
    have nothing : printed value = none := congrArg Report.stdout honoured
    unfold printed at nothing
    split at nothing
    · next empty =>
        subst empty
        exact Text.not_denotes_nil n denotes
    · cases nothing
  · rw [ofResult, exitNumber?_eq_some_iff.mpr ⟨denotes, fits⟩]
    rfl
  · exact shown (exitNumber?_eq_none_iff.mpr fun n denotes => absurd denotes (other n))

/-- A code with a plus sign and a zero in front of it, between two kinds of blanks. -/
def paddedCode : String := "\u3000+0254\n"

theorem denotes_paddedCode : Text.Denotes paddedCode.toList 254 :=
  ⟨['\u3000'], ['+', '0', '2', '5', '4'], ['\n'], rfl,
    List.all_eq_true.mp (by decide), .plus ⟨List.cons_ne_nil _ _, List.all_eq_true.mp (by decide)⟩⟩

theorem paddedCode_is_honoured :
    Text.Denotes paddedCode.toList 254 ∧
    ofResult (.ok (.exited paddedCode)) = { code := 254 } ∧
    ofResult (.ok (.exited "0x10")) = { stdout := some "0x10" } := by
  have honoured := (exit_value_is_honoured_iff paddedCode (.ok (.normal ""))).1
  refine ⟨denotes_paddedCode, (honoured 254 denotes_paddedCode).mpr (by decide), ?_⟩
  refine (exit_value_is_honoured_iff "0x10" (.ok (.normal ""))).2.1 fun n denotes => ?_
  have read : Text.readInteger? (Text.trim "0x10".toList) = none := by decide
  rw [Text.readInteger?_trim_eq_some_iff.mpr denotes] at read
  cases read

/-- One more than the greatest integer of 32 bits is printed, as if the script had succeeded. -/
theorem exit_value_beyond_32_bits_is_printed :
    Text.Denotes "2147483648".toList 2147483648 ∧
    ofResult (.ok (.exited "2147483648")) = { stdout := some "2147483648" } ∧
    ¬ ∀ value n, Text.Denotes value.toList n →
      ofResult (.ok (.exited value)) = { code := if 0 ≤ n ∧ n ≤ 255 then n.toNat else 255 } := by
  have denotes : Text.Denotes "2147483648".toList 2147483648 :=
    ⟨[], "2147483648".toList, [], rfl, nofun,
      .written (.plain ⟨List.cons_ne_nil _ _, List.all_eq_true.mp (by decide)⟩)⟩
  have shown : ofResult (.ok (.exited "2147483648")) = { stdout := some "2147483648" } := by decide
  refine ⟨denotes, shown, fun honoured => ?_⟩
  rw [honoured _ _ denotes] at shown
  cases shown

end Report

end Runner

end CommandScript
