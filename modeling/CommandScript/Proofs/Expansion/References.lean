import CommandScript.Expansion.Bracket
import Mathlib.Data.List.TakeWhile

/-! References in a text. A text is made of doubled dollar signs, of references to variables and of
other characters, and it can be taken apart in this way in exactly one manner, whatever the values
of the variables are. Substitution puts the value in the place of each reference. It does the same
as a loop that goes from dollar sign to dollar sign and looks ahead for closing braces, and this
loop ends. -/

namespace CommandScript.Expansion

structure IsName (name : List Char) : Prop where
  nonempty : name ≠ []
  chars : ∀ c ∈ name, isNameChar c = true

instance (name : List Char) : Decidable (IsName name) :=
  decidable_of_iff (name ≠ [] ∧ name.all isNameChar = true)
    ⟨fun ⟨nonempty, chars⟩ => ⟨nonempty, List.all_eq_true.mp chars⟩,
      fun h => ⟨h.nonempty, List.all_eq_true.mpr h.chars⟩⟩

/-- The value of a variable, nothing if it has none. -/
def valueOrEmpty (value : String → Option String) (name : List Char) : List Char :=
  ((value (String.ofList name)).getD "").toList

/-- A part of a text: a doubled dollar sign, a reference with its name in braces or without them,
or a single character. -/
inductive Fragment where
  | dollar
  | braced (name : List Char)
  | bare (name : List Char)
  | char (c : Char)
deriving DecidableEq, Repr

namespace Fragment

def text : Fragment → List Char
  | .dollar => ['$', '$']
  | .braced name => '$' :: '\x7b' :: (name ++ ['\x7d'])
  | .bare name => '$' :: name
  | .char c => [c]

/-- What comes in the place of a fragment. -/
def meaning (value : String → Option String) : Fragment → List Char
  | .dollar => ['$']
  | .braced name | .bare name => valueOrEmpty value name
  | .char c => [c]

/-- The fragments that a dollar sign can start, single characters apart. -/
def IsForm : Fragment → Prop
  | .dollar => True
  | .braced name | .bare name => IsName name
  | .char _ => False

/-- Whether a fragment is read before a text: a bare name is as long as it can be, and a character
is read by itself only where it starts no form. -/
def Fits (rest : List Char) : Fragment → Prop
  | .dollar => True
  | .braced name => IsName name
  | .bare name => IsName name ∧ ∀ c ∈ rest.head?, isNameChar c = false
  | .char c => ∀ form : Fragment, form.IsForm → ¬ form.text <+: c :: rest

end Fragment

/-- The fragments of a text from left to right. -/
inductive Splits : List Fragment → List Char → Prop
  | nil : Splits [] []
  | cons {fragment fragments rest} (here : fragment.Fits rest) (behind : Splits fragments rest) :
      Splits (fragment :: fragments) (fragment.text ++ rest)

/-! Names at the start of a text. -/

theorem takeWhile_eq_nil_of_head? {kind : Char → Bool} {text : List Char}
    (ends : ∀ c ∈ text.head?, kind c = false) :
    text.takeWhile kind = [] ∧ text.dropWhile kind = text := by
  cases text with
  | nil => exact ⟨rfl, rfl⟩
  | cons c rest =>
      have other : ¬ kind c = true := by
        rw [ends c rfl]
        exact Bool.false_ne_true
      exact ⟨List.takeWhile_cons_of_neg other, List.dropWhile_cons_of_neg other⟩

theorem bareName?_eq_some_iff {text name rest : List Char} :
    bareName? text = some (name, rest) ↔
      IsName name ∧ text = name ++ rest ∧ ∀ c ∈ rest.head?, isNameChar c = false := by
  constructor
  · intro found
    unfold bareName? at found
    dsimp only at found
    split at found
    · cases found
    · next some =>
        cases found
        refine ⟨⟨some, fun _ => List.mem_takeWhile_imp⟩, List.takeWhile_append_dropWhile.symm, ?_⟩
        intro c first
        have stops := List.head?_dropWhile_not isNameChar text
        rw [Option.mem_def.mp first] at stops
        exact stops
  · rintro ⟨isName, rfl, ends⟩
    obtain ⟨empty, behind⟩ := takeWhile_eq_nil_of_head? ends
    rw [bareName?, List.takeWhile_append_of_pos isName.chars,
      List.dropWhile_append_of_pos isName.chars, empty, behind, List.append_nil]
    exact if_neg isName.nonempty

theorem bareName?_eq_none_iff {text : List Char} :
    bareName? text = none ↔ ∀ c ∈ text.head?, isNameChar c = false := by
  constructor
  · intro missing c first
    obtain ⟨rest, rfl⟩ := List.head?_eq_some_iff.mp first
    refine Bool.eq_false_iff.mpr fun char => ?_
    rw [bareName?, List.takeWhile_cons_of_pos char] at missing
    cases missing
  · intro ends
    rw [bareName?, (takeWhile_eq_nil_of_head? ends).1]
    exact if_pos rfl

theorem bracedName?_eq_some_iff {text name rest : List Char} :
    bracedName? text = some (name, rest) ↔ IsName name ∧ text = name ++ '\x7d' :: rest := by
  constructor
  · intro found
    unfold bracedName? at found
    split at found
    · next bare =>
        cases found
        obtain ⟨isName, whole, _⟩ := bareName?_eq_some_iff.mp bare
        exact ⟨isName, whole⟩
    · cases found
  · rintro ⟨isName, rfl⟩
    have ends : ∀ c ∈ ('\x7d' :: rest).head?, isNameChar c = false := by
      intro c first
      cases first
      rfl
    rw [bracedName?, bareName?_eq_some_iff.mpr ⟨isName, rfl, ends⟩]
    rfl

namespace Fragment

/-- The form that a dollar sign before a text starts, and the text behind the form. -/
def form? : List Char → Option (Fragment × List Char)
  | '$' :: more => some (.dollar, more)
  | '\x7b' :: more => (bracedName? more).map fun (name, rest) => (.braced name, rest)
  | text => (bareName? text).map fun (name, rest) => (.bare name, rest)

/-- The first fragment of a text that starts with a given character, and the text behind it. -/
def first (c : Char) (text : List Char) : Fragment × List Char :=
  if c = '$' then (form? text).getD (.char c, text) else (.char c, text)

variable {c : Char} {text rest : List Char} {form fragment : Fragment}

theorem form?_of_isNameChar (char : isNameChar c = true) (text : List Char) :
    form? (c :: text) = (bareName? (c :: text)).map fun (name, rest) => (.bare name, rest) := by
  have other : ∀ d, isNameChar d = false → c ≠ d := by
    rintro d stops rfl
    rw [char] at stops
    cases stops
  rw [form?]
  · exact fun more same => other '$' rfl (List.cons.inj same).1
  · exact fun more same => other '\x7b' rfl (List.cons.inj same).1

theorem form?_eq_some_iff :
    form? text = some (form, rest) ↔
      form.IsForm ∧ form.Fits rest ∧ form.text ++ rest = '$' :: text := by
  constructor
  · intro found
    unfold form? at found
    split at found
    · next more =>
        cases found
        exact ⟨trivial, trivial, rfl⟩
    · next more =>
        obtain ⟨⟨name, rest⟩, braced, same⟩ := Option.map_eq_some_iff.mp found
        cases same
        obtain ⟨isName, rfl⟩ := bracedName?_eq_some_iff.mp braced
        refine ⟨isName, isName, ?_⟩
        simp only [Fragment.text, List.cons_append, List.append_assoc, List.nil_append]
    · obtain ⟨⟨name, rest⟩, bare, same⟩ := Option.map_eq_some_iff.mp found
      cases same
      obtain ⟨isName, rfl, ends⟩ := bareName?_eq_some_iff.mp bare
      exact ⟨isName, ⟨isName, ends⟩, rfl⟩
  · rintro ⟨isForm, fits, same⟩
    cases form with
    | dollar =>
        cases same
        rfl
    | braced name =>
        have whole : text = '\x7b' :: (name ++ '\x7d' :: rest) := by
          simpa only [Fragment.text, List.cons_append, List.append_assoc, List.nil_append,
            List.cons.injEq, true_and, eq_comm] using same
        rw [whole, form?, bracedName?_eq_some_iff.mpr ⟨isForm, rfl⟩]
        rfl
    | bare name =>
        obtain ⟨d, more, rfl⟩ := List.exists_cons_of_ne_nil isForm.nonempty
        have whole : text = d :: (more ++ rest) := (List.cons.inj same).2.symm
        have bare := bareName?_eq_some_iff.mpr ⟨isForm, whole, fits.2⟩
        rw [whole] at bare ⊢
        rw [form?_of_isNameChar (isForm.chars d (.head more)), bare]
        rfl
    | char d => exact isForm.elim

/-- Where the text of a form stands, some form is read. It can be another one, with a longer name. -/
theorem form?_ne_none (isForm : form.IsForm) (starts : form.text <+: '$' :: text) :
    form? text ≠ none := by
  obtain ⟨rest, same⟩ := starts
  cases form with
  | bare name =>
      obtain ⟨d, more, rfl⟩ := List.exists_cons_of_ne_nil isForm.nonempty
      have whole : text = d :: (more ++ rest) := (List.cons.inj same).2.symm
      have char := isForm.chars d (.head more)
      intro missing
      rw [whole, form?_of_isNameChar char, Option.map_eq_none_iff] at missing
      have other := bareName?_eq_none_iff.mp missing d rfl
      rw [char] at other
      cases other
  | dollar | braced name =>
      rw [form?_eq_some_iff.mpr ⟨isForm, isForm, same⟩]
      exact Option.some_ne_none _
  | char d => exact isForm.elim

theorem eq_dollar_of_isForm (isForm : form.IsForm) (starts : form.text <+: c :: text) :
    c = '$' := by
  obtain ⟨rest, same⟩ := starts
  cases form with
  | dollar | braced name | bare name => exact (List.cons.inj same).1.symm
  | char d => exact isForm.elim

theorem Fits.isForm_or (fits : fragment.Fits rest) :
    fragment.IsForm ∨ ∃ c, fragment = .char c := by
  cases fragment with
  | dollar | braced name => exact .inl fits
  | bare name => exact .inl fits.1
  | char c => exact .inr ⟨c, rfl⟩

/-- The first fragment is the one that fits: nothing of the text is lost, and no other fragment fits
there. -/
theorem first_eq_iff :
    first c text = (fragment, rest) ↔ fragment.Fits rest ∧ fragment.text ++ rest = c :: text := by
  constructor
  · intro read
    have alone : (∀ form : Fragment, form.IsForm → ¬ form.text <+: c :: text) →
        (Fragment.char c, text) = (fragment, rest) →
        fragment.Fits rest ∧ fragment.text ++ rest = c :: text := by
      intro fits same
      cases same
      exact ⟨fits, rfl⟩
    unfold first at read
    split at read
    · next dollar =>
        subst dollar
        cases found : form? text with
        | some pair =>
            rw [found] at read
            cases read
            exact (form?_eq_some_iff.mp found).2
        | none =>
            rw [found] at read
            exact alone (fun form isForm starts => form?_ne_none isForm starts found) read
    · next plain =>
        exact alone (fun form isForm starts => plain (eq_dollar_of_isForm isForm starts)) read
  · rintro ⟨fits, whole⟩
    rcases fits.isForm_or with isForm | ⟨d, rfl⟩
    · have dollar : c = '$' := eq_dollar_of_isForm isForm ⟨rest, whole⟩
      subst dollar
      rw [first, if_pos rfl, form?_eq_some_iff.mpr ⟨isForm, fits, whole⟩]
      rfl
    · obtain ⟨rfl, behind⟩ := List.cons.inj whole
      have same : rest = text := behind
      subst same
      unfold first
      split
      · next dollar =>
          subst dollar
          cases found : form? rest with
          | none => rfl
          | some pair =>
              obtain ⟨isForm, _, same⟩ := form?_eq_some_iff.mp found
              exact absurd ⟨pair.2, same⟩ (fits pair.1 isForm)
      · rfl

theorem text_ne_nil (fragment : Fragment) : fragment.text ≠ [] := by
  cases fragment <;> exact List.cons_ne_nil _ _

theorem Fits.exists_first (fits : fragment.Fits rest) :
    ∃ c text, fragment.text ++ rest = c :: text ∧ first c text = (fragment, rest) := by
  obtain ⟨c, more, start⟩ := List.exists_cons_of_ne_nil fragment.text_ne_nil
  have whole : fragment.text ++ rest = c :: (more ++ rest) := by rw [start, List.cons_append]
  exact ⟨c, more ++ rest, whole, first_eq_iff.mpr ⟨fits, whole⟩⟩

theorem fits_first (c : Char) (text : List Char) :
    (first c text).1.Fits (first c text).2 ∧
      (first c text).1.text ++ (first c text).2 = c :: text :=
  first_eq_iff.mp rfl

theorem suffix_first (c : Char) (text : List Char) : (first c text).2 <:+ text := by
  obtain ⟨_, whole⟩ := fits_first c text
  obtain ⟨d, more, start⟩ := List.exists_cons_of_ne_nil (first c text).1.text_ne_nil
  rw [start, List.cons_append] at whole
  exact ⟨more, (List.cons.inj whole).2⟩

end Fragment

open Fragment

def fragments : List Char → List Fragment
  | [] => []
  | c :: text => (first c text).1 :: fragments (first c text).2
termination_by text => text.length
decreasing_by exact Nat.lt_succ_of_le (suffix_first c text).length_le

theorem splits_fragments (text : List Char) : Splits (fragments text) text := by
  induction text using fragments.induct with
  | case1 =>
      rw [fragments]
      exact .nil
  | case2 c text ih =>
      obtain ⟨fits, whole⟩ := fits_first c text
      have splits := Splits.cons fits ih
      rw [whole] at splits
      rw [fragments]
      exact splits

theorem Splits.eq_fragments {parts : List Fragment} {text : List Char} (h : Splits parts text) :
    parts = fragments text := by
  induction h with
  | nil => rw [fragments]
  | cons here behind ih =>
      obtain ⟨c, text, whole, read⟩ := here.exists_first
      rw [whole, fragments, read, ← ih]

variable (value : String → Option String)

/-- Substitution replaces the first fragment and goes on behind it. -/
theorem substitute_cons (c : Char) (text : List Char) :
    substitute value (c :: text) =
      (first c text).1.meaning value ++ substitute value (first c text).2 := by
  rw [substitute.eq_def]
  dsimp only
  unfold first
  split
  · next dollar =>
      subst dollar
      cases text with
      | nil => exact congrArg (List.cons '$') (substitute.eq_1 value).symm
      | cons d more =>
          dsimp only
          split
          · next doubled =>
              subst doubled
              rfl
          · next single =>
              split
              · next brace =>
                  subst brace
                  rw [form?]
                  split
                  · next found => rw [found]; rfl
                  · next found => rw [found]; rfl
              · next unbraced =>
                  rw [form?]
                  · split
                    · next found => rw [found]; rfl
                    · next found => rw [found]; rfl
                  · exact fun _ same => single (List.cons.inj same).1
                  · exact fun _ same => unbraced (List.cons.inj same).1
  · rfl

variable {value}

theorem Splits.substitute_eq {parts : List Fragment} {text : List Char} (h : Splits parts text) :
    substitute value text = parts.flatMap (Fragment.meaning value) := by
  induction h with
  | nil => rw [substitute, List.flatMap_nil]
  | cons here behind ih =>
      obtain ⟨c, text, whole, read⟩ := here.exists_first
      rw [whole, substitute_cons, read, ih, List.flatMap_cons]

theorem substitute_append_of_not_mem {front : List Char} (plain : '$' ∉ front) (text : List Char) :
    substitute value (front ++ text) = front ++ substitute value text := by
  induction front with
  | nil => rfl
  | cons c front ih =>
      obtain ⟨other, others⟩ := not_or.mp (List.mem_cons.not.mp plain)
      have alone : first c (front ++ text) = (.char c, front ++ text) := if_neg (Ne.symm other)
      rw [List.cons_append, substitute_cons, alone, ih others]
      rfl

theorem substitute_of_not_mem {text : List Char} (plain : '$' ∉ text) :
    substitute value text = text := by
  have same : substitute value (text ++ []) = text ++ substitute value [] :=
    substitute_append_of_not_mem plain []
  rwa [List.append_nil, substitute, List.append_nil] at same

section Loop

/-- What a loop has written and what it has still to read. -/
structure Progress where
  written : List Char
  left : List Char

variable (value)

/-- What is written for a dollar sign before a text, and what is then left of the text. A name in
braces is all that stands before the first closing brace, wherever that is. -/
def replaceAt (text : List Char) : List Char × List Char :=
  match text with
  | '$' :: more => (['$'], more)
  | '\x7b' :: more =>
    match more.dropWhile (· ≠ '\x7d') with
    | _ :: rest =>
      let name := more.takeWhile (· ≠ '\x7d')
      if IsName name then (valueOrEmpty value name, rest) else (['$'], text)
    | [] => (['$'], text)
  | _ =>
    let name := text.takeWhile isNameChar
    (if name = [] then ['$'] else valueOrEmpty value name, text.dropWhile isNameChar)

/-- One round: copies what stands before the next dollar sign and replaces that. Without a dollar
sign there is no round. -/
def round? (p : Progress) : Option Progress :=
  match p.left.dropWhile (· ≠ '$') with
  | [] => none
  | _ :: text =>
    let (put, left) := replaceAt value text
    some ⟨p.written ++ p.left.takeWhile (· ≠ '$') ++ put, left⟩

/-- The loop ends after so many rounds and gives a text. -/
inductive Ends : Nat → Progress → List Char → Prop
  | done {p} (spent : round? value p = none) : Ends 0 p (p.written ++ p.left)
  | round {n p next result} (goes : round? value p = some next) (ends : Ends n next result) :
      Ends (n + 1) p result

variable {value}

/-- The first place of a character in a text, with what stands before and behind it. -/
theorem exists_of_dropWhile_ne {c d : Char} {text rest : List Char}
    (found : text.dropWhile (· ≠ c) = d :: rest) :
    d = c ∧ text = text.takeWhile (· ≠ c) ++ c :: rest := by
  have stops := List.head?_dropWhile_not (· ≠ c) text
  rw [found] at stops
  have same : d = c := by simpa using stops
  refine ⟨same, ?_⟩
  rw [← same, ← found, same, List.takeWhile_append_dropWhile]

theorem takeWhile_ne_append {c : Char} {front : List Char} (free : c ∉ front) (rest : List Char) :
    (front ++ c :: rest).takeWhile (· ≠ c) = front ∧
      (front ++ c :: rest).dropWhile (· ≠ c) = c :: rest := by
  have other : ∀ d ∈ front, decide (d ≠ c) = true := by
    intro d member
    exact decide_eq_true fun same => free (same ▸ member)
  rw [List.takeWhile_append_of_pos other, List.dropWhile_append_of_pos other]
  simp

theorem bracedName?_eq (text : List Char) :
    bracedName? text =
      match text.dropWhile (· ≠ '\x7d') with
      | _ :: rest =>
        if IsName (text.takeWhile (· ≠ '\x7d')) then some (text.takeWhile (· ≠ '\x7d'), rest)
        else none
      | [] => none := by
  cases found : bracedName? text with
  | some pair =>
      obtain ⟨isName, rfl⟩ := bracedName?_eq_some_iff.mp found
      have free : '\x7d' ∉ pair.1 := by
        intro member
        cases isName.chars '\x7d' member
      obtain ⟨before, behind⟩ := takeWhile_ne_append free pair.2
      rw [before, behind]
      exact (if_pos isName).symm
  | none =>
      split
      · next closer rest braced =>
          obtain ⟨_, whole⟩ := exists_of_dropWhile_ne braced
          rw [if_neg]
          intro isName
          rw [bracedName?_eq_some_iff.mpr ⟨isName, whole⟩] at found
          cases found
      · rfl

theorem replaceAt_eq (text : List Char) :
    replaceAt value text = ((first '$' text).1.meaning value, (first '$' text).2) := by
  rw [first, if_pos rfl]
  unfold replaceAt form?
  split
  · rfl
  · rw [bracedName?_eq]
    split
    · dsimp only
      split <;> rfl
    · rfl
  · unfold bareName?
    dsimp only
    split
    · next empty =>
        have whole := List.takeWhile_append_dropWhile (p := isNameChar) (l := text)
        rw [empty, List.nil_append] at whole
        rw [whole]
        rfl
    · rfl

theorem round?_of_not_mem {p : Progress} (plain : '$' ∉ p.left) : round? value p = none := by
  have spent : p.left.dropWhile (· ≠ '$') = [] := by
    refine List.dropWhile_eq_nil_iff.mpr fun c member => decide_eq_true ?_
    rintro rfl
    exact plain member
  rw [round?, spent]

theorem round?_append {front : List Char} (plain : '$' ∉ front) (written text : List Char) :
    round? value ⟨written, front ++ '$' :: text⟩ =
      some ⟨written ++ front ++ (first '$' text).1.meaning value, (first '$' text).2⟩ := by
  obtain ⟨before, behind⟩ := takeWhile_ne_append plain text
  rw [round?, before, behind]
  simp only [replaceAt_eq]

/-- The loop ends with the substituted text, after no more rounds than there are dollar signs. Every
round takes one of them off what is left. -/
theorem exists_ends (written left : List Char) :
    ∃ n ≤ left.count '$', Ends value n ⟨written, left⟩ (written ++ substitute value left) := by
  induction size : left.length using Nat.strong_induction_on generalizing written left with
  | h size ih =>
      subst size
      by_cases dollar : '$' ∈ left
      · obtain ⟨front, text, rfl, plain⟩ := List.eq_append_cons_of_mem dollar
        have further := suffix_first '$' text
        have shorter : (first '$' text).2.length < (front ++ '$' :: text).length := by
          have bound := further.length_le
          rw [List.length_append, List.length_cons]
          omega
        obtain ⟨n, bound, ends⟩ := ih _ shorter
          (written ++ front ++ (first '$' text).1.meaning value) (first '$' text).2 rfl
        refine ⟨n + 1, ?_, ?_⟩
        · have fewer := further.sublist.count_le '$'
          rw [List.count_append, List.count_cons_self]
          omega
        · rw [substitute_append_of_not_mem plain, substitute_cons, ← List.append_assoc,
            ← List.append_assoc]
          exact .round (round?_append plain written text) ends
      · rw [substitute_of_not_mem dollar]
        exact ⟨0, Nat.zero_le _, .done (round?_of_not_mem dollar)⟩

end Loop

/-- The one reading of a text does not depend on the values of variables. With any values
substitution replaces each fragment by what it stands for and scans no value, the loop from dollar
sign to dollar sign ends with the same text, and without a dollar sign it makes no round and nothing
changes. -/
theorem substitution_follows_fragments (source : String) :
    (∃! parts, Splits parts source.toList) ∧
    ∀ parts, Splits parts source.toList → ∀ value : String → Option String,
      substituteText value source = String.ofList (parts.flatMap (Fragment.meaning value)) ∧
      (∃ n ≤ source.toList.count '$',
        Ends value n ⟨[], source.toList⟩ (substituteText value source).toList) ∧
      ('$' ∉ source.toList →
        substituteText value source = source ∧ Ends value 0 ⟨[], source.toList⟩ source.toList) := by
  refine ⟨⟨fragments source.toList, splits_fragments _, fun _ => Splits.eq_fragments⟩, ?_⟩
  intro parts splits value
  refine ⟨?_, ?_, ?_⟩
  · rw [substituteText, splits.substitute_eq]
  · rw [substituteText, String.toList_ofList]
    exact exists_ends [] source.toList
  · intro plain
    refine ⟨?_, .done (round?_of_not_mem plain)⟩
    rw [substituteText, substitute_of_not_mem plain, String.ofList_toList]

/-- Forms one in the other, cut off, and before characters that are no part of names. -/
def tangledText : String := "$$\x7ba\x7d $\x7b$a\x7d$\x7ba_1\x7d$a1é$\x7ba$"

theorem tangledText_substitution_follows_fragments :
    fragments tangledText.toList = [
      .dollar, .char '\x7b', .char 'a', .char '\x7d', .char ' ',
      .char '$', .char '\x7b', .bare ['a'], .char '\x7d', .braced ['a', '_', '1'],
      .bare ['a', '1'], .char 'é', .char '$', .char '\x7b', .char 'a', .char '$'] ∧
    substituteText (fun name => if name = "a" then some "$$a$a_1" else none) tangledText =
      "$\x7ba\x7d $\x7b$$a$a_1\x7dé$\x7ba$" := by
  constructor
  · decide +kernel
  · rw [((substitution_follows_fragments tangledText).2 _ (splits_fragments _) _).1]
    decide +kernel

end CommandScript.Expansion
