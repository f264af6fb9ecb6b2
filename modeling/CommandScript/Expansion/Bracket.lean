import CommandScript.Expansion.Reference

namespace CommandScript.Expansion

variable {m : Type → Type} [Monad m]

/-- Puts texts back in front of openers that nothing closed, innermost first. All texts are
held last character first. -/
def reopen (current : List Char) : List (List Char) → List Char
  | [] => current
  | before :: outer => reopen (current ++ '[' :: before) outer

theorem reopen_append (front current : List Char) (opened : List (List Char)) :
    reopen (front ++ current) opened = front ++ reopen current opened := by
  induction opened generalizing current with
  | nil => rfl
  | cons before outer ih => simp only [reopen, List.append_assoc, ih]

/-- Goes through a text with the texts before each open bracket, innermost first, and the text
since the last one. A closer evaluates the text since its opener and puts the value in the place
of both; a closer without an opener is an ordinary character. -/
def replaceBrackets (evaluate : String → m String) (current : List Char)
    (opened : List (List Char)) : List Char → m (List Char)
  | [] => pure (reopen current opened).reverse
  | c :: rest =>
    if c = '[' then replaceBrackets evaluate [] (current :: opened) rest
    else if c = ']' then
      match opened with
      | [] => replaceBrackets evaluate (c :: current) [] rest
      | before :: outer => do
        let value ← evaluate (String.ofList current.reverse)
        replaceBrackets evaluate (value.toList.reverse ++ before) outer rest
    else replaceBrackets evaluate (c :: current) opened rest

/-- Replaces every bracketed script by its value, innermost first and from left to right. -/
def expandBrackets (evaluate : String → m String) (text : String) : m String := do
  let characters ← replaceBrackets evaluate [] [] text.toList
  pure (String.ofList characters)

def substituteText (value : String → Option String) (text : String) : String :=
  String.ofList (substitute value text.toList)

def expand (value : String → Option String) (evaluate : String → m String) (text : String) :
    m String :=
  expandBrackets evaluate (substituteText value text)

end CommandScript.Expansion
