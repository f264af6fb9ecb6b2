namespace CommandScript.Expansion

def isNameChar (c : Char) : Bool :=
  c.isAlphanum || c == '_'

def bareName? (text : List Char) : Option (List Char × List Char) :=
  let name := text.takeWhile isNameChar
  if name = [] then none else some (name, text.dropWhile isNameChar)

/-- A name and its closing brace at the start of a text, and the text behind them. -/
def bracedName? (text : List Char) : Option (List Char × List Char) :=
  match bareName? text with
  | some (name, '\x7d' :: rest) => some (name, rest)
  | _ => none

theorem length_bareName?_lt {text name rest : List Char}
    (found : bareName? text = some (name, rest)) : rest.length < text.length := by
  unfold bareName? at found
  dsimp only at found
  split at found
  · simp at found
  · next some =>
    simp only [Option.some.injEq, Prod.mk.injEq] at found
    have whole := congrArg List.length
      (List.takeWhile_append_dropWhile (p := isNameChar) (l := text))
    have := List.length_pos_iff.mpr some
    rw [List.length_append, found.2] at whole
    omega

theorem length_bracedName?_lt {text name rest : List Char}
    (found : bracedName? text = some (name, rest)) : rest.length < text.length := by
  unfold bracedName? at found
  split at found
  · next bare =>
    simp only [Option.some.injEq, Prod.mk.injEq] at found
    have := length_bareName?_lt bare
    simp only [List.length_cons, found.2] at this
    omega
  · simp at found

/-- Replaces `$name` and `$` with a braced name by the variable's value, nothing for an unbound
one, and `$$` by `$`. Any other `$` stays. Values are not scanned. -/
def substitute (value : String → Option String) : List Char → List Char
  | [] => []
  | c :: text =>
    if c = '$' then
      match text with
      | [] => ['$']
      | d :: more =>
        if d = '$' then '$' :: substitute value more
        else if d = '\x7b' then
          match _found : bracedName? more with
          | some (name, rest) =>
            ((value (String.ofList name)).getD "").toList ++ substitute value rest
          | none => '$' :: substitute value (d :: more)
        else
          match _found : bareName? (d :: more) with
          | some (name, rest) =>
            ((value (String.ofList name)).getD "").toList ++ substitute value rest
          | none => '$' :: substitute value (d :: more)
    else c :: substitute value text
termination_by text => text.length
decreasing_by
  · simp only [List.length_cons]; omega
  · have := length_bracedName?_lt _found
    simp only [List.length_cons]; omega
  · simp only [List.length_cons]; omega
  · have := length_bareName?_lt _found
    simp only [List.length_cons] at *; omega
  · simp only [List.length_cons]; omega
  · simp only [List.length_cons]; omega

end CommandScript.Expansion
