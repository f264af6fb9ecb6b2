namespace CommandScript.Runner

inductive Config where
  | search
  | skip
  | explicit (path : String)
deriving DecidableEq, Repr

inductive Source where
  | command (text : String)
  | file (path : String)
  | stdin
deriving DecidableEq, Repr

structure Options where
  library : Option String := none
  noLibrary : Bool := false
  config : Config := .search
  command : Option String := none
  debug : Bool := false
  script : Option String := none
deriving DecidableEq, Repr

inductive UsageFault where
  | missingCommand
  | missingLibrary
  | unknownOption (flag : Char)
  | tooManyArguments (count : Nat)
deriving DecidableEq, Repr

def UsageFault.message : UsageFault → String
  | .missingCommand => "-c requires a command argument"
  | .missingLibrary => "-L requires a file argument"
  | .unknownOption flag => s!"unknown option: -{flag}"
  | .tooManyArguments count => s!"too many arguments ({count})"

namespace Options

/-- A command takes the place of a script file, and a file that of standard input. -/
def source (options : Options) : Source :=
  match options.command, options.script with
  | some text, _ => .command text
  | none, some path => .file path
  | none, none => .stdin

def flagValue (missing : UsageFault) (flags : List Char) (words : List String) :
    Except UsageFault (String × List String) :=
  match flags, words with
  | _ :: _, words => .ok (String.ofList flags, words)
  | [], word :: words => .ok (word, words)
  | [], [] => .error missing

def readFlags (options : Options) (words : List String) :
    List Char → Except UsageFault (Options × List String)
  | [] => .ok (options, words)
  | 'd' :: flags => readFlags { options with debug := true } words flags
  | 'n' :: flags => readFlags { options with noLibrary := true } words flags
  | ['f'] => .ok ({ options with config := .skip }, words)
  | 'f' :: flags => .ok ({ options with config := .explicit (String.ofList flags) }, words)
  | 'c' :: flags =>
    (flagValue .missingCommand flags words).map fun (value, words) =>
      ({ options with command := some value }, words)
  | 'L' :: flags =>
    (flagValue .missingLibrary flags words).map fun (value, words) =>
      ({ options with library := some value }, words)
  | flag :: _ => .error (.unknownOption flag)

theorem length_flagValue_le {missing : UsageFault} {flags : List Char} {words rest : List String}
    {value : String} (read : flagValue missing flags words = .ok (value, rest)) :
    rest.length ≤ words.length := by
  unfold flagValue at read
  split at read
  · simp_all
  · simp only [Except.ok.injEq, Prod.mk.injEq] at read
    simp [← read.2]
  · simp at read

theorem length_readFlags_le {options changed : Options} {words rest : List String}
    {flags : List Char} (read : readFlags options words flags = .ok (changed, rest)) :
    rest.length ≤ words.length := by
  fun_induction readFlags options words flags with
  | case1 => simp_all
  | case2 options flags ih => exact ih read
  | case3 options flags ih => exact ih read
  | case4 => simp_all
  | case5 => simp_all
  | case6 options flags =>
    cases found : flagValue .missingCommand flags words with
    | error fault => simp [found, Except.map] at read
    | ok pair =>
      simp only [found, Except.map, Except.ok.injEq, Prod.mk.injEq] at read
      exact read.2 ▸ length_flagValue_le found
  | case7 options flags =>
    cases found : flagValue .missingLibrary flags words with
    | error fault => simp [found, Except.map] at read
    | ok pair =>
      simp only [found, Except.map, Except.ok.injEq, Prod.mk.injEq] at read
      exact read.2 ▸ length_flagValue_le found
  | case8 => simp at read

/-- Whether a word holds flags: it starts with a dash and has more characters. -/
def flags? (word : String) : Option (List Char) :=
  match word.toList with
  | '-' :: c :: rest => some (c :: rest)
  | _ => none

/-- Reads flag words and collects the other ones; every word behind `--` is one of those. -/
def readWords (options : Options) : List String → Except UsageFault (Options × List String)
  | [] => .ok (options, [])
  | word :: words =>
    if word = "--" then .ok (options, words)
    else
      match flags? word with
      | none => (readWords options words).map fun (options, others) => (options, word :: others)
      | some flags =>
        match _read : readFlags options words flags with
        | .error fault => .error fault
        | .ok (options, rest) => readWords options rest
termination_by words => words.length
decreasing_by
  · exact Nat.lt_succ_self _
  · exact Nat.lt_succ_of_le (length_readFlags_le _read)

/-- Reads a command line; at most one word may be left over for the script. -/
def parse (words : List String) : Except UsageFault Options := do
  let (options, others) ← readWords {} words
  match others with
  | [] => .ok options
  | [script] => .ok { options with script := some script }
  | _ => .error (.tooManyArguments others.length)

end Options

end CommandScript.Runner
