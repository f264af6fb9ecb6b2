import CommandScript.Runner.Options
import Mathlib.Data.List.Basic

namespace CommandScript.Runner

inductive Choice where
  | debug
  | noLibrary
  | skipConfig
  | config (path : String)
  | command (text : String)
  | library (path : String)
  | positional (word : String)
deriving DecidableEq, Repr

namespace Choice

def config? : Choice → Option Config
  | .skipConfig => some .skip
  | .config path => some (.explicit path)
  | _ => none

def command? : Choice → Option String
  | .command text => some text
  | _ => none

def library? : Choice → Option String
  | .library path => some path
  | _ => none

def positional? : Choice → Option String
  | .positional word => some word
  | _ => none

end Choice

/-- The letters of a word of flags, and the words behind it that it takes as values. Any number of
switches come first; a flag with a value ends the word, and an empty value cannot stand in it. -/
inductive Spells : List Choice → List Char → List String → Prop
  | nil : Spells [] [] []
  | debug {choices letters values} (h : Spells choices letters values) :
      Spells (.debug :: choices) ('d' :: letters) values
  | noLibrary {choices letters values} (h : Spells choices letters values) :
      Spells (.noLibrary :: choices) ('n' :: letters) values
  | skipConfig : Spells [.skipConfig] ['f'] []
  | config {path} (given : path ≠ "") : Spells [.config path] ('f' :: path.toList) []
  | command {text} (given : text ≠ "") : Spells [.command text] ('c' :: text.toList) []
  | commandApart {text} : Spells [.command text] ['c'] [text]
  | library {path} (given : path ≠ "") : Spells [.library path] ('L' :: path.toList) []
  | libraryApart {path} : Spells [.library path] ['L'] [path]

/-- The command lines that ask for choices, in their order. -/
inductive Renders : List Choice → List String → Prop
  | nil : Renders [] []
  | flags {first letters values choices words} (spelt : Spells first letters values)
      (given : letters ≠ []) (h : Renders choices words) :
      Renders (first ++ choices) (String.ofList ('-' :: letters) :: (values ++ words))
  | positional {word choices words} (bare : word = "-" ∨ word.toList.head? ≠ some '-')
      (h : Renders choices words) : Renders (.positional word :: choices) (word :: words)
  | ended (words) : Renders (words.map .positional) ("--" :: words)

namespace Options

/-- The options after one more choice; words for a script are collected elsewhere. -/
def choose (options : Options) : Choice → Options
  | .debug => { options with debug := true }
  | .noLibrary => { options with noLibrary := true }
  | .skipConfig => { options with config := .skip }
  | .config path => { options with config := .explicit path }
  | .command text => { options with command := some text }
  | .library path => { options with library := some path }
  | .positional _ => options

theorem flagValue_toList {value : String} (given : value ≠ "") (missing : UsageFault)
    (words : List String) : flagValue missing value.toList words = .ok (value, words) := by
  cases letters : value.toList with
  | nil => exact absurd (String.toList_eq_nil_iff.mp letters) given
  | cons c rest =>
      simp only [flagValue]
      rw [← letters, String.ofList_toList]

theorem readFlags_of_spells {choices : List Choice} {letters : List Char} {values : List String}
    (spelt : Spells choices letters values) (options : Options) (words : List String) :
    readFlags options (values ++ words) letters = .ok (choices.foldl choose options, words) := by
  induction spelt generalizing options with
  | nil => rfl
  | debug h ih => exact ih _
  | noLibrary h ih => exact ih _
  | skipConfig => rfl
  | @config path given =>
      cases letters : path.toList with
      | nil => exact absurd (String.toList_eq_nil_iff.mp letters) given
      | cons c rest =>
          simp only [readFlags, List.foldl_cons, List.foldl_nil, choose, List.nil_append]
          rw [← letters, String.ofList_toList]
  | command given =>
      simp only [readFlags, List.nil_append, flagValue_toList given]
      rfl
  | commandApart => rfl
  | library given =>
      simp only [readFlags, List.nil_append, flagValue_toList given]
      rfl
  | libraryApart => rfl

theorem flags?_of_bare {word : String} (bare : word = "-" ∨ word.toList.head? ≠ some '-') :
    flags? word = none := by
  rcases bare with rfl | bare
  · rfl
  · unfold flags?
    split
    · next letters =>
        rw [letters] at bare
        exact absurd rfl bare
    · rfl

theorem ne_ended_of_bare {word : String} (bare : word = "-" ∨ word.toList.head? ≠ some '-') :
    word ≠ "--" := by
  rintro rfl
  rcases bare with same | bare
  · exact absurd same (by decide)
  · exact bare rfl

theorem ne_ended_of_spells {choices : List Choice} {letters : List Char} {values : List String}
    (spelt : Spells choices letters values) : String.ofList ('-' :: letters) ≠ "--" := by
  intro same
  have letters_eq : letters = ['-'] := by
    have chars := congrArg String.toList same
    rw [String.toList_ofList] at chars
    exact (List.cons.inj chars).2
  subst letters_eq
  cases spelt

theorem readWords_flags {options changed : Options} {word : String} {flags : List Char}
    {words rest : List String} (unended : word ≠ "--") (isFlags : flags? word = some flags)
    (read : readFlags options words flags = .ok (changed, rest)) :
    readWords options (word :: words) = readWords changed rest := by
  rw [readWords, if_neg unended]
  simp only [isFlags]
  split
  · next failed => rw [read] at failed; cases failed
  · next ended => rw [read] at ended; cases ended; rfl

theorem readWords_positional {options : Options} {word : String} (unended : word ≠ "--")
    (bare : flags? word = none) (words : List String) :
    readWords options (word :: words) =
      (readWords options words).map fun (options, others) => (options, word :: others) := by
  rw [readWords, if_neg unended]
  simp only [bare]

theorem filterMap_positional?_of_spells {choices : List Choice} {letters : List Char}
    {values : List String} (spelt : Spells choices letters values) :
    choices.filterMap Choice.positional? = [] := by
  induction spelt with
  | debug h ih => exact ih
  | noLibrary h ih => exact ih
  | _ => rfl

theorem filterMap_positional?_map (words : List String) :
    (words.map Choice.positional).filterMap Choice.positional? = words := by
  rw [List.filterMap_map]
  exact List.filterMap_some

theorem foldl_choose_map (words : List String) (options : Options) :
    (words.map Choice.positional).foldl choose options = options := by
  induction words with
  | nil => rfl
  | cons word rest ih => exact ih

/-- The induction is on the rendering: a word of flags takes its values along, and another word
goes to the others. -/
theorem readWords_of_renders {choices : List Choice} {words : List String}
    (rendered : Renders choices words) (options : Options) :
    readWords options words =
      .ok (choices.foldl choose options, choices.filterMap Choice.positional?) := by
  induction rendered generalizing options with
  | nil => rw [readWords]; rfl
  | @flags first letters values choices words spelt given h ih =>
      have isFlags : flags? (String.ofList ('-' :: letters)) = some letters := by
        unfold flags?
        rw [String.toList_ofList]
        cases letters with
        | nil => exact absurd rfl given
        | cons c rest => rfl
      have read := readFlags_of_spells spelt options words
      rw [readWords_flags (ne_ended_of_spells spelt) isFlags read, ih, List.foldl_append,
        List.filterMap_append, filterMap_positional?_of_spells spelt, List.nil_append]
  | positional bare h ih =>
      rw [readWords_positional (ne_ended_of_bare bare) (flags?_of_bare bare), ih]
      rfl
  | ended words =>
      rw [readWords, if_pos rfl, filterMap_positional?_map, foldl_choose_map]

theorem foldl_choose_last {α : Type} (field : Options → Option α) {pick : Choice → Option α}
    (sets : ∀ options choice, field (choose options choice) = (pick choice).or (field options))
    (choices : List Choice) (options : Options) :
    field (choices.foldl choose options) =
      (choices.filterMap pick).getLast?.or (field options) := by
  induction choices generalizing options with
  | nil => rfl
  | cons choice rest ih =>
      rw [List.foldl_cons, ih, sets, List.filterMap_cons]
      cases pick choice with
      | none => rfl
      | some value =>
          rw [List.getLast?_cons]
          cases (rest.filterMap pick).getLast? <;> rfl

/-- An option that one choice switches on is on when the choice has been made. -/
theorem foldl_choose_switch {field : Options → Bool} {switch : Choice}
    (sets : ∀ options choice,
      field (choose options choice) = true ↔ field options = true ∨ choice = switch)
    (choices : List Choice) (options : Options) :
    field (choices.foldl choose options) = true ↔ field options = true ∨ switch ∈ choices := by
  induction choices generalizing options with
  | nil => simp only [List.foldl_nil, List.not_mem_nil, or_false]
  | cons choice rest ih =>
      rw [List.foldl_cons, ih, sets, List.mem_cons, or_assoc, eq_comm (a := switch)]

/-- The options say what the choices say: a switch is on when it occurs, the last choice of a kind
counts, and the script is the only word that is no flag. -/
structure Reflects (options : Options) (choices : List Choice) : Prop where
  debug : options.debug = true ↔ .debug ∈ choices
  noLibrary : options.noLibrary = true ↔ .noLibrary ∈ choices
  config : options.config = (choices.filterMap Choice.config?).getLast?.getD .search
  command : options.command = (choices.filterMap Choice.command?).getLast?
  library : options.library = (choices.filterMap Choice.library?).getLast?
  script : options.script = (choices.filterMap Choice.positional?).head?

theorem script_foldl_choose (choices : List Choice) (options : Options) :
    (choices.foldl choose options).script = options.script := by
  induction choices generalizing options with
  | nil => rfl
  | cons choice rest ih =>
      rw [List.foldl_cons, ih]
      cases choice <;> rfl

/-- The options that choices ask for, with the first word that is no flag as the script. -/
def ofChoices (choices : List Choice) : Options :=
  { choices.foldl choose {} with script := (choices.filterMap Choice.positional?).head? }

theorem reflects_ofChoices (choices : List Choice) : (ofChoices choices).Reflects choices where
  debug := by
    have sets : ∀ options choice, (choose options choice).debug = true ↔
        options.debug = true ∨ choice = .debug := by
      intro options choice
      cases choice <;> simp [choose]
    exact (foldl_choose_switch sets choices {}).trans (or_iff_right Bool.false_ne_true)
  noLibrary := by
    have sets : ∀ options choice, (choose options choice).noLibrary = true ↔
        options.noLibrary = true ∨ choice = .noLibrary := by
      intro options choice
      cases choice <;> simp [choose]
    exact (foldl_choose_switch sets choices {}).trans (or_iff_right Bool.false_ne_true)
  config := by
    have sets : ∀ options choice, some (choose options choice).config =
        choice.config?.or (some options.config) := by
      intro options choice
      cases choice <;> rfl
    have last := foldl_choose_last (fun options => some options.config) sets choices {}
    exact Option.some.inj (last.trans Option.or_some)
  command := by
    have sets : ∀ options choice, (choose options choice).command =
        choice.command?.or options.command := by
      intro options choice
      cases choice <;> rfl
    exact (foldl_choose_last Options.command sets choices {}).trans Option.or_none
  library := by
    have sets : ∀ options choice, (choose options choice).library =
        choice.library?.or options.library := by
      intro options choice
      cases choice <;> rfl
    exact (foldl_choose_last Options.library sets choices {}).trans Option.or_none
  script := rfl

theorem parse_of_renders {choices : List Choice} {words : List String}
    (rendered : Renders choices words) :
    parse words =
      if (choices.filterMap Choice.positional?).length ≤ 1 then .ok (ofChoices choices)
      else .error (.tooManyArguments (choices.filterMap Choice.positional?).length) := by
  have unset : (choices.foldl choose {}).script = none := script_foldl_choose choices {}
  unfold parse
  rw [readWords_of_renders rendered, ofChoices]
  generalize choices.foldl choose {} = options at unset ⊢
  rcases choices.filterMap Choice.positional? with _ | ⟨script, _ | ⟨second, rest⟩⟩
  · rw [List.head?_nil, ← unset]
    rfl
  · rfl
  · rw [if_neg (by simp only [List.length_cons]; omega)]
    rfl

/-- Every way of writing choices as a command line is read as these choices; only a second word
for the script is refused. -/
theorem parse_rendering {choices : List Choice} {words : List String}
    (rendered : Renders choices words) :
    ((choices.filterMap Choice.positional?).length ≤ 1 →
      ∃ options, parse words = .ok options ∧ options.Reflects choices) ∧
    (2 ≤ (choices.filterMap Choice.positional?).length →
      parse words = .error (.tooManyArguments (choices.filterMap Choice.positional?).length)) := by
  have read := parse_of_renders rendered
  constructor
  · intro few
    rw [if_pos few] at read
    exact ⟨_, read, reflects_ofChoices choices⟩
  · intro many
    rwa [if_neg (by omega)] at read

/-- Values that look like flags, switches between them, and a script that does, too. -/
def crowdedLine : List String :=
  ["-dnfa b", "-c", "--", "-nL", "", "-", "-ddf", "-cx", "-c-n"]

def crowdedChoices : List Choice :=
  [.debug, .noLibrary, .config "a b", .command "--", .noLibrary, .library "", .positional "-",
    .debug, .debug, .skipConfig, .command "x", .command "-n"]

theorem renders_crowdedLine : Renders crowdedChoices crowdedLine :=
  .flags (.debug (.noLibrary (.config (by decide)))) nofun <|
  .flags .commandApart nofun <|
  .flags (.noLibrary .libraryApart) nofun <|
  .positional (.inl rfl) <|
  .flags (.debug (.debug .skipConfig)) nofun <|
  .flags (.command (by decide)) nofun <|
  .flags (.command (by decide)) nofun .nil

theorem renders_twoScripts : Renders [.positional "-", .positional "-c"] ["-", "--", "-c"] :=
  .positional (.inl rfl) (.ended ["-c"])

theorem parse_crowdedLine :
    Renders crowdedChoices crowdedLine ∧
    (∃ options, parse crowdedLine = .ok options ∧ options.Reflects crowdedChoices ∧
      options.config = .skip ∧ options.command = some "-n" ∧ options.library = some "" ∧
      options.script = some "-") ∧
    parse ["-", "--", "-c"] = .error (.tooManyArguments 2) := by
  obtain ⟨options, read, reflects⟩ := (parse_rendering renders_crowdedLine).1 (by decide)
  refine ⟨renders_crowdedLine, ⟨options, read, reflects, reflects.config, reflects.command,
    reflects.library, reflects.script⟩, (parse_rendering renders_twoScripts).2 (by decide)⟩

end Options

end CommandScript.Runner
