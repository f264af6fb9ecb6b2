import CommandScript.Machine.Run
import CommandScript.Runner.Files
import CommandScript.Runner.Library
import CommandScript.Runner.Options
import CommandScript.Runner.Report

namespace CommandScript.Runner

def libraryVariable : String := "CRITICAL_STDLIB"

def usage : String :=
  "Usage: critical [-n] [-d] [-f[<file>]] [-L<file>] [-c<cmd>] [<script>]"

def joinPath (directory name : String) : String :=
  if directory.endsWith "/" then directory ++ name else directory ++ "/" ++ name

def configCandidates (environment : Table String) : List String :=
  let home := (environment.get? "HOME").getD ""
  let base :=
    match environment.get? "XDG_CONFIG_HOME" with
    | some path => if path.startsWith "/" then path else joinPath home ".config"
    | none => joinPath home ".config"
  [joinPath (joinPath base "critical") "init.tcl", joinPath home ".criticalrc"]

def findConfig? (files : Files) (environment : Table String) : Option String :=
  (configCandidates environment).find? files.isPresent

/-- The library file: an option comes before the variable of the process; none stands for the
standard library. -/
def libraryPath? (environment : Table String) (override : Option String) : Option String :=
  match override with
  | some path => some path
  | none => (environment.get? libraryVariable).filter (· != "")

def unreadable (path : String) (fault : ReadFault) : String :=
  s!"can't read {path}: {fault.message}"

def readScript (files : Files) (path : String) : Except String String :=
  (files.read path).mapError (unreadable path)

def loadLibrary (files : Files) (environment : Table String) (options : Options) :
    Except String (List String) :=
  if options.noLibrary then .ok []
  else
    match libraryPath? environment options.library with
    | some path => (readScript files path).map ([·])
    | none => .ok [standardLibrary]

def loadConfig (files : Files) (environment : Table String) (options : Options) :
    Except String (List String) :=
  match options.config with
  | .skip => .ok []
  | .explicit path => (readScript files path).map ([·])
  | .search =>
    match findConfig? files environment with
    | some path => (readScript files path).map ([·])
    | none => .ok []

def loadPrologue (files : Files) (environment : Table String) (options : Options) :
    Except String (List String) := do
  let library ← loadLibrary files environment options
  let config ← loadConfig files environment options
  pure (library ++ config)

def loadSource (files : Files) : Source → Except String (Option String)
  | .command text => .ok (some text)
  | .file path => (readScript files path).map some
  | .stdin => .ok none

def paths (environment : Table String) (options : Options) : List String :=
  let explicit :=
    match options.config with
    | .explicit path => [path]
    | _ => configCandidates environment
  let script :=
    match options.source with
    | .file path => [path]
    | _ => []
  (libraryPath? environment options.library).toList ++ explicit ++ script

/-- Runs scripts in order in one machine, the last one being the main script. An exit or a
failure before it ends the run. -/
def runScripts (fuel : Nat) (script : String) :
    List String → State → Option (Except Failure Outcome × State)
  | [], s => Machine.evaluateSource fuel script s
  | part :: rest, s =>
    match Machine.evaluateSource fuel part s with
    | none => none
    | some (.error cause, s') => some (.error cause, s')
    | some (.ok (.exited value), s') => some (.ok (.exited value), s')
    | some (.ok _, s') => runScripts fuel script rest s'

/-- A machine at rest with the commands of the language. -/
def freshState (environment : Table String) : State :=
  { program := [], builtins := Builtin.standard, environment }

def run (fuel : Nat) (environment : Table String) (prologue : List String) (script : String) :
    Option (Except Failure Outcome × State) :=
  runScripts fuel script prologue (freshState environment)

/-- Everything a run prints and the code it ends with. -/
structure Transcript where
  stdout : String := ""
  stderr : String := ""
  code : Nat
deriving DecidableEq, Repr

namespace Transcript

def refused (message : String) (code : Nat) : Transcript :=
  { stderr := complaint message ++ "\n", code }

def ofUsage (fault : UsageFault) : Transcript :=
  { stderr := complaint fault.message ++ "\n" ++ usage ++ "\n", code := 2 }

def line : Option String → String
  | some text => text ++ "\n"
  | none => ""

def ofRun (result : Except Failure Outcome) (s : State) : Transcript :=
  let report := Report.ofResult result
  { stdout := s.output.text ++ line report.stdout
    stderr := line report.stderr
    code := report.code }

end Transcript

def load (files : Files) (environment : Table String) (options : Options) :
    Except String (List String × Option String) := do
  let prologue ← loadPrologue files environment options
  let script ← loadSource files options.source
  pure (prologue, script)

def scriptOfInput (input : Except ReadFault String) : Except String String :=
  input.mapError fun fault => s!"can't read stdin: {fault.message}"

/-- Runs loaded scripts; standard input is used only when no other main script is given. -/
def perform (fuel : Nat) (environment : Table String) (input : Except ReadFault String)
    (loaded : List String × Option String) : Option Transcript :=
  match loaded.2.elim (scriptOfInput input) .ok with
  | .error message => some (.refused message 1)
  | .ok script =>
    (run fuel environment loaded.1 script).map fun (result, s) => .ofRun result s

/-- A whole run: the words of the command line, the files, the variables of the process and
standard input. -/
def runWords (fuel : Nat) (words : List String) (files : Files) (environment : Table String)
    (input : Except ReadFault String) : Option Transcript :=
  match Options.parse words with
  | .error fault => some (.ofUsage fault)
  | .ok options =>
    match load files environment options with
    | .error message => some (.refused message 1)
    | .ok loaded => perform fuel environment input loaded

end CommandScript.Runner
