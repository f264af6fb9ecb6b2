import CommandScript.Expansion.Bracket
import CommandScript.Expansion.Reference
import CommandScript.Failure
import CommandScript.Machine.Control
import CommandScript.Machine.Description
import CommandScript.Machine.Eval
import CommandScript.Machine.Expression
import CommandScript.Machine.Host
import CommandScript.Machine.Run
import CommandScript.Machine.State
import CommandScript.Machine.Variables
import CommandScript.Main
import CommandScript.Number.Basic
import CommandScript.Number.Decimal
import CommandScript.Number.Magnitude
import CommandScript.Pattern.Automaton
import CommandScript.Pattern.CharClass
import CommandScript.Pattern.CharSet
import CommandScript.Pattern.Data.Category
import CommandScript.Pattern.Data.Folding
import CommandScript.Pattern.Data.Property
import CommandScript.Pattern.Data.Script
import CommandScript.Pattern.Escape
import CommandScript.Pattern.Fault
import CommandScript.Pattern.Flags
import CommandScript.Pattern.Parse
import CommandScript.Pattern.Property
import CommandScript.Pattern.Search
import CommandScript.Pattern.Tree
import CommandScript.Program
import CommandScript.Proofs.Evaluation
import CommandScript.Proofs.Expansion.Brackets
import CommandScript.Proofs.Expansion.Matching
import CommandScript.Proofs.Expansion.References
import CommandScript.Proofs.Frames
import CommandScript.Proofs.Locality
import CommandScript.Proofs.NameStacks
import CommandScript.Proofs.Number.Decimals
import CommandScript.Proofs.Number.IntegerArithmetic
import CommandScript.Proofs.Number.Results
import CommandScript.Proofs.Number.Rounding
import CommandScript.Proofs.Number.WholeNumbers
import CommandScript.Proofs.Reading.Calls
import CommandScript.Proofs.Reading.Joining
import CommandScript.Proofs.Reading.Literals
import CommandScript.Proofs.Reading.Numbers
import CommandScript.Proofs.Reading.PairTokens
import CommandScript.Proofs.Reading.Pairs
import CommandScript.Proofs.Reading.Respelling
import CommandScript.Proofs.Reading.Separation
import CommandScript.Proofs.Reading.Stream
import CommandScript.Proofs.Reading.Tiling
import CommandScript.Proofs.Restoration
import CommandScript.Proofs.Runner.Assertion
import CommandScript.Proofs.Runner.CommandLine
import CommandScript.Proofs.Runner.ExitValues
import CommandScript.Proofs.Runner.Loading
import CommandScript.Proofs.Steps.Agreement
import CommandScript.Proofs.Steps.Alike
import CommandScript.Proofs.Steps.Basic
import CommandScript.Proofs.Steps.BracedText
import CommandScript.Proofs.Steps.Builtins
import CommandScript.Proofs.Steps.Change
import CommandScript.Proofs.Steps.Comments
import CommandScript.Proofs.Steps.Context
import CommandScript.Proofs.Steps.Continuation
import CommandScript.Proofs.Steps.Failures
import CommandScript.Proofs.Steps.Growth
import CommandScript.Proofs.Steps.Interruption
import CommandScript.Proofs.Steps.Job
import CommandScript.Proofs.Steps.JoinedSources
import CommandScript.Proofs.Steps.Levels
import CommandScript.Proofs.Steps.LoopForms
import CommandScript.Proofs.Steps.LoopValues
import CommandScript.Proofs.Steps.Move
import CommandScript.Proofs.Steps.Native
import CommandScript.Proofs.Steps.Nesting
import CommandScript.Proofs.Steps.Parameters
import CommandScript.Proofs.Steps.Quoting
import CommandScript.Proofs.Steps.Resources
import CommandScript.Proofs.Steps.Script
import CommandScript.Proofs.Steps.Shadowing
import CommandScript.Proofs.Steps.Stopping
import CommandScript.Proofs.Steps.Targets
import CommandScript.Proofs.Steps.Termination
import CommandScript.Proofs.Steps.Unwinding
import CommandScript.Runner.Files
import CommandScript.Runner.Library
import CommandScript.Runner.Options
import CommandScript.Runner.Report
import CommandScript.Runner.Session
import CommandScript.Scopes
import CommandScript.Table
import CommandScript.Text.Blank
import CommandScript.Text.Integer
import CommandScript.Token.Basic
import CommandScript.Token.Cursor
import CommandScript.Token.Lexeme
