import SqlLexer.CommandLine.Arguments
import SqlLexer.Session

/-!
The program as a whole: from arguments and standard input to exit code and standard output. Queries
among the arguments are tokenized in order; without any, a session is held on the standard input,
which is not read otherwise.
-/

namespace SqlLexer

namespace Arguments

/-- How the program is called. -/
def usage : String := String.join <| List.map (· ++ "\n")
  ["Split SQL queries into classified tokens",
   "",
   "Usage: ahdb-tokenize [OPTIONS] [QUERIES]...",
   "",
   "Arguments:",
   "  [QUERIES]...  Queries to tokenize; without any, queries are read from stdin one per line",
   "",
   "Options:",
   "      --identifier-rule <IDENTIFIER_RULE>  " ++
     "How identifiers are recognized: `word` accepts digits, `strict` does not [default: word]",
   "      --format <FORMAT>                    " ++
     "Output format [default: plain] [possible values: plain, debug]",
   "  -v, --verbose                            Log each tokenize call to stderr",
   "  -h, --help                               Print help",
   "  -V, --version                            Print version"]

/-- The name and version of the program. -/
def versionLine : String := "ahdb-tokenize 0.1.0\n"

namespace Stop

/-- The exit code: what was asked for is a success, a fault is not. -/
def exitCode : Stop → Nat
  | help | version => 0
  | unknownOption _ | missingValue _ | unknownFormat _ | unknownIdentifierRule _
  | repeatedOption _ | unexpectedValue _ => 2

/-- What is printed on the standard output. -/
def output : Stop → String
  | help => usage
  | version => versionLine
  | unknownOption _ | missingValue _ | unknownFormat _ | unknownIdentifierRule _
  | repeatedOption _ | unexpectedValue _ => ""

/-- A fault in words. -/
def complaint? : Stop → Option String
  | help | version => none
  | unknownOption option => some ("unknown option " ++ option)
  | missingValue setting => some ("no value for --" ++ setting.name)
  | unknownFormat name => some ("unknown format: " ++ name)
  | unknownIdentifierRule name => some (IdentifierRule.unknownName name)
  | repeatedOption option => some (option ++ " is given twice")
  | unexpectedValue option => some (option ++ " takes no value")

end Stop

/-- What the program works in: the standard dialect but for the identifier rule. -/
def session (arguments : Arguments) (hasPrompt : Bool) : Session where
  dialect := { identifierRule := arguments.identifierRule }
  format := arguments.format
  hasPrompt := hasPrompt

end Arguments

/-- What a run of the program comes to. -/
structure Outcome where
  exitCode : Nat
  output : String
  deriving DecidableEq, Repr

/-- The outcome of a session: a failure has an exit code of its own. -/
def Transcript.outcome (t : Transcript) : Outcome := ⟨if t.failure.isSome then 1 else 0, t.output⟩

/-- The outcome of the program on arguments that are in order. -/
def Arguments.run (arguments : Arguments) (hasPrompt : Bool) (input : List UInt8) : Outcome :=
  match arguments.queries with
  | [] => ((arguments.session hasPrompt).run input).outcome
  | queries => ⟨0, (arguments.session hasPrompt).printQueries queries⟩

/-- The outcome of the program, the standard input not being a terminal. -/
def runProgram (texts : List String) (input : List UInt8) : Outcome :=
  match Arguments.parse texts with
  | .error stop => ⟨stop.exitCode, stop.output⟩
  | .ok arguments => arguments.run false input

end SqlLexer
