import SqlLexer.Text.Quoted
import SqlLexer.Token.Basic

/-!
Tokens as they are printed, one to a line, in a plain format for filters or in a debug format that
shows every character of a value; and the words for a type that does not exist.
-/

namespace SqlLexer

/-- The complaint about a tag or name that no token type has. -/
def TokenTypeError.message : TokenTypeError → String
  | tag n => "Invalid token type: tag " ++ toString n
  | name s => "Invalid token type: name " ++ Text.quoted s

/-- How tokens are printed. -/
inductive OutputFormat
  /-- The type, a tab and the value. -/
  | plain
  /-- Both fields by name, the value in quotes. -/
  | debug
  deriving DecidableEq, Repr

namespace Token

/-- A token in the plain format. -/
def toPlain (token : Token) : String := token.type.name ++ "\t" ++ token.value

/-- A token in the debug format. -/
def toDebug (token : Token) : String :=
  "Token \x7b token_type: " ++ token.type.name ++ ", value: " ++ Text.quoted token.value ++ " \x7d"

end Token

namespace OutputFormat

/-- The name by which a format is chosen. -/
def name : OutputFormat → String
  | plain => "plain"
  | debug => "debug"

/-- The format of a name; case matters. -/
def ofName? : String → Option OutputFormat
  | "plain" => some plain
  | "debug" => some debug
  | _ => none

@[simp] theorem ofName?_name (format : OutputFormat) : ofName? format.name = some format := by
  cases format <;> rfl

/-- One token, without the end of its line. -/
def render (format : OutputFormat) (token : Token) : String :=
  match format with
  | plain => token.toPlain
  | debug => token.toDebug

/-- A line for each token, in order. -/
def print (format : OutputFormat) (tokens : List Token) : String :=
  String.join (tokens.map fun token => format.render token ++ "\n")

@[simp] theorem print_nil (format : OutputFormat) : format.print [] = "" := rfl

@[simp] theorem toList_print (format : OutputFormat) (tokens : List Token) :
    (format.print tokens).toList =
      tokens.flatMap fun token => (format.render token).toList ++ ['\n'] := by
  simp [print, String.toList_join, List.flatMap_map]

@[simp] theorem print_cons (format : OutputFormat) (token : Token) (tokens : List Token) :
    format.print (token :: tokens) = format.render token ++ "\n" ++ format.print tokens := by
  apply String.toList_injective
  simp

@[simp] theorem print_append (format : OutputFormat) (tokens more : List Token) :
    format.print (tokens ++ more) = format.print tokens ++ format.print more := by
  apply String.toList_injective
  simp

end OutputFormat

end SqlLexer
