import SqlLexer.Dialect.Tokenization
import SqlLexer.Text.Quoted

/-!
The log of a tokenization: an event if the query is folded, one for each token, and one at the end
with the totals. Sizes are counted in UTF-8 bytes.
-/

namespace SqlLexer

/-- How much detail an event is. -/
inductive Level
  | debug
  | trace
  deriving DecidableEq, Repr

/-- What a tokenization reports. -/
inductive Event
  /-- A quote that nothing closes, and the size of what is folded behind it. -/
  | unterminated (quote : Quote) (position size : Nat)
  /-- A lexeme, and the type of the token that begins with it. -/
  | lexeme (position : Nat) (text : String) (type : TokenType)
  /-- The size of a query, and the numbers of its lexemes and tokens. -/
  | tokenized (size lexemes tokens : Nat)
  deriving DecidableEq, Repr

namespace Level

/-- The name of a level. -/
def name : Level → String
  | debug => "DEBUG"
  | trace => "TRACE"

end Level

namespace Event

/-- The level of an event: single lexemes are the finer detail. -/
def level : Event → Level
  | lexeme .. => .trace
  | unterminated .. | tokenized .. => .debug

/-- An event in words. -/
def message : Event → String
  | unterminated quote position size =>
    "Unterminated " ++ String.singleton quote.char ++ " at lexeme " ++ toString position ++
      ", folding remainder (" ++ toString size ++ " bytes)"
  | lexeme position text type =>
    "Lexeme " ++ toString position ++ " " ++ Text.quoted text ++ " -> " ++ type.name
  | tokenized size lexemes tokens =>
    "Tokenized " ++ toString size ++ " bytes into " ++ toString lexemes ++ " lexemes, " ++
      toString tokens ++ " tokens"

end Event

namespace Segmentation

/-- The event that a folded query begins with. -/
def events (s : Segmentation) : List Event :=
  (s.fold.map fun f => Event.unterminated f.quote s.whole.length f.rest.utf8ByteSize).toList

end Segmentation

/-- The event of a step. -/
def Step.event (s : Step) : Event := .lexeme s.position s.lexeme s.token.type

/-- What the tokenization of a query reports, in order. -/
def Dialect.log (dialect : Dialect) (query : String) : List Event :=
  let segmentation := segment query
  let steps := dialect.steps 0 segmentation.lexemes
  segmentation.events ++ steps.map Step.event ++
    [.tokenized query.utf8ByteSize segmentation.lexemes.length steps.length]

end SqlLexer
