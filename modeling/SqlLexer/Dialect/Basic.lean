import SqlLexer.Lexeme.Shape
import SqlLexer.Tables
import SqlLexer.Token.Basic

/-!
Rules and dialects. A rule is a ground on which a lexeme is recognised; the rules are tried in one
order. A dialect of SQL is given by its tables and by the form of its identifiers. It decides which
rules accept a lexeme, given the lexeme behind it; the first of them is the rule for the lexeme.
-/

namespace SqlLexer

/-- A ground on which a lexeme is recognised. -/
inductive Rule
  /-- A keyword of one word. -/
  | keyword
  /-- The first word of a keyword of two words, before a second one. -/
  | keywordPair
  | punctuation
  | operator
  | literal
  | identifier
  deriving DecidableEq, Repr

namespace Rule

/-- The rules in the order in which they are tried. -/
def order : List Rule := [keyword, keywordPair, punctuation, operator, literal, identifier]

theorem mem_order (rule : Rule) : rule ∈ order := by
  cases rule <;> decide

/-- The type of a token that a rule recognises. -/
def tokenType : Rule → TokenType
  | keyword | keywordPair => .keyword
  | punctuation => .punctuation
  | operator => .operator
  | literal => .literal
  | identifier => .identifier

/-- The number of lexemes that a rule takes into one token. -/
def width : Rule → Nat
  | keywordPair => 2
  | keyword | punctuation | operator | literal | identifier => 1

end Rule

/-- The type of a token that was recognised by the given rule, or by none. -/
def TokenType.ofRule? (rule? : Option Rule) : TokenType := rule?.elim .unknown Rule.tokenType

@[simp] theorem TokenType.ofRule?_none : TokenType.ofRule? none = .unknown := rfl

@[simp] theorem TokenType.ofRule?_some (rule : Rule) :
    TokenType.ofRule? (some rule) = rule.tokenType := rfl

/-- A dialect of SQL; by default the standard one. -/
structure Dialect where
  tables : Tables := .sql
  identifierRule : IdentifierRule := .word
  deriving DecidableEq

namespace Dialect

instance : Inhabited Dialect := ⟨{}⟩

/-- Whether a rule accepts a lexeme that stands before `next?`. Only a keyword of two words depends
on what stands there. -/
def accepts (dialect : Dialect) (rule : Rule) (lexeme : String) (next? : Option String) : Bool :=
  match rule with
  | .keyword => dialect.tables.isKeyword lexeme
  | .keywordPair =>
    next?.any fun next => dialect.tables.isPairStart lexeme && dialect.tables.isPair lexeme next
  | .punctuation => dialect.tables.isPunctuation lexeme
  | .operator => dialect.tables.isOperator lexeme
  | .literal => isLiteral lexeme
  | .identifier => dialect.identifierRule.accepts lexeme

/-- The first rule that accepts a lexeme. -/
def ruleFor? (dialect : Dialect) (lexeme : String) (next? : Option String) : Option Rule :=
  Rule.order.find? fun rule => dialect.accepts rule lexeme next?

theorem accepts_of_ruleFor? {dialect : Dialect} {lexeme : String} {next? : Option String}
    {rule : Rule} (h : dialect.ruleFor? lexeme next? = some rule) :
    dialect.accepts rule lexeme next? = true :=
  List.find?_some (p := fun rule => dialect.accepts rule lexeme next?) h

/-- A last lexeme is never taken for the first half of a keyword. -/
theorem ruleFor?_none_ne_keywordPair (dialect : Dialect) (lexeme : String) :
    dialect.ruleFor? lexeme none ≠ some .keywordPair := by
  intro h
  simpa [accepts] using accepts_of_ruleFor? h

end Dialect

end SqlLexer
