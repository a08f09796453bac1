import SqlLexer.Lexeme.Span

/-!
Shapes: what a lexeme looks like on its own, whatever stands around it. A literal is a quoted text or
a number; an identifier has the form that one of two rules asks for.
-/

namespace SqlLexer

/-- Whether a lexeme begins and ends with the same quote and has at least those two characters. -/
def isQuoted (lexeme : String) : Bool :=
  match lexeme.toList with
  | c :: d :: cs => (Quote.ofChar? c).isSome && (d :: cs).getLast? == some c
  | _ => false

/-- Whether a text is digits with at most one decimal point among, before or behind them. -/
def isUnsignedNumber (cs : List Char) : Bool :=
  match cs.takeWhile Char.isDigit, cs.dropWhile Char.isDigit with
  | whole, [] => !whole.isEmpty
  | whole, '.' :: fraction => fraction.all Char.isDigit && !(whole.isEmpty && fraction.isEmpty)
  | _, _ => false

/-- Whether a lexeme is a number with or without a sign. -/
def isNumeric (lexeme : String) : Bool :=
  match lexeme.toList with
  | '+' :: cs | '-' :: cs => isUnsignedNumber cs
  | cs => isUnsignedNumber cs

/-- Whether a lexeme is a literal. -/
def isLiteral (lexeme : String) : Bool := isQuoted lexeme || isNumeric lexeme

/-- The forms that an identifier may be asked to have. -/
inductive IdentifierRule
  /-- A word; it may hold digits. -/
  | word
  /-- ASCII letters, underscores and spaces, the last character not a space. -/
  | strict
  deriving DecidableEq, Repr

namespace IdentifierRule

/-- Whether a text has the form of the strict rule. -/
def isStrict (cs : List Char) : Bool :=
  cs.all (fun c => isWordStart c || c == ' ') && cs.getLast?.any (· != ' ')

/-- Whether a lexeme has the form that the rule asks for. -/
def accepts (rule : IdentifierRule) (lexeme : String) : Bool :=
  match rule with
  | word => isWord lexeme.toList
  | strict => isStrict lexeme.toList

/-- The name by which a rule is chosen. -/
def name : IdentifierRule → String
  | word => "word"
  | strict => "strict"

/-- The rule of a name; case matters. -/
def ofName? : String → Option IdentifierRule
  | "word" => some word
  | "strict" => some strict
  | _ => none

@[simp] theorem ofName?_name (rule : IdentifierRule) : ofName? rule.name = some rule := by
  cases rule <;> rfl

/-- The complaint about a name that no rule has. -/
def unknownName (name : String) : String := "Unknown identifier rule: " ++ name

end IdentifierRule

end SqlLexer
