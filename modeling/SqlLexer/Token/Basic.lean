/-!
Tokens: a value and the type it was recognised as. Types have a name and a tag, and can be had from
either; a name or tag that belongs to no type is an error of its own. The main statements: names and
tags are read back to the types they came from, and the errors are exactly the rest.
-/

namespace SqlLexer

/-- What a token was recognised as. -/
inductive TokenType
  | keyword
  | identifier
  | literal
  | operator
  | punctuation
  | comment
  | whitespace
  | unknown
  deriving DecidableEq, Repr, Inhabited

/-- Why something names no token type. -/
inductive TokenTypeError
  | tag (tag : Nat)
  | name (name : String)
  deriving DecidableEq, Repr

namespace TokenType

/-- The types in the order of their tags. -/
def all : List TokenType :=
  [keyword, identifier, literal, operator, punctuation, comment, whitespace, unknown]

/-- The type with the lowest tag. -/
def first : TokenType := keyword

/-- The type with the highest tag. -/
def last : TokenType := unknown

/-- The number of a type. -/
def tag : TokenType → Nat
  | keyword => 0
  | identifier => 1
  | literal => 2
  | operator => 3
  | punctuation => 4
  | comment => 5
  | whitespace => 6
  | unknown => 7

/-- The type with a given tag. -/
def ofTag (tag : Nat) : Except TokenTypeError TokenType :=
  match all[tag]? with
  | some t => .ok t
  | none => .error (.tag tag)

@[simp] theorem ofTag_tag (t : TokenType) : ofTag t.tag = .ok t := by
  cases t <;> rfl

/-- The name of a type, as it is printed. -/
def name : TokenType → String
  | keyword => "Keyword"
  | identifier => "Identifier"
  | literal => "Literal"
  | operator => "Operator"
  | punctuation => "Punctuation"
  | comment => "Comment"
  | whitespace => "Whitespace"
  | unknown => "Unknown"

/-- The type with a given name; case matters. -/
def ofName (name : String) : Except TokenTypeError TokenType :=
  match all.find? (·.name == name) with
  | some t => .ok t
  | none => .error (.name name)

@[simp] theorem ofName_name (t : TokenType) : ofName t.name = .ok t := by
  cases t <;> rfl

end TokenType

/-- A value and the type it was recognised as. -/
structure Token where
  type : TokenType := .unknown
  value : String := ""
  deriving DecidableEq, Repr, Inhabited

end SqlLexer
