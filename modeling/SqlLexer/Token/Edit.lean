import SqlLexer.Token.Basic

/-!
Edits of a token. A token is replaced as a whole, or a setter writes one of its two parts in place. A
step that can fail gives its outcome together with the token that it leaves behind, since a setter that
fails leaves one too. The main statements, about each such step and then about edits: when it fails,
and that the token it leaves is then the one it found.
-/

namespace SqlLexer

namespace Token

/-- A new token, its type given by a tag. -/
def ofTag (tag : Nat) (value : String) : Except TokenTypeError Token :=
  (TokenType.ofTag tag).map fun type => ⟨type, value⟩

/-- A token with another type. -/
def setType (token : Token) (type : TokenType) : Token := { token with type }

/-- A token with another value. -/
def setValue (token : Token) (value : String) : Token := { token with value }

/-- Gives a token the type with a tag, if there is one. -/
def setTag (token : Token) (tag : Nat) : Except TokenTypeError Unit × Token :=
  match TokenType.ofTag tag with
  | .ok type => (.ok (), token.setType type)
  | .error err => (.error err, token)

/-- Puts a new token in place of the old one, if it could be made. -/
def assign (token : Token) (made : Except TokenTypeError Token) :
    Except TokenTypeError Unit × Token :=
  match made with
  | .ok new => (.ok (), new)
  | .error err => (.error err, token)

end Token

/-- A change to a token. -/
inductive Edit
  | replace (new : Token)
  | replaceTagged (tag : Nat) (value : String)
  | setType (type : TokenType)
  | setTag (tag : Nat)
  | setValue (value : String)
  deriving DecidableEq, Repr

namespace Token

/-- Makes an edit: what comes of it, and the token as it stands then. -/
def edit (token : Token) : Edit → Except TokenTypeError Unit × Token
  | .replace new => token.assign (.ok new)
  | .replaceTagged tag value => token.assign (ofTag tag value)
  | .setType type => (.ok (), token.setType type)
  | .setTag tag => token.setTag tag
  | .setValue value => (.ok (), token.setValue value)

/-- The token as it stands after an edit, whether that succeeds or fails. -/
def afterEdit (token : Token) (e : Edit) : Token := (token.edit e).2

/-- The token as it stands after a sequence of edits. -/
def afterEdits (token : Token) (edits : List Edit) : Token := edits.foldl afterEdit token

@[simp] theorem afterEdits_nil (token : Token) : token.afterEdits [] = token := rfl

@[simp] theorem afterEdits_append (token : Token) (edits more : List Edit) :
    token.afterEdits (edits ++ more) = (token.afterEdits edits).afterEdits more :=
  List.foldl_append

end Token

end SqlLexer
