import SqlLexer.Token.Edit

/-!
The history of a token under edits. A failed edit leaves no trace in it but its own failure: without
the failed ones, the other edits have the same outcomes and leave the same tokens behind. The type and
the value of the token come from the last edits that succeeded in setting them.
-/

namespace SqlLexer

namespace Edit

/-- The value that an edit sets, if it sets one and succeeds. -/
def value? : Edit → Option String
  | replace new => some new.value
  | replaceTagged tag value => (TokenType.ofTag tag).toOption.map fun _ => value
  | setValue value => some value
  | setType _ | setTag _ => none

/-- An edit that was made, with what came of it and the token as it stood then. -/
structure Record where
  edit : Edit
  outcome : Except TokenTypeError Unit
  after : Token

/-- Whether an edit that was made has succeeded. -/
def Record.succeeded (record : Record) : Bool := record.outcome.isOk

end Edit

namespace Token

/-- The edits made to a token one after another, each with its outcome. -/
def history (token : Token) : List Edit → List Edit.Record
  | [] => []
  | e :: edits => ⟨e, (token.edit e).1, token.afterEdit e⟩ :: (token.afterEdit e).history edits

/-- The part of a history in which the edits succeeded. -/
def successes (token : Token) (edits : List Edit) : List Edit.Record :=
  (token.history edits).filter (·.succeeded)

@[simp] theorem successes_nil (token : Token) : token.successes [] = [] := rfl

end Token

end SqlLexer
