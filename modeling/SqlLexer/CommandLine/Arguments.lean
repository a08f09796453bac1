import SqlLexer.CommandLine.Argument
import SqlLexer.Lexeme.Shape
import SqlLexer.Token.Format

/-!
The arguments of the program as a whole. A word right behind a setting is its value, any other word a
query; after the separator `--` all arguments are queries.

Of two faults the one found first is reported. A setting is looked at no sooner than the next argument
has been recognised, unless its value came with it; so an unknown option is reported before a fault in
the setting in front of it. The main statement is the rule of the separator, wherever that stands.
-/

namespace SqlLexer

/-- What the program was asked to do. -/
structure Arguments where
  /-- The queries to tokenize; if there are none, they are read from the standard input. -/
  queries : List String := []
  identifierRule : IdentifierRule := .word
  format : OutputFormat := .plain
  verbose : Bool := false
  deriving DecidableEq, Repr

namespace Arguments

/-- What has been made of the arguments so far. -/
structure Draft where
  queries : List String := []
  identifierRule? : Option IdentifierRule := none
  format? : Option OutputFormat := none
  verbose : Bool := false
  /-- The setting last named, and its value once that has been read, while it is still to be looked
  at. -/
  pending? : Option (Setting × Option String) := none
  deriving DecidableEq, Repr

namespace Draft

/-- A draft with the value of a setting. No setting is given twice, and the value is one of those
that it takes. -/
def set (draft : Draft) (setting : Setting) (value : String) : Except Stop Draft :=
  match setting with
  | .identifierRule =>
    if draft.identifierRule?.isSome then
      .error (.repeatedOption ("--" ++ setting.name))
    else
      match IdentifierRule.ofName? value with
      | some rule => .ok { draft with identifierRule? := some rule }
      | none => .error (.unknownIdentifierRule value)
  | .format =>
    if draft.format?.isSome then
      .error (.repeatedOption ("--" ++ setting.name))
    else
      match OutputFormat.ofName? value with
      | some format => .ok { draft with format? := some format }
      | none => .error (.unknownFormat value)

/-- A draft that has looked at the pending setting. -/
def settle (draft : Draft) : Except Stop Draft :=
  match draft.pending? with
  | none => .ok draft
  | some (setting, none) => .error (.missingValue setting)
  | some (setting, some value) => { draft with pending? := none }.set setting value

/-- A draft with one more query. -/
def addQuery (draft : Draft) (query : String) : Draft :=
  { draft with queries := draft.queries ++ [query] }

/-- A draft with a switch turned on. -/
def turnOn (draft : Draft) : Switch → Except Stop Draft
  | .verbose =>
    if draft.verbose then .error (.repeatedOption "--verbose") else .ok { draft with verbose := true }
  | .help => .error .help
  | .version => .error .version

/-- A draft that has taken one more item. -/
def takeItem (draft : Draft) (item : Item) : Except Stop Draft :=
  match item, draft.pending? with
  | .word text, some (setting, none) => .ok { draft with pending? := some (setting, some text) }
  | .word text, _ => draft.settle.map (·.addQuery text)
  | .switch switch, _ => draft.settle.bind (·.turnOn switch)
  | .setting setting (some value), _ => draft.settle.bind (·.set setting value)
  | .setting setting none, _ =>
    draft.settle.map fun draft => { draft with pending? := some (setting, none) }

/-- A draft that has taken the letters of a cluster. -/
def takeLetters (draft : Draft) : List Char → Except Stop Draft
  | [] => .ok draft
  | c :: letters => do
    let item ← Item.ofLetter c
    let draft ← draft.takeItem item
    draft.takeLetters letters

/-- A draft that has taken all arguments. -/
def takeAll (draft : Draft) : List String → Except Stop Draft
  | [] => draft.settle
  | text :: texts =>
    match Argument.ofText text with
    | .separator =>
      draft.settle.map fun draft => { draft with queries := draft.queries ++ texts }
    | .word word => do
      let draft ← draft.takeItem (.word word)
      draft.takeAll texts
    | .long name value? => do
      let item ← Item.ofLong name value?
      let draft ← draft.takeItem item
      draft.takeAll texts
    | .cluster letters => do
      let draft ← draft.takeLetters letters
      draft.takeAll texts

/-- What becomes of a draft at an argument other than the separator does not depend on the arguments
behind it. -/
theorem takeAll_cons_of_ne (draft : Draft) {text : String} (h : text ≠ "--") :
    ∃ taken : Except Stop Draft,
      ∀ texts, draft.takeAll (text :: texts) = taken.bind (·.takeAll texts) := by
  cases hform : Argument.ofText text with
  | separator => exact absurd (Argument.eq_of_ofText_eq_separator hform) h
  | word word =>
      refine ⟨draft.takeItem (.word word), fun texts => ?_⟩
      rw [takeAll, hform]
      rfl
  | long name value? =>
      refine ⟨(Item.ofLong name value?).bind draft.takeItem, fun texts => ?_⟩
      rw [takeAll, hform]
      exact (bind_assoc (Item.ofLong name value?) draft.takeItem (·.takeAll texts)).symm
  | cluster letters =>
      refine ⟨draft.takeLetters letters, fun texts => ?_⟩
      rw [takeAll, hform]
      rfl

theorem takeAll_append_separator (draft : Draft) {texts : List String} (h : "--" ∉ texts)
    (queries : List String) :
    draft.takeAll (texts ++ "--" :: queries) =
      (draft.takeAll texts).map fun draft =>
        { draft with queries := draft.queries ++ queries } := by
  induction texts generalizing draft with
  | nil => rfl
  | cons text texts ih =>
      have htext : text ≠ "--" := fun heq => h (heq ▸ List.mem_cons_self)
      have htexts : "--" ∉ texts := fun hmem => h (List.mem_cons_of_mem text hmem)
      obtain ⟨taken, htaken⟩ := draft.takeAll_cons_of_ne htext
      rw [List.cons_append, htaken, htaken]
      cases taken with
      | error stop => rfl
      | ok next => exact ih next htexts

/-- The arguments that a draft comes to, with defaults for what was not given. -/
def finish (draft : Draft) : Arguments where
  queries := draft.queries
  identifierRule := draft.identifierRule?.getD .word
  format := draft.format?.getD .plain
  verbose := draft.verbose

end Draft

/-- The meaning of the program's arguments. -/
def parse (texts : List String) : Except Stop Arguments :=
  (({} : Draft).takeAll texts).map Draft.finish

/-- Behind the first separator everything is query, whatever it looks like. What stands in front of it
means what it means by itself, and is refused if it is refused by itself. -/
theorem parse_append_separator {texts : List String} (h : "--" ∉ texts) (queries : List String) :
    parse (texts ++ "--" :: queries) =
      (parse texts).map fun arguments =>
        { arguments with queries := arguments.queries ++ queries } := by
  rw [parse, Draft.takeAll_append_separator {} h, parse]
  cases ({} : Draft).takeAll texts with
  | error stop => rfl
  | ok draft => rfl

example :
    parse ["--format", "debug", "--", "-v", "--"] =
      .ok { queries := ["-v", "--"], format := .debug } := by
  rfl

end Arguments

end SqlLexer
