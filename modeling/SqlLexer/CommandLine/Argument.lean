/-!
Single arguments of the program: a word, an option by its long name, perhaps with a value behind an
equals sign, or a cluster of one-letter switches. An argument has its form from its dashes alone; it is
recognised once its name or letter is known to be that of a switch or of a setting.
-/

namespace SqlLexer.Arguments

/-- The options without a value. -/
inductive Switch
  | verbose
  | help
  | version
  deriving DecidableEq, Repr

/-- The options with a value. -/
inductive Setting
  | identifierRule
  | format
  deriving DecidableEq, Repr

/-- The name of a setting. -/
def Setting.name : Setting → String
  | identifierRule => "identifier-rule"
  | format => "format"

/-- Why arguments are not run on. -/
inductive Stop
  /-- Help was asked for. -/
  | help
  /-- The version was asked for. -/
  | version
  | unknownOption (option : String)
  | missingValue (setting : Setting)
  | unknownFormat (name : String)
  | unknownIdentifierRule (name : String)
  | repeatedOption (option : String)
  /-- A switch came with a value. -/
  | unexpectedValue (option : String)
  deriving DecidableEq, Repr

/-- An argument, by its form. -/
inductive Argument
  | word (text : String)
  /-- Two dashes, behind which all is query. -/
  | separator
  /-- A long name behind two dashes, and the value behind an equals sign. -/
  | long (name : String) (value? : Option String)
  /-- Letters behind one dash. -/
  | cluster (letters : List Char)
  deriving DecidableEq, Repr

/-- The form of an argument. A dash by itself is a word. -/
def Argument.ofText (text : String) : Argument :=
  match text.toList with
  | ['-', '-'] => separator
  | '-' :: '-' :: cs =>
    match cs.dropWhile (· != '=') with
    | [] => long (String.ofList cs) none
    | _ :: value => long (String.ofList (cs.takeWhile (· != '='))) (some (String.ofList value))
  | '-' :: c :: cs => cluster (c :: cs)
  | _ => word text

theorem Argument.eq_of_ofText_eq_separator {text : String} (h : ofText text = separator) :
    text = "--" := by
  unfold ofText at h
  split at h
  case h_1 hdashes => exact String.toList_inj.1 hdashes
  case h_2 => split at h <;> cases h
  case h_3 => cases h
  case h_4 => cases h

/-- An argument, or a letter of a cluster, once it has been recognised. -/
inductive Item
  | word (text : String)
  | switch (switch : Switch)
  | setting (setting : Setting) (value? : Option String)
  deriving DecidableEq, Repr

/-- The switch or setting with a long name. -/
def Item.ofLong (name : String) (value? : Option String) : Except Stop Item :=
  match name, value? with
  | "identifier-rule", _ => .ok (.setting .identifierRule value?)
  | "format", _ => .ok (.setting .format value?)
  | "verbose", none => .ok (.switch .verbose)
  | "help", none => .ok (.switch .help)
  | "version", none => .ok (.switch .version)
  | "verbose", some _ | "help", some _ | "version", some _ =>
    .error (.unexpectedValue ("--" ++ name))
  | _, _ => .error (.unknownOption ("--" ++ name))

/-- The switch with a letter. -/
def Item.ofLetter : Char → Except Stop Item
  | 'v' => .ok (.switch .verbose)
  | 'h' => .ok (.switch .help)
  | 'V' => .ok (.switch .version)
  | c => .error (.unknownOption ("-" ++ String.singleton c))

end SqlLexer.Arguments
