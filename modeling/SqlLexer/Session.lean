import SqlLexer.Dialect.Tokenization
import SqlLexer.Text.Line
import SqlLexer.Token.Format

/-!
Sessions: a stream of lines, each a command, answered by the tokens in it. A line is read without the
white space at its end. A session ends with the stream, at the command to leave it, or at a line that
is not UTF-8, which is a failure; whether it goes on behind a line, and with what answer, is decided by
the line alone. A prompt, if there is one, is written before each attempt to read a line. The main
statements give the transcript line by line.
-/

namespace SqlLexer

/-- What a line asks for. -/
inductive Command
  /-- To leave the session. -/
  | exit
  /-- Nothing: the line is blank. -/
  | nothing
  /-- To tokenize the line. -/
  | tokenize (query : String)
  deriving DecidableEq, Repr

namespace Command

/-- The word that leaves a session. -/
def exitWord : String := ".exit"

/-- The command that a text is. -/
def ofText (text : String) : Command :=
  if text = exitWord then exit
  else if Text.isBlankText text.toList then nothing
  else tokenize text

theorem ofText_eq_exit_iff {text : String} : ofText text = exit ↔ text = exitWord := by
  unfold ofText
  split
  case isTrue h => simp [h]
  case isFalse h => split <;> simp [h]

/-- The command on a line; there is none if the line is not UTF-8. -/
def ofLine? (line : List UInt8) : Option Command := (Text.command? line).map ofText

end Command

/-- What a session is held in. -/
structure Session where
  dialect : Dialect := {}
  format : OutputFormat := .plain
  /-- Whether a prompt is written before a line is read. -/
  hasPrompt : Bool := false
  deriving DecidableEq

/-- Why a session fails. -/
inductive ReadError
  /-- A line is not UTF-8. -/
  | invalidText
  deriving DecidableEq, Repr

/-- A failure in words. -/
def ReadError.message : ReadError → String
  | invalidText => "stream did not contain valid UTF-8"

/-- What comes of a line. -/
inductive Reply
  /-- The session ends, with a failure if there is one. -/
  | stop (failure : Option ReadError)
  /-- The answer is written and the session goes on. -/
  | goOn (answer : String)
  deriving DecidableEq, Repr

/-- What a session leaves: the pieces of text that it has written, in order, and the failure that
ended it, if one did. -/
structure Transcript where
  pieces : List String
  failure : Option ReadError
  deriving DecidableEq, Repr

namespace Transcript

/-- All that has been written. -/
def output (t : Transcript) : String := String.join t.pieces

/-- A transcript with one more piece of text in front. -/
def cons (piece : String) (t : Transcript) : Transcript := ⟨piece :: t.pieces, t.failure⟩

@[simp] theorem output_mk (pieces : List String) (failure : Option ReadError) :
    (Transcript.mk pieces failure).output = String.join pieces := rfl

@[simp] theorem output_cons (piece : String) (t : Transcript) :
    (t.cons piece).output = piece ++ t.output := by
  simp [output, cons]

@[simp] theorem failure_cons (piece : String) (t : Transcript) :
    (t.cons piece).failure = t.failure := rfl

end Transcript

namespace Session

/-- What is written before a line is read. -/
def prompt (session : Session) : String := if session.hasPrompt then "ahdb> " else ""

/-- The tokens of a query as they are printed. -/
def printQuery (session : Session) (query : String) : String :=
  session.format.print (session.dialect.tokenize query)

/-- The tokens of several queries, one query after the other. -/
def printQueries (session : Session) (queries : List String) : String :=
  String.join (queries.map session.printQuery)

/-- What a command is answered with. -/
def answer (session : Session) : Command → String
  | .exit | .nothing => ""
  | .tokenize query => session.printQuery query

/-- What a session does about a line. -/
def respond (session : Session) (line : List UInt8) : Reply :=
  match Command.ofLine? line with
  | none => .stop (some .invalidText)
  | some .exit => .stop none
  | some command => .goOn (session.answer command)

/-- The transcript of a session over the lines of a stream. -/
def transcript (session : Session) : List (List UInt8) → Transcript
  | [] => ⟨[session.prompt], none⟩
  | line :: lines =>
    match session.respond line with
    | .stop failure => ⟨[session.prompt], failure⟩
    | .goOn answer => (session.transcript lines).cons (session.prompt ++ answer)

@[simp] theorem transcript_nil (session : Session) :
    session.transcript [] = ⟨[session.prompt], none⟩ := rfl

/-- A line that is not UTF-8 ends the session with a failure. -/
theorem transcript_of_none {session : Session} {line : List UInt8}
    (h : Command.ofLine? line = none) (lines : List (List UInt8)) :
    session.transcript (line :: lines) = ⟨[session.prompt], some .invalidText⟩ := by
  simp [transcript, respond, h]

/-- The command to leave ends the session. -/
theorem transcript_of_exit {session : Session} {line : List UInt8}
    (h : Command.ofLine? line = some .exit) (lines : List (List UInt8)) :
    session.transcript (line :: lines) = ⟨[session.prompt], none⟩ := by
  simp [transcript, respond, h]

/-- Any other line is answered, and the session goes on. -/
theorem transcript_of_command {session : Session} {line : List UInt8} {command : Command}
    (h : Command.ofLine? line = some command) (hne : command ≠ .exit) (lines : List (List UInt8)) :
    session.transcript (line :: lines) =
      (session.transcript lines).cons (session.prompt ++ session.answer command) := by
  have hrespond : session.respond line = .goOn (session.answer command) := by
    cases command with
    | exit => exact absurd rfl hne
    | nothing => rw [respond, h]
    | tokenize query => rw [respond, h]
  rw [transcript, hrespond]

/-- The transcript of a session over a stream of bytes. -/
def run (session : Session) (input : List UInt8) : Transcript :=
  session.transcript (Text.lines input)

end Session

end SqlLexer
