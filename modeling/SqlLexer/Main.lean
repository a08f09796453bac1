import SqlLexer.CommandLine.Program
import SqlLexer.Dialect.Log

/-!
The program at the terminal. Input is read line by line and answered at once, as `Session.respond` says
of each line; with `--verbose` the log goes to the standard error.
-/

namespace SqlLexer.Main

/-- Writes and flushes, so that the text is seen before the next line is read. -/
def write (stream : IO.FS.Stream) (text : String) : IO Unit := do
  stream.putStr text
  stream.flush

/-- Reads up to and including the next line feed; at the end of input there is nothing to read. -/
partial def readLine (input : IO.FS.Stream) (line : List UInt8) : IO (List UInt8) := do
  match (← input.read 1).toList with
  | [b] => if b = Text.lineFeed then return (b :: line).reverse else readLine input (b :: line)
  | _ => return line.reverse

/-- Reports what the tokenization of a query has to report, single lexemes left out. -/
def report (session : Session) (query : String) : IO Unit := do
  let stderr ← IO.getStderr
  for event in session.dialect.log query do
    if event.level = .debug then
      stderr.putStrLn (event.level.name ++ " " ++ event.message)

/-- Holds a session on a stream of lines, up to the end of the stream or the line that stops it. -/
partial def hold (session : Session) (verbose : Bool) (input output : IO.FS.Stream) :
    IO UInt32 := do
  write output session.prompt
  let line ← readLine input []
  if line.isEmpty then
    return 0
  if verbose then
    if let some (.tokenize query) := Command.ofLine? line then
      report session query
  match session.respond line with
  | .stop none => return 0
  | .stop (some failure) =>
    (← IO.getStderr).putStrLn ("Error: " ++ failure.message)
    return 1
  | .goOn answer =>
    write output answer
    hold session verbose input output

end SqlLexer.Main

/-- Runs the program. -/
def main (texts : List String) : IO UInt32 := do
  let output ← IO.getStdout
  match SqlLexer.Arguments.parse texts with
  | .error stop =>
    SqlLexer.Main.write output stop.output
    if let some complaint := stop.complaint? then
      (← IO.getStderr).putStrLn ("error: " ++ complaint)
    return stop.exitCode.toUInt32
  | .ok arguments =>
    let input ← IO.getStdin
    let session := arguments.session (← input.isTty)
    if arguments.queries.isEmpty then
      SqlLexer.Main.hold session arguments.verbose input output
    else
      for query in arguments.queries do
        if arguments.verbose then
          SqlLexer.Main.report session query
        SqlLexer.Main.write output (session.printQuery query)
      return 0
