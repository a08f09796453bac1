import SqlLexer.CommandLine.Program
import SqlLexer.Proofs.Course

/-!
Queries as arguments and queries on lines. A line loses the white space at its end before it is
tokenized, and is not tokenized at all if it is blank; an argument is tokenized as it is. The tokens
that are printed are the same.
-/

namespace SqlLexer

namespace Text

/-- The bytes of some texts, each with a line feed behind it. -/
def typed (texts : List String) : List UInt8 :=
  texts.flatMap fun text => utf8 (text.toList ++ ['\n'])

theorem lines_typed {texts : List String} (h : ∀ text ∈ texts, '\n' ∉ text.toList) :
    lines (typed texts) = texts.map fun text => utf8 (text.toList ++ ['\n']) := by
  induction texts with
  | nil => rfl
  | cons text texts ih =>
      obtain ⟨htext, htexts⟩ := List.forall_mem_cons.1 h
      have hbytes : lineFeed ∉ utf8 text.toList := by rwa [lineFeed_mem_utf8]
      have hline : utf8 (text.toList ++ ['\n']) = utf8 text.toList ++ [lineFeed] := by simp
      have hcons : typed (text :: texts) = utf8 text.toList ++ lineFeed :: typed texts := by
        rw [typed, List.flatMap_cons, hline, List.append_assoc, List.singleton_append]
        rfl
      rw [hcons, lines_append_lineFeed hbytes, ih htexts, List.map_cons, hline]

end Text

namespace Session

section

variable {queries : List String} (hline : ∀ query ∈ queries, '\n' ∉ query.toList)
  (hexit : ∀ query ∈ queries, Text.trimmed query ≠ Command.exitWord)

include hline hexit

/-- On lines of their own all queries are answered, without the white space at their ends. -/
theorem course_typed :
    Course (Text.lines (Text.typed queries)) (queries.map Text.trimmed) none := by
  rw [Text.lines_typed hline]
  clear hline
  induction queries with
  | nil => exact .atEnd
  | cons query queries ih =>
      obtain ⟨hfirst, hexit⟩ := List.forall_mem_cons.1 hexit
      exact .query (Text.holds_trimmed query (by decide)) hfirst (ih hexit)

end

theorem printQuery_trimmed (session : Session) (query : String) :
    session.printQuery (Text.trimmed query) = session.printQuery query := by
  rw [printQuery, printQuery, session.dialect.tokenize_trimmed]

/-- Without a prompt a session on lines prints what is printed for the queries themselves. -/
theorem run_typed {session : Session} (hprompt : session.hasPrompt = false) {queries : List String}
    (hline : ∀ query ∈ queries, '\n' ∉ query.toList)
    (hexit : ∀ query ∈ queries, Text.trimmed query ≠ Command.exitWord) :
    (session.run (Text.typed queries)).output = session.printQueries queries ∧
      (session.run (Text.typed queries)).failure = none := by
  have hprint : session.printQuery ∘ Text.trimmed = session.printQuery :=
    funext session.printQuery_trimmed
  have hcourse := course_typed hline hexit
  constructor
  · rw [run, output_of_course hprompt hcourse, printQueries, List.map_map, hprint, printQueries]
  · rw [run, session.transcript_of_course hcourse]

end Session

/-- The program prints the same for queries among its arguments and for queries on lines, and
succeeds in both cases: neither the white space at the end of a line nor a blank line would have
been seen in what is printed. -/
theorem run_queries_eq_run_typed (arguments : Arguments) (hqueries : arguments.queries ≠ [])
    (hline : ∀ query ∈ arguments.queries, '\n' ∉ query.toList)
    (hexit : ∀ query ∈ arguments.queries, Text.trimmed query ≠ Command.exitWord)
    (hasPrompt : Bool) (input : List UInt8) :
    arguments.run hasPrompt input =
      ⟨0, ((arguments.session false).run (Text.typed arguments.queries)).output⟩ ∧
    ((arguments.session false).run (Text.typed arguments.queries)).failure = none ∧
    (∀ query, (arguments.session false).printQuery (Text.trimmed query) =
      (arguments.session false).printQuery query) ∧
    ∀ query : String, Text.isBlankText query.toList = true →
      (arguments.session false).printQuery query = "" := by
  have hprompt : (arguments.session false).hasPrompt = false := rfl
  obtain ⟨houtput, hfailure⟩ := Session.run_typed hprompt hline hexit
  refine ⟨?_, hfailure, Session.printQuery_trimmed _, fun _ => Session.printQuery_of_isBlankText _⟩
  rw [houtput, Arguments.run]
  split
  case h_1 hnil => exact absurd hnil hqueries
  case h_2 => rfl

/-- An open quote with a dangling backslash, a blank query, and one that only begins like the
command to leave. -/
theorem run_queries_open_quote :
    let arguments : Arguments := { queries := ["x='a\\ ", " \t", ".exit 1"], identifierRule := .strict }
    arguments.queries ≠ [] ∧ (∀ query ∈ arguments.queries, '\n' ∉ query.toList) ∧
      (∀ query ∈ arguments.queries, Text.trimmed query ≠ Command.exitWord) ∧
      arguments.run true [] =
        ⟨0, "Identifier\tx\nOperator\t=\nUnknown\t'a \\\n" ++
          "Punctuation\t.\nIdentifier\texit\nLiteral\t1\n"⟩ ∧
      ((arguments.session false).run (Text.utf8 "x='a\\ \n \t\n.exit 1\n".toList)).output =
        (arguments.run true []).output := by
  intro arguments
  have hline : ∀ query ∈ arguments.queries, '\n' ∉ query.toList := by decide
  have hexit : ∀ query ∈ arguments.queries, Text.trimmed query ≠ Command.exitWord := by decide
  have hrun := (run_queries_eq_run_typed arguments (by decide) hline hexit true []).1
  refine ⟨by decide, hline, hexit, by decide +kernel, ?_⟩
  rw [hrun]
  rfl

end SqlLexer
