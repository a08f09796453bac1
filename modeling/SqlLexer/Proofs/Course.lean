import Mathlib.Logic.ExistsUnique
import SqlLexer.Proofs.Stream
import SqlLexer.Proofs.Trimming
import SqlLexer.Session

/-!
The course of a session. Line by line the queries are answered, up to the first line that is the
command to leave or is not UTF-8; what stands behind that line is never looked at. So without the
command to leave a session fails if and only if its input is not UTF-8.
-/

namespace SqlLexer

namespace Command

theorem ofLine?_eq_none_iff {line : List UInt8} : ofLine? line = none ↔ ¬Text.IsUtf8 line := by
  rw [ofLine?, Option.map_eq_none_iff, Text.command?_eq_none_iff]

theorem ofLine?_of_holds {line : List UInt8} {text : String} (h : Text.Holds line text) :
    ofLine? line = some (ofText text) := by
  rw [ofLine?, Text.command?_eq_some_iff.2 h]
  rfl

theorem ofLine?_of_holds_exitWord {line : List UInt8} (h : Text.Holds line exitWord) :
    ofLine? line = some exit := by
  rw [ofLine?_of_holds h, ofText_eq_exit_iff.2 rfl]

end Command

namespace Session

/-- A session reads a line and stops, because it is the command to leave or is not UTF-8. -/
def StopsAt (line : List UInt8) : Prop :=
  Text.Holds line Command.exitWord ∨ ¬Text.IsUtf8 line

/-- The course of a session over the lines of a stream: the queries that it answers, and the failure
with which it stops, if it is one. -/
inductive Course : List (List UInt8) → List String → Option ReadError → Prop
  /-- The stream is at its end. -/
  | atEnd : Course [] [] none
  /-- The command to leave. -/
  | exit {line : List UInt8} (h : Text.Holds line Command.exitWord) (lines : List (List UInt8)) :
      Course (line :: lines) [] none
  /-- A line that cannot be read. -/
  | invalid {line : List UInt8} (h : ¬Text.IsUtf8 line) (lines : List (List UInt8)) :
      Course (line :: lines) [] (some .invalidText)
  /-- Any other line is a query, and the session goes on. -/
  | query {line : List UInt8} {query : String} {lines : List (List UInt8)} {queries : List String}
      {failure : Option ReadError} (h : Text.Holds line query) (hne : query ≠ Command.exitWord)
      (rest : Course lines queries failure) : Course (line :: lines) (query :: queries) failure

/-- Every stream gives a session a course. -/
theorem exists_course (lines : List (List UInt8)) :
    ∃ queries failure, Course lines queries failure := by
  induction lines with
  | nil => exact ⟨[], none, .atEnd⟩
  | cons line lines ih =>
      cases htext : Text.command? line with
      | none => exact ⟨[], _, .invalid (Text.command?_eq_none_iff.1 htext) lines⟩
      | some text =>
          have hholds := Text.command?_eq_some_iff.1 htext
          by_cases hexit : text = Command.exitWord
          · exact ⟨[], none, .exit (hexit ▸ hholds) lines⟩
          · obtain ⟨queries, failure, hcourse⟩ := ih
            exact ⟨text :: queries, failure, .query hholds hexit hcourse⟩

variable (session : Session)

theorem printQuery_of_isBlankText {query : String}
    (h : Text.isBlankText query.toList = true) : session.printQuery query = "" := by
  rw [printQuery, session.dialect.tokenize_of_isBlankText h, OutputFormat.print_nil]

/-- A blank line is answered like a query that has no tokens. -/
theorem answer_ofText {text : String} (h : text ≠ Command.exitWord) :
    session.answer (Command.ofText text) = session.printQuery text := by
  rw [Command.ofText, if_neg h]
  split
  case isTrue hblank => rw [session.printQuery_of_isBlankText hblank, answer]
  case isFalse => rfl

/-- What a session writes over its course: each answer behind a prompt, and one prompt more. -/
theorem transcript_of_course {lines : List (List UInt8)} {queries : List String}
    {failure : Option ReadError} (h : Course lines queries failure) :
    session.transcript lines =
      ⟨(queries.map fun query => session.prompt ++ session.printQuery query) ++ [session.prompt],
        failure⟩ := by
  induction h with
  | atEnd => rfl
  | exit hholds lines => exact transcript_of_exit (Command.ofLine?_of_holds_exitWord hholds) lines
  | invalid hinvalid lines => exact transcript_of_none (Command.ofLine?_eq_none_iff.2 hinvalid) lines
  | query hholds hne hrest ih =>
      have hcommand : Command.ofText _ ≠ .exit := fun hexit => hne (Command.ofText_eq_exit_iff.1 hexit)
      rw [transcript_of_command (Command.ofLine?_of_holds hholds) hcommand, ih,
        session.answer_ofText hne]
      rfl

/-- Without a prompt nothing but the tokens of the queries is written. -/
theorem output_of_course {session : Session} (hprompt : session.hasPrompt = false)
    {lines : List (List UInt8)} {queries : List String} {failure : Option ReadError}
    (h : Course lines queries failure) :
    (session.transcript lines).output = session.printQueries queries := by
  have hnone : session.prompt = "" := by rw [prompt, hprompt]; rfl
  have hprint : (fun query => session.prompt ++ session.printQuery query) = session.printQuery := by
    funext query
    rw [hnone, String.empty_append]
  rw [session.transcript_of_course h, hprint, hnone, Transcript.output_mk, printQueries]
  simp

/-- What stands behind a line at which the session stops does not matter. -/
theorem transcript_append_of_stopsAt (before : List (List UInt8)) {stop : List UInt8}
    (h : StopsAt stop) (after after' : List (List UInt8)) :
    session.transcript (before ++ stop :: after) =
      session.transcript (before ++ stop :: after') := by
  induction before with
  | nil =>
      rcases h with hexit | hinvalid
      · have hcommand := Command.ofLine?_of_holds_exitWord hexit
        rw [List.nil_append, List.nil_append, transcript_of_exit hcommand,
          transcript_of_exit hcommand]
      · have hcommand := Command.ofLine?_eq_none_iff.2 hinvalid
        rw [List.nil_append, List.nil_append, transcript_of_none hcommand,
          transcript_of_none hcommand]
  | cons line before ih =>
      rw [List.cons_append, List.cons_append, transcript, transcript, ih]

theorem failure_eq_none_iff_of_course {lines : List (List UInt8)} {queries : List String}
    {failure : Option ReadError} (h : Course lines queries failure)
    (hexit : ∀ line ∈ lines, ¬Text.Holds line Command.exitWord) :
    failure = none ↔ ∀ line ∈ lines, Text.IsUtf8 line := by
  induction h with
  | atEnd => simp
  | exit hholds lines => exact absurd hholds (hexit _ List.mem_cons_self)
  | invalid hinvalid lines =>
      exact iff_of_false (by simp) fun hall => hinvalid (hall _ List.mem_cons_self)
  | query hholds hne hrest ih =>
      obtain ⟨-, hexit⟩ := List.forall_mem_cons.1 hexit
      rw [List.forall_mem_cons, ih hexit, and_iff_right hholds.isUtf8]

/-- A session goes by the pieces of its input behind the line feeds: it answers those before the
first at which it stops. -/
theorem run_line_by_line (input : List UInt8) :
    (∃! pieces, Text.IsCut input pieces) ∧
    (∀ query : String, Text.isBlankText query.toList = true → session.printQuery query = "") ∧
    ∀ pieces, Text.IsCut input pieces →
      (∃ queries failure, Course pieces queries failure) ∧
      (∀ queries failure, Course pieces queries failure →
        session.run input =
          ⟨(queries.map fun query => session.prompt ++ session.printQuery query) ++
            [session.prompt], failure⟩) ∧
      (∀ before stop after, before ++ stop :: after = pieces → StopsAt stop →
        stop.getLast? = some Text.lineFeed →
          ∀ more, session.run (before.flatten ++ stop ++ more) = session.run input) ∧
      ((∀ piece ∈ pieces, ¬Text.Holds piece Command.exitWord) →
        ((session.run input).failure = none ↔ Text.IsUtf8 input)) := by
  refine ⟨⟨_, Text.isCut_lines input, fun pieces hcut => hcut.eq_lines⟩,
    fun query => session.printQuery_of_isBlankText, ?_⟩
  intro pieces hcut
  obtain rfl := hcut.eq_lines
  refine ⟨exists_course _, fun queries failure => session.transcript_of_course, ?_, ?_⟩
  · intro before stop after hpieces hstop hended more
    rw [run, run, Text.lines_append_of_lines hpieces hended, ← hpieces]
    exact session.transcript_append_of_stopsAt before hstop _ _
  · intro hexit
    obtain ⟨queries, failure, hcourse⟩ := exists_course (Text.lines input)
    rw [run, session.transcript_of_course hcourse, failure_eq_none_iff_of_course hcourse hexit,
      ← Text.isUtf8_iff_forall_lines]

-- neither the bytes behind the command to leave nor those behind an invalid line are looked at
example :
    let session : Session := { hasPrompt := true }
    session.run (Text.utf8 "1\r\n \n .exit\n.exit \t\n2".toList ++ [0xFF]) =
      ⟨["ahdb> Literal\t1\n", "ahdb> ", "ahdb> Punctuation\t.\nIdentifier\texit\n", "ahdb> "], none⟩ ∧
    session.run ([0xFF, Text.lineFeed] ++ Text.utf8 "1".toList) =
      ⟨["ahdb> "], some .invalidText⟩ := by
  decide +kernel

end Session

end SqlLexer
