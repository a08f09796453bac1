import SqlLexer.Proofs.QuoteAutomaton
import SqlLexer.Proofs.Trimming

/-!
White space around a query. It changes neither the lexemes nor the tokens, and a query that leaves a
quote open leaves the same one open: the white space behind it joins the text that no quote closes.
-/

namespace SqlLexer

namespace Mode

theorem run_outside_of_isBlankText {blanks : List Char} (h : Text.isBlankText blanks = true) :
    outside.run blanks = some outside :=
  run_outside_of_no_quote fun c hc =>
    Quote.ofChar?_eq_none_of_isBlank (List.all_eq_true.1 h c hc)

/-- The quote that a text leaves open stays open in white space. -/
theorem LeavesOpen.surround {cs before after leading trailing : List Char} {q : Quote}
    (h : LeavesOpen cs before q after) (hleading : Text.isBlankText leading = true)
    (htrailing : Text.isBlankText trailing = true) :
    LeavesOpen (leading ++ cs ++ trailing) (leading ++ before) q (after ++ trailing) where
  text := by rw [← h.text, List.append_assoc, List.append_assoc, List.append_assoc, List.cons_append]
  outside_before := by
    rw [run_append, run_outside_of_isBlankText hleading, Option.bind_some, h.outside_before]
  never_outside _ hbehind :=
    run_ne_outside_of_close? (Quote.close?_append_blank h.close?_eq_none htrailing) hbehind

end Mode

section

variable {leading trailing : String} (hleading : Text.isBlankText leading.toList = true)
  (htrailing : Text.isBlankText trailing.toList = true) (query : String)

include hleading htrailing

theorem segment_surrounded : segment (leading ++ query ++ trailing) = segment query := by
  rw [segment_append_blank htrailing, segment_blank_append hleading]

theorem tokenize_surrounded (dialect : Dialect) :
    dialect.tokenize (leading ++ query ++ trailing) = dialect.tokenize query := by
  rw [Dialect.tokenize, segment_surrounded hleading htrailing]
  rfl

/-- White space around a query makes no difference. In particular the query is folded from the same
quote on. -/
theorem surroundings_make_no_difference :
    (segment (leading ++ query ++ trailing)).lexemes = (segment query).lexemes ∧
    (segment (leading ++ query ++ trailing)).isFolded = (segment query).isFolded ∧
    (segment (leading ++ query ++ trailing)).fold = (segment query).fold ∧
    (∀ before q after, Mode.LeavesOpen query.toList before q after →
      Mode.LeavesOpen (leading ++ query ++ trailing).toList (leading.toList ++ before) q
        (after ++ trailing.toList)) ∧
    ∀ dialect : Dialect,
      dialect.tokenize (leading ++ query ++ trailing) = dialect.tokenize query := by
  rw [segment_surrounded hleading htrailing]
  refine ⟨rfl, rfl, rfl, fun before q after hopen => ?_,
    tokenize_surrounded hleading htrailing query⟩
  rw [String.toList_append, String.toList_append]
  exact hopen.surround hleading htrailing

end

/-- A backslash at the end of an open string takes the white space behind it along, or fails at a
line feed. Either way the fold is the same. -/
theorem surroundings_of_backslash :
    Text.isBlankText "\n\u00A0".toList = true ∧ Text.isBlankText "\n ".toList = true ∧
      Text.isBlankText "\u3000\n".toList = true ∧
      (default : Dialect).tokenize ("\n\u00A0" ++ "x = 'a  b\\" ++ "\n ") =
        [⟨.identifier, "x"⟩, ⟨.operator, "="⟩, ⟨.unknown, "'a b \\"⟩] ∧
      (default : Dialect).tokenize ("\n\u00A0" ++ "x = 'a  b\\" ++ "\u3000\n") =
        [⟨.identifier, "x"⟩, ⟨.operator, "="⟩, ⟨.unknown, "'a b \\"⟩] ∧
      Mode.LeavesOpen "\n\u00A0x = 'a  b\\\u3000\n".toList "\n\u00A0x = ".toList .single
        "a  b\\\u3000\n".toList := by
  have hleading : Text.isBlankText "\n\u00A0".toList = true := by decide
  have hfeed : Text.isBlankText "\n ".toList = true := by decide
  have hspace : Text.isBlankText "\u3000\n".toList = true := by decide
  have htokens : (default : Dialect).tokenize "x = 'a  b\\" =
      [⟨.identifier, "x"⟩, ⟨.operator, "="⟩, ⟨.unknown, "'a b \\"⟩] := by decide +kernel
  have hopen : Mode.LeavesOpen "x = 'a  b\\".toList "x = ".toList .single "a  b\\".toList :=
    ⟨rfl, rfl, fun behind => Mode.run_ne_outside_of_close? rfl⟩
  obtain ⟨-, -, -, -, hfeedTokens⟩ := surroundings_make_no_difference hleading hfeed "x = 'a  b\\"
  obtain ⟨-, -, -, hsame, hspaceTokens⟩ :=
    surroundings_make_no_difference hleading hspace "x = 'a  b\\"
  exact ⟨hleading, hfeed, hspace, (hfeedTokens default).trans htokens,
    (hspaceTokens default).trans htokens, hsame _ _ _ hopen⟩

end SqlLexer
