import SqlLexer.Proofs.IdentifierRules
import SqlLexer.Proofs.Retokenization

/-!
What a fold is taken for in standard SQL. It is a token by itself, and a punctuation mark if there is
nothing behind its quote. A longer one is a literal if it ends with the quote that it begins with: a
literal is known by its two ends, though nothing closes the string. Only a backslash can keep the
quote at the end from closing it, so without one a fold of more than its quote is unknown.
-/

namespace SqlLexer

/-- The last character of a text put together from others is that of the last one. -/
theorem getLast?_intercalate {texts : List String} (h : ∀ text ∈ texts, text.toList ≠ []) :
    (" ".intercalate texts).toList.getLast? =
      texts.getLast?.bind fun text => text.toList.getLast? := by
  induction texts with
  | nil => rfl
  | cons text texts ih =>
      obtain ⟨-, htexts⟩ := List.forall_mem_cons.1 h
      by_cases hnil : texts = []
      · rw [hnil, String.intercalate_singleton]
        rfl
      · have hlast := htexts _ (List.getLast_mem hnil)
        have hbind : texts.getLast?.bind (fun text => text.toList.getLast?) =
            some ((texts.getLast hnil).toList.getLast hlast) := by
          rw [List.getLast?_eq_some_getLast hnil, Option.bind_some,
            List.getLast?_eq_some_getLast hlast]
        rw [String.intercalate_cons_of_ne_nil hnil, String.toList_append, List.getLast?_append,
          ih htexts, hbind, Option.some_or, List.getLast?_cons_of_ne_nil hnil, hbind]

/-- The last span of a text that is not white space ends with a quote of the given kind. -/
def EndsWithQuote (q : Quote) (cs : List Char) : Prop :=
  ∃ s ∈ ((Span.split cs).filter (!·.isBlank)).getLast?, s.chars.getLast? = some q.char

namespace Segmentation

theorem getLast?_respaced_iff {q : Quote} {cs : List Char} :
    (respaced cs).toList.getLast? = some q.char ↔ EndsWithQuote q cs := by
  have hne : ∀ text ∈ visible (Span.split cs), text.toList ≠ [] := by
    intro text htext
    obtain ⟨s, hs, -, rfl⟩ := mem_visible_iff.1 htext
    rw [Span.toList_text]
    exact Span.chars_ne_nil_of_mem_split hs
  rw [respaced, getLast?_intercalate hne, visible, List.getLast?_map, Option.bind_map,
    Option.bind_eq_some_iff, EndsWithQuote]
  simp only [Function.comp_apply, Span.toList_text, Option.mem_def]

/-- Nothing is left of white space, and something of any other text. -/
theorem respaced_eq_empty_iff {cs : List Char} :
    respaced cs = "" ↔ Text.isBlankText cs = true := by
  constructor
  · intro hempty
    rw [Text.isBlankText, List.all_eq_true]
    intro c hc
    rw [← Bool.not_eq_false]
    intro hblank
    rw [← mem_respaced_iff hblank, hempty] at hc
    exact List.not_mem_nil hc
  · intro hblank
    have hnil := visible_split_blank_append hblank []
    rw [List.append_nil, Span.split_nil, visible_nil] at hnil
    rw [respaced, hnil, String.intercalate_nil]

end Segmentation

namespace Fold

/-- A quote with something behind it is no symbol of standard SQL. -/
theorem rest_eq_empty_of_isSymbol {fold : Fold}
    (h : Tables.sql.isPunctuation fold.text = true ∨ Tables.sql.isOperator fold.text = true) :
    fold.rest = "" := by
  obtain ⟨addition, haddition, hmem⟩ := Tables.mem_symbols_of_isSymbol h
  rcases Tables.sql_symbols addition haddition fold.text hmem with hone | ⟨-, -, -, hquote⟩
  · rw [← String.length_toList, toList_text, List.length_cons, Nat.add_eq_right,
      List.length_eq_zero_iff] at hone
    exact String.toList_eq_nil_iff.1 hone
  · rw [toList_text, List.head?_cons, Option.bind_some, Quote.ofChar?_char] at hquote
    cases hquote

theorem isPunctuation_text (fold : Fold) :
    Tables.sql.isPunctuation fold.text = decide (fold.rest = "") := by
  rw [Bool.eq_iff_iff, decide_eq_true_iff]
  constructor
  · exact fun hpunctuation => rest_eq_empty_of_isSymbol (Or.inl hpunctuation)
  · intro hempty
    rw [text, hempty]
    cases fold.quote <;> decide +kernel

theorem isOperator_text (fold : Fold) : Tables.sql.isOperator fold.text = false := by
  rw [Bool.eq_false_iff]
  intro hoperator
  have hempty := rest_eq_empty_of_isSymbol (Or.inr hoperator)
  rw [text, hempty] at hoperator
  revert hoperator
  cases fold.quote <;> decide +kernel

theorem isWord_text (fold : Fold) : isWord fold.text.toList = false :=
  IdentifierRule.accepts_fold .word fold

theorem isKeyword_text (fold : Fold) : Tables.sql.isKeyword fold.text = false :=
  Bool.eq_false_iff.2 fun hkeyword =>
    Bool.eq_false_iff.1 fold.isWord_text (Tables.isWord_of_isKeyword_sql hkeyword)

/-- A fold is never fused with the lexeme before it. -/
theorem isPair_text (first : String) (fold : Fold) : Tables.sql.isPair first fold.text = false :=
  Bool.eq_false_iff.2 fun hpair =>
    Bool.eq_false_iff.1 fold.isWord_text (Tables.isWord_of_isPair_sql hpair).2

theorem isQuoted_text (fold : Fold) :
    isQuoted fold.text = decide (fold.rest.toList.getLast? = some fold.quote.char) := by
  rw [isQuoted, toList_text]
  cases fold.rest.toList with
  | nil => rfl
  | cons c cs =>
      dsimp only
      rw [Quote.ofChar?_char, Option.isSome_some, Bool.true_and, Bool.eq_iff_iff, beq_iff_eq,
        decide_eq_true_iff]

theorem isLiteral_text (fold : Fold) :
    isLiteral fold.text = decide (fold.rest.toList.getLast? = some fold.quote.char) := by
  have hnumeric : isNumeric fold.text = false := by
    apply isNumeric_eq_false fold.toList_text fold.quote.isDigit_char
    cases fold.quote <;> decide
  rw [isLiteral, isQuoted_text, hnumeric, Bool.or_false]

/-- The type that a fold has in standard SQL. -/
def standardType (fold : Fold) : TokenType :=
  if fold.rest = "" then .punctuation
  else if fold.rest.toList.getLast? = some fold.quote.char then .literal
  else .unknown

theorem standardType_eq_punctuation_iff {fold : Fold} :
    fold.standardType = .punctuation ↔ fold.rest = "" := by
  rw [standardType]
  split
  case isTrue hempty => exact iff_of_true rfl hempty
  case isFalse hempty =>
    split <;> exact iff_of_false nofun hempty

theorem standardType_eq_literal_iff {fold : Fold} :
    fold.standardType = .literal ↔ fold.rest.toList.getLast? = some fold.quote.char := by
  rw [standardType]
  split
  case isTrue hempty =>
    rw [hempty]
    exact iff_of_false nofun nofun
  case isFalse => simp

theorem standardType_eq_unknown_iff {fold : Fold} :
    fold.standardType = .unknown ↔
      fold.rest ≠ "" ∧ fold.rest.toList.getLast? ≠ some fold.quote.char := by
  rw [standardType]
  split
  case isTrue hempty => exact iff_of_false nofun fun h => h.1 hempty
  case isFalse hempty => simp [hempty]

/-- Only behind a backslash can a fold end with the quote that nothing closes. -/
theorem mem_backslash_of_standardType {q : Quote} {after : List Char} (hopen : q.close? after = none)
    (h : standardType ⟨q, Segmentation.respaced after⟩ = .literal) : '\\' ∈ after := by
  by_contra hbackslash
  rw [q.close?_eq_none_iff_of_no_backslash hbackslash] at hopen
  rw [standardType_eq_literal_iff] at h
  exact hopen ((Segmentation.mem_respaced_iff q.isBlank_char after).1 (List.mem_of_getLast? h))

end Fold

namespace Dialect

variable (rule : IdentifierRule)

theorem lone_fold (fold : Fold) :
    (mk .sql rule).lone fold.text = ⟨fold.standardType, fold.text⟩ := by
  rw [lone, find?_loneOrder, Fold.standardType]
  simp only [Rule.beforeIdentifier, List.find?_cons, List.find?_nil, accepts, fold.isKeyword_text,
    fold.isPunctuation_text, fold.isOperator_text, fold.isLiteral_text,
    IdentifierRule.accepts_fold]
  by_cases hempty : fold.rest = ""
  · rw [if_pos hempty, decide_eq_true hempty]
    rfl
  · rw [if_neg hempty, decide_eq_false hempty]
    by_cases hlast : fold.rest.toList.getLast? = some fold.quote.char
    · rw [if_pos hlast, decide_eq_true hlast]
      rfl
    · rw [if_neg hlast, decide_eq_false hlast]
      rfl

theorem tokenize_of_leavesOpen {query : String} {before after : List Char} {q : Quote}
    (h : Mode.LeavesOpen query.toList before q after) :
    (mk .sql rule).tokenize query =
      (mk .sql rule).tokenize (String.ofList before) ++
        [⟨Fold.standardType ⟨q, Segmentation.respaced after⟩,
          Fold.text ⟨q, Segmentation.respaced after⟩⟩] := by
  have hlexemes : (segment query).lexemes =
      (segment (String.ofList before)).lexemes ++
        [Fold.text ⟨q, Segmentation.respaced after⟩] := by
    rw [segment_of_leavesOpen h]
    rfl
  rw [tokenize, hlexemes, classify_append, classify_of_not_pairAt rfl, lone_fold, classify_nil]
  · rfl
  · intro first _ next hnext
    obtain rfl := Option.some_inj.1 hnext
    exact Fold.isPair_text first _

end Dialect

/-- A folded query has the tokens of the text before the quote that it leaves open, and one more. The
last one is the fold as a whole. It is a punctuation mark if there is only white space behind the
quote, and a literal if the last span there ends with this quote, which takes a backslash. -/
theorem tokenize_folded (rule : IdentifierRule) (query : String) :
    ((segment query).isFolded = true ↔
      ∃ before q after, Mode.LeavesOpen query.toList before q after) ∧
    ∀ before q after, Mode.LeavesOpen query.toList before q after →
      ∃ fold type, (segment query).fold = some fold ∧ fold.quote = q ∧
        (Dialect.mk .sql rule).tokenize query =
          (Dialect.mk .sql rule).tokenize (String.ofList before) ++ [⟨type, fold.text⟩] ∧
        (type = .punctuation ↔ Text.isBlankText after = true) ∧
        (type = .literal ↔ EndsWithQuote q after) ∧
        (type = .unknown ↔ Text.isBlankText after = false ∧ ¬EndsWithQuote q after) ∧
        (type = .literal → '\\' ∈ after) ∧
        ('\\' ∉ query.toList → type ≠ .literal) := by
  refine ⟨⟨fun hfolded => ?_, ?_⟩, ?_⟩
  · exact Mode.exists_leavesOpen ((isFolded_segment_iff query).1 hfolded)
  · rintro ⟨before, q, after, hopen⟩
    rw [segment_of_leavesOpen hopen]
    rfl
  · intro before q after hopen
    have hbackslash := Fold.mem_backslash_of_standardType hopen.close?_eq_none
    refine ⟨⟨q, Segmentation.respaced after⟩, _, ?_, rfl,
      Dialect.tokenize_of_leavesOpen rule hopen, ?_, ?_, ?_, hbackslash, ?_⟩
    · rw [segment_of_leavesOpen hopen]
      rfl
    · rw [Fold.standardType_eq_punctuation_iff, Segmentation.respaced_eq_empty_iff]
    · rw [Fold.standardType_eq_literal_iff, Segmentation.getLast?_respaced_iff]
    · rw [Fold.standardType_eq_unknown_iff, ne_eq, ne_eq, Segmentation.respaced_eq_empty_iff,
        Segmentation.getLast?_respaced_iff, Bool.not_eq_true]
    · intro hnone hliteral
      refine hnone ?_
      rw [← hopen.text]
      exact List.mem_append_right _ (List.mem_cons_of_mem _ (hbackslash hliteral))

/-- A quote behind a backslash closes nothing, but it makes a literal of the fold. -/
theorem tokenize_folded_escape :
    Mode.LeavesOpen "GROUP 'a \\'".toList "GROUP ".toList .single "a \\'".toList ∧
      (default : Dialect).tokenize "GROUP 'a \\'" =
        [⟨.identifier, "GROUP"⟩, ⟨.literal, "'a \\ '"⟩] ∧
      EndsWithQuote .single "a \\'".toList ∧ '\\' ∈ "a \\'".toList := by
  have hopen : Mode.LeavesOpen "GROUP 'a \\'".toList "GROUP ".toList .single "a \\'".toList :=
    ⟨rfl, rfl, fun behind => Mode.run_ne_outside_of_close? rfl⟩
  have htokens : (default : Dialect).tokenize "GROUP 'a \\'" =
      [⟨.identifier, "GROUP"⟩, ⟨.literal, "'a \\ '"⟩] := by decide +kernel
  obtain ⟨fold, type, -, -, hlast, -, hliteral, -, hbackslash, -⟩ :=
    (tokenize_folded .word "GROUP 'a \\'").2 _ _ _ hopen
  have htype : type = .literal := by
    have hsame := congrArg List.getLast? (htokens.symm.trans hlast)
    rw [List.getLast?_concat] at hsame
    exact (congrArg Token.type (Option.some_inj.1 hsame)).symm
  exact ⟨hopen, htokens, hliteral.1 htype, hbackslash htype⟩

-- a quote with nothing behind it, and one without a backslash behind it
example : (default : Dialect).tokenize "a ' " = [⟨.identifier, "a"⟩, ⟨.punctuation, "'"⟩] ∧
    (default : Dialect).tokenize "a ' b" = [⟨.identifier, "a"⟩, ⟨.unknown, "'b"⟩] := by
  decide +kernel

end SqlLexer
