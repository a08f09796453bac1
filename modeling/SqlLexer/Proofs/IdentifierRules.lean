import SqlLexer.Proofs.Lockstep
import SqlLexer.Proofs.StandardTokens

/-!
The two rules for identifiers. One of them accepts digits and the other one spaces, so neither is the
stricter for all texts. For the lexemes of a query one is, because no lexeme that begins like an
identifier has a space in it: there the rules differ about words with digits, and about nothing else.
-/

namespace SqlLexer

namespace IdentifierRule

theorem isWordStart_or_space_of_isWordChar {c : Char} (h : isWordChar c = true) :
    (isWordStart c || c == ' ') = !c.isDigit := by
  have hspace : (c == ' ') = false := by
    rw [beq_eq_false_iff_ne]
    rintro rfl
    cases h
  rw [hspace, Bool.or_false]
  cases hdigit : c.isDigit with
  | true => exact not_isWordStart_of_isDigit hdigit
  | false => exact (isWordChar_iff.1 h).resolve_right (by simp [hdigit])

/-- A word has the form of the strict rule if it has no digits. -/
theorem isStrict_of_isWord {cs : List Char} (h : isWord cs = true) :
    isStrict cs = !cs.any Char.isDigit := by
  cases cs with
  | nil => cases h
  | cons c cs =>
      rw [isWord_cons, Bool.and_eq_true, List.all_eq_true] at h
      have hchars : ∀ d ∈ c :: cs, isWordChar d = true :=
        List.forall_mem_cons.2 ⟨isWordChar_of_isWordStart h.1, h.2⟩
      have hall : (c :: cs).all (fun d => isWordStart d || d == ' ') =
          !(c :: cs).any Char.isDigit := by
        rw [List.not_any_eq_all_not, Bool.eq_iff_iff, List.all_eq_true, List.all_eq_true]
        refine forall₂_congr fun d hd => ?_
        rw [isWordStart_or_space_of_isWordChar (hchars d hd)]
      have hlast : (c :: cs).getLast?.any (· != ' ') = true := by
        have hne := List.cons_ne_nil c cs
        rw [List.getLast?_eq_some_getLast hne, Option.any_some, bne_iff_ne]
        intro hspace
        have hword := hchars _ (List.getLast_mem hne)
        rw [hspace] at hword
        cases hword
      rw [isStrict, hall, hlast, Bool.and_true]

theorem head_of_isStrict {c : Char} {cs : List Char} (h : isStrict (c :: cs) = true) :
    isWordStart c = true ∨ c = ' ' := by
  rw [isStrict, Bool.and_eq_true, List.all_cons, Bool.and_eq_true, Bool.or_eq_true, beq_iff_eq] at h
  exact h.1.1

theorem exists_head_of_accepts {rule : IdentifierRule} {text : String} (h : rule.accepts text = true) :
    ∃ c cs, text.toList = c :: cs ∧ (isWordStart c = true ∨ c = ' ') := by
  rw [accepts.eq_def] at h
  cases hcs : text.toList with
  | nil =>
      rw [hcs] at h
      cases rule <;> cases h
  | cons c cs =>
      rw [hcs] at h
      refine ⟨c, cs, rfl, ?_⟩
      cases rule with
      | word => exact Or.inl (Bool.and_eq_true_iff.1 h).1
      | strict => exact head_of_isStrict h

/-- An identifier is no literal: a literal begins with a quote, a digit, a point or a sign. -/
theorem isLiteral_of_accepts {rule : IdentifierRule} {text : String}
    (h : rule.accepts text = true) : isLiteral text = false := by
  obtain ⟨c, cs, hcs, hhead⟩ := exists_head_of_accepts h
  obtain ⟨hquote, hdigit, hother⟩ : Quote.ofChar? c = none ∧ c.isDigit = false ∧
      c ∉ ['+', '-', '.'] := by
    rcases hhead with hstart | rfl
    · refine ⟨Quote.ofChar?_eq_none_of_isWordChar (isWordChar_of_isWordStart hstart), ?_, ?_⟩
      · rw [Bool.eq_false_iff]
        intro hdigit
        rw [not_isWordStart_of_isDigit hdigit] at hstart
        cases hstart
      · intro hother
        simp only [List.mem_cons, List.not_mem_nil, or_false] at hother
        rcases hother with rfl | rfl | rfl <;> cases hstart
    · decide
  rw [isLiteral, isQuoted_eq_false hcs hquote, isNumeric_eq_false hcs hdigit hother]
  rfl

/-- A lexeme that has the form of the strict rule is a word. -/
theorem isWord_of_isLexeme {text : String} (h : IsLexeme text)
    (hstrict : isStrict text.toList = true) : isWord text.toList = true := by
  obtain ⟨kind, hmem⟩ := h
  obtain ⟨s, hreads, hkind⟩ := Span.mem_language_iff.1 hmem
  generalize text.toList = cs at hstrict hreads
  cases cs with
  | nil => cases hreads
  | cons c cs =>
      rcases head_of_isStrict hstrict with hstart | rfl
      · obtain ⟨-, hnil⟩ := hreads.unique (.word hstart)
        rw [isWord_cons, hstart, Bool.true_and, List.all_eq_true]
        exact List.dropWhile_eq_nil_iff.1 hnil.symm
      · -- a text that begins with a space is read as white space, which is no lexeme
        have hblank : Text.isBlank ' ' = true := by decide
        obtain ⟨rfl, -⟩ := hreads.unique (.blank hblank)
        cases hkind

/-- A fold is no identifier, for it begins with a quote. -/
theorem accepts_fold (rule : IdentifierRule) (fold : Fold) : rule.accepts fold.text = false := by
  cases rule with
  | word => rw [accepts, Fold.toList_text, isWord_cons, Quote.isWordStart_char, Bool.false_and]
  | strict =>
      rw [accepts, Fold.toList_text, Bool.eq_false_iff]
      intro hstrict
      rcases head_of_isStrict hstrict with hstart | hspace
      · rw [Quote.isWordStart_char] at hstart
        cases hstart
      · have hblank := fold.quote.isBlank_char
        rw [hspace] at hblank
        cases hblank

theorem accepts_strict_of_mem_lexemes {query lexeme : String}
    (h : lexeme ∈ (segment query).lexemes) :
    strict.accepts lexeme = (word.accepts lexeme && !lexeme.toList.any Char.isDigit) := by
  rw [accepts, accepts]
  cases hword : isWord lexeme.toList with
  | true => rw [isStrict_of_isWord hword, Bool.true_and]
  | false =>
      rw [Bool.false_and, Bool.eq_false_iff]
      intro hstrict
      rcases mem_lexemes_iff.1 h with hwhole | ⟨fold, -, rfl⟩
      · rw [isWord_of_isLexeme (isLexeme_of_mem_whole hwhole) hstrict] at hword
        cases hword
      · exact Bool.eq_false_iff.1 (accepts_fold strict fold) hstrict

end IdentifierRule

/-- A token as the strict rule has it: an identifier with a digit in it is unknown there. -/
def Token.underStrict (token : Token) : Token :=
  if token.type = .identifier ∧ token.value.toList.any Char.isDigit = true then
    { token with type := .unknown }
  else
    token

theorem Token.underStrict_of_ne {token : Token} (h : token.type ≠ .identifier) :
    token.underStrict = token :=
  if_neg fun hboth => h hboth.1

theorem Token.underStrict_identifier (value : String) :
    Token.underStrict ⟨.identifier, value⟩ =
      ⟨if value.toList.any Char.isDigit = true then .unknown else .identifier, value⟩ := by
  rw [underStrict]
  cases value.toList.any Char.isDigit <;> rfl

/-- The rules that are tried on a lexeme by itself before the rule for identifiers. -/
def Rule.beforeIdentifier : List Rule := [keyword, punctuation, operator, literal]

theorem Rule.tokenType_ne_identifier : ∀ rule ∈ beforeIdentifier, rule.tokenType ≠ .identifier := by
  decide

namespace Dialect

/-- The rule for identifiers comes last. -/
theorem find?_loneOrder (dialect : Dialect) (lexeme : String) :
    (Rule.loneOrder.find? fun rule => dialect.accepts rule lexeme none) =
      (Rule.beforeIdentifier.find? fun rule => dialect.accepts rule lexeme none).or
        (if dialect.identifierRule.accepts lexeme = true then some .identifier else none) := by
  have horder : Rule.loneOrder = Rule.beforeIdentifier ++ [.identifier] := rfl
  rw [horder, List.find?_append, List.find?_singleton]
  rfl

theorem lone_strict (tables : Tables) {lexeme : String}
    (h : IdentifierRule.strict.accepts lexeme =
      (IdentifierRule.word.accepts lexeme && !lexeme.toList.any Char.isDigit)) :
    (mk tables .strict).lone lexeme = ((mk tables .word).lone lexeme).underStrict := by
  have hsame : (Rule.beforeIdentifier.find? fun rule =>
        (mk tables .strict).accepts rule lexeme none) =
      Rule.beforeIdentifier.find? fun rule => (mk tables .word).accepts rule lexeme none := by
    apply List.find?_congr
    intro rule hrule
    cases rule with
    | identifier => exact absurd hrule (by decide)
    | _ => rfl
  rw [lone, lone, find?_loneOrder, find?_loneOrder, hsame]
  cases hrule : Rule.beforeIdentifier.find? fun rule =>
      (mk tables .word).accepts rule lexeme none with
  | some rule =>
      have hmem := List.mem_of_find?_eq_some hrule
      exact (Token.underStrict_of_ne (Rule.tokenType_ne_identifier rule hmem)).symm
  | none =>
      rw [h, Option.none_or, Option.none_or]
      cases IdentifierRule.word.accepts lexeme with
      | false => rfl
      | true =>
          rw [if_pos rfl]
          show _ = Token.underStrict ⟨.identifier, lexeme⟩
          rw [Token.underStrict_identifier]
          cases lexeme.toList.any Char.isDigit <;> rfl

end Dialect

/-- The strict rule makes no other difference to the tokens of a query than that words with digits
are unknown. It accepts texts that the other rule does not, but no such lexeme. -/
theorem tokenize_strict (tables : Tables) (query : String) :
    (Dialect.mk tables .strict).tokenize query =
        ((Dialect.mk tables .word).tokenize query).map Token.underStrict ∧
      (∀ lexeme ∈ (segment query).lexemes, IdentifierRule.strict.accepts lexeme = true →
        IdentifierRule.word.accepts lexeme = true) ∧
      IdentifierRule.strict.accepts "two words" = true ∧
      IdentifierRule.word.accepts "two words" = false := by
  refine ⟨?_, fun lexeme hlexeme hstrict => ?_, by decide, by decide⟩
  · have hrelated : List.Forall₂ (fun token token' => token.underStrict = token')
        ((Dialect.mk tables .word).tokenize query) ((Dialect.mk tables .strict).tokenize query) :=
      Dialect.forall₂_classify (fun _ => rfl)
        (fun value => Token.underStrict_of_ne (by simp)) fun lexeme hlexeme =>
          (Dialect.lone_strict tables (IdentifierRule.accepts_strict_of_mem_lexemes hlexeme)).symm
    rw [← List.forall₂_map_left_iff, List.forall₂_eq_eq_eq] at hrelated
    exact hrelated.symm
  · rw [IdentifierRule.accepts_strict_of_mem_lexemes hlexeme, Bool.and_eq_true] at hstrict
    exact hstrict.1

/-- Words with digits are identifiers or unknown, by the rule; keywords and folds are as they were. -/
theorem tokenize_strict_columns :
    (Dialect.mk .sql .word).tokenize "SELECT a_b, c1 FROM 'd 2" =
        [⟨.keyword, "SELECT"⟩, ⟨.identifier, "a_b"⟩, ⟨.punctuation, ","⟩, ⟨.identifier, "c1"⟩,
          ⟨.keyword, "FROM"⟩, ⟨.unknown, "'d 2"⟩] ∧
      (Dialect.mk .sql .strict).tokenize "SELECT a_b, c1 FROM 'd 2" =
        [⟨.keyword, "SELECT"⟩, ⟨.identifier, "a_b"⟩, ⟨.punctuation, ","⟩, ⟨.unknown, "c1"⟩,
          ⟨.keyword, "FROM"⟩, ⟨.unknown, "'d 2"⟩] ∧
      "a_b" ∈ (segment "SELECT a_b, c1 FROM 'd 2").lexemes ∧
      IdentifierRule.strict.accepts "a_b" = true ∧ IdentifierRule.word.accepts "a_b" = true := by
  have htokens : (Dialect.mk .sql .word).tokenize "SELECT a_b, c1 FROM 'd 2" =
      [⟨.keyword, "SELECT"⟩, ⟨.identifier, "a_b"⟩, ⟨.punctuation, ","⟩, ⟨.identifier, "c1"⟩,
        ⟨.keyword, "FROM"⟩, ⟨.unknown, "'d 2"⟩] := by decide +kernel
  have hmem : "a_b" ∈ (segment "SELECT a_b, c1 FROM 'd 2").lexemes := by decide +kernel
  have hstrict : IdentifierRule.strict.accepts "a_b" = true := by decide
  obtain ⟨hmap, hword, -⟩ := tokenize_strict .sql "SELECT a_b, c1 FROM 'd 2"
  refine ⟨htokens, ?_, hmem, hstrict, hword "a_b" hmem hstrict⟩
  rw [hmap, htokens]
  decide

end SqlLexer
