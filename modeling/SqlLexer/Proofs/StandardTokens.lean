import SqlLexer.Proofs.Fusion
import SqlLexer.Proofs.Spacing

/-!
What the tokens of standard SQL can be. Their types go with the kinds of their lexemes: punctuation
marks and operators are single characters, whatever longer ones the tables list, and what is unknown
is a single character too, unless it is a fold. No token begins or ends with white space.
-/

namespace SqlLexer

namespace Text

/-- A text has a first and a last character, and neither of them is white space. -/
structure IsTrimmed (cs : List Char) : Prop where
  ne_nil : cs ≠ []
  head : ∀ c ∈ cs.head?, isBlank c = false
  last : ∀ c ∈ cs.getLast?, isBlank c = false

theorem isTrimmed_of_forall {cs : List Char} (hne : cs ≠ []) (h : ∀ c ∈ cs, isBlank c = false) :
    IsTrimmed cs where
  ne_nil := hne
  head c hc := h c (List.mem_of_head? hc)
  last c hc := h c (List.mem_of_getLast? hc)

theorem IsTrimmed.append {cs ds : List Char} (h : IsTrimmed cs) (h' : IsTrimmed ds)
    (between : List Char) : IsTrimmed (cs ++ between ++ ds) where
  ne_nil := List.append_ne_nil_of_right_ne_nil _ h'.ne_nil
  head c hc := by
    rw [List.append_assoc, List.head?_append_of_ne_nil _ h.ne_nil] at hc
    exact h.head c hc
  last c hc := by
    rw [List.getLast?_append_of_ne_nil _ h'.ne_nil] at hc
    exact h'.last c hc

theorem isTrimmed_intercalate {texts : List String} (hne : texts ≠ [])
    (h : ∀ text ∈ texts, IsTrimmed text.toList) : IsTrimmed (" ".intercalate texts).toList := by
  induction texts with
  | nil => exact absurd rfl hne
  | cons text texts ih =>
      obtain ⟨htext, htexts⟩ := List.forall_mem_cons.1 h
      by_cases hnil : texts = []
      · rwa [hnil, String.intercalate_singleton]
      · rw [String.intercalate_cons_of_ne_nil hnil, String.toList_append, String.toList_append]
        exact htext.append (ih hnil htexts) _

end Text

open Text

theorem Span.Reads.isTrimmed {cs rest : List Char} {s : Span} (h : Span.Reads cs s rest)
    (hvisible : s.isBlank = false) : IsTrimmed s.chars := by
  have hplain {d : Char} (hd : s.runsOn d = true) : ∀ c ∈ s.chars, Text.isBlank c = false := by
    intro c hc
    have hmay := Span.mayRunOn_of_runsOn hvisible (h.runsOn_of_mem hd hc)
    rw [Bool.eq_false_iff]
    intro hblank
    rw [not_mayRunOn_of_isBlank hblank] at hmay
    cases hmay
  cases h with
  | @string q _ body _ hclose =>
      have hquote : IsTrimmed [q.char] := isTrimmed_of_forall (List.cons_ne_nil _ _) (by simp)
      exact hquote.append hquote body
  | stray hopen => exact isTrimmed_of_forall (List.cons_ne_nil _ _) (by simp [Span.chars])
  | word hstart =>
      exact isTrimmed_of_forall (List.cons_ne_nil _ _) (hplain (isWordChar_of_isWordStart hstart))
  | number hdigit =>
      exact isTrimmed_of_forall (List.cons_ne_nil _ _)
        (hplain (Bool.or_eq_true_iff.2 (Or.inl hdigit)))
  | mark hmark =>
      exact isTrimmed_of_forall (List.cons_ne_nil _ _) (by simp_all [Span.chars, isMark])
  | blank hblank => cases hvisible

/-- A text is the lexeme that a fold makes of the end of a query. -/
def IsFoldOf (query text : String) : Prop :=
  ∃ fold, (segment query).fold = some fold ∧ fold.text = text

theorem mem_lexemes_iff {query lexeme : String} :
    lexeme ∈ (segment query).lexemes ↔
      lexeme ∈ (segment query).whole ∨ IsFoldOf query lexeme := by
  simp [Segmentation.lexemes, IsFoldOf]

theorem isTrimmed_of_mem_lexemes {query lexeme : String} (h : lexeme ∈ (segment query).lexemes) :
    IsTrimmed lexeme.toList := by
  have hvisible {spans : List Span} (hspans : ∀ s ∈ spans, s ∈ Span.split query.toList)
      (text : String) (htext : text ∈ Segmentation.visible spans) : IsTrimmed text.toList := by
    obtain ⟨s, hs, hblank, rfl⟩ := Segmentation.mem_visible_iff.1 htext
    obtain ⟨cs, rest, hreads⟩ := Span.reads_of_mem_split (hspans s hs)
    rw [Span.toList_text]
    exact hreads.isTrimmed hblank
  rw [segment] at h
  rcases Segmentation.allClosed_or_exists_stray (Span.split query.toList) with
    hclosed | ⟨before, q, after, hclosed, hspans⟩
  · rw [Segmentation.ofSpans_of_allClosed hclosed, Segmentation.lexemes_of_not_isFolded rfl] at h
    exact hvisible (fun _ hs => hs) lexeme h
  · rw [hspans] at hvisible
    rw [hspans, Segmentation.ofSpans_append_stray hclosed] at h
    rcases List.mem_append.1 h with hwhole | hfold
    · exact hvisible (fun s hs => List.mem_append_left _ hs) lexeme hwhole
    · obtain rfl := List.mem_singleton.1 hfold
      have hquote : IsTrimmed [q.char] := isTrimmed_of_forall (List.cons_ne_nil _ _) (by simp)
      rw [Fold.toList_text]
      by_cases hnil : Segmentation.visible after = []
      · rwa [hnil, String.intercalate_nil]
      · refine hquote.append (isTrimmed_intercalate hnil (hvisible fun s hs => ?_)) []
        exact List.mem_append_right _ (List.mem_cons_of_mem _ hs)

namespace Dialect

/-- A token is made of two lexemes that are a keyword together, or of one by itself. -/
theorem mem_classify {dialect : Dialect} {lexemes : List String} {token : Token}
    (h : token ∈ dialect.classify lexemes) :
    (∃ first ∈ lexemes, ∃ second ∈ lexemes, dialect.tables.isPair first second = true ∧
      token = ⟨.keyword, first ++ " " ++ second⟩) ∨
    ∃ lexeme ∈ lexemes, token = dialect.lone lexeme := by
  obtain ⟨fused, hfused, htokens, -⟩ := dialect.exists_isFusion lexemes
  rw [htokens, List.mem_filterMap] at h
  obtain ⟨i, -, hi⟩ := h
  by_cases hmem : i ∈ fused
  · left
    obtain ⟨first, second, hfirst, hsecond, -, hpair⟩ :=
      Tables.pairAt_eq_true_iff.1 ((hfused i).1 hmem).1
    rw [tokenAt, if_pos hmem, hfirst, hsecond] at hi
    exact ⟨first, List.mem_of_getElem? hfirst, second, List.mem_of_getElem? hsecond, hpair,
      (Option.some_inj.1 hi).symm⟩
  · right
    rw [tokenAt, if_neg hmem] at hi
    split at hi
    case isTrue => cases hi
    case isFalse =>
      obtain ⟨lexeme, hlexeme, rfl⟩ := Option.map_eq_some_iff.1 hi
      exact ⟨lexeme, List.mem_of_getElem? hlexeme, rfl⟩

theorem isTrimmed_of_mem_tokenize {dialect : Dialect} {query : String} {token : Token}
    (h : token ∈ dialect.tokenize query) : IsTrimmed token.value.toList := by
  rcases mem_classify h with ⟨first, hfirst, second, hsecond, -, rfl⟩ | ⟨lexeme, hlexeme, rfl⟩
  · rw [String.toList_append, String.toList_append]
    exact (isTrimmed_of_mem_lexemes hfirst).append (isTrimmed_of_mem_lexemes hsecond) _
  · exact isTrimmed_of_mem_lexemes hlexeme

end Dialect

/-- A lexeme that is no string, word or number is a single character. -/
theorem length_eq_one_of_no_shape {query lexeme : String} (h : lexeme ∈ (segment query).whole)
    (hquoted : isQuoted lexeme = false) (hword : isWord lexeme.toList = false)
    (hnumeric : isNumeric lexeme = false) : lexeme.length = 1 := by
  obtain ⟨kind, hkind⟩ := isLexeme_of_mem_whole h
  obtain ⟨hquoted', hword', hnumeric'⟩ := recognizers_eq_decide hkind
  rw [hquoted'] at hquoted
  rw [hword'] at hword
  rw [hnumeric'] at hnumeric
  cases kind with
  | quoted => cases hquoted
  | word => cases hword
  | number => cases hnumeric
  | mark =>
      obtain ⟨c, -, hc⟩ := hkind
      rw [← String.length_toList, hc, List.length_singleton]

/-! The symbols and the words of the tables, and the symbols among the lexemes. -/

namespace Tables

/-- The punctuation marks or operators that an addition brings. -/
def Addition.symbols : Addition → List String
  | punctuation marks => marks
  | operators symbols => symbols
  | keywords _ | pairs _ _ => []

theorem Addition.mem_symbols_iff {addition : Addition} {symbol : String} :
    symbol ∈ addition.symbols ↔
      addition.bringsPunctuation symbol = true ∨ addition.bringsOperator symbol = true := by
  cases addition with
  | punctuation marks => simp [bringsPunctuation, bringsOperator, symbols]
  | operators symbols => simp [bringsPunctuation, bringsOperator, Addition.symbols]
  | keywords words => simp [bringsPunctuation, bringsOperator, symbols]
  | pairs first seconds => simp [bringsPunctuation, bringsOperator, symbols]

theorem mem_symbols_of_isSymbol {symbol : String}
    (h : sql.isPunctuation symbol = true ∨ sql.isOperator symbol = true) :
    ∃ addition ∈ sqlAdditions, symbol ∈ addition.symbols := by
  have hpunctuation : empty.isPunctuation symbol = false := by simp [isPunctuation, empty]
  have hoperator : empty.isOperator symbol = false := by simp [isOperator, empty]
  rw [sql, isPunctuation_addAll, isOperator_addAll, hpunctuation, hoperator, Bool.false_or,
    Bool.false_or, List.any_eq_true, List.any_eq_true] at h
  rcases h with ⟨addition, haddition, hbrings⟩ | ⟨addition, haddition, hbrings⟩
  · exact ⟨addition, haddition, Addition.mem_symbols_iff.2 (Or.inl hbrings)⟩
  · exact ⟨addition, haddition, Addition.mem_symbols_iff.2 (Or.inr hbrings)⟩

/-- A longer symbol of standard SQL is no string, word or number, and does not begin with a
quote. -/
theorem sql_symbols : ∀ addition ∈ sqlAdditions, ∀ symbol ∈ addition.symbols,
    symbol.length = 1 ∨
      isQuoted symbol = false ∧ isWord symbol.toList = false ∧ isNumeric symbol = false ∧
        symbol.toList.head?.bind Quote.ofChar? = none := by
  decide +kernel

/-- The words that an addition brings as keywords or as parts of them. -/
def Addition.words : Addition → List String
  | keywords words => words
  | pairs first seconds => first :: seconds
  | punctuation _ | operators _ => []

theorem Addition.mem_words_of_bringsKeyword {addition : Addition} {word : String}
    (h : addition.bringsKeyword word = true) : word ∈ addition.words := by
  cases addition with
  | keywords words => simpa [bringsKeyword, Addition.words] using h
  | pairs first seconds => cases h
  | punctuation marks => cases h
  | operators symbols => cases h

theorem Addition.mem_words_of_bringsPair {addition : Addition} {first second : String}
    (h : addition.bringsPair first second = true) :
    first ∈ addition.words ∧ second ∈ addition.words := by
  cases addition with
  | pairs start seconds =>
      rw [bringsPair, Bool.and_eq_true, beq_iff_eq, List.contains_iff_mem] at h
      exact ⟨List.mem_cons.2 (Or.inl h.1.symm), List.mem_cons_of_mem _ h.2⟩
  | keywords words => cases h
  | punctuation marks => cases h
  | operators symbols => cases h

/-- The keywords of standard SQL are made of words. -/
theorem sql_words : ∀ addition ∈ sqlAdditions, ∀ word ∈ addition.words,
    isWord word.toList = true := by
  decide +kernel

theorem mem_words_of_isKeyword {word : String} (h : sql.isKeyword word = true) :
    ∃ addition ∈ sqlAdditions, word ∈ addition.words := by
  have hempty : empty.isKeyword word = false := by simp [isKeyword, empty]
  rw [sql, isKeyword_addAll, hempty, Bool.false_or, List.any_eq_true] at h
  obtain ⟨addition, haddition, hbrings⟩ := h
  exact ⟨addition, haddition, Addition.mem_words_of_bringsKeyword hbrings⟩

theorem mem_words_of_isPair {first second : String} (h : sql.isPair first second = true) :
    ∃ addition ∈ sqlAdditions, first ∈ addition.words ∧ second ∈ addition.words := by
  rw [sql, isPair_addAll, isPair_empty, Bool.false_or, List.any_eq_true] at h
  obtain ⟨addition, haddition, hbrings⟩ := h
  exact ⟨addition, haddition, Addition.mem_words_of_bringsPair hbrings⟩

theorem isWord_of_isKeyword_sql {word : String} (h : sql.isKeyword word = true) :
    isWord word.toList = true := by
  obtain ⟨addition, haddition, hword⟩ := mem_words_of_isKeyword h
  exact sql_words addition haddition word hword

theorem isWord_of_isPair_sql {first second : String} (h : sql.isPair first second = true) :
    isWord first.toList = true ∧ isWord second.toList = true := by
  obtain ⟨addition, haddition, hfirst, hsecond⟩ := mem_words_of_isPair h
  exact ⟨sql_words addition haddition first hfirst, sql_words addition haddition second hsecond⟩

end Tables

/-- The symbols among the lexemes are single characters. -/
theorem length_eq_one_of_isSymbol {query lexeme : String} (h : lexeme ∈ (segment query).lexemes)
    (hsymbol : Tables.sql.isPunctuation lexeme = true ∨ Tables.sql.isOperator lexeme = true) :
    lexeme.length = 1 := by
  obtain ⟨addition, haddition, hmem⟩ := Tables.mem_symbols_of_isSymbol hsymbol
  rcases Tables.sql_symbols addition haddition lexeme hmem with
    hone | ⟨hquoted, hword, hnumeric, hquote⟩
  · exact hone
  · rcases mem_lexemes_iff.1 h with hwhole | ⟨fold, -, rfl⟩
    · exact length_eq_one_of_no_shape hwhole hquoted hword hnumeric
    · rw [Fold.toList_text, List.head?_cons, Option.bind_some, Quote.ofChar?_char] at hquote
      cases hquote

/-- The forms that a token of a query in standard SQL can have. -/
inductive StandardToken (query : String) : Token → Prop
  | keyword {word : String} (hkeyword : Tables.sql.isKeyword word = true) :
      StandardToken query ⟨.keyword, word⟩
  | keywordPair {first second : String} (hpair : Tables.sql.isPair first second = true) :
      StandardToken query ⟨.keyword, first ++ " " ++ second⟩
  | identifier {word : String} (hword : word.toList ∈ LexemeKind.word.language) :
      StandardToken query ⟨.identifier, word⟩
  | quoted {text : String} (hquoted : text.toList ∈ LexemeKind.quoted.language) :
      StandardToken query ⟨.literal, text⟩
  | number {text : String} (hnumber : text.toList ∈ LexemeKind.number.language) :
      StandardToken query ⟨.literal, text⟩
  | operator {symbol : String} (hoperator : Tables.sql.isOperator symbol = true)
      (hsingle : symbol.length = 1) : StandardToken query ⟨.operator, symbol⟩
  | punctuation {mark : String} (hpunctuation : Tables.sql.isPunctuation mark = true)
      (hsingle : mark.length = 1) : StandardToken query ⟨.punctuation, mark⟩
  | unknown {char : String} (hpunctuation : Tables.sql.isPunctuation char = false)
      (hoperator : Tables.sql.isOperator char = false) (hsingle : char.length = 1) :
      StandardToken query ⟨.unknown, char⟩
  | literalFold {text : String} (hfold : IsFoldOf query text) : StandardToken query ⟨.literal, text⟩
  | unknownFold {text : String} (hfold : IsFoldOf query text) : StandardToken query ⟨.unknown, text⟩

/-- The token of a lexeme by itself has one of these forms. -/
theorem standardToken_lone {query lexeme : String} (h : lexeme ∈ (segment query).lexemes) :
    StandardToken query ((default : Dialect).lone lexeme) := by
  rw [Dialect.lone]
  cases hrule : Rule.loneOrder.find? fun rule => (default : Dialect).accepts rule lexeme none with
  | none =>
      have hnone (rule : Rule) (hmem : rule ∈ Rule.loneOrder) :
          (default : Dialect).accepts rule lexeme none = false :=
        Bool.not_eq_true _ ▸ List.find?_eq_none.1 hrule rule hmem
      rcases mem_lexemes_iff.1 h with hwhole | hfold
      · refine .unknown (hnone .punctuation (by decide)) (hnone .operator (by decide)) ?_
        have hliteral : isLiteral lexeme = false := hnone .literal (by decide)
        rw [isLiteral, Bool.or_eq_false_iff] at hliteral
        exact length_eq_one_of_no_shape hwhole hliteral.1 (hnone .identifier (by decide))
          hliteral.2
      · exact .unknownFold hfold
  | some rule =>
      have haccepts := List.find?_some hrule
      have hmem := List.mem_of_find?_eq_some hrule
      cases rule with
      | keyword => exact .keyword haccepts
      | keywordPair => exact absurd hmem (by decide)
      | punctuation => exact .punctuation haccepts (length_eq_one_of_isSymbol h (Or.inl haccepts))
      | operator => exact .operator haccepts (length_eq_one_of_isSymbol h (Or.inr haccepts))
      | literal =>
          rcases mem_lexemes_iff.1 h with hwhole | hfold
          · obtain ⟨kind, hkind⟩ := isLexeme_of_mem_whole hwhole
            obtain ⟨hquoted, -, hnumeric⟩ := recognizers_eq_decide hkind
            have hliteral : isLiteral lexeme = true := haccepts
            rw [isLiteral, hquoted, hnumeric] at hliteral
            cases kind with
            | quoted => exact .quoted hkind
            | number => exact .number hkind
            | word => cases hliteral
            | mark => cases hliteral
          · exact .literalFold hfold
      | identifier =>
          have hword : isWord lexeme.toList = true := haccepts
          rcases mem_lexemes_iff.1 h with hwhole | ⟨fold, -, rfl⟩
          · obtain ⟨kind, hkind⟩ := isLexeme_of_mem_whole hwhole
            rw [(recognizers_eq_decide hkind).2.1, decide_eq_true_eq] at hword
            subst hword
            exact .identifier hkind
          · rw [Fold.toList_text, isWord_cons, Quote.isWordStart_char] at hword
            cases hword

/-- Segmentation and recognizers agree on what a lexeme is, and so the tokens of standard SQL are of
few forms. -/
theorem tokens_of_standard_sql (query : String) :
    (∀ lexeme ∈ (segment query).whole,
      (∃! kind : LexemeKind, lexeme.toList ∈ kind.language) ∧
      (isQuoted lexeme = true ↔ lexeme.toList ∈ LexemeKind.quoted.language) ∧
      (IdentifierRule.word.accepts lexeme = true ↔ lexeme.toList ∈ LexemeKind.word.language) ∧
      (isNumeric lexeme = true ↔ lexeme.toList ∈ LexemeKind.number.language)) ∧
    ∀ token ∈ (default : Dialect).tokenize query,
      StandardToken query token ∧ token.type ≠ .comment ∧ token.type ≠ .whitespace ∧
        IsTrimmed token.value.toList := by
  constructor
  · intro lexeme hlexeme
    obtain ⟨kind, hkind⟩ := isLexeme_of_mem_whole hlexeme
    obtain ⟨hquoted, hword, hnumeric⟩ := recognizers_eq_decide hkind
    have hunique (kind' : LexemeKind) (hkind' : lexeme.toList ∈ kind'.language) : kind' = kind :=
      LexemeKind.eq_of_mem_language hkind' hkind
    have hkinds (kind' : LexemeKind) : kind = kind' ↔ lexeme.toList ∈ kind'.language := by
      constructor
      · rintro rfl
        exact hkind
      · exact fun hkind' => (hunique kind' hkind').symm
    refine ⟨⟨kind, hkind, hunique⟩, ?_, ?_, ?_⟩
    · rw [hquoted, decide_eq_true_eq, hkinds]
    · rw [IdentifierRule.accepts, hword, decide_eq_true_eq, hkinds]
    · rw [hnumeric, decide_eq_true_eq, hkinds]
  · intro token htoken
    have hform : StandardToken query token := by
      rcases Dialect.mem_classify htoken with
        ⟨first, -, second, -, hpair, rfl⟩ | ⟨lexeme, hlexeme, rfl⟩
      · exact .keywordPair hpair
      · exact standardToken_lone hlexeme
    refine ⟨hform, ?_, ?_, Dialect.isTrimmed_of_mem_tokenize htoken⟩
    · intro htype
      cases hform <;> cases htype
    · intro htype
      cases hform <;> cases htype

/-- A comparison of two characters is two operators, and a number does not begin with its point. -/
theorem standard_tokens_comparison :
    (segment "x>=.5 \"b c").whole = ["x", ">", "=", ".", "5"] ∧
      (default : Dialect).tokenize "x>=.5 \"b c" =
        [⟨.identifier, "x"⟩, ⟨.operator, ">"⟩, ⟨.operator, "="⟩, ⟨.punctuation, "."⟩,
          ⟨.literal, "5"⟩, ⟨.unknown, "\"b c"⟩] ∧
      (∃! kind : LexemeKind, ".".toList ∈ kind.language) ∧
      StandardToken "x>=.5 \"b c" ⟨.unknown, "\"b c"⟩ ∧ IsTrimmed "\"b c".toList := by
  have hwhole : (segment "x>=.5 \"b c").whole = ["x", ">", "=", ".", "5"] := by decide +kernel
  have htokens : (default : Dialect).tokenize "x>=.5 \"b c" =
      [⟨.identifier, "x"⟩, ⟨.operator, ">"⟩, ⟨.operator, "="⟩, ⟨.punctuation, "."⟩,
        ⟨.literal, "5"⟩, ⟨.unknown, "\"b c"⟩] := by decide +kernel
  obtain ⟨hlexemes, hforms⟩ := tokens_of_standard_sql "x>=.5 \"b c"
  obtain ⟨hform, -, -, htrimmed⟩ := hforms ⟨.unknown, "\"b c"⟩ (by simp [htokens])
  exact ⟨hwhole, htokens, (hlexemes "." (by simp [hwhole])).1, hform, htrimmed⟩

end SqlLexer
