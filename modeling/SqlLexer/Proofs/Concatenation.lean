import SqlLexer.Proofs.Classification
import SqlLexer.Proofs.Segmentation

/-!
Concatenation of queries. A query that leaves no quote open can be continued: only its last lexeme may
change, and not even that one unless two characters of words or numbers meet. Then the tokens may be
made apart too, if the lexemes that meet are no keyword together.
-/

namespace SqlLexer

/-- Whether a character may stand in a word or in a number. -/
def mayRunOn (c : Char) : Bool := isWordChar c || c == '.'

/-- The end of one query and the beginning of another may both belong to a word or to a number. -/
def Joins (a b : String) : Prop :=
  ∃ c ∈ a.toList.getLast?, ∃ d ∈ b.toList.head?, mayRunOn c = true ∧ mayRunOn d = true

namespace Span

theorem mayRunOn_of_runsOn {s : Span} {c : Char} (hblank : s.isBlank = false)
    (h : s.runsOn c = true) : mayRunOn c = true := by
  cases s with
  | word cs => exact Bool.or_eq_true_iff.2 (Or.inl h)
  | number cs =>
      rcases Bool.or_eq_true_iff.1 h with hdigit | hpoint
      · exact Bool.or_eq_true_iff.2 (Or.inl (isWordChar_of_isDigit hdigit))
      · exact Bool.or_eq_true_iff.2 (Or.inr hpoint)
  | blank cs => cases hblank
  | string q body => cases h
  | stray q => cases h
  | mark d => cases h

theorem getLast?_of_getLast?_split {cs : List Char} {s : Span} (h : s ∈ (split cs).getLast?) :
    cs.getLast? = s.chars.getLast? := by
  obtain ⟨spans, hspans⟩ := List.getLast?_eq_some_iff.1 h
  have hne : s.chars ≠ [] := chars_ne_nil_of_mem_split (List.mem_of_getLast? h)
  have hcs : cs = spans.flatMap chars ++ s.chars := by
    rw [← flatMap_chars_split cs, hspans, List.flatMap_append, List.flatMap_singleton]
  rw [hcs, List.getLast?_append, List.getLast?_eq_some_getLast hne, Option.some_or]

end Span

namespace Segmentation

theorem meet_of_not_joins {a b : String} (h : ¬Joins a b) : Meet a.toList b.toList := by
  intro s hs d hd
  cases hblank : s.isBlank with
  | true => exact Or.inl rfl
  | false =>
      -- a span that went on would end in a character of its kind, and both would join
      refine Or.inr (Bool.eq_false_iff.2 fun hrunsOn => h ?_)
      have hmem := List.mem_of_getLast? hs
      obtain ⟨text, rest, hreads⟩ := Span.reads_of_mem_split hmem
      have hne := Span.chars_ne_nil_of_mem_split hmem
      have hlast : s.chars.getLast hne ∈ a.toList.getLast? := by
        rw [Span.getLast?_of_getLast?_split hs, List.getLast?_eq_some_getLast hne]
        rfl
      have hc := hreads.runsOn_of_mem hrunsOn (List.getLast_mem hne)
      exact ⟨_, hlast, d, hd, Span.mayRunOn_of_runsOn hblank hc,
        Span.mayRunOn_of_runsOn hblank hrunsOn⟩

theorem prefix_visible_dropLast (spans : List Span) :
    (visible spans).dropLast <+: visible spans.dropLast := by
  rcases List.eq_nil_or_concat spans with rfl | ⟨spans, s, rfl⟩
  · exact List.nil_prefix
  · rw [List.concat_eq_append, List.dropLast_concat, visible_append]
    cases hblank : s.isBlank with
    | true =>
        have hnil : visible [s] = [] := by simp [visible, hblank]
        rw [hnil, List.append_nil]
        exact List.dropLast_prefix _
    | false =>
        have hone : visible [s] = [s.text] := by simp [visible, hblank]
        simp [hone]

end Segmentation

section

variable {a b : String} (ha : (segment a).isFolded = false)

include ha

theorem allClosed_of_not_isFolded : Segmentation.AllClosed (Span.split a.toList) :=
  Segmentation.isFolded_ofSpans_eq_false_iff.1 ha

theorem lexemes_eq_visible : (segment a).lexemes = Segmentation.visible (Span.split a.toList) := by
  rw [Segmentation.lexemes_of_not_isFolded ha, segment,
    Segmentation.ofSpans_of_allClosed (allClosed_of_not_isFolded ha)]

/-- A continuation leaves all lexemes but the last as they are. -/
theorem prefix_lexemes_append : (segment a).lexemes.dropLast <+: (segment (a ++ b)).lexemes := by
  have hclosed := allClosed_of_not_isFolded ha
  obtain ⟨more, hmore⟩ := Span.exists_split_append hclosed b.toList
  have hinit : Segmentation.AllClosed (Span.split a.toList).dropLast :=
    fun q hq => hclosed q ((List.dropLast_subset _) hq)
  rw [lexemes_eq_visible ha, segment, String.toList_append, hmore, Segmentation.ofSpans_append hinit,
    Segmentation.lexemes_prepend]
  exact (Segmentation.prefix_visible_dropLast _).trans (List.prefix_append _ _)

theorem segment_append (hjoins : ¬Joins a b) :
    segment (a ++ b) = (segment b).prepend (segment a).lexemes := by
  rw [lexemes_eq_visible ha, segment, String.toList_append]
  exact Segmentation.ofSpans_split_append (allClosed_of_not_isFolded ha)
    (Segmentation.meet_of_not_joins hjoins)

theorem tokenize_append {dialect : Dialect} (hjoins : ¬Joins a b)
    (hpair : ∀ lexeme ∈ (segment a).lexemes.getLast?, ∀ next ∈ (segment b).lexemes.head?,
      dialect.tables.isPair lexeme next = false) :
    dialect.tokenize (a ++ b) = dialect.tokenize a ++ dialect.tokenize b := by
  rw [Dialect.tokenize, segment_append ha hjoins, Segmentation.lexemes_prepend,
    Dialect.classify_append hpair]
  rfl

end

/-! A semicolon stands apart from everything in standard SQL. -/

theorem not_joins_semicolon (a : String) : ¬Joins a ";" := by
  rintro ⟨c, -, d, hd, -, hrunsOn⟩
  obtain rfl : ';' = d := Option.some_inj.1 hd
  cases hrunsOn

theorem not_joins_of_append_semicolon (a b : String) : ¬Joins (a ++ ";") b := by
  rintro ⟨c, hc, -, -, hrunsOn, -⟩
  have hlast : (a ++ ";").toList.getLast? = some ';' := by
    rw [String.toList_append]
    exact List.getLast?_concat
  obtain rfl : ';' = c := Option.some_inj.1 (hlast.symm.trans hc)
  cases hrunsOn

theorem Tables.isPair_empty (first second : String) : Tables.empty.isPair first second = false := by
  simp [Tables.isPair, Tables.empty]

theorem Tables.isPair_sql_semicolon (first : String) : Tables.sql.isPair first ";" = false := by
  simp [Tables.sql, Tables.sqlAdditions, Tables.Addition.bringsPair, Tables.isPair_empty]

theorem Tables.isPair_semicolon_sql (second : String) : Tables.sql.isPair ";" second = false := by
  simp [Tables.sql, Tables.sqlAdditions, Tables.Addition.bringsPair, Tables.isPair_empty]

theorem tokenize_semicolon (rule : IdentifierRule) :
    (Dialect.mk .sql rule).tokenize ";" = [⟨.punctuation, ";"⟩] := by
  cases rule <;> decide +kernel

theorem tokenize_append_semicolon {a : String} (ha : (segment a).isFolded = false) (b : String)
    (rule : IdentifierRule) :
    (Dialect.mk .sql rule).tokenize (a ++ ";" ++ b) =
      (Dialect.mk .sql rule).tokenize a ++ [⟨.punctuation, ";"⟩] ++
        (Dialect.mk .sql rule).tokenize b := by
  generalize hdialect : Dialect.mk .sql rule = dialect
  have htables : dialect.tables = .sql := by rw [← hdialect]
  have hsemicolon : segment ";" = ⟨[";"], none⟩ := by decide +kernel
  have hsegment : segment (a ++ ";") = ⟨(segment a).lexemes ++ [";"], none⟩ := by
    rw [segment_append ha (not_joins_semicolon a), hsemicolon, Segmentation.prepend_mk]
  have hfirst : dialect.tokenize (a ++ ";") = dialect.tokenize a ++ dialect.tokenize ";" := by
    apply tokenize_append ha (not_joins_semicolon a)
    intro lexeme _ next hnext
    rw [hsemicolon] at hnext
    obtain rfl : ";" = next := Option.some_inj.1 hnext
    rw [htables, Tables.isPair_sql_semicolon]
  have hsecond : dialect.tokenize (a ++ ";" ++ b) =
      dialect.tokenize (a ++ ";") ++ dialect.tokenize b := by
    apply tokenize_append (by rw [hsegment]; rfl) (not_joins_of_append_semicolon a b)
    intro lexeme hlexeme next _
    rw [hsegment, Segmentation.lexemes_of_not_isFolded rfl, List.getLast?_concat] at hlexeme
    obtain rfl : ";" = lexeme := Option.some_inj.1 hlexeme
    rw [htables, Tables.isPair_semicolon_sql]
  rw [hsecond, hfirst, ← hdialect, tokenize_semicolon]

/-- Lexing is incremental. -/
theorem segment_append_law (a b : String) (ha : (segment a).isFolded = false) :
    (segment a).lexemes.dropLast <+: (segment (a ++ b)).lexemes ∧
    (¬Joins a b →
      ((segment (a ++ b)).lexemes = (segment a).lexemes ++ (segment b).lexemes ∧
        (segment (a ++ b)).isFolded = (segment b).isFolded ∧
        (segment (a ++ b)).fold = (segment b).fold) ∧
      ∀ dialect : Dialect,
        (∀ lexeme ∈ (segment a).lexemes.getLast?, ∀ next ∈ (segment b).lexemes.head?,
          dialect.tables.isPair lexeme next = false) →
        dialect.tokenize (a ++ b) = dialect.tokenize a ++ dialect.tokenize b) ∧
    ∀ rule : IdentifierRule,
      (Dialect.mk .sql rule).tokenize (a ++ ";" ++ b) =
        (Dialect.mk .sql rule).tokenize a ++ [⟨.punctuation, ";"⟩] ++
          (Dialect.mk .sql rule).tokenize b := by
  refine ⟨prefix_lexemes_append ha, ?_, tokenize_append_semicolon ha b⟩
  intro hjoins
  refine ⟨?_, fun dialect hpair => tokenize_append ha hjoins hpair⟩
  rw [segment_append ha hjoins]
  exact ⟨Segmentation.lexemes_prepend _ _, rfl, rfl⟩

/-- A backslash at the end of a query escapes no quote of its continuation. -/
theorem segment_backslash_append_quoted :
    (segment "a\\").isFolded = false ∧ ¬Joins "a\\" "'b'" ∧
      (segment ("a\\" ++ "'b'")).lexemes = (segment "a\\").lexemes ++ (segment "'b'").lexemes ∧
      (segment ("a\\" ++ "'b'")).isFolded = false ∧
      (default : Dialect).tokenize ("a\\" ++ "'b'") =
        (default : Dialect).tokenize "a\\" ++ (default : Dialect).tokenize "'b'" := by
  have hnotFolded : (segment "a\\").isFolded = false := by decide +kernel
  have hjoins : ¬Joins "a\\" "'b'" := by
    rintro ⟨c, hc, -, -, hrunsOn, -⟩
    obtain rfl : '\\' = c := Option.some_inj.1 hc
    cases hrunsOn
  have hpair : ∀ lexeme ∈ (segment "a\\").lexemes.getLast?,
      ∀ next ∈ (segment "'b'").lexemes.head?,
        (default : Dialect).tables.isPair lexeme next = false := by
    have hlast : (segment "a\\").lexemes.getLast? = some "\\" := by decide +kernel
    have hfirst : (segment "'b'").lexemes.head? = some "'b'" := by decide +kernel
    rw [hlast, hfirst]
    intro lexeme hlexeme next hnext
    obtain rfl : "\\" = lexeme := Option.some_inj.1 hlexeme
    obtain rfl : "'b'" = next := Option.some_inj.1 hnext
    decide +kernel
  obtain ⟨-, hlaw, -⟩ := segment_append_law "a\\" "'b'" hnotFolded
  obtain ⟨⟨hlexemes, hfolded, -⟩, htokens⟩ := hlaw hjoins
  refine ⟨hnotFolded, hjoins, hlexemes, hfolded.trans ?_, htokens default hpair⟩
  decide +kernel

end SqlLexer
