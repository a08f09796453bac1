import SqlLexer.Proofs.Course
import SqlLexer.Proofs.StandardTokens

/-!
Plain output read back. The type of a token ends at the first tab of its line and the value at the end
of the line, so tokens can be told from their output if no value holds a line feed, and only then. In
a session none does: a line feed ends each line, and no new one gets into the tokens.
-/

namespace SqlLexer

theorem notMem_of_mem_splitOn {α : Type} [BEq α] [LawfulBEq α] {a : α} {xs piece : List α}
    (h : piece ∈ xs.splitOn a) : a ∉ piece := by
  induction xs generalizing piece with
  | nil =>
      rw [List.splitOn_nil, List.mem_singleton] at h
      simp [h]
  | cons x xs ih =>
      rw [List.splitOn_cons_eq_if_modifyHead] at h
      split at h
      case isTrue =>
        rcases List.mem_cons.1 h with rfl | h
        · exact List.not_mem_nil
        · exact ih h
      case isFalse hx =>
        obtain ⟨first, pieces, hpieces⟩ := List.exists_cons_of_ne_nil (List.splitOn_ne_nil a xs)
        rw [hpieces, List.modifyHead_cons, List.mem_cons] at h
        rw [hpieces] at ih
        rcases h with rfl | h
        · rw [List.mem_cons, not_or]
          exact ⟨fun heq => hx (beq_iff_eq.2 heq.symm), ih List.mem_cons_self⟩
        · exact ih (List.mem_cons_of_mem _ h)

theorem intercalate_concat_nil {α : Type} (a : α) (pieces : List (List α)) :
    [a].intercalate (pieces ++ [[]]) = pieces.flatMap (· ++ [a]) := by
  induction pieces with
  | nil => rfl
  | cons piece pieces ih =>
      rw [List.cons_append, List.intercalate_cons_of_ne_nil (by simp), ih, List.flatMap_cons]

/-- A text falls into pieces and nothing behind the last separator if each of them has a separator
behind it and none inside. -/
theorem splitOn_eq_concat_nil_iff {α : Type} [BEq α] [LawfulBEq α] {a : α} {xs : List α}
    {pieces : List (List α)} :
    xs.splitOn a = pieces ++ [[]] ↔
      pieces.flatMap (· ++ [a]) = xs ∧ ∀ piece ∈ pieces, a ∉ piece := by
  constructor
  · intro h
    refine ⟨?_, fun piece hpiece => notMem_of_mem_splitOn (h ▸ List.mem_append_left _ hpiece)⟩
    rw [← intercalate_concat_nil, ← h, List.intercalate_splitOn]
  · rintro ⟨rfl, hpieces⟩
    rw [← intercalate_concat_nil]
    refine List.splitOn_intercalate a ?_ (by simp)
    intro piece hpiece
    rcases List.mem_append.1 hpiece with hpiece | hpiece
    · exact hpieces piece hpiece
    · rw [List.mem_singleton.1 hpiece]
      exact List.not_mem_nil

namespace TokenType

theorem ofName_eq_ok_iff {name : String} {t : TokenType} : ofName name = .ok t ↔ t.name = name := by
  constructor
  · intro h
    unfold ofName at h
    split at h
    case h_1 found hfound =>
      cases h
      simpa using List.find?_some hfound
    case h_2 => cases h
  · rintro rfl
    exact ofName_name t

/-- The name of a type can stand before a tab in a line. -/
theorem notMem_name (t : TokenType) : '\t' ∉ t.name.toList ∧ '\n' ∉ t.name.toList := by
  cases t <;> decide

end TokenType

namespace Token

theorem toList_toPlain (token : Token) :
    token.toPlain.toList = token.type.name.toList ++ '\t' :: token.value.toList := by
  simp [toPlain]

/-- The token on a line of plain output: the name of its type stands before the first tab, its value
behind it. -/
def ofPlain? (line : List Char) : Option Token :=
  match line.dropWhile (· != '\t') with
  | [] => none
  | _ :: value =>
    match TokenType.ofName (String.ofList (line.takeWhile (· != '\t'))) with
    | .ok type => some ⟨type, String.ofList value⟩
    | .error _ => none

theorem ofPlain?_eq_some_iff {line : List Char} {token : Token} :
    ofPlain? line = some token ↔ token.toPlain.toList = line := by
  constructor
  · intro h
    unfold ofPlain? at h
    split at h
    case h_1 => cases h
    case h_2 tab value hdrop =>
      split at h
      case h_2 => cases h
      case h_1 type hname =>
        obtain rfl := Option.some_inj.1 h
        have htab : tab = '\t' := by
          have hhead := List.head?_dropWhile_not (· != '\t') line
          simpa [hdrop] using hhead
        rw [htab] at hdrop
        rw [toList_toPlain, TokenType.ofName_eq_ok_iff.1 hname, String.toList_ofList,
          String.toList_ofList, ← hdrop, List.takeWhile_append_dropWhile]
  · rintro rfl
    have hname : ∀ c ∈ token.type.name.toList, (c != '\t') = true := by
      intro c hc
      rw [bne_iff_ne]
      rintro rfl
      exact token.type.notMem_name.1 hc
    rw [ofPlain?, toList_toPlain, List.dropWhile_append_of_pos hname,
      List.takeWhile_append_of_pos hname]
    simp

theorem lineFeed_mem_toPlain (token : Token) :
    '\n' ∈ token.toPlain.toList ↔ '\n' ∈ token.value.toList := by
  rw [toList_toPlain, List.mem_append, or_iff_right token.type.notMem_name.2, List.mem_cons,
    or_iff_right (by decide)]

theorem mapM_ofPlain?_eq_some_iff {lines : List (List Char)} {tokens : List Token} :
    lines.mapM ofPlain? = some tokens ↔ lines = tokens.map fun token => token.toPlain.toList := by
  induction lines generalizing tokens with
  | nil => cases tokens <;> simp
  | cons line lines ih =>
      simp only [List.mapM_cons, Option.bind_eq_bind, Option.bind_eq_some_iff, Option.pure_def,
        Option.some_inj]
      constructor
      · rintro ⟨token, hline, tokens, hlines, rfl⟩
        rw [List.map_cons, ofPlain?_eq_some_iff.1 hline, ih.1 hlines]
      · intro h
        obtain ⟨token, tokens, rfl, hline, hlines⟩ := List.map_eq_cons_iff.1 h.symm
        exact ⟨token, ofPlain?_eq_some_iff.2 hline, tokens, ih.2 hlines.symm, rfl⟩

end Token

namespace OutputFormat

/-- The tokens in plain output, which has a line feed behind each line. -/
def readPlain? (output : String) : Option (List Token) :=
  let pieces := output.toList.splitOn '\n'
  if pieces.getLast? = some [] then pieces.dropLast.mapM Token.ofPlain? else none

/-- Plain output is read as the tokens that it was printed for. They cannot be had back from it if a
value holds a line feed. -/
theorem readPlain?_eq_some_iff {output : String} {tokens : List Token} :
    readPlain? output = some tokens ↔
      plain.print tokens = output ∧ ∀ token ∈ tokens, '\n' ∉ token.value.toList := by
  have hprint : plain.print tokens = output ↔
      (tokens.map fun token => token.toPlain.toList).flatMap (· ++ ['\n']) = output.toList := by
    rw [← String.toList_inj, toList_print, List.flatMap_map]
    rfl
  have hvalues : (∀ token ∈ tokens, '\n' ∉ token.value.toList) ↔
      ∀ line ∈ tokens.map fun token => token.toPlain.toList, '\n' ∉ line := by
    simp only [List.forall_mem_map, Token.lineFeed_mem_toPlain]
  rw [hprint, hvalues, ← splitOn_eq_concat_nil_iff, readPlain?]
  split
  case isTrue hlast =>
    obtain ⟨lines, hlines⟩ := List.getLast?_eq_some_iff.1 hlast
    rw [hlines, List.dropLast_concat, Token.mapM_ofPlain?_eq_some_iff, List.append_left_inj]
  case isFalse hlast =>
    refine iff_of_false (by simp) fun hpieces => hlast ?_
    rw [hpieces, List.getLast?_concat]

end OutputFormat

/-! No line feed gets into the tokens of a line. -/

theorem mem_intercalate_space {texts : List String} {c : Char}
    (h : c ∈ (" ".intercalate texts).toList) : (∃ text ∈ texts, c ∈ text.toList) ∨ c = ' ' := by
  induction texts with
  | nil => simp at h
  | cons text texts ih =>
      by_cases hnil : texts = []
      · rw [hnil, String.intercalate_singleton] at h
        exact Or.inl ⟨text, List.mem_cons_self, h⟩
      · rw [String.intercalate_cons_of_ne_nil hnil, String.toList_append, String.toList_append,
          List.mem_append, List.mem_append] at h
        rcases h with (h | h) | h
        · exact Or.inl ⟨text, List.mem_cons_self, h⟩
        · exact Or.inr (List.mem_singleton.1 h)
        · exact (ih h).imp_left fun ⟨text, htext, hc⟩ => ⟨text, List.mem_cons_of_mem _ htext, hc⟩

theorem Segmentation.mem_of_mem_visible {spans : List Span} {text : String} {c : Char}
    (htext : text ∈ visible spans) (hc : c ∈ text.toList) : c ∈ spans.flatMap Span.chars := by
  obtain ⟨s, hs, -, rfl⟩ := mem_visible_iff.1 htext
  rw [Span.toList_text] at hc
  exact List.mem_flatMap.2 ⟨s, hs, hc⟩

/-- A fold adds nothing but spaces to the characters of a query. -/
theorem mem_or_space_of_mem_lexeme {query lexeme : String} {c : Char}
    (h : lexeme ∈ (segment query).lexemes) (hc : c ∈ lexeme.toList) : c ∈ query.toList ∨ c = ' ' := by
  rw [← Span.flatMap_chars_split query.toList]
  rw [segment] at h
  rcases Segmentation.allClosed_or_exists_stray (Span.split query.toList) with
    hclosed | ⟨before, q, after, hclosed, hspans⟩
  · rw [Segmentation.ofSpans_of_allClosed hclosed, Segmentation.lexemes_of_not_isFolded rfl] at h
    exact Or.inl (Segmentation.mem_of_mem_visible h hc)
  · rw [hspans, Segmentation.ofSpans_append_stray hclosed] at h
    rw [hspans, List.flatMap_append, List.flatMap_cons, List.mem_append, List.mem_append]
    rcases List.mem_append.1 h with hwhole | hfold
    · exact Or.inl (Or.inl (Segmentation.mem_of_mem_visible hwhole hc))
    · obtain rfl := List.mem_singleton.1 hfold
      rw [Fold.toList_text, List.mem_cons] at hc
      rcases hc with rfl | hc
      · exact Or.inl (Or.inr (Or.inl List.mem_cons_self))
      · rcases mem_intercalate_space hc with ⟨text, htext, hc⟩ | hspace
        · exact Or.inl (Or.inr (Or.inr (Segmentation.mem_of_mem_visible htext hc)))
        · exact Or.inr hspace

theorem Dialect.mem_or_space_of_mem_tokenize {dialect : Dialect} {query : String} {token : Token}
    {c : Char} (h : token ∈ dialect.tokenize query) (hc : c ∈ token.value.toList) :
    c ∈ query.toList ∨ c = ' ' := by
  rcases mem_classify h with ⟨first, hfirst, second, hsecond, -, rfl⟩ | ⟨lexeme, hlexeme, rfl⟩
  · rw [String.toList_append, String.toList_append, List.mem_append, List.mem_append] at hc
    rcases hc with (hc | hc) | hc
    · exact mem_or_space_of_mem_lexeme hfirst hc
    · exact Or.inr (List.mem_singleton.1 hc)
    · exact mem_or_space_of_mem_lexeme hsecond hc
  · exact mem_or_space_of_mem_lexeme hlexeme hc

theorem Dialect.lineFeed_notMem_of_mem_tokenize {dialect : Dialect} {query : String} {token : Token}
    (hquery : '\n' ∉ query.toList) (h : token ∈ dialect.tokenize query) :
    '\n' ∉ token.value.toList := by
  intro hc
  rcases mem_or_space_of_mem_tokenize h hc with hmem | hspace
  · exact hquery hmem
  · revert hspace
    decide

namespace Session

/-- The queries of a session have no line feed: each is from a line of its own. -/
theorem Course.lineFeed_notMem {lines : List (List UInt8)} {queries : List String}
    {failure : Option ReadError} (h : Course lines queries failure)
    (hlast : ∀ line ∈ lines, Text.lineFeed ∉ line.dropLast) :
    ∀ query ∈ queries, '\n' ∉ query.toList := by
  induction h with
  | atEnd => simp
  | exit hholds lines => simp
  | invalid hinvalid lines => simp
  | query hholds hne hrest ih =>
      obtain ⟨hfirst, hlast⟩ := List.forall_mem_cons.1 hlast
      exact List.forall_mem_cons.2 ⟨hholds.lineFeed_notMem hfirst, ih hlast⟩

theorem printQueries_eq_print (session : Session) (queries : List String) :
    session.printQueries queries =
      session.format.print (queries.flatMap session.dialect.tokenize) := by
  induction queries with
  | nil => rfl
  | cons query queries ih =>
      rw [List.flatMap_cons, OutputFormat.print_append, ← ih]
      simp [printQueries, printQuery]

end Session

/-- From the plain output of a session its tokens can be had back, in order. That needs nothing of
the tables: no value of a token has a line feed, which is what it takes to read any plain output. -/
theorem readPlain?_output_run (dialect : Dialect) (input : List UInt8) :
    (∃ queries failure, Session.Course (Text.lines input) queries failure) ∧
    (∀ queries failure, Session.Course (Text.lines input) queries failure →
      (∀ query ∈ queries, ∀ token ∈ dialect.tokenize query, '\n' ∉ token.value.toList) ∧
      OutputFormat.readPlain? ((Session.mk dialect .plain false).run input).output =
        some (queries.flatMap dialect.tokenize)) ∧
    ∀ tokens, OutputFormat.readPlain? (OutputFormat.plain.print tokens) = some tokens ↔
      ∀ token ∈ tokens, '\n' ∉ token.value.toList := by
  refine ⟨Session.exists_course _, ?_, fun tokens => ?_⟩
  · intro queries failure hcourse
    have hqueries := hcourse.lineFeed_notMem fun _ => Text.lineFeed_notMem_dropLast
    have htokens : ∀ query ∈ queries, ∀ token ∈ dialect.tokenize query,
        '\n' ∉ token.value.toList :=
      fun query hquery _ => Dialect.lineFeed_notMem_of_mem_tokenize (hqueries query hquery)
    refine ⟨htokens, OutputFormat.readPlain?_eq_some_iff.2 ⟨?_, ?_⟩⟩
    · rw [Session.run, Session.output_of_course rfl hcourse, Session.printQueries_eq_print]
    · intro token htoken
      obtain ⟨query, hquery, hmem⟩ := List.mem_flatMap.1 htoken
      exact htokens query hquery token hmem
  · rw [OutputFormat.readPlain?_eq_some_iff]
    exact and_iff_right rfl

-- a value that looks like a line of output
example :
    OutputFormat.readPlain?
        ((Session.mk {} .plain false).run (Text.utf8 "'a\tKeyword\t\r'\n\"b\tc".toList)).output =
      some [⟨.literal, "'a\tKeyword\t\r'"⟩, ⟨.unknown, "\"b c"⟩] := by
  decide +kernel

end SqlLexer
