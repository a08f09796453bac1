import SqlLexer.Proofs.Conservation
import SqlLexer.Proofs.Fusion
import SqlLexer.Proofs.QuoteAutomaton
import SqlLexer.Proofs.Spacing

/-!
Tokens written out with single spaces between them are read back as the same tokens. That holds for
every query without an open quote. Behind an open quote white space is lost, and a backslash may
then stand before a space that was not there; without backslashes the quote stays open all the same.
-/

namespace SqlLexer

namespace Quote

/-- Without backslashes a string is closed by the next quote of its kind. -/
theorem close?_eq_none_iff_of_no_backslash (q : Quote) {cs : List Char} (h : '\\' ∉ cs) :
    q.close? cs = none ↔ q.char ∉ cs := by
  induction cs with
  | nil => exact iff_of_true rfl List.not_mem_nil
  | cons c cs ih =>
      rw [List.mem_cons, not_or] at h
      by_cases hq : c = q.char
      · subst hq
        simp
      · rw [q.close?_cons_of_ne cs hq (Ne.symm h.1), Option.map_eq_none_iff, ih h.2, List.mem_cons,
          not_or]
        exact (and_iff_right (Ne.symm hq)).symm

end Quote

namespace Span

/-- A span by itself is read as this span. -/
theorem Reads.alone {cs rest : List Char} {s : Span} (h : Reads cs s rest) :
    Reads s.chars s [] := by
  have hwhole (p : Char → Bool) (ds : List Char) :
      (ds.takeWhile p).takeWhile p = ds.takeWhile p ∧ (ds.takeWhile p).dropWhile p = [] := by
    have hall : ∀ d ∈ ds.takeWhile p, p d = true := List.all_eq_true.1 List.all_takeWhile
    exact ⟨List.takeWhile_eq_self_iff.2 hall, List.dropWhile_eq_nil_iff.2 hall⟩
  have hself := h
  cases h with
  | string hclose =>
      exact .string (Pattern.close?_of_mem_quotedBody (Pattern.mem_quotedBody_of_close? hclose) [])
  | stray hopen => exact .stray rfl
  | mark hmark => exact .mark hmark
  | @word c cs hstart =>
      have hreads : Reads (c :: cs.takeWhile isWordChar) _ _ := .word hstart
      rwa [(hwhole isWordChar cs).1, (hwhole isWordChar cs).2] at hreads
  | @blank c cs hblank =>
      have hreads : Reads (c :: cs.takeWhile Text.isBlank) _ _ := .blank hblank
      rwa [(hwhole Text.isBlank cs).1, (hwhole Text.isBlank cs).2] at hreads
  | @number c cs hdigit =>
      have hreads : Reads (c :: (cutNumber cs).1) _ _ := .number hdigit
      have hmem : c :: (cutNumber cs).1 ∈ LexemeKind.number.language := hself.mem_language rfl
      have hnil := Pattern.eq_nil_of_mem_language (by simp [Pattern.alternatives]) hreads hmem
      have happend := cutNumber_append (cutNumber cs).1
      rw [hnil, List.append_nil] at happend
      rwa [hnil, happend] at hreads

theorem Reads.close?_eq_none {cs rest : List Char} {q : Quote} (h : Reads cs (.stray q) rest) :
    q.close? rest = none := by
  cases h with
  | stray hopen => exact hopen

/-- White space behind a span leaves it as it is, if a quote that was left open is still so. -/
theorem Reads.append_blank {cs rest : List Char} {s : Span} (h : Reads cs s rest)
    (hvisible : s.isBlank = false) {d : Char} (hd : Text.isBlank d = true) {ds : List Char}
    (hopen : ∀ q, s = .stray q → q.close? (d :: ds) = none) :
    Reads (s.chars ++ d :: ds) s (d :: ds) := by
  by_cases hstray : ∀ q, s ≠ .stray q
  · refine h.alone.append_right hstray fun _ c hc => ?_
    obtain rfl : d = c := Option.some_inj.1 hc
    rw [Bool.eq_false_iff]
    intro hrunsOn
    have hmay := mayRunOn_of_runsOn hvisible hrunsOn
    rw [not_mayRunOn_of_isBlank hd] at hmay
    cases hmay
  · obtain ⟨q, rfl⟩ : ∃ q, s = .stray q := by simpa using hstray
    exact .stray (hopen q rfl)

end Span

namespace Segmentation

theorem visible_nil : visible [] = [] := rfl

theorem visible_cons_of_visible {s : Span} (h : s.isBlank = false) (spans : List Span) :
    visible (s :: spans) = s.text :: visible spans := by
  rw [visible, List.filter_cons_of_pos (by simp [h])]
  rfl

theorem visible_blank_cons (blanks : List Char) (spans : List Span) :
    visible (.blank blanks :: spans) = visible spans := rfl

theorem visible_split_blank_append {blanks : List Char} (h : Text.isBlankText blanks = true)
    (cs : List Char) : visible (Span.split (blanks ++ cs)) = visible (Span.split cs) :=
  apply_split_blank_append visible_blank_cons h cs

/-- A span with a space behind it is read before what follows, if a quote that was left open is
still so. -/
theorem visible_split_append_space {cs rest ds : List Char} {s : Span} (h : Span.Reads cs s rest)
    (hvisible : s.isBlank = false) (hopen : ∀ q, s = .stray q → q.close? ds = none) :
    visible (Span.split (s.chars ++ ' ' :: ds)) = s.text :: visible (Span.split ds) := by
  have hopen' (q : Quote) (hs : s = .stray q) : q.close? (' ' :: ds) = none := by
    rw [q.close?_cons_of_ne _ (by cases q <;> decide) (by decide), Option.map_eq_none_iff]
    exact hopen q hs
  have hspace : visible (Span.split (' ' :: ds)) = visible (Span.split ds) :=
    visible_split_blank_append (show Text.isBlankText [' '] = true by decide) ds
  rw [Span.split_of_reads (h.append_blank hvisible (by decide) hopen'),
    visible_cons_of_visible hvisible, hspace]

/-- A text with single spaces between its spans in place of its own white space. -/
def respaced (cs : List Char) : String := " ".intercalate (visible (Span.split cs))

theorem mem_respaced_iff {c : Char} (hc : Text.isBlank c = false) (cs : List Char) :
    c ∈ (respaced cs).toList ↔ c ∈ cs := by
  have hsame : Text.withoutBlanks (respaced cs).toList = Text.withoutBlanks cs := by
    have hspans : ∀ s ∈ Span.split cs, s.isBlank = Text.isBlankText s.chars :=
      fun s hs => Span.isBlank_eq_of_mem_split hs
    rw [respaced, Text.withoutBlanks_intercalate, withoutBlanksAll_visible hspans,
      Span.flatMap_chars_split]
  have hmem (ds : List Char) : c ∈ ds ↔ c ∈ Text.withoutBlanks ds := by
    simp [Text.withoutBlanks, hc]
  rw [hmem, hsame, ← hmem]

theorem close?_respaced {cs : List Char} (hbackslash : '\\' ∉ cs) {q : Quote}
    (h : q.close? cs = none) : q.close? (respaced cs).toList = none := by
  rw [q.close?_eq_none_iff_of_no_backslash hbackslash, ← mem_respaced_iff q.isBlank_char] at h
  rwa [q.close?_eq_none_iff_of_no_backslash]
  rwa [mem_respaced_iff (by decide)]

/-- Without backslashes a text has the same visible spans when it is respaced. -/
theorem visible_split_respaced {cs : List Char} (hbackslash : '\\' ∉ cs) :
    visible (Span.split (respaced cs).toList) = visible (Span.split cs) := by
  fun_induction Span.split cs with
  | case1 =>
      rw [respaced, Span.split_nil, visible_nil, String.intercalate_nil, String.toList_empty,
        Span.split_nil, visible_nil]
  | case2 c cs ih =>
      have hreads := Span.reads_next c cs
      have hrest : '\\' ∉ (Span.next c cs).2 := by
        rw [← Span.next_append c cs, List.mem_append, not_or] at hbackslash
        exact hbackslash.2
      specialize ih hrest
      rw [respaced, Span.split_cons]
      generalize (Span.next c cs).1 = s at hreads ⊢
      generalize (Span.next c cs).2 = rest at hreads hrest ih ⊢
      cases hvisible : s.isBlank with
      | true =>
          cases s with
          | blank blanks => rwa [visible_blank_cons]
          | _ => cases hvisible
      | false =>
          rw [visible_cons_of_visible hvisible]
          by_cases hnil : visible (Span.split rest) = []
          · rw [hnil, String.intercalate_singleton, Span.toList_text,
              Span.split_of_reads hreads.alone, Span.split_nil, visible_cons_of_visible hvisible]
            rfl
          · rw [String.intercalate_cons_of_ne_nil hnil, String.toList_append, String.toList_append,
              Span.toList_text]
            show visible (Span.split (s.chars ++ [' '] ++ (respaced rest).toList)) = _
            rw [List.append_assoc, List.singleton_append,
              visible_split_append_space hreads hvisible, ih]
            -- a quote that the text leaves open is left open by what is respaced behind it
            rintro q rfl
            exact close?_respaced hrest hreads.close?_eq_none

end Segmentation

/-- A fold is read back as itself if the query has no backslash. -/
theorem segment_fold_text {q : Quote} {cs : List Char} (hbackslash : '\\' ∉ cs)
    (hopen : q.close? cs = none) :
    segment (Fold.text ⟨q, Segmentation.respaced cs⟩) =
      ⟨[], some ⟨q, Segmentation.respaced cs⟩⟩ := by
  have hreads := Span.Reads.stray (Segmentation.close?_respaced hbackslash hopen)
  rw [segment, Fold.toList_text, Span.split_of_reads hreads, Segmentation.ofSpans_stray_cons,
    Segmentation.visible_split_respaced hbackslash]
  rfl

/-- The lexemes of a query, with single spaces between them, make up a query with the same
lexemes. -/
theorem segment_intercalate_lexemes {query : String}
    (h : (segment query).isFolded = false ∨ '\\' ∉ query.toList) :
    segment (" ".intercalate (segment query).lexemes) = segment query := by
  have hwhole : ∀ lexeme ∈ (segment query).whole, IsLexeme lexeme :=
    fun lexeme => isLexeme_of_mem_whole
  cases hfolded : (segment query).isFolded with
  | false =>
      rw [Segmentation.lexemes_of_not_isFolded hfolded, segment_intercalate hwhole,
        ← Segmentation.isFolded_eq_false_iff.1 hfolded]
  | true =>
      have hbackslash := h.resolve_left (by simp [hfolded])
      obtain ⟨before, q, after, hleaves⟩ :=
        Mode.exists_leavesOpen ((isFolded_segment_iff query).1 hfolded)
      have hafter : '\\' ∉ after := by
        rw [← hleaves.text, List.mem_append, List.mem_cons, not_or, not_or] at hbackslash
        exact hbackslash.2.2
      have hsegment : segment query =
          ⟨(segment query).whole, some ⟨q, Segmentation.respaced after⟩⟩ := by
        rw [segment_of_leavesOpen hleaves]
        rfl
      rw [hsegment]
      show segment (" ".intercalate ((segment query).whole ++ [_])) = _
      rw [segment_intercalate_append hwhole, segment_fold_text hafter hleaves.close?_eq_none,
        Segmentation.prepend_mk, List.append_nil]

/-- Tokens written out with single spaces between them are read back. -/
theorem tokenize_intercalate_values (dialect : Dialect) (query : String)
    (h : (segment query).isFolded = false ∨ '\\' ∉ query.toList) :
    dialect.tokenize (" ".intercalate ((dialect.tokenize query).map Token.value)) =
      dialect.tokenize query := by
  rw [Dialect.tokenize, Dialect.tokenize, Dialect.intercalate_classify,
    segment_intercalate_lexemes h]

/-- The open quote stays open though there are strings, and another open quote, behind it. -/
theorem tokenize_intercalate_open_quote :
    (segment "x=\"a 'b  c'\n'd").isFolded = true ∧ '\\' ∉ "x=\"a 'b  c'\n'd".toList ∧
      (default : Dialect).tokenize "x=\"a 'b  c'\n'd" =
        [⟨.identifier, "x"⟩, ⟨.operator, "="⟩, ⟨.unknown, "\"a 'b  c' ' d"⟩] ∧
      (default : Dialect).tokenize "x = \"a 'b  c' ' d" =
        (default : Dialect).tokenize "x=\"a 'b  c'\n'd" := by
  have hbackslash : '\\' ∉ "x=\"a 'b  c'\n'd".toList := by decide
  have htokens : (default : Dialect).tokenize "x=\"a 'b  c'\n'd" =
      [⟨.identifier, "x"⟩, ⟨.operator, "="⟩, ⟨.unknown, "\"a 'b  c' ' d"⟩] := by decide +kernel
  refine ⟨by decide +kernel, hbackslash, htokens, ?_⟩
  have hback := tokenize_intercalate_values default _ (Or.inr hbackslash)
  rw [htokens] at hback ⊢
  exact hback

-- without the condition a space that is put behind a backslash may be escaped by it
example : (default : Dialect).tokenize "'\\' b" = [⟨.unknown, "'\\ ' b"⟩] ∧
    (default : Dialect).tokenize "'\\ ' b" = [⟨.literal, "'\\ '"⟩, ⟨.identifier, "b"⟩] := by
  decide +kernel

end SqlLexer
