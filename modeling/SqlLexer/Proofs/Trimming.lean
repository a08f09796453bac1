import SqlLexer.Proofs.Spacing
import SqlLexer.Proofs.Stream

/-!
White space at the end of a query. It makes no difference, even behind an open quote: there it becomes
part of what is folded or is taken along by a backslash, but it closes no string, and it is left out
when the fold is pressed together.
-/

namespace SqlLexer

namespace Quote

theorem close?_of_isBlankText (q : Quote) {blanks : List Char}
    (h : Text.isBlankText blanks = true) : q.close? blanks = none := by
  induction blanks with
  | nil => rfl
  | cons c blanks ih =>
      rw [Text.isBlankText_cons, Bool.and_eq_true] at h
      obtain ⟨hc, hblanks⟩ := h
      have hquote : c ≠ q.char := by
        rintro rfl
        rw [q.isBlank_char] at hc
        cases hc
      have hbackslash : c ≠ '\\' := by
        rintro rfl
        revert hc
        decide
      rw [q.close?_cons_of_ne blanks hquote hbackslash, ih hblanks]
      rfl

/-- White space closes no string. -/
theorem close?_append_blank {q : Quote} {cs blanks : List Char} (h : q.close? cs = none)
    (hblanks : Text.isBlankText blanks = true) : q.close? (cs ++ blanks) = none := by
  fun_induction close? q cs with
  | case1 => exact q.close?_of_isBlankText hblanks
  | case2 cs => cases h
  | case3 hq =>
      -- the backslash at the end takes the first blank along, unless that is a line feed
      cases blanks with
      | nil => simp [close?, hq]
      | cons d blanks =>
          rw [Text.isBlankText_cons, Bool.and_eq_true] at hblanks
          by_cases hd : d = '\n'
          · simp [close?, hq, hd]
          · rw [List.singleton_append, q.close?_escape_cons d blanks hd,
              q.close?_of_isBlankText hblanks.2]
            rfl
  | case4 cs hq => simp [close?, hq]
  | case5 d cs hd hq ih =>
      rw [List.cons_append, List.cons_append, q.close?_escape_cons d (cs ++ blanks) hd,
        ih (Option.map_eq_none_iff.1 h)]
      rfl
  | case6 c cs hq hb ih =>
      rw [List.cons_append, q.close?_cons_of_ne (cs ++ blanks) hq hb,
        ih (Option.map_eq_none_iff.1 h)]
      rfl

end Quote

namespace Span

/-- White space behind a text leaves its first span as it is, if that is not white space itself. -/
theorem Reads.append_blank_right {cs rest blanks : List Char} {s : Span} (h : Reads cs s rest)
    (hvisible : s.isBlank = false ∨ rest ≠ []) (hblanks : Text.isBlankText blanks = true) :
    Reads (cs ++ blanks) s (rest ++ blanks) := by
  by_cases hstray : ∀ q, s ≠ .stray q
  · refine h.append_right hstray fun hnil d hd => Bool.eq_false_iff.2 fun hrunsOn => ?_
    have hmay := mayRunOn_of_runsOn (hvisible.resolve_right (not_not_intro hnil)) hrunsOn
    rw [not_mayRunOn_of_isBlank (List.all_eq_true.1 hblanks d (List.mem_of_head? hd))] at hmay
    cases hmay
  · obtain ⟨q, rfl⟩ : ∃ q, s = .stray q := by simpa using hstray
    cases h with
    | stray hopen => exact .stray (Quote.close?_append_blank hopen hblanks)

end Span

namespace Segmentation

/-- The spans of a text that are not white space. -/
def visibleSpans (cs : List Char) : List Span := (Span.split cs).filter (!·.isBlank)

theorem visibleSpans_of_reads {cs rest : List Char} {s : Span} (h : Span.Reads cs s rest) :
    visibleSpans cs = if s.isBlank then visibleSpans rest else s :: visibleSpans rest := by
  rw [visibleSpans, Span.split_of_reads h, List.filter_cons]
  cases s.isBlank <;> rfl

theorem visibleSpans_of_isBlankText {blanks : List Char} (h : Text.isBlankText blanks = true) :
    visibleSpans blanks = [] := by
  have happend : visibleSpans (blanks ++ []) = visibleSpans [] :=
    apply_split_blank_append (fun _ _ => rfl) h []
  rwa [List.append_nil, visibleSpans, visibleSpans, Span.split_nil] at happend

theorem visibleSpans_append_blank {blanks : List Char} (hblanks : Text.isBlankText blanks = true)
    (cs : List Char) : visibleSpans (cs ++ blanks) = visibleSpans cs := by
  fun_induction Span.split cs with
  | case1 =>
      rw [List.nil_append, visibleSpans_of_isBlankText hblanks, visibleSpans_of_isBlankText rfl]
  | case2 c cs ih =>
      have hreads := Span.reads_next c cs
      by_cases hvisible : (Span.next c cs).1.isBlank = false ∨ (Span.next c cs).2 ≠ []
      · rw [visibleSpans_of_reads hreads,
          visibleSpans_of_reads (hreads.append_blank_right hvisible hblanks), ih]
      · -- the whole text is one run of white space
        rw [not_or, Bool.not_eq_false, not_not] at hvisible
        have hwhole : Text.isBlankText (c :: cs) = true := by
          rw [← hreads.append, hvisible.2, List.append_nil, ← hreads.isBlank_eq, hvisible.1]
        rw [visibleSpans_of_isBlankText hwhole, visibleSpans_of_isBlankText]
        rw [Text.isBlankText_append, hwhole, hblanks]
        rfl

/-- A segmentation goes by the spans that are not white space. -/
theorem ofSpans_filter (spans : List Span) : ofSpans (spans.filter (!·.isBlank)) = ofSpans spans := by
  induction spans with
  | nil => rfl
  | cons s spans ih =>
      cases s with
      | blank blanks => exact ih
      | stray q =>
          have hvisible : visible (spans.filter (!·.isBlank)) = visible spans := by
            rw [visible, List.filter_filter]
            simp only [Bool.and_self]
            rfl
          show ofSpans (.stray q :: spans.filter (!·.isBlank)) = _
          rw [ofSpans_stray_cons, ofSpans_stray_cons, hvisible]
      | string q body => exact congrArg (cons _) ih
      | word cs => exact congrArg (cons _) ih
      | number cs => exact congrArg (cons _) ih
      | mark c => exact congrArg (cons _) ih

end Segmentation

/-- White space at the end of a query makes no difference. -/
theorem segment_append_blank {blanks : String} (h : Text.isBlankText blanks.toList = true)
    (query : String) : segment (query ++ blanks) = segment query := by
  have hspans := Segmentation.visibleSpans_append_blank h query.toList
  rw [segment, segment, String.toList_append, ← Segmentation.ofSpans_filter,
    ← Segmentation.ofSpans_filter (Span.split query.toList)]
  exact congrArg Segmentation.ofSpans hspans

theorem segment_of_isBlankText {blanks : String} (h : Text.isBlankText blanks.toList = true) :
    segment blanks = ⟨[], none⟩ := by
  have happend := segment_append_blank h ""
  rwa [String.empty_append, segment_empty] at happend

theorem segment_trimmed (query : String) : segment (Text.trimmed query) = segment query := by
  obtain ⟨blanks, hblanks, happend⟩ := Text.trimEnd_append_trimmed query.toList
  have hquery : Text.trimmed query ++ String.ofList blanks = query := by
    rw [Text.trimmed, ← String.ofList_append, ← happend, String.ofList_toList]
  have htext : Text.isBlankText (String.ofList blanks).toList = true := by
    rwa [String.toList_ofList]
  rw [← segment_append_blank htext, hquery]

namespace Dialect

theorem tokenize_of_isBlankText (dialect : Dialect) {query : String}
    (h : Text.isBlankText query.toList = true) : dialect.tokenize query = [] := by
  rw [tokenize, segment_of_isBlankText h]
  rfl

theorem tokenize_trimmed (dialect : Dialect) (query : String) :
    dialect.tokenize (Text.trimmed query) = dialect.tokenize query := by
  rw [tokenize, tokenize, segment_trimmed]

end Dialect

end SqlLexer
