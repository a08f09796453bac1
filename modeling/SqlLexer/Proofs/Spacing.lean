import SqlLexer.Proofs.Concatenation
import SqlLexer.Proofs.LexemeKind

/-!
Spacing. Lexemes written in a row are read back as they are if white space stands between them, no
matter which and how much. So the lists of lexemes that queries without an open quote have are all
the lists of texts that are lexemes by themselves.
-/

namespace SqlLexer

theorem not_mayRunOn_of_isBlank {c : Char} (h : Text.isBlank c = true) : mayRunOn c = false := by
  rw [mayRunOn, not_isWordChar_of_isBlank h, Bool.false_or, beq_eq_false_iff_ne]
  rintro rfl
  cases h

theorem not_joins_of_blank_left {a : String}
    (h : ∀ c ∈ a.toList.getLast?, Text.isBlank c = true) (b : String) : ¬Joins a b := by
  rintro ⟨c, hc, -, -, hrunsOn, -⟩
  rw [not_mayRunOn_of_isBlank (h c hc)] at hrunsOn
  cases hrunsOn

theorem not_joins_of_blank_right {b : String}
    (h : ∀ d ∈ b.toList.head?, Text.isBlank d = true) (a : String) : ¬Joins a b := by
  rintro ⟨-, -, d, hd, -, hrunsOn⟩
  rw [not_mayRunOn_of_isBlank (h d hd)] at hrunsOn
  cases hrunsOn

theorem segment_blank_append {blanks : String} (h : Text.isBlankText blanks.toList = true)
    (rest : String) : segment (blanks ++ rest) = segment rest := by
  rw [segment, String.toList_append, Segmentation.ofSpans_split_blank_append h]
  rfl

theorem segment_empty : segment "" = ⟨[], none⟩ := by
  rw [segment, String.toList_empty, Span.split_nil, Segmentation.ofSpans_nil]

section

variable {lexeme gap : String} (hlexeme : IsLexeme lexeme)
  (hgap : Text.isBlankText gap.toList = true)

include hlexeme hgap

theorem segment_isLexeme_append_blank : segment (lexeme ++ gap) = ⟨[lexeme], none⟩ := by
  have hblank : ∀ c ∈ gap.toList, Text.isBlank c = true := List.all_eq_true.1 hgap
  have hjoins : ¬Joins lexeme gap :=
    not_joins_of_blank_right (fun d hd => hblank d (List.mem_of_head? hd)) lexeme
  have hempty : segment gap = ⟨[], none⟩ := by
    have happend := segment_blank_append hgap ""
    rwa [String.append_empty, segment_empty] at happend
  rw [segment_append _ hjoins, segment_of_isLexeme hlexeme, hempty]
  · rfl
  · rw [segment_of_isLexeme hlexeme]
    rfl

/-- White space keeps a lexeme apart from what follows. -/
theorem segment_isLexeme_append (hne : gap ≠ "") (rest : String) :
    segment (lexeme ++ gap ++ rest) = (segment rest).prepend [lexeme] := by
  have hblank : ∀ c ∈ gap.toList, Text.isBlank c = true := List.all_eq_true.1 hgap
  have hfirst := segment_isLexeme_append_blank hlexeme hgap
  have hjoins : ¬Joins (lexeme ++ gap) rest := by
    refine not_joins_of_blank_left (fun c hc => hblank c ?_) rest
    rw [String.toList_append, List.getLast?_append_of_ne_nil] at hc
    · exact List.mem_of_getLast? hc
    · exact fun hnil => hne (String.toList_eq_nil_iff.1 hnil)
  rw [segment_append _ hjoins, hfirst]
  · rfl
  · rw [hfirst]
    rfl

end

/-- Single spaces keep lexemes apart from each other and from what follows. -/
theorem segment_intercalate_append {lexemes : List String}
    (h : ∀ lexeme ∈ lexemes, IsLexeme lexeme) (last : String) :
    segment (" ".intercalate (lexemes ++ [last])) = (segment last).prepend lexemes := by
  induction lexemes with
  | nil => rw [List.nil_append, String.intercalate_singleton, Segmentation.prepend_nil]
  | cons lexeme lexemes ih =>
      obtain ⟨hfirst, hlexemes⟩ := List.forall_mem_cons.1 h
      have hne : lexemes ++ [last] ≠ [] :=
        List.append_ne_nil_of_right_ne_nil _ (List.cons_ne_nil _ _)
      rw [List.cons_append, String.intercalate_cons_of_ne_nil hne,
        segment_isLexeme_append hfirst (by decide) (by decide), ih hlexemes,
        ← Segmentation.prepend_append, List.singleton_append]

theorem segment_intercalate {lexemes : List String} (h : ∀ lexeme ∈ lexemes, IsLexeme lexeme) :
    segment (" ".intercalate lexemes) = ⟨lexemes, none⟩ := by
  rcases List.eq_nil_or_concat lexemes with rfl | ⟨lexemes, last, rfl⟩
  · exact segment_empty
  · rw [List.concat_eq_append] at h ⊢
    obtain ⟨hlexemes, hlast⟩ := List.forall_mem_append.1 h
    rw [segment_intercalate_append hlexemes,
      segment_of_isLexeme (List.forall_mem_singleton.1 hlast), Segmentation.prepend_mk]

/-- Lexemes in a row, each with what stands behind it. -/
def spacedOut : List (String × String) → String
  | [] => ""
  | (lexeme, gap) :: pieces => lexeme ++ gap ++ spacedOut pieces

/-- Lexemes stand apart: white space of any kind and length separates them, and may also stand
before the first and behind the last. -/
structure StandApart (before : String) (pieces : List (String × String)) : Prop where
  lexeme : ∀ piece ∈ pieces, IsLexeme piece.1
  blank_before : Text.isBlankText before.toList = true
  blank_behind : ∀ piece ∈ pieces, Text.isBlankText piece.2.toList = true
  apart : ∀ piece ∈ pieces.dropLast, piece.2 ≠ ""

theorem StandApart.segment_eq {before : String} {pieces : List (String × String)}
    (h : StandApart before pieces) :
    segment (before ++ spacedOut pieces) = ⟨pieces.map Prod.fst, none⟩ := by
  obtain ⟨hlexeme, hbefore, hblank, hapart⟩ := h
  rw [segment_blank_append hbefore]
  induction pieces with
  | nil => exact segment_empty
  | cons piece pieces ih =>
      obtain ⟨lexeme, gap⟩ := piece
      obtain ⟨hfirst, hlexeme⟩ := List.forall_mem_cons.1 hlexeme
      obtain ⟨hgap, hblank⟩ := List.forall_mem_cons.1 hblank
      cases pieces with
      | nil =>
          -- behind the last lexeme there need not be anything
          rw [spacedOut, spacedOut, String.append_empty, segment_isLexeme_append_blank hfirst hgap]
          rfl
      | cons next pieces =>
          rw [List.dropLast_cons_of_ne_nil (List.cons_ne_nil _ _)] at hapart
          obtain ⟨hne, hapart⟩ := List.forall_mem_cons.1 hapart
          rw [spacedOut, segment_isLexeme_append hfirst hgap hne, ih hlexeme hblank hapart]
          rfl

/-- A list of lexemes that stand apart is what is read of them, and no query without an open quote
has other lexemes than these. -/
theorem segment_undoes_spacing :
    (∀ before pieces, StandApart before pieces →
      (segment (before ++ spacedOut pieces)).lexemes = pieces.map Prod.fst ∧
        (segment (before ++ spacedOut pieces)).isFolded = false) ∧
    (∀ query, (segment query).isFolded = false →
      ∀ lexeme ∈ (segment query).lexemes, IsLexeme lexeme) ∧
    ∀ lexemes : List String,
      (∃ query, (segment query).isFolded = false ∧ (segment query).lexemes = lexemes) ↔
        ∀ lexeme ∈ lexemes, IsLexeme lexeme := by
  have hunfolded (query : String) (hfolded : (segment query).isFolded = false) :
      ∀ lexeme ∈ (segment query).lexemes, IsLexeme lexeme := by
    rw [Segmentation.lexemes_of_not_isFolded hfolded]
    exact fun lexeme => isLexeme_of_mem_whole
  refine ⟨?_, hunfolded, ?_⟩
  · intro before pieces happart
    rw [happart.segment_eq]
    exact ⟨Segmentation.lexemes_of_not_isFolded rfl, rfl⟩
  · intro lexemes
    constructor
    · rintro ⟨query, hfolded, rfl⟩
      exact hunfolded query hfolded
    · intro hlexeme
      refine ⟨" ".intercalate lexemes, ?_⟩
      rw [segment_intercalate hlexeme]
      exact ⟨rfl, Segmentation.lexemes_of_not_isFolded rfl⟩

/-- A string keeps the quotes, the white space and the line feed that it holds. -/
theorem segment_spaced_string :
    StandApart "\u00A0" [("'a \\' \n\"'", "\n"), ("x1", "\u3000 "), ("3.", " "), ("é", "")] ∧
      (segment "\u00A0'a \\' \n\"'\nx1\u3000 3. é").lexemes =
        ["'a \\' \n\"'", "x1", "3.", "é"] ∧
      (segment "\u00A0'a \\' \n\"'\nx1\u3000 3. é").isFolded = false := by
  have happart : StandApart "\u00A0"
      [("'a \\' \n\"'", "\n"), ("x1", "\u3000 "), ("3.", " "), ("é", "")] := by
    constructor <;> decide +kernel
  have hquery : "\u00A0" ++
      spacedOut [("'a \\' \n\"'", "\n"), ("x1", "\u3000 "), ("3.", " "), ("é", "")] =
        "\u00A0'a \\' \n\"'\nx1\u3000 3. é" := by decide +kernel
  have hspaced := segment_undoes_spacing.1 _ _ happart
  rw [hquery] at hspaced
  exact ⟨happart, hspaced⟩

end SqlLexer
