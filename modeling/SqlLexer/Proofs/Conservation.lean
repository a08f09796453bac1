import SqlLexer.Proofs.Classification
import SqlLexer.Proofs.Segmentation

/-!
Conservation of characters. Neither cutting a query into lexemes, nor folding its end, nor joining two
lexemes to one keyword loses, doubles or moves a character that is not white space.
-/

namespace SqlLexer

namespace Text

/-- The characters of a text that are not white space. -/
def withoutBlanks (cs : List Char) : List Char := cs.filter (!isBlank ·)

@[simp] theorem withoutBlanks_nil : withoutBlanks [] = [] := rfl

theorem withoutBlanks_space : withoutBlanks " ".toList = [] := by decide

@[simp] theorem withoutBlanks_append (cs ds : List Char) :
    withoutBlanks (cs ++ ds) = withoutBlanks cs ++ withoutBlanks ds := by
  simp [withoutBlanks]

theorem withoutBlanks_cons_of_not_blank {c : Char} (h : isBlank c = false) (cs : List Char) :
    withoutBlanks (c :: cs) = c :: withoutBlanks cs := by
  simp [withoutBlanks, h]

theorem withoutBlanks_eq_nil_iff {cs : List Char} :
    withoutBlanks cs = [] ↔ isBlankText cs = true := by
  simp [withoutBlanks, isBlankText]

/-- The characters of some texts in a row that are not white space. -/
def withoutBlanksAll (texts : List String) : List Char :=
  texts.flatMap fun text => withoutBlanks text.toList

@[simp] theorem withoutBlanksAll_nil : withoutBlanksAll [] = [] := rfl

@[simp] theorem withoutBlanksAll_cons (text : String) (texts : List String) :
    withoutBlanksAll (text :: texts) = withoutBlanks text.toList ++ withoutBlanksAll texts := rfl

theorem withoutBlanksAll_append (texts more : List String) :
    withoutBlanksAll (texts ++ more) = withoutBlanksAll texts ++ withoutBlanksAll more :=
  List.flatMap_append

theorem withoutBlanks_join (texts : List String) :
    withoutBlanks (String.join texts).toList = withoutBlanksAll texts := by
  induction texts with
  | nil => simp
  | cons text texts ih => rw [String.join_cons, String.toList_append, withoutBlanks_append, ih,
      withoutBlanksAll_cons]

theorem withoutBlanks_intercalate (texts : List String) :
    withoutBlanks (" ".intercalate texts).toList = withoutBlanksAll texts := by
  induction texts with
  | nil => simp
  | cons text texts ih =>
      cases texts with
      | nil => simp
      | cons next texts =>
          rw [String.intercalate_cons_cons, String.toList_append, String.toList_append,
            withoutBlanks_append, withoutBlanks_append, ih, withoutBlanks_space, List.append_nil,
            withoutBlanksAll_cons text]

end Text

open Text

namespace Segmentation

theorem withoutBlanksAll_visible {spans : List Span}
    (h : ∀ s ∈ spans, s.isBlank = isBlankText s.chars) :
    withoutBlanksAll (visible spans) = withoutBlanks (spans.flatMap Span.chars) := by
  induction spans with
  | nil => rfl
  | cons s spans ih =>
      obtain ⟨hs, hspans⟩ := List.forall_mem_cons.1 h
      have hrest := ih hspans
      rw [List.flatMap_cons, withoutBlanks_append, ← hrest]
      cases hblank : s.isBlank with
      | true =>
          rw [hblank] at hs
          rw [withoutBlanks_eq_nil_iff.2 hs.symm, visible, List.filter_cons_of_neg (by simp [hblank])]
          rfl
      | false =>
          rw [visible, List.filter_cons_of_pos (by simp [hblank]), List.map_cons,
            withoutBlanksAll_cons, Span.toList_text]
          rfl

theorem withoutBlanksAll_lexemes {spans : List Span}
    (h : ∀ s ∈ spans, s.isBlank = isBlankText s.chars) :
    withoutBlanksAll (ofSpans spans).lexemes = withoutBlanks (spans.flatMap Span.chars) := by
  rcases allClosed_or_exists_stray spans with hclosed | ⟨before, q, after, hclosed, rfl⟩
  · rw [ofSpans_of_allClosed hclosed, ← withoutBlanksAll_visible h]
    simp [lexemes]
  · obtain ⟨hbefore, hafter⟩ := List.forall_mem_append.1 h
    have hrest := withoutBlanksAll_visible (List.forall_mem_cons.1 hafter).2
    have hquote (cs : List Char) : withoutBlanks (q.char :: cs) = q.char :: withoutBlanks cs :=
      withoutBlanks_cons_of_not_blank q.isBlank_char cs
    have hfold : withoutBlanks (Fold.text ⟨q, " ".intercalate (visible after)⟩).toList =
        q.char :: withoutBlanksAll (visible after) := by
      rw [Fold.toList_text, hquote, withoutBlanks_intercalate]
    rw [ofSpans_append_stray hclosed]
    show withoutBlanksAll (visible before ++ [Fold.text ⟨q, " ".intercalate (visible after)⟩]) = _
    rw [withoutBlanksAll_append, withoutBlanksAll_cons, hfold, withoutBlanksAll_nil, List.append_nil,
      withoutBlanksAll_visible hbefore, hrest, List.flatMap_append, withoutBlanks_append,
      List.flatMap_cons, ← hquote]
    rfl

end Segmentation

/-- No lexeme of a query is white space as a whole. -/
theorem isBlankText_of_mem_lexemes {query lexeme : String}
    (h : lexeme ∈ (segment query).lexemes) : isBlankText lexeme.toList = false := by
  rcases Segmentation.mem_lexemes_ofSpans h with ⟨s, hs, hvisible, rfl⟩ | ⟨f, -, rfl⟩
  · rw [Span.toList_text, ← Span.isBlank_eq_of_mem_split hs, hvisible]
  · rw [Fold.toList_text, isBlankText_cons, f.quote.isBlank_char, Bool.false_and]

namespace Dialect

theorem withoutBlanksAll_classify (dialect : Dialect) (lexemes : List String) :
    withoutBlanksAll ((dialect.classify lexemes).map Token.value) = withoutBlanksAll lexemes := by
  induction lexemes using dialect.classify_induction with
  | nil => rfl
  | pair lexeme next lexemes hrule ih =>
      rw [classify_of_keywordPair hrule, List.map_cons, withoutBlanksAll_cons, ih]
      simp only [String.toList_append, withoutBlanks_append, withoutBlanks_space,
        withoutBlanksAll_cons, List.nil_append, List.append_assoc]
  | single lexeme lexemes hrule ih =>
      rw [classify_of_ne_keywordPair hrule, List.map_cons, withoutBlanksAll_cons, ih,
        withoutBlanksAll_cons]

end Dialect

/-- Tokens hold the characters of a query, white space apart, and all of them in order; so there are
none only for a query of white space. -/
theorem tokenize_conserves_characters (dialect : Dialect) (query : String) :
    withoutBlanks (String.join ((dialect.tokenize query).map Token.value)).toList =
        withoutBlanks query.toList ∧
      (dialect.tokenize query = [] ↔ isBlankText query.toList = true) := by
  have hlexemes : withoutBlanksAll (segment query).lexemes = withoutBlanks query.toList := by
    have hspans : ∀ s ∈ Span.split query.toList, s.isBlank = isBlankText s.chars :=
      fun s hs => Span.isBlank_eq_of_mem_split hs
    rw [segment, Segmentation.withoutBlanksAll_lexemes hspans, Span.flatMap_chars_split]
  have htokens : withoutBlanks (String.join ((dialect.tokenize query).map Token.value)).toList =
      withoutBlanks query.toList := by
    rw [withoutBlanks_join, Dialect.tokenize, Dialect.withoutBlanksAll_classify, hlexemes]
  refine ⟨htokens, ?_, ?_⟩
  · intro hnone
    rw [hnone, List.map_nil, String.join_nil] at htokens
    exact withoutBlanks_eq_nil_iff.1 htokens.symm
  · intro hblank
    rw [← withoutBlanks_eq_nil_iff, ← hlexemes] at hblank
    have hnone : (segment query).lexemes = [] := by
      rw [List.eq_nil_iff_forall_not_mem]
      intro lexeme hlexeme
      have hempty := List.flatMap_eq_nil_iff.1 hblank lexeme hlexeme
      rw [withoutBlanks_eq_nil_iff, isBlankText_of_mem_lexemes hlexeme] at hempty
      cases hempty
    rw [Dialect.tokenize, hnone, Dialect.classify_nil]

end SqlLexer
