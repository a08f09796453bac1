import SqlLexer.Lexeme.Segmentation
import SqlLexer.Proofs.Span.Append

/-!
How a segmentation follows from the spans of a query. As long as no quote is left open the lexemes are
the visible spans; the first quote that nothing closes ends them with a fold. A query that leaves no
quote open may be continued without a change to its own lexemes.
-/

namespace SqlLexer

namespace Segmentation

/-- Further whole lexemes in front. -/
def prepend (lexemes : List String) (s : Segmentation) : Segmentation :=
  { s with whole := lexemes ++ s.whole }

@[simp] theorem prepend_mk (lexemes whole : List String) (fold : Option Fold) :
    prepend lexemes ⟨whole, fold⟩ = ⟨lexemes ++ whole, fold⟩ := rfl

@[simp] theorem prepend_nil (s : Segmentation) : s.prepend [] = s := rfl

theorem prepend_append (lexemes more : List String) (s : Segmentation) :
    s.prepend (lexemes ++ more) = (s.prepend more).prepend lexemes := by
  simp [prepend]

theorem lexemes_prepend (lexemes : List String) (s : Segmentation) :
    (s.prepend lexemes).lexemes = lexemes ++ s.lexemes :=
  List.append_assoc lexemes s.whole (s.fold.map Fold.text).toList

theorem isFolded_eq_false_iff {s : Segmentation} : s.isFolded = false ↔ s.fold = none := by
  rw [isFolded, Option.isSome_eq_false_iff, Option.isNone_iff_eq_none]

theorem lexemes_of_not_isFolded {s : Segmentation} (h : s.isFolded = false) :
    s.lexemes = s.whole := by
  rw [isFolded_eq_false_iff] at h
  simp [lexemes, h]

/-- No quote among some spans is left open. -/
def AllClosed (spans : List Span) : Prop := ∀ q : Quote, Span.stray q ∉ spans

theorem allClosed_nil : AllClosed [] := fun _ => List.not_mem_nil

theorem allClosed_cons_iff {s : Span} {spans : List Span} :
    AllClosed (s :: spans) ↔ (∀ q, s ≠ .stray q) ∧ AllClosed spans := by
  simp only [AllClosed, List.mem_cons, not_or, forall_and, ne_eq, eq_comm]

theorem visible_append (spans more : List Span) :
    visible (spans ++ more) = visible spans ++ visible more := by
  simp [visible]

theorem ofSpans_append {spans : List Span} (h : AllClosed spans) (more : List Span) :
    ofSpans (spans ++ more) = (ofSpans more).prepend (visible spans) := by
  induction spans with
  | nil => rfl
  | cons s spans ih =>
      obtain ⟨hs, hspans⟩ := allClosed_cons_iff.1 h
      have hrest := ih hspans
      cases s with
      | stray q => exact absurd rfl (hs q)
      | blank cs => exact hrest
      | string q body => exact congrArg (cons _) hrest
      | word cs => exact congrArg (cons _) hrest
      | number cs => exact congrArg (cons _) hrest
      | mark c => exact congrArg (cons _) hrest

theorem ofSpans_of_allClosed {spans : List Span} (h : AllClosed spans) :
    ofSpans spans = ⟨visible spans, none⟩ := by
  have happend := ofSpans_append h []
  rwa [List.append_nil, ofSpans_nil, prepend_mk, List.append_nil] at happend

theorem ofSpans_append_stray {spans : List Span} (h : AllClosed spans) (q : Quote)
    (more : List Span) :
    ofSpans (spans ++ .stray q :: more) =
      ⟨visible spans, some ⟨q, " ".intercalate (visible more)⟩⟩ := by
  rw [ofSpans_append h, ofSpans_stray_cons, prepend_mk, List.append_nil]

/-- Spans that are not all closed have a first quote that is left open. -/
theorem allClosed_or_exists_stray (spans : List Span) :
    AllClosed spans ∨
      ∃ before q after, AllClosed before ∧ spans = before ++ .stray q :: after := by
  induction spans with
  | nil => exact Or.inl allClosed_nil
  | cons s spans ih =>
      by_cases hs : ∀ q, s ≠ .stray q
      · rcases ih with hclosed | ⟨before, q, after, hclosed, rfl⟩
        · exact Or.inl (allClosed_cons_iff.2 ⟨hs, hclosed⟩)
        · exact Or.inr ⟨s :: before, q, after, allClosed_cons_iff.2 ⟨hs, hclosed⟩, rfl⟩
      · obtain ⟨q, rfl⟩ : ∃ q, s = .stray q := by simpa using hs
        exact Or.inr ⟨[], q, spans, allClosed_nil, rfl⟩

theorem mem_visible_iff {spans : List Span} {lexeme : String} :
    lexeme ∈ visible spans ↔ ∃ s ∈ spans, s.isBlank = false ∧ s.text = lexeme := by
  simp [visible, and_assoc]

theorem mem_lexemes_ofSpans {spans : List Span} {lexeme : String}
    (h : lexeme ∈ (ofSpans spans).lexemes) :
    (∃ s ∈ spans, s.isBlank = false ∧ s.text = lexeme) ∨
      ∃ f, (ofSpans spans).fold = some f ∧ f.text = lexeme := by
  rcases allClosed_or_exists_stray spans with hclosed | ⟨before, q, after, hclosed, rfl⟩
  · rw [ofSpans_of_allClosed hclosed, lexemes_of_not_isFolded rfl] at h
    exact Or.inl (mem_visible_iff.1 h)
  · rw [ofSpans_append_stray hclosed, lexemes, List.mem_append] at h
    rcases h with hwhole | hfold
    · obtain ⟨s, hs, hvisible⟩ := mem_visible_iff.1 hwhole
      exact Or.inl ⟨s, List.mem_append_left _ hs, hvisible⟩
    · rw [ofSpans_append_stray hclosed]
      exact Or.inr ⟨_, rfl, (List.mem_singleton.1 hfold).symm⟩

theorem isFolded_ofSpans_eq_false_iff {spans : List Span} :
    (ofSpans spans).isFolded = false ↔ AllClosed spans := by
  constructor
  · intro hfolded
    rcases allClosed_or_exists_stray spans with hclosed | ⟨before, q, after, hclosed, rfl⟩
    · exact hclosed
    · rw [ofSpans_append_stray hclosed] at hfolded
      cases hfolded
  · intro hclosed
    rw [ofSpans_of_allClosed hclosed]
    rfl

theorem ofSpans_cons {s : Span} (h : ∀ q, s ≠ .stray q) (spans : List Span) :
    ofSpans (s :: spans) = (ofSpans spans).prepend (visible [s]) :=
  ofSpans_append (allClosed_cons_iff.2 ⟨h, allClosed_nil⟩) spans

section

variable {α : Type} {f : List Span → α}
  (hf : ∀ blanks spans, f (.blank blanks :: spans) = f spans)

include hf

/-- White space in front of a text makes no difference to what passes over spans of white space. -/
theorem apply_split_dropWhile (cs : List Char) :
    f (Span.split (cs.dropWhile Text.isBlank)) = f (Span.split cs) := by
  cases cs with
  | nil => rfl
  | cons c cs =>
      rw [List.dropWhile_cons]
      split
      case isTrue hblank => rw [Span.split_of_reads (.blank hblank), hf]
      case isFalse => rfl

theorem apply_split_blank_append {blanks : List Char} (h : Text.isBlankText blanks = true)
    (cs : List Char) : f (Span.split (blanks ++ cs)) = f (Span.split cs) := by
  rw [← apply_split_dropWhile hf, List.dropWhile_append_of_pos (List.all_eq_true.1 h),
    apply_split_dropWhile hf]

end

/-- White space in front of a query makes no difference. -/
theorem ofSpans_split_blank_append {blanks : List Char} (h : Text.isBlankText blanks = true)
    (cs : List Char) : ofSpans (Span.split (blanks ++ cs)) = ofSpans (Span.split cs) :=
  apply_split_blank_append ofSpans_blank_cons h cs

/-- Two texts meet where no span but white space crosses from one into the other. -/
def Meet (cs ds : List Char) : Prop :=
  ∀ s ∈ (Span.split cs).getLast?, ∀ d ∈ ds.head?, s.isBlank = true ∨ s.runsOn d = false

/-- The lexemes of a text stay the same in its continuation. -/
theorem ofSpans_split_append {cs ds : List Char} (hclosed : AllClosed (Span.split cs))
    (hmeet : Meet cs ds) :
    ofSpans (Span.split (cs ++ ds)) =
      (ofSpans (Span.split ds)).prepend (visible (Span.split cs)) := by
  rw [Meet] at hmeet
  -- along the spans of the first text: only its last span can be aware of the second one
  fun_induction Span.split cs with
  | case1 => rfl
  | case2 c cs ih =>
      have hreads := Span.reads_next c cs
      obtain ⟨hstray, hrest⟩ := allClosed_cons_iff.1 hclosed
      by_cases hnil : (Span.next c cs).2 = []
      · rw [hnil, Span.split_nil] at hmeet ⊢
        rw [hnil] at hreads
        have hlast := hmeet (Span.next c cs).1 rfl
        cases hblank : (Span.next c cs).1.isBlank with
        | true =>
            have hchars := hreads.append
            rw [List.append_nil] at hchars
            rw [ofSpans_split_blank_append (by rw [← hchars, ← hreads.isBlank_eq, hblank])]
            simp [visible, hblank]
        | false =>
            have hstop : ∀ d ∈ ds.head?, (Span.next c cs).1.runsOn d = false :=
              fun d hd => (hlast d hd).resolve_left (by simp [hblank])
            have hcontinued := hreads.append_right hstray fun _ => hstop
            rw [Span.split_of_reads hcontinued, ofSpans_cons hstray, List.nil_append]
      · have hcontinued : Span.Reads (c :: cs ++ ds) _ _ :=
          hreads.append_right hstray fun hempty => absurd hempty hnil
        have hne := Span.split_ne_nil hnil
        rw [List.getLast?_cons_of_ne_nil hne] at hmeet
        rw [Span.split_of_reads hcontinued, ofSpans_cons hstray, ih hrest hmeet, ← prepend_append,
          ← visible_append, List.singleton_append]

end Segmentation

end SqlLexer
