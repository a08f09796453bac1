import Mathlib.Data.List.TakeWhile
import SqlLexer.Lexeme.Shape
import SqlLexer.Proofs.Pattern.Lexeme
import SqlLexer.Proofs.Segmentation

/-!
The kinds of lexemes: strings, words, numbers and marks, each given as a language. A text belongs to
one kind at most, and then it is a query of one lexeme; every lexeme of a query belongs to a kind, a
fold excepted. The recognizers of shapes tell the kinds apart.
-/

namespace SqlLexer

/-- The kinds of lexemes that are read whole. -/
inductive LexemeKind
  | quoted
  | word
  | number
  | mark
  deriving DecidableEq, Repr

/-- The texts of a kind. -/
def LexemeKind.language : LexemeKind → Language Char
  | quoted => {s | ∃ q, s ∈ (Pattern.quoted q).language}
  | word => Pattern.word.language
  | number => Pattern.number.language
  | mark => {s | ∃ c, isMark c = true ∧ s = [c]}

/-- A text that is a lexeme wherever it stands apart from its neighbours. -/
def IsLexeme (text : String) : Prop := ∃ kind : LexemeKind, text.toList ∈ kind.language

namespace Pattern

theorem mem_language_iff_nil_mem_rests {p : Pattern} {cs : List Char} :
    cs ∈ p.language ↔ [] ∈ p.rests cs := by
  simp [mem_rests_iff]

theorem chars_mem_language {p : Pattern} {cs rest : List Char} {s : Span}
    (h : Span.Reads cs s rest) (hp : p.rest? cs = some rest) : s.chars ∈ p.language := by
  obtain ⟨t, ht, happend⟩ := (mem_rests_iff _ _ _).1 (List.mem_of_head? hp)
  rwa [List.append_cancel_right (h.append.trans happend.symm)]

theorem rest?_ne_none_of_mem_language {p : Pattern} {cs : List Char} (h : cs ∈ p.language) :
    p.rest? cs ≠ none := by
  rw [mem_language_iff_nil_mem_rests] at h
  rw [rest?, ne_eq, List.head?_eq_none_iff]
  exact List.ne_nil_of_mem h

/-- A text that one of the patterns matches as a whole is a single span. -/
theorem eq_nil_of_mem_language {p : Pattern} (hp : p ∈ alternatives) {cs rest : List Char}
    {s : Span} (h : Span.Reads cs s rest) (hcs : cs ∈ p.language) : rest = [] := by
  cases cs with
  | nil => cases h
  | cons c cs =>
      have hle := length_le_of_mem_rests h hp (mem_language_iff_nil_mem_rests.1 hcs)
      exact List.eq_nil_of_length_eq_zero (Nat.le_zero.1 hle)

end Pattern

namespace Span

/-- The kind of lexeme that a span is. White space is none, and neither is a quote that nothing
closes. -/
def kind? : Span → Option LexemeKind
  | string _ _ => some .quoted
  | word _ => some .word
  | number _ => some .number
  | mark _ => some .mark
  | blank _ | stray _ => none

theorem exists_kind_of_visible {s : Span} (hblank : s.isBlank = false)
    (hstray : ∀ q, s ≠ .stray q) : ∃ kind, s.kind? = some kind := by
  cases s with
  | string q body => exact ⟨_, rfl⟩
  | word cs => exact ⟨_, rfl⟩
  | number cs => exact ⟨_, rfl⟩
  | mark c => exact ⟨_, rfl⟩
  | blank cs => cases hblank
  | stray q => exact absurd rfl (hstray q)

/-- A span belongs to the language of its kind. -/
theorem Reads.mem_language {cs rest : List Char} {s : Span} (h : Reads cs s rest)
    {kind : LexemeKind} (hkind : s.kind? = some kind) : s.chars ∈ kind.language := by
  have hreads := h
  cases h with
  | @string q cs body _ hclose =>
      obtain rfl : LexemeKind.quoted = kind := Option.some_inj.1 hkind
      refine ⟨q, Pattern.chars_mem_language hreads ?_⟩
      rw [Pattern.rest?_quoted, if_pos rfl, hclose, Option.map_some]
  | word hstart =>
      obtain rfl : LexemeKind.word = kind := Option.some_inj.1 hkind
      apply Pattern.chars_mem_language hreads
      rw [Pattern.rest?_word, if_pos hstart]
  | number hdigit =>
      obtain rfl : LexemeKind.number = kind := Option.some_inj.1 hkind
      apply Pattern.chars_mem_language hreads
      rw [Pattern.rest?_number, if_pos hdigit]
  | @mark c _ hmark =>
      obtain rfl : LexemeKind.mark = kind := Option.some_inj.1 hkind
      exact ⟨c, hmark, rfl⟩
  | blank hblank => cases hkind
  | stray hopen => cases hkind

/-- A text of some kind is read as one span of this kind. -/
theorem exists_reads_of_mem_language {cs : List Char} {kind : LexemeKind}
    (h : cs ∈ kind.language) : ∃ s, Reads cs s [] ∧ s.kind? = some kind := by
  cases kind with
  | quoted =>
      obtain ⟨q, hq⟩ := h
      have hmem := Pattern.mem_language_iff_nil_mem_rests.1 hq
      cases cs with
      | nil => exact absurd hmem List.not_mem_nil
      | cons c cs =>
          obtain ⟨rfl, body, hclose⟩ := Pattern.mem_rests_quoted.1 hmem
          exact ⟨.string q body, .string hclose, rfl⟩
  | word =>
      have hrest := Pattern.rest?_ne_none_of_mem_language h
      cases cs with
      | nil => exact absurd rfl hrest
      | cons c cs =>
          rw [Pattern.rest?_word, ne_eq, ite_eq_right_iff, Classical.not_imp] at hrest
          have hreads : Reads (c :: cs) _ _ := .word hrest.1
          rw [Pattern.eq_nil_of_mem_language (by simp [Pattern.alternatives]) hreads h] at hreads
          exact ⟨_, hreads, rfl⟩
  | number =>
      have hrest := Pattern.rest?_ne_none_of_mem_language h
      cases cs with
      | nil => exact absurd rfl hrest
      | cons c cs =>
          rw [Pattern.rest?_number, ne_eq, ite_eq_right_iff, Classical.not_imp] at hrest
          have hreads : Reads (c :: cs) _ _ := .number hrest.1
          rw [Pattern.eq_nil_of_mem_language (by simp [Pattern.alternatives]) hreads h] at hreads
          exact ⟨_, hreads, rfl⟩
  | mark =>
      obtain ⟨c, hmark, rfl⟩ := h
      exact ⟨.mark c, .mark hmark, rfl⟩

theorem mem_language_iff {cs : List Char} {kind : LexemeKind} :
    cs ∈ kind.language ↔ ∃ s, Reads cs s [] ∧ s.kind? = some kind := by
  constructor
  · exact exists_reads_of_mem_language
  · rintro ⟨s, hreads, hkind⟩
    have hchars := hreads.append
    rw [List.append_nil] at hchars
    rw [← hchars]
    exact hreads.mem_language hkind

end Span

/-- No text belongs to two kinds. -/
theorem LexemeKind.eq_of_mem_language {cs : List Char} {kind kind' : LexemeKind}
    (h : cs ∈ kind.language) (h' : cs ∈ kind'.language) : kind = kind' := by
  obtain ⟨s, hreads, hkind⟩ := Span.mem_language_iff.1 h
  obtain ⟨s', hreads', hkind'⟩ := Span.mem_language_iff.1 h'
  obtain ⟨rfl, -⟩ := hreads.unique hreads'
  exact Option.some_inj.1 (hkind.symm.trans hkind')

/-! The recognizers of shapes tell the kinds apart. -/

theorem isUnsignedNumber_cons_of_isDigit {c : Char} (h : c.isDigit = true) (cs : List Char) :
    isUnsignedNumber (c :: cs) = true ↔ (Span.cutNumber cs).2 = [] := by
  rw [isUnsignedNumber, List.takeWhile_cons_of_pos h, List.dropWhile_cons_of_pos h, Span.cutNumber]
  cases cs.dropWhile Char.isDigit with
  | nil => simp
  | cons d fraction =>
      by_cases hpoint : d = '.'
      · subst hpoint
        simp
      · simp [hpoint]

theorem isUnsignedNumber_cons_of_ne {c : Char} (hdigit : c.isDigit = false) (hpoint : c ≠ '.')
    (cs : List Char) : isUnsignedNumber (c :: cs) = false := by
  simp [isUnsignedNumber, hdigit, hpoint]

theorem isNumeric_of_toList {text : String} {c : Char} {cs : List Char}
    (h : text.toList = c :: cs) (hplus : c ≠ '+') (hminus : c ≠ '-') :
    isNumeric text = isUnsignedNumber (c :: cs) := by
  rw [isNumeric, h]
  split
  case h_1 => simp_all
  case h_2 => simp_all
  case h_3 => rfl

/-- A number begins with a digit, a point or a sign. -/
theorem isNumeric_eq_false {text : String} {c : Char} {cs : List Char} (h : text.toList = c :: cs)
    (hdigit : c.isDigit = false) (hother : c ∉ ['+', '-', '.']) : isNumeric text = false := by
  simp only [List.mem_cons, List.not_mem_nil, or_false, not_or] at hother
  rw [isNumeric_of_toList h hother.1 hother.2.1, isUnsignedNumber_cons_of_ne hdigit hother.2.2]

theorem isQuoted_eq_false {text : String} {c : Char} {cs : List Char} (h : text.toList = c :: cs)
    (hquote : Quote.ofChar? c = none) : isQuoted text = false := by
  rw [isQuoted, h]
  cases cs with
  | nil => rfl
  | cons d cs => simp [hquote]

/-- The recognizers of shapes tell the kinds apart. -/
theorem recognizers_eq_decide {text : String} {kind : LexemeKind}
    (h : text.toList ∈ kind.language) :
    isQuoted text = decide (kind = .quoted) ∧
      isWord text.toList = decide (kind = .word) ∧
      isNumeric text = decide (kind = .number) := by
  obtain ⟨s, hreads, hkind⟩ := Span.mem_language_iff.1 h
  generalize hcs : text.toList = cs at hreads ⊢
  generalize hnil : ([] : List Char) = rest at hreads
  cases hreads with
  | @string q cs body _ hclose =>
      subst hnil
      obtain rfl : LexemeKind.quoted = kind := Option.some_inj.1 hkind
      have hbody := Quote.append_of_close? hclose
      refine ⟨?_, by simp, isNumeric_eq_false hcs q.isDigit_char (by cases q <;> decide)⟩
      rw [isQuoted, hcs, ← hbody]
      cases body <;> simp [List.getLast?_cons]
  | @word c cs hstart =>
      obtain rfl : LexemeKind.word = kind := Option.some_inj.1 hkind
      have hchar := isWordChar_of_isWordStart hstart
      have hquoted := isQuoted_eq_false hcs (Quote.ofChar?_eq_none_of_isWordChar hchar)
      have hall : cs.all isWordChar = true :=
        List.all_eq_true.2 (List.dropWhile_eq_nil_iff.1 hnil.symm)
      refine ⟨hquoted, by simp [hstart, hall], isNumeric_eq_false hcs ?_ ?_⟩
      · rw [Bool.eq_false_iff]
        intro hdigit
        rw [not_isWordStart_of_isDigit hdigit] at hstart
        cases hstart
      · intro hother
        simp only [List.mem_cons, List.not_mem_nil, or_false] at hother
        rcases hother with rfl | rfl | rfl <;> cases hstart
  | number hdigit =>
      obtain rfl : LexemeKind.number = kind := Option.some_inj.1 hkind
      have hquote := Quote.ofChar?_eq_none_of_isWordChar (isWordChar_of_isDigit hdigit)
      refine ⟨isQuoted_eq_false hcs hquote, by simp [not_isWordStart_of_isDigit hdigit], ?_⟩
      rw [isNumeric_of_toList hcs]
      · exact (isUnsignedNumber_cons_of_isDigit hdigit _).2 hnil.symm
      · rintro rfl
        cases hdigit
      · rintro rfl
        cases hdigit
  | @mark c _ hmark =>
      subst hnil
      obtain rfl : LexemeKind.mark = kind := Option.some_inj.1 hkind
      simp only [isMark, Bool.and_eq_true, Option.isNone_iff_eq_none, Bool.not_eq_true'] at hmark
      obtain ⟨⟨⟨hquote, hstart⟩, hdigit⟩, -⟩ := hmark
      refine ⟨isQuoted_eq_false hcs hquote, by simp [hstart], ?_⟩
      by_cases hother : c ∈ ['+', '-', '.']
      · -- a sign or a point is no number without a digit
        simp only [List.mem_cons, List.not_mem_nil, or_false] at hother
        rcases hother with rfl | rfl | rfl <;> (rw [isNumeric, hcs]; rfl)
      · exact isNumeric_eq_false hcs hdigit hother
  | blank hblank => cases hkind
  | stray hopen => cases hkind

/-! Lexemes in queries. -/

namespace Segmentation

theorem ofSpans_cons_of_kind {s : Span} {kind : LexemeKind} (h : s.kind? = some kind)
    (spans : List Span) : ofSpans (s :: spans) = (ofSpans spans).cons s.text := by
  cases s with
  | string q body => rfl
  | word cs => rfl
  | number cs => rfl
  | mark c => rfl
  | blank cs => cases h
  | stray q => cases h

theorem mem_whole_ofSpans {spans : List Span} {lexeme : String}
    (h : lexeme ∈ (ofSpans spans).whole) :
    ∃ s ∈ spans, (∃ kind, s.kind? = some kind) ∧ s.text = lexeme := by
  have hvisible {read : List Span} (hclosed : AllClosed read) (hlexeme : lexeme ∈ visible read) :
      ∃ s ∈ read, (∃ kind, s.kind? = some kind) ∧ s.text = lexeme := by
    obtain ⟨s, hs, hblank, htext⟩ := mem_visible_iff.1 hlexeme
    refine ⟨s, hs, Span.exists_kind_of_visible hblank ?_, htext⟩
    rintro q rfl
    exact hclosed q hs
  rcases allClosed_or_exists_stray spans with hclosed | ⟨before, q, after, hclosed, rfl⟩
  · rw [ofSpans_of_allClosed hclosed] at h
    exact hvisible hclosed h
  · rw [ofSpans_append_stray hclosed] at h
    obtain ⟨s, hs, hlexeme⟩ := hvisible hclosed h
    exact ⟨s, List.mem_append_left _ hs, hlexeme⟩

end Segmentation

/-- A lexeme by itself is a query of this one lexeme. -/
theorem segment_of_isLexeme {text : String} (h : IsLexeme text) :
    segment text = ⟨[text], none⟩ := by
  obtain ⟨kind, hmem⟩ := h
  obtain ⟨s, hreads, hkind⟩ := Span.mem_language_iff.1 hmem
  have hchars := hreads.append
  rw [List.append_nil] at hchars
  rw [segment, Span.split_of_reads hreads, Segmentation.ofSpans_cons_of_kind hkind, Span.split_nil,
    Span.text, hchars, String.ofList_toList]
  rfl

/-- Every lexeme of a query is one by itself, a fold excepted. -/
theorem isLexeme_of_mem_whole {query lexeme : String} (h : lexeme ∈ (segment query).whole) :
    IsLexeme lexeme := by
  obtain ⟨s, hs, ⟨kind, hkind⟩, rfl⟩ := Segmentation.mem_whole_ofSpans h
  obtain ⟨text, rest, hreads⟩ := Span.reads_of_mem_split hs
  refine ⟨kind, ?_⟩
  rw [Span.toList_text]
  exact hreads.mem_language hkind

theorem isLexeme_iff_segment {text : String} : IsLexeme text ↔ segment text = ⟨[text], none⟩ := by
  constructor
  · exact segment_of_isLexeme
  · intro hsegment
    apply isLexeme_of_mem_whole
    rw [hsegment]
    exact List.mem_singleton_self text

instance : DecidablePred IsLexeme := fun _ => decidable_of_iff _ isLexeme_iff_segment.symm

end SqlLexer
