import SqlLexer.Lexeme.Span

/-!
What the first span of a text can be, case by case. The classes of characters that a span may begin
with exclude each other, so a text has one first span only.
-/

namespace SqlLexer

/-! The classes of characters by code points. -/

theorem isDigit_iff {c : Char} : c.isDigit = true ↔ 48 ≤ c.toNat ∧ c.toNat ≤ 57 := by
  simp [Char.isDigit, UInt32.le_iff_toNat_le, ← Char.toNat_val]

theorem isWordStart_iff {c : Char} :
    isWordStart c = true ↔
      (65 ≤ c.toNat ∧ c.toNat ≤ 90) ∨ (97 ≤ c.toNat ∧ c.toNat ≤ 122) ∨ c.toNat = 95 := by
  have hunderscore : c = '_' ↔ c.toNat = 95 := Char.toNat_inj.symm
  have hclasses : isWordStart c = ((decide (c.val ≥ 65 ∧ c.val ≤ 90) ||
    (decide (c.val ≥ 97) && decide (c.val ≤ 122))) || c == '_') := rfl
  simp [hclasses, UInt32.le_iff_toNat_le, ← Char.toNat_val, hunderscore, or_assoc]

theorem isWordChar_iff {c : Char} :
    isWordChar c = true ↔ isWordStart c = true ∨ c.isDigit = true := by
  simp only [isWordChar, isWordStart, Char.isAlphanum, Bool.or_eq_true]
  exact or_right_comm

theorem Text.isBlank_iff {c : Char} :
    isBlank c = true ↔
      (9 ≤ c.toNat ∧ c.toNat ≤ 13) ∨ c.toNat = 32 ∨ c.toNat = 133 ∨ c.toNat = 160 ∨
        c.toNat = 5760 ∨ (8192 ≤ c.toNat ∧ c.toNat ≤ 8202) ∨ c.toNat = 8232 ∨ c.toNat = 8233 ∨
        c.toNat = 8239 ∨ c.toNat = 8287 ∨ c.toNat = 12288 := by
  simp [isBlank, or_assoc]

theorem isWordChar_of_isDigit {c : Char} (h : c.isDigit = true) : isWordChar c = true :=
  isWordChar_iff.2 (Or.inr h)

theorem isWordChar_eq_false_iff {c : Char} :
    isWordChar c = false ↔ isWordStart c = false ∧ c.isDigit = false := by
  rw [Bool.eq_false_iff, ne_eq, isWordChar_iff, not_or, Bool.not_eq_true, Bool.not_eq_true]

theorem not_isWordStart_of_isDigit {c : Char} (h : c.isDigit = true) : isWordStart c = false := by
  rw [isDigit_iff] at h
  rw [Bool.eq_false_iff, ne_eq, isWordStart_iff]
  omega

/-- White space has no part in words. -/
theorem not_isBlank_of_isWordChar {c : Char} (h : isWordChar c = true) : Text.isBlank c = false := by
  rw [isWordChar_iff, isWordStart_iff, isDigit_iff] at h
  rw [Bool.eq_false_iff, ne_eq, Text.isBlank_iff]
  omega

theorem not_isWordChar_of_isBlank {c : Char} (h : Text.isBlank c = true) : isWordChar c = false := by
  rw [Bool.eq_false_iff]
  intro hword
  rw [not_isBlank_of_isWordChar hword] at h
  cases h

namespace Quote

theorem char_injective : Function.Injective char := by
  intro q r h
  cases q <;> cases r <;> first | rfl | cases h

@[simp] theorem isWordStart_char (q : Quote) : isWordStart q.char = false := by
  cases q <;> rfl

@[simp] theorem isDigit_char (q : Quote) : q.char.isDigit = false := by
  cases q <;> rfl

@[simp] theorem isWordChar_char (q : Quote) : isWordChar q.char = false := by
  cases q <;> rfl

@[simp] theorem isBlank_char (q : Quote) : Text.isBlank q.char = false := by
  cases q <;> rfl

theorem ofChar?_eq_none_iff {c : Char} : ofChar? c = none ↔ ∀ q : Quote, c ≠ q.char := by
  rw [Option.eq_none_iff_forall_ne_some]
  simp only [ne_eq, ofChar?_eq_some_iff]

theorem ofChar?_eq_none_of_isWordChar {c : Char} (h : isWordChar c = true) : ofChar? c = none := by
  rw [ofChar?_eq_none_iff]
  rintro q rfl
  rw [isWordChar_char] at h
  cases h

theorem ofChar?_eq_none_of_isBlank {c : Char} (h : Text.isBlank c = true) : ofChar? c = none := by
  rw [ofChar?_eq_none_iff]
  rintro q rfl
  rw [isBlank_char] at h
  cases h

end Quote

/-- A mark stands for itself: it is no quote, and neither begins a word, a number or white space. -/
def isMark (c : Char) : Bool :=
  (Quote.ofChar? c).isNone && !isWordStart c && !c.isDigit && !Text.isBlank c

namespace Span

/-- A text, its first span, and what the span leaves of it. -/
inductive Reads : List Char → Span → List Char → Prop
  | string {q : Quote} {cs body rest : List Char} (hclose : q.close? cs = some (body, rest)) :
      Reads (q.char :: cs) (string q body) rest
  | word {c : Char} {cs : List Char} (hstart : isWordStart c = true) :
      Reads (c :: cs) (word (c :: cs.takeWhile isWordChar)) (cs.dropWhile isWordChar)
  | number {c : Char} {cs : List Char} (hdigit : c.isDigit = true) :
      Reads (c :: cs) (number (c :: (cutNumber cs).1)) (cutNumber cs).2
  | blank {c : Char} {cs : List Char} (hblank : Text.isBlank c = true) :
      Reads (c :: cs) (blank (c :: cs.takeWhile Text.isBlank)) (cs.dropWhile Text.isBlank)
  | stray {q : Quote} {cs : List Char} (hopen : q.close? cs = none) :
      Reads (q.char :: cs) (stray q) cs
  | mark {c : Char} {cs : List Char} (hmark : isMark c = true) : Reads (c :: cs) (mark c) cs

/-- Every text but the empty one has a first span. -/
theorem reads_next (c : Char) (cs : List Char) : Reads (c :: cs) (next c cs).1 (next c cs).2 := by
  unfold next
  split
  case h_1 q hq =>
    obtain rfl := Quote.ofChar?_eq_some_iff.1 hq
    split
    case h_1 body rest hclose => exact .string hclose
    case h_2 hopen => exact .stray hopen
  case h_2 hq =>
    split
    case isTrue hstart => exact .word hstart
    case isFalse hstart =>
      split
      case isTrue hdigit => exact .number hdigit
      case isFalse hdigit =>
        split
        case isTrue hblank => exact .blank hblank
        case isFalse hblank => exact .mark (by simp [isMark, hq, hstart, hdigit, hblank])

/-- There is only one first span. -/
theorem next_eq_of_reads {c : Char} {cs rest : List Char} {s : Span}
    (h : Reads (c :: cs) s rest) : next c cs = (s, rest) := by
  cases h with
  | string hclose => simp [next, hclose]
  | stray hopen => simp [next, hopen]
  | word hstart =>
      have hquote := Quote.ofChar?_eq_none_of_isWordChar (isWordChar_of_isWordStart hstart)
      simp [next, hquote, hstart]
  | number hdigit =>
      have hquote := Quote.ofChar?_eq_none_of_isWordChar (isWordChar_of_isDigit hdigit)
      simp [next, hquote, hdigit, not_isWordStart_of_isDigit hdigit]
  | blank hblank =>
      have hquote := Quote.ofChar?_eq_none_of_isBlank hblank
      obtain ⟨hstart, hdigit⟩ := isWordChar_eq_false_iff.1 (not_isWordChar_of_isBlank hblank)
      simp [next, hquote, hstart, hdigit, hblank]
  | mark hmark =>
      simp only [isMark, Bool.and_eq_true, Option.isNone_iff_eq_none, Bool.not_eq_true'] at hmark
      obtain ⟨⟨⟨hquote, hstart⟩, hdigit⟩, hblank⟩ := hmark
      simp [next, hquote, hstart, hdigit, hblank]

theorem Reads.unique {cs rest rest' : List Char} {s s' : Span} (h : Reads cs s rest)
    (h' : Reads cs s' rest') : s = s' ∧ rest = rest' := by
  cases cs with
  | nil => cases h
  | cons c cs =>
      have heq := (next_eq_of_reads h).symm.trans (next_eq_of_reads h')
      exact Prod.mk.inj heq

/-- The first span and what it leaves make up the text. -/
theorem Reads.append {cs rest : List Char} {s : Span} (h : Reads cs s rest) :
    s.chars ++ rest = cs := by
  cases cs with
  | nil => cases h
  | cons c cs =>
      have happend := next_append c cs
      rwa [next_eq_of_reads h] at happend

/-- Every span of a text has been read from some part of the text. -/
theorem reads_of_mem_split {cs : List Char} {s : Span} (h : s ∈ split cs) :
    ∃ text rest, Reads text s rest := by
  fun_induction split cs with
  | case1 => cases h
  | case2 c cs ih =>
      rcases List.mem_cons.1 h with rfl | h
      · exact ⟨c :: cs, _, reads_next c cs⟩
      · exact ih h

/-- The spans of white space are those that hold nothing else. -/
theorem Reads.isBlank_eq {cs rest : List Char} {s : Span} (h : Reads cs s rest) :
    s.isBlank = Text.isBlankText s.chars := by
  cases h with
  | string hclose => simp [isBlank, chars]
  | stray hopen => simp [isBlank, chars]
  | word hstart =>
      simp [isBlank, chars, not_isBlank_of_isWordChar (isWordChar_of_isWordStart hstart)]
  | number hdigit =>
      simp [isBlank, chars, not_isBlank_of_isWordChar (isWordChar_of_isDigit hdigit)]
  | blank hblank =>
      simp only [isBlank, chars, Text.isBlankText_cons, hblank, Bool.true_and]
      exact List.all_takeWhile.symm
  | mark hmark => simp_all [isBlank, chars, isMark]

theorem isBlank_eq_of_mem_split {cs : List Char} {s : Span} (h : s ∈ split cs) :
    s.isBlank = Text.isBlankText s.chars := by
  obtain ⟨text, rest, hreads⟩ := reads_of_mem_split h
  exact hreads.isBlank_eq

/-- A span that looks like a quote by itself is a quote that nothing closes. -/
theorem Reads.eq_stray {cs rest : List Char} {s : Span} (h : Reads cs s rest) {q : Quote}
    (hchars : s.chars = [q.char]) : s = Span.stray q := by
  cases h with
  | string hclose => simp [chars] at hchars
  | stray hopen => rw [Quote.char_injective (List.singleton_inj.1 hchars)]
  | word hstart => simp_all [chars]
  | number hdigit => simp_all [chars]
  | blank hblank => simp_all [chars]
  | mark hmark => simp_all [chars, isMark]

end Span

end SqlLexer
