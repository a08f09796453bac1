import SqlLexer.Text.GraphemeExtend
import SqlLexer.Text.Unprintable

/-!
Texts written in double quotes on one line, so that every character can be seen: quote, backslash and
the common controls have short escapes, and whatever would not show by itself is written by its code
point, as `\u` and a hexadecimal number in braces. All else stands for itself.

The characters that do not show by themselves are the unprintable ones, the marks that are drawn onto
the character before them, and the fillers, which by category are letters but are drawn as nothing. The
main statements: the look-ups find just these characters, and no line feed gets into the written text.
-/

namespace SqlLexer.Text

/-- The voiced and semi-voiced sound marks of halfwidth Katakana. They extend a grapheme like a
combining mark, but are drawn in a cell of their own. -/
def halfwidthSoundMarks : CodePoints := [(0xFF9E, 0xFF9F)]

/-- The fillers of Hangul: the letters with the property Default_Ignorable_Code_Point, which stand for
a missing part of a syllable. -/
def hangulFillers : CodePoints := [(0x115F, 0x1160), (0x3164, 0x3164), (0xFFA0, 0xFFA0)]

/-- Whether a character is drawn onto the one before it. -/
def isOverlaid (c : Char) : Bool :=
  graphemeExtend.contains c.toNat && !halfwidthSoundMarks.contains c.toNat

/-- Whether a character is drawn at all. -/
def isDrawn (c : Char) : Bool :=
  !(unprintable.contains c.toNat || hangulFillers.contains c.toNat)

/-- Whether a character does not show by itself. -/
def isHidden (c : Char) : Bool := isOverlaid c || !isDrawn c

/-- The hidden characters are the overlaid marks, all but the two that have a cell of their own, and
those that are not drawn. -/
theorem isHidden_iff {c : Char} :
    isHidden c = true ↔
      (graphemeExtend.Covers c.toNat ∧ ¬ halfwidthSoundMarks.Covers c.toNat) ∨
        unprintable.Covers c.toNat ∨ hangulFillers.Covers c.toNat := by
  have hmarks : CodePoints.isOrderedFrom 0 halfwidthSoundMarks = true := by decide
  have hfillers : CodePoints.isOrderedFrom 0 hangulFillers = true := by decide
  rw [← CodePoints.contains_iff isOrderedFrom_graphemeExtend, ← CodePoints.contains_iff hmarks,
    ← CodePoints.contains_iff isOrderedFrom_unprintable, ← CodePoints.contains_iff hfillers]
  simp [isHidden, isOverlaid, isDrawn]

/-- The short escape of a character, without its backslash. -/
def shortEscape? : Char → Option Char
  | '\x00' => some '0'
  | '\t' => some 't'
  | '\n' => some 'n'
  | '\r' => some 'r'
  | '"' => some '"'
  | '\\' => some '\\'
  | _ => none

/-- The escape of a character by its code point: lower-case hexadecimal digits, no leading zeros. -/
def codePointEscape (c : Char) : List Char :=
  ['\\', 'u', '\x7b'] ++ Nat.toDigits 16 c.toNat ++ ['\x7d']

/-- How one character is written between the quotes. -/
def escapeChar (c : Char) : List Char :=
  match shortEscape? c with
  | some short => ['\\', short]
  | none => if isHidden c then codePointEscape c else [c]

/-- How a text is written between the quotes: character by character. -/
def escape (cs : List Char) : List Char := cs.flatMap escapeChar

/-- Hexadecimal digits are the lower-case ones. -/
theorem mem_toDigits_sixteen {n : Nat} {c : Char} (h : c ∈ Nat.toDigits 16 n) :
    c ∈ "0123456789abcdef".toList := by
  have hdigit : ∀ d < 16, Nat.digitChar d ∈ "0123456789abcdef".toList := by decide
  induction n using Nat.strongRecOn with
  | ind n ih =>
      rw [Nat.toDigits_eq_if (by decide)] at h
      split at h
      case isTrue hn =>
        rw [List.mem_singleton] at h
        exact h ▸ hdigit n hn
      case isFalse hn =>
        rcases List.mem_append.1 h with h | h
        · exact ih (n / 16) (by omega) h
        · rw [List.mem_singleton] at h
          exact h ▸ hdigit (n % 16) (Nat.mod_lt _ (by decide))

theorem lineFeed_notMem_escapeChar (c : Char) : '\n' ∉ escapeChar c := by
  unfold escapeChar shortEscape?
  split
  case h_1 short h => split at h <;> simp at h <;> subst h <;> decide
  case h_2 h =>
    have hc : '\n' ≠ c := by
      rintro rfl
      simp at h
    split
    · intro hmem
      simp only [codePointEscape, List.mem_append] at hmem
      rcases hmem with (hmem | hmem) | hmem
      · revert hmem; decide
      · have := mem_toDigits_sixteen hmem
        revert this; decide
      · revert hmem; decide
    · simpa using hc

@[simp] theorem escape_nil : escape [] = [] := rfl

@[simp] theorem escape_cons (c : Char) (cs : List Char) :
    escape (c :: cs) = escapeChar c ++ escape cs := by simp [escape]

@[simp] theorem escape_append (cs ds : List Char) : escape (cs ++ ds) = escape cs ++ escape ds := by
  simp [escape]

/-- No text is written with a line feed. -/
theorem lineFeed_notMem_escape (cs : List Char) : '\n' ∉ escape cs := by
  simp only [escape, List.mem_flatMap, not_exists, not_and]
  exact fun c _ => lineFeed_notMem_escapeChar c

/-- The text in double quotes. -/
def quoted (s : String) : String := String.ofList ('"' :: escape s.toList ++ ['"'])

@[simp] theorem toList_quoted (s : String) :
    (quoted s).toList = '"' :: escape s.toList ++ ['"'] := by simp [quoted]

end SqlLexer.Text
