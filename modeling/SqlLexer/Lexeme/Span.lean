import SqlLexer.Lexeme.Quote
import SqlLexer.Text.Blank

/-!
Spans: the pieces that a query falls into from left to right, white space included. What the next
span is depends on its first character alone, but for a quote, which begins a string only if the
string is closed further on, and is a span by itself otherwise. A word is made of ASCII letters,
digits and underscores, and does not begin with a digit.

The main statements: a query is the concatenation of its spans, and no span is empty.
-/

namespace SqlLexer

/-- The characters that a word begins with: an ASCII letter or an underscore. -/
def isWordStart (c : Char) : Bool := c.isAlpha || c == '_'

/-- The characters of a word: an ASCII letter, an ASCII digit or an underscore. -/
def isWordChar (c : Char) : Bool := c.isAlphanum || c == '_'

theorem isWordChar_of_isWordStart {c : Char} (h : isWordStart c = true) : isWordChar c = true := by
  simp only [isWordStart, isWordChar, Char.isAlphanum, Bool.or_eq_true] at h ⊢
  exact h.imp_left Or.inl

/-- Whether a text is a word as a whole. -/
def isWord : List Char → Bool
  | [] => false
  | c :: cs => isWordStart c && cs.all isWordChar

@[simp] theorem isWord_nil : isWord [] = false := rfl

@[simp] theorem isWord_cons (c : Char) (cs : List Char) :
    isWord (c :: cs) = (isWordStart c && cs.all isWordChar) := rfl

/-- A piece of a query. -/
inductive Span
  /-- A complete string, given by its quote and what stands between the two. -/
  | string (quote : Quote) (body : List Char)
  /-- A word. -/
  | word (chars : List Char)
  /-- ASCII digits, or ASCII digits around or before a decimal point. -/
  | number (chars : List Char)
  /-- A run of white space. -/
  | blank (chars : List Char)
  /-- A quote that nothing closes. -/
  | stray (quote : Quote)
  /-- Any other character by itself. -/
  | mark (char : Char)
  deriving DecidableEq, Repr

namespace Span

/-- The characters of a span. -/
def chars : Span → List Char
  | string q body => q.char :: body ++ [q.char]
  | word cs | number cs | blank cs => cs
  | stray q => [q.char]
  | mark c => [c]

/-- A span as a text. -/
def text (s : Span) : String := String.ofList s.chars

@[simp] theorem toList_text (s : Span) : s.text.toList = s.chars := by simp [text]

/-- Whether a span is white space. -/
def isBlank : Span → Bool
  | blank _ => true
  | _ => false

/-- The digits at the head of a text, with the decimal point and the digits that may follow them; and
the text behind. -/
def cutNumber (cs : List Char) : List Char × List Char :=
  match cs.dropWhile Char.isDigit with
  | '.' :: rest =>
    (cs.takeWhile Char.isDigit ++ '.' :: rest.takeWhile Char.isDigit, rest.dropWhile Char.isDigit)
  | rest => (cs.takeWhile Char.isDigit, rest)

theorem cutNumber_append (cs : List Char) : (cutNumber cs).1 ++ (cutNumber cs).2 = cs := by
  unfold cutNumber
  split
  case h_1 rest h =>
    rw [List.append_assoc, List.cons_append, List.takeWhile_append_dropWhile, ← h,
      List.takeWhile_append_dropWhile]
  case h_2 => exact List.takeWhile_append_dropWhile

/-- The first span of the text `c :: cs`, and the text behind it. -/
def next (c : Char) (cs : List Char) : Span × List Char :=
  match Quote.ofChar? c with
  | some q =>
    match q.close? cs with
    | some (body, rest) => (string q body, rest)
    | none => (stray q, cs)
  | none =>
    if isWordStart c then
      (word (c :: cs.takeWhile isWordChar), cs.dropWhile isWordChar)
    else if c.isDigit then
      let (digits, rest) := cutNumber cs
      (number (c :: digits), rest)
    else if Text.isBlank c then
      (blank (c :: cs.takeWhile Text.isBlank), cs.dropWhile Text.isBlank)
    else
      (mark c, cs)

theorem next_append (c : Char) (cs : List Char) :
    (next c cs).1.chars ++ (next c cs).2 = c :: cs := by
  unfold next
  split
  case h_1 q hq =>
    obtain rfl := Quote.ofChar?_eq_some_iff.1 hq
    split
    case h_1 body rest hclose => simp [chars, Quote.append_of_close? hclose]
    case h_2 => rfl
  case h_2 =>
    split
    · simp [chars]
    · split
      · simp [chars, cutNumber_append]
      · split <;> simp [chars]

theorem chars_ne_nil_next (c : Char) (cs : List Char) : (next c cs).1.chars ≠ [] := by
  unfold next
  split
  · split <;> simp [chars]
  · split
    · simp [chars]
    · split
      · simp [chars]
      · split <;> simp [chars]

theorem length_next_le (c : Char) (cs : List Char) : (next c cs).2.length ≤ cs.length := by
  have happend := congrArg List.length (next_append c cs)
  have hpos := List.length_pos_iff.2 (chars_ne_nil_next c cs)
  simp only [List.length_append, List.length_cons] at happend
  omega

/-- The spans of a text, from left to right. -/
def split : List Char → List Span
  | [] => []
  | c :: cs => (next c cs).1 :: split (next c cs).2
termination_by cs => cs.length
decreasing_by
  have := length_next_le c cs
  simp only [List.length_cons]
  omega

@[simp] theorem split_nil : split [] = [] := by rw [split]

theorem split_cons (c : Char) (cs : List Char) :
    split (c :: cs) = (next c cs).1 :: split (next c cs).2 := by rw [split]

/-- A text is the concatenation of its spans. -/
theorem flatMap_chars_split (cs : List Char) : (split cs).flatMap chars = cs := by
  fun_induction split cs with
  | case1 => rfl
  | case2 c cs ih => rw [List.flatMap_cons, ih, next_append]

theorem chars_ne_nil_of_mem_split {cs : List Char} {s : Span} (h : s ∈ split cs) : s.chars ≠ [] := by
  fun_induction split cs with
  | case1 => simp at h
  | case2 c cs ih =>
      rcases List.mem_cons.1 h with rfl | h
      · exact chars_ne_nil_next c cs
      · exact ih h

end Span

end SqlLexer
