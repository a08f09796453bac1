/-!
Quote characters and the strings they enclose. A string runs from a quote to the next quote of its
kind; inside it a backslash takes the character after it along, whatever that is except a line feed.
The main statement: a text is cut around its closing quote without loss.
-/

namespace SqlLexer

/-- The two characters that enclose a string. -/
inductive Quote
  | single
  | double
  deriving DecidableEq, Repr

namespace Quote

/-- The character itself. -/
def char : Quote → Char
  | single => '\''
  | double => '"'

/-- The quote that a character is. -/
def ofChar? (c : Char) : Option Quote :=
  if c = '"' then some double else if c = '\'' then some single else none

@[simp] theorem ofChar?_char (q : Quote) : ofChar? q.char = some q := by
  cases q <;> rfl

theorem ofChar?_eq_some_iff {c : Char} {q : Quote} : ofChar? c = some q ↔ c = q.char := by
  constructor
  · intro h
    unfold ofChar? at h
    split at h
    case isTrue hc => cases h; exact hc
    case isFalse _ =>
      split at h
      case isTrue hc => cases h; exact hc
      case isFalse _ => cases h
  · rintro rfl
    exact ofChar?_char q

/-- A text behind an opening quote, cut around the quote that closes the string: the body between the
two and what follows. There is none if the text ends first, or if a backslash stands before a line
feed or at the end of the text. -/
def close? (q : Quote) : List Char → Option (List Char × List Char)
  | [] => none
  | c :: cs =>
    if c = q.char then
      some ([], cs)
    else if c = '\\' then
      match cs with
      | [] => none
      | d :: ds =>
        if d = '\n' then none
        else (close? q ds).map fun (body, rest) => (c :: d :: body, rest)
    else
      (close? q cs).map fun (body, rest) => (c :: body, rest)

@[simp] theorem close?_nil (q : Quote) : q.close? [] = none := rfl

@[simp] theorem close?_char_cons (q : Quote) (cs : List Char) :
    q.close? (q.char :: cs) = some ([], cs) := by
  cases cs <;> simp [close?]

theorem char_ne_backslash (q : Quote) : q.char ≠ '\\' := by
  cases q <;> decide

theorem close?_escape_cons (q : Quote) (d : Char) (cs : List Char) (h : d ≠ '\n') :
    q.close? ('\\' :: d :: cs) =
      (q.close? cs).map fun (body, rest) => ('\\' :: d :: body, rest) := by
  simp [close?, h, q.char_ne_backslash.symm]

theorem close?_cons_of_ne (q : Quote) {c : Char} (cs : List Char) (hq : c ≠ q.char)
    (hb : c ≠ '\\') :
    q.close? (c :: cs) = (q.close? cs).map fun (body, rest) => (c :: body, rest) := by
  cases cs <;> simp [close?, hq, hb]

theorem append_of_close? {q : Quote} {cs body rest : List Char}
    (h : q.close? cs = some (body, rest)) : body ++ q.char :: rest = cs := by
  fun_induction close? q cs generalizing body rest with
  | case1 => simp at h
  | case2 cs => simp_all
  | case3 => simp at h
  | case4 => simp at h
  | case5 d ds hd hq ih =>
      simp only [Option.map_eq_some_iff, Prod.mk.injEq] at h
      obtain ⟨⟨body', rest'⟩, hclose, rfl, rfl⟩ := h
      simp [ih hclose]
  | case6 c cs hq hb ih =>
      simp only [Option.map_eq_some_iff, Prod.mk.injEq] at h
      obtain ⟨⟨body', rest'⟩, hclose, rfl, rfl⟩ := h
      simp [ih hclose]

end Quote

end SqlLexer
