import SqlLexer.Proofs.Pattern.Basic
import SqlLexer.Proofs.Span.Reading

/-!
The seven patterns for a piece of a query, and the one that tries them in turn. The main statements:
the search prefers the first span of a text to every other match, and no pattern of the seven matches
more of the text.
-/

namespace SqlLexer

namespace CharSet

def wordStart : CharSet := { ranges := [('A', 'Z'), ('a', 'z'), ('_', '_')] }

def wordChar : CharSet := { ranges := [('A', 'Z'), ('a', 'z'), ('_', '_'), ('0', '9')] }

def digit : CharSet := { ranges := [('0', '9')] }

/-- The characters with the Unicode property White_Space. -/
def whiteSpace : CharSet where
  ranges :=
    [('\u0009', '\u000D'), ('\u0020', '\u0020'), ('\u0085', '\u0085'), ('\u00A0', '\u00A0'),
     ('\u1680', '\u1680'), ('\u2000', '\u200A'), ('\u2028', '\u2029'), ('\u202F', '\u202F'),
     ('\u205F', '\u205F'), ('\u3000', '\u3000')]

def symbol : CharSet where
  ranges := [('*', '*'), ('=', '='), (',', ','), (';', ';'), ('(', '('), (')', ')')]

/-- All characters. -/
def any : CharSet := { ranges := [], negated := true }

/-- All characters but the given ones. -/
def allBut (cs : List Char) : CharSet := { ranges := cs.map fun c => (c, c), negated := true }

theorem contains_iff {set : CharSet} (h : set.negated = false) {c : Char} :
    set.contains c = true ↔
      ∃ range ∈ set.ranges, range.1.toNat ≤ c.toNat ∧ c.toNat ≤ range.2.toNat := by
  simp [contains, h, Char.le_def, UInt32.le_iff_toNat_le]

@[simp] theorem contains_digit : digit.contains = Char.isDigit := by
  funext c
  rw [Bool.eq_iff_iff, contains_iff rfl, isDigit_iff]
  simp [digit]

@[simp] theorem contains_wordStart : wordStart.contains = isWordStart := by
  funext c
  rw [Bool.eq_iff_iff, contains_iff rfl, isWordStart_iff]
  simp [wordStart]
  omega

@[simp] theorem contains_wordChar : wordChar.contains = isWordChar := by
  funext c
  rw [Bool.eq_iff_iff, contains_iff rfl, isWordChar_iff, isWordStart_iff, isDigit_iff]
  simp [wordChar]
  omega

@[simp] theorem contains_whiteSpace : whiteSpace.contains = Text.isBlank := by
  funext c
  rw [Bool.eq_iff_iff, contains_iff rfl, Text.isBlank_iff]
  simp [whiteSpace]
  omega

theorem not_contains_symbol_of_isBlank {c : Char} (h : Text.isBlank c = true) :
    symbol.contains c = false := by
  rw [Text.isBlank_iff] at h
  rw [Bool.eq_false_iff, ne_eq, contains_iff rfl]
  simp [symbol]
  omega

@[simp] theorem contains_any (c : Char) : any.contains c = true := rfl

theorem contains_allBut {cs : List Char} {c : Char} :
    (allBut cs).contains c = true ↔ c ∉ cs := by
  have hiff (d : Char) : d ≤ c ∧ c ≤ d ↔ d = c := Std.le_antisymm_iff
  simp [allBut, contains, ← Bool.decide_and, hiff]
  exact ⟨fun h hc => h c hc rfl, fun h d hd hdc => h (hdc ▸ hd)⟩

end CharSet

namespace Pattern

/-- What stands between the quotes of a string: backslashes take along the character after them, a
line feed excepted, and no other character is a quote of the same kind. -/
def quotedBody (q : Quote) : Pattern :=
  star (either (seq (char (.single '\\')) (char (.allBut ['\n'])))
    (char (.allBut [q.char, '\\'])))

def quoted (q : Quote) : Pattern :=
  seq (char (.single q.char)) (seq (quotedBody q) (char (.single q.char)))

def word : Pattern := seq (char .wordStart) (star (char .wordChar))

def number : Pattern :=
  seq (plus (char .digit)) (optional (seq (char (.single '.')) (star (char .digit))))

/-- The patterns for a piece of a query, in the order in which they are tried. -/
def alternatives : List Pattern :=
  [quoted .double, quoted .single, word, number, char .symbol, plus (char .whiteSpace), char .any]

/-- A piece of a query. -/
def piece : Pattern := firstOf alternatives

/-- What can stand between two quotes is closed by the second one. -/
theorem close?_of_mem_quotedBody {q : Quote} {body : List Char}
    (h : body ∈ (quotedBody q).language) (rest : List Char) :
    q.close? (body ++ q.char :: rest) = some (body, rest) := by
  obtain ⟨parts, rfl, hparts⟩ := Language.mem_kstar.1 h
  clear h
  induction parts with
  | nil => exact q.close?_char_cons rest
  | cons part parts ih =>
      obtain ⟨hpart, htail⟩ := List.forall_mem_cons.1 hparts
      rcases (Language.mem_add _ _ _).1 hpart with hescaped | hplain
      · obtain ⟨-, ⟨b, hb, rfl⟩, -, ⟨d, hd, rfl⟩, rfl⟩ := Language.mem_mul.1 hescaped
        obtain rfl : '\\' = b := by simpa using hb
        have hne : d ≠ '\n' := by simpa using CharSet.contains_allBut.1 hd
        have hclose := q.close?_escape_cons d (parts.flatten ++ q.char :: rest) hne
        rw [ih htail] at hclose
        simpa using hclose
      · obtain ⟨c, hc, rfl⟩ := hplain
        obtain ⟨hquote, hbackslash⟩ : c ≠ q.char ∧ c ≠ '\\' := by
          simpa using CharSet.contains_allBut.1 hc
        have hclose := q.close?_cons_of_ne (parts.flatten ++ q.char :: rest) hquote hbackslash
        rw [ih htail] at hclose
        simpa using hclose

/-- The body of a closed string can stand between two quotes. -/
theorem mem_quotedBody_of_close? {q : Quote} {cs body rest : List Char}
    (h : q.close? cs = some (body, rest)) : body ∈ (quotedBody q).language := by
  fun_induction Quote.close? q cs generalizing body rest with
  | case1 => cases h
  | case2 cs =>
      obtain ⟨rfl, -⟩ : [] = body ∧ cs = rest := by simpa using h
      exact Language.nil_mem_kstar _
  | case3 => cases h
  | case4 => cases h
  | case5 d ds hd hq ih =>
      simp only [Option.map_eq_some_iff, Prod.mk.injEq] at h
      obtain ⟨⟨body, rest⟩, hclose, rfl, rfl⟩ := h
      refine append_mem_kstar (s := ['\\', d]) (Or.inl ?_) (ih hclose)
      refine Language.append_mem_mul (a := ['\\']) (b := [d]) ⟨'\\', by simp, rfl⟩ ⟨d, ?_, rfl⟩
      exact CharSet.contains_allBut.2 (by simpa using hd)
  | case6 c cs hq hb ih =>
      simp only [Option.map_eq_some_iff, Prod.mk.injEq] at h
      obtain ⟨⟨body, rest⟩, hclose, rfl, rfl⟩ := h
      refine append_mem_kstar (s := [c]) (Or.inr ⟨c, ?_, rfl⟩) (ih hclose)
      exact CharSet.contains_allBut.2 (by simp [hq, hb])

/-- A quote is matched together with all up to the quote that closes it, if there is one. -/
theorem mem_rests_quoted {q : Quote} {c : Char} {cs rest : List Char} :
    rest ∈ (quoted q).rests (c :: cs) ↔ c = q.char ∧ ∃ body, q.close? cs = some (body, rest) := by
  rw [mem_rests_iff]
  constructor
  · rintro ⟨s, hs, happend⟩
    obtain ⟨-, ⟨d, hd, rfl⟩, -, ⟨body, hbody, -, ⟨e, he, rfl⟩, rfl⟩, rfl⟩ := hs
    obtain rfl : q.char = d := by simpa using hd
    obtain rfl : q.char = e := by simpa using he
    obtain ⟨rfl, rfl⟩ : q.char = c ∧ body ++ q.char :: rest = cs := by simpa using happend
    exact ⟨rfl, body, close?_of_mem_quotedBody hbody rest⟩
  · rintro ⟨rfl, body, hclose⟩
    refine ⟨[q.char] ++ (body ++ [q.char]), ?_, by simp [Quote.append_of_close? hclose]⟩
    refine Language.append_mem_mul ⟨q.char, by simp, rfl⟩ ?_
    exact Language.append_mem_mul (mem_quotedBody_of_close? hclose) ⟨q.char, by simp, rfl⟩

theorem rest?_quoted (q : Quote) (c : Char) (cs : List Char) :
    (quoted q).rest? (c :: cs) = if c = q.char then (q.close? cs).map Prod.snd else none := by
  by_cases hc : c = q.char
  · rw [if_pos hc]
    cases hclose : q.close? cs with
    | none =>
        rw [rest?, List.head?_eq_none_iff.2]
        · rfl
        · rw [List.eq_nil_iff_forall_not_mem]
          intro rest hrest
          obtain ⟨-, body, hbody⟩ := mem_rests_quoted.1 hrest
          rw [hclose] at hbody
          cases hbody
    | some pair =>
        apply rest?_eq_some_of_unique
        intro rest
        rw [mem_rests_quoted, hclose]
        constructor
        · rintro ⟨-, body, hbody⟩
          rw [Option.some_inj.1 hbody]
        · rintro rfl
          exact ⟨hc, pair.1, rfl⟩
  · rw [quoted, rest?_seq_char_cons, if_neg hc]
    exact if_neg (by simp [Ne.symm hc])

theorem rest?_word (c : Char) (cs : List Char) :
    word.rest? (c :: cs) = if isWordStart c then some (cs.dropWhile isWordChar) else none := by
  rw [word, rest?_seq_char_cons, rest?_star_char, CharSet.contains_wordStart,
    CharSet.contains_wordChar]

theorem rest?_plus_char (set : CharSet) (c : Char) (cs : List Char) :
    (plus (char set)).rest? (c :: cs) =
      if set.contains c then some (cs.dropWhile set.contains) else none := by
  rw [plus, rest?_seq_char_cons, rest?_star_char]

theorem rest?_fraction (cs : List Char) :
    (optional (seq (char (.single '.')) (star (char .digit)))).rest? (cs.dropWhile Char.isDigit) =
      some (Span.cutNumber cs).2 := by
  rw [optional, rest?_either, rest?_empty, Span.cutNumber]
  split
  case h_1 rest hrest =>
    have hpoint : (char (.single '.')).rest? ('.' :: rest) = some rest := by simp
    rw [hrest, rest?_seq_of_some hpoint (rest?_star_char .digit rest), CharSet.contains_digit]
    rfl
  case h_2 hpoint =>
    have hnone : (seq (char (.single '.')) (star (char .digit))).rest? (cs.dropWhile Char.isDigit) =
        none := by
      apply rest?_seq_of_none
      cases hcs : cs.dropWhile Char.isDigit with
      | nil => rfl
      | cons d ds =>
          have hd : '.' ≠ d := by
            rintro rfl
            exact hpoint ds hcs
          simp [hd]
    rw [hnone]
    rfl

theorem rest?_number (c : Char) (cs : List Char) :
    number.rest? (c :: cs) = if c.isDigit then some (Span.cutNumber cs).2 else none := by
  by_cases hc : c.isDigit = true
  · rw [if_pos hc]
    refine rest?_seq_of_some ?_ (rest?_fraction cs)
    simp [rest?_plus_char, hc]
  · rw [if_neg hc]
    exact rest?_seq_of_none (by simp [rest?_plus_char, hc])

/-- The search prefers the first span of a text to every other match. -/
theorem rest?_piece {c : Char} {cs rest : List Char} {s : Span} (h : Span.Reads (c :: cs) s rest) :
    piece.rest? (c :: cs) = some rest := by
  simp only [piece, alternatives, firstOf, rest?_either, rest?_quoted, rest?_word, rest?_number,
    rest?_char_cons, rest?_plus_char, CharSet.contains_whiteSpace]
  cases h with
  | @string q _ body _ hclose => cases q <;> simp [hclose, Quote.char]
  | word hstart =>
      have hquote := Quote.ofChar?_eq_none_iff.1
        (Quote.ofChar?_eq_none_of_isWordChar (isWordChar_of_isWordStart hstart))
      simp [hquote, hstart]
  | number hdigit =>
      have hquote := Quote.ofChar?_eq_none_iff.1
        (Quote.ofChar?_eq_none_of_isWordChar (isWordChar_of_isDigit hdigit))
      simp [hquote, hdigit, not_isWordStart_of_isDigit hdigit]
  | blank hblank =>
      have hquote := Quote.ofChar?_eq_none_iff.1 (Quote.ofChar?_eq_none_of_isBlank hblank)
      obtain ⟨hstart, hdigit⟩ := isWordChar_eq_false_iff.1 (not_isWordChar_of_isBlank hblank)
      have hsymbol := CharSet.not_contains_symbol_of_isBlank hblank
      simp [hquote, hstart, hdigit, hsymbol, hblank]
  | @stray q _ hopen =>
      -- both patterns for strings are tried, but the other one wants the other quote
      have hquoted (r : Quote) :
          (if q.char = r.char then (r.close? cs).map Prod.snd else none) = none := by
        split
        case isTrue h => rw [← Quote.char_injective h, hopen, Option.map_none]
        case isFalse => rfl
      have hsymbol : CharSet.symbol.contains q.char = false := by cases q <;> rfl
      simp [hquoted, hsymbol]
  | mark hmark =>
      simp only [isMark, Bool.and_eq_true, Option.isNone_iff_eq_none, Bool.not_eq_true'] at hmark
      obtain ⟨⟨⟨hquote, hstart⟩, hdigit⟩, hblank⟩ := hmark
      cases hsymbol : CharSet.symbol.contains c <;>
        simp [Quote.ofChar?_eq_none_iff.1 hquote, hstart, hdigit, hblank]

theorem length_dropWhile_le {p : Char → Bool} {s rest cs : List Char} (hs : ∀ c ∈ s, p c = true)
    (happend : s ++ rest = cs) : (cs.dropWhile p).length ≤ rest.length := by
  rw [← happend, List.dropWhile_append_of_pos hs]
  exact (List.dropWhile_suffix p).length_le

theorem length_cutNumber_le {digits middle rest : List Char}
    (hdigits : ∀ c ∈ digits, c.isDigit = true)
    (hrest : rest ∈ (optional (seq (char (.single '.')) (star (char .digit)))).rests middle) :
    (Span.cutNumber (digits ++ middle)).2.length ≤ rest.length := by
  rcases List.mem_append.1 hrest with hpoint | hempty
  · cases middle with
    | nil => simp [rests] at hpoint
    | cons c middle =>
        obtain ⟨hc, hfraction⟩ := mem_rests_seq_char_iff.1 hpoint
        obtain rfl : '.' = c := by simpa using hc
        obtain ⟨fraction, hall, happend⟩ := exists_append_of_mem_rests_star_char hfraction
        rw [CharSet.contains_digit] at hall
        have hdrop : (digits ++ '.' :: middle).dropWhile Char.isDigit = '.' :: middle := by
          rw [List.dropWhile_append_of_pos hdigits, List.dropWhile_cons_of_neg (by decide)]
        rw [Span.cutNumber, hdrop]
        exact length_dropWhile_le hall happend
  · obtain rfl : rest = middle := by simpa [rests] using hempty
    have hle := length_dropWhile_le hdigits (rfl : digits ++ rest = digits ++ rest)
    rw [Span.cutNumber]
    split
    case h_1 ds hdrop =>
      rw [hdrop, List.length_cons] at hle
      have hsuffix := (List.dropWhile_suffix (l := ds) Char.isDigit).length_le
      show (ds.dropWhile Char.isDigit).length ≤ rest.length
      omega
    case h_2 => exact hle

/-- No piece takes more of a text than its first span does. -/
theorem length_le_of_mem_rests {c : Char} {cs rest r : List Char} {s : Span}
    (h : Span.Reads (c :: cs) s rest) {p : Pattern} (hp : p ∈ alternatives)
    (hr : r ∈ p.rests (c :: cs)) : rest.length ≤ r.length := by
  have hone : rest.length ≤ cs.length := by
    have hle := Span.length_next_le c cs
    rwa [Span.next_eq_of_reads h] at hle
  have hquoted (q : Quote) (hr : r ∈ (quoted q).rests (c :: cs)) : rest.length ≤ r.length := by
    obtain ⟨rfl, body, hclose⟩ := mem_rests_quoted.1 hr
    rw [(h.unique (.string hclose)).2]
  simp only [alternatives, List.mem_cons, List.not_mem_nil, or_false] at hp
  rcases hp with rfl | rfl | rfl | rfl | rfl | rfl | rfl
  · exact hquoted _ hr
  · exact hquoted _ hr
  · obtain ⟨hstart, hr⟩ := mem_rests_seq_char_iff.1 hr
    obtain ⟨s, hs, happend⟩ := exists_append_of_mem_rests_star_char hr
    rw [CharSet.contains_wordStart] at hstart
    rw [CharSet.contains_wordChar] at hs
    rw [(h.unique (.word hstart)).2]
    exact length_dropWhile_le hs happend
  · obtain ⟨middle, hmiddle, hfraction⟩ := List.mem_flatMap.1 hr
    obtain ⟨hdigit, hmiddle⟩ := mem_rests_seq_char_iff.1 hmiddle
    obtain ⟨digits, hdigits, rfl⟩ := exists_append_of_mem_rests_star_char hmiddle
    rw [CharSet.contains_digit] at hdigit hdigits
    rw [(h.unique (.number hdigit)).2]
    exact length_cutNumber_le hdigits hfraction
  · obtain ⟨-, rfl⟩ : CharSet.symbol.contains c = true ∧ r = cs := by simpa [rests] using hr
    exact hone
  · obtain ⟨hblank, hr⟩ := mem_rests_seq_char_iff.1 hr
    obtain ⟨s, hs, happend⟩ := exists_append_of_mem_rests_star_char hr
    rw [CharSet.contains_whiteSpace] at hblank hs
    rw [(h.unique (.blank hblank)).2]
    exact length_dropWhile_le hs happend
  · obtain rfl : r = cs := by simpa [rests] using hr
    exact hone

end Pattern

end SqlLexer
