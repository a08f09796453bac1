import SqlLexer.Proofs.IdentifierRules
import SqlLexer.Proofs.Pattern.Expression
import SqlLexer.Proofs.Stream

/-!
What the recognizers of shapes accept, each as a language of texts. Numbers are read by a pattern of
final choices, quoted texts by the bytes at their ends, and identifiers of the strict rule by the search
for an expression. No text has two of the three shapes.
-/

namespace SqlLexer

/-! Quoted texts. -/

/-- The byte of a quote. -/
def Quote.byte : Quote → UInt8
  | single => 39
  | double => 34

/-- Whether some bytes are at least two, of which the first and the last are the same quote. -/
def isQuotedUtf8 (bytes : List UInt8) : Bool :=
  2 ≤ bytes.length && bytes.head? == bytes.getLast? &&
    (bytes.head? == some Quote.double.byte || bytes.head? == some Quote.single.byte)

theorem isQuotedUtf8_iff {bytes : List UInt8} :
    isQuotedUtf8 bytes = true ↔
      2 ≤ bytes.length ∧
        ∃ q : Quote, bytes.head? = some q.byte ∧ bytes.getLast? = some q.byte := by
  simp only [isQuotedUtf8, Bool.and_eq_true, decide_eq_true_eq, beq_iff_eq, Bool.or_eq_true,
    and_assoc]
  refine and_congr_right fun _ => ?_
  constructor
  · rintro ⟨hsame, hdouble | hsingle⟩
    · exact ⟨.double, hdouble, hsame ▸ hdouble⟩
    · exact ⟨.single, hsingle, hsame ▸ hsingle⟩
  · rintro ⟨q, hhead, hlast⟩
    refine ⟨hhead.trans hlast.symm, ?_⟩
    cases q with
    | single => exact Or.inr hhead
    | double => exact Or.inl hhead

theorem isQuoted_iff {text : String} :
    isQuoted text = true ↔
      2 ≤ text.length ∧
        ∃ q : Quote, text.toList.head? = some q.char ∧ text.toList.getLast? = some q.char := by
  rw [isQuoted, ← String.length_toList]
  split
  case h_1 c d cs hcs =>
    have hlength : 2 ≤ (c :: d :: cs).length := Nat.le_add_left 2 cs.length
    rw [hcs, Bool.and_eq_true, Option.isSome_iff_exists, beq_iff_eq, List.getLast?_cons_cons,
      and_iff_right hlength]
    constructor
    · rintro ⟨⟨q, hq⟩, hlast⟩
      obtain rfl := Quote.ofChar?_eq_some_iff.1 hq
      exact ⟨q, rfl, hlast⟩
    · rintro ⟨q, hhead, hlast⟩
      obtain rfl : c = q.char := Option.some_inj.1 hhead
      exact ⟨⟨q, q.ofChar?_char⟩, hlast⟩
  case h_2 hshort =>
    have hlength : ¬2 ≤ text.toList.length := by
      intro hle
      obtain ⟨c, cs, hcs⟩ := List.exists_cons_of_length_pos (Nat.lt_of_succ_lt hle)
      rw [hcs, List.length_cons] at hle
      obtain ⟨d, ds, rfl⟩ := List.exists_cons_of_length_pos (Nat.lt_of_succ_lt_succ hle)
      exact hshort c d ds hcs
    exact iff_of_false Bool.false_ne_true fun h => hlength h.1

namespace Text

variable {q : Quote} {cs : List Char}

theorem byte_mem_utf8EncodeChar_iff {c : Char} : q.byte ∈ String.utf8EncodeChar c ↔ c = q.char := by
  have hbyte : q.byte.toNat = q.char.toNat := by cases q <;> rfl
  rw [mem_utf8EncodeChar_iff (by cases q <;> decide), hbyte, Char.toNat_inj]

theorem utf8EncodeChar_quote (q : Quote) : String.utf8EncodeChar q.char = [q.byte] := by
  cases q <;> decide

/-- The bytes of a text begin with the byte of a quote if the text begins with the quote. -/
theorem head?_utf8_eq_byte_iff : (utf8 cs).head? = some q.byte ↔ cs.head? = some q.char := by
  cases cs with
  | nil => simp
  | cons c cs =>
      rw [utf8_cons, List.head?_append_of_ne_nil _ String.utf8EncodeChar_ne_nil, List.head?_cons,
        Option.some_inj]
      constructor
      · exact fun h => byte_mem_utf8EncodeChar_iff.1 (List.mem_of_head? h)
      · rintro rfl
        rw [utf8EncodeChar_quote, List.head?_cons]

theorem getLast?_utf8_eq_byte_iff :
    (utf8 cs).getLast? = some q.byte ↔ cs.getLast? = some q.char := by
  rcases List.eq_nil_or_concat cs with rfl | ⟨cs, c, rfl⟩
  · simp
  · have hlast : utf8 [c] = String.utf8EncodeChar c := List.append_nil _
    rw [List.concat_eq_append, utf8_append, hlast,
      List.getLast?_append_of_ne_nil _ String.utf8EncodeChar_ne_nil, List.getLast?_concat,
      Option.some_inj]
    constructor
    · exact fun h => byte_mem_utf8EncodeChar_iff.1 (List.mem_of_getLast? h)
    · rintro rfl
      rw [utf8EncodeChar_quote, List.getLast?_singleton]

/-- A text that begins with a quote has more than one byte if it has more than one character. -/
theorem two_le_length_utf8_iff (h : cs.head? = some q.char) :
    2 ≤ (utf8 cs).length ↔ 2 ≤ cs.length := by
  obtain ⟨cs, rfl⟩ := List.head?_eq_some_iff.1 h
  rw [utf8_cons, utf8EncodeChar_quote, List.singleton_append, List.length_cons, List.length_cons]
  cases cs with
  | nil => rfl
  | cons c cs =>
      have hpos := c.utf8Size_pos
      rw [utf8_cons, List.length_append, String.length_utf8EncodeChar, List.length_cons]
      omega

end Text

/-- Comparing bytes at the ends of a text is the same as comparing characters. -/
theorem isQuoted_eq_isQuotedUtf8 (text : String) :
    isQuoted text = isQuotedUtf8 (Text.utf8 text.toList) := by
  rw [Bool.eq_iff_iff, isQuoted_iff, isQuotedUtf8_iff, ← String.length_toList]
  simp only [Text.head?_utf8_eq_byte_iff, Text.getLast?_utf8_eq_byte_iff]
  constructor
  · rintro ⟨hlength, q, hhead, hlast⟩
    exact ⟨(Text.two_le_length_utf8_iff hhead).2 hlength, q, hhead, hlast⟩
  · rintro ⟨hlength, q, hhead, hlast⟩
    exact ⟨(Text.two_le_length_utf8_iff hhead).1 hlength, q, hhead, hlast⟩

/-! Identifiers of the strict rule. -/

namespace IdentifierRule

theorem accepts_strict_iff {text : String} :
    strict.accepts text = true ↔
      text ≠ "" ∧ (∀ c ∈ text.toList, c.isAlpha = true ∨ c = ' ' ∨ c = '_') ∧
        text.toList.getLast? ≠ some ' ' := by
  have hchar (c : Char) : CharSet.wordStartOrSpace.contains c = true ↔
      c.isAlpha = true ∨ c = ' ' ∨ c = '_' := by
    simp only [CharSet.contains_wordStartOrSpace, isWordStart, Bool.or_eq_true, beq_iff_eq, or_assoc]
    exact or_congr_right or_comm
  have hempty : text ≠ "" ↔ text.toList ≠ [] := not_congr String.toList_eq_nil_iff.symm
  simp only [accepts, isStrict_iff, Pattern.mem_language_plus_char_iff, hchar, hempty, and_assoc]
  refine and_congr_right fun hne => and_congr_right fun _ => ?_
  rw [List.getLast?_eq_some_getLast hne, Option.any_some, bne_iff_ne, ne_eq, ne_eq, Option.some_inj]

/-- A line feed at the end is not overlooked. -/
theorem accepts_strict_append_lineFeed (text : String) : strict.accepts (text ++ "\n") = false := by
  rw [Bool.eq_false_iff]
  intro h
  have hlast := (accepts_strict_iff.1 h).2.1 '\n' (by simp)
  revert hlast
  decide

end IdentifierRule

/-! No text has two shapes. -/

theorem isNumeric_of_isQuoted {text : String} (h : isQuoted text = true) : isNumeric text = false := by
  obtain ⟨-, q, hhead, -⟩ := isQuoted_iff.1 h
  obtain ⟨cs, hcs⟩ := List.head?_eq_some_iff.1 hhead
  exact isNumeric_eq_false hcs q.isDigit_char (by cases q <;> decide)

/-- The recognizers accept numbers with a sign or without one, texts between two equal quotes, and runs
of letters, underscores and spaces that do not end in a space; all else they reject. They do so by
choices that are never taken back, by bytes instead of characters, and by a search that looks for a
boundary of words at the end. A text has one of these shapes at most. -/
theorem recognizers_accept_languages (words : WordClass) (text : String) :
    ((isNumeric text = true ↔ text.toList ∈ Pattern.signedNumber.language) ∧
        (isNumeric text = true ↔ Pattern.signedNumber.committed? text.toList = some [])) ∧
      ((isQuoted text = true ↔ 2 ≤ text.length ∧
          ∃ q : Quote, text.toList.head? = some q.char ∧ text.toList.getLast? = some q.char) ∧
        isQuoted text = isQuotedUtf8 (Text.utf8 text.toList)) ∧
      ((IdentifierRule.strict.accepts text = true ↔
          text ≠ "" ∧ (∀ c ∈ text.toList, c.isAlpha = true ∨ c = ' ' ∨ c = '_') ∧
            text.toList.getLast? ≠ some ' ') ∧
        (∀ rule : IdentifierRule,
          rule.accepts text = rule.expression.found words text.toList) ∧
        IdentifierRule.strict.accepts (text ++ "\n") = false) ∧
      ¬(isQuoted text = true ∧ isNumeric text = true) ∧
      ¬(IdentifierRule.strict.accepts text = true ∧ isQuoted text = true) ∧
      ¬(IdentifierRule.strict.accepts text = true ∧ isNumeric text = true) := by
  have hliteral (h : IdentifierRule.strict.accepts text = true) :
      isQuoted text = false ∧ isNumeric text = false :=
    Bool.or_eq_false_iff.1 (IdentifierRule.isLiteral_of_accepts h)
  refine ⟨⟨isNumeric_iff_mem_language, isNumeric_iff_committed?⟩,
    ⟨isQuoted_iff, isQuoted_eq_isQuotedUtf8 text⟩,
    ⟨IdentifierRule.accepts_strict_iff, fun rule => rule.accepts_eq_found words text,
      IdentifierRule.accepts_strict_append_lineFeed text⟩, ?_, ?_, ?_⟩
  · rintro ⟨hquoted, hnumeric⟩
    exact Bool.eq_false_iff.1 (isNumeric_of_isQuoted hquoted) hnumeric
  · rintro ⟨hstrict, hquoted⟩
    exact Bool.eq_false_iff.1 (hliteral hstrict).1 hquoted
  · rintro ⟨hstrict, hnumeric⟩
    exact Bool.eq_false_iff.1 (hliteral hstrict).2 hnumeric

/-- A letter beyond ASCII counts for a boundary of words here. It makes no identifier, and as the text
between two quotes it takes two bytes. -/
theorem recognizers_accept_phrase :
    let words : WordClass := .ofBeyond (· == 'é')
    IdentifierRule.strict.expression.found words "two words".toList = true ∧
      IdentifierRule.strict.expression.found words "café".toList = false ∧
      isQuotedUtf8 (Text.utf8 "'é'".toList) = true ∧
      Pattern.signedNumber.committed? "-3.".toList = some [] ∧
      "-3.".toList ∈ Pattern.signedNumber.language := by
  intro words
  obtain ⟨-, -, ⟨-, hphrase, -⟩, -⟩ := recognizers_accept_languages words "two words"
  obtain ⟨-, -, ⟨-, hletter, -⟩, -⟩ := recognizers_accept_languages words "café"
  obtain ⟨-, ⟨-, hquoted⟩, -⟩ := recognizers_accept_languages words "'é'"
  obtain ⟨⟨hnumber, hcommitted⟩, -⟩ := recognizers_accept_languages words "-3."
  have hnumeric : isNumeric "-3." = true := by decide
  refine ⟨?_, ?_, ?_, hcommitted.1 hnumeric, hnumber.1 hnumeric⟩
  · rw [← hphrase .strict]
    decide
  · rw [← hletter .strict]
    decide
  · rw [← hquoted]
    decide

end SqlLexer
