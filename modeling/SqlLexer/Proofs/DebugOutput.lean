import SqlLexer.Proofs.PlainOutput

/-!
Debug output is unambiguous, whatever the values of the tokens hold: each token takes one line, and
no two lists of tokens are printed alike.

Values are written in a code without marks between the characters, and tokens in one without a count
in front. Both can be read from left to right, as no code word is the beginning of another one. For
tokens that is so because a line feed ends each line and stands nowhere else; for characters, because
a character stands for itself only if it is not the backslash, and the letter behind a backslash tells
the short escapes from each other and from the code points.
-/

namespace SqlLexer

/-- The first occurrence of an element parts a list in one way only. -/
theorem append_cons_inj_of_notMem_left {α : Type} {a : α} {xs ys rest more : List α} (hxs : a ∉ xs)
    (hys : a ∉ ys) (h : xs ++ a :: rest = ys ++ a :: more) : xs = ys ∧ rest = more := by
  rcases List.append_eq_append_iff.1 h with ⟨between, rfl, heq⟩ | ⟨between, rfl, heq⟩
  · cases between with
    | nil => exact ⟨by simp, (List.cons.inj heq).2⟩
    | cons b between => exact absurd (by simp [(List.cons.inj heq).1]) hys
  · cases between with
    | nil => exact ⟨by simp, (List.cons.inj heq).2.symm⟩
    | cons b between => exact absurd (by simp [(List.cons.inj heq).1]) hxs

namespace Text

/-- Whether the code words can be read one after the other: from a text that begins with a code word
one can tell which word it is, and so what is left of the text. -/
def PrefixFree {α : Type} (code : α → List Char) : Prop :=
  ∀ ⦃a b : α⦄ ⦃rest more : List Char⦄, code a ++ rest = code b ++ more → a = b ∧ rest = more

namespace PrefixFree

variable {α : Type} {code : α → List Char}

/-- Words with an end mark that is in none of them. -/
theorem concat {mark : Char} (hcode : Function.Injective code) (hmark : ∀ a, mark ∉ code a) :
    PrefixFree fun a => code a ++ [mark] := by
  intro a b rest more h
  simp only [List.append_assoc, List.singleton_append] at h
  obtain ⟨hab, hrest⟩ := append_cons_inj_of_notMem_left (hmark a) (hmark b) h
  exact ⟨hcode hab, hrest⟩

/-- A text in a prefix-free code is the code of one list only. -/
theorem flatMap_injective (h : PrefixFree code) (hne : ∀ a, code a ≠ []) :
    Function.Injective (List.flatMap code) := by
  intro as bs hab
  induction as generalizing bs with
  | nil =>
      cases bs with
      | nil => rfl
      | cons b bs => simp [hne b] at hab
  | cons a as ih =>
      cases bs with
      | nil => simp [hne a] at hab
      | cons b bs =>
          rw [List.flatMap_cons, List.flatMap_cons] at hab
          obtain ⟨rfl, hrest⟩ := h hab
          rw [ih hrest]

end PrefixFree

/-- The number with the given hexadecimal digits. -/
def ofHexDigits (digits : List Char) : Nat :=
  digits.foldl (fun n c => 16 * n + "0123456789abcdef".toList.idxOf c) 0

theorem ofHexDigits_toDigits (n : Nat) : ofHexDigits (Nat.toDigits 16 n) = n := by
  have hdigit : ∀ d < 16, "0123456789abcdef".toList.idxOf (Nat.digitChar d) = d := by decide
  induction n using Nat.strongRecOn with
  | ind n ih =>
      rw [Nat.toDigits_eq_if (by decide)]
      split
      case isTrue hn => simpa [ofHexDigits] using hdigit n hn
      case isFalse hn =>
        have hfront := ih (n / 16) (by omega)
        rw [ofHexDigits] at hfront
        rw [ofHexDigits, List.foldl_append, hfront, List.foldl_cons, List.foldl_nil,
          hdigit (n % 16) (Nat.mod_lt _ (by decide))]
        exact Nat.div_add_mod n 16

theorem prefixFree_codePointEscape : PrefixFree codePointEscape := by
  have hdigits : PrefixFree fun c : Char => Nat.toDigits 16 c.toNat ++ ['\x7d'] := by
    refine PrefixFree.concat (fun c d h => ?_) (fun c hc => ?_)
    · have hvalue := congrArg ofHexDigits h
      rw [ofHexDigits_toDigits, ofHexDigits_toDigits] at hvalue
      exact Char.toNat_inj.1 hvalue
    · have hdigit := mem_toDigits_sixteen hc
      revert hdigit
      decide
  intro c d rest more h
  simp only [codePointEscape, List.append_assoc, List.append_cancel_left_eq] at h
  exact hdigits (by simpa using h)

theorem shortEscape?_inj {c d short : Char} (hc : shortEscape? c = some short)
    (hd : shortEscape? d = some short) : c = d := by
  unfold shortEscape? at hc hd
  split at hc <;> cases hc <;> split at hd <;> first | rfl | simp at hd

theorem shortEscape?_ne_some_u (c : Char) : shortEscape? c ≠ some 'u' := by
  unfold shortEscape?
  split <;> simp

/-- The ways in which a character may be written. -/
inductive EscapeOf (c : Char) : List Char → Prop
  | short {short : Char} (h : shortEscape? c = some short) : EscapeOf c ['\\', short]
  | codePoint : EscapeOf c (codePointEscape c)
  | plain (h : c ≠ '\\') : EscapeOf c [c]

theorem escapeOf_escapeChar (c : Char) : EscapeOf c (escapeChar c) := by
  unfold escapeChar
  split
  case h_1 short h => exact .short h
  case h_2 h =>
    split
    · exact .codePoint
    · refine .plain ?_
      rintro rfl
      simp [shortEscape?] at h

/-- The first character tells whether there is an escape, and the second one which. -/
theorem EscapeOf.unique {c d : Char} {cs ds rest more : List Char} (hc : EscapeOf c cs)
    (hd : EscapeOf d ds) (h : cs ++ rest = ds ++ more) : c = d ∧ rest = more := by
  cases hc with
  | short hc =>
      cases hd with
      | short hd =>
          simp only [List.cons_append, List.nil_append, List.cons.injEq, true_and] at h
          obtain ⟨rfl, hrest⟩ := h
          exact ⟨shortEscape?_inj hc hd, hrest⟩
      | codePoint =>
          simp only [codePointEscape, List.cons_append, List.cons.injEq, true_and] at h
          exact absurd (h.1 ▸ hc) (shortEscape?_ne_some_u c)
      | plain hd => exact absurd (List.cons.inj h).1.symm hd
  | codePoint =>
      cases hd with
      | short hd =>
          simp only [codePointEscape, List.cons_append, List.cons.injEq, true_and] at h
          exact absurd (h.1 ▸ hd) (shortEscape?_ne_some_u d)
      | codePoint => exact prefixFree_codePointEscape h
      | plain hd => exact absurd (List.cons.inj h).1.symm hd
  | plain hc =>
      cases hd with
      | short hd => exact absurd (List.cons.inj h).1 hc
      | codePoint => exact absurd (List.cons.inj h).1 hc
      | plain hd => exact List.cons.inj h

theorem prefixFree_escapeChar : PrefixFree escapeChar :=
  fun c d _ _ h => (escapeOf_escapeChar c).unique (escapeOf_escapeChar d) h

theorem escapeChar_ne_nil (c : Char) : escapeChar c ≠ [] := by
  have hform := escapeOf_escapeChar c
  generalize escapeChar c = cs at hform
  cases hform <;> simp [codePointEscape]

theorem escape_injective : Function.Injective escape :=
  prefixFree_escapeChar.flatMap_injective escapeChar_ne_nil

theorem quoted_injective : Function.Injective quoted := by
  intro s t h
  have hlists := congrArg String.toList h
  rw [toList_quoted, toList_quoted, List.append_cancel_right_eq, List.cons_inj_right] at hlists
  exact String.toList_inj.1 (escape_injective hlists)

end Text

theorem TokenType.name_injective : Function.Injective name := by
  intro t u h
  have hname := ofName_name t
  rw [h, ofName_name] at hname
  exact (Except.ok.inj hname).symm

namespace Token

theorem toList_toDebug (token : Token) :
    token.toDebug.toList =
      "Token \x7b token_type: ".toList ++ (token.type.name.toList ++ ',' ::
        (" value: ".toList ++ (Text.quoted token.value).toList ++ " \x7d".toList)) := by
  have hcomma : ", value: ".toList = ',' :: " value: ".toList := by simp
  change ("Token \x7b token_type: " ++ token.type.name ++ ", value: " ++ Text.quoted token.value ++
    " \x7d").toList = _
  simp only [String.toList_append, hcomma, List.append_assoc, List.cons_append]

theorem lineFeed_notMem_toDebug (token : Token) : '\n' ∉ token.toDebug.toList := by
  have hvalue := Text.lineFeed_notMem_escape token.value.toList
  have htype := token.type.notMem_name.2
  simp only [toList_toDebug, Text.toList_quoted, List.mem_append, List.mem_cons, htype, hvalue,
    false_or]
  decide

theorem toDebug_injective : Function.Injective toDebug := by
  have hcomma : ∀ t : TokenType, ',' ∉ t.name.toList := by
    intro t
    cases t <;> decide
  intro token other h
  have hlists := congrArg String.toList h
  rw [toList_toDebug, toList_toDebug, List.append_cancel_left_eq] at hlists
  obtain ⟨htype, hvalue⟩ := append_cons_inj_of_notMem_left (hcomma _) (hcomma _) hlists
  rw [List.append_cancel_right_eq, List.append_cancel_left_eq] at hvalue
  have htypes := TokenType.name_injective (String.toList_inj.1 htype)
  have hvalues := Text.quoted_injective (String.toList_inj.1 hvalue)
  cases token
  cases other
  rw [Token.mk.injEq]
  exact ⟨htypes, hvalues⟩

end Token

namespace OutputFormat

variable {format : OutputFormat}

/-- A format that puts each token on a line of its own. -/
theorem splitOn_print (hline : ∀ token, '\n' ∉ (format.render token).toList) (tokens : List Token) :
    (format.print tokens).toList.splitOn '\n' =
      (tokens.map fun token => (format.render token).toList) ++ [[]] := by
  refine splitOn_eq_concat_nil_iff.2 ⟨?_, List.forall_mem_map.2 fun token _ => hline token⟩
  rw [toList_print, List.flatMap_map]

theorem count_lineFeed_print (hline : ∀ token, '\n' ∉ (format.render token).toList)
    (tokens : List Token) : (format.print tokens).toList.count '\n' = tokens.length := by
  induction tokens with
  | nil => rfl
  | cons token tokens ih =>
      rw [print_cons, String.toList_append, String.toList_append, List.count_append,
        List.count_append, ih, List.count_eq_zero_of_not_mem (hline token), List.length_cons]
      simp [Nat.add_comm]

theorem print_injective (hline : ∀ token, '\n' ∉ (format.render token).toList)
    (hrender : Function.Injective format.render) : Function.Injective format.print := by
  intro tokens others h
  have hlists := congrArg String.toList h
  rw [toList_print, toList_print] at hlists
  have hcode : Function.Injective fun token => (format.render token).toList :=
    fun _ _ h => hrender (String.toList_injective h)
  exact (Text.PrefixFree.concat hcode hline).flatMap_injective (by simp) hlists

end OutputFormat

/-- In debug output each token has a line of its own, which no character of its value can break, and
no two lists of tokens have the same output. -/
theorem debug_output_unambiguous :
    (∀ token : Token, '\n' ∉ token.toDebug.toList) ∧
    (∀ tokens : List Token,
      (OutputFormat.debug.print tokens).toList.splitOn '\n' =
        (tokens.map fun token => token.toDebug.toList) ++ [[]] ∧
      (OutputFormat.debug.print tokens).toList.count '\n' = tokens.length) ∧
    Function.Injective OutputFormat.debug.print := by
  have hline : ∀ token, '\n' ∉ (OutputFormat.debug.render token).toList :=
    Token.lineFeed_notMem_toDebug
  refine ⟨hline, fun tokens => ⟨?_, ?_⟩, ?_⟩
  · exact OutputFormat.splitOn_print hline tokens
  · exact OutputFormat.count_lineFeed_print hline tokens
  · exact OutputFormat.print_injective hline Token.toDebug_injective

-- a value of escapes, and one that would end its quotes and its line
example :
    OutputFormat.debug.print [⟨.literal, "\\n\\u\x7ba\x7d"⟩, ⟨.unknown, "\" \x7d\n\x07"⟩] =
      "Token \x7b token_type: Literal, value: \"\\\\n\\\\u\x7ba\x7d\" \x7d\n" ++
        "Token \x7b token_type: Unknown, value: \"\\\" \x7d\\n\\u\x7b7\x7d\" \x7d\n" := by
  decide +kernel

end SqlLexer
