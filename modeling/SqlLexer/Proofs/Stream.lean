import Mathlib.Data.List.Basic
import SqlLexer.Text.Line

/-!
Streams of bytes. There is one way to cut a stream behind its line feeds. A line feed has no part in
the UTF-8 code of another character, so a stream is UTF-8 if and only if all its lines are. What is
read of a line that is UTF-8 is its text up to the white space at the end.
-/

namespace SqlLexer.Text

/-- The bytes of a text in UTF-8. -/
def utf8 (cs : List Char) : List UInt8 := cs.flatMap String.utf8EncodeChar

@[simp] theorem utf8_nil : utf8 [] = [] := rfl

@[simp] theorem utf8_cons (c : Char) (cs : List Char) :
    utf8 (c :: cs) = String.utf8EncodeChar c ++ utf8 cs := rfl

@[simp] theorem utf8_append (cs ds : List Char) : utf8 (cs ++ ds) = utf8 cs ++ utf8 ds :=
  List.flatMap_append

@[simp] theorem utf8EncodeChar_lineFeed : String.utf8EncodeChar '\n' = [lineFeed] := by decide

/-- Some bytes are those of a text. -/
def IsUtf8 (bytes : List UInt8) : Prop := ∃ cs, utf8 cs = bytes

theorem decode?_eq_some_iff {bytes : List UInt8} {text : String} :
    decode? bytes = some text ↔ utf8 text.toList = bytes := by
  have hbytes : text.toByteArray = ⟨bytes.toArray⟩ ↔ utf8 text.toList = bytes := by
    rw [← String.utf8Encode_toList, List.utf8Encode, ByteArray.ext_iff, ← Array.toList_inj,
      List.toList_data_toByteArray]
    rfl
  rw [decode?, String.fromUTF8?, ← hbytes]
  constructor
  · intro h
    split at h
    case isTrue hvalid =>
      obtain rfl := Option.some_inj.1 h
      rfl
    case isFalse => cases h
  · intro h
    rw [dif_pos (h ▸ text.isValidUTF8)]
    exact congrArg some (String.toByteArray_inj.1 h.symm)

theorem decode?_eq_none_iff {bytes : List UInt8} : decode? bytes = none ↔ ¬IsUtf8 bytes := by
  rw [Option.eq_none_iff_forall_ne_some, IsUtf8, not_exists]
  constructor
  · intro h cs hcs
    exact h (String.ofList cs) (decode?_eq_some_iff.2 (by rwa [String.toList_ofList]))
  · intro h text htext
    exact h text.toList (decode?_eq_some_iff.1 htext)

theorem utf8_injective : Function.Injective utf8 := by
  intro cs ds h
  have hdecode (es : List Char) : decode? (utf8 es) = some (String.ofList es) :=
    decode?_eq_some_iff.2 (by rw [String.toList_ofList])
  have htexts := (hdecode cs).symm.trans (h ▸ hdecode ds)
  exact String.ofList_injective (Option.some_inj.1 htexts)

/-! The byte of a line feed. -/

/-- The bytes of a character beyond ASCII are beyond ASCII too. -/
theorem le_toNat_of_mem_utf8EncodeChar {c : Char} {b : UInt8} (hc : 127 < c.toNat)
    (h : b ∈ String.utf8EncodeChar c) : 128 ≤ b.toNat := by
  have hlarge : ¬c.val.toNat ≤ 127 := Nat.not_le.2 hc
  simp only [String.utf8EncodeChar, if_neg hlarge] at h
  repeat' split at h
  all_goals
    simp only [List.mem_cons, List.not_mem_nil, or_false] at h
    rcases h with rfl | rfl | rfl | rfl
    all_goals
      rw [UInt8.toNat_ofNat']
      omega

/-- The code of a character of ASCII is one byte. -/
theorem utf8EncodeChar_of_le {c : Char} (hc : c.toNat ≤ 127) :
    String.utf8EncodeChar c = [UInt8.ofNat c.toNat] :=
  if_pos hc

/-- A byte of ASCII has a part in the code of one character only. -/
theorem mem_utf8EncodeChar_iff {b : UInt8} (hb : b.toNat ≤ 127) {c : Char} :
    b ∈ String.utf8EncodeChar c ↔ c.toNat = b.toNat := by
  by_cases hc : c.toNat ≤ 127
  · have hbyte : (UInt8.ofNat c.toNat).toNat = c.toNat := by
      rw [UInt8.toNat_ofNat', Nat.mod_eq_of_lt (by omega)]
    rw [utf8EncodeChar_of_le hc, List.mem_singleton, ← UInt8.toNat_inj, hbyte, eq_comm]
  · constructor
    · intro h
      have hle := le_toNat_of_mem_utf8EncodeChar (Nat.not_le.1 hc) h
      omega
    · intro h
      omega

theorem lineFeed_mem_utf8EncodeChar {c : Char} :
    lineFeed ∈ String.utf8EncodeChar c ↔ c = '\n' := by
  have hlineFeed : lineFeed.toNat = '\n'.toNat := rfl
  rw [mem_utf8EncodeChar_iff (by decide), hlineFeed, Char.toNat_inj]

theorem lineFeed_mem_utf8 {cs : List Char} : lineFeed ∈ utf8 cs ↔ '\n' ∈ cs := by
  rw [utf8, List.mem_flatMap]
  constructor
  · rintro ⟨c, hc, hmem⟩
    rwa [← lineFeed_mem_utf8EncodeChar.1 hmem]
  · exact fun h => ⟨'\n', h, lineFeed_mem_utf8EncodeChar.2 rfl⟩

/-- Where the bytes of a text have a line feed, the text has one. -/
theorem exists_of_utf8_eq_append {cs : List Char} {bytes rest : List UInt8}
    (h : utf8 cs = bytes ++ lineFeed :: rest) :
    ∃ before behind, before ++ '\n' :: behind = cs ∧ utf8 before = bytes ∧ utf8 behind = rest := by
  induction cs generalizing bytes with
  | nil => simp at h
  | cons c cs ih =>
      rw [utf8_cons] at h
      rcases List.append_eq_append_iff.1 h with ⟨more, rfl, htail⟩ | ⟨more, hcode, htail⟩
      · obtain ⟨before, behind, rfl, rfl, rfl⟩ := ih htail
        exact ⟨c :: before, behind, rfl, rfl, rfl⟩
      · cases more with
        | nil =>
            rw [List.append_nil] at hcode
            have hrest : utf8 cs = [] ++ lineFeed :: rest := htail.symm
            obtain ⟨before, behind, rfl, hbefore, rfl⟩ := ih hrest
            refine ⟨c :: before, behind, rfl, ?_, rfl⟩
            rw [utf8_cons, hbefore, List.append_nil, hcode]
        | cons b more =>
            -- the line feed is part of the code of the first character
            obtain ⟨rfl, rfl⟩ := List.cons.inj htail
            obtain rfl : c = '\n' := lineFeed_mem_utf8EncodeChar.1 (by simp [hcode])
            rw [utf8EncodeChar_lineFeed, List.singleton_eq_append_iff] at hcode
            obtain ⟨rfl, hmore⟩ | ⟨-, hmore⟩ := hcode
            · obtain rfl := (List.cons.inj hmore).2
              exact ⟨[], cs, rfl, rfl, rfl⟩
            · cases hmore

theorem isUtf8_append_lineFeed_iff {bytes rest : List UInt8} :
    IsUtf8 (bytes ++ lineFeed :: rest) ↔ IsUtf8 (bytes ++ [lineFeed]) ∧ IsUtf8 rest := by
  constructor
  · rintro ⟨cs, hcs⟩
    obtain ⟨before, behind, rfl, rfl, rfl⟩ := exists_of_utf8_eq_append hcs
    exact ⟨⟨before ++ ['\n'], by simp⟩, behind, rfl⟩
  · rintro ⟨⟨cs, hcs⟩, ds, rfl⟩
    exact ⟨cs ++ ds, by rw [utf8_append, hcs, List.append_assoc, List.singleton_append]⟩

/-! The lines of a stream. -/

theorem lines_of_notMem {bytes : List UInt8} (h : lineFeed ∉ bytes) (hne : bytes ≠ []) :
    lines bytes = [bytes] := by
  induction bytes with
  | nil => exact absurd rfl hne
  | cons b bytes ih =>
      rw [List.mem_cons, not_or] at h
      obtain ⟨hb, hbytes⟩ := h
      rw [lines, if_neg (Ne.symm hb)]
      cases bytes with
      | nil => rfl
      | cons next bytes => rw [ih hbytes (List.cons_ne_nil _ _)]

theorem lines_append_lineFeed {bytes : List UInt8} (h : lineFeed ∉ bytes) (rest : List UInt8) :
    lines (bytes ++ lineFeed :: rest) = (bytes ++ [lineFeed]) :: lines rest := by
  induction bytes with
  | nil => exact lines_lineFeed_cons rest
  | cons b bytes ih =>
      rw [List.mem_cons, not_or] at h
      obtain ⟨hb, hbytes⟩ := h
      rw [List.cons_append, lines, if_neg (Ne.symm hb), ih hbytes]
      rfl

/-- Induction along the lines of a stream. -/
@[elab_as_elim] theorem lines_induction {motive : List UInt8 → Prop} (nil : motive [])
    (last : ∀ bytes, lineFeed ∉ bytes → bytes ≠ [] → motive bytes)
    (line : ∀ bytes rest, lineFeed ∉ bytes → motive rest → motive (bytes ++ lineFeed :: rest))
    (bytes : List UInt8) : motive bytes := by
  induction hlength : bytes.length using Nat.strongRecOn generalizing bytes with
  | ind n ih =>
      by_cases hmem : lineFeed ∈ bytes
      · obtain ⟨first, rest, rfl, hfirst⟩ := List.eq_append_cons_of_mem hmem
        refine line first rest hfirst (ih rest.length ?_ rest rfl)
        rw [← hlength, List.length_append, List.length_cons]
        omega
      · by_cases hnil : bytes = []
        · exact hnil ▸ nil
        · exact last bytes hmem hnil

/-- Pieces of a stream that has been cut behind each line feed and nowhere else. -/
structure IsCut (bytes : List UInt8) (pieces : List (List UInt8)) : Prop where
  flatten_eq : pieces.flatten = bytes
  ne_nil : ∀ piece ∈ pieces, piece ≠ []
  lineFeed_last : ∀ piece ∈ pieces, lineFeed ∉ piece.dropLast
  ended : ∀ piece ∈ pieces.dropLast, piece.getLast? = some lineFeed

theorem getLast?_of_mem_dropLast_lines {bytes line : List UInt8}
    (h : line ∈ (lines bytes).dropLast) : line.getLast? = some lineFeed := by
  induction bytes using lines_induction with
  | nil => cases h
  | last bytes hbytes hne =>
      rw [lines_of_notMem hbytes hne] at h
      cases h
  | line bytes rest hbytes ih =>
      rw [lines_append_lineFeed hbytes] at h
      by_cases hnil : lines rest = []
      · rw [hnil] at h
        cases h
      · rw [List.dropLast_cons_of_ne_nil hnil, List.mem_cons] at h
        rcases h with rfl | h
        · exact List.getLast?_concat
        · exact ih h

theorem isCut_lines (bytes : List UInt8) : IsCut bytes (lines bytes) where
  flatten_eq := flatten_lines bytes
  ne_nil _ h := ne_nil_of_mem_lines h
  lineFeed_last _ h := lineFeed_notMem_dropLast h
  ended _ h := getLast?_of_mem_dropLast_lines h

/-- A piece that ends with a line feed is a line, whatever stands behind it. -/
theorem lines_append {piece : List UInt8} (hlast : lineFeed ∉ piece.dropLast)
    (hended : piece.getLast? = some lineFeed) (rest : List UInt8) :
    lines (piece ++ rest) = piece :: lines rest := by
  obtain ⟨bytes, rfl⟩ := List.getLast?_eq_some_iff.1 hended
  rw [List.dropLast_concat] at hlast
  rw [List.append_assoc, List.singleton_append, lines_append_lineFeed hlast]

theorem lines_flatten_append {pieces : List (List UInt8)}
    (hlast : ∀ piece ∈ pieces, lineFeed ∉ piece.dropLast)
    (hended : ∀ piece ∈ pieces, piece.getLast? = some lineFeed) (rest : List UInt8) :
    lines (pieces.flatten ++ rest) = pieces ++ lines rest := by
  induction pieces with
  | nil => rfl
  | cons piece pieces ih =>
      obtain ⟨hfirst, hlast⟩ := List.forall_mem_cons.1 hlast
      obtain ⟨hend, hended⟩ := List.forall_mem_cons.1 hended
      rw [List.flatten_cons, List.append_assoc, lines_append hfirst hend, ih hlast hended,
        List.cons_append]

theorem lines_of_piece {piece : List UInt8} (hne : piece ≠ [])
    (hlast : lineFeed ∉ piece.dropLast) : lines piece = [piece] := by
  by_cases hended : piece.getLast? = some lineFeed
  · have happend := lines_append hlast hended []
    rwa [List.append_nil, lines_nil] at happend
  · refine lines_of_notMem (fun hmem => hended ?_) hne
    rw [← List.dropLast_concat_getLast hne, List.mem_append, or_iff_right hlast,
      List.mem_singleton] at hmem
    rw [List.getLast?_eq_some_getLast hne, hmem]

/-- There is one way to cut a stream. -/
theorem IsCut.eq_lines {bytes : List UInt8} {pieces : List (List UInt8)} (h : IsCut bytes pieces) :
    pieces = lines bytes := by
  obtain ⟨rfl, hne, hlast, hended⟩ := h
  induction pieces with
  | nil => rfl
  | cons piece pieces ih =>
      obtain ⟨hpiece, hne⟩ := List.forall_mem_cons.1 hne
      obtain ⟨hfirst, hlast⟩ := List.forall_mem_cons.1 hlast
      by_cases hnil : pieces = []
      · rw [hnil, List.flatten_singleton, lines_of_piece hpiece hfirst]
      · rw [List.dropLast_cons_of_ne_nil hnil] at hended
        obtain ⟨hend, hended⟩ := List.forall_mem_cons.1 hended
        rw [List.flatten_cons, lines_append hfirst hend, ← ih hne hlast hended]

/-- The lines of a stream up to one that has ended are its lines in any other continuation. -/
theorem lines_append_of_lines {bytes stop : List UInt8} {before after : List (List UInt8)}
    (h : before ++ stop :: after = lines bytes) (hended : stop.getLast? = some lineFeed)
    (more : List UInt8) : lines (before.flatten ++ stop ++ more) = before ++ stop :: lines more := by
  obtain ⟨-, -, hlast, hdropLast⟩ := h ▸ isCut_lines bytes
  have hdrop : (before ++ stop :: after).dropLast = before ++ (stop :: after).dropLast :=
    List.dropLast_append_of_ne_nil (List.cons_ne_nil _ _)
  have hlines := lines_flatten_append (fun piece hpiece => hlast piece (List.mem_append_left _ hpiece))
    (fun piece hpiece => hdropLast piece (hdrop ▸ List.mem_append_left _ hpiece)) (stop ++ more)
  rw [List.append_assoc, hlines, lines_append (hlast stop (by simp)) hended]

theorem isUtf8_iff_forall_lines {bytes : List UInt8} :
    IsUtf8 bytes ↔ ∀ line ∈ lines bytes, IsUtf8 line := by
  induction bytes using lines_induction with
  | nil => exact iff_of_true ⟨[], rfl⟩ (by simp)
  | last bytes hbytes hne => rw [lines_of_notMem hbytes hne, List.forall_mem_singleton]
  | line bytes rest hbytes ih =>
      rw [lines_append_lineFeed hbytes, List.forall_mem_cons, isUtf8_append_lineFeed_iff, ih]

/-! The text on a line. -/

/-- A line holds a text: it is the text with nothing but white space behind it, and the text itself
does not end in white space. -/
def Holds (line : List UInt8) (text : String) : Prop :=
  ∃ blanks, isBlankText blanks = true ∧ utf8 (text.toList ++ blanks) = line ∧
    ∀ c ∈ text.toList.getLast?, isBlank c = false

theorem Holds.isUtf8 {line : List UInt8} {text : String} (h : Holds line text) : IsUtf8 line := by
  obtain ⟨blanks, -, hbytes, -⟩ := h
  exact ⟨text.toList ++ blanks, hbytes⟩

/-- The text on a line does not have the line feed at the end of the line. -/
theorem Holds.lineFeed_notMem {line : List UInt8} {text : String} (h : Holds line text)
    (hlast : lineFeed ∉ line.dropLast) : '\n' ∉ text.toList := by
  obtain ⟨blanks, -, rfl, hend⟩ := h
  intro hmem
  obtain ⟨before, behind, htext⟩ := List.append_of_mem hmem
  rw [htext] at hlast hend
  by_cases hbehind : behind = []
  · -- the line feed would be white space at the end of the text
    rw [hbehind] at hend
    exact absurd (hend '\n' List.getLast?_concat) (by decide)
  · refine hlast ?_
    have hne : utf8 (behind ++ blanks) ≠ [] := by
      intro hnil
      have hchars := utf8_injective (hnil.trans utf8_nil.symm)
      exact hbehind (List.append_eq_nil_iff.1 hchars).1
    rw [List.append_assoc, List.cons_append, utf8_append, utf8_cons, utf8EncodeChar_lineFeed,
      List.singleton_append, List.dropLast_append_of_ne_nil (List.cons_ne_nil _ _),
      List.dropLast_cons_of_ne_nil hne]
    exact List.mem_append_right _ List.mem_cons_self

theorem trimEnd_append_blank {blanks : List Char} (h : isBlankText blanks = true)
    (cs : List Char) : trimEnd (cs ++ blanks) = trimEnd cs := by
  rw [trimEnd, List.reverse_append, List.dropWhile_append_of_pos, trimEnd]
  intro c hc
  exact List.all_eq_true.1 h c (List.mem_reverse.1 hc)

theorem trimEnd_of_not_blank {cs : List Char} (h : ∀ c ∈ cs.getLast?, isBlank c = false) :
    trimEnd cs = cs := by
  rcases List.eq_nil_or_concat cs with rfl | ⟨cs, c, rfl⟩
  · rfl
  · rw [List.concat_eq_append] at h ⊢
    rw [trimEnd, List.reverse_concat, List.dropWhile_cons_of_neg, List.reverse_cons,
      List.reverse_reverse]
    simpa using h c List.getLast?_concat

/-- A text without the white space at its end. -/
def trimmed (text : String) : String := String.ofList (trimEnd text.toList)

@[simp] theorem toList_trimmed (text : String) : (trimmed text).toList = trimEnd text.toList :=
  String.toList_ofList

theorem holds_trimmed (text : String) {blanks : List Char} (h : isBlankText blanks = true) :
    Holds (utf8 (text.toList ++ blanks)) (trimmed text) := by
  obtain ⟨taken, htaken, happend⟩ := trimEnd_append_trimmed text.toList
  refine ⟨taken ++ blanks, ?_, ?_, ?_⟩
  · rw [isBlankText_append, htaken, h, Bool.and_self]
  · rw [toList_trimmed, ← List.append_assoc, ← happend]
  · rw [toList_trimmed]
    exact fun c hc => isBlank_of_getLast?_trimEnd hc

theorem command?_eq_some_iff {line : List UInt8} {text : String} :
    command? line = some text ↔ Holds line text := by
  rw [command?, Option.map_eq_some_iff]
  constructor
  · rintro ⟨whole, hwhole, rfl⟩
    have hholds := holds_trimmed whole isBlankText_nil
    rwa [List.append_nil, decode?_eq_some_iff.1 hwhole] at hholds
  · rintro ⟨blanks, hblanks, rfl, hlast⟩
    refine ⟨String.ofList (text.toList ++ blanks), ?_, ?_⟩
    · rw [decode?_eq_some_iff, String.toList_ofList]
    · rw [String.toList_ofList, trimEnd_append_blank hblanks, trimEnd_of_not_blank hlast,
        String.ofList_toList]

theorem command?_eq_none_iff {line : List UInt8} : command? line = none ↔ ¬IsUtf8 line := by
  rw [command?, Option.map_eq_none_iff, decode?_eq_none_iff]

end SqlLexer.Text
