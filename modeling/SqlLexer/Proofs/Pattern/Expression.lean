import SqlLexer.Proofs.Pattern.Committed

/-!
Expressions: patterns with conditions on the places between them. A condition takes no character of the
text; it looks at what stands before a place and behind it. The rules for identifiers are two
expressions, and the search for one finds what the rule accepts.
-/

namespace SqlLexer

/-- The characters of words as a boundary has them: those of words in ASCII, and beyond ASCII any. -/
structure WordClass where
  contains : Char → Bool
  contains_of_ascii : ∀ c, c.toNat < 128 → contains c = isWordChar c

/-- The characters of words when some characters beyond ASCII are among them. -/
def WordClass.ofBeyond (more : Char → Bool) : WordClass where
  contains c := if c.toNat < 128 then isWordChar c else more c
  contains_of_ascii _ h := if_pos h

instance : Inhabited WordClass := ⟨.ofBeyond fun _ => false⟩

/-- A condition on a place in a text. -/
inductive Condition
  | start
  /-- The end of the text itself. No place before a line feed will do. -/
  | finish
  /-- The beginning or the end of a word. -/
  | boundary
  deriving DecidableEq, Repr

/-- Whether a place with certain texts before it and behind it satisfies a condition. At a boundary
there is a character of a word on one side, and on the other side there is none. -/
def Condition.holds (words : WordClass) (before behind : List Char) : Condition → Bool
  | start => before.isEmpty
  | finish => behind.isEmpty
  | boundary => before.getLast?.any words.contains != behind.head?.any words.contains

/-- Patterns and conditions one behind the other. -/
inductive Expression
  | done
  | place (condition : Condition) (more : Expression)
  | text (pattern : Pattern) (more : Expression)
  deriving DecidableEq, Repr

namespace Expression

variable {words : WordClass} {before behind cs : List Char} {p : Pattern}

/-- Whether an expression matches from a place on. Each way in which a pattern matches is tried. -/
def matchesAt (words : WordClass) : Expression → List Char → List Char → Bool
  | done, _, _ => true
  | place condition more, before, behind =>
    condition.holds words before behind && more.matchesAt words before behind
  | text pattern more, before, behind =>
    (pattern.rests behind).any fun rest =>
      more.matchesAt words (before ++ behind.take (behind.length - rest.length)) rest

/-- Whether an expression matches at some place of a text. -/
def found (words : WordClass) (e : Expression) (cs : List Char) : Bool :=
  (List.range (cs.length + 1)).any fun i => e.matchesAt words (cs.take i) (cs.drop i)

theorem matchesAt_place_iff {condition : Condition} {more : Expression} :
    (place condition more).matchesAt words before behind = true ↔
      condition.holds words before behind = true ∧ more.matchesAt words before behind = true :=
  Bool.and_eq_true_iff

theorem matchesAt_text_iff {more : Expression} :
    (text p more).matchesAt words before behind = true ↔
      ∃ s ∈ p.language, ∃ rest, s ++ rest = behind ∧
        more.matchesAt words (before ++ s) rest = true := by
  have htaken (s rest : List Char) : (s ++ rest).take ((s ++ rest).length - rest.length) = s := by
    rw [List.length_append, Nat.add_sub_cancel, List.take_left]
  rw [matchesAt, List.any_eq_true]
  constructor
  · rintro ⟨rest, hrest, hmore⟩
    obtain ⟨s, hs, rfl⟩ := (Pattern.mem_rests_iff _ _ _).1 hrest
    rw [htaken] at hmore
    exact ⟨s, hs, rest, rfl, hmore⟩
  · rintro ⟨s, hs, rest, rfl, hmore⟩
    refine ⟨rest, (Pattern.mem_rests_iff _ _ _).2 ⟨s, hs, rfl⟩, ?_⟩
    rwa [htaken]

/-- What must begin at the start of a text is found there or not at all. -/
theorem found_start_iff {e : Expression} :
    (place .start e).found words cs = true ↔ e.matchesAt words [] cs = true := by
  rw [found, List.any_eq_true]
  constructor
  · rintro ⟨i, hi, hmatches⟩
    obtain ⟨hstart, hmatches⟩ := matchesAt_place_iff.1 hmatches
    have hnil : cs.take i = [] := List.isEmpty_iff.1 hstart
    have hdrop : cs.drop i = cs := by
      have happend := List.take_append_drop i cs
      rwa [hnil, List.nil_append] at happend
    rwa [hnil, hdrop] at hmatches
  · intro hmatches
    exact ⟨0, List.mem_range.2 (Nat.succ_pos _), matchesAt_place_iff.2 ⟨rfl, hmatches⟩⟩

theorem matchesAt_finish_iff :
    (place .finish done).matchesAt words before behind = true ↔ behind = [] := by
  rw [matchesAt_place_iff]
  exact (and_iff_left rfl).trans List.isEmpty_iff

theorem found_whole_iff :
    (place .start (text p (place .finish done))).found words cs = true ↔ cs ∈ p.language := by
  rw [found_start_iff, matchesAt_text_iff]
  constructor
  · rintro ⟨s, hs, rest, rfl, hfinish⟩
    rwa [matchesAt_finish_iff.1 hfinish, List.append_nil]
  · exact fun h => ⟨cs, h, [], List.append_nil cs, matchesAt_finish_iff.2 rfl⟩

/-- At the end of a text there is a boundary if the last character is one of a word. -/
theorem found_whole_boundary_iff :
    (place .start (text p (place .boundary (place .finish done)))).found words cs = true ↔
      cs ∈ p.language ∧ cs.getLast?.any words.contains = true := by
  rw [found_start_iff, matchesAt_text_iff]
  constructor
  · rintro ⟨s, hs, rest, rfl, hmore⟩
    obtain ⟨hboundary, hfinish⟩ := matchesAt_place_iff.1 hmore
    obtain rfl := matchesAt_finish_iff.1 hfinish
    rw [List.append_nil]
    exact ⟨hs, by simpa [Condition.holds] using hboundary⟩
  · rintro ⟨hcs, hlast⟩
    refine ⟨cs, hcs, [], List.append_nil cs, matchesAt_place_iff.2 ⟨?_, matchesAt_finish_iff.2 rfl⟩⟩
    simpa [Condition.holds] using hlast

end Expression

/-! The rules for identifiers. -/

def CharSet.wordStartOrSpace : CharSet where
  ranges := [('A', 'Z'), (' ', ' '), ('a', 'z'), ('_', '_')]

theorem CharSet.contains_wordStartOrSpace (c : Char) :
    wordStartOrSpace.contains c = (isWordStart c || c == ' ') := by
  have hspace : c = ' ' ↔ c.toNat = 32 := Char.toNat_inj.symm
  rw [Bool.eq_iff_iff, contains_iff rfl, Bool.or_eq_true, isWordStart_iff, beq_iff_eq, hspace]
  simp [wordStartOrSpace]
  omega

theorem Pattern.mem_language_word_iff {cs : List Char} :
    cs ∈ word.language ↔ isWord cs = true := by
  constructor
  · rintro ⟨-, ⟨c, hc, rfl⟩, t, ht, rfl⟩
    rw [CharSet.contains_wordStart] at hc
    have hall := mem_language_star_char ht
    rw [CharSet.contains_wordChar] at hall
    exact Bool.and_eq_true_iff.2 ⟨hc, List.all_eq_true.2 hall⟩
  · intro h
    cases cs with
    | nil => cases h
    | cons c cs =>
        rw [isWord_cons, Bool.and_eq_true, List.all_eq_true] at h
        refine Language.append_mem_mul (a := [c]) ⟨c, ?_, rfl⟩ (mem_language_star_char_iff.2 ?_)
        · rw [CharSet.contains_wordStart, h.1]
        · rw [CharSet.contains_wordChar]
          exact h.2

namespace IdentifierRule

/-- The form that a rule asks for, as an expression. -/
def expression : IdentifierRule → Expression
  | word => .place .start (.text .word (.place .finish .done))
  | strict =>
    .place .start
      (.text (.plus (.char .wordStartOrSpace)) (.place .boundary (.place .finish .done)))

theorem toNat_lt_of_isWordStart {c : Char} (h : isWordStart c = true) : c.toNat < 128 := by
  rw [isWordStart_iff] at h
  omega

/-- Among letters, underscores and spaces only a space is no character of a word. -/
theorem contains_eq_ne_space (words : WordClass) {c : Char}
    (h : CharSet.wordStartOrSpace.contains c = true) : words.contains c = (c != ' ') := by
  rw [CharSet.contains_wordStartOrSpace, Bool.or_eq_true, beq_iff_eq] at h
  rcases h with hstart | rfl
  · have hne : c ≠ ' ' := by
      rintro rfl
      cases hstart
    rw [words.contains_of_ascii c (toNat_lt_of_isWordStart hstart),
      isWordChar_of_isWordStart hstart, bne_iff_ne.2 hne]
  · rw [words.contains_of_ascii ' ' (by decide)]
    rfl

theorem isStrict_iff {cs : List Char} :
    isStrict cs = true ↔
      cs ∈ (Pattern.plus (.char .wordStartOrSpace)).language ∧ cs.getLast?.any (· != ' ') = true := by
  have hcontains : CharSet.wordStartOrSpace.contains = fun c => isWordStart c || c == ' ' :=
    funext CharSet.contains_wordStartOrSpace
  rw [isStrict, Bool.and_eq_true, List.all_eq_true, Pattern.mem_language_plus_char_iff, hcontains]
  constructor
  · rintro ⟨hall, hlast⟩
    refine ⟨⟨?_, hall⟩, hlast⟩
    rintro rfl
    cases hlast
  · rintro ⟨⟨-, hall⟩, hlast⟩
    exact ⟨hall, hlast⟩

/-- A rule accepts the lexemes in which its expression is found. -/
theorem accepts_eq_found (rule : IdentifierRule) (words : WordClass) (text : String) :
    rule.accepts text = rule.expression.found words text.toList := by
  rw [Bool.eq_iff_iff]
  cases rule with
  | word => rw [expression, Expression.found_whole_iff, Pattern.mem_language_word_iff, accepts]
  | strict =>
      rw [expression, Expression.found_whole_boundary_iff, accepts, isStrict_iff]
      refine and_congr_right fun hmem => ?_
      have hall := (Pattern.mem_language_plus_char_iff.1 hmem).2
      cases hlast : text.toList.getLast? with
      | none => rfl
      | some c =>
          rw [Option.any_some, Option.any_some,
            contains_eq_ne_space words (hall c (List.mem_of_getLast? hlast))]

end IdentifierRule

end SqlLexer
