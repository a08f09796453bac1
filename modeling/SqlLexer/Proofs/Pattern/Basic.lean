import Mathlib.Computability.Language

/-!
Patterns for texts. A pattern is read in two ways: as the language of the texts that it matches, and
as an ordered search that tries alternatives from left to right and repeats as often as it can before
it settles for less. The main statement: the search finds all matches at the head of a text, and
nothing else.
-/

namespace SqlLexer

open Computability

/-- A set of characters, given by ranges that include both of their ends. A character is in the set if
it is in one of the ranges or, where the set is negated, in none. -/
structure CharSet where
  ranges : List (Char × Char)
  negated : Bool := false
  deriving DecidableEq, Repr

namespace CharSet

/-- Whether a character is in a set. -/
def contains (set : CharSet) (c : Char) : Bool :=
  (set.ranges.any fun (low, high) => low ≤ c && c ≤ high) != set.negated

/-- The set of one character. -/
def single (c : Char) : CharSet := { ranges := [(c, c)] }

@[simp] theorem contains_single (c d : Char) : (single c).contains d = (c == d) := by
  have hiff : c ≤ d ∧ d ≤ c ↔ c = d := Std.le_antisymm_iff
  simp [single, contains, ← Bool.decide_and, hiff, beq_eq_decide]

end CharSet

/-- A pattern for texts. -/
inductive Pattern
  /-- Nothing at all. -/
  | empty
  | char (set : CharSet)
  | seq (first second : Pattern)
  /-- Either of two patterns, the first one preferred. -/
  | either (first second : Pattern)
  /-- A pattern any number of times, more of them preferred. -/
  | star (body : Pattern)
  deriving DecidableEq, Repr

namespace Pattern

/-- A pattern at least once. -/
def plus (p : Pattern) : Pattern := seq p (star p)

/-- A pattern or nothing. -/
def optional (p : Pattern) : Pattern := either p empty

/-- The first of some patterns that matches. -/
def firstOf : List Pattern → Pattern
  | [] => char { ranges := [] }
  | [p] => p
  | p :: ps => either p (firstOf ps)

/-- The texts that a pattern matches as a whole. -/
def language : Pattern → Language Char
  | empty => 1
  | char set => {s | ∃ c, set.contains c = true ∧ s = [c]}
  | seq p q => p.language * q.language
  | either p q => p.language + q.language
  | star p => p.language∗

theorem append_mem_kstar {l : Language Char} {s t : List Char} (hs : s ∈ l) (ht : t ∈ l∗) :
    s ++ t ∈ l∗ := by
  have hle : l * l∗ ≤ l∗ := mul_kstar_le_kstar
  exact hle (Language.append_mem_mul hs ht)

theorem mem_language_char {set : CharSet} {s : List Char} :
    s ∈ (char set).language ↔ ∃ c, set.contains c = true ∧ s = [c] := Iff.rfl

theorem mem_language_star_char {set : CharSet} {s : List Char} (h : s ∈ (star (char set)).language) :
    ∀ c ∈ s, set.contains c = true := by
  obtain ⟨parts, rfl, hparts⟩ := Language.mem_kstar.1 h
  intro c hc
  obtain ⟨part, hpart, hc⟩ := List.mem_flatten.1 hc
  obtain ⟨d, hd, rfl⟩ := mem_language_char.1 (hparts part hpart)
  rwa [List.mem_singleton.1 hc]

theorem mem_language_firstOf {ps : List Pattern} {s : List Char} :
    s ∈ (firstOf ps).language ↔ ∃ p ∈ ps, s ∈ p.language := by
  fun_induction firstOf ps with
  | case1 => simp [mem_language_char, CharSet.contains]
  | case2 p => simp
  | case3 p ps hps ih => rw [language, Language.mem_add, ih, List.exists_mem_cons_iff]

/-- What a repeated step may leave of a text, the results of more repetitions first. A repetition that
takes no character is not made. -/
def restsOfStar (step : List Char → List (List Char)) (cs : List Char) : List (List Char) :=
  ((step cs).flatMap fun rest =>
    if rest.length < cs.length then restsOfStar step rest else []) ++ [cs]
termination_by cs.length

/-- What a pattern may leave of a text when it has matched the head of it, the preferred matches
first. -/
def rests : Pattern → List Char → List (List Char)
  | empty, cs => [cs]
  | char _, [] => []
  | char set, c :: cs => if set.contains c then [cs] else []
  | seq p q, cs => (p.rests cs).flatMap q.rests
  | either p q, cs => p.rests cs ++ q.rests cs
  | star p, cs => restsOfStar p.rests cs

/-- The language of a star holds what its body leaves of a text after some repetitions. -/
theorem mem_restsOfStar_iff {step : List Char → List (List Char)} {l : Language Char}
    (hstep : ∀ cs rest, rest ∈ step cs ↔ ∃ s ∈ l, s ++ rest = cs) (cs rest : List Char) :
    rest ∈ restsOfStar step cs ↔ ∃ s ∈ l∗, s ++ rest = cs := by
  constructor
  · intro hrest
    fun_induction restsOfStar step cs with
    | case1 cs ih =>
        rw [List.mem_append, List.mem_flatMap, List.mem_singleton] at hrest
        rcases hrest with ⟨middle, hmiddle, hrest⟩ | rfl
        · split at hrest
          case isTrue hlt =>
            obtain ⟨s, hs, rfl⟩ := (hstep cs middle).1 hmiddle
            obtain ⟨t, ht, rfl⟩ := ih middle hlt hrest
            refine ⟨s ++ t, ?_, List.append_assoc s t rest⟩
            exact append_mem_kstar hs ht
          case isFalse => cases hrest
        · exact ⟨[], Language.nil_mem_kstar l, rfl⟩
  · rintro ⟨s, hs, rfl⟩
    -- empty repetitions may be left out of a match, and the search makes none
    obtain ⟨parts, rfl, hparts⟩ := Language.mem_kstar_iff_exists_nonempty.1 hs
    clear hs
    induction parts with
    | nil => rw [restsOfStar]; simp
    | cons part parts ih =>
        obtain ⟨hpart, hparts⟩ := List.forall_mem_cons.1 hparts
        rw [restsOfStar, List.mem_append, List.mem_flatMap]
        refine Or.inl ⟨parts.flatten ++ rest, ?_, ?_⟩
        · exact (hstep _ _).2 ⟨part, hpart.1, by simp⟩
        · have hpos := List.length_pos_iff.2 hpart.2
          rw [if_pos (by simp; omega)]
          exact ih hparts

/-- The search finds all matches at the head of a text, and nothing else. -/
theorem mem_rests_iff (p : Pattern) (cs rest : List Char) :
    rest ∈ p.rests cs ↔ ∃ s ∈ p.language, s ++ rest = cs := by
  induction p generalizing cs rest with
  | empty => simp [rests, language, eq_comm]
  | char set =>
      cases cs with
      | nil => simp [rests, mem_language_char]
      | cons c cs =>
          simp only [rests, List.mem_ite_nil_right, List.mem_singleton, mem_language_char]
          constructor
          · rintro ⟨hc, rfl⟩
            exact ⟨[c], ⟨c, hc, rfl⟩, rfl⟩
          · rintro ⟨-, ⟨d, hd, rfl⟩, hcs⟩
            obtain ⟨rfl, rfl⟩ := List.cons.inj hcs
            exact ⟨hd, rfl⟩
  | seq p q ihp ihq =>
      simp only [rests, language, List.mem_flatMap, ihp, ihq, Language.mem_mul]
      constructor
      · rintro ⟨middle, ⟨s, hs, rfl⟩, t, ht, rfl⟩
        exact ⟨s ++ t, ⟨s, hs, t, ht, rfl⟩, List.append_assoc s t rest⟩
      · rintro ⟨-, ⟨s, hs, t, ht, rfl⟩, rfl⟩
        exact ⟨t ++ rest, ⟨s, hs, (List.append_assoc s t rest).symm⟩, t, ht, rfl⟩
  | either p q ihp ihq =>
      simp only [rests, language, List.mem_append, ihp, ihq, Language.mem_add]
      aesop
  | star p ih => exact mem_restsOfStar_iff ih cs rest

/-- The text behind the preferred match at the head of a text. -/
def rest? (p : Pattern) (cs : List Char) : Option (List Char) := (p.rests cs).head?

@[simp] theorem rest?_empty (cs : List Char) : empty.rest? cs = some cs := rfl

@[simp] theorem rest?_char_cons (set : CharSet) (c : Char) (cs : List Char) :
    (char set).rest? (c :: cs) = if set.contains c then some cs else none := by
  rw [rest?, rests]
  split <;> rfl

theorem rest?_seq_of_some {p q : Pattern} {cs middle rest : List Char}
    (hp : p.rest? cs = some middle) (hq : q.rest? middle = some rest) :
    (seq p q).rest? cs = some rest := by
  obtain ⟨more, hmore⟩ := List.head?_eq_some_iff.1 hp
  rw [rest?, rests, hmore, List.flatMap_cons, List.head?_append]
  rw [rest?] at hq
  rw [hq]
  rfl

theorem rest?_seq_of_none {p q : Pattern} {cs : List Char} (hp : p.rest? cs = none) :
    (seq p q).rest? cs = none := by
  rw [rest?, rests, List.head?_eq_none_iff.1 hp]
  rfl

theorem rest?_seq_char_cons (set : CharSet) (q : Pattern) (c : Char) (cs : List Char) :
    (seq (char set) q).rest? (c :: cs) = if set.contains c then q.rest? cs else none := by
  rw [rest?, rests, rests]
  split
  case isTrue => rw [List.flatMap_singleton, rest?]
  case isFalse => rfl

theorem rest?_either (p q : Pattern) (cs : List Char) :
    (either p q).rest? cs = (p.rest? cs).or (q.rest? cs) := List.head?_append

/-- A search that can leave one text only, leaves it. -/
theorem rest?_eq_some_of_unique {p : Pattern} {cs rest : List Char}
    (h : ∀ r, r ∈ p.rests cs ↔ r = rest) : p.rest? cs = some rest := by
  have hmem : rest ∈ p.rests cs := (h rest).2 rfl
  rw [rest?]
  cases hrests : p.rests cs with
  | nil => rw [hrests] at hmem; cases hmem
  | cons r rs => rw [List.head?_cons, (h r).1 (by rw [hrests]; exact List.mem_cons_self)]

/-- A star of single characters takes all of them that stand at the head of a text. -/
theorem rest?_star_char (set : CharSet) (cs : List Char) :
    (star (char set)).rest? cs = some (cs.dropWhile set.contains) := by
  rw [rest?, rests]
  induction cs with
  | nil => rw [restsOfStar]; rfl
  | cons c cs ih =>
      rw [restsOfStar, rests, List.dropWhile_cons]
      split
      · rw [List.flatMap_singleton, if_pos (by simp), List.head?_append, ih]
        rfl
      · rfl

theorem mem_rests_seq_char_iff {set : CharSet} {q : Pattern} {c : Char} {cs rest : List Char} :
    rest ∈ (seq (char set) q).rests (c :: cs) ↔ set.contains c = true ∧ rest ∈ q.rests cs := by
  rw [rests, rests]
  split <;> simp_all

theorem exists_append_of_mem_rests_star_char {set : CharSet} {cs rest : List Char}
    (h : rest ∈ (star (char set)).rests cs) :
    ∃ s, (∀ c ∈ s, set.contains c = true) ∧ s ++ rest = cs := by
  obtain ⟨s, hs, happend⟩ := (mem_rests_iff _ _ _).1 h
  exact ⟨s, mem_language_star_char hs, happend⟩

/-- The matches of a pattern in a text, each sought from where the one before it ends; an empty match
is left by one character. -/
def findAll (p : Pattern) : List Char → List (List Char)
  | [] => []
  | c :: cs =>
    match p.rest? (c :: cs) with
    | none => findAll p cs
    | some rest =>
      (c :: cs).take (cs.length + 1 - rest.length) ::
        if rest.length ≤ cs.length then findAll p rest else findAll p cs
termination_by cs => cs.length

end Pattern

end SqlLexer
