import Mathlib.Data.List.Find
import Mathlib.Data.List.Forall2
import SqlLexer.Proofs.Fusion

/-!
Two dialects in lockstep. Whether a step takes one lexeme or two depends on nothing but the pairs that
make a keyword. So two dialects with the same pairs take the same steps over a list of lexemes,
whatever else they know, and what relates their tokens for each lexeme by itself relates all of them.
-/

namespace SqlLexer

namespace Tables

variable {tables tables' : Tables}

/-- The same keywords and the same pairs among some lexemes put fused lexemes at the same places. -/
theorem pairAt_congr {lexemes : List String}
    (hkeyword : ∀ lexeme ∈ lexemes, tables.isKeyword lexeme = tables'.isKeyword lexeme)
    (hpair : ∀ i first second, lexemes[i]? = some first → lexemes[i + 1]? = some second →
      tables.isPair first second = tables'.isPair first second) (i : ℕ) :
    tables.pairAt lexemes i = tables'.pairAt lexemes i := by
  rw [pairAt, pairAt]
  split
  case h_1 first second hfirst hsecond =>
    rw [hkeyword first (List.mem_of_getElem? hfirst), hpair i first second hfirst hsecond]
  case h_2 => rfl

end Tables

namespace Dialect

variable {dialect dialect' : Dialect} {lexemes : List String}

theorem lone_congr {lexeme : String}
    (h : ∀ rule ∈ Rule.loneOrder,
      dialect.accepts rule lexeme none = dialect'.accepts rule lexeme none) :
    dialect.lone lexeme = dialect'.lone lexeme := by
  rw [lone, lone, List.find?_congr h]

/-- A lexeme by itself becomes a keyword only if it is one. -/
theorem type_lone_eq_keyword_iff {lexeme : String} :
    (dialect.lone lexeme).type = .keyword ↔ dialect.tables.isKeyword lexeme = true := by
  constructor
  · intro htype
    rw [lone] at htype
    cases hrule : Rule.loneOrder.find? fun rule => dialect.accepts rule lexeme none with
    | none =>
        rw [hrule] at htype
        cases htype
    | some rule =>
        have haccepts := List.find?_some hrule
        rw [hrule] at htype
        cases rule with
        | keyword => exact haccepts
        | keywordPair => exact absurd (List.mem_of_find?_eq_some hrule) (by decide)
        | punctuation => cases htype
        | operator => cases htype
        | literal => cases htype
        | identifier => cases htype
  · intro hkeyword
    rw [lone_of_isKeyword hkeyword]

/-- Tokens are related all along if they are so for each lexeme by itself and for all keywords of two
words. -/
theorem forall₂_classify {R : Token → Token → Prop}
    (hpair : ∀ i, dialect.tables.pairAt lexemes i = dialect'.tables.pairAt lexemes i)
    (hfused : ∀ value, R ⟨.keyword, value⟩ ⟨.keyword, value⟩)
    (hlone : ∀ lexeme ∈ lexemes, R (dialect.lone lexeme) (dialect'.lone lexeme)) :
    List.Forall₂ R (dialect.classify lexemes) (dialect'.classify lexemes) := by
  induction lexemes using dialect.classify_induction with
  | nil => exact .nil
  | pair first second lexemes hrule ih =>
      have hhere : dialect.tables.pairAt (first :: second :: lexemes) 0 = true :=
        ruleFor?_eq_keywordPair_iff.1 hrule
      have hthere : dialect'.tables.pairAt (first :: second :: lexemes) 0 = true :=
        (hpair 0).symm.trans hhere
      rw [classify_of_pairAt hhere, classify_of_pairAt hthere]
      refine .cons (hfused _) (ih (fun i => hpair (i + 2)) fun lexeme hlexeme => ?_)
      exact hlone lexeme (List.mem_cons_of_mem _ (List.mem_cons_of_mem _ hlexeme))
  | single lexeme lexemes hrule ih =>
      have hhere : dialect.tables.pairAt (lexeme :: lexemes) 0 = false := by
        rwa [ne_eq, ruleFor?_eq_keywordPair_iff, Bool.not_eq_true] at hrule
      have hthere : dialect'.tables.pairAt (lexeme :: lexemes) 0 = false :=
        (hpair 0).symm.trans hhere
      obtain ⟨hfirst, hrest⟩ := List.forall_mem_cons.1 hlone
      rw [classify_of_not_pairAt hhere, classify_of_not_pairAt hthere]
      exact .cons hfirst (ih (fun i => hpair (i + 1)) hrest)

end Dialect

end SqlLexer
