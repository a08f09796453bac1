import Mathlib.Data.List.Basic
import SqlLexer.Dialect.Tokenization

/-!
Classification as a recursion over the lexemes: one equation for each kind of step, and the induction
that follows the steps. Two lists of lexemes may be classified apart if no keyword of two words lies
across them.
-/

namespace SqlLexer

namespace Dialect

@[simp] theorem classify_nil (dialect : Dialect) : dialect.classify [] = [] := rfl

theorem classify_of_keywordPair {dialect : Dialect} {lexeme next : String}
    (h : dialect.ruleFor? lexeme (some next) = some .keywordPair) (lexemes : List String) :
    dialect.classify (lexeme :: next :: lexemes) =
      ⟨.keyword, lexeme ++ " " ++ next⟩ :: dialect.classify lexemes := by
  rw [classify, steps_of_keywordPair h, List.map_cons, map_token_steps]

theorem classify_of_ne_keywordPair {dialect : Dialect} {lexeme : String} {lexemes : List String}
    (h : dialect.ruleFor? lexeme lexemes.head? ≠ some .keywordPair) :
    dialect.classify (lexeme :: lexemes) =
      ⟨.ofRule? (dialect.ruleFor? lexeme lexemes.head?), lexeme⟩ :: dialect.classify lexemes := by
  rw [classify, steps_of_ne_keywordPair h, List.map_cons, map_token_steps]

/-- Induction along the steps of a classification. -/
@[elab_as_elim] theorem classify_induction (dialect : Dialect) {motive : List String → Prop}
    (nil : motive [])
    (pair : ∀ lexeme next lexemes, dialect.ruleFor? lexeme (some next) = some .keywordPair →
      motive lexemes → motive (lexeme :: next :: lexemes))
    (single : ∀ lexeme lexemes, dialect.ruleFor? lexeme lexemes.head? ≠ some .keywordPair →
      motive lexemes → motive (lexeme :: lexemes))
    (lexemes : List String) : motive lexemes := by
  fun_induction dialect.steps 0 lexemes with
  | case1 => exact nil
  | case2 position lexeme =>
      exact single lexeme [] (dialect.ruleFor?_none_ne_keywordPair lexeme) nil
  | case3 position lexeme next lexemes hrule ih => exact pair lexeme next lexemes hrule ih
  | case4 position lexeme next lexemes hrule ih => exact single lexeme (next :: lexemes) hrule ih

/-- The lexeme behind matters only if it completes a keyword. -/
theorem ruleFor?_of_not_pair {dialect : Dialect} {lexeme : String} {next? : Option String}
    (h : ∀ next ∈ next?, dialect.tables.isPair lexeme next = false) :
    dialect.ruleFor? lexeme next? = dialect.ruleFor? lexeme none := by
  have haccepts : (fun rule => dialect.accepts rule lexeme next?) =
      fun rule => dialect.accepts rule lexeme none := by
    funext rule
    cases rule with
    | keywordPair =>
        cases next? with
        | none => rfl
        | some next => simp [accepts, h next rfl]
    | keyword => rfl
    | punctuation => rfl
    | operator => rfl
    | literal => rfl
    | identifier => rfl
  rw [ruleFor?, haccepts]
  rfl

theorem classify_append {dialect : Dialect} {lexemes more : List String}
    (h : ∀ lexeme ∈ lexemes.getLast?, ∀ next ∈ more.head?,
      dialect.tables.isPair lexeme next = false) :
    dialect.classify (lexemes ++ more) = dialect.classify lexemes ++ dialect.classify more := by
  induction lexemes using dialect.classify_induction with
  | nil => rfl
  | pair lexeme next lexemes hrule ih =>
      have hlast : ∀ last ∈ lexemes.getLast?, ∀ next ∈ more.head?,
          dialect.tables.isPair last next = false :=
        fun last hlast => h last (List.mem_getLast?_cons (List.mem_getLast?_cons hlast))
      rw [classify_of_keywordPair hrule, List.cons_append, List.cons_append,
        classify_of_keywordPair hrule, ih hlast, List.cons_append]
  | single lexeme lexemes hrule ih =>
      have hlast : ∀ last ∈ lexemes.getLast?, ∀ next ∈ more.head?,
          dialect.tables.isPair last next = false :=
        fun last hlast => h last (List.mem_getLast?_cons hlast)
      -- only the last lexeme of the first list gets another one behind it
      have hsame : dialect.ruleFor? lexeme (lexemes ++ more).head? =
          dialect.ruleFor? lexeme lexemes.head? := by
        cases lexemes with
        | nil => exact ruleFor?_of_not_pair (h lexeme rfl)
        | cons next lexemes => rfl
      rw [classify_of_ne_keywordPair hrule, List.cons_append, classify_of_ne_keywordPair, hsame,
        ih hlast, List.cons_append]
      rwa [hsame]

end Dialect

end SqlLexer
