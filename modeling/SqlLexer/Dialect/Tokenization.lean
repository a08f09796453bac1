import SqlLexer.Dialect.Basic
import SqlLexer.Lexeme.Segmentation

/-!
Tokenization: lexemes become tokens from left to right. Each step makes one token of the lexeme where
it stands, together with the next one if the two are a keyword of two words. A lexeme that no rule
accepts becomes an unknown token, so there is no failure. The main statements give the steps one by
one.
-/

namespace SqlLexer

/-- One step of a tokenization: the place and text of its first lexeme, and the token made of it. -/
structure Step where
  position : Nat
  lexeme : String
  token : Token
  deriving DecidableEq, Repr

namespace Dialect

/-- The steps that a list of lexemes takes, the first of which is at `position`. -/
def steps (dialect : Dialect) (position : Nat) : List String → List Step
  | [] => []
  | [lexeme] => [⟨position, lexeme, ⟨.ofRule? (dialect.ruleFor? lexeme none), lexeme⟩⟩]
  | lexeme :: next :: lexemes =>
    match dialect.ruleFor? lexeme (some next) with
    | some .keywordPair =>
      ⟨position, lexeme, ⟨.keyword, lexeme ++ " " ++ next⟩⟩ :: dialect.steps (position + 2) lexemes
    | rule? =>
      ⟨position, lexeme, ⟨.ofRule? rule?, lexeme⟩⟩ :: dialect.steps (position + 1) (next :: lexemes)

@[simp] theorem steps_nil (dialect : Dialect) (position : Nat) : dialect.steps position [] = [] := rfl

/-- Two lexemes that are a keyword together make one token. -/
theorem steps_of_keywordPair {dialect : Dialect} {lexeme next : String}
    (h : dialect.ruleFor? lexeme (some next) = some .keywordPair) (position : Nat)
    (lexemes : List String) :
    dialect.steps position (lexeme :: next :: lexemes) =
      ⟨position, lexeme, ⟨.keyword, lexeme ++ " " ++ next⟩⟩ ::
        dialect.steps (position + 2) lexemes := by
  simp [steps, h]

/-- Any other lexeme makes a token by itself. -/
theorem steps_of_ne_keywordPair {dialect : Dialect} {lexeme : String} {lexemes : List String}
    (h : dialect.ruleFor? lexeme lexemes.head? ≠ some .keywordPair) (position : Nat) :
    dialect.steps position (lexeme :: lexemes) =
      ⟨position, lexeme, ⟨.ofRule? (dialect.ruleFor? lexeme lexemes.head?), lexeme⟩⟩ ::
        dialect.steps (position + 1) lexemes := by
  cases lexemes with
  | nil => rfl
  | cons next lexemes =>
      rw [List.head?_cons] at h ⊢
      rw [steps]
      split
      case h_1 hpair => exact absurd hpair h
      case h_2 => rfl

/-- The tokens of a list of lexemes. -/
def classify (dialect : Dialect) (lexemes : List String) : List Token :=
  (dialect.steps 0 lexemes).map Step.token

/-- The tokens of a query. -/
def tokenize (dialect : Dialect) (query : String) : List Token :=
  dialect.classify (segment query).lexemes

/-- The place where a tokenization begins to count does not show in its tokens. -/
theorem map_token_steps (dialect : Dialect) (position : Nat) (lexemes : List String) :
    (dialect.steps position lexemes).map Step.token = dialect.classify lexemes := by
  have hshift : ∀ q, (dialect.steps position lexemes).map Step.token =
      (dialect.steps q lexemes).map Step.token := by
    fun_induction dialect.steps position lexemes with
    | case1 => simp
    | case2 => simp [steps]
    | case3 p lexeme next lexemes hrule ih =>
        intro q
        simp [steps_of_keywordPair hrule, ih (q + 2)]
    | case4 p lexeme next lexemes hrule ih =>
        intro q
        have hne : dialect.ruleFor? lexeme (next :: lexemes).head? ≠ some .keywordPair := hrule
        simp [steps_of_ne_keywordPair hne, ih (q + 1)]
  exact hshift 0

end Dialect

end SqlLexer
