import SqlLexer.Proofs.Facts
import SqlLexer.Proofs.Lockstep

/-!
What is relevant to a classification. It asks the tables about the lexemes that are there and about
those that stand side by side, and it asks nothing else. So tables that answer these questions alike
give the same tokens, and an addition that concerns none of the lexemes has no effect.
-/

namespace SqlLexer

/-- The lexemes that stand side by side. -/
def neighbours (lexemes : List String) : List (String × String) := lexemes.zip lexemes.tail

theorem mem_neighbours {lexemes : List String} {i : ℕ} {first second : String}
    (hfirst : lexemes[i]? = some first) (hsecond : lexemes[i + 1]? = some second) :
    (first, second) ∈ neighbours lexemes := by
  rw [← List.getElem?_tail] at hsecond
  exact List.mem_of_getElem? (List.getElem?_zip_eq_some.2 ⟨hfirst, hsecond⟩)

namespace Tables

/-- Tables answer alike what a classification of some lexemes asks of them. -/
structure AgreeOn (lexemes : List String) (tables tables' : Tables) : Prop where
  keyword : ∀ lexeme ∈ lexemes, tables.isKeyword lexeme = tables'.isKeyword lexeme
  pair : ∀ p ∈ neighbours lexemes, tables.isPair p.1 p.2 = tables'.isPair p.1 p.2
  punctuation : ∀ lexeme ∈ lexemes, tables.isPunctuation lexeme = tables'.isPunctuation lexeme
  operator : ∀ lexeme ∈ lexemes, tables.isOperator lexeme = tables'.isOperator lexeme

/-- An addition brings one of some lexemes, or two of them that stand side by side as a keyword. -/
def Addition.Concerns (lexemes : List String) (addition : Addition) : Prop :=
  (∃ lexeme ∈ lexemes, addition.bringsKeyword lexeme = true ∨
    addition.bringsPunctuation lexeme = true ∨ addition.bringsOperator lexeme = true) ∨
  ∃ p ∈ neighbours lexemes, addition.bringsPair p.1 p.2 = true

instance (lexemes : List String) : DecidablePred (Addition.Concerns lexemes) :=
  fun addition => inferInstanceAs (Decidable
    ((∃ lexeme ∈ lexemes, addition.bringsKeyword lexeme = true ∨
      addition.bringsPunctuation lexeme = true ∨ addition.bringsOperator lexeme = true) ∨
    ∃ p ∈ neighbours lexemes, addition.bringsPair p.1 p.2 = true))

/-- Additions that do not concern the lexemes leave all answers about them as they are. -/
theorem agreeOn_addAll {lexemes : List String} {additions : List Addition}
    (h : ∀ addition ∈ additions, ¬addition.Concerns lexemes) (tables : Tables) :
    AgreeOn lexemes (tables.addAll additions) tables := by
  have hnone {brings : Addition → Bool}
      (hbrings : ∀ addition, brings addition = true → addition.Concerns lexemes) :
      additions.any brings = false :=
    List.any_eq_false.2 fun addition haddition hthis =>
      h addition haddition (hbrings addition hthis)
  constructor
  · intro lexeme hlexeme
    rw [isKeyword_addAll, hnone, Bool.or_false]
    exact fun addition hbrings => Or.inl ⟨lexeme, hlexeme, Or.inl hbrings⟩
  · intro p hp
    rw [isPair_addAll, hnone, Bool.or_false]
    exact fun addition hbrings => Or.inr ⟨p, hp, hbrings⟩
  · intro lexeme hlexeme
    rw [isPunctuation_addAll, hnone, Bool.or_false]
    exact fun addition hbrings => Or.inl ⟨lexeme, hlexeme, Or.inr (Or.inl hbrings)⟩
  · intro lexeme hlexeme
    rw [isOperator_addAll, hnone, Bool.or_false]
    exact fun addition hbrings => Or.inl ⟨lexeme, hlexeme, Or.inr (Or.inr hbrings)⟩

/-- A first word without second ones concerns no lexemes. -/
theorem not_concerns_pairs_nil (first : String) (lexemes : List String) :
    ¬(Addition.pairs first []).Concerns lexemes := by
  simp [Addition.Concerns, Addition.bringsKeyword, Addition.bringsPunctuation,
    Addition.bringsOperator, Addition.bringsPair]

/-- An addition of second words brings nothing new only if they are known for the first word, and
that one is known itself. -/
theorem add_pairs_eq_self_iff {tables : Tables} {first : String} {seconds : List String} :
    tables.add (.pairs first seconds) = tables ↔
      tables.isPairStart first = true ∧
        ∀ second ∈ seconds, tables.isPair first second = true := by
  rw [add_eq_self_iff]
  constructor
  · exact fun h => ⟨h _ (.pairStart first seconds), fun _ hsecond => h _ (.pair hsecond)⟩
  · rintro ⟨hstart, hpair⟩ fact hbrings
    cases hbrings with
    | pairStart => exact hstart
    | pair hsecond => exact hpair _ hsecond

end Tables

namespace Dialect

variable {tables tables' : Tables} {lexemes : List String}

theorem lone_eq_of_agreeOn (h : Tables.AgreeOn lexemes tables tables') {lexeme : String}
    (hlexeme : lexeme ∈ lexemes) (rule : IdentifierRule) :
    (mk tables rule).lone lexeme = (mk tables' rule).lone lexeme := by
  apply lone_congr
  intro rule hrule
  cases rule with
  | keyword => exact h.keyword lexeme hlexeme
  | keywordPair => rfl
  | punctuation => exact h.punctuation lexeme hlexeme
  | operator => exact h.operator lexeme hlexeme
  | literal => rfl
  | identifier => rfl

/-- The tables decide on a classification by their answers about its lexemes alone. -/
theorem classify_congr (h : Tables.AgreeOn lexemes tables tables') (rule : IdentifierRule) :
    (mk tables rule).classify lexemes = (mk tables' rule).classify lexemes := by
  have hpair := Tables.pairAt_congr h.keyword fun i first second hfirst hsecond =>
    h.pair (first, second) (mem_neighbours hfirst hsecond)
  have hrelated : List.Forall₂ Eq
      ((mk tables rule).classify lexemes) ((mk tables' rule).classify lexemes) :=
    forall₂_classify hpair (fun _ => rfl) fun lexeme hlexeme => lone_eq_of_agreeOn h hlexeme rule
  rwa [List.forall₂_eq_eq_eq] at hrelated

theorem classify_addAll {additions : List Tables.Addition}
    (h : ∀ addition ∈ additions, ¬addition.Concerns lexemes) (tables : Tables)
    (rule : IdentifierRule) :
    (mk (tables.addAll additions) rule).classify lexemes = (mk tables rule).classify lexemes :=
  classify_congr (Tables.agreeOn_addAll h tables) rule

theorem classify_add_pairs_nil (tables : Tables) (first : String) (rule : IdentifierRule)
    (lexemes : List String) :
    (mk (tables.add (.pairs first [])) rule).classify lexemes =
      (mk tables rule).classify lexemes :=
  classify_addAll (List.forall_mem_singleton.2 (Tables.not_concerns_pairs_nil first lexemes)) tables
    rule

end Dialect

/-- Tokens depend on the tables by nothing but the answers about the lexemes that are there. -/
theorem classify_depends_on_lexemes (rule : IdentifierRule) :
    (∀ lexemes tables tables', Tables.AgreeOn lexemes tables tables' →
      (Dialect.mk tables rule).classify lexemes = (Dialect.mk tables' rule).classify lexemes) ∧
    (∀ lexemes tables additions,
      (∀ addition ∈ additions, ¬Tables.Addition.Concerns lexemes addition) →
        (Dialect.mk (tables.addAll additions) rule).classify lexemes =
          (Dialect.mk tables rule).classify lexemes) ∧
    (∀ (tables : Tables) (first : String),
      (tables.add (.pairs first []) = tables ↔ tables.isPairStart first = true) ∧
      ∀ query, (Dialect.mk (tables.add (.pairs first [])) rule).tokenize query =
        (Dialect.mk tables rule).tokenize query) ∧
    ∀ tables lexeme next?, (Dialect.mk tables rule).accepts .keywordPair lexeme next? =
      next?.any (tables.isPair lexeme) := by
  refine ⟨fun lexemes tables tables' h => Dialect.classify_congr h rule,
    fun lexemes tables additions h => Dialect.classify_addAll h tables rule, ?_,
    fun tables => Dialect.accepts_keywordPair⟩
  intro tables first
  refine ⟨?_, fun query => Dialect.classify_add_pairs_nil tables first rule _⟩
  rw [Tables.add_pairs_eq_self_iff]
  simp

/-- New first words among the lexemes make no difference as long as no second word follows them. -/
theorem classify_new_first_words :
    let lexemes := ["GROUP", "BY", "x", ";"]
    let additions : List Tables.Addition :=
      [.pairs "BY" [], .pairs "x" ["BY", "y"], .keywords ["y"], .operators ["!"]]
    (∀ addition ∈ additions, ¬addition.Concerns lexemes) ∧
      Tables.AgreeOn lexemes (Tables.sql.addAll additions) .sql ∧
      Tables.sql.isPairStart "BY" = false ∧
      (Tables.sql.addAll additions).isPairStart "BY" = true ∧
      (Dialect.mk (Tables.sql.addAll additions) .word).classify lexemes =
        [⟨.keyword, "GROUP BY"⟩, ⟨.identifier, "x"⟩, ⟨.punctuation, ";"⟩] := by
  intro lexemes additions
  have hapart : ∀ addition ∈ additions, ¬addition.Concerns lexemes := by decide +kernel
  have hagree := Tables.agreeOn_addAll hapart .sql
  refine ⟨hapart, hagree, by decide +kernel, by decide +kernel, ?_⟩
  rw [(classify_depends_on_lexemes .word).1 lexemes _ _ hagree]
  decide +kernel

end SqlLexer
