import SqlLexer.Proofs.Relevance
import SqlLexer.Proofs.StandardTokens

/-!
Grouping. Which lexemes become one token, and which tokens are keywords, is decided by the keywords
alone. All else that a dialect knows gives the other tokens their types: more punctuation marks and
operators change the types of the tokens that they are, and no other.
-/

namespace SqlLexer

theorem map_eq_map_of_forall₂ {α β : Type} {R : α → α → Prop} {f : α → β} {xs ys : List α}
    (hf : ∀ x y, R x y → f x = f y) (h : List.Forall₂ R xs ys) : xs.map f = ys.map f := by
  rw [← List.forall₂_eq_eq_eq, List.forall₂_map_left_iff, List.forall₂_map_right_iff]
  exact h.imp hf

namespace Token

/-- Two tokens are the same part of a query, and a keyword either both or neither. -/
structure SameGroup (token token' : Token) : Prop where
  value : token.value = token'.value
  keyword : token.type = .keyword ↔ token'.type = .keyword

/-- A token keeps its type, or it changes to that of a punctuation mark or an operator. Keywords are
not changed, nor are tokens other than the given symbols. -/
inductive Retagged (symbols : List String) : Token → Token → Prop
  | same (token : Token) : Retagged symbols token token
  | symbol {type type' : TokenType} {value : String} (hkeyword : type ≠ .keyword)
      (htype : type' = .punctuation ∨ type' = .operator) (hvalue : value ∈ symbols) :
      Retagged symbols ⟨type, value⟩ ⟨type', value⟩

end Token

namespace Tables

/-- An addition brings punctuation marks or operators. -/
def Addition.IsSymbolic (addition : Addition) : Prop :=
  ∃ symbols, addition = .punctuation symbols ∨ addition = .operators symbols

theorem Addition.IsSymbolic.not_brings {addition : Addition} (h : addition.IsSymbolic) :
    (∀ word, addition.bringsKeyword word = false) ∧
      ∀ first second, addition.bringsPair first second = false := by
  obtain ⟨symbols, rfl | rfl⟩ := h
  · exact ⟨fun _ => rfl, fun _ _ => rfl⟩
  · exact ⟨fun _ => rfl, fun _ _ => rfl⟩

/-- Symbols concern none but themselves. -/
theorem Addition.IsSymbolic.not_concerns_singleton {addition : Addition} (h : addition.IsSymbolic)
    {lexeme : String} (hlexeme : lexeme ∉ addition.symbols) : ¬addition.Concerns [lexeme] := by
  rintro (⟨text, htext, hbrings⟩ | ⟨p, hp, -⟩)
  · obtain rfl := List.mem_singleton.1 htext
    rw [h.not_brings.1] at hbrings
    exact hlexeme (mem_symbols_iff.2 (hbrings.resolve_left Bool.false_ne_true))
  · cases hp

section

variable {additions : List Addition}

theorem isKeyword_addAll_of_isSymbolic (h : ∀ addition ∈ additions, addition.IsSymbolic)
    (tables : Tables) (word : String) :
    (tables.addAll additions).isKeyword word = tables.isKeyword word := by
  have hnone : additions.any (·.bringsKeyword word) = false :=
    List.any_eq_false.2 fun addition haddition => by simp [(h addition haddition).not_brings.1]
  rw [isKeyword_addAll, hnone, Bool.or_false]

theorem isPair_addAll_of_isSymbolic (h : ∀ addition ∈ additions, addition.IsSymbolic)
    (tables : Tables) (first second : String) :
    (tables.addAll additions).isPair first second = tables.isPair first second := by
  have hnone : additions.any (·.bringsPair first second) = false :=
    List.any_eq_false.2 fun addition haddition => by simp [(h addition haddition).not_brings.2]
  rw [isPair_addAll, hnone, Bool.or_false]

theorem isSymbol_addAll {symbol : String} (h : symbol ∈ additions.flatMap Addition.symbols)
    (tables : Tables) :
    (tables.addAll additions).isPunctuation symbol = true ∨
      (tables.addAll additions).isOperator symbol = true := by
  obtain ⟨addition, haddition, hsymbol⟩ := List.mem_flatMap.1 h
  rw [isPunctuation_addAll, isOperator_addAll, Bool.or_eq_true, Bool.or_eq_true, List.any_eq_true,
    List.any_eq_true]
  rcases Addition.mem_symbols_iff.1 hsymbol with hbrings | hbrings
  · exact Or.inl (Or.inr ⟨addition, haddition, hbrings⟩)
  · exact Or.inr (Or.inr ⟨addition, haddition, hbrings⟩)

end

end Tables

namespace Dialect

variable {dialect dialect' : Dialect}

theorem forall₂_tokenize {R : Token → Token → Prop}
    (hkeyword : ∀ word, dialect.tables.isKeyword word = dialect'.tables.isKeyword word)
    (hpair : ∀ first second,
      dialect.tables.isPair first second = dialect'.tables.isPair first second)
    (hfused : ∀ value, R ⟨.keyword, value⟩ ⟨.keyword, value⟩)
    (hlone : ∀ lexeme, R (dialect.lone lexeme) (dialect'.lone lexeme)) (query : String) :
    List.Forall₂ R (dialect.tokenize query) (dialect'.tokenize query) :=
  forall₂_classify
    (Tables.pairAt_congr (fun word _ => hkeyword word) fun _ first second _ _ => hpair first second)
    hfused fun lexeme _ => hlone lexeme

/-- Dialects with the same keywords group a query alike. -/
theorem sameGroup_tokenize
    (hkeyword : ∀ word, dialect.tables.isKeyword word = dialect'.tables.isKeyword word)
    (hpair : ∀ first second,
      dialect.tables.isPair first second = dialect'.tables.isPair first second) (query : String) :
    List.Forall₂ Token.SameGroup (dialect.tokenize query) (dialect'.tokenize query) := by
  refine forall₂_tokenize hkeyword hpair (fun value => ⟨rfl, Iff.rfl⟩) (fun lexeme => ⟨rfl, ?_⟩) query
  rw [type_lone_eq_keyword_iff, type_lone_eq_keyword_iff, hkeyword]

/-- A symbol that is no keyword becomes a punctuation mark or an operator. -/
theorem type_lone_of_isSymbol {lexeme : String} (hkeyword : dialect.tables.isKeyword lexeme = false)
    (hsymbol : dialect.tables.isPunctuation lexeme = true ∨
      dialect.tables.isOperator lexeme = true) :
    (dialect.lone lexeme).type = .punctuation ∨ (dialect.lone lexeme).type = .operator := by
  have hkeyword' : dialect.accepts .keyword lexeme none = false := hkeyword
  rw [lone, Rule.loneOrder, List.find?_cons, hkeyword', List.find?_cons]
  cases hpunctuation : dialect.accepts .punctuation lexeme none with
  | true => exact Or.inl rfl
  | false =>
      have hnone : dialect.tables.isPunctuation lexeme = false := hpunctuation
      have hoperator : dialect.accepts .operator lexeme none = true :=
        hsymbol.resolve_left (by simp [hnone])
      rw [List.find?_cons, hoperator]
      exact Or.inr rfl

/-- Further symbols make no other change to a lexeme by itself than to make it one of them. -/
theorem retagged_lone {additions : List Tables.Addition}
    (h : ∀ addition ∈ additions, addition.IsSymbolic) (dialect : Dialect) (lexeme : String) :
    Token.Retagged (additions.flatMap Tables.Addition.symbols) (dialect.lone lexeme)
      ((Dialect.mk (dialect.tables.addAll additions) dialect.identifierRule).lone lexeme) := by
  have hkeyword := Tables.isKeyword_addAll_of_isSymbolic h dialect.tables lexeme
  by_cases hmem : lexeme ∈ additions.flatMap Tables.Addition.symbols
  · cases hword : dialect.tables.isKeyword lexeme with
    | true =>
        rw [lone_of_isKeyword hword, lone_of_isKeyword (hkeyword.trans hword)]
        exact .same _
    | false =>
        have hother : (dialect.lone lexeme).type ≠ .keyword := by
          rw [ne_eq, type_lone_eq_keyword_iff, hword]
          decide
        exact .symbol hother (type_lone_of_isSymbol (hkeyword.trans hword)
          (Tables.isSymbol_addAll hmem dialect.tables)) hmem
  · have hagree : Tables.AgreeOn [lexeme] (dialect.tables.addAll additions) dialect.tables := by
      refine Tables.agreeOn_addAll (fun addition haddition => ?_) dialect.tables
      refine (h addition haddition).not_concerns_singleton fun hsymbol => hmem ?_
      exact List.mem_flatMap.2 ⟨addition, haddition, hsymbol⟩
    rw [lone_eq_of_agreeOn hagree (List.mem_singleton_self lexeme)]
    exact .same _

/-- Further symbols leave the values of all tokens and all keywords as they are. -/
theorem retagged_tokenize {additions : List Tables.Addition}
    (h : ∀ addition ∈ additions, addition.IsSymbolic) (dialect : Dialect) (query : String) :
    List.Forall₂ (Token.Retagged (additions.flatMap Tables.Addition.symbols))
      (dialect.tokenize query)
      ((Dialect.mk (dialect.tables.addAll additions) dialect.identifierRule).tokenize query) :=
  forall₂_tokenize (fun word => (Tables.isKeyword_addAll_of_isSymbolic h dialect.tables word).symm)
    (fun first second => (Tables.isPair_addAll_of_isSymbolic h dialect.tables first second).symm)
    (fun _ => .same _) (retagged_lone h dialect) query

end Dialect

/-- Tokens are the same parts of a query, and the same of them are keywords, in all dialects with the
same keywords. Further punctuation marks and operators only change the types of tokens that they are,
keywords apart. -/
theorem tokenize_groups_by_keywords (query : String) :
    (∀ dialect dialect' : Dialect,
      (∀ word, dialect.tables.isKeyword word = dialect'.tables.isKeyword word) →
      (∀ first second, dialect.tables.isPair first second = dialect'.tables.isPair first second) →
        (dialect.tokenize query).length = (dialect'.tokenize query).length ∧
        (dialect.tokenize query).map Token.value = (dialect'.tokenize query).map Token.value ∧
        (dialect.tokenize query).map (·.type == .keyword) =
          (dialect'.tokenize query).map (·.type == .keyword)) ∧
    ∀ (dialect : Dialect) (additions : List Tables.Addition),
      (∀ addition ∈ additions, addition.IsSymbolic) →
        List.Forall₂ (Token.Retagged (additions.flatMap Tables.Addition.symbols))
          (dialect.tokenize query)
          ((Dialect.mk (dialect.tables.addAll additions) dialect.identifierRule).tokenize
            query) := by
  refine ⟨?_, fun dialect additions h => Dialect.retagged_tokenize h dialect query⟩
  intro dialect dialect' hkeyword hpair
  have hgroups := Dialect.sameGroup_tokenize hkeyword hpair query
  refine ⟨hgroups.length_eq, map_eq_map_of_forall₂ (fun _ _ h => h.value) hgroups,
    map_eq_map_of_forall₂ (fun token token' h => ?_) hgroups⟩
  rw [Bool.eq_iff_iff, beq_iff_eq, beq_iff_eq]
  exact h.keyword

/-- A keyword that is made a punctuation mark too is still a keyword, and words may become symbols. -/
theorem tokenize_more_symbols :
    let additions : List Tables.Addition := [.punctuation ["x", "SELECT"], .operators ["BY", ";"]]
    let dialect : Dialect := ⟨Tables.sql.addAll additions, .word⟩
    (∀ addition ∈ additions, addition.IsSymbolic) ∧
      (default : Dialect).tokenize "SELECT x GROUP BY;" =
        [⟨.keyword, "SELECT"⟩, ⟨.identifier, "x"⟩, ⟨.keyword, "GROUP BY"⟩, ⟨.punctuation, ";"⟩] ∧
      dialect.tokenize "SELECT x GROUP BY;" =
        [⟨.keyword, "SELECT"⟩, ⟨.punctuation, "x"⟩, ⟨.keyword, "GROUP BY"⟩, ⟨.punctuation, ";"⟩] ∧
      List.Forall₂ (Token.Retagged ["x", "SELECT", "BY", ";"])
        ((default : Dialect).tokenize "SELECT x GROUP BY;")
        (dialect.tokenize "SELECT x GROUP BY;") ∧
      (dialect.tokenize "SELECT x GROUP BY;").map Token.value =
        ((Dialect.mk .sql .strict).tokenize "SELECT x GROUP BY;").map Token.value := by
  intro additions dialect
  have hsymbolic : ∀ addition ∈ additions, addition.IsSymbolic := by
    simp [additions, Tables.Addition.IsSymbolic]
  obtain ⟨hgroups, hretagged⟩ := tokenize_groups_by_keywords "SELECT x GROUP BY;"
  refine ⟨hsymbolic, by decide +kernel, by decide +kernel, hretagged default additions hsymbolic, ?_⟩
  exact (hgroups dialect ⟨.sql, .strict⟩ (Tables.isKeyword_addAll_of_isSymbolic hsymbolic .sql)
    (Tables.isPair_addAll_of_isSymbolic hsymbolic .sql)).2.1

end SqlLexer
