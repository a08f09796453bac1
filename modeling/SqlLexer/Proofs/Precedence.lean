import Mathlib.Data.List.Basic
import Mathlib.Data.Set.Insert
import SqlLexer.Proofs.IdentifierRules

/-!
Rules in any order. In standard SQL no lexeme is accepted by two rules, but for keywords, which look
like identifiers. So the rules may be tried in any order that has the keywords before the identifiers,
and in no other.
-/

namespace SqlLexer

section

variable {α : Type} [DecidableEq α] {p : α → Bool} {order : List α} {a : α}

/-- What is found in a list stands before all else that has the property. -/
theorem idxOf_lt_idxOf_of_find? (hfind : order.find? p = some a) {b : α} (hb : p b = true)
    (hne : b ≠ a) : order.idxOf a < order.idxOf b := by
  obtain ⟨ha, before, after, rfl, hbefore⟩ := List.find?_eq_some_iff_append.1 hfind
  have hnot {c : α} (hc : p c = true) : c ∉ before := by
    intro hmem
    have hnone := hbefore c hmem
    rw [hc] at hnone
    cases hnone
  rw [List.idxOf_append_of_notMem (hnot ha), List.idxOf_append_of_notMem (hnot hb),
    List.idxOf_cons_self, List.idxOf_cons_ne _ hne.symm]
  omega

theorem find?_eq_some_of_idxOf_lt (hmem : a ∈ order) (ha : p a = true)
    (hfirst : ∀ b, p b = true → b ≠ a → order.idxOf a < order.idxOf b) :
    order.find? p = some a := by
  cases hfind : order.find? p with
  | none => exact absurd ha (List.find?_eq_none.1 hfind a hmem)
  | some b =>
      by_contra hne
      have hba : b ≠ a := fun heq => hne (congrArg some heq)
      have hlt := idxOf_lt_idxOf_of_find? hfind ha hba.symm
      exact Nat.lt_asymm hlt (hfirst b (List.find?_some hfind) hba)

end

namespace Tables

/-- The words of the tables have no digits. -/
theorem sql_words_digitless : ∀ addition ∈ sqlAdditions, ∀ word ∈ addition.words,
    word.toList.any Char.isDigit = false := by
  decide +kernel

/-- No keyword by itself is the first word of another one. -/
theorem sql_keywords_apart : ∀ addition ∈ sqlAdditions, ∀ word ∈ addition.words,
    sql.isKeyword word = true → sql.isPairStart word = false := by
  decide +kernel

/-- No symbol is both a punctuation mark and an operator, or has the form of anything else. -/
theorem sql_symbols_apart : ∀ addition ∈ sqlAdditions, ∀ symbol ∈ addition.symbols,
    (sql.isPunctuation symbol && sql.isOperator symbol) = false ∧ isLiteral symbol = false ∧
      IdentifierRule.word.accepts symbol = false ∧ IdentifierRule.strict.accepts symbol = false := by
  decide +kernel

end Tables

namespace IdentifierRule

/-- A word without digits is an identifier by both rules. -/
theorem accepts_of_isWord (rule : IdentifierRule) {text : String} (hword : isWord text.toList = true)
    (hdigit : text.toList.any Char.isDigit = false) : rule.accepts text = true := by
  cases rule with
  | word => exact hword
  | strict => rw [accepts, isStrict_of_isWord hword, hdigit, Bool.not_false]

end IdentifierRule

namespace Rule

/-- The rules that can accept one and the same lexeme of standard SQL, all of them in each case. -/
def acceptedTogether : Set (Set Rule) :=
  {∅, {punctuation}, {operator}, {literal}, {identifier}, {keyword, identifier},
    {keywordPair, identifier}}

/-- An order of rules has those for keywords before the one for identifiers. -/
structure KeywordsFirst (order : List Rule) : Prop where
  keyword : order.idxOf Rule.keyword < order.idxOf identifier
  keywordPair : order.idxOf Rule.keywordPair < order.idxOf identifier

theorem keywordsFirst_order : KeywordsFirst order := ⟨by decide, by decide⟩

/-- Among rules that accept a lexeme together the same one comes first in all these orders. -/
theorem find?_eq_find?_of_keywordsFirst {p : Rule → Bool}
    (hp : {rule | p rule = true} ∈ acceptedTogether) {order order' : List Rule}
    (hall : ∀ rule, rule ∈ order) (hall' : ∀ rule, rule ∈ order') (h : KeywordsFirst order)
    (h' : KeywordsFirst order') : order.find? p = order'.find? p := by
  have halone {rule : Rule} (hset : {rule | p rule = true} = {rule}) {order : List Rule}
      (hall : ∀ rule, rule ∈ order) : order.find? p = some rule := by
    have haccepts (other : Rule) : p other = true ↔ other = rule := Set.ext_iff.1 hset other
    refine find?_eq_some_of_idxOf_lt (hall rule) ((haccepts rule).2 rfl) ?_
    exact fun other hother hne => absurd ((haccepts other).1 hother) hne
  have hbefore {rule : Rule} (hset : {rule | p rule = true} = {rule, identifier})
      {order : List Rule} (hall : ∀ rule, rule ∈ order)
      (hlt : order.idxOf rule < order.idxOf identifier) : order.find? p = some rule := by
    have haccepts (other : Rule) : p other = true ↔ other = rule ∨ other = identifier :=
      Set.ext_iff.1 hset other
    refine find?_eq_some_of_idxOf_lt (hall rule) ((haccepts rule).2 (Or.inl rfl)) ?_
    intro other hother hne
    obtain rfl := ((haccepts other).1 hother).resolve_left hne
    exact hlt
  rcases hp with hset | hset | hset | hset | hset | hset | hset
  · have hnone (rule : Rule) : ¬p rule = true := fun hrule =>
      Set.notMem_empty rule (hset ▸ hrule)
    rw [List.find?_eq_none.2 fun rule _ => hnone rule,
      List.find?_eq_none.2 fun rule _ => hnone rule]
  · rw [halone hset hall, halone hset hall']
  · rw [halone hset hall, halone hset hall']
  · rw [halone hset hall, halone hset hall']
  · rw [halone hset hall, halone hset hall']
  · rw [hbefore hset hall h.keyword, hbefore hset hall' h'.keyword]
  · rw [hbefore hset hall h.keywordPair, hbefore hset hall' h'.keywordPair]

end Rule

namespace Dialect

/-- The rules that accept a lexeme. -/
def accepted (dialect : Dialect) (lexeme : String) (next? : Option String) : Set Rule :=
  {rule | dialect.accepts rule lexeme next? = true}

theorem accepted_mem {dialect : Dialect} {lexeme : String} {next? : Option String} (s : Set Rule)
    (hs : s ∈ Rule.acceptedTogether) (h : ∀ r, dialect.accepts r lexeme next? = true ↔ r ∈ s) :
    dialect.accepted lexeme next? ∈ Rule.acceptedTogether := by
  have heq : dialect.accepted lexeme next? = s := Set.ext h
  rwa [heq]

section

variable {rule : IdentifierRule} {lexeme : String} {next? : Option String}

theorem accepts_identifier_of_mem_words {addition : Tables.Addition}
    (haddition : addition ∈ Tables.sqlAdditions) (hword : lexeme ∈ addition.words) :
    (mk .sql rule).accepts .identifier lexeme next? = true :=
  rule.accepts_of_isWord (Tables.sql_words addition haddition lexeme hword)
    (Tables.sql_words_digitless addition haddition lexeme hword)

/-- A keyword has the form of an identifier, and it is no first word of another keyword. -/
theorem accepts_of_keyword (h : (mk .sql rule).accepts .keyword lexeme next? = true) :
    (mk .sql rule).accepts .identifier lexeme next? = true ∧
      (mk .sql rule).accepts .keywordPair lexeme next? = false := by
  obtain ⟨addition, haddition, hword⟩ := Tables.mem_words_of_isKeyword h
  refine ⟨accepts_identifier_of_mem_words haddition hword, ?_⟩
  have hstart := Tables.sql_keywords_apart addition haddition lexeme hword h
  simp [accepts, hstart]

theorem accepts_identifier_of_keywordPair
    (h : (mk .sql rule).accepts .keywordPair lexeme next? = true) :
    (mk .sql rule).accepts .identifier lexeme next? = true := by
  rw [accepts_keywordPair, Option.any_eq_true] at h
  obtain ⟨next, -, hpair⟩ := h
  obtain ⟨addition, haddition, hfirst, -⟩ := Tables.mem_words_of_isPair hpair
  exact accepts_identifier_of_mem_words haddition hfirst

/-- A symbol is of one kind, and it has neither the form of a literal nor that of an identifier. -/
theorem accepts_of_symbol
    (h : (mk .sql rule).accepts .punctuation lexeme next? = true ∨
      (mk .sql rule).accepts .operator lexeme next? = true) :
    ¬((mk .sql rule).accepts .punctuation lexeme next? = true ∧
        (mk .sql rule).accepts .operator lexeme next? = true) ∧
      (mk .sql rule).accepts .literal lexeme next? = false ∧
      (mk .sql rule).accepts .identifier lexeme next? = false := by
  obtain ⟨addition, haddition, hmem⟩ := Tables.mem_symbols_of_isSymbol h
  obtain ⟨hkind, hliteral, hword, hstrict⟩ := Tables.sql_symbols_apart addition haddition lexeme hmem
  refine ⟨fun hboth => ?_, hliteral, ?_⟩
  · exact Bool.eq_false_iff.1 hkind (Bool.and_eq_true_iff.2 hboth)
  · cases rule with
    | word => exact hword
    | strict => exact hstrict

theorem not_accepts_keywords_of_not_identifier
    (h : (mk .sql rule).accepts .identifier lexeme next? = false) :
    (mk .sql rule).accepts .keyword lexeme next? = false ∧
      (mk .sql rule).accepts .keywordPair lexeme next? = false := by
  rw [Bool.eq_false_iff] at h
  exact ⟨Bool.eq_false_iff.2 fun hkeyword => h (accepts_of_keyword hkeyword).1,
    Bool.eq_false_iff.2 fun hpair => h (accepts_identifier_of_keywordPair hpair)⟩

theorem accepted_of_symbol
    (h : (mk .sql rule).accepts .punctuation lexeme next? = true ∨
      (mk .sql rule).accepts .operator lexeme next? = true) :
    (mk .sql rule).accepted lexeme next? ∈ Rule.acceptedTogether := by
  obtain ⟨hkind, hliteral, hidentifier⟩ := accepts_of_symbol h
  obtain ⟨hkeyword, hpair⟩ := not_accepts_keywords_of_not_identifier hidentifier
  rcases h with hpunctuation | hoperator
  · have hoperator : (mk .sql rule).accepts .operator lexeme next? = false :=
      Bool.eq_false_iff.2 fun hoperator => hkind ⟨hpunctuation, hoperator⟩
    refine accepted_mem {.punctuation} (by simp [Rule.acceptedTogether]) fun r => ?_
    cases r <;> simp [*]
  · have hpunctuation : (mk .sql rule).accepts .punctuation lexeme next? = false :=
      Bool.eq_false_iff.2 fun hpunctuation => hkind ⟨hpunctuation, hoperator⟩
    refine accepted_mem {.operator} (by simp [Rule.acceptedTogether]) fun r => ?_
    cases r <;> simp [*]

theorem accepted_of_identifier
    (hpunctuation : (mk .sql rule).accepts .punctuation lexeme next? = false)
    (hoperator : (mk .sql rule).accepts .operator lexeme next? = false)
    (hidentifier : (mk .sql rule).accepts .identifier lexeme next? = true) :
    (mk .sql rule).accepted lexeme next? ∈ Rule.acceptedTogether := by
  have hliteral : (mk .sql rule).accepts .literal lexeme next? = false :=
    IdentifierRule.isLiteral_of_accepts hidentifier
  by_cases hkeyword : (mk .sql rule).accepts .keyword lexeme next? = true
  · have hpair := (accepts_of_keyword hkeyword).2
    refine accepted_mem {.keyword, .identifier} (by simp [Rule.acceptedTogether]) fun r => ?_
    cases r <;> simp [*]
  · by_cases hpair : (mk .sql rule).accepts .keywordPair lexeme next? = true
    · refine accepted_mem {.keywordPair, .identifier} (by simp [Rule.acceptedTogether]) fun r => ?_
      cases r <;> simp [*]
    · refine accepted_mem {.identifier} (by simp [Rule.acceptedTogether]) fun r => ?_
      cases r <;> simp [*]

/-- The rules that accept a lexeme are one of a few sets. -/
theorem accepted_sql (rule : IdentifierRule) (lexeme : String) (next? : Option String) :
    (mk .sql rule).accepted lexeme next? ∈ Rule.acceptedTogether := by
  by_cases hsymbol : (mk .sql rule).accepts .punctuation lexeme next? = true ∨
      (mk .sql rule).accepts .operator lexeme next? = true
  · exact accepted_of_symbol hsymbol
  · simp only [not_or, Bool.not_eq_true] at hsymbol
    obtain ⟨hpunctuation, hoperator⟩ := hsymbol
    cases hidentifier : (mk .sql rule).accepts .identifier lexeme next? with
    | true => exact accepted_of_identifier hpunctuation hoperator hidentifier
    | false =>
        obtain ⟨hkeyword, hpair⟩ := not_accepts_keywords_of_not_identifier hidentifier
        by_cases hliteral : (mk .sql rule).accepts .literal lexeme next? = true
        · refine accepted_mem {.literal} (by simp [Rule.acceptedTogether]) fun r => ?_
          cases r <;> simp [*]
        · refine accepted_mem ∅ (by simp [Rule.acceptedTogether]) fun r => ?_
          cases r <;> simp [*]

end

end Dialect

/-- In standard SQL a lexeme is accepted by one rule at most, or by a rule for keywords and as an
identifier. So an order of the rules finds the same rule for all lexemes if and only if it has the
rules for keywords before the one for identifiers. -/
theorem ruleFor?_in_any_order (rule : IdentifierRule) :
    (∀ lexeme next?, (Dialect.mk .sql rule).accepted lexeme next? ∈ Rule.acceptedTogether) ∧
    ∀ order : List Rule, order.Perm Rule.order →
      ((∀ lexeme next?,
        (order.find? fun r => (Dialect.mk .sql rule).accepts r lexeme next?) =
          (Dialect.mk .sql rule).ruleFor? lexeme next?) ↔ Rule.KeywordsFirst order) := by
  refine ⟨Dialect.accepted_sql rule, fun order hperm => ⟨fun hsame => ⟨?_, ?_⟩, ?_⟩⟩
  · -- a keyword shows which of the two rules comes first
    have hknown : Tables.sql.isKeyword "SELECT" = true := by decide +kernel
    have hkeyword : (Dialect.mk .sql rule).accepts .keyword "SELECT" none = true := hknown
    have hrule : (Dialect.mk .sql rule).ruleFor? "SELECT" none = some .keyword :=
      List.find?_cons_of_pos hkeyword
    have hidentifier := (Dialect.accepts_of_keyword hkeyword).1
    exact idxOf_lt_idxOf_of_find? ((hsame "SELECT" none).trans hrule) hidentifier (by decide)
  · have hknown : Tables.sql.pairAt ["GROUP", "BY"] 0 = true := by decide +kernel
    have hrule : (Dialect.mk .sql rule).ruleFor? "GROUP" ["BY"].head? = some .keywordPair :=
      Dialect.ruleFor?_eq_keywordPair_iff.2 hknown
    have hidentifier :=
      Dialect.accepts_identifier_of_keywordPair (Dialect.accepts_of_ruleFor? hrule)
    exact idxOf_lt_idxOf_of_find? ((hsame "GROUP" _).trans hrule) hidentifier (by decide)
  · intro hfirst lexeme next?
    exact Rule.find?_eq_find?_of_keywordsFirst (Dialect.accepted_sql rule lexeme next?)
      (fun r => hperm.mem_iff.2 r.mem_order) Rule.mem_order hfirst Rule.keywordsFirst_order

/-- Literals and symbols may be tried before keywords, but identifiers may not. -/
theorem ruleFor?_literals_first :
    let dialect : Dialect := ⟨.sql, .strict⟩
    let order : List Rule := [.literal, .operator, .keywordPair, .punctuation, .keyword, .identifier]
    order.Perm Rule.order ∧ Rule.KeywordsFirst order ∧
      (order.find? fun r => dialect.accepts r "GROUP" (some "BY")) = some .keywordPair ∧
      Rule.order.reverse.Perm Rule.order ∧ ¬Rule.KeywordsFirst Rule.order.reverse ∧
      (Rule.order.reverse.find? fun r => dialect.accepts r "GROUP" (some "BY")) =
        some .identifier := by
  intro dialect order
  have hperm : order.Perm Rule.order := by decide
  have hfirst : Rule.KeywordsFirst order := ⟨by decide, by decide⟩
  refine ⟨hperm, hfirst, ?_, List.reverse_perm _, fun h => absurd h.keyword (by decide), ?_⟩
  · rw [((ruleFor?_in_any_order .strict).2 order hperm).2 hfirst]
    decide +kernel
  · decide +kernel

end SqlLexer
