import SqlLexer.Tables

/-!
What tables know, one fact at a time. Tables are determined by the facts that they know, and an
addition unites these with the facts that it brings. So it does not matter in which order additions
are made, how the words are spread over them, or whether anything is added twice.
-/

namespace SqlLexer.Tables

/-- A single thing that tables can know. -/
inductive Fact
  | keyword (word : String)
  /-- A word is the first of a keyword of two words, with or without any second one. -/
  | pairStart (first : String)
  | pair (first second : String)
  | punctuation (mark : String)
  | operator (symbol : String)
  deriving DecidableEq, Repr

/-- What tables answer about a fact. -/
def knows (tables : Tables) : Fact → Bool
  | .keyword word => tables.isKeyword word
  | .pairStart first => tables.isPairStart first
  | .pair first second => tables.isPair first second
  | .punctuation mark => tables.isPunctuation mark
  | .operator symbol => tables.isOperator symbol

/-- The facts that an addition brings. -/
inductive Addition.Brings : Addition → Fact → Prop
  | keyword {words : List String} {word : String} (hword : word ∈ words) :
      Brings (.keywords words) (.keyword word)
  | pairStart (first : String) (seconds : List String) :
      Brings (.pairs first seconds) (.pairStart first)
  | pair {first second : String} {seconds : List String} (hsecond : second ∈ seconds) :
      Brings (.pairs first seconds) (.pair first second)
  | punctuation {marks : List String} {mark : String} (hmark : mark ∈ marks) :
      Brings (.punctuation marks) (.punctuation mark)
  | operator {symbols : List String} {symbol : String} (hsymbol : symbol ∈ symbols) :
      Brings (.operators symbols) (.operator symbol)

namespace Addition

/-- Whether an addition brings a fact. -/
def brings (addition : Addition) : Fact → Bool
  | .keyword word => addition.bringsKeyword word
  | .pairStart first => addition.bringsPairStart first
  | .pair first second => addition.bringsPair first second
  | .punctuation mark => addition.bringsPunctuation mark
  | .operator symbol => addition.bringsOperator symbol

theorem brings_eq_true_iff {addition : Addition} {fact : Fact} :
    addition.brings fact = true ↔ addition.Brings fact := by
  constructor
  · intro h
    cases addition with
    | keywords words =>
        cases fact with
        | keyword word => exact .keyword (List.contains_iff_mem.1 h)
        | _ => cases h
    | pairs first seconds =>
        cases fact with
        | pairStart word =>
            obtain rfl : first = word := beq_iff_eq.1 h
            exact .pairStart first seconds
        | pair word second =>
            obtain ⟨hfirst, hsecond⟩ := Bool.and_eq_true_iff.1 h
            obtain rfl : first = word := beq_iff_eq.1 hfirst
            exact .pair (List.contains_iff_mem.1 hsecond)
        | _ => cases h
    | punctuation marks =>
        cases fact with
        | punctuation mark => exact .punctuation (List.contains_iff_mem.1 h)
        | _ => cases h
    | operators symbols =>
        cases fact with
        | operator symbol => exact .operator (List.contains_iff_mem.1 h)
        | _ => cases h
  · intro h
    cases h with
    | keyword hword => exact List.contains_iff_mem.2 hword
    | pairStart first seconds => exact beq_self_eq_true first
    | pair hsecond =>
        exact Bool.and_eq_true_iff.2 ⟨beq_self_eq_true _, List.contains_iff_mem.2 hsecond⟩
    | punctuation hmark => exact List.contains_iff_mem.2 hmark
    | operator hsymbol => exact List.contains_iff_mem.2 hsymbol

instance (addition : Addition) : DecidablePred addition.Brings :=
  fun _ => decidable_of_iff _ brings_eq_true_iff

end Addition

theorem knows_add (tables : Tables) (addition : Addition) (fact : Fact) :
    (tables.add addition).knows fact = (tables.knows fact || addition.brings fact) := by
  cases fact with
  | keyword word => exact isKeyword_add tables addition word
  | pairStart first => exact isPairStart_add tables addition first
  | pair first second => exact isPair_add tables addition first second
  | punctuation mark => exact isPunctuation_add tables addition mark
  | operator symbol => exact isOperator_add tables addition symbol

/-- Additions make known what one of them brings, and nothing that was known is lost. -/
theorem knows_addAll_iff {tables : Tables} {additions : List Addition} {fact : Fact} :
    (tables.addAll additions).knows fact = true ↔
      tables.knows fact = true ∨ ∃ addition ∈ additions, addition.Brings fact := by
  rw [lookup_addAll (knows · fact) (·.brings fact) (knows_add · · fact), Bool.or_eq_true,
    List.any_eq_true]
  simp only [Addition.brings_eq_true_iff]

/-- Tables that know the same are the same. A first word without second ones is known too. -/
theorem ext_knows {tables tables' : Tables} (h : ∀ fact, tables.knows fact = tables'.knows fact) :
    tables = tables' := by
  obtain ⟨keywords, pairs, punctuation, operators⟩ := tables
  obtain ⟨keywords', pairs', punctuation', operators'⟩ := tables'
  have hkeywords : keywords = keywords' :=
    Std.ExtTreeSet.ext_contains fun word => h (.keyword word)
  have hpunctuation : punctuation = punctuation' :=
    Std.ExtTreeSet.ext_contains fun mark => h (.punctuation mark)
  have hoperators : operators = operators' :=
    Std.ExtTreeSet.ext_contains fun symbol => h (.operator symbol)
  have hpairs : pairs = pairs' := by
    apply Std.ExtTreeMap.ext_getElem?
    intro first
    have hstart : pairs.contains first = pairs'.contains first := h (.pairStart first)
    have hseconds : pairs.getD first ∅ = pairs'.getD first ∅ :=
      Std.ExtTreeSet.ext_contains fun second => h (.pair first second)
    cases hcontains : pairs.contains first with
    | true =>
        rw [Std.ExtTreeMap.getElem?_eq_some_getD_of_contains hcontains,
          Std.ExtTreeMap.getElem?_eq_some_getD_of_contains (hstart ▸ hcontains), hseconds]
    | false =>
        rw [Std.ExtTreeMap.getElem?_eq_none_of_contains_eq_false hcontains,
          Std.ExtTreeMap.getElem?_eq_none_of_contains_eq_false (hstart ▸ hcontains)]
  rw [hkeywords, hpairs, hpunctuation, hoperators]

/-- Additions come to the same if they bring the same, apart from what is known already. -/
theorem addAll_eq_addAll_iff {tables : Tables} {additions more : List Addition} :
    tables.addAll additions = tables.addAll more ↔
      ∀ fact, tables.knows fact = false →
        ((∃ addition ∈ additions, addition.Brings fact) ↔ ∃ addition ∈ more, addition.Brings fact) := by
  constructor
  · intro hsame fact hnew
    have hiff : (tables.addAll additions).knows fact = true ↔
        (tables.addAll more).knows fact = true := by rw [hsame]
    rw [knows_addAll_iff, knows_addAll_iff, hnew] at hiff
    simpa only [Bool.false_eq_true, false_or] using hiff
  · intro hiff
    apply ext_knows
    intro fact
    rw [Bool.eq_iff_iff, knows_addAll_iff, knows_addAll_iff]
    cases hknown : tables.knows fact with
    | true => exact iff_of_true (Or.inl rfl) (Or.inl rfl)
    | false => rw [hiff fact hknown]

/-- An addition changes nothing if all that it brings is known already, and only then. -/
theorem add_eq_self_iff {tables : Tables} {addition : Addition} :
    tables.add addition = tables ↔ ∀ fact, addition.Brings fact → tables.knows fact = true := by
  have hadd : tables.add addition = tables.addAll [addition] := rfl
  have hself : tables.addAll [addition] = tables ↔ tables.addAll [addition] = tables.addAll [] := by
    rw [addAll_nil]
  rw [hadd, hself, addAll_eq_addAll_iff]
  refine forall_congr' fun fact => ?_
  cases tables.knows fact <;> simp

/-- Additions unite the tables with what they bring, so that the same facts make the same tables
however they are added. A single addition leaves the tables as they are only if it brings nothing
new, and it has no effect on any table but its own. -/
theorem addAll_unites (tables : Tables) (additions : List Addition) :
    (∀ fact, (tables.addAll additions).knows fact = true ↔
      tables.knows fact = true ∨ ∃ addition ∈ additions, addition.Brings fact) ∧
    (∀ more : List Addition, tables.addAll additions = tables.addAll more ↔
      ∀ fact, tables.knows fact = false →
        ((∃ addition ∈ additions, addition.Brings fact) ↔
          ∃ addition ∈ more, addition.Brings fact)) ∧
    (∀ addition : Addition, tables.add addition = tables ↔
      ∀ fact, addition.Brings fact → tables.knows fact = true) ∧
    (∀ words, tables.add (.keywords words) =
      { tables with keywords := (tables.add (.keywords words)).keywords }) ∧
    (∀ first seconds, tables.add (.pairs first seconds) =
      { tables with pairs := (tables.add (.pairs first seconds)).pairs }) ∧
    (∀ marks, tables.add (.punctuation marks) =
      { tables with punctuation := (tables.add (.punctuation marks)).punctuation }) ∧
    ∀ symbols, tables.add (.operators symbols) =
      { tables with operators := (tables.add (.operators symbols)).operators } :=
  ⟨fun _ => knows_addAll_iff, fun _ => addAll_eq_addAll_iff, fun _ => add_eq_self_iff,
    fun _ => rfl, fun _ _ => rfl, fun _ => rfl, fun _ => rfl⟩

/-- Second words join those that are known, in any order and as often as one likes. A first word is
new even if it has no second one. -/
theorem addAll_second_words :
    sql.addAll [.pairs "ORDER" ["SIBLINGS"], .keywords ["MATCH", "SET"], .pairs "SIBLINGS" []] =
        sql.addAll [.keywords ["MATCH"], .pairs "SIBLINGS" [], .keywords ["MATCH"],
          .pairs "ORDER" ["BY", "SIBLINGS"]] ∧
      (sql.addAll [.pairs "ORDER" ["SIBLINGS"]]).isPair "ORDER" "BY" = true ∧
      sql.add (.pairs "ORDER" ["BY"]) = sql ∧ sql.add (.pairs "SIBLINGS" []) ≠ sql := by
  refine ⟨?_, ?_, ?_, ?_⟩
  · rw [(addAll_unites sql _).2.1]
    intro fact hnew
    simp only [← Addition.brings_eq_true_iff, ← List.any_eq_true]
    cases fact with
    | keyword word =>
        have hset : word ≠ "SET" := by
          rintro rfl
          revert hnew
          decide +kernel
        simp [Addition.brings, Addition.bringsKeyword, hset]
    | pair first second =>
        have hby : "ORDER" = first → second ≠ "BY" := by
          rintro rfl rfl
          revert hnew
          decide +kernel
        simp +contextual [Addition.brings, Addition.bringsPair, hby]
    | pairStart first => simp [Addition.brings, Addition.bringsPairStart, or_comm]
    | punctuation mark => simp [Addition.brings, Addition.bringsPunctuation]
    | operator symbol => simp [Addition.brings, Addition.bringsOperator]
  · exact ((addAll_unites sql _).1 (.pair "ORDER" "BY")).2 (Or.inl (by decide +kernel))
  · refine ((addAll_unites sql []).2.2.1 _).2 fun fact hbrings => ?_
    cases hbrings with
    | pairStart first seconds => decide +kernel
    | pair hsecond =>
      obtain rfl := List.mem_singleton.1 hsecond
      decide +kernel
  · intro hsame
    have hknown := ((addAll_unites sql []).2.2.1 _).1 hsame _ (.pairStart "SIBLINGS" [])
    revert hknown
    decide +kernel

end SqlLexer.Tables
