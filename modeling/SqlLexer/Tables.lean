import Std.Data.ExtTreeMap
import Std.Data.ExtTreeSet

/-!
Tables: the words and marks that a dialect of SQL knows. Keywords of two words are held as a map from
the first word to the words that may follow it; a first word may be known without any second one.
Tables only grow, by additions; those of standard SQL come of one sequence of them. The main
statements say what each look-up answers after one addition and after a sequence of them.
-/

namespace SqlLexer

/-- The words and marks that a dialect knows. -/
structure Tables where
  /-- Keywords of one word. -/
  keywords : Std.ExtTreeSet String := ∅
  /-- First words of keywords of two words, each with the words that may follow it. -/
  pairs : Std.ExtTreeMap String (Std.ExtTreeSet String) := ∅
  punctuation : Std.ExtTreeSet String := ∅
  operators : Std.ExtTreeSet String := ∅
  deriving DecidableEq

namespace Tables

/-- Tables that know nothing. -/
def empty : Tables := {}

instance : EmptyCollection Tables := ⟨empty⟩

instance : Inhabited Tables := ⟨∅⟩

/-- Whether a word is a keyword by itself. -/
def isKeyword (tables : Tables) (word : String) : Bool := tables.keywords.contains word

/-- Whether a word is known as the first of a keyword of two words. -/
def isPairStart (tables : Tables) (word : String) : Bool := tables.pairs.contains word

/-- Whether two words are a keyword together. -/
def isPair (tables : Tables) (first second : String) : Bool :=
  (tables.pairs.getD first ∅).contains second

/-- Whether a text is a punctuation mark. -/
def isPunctuation (tables : Tables) (mark : String) : Bool := tables.punctuation.contains mark

/-- Whether a text is an operator. -/
def isOperator (tables : Tables) (symbol : String) : Bool := tables.operators.contains symbol

/-- What is added to tables at once. -/
inductive Addition
  | keywords (words : List String)
  | pairs (first : String) (seconds : List String)
  | punctuation (marks : List String)
  | operators (symbols : List String)
  deriving DecidableEq, Repr

/-- Tables that also know what an addition brings. Second words join those already known for the same
first word. -/
def add (tables : Tables) : Addition → Tables
  | .keywords words => { tables with keywords := tables.keywords.insertMany words }
  | .pairs first seconds =>
    { tables with
      pairs := tables.pairs.insert first ((tables.pairs.getD first ∅).insertMany seconds) }
  | .punctuation marks => { tables with punctuation := tables.punctuation.insertMany marks }
  | .operators symbols => { tables with operators := tables.operators.insertMany symbols }

/-- Tables that also know what a sequence of additions brings. -/
def addAll (tables : Tables) (additions : List Addition) : Tables := additions.foldl add tables

@[simp] theorem addAll_nil (tables : Tables) : tables.addAll [] = tables := rfl

@[simp] theorem addAll_cons (tables : Tables) (addition : Addition) (additions : List Addition) :
    tables.addAll (addition :: additions) = (tables.add addition).addAll additions := rfl

@[simp] theorem addAll_append (tables : Tables) (additions more : List Addition) :
    tables.addAll (additions ++ more) = (tables.addAll additions).addAll more :=
  List.foldl_append

namespace Addition

/-- Whether an addition brings a word as a keyword by itself. -/
def bringsKeyword (addition : Addition) (word : String) : Bool :=
  match addition with
  | keywords words => words.contains word
  | _ => false

/-- Whether an addition brings a word as the first of a keyword of two words. -/
def bringsPairStart (addition : Addition) (word : String) : Bool :=
  match addition with
  | pairs first _ => first == word
  | _ => false

/-- Whether an addition brings two words as a keyword together. -/
def bringsPair (addition : Addition) (word next : String) : Bool :=
  match addition with
  | pairs first seconds => first == word && seconds.contains next
  | _ => false

/-- Whether an addition brings a text as a punctuation mark. -/
def bringsPunctuation (addition : Addition) (mark : String) : Bool :=
  match addition with
  | punctuation marks => marks.contains mark
  | _ => false

/-- Whether an addition brings a text as an operator. -/
def bringsOperator (addition : Addition) (symbol : String) : Bool :=
  match addition with
  | operators symbols => symbols.contains symbol
  | _ => false

end Addition

@[simp] theorem isKeyword_add (tables : Tables) (addition : Addition) (word : String) :
    (tables.add addition).isKeyword word =
      (tables.isKeyword word || addition.bringsKeyword word) := by
  cases addition <;> simp [add, isKeyword, Addition.bringsKeyword]

@[simp] theorem isPairStart_add (tables : Tables) (addition : Addition) (word : String) :
    (tables.add addition).isPairStart word =
      (tables.isPairStart word || addition.bringsPairStart word) := by
  cases addition with
  | pairs first seconds =>
      rw [Bool.eq_iff_iff]
      simp [add, isPairStart, Addition.bringsPairStart, or_comm]
  | keywords words => simp [add, isPairStart, Addition.bringsPairStart]
  | punctuation marks => simp [add, isPairStart, Addition.bringsPairStart]
  | operators symbols => simp [add, isPairStart, Addition.bringsPairStart]

@[simp] theorem isPair_add (tables : Tables) (addition : Addition) (word next : String) :
    (tables.add addition).isPair word next =
      (tables.isPair word next || addition.bringsPair word next) := by
  cases addition with
  | pairs first seconds =>
      by_cases h : first = word
      · subst h
        simp [add, isPair, Addition.bringsPair]
      · simp [add, isPair, Addition.bringsPair, Std.ExtTreeMap.getD_insert, h]
  | keywords words => simp [add, isPair, Addition.bringsPair]
  | punctuation marks => simp [add, isPair, Addition.bringsPair]
  | operators symbols => simp [add, isPair, Addition.bringsPair]

@[simp] theorem isPunctuation_add (tables : Tables) (addition : Addition) (mark : String) :
    (tables.add addition).isPunctuation mark =
      (tables.isPunctuation mark || addition.bringsPunctuation mark) := by
  cases addition <;> simp [add, isPunctuation, Addition.bringsPunctuation]

@[simp] theorem isOperator_add (tables : Tables) (addition : Addition) (symbol : String) :
    (tables.add addition).isOperator symbol =
      (tables.isOperator symbol || addition.bringsOperator symbol) := by
  cases addition <;> simp [add, isOperator, Addition.bringsOperator]

/-- What a look-up answers after a sequence of additions follows from what it answers after one. -/
theorem lookup_addAll (lookup : Tables → Bool) (brings : Addition → Bool)
    (hadd : ∀ tables addition, lookup (add tables addition) = (lookup tables || brings addition))
    (tables : Tables) (additions : List Addition) :
    lookup (tables.addAll additions) = (lookup tables || additions.any brings) := by
  induction additions generalizing tables with
  | nil => rw [addAll_nil, List.any_nil, Bool.or_false]
  | cons addition additions ih => rw [addAll_cons, ih, hadd, List.any_cons, Bool.or_assoc]

theorem isKeyword_addAll (tables : Tables) (additions : List Addition) (word : String) :
    (tables.addAll additions).isKeyword word =
      (tables.isKeyword word || additions.any (·.bringsKeyword word)) :=
  lookup_addAll (isKeyword · word) _ (isKeyword_add · · word) tables additions

theorem isPair_addAll (tables : Tables) (additions : List Addition) (word next : String) :
    (tables.addAll additions).isPair word next =
      (tables.isPair word next || additions.any (·.bringsPair word next)) :=
  lookup_addAll (isPair · word next) _ (isPair_add · · word next) tables additions

theorem isPunctuation_addAll (tables : Tables) (additions : List Addition) (mark : String) :
    (tables.addAll additions).isPunctuation mark =
      (tables.isPunctuation mark || additions.any (·.bringsPunctuation mark)) :=
  lookup_addAll (isPunctuation · mark) _ (isPunctuation_add · · mark) tables additions

theorem isOperator_addAll (tables : Tables) (additions : List Addition) (symbol : String) :
    (tables.addAll additions).isOperator symbol =
      (tables.isOperator symbol || additions.any (·.bringsOperator symbol)) :=
  lookup_addAll (isOperator · symbol) _ (isOperator_add · · symbol) tables additions

/-! Standard SQL. Keywords are in upper case, and only that spelling of them is known. -/

/-- The words and marks of standard SQL, by kind. -/
def sqlAdditions : List Addition :=
  [.keywords
    ["ALL", "ALTER", "AND", "AS", "BETWEEN", "CASE", "COMMIT", "CREATE", "CTE", "DELETE",
     "DISTINCT", "DROP", "ELSE", "END", "EXISTS", "FROM", "FUNCTION", "GRANT", "HAVING", "IN",
     "INDEX", "INSERT", "INTO", "IS", "JOIN", "LIKE", "LIMIT", "NOT", "NULL", "OFFSET", "OR",
     "OVER", "PROCEDURE", "RETURNING", "REVOKE", "ROLLBACK", "ROW_NUMBER", "SELECT", "SET",
     "TABLE", "THEN", "TRANSACTION", "TRIGGER", "UNION", "UPDATE", "USER", "VALUES", "VIEW",
     "WHEN", "WHERE", "WITH"],
   .pairs "FULL" ["JOIN"],
   .pairs "GROUP" ["BY"],
   .pairs "INNER" ["JOIN"],
   .pairs "LEFT" ["JOIN"],
   .pairs "NATURAL" ["JOIN"],
   .pairs "ORDER" ["BY"],
   .pairs "PARTITION" ["BY"],
   .pairs "RIGHT" ["JOIN"],
   .punctuation [",", ";", ".", "(", ")", "'", "\"", "`", "[", "]", "/*", "*/"],
   .operators
    ["+", "-", "*", "/", "%", "+=", "-=", "*=", "/=", "=", "!=", "<", ">", "<=", ">="]]

/-- The tables of standard SQL. -/
def sql : Tables := empty.addAll sqlAdditions

end Tables

end SqlLexer
