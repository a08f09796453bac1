import Mathlib.Data.Finset.Card
import Mathlib.Algebra.Group.Embedding
import Mathlib.Algebra.Group.Nat.Defs
import SqlLexer.Proofs.Classification

/-!
Fusion of lexemes to keywords of two words. Which lexemes are fused is decided from left to right:
two lexemes that make a keyword are fused unless the first of them is taken already. So one set of
places is possible, and the tokens follow from it place by place.
-/

namespace SqlLexer

namespace Tables

theorem isPairStart_of_isPair {tables : Tables} {first second : String}
    (h : tables.isPair first second = true) : tables.isPairStart first = true := by
  by_contra hstart
  rw [isPairStart, Bool.not_eq_true] at hstart
  rw [isPair, Std.ExtTreeMap.getD_eq_fallback_of_contains_eq_false hstart] at h
  simp at h

/-- Whether the lexeme at a place and the one behind it make a keyword. A keyword by itself is not
the first half of another. -/
def pairAt (tables : Tables) (lexemes : List String) (i : ℕ) : Bool :=
  match lexemes[i]?, lexemes[i + 1]? with
  | some first, some second => !tables.isKeyword first && tables.isPair first second
  | _, _ => false

@[simp] theorem pairAt_cons_succ (tables : Tables) (lexeme : String) (lexemes : List String)
    (i : ℕ) : tables.pairAt (lexeme :: lexemes) (i + 1) = tables.pairAt lexemes i := rfl

theorem pairAt_eq_true_iff {tables : Tables} {lexemes : List String} {i : ℕ} :
    tables.pairAt lexemes i = true ↔
      ∃ first second, lexemes[i]? = some first ∧ lexemes[i + 1]? = some second ∧
        tables.isKeyword first = false ∧ tables.isPair first second = true := by
  rw [pairAt]
  split
  case h_1 first second hfirst hsecond => simp [hfirst, hsecond]
  case h_2 hnone =>
    refine iff_of_false (by decide) ?_
    rintro ⟨first, second, hfirst, hsecond, -⟩
    exact hnone first second hfirst hsecond

end Tables

/-- The places of the lexemes that are fused with the next one: those that make a keyword with it
and are not themselves fused with the one before. -/
def IsFusion (tables : Tables) (lexemes : List String) (fused : Finset ℕ) : Prop :=
  ∀ i, i ∈ fused ↔ tables.pairAt lexemes i = true ∧ (i = 0 ∨ i - 1 ∉ fused)

namespace IsFusion

variable {tables : Tables} {lexemes : List String} {fused : Finset ℕ}

theorem zero_mem_iff (h : IsFusion tables lexemes fused) :
    0 ∈ fused ↔ tables.pairAt lexemes 0 = true :=
  (h 0).trans (and_iff_left (Or.inl rfl))

theorem succ_mem_iff (h : IsFusion tables lexemes fused) (i : ℕ) :
    i + 1 ∈ fused ↔ tables.pairAt lexemes (i + 1) = true ∧ i ∉ fused := by
  rw [h (i + 1), Nat.add_sub_cancel]
  simp only [Nat.add_eq_zero_iff, one_ne_zero, and_false, false_or]

theorem iff_zero_succ :
    IsFusion tables lexemes fused ↔
      (0 ∈ fused ↔ tables.pairAt lexemes 0 = true) ∧
        ∀ i, i + 1 ∈ fused ↔ tables.pairAt lexemes (i + 1) = true ∧ i ∉ fused := by
  constructor
  · exact fun h => ⟨h.zero_mem_iff, h.succ_mem_iff⟩
  · rintro ⟨hzero, hsucc⟩ i
    cases i with
    | zero => simp [hzero]
    | succ i => simp [hsucc i]

theorem unique {fused' : Finset ℕ} (h : IsFusion tables lexemes fused)
    (h' : IsFusion tables lexemes fused') : fused = fused' := by
  ext i
  induction i with
  | zero => rw [h.zero_mem_iff, h'.zero_mem_iff]
  | succ i ih => rw [h.succ_mem_iff, h'.succ_mem_iff, ih]

end IsFusion

instance (tables : Tables) (lexemes : List String) (fused : Finset ℕ) :
    Decidable (IsFusion tables lexemes fused) :=
  decidable_of_iff
    (∀ i ∈ Finset.range lexemes.length ∪ fused,
      (i ∈ fused ↔ tables.pairAt lexemes i = true ∧ (i = 0 ∨ i - 1 ∉ fused)))
    (by
      refine ⟨fun h i => ?_, fun h i _ => h i⟩
      by_cases hi : i ∈ Finset.range lexemes.length ∪ fused
      · exact h i hi
      · rw [Finset.mem_union, Finset.mem_range, not_or, Nat.not_lt] at hi
        have hnone : lexemes[i]? = none := List.getElem?_eq_none hi.1
        exact iff_of_false hi.2 (by simp [Tables.pairAt, hnone]))

/-- The places moved on by some lexemes that stand before them. -/
def shift (k : ℕ) (places : Finset ℕ) : Finset ℕ := places.map (addRightEmbedding k)

@[simp] theorem add_mem_shift {k i : ℕ} {places : Finset ℕ} : i + k ∈ shift k places ↔ i ∈ places :=
  Finset.mem_map' (addRightEmbedding k)

@[simp] theorem card_shift (k : ℕ) (places : Finset ℕ) : (shift k places).card = places.card :=
  Finset.card_map _

theorem notMem_shift {k i : ℕ} (h : i < k) (places : Finset ℕ) : i ∉ shift k places := by
  rw [shift, Finset.mem_map]
  rintro ⟨j, -, rfl⟩
  exact absurd h (Nat.not_lt.2 (Nat.le_add_left k j))

theorem add_two_mem_insert_shift {i : ℕ} {places : Finset ℕ} :
    i + 2 ∈ insert 0 (shift 2 places) ↔ i ∈ places := by
  rw [Finset.mem_insert, add_mem_shift, or_iff_right (Nat.succ_ne_zero _)]

theorem one_notMem_insert_shift (places : Finset ℕ) : 1 ∉ insert 0 (shift 2 places) := by
  rw [Finset.mem_insert, not_or]
  exact ⟨one_ne_zero, notMem_shift Nat.one_lt_two places⟩

namespace IsFusion

variable {tables : Tables} {lexemes : List String} {fused : Finset ℕ}

/-- A lexeme that makes no keyword with the next one leaves the fusion behind it as it is. -/
theorem cons (h : IsFusion tables lexemes fused) {lexeme : String}
    (hpair : tables.pairAt (lexeme :: lexemes) 0 = false) :
    IsFusion tables (lexeme :: lexemes) (shift 1 fused) := by
  have hzero := notMem_shift Nat.zero_lt_one fused
  refine iff_zero_succ.2 ⟨iff_of_false hzero (by simp [hpair]), fun i => ?_⟩
  rw [add_mem_shift, Tables.pairAt_cons_succ]
  cases i with
  | zero => rw [h.zero_mem_iff, and_iff_left hzero]
  | succ i => rw [h.succ_mem_iff, add_mem_shift]

/-- Two lexemes that make a keyword are fused, and the fusion behind them starts anew. -/
theorem cons_cons (h : IsFusion tables lexemes fused) {first second : String}
    (hpair : tables.pairAt (first :: second :: lexemes) 0 = true) :
    IsFusion tables (first :: second :: lexemes) (insert 0 (shift 2 fused)) := by
  have hzero := Finset.mem_insert_self 0 (shift 2 fused)
  have hone := one_notMem_insert_shift fused
  refine iff_zero_succ.2 ⟨iff_of_true hzero hpair, fun i => ?_⟩
  cases i with
  | zero => exact iff_of_false hone fun hand => hand.2 hzero
  | succ i =>
      rw [add_two_mem_insert_shift, Tables.pairAt_cons_succ, Tables.pairAt_cons_succ]
      cases i with
      | zero => rw [h.zero_mem_iff, and_iff_left hone]
      | succ i => rw [h.succ_mem_iff, add_two_mem_insert_shift]

end IsFusion

/-- The rules for a lexeme by itself, in the order in which they are tried. -/
def Rule.loneOrder : List Rule := [keyword, punctuation, operator, literal, identifier]

namespace Dialect

/-- The token of a lexeme by itself. -/
def lone (dialect : Dialect) (lexeme : String) : Token :=
  ⟨.ofRule? (Rule.loneOrder.find? fun rule => dialect.accepts rule lexeme none), lexeme⟩

/-- The token that begins with the lexeme at a place, where the lexemes at the places `fused` are
fused with the next one. There is none if that lexeme is taken by the token before. -/
def tokenAt (dialect : Dialect) (lexemes : List String) (fused : Finset ℕ) (i : ℕ) : Option Token :=
  if i ∈ fused then
    lexemes[i]?.bind fun first =>
      lexemes[i + 1]?.map fun second => ⟨.keyword, first ++ " " ++ second⟩
  else if 0 < i ∧ i - 1 ∈ fused then
    none
  else
    lexemes[i]?.map dialect.lone

variable {dialect : Dialect}

theorem accepts_keywordPair (lexeme : String) (next? : Option String) :
    dialect.accepts .keywordPair lexeme next? = next?.any (dialect.tables.isPair lexeme) := by
  cases next? with
  | none => rfl
  | some next =>
      rw [accepts, Option.any_some, Option.any_some]
      cases hpair : dialect.tables.isPair lexeme next with
      | false => exact Bool.and_false _
      | true => rw [Tables.isPairStart_of_isPair hpair, Bool.and_self]

/-- A lexeme has the rule that it has by itself, unless it makes a keyword with the next one. -/
theorem ruleFor?_eq_ite (lexeme : String) (next? : Option String) :
    dialect.ruleFor? lexeme next? =
      if (!dialect.tables.isKeyword lexeme && next?.any (dialect.tables.isPair lexeme)) = true then
        some .keywordPair
      else
        Rule.loneOrder.find? fun rule => dialect.accepts rule lexeme none := by
  simp only [ruleFor?, Rule.order, Rule.loneOrder, List.find?_cons, accepts_keywordPair]
  have hkeyword (next? : Option String) :
      dialect.accepts .keyword lexeme next? = dialect.tables.isKeyword lexeme := rfl
  rw [hkeyword, hkeyword]
  cases dialect.tables.isKeyword lexeme with
  | true => rfl
  | false => cases next?.any (dialect.tables.isPair lexeme) <;> rfl

theorem pairAt_zero (tables : Tables) (lexeme : String) (lexemes : List String) :
    tables.pairAt (lexeme :: lexemes) 0 =
      (!tables.isKeyword lexeme && lexemes.head?.any (tables.isPair lexeme)) := by
  cases lexemes with
  | nil => exact (Bool.and_false _).symm
  | cons next lexemes => rfl

theorem ruleFor?_eq_keywordPair_iff {lexeme : String} {lexemes : List String} :
    dialect.ruleFor? lexeme lexemes.head? = some .keywordPair ↔
      dialect.tables.pairAt (lexeme :: lexemes) 0 = true := by
  rw [ruleFor?_eq_ite, pairAt_zero]
  split
  case isTrue hpair => exact iff_of_true rfl hpair
  case isFalse hpair =>
    refine iff_of_false (fun hfind => ?_) hpair
    exact absurd (List.mem_of_find?_eq_some hfind) (by decide)

/-- Two lexemes that make a keyword become one token. -/
theorem classify_of_pairAt {first second : String} {lexemes : List String}
    (h : dialect.tables.pairAt (first :: second :: lexemes) 0 = true) :
    dialect.classify (first :: second :: lexemes) =
      ⟨.keyword, first ++ " " ++ second⟩ :: dialect.classify lexemes :=
  classify_of_keywordPair (ruleFor?_eq_keywordPair_iff.2 h) lexemes

theorem classify_of_not_pairAt {lexeme : String} {lexemes : List String}
    (h : dialect.tables.pairAt (lexeme :: lexemes) 0 = false) :
    dialect.classify (lexeme :: lexemes) = dialect.lone lexeme :: dialect.classify lexemes := by
  have hne : dialect.ruleFor? lexeme lexemes.head? ≠ some .keywordPair := by
    rw [ne_eq, ruleFor?_eq_keywordPair_iff, h]
    decide
  rw [classify_of_ne_keywordPair hne, ruleFor?_eq_ite, ← pairAt_zero, h]
  rfl

theorem filterMap_range_succ {α : Type} (f : ℕ → Option α) (n : ℕ) :
    (List.range (n + 1)).filterMap f =
      (f 0).toList ++ (List.range n).filterMap fun i => f (i + 1) := by
  rw [List.range_succ_eq_map, List.filterMap_cons, List.filterMap_map]
  cases f 0 <;> rfl

theorem tokenAt_add {lexemes : List String} {fused fused' : Finset ℕ} {k : ℕ}
    (hmem : ∀ i, i + (k + 1) ∈ fused' ↔ i ∈ fused) (hk : k ∉ fused') (i : ℕ) :
    dialect.tokenAt lexemes fused' (i + (k + 1)) =
      dialect.tokenAt (lexemes.drop (k + 1)) fused i := by
  have hbefore : (0 < i + (k + 1) ∧ i + (k + 1) - 1 ∈ fused') ↔ (0 < i ∧ i - 1 ∈ fused) := by
    cases i with
    | zero => simp [hk]
    | succ i =>
        have hpred : i + 1 + (k + 1) - 1 = i + (k + 1) := by omega
        rw [hpred, hmem, Nat.add_sub_cancel]
        exact and_congr_left' (iff_of_true (by omega) (by omega))
  have hplace (j : ℕ) : (lexemes.drop (k + 1))[j]? = lexemes[j + (k + 1)]? := by
    rw [List.getElem?_drop, Nat.add_comm]
  have hnext : i + (k + 1) + 1 = i + 1 + (k + 1) := by omega
  simp only [tokenAt, hmem, hbefore, hplace, hnext]

/-- A classification goes by a fusion of the lexemes. -/
theorem exists_isFusion (dialect : Dialect) (lexemes : List String) :
    ∃ fused, IsFusion dialect.tables lexemes fused ∧
      dialect.classify lexemes =
        (List.range lexemes.length).filterMap (dialect.tokenAt lexemes fused) ∧
      (dialect.classify lexemes).length + fused.card = lexemes.length := by
  induction lexemes using dialect.classify_induction with
  | nil => exact ⟨∅, by simp [IsFusion, Tables.pairAt], rfl, rfl⟩
  | pair first second lexemes hrule ih =>
      obtain ⟨fused, hfused, htokens, hlength⟩ := ih
      have hpair : dialect.tables.pairAt (first :: second :: lexemes) 0 = true :=
        ruleFor?_eq_keywordPair_iff.1 hrule
      have hone := one_notMem_insert_shift fused
      refine ⟨insert 0 (shift 2 fused), hfused.cons_cons hpair, ?_, ?_⟩
      · have hzeroth : dialect.tokenAt (first :: second :: lexemes) (insert 0 (shift 2 fused)) 0 =
            some ⟨.keyword, first ++ " " ++ second⟩ := by simp [tokenAt]
        have hfirst : dialect.tokenAt (first :: second :: lexemes) (insert 0 (shift 2 fused)) 1 =
            none := by simp [tokenAt, hone]
        rw [classify_of_pairAt hpair, htokens, List.length_cons, List.length_cons,
          filterMap_range_succ, filterMap_range_succ, hzeroth, hfirst]
        simp only [tokenAt_add (fun _ => add_two_mem_insert_shift) hone]
        rfl
      · rw [classify_of_pairAt hpair, Finset.card_insert_of_notMem (notMem_shift Nat.two_pos fused),
          card_shift]
        simp only [List.length_cons]
        omega
  | single lexeme lexemes hrule ih =>
      obtain ⟨fused, hfused, htokens, hlength⟩ := ih
      have hpair : dialect.tables.pairAt (lexeme :: lexemes) 0 = false := by
        rwa [ne_eq, ruleFor?_eq_keywordPair_iff, Bool.not_eq_true] at hrule
      have hzero := notMem_shift Nat.one_pos fused
      refine ⟨shift 1 fused, hfused.cons hpair, ?_, ?_⟩
      · have hzeroth : dialect.tokenAt (lexeme :: lexemes) (shift 1 fused) 0 =
            some (dialect.lone lexeme) := by simp [tokenAt, hzero]
        rw [classify_of_not_pairAt hpair, htokens, List.length_cons, filterMap_range_succ, hzeroth]
        simp only [tokenAt_add (fun _ => add_mem_shift) hzero]
        rfl
      · rw [classify_of_not_pairAt hpair, card_shift]
        simp only [List.length_cons]
        omega

section

variable {lexemes : List String} {fused : Finset ℕ}

theorem tokenAt_of_mem (h : IsFusion dialect.tables lexemes fused) {i : ℕ} (hi : i ∈ fused) :
    ∃ first second, lexemes[i]? = some first ∧ lexemes[i + 1]? = some second ∧
      dialect.tokenAt lexemes fused i = some ⟨.keyword, first ++ " " ++ second⟩ := by
  obtain ⟨first, second, hfirst, hsecond, -⟩ := Tables.pairAt_eq_true_iff.1 ((h i).1 hi).1
  refine ⟨first, second, hfirst, hsecond, ?_⟩
  rw [tokenAt, if_pos hi, hfirst, hsecond]
  rfl

theorem tokenAt_of_notMem {i : ℕ} (hi : i ∉ fused) (hbefore : i = 0 ∨ i - 1 ∉ fused) :
    dialect.tokenAt lexemes fused i = lexemes[i]?.map dialect.lone := by
  rw [tokenAt, if_neg hi, if_neg]
  rintro ⟨hpos, hmem⟩
  rcases hbefore with rfl | hnot
  · exact absurd hpos (Nat.lt_irrefl 0)
  · exact hnot hmem

theorem lone_of_isKeyword {word : String} (h : dialect.tables.isKeyword word = true) :
    dialect.lone word = ⟨.keyword, word⟩ := by
  have haccepts : dialect.accepts .keyword word none = true := h
  rw [lone, Rule.loneOrder, List.find?_cons, haccepts]
  rfl

/-- A keyword by itself becomes a keyword, or the second half of one. -/
theorem tokenAt_of_isKeyword (h : IsFusion dialect.tables lexemes fused) {i : ℕ} {word : String}
    (hword : lexemes[i]? = some word) (hkeyword : dialect.tables.isKeyword word = true) :
    dialect.tokenAt lexemes fused i = some ⟨.keyword, word⟩ ∨
      ∃ j first, j + 1 = i ∧
        dialect.tokenAt lexemes fused j = some ⟨.keyword, first ++ " " ++ word⟩ := by
  have hnot : i ∉ fused := by
    intro hi
    obtain ⟨first, second, hfirst, -, hnone, -⟩ := Tables.pairAt_eq_true_iff.1 ((h i).1 hi).1
    obtain rfl : word = first := Option.some_inj.1 (hword.symm.trans hfirst)
    rw [hkeyword] at hnone
    cases hnone
  by_cases hbefore : i = 0 ∨ i - 1 ∉ fused
  · left
    rw [tokenAt_of_notMem hnot hbefore, hword, Option.map_some, lone_of_isKeyword hkeyword]
  · right
    rw [not_or, not_not] at hbefore
    obtain ⟨first, second, -, hsecond, htoken⟩ := tokenAt_of_mem h hbefore.2
    have hpred : i - 1 + 1 = i := Nat.succ_pred_eq_of_ne_zero hbefore.1
    rw [hpred, hword, Option.some_inj] at hsecond
    exact ⟨i - 1, first, hpred, hsecond ▸ htoken⟩

end

theorem classify_eq_nil_iff (dialect : Dialect) (lexemes : List String) :
    dialect.classify lexemes = [] ↔ lexemes = [] := by
  induction lexemes using dialect.classify_induction with
  | nil => exact iff_of_true rfl rfl
  | pair first second lexemes hrule ih => simp [classify_of_keywordPair hrule]
  | single lexeme lexemes hrule ih => simp [classify_of_ne_keywordPair hrule]

/-- Joined by single spaces, the tokens and the lexemes are the same text. -/
theorem intercalate_classify (dialect : Dialect) (lexemes : List String) :
    " ".intercalate ((dialect.classify lexemes).map Token.value) = " ".intercalate lexemes := by
  have hcons (text : String) {lexemes : List String}
      (h : " ".intercalate ((dialect.classify lexemes).map Token.value) =
        " ".intercalate lexemes) :
      " ".intercalate (text :: (dialect.classify lexemes).map Token.value) =
        " ".intercalate (text :: lexemes) := by
    by_cases hnil : lexemes = []
    · rw [hnil]
      rfl
    · have hvalues : (dialect.classify lexemes).map Token.value ≠ [] := by
        rwa [ne_eq, List.map_eq_nil_iff, classify_eq_nil_iff]
      rw [String.intercalate_cons_of_ne_nil hvalues, String.intercalate_cons_of_ne_nil hnil, h]
  induction lexemes using dialect.classify_induction with
  | nil => rfl
  | pair first second lexemes hrule ih =>
      rw [classify_of_keywordPair hrule, List.map_cons, String.intercalate_cons_append,
        hcons second ih, String.intercalate_cons_cons]
  | single lexeme lexemes hrule ih =>
      rw [classify_of_ne_keywordPair hrule, List.map_cons, hcons lexeme ih]

end Dialect

/-- Tokens are the lexemes, fused where the one fusion of them says so. -/
theorem classify_fuses (dialect : Dialect) (lexemes : List String) :
    (∃! fused, IsFusion dialect.tables lexemes fused) ∧
    ∀ fused, IsFusion dialect.tables lexemes fused →
      dialect.classify lexemes =
        (List.range lexemes.length).filterMap (dialect.tokenAt lexemes fused) ∧
      (∀ i ∈ fused, ∃ first second, lexemes[i]? = some first ∧ lexemes[i + 1]? = some second ∧
        dialect.tokenAt lexemes fused i = some ⟨.keyword, first ++ " " ++ second⟩) ∧
      (∀ i, i ∉ fused → i = 0 ∨ i - 1 ∉ fused →
        dialect.tokenAt lexemes fused i = lexemes[i]?.map dialect.lone) ∧
      " ".intercalate ((dialect.classify lexemes).map Token.value) = " ".intercalate lexemes ∧
      (dialect.classify lexemes).length + fused.card = lexemes.length ∧
      ∀ i word, lexemes[i]? = some word → dialect.tables.isKeyword word = true →
        dialect.tokenAt lexemes fused i = some ⟨.keyword, word⟩ ∨
          ∃ j first, j + 1 = i ∧
            dialect.tokenAt lexemes fused j = some ⟨.keyword, first ++ " " ++ word⟩ := by
  obtain ⟨fused, hfused, htokens, hlength⟩ := dialect.exists_isFusion lexemes
  refine ⟨⟨fused, hfused, fun fused' hfused' => hfused'.unique hfused⟩, ?_⟩
  intro fused' hfused'
  obtain rfl := hfused.unique hfused'
  refine ⟨htokens, fun i hi => Dialect.tokenAt_of_mem hfused hi,
    fun i hi hbefore => Dialect.tokenAt_of_notMem hi hbefore, dialect.intercalate_classify lexemes,
    hlength, fun i word => Dialect.tokenAt_of_isKeyword hfused⟩

/-- Every second pair of a chain is fused. -/
theorem classify_chain :
    let dialect : Dialect := { tables := Tables.empty.addAll [.pairs "a" ["b"], .pairs "b" ["a"]] }
    IsFusion dialect.tables ["a", "b", "a", "b", "a"] {0, 2} ∧
      dialect.classify ["a", "b", "a", "b", "a"] =
        [⟨.keyword, "a b"⟩, ⟨.keyword, "a b"⟩, ⟨.identifier, "a"⟩] := by
  intro dialect
  have hfused : IsFusion dialect.tables ["a", "b", "a", "b", "a"] {0, 2} := by decide +kernel
  refine ⟨hfused, ?_⟩
  rw [((classify_fuses dialect _).2 _ hfused).1]
  decide +kernel

end SqlLexer
