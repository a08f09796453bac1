import Mathlib.Data.List.Chain
import SqlLexer.Dialect.Log
import SqlLexer.Proofs.Classification
import SqlLexer.Proofs.Segmentation

/-!
The log of a query against its tokens. The steps of a tokenization walk over the lexemes: each begins
where the one before has left off, and the last one ends behind the last lexeme. So the events of the
steps show the tokens in order, and the numbers of lexemes and tokens differ by the number of tokens
that two lexemes are fused in.
-/

namespace SqlLexer

theorem getElem?_append_length {α : Type} (before : List α) (x : α) (after : List α) :
    (before ++ x :: after)[before.length]? = some x := by
  rw [List.getElem?_append_right (Nat.le_refl _), Nat.sub_self, List.getElem?_cons_zero]

theorem getElem?_append_length_succ {α : Type} (before : List α) (x : α) (after : List α) :
    (before ++ x :: after)[before.length + 1]? = after.head? := by
  rw [List.getElem?_append_right (Nat.le_add_right _ 1), Nat.add_sub_cancel_left,
    List.getElem?_cons_succ, List.head?_eq_getElem?]

namespace Dialect

variable {dialect : Dialect} {lexemes : List String} {i j : ℕ} {steps : List Step}

/-- The rule for the lexeme at a place, if one accepts it. -/
def ruleAt? (dialect : Dialect) (lexemes : List String) (i : ℕ) : Option Rule :=
  lexemes[i]?.bind fun lexeme => dialect.ruleFor? lexeme lexemes[i + 1]?

/-- The number of lexemes in the token that begins at a place. -/
def widthAt (dialect : Dialect) (lexemes : List String) (i : ℕ) : ℕ :=
  (dialect.ruleAt? lexemes i).elim 1 Rule.width

theorem widthAt_of_keywordPair (h : dialect.ruleAt? lexemes i = some .keywordPair) :
    dialect.widthAt lexemes i = 2 := by
  rw [widthAt, h]
  rfl

theorem widthAt_of_ne_keywordPair (h : dialect.ruleAt? lexemes i ≠ some .keywordPair) :
    dialect.widthAt lexemes i = 1 := by
  rw [widthAt]
  cases hrule : dialect.ruleAt? lexemes i with
  | none => rfl
  | some rule =>
      cases rule with
      | keywordPair => exact absurd hrule h
      | keyword => rfl
      | punctuation => rfl
      | operator => rfl
      | literal => rfl
      | identifier => rfl

/-- Steps that lead over the lexemes from one place to another. -/
inductive Walk (dialect : Dialect) (lexemes : List String) : ℕ → List Step → ℕ → Prop
  /-- A walk without steps stays where it is. -/
  | stay (i : ℕ) : Walk dialect lexemes i [] i
  /-- A step over two lexemes that are a keyword together. -/
  | pair {i j : ℕ} {first second : String} {steps : List Step} (hfirst : lexemes[i]? = some first)
      (hsecond : lexemes[i + 1]? = some second)
      (hrule : dialect.ruleAt? lexemes i = some .keywordPair)
      (rest : Walk dialect lexemes (i + 2) steps j) :
      Walk dialect lexemes i (⟨i, first, ⟨.keyword, first ++ " " ++ second⟩⟩ :: steps) j
  /-- A step over any other lexeme. -/
  | single {i j : ℕ} {lexeme : String} {steps : List Step} (hlexeme : lexemes[i]? = some lexeme)
      (hrule : dialect.ruleAt? lexemes i ≠ some .keywordPair)
      (rest : Walk dialect lexemes (i + 1) steps j) :
      Walk dialect lexemes i
        (⟨i, lexeme, ⟨.ofRule? (dialect.ruleAt? lexemes i), lexeme⟩⟩ :: steps) j

theorem ruleAt?_append_length (dialect : Dialect) (before : List String) (lexeme : String)
    (after : List String) :
    dialect.ruleAt? (before ++ lexeme :: after) before.length =
      dialect.ruleFor? lexeme after.head? := by
  rw [ruleAt?, getElem?_append_length, getElem?_append_length_succ, Option.bind_some]

/-- The steps from a place on lead to the end of the lexemes. -/
theorem walk_steps (dialect : Dialect) (before lexemes : List String) :
    Walk dialect (before ++ lexemes) before.length (dialect.steps before.length lexemes)
      (before ++ lexemes).length := by
  induction lexemes using dialect.classify_induction generalizing before with
  | nil =>
      rw [List.append_nil]
      exact .stay before.length
  | pair first second lexemes hrule ih =>
      have hplace : (before ++ [first, second]).length = before.length + 2 := List.length_append
      have hrest := ih (before ++ [first, second])
      rw [hplace, List.append_assoc] at hrest
      rw [steps_of_keywordPair hrule]
      refine .pair (getElem?_append_length _ _ _) (getElem?_append_length_succ _ _ _) ?_ hrest
      rw [ruleAt?_append_length]
      exact hrule
  | single lexeme lexemes hrule ih =>
      have hplace : (before ++ [lexeme]).length = before.length + 1 := List.length_append
      have hrest := ih (before ++ [lexeme])
      rw [hplace, List.append_assoc] at hrest
      have hruleAt := dialect.ruleAt?_append_length before lexeme lexemes
      rw [steps_of_ne_keywordPair hrule, ← hruleAt]
      exact .single (getElem?_append_length _ _ _) (hruleAt ▸ hrule) hrest

namespace Walk

/-- The first step is where the walk begins; if there is none, the walk ends there. -/
theorem head?_eq (h : Walk dialect lexemes i steps j) :
    (steps.map Step.position ++ [j]).head? = some i := by
  cases h <;> rfl

/-- Each step goes on by the lexemes of its token. -/
theorem isChain (h : Walk dialect lexemes i steps j) :
    (steps.map Step.position ++ [j]).IsChain fun p q => q = p + dialect.widthAt lexemes p := by
  induction h with
  | stay i => exact .singleton i
  | pair hfirst hsecond hrule rest ih =>
      refine ih.cons fun q hq => ?_
      rw [Option.mem_unique hq rest.head?_eq, widthAt_of_keywordPair hrule]
  | single hlexeme hrule rest ih =>
      refine ih.cons fun q hq => ?_
      rw [Option.mem_unique hq rest.head?_eq, widthAt_of_ne_keywordPair hrule]

/-- A walk has a step for each lexeme, less one for each that is fused with the one before. -/
theorem length_add_countP (h : Walk dialect lexemes i steps j) :
    i + (steps.length + (steps.map Step.position).countP (dialect.widthAt lexemes · = 2)) = j := by
  induction h with
  | stay i => rfl
  | pair hfirst hsecond hrule rest ih =>
      rw [List.map_cons, List.countP_cons_of_pos (by simp [widthAt_of_keywordPair hrule]),
        List.length_cons, ← ih]
      omega
  | single hlexeme hrule rest ih =>
      rw [List.map_cons, List.countP_cons_of_neg (by simp [widthAt_of_ne_keywordPair hrule]),
        List.length_cons, ← ih]
      omega

/-- Each step shows the lexeme where it is, and makes a token of that lexeme or of two. -/
theorem of_mem (h : Walk dialect lexemes i steps j) {step : Step} (hstep : step ∈ steps) :
    lexemes[step.position]? = some step.lexeme ∧
      (dialect.widthAt lexemes step.position = 2 ∧
          (∃ next, lexemes[step.position + 1]? = some next ∧
            step.token = ⟨.keyword, step.lexeme ++ " " ++ next⟩) ∨
        dialect.widthAt lexemes step.position = 1 ∧ step.token.value = step.lexeme) := by
  induction h with
  | stay i => cases hstep
  | pair hfirst hsecond hrule rest ih =>
      rcases List.mem_cons.1 hstep with rfl | hstep
      · exact ⟨hfirst, Or.inl ⟨widthAt_of_keywordPair hrule, _, hsecond, rfl⟩⟩
      · exact ih hstep
  | single hlexeme hrule rest ih =>
      rcases List.mem_cons.1 hstep with rfl | hstep
      · exact ⟨hlexeme, Or.inr ⟨widthAt_of_ne_keywordPair hrule, rfl⟩⟩
      · exact ih hstep

end Walk

end Dialect

theorem Quote.utf8Size_char (q : Quote) : q.char.utf8Size = 1 := by
  cases q <;> rfl

namespace Segmentation

theorem events_of_not_isFolded {s : Segmentation} (h : s.isFolded = false) : s.events = [] := by
  rw [events, isFolded_eq_false_iff.1 h]
  rfl

/-- The event of a fold is about the last lexeme. -/
theorem events_of_fold {s : Segmentation} {f : Fold} (h : s.fold = some f) :
    s.lexemes.getLast? = some f.text ∧
      s.events = [.unterminated f.quote (s.lexemes.length - 1) (f.text.utf8ByteSize - 1)] := by
  have hlexemes : s.lexemes = s.whole ++ [f.text] := by
    rw [lexemes, h]
    rfl
  have hlength : s.lexemes.length - 1 = s.whole.length := by
    rw [hlexemes, List.length_append, List.length_singleton, Nat.add_sub_cancel]
  have hsize : f.text.utf8ByteSize - 1 = f.rest.utf8ByteSize := by
    rw [Fold.text, String.utf8ByteSize_append, String.utf8ByteSize_singleton, Quote.utf8Size_char,
      Nat.add_sub_cancel_left]
  refine ⟨by rw [hlexemes, List.getLast?_concat], ?_⟩
  rw [events, h, hlength, hsize]
  rfl

theorem level_of_mem_events {s : Segmentation} {event : Event} (h : event ∈ s.events) :
    event.level = .debug := by
  rw [events, Option.mem_toList, Option.map_eq_some_iff] at h
  obtain ⟨f, -, rfl⟩ := h
  rfl

end Segmentation

namespace Dialect

theorem length_steps (dialect : Dialect) (query : String) :
    (dialect.steps 0 (segment query).lexemes).length = (dialect.tokenize query).length := by
  rw [tokenize, classify, List.length_map]

theorem log_eq (dialect : Dialect) (query : String) :
    dialect.log query =
      (segment query).events ++ (dialect.steps 0 (segment query).lexemes).map Step.event ++
        [.tokenized query.utf8ByteSize (segment query).lexemes.length
          (dialect.tokenize query).length] := by
  rw [← length_steps]
  rfl

theorem map_level_log (dialect : Dialect) (query : String) :
    (dialect.log query).map Event.level =
      (segment query).events.map (fun _ => .debug) ++
        List.replicate (dialect.tokenize query).length .trace ++ [.debug] := by
  have hevents : (segment query).events.map Event.level =
      (segment query).events.map fun _ => .debug :=
    List.map_congr_left fun _ => Segmentation.level_of_mem_events
  have htraces (steps : List Step) :
      (steps.map Step.event).map Event.level = List.replicate steps.length .trace := by
    rw [List.map_map, ← List.map_const']
    rfl
  rw [log_eq, List.map_append, List.map_append, hevents, htraces, length_steps]
  rfl

end Dialect

/-- The log of a query tells of the fold, of each token where its lexemes are, and of the totals. -/
theorem log_of_tokens (dialect : Dialect) (query : String) :
    let s := segment query
    let tokens := dialect.tokenize query
    ∃ (places : List ℕ) (traces : List Event),
      dialect.log query = s.events ++ traces ++
        [.tokenized query.utf8ByteSize s.lexemes.length tokens.length] ∧
      (dialect.log query).map Event.level =
        s.events.map (fun _ => .debug) ++ List.replicate tokens.length .trace ++ [.debug] ∧
      (s.isFolded = false → s.events = []) ∧
      (∀ f, s.fold = some f → s.lexemes.getLast? = some f.text ∧
        s.events = [.unterminated f.quote (s.lexemes.length - 1) (f.text.utf8ByteSize - 1)]) ∧
      places.length = tokens.length ∧ traces.length = tokens.length ∧
      (places ++ [s.lexemes.length]).head? = some 0 ∧
      ((places ++ [s.lexemes.length]).IsChain fun p q => q = p + dialect.widthAt s.lexemes p) ∧
      (∀ k < tokens.length, ∃ place lexeme token,
        places[k]? = some place ∧ s.lexemes[place]? = some lexeme ∧ tokens[k]? = some token ∧
        traces[k]? = some (.lexeme place lexeme token.type) ∧
        (dialect.widthAt s.lexemes place = 2 ∧
            (∃ next, s.lexemes[place + 1]? = some next ∧
              token = ⟨.keyword, lexeme ++ " " ++ next⟩) ∨
          dialect.widthAt s.lexemes place = 1 ∧ token.value = lexeme)) ∧
      tokens.length + places.countP (dialect.widthAt s.lexemes · = 2) = s.lexemes.length := by
  intro s tokens
  have hwalk := dialect.walk_steps [] s.lexemes
  rw [List.nil_append, List.length_nil] at hwalk
  have hlength : (dialect.steps 0 s.lexemes).length = tokens.length := dialect.length_steps query
  refine ⟨(dialect.steps 0 s.lexemes).map Step.position, (dialect.steps 0 s.lexemes).map Step.event,
    dialect.log_eq query, dialect.map_level_log query, Segmentation.events_of_not_isFolded,
    fun f => Segmentation.events_of_fold, ?_, ?_, hwalk.head?_eq, hwalk.isChain, ?_, ?_⟩
  · rw [List.length_map, hlength]
  · rw [List.length_map, hlength]
  · intro k hk
    rw [← hlength] at hk
    have hstep := List.getElem?_eq_getElem hk
    have htokens : tokens = (dialect.steps 0 s.lexemes).map Step.token := rfl
    obtain ⟨hlexeme, htoken⟩ := hwalk.of_mem (List.getElem_mem hk)
    refine ⟨_, _, _, ?_, hlexeme, ?_, ?_, htoken⟩
    · rw [List.getElem?_map, hstep, Option.map_some]
    · rw [htokens, List.getElem?_map, hstep, Option.map_some]
    · rw [List.getElem?_map, hstep, Option.map_some, Step.event]
  · have hcount := hwalk.length_add_countP
    rwa [Nat.zero_add, hlength] at hcount

-- two lexemes in one token, and a fold that is the last lexeme
example :
    ({} : Dialect).log "GROUP BY 'a  b " =
      [.unterminated .single 2 3, .lexeme 0 "GROUP" .keyword, .lexeme 2 "'a b" .unknown,
        .tokenized 15 3 2] := by
  decide +kernel

end SqlLexer
