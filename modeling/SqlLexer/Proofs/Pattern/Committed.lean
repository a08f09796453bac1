import SqlLexer.Proofs.LexemeKind

/-!
A third way to read a pattern, in which every choice is final: of two alternatives the first one that
matches is taken, and a repetition goes on as long as it can, whatever then fails behind it. What is
read so has been matched, but a text may be missed. Numbers with a sign are a pattern that misses none.
-/

namespace SqlLexer

namespace CharSet

def sign : CharSet := { ranges := [('+', '+'), ('-', '-')] }

theorem contains_sign {c : Char} : sign.contains c = true ↔ c = '+' ∨ c = '-' := by
  have hplus : c = '+' ↔ c.toNat = 43 := Char.toNat_inj.symm
  have hminus : c = '-' ↔ c.toNat = 45 := Char.toNat_inj.symm
  rw [contains_iff rfl, hplus, hminus]
  simp [sign]
  omega

end CharSet

namespace Pattern

/-- What a step leaves of a text when it is made as often as it succeeds and takes a character. -/
def exhaust (step : List Char → Option (List Char)) (cs : List Char) : List Char :=
  match step cs with
  | some rest => if rest.length < cs.length then exhaust step rest else cs
  | none => cs
termination_by cs.length

/-- What a pattern leaves of a text if no choice is ever taken back. -/
def committed? : Pattern → List Char → Option (List Char)
  | empty, cs => some cs
  | char _, [] => none
  | char set, c :: cs => if set.contains c then some cs else none
  | seq p q, cs => (p.committed? cs).bind q.committed?
  | either p q, cs => (p.committed? cs).or (q.committed? cs)
  | star p, cs => some (exhaust p.committed? cs)

@[simp] theorem committed?_empty (cs : List Char) : empty.committed? cs = some cs := rfl

@[simp] theorem committed?_char_nil (set : CharSet) : (char set).committed? [] = none := rfl

@[simp] theorem committed?_char_cons (set : CharSet) (c : Char) (cs : List Char) :
    (char set).committed? (c :: cs) = if set.contains c then some cs else none := rfl

theorem committed?_seq (p q : Pattern) (cs : List Char) :
    (seq p q).committed? cs = (p.committed? cs).bind q.committed? := rfl

theorem committed?_either (p q : Pattern) (cs : List Char) :
    (either p q).committed? cs = (p.committed? cs).or (q.committed? cs) := rfl

theorem exhaust_mem_restsOfStar {first? : List Char → Option (List Char)}
    {step : List Char → List (List Char)}
    (hstep : ∀ cs rest, first? cs = some rest → rest ∈ step cs) (cs : List Char) :
    exhaust first? cs ∈ restsOfStar step cs := by
  fun_induction exhaust first? cs with
  | case1 cs rest hrest hlt ih =>
      rw [restsOfStar, List.mem_append, List.mem_flatMap]
      refine Or.inl ⟨rest, hstep cs rest hrest, ?_⟩
      rwa [if_pos hlt]
  | case2 cs rest hrest hlt =>
      rw [restsOfStar]
      exact List.mem_append_right _ (List.mem_singleton_self cs)
  | case3 cs hnone =>
      rw [restsOfStar]
      exact List.mem_append_right _ (List.mem_singleton_self cs)

/-- A committed reading is one of those that the search finds. -/
theorem mem_rests_of_committed? {p : Pattern} {cs rest : List Char}
    (h : p.committed? cs = some rest) : rest ∈ p.rests cs := by
  induction p generalizing cs rest with
  | empty => exact List.mem_singleton.2 (Option.some_inj.1 h).symm
  | char set =>
      cases cs with
      | nil => cases h
      | cons c cs =>
          rw [committed?_char_cons] at h
          rw [rests]
          split at h
          case isTrue hc =>
            rw [if_pos hc]
            exact List.mem_singleton.2 (Option.some_inj.1 h).symm
          case isFalse => cases h
  | seq p q ihp ihq =>
      obtain ⟨middle, hmiddle, hrest⟩ := Option.bind_eq_some_iff.1 h
      exact List.mem_flatMap.2 ⟨middle, ihp hmiddle, ihq hrest⟩
  | either p q ihp ihq =>
      rcases Option.or_eq_some_iff.1 h with hp | ⟨-, hq⟩
      · exact List.mem_append_left _ (ihp hp)
      · exact List.mem_append_right _ (ihq hq)
  | star p ih =>
      obtain rfl := Option.some_inj.1 h
      exact exhaust_mem_restsOfStar (fun _ _ => ih) cs

theorem mem_language_of_committed? {p : Pattern} {cs : List Char}
    (h : p.committed? cs = some []) : cs ∈ p.language :=
  mem_language_iff_nil_mem_rests.2 (mem_rests_of_committed? h)

/-- The search takes back its first choice here, and the committed reading fails. -/
example :
    let a := char (.single 'a')
    let p := seq (either a (seq a (char (.single 'b')))) (char (.single 'c'))
    p.rests ['a', 'b', 'c'] = [[]] ∧ p.committed? ['a', 'b', 'c'] = none := by
  decide

/-! Runs of characters. -/

theorem committed?_star_char (set : CharSet) (cs : List Char) :
    (star (char set)).committed? cs = some (cs.dropWhile set.contains) := by
  rw [committed?]
  induction cs with
  | nil => rw [exhaust, committed?_char_nil]; rfl
  | cons c cs ih =>
      rw [exhaust, committed?_char_cons, List.dropWhile_cons]
      cases set.contains c with
      | true => simpa using ih
      | false => rfl

theorem committed?_seq_char_cons (set : CharSet) (q : Pattern) (c : Char) (cs : List Char) :
    (seq (char set) q).committed? (c :: cs) =
      if set.contains c then q.committed? cs else none := by
  rw [committed?_seq, committed?_char_cons]
  split <;> rfl

theorem committed?_plus_char_cons (set : CharSet) (c : Char) (cs : List Char) :
    (plus (char set)).committed? (c :: cs) =
      if set.contains c then some (cs.dropWhile set.contains) else none := by
  rw [plus, committed?_seq_char_cons, committed?_star_char]

theorem mem_language_star_char_iff {set : CharSet} {s : List Char} :
    s ∈ (star (char set)).language ↔ ∀ c ∈ s, set.contains c = true := by
  refine ⟨mem_language_star_char, fun h => mem_language_of_committed? ?_⟩
  rw [committed?_star_char, List.dropWhile_eq_nil_iff.2 h]

theorem mem_language_plus_char_iff {set : CharSet} {s : List Char} :
    s ∈ (plus (char set)).language ↔ s ≠ [] ∧ ∀ c ∈ s, set.contains c = true := by
  constructor
  · rintro ⟨-, ⟨c, hc, rfl⟩, t, ht, rfl⟩
    exact ⟨List.cons_ne_nil c t, List.forall_mem_cons.2 ⟨hc, mem_language_star_char ht⟩⟩
  · rintro ⟨hne, hall⟩
    obtain ⟨c, t, rfl⟩ := List.exists_cons_of_ne_nil hne
    obtain ⟨hc, ht⟩ := List.forall_mem_cons.1 hall
    exact Language.append_mem_mul (a := [c]) ⟨c, hc, rfl⟩ (mem_language_star_char_iff.2 ht)

/-! Numbers. -/

/-- A number without a sign; it may begin with the decimal point. -/
def unsignedNumber : Pattern := either number (seq (char (.single '.')) (plus (char .digit)))

def signedNumber : Pattern := seq (optional (char .sign)) unsignedNumber

theorem committed?_fraction (cs : List Char) :
    (optional (seq (char (.single '.')) (star (char .digit)))).committed?
      (cs.dropWhile Char.isDigit) = some (Span.cutNumber cs).2 := by
  rw [optional, committed?_either, committed?_empty, Span.cutNumber]
  split
  case h_1 rest hrest =>
    rw [hrest, committed?_seq_char_cons, if_pos (by simp), committed?_star_char,
      CharSet.contains_digit, Option.some_or]
  case h_2 hpoint =>
    cases hcs : cs.dropWhile Char.isDigit with
    | nil => rfl
    | cons d ds =>
        have hd : ¬(CharSet.single '.').contains d = true := by
          rw [CharSet.contains_single, beq_iff_eq]
          rintro rfl
          exact hpoint ds hcs
        rw [committed?_seq_char_cons, if_neg hd, Option.none_or]

theorem committed?_number_cons (c : Char) (cs : List Char) :
    number.committed? (c :: cs) = if c.isDigit then some (Span.cutNumber cs).2 else none := by
  rw [number, committed?_seq, committed?_plus_char_cons, CharSet.contains_digit]
  split
  · exact committed?_fraction cs
  · rfl

theorem isUnsignedNumber_point_cons (cs : List Char) :
    isUnsignedNumber ('.' :: cs) = true ↔ cs ≠ [] ∧ ∀ c ∈ cs, c.isDigit = true := by
  have hpoint : ¬ '.'.isDigit = true := by decide
  rw [isUnsignedNumber, List.takeWhile_cons_of_neg hpoint, List.dropWhile_cons_of_neg hpoint]
  simp [and_comm]

/-- The committed reading of a number takes all of it. -/
theorem committed?_unsignedNumber {cs : List Char} (h : isUnsignedNumber cs = true) :
    unsignedNumber.committed? cs = some [] := by
  cases cs with
  | nil => cases h
  | cons c cs =>
      rw [unsignedNumber, committed?_either, committed?_number_cons]
      by_cases hdigit : c.isDigit = true
      · rw [if_pos hdigit, (isUnsignedNumber_cons_of_isDigit hdigit cs).1 h, Option.some_or]
      · rw [if_neg hdigit, Option.none_or]
        by_cases hpoint : c = '.'
        · subst hpoint
          obtain ⟨hne, hall⟩ := (isUnsignedNumber_point_cons cs).1 h
          obtain ⟨d, ds, rfl⟩ := List.exists_cons_of_ne_nil hne
          obtain ⟨hd, hds⟩ := List.forall_mem_cons.1 hall
          rw [committed?_seq_char_cons, if_pos (by simp), committed?_plus_char_cons,
            CharSet.contains_digit, if_pos hd, List.dropWhile_eq_nil_iff.2 hds]
        · rw [Bool.not_eq_true] at hdigit
          rw [isUnsignedNumber_cons_of_ne hdigit hpoint] at h
          cases h

theorem isUnsignedNumber_of_mem_language {cs : List Char} (h : cs ∈ unsignedNumber.language) :
    isUnsignedNumber cs = true := by
  rcases (Language.mem_add _ _ _).1 h with hnumber | hpoint
  · have hlexeme : cs ∈ LexemeKind.number.language := hnumber
    obtain ⟨s, hreads, hkind⟩ := Span.exists_reads_of_mem_language hlexeme
    generalize hnil : ([] : List Char) = rest at hreads
    cases hreads with
    | number hdigit => exact (isUnsignedNumber_cons_of_isDigit hdigit _).2 hnil.symm
    | _ => cases hkind
  · obtain ⟨-, ⟨c, hc, rfl⟩, digits, hdigits, rfl⟩ := hpoint
    obtain rfl : '.' = c := by simpa using hc
    have hall := mem_language_plus_char_iff.1 hdigits
    rw [CharSet.contains_digit] at hall
    exact (isUnsignedNumber_point_cons digits).2 hall

end Pattern

section

variable {text : String}

theorem isNumeric_of_sign {c : Char} {cs : List Char} (h : text.toList = c :: cs)
    (hsign : CharSet.sign.contains c = true) : isNumeric text = isUnsignedNumber cs := by
  rw [isNumeric, h]
  rcases CharSet.contains_sign.1 hsign with rfl | rfl <;> rfl

theorem not_isUnsignedNumber_of_sign {c : Char} (hsign : CharSet.sign.contains c = true)
    (cs : List Char) : isUnsignedNumber (c :: cs) = false := by
  rcases CharSet.contains_sign.1 hsign with rfl | rfl <;> rfl

theorem isNumeric_of_not_sign {c : Char} {cs : List Char} (h : text.toList = c :: cs)
    (hsign : ¬CharSet.sign.contains c = true) : isNumeric text = isUnsignedNumber (c :: cs) := by
  rw [CharSet.contains_sign, not_or] at hsign
  exact isNumeric_of_toList h hsign.1 hsign.2

theorem isNumeric_of_mem_language (h : text.toList ∈ Pattern.signedNumber.language) :
    isNumeric text = true := by
  obtain ⟨front, hfront, body, hbody, happend⟩ := h
  have hnumber := Pattern.isUnsignedNumber_of_mem_language hbody
  rcases (Language.mem_add _ _ _).1 hfront with ⟨c, hsign, rfl⟩ | hnil
  · rwa [isNumeric_of_sign happend.symm hsign]
  · obtain rfl := (Language.mem_one _).1 hnil
    cases body with
    | nil => cases hnumber
    | cons c cs =>
        rw [isNumeric_of_not_sign happend.symm, hnumber]
        intro hsign
        rw [not_isUnsignedNumber_of_sign hsign] at hnumber
        cases hnumber

/-- Nothing is lost by taking a sign, a run of digits and a decimal point for good. -/
theorem committed?_signedNumber (h : isNumeric text = true) :
    Pattern.signedNumber.committed? text.toList = some [] := by
  cases hcs : text.toList with
  | nil =>
      rw [isNumeric, hcs] at h
      cases h
  | cons c cs =>
      rw [Pattern.signedNumber, Pattern.committed?_seq, Pattern.optional, Pattern.committed?_either,
        Pattern.committed?_char_cons]
      by_cases hsign : CharSet.sign.contains c = true
      · rw [isNumeric_of_sign hcs hsign] at h
        rw [if_pos hsign, Option.some_or, Option.bind_some, Pattern.committed?_unsignedNumber h]
      · rw [isNumeric_of_not_sign hcs hsign] at h
        rw [if_neg hsign, Option.none_or, Pattern.committed?_empty, Option.bind_some,
          Pattern.committed?_unsignedNumber h]

theorem isNumeric_iff_mem_language :
    isNumeric text = true ↔ text.toList ∈ Pattern.signedNumber.language :=
  ⟨fun h => Pattern.mem_language_of_committed? (committed?_signedNumber h),
    isNumeric_of_mem_language⟩

theorem isNumeric_iff_committed? :
    isNumeric text = true ↔ Pattern.signedNumber.committed? text.toList = some [] :=
  ⟨committed?_signedNumber,
    fun h => isNumeric_of_mem_language (Pattern.mem_language_of_committed? h)⟩

end

end SqlLexer
