import SqlLexer.Proofs.Span.Reading

/-!
Spans of a text that is continued. A span that ends before the text does stays what it is; the last
one stays so too, unless it is a word, a number or white space and the continuation begins with a
character of the same kind.
-/

namespace SqlLexer

theorem takeWhile_append_of_stop {p : Char → Bool} {cs ds : List Char}
    (h : cs.dropWhile p = [] → ∀ d ∈ ds.head?, p d = false) :
    (cs ++ ds).takeWhile p = cs.takeWhile p := by
  induction cs with
  | nil =>
      cases ds with
      | nil => rfl
      | cons d ds => rw [List.nil_append, List.takeWhile_cons_of_neg (by simp [h rfl d rfl])]; rfl
  | cons c cs ih =>
      rw [List.cons_append, List.takeWhile_cons, List.takeWhile_cons]
      split
      case isTrue hc => rw [ih fun hnil => h (by rw [List.dropWhile_cons_of_pos hc, hnil])]
      case isFalse => rfl

theorem dropWhile_append_of_stop {p : Char → Bool} {cs ds : List Char}
    (h : cs.dropWhile p = [] → ∀ d ∈ ds.head?, p d = false) :
    (cs ++ ds).dropWhile p = cs.dropWhile p ++ ds := by
  have hwhole : (cs ++ ds).takeWhile p ++ (cs ++ ds).dropWhile p =
      cs.takeWhile p ++ (cs.dropWhile p ++ ds) := by
    rw [List.takeWhile_append_dropWhile, ← List.append_assoc, List.takeWhile_append_dropWhile]
  rw [takeWhile_append_of_stop h] at hwhole
  exact List.append_cancel_left hwhole

namespace Quote

/-- A closed string stays closed whatever follows. -/
theorem close?_append {q : Quote} {cs body rest : List Char} (h : q.close? cs = some (body, rest))
    (ds : List Char) : q.close? (cs ++ ds) = some (body, rest ++ ds) := by
  fun_induction close? q cs generalizing body rest with
  | case1 => cases h
  | case2 cs =>
      obtain ⟨rfl, rfl⟩ : [] = body ∧ cs = rest := by simpa using h
      exact q.close?_char_cons (cs ++ ds)
  | case3 => cases h
  | case4 => cases h
  | case5 d cs hd hq ih =>
      simp only [Option.map_eq_some_iff, Prod.mk.injEq] at h
      obtain ⟨⟨body, rest⟩, hclose, rfl, rfl⟩ := h
      rw [List.cons_append, List.cons_append, q.close?_escape_cons d (cs ++ ds) hd, ih hclose]
      rfl
  | case6 c cs hq hb ih =>
      simp only [Option.map_eq_some_iff, Prod.mk.injEq] at h
      obtain ⟨⟨body, rest⟩, hclose, rfl, rfl⟩ := h
      rw [List.cons_append, q.close?_cons_of_ne (cs ++ ds) hq hb, ih hclose]
      rfl

end Quote

namespace Span

/-- Whether a span of its kind may go on with a character. Strings and single characters are complete
as they are. -/
def runsOn : Span → Char → Bool
  | word _, c => isWordChar c
  | number _, c => c.isDigit || c == '.'
  | blank _, c => Text.isBlank c
  | string _ _, _ | stray _, _ | mark _, _ => false

@[simp] theorem runsOn_quote (s : Span) (q : Quote) : s.runsOn q.char = false := by
  cases s <;> cases q <;> rfl

theorem cutNumber_of_point {cs fraction : List Char}
    (h : cs.dropWhile Char.isDigit = '.' :: fraction) :
    cutNumber cs = (cs.takeWhile Char.isDigit ++ '.' :: fraction.takeWhile Char.isDigit,
      fraction.dropWhile Char.isDigit) := by
  simp [cutNumber, h]

theorem cutNumber_of_no_point {cs : List Char}
    (h : ∀ fraction, cs.dropWhile Char.isDigit ≠ '.' :: fraction) :
    cutNumber cs = (cs.takeWhile Char.isDigit, cs.dropWhile Char.isDigit) := by
  rw [cutNumber]
  split
  case h_1 fraction hpoint => exact absurd hpoint (h fraction)
  case h_2 => rfl

theorem cutNumber_append_of_stop {cs ds : List Char}
    (h : (cutNumber cs).2 = [] → ∀ d ∈ ds.head?, (d.isDigit || d == '.') = false) :
    cutNumber (cs ++ ds) = ((cutNumber cs).1, (cutNumber cs).2 ++ ds) := by
  by_cases hpoint : ∃ fraction, cs.dropWhile Char.isDigit = '.' :: fraction
  · obtain ⟨fraction, hfraction⟩ := hpoint
    have hcut := cutNumber_of_point hfraction
    have hstop : cs.dropWhile Char.isDigit = [] → ∀ d ∈ ds.head?, d.isDigit = false := by
      intro hnil
      rw [hfraction] at hnil
      cases hnil
    have hstop' : fraction.dropWhile Char.isDigit = [] → ∀ d ∈ ds.head?, d.isDigit = false := by
      intro hnil d hd
      rw [hcut] at h
      exact (Bool.or_eq_false_iff.1 (h hnil d hd)).1
    have hfraction' : (cs ++ ds).dropWhile Char.isDigit = '.' :: (fraction ++ ds) := by
      rw [dropWhile_append_of_stop hstop, hfraction, List.cons_append]
    rw [cutNumber_of_point hfraction', hcut, takeWhile_append_of_stop hstop,
      takeWhile_append_of_stop hstop', dropWhile_append_of_stop hstop']
  · -- digits up to the end of the text: the continuation must not bring the point either
    have hnone : ∀ fraction, cs.dropWhile Char.isDigit ≠ '.' :: fraction := not_exists.1 hpoint
    have hcut := cutNumber_of_no_point hnone
    rw [hcut] at h
    have hstop : cs.dropWhile Char.isDigit = [] → ∀ d ∈ ds.head?, d.isDigit = false :=
      fun hnil d hd => (Bool.or_eq_false_iff.1 (h hnil d hd)).1
    have hnone' : ∀ fraction, (cs ++ ds).dropWhile Char.isDigit ≠ '.' :: fraction := by
      intro fraction hfraction
      rw [dropWhile_append_of_stop hstop] at hfraction
      cases hrest : cs.dropWhile Char.isDigit with
      | nil =>
          rw [hrest, List.nil_append] at hfraction
          have hdot := h hrest '.' (by rw [hfraction]; rfl)
          exact absurd hdot (by decide)
      | cons d rest =>
          rw [hrest, List.cons_append] at hfraction
          exact hnone rest (by rw [hrest, (List.cons.inj hfraction).1])
    rw [cutNumber_of_no_point hnone', hcut, takeWhile_append_of_stop hstop,
      dropWhile_append_of_stop hstop]

/-- A text that is continued still has the same first span, if that does not reach the continuation or
does not go on with it. -/
theorem Reads.append_right {cs rest ds : List Char} {s : Span} (h : Reads cs s rest)
    (hstray : ∀ q, s ≠ Span.stray q)
    (hstop : rest = [] → ∀ d ∈ ds.head?, s.runsOn d = false) :
    Reads (cs ++ ds) s (rest ++ ds) := by
  cases h with
  | string hclose => exact .string (Quote.close?_append hclose ds)
  | stray hopen => exact absurd rfl (hstray _)
  | @word c cs hstart =>
      have hreads : Reads (c :: (cs ++ ds)) _ _ := .word hstart
      rwa [takeWhile_append_of_stop hstop, dropWhile_append_of_stop hstop] at hreads
  | @number c cs hdigit =>
      have hreads : Reads (c :: (cs ++ ds)) _ _ := .number hdigit
      rwa [cutNumber_append_of_stop hstop] at hreads
  | @blank c cs hblank =>
      have hreads : Reads (c :: (cs ++ ds)) _ _ := .blank hblank
      rwa [takeWhile_append_of_stop hstop, dropWhile_append_of_stop hstop] at hreads
  | mark hmark => exact .mark hmark

theorem isDigit_or_point_of_mem_cutNumber {cs : List Char} {c : Char} (h : c ∈ (cutNumber cs).1) :
    (c.isDigit || c == '.') = true := by
  have hdigits {ds : List Char} (hc : c ∈ ds.takeWhile Char.isDigit) : c.isDigit = true :=
    List.all_eq_true.1 List.all_takeWhile c hc
  rw [cutNumber] at h
  split at h
  case h_1 fraction hpoint =>
    rcases List.mem_append.1 h with hc | hc
    · simp [hdigits hc]
    · rcases List.mem_cons.1 hc with rfl | hc
      · rfl
      · simp [hdigits hc]
  case h_2 => simp [hdigits h]

/-- A span that may go on with some character holds only such characters. -/
theorem Reads.runsOn_of_mem {cs rest : List Char} {s : Span} (h : Reads cs s rest) {c d : Char}
    (hd : s.runsOn d = true) (hc : c ∈ s.chars) : s.runsOn c = true := by
  cases h with
  | string hclose => cases hd
  | stray hopen => cases hd
  | mark hmark => cases hd
  | word hstart =>
      rcases List.mem_cons.1 hc with rfl | hc
      · exact isWordChar_of_isWordStart hstart
      · exact List.all_eq_true.1 List.all_takeWhile c hc
  | blank hblank =>
      rcases List.mem_cons.1 hc with rfl | hc
      · exact hblank
      · exact List.all_eq_true.1 List.all_takeWhile c hc
  | number hdigit =>
      rcases List.mem_cons.1 hc with rfl | hc
      · exact Bool.or_eq_true_iff.2 (Or.inl hdigit)
      · exact isDigit_or_point_of_mem_cutNumber hc

theorem split_of_reads {cs rest : List Char} {s : Span} (h : Reads cs s rest) :
    split cs = s :: split rest := by
  cases cs with
  | nil => cases h
  | cons c cs => rw [split_cons, next_eq_of_reads h]

theorem split_ne_nil {cs : List Char} (h : cs ≠ []) : split cs ≠ [] := by
  cases cs with
  | nil => exact absurd rfl h
  | cons c cs => rw [split_cons]; exact List.cons_ne_nil _ _

/-- All spans but the last are the same in a text and in its continuations. -/
theorem exists_split_append {cs : List Char} (h : ∀ q, stray q ∉ split cs) (ds : List Char) :
    ∃ more, split (cs ++ ds) = (split cs).dropLast ++ more := by
  fun_induction split cs with
  | case1 => exact ⟨split ds, rfl⟩
  | case2 c cs ih =>
      simp only [List.mem_cons, not_or, forall_and] at h
      obtain ⟨hstray, hrest⟩ := h
      by_cases hnil : (next c cs).2 = []
      · rw [hnil, split_nil]
        exact ⟨split (c :: cs ++ ds), rfl⟩
      · -- a span with something behind it does not reach the continuation
        have hreads : Reads (c :: cs ++ ds) _ _ := (reads_next c cs).append_right
          (fun q hq => hstray q hq.symm) (fun hempty => absurd hempty hnil)
        obtain ⟨more, hmore⟩ := ih hrest
        refine ⟨more, ?_⟩
        rw [split_of_reads hreads, hmore, List.dropLast_cons_of_ne_nil (split_ne_nil hnil),
          List.cons_append]

end Span

end SqlLexer
