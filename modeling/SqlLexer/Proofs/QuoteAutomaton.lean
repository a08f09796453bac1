import Mathlib.Logic.ExistsUnique
import SqlLexer.Proofs.Segmentation

/-!
Folding decided in a single pass. A reading that knows no more than whether it stands outside strings,
in one, or in one behind a backslash, ends outside exactly for the queries that are not folded; the
others are folded from the quote on behind which the reading never came outside again.
-/

namespace SqlLexer

/-- Where a reading of a query stands. -/
inductive Mode
  | outside
  | inside (quote : Quote)
  | escaped (quote : Quote)
  deriving DecidableEq, Repr

namespace Mode

/-- The mode behind one more character. A reading fails at a line feed behind a backslash. -/
def step : Mode → Char → Option Mode
  | outside, c => some ((Quote.ofChar? c).elim outside inside)
  | inside q, c => some (if c = q.char then outside else if c = '\\' then escaped q else inside q)
  | escaped q, c => if c = '\n' then none else some (inside q)

def run (m : Mode) (cs : List Char) : Option Mode := cs.foldlM step m

@[simp] theorem run_nil (m : Mode) : m.run [] = some m := rfl

theorem run_cons (m : Mode) (c : Char) (cs : List Char) :
    m.run (c :: cs) = (m.step c).bind fun next => next.run cs := rfl

theorem run_append (m : Mode) (cs ds : List Char) :
    m.run (cs ++ ds) = (m.run cs).bind fun next => next.run ds :=
  List.foldlM_append

@[simp] theorem run_outside_quote (q : Quote) (cs : List Char) :
    outside.run (q.char :: cs) = (inside q).run cs := by
  simp [run_cons, step]

@[simp] theorem run_inside_quote (q : Quote) (cs : List Char) :
    (inside q).run (q.char :: cs) = outside.run cs := by
  simp [run_cons, step]

theorem run_inside_escape (q : Quote) {d : Char} (hd : d ≠ '\n') (cs : List Char) :
    (inside q).run ('\\' :: d :: cs) = (inside q).run cs := by
  simp [run_cons, step, q.char_ne_backslash.symm, hd]

theorem run_inside_cons (q : Quote) {c : Char} (hq : c ≠ q.char) (hb : c ≠ '\\')
    (cs : List Char) : (inside q).run (c :: cs) = (inside q).run cs := by
  simp [run_cons, step, hq, hb]

theorem run_outside_of_no_quote {cs : List Char} (h : ∀ c ∈ cs, Quote.ofChar? c = none) :
    outside.run cs = some outside := by
  induction cs with
  | nil => rfl
  | cons c cs ih =>
      obtain ⟨hc, hcs⟩ := List.forall_mem_cons.1 h
      rw [run_cons, step, hc]
      exact ih hcs

/-- The quote that closes a string takes the reading outside. -/
theorem run_of_close? {q : Quote} {cs body rest : List Char}
    (h : q.close? cs = some (body, rest)) : (inside q).run (body ++ [q.char]) = some outside := by
  fun_induction Quote.close? q cs generalizing body rest with
  | case1 => cases h
  | case2 cs =>
      obtain ⟨rfl, -⟩ : [] = body ∧ cs = rest := by simpa using h
      exact run_inside_quote q []
  | case3 => cases h
  | case4 => cases h
  | case5 d cs hd hq ih =>
      simp only [Option.map_eq_some_iff, Prod.mk.injEq] at h
      obtain ⟨⟨body, rest⟩, hclose, rfl, rfl⟩ := h
      exact (run_inside_escape q hd _).trans (ih hclose)
  | case6 c cs hq hb ih =>
      simp only [Option.map_eq_some_iff, Prod.mk.injEq] at h
      obtain ⟨⟨body, rest⟩, hclose, rfl, rfl⟩ := h
      exact (run_inside_cons q hq hb _).trans (ih hclose)

/-- A string that is not closed keeps the reading inside, or makes it fail. -/
theorem run_ne_outside_of_close? {q : Quote} {cs : List Char} (h : q.close? cs = none)
    {behind : List Char} (hbehind : behind <+: cs) : (inside q).run behind ≠ some outside := by
  fun_induction Quote.close? q cs generalizing behind with
  | case1 =>
      rw [List.prefix_nil.1 hbehind]
      simp
  | case2 cs => cases h
  | case3 hq =>
      cases behind with
      | nil => simp
      | cons b behind =>
          obtain ⟨rfl, hnil⟩ := List.cons_prefix_cons.1 hbehind
          rw [List.prefix_nil.1 hnil]
          simp [run_cons, step, hq]
  | case4 cs hq =>
      cases behind with
      | nil => simp
      | cons b behind =>
          obtain ⟨rfl, htail⟩ := List.cons_prefix_cons.1 hbehind
          cases behind with
          | nil => simp [run_cons, step, hq]
          | cons b behind =>
              obtain ⟨rfl, -⟩ := List.cons_prefix_cons.1 htail
              simp [run_cons, step, hq]
  | case5 d cs hd hq ih =>
      cases behind with
      | nil => simp
      | cons b behind =>
          obtain ⟨rfl, htail⟩ := List.cons_prefix_cons.1 hbehind
          cases behind with
          | nil => simp [run_cons, step, hq]
          | cons b behind =>
              obtain ⟨rfl, hrest⟩ := List.cons_prefix_cons.1 htail
              rw [run_inside_escape q hd]
              exact ih (Option.map_eq_none_iff.1 h) hrest
  | case6 c cs hq hb ih =>
      cases behind with
      | nil => simp
      | cons b behind =>
          obtain ⟨rfl, hrest⟩ := List.cons_prefix_cons.1 hbehind
          rw [run_inside_cons q hq hb]
          exact ih (Option.map_eq_none_iff.1 h) hrest

theorem run_chars_of_reads {cs rest : List Char} {s : Span} (h : Span.Reads cs s rest)
    (hstray : ∀ q, s ≠ .stray q) : outside.run s.chars = some outside := by
  -- a word, a number and white space hold no quote, because they could not go on with one
  have hplain {d : Char} (hd : s.runsOn d = true) : outside.run s.chars = some outside := by
    apply run_outside_of_no_quote
    intro c hc
    rw [Quote.ofChar?_eq_none_iff]
    rintro q rfl
    have hrunsOn := h.runsOn_of_mem hd hc
    rw [s.runsOn_quote q] at hrunsOn
    cases hrunsOn
  cases h with
  | string hclose => rw [Span.chars, List.cons_append, run_outside_quote, run_of_close? hclose]
  | stray hopen => exact absurd rfl (hstray _)
  | word hstart => exact hplain (isWordChar_of_isWordStart hstart)
  | number hdigit => exact hplain (Bool.or_eq_true_iff.2 (Or.inl hdigit))
  | blank hblank => exact hplain hblank
  | @mark c _ hmark =>
      apply run_outside_of_no_quote
      simp_all [Span.chars, isMark]

theorem run_of_reads {cs rest : List Char} {s : Span} (h : Span.Reads cs s rest)
    (hstray : ∀ q, s ≠ .stray q) (behind : List Char) :
    outside.run (s.chars ++ behind) = outside.run behind := by
  rw [run_append, run_chars_of_reads h hstray]
  rfl

/-- The reading ends outside if and only if no quote is left open. -/
theorem run_eq_outside_iff (cs : List Char) :
    outside.run cs = some outside ↔ Segmentation.AllClosed (Span.split cs) := by
  fun_induction Span.split cs with
  | case1 => exact iff_of_true rfl Segmentation.allClosed_nil
  | case2 c cs ih =>
      have hreads := Span.reads_next c cs
      rw [Segmentation.allClosed_cons_iff]
      by_cases hstray : ∀ q, (Span.next c cs).1 ≠ .stray q
      · rw [← Span.next_append c cs, run_of_reads hreads hstray, ih]
        exact (and_iff_right hstray).symm
      · -- what is behind a stray quote does not matter, since the reading never comes out again
        refine iff_of_false ?_ fun h => hstray h.1
        obtain ⟨q, hq⟩ : ∃ q, (Span.next c cs).1 = .stray q := by simpa using hstray
        rw [hq] at hreads
        generalize hcs : c :: cs = text at hreads
        cases hreads with
        | stray hopen =>
            rw [run_outside_quote]
            exact run_ne_outside_of_close? hopen List.prefix_rfl

/-- A quote begins a string that the text behind it never closes: the reading is outside strings
before the quote, and never again behind it. -/
structure LeavesOpen (cs before : List Char) (q : Quote) (after : List Char) : Prop where
  text : before ++ q.char :: after = cs
  outside_before : outside.run before = some outside
  never_outside : ∀ behind, behind <+: after → (inside q).run behind ≠ some outside

/-- The reading cannot be outside before a later quote, since it stays inside from the earlier one
on. -/
theorem LeavesOpen.length_le {cs before before' after after' : List Char} {q q' : Quote}
    (h : LeavesOpen cs before q after) (h' : LeavesOpen cs before' q' after') :
    before'.length ≤ before.length := by
  apply Nat.le_of_not_lt
  intro hlt
  -- the later quote would stand behind the earlier one, where the reading is never outside
  have hopening : before ++ [q.char] <+: cs :=
    ⟨after, by rw [List.append_assoc, List.singleton_append, h.text]⟩
  have hopening' : before' <+: cs := ⟨q'.char :: after', h'.text⟩
  have hprefix : before ++ [q.char] <+: before' := by
    apply List.prefix_of_prefix_length_le hopening hopening'
    rw [List.length_append, List.length_singleton]
    exact hlt
  obtain ⟨behind, rfl⟩ := hprefix
  have htext : before ++ q.char :: (behind ++ q'.char :: after') = before ++ q.char :: after := by
    rw [h.text, ← h'.text, List.append_assoc, List.append_assoc, List.singleton_append]
  have hbehind : behind <+: after :=
    ⟨q'.char :: after', (List.cons.inj (List.append_cancel_left htext)).2⟩
  have houtside := h'.outside_before
  rw [List.append_assoc, List.singleton_append, run_append, h.outside_before, Option.bind_some,
    run_outside_quote] at houtside
  exact h.never_outside behind hbehind houtside

theorem LeavesOpen.unique {cs before before' after after' : List Char} {q q' : Quote}
    (h : LeavesOpen cs before q after) (h' : LeavesOpen cs before' q' after') :
    before = before' ∧ q = q' ∧ after = after' := by
  have hlength := Nat.le_antisymm (h'.length_le h) (h.length_le h')
  obtain ⟨rfl, htail⟩ := List.append_inj (h.text.trans h'.text.symm) hlength
  obtain ⟨hquote, rfl⟩ := List.cons.inj htail
  exact ⟨rfl, Quote.char_injective hquote, rfl⟩

theorem exists_leavesOpen {cs : List Char} (h : outside.run cs ≠ some outside) :
    ∃ before q after, LeavesOpen cs before q after := by
  fun_induction Span.split cs with
  | case1 => exact absurd rfl h
  | case2 c cs ih =>
      have hreads := Span.reads_next c cs
      by_cases hstray : ∀ q, (Span.next c cs).1 ≠ .stray q
      · rw [← Span.next_append c cs, run_of_reads hreads hstray] at h
        obtain ⟨before, q, after, hopen⟩ := ih h
        refine ⟨(Span.next c cs).1.chars ++ before, q, after, ?_, ?_, hopen.never_outside⟩
        · rw [List.append_assoc, hopen.text, Span.next_append]
        · rw [run_of_reads hreads hstray, hopen.outside_before]
      · obtain ⟨q, hq⟩ : ∃ q, (Span.next c cs).1 = .stray q := by simpa using hstray
        rw [hq] at hreads
        generalize c :: cs = text at hreads
        cases hreads with
        | stray hopen =>
            exact ⟨[], q, _, rfl, rfl, fun behind => run_ne_outside_of_close? hopen⟩

theorem LeavesOpen.close?_eq_none {cs before after : List Char} {q : Quote}
    (h : LeavesOpen cs before q after) : q.close? after = none := by
  rw [Option.eq_none_iff_forall_ne_some]
  rintro ⟨body, rest⟩ hclose
  refine h.never_outside (body ++ [q.char]) ⟨rest, ?_⟩ (run_of_close? hclose)
  rw [List.append_assoc, List.singleton_append, Quote.append_of_close? hclose]

end Mode

theorem isFolded_segment_iff (query : String) :
    (segment query).isFolded = true ↔ Mode.outside.run query.toList ≠ some .outside := by
  rw [ne_eq, Mode.run_eq_outside_iff, ← Segmentation.isFolded_ofSpans_eq_false_iff, segment,
    Bool.not_eq_false]

/-- Before the quote that a query leaves open its lexemes are those of the text that ends there. -/
theorem segment_of_leavesOpen {query : String} {before after : List Char} {q : Quote}
    (h : Mode.LeavesOpen query.toList before q after) :
    segment query =
      ⟨(segment (String.ofList before)).lexemes,
        some ⟨q, " ".intercalate (Segmentation.visible (Span.split after))⟩⟩ := by
  have hclosed := (Mode.run_eq_outside_iff before).1 h.outside_before
  have hmeet : Segmentation.Meet before (q.char :: after) := by
    intro s hs d hd
    obtain rfl : q.char = d := Option.some_inj.1 hd
    exact Or.inr (s.runsOn_quote q)
  have hbefore : (segment (String.ofList before)).lexemes =
      Segmentation.visible (Span.split before) := by
    rw [segment, String.toList_ofList, Segmentation.ofSpans_of_allClosed hclosed,
      Segmentation.lexemes_of_not_isFolded rfl]
  rw [segment, ← h.text, Segmentation.ofSpans_split_append hclosed hmeet,
    Span.split_of_reads (.stray h.close?_eq_none), Segmentation.ofSpans_stray_cons,
    Segmentation.prepend_mk, List.append_nil, hbefore]

/-- A query is folded if and only if the reading fails or does not end outside strings. It is then
folded from the one quote on that the reading leaves open: the lexemes are those of the text before
that quote, and one more that begins with it. -/
theorem isFolded_iff_run (query : String) :
    ((segment query).isFolded = true ↔ Mode.outside.run query.toList ≠ some .outside) ∧
    ((segment query).isFolded = true → ∃! p : List Char × Quote × List Char,
      Mode.LeavesOpen query.toList p.1 p.2.1 p.2.2) ∧
    (∀ before q after, Mode.LeavesOpen query.toList before q after →
      (segment (String.ofList before)).isFolded = false ∧
      ∃ rest, segment query = ⟨(segment (String.ofList before)).lexemes, some ⟨q, rest⟩⟩ ∧
        (segment query).lexemes =
          (segment (String.ofList before)).lexemes ++ [String.singleton q.char ++ rest]) := by
  refine ⟨isFolded_segment_iff query, ?_, ?_⟩
  · intro hfolded
    obtain ⟨before, q, after, hopen⟩ :=
      Mode.exists_leavesOpen ((isFolded_segment_iff query).1 hfolded)
    refine ⟨(before, q, after), hopen, ?_⟩
    rintro ⟨before', q', after'⟩ hopen'
    obtain ⟨rfl, rfl, rfl⟩ := hopen.unique hopen'
    rfl
  · intro before q after hopen
    have hsegment := segment_of_leavesOpen hopen
    refine ⟨?_, _, hsegment, ?_⟩
    · rw [← Bool.not_eq_true, isFolded_segment_iff, String.toList_ofList]
      exact not_not_intro hopen.outside_before
    · rw [hsegment]
      rfl

end SqlLexer
