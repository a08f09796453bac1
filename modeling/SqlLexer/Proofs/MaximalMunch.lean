import SqlLexer.Proofs.Pattern.Lexeme
import SqlLexer.Proofs.Segmentation

/-!
Maximal munch. A query falls apart into the matches of a pattern with ordered alternatives; each of
them is the longest piece that any alternative matches where it begins, and there is no other way to
cut the query into longest pieces. The lexemes are these pieces without the white space, folded from
the first quote on that is a piece by itself.
-/

namespace SqlLexer

namespace Pattern

/-- A text is the longest head of another that one of the patterns matches. -/
structure IsMunch (ps : List Pattern) (s cs : List Char) : Prop where
  head : s <+: cs
  matched : ∃ p ∈ ps, s ∈ p.language
  longest : ∀ p ∈ ps, ∀ t ∈ p.language, t <+: cs → t.length ≤ s.length

/-- A text is cut into pieces, each of them the longest that can be taken where it begins. -/
inductive Munches (ps : List Pattern) : List Char → List (List Char) → Prop
  | nil : Munches ps [] []
  | cons {s rest : List Char} {pieces : List (List Char)} (hne : s ≠ [])
      (hmunch : IsMunch ps s (s ++ rest)) (hrest : Munches ps rest pieces) :
      Munches ps (s ++ rest) (s :: pieces)

theorem IsMunch.unique {ps : List Pattern} {s t cs : List Char} (hs : IsMunch ps s cs)
    (ht : IsMunch ps t cs) : s = t := by
  obtain ⟨p, hp, hsp⟩ := hs.matched
  obtain ⟨q, hq, htq⟩ := ht.matched
  have hlength : s.length = t.length :=
    Nat.le_antisymm (ht.longest p hp s hsp hs.head) (hs.longest q hq t htq ht.head)
  exact (List.prefix_of_prefix_length_le hs.head ht.head hlength.le).eq_of_length hlength

theorem Munches.unique {ps : List Pattern} {cs : List Char} {pieces pieces' : List (List Char)}
    (h : Munches ps cs pieces) (h' : Munches ps cs pieces') : pieces = pieces' := by
  induction h generalizing pieces' with
  | nil =>
      -- the text of the second cut has to be a variable before that cut can be taken apart
      generalize hcs : ([] : List Char) = cs at h'
      cases h' with
      | nil => rfl
      | cons hne hmunch hrest =>
          exact absurd (List.append_eq_nil_iff.1 hcs.symm).1 hne
  | @cons s rest pieces hne hmunch hrest ih =>
      generalize hcs : s ++ rest = cs at h' hmunch
      cases h' with
      | nil => exact absurd (List.append_eq_nil_iff.1 hcs).1 hne
      | @cons s' rest' pieces' hne' hmunch' hrest' =>
          obtain rfl := hmunch.unique hmunch'
          obtain rfl := List.append_cancel_left hcs
          rw [ih hrest']

theorem Munches.flatten_eq {ps : List Pattern} {cs : List Char} {pieces : List (List Char)}
    (h : Munches ps cs pieces) : pieces.flatten = cs := by
  induction h with
  | nil => rfl
  | cons hne hmunch hrest ih => rw [List.flatten_cons, ih]

theorem Munches.isMunch {ps : List Pattern} {cs s : List Char} {before after : List (List Char)}
    (h : Munches ps cs (before ++ s :: after)) : IsMunch ps s (s ++ after.flatten) := by
  induction before generalizing cs with
  | nil =>
      cases h with
      | cons hne hmunch hrest => rwa [hrest.flatten_eq]
  | cons t before ih =>
      cases h with
      | cons hne hmunch hrest => exact ih hrest

theorem isMunch_of_reads {c : Char} {cs rest : List Char} {s : Span}
    (h : Span.Reads (c :: cs) s rest) : IsMunch alternatives s.chars (c :: cs) where
  head := ⟨rest, h.append⟩
  matched := by
    have hmem : rest ∈ piece.rests (c :: cs) := List.mem_of_head? (rest?_piece h)
    obtain ⟨t, ht, happend⟩ := (mem_rests_iff _ _ _).1 hmem
    obtain rfl : s.chars = t := List.append_cancel_right (h.append.trans happend.symm)
    exact mem_language_firstOf.1 ht
  longest := by
    rintro p hp t ht ⟨r, hr⟩
    have hle := length_le_of_mem_rests h hp ((mem_rests_iff _ _ _).2 ⟨t, ht, hr⟩)
    have hlength := congrArg List.length (h.append.trans hr.symm)
    simp only [List.length_append] at hlength
    omega

theorem munches_split (cs : List Char) : Munches alternatives cs ((Span.split cs).map Span.chars) := by
  fun_induction Span.split cs with
  | case1 => exact .nil
  | case2 c cs ih =>
      have hmunch := isMunch_of_reads (Span.reads_next c cs)
      rw [← Span.next_append c cs] at hmunch
      have hmunches := Munches.cons (Span.chars_ne_nil_next c cs) hmunch ih
      rwa [Span.next_append] at hmunches

/-- The pieces that the search finds are the spans of the text. -/
theorem findAll_piece (cs : List Char) : piece.findAll cs = (Span.split cs).map Span.chars := by
  fun_induction Span.split cs with
  | case1 => rw [findAll]; rfl
  | case2 c cs ih =>
      have happend := Span.next_append c cs
      have hlength := congrArg List.length happend
      simp only [List.length_append, List.length_cons] at hlength
      have hchars : (Span.next c cs).1.chars.length = cs.length + 1 - (Span.next c cs).2.length := by
        omega
      rw [findAll, rest?_piece (Span.reads_next c cs), List.map_cons, ← ih]
      dsimp only
      rw [if_pos (Span.length_next_le c cs), ← happend, List.take_left' hchars]

end Pattern

namespace Segmentation

/-- The texts of the pieces that are not white space. -/
def visibleTexts (pieces : List (List Char)) : List String :=
  (pieces.filter (!Text.isBlankText ·)).map String.ofList

theorem visibleTexts_map_chars {cs : List Char} {spans : List Span}
    (h : ∀ s ∈ spans, s ∈ Span.split cs) : visibleTexts (spans.map Span.chars) = visible spans := by
  have hblank : ∀ s ∈ spans, (!Text.isBlankText s.chars) = !s.isBlank := by
    intro s hs
    rw [Span.isBlank_eq_of_mem_split (h s hs)]
  rw [visibleTexts, visible, List.filter_map, List.map_map]
  show (spans.filter fun s => !Text.isBlankText s.chars).map Span.text = _
  rw [List.filter_congr hblank]

theorem allClosed_iff_of_split {cs : List Char} {spans : List Span}
    (h : ∀ s ∈ spans, s ∈ Span.split cs) :
    AllClosed spans ↔ ∀ q : Quote, [q.char] ∉ spans.map Span.chars := by
  apply forall_congr'
  intro q
  apply not_congr
  rw [List.mem_map]
  constructor
  · intro hstray
    exact ⟨.stray q, hstray, rfl⟩
  · rintro ⟨s, hs, hchars⟩
    obtain ⟨text, rest, hreads⟩ := Span.reads_of_mem_split (h s hs)
    rwa [hreads.eq_stray hchars] at hs

end Segmentation

theorem segment_of_no_bare_quote {query : String}
    (hbare : ∀ q : Quote, [q.char] ∉ (Span.split query.toList).map Span.chars) :
    segment query =
      ⟨Segmentation.visibleTexts ((Span.split query.toList).map Span.chars), none⟩ := by
  have hself : ∀ s ∈ Span.split query.toList, s ∈ Span.split query.toList := fun _ hs => hs
  rw [Segmentation.visibleTexts_map_chars hself]
  exact Segmentation.ofSpans_of_allClosed ((Segmentation.allClosed_iff_of_split hself).2 hbare)

theorem segment_of_first_bare_quote {query : String} {before after : List (List Char)} {q : Quote}
    (hsplit : (Span.split query.toList).map Span.chars = before ++ [q.char] :: after)
    (hbare : ∀ r : Quote, [r.char] ∉ before) :
    segment query =
      ⟨Segmentation.visibleTexts before,
        some ⟨q, " ".intercalate (Segmentation.visibleTexts after)⟩⟩ := by
  obtain ⟨first, more, hspans, rfl, hmore⟩ := List.map_eq_append_iff.1 hsplit
  obtain ⟨s, last, rfl, hchars, rfl⟩ := List.map_eq_cons_iff.1 hmore
  have hmem : ∀ t, t ∈ first ++ s :: last → t ∈ Span.split query.toList := by
    intro t ht
    rwa [hspans]
  obtain ⟨text, rest, hreads⟩ := Span.reads_of_mem_split (hmem s (by simp))
  obtain rfl := hreads.eq_stray hchars
  have hfirst : ∀ t ∈ first, t ∈ Span.split query.toList :=
    fun t ht => hmem t (List.mem_append_left _ ht)
  have hlast : ∀ t ∈ last, t ∈ Span.split query.toList :=
    fun t ht => hmem t (List.mem_append_right _ (List.mem_cons_of_mem _ ht))
  rw [segment, hspans, Segmentation.visibleTexts_map_chars hfirst,
    Segmentation.visibleTexts_map_chars hlast]
  exact Segmentation.ofSpans_append_stray
    ((Segmentation.allClosed_iff_of_split hfirst).2 hbare) q last

/-- The matches of the pattern for a piece, as they are found in a query one after another. -/
def pieces (query : String) : List (List Char) := Pattern.piece.findAll query.toList

/-- Segmentation is maximal munch, without white space and with all folded that follows the first bare
quote. -/
theorem segment_maximal_munch (query : String) :
    ((pieces query).flatten = query.toList ∧ ∀ s ∈ pieces query, s ≠ []) ∧
    (∀ before s after, pieces query = before ++ s :: after →
      Pattern.IsMunch Pattern.alternatives s (s ++ after.flatten)) ∧
    (∀ cut, Pattern.Munches Pattern.alternatives query.toList cut ↔ cut = pieces query) ∧
    ((∀ q : Quote, [q.char] ∉ pieces query) →
      segment query = ⟨Segmentation.visibleTexts (pieces query), none⟩) ∧
    (∀ before q after, pieces query = before ++ [Quote.char q] :: after →
      (∀ r : Quote, [r.char] ∉ before) →
        segment query =
            ⟨Segmentation.visibleTexts before,
              some ⟨q, " ".intercalate (Segmentation.visibleTexts after)⟩⟩ ∧
          (segment query).lexemes = Segmentation.visibleTexts before ++
            [String.singleton q.char ++ " ".intercalate (Segmentation.visibleTexts after)]) := by
  have hpieces : pieces query = (Span.split query.toList).map Span.chars := Pattern.findAll_piece _
  have hmunches : Pattern.Munches Pattern.alternatives query.toList (pieces query) := by
    rw [hpieces]
    exact Pattern.munches_split query.toList
  refine ⟨⟨hmunches.flatten_eq, ?_⟩, ?_, ?_, ?_, ?_⟩
  · intro s hs
    rw [hpieces] at hs
    obtain ⟨span, hspan, rfl⟩ := List.mem_map.1 hs
    exact Span.chars_ne_nil_of_mem_split hspan
  · intro before s after hsplit
    rw [hsplit] at hmunches
    exact hmunches.isMunch
  · intro cut
    refine ⟨fun hcut => hcut.unique hmunches, ?_⟩
    rintro rfl
    exact hmunches
  · intro hbare
    rw [hpieces] at hbare ⊢
    exact segment_of_no_bare_quote hbare
  · intro before q after hsplit hbare
    have hsegment := segment_of_first_bare_quote (hpieces ▸ hsplit) hbare
    refine ⟨hsegment, ?_⟩
    rw [hsegment]
    rfl

example : (segment "a = 'x\\'").lexemes = ["a", "=", "'x \\ '"] := by decide +kernel

end SqlLexer
