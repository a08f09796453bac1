import SqlLexer.Lexeme.Span

/-!
Segmentation: the lexemes of a query. They are its spans without the white space, up to the first
quote that nothing closes. From there on the query is folded: that quote and all that follows it,
pressed together to single spaces, are one last lexeme. The main statements give the segmentation
span by span.
-/

namespace SqlLexer

/-- The end of a query behind a quote that nothing closes. -/
structure Fold where
  /-- The quote. -/
  quote : Quote
  /-- The spans behind it, without white space, joined by single spaces. -/
  rest : String
  deriving DecidableEq, Repr

/-- The lexeme that a fold is: the quote and the rest right behind it. -/
def Fold.text (f : Fold) : String := String.singleton f.quote.char ++ f.rest

@[simp] theorem Fold.toList_text (f : Fold) : f.text.toList = f.quote.char :: f.rest.toList := by
  simp [Fold.text]

/-- The lexemes of a query: those read whole, and the one that an unclosed quote makes of the end. -/
structure Segmentation where
  whole : List String
  fold : Option Fold
  deriving DecidableEq, Repr

namespace Segmentation

/-- All lexemes in order. -/
def lexemes (s : Segmentation) : List String := s.whole ++ (s.fold.map Fold.text).toList

/-- Whether the last lexeme is a fold. -/
def isFolded (s : Segmentation) : Bool := s.fold.isSome

/-- A further whole lexeme in front. -/
def cons (lexeme : String) (s : Segmentation) : Segmentation := { s with whole := lexeme :: s.whole }

@[simp] theorem whole_cons (lexeme : String) (s : Segmentation) :
    (s.cons lexeme).whole = lexeme :: s.whole := rfl

@[simp] theorem fold_cons (lexeme : String) (s : Segmentation) : (s.cons lexeme).fold = s.fold := rfl

@[simp] theorem lexemes_cons (lexeme : String) (s : Segmentation) :
    (s.cons lexeme).lexemes = lexeme :: s.lexemes := rfl

@[simp] theorem isFolded_cons (lexeme : String) (s : Segmentation) :
    (s.cons lexeme).isFolded = s.isFolded := rfl

/-- The texts of the spans that are not white space. -/
def visible (spans : List Span) : List String := (spans.filter (!·.isBlank)).map Span.text

/-- The segmentation of a query that falls into the given spans. -/
def ofSpans : List Span → Segmentation
  | [] => ⟨[], none⟩
  | .blank _ :: spans => ofSpans spans
  | .stray q :: spans => ⟨[], some ⟨q, " ".intercalate (visible spans)⟩⟩
  | span :: spans => (ofSpans spans).cons span.text

@[simp] theorem ofSpans_nil : ofSpans [] = ⟨[], none⟩ := rfl

@[simp] theorem ofSpans_blank_cons (cs : List Char) (spans : List Span) :
    ofSpans (.blank cs :: spans) = ofSpans spans := rfl

@[simp] theorem ofSpans_stray_cons (q : Quote) (spans : List Span) :
    ofSpans (.stray q :: spans) = ⟨[], some ⟨q, " ".intercalate (visible spans)⟩⟩ := rfl

@[simp] theorem ofSpans_string_cons (q : Quote) (body : List Char) (spans : List Span) :
    ofSpans (.string q body :: spans) = (ofSpans spans).cons (Span.string q body).text := rfl

@[simp] theorem ofSpans_word_cons (cs : List Char) (spans : List Span) :
    ofSpans (.word cs :: spans) = (ofSpans spans).cons (Span.word cs).text := rfl

@[simp] theorem ofSpans_number_cons (cs : List Char) (spans : List Span) :
    ofSpans (.number cs :: spans) = (ofSpans spans).cons (Span.number cs).text := rfl

@[simp] theorem ofSpans_mark_cons (c : Char) (spans : List Span) :
    ofSpans (.mark c :: spans) = (ofSpans spans).cons (Span.mark c).text := rfl

end Segmentation

/-- The lexemes of a query. -/
def segment (query : String) : Segmentation := .ofSpans (Span.split query.toList)

end SqlLexer
