import SqlLexer.Text.Blank

/-!
Lines of a byte stream. A line ends with its line feed, which belongs to it; the last one may have
none. The main statements: cutting loses no byte, no line is empty, and a line feed stands only at
the end of a line.
-/

namespace SqlLexer.Text

/-- The byte that ends a line. -/
def lineFeed : UInt8 := 10

/-- Cuts a stream behind each line feed. -/
def lines : List UInt8 → List (List UInt8)
  | [] => []
  | b :: bytes =>
    if b = lineFeed then
      [b] :: lines bytes
    else
      match lines bytes with
      | [] => [[b]]
      | line :: rest => (b :: line) :: rest

@[simp] theorem lines_nil : lines [] = [] := rfl

@[simp] theorem lines_lineFeed_cons (bytes : List UInt8) :
    lines (lineFeed :: bytes) = [lineFeed] :: lines bytes := by simp [lines]

@[simp] theorem flatten_lines (bytes : List UInt8) : (lines bytes).flatten = bytes := by
  induction bytes with
  | nil => rfl
  | cons b bytes ih =>
      rw [lines]
      split
      · simp [ih]
      · cases h : lines bytes with
        | nil => simpa [h] using ih
        | cons line rest => simpa [h] using ih

theorem ne_nil_of_mem_lines {bytes line : List UInt8} (h : line ∈ lines bytes) : line ≠ [] := by
  induction bytes generalizing line with
  | nil => simp at h
  | cons b bytes ih =>
      rw [lines] at h
      split at h
      · rcases List.mem_cons.1 h with rfl | h
        · simp
        · exact ih h
      · cases hl : lines bytes with
        | nil => simp [hl] at h; simp [h]
        | cons first rest =>
            rw [hl] at h
            rcases List.mem_cons.1 h with rfl | h
            · simp
            · exact ih (by simp [hl, h])

/-- A line feed stands only at the end of a line. -/
theorem lineFeed_notMem_dropLast {bytes line : List UInt8} (h : line ∈ lines bytes) :
    lineFeed ∉ line.dropLast := by
  induction bytes generalizing line with
  | nil => simp at h
  | cons b bytes ih =>
      rw [lines] at h
      split at h
      · rcases List.mem_cons.1 h with rfl | h
        · simp
        · exact ih h
      case isFalse hb =>
        cases hl : lines bytes with
        | nil => simp [hl] at h; simp [h]
        | cons first rest =>
            rw [hl] at h
            rcases List.mem_cons.1 h with rfl | h
            · have hfirst : first ≠ [] := ne_nil_of_mem_lines (by rw [hl]; simp : first ∈ lines bytes)
              rw [List.dropLast_cons_of_ne_nil hfirst, List.mem_cons, not_or]
              exact ⟨fun heq => hb heq.symm, ih (by simp [hl])⟩
            · exact ih (by simp [hl, h])

/-- The text of a line, if its bytes are UTF-8. -/
def decode? (line : List UInt8) : Option String := String.fromUTF8? ⟨line.toArray⟩

/-- The text of a line without the white space at its end, if its bytes are UTF-8. -/
def command? (line : List UInt8) : Option String :=
  (decode? line).map fun text => String.ofList (trimEnd text.toList)

end SqlLexer.Text
