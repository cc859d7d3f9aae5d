import SchemaForge.Proofs.Literal.Quoted

namespace SchemaForge

/-! # The form of quoted literals

A literal is a quote, pieces and the same quote again, where a piece is a character other than the
quote and the backslash, or a backslash and any character. It is recognised from the front by
keeping one thing in mind, whether the next character is escaped.
-/

namespace Literal

variable {quote : Char}

/-- Holds for the inside of a literal, which is any number of pieces. -/
def IsInside (quote : Char) (cs : List Char) : Prop :=
  ∃ pieces : List (List Char), (∀ piece ∈ pieces, IsPiece quote piece) ∧ cs = pieces.flatten

/-- Holds for a literal between these quotes. -/
def IsLiteral (quote : Char) (cs : List Char) : Prop :=
  ∃ inside, IsInside quote inside ∧ cs = quote :: (inside ++ [quote])

/-! ## Pieces -/

theorem IsInside.nil : IsInside quote [] :=
  ⟨[], by simp, rfl⟩

theorem IsInside.append {piece cs : List Char} (hpiece : IsPiece quote piece)
    (h : IsInside quote cs) : IsInside quote (piece ++ cs) := by
  rcases h with ⟨pieces, hpieces, rfl⟩
  refine ⟨piece :: pieces, ?_, List.flatten_cons.symm⟩
  rw [List.forall_mem_cons]
  exact ⟨hpiece, hpieces⟩

/-- What closes a literal is the rest of its inside and the last quote. -/
theorem exists_inside_of_closes {cs : List Char} (h : closes quote cs) :
    ∃ inside, IsInside quote inside ∧ cs = inside ++ [quote] := by
  fun_induction closes quote cs with
  | case1 => cases h
  | case2 c =>
    rw [decide_eq_true_eq] at h
    exact ⟨[], .nil, by rw [h]; rfl⟩
  | case3 c rest ih =>
    rcases ih h with ⟨inside, hinside, rfl⟩
    exact ⟨['\\', c] ++ inside, hinside.append (.inl ⟨c, rfl⟩), rfl⟩
  | case4 c next rest hback ih =>
    rw [Bool.and_eq_true, decide_eq_true_eq] at h
    rcases ih h.2 with ⟨inside, hinside, hrest⟩
    exact ⟨[c] ++ inside, hinside.append (.inr ⟨c, rfl, h.1, hback⟩), by rw [hrest]; rfl⟩

theorem isQuotedChars_iff {cs : List Char} : isQuotedChars quote cs ↔ IsLiteral quote cs := by
  constructor
  · intro h
    cases cs with
    | nil => cases h
    | cons c rest =>
      rw [isQuotedChars, Bool.and_eq_true, decide_eq_true_eq] at h
      rcases exists_inside_of_closes h.2 with ⟨inside, hinside, rfl⟩
      exact ⟨inside, hinside, by rw [h.1]⟩
  · rintro ⟨inside, ⟨pieces, hpieces, rfl⟩, rfl⟩
    exact isQuotedChars_pieces hpieces

instance (quote : Char) (cs : List Char) : Decidable (IsLiteral quote cs) :=
  decidable_of_iff _ isQuotedChars_iff

/-- A quote that is escaped does not close a literal, and one quote does not both open and close
it. -/
example : IsLiteral '"' ['"', '\\', '"', '"'] ∧ ¬ IsLiteral '"' ['"', '\\', '"']
    ∧ ¬ IsLiteral '"' ['"'] := by
  decide

/-! ## One character after the other -/

/-- Reads a character inside a literal. What is kept in mind is whether a backslash escapes the
character; a quote that is not escaped cannot stand there. -/
def readInside? (quote : Char) (escaped : Bool) (c : Char) : Option Bool :=
  if escaped then some false
  else if c = '\\' then some true
  else if c = quote then none
  else some false

/-- The backslash that waits for the character that it escapes. -/
def waiting (escaped : Bool) : List Char :=
  if escaped then ['\\'] else []

/-- A character that can stand inside a literal waits for the next one or ends a piece. -/
theorem waits_or_piece {c : Char} {escaped next : Bool}
    (h : readInside? quote escaped c = some next) :
    waiting escaped ++ [c] = waiting next
      ∨ IsPiece quote (waiting escaped ++ [c]) ∧ next = false := by
  cases escaped with
  | true =>
    cases h
    exact .inr ⟨.inl ⟨c, rfl⟩, rfl⟩
  | false =>
    by_cases hback : c = '\\'
    · subst hback
      cases h
      exact .inl rfl
    by_cases hquote : c = quote
    · simp [readInside?, hquote ▸ hback, hquote] at h
    · simp only [readInside?, hback, hquote, if_false, Bool.false_eq_true, Option.some_inj] at h
      exact .inr ⟨.inr ⟨c, rfl, hquote, hback⟩, h.symm⟩

/-- No character behind a piece is escaped by it. -/
theorem read_piece {piece : List Char} (h : IsPiece quote piece) :
    piece.foldlM (readInside? quote) false = some false := by
  rcases h with ⟨c, rfl⟩ | ⟨c, rfl, hquote, hback⟩
  · rfl
  · simp [readInside?, hquote, hback]

theorem IsInside.read {cs : List Char} (h : IsInside quote cs) :
    cs.foldlM (readInside? quote) false = some false := by
  rcases h with ⟨pieces, hpieces, rfl⟩
  induction pieces with
  | nil => rfl
  | cons piece pieces ih =>
    rw [List.forall_mem_cons] at hpieces
    rw [List.flatten_cons, List.foldlM_append, read_piece hpieces.1]
    exact ih hpieces.2

/-- What is read to its end, with no backslash waiting there, is the inside of a literal. -/
theorem isInside_of_read {cs : List Char} {escaped : Bool}
    (h : cs.foldlM (readInside? quote) escaped = some false) :
    IsInside quote (waiting escaped ++ cs) := by
  -- what is before the rest is no more than a backslash, as a piece is complete otherwise
  induction cs generalizing escaped with
  | nil =>
    cases h
    exact .nil
  | cons c cs ih =>
    rw [List.foldlM_cons] at h
    rcases Option.bind_eq_some_iff.1 h with ⟨next, hnext, hrest⟩
    have hinside : IsInside quote (waiting next ++ cs) := ih hrest
    rw [← List.singleton_append, ← List.append_assoc]
    rcases waits_or_piece hnext with hwaits | ⟨hpiece, rfl⟩
    · rwa [hwaits]
    · exact hinside.append hpiece

theorem isLiteral_iff_read {cs : List Char} :
    IsLiteral quote cs ↔ ∃ inside, cs = quote :: (inside ++ [quote])
      ∧ inside.foldlM (readInside? quote) false = some false := by
  constructor
  · rintro ⟨inside, hinside, hcs⟩
    exact ⟨inside, hcs, hinside.read⟩
  · rintro ⟨inside, hcs, hread⟩
    exact ⟨inside, isInside_of_read hread, hcs⟩

/-- A text is recognised as a literal exactly when it is a quote, pieces and the same quote again,
whichever character the quote is, and that can be told from the front by keeping in mind whether a
character is escaped. A character literal is one, and is left as it is when one is made of it. -/
theorem isQuoted_iff_literal :
    (∀ (quote : Char) (s : String), isQuoted quote s ↔ IsLiteral quote s.toList)
    ∧ (∀ (quote : Char) (s : String), isQuoted quote s ↔
      ∃ inside, s.toList = quote :: (inside ++ [quote])
        ∧ inside.foldlM (readInside? quote) false = some false)
    ∧ ∀ s : String, isQuoted '\'' (character s) ∧ character (character s) = character s := by
  refine ⟨?_, ?_, ?_⟩
  · intro quote s
    exact isQuotedChars_iff
  · intro quote s
    exact isQuotedChars_iff.trans isLiteral_iff_read
  · intro s
    exact ⟨isQuoted_character s, if_pos (isQuoted_character s)⟩

end Literal

end SchemaForge
