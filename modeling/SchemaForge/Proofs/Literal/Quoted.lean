import SchemaForge.Literal.Quoted

namespace SchemaForge

/-! # What string literals stand for

The text that a compiler makes of a string literal. Only literals without templates are given a
text: in Kotlin a dollar that is not escaped could start a template, and is refused here. Both
languages know more escapes than these; the ones here are those that quoting makes use of. What is
quoted is a literal in one line that stands for the quoted text, so that two texts never have the
same literal.
-/

namespace Literal

/-- The character that an escaped character stands for. Only Kotlin has an escape for the dollar. -/
def unescaped? (l : Language) (c : Char) : Option Char :=
  if c = '"' ∨ c = '\\' then some c
  else if c = 'n' then some '\n'
  else if c = '$' ∧ l = .kotlin then some '$'
  else none

/-- Holds for a character that stands for itself in a literal: no quote, no backslash, no end of
line, and in Kotlin no dollar. -/
def IsPlain (l : Language) (c : Char) : Prop :=
  c ≠ '"' ∧ c ≠ '\\' ∧ c ≠ '\n' ∧ ¬ (c = '$' ∧ l = .kotlin)

instance (l : Language) (c : Char) : Decidable (IsPlain l c) :=
  inferInstanceAs (Decidable (c ≠ '"' ∧ c ≠ '\\' ∧ c ≠ '\n' ∧ ¬ (c = '$' ∧ l = .kotlin)))

/-- The characters that the rest of a literal stands for, from behind its first quote. -/
def decodeRest? (l : Language) : List Char → Option (List Char)
  | [] => none
  | ['"'] => some []
  | '\\' :: c :: rest => (unescaped? l c).bind fun d => (decodeRest? l rest).map (d :: ·)
  | c :: rest => if IsPlain l c then (decodeRest? l rest).map (c :: ·) else none

/-- The text that a string literal stands for. -/
def decode? (l : Language) (literal : String) : Option String :=
  match literal.toList with
  | '"' :: rest => (decodeRest? l rest).map String.ofList
  | _ => none

/-- A character is escaped by a backslash before one that stands for it, or is plain and left as it
is. -/
theorem escapeChar_cases (l : Language) (c : Char) :
    (∃ d, escapeChar l c = ['\\', d] ∧ unescaped? l d = some c)
      ∨ (escapeChar l c = [c] ∧ IsPlain l c) := by
  by_cases hquote : c = '"' ∨ c = '\\'
  · exact .inl ⟨c, by simp [escapeChar, hquote], by simp [unescaped?, hquote]⟩
  by_cases hdollar : c = '$' ∧ l = .kotlin
  · rcases hdollar with ⟨rfl, rfl⟩
    exact .inl ⟨'$', by decide, by decide⟩
  by_cases hline : c = '\n'
  · subst hline
    exact .inl ⟨'n', by simp [escapeChar], by simp [unescaped?]⟩
  · rcases not_or.1 hquote with ⟨hopen, hback⟩
    exact .inr ⟨by simp [escapeChar, hopen, hback, hdollar, hline], hopen, hback, hline, hdollar⟩

/-! ## Reading what was escaped -/

/-- Holds for a function that reads what is inside a literal: it turns an escaped character into the
one that it stands for and takes a plain character as it is. -/
structure ReadsInside (l : Language) (read : List Char → Option (List Char)) : Prop where
  escaped : ∀ c rest,
    read ('\\' :: c :: rest) = (unescaped? l c).bind fun d => (read rest).map (d :: ·)
  plain : ∀ c rest, IsPlain l c → read (c :: rest) = (read rest).map (c :: ·)

namespace ReadsInside

variable {l : Language} {read : List Char → Option (List Char)}

/-- A character is read back from the way in which it is escaped. -/
theorem read_escapeChar (h : ReadsInside l read) (c : Char) (rest : List Char) :
    read (escapeChar l c ++ rest) = (read rest).map (c :: ·) := by
  rcases escapeChar_cases l c with ⟨d, hescape, hback⟩ | ⟨hescape, hplain⟩
  · rw [hescape, List.cons_append, List.singleton_append, h.escaped, hback, Option.bind_some]
  · rw [hescape, List.singleton_append, h.plain c rest hplain]

/-- A text is read back from its escaped characters, whatever is behind them. -/
theorem read_escaped (h : ReadsInside l read) (cs rest : List Char) :
    read (cs.flatMap (escapeChar l) ++ rest) = (read rest).map (cs ++ ·) := by
  induction cs with
  | nil => simp
  | cons c cs ih =>
    rw [List.flatMap_cons, List.append_assoc, h.read_escapeChar, ih, Option.map_map]
    rfl

end ReadsInside

theorem toList_quote (l : Language) (s : String) :
    (quote l s).toList = '"' :: (s.toList.flatMap (escapeChar l) ++ ['"']) := by
  simp [quote]

theorem readsInside_decodeRest? (l : Language) : ReadsInside l (decodeRest? l) := by
  constructor
  · intro c rest
    rw [decodeRest?]
  · intro c rest hplain
    have hquote : c ≠ '"' := hplain.1
    have hback : c ≠ '\\' := hplain.2.1
    have hcons : decodeRest? l (c :: rest) =
        if IsPlain l c then (decodeRest? l rest).map (c :: ·) else none := by
      cases rest <;> simp [decodeRest?, hquote, hback]
    rw [hcons, if_pos hplain]

/-- The literal of a text stands for that text. -/
theorem decode?_quote (l : Language) (s : String) : decode? l (quote l s) = some s := by
  have hrest : decodeRest? l (s.toList.flatMap (escapeChar l) ++ ['"']) = some s.toList := by
    rw [(readsInside_decodeRest? l).read_escaped, decodeRest?, Option.map_some, List.append_nil]
  rw [decode?, toList_quote]
  simp only [hrest, Option.map_some, String.ofList_toList]

/-! ## The form of a literal -/

/-- Holds for a piece of a literal: a character that a backslash escapes, or one that needs none. -/
def IsPiece (quote : Char) (piece : List Char) : Prop :=
  (∃ c, piece = ['\\', c]) ∨ ∃ c, piece = [c] ∧ c ≠ quote ∧ c ≠ '\\'

/-- Pieces and a quote behind them close a literal. -/
theorem closes_pieces {quote : Char} {pieces : List (List Char)}
    (h : ∀ piece ∈ pieces, IsPiece quote piece) : closes quote (pieces.flatten ++ [quote]) := by
  induction pieces with
  | nil => simp [closes]
  | cons piece pieces ih =>
    rw [List.forall_mem_cons] at h
    have hrest : closes quote (pieces.flatten ++ [quote]) := ih h.2
    rw [List.flatten_cons, List.append_assoc]
    rcases h.1 with ⟨c, rfl⟩ | ⟨c, rfl, hquote, hback⟩
    · exact hrest
    -- behind a piece there is the next one or the last quote
    · cases hbehind : pieces.flatten ++ [quote] with
      | nil => simp at hbehind
      | cons next rest =>
        rw [hbehind] at hrest
        simp [closes, hquote, hrest]

/-- Pieces between two quotes are a literal. -/
theorem isQuotedChars_pieces {quote : Char} {pieces : List (List Char)}
    (h : ∀ piece ∈ pieces, IsPiece quote piece) :
    isQuotedChars quote (quote :: (pieces.flatten ++ [quote])) := by
  simp [isQuotedChars, closes_pieces h]

theorem isQuoted_quote (l : Language) (s : String) : isQuoted '"' (quote l s) := by
  rw [isQuoted, toList_quote, List.flatMap_def]
  apply isQuotedChars_pieces
  intro piece hpiece
  rcases List.mem_map.1 hpiece with ⟨c, -, rfl⟩
  rcases escapeChar_cases l c with ⟨d, hescape, -⟩ | ⟨hescape, hplain⟩
  · exact .inl ⟨d, hescape⟩
  · exact .inr ⟨c, hescape, hplain.1, hplain.2.1⟩

/-- What is put between apostrophes is a literal between them. -/
theorem isQuoted_character (s : String) : isQuoted '\'' (character s) := by
  unfold character
  split
  · assumption
  · simp only [isQuoted, String.toList_append, String.toList_ofList, List.flatMap_def]
    apply isQuotedChars_pieces
    intro piece hpiece
    rcases List.mem_map.1 hpiece with ⟨c, -, rfl⟩
    by_cases hc : c = '\\' ∨ c = '\''
    · exact .inl ⟨c, by simp [hc]⟩
    · rcases not_or.1 hc with ⟨hback, hquote⟩
      exact .inr ⟨c, by simp [hback, hquote], hquote, hback⟩

/-- No end of a line stands in a literal. -/
theorem notMem_quote (l : Language) (s : String) : '\n' ∉ (quote l s).toList := by
  have hescape : ∀ c, '\n' ∉ escapeChar l c := by
    intro c hmem
    rcases escapeChar_cases l c with ⟨d, hescape, hback⟩ | ⟨hescape, hplain⟩
    · have hd : d = '\n' := by simpa [hescape, eq_comm] using hmem
      subst hd
      simp [unescaped?] at hback
    · have hc : c = '\n' := by simpa [hescape, eq_comm] using hmem
      exact hplain.2.2.1 hc
  rw [toList_quote]
  simp [hescape]

/-- The characters of a text that no backslash escapes. -/
def bare : List Char → List Char
  | [] => []
  | '\\' :: _ :: rest => bare rest
  | c :: rest => c :: bare rest

/-- What is not escaped in escaped characters is plain. -/
theorem isPlain_of_mem_bare {l : Language} {cs rest : List Char} {d : Char}
    (h : d ∈ bare (cs.flatMap (escapeChar l) ++ rest)) : IsPlain l d ∨ d ∈ bare rest := by
  induction cs with
  | nil => exact .inr h
  | cons c cs ih =>
    rw [List.flatMap_cons, List.append_assoc] at h
    rcases escapeChar_cases l c with ⟨escaped, hescape, -⟩ | ⟨hescape, hplain⟩
    · rw [hescape] at h
      exact ih h
    · have hcons : ∀ behind, bare (c :: behind) = c :: bare behind := by
        intro behind
        cases behind <;> simp [bare, hplain.2.1]
      rw [hescape, List.singleton_append, hcons] at h
      rcases List.mem_cons.1 h with rfl | hbehind
      · exact .inl hplain
      · exact ih hbehind

/-- A literal of a language that stands for a text. -/
structure StandsFor (l : Language) (literal s : String) : Prop where
  /-- It is recognised as a literal. -/
  recognised : isQuoted '"' literal = true
  oneLine : '\n' ∉ literal.toList
  /-- No dollar can start a template. -/
  noTemplate : l = .kotlin → '$' ∉ bare literal.toList
  decoded : decode? l literal = some s

/-- The literal that is made of a text is one, stands in one line and stands for that text; hence
different texts have different literals. -/
theorem quote_stands_for (l : Language) :
    (∀ s, StandsFor l (quote l s) s) ∧ Function.Injective (quote l) := by
  constructor
  · intro s
    constructor
    case recognised => exact isQuoted_quote l s
    case oneLine => exact notMem_quote l s
    case noTemplate =>
      rintro rfl hmem
      have hquote : (quote .kotlin s).toList =
          ['"'] ++ (s.toList.flatMap (escapeChar .kotlin) ++ ['"']) := toList_quote .kotlin s
      have hbody : '$' ∈ bare (s.toList.flatMap (escapeChar .kotlin) ++ ['"']) := by
        simpa [hquote, bare] using hmem
      rcases isPlain_of_mem_bare hbody with hplain | hlast
      · exact hplain.2.2.2 ⟨rfl, rfl⟩
      · simp [bare] at hlast
    case decoded => exact decode?_quote l s
  · intro s t hsame
    have hdecoded := decode?_quote l s
    rw [hsame, decode?_quote] at hdecoded
    exact (Option.some_inj.1 hdecoded).symm

end Literal

end SchemaForge
