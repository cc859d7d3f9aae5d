import SchemaForge.Proofs.Literal.Quoted

namespace SchemaForge

/-! # What expressions of string literals stand for

An expression of string literals joined by plus signs stands for their texts one after the other. It
is read from the front: a literal is still to come, is being read, or has been read.
-/

namespace Literal

/-- What has been read of an expression. -/
inductive ReadState where
  /-- A literal is still to come. -/
  | before
  /-- The first quote of a literal. -/
  | inside
  /-- A literal. -/
  | behind
deriving DecidableEq, Repr

/-- Holds for a character between the parts of an expression. In Kotlin an expression goes on in the
next line only behind a plus sign. -/
def IsGap (l : Language) (state : ReadState) (c : Char) : Prop :=
  c = ' ' ∨ c = '\t' ∨ c = '\n' ∧ ¬ (l = .kotlin ∧ state = .behind)

instance (l : Language) (state : ReadState) (c : Char) : Decidable (IsGap l state c) :=
  inferInstanceAs (Decidable (c = ' ' ∨ c = '\t' ∨ c = '\n' ∧ ¬ (l = .kotlin ∧ state = .behind)))

/-- The characters that the rest of an expression stands for. -/
def evaluateRest? (l : Language) : ReadState → List Char → Option (List Char)
  | .before, '"' :: rest => evaluateRest? l .inside rest
  | .before, c :: rest => if IsGap l .before c then evaluateRest? l .before rest else none
  | .inside, '"' :: rest => evaluateRest? l .behind rest
  | .inside, '\\' :: c :: rest =>
    (unescaped? l c).bind fun d => (evaluateRest? l .inside rest).map (d :: ·)
  | .inside, c :: rest => if IsPlain l c then (evaluateRest? l .inside rest).map (c :: ·) else none
  | .behind, '+' :: rest => evaluateRest? l .before rest
  | .behind, c :: rest => if IsGap l .behind c then evaluateRest? l .behind rest else none
  | .behind, [] => some []
  | _, [] => none

/-- The text that an expression of string literals stands for. -/
def evaluate? (l : Language) (expression : String) : Option String :=
  (evaluateRest? l .before expression.toList).map String.ofList

/-! ## Literals -/

theorem readsInside_evaluateRest? (l : Language) : ReadsInside l (evaluateRest? l .inside) := by
  constructor
  · intro c rest
    rw [evaluateRest?]
  · intro c rest hplain
    have hquote : c ≠ '"' := hplain.1
    have hback : c ≠ '\\' := hplain.2.1
    have hcons : evaluateRest? l .inside (c :: rest) =
        if IsPlain l c then (evaluateRest? l .inside rest).map (c :: ·) else none := by
      cases rest <;> simp [evaluateRest?, hback]
    rw [hcons, if_pos hplain]

/-- The literal of a text adds that text to what is behind it. -/
theorem evaluateRest?_quote (l : Language) (s : String) (rest : List Char) :
    evaluateRest? l .before ((quote l s).toList ++ rest) =
      (evaluateRest? l .behind rest).map (s.toList ++ ·) := by
  have hinside := (readsInside_evaluateRest? l).read_escaped s.toList ('"' :: rest)
  rw [toList_quote, List.cons_append, List.append_assoc, List.singleton_append, evaluateRest?,
    hinside, evaluateRest?]

/-- A literal alone stands for its text. -/
theorem evaluate?_quote (l : Language) (s : String) : evaluate? l (quote l s) = some s := by
  have hquote := evaluateRest?_quote l s []
  rw [List.append_nil, evaluateRest?, Option.map_some, List.append_nil] at hquote
  rw [evaluate?, hquote, Option.map_some, String.ofList_toList]

/-! ## Literals of lines -/

/-- What stands in Java between the literals of two lines. -/
def lineSeparator : String :=
  " + \"\\n\" +\n\t\t"

/-- Between two literals a line is ended. -/
theorem evaluateRest?_lineSeparator (rest : List Char) :
    evaluateRest? .java .behind (lineSeparator.toList ++ rest) =
      (evaluateRest? .java .before rest).map ('\n' :: ·) :=
  rfl

theorem evaluateRest?_lines (first : String) (rest : List String) :
    evaluateRest? .java .before
        (lineSeparator.intercalate ((first :: rest).map (quote .java))).toList =
      some ("\n".intercalate (first :: rest)).toList := by
  induction rest generalizing first with
  | nil =>
    have hquote := evaluateRest?_quote .java first []
    rw [List.append_nil, evaluateRest?, Option.map_some, List.append_nil] at hquote
    simpa using hquote
  | cons second rest ih =>
    have hrest := ih second
    rw [List.map_cons] at hrest
    rw [List.map_cons, List.map_cons, String.intercalate_cons_cons, String.append_assoc,
      String.toList_append, evaluateRest?_quote, String.toList_append,
      evaluateRest?_lineSeparator, hrest, String.intercalate_cons_cons]
    simp

/-- The literals of lines, with ends of lines between them, stand for the text of these lines. -/
theorem evaluate?_lines {lines : List String} (h : lines ≠ []) :
    evaluate? .java (lineSeparator.intercalate (lines.map (quote .java))) =
      some ("\n".intercalate lines) := by
  obtain ⟨first, rest, rfl⟩ := List.exists_cons_of_ne_nil h
  rw [evaluate?, evaluateRest?_lines, Option.map_some, String.ofList_toList]

end Literal

end SchemaForge
