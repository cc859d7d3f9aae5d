import SchemaForge.Proofs.Android.Resolution
import SchemaForge.Proofs.Literal.Default
import SchemaForge.Proofs.Schema.Writing
import SchemaForge.Sql.Ddl

namespace SchemaForge

/-! # Defaults of truth values

The default of a truth value is written three times: as an expression of either language, and in the
definition of the column. The expressions are the words for the values, and any other text stands in
the sources as it is, as the name of a constant would. A column cannot hold a name, so that it starts
with zero there. The definition asks for the declared type, and not for that of the property as the
expressions do: a `TINYINT` is a number to it, whose default it leaves alone.
-/

/-- The truth value that a default spells: a word for it in any case or a digit, or nothing, which is
false. -/
def Text.truthValue? (s : String) : Option Bool :=
  if s = "1" ∨ sameName s "true" then some true
  else if s = "0" ∨ s = "" ∨ sameName s "false" then some false
  else none

/-- Holds for a field whose property is a truth value: it is of a type for these and holds no literal
of an enumeration. -/
def Field.HoldsTruth (f : Field) : Prop :=
  f.type ∈ [ColumnType.boolean, .bit, .tinyint] ∧ f.isEnumeration = false

instance (f : Field) : Decidable f.HoldsTruth :=
  inferInstanceAs
    (Decidable (f.type ∈ [ColumnType.boolean, .bit, .tinyint] ∧ f.isEnumeration = false))

/-! ## Expressions -/

theorem Text.truthValue?_eq_true_iff {text : String} :
    truthValue? text = some true ↔ text = "1" ∨ sameName text "true" := by
  unfold truthValue?
  split
  · next htrue => exact iff_of_true rfl htrue
  · next htrue => split <;> simp [htrue]

/-- An expression for a truth value is the word for what the text spells, or else the text. -/
theorem Literal.truth_eq (text : String) :
    Literal.truth text = ((Text.truthValue? text).map Text.truthWord).getD text := by
  unfold Literal.truth Text.truthValue?
  split
  · rfl
  · split <;> rfl

/-- Only a text that spells it gives the word for true. -/
theorem Literal.truth_eq_true_iff {text : String} :
    Literal.truth text = "true" ↔ Text.truthValue? text = some true := by
  constructor
  · intro hword
    rw [Text.truthValue?_eq_true_iff]
    unfold Literal.truth at hword
    split at hword
    · next htrue => exact htrue
    · split at hword
      · exact absurd hword (by decide)
      · -- the text is the word itself
        subst hword
        exact .inr (by decide)
  · intro htrue
    rw [truth_eq, htrue]
    rfl

namespace Field.HoldsTruth

variable {f : Field}

theorem column_eq (h : f.HoldsTruth) (s : Scope) : s.column f = .ok ⟨f, .plain⟩ := by
  have hdate : f.type.isDate = false := by
    obtain ⟨htype, -⟩ := h
    revert htype
    cases f.type <;> decide
  rw [Scope.column, Scope.contentOf, h.2, hdate]
  rfl

/-- Both languages have a type for truth values, and one rule for their defaults. -/
theorem typeName_mem (h : f.HoldsTruth) :
    (Column.mk f .plain).typeName .kotlin ∈ ["Boolean", "Boolean?"]
      ∧ (Column.mk f .plain).typeName .java ∈ ["boolean", "Boolean"] := by
  obtain ⟨htype, -⟩ := h
  have hkotlin : f.type.kotlinType = "Boolean" := by
    revert htype
    cases f.type <;> decide
  have hjava : ∀ nullable, f.type.javaType nullable = if nullable then "Boolean" else "boolean" := by
    revert htype
    cases f.type <;> first | exact fun _ _ => rfl | exact fun htype => absurd htype (by decide)
  constructor
  · simp only [Column.typeName, Column.kotlinType, hkotlin]
    split <;> decide
  · simp only [Column.typeName, hjava]
    split <;> decide

theorem initial_eq (h : f.HoldsTruth) (l : Language) :
    (Column.mk f .plain).initial l = Literal.truth (Literal.declared f.defaultText) := by
  have hrule : Literal.rule? l ((Column.mk f .plain).typeName l) = some .boolean := by
    obtain ⟨hkotlin, hjava⟩ := h.typeName_mem
    have hrules : (∀ type ∈ ["Boolean", "Boolean?"], Literal.rule? .kotlin type = some .boolean)
        ∧ ∀ type ∈ ["boolean", "Boolean"], Literal.rule? .java type = some .boolean := by decide
    cases l with
    | kotlin => exact hrules.1 _ hkotlin
    | java => exact hrules.2 _ hjava
  change Literal.ofDefault l _ f.defaultText = _
  rw [Literal.ofDefault, hrule]
  rfl

/-! ## Definitions of columns -/

/-- A column starts with one where its text spells true, but for the word in a number. -/
theorem defaultLiteral_eq_one_iff (h : f.HoldsTruth)
    (hword : f.type = .tinyint → Text.sameName (Text.trim f.defaultText) "true" = false) :
    Sql.defaultLiteral f = "1"
      ↔ Text.truthValue? (Literal.declared f.defaultText) = some true := by
  rw [Text.truthValue?_eq_true_iff, Literal.declared]
  set text := Text.trim f.defaultText with htext
  cases hnull : Text.sameName text "null" with
  | true =>
    -- the column starts with nothing, and the expression is the one for no text
    have hleft : Sql.defaultLiteral f = text := by
      simp [Sql.defaultLiteral, ← htext, hnull]
    have hone : text ≠ "1" := by
      intro hone
      rw [hone] at hnull
      exact absurd hnull (by decide)
    rw [hleft, if_pos rfl]
    exact iff_of_false hone (by decide)
  | false =>
    rw [if_neg Bool.false_ne_true]
    by_cases hnumber : f.type = .tinyint
    · -- the text of a number is left as it is
      have hleft : Sql.defaultLiteral f = text := by
        simp [Sql.defaultLiteral, ← htext, hnumber, ColumnType.isBoolean, ColumnType.isDate,
          ColumnType.isText]
      rw [hleft, hword hnumber]
      simp
    · have htruth : f.type.isBoolean := by
        obtain ⟨htype, -⟩ := h
        revert htype hnumber
        cases f.type <;> decide
      simp only [Sql.defaultLiteral, ← htext, hnull, htruth, Bool.false_eq_true, if_false, if_true]
      by_cases hone : text = "1"
      · simp [hone]
      · cases Text.sameName text "true" <;> simp [hone]

end Field.HoldsTruth

/-! ## Agreement -/

/-- Every truth value has the same expression for its default in both languages: the word for the
value that the text spells, and the text itself where it spells none. It is the word for true exactly
when the column starts with one, where it is not said what a number starts with whose text is the
word. -/
theorem Scope.truth_defaults_agree (s : Scope) {f : Field} (htruth : f.HoldsTruth) :
    ∃ c, s.column f = .ok c
      ∧ c.typeName .kotlin ∈ ["Boolean", "Boolean?"] ∧ c.typeName .java ∈ ["boolean", "Boolean"]
      ∧ c.initial .kotlin = c.initial .java
      ∧ (∀ l, c.initial l =
        ((Text.truthValue? (Literal.declared f.defaultText)).map Text.truthWord).getD
          (Literal.declared f.defaultText))
      ∧ ((f.type = .tinyint → Text.sameName (Text.trim f.defaultText) "true" = false) →
        ∀ l, c.initial l = "true" ↔ Sql.defaultLiteral f = "1") := by
  obtain ⟨hkotlin, hjava⟩ := htruth.typeName_mem
  refine ⟨⟨f, .plain⟩, htruth.column_eq s, hkotlin, hjava, ?_, fun l => ?_, fun hword l => ?_⟩
  · rw [htruth.initial_eq, htruth.initial_eq]
  · rw [htruth.initial_eq, Literal.truth_eq]
  · rw [htruth.initial_eq, Literal.truth_eq_true_iff, htruth.defaultLiteral_eq_one_iff hword]

/-- A flag that is set, spelt by a word with blanks around it. -/
def doneField : Field :=
  { name := "DONE", type := .bit, notNull := true, defaultText := " True " }

/-- A flag whose default is no truth value. -/
def activeField : Field :=
  { name := "ACTIVE", type := .boolean, notNull := true, defaultText := "yes" }

/-- A table of flags. -/
def taskTable : Entity :=
  { kind := .table, name := "TASK", fields := [doneField, activeField] }

/-- The word sets the flag in both languages, and in the table. -/
theorem Scope.truth_defaults_agree_doneField :
    let s : Scope := ⟨{ package := "org", created := "today" },
      { name := "main", tables := [taskTable] }, taskTable⟩
    doneField.HoldsTruth
    ∧ ∃ c, s.column doneField = .ok c ∧ (∀ l, c.initial l = "true")
      ∧ Sql.defaultLiteral doneField = "1" := by
  intro s
  have htruth : doneField.HoldsTruth := by decide
  have hset : Text.truthValue? (Literal.declared doneField.defaultText) = some true := by decide
  obtain ⟨c, hcolumn, -, -, -, hinitial, hone⟩ := s.truth_defaults_agree htruth
  have hword : ∀ l, c.initial l = "true" := by
    intro l
    rw [hinitial l, hset]
    rfl
  exact ⟨htruth, c, hcolumn, hword, (hone (fun h => absurd h (by decide)) .kotlin).1 (hword .kotlin)⟩

/-- The word `yes` is taken for a name in both languages, and for zero in the table. -/
theorem Scope.truth_default_named_activeField :
    let s : Scope := ⟨{ package := "org", created := "today" },
      { name := "main", tables := [taskTable] }, taskTable⟩
    activeField.hasDefault
    ∧ ∃ c, s.column activeField = .ok c ∧ c.typeName .kotlin = "Boolean"
      ∧ c.typeName .java = "boolean" ∧ (∀ l, c.initial l = "yes")
      ∧ Sql.defaultLiteral activeField = "0" := by
  refine ⟨by decide, ⟨activeField, .plain⟩, rfl, by decide, by decide, fun l => ?_, by decide⟩
  cases l <;> decide

end SchemaForge
