import SchemaForge.Proofs.Android.Conversions
import SchemaForge.Proofs.Literal.Default

namespace SchemaForge

/-! # Properties that are never null

A Kotlin property without a question mark behind its type must not become null. What reads its column
out of content values has to force a value, no conversion may have an alternative that gives null,
and the value that the property starts with must not be null.

Keys have no question mark, whether they are declared as not null or not. The conversions of dates
ask for the declaration alone, however, so that those of a key may give null. A property without a
type of its own starts with the declared default and with null where there is none, even if it is
that of a key.
-/

/-! ## Types and defaults -/

/-- What a field declares as its default is nothing when it has no default. -/
theorem Field.declared_eq_empty_iff {f : Field} :
    Literal.declared f.defaultText = "" ↔ f.hasDefault = false := by
  unfold Literal.declared hasDefault
  split
  · next hnull => simp [hnull]
  · next hnull => simp [hnull, Text.trim_eq_empty_iff]

/-- The Kotlin types of plain properties have literals that are no dates, apart from that of the
columns without a type of their own. -/
theorem ColumnType.rule?_kotlinType {type : ColumnType} (hdate : type.isDate = false) :
    (∀ rule, Literal.rule? .kotlin type.kotlinType = some rule → rule = .date) ↔
      type.kotlinType = "Any" := by
  have hrule : ∀ rule?, (∀ rule, rule? = some rule → rule = Literal.Rule.date) ↔
      rule? = none ∨ rule? = some .date := by
    intro rule?
    cases rule? <;> simp
  rw [hrule]
  revert hdate
  cases type <;> decide

/-- Columns of dates and those without a type of their own hold no ordinals. -/
theorem Field.isEnumeration_eq_false {f : Field}
    (h : f.type.isDate = true ∨ f.type.kotlinType = "Any") : f.isEnumeration = false := by
  have hnumber : f.type.isNumber = false := by
    revert h
    cases f.type <;> decide
  rw [isEnumeration, hnumber, Bool.and_false]

/-! ## Ends of expressions -/

/-- The text ends with the alternative that gives null. -/
def EndsInNull (text : String) : Prop :=
  ∃ start, text = start ++ " else null"

/-- A text that ends with a character other than that of the alternative does not end with it. -/
theorem not_endsInNull {text : String} (h : text.toList.getLast?.any (· ≠ 'l')) :
    ¬ EndsInNull text := by
  rintro ⟨start, rfl⟩
  have hlast : (start ++ " else null").toList.getLast? = some 'l' := Text.getLast?_append start rfl
  rw [hlast] at h
  exact absurd h (by decide)

theorem not_endsInNull_append {ending : String} (start : String)
    (h : ending.toList.getLast?.any (· ≠ 'l')) : ¬ EndsInNull (start ++ ending) := by
  apply not_endsInNull
  cases hlast : ending.toList.getLast? with
  | none =>
    rw [hlast] at h
    cases h
  | some last => rwa [Text.getLast?_append start hlast, ← hlast]

/-- The call that gets the value of a column out of content values. -/
def getCall (getter constant : String) : String :=
  "values." ++ getter ++ "(" ++ constant ++ ")"

/-- The text forces a value: that of a column in content values, or what a function makes of it. -/
def ForcesRead (constant text : String) : Prop :=
  ∃ before getter between after, between ∈ ["", ")"] ∧ after ∈ ["", ")", "]", "[0]"]
    ∧ text = before ++ getCall getter constant ++ between ++ "!!" ++ after

namespace ForcesRead

variable {constant text : String}

theorem not_endsInNull (h : ForcesRead constant text) : ¬ EndsInNull text := by
  obtain ⟨before, getter, between, after, -, hafter, rfl⟩ := h
  rw [String.append_assoc]
  simp only [List.mem_cons, List.not_mem_nil, or_false] at hafter
  rcases hafter with rfl | rfl | rfl | rfl
  · exact not_endsInNull_append _ (by decide)
  · exact not_endsInNull_append _ (by decide)
  · exact not_endsInNull_append _ (by decide)
  · exact not_endsInNull_append _ (by decide)

/-- A call of a call does not force its value. -/
theorem not_of_call (start : String) : ¬ ForcesRead constant (start ++ "))") := by
  rintro ⟨before, getter, between, after, -, hafter, h⟩
  have hends := congrArg (fun s : String => s.toList.reverse.take 2) h
  simp only [List.mem_cons, List.not_mem_nil, or_false] at hafter
  rcases hafter with rfl | rfl | rfl | rfl <;> simp at hends

end ForcesRead

/-! ## Dates -/

namespace DateLibrary

variable {d : DateLibrary} {f : Field} {constant : String}

theorem ofLong_kotlin (d : DateLibrary) (long : String) :
    d.ofLong .kotlin long =
      if d = .standard then "java.util.Date(" ++ long ++ "!!)"
      else d.formatter ++ ".longTo" ++ d.word .timestamp ++ "(" ++ long ++ ")!!" := by
  cases d <;> rfl

/-- A date that is made of a number is forced. -/
theorem forcesRead_ofLong (d : DateLibrary) (constant : String) :
    ForcesRead constant (d.ofLong .kotlin (getCall "getAsLong" constant)) := by
  rw [ofLong_kotlin]
  split
  · refine ⟨"java.util.Date(", "getAsLong", "", ")", by decide, by decide, ?_⟩
    have hend : "!!)" = "!!" ++ ")" := rfl
    rw [hend, String.append_empty, ← String.append_assoc]
  · refine ⟨d.formatter ++ ".longTo" ++ d.word .timestamp ++ "(", "getAsLong", ")", "",
      by decide, by decide, ?_⟩
    have hend : ")!!" = ")" ++ "!!" := rfl
    rw [hend, String.append_empty, ← String.append_assoc]

theorem not_endsInNull_ofLong (d : DateLibrary) (long : String) :
    ¬ EndsInNull (d.ofLong .kotlin long) := by
  rw [ofLong_kotlin]
  split
  · exact not_endsInNull_append _ (by decide)
  · exact not_endsInNull_append _ (by decide)

/-- A date that is declared as not null is forced and has no alternative. -/
theorem read?_of_notNull (h : f.notNull = true) (long test text : String) :
    d.read? .kotlin f long test text =
      if f.type = .timestamp then some ⟨d.ofLong .kotlin long, none⟩
      else (d.ofText f.type text).map fun value => ⟨value ++ "!!", none⟩ := by
  simp [read?, h]

/-- Of the dates that are not declared as not null, those that are made of a number have an
alternative, and the others are not forced. -/
theorem read?_of_not_notNull (h : f.notNull = false) (long test text : String) :
    d.read? .kotlin f long test text =
      if f.type = .timestamp then some ⟨d.ofLong .kotlin long, some test⟩
      else (d.ofText f.type text).map fun value => ⟨value, none⟩ := by
  simp [read?, h]

theorem forcesRead_fromValues? {reading : Reading} (hnotNull : f.notNull = true)
    (h : d.fromValues? .kotlin f constant = some reading) :
    ForcesRead constant (reading.render .kotlin) := by
  rw [fromValues?, read?_of_notNull hnotNull] at h
  split at h
  · cases h
    exact forcesRead_ofLong d constant
  · obtain ⟨value, hvalue, rfl⟩ := Option.map_eq_some_iff.1 h
    unfold ofText at hvalue
    split at hvalue
    · cases hvalue
      exact ⟨d.formatter ++ ".dbStringTo" ++ d.word f.type ++ "(", "getAsString", ")", "",
        by decide, by decide, String.append_empty.symm⟩
    · cases hvalue

theorem not_endsInNull_fromCursor? {reading : Reading} (hnotNull : f.notNull = true)
    (h : d.fromCursor? .kotlin f constant = some reading) :
    ¬ EndsInNull (reading.render .kotlin) := by
  rw [fromCursor?, read?_of_notNull hnotNull] at h
  split at h
  · cases h
    exact not_endsInNull_ofLong d _
  · obtain ⟨value, hvalue, rfl⟩ := Option.map_eq_some_iff.1 h
    exact not_endsInNull_append value (by decide)

/-- A date that the library has a type for may be null unless it is declared as not null. -/
theorem fromValues?_of_not_notNull (hnotNull : f.notNull = false)
    (hsupports : d.supports f.type = true) (constant : String) :
    ∃ reading, d.fromValues? .kotlin f constant = some reading
      ∧ (EndsInNull (reading.render .kotlin)
        ∨ ∃ start, reading.render .kotlin = start ++ "))") := by
  rw [fromValues?, read?_of_not_notNull hnotNull]
  split
  · exact ⟨_, rfl, .inl ⟨_, rfl⟩⟩
  · refine ⟨_, by rw [ofText, if_pos hsupports]; rfl,
      .inr ⟨d.formatter ++ ".dbStringTo" ++ d.word f.type ++ "(" ++ ("values.getAsString("
        ++ constant), ?_⟩⟩
    have hend : "))" = ")" ++ ")" := rfl
    simp only [Reading.render, hend, String.append_assoc]

end DateLibrary

/-! ## Columns -/

theorem not_endsInNull_unhandled (type : ColumnType) : ¬ EndsInNull (unhandled type) :=
  not_endsInNull (by rw [getLast?_unhandled]; decide)

namespace Column

variable {c : Column} {constant : String}

/-- The code for a Kotlin property that is never null. What is read has no alternative that gives
null, what content values give is forced unless no rule covers the type, binding makes no difference
for null, and the first value is not null. -/
structure NeverNull (constant : String) (c : Column) : Prop where
  fromValues : ¬ EndsInNull (c.fromValues .kotlin constant)
  forced : c.fromValues .kotlin constant = unhandled c.field.type
    ∨ ForcesRead constant (c.fromValues .kotlin constant)
  fromCursor : ¬ EndsInNull (c.fromCursor .kotlin constant)
  binding : ∀ index name method parameter value,
    c.binding .kotlin index ≠ .nullable name method parameter value
  initial : c.initial .kotlin ≠ "null"

/-- A column without a question mark behind its type is not nullable. -/
theorem isNullable_eq_false (h : Text.endsWithChar '?' (c.typeName .kotlin) = false) :
    c.isNullable = false := by
  cases hnull : c.isNullable with
  | false => rfl
  | true =>
    have htype : c.typeName .kotlin = c.kotlinType ++ "?" := by
      unfold typeName
      rw [hnull, if_pos rfl]
    have hlast : (c.kotlinType ++ "?").toList.getLast? = some '?' := Text.getLast?_append _ rfl
    rw [htype, Text.endsWithChar, hlast] at h
    exact absurd h (by decide)

theorem not_endsInNull_of_forced {type : ColumnType} {text : String}
    (h : text = unhandled type ∨ ForcesRead constant text) : ¬ EndsInNull text := by
  rcases h with rfl | hforced
  · exact not_endsInNull_unhandled type
  · exact hforced.not_endsInNull

theorem binding_ne_nullable (h : c.isNullable = false) (index : Nat) (name method : String)
    (parameter : Nat) (value : String) :
    c.binding .kotlin index ≠ .nullable name method parameter value := by
  unfold binding
  split <;> simp [h]

/-! ### Reading -/

/-- A literal is forced: its ordinal is. -/
theorem forcesRead_of_enumeration {ref : EnumRef} {literal? : Option String}
    (h : c.content = .enumeration ref literal?) (constant : String) :
    ForcesRead constant (c.fromValues .kotlin constant) := by
  have htext : c.fromValues .kotlin constant = ref.className ++ ".values()["
      ++ (getCall "getAsInteger" constant ++ "!!") ++ "]" := by
    simp only [Column.fromValues, fromValues?, h, readText]
    rfl
  rw [htext]
  refine ⟨ref.className ++ ".values()[", "getAsInteger", "", "]", by decide, by decide, ?_⟩
  simp only [String.append_empty, String.append_assoc]

/-- A plain value that is not nullable is forced, or it is not read at all. -/
theorem forced_of_plain (h : c.content = .plain) (hnull : c.isNullable = false)
    (constant : String) : c.fromValues .kotlin constant = unhandled c.field.type
      ∨ ForcesRead constant (c.fromValues .kotlin constant) := by
  have hplain : ∀ value, c.plainFromValues .kotlin value =
      ⟨value ++ "!!" ++ if c.field.type = .char then "[0]" else "", none⟩ := by
    intro value
    by_cases hchar : c.field.type = .char
    · simp [plainFromValues, hchar, hnull, firstCharacter]
    · simp [plainFromValues, hchar, hnull]
  unfold Column.fromValues fromValues?
  rw [h]
  cases hgetter : c.field.type.valuesGetter? with
  | none => exact .inl rfl
  | some getter =>
    right
    simp only [Option.map_some, hplain, readText, Reading.render]
    refine ⟨"", getter, "", if c.field.type = .char then "[0]" else "", by decide, ?_, ?_⟩
    · split <;> decide
    · rw [String.append_empty, String.empty_append]
      rfl

theorem not_endsInNull_fromCursor_of_enumeration {ref : EnumRef} {literal? : Option String}
    (h : c.content = .enumeration ref literal?) (constant : String) :
    ¬ EndsInNull (c.fromCursor .kotlin constant) := by
  simp only [Column.fromCursor, fromCursor?, h, readText]
  exact not_endsInNull_append _ (by decide)

theorem not_endsInNull_plainFromCursor (start : String) :
    ¬ EndsInNull (c.plainFromCursor .kotlin (start ++ ")")) := by
  unfold plainFromCursor
  split
  · exact not_endsInNull_append _ (by decide)
  · exact not_endsInNull_append _ (by decide)
  · exact not_endsInNull_append _ (by decide)
  · exact not_endsInNull_append _ (by decide)
  · exact not_endsInNull_append _ (by decide)

theorem not_endsInNull_fromCursor_of_plain (h : c.content = .plain) (hnull : c.isNullable = false)
    (constant : String) : ¬ EndsInNull (c.fromCursor .kotlin constant) := by
  unfold Column.fromCursor fromCursor?
  simp only [h, hnull]
  cases c.field.type.cursorGetter? with
  | none => exact not_endsInNull_unhandled _
  | some getter => exact not_endsInNull_plainFromCursor _

theorem fromValues_of_date {library : DateLibrary} (h : c.content = .date library)
    (constant : String) : c.fromValues .kotlin constant =
      c.readText .kotlin (library.fromValues? .kotlin c.field constant) := by
  simp only [Column.fromValues, fromValues?, h]

theorem fromCursor_of_date {library : DateLibrary} (h : c.content = .date library)
    (constant : String) : c.fromCursor .kotlin constant =
      c.readText .kotlin (library.fromCursor? .kotlin c.field constant) := by
  simp only [Column.fromCursor, fromCursor?, h]

/-- A date that is declared as not null is forced, or it is not read at all. -/
theorem forced_of_date {library : DateLibrary} (h : c.content = .date library)
    (hsure : c.field.notNull = true ∨ library.supports c.field.type = false) (constant : String) :
    c.fromValues .kotlin constant = unhandled c.field.type
      ∨ ForcesRead constant (c.fromValues .kotlin constant) := by
  rw [fromValues_of_date h]
  cases hreading : library.fromValues? .kotlin c.field constant with
  | none => exact .inl rfl
  | some reading =>
    rcases hsure with hnotNull | hsupports
    · exact .inr (DateLibrary.forcesRead_fromValues? hnotNull hreading)
    · rw [DateLibrary.fromValues?, DateLibrary.read?_eq_none_iff.2 hsupports] at hreading
      cases hreading

theorem not_endsInNull_fromCursor_of_date {library : DateLibrary} (h : c.content = .date library)
    (hsure : c.field.notNull = true ∨ library.supports c.field.type = false) (constant : String) :
    ¬ EndsInNull (c.fromCursor .kotlin constant) := by
  rw [fromCursor_of_date h]
  cases hreading : library.fromCursor? .kotlin c.field constant with
  | none => exact not_endsInNull_unhandled _
  | some reading =>
    rcases hsure with hnotNull | hsupports
    · exact DateLibrary.not_endsInNull_fromCursor? hnotNull hreading
    · rw [DateLibrary.fromCursor?, DateLibrary.read?_eq_none_iff.2 hsupports] at hreading
      cases hreading

/-- A date that is not declared as not null has an alternative or is not forced, although it is
read. -/
theorem not_forced_of_date {library : DateLibrary} (h : c.content = .date library)
    (hnotNull : c.field.notNull = false) (hsupports : library.supports c.field.type = true)
    (constant : String) : EndsInNull (c.fromValues .kotlin constant)
      ∨ c.fromValues .kotlin constant ≠ unhandled c.field.type
        ∧ ¬ ForcesRead constant (c.fromValues .kotlin constant) := by
  obtain ⟨reading, hreading, hend⟩ :=
    DateLibrary.fromValues?_of_not_notNull hnotNull hsupports constant
  rw [fromValues_of_date h, hreading, readText]
  rcases hend with hend | ⟨start, hend⟩
  · exact .inl hend
  -- a call of the formatter ends with its bracket, and so neither like a mark nor with `!!`
  · refine .inr ⟨?_, ?_⟩
    · intro hmark
      have hmarkLast := getLast?_unhandled c.field.type
      have hlast : (start ++ "))").toList.getLast? = some ')' := Text.getLast?_append start rfl
      rw [← hmark, hend, hlast] at hmarkLast
      cases hmarkLast
    · rw [hend]
      exact ForcesRead.not_of_call start

/-! ### First values -/

/-- The property of a date that is not nullable starts with the current date. -/
theorem initial_ne_null_of_date {library : DateLibrary} (h : c.content = .date library)
    (hnull : c.isNullable = false) : c.initial .kotlin ≠ "null" := by
  have hnow : c.initial .kotlin = library.now .kotlin c.field.type := by
    simp [Column.initial, h, startsNow, hnull]
  rw [hnow]
  cases library <;> cases c.field.type <;> decide

theorem initial_ne_null_of_enumeration {ref : EnumRef} {literal? : Option String}
    (h : c.content = .enumeration ref literal?) : c.initial .kotlin ≠ "null" := by
  intro hsame
  have hdot : '.' ∈ (c.initial .kotlin).toList := by
    cases literal? with
    | none => simp [Column.initial, h]
    | some literal => simp [Column.initial, h]
  rw [hsame] at hdot
  exact absurd hdot (by decide)

/-- The property of a plain column that is not nullable starts with null when it neither has a type
of its own nor a default. -/
theorem initial_eq_null_iff_of_plain (h : c.content = .plain) (hdate : c.field.type.isDate = false)
    (hnull : c.isNullable = false) :
    c.initial .kotlin = "null" ↔
      c.field.type.kotlinType = "Any" ∧ c.field.hasDefault = false := by
  have htype : c.typeName .kotlin = c.field.type.kotlinType := by
    simp [typeName, hnull, kotlinType, h]
  have hinitial : c.initial .kotlin =
      Literal.ofDefault .kotlin c.field.type.kotlinType c.field.defaultText := by
    rw [← htype, Column.initial, h]
  rw [hinitial, Literal.ofDefault_eq_null_iff, Field.declared_eq_empty_iff,
    ColumnType.rule?_kotlinType hdate, and_comm]

end Column

/-! ## Fields -/

namespace Scope

variable {s : Scope} {f : Field} {c : Column}

/-- A key that may become null all the same: a date that is not declared as not null and that the
library has a type for, or a value that has neither a type of its own nor a default. -/
def KeyMayBeNull (s : Scope) (f : Field) : Prop :=
  f.primaryKey = true
    ∧ (f.notNull = false ∧ f.type.isDate = true ∧ s.options.dates.supports f.type = true
      ∨ f.type.kotlinType = "Any" ∧ f.hasDefault = false)

theorem not_keyMayBeNull_of_isEnumeration (h : f.isEnumeration = true) : ¬ s.KeyMayBeNull f := by
  rintro ⟨-, ⟨-, hdate, -⟩ | ⟨hany, -⟩⟩
  · simp [Field.isEnumeration_eq_false (.inl hdate)] at h
  · simp [Field.isEnumeration_eq_false (.inr hany)] at h

/-- A date that is not nullable is never null, unless its field is one of those keys. -/
theorem neverNull_iff_of_date (hfield : c.field = f) (hdate : f.type.isDate = true)
    (hcontent : c.content = .date s.options.dates) (hnull : c.isNullable = false)
    (constant : String) : c.NeverNull constant ↔ ¬ s.KeyMayBeNull f := by
  subst hfield
  have htype : c.field.type.kotlinType ≠ "Any" := by
    revert hdate
    cases c.field.type <;> decide
  have hkey : c.field.notNull = false → c.field.primaryKey = true := by
    intro hnotNull
    simpa [Column.isNullable, hcontent, hnotNull, Column.isKey] using hnull
  constructor
  · rintro hnever ⟨-, ⟨hnotNull, -, hsupports⟩ | ⟨hany, -⟩⟩
    · rcases Column.not_forced_of_date hcontent hnotNull hsupports constant with
        hend | ⟨hmark, hread⟩
      · exact hnever.fromValues hend
      · exact hnever.forced.elim hmark hread
    · exact htype hany
  · intro hsafe
    -- a date that is not nullable and not declared as not null is a key, which is not read then
    have hsure : c.field.notNull = true ∨ s.options.dates.supports c.field.type = false := by
      cases hnotNull : c.field.notNull with
      | true => exact .inl rfl
      | false =>
        refine .inr (Bool.eq_false_iff.2 fun hsupports => ?_)
        exact hsafe ⟨hkey hnotNull, .inl ⟨hnotNull, hdate, hsupports⟩⟩
    have hforced := Column.forced_of_date hcontent hsure constant
    exact
      { fromValues := Column.not_endsInNull_of_forced hforced
        forced := hforced
        fromCursor := Column.not_endsInNull_fromCursor_of_date hcontent hsure constant
        binding := Column.binding_ne_nullable hnull
        initial := Column.initial_ne_null_of_date hcontent hnull }

/-- A plain value that is not nullable is never null, unless its field is one of those keys. -/
theorem neverNull_iff_of_plain (hfield : c.field = f) (hdate : f.type.isDate = false)
    (hcontent : c.content = .plain) (hnull : c.isNullable = false) (constant : String) :
    c.NeverNull constant ↔ ¬ s.KeyMayBeNull f := by
  subst hfield
  have hinitial := Column.initial_eq_null_iff_of_plain hcontent hdate hnull
  constructor
  · rintro hnever ⟨-, ⟨-, hdate', -⟩ | hany⟩
    · rw [hdate] at hdate'
      cases hdate'
    · exact hnever.initial (hinitial.2 hany)
  · intro hsafe
    have hforced := Column.forced_of_plain hcontent hnull constant
    refine
      { fromValues := Column.not_endsInNull_of_forced hforced
        forced := hforced
        fromCursor := Column.not_endsInNull_fromCursor_of_plain hcontent hnull constant
        binding := Column.binding_ne_nullable hnull
        initial := fun hsame => ?_ }
    have hany := hinitial.1 hsame
    -- a value without a type of its own is nullable unless it is a key
    have hkey : c.field.primaryKey = true := by
      simpa [Column.isNullable, hcontent, hany.1, Column.isKey] using hnull
    exact hsafe ⟨hkey, .inr hany⟩

/-- Whatever a field is resolved to, the code for its Kotlin property is that for a value that is
never null if there is no question mark behind its type, unless the field is a key that is a date
not declared as not null, or one that has neither a type of its own nor a default. -/
theorem neverNull_iff (h : s.column f = .ok c)
    (hdeclared : Text.endsWithChar '?' (c.typeName .kotlin) = false) (constant : String) :
    c.NeverNull constant ↔ ¬ s.KeyMayBeNull f := by
  have hfield : c.field = f := field_of_column h
  have hnull : c.isNullable = false := Column.isNullable_eq_false hdeclared
  rcases content_cases h with ⟨henum, ref, literal?, hcontent⟩ | ⟨-, hdate, hcontent⟩ |
    ⟨-, hdate, hcontent⟩
  · have hforced := Column.forcesRead_of_enumeration hcontent constant
    refine iff_of_true ?_ (not_keyMayBeNull_of_isEnumeration henum)
    exact
      { fromValues := hforced.not_endsInNull
        forced := .inr hforced
        fromCursor := Column.not_endsInNull_fromCursor_of_enumeration hcontent constant
        binding := Column.binding_ne_nullable hnull
        initial := Column.initial_ne_null_of_enumeration hcontent }
  · exact neverNull_iff_of_date hfield hdate hcontent hnull constant
  · exact neverNull_iff_of_plain hfield hdate hcontent hnull constant

/-- The time at which an event was created, which is its key. -/
def createdField : Field :=
  { name := "CREATED", type := .timestamp, primaryKey := true }

/-- The payload of a message, which is its key. -/
def payloadField : Field :=
  { name := "PAYLOAD", type := .javaObject, notNull := true, primaryKey := true }

/-- What is read of a time may be null and a payload starts with null, although neither property has
a type that allows it. -/
theorem may_be_null_createdField :
    ∃ (s : Scope) (created payload : Column),
      s.column createdField = .ok created ∧ created.typeName .kotlin = "java.util.Date"
      ∧ ¬ created.NeverNull "EventConst.C_CREATED"
      ∧ created.fromValues .kotlin "EventConst.C_CREATED" =
        "if (values.getAsLong(EventConst.C_CREATED) != null) "
          ++ "java.util.Date(values.getAsLong(EventConst.C_CREATED)!!) else null"
      ∧ s.column payloadField = .ok payload ∧ payload.typeName .kotlin = "Any"
      ∧ ¬ payload.NeverNull "EventConst.C_PAYLOAD" ∧ payload.initial .kotlin = "null" := by
  let s : Scope := ⟨{ package := "org", created := "today" }, { name := "main" },
    { kind := .table, name := "EVENT", fields := [createdField] }⟩
  have hcreated : s.column createdField = .ok ⟨createdField, .date .standard⟩ := by decide
  have hpayload : s.column payloadField = .ok ⟨payloadField, .plain⟩ := by decide
  refine ⟨s, _, _, hcreated, by decide, ?_, by decide, hpayload, by decide, ?_, by decide⟩
  · rw [neverNull_iff hcreated (by decide)]
    exact fun hsafe => hsafe ⟨rfl, .inl ⟨rfl, rfl, rfl⟩⟩
  · rw [neverNull_iff hpayload (by decide)]
    exact fun hsafe => hsafe ⟨rfl, .inr ⟨rfl, by decide⟩⟩

end Scope

end SchemaForge
