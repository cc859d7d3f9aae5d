import SchemaForge.Proofs.Android.Conversions
import SchemaForge.Proofs.Code.Snippet

namespace SchemaForge

/-! # The expressions of columns, written out

The expressions that carry the value of a column are put together of many small parts: how a type is
stored, what a library calls its functions, how a test for null is written. Here each of them stands
in one piece, with a place for the variable that holds the value or for the code by which the column
is named. A column has no expression to store it when no rule covers its field, and then the mark of
its type stands in its place.
-/

/-! ## Which columns have expressions -/

/-- The types without a rule. -/
def ColumnType.uncovered : List ColumnType :=
  [.javaObject, .money, .fraction, .unknown]

theorem ColumnType.storing?_eq_none_iff_mem (l : Language) {type : ColumnType}
    (hdate : type.isDate = false) : type.storing? l = none ↔ type ∈ uncovered := by
  revert hdate
  cases l <;> cases type <;> decide

namespace Scope

variable {s : Scope} {f : Field} {c : Column} {l : Language}

/-- A rule covers the values of the field: they are ordinals, or of a type that has a rule, and if
they are dates the library has a type for them. -/
def Covers (s : Scope) (f : Field) : Prop :=
  f.isEnumeration ∨ f.type ∉ ColumnType.uncovered ∧ s.options.dates.supports f.type

/-- A column has a value that can be stored when a rule covers its field. -/
theorem knownValue?_eq_none_iff (h : s.column f = .ok c) :
    c.knownValue? l = none ↔ ¬ s.Covers f := by
  have hfield : c.field = f := field_of_column h
  unfold Covers
  rcases content_cases h with ⟨henum, ref, literal?, hcontent⟩ | ⟨henum, hdate, hcontent⟩ |
    ⟨henum, hdate, hcontent⟩
  · cases l <;> simp [Column.knownValue?, hcontent, henum]
  · have hcovered : f.type ∉ ColumnType.uncovered := by
      revert hdate
      cases f.type <;> decide
    cases l <;> simp [Column.knownValue?, hcontent, hfield, henum, hcovered,
      DateLibrary.store?_eq_none_iff]
  · have hsupported : s.options.dates.supports f.type = true := by
      have htime : f.type ≠ .time := by
        intro htype
        rw [htype] at hdate
        cases hdate
      simp [DateLibrary.supports, htime]
    cases l <;> simp [Column.knownValue?, hcontent, hfield, henum, hsupported,
      ColumnType.storing?_eq_none_iff_mem _ hdate]

end Scope

namespace Expression

/-! ## Stored values -/

/-- The function that gives the form in which a date is stored. Only one library has a function for
a time without a date. -/
def dateWriter? : DateLibrary → ColumnType → Option String
  | .standard, .timestamp => some "org.dbtools.android.domain.date.DBToolsDateFormatter.dateToLong"
  | .standard, .time => none
  | .standard, _ => some "org.dbtools.android.domain.date.DBToolsDateFormatter.dateToDBString"
  | .joda, .timestamp => some "org.dbtools.android.domain.date.DBToolsJodaFormatter.dateTimeToLong"
  | .joda, .time => none
  | .joda, _ => some "org.dbtools.android.domain.date.DBToolsJodaFormatter.dateTimeToDBString"
  | .threeTen, .timestamp =>
    some "org.dbtools.android.domain.date.DBToolsThreeTenFormatter.localDateTimeToLong"
  | .threeTen, .date =>
    some "org.dbtools.android.domain.date.DBToolsThreeTenFormatter.localDateToDBString"
  | .threeTen, .time =>
    some "org.dbtools.android.domain.date.DBToolsThreeTenFormatter.localTimeToDBString"
  | .threeTen, _ =>
    some "org.dbtools.android.domain.date.DBToolsThreeTenFormatter.localDateTimeToDBString"

/-- The stored form of a plain value in Kotlin, where the operand is not null. -/
def kotlinPlain? (x : String) : ColumnType → Option String
  | .boolean | .bit | .tinyint => some ("if (" ++ x ++ ") 1L else 0L")
  | .bigint | .double | .varchar | .longvarchar | .clob | .blob => some x
  | .smallint | .integer | .bigInteger => some (x ++ ".toLong()")
  | .real | .float | .decimal | .numeric | .bigDecimal => some (x ++ ".toDouble()")
  | .char => some (x ++ ".toString()")
  | _ => none

/-- The stored form of a plain value in Kotlin, which is null where the operand is. -/
def kotlinPlainSafe? (x : String) : ColumnType → Option String
  | .boolean | .bit | .tinyint => some (x ++ "?.let \x7b if (it) 1L else 0L \x7d")
  | .bigint | .double | .varchar | .longvarchar | .clob | .blob => some x
  | .smallint | .integer | .bigInteger => some (x ++ "?.toLong()")
  | .real | .float | .decimal | .numeric | .bigDecimal => some (x ++ "?.toDouble()")
  | .char => some (x ++ "?.toString()")
  | _ => none

/-- The stored form of a plain value in Java, where the operand is not null. -/
def javaPlain? (x : String) : ColumnType → Option String
  | .boolean | .bit | .tinyint => some (x ++ " ? 1 : 0")
  | .smallint | .integer | .bigint | .real | .float | .double | .decimal | .numeric | .varchar
  | .longvarchar | .clob | .blob => some x
  | .bigInteger => some (x ++ ".longValue()")
  | .bigDecimal => some (x ++ ".doubleValue()")
  | .char => some ("String.valueOf(" ++ x ++ ")")
  | _ => none

/-- The stored form of a plain value in Java, which is null where the operand is. -/
def javaPlainSafe? (x : String) : ColumnType → Option String
  | .smallint | .integer | .bigint | .real | .float | .double | .decimal | .numeric | .varchar
  | .longvarchar | .clob | .blob => some x
  | type => (javaPlain? x type).map (x ++ " != null ? " ++ · ++ " : null")

/-- The database value of a column, by its variable `x`, where this is known not to be null. -/
def known? (l : Language) (c : Column) (x : String) : Option String :=
  match l, c.content with
  | .kotlin, .enumeration _ _ => some (x ++ ".ordinal.toLong()")
  | .kotlin, .date library => (dateWriter? library c.field.type).map (· ++ "(" ++ x ++ ")!!")
  | .kotlin, .plain => kotlinPlain? (if c.isNullable then x ++ "!!" else x) c.field.type
  | .java, .enumeration _ _ => some (x ++ ".ordinal()")
  | .java, .date library => (dateWriter? library c.field.type).map (· ++ "(" ++ x ++ ")")
  | .java, .plain => javaPlain? x c.field.type

/-- The database value of a column, by its variable `x`; it is null where the variable is. -/
def stored? (l : Language) (c : Column) (x : String) : Option String :=
  match l, c.content with
  | .kotlin, .enumeration _ _ => some (x ++ ".ordinal.toLong()")
  | .kotlin, .date library => (dateWriter? library c.field.type).map (· ++ "(" ++ x ++ ")")
  | .kotlin, .plain =>
    if c.isNullable then kotlinPlainSafe? x c.field.type else kotlinPlain? x c.field.type
  | .java, .enumeration _ _ => some (x ++ ".ordinal()")
  | .java, .date library =>
    if c.isNullable then
      (dateWriter? library c.field.type).map fun function =>
        x ++ " != null ? " ++ (function ++ "(" ++ x ++ ")") ++ " : null"
    else (dateWriter? library c.field.type).map (· ++ "(" ++ x ++ ")")
  | .java, .plain =>
    if c.isNullable then javaPlainSafe? x c.field.type else javaPlain? x c.field.type

/-- The database value of a column by its own variable, or the mark of its type. -/
def stored (l : Language) (c : Column) : String :=
  (stored? l c c.variableName).getD (unhandled c.field.type)

/-- The value that a copy gets in Kotlin, by the variable `x`. A date that can be changed is copied
itself. -/
def copied (c : Column) (x : String) : String :=
  match c.content with
  | .date .standard =>
    if c.isNullable then x ++ "?.let \x7b java.util.Date(it.time) \x7d"
    else "java.util.Date(" ++ x ++ ".time)"
  | _ => x

/-! ## Values that are read -/

section Reading

variable {ρ : Type}

/-- Code that gives a value where a test holds, and null elsewhere. -/
def guarded (l : Language) (test value : Snippet ρ) : Snippet ρ :=
  match l with
  | .kotlin => "if (" ++ test ++ ") " ++ value ++ " else null"
  | .java => test ++ " ? " ++ value ++ " : null"

/-- The date of a number of milliseconds. -/
def dateOfMillis (d : DateLibrary) (l : Language) (long : Snippet ρ) : Snippet ρ :=
  match d, l with
  | .standard, .kotlin => "java.util.Date(" ++ long ++ "!!)"
  | .standard, .java => "new java.util.Date(" ++ long ++ ")"
  | .joda, .kotlin =>
    "org.dbtools.android.domain.date.DBToolsJodaFormatter.longToDateTime(" ++ long ++ ")!!"
  | .joda, .java =>
    "org.dbtools.android.domain.date.DBToolsJodaFormatter.longToDateTime(" ++ long ++ ")"
  | .threeTen, .kotlin =>
    "org.dbtools.android.domain.date.DBToolsThreeTenFormatter.longToLocalDateTime(" ++ long ++ ")!!"
  | .threeTen, .java =>
    "org.dbtools.android.domain.date.DBToolsThreeTenFormatter.longToLocalDateTime(" ++ long ++ ")"

/-- The function that gives the date of a stored text. -/
def dateReader? : DateLibrary → ColumnType → Option String
  | .standard, .time => none
  | .standard, _ => some "org.dbtools.android.domain.date.DBToolsDateFormatter.dbStringToDate"
  | .joda, .time => none
  | .joda, _ => some "org.dbtools.android.domain.date.DBToolsJodaFormatter.dbStringToDateTime"
  | .threeTen, .date =>
    some "org.dbtools.android.domain.date.DBToolsThreeTenFormatter.dbStringToLocalDate"
  | .threeTen, .time =>
    some "org.dbtools.android.domain.date.DBToolsThreeTenFormatter.dbStringToLocalTime"
  | .threeTen, _ =>
    some "org.dbtools.android.domain.date.DBToolsThreeTenFormatter.dbStringToLocalDateTime"

/-- The date of a column, from code for its number or its text and a test that it has a number. -/
def date? (d : DateLibrary) (l : Language) (f : Field) (long test text : Snippet ρ) :
    Option (Snippet ρ) :=
  if f.type = .timestamp then
    if f.notNull then some (dateOfMillis d l long)
    else some (guarded l test (dateOfMillis d l long))
  else
    (dateReader? d f.type).map fun (function : String) =>
      match l, f.notNull with
      | .kotlin, true => function ++ "(" ++ text ++ ")!!"
      | _, _ => function ++ "(" ++ text ++ ")"

/-- The first literal of an enumeration. -/
def firstLiteral (ref : EnumRef) : Option String → String
  | some literal => ref.className ++ "." ++ literal
  | none => ref.className ++ ".values()[0]"

/-- The literal of an enumeration that has an ordinal, in Java the first one where none has. -/
def literalAt (l : Language) (ref : EnumRef) (literal? : Option String) (ordinal : Snippet ρ) :
    Snippet ρ :=
  match l with
  | .kotlin => ref.className ++ ".values()[" ++ ordinal ++ "]"
  | .java =>
    "org.dbtools.android.domain.util.EnumUtil.ordinalToEnum(" ++ ref.className ++ ".class, "
      ++ ordinal ++ ", " ++ firstLiteral ref literal? ++ ")"

/-- What content values hold for a type under the column that `x` names. -/
def valueOf? (x : Snippet ρ) : ColumnType → Option (Snippet ρ)
  | .boolean | .bit | .tinyint => some ("values.getAsBoolean(" ++ x ++ ")")
  | .smallint | .integer => some ("values.getAsInteger(" ++ x ++ ")")
  | .bigint => some ("values.getAsLong(" ++ x ++ ")")
  | .real | .float | .decimal | .numeric => some ("values.getAsFloat(" ++ x ++ ")")
  | .double => some ("values.getAsDouble(" ++ x ++ ")")
  | .char | .varchar | .longvarchar | .clob => some ("values.getAsString(" ++ x ++ ")")
  | .blob => some ("values.getAsByteArray(" ++ x ++ ")")
  | _ => none

/-- The value of a plain column, from what content values hold for it. -/
def plainValue (l : Language) (type : ColumnType) (nullable : Bool) (value : Snippet ρ) :
    Snippet ρ :=
  match l, type, nullable with
  | .kotlin, .char, true => value ++ "?.firstOrNull()"
  | .kotlin, .char, false => value ++ "!![0]"
  | .kotlin, _, true => value
  | .kotlin, _, false => value ++ "!!"
  | .java, .char, true => guarded .java (value ++ " != null") (value ++ ".charAt(0)")
  | .java, .char, false => value ++ ".charAt(0)"
  | .java, _, _ => value

/-- The value of a column in content values, by the code `x` that names the column. -/
def fromValues? (l : Language) (c : Column) (x : Snippet ρ) : Option (Snippet ρ) :=
  match c.content with
  | .enumeration ref literal? =>
    match l with
    | .kotlin => some (literalAt l ref literal? ("values.getAsInteger(" ++ x ++ ")!!"))
    | .java => some (literalAt l ref literal? ("values.getAsInteger(" ++ x ++ ")"))
  | .date library =>
    let long := "values.getAsLong(" ++ x ++ ")"
    date? library l c.field long (long ++ " != null") ("values.getAsString(" ++ x ++ ")")
  | .plain => (valueOf? x c.field.type).map (plainValue l c.field.type c.isNullable)

/-- What a cursor gives for a type at an index. -/
def cursorOf? (l : Language) (index : Snippet ρ) : ColumnType → Option (Snippet ρ)
  | .boolean | .bit | .tinyint => some ("cursor.getInt(" ++ index ++ ") != 0")
  | .smallint | .integer => some ("cursor.getInt(" ++ index ++ ")")
  | .bigint => some ("cursor.getLong(" ++ index ++ ")")
  | .real | .float | .decimal | .numeric => some ("cursor.getFloat(" ++ index ++ ")")
  | .double => some ("cursor.getDouble(" ++ index ++ ")")
  | .char =>
    match l with
    | .kotlin => some ("cursor.getString(" ++ index ++ ")[0]")
    | .java => some ("cursor.getString(" ++ index ++ ").charAt(0)")
  | .varchar | .longvarchar | .clob => some ("cursor.getString(" ++ index ++ ")")
  | .blob => some ("cursor.getBlob(" ++ index ++ ")")
  | _ => none

/-- The value of a column at a cursor, by the code `x` that names the column. -/
def fromCursor? (l : Language) (c : Column) (x : Snippet ρ) : Option (Snippet ρ) :=
  let index := "cursor.getColumnIndexOrThrow(" ++ x ++ ")"
  match c.content with
  | .enumeration ref literal? => some (literalAt l ref literal? ("cursor.getInt(" ++ index ++ ")"))
  | .date library =>
    date? library l c.field ("cursor.getLong(" ++ index ++ ")") ("!cursor.isNull(" ++ index ++ ")")
      ("cursor.getString(" ++ index ++ ")")
  | .plain =>
    (cursorOf? l index c.field.type).map fun value =>
      if c.isNullable then guarded l ("!cursor.isNull(" ++ index ++ ")") value else value

/-- The code that reads a column, or the mark of its type. -/
def orMark (c : Column) (code? : Option (Snippet ρ)) : Snippet ρ :=
  code?.getD (.plain (unhandled c.field.type))

end Reading

end Expression

/-! ## What is stored -/

/-- What a conversion writes before an operand and behind it. -/
def Storing.around (l : Language) : Storing → String × String
  | asIs => ("", "")
  | truth =>
    match l with
    | .kotlin => ("if (", ") 1L else 0L")
    | .java => ("", " ? 1 : 0")
  | call method => ("", "." ++ method ++ "()")
  | textOf => ("String.valueOf(", ")")

theorem Storing.write_eq_around (l : Language) (operand : String) (storing : Storing) :
    storing.write l operand = (storing.around l).1 ++ operand ++ (storing.around l).2 := by
  cases storing with
  | asIs =>
    change operand = "" ++ operand ++ ""
    rw [String.empty_append, String.append_empty]
  | truth =>
    cases l with
    | kotlin => rfl
    | java =>
      change operand ++ " ? 1 : 0" = "" ++ operand ++ " ? 1 : 0"
      rw [String.empty_append]
  | call method =>
    change operand ++ "." ++ method ++ "()" = "" ++ operand ++ ("." ++ method ++ "()")
    rw [String.empty_append, String.append_assoc, String.append_assoc, String.append_assoc]
  | textOf => rfl

/-- A conversion changes the text of an operand, unless it stores it as it is. -/
theorem Storing.write_eq_self_iff {l : Language} {operand : String} {storing : Storing} :
    storing.write l operand = operand ↔ storing = .asIs := by
  rw [write_eq_around, Text.around_eq_self_iff]
  cases storing with
  | asIs => simp [around]
  | truth => cases l <;> simp [around]
  | call method => simp [around]
  | textOf => simp [around]

/-- A date is stored by a call of a formatter, so that not its variable is stored. -/
theorem DateLibrary.ne_of_store? {d : DateLibrary} {type : ColumnType} {variableName value : String}
    (h : d.store? type variableName = some value) (suffix : String) :
    value ++ suffix ≠ variableName := by
  unfold store? at h
  split at h
  · cases h
    intro hsame
    rw [String.append_assoc] at hsame
    have hafter := (Text.around_eq_self_iff.1 hsame).2
    simp at hafter
  · cases h

namespace Expression

theorem store?_eq (d : DateLibrary) (type : ColumnType) (x : String) :
    d.store? type x = (dateWriter? d type).map (· ++ "(" ++ x ++ ")") := by
  unfold dateWriter?
  split <;>
    simp_all [DateLibrary.store?, DateLibrary.supports, DateLibrary.formatter,
      DateLibrary.lowerName]

theorem write_call (l : Language) (x method : String) :
    (Storing.call method).write l x = x ++ ("." ++ method ++ "()") := by
  rw [Storing.write_eq_around]
  change "" ++ x ++ ("." ++ method ++ "()") = _
  rw [String.empty_append]

theorem writeSafe_call (x method : String) :
    (Storing.call method).writeSafe x = x ++ ("?." ++ method ++ "()") := by
  change x ++ "?." ++ method ++ "()" = _
  rw [String.append_assoc, String.append_assoc, String.append_assoc]

theorem kotlinPlain?_eq (type : ColumnType) (x : String) :
    (type.storing? .kotlin).map (·.write .kotlin x) = kotlinPlain? x type := by
  cases type with
  | smallint | integer | bigInteger | real | float | decimal | numeric | bigDecimal | char =>
    exact congrArg some (write_call .kotlin x _)
  | boolean | bit | tinyint | bigint | double | varchar | longvarchar | clob | blob => rfl
  | date | datetime | time | timestamp | javaObject | money | fraction | unknown => rfl

theorem kotlinPlainSafe?_eq (type : ColumnType) (x : String) :
    (type.storing? .kotlin).map (·.writeSafe x) = kotlinPlainSafe? x type := by
  cases type with
  | smallint | integer | bigInteger | real | float | decimal | numeric | bigDecimal | char =>
    exact congrArg some (writeSafe_call x _)
  | boolean | bit | tinyint | bigint | double | varchar | longvarchar | clob | blob => rfl
  | date | datetime | time | timestamp | javaObject | money | fraction | unknown => rfl

theorem javaPlain?_eq (type : ColumnType) (x : String) :
    (type.storing? .java).map (·.write .java x) = javaPlain? x type := by
  cases type with
  | bigInteger | bigDecimal => exact congrArg some (write_call .java x _)
  | boolean | bit | tinyint | char => rfl
  | smallint | integer | bigint | real | float | double | decimal | numeric | varchar | longvarchar
  | clob | blob => rfl
  | date | datetime | time | timestamp | javaObject | money | fraction | unknown => rfl

/-- A test for null in Java, and the value that is there without it. -/
theorem render_orNull (x value : String) :
    Reading.render .java ⟨value, some (x ++ " != null")⟩ =
      x ++ " != null ? " ++ value ++ " : null" := by
  have htest : x ++ " != null" ++ " ? " = x ++ " != null ? " := by
    rw [String.append_assoc]
    rfl
  change x ++ " != null" ++ " ? " ++ value ++ " : null" = _
  rw [htest]

/-- In Java a value is guarded by a test for null, unless it is the operand itself. -/
theorem javaPlainSafe?_eq (type : ColumnType) (x : String) :
    (javaPlain? x type).map (fun value =>
      if value != x then Reading.render .java ⟨value, some (x ++ " != null")⟩ else value) =
        javaPlainSafe? x type := by
  have hguarded : ∀ before after, before ≠ "" ∨ after ≠ "" →
      (if before ++ x ++ after != x then
        Reading.render .java ⟨before ++ x ++ after, some (x ++ " != null")⟩
        else before ++ x ++ after) = x ++ " != null ? " ++ (before ++ x ++ after) ++ " : null" := by
    intro before after hne
    have hvalue : before ++ x ++ after ≠ x := by
      rw [Ne, Text.around_eq_self_iff]
      tauto
    rw [if_pos (bne_iff_ne.2 hvalue), render_orNull]
  have hbehind : ∀ after, after ≠ "" → (if x ++ after != x then
      Reading.render .java ⟨x ++ after, some (x ++ " != null")⟩ else x ++ after) =
        x ++ " != null ? " ++ (x ++ after) ++ " : null" := by
    intro after hne
    simpa only [String.empty_append] using hguarded "" after (.inr hne)
  cases type with
  | boolean | bit | tinyint | bigInteger | bigDecimal =>
    exact congrArg some (hbehind _ (by decide))
  | char => exact congrArg some (hguarded "String.valueOf(" ")" (.inl (by decide)))
  | smallint | integer | bigint | real | float | double | decimal | numeric | varchar | longvarchar
  | clob | blob => simp [javaPlain?, javaPlainSafe?]
  | date | datetime | time | timestamp | javaObject | money | fraction | unknown => rfl

theorem knownValue?_eq (l : Language) (c : Column) :
    c.knownValue? l = known? l c c.variableName := by
  unfold Column.knownValue? known?
  cases c.content with
  | enumeration ref literal? => cases l <;> rfl
  | date library =>
    have hsure : ∀ function : String, function ++ "(" ++ c.variableName ++ ")" ++ "!!" =
        function ++ "(" ++ c.variableName ++ ")!!" := by
      intro function
      rw [String.append_assoc]
      rfl
    cases l with
    | kotlin => simp only [store?_eq, Option.map_map, Function.comp_def, hsure]
    | java => exact store?_eq _ _ _
  | plain =>
    cases l with
    | kotlin => exact kotlinPlain?_eq _ _
    | java => exact javaPlain?_eq _ _

theorem storedValue?_eq (l : Language) (c : Column) :
    c.storedValue? l = stored? l c c.variableName := by
  unfold Column.storedValue? stored?
  rw [knownValue?_eq, knownValue?_eq]
  cases l with
  | kotlin =>
    cases hcontent : c.content with
    | enumeration ref literal? => simp only [known?, hcontent]
    | date library => exact store?_eq _ _ _
    | plain =>
      cases hnullable : c.isNullable with
      | false => simp [known?, hcontent, hnullable]
      | true => exact kotlinPlainSafe?_eq _ _
  | java =>
    cases hcontent : c.content with
    | enumeration ref literal? => simp [known?, hcontent, Column.isNullable]
    | date library =>
      have hcall : ∀ function : String,
          (c.isNullable && function ++ "(" ++ c.variableName ++ ")" != c.variableName) =
            c.isNullable := by
        intro function
        have hvalue : function ++ "(" ++ c.variableName ++ ")" ≠ c.variableName := by
          rw [Ne, Text.around_eq_self_iff]
          simp
        rw [bne_iff_ne.2 hvalue, Bool.and_true]
      simp only [known?, hcontent, Option.map_map, Function.comp_def, hcall, render_orNull]
      cases c.isNullable <;> rfl
    | plain =>
      cases hnullable : c.isNullable with
      | false => simp [known?, hcontent]
      | true => simpa [known?, hcontent] using javaPlainSafe?_eq c.field.type c.variableName

theorem storedValue_eq (l : Language) (c : Column) : c.storedValue l = stored l c := by
  rw [Column.storedValue, storedValue?_eq]
  rfl

/-- The value of a copy is spelled out by the variable of the column. -/
theorem copied_eq (c : Column) : c.copied = copied c c.variableName := by
  unfold Column.copied copied
  cases c.content with
  | date library =>
    cases library with
    | standard => cases hnullable : c.isNullable <;> simp [DateLibrary.copy, DateLibrary.isMutable]
    | joda | threeTen => rfl
  | enumeration ref literal? => rfl
  | plain => rfl

section Reading

variable {ρ : Type} (refs : ρ → String)

theorem ofText_eq (d : DateLibrary) (type : ColumnType) (text : String) :
    d.ofText type text = (dateReader? d type).map (· ++ "(" ++ text ++ ")") := by
  unfold dateReader?
  split <;>
    simp_all [DateLibrary.ofText, DateLibrary.supports, DateLibrary.formatter, DateLibrary.word]

theorem text_guarded (l : Language) (test value : Snippet ρ) :
    (guarded l test value).text refs =
      Reading.render l ⟨value.text refs, some (test.text refs)⟩ := by
  cases l <;> rfl

theorem text_dateOfMillis (d : DateLibrary) (l : Language) (long : Snippet ρ) :
    (dateOfMillis d l long).text refs = d.ofLong l (long.text refs) := by
  cases d <;> cases l <;> rfl

theorem date?_eq (d : DateLibrary) (l : Language) (f : Field) (long test text : Snippet ρ) :
    (d.read? l f (long.text refs) (test.text refs) (text.text refs)).map (·.render l) =
      (date? d l f long test text).map (·.text refs) := by
  unfold DateLibrary.read? date?
  split
  · cases hnull : f.notNull with
    | true => exact congrArg some (text_dateOfMillis refs d l long).symm
    | false =>
      have hguarded := text_guarded refs l test (dateOfMillis d l long)
      rw [text_dateOfMillis] at hguarded
      exact congrArg some hguarded.symm
  · have hsure : ∀ function : String, function ++ "(" ++ text.text refs ++ ")" ++ "!!" =
        function ++ "(" ++ text.text refs ++ ")!!" := by
      intro function
      rw [String.append_assoc]
      rfl
    rw [ofText_eq]
    cases dateReader? d f.type with
    | none => rfl
    | some function => cases l <;> cases f.notNull <;> simp [Reading.render, hsure]

theorem text_literalAt {l : Language} {c : Column} {ref : EnumRef} {literal? : Option String}
    (h : c.content = .enumeration ref literal?) (ordinal : Snippet ρ) :
    (literalAt l ref literal? ordinal).text refs =
      c.literalAt l ref.className (ordinal.text refs) := by
  have hfirst : c.initial .java = firstLiteral ref literal? := by
    rw [Column.initial, h]
    cases literal? <;> rfl
  unfold Column.literalAt
  rw [hfirst]
  cases l <;> rfl

theorem valueOf?_eq (type : ColumnType) (x : Snippet ρ) :
    (type.valuesGetter?.map fun getter => "values." ++ getter ++ "(" ++ x.text refs ++ ")") =
      (valueOf? x type).map (·.text refs) := by
  cases type <;> rfl

theorem text_plainValue (l : Language) (c : Column) (value : Snippet ρ) :
    (plainValue l c.field.type c.isNullable value).text refs =
      (c.plainFromValues l (value.text refs)).render l := by
  have hfirst : value.text refs ++ "!![0]" = value.text refs ++ "!!" ++ "[0]" := by
    rw [String.append_assoc]
    rfl
  unfold plainValue Column.plainFromValues
  generalize c.field.type = type, c.isNullable = nullable
  by_cases hchar : type = .char
  · subst hchar
    cases l with
    | kotlin =>
      cases nullable with
      | true => rfl
      | false => exact hfirst
    | java => cases nullable <;> rfl
  · cases l <;> cases nullable <;> simp [hchar, Reading.render]

/-- What is read out of content values is spelled out by the code that names the column. -/
theorem fromValues?_eq (l : Language) (c : Column) (x : Snippet ρ) :
    (c.fromValues? l (x.text refs)).map (·.render l) =
      (fromValues? l c x).map (·.text refs) := by
  unfold Column.fromValues? fromValues?
  cases hcontent : c.content with
  | enumeration ref literal? =>
    have hsure : "values.getAsInteger(" ++ x.text refs ++ ")" ++ "!!" =
        "values.getAsInteger(" ++ x.text refs ++ ")!!" := by
      rw [String.append_assoc]
      rfl
    cases l <;> simp [Reading.render, text_literalAt refs hcontent, hsure]
  | date library =>
    exact date?_eq refs library l c.field ("values.getAsLong(" ++ x ++ ")")
      ("values.getAsLong(" ++ x ++ ")" ++ " != null") ("values.getAsString(" ++ x ++ ")")
  | plain =>
    have hvalue := congrArg (Option.map fun value => (c.plainFromValues l value).render l)
      (valueOf?_eq refs c.field.type x)
    simpa only [Option.map_map, Function.comp_def, text_plainValue] using hvalue

theorem cursorOf?_eq (l : Language) (c : Column) (index : Snippet ρ) :
    (c.field.type.cursorGetter?.map fun getter =>
      c.plainFromCursor l ("cursor." ++ getter ++ "(" ++ index.text refs ++ ")")) =
        (cursorOf? l index c.field.type).map (·.text refs) := by
  have hend : ∀ start ending : String,
      start ++ index.text refs ++ ")" ++ ending = start ++ index.text refs ++ (")" ++ ending) :=
    fun _ _ => String.append_assoc
  unfold Column.plainFromCursor
  cases c.field.type with
  | boolean | bit | tinyint => exact congrArg some (hend "cursor.getInt(" " != 0")
  | char =>
    cases l with
    | kotlin => exact congrArg some (hend "cursor.getString(" "[0]")
    | java => exact congrArg some (hend "cursor.getString(" ".charAt(0)")
  | smallint | integer | bigint | real | float | decimal | numeric | double | varchar
  | longvarchar | clob | blob => rfl
  | _ => rfl

/-- What is read out of a cursor is spelled out by the code that names the column. -/
theorem fromCursor?_eq (l : Language) (c : Column) (x : Snippet ρ) :
    (c.fromCursor? l (x.text refs)).map (·.render l) =
      (fromCursor? l c x).map (·.text refs) := by
  unfold Column.fromCursor? fromCursor?
  cases hcontent : c.content with
  | enumeration ref literal? => simp [Reading.render, text_literalAt refs hcontent]
  | date library =>
    let index := "cursor.getColumnIndexOrThrow(" ++ x ++ ")"
    exact date?_eq refs library l c.field ("cursor.getLong(" ++ index ++ ")")
      ("!cursor.isNull(" ++ index ++ ")") ("cursor.getString(" ++ index ++ ")")
  | plain =>
    let index := "cursor.getColumnIndexOrThrow(" ++ x ++ ")"
    let test := "!cursor.isNull(" ++ index ++ ")"
    have htext : ∀ value : Snippet ρ,
        (if c.isNullable then guarded l test value else value).text refs =
          Reading.render l
            ⟨value.text refs, if c.isNullable then some (test.text refs) else none⟩ := by
      intro value
      split
      · exact text_guarded refs l test value
      · rfl
    have hvalue := congrArg (Option.map fun value =>
        Reading.render l ⟨value, if c.isNullable then some (test.text refs) else none⟩)
      (cursorOf?_eq refs l c index)
    simp only [Option.map_map, Function.comp_def, ← htext] at hvalue ⊢
    exact hvalue

theorem text_orMark (l : Language) {c : Column} {reading? : Option Reading}
    {code? : Option (Snippet ρ)} (h : reading?.map (·.render l) = code?.map (·.text refs)) :
    (orMark c code?).text refs = c.readText l reading? := by
  cases reading? <;> cases code? <;> simp_all [orMark, Column.readText]

/-! ## What is referred to by what is read -/

theorem references_guarded (l : Language) (test value : Snippet ρ) :
    (guarded l test value).references = test.references ++ value.references := by
  cases l <;> simp [guarded]

theorem references_dateOfMillis (d : DateLibrary) (l : Language) (long : Snippet ρ) :
    (dateOfMillis d l long).references = long.references := by
  cases d <;> cases l <;> simp [dateOfMillis]

theorem references_literalAt (l : Language) (ref : EnumRef) (literal? : Option String)
    (ordinal : Snippet ρ) : (literalAt l ref literal? ordinal).references = ordinal.references := by
  cases l <;> simp [literalAt]

variable {c : Column} {l : Language} {x code : Snippet ρ} {r : ρ}

theorem references_valueOf? {type : ColumnType} (h : valueOf? x type = some code) :
    code.references = x.references := by
  unfold valueOf? at h
  split at h <;> cases h <;> simp

theorem references_cursorOf? {type : ColumnType} (h : cursorOf? l x type = some code) :
    code.references = x.references := by
  unfold cursorOf? at h
  cases l <;> split at h <;> cases h <;> simp

theorem mem_references_date? {d : DateLibrary} {f : Field} {long test text : Snippet ρ}
    (h : date? d l f long test text = some code) (hr : r ∈ code.references) :
    r ∈ long.references ∨ r ∈ test.references ∨ r ∈ text.references := by
  unfold date? at h
  split at h
  · split at h
    · cases h
      rw [references_dateOfMillis] at hr
      exact .inl hr
    · cases h
      rw [references_guarded, references_dateOfMillis, List.mem_append] at hr
      tauto
  · obtain ⟨function, -, rfl⟩ := Option.map_eq_some_iff.1 h
    refine .inr (.inr ?_)
    revert hr
    cases l <;> cases f.notNull <;> simp

theorem mem_references_plainValue {type : ColumnType} {nullable : Bool}
    (hr : r ∈ (plainValue l type nullable x).references) : r ∈ x.references := by
  unfold plainValue at hr
  split at hr
  all_goals simpa [references_guarded] using hr

/-- What is read out of content values refers to nothing but the name of the column. -/
theorem mem_references_fromValues? (h : fromValues? l c x = some code)
    (hr : r ∈ code.references) : r ∈ x.references := by
  unfold fromValues? at h
  split at h
  · split at h <;> cases h <;> simpa [references_literalAt] using hr
  · simpa using mem_references_date? h hr
  · obtain ⟨value, hvalue, rfl⟩ := Option.map_eq_some_iff.1 h
    rw [← references_valueOf? hvalue]
    exact mem_references_plainValue hr

/-- What is read out of a cursor refers to nothing but the name of the column. -/
theorem mem_references_fromCursor? (h : fromCursor? l c x = some code)
    (hr : r ∈ code.references) : r ∈ x.references := by
  unfold fromCursor? at h
  dsimp only at h
  split at h
  · cases h
    simpa [references_literalAt] using hr
  · simpa using mem_references_date? h hr
  · obtain ⟨value, hvalue, rfl⟩ := Option.map_eq_some_iff.1 h
    have hread := references_cursorOf? hvalue
    split at hr
    · simpa [references_guarded, hread] using hr
    · simpa [hread] using hr

/-- The mark refers to nothing. -/
theorem mem_references_orMark {code? : Option (Snippet ρ)} (hr : r ∈ (orMark c code?).references)
    (h : ∀ code, code? = some code → r ∈ code.references → r ∈ x.references) :
    r ∈ x.references := by
  cases code? with
  | none => simp [orMark] at hr
  | some code => exact h code rfl hr

end Reading

end Expression

end SchemaForge
