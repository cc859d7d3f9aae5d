import SchemaForge.Language
import SchemaForge.Schema.Basic

namespace SchemaForge

/-! # Date libraries

How columns of dates and times are represented in generated records. A `TIMESTAMP` is stored as a
number of milliseconds and every other date as a text, which the formatter of the library writes and
reads. Only the library of local dates has a type for a time without a date.
-/

/-- The libraries whose types may hold dates. -/
inductive DateLibrary where
  /-- The dates of the standard library, which can be changed after they are made. -/
  | standard
  | joda
  /-- Local dates and times, each a type of its own. -/
  | threeTen
deriving DecidableEq, Repr, Inhabited

/-- An expression that reads a value, with the test that has to hold for there to be one. -/
structure Reading where
  value : String
  /-- The value is null unless this expression holds. -/
  test? : Option String := none
deriving DecidableEq, Repr

/-- The text of a reading. -/
def Reading.render (l : Language) (r : Reading) : String :=
  match r.test?, l with
  | none, _ => r.value
  | some test, .kotlin => "if (" ++ test ++ ") " ++ r.value ++ " else null"
  | some test, .java => test ++ " ? " ++ r.value ++ " : null"

namespace DateLibrary

/-- The name of a library in options. -/
def name : DateLibrary → String
  | standard => "JAVA_DATE"
  | joda => "JODA"
  | threeTen => "JSR_310"

/-- All libraries. -/
def all : List DateLibrary :=
  [standard, joda, threeTen]

/-- The library with exactly this name. -/
def ofName? (s : String) : Option DateLibrary :=
  all.find? (·.name == s)

/-- The library that a text names, in any case, with hyphens or underscores and with blanks around
it. -/
def ofText? (s : String) : Option DateLibrary :=
  match Text.replaceChar '-' "_" (Text.upperAscii (Text.trim s)) with
  | "JSR310" => some threeTen
  | text => ofName? text

/-- Whether a date can be changed after it is made, so that a record must not share it. -/
def isMutable : DateLibrary → Bool
  | standard => true
  | joda | threeTen => false

/-- Whether the library has a type for the column type. -/
def supports (d : DateLibrary) (type : ColumnType) : Bool :=
  type != .time || d == .threeTen

/-- The type of a property for a column type. -/
def typeName (d : DateLibrary) (type : ColumnType) : String :=
  match d with
  | standard => "java.util.Date"
  | joda => "org.joda.time.DateTime"
  | threeTen =>
    match type with
    | .date => "org.threeten.bp.LocalDate"
    | .time => "org.threeten.bp.LocalTime"
    | _ => "org.threeten.bp.LocalDateTime"

/-- The class that writes and reads the stored form. -/
def formatter : DateLibrary → String
  | standard => "org.dbtools.android.domain.date.DBToolsDateFormatter"
  | joda => "org.dbtools.android.domain.date.DBToolsJodaFormatter"
  | threeTen => "org.dbtools.android.domain.date.DBToolsThreeTenFormatter"

/-- The word for the type in the names of the formatter's functions. -/
def word (d : DateLibrary) (type : ColumnType) : String :=
  match d with
  | standard => "Date"
  | joda => "DateTime"
  | threeTen =>
    match type with
    | .date => "LocalDate"
    | .time => "LocalTime"
    | _ => "LocalDateTime"

/-- The word for the type at the beginning of a function's name. -/
def lowerName (d : DateLibrary) (type : ColumnType) : String :=
  match d with
  | standard => "date"
  | joda => "dateTime"
  | threeTen =>
    match type with
    | .date => "localDate"
    | .time => "localTime"
    | _ => "localDateTime"

/-- The current date, the value of a property that must have one. -/
def now (d : DateLibrary) (l : Language) (type : ColumnType) : String :=
  match d, l with
  | standard, .kotlin => "java.util.Date()"
  | standard, .java => "new java.util.Date()"
  | _, _ => d.typeName type ++ ".now()"

/-- The stored form of a variable; none for a type without support. -/
def store? (d : DateLibrary) (type : ColumnType) (variableName : String) : Option String :=
  if d.supports type then
    some (d.formatter ++ "." ++ d.lowerName type
      ++ (if type = .timestamp then "ToLong" else "ToDBString") ++ "(" ++ variableName ++ ")")
  else none

/-- The date that a stored text denotes; none for a type without support. -/
def ofText (d : DateLibrary) (type : ColumnType) (text : String) : Option String :=
  if d.supports type then
    some (d.formatter ++ ".dbStringTo" ++ d.word type ++ "(" ++ text ++ ")")
  else none

/-- The date that a number of milliseconds denotes. -/
def ofLong (d : DateLibrary) (l : Language) (long : String) : String :=
  match d, l with
  | standard, .kotlin => "java.util.Date(" ++ long ++ "!!)"
  | standard, .java => "new java.util.Date(" ++ long ++ ")"
  | d, .kotlin => d.formatter ++ ".longTo" ++ d.word .timestamp ++ "(" ++ long ++ ")!!"
  | d, .java => d.formatter ++ ".longTo" ++ d.word .timestamp ++ "(" ++ long ++ ")"

/-- Reads a date from an expression for its number or one for its text, where `test` tells whether
there is a number. -/
def read? (d : DateLibrary) (l : Language) (f : Field) (long test text : String) :
    Option Reading :=
  if f.type = .timestamp then
    some ⟨d.ofLong l long, if f.notNull then none else some test⟩
  else
    (d.ofText f.type text).map fun value =>
      ⟨if f.notNull && l == .kotlin then value ++ "!!" else value, none⟩

/-- Reads the column that a constant names out of content values. -/
def fromValues? (d : DateLibrary) (l : Language) (f : Field) (column : String) : Option Reading :=
  let long := "values.getAsLong(" ++ column ++ ")"
  d.read? l f long (long ++ " != null") ("values.getAsString(" ++ column ++ ")")

/-- Reads the column that a constant names out of a cursor. -/
def fromCursor? (d : DateLibrary) (l : Language) (f : Field) (column : String) : Option Reading :=
  let index := "cursor.getColumnIndexOrThrow(" ++ column ++ ")"
  d.read? l f ("cursor.getLong(" ++ index ++ ")") ("!cursor.isNull(" ++ index ++ ")")
    ("cursor.getString(" ++ index ++ ")")

/-- The value that a copy of a record gets in Kotlin. -/
def copy (d : DateLibrary) (variableName : String) (notNull : Bool) : String :=
  if !d.isMutable then variableName
  else if notNull then "java.util.Date(" ++ variableName ++ ".time)"
  else variableName ++ "?.let \x7b java.util.Date(it.time) \x7d"

end DateLibrary

end SchemaForge
