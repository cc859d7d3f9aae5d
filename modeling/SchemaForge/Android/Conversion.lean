import SchemaForge.Android.Binding
import SchemaForge.Android.Column

namespace SchemaForge

/-! # Conversions

The expressions that carry the value of a column between its property, the parameters of statements,
content values and cursors. A conversion that no rule covers leaves a mark in the source.
-/

/-! ## Storing -/

/-- How a plain value becomes a database value. -/
inductive Storing where
  | asIs
  /-- A truth value is stored as one or zero. -/
  | truth
  | call (method : String)
  /-- A character is stored as a text. -/
  | textOf
deriving DecidableEq, Repr

/-- How values of a type are stored; none for a type without a rule. -/
def ColumnType.storing? (l : Language) : ColumnType → Option Storing
  | boolean | bit | tinyint => some .truth
  | bigint | double | varchar | longvarchar | clob | blob => some .asIs
  | smallint | integer =>
    match l with
    | .kotlin => some (.call "toLong")
    | .java => some .asIs
  | real | float | decimal | numeric =>
    match l with
    | .kotlin => some (.call "toDouble")
    | .java => some .asIs
  | char =>
    match l with
    | .kotlin => some (.call "toString")
    | .java => some .textOf
  | bigDecimal =>
    match l with
    | .kotlin => some (.call "toDouble")
    | .java => some (.call "doubleValue")
  | bigInteger =>
    match l with
    | .kotlin => some (.call "toLong")
    | .java => some (.call "longValue")
  | date | datetime | time | timestamp | javaObject | money | fraction | unknown => none

namespace Storing

/-- The database value of an operand that is not null. -/
def write (l : Language) (operand : String) : Storing → String
  | asIs => operand
  | truth =>
    match l with
    | .kotlin => "if (" ++ operand ++ ") 1L else 0L"
    | .java => operand ++ " ? 1 : 0"
  | call method => operand ++ "." ++ method ++ "()"
  | textOf => "String.valueOf(" ++ operand ++ ")"

/-- The database value of a Kotlin operand, which is null when the operand is. -/
def writeSafe (operand : String) : Storing → String
  | truth => operand ++ "?.let \x7b if (it) 1L else 0L \x7d"
  | call method => operand ++ "?." ++ method ++ "()"
  | asIs | textOf => operand

end Storing

namespace Column

/-- The database value where the property is known not to be null. -/
def knownValue? (l : Language) (c : Column) : Option String :=
  match c.content, l with
  | .enumeration _ _, .kotlin => some (c.variableName ++ ".ordinal.toLong()")
  | .enumeration _ _, .java => some (c.variableName ++ ".ordinal()")
  | .date library, .kotlin => (library.store? c.field.type c.variableName).map (· ++ "!!")
  | .date library, .java => library.store? c.field.type c.variableName
  | .plain, .kotlin =>
    let operand := if c.isNullable then c.variableName ++ "!!" else c.variableName
    (c.field.type.storing? .kotlin).map (·.write .kotlin operand)
  | .plain, .java => (c.field.type.storing? .java).map (·.write .java c.variableName)

/-- The database value, which is null when the property is. -/
def storedValue? (l : Language) (c : Column) : Option String :=
  match l, c.content with
  | .kotlin, .date library => library.store? c.field.type c.variableName
  | .kotlin, .plain =>
    if c.isNullable then (c.field.type.storing? .kotlin).map (·.writeSafe c.variableName)
    else c.knownValue? .kotlin
  | .kotlin, .enumeration _ _ => c.knownValue? .kotlin
  | .java, _ =>
    (c.knownValue? .java).map fun value =>
      if c.isNullable && value != c.variableName then
        Reading.render .java ⟨value, some (c.variableName ++ " != null")⟩
      else value

/-- The expression for the database value. -/
def storedValue (l : Language) (c : Column) : String :=
  (c.storedValue? l).getD (unhandled c.field.type)

/-! ## Binding -/

/-- The method that binds a value of the column. -/
def bindMethod? (c : Column) : Option String :=
  match c.content with
  | .enumeration _ _ => some "bindLong"
  | _ => c.field.type.bindMethod?

/-- What binds the column to the parameter with this number. -/
def binding (l : Language) (index : Nat) (c : Column) : Binding :=
  match c.bindMethod?, l, c.knownValue? l with
  | none, _, _ => .unhandled c.field.type
  | some _, .java, none => .unhandled c.field.type
  | some method, _, value? =>
    let value := value?.getD (unhandled c.field.type)
    if c.isNullable then .nullable c.variableName method index value
    else .value method index value

end Column

/-! ## Reading -/

/-- The method of content values that gives a value of a type; none for a type without a rule. -/
def ColumnType.valuesGetter? : ColumnType → Option String
  | boolean | bit | tinyint => some "getAsBoolean"
  | smallint | integer => some "getAsInteger"
  | bigint => some "getAsLong"
  | real | float | decimal | numeric => some "getAsFloat"
  | double => some "getAsDouble"
  | char | varchar | longvarchar | clob => some "getAsString"
  | blob => some "getAsByteArray"
  | _ => none

/-- The method of a cursor that gives a value of a type; none for a type without a rule. -/
def ColumnType.cursorGetter? : ColumnType → Option String
  | boolean | bit | tinyint | smallint | integer => some "getInt"
  | bigint => some "getLong"
  | real | float | decimal | numeric => some "getFloat"
  | double => some "getDouble"
  | char | varchar | longvarchar | clob => some "getString"
  | blob => some "getBlob"
  | _ => none

namespace Column

/-- The first character of a text. -/
def firstCharacter (l : Language) (text : String) : String :=
  match l with
  | .kotlin => text ++ "[0]"
  | .java => text ++ ".charAt(0)"

/-- The literal that has a stored ordinal. -/
def literalAt (l : Language) (c : Column) (className ordinal : String) : String :=
  match l with
  | .kotlin => className ++ ".values()[" ++ ordinal ++ "]"
  | .java =>
    "org.dbtools.android.domain.util.EnumUtil.ordinalToEnum(" ++ className ++ ".class, " ++ ordinal
      ++ ", " ++ c.initial .java ++ ")"

/-- What content values give for a plain column, from the expression that gets it. -/
def plainFromValues (l : Language) (c : Column) (value : String) : Reading :=
  match l, c.field.type, c.isNullable with
  | .kotlin, .char, true => ⟨value ++ "?.firstOrNull()", none⟩
  | .kotlin, .char, false => ⟨firstCharacter .kotlin (value ++ "!!"), none⟩
  | .kotlin, _, true => ⟨value, none⟩
  | .kotlin, _, false => ⟨value ++ "!!", none⟩
  | .java, .char, true => ⟨firstCharacter .java value, some (value ++ " != null")⟩
  | .java, .char, false => ⟨firstCharacter .java value, none⟩
  | .java, _, _ => ⟨value, none⟩

/-- Reads the column that a constant names out of content values. -/
def fromValues? (l : Language) (constant : String) (c : Column) : Option Reading :=
  match c.content with
  | .enumeration ref _ =>
    let ordinal := "values.getAsInteger(" ++ constant ++ ")"
    let sure := match l with
      | .kotlin => "!!"
      | .java => ""
    some ⟨c.literalAt l ref.className (ordinal ++ sure), none⟩
  | .date library => library.fromValues? l c.field constant
  | .plain =>
    c.field.type.valuesGetter?.map fun getter =>
      c.plainFromValues l ("values." ++ getter ++ "(" ++ constant ++ ")")

/-- What a cursor gives for a plain column, from the expression that gets it. -/
def plainFromCursor (l : Language) (c : Column) (value : String) : String :=
  match c.field.type with
  | .boolean | .bit | .tinyint => value ++ " != 0"
  | .char => firstCharacter l value
  | _ => value

/-- Reads the column that a constant names out of a cursor. -/
def fromCursor? (l : Language) (constant : String) (c : Column) : Option Reading :=
  let index := "cursor.getColumnIndexOrThrow(" ++ constant ++ ")"
  match c.content with
  | .enumeration ref _ => some ⟨c.literalAt l ref.className ("cursor.getInt(" ++ index ++ ")"), none⟩
  | .date library => library.fromCursor? l c.field constant
  | .plain =>
    c.field.type.cursorGetter?.map fun getter =>
      ⟨c.plainFromCursor l ("cursor." ++ getter ++ "(" ++ index ++ ")"),
        if c.isNullable then some ("!cursor.isNull(" ++ index ++ ")") else none⟩

/-- The text of a reading, or the mark of a column that cannot be read. -/
def readText (l : Language) (c : Column) (reading? : Option Reading) : String :=
  match reading? with
  | some reading => reading.render l
  | none => unhandled c.field.type

/-- The expression that reads the column out of content values. -/
def fromValues (l : Language) (constant : String) (c : Column) : String :=
  c.readText l (c.fromValues? l constant)

/-- The expression that reads the column out of a cursor. -/
def fromCursor (l : Language) (constant : String) (c : Column) : String :=
  c.readText l (c.fromCursor? l constant)

/-- The value that a copy of a record gets in Kotlin. -/
def copied (c : Column) : String :=
  match c.content with
  | .date library => library.copy c.variableName (!c.isNullable)
  | _ => c.variableName

end Column

end SchemaForge
