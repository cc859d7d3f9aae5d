import SchemaForge.Text.Ascii
import SchemaForge.Text.Blank

namespace SchemaForge

/-! # Column types

The data types a column may declare, their storage class in SQLite, and the types of the Kotlin and
Java properties that hold their values.
-/

/-- The storage classes of SQLite. -/
inductive Affinity where
  | integer
  | real
  | text
  | blob
deriving DecidableEq, Repr

/-- The name of a storage class in SQL. -/
def Affinity.name : Affinity → String
  | .integer => "INTEGER"
  | .real => "REAL"
  | .text => "TEXT"
  | .blob => "BLOB"

/-- The declared data type of a column. -/
inductive ColumnType where
  | boolean
  | bit
  | tinyint
  | smallint
  | integer
  | bigint
  | real
  | float
  | double
  | decimal
  | numeric
  | char
  | varchar
  | longvarchar
  | clob
  | date
  | datetime
  | time
  | timestamp
  | blob
  | bigDecimal
  | bigInteger
  | javaObject
  | money
  | fraction
  | unknown
deriving DecidableEq, Repr, Inhabited

namespace ColumnType

/-- All column types, in the order in which a name is looked up. -/
def all : List ColumnType :=
  [boolean, bit, tinyint, smallint, integer, bigint, real, float, double, decimal, numeric, char,
    varchar, longvarchar, clob, date, datetime, time, timestamp, blob, bigDecimal, bigInteger,
    javaObject, money, fraction, unknown]

/-- The name of a type in a schema document. -/
def name : ColumnType → String
  | boolean => "BOOLEAN"
  | bit => "BIT"
  | tinyint => "TINYINT"
  | smallint => "SMALLINT"
  | integer => "INTEGER"
  | bigint => "BIGINT"
  | real => "REAL"
  | float => "FLOAT"
  | double => "DOUBLE"
  | decimal => "DECIMAL"
  | numeric => "NUMERIC"
  | char => "CHAR"
  | varchar => "VARCHAR"
  | longvarchar => "LONGVARCHAR"
  | clob => "CLOB"
  | date => "DATE"
  | datetime => "DATETIME"
  | time => "TIME"
  | timestamp => "TIMESTAMP"
  | blob => "BLOB"
  | bigDecimal => "BIGDECIMAL"
  | bigInteger => "BIGINTEGER"
  | javaObject => "JAVA_OBJECT"
  | money => "MONEY"
  | fraction => "FRACTION"
  | unknown => "UNKNOWN"

/-- The type with exactly this name. -/
def ofName? (s : String) : Option ColumnType :=
  all.find? (·.name == s)

/-- The type that a text names, in any case and with blanks around it. -/
def ofText? (s : String) : Option ColumnType :=
  ofName? (Text.upperAscii (Text.trim s))

/-- Numbers. A `TINYINT` is one, although its property is a boolean. -/
def isNumber : ColumnType → Bool
  | tinyint | smallint | integer | bigint | real | float | double | decimal | numeric
  | bigDecimal | bigInteger => true
  | _ => false

/-- Dates and times. -/
def isDate : ColumnType → Bool
  | date | datetime | time | timestamp => true
  | _ => false

/-- Types that SQL treats as truth values. -/
def isBoolean : ColumnType → Bool
  | boolean | bit => true
  | _ => false

/-- Types of characters and texts. -/
def isText : ColumnType → Bool
  | char | varchar | longvarchar | clob => true
  | _ => false

/-- Types whose property has a primitive type. -/
def isPrimitive : ColumnType → Bool
  | boolean | bit | tinyint | smallint | integer | bigint | real | float | double | decimal
  | numeric | char => true
  | _ => false

/-- The storage class of a column of this type. -/
def affinity : ColumnType → Affinity
  | boolean | bit | tinyint | smallint | integer | bigint | bigInteger | timestamp => .integer
  | real | float | double | decimal | numeric | bigDecimal | money | fraction => .real
  | blob | javaObject => .blob
  | char | varchar | longvarchar | clob | date | datetime | time | unknown => .text

/-- The Kotlin type of a property that is never null. -/
def kotlinType : ColumnType → String
  | boolean | bit | tinyint => "Boolean"
  | smallint | integer => "Int"
  | bigint => "Long"
  | real | float | decimal | numeric => "Float"
  | double => "Double"
  | char => "Char"
  | varchar | longvarchar | clob => "String"
  | date | datetime | time | timestamp => "java.util.Date"
  | blob => "ByteArray"
  | bigDecimal => "java.math.BigDecimal"
  | bigInteger => "java.math.BigInteger"
  | javaObject | money | fraction | unknown => "Any"

/-- The Java type of a property; one that may be null has the class in place of a primitive
type. -/
def javaType (nullable : Bool) : ColumnType → String
  | boolean | bit | tinyint => if nullable then "Boolean" else "boolean"
  | smallint | integer => if nullable then "Integer" else "int"
  | bigint => if nullable then "Long" else "long"
  | real | float | decimal | numeric => if nullable then "Float" else "float"
  | double => if nullable then "Double" else "double"
  | char => if nullable then "Character" else "char"
  | varchar | longvarchar | clob => "String"
  | date | datetime | time | timestamp => "java.util.Date"
  | blob => "byte[]"
  | bigDecimal => "java.math.BigDecimal"
  | bigInteger => "java.math.BigInteger"
  | javaObject | money | fraction | unknown => "Object"

theorem mem_all (t : ColumnType) : t ∈ all := by
  cases t <;> decide

end ColumnType

end SchemaForge
