import SchemaForge.Language
import SchemaForge.Schema.ColumnType

namespace SchemaForge

/-! # Bound parameters

How a value is bound to a parameter of a prepared statement. Column types that no rule covers leave
a mark in the generated source.
-/

/-- The mark that stands where no rule covers a column type. -/
def unhandled (type : ColumnType) : String :=
  "[[UNHANDLED FIELD TYPE: " ++ type.name ++ "]]"

/-- The method that binds a value of this type, if there is one. -/
def ColumnType.bindMethod? : ColumnType → Option String
  | boolean | bit | tinyint | smallint | integer | bigint | bigInteger | timestamp =>
    some "bindLong"
  | real | float | double | decimal | numeric | bigDecimal => some "bindDouble"
  | char | varchar | longvarchar | clob | datetime | date | time => some "bindString"
  | blob => some "bindBlob"
  | javaObject | money | fraction | unknown => none

/-- A call that binds a parameter of a statement. -/
structure BindCall where
  method : String
  /-- The number of the parameter, counted from one. -/
  index : Nat
  /-- The bound value; none for null. -/
  value? : Option String := none
deriving DecidableEq, Repr

namespace BindCall

/-- The call that binds null. -/
def null (index : Nat) : BindCall :=
  { method := "bindNull", index }

/-- The text of a call, as a statement. -/
def render (l : Language) (c : BindCall) : String :=
  let value := match c.value? with
    | some v => ", " ++ v
    | none => ""
  l.line ("statement." ++ c.method ++ "(" ++ toString c.index ++ value ++ ")")

end BindCall

/-- What a generated source does to bind the parameter with number `index`, counted from one. -/
inductive Binding where
  /-- No rule covers the type. -/
  | unhandled (type : ColumnType)
  /-- Binds a value that is never null. -/
  | value (method : String) (index : Nat) (value : String)
  /-- Binds a value, or null when the variable is null. -/
  | nullable (name method : String) (index : Nat) (value : String)
deriving DecidableEq, Repr

namespace Binding

/-- The text of a binding. -/
def render (l : Language) : Binding → String
  | unhandled type => SchemaForge.unhandled type ++ "\n"
  | value method index v => (BindCall.mk method index (some v)).render l
  | nullable name method index v =>
    "if (" ++ name ++ " != null) \x7b\n\t" ++ (BindCall.mk method index (some v)).render l
      ++ "\x7d else \x7b\n\t" ++ (BindCall.null index).render l ++ "\x7d\n"

end Binding

end SchemaForge
