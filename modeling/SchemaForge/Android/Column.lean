import SchemaForge.Android.Scope
import SchemaForge.Literal.Default

namespace SchemaForge

/-! # Columns

A field, resolved against its entity and the options: whether its property holds a literal of an
enumeration, a date or a plain value. Only the resolution can fail, when a field is to hold a
literal and no enumeration is found for it.
-/

/-- Where an enumeration is declared. -/
inductive EnumOrigin where
  /-- In the base record, with these literals. -/
  | nested (literals : List String)
  /-- By an enumeration table, under this full name. -/
  | imported (fullName : String)
  /-- Outside the generated sources. -/
  | elsewhere
deriving DecidableEq, Repr

/-- An enumeration whose ordinals a column holds. -/
structure EnumRef where
  className : String
  origin : EnumOrigin
deriving DecidableEq, Repr

/-- What the property of a column holds. -/
inductive Content where
  /-- A literal of an enumeration; at first the given one, or else the first of its class. -/
  | enumeration (ref : EnumRef) (initial? : Option String)
  /-- A date, in the type of a library. -/
  | date (library : DateLibrary)
  | plain
deriving DecidableEq, Repr

/-- A resolved field. -/
structure Column where
  field : Field
  content : Content
deriving DecidableEq, Repr

/-! ## Resolution -/

namespace Scope

/-- The class of the literals of the table with this name. -/
def enumClassOf (s : Scope) (table : String) : String :=
  match s.database.table? table with
  | some t => t.className
  | none => Naming.className table

/-- The enumeration that a field refers to: the one of a table, whose literals the field may list
itself; else the class that the field names; else one made of the literals that it lists. -/
def enumRef (s : Scope) (f : Field) : Except Fault EnumRef :=
  if f.refersToEnumeration && f.isForeignKey then
    let name := s.enumClassOf (f.foreignTable?.getD "")
    if f.enumValues.isEmpty then .ok ⟨name, .imported (s.packageOf name ++ "." ++ name)⟩
    else .ok ⟨name, .nested f.enumValues⟩
  else
    match Text.filled? f.enumClass? with
    | some name => .ok ⟨name, .elsewhere⟩
    | none =>
      if f.enumValues.isEmpty then .error (.emptyEnumeration s.entity.name f.name)
      else .ok ⟨Naming.upperFirst f.variableName, .nested f.enumValues⟩

/-- The first literal of the table that a field refers to. -/
def firstLiteral? (s : Scope) (f : Field) : Option String := do
  let table ← s.database.table? (← f.foreignTable?)
  return (← table.enumItems.head?).name

/-- The literal that a property starts with: the one that the field declares, or the first. -/
def initialLiteral? (s : Scope) (f : Field) (origin : EnumOrigin) : Option String :=
  match Text.filled? f.enumDefault?, origin with
  | some literal, _ => some literal
  | none, .nested literals => literals.head?
  | none, _ => s.firstLiteral? f

/-- What the property of a field holds. -/
def contentOf (s : Scope) (f : Field) : Except Fault Content :=
  if f.isEnumeration then
    (s.enumRef f).map fun ref => .enumeration ref (s.initialLiteral? f ref.origin)
  else .ok (if f.type.isDate then .date s.options.dates else .plain)

/-- Resolves a field. -/
def column (s : Scope) (f : Field) : Except Fault Column :=
  (s.contentOf f).map fun content => ⟨f, content⟩

end Scope

/-! ## Properties -/

namespace Column

/-- The variable that holds the column. -/
def variableName (c : Column) : String :=
  c.field.variableName

/-- The constant that holds the name of the column. -/
def constant (c : Column) : String :=
  "C_" ++ c.field.constantName

/-- The constant that holds the name of the column with its table before it. -/
def fullConstant (c : Column) : String :=
  "FULL_" ++ c.constant

/-- Whether the column is a primary key. -/
def isKey (c : Column) : Bool :=
  c.field.primaryKey

/-- A primary key whose value the database chooses, so that it is not written. -/
def isAutomatic (c : Column) : Bool :=
  c.isKey && c.field.increment

/-- Whether the property may be null. Literals and keys never are, and a value without a type of its
own always may be. -/
def isNullable (c : Column) : Bool :=
  match c.content with
  | .enumeration _ _ => false
  | _ => (!c.field.notNull || c.field.type.kotlinType == "Any") && !c.isKey

/-- The enumeration of the column. -/
def enumRef? (c : Column) : Option EnumRef :=
  match c.content with
  | .enumeration ref _ => some ref
  | _ => none

/-- The full name of the enumeration, if it has to be imported. -/
def enumImport? (c : Column) : Option String :=
  match c.enumRef? with
  | some ⟨_, .imported fullName⟩ => some fullName
  | _ => none

/-- Name and literals of the enumeration, if the base record declares it. -/
def nestedEnum? (c : Column) : Option (String × List String) :=
  match c.enumRef? with
  | some ⟨name, .nested literals⟩ => some (name, literals)
  | _ => none

/-- The column as it is named outside the base record that declares its enumeration. -/
def qualified (owner : String) (c : Column) : Column :=
  match c.content with
  | .enumeration ⟨name, .nested literals⟩ initial? =>
    { c with content := .enumeration ⟨owner ++ "." ++ name, .nested literals⟩ initial? }
  | _ => c

/-! ## Types and first values -/

/-- The Kotlin type, without the mark of a type that may be null. -/
def kotlinType (c : Column) : String :=
  match c.content with
  | .enumeration ref _ => ref.className
  | .date library => library.typeName c.field.type
  | .plain => c.field.type.kotlinType

/-- The type of the property. -/
def typeName (l : Language) (c : Column) : String :=
  match l, c.content with
  | .kotlin, _ => if c.isNullable then c.kotlinType ++ "?" else c.kotlinType
  | .java, .plain => c.field.type.javaType c.isNullable
  | .java, _ => c.kotlinType

/-- Whether a date starts as the current date: it must not be null, or the schema asks for it. -/
def startsNow (c : Column) : Bool :=
  !c.isNullable
    || (c.field.hasDefault && Text.sameName (Text.trim c.field.defaultText) "now")

/-- The expression that the property starts with. -/
def initial (l : Language) (c : Column) : String :=
  match c.content with
  | .enumeration ref (some literal) => ref.className ++ "." ++ literal
  | .enumeration ref none => ref.className ++ ".values()[0]"
  | .date library => if c.startsNow then library.now l c.field.type else "null"
  | .plain => Literal.ofDefault l (c.typeName l) c.field.defaultText

end Column

end SchemaForge
