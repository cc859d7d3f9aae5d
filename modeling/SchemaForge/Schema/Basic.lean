import SchemaForge.Naming
import SchemaForge.Schema.ColumnType

namespace SchemaForge

/-! # Schemas

A schema holds databases, a database holds tables, views and queries, and each of these, an entity,
holds fields. Names are texts as the document gives them; what is derived from them, such as the
name of a class or of a variable, is computed here.
-/

/-- What a foreign key does to the generated record. Only `enumeration` changes it: the column
holds the ordinal of an enumeration. -/
inductive ForeignKeyKind where
  | ignore
  | oneToOne
  | manyToOne
  | oneToMany
  | enumeration
deriving DecidableEq, Repr, Inhabited

namespace ForeignKeyKind

/-- The word for a kind in a schema document. -/
def word : ForeignKeyKind → String
  | ignore => "IGNORE"
  | oneToOne => "ONETOONE"
  | manyToOne => "MANYTOONE"
  | oneToMany => "ONETOMANY"
  | enumeration => "ENUM"

/-- All kinds. -/
def all : List ForeignKeyKind :=
  [ignore, oneToOne, manyToOne, oneToMany, enumeration]

/-- The kind that a text names, in any case and with blanks around it. -/
def ofText? (s : String) : Option ForeignKeyKind :=
  all.find? (·.word == Text.upperAscii (Text.trim s))

end ForeignKeyKind

/-- A column. -/
structure Field where
  name : String
  type : ColumnType
  givenVariable? : Option String := none
  size? : Option UInt32 := none
  decimals? : Option UInt32 := none
  /-- Whether the column refuses nulls, after the defaults of entity and database. -/
  notNull : Bool := false
  defaultText : String := ""
  primaryKey : Bool := false
  increment : Bool := false
  unique : Bool := false
  indexed : Bool := false
  foreignTable? : Option String := none
  foreignField? : Option String := none
  foreignKind : ForeignKeyKind := .ignore
  enumClass? : Option String := none
  enumDefault? : Option String := none
  /-- The literals of the column's own enumeration, separated by commas. -/
  enumerations : String := ""
deriving DecidableEq, Repr, Inhabited

namespace Field

/-- The variable that holds the column: the declared one, or one named after the column. -/
def variableName (f : Field) : String :=
  (Text.filled? f.givenVariable?).getD (Naming.variableName f.name)

/-- The constant of the column, without the `C_` in front of it. -/
def constantName (f : Field) : String :=
  Naming.constantName f.variableName

/-- Whether the column refers to a table. -/
def isForeignKey (f : Field) : Bool :=
  (Text.filled? f.foreignTable?).isSome

/-- Whether the column is declared to hold ordinals of an enumeration table. -/
def refersToEnumeration (f : Field) : Bool :=
  f.foreignKind == .enumeration

/-- A numeric column whose value is the ordinal of an enumeration. -/
def isEnumeration (f : Field) : Bool :=
  (!Text.isBlank f.enumerations || f.refersToEnumeration || (Text.filled? f.enumClass?).isSome)
    && f.type.isNumber

/-- Whether the declared default is a value: it is neither blank nor `NULL`. -/
def hasDefault (f : Field) : Bool :=
  !Text.isBlank f.defaultText && !Text.sameName (Text.trim f.defaultText) "null"

/-- The literals of the column's own enumeration, in order. -/
def enumValues (f : Field) : List String :=
  ((Text.splitOn ',' f.enumerations).map fun item => Text.removeChar ' ' (Text.trim item)).filter
    (· ≠ "")

end Field

/-- The kinds of entities. -/
inductive EntityKind where
  | table
  | view
  | query
deriving DecidableEq, Repr, Inhabited

/-- The word for a kind, which is also the name of its element in a document. -/
def EntityKind.word : EntityKind → String
  | .table => "table"
  | .view => "view"
  | .query => "query"

/-- A literal of an enumeration table and the text shown for it. -/
structure EnumItem where
  name : String
  value : String
deriving DecidableEq, Repr

/-- A table, view or query. -/
structure Entity where
  kind : EntityKind
  name : String
  class? : Option String := none
  /-- The literals of an enumeration table: `A,B` or `A=First,B=Second`. -/
  enumerations : String := ""
  readOnly : Bool := false
  fieldsNotNull? : Option Bool := none
  /-- Groups of columns that are unique together. -/
  uniqueGroups : List (List String) := []
  fields : List Field := []
deriving DecidableEq, Repr, Inhabited

namespace Entity

/-- The class of the entity's records: the declared one, or one named after the entity. -/
def className (e : Entity) : String :=
  (Text.filled? e.class?).getD (Naming.className e.name)

/-- Whether the entity is a table. -/
def isTable (e : Entity) : Bool :=
  e.kind == .table

/-- A table whose rows are the literals of an enumeration. -/
def isEnumeration (e : Entity) : Bool :=
  e.isTable && !Text.isBlank e.enumerations

/-- Whether records are never written: views and queries, and tables declared so. -/
def isReadOnly (e : Entity) : Bool :=
  e.readOnly || !e.isTable

/-- The first field that is a primary key. -/
def key? (e : Entity) : Option Field :=
  e.fields.find? (·.primaryKey)

/-- The fields that refer to a table. -/
def foreignKeys (e : Entity) : List Field :=
  e.fields.filter (·.isForeignKey)

/-- A literal given without a text: its words are shown. -/
def bareItem (name : List Char) : EnumItem :=
  let literal := Text.removeChar ' ' (String.ofList (Chars.trim name))
  ⟨literal, Naming.displayName literal⟩

/-- The literal written by one piece of an enumeration, `NAME` or `NAME=text`. -/
def enumItem (piece : List Char) : EnumItem :=
  match Chars.splitOnce? '=' piece with
  | none => bareItem piece
  | some (name, text) =>
    if text.all Chars.isSpace then bareItem name
    else ⟨Text.removeChar ' ' (String.ofList (Chars.trim name)), String.ofList (Chars.trim text)⟩

/-- The literals of an enumeration table, in order. -/
def enumItems (e : Entity) : List EnumItem :=
  (((Chars.splitOn ',' e.enumerations.toList).map Chars.trim).filter (!·.isEmpty)).map enumItem

end Entity

/-- A database. -/
structure Database where
  name : String
  fieldsNotNull? : Option Bool := none
  tables : List Entity := []
  views : List Entity := []
  queries : List Entity := []
deriving DecidableEq, Repr, Inhabited

namespace Database

/-- All entities, in the order in which sources are generated for them. -/
def entities (d : Database) : List Entity :=
  d.tables ++ d.views ++ d.queries

/-- The first table with this name. -/
def table? (d : Database) (name : String) : Option Entity :=
  d.tables.find? (Text.sameName ·.name name)

/-- The tables whose rows are literals. -/
def enumerationTables (d : Database) : List Entity :=
  d.tables.filter (·.isEnumeration)

end Database

/-- A schema. -/
structure Schema where
  databases : List Database := []
deriving DecidableEq, Repr, Inhabited

/-- The first database with this name. -/
def Schema.database? (s : Schema) (name : String) : Option Database :=
  s.databases.find? (Text.sameName ·.name name)

end SchemaForge
