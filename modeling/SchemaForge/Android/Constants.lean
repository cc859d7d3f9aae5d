import SchemaForge.Android.Library
import SchemaForge.Android.Property
import SchemaForge.Android.Resolved
import SchemaForge.Sql.Ddl

namespace SchemaForge

/-! # Constants of an entity

The class of an entity's constants: the names of the table and its columns, the statements, and for
every column a function that reads it out of a cursor. Both languages declare the same constants.
-/

/-- What a constant holds. -/
inductive ConstantValue where
  | text (s : String)
  /-- A statement of several lines. -/
  | script (s : String)
  /-- The values of other constants. -/
  | list (constants : List String)
deriving DecidableEq, Repr

/-- A constant. -/
structure Constant where
  name : String
  value : ConstantValue
deriving DecidableEq, Repr

namespace Constant

/-- A script as constants hold it. -/
def scriptText (s : String) : String :=
  Text.trimEnd (Text.removeChar '\t' s)

/-- The declaration of a constant in Kotlin. -/
def kotlin (c : Constant) : KotlinProperty :=
  match c.value with
  | .text s => .constant c.name (Literal.quote .kotlin s)
  | .script s => .constant c.name (Literal.quote .kotlin (scriptText s))
  | .list constants =>
    { name := c.name, type := "Array<String>", value := "arrayOf(" ++ ", ".intercalate constants ++ ")" }

/-- The declaration of a constant in Java, where a script has a literal for each of its lines. -/
def java (c : Constant) : JavaVariable :=
  match c.value with
  | .text s => .constant c.name "String" (Literal.quote .java s)
  | .script s =>
    .constant c.name "String"
      (" + \"\\n\" +\n\t\t".intercalate ((Text.lines (scriptText s)).map (Literal.quote .java)))
  | .list constants =>
    .constant c.name "String[]"
      ("new String[]\x7b\n" ++ ",\n".intercalate (constants.map ("\t" ++ ·)) ++ "\x7d")

end Constant

namespace Resolved

/-! ## Declarations -/

/-- The constants with the names of the table. A query has no name in the database. -/
def tableConstants (r : Resolved) : List Constant :=
  if r.entity.kind = .query then []
  else [⟨"TABLE", .text r.entity.name⟩, ⟨"FULL_TABLE", .text (r.database.name ++ "." ++ r.entity.name)⟩]

/-- The constant with the name of the key column. -/
def keyConstants (r : Resolved) : List Constant :=
  match r.key? with
  | some key => [⟨"PRIMARY_KEY_COLUMN", .text key.field.name⟩]
  | none => []

/-- The constants with the names of the columns. -/
def columnConstants (r : Resolved) : List Constant :=
  r.columns.flatMap fun c =>
    [⟨c.constant, .text c.field.name⟩,
      ⟨c.fullConstant, .text (r.entity.name ++ "." ++ c.field.name)⟩]

/-- The constants with the statements of a table. -/
def statementConstants (r : Resolved) : List Constant :=
  if r.entity.isTable then
    [⟨"CREATE_TABLE", .script (Sql.createTable r.entity)⟩,
      ⟨"DROP_TABLE", .text (Sql.dropTable r.entity)⟩,
      ⟨"INSERT_STATEMENT", .text r.insertStatement⟩,
      ⟨"UPDATE_STATEMENT", .text r.updateStatement⟩]
  else []

/-- All constants, in order. -/
def constants (r : Resolved) : List Constant :=
  [⟨"DATABASE", .text r.database.name⟩] ++ r.tableConstants ++ r.keyConstants ++ r.columnConstants
    ++ r.statementConstants
    ++ [⟨"ALL_COLUMNS", .list (r.columns.map (·.constant))⟩,
      ⟨"ALL_COLUMNS_FULL", .list (r.columns.map (·.fullConstant))⟩]

/-- The columns as the constants class names them; it reads none for an enumeration table. -/
def readColumns (r : Resolved) : List Column :=
  if r.entity.isEnumeration then [] else r.columns.map (·.qualified r.baseRecordName)

/-- The imports of the constants class. -/
def constantsImports (r : Resolved) : List String :=
  if r.entity.isEnumeration then [] else Code.imports (Library.cursor :: r.enumImports)

/-! ## Classes -/

/-- The Kotlin function that reads a column out of a cursor. -/
def kotlinReader (c : Column) : KotlinFunction :=
  { name := c.kotlinProperty.getterName, result := c.typeName .kotlin
    parameters := [.parameter "cursor" "Cursor"]
    content := "return " ++ c.fromCursor .kotlin c.constant }

/-- The Java method that reads a column out of a cursor. -/
def javaReader (c : Column) : JavaMethod :=
  { name := (c.javaVariable false).getterName, result := c.typeName .java, isStatic := true
    parameters := [{ name := "cursor", type := "Cursor" }]
    content := "return " ++ c.fromCursor .java c.constant ++ ";" }

/-- The object of the constants in Kotlin. -/
def kotlinConstants (r : Resolved) : KotlinClass :=
  { name := r.constantsName, package := r.package, kind := .object
    fileHeader := generatedHeader (r.constantsName ++ ".kt")
    annotations := [Library.quiet], imports := r.constantsImports
    constants := r.constants.map (·.kotlin), functions := r.readColumns.map kotlinReader }

/-- The class of the constants in Java. -/
def javaConstants (r : Resolved) : JavaClass :=
  { name := r.constantsName, package := r.package
    fileHeader := generatedHeader (r.constantsName ++ ".java")
    annotations := [Library.quiet], imports := r.constantsImports
    constants := r.constants.map (·.java), methods := r.readColumns.map javaReader }

end Resolved

end SchemaForge
