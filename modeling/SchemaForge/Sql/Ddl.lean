import SchemaForge.Schema.Basic
import SchemaForge.Text.Pieces

namespace SchemaForge

/-! # SQLite definitions

The statements that create and drop the tables of a database.
-/

namespace Sql

/-- A string literal: the text between apostrophes, with each of its own apostrophes doubled. -/
def literal (s : String) : String :=
  "'" ++ Text.replaceChar '\'' "''" s ++ "'"

/-- The default of a column as it stands in its definition. -/
def defaultLiteral (f : Field) : String :=
  let value := Text.trim f.defaultText
  if Text.sameName value "null" then value
  else if f.type.isBoolean then
    if Text.sameName value "true" || value == "1" then "1" else "0"
  else if f.type.isDate then
    if Text.sameName value "now" then "CURRENT_TIMESTAMP" else "'" ++ value ++ "'"
  else if f.type.isText then literal value
  else value

/-- The definition of a column. -/
def columnDefinition (f : Field) : String :=
  "\t" ++ f.name ++ " " ++ f.type.affinity.name
    ++ (if Text.isBlank f.defaultText then "" else " DEFAULT " ++ defaultLiteral f)
    ++ (if f.notNull && !f.increment then " NOT NULL" else "")
    ++ (if f.primaryKey then " PRIMARY KEY" else "")
    ++ (if f.increment then " AUTOINCREMENT" else "")

/-- The constraint that some columns are unique together. -/
def uniqueConstraint (columns : List String) : String :=
  ",\n\tUNIQUE(" ++ ", ".intercalate columns ++ ")"

/-- The constraint that a column refers to a table. -/
def foreignKeyConstraint (f : Field) : String :=
  ",\n\tFOREIGN KEY (" ++ f.name ++ ") REFERENCES " ++ f.foreignTable?.getD "" ++ " ("
    ++ f.foreignField?.getD "" ++ ")"

/-- The columns that are unique, each declared so by itself. -/
def uniqueColumns (table : Entity) : List String :=
  (table.fields.filter (·.unique)).map (·.name)

/-- The name of the index on a column. -/
def indexName (table : Entity) (f : Field) : String :=
  table.name ++ f.name ++ "_IDX"

/-- The statement that creates the index on a column. -/
def createIndex (table : Entity) (f : Field) : String :=
  "CREATE INDEX IF NOT EXISTS " ++ indexName table f ++ " ON " ++ table.name ++ " (" ++ f.name
    ++ ");\n\n"

/-- The columns of an enumeration table that hold the ordinal and the text of a literal. -/
def enumerationColumns? (table : Entity) : Option (Field × Field) := do
  if !table.isEnumeration then none
  let key ← table.key?
  let value ← table.fields.find? (·.type == .varchar)
  return (key, value)

/-- The statement that inserts a literal as a row. -/
def insertRow (table : Entity) (key value : Field) (ordinal : Nat) (item : EnumItem) : String :=
  "INSERT INTO " ++ table.name ++ " (" ++ key.name ++ ", " ++ value.name ++ ") VALUES ("
    ++ toString ordinal ++ ", " ++ literal item.value ++ ");\n"

/-- The rows of an enumeration table: the literals in order, with ordinals from zero. -/
def enumerationRows (table : Entity) : String :=
  match enumerationColumns? table with
  | none => ""
  | some (key, value) =>
    "\n" ++ Text.concat (table.enumItems.mapIdx (insertRow table key value)) ++ "\n"

/-- The statements that create a table, its indexes and its rows. -/
def createTable (table : Entity) : String :=
  "CREATE TABLE IF NOT EXISTS " ++ table.name ++ " (\n"
    ++ ",\n".intercalate (table.fields.map columnDefinition)
    ++ (if (uniqueColumns table).isEmpty then "" else uniqueConstraint (uniqueColumns table))
    ++ Text.concat (table.foreignKeys.map foreignKeyConstraint)
    ++ Text.concat (table.uniqueGroups.map uniqueConstraint)
    ++ "\n);\n\n"
    ++ Text.concat ((table.fields.filter (·.indexed)).map (createIndex table))
    ++ enumerationRows table

/-- The statement that drops a table. -/
def dropTable (table : Entity) : String :=
  "DROP TABLE IF EXISTS " ++ table.name ++ ";"

/-- The statement that drops a view. -/
def dropView (view : Entity) : String :=
  "DROP VIEW IF EXISTS " ++ view.name ++ ";"

/-- The statements that drop the views and tables of a database, in reverse order. -/
def drops (d : Database) : String :=
  Text.concat (d.views.reverse.map fun view => dropView view ++ "\n")
    ++ Text.concat (d.tables.reverse.map fun table => dropTable table ++ "\n") ++ "\n"

/-- The statements that create the tables of a database, after those that drop them if asked. -/
def createDatabase (d : Database) (withDrops : Bool) : String :=
  (if withDrops then drops d else "") ++ Text.concat (d.tables.map createTable)

end Sql

end SchemaForge
