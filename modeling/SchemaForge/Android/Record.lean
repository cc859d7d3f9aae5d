import SchemaForge.Android.Library
import SchemaForge.Android.Resolved
import SchemaForge.Code.JavaClass
import SchemaForge.Code.KotlinClass

namespace SchemaForge

/-! # Records

The class of an entity's records, which is edited by hand. The records of views and queries begin
with a template of the statement behind them, which names every column under its constant.
-/

/-- The statements that a record declares. -/
structure SqlTemplate where
  /-- The comment above the class. -/
  comment : String := ""
  /-- Names and expressions; one that is blank is set by the initialisation. -/
  constants : List (String × String) := []
  /-- The block that sets a constant. -/
  init : String := ""
  imports : List String := []
deriving DecidableEq, Repr

namespace Resolved

/-- A column with its table, and the column alone, as references to their constants. -/
def columnPair (r : Resolved) (c : Column) : String × String :=
  (r.reference c.fullConstant, r.reference c.constant)

/-- The expression for the list of all columns. -/
def selection (r : Resolved) : String :=
  " + \", \" + ".intercalate (r.columns.map fun c =>
    (r.columnPair c).1 ++ " + \" AS \" + " ++ (r.columnPair c).2)

/-- The calls that give all columns to a query builder. -/
def builderFields (r : Resolved) : String :=
  Text.concat (r.columns.map fun c =>
    "\t.field(" ++ (r.columnPair c).1 ++ ", " ++ (r.columnPair c).2 ++ ")\n")

/-- The advice to keep the names of the columns. -/
def keepAdvice (r : Resolved) : String :=
  "// SUGGESTION: Keep the \" AS " ++ r.reference "<columnname>" ++ "\" portion of the sql"

/-- The template of a view. -/
def viewTemplate (r : Resolved) (l : Language) : SqlTemplate :=
  let table := r.reference "TABLE"
  let drop := ("DROP_VIEW", "\"DROP VIEW IF EXISTS \" + " ++ table)
  let create := "\"CREATE VIEW IF NOT EXISTS \" + " ++ table
  let comment :=
    "// Replace the following CREATE_VIEW sql (the following is a template suggestion for your view)\n"
      ++ r.keepAdvice
  if r.options.queryBuilder then
    { comment, constants := [drop, ("CREATE_VIEW", "")], imports := [Library.queryBuilder]
      init := "CREATE_VIEW = " ++ create ++ " + \" AS \" +\n\t" ++ l.creation ++ "SQLQueryBuilder()\n"
        ++ r.builderFields ++ "\t.table(" ++ table ++ ")\n\t.buildQuery()" ++ l.terminator }
  else
    { comment
      constants := [drop, ("CREATE_VIEW", create ++ " + \" AS SELECT \" + " ++ r.selection
        ++ " + \" FROM \" + " ++ table)] }

/-- The template of a query. -/
def queryTemplate (r : Resolved) (l : Language) : SqlTemplate :=
  let raw := ("QUERY_RAW", "\"SELECT * FROM \" + QUERY")
  let advice :=
    "// Replace the following QUERY sql (the following is a template suggestion for your query)\n"
  if r.options.queryBuilder then
    { comment := advice
        ++ "// SUGGESTION: Keep the second parameter of each field(<replace>, <keep>)"
      constants := [("QUERY", ""), raw], imports := [Library.queryBuilder]
      init := "QUERY = " ++ l.creation ++ "SQLQueryBuilder()\n" ++ r.builderFields
        ++ "\t.table(\"SOME_TABLE\")\n\t.buildQuery()" ++ l.terminator }
  else
    { comment := advice
        ++ "// BE SURE TO KEEP THE OPENING AND CLOSING PARENTHESES (so queries can be run as "
        ++ "sub-select: select * from (select a, b from t) )\n" ++ r.keepAdvice
      constants := [("QUERY", "\"(\" + \"SELECT \" + " ++ r.selection
        ++ " + \" FROM SOME TABLE(S)\" + \")\""), raw] }

/-- The template of an entity; a table needs none. -/
def sqlTemplate (r : Resolved) (l : Language) : SqlTemplate :=
  match r.entity.kind with
  | .table => {}
  | .view => r.viewTemplate l
  | .query => r.queryTemplate l

/-! ## Classes -/

/-- The record in Kotlin. -/
def kotlinRecord (r : Resolved) : KotlinClass :=
  let template := r.sqlTemplate .kotlin
  { name := r.className, package := r.package, parent := r.baseRecordName
    fileHeader := editableHeader (r.className ++ ".kt") r.run.created
    classHeader := template.comment, staticInit := template.init
    imports := Code.imports (Library.cursor :: Library.contentValues :: template.imports)
    constants := template.constants.map fun c => { name := c.1, type := "String", value := c.2 }
    constructors :=
      [{ isConstructor := true },
        { isConstructor := true, parameters := [.parameter "cursor" "Cursor"]
          content := "setContent(cursor)" },
        { isConstructor := true, parameters := [.parameter "values" "DBToolsContentValues<*>"]
          content := "setContent(values)" }] }

/-- The record in Java. -/
def javaRecord (r : Resolved) : JavaClass :=
  let template := r.sqlTemplate .java
  let name := r.className
  { name, package := r.package, parent := r.baseRecordName
    fileHeader := editableHeader (name ++ ".java") r.run.created
    classHeader := template.comment, staticInit := template.init
    imports := Code.imports (Library.cursor :: Library.contentValues :: template.imports)
    constants := template.constants.map fun c => .constant c.1 "String" c.2
    constructors :=
      [{ name, isConstructor := true },
        { name, isConstructor := true, parameters := [{ name := "cursor", type := "Cursor" }]
          content := "setContent(cursor);" },
        { name, isConstructor := true
          parameters := [{ name := "values", type := "DBToolsContentValues<?>" }]
          content := "setContent(values);" }] }

end Resolved

end SchemaForge
