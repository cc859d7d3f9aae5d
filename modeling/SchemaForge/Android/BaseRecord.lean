import SchemaForge.Android.Library
import SchemaForge.Android.Property
import SchemaForge.Android.Resolved

namespace SchemaForge

/-! # Base records

The class with the properties of an entity and the functions that carry them to and from the
database. The parameters of a statement are numbered from one in the order of the written columns;
the key of the row to update comes behind them.
-/

namespace Resolved

/-! ## Bodies -/

/-- The reference to the constant with the name of a column. -/
def columnReference (r : Resolved) (c : Column) : String :=
  r.reference c.constant

/-- Puts the written columns into content values. -/
def putContent (r : Resolved) (l : Language) : String :=
  Text.concat (r.written.map fun c =>
    l.line ("values.put(" ++ r.columnReference c ++ ", " ++ c.storedValue l ++ ")"))

/-- The database value of a column; the one of an automatic key is the key itself. -/
def arrayItem (l : Language) (c : Column) : String :=
  if c.isAutomatic then c.variableName else c.storedValue l

/-- Gives the database values of all columns. -/
def valuesBody (r : Resolved) (l : Language) : String :=
  let items := ",\n".intercalate (r.columns.map fun c => "\t" ++ arrayItem l c)
  match l with
  | .kotlin => "return arrayOf(\n" ++ items ++ ")\n"
  | .java => "Object[] values = new Object[]\x7b\n" ++ items ++ "\n\x7d;\nreturn values;"

/-- Gives a value to a property of a copy. -/
def copyColumn (l : Language) (c : Column) : String :=
  match l with
  | .kotlin => l.line ("copy." ++ c.variableName ++ " = " ++ c.copied)
  | .java => l.line ("copy." ++ (c.javaVariable false).setterName ++ "(" ++ c.variableName ++ ")")

/-- Makes a copy of the record. -/
def copyBody (r : Resolved) (l : Language) : String :=
  let declaration := match l with
    | .kotlin => "val copy"
    | .java => r.className ++ " copy"
  l.line (declaration ++ " = " ++ l.creation ++ r.className ++ "()")
    ++ Text.concat (r.columns.map (copyColumn l)) ++ "return copy" ++ l.terminator

/-- What binds the written columns to the parameters of a statement. -/
def bindings (r : Resolved) (l : Language) : List Binding :=
  r.written.mapIdx fun i c => c.binding l (i + 1)

/-- What binds the key of the row to update. -/
def keyBindings (r : Resolved) : List Binding :=
  r.key?.toList.map fun key => .value "bindLong" (r.written.length + 1) key.variableName

/-- Binds the parameters of the statement that inserts a row. -/
def insertBody (r : Resolved) (l : Language) : String :=
  Text.concat ((r.bindings l).map (·.render l))

/-- Binds the parameters of the statement that updates a row. -/
def updateBody (r : Resolved) (l : Language) : String :=
  Text.concat ((r.bindings l ++ r.keyBindings).map (·.render l))

/-- Takes the written columns out of content values. -/
def takeValues (r : Resolved) (l : Language) : String :=
  Text.concat (r.written.map fun c =>
    l.line (c.variableName ++ " = " ++ c.fromValues l (r.columnReference c)))

/-- Takes all columns out of a cursor. -/
def takeCursor (r : Resolved) (l : Language) : String :=
  Text.concat (r.columns.map fun c =>
    l.line (c.variableName ++ " = " ++ c.fromCursor l (r.columnReference c)))

/-- Gives a copy of an array of constants. -/
def cloneBody (r : Resolved) (l : Language) (constant : String) : String :=
  "return " ++ r.reference constant ++ ".clone()" ++ l.terminator

/-- Gives the name of the key column. -/
def keyColumnBody (r : Resolved) (l : Language) : String :=
  match r.key? with
  | some key => "return " ++ r.columnReference key ++ l.terminator
  | none => "return \"" ++ noKey ++ "\"" ++ l.terminator

/-- Gives the key. -/
def keyBody (r : Resolved) (l : Language) : String :=
  match r.key? with
  | some key => "return " ++ key.variableName ++ l.terminator
  | none => "return 0" ++ l.terminator

/-- Sets the key to `id`, which is of type `long` in Java. -/
def setKeyBody (r : Resolved) (l : Language) : String :=
  match r.key?, l with
  | none, _ => "// " ++ noKey
  | some key, .kotlin => "this." ++ key.variableName ++ " = id"
  | some key, .java =>
    "this." ++ key.variableName ++ " = "
      ++ (if key.typeName .java = "long" then "id" else "(" ++ key.typeName .java ++ ") id") ++ ";"

/-- The classes that a base record refers to. -/
def recordImports : List String :=
  [Library.baseRecord, Library.statement, Library.contentValues, Library.cursor]

/-! ## Kotlin -/

/-- The type of the key in Kotlin. -/
def kotlinKeyType (r : Resolved) : String :=
  match r.key? with
  | some key => key.kotlinType
  | none => "Long"

/-- The functions of a base record in Kotlin. -/
def kotlinRecordFunctions (r : Resolved) : List KotlinFunction :=
  [{ name := "getIdColumnName", result := "String", overrides := true
     content := r.keyColumnBody .kotlin },
    { name := "getPrimaryKeyId", result := r.kotlinKeyType, overrides := true
      content := r.keyBody .kotlin },
    { name := "setPrimaryKeyId", overrides := true, parameters := [.parameter "id" r.kotlinKeyType]
      content := r.setKeyBody .kotlin },
    { name := "getAllColumns", result := "Array<String>", overrides := true
      content := r.cloneBody .kotlin "ALL_COLUMNS" },
    { name := "getAllColumnsFull", result := "Array<String>"
      content := r.cloneBody .kotlin "ALL_COLUMNS_FULL" },
    { name := "getContentValues", overrides := true
      parameters := [.parameter "values" "DBToolsContentValues<*>"], content := r.putContent .kotlin },
    { name := "getValues", result := "Array<Any?>", overrides := true
      content := r.valuesBody .kotlin },
    { name := "copy", result := r.className, content := r.copyBody .kotlin },
    { name := "bindInsertStatement", overrides := true
      parameters := [.parameter "statement" "StatementWrapper"], content := r.insertBody .kotlin },
    { name := "bindUpdateStatement", overrides := true
      parameters := [.parameter "statement" "StatementWrapper"], content := r.updateBody .kotlin },
    { name := "setContent", overrides := true
      parameters := [.parameter "values" "DBToolsContentValues<*>"], content := r.takeValues .kotlin },
    { name := "setContent", overrides := true, parameters := [.parameter "cursor" "Cursor"]
      content := r.takeCursor .kotlin },
    { name := "isNewRecord", result := "Boolean", overrides := true
      content := "return primaryKeyId <= 0" }]

/-- The base record in Kotlin. -/
def kotlinBaseRecord (r : Resolved) : KotlinClass :=
  { name := r.baseRecordName, package := r.package, isAbstract := true
    parent := "AndroidBaseRecord()", fileHeader := generatedHeader (r.baseRecordName ++ ".kt")
    annotations := [Library.quiet], imports := Code.imports (recordImports ++ r.enumImports)
    enums := r.nestedEnums.map fun e => { name := e.1, values := e.2 }
    properties := r.columns.map (·.kotlinProperty), functions := r.kotlinRecordFunctions }

/-! ## Java -/

/-- A public method that overrides one of the runtime. -/
def overriding (name result : String) (parameters : List JavaVariable) (content : String) :
    JavaMethod :=
  { name, result, parameters, content, annotations := [JavaMethod.overrideMark] }

/-- The methods of a base record in Java. -/
def javaRecordMethods (r : Resolved) : List JavaMethod :=
  let values : JavaVariable := { name := "values", type := "DBToolsContentValues<?>" }
  let statement : JavaVariable := { name := "statement", type := "StatementWrapper" }
  [overriding "getIdColumnName" "String" [] (r.keyColumnBody .java),
    overriding "getPrimaryKeyId" "long" [] (r.keyBody .java),
    overriding "setPrimaryKeyId" "void" [{ name := "id", type := "long" }] (r.setKeyBody .java),
    overriding "getAllColumns" "String[]" [] (r.cloneBody .java "ALL_COLUMNS"),
    { name := "getAllColumnsFull", result := "String[]"
      content := r.cloneBody .java "ALL_COLUMNS_FULL" },
    overriding "getContentValues" "void" [values] (r.putContent .java),
    overriding "getValues" "Object[]" [] (r.valuesBody .java),
    { name := "copy", result := r.className, content := r.copyBody .java },
    overriding "bindInsertStatement" "void" [statement] (r.insertBody .java),
    overriding "bindUpdateStatement" "void" [statement] (r.updateBody .java),
    overriding "setContent" "void" [values] (r.takeValues .java),
    overriding "setContent" "void" [{ name := "cursor", type := "Cursor" }] (r.takeCursor .java),
    overriding "isNewRecord" "boolean" [] "return getPrimaryKeyId() <= 0;"]

/-- The imports of the annotations for null. -/
def nullImports (r : Resolved) : List String :=
  if r.options.nullAnnotations then ["javax.annotation.Nonnull", "javax.annotation.Nullable"] else []

/-- The base record in Java. -/
def javaBaseRecord (r : Resolved) : JavaClass :=
  { name := r.baseRecordName, package := r.package, isAbstract := true
    parent := "AndroidBaseRecord", fileHeader := generatedHeader (r.baseRecordName ++ ".java")
    annotations := [Library.quiet]
    imports := Code.imports (recordImports ++ r.nullImports ++ r.enumImports)
    enums := r.nestedEnums.map fun e => { name := e.1, values := e.2 }
    fields := r.columns.map (·.javaVariable r.options.nullAnnotations)
    methods := r.javaRecordMethods }

end Resolved

end SchemaForge
