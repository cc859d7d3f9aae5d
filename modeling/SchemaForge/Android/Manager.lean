import SchemaForge.Android.Library
import SchemaForge.Android.Resolved
import SchemaForge.Code.JavaClass
import SchemaForge.Code.KotlinClass

namespace SchemaForge

/-! # Managers

The class that reads and writes the records of an entity. Its base is generated and knows the
statements of the entity; the manager itself is edited by hand.
-/

/-- The expressions for the key column and for the statements that drop, create, insert and
update. -/
structure ManagerSql where
  key : String
  drop : String := "\"\""
  create : String := "\"\""
  insert : String := "\"\""
  update : String := "\"\""
deriving DecidableEq, Repr

namespace Resolved

/-- The class of the runtime that a manager extends: one that writes only for entities that are
written. -/
def managerParent (r : Resolved) : String :=
  let language := match r.language with
    | .kotlin => "Kotlin"
    | .java => ""
  (if r.options.reactive then "Rx" else "") ++ language ++ "AndroidBaseManager"
    ++ (if r.entity.isReadOnly then "ReadOnly" else "Writable")

/-- The class of the databases, for which every manager works. -/
def managerImport (r : Resolved) : String :=
  r.run.package ++ ".DatabaseManager"

/-- The key column of an entity that cannot have one. -/
def missingKey (l : Language) (kinds : String) : String :=
  match l with
  | .kotlin => "\"<NO_PRIMARY_KEY_ON_" ++ kinds ++ ">\""
  | .java => "null"

/-- The expressions of an entity. A record declares the statements of a view. -/
def managerSql (r : Resolved) : ManagerSql :=
  match r.entity.kind with
  | .table =>
    { key := if r.key?.isSome then r.reference "PRIMARY_KEY_COLUMN" else "\"" ++ noKey ++ "\""
      drop := r.reference "DROP_TABLE", create := r.reference "CREATE_TABLE"
      insert := r.reference "INSERT_STATEMENT", update := r.reference "UPDATE_STATEMENT" }
  | .view =>
    { key := missingKey r.language "VIEWS", drop := r.className ++ ".DROP_VIEW"
      create := r.className ++ ".CREATE_VIEW" }
  | .query => { key := missingKey r.language "QUERIES" }

/-- Whether the entity is a query, whose statement stands in the place of a table. -/
def isQuery (r : Resolved) : Bool :=
  r.entity.kind == .query

/-! ## Kotlin -/

/-- A function that gives a text which is never null. -/
def kotlinTextGetter (r : Resolved) (name expression : String) : KotlinFunction :=
  { name, result := "String", overrides := true, content := "return " ++ expression
    annotations := if r.options.nullAnnotations then ["@Nonnull"] else [] }

/-- The functions of the base manager in Kotlin. -/
def kotlinManagerFunctions (r : Resolved) : List KotlinFunction :=
  [r.kotlinTextGetter "getDatabaseName" (r.reference "DATABASE"),
    { name := "newRecord", result := r.className, overrides := true
      content := "return " ++ r.className ++ "()" }]
    ++ (if r.isQuery then
        [{ name := "getQuery", result := "String", isAbstract := true },
          r.kotlinTextGetter "getTableName" "getQuery()"]
      else [r.kotlinTextGetter "getTableName" (r.reference "TABLE")])

/-- The properties of the base manager in Kotlin. -/
def kotlinManagerProperties (r : Resolved) : List KotlinProperty :=
  let sql := r.managerSql
  let text (name value : String) : KotlinProperty :=
    { name, type := "String", value, overrides := true }
  [{ name := "allColumns", type := "Array<String>", value := r.reference "ALL_COLUMNS"
     overrides := true },
    text "primaryKey" sql.key, text "dropSql" sql.drop, text "createSql" sql.create,
    text "insertSql" sql.insert, text "updateSql" sql.update]

/-- The base manager in Kotlin. -/
def kotlinBaseManager (r : Resolved) : KotlinClass :=
  { name := r.baseManagerName, package := r.package, isAbstract := true
    primaryConstructor := "(databaseManager: DatabaseManager)"
    parent := r.managerParent ++ "<" ++ r.className ++ ">(databaseManager)"
    fileHeader := generatedHeader (r.baseManagerName ++ ".kt")
    annotations := ["@Suppress(\"unused\")", Library.quiet]
    imports := Code.imports ([r.managerImport, Library.domain ++ "." ++ r.managerParent]
      ++ if r.options.nullAnnotations then ["javax.annotation.Nonnull"] else [])
    properties := r.kotlinManagerProperties, functions := r.kotlinManagerFunctions }

/-- The manager in Kotlin. -/
def kotlinManager (r : Resolved) : KotlinClass :=
  let injected := r.options.injection
  { name := r.managerName, package := r.package, parent := r.baseManagerName
    fileHeader := editableHeader (r.managerName ++ ".kt") r.run.created
    annotations := if injected then ["@javax.inject.Singleton"] else []
    imports := Code.imports [r.managerImport]
    constructors :=
      [{ isConstructor := true, parameters := [.parameter "databaseManager" "DatabaseManager"]
         delegate := "super(databaseManager)"
         annotations := if injected then ["@javax.inject.Inject"] else [] }]
    functions :=
      if r.isQuery then
        [{ name := "getQuery", result := "String", overrides := true
           content := "return " ++ r.className ++ ".QUERY" }]
      else [] }

/-! ## Java -/

/-- The mark of a reference that is never null, where the options ask for it. -/
def nonnull? (r : Resolved) : Option Nullability :=
  if r.options.nullAnnotations then some .never else none

/-- A method that gives a value which is never null. -/
def javaGetter (r : Resolved) (name result expression : String) : JavaMethod :=
  { name, result, content := "return " ++ expression ++ ";", nullability? := r.nonnull? }

/-- A method that gives something of the database with a name. -/
def javaNamedGetter (r : Resolved) (name result expression : String) : JavaMethod :=
  (r.javaGetter name result expression).addParameter
    { name := "databaseName", type := "String", nullability? := r.nonnull? }

/-- The two methods that give a database which can be read or written: the one with a name, and the
one of the entity. -/
def javaDatabaseGetters (r : Resolved) (access : String) : List JavaMethod :=
  let name := "get" ++ access ++ "Database"
  [r.javaNamedGetter name "DatabaseWrapper" ("databaseManager." ++ name ++ "(databaseName)"),
    r.javaGetter name "DatabaseWrapper" ("databaseManager." ++ name ++ "(getDatabaseName())")]

/-- The methods that give the statement of a query. -/
def javaQueryMethods (r : Resolved) : List JavaMethod :=
  if r.isQuery then
    [{ name := "getQuery", result := "String", isAbstract := true },
      r.javaGetter "getTableName" "String" "getQuery()"]
  else []

/-- The methods of the base manager in Java. -/
def javaManagerMethods (r : Resolved) : List JavaMethod :=
  let sql := r.managerSql
  [r.javaGetter "getDatabaseName" "String" (r.reference "DATABASE"),
    r.javaGetter "newRecord" r.className ("new " ++ r.className ++ "()")]
    ++ (if r.isQuery then [] else [r.javaGetter "getTableName" "String" (r.reference "TABLE")])
    ++ [r.javaGetter "getAllColumns" "String[]" (r.reference "ALL_COLUMNS")]
    ++ r.javaDatabaseGetters "Readable" ++ r.javaDatabaseGetters "Writable"
    ++ [r.javaNamedGetter "getAndroidDatabase" (Library.domain ++ ".AndroidDatabase")
          "databaseManager.getDatabase(databaseName)",
        { name := "getDatabaseConfig", result := Library.domain ++ ".config.DatabaseConfig"
          content := "return databaseManager.getDatabaseConfig();" }]
    ++ r.javaQueryMethods
    ++ [r.javaGetter "getPrimaryKey" "String" sql.key, r.javaGetter "getDropSql" "String" sql.drop,
        r.javaGetter "getCreateSql" "String" sql.create,
        r.javaGetter "getInsertSql" "String" sql.insert,
        r.javaGetter "getUpdateSql" "String" sql.update]

/-- The base manager in Java. -/
def javaBaseManager (r : Resolved) : JavaClass :=
  { name := r.baseManagerName, package := r.package, isAbstract := true
    parent := r.managerParent ++ "<" ++ r.className ++ ">"
    fileHeader := generatedHeader (r.baseManagerName ++ ".java"), annotations := [Library.quiet]
    imports := Code.imports ([r.managerImport, "org.dbtools.android.domain.database.DatabaseWrapper",
        Library.domain ++ "." ++ r.managerParent]
      ++ if r.options.nullAnnotations then ["javax.annotation.Nonnull"] else [])
    fields := [{ name := "databaseManager", type := "DatabaseManager" }]
    constructors :=
      [{ name := r.baseManagerName, isConstructor := true
         parameters := [{ name := "databaseManager", type := "DatabaseManager" }]
         content := "this.databaseManager = databaseManager;" }]
    methods := r.javaManagerMethods }

/-- The manager in Java. -/
def javaManager (r : Resolved) : JavaClass :=
  let injected := r.options.injection
  { name := r.managerName, package := r.package, parent := r.baseManagerName
    fileHeader := editableHeader (r.managerName ++ ".java") r.run.created
    annotations := if injected then ["@javax.inject.Singleton"] else []
    imports := Code.imports [r.managerImport]
    constructors :=
      [{ name := r.managerName, isConstructor := true
         parameters := [{ name := "databaseManager", type := "DatabaseManager" }]
         content := "super(databaseManager);"
         annotations := if injected then ["@javax.inject.Inject"] else [] }]
    methods :=
      if r.isQuery then
        [{ name := "getQuery", result := "String", content := "return " ++ r.className ++ ".QUERY;"
           annotations := [JavaMethod.overrideMark] }]
      else [] }

end Resolved

end SchemaForge
