import SchemaForge.Android.Library
import SchemaForge.Android.Scope
import SchemaForge.Code.Annotation

namespace SchemaForge

/-! # Creation and upgrade of databases

What the classes for all databases do: create the tables of a database and its views, drop the
views, and tell a database by its name. Tables whose rows are literals come before the tables that
may refer to them.
-/

namespace Database

/-- The name of a database without its dots. -/
def plainName (d : Database) : String :=
  Text.removeChar '.' d.name

/-- The constant that holds the name of the database. -/
def nameConstant (d : Database) : String :=
  Naming.constantName d.plainName ++ "_DATABASE_NAME"

/-- The name of the database as a part of names of functions. -/
def functionPart (d : Database) : String :=
  Naming.className d.plainName

/-- The constant that holds a version of the database, that of its tables or that of its views. -/
def versionConstant (l : Language) (d : Database) (part : String) : String :=
  let name := Naming.variableName d.plainName ++ part
  match l with
  | .kotlin => name
  | .java => Naming.constantName name

/-- The constant for the version of the tables. -/
def tablesVersion (l : Language) (d : Database) : String :=
  d.versionConstant l "TablesVersion"

/-- The constant for the version of the views. -/
def viewsVersion (l : Language) (d : Database) : String :=
  d.versionConstant l "ViewsVersion"

/-- The entities that have a manager. -/
def managed (d : Database) : List Entity :=
  d.entities.filter (!·.isEnumeration)

end Database

/-- A function of the class that creates databases. Its parameter is the database. -/
structure DatabaseFunction where
  name : String
  content : String
deriving DecidableEq, Repr

namespace Lifecycle

/-- The class of the databases' names. -/
def constantsName : String :=
  "DatabaseManagerConst"

/-- The reference to the name of a database. -/
def nameReference (d : Database) : String :=
  constantsName ++ "." ++ d.nameConstant

/-- The database of a function, as its name. -/
def currentName : Language → String
  | .kotlin => "androidDatabase.name"
  | .java => "androidDatabase.getName()"

/-! ## Functions for one database -/

/-- Does something in a transaction. -/
def transaction (l : Language) (body : String) : String :=
  (match l with
    | .kotlin => l.line "val database = androidDatabase.databaseWrapper"
    | .java => l.line "DatabaseWrapper database = androidDatabase.getDatabaseWrapper()")
    ++ l.line "database.beginTransaction()" ++ body ++ "\n"
    ++ l.line "database.setTransactionSuccessful()" ++ l.line "database.endTransaction()"

/-- Creates a table. -/
def createTable (run : Run) (l : Language) (d : Database) (table : Entity) : String :=
  l.line ("AndroidBaseManager.createTable(database, " ++ (Scope.mk run d table).fullName
    ++ "Const.CREATE_TABLE)")

/-- Creates a view. -/
def createView (run : Run) (l : Language) (d : Database) (view : Entity) : String :=
  l.line ("AndroidBaseManager.createTable(database, " ++ (Scope.mk run d view).fullName
    ++ ".CREATE_VIEW)")

/-- Drops a view. -/
def dropView (run : Run) (l : Language) (d : Database) (view : Entity) : String :=
  l.line ("AndroidBaseManager.dropTable(database, " ++ (Scope.mk run d view).fullName
    ++ ".DROP_VIEW)")

/-- The function that creates the tables of a database. -/
def tablesFunction (run : Run) (l : Language) (d : Database) : DatabaseFunction :=
  { name := "create" ++ d.functionPart ++ "Tables"
    content := transaction l
      ("\n// Enum Tables\n" ++ Text.concat (d.enumerationTables.map (createTable run l d))
        ++ "\n// Tables\n"
        ++ Text.concat ((d.tables.filter (!·.isEnumeration)).map (createTable run l d))) }

/-- The function that creates the views of a database. -/
def createViewsFunction (run : Run) (l : Language) (d : Database) : DatabaseFunction :=
  { name := "create" ++ d.functionPart ++ "Views"
    content := transaction l ("\n// Views\n" ++ Text.concat (d.views.map (createView run l d))) }

/-- The function that drops the views of a database. -/
def dropViewsFunction (run : Run) (l : Language) (d : Database) : DatabaseFunction :=
  { name := "drop" ++ d.functionPart ++ "Views"
    content := transaction l ("\n// Views\n" ++ Text.concat (d.views.map (dropView run l d))) }

/-- The functions of a database. -/
def functionsOf (run : Run) (l : Language) (d : Database) : List DatabaseFunction :=
  tablesFunction run l d
    :: if d.views.isEmpty then [] else [createViewsFunction run l d, dropViewsFunction run l d]

/-! ## Functions for all databases -/

/-- Calls a function if the database is this one. -/
def dispatch (l : Language) (d : Database) (function : DatabaseFunction) : String :=
  "if (" ++ (match l with
    | .kotlin => currentName l ++ " == " ++ nameReference d
    | .java => currentName l ++ ".equals(" ++ nameReference d ++ ")")
    ++ ") \x7b\n\t" ++ l.line (function.name ++ "(androidDatabase)") ++ "\x7d\n"

/-- Reports what is done with the database. -/
def report (l : Language) (action : String) : String :=
  l.line ("getLogger().i(TAG, \"" ++ action ++ ": " ++ match l with
    | .kotlin => "$\x7b" ++ currentName l ++ "\x7d\")"
    | .java => "\" + " ++ currentName l ++ ")")

/-- The databases that have views. -/
def withViews (s : Schema) : List Database :=
  s.databases.filter (!·.views.isEmpty)

/-- What is done when a database is created, when its views are, and when its views are dropped. -/
def eventFunctions (run : Run) (l : Language) (s : Schema) : List DatabaseFunction :=
  [{ name := "onCreate"
     content := report l "Creating database"
       ++ Text.concat (s.databases.map fun d => dispatch l d (tablesFunction run l d)) },
    { name := "onCreateViews"
      content := report l "Creating database views"
        ++ Text.concat ((withViews s).map fun d => dispatch l d (createViewsFunction run l d)) },
    { name := "onDropViews"
      content := report l "Dropping database views"
        ++ Text.concat ((withViews s).map fun d => dispatch l d (dropViewsFunction run l d)) }]

/-- Makes a database known with its versions. -/
def identify (l : Language) (d : Database) : String :=
  l.line ("databaseManager.addDatabase(application, " ++ nameReference d ++ ", DatabaseManager."
    ++ d.tablesVersion l ++ ", DatabaseManager." ++ d.viewsVersion l ++ ")")

/-! ## Holders -/

/-- The class that holds the managers of a database. -/
def holderName (d : Database) : String :=
  d.functionPart ++ "DatabaseManagers"

/-- The managers of a database: the scope of each and the variable that holds it. -/
def heldManagers (run : Run) (d : Database) : List (Scope × String) :=
  d.managed.map fun e =>
    let scope := Scope.mk run d e
    (scope, Naming.variableName scope.managerName)

/-- The imports of a holder. -/
def holderImports (run : Run) (d : Database) : List String :=
  Code.imports ((run.package ++ ".DatabaseManager")
    :: (heldManagers run d).map fun m => m.1.package ++ "." ++ m.1.managerName)

/-- Makes all managers of a database. -/
def holderInit (run : Run) (l : Language) (d : Database) : String :=
  Text.concat ((heldManagers run d).map fun m =>
    l.line (m.2 ++ " = " ++ l.creation ++ m.1.managerName ++ "(databaseManager)"))

/-! ## Imports -/

/-- Classes in the package that records and managers build on. -/
def domain (names : List String) : List String :=
  names.map (Library.domain ++ "." ++ ·)

/-- What the class that creates databases refers to in both languages. -/
def creationImports : List String :=
  domain ["AndroidDatabase", "AndroidBaseManager", "AndroidDatabaseManager", "config.DatabaseConfig"]

/-- What the class that identifies the databases refers to. -/
def configImports : List String :=
  "android.app.Application" :: domain
    ["config.DatabaseConfig", "AndroidDatabase", "AndroidDatabaseBaseManager",
      "database.DatabaseWrapper", "database.AndroidDatabaseWrapper",
      "database.contentvalues.AndroidDBToolsContentValues",
      "database.contentvalues.DBToolsContentValues", "log.DBToolsAndroidLogger", "log.DBToolsLogger"]

/-- The imports of the annotations for injection, where the options ask for it. -/
def injectionImports (run : Run) : List String :=
  if run.options.injection then ["javax.inject.Inject", "javax.inject.Singleton"] else []

end Lifecycle

end SchemaForge
