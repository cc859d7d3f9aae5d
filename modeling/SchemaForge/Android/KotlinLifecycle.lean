import SchemaForge.Android.Lifecycle
import SchemaForge.Code.KotlinClass

namespace SchemaForge

/-! # Kotlin classes for all databases -/

namespace Lifecycle

/-- The functions that take a database. -/
def kotlinFunction (overrides : Bool) (f : DatabaseFunction) : KotlinFunction :=
  { name := f.name, content := f.content, overrides
    parameters := [.parameter "androidDatabase" "AndroidDatabase"] }

/-- The class that creates databases in Kotlin. -/
def kotlinCreation (run : Run) (s : Schema) : KotlinClass :=
  { name := "DatabaseBaseManager", package := run.package, isAbstract := true
    parent := "AndroidDatabaseManager", fileHeader := generatedHeader "DatabaseBaseManager.kt"
    annotations := [Library.quiet], imports := Code.imports creationImports
    constructors :=
      [{ isConstructor := true, parameters := [.parameter "databaseConfig" "DatabaseConfig"]
         delegate := "super(databaseConfig)" }]
    functions := (eventFunctions run .kotlin s).map (kotlinFunction true)
      ++ (s.databases.flatMap (functionsOf run .kotlin)).map (kotlinFunction false) }

/-- The names of the databases in Kotlin. -/
def kotlinNames (run : Run) (s : Schema) : KotlinClass :=
  { name := constantsName, package := run.package, kind := .object
    fileHeader := generatedHeader (constantsName ++ ".kt"), annotations := [Library.quiet]
    constants := s.databases.map fun d => .constant d.nameConstant (Literal.quote .kotlin d.name) }

/-- A function that upgrades a database in Kotlin. -/
def kotlinUpgrade (name content : String) : KotlinFunction :=
  { name, content, overrides := true
    parameters := [.parameter "androidDatabase" "AndroidDatabase", .parameter "oldVersion" "Int",
      .parameter "newVersion" "Int"] }

/-- The class that upgrades databases in Kotlin, which is edited by hand. -/
def kotlinUpgrades (run : Run) (s : Schema) : KotlinClass :=
  let injected := run.options.injection
  let report (part : String) :=
    "getLogger().i(TAG, \"Upgrading database [$\x7bandroidDatabase.name\x7d]" ++ part
      ++ " from version $oldVersion to $newVersion\")"
  { name := "DatabaseManager", package := run.package, parent := "DatabaseBaseManager"
    fileHeader := editableHeader "DatabaseManager.kt" run.created
    annotations := if injected then ["@Singleton"] else []
    imports := Code.imports (domain ["config.DatabaseConfig", "AndroidDatabase"]
      ++ injectionImports run)
    constructors :=
      [{ isConstructor := true, parameters := [.parameter "databaseConfig" "DatabaseConfig"]
         delegate := "super(databaseConfig)"
         annotations := if injected then ["@Inject"] else [] }]
    constants := s.databases.flatMap fun d =>
      [.constant (d.tablesVersion .kotlin) "1", .constant (d.viewsVersion .kotlin) "1"]
    functions :=
      [kotlinUpgrade "onUpgrade" (report ""),
        kotlinUpgrade "onUpgradeViews" (report " VIEWS" ++ "\n// automatically drop/create views\n"
          ++ "super.onUpgradeViews(androidDatabase, oldVersion, newVersion)")] }

/-- The class that identifies the databases in Kotlin, which is edited by hand. -/
def kotlinConfig (run : Run) (s : Schema) : KotlinClass :=
  { name := "AppDatabaseConfig", package := run.package
    primaryConstructor := "(val application: Application)", interfaces := ["DatabaseConfig"]
    fileHeader := editableHeader "AppDatabaseConfig.kt" run.created
    imports := Code.imports configImports
    functions :=
      [{ name := "identifyDatabases", overrides := true
         parameters := [.parameter "databaseManager" "AndroidDatabaseBaseManager"]
         content := Text.concat (s.databases.map (identify .kotlin)) },
        { name := "createNewDatabaseWrapper", result := "DatabaseWrapper<*, *>", overrides := true
          parameters := [.parameter "androidDatabase" "AndroidDatabase"]
          content := "return AndroidDatabaseWrapper(androidDatabase.path)" },
        { name := "createNewDBToolsContentValues", result := "DBToolsContentValues<*>"
          overrides := true, content := "return AndroidDBToolsContentValues()" },
        { name := "createNewDBToolsLogger", result := "DBToolsLogger", overrides := true
          content := "return DBToolsAndroidLogger()" }] }

/-- The object that holds the managers of a database in Kotlin. -/
def kotlinHolder (run : Run) (d : Database) : KotlinClass :=
  { name := holderName d, package := run.packageOf d, kind := .object
    fileHeader := generatedHeader (holderName d ++ ".kt"), annotations := [Library.quiet]
    imports := holderImports run d
    properties := (heldManagers run d).map fun m =>
      { name := m.2, type := m.1.managerName, mutable := true, isLate := true, privateSetter := true }
    functions :=
      [{ name := "init", parameters := [.parameter "databaseManager" "DatabaseManager"]
         content := holderInit run .kotlin d }] }

end Lifecycle

end SchemaForge
